import WallClock.Calendar.Date

/-! # Calendar readings

A reading is a date and a time of day. Readings are numbered by seconds from the beginning of
1970, all days having 86400 of them; the nanoseconds count forward from the second. A leap
second is a second 59 with 10^9 nanoseconds or more: it has the number of that second. -/

namespace WallClock

structure TimeOfDay where
  hour : Nat
  minute : Nat
  second : Nat
  nanosecond : Nat
  deriving DecidableEq, Repr

/-- A reading of a clock with a calendar. -/
structure DateTime where
  date : Date
  time : TimeOfDay
  deriving DecidableEq, Repr

/-- Whether a clock can show a time; its nanoseconds reach 10^9 in a leap second only. -/
structure TimeOfDay.Valid (t : TimeOfDay) : Prop where
  hour_lt : t.hour < 24
  minute_lt : t.minute < 60
  second_lt : t.second < 60
  nanosecond_lt : t.nanosecond < if t.second = 59 then 2000000000 else 1000000000

instance (t : TimeOfDay) : Decidable t.Valid :=
  decidable_of_iff
    (t.hour < 24 ∧ t.minute < 60 ∧ t.second < 60 ∧
      t.nanosecond < if t.second = 59 then 2000000000 else 1000000000)
    ⟨fun h => ⟨h.1, h.2.1, h.2.2.1, h.2.2.2⟩, fun h => ⟨h.1, h.2, h.3, h.4⟩⟩

namespace TimeOfDay

/-- The number of whole seconds since midnight. -/
def secondOfDay (t : TimeOfDay) : Nat := 3600 * t.hour + 60 * t.minute + t.second

/-- The time a number of seconds after midnight. -/
def ofSecondOfDay (second nanosecond : Nat) : TimeOfDay :=
  ⟨second / 3600, second / 60 % 60, second % 60, nanosecond⟩

end TimeOfDay

/-- Whether a reading is of an existing day and time. -/
structure DateTime.Valid (d : DateTime) : Prop where
  date : d.date.Valid
  time : d.time.Valid

instance (d : DateTime) : Decidable d.Valid :=
  decidable_of_iff (d.date.Valid ∧ d.time.Valid) ⟨fun h => ⟨h.1, h.2⟩, fun h => ⟨h.1, h.2⟩⟩

namespace DateTime

/-- The number of a reading's second. -/
def secondNumber (d : DateTime) : Int := 86400 * d.date.dayNumber + d.time.secondOfDay

/-- The reading in the second with a number. -/
def ofSecondNumber (second : Int) (nanosecond : Nat) : DateTime :=
  ⟨Date.ofDayNumber (second / 86400), .ofSecondOfDay (second % 86400).toNat nanosecond⟩

end DateTime

namespace Calendar

def firstSecond : Int := -8334601228800

def lastSecond : Int := 8210266876799

/-- Whether the second with a number lies within the years of the calendar. -/
def Covers (second : Int) : Prop := firstSecond ≤ second ∧ second ≤ lastSecond

instance (second : Int) : Decidable (Covers second) := inferInstanceAs (Decidable (_ ∧ _))

theorem firstSecond_eq : firstSecond = 86400 * yearStart firstYear := by decide

theorem lastSecond_eq : lastSecond = 86400 * yearStart (lastYear + 1) - 1 := by decide

end Calendar
end WallClock
