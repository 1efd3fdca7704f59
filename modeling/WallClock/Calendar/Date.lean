/-! # The proleptic Gregorian calendar

Dates are numbered by days from the beginning of 1970. The leap rule holds for all years, there
is a year 0, and years before it are negative.

A year's first day comes from the number of leap days before it (`yearStart`). Going back, a day
number is split into cycles of 400, 100, 4 and 1 years (`yearOfDay`): the last day of a cycle
would count one cycle too many, which `min` prevents. Months are found by walking along the
lengths of the months of the year (`splitMonths`). -/

namespace WallClock

/-- A day of the calendar: month 1 is January, and day 1 the first of a month. -/
structure Date where
  year : Int
  month : Nat
  day : Nat
  deriving DecidableEq, Repr

namespace Calendar

/-- Whether a year has a 29th of February. -/
def IsLeap (year : Int) : Prop := year % 4 = 0 ∧ (year % 100 ≠ 0 ∨ year % 400 = 0)

instance (year : Int) : Decidable (IsLeap year) := inferInstanceAs (Decidable (_ ∧ _))

def monthLengths (year : Int) : List Nat :=
  [31, if IsLeap year then 29 else 28, 31, 30, 31, 30, 31, 31, 30, 31, 30, 31]

/-- The length of a month in days; there are no days in a month that does not exist. -/
def monthLength (year : Int) (month : Nat) : Nat :=
  if month = 0 then 0 else (monthLengths year).getD (month - 1) 0

/-- The number of days from the beginning of 1970 to the beginning of a year. -/
def yearStart (year : Int) : Int :=
  let before := year - 1
  365 * before + before / 4 - before / 100 + before / 400 - 719162

def daysBefore (year : Int) (month : Nat) : Nat :=
  ((monthLengths year).take (month - 1)).foldr (· + ·) 0

/-- The year to which a day belongs. -/
def yearOfDay (day : Int) : Int :=
  let inAge := (day + 719162) % 146097
  let century := min (inAge / 36524) 3
  let inCentury := inAge - 36524 * century
  let olympiad := inCentury / 1461
  let inOlympiad := inCentury % 1461
  let single := min (inOlympiad / 365) 3
  400 * ((day + 719162) / 146097) + 100 * century + 4 * olympiad + single + 1

/-- Passes whole months at the front of a list of month lengths: how many fit into a number of
days, and how many days remain. -/
def splitMonths : List Nat → Nat → Nat × Nat
  | [], days => (0, days)
  | length :: lengths, days =>
    if days < length then (0, days)
    else
      let (months, rest) := splitMonths lengths (days - length)
      (months + 1, rest)

def firstYear : Int := -262143

def lastYear : Int := 262142

end Calendar

namespace Date

open Calendar

/-- Whether a day exists: its year lies in the calendar, its month in the year, and its day in
the month. -/
structure Valid (d : Date) : Prop where
  firstYear_le : firstYear ≤ d.year
  le_lastYear : d.year ≤ lastYear
  one_le_month : 1 ≤ d.month
  month_le : d.month ≤ 12
  one_le_day : 1 ≤ d.day
  day_le : d.day ≤ monthLength d.year d.month

instance (d : Date) : Decidable d.Valid :=
  decidable_of_iff
    ((firstYear ≤ d.year ∧ d.year ≤ lastYear) ∧ (1 ≤ d.month ∧ d.month ≤ 12) ∧
      1 ≤ d.day ∧ d.day ≤ monthLength d.year d.month)
    ⟨fun h => ⟨h.1.1, h.1.2, h.2.1.1, h.2.1.2, h.2.2.1, h.2.2.2⟩,
      fun h => ⟨⟨h.1, h.2⟩, ⟨h.3, h.4⟩, h.5, h.6⟩⟩

/-- The number of a day, counted from the beginning of 1970. -/
def dayNumber (d : Date) : Int :=
  yearStart d.year + daysBefore d.year d.month + d.day - 1

def ofDayNumber (day : Int) : Date :=
  let year := yearOfDay day
  let (months, rest) := splitMonths (monthLengths year) (day - yearStart year).toNat
  ⟨year, months + 1, rest + 1⟩

end Date
end WallClock
