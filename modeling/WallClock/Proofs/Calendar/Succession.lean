import Mathlib.Logic.Function.Iterate
import WallClock.Proofs.Calendar.Counting
import WallClock.Proofs.Calendar.SecondNumber

/-!
# One day after another

The day after a day is the next one of its month, the first of the next month, or the first of the
next year. It has the next number (`Date.InYear.dayNumber_next`), and so going on for a number of
days adds that number (`Date.InYear.dayNumber_iterate_next`). As no two days have the same number,
a day comes a number of days after another just when their numbers are that far apart
(`Date.InYear.comesAfter_iff`). Seconds are carried over into days (`DateTime.Valid.comesAfter_iff`).
-/

namespace WallClock
namespace Date

open Calendar

/-- The day after a day. -/
def next (d : Date) : Date :=
  if d.day < monthLength d.year d.month then ⟨d.year, d.month, d.day + 1⟩
  else if d.month < 12 then ⟨d.year, d.month + 1, 1⟩
  else ⟨d.year + 1, 1, 1⟩

/-- The day `d'` comes `n` days after `d`, or `-n` days before it if `n` is negative. -/
def ComesAfter (d' : Date) (n : Int) (d : Date) : Prop := next^[n.toNat] d = next^[(-n).toNat] d'

instance (d' : Date) (n : Int) (d : Date) : Decidable (d'.ComesAfter n d) :=
  inferInstanceAs (Decidable (_ = _))

theorem one_le_monthLength (year : Int) {month : Nat} (h : 1 ≤ month) (h' : month ≤ 12) :
    1 ≤ monthLength year month := by
  have hall : ∀ n ∈ monthLengths year, 1 ≤ n := by
    unfold monthLengths
    split <;> decide
  have hlt : month - 1 < (monthLengths year).length := by
    rw [length_monthLengths]
    omega
  rw [monthLength, if_neg (by omega), List.getD_eq_getElem?_getD, List.getElem?_eq_getElem hlt,
    Option.getD_some]
  exact hall _ (List.getElem_mem hlt)

namespace InYear

variable {d d' : Date} {n : Int}

theorem next (h : d.InYear) : d.next.InYear := by
  unfold Date.next
  split
  case isTrue hday => exact ⟨h.one_le_month, h.month_le, Nat.le_add_left 1 _, hday⟩
  case isFalse =>
    split
    case isTrue hmonth =>
      have hlength := one_le_monthLength d.year (Nat.le_add_left 1 d.month) hmonth
      exact ⟨Nat.le_add_left 1 _, hmonth, Nat.le_refl 1, hlength⟩
    case isFalse =>
      have hlength := one_le_monthLength (d.year + 1) (Nat.le_refl 1) (Nat.le_add_left 1 11)
      exact ⟨Nat.le_refl 1, Nat.le_add_left 1 11, Nat.le_refl 1, hlength⟩

/-- The day after a day has the next number. -/
theorem dayNumber_next (h : d.InYear) : d.next.dayNumber = d.dayNumber + 1 := by
  have hlast := h.day_le
  have hmonths := daysBefore_succ d.year h.one_le_month
  unfold Date.next
  split
  case isTrue hday =>
    unfold dayNumber
    dsimp only
    omega
  case isFalse hday =>
    split
    case isTrue hmonth =>
      unfold dayNumber
      dsimp only
      omega
    case isFalse hmonth =>
      have hdecember : d.month = 12 := Nat.le_antisymm h.month_le (Nat.not_lt.1 hmonth)
      have hyear : daysBefore d.year (12 + 1) = yearLength d.year := foldr_monthLengths d.year
      have hjanuary : daysBefore (d.year + 1) 1 = 0 := rfl
      have hstart := yearStart_succ d.year
      rw [hdecember] at hlast hday hmonths
      unfold dayNumber
      rw [hdecember]
      dsimp only
      omega

theorem iterate_next (h : d.InYear) (k : Nat) : (Date.next^[k] d).InYear := by
  induction k with
  | zero => exact h
  | succ k ih =>
    rw [Function.iterate_succ_apply']
    exact ih.next

theorem dayNumber_iterate_next (h : d.InYear) (k : Nat) :
    (Date.next^[k] d).dayNumber = d.dayNumber + k := by
  induction k with
  | zero => exact (Int.add_zero _).symm
  | succ k ih =>
    rw [Function.iterate_succ_apply', (h.iterate_next k).dayNumber_next, ih, Int.natCast_succ,
      Int.add_assoc]

/-- Days are told apart by their numbers. -/
theorem eq_iff (h : d.InYear) (h' : d'.InYear) : d = d' ↔ d.dayNumber = d'.dayNumber := by
  refine ⟨fun heq => heq ▸ rfl, fun hnumber => ?_⟩
  rw [← h.ofDayNumber_dayNumber, ← h'.ofDayNumber_dayNumber, hnumber]

theorem comesAfter_iff (h : d.InYear) (h' : d'.InYear) :
    d'.ComesAfter n d ↔ d'.dayNumber = d.dayNumber + n := by
  unfold ComesAfter
  rw [(h.iterate_next _).eq_iff (h'.iterate_next _), h.dayNumber_iterate_next,
    h'.dayNumber_iterate_next]
  omega

end InYear

/-- There was no leap day in 1900, and there is one in year 0. -/
example : (⟨1900, 3, 1⟩ : Date).ComesAfter 1 ⟨1900, 2, 28⟩ ∧
    (⟨0, 2, 29⟩ : Date).ComesAfter (-1) ⟨0, 3, 1⟩ := by decide

end Date

namespace DateTime

/-- The reading `d'` comes a number of seconds after `d`, or before it if the number is negative:
whole days are carried over into the date. -/
structure ComesAfter (d' : DateTime) (seconds : Int) (d : DateTime) : Prop where
  date : d'.date.ComesAfter ((d.time.secondOfDay + seconds) / 86400) d.date
  secondOfDay : (d'.time.secondOfDay : Int) = (d.time.secondOfDay + seconds) % 86400

variable {d d' : DateTime} {n : Int}

theorem Valid.comesAfter_iff (h : d.Valid) (h' : d'.Valid) :
    d'.ComesAfter n d ↔ d'.secondNumber = d.secondNumber + n := by
  have hlt' := h'.time.secondOfDay_lt
  have hdate {m : Int} := h.date.inYear.comesAfter_iff h'.date.inYear (n := m)
  unfold secondNumber
  constructor
  · rintro ⟨hday, hsecond⟩
    rw [hdate] at hday
    omega
  · intro hnumber
    refine ⟨hdate.2 ?_, ?_⟩ <;> omega

/-- A number of whole days later it is the same time of day. -/
theorem ComesAfter.of_wholeDays (h : d.Valid) (h' : d'.Valid)
    (hafter : d'.ComesAfter (86400 * n) d) :
    d'.date.ComesAfter n d.date ∧ d'.time.hour = d.time.hour ∧ d'.time.minute = d.time.minute := by
  have hlt := h.time.secondOfDay_lt
  obtain ⟨hdate, hsecond⟩ := hafter
  have hdays : (d.time.secondOfDay + 86400 * n) / 86400 = n := by omega
  have hsecond : d'.time.secondOfDay = d.time.secondOfDay := by omega
  rw [hdays] at hdate
  rw [← TimeOfDay.ofSecondOfDay_secondOfDay h.time, ← TimeOfDay.ofSecondOfDay_secondOfDay h'.time,
    hsecond]
  exact ⟨hdate, rfl, rfl⟩

end DateTime
end WallClock
