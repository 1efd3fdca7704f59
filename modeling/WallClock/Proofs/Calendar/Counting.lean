import WallClock.Proofs.Calendar.DayNumber

/-!
# Counting days

The number of a day is worked out from the number of leap days before its year. Counted one by one,
the years from 1970 on have as many days, and the months of a year have as many as come before a
day of it (`Date.countedDays_eq`). A year is as long as its months together, by
`Calendar.foldr_monthLengths`.
-/

namespace WallClock
namespace Calendar

/-- The days in a number of years, from the first of them on. -/
def daysInYears (first : Int) : Nat → Nat
  | 0 => 0
  | n + 1 => daysInYears first n + yearLength (first + n)

/-- The days in a number of months, from January on. -/
def daysInMonths (year : Int) : Nat → Nat
  | 0 => 0
  | n + 1 => daysInMonths year n + monthLength year (n + 1)

theorem daysInYears_eq (first : Int) (n : Nat) :
    (daysInYears first n : Int) = yearStart (first + n) - yearStart first := by
  induction n with
  | zero =>
    rw [daysInYears, Int.natCast_zero, Int.add_zero, Int.sub_self]
  | succ n ih =>
    have hnext := yearStart_succ (first + n)
    rw [daysInYears, Int.natCast_add, ih, Int.natCast_succ, ← Int.add_assoc]
    omega

theorem daysInYears_toNat {first last : Int} (h : first ≤ last) :
    (daysInYears first (last - first).toNat : Int) = yearStart last - yearStart first := by
  rw [daysInYears_eq, Int.toNat_of_nonneg (Int.sub_nonneg_of_le h), Int.add_comm, Int.sub_add_cancel]

theorem daysBefore_succ (year : Int) {month : Nat} (h : 1 ≤ month) :
    daysBefore year (month + 1) = daysBefore year month + monthLength year month := by
  obtain ⟨k, rfl⟩ : ∃ k, month = k + 1 := ⟨month - 1, by omega⟩
  change ((monthLengths year).take (k + 1)).sum =
    ((monthLengths year).take k).sum + (monthLengths year).getD k 0
  rw [List.take_add_one, List.sum_append, List.getD_eq_getElem?_getD]
  cases (monthLengths year)[k]? <;> simp

theorem daysInMonths_eq (year : Int) (n : Nat) : daysInMonths year n = daysBefore year (n + 1) := by
  induction n with
  | zero => rfl
  | succ n ih => rw [daysInMonths, ih, daysBefore_succ year (Nat.le_add_left 1 n)]

end Calendar

open Calendar

/-- The number of days from the beginning of 1970 to a day, counted by the lengths of years and of
months. Years before 1970 count backwards. -/
def Date.countedDays (d : Date) : Int :=
  daysInYears 1970 (d.year - 1970).toNat - daysInYears d.year (1970 - d.year).toNat +
    daysInMonths d.year (d.month - 1) + (d.day - 1)

/-- Days have the numbers that counting gives them. -/
theorem Date.countedDays_eq (d : Date) : d.countedDays = d.dayNumber := by
  have hepoch : yearStart 1970 = 0 := by decide
  have hyears : (daysInYears 1970 (d.year - 1970).toNat : Int) -
      daysInYears d.year (1970 - d.year).toNat = yearStart d.year := by
    rcases Int.le_total 1970 d.year with h | h
    · rw [daysInYears_toNat h, Int.toNat_of_nonpos (by omega), daysInYears, hepoch]
      omega
    · rw [daysInYears_toNat h, Int.toNat_of_nonpos (by omega), daysInYears, hepoch]
      omega
  have hmonths : daysInMonths d.year (d.month - 1) = daysBefore d.year d.month := by
    rw [daysInMonths_eq]
    unfold daysBefore
    rw [Nat.add_sub_cancel]
  unfold countedDays dayNumber
  rw [hyears, hmonths]
  omega

end WallClock
