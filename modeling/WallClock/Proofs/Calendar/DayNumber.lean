import WallClock.Calendar.Date

/-!
# Days and their numbers

Numbering the days is a bijection: `Date.dayNumber_ofDayNumber` holds of every number, and
`Date.InYear.ofDayNumber_dayNumber` of every day that its year has, also of years beyond the
calendar. Both rest on two locating facts, each with its converse: a day number lies in exactly one
year (`Calendar.yearOfDay_eq_iff`), and a day of a year in exactly one of its months
(`Calendar.splitMonths_spec`, `Calendar.splitMonths_take`).
-/

namespace WallClock
namespace Calendar

/-! ## Years -/

def yearLength (year : Int) : Nat := if IsLeap year then 366 else 365

theorem yearStart_eq (year : Int) : yearStart year =
    365 * (year - 1) + (year - 1) / 4 - (year - 1) / 100 + (year - 1) / 400 - 719162 := rfl

theorem yearStart_succ (year : Int) : yearStart (year + 1) = yearStart year + yearLength year := by
  rw [yearStart_eq, yearStart_eq, yearLength]
  by_cases h : IsLeap year
  · rw [if_pos h]
    unfold IsLeap at h
    omega
  · rw [if_neg h]
    unfold IsLeap at h
    omega

theorem yearStart_mono {a b : Int} (h : a ≤ b) : yearStart a ≤ yearStart b := by
  rw [yearStart_eq, yearStart_eq]
  omega

/-- The first day of a year, when the years before it are counted in cycles of 400, 100, 4 and
1 years. -/
theorem yearStart_ofCycles {q c o s : Int} (hc : 0 ≤ c ∧ c ≤ 3) (ho : 0 ≤ o ∧ o ≤ 24)
    (hs : 0 ≤ s ∧ s ≤ 3) :
    yearStart (400 * q + 100 * c + 4 * o + s + 1) =
      146097 * q + 36524 * c + 1461 * o + 365 * s - 719162 := by
  rw [yearStart_eq]
  omega

theorem isLeap_ofCycles {q c o s : Int} (hc : 0 ≤ c ∧ c ≤ 3) (ho : 0 ≤ o ∧ o ≤ 24)
    (hs : 0 ≤ s ∧ s ≤ 3) :
    IsLeap (400 * q + 100 * c + 4 * o + s + 1) ↔ s = 3 ∧ (o < 24 ∨ c = 3) := by
  unfold IsLeap
  omega

theorem mem_yearOfDay (day : Int) : yearStart (yearOfDay day) ≤ day ∧
    day < yearStart (yearOfDay day) + yearLength (yearOfDay day) := by
  simp only [yearOfDay]
  generalize hq : (day + 719162) / 146097 = q
  generalize ha : (day + 719162) % 146097 = inAge
  generalize hc : min (inAge / 36524) 3 = c
  generalize hi : inAge - 36524 * c = inCentury
  generalize ho : inCentury / 1461 = o
  generalize hr : inCentury % 1461 = inOlympiad
  generalize hs : min (inOlympiad / 365) 3 = s
  have hc' : 0 ≤ c ∧ c ≤ 3 := by omega
  have ho' : 0 ≤ o ∧ o ≤ 24 := by omega
  have hs' : 0 ≤ s ∧ s ≤ 3 := by omega
  rw [yearStart_ofCycles hc' ho' hs', yearLength]
  -- a cycle is longer by a day than its parts only where its last year is leap
  simp only [isLeap_ofCycles hc' ho' hs']
  split <;> omega

/-- A day lies in no other year. -/
theorem yearOfDay_eq_iff {day year : Int} : yearOfDay day = year ↔
    yearStart year ≤ day ∧ day < yearStart year + yearLength year := by
  refine ⟨fun h => h ▸ mem_yearOfDay day, fun ⟨h1, h2⟩ => ?_⟩
  obtain ⟨h3, h4⟩ := mem_yearOfDay day
  rw [← yearStart_succ] at h2 h4
  rcases Int.lt_trichotomy (yearOfDay day) year with h | h | h
  · have := yearStart_mono (Int.add_one_le_of_lt h)
    omega
  · exact h
  · have := yearStart_mono (Int.add_one_le_of_lt h)
    omega

/-! ## Months -/

theorem foldr_monthLengths (year : Int) :
    (monthLengths year).foldr (· + ·) 0 = yearLength year := by
  unfold monthLengths yearLength
  split <;> rfl

theorem dayOfYear_lt (day : Int) : (day - yearStart (yearOfDay day)).toNat <
    (monthLengths (yearOfDay day)).foldr (· + ·) 0 := by
  obtain ⟨h1, h2⟩ := mem_yearOfDay day
  rw [foldr_monthLengths]
  omega

theorem length_monthLengths (year : Int) : (monthLengths year).length = 12 := rfl

theorem splitMonths_cons_of_le {length days : Nat} (lengths : List Nat) (h : length ≤ days) :
    splitMonths (length :: lengths) days =
      ((splitMonths lengths (days - length)).1 + 1, (splitMonths lengths (days - length)).2) := by
  rw [splitMonths, if_neg (Nat.not_lt.2 h)]

theorem monthLength_le (year : Int) (month : Nat) : monthLength year month ≤ 31 := by
  have hall : ∀ n ∈ monthLengths year, n ≤ 31 := by
    unfold monthLengths
    split <;> decide
  rw [monthLength]
  split
  · exact Nat.zero_le _
  · rw [List.getD_eq_getElem?_getD]
    cases h : (monthLengths year)[month - 1]? with
    | none => exact Nat.zero_le _
    | some n => exact hall n (List.mem_of_getElem? h)

/-- Passing whole months finds a month, a day within it, and passes all days before. -/
theorem splitMonths_spec (lengths : List Nat) {days : Nat} (h : days < lengths.foldr (· + ·) 0) :
    (splitMonths lengths days).1 < lengths.length ∧
      (splitMonths lengths days).2 < lengths.getD (splitMonths lengths days).1 0 ∧
      (lengths.take (splitMonths lengths days).1).foldr (· + ·) 0 + (splitMonths lengths days).2 =
        days := by
  induction lengths generalizing days with
  | nil => exact absurd h (Nat.not_lt_zero _)
  | cons length lengths ih =>
    rw [List.foldr_cons] at h
    by_cases hlt : days < length
    · rw [splitMonths, if_pos hlt]
      exact ⟨Nat.zero_lt_succ _, hlt, Nat.zero_add _⟩
    · obtain ⟨h1, h2, h3⟩ : _ ∧ _ ∧ _ := @ih (days - length) (by omega)
      rw [splitMonths_cons_of_le lengths (Nat.not_lt.1 hlt)]
      refine ⟨Nat.succ_lt_succ h1, h2, ?_⟩
      rw [List.take_succ_cons, List.foldr_cons]
      omega

section
variable {lengths : List Nat} {month rest : Nat} (h : rest < lengths.getD month 0)
include h

theorem splitMonths_take :
    splitMonths lengths ((lengths.take month).foldr (· + ·) 0 + rest) = (month, rest) := by
  induction lengths generalizing month with
  | nil => exact absurd h (Nat.not_lt_zero _)
  | cons length lengths ih =>
    cases month with
    | zero =>
      have h : rest < length := h
      simp [splitMonths, h]
    | succ month =>
      rw [List.take_succ_cons, List.foldr_cons, Nat.add_assoc,
        splitMonths_cons_of_le lengths (Nat.le_add_right _ _), Nat.add_sub_cancel_left, ih h]

/-- A day of a month comes before the end of the year. -/
theorem foldr_take_add_lt :
    (lengths.take month).foldr (· + ·) 0 + rest < lengths.foldr (· + ·) 0 := by
  induction lengths generalizing month with
  | nil => exact absurd h (Nat.not_lt_zero _)
  | cons length lengths ih =>
    cases month with
    | zero =>
      have h : rest < length := h
      rw [List.take_zero, List.foldr_nil, List.foldr_cons]
      omega
    | succ month =>
      have ih := ih h
      rw [List.take_succ_cons, List.foldr_cons, List.foldr_cons]
      omega

end

end Calendar

namespace Date

open Calendar

/-! ## Days -/

theorem dayNumber_ofDayNumber (day : Int) : (ofDayNumber day).dayNumber = day := by
  have h1 := (mem_yearOfDay day).1
  obtain ⟨-, -, h⟩ := splitMonths_spec _ (dayOfYear_lt day)
  simp only [ofDayNumber, dayNumber, daysBefore, Nat.add_sub_cancel]
  omega

/-- Whether the month of a day is one of a year, and the day one of the month. The year need not be
one of the calendar. -/
structure InYear (d : Date) : Prop where
  one_le_month : 1 ≤ d.month
  month_le : d.month ≤ 12
  one_le_day : 1 ≤ d.day
  day_le : d.day ≤ monthLength d.year d.month

theorem Valid.inYear {d : Date} (h : d.Valid) : d.InYear :=
  ⟨h.one_le_month, h.month_le, h.one_le_day, h.day_le⟩

theorem inYear_ofDayNumber (day : Int) : (ofDayNumber day).InYear := by
  obtain ⟨h1, h2, -⟩ := splitMonths_spec _ (dayOfYear_lt day)
  rw [length_monthLengths] at h1
  constructor
  · exact Nat.le_add_left 1 _
  · exact Nat.succ_le_of_lt h1
  · exact Nat.le_add_left 1 _
  · simp only [ofDayNumber, monthLength, Nat.add_sub_cancel, Nat.add_eq_zero_iff, Nat.one_ne_zero,
      and_false, if_false]
    exact Nat.succ_le_of_lt h2

theorem valid_ofDayNumber {day : Int} (h1 : yearStart firstYear ≤ day)
    (h2 : day < yearStart (lastYear + 1)) : (ofDayNumber day).Valid := by
  obtain ⟨h3, h4⟩ := mem_yearOfDay day
  obtain ⟨h5, h6, h7, h8⟩ := inYear_ofDayNumber day
  refine ⟨Int.not_lt.1 fun h => ?_, Int.not_lt.1 fun h => ?_, h5, h6, h7, h8⟩
  · change yearOfDay day < firstYear at h
    have := yearStart_mono (Int.add_one_le_of_lt h)
    rw [yearStart_succ] at this
    omega
  · change lastYear < yearOfDay day at h
    have := yearStart_mono (Int.add_one_le_of_lt h)
    omega

namespace InYear

variable {d : Date} (h : d.InYear)
include h

theorem day_sub_one_lt : d.day - 1 < (monthLengths d.year).getD (d.month - 1) 0 := by
  have h1 := h.day_le
  have h2 := h.one_le_day
  rw [monthLength, if_neg (by have := h.one_le_month; omega)] at h1
  omega

theorem mem_year : yearStart d.year ≤ d.dayNumber ∧
    d.dayNumber < yearStart d.year + yearLength d.year := by
  have h1 := h.one_le_day
  have h2 := foldr_take_add_lt h.day_sub_one_lt
  rw [foldr_monthLengths] at h2
  unfold dayNumber daysBefore
  omega

theorem ofDayNumber_dayNumber : ofDayNumber d.dayNumber = d := by
  have hyear : yearOfDay d.dayNumber = d.year := yearOfDay_eq_iff.2 h.mem_year
  have h1 := h.one_le_day
  have h2 := h.one_le_month
  have hdays : (d.dayNumber - yearStart d.year).toNat =
      ((monthLengths d.year).take (d.month - 1)).foldr (· + ·) 0 + (d.day - 1) := by
    unfold dayNumber daysBefore
    omega
  simp only [ofDayNumber, hyear, hdays, splitMonths_take h.day_sub_one_lt]
  rw [Nat.sub_add_cancel h1, Nat.sub_add_cancel h2]

end InYear

namespace Valid

variable {d : Date} (h : d.Valid)
include h

theorem le_dayNumber : yearStart firstYear ≤ d.dayNumber :=
  Int.le_trans (yearStart_mono h.firstYear_le) h.inYear.mem_year.1

theorem dayNumber_lt : d.dayNumber < yearStart (lastYear + 1) := by
  have h1 := h.inYear.mem_year.2
  rw [← yearStart_succ] at h1
  exact Int.lt_of_lt_of_le h1 (yearStart_mono (Int.add_le_add_right h.le_lastYear 1))

end Valid

end Date
end WallClock
