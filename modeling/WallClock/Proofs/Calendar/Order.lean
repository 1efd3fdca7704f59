import Mathlib.Data.Prod.Lex
import WallClock.Proofs.Calendar.Counting
import WallClock.Stamp

/-!
# The order of dates and of stamps

Dates are in the order of their numbers, among which the year counts most, and stamps are in the
order of their dates and then of their hours and minutes. In this order the numbers of days ascend
(`Date.Valid.dayNumber_lt_dayNumber`), and so do the numbers of seconds
(`Stamp.Valid.secondNumber_start_lt`).
-/

namespace WallClock

theorem Calendar.daysBefore_mono (year : Int) {m n : Nat} (hm : 1 ≤ m) (h : m ≤ n) :
    daysBefore year m ≤ daysBefore year n := by
  induction n, h using Nat.le_induction with
  | base => exact Nat.le_refl _
  | succ n h ih =>
    rw [daysBefore_succ year (Nat.le_trans hm h)]
    exact Nat.le_trans ih (Nat.le_add_right _ _)

namespace Date

open Calendar

/-- The numbers of a date, of which the year counts most and the day least. -/
def numbers (d : Date) : ℤ ×ₗ ℕ ×ₗ ℕ := toLex (d.year, toLex (d.month, d.day))

variable {d d' : Date}

theorem numbers_injective : Function.Injective numbers := by
  intro d d' h
  cases d
  cases d'
  simpa [numbers] using h

theorem numbers_lt_numbers : d.numbers < d'.numbers ↔ d.year < d'.year ∨
    d.year = d'.year ∧ (d.month < d'.month ∨ d.month = d'.month ∧ d.day < d'.day) := by
  simp only [numbers, Prod.Lex.toLex_lt_toLex]

theorem Valid.dayNumber_lt_dayNumber (h : d.Valid) (h' : d'.Valid) (hlt : d.numbers < d'.numbers) :
    d.dayNumber < d'.dayNumber := by
  rcases numbers_lt_numbers.1 hlt with hyear | ⟨hyear, hmonth | ⟨hmonth, hday⟩⟩
  · have hend := h.inYear.mem_year.2
    rw [← yearStart_succ] at hend
    calc d.dayNumber < yearStart (d.year + 1) := hend
      _ ≤ yearStart d'.year := yearStart_mono (Int.add_one_le_of_lt hyear)
      _ ≤ d'.dayNumber := h'.inYear.mem_year.1
  · have hbefore := daysBefore_mono d'.year (Nat.le_add_left 1 d.month) hmonth
    rw [daysBefore_succ d'.year h.one_le_month] at hbefore
    have hday := h.day_le
    have hday' := h'.one_le_day
    unfold dayNumber
    rw [hyear] at hday ⊢
    omega
  · unfold dayNumber
    rw [hyear, hmonth]
    omega

end Date

namespace Stamp

/-- The numbers of a stamp, of which the year counts most and the minute least. -/
def numbers (s : Stamp) : (ℤ ×ₗ ℕ ×ₗ ℕ) ×ₗ ℕ ×ₗ ℕ :=
  toLex (s.date.numbers, toLex (s.hour, s.minute))

variable {s s' : Stamp}

theorem numbers_injective : Function.Injective numbers := by
  rintro ⟨date, hour, minute⟩ ⟨date', hour', minute'⟩ h
  have hdate : date = date' := Date.numbers_injective (congrArg (fun n => (ofLex n).1) h)
  simpa [numbers, hdate] using h

theorem numbers_lt_numbers : s.numbers < s'.numbers ↔ s.date.numbers < s'.date.numbers ∨
    s.date = s'.date ∧ (s.hour < s'.hour ∨ s.hour = s'.hour ∧ s.minute < s'.minute) := by
  simp only [numbers, Prod.Lex.toLex_lt_toLex, Date.numbers_injective.eq_iff]

theorem secondNumber_start (s : Stamp) : s.start.secondNumber =
    86400 * s.date.dayNumber + (3600 * s.hour + 60 * s.minute : Nat) := rfl

theorem Valid.secondNumber_start_lt (h : s.Valid) (h' : s'.Valid) (hlt : s.numbers < s'.numbers) :
    s.start.secondNumber < s'.start.secondNumber := by
  have hhour := h.hour_lt
  have hminute := h.minute_lt
  have hminute' := h'.minute_lt
  rw [secondNumber_start, secondNumber_start]
  rcases numbers_lt_numbers.1 hlt with hdate | ⟨hdate, htime⟩
  · have hday := h.date.dayNumber_lt_dayNumber h'.date hdate
    omega
  · rw [hdate]
    omega

end Stamp
end WallClock
