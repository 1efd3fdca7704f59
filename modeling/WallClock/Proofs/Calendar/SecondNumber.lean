import WallClock.Calendar.DateTime
import WallClock.Proofs.Calendar.DayNumber

/-!
# Readings and the numbers of their seconds

The seconds of the calendar are numbered without gaps: a reading is given by the number of its
second and its nanosecond (`DateTime.ofSecondNumber_secondNumber`), every number is that of a
reading (`DateTime.secondNumber_ofSecondNumber`), and the readings that exist are those of the
seconds that the calendar covers (`DateTime.Valid.covers`, `DateTime.valid_ofSecondNumber`).
-/

namespace WallClock

namespace TimeOfDay

theorem secondOfDay_ofSecondOfDay (second nanosecond : Nat) :
    (ofSecondOfDay second nanosecond).secondOfDay = second := by
  simp only [ofSecondOfDay, secondOfDay]
  omega

theorem Valid.secondOfDay_lt {t : TimeOfDay} (h : t.Valid) : t.secondOfDay < 86400 := by
  have h1 := h.hour_lt
  have h2 := h.minute_lt
  have h3 := h.second_lt
  unfold secondOfDay
  omega

theorem ofSecondOfDay_secondOfDay {t : TimeOfDay} (h : t.Valid) :
    ofSecondOfDay t.secondOfDay t.nanosecond = t := by
  obtain ⟨hour, minute, second, nanosecond⟩ := t
  have h2 := h.minute_lt
  have h3 := h.second_lt
  unfold ofSecondOfDay secondOfDay
  simp only [mk.injEq, and_true]
  dsimp only at h2 h3
  omega

theorem valid_ofSecondOfDay {second nanosecond : Nat} (h1 : second < 86400)
    (h2 : nanosecond < 1000000000) : (ofSecondOfDay second nanosecond).Valid := by
  refine ⟨?_, Nat.mod_lt _ (by decide), Nat.mod_lt _ (by decide), ?_⟩
  · change second / 3600 < 24
    omega
  · split
    · exact Nat.lt_trans h2 (by decide)
    · exact h2

end TimeOfDay

namespace DateTime

open Calendar

theorem secondNumber_ofSecondNumber (second : Int) (nanosecond : Nat) :
    (ofSecondNumber second nanosecond).secondNumber = second := by
  unfold ofSecondNumber secondNumber
  rw [Date.dayNumber_ofDayNumber, TimeOfDay.secondOfDay_ofSecondOfDay]
  omega

theorem ofSecondNumber_secondNumber {d : DateTime} (h : d.Valid) :
    ofSecondNumber d.secondNumber d.time.nanosecond = d := by
  have hlt := h.time.secondOfDay_lt
  have hday : d.secondNumber / 86400 = d.date.dayNumber := by
    unfold secondNumber
    omega
  have hsecond : (d.secondNumber % 86400).toNat = d.time.secondOfDay := by
    unfold secondNumber
    omega
  rw [ofSecondNumber, hday, hsecond, h.date.inYear.ofDayNumber_dayNumber,
    TimeOfDay.ofSecondOfDay_secondOfDay h.time]

theorem Valid.covers {d : DateTime} (h : d.Valid) : Covers d.secondNumber := by
  have h1 := h.date.le_dayNumber
  have h2 := h.date.dayNumber_lt
  have h3 := h.time.secondOfDay_lt
  unfold Covers secondNumber
  rw [firstSecond_eq, lastSecond_eq]
  omega

theorem valid_ofSecondNumber {second : Int} {nanosecond : Nat} (h : Covers second)
    (hnanosecond : nanosecond < 1000000000) : (ofSecondNumber second nanosecond).Valid := by
  obtain ⟨h1, h2⟩ := h
  rw [firstSecond_eq] at h1
  rw [lastSecond_eq] at h2
  exact ⟨Date.valid_ofDayNumber (by omega) (by omega),
    TimeOfDay.valid_ofSecondOfDay (by omega) hnanosecond⟩

end DateTime
end WallClock
