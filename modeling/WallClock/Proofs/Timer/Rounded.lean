import WallClock.Proofs.Binary64.Truncation
import WallClock.Proofs.Timer.Deadline

/-!
# Deadlines that are rounded

A deadline is worked out in doubles, which do not hold all durations: from `2 ^ 53` on a duration
may be rounded, and the sum with the start is rounded once more. Only the first rounding can be
seen, as the recorded time is within the range of instants, where sums are exact. So a timer of any
duration is done at its exact deadline or a millisecond off it (`Timer.done_deadline`), and both a
millisecond early and a millisecond late do occur (`Timer.done_deadline_off_by_one`).
-/

namespace WallClock
namespace Timer

open Binary64

variable {t : Timer} {start time : Int}

/-- Without a valid start there is no deadline, and without a valid time it is not reached. -/
theorem done_of_not_isValid (hopen : t.closed = false)
    (h : t.start.isValid = false ∨ t.time.isValid = false) : t.done = false := by
  rw [done, hopen, Bool.false_or, decide_eq_false_iff_not]
  intro hle
  obtain ⟨hdeadline, htime⟩ := ne_nan_of_le hle
  rcases h with h | h
  · apply hdeadline
    rw [deadline, Instant.eq_invalid_of_not_isValid (Bool.eq_false_iff.1 h)]
    rfl
  · apply htime
    rw [Instant.eq_invalid_of_not_isValid (Bool.eq_false_iff.1 h)]
    rfl

/-- A timer is done from a deadline on that is off by one at most, whatever its duration. -/
theorem exists_done_iff (hopen : t.closed = false) (hstart : t.start.millis? = some start)
    (htime : t.time.millis? = some time) :
    ∃ added, t.duration - 1 ≤ added ∧ added ≤ t.duration + 1 ∧
      (t.done = true ↔ start + added ≤ time) := by
  obtain ⟨added, hlow, hhigh, hadded⟩ := exists_follows_ofInt t.duration
  refine ⟨added, hlow, hhigh, ?_⟩
  rw [done_iff_of_follows hopen hstart hadded, Instant.AtOrAfter, htime]
  simp

/-- A timer that is closed is done. One that is not is done when its time has reached the exact
deadline, for durations up to `2 ^ 53`, and for others a millisecond earlier or later at most; and
it is not done as long as its start or its time is invalid. -/
theorem done_deadline (t : Timer) :
    (t.closed = true → t.done = true) ∧
    (t.closed = false →
      (t.start.isValid = false ∨ t.time.isValid = false → t.done = false) ∧
      ∀ start time : Int, t.start.millis? = some start → t.time.millis? = some time →
        (t.duration.natAbs ≤ 2 ^ 53 → (t.done = true ↔ start + t.duration ≤ time)) ∧
        (t.done = true → start + t.duration - 1 ≤ time) ∧
        (start + t.duration + 1 ≤ time → t.done = true)) := by
  refine ⟨done_of_closed, fun hopen => ⟨done_of_not_isValid hopen, ?_⟩⟩
  intro start time hstart htime
  obtain ⟨added, hlow, hhigh, hdone⟩ := exists_done_iff hopen hstart htime
  refine ⟨?_, ?_, ?_⟩
  · intro hduration
    rw [done_iff hopen hstart hduration, Instant.AtOrAfter, htime]
    simp
  · intro h
    have := hdone.1 h
    omega
  · intro h
    exact hdone.2 (by omega)

/-- The bound is met on both sides: a duration of `2 ^ 53 + 1` is rounded down, so that the timer is
done too early, and one of `2 ^ 53 + 3` is rounded up, so that it is done too late. -/
theorem done_deadline_off_by_one :
    let start : Int := -8640000000000000
    let timer (time duration : Int) : Timer := ⟨.ofInt start, .ofInt time, duration, false, false⟩
    ((timer 367199254740991 9007199254740992).done = false ∧
      (timer 367199254740992 9007199254740992).done = true) ∧
    ((timer 367199254740991 9007199254740993).done = false ∧
      (timer 367199254740992 9007199254740993).done = true ∧
      start + 9007199254740993 - 1 = 367199254740992) ∧
    ((timer 367199254740995 9007199254740995).done = false ∧
      (timer 367199254740996 9007199254740995).done = true ∧
      start + 9007199254740995 + 1 = 367199254740996) ∧
    ({ timer 0 5 with time := .invalid } : Timer).done = false ∧
    ({ timer 0 9223372036854775807 with closed := true } : Timer).done = true := by
  intro start timer
  have hstart : (Instant.ofInt start).millis? = some start := Instant.millis?_ofInt (by decide)
  have hopen (time duration : Int) (htime : time.natAbs ≤ Instant.maxMillis) :=
    ((timer time duration).done_deadline.2 rfl).2 start time hstart (Instant.millis?_ofInt htime)
  obtain ⟨hexact, -, -⟩ := hopen 367199254740992 9007199254740992 (by decide)
  obtain ⟨hsooner, -, -⟩ := hopen 367199254740991 9007199254740992 (by decide)
  obtain ⟨-, hearly, -⟩ := hopen 367199254740991 9007199254740993 (by decide)
  obtain ⟨-, -, hlate⟩ := hopen 367199254740996 9007199254740995 (by decide)
  refine ⟨⟨?_, (hexact (by decide)).2 (by decide)⟩, ⟨?_, by decide +kernel, by decide⟩,
    ⟨by decide +kernel, hlate (by decide), by decide⟩, ?_, ?_⟩
  · exact Bool.eq_false_iff.2 fun h => absurd ((hsooner (by decide)).1 h) (by decide)
  · exact Bool.eq_false_iff.2 fun h => absurd (hearly h) (by decide)
  · exact ((done_deadline { timer 0 5 with time := .invalid }).2 rfl).1 (.inr rfl)
  · exact (done_deadline { timer 0 9223372036854775807 with closed := true }).1 rfl

end Timer
end WallClock
