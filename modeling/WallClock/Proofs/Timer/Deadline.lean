import Mathlib.Algebra.Ring.Int.Defs
import WallClock.Proofs.Timer.Latest

/-!
# When a timer is done

The deadline is a sum of doubles, but compares with the recorded time as the exact sum does, for
durations up to `2 ^ 53` (`Timer.done_iff`). So a timer that was restarted is done from the first
reading at or after its deadline on (`Session.done_run_restart_iff`). This may be one from before
the restart: a clock that was put back leaves the recorded time alone, and so does `restart`
(`Session.not_forall_reading_after_restart`).
-/

namespace WallClock

open Binary64

namespace Timer

variable {t : Timer} {start added : Int}

/-- The deadline follows the exact sum with whatever the double of the duration follows. -/
theorem deadline_follows (hstart : t.start.millis? = some start)
    (hadded : Follows (2 ^ 54) (ofInt t.duration) added) :
    Follows (2 ^ 53) t.deadline (start + added) := by
  have hbound : OnGrid (2 ^ 54 : Nat) := onGrid_of_even (by decide) (by decide)
  have hle := Instant.natAbs_le_of_millis? hstart
  unfold Instant.maxMillis at hle
  exact hadded.int?_add (Instant.int?_millis hstart) hbound (by omega) (Nat.le_refl _)

theorem done_iff_of_follows (hopen : t.closed = false) (hstart : t.start.millis? = some start)
    (hadded : Follows (2 ^ 54) (ofInt t.duration) added) :
    t.done = true ↔ t.time.AtOrAfter (start + added) := by
  rw [done, hopen, Bool.false_or, decide_eq_true_iff, Instant.AtOrAfter]
  cases htime : t.time.millis? with
  | none =>
    rw [Instant.eq_invalid_of_millis? htime]
    constructor
    · intro h
      exact absurd rfl (ne_nan_of_le h).2
    · rintro ⟨x, hx, -⟩
      exact absurd hx (Option.some_ne_none x).symm
  | some x =>
    have hx := Instant.natAbs_le_of_millis? htime
    have hbound : OnGrid (2 ^ 53 : Nat) := onGrid_of_le (by decide)
    rw [(deadline_follows hstart hadded).le_iff hbound (Instant.int?_millis htime)
      (Nat.lt_of_le_of_lt hx (by decide))]
    simp

/-- A timer that counts from a valid reading is done when the exact deadline is reached. -/
theorem done_iff (hopen : t.closed = false) (hstart : t.start.millis? = some start)
    (hduration : t.duration.natAbs ≤ 2 ^ 53) :
    t.done = true ↔ t.time.AtOrAfter (start + t.duration) :=
  done_iff_of_follows hopen hstart (.exact (int?_ofInt (onGrid_of_le hduration)))

end Timer

namespace Session

variable {s : Session} {before after : List Event} {d ms : Int}

/-- A restarted timer is done when a reading at or after its deadline has been recorded, before
the restart or after it. -/
theorem done_run_restart_iff (hduration : d.natAbs ≤ 2 ^ 53) (hopen : s.timer.closed = false)
    (hclock : s.clock.reading.millis? = some ms) (hclose : .close ∉ after)
    (hrestart : ∀ d', .restart d' ∉ after) :
    (s.run (.restart d :: after)).timer.done = true ↔ s.timer.time.AtOrAfter (ms + d) ∨
      ∃ r ∈ (s.step (.restart d)).readings after, r.AtOrAfter (ms + d) := by
  obtain ⟨hstart, hduration'⟩ := terms_run_of_no_restart (s := s.step (.restart d)) hrestart
  have hopen' : ((s.step (.restart d)).run after).timer.closed = false := by
    rw [← Bool.not_eq_true, closed_run_iff, closed_step_iff]
    simp [hopen, hclose]
  have hms : ((s.step (.restart d)).run after).timer.start.millis? = some ms := by
    rw [hstart]
    exact hclock
  have hd : ((s.step (.restart d)).run after).timer.duration = d := hduration'
  rw [run_cons, Timer.done_iff hopen' hms (by rwa [hd]), hd]
  exact time_run_atOrAfter_iff

/-- A restarted timer need not wait for a reading: after the clock was put back, the recorded time
may be past the new deadline already. -/
theorem not_forall_reading_after_restart :
    ¬∀ (duration : Int) (clock : Clock) (before after : List Event) (d ms : Int),
      let s := (begin duration clock).run before
      0 < d → d ≤ 2 ^ 53 → s.timer.closed = false → s.clock.reading.millis? = some ms →
      .close ∉ after → (∀ d', .restart d' ∉ after) →
      (s.run (.restart d :: after)).timer.done = true →
      ∃ r ∈ (s.step (.restart d)).readings after, r.AtOrAfter (ms + d) := by
  intro h
  obtain ⟨r, hr, -⟩ := h 1000 ⟨.ofInt 10000⟩ [.rewind (.ofMillis 10000)] [] 500 0 (by decide)
    (by decide) rfl (by decide +kernel) nofun nofun (by decide +kernel)
  nomatch hr

/-- A restarted timer counts from the restart, as far as the readings from before it allow. Until
it is closed or restarted again, it is done just when the clock was read at or after the deadline:
since the restart, or before it, as may be when the clock was put back. -/
theorem done_after_restart (duration : Int) (clock : Clock) (before after : List Event)
    (d ms : Int) (hpos : 0 < d) (hd : d ≤ 2 ^ 53)
    (hopen : ((begin duration clock).run before).timer.closed = false)
    (hclock : ((begin duration clock).run before).clock.reading.millis? = some ms)
    (hclose : .close ∉ after) (hrestart : ∀ d', .restart d' ∉ after) :
    let s := (begin duration clock).run before
    (s.run (.restart d :: after)).timer.done = true ↔
      (∃ r ∈ (s.step (.restart d)).readings after, r.AtOrAfter (ms + d)) ∨
        ∃ r ∈ clock.reading :: (begin duration clock).readings before, r.AtOrAfter (ms + d) := by
  intro s
  have hstale : s.timer.time.AtOrAfter (ms + d) ↔
      ∃ r ∈ clock.reading :: (begin duration clock).readings before, r.AtOrAfter (ms + d) := by
    simp only [List.mem_cons, exists_eq_or_imp]
    exact time_run_atOrAfter_iff
  rw [done_run_restart_iff (by omega) hopen hclock hclose hrestart, hstale, or_comm]

/-- A clock that is put back by less than the duration, and read at the deadline or just before. -/
theorem done_after_restart_put_back :
    let s := (begin 1000 ⟨.ofInt 10000⟩).run [.init, .rewind (.ofMillis 300)]
    (s.run [.restart 500, .advance (.ofMillis 500), .tick]).timer.done = true ∧
      ¬(s.run [.restart 500, .advance (.ofMillis 499), .tick]).timer.done = true := by
  have hdone (after : List Event) (hclose : .close ∉ after) (hrestart : ∀ d', .restart d' ∉ after) :=
    done_after_restart 1000 ⟨.ofInt 10000⟩ [.init, .rewind (.ofMillis 300)] after 500 9700
      (by decide) (by decide) rfl (by decide +kernel) hclose hrestart
  have htick := hdone [.advance (.ofMillis 500), .tick] (by decide) (by simp)
  have hearly := hdone [.advance (.ofMillis 499), .tick] (by decide) (by simp)
  exact ⟨htick.2 (by decide +kernel), fun h => absurd (hearly.1 h) (by decide +kernel)⟩

end Session
end WallClock
