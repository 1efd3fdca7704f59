import WallClock.Proofs.Timer.Deadline

/-!
# Done once, done for good

Whether a timer is done is worked out anew each time, from the recorded time and a deadline that is
a sum of doubles. As the recorded time does not go back, and nothing but a restart moves the
deadline, a timer stays done (`Session.done_run`); and the first reading at or after the deadline
makes it done, whatever was recorded before (`Timer.done_record`).
-/

namespace WallClock

open Binary64

namespace Timer

variable {t t' : Timer} {r : Instant} {start : Int}

/-- A later recorded time leaves a timer done. The deadline may be any double. -/
theorem done_of_time (h : t.done = true) (hstart : t'.start = t.start)
    (hduration : t'.duration = t.duration) (hclosed : t.closed = true → t'.closed = true)
    (htime : ∀ x, t.time.millis? = some x → t'.time.AtOrAfter x) : t'.done = true := by
  rw [done, Bool.or_eq_true, decide_eq_true_iff] at h ⊢
  rcases h with h | h
  · exact .inl (hclosed h)
  cases hx : t.time.millis? with
  | none =>
    rw [Instant.eq_invalid_of_millis? hx] at h
    exact absurd rfl (ne_nan_of_le h).2
  | some x =>
    obtain ⟨y, hy, hxy⟩ := htime x hx
    have hle := (le_iff_of_int? (Instant.int?_millis hx) (Instant.int?_millis hy)).2 hxy
    rw [deadline, hstart, hduration]
    exact .inr (le_trans h hle)

theorem time_record_atOrAfter {ms : Int} (h : r.AtOrAfter ms) : (t.record r).time.AtOrAfter ms := by
  obtain ⟨y, hy, hle⟩ := h
  cases ht : t.time.millis? with
  | none =>
    rw [time_record_of_none ht]
    exact ⟨y, hy, hle⟩
  | some x => exact ⟨_, millis?_time_record ht hy, Int.le_trans hle (Int.le_max_right x y)⟩

/-- A reading at or after the deadline makes a timer done at once. -/
theorem done_record (hstart : t.start.millis? = some start) (hduration : t.duration.natAbs ≤ 2 ^ 53)
    (hr : r.AtOrAfter (start + t.duration)) : (t.record r).done = true := by
  cases hclosed : t.closed with
  | true => exact done_of_closed (by simp [hclosed])
  | false =>
    have hstart' : (t.record r).start.millis? = some start := by simpa
    refine (done_iff (by simp [hclosed]) hstart' (by simpa)).2 ?_
    simpa using time_record_atOrAfter hr

end Timer

namespace Session

variable {s : Session} {e : Event} {events : List Event} {start : Int}

/-- A timer that is done stays done until it is restarted. -/
theorem done_run (h : s.timer.done = true) (hrestart : ∀ d, .restart d ∉ events) :
    (s.run events).timer.done = true := by
  obtain ⟨hstart, hduration⟩ := terms_run_of_no_restart (s := s) hrestart
  refine Timer.done_of_time h hstart hduration (fun hc => closed_run_iff.2 (.inl hc)) fun x hx => ?_
  exact time_run_atOrAfter_iff.2 (.inl ⟨x, hx, Int.le_refl x⟩)

theorem done_run_of_closed (h : s.timer.closed = true) : (s.run events).timer.done = true :=
  Timer.done_of_closed (closed_run_iff.2 (.inl h))

/-- Readings are only taken to be recorded. -/
theorem timer_step_of_mem_taken {r : Instant} (hr : r ∈ s.taken e) :
    (s.step e).timer = s.timer.record r := by
  cases e with
  | sample =>
    cases List.mem_singleton.1 hr
    rfl
  | tick =>
    rw [taken] at hr
    split at hr
    case isTrue h =>
      cases List.mem_singleton.1 hr
      exact if_pos h
    case isFalse => exact absurd hr List.not_mem_nil
  | init | close | restart | set | advance | rewind => exact absurd hr List.not_mem_nil

/-- A timer that is done stays done, whatever happens to it and to its clock, until it is restarted,
and even then if it is closed. No deadline is missed: a reading that is taken at or after it makes
the timer done at once, whatever was recorded before. -/
theorem done_persists (s : Session) :
    (s.timer.done = true → ∀ events : List Event, (∀ d, .restart d ∉ events) →
      (s.run events).timer.done = true) ∧
    (s.timer.closed = true → ∀ events : List Event, (s.run events).timer.done = true) ∧
    ∀ start : Int, s.timer.start.millis? = some start → s.timer.duration.natAbs ≤ 2 ^ 53 →
      ∀ (e : Event), ∀ r ∈ s.taken e, r.AtOrAfter (start + s.timer.duration) →
        (s.step e).timer.done = true := by
  refine ⟨fun h _ => done_run h, fun h _ => done_run_of_closed h, ?_⟩
  intro start hstart hduration e r hr hlate
  rw [timer_step_of_mem_taken hr]
  exact Timer.done_record hstart hduration hlate

/-- A deadline that the sampler meets, before the clock is put back and stops showing anything; and
a timer that is closed first and restarted then. -/
theorem done_persists_put_back :
    let s := (begin 1000 ⟨.ofInt 0⟩).run [.init, .advance (.ofMillis 1500)]
    (s.step .tick).timer.done = true ∧
      ((s.step .tick).run [.rewind (.ofMillis 1400), .sample, .set .invalid, .tick]).timer.done =
        true ∧
      ((s.step .close).run [.restart 5000, .sample]).timer.done = true := by
  intro s
  obtain ⟨-, -, hmet⟩ := done_persists s
  have hdone := hmet 0 (by decide +kernel) (by decide) .tick (.ofInt 1500) (by decide +kernel)
    (by decide +kernel)
  obtain ⟨hstays, -, -⟩ := done_persists (s.step .tick)
  obtain ⟨-, hclosed, -⟩ := done_persists (s.step .close)
  exact ⟨hdone, hstays hdone _ (by simp), hclosed rfl _⟩

end Session
end WallClock
