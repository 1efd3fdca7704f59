import WallClock.Timer.Session

/-!
# What a run leaves a timer with

Of a timer's fields, all but the recorded time follow from the events alone
(`Session.run_lifecycle`). A timer is closed from the first `close` on, and its sampler runs from
the first `init` until then. Its duration and its start are those of the last `restart`, and only
`restart`, `close` and the clock have a part in them: runs that differ in passive events have the
same terms (`Session.run_congr_of_filter_eq`).
-/

namespace WallClock
namespace Timer

variable (t : Timer) (reading : Instant)

/-! ## What the operations leave alone -/

@[simp] theorem record_start : (t.record reading).start = t.start := by
  unfold record
  split <;> rfl

@[simp] theorem record_duration : (t.record reading).duration = t.duration := by
  unfold record
  split <;> rfl

@[simp] theorem record_closed : (t.record reading).closed = t.closed := by
  unfold record
  split <;> rfl

@[simp] theorem record_sampling : (t.record reading).sampling = t.sampling := by
  unfold record
  split <;> rfl

@[simp] theorem tick_start : (t.tick reading).start = t.start := by
  unfold tick
  split <;> simp

@[simp] theorem tick_duration : (t.tick reading).duration = t.duration := by
  unfold tick
  split <;> simp

@[simp] theorem tick_closed : (t.tick reading).closed = t.closed := by
  unfold tick
  split <;> simp

@[simp] theorem tick_sampling : (t.tick reading).sampling = t.sampling := by
  unfold tick
  split <;> simp

theorem init_eq : t.init = { t with sampling := t.sampling || !t.closed } := by
  obtain ⟨start, time, duration, closed, sampling⟩ := t
  cases closed <;> simp [init]

theorem close_close : t.close.close = t.close := rfl

theorem init_close : t.close.init = t.close := rfl

theorem init_init : t.init.init = t.init := by
  simp [init_eq]

theorem done_of_closed {t : Timer} (h : t.closed = true) : t.done = true := by
  rw [done, h, Bool.true_or]

end Timer

/-- The events that touch neither the terms of the timer nor its clock. -/
def Event.isPassive : Event → Bool
  | .init | .sample | .tick => true
  | _ => false

namespace Session

/-- The clocks are the same, and the timers count the same duration from the same reading and are
both closed or both not. The recorded times may differ, and so may the samplers. -/
structure SameTerms (s s' : Session) : Prop where
  clock : s.clock = s'.clock
  start : s.timer.start = s'.timer.start
  duration : s.timer.duration = s'.timer.duration
  closed : s.timer.closed = s'.timer.closed

variable {s s' : Session} {e : Event} {events : List Event}

theorem run_cons (s : Session) (e : Event) (events : List Event) :
    s.run (e :: events) = (s.step e).run events := rfl

theorem run_append (s : Session) (before after : List Event) :
    s.run (before ++ after) = (s.run before).run after := List.foldl_append

/-! ## Closing and sampling -/

theorem closed_step_iff :
    (s.step e).timer.closed = true ↔ s.timer.closed = true ∨ e = .close := by
  cases e <;> simp [step, Timer.init_eq, Timer.close, Timer.restart]

theorem sampling_step_iff : (s.step e).timer.sampling = true ↔
    (s.timer.sampling = true ∨ s.timer.closed = false ∧ e = .init) ∧ e ≠ .close := by
  cases e <;> simp [step, Timer.init_eq, Timer.close, Timer.restart]

theorem closed_run_iff :
    (s.run events).timer.closed = true ↔ s.timer.closed = true ∨ .close ∈ events := by
  induction events generalizing s with
  | nil => simp [run]
  | cons e events ih => rw [run_cons, ih, closed_step_iff, List.mem_cons, or_assoc, eq_comm (a := e)]

/-- A sampler is started by `init` before any `close`, and stopped by `close`. -/
theorem sampling_run_iff : (s.run events).timer.sampling = true ↔
    (s.timer.sampling = true ∨ s.timer.closed = false ∧ .init ∈ events) ∧ .close ∉ events := by
  induction events generalizing s with
  | nil => simp [run]
  | cons e events ih =>
    have hclosed : (s.step e).timer.closed = false ↔ s.timer.closed = false ∧ e ≠ .close := by
      rw [← Bool.not_eq_true, closed_step_iff, not_or, Bool.not_eq_true]
    rw [run_cons, ih, sampling_step_iff, hclosed, List.mem_cons, List.mem_cons]
    grind

/-! ## Start and duration -/

theorem SameTerms.step (h : SameTerms s s') (e : Event) : SameTerms (s.step e) (s'.step e) := by
  obtain ⟨hclock, hstart, hduration, hclosed⟩ := h
  cases e <;> constructor <;>
    simp [Session.step, Timer.init_eq, Timer.close, Timer.restart, *]

theorem SameTerms.of_passive (s : Session) (he : e.isPassive = true) : SameTerms (s.step e) s := by
  cases e with
  | init | sample | tick => constructor <;> simp [Session.step, Timer.init_eq]
  | close | restart | set | advance | rewind => nomatch he

theorem SameTerms.trans {s'' : Session} (h : SameTerms s s') (h' : SameTerms s' s'') :
    SameTerms s s'' :=
  ⟨h.clock.trans h'.clock, h.start.trans h'.start, h.duration.trans h'.duration,
    h.closed.trans h'.closed⟩

theorem SameTerms.symm (h : SameTerms s s') : SameTerms s' s :=
  ⟨h.clock.symm, h.start.symm, h.duration.symm, h.closed.symm⟩

/-- Passive events can be left out of a run, as far as the terms are concerned. -/
theorem SameTerms.run_filter (h : SameTerms s s') :
    SameTerms (s.run events) (s'.run (events.filter fun e => !e.isPassive)) := by
  induction events generalizing s s' with
  | nil => exact h
  | cons e events ih =>
    rw [run_cons]
    cases he : e.isPassive with
    | true =>
      rw [List.filter_cons_of_neg (by simp [he])]
      exact ih ((of_passive s he).trans h)
    | false =>
      rw [List.filter_cons_of_pos (by simp [he])]
      exact ih (h.step e)

/-- Two runs that are the same but for passive events end with the same terms. -/
theorem run_congr_of_filter_eq {events' : List Event} (s : Session)
    (h : (events.filter fun e => !e.isPassive) = events'.filter fun e => !e.isPassive) :
    SameTerms (s.run events) (s.run events') := by
  have hfilter (events : List Event) :
      SameTerms (s.run events) (s.run (events.filter fun e => !e.isPassive)) :=
    SameTerms.run_filter ⟨rfl, rfl, rfl, rfl⟩
  have hevents' := hfilter events'
  rw [← h] at hevents'
  exact (hfilter events).trans hevents'.symm

/-- Without a restart, a timer counts what it counted before. -/
theorem terms_run_of_no_restart (h : ∀ d, .restart d ∉ events) :
    (s.run events).timer.start = s.timer.start ∧
      (s.run events).timer.duration = s.timer.duration := by
  induction events generalizing s with
  | nil => exact ⟨rfl, rfl⟩
  | cons e events ih =>
    have hstep : (s.step e).timer.start = s.timer.start ∧
        (s.step e).timer.duration = s.timer.duration := by
      cases e with
      | restart d => exact absurd (.head _) (h d)
      | init | sample | tick | close | set | advance | rewind =>
        simp [step, Timer.init_eq, Timer.close]
    obtain ⟨hstart, hduration⟩ := ih (s := s.step e) fun d hd => h d (.tail _ hd)
    exact ⟨hstart.trans hstep.1, hduration.trans hstep.2⟩

/-- What a run leaves a timer with, but for the recorded time. It is closed after a `close`, and
then it is done; it is sampled after an `init` unless it is closed; its start and duration are
those of the last `restart`, or of the beginning; and runs that differ in passive events only
differ in neither. -/
theorem run_lifecycle (duration : Int) (clock : Clock) :
    let s := begin duration clock
    (∀ events : List Event,
      ((s.run events).timer.closed = true ↔ .close ∈ events) ∧
      ((s.run events).timer.sampling = true ↔ .init ∈ events ∧ .close ∉ events) ∧
      (.close ∈ events → (s.run events).timer.done = true) ∧
      ((∀ d, .restart d ∉ events) → (s.run events).timer.start = clock.reading ∧
        (s.run events).timer.duration = duration)) ∧
    (∀ (before after : List Event) (d : Int), (∀ d', .restart d' ∉ after) →
      (s.run (before ++ .restart d :: after)).timer.start = (s.run before).clock.reading ∧
        (s.run (before ++ .restart d :: after)).timer.duration = d) ∧
    (∀ events events' : List Event,
      ((events.filter fun e => !e.isPassive) = events'.filter fun e => !e.isPassive) →
      (s.run events).timer.start = (s.run events').timer.start ∧
        (s.run events).timer.duration = (s.run events').timer.duration ∧
        (s.run events).timer.closed = (s.run events').timer.closed) ∧
    ∀ t : Timer, t.close.close = t.close ∧ t.close.init = t.close ∧ t.init.init = t.init := by
  refine ⟨fun events => ⟨?_, ?_, ?_, terms_run_of_no_restart⟩, ?_, ?_, ?_⟩
  · simp [closed_run_iff, begin, Timer.begin]
  · simp [sampling_run_iff, begin, Timer.begin]
  · exact fun h => Timer.done_of_closed (closed_run_iff.2 (.inr h))
  · intro before after d h
    rw [run_append, run_cons]
    exact terms_run_of_no_restart h
  · intro events events' h
    obtain ⟨-, hstart, hduration, hclosed⟩ := run_congr_of_filter_eq (begin duration clock) h
    exact ⟨hstart, hduration, hclosed⟩
  · exact fun t => ⟨t.close_close, t.init_close, t.init_init⟩

/-- A timer that is restarted after it was closed, while the clock shows nothing. -/
theorem run_lifecycle_restarted_when_closed :
    let s := begin 1000 ⟨.invalid⟩
    let events : List Event := [.init, .sample, .close, .init, .restart 7, .tick]
    (s.run events).timer.closed = true ∧ ¬(s.run events).timer.sampling = true ∧
      (s.run events).timer.done = true ∧ (s.run events).timer.start = .invalid ∧
      (s.run events).timer.duration = 7 ∧ (s.run [.init, .close]).timer.duration = 1000 ∧
      (s.run [.close, .restart 7]).timer.duration = (s.run events).timer.duration := by
  obtain ⟨hevents, hrestart, hpassive, -⟩ := run_lifecycle 1000 ⟨.invalid⟩
  obtain ⟨hclosed, hsampling, hdone, -⟩ :=
    hevents [.init, .sample, .close, .init, .restart 7, .tick]
  obtain ⟨hstart, hduration⟩ := hrestart [.init, .sample, .close, .init] [.tick] 7 (by simp)
  obtain ⟨-, -, -, hterms⟩ := hevents [.init, .close]
  refine ⟨hclosed.2 (by decide), fun h => absurd (hsampling.1 h) (by decide),
    hdone (by decide), hstart, hduration, (hterms (by simp)).2, ?_⟩
  exact (hpassive [.close, .restart 7] [.init, .sample, .close, .init, .restart 7, .tick]
    (by decide)).2.1

end Session
end WallClock
