import WallClock.Proofs.Timer.Latest
import WallClock.Timer.Threads

/-!
# The schedule of the sampler does not show

What is done to a timer leaves it with the latest of the readings recorded, whenever that is, and
with what the other operations make of the rest (`Timer.perform_congr`): recording is commutative
and idempotent, and commutes with everything else. So a reading in flight does no harm when it is
recorded late. An owner who waits for a pass of the sampler after every operation sees the states
of the live session, and no others, however the threads are scheduled
(`Threads.Observes.eq_liveStates`, `Threads.observes_liveStates`): between two operations the
sampler cannot get further than one pass (`Threads.Around`), and an operation carries that over.
-/

namespace WallClock

namespace Instant

variable {rs rs' : List Instant}

/-- The latest reading does not depend on order and repetition. -/
theorem latest?_congr (h : ∀ r, r ∈ rs ↔ r ∈ rs') : latest? rs = latest? rs' := by
  have hle (x : Int) :
      (∃ y, latest? rs = some y ∧ x ≤ y) ↔ ∃ y, latest? rs' = some y ∧ x ≤ y := by
    simp only [exists_le_latest?_iff, h]
  cases hrs : latest? rs with
  | none =>
    cases hrs' : latest? rs' with
    | none => rfl
    | some y =>
      obtain ⟨x, hx, -⟩ := (hle y).2 ⟨y, hrs', Int.le_refl y⟩
      rw [hrs] at hx
      nomatch hx
  | some x =>
    obtain ⟨y, hy, hxy⟩ := (hle x).1 ⟨x, hrs, Int.le_refl x⟩
    obtain ⟨x', hx', hyx⟩ := (hle y).2 ⟨y, hy, Int.le_refl y⟩
    rw [hrs] at hx'
    cases hx'
    rw [hy, Int.le_antisymm hxy hyx]

end Instant

namespace Timer

/-! ## Recording in any order -/

/-- The readings that are recorded by a list of actions. -/
def recorded (actions : List Action) : List Instant :=
  actions.filterMap fun
    | .record r => some r
    | .init | .restart _ _ | .close => none

variable {t : Timer} {r r' : Instant} {a : Action} {actions actions' : List Action}

theorem mem_recorded_iff : r ∈ recorded actions ↔ .record r ∈ actions := by
  rw [recorded, List.mem_filterMap]
  constructor
  · rintro ⟨a, ha, heq⟩
    cases a with
    | record reading =>
      cases heq
      exact ha
    | init | restart | close => nomatch heq
  · exact fun h => ⟨_, h, rfl⟩

theorem time_act (ha : a.isRecord = false) : (t.act a).time = t.time := by
  cases a with
  | record => nomatch ha
  | init => rw [act, init_eq]
  | restart | close => rfl

/-- The recorded time is the latest of what was recorded. -/
theorem millis?_time_perform (t : Timer) (actions : List Action) :
    (t.perform actions).time.millis? = Instant.latest? (t.time :: recorded actions) := by
  induction actions generalizing t with
  | nil => exact (Instant.latest?_singleton _).symm
  | cons a actions ih =>
    rw [perform, List.foldl_cons, ← perform, ih]
    cases a with
    | record r => exact t.latest?_record r _
    | init | restart | close =>
      rw [time_act rfl]
      rfl

/-- Apart from the recorded time, recording does not matter. -/
theorem perform_apart_from_time (t : Timer) (actions : List Action) (time : Instant) :
    { t.perform actions with time } =
      ({ t with time } : Timer).perform (actions.filter fun a => !a.isRecord) := by
  induction actions generalizing t with
  | nil => rfl
  | cons a actions ih =>
    rw [perform, List.foldl_cons, ← perform, ih]
    cases a with
    | record r =>
      have hrecord : ({ t.act (.record r) with time } : Timer) = { t with time } := by
        simp [act]
      rw [List.filter_cons_of_neg (by simp [Action.isRecord]), hrecord]
    | init | restart | close =>
      rw [List.filter_cons_of_pos (by simp [Action.isRecord]), perform, perform, List.foldl_cons]
      simp [act, init_eq, Timer.restart, Timer.close]

/-- The order in which readings are recorded does not matter, nor how often each is, nor what is
done in between. -/
theorem perform_congr (t : Timer) (actions actions' : List Action)
    (hothers : (actions.filter fun a => !a.isRecord) = actions'.filter fun a => !a.isRecord)
    (hreadings : ∀ r, .record r ∈ actions ↔ .record r ∈ actions') :
    t.perform actions = t.perform actions' := by
  have htime : (t.perform actions).time = (t.perform actions').time := by
    refine Instant.eq_of_millis?_eq ?_
    rw [millis?_time_perform, millis?_time_perform]
    refine Instant.latest?_congr fun r => ?_
    rw [List.mem_cons, List.mem_cons, mem_recorded_iff, mem_recorded_iff, hreadings]
  calc t.perform actions
    _ = { t.perform actions with time := (t.perform actions').time } := by rw [← htime]
    _ = { t.perform actions' with time := (t.perform actions').time } := by
      rw [perform_apart_from_time, hothers, perform_apart_from_time]

theorem record_record_self (t : Timer) (r : Instant) : (t.record r).record r = t.record r :=
  t.perform_congr [.record r, .record r] [.record r] rfl (by simp)

/-- Recording commutes with everything, recording included. -/
theorem act_record (t : Timer) (r : Instant) (a : Action) :
    (t.record r).act a = (t.act a).record r := by
  refine t.perform_congr [.record r, a] [a, .record r] ?_ ?_
  · simp [List.filter_cons, Action.isRecord]
  · simp [or_comm]

end Timer

namespace Session

/-! ## Readings that make no difference -/

/-- Recording a reading does not change the timer. -/
def Absorbs (s : Session) (r : Instant) : Prop := s.act (.record r) = s

/-- A pass of the sampler does not change the timer. -/
def Settled (s : Session) : Prop := s.step .tick = s

variable {s : Session} {r : Instant} {a : Timer.Action}

theorem act_record_self (s : Session) (r : Instant) : (s.act (.record r)).Absorbs r :=
  congrArg (Session.mk · s.clock) (s.timer.record_record_self r)

theorem Absorbs.act (h : s.Absorbs r) (a : Timer.Action) : (s.act a).Absorbs r := by
  have htimer : s.timer.record r = s.timer := congrArg Session.timer h
  have hact := s.timer.act_record r a
  rw [htimer] at hact
  exact congrArg (Session.mk · s.clock) hact.symm

/-- Whether a reading makes a difference depends on the recorded time only. -/
theorem Absorbs.of_time_eq {s' : Session} (h : s.Absorbs r) (htime : s'.timer.time = s.timer.time) :
    s'.Absorbs r := by
  have htime' : (s'.timer.record r).time = s'.timer.time := by
    have hrecord : s.timer.record r = s.timer := congrArg Session.timer h
    rw [Timer.time_record, htime, ← Timer.time_record, hrecord]
  have hrecord : s'.timer.record r = s'.timer := by
    unfold Timer.record at htime' ⊢
    split
    case isTrue hlater =>
      rw [if_pos hlater] at htime'
      rw [show r = s'.timer.time from htime']
    case isFalse => rfl
  exact congrArg (Session.mk · s'.clock) hrecord

theorem step_tick (h : s.timer.sampling = true) :
    s.step .tick = s.act (.record s.clock.reading) := by
  rw [step, Timer.tick, if_pos h]
  rfl

theorem step_tick_of_not_sampling (h : ¬s.timer.sampling = true) : s.Settled := by
  rw [Settled, step, Timer.tick, if_neg h]

theorem settled_step_tick (s : Session) : (s.step .tick).Settled := by
  by_cases h : s.timer.sampling = true
  · rw [step_tick h, Settled, step_tick (by simpa [act, Timer.act] using h)]
    exact s.act_record_self s.clock.reading
  · rw [step_tick_of_not_sampling h]
    exact step_tick_of_not_sampling h

theorem Settled.absorbs (h : s.Settled) (hsampling : s.timer.sampling = true) :
    s.Absorbs s.clock.reading := (step_tick hsampling).symm.trans h

end Session

namespace Threads

/-! ## The sampler between two operations -/

/-- How far the sampler can get without the owner: it has made a pass or not, and what it has in
flight is the reading of the clock, or makes no difference. -/
structure Around (s : Session) (f : Threads) : Prop where
  session : f.session = s ∨ f.session = s.step .tick
  inFlight : ∀ r ∈ f.inFlight, s.Absorbs r ∨ r = s.clock.reading
  running : f.inFlight.isSome = true → s.timer.sampling = true

variable {s : Session} {e : Event} {events : List Event} {states : List Session} {f g : Threads}

theorem Around.none (s : Session) : Around s ⟨s, Option.none⟩ := ⟨.inl rfl, nofun, nofun⟩

namespace Around

theorem clock (h : Around s f) : f.session.clock = s.clock := by
  rcases h.session with heq | heq <;> rw [heq]
  rfl

theorem sampling (h : Around s f) : f.session.timer.sampling = s.timer.sampling := by
  rcases h.session with heq | heq <;> rw [heq]
  simp [Session.step]

theorem session_eq (h : Around s f) (hs : s.Settled) : f.session = s := by
  rcases h.session with heq | heq
  · exact heq
  · exact heq.trans hs

theorem samplerStep (h : Around s f) (hstep : SamplerStep f g) : Around s g := by
  cases hstep with
  | @take s' running =>
    refine ⟨h.session, ?_, fun _ => h.sampling ▸ running⟩
    rintro _ ⟨⟩
    exact .inr (congrArg Clock.reading h.clock)
  | @put s' r =>
    have hsampling := h.running rfl
    refine ⟨?_, nofun, nofun⟩
    have hsession : s' = s ∨ s' = s.step .tick := h.session
    change s'.act (.record r) = s ∨ s'.act (.record r) = s.step .tick
    rw [Session.step_tick hsampling] at hsession ⊢
    rcases h.inFlight r rfl with habsorbs | rfl
    · rcases hsession with rfl | rfl
      · exact .inl habsorbs
      · exact .inr (habsorbs.act _)
    · rcases hsession with rfl | rfl
      · exact .inr rfl
      · exact .inr (s.act_record_self _)

theorem samples (h : Around s f) (hsamples : Samples f g) : Around s g := by
  induction hsamples with
  | refl => exact h
  | tail _ hstep ih => exact ih.samplerStep hstep

theorem step_tick (h : Around s f) : f.session.step .tick = s.step .tick := by
  rcases h.session with heq | heq <;> rw [heq]
  exact s.settled_step_tick

/-- A whole pass records the reading of the clock, and what was in flight before it. -/
theorem passes (h : Around s f) (hpasses : Passes f g) : Around (s.step .tick) g := by
  cases hpasses with
  | @pass s' _ _ _ _ before reads records after =>
    cases reads with
    | take running =>
      cases records with
      | put =>
        have hpass : s'.act (.record s'.clock.reading) = s.step .tick :=
          (Session.step_tick running).symm.trans (h.samples before).step_tick
        rw [hpass] at after
        exact (Around.none _).samples after

theorem of_absorbs {p : Option Instant} (habsorbs : ∀ r ∈ p, s.Absorbs r)
    (hrunning : p.isSome = true → s.timer.sampling = true) : Around s ⟨s, p⟩ :=
  ⟨.inl rfl, fun r hr => .inl (habsorbs r hr), hrunning⟩

/-- Once the sampler has made a pass, what it has in flight makes no difference. -/
theorem absorbs (h : Around s f) (hs : s.Settled) : ∀ r ∈ f.inFlight, s.Absorbs r := by
  intro r hr
  rcases h.inFlight r hr with habsorbs | rfl
  · exact habsorbs
  · exact hs.absorbs (h.running (Option.isSome_of_mem hr))

/-- The sampler ends without having changed anything. -/
theorem eq_markClosed (h : Around s f) (hs : s.Settled) {s' : Session}
    (hsamples : Samples ⟨s.markClosed, f.inFlight⟩ ⟨s', Option.none⟩) : s' = s.markClosed := by
  have hmarked : Around s.markClosed ⟨s.markClosed, f.inFlight⟩ :=
    of_absorbs (fun r hr => (h.absorbs hs r hr).of_time_eq rfl) h.running
  refine (hmarked.samples hsamples).session_eq ?_
  by_cases hsampling : s.timer.sampling = true
  · have habsorbs : s.markClosed.Absorbs s.clock.reading := (hs.absorbs hsampling).of_time_eq rfl
    exact (Session.step_tick (s := s.markClosed) hsampling).trans habsorbs
  · exact Session.step_tick_of_not_sampling hsampling

/-- What is in flight during an operation makes no difference after it. -/
theorem operates (h : Around s f) (hs : s.Settled) (hop : Operates e f g) :
    Around (s.step e) g := by
  cases hop with
  | init =>
    obtain rfl := h.session_eq hs
    refine of_absorbs (fun r hr => (h.absorbs hs r hr).act .init) fun hsome => ?_
    exact Session.sampling_step_iff.2 ⟨.inl (h.running hsome), nofun⟩
  | @sample s₁ s₂ p p' meanwhile =>
    have hmeanwhile := h.samples meanwhile
    have hclock : s₁.clock = s.clock := h.clock
    obtain rfl : s₂ = s := hmeanwhile.session_eq hs
    rw [hclock]
    change Around (s₂.act (.record s₂.clock.reading)) _
    refine of_absorbs (fun r hr => (hmeanwhile.absorbs hs r hr).act _) fun hsome => ?_
    exact Session.sampling_step_iff (e := .sample).2 ⟨.inl (hmeanwhile.running hsome), nofun⟩
  | @restart s₁ s₂ p p' d meanwhile =>
    have hmeanwhile := h.samples meanwhile
    have hclock : s₁.clock = s.clock := h.clock
    obtain rfl : s₂ = s := hmeanwhile.session_eq hs
    rw [hclock]
    change Around (s₂.act (.restart d s₂.clock.reading)) _
    exact of_absorbs (fun r hr => (hmeanwhile.absorbs hs r hr).act _) hmeanwhile.running
  | close meanwhile =>
    obtain rfl := h.session_eq hs
    obtain rfl := h.eq_markClosed hs meanwhile
    exact Around.none _
  | set | advance | rewind =>
    obtain rfl := h.session_eq hs
    exact of_absorbs (fun r hr => (h.absorbs hs r hr).of_time_eq rfl) h.running
  | tick =>
    rw [hs]
    exact h

end Around

/-! ## What is observed -/

/-- However the threads are scheduled, the owner observes the states of the live session. -/
theorem Observes.eq_liveStates (hobs : Observes f events states) (h : Around s f)
    (hs : s.Settled) : states = s.liveStates events := by
  induction hobs generalizing s with
  | done =>
    rw [h.session_eq hs]
    rfl
  | @next f g h' k e events states idle operation wait pass rest ih =>
    have hop := (h.samples idle).operates hs operation
    have hlive : Around (s.stepLive e) k := by
      by_cases hsampling : h'.session.timer.sampling = true
      · exact hop.passes (pass hsampling)
      · rw [hop.sampling] at hsampling
        rw [Session.stepLive, Session.step_tick_of_not_sampling hsampling]
        exact hop.samples wait
    rw [h.session_eq hs, ih hlive (s.step e).settled_step_tick]
    rfl

theorem passes_tick (h : s.timer.sampling = true) : Passes ⟨s, none⟩ ⟨s.step .tick, none⟩ := by
  rw [Session.step_tick h]
  exact .pass .refl (.take h) .put .refl

theorem Passes.samples (h : Passes f g) : Samples f g := by
  cases h with
  | pass before reads records after => exact before.trans (.head reads (.head records after))

/-- An operation in one go, with the state that it leaves before the next pass of the sampler. -/
theorem exists_operates (s : Session) (e : Event) :
    ∃ s', Operates e ⟨s, none⟩ ⟨s', none⟩ ∧ s'.step .tick = s.stepLive e := by
  cases e with
  | init => exact ⟨_, .init, rfl⟩
  | sample => exact ⟨_, .sample .refl, rfl⟩
  | restart => exact ⟨_, .restart .refl, rfl⟩
  | close => exact ⟨_, .close .refl, rfl⟩
  | set => exact ⟨_, .set, rfl⟩
  | advance => exact ⟨_, .advance, rfl⟩
  | rewind => exact ⟨_, .rewind, rfl⟩
  | tick => exact ⟨s, .tick, s.settled_step_tick.symm⟩

/-- Some schedule lets the owner observe the states of the live session. -/
theorem observes_liveStates (s : Session) (events : List Event) :
    Observes ⟨s, none⟩ events (s.liveStates events) := by
  induction events generalizing s with
  | nil => exact .done
  | cons e events ih =>
    obtain ⟨s', hop, htick⟩ := exists_operates s e
    have hpasses : s'.timer.sampling = true → Passes ⟨s', none⟩ ⟨s.stepLive e, none⟩ := by
      rw [← htick]
      exact passes_tick
    refine .next .refl hop ?_ hpasses (ih _)
    by_cases hsampling : s'.timer.sampling = true
    · exact (hpasses hsampling).samples
    · rw [← htick, Session.step_tick_of_not_sampling hsampling]
      exact .refl

/-- The schedule of the sampler does not show. What is done to a timer leaves it the same in
whatever order the readings are recorded, and however often each is, as long as the other
operations come in the same order; and an owner who waits for a pass of the sampler after each
operation observes the states of the live session under every schedule, and no others. -/
theorem schedule_unobservable :
    (∀ (t : Timer) (actions actions' : List Timer.Action),
      ((actions.filter fun a => !a.isRecord) = actions'.filter fun a => !a.isRecord) →
      (∀ r, .record r ∈ actions ↔ .record r ∈ actions') →
      t.perform actions = t.perform actions') ∧
    ∀ (duration : Int) (clock : Clock) (events : List Event) (states : List Session),
      Observes ⟨.begin duration clock, none⟩ events states ↔
        states = (Session.begin duration clock).liveStates events := by
  refine ⟨fun t _ _ => t.perform_congr _ _, fun duration clock events states => ⟨fun h => ?_, ?_⟩⟩
  · exact h.eq_liveStates (Around.none _) (Session.step_tick_of_not_sampling nofun)
  · rintro rfl
    exact observes_liveStates _ events

/-- A reading from before a restart that is recorded once more when the timer has been closed, and
a sampled timer whose clock is put back before the timer is closed. -/
theorem schedule_unobservable_late :
    let t := Timer.begin 1000 (.ofInt 0)
    t.perform [.record (.ofInt 300), .record .invalid, .restart 50 (.ofInt 200), .close] =
      t.perform [.record .invalid, .restart 50 (.ofInt 200), .record (.ofInt 300), .close,
        .record (.ofInt 300)] ∧
    Observes ⟨.begin 1000 ⟨.ofInt 700⟩, none⟩ [.init, .rewind (.ofMillis 400), .close]
      [⟨⟨.ofInt 700, .ofInt 700, 1000, false, false⟩, ⟨.ofInt 700⟩⟩,
        ⟨⟨.ofInt 700, .ofInt 700, 1000, false, true⟩, ⟨.ofInt 700⟩⟩,
        ⟨⟨.ofInt 700, .ofInt 700, 1000, false, true⟩, ⟨.ofInt 300⟩⟩,
        ⟨⟨.ofInt 700, .ofInt 700, 1000, true, false⟩, ⟨.ofInt 300⟩⟩] := by
  obtain ⟨hperform, hobserves⟩ := schedule_unobservable
  exact ⟨hperform _ _ _ rfl (by simp [or_comm]), (hobserves _ _ _ _).2 (by decide +kernel)⟩

end Threads
end WallClock
