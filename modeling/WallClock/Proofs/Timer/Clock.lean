import WallClock.Proofs.Instant.Walk
import WallClock.Proofs.Timer.Lifecycle

/-!
# What a clock shows after a run

A clock shows what it was last set to, moved by the exact sum of the whole milliseconds of every
move since then (`Session.reading_exact`). From the first sum out of range on it shows the invalid
instant, and only setting it leads out of that. The moves of a clock are the steps of a walk
(`Session.reading_run`), so that all of this is known of walks.
-/

namespace WallClock

namespace Clock

/-! ## Moves as steps -/

theorem reading_advance (c : Clock) (span : Span) :
    (c.advance span).reading = c.reading.shift ⟨.millis, .ofInt span.wholeMillis⟩ := by
  simp only [advance, Instant.shift]

theorem reading_rewind (c : Clock) (span : Span) :
    (c.rewind span).reading = c.reading.shift ⟨.millis, -.ofInt span.wholeMillis⟩ := by
  simp only [rewind, Instant.shift]

/-- A rewind undoes an advance by the same span exactly when the advance stays in range. -/
theorem reading_rewind_advance_iff {c : Clock} {span : Span} (hspan : span.wholeMillis ≤ 2 ^ 53)
    (hvalid : c.reading.isValid = true) :
    ((c.advance span).rewind span).reading = c.reading ↔
      (c.advance span).reading.isValid = true := by
  have hint := Binary64.int?_ofInt (n := span.wholeMillis) (Binary64.onGrid_of_le hspan)
  rw [reading_rewind, reading_advance]
  constructor
  · intro hback
    cases hout : (c.reading.shift ⟨.millis, .ofInt span.wholeMillis⟩).isValid with
    | true => rfl
    | false =>
      rw [← hback, Instant.eq_invalid_of_not_isValid (Bool.eq_false_iff.1 hout),
        Instant.invalid_shift] at hvalid
      exact hvalid
  · exact Instant.shift_neg_shift hint

end Clock

namespace Event

/-- Whether an event sets the clock. -/
def isSet : Event → Bool
  | .set _ => true
  | _ => false

/-- The step by which an event moves the clock. -/
def step? : Event → Option Step
  | .advance span => some ⟨.millis, .ofInt span.wholeMillis⟩
  | .rewind span => some ⟨.millis, -.ofInt span.wholeMillis⟩
  | _ => none

/-- The whole milliseconds by which an event moves the clock, counted downwards for a rewind. -/
def move? : Event → Option Int
  | .advance span => some span.wholeMillis
  | .rewind span => some (-span.wholeMillis)
  | _ => none

/-- The step of a clock is by whole milliseconds, which are a double without loss. -/
theorem map_millis?_step? {e : Event} (h : ∀ move ∈ e.move?, move.natAbs ≤ 2 ^ 53) :
    e.step?.map Step.millis? = e.move?.map some := by
  have hexact {n : Int} {a : Binary64} (ha : a.int? = some n) :
      some (⟨.millis, a⟩ : Step).millis? = some (some n) := by
    apply congrArg
    rw [Step.millis?_eq_some_iff]
    exact ⟨n, ha, Int.one_mul n⟩
  cases e with
  | advance span =>
    apply hexact
    exact Binary64.int?_ofInt (Binary64.onGrid_of_le (h _ rfl))
  | rewind span =>
    have hspan := h _ rfl
    rw [Int.natAbs_neg] at hspan
    apply hexact
    exact Binary64.int?_neg (Binary64.int?_ofInt (Binary64.onGrid_of_le hspan))
  | init | sample | tick | close | restart | set => rfl

theorem map_millis?_filterMap_step? {events : List Event}
    (h : ∀ move ∈ events.filterMap move?, move.natAbs ≤ 2 ^ 53) :
    (events.filterMap step?).map Step.millis? = (events.filterMap move?).map some := by
  rw [List.map_filterMap, List.map_filterMap]
  apply List.filterMap_congr
  intro e he
  apply map_millis?_step?
  intro move hmove
  exact h move (List.mem_filterMap.2 ⟨e, he, hmove⟩)

end Event

namespace Session

/-- In a run of a session the clock was last set to `reading`, or has not been set and shows it at
the beginning; `since` are the events after that. -/
inductive LastSet (s : Session) : List Event → Instant → List Event → Prop
  | never {events : List Event} (h : ∀ e ∈ events, e.isSet = false) :
    LastSet s events s.clock.reading events
  | set (before : List Event) (reading : Instant) {since : List Event}
    (h : ∀ e ∈ since, e.isSet = false) : LastSet s (before ++ .set reading :: since) reading since

variable {s : Session} {events since : List Event} {reading : Instant} {m : Int}

theorem exists_lastSet (s : Session) (events : List Event) :
    ∃ reading since, s.LastSet events reading since := by
  induction events with
  | nil => exact ⟨_, _, .never nofun⟩
  | cons e events ih =>
    obtain ⟨reading, since, h⟩ := ih
    cases h with
    | set before _ h => exact ⟨_, _, .set (e :: before) reading h⟩
    | never h =>
      cases e with
      | set r => exact ⟨_, _, .set [] r h⟩
      | init | sample | tick | close | restart | advance | rewind =>
        exact ⟨_, _, .never (List.forall_mem_cons.2 ⟨rfl, h⟩)⟩

/-! ## Runs as walks -/

theorem reading_step_of_some {e : Event} {step : Step} (h : e.step? = some step) :
    (s.step e).clock.reading = s.clock.reading.shift step := by
  cases e with
  | advance span =>
    cases h
    exact s.clock.reading_advance span
  | rewind span =>
    cases h
    exact s.clock.reading_rewind span
  | init | sample | tick | close | restart | set => nomatch h

theorem reading_step_of_none {e : Event} (h : e.step? = none) (hset : e.isSet = false) :
    (s.step e).clock.reading = s.clock.reading := by
  cases e with
  | advance | rewind => nomatch h
  | set => nomatch hset
  | init | sample | tick | close | restart => rfl

/-- As long as it is not set, a clock walks by the steps of the events. -/
theorem reading_run (h : ∀ e ∈ events, e.isSet = false) :
    (s.run events).clock.reading = s.clock.reading.walk (events.filterMap Event.step?) := by
  induction events generalizing s with
  | nil => rfl
  | cons e events ih =>
    obtain ⟨he, hevents⟩ := List.forall_mem_cons.1 h
    rw [run_cons, ih hevents]
    cases hstep : e.step? with
    | none => rw [List.filterMap_cons_none hstep, reading_step_of_none hstep he]
    | some step =>
      rw [List.filterMap_cons_some hstep, reading_step_of_some hstep, Instant.walk, Instant.walk,
        List.foldl_cons]

/-- A clock that is not set shows the exact sum of its moves, unless a sum on the way is out of
range. -/
theorem millis?_reading_run_eq_some_iff (h : ∀ e ∈ events, e.isSet = false)
    (hmoves : ∀ move ∈ events.filterMap Event.move?, move.natAbs ≤ 2 ^ 53) :
    (s.run events).clock.reading.millis? = some m ↔ ∃ x, s.clock.reading.millis? = some x ∧
      Instant.StaysInRange x (events.filterMap Event.move?) ∧
        m = x + (events.filterMap Event.move?).sum := by
  rw [reading_run h]
  exact Instant.millis?_walk_eq_some_iff (Event.map_millis?_filterMap_step? hmoves)

theorem LastSet.millis?_reading_run_eq_some_iff (h : s.LastSet events reading since)
    (hmoves : ∀ move ∈ since.filterMap Event.move?, move.natAbs ≤ 2 ^ 53) :
    (s.run events).clock.reading.millis? = some m ↔ ∃ x, reading.millis? = some x ∧
      Instant.StaysInRange x (since.filterMap Event.move?) ∧
        m = x + (since.filterMap Event.move?).sum := by
  cases h with
  | never h => exact Session.millis?_reading_run_eq_some_iff h hmoves
  | set before _ h =>
    rw [run_append, run_cons]
    exact Session.millis?_reading_run_eq_some_iff h hmoves

/-! ## What moves do not change -/

/-- No move leads out of the invalid instant. -/
theorem isValid_reading_run_eq_false (hinvalid : s.clock.reading.isValid = false)
    (h : ∀ e ∈ events, e.isSet = false) : (s.run events).clock.reading.isValid = false := by
  rw [reading_run h, Instant.eq_invalid_of_not_isValid (Bool.eq_false_iff.1 hinvalid),
    Instant.invalid_walk]
  rfl

/-- Moves by less than a millisecond do nothing, however many there are. -/
theorem reading_run_of_lt (h : ∀ e ∈ events, e.isSet = false)
    (hshort : ∀ span, .advance span ∈ events ∨ .rewind span ∈ events → span.nanoseconds < 1000000) :
    (s.run events).clock.reading = s.clock.reading := by
  have hzero {span : Span} (h : span.nanoseconds < 1000000) :
      (Binary64.ofInt span.wholeMillis).int? = some 0 := by
    have hspan : span.wholeMillis = 0 := Nat.div_eq_of_lt h
    rw [hspan]
    exact Binary64.int?_ofInt (Binary64.onGrid_of_le (Nat.zero_le _))
  rw [reading_run h]
  apply Instant.walk_eq_self
  intro step hmem
  obtain ⟨e, he, hstep⟩ := List.mem_filterMap.1 hmem
  cases e with
  | advance span =>
    cases hstep
    dsimp only
    exact hzero (hshort span (.inl he))
  | rewind span =>
    cases hstep
    dsimp only
    rw [Binary64.int?_neg (hzero (hshort span (.inr he))), Int.neg_zero]
  | init | sample | tick | close | restart | set => nomatch hstep

/-- The clock over whole runs. It shows what it was last set to and the exact sum of the whole
milliseconds moved since then, as long as no sum on the way is out of range. From the first that is,
or where it was set to the invalid instant, it shows that until it is set again. So a rewind undoes
an advance exactly when the advance stays in range. Fractions of milliseconds are dropped at every
move and never add up. -/
theorem reading_exact (s : Session) (events : List Event) :
    (∃ reading since, s.LastSet events reading since) ∧
    (∀ (reading : Instant) (since : List Event), s.LastSet events reading since →
      (∀ move ∈ since.filterMap Event.move?, move.natAbs ≤ 2 ^ 53) →
      ∀ m, (s.run events).clock.reading.millis? = some m ↔ ∃ x, reading.millis? = some x ∧
        Instant.StaysInRange x (since.filterMap Event.move?) ∧
          m = x + (since.filterMap Event.move?).sum) ∧
    (∀ more : List Event, (s.run events).clock.reading.isValid = false →
      (∀ e ∈ more, e.isSet = false) → (s.run (events ++ more)).clock.reading.isValid = false) ∧
    (∀ span : Span, span.wholeMillis ≤ 2 ^ 53 → (s.run events).clock.reading.isValid = true →
      ((s.run (events ++ [.advance span, .rewind span])).clock.reading =
          (s.run events).clock.reading ↔
        (s.run (events ++ [.advance span])).clock.reading.isValid = true)) ∧
    ∀ more : List Event, (∀ e ∈ more, e.isSet = false) →
      (∀ span, .advance span ∈ more ∨ .rewind span ∈ more → span.nanoseconds < 1000000) →
      (s.run (events ++ more)).clock.reading = (s.run events).clock.reading := by
  refine ⟨exists_lastSet s events, ?_, ?_, ?_, ?_⟩
  · intro reading since h hmoves m
    exact h.millis?_reading_run_eq_some_iff hmoves
  · intro more hinvalid hmore
    rw [run_append]
    exact isValid_reading_run_eq_false hinvalid hmore
  · intro span hspan hvalid
    rw [run_append, run_append]
    exact Clock.reading_rewind_advance_iff hspan hvalid
  · intro more hmore hshort
    rw [run_append]
    exact reading_run_of_lt hmore hshort

/-- A clock that was moved, set, and moved there and back by fractions of milliseconds, and one that
was moved out of range. -/
theorem reading_exact_there_and_back :
    let s := begin 1000 ⟨.epoch⟩
    let there : Event := .advance (.ofMicros 2999)
    let back : Event := .rewind (.ofMicros 1500)
    let events : List Event := [.advance (.ofMillis 1500), .set (.ofInt 42), there, .sample, back]
    let beyond : List Event := [.set (.ofInt 8640000000000000), .advance (.ofMillis 1)]
    (s.run events).clock.reading.millis? = some 43 ∧
      (s.run (events ++ [.advance (.ofMillis 7), .rewind (.ofMillis 7)])).clock.reading =
        (s.run events).clock.reading ∧
      (s.run (events ++ [.advance (.ofMicros 999), .advance (.ofMicros 999)])).clock.reading =
        (s.run events).clock.reading ∧
      (s.run beyond).clock.reading.millis? = none ∧
      (s.run (beyond ++ [.rewind (.ofMillis 1)])).clock.reading.isValid = false := by
  intro s there back events beyond
  obtain ⟨-, hexact, -, hback, hshort⟩ := reading_exact s events
  obtain ⟨-, hout, hstays, -, -⟩ := reading_exact s beyond
  have hlast : s.LastSet events (.ofInt 42) [there, .sample, back] :=
    .set [.advance (.ofMillis 1500)] (.ofInt 42) (by decide)
  have hread : (s.run events).clock.reading.millis? = some 43 := by
    refine (hexact _ _ hlast (by decide) 43).2 ⟨42, by decide, ?_, by decide⟩
    unfold Instant.StaysInRange
    decide
  have hnone : (s.run beyond).clock.reading.millis? = none := by
    have hlast : s.LastSet beyond (.ofInt 8640000000000000) [.advance (.ofMillis 1)] :=
      .set [] _ (by decide)
    refine Option.eq_none_iff_forall_ne_some.2 fun m hm => ?_
    obtain ⟨x, hx, hrange, -⟩ := (hout _ _ hlast (by decide) m).1 hm
    obtain rfl : 8640000000000000 = x := Option.some.inj hx
    exact absurd (hrange 1 (by decide)) (by decide)
  have hvalid := Instant.isValid_iff.2 ⟨43, hread⟩
  refine ⟨hread, ?_, ?_, hnone, ?_⟩
  · refine (hback (.ofMillis 7) (by decide) hvalid).2 ?_
    decide +kernel
  · refine hshort _ (by decide) ?_
    simp [Span.ofMicros]
  · refine hstays _ ?_ (by decide)
    rw [Instant.eq_invalid_of_millis? hnone]
    rfl

end Session
end WallClock
