import WallClock.Proofs.Instant.Clip
import WallClock.Proofs.Stamp.Parse
import WallClock.Proofs.Timer.Latest

/-!
# All instants are canonical

Instants come out of doubles, dates and times, and out of each other by steps, clocks and timers.
`Instant.MadeAs` follows all of these in any order, with the double that each gives by operations
on doubles alone. That double is canonical, and it is the one that the instant is held as
(`Instant.made_canonical`).
-/

namespace WallClock

/-- What a timer and its clock hold: the doubles of three instants. -/
structure Held where
  start : Binary64
  time : Binary64
  reading : Binary64

/-- Records what the clock holds, if it is later or what was recorded is not a number. -/
def Held.record (d : Held) : Held :=
  if d.time = .nan || (d.reading.comparison d.time).gt then { d with time := d.reading } else d

def Session.held (s : Session) : Held :=
  ⟨s.timer.start.millis, s.timer.time.millis, s.clock.reading.millis⟩

mutual

/-- An instant can be made so that it is held as the double `x`. -/
inductive Instant.MadeAs : Instant → Binary64 → Prop
  | invalid : Instant.MadeAs .invalid .nan
  | epoch : Instant.MadeAs .epoch (.finite false 0 Binary64.fits_zero)
  | ofMillis (a : Binary64) : Instant.MadeAs (.ofMillis a) a.clip
  /-- The conversion of a date and time, by its milliseconds. -/
  | ofDateTime (ms : Int) : Instant.MadeAs (.ofInt ms) (Binary64.ofInt ms).clip
  | ofHostClock (ms : Int) :
      Instant.MadeAs (.ofHostClock ms) (if ms < 0 then .nan else Binary64.ofInt ms).clip
  | shift {t : Instant} {x : Binary64} (h : Instant.MadeAs t x) (step : Step) :
      Instant.MadeAs (t.shift step) (x + step.delta).clip
  | start {s : Session} {d : Held} (h : Session.MadeAs s d) : Instant.MadeAs s.timer.start d.start
  | time {s : Session} {d : Held} (h : Session.MadeAs s d) : Instant.MadeAs s.timer.time d.time
  | reading {s : Session} {d : Held} (h : Session.MadeAs s d) :
      Instant.MadeAs s.clock.reading d.reading

/-- A timer and its clock can be brought to hold the doubles `d`. -/
inductive Session.MadeAs : Session → Held → Prop
  | begin {r : Instant} {x : Binary64} (h : Instant.MadeAs r x) (duration : Int) :
      Session.MadeAs (.begin duration ⟨r⟩) ⟨x, x, x⟩
  | set {s : Session} {d : Held} {r : Instant} {x : Binary64} (h : Session.MadeAs s d)
      (hr : Instant.MadeAs r x) : Session.MadeAs (s.step (.set r)) { d with reading := x }
  | advance {s : Session} {d : Held} (h : Session.MadeAs s d) (span : Span) :
      Session.MadeAs (s.step (.advance span))
        { d with reading := (d.reading + .ofInt span.wholeMillis).clip }
  | rewind {s : Session} {d : Held} (h : Session.MadeAs s d) (span : Span) :
      Session.MadeAs (s.step (.rewind span))
        { d with reading := (d.reading + -.ofInt span.wholeMillis).clip }
  | sample {s : Session} {d : Held} (h : Session.MadeAs s d) :
      Session.MadeAs (s.step .sample) d.record
  | tick {s : Session} {d : Held} (h : Session.MadeAs s d) :
      Session.MadeAs (s.step .tick) (if s.timer.sampling then d.record else d)
  | restart {s : Session} {d : Held} (h : Session.MadeAs s d) (duration : Int) :
      Session.MadeAs (s.step (.restart duration)) { d with start := d.reading }
  | init {s : Session} {d : Held} (h : Session.MadeAs s d) : Session.MadeAs (s.step .init) d
  | close {s : Session} {d : Held} (h : Session.MadeAs s d) : Session.MadeAs (s.step .close) d

end

namespace Instant

open Binary64

theorem millis_addMillis (t : Instant) (delta : Binary64) :
    (t.addMillis delta).millis = (t.millis + delta).clip := millis_ofMillis _

theorem millis_ofHostClock (ms : Int) :
    (ofHostClock ms).millis = (if ms < 0 then .nan else Binary64.ofInt ms).clip := by
  unfold ofHostClock
  split
  · rfl
  · exact millis_ofInt ms

theorem decide_millis_eq_nan (t : Instant) : decide (t.millis = nan) = !t.isValid := by
  cases t with
  | invalid => rfl
  | valid ms bounded =>
    refine decide_eq_false fun h => ?_
    have hint := int?_millis (t := valid ms bounded) rfl
    rw [h] at hint
    nomatch hint

end Instant

namespace Session

/-- A reading is recorded as it is held. -/
theorem held_sample (s : Session) : (s.step .sample).held = s.held.record := by
  have hlater : (s.held.time = .nan || (s.held.reading.comparison s.held.time).gt) =
      (!s.timer.time.isValid || s.timer.time < s.clock.reading) := by
    rw [held, Instant.decide_millis_eq_nan, Instant.comparison_millis]
    rfl
  change Held.mk (s.timer.record s.clock.reading).start.millis
    (s.timer.record s.clock.reading).time.millis s.clock.reading.millis = _
  unfold Timer.record Held.record
  rw [hlater]
  split <;> rfl

theorem held_tick (s : Session) :
    (s.step .tick).held = if s.timer.sampling then s.held.record else s.held := by
  change Session.held { s with timer := s.timer.tick s.clock.reading } = _
  unfold Timer.tick
  split
  · exact held_sample s
  · rfl

/-- A clock that is moved holds a clipped sum. -/
theorem held_addMillis (s : Session) (delta : Binary64) :
    held { s with clock := ⟨s.clock.reading.addMillis delta⟩ } =
      { s.held with reading := (s.held.reading + delta).clip } :=
  congrArg (Held.mk s.held.start s.held.time) (Instant.millis_addMillis _ _)

theorem held_init (s : Session) : (s.step .init).held = s.held := by
  change Session.held { s with timer := s.timer.init } = _
  rw [Timer.init_eq]
  rfl

end Session

/-! ## Operations on doubles alone

Instants and sessions are made out of each other, so the induction is on both at once. -/

mutual

theorem Instant.MadeAs.eq_millis {t : Instant} {x : Binary64} (h : t.MadeAs x) : x = t.millis := by
  match h with
  | .invalid => rfl
  | .epoch => exact Binary64.ofInt_zero.symm
  | .ofMillis a => exact (Instant.millis_ofMillis a).symm
  | .ofDateTime ms => exact (Instant.millis_ofInt ms).symm
  | .ofHostClock ms => exact (Instant.millis_ofHostClock ms).symm
  | .shift h step => rw [h.eq_millis, Instant.shift_eq_addMillis, Instant.millis_addMillis]
  | .start h => exact congrArg Held.start h.eq_held
  | .time h => exact congrArg Held.time h.eq_held
  | .reading h => exact congrArg Held.reading h.eq_held

theorem Session.MadeAs.eq_held {s : Session} {d : Held} (h : s.MadeAs d) : d = s.held := by
  match h with
  | .begin h duration => rw [h.eq_millis]; rfl
  | .set h hr => rw [h.eq_held, hr.eq_millis]; rfl
  | .advance h span => rw [h.eq_held, ← Session.held_addMillis]; rfl
  | .rewind h span => rw [h.eq_held, ← Session.held_addMillis]; rfl
  | .sample h => rw [h.eq_held, Session.held_sample]
  | .tick h => rw [h.eq_held, Session.held_tick]
  | .restart h duration => exact h.eq_held ▸ rfl
  | .init h => rw [h.eq_held, Session.held_init]
  | .close h => exact h.eq_held

end

namespace Zone

variable [Database] {z : Zone} {t : Instant}

/-- The instants found under what a clock shows are conversions of dates and times, all valid. -/
theorem madeAs_of_mem_instants {shown : DateTime} (h : shown.time.nanosecond < 2000000000)
    (ht : t ∈ z.instants shown) :
    ∃ ms, t.millis? = some ms ∧ t.MadeAs (Binary64.ofInt ms).clip := by
  obtain ⟨second, -, -, hms⟩ := (z.regular_timeline.mem_instants_iff h).1 ht
  have hmade := Instant.MadeAs.ofDateTime (1000 * second + (shown.time.nanosecond / 1000000 : Nat))
  rw [← Instant.eq_ofInt_of_millis? hms] at hmade
  exact ⟨_, hms, hmade⟩

theorem madeAs_of_parse {text : String} (h : z.parse text = .ok t) :
    ∃ ms, t.millis? = some ms ∧ t.MadeAs (Binary64.ofInt ms).clip := by
  obtain ⟨s, hs, -, hfirst⟩ := exists_firstShows_of_parse h
  have hmem := List.mem_of_mem_head? ((firstShows_iff hs).1 hfirst)
  exact madeAs_of_mem_instants (Nat.zero_lt_succ _) hmem

end Zone

namespace Instant

open Binary64

/-- All instants are held as canonical doubles, in whatever order they are made out of doubles,
dates and times, steps, clocks and timers, and their doubles give them back. Making an instant from
a double cuts off the fraction of what is in range, and keeps the order. Valid instants compare as
integers, others not at all, and what is invalid stays so. -/
theorem made_canonical [Database] :
    (∀ (t : Instant) (x : Binary64), t.MadeAs x → t.millis = x ∧ x.Canonical) ∧
    (∀ (z : Zone) (shown : DateTime) (t : Instant), shown.time.nanosecond < 2000000000 →
      t ∈ z.instants shown → ∃ ms, t.millis? = some ms ∧ t.MadeAs (Binary64.ofInt ms).clip) ∧
    (∀ (z : Zone) (text : String) (t : Instant), z.parse text = .ok t →
      ∃ ms, t.millis? = some ms ∧ t.MadeAs (Binary64.ofInt ms).clip) ∧
    (∀ t : Instant, ofMillis t.millis = t) ∧
    (∀ (a : Binary64) (ms : Int), (ofMillis a).millis? = some ms ↔ ∃ u, a.units? = some u ∧
      u.natAbs ≤ maxMillis * unitsPerOne ∧ ms = u.tdiv unitsPerOne) ∧
    (∀ a b : Binary64, a ≤ b → (ofMillis a).isValid = true → (ofMillis b).isValid = true →
      ofMillis a ≤ ofMillis b) ∧
    (∀ t u : Instant, t.comparison u = t.millis.comparison u.millis) ∧
    (∀ (t u : Instant) (x y : Int), t.millis? = some x → u.millis? = some y →
      t.comparison u = .ofInts x y ∧ t.order? u = some (compare x y)) ∧
    (∀ t u : Instant, t.isValid = false ∨ u.isValid = false →
      t.comparison u = .unordered ∧ t.order? u = none) ∧
    ∀ t : Instant, t.isValid = false → (∀ step, (t.shift step).isValid = false) ∧
      ∀ span, ((Clock.mk t).advance span).reading.isValid = false ∧
        ((Clock.mk t).rewind span).reading.isValid = false := by
  refine ⟨?_, fun _ _ _ => Zone.madeAs_of_mem_instants, fun _ _ _ => Zone.madeAs_of_parse,
    ofMillis_millis, fun _ _ => millis?_ofMillis_eq_some_iff, fun _ _ => ofMillis_le_ofMillis,
    fun t u => (comparison_millis t u).symm, ?_, fun _ _ => comparison_of_not_isValid, ?_⟩
  · intro t x h
    obtain rfl := h.eq_millis
    exact ⟨rfl, canonical_millis t⟩
  · intro t u x y ht hu
    exact ⟨comparison_of_millis? ht hu, order?_of_millis? ht hu⟩
  · intro t ht
    obtain rfl := eq_invalid_of_not_isValid (Bool.eq_false_iff.1 ht)
    exact ⟨fun step => by rw [invalid_shift]; rfl, fun span =>
      ⟨by rw [Clock.advance, invalid_addMillis]; rfl, by rw [Clock.rewind, invalid_addMillis]; rfl⟩⟩

section
attribute [local instance] Database.recorded

/-- Half a millisecond before the beginning of 1970, which is cut off to the positive zero, and a
clock that starts there and is moved out of range. -/
theorem made_canonical_negative_half :
    let half : Binary64 := .ofQuotient true unitsPerOne 2
    let step : Step := ⟨.seconds, .ofInt 90⟩
    let span : Span := .ofMillis 8640000000000001
    let t := (ofMillis half).shift step
    let s := (Session.begin 1000 ⟨ofMillis half⟩).step (.advance span)
    let day := ofInt 86400000
    t.millis = (half.clip + step.delta).clip ∧ half.clip = finite false 0 fits_zero ∧
      s.clock.reading.millis = (half.clip + .ofInt span.wholeMillis).clip ∧
      (∃ ms, day.millis? = some ms ∧ day.MadeAs (Binary64.ofInt ms).clip) ∧
      ofMillis t.millis = t ∧ (ofMillis half).millis? = some 0 ∧ ofMillis half ≤ t ∧
      t.comparison day = .ofInts 90000 86400000 ∧ s.clock.reading.comparison day = .unordered ∧
      (s.clock.reading.shift ⟨.days, .ofInt (-1)⟩).isValid = false := by
  obtain ⟨hmade, -, hparse, hback, hcut, hmono, -, hvalid, hinvalid, hsticky⟩ := made_canonical
  intro half step span t s day
  have hhalf : (ofMillis half).millis? = some 0 :=
    (hcut half 0).2 ⟨-(unitsPerOne / 2 : Nat), by decide +kernel, by decide +kernel,
      by decide +kernel⟩
  have hs : s.clock.reading.isValid = false := by decide +kernel
  have hshift : t.MadeAs (half.clip + step.delta).clip := .shift (.ofMillis half) step
  have hreading := Instant.MadeAs.reading (.advance (.begin (.ofMillis half) 1000) span)
  dsimp only at hreading
  refine ⟨(hmade t _ hshift).1, by decide +kernel, (hmade _ _ hreading).1,
    hparse .host "1970-01-02T00:00" day (by decide +kernel), hback t, hhalf, ?_,
    (hvalid t day 90000 86400000 (by decide +kernel) (by decide +kernel)).1,
    (hinvalid _ day (.inl hs)).1, (hsticky _ hs).1 _⟩
  have hle := hmono half t.millis (by decide +kernel) (by decide +kernel) (by decide +kernel)
  rwa [hback t] at hle

end

end Instant
end WallClock
