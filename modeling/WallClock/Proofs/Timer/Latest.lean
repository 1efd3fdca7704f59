import WallClock.Proofs.Instant.Millis
import WallClock.Proofs.Timer.Lifecycle

/-!
# The recorded time is the latest reading

The recorded time of a timer is the greatest of the valid readings taken so far, at the beginning,
on request and by the sampler, and it is invalid as long as all of them are
(`Session.time_latest`). Whether a reading is taken follows from the event and the sampler
(`Session.taken`), so that the recorded time is a function of the readings of a run
(`Session.millis?_time_run`).
-/

namespace WallClock

/-- The greatest of the valid instants of a list, in milliseconds. -/
def Instant.latest? (readings : List Instant) : Option Int :=
  (readings.filterMap Instant.millis?).max?

namespace Session

/-- The readings that are taken of the clock at an event. -/
def taken (s : Session) : Event → List Instant
  | .sample => [s.clock.reading]
  | .tick => if s.timer.sampling then [s.clock.reading] else []
  | _ => []

/-- The readings that are taken of the clock in the course of a run. -/
def readings (s : Session) : List Event → List Instant
  | [] => []
  | e :: events => s.taken e ++ (s.step e).readings events

end Session

namespace Instant

variable {r : Instant} {rs : List Instant} {x y : Int}

theorem latest?_cons_none (h : r.millis? = none) : latest? (r :: rs) = latest? rs := by
  rw [latest?, List.filterMap_cons_none h, latest?]

theorem latest?_cons_some (h : r.millis? = some x) :
    latest? (r :: rs) = (x :: rs.filterMap millis?).max? := by
  rw [latest?, List.filterMap_cons_some h]

theorem latest?_singleton (r : Instant) : latest? [r] = r.millis? := by
  cases h : r.millis? with
  | none => rw [latest?_cons_none h]; rfl
  | some x => rw [latest?_cons_some h]; rfl

theorem exists_le_latest?_iff :
    (∃ y, latest? rs = some y ∧ x ≤ y) ↔ ∃ r ∈ rs, r.AtOrAfter x := by
  unfold latest?
  constructor
  · rintro ⟨y, hy, hle⟩
    obtain ⟨r, hr, hmillis⟩ := List.mem_filterMap.1 (List.max?_mem hy)
    exact ⟨r, hr, y, hmillis, hle⟩
  · rintro ⟨r, hr, y, hmillis, hle⟩
    have hmem := List.mem_filterMap.2 ⟨r, hr, hmillis⟩
    obtain ⟨m, hm⟩ := Option.isSome_iff_exists.1 (List.isSome_max?_of_mem hmem)
    exact ⟨m, hm, Int.le_trans hle ((List.max?_le_iff hm).1 (Int.le_refl m) y hmem)⟩

end Instant

namespace Timer

variable {t : Timer} {r : Instant} {x y : Int}

theorem time_record (t : Timer) (r : Instant) :
    (t.record r).time = if !t.time.isValid || t.time < r then r else t.time := by
  unfold record
  split <;> rfl

/-- Any reading replaces the invalid one. -/
theorem time_record_of_none (h : t.time.millis? = none) : (t.record r).time = r := by
  rw [time_record, Instant.eq_invalid_of_millis? h]
  rfl

theorem time_record_invalid (ht : t.time.millis? = some x) : (t.record .invalid).time = t.time := by
  have hlt : ¬t.time < .invalid := fun h => by
    obtain ⟨_, _, _, hinvalid, _⟩ := Instant.exists_millis?_of_lt h
    nomatch hinvalid
  rw [time_record, Instant.isValid_iff.2 ⟨x, ht⟩, decide_eq_false hlt]
  rfl

/-- A valid reading counts if it is later. -/
theorem millis?_time_record (ht : t.time.millis? = some x) (hr : r.millis? = some y) :
    (t.record r).time.millis? = some (max x y) := by
  have hlt := Instant.lt_iff_of_millis? ht hr
  rw [time_record, Instant.isValid_iff.2 ⟨x, ht⟩, Bool.not_true, Bool.false_or]
  by_cases hxy : x < y
  · rw [if_pos (decide_eq_true (hlt.2 hxy)), hr, Int.max_eq_right (Int.le_of_lt hxy)]
  · rw [if_neg (by simpa using fun h => hxy (hlt.1 h)), ht, Int.max_eq_left (Int.not_lt.1 hxy)]

/-- Recording a reading is the same as counting it among the readings. -/
theorem latest?_record (t : Timer) (r : Instant) (rs : List Instant) :
    Instant.latest? ((t.record r).time :: rs) = Instant.latest? (t.time :: r :: rs) := by
  cases ht : t.time.millis? with
  | none => rw [time_record_of_none ht, Instant.latest?_cons_none ht]
  | some x =>
    cases hr : r.millis? with
    | none =>
      rw [Instant.eq_invalid_of_millis? hr, time_record_invalid ht, Instant.latest?_cons_some ht,
        Instant.latest?_cons_some ht, List.filterMap_cons_none rfl]
    | some y =>
      rw [Instant.latest?_cons_some (millis?_time_record ht hr), Instant.latest?_cons_some ht,
        List.filterMap_cons_some hr]
      rfl

end Timer

namespace Session

variable {s : Session} {e : Event} {events : List Event}

/-- An event counts the readings that it takes, and leaves the recorded time alone otherwise. -/
theorem latest?_step (s : Session) (e : Event) (rs : List Instant) :
    Instant.latest? ((s.step e).timer.time :: rs) =
      Instant.latest? (s.timer.time :: (s.taken e ++ rs)) := by
  cases e with
  | sample => exact s.timer.latest?_record s.clock.reading rs
  | tick =>
    change Instant.latest? ((s.timer.tick s.clock.reading).time :: rs) = _
    unfold Timer.tick taken
    split
    · exact s.timer.latest?_record s.clock.reading rs
    · rfl
  | init =>
    change Instant.latest? (s.timer.init.time :: rs) = _
    rw [Timer.init_eq]
    rfl
  | close | restart | set | advance | rewind => rfl

/-- After a run, the recorded time is the latest of what was recorded before and the readings of
the run. -/
theorem millis?_time_run (s : Session) (events : List Event) : (s.run events).timer.time.millis? =
    Instant.latest? (s.timer.time :: s.readings events) := by
  induction events generalizing s with
  | nil => exact (Instant.latest?_singleton _).symm
  | cons e events ih => rw [run_cons, ih, latest?_step, readings]

/-- The recorded time is at or after what some reading is at or after. -/
theorem time_run_atOrAfter_iff {ms : Int} : (s.run events).timer.time.AtOrAfter ms ↔
    s.timer.time.AtOrAfter ms ∨ ∃ r ∈ s.readings events, r.AtOrAfter ms := by
  unfold Instant.AtOrAfter
  rw [millis?_time_run]
  refine Instant.exists_le_latest?_iff.trans ?_
  simp only [List.mem_cons, exists_eq_or_imp]
  rfl

theorem time_run_of_readings_eq_nil (h : s.readings events = []) :
    (s.run events).timer.time = s.timer.time := by
  have hrun := millis?_time_run s events
  rw [h, Instant.latest?_singleton] at hrun
  exact Instant.eq_of_millis?_eq hrun

theorem time_le_time_run (s : Session) (events : List Event) (h : s.timer.time.isValid = true) :
    s.timer.time ≤ (s.run events).timer.time := by
  obtain ⟨x, hx⟩ := Instant.isValid_iff.1 h
  obtain ⟨y, hy, hle⟩ := time_run_atOrAfter_iff.2 (.inl ⟨x, hx, Int.le_refl x⟩)
  exact (Instant.le_iff_of_millis? hx hy).2 hle

theorem taken_eq_nil (hsampling : s.timer.sampling = false) (he : e ≠ .sample) :
    s.taken e = [] := by
  cases e with
  | sample => exact absurd rfl he
  | tick => rw [taken, if_neg (by simp [hsampling])]
  | init | close | restart | set | advance | rewind => rfl

/-- A closed timer takes no readings but those on request. -/
theorem readings_eq_nil (hclosed : s.timer.closed = true) (hsampling : s.timer.sampling = false)
    (h : .sample ∉ events) : s.readings events = [] := by
  induction events generalizing s with
  | nil => rfl
  | cons e events ih =>
    have he : e ≠ .sample := fun heq => h (heq ▸ .head _)
    have hevents : .sample ∉ events := fun hmem => h (.tail _ hmem)
    have hstill : (s.step e).timer.sampling = false := by
      rw [← Bool.not_eq_true, sampling_step_iff, hsampling, hclosed]
      simp
    rw [readings, taken_eq_nil hsampling he, List.nil_append,
      ih (closed_step_iff.2 (.inl hclosed)) hstill hevents]

/-- The recorded time over whole runs. It is the latest reading; it does not go back, nor become
invalid again; readings alone change it, and only those on request once the timer is closed. -/
theorem time_latest (duration : Int) (clock : Clock) :
    let s := begin duration clock
    (∀ events : List Event, (s.run events).timer.time.millis? =
      Instant.latest? (clock.reading :: s.readings events)) ∧
    (∀ events more : List Event, (s.run events).timer.time.isValid = true →
      (s.run events).timer.time ≤ (s.run (events ++ more)).timer.time) ∧
    (∀ (events : List Event) (e : Event), e ≠ .sample → e ≠ .tick →
      (s.run (events ++ [e])).timer.time = (s.run events).timer.time) ∧
    ∀ events more : List Event, (s.run events).timer.closed = true → .sample ∉ more →
      (s.run (events ++ more)).timer.time = (s.run events).timer.time := by
  refine ⟨fun events => millis?_time_run (begin duration clock) events, ?_, ?_, ?_⟩
  · intro events more h
    rw [run_append]
    exact time_le_time_run _ more h
  · intro events e hsample htick
    rw [run_append]
    apply time_run_of_readings_eq_nil
    cases e with
    | sample => exact absurd rfl hsample
    | tick => exact absurd rfl htick
    | init | close | restart | set | advance | rewind => rfl
  · intro events more hclosed hmore
    rw [run_append]
    have hsampling : ((begin duration clock).run events).timer.sampling = false := by
      rw [← Bool.not_eq_true, sampling_run_iff]
      have hclose := closed_run_iff.1 hclosed
      simp_all [begin, Timer.begin]
    exact time_run_of_readings_eq_nil (readings_eq_nil hclosed hsampling hmore)

/-- A clock that is put back and stops showing anything, and a timer that is closed before the
clock is read again. -/
theorem time_latest_put_back :
    let s := begin 1000 ⟨.invalid⟩
    let events : List Event := [.sample, .set (.ofInt 5000), .init, .tick, .rewind (.ofMillis 2000),
      .tick, .set .invalid, .sample]
    (s.run events).timer.time.millis? = some 5000 ∧
      (s.run events).timer.time ≤ (s.run (events ++ [.set (.ofInt 6000), .tick])).timer.time ∧
      (s.run (events ++ [.restart 7])).timer.time = (s.run events).timer.time ∧
      (s.run (events ++ [.close] ++ [.set (.ofInt 9000), .tick])).timer.time =
        (s.run (events ++ [.close])).timer.time := by
  obtain ⟨hlatest, hmono, hquiet, hclosed⟩ := time_latest 1000 ⟨.invalid⟩
  intro s events
  have htime : (s.run events).timer.time.millis? = some 5000 :=
    (hlatest events).trans (by decide +kernel)
  have hunread := hclosed (events ++ [.close]) [.set (.ofInt 9000), .tick]
  exact ⟨htime, hmono events _ (Instant.isValid_iff.2 ⟨5000, htime⟩),
    hquiet events (.restart 7) nofun nofun,
    hunread (closed_run_iff.2 (.inr (by simp))) (by simp)⟩

end Session
end WallClock
