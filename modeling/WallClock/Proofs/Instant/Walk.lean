import Mathlib.Algebra.BigOperators.Group.List.Basic
import Mathlib.Algebra.Ring.Int.Defs
import WallClock.Instant.Shift
import WallClock.Proofs.Instant.Millis

/-!
# Walks by whole numbers of units

Steps by integer amounts are exact (`Instant.shift_of_follows`), although an amount is multiplied
up to four times before it is added: the products are even, so that they are exact as far as a
sum can still be in range, and rounding does not bring back what is beyond that. A walk by such
steps ends at the exact sum, unless a sum on the way is out of range
(`Instant.millis?_walk_eq_some_iff`).
-/

namespace WallClock

/-- The whole milliseconds of a step, if its amount is an integer. -/
def Step.millis? (s : Step) : Option Int := s.amount.int?.map (s.unit.inMillis * ·)

theorem Step.millis?_eq_some_iff {s : Step} {move : Int} : s.millis? = some move ↔
    ∃ n, s.amount.int? = some n ∧ s.unit.inMillis * n = move := by
  rw [Step.millis?, Option.map_eq_some_iff]

namespace Instant

open Binary64

/-- None of the sums on the way from `x` by a list of moves is out of range. -/
def StaysInRange (x : Int) (moves : List Int) : Prop :=
  ∀ i ≤ moves.length, (x + (moves.take i).sum).natAbs ≤ maxMillis

variable {t : Instant} {a : Binary64} {x m n move : Int} {step : Step} {steps : List Step}
  {moves : List Int}

/-! ## Shifts by one unit -/

section
variable (ht : t.millis? = some x) (ha : Follows (2 ^ 54) a n)
include ht ha

theorem addSeconds_of_follows : t.addSeconds a = ofInt (x + 1000 * n) :=
  addMillis_of_follows ht
    (ha.even_mul (int?_ofInt (onGrid_of_le (by decide))) (by decide) (by decide))

theorem addMinutes_of_follows : t.addMinutes a = ofInt (x + 60000 * n) := by
  have hn := ha.even_mul (int?_ofInt (n := 60) (onGrid_of_le (by decide))) (by decide) (by decide)
  rw [addMinutes, addSeconds_of_follows ht hn, ← Int.mul_assoc]
  rfl

theorem addHours_of_follows : t.addHours a = ofInt (x + 3600000 * n) := by
  have hn := ha.even_mul (int?_ofInt (n := 60) (onGrid_of_le (by decide))) (by decide) (by decide)
  rw [addHours, addMinutes_of_follows ht hn, ← Int.mul_assoc]
  rfl

theorem addDays_of_follows : t.addDays a = ofInt (x + 86400000 * n) := by
  have hn := ha.even_mul (int?_ofInt (n := 24) (onGrid_of_le (by decide))) (by decide) (by decide)
  rw [addDays, addHours_of_follows ht hn, ← Int.mul_assoc]
  rfl

theorem shift_of_follows (unit : TimeUnit) : t.shift ⟨unit, a⟩ = ofInt (x + unit.inMillis * n) := by
  cases unit with
  | days => exact addDays_of_follows ht ha
  | hours => exact addHours_of_follows ht ha
  | minutes => exact addMinutes_of_follows ht ha
  | seconds => exact addSeconds_of_follows ht ha
  | millis =>
    refine (addMillis_of_follows ht ha).trans ?_
    rw [TimeUnit.inMillis, Int.natCast_one, Int.one_mul]

end

theorem invalid_shift (step : Step) : invalid.shift step = invalid := by
  obtain ⟨unit, amount⟩ := step
  cases unit <;> rfl

/-- What a step by a whole number of milliseconds does. -/
theorem millis?_shift_eq_some_iff (h : step.millis? = some move) :
    (t.shift step).millis? = some m ↔
      ∃ x, t.millis? = some x ∧ m = x + move ∧ (x + move).natAbs ≤ maxMillis := by
  obtain ⟨unit, amount⟩ := step
  obtain ⟨n, hn, rfl⟩ := Step.millis?_eq_some_iff.1 h
  cases ht : t.millis? with
  | none =>
    rw [eq_invalid_of_millis? ht, invalid_shift]
    simp [millis?]
  | some x =>
    rw [shift_of_follows ht (.exact hn), millis?_ofInt_eq_some_iff]
    simp

/-! ## Walks -/

theorem staysInRange_nil : StaysInRange x [] ↔ x.natAbs ≤ maxMillis := by
  simp [StaysInRange]

theorem staysInRange_cons : StaysInRange x (move :: moves) ↔
    x.natAbs ≤ maxMillis ∧ StaysInRange (x + move) moves := by
  constructor
  · intro h
    refine ⟨by simpa using h 0 (Nat.zero_le _), fun i hi => ?_⟩
    have hnext := h (i + 1) (Nat.succ_le_succ hi)
    rwa [List.take_succ_cons, List.sum_cons, ← Int.add_assoc] at hnext
  · rintro ⟨hx, h⟩ i hi
    cases i with
    | zero => simpa using hx
    | succ i =>
      rw [List.take_succ_cons, List.sum_cons, ← Int.add_assoc]
      exact h i (Nat.le_of_succ_le_succ hi)

theorem invalid_walk (steps : List Step) : invalid.walk steps = invalid := by
  induction steps with
  | nil => rfl
  | cons step steps ih => rw [walk, List.foldl_cons, invalid_shift, ← walk, ih]

/-- A walk by whole numbers of milliseconds ends at the exact sum, unless a sum on the way is out
of range. -/
theorem millis?_walk_eq_some_iff (h : steps.map Step.millis? = moves.map some) :
    (t.walk steps).millis? = some m ↔
      ∃ x, t.millis? = some x ∧ StaysInRange x moves ∧ m = x + moves.sum := by
  induction steps generalizing t moves with
  | nil =>
    cases moves with
    | cons => nomatch h
    | nil =>
      simp only [staysInRange_nil, List.sum_nil, Int.add_zero]
      constructor
      · intro hm
        exact ⟨m, hm, natAbs_le_of_millis? hm, rfl⟩
      · rintro ⟨x, hx, -, rfl⟩
        exact hx
  | cons step steps ih =>
    cases moves with
    | nil => nomatch h
    | cons move moves =>
      obtain ⟨hstep, hsteps⟩ := List.cons.inj h
      rw [walk, List.foldl_cons, ← walk, ih hsteps]
      simp only [millis?_shift_eq_some_iff hstep, staysInRange_cons, List.sum_cons]
      constructor
      · rintro ⟨_, ⟨x, hx, rfl, -⟩, hstays, rfl⟩
        exact ⟨x, hx, ⟨natAbs_le_of_millis? hx, hstays⟩, Int.add_assoc _ _ _⟩
      · rintro ⟨x, hx, ⟨-, hstays⟩, rfl⟩
        refine ⟨x + move, ⟨x, hx, rfl, ?_⟩, hstays, (Int.add_assoc _ _ _).symm⟩
        simpa using hstays 0 (Nat.zero_le _)

theorem length_trail (t : Instant) (steps : List Step) :
    (t.trail steps).length = steps.length + 1 := by
  induction steps generalizing t with
  | nil => rfl
  | cons step steps ih => rw [trail, List.length_cons, ih, List.length_cons]

theorem getElem?_trail (t : Instant) (steps : List Step) {i : Nat} (h : i ≤ steps.length) :
    (t.trail steps)[i]? = some (t.walk (steps.take i)) := by
  induction steps generalizing t i with
  | nil =>
    obtain rfl : i = 0 := Nat.le_zero.1 h
    rfl
  | cons step steps ih =>
    cases i with
    | zero => rfl
    | succ i =>
      rw [trail, List.getElem?_cons_succ, ih _ (Nat.le_of_succ_le_succ h)]
      rfl

theorem filterMap_millis? (h : steps.map Step.millis? = moves.map some) :
    steps.filterMap Step.millis? = moves := by
  have hsome := congrArg (List.filterMap id) h
  rwa [List.filterMap_map, List.filterMap_map, Function.id_comp, Function.id_comp,
    List.filterMap_some] at hsome

/-- The order of the steps does not matter to a walk that stays in range. -/
theorem walk_eq_of_perm {steps' : List Step} {moves' : List Int}
    (h : steps.map Step.millis? = moves.map some) (h' : steps'.map Step.millis? = moves'.map some)
    (hperm : steps.Perm steps') (ht : t.millis? = some x) (hstays : StaysInRange x moves)
    (hstays' : StaysInRange x moves') : t.walk steps = t.walk steps' := by
  have hmoves : moves.Perm moves' := by
    rw [← filterMap_millis? h, ← filterMap_millis? h']
    exact hperm.filterMap _
  have hend := (millis?_walk_eq_some_iff h).2 ⟨x, ht, hstays, rfl⟩
  have hend' := (millis?_walk_eq_some_iff h').2 ⟨x, ht, hstays', rfl⟩
  rw [← hmoves.sum_eq] at hend'
  exact eq_of_millis? hend hend'

/-- Going back leads back, unless the way out leaves the range. -/
theorem shift_neg_shift {unit : TimeUnit} (ha : a.int? = some n)
    (hvalid : (t.shift ⟨unit, a⟩).isValid = true) : (t.shift ⟨unit, a⟩).shift ⟨unit, -a⟩ = t := by
  have hout : (⟨unit, a⟩ : Step).millis? = some (unit.inMillis * n) :=
    Step.millis?_eq_some_iff.2 ⟨n, ha, rfl⟩
  have hback : (⟨unit, -a⟩ : Step).millis? = some (unit.inMillis * -n) :=
    Step.millis?_eq_some_iff.2 ⟨-n, int?_neg ha, rfl⟩
  obtain ⟨m, hm⟩ := isValid_iff.1 hvalid
  obtain ⟨x, hx, rfl, -⟩ := (millis?_shift_eq_some_iff hout).1 hm
  have hsum : x + unit.inMillis * n + unit.inMillis * -n = x := by
    rw [Int.mul_neg, Int.add_neg_cancel_right]
  refine eq_of_millis? ((millis?_shift_eq_some_iff hback).2 ⟨_, hm, ?_, ?_⟩) hx
  · exact hsum.symm
  · rw [hsum]
    exact natAbs_le_of_millis? hx

theorem shift_of_int?_eq_zero (unit : TimeUnit) (ha : a.int? = some 0) : t.shift ⟨unit, a⟩ = t := by
  cases ht : t.millis? with
  | none => rw [eq_invalid_of_millis? ht, invalid_shift]
  | some x =>
    rw [shift_of_follows ht (.exact ha), Int.mul_zero, Int.add_zero, ← eq_ofInt_of_millis? ht]

/-- Steps by zero lead nowhere. -/
theorem walk_eq_self (h : ∀ step ∈ steps, step.amount.int? = some 0) : t.walk steps = t := by
  induction steps with
  | nil => rfl
  | cons step steps ih =>
    obtain ⟨hstep, hsteps⟩ := List.forall_mem_cons.1 h
    rw [walk, List.foldl_cons, shift_of_int?_eq_zero step.unit hstep, ← walk, ih hsteps]

/-- A day is 24 hours, 1440 minutes and 86400 seconds, also where the products are rounded. -/
theorem addDays_eq (ha : a.int? = some n) :
    t.addDays a = t.addHours (.ofInt 24 * a) ∧ t.addDays a = t.addMinutes (.ofInt 1440 * a) ∧
      t.addDays a = t.addSeconds (.ofInt 86400 * a) := by
  cases ht : t.millis? with
  | none =>
    rw [eq_invalid_of_millis? ht]
    have hdays := invalid_shift ⟨.days, a⟩
    exact ⟨rfl, hdays.trans (invalid_shift ⟨.minutes, _⟩).symm,
      hdays.trans (invalid_shift ⟨.seconds, _⟩).symm⟩
  | some x =>
    have hmul {k : Int} (hk : 0 < k) (hle : k.natAbs ≤ 2 ^ 53) (heven : 2 ∣ k) :
        Follows (2 ^ 54) (.ofInt k * a) (k * n) :=
      (Follows.exact ha).even_mul (int?_ofInt (onGrid_of_le hle)) hk heven
    rw [addDays_of_follows ht (.exact ha),
      addHours_of_follows ht (hmul (by decide) (by decide) (by decide)),
      addMinutes_of_follows ht (hmul (by decide) (by decide) (by decide)),
      addSeconds_of_follows ht (hmul (by decide) (by decide) (by decide)),
      ← Int.mul_assoc, ← Int.mul_assoc, ← Int.mul_assoc]
    exact ⟨rfl, rfl, rfl⟩

/-- Steps by integers are exact all along a walk. After each step the instant is the exact sum so
far, as long as no sum up to there is out of range, and it is invalid from the first that is; the
units convert into each other; the order of the steps does not matter within the range; and a
step back undoes a step that stays in it. -/
theorem trail_exact (t : Instant) :
    (∀ (steps : List Step) (moves : List Int), steps.map Step.millis? = moves.map some →
      (t.trail steps).length = steps.length + 1 ∧ ∀ i ≤ steps.length,
        (t.trail steps)[i]? = some (t.walk (steps.take i)) ∧
        ∀ m, (t.walk (steps.take i)).millis? = some m ↔ ∃ x, t.millis? = some x ∧
          StaysInRange x (moves.take i) ∧ m = x + (moves.take i).sum) ∧
    (∀ (a : Binary64) (n : Int), a.int? = some n →
      t.addDays a = t.addHours (.ofInt 24 * a) ∧ t.addDays a = t.addMinutes (.ofInt 1440 * a) ∧
        t.addDays a = t.addSeconds (.ofInt 86400 * a)) ∧
    (∀ (steps steps' : List Step) (moves moves' : List Int) (x : Int),
      steps.map Step.millis? = moves.map some → steps'.map Step.millis? = moves'.map some →
      steps.Perm steps' → t.millis? = some x → StaysInRange x moves → StaysInRange x moves' →
      t.walk steps = t.walk steps') ∧
    ∀ (unit : TimeUnit) (a : Binary64) (n : Int), a.int? = some n →
      (t.shift ⟨unit, a⟩).isValid = true → (t.shift ⟨unit, a⟩).shift ⟨unit, -a⟩ = t := by
  refine ⟨fun steps moves h => ⟨length_trail t steps, fun i hi => ⟨getElem?_trail t steps hi, ?_⟩⟩,
    fun a n => addDays_eq, fun _ _ _ _ _ => walk_eq_of_perm, fun _ _ _ => shift_neg_shift⟩
  intro m
  apply millis?_walk_eq_some_iff
  rw [List.map_take, h, List.map_take]

/-- A step from one end of the range to the other, through a double beyond `2 ^ 53`, and a second
further, from where nothing leads back. -/
theorem trail_exact_whole_range :
    let first := ofInt (-8640000000000000)
    let across : Step := ⟨.millis, .ofInt 17280000000000000⟩
    let day : Step := ⟨.days, .ofInt 1⟩
    let second : Step := ⟨.seconds, .ofInt 1⟩
    (first.walk ([across, second, ⟨.days, .ofInt (-1)⟩].take 1)).millis? = some 8640000000000000 ∧
      (first.walk ([across, second, ⟨.days, .ofInt (-1)⟩].take 3)).millis? = none ∧
      first.addDays (.ofInt 3) = first.addMinutes (.ofInt 1440 * .ofInt 3) ∧
      first.walk [day, second] = first.walk [second, day] ∧
      (first.shift across).shift ⟨.millis, -.ofInt 17280000000000000⟩ = first := by
  obtain ⟨hwalk, hunits, hperm, hback⟩ := trail_exact (ofInt (-8640000000000000))
  obtain ⟨-, htrail⟩ := hwalk
    [⟨.millis, .ofInt 17280000000000000⟩, ⟨.seconds, .ofInt 1⟩, ⟨.days, .ofInt (-1)⟩]
    [17280000000000000, 1000, -86400000] (by decide +kernel)
  refine ⟨?_, ?_, ?_, ?_, ?_⟩
  · refine ((htrail 1 (by decide)).2 _).2 ⟨-8640000000000000, by decide +kernel, ?_, by decide⟩
    unfold StaysInRange
    decide
  · refine Option.eq_none_iff_forall_ne_some.2 fun m hm => ?_
    obtain ⟨x, hx, hstays, -⟩ := ((htrail 3 (by decide)).2 m).1 hm
    obtain rfl : -8640000000000000 = x := Option.some.inj hx
    exact absurd (hstays 2 (by decide)) (by decide)
  · exact (hunits (.ofInt 3) 3 (by decide +kernel)).2.1
  · refine hperm _ _ [86400000, 1000] [1000, 86400000] (-8640000000000000) (by decide +kernel)
      (by decide +kernel) (.swap _ _ _) (by decide +kernel) ?_ ?_ <;> unfold StaysInRange <;> decide
  · exact hback .millis (.ofInt 17280000000000000) 17280000000000000 (by decide +kernel)
      (by decide +kernel)

end Instant
end WallClock
