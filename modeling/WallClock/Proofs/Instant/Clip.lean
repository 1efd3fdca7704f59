import WallClock.Proofs.Binary64.Truncation
import WallClock.Proofs.Instant.Walk

/-!
# Clipping a double to an instant

An instant is held as the double of its milliseconds. `Binary64.clip` makes that double from any
other by operations on doubles alone, and it is what `Instant.ofMillis` gives
(`Instant.millis_ofMillis`). What is held is canonical (`Instant.canonical_millis`): not a number,
or an integer of the range that is not the negative zero. Instants can therefore be compared by
their doubles (`Instant.comparison_millis`), and by their integers
(`Instant.comparison_of_millis?`).
-/

namespace WallClock

/-- The answers to the six comparisons. -/
structure Comparison where
  eq : Bool
  ne : Bool
  lt : Bool
  le : Bool
  gt : Bool
  ge : Bool
  deriving DecidableEq

/-- The answers where there is no order: all but one are no. -/
def Comparison.unordered : Comparison := ⟨false, true, false, false, false, false⟩

def Comparison.ofInts (x y : Int) : Comparison := ⟨x = y, x ≠ y, x < y, x ≤ y, x > y, x ≥ y⟩

/-- The amount of a step in milliseconds, each product rounded. -/
def Step.delta (s : Step) : Binary64 :=
  match s.unit with
  | .days => .ofInt 1000 * (.ofInt 60 * (.ofInt 60 * (.ofInt 24 * s.amount)))
  | .hours => .ofInt 1000 * (.ofInt 60 * (.ofInt 60 * s.amount))
  | .minutes => .ofInt 1000 * (.ofInt 60 * s.amount)
  | .seconds => .ofInt 1000 * s.amount
  | .millis => s.amount

namespace Binary64

/-- The double as which an instant made from a double is held: not a number if it is not finite or
out of range, else cut off towards zero, with zero made positive. -/
def clip (a : Binary64) : Binary64 :=
  if !a.isFinite || !(a.abs ≤ ofInt Instant.maxMillis) then nan
  else if a.truncate.place? = some 0 then finite false 0 fits_zero
  else a.truncate

/-- What an instant may be held as: not a number, or an integer of the range that is not the
negative zero. -/
def Canonical (a : Binary64) : Prop :=
  a = nan ∨ ∃ n, a.int? = some n ∧ n.natAbs ≤ Instant.maxMillis ∧ a ≠ finite true 0 fits_zero

/-- How doubles compare. -/
def comparison (a b : Binary64) : Comparison :=
  ⟨a ≤ b && b ≤ a, !(a ≤ b && b ≤ a), a ≤ b && !(b ≤ a), a ≤ b, b ≤ a && !(a ≤ b), b ≤ a⟩

variable {a b : Binary64} {m n : Int}

theorem comparison_of_int? (ha : a.int? = some m) (hb : b.int? = some n) :
    a.comparison b = .ofInts m n := by
  have heq : (decide (m ≤ n) && decide (n ≤ m)) = decide (m = n) := by
    rw [← Bool.decide_and, decide_eq_decide, Int.le_antisymm_iff]
  have hlt {m n : Int} : (decide (m ≤ n) && !decide (n ≤ m)) = decide (m < n) := by
    rw [← decide_not, ← Bool.decide_and, decide_eq_decide, Int.not_le,
      and_iff_right_of_imp Int.le_of_lt]
  simp only [comparison, Comparison.ofInts, le_iff_of_int? ha hb, le_iff_of_int? hb ha, heq, hlt,
    decide_not, GT.gt, GE.ge]

theorem comparison_of_eq_nan (h : a = nan ∨ b = nan) : a.comparison b = .unordered := by
  have hle : ¬a ≤ b := fun hle => h.elim (ne_nan_of_le hle).1 (ne_nan_of_le hle).2
  have hge : ¬b ≤ a := fun hle => h.elim (ne_nan_of_le hle).2 (ne_nan_of_le hle).1
  simp [comparison, Comparison.unordered, hle, hge]

end Binary64

namespace Instant

open Binary64

/-- How instants compare. -/
def comparison (a b : Instant) : Comparison :=
  ⟨a.sameTime b, !a.sameTime b, a < b, a ≤ b, a > b, a ≥ b⟩

variable {t : Instant} {a b : Binary64} {x y n : Int}

/-! ## The double that is held -/

theorem canonical_millis (t : Instant) : t.millis.Canonical := by
  cases t with
  | invalid => exact .inl rfl
  | valid ms bounded =>
    have hgrid := onGrid_of_le_maxMillis bounded
    refine .inr ⟨ms, int?_ofInt hgrid, bounded, fun hzero => ?_⟩
    rw [millis, ofInt_of_onGrid hgrid] at hzero
    injection hzero with hneg hunits
    have hnatAbs := (Nat.mul_eq_zero.1 hunits).resolve_right (Nat.ne_of_gt unitsPerOne_pos)
    have hlt := of_decide_eq_true hneg
    omega

theorem abs_le_maxMillis_iff {s : Bool} {u : Nat} {fits : Fits u} :
    (finite s u fits).abs ≤ .ofInt maxMillis ↔ u ≤ maxMillis * unitsPerOne := by
  have hmax := int?_ofInt (onGrid_of_le_maxMillis (n := maxMillis) (Nat.le_refl _))
  rw [Binary64.abs, le_iff_of_place? rfl (place?_of_int? hmax)]
  change (u : Int) ≤ _ ↔ _
  rw [← Int.natCast_mul]
  exact Int.ofNat_le

theorem place?_truncate_eq_zero_iff {s : Bool} {u : Nat} {fits : Fits u} :
    (finite s u fits).truncate.place? = some 0 ↔ u / unitsPerOne = 0 := by
  rw [truncate, place?, Option.some.injEq, ← Int.natAbs_eq_zero, natAbs_signedUnits,
    Nat.mul_eq_zero, or_iff_left (Nat.ne_of_gt unitsPerOne_pos)]

/-- Making an instant from a double is clipping the double. -/
theorem millis_ofMillis (a : Binary64) : (ofMillis a).millis = a.clip := by
  cases a with
  | nan | infinite => rfl
  | finite s u fits =>
    unfold clip
    rw [isFinite, Bool.not_true, Bool.false_or]
    by_cases h : u ≤ maxMillis * unitsPerOne
    · rw [ofMillis_finite h, millis, if_neg (by simpa using abs_le_maxMillis_iff.2 h)]
      by_cases hzero : u / unitsPerOne = 0
      -- What is cut off to zero keeps its sign, which the instant does not have.
      · rw [if_pos (place?_truncate_eq_zero_iff.2 hzero)]
        have hn : signedUnits s (u / unitsPerOne) = 0 := by
          rw [← Int.natAbs_eq_zero, natAbs_signedUnits, hzero]
        rw [hn, ofInt_zero]
      · rw [if_neg (mt place?_truncate_eq_zero_iff.1 hzero)]
        exact ofInt_signedUnits (fits_truncate fits) hzero
    · rw [ofMillis, if_neg h, if_pos (by simpa using mt abs_le_maxMillis_iff.1 h), millis]

/-- An instant is what its double gives. -/
theorem ofMillis_millis (t : Instant) : ofMillis t.millis = t := by
  cases ht : t.millis? with
  | none =>
    rw [eq_invalid_of_millis? ht]
    rfl
  | some x => rw [ofMillis_of_int? (int?_millis ht), ← eq_ofInt_of_millis? ht]

theorem millis_ofInt (n : Int) : (ofInt n).millis = (Binary64.ofInt n).clip := by
  have hfollows : Follows (maxMillis + 1) (.ofInt n) n :=
    .of_place?_eq rfl fun hlt => onGrid_of_le_maxMillis (Nat.le_of_lt_succ hlt)
  rw [← ofMillis_of_follows hfollows, millis_ofMillis]

theorem shift_eq_addMillis (t : Instant) (step : Step) : t.shift step = t.addMillis step.delta := by
  obtain ⟨unit, amount⟩ := step
  cases unit <;> rfl

theorem invalid_addMillis (a : Binary64) : invalid.addMillis a = invalid :=
  invalid_shift ⟨.millis, a⟩

/-! ## Truncation -/

/-- The valid instants from doubles: those in range, cut off towards zero. -/
theorem millis?_ofMillis_eq_some_iff : (ofMillis a).millis? = some n ↔
    ∃ u, a.units? = some u ∧ u.natAbs ≤ maxMillis * unitsPerOne ∧ n = u.tdiv unitsPerOne := by
  cases a with
  | nan | infinite =>
    refine ⟨nofun, ?_⟩
    rintro ⟨u, hu, -⟩
    nomatch hu
  | finite s u fits =>
    simp only [units?, Option.some.injEq, exists_eq_left', natAbs_signedUnits, tdiv_signedUnits]
    by_cases h : u ≤ maxMillis * unitsPerOne
    · simp [ofMillis_finite h, millis?, h, eq_comm]
    · simp [ofMillis, millis?, h]

/-- Making instants from doubles keeps the order, as far as they are valid. -/
theorem ofMillis_le_ofMillis (h : a ≤ b) (ha : (ofMillis a).isValid = true)
    (hb : (ofMillis b).isValid = true) : ofMillis a ≤ ofMillis b := by
  obtain ⟨m, hm⟩ := isValid_iff.1 ha
  obtain ⟨n, hn⟩ := isValid_iff.1 hb
  refine (le_iff_of_millis? hm hn).2 ?_
  obtain ⟨u, hu, -, rfl⟩ := millis?_ofMillis_eq_some_iff.1 hm
  obtain ⟨v, hv, -, rfl⟩ := millis?_ofMillis_eq_some_iff.1 hn
  have huv : u ≤ v := (le_iff_of_place? (place?_of_units? hu) (place?_of_units? hv)).1 h
  exact Int.tdiv_le_tdiv natCast_unitsPerOne_pos huv

/-! ## Comparisons -/

/-- Valid instants compare as their integers. -/
theorem comparison_of_millis? {t u : Instant} (ht : t.millis? = some x) (hu : u.millis? = some y) :
    t.comparison u = .ofInts x y := by
  have heq : t.sameTime u = decide (x = y) := by
    rw [sameTime, order?_of_millis? ht hu, Bool.eq_iff_iff]
    simp
  simp only [comparison, Comparison.ofInts, heq, GT.gt, GE.ge, lt_iff_of_millis? ht hu,
    le_iff_of_millis? ht hu, lt_iff_of_millis? hu ht, le_iff_of_millis? hu ht, decide_not]

/-- The invalid instant is neither equal to anything nor in any order with it. -/
theorem comparison_of_not_isValid {t u : Instant} (h : t.isValid = false ∨ u.isValid = false) :
    t.comparison u = .unordered ∧ t.order? u = none := by
  cases t with
  | invalid => cases u <;> exact ⟨rfl, rfl⟩
  | valid x hx =>
    cases u with
    | invalid => exact ⟨rfl, rfl⟩
    | valid y hy => simp [isValid] at h

/-- Instants compare as the doubles that they are held as. -/
theorem comparison_millis (t u : Instant) : t.millis.comparison u.millis = t.comparison u := by
  cases ht : t.millis? with
  | none =>
    rw [eq_invalid_of_millis? ht, (comparison_of_not_isValid (.inl rfl)).1]
    exact comparison_of_eq_nan (.inl rfl)
  | some x =>
    cases hu : u.millis? with
    | none =>
      rw [eq_invalid_of_millis? hu, (comparison_of_not_isValid (.inr rfl)).1]
      exact comparison_of_eq_nan (.inr rfl)
    | some y =>
      rw [comparison_of_millis? ht hu, comparison_of_int? (int?_millis ht) (int?_millis hu)]

end Instant
end WallClock
