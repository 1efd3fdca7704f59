import Mathlib.Algebra.Group.Nat.Defs
import WallClock.Binary64.Rounding

/-!
# Rounding is monotone and keeps what is on the grid

`roundUnits` never reverses the order of two quotients over one denominator (`roundUnits_mono`),
and it leaves a magnitude on the grid as it is (`roundUnits_one`). Within one power of two the
spacing is fixed, and the order is that of `roundHalfEven`. Between two powers it is decided by
the greater one, which rounding may reach but not cross (`roundUnits_le_pow`,
`pow_log2_le_roundUnits`).
-/

namespace WallClock
namespace Binary64

/-! ## Rounding to an integer -/

theorem div_le_roundHalfEven (num den : Nat) : num / den ≤ roundHalfEven num den := by
  unfold roundHalfEven
  dsimp only
  split
  · exact Nat.le_refl _
  · split
    · exact Nat.le_succ _
    · split
      · exact Nat.le_refl _
      · exact Nat.le_succ _

theorem roundHalfEven_mono {num num' : Nat} (h : num ≤ num') (den : Nat) :
    roundHalfEven num den ≤ roundHalfEven num' den := by
  have hdiv : num / den ≤ num' / den := Nat.div_le_div_right h
  by_cases heq : num / den = num' / den
  · have hmod : num % den ≤ num' % den := by
      have h1 := Nat.div_add_mod num den
      have h2 := Nat.div_add_mod num' den
      rw [heq] at h1
      omega
    unfold roundHalfEven
    dsimp only
    rw [heq]
    grind
  · calc roundHalfEven num den ≤ num / den + 1 := roundHalfEven_le num den
      _ ≤ num' / den := Nat.lt_of_le_of_ne hdiv heq
      _ ≤ roundHalfEven num' den := div_le_roundHalfEven num' den

/-- Rounding depends on the quotient only. -/
theorem roundHalfEven_mul_mul_right (num den : Nat) {k : Nat} (h : 0 < k) :
    roundHalfEven (num * k) (den * k) = roundHalfEven num den := by
  have hlt (a b : Nat) : a * k < b * k ↔ a < b := Nat.mul_lt_mul_right h
  unfold roundHalfEven
  dsimp only
  rw [Nat.mul_div_mul_right _ _ h, Nat.mul_mod_mul_right, ← Nat.mul_assoc]
  simp only [hlt]

theorem roundHalfEven_one (n : Nat) : roundHalfEven n 1 = n := by
  unfold roundHalfEven
  dsimp only
  rw [Nat.mod_one, Nat.div_one, if_pos (by decide)]

/-! ## Rounding to the grid -/

theorem spacing_pos (n : Nat) : 0 < spacing n := Nat.two_pow_pos _

theorem roundUnits_eq (num den : Nat) : roundUnits num den =
    2 ^ ((num / den).log2 - 52) * roundHalfEven num (den * 2 ^ ((num / den).log2 - 52)) := rfl

/-- Rounding reaches at most the power of two above the 53 bits that are kept. -/
theorem roundUnits_le_pow (num den : Nat) :
    roundUnits num den ≤ 2 ^ ((num / den).log2 - 52 + 53) := by
  rw [roundUnits_eq, Nat.pow_add]
  refine Nat.mul_le_mul_left _ (Nat.le_trans (roundHalfEven_le _ _) ?_)
  rw [← Nat.div_div_eq_div_mul]
  refine (Nat.div_lt_iff_lt_mul (Nat.two_pow_pos _)).2 ?_
  rw [← Nat.pow_add]
  exact Nat.lt_of_lt_of_le Nat.lt_log2_self (Nat.pow_le_pow_right (by decide) (by omega))

theorem pow_log2_le_roundUnits {num den : Nat} (h : num / den ≠ 0) :
    2 ^ (num / den).log2 ≤ roundUnits num den := by
  have hsplit : 2 ^ (num / den).log2 =
      2 ^ ((num / den).log2 - 52) * 2 ^ ((num / den).log2 - ((num / den).log2 - 52)) := by
    rw [← Nat.pow_add, Nat.add_sub_cancel' (Nat.sub_le _ _)]
  rw [roundUnits_eq, hsplit]
  refine Nat.mul_le_mul_left _ (Nat.le_trans ?_ (div_le_roundHalfEven _ _))
  rw [← Nat.div_div_eq_div_mul, Nat.le_div_iff_mul_le (Nat.two_pow_pos _), Nat.mul_comm, ← hsplit]
  exact Nat.log2_self_le h

theorem roundUnits_mono {num num' : Nat} (h : num ≤ num') (den : Nat) :
    roundUnits num den ≤ roundUnits num' den := by
  have hdiv : num / den ≤ num' / den := Nat.div_le_div_right h
  by_cases hzero : num' / den = 0
  · have heq : num / den = num' / den := Nat.le_antisymm hdiv (hzero ▸ Nat.zero_le _)
    rw [roundUnits_eq, roundUnits_eq, heq]
    exact Nat.mul_le_mul_left _ (roundHalfEven_mono h _)
  have hlog : (num / den).log2 ≤ (num' / den).log2 := by
    by_cases hnum : num / den = 0
    · rw [hnum]
      exact Nat.zero_le _
    · exact (Nat.le_log2 hzero).2 (Nat.le_trans (Nat.log2_self_le hnum) hdiv)
  -- The spacings are the same, or the power of two below `num'` lies between the two roundings.
  rcases Nat.eq_or_lt_of_le (Nat.sub_le_sub_right hlog 52) with heq | hlt
  · rw [roundUnits_eq, roundUnits_eq, heq]
    exact Nat.mul_le_mul_left _ (roundHalfEven_mono h _)
  · calc roundUnits num den ≤ 2 ^ ((num / den).log2 - 52 + 53) := roundUnits_le_pow num den
      _ ≤ 2 ^ (num' / den).log2 := Nat.pow_le_pow_right (by decide) (by omega)
      _ ≤ roundUnits num' den := pow_log2_le_roundUnits hzero

theorem roundUnits_mul_mul_right (num den : Nat) {k : Nat} (h : 0 < k) :
    roundUnits (num * k) (den * k) = roundUnits num den := by
  rw [roundUnits_eq, roundUnits_eq, Nat.mul_div_mul_right _ _ h, Nat.mul_right_comm,
    roundHalfEven_mul_mul_right _ _ h]

/-- A magnitude on the grid is its own rounding. -/
theorem roundUnits_one {n : Nat} (h : spacing n ∣ n) : roundUnits n 1 = n := by
  obtain ⟨k, hk⟩ := h
  unfold roundUnits
  dsimp only
  rw [Nat.div_one]
  have hround := roundHalfEven_mul_mul_right k 1 (spacing_pos n)
  rw [Nat.mul_comm k, ← hk, roundHalfEven_one] at hround
  rw [hround, ← hk]

end Binary64
end WallClock
