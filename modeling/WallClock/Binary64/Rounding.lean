/-! # Rounding to 53 significant bits

Magnitudes are counted in the smallest positive double, `2 ^ -1074`, which is one *unit* here.
A magnitude is representable when it is below `2 ^ 2098` units (that is, below `2 ^ 1024`) and
a multiple of the spacing of the doubles around it: one unit up to `2 ^ 53`, and twice as much
with every further power of two. Subnormal numbers need no case of their own on this scale.

`roundUnits num den` is the multiple of the spacing nearest to `num / den`, with a tie going to
the even multiple. It is computed from the exact quotient, so nothing is rounded twice.
`spacing_dvd_roundUnits` says that the outcome is always on the grid, also where rounding
carries into the next power of two. -/

namespace WallClock
namespace Binary64

/-- The integer nearest to `num / den`; a tie goes to the even neighbour. -/
def roundHalfEven (num den : Nat) : Nat :=
  let low := num / den
  let rest := 2 * (num % den)
  if rest < den then low
  else if den < rest then low + 1
  else if low % 2 = 0 then low
  else low + 1

/-- The distance in units between neighbouring doubles at a magnitude of `n` units. -/
def spacing (n : Nat) : Nat := Nat.pow 2 (n.log2 - 52)

/-- The number of units nearest to `num / den` among those with 53 significant bits. The
exponent is not bounded above: what is too large is for the caller to notice. -/
def roundUnits (num den : Nat) : Nat :=
  let step := spacing (num / den)
  step * roundHalfEven num (den * step)

def unitsPerOne : Nat := Nat.pow 2 1074

/-- The number of units in `2 ^ 1024`, the first power of two that is too large. -/
def unitsCeiling : Nat := Nat.pow 2 2098

/-- The magnitudes that a double can have: below `2 ^ 1024`, and on the grid. -/
structure Fits (n : Nat) : Prop where
  lt : n < unitsCeiling
  dvd : spacing n ∣ n

instance (n : Nat) : Decidable (Fits n) :=
  decidable_of_iff (n < unitsCeiling ∧ spacing n ∣ n) ⟨fun h => ⟨h.1, h.2⟩, fun h => ⟨h.1, h.2⟩⟩

theorem unitsPerOne_pos : 0 < unitsPerOne := by decide +kernel

theorem unitsCeiling_pos : 0 < unitsCeiling := by decide +kernel

theorem fits_zero : Fits 0 := ⟨unitsCeiling_pos, Nat.dvd_zero _⟩

/-- Rounding moves by less than one up from the quotient rounded down. -/
theorem roundHalfEven_le (num den : Nat) : roundHalfEven num den ≤ num / den + 1 := by
  unfold roundHalfEven
  dsimp only
  split
  · omega
  · split
    · omega
    · split <;> omega

/-- Scaling a magnitude below `2 ^ 53`, or `2 ^ 53` itself, by a power of two gives a number on
the grid. -/
theorem spacing_dvd_pow_mul {a k : Nat} (hk : k ≤ 9007199254740992) :
    spacing (Nat.pow 2 a * k) ∣ Nat.pow 2 a * k := by
  unfold spacing
  simp only [Nat.pow_eq]
  by_cases hz : k = 0
  · simp [hz]
  by_cases hlt : k < 2 ^ 53
  · have hpos : 2 ^ a * k ≠ 0 := Nat.mul_ne_zero (by simp) hz
    have hlog : (2 ^ a * k).log2 < a + 53 := by
      refine (Nat.log2_lt hpos).2 ?_
      rw [Nat.pow_add]
      exact Nat.mul_lt_mul_of_pos_left hlt (Nat.two_pow_pos a)
    exact Nat.dvd_trans (Nat.pow_dvd_pow 2 (by omega)) (Nat.dvd_mul_right _ _)
  · obtain rfl : k = 2 ^ 53 := by omega
    rw [← Nat.pow_add, Nat.log2_two_pow]
    exact Nat.pow_dvd_pow 2 (by omega)

/-- The outcome of rounding is a multiple of the spacing around it. -/
theorem spacing_dvd_roundUnits (num den : Nat) :
    spacing (roundUnits num den) ∣ roundUnits num den := by
  unfold roundUnits
  dsimp only
  unfold spacing
  refine spacing_dvd_pow_mul (Nat.le_trans (roundHalfEven_le _ _) ?_)
  simp only [Nat.pow_eq]
  rw [← Nat.div_div_eq_div_mul]
  have hq : num / den < 2 ^ ((num / den).log2 + 1) := Nat.lt_log2_self
  have hle : 2 ^ ((num / den).log2 + 1) ≤ 2 ^ 53 * 2 ^ ((num / den).log2 - 52) := by
    rw [← Nat.pow_add]
    exact Nat.pow_le_pow_right (by decide) (by omega)
  have : num / den / 2 ^ ((num / den).log2 - 52) < 2 ^ 53 :=
    (Nat.div_lt_iff_lt_mul (Nat.two_pow_pos _)).2 (Nat.lt_of_lt_of_le hq hle)
  omega

end Binary64
end WallClock
