import WallClock.Proofs.Binary64.Order

/-!
# Rounding goes to the nearest double

Rounding takes a quotient to the nearest magnitude with 53 significant bits, and of two that are
equally near to the one whose last bit is zero (`Nearest`). There is only one such
(`Binary64.Nearest.unique`). That is what a sum or a product of doubles is, and it is infinite where
the nearest magnitude is `2 ^ 1024` or more (`Binary64.rounds_add`, `Binary64.rounds_mul`).
-/

namespace WallClock
namespace Binary64

/-- The number `z` of units is on the grid, nothing on it is nearer to `num / den`, and if something
else is as near then the last of the bits of `z` is zero. The grid goes on beyond the largest
double. Distances are counted in `1 / den` units. -/
structure Nearest (num : Int) (den : Nat) (z : Int) : Prop where
  dvd : spacing z.natAbs ∣ z.natAbs
  le : ∀ w : Int, spacing w.natAbs ∣ w.natAbs → (num - den * z).natAbs ≤ (num - den * w).natAbs
  even : ∀ w : Int, spacing w.natAbs ∣ w.natAbs →
    (num - den * w).natAbs = (num - den * z).natAbs → w = z ∨ 2 * spacing z.natAbs ∣ z.natAbs

/-- The double `a` is what `num / den` units round to. -/
def Rounds (num : Int) (den : Nat) (a : Binary64) : Prop :=
  ∃ z, Nearest num den z ∧
    if z.natAbs < unitsCeiling then a.units? = some z else a = infinite (z < 0)

variable {num den q m : Nat}

/-! ## The neighbours of a quotient -/

theorem spacing_dvd_spacing {n : Nat} (h : m.log2 ≤ n.log2) : spacing m ∣ spacing n :=
  Nat.pow_dvd_pow 2 (Nat.sub_le_sub_right h 52)

theorem spacing_dvd_pow {e : Nat} (h : q.log2 ≤ e) : spacing q ∣ 2 ^ e :=
  Nat.pow_dvd_pow 2 (Nat.le_trans (Nat.sub_le _ _) h)

/-- Nothing on the grid is between the multiples of the spacing next to a magnitude. -/
theorem le_or_le_of_spacing_dvd (hm : spacing m ∣ m) (q : Nat) :
    m ≤ spacing q * (q / spacing q) ∨ spacing q * (q / spacing q + 1) ≤ m := by
  by_cases hle : m ≤ spacing q * (q / spacing q)
  · exact .inl hle
  have hlog : q.log2 ≤ m.log2 := by
    by_cases hq : q = 0
    · rw [hq]
      exact Nat.zero_le _
    · obtain ⟨j, hj⟩ := spacing_dvd_pow (Nat.le_refl q.log2)
      have hpow : 2 ^ q.log2 ≤ spacing q * (q / spacing q) := by
        have hself := Nat.log2_self_le hq
        rw [hj] at hself ⊢
        apply Nat.mul_le_mul_left
        rwa [Nat.le_div_iff_mul_le (spacing_pos q), Nat.mul_comm]
      exact (Nat.le_log2 (by omega)).2 (by omega)
  obtain ⟨i, hi⟩ := Nat.dvd_trans (spacing_dvd_spacing hlog) hm
  have hlt : spacing q * (q / spacing q) < spacing q * i := by omega
  have hnext : q / spacing q + 1 ≤ i := Nat.lt_of_mul_lt_mul_left hlt
  exact .inr (hi ▸ Nat.mul_le_mul_left _ hnext)

theorem mul_succ_le_pow (q : Nat) : spacing q * (q / spacing q + 1) ≤ 2 ^ (q.log2 + 1) := by
  obtain ⟨j, hj⟩ := spacing_dvd_pow (Nat.le_succ q.log2)
  rw [Nat.succ_eq_add_one] at hj
  rw [hj]
  apply Nat.mul_le_mul_left
  apply Nat.div_lt_of_lt_mul
  rw [← hj]
  exact Nat.lt_log2_self

/-- An even multiple of the spacing, not above the next power of two, ends in a zero. -/
theorem two_mul_spacing_dvd {j : Nat} (hj : 2 ∣ j) (hle : spacing q * j ≤ 2 ^ (q.log2 + 1)) :
    2 * spacing (spacing q * j) ∣ spacing q * j := by
  by_cases hlog : (spacing q * j).log2 ≤ q.log2
  · have hdvd := Nat.mul_dvd_mul hj (spacing_dvd_spacing hlog)
    rwa [Nat.mul_comm j] at hdvd
  · have hzero : spacing q * j ≠ 0 := by
      intro h
      rw [h] at hlog
      exact hlog (Nat.zero_le _)
    have hpow : spacing q * j = 2 ^ (q.log2 + 1) := by
      refine Nat.le_antisymm hle ?_
      exact (Nat.le_log2 hzero).1 (by omega)
    rw [hpow, spacing, Nat.log2_two_pow, Nat.pow_eq, Nat.mul_comm, ← Nat.pow_succ]
    exact Nat.pow_dvd_pow 2 (by omega)

/-! ## Rounding a magnitude -/

theorem roundHalfEven_cases (num den : Nat) :
    roundHalfEven num den = num / den ∧ 2 * (num % den) ≤ den ∧
        (2 * (num % den) = den → 2 ∣ num / den) ∨
      roundHalfEven num den = num / den + 1 ∧ den ≤ 2 * (num % den) ∧
        (2 * (num % den) = den → 2 ∣ num / den + 1) := by
  unfold roundHalfEven
  dsimp only
  split
  · left
    omega
  · split
    · right
      omega
    · split
      · left
        omega
      · right
        omega

/-- Rounding picks a neighbour that is not farther than the other, and in a tie the even one. -/
theorem roundUnits_nearest (num : Nat) (hden : 0 < den) (hm : spacing m ∣ m) :
    ((num : Int) - den * roundUnits num den).natAbs ≤ ((num : Int) - den * m).natAbs ∧
      (((num : Int) - den * m).natAbs = ((num : Int) - den * roundUnits num den).natAbs →
        m = roundUnits num den ∨ 2 * spacing (roundUnits num den) ∣ roundUnits num den) := by
  have hround : roundUnits num den =
      spacing (num / den) * roundHalfEven num (den * spacing (num / den)) := rfl
  have hpow := mul_succ_le_pow (num / den)
  have hsides := le_or_le_of_spacing_dvd hm (num / den)
  have hrest := Nat.mod_lt num (Nat.mul_pos hden (spacing_pos (num / den)))
  have hnum := Nat.div_add_mod num (den * spacing (num / den))
  have hcases := roundHalfEven_cases num (den * spacing (num / den))
  have htie {j : Nat} (hj : 2 ∣ j) (hle : j ≤ num / den / spacing (num / den) + 1) :
      2 * spacing (spacing (num / den) * j) ∣ spacing (num / den) * j :=
    two_mul_spacing_dvd hj (Nat.le_trans (Nat.mul_le_mul_left _ hle) hpow)
  rw [← Nat.div_div_eq_div_mul] at hnum hcases
  rw [hround]
  generalize spacing (num / den) = s at *
  generalize num / den / s = k at *
  -- In products with the denominator, `m` is not between the neighbours either.
  have hsides : den * m ≤ den * (s * k) ∨ den * (s * (k + 1)) ≤ den * m :=
    hsides.imp (Nat.mul_le_mul_left den) (Nat.mul_le_mul_left den)
  have hnext : den * (s * (k + 1)) = den * (s * k) + den * s := by
    rw [Nat.mul_succ, Nat.mul_add]
  rw [Nat.mul_assoc] at hnum
  rw [← Int.natCast_mul, ← Int.natCast_mul]
  rcases hcases with ⟨heq, hhalf, heven⟩ | ⟨heq, hhalf, heven⟩
  · rw [heq]
    refine ⟨by omega, fun hdist => ?_⟩
    by_cases hmid : 2 * (num % (den * s)) = den * s
    · exact .inr (htie (heven hmid) (Nat.le_succ k))
    · exact .inl (Nat.eq_of_mul_eq_mul_left hden (by omega))
  · rw [heq]
    refine ⟨by omega, fun hdist => ?_⟩
    by_cases hmid : 2 * (num % (den * s)) = den * s
    · exact .inr (htie (heven hmid) (Nat.le_refl _))
    · exact .inl (Nat.eq_of_mul_eq_mul_left hden (by omega))

/-! ## Rounding on the line -/

theorem natAbs_sub_signedUnits (num : Int) (den : Nat) (s : Bool) (m : Nat) :
    (num - den * signedUnits s m).natAbs =
      if decide (num < 0) = s then ((num.natAbs : Int) - den * m).natAbs
      else num.natAbs + den * m := by
  rw [Int.mul_comm, signedUnits_mul_natCast, Nat.mul_comm, ← Int.natCast_mul]
  cases s with
  | true =>
    simp only [signedUnits, decide_eq_true_eq, if_true]
    split <;> omega
  | false =>
    simp only [signedUnits, decide_eq_false_iff_not, Bool.false_eq_true, if_false]
    split <;> omega

theorem roundUnits_zero (hden : 0 < den) : roundUnits 0 den = 0 := by
  have hround := roundUnits_mul_mul_right 0 1 hden
  rwa [Nat.zero_mul, Nat.one_mul, roundUnits_one (Nat.dvd_zero _)] at hround

/-- The magnitude is rounded, and the sign is kept. -/
theorem nearest_signedUnits (num : Int) (hden : 0 < den) :
    Nearest num den (signedUnits (num < 0) (roundUnits num.natAbs den)) := by
  have hself : (num - den * signedUnits (num < 0) (roundUnits num.natAbs den)).natAbs =
      ((num.natAbs : Int) - den * roundUnits num.natAbs den).natAbs := by
    rw [natAbs_sub_signedUnits, if_pos rfl]
  -- Nothing is nearer on the other side of zero than its mirror image is.
  have hother (w : Int) : (num - den * w).natAbs =
      if decide (num < 0) = decide (w < 0) then ((num.natAbs : Int) - den * w.natAbs).natAbs
      else num.natAbs + den * w.natAbs := by
    rw [← natAbs_sub_signedUnits, signedUnits_natAbs]
  have hmirror (w : Int) :
      ((num.natAbs : Int) - den * w.natAbs).natAbs ≤ (num - den * w).natAbs := by
    rw [hother, ← Int.natCast_mul]
    split <;> omega
  constructor
  · rw [natAbs_signedUnits]
    exact spacing_dvd_roundUnits _ _
  · intro w hw
    rw [hself]
    exact Nat.le_trans (roundUnits_nearest num.natAbs hden hw).1 (hmirror w)
  · intro w hw hdist
    rw [hself] at hdist
    obtain ⟨hle, htie⟩ := roundUnits_nearest num.natAbs hden hw
    rw [natAbs_signedUnits]
    refine (htie (Nat.le_antisymm (hdist ▸ hmirror w) hle)).imp_left fun hround => ?_
    by_cases hsign : decide (num < 0) = decide (w < 0)
    · rw [← hround, hsign, signedUnits_natAbs]
    · -- The mirror image of a number is as near only where both are zero.
      rw [hother, if_neg hsign, hround, ← Int.natCast_mul] at hdist
      have hzero : roundUnits num.natAbs den = 0 := by
        by_cases hnum : num.natAbs = 0
        · rw [hnum]
          exact roundUnits_zero hden
        · have hprod : den * roundUnits num.natAbs den = 0 := by omega
          exact (Nat.mul_eq_zero.1 hprod).resolve_left (Nat.ne_of_gt hden)
      rw [hzero] at hround ⊢
      rw [Int.natAbs_eq_zero.1 hround]
      cases decide (num < 0) <;> rfl

/-! ## Only one number is nearest -/

/-- Between two magnitudes whose last bit is zero there is another one. -/
theorem exists_between_of_two_mul_spacing_dvd {n : Nat} (hlt : m < n)
    (hm : 2 * spacing m ∣ m) (hn : 2 * spacing n ∣ n) : ∃ w, spacing w ∣ w ∧ m < w ∧ w < n := by
  have hpos := spacing_pos m
  have hlog : m.log2 ≤ n.log2 := by
    by_cases hzero : m = 0
    · rw [hzero]
      exact Nat.zero_le _
    · exact (Nat.le_log2 (by omega)).2 (Nat.le_trans (Nat.log2_self_le hzero) (Nat.le_of_lt hlt))
  -- In steps of twice the spacing, `m` reaches neither `n` nor the next power of two at once.
  have hstep {k : Nat} (hk : 2 * spacing m ∣ k) (hlt : m < k) : m + 2 * spacing m ≤ k := by
    have hle := Nat.le_of_dvd (Nat.sub_pos_of_lt hlt) (Nat.dvd_sub hk hm)
    omega
  have hn := hstep (Nat.dvd_trans (Nat.mul_dvd_mul_left 2 (spacing_dvd_spacing hlog)) hn) hlt
  have hpow : 2 * spacing m ∣ 2 ^ (m.log2 + 1) := by
    rw [spacing, Nat.pow_eq, Nat.mul_comm, ← Nat.pow_succ]
    exact Nat.pow_dvd_pow 2 (by omega)
  have hpow := hstep hpow Nat.lt_log2_self
  have hnext : (m + spacing m).log2 ≤ m.log2 :=
    Nat.le_of_lt_succ ((Nat.log2_lt (by omega)).2 (by omega))
  refine ⟨m + spacing m, ?_, by omega, by omega⟩
  refine Nat.dvd_trans (spacing_dvd_spacing hnext) ?_
  exact Nat.dvd_add (Nat.dvd_trans (Nat.dvd_mul_left _ 2) hm) (Nat.dvd_refl _)

theorem exists_between_of_two_mul_spacing_natAbs_dvd {x y : Int} (hlt : x < y)
    (hx : 2 * spacing x.natAbs ∣ x.natAbs) (hy : 2 * spacing y.natAbs ∣ y.natAbs) :
    ∃ w : Int, spacing w.natAbs ∣ w.natAbs ∧ x < w ∧ w < y := by
  by_cases hpos : 0 ≤ x
  · obtain ⟨w, hw, hxw, hwy⟩ := exists_between_of_two_mul_spacing_dvd (by omega) hx hy
    exact ⟨w, hw, by omega, by omega⟩
  by_cases hneg : y ≤ 0
  · obtain ⟨w, hw, hyw, hwx⟩ := exists_between_of_two_mul_spacing_dvd (by omega) hy hx
    refine ⟨-w, ?_, by omega, by omega⟩
    rwa [Int.natAbs_neg]
  · exact ⟨0, Nat.dvd_zero _, by omega, by omega⟩

namespace Nearest

variable {num z z' : Int}

/-- Two numbers cannot both be nearest: they would be as near, both end in a zero, and what lies
between them would be nearer. -/
theorem not_lt (hden : 0 < den) (h : Nearest num den z) (h' : Nearest num den z') : ¬z < z' := by
  intro hlt
  have hdist := Nat.le_antisymm (h.le z' h'.dvd) (h'.le z h.dvd)
  have hz := (h.even z' h'.dvd hdist.symm).resolve_left (Int.ne_of_gt hlt)
  have hz' := (h'.even z h.dvd hdist).resolve_left (Int.ne_of_lt hlt)
  obtain ⟨w, hw, hzw, hwz⟩ := exists_between_of_two_mul_spacing_natAbs_dvd hlt hz hz'
  have hle := h.le w hw
  have hden : (0 : Int) < den := Int.natCast_pos.2 hden
  have hzw := Int.mul_lt_mul_of_pos_left hzw hden
  have hwz := Int.mul_lt_mul_of_pos_left hwz hden
  omega

theorem unique (hden : 0 < den) (h : Nearest num den z) (h' : Nearest num den z') : z = z' :=
  Int.le_antisymm (Int.not_lt.1 (h'.not_lt hden h)) (Int.not_lt.1 (h.not_lt hden h'))

end Nearest

/-- Numbers that are rounded lie in one place. -/
theorem Rounds.place?_eq {num : Int} {a b : Binary64} (hden : 0 < den) (ha : Rounds num den a)
    (hb : Rounds num den b) : a.place? = b.place? := by
  obtain ⟨z, hz⟩ := ha
  obtain ⟨z', hz'⟩ := hb
  obtain rfl := hz.1.unique hden hz'.1
  cases Nat.lt_or_ge z.natAbs unitsCeiling with
  | inl hlt =>
    rw [if_pos hlt] at hz hz'
    rw [place?_of_units? hz.2, place?_of_units? hz'.2]
  | inr hge =>
    rw [if_neg (Nat.not_lt.2 hge)] at hz hz'
    rw [hz.2, hz'.2]

/-! ## Sums and products -/

variable {a b : Binary64} {x y : Int}

theorem eq_infinite_of_place? {s : Bool} (h : a.place? = some (signedUnits s unitsCeiling)) :
    a = infinite s := by
  have hpos := unitsCeiling_pos
  have hnatAbs := natAbs_signedUnits s unitsCeiling
  rcases cases_of_place? h with ⟨rfl, hs⟩ | ⟨rfl, hs⟩ | ⟨-, hlt⟩
  · cases s with
    | true => rfl
    | false =>
      change (unitsCeiling : Int) = -unitsCeiling at hs
      omega
  · cases s with
    | true =>
      change -(unitsCeiling : Int) = unitsCeiling at hs
      omega
    | false => rfl
  · omega

theorem rounds_of_place? (hden : 0 < den) {num : Int} (h : a.place? = some (roundPlace num den)) :
    Rounds num den a := by
  have hnatAbs := natAbs_signedUnits (num < 0) (roundUnits num.natAbs den)
  refine ⟨_, nearest_signedUnits num hden, ?_⟩
  rw [hnatAbs]
  cases Nat.lt_or_ge (roundUnits num.natAbs den) unitsCeiling with
  | inl hlt =>
    rw [roundPlace, Nat.min_eq_left (Nat.le_of_lt hlt)] at h
    rw [if_pos hlt]
    exact units?_of_place? h (Nat.lt_of_le_of_lt (Nat.le_of_eq hnatAbs) hlt)
  | inr hge =>
    have hne : roundUnits num.natAbs den ≠ 0 :=
      Nat.ne_of_gt (Nat.lt_of_lt_of_le unitsCeiling_pos hge)
    rw [roundPlace, Nat.min_eq_right hge] at h
    rw [if_neg (Nat.not_lt.2 hge), decide_signedUnits_lt_zero hne]
    exact eq_infinite_of_place? h

/-- A sum of doubles is the exact sum, rounded. -/
theorem rounds_add (ha : a.units? = some x) (hb : b.units? = some y) : Rounds (x + y) 1 (a + b) :=
  rounds_of_place? Nat.one_pos (place?_add ha hb)

/-- A product of doubles is the exact product, rounded. -/
theorem rounds_mul (ha : a.units? = some x) (hb : b.units? = some y) :
    Rounds (x * y) unitsPerOne (a * b) :=
  rounds_of_place? unitsPerOne_pos (place?_mul ha hb)

end Binary64
end WallClock
