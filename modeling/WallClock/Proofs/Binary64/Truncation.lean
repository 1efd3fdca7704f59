import WallClock.Proofs.Binary64.Integers

/-!
# Cutting off a fraction

A double cut off towards zero is a double again (`Binary64.fits_truncate`): below `2 ^ 53` every
integer is on the grid, and from there on doubles have no fraction. The integer is the quotient of
the units by those of one, rounded towards zero (`Binary64.tdiv_signedUnits`).

As doubles have no fraction from `2 ^ 53` on, the double nearest to an integer is an integer too,
and up to `2 ^ 54` it is at most one away (`Binary64.exists_int?_ofInt`).
-/

namespace WallClock
namespace Binary64

variable {a b c : Binary64} {m n x : Int} {u : Nat}

theorem ofInt_of_onGrid (h : OnGrid n) : ofInt n = finite (n < 0) (n.natAbs * unitsPerOne) h := by
  have hround : roundUnits (n.natAbs * unitsPerOne) 1 = n.natAbs * unitsPerOne :=
    roundUnits_one h.dvd
  have hlt : roundUnits (n.natAbs * unitsPerOne) 1 < unitsCeiling := by
    rw [hround]
    exact h.lt
  rw [ofInt, ofQuotient, dif_pos hlt]
  simp only [hround]

theorem ofInt_zero : ofInt 0 = finite false 0 fits_zero := by decide +kernel

theorem ofInt_signedUnits {s : Bool} (h : Fits (u * unitsPerOne)) (hu : u ≠ 0) :
    ofInt (signedUnits s u) = finite s (u * unitsPerOne) h := by
  have hgrid : OnGrid (signedUnits s u) := by
    rw [OnGrid, natAbs_signedUnits]
    exact h
  rw [ofInt_of_onGrid hgrid]
  simp only [decide_signedUnits_lt_zero hu, natAbs_signedUnits]

/-- From `2 ^ 53` on, the distance between neighbouring doubles is a whole number. -/
theorem unitsPerOne_dvd (h : Fits u) (hle : 2 ^ 53 * unitsPerOne ≤ u) : unitsPerOne ∣ u := by
  obtain ⟨e, heq⟩ : ∃ e, unitsPerOne = 2 ^ e := ⟨1074, unitsPerOne_eq⟩
  refine Nat.dvd_trans ?_ h.dvd
  rw [heq, ← Nat.pow_add] at hle
  have hpos : u ≠ 0 := Nat.ne_of_gt (Nat.lt_of_lt_of_le (Nat.two_pow_pos _) hle)
  have hlog : 53 + e ≤ u.log2 := (Nat.le_log2 hpos).2 hle
  rw [heq]
  exact Nat.pow_dvd_pow 2 (by omega)

theorem fits_truncate (h : Fits u) : Fits (u / unitsPerOne * unitsPerOne) := by
  by_cases hlt : u < 2 ^ 53 * unitsPerOne
  · have hle : u / unitsPerOne ≤ 2 ^ 53 :=
      Nat.le_of_lt ((Nat.div_lt_iff_lt_mul unitsPerOne_pos).2 hlt)
    exact onGrid_of_le (n := (u / unitsPerOne : Nat)) hle
  · rwa [Nat.div_mul_cancel (unitsPerOne_dvd h (Nat.not_lt.1 hlt))]

/-- Cuts off the fraction of a double, towards zero. A zero keeps its sign, or that of what it was
cut from. -/
def truncate : Binary64 → Binary64
  | nan => nan
  | infinite negative => infinite negative
  | finite negative units fits =>
    finite negative (units / unitsPerOne * unitsPerOne) (fits_truncate fits)

def abs : Binary64 → Binary64
  | nan => nan
  | infinite _ => infinite false
  | finite _ units fits => finite false units fits

def isFinite : Binary64 → Bool
  | nan | infinite _ => false
  | finite _ _ _ => true

theorem tdiv_signedUnits (s : Bool) (u : Nat) :
    (signedUnits s u).tdiv unitsPerOne = signedUnits s (u / unitsPerOne) := by
  cases s with
  | false => exact Int.ofNat_tdiv u unitsPerOne
  | true => exact (Int.neg_tdiv _ _).trans (congrArg Neg.neg (Int.ofNat_tdiv u unitsPerOne))

/-! ## Integers that are rounded -/

/-- From `2 ^ 53` on, a double is an integer. -/
theorem exists_int?_of_units? (h : a.units? = some x) (hle : 2 ^ 53 * unitsPerOne ≤ x.natAbs) :
    ∃ m, a.int? = some m := by
  obtain ⟨m, rfl⟩ : (unitsPerOne : Int) ∣ x :=
    Int.ofNat_dvd_left.2 (unitsPerOne_dvd (fits_of_units? h) hle)
  exact ⟨m, int?_eq_some_iff.2 (by rw [h, Int.mul_comm])⟩

/-- What lies between two integers is an integer, if both are beyond `2 ^ 53` on one side. -/
theorem exists_int?_of_le_of_le (ha : a.int? = some m) (hc : c.int? = some n) (hab : a ≤ b)
    (hbc : b ≤ c) (hfar : (2 ^ 53 : Nat) ≤ m ∨ n ≤ -(2 ^ 53 : Nat)) :
    ∃ k, b.int? = some k ∧ m ≤ k ∧ k ≤ n := by
  have hm := (fits_of_units? (int?_eq_some_iff.1 ha)).lt
  have hn := (fits_of_units? (int?_eq_some_iff.1 hc)).lt
  obtain ⟨p, hp⟩ := exists_place? (ne_nan_of_le hab).2
  have hmp := (le_iff_of_place? (place?_of_int? ha) hp).1 hab
  have hpn := (le_iff_of_place? hp (place?_of_int? hc)).1 hbc
  have hunits := units?_of_place? hp (by omega)
  have hlarge : 2 ^ 53 * unitsPerOne ≤ p.natAbs := by
    have hpos := Int.le_of_lt natCast_unitsPerOne_pos
    rcases hfar with h | h
    · have := Int.mul_le_mul_of_nonneg_right h hpos
      omega
    · have := Int.mul_le_mul_of_nonneg_right h hpos
      omega
  obtain ⟨k, hk⟩ := exists_int?_of_units? hunits hlarge
  exact ⟨k, hk, (le_iff_of_int? ha hk).1 hab, (le_iff_of_int? hk hc).1 hbc⟩

/-- Up to `2 ^ 54`, the double nearest to an integer is that integer or one of its neighbours. -/
theorem exists_int?_ofInt (h : n.natAbs ≤ 2 ^ 54) :
    ∃ m, (ofInt n).int? = some m ∧ n - 1 ≤ m ∧ m ≤ n + 1 := by
  by_cases hgrid : OnGrid n
  · exact ⟨n, int?_ofInt hgrid, by omega, by omega⟩
  · -- An integer that is no double is odd, and both of its neighbours are doubles.
    have hlow : 2 ^ 53 < n.natAbs := by
      apply Nat.not_le.1
      intro hle
      exact hgrid (onGrid_of_le hle)
    have hodd : ¬2 ∣ n := by
      intro heven
      exact hgrid (onGrid_of_even h heven)
    have hbelow := int?_ofInt (onGrid_of_even (n := n - 1) (by omega) (by omega))
    have habove := int?_ofInt (onGrid_of_even (n := n + 1) (by omega) (by omega))
    exact exists_int?_of_le_of_le hbelow habove (ofInt_le_ofInt (by omega))
      (ofInt_le_ofInt (by omega)) (by omega)

/-- The double nearest to an integer follows that integer or one of its neighbours. -/
theorem exists_follows_ofInt (n : Int) :
    ∃ m, n - 1 ≤ m ∧ m ≤ n + 1 ∧ Follows (2 ^ 54) (ofInt n) m := by
  by_cases h : n.natAbs ≤ 2 ^ 54
  · obtain ⟨m, hm, hle, hge⟩ := exists_int?_ofInt h
    exact ⟨m, hle, hge, .exact hm⟩
  · refine ⟨n, by omega, by omega, ?_⟩
    rcases Int.le_total 0 n with hpos | hneg
    · exact .above (by omega) (ofInt_le_ofInt (by omega))
    · exact .below (by omega) (ofInt_le_ofInt (by omega))

end Binary64
end WallClock
