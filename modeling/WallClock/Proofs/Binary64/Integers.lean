import WallClock.Proofs.Binary64.Order

/-!
# Doubles that are integers

Integers are doubles without loss up to `2 ^ 53`, and even ones up to `2 ^ 54`
(`Binary64.onGrid_of_le`, `Binary64.onGrid_of_even`). Sums and products of integers lie where the
double nearest to the exact integer lies (`Binary64.place?_add_int?`, `Binary64.place?_mul_int?`).

A chain of such operations follows the exact integer (`Binary64.Follows`): it is equal to it, or
lies beyond a bound where the integer lies beyond it too. What follows an integer compares with
numbers within the bound as the integer does (`Binary64.Follows.le_iff`).
-/

namespace WallClock
namespace Binary64

/-- The integer that a double is, if it is one. -/
def int? (a : Binary64) : Option Int :=
  a.units?.bind fun units =>
    if (unitsPerOne : Int) ∣ units then some (units / unitsPerOne) else none

/-- An integer that is a double without loss. -/
def OnGrid (n : Int) : Prop := Fits (n.natAbs * unitsPerOne)

/-- A double follows an integer up to a bound when it is that integer, or when both are at least
as far from zero as the bound, on the same side. -/
inductive Follows (bound : Nat) (a : Binary64) (n : Int) : Prop
  | exact (h : a.int? = some n)
  | above (hn : bound ≤ n) (ha : ofInt bound ≤ a)
  | below (hn : n ≤ -bound) (ha : a ≤ ofInt (-bound))

variable {a b : Binary64} {m n : Int} {bound : Nat}

/-! ## Integers on the line -/

theorem natCast_unitsPerOne_pos : (0 : Int) < unitsPerOne := Int.natCast_pos.2 unitsPerOne_pos

theorem int?_eq_some_iff : a.int? = some n ↔ a.units? = some (n * unitsPerOne) := by
  unfold int?
  rw [Option.bind_eq_some_iff]
  constructor
  · rintro ⟨units, hunits, h⟩
    split at h
    case isTrue hdvd =>
      cases h
      rw [hunits, Int.ediv_mul_cancel hdvd]
    case isFalse => nomatch h
  · intro h
    refine ⟨_, h, ?_⟩
    rw [if_pos (Int.dvd_mul_left _ _), Int.mul_ediv_cancel _ (Int.ne_of_gt natCast_unitsPerOne_pos)]

theorem place?_of_int? (h : a.int? = some n) : a.place? = some (n * unitsPerOne) :=
  place?_of_units? (int?_eq_some_iff.1 h)

theorem le_iff_of_int? (ha : a.int? = some m) (hb : b.int? = some n) : a ≤ b ↔ m ≤ n := by
  rw [le_iff_of_place? (place?_of_int? ha) (place?_of_int? hb)]
  exact Int.mul_le_mul_right natCast_unitsPerOne_pos

theorem int?_neg (h : a.int? = some n) : (-a).int? = some (-n) := by
  rw [int?_eq_some_iff] at h ⊢
  cases a with
  | nan | infinite => nomatch h
  | finite s u fits =>
    have hunits : (-finite s u fits).units? = some (-signedUnits s u) := by
      cases s
      · rfl
      · exact congrArg some (Int.neg_neg _).symm
    rw [hunits, Option.some.inj h, Int.neg_mul]

/-! ## Integers on the grid -/

theorem unitsPerOne_eq : unitsPerOne = 2 ^ 1074 := by decide +kernel

theorem OnGrid.neg (h : OnGrid n) : OnGrid (-n) := by
  rwa [OnGrid, Int.natAbs_neg]

theorem fits_pow_mul {k j : Nat} (hk : k ≤ 2044) (hj : j ≤ 2 ^ 53) : Fits (2 ^ k * j) := by
  refine ⟨?_, spacing_dvd_pow_mul hj⟩
  calc 2 ^ k * j ≤ 2 ^ 2044 * 2 ^ 53 := Nat.mul_le_mul (Nat.pow_le_pow_right (by decide) hk) hj
    _ < unitsCeiling := by decide +kernel

theorem fits_pow_mul_unitsPerOne {k j : Nat} (hk : k ≤ 970) (hj : j ≤ 2 ^ 53) :
    Fits (2 ^ k * j * unitsPerOne) := by
  obtain ⟨e, he, heq⟩ : ∃ e, e ≤ 1074 ∧ unitsPerOne = 2 ^ e :=
    ⟨1074, Nat.le_refl _, unitsPerOne_eq⟩
  have hunits : 2 ^ k * j * unitsPerOne = 2 ^ (e + k) * j := by
    rw [heq, Nat.mul_comm, ← Nat.mul_assoc, ← Nat.pow_add]
  rw [hunits]
  exact fits_pow_mul (by omega) hj

theorem onGrid_of_le (h : n.natAbs ≤ 2 ^ 53) : OnGrid n := by
  have hfits := fits_pow_mul_unitsPerOne (Nat.zero_le 970) h
  rwa [Nat.pow_zero, Nat.one_mul] at hfits

theorem onGrid_of_even (h : n.natAbs ≤ 2 ^ 54) (heven : 2 ∣ n) : OnGrid n := by
  obtain ⟨j, hj⟩ : 2 ∣ n.natAbs := Int.ofNat_dvd_left.1 heven
  have hfits := fits_pow_mul_unitsPerOne (k := 1) (by decide) (show j ≤ 2 ^ 53 by omega)
  rwa [Nat.pow_one, ← hj] at hfits

/-! ## The double nearest to an integer -/

theorem place?_ofInt (n : Int) : (ofInt n).place? = some (roundPlace (n * unitsPerOne) 1) := by
  have hsigned : signedUnits (n < 0) (n.natAbs * unitsPerOne) = n * unitsPerOne := by
    rw [← signedUnits_mul_natCast, signedUnits_natAbs]
  rw [ofInt, place?_ofQuotient _ _ Nat.one_pos, hsigned]

theorem int?_of_place?_eq (h : a.place? = (ofInt n).place?) (hn : OnGrid n) : a.int? = some n := by
  have hfits : Fits (n * unitsPerOne).natAbs := by
    rw [Int.natAbs_mul, Int.natAbs_natCast]
    exact hn
  rw [place?_ofInt, roundPlace_of_fits hfits] at h
  exact int?_eq_some_iff.2 (units?_of_place? h hfits.lt)

theorem int?_ofInt (h : OnGrid n) : (ofInt n).int? = some n := int?_of_place?_eq rfl h

theorem ofInt_le_ofInt (h : m ≤ n) : ofInt m ≤ ofInt n := by
  refine (le_iff_of_place? (place?_ofInt m) (place?_ofInt n)).2 (roundPlace_mono ?_ 1)
  exact Int.mul_le_mul_of_nonneg_right h (Int.le_of_lt natCast_unitsPerOne_pos)

/-- A sum of integers lies where the double nearest to the exact sum lies. -/
theorem place?_add_int? (ha : a.int? = some m) (hb : b.int? = some n) :
    (a + b).place? = (ofInt (m + n)).place? := by
  rw [place?_add (int?_eq_some_iff.1 ha) (int?_eq_some_iff.1 hb), place?_ofInt, Int.add_mul]

/-- A product of integers lies where the double nearest to the exact product lies. -/
theorem place?_mul_int? (ha : a.int? = some m) (hb : b.int? = some n) :
    (a * b).place? = (ofInt (m * n)).place? := by
  have hscale : m * unitsPerOne * (n * unitsPerOne) = m * n * unitsPerOne * unitsPerOne := by
    rw [Int.mul_assoc, Int.mul_left_comm (unitsPerOne : Int), ← Int.mul_assoc m, ← Int.mul_assoc]
  rw [place?_mul (int?_eq_some_iff.1 ha) (int?_eq_some_iff.1 hb), place?_ofInt, hscale,
    roundPlace_mul_right _ unitsPerOne_pos]

/-! ## Following an integer -/

namespace Follows

theorem of_place?_eq (h : a.place? = (ofInt n).place?) (hn : n.natAbs < bound → OnGrid n) :
    Follows bound a n := by
  by_cases hlt : n.natAbs < bound
  · exact .exact (int?_of_place?_eq h (hn hlt))
  · rcases Int.le_total 0 n with hpos | hneg
    · exact .above (by omega) ((le_congr rfl h).2 (ofInt_le_ofInt (by omega)))
    · exact .below (by omega) ((le_congr h rfl).2 (ofInt_le_ofInt (by omega)))

/-- Adding an integer to what follows another uses up some of the bound. -/
theorem int?_add {bound' : Nat} (ha : a.int? = some m) (hb : Follows bound b n)
    (hbound : OnGrid bound) (hle : bound' + m.natAbs ≤ bound) (hbound' : bound' ≤ 2 ^ 53) :
    Follows bound' (a + b) (m + n) := by
  cases hb with
  | exact hb =>
    refine of_place?_eq (place?_add_int? ha hb) fun hlt => onGrid_of_le ?_
    exact Nat.le_trans (Nat.le_of_lt hlt) hbound'
  | above hn hb =>
    refine .above (by omega) (le_trans (ofInt_le_ofInt (show bound' ≤ m + bound by omega)) ?_)
    have hsum := place?_add_int? ha (int?_ofInt hbound)
    exact (le_congr hsum rfl).1 (add_le_add_left (int?_eq_some_iff.1 ha) hb)
  | below hn hb =>
    refine .below (by omega) (le_trans ?_ (ofInt_le_ofInt (show m + -bound ≤ -bound' by omega)))
    have hsum := place?_add_int? ha (int?_ofInt hbound.neg)
    exact (le_congr rfl hsum).1 (add_le_add_left (int?_eq_some_iff.1 ha) hb)

/-- Multiples of an even number are even, so that they are exact up to `2 ^ 54`. -/
theorem even_mul (ha : a.int? = some m) (hm : 0 < m) (heven : 2 ∣ m)
    (hb : Follows (2 ^ 54) b n) : Follows (2 ^ 54) (a * b) (m * n) := by
  have hgrid : OnGrid (2 ^ 54 : Nat) := onGrid_of_even (by decide) (by decide)
  have hunits := int?_eq_some_iff.1 ha
  have hpos : 0 < m * unitsPerOne := Int.mul_pos hm natCast_unitsPerOne_pos
  have hscale {k : Int} (hk : (2 ^ 54 : Nat) ≤ k) : (2 ^ 54 : Nat) ≤ m * k := by
    have hle := Int.mul_le_mul_of_nonneg_right (show 1 ≤ m from hm) (show 0 ≤ k by omega)
    omega
  cases hb with
  | exact hb =>
    refine of_place?_eq (place?_mul_int? ha hb) fun hlt => ?_
    exact onGrid_of_even (Nat.le_of_lt hlt) (Int.dvd_mul_of_dvd_left heven)
  | above hn hb =>
    -- The factor at the bound has an exact product, which is at the bound or beyond.
    have hproduct := place?_mul_int? ha (int?_ofInt hgrid)
    refine .above (hscale hn) (le_trans (ofInt_le_ofInt (hscale (Int.le_refl _))) ?_)
    exact (le_congr hproduct rfl).1 (mul_le_mul_left hunits hpos hb)
  | below hn hb =>
    have hproduct := place?_mul_int? ha (int?_ofInt hgrid.neg)
    have hbound : m * -(2 ^ 54 : Nat) ≤ -(2 ^ 54 : Nat) := by
      have := hscale (Int.le_refl _)
      rw [Int.mul_neg]
      omega
    have hn : m * n ≤ -(2 ^ 54 : Nat) := by
      have := hscale (show (2 ^ 54 : Nat) ≤ -n by omega)
      rw [Int.mul_neg] at this
      omega
    refine .below hn (le_trans ?_ (ofInt_le_ofInt hbound))
    exact (le_congr rfl hproduct).1 (mul_le_mul_left hunits hpos hb)

/-- What follows an integer compares with numbers within the bound as the integer does. -/
theorem le_iff (ha : Follows bound a n) (hbound : OnGrid bound) (hb : b.int? = some m)
    (hm : m.natAbs < bound) : a ≤ b ↔ n ≤ m := by
  cases ha with
  | exact ha => exact le_iff_of_int? ha hb
  | above hn ha =>
    refine ⟨fun h => ?_, fun h => by omega⟩
    have := (le_iff_of_int? (int?_ofInt hbound) hb).1 (le_trans ha h)
    omega
  | below hn ha =>
    refine ⟨fun _ => by omega, fun _ => le_trans ha ?_⟩
    exact (le_iff_of_int? (int?_ofInt hbound.neg) hb).2 (by omega)

end Follows

end Binary64
end WallClock
