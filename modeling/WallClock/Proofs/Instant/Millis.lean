import WallClock.Proofs.Binary64.Integers
import WallClock.Proofs.Instant.Order

/-!
# Instants and the doubles of their milliseconds

The doubles that give a valid instant are those between the ends of the range
(`Instant.isValid_ofMillis_iff`). The milliseconds of an instant are an integer that a double
holds without loss, and a double that follows an integer gives the instant of that integer
(`Instant.ofMillis_of_follows`). So a move by what follows an integer is exact
(`Instant.addMillis_of_follows`).
-/

namespace WallClock
namespace Instant

open Binary64

/-- The instant is valid, and not before a number of milliseconds, which may be out of range. -/
def AtOrAfter (t : Instant) (ms : Int) : Prop := ∃ x, t.millis? = some x ∧ ms ≤ x

instance (t : Instant) (ms : Int) : Decidable (t.AtOrAfter ms) :=
  inferInstanceAs (Decidable (∃ x ∈ t.millis?, ms ≤ x))

variable {t : Instant} {a : Binary64} {x n : Int}

theorem natAbs_le_of_millis? (h : t.millis? = some x) : x.natAbs ≤ maxMillis := by
  cases t with
  | invalid => nomatch h
  | valid ms bounded =>
    cases h
    exact bounded

theorem eq_invalid_of_millis? (h : t.millis? = none) : t = invalid := by
  cases t with
  | invalid => rfl
  | valid => nomatch h

theorem isValid_iff : t.isValid = true ↔ ∃ x, t.millis? = some x := by
  cases t <;> simp [isValid, millis?]

theorem eq_invalid_of_not_isValid (h : ¬t.isValid = true) : t = invalid := by
  cases t with
  | invalid => rfl
  | valid => exact absurd rfl h

theorem millis?_ofInt_eq_some_iff :
    (ofInt n).millis? = some x ↔ x = n ∧ n.natAbs ≤ maxMillis := by
  unfold ofInt
  split
  case isTrue h => simp [millis?, h, eq_comm]
  case isFalse h => simp [millis?, h]

theorem ofInt_eq_invalid (h : ¬n.natAbs ≤ maxMillis) : ofInt n = invalid := dif_neg h

theorem onGrid_of_le_maxMillis (h : n.natAbs ≤ maxMillis) : OnGrid n :=
  onGrid_of_le (Nat.le_trans h (by decide))

theorem int?_millis (h : t.millis? = some x) : t.millis.int? = some x := by
  cases t with
  | invalid => nomatch h
  | valid ms bounded =>
    cases h
    exact int?_ofInt (onGrid_of_le_maxMillis bounded)

/-! ## From doubles -/

theorem maxMillis_mul_unitsPerOne_lt : maxMillis * unitsPerOne < unitsCeiling := by decide +kernel

theorem isValid_ofMillis_iff_of_place? {p : Int} (h : a.place? = some p) :
    (ofMillis a).isValid = true ↔ p.natAbs ≤ maxMillis * unitsPerOne := by
  have hlt := maxMillis_mul_unitsPerOne_lt
  cases a with
  | nan => nomatch h
  | infinite s =>
    cases h
    rw [natAbs_signedUnits]
    have hvalid : (ofMillis (infinite s)).isValid = false := rfl
    rw [hvalid]
    exact ⟨fun h => absurd h Bool.false_ne_true, fun hle => absurd hle (Nat.not_le.2 hlt)⟩
  | finite s u fits =>
    cases h
    rw [natAbs_signedUnits]
    constructor
    · intro hvalid
      refine Decidable.byContradiction fun hle => ?_
      rw [ofMillis, if_neg hle] at hvalid
      exact absurd hvalid Bool.false_ne_true
    · intro hle
      rw [ofMillis_finite hle]
      rfl

/-- The doubles that give a valid instant are an interval. -/
theorem isValid_ofMillis_iff :
    (ofMillis a).isValid = true ↔ .ofInt (-maxMillis) ≤ a ∧ a ≤ .ofInt maxMillis := by
  by_cases hnan : a = nan
  · subst hnan
    exact ⟨nofun, fun h => absurd rfl (ne_nan_of_le h.2).1⟩
  · obtain ⟨p, hp⟩ := exists_place? hnan
    have hlow := int?_ofInt (onGrid_of_le_maxMillis (n := -maxMillis) (by decide))
    have hhigh := int?_ofInt (onGrid_of_le_maxMillis (n := maxMillis) (by decide))
    rw [isValid_ofMillis_iff_of_place? hp, le_iff_of_place? (place?_of_int? hlow) hp,
      le_iff_of_place? hp (place?_of_int? hhigh), Int.neg_mul, ← Int.natCast_mul]
    omega

theorem signedUnits_of_mul {s : Bool} {u : Nat} (h : signedUnits s u = n * unitsPerOne) :
    signedUnits s (u / unitsPerOne) = n := by
  have hu : u = n.natAbs * unitsPerOne := by
    rw [← natAbs_signedUnits s u, h, Int.natAbs_mul, Int.natAbs_natCast]
  rw [hu, Nat.mul_div_cancel _ unitsPerOne_pos]
  refine Int.eq_of_mul_eq_mul_right (Int.ne_of_gt natCast_unitsPerOne_pos) ?_
  rw [← h, hu]
  exact signedUnits_mul_natCast s n.natAbs unitsPerOne

theorem ofMillis_of_int? (h : a.int? = some n) : ofMillis a = ofInt n := by
  have hvalid := isValid_ofMillis_iff_of_place? (place?_of_int? h)
  rw [Int.natAbs_mul, Int.natAbs_natCast, Nat.mul_le_mul_right_iff unitsPerOne_pos] at hvalid
  by_cases hn : n.natAbs ≤ maxMillis
  · cases a with
    | nan | infinite => nomatch h
    | finite s u fits =>
      have hsigned : signedUnits s u = n * unitsPerOne := Option.some.inj (int?_eq_some_iff.1 h)
      have hu : u ≤ maxMillis * unitsPerOne := by
        rw [← natAbs_signedUnits s u, hsigned, Int.natAbs_mul, Int.natAbs_natCast]
        exact Nat.mul_le_mul_right _ hn
      refine eq_of_millis? ?_ (millis?_ofInt hn)
      rw [ofMillis_finite hu, millis?, signedUnits_of_mul hsigned]
  · rw [ofInt_eq_invalid hn]
    exact eq_invalid_of_not_isValid fun h => hn (hvalid.1 h)

/-- A double that follows an integer beyond the ends of the range gives the instant of it. -/
theorem ofMillis_of_follows (h : Follows (maxMillis + 1) a n) : ofMillis a = ofInt n := by
  have hgrid : OnGrid (maxMillis + 1 : Nat) := onGrid_of_le (by decide)
  have hend := int?_ofInt (onGrid_of_le_maxMillis (n := maxMillis) (by decide))
  cases h with
  | exact h => exact ofMillis_of_int? h
  | above hn ha =>
    rw [ofInt_eq_invalid (by omega)]
    refine eq_invalid_of_not_isValid fun hvalid => ?_
    have hle := le_trans ha (isValid_ofMillis_iff.1 hvalid).2
    have := (le_iff_of_int? (int?_ofInt hgrid) hend).1 hle
    omega
  | below hn ha =>
    rw [ofInt_eq_invalid (by omega)]
    refine eq_invalid_of_not_isValid fun hvalid => ?_
    have hle := le_trans (isValid_ofMillis_iff.1 hvalid).1 ha
    have := (le_iff_of_int? (int?_ofInt (onGrid_of_le_maxMillis (by decide)))
      (int?_ofInt hgrid.neg)).1 hle
    omega

theorem addMillis_of_follows (ht : t.millis? = some x) (ha : Follows (2 ^ 54) a n) :
    t.addMillis a = ofInt (x + n) := by
  have hx := natAbs_le_of_millis? ht
  refine ofMillis_of_follows (ha.int?_add (int?_millis ht) ?_ ?_ (by decide))
  · exact onGrid_of_even (by decide) (by decide)
  · unfold maxMillis at hx ⊢
    omega

end Instant
end WallClock
