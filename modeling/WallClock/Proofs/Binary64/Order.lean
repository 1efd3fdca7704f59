import WallClock.Binary64.Basic
import WallClock.Proofs.Binary64.Rounding

/-!
# Doubles on the line of their units

A finite double lies a whole number of units from zero (`Binary64.units?`). Sums and products are
computed on that line and rounded there (`Binary64.place?_add`, `Binary64.place?_mul`), so that
rounding being monotone makes them monotone (`Binary64.add_le_add_left`,
`Binary64.mul_le_mul_left`), infinities included.
-/

namespace WallClock
namespace Binary64

/-- Where a finite number lies, in units from zero. -/
def units? : Binary64 → Option Int
  | finite negative units _ => some (signedUnits negative units)
  | _ => none

/-- Rounding on the line, at whose ends the infinities lie. -/
def roundPlace (num : Int) (den : Nat) : Int :=
  signedUnits (num < 0) (min (roundUnits num.natAbs den) unitsCeiling)

variable {a b c : Binary64} {x y : Int}

/-! ## Rounding on the line -/

theorem signedUnits_natAbs (x : Int) : signedUnits (x < 0) x.natAbs = x := by
  unfold signedUnits
  split
  case isTrue h => rw [decide_eq_true_eq] at h; omega
  case isFalse h => rw [decide_eq_true_eq] at h; omega

theorem decide_signedUnits_lt_zero {s : Bool} {m : Nat} (hm : m ≠ 0) :
    decide (signedUnits s m < 0) = s := by
  cases s with
  | true =>
    refine decide_eq_true ?_
    change -(m : Int) < 0
    omega
  | false => exact decide_eq_false (Int.not_lt.2 (Int.natCast_nonneg m))

theorem signedUnits_mul (s t : Bool) (m n : Nat) :
    signedUnits s m * signedUnits t n = signedUnits (s ^^ t) (m * n) := by
  cases s <;> cases t <;> simp only [signedUnits, Int.neg_mul, Int.mul_neg, Int.neg_neg,
    Int.natCast_mul, Bool.xor_self, Bool.xor_false, Bool.false_xor, if_true, Bool.false_eq_true,
    if_false]

theorem signedUnits_mul_natCast (s : Bool) (m n : Nat) :
    signedUnits s m * n = signedUnits s (m * n) := by
  have hmul := signedUnits_mul s false m n
  rwa [Bool.xor_false] at hmul

theorem roundPlace_mono (h : x ≤ y) (den : Nat) : roundPlace x den ≤ roundPlace y den := by
  have hmono {m n : Nat} (h : m ≤ n) :
      min (roundUnits m den) unitsCeiling ≤ min (roundUnits n den) unitsCeiling := by
    have := roundUnits_mono h den
    omega
  unfold roundPlace signedUnits
  by_cases hx : x < 0
  · by_cases hy : y < 0
    · have := hmono (show y.natAbs ≤ x.natAbs by omega)
      simp only [hx, hy, decide_true, if_true]
      omega
    · simp only [hx, hy, decide_true, decide_false, if_true, Bool.false_eq_true, if_false]
      omega
  · have hy : ¬y < 0 := by omega
    have := hmono (show x.natAbs ≤ y.natAbs by omega)
    simp only [hx, hy, decide_false, Bool.false_eq_true, if_false]
    omega

theorem roundPlace_mul_right (x : Int) {den : Nat} (hden : 0 < den) :
    roundPlace (x * den) den = roundPlace x 1 := by
  have hround := roundUnits_mul_mul_right x.natAbs 1 hden
  have hsign : x * den < 0 ↔ x < 0 := by
    rw [← Int.not_le, ← Int.not_le, Int.mul_nonneg_iff_of_pos_right (Int.natCast_pos.2 hden)]
  rw [Nat.one_mul] at hround
  simp only [roundPlace, hsign, Int.natAbs_mul, Int.natAbs_natCast, hround]

/-- What is on the grid stays where it is. -/
theorem roundPlace_of_fits (h : Fits x.natAbs) : roundPlace x 1 = x := by
  rw [roundPlace, roundUnits_one h.dvd, Nat.min_eq_left (Nat.le_of_lt h.lt), signedUnits_natAbs]

theorem roundPlace_zero {den : Nat} (hden : 0 < den) : roundPlace 0 den = 0 := by
  have h := roundPlace_mul_right 0 hden
  rwa [Int.zero_mul, roundPlace_of_fits (x := 0) fits_zero] at h

theorem place?_ofQuotient (negative : Bool) (num : Nat) {den : Nat} (hden : 0 < den) :
    (ofQuotient negative num den).place? = some (roundPlace (signedUnits negative num) den) := by
  have hplace : (ofQuotient negative num den).place? =
      some (signedUnits negative (min (roundUnits num den) unitsCeiling)) := by
    unfold ofQuotient
    split
    case isTrue h => rw [place?, Nat.min_eq_left (Nat.le_of_lt h)]
    case isFalse h => rw [place?, Nat.min_eq_right (Nat.not_lt.1 h)]
  rw [hplace]
  by_cases hnum : num = 0
  · -- Both zeros lie at zero.
    have hround := roundUnits_mul_mul_right 0 1 hden
    rw [Nat.zero_mul, Nat.one_mul, roundUnits_one (Nat.dvd_zero _)] at hround
    rw [hnum, hround, Nat.zero_min]
    cases negative <;> exact congrArg some (roundPlace_zero hden).symm
  · rw [roundPlace, decide_signedUnits_lt_zero hnum, natAbs_signedUnits]

/-! ## Places -/

theorem place?_of_units? (h : a.units? = some x) : a.place? = some x := by
  cases a with
  | finite s m fits => exact h
  | nan | infinite => nomatch h

theorem fits_of_units? (h : a.units? = some x) : Fits x.natAbs := by
  cases a with
  | finite s m fits =>
    cases h
    rw [natAbs_signedUnits]
    exact fits
  | nan | infinite => nomatch h

/-- What has a place is at one of the ends of the line or finite. -/
theorem cases_of_place? (h : a.place? = some x) :
    a = infinite true ∧ x = -unitsCeiling ∨ a = infinite false ∧ x = unitsCeiling ∨
      a.units? = some x ∧ x.natAbs < unitsCeiling := by
  cases a with
  | nan => nomatch h
  | infinite s =>
    cases s with
    | true => exact .inl ⟨rfl, (Option.some.inj h).symm⟩
    | false => exact .inr (.inl ⟨rfl, (Option.some.inj h).symm⟩)
  | finite s m fits => exact .inr (.inr ⟨h, (fits_of_units? (a := finite s m fits) h).lt⟩)

theorem units?_of_place? (h : a.place? = some x) (hx : x.natAbs < unitsCeiling) :
    a.units? = some x := by
  rcases cases_of_place? h with ⟨-, hend⟩ | ⟨-, hend⟩ | ⟨h, -⟩
  · omega
  · omega
  · exact h

theorem le_iff_of_place? (ha : a.place? = some x) (hb : b.place? = some y) : a ≤ b ↔ x ≤ y := by
  change a.atMost b = true ↔ x ≤ y
  rw [atMost, ha, hb]
  exact decide_eq_true_iff

theorem exists_place?_of_le (h : a ≤ b) : ∃ x y, a.place? = some x ∧ b.place? = some y ∧ x ≤ y := by
  have hmost : a.atMost b = true := h
  unfold atMost at hmost
  split at hmost
  case h_1 x y ha hb => exact ⟨x, y, ha, hb, decide_eq_true_iff.1 hmost⟩
  case h_2 => nomatch hmost

theorem le_congr {a' b' : Binary64} (ha : a.place? = a'.place?) (hb : b.place? = b'.place?) :
    a ≤ b ↔ a' ≤ b' := by
  change a.atMost b = true ↔ a'.atMost b' = true
  rw [atMost, ha, hb, atMost]

theorem le_trans (hab : a ≤ b) (hbc : b ≤ c) : a ≤ c := by
  obtain ⟨x, y, ha, hb, hxy⟩ := exists_place?_of_le hab
  obtain ⟨y', z, hb', hc, hyz⟩ := exists_place?_of_le hbc
  rw [hb] at hb'
  cases hb'
  exact (le_iff_of_place? ha hc).2 (Int.le_trans hxy hyz)

/-- Of two numbers in order, the lower is at the lower end, or the higher at the higher end, or
both are finite. -/
theorem cases_of_le (h : a ≤ b) : a = infinite true ∨ b = infinite false ∨
    ∃ x y, a.units? = some x ∧ b.units? = some y ∧ x ≤ y := by
  obtain ⟨x, y, ha, hb, hxy⟩ := exists_place?_of_le h
  have hpos := unitsCeiling_pos
  rcases cases_of_place? ha with ⟨rfl, -⟩ | ⟨-, hx⟩ | ⟨ha, hx⟩
  · exact .inl rfl
  · rcases cases_of_place? hb with ⟨-, hy⟩ | ⟨rfl, -⟩ | ⟨-, hy⟩
    · omega
    · exact .inr (.inl rfl)
    · omega
  · rcases cases_of_place? hb with ⟨-, hy⟩ | ⟨rfl, -⟩ | ⟨hb, -⟩
    · omega
    · exact .inr (.inl rfl)
    · exact .inr (.inr ⟨x, y, ha, hb, hxy⟩)

theorem ne_nan_of_le (h : a ≤ b) : a ≠ nan ∧ b ≠ nan := by
  obtain ⟨x, y, ha, hb, -⟩ := exists_place?_of_le h
  refine ⟨?_, ?_⟩ <;> rintro rfl
  · nomatch ha
  · nomatch hb

theorem exists_place? (h : a ≠ nan) : ∃ x, a.place? = some x := by
  cases a with
  | nan => exact absurd rfl h
  | infinite | finite => exact ⟨_, rfl⟩

theorem infinite_true_le (h : a ≠ nan) : infinite true ≤ a := by
  obtain ⟨x, hx⟩ := exists_place? h
  refine (le_iff_of_place? rfl hx).2 ?_
  change -(unitsCeiling : Int) ≤ x
  rcases cases_of_place? hx with ⟨-, hx⟩ | ⟨-, hx⟩ | ⟨-, hx⟩ <;> omega

theorem le_infinite_false (h : a ≠ nan) : a ≤ infinite false := by
  obtain ⟨x, hx⟩ := exists_place? h
  refine (le_iff_of_place? hx rfl).2 ?_
  change x ≤ unitsCeiling
  rcases cases_of_place? hx with ⟨-, hx⟩ | ⟨-, hx⟩ | ⟨-, hx⟩ <;> omega

/-! ## Sums and products -/

theorem place?_add (ha : a.units? = some x) (hb : b.units? = some y) :
    (a + b).place? = some (roundPlace (x + y) 1) := by
  cases a with
  | nan | infinite => nomatch ha
  | finite s m _ =>
    cases b with
    | nan | infinite => nomatch hb
    | finite t n _ =>
      cases ha
      cases hb
      change (add (finite s m _) (finite t n _)).place? = _
      unfold add
      dsimp only
      split
      case isTrue h =>
        rw [h, roundPlace_zero Nat.one_pos]
        cases s && t <;> rfl
      case isFalse h => rw [place?_ofQuotient _ _ Nat.one_pos, signedUnits_natAbs]

theorem place?_mul (ha : a.units? = some x) (hb : b.units? = some y) :
    (a * b).place? = some (roundPlace (x * y) unitsPerOne) := by
  cases a with
  | nan | infinite => nomatch ha
  | finite s m _ =>
    cases b with
    | nan | infinite => nomatch hb
    | finite t n _ =>
      cases ha
      cases hb
      change (mul (finite s m _) (finite t n _)).place? = _
      rw [mul, place?_ofQuotient _ _ unitsPerOne_pos, signedUnits_mul]

theorem add_infinite (ha : a.units? = some x) (s : Bool) : a + infinite s = infinite s := by
  cases a with
  | nan | infinite => nomatch ha
  | finite => rfl

theorem mul_infinite (ha : a.units? = some x) (hx : 0 < x) (s : Bool) :
    a * infinite s = infinite s := by
  cases a with
  | nan | infinite => nomatch ha
  | finite t m fits =>
    cases ha
    cases t with
    | true =>
      unfold signedUnits at hx
      simp only [if_true] at hx
      omega
    | false =>
      have hm : m ≠ 0 := by
        rintro rfl
        exact absurd hx (Int.lt_irrefl _)
      change mul (finite false m fits) (infinite s) = _
      rw [mul, if_neg hm, Bool.false_xor]

theorem add_ne_nan (ha : a.units? = some x) (hb : b ≠ nan) : a + b ≠ nan := by
  cases b with
  | nan => exact absurd rfl hb
  | infinite s =>
    rw [add_infinite ha]
    nofun
  | finite t n fits =>
    intro h
    have hplace := place?_add ha (b := finite t n fits) rfl
    rw [h] at hplace
    nomatch hplace

theorem mul_ne_nan (ha : a.units? = some x) (hx : 0 < x) (hb : b ≠ nan) : a * b ≠ nan := by
  cases b with
  | nan => exact absurd rfl hb
  | infinite s =>
    rw [mul_infinite ha hx]
    nofun
  | finite t n fits =>
    intro h
    have hplace := place?_mul ha (b := finite t n fits) rfl
    rw [h] at hplace
    nomatch hplace

/-- Adding to a finite number keeps the order. -/
theorem add_le_add_left (ha : a.units? = some x) (h : b ≤ c) : a + b ≤ a + c := by
  obtain ⟨hb, hc⟩ := ne_nan_of_le h
  rcases cases_of_le h with rfl | rfl | ⟨y, z, hy, hz, hyz⟩
  · rw [add_infinite ha]
    exact infinite_true_le (add_ne_nan ha hc)
  · rw [add_infinite ha]
    exact le_infinite_false (add_ne_nan ha hb)
  · refine (le_iff_of_place? (place?_add ha hy) (place?_add ha hz)).2 (roundPlace_mono ?_ 1)
    exact Int.add_le_add_left hyz x

/-- Finite numbers in order stay so when something is added to both. -/
theorem add_le_add_right (ha : a.units? = some x) (hb : b.units? = some y) (h : a ≤ b)
    (hc : c ≠ nan) : a + c ≤ b + c := by
  cases c with
  | nan => exact absurd rfl hc
  | infinite s =>
    rw [add_infinite ha, add_infinite hb]
    exact (le_iff_of_place? rfl rfl).2 (Int.le_refl _)
  | finite t n fits =>
    have hxy := (le_iff_of_place? (place?_of_units? ha) (place?_of_units? hb)).1 h
    rw [le_iff_of_place? (place?_add ha rfl) (place?_add hb rfl)]
    exact roundPlace_mono (Int.add_le_add_right hxy _) 1

/-- A sum is monotone in both numbers, as long as the first ones are finite. -/
theorem add_le_add {d : Binary64} (ha : a.units? = some x) (hb : b.units? = some y) (hab : a ≤ b)
    (hcd : c ≤ d) : a + c ≤ b + d :=
  le_trans (add_le_add_left ha hcd) (add_le_add_right ha hb hab (ne_nan_of_le hcd).2)

/-- Multiplying by a finite positive number keeps the order. -/
theorem mul_le_mul_left (ha : a.units? = some x) (hx : 0 < x) (h : b ≤ c) : a * b ≤ a * c := by
  obtain ⟨hb, hc⟩ := ne_nan_of_le h
  rcases cases_of_le h with rfl | rfl | ⟨y, z, hy, hz, hyz⟩
  · rw [mul_infinite ha hx]
    exact infinite_true_le (mul_ne_nan ha hx hc)
  · rw [mul_infinite ha hx]
    exact le_infinite_false (mul_ne_nan ha hx hb)
  · refine (le_iff_of_place? (place?_mul ha hy) (place?_mul ha hz)).2 (roundPlace_mono ?_ _)
    exact Int.mul_le_mul_of_nonneg_left hyz (Int.le_of_lt hx)

end Binary64
end WallClock
