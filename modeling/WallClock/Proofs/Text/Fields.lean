import WallClock.Proofs.Text.Digits

/-!
# Texts made of fields of digits

Fields of digits are set apart by characters that are no digits. So the first field of a text and
what follows it can be told from the text (`padded_append_inj`), whatever the widths are.

Texts are in lexicographic order. For digits in equal number this is the order of their values
(`Digits.lt_iff`), and so texts with fields of fixed widths are in the order of the first field that
differs (`padded_append_lt_iff`).
-/

namespace WallClock
namespace Text

variable {ds es rest rest' : List Char} {width m n : Nat} {c : Char}

/-! ## Telling fields apart -/

/-- Digits in a given number that stand for `n`. -/
structure IsField (width n : Nat) (ds : List Char) : Prop where
  digits : Digits ds
  length_eq : ds.length = width
  digitsValue_eq : digitsValue ds = n

theorem isField_padded (hwidth : 0 < width) (h : n < 10 ^ width) :
    IsField width n (padded width n) :=
  ⟨digits_padded width n, length_padded hwidth h, digitsValue_padded width n⟩

theorem padded_injective (width : Nat) : Function.Injective (padded width) := by
  intro m n h
  rw [← digitsValue_padded width m, h, digitsValue_padded]

theorem Digits.append_inj (hds : Digits ds) (hes : Digits es) (hrest : NoDigitFirst rest)
    (hrest' : NoDigitFirst rest') (h : ds ++ rest = es ++ rest') : ds = es ∧ rest = rest' := by
  constructor
  · rw [← leadingDigits_append hds hrest, h, leadingDigits_append hes hrest']
  · rw [← afterDigits_append hds hrest, h, afterDigits_append hes hrest']

theorem padded_append_inj (hc : c.isDigit = false)
    (h : padded width m ++ c :: rest = padded width n ++ c :: rest') : m = n ∧ rest = rest' := by
  obtain ⟨hdigits, hrest⟩ := (digits_padded width m).append_inj (digits_padded width n)
    (noDigitFirst_cons hc) (noDigitFirst_cons hc) h
  exact ⟨padded_injective width hdigits, List.tail_eq_of_cons_eq hrest⟩

/-! ## Order -/

theorem append_lt_append_iff (h : ds.length = es.length) :
    ds ++ rest < es ++ rest' ↔ ds < es ∨ ds = es ∧ rest < rest' := by
  induction ds generalizing es with
  | nil =>
    obtain rfl := List.eq_nil_of_length_eq_zero h.symm
    simp
  | cons d ds ih =>
    cases es with
    | nil => nomatch h
    | cons e es =>
      rw [List.cons_append, List.cons_append, List.cons_lt_cons_iff, List.cons_lt_cons_iff,
        ih (Nat.succ.inj h), List.cons.injEq, and_or_left, or_assoc, and_assoc]

theorem mul_add_lt_mul_add_iff {p x y u v : Nat} (hu : u < p) (hv : v < p) :
    p * x + u < p * y + v ↔ x < y ∨ x = y ∧ u < v := by
  rcases Nat.lt_trichotomy x y with h | rfl | h
  · have hmul := Nat.mul_le_mul_left p (Nat.succ_le_of_lt h)
    rw [Nat.mul_succ] at hmul
    exact iff_of_true (by omega) (.inl h)
  · omega
  · have hmul := Nat.mul_le_mul_left p (Nat.succ_le_of_lt h)
    rw [Nat.mul_succ] at hmul
    exact iff_of_false (by omega) (by omega)

/-- Digits in equal number are in the order of their values. -/
theorem Digits.lt_iff (hds : Digits ds) (hes : Digits es) (hlen : ds.length = es.length) :
    ds < es ↔ digitsValue ds < digitsValue es := by
  induction ds generalizing es with
  | nil =>
    obtain rfl := List.eq_nil_of_length_eq_zero hlen.symm
    simp
  | cons d ds ih =>
    cases es with
    | nil => nomatch hlen
    | cons e es =>
      obtain ⟨hd, hds⟩ := digits_cons.1 hds
      obtain ⟨he, hes⟩ := digits_cons.1 hes
      have hlen : ds.length = es.length := Nat.succ.inj hlen
      have hlt := hds.digitsValue_lt
      have hlt' := hes.digitsValue_lt
      rw [hlen] at hlt
      have hzero := (Char.isDigit_iff_toNat.1 hd).1
      have hzero' := (Char.isDigit_iff_toNat.1 he).1
      have horder : d < e ↔ d.toNat - '0'.toNat < e.toNat - '0'.toNat := by
        change d.toNat < e.toNat ↔ _
        omega
      have heq : d = e ↔ d.toNat - '0'.toNat = e.toNat - '0'.toNat := by
        rw [← Char.toNat_inj]
        omega
      rw [List.cons_lt_cons_iff, digitsValue_cons, digitsValue_cons, hlen,
        mul_add_lt_mul_add_iff hlt hlt', ih hds hes hlen, horder, heq]

section
variable (hwidth : 0 < width) (hm : m < 10 ^ width) (hn : n < 10 ^ width)
include hwidth hm hn

theorem padded_lt_padded_iff : padded width m < padded width n ↔ m < n := by
  have hlen : (padded width m).length = (padded width n).length :=
    (length_padded hwidth hm).trans (length_padded hwidth hn).symm
  rw [(digits_padded width m).lt_iff (digits_padded width n) hlen, digitsValue_padded,
    digitsValue_padded]

/-- The first field decides, and where it is the same, what follows it does. -/
theorem padded_append_lt_iff : padded width m ++ c :: rest < padded width n ++ c :: rest' ↔
    m < n ∨ m = n ∧ rest < rest' := by
  have hlen : (padded width m).length = (padded width n).length :=
    (length_padded hwidth hm).trans (length_padded hwidth hn).symm
  rw [append_lt_append_iff hlen, padded_lt_padded_iff hwidth hm hn,
    (padded_injective width).eq_iff, List.cons_lt_cons_self]

end

end Text
end WallClock
