import Mathlib.Algebra.Group.Nat.Defs
import WallClock.Proofs.Text.Blank
import WallClock.Text.Digits

/-!
# Runs of digits

A run of digits is read up to a character that is no digit (`leadingDigits_append`,
`afterDigits_append`). A number written in a width has as many digits as that, or as many as it
needs (`isPadded_padded`, `length_padded`), and no other digits are written so
(`IsPadded.eq_padded`).
-/

namespace WallClock
namespace Text

/-! ## Digits -/

def Digits (cs : List Char) : Prop := ∀ c ∈ cs, c.isDigit = true

/-- A text that does not begin with a digit. -/
def NoDigitFirst (cs : List Char) : Prop := ∀ c ∈ cs.head?, c.isDigit = false

theorem digits_cons {c : Char} {cs : List Char} :
    Digits (c :: cs) ↔ c.isDigit = true ∧ Digits cs := List.forall_mem_cons

theorem isBlank_of_isDigit {c : Char} (h : c.isDigit = true) : isBlank c = false := by
  obtain ⟨h1, h2⟩ := Char.isDigit_iff_toNat.1 h
  change 48 ≤ c.toNat at h1
  change c.toNat ≤ 57 at h2
  simp only [isBlank, blankRanges, List.any_cons, List.any_nil, Bool.or_eq_false_iff,
    Bool.and_eq_false_iff, decide_eq_false_iff_not, and_true]
  omega

theorem noDigitFirst_nil : NoDigitFirst [] := nofun

theorem noDigitFirst_cons {c : Char} {cs : List Char} (h : c.isDigit = false) :
    NoDigitFirst (c :: cs) := by
  rintro _ ⟨⟩
  exact h

theorem Digits.noBlankFirst {ds : List Char} (h : Digits ds) (hpos : 1 ≤ ds.length)
    (rest : List Char) : NoBlankFirst (ds ++ rest) := by
  cases ds with
  | nil => nomatch hpos
  | cons d ds =>
    rintro _ ⟨⟩
    exact isBlank_of_isDigit (h d (.head _))

/-- A text that ends in digits does not end in white space. -/
theorem Digits.noBlankLast {ds : List Char} (h : Digits ds) (hpos : 1 ≤ ds.length)
    (cs : List Char) : NoBlankFirst (cs ++ ds).reverse := by
  have hds : Digits ds.reverse := fun c hc => h c (List.mem_reverse.1 hc)
  rw [List.reverse_append]
  exact hds.noBlankFirst (by rwa [List.length_reverse]) _

theorem Digits.isDigit_of_append_eq_cons {ds rest more : List Char} {c : Char} (h : Digits ds)
    (hpos : 1 ≤ ds.length) (heq : ds ++ rest = c :: more) : c.isDigit = true := by
  cases ds with
  | nil => nomatch hpos
  | cons d ds =>
    cases heq
    exact h _ (.head _)

/-- No digit is a sign. -/
theorem Digits.head?_ne_sign {ds : List Char} (h : Digits ds) :
    ds.head? ≠ some '+' ∧ ds.head? ≠ some '-' := by
  cases ds with
  | nil => exact ⟨nofun, nofun⟩
  | cons d ds =>
    have hd := h d (.head _)
    constructor <;> rintro ⟨⟩ <;> nomatch hd

theorem leadingDigits_append {ds rest : List Char} (hds : Digits ds) (hrest : NoDigitFirst rest) :
    leadingDigits (ds ++ rest) = ds := by
  rw [leadingDigits, List.takeWhile_append_of_pos hds]
  cases rest with
  | nil => simp
  | cons c rest => simp [hrest c rfl]

theorem afterDigits_append {ds rest : List Char} (hds : Digits ds) (hrest : NoDigitFirst rest) :
    afterDigits (ds ++ rest) = rest := by
  rw [afterDigits, List.dropWhile_append_of_pos hds]
  cases rest with
  | nil => rfl
  | cons c rest => exact List.dropWhile_cons_of_neg (by simp [hrest c rfl])

theorem digits_leadingDigits (cs : List Char) : Digits (leadingDigits cs) :=
  fun _ hc => List.all_eq_true.1 List.all_takeWhile _ hc

theorem leadingDigits_append_afterDigits (cs : List Char) :
    leadingDigits cs ++ afterDigits cs = cs := List.takeWhile_append_dropWhile

theorem natural?_eq_some_iff {cs : List Char} {n : Nat} :
    natural? cs = some n ↔ Digits cs ∧ 1 ≤ cs.length ∧ digitsValue cs = n := by
  rw [natural?]
  cases cs with
  | nil => simp
  | cons c cs => simp [Digits]

/-! ## Values -/

theorem digitsValue_cons (c : Char) (cs : List Char) :
    digitsValue (c :: cs) = 10 ^ cs.length * (c.toNat - '0'.toNat) + digitsValue cs := by
  rw [digitsValue, Nat.ofDigitChars_cons, Nat.ofDigitChars_eq_ofDigitChars_zero, Nat.mul_zero,
    Nat.zero_add, digitsValue]

theorem Digits.digitsValue_lt {ds : List Char} (h : Digits ds) :
    digitsValue ds < 10 ^ ds.length := by
  induction ds with
  | nil => exact Nat.one_pos
  | cons d ds ih =>
    obtain ⟨hd, hds⟩ := digits_cons.1 h
    have hle : d.toNat - '0'.toNat ≤ 9 := Nat.sub_le_of_le_add (Char.isDigit_iff_toNat.1 hd).2
    have hmul := Nat.mul_le_mul_left (10 ^ ds.length) hle
    have hlt := ih hds
    rw [digitsValue_cons, List.length_cons, Nat.pow_succ]
    omega

/-- Digits without a zero in front stand for a number that needs all of them. -/
theorem Digits.pow_le_digitsValue {d : Char} {ds : List Char} (h : Digits (d :: ds))
    (hzero : d ≠ '0') : 10 ^ ds.length ≤ digitsValue (d :: ds) := by
  have h1 := (Char.isDigit_iff_toNat.1 (h d (.head _))).1
  have h2 : d.toNat ≠ '0'.toNat := fun heq => hzero (Char.toNat_inj.1 heq)
  have h3 : 1 ≤ d.toNat - '0'.toNat := by omega
  have hmul := Nat.mul_le_mul_left (10 ^ ds.length) h3
  rw [digitsValue_cons]
  omega

/-- Digits of one length are told apart by their value. -/
theorem Digits.eq_of_digitsValue_eq {ds es : List Char} (hds : Digits ds) (hes : Digits es)
    (hlen : ds.length = es.length) (hvalue : digitsValue ds = digitsValue es) : ds = es := by
  induction ds generalizing es with
  | nil => exact (List.eq_nil_of_length_eq_zero hlen.symm).symm
  | cons d ds ih =>
    cases es with
    | nil => nomatch hlen
    | cons e es =>
      obtain ⟨hd, hds⟩ := digits_cons.1 hds
      obtain ⟨he, hes⟩ := digits_cons.1 hes
      have hlen : ds.length = es.length := Nat.succ.inj hlen
      have hlt := hds.digitsValue_lt
      have hlt' := hes.digitsValue_lt
      rw [hlen] at hlt
      rw [digitsValue_cons, digitsValue_cons, hlen] at hvalue
      -- the first digit is the quotient by a power of ten, and the others are the remainder
      have hdiv := congrArg (· / 10 ^ es.length) hvalue
      have hmod := congrArg (· % 10 ^ es.length) hvalue
      simp only [Nat.mul_add_div (Nat.pow_pos (Nat.succ_pos 9)), Nat.div_eq_of_lt hlt,
        Nat.div_eq_of_lt hlt', Nat.add_zero] at hdiv
      simp only [Nat.mul_add_mod, Nat.mod_eq_of_lt hlt, Nat.mod_eq_of_lt hlt'] at hmod
      have h1 := (Char.isDigit_iff_toNat.1 hd).1
      have h2 := (Char.isDigit_iff_toNat.1 he).1
      have hde : d = e := Char.toNat_inj.1 (by omega)
      rw [hde, ih hds hes hlen hmod]

/-! ## Numbers in a width -/

/-- Digits that fill a width, and begin with a zero only where they have to. -/
structure IsPadded (width : Nat) (ds : List Char) : Prop where
  digits : Digits ds
  le_length : width ≤ ds.length
  head?_ne : width < ds.length → ds.head? ≠ some '0'

theorem digits_padded (width n : Nat) : Digits (padded width n) := by
  intro c hc
  rw [padded, List.leftpad, List.mem_append, List.mem_replicate] at hc
  rcases hc with ⟨-, rfl⟩ | hc
  · rfl
  · exact Nat.isDigit_of_mem_toDigits (by decide) (by decide) hc

theorem le_length_padded (width n : Nat) : width ≤ (padded width n).length := by
  rw [padded, List.length_leftpad]
  exact Nat.le_max_left _ _

theorem one_le_length_padded (width n : Nat) : 1 ≤ (padded width n).length := by
  rw [padded, List.length_leftpad]
  exact Nat.le_trans Nat.length_toDigits_pos (Nat.le_max_right _ _)

theorem length_padded_le {width limit n : Nat} (hlimit : 0 < limit) (hwidth : width ≤ limit)
    (h : n < 10 ^ limit) : (padded width n).length ≤ limit := by
  rw [padded, List.length_leftpad]
  exact Nat.max_le.2 ⟨hwidth, (Nat.length_toDigits_le_iff (by decide) hlimit).2 h⟩

theorem length_padded {width n : Nat} (hwidth : 0 < width) (h : n < 10 ^ width) :
    (padded width n).length = width :=
  Nat.le_antisymm (length_padded_le hwidth (Nat.le_refl width) h) (le_length_padded width n)

/-- A number that does not fit into a width is written wider. -/
theorem lt_length_padded {width n : Nat} (hwidth : 0 < width) (h : 10 ^ width ≤ n) :
    width < (padded width n).length := by
  rw [padded, List.length_leftpad]
  refine Nat.lt_of_lt_of_le (Nat.not_le.1 fun hle => ?_) (Nat.le_max_right _ _)
  exact Nat.not_lt.2 h ((Nat.length_toDigits_le_iff (by decide) hwidth).1 hle)

theorem head?_toDigits_ne_zero {n : Nat} (h : 0 < n) : (Nat.toDigits 10 n).head? ≠ some '0' := by
  induction n using Nat.strongRecOn with
  | ind n ih =>
    rw [Nat.toDigits_eq_if (by decide)]
    split
    case isTrue hlt =>
      have hdigit : ∀ k < 10, 0 < k → [Nat.digitChar k].head? ≠ some '0' := by decide
      exact hdigit n hlt h
    case isFalse hle =>
      have ih := ih (n / 10) (by omega) (by omega)
      rwa [List.head?_append, List.head?_eq_some_head Nat.toDigits_ne_nil, Option.some_or,
        ← List.head?_eq_some_head]

/-- A number that is written wider than asked for has no zeros in front. -/
theorem head?_padded_ne_zero {width n : Nat} (hwidth : 0 < width)
    (h : width < (padded width n).length) : (padded width n).head? ≠ some '0' := by
  rw [padded, List.length_leftpad] at h
  have hlt : width < (Nat.toDigits 10 n).length := by omega
  have hn : n ≠ 0 := by
    rintro rfl
    rw [Nat.toDigits_zero, List.length_singleton] at hlt
    omega
  rw [padded, List.leftpad, Nat.sub_eq_zero_of_le (Nat.le_of_lt hlt), List.replicate_zero,
    List.nil_append]
  exact head?_toDigits_ne_zero (Nat.pos_of_ne_zero hn)

theorem isPadded_padded {width : Nat} (hwidth : 0 < width) (n : Nat) :
    IsPadded width (padded width n) :=
  ⟨digits_padded width n, le_length_padded width n, head?_padded_ne_zero hwidth⟩

namespace IsPadded

variable {width : Nat} {ds es : List Char}

theorem length_le_of_digitsValue_le (hds : IsPadded width ds) (hes : IsPadded width es)
    (hvalue : digitsValue ds ≤ digitsValue es) : ds.length ≤ es.length := by
  refine Nat.not_lt.1 fun hlt => ?_
  have hzero := hds.head?_ne (Nat.lt_of_le_of_lt hes.le_length hlt)
  have hdigits := hds.digits
  cases ds with
  | nil => nomatch hlt
  | cons d ds =>
    have hpow := hdigits.pow_le_digitsValue fun heq => hzero (heq ▸ rfl)
    have hmono : 10 ^ es.length ≤ 10 ^ ds.length :=
      Nat.pow_le_pow_right (Nat.succ_pos 9) (Nat.le_of_lt_succ hlt)
    have := hes.digits.digitsValue_lt
    omega

/-- A number is written in a width in one way only. -/
theorem eq_padded (h : IsPadded width ds) (hwidth : 0 < width) :
    ds = padded width (digitsValue ds) := by
  have hpadded := isPadded_padded hwidth (digitsValue ds)
  have hvalue := digitsValue_padded width (digitsValue ds)
  refine h.digits.eq_of_digitsValue_eq hpadded.digits (Nat.le_antisymm ?_ ?_) hvalue.symm
  · exact h.length_le_of_digitsValue_le hpadded (Nat.le_of_eq hvalue.symm)
  · exact hpadded.length_le_of_digitsValue_le h (Nat.le_of_eq hvalue)

end IsPadded

end Text
end WallClock
