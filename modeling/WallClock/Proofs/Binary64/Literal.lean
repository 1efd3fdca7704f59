import WallClock.Binary64.Decimal
import WallClock.Proofs.Binary64.Nearest
import WallClock.Proofs.Text.Case
import WallClock.Proofs.Text.Digits

/-!
# Literals of doubles

A literal is spelled with an optional sign, digits with an optional point, and an optional power of
ten, or it is a word for an infinity or for what is not a number (`Binary64.Spells`). It stands for
the double nearest to its exact value, with the sign that it has (`Binary64.RoundsDecimal`). Reading
accepts just the literals and gives what they stand for (`Binary64.literal?_eq_some_iff`).
-/

namespace WallClock

open Text

namespace Binary64

/-! ## Decimal numbers -/

/-- The sign of a number, which zeros have as well. -/
def sign? : Binary64 → Option Bool
  | nan => none
  | infinite negative => some negative
  | finite negative _ _ => some negative

/-- The double `a` is what `digits * 10 ^ exponent` rounds to, with a minus sign when `negative`
holds. -/
structure RoundsDecimal (negative : Bool) (digits : Nat) (exponent : Int) (a : Binary64) :
    Prop where
  sign?_eq : a.sign? = some negative
  rounds : Rounds (signedUnits negative (digits * 10 ^ exponent.toNat * unitsPerOne))
    (10 ^ (-exponent).toNat) a

variable {a b : Binary64} {negative : Bool} {digits : Nat} {exponent : Int}

theorem eq_of_place?_eq_of_sign?_eq (hplace : a.place? = b.place?) (hsign : a.sign? = b.sign?) :
    a = b := by
  have hnatAbs {s : Bool} {m n : Nat} (h : some (signedUnits s m) = some (signedUnits s n)) :
      m = n := by
    rw [← natAbs_signedUnits s m, Option.some.inj h, natAbs_signedUnits]
  cases a with
  | nan =>
    cases b with
    | nan => rfl
    | infinite | finite => nomatch hsign
  | infinite s =>
    cases b with
    | nan => nomatch hsign
    | infinite t => rw [Option.some.inj hsign]
    | finite t n fits =>
      obtain rfl : s = t := Option.some.inj hsign
      exact absurd (hnatAbs hplace).symm (Nat.ne_of_lt fits.lt)
  | finite s m fits =>
    cases b with
    | nan => nomatch hsign
    | infinite t =>
      obtain rfl : s = t := Option.some.inj hsign
      exact absurd (hnatAbs hplace) (Nat.ne_of_lt fits.lt)
    | finite t n _ =>
      obtain rfl : s = t := Option.some.inj hsign
      obtain rfl := hnatAbs hplace
      rfl

theorem sign?_ofQuotient (negative : Bool) (num den : Nat) :
    (ofQuotient negative num den).sign? = some negative := by
  unfold ofQuotient
  split <;> rfl

theorem sign?_ofDecimal (negative : Bool) (digits : Nat) (exponent : Int) :
    (ofDecimal negative digits exponent).sign? = some negative := by
  unfold ofDecimal
  split
  · rfl
  split
  · rfl
  split
  · rfl
  split <;> exact sign?_ofQuotient _ _ _

/-- What is less than half a unit rounds to zero. -/
theorem roundUnits_eq_zero {num den : Nat} (h : 2 * num < den) : roundUnits num den = 0 := by
  have hdiv : num / den = 0 := Nat.div_eq_of_lt (by omega)
  have hmod : num % den = num := Nat.mod_eq_of_lt (by omega)
  have hround : roundHalfEven num den = 0 := by
    unfold roundHalfEven
    dsimp only
    rw [hdiv, hmod, if_pos h]
  rw [roundUnits_eq, hdiv, Nat.log2_zero, Nat.zero_sub, Nat.pow_zero, Nat.mul_one, Nat.one_mul,
    hround]

/-- What is too large rounds to an infinity. -/
theorem roundPlace_of_unitsCeiling_le {num : Nat} (h : unitsCeiling ≤ num) :
    roundPlace (signedUnits negative num) 1 = signedUnits negative unitsCeiling := by
  have hself : roundUnits unitsCeiling 1 = unitsCeiling := roundUnits_one (by decide +kernel)
  have hround := roundUnits_mono h 1
  rw [hself] at hround
  have hne : num ≠ 0 := Nat.ne_of_gt (Nat.lt_of_lt_of_le unitsCeiling_pos h)
  rw [roundPlace, decide_signedUnits_lt_zero hne, natAbs_signedUnits, Nat.min_eq_right hround]

theorem roundPlace_of_two_mul_lt {num den : Nat} (h : 2 * num < den) :
    roundPlace (signedUnits negative num) den = 0 := by
  rw [roundPlace, natAbs_signedUnits, roundUnits_eq_zero h, Nat.zero_min]
  cases decide (signedUnits negative num < 0) <;> rfl

/-- From `10 ^ 309` on everything is above `2 ^ 1024`. -/
theorem unitsCeiling_le_of_le (hdigits : digits ≠ 0) {k : Nat} (hk : 309 ≤ k) :
    unitsCeiling ≤ digits * 10 ^ k * unitsPerOne := by
  have hpow : unitsCeiling ≤ 10 ^ 309 * unitsPerOne := by decide +kernel
  have hmono {m : Nat} (hm : m ≤ k) : 10 ^ m ≤ 10 ^ k := Nat.pow_le_pow_right (by decide) hm
  have hle := Nat.le_mul_of_pos_left (10 ^ k) (Nat.pos_of_ne_zero hdigits)
  exact Nat.le_trans hpow (Nat.mul_le_mul_right _ (Nat.le_trans (hmono hk) hle))

/-- Below `10 ^ -324` everything is less than half a unit. -/
theorem two_mul_lt_of_le {k : Nat} (hk : digits.log2 + 1 + 324 ≤ k) :
    2 * (digits * unitsPerOne) < 10 ^ k := by
  have hhalf : 2 * unitsPerOne ≤ 10 ^ 324 := by decide +kernel
  have hdigits : digits < 10 ^ (digits.log2 + 1) :=
    Nat.lt_of_lt_of_le Nat.lt_log2_self (Nat.pow_le_pow_left (by decide) _)
  have hscaled (m : Nat) : digits * 10 ^ m < 10 ^ (digits.log2 + 1 + m) := by
    rw [Nat.pow_add]
    exact Nat.mul_lt_mul_of_pos_right hdigits (Nat.pow_pos (Nat.succ_pos 9))
  calc 2 * (digits * unitsPerOne)
      = digits * (2 * unitsPerOne) := Nat.mul_left_comm _ _ _
    _ ≤ digits * 10 ^ 324 := Nat.mul_le_mul_left _ hhalf
    _ < 10 ^ (digits.log2 + 1 + 324) := hscaled 324
    _ ≤ 10 ^ k := Nat.pow_le_pow_right (Nat.succ_pos 9) hk

/-- The shortcuts for numbers that are very large or very small lead to where rounding does. -/
theorem place?_ofDecimal (negative : Bool) (digits : Nat) (exponent : Int) :
    (ofDecimal negative digits exponent).place? =
      some (roundPlace (signedUnits negative (digits * 10 ^ exponent.toNat * unitsPerOne))
        (10 ^ (-exponent).toNat)) := by
  have hzero (s : Bool) : signedUnits s 0 = 0 := by cases s <;> rfl
  have hpos : 0 < 10 ^ (-exponent).toNat := Nat.pow_pos (Nat.succ_pos 9)
  unfold ofDecimal
  split
  case isTrue hdigits =>
    rw [hdigits, Nat.zero_mul, Nat.zero_mul, hzero, roundPlace_zero hpos, place?, hzero]
  case isFalse hdigits =>
    split
    case isTrue hlarge =>
      have hden : (-exponent).toNat = 0 := by omega
      have hle := unitsCeiling_le_of_le hdigits (k := exponent.toNat) (by omega)
      rw [hden, Nat.pow_zero, roundPlace_of_unitsCeiling_le hle, place?]
    case isFalse hlarge =>
      split
      case isTrue hsmall =>
        have hnum : exponent.toNat = 0 := by omega
        have hlt : 2 * (digits * unitsPerOne) < 10 ^ (-exponent).toNat :=
          two_mul_lt_of_le (by omega)
        rw [hnum, Nat.pow_zero, Nat.mul_one, roundPlace_of_two_mul_lt hlt, place?, hzero]
      case isFalse hsmall =>
        split
        case isTrue hnonneg =>
          have hden : (-exponent).toNat = 0 := by omega
          rw [hden, Nat.pow_zero]
          exact place?_ofQuotient _ _ Nat.one_pos
        case isFalse hneg =>
          have hnum : exponent.toNat = 0 := by omega
          rw [hnum, Nat.pow_zero, Nat.mul_one]
          exact place?_ofQuotient _ _ hpos

theorem roundsDecimal_iff :
    RoundsDecimal negative digits exponent a ↔ a = ofDecimal negative digits exponent := by
  have hden : 0 < 10 ^ (-exponent).toNat := Nat.pow_pos (Nat.succ_pos 9)
  have hself : RoundsDecimal negative digits exponent (ofDecimal negative digits exponent) :=
    ⟨sign?_ofDecimal _ _ _, rounds_of_place? hden (place?_ofDecimal _ _ _)⟩
  constructor
  · intro h
    exact eq_of_place?_eq_of_sign?_eq (h.rounds.place?_eq hden hself.rounds)
      (h.sign?_eq.trans hself.sign?_eq.symm)
  · rintro rfl
    exact hself

/-! ## The grammar -/

/-- The signs of a number. Without one it is positive. -/
inductive SpellsSign : List Char → Bool → Prop
  | none : SpellsSign [] false
  | plus : SpellsSign ['+'] false
  | minus : SpellsSign ['-'] true

/-- The spellings of a number in digits, with how many of these stand behind the point. Digits may
be missing on one side of a point. -/
inductive SpellsDigits : List Char → Nat → Nat → Prop
  | whole {ds : List Char} : Digits ds → 1 ≤ ds.length → SpellsDigits ds (digitsValue ds) 0
  | point {ds fs : List Char} : Digits ds → Digits fs → 1 ≤ (ds ++ fs).length →
    SpellsDigits (ds ++ '.' :: fs) (digitsValue (ds ++ fs)) fs.length

/-- The spellings of a power of ten, of which nothing is one. -/
inductive SpellsExponent : List Char → Int → Prop
  | none : SpellsExponent [] 0
  | mark {mark : Char} {sign ds : List Char} {negative : Bool} : mark = 'e' ∨ mark = 'E' →
    SpellsSign sign negative → Digits ds → 1 ≤ ds.length →
    SpellsExponent (mark :: (sign ++ ds)) (signedUnits negative (digitsValue ds))

/-- The spellings of a number behind its sign. -/
inductive SpellsUnsigned (negative : Bool) : List Char → Binary64 → Prop
  | decimal {number power : List Char} {digits places : Nat} {exponent : Int} {a : Binary64} :
    SpellsDigits number digits places → SpellsExponent power exponent →
    RoundsDecimal negative digits (exponent - places) a →
    SpellsUnsigned negative (number ++ power) a
  | infinite {word : List Char} : List.Forall₂ SameButCase word ['i', 'n', 'f'] ∨
      List.Forall₂ SameButCase word ['i', 'n', 'f', 'i', 'n', 'i', 't', 'y'] →
    SpellsUnsigned negative word (.infinite negative)
  | nan {word : List Char} : List.Forall₂ SameButCase word ['n', 'a', 'n'] →
    SpellsUnsigned negative word .nan

inductive Spells : List Char → Binary64 → Prop
  | mk {sign word : List Char} {negative : Bool} {a : Binary64} : SpellsSign sign negative →
    SpellsUnsigned negative word a → Spells (sign ++ word) a

variable {cs sign number power : List Char} {places : Nat}

/-! ## Reading -/

theorem integer?_append {ds : List Char} (hsign : SpellsSign sign negative) (hds : Digits ds)
    (hpos : 1 ≤ ds.length) :
    integer? (sign ++ ds) = some (signedUnits negative (digitsValue ds)) := by
  have hread : natural? ds = some (digitsValue ds) := natural?_eq_some_iff.2 ⟨hds, hpos, rfl⟩
  cases hsign with
  | none =>
    obtain ⟨hplus, hminus⟩ := hds.head?_ne_sign
    have hunsigned : unsigned? ds = natural? ds := by
      unfold unsigned?
      split
      · exact absurd rfl hplus
      · rfl
    rw [List.nil_append, integer?]
    · rw [hunsigned, hread]; rfl
    · rintro ds rfl
      exact hminus rfl
  | plus => simp [integer?, unsigned?, hread, signedUnits]
  | minus => simp [integer?, hread, signedUnits]

theorem exists_of_integer?_eq_some (h : integer? cs = some exponent) :
    ∃ sign ds negative, SpellsSign sign negative ∧ Digits ds ∧ 1 ≤ ds.length ∧
      cs = sign ++ ds ∧ exponent = signedUnits negative (digitsValue ds) := by
  unfold integer? at h
  split at h
  case h_1 =>
    obtain ⟨n, hn, rfl⟩ := Option.map_eq_some_iff.1 h
    obtain ⟨hds, hpos, rfl⟩ := natural?_eq_some_iff.1 hn
    exact ⟨_, _, _, .minus, hds, hpos, rfl, rfl⟩
  case h_2 =>
    obtain ⟨n, hn, rfl⟩ := Option.map_eq_some_iff.1 h
    unfold unsigned? at hn
    split at hn
    all_goals obtain ⟨hds, hpos, rfl⟩ := natural?_eq_some_iff.1 hn
    · exact ⟨_, _, _, .plus, hds, hpos, rfl, rfl⟩
    · exact ⟨_, _, _, .none, hds, hpos, rfl, rfl⟩

theorem exponent?_eq_some_iff : exponent? cs = some exponent ↔ SpellsExponent cs exponent := by
  constructor
  · intro h
    unfold exponent? at h
    split at h
    case h_1 =>
      cases h
      exact .none
    case h_2 c cs =>
      split at h
      case isFalse => nomatch h
      case isTrue hmark =>
        obtain ⟨sign, ds, negative, hsign, hds, hpos, rfl, rfl⟩ := exists_of_integer?_eq_some h
        exact .mark hmark hsign hds hpos
  · intro h
    cases h with
    | none => rfl
    | mark hmark hsign hds hpos => rw [exponent?, if_pos hmark, integer?_append hsign hds hpos]

theorem SpellsExponent.noDigitFirst (h : SpellsExponent power exponent) : NoDigitFirst power := by
  cases h with
  | none => exact noDigitFirst_nil
  | mark hmark => obtain rfl | rfl := hmark <;> exact noDigitFirst_cons rfl

theorem decimal?_append (hnumber : SpellsDigits number digits places)
    (hpower : SpellsExponent power exponent) :
    decimal? (number ++ power) = some (digits, exponent - places) := by
  have hnodigit := hpower.noDigitFirst
  have hread := exponent?_eq_some_iff.2 hpower
  cases hnumber with
  | whole hds hpos =>
    have hpoint (more : List Char) : power ≠ '.' :: more := by
      rintro rfl
      obtain _ | ⟨hmark⟩ := hpower
      exact absurd hmark (by decide)
    rw [decimal?, leadingDigits_append hds hnodigit, afterDigits_append hds hnodigit]
    dsimp only
    split
    · exact absurd rfl (hpoint _)
    · rw [hread, if_neg]
      · exact congrArg (fun e => some (digitsValue number, e)) (Int.sub_zero exponent).symm
      · rw [List.isEmpty_iff]
        rintro rfl
        nomatch hpos
  | @point ds fs hds hfs hpos =>
    have hdot : NoDigitFirst ('.' :: (fs ++ power)) := noDigitFirst_cons rfl
    rw [List.append_assoc, List.cons_append, decimal?, leadingDigits_append hds hdot,
      afterDigits_append hds hdot]
    simp only [leadingDigits_append hfs hnodigit, afterDigits_append hfs hnodigit, hread]
    rw [if_neg]
    · rfl
    · rw [Bool.and_eq_true, List.isEmpty_iff, List.isEmpty_iff]
      rintro ⟨rfl, rfl⟩
      nomatch hpos

theorem exists_of_decimal?_eq_some (h : decimal? cs = some (digits, exponent)) :
    ∃ number power places e, SpellsDigits number digits places ∧ SpellsExponent power e ∧
      exponent = e - (places : Nat) ∧ cs = number ++ power := by
  have hcs := leadingDigits_append_afterDigits cs
  rw [decimal?] at h
  dsimp only at h
  split at h
  case h_1 more hdot =>
    split at h
    case isTrue => nomatch h
    case isFalse hpos =>
      obtain ⟨e, he, heq⟩ := Option.map_eq_some_iff.1 h
      cases heq
      refine ⟨_, _, _, e, .point (digits_leadingDigits cs) (digits_leadingDigits more) ?_,
        exponent?_eq_some_iff.1 he, rfl, ?_⟩
      · rw [Bool.and_eq_true, List.isEmpty_iff, List.isEmpty_iff, ← List.append_eq_nil_iff] at hpos
        exact List.length_pos_of_ne_nil hpos
      · rw [List.append_assoc, List.cons_append, leadingDigits_append_afterDigits, ← hdot, hcs]
  case h_2 =>
    split at h
    case isTrue => nomatch h
    case isFalse hpos =>
      obtain ⟨e, he, heq⟩ := Option.map_eq_some_iff.1 h
      cases heq
      refine ⟨_, _, 0, _, .whole (digits_leadingDigits cs) ?_, exponent?_eq_some_iff.1 he,
        (Int.sub_zero _).symm, hcs.symm⟩
      rw [List.isEmpty_iff] at hpos
      exact List.length_pos_of_ne_nil hpos

/-- A number begins with a digit or with the point. -/
theorem SpellsDigits.exists_cons (h : SpellsDigits number digits places) :
    ∃ c cs, number = c :: cs ∧ c.toNat ≤ 57 := by
  have hfirst {ds : List Char} (hds : Digits ds) (hpos : 1 ≤ ds.length) (rest : List Char) :
      ∃ c cs, ds ++ rest = c :: cs ∧ c.toNat ≤ 57 := by
    cases ds with
    | nil => nomatch hpos
    | cons d ds => exact ⟨d, ds ++ rest, rfl, (Char.isDigit_iff_toNat.1 (hds d (.head _))).2⟩
  cases h with
  | whole hds hpos => simpa using hfirst hds hpos []
  | @point ds fs hds =>
    cases ds with
    | nil => exact ⟨'.', fs, rfl, by decide⟩
    | cons d ds => exact hfirst hds (Nat.succ_pos _) _

/-- No number is one of the words. -/
theorem map_toLower_ne (h : SpellsDigits number digits places) {c : Char} {cs : List Char}
    (hc : 58 ≤ c.toNat) : (number ++ power).map Char.toLower ≠ c :: cs := by
  obtain ⟨d, ds, rfl, hle⟩ := h.exists_cons
  intro heq
  have hlower := congrArg Char.toNat (List.cons.inj heq).1
  rw [toNat_toLower, if_neg (by omega)] at hlower
  omega

theorem unsignedLiteral?_eq_some_iff :
    unsignedLiteral? negative cs = some a ↔ SpellsUnsigned negative cs a := by
  simp only [unsignedLiteral?]
  constructor
  · intro h
    split at h
    case isTrue hword =>
      cases h
      exact .infinite (hword.imp map_toLower_eq_iff.1 map_toLower_eq_iff.1)
    case isFalse =>
      split at h
      case isTrue hword =>
        cases h
        exact .nan (map_toLower_eq_iff.1 hword)
      case isFalse =>
        obtain ⟨⟨digits, exponent⟩, hdecimal, rfl⟩ := Option.map_eq_some_iff.1 h
        obtain ⟨number, power, places, e, hnumber, hpower, rfl, rfl⟩ :=
          exists_of_decimal?_eq_some hdecimal
        exact .decimal hnumber hpower (roundsDecimal_iff.2 rfl)
  · intro h
    cases h with
    | @decimal number power _ _ _ _ hnumber hpower hrounds =>
      have hword {c : Char} {cs : List Char} (hc : 58 ≤ c.toNat) :
          (number ++ power).map Char.toLower ≠ c :: cs := map_toLower_ne hnumber hc
      rw [if_neg (not_or.2 ⟨hword (by decide), hword (by decide)⟩), if_neg (hword (by decide)),
        decimal?_append hnumber hpower, roundsDecimal_iff.1 hrounds]
      rfl
    | infinite hword => exact if_pos (hword.imp map_toLower_eq_iff.2 map_toLower_eq_iff.2)
    | nan hword =>
      have hlower : cs.map Char.toLower = ['n', 'a', 'n'] := map_toLower_eq_iff.2 hword
      rw [hlower]
      rfl

/-- Behind a sign there is no other sign. -/
theorem unsignedLiteral?_sign {c : Char} (hc : c = '+' ∨ c = '-') (negative : Bool)
    (cs : List Char) : unsignedLiteral? negative (c :: cs) = none := by
  obtain rfl | rfl := hc <;>
    simp [unsignedLiteral?, decimal?, leadingDigits, afterDigits]

/-- Reading accepts just the spellings of doubles. -/
theorem literal?_eq_some_iff : literal? cs = some a ↔ Spells cs a := by
  constructor
  · intro h
    unfold literal? at h
    split at h
    · exact .mk .minus (unsignedLiteral?_eq_some_iff.1 h)
    · exact .mk .plus (unsignedLiteral?_eq_some_iff.1 h)
    · exact .mk .none (unsignedLiteral?_eq_some_iff.1 h)
  · rintro ⟨hsign, hword⟩
    have hread := unsignedLiteral?_eq_some_iff.2 hword
    cases hsign with
    | none =>
      rw [List.nil_append]
      unfold literal?
      split
      · rw [unsignedLiteral?_sign (.inr rfl)] at hread
        nomatch hread
      · rw [unsignedLiteral?_sign (.inl rfl)] at hread
        nomatch hread
      · exact hread
    | plus | minus => exact hread

end Binary64
end WallClock
