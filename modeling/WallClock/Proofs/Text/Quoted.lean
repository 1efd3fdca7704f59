import WallClock.Text.Quoted

/-!
# Quoted text stays in its line

Control characters and the separators of lines and paragraphs do not stand in a line of text
(`OneLine`). All of them are without a printed form, so that quoting a text escapes them
(`oneLine_quote`); what escapes are made of is printed as it is.
-/

namespace WallClock
namespace Text

/-- Whether a character has no place in a line of text: the control characters, and the separators
of lines and of paragraphs. -/
def breaksLine (c : Char) : Bool :=
  c.toNat ≤ 0x1f || (0x7f ≤ c.toNat && c.toNat ≤ 0x9f) || c.toNat = 0x2028 || c.toNat = 0x2029

/-- A text without characters that break lines. -/
def OneLine (cs : List Char) : Prop := ∀ c ∈ cs, breaksLine c = false

instance (cs : List Char) : Decidable (OneLine cs) := List.decidableBAll _ cs

theorem oneLine_append {cs ds : List Char} : OneLine (cs ++ ds) ↔ OneLine cs ∧ OneLine ds :=
  List.forall_mem_append

theorem oneLine_flatMap {cs : List Char} {f : Char → List Char} :
    OneLine (cs.flatMap f) ↔ ∀ c ∈ cs, OneLine (f c) := List.forall_mem_flatMap

/-- The printed characters of ASCII do not break lines. -/
theorem breaksLine_of_toNat_lt {c : Char} (h1 : 0x20 ≤ c.toNat) (h2 : c.toNat < 0x7f) :
    breaksLine c = false := by
  simp only [breaksLine, Bool.or_eq_false_iff, Bool.and_eq_false_iff, decide_eq_false_iff_not]
  omega

theorem breaksLine_of_isDigit {c : Char} (h : c.isDigit = true) : breaksLine c = false := by
  obtain ⟨h1, h2⟩ := Char.isDigit_iff_toNat.1 h
  change 48 ≤ c.toNat at h1
  change c.toNat ≤ 57 at h2
  exact breaksLine_of_toNat_lt (by omega) (by omega)

/-! ## Texts by their bytes -/

/-- A character of ASCII is its own encoding, and that of any other begins above. -/
theorem exists_mem_utf8EncodeChar (c : Char) :
    ∃ b ∈ String.utf8EncodeChar c, b.toNat = c.toNat ∨ 0x80 ≤ b.toNat := by
  unfold String.utf8EncodeChar
  change ∃ b ∈ (if c.toNat ≤ 127 then [UInt8.ofNat c.toNat] else _), _
  split
  case isTrue h =>
    refine ⟨_, .head _, .inl ?_⟩
    rw [UInt8.toNat_ofNat']
    omega
  case isFalse =>
    split
    case isTrue =>
      refine ⟨_, .head _, .inr ?_⟩
      rw [UInt8.toNat_ofNat']
      omega
    case isFalse =>
      split
      all_goals
        refine ⟨_, .head _, .inr ?_⟩
        rw [UInt8.toNat_ofNat']
        omega

theorem bytes_eq_flatMap (s : String) :
    s.toByteArray.data.toList = s.toList.flatMap String.utf8EncodeChar := by
  rw [← String.utf8Encode_toList, List.utf8Encode, List.data_toByteArray, List.toList_toArray]

/-- Whether all bytes of a text are printed characters of ASCII. -/
def isPrintedAscii (s : String) : Bool :=
  s.toByteArray.data.toList.all fun b => 0x20 ≤ b.toNat && b.toNat < 0x7f

theorem oneLine_of_isPrintedAscii {s : String} (h : isPrintedAscii s = true) : OneLine s.toList := by
  intro c hc
  obtain ⟨b, hb, hcode⟩ := exists_mem_utf8EncodeChar c
  have hmem : b ∈ s.toByteArray.data.toList := by
    rw [bytes_eq_flatMap]
    exact List.mem_flatMap.2 ⟨c, hc, hb⟩
  have hprinted := List.all_eq_true.1 h b hmem
  rw [Bool.and_eq_true, decide_eq_true_eq, decide_eq_true_eq] at hprinted
  obtain ⟨hlow, hhigh⟩ := hprinted
  rcases hcode with hcode | hcode
  · rw [hcode] at hlow hhigh
    exact breaksLine_of_toNat_lt hlow hhigh
  · omega

/-! ## Quoting -/

/-- What breaks lines is among the controls and the separators without a printed form. -/
theorem isUnprintable_of_breaksLine {c : Char} (h : breaksLine c = true) :
    isUnprintable c = true := by
  have hranges : (0x0, 0x1f) ∈ unprintableRanges ∧ (0x7f, 0xa0) ∈ unprintableRanges ∧
      (0x2028, 0x202f) ∈ unprintableRanges := by decide +kernel
  have hrange {first last : Nat} (hmem : (first, last) ∈ unprintableRanges) (h1 : first ≤ c.toNat)
      (h2 : c.toNat ≤ last) : isUnprintable c = true :=
    List.any_eq_true.2 ⟨_, hmem, by simp [h1, h2]⟩
  simp only [breaksLine, Bool.or_eq_true, Bool.and_eq_true, decide_eq_true_eq] at h
  rcases h with ((hc | hc) | hc) | hc
  · exact hrange hranges.1 (Nat.zero_le _) hc
  · exact hrange hranges.2.1 hc.1 (by omega)
  · exact hrange hranges.2.2 (by omega) (by omega)
  · exact hrange hranges.2.2 (by omega) (by omega)

theorem exists_digitChar_of_mem_toDigits {b n : Nat} {c : Char} (hb : 1 < b)
    (h : c ∈ Nat.toDigits b n) : ∃ k < b, c = Nat.digitChar k := by
  induction n using Nat.strongRecOn with
  | ind n ih =>
    rw [Nat.toDigits_eq_if hb] at h
    split at h
    case isTrue hn => exact ⟨n, hn, List.mem_singleton.1 h⟩
    case isFalse hn =>
      rcases List.mem_append.1 h with h | h
      · exact ih _ (Nat.div_lt_self (by omega) hb) h
      · exact ⟨_, Nat.mod_lt _ (by omega), List.mem_singleton.1 h⟩

theorem oneLine_codePointEscape (c : Char) : OneLine (codePointEscape c) := by
  have hdigit : ∀ k < 16, breaksLine (Nat.digitChar k) = false := by decide
  rw [codePointEscape, oneLine_append, oneLine_append]
  refine ⟨⟨by decide, fun d hd => ?_⟩, by decide⟩
  obtain ⟨k, hk, rfl⟩ := exists_digitChar_of_mem_toDigits (by decide) hd
  exact hdigit k hk

theorem oneLine_escape (c : Char) : OneLine (escape c) := by
  unfold escape
  iterate 6 (split; · decide)
  split
  case isTrue => exact oneLine_codePointEscape c
  case isFalse hseen =>
    intro d hd
    obtain rfl := List.mem_singleton.1 hd
    cases hbreaks : breaksLine d with
    | false => rfl
    | true =>
      refine absurd ?_ hseen
      rw [isUnseen, isUnprintable_of_breaksLine hbreaks]
      rfl

theorem oneLine_quote (cs : List Char) : OneLine (quote cs) := by
  rw [quote, oneLine_append, oneLine_append, oneLine_flatMap]
  exact ⟨⟨by decide, fun c _ => oneLine_escape c⟩, by decide⟩

end Text
end WallClock
