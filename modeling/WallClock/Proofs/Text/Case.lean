import Mathlib.Data.List.Forall2
import Mathlib.Data.List.Nodup
import WallClock.Proofs.Text.Quoted

/-!
# Texts up to the case of ASCII letters

Two characters are the same but for case when they are equal or the two cases of one letter from `A`
to `Z` (`Text.SameButCase`), and two texts are (`Text.CaseVariant`) when they have as many
characters, and each of one is the same but for case as that of the other in its place. No other
letters have cases here, and nothing is left out of account.

To see that among many texts no two are the same but for case it is enough to compute a number for
each of them from the capitals and small letters alike (`Text.caselessCode`), and to mark these
numbers off one after the other (`Text.allNew`).
-/

namespace WallClock
namespace Text

/-- The characters are the upper and the lower case of one ASCII letter. -/
def Capital (upper lower : Char) : Prop :=
  65 ≤ upper.toNat ∧ upper.toNat ≤ 90 ∧ lower.toNat = upper.toNat + 32

/-- Two characters that are equal or differ in the case of an ASCII letter. -/
def SameButCase (c d : Char) : Prop := c = d ∨ Capital c d ∨ Capital d c

/-- Two texts that are equal or differ in the case of ASCII letters. -/
def CaseVariant (a b : String) : Prop := List.Forall₂ SameButCase a.toList b.toList

theorem toNat_toLower (c : Char) :
    c.toLower.toNat = if 65 ≤ c.toNat ∧ c.toNat ≤ 90 then c.toNat + 32 else c.toNat := by
  have hrange : (c.val ≥ 'A'.val ∧ c.val ≤ 'Z'.val) ↔ 65 ≤ c.toNat ∧ c.toNat ≤ 90 := Iff.rfl
  unfold Char.toLower
  split
  case isTrue h =>
    have hle := (hrange.1 h).2
    rw [if_pos (hrange.1 h)]
    change (c.toNat + 32) % 2 ^ 32 = c.toNat + 32
    exact Nat.mod_eq_of_lt (by omega)
  case isFalse h => rw [if_neg fun hnat => h (hrange.2 hnat)]

theorem toLower_eq_toLower_iff {c d : Char} : c.toLower = d.toLower ↔ SameButCase c d := by
  rw [← Char.toNat_inj, toNat_toLower, toNat_toLower, SameButCase, Capital, Capital,
    ← Char.toNat_inj]
  split <;> split <;> omega

theorem map_toLower_eq_iff {cs ds : List Char} :
    cs.map Char.toLower = ds.map Char.toLower ↔ List.Forall₂ SameButCase cs ds := by
  rw [← List.forall₂_eq_eq_eq, List.forall₂_map_left_iff, List.forall₂_map_right_iff]
  exact ⟨List.Forall₂.imp fun _ _ => toLower_eq_toLower_iff.1,
    List.Forall₂.imp fun _ _ => toLower_eq_toLower_iff.2⟩

instance (a b : String) : Decidable (CaseVariant a b) :=
  decidable_of_iff (a.toList.map Char.toLower = b.toList.map Char.toLower) map_toLower_eq_iff

namespace CaseVariant

variable {a b c : String}

theorem refl (a : String) : CaseVariant a a := map_toLower_eq_iff.1 rfl

theorem symm (h : CaseVariant a b) : CaseVariant b a :=
  map_toLower_eq_iff.1 (map_toLower_eq_iff.2 h).symm

theorem trans (hab : CaseVariant a b) (hbc : CaseVariant b c) : CaseVariant a c :=
  map_toLower_eq_iff.1 ((map_toLower_eq_iff.2 hab).trans (map_toLower_eq_iff.2 hbc))

end CaseVariant

/-! ## Telling texts apart -/

/-- A byte, with capitals taken for small letters. -/
def lowerByte (b : UInt8) : Nat := if 65 ≤ b.toNat ∧ b.toNat ≤ 90 then b.toNat + 32 else b.toNat

/-- A number for a text that does not depend on the case of its letters. The modulus keeps it small
enough to be marked off, and is otherwise of no account. -/
def caselessCode (s : String) : Nat :=
  (s.toByteArray.data.toList.map lowerByte).foldl (fun code n => 256 * code + n) 0 % 28663

theorem utf8EncodeChar_of_le {c : Char} (h : c.toNat ≤ 127) :
    String.utf8EncodeChar c = [UInt8.ofNat c.toNat] := by
  unfold String.utf8EncodeChar
  exact if_pos h

theorem Capital.map_lowerByte {upper lower : Char} (h : Capital upper lower) :
    (String.utf8EncodeChar upper).map lowerByte = (String.utf8EncodeChar lower).map lowerByte := by
  obtain ⟨h1, h2, h3⟩ := h
  rw [utf8EncodeChar_of_le (by omega), utf8EncodeChar_of_le (by omega), h3]
  simp only [List.map_cons, List.map_nil, lowerByte, UInt8.toNat_ofNat']
  congr 1
  split <;> split <;> omega

theorem SameButCase.map_lowerByte {c d : Char} (h : SameButCase c d) :
    (String.utf8EncodeChar c).map lowerByte = (String.utf8EncodeChar d).map lowerByte := by
  rcases h with rfl | h | h
  · rfl
  · exact h.map_lowerByte
  · exact h.map_lowerByte.symm

theorem CaseVariant.caselessCode_eq {a b : String} (h : CaseVariant a b) :
    caselessCode a = caselessCode b := by
  have hbytes {cs ds : List Char} (h : List.Forall₂ SameButCase cs ds) :
      (cs.flatMap String.utf8EncodeChar).map lowerByte =
        (ds.flatMap String.utf8EncodeChar).map lowerByte := by
    induction h with
    | nil => rfl
    | cons hcd _ ih =>
      rw [List.flatMap_cons, List.flatMap_cons, List.map_append, List.map_append,
        hcd.map_lowerByte, ih]
  rw [caselessCode, caselessCode, bytes_eq_flatMap, bytes_eq_flatMap, hbytes h]

/-- Marks a number. The marks are the bits of one number. -/
def mark (marks n : Nat) : Nat := marks ||| 1 <<< n

theorem testBit_mark {marks m n : Nat} :
    (mark marks n).testBit m = false ↔ marks.testBit m = false ∧ m ≠ n := by
  rw [mark, Nat.testBit_or, Bool.or_eq_false_iff, Nat.one_shiftLeft, Nat.testBit_two_pow,
    decide_eq_false_iff_not, ne_comm]

/-- Whether no number is marked yet, and none comes twice. -/
def allNew (marks : Nat) : List Nat → Bool
  | [] => true
  | n :: ns => !marks.testBit n && allNew (mark marks n) ns

theorem nodup_of_allNew {marks : Nat} {ns : List Nat} (h : allNew marks ns = true) :
    ns.Nodup ∧ ∀ n ∈ ns, marks.testBit n = false := by
  induction ns generalizing marks with
  | nil => exact ⟨.nil, nofun⟩
  | cons n ns ih =>
    simp only [allNew, Bool.and_eq_true, Bool.not_eq_true'] at h
    obtain ⟨hnodup, hmarks⟩ := ih h.2
    constructor
    · exact List.nodup_cons.2 ⟨fun hmem => (testBit_mark.1 (hmarks n hmem)).2 rfl, hnodup⟩
    · exact List.forall_mem_cons.2 ⟨h.1, fun m hm => (testBit_mark.1 (hmarks m hm)).1⟩

end Text
end WallClock
