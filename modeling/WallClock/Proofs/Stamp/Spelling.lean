import WallClock.Proofs.Text.Digits
import WallClock.Stamp

/-!
# Spellings of stamps

`Stamp.Spells` says which texts stand for a stamp, without saying how they are read. Reading
accepts exactly these, as far as they stand for stamps of the calendar
(`Stamp.read?_eq_some_iff`). Each reader of a part has a completeness lemma, for a part followed
by what cannot belong to it, and a soundness lemma.
-/

namespace WallClock
namespace Stamp

open Text

/-- The spellings of a year: one to four digits, or a sign with any number of them. -/
inductive SpellsYear : List Char → Int → Prop
  | plain {ds : List Char} : Digits ds → 1 ≤ ds.length → ds.length ≤ 4 →
    SpellsYear ds (digitsValue ds : Nat)
  | plus {ds : List Char} : Digits ds → 1 ≤ ds.length → SpellsYear ('+' :: ds) (digitsValue ds : Nat)
  | minus {ds : List Char} : Digits ds → 1 ≤ ds.length →
    SpellsYear ('-' :: ds) (-(digitsValue ds : Nat))

/-- The spellings of every other number: one digit or two, after any white space. -/
inductive SpellsShort : List Char → Nat → Prop
  | mk {blanks ds : List Char} : Blank blanks → Digits ds → 1 ≤ ds.length → ds.length ≤ 2 →
    SpellsShort (blanks ++ ds) (digitsValue ds)

inductive Spells : List Char → Stamp → Prop
  | mk {year month day hour minute : List Char} {s : Stamp} : SpellsYear year s.date.year →
    SpellsShort month s.date.month → SpellsShort day s.date.day → SpellsShort hour s.hour →
    SpellsShort minute s.minute →
    Spells (year ++ '-' :: month ++ '-' :: day ++ 'T' :: hour ++ ':' :: minute) s

/-! ## Single characters and runs -/

theorem readChar_eq_some_iff {expected : Char} {cs rest : List Char} :
    readChar expected cs = some rest ↔ cs = expected :: rest := by
  cases cs with
  | nil => simp [readChar]
  | cons c cs => simp [readChar]

theorem readRun_append {ds rest : List Char} (admits : Nat → Bool) (hds : Digits ds)
    (hrest : NoDigitFirst rest) : readRun admits (ds ++ rest) =
      if admits ds.length then some (digitsValue ds, rest) else none := by
  rw [readRun, leadingDigits_append hds hrest, afterDigits_append hds hrest]

theorem readRun_sound {admits : Nat → Bool} {cs rest : List Char} {n : Nat}
    (h : readRun admits cs = some (n, rest)) :
    ∃ ds, Digits ds ∧ admits ds.length = true ∧ digitsValue ds = n ∧ cs = ds ++ rest := by
  simp only [readRun] at h
  split at h
  case isFalse => nomatch h
  case isTrue hadmits =>
    cases h
    exact ⟨_, digits_leadingDigits cs, hadmits, rfl, (leadingDigits_append_afterDigits cs).symm⟩

/-! ## Short numbers -/

theorem readShort_complete {cs rest : List Char} {n : Nat} (h : SpellsShort cs n)
    (hrest : NoDigitFirst rest) : readShort (cs ++ rest) = some (n, rest) := by
  obtain @⟨blanks, ds, hblanks, hds, hpos, hle⟩ := h
  have hskip : skipBlanks (blanks ++ ds ++ rest) = ds ++ rest := by
    rw [List.append_assoc, skipBlanks_append hblanks,
      skipBlanks_of_noBlankFirst (hds.noBlankFirst hpos rest)]
  rw [readShort, hskip]
  match ds, hpos, hle with
  | [c], _, _ =>
    have hc := hds c (.head _)
    cases rest with
    | nil => simp [hc]
    | cons d rest => simp [hc, hrest d rfl]
  | [c, d], _, _ => simp [hds c (.head _), hds d (.tail _ (.head _))]

theorem readShort_sound {cs rest : List Char} {n : Nat} (h : readShort cs = some (n, rest)) :
    ∃ word, SpellsShort word n ∧ cs = word ++ rest := by
  obtain ⟨blanks, hblanks, hcs⟩ := exists_skipBlanks cs
  have spell (ds : List Char) (hds : Digits ds) (hpos : 1 ≤ ds.length) (hle : ds.length ≤ 2)
      (heq : skipBlanks cs = ds ++ rest) (hn : digitsValue ds = n) :
      ∃ word, SpellsShort word n ∧ cs = word ++ rest :=
    ⟨blanks ++ ds, hn ▸ .mk hblanks hds hpos hle, by rw [hcs, heq, List.append_assoc]⟩
  rw [readShort] at h
  split at h
  case h_1 c d more heq =>
    split at h
    case isFalse => nomatch h
    case isTrue hc =>
      split at h
      case isTrue hd =>
        cases h
        exact spell [c, d] (by simp [Digits, hc, hd]) (by simp) (by simp) heq rfl
      case isFalse hd =>
        cases h
        exact spell [c] (by simp [Digits, hc]) (by simp) (by simp) heq rfl
  case h_2 c heq =>
    split at h
    case isFalse => nomatch h
    case isTrue hc =>
      cases h
      exact spell [c] (by simp [Digits, hc]) (by simp) (by simp) heq rfl
  case h_3 => nomatch h

/-! ## Years -/

/-- A year without a sign is read when it has at most four digits. -/
theorem readYear_digits {ds rest : List Char} (hds : Digits ds) (hpos : 1 ≤ ds.length)
    (hrest : NoDigitFirst rest) : readYear (ds ++ rest) =
      if ds.length ≤ 4 then some (((digitsValue ds : Nat) : Int), rest) else none := by
  rw [readYear, skipBlanks_of_noBlankFirst (hds.noBlankFirst hpos rest)]
  have hrun := readRun_append (fun k => 1 ≤ k && k ≤ 4) hds hrest
  split
  case h_1 heq | h_2 heq => exact absurd (hds.isDigit_of_append_eq_cons hpos heq) (by decide)
  case h_3 =>
    rw [hrun]
    by_cases hle : ds.length ≤ 4 <;> simp [hpos, hle]

theorem readYear_complete {cs rest : List Char} {year : Int} (h : SpellsYear cs year)
    (hrest : NoDigitFirst rest) : readYear (cs ++ rest) = some (year, rest) := by
  cases h with
  | plain hds hpos hle => rw [readYear_digits hds hpos hrest, if_pos hle]
  | plus hds hpos | minus hds hpos =>
    rw [List.cons_append, readYear, skipBlanks_cons (by decide)]
    simp [readRun_append _ hds hrest, hpos]

theorem readYear_sound {cs rest : List Char} {year : Int} (h : readYear cs = some (year, rest)) :
    ∃ word, SpellsYear word year ∧ skipBlanks cs = word ++ rest := by
  rw [readYear] at h
  split at h
  all_goals
    obtain ⟨⟨n, rest'⟩, hrun, heq⟩ := Option.map_eq_some_iff.1 h
    obtain ⟨ds, hds, hadmits, rfl, hcs⟩ := readRun_sound hrun
    cases heq
  case h_1 heq =>
    exact ⟨'-' :: ds, .minus hds (by simpa using hadmits), by rw [heq, hcs, List.cons_append]⟩
  case h_2 heq =>
    exact ⟨'+' :: ds, .plus hds (by simpa using hadmits), by rw [heq, hcs, List.cons_append]⟩
  case h_3 =>
    rw [Bool.and_eq_true, decide_eq_true_eq, decide_eq_true_eq] at hadmits
    exact ⟨ds, .plain hds hadmits.1 hadmits.2, hcs⟩

/-! ## Stamps -/

theorem readNumbers?_complete {cs : List Char} {s : Stamp} (h : Spells cs s) :
    readNumbers? cs = some s := by
  obtain @⟨year, month, day, hour, minute, s, hyear, hmonth, hday, hhour, hminute⟩ := h
  have hcs : year ++ '-' :: month ++ '-' :: day ++ 'T' :: hour ++ ':' :: minute =
      year ++ '-' :: (month ++ '-' :: (day ++ 'T' :: (hour ++ ':' :: (minute ++ [])))) := by simp
  rw [hcs, readNumbers?, readYear_complete hyear (noDigitFirst_cons rfl)]
  simp only [Option.bind_eq_bind, Option.bind_some, readChar, if_true]
  rw [readShort_complete hmonth (noDigitFirst_cons rfl)]
  simp only [Option.bind_some, if_true]
  rw [readShort_complete hday (noDigitFirst_cons rfl)]
  simp only [Option.bind_some, if_true]
  rw [readShort_complete hhour (noDigitFirst_cons rfl)]
  simp only [Option.bind_some, if_true]
  rw [readShort_complete hminute noDigitFirst_nil]
  rfl

theorem readNumbers?_sound {cs : List Char} {s : Stamp} (hcs : NoBlankFirst cs)
    (h : readNumbers? cs = some s) : Spells cs s := by
  simp only [readNumbers?, Option.bind_eq_bind, Option.bind_eq_some_iff, readChar_eq_some_iff] at h
  obtain ⟨⟨year, _⟩, h1, cs₁, rfl, ⟨month, _⟩, h2, cs₂, rfl, ⟨day, _⟩, h3, cs₃, rfl,
    ⟨hour, _⟩, h4, cs₄, rfl, ⟨minute, cs₅⟩, h5, h⟩ := h
  obtain ⟨yearText, hyear, hcs₀⟩ := readYear_sound h1
  obtain ⟨monthText, hmonth, rfl⟩ := readShort_sound h2
  obtain ⟨dayText, hday, rfl⟩ := readShort_sound h3
  obtain ⟨hourText, hhour, rfl⟩ := readShort_sound h4
  obtain ⟨minuteText, hminute, rfl⟩ := readShort_sound h5
  rw [skipBlanks_of_noBlankFirst hcs] at hcs₀
  split at h
  case isFalse => nomatch h
  case isTrue hend =>
    cases h
    obtain rfl := List.isEmpty_iff.1 hend
    have h : Spells _ ⟨⟨year, month, day⟩, hour, minute⟩ := .mk hyear hmonth hday hhour hminute
    simpa [hcs₀] using h

/-- Reading accepts exactly the spellings of stamps of the calendar. -/
theorem read?_eq_some_iff {cs : List Char} {s : Stamp} (hcs : NoBlankFirst cs) :
    read? cs = some s ↔ Spells cs s ∧ s.Valid := by
  rw [read?, Option.filter_eq_some_iff, decide_eq_true_eq]
  exact and_congr_left fun _ => ⟨readNumbers?_sound hcs, readNumbers?_complete⟩

end Stamp
end WallClock
