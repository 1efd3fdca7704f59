import WallClock.Proofs.Text.Case
import WallClock.Stamp

/-!
# Looking up zones

A text names a zone exactly when it is a name of the database but for the case of ASCII letters
(`Zone.resolve_caseless`). No two names of the database are the same but for case
(`ZoneName.eq_of_caseVariant`), so that at most one name can be meant, and it makes no difference
that the exact spelling is tried first.
-/

namespace WallClock

open Text

namespace ZoneName

variable {name : ZoneName} {text : String}

theorem eq_of_text_eq {m n : ZoneName} (h : m.text = n.text) : m = n := by
  cases m
  cases n
  cases h
  rfl

/-- The names of the database have different numbers. -/
theorem nodup_caselessCode_all : (all.map caselessCode).Nodup := by
  have hnew : allNew 0 (all.map caselessCode) = true := by decide +kernel
  exact (nodup_of_allNew hnew).1

/-- Names that are the same but for case are one. -/
theorem eq_of_caseVariant {m n : ZoneName} (h : CaseVariant m.text n.text) : m = n :=
  eq_of_text_eq
    (List.inj_on_of_nodup_map nodup_caselessCode_all m.listed n.listed h.caselessCode_eq)

theorem sameIgnoringCase_iff {a b : String} : sameIgnoringCase a b = true ↔ CaseVariant a b := by
  rw [sameIgnoringCase, beq_iff_eq]
  exact map_toLower_eq_iff

/-! ## The two ways to look up -/

theorem ofSpelling?_eq_some_iff : ofSpelling? text = some name ↔ name.text = text := by
  unfold ofSpelling?
  split
  case isTrue h =>
    rw [Option.some.injEq]
    exact ⟨fun heq => heq ▸ rfl, fun heq => eq_of_text_eq heq.symm⟩
  case isFalse h =>
    refine ⟨nofun, fun heq => absurd ?_ h⟩
    rw [← heq]
    exact name.listed

theorem caseVariant_of_ofAnyCase? (h : ofAnyCase? text = some name) :
    CaseVariant name.text text := by
  unfold ofAnyCase? at h
  split at h
  case h_1 listed hfind =>
    cases h
    have hsame := List.find?_some hfind
    exact sameIgnoringCase_iff.1 hsame
  case h_2 => nomatch h

theorem ofAnyCase?_eq_some_iff : ofAnyCase? text = some name ↔ CaseVariant name.text text := by
  refine ⟨caseVariant_of_ofAnyCase?, fun hsame => ?_⟩
  cases hfound : ofAnyCase? text with
  | some other =>
    have hother := caseVariant_of_ofAnyCase? hfound
    rw [eq_of_caseVariant (hother.trans hsame.symm)]
  | none =>
    unfold ofAnyCase? at hfound
    split at hfound
    case h_1 => nomatch hfound
    case h_2 hnone =>
      have hnot := List.find?_eq_none.1 hnone name.text name.listed
      exact absurd (sameIgnoringCase_iff.2 hsame) hnot

/-- An exact spelling is found in the second way, too. -/
theorem ofAnyCase?_of_ofSpelling? (h : ofSpelling? text = some name) :
    ofAnyCase? text = some name := by
  rw [ofAnyCase?_eq_some_iff, ofSpelling?_eq_some_iff.1 h]
  exact .refl text

theorem ofText?_eq_ofAnyCase? (text : String) : ofText? text = ofAnyCase? text := by
  unfold ofText?
  cases hexact : ofSpelling? text with
  | none => exact Option.none_or
  | some name => exact (ofAnyCase?_of_ofSpelling? hexact).symm

end ZoneName

namespace Zone

variable {text : String} {z : Zone} {e : Refusal}

theorem resolve_eq_ok_iff :
    resolve text = .ok z ↔ ∃ name : ZoneName, CaseVariant name.text text ∧ z = .named name := by
  have htext : ofText? text = some z ↔
      ∃ name : ZoneName, CaseVariant name.text text ∧ z = .named name := by
    unfold ofText?
    rw [ZoneName.ofText?_eq_ofAnyCase?, Option.map_eq_some_iff]
    simp only [ZoneName.ofAnyCase?_eq_some_iff, eq_comm (a := z)]
  unfold resolve
  rw [← htext]
  cases ofText? text with
  | some w => simp
  | none => simp

theorem resolve_eq_error_iff :
    resolve text = .error e ↔ (∀ z, resolve text ≠ .ok z) ∧ e = .unknownZone text := by
  unfold resolve
  cases ofText? text with
  | some w => simp
  | none => simp [eq_comm]

theorem resolve_of_caseVariant (name : ZoneName) (h : CaseVariant name.text text) :
    resolve text = .ok (.named name) := resolve_eq_ok_iff.2 ⟨name, h, rfl⟩

/-- Texts that name zones name the same one exactly when they are the same but for case. -/
theorem eq_iff_caseVariant_of_resolve {a b : String} {w : Zone} (ha : resolve a = .ok z)
    (hb : resolve b = .ok w) : z = w ↔ CaseVariant a b := by
  obtain ⟨m, hm, rfl⟩ := resolve_eq_ok_iff.1 ha
  obtain ⟨n, hn, rfl⟩ := resolve_eq_ok_iff.1 hb
  rw [named.injEq]
  constructor
  · rintro rfl
    exact hm.symm.trans hn
  · intro hab
    exact ZoneName.eq_of_caseVariant ((hm.trans hab).trans hn.symm)

/-- Looking up a zone by name does not depend on the case of ASCII letters, and on nothing else: a
text names a zone exactly when it is a name of the database but for case, the zone has the spelling
of the database, and any other text is refused as it is. So zones are the same exactly when the
texts that name them are, zones come back by their names, and no text names that of the host. The
exact spelling, which is tried first, never leads elsewhere. -/
theorem resolve_caseless :
    (∀ text : String, (∃ z, resolve text = .ok z) ↔ ∃ listed ∈ ZoneName.all,
      CaseVariant listed text) ∧
    (∀ (text : String) (z : Zone), resolve text = .ok z →
      z ≠ host ∧ z.name ∈ ZoneName.all ∧ CaseVariant z.name text) ∧
    (∀ (text : String) (e : Refusal), resolve text = .error e ↔
      (∀ listed ∈ ZoneName.all, ¬CaseVariant listed text) ∧ e = .unknownZone text) ∧
    (∀ (a b : String) (z w : Zone), resolve a = .ok z → resolve b = .ok w →
      (z = w ↔ CaseVariant a b)) ∧
    (∀ name : ZoneName, resolve (named name).name = .ok (.named name) ∧
      ∀ text : String, CaseVariant name.text text → resolve text = resolve name.text) ∧
    ∀ (text : String) (name : ZoneName), ZoneName.ofSpelling? text = some name →
      ZoneName.ofAnyCase? text = some name := by
  have hnamed (text : String) : (∃ z, resolve text = .ok z) ↔
      ∃ listed ∈ ZoneName.all, CaseVariant listed text := by
    constructor
    · intro ⟨z, hz⟩
      obtain ⟨name, hname, -⟩ := resolve_eq_ok_iff.1 hz
      exact ⟨name.text, name.listed, hname⟩
    · intro ⟨listed, hlisted, hsame⟩
      exact ⟨_, resolve_of_caseVariant ⟨listed, hlisted⟩ hsame⟩
  refine ⟨hnamed, ?_, ?_, ?_, ?_, ?_⟩
  · intro text z hz
    obtain ⟨name, hname, rfl⟩ := resolve_eq_ok_iff.1 hz
    exact ⟨nofun, name.listed, hname⟩
  · intro text e
    rw [resolve_eq_error_iff, ← not_exists, hnamed]
    simp only [not_exists, not_and]
  · intro a b z w ha hb
    exact eq_iff_caseVariant_of_resolve ha hb
  · intro name
    have hself : resolve name.text = .ok (.named name) := resolve_of_caseVariant name (.refl _)
    refine ⟨hself, fun text hsame => ?_⟩
    rw [hself]
    exact resolve_of_caseVariant name hsame
  · intro text name h
    exact ZoneName.ofAnyCase?_of_ofSpelling? h

/-- Paris in two spellings, and two names for the time of New York. -/
theorem resolve_caseless_paris :
    let paris : ZoneName := ⟨"Europe/Paris", by decide +kernel⟩
    let eastern : ZoneName := ⟨"US/Eastern", by decide +kernel⟩
    let newYork : ZoneName := ⟨"America/New_York", by decide +kernel⟩
    resolve "europe/PARIS" = resolve "Europe/Paris" ∧ named paris ≠ host ∧
      CaseVariant (named paris).name "europe/PARIS" ∧
      ZoneName.ofAnyCase? "Europe/Paris" = some paris ∧ named eastern ≠ named newYork := by
  intro paris eastern newYork
  obtain ⟨-, hnames, -, hzones, hback, hexact⟩ := resolve_caseless
  have hparis : resolve "europe/PARIS" = resolve paris.text :=
    (hback paris).2 "europe/PARIS" (by decide +kernel)
  obtain ⟨hhost, -, hsame⟩ := hnames "europe/PARIS" (.named paris) (hparis.trans (hback paris).1)
  refine ⟨hparis, hhost, hsame, ?_, ?_⟩
  · exact hexact "Europe/Paris" paris (ZoneName.ofSpelling?_eq_some_iff.2 rfl)
  · intro heq
    have hcase := (hzones _ _ _ _ (hback eastern).1 (hback newYork).1).1 heq
    revert hcase
    decide +kernel

end Zone
end WallClock
