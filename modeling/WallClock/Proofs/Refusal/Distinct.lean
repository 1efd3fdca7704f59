import WallClock.Proofs.Refusal.Message
import WallClock.Proofs.Text.Unquoted

/-!
# Refusals are told apart by what is said about them

No two refusals have the same message (`Refusal.message_eq_iff`). The kind of a refusal is seen from
the first character of its message. Where a text is quoted it can be read back. A stamp is not
quoted, but it is spelled without letters other than the one before the hour, so that the words that
follow it do not begin inside; this does not depend on what the zone is called
(`Refusal.messageChars_inj`).
-/

namespace WallClock

open Text

namespace Text

/-- Texts that go up to the same character, and do not contain it, end at the same place. -/
theorem append_cons_inj {c : Char} {as bs rest rest' : List Char} (ha : c ∉ as) (hb : c ∉ bs)
    (h : as ++ c :: rest = bs ++ c :: rest') : as = bs ∧ rest = rest' := by
  induction as generalizing bs with
  | nil =>
    cases bs with
    | nil => exact ⟨rfl, List.tail_eq_of_cons_eq h⟩
    | cons b bs => exact absurd (List.head_eq_of_cons_eq h ▸ .head _) hb
  | cons a as ih =>
    cases bs with
    | nil => exact absurd (List.head_eq_of_cons_eq h ▸ .head _) ha
    | cons b bs =>
      obtain ⟨hhead, htail⟩ := List.cons.inj h
      obtain ⟨heq, hrest⟩ := ih (List.not_mem_of_not_mem_cons ha)
        (List.not_mem_of_not_mem_cons hb) htail
      exact ⟨by rw [hhead, heq], hrest⟩

end Text

namespace Stamp

variable {cs : List Char}

theorem d_notMem_of_blank {blanks : List Char} (h : Blank blanks) : 'd' ∉ blanks :=
  fun hmem => absurd (h 'd' hmem) (by decide)

theorem Spells.d_notMem {s : Stamp} (h : Spells cs s) : 'd' ∉ cs := by
  have hne : ∀ c ∈ cs, c ≠ 'd' := by
    refine h.forall_mem ?_ ?_ (by decide) (by decide) (by decide) (by decide)
    · rintro c hdigit rfl
      nomatch hdigit
    · rintro c hblank rfl
      exact absurd hblank (by decide)
  exact fun hmem => hne 'd' hmem rfl

/-- A stamp begins with a digit or a sign. -/
theorem SpellsYear.exists_cons {n : Int} (h : SpellsYear cs n) :
    ∃ c rest, cs = c :: rest ∧ c ≠ 'u' ∧ c ≠ 'i' := by
  cases h with
  | plain hds hlen =>
    cases cs with
    | nil => nomatch hlen
    | cons c rest =>
      have hdigit : c.isDigit = true := hds c (.head _)
      refine ⟨c, rest, rfl, ?_, ?_⟩
      · rintro rfl
        nomatch hdigit
      · rintro rfl
        nomatch hdigit
  | plus => exact ⟨_, _, rfl, by decide, by decide⟩
  | minus => exact ⟨_, _, rfl, by decide, by decide⟩

theorem Spells.exists_cons {s : Stamp} (h : Spells cs s) :
    ∃ c rest, cs = c :: rest ∧ c ≠ 'u' ∧ c ≠ 'i' := by
  obtain ⟨hyear⟩ := h
  obtain ⟨c, rest, rfl, hc⟩ := hyear.exists_cons
  exact ⟨c, _, rfl, hc⟩

end Stamp

namespace Refusal

/-- What is refused as skipped is a stamp. The zone may have any name. -/
def SkipsStamp : Refusal → Prop
  | unknownZone _ => True
  | unreadable _ => True
  | skipped text _ => ∃ s, Stamp.Spells text.toList s

theorem Arises.skipsStamp [Database] {e : Refusal} (h : e.Arises) : e.SkipsStamp := by
  cases e with
  | unknownZone name => trivial
  | unreadable text => trivial
  | skipped text zone =>
    obtain ⟨z, s, -, hspells⟩ := h.exists_spells
    exact ⟨s, hspells⟩

theorem messageChars_unknownZone (name : String) :
    (unknownZone name).messageChars = "unknown time zone ".toList ++ quote name.toList := rfl

theorem messageChars_unreadable (given : String) : (unreadable given).messageChars =
    "invalid date/time ".toList ++ (quote given.toList ++ ", expected YYYY-MM-DDTHH:mm".toList) :=
  List.append_assoc _ _ _

theorem messageChars_skipped (text zone : String) : (skipped text zone).messageChars =
    text.toList ++ (" does not exist in time zone ".toList ++ zone.toList) :=
  List.append_assoc _ _ _

/-! ## Kinds -/

theorem SkipsStamp.exists_messageChars_eq {text zone : String} (h : (skipped text zone).SkipsStamp) :
    ∃ c rest, (skipped text zone).messageChars = c :: rest ∧ c ≠ 'u' ∧ c ≠ 'i' := by
  obtain ⟨s, hspells⟩ := h
  obtain ⟨c, rest, htext, hc⟩ := hspells.exists_cons
  rw [messageChars_skipped, htext]
  exact ⟨c, _, rfl, hc⟩

theorem messageChars_unknownZone_ne_skipped {name text zone : String}
    (h : (skipped text zone).SkipsStamp) :
    (unknownZone name).messageChars ≠ (skipped text zone).messageChars := by
  obtain ⟨c, rest, hchars, hc, -⟩ := h.exists_messageChars_eq
  rw [hchars]
  exact fun heq => hc (List.head_eq_of_cons_eq heq).symm

theorem messageChars_unreadable_ne_skipped {given text zone : String}
    (h : (skipped text zone).SkipsStamp) :
    (unreadable given).messageChars ≠ (skipped text zone).messageChars := by
  obtain ⟨c, rest, hchars, -, hc⟩ := h.exists_messageChars_eq
  rw [hchars]
  exact fun heq => hc (List.head_eq_of_cons_eq heq).symm

theorem messageChars_unknownZone_ne_unreadable (name given : String) :
    (unknownZone name).messageChars ≠ (unreadable given).messageChars := by
  intro heq
  nomatch congrArg List.head? heq

/-! ## Texts -/

theorem messageChars_unknownZone_inj {name name' : String}
    (h : (unknownZone name).messageChars = (unknownZone name').messageChars) : name = name' := by
  rw [messageChars_unknownZone, messageChars_unknownZone] at h
  have hquote := List.append_cancel_left h
  rw [← List.append_nil (quote name.toList), ← List.append_nil (quote name'.toList)] at hquote
  exact String.toList_inj.1 (quote_append_inj hquote).1

theorem messageChars_unreadable_inj {given given' : String}
    (h : (unreadable given).messageChars = (unreadable given').messageChars) : given = given' := by
  rw [messageChars_unreadable, messageChars_unreadable] at h
  have hquote := List.append_cancel_left h
  exact String.toList_inj.1 (quote_append_inj hquote).1

theorem messageChars_skipped_inj {text text' zone zone' : String}
    (hskips : (skipped text zone).SkipsStamp) (hskips' : (skipped text' zone').SkipsStamp)
    (h : (skipped text zone).messageChars = (skipped text' zone').messageChars) :
    text = text' ∧ zone = zone' := by
  have hparts (text zone : String) : (skipped text zone).messageChars =
      (text.toList ++ [' ']) ++ 'd' :: ("oes not exist in time zone ".toList ++ zone.toList) := by
    rw [messageChars_skipped, List.append_assoc]
    rfl
  have hblank {text zone : String} (h : (skipped text zone).SkipsStamp) :
      'd' ∉ text.toList ++ [' '] := by
    obtain ⟨s, hspells⟩ := h
    rw [List.mem_append, not_or]
    exact ⟨hspells.d_notMem, by decide⟩
  rw [hparts, hparts] at h
  obtain ⟨htext, hzone⟩ := append_cons_inj (hblank hskips) (hblank hskips') h
  exact ⟨String.toList_inj.1 (List.append_cancel_right htext),
    String.toList_inj.1 (List.append_cancel_left hzone)⟩

/-- A message says which kind of refusal it is about, and gives the texts in it. -/
theorem messageChars_inj {e e' : Refusal} (h : e.SkipsStamp) (h' : e'.SkipsStamp)
    (heq : e.messageChars = e'.messageChars) : e = e' := by
  cases e with
  | unknownZone name =>
    cases e' with
    | unknownZone name' => rw [messageChars_unknownZone_inj heq]
    | unreadable given' => exact absurd heq (messageChars_unknownZone_ne_unreadable name given')
    | skipped text' zone' => exact absurd heq (messageChars_unknownZone_ne_skipped h')
  | unreadable given =>
    cases e' with
    | unknownZone name' =>
      exact absurd heq.symm (messageChars_unknownZone_ne_unreadable name' given)
    | unreadable given' => rw [messageChars_unreadable_inj heq]
    | skipped text' zone' => exact absurd heq (messageChars_unreadable_ne_skipped h')
  | skipped text zone =>
    cases e' with
    | unknownZone name' => exact absurd heq.symm (messageChars_unknownZone_ne_skipped h)
    | unreadable given' => exact absurd heq.symm (messageChars_unreadable_ne_skipped h)
    | skipped text' zone' =>
      obtain ⟨rfl, rfl⟩ := messageChars_skipped_inj h h' heq
      rfl

/-! ## Messages -/

/-- The words that follow a stamp. -/
def skippedWords : List Char := "does not exist in time zone".toList

theorem not_skippedWords_isInfix {cs : List Char} (h : 'd' ∉ cs) : ¬skippedWords <:+: cs :=
  fun hwords => h (hwords.subset (.head _))

/-- What is read as a stamp has no more in it than the spelling of one and white space around. -/
theorem d_notMem_of_parse [Database] {z : Zone} {text : String}
    (h : ∀ given, z.parse text ≠ .error (.unreadable given)) : 'd' ∉ text.toList := by
  obtain ⟨s, -, hspells⟩ := Zone.exists_spells_of_ne h
  obtain ⟨lead, trail, htext, hlead, htrail⟩ := (isTrimmed_trim text.toList).around
  rw [htext, List.mem_append, List.mem_append, not_or, not_or]
  exact ⟨⟨Stamp.d_notMem_of_blank hlead, hspells.d_notMem⟩, Stamp.d_notMem_of_blank htrail⟩

/-- The messages of two refusals are the same only where the refusals are. For the two kinds that
quote a text, any text whatever is read back from the quotation, and so is where that ends. For a
stamp that is skipped, no text that is read as a stamp has the words in it that follow. -/
theorem message_eq_iff [Database] :
    (∀ e e' : Refusal, e.Arises → e'.Arises → (e.message = e'.message ↔ e = e')) ∧
    (∀ (text : String) (rest : List Char),
      unquote? (quote text.toList ++ rest) = some (text.toList, rest)) ∧
    (∀ (z : Zone) (text : String), (∀ given, z.parse text ≠ .error (.unreadable given)) →
      ¬skippedWords <:+: text.toList) ∧
    ∀ text zone : String, (skipped text zone).Arises → ¬skippedWords <:+: text.toList := by
  refine ⟨?_, ?_, ?_, ?_⟩
  · intro e e' h h'
    refine ⟨fun heq => ?_, fun heq => heq ▸ rfl⟩
    exact messageChars_inj h.skipsStamp h'.skipsStamp (String.ofList_inj.1 heq)
  · intro text rest
    exact unquote?_quote text.toList rest
  · intro z text hread
    exact not_skippedWords_isInfix (d_notMem_of_parse hread)
  · intro text zone h
    obtain ⟨z, s, -, hspells⟩ := h.exists_spells
    exact not_skippedWords_isInfix hspells.d_notMem

section
attribute [local instance] Database.recorded

/-- A text that looks like the escape of an accent, the accent itself, and a stamp that is skipped,
with a space in it or without. -/
theorem message_eq_iff_accent :
    let looksEscaped := unreadable "\\u\x7b301\x7d"
    let accent := unreadable "\u0301"
    let spaced := skipped "2016-05- 01T02:45" "America/Caracas"
    let close := skipped "2016-05-01T02:45" "America/Caracas"
    looksEscaped.message ≠ accent.message ∧ accent.message ≠ spaced.message ∧
      spaced.message ≠ close.message ∧
      unquote? (quote "\\u\x7b301\x7d".toList ++ [',']) = some ("\\u\x7b301\x7d".toList, [',']) ∧
      ¬skippedWords <:+: " 2016-05- 01T02:45".toList ∧
      ¬skippedWords <:+: "2016-05- 01T02:45".toList := by
  intro looksEscaped accent spaced close
  obtain ⟨hiff, hread, hparsed, hskipped⟩ := message_eq_iff
  have hlooks : Zone.caracas.parse "\\u\x7b301\x7d" = .error looksEscaped := by rfl
  have haccent : Zone.caracas.parse "\u0301" = .error accent := by rfl
  have hspaced : Zone.caracas.parse " 2016-05- 01T02:45" = .error spaced := by rfl
  have hclose : Zone.caracas.parse "2016-05-01T02:45" = .error close := by rfl
  refine ⟨?_, ?_, ?_, hread _ _, ?_, hskipped _ _ (.parse hspaced)⟩
  · intro heq
    have h := (hiff _ _ (.parse hlooks) (.parse haccent)).1 heq
    revert h
    decide
  · intro heq
    nomatch (hiff _ _ (.parse haccent) (.parse hspaced)).1 heq
  · intro heq
    have h := (hiff _ _ (.parse hspaced) (.parse hclose)).1 heq
    revert h
    decide
  · refine hparsed Zone.caracas " 2016-05- 01T02:45" fun given h => ?_
    have heq : spaced = unreadable given := Except.error.inj (hspaced.symm.trans h)
    nomatch heq

end

end Refusal
end WallClock
