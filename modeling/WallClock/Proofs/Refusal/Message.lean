import WallClock.Command.Outcome
import WallClock.Proofs.Stamp.Parse
import WallClock.Proofs.Text.Quoted

/-!
# What is said about refusals

A refusal is said in one line, unless it repeats a stamp with white space in it that breaks lines
(`Refusal.oneLine_message_iff`). The texts of other refusals are quoted, and names of zones are
plain. A stamp that has been read is repeated as it is; its digits and signs are harmless, but
white space of any kind may stand before its numbers. All that a program refuses is refused in one
of these ways (`Command.Request.arises_of_start`).
-/

namespace WallClock

open Text

/-! ## Names of zones and spellings of stamps -/

theorem ZoneName.isPrintedAscii_of_mem_all : ∀ text ∈ ZoneName.all, isPrintedAscii text = true := by
  decide +kernel

theorem Zone.oneLine_name : ∀ z : Zone, OneLine z.name.toList
  | host => by decide
  | named name => oneLine_of_isPrintedAscii (ZoneName.isPrintedAscii_of_mem_all _ name.listed)

namespace Text

/-- What breaks lines in a text is white space. -/
def BreaksAtBlanks (cs : List Char) : Prop := ∀ c ∈ cs, breaksLine c = true → isBlank c = true

theorem BreaksAtBlanks.oneLine_iff {cs : List Char} (h : BreaksAtBlanks cs) :
    OneLine cs ↔ ∀ c ∈ cs, isBlank c = true → breaksLine c = false := by
  refine ⟨fun hline c hc _ => hline c hc, fun hblanks c hc => ?_⟩
  cases hbreaks : breaksLine c with
  | false => rfl
  | true =>
    rw [← hbreaks]
    exact hblanks c hc (h c hc hbreaks)

end Text

namespace Stamp

variable {cs : List Char} {P : Char → Prop}

theorem SpellsYear.forall_mem {n : Int} (h : SpellsYear cs n) (hdigit : ∀ c, c.isDigit = true → P c)
    (hplus : P '+') (hminus : P '-') : ∀ c ∈ cs, P c := by
  cases h with
  | plain hds => exact fun c hc => hdigit c (hds c hc)
  | plus hds => exact List.forall_mem_cons.2 ⟨hplus, fun c hc => hdigit c (hds c hc)⟩
  | minus hds => exact List.forall_mem_cons.2 ⟨hminus, fun c hc => hdigit c (hds c hc)⟩

theorem SpellsShort.forall_mem {n : Nat} (h : SpellsShort cs n)
    (hdigit : ∀ c, c.isDigit = true → P c) (hblank : ∀ c, isBlank c = true → P c) :
    ∀ c ∈ cs, P c := by
  obtain ⟨hblanks, hds⟩ := h
  rw [List.forall_mem_append]
  exact ⟨fun c hc => hblank c (hblanks c hc), fun c hc => hdigit c (hds c hc)⟩

/-- A stamp is spelled with digits, white space, signs and the marks between its numbers. -/
theorem Spells.forall_mem {s : Stamp} (h : Spells cs s) (hdigit : ∀ c, c.isDigit = true → P c)
    (hblank : ∀ c, isBlank c = true → P c) (hplus : P '+') (hminus : P '-') (hT : P 'T')
    (hcolon : P ':') : ∀ c ∈ cs, P c := by
  have hshort {cs : List Char} {n : Nat} (h : SpellsShort cs n) := h.forall_mem hdigit hblank
  obtain ⟨hyear, hmonth, hday, hhour, hminute⟩ := h
  simp only [List.forall_mem_append, List.forall_mem_cons]
  exact ⟨⟨⟨⟨hyear.forall_mem hdigit hplus hminus, hminus, hshort hmonth⟩, hminus, hshort hday⟩, hT,
    hshort hhour⟩, hcolon, hshort hminute⟩

theorem Spells.breaksAtBlanks {s : Stamp} (h : Spells cs s) : BreaksAtBlanks cs := by
  refine h.forall_mem ?_ ?_ (by decide) (by decide) (by decide) (by decide)
  · intro c hdigit hbreaks
    rw [breaksLine_of_isDigit hdigit] at hbreaks
    nomatch hbreaks
  · intro c hblank _
    exact hblank

end Stamp

namespace Refusal

section
variable [Database]

/-- The refusals of names and of stamps. -/
inductive Arises : Refusal → Prop
  | resolve {text : String} {e : Refusal} : Zone.resolve text = .error e → Arises e
  | parse {z : Zone} {text : String} {e : Refusal} : z.parse text = .error e → Arises e

/-- A stamp is repeated in a message after it has been read. -/
theorem Arises.exists_spells {text zone : String} (h : Arises (skipped text zone)) :
    ∃ (z : Zone) (s : Stamp), zone = z.name ∧ Stamp.Spells text.toList s := by
  cases h with
  | resolve h =>
    unfold Zone.resolve at h
    split at h <;> nomatch h
  | @parse z given _ h =>
    obtain ⟨s, hs, hspells⟩ := Zone.exists_spells_of_ne fun e he => by rw [h] at he; nomatch he
    obtain ⟨heq, -⟩ := (Zone.parse_eq_error_iff (isTrimmed_trim _) hs hspells).1 h
    cases heq
    exact ⟨z, s, rfl, by rwa [String.toList_ofList]⟩

end

/-- The white space in a stamp that is repeated breaks no line. -/
def BlanksInLine : Refusal → Prop
  | unknownZone _ => True
  | unreadable _ => True
  | skipped text _ => ∀ c ∈ text.toList, isBlank c = true → breaksLine c = false

theorem oneLine_message_iff_messageChars (e : Refusal) :
    OneLine e.message.toList ↔ OneLine e.messageChars := by
  rw [message, String.toList_ofList]

theorem oneLine_messageChars_unknownZone (name : String) :
    OneLine (unknownZone name).messageChars :=
  oneLine_append.2 ⟨by decide, oneLine_quote _⟩

theorem oneLine_messageChars_unreadable (text : String) :
    OneLine (unreadable text).messageChars :=
  oneLine_append.2 ⟨oneLine_append.2 ⟨by decide, oneLine_quote _⟩, by decide⟩

theorem oneLine_messageChars_skipped_iff (text : String) (z : Zone) :
    OneLine (skipped text z.name).messageChars ↔ OneLine text.toList := by
  unfold messageChars
  rw [oneLine_append, oneLine_append]
  exact ⟨fun h => h.1.1, fun h => ⟨⟨h, by decide⟩, z.oneLine_name⟩⟩

theorem Arises.oneLine_iff_blanksInLine [Database] {e : Refusal} (h : e.Arises) :
    OneLine e.message.toList ↔ e.BlanksInLine := by
  rw [oneLine_message_iff_messageChars]
  cases e with
  | unknownZone name => exact iff_of_true (oneLine_messageChars_unknownZone name) trivial
  | unreadable text => exact iff_of_true (oneLine_messageChars_unreadable text) trivial
  | skipped text zone =>
    obtain ⟨z, s, rfl, hspells⟩ := h.exists_spells
    rw [oneLine_messageChars_skipped_iff]
    exact hspells.breaksAtBlanks.oneLine_iff

end Refusal

namespace Command

theorem Outcome.ofRendering_ne_refused (line : Option String) (e : Refusal) :
    Outcome.ofRendering line ≠ .refused e := by
  cases line with
  | none => nofun
  | some line => nofun

variable [Database]

theorem Task.arises_of_start {task : Task} {z : Zone} {now : Instant} {e : Refusal}
    (h : task.start z now = .finished (.refused e)) : e.Arises := by
  cases task with
  | format start days hours minutes seconds =>
    unfold Task.start at h
    cases hstart : startingPoint z start now with
    | ok t =>
      simp only [hstart, Progress.finished.injEq] at h
      exact absurd h (Outcome.ofRendering_ne_refused _ e)
    | error cause =>
      simp only [hstart] at h
      cases h
      cases start with
      | none => nomatch hstart
      | some text => exact .parse hstart
  | zone => nomatch h
  | wait duration sampleMillis pollMillis => nomatch h

/-- What a program refuses is the name of a zone or the text of a stamp. -/
theorem Request.arises_of_start {request : Request} {now : Instant} {e : Refusal}
    (h : request.start now = .finished (.refused e)) : e.Arises := by
  cases request with
  | perform i =>
    unfold Request.start Invocation.start at h
    cases hzone : Zone.resolveOptional i.zone with
    | ok z =>
      simp only [hzone] at h
      exact Task.arises_of_start h
    | error cause =>
      simp only [hzone] at h
      cases h
      cases hi : i.zone with
      | none => rw [hi] at hzone; nomatch hzone
      | some text => rw [hi] at hzone; exact .resolve hzone
  | version => nomatch h
  | help => nomatch h
  | misuse => nomatch h

end Command

namespace Refusal

/-- The message of a refusal is in one line exactly when no white space in a stamp that it repeats
breaks lines, and so is the error output of a program that it ends. The messages about names, and
about texts that are no stamp, always are. A program does not end with other refusals. -/
theorem oneLine_message_iff [Database] :
    (∀ e : Refusal, e.Arises → (OneLine e.message.toList ↔ e.BlanksInLine) ∧
      (Command.Outcome.refused e).stderr? = some ("Error: " ++ e.message ++ "\n") ∧
      (OneLine ("Error: " ++ e.message).toList ↔ e.BlanksInLine)) ∧
    ∀ (request : Command.Request) (now : Instant) (e : Refusal),
      request.start now = .finished (.refused e) →
        e.Arises ∧ (OneLine ("Error: " ++ e.message).toList ↔ e.BlanksInLine) := by
  have hline {e : Refusal} (h : e.Arises) :
      OneLine ("Error: " ++ e.message).toList ↔ e.BlanksInLine := by
    rw [String.toList_append, oneLine_append, ← h.oneLine_iff_blanksInLine]
    exact ⟨fun hline => hline.2, fun hline => ⟨by decide, hline⟩⟩
  refine ⟨fun e h => ⟨h.oneLine_iff_blanksInLine, rfl, hline h⟩, fun request now e hstart => ?_⟩
  have h := Command.Request.arises_of_start hstart
  exact ⟨h, hline h⟩

section
attribute [local instance] Database.recorded

theorem parse_caracas_eq_skipped : Zone.caracas.parse "2016-05-\n01T02:45" =
    .error (.skipped "2016-05-\n01T02:45" "America/Caracas") := by rfl

/-- In Caracas clocks were put forward from half past two to three in May 2016. A stamp between is
repeated with the line feed and with the space in it, also to whoever gives it on a command line. -/
theorem oneLine_message_iff_caracas :
    ¬OneLine (skipped "2016-05-\n01T02:45" "America/Caracas").message.toList ∧
    OneLine (skipped "2016-05- 01T02:45" "America/Caracas").message.toList ∧
    ∀ now, ∃ e, (Command.Request.ofArguments
        ["format", "--tz", "America/Caracas", "--at", "2016-05-\n01T02:45"]).start now =
          .finished (.refused e) ∧
      ¬OneLine ("Error: " ++ e.message).toList := by
  have hbreaks : ¬(skipped "2016-05-\n01T02:45" "America/Caracas").BlanksInLine := by
    intro hblanks
    have hbreaks := hblanks '\n' (by decide) (by decide)
    exact absurd hbreaks (by decide)
  refine ⟨?_, ?_, fun now => ?_⟩
  · rwa [(oneLine_message_iff.1 _ (.parse parse_caracas_eq_skipped)).1]
  · have hparse : Zone.caracas.parse "2016-05- 01T02:45" =
        .error (.skipped "2016-05- 01T02:45" "America/Caracas") := by rfl
    have hline : OneLine "2016-05- 01T02:45".toList := by decide
    exact (oneLine_message_iff.1 _ (.parse hparse)).1.2 fun c hc _ => hline c hc
  · have hstart : (Command.Request.ofArguments
        ["format", "--tz", "America/Caracas", "--at", "2016-05-\n01T02:45"]).start now =
          .finished (.refused (.skipped "2016-05-\n01T02:45" "America/Caracas")) := by rfl
    exact ⟨_, hstart, by rwa [(oneLine_message_iff.2 _ _ _ hstart).2]⟩

/-- A message may take more than one line. -/
theorem not_forall_oneLine_message : ¬∀ e : Refusal, e.Arises → OneLine e.message.toList := by
  intro h
  have hline := h _ (.parse parse_caracas_eq_skipped)
  rw [oneLine_message_iff_messageChars] at hline
  have hbreaks := hline '\n' (by decide)
  exact absurd hbreaks (by decide)

end

end Refusal
end WallClock
