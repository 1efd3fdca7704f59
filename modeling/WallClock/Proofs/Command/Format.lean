import Mathlib.Data.List.Nodup
import WallClock.Command.Outcome
import WallClock.Proofs.Binary64.Literal
import WallClock.Proofs.Command.Options
import WallClock.Zone.Recorded

/-!
# Formatting from a command line

The options of `format` can be given in any order and spelling, and the zone at either level
(`Command.Arranges`). What is asked for depends on what their values mean, and on nothing else
(`Command.Arranges.ofArguments_formatArguments`): a name is that of a zone, and an amount is the
double that a literal stands for. It is done in one fixed order, whatever the database: the zone is
resolved, the text parsed, and the instant shifted by days, hours, minutes and seconds and then
rendered (`Command.start_formatArguments`).
-/

namespace WallClock
namespace Command

/-- The zone that is meant: that of a name, or the host's where none is given. -/
inductive MeansZone : Option String → Zone → Prop
  | host : MeansZone none .host
  | named {name : String} {z : Zone} : Zone.resolve name = .ok z → MeansZone (some name) z

/-- The amount that is meant: what a literal stands for, or zero where none is given. -/
inductive MeansAmount : Option String → Binary64 → Prop
  | zero : MeansAmount none (.ofInt 0)
  | literal {text : String} {a : Binary64} : Binary64.Spells text.toList a →
    MeansAmount (some text) a

/-- The options for the amounts, that for the largest unit first. -/
def amountKeys : List Key := [.days, .hours, .minutes, .seconds]

/-- Options before and after the subcommand give each option its value, or leave it out: the zone at
one of the two levels, the others after the subcommand, and none of them twice. A zone or a start
that begins with a dash is attached to its option, and the amounts are literals. -/
structure Arranges (given : Key → Option String) (amounts : Key → Binary64)
    (outer inner : List Spelled) : Prop where
  outer_key : ∀ o ∈ outer, o.key = .zone
  inner_key : ∀ o ∈ inner, o.key ∈ [.zone, .start] ++ amountKeys
  once : ((outer ++ inner).map Spelled.key).Nodup
  given_iff : ∀ key value, given key = some value ↔
    ∃ o ∈ outer ++ inner, o.key = key ∧ o.value = value
  no_dash : ∀ o ∈ outer ++ inner, o.attached = false → o.key ∈ [.zone, .start] →
    o.value.toList.head? ≠ some '-'
  amount : ∀ key ∈ amountKeys, MeansAmount (given key) (amounts key)

/-- The command line of `format` with options before and after the subcommand. -/
def formatArguments (outer inner : List Spelled) : List String :=
  outer.flatMap Spelled.arguments ++ "format" :: inner.flatMap Spelled.arguments

/-- A program that ends with a message about a refusal. -/
structure Outcome.Refuses (o : Outcome) (cause : Refusal) : Prop where
  code : o.code = 1
  stdout : o.stdout? = some ""
  stderr : o.stderr? = some ("Error: " ++ cause.message ++ "\n")

/-- A program that ends with a line of output. -/
structure Outcome.Prints (o : Outcome) (line : String) : Prop where
  code : o.code = 0
  stdout : o.stdout? = some (line ++ "\n")
  stderr : o.stderr? = some ""

theorem Outcome.refuses_refused (cause : Refusal) : (Outcome.refused cause).Refuses cause :=
  ⟨rfl, rfl, rfl⟩

theorem Outcome.prints_printed (line : String) : (Outcome.printed line).Prints line :=
  ⟨rfl, rfl, rfl⟩

theorem MeansAmount.amount?_eq {value : Option String} {a : Binary64} (h : MeansAmount value a) :
    (value.map String.toList).elim (some (.ofInt 0)) amount? = some a := by
  cases h with
  | zero => rfl
  | literal h => exact Binary64.literal?_eq_some_iff.2 h

namespace Key

variable {key : Key}

theorem accepts_of_mem (h : key ∈ [.zone, .start]) (cs : List Char) : key.accepts cs = true := by
  cases key <;> first | rfl | exact absurd h (by decide)

theorem accepts_of_mem_amountKeys (h : key ∈ amountKeys) (cs : List Char) :
    key.accepts cs = (amount? cs).isSome := by
  cases key <;> first | rfl | exact absurd h (by decide)

theorem admitsDashes_of_mem_amountKeys (h : key ∈ amountKeys) : key.admitsDashes = true := by
  cases key <;> first | rfl | exact absurd h (by decide)

end Key

theorem lookup_eq_some_iff_mem {α β : Type} [DecidableEq α] {l : List (α × β)} {a : α} {b : β}
    (h : (l.map Prod.fst).Nodup) : l.lookup a = some b ↔ (a, b) ∈ l := by
  rw [List.lookup_eq_some_iff]
  constructor
  · rintro ⟨before, after, rfl, -⟩
    exact List.mem_append_right _ (.head _)
  · intro hmem
    obtain ⟨before, after, rfl⟩ := List.append_of_mem hmem
    refine ⟨before, after, rfl, fun p hp => bne_iff_ne.2 fun ha => ?_⟩
    rw [List.map_append, List.map_cons] at h
    exact List.disjoint_of_nodup_append h (List.mem_map_of_mem hp) (ha ▸ .head _)

section
variable {given : Key → Option String} {amounts : Key → Binary64} {outer inner : List Spelled}

/-- What has been given when all arguments have been read. -/
def allGiven (outer inner : List Spelled) : Given :=
  ⟨outer.map Spelled.entry, some .format, inner.map Spelled.entry, []⟩

namespace Arranges

variable (h : Arranges given amounts outer inner)
include h

theorem admissible {o : Spelled} (ho : o ∈ outer ++ inner) : o.Admissible := by
  have hkey : o.key ∈ [.zone, .start] ++ amountKeys := by
    rcases List.mem_append.1 ho with ho | ho
    · exact h.outer_key o ho ▸ .head _
    · exact h.inner_key o ho
  rcases List.mem_append.1 hkey with hkey | hkey
  · exact ⟨Key.accepts_of_mem hkey _, fun hseparate _ => h.no_dash o ho hseparate hkey⟩
  · have hmeans := h.amount o.key hkey
    rw [(h.given_iff _ _).2 ⟨o, ho, rfl, rfl⟩] at hmeans
    refine ⟨?_, fun _ hdashes => ?_⟩
    · rw [Key.accepts_of_mem_amountKeys hkey]
      exact Option.isSome_of_eq_some hmeans.amount?_eq
    · nomatch hdashes.symm.trans (Key.admitsDashes_of_mem_amountKeys hkey)

/-- Everything is read, at the level where it was given. -/
theorem read_formatArguments :
    Arguments.read (formatArguments outer inner) = .ready (allGiven outer inner) := by
  -- An option that was given at one level can still be given at the other.
  have honce := h.once
  rw [List.map_append] at honce
  have houter : (Arguments.ready .nothing).readFrom (outer.flatMap Spelled.arguments) =
      .ready ⟨outer.map Spelled.entry, none, [], []⟩ :=
    Arguments.readFrom_options (fun o ho => h.outer_key o ho ▸ .head _) (fun _ _ => rfl)
      honce.of_append_left fun _ ho => h.admissible (List.mem_append_left _ ho)
  have hinner : (Arguments.ready ⟨outer.map Spelled.entry, some .format, [], []⟩).readFrom
      (inner.flatMap Spelled.arguments) = .ready (allGiven outer inner) :=
    Arguments.readFrom_options h.inner_key (fun _ _ => rfl) honce.of_append_right
      fun _ ho => h.admissible (List.mem_append_right _ ho)
  calc Arguments.read (formatArguments outer inner)
      = ((Arguments.ready .nothing).readFrom (outer.flatMap Spelled.arguments)).readFrom
          ("format" :: inner.flatMap Spelled.arguments) := Arguments.readFrom_append _ _ _
    _ = (Arguments.ready ⟨outer.map Spelled.entry, some .format, [], []⟩).readFrom
          (inner.flatMap Spelled.arguments) := by rw [houter]; rfl
    _ = .ready (allGiven outer inner) := hinner

theorem value?_eq (key : Key) :
    (allGiven outer inner).value? key = (given key).map String.toList := by
  have hkeys : ((inner ++ outer).map Spelled.entry |>.map Prod.fst).Nodup := by
    rw [List.map_map, List.map_append, List.nodup_append_comm, ← List.map_append]
    exact h.once
  refine Option.ext fun cs => ?_
  rw [Given.value?, allGiven, ← List.lookup_append, ← List.map_append, lookup_eq_some_iff_mem hkeys,
    Option.map_eq_some_iff]
  simp only [h.given_iff, List.mem_map, List.mem_append, Spelled.entry, Prod.mk.injEq]
  constructor
  · rintro ⟨o, ho, hkey, hvalue⟩
    exact ⟨o.value, ⟨o, ho.symm, hkey, rfl⟩, hvalue⟩
  · rintro ⟨_, ⟨o, ho, hkey, rfl⟩, hvalue⟩
    exact ⟨o, ho.symm, hkey, hvalue⟩

theorem amount?_eq {key : Key} (hkey : key ∈ amountKeys) :
    (allGiven outer inner).amount? key = some (amounts key) := by
  rw [Given.amount?, h.value?_eq]
  exact (h.amount key hkey).amount?_eq

/-- What is asked for depends on the values alone. -/
theorem ofArguments_formatArguments : Request.ofArguments (formatArguments outer inner) =
    .perform ⟨given .zone, .format (given .start) (amounts .days) (amounts .hours)
      (amounts .minutes) (amounts .seconds)⟩ := by
  have htext (key : Key) : ((allGiven outer inner).value? key).map String.ofList = given key := by
    rw [h.value?_eq, Option.map_map]
    simp [Function.comp_def]
  have htask : (allGiven outer inner).task? = some (.format (given .start) (amounts .days)
      (amounts .hours) (amounts .minutes) (amounts .seconds)) := by
    have hformat : (allGiven outer inner).subcommand = some .format := rfl
    have hdays := h.amount?_eq (by decide : Key.days ∈ amountKeys)
    have hhours := h.amount?_eq (by decide : Key.hours ∈ amountKeys)
    have hminutes := h.amount?_eq (by decide : Key.minutes ∈ amountKeys)
    have hseconds := h.amount?_eq (by decide : Key.seconds ∈ amountKeys)
    simp only [Given.task?, hformat, htext, hdays, hhours, hminutes, hseconds]
    rfl
  rw [Request.ofArguments, h.read_formatArguments, Arguments.request, Given.request, htask]
  simp only [htext]

end Arranges
end

/-! ## The outcome -/

/-- An instant shifted by amounts, the largest unit first. -/
def shiftedBy (amounts : Key → Binary64) (t : Instant) : Instant :=
  (((t.addDays (amounts .days)).addHours (amounts .hours)).addMinutes
    (amounts .minutes)).addSeconds (amounts .seconds)

theorem resolveOptional_eq_ok_iff {name : Option String} {z : Zone} :
    Zone.resolveOptional name = .ok z ↔ MeansZone name z := by
  constructor
  · intro h
    cases name with
    | none =>
      cases h
      exact .host
    | some name => exact .named h
  · rintro (_ | h)
    · rfl
    · exact h

section
variable [Database] {zone : Option String} {amounts : Key → Binary64} {text : String} {z : Zone}
  {t : Instant} {cause : Refusal}

/-- Where formatting a text ends: with the refusal of the zone or else of the text, or with what is
rendered after the shifts. -/
def formatOutcome (zone : Option String) (text : String) (amounts : Key → Binary64) : Outcome :=
  match Zone.resolveOptional zone with
  | .error cause => .refused cause
  | .ok z =>
    match z.parse text with
    | .error cause => .refused cause
    | .ok t => .ofRendering (z.render (shiftedBy amounts t))

theorem formatOutcome_of_zone_error (hz : Zone.resolveOptional zone = .error cause) :
    formatOutcome zone text amounts = .refused cause := by
  rw [formatOutcome, hz]

theorem formatOutcome_of_parse_error (hz : MeansZone zone z) (ht : z.parse text = .error cause) :
    formatOutcome zone text amounts = .refused cause := by
  simp only [formatOutcome, resolveOptional_eq_ok_iff.2 hz, ht]

theorem formatOutcome_of_parse_ok (hz : MeansZone zone z) (ht : z.parse text = .ok t) :
    formatOutcome zone text amounts = .ofRendering (z.render (shiftedBy amounts t)) := by
  simp only [formatOutcome, resolveOptional_eq_ok_iff.2 hz, ht]

/-- The zone is looked at before the text, and the clock not at all. -/
theorem start_perform_format (now : Instant) :
    (Request.perform ⟨zone, .format (some text) (amounts .days) (amounts .hours) (amounts .minutes)
      (amounts .seconds)⟩).start now = .finished (formatOutcome zone text amounts) := by
  rw [Request.start, Invocation.start, formatOutcome]
  cases Zone.resolveOptional zone with
  | error cause => rfl
  | ok z =>
    dsimp only
    rw [Task.start, startingPoint]
    cases z.parse text <;> rfl

theorem code_formatOutcome_eq_iff : (formatOutcome zone text amounts).code = 101 ↔
    ∃ z t, MeansZone zone z ∧ z.parse text = .ok t ∧ z.render (shiftedBy amounts t) = none := by
  simp only [← resolveOptional_eq_ok_iff]
  cases hz : Zone.resolveOptional zone with
  | error cause => simp [formatOutcome_of_zone_error hz, Outcome.code]
  | ok z =>
    have hz := resolveOptional_eq_ok_iff.1 hz
    cases ht : z.parse text with
    | error cause => simp [formatOutcome_of_parse_error hz ht, Outcome.code, ht]
    | ok t =>
      rw [formatOutcome_of_parse_ok hz ht]
      cases hline : z.render (shiftedBy amounts t) <;>
        simp [Outcome.ofRendering, Outcome.code, ht, hline]

/-- The outcome of a command line that formats a text, from the values alone, in whatever order
they are given and however they are spelled. A zone that is not known is refused, or else a text
that stands for no instant; and if the shifted instant can be shown in the zone, the one line of
output shows it. The clock plays no part. Two command lines with the same zone, text and amounts
ask for the same thing. -/
theorem start_formatArguments {given : Key → Option String} {outer inner : List Spelled}
    (h : Arranges given amounts outer inner) (htext : given .start = some text) :
    ∃ o, (∀ now, (Request.ofArguments (formatArguments outer inner)).start now = .finished o) ∧
      (∀ name cause, given .zone = some name → Zone.resolve name = .error cause →
        o.Refuses cause) ∧
      (∀ z, MeansZone (given .zone) z →
        (∀ cause, z.parse text = .error cause → o.Refuses cause) ∧
        ∀ t, z.parse text = .ok t →
          (∀ line, z.render (shiftedBy amounts t) = some line → o.Prints line) ∧
          (z.render (shiftedBy amounts t) = none → o.code = 101 ∧ o.stdout? = some "")) ∧
      (o.code = 101 ↔ ∃ z t, MeansZone (given .zone) z ∧ z.parse text = .ok t ∧
        z.render (shiftedBy amounts t) = none) ∧
      ∀ (given' : Key → Option String) (amounts' : Key → Binary64) (outer' inner' : List Spelled),
        Arranges given' amounts' outer' inner' → given' .zone = given .zone →
        given' .start = given .start → (∀ key ∈ amountKeys, amounts' key = amounts key) →
        ∀ now, (Request.ofArguments (formatArguments outer' inner')).start now = .finished o := by
  have hstart (now : Instant) : (Request.ofArguments (formatArguments outer inner)).start now =
      .finished (formatOutcome (given .zone) text amounts) := by
    rw [h.ofArguments_formatArguments, htext, start_perform_format]
  refine ⟨formatOutcome (given .zone) text amounts, hstart, ?_, ?_, code_formatOutcome_eq_iff, ?_⟩
  · intro name cause hname hz
    have hrefused : Zone.resolveOptional (given .zone) = .error cause := by rwa [hname]
    rw [formatOutcome_of_zone_error hrefused]
    exact Outcome.refuses_refused cause
  · intro z hz
    refine ⟨fun cause ht => ?_, fun t ht => ?_⟩
    · rw [formatOutcome_of_parse_error hz ht]
      exact Outcome.refuses_refused cause
    · rw [formatOutcome_of_parse_ok hz ht]
      refine ⟨fun line hline => ?_, fun hnone => ?_⟩
      · rw [hline]
        exact Outcome.prints_printed line
      · rw [hnone]
        exact ⟨rfl, rfl⟩
  · intro given' amounts' outer' inner' h' hzone hstart' hamounts now
    rw [← hstart now, h.ofArguments_formatArguments, h'.ofArguments_formatArguments, hzone, hstart',
      hamounts .days (by decide), hamounts .hours (by decide), hamounts .minutes (by decide),
      hamounts .seconds (by decide)]

end

section
attribute [local instance] Database.recorded

/-- A hundred million days back, and as many and half a day forward, which stays in range in this
order alone. It was the night in which the clocks of Caracas were put forward by half an hour. -/
theorem start_formatArguments_there_and_back :
    let start : Spelled := ⟨.start, " 2016-05-01T02:15", false⟩
    let days : Spelled := ⟨.days, "-1e8", false⟩
    let hours : Spelled := ⟨.hours, "2400000012.25", true⟩
    let minutes : Spelled := ⟨.minutes, ".5E1", false⟩
    let seconds : Spelled := ⟨.seconds, "-30", true⟩
    let args := formatArguments [⟨.zone, "America/Caracas", false⟩]
      [seconds, start, hours, days, minutes]
    let args' := formatArguments []
      [minutes, days, ⟨.zone, "America/Caracas", true⟩, hours, seconds, start]
    args = ["--tz", "America/Caracas", "format", "--seconds=-30", "--at", " 2016-05-01T02:15",
      "--hours=2400000012.25", "--days", "-1e8", "--minutes", ".5E1"] ∧
    ∃ o : Outcome, o.Prints "2016-05-01T15:04" ∧
      (∀ now, (Request.ofArguments args).start now = .finished o) ∧
      ∀ now, (Request.ofArguments args').start now = .finished o := by
  intro start days hours minutes seconds args args'
  let given : Key → Option String
    | .zone => some "America/Caracas"
    | .start => some " 2016-05-01T02:15"
    | .days => some "-1e8"
    | .hours => some "2400000012.25"
    | .minutes => some ".5E1"
    | .seconds => some "-30"
    | _ => none
  let amounts : Key → Binary64 := fun key =>
    ((given key).bind fun text => Binary64.literal? text.toList).getD (.ofInt 0)
  have hamount : ∀ key ∈ amountKeys, MeansAmount (given key) (amounts key) := by
    have hliteral {text : String} (h : (Binary64.literal? text.toList).isSome) :
        MeansAmount (some text) ((Binary64.literal? text.toList).getD (.ofInt 0)) := by
      obtain ⟨a, ha⟩ := Option.isSome_iff_exists.1 h
      rw [ha]
      exact .literal (Binary64.literal?_eq_some_iff.1 ha)
    intro key hkey
    cases key <;> first | exact hliteral (by decide +kernel) | exact absurd hkey (by decide)
  have h : Arranges given amounts [⟨.zone, "America/Caracas", false⟩]
      [seconds, start, hours, days, minutes] := by
    refine ⟨by decide, by decide, by decide, fun key value => ?_, by decide +kernel, hamount⟩
    cases key <;> simp [given, start, days, hours, minutes, seconds]
  have h' : Arranges given amounts []
      [minutes, days, ⟨.zone, "America/Caracas", true⟩, hours, seconds, start] := by
    refine ⟨by decide, by decide, by decide, fun key value => ?_, by decide +kernel, hamount⟩
    cases key <;> simp [given, start, days, hours, minutes, seconds]
  obtain ⟨o, hstart, -, hok, -, hsame⟩ := start_formatArguments h rfl
  have hzone := hok (.named ⟨"America/Caracas", by decide +kernel⟩) (.named (by decide +kernel))
  have hline := (hzone.2 (.ofInt 1462085100000) (by decide +kernel)).1 "2016-05-01T15:04"
    (by decide +kernel)
  exact ⟨by decide +kernel, o, hline, hstart, hsame given amounts _ _ h' rfl rfl fun _ _ => rfl⟩

end

end Command
end WallClock
