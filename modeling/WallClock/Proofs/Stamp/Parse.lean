import WallClock.Proofs.Stamp.Spelling
import WallClock.Proofs.Zone.Inverse

/-!
# Finding the instant of a stamp

`Zone.parse` looks up the first instant at which a clock shows the stamp that a text spells
(`Zone.parse_eq_ok_iff`), and refuses the text as skipped where there is none
(`Zone.parse_eq_error_iff`). `Zone.parse_spells` puts this together with the grammar: which texts
are read, what the others are refused with, and that nothing but the stamp matters.
-/

namespace WallClock

theorem Stamp.Valid.start {s : Stamp} (h : s.Valid) : s.start.Valid :=
  ⟨h.date, h.hour_lt, h.minute_lt, Nat.zero_lt_succ _, Nat.zero_lt_succ _⟩

namespace Zone

section
variable [Database]

/-- The instant `t` is the first at which a clock of the zone shows a date and time. -/
structure FirstShows (z : Zone) (d : DateTime) (t : Instant) : Prop where
  shows : z.read t = .shows d
  le : ∀ u, z.read u = .shows d → t ≤ u

variable {z : Zone} {s : Stamp}

theorem mem_instants_start (hs : s.Valid) {t : Instant} :
    t ∈ z.instants s.start ↔ z.read t = .shows s.start :=
  z.regular_timeline.mem_instants_iff_read hs.start (Nat.zero_lt_succ _) ⟨0, rfl⟩

/-- The instants found ascend, so that the first one of them is the first one to show the
stamp. -/
theorem firstShows_iff (hs : s.Valid) {t : Instant} :
    z.FirstShows s.start t ↔ (z.instants s.start).head? = some t := by
  have hmem (t : Instant) : t ∈ z.instants s.start ↔ _ := mem_instants_start hs
  have hlt := z.regular_timeline.pairwise_instants hs.start.nanosecond_lt
  change (z.instants s.start).Pairwise (· < ·) at hlt
  cases hl : z.instants s.start with
  | nil =>
    refine ⟨fun h => ?_, nofun⟩
    exact absurd ((hmem t).2 h.shows) (hl ▸ List.not_mem_nil)
  | cons u us =>
    simp only [hl, List.mem_cons] at hmem
    rw [hl, List.pairwise_cons] at hlt
    rw [List.head?_cons, Option.some.injEq]
    constructor
    · intro h
      rcases (hmem t).2 h.shows with rfl | ht
      · rfl
      · exact absurd (h.le u ((hmem u).1 (.inl rfl))) (Instant.not_le_of_lt (hlt.1 t ht))
    · rintro rfl
      refine ⟨(hmem u).1 (.inl rfl), fun v hv => ?_⟩
      rcases (hmem v).2 hv with rfl | hv
      · obtain ⟨ms, hms, -⟩ := Timeline.read_eq_shows_iff.1 hv
        exact (Instant.le_iff_of_millis? hms hms).2 (Int.le_refl ms)
      · exact Instant.le_of_lt (hlt.1 v hv)

theorem instants_start_eq_nil_iff (hs : s.Valid) :
    z.instants s.start = [] ↔ ∀ t, z.read t ≠ .shows s.start := by
  rw [List.eq_nil_iff_forall_not_mem]
  exact forall_congr' fun t => not_congr (mem_instants_start hs)

/-! ## Texts that spell a stamp, and texts that do not -/

section
variable {text : String} {body : List Char} (hbody : Text.IsTrimmed text.toList body)
include hbody

theorem parse_unreadable (h : ∀ s, s.Valid → ¬Stamp.Spells body s) :
    z.parse text = .error (.unreadable (String.ofList body)) := by
  have hread : Stamp.read? body = none := by
    rw [Option.eq_none_iff_forall_ne_some]
    intro s hs
    obtain ⟨hspells, hvalid⟩ := (Stamp.read?_eq_some_iff hbody.first).1 hs
    exact h s hvalid hspells
  rw [parse, Text.trim_eq_iff.2 hbody]
  simp only [hread]

variable (hs : s.Valid) (hspells : Stamp.Spells body s)
include hs hspells

theorem parse_of_instants_eq_nil (hl : z.instants s.start = []) :
    z.parse text = .error (.skipped (String.ofList body) z.name) := by
  have hread := (Stamp.read?_eq_some_iff hbody.first).2 ⟨hspells, hs⟩
  rw [parse, Text.trim_eq_iff.2 hbody]
  simp only [hread, hl]

theorem parse_of_instants_eq_cons {t : Instant} {ts : List Instant}
    (hl : z.instants s.start = t :: ts) : z.parse text = .ok t := by
  have hread := (Stamp.read?_eq_some_iff hbody.first).2 ⟨hspells, hs⟩
  rw [parse, Text.trim_eq_iff.2 hbody]
  simp only [hread, hl]

theorem parse_eq_ok_iff {t : Instant} : z.parse text = .ok t ↔ z.FirstShows s.start t := by
  rw [firstShows_iff hs]
  cases hl : z.instants s.start with
  | nil => simp [parse_of_instants_eq_nil hbody hs hspells hl]
  | cons u us => simp [parse_of_instants_eq_cons hbody hs hspells hl]

theorem parse_eq_error_iff {e : Refusal} : z.parse text = .error e ↔
    e = .skipped (String.ofList body) z.name ∧ ∀ t, z.read t ≠ .shows s.start := by
  rw [← instants_start_eq_nil_iff hs]
  cases hl : z.instants s.start with
  | nil => simp [parse_of_instants_eq_nil hbody hs hspells hl, eq_comm]
  | cons u us => simp [parse_of_instants_eq_cons hbody hs hspells hl]

end

theorem exists_spells_of_ne {text : String} (h : ∀ e, z.parse text ≠ .error (.unreadable e)) :
    ∃ s, s.Valid ∧ Stamp.Spells (Text.trim text.toList) s := by
  refine Classical.byContradiction fun hnone =>
    h _ (parse_unreadable (Text.isTrimmed_trim _) fun s hs hspells => ?_)
  exact hnone ⟨s, hs, hspells⟩

/-- A text that is accepted spells a stamp, and stands for the first instant to show it. -/
theorem exists_firstShows_of_parse {text : String} {t : Instant} (h : z.parse text = .ok t) :
    ∃ s, s.Valid ∧ Stamp.Spells (Text.trim text.toList) s ∧ z.FirstShows s.start t := by
  have hne (e : String) : z.parse text ≠ .error (.unreadable e) := by
    rw [h]
    nofun
  obtain ⟨s, hs, hspells⟩ := exists_spells_of_ne hne
  exact ⟨s, hs, hspells, (parse_eq_ok_iff (Text.isTrimmed_trim _) hs hspells).1 h⟩

end

/-- Parsing accepts exactly the spellings of the stamps of the calendar, white space around them
apart. Every other text is refused as it is without that white space. An accepted text stands for
the first instant at which a clock shows its stamp, and is refused as skipped if there is none. -/
theorem parse_spells [Database] (z : Zone) (text : String) : ∃ body, Text.IsTrimmed text.toList body ∧
    ((∀ e, z.parse text ≠ .error (.unreadable e)) ↔ ∃ s, s.Valid ∧ Stamp.Spells body s) ∧
    (∀ e, z.parse text = .error (.unreadable e) → e = String.ofList body) ∧
    ∀ s, s.Valid → Stamp.Spells body s →
      (∀ t, z.parse text = .ok t ↔ z.FirstShows s.start t) ∧
      ∀ e, z.parse text = .error e ↔
        e = .skipped (String.ofList body) z.name ∧ ∀ t, z.read t ≠ .shows s.start := by
  have hbody := Text.isTrimmed_trim text.toList
  refine ⟨_, hbody, ⟨exists_spells_of_ne, ?_⟩, fun e he => ?_, fun s hs hspells =>
    ⟨fun t => parse_eq_ok_iff hbody hs hspells, fun e => parse_eq_error_iff hbody hs hspells⟩⟩
  · rintro ⟨s, hs, hspells⟩ e he
    exact nomatch ((parse_eq_error_iff hbody hs hspells).1 he).1
  · have hnone : ∀ s, s.Valid → ¬Stamp.Spells (Text.trim text.toList) s := fun s hs hspells =>
      nomatch ((parse_eq_error_iff hbody hs hspells).1 he).1
    rw [parse_unreadable hbody hnone] at he
    cases he
    rfl

section
attribute [local instance] Database.recorded

theorem parse_spells_caracas :
    caracas.FirstShows ⟨⟨2007, 12, 9⟩, ⟨2, 45, 0, 0⟩⟩ (.ofInt 1197182700000) ∧
    ∃ body, Text.IsTrimmed " noon ".toList body ∧ "noon" = String.ofList body := by
  constructor
  · obtain ⟨body, hbody, -, -, h⟩ := parse_spells caracas " +2007-12- 9T2:45\n"
    have hread : Stamp.read? body = some ⟨⟨2007, 12, 9⟩, 2, 45⟩ := by
      rw [← Text.trim_eq_iff.2 hbody]
      rfl
    obtain ⟨hspells, hs⟩ := (Stamp.read?_eq_some_iff hbody.first).1 hread
    exact ((h _ hs hspells).1 _).1 (by rfl)
  · obtain ⟨body, hbody, -, h, -⟩ := parse_spells caracas " noon "
    exact ⟨body, hbody, h "noon" (by rfl)⟩

end

end Zone
end WallClock
