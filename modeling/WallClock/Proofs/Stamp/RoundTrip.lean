import WallClock.Proofs.Stamp.Parse
import WallClock.Proofs.Stamp.Written

/-!
# Writing and reading back

What `Zone.parse` makes of a text that `Zone.render` has written (`Zone.parse_render`), and what
`Zone.render` writes for an instant that `Zone.parse` has found (`Zone.render_parse`). A stamp
stands for the first instant of its minute only, and for no instant at all where the clocks
skip the beginning of the minute; years after 9999 are written but not read.
-/

namespace WallClock

theorem Timeline.exists_read_wholeSecond {z : Timeline} {t : Instant} {d : DateTime}
    (h : z.read t = .shows d) :
    ∃ u, z.read u = .shows { d with time := { d.time with nanosecond := 0 } } := by
  obtain ⟨ms, -, hsecond, hshown, rfl⟩ := read_eq_shows_iff.1 h
  have hlt : (1000 * (ms / 1000) + (0 : Nat)).natAbs ≤ Instant.maxMillis :=
    natAbs_le_maxMillis hsecond (by decide)
  have hdiv : (1000 * (ms / 1000) + (0 : Nat)) / 1000 = ms / 1000 := by omega
  have hmod : (1000 * (ms / 1000) + (0 : Nat)) % 1000 = 0 := by omega
  refine ⟨_, read_eq_shows_iff.2 ⟨_, Instant.millis?_ofInt hlt, ?_⟩⟩
  rw [hdiv, hmod]
  exact ⟨hsecond, hshown, rfl⟩

namespace Stamp

theorem ofDateTime_start (s : Stamp) : ofDateTime s.start = s := rfl

/-- A reading is the beginning of its minute when its seconds and nanoseconds are. -/
theorem start_ofDateTime {d : DateTime} (h : d.time.second = 0) :
    (ofDateTime d).start = { d with time := { d.time with nanosecond := 0 } } := by
  obtain ⟨date, hour, minute, second, nanosecond⟩ := d
  obtain rfl : second = 0 := h
  rfl

theorem valid_ofDateTime {d : DateTime} (h : d.Valid) : (ofDateTime d).Valid :=
  ⟨h.date, h.time.hour_lt, h.time.minute_lt⟩

theorem not_spells_missingText (s : Stamp) : ¬Spells missingText s := by
  intro h
  have hread := readNumbers?_complete h
  have hnone : readNumbers? missingText = none := by decide
  rw [hnone] at hread
  nomatch hread

theorem isTrimmed_toList_missingText :
    Text.IsTrimmed (String.ofList missingText).toList missingText := by
  rw [String.toList_ofList]
  refine Text.isTrimmed_self ?_ ?_ <;> (rintro _ ⟨⟩; rfl)

theorem isTrimmed_toList_text (s : Stamp) :
    Text.IsTrimmed (String.ofList s.text).toList s.text := by
  rw [String.toList_ofList]
  exact s.isTrimmed_text

end Stamp

namespace Zone

section
variable [Database]

/-- A clock of the zone shows the second 0 of a minute at some instant. -/
def ShowsStart (z : Zone) (s : Stamp) : Prop :=
  ∃ t d, z.read t = .shows d ∧ Stamp.ofDateTime d = s ∧ d.time.second = 0

variable {z : Zone} {s : Stamp}

theorem showsStart_iff : z.ShowsStart s ↔ ∃ t, z.read t = .shows s.start := by
  constructor
  · rintro ⟨t, d, hread, rfl, hsecond⟩
    rw [Stamp.start_ofDateTime hsecond]
    exact Timeline.exists_read_wholeSecond hread
  · rintro ⟨t, hread⟩
    exact ⟨t, s.start, hread, rfl, rfl⟩

/-! ## Parsing what was written -/

theorem parse_missingText : z.parse (String.ofList Stamp.missingText) =
    .error (.unreadable (String.ofList Stamp.missingText)) :=
  parse_unreadable Stamp.isTrimmed_toList_missingText fun s _ => Stamp.not_spells_missingText s

section
variable (hs : s.Valid)
include hs

theorem parse_text_eq_ok_iff (hyear : s.date.year ≤ 9999) {t : Instant} :
    z.parse (String.ofList s.text) = .ok t ↔ z.FirstShows s.start t :=
  parse_eq_ok_iff s.isTrimmed_toList_text hs (Stamp.spells_text hs hyear)

theorem parse_text_eq_error_iff (hyear : s.date.year ≤ 9999) {e : Refusal} :
    z.parse (String.ofList s.text) = .error e ↔
      e = .skipped (String.ofList s.text) z.name ∧ ¬z.ShowsStart s := by
  rw [showsStart_iff, not_exists]
  exact parse_eq_error_iff s.isTrimmed_toList_text hs (Stamp.spells_text hs hyear)

/-- The text of a stamp cannot be read just when its year has more than four digits. -/
theorem parse_text_eq_unreadable_iff :
    z.parse (String.ofList s.text) = .error (.unreadable (String.ofList s.text)) ↔
      9999 < s.date.year := by
  refine ⟨fun h => Int.not_le.1 fun hyear => ?_, fun hyear => ?_⟩
  · nomatch ((parse_text_eq_error_iff hs hyear).1 h).1
  · exact parse_unreadable s.isTrimmed_toList_text fun _ _ => Stamp.not_spells_text hyear

theorem parse_text_eq_skipped_iff :
    z.parse (String.ofList s.text) = .error (.skipped (String.ofList s.text) z.name) ↔
      s.date.year ≤ 9999 ∧ ¬z.ShowsStart s := by
  constructor
  · intro h
    have hyear : s.date.year ≤ 9999 := by
      refine Int.not_lt.1 fun hyear => ?_
      rw [(parse_text_eq_unreadable_iff hs).2 hyear] at h
      nomatch h
    exact ⟨hyear, ((parse_text_eq_error_iff hs hyear).1 h).2⟩
  · rintro ⟨hyear, hshows⟩
    exact (parse_text_eq_error_iff hs hyear).2 ⟨rfl, hshows⟩

theorem exists_parse_text (hyear : s.date.year ≤ 9999) (hshows : z.ShowsStart s) :
    ∃ u, z.parse (String.ofList s.text) = .ok u := by
  cases h : z.parse (String.ofList s.text) with
  | ok u => exact ⟨u, rfl⟩
  | error e => exact absurd hshows ((parse_text_eq_error_iff hs hyear).1 h).2

end

/-! ## Writing -/

theorem render_of_read {t : Instant} {d : DateTime} (h : z.read t = .shows d) :
    z.render t = some (String.ofList (Stamp.ofDateTime d).text) := by
  rw [render, h]
  rfl

theorem render_of_firstShows {t : Instant} (h : z.FirstShows s.start t) :
    z.render t = some (String.ofList s.text) := by
  rw [render_of_read h.shows, Stamp.ofDateTime_start]

/-- There is a text unless the local time is beyond the calendar. -/
theorem render_eq_some_iff {t : Instant} {text : String} : z.render t = some text ↔
    z.read t = .absent ∧ text = String.ofList Stamp.missingText ∨
      ∃ d, z.read t = .shows d ∧ text = String.ofList (Stamp.ofDateTime d).text := by
  rw [render]
  cases z.read t <;> simp [Reading.text?, eq_comm]

end

/-- Parsing a text that was written. A text without a stamp cannot be read, nor can one with a
year after 9999; a minute is refused as skipped where no clock shows its beginning; and every
other text stands for the first instant of its minute, for which it is written too. -/
theorem parse_render [Database] (z : Zone) (t : Instant) (text : String) (h : z.render t = some text) :
    (z.parse text = .error (.unreadable text) ↔
      z.read t = .absent ∨ ∃ d, z.read t = .shows d ∧ 9999 < d.date.year) ∧
    (z.parse text = .error (.skipped text z.name) ↔
      ∃ d, z.read t = .shows d ∧ d.date.year ≤ 9999 ∧ ¬z.ShowsStart (.ofDateTime d)) ∧
    ∀ d, z.read t = .shows d → d.date.year ≤ 9999 → z.ShowsStart (.ofDateTime d) →
      ∃ u, z.parse text = .ok u ∧ z.FirstShows (Stamp.ofDateTime d).start u ∧
        z.render u = some text := by
  obtain ⟨hread, rfl⟩ | ⟨d, hread, rfl⟩ := render_eq_some_iff.1 h
  · simp [hread, parse_missingText]
  · have hs : (Stamp.ofDateTime d).Valid := Stamp.valid_ofDateTime (Timeline.valid_of_read hread)
    simp only [hread, Reading.shows.injEq, reduceCtorEq, false_or, exists_eq_left', forall_eq']
    refine ⟨parse_text_eq_unreadable_iff hs, parse_text_eq_skipped_iff hs, fun hyear hshows => ?_⟩
    obtain ⟨u, hu⟩ := exists_parse_text hs hyear hshows
    have hfirst := (parse_text_eq_ok_iff hs hyear).1 hu
    exact ⟨u, hu, hfirst, render_of_firstShows hfirst⟩

/-- The zone of Monrovia, whose clocks were put forward 44 minutes and 30 seconds in 1972. -/
def monrovia : Zone := .named ⟨"Africa/Monrovia", by decide +kernel⟩

section
attribute [local instance] Database.recorded

/-- The clocks of Monrovia skipped the first half of a minute. The minute that is shown twice in
Caracas is parsed as the first of the two. -/
theorem parse_render_monrovia_caracas :
    (∃ d, monrovia.read (.ofInt 63593070000) = .shows d ∧ d.date.year ≤ 9999 ∧
      ¬monrovia.ShowsStart (.ofDateTime d)) ∧
    ∃ u, caracas.parse "2007-12-09T02:45" = .ok u ∧
      caracas.FirstShows ⟨⟨2007, 12, 9⟩, ⟨2, 45, 0, 0⟩⟩ u ∧
      caracas.render u = some "2007-12-09T02:45" := by
  constructor
  · obtain ⟨-, h, -⟩ := parse_render monrovia (.ofInt 63593070000) "1972-01-07T00:44" (by rfl)
    exact h.1 (by rfl)
  · obtain ⟨-, -, h⟩ := parse_render caracas (.ofInt 1197184500000) "2007-12-09T02:45" (by rfl)
    have hread : caracas.read (.ofInt 1197184500000) =
        .shows ⟨⟨2007, 12, 9⟩, ⟨2, 45, 0, 0⟩⟩ := by decide +kernel
    exact h _ hread (by decide) ⟨_, _, hread, rfl, rfl⟩

end

/-- Writing an instant that was parsed. The text spells a stamp whose minute begins at the
instant, and not at any earlier one; what is written is that stamp in its written form, which is
parsed as the same instant unless the year is after 9999. -/
theorem render_parse [Database] (z : Zone) (text : String) (t : Instant) (h : z.parse text = .ok t) :
    ∃ body s, Text.IsTrimmed text.toList body ∧ Stamp.Spells body s ∧ s.Valid ∧
      z.FirstShows s.start t ∧
      ∃ written, z.render t = some (String.ofList written) ∧ Stamp.Written written s ∧
        (z.parse (String.ofList written) = .ok t ↔ s.date.year ≤ 9999) := by
  have hne (e : String) : z.parse text ≠ .error (.unreadable e) := by
    rw [h]
    nofun
  obtain ⟨s, hs, hspells⟩ := exists_spells_of_ne hne
  have hbody := Text.isTrimmed_trim text.toList
  have hfirst := (parse_eq_ok_iff hbody hs hspells).1 h
  refine ⟨_, s, hbody, hspells, hs, hfirst, s.text, render_of_firstShows hfirst,
    (Stamp.written_iff hs).2 rfl, fun hok => Int.not_lt.1 fun hyear => ?_, fun hyear => ?_⟩
  · rw [(parse_text_eq_unreadable_iff hs).2 hyear] at hok
    nomatch hok
  · exact (parse_text_eq_ok_iff hs hyear).2 hfirst

section
attribute [local instance] Database.recorded

theorem render_parse_caracas : ∃ body s,
    Text.IsTrimmed " +2007-12- 9T2:45\n".toList body ∧ Stamp.Spells body s ∧ s.Valid ∧
      caracas.FirstShows s.start (.ofInt 1197182700000) ∧
      ∃ written, caracas.render (.ofInt 1197182700000) = some (String.ofList written) ∧
        Stamp.Written written s ∧
        (caracas.parse (String.ofList written) = .ok (.ofInt 1197182700000) ↔
          s.date.year ≤ 9999) :=
  render_parse caracas " +2007-12- 9T2:45\n" (.ofInt 1197182700000) (by rfl)

end

end Zone
end WallClock
