import WallClock.Proofs.Calendar.Order
import WallClock.Proofs.Stamp.Parse
import WallClock.Proofs.Zone.Order

/-!
# Parsing keeps the order of stamps

Of two texts that the clocks of a zone show, the one with the earlier stamp stands for the earlier
instant, and texts with the same stamp stand for the same instant (`Zone.parse_lt_iff`), whatever
changes of offset lie between them. The stamps' seconds are in the order of the stamps, and the
first instants at which seconds are shown are in the order of the seconds.
-/

namespace WallClock

/-- The text spells this stamp of the calendar, white space around it apart. -/
structure Stamp.SaidBy (s : Stamp) (text : String) : Prop where
  valid : s.Valid
  spells : ∃ body, Text.IsTrimmed text.toList body ∧ Spells body s

namespace Zone

section
variable [Database] {z : Zone} {s s' : Stamp} {t t' : Instant}

theorem read_eq_shows_start_iff (hs : s.Valid) : z.read t = .shows s.start ↔
    ∃ second, second + z.timeline.offsetAt second = s.start.secondNumber ∧
      Calendar.Covers second ∧ t.millis? = some (1000 * second) := by
  have hnano : s.start.time.nanosecond / 1000000 = 0 := Nat.zero_div _
  rw [← mem_instants_start hs]
  refine (z.regular_timeline.mem_instants_iff (Nat.zero_lt_succ _)).trans ?_
  simp only [hnano, Int.natCast_zero, Int.add_zero]

/-- The first instant to show a stamp is at the first second to show its beginning. -/
theorem FirstShows.exists_firstSource (hs : s.Valid) (h : z.FirstShows s.start t) :
    ∃ a, z.timeline.FirstSource s.start.secondNumber a ∧ t.millis? = some (1000 * a) := by
  obtain ⟨a, hshown, hcovers, ht⟩ := (read_eq_shows_start_iff hs).1 h.shows
  refine ⟨a, ⟨hcovers, hshown, fun x hx hshown' => ?_⟩, ht⟩
  have hmillis : (1000 * x + (0 : Nat)).natAbs ≤ Instant.maxMillis :=
    Timeline.natAbs_le_maxMillis hx (by decide)
  have hu := Instant.millis?_ofInt hmillis
  rw [Int.natCast_zero, Int.add_zero] at hu
  have hle := h.le _ ((read_eq_shows_start_iff hs).2 ⟨x, hshown', hx, hu⟩)
  have hle := (Instant.le_iff_of_millis? ht hu).1 hle
  omega

theorem FirstShows.unique (hs : s.Valid) (h : z.FirstShows s.start t)
    (h' : z.FirstShows s.start t') : t = t' :=
  Option.some.inj (((firstShows_iff hs).1 h).symm.trans ((firstShows_iff hs).1 h'))

theorem FirstShows.lt [Database.SteadyStart] (hs : s.Valid) (hs' : s'.Valid)
    (h : z.FirstShows s.start t) (h' : z.FirstShows s'.start t') (hlt : s.numbers < s'.numbers) :
    t < t' := by
  obtain ⟨a, ha, ht⟩ := h.exists_firstSource hs
  obtain ⟨b, hb, ht'⟩ := h'.exists_firstSource hs'
  have hshown := hs.secondNumber_start_lt hs' hlt
  rw [← hb.shown_eq] at hshown
  have hab := z.regular_timeline.lt_of_shown_lt z.steadyStart_timeline ha hb.covers hshown
  rw [Instant.lt_iff_of_millis? ht ht']
  omega

theorem firstShows_of_saidBy {text : String} (hs : s.SaidBy text) (h : z.parse text = .ok t) :
    z.FirstShows s.start t := by
  obtain ⟨body, hbody, hspells⟩ := hs.spells
  exact (parse_eq_ok_iff hbody hs.valid hspells).1 h

theorem exists_saidBy_of_parse {text : String} (h : z.parse text = .ok t) :
    ∃ s : Stamp, s.SaidBy text := by
  obtain ⟨s, hs, hspells, -⟩ := exists_firstShows_of_parse h
  exact ⟨s, hs, _, Text.isTrimmed_trim _, hspells⟩

end

/-- Accepted texts are in the order of their stamps. Of two texts that the clocks of a zone show,
the one with the lesser numbers stands for the earlier instant, and they stand for the same instant
when their numbers are the same. -/
theorem parse_lt_iff [Database] [Database.SteadyStart] (z : Zone) {text text' : String}
    {t t' : Instant} (h : z.parse text = .ok t) (h' : z.parse text' = .ok t') :
    (∃ s : Stamp, s.SaidBy text) ∧ (∃ s' : Stamp, s'.SaidBy text') ∧
    ∀ s s' : Stamp, s.SaidBy text → s'.SaidBy text' →
      (t < t' ↔ s.numbers < s'.numbers) ∧ (t = t' ↔ s.numbers = s'.numbers) := by
  refine ⟨exists_saidBy_of_parse h, exists_saidBy_of_parse h', fun s s' hs hs' => ?_⟩
  have hfirst := firstShows_of_saidBy hs h
  have hfirst' := firstShows_of_saidBy hs' h'
  rcases lt_trichotomy s.numbers s'.numbers with hlt | heq | hgt
  · have ht := hfirst.lt hs.valid hs'.valid hfirst' hlt
    have hne : t ≠ t' := Instant.ne_of_lt ht
    exact ⟨iff_of_true ht hlt, iff_of_false hne (ne_of_lt hlt)⟩
  · obtain rfl := Stamp.numbers_injective heq
    obtain rfl := hfirst.unique hs.valid hfirst'
    exact ⟨iff_of_false (Instant.lt_irrefl t) (lt_irrefl _), iff_of_true rfl rfl⟩
  · have ht := hfirst'.lt hs'.valid hs.valid hfirst hgt
    have hne : t ≠ t' := (Instant.ne_of_lt ht).symm
    exact ⟨iff_of_false (Instant.lt_asymm ht) (lt_asymm hgt), iff_of_false hne (ne_of_gt hgt)⟩

section
attribute [local instance] Database.recorded Database.steadyStart_recorded

/-- In Caracas the minutes before three were shown twice before three was. -/
theorem parse_lt_iff_caracas :
    caracas.parse "2007-12-09T02:59" = .ok (.ofInt 1197183540000) ∧
    caracas.parse "2007-12-9T3:0 " = .ok (.ofInt 1197185400000) ∧
    ∀ s s' : Stamp, s.SaidBy "2007-12-09T02:59" → s'.SaidBy "2007-12-9T3:0 " →
      s.numbers < s'.numbers ∧ s.numbers ≠ s'.numbers := by
  have h : caracas.parse "2007-12-09T02:59" = .ok (.ofInt 1197183540000) := by rfl
  have h' : caracas.parse "2007-12-9T3:0 " = .ok (.ofInt 1197185400000) := by rfl
  obtain ⟨-, -, horder⟩ := parse_lt_iff caracas h h'
  refine ⟨h, h', fun s s' hs hs' => ?_⟩
  obtain ⟨hlt, heq⟩ := horder s s' hs hs'
  exact ⟨hlt.1 (by decide), fun hnumbers => absurd (heq.2 hnumbers) (by decide)⟩

end

end Zone
end WallClock
