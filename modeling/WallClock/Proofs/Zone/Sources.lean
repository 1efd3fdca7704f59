import WallClock.Zone.Timeline

/-!
# Local seconds and the universal seconds they stand for

The sources of a local second are the universal seconds whose offset leads to it, and no others
(`Timeline.Regular.mem_sources_iff`). They are listed in ascending order
(`Timeline.Regular.pairwise_sources`), and there are at most two
(`Timeline.Regular.length_sources_le`): between two sources there is a change, three sources
enclose two changes, and two changes are further apart than any two sources.
-/

namespace WallClock
namespace Timeline

/-! ## Offsets -/

/-- An offset in force is the first one or that of a change. -/
theorem offsetAfter_cases (offset : Int) (cs : List Change) (second : Int) :
    offsetAfter offset cs second = offset ∨ ∃ c ∈ cs, offsetAfter offset cs second = c.offset := by
  induction cs generalizing offset with
  | nil => exact .inl rfl
  | cons c cs ih =>
    rw [offsetAfter]
    split
    · exact .inl rfl
    · rcases ih c.offset with h | ⟨d, hd, h⟩
      · exact .inr ⟨c, .head _, h⟩
      · exact .inr ⟨d, .tail _ hd, h⟩

/-- Where the offsets in force at two seconds differ, there is a change between them. -/
theorem exists_change_of_offsetAfter_ne {cs : List Change} {offset a b : Int} (hab : a ≤ b)
    (h : offsetAfter offset cs a ≠ offsetAfter offset cs b) :
    ∃ c ∈ cs, a < c.time ∧ c.time ≤ b := by
  induction cs generalizing offset with
  | nil => exact absurd rfl h
  | cons c cs ih =>
    by_cases ha : a < c.time
    · by_cases hb : b < c.time
      · rw [offsetAfter, if_pos ha, offsetAfter, if_pos hb] at h
        exact absurd rfl h
      · exact ⟨c, .head _, ha, Int.not_lt.1 hb⟩
    · have hb : ¬b < c.time := by omega
      rw [offsetAfter, if_neg ha, offsetAfter, if_neg hb] at h
      obtain ⟨d, hd, hbetween⟩ := ih h
      exact ⟨d, .tail _ hd, hbetween⟩

/-- Two universal seconds that the local clock shows as one have a change between them. -/
theorem exists_change_of_shown_eq {z : Timeline} {a b : Int} (hab : a < b)
    (heq : a + z.offsetAt a = b + z.offsetAt b) : ∃ c ∈ z.changes, a < c.time ∧ c.time ≤ b := by
  have hne : z.offsetAt a ≠ z.offsetAt b := by omega
  exact exists_change_of_offsetAfter_ne (Int.le_of_lt hab) hne

/-! ## Sources -/

/-- The sources from `since` on, when `offset` is in force from there. -/
theorem mem_sourcesAfter_iff {cs : List Change} {since : Option Int} {offset shown second : Int}
    (hcs : cs.Pairwise fun c d => c.time < d.time) (hsince : ∀ c ∈ cs, ∀ t ∈ since, t ≤ c.time) :
    second ∈ sourcesAfter since offset cs shown ↔
      (∀ t ∈ since, t ≤ second) ∧ second + offsetAfter offset cs second = shown := by
  induction cs generalizing since offset with
  | nil =>
    have hall : since.all (· ≤ shown - offset) = true ↔ ∀ t ∈ since, t ≤ shown - offset := by
      simp [Option.all_eq_true]
    rw [sourcesAfter, offsetAfter]
    split
    case isTrue h =>
      rw [List.mem_singleton]
      exact ⟨fun hs => hs ▸ ⟨hall.1 h, by omega⟩, fun hs => by omega⟩
    case isFalse h =>
      refine ⟨nofun, fun ⟨hs, heq⟩ => absurd (hall.2 ?_) h⟩
      obtain rfl : second = shown - offset := by omega
      exact hs
  | cons c cs ih =>
    obtain ⟨htimes, hcs⟩ := List.pairwise_cons.1 hcs
    have hall : (since.all (· ≤ shown - offset) && shown - offset < c.time) = true ↔
        (∀ t ∈ since, t ≤ shown - offset) ∧ shown - offset < c.time := by
      simp [Option.all_eq_true]
    have ih : second ∈ sourcesAfter (some c.time) c.offset cs shown ↔
        c.time ≤ second ∧ second + offsetAfter c.offset cs second = shown := by
      rw [ih hcs fun d hd t ht => Option.mem_some.1 ht ▸ Int.le_of_lt (htimes d hd)]
      simp
    have hmem : second ∈ sourcesAfter since offset (c :: cs) shown ↔
        (second = shown - offset ∧ (∀ t ∈ since, t ≤ shown - offset) ∧ shown - offset < c.time) ∨
          second ∈ sourcesAfter (some c.time) c.offset cs shown := by
      rw [sourcesAfter, ← hall]
      split
      case isTrue h => simp [h]
      case isFalse h => simp [h]
    rw [hmem, ih, offsetAfter]
    -- the head belongs to the seconds before the change, and the tail to those from it on
    split
    case isTrue hlt =>
      constructor
      · rintro (⟨rfl, h, -⟩ | ⟨h, -⟩)
        · exact ⟨h, by omega⟩
        · exact absurd hlt (Int.not_lt.2 h)
      · rintro ⟨h, heq⟩
        obtain rfl : second = shown - offset := by omega
        exact .inl ⟨rfl, h, hlt⟩
    case isFalse hle =>
      constructor
      · rintro (⟨rfl, -, hlt⟩ | ⟨h, heq⟩)
        · exact absurd hlt hle
        · exact ⟨fun t ht => Int.le_trans (hsince c (.head _) t ht) h, heq⟩
      · rintro ⟨-, heq⟩
        exact .inr ⟨Int.not_lt.1 hle, heq⟩

theorem pairwise_sourcesAfter {cs : List Change} {since : Option Int} {offset shown : Int}
    (hcs : cs.Pairwise fun c d => c.time < d.time) :
    (sourcesAfter since offset cs shown).Pairwise (· < ·) := by
  induction cs generalizing since offset with
  | nil =>
    rw [sourcesAfter]
    split
    · exact List.pairwise_singleton _ _
    · exact .nil
  | cons c cs ih =>
    obtain ⟨htimes, hcs⟩ := List.pairwise_cons.1 hcs
    rw [sourcesAfter]
    split
    case isTrue h =>
      rw [Bool.and_eq_true, decide_eq_true_eq] at h
      refine List.pairwise_cons.2 ⟨fun second hs => ?_, ih hcs⟩
      have hsince : ∀ d ∈ cs, ∀ t ∈ some c.time, t ≤ d.time :=
        fun d hd t ht => Option.mem_some.1 ht ▸ Int.le_of_lt (htimes d hd)
      have hle := ((mem_sourcesAfter_iff hcs hsince).1 hs).1 c.time rfl
      exact Int.lt_of_lt_of_le h.2 hle
    case isFalse => exact ih hcs

namespace Regular

variable {z : Timeline} (h : z.Regular)
include h

theorem ascending : z.changes.Pairwise fun c d => c.time < d.time :=
  h.spaced.imp fun hcd => by omega

theorem offsetAt_lt (second : Int) : (z.offsetAt second).natAbs < 86400 := by
  unfold offsetAt
  rcases offsetAfter_cases z.first z.changes second with heq | ⟨c, hc, heq⟩
  · rw [heq]
    exact h.first_lt
  · rw [heq]
    exact h.offset_lt c hc

/-- Two changes are the same, or two days apart. -/
theorem eq_or_apart {c d : Change} (hc : c ∈ z.changes) (hd : d ∈ z.changes) :
    c = d ∨ c.time + 172800 ≤ d.time ∨ d.time + 172800 ≤ c.time := by
  refine List.Pairwise.forall_of_forall_of_flip (l := z.changes)
    (R := fun c d => c = d ∨ c.time + 172800 ≤ d.time ∨ d.time + 172800 ≤ c.time) ?_ ?_ ?_ hc hd
  · exact fun _ _ => .inl rfl
  · exact h.spaced.imp fun hcd => .inr (.inl hcd)
  · exact h.spaced.imp fun hcd => .inr (.inr hcd)

/-- Of any two changes, the later one comes two days after the other. -/
theorem add_le_of_lt {c d : Change} (hc : c ∈ z.changes) (hd : d ∈ z.changes)
    (hlt : c.time < d.time) : c.time + 172800 ≤ d.time := by
  rcases h.eq_or_apart hc hd with rfl | hle | hle
  · exact absurd hlt (Int.lt_irrefl _)
  · exact hle
  · omega

theorem mem_sources_iff {shown second : Int} :
    second ∈ z.sources shown ↔ second + z.offsetAt second = shown :=
  (mem_sourcesAfter_iff h.ascending fun _ _ _ ht => absurd ht (Option.not_mem_none _)).trans
    ⟨fun hs => hs.2, fun hs => ⟨fun _ ht => absurd ht (Option.not_mem_none _), hs⟩⟩

theorem pairwise_sources (shown : Int) : (z.sources shown).Pairwise (· < ·) :=
  pairwise_sourcesAfter h.ascending

theorem length_sources_le (shown : Int) : (z.sources shown).length ≤ 2 := by
  have hlt := h.pairwise_sources shown
  have hmem : ∀ second ∈ z.sources shown, second + z.offsetAt second = shown :=
    fun _ => h.mem_sources_iff.1
  match z.sources shown, hlt, hmem with
  | [], _, _ | [_], _, _ | [_, _], _, _ => simp
  | a :: b :: c :: _, hlt, hmem =>
    have hab : a < b := (List.pairwise_cons.1 hlt).1 b (.head _)
    have hbc : b < c := (List.pairwise_cons.1 (List.pairwise_cons.1 hlt).2).1 c (.head _)
    have ha := hmem a (.head _)
    have hb := hmem b (.tail _ (.head _))
    have hc := hmem c (.tail _ (.tail _ (.head _)))
    obtain ⟨d, hd, had, hdb⟩ := exists_change_of_shown_eq hab (ha.trans hb.symm)
    obtain ⟨e, he, hbe, hec⟩ := exists_change_of_shown_eq hbc (hb.trans hc.symm)
    have hde := h.add_le_of_lt hd he (Int.lt_of_le_of_lt hdb hbe)
    have := h.offsetAt_lt a
    have := h.offsetAt_lt c
    omega

end Regular

end Timeline
end WallClock
