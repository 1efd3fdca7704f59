import WallClock.Proofs.Calendar.Counting
import WallClock.Proofs.Zone.Inverse

/-!
# What a clock shows

The offset in force at a second is that of the last change until then, or the first offset if there
is none (`Timeline.Regular.inForce_iff`). A clock shows the one date and time of the calendar that
lies this far ahead of universal time, its days counted by the lengths of years and months, and the
milliseconds of the instant (`Zone.read_eq_shows_iff_counted`).
-/

namespace WallClock
namespace Timeline

/-- The offset in force at a second of universal time: that of the last change until then, or the
first one where all changes come later. -/
inductive InForce (z : Timeline) (second : Int) : Int → Prop
  | first (h : ∀ c ∈ z.changes, second < c.time) : InForce z second z.first
  | change {c : Change} (hc : c ∈ z.changes) (hle : c.time ≤ second)
      (last : ∀ d ∈ z.changes, d.time ≤ second → d.time ≤ c.time) : InForce z second c.offset

variable {z : Timeline} {second offset offset' : Int}

/-- In an ascending list, the offset that is found is that of the last change until a second. -/
theorem inForce_offsetAfter {cs : List Change} (h : cs.Pairwise fun c d => c.time < d.time) :
    InForce ⟨offset, cs⟩ second (offsetAfter offset cs second) := by
  induction cs generalizing offset with
  | nil => exact .first nofun
  | cons c cs ih =>
    obtain ⟨hlater, hcs⟩ := List.pairwise_cons.1 h
    rw [offsetAfter]
    split
    case isTrue hlt =>
      apply InForce.first
      intro d hd
      rcases List.mem_cons.1 hd with rfl | hd
      · exact hlt
      · exact Int.lt_trans hlt (hlater d hd)
    case isFalse hle =>
      -- The change at the head is the last one unless one of the tail is.
      generalize hfound : offsetAfter c.offset cs second = found
      have ih := @ih c.offset hcs
      rw [hfound] at ih
      cases ih with
      | first hnone =>
        refine .change (.head _) (Int.not_lt.1 hle) fun d hd hdle => ?_
        rcases List.mem_cons.1 hd with rfl | hd
        · exact Int.le_refl _
        · exact absurd (hnone d hd) (Int.not_lt.2 hdle)
      | @change e he hele hlast =>
        refine .change (.tail _ he) hele fun d hd hdle => ?_
        rcases List.mem_cons.1 hd with rfl | hd
        · exact Int.le_of_lt (hlater e he)
        · exact hlast d hd hdle

theorem Regular.inForce_unique (h : z.Regular) (hoffset : z.InForce second offset)
    (hoffset' : z.InForce second offset') : offset = offset' := by
  cases hoffset with
  | first hnone =>
    cases hoffset' with
    | first => rfl
    | change hc hle => exact absurd (hnone _ hc) (Int.not_lt.2 hle)
  | change hc hle hlast =>
    cases hoffset' with
    | first hnone => exact absurd (hnone _ hc) (Int.not_lt.2 hle)
    | change hd hdle hlast' =>
      have hcd := hlast' _ hc hle
      have hdc := hlast _ hd hdle
      rcases h.eq_or_apart hc hd with rfl | hapart | hapart
      · rfl
      · omega
      · omega

theorem Regular.inForce_iff (h : z.Regular) : z.InForce second offset ↔ z.offsetAt second = offset := by
  have hfound : z.InForce second (z.offsetAt second) := inForce_offsetAfter h.ascending
  constructor
  · exact h.inForce_unique hfound
  · rintro rfl
    exact hfound

end Timeline

/-- The seconds from the beginning of 1970 to a reading, its days counted by the lengths of years
and months, are the number of its second. -/
theorem DateTime.counted_eq_secondNumber (d : DateTime) :
    86400 * d.date.countedDays + 3600 * d.time.hour + 60 * d.time.minute + d.time.second =
      d.secondNumber := by
  unfold secondNumber TimeOfDay.secondOfDay
  rw [d.date.countedDays_eq]
  omega

namespace Zone

/-- A clock of a zone shows a date and time just when it is one of the calendar, its milliseconds
are those of the instant, and the seconds counted from the beginning of 1970 to it are those of the
instant and the offset in force. -/
theorem read_eq_shows_iff_counted [Database] (z : Zone) (t : Instant) (d : DateTime) :
    z.read t = .shows d ↔ d.Valid ∧ ∃ ms offset, t.millis? = some ms ∧
      Calendar.Covers (ms / 1000) ∧ z.timeline.InForce (ms / 1000) offset ∧
      d.time.nanosecond = 1000000 * (ms % 1000) ∧
      86400 * d.date.countedDays + 3600 * d.time.hour + 60 * d.time.minute + d.time.second =
        ms / 1000 + offset := by
  rw [d.counted_eq_secondNumber]
  constructor
  · intro h
    refine ⟨Timeline.valid_of_read h, ?_⟩
    obtain ⟨ms, ht, hsecond, -, rfl⟩ := Timeline.read_eq_shows_iff.1 h
    refine ⟨ms, _, ht, hsecond, z.regular_timeline.inForce_iff.2 rfl, ?_,
      DateTime.secondNumber_ofSecondNumber _ _⟩
    change ((ms % 1000).toNat * 1000000 : Nat) = 1000000 * (ms % 1000)
    omega
  · rintro ⟨hd, ms, offset, ht, hsecond, hoffset, hnano, hcount⟩
    obtain rfl := z.regular_timeline.inForce_iff.1 hoffset
    have hnano : d.time.nanosecond = (ms % 1000).toNat * 1000000 := by omega
    refine Timeline.read_eq_shows_iff.2 ⟨ms, ht, hsecond, ?_, ?_⟩
    · rw [← hcount]
      exact hd.covers
    · rw [← hcount, ← hnano, DateTime.ofSecondNumber_secondNumber hd]

section
attribute [local instance] Database.recorded

/-- The last millisecond of a leap day, in a year that is before the first year of the era and
before the first change of the zone. -/
example : caracas.read (.ofInt (-62162019136001)) =
    .shows ⟨⟨0, 2, 29⟩, ⟨23, 59, 59, 999000000⟩⟩ := by rfl

end

end Zone
end WallClock
