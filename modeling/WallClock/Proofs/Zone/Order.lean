import WallClock.Proofs.Zone.Inverse

/-!
# The order of first instants

What a clock shows does not ascend with the instants, as clocks are put back. What it shows for
the first time does: every second is shown before any greater one
(`Timeline.Regular.lt_of_shown_lt`). Otherwise the clock was put back between the two, and did not
change in the two days before; so it had already shown the lesser second by the former offset.

This needs the two days before the change to belong to the calendar (`Timeline.SteadyStart`). A
zone whose clocks are put back on the second day might show seconds for the first time after it.
-/

namespace WallClock
namespace Timeline

/-- No offset changes in the first two days of the calendar. -/
def SteadyStart (z : Timeline) : Prop :=
  ∀ c ∈ z.changes, Calendar.firstSecond + 172800 ≤ c.time

theorem steadyStart_fixed (offset : Int) : (fixed offset).SteadyStart := nofun

/-- The second `a` is the first one of the calendar at which the local clock shows `shown`. -/
structure FirstSource (z : Timeline) (shown a : Int) : Prop where
  covers : Calendar.Covers a
  shown_eq : a + z.offsetAt a = shown
  le : ∀ x, Calendar.Covers x → x + z.offsetAt x = shown → a ≤ x

/-- A second is shown for the first time before any greater one is shown. -/
theorem Regular.lt_of_shown_lt {z : Timeline} (h : z.Regular) (hstart : z.SteadyStart)
    {shown a b : Int} (ha : z.FirstSource shown a) (hb : Calendar.Covers b)
    (hlt : shown < b + z.offsetAt b) : a < b := by
  apply Int.not_le.1
  intro hba
  have hshown := ha.shown_eq
  have hoffset := h.offsetAt_lt a
  have hoffset' := h.offsetAt_lt b
  have hne : z.offsetAt b ≠ z.offsetAt a := by omega
  obtain ⟨c, hc, hbc, hca⟩ := exists_change_of_offsetAfter_ne hba hne
  -- by the offset at `b`, the clock shows at `x` what it shows at `a`
  obtain ⟨x, hx⟩ : ∃ x, x + z.offsetAt b = shown := ⟨_, Int.sub_add_cancel _ _⟩
  have hxb : x < b := by omega
  by_cases hsame : z.offsetAt x = z.offsetAt b
  · have hcovers : Calendar.Covers x := by
      have hfirst := hstart c hc
      have hlast := hb.2
      constructor <;> omega
    have hax := ha.le x hcovers (hsame ▸ hx)
    omega
  · obtain ⟨d, hd, hxd, hdb⟩ := exists_change_of_offsetAfter_ne (Int.le_of_lt hxb) hsame
    have hdc := h.add_le_of_lt hd hc (Int.lt_of_le_of_lt hdb hbc)
    omega

end Timeline

/-- A database none of whose zones changes its offset in the first two days of the calendar. -/
class Database.SteadyStart [Database] : Prop where
  timeline : ∀ name, (Database.timeline name).SteadyStart

namespace Timeline

theorem le_time_of_mem_histories : ∀ p ∈ histories, ∀ c ∈ p.2.timeline.changes.head?,
    Calendar.firstSecond + 172800 ≤ c.time := by decide +kernel

theorem Regular.steadyStart {z : Timeline} (h : z.Regular)
    (hhead : ∀ c ∈ z.changes.head?, Calendar.firstSecond + 172800 ≤ c.time) : z.SteadyStart := by
  intro c hc
  have hascending := h.ascending
  cases hl : z.changes with
  | nil => rw [hl] at hc; nomatch hc
  | cons d ds =>
    rw [hl] at hc hhead hascending
    have hd := hhead d rfl
    rcases List.mem_cons.1 hc with rfl | hc
    · exact hd
    · have hdc := (List.pairwise_cons.1 hascending).1 c hc
      omega

end Timeline

theorem Database.steadyStart_recorded : @Database.SteadyStart .recorded :=
  @SteadyStart.mk .recorded <|
    of_recordedTimeline (fun offset _ => Timeline.steadyStart_fixed offset) fun p hp =>
      (Timeline.regular_of_mem_histories p hp).steadyStart (Timeline.le_time_of_mem_histories p hp)

namespace Zone

variable [Database] [Database.SteadyStart]

theorem steadyStart_timeline : ∀ z : Zone, z.timeline.SteadyStart
  | host => Timeline.steadyStart_fixed 0
  | named name => Database.SteadyStart.timeline name

end Zone
end WallClock
