import WallClock.Proofs.Stamp.RoundTrip
import WallClock.Proofs.Zone.Fields
import WallClock.Proofs.Zone.Universal

/-!
# Readings at the ends of the calendar

An instant of the calendar has no reading where the offset in force leads out of the calendar.
Offsets are below a day and do not change within a day of its ends. So only the first offset can
lead out at the beginning, if it is behind universal time, and only the last one at the end, if it
is ahead: `Timeline.Regular.covers_and_not_covers_iff` says this of seconds, and
`Zone.read_at_ends` says of every instant whether it has a reading, and a text.
-/

namespace WallClock

namespace Calendar

/-- The first millisecond of the calendar. -/
def firstMilli : Int := -8334601228800000

/-- The last millisecond of the calendar. -/
def lastMilli : Int := 8210266876799999

theorem covers_div_iff {ms : Int} : Covers (ms / 1000) ↔ firstMilli ≤ ms ∧ ms ≤ lastMilli := by
  unfold Covers firstSecond lastSecond firstMilli lastMilli
  omega

theorem not_covers_div_iff {ms : Int} : ¬Covers (ms / 1000) ↔ ms < firstMilli ∨ lastMilli < ms := by
  rw [covers_div_iff, Decidable.not_and_iff_or_not, Int.not_le, Int.not_le]

end Calendar

namespace Timeline

open Calendar

variable {z : Timeline} {t : Instant} {second ms : Int}

/-- The milliseconds from which the first offset leads out of the calendar at its beginning, or the
last one at its end. -/
def LeadsOut (z : Timeline) (ms : Int) : Prop :=
  z.first < 0 ∧ firstMilli ≤ ms ∧ ms < firstMilli + 1000 * z.first.natAbs ∨
    0 < z.final ∧ lastMilli - 1000 * z.final < ms ∧ ms ≤ lastMilli

instance (z : Timeline) (ms : Int) : Decidable (z.LeadsOut ms) :=
  inferInstanceAs (Decidable (_ ∨ _))

/-- After all changes, the offset of the last of them is in force. -/
theorem offsetAfter_of_le {cs : List Change} {offset : Int} (h : ∀ c ∈ cs, c.time ≤ second) :
    offsetAfter offset cs second = (cs.getLast?.map Change.offset).getD offset := by
  induction cs generalizing offset with
  | nil => rfl
  | cons c cs ih =>
    obtain ⟨hc, hcs⟩ := List.forall_mem_cons.1 h
    rw [offsetAfter, if_neg (Int.not_lt.2 hc), ih hcs, List.getLast?_cons]
    cases cs.getLast? <;> rfl

namespace Regular

variable (h : z.Regular)
include h

theorem offsetAt_eq_first (hs : second < firstSecond + 86400) : z.offsetAt second = z.first :=
  h.inForce_iff.1 (.first fun c hc => Int.lt_of_lt_of_le hs (h.inside c hc).1)

theorem offsetAt_eq_final (hs : lastSecond - 86400 ≤ second) : z.offsetAt second = z.final :=
  offsetAfter_of_le fun c hc => Int.le_trans (h.inside c hc).2 hs

theorem final_lt : z.final.natAbs < 86400 := by
  have hlt := h.offsetAt_lt lastSecond
  rwa [h.offsetAt_eq_final (by omega)] at hlt

/-- The offset in force leads out of the calendar at its ends only: the first offset at its
beginning, and the last one at its end. -/
theorem covers_and_not_covers_iff :
    Covers second ∧ ¬Covers (second + z.offsetAt second) ↔
      firstSecond ≤ second ∧ second + z.first < firstSecond ∨
        second ≤ lastSecond ∧ lastSecond < second + z.final := by
  have hoffset := h.offsetAt_lt second
  have hfirst := h.first_lt
  have hfinal := h.final_lt
  have hstart : second < firstSecond + 86400 → _ := h.offsetAt_eq_first
  have hend : lastSecond - 86400 ≤ second → _ := h.offsetAt_eq_final
  have hwide : firstSecond + 86400 < lastSecond - 86400 := by decide
  unfold Covers
  constructor
  · rintro ⟨⟨hle, hle'⟩, hout⟩
    rcases Decidable.not_and_iff_or_not.1 hout with hout | hout
    · rw [hstart (by omega)] at hout
      exact .inl ⟨hle, by omega⟩
    · rw [hend (by omega)] at hout
      exact .inr ⟨hle', by omega⟩
  · rintro (⟨hle, hout⟩ | ⟨hle, hout⟩)
    · rw [hstart (by omega)]
      omega
    · rw [hend (by omega)]
      omega

theorem leadsOut_iff : z.LeadsOut ms ↔
    Covers (ms / 1000) ∧ ¬Covers (ms / 1000 + z.offsetAt (ms / 1000)) := by
  rw [h.covers_and_not_covers_iff]
  unfold LeadsOut firstMilli lastMilli firstSecond lastSecond
  omega

/-- A day inside of the calendar no offset leads out of it. -/
theorem not_leadsOut (hfirst : firstMilli + 86400000 ≤ ms) (hlast : ms ≤ lastMilli - 86400000) :
    ¬z.LeadsOut ms := by
  have hfirst' := h.first_lt
  have hfinal := h.final_lt
  unfold LeadsOut
  omega

end Regular

theorem not_leadsOut_fixed_zero (ms : Int) : ¬(fixed 0).LeadsOut ms := by
  rintro (⟨hneg, -⟩ | ⟨hpos, -⟩)
  · exact Int.lt_irrefl 0 hneg
  · exact Int.lt_irrefl 0 hpos

/-! ## The three outcomes of reading -/

theorem read_eq_absent_iff :
    z.read t = .absent ↔ ∀ ms, t.millis? = some ms → ¬Covers (ms / 1000) := by
  cases t with
  | invalid => simp [read, Instant.millis?]
  | valid ms bounded =>
    simp only [read, Instant.millis?, Option.some.injEq, forall_eq']
    split
    case isTrue h => simp [h]
    case isFalse h => split <;> simp [h]

theorem read_eq_beyond_iff : z.read t = .beyond ↔ ∃ ms, t.millis? = some ms ∧
    Covers (ms / 1000) ∧ ¬Covers (ms / 1000 + z.offsetAt (ms / 1000)) := by
  cases t with
  | invalid => simp [read, Instant.millis?]
  | valid ms bounded =>
    simp only [read, Instant.millis?, Option.some.injEq, exists_eq_left']
    split
    case isTrue h => simp [h]
    case isFalse h => split <;> simp_all

end Timeline

namespace Zone

open Calendar

section
variable [Database] {z : Zone} {t : Instant} {ms : Int}

theorem read_eq_absent_iff_millis : z.read t = .absent ↔
    t.isValid = false ∨ ∃ ms, t.millis? = some ms ∧ (ms < firstMilli ∨ lastMilli < ms) := by
  refine Timeline.read_eq_absent_iff.trans ?_
  simp only [not_covers_div_iff]
  cases t <;> simp [Instant.isValid, Instant.millis?]

theorem read_eq_beyond_iff_leadsOut :
    z.read t = .beyond ↔ ∃ ms, t.millis? = some ms ∧ z.timeline.LeadsOut ms := by
  simp only [z.regular_timeline.leadsOut_iff]
  exact Timeline.read_eq_beyond_iff

theorem read_ne_beyond (ht : t.millis? = some ms) (hout : ¬z.timeline.LeadsOut ms) :
    z.read t ≠ .beyond := by
  intro h
  obtain ⟨x, hx, hout'⟩ := read_eq_beyond_iff_leadsOut.1 h
  rw [ht] at hx
  cases hx
  exact hout hout'

theorem exists_read_eq_shows (ht : t.millis? = some ms) (hfirst : firstMilli ≤ ms)
    (hlast : ms ≤ lastMilli) (hout : ¬z.timeline.LeadsOut ms) :
    ∃ d, z.read t = .shows d ∧ d.Valid := by
  cases hread : z.read t with
  | absent =>
    have hcovers := Timeline.read_eq_absent_iff.1 hread ms ht
    exact absurd (covers_div_iff.2 ⟨hfirst, hlast⟩) hcovers
  | shows d => exact ⟨d, rfl, Timeline.valid_of_read hread⟩
  | beyond => exact absurd hread (read_ne_beyond ht hout)

theorem exists_render_iff : (∃ text, z.render t = some text) ↔ z.read t ≠ .beyond := by
  simp only [render_eq_some_iff]
  cases z.read t <;> simp

theorem KeepsUniversal.not_leadsOut [Database.Universal] (h : z.KeepsUniversal) (ms : Int) :
    ¬z.timeline.LeadsOut ms := by
  rw [h.timeline_eq]
  exact Timeline.not_leadsOut_fixed_zero ms

/-- A clock that keeps universal time is never beyond the calendar. -/
theorem KeepsUniversal.read_ne_beyond [Database.Universal] (h : z.KeepsUniversal) :
    z.read t ≠ .beyond := by
  intro hread
  obtain ⟨ms, -, hout⟩ := read_eq_beyond_iff_leadsOut.1 hread
  exact h.not_leadsOut ms hout

end

/-- Whether an instant has a reading in a zone, settled by its milliseconds and by the first and the
last offset of the zone. It has none outside of the calendar. Inside, its local time is beyond the
calendar just where the first offset leads out at the beginning, or the last one at the end; all
others have a reading of the calendar. As offsets are below a day, there is a text a day inside of
the calendar, and there always is one in universal time. -/
theorem read_at_ends [Database] [Database.Universal] (z : Zone) (t : Instant) :
    (z.read t = .absent ↔
      t.isValid = false ∨ ∃ ms, t.millis? = some ms ∧ (ms < firstMilli ∨ lastMilli < ms)) ∧
    (z.read t = .beyond ↔ ∃ ms, t.millis? = some ms ∧ z.timeline.LeadsOut ms) ∧
    (∀ ms, t.millis? = some ms → firstMilli ≤ ms → ms ≤ lastMilli → ¬z.timeline.LeadsOut ms →
      ∃ d, z.read t = .shows d ∧ d.Valid) ∧
    (∀ second, (z.timeline.offsetAt second).natAbs < 86400) ∧
    (∀ ms, t.millis? = some ms → firstMilli + 86400000 ≤ ms → ms ≤ lastMilli - 86400000 →
      ∃ text, z.render t = some text) ∧
    (z.KeepsUniversal → ∃ text, z.render t = some text) := by
  refine ⟨read_eq_absent_iff_millis, read_eq_beyond_iff_leadsOut, fun _ => exists_read_eq_shows,
    z.regular_timeline.offsetAt_lt, fun ms ht hfirst hlast => ?_, fun hz => ?_⟩
  · have hout := z.regular_timeline.not_leadsOut hfirst hlast
    exact exists_render_iff.2 (read_ne_beyond ht hout)
  · exact exists_render_iff.2 hz.read_ne_beyond

/-- The zone of Kiritimati, at first more than ten hours behind universal time, and since 1995
fourteen hours ahead. -/
def kiritimati : Zone := .named ⟨"Pacific/Kiritimati", by decide +kernel⟩

section
attribute [local instance] Database.recorded Database.universal_recorded

/-- The instants of Kiritimati that are beyond the calendar end at its beginning and begin at its
end to the millisecond. In universal time the last millisecond has a reading. -/
theorem read_at_ends_kiritimati :
    kiritimati.read (.ofInt (-8334601228800001)) = .absent ∧
    kiritimati.read (.ofInt (-8334601191040001)) = .beyond ∧
    (∃ d, kiritimati.read (.ofInt (-8334601191040000)) = .shows d ∧ d.Valid) ∧
    (∃ d, kiritimati.read (.ofInt 8210266826399999) = .shows d ∧ d.Valid) ∧
    kiritimati.read (.ofInt 8210266826400000) = .beyond ∧
    (∃ text, kiritimati.render (.ofInt 8210266790399999) = some text) ∧
    ∃ text, utc.render (.ofInt 8210266876799999) = some text := by
  refine ⟨?_, ?_, ?_, ?_, ?_, ?_, ?_⟩
  · obtain ⟨habsent, -⟩ := read_at_ends kiritimati (.ofInt (-8334601228800001))
    exact habsent.2 (.inr ⟨_, by rfl, by decide⟩)
  · obtain ⟨-, hbeyond, -⟩ := read_at_ends kiritimati (.ofInt (-8334601191040001))
    exact hbeyond.2 ⟨_, by rfl, by decide +kernel⟩
  · obtain ⟨-, -, hshows, -⟩ := read_at_ends kiritimati (.ofInt (-8334601191040000))
    exact hshows _ (by rfl) (by decide) (by decide) (by decide +kernel)
  · obtain ⟨-, -, hshows, -⟩ := read_at_ends kiritimati (.ofInt 8210266826399999)
    exact hshows _ (by rfl) (by decide) (by decide) (by decide +kernel)
  · obtain ⟨-, hbeyond, -⟩ := read_at_ends kiritimati (.ofInt 8210266826400000)
    exact hbeyond.2 ⟨_, by rfl, by decide +kernel⟩
  · obtain ⟨-, -, -, -, hinside, -⟩ := read_at_ends kiritimati (.ofInt 8210266790399999)
    exact hinside _ (by rfl) (by decide) (by decide)
  · obtain ⟨-, -, -, -, -, hutc⟩ := read_at_ends utc (.ofInt 8210266876799999)
    exact hutc (.inr rfl)

end

end Zone
end WallClock
