import WallClock.Proofs.Calendar.Succession
import WallClock.Proofs.Instant.Walk
import WallClock.Proofs.Stamp.RoundTrip
import WallClock.Proofs.Zone.Fields
import WallClock.Proofs.Zone.Universal

/-!
# What a clock shows after a shift

A shift moves an instant by a fixed number of seconds, and a day is always 24 hours. What a clock
shows is moved by the same number of seconds and by the change of its offset
(`Zone.read_shift`). Where the offset is the same again, whole days lead to the same time of day on
the calendar day that comes so many days later.
-/

namespace WallClock

/-- The whole seconds of a unit, if it has any. -/
def TimeUnit.wholeSeconds? : TimeUnit → Option Nat
  | days => some 86400
  | hours => some 3600
  | minutes => some 60
  | seconds => some 1
  | millis => none

theorem TimeUnit.inMillis_eq {unit : TimeUnit} {k : Nat} (h : unit.wholeSeconds? = some k) :
    unit.inMillis = 1000 * k := by
  cases unit <;> cases h <;> rfl

namespace Timeline

variable {z : Timeline} {t : Instant} {d : DateTime} {offset ms : Int}

/-- The offset in force at an instant. -/
def InForceAt (z : Timeline) (t : Instant) (offset : Int) : Prop :=
  ∃ ms, t.millis? = some ms ∧ z.InForce (ms / 1000) offset

theorem Regular.exists_inForceAt (h : z.Regular) (hread : z.read t = .shows d)
    (ht : t.millis? = some ms) : ∃ offset, z.InForceAt t offset ∧
      d.secondNumber = ms / 1000 + offset ∧ d.time.nanosecond = (ms % 1000).toNat * 1000000 := by
  obtain ⟨x, hx, hsecond, hnano⟩ := exists_millis?_of_read hread
  rw [ht] at hx
  cases hx
  exact ⟨_, ⟨ms, ht, h.inForce_iff.2 rfl⟩, hsecond, hnano⟩

theorem eq_zero_of_inForceAt_fixed_zero (h : (fixed 0).InForceAt t offset) : offset = 0 := by
  obtain ⟨ms, -, hoffset⟩ := h
  exact ((regular_fixed (by decide)).inForce_iff.1 hoffset).symm

end Timeline

namespace Zone

section
variable [Database] {z : Zone} {t : Instant} {unit : TimeUnit} {k : Nat} {a : Binary64} {n : Int}
  {d d' : DateTime}

/-- A shift that leads to a reading moves the instant by its whole seconds. -/
theorem exists_millis?_shift (hunit : unit.wholeSeconds? = some k) (ha : a.int? = some n)
    (h' : z.read (t.shift ⟨unit, a⟩) = .shows d') : ∃ ms, t.millis? = some ms ∧
      (t.shift ⟨unit, a⟩).millis? = some (ms + 1000 * (k * n)) := by
  have hstep : (⟨unit, a⟩ : Step).millis? = some (1000 * (k * n)) := by
    refine Step.millis?_eq_some_iff.2 ⟨n, ha, ?_⟩
    rw [TimeUnit.inMillis_eq hunit, Int.natCast_mul, Int.mul_assoc]
    rfl
  obtain ⟨_, hmoved, -⟩ := Timeline.read_eq_shows_iff.1 h'
  obtain ⟨ms, ht, rfl, -⟩ := (Instant.millis?_shift_eq_some_iff hstep).1 hmoved
  exact ⟨ms, ht, hmoved⟩

theorem exists_written_of_read (h : z.read t = .shows d) :
    ∃ written, z.render t = some (String.ofList written) ∧ Stamp.Written written (.ofDateTime d) :=
  have hs : (Stamp.ofDateTime d).Valid := Stamp.valid_ofDateTime (Timeline.valid_of_read h)
  ⟨_, render_of_read h, (Stamp.written_iff hs).2 rfl⟩

/-- Whole days later the same time of day is written, with the later date. -/
theorem exists_written_of_wholeDays (h : z.read t = .shows d) {t' : Instant}
    (h' : z.read t' = .shows d') (hafter : d'.ComesAfter (86400 * n) d) :
    d'.date.ComesAfter n d.date ∧ ∃ written written',
      z.render t = some (String.ofList written) ∧ z.render t' = some (String.ofList written') ∧
      Stamp.Written written (.ofDateTime d) ∧
      Stamp.Written written' ⟨d'.date, d.time.hour, d.time.minute⟩ := by
  obtain ⟨hdate, hhour, hminute⟩ :=
    hafter.of_wholeDays (Timeline.valid_of_read h) (Timeline.valid_of_read h')
  obtain ⟨written, hrender, hwritten⟩ := exists_written_of_read h
  obtain ⟨written', hrender', hwritten'⟩ := exists_written_of_read h'
  refine ⟨hdate, written, written', hrender, hrender', hwritten, ?_⟩
  rw [← hhour, ← hminute]
  exact hwritten'

end

/-- What a clock shows after a shift by whole numbers of days, hours, minutes or seconds. Its second
has moved by those of the shift and by the change of the offset, and its milliseconds have stayed.
So where the offset is the same, as it always is in universal time, the clock shows what comes after
the former reading by the seconds of the shift, carried over into the calendar; and where these are
whole days, the time of day is written as before, on the date so many days later. -/
theorem read_shift [Database] [Database.Universal] (z : Zone) {t : Instant} {unit : TimeUnit}
    {k : Nat} {a : Binary64} {n : Int} {d d' : DateTime} (hunit : unit.wholeSeconds? = some k)
    (ha : a.int? = some n) (h : z.read t = .shows d)
    (h' : z.read (t.shift ⟨unit, a⟩) = .shows d') :
    ∃ offset offset', z.timeline.InForceAt t offset ∧
      z.timeline.InForceAt (t.shift ⟨unit, a⟩) offset' ∧
      d'.secondNumber - d.secondNumber = k * n + offset' - offset ∧
      d'.time.nanosecond = d.time.nanosecond ∧
      (z.KeepsUniversal → offset' = offset) ∧
      (offset' = offset → d'.ComesAfter (k * n) d ∧
        ∀ m : Int, k * n = 86400 * m → d'.date.ComesAfter m d.date ∧ ∃ written written',
          z.render t = some (String.ofList written) ∧
          z.render (t.shift ⟨unit, a⟩) = some (String.ofList written') ∧
          Stamp.Written written (.ofDateTime d) ∧
          Stamp.Written written' ⟨d'.date, d.time.hour, d.time.minute⟩) := by
  obtain ⟨ms, ht, ht'⟩ := exists_millis?_shift hunit ha h'
  obtain ⟨offset, hoffset, hsecond, hnano⟩ := z.regular_timeline.exists_inForceAt h ht
  obtain ⟨offset', hoffset', hsecond', hnano'⟩ := z.regular_timeline.exists_inForceAt h' ht'
  have hdiff : d'.secondNumber - d.secondNumber = k * n + offset' - offset := by omega
  refine ⟨offset, offset', hoffset, hoffset', hdiff, ?_, fun hz => ?_, fun heq => ?_⟩
  · rw [hnano, hnano', Int.add_mul_emod_self_left]
  · rw [hz.timeline_eq] at hoffset hoffset'
    rw [Timeline.eq_zero_of_inForceAt_fixed_zero hoffset,
      Timeline.eq_zero_of_inForceAt_fixed_zero hoffset']
  · have hafter : d'.ComesAfter (k * n) d :=
      ((Timeline.valid_of_read h).comesAfter_iff (Timeline.valid_of_read h')).2 (by omega)
    exact ⟨hafter, fun m hm => exists_written_of_wholeDays h h' (hm ▸ hafter)⟩

section
attribute [local instance] Database.recorded Database.universal_recorded

/-- From noon on, 24 hours in Caracas led to half past eleven when the clocks were put back half an
hour. In universal time, two days lead over the leap day of year 0. -/
theorem read_shift_caracas :
    (∃ offset offset', caracas.timeline.InForceAt (.ofInt 1197129600000) offset ∧
      caracas.timeline.InForceAt ((Instant.ofInt 1197129600000).shift ⟨.hours, .ofInt 24⟩) offset' ∧
      DateTime.secondNumber ⟨⟨2007, 12, 9⟩, ⟨11, 30, 0, 0⟩⟩ -
        DateTime.secondNumber ⟨⟨2007, 12, 8⟩, ⟨12, 0, 0, 0⟩⟩ = 3600 * 24 + offset' - offset) ∧
    (⟨0, 3, 1⟩ : Date).ComesAfter 2 ⟨0, 2, 28⟩ ∧ ∃ written written',
      utc.render (.ofInt (-62162123400000)) = some (String.ofList written) ∧
      utc.render ((Instant.ofInt (-62162123400000)).shift ⟨.days, .ofInt 2⟩) =
        some (String.ofList written') ∧
      Stamp.Written written ⟨⟨0, 2, 28⟩, 23, 30⟩ ∧ Stamp.Written written' ⟨⟨0, 3, 1⟩, 23, 30⟩ := by
  constructor
  · have hhours : TimeUnit.hours.wholeSeconds? = some 3600 := rfl
    have hamount : (Binary64.ofInt 24).int? = some 24 := by decide +kernel
    have hnoon : caracas.read (.ofInt 1197129600000) = .shows ⟨⟨2007, 12, 8⟩, ⟨12, 0, 0, 0⟩⟩ := by
      decide +kernel
    have hnext : caracas.read ((Instant.ofInt 1197129600000).shift ⟨.hours, .ofInt 24⟩) =
        .shows ⟨⟨2007, 12, 9⟩, ⟨11, 30, 0, 0⟩⟩ := by decide +kernel
    obtain ⟨offset, offset', hoffset, hoffset', hdiff, -⟩ :=
      read_shift caracas hhours hamount hnoon hnext
    exact ⟨offset, offset', hoffset, hoffset', hdiff⟩
  · have hdays : TimeUnit.days.wholeSeconds? = some 86400 := rfl
    have hamount : (Binary64.ofInt 2).int? = some 2 := by decide +kernel
    have hlate : utc.read (.ofInt (-62162123400000)) = .shows ⟨⟨0, 2, 28⟩, ⟨23, 30, 0, 0⟩⟩ := by
      decide +kernel
    have hmarch : utc.read ((Instant.ofInt (-62162123400000)).shift ⟨.days, .ofInt 2⟩) =
        .shows ⟨⟨0, 3, 1⟩, ⟨23, 30, 0, 0⟩⟩ := by decide +kernel
    obtain ⟨offset, offset', -, -, -, -, hsame, hafter⟩ :=
      read_shift utc hdays hamount hlate hmarch
    exact (hafter (hsame (.inr rfl))).2 2 rfl

end

end Zone
end WallClock
