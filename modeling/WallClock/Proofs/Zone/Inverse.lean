import WallClock.Proofs.Calendar.SecondNumber
import WallClock.Proofs.Instant.Order
import WallClock.Proofs.Zone.Sources
import WallClock.Zone.Recorded

/-!
# Reading a clock and looking a reading up

`Zone.instants` is the inverse image of `Zone.read`. An instant is found under what is shown at
it (`Timeline.Regular.mem_instants_of_read`), and what is found under a reading shows it, but for
parts of a millisecond (`Timeline.Regular.read_of_mem_instants`). `Zone.instants_inverse_read`
says this of all zones, together with the exact value, the number and the order of the instants
found.
-/

namespace WallClock

/-- A reading with its nanoseconds cut down to whole milliseconds. -/
def DateTime.cutToMillis (d : DateTime) : DateTime :=
  { d with time := { d.time with nanosecond := d.time.nanosecond / 1000000 * 1000000 } }

namespace DateTime

theorem Valid.cutToMillis {d : DateTime} (h : d.Valid) : d.cutToMillis.Valid :=
  ⟨h.date, h.time.hour_lt, h.time.minute_lt, h.time.second_lt,
    Nat.lt_of_le_of_lt (Nat.div_mul_le_self _ _) h.time.nanosecond_lt⟩

theorem cutToMillis_eq_self {d : DateTime} (h : 1000000 ∣ d.time.nanosecond) :
    d.cutToMillis = d := by
  unfold cutToMillis
  rw [Nat.div_mul_cancel h]

theorem Valid.nanosecond_lt {d : DateTime} (h : d.Valid) : d.time.nanosecond < 2000000000 := by
  have := h.time.nanosecond_lt
  split at this
  · exact this
  · exact Nat.lt_trans this (by decide)

end DateTime

namespace Timeline

/-- All milliseconds of the calendar are in range, and those of leap seconds too. -/
theorem natAbs_le_maxMillis {second : Int} {millis : Nat} (h : Calendar.Covers second)
    (hmillis : millis < 2000) : (1000 * second + millis).natAbs ≤ Instant.maxMillis := by
  obtain ⟨h1, h2⟩ := h
  unfold Calendar.firstSecond at h1
  unfold Calendar.lastSecond at h2
  unfold Instant.maxMillis
  omega

/-- A date and time is shown when instant and local time are in the calendar. -/
theorem read_eq_shows_iff {z : Timeline} {t : Instant} {d : DateTime} : z.read t = .shows d ↔
    ∃ ms, t.millis? = some ms ∧ Calendar.Covers (ms / 1000) ∧
      Calendar.Covers (ms / 1000 + z.offsetAt (ms / 1000)) ∧
      d = .ofSecondNumber (ms / 1000 + z.offsetAt (ms / 1000)) ((ms % 1000).toNat * 1000000) := by
  cases t with
  | invalid => simp [read, Instant.millis?]
  | valid ms bounded =>
    simp only [read, Instant.millis?, Option.some.injEq, exists_eq_left']
    split
    case isTrue h => simp [h]
    case isFalse h =>
      rw [Decidable.not_not] at h
      split
      case isTrue h' => simp [h']
      case isFalse h' =>
        rw [Decidable.not_not] at h'
        simp only [Reading.shows.injEq, h, h', true_and]
        exact eq_comm

/-- What is shown at an instant is a reading of the calendar, to the millisecond. -/
theorem valid_of_read {z : Timeline} {t : Instant} {d : DateTime} (h : z.read t = .shows d) :
    d.Valid := by
  obtain ⟨ms, -, -, hcovers, rfl⟩ := read_eq_shows_iff.1 h
  exact DateTime.valid_ofSecondNumber hcovers (by omega)

/-- A clock shows the second that is ahead by the offset, and the milliseconds of the instant. -/
theorem exists_millis?_of_read {z : Timeline} {t : Instant} {d : DateTime}
    (h : z.read t = .shows d) : ∃ ms, t.millis? = some ms ∧
      d.secondNumber = ms / 1000 + z.offsetAt (ms / 1000) ∧
      d.time.nanosecond = (ms % 1000).toNat * 1000000 := by
  obtain ⟨ms, ht, -, -, rfl⟩ := read_eq_shows_iff.1 h
  exact ⟨ms, ht, DateTime.secondNumber_ofSecondNumber _ _, rfl⟩

namespace Regular

variable {z : Timeline} (h : z.Regular)
include h

theorem mem_instants_iff {d : DateTime} (hd : d.time.nanosecond < 2000000000) {t : Instant} :
    t ∈ z.instants d ↔ ∃ second, second + z.offsetAt second = d.secondNumber ∧
      Calendar.Covers second ∧
      t.millis? = some (1000 * second + (d.time.nanosecond / 1000000 : Nat)) := by
  have hmillis {second : Int} (hs : Calendar.Covers second) :
      (Instant.ofInt (1000 * second + (d.time.nanosecond / 1000000 : Nat))).millis? =
        some (1000 * second + (d.time.nanosecond / 1000000 : Nat)) :=
    Instant.millis?_ofInt (natAbs_le_maxMillis hs (by omega))
  simp only [instants, List.mem_map, List.mem_filter, h.mem_sources_iff, decide_eq_true_eq]
  constructor
  · rintro ⟨second, ⟨hsource, hs⟩, rfl⟩
    exact ⟨second, hsource, hs, hmillis hs⟩
  · rintro ⟨second, hsource, hs, ht⟩
    exact ⟨second, ⟨hsource, hs⟩, (Instant.eq_ofInt_of_millis? ht).symm⟩

/-- Completeness: an instant is found under what is shown at it. -/
theorem mem_instants_of_read {t : Instant} {d : DateTime} (hread : z.read t = .shows d) :
    t ∈ z.instants d := by
  have hd := (valid_of_read hread).nanosecond_lt
  obtain ⟨ms, ht, hs, -, rfl⟩ := read_eq_shows_iff.1 hread
  refine (h.mem_instants_iff hd).2
    ⟨ms / 1000, (DateTime.secondNumber_ofSecondNumber _ _).symm, hs, ?_⟩
  have hnano : (DateTime.ofSecondNumber (ms / 1000 + z.offsetAt (ms / 1000))
      ((ms % 1000).toNat * 1000000)).time.nanosecond = (ms % 1000).toNat * 1000000 := rfl
  rw [ht, hnano, Nat.mul_div_cancel _ (by decide)]
  congr 1
  omega

/-- Soundness: what is found under a reading shows it to the millisecond. -/
theorem read_of_mem_instants {t : Instant} {d : DateTime} (hd : d.Valid)
    (hnano : d.time.nanosecond < 1000000000) (ht : t ∈ z.instants d) :
    z.read t = .shows d.cutToMillis := by
  obtain ⟨second, hsource, hs, ht⟩ := (h.mem_instants_iff hd.nanosecond_lt).1 ht
  have hdiv : (1000 * second + (d.time.nanosecond / 1000000 : Nat)) / 1000 = second := by omega
  have hmod : (1000 * second + (d.time.nanosecond / 1000000 : Nat)) % 1000 =
      (d.time.nanosecond / 1000000 : Nat) := by omega
  refine read_eq_shows_iff.2 ⟨_, ht, ?_⟩
  rw [hdiv, hmod, hsource, Int.toNat_natCast]
  exact ⟨hs, hd.covers, (DateTime.ofSecondNumber_secondNumber hd.cutToMillis).symm⟩

theorem mem_instants_iff_read {t : Instant} {d : DateTime} (hd : d.Valid)
    (hnano : d.time.nanosecond < 1000000000) (hmillis : 1000000 ∣ d.time.nanosecond) :
    t ∈ z.instants d ↔ z.read t = .shows d := by
  refine ⟨fun ht => ?_, h.mem_instants_of_read⟩
  rw [h.read_of_mem_instants hd hnano ht, DateTime.cutToMillis_eq_self hmillis]

theorem pairwise_instants {d : DateTime} (hd : d.time.nanosecond < 2000000000) :
    (z.instants d).Pairwise (· < ·) := by
  have hmillis : d.time.nanosecond / 1000000 < 2000 := by omega
  refine List.pairwise_map.2 (((h.pairwise_sources _).filter _).imp_of_mem ?_)
  intro a b ha hb hab
  rw [List.mem_filter, decide_eq_true_eq] at ha hb
  have ha := Instant.millis?_ofInt (natAbs_le_maxMillis ha.2 hmillis)
  have hb := Instant.millis?_ofInt (natAbs_le_maxMillis hb.2 hmillis)
  exact (Instant.lt_iff_of_millis? ha hb).2 (by omega)

theorem length_instants_le (d : DateTime) : (z.instants d).length ≤ 2 := by
  rw [instants, List.length_map]
  exact Nat.le_trans (List.length_filter_le _ _) (h.length_sources_le _)

end Regular

end Timeline

namespace Zone

/-- Looking a reading up is the inverse image of reading the clock, in every zone. What is shown
at an instant leads back to it; what is found under a reading shows that reading to the
millisecond; and what is found are exactly the instants of the seconds `offset` behind the
reading where `offset` is in force, leap seconds counted forward: two at most, in ascending
order. -/
theorem instants_inverse_read [Database] (z : Zone) :
    (∀ (t : Instant) (d : DateTime), z.read t = .shows d → t ∈ z.instants d) ∧
    (∀ d : DateTime, d.Valid → d.time.nanosecond < 1000000000 →
      ∀ t ∈ z.instants d, z.read t = .shows d.cutToMillis) ∧
    ∀ d : DateTime, d.Valid →
      (∀ t : Instant, t ∈ z.instants d ↔ ∃ offset : Int,
        z.timeline.offsetAt (d.secondNumber - offset) = offset ∧
        Calendar.Covers (d.secondNumber - offset) ∧
        t.millis? =
          some (1000 * (d.secondNumber - offset) + (d.time.nanosecond / 1000000 : Nat))) ∧
      (z.instants d).length ≤ 2 ∧ (z.instants d).Pairwise (· < ·) := by
  have h := z.regular_timeline
  refine ⟨fun t d => h.mem_instants_of_read, fun d hd hnano t => h.read_of_mem_instants hd hnano,
    fun d hd => ⟨fun t => ?_, h.length_instants_le d, h.pairwise_instants hd.nanosecond_lt⟩⟩
  refine (h.mem_instants_iff hd.nanosecond_lt).trans ⟨?_, ?_⟩
  · rintro ⟨second, hsource, hs, ht⟩
    have heq : d.secondNumber - z.timeline.offsetAt second = second := by omega
    refine ⟨z.timeline.offsetAt second, ?_⟩
    rw [heq]
    exact ⟨rfl, hs, ht⟩
  · rintro ⟨offset, hoffset, hs, ht⟩
    exact ⟨_, by omega, hs, ht⟩

/-- The zone of Caracas, whose clocks were put back half an hour in December 2007. -/
def caracas : Zone := .named ⟨"America/Caracas", by decide +kernel⟩

section
attribute [local instance] Database.recorded

/-- A quarter to three was shown twice there that night. -/
theorem instants_inverse_read_caracas :
    caracas.instants ⟨⟨2007, 12, 9⟩, ⟨2, 45, 0, 500000⟩⟩ =
      [.ofInt 1197182700000, .ofInt 1197184500000] ∧
    caracas.read (.ofInt 1197184500000) = .shows ⟨⟨2007, 12, 9⟩, ⟨2, 45, 0, 0⟩⟩ ∧
    .ofInt 1197184500000 ∈ caracas.instants ⟨⟨2007, 12, 9⟩, ⟨2, 45, 0, 0⟩⟩ ∧
    (caracas.instants ⟨⟨2007, 12, 9⟩, ⟨2, 45, 0, 0⟩⟩).length ≤ 2 := by
  obtain ⟨hcomplete, hsound, hexact⟩ := instants_inverse_read caracas
  have hfound : caracas.instants ⟨⟨2007, 12, 9⟩, ⟨2, 45, 0, 500000⟩⟩ =
      [.ofInt 1197182700000, .ofInt 1197184500000] := by rfl
  have hread := hsound ⟨⟨2007, 12, 9⟩, ⟨2, 45, 0, 500000⟩⟩ (by decide) (by decide)
    (.ofInt 1197184500000) (by rw [hfound]; exact .tail _ (.head _))
  exact ⟨hfound, hread, hcomplete _ _ hread, (hexact _ (by decide)).2.1⟩

end

end Zone
end WallClock
