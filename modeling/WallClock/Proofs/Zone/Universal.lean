import WallClock.Proofs.Zone.Inverse

/-!
# Universal time

Two zones keep universal time: that of the host, and the one named `UTC`. Of the latter this is a
property of the database (`Database.Universal`), which the recorded offsets have. A clock that keeps
universal time shows the second and the millisecond of the instant
(`Timeline.exists_millis?_of_read_fixed_zero`).
-/

namespace WallClock

/-- A database in which the name `UTC` stands for universal time. -/
class Database.Universal [Database] : Prop where
  timeline_utc : Zone.utc.timeline = .fixed 0

theorem Database.universal_recorded : @Database.Universal .recorded :=
  @Universal.mk .recorded (by decide +kernel)

theorem Timeline.exists_millis?_of_read_fixed_zero {t : Instant} {d : DateTime}
    (h : (fixed 0).read t = .shows d) : ∃ ms, t.millis? = some ms ∧
      d.secondNumber = ms / 1000 ∧ d.time.nanosecond = (ms % 1000).toNat * 1000000 := by
  obtain ⟨ms, ht, hsecond, hnano⟩ := exists_millis?_of_read h
  exact ⟨ms, ht, hsecond.trans (Int.add_zero _), hnano⟩

namespace Zone

variable [Database]

/-- The zone keeps universal time under either of the two names. -/
def KeepsUniversal (z : Zone) : Prop := z = host ∨ z = utc

theorem KeepsUniversal.timeline_eq [Database.Universal] {z : Zone} (h : z.KeepsUniversal) :
    z.timeline = .fixed 0 := by
  rcases h with rfl | rfl
  · rfl
  · exact Database.Universal.timeline_utc

theorem read_utc [Database.Universal] (t : Instant) : utc.read t = (Timeline.fixed 0).read t := by
  rw [read, Database.Universal.timeline_utc]

end Zone
end WallClock
