import WallClock.Instant.Basic
import WallClock.Calendar.DateTime

/-! # Offsets over time

The clocks of a zone are ahead of universal time by an offset in seconds, which changes at
certain seconds of universal time. A `Timeline` is the first offset and the list of changes in
ascending order; the last offset holds for ever.

`Timeline.offsetAt` gives the offset in force, and `Timeline.sources` goes the other way: the
seconds of universal time at which the local clock shows a second. There are none where the
clock was put forward past it, and two where it was put back over it.

The calendar is finite, and it is so twice: an instant outside of it has no reading in any
zone, and an instant inside of it may have a local time outside of it.

`Timeline.Regular` is what the offsets of real zones have in common: they are below a day, and
they change at most every other day, and not near the ends of the calendar. -/

namespace WallClock

/-- A change of offset, from a second of universal time on. -/
structure Change where
  time : Int
  offset : Int
  deriving DecidableEq, Repr

/-- The offsets of a zone. -/
structure Timeline where
  first : Int
  changes : List Change
  deriving DecidableEq, Repr

/-- What a local clock shows at an instant. -/
inductive Reading
  /-- Nothing, as the instant is invalid or outside of the calendar. -/
  | absent
  /-- The local date and time. -/
  | shows (d : DateTime)
  /-- The local time is outside of the calendar, though the instant is not. -/
  | beyond
  deriving DecidableEq, Repr

namespace Timeline

/-- The timeline of universal time, or of a fixed distance from it. -/
def fixed (offset : Int) : Timeline := ⟨offset, []⟩

/-- Whether neighbouring changes are at least two days apart. -/
def neighboursApart : List Change → Bool
  | c :: d :: cs => c.time + 172800 ≤ d.time && neighboursApart (d :: cs)
  | _ => true

/-- When neighbours are two days apart, so are any two changes. -/
theorem neighboursApart_iff : ∀ {cs : List Change},
    neighboursApart cs ↔ cs.Pairwise fun c d => c.time + 172800 ≤ d.time
  | [] => by simp [neighboursApart]
  | [_] => by simp [neighboursApart]
  | c :: d :: cs => by
    rw [neighboursApart, Bool.and_eq_true, decide_eq_true_eq, neighboursApart_iff,
      List.pairwise_cons (a := c)]
    refine and_congr_left fun h => ⟨fun hd e he => ?_, fun hc => hc d (.head _)⟩
    rcases List.mem_cons.1 he with rfl | he
    · exact hd
    · have := (List.pairwise_cons.1 h).1 e he
      omega

/-- What the offsets of a zone are like: all are below a day, and the changes are at least two
days apart from each other and a day away from the ends of the calendar. -/
structure Regular (z : Timeline) : Prop where
  first_lt : z.first.natAbs < 86400
  offset_lt : ∀ c ∈ z.changes, c.offset.natAbs < 86400
  spaced : z.changes.Pairwise fun c d => c.time + 172800 ≤ d.time
  inside : ∀ c ∈ z.changes,
    Calendar.firstSecond + 86400 ≤ c.time ∧ c.time ≤ Calendar.lastSecond - 86400

instance (z : Timeline) : Decidable z.Regular :=
  decidable_of_iff
    (z.first.natAbs < 86400 ∧ (∀ c ∈ z.changes, c.offset.natAbs < 86400) ∧
      neighboursApart z.changes ∧ ∀ c ∈ z.changes,
        Calendar.firstSecond + 86400 ≤ c.time ∧ c.time ≤ Calendar.lastSecond - 86400)
    ⟨fun h => ⟨h.1, h.2.1, neighboursApart_iff.1 h.2.2.1, h.2.2.2⟩,
      fun h => ⟨h.1, h.2, neighboursApart_iff.2 h.3, h.4⟩⟩

theorem regular_fixed {offset : Int} (h : offset.natAbs < 86400) : (fixed offset).Regular :=
  ⟨h, nofun, .nil, nofun⟩

/-- The offset in force at a second, when `offset` is in force before all of the changes. -/
def offsetAfter (offset : Int) : List Change → Int → Int
  | [], _ => offset
  | c :: cs, second => if second < c.time then offset else offsetAfter c.offset cs second

/-- The offset in force at a second of universal time: that of the last change until then. -/
def offsetAt (z : Timeline) (second : Int) : Int := offsetAfter z.first z.changes second

def final (z : Timeline) : Int := (z.changes.getLast?.map Change.offset).getD z.first

/-- The seconds of universal time, from `since` on, at which the local clock shows the second
`shown`, when `offset` is in force from there until the first of the changes. -/
def sourcesAfter (since : Option Int) (offset : Int) : List Change → Int → List Int
  | [], shown => if since.all (· ≤ shown - offset) then [shown - offset] else []
  | c :: cs, shown =>
    if since.all (· ≤ shown - offset) && shown - offset < c.time then
      (shown - offset) :: sourcesAfter (some c.time) c.offset cs shown
    else sourcesAfter (some c.time) c.offset cs shown

/-- The seconds of universal time at which the local clock shows the second `shown`, in
ascending order. -/
def sources (z : Timeline) (shown : Int) : List Int := sourcesAfter none z.first z.changes shown

/-- What the local clock shows at an instant. -/
def read (z : Timeline) : Instant → Reading
  | .invalid => .absent
  | .valid ms _ =>
    let second := ms / 1000
    let shown := second + z.offsetAt second
    if ¬Calendar.Covers second then .absent
    else if ¬Calendar.Covers shown then .beyond
    else .shows (.ofSecondNumber shown ((ms % 1000).toNat * 1000000))

/-- The instants at which the local clock shows a date and time, in ascending order. Parts of
a millisecond are cut off, and instants outside of the calendar are left out. -/
def instants (z : Timeline) (shown : DateTime) : List Instant :=
  ((z.sources shown.secondNumber).filter fun second => Calendar.Covers second).map fun second =>
    .ofInt (1000 * second + shown.time.nanosecond / 1000000)

end Timeline
end WallClock
