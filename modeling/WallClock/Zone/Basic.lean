import WallClock.Zone.Names
import WallClock.Zone.Timeline

/-! # Time zones

A zone is the one the host keeps, or one of the names of the time zone database. A name is
looked up as it is spelled, and failing that without regard to the case of ASCII letters; either
way the zone has the spelling of the database.

The offsets that go with the names are those of a `Database`, which says nothing more of them
than that they are regular. Everything that depends on offsets takes the database as a parameter.

The host keeps universal time here. Its zone is still not the zone named `UTC`: two zones are
the same when they have the same name in the database, or are both the host's. -/

namespace WallClock

/-- A name in the time zone database. -/
structure ZoneName where
  text : String
  listed : text ∈ ZoneName.all
  deriving DecidableEq

namespace ZoneName

/-- Whether two texts are the same but for the case of ASCII letters. -/
def sameIgnoringCase (a b : String) : Bool :=
  a.toList.map Char.toLower == b.toList.map Char.toLower

/-- The name with exactly this spelling. -/
def ofSpelling? (text : String) : Option ZoneName :=
  if h : text ∈ all then some ⟨text, h⟩ else none

/-- The first name that has this spelling but for the case of ASCII letters. -/
def ofAnyCase? (text : String) : Option ZoneName :=
  match h : all.find? fun name => sameIgnoringCase name text with
  | some name => some ⟨name, List.mem_of_find?_eq_some h⟩
  | none => none

/-- The name that a text spells, exactly or in another case. -/
def ofText? (text : String) : Option ZoneName := (ofSpelling? text).or (ofAnyCase? text)

end ZoneName

/-- The offsets that go with the names of zones. -/
class Database where
  timeline : ZoneName → Timeline
  regular : ∀ name, (timeline name).Regular

inductive Zone
  /-- The zone of the host. -/
  | host
  /-- A zone of the database. -/
  | named (name : ZoneName)
  deriving DecidableEq

namespace Zone

def utc : Zone := .named ⟨"UTC", List.mem_append_right _ (by simp [ZoneName.plain])⟩

/-- Where no zone is given, that of the host is meant. -/
instance : Inhabited Zone := ⟨host⟩

def ofText? (text : String) : Option Zone := (ZoneName.ofText? text).map named

def name : Zone → String
  | host => "UTC"
  | named name => name.text

variable [Database]

/-- The offsets of a zone. -/
def timeline : Zone → Timeline
  | host => .fixed 0
  | named name => Database.timeline name

theorem regular_timeline : ∀ z : Zone, z.timeline.Regular
  | host => Timeline.regular_fixed (by decide)
  | named name => Database.regular name

/-- What a clock of the zone shows at an instant. -/
def read (z : Zone) (t : Instant) : Reading := z.timeline.read t

/-- The instants at which a clock of the zone shows a date and time, in ascending order. -/
def instants (z : Zone) (shown : DateTime) : List Instant := z.timeline.instants shown

end Zone
end WallClock
