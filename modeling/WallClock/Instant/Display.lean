import WallClock.Stamp

/-! # Instants in full

The full text of an instant is its universal date and time to the millisecond, as in
`1969-12-31T23:59:59.999Z`. Years from 0 to 9999 have four digits, and others have a sign and at
least four. Instants outside of the calendar have no full text, valid or not. -/

namespace WallClock
namespace Instant

/-- A year in four digits, or with a sign where it needs more. -/
def fullYear (year : Int) : List Char :=
  if 9999 < year then '+' :: Text.padded 4 year.natAbs else Stamp.yearText year

/-- A universal date and time to the millisecond. -/
def fullText (d : DateTime) : List Char :=
  fullYear d.date.year ++ '-' :: Text.padded 2 d.date.month ++ '-' :: Text.padded 2 d.date.day ++
    'T' :: Text.padded 2 d.time.hour ++ ':' :: Text.padded 2 d.time.minute ++
    ':' :: Text.padded 2 d.time.second ++ '.' :: Text.padded 3 (d.time.nanosecond / 1000000) ++
    ['Z']

def display (t : Instant) : String :=
  match (Timeline.fixed 0).read t with
  | .shows d => String.ofList (fullText d)
  | _ => "Invalid Date"

end Instant
end WallClock
