import WallClock.Refusal
import WallClock.Text.Blank
import WallClock.Text.Digits
import WallClock.Zone.Basic

/-! # Stamps: dates and times to the minute

A stamp is a date with an hour and a minute, written `YYYY-MM-DDTHH:mm`. Written stamps have at
least four digits of year, a minus sign for years before 0, and two digits in all other places.

Reading is more lenient (`Stamp.read?`): white space may stand before every number, numbers
other than the year have one digit or two, and a year has one to four digits, or any number of
them after a sign. A stamp that is read is one of the calendar. `Zone.parse` turns it into the
first instant at which the clocks of the zone show it, and `Zone.render` writes the stamp that
they show at an instant. -/

namespace WallClock

/-- A date and time to the minute. -/
structure Stamp where
  date : Date
  hour : Nat
  minute : Nat
  deriving DecidableEq, Repr

namespace Stamp

/-- Whether a stamp is one of the calendar and the clock. -/
structure Valid (s : Stamp) : Prop where
  date : s.date.Valid
  hour_lt : s.hour < 24
  minute_lt : s.minute < 60

instance (s : Stamp) : Decidable s.Valid :=
  decidable_of_iff (s.date.Valid ∧ s.hour < 24 ∧ s.minute < 60)
    ⟨fun h => ⟨h.1, h.2.1, h.2.2⟩, fun h => ⟨h.1, h.2, h.3⟩⟩

/-- The minute to which a date and time belongs. -/
def ofDateTime (d : DateTime) : Stamp := ⟨d.date, d.time.hour, d.time.minute⟩

def start (s : Stamp) : DateTime := ⟨s.date, ⟨s.hour, s.minute, 0, 0⟩⟩

/-! ## Writing -/

/-- A year in at least four digits, with a minus sign if it is negative. -/
def yearText (year : Int) : List Char :=
  if year < 0 then '-' :: Text.padded 4 year.natAbs else Text.padded 4 year.natAbs

def text (s : Stamp) : List Char :=
  yearText s.date.year ++ '-' :: Text.padded 2 s.date.month ++ '-' :: Text.padded 2 s.date.day ++
    'T' :: Text.padded 2 s.hour ++ ':' :: Text.padded 2 s.minute

/-- What is written where there is no stamp. -/
def missingText : List Char := "NaN-NaN-NaNTNaN:NaN".toList

/-! ## Reading -/

/-- Reads a number of one digit or two, after any white space. -/
def readShort (cs : List Char) : Option (Nat × List Char) :=
  match Text.skipBlanks cs with
  | c :: d :: rest =>
    if c.isDigit then
      if d.isDigit then some (Text.digitsValue [c, d], rest)
      else some (Text.digitsValue [c], d :: rest)
    else none
  | [c] => if c.isDigit then some (Text.digitsValue [c], []) else none
  | [] => none

/-- Reads a run of digits of a length that `admits` allows. -/
def readRun (admits : Nat → Bool) (cs : List Char) : Option (Nat × List Char) :=
  let digits := Text.leadingDigits cs
  if admits digits.length then some (Text.digitsValue digits, Text.afterDigits cs) else none

/-- Reads a year, after any white space: up to four digits, or a sign and any number of them. -/
def readYear (cs : List Char) : Option (Int × List Char) :=
  match Text.skipBlanks cs with
  | '-' :: rest => (readRun (1 ≤ ·) rest).map fun (n, rest) => (-(n : Int), rest)
  | '+' :: rest => (readRun (1 ≤ ·) rest).map fun (n, rest) => ((n : Int), rest)
  | rest => (readRun (fun k => 1 ≤ k && k ≤ 4) rest).map fun (n, rest) => ((n : Int), rest)

def readChar (expected : Char) : List Char → Option (List Char)
  | [] => none
  | c :: rest => if c = expected then some rest else none

/-- Reads the five numbers of a stamp, up to the end of the text. -/
def readNumbers? (cs : List Char) : Option Stamp := do
  let (year, cs) ← readYear cs
  let cs ← readChar '-' cs
  let (month, cs) ← readShort cs
  let cs ← readChar '-' cs
  let (day, cs) ← readShort cs
  let cs ← readChar 'T' cs
  let (hour, cs) ← readShort cs
  let cs ← readChar ':' cs
  let (minute, cs) ← readShort cs
  if cs.isEmpty then some ⟨⟨year, month, day⟩, hour, minute⟩ else none

/-- Reads a stamp of the calendar. -/
def read? (cs : List Char) : Option Stamp := (readNumbers? cs).filter fun s => s.Valid

end Stamp

namespace Reading

/-- The text of a reading; none where the local time is beyond the calendar. -/
def text? : Reading → Option (List Char)
  | absent => some Stamp.missingText
  | shows d => some (Stamp.ofDateTime d).text
  | beyond => none

end Reading

namespace Zone

/-- The stamp that the clocks of a zone show at an instant, as text. There is none where the
local time is beyond the calendar. -/
def render [Database] (z : Zone) (t : Instant) : Option String := (z.read t).text?.map String.ofList

/-- The first instant at which the clocks of a zone show what a text says. White space around
the text is left out of account, and out of refusals. -/
def parse [Database] (z : Zone) (text : String) : Except Refusal Instant :=
  let trimmed := Text.trim text.toList
  match Stamp.read? trimmed with
  | none => .error (.unreadable (String.ofList trimmed))
  | some stamp =>
    match z.instants stamp.start with
    | t :: _ => .ok t
    | [] => .error (.skipped (String.ofList trimmed) z.name)

def resolve (text : String) : Except Refusal Zone :=
  match ofText? text with
  | some z => .ok z
  | none => .error (.unknownZone text)

/-- The zone that an optional text names, and that of the host where none is given. -/
def resolveOptional : Option String → Except Refusal Zone
  | some text => resolve text
  | none => .ok host

end Zone
end WallClock
