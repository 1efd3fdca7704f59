import WallClock.Text.Quoted

/-! # Refusals

The causes for which a request is refused, and what is said about them. Texts from outside are
quoted, but for a stamp that has been read, which is repeated as it is. -/

namespace WallClock

inductive Refusal
  /-- No zone goes by this name. -/
  | unknownZone (name : String)
  /-- This text is no stamp. -/
  | unreadable (text : String)
  /-- The clocks of the zone never show what this stamp says. -/
  | skipped (text : String) (zone : String)
  deriving DecidableEq, Repr

namespace Refusal

/-- What is said about a refusal, as characters. -/
def messageChars : Refusal → List Char
  | unknownZone name => "unknown time zone ".toList ++ Text.quote name.toList
  | unreadable text =>
    "invalid date/time ".toList ++ Text.quote text.toList ++ ", expected YYYY-MM-DDTHH:mm".toList
  | skipped text zone =>
    text.toList ++ " does not exist in time zone ".toList ++ zone.toList

def message (r : Refusal) : String := String.ofList r.messageChars

end Refusal
end WallClock
