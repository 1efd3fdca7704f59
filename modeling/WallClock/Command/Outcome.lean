import WallClock.Command.Invocation
import WallClock.Instant.Shift
import WallClock.Stamp

/-! # Carrying out a command line

`Request.start` carries a request out as far as it can be at a given reading of the clock. All
tasks are finished by that but waiting, which goes on until its timer is done and is finished by
`waited`.

An outcome is a line of output, the help, or one of the ways to fail; each has its exit code. Not
all texts are modelled: of the help, of the reasons for which arguments are not understood, and of
what is said about a local time beyond the calendar there is only that they are written. -/

namespace WallClock
namespace Command

/-- How a program ends. -/
inductive Outcome
  | printed (line : String)
  | helped
  | refused (cause : Refusal)
  /-- With an instant that no clock of the zone can show. -/
  | beyondCalendar
  | misused
  deriving DecidableEq, Repr

namespace Outcome

def ofRendering : Option String → Outcome
  | some line => printed line
  | none => beyondCalendar

def code : Outcome → Nat
  | printed _ | helped => 0
  | refused _ => 1
  | misused => 2
  | beyondCalendar => 101

/-- What a program writes to its output, where that is modelled. -/
def stdout? : Outcome → Option String
  | printed line => some (line ++ "\n")
  | helped => none
  | refused _ | misused | beyondCalendar => some ""

/-- What a program writes to its error output, where that is modelled. -/
def stderr? : Outcome → Option String
  | printed _ | helped => some ""
  | refused cause => some ("Error: " ++ cause.message ++ "\n")
  | misused | beyondCalendar => none

end Outcome

/-- How far a program has come. -/
inductive Progress
  | finished (outcome : Outcome)
  /-- A timer runs; it is sampled and looked at in intervals of milliseconds. -/
  | waiting (zone : Zone) (timer : Timer) (sampleMillis pollMillis : Nat)
  deriving DecidableEq

def versionLine : String := "driptime 0.1.0"

/-- Shifts by days first, then by ever smaller units. -/
def shifted (t : Instant) (days hours minutes seconds : Binary64) : Instant :=
  t.walk [⟨.days, days⟩, ⟨.hours, hours⟩, ⟨.minutes, minutes⟩, ⟨.seconds, seconds⟩]

variable [Database]

/-- The instant that a task starts from: that of a stamp, if there is one. -/
def startingPoint (z : Zone) (start : Option String) (now : Instant) : Except Refusal Instant :=
  match start with
  | some text => z.parse text
  | none => .ok now

def Task.start (task : Task) (z : Zone) (now : Instant) : Progress :=
  match task with
  | .format start days hours minutes seconds =>
    match startingPoint z start now with
    | .ok t => .finished (.ofRendering (z.render (shifted t days hours minutes seconds)))
    | .error cause => .finished (.refused cause)
  | .zone => .finished (.printed z.name)
  | .wait duration sampleMillis pollMillis =>
    .waiting z (Timer.begin duration now).init sampleMillis pollMillis

/-- Carries out an invocation; the zone is looked at before anything else. -/
def Invocation.start (i : Invocation) (now : Instant) : Progress :=
  match Zone.resolveOptional i.zone with
  | .ok z => i.task.start z now
  | .error cause => .finished (.refused cause)

def Request.start (request : Request) (now : Instant) : Progress :=
  match request with
  | .perform invocation => invocation.start now
  | .version => .finished (.printed versionLine)
  | .help => .finished .helped
  | .misuse => .finished .misused

/-- The outcome of waiting, which shows when the timer was last looked at. -/
def waited (z : Zone) (timer : Timer) : Outcome := .ofRendering (z.render timer.close.time)

end Command
end WallClock
