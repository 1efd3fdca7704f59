import WallClock.Command.Arguments
import WallClock.Timer.Basic

/-! # What a command line asks for

An invocation is a command line with its values read and with those filled in that were not
given. Names of zones and dates are left as they are, as only the task can tell whether they are
good. -/

namespace WallClock
namespace Command

inductive Task
  /-- Writes the stamp of an instant, shifted by some amounts; the instant is now unless a
  stamp is given. -/
  | format (start : Option String) (days hours minutes seconds : Binary64)
  | zone
  | wait (duration : Int) (sampleMillis pollMillis : Nat)
  deriving DecidableEq

/-- A task and the zone for it. -/
structure Invocation where
  zone : Option String
  task : Task
  deriving DecidableEq

/-- What a command line asks for. -/
inductive Request
  | perform (invocation : Invocation)
  | version
  | help
  | misuse
  deriving DecidableEq

/-- The interval at which a waiting program looks at its timer, where none is asked for. -/
def defaultPollMillis : Nat := 50

/-- The amount of a shift; it is zero unless given. -/
def Given.amount? (g : Given) (key : Key) : Option Binary64 :=
  (g.value? key).elim (some (.ofInt 0)) Command.amount?

/-- The length of an interval, which is some default unless given. -/
def Given.interval? (g : Given) (key : Key) (otherwise : Nat) : Option Nat :=
  (g.value? key).elim (some otherwise) Command.interval?

def Given.task? (g : Given) : Option Task :=
  match g.subcommand, g.operands with
  | none, _ => some (.format none (.ofInt 0) (.ofInt 0) (.ofInt 0) (.ofInt 0))
  | some .format, _ => do
    let days ← g.amount? .days
    let hours ← g.amount? .hours
    let minutes ← g.amount? .minutes
    let seconds ← g.amount? .seconds
    some (.format ((g.value? .start).map String.ofList) days hours minutes seconds)
  | some .tz, _ => some .zone
  | some .wait, [duration] => do
    let duration ← duration? duration
    let sampleMillis ← g.interval? .sampleMillis Timer.defaultSampleMillis
    let pollMillis ← g.interval? .pollMillis defaultPollMillis
    some (.wait duration sampleMillis pollMillis)
  | some .wait, _ => none

/-- What is asked for when everything given has been read. -/
def Given.request (g : Given) : Request :=
  match g.task? with
  | some task => .perform ⟨(g.value? .zone).map String.ofList, task⟩
  | none => .misuse

def Arguments.request : Arguments → Request
  | .ready g => g.request
  | .trailing g => g.request
  | .pending _ _ => .misuse
  | .version => .version
  | .help => .help
  | .helpWord => .help
  | .helpTopic => .help
  | .mistaken => .misuse

def Request.ofArguments (args : List String) : Request := (Arguments.read args).request

end Command
end WallClock
