import Std.Time.DateTime.Timestamp
import WallClock.Command.Outcome
import WallClock.Zone.Recorded

/-! # The program

Reads the clock of the host, sleeps while a timer runs, and writes the outcome. It runs with the
recorded offsets. Where the text of an outcome is not modelled, it has one of its own. -/

namespace WallClock
namespace Command

/-- Stands in for the help, which is not modelled. -/
def usageLine : String :=
  "driptime [--tz NAME] [format [--at STAMP] [--days N] [--hours N] [--minutes N] [--seconds N] " ++
    "| tz | wait [--sample-ms N] [--poll-ms N] MILLISECONDS]"

/-- Stands in for what is said of a failure where that is not modelled. -/
def failureLine : String := "The request cannot be carried out; see --help."

def now : IO Instant := do
  let t ← Std.Time.Timestamp.now
  return .ofHostClock t.toMillisecondsSinceUnixEpoch.val

/-- Sleeps for an interval, or for as long as it is possible in one go. -/
def sleepMillis (n : Nat) : IO Unit := IO.sleep (min n 4294967295).toUInt32

variable [Database]

/-- Waits until a timer is done. It is sampled when the host's monotonic clock reaches
`nextSample`, and an interval of at least one millisecond later again. -/
partial def waitFor (z : Zone) (timer : Timer) (sampleMillis pollMillis nextSample : Nat) :
    IO Outcome := do
  if timer.done then return waited z timer
  sleepMillis pollMillis
  let mono ← IO.monoMsNow
  if mono < nextSample then waitFor z timer sampleMillis pollMillis nextSample
  else waitFor z (timer.tick (← now)) sampleMillis pollMillis (mono + max sampleMillis 1)

def Request.carryOut (request : Request) : IO Outcome := do
  match request.start (← now) with
  | .finished outcome => return outcome
  | .waiting z timer sampleMillis pollMillis =>
    waitFor z timer sampleMillis pollMillis ((← IO.monoMsNow) + max sampleMillis 1)

end Command
end WallClock

def main (args : List String) : IO UInt32 := do
  let outcome ← @WallClock.Command.Request.carryOut .recorded (.ofArguments args)
  IO.print (outcome.stdout?.getD (WallClock.Command.usageLine ++ "\n"))
  IO.eprint (outcome.stderr?.getD (WallClock.Command.failureLine ++ "\n"))
  return outcome.code.toUInt32
