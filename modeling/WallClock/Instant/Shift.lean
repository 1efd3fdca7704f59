import WallClock.Instant.Basic

/-! # Shifting by units of time

Every unit is a multiple of the next smaller one, and an amount is converted one unit at a
time, so that a shift by days multiplies by 24, then 60, 60 and 1000, rounding each product. A
day always has 24 hours here: calendars and zones play no part. -/

namespace WallClock

inductive TimeUnit
  | days
  | hours
  | minutes
  | seconds
  | millis
  deriving DecidableEq, Repr

/-- The length of a unit in milliseconds. -/
def TimeUnit.inMillis : TimeUnit → Nat
  | days => 86400000
  | hours => 3600000
  | minutes => 60000
  | seconds => 1000
  | millis => 1

/-- A shift by a number of units. -/
structure Step where
  unit : TimeUnit
  amount : Binary64
  deriving DecidableEq

namespace Instant

def addSeconds (t : Instant) (n : Binary64) : Instant := t.addMillis (.ofInt 1000 * n)

def addMinutes (t : Instant) (n : Binary64) : Instant := t.addSeconds (.ofInt 60 * n)

def addHours (t : Instant) (n : Binary64) : Instant := t.addMinutes (.ofInt 60 * n)

/-- Shifts by a number of days of 24 hours. -/
def addDays (t : Instant) (n : Binary64) : Instant := t.addHours (.ofInt 24 * n)

/-- Takes one step. -/
def shift (t : Instant) (step : Step) : Instant :=
  match step.unit with
  | .days => t.addDays step.amount
  | .hours => t.addHours step.amount
  | .minutes => t.addMinutes step.amount
  | .seconds => t.addSeconds step.amount
  | .millis => t.addMillis step.amount

/-- The instants passed on the way: where the walk starts, and where every step leads. -/
def trail (t : Instant) : List Step → List Instant
  | [] => [t]
  | step :: steps => t :: (t.shift step).trail steps

/-- Where a walk ends. -/
def walk (t : Instant) (steps : List Step) : Instant := steps.foldl shift t

end Instant
end WallClock
