import WallClock.Instant.Basic

/-! # Timers

A timer is done a number of milliseconds after the reading at which it was started. It does not
look at a clock by itself: readings are recorded into it, on request or by a sampler that runs
in the background, and `Timer.done` answers from the latest of them. The latest is what counts,
not the last: a clock that goes backwards leaves the recorded time alone, and an invalid
reading stands only until a valid one is recorded.

Closing a timer makes it done for good and stops the sampler. -/

namespace WallClock

structure Timer where
  /-- The reading from which the duration counts. -/
  start : Instant
  /-- The latest reading recorded. -/
  time : Instant
  /-- The duration in milliseconds; it may be negative. -/
  duration : Int
  closed : Bool
  /-- Whether a sampler is running. -/
  sampling : Bool
  deriving DecidableEq

namespace Timer

/-- The interval of a sampler in milliseconds, where none is asked for. -/
def defaultSampleMillis : Nat := 100

/-- A timer that counts from a reading. -/
def begin (duration : Int) (now : Instant) : Timer := ⟨now, now, duration, false, false⟩

/-- Records a reading, if it is later than the recorded time or the first valid one. -/
def record (t : Timer) (reading : Instant) : Timer :=
  if !t.time.isValid || t.time < reading then { t with time := reading } else t

/-- The end of the duration, in milliseconds. -/
def deadline (t : Timer) : Binary64 := t.start.millis + .ofInt t.duration

/-- Whether the timer is closed, or the recorded time has reached the deadline. -/
def done (t : Timer) : Bool := t.closed || t.deadline ≤ t.time.millis

/-- Starts the sampler, unless the timer is closed. -/
def init (t : Timer) : Timer := if t.closed then t else { t with sampling := true }

/-- Counts a duration from a reading. The recorded time stays, and so does the sampler. -/
def restart (t : Timer) (duration : Int) (now : Instant) : Timer :=
  { t with start := now, duration := duration }

/-- Makes the timer done for good and stops the sampler. -/
def close (t : Timer) : Timer := { t with closed := true, sampling := false }

/-- A pass of the sampler, which records a reading while the sampler runs. -/
def tick (t : Timer) (reading : Instant) : Timer := if t.sampling then t.record reading else t

end Timer
end WallClock
