import WallClock.Timer.Clock
import WallClock.Timer.Basic

/-! # A timer beside a clock

A session is a timer together with the clock that it is read from, which is moved by hand.
Events move the one or the other. `Session.states` is everything that can be observed of a
session: the state before the first event, and after every one. In a live session a pass of the
sampler follows each event after which it runs. -/

namespace WallClock

/-- A timer and its clock. -/
structure Session where
  timer : Timer
  clock : Clock
  deriving DecidableEq

/-- What can happen to a timer or its clock. -/
inductive Event
  | init
  /-- The reading of the clock is recorded on request. -/
  | sample
  /-- The sampler makes a pass, if it runs. -/
  | tick
  | close
  /-- A new duration counts from now. -/
  | restart (duration : Int)
  | set (reading : Instant)
  | advance (span : Span)
  | rewind (span : Span)
  deriving DecidableEq

namespace Session

def begin (duration : Int) (clock : Clock) : Session := ⟨.begin duration clock.reading, clock⟩

/-- What an event changes. -/
def step (s : Session) : Event → Session
  | .init => { s with timer := s.timer.init }
  | .sample => { s with timer := s.timer.record s.clock.reading }
  | .tick => { s with timer := s.timer.tick s.clock.reading }
  | .close => { s with timer := s.timer.close }
  | .restart duration => { s with timer := s.timer.restart duration s.clock.reading }
  | .set reading => { s with clock := s.clock.set reading }
  | .advance span => { s with clock := s.clock.advance span }
  | .rewind span => { s with clock := s.clock.rewind span }

/-- What an event and a pass of the sampler after it change. -/
def stepLive (s : Session) (e : Event) : Session := (s.step e).step .tick

/-- The session after a list of events. -/
def run (s : Session) (events : List Event) : Session := events.foldl step s

/-- The states passed when each event is taken by `next`. -/
def statesBy (next : Session → Event → Session) (s : Session) : List Event → List Session
  | [] => [s]
  | e :: events => s :: statesBy next (next s e) events

/-- The states before the first event and after each. -/
def states (s : Session) (events : List Event) : List Session := statesBy step s events

/-- The states of a live session before the first event and after each. -/
def liveStates (s : Session) (events : List Event) : List Session := statesBy stepLive s events

end Session
end WallClock
