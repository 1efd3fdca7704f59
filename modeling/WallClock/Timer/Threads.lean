import Mathlib.Logic.Relation
import WallClock.Timer.Session

/-! # A timer in two threads

The owner of a timer and its sampler are threads of their own. What either of them does to the
timer is done under a lock (`Timer.Action`), but the clock is read before the lock is taken, so
that a reading may be in flight while other things happen, and be recorded after a later one, or
after the timer has been closed.

`Threads.SamplerStep` is what the sampler does on its own. `Threads.Operates` is what the owner
does, with the sampler running on meanwhile. `Threads.Observes` is what an owner can see who waits
for a whole pass of the sampler after every operation that leaves it running. -/

namespace WallClock

/-- What is done to a timer under its lock, with the reading that was taken for it before. -/
inductive Timer.Action
  | record (reading : Instant)
  | init
  | restart (duration : Int) (now : Instant)
  | close
  deriving DecidableEq

namespace Timer

def Action.isRecord : Action → Bool
  | .record _ => true
  | .init | .restart _ _ | .close => false

def act (t : Timer) : Action → Timer
  | .record reading => t.record reading
  | .init => t.init
  | .restart duration now => t.restart duration now
  | .close => t.close

/-- Does one thing after the other. -/
def perform (t : Timer) (actions : List Action) : Timer := actions.foldl act t

end Timer

/-- A timer with its clock, beside a sampler that may have read the clock already. -/
structure Threads where
  session : Session
  /-- The reading that the sampler has taken and not recorded yet. -/
  inFlight : Option Instant
  deriving DecidableEq

/-- Does something to the timer of a session. -/
def Session.act (s : Session) (a : Timer.Action) : Session := { s with timer := s.timer.act a }

/-- The first half of closing: the timer is marked as closed, and its sampler has yet to end. -/
def Session.markClosed (s : Session) : Session :=
  { s with timer := { s.timer with closed := true } }

namespace Threads

/-- A step of the sampler: it reads the clock, if it runs, or records what it has read. -/
inductive SamplerStep : Threads → Threads → Prop
  | take {s : Session} (running : s.timer.sampling = true) :
      SamplerStep ⟨s, none⟩ ⟨s, some s.clock.reading⟩
  | put {s : Session} {r : Instant} : SamplerStep ⟨s, some r⟩ ⟨s.act (.record r), none⟩

/-- The sampler takes any number of steps. -/
def Samples : Threads → Threads → Prop := Relation.ReflTransGen SamplerStep

/-- The sampler makes at least one whole pass: it reads the clock and records the reading. -/
inductive Passes : Threads → Threads → Prop
  | pass {s : Session} {f g h k : Threads} (before : Samples f ⟨s, none⟩)
      (reads : SamplerStep ⟨s, none⟩ g) (records : SamplerStep g h) (after : Samples h k) :
      Passes f k

/-- The owner carries out an operation while the sampler runs on. A sample and a restart read the
clock first and take the lock afterwards; closing waits for the sampler to end. A tick is nothing
that the owner does. -/
inductive Operates : Event → Threads → Threads → Prop
  | init {s : Session} {p : Option Instant} : Operates .init ⟨s, p⟩ ⟨s.act .init, p⟩
  | sample {s s' : Session} {p p' : Option Instant} (meanwhile : Samples ⟨s, p⟩ ⟨s', p'⟩) :
      Operates .sample ⟨s, p⟩ ⟨s'.act (.record s.clock.reading), p'⟩
  | restart {s s' : Session} {p p' : Option Instant} {duration : Int}
      (meanwhile : Samples ⟨s, p⟩ ⟨s', p'⟩) :
      Operates (.restart duration) ⟨s, p⟩ ⟨s'.act (.restart duration s.clock.reading), p'⟩
  | close {s s' : Session} {p : Option Instant} (meanwhile : Samples ⟨s.markClosed, p⟩ ⟨s', none⟩) :
      Operates .close ⟨s, p⟩ ⟨s'.act .close, none⟩
  | set {s : Session} {p : Option Instant} {reading : Instant} :
      Operates (.set reading) ⟨s, p⟩ ⟨{ s with clock := s.clock.set reading }, p⟩
  | advance {s : Session} {p : Option Instant} {span : Span} :
      Operates (.advance span) ⟨s, p⟩ ⟨{ s with clock := s.clock.advance span }, p⟩
  | rewind {s : Session} {p : Option Instant} {span : Span} :
      Operates (.rewind span) ⟨s, p⟩ ⟨{ s with clock := s.clock.rewind span }, p⟩
  | tick {f : Threads} : Operates .tick f f

/-- The owner observes the state, carries out the operations one after the other, and observes the
state again after each. Every operation that leaves the sampler running is followed by a whole
pass of it before the next observation; the sampler may make more passes at any time. -/
inductive Observes : Threads → List Event → List Session → Prop
  | done {f : Threads} : Observes f [] [f.session]
  | next {f g h k : Threads} {e : Event} {events : List Event} {states : List Session}
      (idle : Samples f g) (operation : Operates e g h) (wait : Samples h k)
      (pass : h.session.timer.sampling = true → Passes h k) (rest : Observes k events states) :
      Observes f (e :: events) (f.session :: states)

end Threads
end WallClock
