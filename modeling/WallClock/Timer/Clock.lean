import WallClock.Instant.Basic

/-! # Clocks that are moved by hand

A clock of this kind shows the same instant until it is set, or moved by a span of time. Only
the whole milliseconds of a span count, at every move anew. A clock that was moved out of the
range of instants shows the invalid one until it is set again. -/

namespace WallClock

structure Span where
  nanoseconds : Nat
  deriving DecidableEq, Repr

namespace Span

def ofMillis (n : Nat) : Span := ⟨n * 1000000⟩

def ofMicros (n : Nat) : Span := ⟨n * 1000⟩

def wholeMillis (s : Span) : Nat := s.nanoseconds / 1000000

end Span

/-- A clock that is moved by hand, with the instant that it shows. -/
structure Clock where
  reading : Instant
  deriving DecidableEq

namespace Clock

/-- A clock shows the beginning of 1970 at first. -/
instance : Inhabited Clock := ⟨⟨.epoch⟩⟩

/-- Makes the clock show an instant. -/
def set (_ : Clock) (reading : Instant) : Clock := ⟨reading⟩

def advance (c : Clock) (s : Span) : Clock := ⟨c.reading.addMillis (.ofInt s.wholeMillis)⟩

def rewind (c : Clock) (s : Span) : Clock := ⟨c.reading.addMillis (-.ofInt s.wholeMillis)⟩

end Clock
end WallClock
