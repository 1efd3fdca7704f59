import WallClock.Binary64.Basic

/-! # Instants

An instant is a whole number of milliseconds since the beginning of 1970 in universal time, of
magnitude at most `Instant.maxMillis`, or the invalid instant. Instants are made from doubles
by cutting off the fraction (`Instant.ofMillis`), read back as doubles (`Instant.millis`), and
moved by adding doubles (`Instant.addMillis`); whatever leaves the range is invalid, and
arithmetic never brings it back. -/

namespace WallClock

/-- The largest distance from the beginning of 1970, in milliseconds. -/
def Instant.maxMillis : Nat := 8640000000000000

/-- A point in time with a resolution of one millisecond. -/
inductive Instant
  | invalid
  | valid (ms : Int) (bounded : ms.natAbs ≤ Instant.maxMillis)
  deriving DecidableEq

namespace Instant

def epoch : Instant := .valid 0 (Nat.zero_le _)

/-- The instant of a whole number of milliseconds; invalid out of range. -/
def ofInt (ms : Int) : Instant :=
  if h : ms.natAbs ≤ maxMillis then .valid ms h else .invalid

/-- The instant of a number of milliseconds, its fraction cut off towards zero. What is not a
finite number, or is out of range before the cut, gives the invalid instant. -/
def ofMillis : Binary64 → Instant
  | .finite negative units _ =>
    if units ≤ maxMillis * Binary64.unitsPerOne then
      ofInt (Binary64.signedUnits negative (units / Binary64.unitsPerOne))
    else .invalid
  | _ => .invalid

/-- The instant that the clock of a host shows, in milliseconds. A clock that is behind the
beginning of 1970 is taken to show nothing. -/
def ofHostClock (ms : Int) : Instant := if ms < 0 then .invalid else ofInt ms

/-- The milliseconds of an instant as a double; not a number for the invalid instant. -/
def millis : Instant → Binary64
  | invalid => .nan
  | valid ms _ => .ofInt ms

/-- The milliseconds of an instant, if it is valid. -/
def millis? : Instant → Option Int
  | invalid => none
  | valid ms _ => some ms

def isValid : Instant → Bool
  | invalid => false
  | valid _ _ => true

/-- Moves an instant by a number of milliseconds. -/
def addMillis (t : Instant) (delta : Binary64) : Instant := ofMillis (t.millis + delta)

/-- How two instants compare; an invalid one compares with nothing, not even itself. -/
def order? (a b : Instant) : Option Ordering :=
  match a, b with
  | valid x _, valid y _ => some (compare x y)
  | _, _ => none

/-- Whether two instants are the same point in time. -/
def sameTime (a b : Instant) : Bool := a.order? b == some .eq

def before (a b : Instant) : Bool := a.order? b == some .lt

instance : LT Instant := ⟨fun a b => a.before b⟩

instance : LE Instant := ⟨fun a b => a.before b ∨ a.sameTime b⟩

instance (a b : Instant) : Decidable (a < b) := inferInstanceAs (Decidable (a.before b = true))

instance (a b : Instant) : Decidable (a ≤ b) :=
  inferInstanceAs (Decidable (a.before b = true ∨ a.sameTime b = true))

/-- Cutting off a fraction keeps a magnitude within its bound. -/
theorem natAbs_signedUnits_div_le {negative : Bool} {units : Nat}
    (h : units ≤ maxMillis * Binary64.unitsPerOne) :
    (Binary64.signedUnits negative (units / Binary64.unitsPerOne)).natAbs ≤ maxMillis := by
  rw [Binary64.natAbs_signedUnits]
  exact Nat.div_le_of_le_mul (Nat.mul_comm _ _ ▸ h)

/-- A finite number within the bound always gives a valid instant. -/
theorem ofMillis_finite {negative : Bool} {units : Nat} {fits : Binary64.Fits units}
    (h : units ≤ maxMillis * Binary64.unitsPerOne) :
    ofMillis (.finite negative units fits) =
      .valid (Binary64.signedUnits negative (units / Binary64.unitsPerOne))
        (natAbs_signedUnits_div_le h) := by
  simp only [ofMillis, if_pos h, ofInt, dif_pos (natAbs_signedUnits_div_le h)]

end Instant
end WallClock
