import WallClock.Binary64.Decimal
import WallClock.Text.Digits

/-! # Values on a command line

Amounts are read as doubles, a duration as a signed number of 64 bits, and an interval as an
unsigned one. -/

namespace WallClock
namespace Command

/-- An amount of a shift. -/
def amount? (cs : List Char) : Option Binary64 := Binary64.literal? cs

/-- A duration in milliseconds, of 64 bits. -/
def duration? (cs : List Char) : Option Int :=
  (Text.integer? cs).filter fun n => -9223372036854775808 ≤ n ∧ n ≤ 9223372036854775807

/-- An interval in milliseconds, of 64 bits. -/
def interval? (cs : List Char) : Option Nat :=
  (Text.unsigned? cs).filter fun n => n ≤ 18446744073709551615

end Command
end WallClock
