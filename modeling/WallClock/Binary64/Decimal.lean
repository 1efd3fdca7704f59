import WallClock.Binary64.Basic
import WallClock.Text.Digits

/-! # Doubles from decimal text

A literal is an optional sign followed by digits with an optional point (on one side of which
the digits may be missing) and an optional exponent, or by one of the words `inf`, `infinity`
and `nan` in any case. It denotes the double nearest to its exact decimal value. -/

namespace WallClock
namespace Binary64

/-- The double nearest to `digits * 10 ^ exponent`, with a minus sign when `negative` holds.

Powers of ten are raised only where the outcome depends on them: from `10 ^ 309` on everything
is too large, and below `10 ^ -324` everything is nearer to zero than to the smallest double. -/
def ofDecimal (negative : Bool) (digits : Nat) (exponent : Int) : Binary64 :=
  if digits = 0 then .finite negative 0 fits_zero
  else if 309 ≤ exponent then .infinite negative
  else if exponent + (digits.log2 + 1) ≤ -324 then .finite negative 0 fits_zero
  else if 0 ≤ exponent then ofQuotient negative (digits * Nat.pow 10 exponent.toNat * unitsPerOne) 1
  else ofQuotient negative (digits * unitsPerOne) (Nat.pow 10 (-exponent).toNat)

/-- Reads what follows the digits of a literal: nothing, or a power of ten. -/
def exponent? : List Char → Option Int
  | [] => some 0
  | c :: cs => if c = 'e' ∨ c = 'E' then Text.integer? cs else none

/-- Reads the digits of a literal and the power of ten that they are counted in. -/
def decimal? (cs : List Char) : Option (Nat × Int) :=
  let whole := Text.leadingDigits cs
  match Text.afterDigits cs with
  | '.' :: more =>
    let fraction := Text.leadingDigits more
    if whole.isEmpty && fraction.isEmpty then none
    else (exponent? (Text.afterDigits more)).map fun e =>
      (Text.digitsValue (whole ++ fraction), e - fraction.length)
  | rest =>
    if whole.isEmpty then none
    else (exponent? rest).map fun e => (Text.digitsValue whole, e)

/-- Reads a literal whose sign has been read. -/
def unsignedLiteral? (negative : Bool) (cs : List Char) : Option Binary64 :=
  let word := cs.map Char.toLower
  if word = ['i', 'n', 'f'] ∨ word = ['i', 'n', 'f', 'i', 'n', 'i', 't', 'y'] then
    some (.infinite negative)
  else if word = ['n', 'a', 'n'] then some .nan
  else (decimal? cs).map fun (digits, exponent) => ofDecimal negative digits exponent

def literal? : List Char → Option Binary64
  | '-' :: cs => unsignedLiteral? true cs
  | '+' :: cs => unsignedLiteral? false cs
  | cs => unsignedLiteral? false cs

end Binary64
end WallClock
