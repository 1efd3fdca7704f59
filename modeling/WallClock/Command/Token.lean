import WallClock.Text.Digits

/-! # Arguments by their form

An argument of a command line is an option by name, a group of one-letter options, the mark
that ends the options, or anything else. A name may come with a value behind an equals sign,
which may be empty. A single dash is no option. -/

namespace WallClock
namespace Command

/-- What the form of an argument says about it. -/
inductive Token
  /-- Two dashes: no options follow. -/
  | endOfOptions
  /-- Two dashes and a name, with the value behind the first equals sign. -/
  | long (name : List Char) (attached : Option (List Char))
  /-- One dash and one or more letters. -/
  | short (first : Char) (others : List Char)
  | plain
  deriving DecidableEq, Repr

/-- Splits what follows two dashes at the first equals sign. -/
def Token.ofName (cs : List Char) : Token :=
  match cs.dropWhile (· ≠ '=') with
  | [] => .long cs none
  | _ :: value => .long (cs.takeWhile (· ≠ '=')) (some value)

/-- The form of an argument. -/
def Token.ofText : List Char → Token
  | ['-', '-'] => .endOfOptions
  | '-' :: '-' :: name => .ofName name
  | '-' :: c :: cs => .short c cs
  | _ => .plain

/-- Whether a number can end here: at the end, or with an exponent. -/
def endsNumber : List Char → Bool
  | [] => true
  | c :: cs => (c = 'e' || c = 'E') && !cs.isEmpty && cs.all Char.isDigit

/-- Whether a text has the form of a number without a sign: digits, with a point behind the
first of them and an exponent where wanted. -/
def looksNumeric (cs : List Char) : Bool :=
  !(Text.leadingDigits cs).isEmpty &&
    match Text.afterDigits cs with
    | '.' :: more => endsNumber (Text.afterDigits more)
    | rest => endsNumber rest

/-- Whether an argument with the form of one-letter options could be a negative number. -/
def Token.isNegativeNumber : Token → Bool
  | .short first others => looksNumeric (first :: others)
  | _ => false

end Command
end WallClock
