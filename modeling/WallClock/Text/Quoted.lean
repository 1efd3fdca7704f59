import WallClock.Text.Combining
import WallClock.Text.Ignorable
import WallClock.Text.Unprintable

/-! # Quoted text

A text between double quotes, in one line and without ambiguity. Quotes and backslashes get a
backslash; tab, carriage return, line feed and the null character have short escapes; and
other characters that would not be seen as themselves are written by their code point, as
`\u` with the hexadecimal digits in braces: those without a printed form, those drawn onto the
character before them, and those that a display may pass over. -/

namespace WallClock
namespace Text

/-- An escape by code point, in lower case digits without zeros in front. -/
def codePointEscape (c : Char) : List Char :=
  ['\\', 'u', '\x7b'] ++ Nat.toDigits 16 c.toNat ++ ['\x7d']

/-- Whether a character is not seen as itself. -/
def isUnseen (c : Char) : Bool := isUnprintable c || isCombining c || isIgnorable c

/-- How a character is written between quotes. -/
def escape (c : Char) : List Char :=
  if c = '"' then ['\\', '"']
  else if c = '\\' then ['\\', '\\']
  else if c = '\t' then ['\\', 't']
  else if c = '\r' then ['\\', 'r']
  else if c = '\n' then ['\\', 'n']
  else if c.toNat = 0 then ['\\', '0']
  else if isUnseen c then codePointEscape c
  else [c]

def quote (cs : List Char) : List Char := ['"'] ++ cs.flatMap escape ++ ['"']

end Text
end WallClock
