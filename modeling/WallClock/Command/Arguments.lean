import WallClock.Command.Token
import WallClock.Command.Value

/-! # Reading a command line

A command line is read from left to right, one argument at a time. Options may come before the
subcommand or after it, and each level has options of its own; the zone can be given at both.
An option may be given once at a level.

An option without an attached value takes the next argument, whatever its name is, unless that
looks like an option. The amounts of a shift take even that, and a negative number is taken
wherever one could be an operand. After the end of the options there are only operands. A value
that cannot be read is a mistake, like an argument that is out of place.

`Arguments.step` reads one argument, and `Arguments.read` all of them. An option that asks for
help or for the version takes effect at once, as does a mistake: what follows is not looked at.
Help can also be asked for by a word in place of a subcommand. A topic may come after it, and
nothing else. -/

namespace WallClock
namespace Command

/-- The options that take a value. -/
inductive Key
  | zone
  | start
  | days
  | hours
  | minutes
  | seconds
  | sampleMillis
  | pollMillis
  deriving DecidableEq, Repr

def Key.name : Key → List Char
  | zone => "tz".toList
  | start => "at".toList
  | days => "days".toList
  | hours => "hours".toList
  | minutes => "minutes".toList
  | seconds => "seconds".toList
  | sampleMillis => "sample-ms".toList
  | pollMillis => "poll-ms".toList

/-- Whether the value of an option may look like an option itself. -/
def Key.admitsDashes : Key → Bool
  | days | hours | minutes | seconds => true
  | zone | start | sampleMillis | pollMillis => false

/-- Whether a text can be read as the value of an option. -/
def Key.accepts : Key → List Char → Bool
  | days, cs | hours, cs | minutes, cs | seconds, cs => (amount? cs).isSome
  | sampleMillis, cs | pollMillis, cs => (interval? cs).isSome
  | zone, _ | start, _ => true

/-- What the program can be told to do. -/
inductive Subcommand
  | format
  | tz
  | wait
  deriving DecidableEq, Repr

namespace Subcommand

/-- The subcommand with a name; case matters. -/
def ofText? (cs : List Char) : Option Subcommand :=
  if cs = "format".toList then some format
  else if cs = "tz".toList then some tz
  else if cs = "wait".toList then some wait
  else none

def keys : Subcommand → List Key
  | format => [.zone, .start, .days, .hours, .minutes, .seconds]
  | tz => [.zone]
  | wait => [.zone, .sampleMillis, .pollMillis]

/-- The number of operands of a subcommand. They are durations, which may be negative. -/
def operandCount : Subcommand → Nat
  | format | tz => 0
  | wait => 1

end Subcommand

/-- What has been given on a command line. -/
structure Given where
  /-- The options before the subcommand. -/
  outer : List (Key × List Char)
  subcommand : Option Subcommand
  /-- The options after the subcommand. -/
  inner : List (Key × List Char)
  operands : List (List Char)
  deriving DecidableEq, Repr

namespace Given

def nothing : Given := ⟨[], none, [], []⟩

/-- The options that can be given at this point. -/
def keys (g : Given) : List Key := g.subcommand.elim [.zone] Subcommand.keys

/-- The option with a name, if it can be given at this point. -/
def key? (g : Given) (name : List Char) : Option Key := g.keys.find? fun key => key.name = name

/-- The options that have been given at this level. -/
def options (g : Given) : List (Key × List Char) :=
  match g.subcommand with
  | none => g.outer
  | some _ => g.inner

/-- Whether an option has been given at this level. -/
def has (g : Given) (key : Key) : Bool := (g.options.lookup key).isSome

/-- Adds an option to this level. -/
def add (g : Given) (key : Key) (value : List Char) : Given :=
  match g.subcommand with
  | none => { g with outer := g.outer ++ [(key, value)] }
  | some _ => { g with inner := g.inner ++ [(key, value)] }

/-- Whether an operand can be given at this point. -/
def awaitsOperand (g : Given) : Bool :=
  g.operands.length < g.subcommand.elim 0 Subcommand.operandCount

/-- The value of an option, that after the subcommand before that in front of it. -/
def value? (g : Given) (key : Key) : Option (List Char) :=
  (g.inner.lookup key).or (g.outer.lookup key)

def admits (g : Given) (key : Key) (arg : List Char) : Bool :=
  key.admitsDashes || Token.ofText arg == .plain ||
    (g.awaitsOperand && (Token.ofText arg).isNegativeNumber)

end Given

/-- How far the reading of a command line has come. -/
inductive Arguments
  | ready (given : Given)
  /-- The value of an option follows. -/
  | pending (given : Given) (key : Key)
  | trailing (given : Given)
  | version
  /-- Help is asked for by an option. -/
  | help
  /-- Help is asked for by a word; a topic may follow. -/
  | helpWord
  /-- Help on a topic is asked for; nothing may follow. -/
  | helpTopic
  | mistaken
  deriving DecidableEq, Repr

namespace Arguments

/-- The name of help, as an option and as a word. -/
def helpName : List Char := "help".toList

def operand (resume : Given → Arguments) (g : Given) (arg : List Char) : Arguments :=
  if g.awaitsOperand && (duration? arg).isSome
  then resume { g with operands := g.operands ++ [arg] }
  else .mistaken

def value (g : Given) (key : Key) (cs : List Char) : Arguments :=
  if key.accepts cs then .ready (g.add key cs) else .mistaken

/-- Reads an option by its name. -/
def long (g : Given) (name : List Char) (attached : Option (List Char)) : Arguments :=
  match g.key? name, attached with
  | some key, some cs => if g.has key then .mistaken else value g key cs
  | some key, none => if g.has key then .mistaken else .pending g key
  | none, some _ => .mistaken
  | none, none =>
    if name = helpName then .help
    else if name = "version".toList ∧ g.subcommand = none then .version
    else .mistaken

/-- Reads a group of one-letter options; the first of them decides. -/
def short (g : Given) (first : Char) : Arguments :=
  if first = 'h' then .help
  else if first = 'V' ∧ g.subcommand = none then .version
  else .mistaken

/-- Reads an argument that is no option. -/
def plain (g : Given) (arg : List Char) : Arguments :=
  match g.subcommand with
  | some _ => operand .ready g arg
  | none =>
    match Subcommand.ofText? arg with
    | some c => .ready { g with subcommand := some c }
    | none => if arg = helpName then .helpWord else .mistaken

/-- Reads what help is wanted on. -/
def topic (arg : List Char) : Arguments :=
  if arg = helpName ∨ (Subcommand.ofText? arg).isSome then .helpTopic else .mistaken

def step : Arguments → List Char → Arguments
  | .ready g, arg =>
    match Token.ofText arg with
    | .endOfOptions => .trailing g
    | .long name attached => long g name attached
    | .short first others =>
      if g.awaitsOperand && looksNumeric (first :: others) then operand .ready g arg
      else short g first
    | .plain => plain g arg
  | .pending g key, arg => if g.admits key arg then value g key arg else .mistaken
  | .trailing g, arg => operand .trailing g arg
  | .helpWord, arg => topic arg
  | .helpTopic, _ => .mistaken
  | stopped, _ => stopped

def read (args : List String) : Arguments :=
  args.foldl (fun state arg => step state arg.toList) (.ready .nothing)

end Arguments
end Command
end WallClock
