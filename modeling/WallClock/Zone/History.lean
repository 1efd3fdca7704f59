import WallClock.Zone.Timeline

/-! # Histories of offsets

The history of a zone is written down as single changes and yearly rules. A rule stands for one
change in each of a range of years: on the last of some weekday of a month, or on the first
one on or after a day of the month, at a second counted from the beginning of that day in
universal time. The count is negative where local clocks, ahead of universal time, have begun
the day already.

`History.timeline` lays the changes of a history out in ascending order. -/

namespace WallClock

inductive Weekday
  | monday
  | tuesday
  | wednesday
  | thursday
  | friday
  | saturday
  | sunday
  deriving DecidableEq, Repr

/-- The position of a day in its week, which begins on Monday. -/
def Weekday.position : Weekday → Int
  | monday => 0
  | tuesday => 1
  | wednesday => 2
  | thursday => 3
  | friday => 4
  | saturday => 5
  | sunday => 6

/-- The position in its week of the day with a number; 1970 began on a Thursday. -/
def Calendar.weekPosition (day : Int) : Int := (day + 3) % 7

/-- A day of a month, given by a weekday. -/
inductive DayRule
  /-- The last such weekday of the month. -/
  | last (weekday : Weekday)
  /-- The first such weekday on or after a day of the month. -/
  | onOrAfter (weekday : Weekday) (day : Nat)
  deriving DecidableEq, Repr

/-- The number of the day that a rule picks in a month. -/
def DayRule.dayNumber (rule : DayRule) (year : Int) (month : Nat) : Int :=
  match rule with
  | last weekday =>
    let final := Date.dayNumber ⟨year, month, Calendar.monthLength year month⟩
    final - (Calendar.weekPosition final - weekday.position) % 7
  | onOrAfter weekday day =>
    let earliest := Date.dayNumber ⟨year, month, day⟩
    earliest + (weekday.position - Calendar.weekPosition earliest) % 7

/-- A change of offset in each of the years from `fromYear` to `toYear`. -/
structure YearlyRule where
  fromYear : Nat
  toYear : Nat
  month : Nat
  day : DayRule
  /-- When the change happens, in seconds from the beginning of the day. -/
  second : Int
  offset : Int
  deriving DecidableEq, Repr

/-- The changes that a rule stands for. -/
def YearlyRule.changes (rule : YearlyRule) : List Change :=
  (List.range (rule.toYear + 1 - rule.fromYear)).map fun k =>
    ⟨86400 * rule.day.dayNumber ((rule.fromYear + k : Nat) : Int) rule.month + rule.second,
      rule.offset⟩

/-- What is known of the offsets of a zone. -/
structure History where
  /-- The offset before all changes. -/
  first : Int
  singles : List Change
  rules : List YearlyRule
  deriving DecidableEq, Repr

namespace History

/-- Puts a change in front of the first later one; `rest` says what follows it there. -/
def place (c : Change) (rest : List Change → List Change) : List Change → List Change
  | [] => c :: rest []
  | d :: ds => if c.time ≤ d.time then c :: rest (d :: ds) else d :: place c rest ds

/-- Merges two ascending lists of changes. -/
def merge : List Change → List Change → List Change
  | [], ds => ds
  | c :: cs, ds => place c (merge cs) ds

/-- All changes of a history in ascending order. -/
def timeline (h : History) : Timeline :=
  ⟨h.first, h.rules.foldr (fun rule changes => merge rule.changes changes) h.singles⟩

end History
end WallClock
