import Datebook.Text.Blank
import Datebook.Time.Span

set_option autoImplicit false

namespace Datebook

inductive SpanError where
  | empty
  | numberExpected (offset : Nat)
  | invalidCharacter (offset : Nat)
  | unitNeeded (count : Nat)
  | unknownUnit (unit : List Char)
  | outOfRange
  -- Subseconds added up to one second exactly, and the count of seconds was full.
  | fullSeconds
  deriving DecidableEq

namespace SpanError

def message : SpanError → String
  | empty => "value was empty"
  | numberExpected offset => s!"expected number at {offset}"
  | invalidCharacter offset => s!"invalid character at {offset}"
  | unitNeeded count => s!"time unit needed, for example {count}sec or {count}ms"
  | unknownUnit unit =>
      "unknown time unit \"" ++ String.ofList unit ++ "\", supported units: ns, us/µs, ms, sec, min, "
        ++ "hours, days, weeks, months, years (and few variations)"
  | outOfRange =>
      "number is too large or cannot be represented without a lack of precision "
        ++ "(values below 1ns are not supported)"
  | fullSeconds => "overflow in Duration::new"

end SpanError

inductive SpanUnit where
  | nanosecond
  | microsecond
  | millisecond
  | second
  | minute
  | hour
  | day
  | week
  | month
  | year
  deriving DecidableEq

namespace SpanUnit

/-- A month is a twelfth of a year, and a year has 365 days and a quarter. -/
def nanoseconds : SpanUnit → Nat
  | nanosecond => 1
  | microsecond => 1000
  | millisecond => 1000000
  | second => 1000000000
  | minute => 60 * 1000000000
  | hour => 3600 * 1000000000
  | day => 86400 * 1000000000
  | week => 604800 * 1000000000
  | month => 2630016 * 1000000000
  | year => 31557600 * 1000000000

def names : SpanUnit → List String
  | nanosecond => ["nanos", "nsec", "ns"]
  | microsecond => ["usec", "us", "µs"]
  | millisecond => ["millis", "msec", "ms"]
  | second => ["seconds", "second", "secs", "sec", "s"]
  | minute => ["minutes", "minute", "min", "mins", "m"]
  | hour => ["hours", "hour", "hrs", "hr", "h"]
  | day => ["days", "day", "d"]
  | week => ["weeks", "week", "wks", "wk", "w"]
  | month => ["months", "month", "M"]
  | year => ["years", "year", "yrs", "yr", "y"]

def all : List SpanUnit :=
  [nanosecond, microsecond, millisecond, second, minute, hour, day, week, month, year]

def ofName? (name : List Char) : Option SpanUnit :=
  all.find? fun unit => unit.names.contains (String.ofList name)

def wholeGrain (unit : SpanUnit) : Nat := if unit.nanoseconds < 1000000000 then 1 else 1000000000

-- The grain in which a fraction of a unit is computed and that it has to hit. Nanoseconds have no
-- fractions.
def fractionGrain? : SpanUnit → Option Nat
  | nanosecond => none
  | microsecond | millisecond | second | minute => some 1
  | hour | day | week | month | year => some 1000000000

end SpanUnit

structure SpanFraction where
  numerator : Nat
  denominator : Nat
  deriving DecidableEq

namespace TimeSpan

open Text

def wordLimit : Nat := 18446744073709551615

def bounded (number : Nat) : Except SpanError Nat :=
  if number ≤ wordLimit then .ok number else .error .outOfRange

def plus (total : TimeSpan) (grains : Nat) (grain : Nat) : Except SpanError TimeSpan := do
  let sum : TimeSpan := ⟨total.nanoseconds + grains * grain⟩
  let subseconds ← if grain = 1 then bounded (total.subseconds + grains) else .ok 0
  if sum.seconds ≤ wordLimit then return sum
  else .error (if subseconds = 1000000000 then .fullSeconds else .outOfRange)

def plusCount (total : TimeSpan) (unit : SpanUnit) (count : Nat) (fraction : Option SpanFraction) :
    Except SpanError TimeSpan := do
  let grains ← bounded (count * (unit.nanoseconds / unit.wholeGrain))
  let total ← total.plus grains unit.wholeGrain
  match fraction with
  | none => return total
  | some fraction =>
      match unit.fractionGrain? with
      | none => .error .outOfRange
      | some grain =>
          let grains ← bounded (fraction.numerator * (unit.nanoseconds / grain))
          if grains % fraction.denominator = 0 then total.plus (grains / fraction.denominator) grain
          else .error .outOfRange

/-- The place in the text: before a count (since an offset), in its whole digits, in its fraction
(with the offset to be blamed if something is wrong there), or in the unit. -/
inductive SpanPlace where
  | seeking (since : Nat)
  | whole (count : Nat)
  | fraction (count : Nat) (part : SpanFraction) (blamed : Nat)
  | unit (count : Nat) (part : Option SpanFraction) (letters : List Char)

structure SpanProgress where
  offset : Nat
  total : Option TimeSpan
  place : SpanPlace

def isUnitLetter (character : Char) : Bool := character.isAlpha || character = 'µ'

def digitValue (character : Char) : Nat := character.toNat - 48

def addSpan (total : Option TimeSpan) (count : Nat) (part : Option SpanFraction) (letters : List Char) :
    Except SpanError (Option TimeSpan) :=
  match SpanUnit.ofName? letters with
  | none => .error (if letters.isEmpty then .unitNeeded count else .unknownUnit letters)
  | some unit => (TimeSpan.plusCount (total.getD ⟨0⟩) unit count part).map some

def place (total : Option TimeSpan) (before after : Nat) (character : Char) :
    SpanPlace → Except SpanError (Option TimeSpan × SpanPlace)
  | .seeking since =>
      if character.isDigit then .ok (total, .whole (digitValue character))
      else if isBlank character then .ok (total, .seeking since)
      else .error (.numberExpected since)
  | .whole count => do
      if character.isDigit then
        return (total, .whole (← bounded (count * 10 + digitValue character)))
      else if isBlank character then return (total, .whole count)
      else if isUnitLetter character then return (total, .unit count none [character])
      else if character = '.' then return (total, .fraction count ⟨0, 1⟩ before)
      else .error (.invalidCharacter before)
  | .fraction count part blamed => do
      if character.isDigit then
        let denominator ← bounded (part.denominator * 10)
        let numerator ← bounded (part.numerator * 10 + digitValue character)
        return (total, .fraction count ⟨numerator, denominator⟩ after)
      else if isBlank character then return (total, .fraction count part after)
      else if isUnitLetter character ∧ part.denominator ≠ 1 then
        return (total, .unit count (some part) [character])
      else .error (.invalidCharacter blamed)
  | .unit count part letters => do
      if character.isDigit then
        return (← addSpan total count part letters, .whole (digitValue character))
      else if isBlank character then return (← addSpan total count part letters, .seeking after)
      else if isUnitLetter character then return (total, .unit count part (letters ++ [character]))
      else .error (.invalidCharacter before)

def advance (progress : SpanProgress) (character : Char) : Except SpanError SpanProgress := do
  let after := progress.offset + character.utf8Size
  let (total, place) ← place progress.total progress.offset after character progress.place
  return ⟨after, total, place⟩

def finish (progress : SpanProgress) : Except SpanError TimeSpan :=
  match progress.place with
  | .seeking _ =>
      match progress.total with
      | none => .error .empty
      | some total => .ok total
  | .whole count => .error (.unitNeeded count)
  | .fraction count part blamed =>
      if part.denominator = 1 then .error (.invalidCharacter blamed) else .error (.unitNeeded count)
  | .unit count part letters => (addSpan progress.total count part letters).map (·.getD ⟨0⟩)

-- A nought may stand alone; all other counts have units.
def read (text : List Char) : Except SpanError TimeSpan :=
  if text = ['0'] then .ok ⟨0⟩ else (text.foldlM advance ⟨0, none, .seeking 0⟩).bind finish

end TimeSpan
end Datebook
