import Datebook.Text.Blank
import Datebook.Text.Decimal
import Datebook.Time.Instant

set_option autoImplicit false

namespace Datebook

open Text

namespace StampReader

abbrev Read (α : Type) := List Char → Option (α × List Char)

def expect (wanted : Char) : List Char → Option (List Char)
  | [] => none
  | character :: rest => if character = wanted then some rest else none

def number (limit : Nat) : Read Nat := fun text =>
  match digitPrefix limit (skipBlank text) with
  | ([], _) => none
  | (digits, rest) => some (decimalValue digits, rest)

-- At most four digits, or a sign and any number of them.
def year : Read Int := fun text =>
  match skipBlank text with
  | '-' :: rest => signed rest (fun value => -value)
  | '+' :: rest => signed rest (fun value => value)
  | rest => (number 4 rest).map fun (value, after) => ((value : Int), after)
where
  signed (rest : List Char) (apply : Int → Int) : Option (Int × List Char) :=
    match digitPrefix rest.length rest with
    | ([], _) => none
    | (digits, after) => some (apply (decimalValue digits), after)

-- Nanoseconds after a point; digits beyond the ninth are dropped.
def fraction : Read Nat
  | '.' :: rest =>
      match digitPrefix 9 rest with
      | ([], _) => none
      | (digits, after) =>
          some (decimalValue digits * Nat.pow 10 (9 - digits.length), after.dropWhile Char.isDigit)
  | text => some (0, text)

def offsetMinutes : Read Nat
  | tens :: units :: rest =>
      match rest.dropWhile fun character => character = ':' || isBlank character with
      | minuteTens :: minuteUnits :: after =>
          if [tens, units, minuteTens, minuteUnits].all Char.isDigit && minuteTens < '6' then
            some (decimalValue [tens, units] * 60 + decimalValue [minuteTens, minuteUnits], after)
          else none
      | _ => none
  | _ => none

-- The zone as minutes east of UTC, less than a day either way.
def zone : Read Int
  | 'Z' :: rest | 'z' :: rest => some (0, rest)
  | text =>
      if (text.take 3).map Char.toUpper = ['U', 'T', 'C'] then some (0, text.drop 3)
      else
        match text with
        | '+' :: rest => east rest (fun minutes => minutes)
        | '-' :: rest | '−' :: rest => east rest (fun minutes => -minutes)
        | _ => none
where
  east (rest : List Char) (apply : Int → Int) : Option (Int × List Char) := do
    let (minutes, after) ← offsetMinutes rest
    if minutes < 1440 then some (apply minutes, after) else none

def separator : List Char → Option (List Char)
  | 'T' :: rest | 't' :: rest | ' ' :: rest => some rest
  | _ => none

end StampReader

open StampReader

/-- Second 60 is second 59 with a billion nanoseconds more, in any minute. -/
def Instant.ofFields? (date : Date) (hour minute second nanos : Nat) (offset : Int) : Option Instant :=
  if hour < 24 ∧ minute < 60 ∧ second ≤ 60 then
    let seconds := date.dayNumber * secondsPerDay + (hour * 3600 + minute * 60 + min second 59 : Nat)
    Instant.of? (seconds - offset * 60) (if second = 60 then nanos + 1000000000 else nanos)
  else none

def Instant.read? (text : List Char) : Option Instant := do
  let (year, rest) ← year text
  let rest ← expect '-' (skipBlank rest)
  let (month, rest) ← number 2 rest
  let rest ← expect '-' (skipBlank rest)
  let (day, rest) ← number 2 rest
  let rest ← separator rest
  let (hour, rest) ← number 2 rest
  let rest ← expect ':' (skipBlank rest)
  let (minute, rest) ← number 2 rest
  let rest ← expect ':' (skipBlank rest)
  let (second, rest) ← number 2 rest
  let (nanos, rest) ← fraction rest
  let (offset, rest) ← zone (skipBlank rest)
  if skipBlank rest = [] then
    Instant.ofFields? (← Date.of? year month day) hour minute second nanos offset
  else none

end Datebook
