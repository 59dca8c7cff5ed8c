import Datebook.Text.Decimal
import Datebook.Text.Hex

set_option autoImplicit false

namespace Datebook.Http.Host

open Text

def digitsOf? (base : Nat) (digits : List Char) : Option Nat :=
  if digits.isEmpty then none
  else if digits.all fun digit => (hexDigit? digit).any (· < base) then some (digitsInBase base digits)
  else none

-- A number in base ten, or after `0x` in base sixteen, or after a nought in base eight.
def number? : List Char → Option Nat
  | '0' :: 'x' :: digits | '0' :: 'X' :: digits => digitsOf? 16 digits
  | '0' :: digits => if digits.isEmpty then some 0 else digitsOf? 8 digits
  | digits => digitsOf? 10 digits

/-- One to four numbers, the last of which fills all bytes that are left. -/
def isShortAddress (host : List Char) : Bool :=
  match (host.splitOn '.').mapM number? with
  | none => false
  | some numbers =>
      numbers.length ≤ 4 && numbers.dropLast.all (· < 256)
        && numbers.getLast?.any (· < Nat.pow 256 (5 - numbers.length))

abbrev LongAddress := List Nat

def group? (digits : List Char) : Option Nat := if digits.length ≤ 4 then digitsOf? 16 digits else none

def byte? (digits : List Char) : Option Nat :=
  if digits.head? = some '0' ∧ digits ≠ ['0'] then none
  else (digitsOf? 10 digits).filter (· < 256)

def groups? : List (List Char) → Option LongAddress
  | [] => some []
  | [last] =>
      if last.contains '.' then
        match (last.splitOn '.').mapM byte? with
        | some [first, second, third, fourth] => some [first * 256 + second, third * 256 + fourth]
        | _ => none
      else (group? last).map ([·])
  | first :: rest => do return (← group? first) :: (← groups? rest)

def readGroups? (text : List Char) : Option LongAddress :=
  if text.isEmpty then some [] else groups? (text.splitOn ':')

def splitAtGap : List Char → List Char × Option (List Char)
  | [] => ([], none)
  | ':' :: ':' :: rest => ([], some rest)
  | character :: rest =>
      let (front, back) := splitAtGap rest
      (character :: front, back)

-- A gap stands for one group of noughts or more.
def longAddress? (text : List Char) : Option LongAddress :=
  match splitAtGap text with
  | (text, none) => (readGroups? text).filter fun groups => groups.length = 8
  | (front, some back) => do
      let first ← if front.contains '.' then none else readGroups? front
      let last ← readGroups? back
      let missing := 8 - (first.length + last.length)
      if missing = 0 then none else some (first ++ List.replicate missing 0 ++ last)

def isListenable (address : LongAddress) : Bool :=
  address.all (· = 0) || address.take 6 = [0, 0, 0, 0, 0, 0xFFFF]

-- A long address may stand in brackets.
def isLongAddress (host : List Char) : Bool :=
  let inner :=
    match host, host.reverse with
    | '[' :: rest, ']' :: _ => rest.dropLast
    | _, _ => host
  (longAddress? inner).any isListenable

def ownName : String := "localhost"

def canListen (host : String) : Bool :=
  isShortAddress host.toList || isLongAddress host.toList
    || host.toList.map Char.toLower = ownName.toList

end Datebook.Http.Host
