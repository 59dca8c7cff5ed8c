import Datebook.Log.Entry
import Datebook.Log.Pattern
import Datebook.Text.Blank
import Datebook.Text.Decimal
import Datebook.Text.Letter

set_option autoImplicit false

namespace Datebook

structure FieldTest where
  name : List Char
  valued : Bool
  deriving DecidableEq

structure Directive where
  source : Option (List Char)
  span : Option (List Char)
  field : Option FieldTest
  highest : Nat
  deriving DecidableEq

namespace Directive

open Text

def levelNames : List (String × Nat) :=
  [("off", 0), ("error", 1), ("warn", 2), ("info", 3), ("debug", 4), ("trace", 5)]

def everything : Nat := 5

def levelNumber? (text : List Char) : Option Nat :=
  let digits :=
    match text with
    | '+' :: rest => rest
    | _ => text
  let number := decimalValue digits
  if digits.isEmpty ∨ ¬ digits.all Char.isDigit ∨ everything < number then none else some number

def level? (text : List Char) : Option Nat :=
  (levelNumber? text).orElse fun () => levelNames.lookup (String.ofList (text.map Char.toLower))

def mayBegin (character : Char) : Bool :=
  isLetterOrDigit character || "-:_[".toList.contains character

/-- A directive as it is written, and its outline, which is the same without the blanks around it.
Where a part begins and how long it is, is found in the outline, but its text is taken from what is
written, so blanks in front set off every part. -/
structure Draft where
  written : List Char
  outline : List Char

namespace Draft

def of (written : List Char) : Draft :=
  ⟨written, (skipBlank (skipBlank written).reverse).reverse⟩

def part (draft : Draft) (first count : Nat) : List Char := (draft.written.drop first).take count

def seek (draft : Draft) (first : Nat) (marks : List Char) : Nat × Option Char :=
  let (found, rest) := (draft.outline.drop first).span (! marks.contains ·)
  (found.length, rest.head?)

def readLevel? (draft : Draft) (first : Nat) (directive : Directive) : Option Directive :=
  match draft.outline.drop first with
  | [] => some directive
  | '=' :: _ =>
      match draft.written.drop (first + 1) with
      | [] => some directive
      | level => (level? level).map fun highest => { directive with highest }
  | _ => none

def fieldTest? (text : List Char) : Option FieldTest :=
  match text.span (· ≠ '=') with
  | ([], []) => none
  | (name, []) => some ⟨name, false⟩
  | (name, _ :: value) =>
      if Pattern.isSound (value.takeWhile (· ≠ '=')) then some ⟨name, true⟩ else none

def readField? (draft : Draft) (first : Nat) (directive : Directive) : Option Directive :=
  match draft.seek first ['\x7d'] with
  | (_, none) => none
  | (count, some _) =>
      if (draft.outline.drop (first + count + 1)).head? = some ']' then
        (fieldTest? (draft.part first count)).bind fun field =>
          draft.readLevel? (first + count + 2) { directive with field := some field }
      else none

-- What is between brackets that are open there. A span without a name is one only if nothing else
-- is between them.
def readSpan? (draft : Draft) (first : Nat) (directive : Directive) : Option Directive :=
  match draft.seek first [']', '\x7b'] with
  | (_, none) => none
  | (count, some mark) =>
      let name := draft.part first count
      if mark = ']' then draft.readLevel? (first + count + 1) { directive with span := some name }
      else
        draft.readField? (first + count + 1)
          { directive with span := if name.isEmpty then none else some name }

def read? (draft : Draft) : Option Directive :=
  if ¬ draft.outline.head?.any mayBegin then none
  else
    match draft.seek 0 ['=', '['] with
    | (_, none) =>
        match level? draft.written with
        | some highest => some ⟨none, none, none, highest⟩
        | none => some ⟨some draft.written, none, none, everything⟩
    | (count, some mark) =>
        let source := if count = 0 then none else some (draft.part 0 count)
        let directive : Directive := ⟨source, none, none, everything⟩
        if mark = '=' then draft.readLevel? count directive else draft.readSpan? (count + 1) directive

end Draft

def read? (text : List Char) : Option Directive := (Draft.of text).read?

def judgesEntries (directive : Directive) : Bool :=
  directive.span.isNone && ! directive.field.any FieldTest.valued

def fits (directive : Directive) (entry : LogEntry) : Bool :=
  directive.judgesEntries && directive.source.all (·.isPrefixOf entry.source.toList)
    && directive.field.all fun field => entry.hasField (String.ofList field.name)

def isNotAfter : List Char → List Char → Bool
  | [], _ => true
  | _ :: _, [] => false
  | left :: lefts, right :: rights =>
      if left = right then isNotAfter lefts rights else left.toNat < right.toNat

/-- Of two directives that fit the same entry, the one with the longer source says more, then the one
with a field, then the one whose field has the later name. -/
def saysNoMoreThan (left right : Directive) : Bool :=
  let length (directive : Directive) : Nat := (directive.source.map List.length).getD 0
  if length left = length right then
    match left.field, right.field with
    | none, _ => true
    | some _, none => false
    | some left, some right => isNotAfter left.name right.name
  else length left < length right

end Directive
end Datebook
