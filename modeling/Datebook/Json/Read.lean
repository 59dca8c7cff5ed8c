import Datebook.Json.Scan

set_option autoImplicit false

namespace Datebook.Json

abbrev Read (α : Type) := List Token → Except Fault (α × List Token)

/-- The fault of tokens that begin with a value of another type: the value has to be sound itself,
but of a list or an object only the bracket is looked at. -/
def mismatch : List Token → Fault
  | [] => .cutShort
  | .string (.error fault) _ :: _ => fault
  | .number (.error fault) _ :: _ => fault
  | .junk fault :: _ => fault
  | .closeObject :: _ | .closeList :: _ | .comma :: _ | .colon :: _ => .malformed
  | _ => .mismatched

def readText : Read (List Char)
  | .string (.ok text) _ :: rest => .ok (text, rest)
  | others => .error (mismatch others)

def readNatural : Read UInt64
  | .number (.ok (.natural value)) _ :: rest => .ok (value, rest)
  | others => .error (mismatch others)

def readBoolean : Read Bool
  | .boolean value :: rest => .ok (value, rest)
  | others => .error (mismatch others)

def readNull : Read Unit
  | .null :: rest => .ok ((), rest)
  | others => .error (mismatch others)

def readOptional {α : Type} (read : Read α) : Read (Option α)
  | .null :: rest => .ok (none, rest)
  | others => (read others).map fun (value, rest) => (some value, rest)

def readAccepted {α β : Type} (read : Read α) (accept? : α → Option β) : Read β := fun text => do
  let (value, rest) ← read text
  match accept? value with
  | some accepted => .ok (accepted, rest)
  | none => .error .mismatched

inductive Bracket where
  | list
  | object
  deriving DecidableEq

inductive Expecting where
  | item (orClose : Bool)
  | name (orClose : Bool)
  | colon
  | separator

/-- Skims one value. `opened` are the brackets around the current position, innermost first. -/
def skimAt : Expecting → List Bracket → List Token → Except Fault (List Token)
  | _, _, [] => .error .cutShort
  | .item orClose, opened, token :: rest =>
      match token with
      | .null | .boolean _ => leave opened rest
      | .string _ (.ok ()) | .number _ (.ok ()) => leave opened rest
      | .string _ (.error fault) | .number _ (.error fault) => .error fault
      | .openList => skimAt (.item true) (.list :: opened) rest
      | .openObject => skimAt (.name true) (.object :: opened) rest
      | .closeList => if orClose then leave opened.tail rest else .error .malformed
      | .junk fault => .error fault
      | .closeObject | .comma | .colon => .error .malformed
  | .name orClose, opened, token :: rest =>
      match token with
      | .string _ (.ok ()) => skimAt .colon opened rest
      | .string _ (.error fault) => .error fault
      | .closeObject => if orClose then leave opened.tail rest else .error .malformed
      | _ => .error .malformed
  | .colon, opened, token :: rest =>
      match token with
      | .colon => skimAt (.item false) opened rest
      | _ => .error .malformed
  | .separator, opened, token :: rest =>
      match token, opened with
      | .comma, .list :: _ => skimAt (.item false) opened rest
      | .comma, .object :: _ => skimAt (.name false) opened rest
      | .closeList, .list :: outer => leave outer rest
      | .closeObject, .object :: outer => leave outer rest
      | _, _ => .error .malformed
where
  leave (opened : List Bracket) (rest : List Token) : Except Fault (List Token) :=
    match opened with
    | [] => .ok rest
    | _ :: _ => skimAt .separator opened rest

def skim (text : List Token) : Except Fault (List Token) := skimAt (.item false) [] text

structure Member (α : Type) where
  name : String
  required : Bool
  read : α → Read α

structure Shape (α : Type) where
  members : List (Member α)
  blank : α
  shortList : Bool

namespace Shape

variable {α : Type} (shape : Shape α)

def find? (key : List Char) : Option (Member α) :=
  shape.members.find? fun member => member.name.toList = key

def readMembers : (steps : Nat) → (seen : List String) → (first : Bool) → α → Read α
  | 0, _, _, _, _ => .error .cutShort
  | _, _, _, _, [] => .error .cutShort
  | _ + 1, seen, _, value, .closeObject :: rest =>
      if shape.members.all fun member => ¬ member.required || seen.contains member.name then
        .ok (value, rest)
      else .error .mismatched
  | steps + 1, seen, first, value, .comma :: rest =>
      if first then .error .malformed else readMember steps seen value rest
  | steps + 1, seen, first, value, rest =>
      if first then readMember steps seen value rest else .error .malformed
where
  readMember (steps : Nat) (seen : List String) (value : α) : Read α
    | [] => .error .cutShort
    | .string (.error fault) _ :: _ => .error fault
    | .string (.ok key) _ :: rest =>
        match shape.find? key with
        | none => do readMembers steps seen false value (← skim (← pastColon rest))
        | some member =>
            if seen.contains member.name then .error .mismatched
            else do
              let (value, rest) ← member.read value (← pastColon rest)
              readMembers steps (member.name :: seen) false value rest
    | _ => .error .malformed
  pastColon : List Token → Except Fault (List Token)
    | [] => .error .cutShort
    | .colon :: rest => .ok rest
    | _ => .error .malformed

def readItems : List (Member α) → (first : Bool) → α → Read α
  | [], _, value, .closeList :: rest => .ok (value, rest)
  | _, _, _, [] => .error .cutShort
  | [], _, _, _ => .error .malformed
  | _ :: _, _, value, .closeList :: rest =>
      if shape.shortList then .ok (value, rest) else .error .mismatched
  | member :: others, first, value, .comma :: rest =>
      if first then readItem member others value (.comma :: rest)
      else
        match rest with
        | [] => .error .cutShort
        | .closeList :: _ => .error .malformed
        | _ => readItem member others value rest
  | member :: others, first, value, rest =>
      if first then readItem member others value rest else .error .malformed
where
  readItem (member : Member α) (others : List (Member α)) (value : α) : Read α := fun text => do
    let (value, rest) ← member.read value text
    readItems others false value rest

def read : Read α
  | .openObject :: rest => shape.readMembers rest.length [] true shape.blank rest
  | .openList :: rest => shape.readItems shape.members true shape.blank rest
  | others => .error (mismatch others)

end Shape

-- The value at the start of a text, whatever follows it.
def readFirst {α : Type} (read : Read α) (text : Text.RawText) : Except Fault α :=
  (read (tokens text)).map Prod.fst

def readWhole {α : Type} (read : Read α) (text : Text.RawText) : Except Fault α := do
  let (value, rest) ← read (tokens text)
  if rest.isEmpty then .ok value else .error .malformed

end Datebook.Json
