set_option autoImplicit false

namespace Datebook.Text.Terminal

inductive Place where
  | ground
  | escape
  -- After the escape character and marks of a two-part sequence.
  | marked
  | control
  -- In front of a string for the device.
  | header
  -- In a string that is not shown.
  | string
  -- In a command for the terminal's surroundings, such as a title.
  | command
  deriving DecidableEq

def isWhite (character : Char) : Bool := " \t\n\r\x0c".toList.contains character

/-- A byte that ends hidden strings, which may be one of the later bytes of a character. -/
def stringEnd : UInt8 := 0x9C

def next (place : Place) (character : Char) : Place :=
  let code := character.toNat
  if 0x80 ≤ code then
    if place = .string ∧ (String.utf8EncodeChar character).contains stringEnd then .ground else place
  else
    match place with
    | .ground => .ground
    | .escape =>
        if character = '[' then .control
        else if character = ']' then .command
        else if character = 'P' then .header
        else if character = 'X' ∨ character = '^' ∨ character = '_' then .string
        else if 0x30 ≤ code ∧ code < 0x7F then .ground
        else if 0x20 ≤ code ∧ code < 0x30 then .marked
        else .escape
    | .marked => if 0x30 ≤ code ∧ code < 0x7F then .ground else .marked
    | .control => if 0x40 ≤ code ∧ code < 0x7F then .ground else .control
    | .header => if 0x40 ≤ code ∧ code < 0x7F then .string else .header
    | .string => .string
    | .command => if code = 7 then .ground else .command

-- White space is carried out at once, except in strings.
def isShown (place : Place) (character : Char) : Bool :=
  match place with
  | .ground => isWhite character || (0x20 ≤ character.toNat && character.toNat ≠ 0x7F)
  | .escape | .marked | .control => isWhite character && character ≠ ' '
  | .header | .string | .command => false

-- What is shown ends the sequence that it stands in.
def plainFrom : Place → List Char → List Char
  | _, [] => []
  | place, character :: rest =>
      if isShown place character then character :: plainFrom .ground rest
      else if character = '\x1b' then plainFrom .escape rest
      else if character = '\x18' ∨ character = '\x1a' then plainFrom .ground rest
      else plainFrom (next place character) rest

def plain (text : String) : String := String.ofList (plainFrom .ground text.toList)

end Datebook.Text.Terminal
