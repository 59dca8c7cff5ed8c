import Datebook.Text.Hex

set_option autoImplicit false

namespace Datebook.Pattern

open Text

structure Place where
  groups : Nat
  classes : Nat
  -- Whether a class has just begun, so that a closing bracket is one of its members.
  classBegins : Bool
  -- Whether something stands in front that may be repeated.
  repeatable : Bool

def Place.start : Place := ⟨0, 0, false, false⟩

def Place.item (place : Place) : Place := { place with classBegins := false, repeatable := true }

def isEscape (inClass : Bool) (letter : Char) : Bool :=
  "dDsSwWafnrtv".toList.contains letter || (! inClass && (letter = 'A' || letter = 'z'))
    || (letter.toNat < 128 && ! letter.isAlphanum && letter ≠ '<' && letter ≠ '>' && 32 < letter.toNat)

def inClass (place : Place) (letter : Char) : Place :=
  if letter = '[' then { place with classes := place.classes + 1, classBegins := true }
  else if letter = '^' && place.classBegins then place
  else if letter = ']' && ! place.classBegins then { place with classes := place.classes - 1 }.item
  else place.item

def outside? (place : Place) (letter : Char) : Option Place :=
  if letter = '(' then some { place with groups := place.groups + 1, repeatable := false }
  else if letter = ')' then
    if place.groups = 0 then none else some { place with groups := place.groups - 1 }.item
  else if letter = '[' then some { place with classes := 1, classBegins := true }
  else if letter = '|' then some { place with repeatable := false }
  else if letter = '*' || letter = '+' || letter = '?' then
    if place.repeatable then some place else none
  else if letter = '\x7b' then none
  else some place.item

def soundFrom : Place → List Char → Bool
  | place, [] => place.groups = 0 && place.classes = 0
  | _, ['\\'] => false
  | place, '\\' :: letter :: rest => isEscape (0 < place.classes) letter && soundFrom place.item rest
  | place, letter :: rest =>
      if 0 < place.classes then soundFrom (inClass place letter) rest
      else
        match outside? place letter with
        | none => false
        | some place => soundFrom place rest

-- A number with a plus sign is no regular expression, but it is a value.
def isSound : List Char → Bool
  | '+' :: digits => ! digits.isEmpty && digits.all fun digit => digit.isDigit || digit = '.'
  | text => soundFrom .start text

end Datebook.Pattern
