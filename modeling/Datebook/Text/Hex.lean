set_option autoImplicit false

namespace Datebook.Text

def hexDigit? (character : Char) : Option Nat :=
  if character.isDigit then some (character.toNat - 48)
  else if 'a' ≤ character ∧ character ≤ 'f' then some (character.toNat - 87)
  else if 'A' ≤ character ∧ character ≤ 'F' then some (character.toNat - 55)
  else none

-- The value of digits of a base; a character that is no digit counts for nothing.
def digitsInBase (base : Nat) (digits : List Char) : Nat :=
  digits.foldl (fun value digit => value * base + (hexDigit? digit).getD 0) 0

end Datebook.Text
