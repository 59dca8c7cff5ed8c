import Datebook.Text.Decimal
import Datebook.Text.Unshown

set_option autoImplicit false

namespace Datebook.Text

def codeEscape (character : Char) : List Char :=
  ['\\', 'u', '\x7b'] ++ Nat.toDigits 16 character.toNat ++ ['\x7d']

def quotedCharacter (character : Char) : List Char :=
  if character = '\x00' then ['\\', '0']
  else if character = '\t' then ['\\', 't']
  else if character = '\r' then ['\\', 'r']
  else if character = '\n' then ['\\', 'n']
  else if character = '"' ∨ character = '\\' then ['\\', character]
  else if isUnshown character then codeEscape character
  else [character]

def quoted (text : List Char) : List Char := '"' :: text.flatMap quotedCharacter ++ ['"']

end Datebook.Text
