import Datebook.Text.Decimal

/-!
The tokens of JSON text, and the lexemes that this library writes.

Text is judged by its first problem, and which problem comes first depends on whether a value is
kept or only skimmed. A string or number token therefore holds the outcome of either reading.
-/

set_option autoImplicit false

namespace Datebook.Json

/-- What is wrong with a text, by its first problem: it ends inside a value, it is not JSON, or it
is JSON so far but not the value that was asked for. -/
inductive Fault where
  | cutShort
  | malformed
  | mismatched
  deriving DecidableEq

inductive Number where
  | natural (value : UInt64)
  | negative (value : Int)
  | other
  deriving DecidableEq

inductive Token where
  | openObject
  | closeObject
  | openList
  | closeList
  | comma
  | colon
  | null
  | boolean (value : Bool)
  | string (kept : Except Fault (List Char)) (skimmed : Except Fault Unit)
  | number (kept : Except Fault Number) (skimmed : Except Fault Unit)
  | junk (fault : Fault)

inductive Lexeme where
  | openObject
  | closeObject
  | openList
  | closeList
  | comma
  | colon
  | null
  | boolean (value : Bool)
  | string (value : List Char)
  | natural (value : UInt64)
  deriving DecidableEq

namespace Lexeme

def token : Lexeme → Token
  | openObject => .openObject
  | closeObject => .closeObject
  | openList => .openList
  | closeList => .closeList
  | comma => .comma
  | colon => .colon
  | null => .null
  | boolean value => .boolean value
  | string value => .string (.ok value) (.ok ())
  | natural value => .number (.ok (.natural value)) (.ok ())

def writeCharacter (character : Char) : List Char :=
  if character = '"' then ['\\', '"']
  else if character = '\\' then ['\\', '\\']
  else if character.toNat = 8 then ['\\', 'b']
  else if character.toNat = 9 then ['\\', 't']
  else if character.toNat = 10 then ['\\', 'n']
  else if character.toNat = 12 then ['\\', 'f']
  else if character.toNat = 13 then ['\\', 'r']
  else if character.toNat < 32 then
    ['\\', 'u', '0', '0', Nat.digitChar (character.toNat / 16), Nat.digitChar (character.toNat % 16)]
  else [character]

def write : Lexeme → List Char
  | openObject => ['\x7b']
  | closeObject => ['\x7d']
  | openList => ['[']
  | closeList => [']']
  | comma => [',']
  | colon => [':']
  | null => ['n', 'u', 'l', 'l']
  | boolean true => ['t', 'r', 'u', 'e']
  | boolean false => ['f', 'a', 'l', 's', 'e']
  | string value => '"' :: value.flatMap writeCharacter ++ ['"']
  | natural value => Text.decimal value.toNat

end Lexeme

def write (lexemes : List Lexeme) : List Char := lexemes.flatMap Lexeme.write

def separated : List (List Lexeme) → List Lexeme
  | [] => []
  | [item] => item
  | item :: next :: rest => item ++ .comma :: separated (next :: rest)

def objectOf (members : List (String × List Lexeme)) : List Lexeme :=
  .openObject :: separated (members.map fun (name, value) => .string name.toList :: .colon :: value)
    ++ [.closeObject]

def listOf (items : List (List Lexeme)) : List Lexeme :=
  .openList :: separated items ++ [.closeList]

end Datebook.Json
