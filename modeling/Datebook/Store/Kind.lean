import Datebook.Json.Read

set_option autoImplicit false

namespace Datebook

inductive StoreKind where
  | inMemory
  | sqlite
  deriving DecidableEq

namespace StoreKind

open Json

def name : StoreKind → String
  | inMemory => "in-memory"
  | sqlite => "sqlite"

def ofName? (text : List Char) : Option StoreKind :=
  if text = inMemory.name.toList then some inMemory
  else if text = sqlite.name.toList then some sqlite
  else none

def read : Read StoreKind
  | .openObject :: .string kept skimmed :: rest => do
      let (kind, rest) ← readAccepted readText ofName? (.string kept skimmed :: rest)
      let rest ← expect .colon rest
      let ((), rest) ← readNull rest
      let rest ← expect .closeObject rest
      return (kind, rest)
  | .string kept skimmed :: rest => readAccepted readText ofName? (.string kept skimmed :: rest)
  | [] | [.openObject] => .error .cutShort
  | _ => .error .malformed
where
  expect (wanted : Lexeme) : List Token → Except Fault (List Token)
    | [] => .error .cutShort
    | token :: rest =>
        match token, wanted with
        | .colon, .colon | .closeObject, .closeObject => .ok rest
        | _, _ => .error .malformed

end StoreKind
end Datebook
