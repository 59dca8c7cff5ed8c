set_option autoImplicit false

namespace Datebook.Text

abbrev Reader (α : Type) := StateT (List Char) Option α

namespace Reader

variable {α β : Type}

def character (accepts : Char → Bool) : Reader Char
  | [] => none
  | first :: rest => if accepts first then some (first, rest) else none

def exactly (wanted : Char) : Reader Unit := do
  let _ ← character fun found => found = wanted

def literal : List Char → Reader Unit
  | [] => pure ()
  | first :: rest => do
      exactly first
      literal rest

def atEnd : Reader Unit
  | [] => some ((), [])
  | _ :: _ => none

def run (accepts : Char → Bool) : Reader (List Char) := fun text =>
  some (text.takeWhile accepts, text.dropWhile accepts)

def nonemptyRun (accepts : Char → Bool) : Reader (List Char) := do
  let first ← character accepts
  let others ← run accepts
  return first :: others

def ahead (reader : Reader α) : Reader Unit := fun text => (reader text).map fun _ => ((), text)

def repeatedWithin (reader : Reader α) : (times : Nat) → List Char → List α × List Char
  | 0, text => ([], text)
  | times + 1, text =>
      match reader text with
      | none => ([], text)
      | some (item, rest) =>
          let (items, rest) := repeatedWithin reader times rest
          (item :: items, rest)

/-- As often as it goes, for a reader that takes at least one character each time. -/
def repeated (reader : Reader α) : Reader (List α) := fun text =>
  some (repeatedWithin reader text.length text)

def repeatedOnce (reader : Reader α) : Reader (List α) := do
  let first ← reader
  let others ← repeated reader
  return first :: others

def separatedOnce (reader : Reader α) (separator : Reader β) : Reader (List α) := do
  let first ← reader
  let others ← repeated do
    let _ ← separator
    reader
  return first :: others

def separated (reader : Reader α) (separator : Reader β) : Reader (List α) :=
  separatedOnce reader separator <|> pure []

def accepted (reader : Reader α) (value? : α → Option β) : Reader β := do
  let found ← reader
  match value? found with
  | some value => pure value
  | none => failure

end Reader
end Datebook.Text
