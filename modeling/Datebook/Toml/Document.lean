import Datebook.Toml.Scalar

set_option autoImplicit false

namespace Datebook.Toml

open Text Text.Reader

def comment : Reader Unit := do
  exactly '#'
  let _ ← run isPlain

-- White space, line breaks and comments between the items of a list.
def filler : Reader Unit := do
  spaces
  let _ ← repeated do
    let _ ← optional comment
    lineBreak
    spaces

def list (item : Reader Value) : Reader Value := do
  exactly '['
  let items ← separated
    (do
      filler
      let found ← item
      filler
      return found)
    (exactly ',')
  unless items.isEmpty do
    let _ ← optional (exactly ',')
  filler
  exactly ']'
  return .list items

structure Assignment where
  path : KeyPath
  value : Value

def assignment (item : Reader Value) : Reader Assignment := do
  let path ← keyPath
  exactly '='
  spaces
  let value ← item
  return ⟨path, value⟩

def Entries.assign? (entries : Entries) (assignment : Assignment) : Option Entries :=
  entries.defineDotted? assignment.value assignment.path.parents assignment.path.key

def Entries.assignAll? (entries : Entries) (assignments : List Assignment) : Option Entries :=
  assignments.foldlM Entries.assign? entries

def inlineTable (item : Reader Value) : Reader Value := do
  exactly '\x7b'
  let assignments ← separated
    (do
      let found ← assignment item
      spaces
      return found)
    (exactly ',')
  spaces
  exactly '\x7d'
  match Entries.assignAll? [] assignments with
  | some entries => return .table .inline entries
  | none => failure

def value : (depth : Nat) → Reader Value
  | 0 => scalar
  | depth + 1 => scalar <|> list (value depth) <|> inlineTable (value depth)

def depthLimit : Nat := 79

inductive Header where
  | table (path : KeyPath)
  | item (path : KeyPath)

inductive Line where
  | blank
  | header (header : Header)
  | assignment (assignment : Assignment)

def lineEnd : Reader Unit := lineBreak <|> atEnd

def trailing : Reader Unit := do
  spaces
  let _ ← optional comment
  lineEnd

def header : Reader Header :=
  (do
    literal ['[', '[']
    let path ← keyPath
    literal [']', ']']
    trailing
    return .item path)
  <|> do
    exactly '['
    let path ← keyPath
    exactly ']'
    trailing
    return .table path

def line : Reader Line :=
  (do
    comment
    lineEnd
    return .blank)
  <|> (do
    lineBreak
    return .blank)
  <|> Line.header <$> header
  <|> do
    let found ← assignment (value depthLimit)
    trailing
    return .assignment found

-- A byte order mark may come first.
def lines : Reader (List Line) := do
  let _ ← optional (exactly '\uFEFF')
  spaces
  let found ← repeated do
    let found ← line
    spaces
    return found
  atEnd
  return found

def assignmentsOf : List Line → List Assignment
  | [] | .header _ :: _ => []
  | .blank :: rest => assignmentsOf rest
  | .assignment found :: rest => found :: assignmentsOf rest

def Entries.underHeader? (entries : Entries) (header : Header) (assignments : List Assignment) :
    Option Entries :=
  let fill (inner : Entries) : Option Entries := inner.assignAll? assignments
  match header with
  | .table path => entries.changeWithin? (Entries.openTable? fill path.key) path.parents
  | .item path => entries.changeWithin? (Entries.openItem? fill path.key) path.parents

def Entries.underHeaders? : List Line → Entries → Option Entries
  | [], entries => some entries
  | .header found :: rest, entries =>
      (entries.underHeader? found (assignmentsOf rest)).bind (underHeaders? rest)
  | .blank :: rest, entries | .assignment _ :: rest, entries => underHeaders? rest entries

def readDocument (text : List Char) : Option Entries :=
  match lines text with
  | some (found, []) => (Entries.assignAll? [] (assignmentsOf found)).bind (Entries.underHeaders? found)
  | _ => none

end Datebook.Toml
