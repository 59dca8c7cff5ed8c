import Datebook.Text.Double

set_option autoImplicit false

namespace Datebook.Toml

abbrev Key := List Char

inductive Origin where
  | inline
  | header
  | implied
  | dotted
  deriving DecidableEq

inductive Value where
  | string (text : List Char)
  | integer (number : Int)
  | float (number : Text.Double)
  | boolean (value : Bool)
  | dateTime
  | list (items : List Value)
  | table (origin : Origin) (entries : List (Key × Value))
  | tables (items : List (List (Key × Value)))

abbrev Entries := List (Key × Value)

namespace Entries

def find? (entries : Entries) (key : Key) : Option Value :=
  (List.find? (fun entry => entry.1 = key) entries).map Prod.snd

def add (entries : Entries) (key : Key) (value : Value) : Entries := entries ++ [(key, value)]

def replace (entries : Entries) (key : Key) (value : Value) : Entries :=
  entries.map fun entry => if entry.1 = key then (key, value) else entry

def remove (entries : Entries) (key : Key) : Entries := entries.filter fun entry => entry.1 ≠ key

def define? (entries : Entries) (key : Key) (value : Value) : Option Entries :=
  match entries.find? key with
  | some _ => none
  | none => some (entries.add key value)

def changeLast? (change : Entries → Option Entries) : List Entries → Option (List Entries)
  | [] => none
  | [last] => (change last).map fun changed => [changed]
  | first :: rest => (changeLast? change rest).map (first :: ·)

/-- Gives a value to a dotted key. The table that holds it has to be open to dotted keys, and a table
with a header of its own is not even passed through. -/
def defineDotted? (value : Value) : (parents : List Key) → (key : Key) → Entries → Option Entries
  | [], key, entries => entries.define? key value
  | parent :: parents, key, entries =>
      match entries.find? parent with
      | none => (defineDotted? value parents key []).map fun inner => entries.add parent (.table .dotted inner)
      | some (.table .dotted inner) => step parent parents key entries (.table .dotted) inner
      | some (.table .implied inner) =>
          if parents.isEmpty then none else step parent parents key entries (.table .implied) inner
      | some (.tables items) =>
          if parents.isEmpty then none
          else (changeLast? (defineDotted? value parents key) items).map fun items =>
            entries.replace parent (.tables items)
      | some _ => none
where
  step (parent : Key) (parents : List Key) (key : Key) (entries : Entries) (rebuild : Entries → Value)
      (inner : Entries) : Option Entries :=
    (defineDotted? value parents key inner).map fun inner => entries.replace parent (rebuild inner)

-- Changes the table in which a header opens another; those on the way that are missing are implied.
def changeWithin? (change : Entries → Option Entries) : (parents : List Key) → Entries → Option Entries
  | [], entries => change entries
  | parent :: parents, entries =>
      match entries.find? parent with
      | none => (changeWithin? change parents []).map fun inner => entries.add parent (.table .implied inner)
      | some (.table .inline _) => none
      | some (.table origin inner) =>
          (changeWithin? change parents inner).map fun inner => entries.replace parent (.table origin inner)
      | some (.tables items) =>
          (changeLast? (changeWithin? change parents) items).map fun items =>
            entries.replace parent (.tables items)
      | some _ => none

-- Opens a table and fills it. One that was only implied so far moves to the end.
def openTable? (fill : Entries → Option Entries) (key : Key) (entries : Entries) : Option Entries :=
  match entries.find? key with
  | none => (fill []).map fun inner => entries.add key (.table .header inner)
  | some (.table .implied inner) =>
      (fill inner).map fun inner => (entries.remove key).add key (.table .header inner)
  | some _ => none

def openItem? (fill : Entries → Option Entries) (key : Key) (entries : Entries) : Option Entries :=
  match entries.find? key with
  | none => (fill []).map fun inner => entries.add key (.tables [inner])
  | some (.tables items) => (fill []).map fun inner => entries.replace key (.tables (items ++ [inner]))
  | some _ => none

end Entries
end Datebook.Toml
