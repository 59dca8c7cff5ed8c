import Datebook.Config.Error
import Datebook.Store.Kind

set_option autoImplicit false

namespace Datebook.Config

abbrev ReadValue (α : Type) := Toml.Value → Except ConfigError α

def readString : ReadValue String
  | .string text => .ok (String.ofList text)
  | other => .error (.wrongType other "a string")

def readPort : ReadValue Nat
  | .integer number =>
      if 0 ≤ number ∧ number ≤ 65535 then .ok number.toNat else .error (.portOutOfRange number)
  | other => .error (.wrongType other "u16")

def readSpan : ReadValue TimeSpan
  | .string text =>
      match TimeSpan.read text with
      | .error error => .error (.span error)
      | .ok span => if span.nanoseconds = 0 then .error .zeroSpan else .ok span
  | other => .error (.wrongType other "a string")

def storeNamed (name : List Char) : Except ConfigError StoreKind :=
  match StoreKind.ofName? name with
  | some kind => .ok kind
  | none => .error (.unknownStore name)

def readNothing : ReadValue Unit
  | .table _ [] | .list [] | .tables [] => .ok ()
  | .table _ (_ :: _) | .list (_ :: _) => .error .storeWithEntries
  | .tables (_ :: _) => .error .storeWithItems
  | other => .error (.storeWithScalar other)

def readStore : ReadValue StoreKind
  | .string name => storeNamed name
  | .table _ [] => .error .noStoreKey
  | .table _ [(name, value)] => do
      let kind ← storeNamed name
      readNothing value
      return kind
  | .table _ (_ :: _ :: _) => .error .severalStoreKeys
  | _ => .error .storeNotNamed

structure Field (σ : Type) where
  name : String
  apply : Toml.Value → σ → Except ConfigError σ

def Field.of {σ α : Type} (name : String) (read : ReadValue α) (put : α → σ → σ) : Field σ :=
  ⟨name, fun value section' => (read value).map fun found => put found section'⟩

def applyEntry {σ : Type} (fields : List (Field σ)) (known : σ) (entry : Toml.Key × Toml.Value) :
    Except ConfigError σ :=
  match fields.find? fun field => field.name = String.ofList entry.1 with
  | some field => field.apply entry.2 known
  | none => .ok known

-- Values beyond the last field are passed over.
def applyInOrder {σ : Type} (fields : List (Field σ)) (known : σ) (values : List Toml.Value) :
    Except ConfigError σ :=
  (fields.zip values).foldlM (fun known (field, value) => field.apply value known) known

-- A date or time is a table without any of the keys.
def readSection {σ : Type} (title : String) (fields : List (Field σ)) (known : σ) : ReadValue σ
  | .table _ entries => entries.foldlM (applyEntry fields) known
  | .dateTime => .ok known
  | .list values => applyInOrder fields known values
  | .tables items => applyInOrder fields known (items.map (.table .header))
  | other => .error (.wrongType other ("struct " ++ title))

end Datebook.Config
