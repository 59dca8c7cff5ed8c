import Datebook.Store.Table

set_option autoImplicit false

namespace Datebook

inductive Medium where
  | ephemeral
  | file
  | unopenable
  deriving DecidableEq

structure Database where
  medium : Medium
  table : Table
  connected : Bool
  deriving DecidableEq

namespace Database

def create (medium : Medium) : Database := ⟨medium, .empty, false⟩

def connect (database : Database) : Except StoreError Unit × Database :=
  match database.medium with
  | .ephemeral => (.ok (), { database with table := .empty, connected := true })
  | .file => (.ok (), { database with connected := true })
  | .unopenable => (.error .database, database)

def close (database : Database) : Database := { database with connected := false }

-- Instants that cannot be stored are found before the connection is asked for.
def precheck : Store.Request → Except StoreError Unit
  | .insert event | .update event => (Columns.ofEvent event).map fun _ => ()
  | _ => .ok ()

def answer (database : Database) (request : Store.Request) : request.Result × Database :=
  match precheck request with
  | .error error => (.error error, database)
  | .ok () =>
      if database.connected then
        let (result, table) := database.table.answer request
        (result, { database with table })
      else (.error .notConnected, database)

end Database
end Datebook
