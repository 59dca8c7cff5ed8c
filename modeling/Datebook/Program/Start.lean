import Datebook.Config
import Datebook.Program.Disk
import Datebook.Store.Link

set_option autoImplicit false

namespace Datebook

inductive Breakdown where
  | unreadable (path : String) (failure : ReadFailure)
  | unsuitable (path : String) (error : ConfigError)
  | storeUnavailable
  | cannotListen (address : String)
  | queueUnavailable (url : String)
  | tickFailed
  | periodTooLong

-- Whether a program breaks off without a report.
def Breakdown.isAbrupt : Breakdown → Bool
  | unsuitable _ error => error.isAbrupt
  | periodTooLong => true
  | _ => false

def Breakdown.message : Breakdown → String
  | unreadable path failure => s!"cannot read config {path}: {failure.message}"
  | unsuitable path _ => s!"invalid config {path}"
  | storeUnavailable => "failed to open Sqlite storage"
  | cannotListen address => s!"failed to bind {address}"
  | queueUnavailable url => s!"failed to open queue {url}"
  | tickFailed => "scheduler stopped on error"
  | periodTooLong => "overflow when adding duration to instant"

namespace Config

def load (program : Program) (path : String) (content : Except ReadFailure (List Char)) :
    Except Breakdown Config :=
  match content with
  | .error failure => .error (.unreadable path failure)
  | .ok text => (read program text).mapError (Breakdown.unsuitable path)

end Config

namespace Session

structure OpenStore where
  link : StoreLink
  path : Option FilePath

def openDatabase (medium : Medium) (table : Table) : Store :=
  .database ({ Database.create medium with table }.connect).2

def writes : List Operation :=
  [.insertEvent, .updateEvent, .deleteEvent, .purge, .markNotified]

-- A database that is only read refuses all that writes.
def linkTo (store : Store) (writable : Bool) : StoreLink :=
  if writable then .direct store else ⟨store, [], writes⟩

def openStore (directory : FilePath) (config : StoreConfig) (disk : Disk) : Option (OpenStore × Disk) :=
  match config.kind with
  | .inMemory => some (⟨.direct (.memory .empty), none⟩, disk)
  | .sqlite =>
      (disk.databasePlace? .events directory config.path).map fun place =>
        match place with
        | .ephemeral => (⟨.direct (openDatabase .ephemeral .empty), none⟩, disk)
        | .file path writable =>
            let table := disk.table path
            (⟨linkTo (openDatabase .file table) writable, some path⟩, disk.setTable path table)

def keepStore (path : Option FilePath) (store : Store) (disk : Disk) : Disk :=
  match path, store with
  | some path, .database database => disk.setTable path database.table
  | _, _ => disk

structure OpenQueue where
  endpoint : Endpoint
  writable : Bool

def openQueue (directory : FilePath) (url : String) (disk : Disk) : Option (OpenQueue × Disk) :=
  (disk.databasePlace? .queues directory url).map fun place =>
    let (path, writable) :=
      match place with
      | .ephemeral => ("", true)
      | .file path writable => (path.text, writable)
    let (endpoint, exchange) := (Endpoint.ofUrl path).connect disk.exchange
    (⟨endpoint, writable⟩, { disk with exchange })

end Session
end Datebook
