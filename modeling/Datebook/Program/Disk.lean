import Datebook.FinMap
import Datebook.Program.DatabaseName
import Datebook.Queue.Exchange
import Datebook.Store.Database

set_option autoImplicit false

namespace Datebook

abbrev FilePath := List String

namespace FilePath

def text (path : FilePath) : String := "/" ++ "/".intercalate path

def start (directory : FilePath) (text : String) : FilePath :=
  if text.startsWith "/" then [] else directory

def names (text : String) : List String := text.splitOn "/"

def greatestNameSize : Nat := 255

end FilePath

inductive ReadFailure where
  | missing
  | isDirectory
  | notDirectory
  | nameTooLong
  | notText
  deriving DecidableEq

def ReadFailure.message : ReadFailure → String
  | missing => "No such file or directory (os error 2)"
  | isDirectory => "Is a directory (os error 21)"
  | notDirectory => "Not a directory (os error 20)"
  | nameTooLong => "File name too long (os error 36)"
  | notText => "stream did not contain valid UTF-8"

structure Disk where
  directories : List FilePath
  texts : FinMap FilePath Text.RawText
  tables : FinMap FilePath Table
  exchange : Exchange

inductive DatabasePlace where
  | ephemeral
  | file (path : FilePath) (writable : Bool)
  deriving DecidableEq

inductive DatabaseUse where
  | events
  | queues
  deriving DecidableEq

namespace Disk

def empty (directories : List FilePath) : Disk := ⟨directories, .empty, .empty, .empty⟩

def address (path : FilePath) : Address := .file path.text

def isDirectory (disk : Disk) (path : FilePath) : Bool := disk.directories.contains path

def isText (disk : Disk) (path : FilePath) : Bool := (disk.texts.get? path).isSome

def holds (disk : Disk) (path : FilePath) : DatabaseUse → Bool
  | .events => (disk.tables.get? path).isSome
  | .queues => (disk.exchange.brokers.get? (address path)).isSome

def isDatabase (disk : Disk) (path : FilePath) : Bool := disk.holds path .events || disk.holds path .queues

def isThere (disk : Disk) (path : FilePath) : Bool :=
  disk.isDirectory path || disk.isText path || disk.isDatabase path

-- No name stands for the directory itself.
def enter (disk : Disk) (path : FilePath) (name : String) : Except ReadFailure FilePath :=
  if ¬ disk.isDirectory path then .error .notDirectory
  else if name = "" ∨ name = "." then .ok path
  else if name = ".." then .ok path.dropLast
  else if FilePath.greatestNameSize < name.utf8ByteSize then .error .nameTooLong
  else if disk.isThere (path ++ [name]) then .ok (path ++ [name])
  else .error .missing

def greatestTextSize : Nat := 4095

def follow (disk : Disk) (directory : FilePath) (text : String) : Except ReadFailure FilePath :=
  if greatestTextSize < text.utf8ByteSize then .error .nameTooLong
  else (FilePath.names text).foldlM disk.enter (FilePath.start directory text)

def read (disk : Disk) (directory : FilePath) (text : String) : Except ReadFailure (List Char) := do
  let path ← disk.follow directory text
  if disk.isDirectory path then .error .isDirectory
  else
    match (disk.texts.get? path).bind Text.RawText.chars? with
    | some characters => return characters
    | none => .error .notText

/-- The longest simplified path at any step, and at the end, when names of accompanying files have to
fit, too. -/
def greatestStepSize : Nat := 511

def greatestPathSize : Nat := 504

/-- The longest name of a new database, beside which a journal is kept for a while. -/
def greatestNewNameSize : Nat := 247

-- A step on the simplified path. What is not there is passed over.
def simplify? (disk : Disk) (path : FilePath) (name : String) : Option FilePath :=
  if name = "" ∨ name = "." then some path
  else if name = ".." then some path.dropLast
  else
    let next := path ++ [name]
    if greatestStepSize < next.text.utf8ByteSize then none
    else
      match next.foldlM disk.enter [] with
      | .ok _ | .error .missing => some next
      | .error _ => none

def hasRoomFor (disk : Disk) (path : FilePath) : Bool :=
  disk.isDirectory path.dropLast
    && path.getLast?.any fun name => name.utf8ByteSize ≤ greatestNewNameSize

/-- Whether a database can be opened. The table for its use is made if it is missing, which takes
write access. -/
def opens (disk : Disk) (wanted : DatabaseUse) (path : FilePath) (access : DatabaseAccess)
    (sharesMemory : Bool) : Bool :=
  if disk.isDirectory path ∨ disk.isText path ∨ greatestPathSize < path.text.utf8ByteSize then false
  else if disk.isDatabase path then
    sharesMemory && (access ≠ .readOnly || disk.holds path wanted)
  else access = .creating && disk.hasRoomFor path

def databasePlace? (disk : Disk) (wanted : DatabaseUse) (directory : FilePath) (name : String) :
    Option DatabasePlace :=
  match DatabaseName.read? name with
  | none => none
  | some .ephemeral => some .ephemeral
  | some (.file text access sharesMemory) =>
      match (FilePath.names text).foldlM disk.simplify? (FilePath.start directory text) with
      | none => none
      | some path =>
          if disk.opens wanted path access sharesMemory then some (.file path (access ≠ .readOnly))
          else none

def table (disk : Disk) (path : FilePath) : Table := (disk.tables.get? path).getD .empty

def setTable (disk : Disk) (path : FilePath) (table : Table) : Disk :=
  { disk with tables := disk.tables.put path table }

def broker (disk : Disk) (path : FilePath) : Broker := disk.exchange.broker (address path)

def setBroker (disk : Disk) (path : FilePath) (broker : Broker) : Disk :=
  { disk with exchange := disk.exchange.setBroker (address path) broker }

def addEvents (disk : Disk) (path : FilePath) (events : List Event) : Disk :=
  disk.setTable path <| events.foldl (fun table event => (table.answer (.insert event)).2) (disk.table path)

def findEvent (disk : Disk) (path : FilePath) (id : EventId) : Except StoreError Event :=
  ((disk.table path).answer (.lookup id)).1

def addNotices (disk : Disk) (path : FilePath) (notices : List Notice) : Disk :=
  disk.setBroker path <| notices.foldl (fun broker notice =>
    (broker.publish Broker.noticeQueue notice).2) (disk.broker path)

def waitingNotices? (disk : Disk) (path : FilePath) : Option (List Message) :=
  if disk.isDatabase path then some ((disk.broker path).waiting Broker.noticeQueue) else none

end Disk
end Datebook
