import Datebook.Store.Request

set_option autoImplicit false

namespace Datebook

structure Row where
  id : Int64
  user : Int64
  title : String
  description : String
  onTime : NanoCount
  offTime : NanoCount
  notifyTime : Option NanoCount
  notified : Bool
  deriving DecidableEq

def Row.toEvent (row : Row) : Event where
  id := row.id.toUInt64
  userId := row.user.toUInt64
  title := row.title
  description := row.description
  onTime := row.onTime.toInstant
  offTime := row.offTime.toInstant
  notifyTime := row.notifyTime.map NanoCount.toInstant
  notified := row.notified

structure Columns where
  user : Int64
  title : String
  description : String
  onTime : NanoCount
  offTime : NanoCount
  notifyTime : Option NanoCount

namespace Columns

def storedTime (time : Instant) : Except StoreError NanoCount :=
  match time.toNanoCount? with
  | none => .error (.timestampOutOfRange time)
  | some count => .ok count

def storedNotifyTime : Option Instant → Except StoreError (Option NanoCount)
  | none => .ok none
  | some time => (storedTime time).map some

-- Start, end and notification are tried in this order.
def ofEvent (event : Event) : Except StoreError Columns := do
  let onTime ← storedTime event.onTime
  let offTime ← storedTime event.offTime
  let notifyTime ← storedNotifyTime event.notifyTime
  return ⟨event.userId.toInt64, event.title, event.description, onTime, offTime, notifyTime⟩

def toRow (columns : Columns) (id : Int64) (notified : Bool) : Row where
  id
  user := columns.user
  title := columns.title
  description := columns.description
  onTime := columns.onTime
  offTime := columns.offTime
  notifyTime := columns.notifyTime
  notified

end Columns

structure Table where
  rows : List Row
  lastId : Int64
  deriving DecidableEq

namespace Table

def empty : Table := ⟨[], 0⟩

def comesBefore (left right : Row) : Bool :=
  decide (left.onTime.value < right.onTime.value)
    || decide (left.onTime = right.onTime) && decide (left.id ≤ right.id)

def select (table : Table) (condition : Row → Bool) : List Event :=
  (sorted comesBefore (table.rows.filter condition)).map Row.toEvent

def find? (table : Table) (id : Int64) : Option Row := table.rows.find? fun row => row.id = id

def insert (table : Table) (columns : Columns) : Int64 × Table :=
  let id := table.lastId + 1
  (id, ⟨table.rows ++ [columns.toRow id false], id⟩)

def change (table : Table) (id : Int64) (apply : Row → Row) : Table :=
  { table with rows := table.rows.map fun row => if row.id = id then apply row else row }

def deleteWhere (table : Table) (condition : Row → Bool) : Table :=
  { table with rows := table.rows.filter fun row => ! condition row }

def meets (first last : NanoCount) (row : Row) : Bool :=
  decide (row.onTime.value ≤ last.value) && decide (first.value ≤ row.offTime.value)

open Store in
/-- Bounds of queries that do not fit a column become the nearest one that does. -/
def answer (table : Table) : (request : Request) → request.Result × Table
  | .insert event =>
      match Columns.ofEvent event with
      | .error error => (.error error, table)
      | .ok columns =>
          if table.lastId = Int64.maxValue then (.error .database, table)
          else
            let (id, table) := table.insert columns
            (.ok id.toUInt64, table)
  | .update event =>
      match Columns.ofEvent event with
      | .error error => (.error error, table)
      | .ok columns =>
          match table.find? event.id.toInt64 with
          | none => (.error (.eventNotFound event.id), table)
          | some _ => (.ok (), table.change event.id.toInt64 fun row => columns.toRow row.id row.notified)
  | .delete id => (.ok (), table.deleteWhere fun row => row.id = id.toInt64)
  | .lookup id =>
      match table.find? id.toInt64 with
      | none => (.error (.eventNotFound id), table)
      | some row => (.ok row.toEvent, table)
  | .list userId => (.ok (table.select fun row => row.user = userId.toInt64), table)
  | .listRange userId first last =>
      (.ok (table.select fun row =>
        row.user = userId.toInt64 && meets first.toNanoCount last.toNanoCount row), table)
  | .checkFree except userId first last =>
      if table.rows.any fun row => row.id ≠ except.toInt64 && row.user = userId.toInt64
          && meets first.toNanoCount last.toNanoCount row then
        (.error .dateBusy, table)
      else (.ok (), table)
  | .listDue cutoff =>
      (.ok (table.select fun row => ! row.notified
        && row.notifyTime.any fun time => decide (time.value ≤ cutoff.toNanoCount.value)), table)
  | .purge cutoff =>
      let isStale (row : Row) : Bool := decide (row.offTime.value < cutoff.toNanoCount.value)
      (.ok (table.rows.countP isStale), table.deleteWhere isStale)
  | .markNotified id =>
      match table.find? id.toInt64 with
      | none => (.error (.eventNotFound id), table)
      | some _ => (.ok (), table.change id.toInt64 fun row => { row with notified := true })

end Table
end Datebook
