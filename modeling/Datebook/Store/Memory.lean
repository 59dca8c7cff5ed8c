import Datebook.FinMap
import Datebook.Store.Request

set_option autoImplicit false

namespace Datebook

structure MemoryStore where
  records : FinMap EventId Event
  byUser : FinMap UserId (List EventId)
  nextId : EventId
  deriving DecidableEq

namespace MemoryStore

def empty : MemoryStore := ⟨.empty, .empty, 1⟩

def size (store : MemoryStore) : Nat := store.records.size

def idsOf (store : MemoryStore) (userId : UserId) : List EventId :=
  (store.byUser.get? userId).getD []

def eventsOf (store : MemoryStore) (userId : UserId) : List Event :=
  (store.idsOf userId).filterMap store.records.get?

def addToIndex (index : FinMap UserId (List EventId)) (userId : UserId) (id : EventId) :
    FinMap UserId (List EventId) :=
  index.put userId ((index.get? userId).getD [] ++ [id])

-- Takes an id out of a list; the last one moves into its place.
def swapRemove : List EventId → EventId → List EventId
  | [], _ => []
  | first :: rest, id =>
      if first = id then
        match rest.getLast? with
        | none => []
        | some last => last :: rest.dropLast
      else first :: swapRemove rest id

theorem swapRemove_perm (ids : List EventId) (id : EventId) : (swapRemove ids id).Perm (ids.erase id) := by
  induction ids with
  | nil => exact .refl _
  | cons first rest ih =>
      by_cases same : first = id
      · subst same
        simp only [swapRemove, if_true, List.erase_cons_head]
        cases last : rest.getLast? with
        | none => simp [List.getLast?_eq_none_iff.mp last]
        | some final =>
            obtain ⟨init, rfl⟩ := List.getLast?_eq_some_iff.mp last
            simpa using (List.perm_append_singleton final init).symm
      · simpa [swapRemove, same] using ih

-- A user whose last event is gone has no entry.
def removeFromIndex (index : FinMap UserId (List EventId)) (userId : UserId) (id : EventId) :
    FinMap UserId (List EventId) :=
  match index.get? userId with
  | none => index
  | some ids =>
      match swapRemove ids id with
      | [] => index.erase userId
      | rest => index.put userId rest

def insert (store : MemoryStore) (event : Event) : EventId × MemoryStore :=
  let id := store.nextId
  (id, {
    records := store.records.put id { event with id, notified := false }
    byUser := addToIndex store.byUser event.userId id
    nextId := id + 1 })

def update (store : MemoryStore) (event old : Event) : MemoryStore :=
  { store with
    records := store.records.put event.id { event with notified := old.notified }
    byUser :=
      if old.userId = event.userId then store.byUser
      else addToIndex (removeFromIndex store.byUser old.userId event.id) event.userId event.id }

def remove (store : MemoryStore) (id : EventId) : MemoryStore :=
  match store.records.get? id with
  | none => store
  | some event =>
      { store with
        records := store.records.erase id
        byUser := removeFromIndex store.byUser event.userId id }

def stale (store : MemoryStore) (cutoff : Instant) : List EventId :=
  (store.records.values.filter fun event => decide (event.offTime < cutoff)).map Event.id

open Store in
def answer (store : MemoryStore) : (request : Request) → request.Result × MemoryStore
  | .insert event =>
      let (id, store) := store.insert event
      (.ok id, store)
  | .update event =>
      match store.records.get? event.id with
      | none => (.error (.eventNotFound event.id), store)
      | some old => (.ok (), store.update event old)
  | .delete id => (.ok (), store.remove id)
  | .lookup id =>
      match store.records.get? id with
      | none => (.error (.eventNotFound id), store)
      | some event => (.ok event, store)
  | .list userId => (.ok (Event.sort (store.eventsOf userId)), store)
  | .listRange userId first last =>
      (.ok (Event.sort ((store.eventsOf userId).filter fun event => event.overlaps first last)), store)
  | .checkFree except userId first last =>
      if (store.eventsOf userId).any fun event => event.id ≠ except && event.overlaps first last then
        (.error .dateBusy, store)
      else (.ok (), store)
  | .listDue cutoff =>
      (.ok (Event.sort (store.records.values.filter fun event => event.isDue cutoff)), store)
  | .purge cutoff =>
      let stale := store.stale cutoff
      (.ok stale.length, stale.foldl remove store)
  | .markNotified id =>
      match store.records.get? id with
      | none => (.error (.eventNotFound id), store)
      | some event =>
          (.ok (), { store with records := store.records.put id { event with notified := true } })

end MemoryStore
end Datebook
