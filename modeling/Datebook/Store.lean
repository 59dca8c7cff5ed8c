import Datebook.Store.Memory
import Datebook.Store.Task

set_option autoImplicit false

namespace Datebook

inductive Store where
  | memory (store : MemoryStore)
  | database (database : Database)
  deriving DecidableEq

namespace Store

def connect : Store → Except StoreError Unit × Store
  | memory store => (.ok (), memory store)
  | database inner =>
      let (result, inner) := inner.connect
      (result, database inner)

def close : Store → Store
  | memory store => memory store
  | database inner => database inner.close

def answer (store : Store) (request : Request) : request.Result × Store :=
  match store with
  | memory inner =>
      let (result, inner) := inner.answer request
      (result, memory inner)
  | database inner =>
      let (result, inner) := inner.answer request
      (result, database inner)

/-- What a request leaves behind whose caller gives up at once. A store in memory has answered by
then, in a database the task has not yet got the connection. -/
def abandon (store : Store) (request : Request) : Store :=
  match store with
  | memory inner => memory (inner.answer request).2
  | database inner =>
      match StoreTask.start request with
      | .error _ => database inner
      | .ok task => database (task.giveUp.run inner).2

end Store
end Datebook
