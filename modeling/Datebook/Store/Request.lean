import Datebook.Event.Basic
import Datebook.Sorted

set_option autoImplicit false

namespace Datebook

inductive StoreError where
  | eventNotFound (id : EventId)
  | dateBusy
  | notConnected
  | timestampOutOfRange (time : Instant)
  | database
  | refused (operation : String)
  deriving DecidableEq

namespace Store

inductive Request where
  | insert (event : Event)
  /-- Replaces the event of the same id, but keeps whether it was notified. -/
  | update (event : Event)
  | delete (id : EventId)
  | lookup (id : EventId)
  | list (userId : UserId)
  | listRange (userId : UserId) (first last : Instant)
  /-- Fails when an event of the user other than `except` overlaps `[first, last]`. -/
  | checkFree (except : EventId) (userId : UserId) (first last : Instant)
  | listDue (cutoff : Instant)
  | purge (cutoff : Instant)
  | markNotified (id : EventId)
  deriving DecidableEq

@[reducible] def Request.Answer : Request → Type
  | insert _ => EventId
  | lookup _ => Event
  | list _ | listRange _ _ _ | listDue _ => List Event
  | purge _ => Nat
  | update _ | delete _ | checkFree _ _ _ _ | markNotified _ => Unit

abbrev Request.Result (request : Request) : Type := Except StoreError request.Answer

instance : (request : Request) → DecidableEq request.Answer
  | .insert _ => inferInstanceAs (DecidableEq UInt64)
  | .lookup _ => inferInstanceAs (DecidableEq Event)
  | .list _ | .listRange _ _ _ | .listDue _ => inferInstanceAs (DecidableEq (List Event))
  | .purge _ => inferInstanceAs (DecidableEq Nat)
  | .update _ | .delete _ | .checkFree _ _ _ _ | .markNotified _ => inferInstanceAs (DecidableEq Unit)

end Store

namespace Event

-- Lists are ordered by start, then by id.
def comesBefore (left right : Event) : Bool :=
  decide (left.onTime < right.onTime) || decide (left.onTime = right.onTime) && decide (left.id ≤ right.id)

def sort (events : List Event) : List Event := sorted comesBefore events

end Event
end Datebook
