import Datebook.Store

set_option autoImplicit false

namespace Datebook

inductive Operation where
  | insertEvent
  | updateEvent
  | deleteEvent
  | lookupEvent
  | listEvents
  | listEventsRange
  | checkFree
  | listDue
  | purge
  | markNotified
  | close
  deriving DecidableEq

namespace Operation

def name : Operation → String
  | insertEvent => "insert_event"
  | updateEvent => "update_event"
  | deleteEvent => "delete_event"
  | lookupEvent => "lookup_event"
  | listEvents => "list_events"
  | listEventsRange => "list_events_range"
  | checkFree => "is_busy_date_time_range"
  | listDue => "list_events_due_for_notice"
  | purge => "delete_events_older_than"
  | markNotified => "mark_notified"
  | close => "close"

def all : List Operation :=
  [insertEvent, updateEvent, deleteEvent, lookupEvent, listEvents, listEventsRange, checkFree,
    listDue, purge, markNotified, close]

def ofName? (name : String) : Option Operation := all.find? fun operation => operation.name = name

end Operation

def Store.Request.operation : Store.Request → Operation
  | insert _ => .insertEvent
  | update _ => .updateEvent
  | delete _ => .deleteEvent
  | lookup _ => .lookupEvent
  | list _ => .listEvents
  | listRange _ _ _ => .listEventsRange
  | checkFree _ _ _ _ => .checkFree
  | listDue _ => .listDue
  | purge _ => .purge
  | markNotified _ => .markNotified

structure StoreLink where
  store : Store
  stalled : List Operation
  refused : List Operation
  deriving DecidableEq

namespace StoreLink

def direct (store : Store) : StoreLink := ⟨store, [], []⟩

/-- How long a stalled operation waits, in milliseconds. -/
def stallTime : Nat := 30000

def delay (link : StoreLink) (operation : Operation) : Nat :=
  if link.stalled.contains operation then stallTime else 0

-- The answer to a request whose sender waits as long as it takes.
def answer (link : StoreLink) (request : Store.Request) : request.Result × StoreLink :=
  if link.refused.contains request.operation then
    (.error (.refused request.operation.name), link)
  else
    let (result, store) := link.store.answer request
    (result, { link with store })

def close (link : StoreLink) : Except StoreError Unit × StoreLink :=
  if link.refused.contains .close then (.error (.refused Operation.close.name), link)
  else (.ok (), { link with store := link.store.close })

end StoreLink
end Datebook
