import Datebook.Event.Json

set_option autoImplicit false

namespace Datebook

inductive TransportError where
  | notConnected
  | alreadySubscribed
  | database
  | refused
  deriving DecidableEq

-- What a database itself reports is not part of a message.
def TransportError.message? : TransportError → Option String
  | notConnected => some "transport is not connected"
  | alreadySubscribed => some "notify channel already taken"
  | database => none
  | refused => some "transport task failed: publish refused"

structure Message where
  seq : Int
  queue : String
  payload : Text.RawText
  deriving DecidableEq

/-- What the database still does: everything, everything but deleting rows, or nothing for want of
its table. -/
inductive BrokerState where
  | sound
  | undeletable
  | tableless
  deriving DecidableEq

structure Broker where
  rows : List Message
  lastSeq : Int
  state : BrokerState
  deriving DecidableEq

namespace Broker

def noticeQueue : String := "notification"

def empty : Broker := ⟨[], 0, .sound⟩

def opened (broker : Broker) : Broker :=
  match broker.state with
  | .tableless => empty
  | .sound | .undeletable => broker

def publishRaw (broker : Broker) (queue : String) (payload : Text.RawText) :
    Except TransportError Int × Broker :=
  match broker.state with
  | .tableless => (.error .database, broker)
  | .sound | .undeletable =>
      let seq := broker.lastSeq + 1
      (.ok seq, { broker with rows := broker.rows ++ [⟨seq, queue, payload⟩], lastSeq := seq })

def publish (broker : Broker) (queue : String) (notice : Notice) : Except TransportError Int × Broker :=
  broker.publishRaw queue (Text.RawText.ofChars notice.encode)

def waiting (broker : Broker) (queue : String) : List Message :=
  broker.rows.filter fun message => message.queue = queue

def peek (broker : Broker) (queue : String) : Except TransportError (Option Message) :=
  match broker.state with
  | .tableless => .error .database
  | .sound | .undeletable => .ok (broker.waiting queue).head?

def acknowledge (broker : Broker) (seq : Int) : Except TransportError Unit × Broker :=
  match broker.state with
  | .tableless => (.error .database, broker)
  | .undeletable =>
      if broker.rows.any fun message => message.seq = seq then (.error .database, broker)
      else (.ok (), broker)
  | .sound => (.ok (), { broker with rows := broker.rows.filter fun message => message.seq ≠ seq })

def depth (broker : Broker) (queue : String) : Except TransportError Nat :=
  match broker.state with
  | .tableless => .error .database
  | .sound | .undeletable => .ok (broker.waiting queue).length

def dropTable (broker : Broker) : Broker := { broker with rows := [], state := .tableless }

def forbidDeletes (broker : Broker) : Broker :=
  match broker.state with
  | .tableless => broker
  | .sound | .undeletable => { broker with state := .undeletable }

end Broker
end Datebook
