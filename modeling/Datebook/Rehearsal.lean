import Datebook.Http.Router
import Datebook.Loop.Relay
import Datebook.Loop.Timetable

set_option autoImplicit false

namespace Datebook

structure Rehearsal where
  link : StoreLink
  outbox : List Notice
  exchange : Exchange
  queue : Address
  deriving DecidableEq

namespace Rehearsal

def queuePath : String := "queue"

def create (link : StoreLink) (queueInFile : Bool) : Rehearsal :=
  let (queue, exchange) :=
    if queueInFile then Exchange.empty.openPath queuePath else Exchange.empty.openEphemeral
  ⟨link, [], exchange, queue⟩

def connectStore (rehearsal : Rehearsal) : Except StoreError Unit × Rehearsal :=
  let (result, store) := rehearsal.link.store.connect
  (result, { rehearsal with link := { rehearsal.link with store } })

def closeStore (rehearsal : Rehearsal) : Rehearsal :=
  { rehearsal with link := { rehearsal.link with store := rehearsal.link.store.close } }

def ask (rehearsal : Rehearsal) (request : Store.Request) : request.Result × Rehearsal :=
  let (result, store) := rehearsal.link.store.answer request
  (result, { rehearsal with link := { rehearsal.link with store } })

def abandon (rehearsal : Rehearsal) (request : Store.Request) : Rehearsal :=
  { rehearsal with link := { rehearsal.link with store := rehearsal.link.store.abandon request } }

def call (rehearsal : Rehearsal) (call : Service.Call) :
    Except ServiceError call.Answer × Rehearsal :=
  let (result, link) := Service.perform call rehearsal.link
  (result, { rehearsal with link })

def closeService (rehearsal : Rehearsal) : Except ServiceError Unit × Rehearsal :=
  let (result, link) := Service.close rehearsal.link
  (result, { rehearsal with link })

def handle (rehearsal : Rehearsal) (request : Http.Request) : Http.Response × Rehearsal :=
  let (response, link) := Http.handle request rehearsal.link
  (response, { rehearsal with link })

inductive ProducerKind where
  | outbox
  | queue
  | queueByPath
  | closed
  | unconnected
  deriving DecidableEq

def scheduler (rehearsal : Rehearsal) (kind : ProducerKind) (allowance : Option Nat) : Scheduler :=
  let (producer, exchange) :=
    match kind with
    | .outbox => (.outbox, rehearsal.exchange)
    | .queue =>
        let (endpoint, exchange) := (Endpoint.ofQueue rehearsal.queue).connect rehearsal.exchange
        (.queue endpoint, exchange)
    | .queueByPath =>
        let (endpoint, exchange) := (Endpoint.ofUrl queuePath).connect rehearsal.exchange
        (.queue endpoint, exchange)
    | .closed => (.queue (Endpoint.ofQueue rehearsal.queue).close, rehearsal.exchange)
    | .unconnected => (.queue (Endpoint.ofUrl queuePath), rehearsal.exchange)
  ⟨rehearsal.link, producer, allowance, rehearsal.outbox, exchange, []⟩

def afterScheduler (rehearsal : Rehearsal) (scheduler : Scheduler) : Rehearsal :=
  { rehearsal with link := scheduler.link, outbox := scheduler.outbox, exchange := scheduler.exchange }

def collect (rehearsal : Rehearsal) : List Notice × Rehearsal :=
  (rehearsal.outbox, { rehearsal with outbox := [] })

def broker (rehearsal : Rehearsal) : Broker := rehearsal.exchange.broker rehearsal.queue

def setBroker (rehearsal : Rehearsal) (broker : Broker) : Rehearsal :=
  { rehearsal with exchange := rehearsal.exchange.setBroker rehearsal.queue broker }

def onBroker {α : Type} (rehearsal : Rehearsal) (use : Broker → α × Broker) : α × Rehearsal :=
  let (result, broker) := use rehearsal.broker
  (result, rehearsal.setBroker broker)

-- A queue in memory is opened anew, a file is opened again.
def reopenQueue (rehearsal : Rehearsal) : Rehearsal :=
  let (queue, exchange) :=
    match rehearsal.queue with
    | .file path => rehearsal.exchange.openPath path
    | .ephemeral _ => rehearsal.exchange.openEphemeral
  { rehearsal with queue, exchange }

def pollInterval : Nat := 100

-- How long delivery is left alone until it waits for others.
def settleTime : Nat := 5000

def sendTime : Nat := 20000

def sendFromChannel (rehearsal : Rehearsal) (notices : List Notice) (taken stopped : Bool) :
    Except TransportError Sender.Progress × Sender × Rehearsal :=
  let watch := if stopped then Watch.start.request else Watch.start
  let wakes := notices.map (⟨watch, .notice ·⟩) ++ [⟨watch, .closed⟩]
  let (result, sender) := (Sender.start rehearsal.link).run taken wakes
  (result, sender, { rehearsal with link := sender.link })

/-- The sender on a consumer of the queue of the deployment or, by path, of the queue file, which has
come to rest before. What lies in the channel when the sender stops is lost. -/
def sendFromQueue (rehearsal : Rehearsal) (byPath stopped : Bool) : Sender × Rehearsal :=
  let (queue, exchange) :=
    if byPath then rehearsal.exchange.openPath queuePath else (rehearsal.queue, rehearsal.exchange)
  let relay := (Relay.start pollInterval (exchange.broker queue)).runUntil settleTime
  let relay := relay.attach (.start rehearsal.link)
  let relay := if stopped then relay else (relay.runUntil (settleTime + sendTime)).finishMark
  let sender := ((relay.sender.getD (.start rehearsal.link)).closeConsumer).closeStore
  (sender, { rehearsal with
    exchange := exchange.setBroker queue relay.delivery.broker
    link := sender.link })

structure Observation where
  -- The notices taken one after another, if there were any, with the depth after each.
  taken : List (Option Notice × Except TransportError Nat)
  dropped : Option (Except TransportError Nat)
  secondChannel : Except TransportError Unit
  reconnect : Except TransportError Unit
  finalDepth : Except TransportError Nat

def observe (relay : Relay) : (takes : Nat) → List (Option Notice × Except TransportError Nat) × Relay
  | 0 => ([], relay)
  | takes + 1 =>
      let (notice, delivery) := relay.delivery.take
      let relay := { relay with delivery }
      let relay := relay.runUntil (relay.clock + settleTime)
      let (others, last) := observe relay takes
      ((notice, relay.delivery.broker.depth Broker.noticeQueue) :: others, last)

def consume (rehearsal : Rehearsal) (takes : Nat) (dropReceiver : Bool) : Observation × Rehearsal :=
  let (_, consumer, exchange) := (Consumer.ofQueue rehearsal.queue).connect rehearsal.exchange
  let (_, consumer) := consumer.takeChannel
  let (secondChannel, consumer) := consumer.takeChannel
  let relay := (Relay.start pollInterval (exchange.broker rehearsal.queue)).runUntil settleTime
  let first := relay.delivery.broker.depth Broker.noticeQueue
  let (others, relay) := observe relay takes
  let relay :=
    if dropReceiver then
      { relay with delivery := relay.delivery.dropReceiver }.runUntil (relay.clock + settleTime)
    else relay
  let depth := relay.delivery.broker.depth Broker.noticeQueue
  let rehearsal := { rehearsal with exchange }.setBroker relay.delivery.broker
  let (reconnect, _, exchange) := consumer.close.connect rehearsal.exchange
  ({
    taken := (none, first) :: others
    dropped := if dropReceiver then some depth else none
    secondChannel
    reconnect
    finalDepth := depth }, { rehearsal with exchange })

end Rehearsal
end Datebook
