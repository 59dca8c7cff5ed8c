import Datebook.FinMap
import Datebook.Queue.Broker

/-!
All queue databases that can be reached, and the endpoints that publish to one of them.
Opening a path leads to the database of that path; opening the empty path, or opening in memory,
to a new one that nobody else reaches.
-/

set_option autoImplicit false

namespace Datebook

inductive Address where
  | file (path : String)
  | ephemeral (number : Nat)
  deriving DecidableEq

structure Exchange where
  brokers : FinMap Address Broker
  opened : Nat
  deriving DecidableEq

namespace Exchange

def empty : Exchange := ⟨.empty, 0⟩

def broker (exchange : Exchange) (address : Address) : Broker :=
  (exchange.brokers.get? address).getD .empty

def setBroker (exchange : Exchange) (address : Address) (broker : Broker) : Exchange :=
  { exchange with brokers := exchange.brokers.put address broker }

def openEphemeral (exchange : Exchange) : Address × Exchange :=
  let address := .ephemeral exchange.opened
  (address, { exchange with opened := exchange.opened + 1 }.setBroker address .empty)

def openPath (exchange : Exchange) (path : String) : Address × Exchange :=
  if path = "" then exchange.openEphemeral
  else (.file path, exchange.setBroker (.file path) (exchange.broker (.file path)).opened)

end Exchange

structure Endpoint where
  url : String
  link : Option Address
  deriving DecidableEq

namespace Endpoint

def ofUrl (url : String) : Endpoint := ⟨url, none⟩

def ofQueue (address : Address) : Endpoint := ⟨"", some address⟩

def connect (endpoint : Endpoint) (exchange : Exchange) : Endpoint × Exchange :=
  match endpoint.link with
  | some _ => (endpoint, exchange)
  | none =>
      let (address, exchange) := exchange.openPath endpoint.url
      ({ endpoint with link := some address }, exchange)

def close (endpoint : Endpoint) : Endpoint := { endpoint with link := none }

def send (endpoint : Endpoint) (notice : Notice) (exchange : Exchange) :
    Except TransportError Unit × Exchange :=
  match endpoint.link with
  | none => (.error .notConnected, exchange)
  | some address =>
      let (result, broker) := (exchange.broker address).publish Broker.noticeQueue notice
      (result.map fun _ => (), exchange.setBroker address broker)

end Endpoint
end Datebook
