import Datebook.Service.Procedure
import Datebook.Store.Link

set_option autoImplicit false

namespace Datebook.Service

/-- How long the service waits for a store, in milliseconds. -/
def deadline : Nat := 2000

def serve (request : Store.Request) (link : StoreLink) :
    Except ServiceError request.Answer × StoreLink :=
  if deadline < link.delay request.operation then (.error .timedOut, link)
  else
    let (result, link) := link.answer request
    (result.mapError ServiceError.ofStore, link)

def perform (call : Call) (link : StoreLink) : Except ServiceError call.Answer × StoreLink :=
  call.procedure.run serve link

-- Closing waits as long as it takes.
def close (link : StoreLink) : Except ServiceError Unit × StoreLink :=
  let (result, link) := link.close
  (result.mapError ServiceError.ofStore, link)

end Datebook.Service
