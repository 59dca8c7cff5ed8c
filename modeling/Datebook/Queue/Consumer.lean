import Datebook.Queue.Delivery

set_option autoImplicit false

namespace Datebook

structure Consumer where
  endpoint : Endpoint
  channelTaken : Bool
  started : Bool
  delivering : Bool
  deriving DecidableEq

namespace Consumer

def ofUrl (url : String) : Consumer := ⟨.ofUrl url, false, false, false⟩

def ofQueue (address : Address) : Consumer := ⟨.ofQueue address, false, false, false⟩

def connect (consumer : Consumer) (exchange : Exchange) :
    Except TransportError Unit × Consumer × Exchange :=
  if consumer.delivering then (.ok (), consumer, exchange)
  else
    let (endpoint, exchange) := consumer.endpoint.connect exchange
    if consumer.started then (.error .notConnected, { consumer with endpoint }, exchange)
    else (.ok (), { consumer with endpoint, started := true, delivering := true }, exchange)

def close (consumer : Consumer) : Consumer :=
  { consumer with endpoint := consumer.endpoint.close, delivering := false }

def takeChannel (consumer : Consumer) : Except TransportError Unit × Consumer :=
  if consumer.channelTaken then (.error .alreadySubscribed, consumer)
  else (.ok (), { consumer with channelTaken := true })

end Consumer
end Datebook
