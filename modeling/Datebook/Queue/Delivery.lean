import Datebook.Queue.Exchange
import Datebook.Watch

set_option autoImplicit false

namespace Datebook

/-- A channel of one slot. `listening` tells whether its receiver still listens. -/
structure Channel where
  slot : Option Notice
  listening : Bool
  deriving DecidableEq

namespace Channel

def empty : Channel := ⟨none, true⟩

def take (channel : Channel) : Option Notice × Channel := (channel.slot, { channel with slot := none })

-- What was in the slot is lost with the receiver.
def drop (_ : Channel) : Channel := ⟨none, false⟩

end Channel

inductive DeliveryPhase where
  | beginning
  | looking
  | offering (message : Message) (notice : Notice)
  | settling (message : Message)
  | resting
  | finished
  deriving DecidableEq

structure Delivery where
  phase : DeliveryPhase
  broker : Broker
  channel : Channel
  deriving DecidableEq

namespace Delivery

def start (broker : Broker) (channel : Channel) : Delivery := ⟨.beginning, broker, channel⟩

inductive Move where
  | quit
  | start
  | look
  | deliver
  | settle
  deriving DecidableEq

/-- A wait is over when a stop is requested and also when nobody is left to request it; at the
beginning only a request counts. An offer is over when nobody listens, too. -/
def mayQuit (watch : Watch) (delivery : Delivery) : Bool :=
  match delivery.phase with
  | .beginning => watch.stop
  | .offering _ _ => watch.stop || ! watch.held || ! delivery.channel.listening
  | .resting => watch.stop || ! watch.held
  | .looking | .settling _ | .finished => false

def look (delivery : Delivery) : DeliveryPhase :=
  match delivery.broker.peek Broker.noticeQueue with
  | .ok (some message) =>
      match Notice.decode message.payload with
      | .ok notice => .offering message notice
      | .error _ => .settling message
  | .ok none | .error _ => .resting

def settle (delivery : Delivery) (message : Message) : Delivery :=
  match delivery.broker.acknowledge message.seq with
  | (.ok (), broker) => { delivery with phase := .beginning, broker }
  | (.error _, broker) => { delivery with phase := .resting, broker }

def move? (watch : Watch) (delivery : Delivery) : Move → Option Delivery
  | .quit => if delivery.mayQuit watch then some { delivery with phase := .finished } else none
  | .start =>
      if delivery.phase = .beginning ∧ ¬ watch.stop then some { delivery with phase := .looking } else none
  | .look => if delivery.phase = .looking then some { delivery with phase := delivery.look } else none
  | .deliver =>
      match delivery.phase with
      | .offering message notice =>
          if delivery.channel.listening ∧ delivery.channel.slot = none then
            some ⟨.settling message, delivery.broker, { delivery.channel with slot := some notice }⟩
          else none
      | _ => none
  | .settle =>
      match delivery.phase with
      | .settling message => some (delivery.settle message)
      | _ => none

/-- None when delivery waits for the channel, for the poll interval or for nothing any more. -/
def step? (watch : Watch) (delivery : Delivery) : Option Delivery :=
  [Move.quit, .start, .look, .deliver, .settle].findSome? (delivery.move? watch)

def wake (delivery : Delivery) : Delivery :=
  match delivery.phase with
  | .resting => { delivery with phase := .beginning }
  | _ => delivery

def take (delivery : Delivery) : Option Notice × Delivery :=
  let (notice, channel) := delivery.channel.take
  (notice, { delivery with channel })

def dropReceiver (delivery : Delivery) : Delivery := { delivery with channel := delivery.channel.drop }

end Delivery
end Datebook
