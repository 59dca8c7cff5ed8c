import Datebook.Loop.Scheduler
import Datebook.Queue.Consumer

set_option autoImplicit false

namespace Datebook

structure Sender where
  link : StoreLink
  acknowledged : Nat
  trace : List Trace
  deriving DecidableEq

namespace Sender

def start (link : StoreLink) : Sender := ⟨link, 0, []⟩

def mark (sender : Sender) (notice : Notice) : Except StoreError Unit × Sender :=
  match sender.link.answer (.markNotified notice.id) with
  | (.ok (), link) => (.ok (), { sender with link, acknowledged := sender.acknowledged + 1 })
  | (.error error, link) => (.error error, { sender with link })

inductive Arrival where
  | nothing
  | notice (notice : Notice)
  | closed
  deriving DecidableEq

structure Wake where
  watch : Watch
  arrival : Arrival
  deriving DecidableEq

inductive Progress where
  | waiting
  | finished
  deriving DecidableEq

-- The stop request is looked at before the channel.
def loop : List Wake → Sender → Progress × Sender
  | [], sender => (.waiting, sender)
  | wake :: rest, sender =>
      if wake.watch.stop then (.finished, sender)
      else
        match wake.arrival with
        | .nothing => loop rest sender
        | .closed => (.finished, sender)
        | .notice notice => loop rest (sender.mark notice).2

def closeConsumer (sender : Sender) : Sender :=
  { sender with trace := sender.trace ++ [.consumerClosed] }

def closeStore (sender : Sender) : Sender :=
  { sender with link := sender.link.close.2, trace := sender.trace ++ [.storeClosed] }

/-- A run of the loop; it is over unless the loop still waits. Without the channel, which is handed
out only once, the loop does not even begin. -/
def run (channelTaken : Bool) (wakes : List Wake) (sender : Sender) :
    Except TransportError Progress × Sender :=
  if channelTaken then (.error .alreadySubscribed, sender)
  else
    match loop wakes sender with
    | (.waiting, sender) => (.ok .waiting, sender)
    | (.finished, sender) => (.ok .finished, sender.closeConsumer.closeStore)

end Sender
end Datebook
