import Datebook.Loop.Sender

set_option autoImplicit false

namespace Datebook

structure Relay where
  clock : Nat
  pollInterval : Nat
  delivery : Delivery
  wakeAt : Option Nat
  -- The sender, once it listens, and the notice whose mark is stalled until a time.
  sender : Option Sender
  marking : Option (Nat × Notice)
  deriving DecidableEq

namespace Relay

def start (pollInterval : Nat) (broker : Broker) : Relay :=
  ⟨0, pollInterval, .start broker .empty, none, none, none⟩

def deliver? (relay : Relay) : Option Relay :=
  (relay.delivery.step? Watch.start).map fun delivery =>
    { relay with
      delivery
      wakeAt := if delivery.phase = .resting then some (relay.clock + relay.pollInterval) else none }

def receive? (relay : Relay) : Option Relay :=
  match relay.sender, relay.marking, relay.delivery.take with
  | some sender, none, (some notice, delivery) =>
      match sender.link.delay .markNotified with
      | 0 => some { relay with delivery, sender := some (sender.mark notice).2 }
      | delay => some { relay with delivery, marking := some (relay.clock + delay, notice) }
  | _, _, _ => none

def finishMark (relay : Relay) : Relay :=
  match relay.sender, relay.marking with
  | some sender, some (_, notice) =>
      { relay with sender := some (sender.mark notice).2, marking := none }
  | _, _ => relay

def wake (relay : Relay) : Relay := { relay with delivery := relay.delivery.wake, wakeAt := none }

def jump? (relay : Relay) (stop : Nat) : Option Relay :=
  match relay.wakeAt, relay.marking with
  | some time, some (marked, _) =>
      if marked < time then
        if marked < stop then some { relay with clock := marked }.finishMark else none
      else if time < stop then some { relay with clock := time }.wake else none
  | some time, none => if time < stop then some { relay with clock := time }.wake else none
  | none, some (marked, _) => if marked < stop then some { relay with clock := marked }.finishMark else none
  | none, none => none

def step? (relay : Relay) (stop : Nat) : Option Relay :=
  (relay.deliver?.orElse fun () => relay.receive?).orElse fun () => relay.jump? stop

def runSteps (stop : Nat) : (steps : Nat) → Relay → Relay
  | 0, relay => relay
  | steps + 1, relay =>
      match relay.step? stop with
      | none => relay
      | some next => runSteps stop steps next

-- Enough steps to pass every row, and to try again at every poll.
def stepsEnough (relay : Relay) (stop : Nat) : Nat :=
  8 * (relay.delivery.broker.rows.length + (stop - relay.clock) / max 1 relay.pollInterval + 8)

def runUntil (stop : Nat) (relay : Relay) : Relay :=
  { runSteps stop (relay.stepsEnough stop) relay with clock := stop }

def attach (relay : Relay) (sender : Sender) : Relay := { relay with sender := some sender }

end Relay
end Datebook
