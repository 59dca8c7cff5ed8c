import Datebook.FinMap
import Datebook.Proofs.BrokerRows
import Datebook.Proofs.Steps
import Datebook.Queue.Delivery

/-!
Several consumers at one queue. Each delivers into a channel of its own, and any of its steps, any failure
and any way to stop it may come between those of the others. Main statement: what a move can do, in which a
row goes only by an acknowledgement, and an acknowledgement fails only at a broker that is not sound.
-/

set_option autoImplicit false

namespace Datebook

namespace Delivery

variable {watch : Watch} {delivery next : Delivery} {move : Move}

inductive Moved (delivery : Delivery) : Move → Delivery → Prop where
  | quit (free : ∀ message, delivery.phase ≠ .settling message) :
      Moved delivery .quit { delivery with phase := .finished }
  | start (begins : delivery.phase = .beginning) : Moved delivery .start { delivery with phase := .looking }
  | look (looks : delivery.phase = .looking) : Moved delivery .look { delivery with phase := delivery.look }
  | deliver {message : Message} {notice : Notice} (offers : delivery.phase = .offering message notice) :
      Moved delivery .deliver
        ⟨.settling message, delivery.broker, { delivery.channel with slot := some notice }⟩
  | settle {message : Message} (settles : delivery.phase = .settling message) :
      Moved delivery .settle (delivery.settle message)

theorem moved_of_move? (moved : delivery.move? watch move = some next) : Moved delivery move next := by
  cases move with
  | quit =>
      simp only [move?] at moved
      split at moved
      · next may =>
        cases moved
        refine .quit fun message settles => ?_
        simp [mayQuit, settles] at may
      · cases moved
  | start =>
      simp only [move?] at moved
      split at moved
      · next begins =>
        cases moved
        exact .start begins.1
      · cases moved
  | look =>
      simp only [move?] at moved
      split at moved
      · next looks =>
        cases moved
        exact .look looks
      · cases moved
  | deliver =>
      simp only [move?] at moved
      split at moved
      · next offers =>
        split at moved
        · cases moved
          exact .deliver offers
        · cases moved
      · cases moved
  | settle =>
      simp only [move?] at moved
      split at moved
      · next settles =>
        cases moved
        exact .settle settles
      · cases moved

theorem look_eq_or (delivery : Delivery) : delivery.look = .resting ∨
    ∃ message rest, delivery.broker.waiting Broker.noticeQueue = message :: rest ∧
      ((∃ notice, Notice.decode message.payload = .ok notice ∧ delivery.look = .offering message notice) ∨
        ∃ fault, Notice.decode message.payload = .error fault ∧ delivery.look = .settling message) := by
  unfold look
  rcases delivery.broker.peek_eq_or Broker.noticeQueue with seen | ⟨error, failed⟩
  · rw [seen]
    cases rows : delivery.broker.waiting Broker.noticeQueue with
    | nil => exact .inl rfl
    | cons message rest =>
        right
        refine ⟨message, rest, rfl, ?_⟩
        simp only [List.head?_cons]
        cases Notice.decode message.payload with
        | ok notice => exact .inl ⟨notice, rfl, rfl⟩
        | error fault => exact .inr ⟨fault, rfl, rfl⟩
  · rw [failed]
    exact .inl rfl

theorem move?_look {message : Message} {notice : Notice} (looks : delivery.phase = .looking)
    (seen : delivery.broker.peek Broker.noticeQueue = .ok (some message))
    (reads : Notice.decode message.payload = .ok notice) :
    delivery.move? watch .look = some { delivery with phase := .offering message notice } := by
  have offers : delivery.look = .offering message notice := by simp only [look, seen, reads]
  rw [move?, if_pos looks, offers]

theorem settle_eq_or (delivery : Delivery) (message : Message) :
    delivery.settle message =
        { delivery with phase := .beginning, broker := delivery.broker.without message.seq } ∨
      delivery.broker.state ≠ .sound ∧ delivery.settle message = { delivery with phase := .resting } := by
  unfold settle
  rcases delivery.broker.acknowledge_eq_or message.seq with done | ⟨faulty, error, failed⟩
  · rw [done]
    exact .inl rfl
  · rw [failed]
    exact .inr ⟨faulty, rfl⟩

end Delivery

structure Courier where
  phase : DeliveryPhase
  channel : Channel
  watch : Watch
  placed : List (Message × Notice)
  deriving DecidableEq

namespace Courier

def fresh : Courier := ⟨.beginning, .empty, .start, []⟩

def delivery (courier : Courier) (broker : Broker) : Delivery := ⟨courier.phase, broker, courier.channel⟩

def after (courier : Courier) (delivery : Delivery) : Courier :=
  { courier with phase := delivery.phase, channel := delivery.channel }

def places (courier : Courier) : Delivery.Move → List (Message × Notice)
  | .deliver =>
      match courier.phase with
      | .offering message notice => [(message, notice)]
      | _ => []
  | .quit | .start | .look | .settle => []

def acknowledges (courier : Courier) (next : Delivery) : Delivery.Move → List Int
  | .settle =>
      match courier.phase, next.phase with
      | .settling message, .beginning => [message.seq]
      | _, _ => []
  | .quit | .start | .look | .deliver => []

def settling (courier : Courier) : List Message :=
  match courier.phase with
  | .settling message => [message]
  | _ => []

inductive Moved (waiting : List Message) (courier : Courier) : Delivery.Move → Courier → Prop where
  | quit (free : ∀ message, courier.phase ≠ .settling message) :
      Moved waiting courier .quit { courier with phase := .finished }
  | start (begins : courier.phase = .beginning) : Moved waiting courier .start { courier with phase := .looking }
  | rest (looks : courier.phase = .looking) : Moved waiting courier .look { courier with phase := .resting }
  | offer {message : Message} {rest : List Message} {notice : Notice} (looks : courier.phase = .looking)
      (first : waiting = message :: rest) (reads : Notice.decode message.payload = .ok notice) :
      Moved waiting courier .look { courier with phase := .offering message notice }
  | skip {message : Message} {rest : List Message} {fault : Json.Fault} (looks : courier.phase = .looking)
      (first : waiting = message :: rest) (fails : Notice.decode message.payload = .error fault) :
      Moved waiting courier .look { courier with phase := .settling message }
  | deliver {message : Message} {notice : Notice} (offers : courier.phase = .offering message notice) :
      Moved waiting courier .deliver
        ⟨.settling message, { courier.channel with slot := some notice }, courier.watch,
          courier.placed ++ [(message, notice)]⟩

end Courier

structure Depot where
  broker : Broker
  couriers : FinMap Nat Courier
  /-- Rows that deliveries were about to acknowledge when they were dropped. The request may still
  come through. -/
  late : List Message
  published : List Message
  acknowledged : List Int
  deriving DecidableEq

namespace Depot

inductive Move where
  | publish (queue : String) (payload : Text.RawText) (state : BrokerState)
  | join (key : Nat)
  /-- The state is that of the broker during the move, so that any request may fail. -/
  | act (key : Nat) (move : Delivery.Move) (state : BrokerState)
  | wake (key : Nat)
  | take (key : Nat)
  | dropReceiver (key : Nat)
  | requestStop (key : Nat)
  | abandonWatch (key : Nat)
  | cut (key : Nat)
  | settleLate (message : Message) (state : BrokerState)
  deriving DecidableEq

def start (broker : Broker) : Depot := ⟨broker, .empty, [], broker.rows, []⟩

def under (depot : Depot) (state : BrokerState) : Broker := { depot.broker with state }

def withRows (depot : Depot) (broker : Broker) : Depot :=
  { depot with broker := { broker with state := depot.broker.state } }

def put (depot : Depot) (key : Nat) (courier : Courier) : Depot :=
  { depot with couriers := depot.couriers.put key courier }

def change (depot : Depot) (key : Nat) (apply : Courier → Courier) : Option Depot :=
  (depot.couriers.get? key).map fun courier => depot.put key (apply courier)

def publish (depot : Depot) (queue : String) (payload : Text.RawText) (state : BrokerState) : Depot :=
  match (depot.under state).publishRaw queue payload with
  | (.error _, _) => depot
  | (.ok seq, broker) =>
      { depot.withRows broker with published := depot.published ++ [⟨seq, queue, payload⟩] }

def settleLate (depot : Depot) (message : Message) (state : BrokerState) : Depot :=
  match (depot.under state).acknowledge message.seq with
  | (.error _, _) => depot
  | (.ok (), broker) => { depot.withRows broker with acknowledged := depot.acknowledged ++ [message.seq] }

def act (depot : Depot) (key : Nat) (courier : Courier) (move : Delivery.Move) (state : BrokerState) :
    Option Depot :=
  ((courier.delivery (depot.under state)).move? courier.watch move).map fun delivery =>
    let courier' := { courier.after delivery with placed := courier.placed ++ courier.places move }
    { (depot.withRows delivery.broker).put key courier' with
      acknowledged := depot.acknowledged ++ courier.acknowledges delivery move }

def step (depot : Depot) : Move → Option Depot
  | .publish queue payload state => some (depot.publish queue payload state)
  | .join key =>
      match depot.couriers.get? key with
      | some _ => none
      | none => some (depot.put key .fresh)
  | .act key move state => (depot.couriers.get? key).bind fun courier => depot.act key courier move state
  | .wake key => depot.change key fun courier => courier.after (courier.delivery depot.broker).wake
  | .take key => depot.change key fun courier => courier.after (courier.delivery depot.broker).take.2
  | .dropReceiver key => depot.change key fun courier => courier.after (courier.delivery depot.broker).dropReceiver
  | .requestStop key => depot.change key fun courier => { courier with watch := courier.watch.request }
  | .abandonWatch key => depot.change key fun courier => { courier with watch := courier.watch.abandon }
  | .cut key =>
      (depot.couriers.get? key).map fun courier =>
        { depot.put key { courier with phase := .finished } with
          late := depot.late ++ courier.settling }
  | .settleLate message state => if message ∈ depot.late then some (depot.settleLate message state) else none

def waiting (depot : Depot) : List Message := depot.broker.waiting Broker.noticeQueue

def extended (depot : Depot) (queue : String) (payload : Text.RawText) : Depot :=
  { depot with
    broker := depot.broker.extended queue payload
    published := depot.published ++ [⟨depot.broker.lastSeq + 1, queue, payload⟩] }

def without (depot : Depot) (seq : Int) : Depot :=
  { depot with
    broker := depot.broker.without seq
    acknowledged := depot.acknowledged ++ [seq] }

variable {depot next : Depot} {move : Move} {key : Nat} {courier : Courier} {state : BrokerState}

inductive Stepped (depot : Depot) : Move → Depot → Prop where
  | unpublished {queue : String} {payload : Text.RawText} {state : BrokerState} :
      Stepped depot (.publish queue payload state) depot
  | published {queue : String} {payload : Text.RawText} {state : BrokerState} :
      Stepped depot (.publish queue payload state) (depot.extended queue payload)
  | joined {key : Nat} (isNew : depot.couriers.get? key = none) : Stepped depot (.join key) (depot.put key .fresh)
  | moved {key : Nat} {courier courier' : Courier} {move : Delivery.Move} {state : BrokerState}
      (found : depot.couriers.get? key = some courier) (moved : courier.Moved depot.waiting move courier') :
      Stepped depot (.act key move state) (depot.put key courier')
  | settled {key : Nat} {courier : Courier} {message : Message} {state : BrokerState}
      (found : depot.couriers.get? key = some courier) (settles : courier.phase = .settling message) :
      Stepped depot (.act key .settle state)
        ((depot.without message.seq).put key { courier with phase := .beginning })
  | unsettled {key : Nat} {courier : Courier} {message : Message} {state : BrokerState}
      (found : depot.couriers.get? key = some courier) (settles : courier.phase = .settling message)
      (faulty : state ≠ .sound) :
      Stepped depot (.act key .settle state) (depot.put key { courier with phase := .resting })
  | changed {key : Nat} {courier courier' : Courier} {move : Move}
      (found : depot.couriers.get? key = some courier) (placed : courier'.placed = courier.placed)
      (phase : courier'.phase = courier.phase ∨ courier.phase = .resting ∧ courier'.phase = .beginning) :
      Stepped depot move (depot.put key courier')
  | cut {key : Nat} {courier : Courier} (found : depot.couriers.get? key = some courier) :
      Stepped depot (.cut key)
        { depot.put key { courier with phase := .finished } with late := depot.late ++ courier.settling }
  | settledLate {message : Message} {state : BrokerState} (isLate : message ∈ depot.late) :
      Stepped depot (.settleLate message state) (depot.without message.seq)
  | unsettledLate {message : Message} {state : BrokerState} (faulty : state ≠ .sound) :
      Stepped depot (.settleLate message state) depot

theorem stepped_of_act {move : Delivery.Move} (found : depot.couriers.get? key = some courier)
    (acted : depot.act key courier move state = some next) : Stepped depot (.act key move state) next := by
  obtain ⟨delivery, moved, rfl⟩ := Option.map_eq_some_iff.mp acted
  -- All moves but an acknowledgement that succeeds leave the broker as it was.
  have moves {courier' : Courier} (moved : courier.Moved depot.waiting move courier')
      (same : courier' = { courier.after delivery with placed := courier.placed ++ courier.places move })
      (broker : delivery.broker = depot.under state) (none : courier.acknowledges delivery move = []) :
      Stepped depot (.act key move state)
        { (depot.withRows delivery.broker).put key
            { courier.after delivery with placed := courier.placed ++ courier.places move } with
          acknowledged := depot.acknowledged ++ courier.acknowledges delivery move } := by
    rw [broker, none, List.append_nil, ← same]
    exact .moved found moved
  cases Delivery.moved_of_move? moved with
  | quit free => exact moves (.quit free) (by simp [Courier.after, Courier.delivery, Courier.places]) rfl rfl
  | start begins => exact moves (.start begins) (by simp [Courier.after, Courier.delivery, Courier.places]) rfl rfl
  | look looks =>
      have same (phase : DeliveryPhase) : { courier with phase } =
          { courier.after { courier.delivery (depot.under state) with phase } with
            placed := courier.placed ++ courier.places .look } := by
        simp [Courier.after, Courier.delivery, Courier.places]
      rcases (courier.delivery (depot.under state)).look_eq_or with rests |
        ⟨message, rest, first, ⟨notice, reads, offers⟩ | ⟨fault, fails, skips⟩⟩
      · rw [rests] at moves ⊢
        exact moves (.rest looks) (same _) rfl rfl
      · rw [offers] at moves ⊢
        exact moves (.offer looks first reads) (same _) rfl rfl
      · rw [skips] at moves ⊢
        exact moves (.skip looks first fails) (same _) rfl rfl
  | deliver offers =>
      have offers' : courier.phase = _ := offers
      refine moves (.deliver offers) ?_ rfl rfl
      simp [Courier.after, Courier.delivery, Courier.places, offers']
  | settle settles =>
      obtain ⟨phase, channel, watch, placed⟩ := courier
      cases settles
      rcases Delivery.settle_eq_or (Courier.delivery ⟨_, channel, watch, placed⟩ (depot.under state)) _ with
        done | ⟨faulty, failed⟩
      · rw [done]
        rw [Courier.places, List.append_nil]
        have stepped := @Stepped.settled depot key _ _ state found rfl
        exact stepped
      · rw [failed]
        rw [Courier.places, List.append_nil]
        simp only [Courier.acknowledges, List.append_nil]
        have stepped := @Stepped.unsettled depot key _ _ state found rfl faulty
        exact stepped

theorem step_look {message : Message} {rest : List Message} {notice : Notice}
    (found : depot.couriers.get? key = some courier) (looks : courier.phase = .looking)
    (first : depot.waiting = message :: rest) (reads : Notice.decode message.payload = .ok notice) :
    depot.step (.act key .look .sound) = some (depot.put key { courier with phase := .offering message notice }) := by
  have seen : (depot.under .sound).peek Broker.noticeQueue = .ok (some message) :=
    congrArg (fun rows => Except.ok (List.head? rows)) first
  rw [step, found, Option.bind_some, act, Delivery.move?_look looks seen reads]
  simp [Courier.delivery, Courier.after, Courier.places, Courier.acknowledges, withRows, under, put]

theorem stepped_of_change {apply : Courier → Courier} (changes : depot.change key apply = some next)
    (placed : ∀ courier, (apply courier).placed = courier.placed)
    (phase : ∀ courier, (apply courier).phase = courier.phase ∨
      courier.phase = .resting ∧ (apply courier).phase = .beginning) : Stepped depot move next := by
  obtain ⟨courier, found, rfl⟩ := Option.map_eq_some_iff.mp changes
  exact .changed found (placed courier) (phase courier)

theorem stepped_of_step (stepped : depot.step move = some next) : Stepped depot move next := by
  cases move with
  | publish queue payload state =>
      cases stepped
      unfold publish
      rcases (depot.under state).publishRaw_eq_or queue payload with done | ⟨error, failed⟩
      · rw [done]
        exact .published
      · rw [failed]
        exact .unpublished
  | join key =>
      simp only [step] at stepped
      split at stepped
      · cases stepped
      · next isNew =>
        cases stepped
        exact .joined isNew
  | act key move state =>
      obtain ⟨courier, found, acted⟩ := Option.bind_eq_some_iff.mp stepped
      exact stepped_of_act found acted
  | wake key =>
      refine stepped_of_change stepped (fun _ => rfl) fun courier => ?_
      cases phase : courier.phase <;> simp [Courier.after, Courier.delivery, Delivery.wake, phase]
  | take key | dropReceiver key | requestStop key | abandonWatch key =>
      exact stepped_of_change stepped (fun _ => rfl) fun _ => .inl rfl
  | cut key =>
      obtain ⟨courier, found, rfl⟩ := Option.map_eq_some_iff.mp stepped
      exact .cut found
  | settleLate message state =>
      simp only [step] at stepped
      split at stepped
      · next isLate =>
        cases stepped
        unfold settleLate
        rcases (depot.under state).acknowledge_eq_or message.seq with done | ⟨faulty, error, failed⟩
        · rw [done]
          exact .settledLate isLate
        · rw [failed]
          exact .unsettledLate faulty
      · cases stepped

end Depot
end Datebook
