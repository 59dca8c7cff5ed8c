import Datebook.Proofs.DeliveredNotices
import Datebook.Proofs.RecordRoundTrip
import Datebook.Proofs.SenderLoop

set_option autoImplicit false

namespace Datebook

/-- What the channel has for its receiver. Once it is empty it is closed if the delivery is over. -/
def Courier.arrival (courier : Courier) : Sender.Arrival :=
  match courier.channel.slot with
  | some notice => .notice notice
  | none => if courier.phase = .finished then .closed else .nothing

/-- The moves that are neither the receiver's nor those of another consumer. -/
def Depot.Move.isTransport : Depot.Move → Bool
  | publish _ _ _ | settleLate _ _ => true
  | act key _ _ | wake key | cut key => key = 0
  | join _ | take _ | dropReceiver _ | requestStop _ | abandonWatch _ => false

inductive Handover.Stage where
  | listening
  | leaving
  | closing
  -- Has told the delivery to stop, and waits until it has.
  | joining
  | returned
  deriving DecidableEq

def Handover.Stage.hasChannel : Handover.Stage → Bool
  | listening | leaving => true
  | closing | joining | returned => false

structure Handover where
  depot : Depot
  sender : Sender
  watch : Watch
  stage : Handover.Stage
  wakes : List Sender.Wake
  marked : List Notice
  -- What lay in the channel when it was dropped.
  lost : Option Notice

namespace Handover

inductive Move where
  | transport (move : Depot.Move)
  | reload (link : StoreLink)
  | requestStop
  | abandonWatch
  | wake
  | dropReceiver
  | stopDelivery
  | finish
  deriving DecidableEq

def start (broker : Broker) (link : StoreLink) : Handover :=
  ⟨(Depot.start broker).put 0 .fresh, .start link, .start, .listening, [], [], none⟩

def found (handover : Handover) (courier : Courier) : Sender.Wake := ⟨handover.watch, courier.arrival⟩

-- One turn of the loop, in which the stop request comes before the channel.
def wake (handover : Handover) (courier : Courier) : Option Handover :=
  let wakes := handover.wakes ++ [handover.found courier]
  match Sender.loop [handover.found courier] handover.sender, courier.arrival with
  | (.finished, sender), _ => some { handover with sender, wakes, stage := .leaving }
  | (.waiting, sender), .notice notice =>
      (handover.depot.step (.take 0)).map fun depot =>
        { handover with depot, sender, wakes, marked := handover.marked ++ [notice] }
  | (.waiting, sender), _ => some { handover with sender, wakes }

def step (handover : Handover) : Move → Option Handover
  | .transport move =>
      if move.isTransport then (handover.depot.step move).map fun depot => { handover with depot } else none
  | .reload link => some { handover with sender := { handover.sender with link } }
  | .requestStop => some { handover with watch := handover.watch.request }
  | .abandonWatch => some { handover with watch := handover.watch.abandon }
  | .wake => if handover.stage = .listening then (handover.depot.couriers.get? 0).bind handover.wake else none
  | .dropReceiver =>
      if handover.stage = .leaving then
        (handover.depot.couriers.get? 0).bind fun courier =>
          (handover.depot.step (.dropReceiver 0)).map fun depot =>
            { handover with depot, stage := .closing, lost := courier.channel.slot }
      else none
  | .stopDelivery =>
      if handover.stage = .closing then
        (handover.depot.step (.requestStop 0)).map fun depot => { handover with depot, stage := .joining }
      else none
  | .finish =>
      if handover.stage = .joining ∧ ∃ courier ∈ handover.depot.couriers.get? 0, courier.phase = .finished then
        some { handover with sender := handover.sender.closeConsumer.closeStore, stage := .returned }
      else none

end Handover

namespace Courier

variable {courier courier' : Courier}

inductive Carries (courier courier' : Courier) : Prop where
  | nothing (channel : courier'.channel = courier.channel) (placed : courier'.placed = courier.placed)
      (finished : courier.phase = .finished → courier'.phase = .finished)
  | notice (message : Message) (notice : Notice) (offers : courier.phase = .offering message notice)
      (listens : courier.channel.listening = true) (free : courier.channel.slot = none)
      (channel : courier'.channel = ⟨some notice, true⟩)
      (placed : courier'.placed = courier.placed ++ [(message, notice)])

theorem arrival_eq_notice {notice : Notice} (arrives : courier.arrival = .notice notice) :
    courier.channel.slot = some notice := by
  unfold arrival at arrives
  split at arrives
  · next found =>
    cases arrives
    exact found
  · split at arrives <;> cases arrives

theorem arrival_eq_closed (closed : courier.arrival = .closed) :
    courier.phase = .finished ∧ courier.channel.slot = none := by
  unfold arrival at closed
  split at closed
  · cases closed
  · next empty =>
    split at closed
    · next finished => exact ⟨finished, empty⟩
    · cases closed

theorem carries_of_move? {broker : Broker} {move : Delivery.Move} {delivery : Delivery}
    (moved : (courier.delivery broker).move? courier.watch move = some delivery) :
    courier.Carries { courier.after delivery with placed := courier.placed ++ courier.places move } := by
  have idle (none : courier.places move = []) (channel : delivery.channel = courier.channel)
      (finished : courier.phase = .finished → delivery.phase = .finished) :
      courier.Carries { courier.after delivery with placed := courier.placed ++ courier.places move } :=
    .nothing channel (by simp [none]) finished
  cases Delivery.moved_of_move? moved with
  | quit => exact idle rfl rfl fun _ => rfl
  | start begins => exact idle rfl rfl fun finished => by cases begins.symm.trans finished
  | look looks => exact idle rfl rfl fun finished => by cases looks.symm.trans finished
  | @settle message settles =>
      have finished (done : courier.phase = .finished) : False := by cases settles.symm.trans done
      refine idle rfl ?_ fun done => (finished done).elim
      rcases Delivery.settle_eq_or (courier.delivery broker) message with same | ⟨-, same⟩ <;> rw [same] <;> rfl
  | @deliver message notice offers =>
      have offers : courier.phase = .offering message notice := offers
      simp only [Delivery.move?, delivery, offers] at moved
      split at moved
      · next isFree =>
        exact .notice message notice offers isFree.1 isFree.2 (congrArg (Channel.mk (some notice)) isFree.1)
          (by simp [places, offers])
      · cases moved

end Courier

namespace Depot

variable {depot next : Depot} {courier : Courier} {key : Nat}

def Serves (depot : Depot) (courier : Courier) : Prop := depot.couriers = FinMap.empty.put 0 courier

theorem serves_put (serves : depot.Serves courier) (courier' : Courier) : (depot.put 0 courier').Serves courier' := by
  change depot.couriers.put 0 courier' = _
  rw [serves]
  rfl

theorem Serves.eq_zero (serves : depot.Serves courier) {found : Courier} (isThere : depot.couriers.get? key = some found) :
    key = 0 ∧ found = courier := by
  rw [serves, FinMap.get?_put_eq_some_iff, FinMap.get?_empty] at isThere
  simpa using isThere

theorem Serves.change (serves : depot.Serves courier) {apply : Courier → Courier}
    (changes : depot.change 0 apply = some next) : next.Serves (apply courier) := by
  obtain ⟨found, isThere, rfl⟩ := Option.map_eq_some_iff.mp changes
  obtain ⟨-, rfl⟩ := serves.eq_zero isThere
  exact serves_put serves _

theorem Serves.transport (serves : depot.Serves courier) {move : Move} (isTransport : move.isTransport = true)
    (stepped : depot.step move = some next) : ∃ courier', next.Serves courier' ∧ courier.Carries courier' := by
  have idle (courier' : Courier) (channel : courier'.channel = courier.channel) (placed : courier'.placed = courier.placed)
      (finished : courier.phase = .finished → courier'.phase = .finished) :
      ∃ courier'', (depot.put 0 courier').Serves courier'' ∧ courier.Carries courier'' :=
    ⟨courier', serves_put serves courier', .nothing channel placed finished⟩
  cases move with
  | publish queue payload state =>
      cases stepped
      refine ⟨courier, ?_, .nothing rfl rfl id⟩
      unfold Depot.publish
      split <;> exact serves
  | settleLate message state =>
      simp only [step] at stepped
      split at stepped
      · cases stepped
        refine ⟨courier, ?_, .nothing rfl rfl id⟩
        unfold Depot.settleLate
        split <;> exact serves
      · cases stepped
  | act key move state =>
      obtain ⟨found, isThere, acted⟩ := Option.bind_eq_some_iff.mp stepped
      obtain ⟨rfl, rfl⟩ := serves.eq_zero isThere
      obtain ⟨delivery, moved, rfl⟩ := Option.map_eq_some_iff.mp acted
      have withRows : (depot.withRows delivery.broker).Serves found := serves
      exact ⟨_, serves_put withRows _, Courier.carries_of_move? moved⟩
  | wake key =>
      obtain ⟨found, isThere, rfl⟩ := Option.map_eq_some_iff.mp stepped
      obtain ⟨rfl, rfl⟩ := serves.eq_zero isThere
      refine idle _ ?_ rfl fun finished => ?_
      · cases phase : found.phase <;> simp [Courier.after, Courier.delivery, Delivery.wake, phase]
      · simp [Courier.after, Courier.delivery, Delivery.wake, finished]
  | cut key =>
      obtain ⟨found, isThere, rfl⟩ := Option.map_eq_some_iff.mp stepped
      obtain ⟨rfl, rfl⟩ := serves.eq_zero isThere
      exact idle _ rfl rfl fun _ => rfl
  | join | take | dropReceiver | requestStop | abandonWatch => cases isTransport

end Depot

namespace Handover

variable {handover next : Handover} {courier : Courier} {broker : Broker} {link : StoreLink}

inductive Woken (handover : Handover) (courier : Courier) : Handover → Prop where
  | leaves (turn : Sender.loop [handover.found courier] handover.sender = (.finished, handover.sender))
      (reason : handover.watch.stop = true ∨ courier.arrival = .closed) :
      Woken handover courier { handover with wakes := handover.wakes ++ [handover.found courier], stage := .leaving }
  | waits (turn : Sender.loop [handover.found courier] handover.sender = (.waiting, handover.sender)) :
      Woken handover courier { handover with wakes := handover.wakes ++ [handover.found courier] }
  | marks {notice : Notice} {depot : Depot}
      (turn : Sender.loop [handover.found courier] handover.sender = (.waiting, (handover.sender.mark notice).2))
      (arrives : courier.arrival = .notice notice) (takes : handover.depot.step (.take 0) = some depot) :
      Woken handover courier
        { handover with
          depot
          sender := (handover.sender.mark notice).2
          wakes := handover.wakes ++ [handover.found courier]
          marked := handover.marked ++ [notice] }

theorem woken_of_wake (woken : handover.wake courier = some next) : Woken handover courier next := by
  have turned := handover.sender.turned_loop (handover.found courier)
  unfold wake at woken
  generalize turn : Sender.loop [handover.found courier] handover.sender = outcome at turned woken
  cases turned with
  | leaves reason =>
      cases woken
      exact .leaves turn reason
  | waits arrives =>
      have arrives : courier.arrival = .nothing := arrives
      rw [arrives] at woken
      cases woken
      exact .waits turn
  | marks arrives =>
      have arrives : courier.arrival = .notice _ := arrives
      rw [arrives] at woken
      obtain ⟨depot, takes, rfl⟩ := Option.map_eq_some_iff.mp woken
      exact .marks turn arrives takes

inductive Stepped (handover : Handover) : Move → Handover → Prop where
  | transport {move : Depot.Move} {depot : Depot} (isTransport : move.isTransport = true)
      (moved : handover.depot.step move = some depot) : Stepped handover (.transport move) { handover with depot }
  | reload (link : StoreLink) :
      Stepped handover (.reload link) { handover with sender := { handover.sender with link } }
  | requestStop : Stepped handover .requestStop { handover with watch := handover.watch.request }
  | abandonWatch : Stepped handover .abandonWatch { handover with watch := handover.watch.abandon }
  | wake {courier : Courier} {next : Handover} (listens : handover.stage = .listening)
      (isThere : handover.depot.couriers.get? 0 = some courier) (woken : Woken handover courier next) :
      Stepped handover .wake next
  | dropReceiver {courier : Courier} {depot : Depot} (leaves : handover.stage = .leaving)
      (isThere : handover.depot.couriers.get? 0 = some courier)
      (drops : handover.depot.step (.dropReceiver 0) = some depot) :
      Stepped handover .dropReceiver { handover with depot, stage := .closing, lost := courier.channel.slot }
  | stopDelivery {depot : Depot} (closes : handover.stage = .closing)
      (stops : handover.depot.step (.requestStop 0) = some depot) :
      Stepped handover .stopDelivery { handover with depot, stage := .joining }
  | finish (joins : handover.stage = .joining) :
      Stepped handover .finish { handover with sender := handover.sender.closeConsumer.closeStore, stage := .returned }

theorem step_transport {move : Depot.Move} {depot : Depot} (isTransport : move.isTransport = true)
    (moved : handover.depot.step move = some depot) :
    handover.step (.transport move) = some { handover with depot } := by
  rw [step, if_pos isTransport, moved, Option.map_some]

theorem stepped_of_step {move : Move} (stepped : handover.step move = some next) : Stepped handover move next := by
  cases move with
  | reload link =>
      cases stepped
      exact .reload link
  | requestStop =>
      cases stepped
      exact .requestStop
  | abandonWatch =>
      cases stepped
      exact .abandonWatch
  | transport move =>
      simp only [Handover.step] at stepped
      split at stepped
      · next isTransport =>
        obtain ⟨depot, moved, rfl⟩ := Option.map_eq_some_iff.mp stepped
        exact .transport isTransport moved
      · cases stepped
  | wake =>
      simp only [Handover.step] at stepped
      split at stepped
      · next listens =>
        obtain ⟨courier, isThere, woken⟩ := Option.bind_eq_some_iff.mp stepped
        exact .wake listens isThere (woken_of_wake woken)
      · cases stepped
  | dropReceiver =>
      simp only [Handover.step] at stepped
      split at stepped
      · next leaves =>
        obtain ⟨courier, isThere, dropped⟩ := Option.bind_eq_some_iff.mp stepped
        obtain ⟨depot, drops, rfl⟩ := Option.map_eq_some_iff.mp dropped
        exact .dropReceiver leaves isThere drops
      · cases stepped
  | stopDelivery =>
      simp only [Handover.step] at stepped
      split at stepped
      · next closes =>
        obtain ⟨depot, stops, rfl⟩ := Option.map_eq_some_iff.mp stepped
        exact .stopDelivery closes stops
      · cases stepped
  | finish =>
      simp only [Handover.step] at stepped
      split at stepped
      · next joins =>
        cases stepped
        exact .finish joins.1
      · cases stepped

/-- Whatever was placed is marked, lies in the channel, or lay there when the channel was dropped. -/
structure Tallied (broker : Broker) (handover : Handover) (courier : Courier) : Prop where
  came : ∃ done, Steps.run Depot.step done (Depot.start broker) = some handover.depot
  serves : handover.depot.Serves courier
  tally : courier.placed.map Prod.snd = handover.marked ++ (handover.lost.toList ++ courier.channel.slot.toList)
  inHand : handover.stage.hasChannel = true → courier.channel.listening = true ∧ handover.lost = none
  dropped : handover.stage.hasChannel = false → courier.channel.listening = false ∧ courier.channel.slot = none
  calm : handover.watch.stop = false → handover.lost = none ∧
    (handover.stage = .leaving → courier.phase = .finished ∧ courier.channel.slot = none)

theorem tallied_start (broker : Broker) (link : StoreLink) : Tallied broker (start broker link) .fresh where
  came := ⟨[.join 0], rfl⟩
  serves := rfl
  tally := rfl
  inHand _ := ⟨rfl, rfl⟩
  dropped closed := by cases closed
  calm _ := ⟨rfl, fun leaves => by cases leaves⟩

theorem Tallied.step_depot (tallied : Tallied broker handover courier) {move : Depot.Move} {depot : Depot}
    (stepped : handover.depot.step move = some depot) :
    ∃ done, Steps.run Depot.step done (Depot.start broker) = some depot := by
  obtain ⟨done, came⟩ := tallied.came
  exact ⟨done ++ [move], Steps.run_snoc came stepped⟩

theorem Tallied.transport (tallied : Tallied broker handover courier) {move : Depot.Move} {depot : Depot}
    (isTransport : move.isTransport = true) (stepped : handover.depot.step move = some depot) :
    ∃ courier', Tallied broker { handover with depot } courier' := by
  obtain ⟨courier', serves, carries⟩ := tallied.serves.transport isTransport stepped
  refine ⟨courier', tallied.step_depot stepped, serves, ?_, ?_, ?_, ?_⟩
  · cases carries with
    | nothing channel placed => rw [placed, channel, tallied.tally]
    | notice message notice offers listens free channel placed =>
        rw [placed, channel, List.map_append, tallied.tally, free]
        simp
  · intro hasChannel
    cases carries with
    | nothing channel => rw [channel]; exact tallied.inHand hasChannel
    | notice message notice offers listens free channel => exact ⟨by rw [channel], (tallied.inHand hasChannel).2⟩
  · intro closed
    cases carries with
    | nothing channel => rw [channel]; exact tallied.dropped closed
    | notice message notice offers listens =>
        rw [(tallied.dropped closed).1] at listens
        cases listens
  · intro calm
    refine ⟨(tallied.calm calm).1, fun leaves => ?_⟩
    obtain ⟨finished, empty⟩ := (tallied.calm calm).2 leaves
    cases carries with
    | nothing channel placed stays => exact ⟨stays finished, by rw [channel, empty]⟩
    | notice message notice offers =>
        rw [finished] at offers
        cases offers

theorem Tallied.woken (tallied : Tallied broker handover courier) (listens : handover.stage = .listening)
    (woken : Woken handover courier next) : ∃ courier', Tallied broker next courier' := by
  have hasChannel : handover.stage.hasChannel = true := by rw [listens]; rfl
  obtain ⟨listening, noneLost⟩ := tallied.inHand hasChannel
  cases woken with
  | leaves turn reason =>
      refine ⟨courier, tallied.came, tallied.serves, tallied.tally, fun _ => ⟨listening, noneLost⟩,
        fun closed => (by cases closed), fun calm => ⟨noneLost, fun _ => ?_⟩⟩
      rcases reason with stop | closed
      · rw [calm] at stop
        cases stop
      · exact Courier.arrival_eq_closed closed
  | waits =>
      exact ⟨courier, tallied.came, tallied.serves, tallied.tally, tallied.inHand, tallied.dropped, tallied.calm⟩
  | @marks notice depot turn arrives takes =>
      have slot := Courier.arrival_eq_notice arrives
      have tally := tallied.tally
      rw [slot, noneLost] at tally
      refine ⟨_, tallied.step_depot takes, tallied.serves.change takes, ?_, fun _ => ⟨listening, noneLost⟩,
        fun closed => ?_, fun _ => ⟨noneLost, fun leaves => ?_⟩⟩
      · change courier.placed.map Prod.snd = handover.marked ++ [notice] ++ (handover.lost.toList ++ [])
        rw [tally, noneLost]
        simp
      · rw [hasChannel] at closed
        cases closed
      · rw [listens] at leaves
        cases leaves

theorem Tallied.dropReceiver (tallied : Tallied broker handover courier) (leaves : handover.stage = .leaving)
    {depot : Depot} (drops : handover.depot.step (.dropReceiver 0) = some depot) :
    ∃ courier', Tallied broker { handover with depot, stage := .closing, lost := courier.channel.slot } courier' := by
  obtain ⟨-, noneLost⟩ := tallied.inHand (by rw [leaves]; rfl)
  refine ⟨_, tallied.step_depot drops, tallied.serves.change drops, ?_, fun closed => (by cases closed),
    fun _ => ⟨rfl, rfl⟩, fun calm => ⟨((tallied.calm calm).2 leaves).2, fun stays => by cases stays⟩⟩
  change courier.placed.map Prod.snd = handover.marked ++ (courier.channel.slot.toList ++ [])
  rw [tallied.tally, noneLost]
  simp

theorem Tallied.step {move : Move} (tallied : Tallied broker handover courier)
    (stepped : handover.step move = some next) : ∃ courier', Tallied broker next courier' := by
  cases stepped_of_step stepped with
  | transport isTransport moved => exact tallied.transport isTransport moved
  | reload | abandonWatch =>
      exact ⟨courier, tallied.came, tallied.serves, tallied.tally, tallied.inHand, tallied.dropped, tallied.calm⟩
  | requestStop =>
      exact ⟨courier, tallied.came, tallied.serves, tallied.tally, tallied.inHand, tallied.dropped,
        fun calm => by cases calm⟩
  | wake listens isThere woken =>
      obtain ⟨-, rfl⟩ := tallied.serves.eq_zero isThere
      exact tallied.woken listens woken
  | dropReceiver leaves isThere drops =>
      obtain ⟨-, rfl⟩ := tallied.serves.eq_zero isThere
      exact tallied.dropReceiver leaves drops
  | stopDelivery closes stops =>
      have dropped := tallied.dropped (by rw [closes]; rfl)
      exact ⟨_, tallied.step_depot stops, tallied.serves.change stops, tallied.tally, fun closed => (by cases closed),
        fun _ => dropped, fun calm => ⟨(tallied.calm calm).1, fun stays => by cases stays⟩⟩
  | finish joins =>
      have dropped := tallied.dropped (by rw [joins]; rfl)
      exact ⟨courier, tallied.came, tallied.serves, tallied.tally, fun closed => (by cases closed),
        fun _ => dropped, fun calm => ⟨(tallied.calm calm).1, fun stays => by cases stays⟩⟩

theorem tallied_of_run {moves : List Move} (ran : Steps.run step moves (start broker link) = some handover) :
    ∃ courier, Tallied broker handover courier := by
  refine Steps.run_keep (fun _ handover => ∃ courier, Tallied broker handover courier)
    ⟨.fresh, tallied_start broker link⟩ ?_ ran
  rintro done move rest handover next - - stepped ⟨courier, tallied⟩
  exact tallied.step stepped

/-- When the sender has returned, every readable notice that has gone from the queue was passed on to be marked, but
for one at most: the notice that lay in the channel when the sender left it on request. -/
theorem handled_of_run (ordered : broker.Ordered) {moves : List Move}
    (ran : Steps.run step moves (start broker link) = some handover) (returned : handover.stage = .returned) :
    ∃ handled held : List (Message × Notice), handled.map Prod.snd = handover.marked ∧
      held.map Prod.snd = handover.lost.toList ∧ (handover.watch.stop = false → held = []) ∧
      ∀ message ∈ handover.depot.published, ∀ notice, message.queue = Broker.noticeQueue →
        Notice.decode message.payload = .ok notice → message ∉ handover.depot.broker.rows →
        (message, notice) ∈ handled ∨ (message, notice) ∈ held := by
  obtain ⟨courier, tallied⟩ := tallied_of_run ran
  obtain ⟨done, came⟩ := tallied.came
  have sound := Depot.sound_of_run ordered came
  obtain ⟨-, empty⟩ := tallied.dropped (by rw [returned]; rfl)
  have tally := tallied.tally
  rw [empty, Option.toList_none, List.append_nil] at tally
  obtain ⟨handled, held, whole, marked, lost⟩ := List.map_eq_append_iff.mp tally
  refine ⟨handled, held, marked, lost, fun calm => ?_, ?_⟩
  · rw [(tallied.calm calm).1] at lost
    exact List.map_eq_nil_iff.mp lost
  · intro message isPublished notice queue reads isGone
    obtain ⟨-, -, ⟨key, found, notice', isThere, placed⟩ | ⟨fault, fails⟩⟩ := sound.removed message isPublished isGone
    · obtain ⟨rfl, rfl⟩ := tallied.serves.eq_zero isThere
      have decodes := ((sound.couriers 0 found isThere).placed message notice' placed).2.2
      rw [reads] at decodes
      cases decodes
      rw [whole] at placed
      exact List.mem_append.mp placed
    · rw [reads] at fails
      cases fails

def Stage.leg : Stage → Sender.Leg
  | listening => .looping
  | leaving | closing | joining => .out
  | returned => .returned

def Looped (link : StoreLink) (handover : Handover) : Prop :=
  Sender.Looped link handover.wakes handover.stage.leg handover.sender

theorem looped_start (broker : Broker) (link : StoreLink) : Looped link (start broker link) := Sender.looped_start link

theorem Looped.woken (looped : Looped link handover) (listens : handover.stage = .listening)
    (woken : Woken handover courier next) : Looped link next := by
  rw [Looped, listens] at looped
  cases woken with
  | leaves turn => exact looped.turn turn
  | waits turn | marks turn =>
      have turned := looped.turn turn
      simp only [Looped, listens]
      exact turned

theorem Looped.step {move : Move} (looped : Looped link handover) (alone : ∀ link', move ≠ .reload link')
    (stepped : handover.step move = some next) : Looped link next := by
  cases stepped_of_step stepped with
  | reload link' => exact absurd rfl (alone link')
  | transport | requestStop | abandonWatch => exact looped
  | wake listens isThere woken => exact looped.woken listens woken
  | dropReceiver leaves | stopDelivery leaves =>
      rw [Looped, leaves] at looped
      exact looped
  | finish joins =>
      rw [Looped, joins] at looped
      exact looped.closeConsumer.closeStore

-- Unless others change the store meanwhile, the sender that has returned is what a run over the wakes makes of it.
theorem sender_of_run {moves : List Move} (alone : ∀ link', .reload link' ∉ moves)
    (ran : Steps.run step moves (start broker link) = some handover) (returned : handover.stage = .returned) :
    Sender.run false handover.wakes (.start link) = (.ok .finished, handover.sender) := by
  have looped : Looped link handover := by
    refine Steps.run_keep (fun _ handover => Looped link handover) (looped_start broker link) ?_ ran
    intro done move rest handover next whole _ stepped looped
    refine looped.step (fun link' same => alone link' ?_) stepped
    simp [whole, same]
  rw [Looped, returned] at looped
  exact looped.run

theorem run_offer {payload : Text.RawText} {notice : Notice} {moves : List Move}
    (reads : Notice.decode payload = .ok notice) :
    let message : Message := ⟨1, Broker.noticeQueue, payload⟩
    Steps.run step
        (.transport (.publish Broker.noticeQueue payload .sound) :: .transport (.act 0 .start .sound) ::
          .transport (.act 0 .look .sound) :: moves) (start .empty link) =
      Steps.run step moves
        { start .empty link with
          depot := ⟨⟨[message], 1, .sound⟩, FinMap.empty.put 0 ⟨.offering message notice, .empty, .start, []⟩, [],
            [message], []⟩ } := by
  intro message
  let before : Depot := ⟨⟨[message], 1, .sound⟩, FinMap.empty.put 0 ⟨.looking, .empty, .start, []⟩, [], [message], []⟩
  have looks := @Depot.step_look before 0 _ message _ _ rfl rfl rfl reads
  have starts : Steps.run step
      [.transport (.publish Broker.noticeQueue payload .sound), .transport (.act 0 .start .sound)] (start .empty link) =
      some { start .empty link with depot := before } := rfl
  have offers := @step_transport { start .empty link with depot := before } (.act 0 .look .sound) _ rfl looks
  exact Steps.run_past starts offers

theorem handled_of_mark_before_stop :
    let message : Message := ⟨1, Broker.noticeQueue, Text.RawText.ofString "[1,\"\",\"1970-01-01T00:00:00Z\",7]"⟩
    let moves : List Move := [.transport (.publish message.queue message.payload .sound),
      .transport (.act 0 .start .sound), .transport (.act 0 .look .sound), .transport (.act 0 .deliver .sound),
      .wake, .requestStop, .wake, .dropReceiver, .stopDelivery, .transport (.act 0 .settle .sound),
      .transport (.act 0 .quit .sound), .finish]
    Broker.empty.Ordered ∧ ∃ handover, Steps.run step moves (start .empty (.direct (.memory .empty))) = some handover ∧
      handover.stage = .returned ∧ message ∉ handover.depot.broker.rows ∧
      ∃ handled : List (Message × Notice), handled.map Prod.snd = handover.marked ∧
        (message, ⟨1, "", epoch, 7⟩) ∈ handled := by
  intro message moves
  have reads : Notice.decode message.payload = .ok ⟨1, "", epoch, 7⟩ := Notice.decode_listOf ⟨1, "", epoch, 7⟩
  have outcome : (Steps.run step moves (start .empty (.direct (.memory .empty)))).map (fun handover =>
      (handover.stage, handover.depot.published, handover.depot.broker.rows, handover.lost)) =
      some (.returned, [message], [], none) := by
    rw [show moves = _ :: _ :: _ :: moves.drop 3 from rfl, run_offer reads]
    decide +kernel
  obtain ⟨handover, ran, seen⟩ := Option.map_eq_some_iff.mp outcome
  obtain ⟨returned, published, rows, lost⟩ : handover.stage = .returned ∧ handover.depot.published = [message] ∧
      handover.depot.broker.rows = [] ∧ handover.lost = none := by simpa using seen
  have ordered : Broker.empty.Ordered := ⟨.nil, by simp [Broker.empty]⟩
  obtain ⟨handled, held, isMarked, isLost, -, whole⟩ := handled_of_run ordered ran returned
  rw [lost] at isLost
  cases List.map_eq_nil_iff.mp isLost
  have isHandled := whole message (by simp [published]) _ rfl reads (by simp [rows])
  exact ⟨ordered, handover, ran, returned, by simp [rows], handled, isMarked, isHandled.resolve_right List.not_mem_nil⟩

/-- A sender that is asked to stop while a notice lies in its channel: the row is gone, and nothing was marked. -/
theorem unhandled_of_stop_with_full_channel :
    let message : Message := ⟨1, Broker.noticeQueue, Text.RawText.ofString "[1,\"\",\"1970-01-01T00:00:00Z\",7]"⟩
    let moves : List Move := [.transport (.publish message.queue message.payload .sound),
      .transport (.act 0 .start .sound), .transport (.act 0 .look .sound), .transport (.act 0 .deliver .sound),
      .transport (.act 0 .settle .sound), .requestStop, .wake, .dropReceiver, .stopDelivery,
      .transport (.act 0 .quit .sound), .finish]
    Broker.empty.Ordered ∧ ∃ handover, Steps.run step moves (start .empty (.direct (.memory .empty))) = some handover ∧
      handover.stage = .returned ∧ message ∈ handover.depot.published ∧
      Notice.decode message.payload = .ok ⟨1, "", epoch, 7⟩ ∧ message ∉ handover.depot.broker.rows ∧
      handover.marked = [] := by
  intro message moves
  have reads : Notice.decode message.payload = .ok ⟨1, "", epoch, 7⟩ := Notice.decode_listOf ⟨1, "", epoch, 7⟩
  have outcome : (Steps.run step moves (start .empty (.direct (.memory .empty)))).map (fun handover =>
      (handover.stage, handover.depot.published, handover.depot.broker.rows, handover.marked)) =
      some (.returned, [message], [], []) := by
    rw [show moves = _ :: _ :: _ :: moves.drop 3 from rfl, run_offer reads]
    decide +kernel
  obtain ⟨handover, ran, seen⟩ := Option.map_eq_some_iff.mp outcome
  obtain ⟨returned, published, rows, marked⟩ : handover.stage = .returned ∧ handover.depot.published = [message] ∧
      handover.depot.broker.rows = [] ∧ handover.marked = [] := by simpa using seen
  exact ⟨⟨.nil, by simp [Broker.empty]⟩, handover, ran, returned, by simp [published], reads, by simp [rows], marked⟩

end Handover
end Datebook
