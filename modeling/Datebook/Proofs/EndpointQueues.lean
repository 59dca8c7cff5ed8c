import Datebook.Queue.Consumer
import Datebook.Proofs.DeliveredNotices
import Datebook.Proofs.NoticeBatch
import Datebook.Proofs.RecordRoundTrip

/-!
Endpoints that were made for a queue that is open. Main statement: until it is closed such an endpoint stays on its
queue, whatever others do: a producer appends to it what it sends, and a consumer delivers from it. Once closed it
never comes back: where it connects again it is to a new database that nobody else reaches.
-/

set_option autoImplicit false

namespace Datebook

namespace Exchange

variable {exchange next : Exchange} {address other : Address}

def Knows (exchange : Exchange) : Address → Prop
  | .file _ => True
  | .ephemeral number => number < exchange.opened

theorem Knows.mono (knows : exchange.Knows address) (later : exchange.opened ≤ next.opened) : next.Knows address := by
  cases address with
  | file path => trivial
  | ephemeral number => exact Nat.lt_of_lt_of_le knows later

theorem Knows.ne_new (knows : exchange.Knows address) : address ≠ .ephemeral exchange.opened := by
  rintro rfl
  exact Nat.lt_irrefl _ knows

theorem broker_openEphemeral (exchange : Exchange) (other : Address) :
    exchange.openEphemeral.2.broker other =
      if other = .ephemeral exchange.opened then .empty else exchange.broker other := by
  simp only [openEphemeral, broker_setBroker]
  rfl

end Exchange

namespace Endpoint

variable {queue address : Address} {closed : Bool} {endpoint : Endpoint} {exchange next : Exchange}

theorem connect_of_linked (exchange : Exchange) (linked : endpoint.link = some address) :
    endpoint.connect exchange = (endpoint, exchange) := by
  simp only [connect, linked]

theorem connect_of_unlinked (exchange : Exchange) (unlinked : endpoint.link = none) (path : endpoint.url = "") :
    endpoint.connect exchange =
      ({ endpoint with link := some (.ephemeral exchange.opened) }, exchange.openEphemeral.2) := by
  simp only [connect, unlinked, path, Exchange.openPath, if_true]
  rfl

structure MadeFor (queue : Address) (closed : Bool) (endpoint : Endpoint) (exchange : Exchange) : Prop where
  path : endpoint.url = ""
  knows : exchange.Knows queue
  stays : closed = false → endpoint.link = some queue
  leaves : closed = true → endpoint.link ≠ some queue

theorem madeFor_ofQueue (knows : exchange.Knows queue) : MadeFor queue false (.ofQueue queue) exchange :=
  ⟨rfl, knows, fun _ => rfl, nofun⟩

theorem MadeFor.others (made : MadeFor queue closed endpoint exchange) (later : exchange.opened ≤ next.opened) :
    MadeFor queue closed endpoint next :=
  ⟨made.path, made.knows.mono later, made.stays, made.leaves⟩

theorem MadeFor.close (made : MadeFor queue closed endpoint exchange) : MadeFor queue true endpoint.close exchange :=
  ⟨made.path, made.knows, nofun, nofun⟩

theorem MadeFor.connect (made : MadeFor queue closed endpoint exchange) :
    MadeFor queue closed (endpoint.connect exchange).1 (endpoint.connect exchange).2 := by
  cases linked : endpoint.link with
  | some address =>
      rw [connect_of_linked _ linked]
      exact made
  | none =>
      rw [connect_of_unlinked _ linked made.path]
      refine ⟨made.path, made.knows.mono (Nat.le_succ _), fun isOpen => ?_, fun _ same => ?_⟩
      · cases linked.symm.trans (made.stays isOpen)
      · exact made.knows.ne_new (Option.some.inj same).symm

theorem MadeFor.broker_connect (made : MadeFor queue closed endpoint exchange) :
    (endpoint.connect exchange).2.broker queue = exchange.broker queue := by
  cases linked : endpoint.link with
  | some address => rw [connect_of_linked _ linked]
  | none => rw [connect_of_unlinked _ linked made.path, Exchange.broker_openEphemeral, if_neg made.knows.ne_new]

theorem opened_send (endpoint : Endpoint) (notice : Notice) (exchange : Exchange) :
    (endpoint.send notice exchange).2.opened = exchange.opened := by
  simp only [send]
  split <;> rfl

end Endpoint

structure Posting where
  queue : Address
  endpoint : Endpoint
  exchange : Exchange
  closed : Bool

namespace Posting

inductive Move where
  | connect
  | close
  | send (event : Event)
  | others (exchange : Exchange)
  deriving DecidableEq

def start (queue : Address) (exchange : Exchange) : Posting := ⟨queue, .ofQueue queue, exchange, false⟩

def step (posting : Posting) : Move → Option Posting
  | .connect =>
      let (endpoint, exchange) := posting.endpoint.connect posting.exchange
      some { posting with endpoint, exchange }
  | .close => some { posting with endpoint := posting.endpoint.close, closed := true }
  | .send event =>
      some { posting with exchange := (posting.endpoint.send event.toNotice posting.exchange).2 }
  | .others exchange =>
      if posting.exchange.opened ≤ exchange.opened then some { posting with exchange } else none

def Made (posting : Posting) : Prop :=
  posting.endpoint.MadeFor posting.queue posting.closed posting.exchange

variable {posting next : Posting} {move : Move} {moves : List Move} {queue : Address} {exchange : Exchange}

theorem Made.step (made : posting.Made) (stepped : posting.step move = some next) : next.Made := by
  cases move with
  | connect =>
      cases stepped
      exact Endpoint.MadeFor.connect made
  | close =>
      cases stepped
      exact Endpoint.MadeFor.close made
  | send event =>
      cases stepped
      exact Endpoint.MadeFor.others made (Nat.le_of_eq (Endpoint.opened_send _ _ _).symm)
  | others exchange =>
      obtain ⟨later, acts⟩ := Option.ite_none_right_eq_some.mp stepped
      cases acts
      exact Endpoint.MadeFor.others made later

theorem made_of_run (knows : exchange.Knows queue)
    (ran : Steps.run Posting.step moves (start queue exchange) = some posting) : posting.Made := by
  have initial : (start queue exchange).Made := Endpoint.madeFor_ofQueue knows
  exact Steps.run_invariant initial (fun _ _ _ _ stepped made => made.step stepped) ran

structure Posts (posting : Posting) : Prop where
  connects : posting.closed = false → posting.step .connect = some posting
  appends : posting.closed = false → ∀ event : Event,
    (posting.endpoint.send event.toNotice posting.exchange).1 = .ok () →
    Exchange.Appends posting.queue [event.toNotice] posting.exchange
      (posting.endpoint.send event.toNotice posting.exchange).2
  refuses : ∀ (event : Event) error, (posting.endpoint.send event.toNotice posting.exchange).1 = .error error →
    ∀ address, (posting.endpoint.send event.toNotice posting.exchange).2.broker address =
      posting.exchange.broker address
  away : posting.closed = true →
    (posting.endpoint.connect posting.exchange).2.broker posting.queue = posting.exchange.broker posting.queue ∧
      ∀ event : Event, (posting.endpoint.send event.toNotice posting.exchange).2.broker posting.queue =
        posting.exchange.broker posting.queue

theorem Made.posts (made : posting.Made) : posting.Posts where
  connects isOpen := by
    simp only [Posting.step, Endpoint.connect_of_linked _ (made.stays isOpen)]
  appends isOpen event succeeds := by
    have sent := posting.endpoint.sent_send event.toNotice posting.exchange
    generalize posting.endpoint.send event.toNotice posting.exchange = outcome at sent succeeds ⊢
    cases sent with
    | appended linked appends =>
        cases linked.symm.trans (made.stays isOpen)
        exact appends
    | unlinked | refused => cases succeeds
  refuses event error fails := by
    have sent := posting.endpoint.sent_send event.toNotice posting.exchange
    generalize posting.endpoint.send event.toNotice posting.exchange = outcome at sent fails ⊢
    cases sent with
    | appended => cases fails
    | unlinked => exact fun _ => rfl
    | refused linked same => exact same
  away isClosed := by
    refine ⟨Endpoint.MadeFor.broker_connect made, fun event => ?_⟩
    have sent := posting.endpoint.sent_send event.toNotice posting.exchange
    generalize posting.endpoint.send event.toNotice posting.exchange = outcome at sent ⊢
    cases sent with
    | appended linked appends => exact appends.others _ fun same => made.leaves isClosed (same ▸ linked)
    | unlinked => rfl
    | refused linked same => exact same _

end Posting

namespace Courier

variable {held more : List Message} {courier courier' : Courier} {broker : Broker} {delivery : Delivery}
  {move : Delivery.Move}

structure Reads (held : List Message) (courier : Courier) : Prop where
  placed : ∀ message notice, (message, notice) ∈ courier.placed →
    message ∈ held ∧ Notice.decode message.payload = .ok notice
  offers : ∀ message notice, courier.phase = .offering message notice →
    message ∈ held ∧ Notice.decode message.payload = .ok notice

theorem Reads.mono (reads : courier.Reads held) (grown : held ⊆ more) : courier.Reads more :=
  ⟨fun message notice isPlaced => (reads.placed message notice isPlaced).imp_left (grown ·),
    fun message notice offers => (reads.offers message notice offers).imp_left (grown ·)⟩

theorem Reads.congr (reads : courier.Reads held) (placed : courier'.placed = courier.placed)
    (phase : courier'.phase = courier.phase ∨ courier'.phase.held? = none) : courier'.Reads held := by
  refine ⟨placed ▸ reads.placed, fun message notice offers => ?_⟩
  rcases phase with same | free
  · exact reads.offers message notice (same ▸ offers)
  · rw [offers] at free
    cases free

theorem reads_fresh : fresh.Reads held where
  placed message notice isPlaced := by cases isPlaced
  offers message notice offers := by cases offers

theorem Reads.act (reads : courier.Reads held) (rows : broker.rows ⊆ held)
    (moved : (courier.delivery broker).Moved move delivery) :
    Reads held { courier.after delivery with placed := courier.placed ++ courier.places move } := by
  cases moved with
  | quit | start => exact ⟨by simpa [places] using reads.placed, fun _ _ offers => by cases offers⟩
  | look looks =>
      refine ⟨by simpa [places] using reads.placed, fun message notice offers => ?_⟩
      have offers : (courier.delivery broker).look = .offering message notice := offers
      rcases (courier.delivery broker).look_eq_or with rests |
        ⟨message', rest, first, ⟨notice', reads', offers'⟩ | ⟨fault, fails, skips⟩⟩
      · cases offers.symm.trans rests
      · cases offers.symm.trans offers'
        have isRow : message ∈ broker.waiting Broker.noticeQueue := by
          rw [show broker.waiting Broker.noticeQueue = message :: rest from first]
          exact List.mem_cons_self
        exact ⟨rows (List.mem_of_mem_filter isRow), reads'⟩
      · cases offers.symm.trans skips
  | @deliver message notice offers =>
      have offers : courier.phase = .offering message notice := offers
      refine ⟨fun other notice' isPlaced => ?_, fun _ _ offers => by cases offers⟩
      simp only [places, offers, List.mem_append, List.mem_singleton] at isPlaced
      rcases isPlaced with before | isNew
      · exact reads.placed other notice' before
      · cases isNew
        exact reads.offers message notice offers
  | @settle message settles =>
      refine ⟨by simpa [places] using reads.placed, fun other notice offers => ?_⟩
      rcases (courier.delivery broker).settle_eq_or message with done | ⟨-, failed⟩
      · simp only [after, done] at offers
        cases offers
      · simp only [after, failed] at offers
        cases offers

end Courier

namespace Delivery

variable {watch : Watch} {delivery next : Delivery} {move : Move}

theorem Moved.rows_subset (moved : delivery.Moved move next) : next.broker.rows ⊆ delivery.broker.rows := by
  cases moved with
  | settle settles =>
      rcases delivery.settle_eq_or _ with done | ⟨-, failed⟩
      · rw [done]
        exact fun row member => List.mem_of_mem_filter member
      · rw [failed]
        exact List.Subset.refl _
  | _ => exact List.Subset.refl _

-- A delivery that is not asked to stop ends only when nobody listens any more.
theorem unheard_of_finished (moved : delivery.move? watch move = some next) (finished : next.phase = .finished)
    (goesOn : watch.stop = false) (held : watch.held = true) : next.channel.listening = false := by
  cases moved_of_move? moved with
  | quit free =>
      obtain ⟨may, -⟩ := Option.ite_none_right_eq_some.mp moved
      unfold mayQuit at may
      split at may <;> simp_all
  | start | deliver => cases finished
  | look looks =>
      have finished : delivery.look = .finished := finished
      rcases delivery.look_eq_or with rests | ⟨message, rest, -, ⟨notice, -, offers⟩ | ⟨fault, -, skips⟩⟩
      · cases finished.symm.trans rests
      · cases finished.symm.trans offers
      · cases finished.symm.trans skips
  | @settle message settles =>
      rcases delivery.settle_eq_or message with done | ⟨-, failed⟩
      · rw [done] at finished
        cases finished
      · rw [failed] at finished
        cases finished

theorem move?_of_finished (finished : delivery.phase = .finished) : delivery.move? watch move = none := by
  cases move <;> simp [move?, mayQuit, finished]

end Delivery

namespace Consumer

variable {consumer : Consumer} {exchange : Exchange}

theorem connect_of_delivering (delivers : consumer.delivering = true) :
    consumer.connect exchange = (.ok (), consumer, exchange) := by
  simp only [connect, delivers, if_true]

theorem connect_of_started (ended : consumer.delivering = false) (started : consumer.started = true) :
    consumer.connect exchange = (.error .notConnected,
      { consumer with endpoint := (consumer.endpoint.connect exchange).1 },
      (consumer.endpoint.connect exchange).2) := by
  simp [connect, ended, started]

theorem connect_of_unstarted (ended : consumer.delivering = false) (unstarted : consumer.started = false) :
    consumer.connect exchange = (.ok (),
      { consumer with endpoint := (consumer.endpoint.connect exchange).1, started := true, delivering := true },
      (consumer.endpoint.connect exchange).2) := by
  simp [connect, ended, unstarted]

theorem takeChannel_eq (consumer : Consumer) : consumer.takeChannel.2 = { consumer with channelTaken := true } := by
  obtain ⟨endpoint, taken, started, delivering⟩ := consumer
  cases taken <;> rfl

end Consumer

structure Subscription where
  queue : Address
  consumer : Consumer
  exchange : Exchange
  courier : Courier
  -- The database that the delivery polls.
  source : Option Address
  -- A call to close it waits for the delivery.
  closing : Bool
  closed : Bool
  held : List Message

namespace Subscription

inductive Move where
  | connect
  | beginClose
  | endClose
  | takeChannel
  | take
  | dropReceiver
  -- The state is that of the database during the move, so that any request may fail.
  | act (move : Delivery.Move) (state : BrokerState)
  | wake
  -- Others have worked on the databases that they reach and may have opened new ones.
  | others (exchange : Exchange)
  deriving DecidableEq

def start (queue : Address) (exchange : Exchange) : Subscription :=
  ⟨queue, .ofQueue queue, exchange, { Courier.fresh with phase := .finished }, none, false, false,
    (exchange.broker queue).rows⟩

def connect (subscription : Subscription) : Subscription :=
  let (_, consumer, exchange) := subscription.consumer.connect subscription.exchange
  -- A consumer starts once, and the delivery that it starts is its only one.
  if consumer.started = subscription.consumer.started then { subscription with consumer, exchange }
  else
    { subscription with
      consumer
      exchange
      courier := { subscription.courier with phase := .beginning }
      source := consumer.endpoint.link }

def beginClose (subscription : Subscription) : Subscription :=
  -- The request reaches a delivery that there is, and is not kept for one that starts later.
  let watch :=
    if subscription.source.isSome then subscription.courier.watch.request else subscription.courier.watch
  { subscription with courier := { subscription.courier with watch }, closing := true }

def act (subscription : Subscription) (move : Delivery.Move) (state : BrokerState) (address : Address) :
    Option Subscription :=
  let broker := subscription.exchange.broker address
  ((subscription.courier.delivery { broker with state }).move? subscription.courier.watch move).map fun delivery =>
    { subscription with
      courier :=
        { subscription.courier.after delivery with
          placed := subscription.courier.placed ++ subscription.courier.places move }
      exchange := subscription.exchange.setBroker address { delivery.broker with state := broker.state } }

/-- Others do not reach a database that the consumer has opened for itself. -/
def Spares (subscription : Subscription) (exchange : Exchange) : Bool :=
  subscription.source.all fun address =>
    address = subscription.queue || exchange.broker address = subscription.exchange.broker address

def step (subscription : Subscription) : Move → Option Subscription
  | .connect => if subscription.closing then none else some subscription.connect
  | .beginClose => if subscription.closing then none else some subscription.beginClose
  | .endClose =>
      if subscription.closing ∧ subscription.courier.phase = .finished then
        some { subscription with consumer := subscription.consumer.close, closing := false, closed := true }
      else none
  | .takeChannel =>
      if subscription.closing then none
      else some { subscription with consumer := subscription.consumer.takeChannel.2 }
  | .take =>
      let channel := subscription.courier.channel.take.2
      some { subscription with courier := { subscription.courier with channel } }
  | .dropReceiver =>
      let channel := subscription.courier.channel.drop
      some { subscription with courier := { subscription.courier with channel } }
  | .act move state => subscription.source.bind (subscription.act move state)
  | .wake =>
      if subscription.courier.phase = .resting then
        some { subscription with courier := { subscription.courier with phase := .beginning } }
      else none
  | .others exchange =>
      if subscription.exchange.opened ≤ exchange.opened ∧ subscription.Spares exchange then
        some { subscription with
          exchange
          held := subscription.held ++ (exchange.broker subscription.queue).rows }
      else none

variable {subscription next : Subscription} {move : Move} {moves : List Move} {queue : Address} {exchange : Exchange}

theorem step_look {address : Address} {message : Message} {rest : List Message} {notice : Notice}
    (source : subscription.source = some address) (looks : subscription.courier.phase = .looking)
    (first : (subscription.exchange.broker address).waiting Broker.noticeQueue = message :: rest)
    (reads : Notice.decode message.payload = .ok notice) :
    subscription.step (.act .look .sound) = some
      { subscription with
        courier := { subscription.courier with phase := .offering message notice }
        exchange := subscription.exchange.setBroker address (subscription.exchange.broker address) } := by
  have seen : Broker.peek { subscription.exchange.broker address with state := .sound } Broker.noticeQueue =
      .ok (some message) := congrArg (fun rows => Except.ok (List.head? rows)) first
  rw [step, source, Option.bind_some, act, Delivery.move?_look looks seen reads]
  simp [Courier.delivery, Courier.after, Courier.places, source]

inductive Mode (subscription : Subscription) : Prop where
  | unconnected (source : subscription.source = none) (unstarted : subscription.consumer.started = false)
      (ended : subscription.consumer.delivering = false) (phase : subscription.courier.phase = .finished)
      (watch : subscription.courier.watch = .start)
      (unlinked : subscription.closed = true → subscription.consumer.endpoint.link = none)
  | polling (source : subscription.source = some subscription.queue) (isOpen : subscription.closed = false)
      (started : subscription.consumer.started = true) (delivers : subscription.consumer.delivering = true)
      (held : subscription.courier.watch.held = true)
      (listens : subscription.closing = false → subscription.courier.watch.stop = false ∧
        (subscription.courier.phase = .finished → subscription.courier.channel.listening = false))
  | ceased (source : subscription.source = some subscription.queue) (isClosed : subscription.closed = true)
      (started : subscription.consumer.started = true) (ended : subscription.consumer.delivering = false)
      (phase : subscription.courier.phase = .finished)
  -- It polls a database that only it reaches.
  | away {address : Address} (source : subscription.source = some address) (differs : address ≠ subscription.queue)
      (isClosed : subscription.closed = true) (started : subscription.consumer.started = true)
      (empty : (subscription.exchange.broker address).rows = [])

structure Stays (subscription : Subscription) : Prop where
  made : subscription.consumer.endpoint.MadeFor subscription.queue subscription.closed subscription.exchange
  reads : subscription.courier.Reads subscription.held
  rows : (subscription.exchange.broker subscription.queue).rows ⊆ subscription.held
  mode : subscription.Mode

theorem stays_start (knows : exchange.Knows queue) : (start queue exchange).Stays where
  made := Endpoint.madeFor_ofQueue knows
  reads := Courier.reads_fresh.congr rfl (.inr rfl)
  rows := List.Subset.refl _
  mode := .unconnected rfl rfl rfl rfl rfl nofun

theorem connect_of_delivering (delivers : subscription.consumer.delivering = true) :
    subscription.connect = subscription := by
  simp only [connect, Consumer.connect_of_delivering delivers, if_true]

theorem connect_of_started (ended : subscription.consumer.delivering = false)
    (started : subscription.consumer.started = true) :
    subscription.connect = { subscription with
      consumer := { subscription.consumer with
        endpoint := (subscription.consumer.endpoint.connect subscription.exchange).1 }
      exchange := (subscription.consumer.endpoint.connect subscription.exchange).2 } := by
  simp only [connect, Consumer.connect_of_started ended started, if_true]

theorem connect_of_unstarted (ended : subscription.consumer.delivering = false)
    (unstarted : subscription.consumer.started = false) :
    subscription.connect = { subscription with
      consumer := { subscription.consumer with
        endpoint := (subscription.consumer.endpoint.connect subscription.exchange).1
        started := true
        delivering := true }
      exchange := (subscription.consumer.endpoint.connect subscription.exchange).2
      courier := { subscription.courier with phase := .beginning }
      source := (subscription.consumer.endpoint.connect subscription.exchange).1.link } := by
  simp [connect, Consumer.connect_of_unstarted ended unstarted, unstarted]

theorem rows_connect (endpoint : Endpoint) (exchange : Exchange) (path : endpoint.url = "") {address : Address}
    (empty : (exchange.broker address).rows = []) : ((endpoint.connect exchange).2.broker address).rows = [] := by
  cases linked : endpoint.link with
  | some other => rwa [Endpoint.connect_of_linked _ linked]
  | none =>
      rw [Endpoint.connect_of_unlinked _ linked path, Exchange.broker_openEphemeral]
      split
      · rfl
      · exact empty

theorem Stays.connect (stays : subscription.Stays) : subscription.connect.Stays := by
  have made := stays.made.connect
  have rows : ((subscription.consumer.endpoint.connect subscription.exchange).2.broker subscription.queue).rows ⊆
      subscription.held := by
    rw [stays.made.broker_connect]
    exact stays.rows
  cases stays.mode with
  | polling source isOpen started delivers =>
      rw [connect_of_delivering delivers]
      exact stays
  | ceased source isClosed started ended phase =>
      rw [connect_of_started ended started]
      exact ⟨made, stays.reads, rows, .ceased source isClosed started ended phase⟩
  | away source differs isClosed started empty =>
      cases delivers : subscription.consumer.delivering with
      | true =>
          rw [connect_of_delivering delivers]
          exact stays
      | false =>
          rw [connect_of_started delivers started]
          refine ⟨made, stays.reads, rows, .away source differs isClosed started ?_⟩
          exact rows_connect _ _ stays.made.path empty
  | unconnected source unstarted ended phase watch unlinked =>
      -- The one connect that starts a delivery: on the queue, unless the endpoint has been closed before.
      rw [connect_of_unstarted ended unstarted]
      refine ⟨made, stays.reads.congr rfl (.inr rfl), rows, ?_⟩
      cases isOpen : subscription.closed with
      | false =>
          have linked := stays.made.stays isOpen
          have awake : subscription.courier.watch.stop = false := by rw [watch]; rfl
          refine .polling ?_ rfl rfl rfl (by rw [watch]; rfl) fun _ => ⟨awake, nofun⟩
          simp only [Endpoint.connect_of_linked _ linked, linked]
      | true =>
          have opened := Endpoint.connect_of_unlinked subscription.exchange (unlinked isOpen) stays.made.path
          refine .away (by simp only [opened]) stays.made.knows.ne_new.symm rfl rfl ?_
          simp only [opened, Exchange.broker_openEphemeral, if_true]
          rfl

theorem Stays.beginClose (stays : subscription.Stays) : subscription.beginClose.Stays := by
  refine ⟨stays.made, stays.reads.congr rfl (.inl rfl), stays.rows, ?_⟩
  cases stays.mode with
  | unconnected source unstarted ended phase watch unlinked =>
      refine .unconnected source unstarted ended phase ?_ unlinked
      simpa [Subscription.beginClose, source] using watch
  | polling source isOpen started delivers held =>
      refine .polling source isOpen started delivers ?_ nofun
      simpa [Subscription.beginClose, source, Watch.request] using held
  | ceased source isClosed started ended phase => exact .ceased source isClosed started ended phase
  | away source differs isClosed started empty => exact .away source differs isClosed started empty

theorem Stays.endClose (stays : subscription.Stays) (phase : subscription.courier.phase = .finished) :
    Stays { subscription with consumer := subscription.consumer.close, closing := false, closed := true } := by
  refine ⟨stays.made.close, stays.reads, stays.rows, ?_⟩
  cases stays.mode with
  | unconnected source unstarted ended phase watch => exact .unconnected source unstarted rfl phase watch fun _ => rfl
  | polling source isOpen started => exact .ceased source rfl started rfl phase
  | ceased source isClosed started => exact .ceased source rfl started rfl phase
  | away source differs isClosed started empty => exact .away source differs rfl started empty

theorem Stays.act {state : BrokerState} {move : Delivery.Move} {address : Address} (stays : subscription.Stays)
    (source : subscription.source = some address) (acted : subscription.act move state address = some next) :
    next.Stays := by
  obtain ⟨delivery, moved, rfl⟩ := Option.map_eq_some_iff.mp acted
  have fewer : delivery.broker.rows ⊆ (subscription.exchange.broker address).rows :=
    (Delivery.moved_of_move? moved).rows_subset
  have made : subscription.consumer.endpoint.MadeFor subscription.queue subscription.closed
      (subscription.exchange.setBroker address
        { delivery.broker with state := (subscription.exchange.broker address).state }) :=
    stays.made.others (Nat.le_refl _)
  cases stays.mode with
  | unconnected none => cases source.symm.trans none
  | ceased queue isClosed started ended phase =>
      rw [Delivery.move?_of_finished phase] at moved
      cases moved
  | polling queue isOpen started delivers held listens =>
      cases source.symm.trans queue
      have rows : { subscription.exchange.broker subscription.queue with state := state }.rows ⊆ subscription.held :=
        stays.rows
      refine ⟨made, stays.reads.act rows (Delivery.moved_of_move? moved), ?_, ?_⟩
      · rw [Exchange.broker_setBroker, if_pos rfl]
        exact List.Subset.trans fewer stays.rows
      · refine .polling source isOpen started delivers held fun still => ⟨(listens still).1, fun finished => ?_⟩
        exact Delivery.unheard_of_finished moved finished (listens still).1 held
  | away private' differs isClosed started empty =>
      -- There is nothing in its database that it could deliver.
      cases source.symm.trans private'
      rw [empty] at fewer
      have rows : { subscription.exchange.broker address with state := state }.rows ⊆ subscription.held := by
        simp [empty]
      refine ⟨made, stays.reads.act rows (Delivery.moved_of_move? moved), ?_, ?_⟩
      · rw [Exchange.broker_setBroker, if_neg differs.symm]
        exact stays.rows
      · refine .away source differs isClosed started ?_
        rw [Exchange.broker_setBroker, if_pos rfl]
        exact List.subset_nil.mp fewer

theorem Stays.others (stays : subscription.Stays) (later : subscription.exchange.opened ≤ exchange.opened)
    (spares : subscription.Spares exchange = true) :
    Stays { subscription with
      exchange
      held := subscription.held ++ (exchange.broker subscription.queue).rows } := by
  refine ⟨stays.made.others later, stays.reads.mono (List.subset_append_left _ _), List.subset_append_right _ _, ?_⟩
  cases stays.mode with
  | unconnected source unstarted ended phase watch unlinked =>
      exact .unconnected source unstarted ended phase watch unlinked
  | polling source isOpen started delivers held listens =>
      exact .polling source isOpen started delivers held listens
  | ceased source isClosed started ended phase => exact .ceased source isClosed started ended phase
  | @away address source differs isClosed started empty =>
      have same : exchange.broker address = subscription.exchange.broker address := by
        simpa [Spares, source, differs] using spares
      exact .away source differs isClosed started (by rw [same, empty])

theorem Mode.changed (mode : subscription.Mode) (taken : Bool) (channel : Channel)
    (unheard : subscription.courier.channel.listening = false → channel.listening = false) :
    Mode { subscription with
      consumer := { subscription.consumer with channelTaken := taken }
      courier := { subscription.courier with channel } } := by
  cases mode with
  | unconnected source unstarted ended phase watch unlinked =>
      exact .unconnected source unstarted ended phase watch unlinked
  | polling source isOpen started delivers held listens =>
      refine .polling source isOpen started delivers held fun still => ⟨(listens still).1, fun finished => ?_⟩
      exact unheard ((listens still).2 finished)
  | ceased source isClosed started ended phase => exact .ceased source isClosed started ended phase
  | away source differs isClosed started empty => exact .away source differs isClosed started empty

theorem Stays.wake (stays : subscription.Stays) (rests : subscription.courier.phase = .resting) :
    Stays { subscription with courier := { subscription.courier with phase := .beginning } } := by
  refine ⟨stays.made, stays.reads.congr rfl (.inr rfl), stays.rows, ?_⟩
  cases stays.mode with
  | unconnected source unstarted ended phase => cases rests.symm.trans phase
  | polling source isOpen started delivers held listens =>
      refine .polling source isOpen started delivers held fun still => ⟨(listens still).1, fun finished => ?_⟩
      cases finished
  | ceased source isClosed started ended phase => cases rests.symm.trans phase
  | away source differs isClosed started empty => exact .away source differs isClosed started empty

theorem Stays.step (stays : subscription.Stays) (stepped : subscription.step move = some next) : next.Stays := by
  cases move with
  | connect =>
      obtain ⟨-, acts⟩ := Option.ite_none_left_eq_some.mp stepped
      cases acts
      exact stays.connect
  | beginClose =>
      obtain ⟨-, acts⟩ := Option.ite_none_left_eq_some.mp stepped
      cases acts
      exact stays.beginClose
  | endClose =>
      obtain ⟨⟨-, phase⟩, acts⟩ := Option.ite_none_right_eq_some.mp stepped
      cases acts
      exact stays.endClose phase
  | takeChannel =>
      obtain ⟨-, acts⟩ := Option.ite_none_left_eq_some.mp stepped
      cases acts
      rw [Consumer.takeChannel_eq]
      exact ⟨stays.made, stays.reads, stays.rows, stays.mode.changed true subscription.courier.channel id⟩
  | take =>
      cases stepped
      exact ⟨stays.made, stays.reads.congr rfl (.inl rfl), stays.rows, stays.mode.changed _ _ id⟩
  | dropReceiver =>
      cases stepped
      exact ⟨stays.made, stays.reads.congr rfl (.inl rfl), stays.rows, stays.mode.changed _ _ fun _ => rfl⟩
  | act move state =>
      obtain ⟨address, source, acted⟩ := Option.bind_eq_some_iff.mp stepped
      exact stays.act source acted
  | wake =>
      obtain ⟨rests, acts⟩ := Option.ite_none_right_eq_some.mp stepped
      cases acts
      exact stays.wake rests
  | others exchange =>
      obtain ⟨⟨later, spares⟩, acts⟩ := Option.ite_none_right_eq_some.mp stepped
      cases acts
      exact stays.others later spares

theorem stays_of_run (knows : exchange.Knows queue)
    (ran : Steps.run Subscription.step moves (start queue exchange) = some subscription) : subscription.Stays :=
  Steps.run_invariant (stays_start knows) (fun _ _ _ _ stepped stays => stays.step stepped) ran

structure Serves (subscription : Subscription) : Prop where
  delivers : ∀ message notice, (message, notice) ∈ subscription.courier.placed →
    message ∈ subscription.held ∧ Notice.decode message.payload = .ok notice
  connects : subscription.closed = false → subscription.closing = false →
    (subscription.consumer.connect subscription.exchange).1 = .ok () ∧
      subscription.connect.consumer.endpoint = subscription.consumer.endpoint ∧
      subscription.connect.exchange = subscription.exchange ∧
      subscription.connect.source = some subscription.queue ∧
      (subscription.connect.courier.phase = .finished → subscription.connect.courier.channel.listening = false)
  away : subscription.closed = true →
    subscription.connect.exchange.broker subscription.queue = subscription.exchange.broker subscription.queue ∧
      ((subscription.consumer.connect subscription.exchange).1 = .ok () → ∃ address,
        subscription.connect.source = some address ∧ address ≠ subscription.queue ∧
          (subscription.connect.exchange.broker address).rows = [])
  rests : subscription.closed = true → ∀ move state next, subscription.step (.act move state) = some next →
    next.exchange.broker subscription.queue = subscription.exchange.broker subscription.queue

theorem closed_connect (subscription : Subscription) : subscription.connect.closed = subscription.closed ∧
    subscription.connect.closing = subscription.closing ∧ subscription.connect.queue = subscription.queue := by
  simp only [connect]
  split <;> exact ⟨rfl, rfl, rfl⟩

theorem delivering_connect (succeeds : (subscription.consumer.connect subscription.exchange).1 = .ok ()) :
    subscription.connect.consumer.delivering = true := by
  cases delivers : subscription.consumer.delivering with
  | true => rw [connect_of_delivering delivers, delivers]
  | false =>
      cases started : subscription.consumer.started with
      | true =>
          rw [Consumer.connect_of_started delivers started] at succeeds
          cases succeeds
      | false => rw [connect_of_unstarted delivers started]

theorem Stays.connect_ok (stays : subscription.Stays) (isOpen : subscription.closed = false) :
    (subscription.consumer.connect subscription.exchange).1 = .ok () := by
  cases stays.mode with
  | unconnected source unstarted ended => rw [Consumer.connect_of_unstarted ended unstarted]
  | polling source isOpen started delivers => rw [Consumer.connect_of_delivering delivers]
  | ceased source isClosed | away source differs isClosed => cases isOpen.symm.trans isClosed

theorem connect_of_linked {address : Address} (linked : subscription.consumer.endpoint.link = some address) :
    subscription.connect.consumer.endpoint = subscription.consumer.endpoint ∧
      subscription.connect.exchange = subscription.exchange := by
  have same := Endpoint.connect_of_linked subscription.exchange linked
  cases delivers : subscription.consumer.delivering with
  | true =>
      rw [connect_of_delivering delivers]
      exact ⟨rfl, rfl⟩
  | false =>
      cases started : subscription.consumer.started with
      | true => simp only [connect_of_started delivers started, same, and_self]
      | false => simp only [connect_of_unstarted delivers started, same, and_self]

theorem broker_connect (stays : subscription.Stays) :
    subscription.connect.exchange.broker subscription.queue = subscription.exchange.broker subscription.queue := by
  have same := stays.made.broker_connect
  cases delivers : subscription.consumer.delivering with
  | true => rw [connect_of_delivering delivers]
  | false =>
      cases started : subscription.consumer.started with
      | true => rw [connect_of_started delivers started, same]
      | false => rw [connect_of_unstarted delivers started, same]

theorem Stays.serves (stays : subscription.Stays) : subscription.Serves where
  delivers := stays.reads.placed
  connects isOpen still := by
    have succeeds := stays.connect_ok isOpen
    obtain ⟨sameClosed, sameClosing, sameQueue⟩ := closed_connect subscription
    obtain ⟨endpoint, exchange⟩ := connect_of_linked (stays.made.stays isOpen)
    refine ⟨succeeds, endpoint, exchange, ?_⟩
    cases stays.connect.mode with
    | polling source isOpen' started delivers held listens =>
        exact ⟨sameQueue ▸ source, (listens (sameClosing.trans still)).2⟩
    | unconnected source unstarted ended => cases (delivering_connect succeeds).symm.trans ended
    | ceased source isClosed | away source differs isClosed =>
        cases isOpen.symm.trans (sameClosed.symm.trans isClosed)
  away isClosed := by
    obtain ⟨sameClosed, -, sameQueue⟩ := closed_connect subscription
    refine ⟨broker_connect stays, fun succeeds => ?_⟩
    -- Of the modes after the call only two deliver, and in one of these it has not been closed.
    have delivers := delivering_connect succeeds
    cases stays.connect.mode with
    | unconnected source unstarted ended => cases delivers.symm.trans ended
    | ceased source isClosed started ended => cases delivers.symm.trans ended
    | polling source isOpen => cases isOpen.symm.trans (sameClosed.trans isClosed)
    | away source differs isClosed started empty => exact ⟨_, source, sameQueue ▸ differs, empty⟩
  rests isClosed move state next stepped := by
    obtain ⟨address, source, acted⟩ := Option.bind_eq_some_iff.mp stepped
    obtain ⟨delivery, moved, rfl⟩ := Option.map_eq_some_iff.mp acted
    cases stays.mode with
    | unconnected none => cases source.symm.trans none
    | polling queue isOpen => cases isOpen.symm.trans isClosed
    | ceased queue isClosed started ended phase =>
        rw [Delivery.move?_of_finished phase] at moved
        cases moved
    | away other differs =>
        cases source.symm.trans other
        rw [Exchange.broker_setBroker, if_neg differs.symm]

end Subscription

/-- An endpoint that was made for a queue keeps to it until it is closed, and does not reach it any more afterwards. -/
theorem kept_of_run {queue : Address} {exchange : Exchange} (knows : exchange.Knows queue) :
    (∀ moves posting, Steps.run Posting.step moves (.start queue exchange) = some posting → posting.Posts) ∧
      ∀ moves subscription, Steps.run Subscription.step moves (.start queue exchange) = some subscription →
        subscription.Serves :=
  ⟨fun _ _ ran => (Posting.made_of_run knows ran).posts, fun _ _ ran => (Subscription.stays_of_run knows ran).serves⟩

def sampleQueue : Address := .file "queue.db"

def sampleEvent : Event := ⟨1, 7, "", "", epoch, epoch, some epoch, false⟩

def filledExchange : Exchange := ((Endpoint.ofQueue sampleQueue).send sampleEvent.toNotice .empty).2

theorem kept_of_delivery :
    Exchange.empty.Knows sampleQueue ∧
      ∃ posting subscription,
        Steps.run Posting.step [.connect, .send sampleEvent] (.start sampleQueue .empty) = some posting ∧
        Steps.run Subscription.step
          [.connect, .connect, .others filledExchange, .act .start .sound, .act .look .sound, .act .deliver .sound]
          (.start sampleQueue .empty) = some subscription ∧
        posting.closed = false ∧ posting.step .connect = some posting ∧
        ∃ message notice, subscription.courier.placed = [(message, notice)] ∧ message ∈ subscription.held ∧
          Notice.decode message.payload = .ok notice := by
  have knows : Exchange.empty.Knows sampleQueue := trivial
  obtain ⟨posts, serves⟩ := kept_of_run knows
  obtain ⟨posting, ran, isOpen⟩ : ∃ posting,
      Steps.run Posting.step [.connect, .send sampleEvent] (.start sampleQueue .empty) = some posting ∧
        posting.closed = false := ⟨_, rfl, rfl⟩
  let notice := sampleEvent.toNotice
  let message : Message := ⟨1, Broker.noticeQueue, Text.RawText.ofChars notice.encode⟩
  obtain ⟨consumer, held, came⟩ : ∃ consumer held,
      Steps.run Subscription.step [.connect, .connect, .others filledExchange, .act .start .sound]
        (.start sampleQueue .empty) = some ⟨sampleQueue, consumer, filledExchange, ⟨.looking, .empty, .start, []⟩,
          some sampleQueue, false, false, held⟩ := ⟨_, _, rfl⟩
  have looks := @Subscription.step_look ⟨sampleQueue, consumer, filledExchange, ⟨.looking, .empty, .start, []⟩,
    some sampleQueue, false, false, held⟩ sampleQueue message _ _ rfl rfl rfl notice.decode_encode
  obtain ⟨subscription, ran', placed⟩ : ∃ subscription,
      Steps.run Subscription.step
        [.connect, .connect, .others filledExchange, .act .start .sound, .act .look .sound, .act .deliver .sound]
        (.start sampleQueue .empty) = some subscription ∧ subscription.courier.placed = [(message, notice)] := by
    exact ⟨_, Steps.run_past came looks, rfl⟩
  have isRow := (serves _ _ ran').delivers message notice (by simp [placed])
  have same := (posts _ _ ran).connects isOpen
  exact ⟨knows, posting, subscription, ran, ran', isOpen, same, message, notice, placed, isRow⟩

-- Closed and connected again: what the producer sends does not come to the queue, and the consumer polls another.
theorem switched_of_close :
    (∃ posting, Steps.run Posting.step [.close, .connect] (.start sampleQueue .empty) = some posting ∧
      posting.endpoint.link = some (.ephemeral 0) ∧
      (posting.endpoint.send sampleEvent.toNotice posting.exchange).1 = .ok () ∧
      ((posting.endpoint.send sampleEvent.toNotice posting.exchange).2.broker sampleQueue).rows = []) ∧
      ∃ subscription,
        Steps.run Subscription.step [.beginClose, .endClose] (.start sampleQueue .empty) = some subscription ∧
        (subscription.consumer.connect subscription.exchange).1 = .ok () ∧
        subscription.connect.source = some (.ephemeral 0) ∧ subscription.connect.consumer.delivering = true :=
  ⟨⟨_, rfl, rfl, rfl, rfl⟩, _, rfl, rfl, rfl, rfl⟩

end Datebook
