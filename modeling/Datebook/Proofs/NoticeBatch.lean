import Datebook.Loop.Scheduler
import Datebook.Proofs.BrokerRows
import Datebook.Proofs.RecordRoundTrip

set_option autoImplicit false

namespace Datebook

open Text (RawText)

namespace Exchange

variable {address : Address} {first second third : Exchange} {left right : List Notice}

theorem broker_setBroker (exchange : Exchange) (address other : Address) (broker : Broker) :
    (exchange.setBroker address broker).broker other = if other = address then broker else exchange.broker other := by
  simp only [Exchange.broker, setBroker, FinMap.get?_put]
  split <;> rfl

structure Appends (address : Address) (notices : List Notice) (before after : Exchange) : Prop where
  rows : ∃ rows, (after.broker address).rows = (before.broker address).rows ++ rows ∧
    rows.map (fun message => (message.queue, Notice.decode message.payload)) =
      notices.map fun notice => (Broker.noticeQueue, .ok notice)
  others : ∀ other, other ≠ address → after.broker other = before.broker other

theorem Appends.trans (appends : Appends address left first second) (appends' : Appends address right second third) :
    Appends address (left ++ right) first third := by
  obtain ⟨rows, isFirst, reads⟩ := appends.rows
  obtain ⟨rows', isSecond, reads'⟩ := appends'.rows
  refine ⟨⟨rows ++ rows', ?_, ?_⟩, fun other differs => ?_⟩
  · rw [isSecond, isFirst, List.append_assoc]
  · rw [List.map_append, List.map_append, reads, reads']
  · rw [appends'.others other differs, appends.others other differs]

theorem appends_setBroker {notices : List Notice} {broker : Broker}
    (rows : ∃ rows, broker.rows = (first.broker address).rows ++ rows ∧
      rows.map (fun message => (message.queue, Notice.decode message.payload)) =
        notices.map fun notice => (Broker.noticeQueue, .ok notice)) :
    Appends address notices first (first.setBroker address broker) where
  rows := by rwa [broker_setBroker, if_pos rfl]
  others other differs := by rw [broker_setBroker, if_neg differs]

end Exchange

namespace Endpoint

inductive Sent (endpoint : Endpoint) (notice : Notice) (exchange : Exchange) :
    Except TransportError Unit × Exchange → Prop where
  | appended {address : Address} {next : Exchange} (linked : endpoint.link = some address)
      (appends : Exchange.Appends address [notice] exchange next) : Sent endpoint notice exchange (.ok (), next)
  | unlinked (none : endpoint.link = none) : Sent endpoint notice exchange (.error .notConnected, exchange)
  | refused {address : Address} {error : TransportError} {next : Exchange} (linked : endpoint.link = some address)
      (same : ∀ other, next.broker other = exchange.broker other) : Sent endpoint notice exchange (.error error, next)

theorem sent_send (endpoint : Endpoint) (notice : Notice) (exchange : Exchange) :
    Sent endpoint notice exchange (endpoint.send notice exchange) := by
  simp only [send]
  cases linked : endpoint.link with
  | none => exact .unlinked linked
  | some address =>
      have reads := notice.decode_encode
      simp only [Broker.publish]
      rcases (exchange.broker address).publishRaw_eq_or Broker.noticeQueue (RawText.ofChars notice.encode) with
        published | ⟨error, failed⟩
      · rw [published]
        exact .appended linked (Exchange.appends_setBroker ⟨_, rfl, by simp [reads]⟩)
      · rw [failed]
        refine .refused linked fun other => ?_
        rw [Exchange.broker_setBroker]
        split
        · next same => rw [same]
        · rfl

end Endpoint

namespace Scheduler

variable {scheduler middle next last : Scheduler} {event : Event} {sent rest : List Event}

inductive Publishes (before : Scheduler) (notices : List Notice) (after : Scheduler) : Prop where
  | outbox (producer : before.producer = .outbox) (added : after.outbox = before.outbox ++ notices)
      (sameExchange : after.exchange = before.exchange)
  | queue {endpoint : Endpoint} {address : Address} (producer : before.producer = .queue endpoint)
      (linked : endpoint.link = some address)
      (appends : Exchange.Appends address notices before.exchange after.exchange)
      (sameOutbox : after.outbox = before.outbox)
  | nowhere {endpoint : Endpoint} (producer : before.producer = .queue endpoint) (unlinked : endpoint.link = none)
      (none : notices = []) (sameExchange : after.exchange = before.exchange)
      (sameOutbox : after.outbox = before.outbox)

theorem publishes_nil (exchange : next.exchange = scheduler.exchange) (outbox : next.outbox = scheduler.outbox) :
    scheduler.Publishes [] next := by
  cases producer : scheduler.producer with
  | outbox => exact .outbox producer (by rw [outbox, List.append_nil]) exchange
  | queue endpoint =>
      cases linked : endpoint.link with
      | none => exact .nowhere producer linked rfl exchange outbox
      | some address =>
          refine .queue producer linked ⟨⟨[], ?_, rfl⟩, fun other _ => ?_⟩ outbox <;> rw [exchange]
          rw [List.append_nil]

theorem Publishes.trans {left right : List Notice} (publishes : scheduler.Publishes left middle)
    (publishes' : middle.Publishes right next) (same : middle.producer = scheduler.producer) :
    scheduler.Publishes (left ++ right) next := by
  cases publishes with
  | outbox producer added sameExchange =>
      rw [producer] at same
      cases publishes' with
      | outbox _ added' sameExchange' =>
          exact .outbox producer (by rw [added', added, List.append_assoc]) (sameExchange'.trans sameExchange)
      | queue producer' | nowhere producer' => cases same.symm.trans producer'
  | queue producer linked appends sameOutbox =>
      rw [producer] at same
      cases publishes' with
      | queue producer' linked' appends' sameOutbox' =>
          cases same.symm.trans producer'
          cases linked.symm.trans linked'
          exact .queue producer linked (appends.trans appends') (sameOutbox'.trans sameOutbox)
      | outbox producer' => cases same.symm.trans producer'
      | nowhere producer' unlinked =>
          cases same.symm.trans producer'
          cases linked.symm.trans unlinked
  | nowhere producer unlinked none sameExchange sameOutbox =>
      rw [producer] at same
      cases publishes' with
      | nowhere producer' _ none' sameExchange' sameOutbox' =>
          exact .nowhere producer unlinked (by rw [none, none', List.append_nil])
            (sameExchange'.trans sameExchange) (sameOutbox'.trans sameOutbox)
      | outbox producer' => cases same.symm.trans producer'
      | queue producer' linked =>
          cases same.symm.trans producer'
          cases unlinked.symm.trans linked

theorem Publishes.congr {notices : List Notice} (publishes : scheduler.Publishes notices next)
    (outbox : last.outbox = next.outbox) (exchange : last.exchange = next.exchange) :
    scheduler.Publishes notices last := by
  cases publishes with
  | outbox producer added sameExchange => exact .outbox producer (outbox.trans added) (exchange.trans sameExchange)
  | queue producer linked appends sameOutbox =>
      exact .queue producer linked (by rwa [exchange]) (outbox.trans sameOutbox)
  | nowhere producer unlinked none sameExchange sameOutbox =>
      exact .nowhere producer unlinked none (exchange.trans sameExchange) (outbox.trans sameOutbox)

theorem Publishes.outbox_eq {notices : List Notice} (publishes : scheduler.Publishes notices next)
    (producer : scheduler.producer = .outbox) : next.outbox = scheduler.outbox ++ notices := by
  cases publishes with
  | outbox _ added => exact added
  | queue other | nowhere other => cases producer.symm.trans other

-- Publishing concerns neither the store nor what the producer is.
def KeepsEnds (before after : Scheduler) : Prop := after.producer = before.producer ∧ after.link = before.link

theorem keepsEnds_refl (scheduler : Scheduler) : scheduler.KeepsEnds scheduler := ⟨rfl, rfl⟩

theorem KeepsEnds.trans (left : scheduler.KeepsEnds middle) (right : middle.KeepsEnds next) :
    scheduler.KeepsEnds next :=
  ⟨right.1.trans left.1, right.2.trans left.2⟩

inductive Sent (scheduler : Scheduler) (event : Event) : Except TransportError Unit × Scheduler → Prop where
  | taken {next : Scheduler} (publishes : scheduler.Publishes [event.toNotice] next)
      (keeps : scheduler.KeepsEnds next) : Sent scheduler event (.ok (), next)
  | refused {error : TransportError} {next : Scheduler} (publishes : scheduler.Publishes [] next)
      (keeps : scheduler.KeepsEnds next) : Sent scheduler event (.error error, next)

theorem sent_send (scheduler : Scheduler) (event : Event) : scheduler.Sent event (scheduler.send event) := by
  simp only [send]
  split
  · exact .refused (publishes_nil rfl rfl) scheduler.keepsEnds_refl
  · simp only [produce, record]
    cases producer : scheduler.producer with
    | outbox => exact .taken (.outbox producer rfl rfl) ⟨producer.symm, rfl⟩
    | queue endpoint =>
        have sent := endpoint.sent_send event.toNotice scheduler.exchange
        simp only
        generalize endpoint.send event.toNotice scheduler.exchange = outcome at sent ⊢
        cases sent with
        | appended linked appends => exact .taken (.queue producer linked appends rfl) ⟨producer.symm, rfl⟩
        | unlinked none => exact .refused (publishes_nil rfl rfl) ⟨producer.symm, rfl⟩
        | refused linked same =>
            refine .refused (.queue producer linked ⟨⟨[], ?_, rfl⟩, fun other _ => same other⟩ rfl) ⟨producer.symm, rfl⟩
            rw [same, List.append_nil]

inductive Sends : Scheduler → List Event → Scheduler → Prop where
  | none (scheduler : Scheduler) : Sends scheduler [] scheduler
  | one {scheduler middle next : Scheduler} {event : Event} {rest : List Event}
      (taken : scheduler.send event = (.ok (), middle)) (others : Sends middle rest next) :
      Sends scheduler (event :: rest) next

theorem Sends.publishes (sends : scheduler.Sends sent next) :
    scheduler.Publishes (sent.map Event.toNotice) next ∧ scheduler.KeepsEnds next := by
  induction sends with
  | none scheduler => exact ⟨publishes_nil rfl rfl, scheduler.keepsEnds_refl⟩
  | @one scheduler middle next event rest taken others ih =>
      obtain ⟨publishes, keeps⟩ := ih
      have first := scheduler.sent_send event
      rw [taken] at first
      cases first with
      | taken publishes' keeps' => exact ⟨publishes'.trans publishes keeps'.1, keeps'.trans keeps⟩

theorem Sends.sendAll_append (sends : scheduler.Sends sent middle) (rest : List Event) :
    sendAll (sent ++ rest) scheduler =
      ((sendAll rest middle).1.map (· + sent.length), (sendAll rest middle).2) := by
  induction sends with
  | none scheduler => cases sent : (sendAll rest scheduler).1 <;> simp [sent, Except.map, Prod.ext_iff]
  | one taken others ih =>
      simp only [List.cons_append, sendAll, taken, ih]
      cases sent : (sendAll rest _).1 <;> simp [Except.map, Nat.add_assoc]

theorem Sends.sendAll (sends : scheduler.Sends sent middle) :
    Scheduler.sendAll sent scheduler = (.ok sent.length, middle) := by
  have whole := sends.sendAll_append []
  rw [List.append_nil] at whole
  simpa [Scheduler.sendAll, Except.map] using whole

def Refuses (scheduler : Scheduler) (sent : List Event) (event : Event) (error : TransportError) (last : Scheduler) :
    Prop :=
  ∃ middle, scheduler.Sends sent middle ∧ middle.send event = (.error error, last)

theorem Refuses.publishes {error : TransportError} (refuses : scheduler.Refuses sent event error last) :
    scheduler.Publishes (sent.map Event.toNotice) last ∧ scheduler.KeepsEnds last := by
  obtain ⟨middle, sends, refused⟩ := refuses
  obtain ⟨publishes, keeps⟩ := sends.publishes
  have final := middle.sent_send event
  rw [refused] at final
  cases final with
  | refused publishes' keeps' =>
      have whole := publishes.trans publishes' keeps.1
      rw [List.append_nil] at whole
      exact ⟨whole, keeps.trans keeps'⟩

theorem Refuses.sendAll {error : TransportError} (refuses : scheduler.Refuses sent event error last) :
    Scheduler.sendAll (sent ++ event :: rest) scheduler = (.error error, last) := by
  obtain ⟨middle, sends, refused⟩ := refuses
  rw [sends.sendAll_append]
  simp only [Scheduler.sendAll, refused, Except.map]

theorem sends_or_refuses (events : List Event) (scheduler : Scheduler) : (∃ next, scheduler.Sends events next) ∨
    ∃ sent event rest error last, events = sent ++ event :: rest ∧ scheduler.Refuses sent event error last := by
  induction events generalizing scheduler with
  | nil => exact .inl ⟨scheduler, .none scheduler⟩
  | cons event events ih =>
      cases outcome : scheduler.send event with
      | mk result middle =>
          cases result with
          | error error => exact .inr ⟨[], event, events, error, middle, rfl, ⟨scheduler, .none scheduler, outcome⟩⟩
          | ok =>
              rcases ih middle with ⟨next, sends⟩ | ⟨sent, other, rest, error, last, rfl, final, sends, refused⟩
              · exact .inl ⟨next, .one outcome sends⟩
              · exact .inr ⟨event :: sent, other, rest, error, last, rfl, ⟨final, .one outcome sends, refused⟩⟩

end Scheduler
end Datebook
