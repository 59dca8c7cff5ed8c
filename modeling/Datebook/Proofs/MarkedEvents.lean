import Datebook.Proofs.FinMapContents
import Datebook.Proofs.Reception

set_option autoImplicit false

namespace Datebook

namespace MemoryStore

variable {store : MemoryStore} {id : EventId} {ids left right : List EventId}

def flagged (store : MemoryStore) (ids : List EventId) : MemoryStore :=
  { store with
    records := store.records.adjust fun id event => if id ∈ ids then { event with notified := true } else event }

theorem get?_flagged : (store.flagged ids).records.get? id =
    (store.records.get? id).map fun event => if id ∈ ids then { event with notified := true } else event :=
  FinMap.get?_adjust

theorem flagged_nil : store.flagged [] = store := by
  obtain ⟨⟨entries, distinct⟩, byUser, nextId⟩ := store
  simp [flagged, FinMap.adjust]

theorem flagged_congr (same : ∀ id, id ∈ left ↔ id ∈ right) : store.flagged left = store.flagged right := by
  simp only [flagged, same]

theorem answer_markNotified_of_absent (absent : store.records.get? id = none) :
    (store.flagged ids).answer (.markNotified id) = (.error (.eventNotFound id), store.flagged ids) := by
  simp only [answer, get?_flagged, absent, Option.map_none]

theorem answer_markNotified_of_found {event : Event} (found : store.records.get? id = some event) :
    (store.flagged ids).answer (.markNotified id) = (.ok (), store.flagged (ids ++ [id])) := by
  simp only [answer, get?_flagged, found, Option.map_some, Prod.mk.injEq, true_and]
  -- Whether or not it was notified already, the event is the stored one with its flag set.
  have notified : ({ (if id ∈ ids then { event with notified := true } else event) with notified := true } : Event) =
      { event with notified := true } := by
    split <;> rfl
  rw [notified]
  simp only [flagged, FinMap.put_adjust found fun event => { event with notified := true }, List.mem_append,
    List.mem_singleton]
  congr 2
  funext other content
  by_cases same : other = id <;> simp [same]

end MemoryStore

namespace Reception

variable {reception next : Reception} {consumer : Consumer} {link : StoreLink} {move : Move} {moves : List Move}

def marked (reception : Reception) : List EventId :=
  (reception.marks.filter fun mark => mark.2.isOk).map fun mark => mark.1.id

def Stage.hasLeft : Stage → Bool
  | leaving | closing | returned => true
  | listening | turnedAway _ => false

structure InOrder (reception : Reception) : Prop where
  placed : reception.placed = reception.marks.map Prod.fst ++ reception.channel
  acknowledged : reception.sender.acknowledged = reception.marked.length
  complete : reception.stage.hasLeft = true → reception.watch.stop = false →
    reception.closed = true ∧ reception.channel = []

theorem start_eq (consumer : Consumer) (link : StoreLink) : start consumer link =
    ⟨.start link, { consumer with channelTaken := true }, .start,
      if consumer.channelTaken then .turnedAway .alreadySubscribed else .listening, [], false, [], [], []⟩ := by
  obtain ⟨endpoint, taken, started, delivering⟩ := consumer
  cases taken <;> rfl

theorem inOrder_start (consumer : Consumer) (link : StoreLink) : (start consumer link).InOrder := by
  rw [start_eq]
  refine ⟨rfl, rfl, fun left => ?_⟩
  simp only at left
  split at left <;> cases left

theorem acknowledged_mark (sender : Sender) (notice : Notice) :
    (sender.mark notice).2.acknowledged = sender.acknowledged + if (sender.mark notice).1.isOk then 1 else 0 := by
  unfold Sender.mark
  split <;> rfl

theorem marked_marking (reception : Reception) (notice : Notice) (rest : List Notice) :
    (reception.marking notice rest).marked =
      if (reception.sender.mark notice).1.isOk then reception.marked ++ [notice.id] else reception.marked := by
  simp only [marked, marking, List.filter_append, List.map_append]
  cases (reception.sender.mark notice).1 <;> simp [Except.isOk, Except.toBool]

theorem InOrder.woken (inOrder : reception.InOrder) (listens : reception.stage = .listening)
    (woken : Woken reception next) : next.InOrder := by
  cases woken with
  | leaves turn reason =>
      refine ⟨inOrder.placed, inOrder.acknowledged, fun _ calm => reason.resolve_left ?_⟩
      simpa using calm
  | waits turn => exact ⟨inOrder.placed, inOrder.acknowledged, inOrder.complete⟩
  | @marks notice rest turn first =>
      refine ⟨by simp [marking, inOrder.placed, first], ?_, fun left => ?_⟩
      · rw [marked_marking]
        refine (acknowledged_mark reception.sender notice).trans ?_
        rw [inOrder.acknowledged]
        split <;> simp
      · simp only [marking, listens] at left
        cases left

theorem InOrder.step (inOrder : reception.InOrder) (stepped : reception.step move = some next) : next.InOrder := by
  obtain ⟨-, stepped⟩ := stepped_of_step stepped
  cases stepped with
  | put stays =>
      -- After the loop has ended unasked nobody is left to put anything there.
      refine ⟨by simp [inOrder.placed], inOrder.acknowledged, fun left calm => ?_⟩
      have closed := (inOrder.complete left calm).1
      rw [stays] at closed
      cases closed
  | closeChannel => exact ⟨inOrder.placed, inOrder.acknowledged, fun left calm => ⟨rfl, (inOrder.complete left calm).2⟩⟩
  | requestStop => exact ⟨inOrder.placed, inOrder.acknowledged, fun _ calm => by cases calm⟩
  | abandonWatch | refuse | replace => exact ⟨inOrder.placed, inOrder.acknowledged, inOrder.complete⟩
  | wake listens woken => exact inOrder.woken listens woken
  | closeConsumer leaves =>
      exact ⟨inOrder.placed, inOrder.acknowledged, fun _ => inOrder.complete (by rw [leaves]; rfl)⟩
  | closeStore closes =>
      exact ⟨inOrder.placed, inOrder.acknowledged, fun _ => inOrder.complete (by rw [closes]; rfl)⟩

theorem InOrder.run (inOrder : reception.InOrder) (ran : Steps.run Reception.step moves reception = some next) :
    next.InOrder :=
  Steps.run_invariant inOrder (fun _ _ _ _ stepped inOrder => inOrder.step stepped) ran

theorem step_wake_of_first (listens : reception.stage = .listening) (goesOn : reception.watch.stop = false)
    {notice : Notice} {rest : List Notice} (first : reception.channel = notice :: rest) :
    reception.step .wake = some (reception.marking notice rest) := by
  simp only [Reception.step, act, listens, Stage.isOver, Bool.false_eq_true, if_false, if_true,
    wake_of_first goesOn first]

theorem run_leave (listens : reception.stage = .listening)
    (leaves : reception.wake = { reception with wakes := reception.wakes ++ [reception.found], stage := .leaving })
    (failure : Option TransportError) :
    ∃ final, Steps.run Reception.step [.wake, .closeConsumer failure, .closeStore] reception = some final ∧
      final.stage = .returned ∧ final.marks = reception.marks := by
  refine ⟨{ reception with
      sender := reception.sender.closeConsumer.closeStore
      consumer := if failure = none then reception.consumer.close else reception.consumer
      wakes := reception.wakes ++ [reception.found]
      stage := .returned }, ?_, rfl, rfl⟩
  simp [Steps.run, Reception.step, act, listens, leaves, Stage.isOver]

def Returns (reception : Reception) (failure : Option TransportError) (final : Reception) : Prop :=
  final.stage = .returned ∧
    ∃ turns, Steps.run Reception.step (List.replicate turns .wake ++ [.closeConsumer failure, .closeStore]) reception =
      some final

theorem returns_of_stop (listens : reception.stage = .listening) (stops : reception.watch.stop = true)
    (failure : Option TransportError) : ∃ final, reception.Returns failure final ∧ final.marks = reception.marks := by
  obtain ⟨final, ran, returned, same⟩ := run_leave listens (wake_of_stop stops) failure
  exact ⟨final, ⟨returned, 1, ran⟩, same⟩

theorem returns_of_closed (listens : reception.stage = .listening) (goesOn : reception.watch.stop = false)
    (closed : reception.closed = true) (failure : Option TransportError) :
    ∃ final, reception.Returns failure final ∧
      final.marks.map Prod.fst = reception.marks.map Prod.fst ++ reception.channel := by
  -- Each notice in the channel takes one turn, whatever comes of it, and the empty channel one more.
  induction lies : reception.channel generalizing reception with
  | nil =>
      obtain ⟨final, ran, returned, same⟩ := run_leave listens (wake_of_closed lies closed) failure
      exact ⟨final, ⟨returned, 1, ran⟩, by simp [same]⟩
  | cons notice rest ih =>
      have turn := step_wake_of_first listens goesOn lies
      obtain ⟨final, ⟨returned, turns, ran⟩, marks⟩ := @ih (reception.marking notice rest) listens goesOn closed rfl
      refine ⟨final, ⟨returned, turns + 1, ?_⟩, by simpa [marking] using marks⟩
      rw [List.replicate_succ, List.cons_append, Steps.run, turn]
      exact ran

-- What every run promises, whatever the store answers and whoever changes it meanwhile.
structure Processes (reception : Reception) : Prop where
  inOrder : reception.placed = reception.marks.map Prod.fst ++ reception.channel
  acknowledged : reception.sender.acknowledged = reception.marked.length
  complete : reception.stage = .returned → reception.watch.stop = false →
    reception.marks.map Prod.fst = reception.placed
  goesOn : reception.stage = .listening → reception.watch.stop = false → ∀ notice rest,
    reception.channel = notice :: rest → ∃ next, reception.step .wake = some next ∧ next.stage = .listening ∧
      next.channel = rest ∧ next.sender = (reception.sender.mark notice).2 ∧
      next.marks = reception.marks ++ [(notice, (reception.sender.link.answer (.markNotified notice.id)).1)]
  stops : reception.stage = .listening → reception.watch.stop = true → ∀ failure,
    ∃ final, reception.Returns failure final ∧ final.marks = reception.marks
  ends : reception.stage = .listening → reception.watch.stop = false → reception.closed = true → ∀ failure,
    ∃ final, reception.Returns failure final ∧ final.marks.map Prod.fst = reception.placed

theorem mark_eq (sender : Sender) (notice : Notice) :
    (sender.mark notice).1 = (sender.link.answer (.markNotified notice.id)).1 ∧
      (sender.mark notice).2.link = (sender.link.answer (.markNotified notice.id)).2 := by
  unfold Sender.mark
  split
  · next answered => simp [answered]
  · next answered => simp [answered]

theorem InOrder.processes (inOrder : reception.InOrder) : reception.Processes where
  inOrder := inOrder.placed
  acknowledged := inOrder.acknowledged
  complete returned calm := by
    have empty := (inOrder.complete (by rw [returned]; rfl) calm).2
    rw [inOrder.placed, empty, List.append_nil]
  goesOn listens calm notice rest first :=
    ⟨_, step_wake_of_first listens calm first, listens, rfl, rfl, by rw [marking, (mark_eq _ _).1]⟩
  stops listens stops failure := returns_of_stop listens stops failure
  ends listens calm closed failure := by
    obtain ⟨final, returns, marks⟩ := returns_of_closed listens calm closed failure
    exact ⟨final, returns, by rw [marks, inOrder.placed]⟩

def Move.isForeign : Move → Bool
  | refuse _ | replace _ => true
  | put _ | closeChannel | requestStop | abandonWatch | wake | closeConsumer _ | closeStore => false

def Stage.leg : Stage → Sender.Leg
  | listening | turnedAway _ => .looping
  | leaving => .out
  | closing => .consumerClosed
  | returned => .returned

def Looped (link : StoreLink) (reception : Reception) : Prop :=
  Sender.Looped link reception.wakes reception.stage.leg reception.sender

theorem looped_start (consumer : Consumer) (link : StoreLink) : (start consumer link).Looped link := by
  rw [start_eq]
  cases consumer.channelTaken <;> exact Sender.looped_start link

theorem Looped.woken (looped : reception.Looped link) (listens : reception.stage = .listening)
    (woken : Woken reception next) : next.Looped link := by
  rw [Looped, listens] at looped
  cases woken with
  | leaves turn => exact looped.turn turn
  | waits turn | marks turn =>
      have turned := looped.turn turn
      simp only [Looped, marking, listens]
      exact turned

theorem Looped.step (looped : reception.Looped link) (own : move.isForeign = false)
    (stepped : reception.step move = some next) : next.Looped link := by
  obtain ⟨-, stepped⟩ := stepped_of_step stepped
  cases stepped with
  | put | closeChannel | requestStop | abandonWatch => exact looped
  | refuse | replace => cases own
  | wake listens woken => exact looped.woken listens woken
  | closeConsumer leaves =>
      rw [Looped, leaves] at looped
      exact looped.closeConsumer
  | closeStore closes =>
      rw [Looped, closes] at looped
      exact looped.closeStore

theorem run_of_taken (taken : consumer.channelTaken = true)
    (ran : Steps.run Reception.step moves (start consumer link) = some reception) :
    moves = [] ∧ reception = start consumer link := by
  cases moves with
  | nil =>
      cases ran
      exact ⟨rfl, rfl⟩
  | cons move rest =>
      rw [start_eq, taken] at ran
      cases ran

theorem looped_of_run (own : ∀ move ∈ moves, move.isForeign = false)
    (ran : Steps.run Reception.step moves (start consumer link) = some reception) : reception.Looped link := by
  refine Steps.run_invariant (looped_start consumer link) ?_ ran
  intro reception move next member stepped looped
  exact looped.step (own move member) stepped

theorem untaken_of_returned (ran : Steps.run Reception.step moves (start consumer link) = some reception)
    (returned : reception.stage = .returned) : consumer.channelTaken = false := by
  cases taken : consumer.channelTaken with
  | false => rfl
  | true =>
      obtain ⟨-, rfl⟩ := run_of_taken taken ran
      rw [start_eq, taken] at returned
      cases returned

theorem run_of_returned (own : ∀ move ∈ moves, move.isForeign = false) (returned : reception.stage = .returned)
    (ran : Steps.run Reception.step moves (start consumer link) = some reception) :
    Sender.run consumer.channelTaken reception.wakes (.start link) = (.ok .finished, reception.sender) := by
  have looped := looped_of_run own ran
  rw [Looped, returned] at looped
  rw [untaken_of_returned ran returned]
  exact looped.run

inductive Answered (store : MemoryStore) (id : EventId) : Except StoreError Unit → Prop where
  | marked {event : Event} (found : store.records.get? id = some event) : Answered store id (.ok ())
  | unknown (absent : store.records.get? id = none) : Answered store id (.error (.eventNotFound id))
  | refused : Answered store id (.error (.refused Operation.markNotified.name))

structure Flags (store : MemoryStore) (reception : Reception) : Prop where
  kept : reception.sender.link.store = .memory (store.flagged reception.marked)
  answered : ∀ notice result, (notice, result) ∈ reception.marks → Answered store notice.id result

variable {store : MemoryStore} {notice : Notice}

theorem flags_start (inMemory : link.store = .memory store) : (start consumer link).Flags store where
  kept := by
    change link.store = .memory (store.flagged [])
    rw [MemoryStore.flagged_nil, inMemory]
  answered _ _ member := by cases member

theorem store_closeStore {sender : Sender} (inMemory : sender.link.store = .memory store) :
    sender.closeStore.link.store = .memory store := by
  simp only [Sender.closeStore, StoreLink.close]
  split
  · exact inMemory
  · simp only [inMemory, Store.close]

theorem answer_of_flagged {ids : List EventId} (inMemory : link.store = .memory (store.flagged ids)) (id : EventId) :
    Answered store id (link.answer (.markNotified id)).1 ∧
      (link.answer (.markNotified id)).2.store =
        .memory (store.flagged (if (link.answer (.markNotified id)).1.isOk then ids ++ [id] else ids)) := by
  unfold StoreLink.answer
  split
  · exact ⟨.refused, inMemory⟩
  · simp only [inMemory, Store.answer]
    cases found : store.records.get? id with
    | none => exact MemoryStore.answer_markNotified_of_absent found ▸ ⟨.unknown found, rfl⟩
    | some event => exact MemoryStore.answer_markNotified_of_found found ▸ ⟨.marked found, rfl⟩

theorem Flags.marking (flags : reception.Flags store) (notice : Notice) (rest : List Notice) :
    (reception.marking notice rest).Flags store := by
  obtain ⟨result, link⟩ := mark_eq reception.sender notice
  obtain ⟨answered, kept⟩ := answer_of_flagged flags.kept notice.id
  rw [← link, ← result] at kept
  rw [← result] at answered
  refine ⟨?_, fun other outcome member => ?_⟩
  · rw [marked_marking]
    exact kept
  · rcases List.mem_append.mp member with isOld | isNew
    · exact flags.answered other outcome isOld
    · cases List.mem_singleton.mp isNew
      exact answered

theorem Flags.step (flags : reception.Flags store) (others : ∀ other, move ≠ .replace other)
    (stepped : reception.step move = some next) : next.Flags store := by
  obtain ⟨-, stepped⟩ := stepped_of_step stepped
  cases stepped with
  | put | closeChannel | requestStop | abandonWatch | refuse | closeConsumer => exact ⟨flags.kept, flags.answered⟩
  | @replace other => exact absurd rfl (others other)
  | closeStore => exact ⟨store_closeStore flags.kept, flags.answered⟩
  | wake listens woken =>
      cases woken with
      | leaves | waits => exact ⟨flags.kept, flags.answered⟩
      | @marks notice rest => exact flags.marking notice rest

theorem flags_of_run (others : ∀ other, .replace other ∉ moves) (inMemory : link.store = .memory store)
    (ran : Steps.run Reception.step moves (start consumer link) = some reception) : reception.Flags store := by
  refine Steps.run_invariant (flags_start inMemory) ?_ ran
  intro reception move next member stepped flags
  exact flags.step (fun other same => others other (same ▸ member)) stepped

def processed (reception : Reception) : List EventId := reception.marks.map fun mark => mark.1.id

def Unrefused (reception : Reception) : Prop :=
  ∀ mark ∈ reception.marks, mark.2 ≠ .error (.refused Operation.markNotified.name)

theorem mem_marked_iff {id : EventId} :
    id ∈ reception.marked ↔ ∃ notice, (notice, .ok ()) ∈ reception.marks ∧ notice.id = id := by
  simp only [marked, List.mem_map, List.mem_filter]
  constructor
  · rintro ⟨⟨notice, _ | _⟩, ⟨member, succeeds⟩, same⟩
    · cases succeeds
    · exact ⟨notice, member, same⟩
  · rintro ⟨notice, member, same⟩
    exact ⟨(notice, .ok ()), ⟨member, rfl⟩, same⟩

theorem Flags.mem_marked_iff (flags : reception.Flags store) (unrefused : reception.Unrefused) {id : EventId} :
    id ∈ reception.marked ↔ id ∈ reception.processed ∧ (store.records.get? id).isSome = true := by
  rw [Reception.mem_marked_iff]
  constructor
  · rintro ⟨notice, member, rfl⟩
    cases flags.answered notice _ member with
    | marked found => exact ⟨List.mem_map_of_mem member, by rw [found]; rfl⟩
  · rintro ⟨processed, isThere⟩
    obtain ⟨⟨notice, result⟩, member, rfl⟩ := List.mem_map.mp processed
    refine ⟨notice, ?_, rfl⟩
    cases flags.answered notice result member with
    | marked => exact member
    | unknown absent =>
        rw [absent] at isThere
        cases isThere
    | refused => exact absurd rfl (unrefused _ member)

theorem Flags.same_store {other : Reception} (flags : reception.Flags store) (flags' : other.Flags store)
    (same : (∀ id, id ∈ reception.marked ↔ id ∈ other.marked) ∨
      reception.Unrefused ∧ other.Unrefused ∧ ∀ id, id ∈ reception.processed ↔ id ∈ other.processed) :
    reception.sender.link.store = other.sender.link.store := by
  rw [flags.kept, flags'.kept]
  congr 1
  apply MemoryStore.flagged_congr
  rcases same with same | ⟨unrefused, unrefused', same⟩
  · exact same
  · intro id
    rw [flags.mem_marked_iff unrefused, flags'.mem_marked_iff unrefused', same]

/-- The sender marks what is put into its channel, in order and once each, passing over what fails. If the store is in
memory, what it is in the end depends only on which events were marked. -/
theorem processed_of_run (ran : Steps.run Reception.step moves (start consumer link) = some reception) :
    reception.Processes ∧
      ((∀ move ∈ moves, move.isForeign = false) → reception.stage = .returned →
        Sender.run consumer.channelTaken reception.wakes (.start link) = (.ok .finished, reception.sender)) ∧
      ∀ store, link.store = .memory store → (∀ other, .replace other ∉ moves) →
        reception.Flags store ∧
          ∀ consumer' link' moves' other, link'.store = .memory store → (∀ replacement, .replace replacement ∉ moves') →
            Steps.run Reception.step moves' (start consumer' link') = some other →
            ((∀ id, id ∈ reception.marked ↔ id ∈ other.marked) ∨
              reception.Unrefused ∧ other.Unrefused ∧ ∀ id, id ∈ reception.processed ↔ id ∈ other.processed) →
            reception.sender.link.store = other.sender.link.store := by
  refine ⟨((inOrder_start consumer link).run ran).processes, fun own returned => run_of_returned own returned ran, ?_⟩
  intro store inMemory others
  have flags := flags_of_run others inMemory ran
  refine ⟨flags, fun consumer' link' moves' other inMemory' others' ran' same => ?_⟩
  exact flags.same_store (flags_of_run others' inMemory' ran') same

def booked : MemoryStore :=
  ((MemoryStore.empty.insert ⟨0, 7, "first", "", epoch, epoch, none, false⟩).2.insert
    ⟨0, 7, "second", "", epoch, epoch, none, false⟩).2

-- One id is unknown, one call is refused and made again later, and one notice stays in the channel.
def disordered : List Move :=
  [.put ⟨9, "", epoch, 7⟩, .put ⟨2, "", epoch, 7⟩, .wake, .refuse [.markNotified], .wake, .refuse [],
    .put ⟨1, "", epoch, 7⟩, .put ⟨2, "", epoch, 7⟩, .put ⟨1, "", epoch, 7⟩, .wake, .wake, .requestStop, .wake,
    .closeConsumer none, .closeStore]

def repeated : List Move :=
  [.put ⟨2, "", epoch, 7⟩, .put ⟨1, "", epoch, 7⟩, .put ⟨1, "", epoch, 7⟩, .closeChannel, .wake, .wake, .wake, .wake,
    .closeConsumer none, .closeStore]

theorem processed_of_disordered :
    ∃ reception other,
      Steps.run step disordered (start (.ofUrl "") (.direct (.memory booked))) = some reception ∧
      Steps.run step repeated (start (.ofUrl "") (.direct (.memory booked))) = some other ∧
      reception.Processes ∧ reception.processed = [9, 2, 1, 2] ∧ reception.marked = [1, 2] ∧
      other.marked = [2, 1, 1] ∧ reception.sender.link.store = other.sender.link.store := by
  have outcome : (Steps.run step disordered (start (.ofUrl "") (.direct (.memory booked)))).map
      (fun reception => (reception.processed, reception.marked)) = some ([9, 2, 1, 2], [1, 2]) := by
    decide +kernel
  have outcome' : (Steps.run step repeated (start (.ofUrl "") (.direct (.memory booked)))).map marked =
      some [2, 1, 1] := by decide +kernel
  obtain ⟨reception, ran, seen⟩ := Option.map_eq_some_iff.mp outcome
  obtain ⟨other, ran', marked'⟩ := Option.map_eq_some_iff.mp outcome'
  obtain ⟨processed, marked⟩ := Prod.mk.inj seen
  obtain ⟨processes, -, inMemory⟩ := processed_of_run ran
  have same := (inMemory booked rfl (by simp [disordered])).2 _ _ _ other rfl (by simp [repeated]) ran'
    (.inl fun id => by simp [marked, marked', or_comm])
  exact ⟨reception, other, ran, ran', processes, processed, marked, marked', same⟩

end Reception
end Datebook
