import Datebook.Loop.Scheduler
import Datebook.Proofs.ClampedBounds
import Datebook.Proofs.EventHistory

/-!
How an event comes to be notified. Passes of the scheduler look for due events and publish their notices
one by one, and the sender marks the event of each notice that it receives. Between the two a notice may be
delayed, lost or received many times. Main statement: an event that is notified was due and not yet notified
when a pass looked, and not yet notified when that pass published its notice, which was received later.
-/

set_option autoImplicit false

namespace Datebook

open Store (Request)

/-- Whether the store compares its times with the instant as it is. A database takes a leap second for the
second after it, and what comes before all that it can store for the least of that. -/
def Store.ComparesExactly (store : Store) (now : Instant) : Prop :=
  store.table?.isSome → now.nanos < 1000000000 ∧ NanoCount.least.toInstant ≤ now

theorem Store.isDue_of_rounding {store : Store} {event : Event} (member : event ∈ store.ledger.events)
    {now : Instant} (exact : store.ComparesExactly now) (due : event.isDue (store.rounding now) = true) :
    event.isDue now = true := by
  cases store with
  | memory inner => exact due
  | database inner =>
      obtain ⟨regular, late⟩ := exact rfl
      obtain ⟨row, -, rfl⟩ := List.mem_map.mp member
      simp only [Event.isDue, Row.toEvent, Option.any_map, Bool.and_eq_true, Option.any_eq_true,
        decide_eq_true_eq] at due ⊢
      obtain ⟨unmarked, time, notifies, isPast⟩ := due
      refine ⟨unmarked, time, notifies, ?_⟩
      rcases (NanoCount.toInstant_le_rounded_iff regular).mp isPast with isPast | ⟨-, early⟩
      · exact isPast
      · exact absurd late (Instant.not_le_iff_lt.mpr early)

/-- A pass that has looked at `now`, with the events whose notices it has yet to publish. -/
structure Round where
  now : Instant
  due : List Event

structure Traffic where
  system : System
  rounds : FinMap Nat Round
  published : List Notice

namespace Traffic

inductive Move where
  | call (key : Nat) (call : Service.Call)
  | purge (key : Nat) (cutoff : Instant)
  | act (key : Nat) (action : Action)
  | look (round : Nat) (now : Instant)
  | publish (round : Nat)
  -- The sender takes up a notice, whether or not it has had it before.
  | receive (key : Nat) (notice : Notice)
  deriving DecidableEq

def Move.system? : Move → Option Datebook.Move
  | call key wanted => some (.arrive key (.call wanted))
  | purge key cutoff => some (.arrive key (.purge cutoff))
  | act key action => some (.act key action)
  | receive key notice => some (.arrive key (.markNotified notice.id))
  | look _ _ | publish _ => none

def start (store : Store) : Traffic := ⟨.start store, .empty, []⟩

def advance (traffic : Traffic) (move : Datebook.Move) : Option Traffic :=
  (traffic.system.move move).map fun system => { traffic with system }

-- A pass that fails to look or to publish goes no further.
def step (traffic : Traffic) : Move → Option Traffic
  | .call key call => traffic.advance (.arrive key (.call call))
  | .purge key cutoff => traffic.advance (.arrive key (.purge cutoff))
  | .act key action => traffic.advance (.act key action)
  | .receive key notice =>
      if notice ∈ traffic.published then traffic.advance (.arrive key (.markNotified notice.id)) else none
  | .look round now =>
      match traffic.rounds.get? round with
      | some _ => none
      | none =>
          match (traffic.system.shared.store.answer (.listDue now)).1 with
          | .error _ => none
          | .ok due => some { traffic with rounds := traffic.rounds.put round ⟨now, due⟩ }
  | .publish round =>
      match traffic.rounds.get? round with
      | some ⟨now, event :: rest⟩ =>
          some { traffic with
            rounds := traffic.rounds.put round ⟨now, rest⟩
            published := traffic.published ++ [event.toNotice] }
      | _ => none

def find? (traffic : Traffic) (id : EventId) : Option Event := traffic.system.ledger.find? id

variable {traffic next : Traffic} {move : Move}

inductive Stepped (traffic : Traffic) : Move → Traffic → Prop where
  | system {move : Move} {inner : Datebook.Move} {system : System} (isInner : move.system? = some inner)
      (moved : traffic.system.move inner = some system)
      (known : ∀ key notice, move = .receive key notice → notice ∈ traffic.published) :
      Stepped traffic move { traffic with system }
  | look {round : Nat} {now : Instant} {due : List Event} (isNew : traffic.rounds.get? round = none)
      (answered : (traffic.system.shared.store.answer (.listDue now)).1 = .ok due) :
      Stepped traffic (.look round now) { traffic with rounds := traffic.rounds.put round ⟨now, due⟩ }
  | publish {round : Nat} {now : Instant} {event : Event} {rest : List Event}
      (found : traffic.rounds.get? round = some ⟨now, event :: rest⟩) :
      Stepped traffic (.publish round)
        ⟨traffic.system, traffic.rounds.put round ⟨now, rest⟩, traffic.published ++ [event.toNotice]⟩

theorem stepped_of_step (stepped : traffic.step move = some next) : Stepped traffic move next := by
  cases move with
  | call key call | purge key cutoff | act key action =>
      obtain ⟨system, moved, rfl⟩ := Option.map_eq_some_iff.mp stepped
      exact .system rfl moved fun _ _ same => by cases same
  | receive key notice =>
      simp only [step] at stepped
      split at stepped
      · next isPublished =>
        obtain ⟨system, moved, rfl⟩ := Option.map_eq_some_iff.mp stepped
        refine .system rfl moved ?_
        rintro _ _ ⟨⟩
        exact isPublished
      · cases stepped
  | look round now =>
      simp only [step] at stepped
      split at stepped
      · cases stepped
      · next isNew =>
        split at stepped
        · cases stepped
        · next due answered =>
          cases stepped
          exact .look isNew answered
  | publish round =>
      simp only [step] at stepped
      split at stepped
      · next found =>
        cases stepped
        exact .publish found
      · cases stepped

theorem run_publish {round : Nat} {now : Instant} {sent rest : List Event}
    (found : traffic.rounds.get? round = some ⟨now, sent ++ rest⟩) :
    ∃ next, Steps.run step (List.replicate sent.length (.publish round)) traffic = some next ∧
      next.system = traffic.system ∧ next.published = traffic.published ++ sent.map Event.toNotice := by
  induction sent generalizing traffic with
  | nil => exact ⟨traffic, rfl, rfl, (List.append_nil _).symm⟩
  | cons event sent ih =>
      let middle : Traffic := ⟨traffic.system, traffic.rounds.put round ⟨now, sent ++ rest⟩,
        traffic.published ++ [event.toNotice]⟩
      have stepped : traffic.step (.publish round) = some middle := by
        simp only [step, found, List.cons_append, middle]
      obtain ⟨next, ran, same, published⟩ := @ih middle (FinMap.get?_put_self ..)
      refine ⟨next, ?_, same, ?_⟩
      · rw [List.length_cons, List.replicate_succ, Steps.run, stepped]
        exact ran
      · simpa [middle] using published

end Traffic

namespace Scheduler

variable {scheduler : Scheduler}

theorem outbox_send (outbox : scheduler.producer = .outbox) (event : Event) :
    scheduler.send event = (.error .refused, scheduler) ∨
      ∃ next, scheduler.send event = (.ok (), next) ∧ next.producer = .outbox ∧
        next.outbox = scheduler.outbox ++ [event.toNotice] := by
  simp only [send]
  split
  · exact .inl rfl
  · right
    simp only [produce, record, outbox]
    exact ⟨_, rfl, rfl, rfl⟩

theorem outbox_sendAll (outbox : scheduler.producer = .outbox) (events : List Event) :
    ∃ sent rest, events = sent ++ rest ∧
      (sendAll events scheduler).2.outbox = scheduler.outbox ++ sent.map Event.toNotice := by
  induction events generalizing scheduler with
  | nil => exact ⟨[], [], rfl, (List.append_nil _).symm⟩
  | cons event events ih =>
      rcases outbox_send outbox event with refused | ⟨next, accepted, outbox', added⟩
      · refine ⟨[], event :: events, rfl, ?_⟩
        simp only [sendAll, refused, List.map_nil, List.append_nil]
      · obtain ⟨sent, rest, rfl, published⟩ := ih outbox'
        refine ⟨event :: sent, rest, rfl, ?_⟩
        simp only [sendAll, accepted, published, added, List.map_cons, List.append_assoc, List.singleton_append]

end Scheduler

namespace Traffic

variable {traffic next : Traffic} {move : Move}

/-- A pass of the scheduler is a run of such moves, as far as its producer lets it get. -/
theorem run_of_notify {scheduler : Scheduler} {round : Nat}
    (direct : scheduler.link = .direct traffic.system.shared.store) (outbox : scheduler.producer = .outbox)
    (same : scheduler.outbox = traffic.published) (isNew : traffic.rounds.get? round = none) (now : Instant) :
    ∃ moves next, (∀ move ∈ moves, move.system? = none) ∧ Steps.run step moves traffic = some next ∧
      next.system = traffic.system ∧ next.published = (scheduler.notify now).2.outbox := by
  have linked : scheduler.link.answer (.listDue now) =
      ((traffic.system.shared.store.answer (.listDue now)).1,
        .direct (traffic.system.shared.store.answer (.listDue now)).2) := by
    rw [direct]
    rfl
  cases answered : (traffic.system.shared.store.answer (.listDue now)).1 with
  | error error =>
      refine ⟨[], traffic, List.forall_mem_nil _, rfl, rfl, ?_⟩
      simp only [Scheduler.notify, linked, answered, same]
  | ok due =>
      obtain ⟨sent, rest, rfl, published⟩ := Scheduler.outbox_sendAll
        (show { scheduler with link := .direct (traffic.system.shared.store.answer (.listDue now)).2 }.producer =
          .outbox from outbox) due
      let looked : Traffic := { traffic with rounds := traffic.rounds.put round ⟨now, sent ++ rest⟩ }
      have stepped : traffic.step (.look round now) = some looked := by
        simp only [step, isNew, answered, looked]
      obtain ⟨next, ran, unchanged, added⟩ := @run_publish looked round now sent rest (FinMap.get?_put_self ..)
      refine ⟨.look round now :: List.replicate sent.length (.publish round), next, ?_, ?_, unchanged, ?_⟩
      · intro move member
        rcases List.mem_cons.mp member with rfl | publishes
        · rfl
        · rw [List.eq_of_mem_replicate publishes]
          rfl
      · rw [Steps.run, stepped]
        exact ran
      · simp only [Scheduler.notify, linked, answered, published]
        rw [added, same]

section Fresh

variable {store : Store} {moves : List Move}

theorem run_system (ran : Steps.run step moves traffic = some next) :
    System.run (moves.filterMap Move.system?) traffic.system = some next.system := by
  rw [System.run_eq_steps]
  refine Steps.run_keep
    (fun done later => Steps.run System.move (done.filterMap Move.system?) traffic.system = some later.system)
    rfl ?_ ran
  intro done move rest traffic next _ _ stepped came
  rw [List.filterMap_append]
  cases stepped_of_step stepped with
  | system isInner moved =>
      rw [List.filterMap_cons_some isInner]
      exact Steps.run_snoc came moved
  | look | publish => rwa [List.filterMap_cons_none rfl, List.filterMap_nil, List.append_nil]

-- Few enough inserts for the ids of a store in memory.
def HasIds (store : Store) (moves : List Move) : Prop :=
  store = .memory .empty → (moves.filterMap Move.system?).countP Datebook.Move.startsInsert < 2 ^ 64 - 1

theorem HasIds.left {rest : List Move} (hasIds : HasIds store (moves ++ rest)) : HasIds store moves := by
  rw [HasIds, List.filterMap_append] at hasIds
  exact System.few_left hasIds

theorem sane_of_run (fresh : store.IsFresh) (hasIds : HasIds store moves)
    (ran : Steps.run step moves (start store) = some traffic) :
    System.Sane (moves.filterMap Move.system?) traffic.system :=
  System.sane_run fresh hasIds (run_system ran)

theorem becomes_of_run {rest : List Move} (fresh : store.IsFresh) (hasIds : HasIds store (moves ++ rest))
    (ran : Steps.run step moves (start store) = some traffic) (ranOn : Steps.run step rest traffic = some next) :
    traffic.system.ledger.Becomes next.system.ledger := by
  rw [HasIds, List.filterMap_append] at hasIds
  exact System.becomes_of_run fresh hasIds (run_system ran) (run_system ranOn)

def Looked (store : Store) (done : List Move) (round : Nat) (now : Instant) (event : Event) : Prop :=
  ∃ first second looking, done = first ++ .look round now :: second ∧
    Steps.run step first (start store) = some looking ∧ looking.find? event.id = some event ∧
    event.isDue (store.rounding now) = true ∧ (store.ComparesExactly now → event.isDue now = true)

def Announced (store : Store) (done : List Move) (id : EventId) : Prop :=
  ∃ first round second publishing now event rest, done = first ++ .publish round :: second ∧
    Steps.run step first (start store) = some publishing ∧
    publishing.rounds.get? round = some ⟨now, event :: rest⟩ ∧ event.id = id ∧
    ∀ notice ∈ publishing.published, notice.id ≠ id

variable {done more : List Move}

theorem Looked.later {round : Nat} {now : Instant} {event : Event} (looked : Looked store done round now event) :
    Looked store (done ++ more) round now event := by
  obtain ⟨first, second, looking, rfl, rest⟩ := looked
  exact ⟨first, second ++ more, looking, by simp, rest⟩

theorem Announced.later {id : EventId} (announced : Announced store done id) :
    Announced store (done ++ more) id := by
  obtain ⟨first, round, second, publishing, now, event, others, rfl, rest⟩ := announced
  exact ⟨first, round, second ++ more, publishing, now, event, others, by simp, rest⟩

structure Tracked (store : Store) (done : List Move) (traffic : Traffic) : Prop where
  received : ∀ key notice, .receive key notice ∈ done → notice ∈ traffic.published
  looked : ∀ round now due, traffic.rounds.get? round = some ⟨now, due⟩ →
    ∀ event ∈ due, Looked store done round now event
  announced : ∀ notice ∈ traffic.published, Announced store done notice.id
  marked : ∀ event ∈ traffic.system.ledger.events, event.notified = true →
    ∃ key notice, .receive key notice ∈ done ∧ notice.id = event.id

theorem tracked_start (fresh : store.IsFresh) : Tracked store [] (start store) where
  received key notice received := by cases received
  looked round now due found := by cases found
  announced notice isPublished := by cases isPublished
  marked event member := by
    rw [System.ledger, start, System.start, fresh.ledger_eq] at member
    cases member

theorem Tracked.later_received (tracked : Tracked store done traffic) (passes : move.system? = none) :
    ∀ key notice, .receive key notice ∈ done ++ [move] → notice ∈ traffic.published := by
  intro key notice member
  rcases List.mem_append.mp member with before | last
  · exact tracked.received key notice before
  · rw [← List.mem_singleton.mp last] at passes
    cases passes

theorem Tracked.later_marked (tracked : Tracked store done traffic) :
    ∀ event ∈ traffic.system.ledger.events, event.notified = true →
      ∃ key notice, .receive key notice ∈ done ++ more ∧ notice.id = event.id := by
  intro event member notified
  obtain ⟨key, notice, received, isNotice⟩ := tracked.marked event member notified
  exact ⟨key, notice, List.mem_append_left _ received, isNotice⟩

theorem Tracked.system {inner : Datebook.Move} {system : System} (tracked : Tracked store done traffic)
    (sane : System.Sane (done.filterMap Move.system?) traffic.system)
    (accounted : System.Accounted (done.filterMap Move.system?) traffic.system)
    (moved : traffic.system.move inner = some system)
    (known : ∀ key notice, move = .receive key notice → notice ∈ traffic.published) :
    Tracked store (done ++ [move]) { traffic with system } := by
  refine ⟨?_, ?_, ?_, ?_⟩
  · intro key notice member
    rcases List.mem_append.mp member with before | now
    · exact tracked.received key notice before
    · exact known key notice (List.mem_singleton.mp now).symm
  · intro round now due found event listed
    exact (tracked.looked round now due found event listed).later
  · intro notice isPublished
    exact (tracked.announced notice isPublished).later
  · intro event member notified
    rcases sane.notified_move accounted moved member notified with ⟨old, isOld, sameId, wasNotified⟩ | ⟨key, arrived⟩
    · obtain ⟨key, notice, received, isNotice⟩ := tracked.marked old isOld wasNotified
      exact ⟨key, notice, List.mem_append_left _ received, isNotice.trans sameId⟩
    · obtain ⟨source, received, isSource⟩ := List.mem_filterMap.mp arrived
      cases source with
      | receive key' notice =>
          simp only [Move.system?, Option.some.injEq, Datebook.Move.arrive.injEq, Job.markNotified.injEq] at isSource
          exact ⟨key', notice, List.mem_append_left _ received, isSource.2⟩
      | call | purge | act | look | publish => cases isSource

theorem Tracked.look {round : Nat} {now : Instant} {due : List Event} (tracked : Tracked store done traffic)
    (ran : Steps.run step done (start store) = some traffic)
    (peaceful : traffic.system.shared.store.Peaceful)
    (answered : (traffic.system.shared.store.answer (.listDue now)).1 = .ok due) :
    Tracked store (done ++ [.look round now])
      { traffic with rounds := traffic.rounds.put round ⟨now, due⟩ } := by
  refine ⟨tracked.later_received rfl, ?_, ?_, tracked.later_marked⟩
  · intro other time events found event listed
    rcases FinMap.get?_put_eq_some_iff.mp found with ⟨rfl, same⟩ | ⟨-, isOld⟩
    · cases same
      obtain ⟨member, isDue⟩ := peaceful.due_of_listDue answered listed
      have medium := System.medium_run (run_system ran)
      refine ⟨done, [], traffic, rfl, ran, peaceful.sound.find?_eq_some_iff.mpr ⟨member, rfl⟩, ?_, ?_⟩
      · exact System.rounding_run (run_system ran) ▸ isDue
      · exact fun exact => Store.isDue_of_rounding member (fun tabled => exact (medium ▸ tabled)) isDue
    · exact (tracked.looked other time events isOld event listed).later
  · intro notice isPublished
    exact (tracked.announced notice isPublished).later

theorem Tracked.publish {round : Nat} {now : Instant} {event : Event} {rest : List Event}
    (tracked : Tracked store done traffic) (ran : Steps.run step done (start store) = some traffic)
    (found : traffic.rounds.get? round = some ⟨now, event :: rest⟩) :
    Tracked store (done ++ [.publish round])
      ⟨traffic.system, traffic.rounds.put round ⟨now, rest⟩, traffic.published ++ [event.toNotice]⟩ := by
  refine ⟨?_, ?_, ?_, tracked.later_marked⟩
  · intro key notice member
    exact List.mem_append_left _ (tracked.later_received rfl key notice member)
  · intro other time events isThere old listed
    rcases FinMap.get?_put_eq_some_iff.mp isThere with ⟨rfl, same⟩ | ⟨-, isOld⟩
    · cases same
      exact (tracked.looked _ now _ found old (List.mem_cons_of_mem _ listed)).later
    · exact (tracked.looked other time events isOld old listed).later
  · intro notice isPublished
    -- A notice of an event that was announced before changes nothing about who was first.
    by_cases known : ∃ earlier ∈ traffic.published, earlier.id = notice.id
    · obtain ⟨earlier, before, sameId⟩ := known
      exact sameId ▸ (tracked.announced earlier before).later
    · push Not at known
      rcases List.mem_append.mp isPublished with before | last
      · exact absurd rfl (known notice before)
      · obtain rfl := List.mem_singleton.mp last
        exact ⟨done, round, [], traffic, now, event, rest, rfl, ran, found, rfl, known⟩

theorem tracked_of_run (fresh : store.IsFresh) (hasIds : HasIds store moves)
    (ran : Steps.run step moves (start store) = some traffic) : Tracked store moves traffic := by
  refine Steps.run_keep (Tracked store) (tracked_start fresh) ?_ ran
  intro done move rest traffic next whole came stepped tracked
  have hasIds' : HasIds store done := HasIds.left (whole ▸ hasIds)
  have sane := sane_of_run fresh hasIds' came
  cases stepped_of_step stepped with
  | system isInner moved known => exact tracked.system sane (System.accounted_run (run_system came)) moved known
  | look isNew answered => exact tracked.look came sane.peaceful answered
  | publish found => exact tracked.publish came found

theorem sound_of_run (fresh : store.IsFresh) (hasIds : HasIds store moves)
    (ran : Steps.run step moves (start store) = some traffic) : traffic.system.ledger.Sound :=
  (sane_of_run fresh hasIds ran).peaceful.sound

section Between

variable {earlier middle final : Traffic} {id : EventId} {old event : Event}

theorem find?_between (fresh : store.IsFresh) (hasIds : HasIds store (moves ++ done ++ more))
    (cameEarlier : Steps.run step moves (start store) = some earlier)
    (cameMiddle : Steps.run step (moves ++ done) (start store) = some middle)
    (ran : Steps.run step (moves ++ done ++ more) (start store) = some final)
    (wasThere : earlier.find? id = some old) (isThere : final.find? id = some event) :
    ∃ current, middle.find? id = some current := by
  have soundEarlier := sound_of_run fresh hasIds.left.left cameEarlier
  have untilMiddle := becomes_of_run fresh hasIds.left cameEarlier (Steps.run_rest cameMiddle cameEarlier)
  have untilFinal := becomes_of_run fresh hasIds cameMiddle (Steps.run_rest ran cameMiddle)
  obtain ⟨isOld, rfl⟩ := soundEarlier.find?_eq_some_iff.mp wasThere
  obtain ⟨member, sameId⟩ := (sound_of_run fresh hasIds ran).find?_eq_some_iff.mp isThere
  have given := Nat.lt_of_lt_of_le (soundEarlier.assigned old isOld).2 untilMiddle.nextId
  obtain ⟨current, inMiddle, isSame, -⟩ := untilFinal.events event member (sameId ▸ given)
  exact ⟨current, (sound_of_run fresh hasIds.left cameMiddle).find?_eq_some_iff.mpr ⟨inMiddle, isSame.trans sameId⟩⟩

theorem notified_stays (fresh : store.IsFresh) (hasIds : HasIds store (moves ++ done))
    (cameEarlier : Steps.run step moves (start store) = some earlier)
    (ran : Steps.run step (moves ++ done) (start store) = some final)
    (wasThere : earlier.find? id = some old) (isThere : final.find? id = some event)
    (notified : old.notified = true) : event.notified = true := by
  have soundEarlier := sound_of_run fresh hasIds.left cameEarlier
  have becomes := becomes_of_run fresh hasIds cameEarlier (Steps.run_rest ran cameEarlier)
  obtain ⟨isOld, rfl⟩ := soundEarlier.find?_eq_some_iff.mp wasThere
  obtain ⟨member, sameId⟩ := (sound_of_run fresh hasIds ran).find?_eq_some_iff.mp isThere
  obtain ⟨source, isSource, isSame, stays⟩ :=
    becomes.events event member (sameId ▸ (soundEarlier.assigned old isOld).2)
  obtain rfl : source = old := Event.eq_of_id_eq soundEarlier.distinct isSource isOld (isSame.trans sameId)
  exact stays notified

end Between

/-- A pass published a notice of the event, which it had found due, while the event was there and not
notified. -/
def Noticed (store : Store) (done : List Move) (id : EventId) : Prop :=
  ∃ first round second publishing now event rest current, done = first ++ .publish round :: second ∧
    Steps.run step first (start store) = some publishing ∧
    publishing.rounds.get? round = some ⟨now, event :: rest⟩ ∧ event.id = id ∧
    publishing.find? id = some current ∧ current.notified = false ∧ Looked store first round now event

theorem Announced.noticed {id : EventId} {event : Event} (announced : Announced store done id)
    (fresh : store.IsFresh) (hasIds : HasIds store (done ++ more))
    (ran : Steps.run step (done ++ more) (start store) = some traffic) (stored : traffic.find? id = some event) :
    Noticed store done id := by
  obtain ⟨first, round, second, publishing, now, due, rest, rfl, came, found, rfl, isFirst⟩ := announced
  rw [List.append_assoc] at ran hasIds
  have tracked := tracked_of_run fresh hasIds.left came
  have looked := tracked.looked round now _ found due (List.mem_cons_self ..)
  have ⟨before, between, looking, whole, cameLooking, wasThere, _⟩ := looked
  subst whole
  -- The event was there when the pass looked and is there at the end, so it was there in between.
  obtain ⟨current, isThere⟩ := find?_between fresh hasIds cameLooking came ran wasThere stored
  refine ⟨_, round, second, publishing, now, due, rest, current, rfl, came, found, rfl, isThere, ?_, looked⟩
  cases notified : current.notified with
  | false => rfl
  | true =>
      obtain ⟨member, sameId⟩ := (sound_of_run fresh hasIds.left came).find?_eq_some_iff.mp isThere
      obtain ⟨key, notice, received, isNotice⟩ := tracked.marked current member notified
      exact absurd (isNotice.trans sameId) (isFirst notice (tracked.received key notice received))

/-- Whatever is done in whatever order, an event that is notified has received its notice after a pass had
published it. An id belongs to one event from when it is given until that event is gone, which stays notified
once it is. -/
theorem notified_of_run (fresh : store.IsFresh) (hasIds : HasIds store moves) {final : Traffic}
    (ran : Steps.run step moves (start store) = some final) :
    (∀ id event, final.find? id = some event → event.notified = true →
      ∃ before key notice after, moves = before ++ .receive key notice :: after ∧ notice.id = id ∧
        Noticed store before id) ∧
    ∀ first second third earlier middle, moves = first ++ second ++ third →
      Steps.run step first (start store) = some earlier →
      Steps.run step (first ++ second) (start store) = some middle →
      ∀ id old, earlier.find? id = some old →
        (∀ event, final.find? id = some event → ∃ current, middle.find? id = some current) ∧
        ∀ current, middle.find? id = some current → old.notified = true → current.notified = true := by
  constructor
  · intro id event stored notified
    obtain ⟨member, sameId⟩ := (sound_of_run fresh hasIds ran).find?_eq_some_iff.mp stored
    obtain ⟨key, notice, received, isNotice⟩ := (tracked_of_run fresh hasIds ran).marked event member notified
    obtain ⟨before, after, receiving, next, rfl, came, stepped⟩ := Steps.exists_of_mem ran received
    have isPublished : notice ∈ receiving.published := by
      cases stepped_of_step stepped with
      | system isInner moved known => exact known key notice rfl
    have announced := (tracked_of_run fresh hasIds.left came).announced notice isPublished
    rw [isNotice, sameId] at announced
    exact ⟨before, key, notice, after, rfl, isNotice.trans sameId, announced.noticed fresh hasIds ran stored⟩
  · rintro first second third earlier middle rfl cameEarlier cameMiddle id old wasThere
    exact ⟨fun event isThere => find?_between fresh hasIds cameEarlier cameMiddle ran wasThere isThere,
      fun current isThere => notified_stays fresh hasIds.left cameEarlier cameMiddle wasThere isThere⟩

end Fresh

-- In memory, an event whose notice is received twice, and which is changed in between.
theorem notified_of_duplicate :
    let draft : Draft := ⟨1, 7, "", "", some NanoCount.least.toInstant, some NanoCount.greatest.toInstant,
      some NanoCount.least.toInstant⟩
    let notice : Notice := ⟨1, "", NanoCount.least.toInstant, 7⟩
    let moves : List Move := .call 0 (.insert draft) :: [.enter, .send, .send, .leave].map (.act 0) ++
      [.look 0 NanoCount.least.toInstant, .publish 0, .receive 1 notice, .act 1 .enter, .act 1 .send] ++
      .call 2 (.update draft) :: [.enter, .send, .send, .leave].map (.act 2) ++
      [.receive 3 notice, .act 3 .enter, .act 3 .send]
    Store.IsFresh (.memory .empty) ∧ HasIds (.memory .empty) moves ∧
      ∃ final event, Steps.run step moves (start (.memory .empty)) = some final ∧ final.find? 1 = some event ∧
        event.notified = true ∧ ∃ before key notice after, moves = before ++ .receive key notice :: after ∧
          notice.id = 1 ∧ Noticed (.memory .empty) before 1 := by
  intro draft notice moves
  have outcome : ((Steps.run step moves (start (.memory .empty))).bind fun final => final.find? 1) =
      some ⟨1, 7, "", "", NanoCount.least.toInstant, NanoCount.greatest.toInstant,
        some NanoCount.least.toInstant, true⟩ := by decide
  obtain ⟨final, ran, stored⟩ := Option.bind_eq_some_iff.mp outcome
  have fresh : Store.IsFresh (.memory .empty) := rfl
  have hasIds : HasIds (.memory .empty) moves := fun _ => by decide
  exact ⟨fresh, hasIds, final, _, ran, stored, rfl, (notified_of_run fresh hasIds ran).1 1 _ stored rfl⟩

theorem notified_before_time :
    let draft := Database.firstEvent.toDraft
    let notice : Notice := ⟨1, "first", NanoCount.least.toInstant, 7⟩
    let moves : List Move := .call 0 (.insert draft) ::
        [.enter, .send, .work, .work, .receive, .send, .work, .work, .work, .work, .receive, .leave].map (.act 0) ++
      [.look 0 Database.early, .publish 0] ++
      .receive 1 notice :: [.enter, .send, .work, .work, .work, .work, .receive, .leave].map (.act 1)
    (∀ round now, .look round now ∈ moves → now = Database.early) ∧
      ∃ final event, Steps.run step moves (start (.database ⟨.file, .empty, true⟩)) = some final ∧
        final.find? 1 = some event ∧ event.notified = true ∧
        ∀ time ∈ event.notifyTime, ¬ time ≤ Database.early := by
  intro draft notice moves
  have outcome : ((Steps.run step moves (start (.database ⟨.file, .empty, true⟩))).bind fun final =>
      final.find? 1) = some { Database.firstEvent with id := 1, notified := true } := by decide
  obtain ⟨final, ran, stored⟩ := Option.bind_eq_some_iff.mp outcome
  refine ⟨?_, final, _, ran, stored, rfl, by decide⟩
  intro round now looks
  have looked : round = 0 ∧ now = Database.early := by simpa [moves] using looks
  exact looked.2

end Traffic
end Datebook
