import Datebook.Proofs.EventHistory
import Datebook.Proofs.IndexedAnswers
import Datebook.Proofs.StoredRules

set_option autoImplicit false

namespace Datebook

open Store (Request)

namespace Store

variable {store : Store} {draft : Draft} {event : Event}

theorem answer_check (store : Store) (slot : Slot) : (store.answer slot.check).2 = store := by
  cases store with
  | memory inner =>
      change memory (inner.answer slot.check).2 = memory inner
      rw [inner.answer_check]
  | database inner =>
      simp only [answer, Database.answer, Database.precheck]
      split
      · rw [inner.table.answer_check]
      · rfl

theorem eq_of_answer_error {request : Request} {error : StoreError} (failed : (store.answer request).1 = .error error) :
    (store.answer request).2 = store := by
  cases store with
  | memory inner =>
      change memory (inner.answer request).2 = memory inner
      rw [MemoryStore.eq_of_answer_error failed]
  | database inner =>
      simp only [answer, Database.answer] at failed ⊢
      split
      · rfl
      · next storable =>
        simp only [storable] at failed
        split at failed
        · next connected => rw [if_pos connected, Table.eq_of_answer_error failed]
        · next closed => rw [if_neg closed]

def IsOpen : Store → Prop
  | memory _ => True
  | database inner => inner.connected = true

theorem Peaceful.answer_eq (peaceful : store.Peaceful) (isOpen : store.IsOpen) {request : Request}
    (storable : Database.precheck request = .ok ()) (spares : request.isInsert = false) :
    (store.answer request).1 = (store.ledger.answer store.rounding request).1 := by
  cases store with
  | memory inner => exact (congrArg Prod.fst (peaceful.1.answer_ledger request)).symm
  | database inner =>
      have connected : inner.connected = true := isOpen
      have same := peaceful.1.answer_ledger storable fun inserts => by simp [spares] at inserts
      simp only [answer, Database.answer, storable, connected, if_true]
      exact (congrArg Prod.fst same).symm

def InTheWay (store : Store) (draft : Draft) (stored : Event) : Prop :=
  stored ∈ store.ledger.events ∧ stored.userId = draft.userId ∧
    ∃ first last, draft.onTime = some first ∧ draft.offTime = some last ∧
      stored.overlaps (store.rounding first) (store.rounding last) = true

theorem Peaceful.check_eq_or (peaceful : store.Peaceful) (isOpen : store.IsOpen) (event : Event)
    (except : EventId) :
    (store.answer (.checkFree except event.userId event.onTime event.offTime)).1 = .error .dateBusy ∧
        (∃ stored, store.InTheWay event.toDraft stored ∧ stored.id ≠ except) ∨
      (store.answer (.checkFree except event.userId event.onTime event.offTime)).1 = .ok () ∧
        ∀ stored, store.InTheWay event.toDraft stored → stored.id = except := by
  rw [peaceful.answer_eq isOpen rfl rfl, Ledger.answer]
  split
  · next busy =>
    left
    obtain ⟨stored, member, meets⟩ := List.any_eq_true.mp busy
    simp only [Bool.and_eq_true, decide_eq_true_eq] at meets
    exact ⟨rfl, stored, ⟨member, meets.1, _, _, rfl, rfl, meets.2.2⟩, meets.2.1⟩
  · next free =>
    right
    refine ⟨rfl, ?_⟩
    rintro stored ⟨member, sameUser, first, last, ⟨⟩, ⟨⟩, meets⟩
    by_contra differs
    exact free (List.any_eq_true.mpr ⟨stored, member, by simp [Event.toDraft, sameUser, differs, meets]⟩)

end Store

theorem Procedure.run_checked (store : Store) (slot : Slot) (write : Request) :
    (ask slot.check fun _ => single write).run Service.serve (.direct store) =
      match (store.answer slot.check).1 with
      | .error error => (.error (.ofStore error), .direct store)
      | .ok _ => ((store.answer write).1.mapError .ofStore, .direct (store.answer write).2) := by
  rw [run_direct, store.answer_check]
  cases (store.answer slot.check).1 with
  | error error => rfl
  | ok _ => exact run_single write store

namespace Store

variable {store : Store} {draft : Draft}

inductive Updated (store : Store) (draft : Draft) : Except ServiceError Unit × StoreLink → Prop where
  | refused {violation : Violation} (broken : draft.check true = .error violation) :
      Updated store draft (.error (.invalid violation), .direct store)
  | busy {event : Event} (accepted : draft.check true = .ok event)
      (blocked : ∃ stored, store.InTheWay draft stored ∧ stored.id ≠ draft.id) :
      Updated store draft (.error .dateBusy, .direct store)
  | missing {event : Event} (accepted : draft.check true = .ok event)
      (free : ∀ stored, store.InTheWay draft stored → stored.id = draft.id)
      (absent : store.ledger.find? draft.id = none) :
      Updated store draft (.error (.eventNotFound draft.id), .direct store)
  | replaced {event old : Event} (accepted : draft.check true = .ok event)
      (free : ∀ stored, store.InTheWay draft stored → stored.id = draft.id)
      (found : store.ledger.find? draft.id = some old) :
      Updated store draft (.ok (), .direct (store.answer (.update event)).2)

theorem Peaceful.updated (peaceful : store.Peaceful) (isOpen : store.IsOpen) (draft : Draft) :
    store.Updated draft (Service.perform (.update draft) (.direct store)) := by
  simp only [Service.perform, Service.Call.procedure, Service.update]
  cases checked : draft.check true with
  | error violation => exact .refused checked
  | ok event =>
      obtain ⟨-, keeps, -, rfl⟩ := Draft.check_eq_ok_iff.mp checked
      have ran := Procedure.run_checked store ⟨event.id, event.userId, event.onTime, event.offTime⟩ (.update event)
      rcases peaceful.check_eq_or isOpen event event.id with ⟨busy, blocked⟩ | ⟨ok, free⟩
      · simp only [busy] at ran
        rw [ran]
        exact .busy checked blocked
      · simp only [ok] at ran
        rw [ran]
        obtain ⟨columns, stored⟩ :=
          Columns.exists_ofEvent keeps.onTime keeps.offTime fun time notifies => (keeps.notifyTime time notifies).1
        have storable : Database.precheck (.update event) = .ok () := by
          simp [Database.precheck, stored, Except.map]
        have answered := peaceful.answer_eq isOpen storable rfl
        simp only [Ledger.answer] at answered
        cases found : store.ledger.find? event.id with
        | none =>
            rw [found] at answered
            rw [eq_of_answer_error answered, answered]
            exact .missing checked free found
        | some old =>
            rw [found] at answered
            rw [answered]
            exact .replaced checked free found

end Store

namespace MemoryStore

variable {store : MemoryStore} {draft : Draft} {given : EventId → Prop}

theorem get?_insert (store : MemoryStore) (event : Event) (other : EventId) :
    (store.insert event).2.records.get? other =
      if other = store.nextId then some { event with id := store.nextId, notified := false }
      else store.records.get? other :=
  FinMap.get?_put ..

theorem get?_update (store : MemoryStore) (event old : Event) (other : EventId) :
    (store.update event old).records.get? other =
      if other = event.id then some { event with notified := old.notified } else store.records.get? other :=
  FinMap.get?_put ..

theorem lookup_eq_ok_iff {id : EventId} {event : Event} :
    (store.answer (.lookup id)).1 = .ok event ↔ store.records.get? id = some event := by
  simp only [answer]
  cases store.records.get? id <;> simp

theorem update_of_get? {event : Event} (found : store.records.get? event.id = some event) :
    store.update { event with notified := false } event = store := by
  simp only [update, if_true]
  rw [FinMap.put_of_get? found]

inductive Inserted (store : MemoryStore) (draft : Draft) : Except ServiceError EventId × StoreLink → Prop where
  | refused {violation : Violation} (broken : draft.check false = .error violation) :
      Inserted store draft (.error (.invalid violation), .direct (.memory store))
  | busy {event : Event} (accepted : draft.check false = .ok event)
      (blocked : ∃ stored, (Store.memory store).InTheWay draft stored) :
      Inserted store draft (.error .dateBusy, .direct (.memory store))
  | added {event : Event} (accepted : draft.check false = .ok event)
      (free : ∀ stored, ¬ (Store.memory store).InTheWay draft stored) :
      Inserted store draft (.ok store.nextId, .direct (.memory (store.insert { event with id := 0 }).2))

theorem inserted (peaceful : (Store.memory store).Peaceful) (draft : Draft) :
    store.Inserted draft (Service.perform (.insert draft) (.direct (.memory store))) := by
  simp only [Service.perform, Service.Call.procedure, Service.insert]
  cases checked : draft.check false with
  | error violation => exact .refused checked
  | ok event =>
      obtain ⟨-, -, -, rfl⟩ := Draft.check_eq_ok_iff.mp checked
      have ran := Procedure.run_checked (.memory store) ⟨0, event.userId, event.onTime, event.offTime⟩
        (.insert { event with id := 0 })
      rcases peaceful.check_eq_or trivial event 0 with ⟨busy, stored, blocks, -⟩ | ⟨ok, free⟩
      · simp only [busy] at ran
        rw [ran]
        exact .busy checked ⟨stored, blocks⟩
      · simp only [ok] at ran
        rw [ran]
        refine .added checked fun stored blocks => ?_
        -- The id that the check leaves out is that of no event.
        have assigned := (peaceful.sound.assigned stored blocks.1).1
        simp [free stored blocks] at assigned

-- The insert of a draft succeeds if it should, and then adds its event under an id above all given before.
structure ExactInsert (store : MemoryStore) (given : EventId → Prop) (draft : Draft)
    (outcome : Except ServiceError EventId × StoreLink) : Prop where
  succeeds_iff : (∃ id, outcome.1 = .ok id) ↔
    (∃ event, draft.check false = .ok event) ∧ ∀ stored, ¬ (Store.memory store).InTheWay draft stored
  adds : ∀ id, outcome.1 = .ok id → (∀ other, given other → other < id) ∧
    ∃ (event : Event) (after : MemoryStore), event.toDraft = draft ∧ outcome.2 = .direct (.memory after) ∧
      after.WellIndexed ∧ ∀ other, after.records.get? other =
        if other = id then some { event with id, notified := false } else store.records.get? other
  fails : ∀ error, outcome.1 = .error error → outcome.2 = .direct (.memory store)

-- The update of a draft succeeds if it should, and then replaces the event under its id, but for the mark.
structure ExactUpdate (store : MemoryStore) (draft : Draft) (outcome : Except ServiceError Unit × StoreLink) :
    Prop where
  succeeds_iff : outcome.1 = .ok () ↔
    (∃ event, draft.check true = .ok event) ∧ (∃ old, store.records.get? draft.id = some old) ∧
      ∀ stored, (Store.memory store).InTheWay draft stored → stored.id = draft.id
  replaces : outcome.1 = .ok () → ∃ (event old : Event) (after : MemoryStore), event.toDraft = draft ∧
    store.records.get? draft.id = some old ∧ outcome.2 = .direct (.memory after) ∧
      after.WellIndexed ∧ ∀ other, after.records.get? other =
        if other = draft.id then some { event with notified := old.notified } else store.records.get? other
  fails : ∀ error, outcome.1 = .error error → outcome.2 = .direct (.memory store)

theorem ExactInsert.of_error {error : ServiceError}
    (hindered : ¬ ((∃ event, draft.check false = .ok event) ∧
      ∀ stored, ¬ (Store.memory store).InTheWay draft stored)) :
    store.ExactInsert given draft (.error error, .direct (.memory store)) where
  succeeds_iff := iff_of_false nofun hindered
  adds := nofun
  fails _ _ := rfl

theorem exactInsert (peaceful : (Store.memory store).Peaceful)
    (room : 1 ≤ store.nextId.toNat ∧ store.nextId.toNat + 1 < 2 ^ 64)
    (below : ∀ id, given id → id < store.nextId) (draft : Draft) :
    store.ExactInsert given draft (Service.perform (.insert draft) (.direct (.memory store))) := by
  have inserted := inserted peaceful draft
  generalize Service.perform (.insert draft) (.direct (.memory store)) = outcome at inserted ⊢
  cases inserted with
  | refused broken =>
      apply ExactInsert.of_error
      rintro ⟨⟨event, accepted⟩, -⟩
      cases broken.symm.trans accepted
  | busy accepted blocked =>
      apply ExactInsert.of_error
      rintro ⟨-, free⟩
      obtain ⟨stored, blocks⟩ := blocked
      exact free stored blocks
  | @added event accepted free =>
      refine ⟨iff_of_true ⟨store.nextId, rfl⟩ ⟨⟨event, accepted⟩, free⟩, ?_, fun error failed => by cases failed⟩
      intro id succeeded
      cases succeeded
      obtain ⟨-, -, -, described⟩ := Draft.check_eq_ok_iff.mp accepted
      exact ⟨below, event, _, described, rfl, peaceful.1.insert _ room.1 room.2, store.get?_insert _⟩

theorem ExactUpdate.of_error {error : ServiceError}
    (hindered : ¬ ((∃ event, draft.check true = .ok event) ∧ (∃ old, store.records.get? draft.id = some old) ∧
      ∀ stored, (Store.memory store).InTheWay draft stored → stored.id = draft.id)) :
    store.ExactUpdate draft (.error error, .direct (.memory store)) where
  succeeds_iff := iff_of_false nofun hindered
  replaces := nofun
  fails _ _ := rfl

theorem exactUpdate (peaceful : (Store.memory store).Peaceful) (draft : Draft) :
    store.ExactUpdate draft (Service.perform (.update draft) (.direct (.memory store))) := by
  have updated := peaceful.updated trivial draft
  have looked := peaceful.1.lookup draft.id
  generalize Service.perform (.update draft) (.direct (.memory store)) = outcome at updated ⊢
  cases updated with
  | refused broken =>
      apply ExactUpdate.of_error
      rintro ⟨⟨event, accepted⟩, -⟩
      cases broken.symm.trans accepted
  | busy accepted blocked =>
      apply ExactUpdate.of_error
      rintro ⟨-, -, free⟩
      obtain ⟨stored, blocks, differs⟩ := blocked
      exact differs (free stored blocks)
  | missing accepted free absent =>
      apply ExactUpdate.of_error
      rintro ⟨-, ⟨old, present⟩, -⟩
      cases present.symm.trans (looked.trans absent)
  | @replaced event old accepted free found =>
      obtain ⟨-, -, -, rfl⟩ := Draft.check_eq_ok_iff.mp accepted
      have present : store.records.get? event.id = some old := looked.trans found
      have after : ((Store.memory store).answer (.update event)).2 = .memory (store.update event old) := by
        simp only [Store.answer, answer, present]
      rw [after]
      refine ⟨iff_of_true rfl ⟨⟨event, accepted⟩, ⟨old, present⟩, free⟩, ?_, fun error failed => by cases failed⟩
      intro _
      exact ⟨event, old, _, rfl, present, rfl, peaceful.1.update present, store.get?_update event old⟩

end MemoryStore

namespace System

variable {moves done : List Move} {system : System} {memory : MemoryStore}

def Given (store : Store) (moves : List Move) (id : EventId) : Prop :=
  ∃ done rest earlier, moves = done ++ rest ∧ run done (start store) = some earlier ∧
    ∃ event ∈ earlier.ledger.events, event.id = id

theorem Given.lt_nextId {store : Store} (fresh : store.IsFresh)
    (few : store = .memory .empty → moves.countP Move.startsInsert < 2 ^ 64 - 1)
    (ran : run moves (start store) = some system) {id : EventId} (given : Given store moves id) :
    id < system.ledger.nextId := by
  obtain ⟨done, rest, earlier, rfl, came, event, member, rfl⟩ := given
  have ranOn : run rest earlier = some system := (run_append came).symm.trans ran
  have assigned := ((sane_run fresh (few_left few) came).peaceful.sound.assigned event member).2
  rw [UInt64.lt_iff_toNat_lt]
  exact Nat.lt_of_lt_of_le assigned (becomes_of_run fresh few came ranOn).nextId

theorem Budget.nextId_le (budget : Budget done system) (inMemory : system.shared.store = .memory memory) :
    1 ≤ memory.nextId.toNat ∧ memory.nextId.toNat ≤ done.countP Move.startsInsert + 1 := by
  obtain ⟨keys, distinct, next, inserted⟩ := budget.spent memory inMemory
  have known : keys ⊆ done.filterMap Move.insertKey? := by
    intro key member
    obtain ⟨visit, found, inserts, -⟩ := inserted key member
    exact budget.started key visit found inserts
  have bound := distinct.length_le_of_subset known
  rw [List.length_filterMap_eq_countP] at bound
  exact ⟨by omega, by rw [next]; exact Nat.succ_le_succ bound⟩

/-- The ids of a store in memory have to last for the insert to come as well: after `2 ^ 64 - 1` of them they
start over. -/
theorem writes_exact (few : moves.countP Move.startsInsert + 1 < 2 ^ 64 - 1)
    (ran : run moves (start (.memory .empty)) = some system) (inMemory : system.shared.store = .memory memory)
    (draft : Draft) :
    memory.ExactInsert (Given (.memory .empty) moves) draft
        (Service.perform (.insert draft) (.direct (.memory memory))) ∧
      memory.ExactUpdate draft (Service.perform (.update draft) (.direct (.memory memory))) := by
  have few' : moves.countP Move.startsInsert < 2 ^ 64 - 1 := by omega
  have sane := sane_run_memory few' ran
  have peaceful := sane.peaceful
  rw [inMemory] at peaceful
  have bounds := sane.budget.nextId_le inMemory
  refine ⟨MemoryStore.exactInsert peaceful ⟨bounds.1, by omega⟩ ?_ draft, MemoryStore.exactUpdate peaceful draft⟩
  intro id given
  have below := given.lt_nextId Store.isFresh_empty (fun _ => few') ran
  rw [ledger, inMemory] at below
  exact below

theorem inMemory_of_run {first : MemoryStore} (ran : run moves (start (.memory first)) = some system) :
    ∃ memory, system.shared.store = .memory memory := by
  have medium := medium_run ran
  cases inner : system.shared.store with
  | memory memory => exact ⟨memory, rfl⟩
  | database database =>
      rw [inner] at medium
      cases medium

-- An event that starts in a leap second is stored, and then marked.
def markedMoves : List Move :=
  [.arrive 0 (.call (.insert leapDraft)), .act 0 .enter, .act 0 .send, .act 0 .send, .act 0 .leave,
    .arrive 1 (.markNotified 1), .act 1 .enter, .act 1 .send, .act 1 .leave]

def markedEvent : Event :=
  { leapEvent with onTime := leapDraft.onTime.get rfl, offTime := leapDraft.offTime.get rfl, notified := true }

theorem markedEvent_stored : ∃ system memory, run markedMoves (start (.memory .empty)) = some system ∧
    system.shared.store = .memory memory ∧ memory.records.get? 1 = some markedEvent := by
  have outcome : ((run markedMoves (start (.memory .empty))).map fun system =>
      (system.shared.store.answer (.lookup 1)).1) = some (.ok markedEvent) := by decide
  obtain ⟨system, ran, looked⟩ := Option.map_eq_some_iff.mp outcome
  obtain ⟨memory, inMemory⟩ := inMemory_of_run ran
  rw [inMemory] at looked
  exact ⟨system, memory, ran, inMemory, MemoryStore.lookup_eq_ok_iff.mp looked⟩

-- The time of the stored event is taken for a new event, but not for a new version of that event.
theorem writes_exact_of_newTitle :
    let draft : Draft := { leapDraft with id := 1, title := "moved" }
    markedMoves.countP Move.startsInsert + 1 < 2 ^ 64 - 1 ∧
      ∃ system memory, run markedMoves (start (.memory .empty)) = some system ∧
        system.shared.store = .memory memory ∧
        memory.ExactInsert (Given (.memory .empty) markedMoves) draft
          (Service.perform (.insert draft) (.direct (.memory memory))) ∧
        memory.ExactUpdate draft (Service.perform (.update draft) (.direct (.memory memory))) ∧
        (Service.perform (.insert draft) (.direct (.memory memory))).1 = .error .dateBusy ∧
        (Service.perform (.update draft) (.direct (.memory memory))).1 = .ok () := by
  intro draft
  have outcome : ((run markedMoves (start (.memory .empty))).map fun system =>
      ((Service.perform (.insert draft) (.direct system.shared.store)).1,
        (Service.perform (.update draft) (.direct system.shared.store)).1)) =
      some (.error .dateBusy, .ok ()) := by decide
  obtain ⟨system, ran, same⟩ := Option.map_eq_some_iff.mp outcome
  obtain ⟨memory, inMemory⟩ := inMemory_of_run ran
  rw [inMemory, Prod.mk.injEq] at same
  obtain ⟨exactInsert, exactUpdate⟩ := writes_exact (by decide) ran inMemory draft
  exact ⟨by decide, system, memory, ran, inMemory, exactInsert, exactUpdate, same⟩

end System
end Datebook
