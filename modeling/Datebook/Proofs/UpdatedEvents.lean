import Datebook.Proofs.WriteOutcomes

set_option autoImplicit false

namespace Datebook

namespace Store

variable {store : Store} {draft : Draft} {event : Event}

theorem update_of_closed (closed : ¬ store.IsOpen) (accepted : draft.check true = .ok event) :
    Service.perform (.update draft) (.direct store) = (.error (.store .notConnected), .direct store) := by
  cases store with
  | memory inner => exact absurd trivial closed
  | database inner =>
      have answered : ((database inner).answer (Slot.check ⟨event.id, event.userId, event.onTime, event.offTime⟩)).1 =
          .error .notConnected := by
        have notConnected : ¬ inner.connected = true := closed
        simp only [answer, Slot.check, Database.answer, Database.precheck]
        rw [if_neg notConnected]
      have ran := Procedure.run_checked (database inner) ⟨event.id, event.userId, event.onTime, event.offTime⟩
        (.update event)
      rw [answered] at ran
      simp only [Service.perform, Service.Call.procedure, Service.update, accepted]
      exact ran

/-- An update without an event to replace fails: a closed store says so, and an open one finds the time taken
before it misses the event. -/
structure VainUpdate (store : Store) (draft : Draft) (outcome : Except ServiceError Unit × StoreLink) : Prop where
  unchanged : outcome.2 = .direct store
  closed_iff : outcome.1 = .error (.store .notConnected) ↔ ¬ store.IsOpen
  busy_iff : outcome.1 = .error .dateBusy ↔ store.IsOpen ∧ ∃ stored, store.InTheWay draft stored
  notFound_iff : outcome.1 = .error (.eventNotFound draft.id) ↔
    store.IsOpen ∧ ∀ stored, ¬ store.InTheWay draft stored

theorem Peaceful.vainUpdate (peaceful : store.Peaceful) (accepted : draft.check true = .ok event)
    (absent : ∀ stored ∈ store.ledger.events, stored.id ≠ draft.id) :
    store.VainUpdate draft (Service.perform (.update draft) (.direct store)) := by
  by_cases isOpen : store.IsOpen
  case neg =>
    rw [update_of_closed isOpen accepted]
    exact ⟨rfl, by simp [isOpen], by simp [isOpen], by simp [isOpen]⟩
  have updated := peaceful.updated isOpen draft
  generalize Service.perform (.update draft) (.direct store) = outcome at updated ⊢
  cases updated with
  | refused broken => cases broken.symm.trans accepted
  | busy _ blocked =>
      obtain ⟨stored, blocks, -⟩ := blocked
      have taken : ∃ stored, store.InTheWay draft stored := ⟨stored, blocks⟩
      have notFree : ¬ ∀ stored, ¬ store.InTheWay draft stored := fun free => free stored blocks
      exact ⟨rfl, by simp [isOpen], by simp [isOpen, taken], by simp [isOpen, notFree]⟩
  | missing _ free _ =>
      -- The check leaves out the event of the draft's own id, and there is none.
      have free' (stored : Event) : ¬ store.InTheWay draft stored := fun blocks =>
        absent stored blocks.1 (free stored blocks)
      exact ⟨rfl, by simp [isOpen], by simp [isOpen, free'], by simp [isOpen, free']⟩
  | replaced _ _ found =>
      obtain ⟨member, sameId⟩ := peaceful.sound.find?_eq_some_iff.mp found
      exact absurd sameId (absent _ member)

end Store

namespace System

variable {moves : List Move} {system : System} {memory : MemoryStore}

def Unknown (store : Store) (moves : List Move) (id : EventId) : Prop :=
  ¬ Given store moves id ∨ ∃ done rest earlier, moves = done ++ rest ∧ run done (start store) = some earlier ∧
    Given store done id ∧ ∀ event ∈ earlier.ledger.events, event.id ≠ id

theorem Unknown.absent {store : Store} (fresh : store.IsFresh)
    (few : store = .memory .empty → moves.countP Move.startsInsert < 2 ^ 64 - 1)
    (ran : run moves (start store) = some system) {id : EventId} (unknown : Unknown store moves id) :
    ∀ event ∈ system.ledger.events, event.id ≠ id := by
  rintro event member rfl
  rcases unknown with never | ⟨done, rest, earlier, rfl, came, given, gone⟩
  · exact never ⟨moves, [], system, (List.append_nil moves).symm, ran, event, member, rfl⟩
  · have ranOn : run rest earlier = some system := (run_append came).symm.trans ran
    -- An id below the next one is not given again.
    have below := UInt64.lt_iff_toNat_lt.mp (given.lt_nextId fresh (few_left few) came)
    obtain ⟨old, present, sameId, -⟩ := (becomes_of_run fresh few came ranOn).events event member below
    exact gone old present sameId

theorem vainUpdate_of_run {store : Store} (fresh : store.IsFresh)
    (few : store = .memory .empty → moves.countP Move.startsInsert < 2 ^ 64 - 1)
    (ran : run moves (start store) = some system) {draft : Draft} {event : Event}
    (accepted : draft.check true = .ok event) (unknown : Unknown store moves draft.id) :
    system.shared.store.VainUpdate draft (Service.perform (.update draft) (.direct system.shared.store)) :=
  (sane_run fresh few ran).peaceful.vainUpdate accepted (unknown.absent fresh few ran)

-- The event of `markedMoves` is deleted, and another user takes its time.
def deletedMoves : List Move :=
  markedMoves ++ [.arrive 2 (.call (.delete 1)), .act 2 .enter, .act 2 .send, .act 2 .leave,
    .arrive 3 (.call (.insert { leapDraft with userId := 8 })), .act 3 .enter, .act 3 .send, .act 3 .send, .act 3 .leave]

theorem vainUpdate_of_deleted :
    let draft : Draft := { leapDraft with id := 1 }
    let event : Event := { markedEvent with notified := false }
    Store.IsFresh (.memory .empty) ∧ deletedMoves.countP Move.startsInsert < 2 ^ 64 - 1 ∧
      draft.check true = .ok event ∧ Unknown (.memory .empty) deletedMoves draft.id ∧
      ∃ system, run deletedMoves (start (.memory .empty)) = some system ∧
        system.shared.store.VainUpdate draft (Service.perform (.update draft) (.direct system.shared.store)) ∧
        (Service.perform (.update draft) (.direct system.shared.store)).1 = .error (.eventNotFound 1) := by
  intro draft event
  have before : ((run markedMoves (start (.memory .empty))).map fun system =>
      system.ledger.events.map Event.id) = some [1] := by decide
  obtain ⟨earlier, came, ids⟩ := Option.map_eq_some_iff.mp before
  have outcome : ((run deletedMoves (start (.memory .empty))).map fun system =>
      (system.ledger.events.map Event.id, (Service.perform (.update draft) (.direct system.shared.store)).1)) =
      some ([2], .error (.eventNotFound 1)) := by decide
  obtain ⟨system, ran, same⟩ := Option.map_eq_some_iff.mp outcome
  obtain ⟨ids', missed⟩ := Prod.mk.inj same
  have given : Given (.memory .empty) deletedMoves 1 := by
    have member : (1 : EventId) ∈ earlier.ledger.events.map Event.id := by simp [ids]
    exact ⟨markedMoves, _, earlier, rfl, came, List.mem_map.mp member⟩
  have gone (stored : Event) (member : stored ∈ system.ledger.events) : stored.id ≠ 1 := by
    have isTwo : stored.id ∈ system.ledger.events.map Event.id := List.mem_map_of_mem member
    rw [ids', List.mem_singleton] at isTwo
    rw [isTwo]
    decide
  have unknown : Unknown (.memory .empty) deletedMoves draft.id :=
    .inr ⟨deletedMoves, [], system, (List.append_nil _).symm, ran, given, gone⟩
  have accepted : draft.check true = .ok event := by decide
  exact ⟨Store.isFresh_empty, by decide, accepted, unknown, system, ran,
    vainUpdate_of_run Store.isFresh_empty (fun _ => by decide) ran accepted unknown, missed⟩

-- Where the time is taken, an id that was never given is not what the update fails for.
theorem busy_update_of_unknown :
    let draft : Draft := { leapDraft with id := 42 }
    (∃ event, draft.check true = .ok event) ∧ Unknown (.memory .empty) markedMoves draft.id ∧
      ∃ system, run markedMoves (start (.memory .empty)) = some system ∧
        Service.perform (.update draft) (.direct system.shared.store) =
          (.error .dateBusy, .direct system.shared.store) := by
  intro draft
  have outcome : ((run markedMoves (start (.memory .empty))).map fun system =>
      (decide (Service.perform (.update draft) (.direct system.shared.store) =
        (.error .dateBusy, .direct system.shared.store)), system.ledger.nextId)) = some (true, 2) := by decide
  obtain ⟨system, ran, same⟩ := Option.map_eq_some_iff.mp outcome
  obtain ⟨busy, next⟩ := Prod.mk.inj same
  have never : ¬ Given (.memory .empty) markedMoves draft.id := by
    intro given
    have below := given.lt_nextId Store.isFresh_empty (fun _ => by decide) ran
    rw [next] at below
    exact absurd below (by decide)
  exact ⟨⟨{ markedEvent with id := 42, notified := false }, by decide⟩, .inl never, system, ran, of_decide_eq_true busy⟩

theorem writtenBack_of_run (few : moves.countP Move.startsInsert < 2 ^ 64 - 1)
    (ran : run moves (start (.memory .empty)) = some system) (inMemory : system.shared.store = .memory memory)
    {id : EventId} {event : Event} (stored : memory.records.get? id = some event) :
    Service.perform (.update event.toDraft) (.direct (.memory memory)) = (.ok (), .direct (.memory memory)) := by
  have peaceful := (sane_run_memory few ran).peaceful
  rw [inMemory] at peaceful
  have ⟨indexed, conflictFree⟩ := peaceful
  obtain ⟨member, rfl⟩ := indexed.keyed.get?_eq_some_iff.mp stored
  have inLedger : event ∈ system.ledger.events := by
    rw [ledger, inMemory]
    exact member
  have hasId : event.id ≠ 0 := fun zero => by simpa [zero] using indexed.assigned event.id event stored
  have accepted : event.toDraft.check true = .ok { event with notified := false } :=
    Draft.check_eq_ok_iff.mpr ⟨fun _ => hasId, (keepsRules_of_run few ran inLedger).relabel event.id false, rfl, rfl⟩
  have updated := peaceful.updated trivial event.toDraft
  generalize Service.perform (.update event.toDraft) (.direct (.memory memory)) = outcome at updated ⊢
  cases updated with
  | refused broken => cases broken.symm.trans accepted
  | busy accepted' blocked =>
      obtain ⟨rival, ⟨rivalMember, sameUser, first, last, isFirst, isLast, meets⟩, differs⟩ := blocked
      cases isFirst
      cases isLast
      have apart := conflictFree rival rivalMember event member sameUser differs
      exact absurd meets (by simp [Store.rounding, apart])
  | missing accepted' free absent => cases stored.symm.trans ((indexed.lookup event.id).trans absent)
  | replaced accepted' free found =>
      cases accepted.symm.trans accepted'
      have unchanged : ((Store.memory memory).answer (.update { event with notified := false })).2 = .memory memory := by
        simp only [Store.answer, MemoryStore.answer, stored, MemoryStore.update_of_get? stored]
      rw [unchanged]

theorem writtenBack_of_marked : markedMoves.countP Move.startsInsert < 2 ^ 64 - 1 ∧
    ∃ system memory, run markedMoves (start (.memory .empty)) = some system ∧
      system.shared.store = .memory memory ∧ memory.records.get? 1 = some markedEvent ∧
      Service.perform (.update markedEvent.toDraft) (.direct (.memory memory)) = (.ok (), .direct (.memory memory)) :=
  have ⟨system, memory, ran, inMemory, stored⟩ := markedEvent_stored
  ⟨by decide, system, memory, ran, inMemory, stored, writtenBack_of_run (by decide) ran inMemory stored⟩

end System
end Datebook
