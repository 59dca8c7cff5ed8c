import Datebook.Proofs.MemoryIndex
import Datebook.Proofs.Replies

set_option autoImplicit false

namespace Datebook.MemoryStore

open Store

section Contents

structure SameContents (left right : MemoryStore) : Prop where
  records : left.records.entries.Perm right.records.entries
  index : ∀ userId, Option.Rel List.Perm (left.byUser.get? userId) (right.byUser.get? userId)
  nextId : left.nextId = right.nextId

variable {left right : MemoryStore}

theorem SameContents.get?_eq (same : left.SameContents right) (id : EventId) :
    left.records.get? id = right.records.get? id := by
  apply Option.ext
  intro event
  rw [FinMap.get?_eq_some_iff, FinMap.get?_eq_some_iff, same.records.mem_iff]

theorem Lists.of_rel {entry entry' : Option (List EventId)} {owned : EventId → Prop}
    (lists : Lists entry owned) (same : Option.Rel List.Perm entry entry') : Lists entry' owned := by
  cases same with
  | none => exact lists
  | some perm =>
      refine ⟨?_, perm.nodup_iff.mp lists.2.1, fun id => perm.mem_iff.symm.trans (lists.2.2 id)⟩
      intro empty
      subst empty
      exact lists.1 perm.eq_nil

theorem WellIndexed.of_sameContents (indexed : left.WellIndexed) (same : left.SameContents right) :
    right.WellIndexed where
  keyed entry member := indexed.keyed entry (same.records.mem_iff.mpr member)
  assigned id event found := by
    rw [← same.get?_eq] at found
    rw [← same.nextId]
    exact indexed.assigned id event found
  indexed userId := by
    refine ((indexed.indexed userId).of_rel (same.index userId)).congr fun id => ?_
    simp only [Owns, same.get?_eq]

theorem SameContents.ledger_perm (same : left.SameContents right) :
    left.ledger.events.Perm right.ledger.events :=
  same.records.map Prod.snd

end Contents

def answerAmid (reorder : Nat → MemoryStore → MemoryStore) (state : Nat × MemoryStore)
    (request : Request) : request.Result × (Nat × MemoryStore) :=
  let (result, store) := (reorder state.1 state.2).answer request
  (result, (state.1 + 1, store))

def after (requests : List Request) : MemoryStore := (replies answer requests empty).2

-- A listing is told apart from the scan by its order alone, which `ListsInOrder` then fixes.
structure AnswersByScan (store : MemoryStore) : Prop where
  list : ∀ userId, ∃ events, (store.answer (.list userId)).1 = .ok events ∧
    events.Perm (store.records.values.filter fun event => event.userId = userId)
  listRange : ∀ userId first last, ∃ events, (store.answer (.listRange userId first last)).1 = .ok events ∧
    events.Perm (store.records.values.filter fun event =>
      event.userId = userId ∧ event.onTime ≤ last ∧ first ≤ event.offTime)
  listDue : ∀ cutoff, ∃ events, (store.answer (.listDue cutoff)).1 = .ok events ∧
    events.Perm (store.records.values.filter fun event =>
      event.notified = false ∧ ∃ time ∈ event.notifyTime, time ≤ cutoff)
  checkFree : ∀ except userId first last, (store.answer (.checkFree except userId first last)).1 =
    if ∃ event ∈ store.records.values, event.userId = userId ∧ event.id ≠ except ∧
        event.onTime ≤ last ∧ first ≤ event.offTime then
      .error .dateBusy
    else .ok ()

structure ListsInOrder (store : MemoryStore) : Prop where
  list : ∀ userId events, (store.answer (.list userId)).1 = .ok events → events.Pairwise Event.Precedes
  listRange : ∀ userId first last events,
    (store.answer (.listRange userId first last)).1 = .ok events → events.Pairwise Event.Precedes
  listDue : ∀ cutoff events, (store.answer (.listDue cutoff)).1 = .ok events → events.Pairwise Event.Precedes

/-- However records, index and the ids of each user are reordered before each request, the answers
are the same. -/
def OrderFree (requests : List Request) : Prop :=
  ∀ reorder : Nat → MemoryStore → MemoryStore, (∀ turn store, SameContents store (reorder turn store)) →
    (replies (answerAmid reorder) requests (0, empty)).1 = (replies answer requests empty).1

theorem WellIndexed.answer_list {store : MemoryStore} (indexed : store.WellIndexed) (userId : UserId) :
    (store.answer (.list userId)).1 =
      .ok (Event.sort (store.records.values.filter fun event => event.userId = userId)) :=
  (congrArg Prod.fst (indexed.answer_ledger (.list userId))).symm

theorem WellIndexed.answer_listRange {store : MemoryStore} (indexed : store.WellIndexed) (userId : UserId)
    (first last : Instant) : (store.answer (.listRange userId first last)).1 =
      .ok (Event.sort (store.records.values.filter fun event =>
        event.userId = userId && event.overlaps first last)) :=
  (congrArg Prod.fst (indexed.answer_ledger (.listRange userId first last))).symm

theorem WellIndexed.answersByScan {store : MemoryStore} (indexed : store.WellIndexed) :
    store.AnswersByScan where
  list userId := ⟨_, indexed.answer_list userId, Event.sort_perm _⟩
  listRange userId first last := by
    refine ⟨_, indexed.answer_listRange userId first last, ?_⟩
    simpa only [Event.overlaps, Bool.decide_and] using Event.sort_perm _
  listDue cutoff := by
    refine ⟨_, rfl, (Event.sort_perm _).trans (.of_eq (List.filter_congr fun event _ => ?_))⟩
    rw [Bool.eq_iff_iff]
    simp only [Event.isDue, Bool.and_eq_true, Bool.not_eq_true', Option.any_eq_true, decide_eq_true_eq,
      Option.mem_def]
  checkFree except userId first last := by
    -- The ledger decides on its answer and its state together, so the answer has to be taken out first.
    have same := congrArg Prod.fst (indexed.answer_ledger (.checkFree except userId first last))
    rw [← same, Ledger.answer, apply_ite Prod.fst]
    refine if_congr ?_ rfl rfl
    simp [Ledger.isBusy, Event.overlaps, ledger]

theorem WellIndexed.listsInOrder {store : MemoryStore} (indexed : store.WellIndexed) :
    store.ListsInOrder := by
  have ordered (condition : Event → Bool) :
      (Event.sort (store.records.values.filter condition)).Pairwise Event.Precedes :=
    Event.pairwise_precedes_sort (indexed.keyed.nodup.sublist (List.filter_sublist.map Event.id))
  refine ⟨?_, ?_, ?_⟩
  · intro userId events listed
    rw [indexed.answer_list] at listed
    cases listed
    exact ordered _
  · intro userId first last events listed
    rw [indexed.answer_listRange] at listed
    cases listed
    exact ordered _
  · intro cutoff events listed
    cases listed
    exact ordered _

def HasIds (requests : List Request) (store : MemoryStore) : Prop :=
  1 ≤ store.nextId.toNat ∧ store.nextId.toNat + requests.countP Request.isInsert < 2 ^ 64

theorem HasIds.room {request : Request} {rest : List Request} {store : MemoryStore}
    (ids : HasIds (request :: rest) store) (inserts : request.isInsert = true) :
    1 ≤ store.nextId.toNat ∧ store.nextId.toNat + 1 < 2 ^ 64 := by
  have count := ids.2
  rw [List.countP_cons_of_pos inserts] at count
  exact ⟨ids.1, by omega⟩

theorem HasIds.answer {request : Request} {rest : List Request} {store : MemoryStore}
    (indexed : store.WellIndexed) (ids : HasIds (request :: rest) store) :
    HasIds rest (store.answer request).2 := by
  have count := ids.2
  rw [HasIds, indexed.nextId_answer]
  cases inserts : request.isInsert with
  | false =>
      rw [List.countP_cons_of_neg (by simp [inserts])] at count
      exact ⟨ids.1, count⟩
  | true =>
      rw [List.countP_cons_of_pos inserts] at count
      have succ := toNat_succ (ids.room inserts).2
      simp only [if_true, succ]
      omega

theorem wellIndexed_after {requests : List Request} (ids : HasIds requests empty) :
    (after requests).WellIndexed := by
  have start : empty.WellIndexed ∧ HasIds requests empty := ⟨wellIndexed_empty, ids⟩
  refine (replies_keep (fun requests store => store.WellIndexed ∧ HasIds requests store) ?_ start).1
  rintro request rest store ⟨indexed, ids⟩
  exact ⟨indexed.answer request ids.room, ids.answer indexed⟩

structure Agree (requests : List Request) (shuffled store : MemoryStore) : Prop where
  indexed : store.WellIndexed
  ids : HasIds requests store
  shuffledIndexed : shuffled.WellIndexed
  events : store.ledger.events.Perm shuffled.ledger.events
  nextId : store.nextId = shuffled.nextId

theorem agree_empty {requests : List Request} (ids : HasIds requests empty) : Agree requests empty empty :=
  ⟨wellIndexed_empty, ids, wellIndexed_empty, .refl _, rfl⟩

theorem Agree.reorder {requests : List Request} {shuffled reordered store : MemoryStore}
    (agree : Agree requests shuffled store) (same : shuffled.SameContents reordered) :
    Agree requests reordered store where
  indexed := agree.indexed
  ids := agree.ids
  shuffledIndexed := agree.shuffledIndexed.of_sameContents same
  events := agree.events.trans same.ledger_perm
  nextId := agree.nextId.trans same.nextId

theorem Agree.answer {request : Request} {rest : List Request} {shuffled store : MemoryStore}
    (agree : Agree (request :: rest) shuffled store) :
    (shuffled.answer request).1 = (store.answer request).1 ∧
      Agree rest (shuffled.answer request).2 (store.answer request).2 := by
  obtain ⟨answers, eventsAfter, nextAfter⟩ :=
    Ledger.answer_of_perm id agree.indexed.sound agree.events agree.nextId request
  rw [agree.indexed.answer_ledger, agree.shuffledIndexed.answer_ledger] at answers eventsAfter nextAfter
  have room (inserts : request.isInsert = true) := agree.nextId ▸ agree.ids.room inserts
  exact ⟨answers.symm, agree.indexed.answer request agree.ids.room, agree.ids.answer agree.indexed,
    agree.shuffledIndexed.answer request room, eventsAfter, nextAfter⟩

theorem orderFree {requests : List Request} (ids : HasIds requests empty) : OrderFree requests := by
  intro reorder reorders
  refine replies_agree (fun requests shuffled store => Agree requests shuffled.2 store) ?_ (agree_empty ids)
  rintro request rest ⟨turn, shuffled⟩ store agree
  exact (agree.reorder (reorders turn shuffled)).answer

theorem index_exact (requests : List Request) (few : requests.countP Request.isInsert < 2 ^ 64 - 1) :
    (after requests).WellIndexed ∧ (after requests).AnswersByScan ∧ (after requests).ListsInOrder ∧
      OrderFree requests := by
  have ids : HasIds requests empty := by
    have one : empty.nextId.toNat = 1 := rfl
    rw [HasIds, one]
    omega
  have indexed := wellIndexed_after ids
  exact ⟨indexed, indexed.answersByScan, indexed.listsInOrder, orderFree ids⟩

theorem index_exact_after_handover :
    let event : Event := ⟨0, 7, "", "", NanoCount.least.toInstant, NanoCount.greatest.toInstant, none, false⟩
    let requests : List Request := [.insert event, .insert event, .insert event, .delete 1,
      .update { event with id := 2, userId := 8 }, .markNotified 2, .purge event.offTime, .list 7]
    (requests.countP Request.isInsert < 2 ^ 64 - 1 ∧ (after requests).WellIndexed ∧
      (after requests).AnswersByScan ∧ (after requests).ListsInOrder ∧ OrderFree requests) ∧
    ((after requests).answer (.list 7)).1 = .ok [{ event with id := 3 }] ∧
    ((after requests).answer (.list 8)).1 = .ok [{ event with id := 2, userId := 8, notified := true }] :=
  ⟨⟨by decide, index_exact _ (by decide)⟩, by decide, by decide⟩

end Datebook.MemoryStore
