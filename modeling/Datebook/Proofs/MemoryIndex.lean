import Mathlib.Algebra.Group.Nat.Defs
import Datebook.Proofs.FinMapContents
import Datebook.Proofs.Ledger
import Datebook.Store.Memory

set_option autoImplicit false

namespace Datebook.MemoryStore

open Store

/-- An entry of the index, for a user who owns certain ids: all of them once, or no entry at all. -/
def Lists (entry : Option (List EventId)) (owned : EventId → Prop) : Prop :=
  match entry with
  | none => ∀ id, ¬ owned id
  | some ids => ids ≠ [] ∧ ids.Nodup ∧ ∀ id, id ∈ ids ↔ owned id

section Entry

variable {entry : Option (List EventId)} {owned owned' : EventId → Prop}

theorem Lists.mem_iff (lists : Lists entry owned) (id : EventId) : id ∈ entry.getD [] ↔ owned id := by
  cases entry with
  | none => simpa using lists id
  | some ids => exact lists.2.2 id

theorem Lists.nodup (lists : Lists entry owned) : (entry.getD []).Nodup := by
  cases entry with
  | none => exact List.nodup_nil
  | some ids => exact lists.2.1

theorem Lists.congr (lists : Lists entry owned) (same : ∀ id, owned id ↔ owned' id) :
    Lists entry owned' := by
  cases entry with
  | none => exact fun id => (not_congr (same id)).mp (lists id)
  | some ids => exact ⟨lists.1, lists.2.1, fun id => (lists.2.2 id).trans (same id)⟩

theorem Lists.append (lists : Lists entry owned) {id : EventId} (new : ¬ owned id) :
    Lists (some (entry.getD [] ++ [id])) fun other => owned other ∨ other = id := by
  refine ⟨by simp, ?_, ?_⟩
  · refine List.nodup_append.mpr ⟨lists.nodup, List.nodup_singleton id, ?_⟩
    intro other member last isLast same
    rw [List.mem_singleton.mp isLast] at same
    exact new ((lists.mem_iff id).mp (same ▸ member))
  · intro other
    rw [List.mem_append, List.mem_singleton, lists.mem_iff]

theorem Lists.remove {ids : List EventId} (lists : Lists (some ids) owned) (id : EventId) :
    Lists (match swapRemove ids id with
      | [] => none
      | rest => some rest) fun other => owned other ∧ other ≠ id := by
  have members (other : EventId) : other ∈ swapRemove ids id ↔ owned other ∧ other ≠ id := by
    rw [(swapRemove_perm ids id).mem_iff, lists.2.1.mem_erase_iff, lists.2.2 other, and_comm]
  have once : (swapRemove ids id).Nodup := (swapRemove_perm ids id).nodup_iff.mpr (lists.2.1.erase id)
  cases removed : swapRemove ids id with
  | nil =>
      intro other left
      have member := (members other).mpr left
      rw [removed] at member
      cases member
  | cons first rest => exact ⟨List.cons_ne_nil _ _, removed ▸ once, fun other => removed ▸ members other⟩

end Entry

section Index

variable {index : FinMap UserId (List EventId)} {owns : UserId → EventId → Prop}

theorem get?_addToIndex (userId other : UserId) (id : EventId) :
    (addToIndex index userId id).get? other =
      if other = userId then some ((index.get? userId).getD [] ++ [id]) else index.get? other :=
  FinMap.get?_put ..

theorem lists_addToIndex (lists : ∀ userId, Lists (index.get? userId) (owns userId)) {userId : UserId}
    {id : EventId} (new : ¬ owns userId id) (other : UserId) :
    Lists ((addToIndex index userId id).get? other)
      fun event => owns other event ∨ other = userId ∧ event = id := by
  rw [get?_addToIndex]
  split
  · next same =>
    subst same
    exact ((lists other).append new).congr fun event => by simp
  · next differs => exact (lists other).congr fun event => by simp [differs]

theorem lists_removeFromIndex (lists : ∀ userId, Lists (index.get? userId) (owns userId))
    (userId : UserId) (id : EventId) (other : UserId) :
    Lists ((removeFromIndex index userId id).get? other)
      fun event => owns other event ∧ ¬ (other = userId ∧ event = id) := by
  cases found : index.get? userId with
  | none =>
      have nothing : removeFromIndex index userId id = index := by simp [removeFromIndex, found]
      rw [nothing]
      refine (lists other).congr fun event => ?_
      have absent := lists userId
      rw [found] at absent
      constructor
      · intro owned
        refine ⟨owned, ?_⟩
        rintro ⟨rfl, -⟩
        exact absent event owned
      · exact And.left
  | some ids =>
      have entry := lists userId
      rw [found] at entry
      have removed := entry.remove id
      by_cases same : other = userId
      · subst same
        cases rest : swapRemove ids id <;>
          simp only [removeFromIndex, found, rest, FinMap.get?_erase, FinMap.get?_put, if_true] at removed ⊢ <;>
          exact removed.congr fun event => by simp
      · cases rest : swapRemove ids id <;>
          simp only [removeFromIndex, found, rest, FinMap.get?_erase, FinMap.get?_put, if_neg same] <;>
          exact (lists other).congr fun event => by simp [same]

end Index

def Owns (store : MemoryStore) (userId : UserId) (id : EventId) : Prop :=
  ∃ event, store.records.get? id = some event ∧ event.userId = userId

/-- Every record is kept under its own id, which has been assigned, and the index gives each user
exactly the ids of their records. -/
structure WellIndexed (store : MemoryStore) : Prop where
  keyed : store.records.Keyed Event.id
  assigned : ∀ id event, store.records.get? id = some event → 1 ≤ id ∧ id < store.nextId
  indexed : ∀ userId, Lists (store.byUser.get? userId) (store.Owns userId)

def ledger (store : MemoryStore) : Ledger := ⟨store.records.values, store.nextId⟩

section Requests

variable {store : MemoryStore}

theorem wellIndexed_empty : empty.WellIndexed where
  keyed := by simp [FinMap.Keyed, empty, FinMap.empty]
  assigned id event found := by cases found
  indexed userId id := by
    rintro ⟨event, found, -⟩
    cases found

theorem WellIndexed.lookup (indexed : store.WellIndexed) (id : EventId) :
    store.records.get? id = store.ledger.find? id :=
  indexed.keyed.get?_eq_find? id

theorem WellIndexed.id_eq (indexed : store.WellIndexed) {id : EventId} {event : Event}
    (found : store.records.get? id = some event) : event.id = id :=
  (indexed.keyed.get?_eq_some_iff.mp found).2

theorem WellIndexed.sound (indexed : store.WellIndexed) : store.ledger.Sound where
  distinct := indexed.keyed.nodup
  assigned event member := by
    have found := indexed.keyed.get?_eq_some_iff.mpr ⟨member, rfl⟩
    have bounds := indexed.assigned event.id event found
    rw [UInt64.le_iff_toNat_le, UInt64.lt_iff_toNat_lt] at bounds
    exact bounds

theorem WellIndexed.get?_nextId (indexed : store.WellIndexed) : store.records.get? store.nextId = none := by
  cases found : store.records.get? store.nextId with
  | none => rfl
  | some event => exact absurd (indexed.assigned _ _ found).2 (UInt64.lt_irrefl _)

theorem WellIndexed.eventsOf_perm (indexed : store.WellIndexed) (userId : UserId) :
    (store.eventsOf userId).Perm (store.records.values.filter fun event => event.userId = userId) := by
  have distinct : store.records.values.Nodup := List.Nodup.of_map _ indexed.keyed.nodup
  -- Neither side repeats an event, so it is enough that they hold the same ones.
  have once : (store.eventsOf userId).Nodup := by
    refine (indexed.indexed userId).nodup.filterMap ?_
    intro left right event inLeft inRight
    rw [← indexed.id_eq inLeft, ← indexed.id_eq inRight]
  rw [List.perm_ext_iff_of_nodup once (distinct.filter _)]
  intro event
  simp only [eventsOf, idsOf, List.mem_filterMap, (indexed.indexed userId).mem_iff, List.mem_filter,
    decide_eq_true_eq]
  constructor
  · rintro ⟨id, ⟨owned, found, ofUser⟩, same⟩
    rw [found] at same
    cases same
    exact ⟨(indexed.keyed.get?_eq_some_iff.mp found).1, ofUser⟩
  · rintro ⟨member, ofUser⟩
    have found := indexed.keyed.get?_eq_some_iff.mpr ⟨member, rfl⟩
    exact ⟨event.id, ⟨event, found, ofUser⟩, found⟩

theorem WellIndexed.sort_eventsOf (indexed : store.WellIndexed) (userId : UserId) (condition : Event → Bool) :
    Event.sort ((store.eventsOf userId).filter condition) =
      Event.sort (store.records.values.filter fun event => event.userId = userId && condition event) := by
  have same := (indexed.eventsOf_perm userId).filter condition
  rw [List.filter_filter] at same
  rw [← Event.sort_eq_of_perm same.symm (indexed.keyed.nodup.sublist (List.filter_sublist.map Event.id))]
  simp only [Bool.and_comm]

theorem ledger_insert (indexed : store.WellIndexed) (event : Event) :
    (store.insert event).2.ledger =
      ⟨store.records.values ++ [{ event with id := store.nextId, notified := false }], store.nextId + 1⟩ := by
  simp only [ledger, insert, FinMap.values_put_of_absent indexed.get?_nextId]

theorem toNat_succ {id : EventId} (room : id.toNat + 1 < 2 ^ 64) : (id + 1).toNat = id.toNat + 1 := by
  rw [UInt64.toNat_add]
  exact Nat.mod_eq_of_lt room

theorem WellIndexed.insert (indexed : store.WellIndexed) (event : Event) (positive : 1 ≤ store.nextId.toNat)
    (room : store.nextId.toNat + 1 < 2 ^ 64) : (store.insert event).2.WellIndexed where
  keyed := indexed.keyed.put rfl
  assigned id other found := by
    have later := toNat_succ room
    simp only [MemoryStore.insert, FinMap.get?_put] at found ⊢
    rw [UInt64.le_iff_toNat_le, UInt64.lt_iff_toNat_lt, UInt64.toNat_one, later]
    split at found
    · next same =>
      subst same
      omega
    · have bounds := indexed.assigned id other found
      rw [UInt64.le_iff_toNat_le, UInt64.lt_iff_toNat_lt, UInt64.toNat_one] at bounds
      omega
  indexed userId := by
    -- All assigned ids are smaller than the next one, so nobody owns it yet.
    have new : ¬ store.Owns event.userId store.nextId := by
      rintro ⟨other, found, -⟩
      rw [indexed.get?_nextId] at found
      cases found
    refine (lists_addToIndex indexed.indexed new userId).congr fun id => ?_
    simp only [Owns, MemoryStore.insert, FinMap.get?_put]
    by_cases same : id = store.nextId
    · subst same
      simp [indexed.get?_nextId, eq_comm]
    · simp [same]

theorem WellIndexed.update (indexed : store.WellIndexed) {event old : Event}
    (found : store.records.get? event.id = some old) : (store.update event old).WellIndexed where
  keyed := indexed.keyed.put rfl
  assigned id other isThere := by
    rcases FinMap.get?_put_eq_some_iff.mp isThere with ⟨rfl, -⟩ | ⟨-, isOld⟩
    · exact indexed.assigned event.id old found
    · exact indexed.assigned id other isOld
  indexed userId := by
    simp only [MemoryStore.update]
    -- An event that stays with its user keeps its place in the index, any other moves.
    split
    · next sameUser =>
      refine (indexed.indexed userId).congr fun id => ?_
      simp only [Owns, FinMap.get?_put]
      by_cases same : id = event.id
      · subst same
        simp [found, sameUser]
      · simp [same]
    · next otherUser =>
      have removed := lists_removeFromIndex indexed.indexed old.userId event.id
      have new : ¬ (store.Owns event.userId event.id ∧ ¬ (event.userId = old.userId ∧ event.id = event.id)) := by
        rintro ⟨⟨other, isThere, ofUser⟩, -⟩
        rw [found] at isThere
        cases isThere
        exact otherUser ofUser
      refine (lists_addToIndex removed new userId).congr fun id => ?_
      simp only [Owns, FinMap.get?_put]
      by_cases same : id = event.id
      · subst same
        simp only [found, Option.some.injEq, if_true, and_true]
        grind
      · simp [same]

theorem WellIndexed.remove (indexed : store.WellIndexed) (id : EventId) : (store.remove id).WellIndexed := by
  cases found : store.records.get? id with
  | none => simpa [MemoryStore.remove, found] using indexed
  | some event =>
      simp only [MemoryStore.remove, found]
      refine ⟨indexed.keyed.erase id, ?_, ?_⟩
      · intro other record isThere
        rw [FinMap.get?_erase] at isThere
        split at isThere
        · cases isThere
        · exact indexed.assigned other record isThere
      · intro userId
        refine (lists_removeFromIndex indexed.indexed event.userId id userId).congr fun other => ?_
        simp only [Owns, FinMap.get?_erase]
        by_cases same : other = id
        · subst same
          simp [found, eq_comm]
        · simp [same]

theorem WellIndexed.mark (indexed : store.WellIndexed) {id : EventId} {event : Event}
    (found : store.records.get? id = some event) :
    { store with records := store.records.put id { event with notified := true } }.WellIndexed where
  keyed := by
    have own := indexed.id_eq found
    exact indexed.keyed.put own
  assigned other record isThere := by
    rcases FinMap.get?_put_eq_some_iff.mp isThere with ⟨rfl, -⟩ | ⟨-, isOld⟩
    · exact indexed.assigned other event found
    · exact indexed.assigned other record isOld
  indexed userId := by
    refine (indexed.indexed userId).congr fun other => ?_
    simp only [Owns, FinMap.get?_put]
    by_cases same : other = id
    · subst same
      simp [found]
    · simp [same]

theorem WellIndexed.foldl_remove (indexed : store.WellIndexed) (ids : List EventId) :
    (ids.foldl MemoryStore.remove store).WellIndexed := by
  induction ids generalizing store with
  | nil => exact indexed
  | cons id rest ih => exact ih (indexed.remove id)

theorem WellIndexed.answer (indexed : store.WellIndexed) (request : Request)
    (room : request.isInsert = true → 1 ≤ store.nextId.toNat ∧ store.nextId.toNat + 1 < 2 ^ 64) :
    (store.answer request).2.WellIndexed := by
  cases request with
  | insert event => exact indexed.insert event (room rfl).1 (room rfl).2
  | update event =>
      simp only [MemoryStore.answer]
      split
      · exact indexed
      · next old found => exact indexed.update found
  | delete id => exact indexed.remove id
  | purge cutoff => exact indexed.foldl_remove _
  | markNotified id =>
      simp only [MemoryStore.answer]
      split
      · exact indexed
      · next event found => exact indexed.mark found
  | lookup id | checkFree except userId first last =>
      simp only [MemoryStore.answer]
      split <;> exact indexed
  | list userId | listRange userId first last | listDue cutoff => exact indexed

theorem WellIndexed.map_change (indexed : store.WellIndexed) {id : EventId} {old : Event}
    (found : store.records.get? id = some old) (apply : Event → Event) :
    (store.records.put id (apply old)).values =
      store.records.values.map fun event => if event.id = id then apply event else event := by
  rw [indexed.keyed.values_put found]
  apply List.map_congr_left
  intro event member
  split
  · next same =>
    rw [indexed.keyed.get?_eq_some_iff.mpr ⟨member, same⟩] at found
    cases found
    rfl
  · rfl

theorem WellIndexed.ledger_remove (indexed : store.WellIndexed) (id : EventId) :
    (store.remove id).ledger = store.ledger.keep fun event => event.id ≠ id := by
  cases found : store.records.get? id with
  | none =>
      -- No record has the id, so nothing is filtered out.
      have others (event : Event) (member : event ∈ store.records.values) : event.id ≠ id := by
        intro same
        rw [indexed.keyed.get?_eq_some_iff.mpr ⟨member, same⟩] at found
        cases found
      simp only [MemoryStore.remove, found, ledger, Ledger.keep, Ledger.mk.injEq, and_true]
      exact (List.filter_eq_self.mpr fun event member => by simpa using others event member).symm
  | some event => simp [MemoryStore.remove, found, ledger, Ledger.keep, indexed.keyed.values_erase]

theorem WellIndexed.ledger_foldl_remove (indexed : store.WellIndexed) (ids : List EventId) :
    (ids.foldl MemoryStore.remove store).ledger = store.ledger.keep fun event => event.id ∉ ids := by
  induction ids generalizing store with
  | nil => simp [Ledger.keep, ledger]
  | cons id rest ih =>
      rw [List.foldl_cons, ih (indexed.remove id), indexed.ledger_remove]
      simp [Ledger.keep, Bool.and_comm]

theorem WellIndexed.mem_stale_iff (indexed : store.WellIndexed) {cutoff : Instant} {event : Event}
    (member : event ∈ store.records.values) : event.id ∈ store.stale cutoff ↔ event.offTime < cutoff := by
  simp only [stale, List.mem_map, List.mem_filter, decide_eq_true_eq]
  constructor
  · rintro ⟨other, ⟨otherMember, early⟩, same⟩
    rwa [← Event.eq_of_id_eq indexed.keyed.nodup otherMember member same]
  · intro early
    exact ⟨event, ⟨member, early⟩, rfl⟩

theorem WellIndexed.answer_ledger (indexed : store.WellIndexed) (request : Request) :
    store.ledger.answer id request = ((store.answer request).1, (store.answer request).2.ledger) := by
  cases request with
  | insert event =>
      simp only [Ledger.answer, MemoryStore.answer, ledger_insert indexed, Event.stored, Option.map_id]
      rfl
  | update event =>
      have looked := indexed.lookup event.id
      cases found : store.records.get? event.id with
      | none => simp only [Ledger.answer, MemoryStore.answer, ← looked, found]
      | some old =>
          have changed := indexed.map_change found fun old => event.stored id old.id old.notified
          simp only [Event.stored, indexed.id_eq found, Option.map_id, id] at changed
          simp only [Ledger.answer, MemoryStore.answer, ← looked, found]
          simp only [MemoryStore.update, ledger, Ledger.change, Event.stored, Option.map_id, id, changed]
  | delete id => simp only [Ledger.answer, MemoryStore.answer, indexed.ledger_remove]
  | lookup id =>
      have looked := indexed.lookup id
      cases found : store.records.get? id <;>
        simp only [Ledger.answer, MemoryStore.answer, ← looked, found]
  | list userId =>
      have same := indexed.sort_eventsOf userId fun _ => true
      simp only [List.filter_true, Bool.and_true] at same
      simp only [Ledger.answer, MemoryStore.answer, same]
      rfl
  | listRange userId first last =>
      simp only [Ledger.answer, MemoryStore.answer, indexed.sort_eventsOf]
      rfl
  | checkFree except userId first last =>
      have busy : (store.eventsOf userId).any (fun event => event.id ≠ except && event.overlaps first last) =
          store.ledger.isBusy except userId first last := by
        rw [(indexed.eventsOf_perm userId).any_eq, List.any_filter]
        rfl
      simp only [Ledger.answer, MemoryStore.answer, busy, id]
      split <;> rfl
  | listDue cutoff => rfl
  | purge cutoff =>
      simp only [Ledger.answer, MemoryStore.answer, indexed.ledger_foldl_remove]
      -- The store counts the stale ids before it removes them, the list counts stale events.
      refine Prod.ext ?_ ?_
      · simp [stale, ledger, List.countP_eq_length_filter]
      · simp only [Ledger.keep, ledger, Ledger.mk.injEq, and_true, id]
        apply List.filter_congr
        intro event member
        simp [indexed.mem_stale_iff member]
  | markNotified id =>
      have looked := indexed.lookup id
      cases found : store.records.get? id with
      | none => simp only [Ledger.answer, MemoryStore.answer, ← looked, found]
      | some event =>
          have changed := indexed.map_change found fun old => { old with notified := true }
          simp only [Ledger.answer, MemoryStore.answer, ← looked, found]
          simp only [ledger, Ledger.change, changed]

theorem WellIndexed.nextId_answer (indexed : store.WellIndexed) (request : Request) :
    (store.answer request).2.nextId = if request.isInsert then store.nextId + 1 else store.nextId := by
  have next : (store.ledger.answer id request).2.nextId = _ := store.ledger.nextId_answer request
  rw [indexed.answer_ledger] at next
  exact next

end Requests

end Datebook.MemoryStore
