import Datebook.Store

set_option autoImplicit false

namespace Datebook

open Store (Request)

/-- A stretch of a user's time. The event `except` does not stand in its way. -/
structure Slot where
  except : EventId
  userId : UserId
  first : Instant
  last : Instant

@[reducible] def Slot.check (slot : Slot) : Request :=
  .checkFree slot.except slot.userId slot.first slot.last

namespace Store.Request

def isReading : Request → Bool
  | lookup _ | list _ | listRange _ _ _ | checkFree _ _ _ _ | listDue _ => true
  | insert _ | update _ | delete _ | purge _ | markNotified _ => false

def slot? : Request → Option Slot
  | insert event => some ⟨0, event.userId, event.onTime, event.offTime⟩
  | update event => some ⟨event.id, event.userId, event.onTime, event.offTime⟩
  | _ => none

def checked? : Request → Option Slot
  | checkFree except userId first last => some ⟨except, userId, first, last⟩
  | _ => none

theorem eq_check {request : Request} {slot : Slot} (checks : request.checked? = some slot) :
    request = slot.check := by
  cases request <;> cases checks
  rfl

end Store.Request

namespace MemoryStore

variable {store : MemoryStore}

-- Every event of a user was there before, whether or not it was notified then.
def Thinned (before after : MemoryStore) : Prop :=
  ∀ userId, ∀ event ∈ after.eventsOf userId, ∃ notified, { event with notified } ∈ before.eventsOf userId

theorem mem_eventsOf {userId : UserId} {event : Event} :
    event ∈ store.eventsOf userId ↔ ∃ id ∈ store.idsOf userId, store.records.get? id = some event :=
  List.mem_filterMap

theorem mem_of_mem_removeFromIndex {index : FinMap UserId (List EventId)} {userId other : UserId}
    {id member : EventId} (left : member ∈ ((removeFromIndex index userId id).get? other).getD []) :
    member ∈ (index.get? other).getD [] := by
  unfold removeFromIndex at left
  split at left
  · exact left
  -- Only the entry of the one user changes: the id goes from it, or the entry with its last id.
  · next ids found =>
    by_cases same : other = userId
    · subst same
      split at left
      · simp [FinMap.get?_erase] at left
      · rw [FinMap.get?_put_self] at left
        rw [found]
        exact List.mem_of_mem_erase ((swapRemove_perm ids id).mem_iff.mp left)
    · split at left
      · simpa [FinMap.get?_erase, same] using left
      · simpa [FinMap.get?_put, same] using left

theorem thinned_remove (store : MemoryStore) (id : EventId) : store.Thinned (store.remove id) := by
  intro userId event member
  refine ⟨event.notified, ?_⟩
  unfold remove at member
  split at member
  · exact member
  · next old found =>
    obtain ⟨key, listed, isThere⟩ := mem_eventsOf.mp member
    rw [FinMap.get?_erase] at isThere
    split at isThere
    · cases isThere
    · exact mem_eventsOf.mpr ⟨key, mem_of_mem_removeFromIndex listed, isThere⟩

theorem thinned_foldl_remove (store : MemoryStore) (ids : List EventId) :
    store.Thinned (ids.foldl remove store) := by
  induction ids generalizing store with
  | nil => exact fun userId event member => ⟨event.notified, member⟩
  | cons id rest ih =>
      -- The flag is all that may differ, so the two steps compose whatever it was in between.
      intro userId event member
      obtain ⟨_, middle⟩ := ih (store.remove id) userId event member
      obtain ⟨_, first⟩ := store.thinned_remove id userId _ middle
      exact ⟨_, first⟩

theorem thinned_mark {id : EventId} {old : Event} (found : store.records.get? id = some old) :
    store.Thinned { store with records := store.records.put id { old with notified := true } } := by
  intro userId event member
  obtain ⟨key, listed, isThere⟩ := mem_eventsOf.mp member
  rcases FinMap.get?_put_eq_some_iff.mp isThere with ⟨rfl, rfl⟩ | ⟨-, isOld⟩
  · exact ⟨old.notified, mem_eventsOf.mpr ⟨key, listed, found⟩⟩
  · exact ⟨event.notified, mem_eventsOf.mpr ⟨key, listed, isOld⟩⟩

theorem thinned_answer {request : Request} (takesNone : request.slot? = none) :
    store.Thinned (store.answer request).2 := by
  have same : store.Thinned store := fun userId event member => ⟨event.notified, member⟩
  cases request with
  | insert event | update event => cases takesNone
  | delete id => exact store.thinned_remove id
  | purge cutoff => exact store.thinned_foldl_remove _
  | markNotified id =>
      simp only [answer]
      split
      · exact same
      · next old found => exact thinned_mark found
  | lookup id | checkFree except userId first last =>
      simp only [answer]
      split <;> exact same
  | list userId | listRange userId first last | listDue cutoff => exact same

theorem eq_of_reading {request : Request} (reads : request.isReading = true) :
    (store.answer request).2 = store := by
  cases request with
  | lookup | checkFree =>
      simp only [answer]
      split <;> rfl
  | list | listRange | listDue => rfl
  | insert | update | delete | purge | markNotified => cases reads

theorem eq_of_answer_error {request : Request} {error : StoreError} (failed : (store.answer request).1 = .error error) :
    (store.answer request).2 = store := by
  cases request with
  | update | markNotified =>
      simp only [answer] at failed ⊢
      split at failed
      · next missing => simp
      · cases failed
  | insert | delete | purge => cases failed
  | lookup | list | listRange | checkFree | listDue => exact eq_of_reading rfl

theorem answer_check (store : MemoryStore) (slot : Slot) : (store.answer slot.check).2 = store :=
  eq_of_reading rfl

theorem free_answer {slot : Slot} (free : (store.answer slot.check).1 = .ok ()) {request : Request}
    (takesNone : request.slot? = none) : ((store.answer request).2.answer slot.check).1 = .ok () := by
  -- An event that were in the way afterwards would have been in the way before.
  have thinned := store.thinned_answer takesNone
  generalize (store.answer request).2 = after at thinned
  simp only [answer] at free ⊢
  split at free
  · cases free
  · next nothing =>
    rw [if_neg]
    intro something
    obtain ⟨event, member, blocks⟩ := List.any_eq_true.mp something
    obtain ⟨_, before⟩ := thinned slot.userId event member
    exact nothing (List.any_eq_true.mpr ⟨_, before, blocks⟩)

end MemoryStore

namespace Table

variable {table : Table}

theorem eq_of_reading {request : Request} (reads : request.isReading = true) :
    (table.answer request).2 = table := by
  cases request with
  | lookup | checkFree =>
      simp only [answer]
      split <;> rfl
  | list | listRange | listDue => rfl
  | insert | update | delete | purge | markNotified => cases reads

theorem answer_check (table : Table) (slot : Slot) : (table.answer slot.check).2 = table :=
  eq_of_reading rfl

theorem free_answer {slot : Slot} (free : (table.answer slot.check).1 = .ok ()) {request : Request}
    (takesNone : request.slot? = none) : ((table.answer request).2.answer slot.check).1 = .ok () := by
  -- Rows only go, or are marked, and a mark changes nothing that a check looks at.
  have rows : ∀ row ∈ (table.answer request).2.rows, ∃ notified, { row with notified } ∈ table.rows := by
    have same : ∀ row ∈ table.rows, ∃ notified, { row with notified } ∈ table.rows :=
      fun row member => ⟨row.notified, member⟩
    cases request with
    | insert event | update event => cases takesNone
    | delete id | purge cutoff => exact fun row member => same row (List.mem_filter.mp member).1
    | markNotified id =>
        simp only [answer]
        split
        · exact same
        · intro row member
          obtain ⟨old, isThere, rfl⟩ := List.mem_map.mp member
          refine ⟨old.notified, ?_⟩
          split <;> exact isThere
    | lookup id | checkFree except userId first last =>
        simp only [answer]
        split <;> exact same
    | list userId | listRange userId first last | listDue cutoff => exact same
  generalize (table.answer request).2 = after at rows
  simp only [answer] at free ⊢
  split at free
  · cases free
  · next nothing =>
    rw [if_neg]
    intro something
    obtain ⟨row, member, blocks⟩ := List.any_eq_true.mp something
    obtain ⟨_, before⟩ := rows row member
    exact nothing (List.any_eq_true.mpr ⟨_, before, blocks⟩)

end Table

namespace Store

-- Whether a check of the slot succeeds, whoever has the connection.
def IsFree (store : Store) (slot : Slot) : Prop :=
  match store with
  | memory inner => (inner.answer slot.check).1 = .ok ()
  | database inner => (inner.table.answer slot.check).1 = .ok ()

def after (store : Store) (request : Request) : Store :=
  match store with
  | memory inner => memory (inner.answer request).2
  | database inner => database { inner with table := (inner.table.answer request).2 }

theorem after_of_reading {request : Request} (reads : request.isReading = true) (store : Store) :
    store.after request = store := by
  cases store with
  | memory inner => rw [after, MemoryStore.eq_of_reading reads]
  | database inner => rw [after, Table.eq_of_reading reads]

theorem IsFree.after {store : Store} {slot : Slot} (free : store.IsFree slot) {request : Request}
    (takesNone : request.slot? = none) : (store.after request).IsFree slot := by
  cases store with
  | memory inner => exact inner.free_answer free takesNone
  | database inner => exact inner.table.free_answer free takesNone

end Store
end Datebook
