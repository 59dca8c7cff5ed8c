import Datebook.Proofs.MemoryIndex
import Datebook.Proofs.Slots
import Datebook.Proofs.TableLedger

set_option autoImplicit false

namespace Datebook

open Store (Request)

theorem Event.overlaps_comm (left right : Event) :
    left.overlaps right.onTime right.offTime = right.overlaps left.onTime left.offTime :=
  Bool.and_comm ..

namespace Ledger

variable {ledger : Ledger} {round : Instant → Instant}

def ConflictFree (ledger : Ledger) : Prop :=
  ∀ left ∈ ledger.events, ∀ right ∈ ledger.events, left.userId = right.userId → left.id ≠ right.id →
    left.overlaps right.onTime right.offTime = false

def IsFree (ledger : Ledger) (round : Instant → Instant) (slot : Slot) : Prop :=
  ledger.isBusy slot.except slot.userId (round slot.first) (round slot.last) = false

theorem isFree_iff {slot : Slot} : ledger.IsFree round slot ↔ (ledger.answer round slot.check).1 = .ok () := by
  simp only [IsFree, answer]
  cases ledger.isBusy slot.except slot.userId (round slot.first) (round slot.last) <;> simp

theorem IsFree.apart {slot : Slot} (free : ledger.IsFree round slot) {event : Event}
    (member : event ∈ ledger.events) (sameUser : event.userId = slot.userId) (other : event.id ≠ slot.except) :
    event.overlaps (round slot.first) (round slot.last) = false := by
  have inTheWay := List.any_eq_false.mp free event member
  simpa [sameUser, other] using inTheWay

theorem ConflictFree.insert (conflictFree : ledger.ConflictFree) (sound : ledger.Sound) {event : Event}
    (free : ledger.IsFree round ⟨0, event.userId, event.onTime, event.offTime⟩) :
    (ledger.answer round (.insert event)).2.ConflictFree := by
  -- No event has the id 0, which the check leaves out.
  have apart (old : Event) (member : old ∈ ledger.events) (sameUser : old.userId = event.userId) :
      old.overlaps (round event.onTime) (round event.offTime) = false := by
    apply free.apart member sameUser
    intro zero
    have assigned := (sound.assigned old member).1
    simp [zero] at assigned
  intro left isLeft right isRight sameUser differs
  rcases List.mem_append.mp isLeft with oldLeft | newLeft <;>
    rcases List.mem_append.mp isRight with oldRight | newRight
  · exact conflictFree left oldLeft right oldRight sameUser differs
  · obtain rfl := List.mem_singleton.mp newRight
    exact apart left oldLeft sameUser
  · obtain rfl := List.mem_singleton.mp newLeft
    rw [Event.overlaps_comm]
    exact apart right oldRight sameUser.symm
  · obtain rfl := List.mem_singleton.mp newLeft
    obtain rfl := List.mem_singleton.mp newRight
    exact absurd rfl differs

theorem ConflictFree.update (conflictFree : ledger.ConflictFree) {event : Event}
    (free : ledger.IsFree round ⟨event.id, event.userId, event.onTime, event.offTime⟩) :
    (ledger.answer round (.update event)).2.ConflictFree := by
  simp only [answer]
  split
  · exact conflictFree
  · intro left isLeft right isRight sameUser differs
    obtain ⟨oldLeft, inLeft, rfl⟩ := List.mem_map.mp isLeft
    obtain ⟨oldRight, inRight, rfl⟩ := List.mem_map.mp isRight
    -- At most one of the two is the event that was changed, and that one fits its new slot.
    by_cases changedLeft : oldLeft.id = event.id <;> by_cases changedRight : oldRight.id = event.id
    · simp [changedLeft, changedRight, Event.stored] at differs
    · simp only [changedLeft, changedRight, if_true, if_false] at sameUser ⊢
      rw [Event.overlaps_comm]
      exact free.apart inRight sameUser.symm changedRight
    · simp only [changedLeft, changedRight, if_true, if_false] at sameUser ⊢
      exact free.apart inLeft sameUser changedLeft
    · simp only [changedLeft, changedRight, if_false] at sameUser differs ⊢
      exact conflictFree oldLeft inLeft oldRight inRight sameUser differs

theorem ConflictFree.keep (conflictFree : ledger.ConflictFree) (condition : Event → Bool) :
    (ledger.keep condition).ConflictFree :=
  fun left isLeft right isRight =>
    conflictFree left (List.mem_filter.mp isLeft).1 right (List.mem_filter.mp isRight).1

theorem ConflictFree.mark (conflictFree : ledger.ConflictFree) (id : EventId) :
    (ledger.change id fun old => { old with notified := true }).ConflictFree := by
  have marked (old : Event) :
      ∃ notified, (if old.id = id then { old with notified := true } else old) = { old with notified } := by
    split
    · exact ⟨true, rfl⟩
    · exact ⟨old.notified, rfl⟩
  intro left isLeft right isRight sameUser differs
  obtain ⟨oldLeft, inLeft, rfl⟩ := List.mem_map.mp isLeft
  obtain ⟨oldRight, inRight, rfl⟩ := List.mem_map.mp isRight
  obtain ⟨_, left⟩ := marked oldLeft
  obtain ⟨_, right⟩ := marked oldRight
  rw [left, right] at sameUser differs ⊢
  exact conflictFree oldLeft inLeft oldRight inRight sameUser differs

theorem ConflictFree.answer (conflictFree : ledger.ConflictFree) (sound : ledger.Sound) {request : Request}
    (free : ∀ slot, request.slot? = some slot → ledger.IsFree round slot) :
    (ledger.answer round request).2.ConflictFree := by
  cases request with
  | insert event => exact conflictFree.insert sound (free _ rfl)
  | update event => exact conflictFree.update (free _ rfl)
  | delete id | purge cutoff => exact conflictFree.keep _
  | markNotified id =>
      simp only [Ledger.answer]
      split
      · exact conflictFree
      · exact conflictFree.mark id
  | lookup id | checkFree except userId first last =>
      simp only [Ledger.answer]
      split <;> exact conflictFree
  | list userId | listRange userId first last | listDue cutoff => exact conflictFree

theorem ConflictFree.apart (conflictFree : ledger.ConflictFree) (sound : ledger.Sound) {left right : Event}
    (isLeft : left ∈ ledger.events) (isRight : right ∈ ledger.events) (differs : left ≠ right)
    (sameUser : left.userId = right.userId) : left.overlaps right.onTime right.offTime = false := by
  apply conflictFree left isLeft right isRight sameUser
  intro sameId
  exact differs (Event.eq_of_id_eq sound.distinct isLeft isRight sameId)

end Ledger

def Store.Request.events : (request : Request) → request.Answer → List Event
  | lookup _, event => [event]
  | list _, events | listRange _ _ _, events | listDue _, events => events
  | insert _, _ | update _, _ | delete _, _ | checkFree _ _ _ _, _ | purge _, _ | markNotified _, _ => []

theorem Ledger.mem_of_mem_answer {ledger : Ledger} {round : Instant → Instant} {request : Request}
    {answer : request.Answer} (answered : (ledger.answer round request).1 = .ok answer) {event : Event}
    (shown : event ∈ request.events answer) : event ∈ ledger.events := by
  cases request with
  | insert _ | update _ | delete _ | checkFree _ _ _ _ | purge _ | markNotified _ => cases shown
  | lookup id =>
      simp only [Ledger.answer] at answered
      split at answered
      · cases answered
      · next found =>
        cases answered
        obtain rfl := List.mem_singleton.mp shown
        exact List.mem_of_find?_eq_some found
  | list userId | listRange userId first last | listDue cutoff =>
      cases answered
      exact (List.mem_filter.mp ((Event.sort_perm _).mem_iff.mp shown)).1

namespace Table

variable {table : Table}

theorem Sound.ledger_sound (sound : table.Sound) : table.ledger.Sound where
  distinct := by
    have injective : Function.Injective Int64.toUInt64 := fun left right same => toUInt64_eq_iff.mp same
    have ids : table.ledger.events.map Event.id = (table.rows.map Row.id).map Int64.toUInt64 := by
      simp [ledger, Row.toEvent]
    rw [ids]
    exact sound.distinct.map injective
  assigned event member := by
    obtain ⟨row, inRows, rfl⟩ := List.mem_map.mp member
    have bounds := sound.assigned row inRows
    have id := toNat_toUInt64 row.id (Int.le_of_lt bounds.1)
    have limit := Int64.toInt_lt row.id
    simp only [Row.toEvent, ledger]
    -- Past its last id the sequence turns negative, which is large again without a sign.
    by_cases room : table.lastId = Int64.maxValue
    · have next : (table.lastId + 1).toUInt64.toNat = 2 ^ 63 := by
        rw [room]
        decide
      omega
    · have succ := toInt_succ room
      have next := toNat_toUInt64 (table.lastId + 1) (by omega)
      omega

theorem Sound.answer_eq_or (sound : table.Sound) (request : Request) :
    (table.answer request).2 = table ∨
      table.ledger.answer Instant.rounded request = ((table.answer request).1, (table.answer request).2.ledger) := by
  cases storable : Database.precheck request with
  | error error =>
      left
      cases request with
      | insert event | update event =>
          cases stored : Columns.ofEvent event with
          | error error => simp only [Table.answer, stored]
          | ok columns => simp [Database.precheck, stored, Except.map] at storable
      | _ => cases storable
  | ok _ =>
      by_cases full : request.isInsert = true ∧ table.lastId = Int64.maxValue
      · left
        obtain ⟨inserts, last⟩ := full
        cases request with
        | insert event =>
            simp only [Table.answer, last, if_true]
            split <;> rfl
        | _ => cases inserts
      · right
        exact sound.answer_ledger storable fun inserts last => full ⟨inserts, last⟩

theorem Sound.isFree (sound : table.Sound) {slot : Slot} (free : (table.answer slot.check).1 = .ok ()) :
    table.ledger.IsFree Instant.rounded slot := by
  have same : table.ledger.answer Instant.rounded slot.check = _ :=
    sound.answer_ledger rfl (by simp [Request.isInsert])
  rw [Ledger.isFree_iff, same]
  exact free

end Table

theorem MemoryStore.WellIndexed.isFree {store : MemoryStore} (indexed : store.WellIndexed) {slot : Slot}
    (free : (store.answer slot.check).1 = .ok ()) : store.ledger.IsFree id slot := by
  rw [Ledger.isFree_iff, indexed.answer_ledger]
  exact free

namespace Store

variable {store : Store}

def Peaceful : Store → Prop
  | memory inner => inner.WellIndexed ∧ inner.ledger.ConflictFree
  | database inner => inner.table.Sound ∧ inner.table.ledger.ConflictFree

def HasRoom (store : Store) : Prop :=
  ∀ inner, store = memory inner → 1 ≤ inner.nextId.toNat ∧ inner.nextId.toNat + 1 < 2 ^ 64

theorem Peaceful.after (peaceful : store.Peaceful) {request : Request}
    (free : ∀ slot, request.slot? = some slot → store.IsFree slot)
    (room : request.isInsert = true → store.HasRoom) : (store.after request).Peaceful := by
  cases store with
  | memory inner =>
      obtain ⟨indexed, conflictFree⟩ := peaceful
      have kept := conflictFree.answer indexed.sound fun slot takes => indexed.isFree (free slot takes)
      rw [indexed.answer_ledger] at kept
      exact ⟨indexed.answer request fun inserts => room inserts inner rfl, kept⟩
  | database inner =>
      obtain ⟨sound, conflictFree⟩ := peaceful
      refine ⟨sound.answer request, ?_⟩
      rcases sound.answer_eq_or request with same | same
      · rw [same]
        exact conflictFree
      · have kept := conflictFree.answer sound.ledger_sound fun slot takes => sound.isFree (free slot takes)
        rw [same] at kept
        exact kept

def ledger : Store → Ledger
  | memory inner => inner.ledger
  | database inner => inner.table.ledger

def rounding : Store → Instant → Instant
  | memory _ => id
  | database _ => Instant.rounded

theorem Peaceful.sound (peaceful : store.Peaceful) : store.ledger.Sound := by
  cases store with
  | memory inner => exact peaceful.1.sound
  | database inner => exact peaceful.1.ledger_sound

theorem Peaceful.ledger_after (peaceful : store.Peaceful) (request : Request) :
    (store.after request).ledger = store.ledger ∨
      (store.after request).ledger = (store.ledger.answer store.rounding request).2 := by
  cases store with
  | memory inner => exact .inr (congrArg Prod.snd (peaceful.1.answer_ledger request)).symm
  | database inner =>
      exact (peaceful.1.answer_eq_or request).imp (congrArg Table.ledger) fun same => (congrArg Prod.snd same).symm

def Returns (store : Store) (event : Event) : Prop :=
  ∃ request answer, (store.answer request).1 = .ok answer ∧ event ∈ request.events answer

theorem Peaceful.answer_ledger (peaceful : store.Peaceful) {request : Request} {answer : request.Answer}
    (reads : request.isInsert = false) (answered : (store.answer request).1 = .ok answer) :
    (store.ledger.answer store.rounding request).1 = .ok answer := by
  cases store with
  | memory inner => exact (congrArg Prod.fst (peaceful.1.answer_ledger request)).trans answered
  | database inner =>
      simp only [Store.answer, Database.answer] at answered
      split at answered
      · cases answered
      · next storable =>
        split at answered
        · have same := peaceful.1.answer_ledger storable fun inserts => absurd (reads.symm.trans inserts) (by decide)
          exact (congrArg Prod.fst same).trans answered
        · cases answered

theorem Peaceful.mem_ledger (peaceful : store.Peaceful) {event : Event} (returns : store.Returns event) :
    event ∈ store.ledger.events := by
  obtain ⟨request, answer, answered, shown⟩ := returns
  refine Ledger.mem_of_mem_answer (peaceful.answer_ledger ?_ answered) shown
  cases request with
  | insert event => cases shown
  | _ => rfl

theorem Peaceful.due_of_listDue (peaceful : store.Peaceful) {now : Instant} {events : List Event}
    (answered : (store.answer (.listDue now)).1 = .ok events) {event : Event} (listed : event ∈ events) :
    event ∈ store.ledger.events ∧ event.isDue (store.rounding now) = true := by
  have same : (store.ledger.answer store.rounding (.listDue now)).1 = .ok events :=
    peaceful.answer_ledger rfl answered
  cases same
  exact List.mem_filter.mp ((Event.sort_perm _).mem_iff.mp listed)

-- No two events of a user that the store returns overlap, nor even touch.
def ConflictFree (store : Store) : Prop :=
  ∀ left right, store.Returns left → store.Returns right → left ≠ right → left.userId = right.userId →
    left.overlaps right.onTime right.offTime = false

theorem Peaceful.conflictFree (peaceful : store.Peaceful) : store.ConflictFree := by
  intro left right isLeft isRight differs sameUser
  have inLeft := peaceful.mem_ledger isLeft
  have inRight := peaceful.mem_ledger isRight
  have sound := peaceful.sound
  cases store with
  | memory inner => exact peaceful.2.apart sound inLeft inRight differs sameUser
  | database inner => exact peaceful.2.apart sound inLeft inRight differs sameUser

end Store
end Datebook
