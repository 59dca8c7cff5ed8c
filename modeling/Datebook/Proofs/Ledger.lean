import Datebook.Proofs.Order

/-!
A store reduced to the plain list of its events, in which every request is answered by going through
the whole list. Instants are rounded on their way in, as a store may not keep all of them exactly.
Main statements: answers do not depend on the order of the events, and a ledger in which no two
events of a user overlap keeps to that if each write finds its time free.
-/

set_option autoImplicit false

namespace Datebook

open Store

namespace Store.Request

def isInsert : Request → Bool
  | insert _ => true
  | _ => false

def instants : Request → List Instant
  | insert event | update event => event.onTime :: event.offTime :: event.notifyTime.toList
  | listRange _ first last | checkFree _ _ first last => [first, last]
  | listDue cutoff | purge cutoff => [cutoff]
  | delete _ | lookup _ | list _ | markNotified _ => []

end Store.Request

-- What becomes of the event in a store that gives it an id and rounds its instants.
def Event.stored (event : Event) (round : Instant → Instant) (id : EventId) (notified : Bool) : Event :=
  { event with
    id
    onTime := round event.onTime
    offTime := round event.offTime
    notifyTime := event.notifyTime.map round
    notified }

structure Ledger where
  events : List Event
  nextId : EventId

namespace Ledger

variable {round : Instant → Instant}

def find? (ledger : Ledger) (id : EventId) : Option Event :=
  ledger.events.find? fun event => event.id = id

def change (ledger : Ledger) (id : EventId) (apply : Event → Event) : Ledger :=
  { ledger with events := ledger.events.map fun event => if event.id = id then apply event else event }

def keep (ledger : Ledger) (condition : Event → Bool) : Ledger :=
  { ledger with events := ledger.events.filter condition }

def isBusy (ledger : Ledger) (except : EventId) (userId : UserId) (first last : Instant) : Bool :=
  ledger.events.any fun event => event.userId = userId && (event.id ≠ except && event.overlaps first last)

def answer (round : Instant → Instant) (ledger : Ledger) : (request : Request) → request.Result × Ledger
  | .insert event =>
      (.ok ledger.nextId,
        ⟨ledger.events ++ [event.stored round ledger.nextId false], ledger.nextId + 1⟩)
  | .update event =>
      match ledger.find? event.id with
      | none => (.error (.eventNotFound event.id), ledger)
      | some _ => (.ok (), ledger.change event.id fun old => event.stored round old.id old.notified)
  | .delete id => (.ok (), ledger.keep fun event => event.id ≠ id)
  | .lookup id =>
      match ledger.find? id with
      | none => (.error (.eventNotFound id), ledger)
      | some event => (.ok event, ledger)
  | .list userId => (.ok (Event.sort (ledger.events.filter fun event => event.userId = userId)), ledger)
  | .listRange userId first last =>
      (.ok (Event.sort (ledger.events.filter fun event =>
        event.userId = userId && event.overlaps (round first) (round last))), ledger)
  | .checkFree except userId first last =>
      if ledger.isBusy except userId (round first) (round last) then (.error .dateBusy, ledger)
      else (.ok (), ledger)
  | .listDue cutoff =>
      (.ok (Event.sort (ledger.events.filter fun event => event.isDue (round cutoff))), ledger)
  | .purge cutoff =>
      let isStale (event : Event) : Bool := decide (event.offTime < round cutoff)
      (.ok (ledger.events.countP isStale), ledger.keep fun event => ! isStale event)
  | .markNotified id =>
      match ledger.find? id with
      | none => (.error (.eventNotFound id), ledger)
      | some _ => (.ok (), ledger.change id fun old => { old with notified := true })

structure Sound (ledger : Ledger) : Prop where
  distinct : (ledger.events.map Event.id).Nodup
  assigned : ∀ event ∈ ledger.events, 1 ≤ event.id.toNat ∧ event.id.toNat < ledger.nextId.toNat

theorem Sound.find?_eq_some_iff {ledger : Ledger} (sound : ledger.Sound) {id : EventId} {event : Event} :
    ledger.find? id = some event ↔ event ∈ ledger.events ∧ event.id = id := by
  constructor
  · intro found
    exact ⟨List.mem_of_find?_eq_some found, by simpa using List.find?_some found⟩
  · rintro ⟨member, same⟩
    cases found : ledger.find? id with
    | none =>
        have := List.find?_eq_none.mp found event member
        simp [same] at this
    | some other =>
        have otherMember := List.mem_of_find?_eq_some found
        have otherId : other.id = id := by simpa using List.find?_some found
        rw [Event.eq_of_id_eq sound.distinct otherMember member (otherId.trans same.symm)]

section Order

variable {left right : Ledger}

theorem find?_eq_of_perm (leftSound : left.Sound) (rightSound : right.Sound)
    (same : left.events.Perm right.events) (id : EventId) : left.find? id = right.find? id := by
  apply Option.ext
  intro event
  rw [leftSound.find?_eq_some_iff, rightSound.find?_eq_some_iff, same.mem_iff]

theorem sort_filter_eq_of_perm (sound : left.Sound) (same : left.events.Perm right.events)
    (condition : Event → Bool) :
    Event.sort (left.events.filter condition) = Event.sort (right.events.filter condition) :=
  Event.sort_eq_of_perm (same.filter condition)
    (sound.distinct.sublist (List.filter_sublist.map Event.id))

theorem Sound.of_perm (sound : left.Sound) (same : left.events.Perm right.events)
    (next : left.nextId = right.nextId) : right.Sound where
  distinct := (same.map Event.id).nodup_iff.mp sound.distinct
  assigned event member := next ▸ sound.assigned event (same.mem_iff.mpr member)

theorem nextId_answer (ledger : Ledger) (request : Request) :
    (ledger.answer round request).2.nextId =
      if request.isInsert then ledger.nextId + 1 else ledger.nextId := by
  cases request <;> simp only [answer, Request.isInsert, if_true, Bool.false_eq_true, if_false] <;>
    first
    | rfl
    | split <;> rfl

theorem answer_of_perm (round : Instant → Instant) (sound : left.Sound) (same : left.events.Perm right.events)
    (next : left.nextId = right.nextId) (request : Request) :
    (left.answer round request).1 = (right.answer round request).1 ∧
      (left.answer round request).2.events.Perm (right.answer round request).2.events ∧
      (left.answer round request).2.nextId = (right.answer round request).2.nextId := by
  have found := find?_eq_of_perm sound (sound.of_perm same next) same
  -- Listings are sorted, look-ups go by distinct ids, and the rest only asks whether and how many.
  cases request with
  | insert event =>
      simp only [answer, next]
      exact ⟨trivial, same.append_right _, trivial⟩
  | update event =>
      simp only [answer, found]
      split
      · exact ⟨rfl, same, next⟩
      · exact ⟨rfl, same.map _, next⟩
  | delete id => exact ⟨rfl, same.filter _, next⟩
  | lookup id =>
      simp only [answer, found]
      split <;> exact ⟨rfl, same, next⟩
  | list userId => exact ⟨congrArg Except.ok (sort_filter_eq_of_perm sound same _), same, next⟩
  | listRange userId first last => exact ⟨congrArg Except.ok (sort_filter_eq_of_perm sound same _), same, next⟩
  | checkFree except userId first last =>
      have busy (first last : Instant) :
          left.isBusy except userId first last = right.isBusy except userId first last := same.any_eq
      simp only [answer, busy]
      split <;> exact ⟨rfl, same, next⟩
  | listDue cutoff => exact ⟨congrArg Except.ok (sort_filter_eq_of_perm sound same _), same, next⟩
  | purge cutoff => exact ⟨congrArg Except.ok (same.countP_eq _), same.filter _, next⟩
  | markNotified id =>
      simp only [answer, found]
      split
      · exact ⟨rfl, same, next⟩
      · exact ⟨rfl, same.map _, next⟩

end Order

inductive Origin (round : Instant → Instant) (ledger : Ledger) : Request → Event → Prop where
  | kept {request : Request} {event : Event} (member : event ∈ ledger.events) : Origin round ledger request event
  | inserted (event : Event) : Origin round ledger (.insert event) (event.stored round ledger.nextId false)
  | updated {event old : Event} (member : old ∈ ledger.events) (same : old.id = event.id) :
      Origin round ledger (.update event) (event.stored round old.id old.notified)
  | marked {old : Event} (member : old ∈ ledger.events) :
      Origin round ledger (.markNotified old.id) { old with notified := true }

theorem origin_of_mem_answer {ledger : Ledger} {request : Request} {event : Event}
    (member : event ∈ (ledger.answer round request).2.events) : ledger.Origin round request event := by
  cases request with
  | insert new =>
      rcases List.mem_append.mp member with old | added
      · exact .kept old
      · rw [List.mem_singleton.mp added]
        exact .inserted new
  | update new =>
      simp only [answer] at member
      split at member
      · exact .kept member
      · obtain ⟨old, inEvents, rfl⟩ := List.mem_map.mp member
        split
        · next same => exact .updated inEvents same
        · exact .kept inEvents
  | markNotified id =>
      simp only [answer] at member
      split at member
      · exact .kept member
      · obtain ⟨old, inEvents, rfl⟩ := List.mem_map.mp member
        split
        · next same =>
          subst same
          exact .marked inEvents
        · exact .kept inEvents
  | delete id | purge cutoff => exact .kept (List.mem_of_mem_filter member)
  | lookup id | checkFree except userId first last =>
      simp only [answer] at member
      split at member <;> exact .kept member
  | list userId | listRange userId first last | listDue cutoff => exact .kept member

theorem answer_of_fixed (ledger : Ledger) {request : Request}
    (fixed : ∀ time ∈ request.instants, round time = time) :
    ledger.answer round request = ledger.answer id request := by
  have stored (event : Event) (kept : ∀ time ∈ (Request.insert event).instants, round time = time)
      (id : EventId) (notified : Bool) :
      event.stored round id notified = event.stored (fun time => time) id notified := by
    simp only [Request.instants, List.mem_cons, Option.mem_toList, forall_eq_or_imp] at kept
    have notify : event.notifyTime.map round = event.notifyTime := by
      cases due : event.notifyTime with
      | none => rfl
      | some time => simp [kept.2.2 time due]
    simp [Event.stored, kept.1, kept.2.1, notify]
  cases request with
  | insert event | update event =>
      have same := stored event fixed
      simp only [answer, same]
      rfl
  | listRange userId first last | checkFree except userId first last =>
      simp [answer, fixed first (by simp [Request.instants]), fixed last (by simp [Request.instants])]
  | listDue cutoff | purge cutoff => simp [answer, fixed cutoff (by simp [Request.instants])]
  | delete id | lookup id | list userId | markNotified id => rfl

end Ledger
end Datebook
