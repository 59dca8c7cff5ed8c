import Datebook.Proofs.IndexedAnswers
import Datebook.Proofs.NoticeBatch
import Datebook.Proofs.Slots

set_option autoImplicit false

namespace Datebook

open Store (Request)

namespace MemoryStore

variable {store : MemoryStore}

theorem get?_remove (store : MemoryStore) (id other : EventId) :
    (store.remove id).records.get? other = if other = id then none else store.records.get? other := by
  cases found : store.records.get? id with
  | none =>
      simp only [remove, found]
      by_cases same : other = id
      · rw [if_pos same, same, found]
      · rw [if_neg same]
  | some event => simp only [remove, found, FinMap.get?_erase]

theorem get?_foldl_remove (store : MemoryStore) (ids : List EventId) (id : EventId) :
    (ids.foldl remove store).records.get? id = if id ∈ ids then none else store.records.get? id := by
  induction ids generalizing store with
  | nil => simp
  | cons first rest ih =>
      rw [List.foldl_cons, ih, get?_remove]
      by_cases same : id = first <;> simp [same]

theorem nextId_foldl_remove (store : MemoryStore) (ids : List EventId) :
    (ids.foldl remove store).nextId = store.nextId := by
  induction ids generalizing store with
  | nil => rfl
  | cons first rest ih =>
      rw [List.foldl_cons, ih, remove]
      split <;> rfl

section Keyed

-- Records stay under their own ids whether or not the ids ever run out.
variable (keyed : store.records.Keyed Event.id)
include keyed

theorem keyed_foldl_remove (ids : List EventId) : (ids.foldl remove store).records.Keyed Event.id := by
  induction ids generalizing store with
  | nil => exact keyed
  | cons id rest ih =>
      apply ih
      unfold remove
      split
      · exact keyed
      · exact keyed.erase id

theorem keyed_answer (request : Request) : (store.answer request).2.records.Keyed Event.id := by
  cases request with
  | insert event => exact keyed.put rfl
  | update event =>
      simp only [answer]
      split
      · exact keyed
      · exact keyed.put rfl
  | delete id => exact keyed_foldl_remove keyed [id]
  | purge cutoff => exact keyed_foldl_remove keyed _
  | markNotified id =>
      simp only [answer]
      split
      · exact keyed
      · next event found =>
        have own : event.id = id := (keyed.get?_eq_some_iff.mp found).2
        exact keyed.put own
  | lookup | list | listRange | checkFree | listDue => rwa [eq_of_reading rfl]

theorem mem_stale_iff {id : EventId} {event : Event} (found : store.records.get? id = some event)
    {cutoff : Instant} : id ∈ store.stale cutoff ↔ event.offTime < cutoff := by
  simp only [stale, List.mem_map, List.mem_filter, decide_eq_true_eq]
  constructor
  · rintro ⟨other, ⟨member, early⟩, own⟩
    rw [keyed.get?_eq_some_iff.mpr ⟨member, own⟩] at found
    cases found
    exact early
  · intro early
    obtain ⟨member, own⟩ := keyed.get?_eq_some_iff.mp found
    exact ⟨event, ⟨member, early⟩, own⟩

end Keyed

theorem keyed_after (requests : List Request) : (after requests).records.Keyed Event.id :=
  Store.replies_keep (fun _ (store : MemoryStore) => store.records.Keyed Event.id)
    (fun request _ _ keyed => keyed_answer keyed request) wellIndexed_empty.keyed

structure DueAt (store : MemoryStore) (now : Instant) (due : List Event) : Prop where
  mem_iff : ∀ event, event ∈ due ↔ event ∈ store.records.values ∧ event.notified = false ∧
    ∃ time, event.notifyTime = some time ∧ time ≤ now
  ordered : due.Pairwise Event.Precedes

theorem dueAt_listDue (keyed : store.records.Keyed Event.id) (now : Instant) :
    ∃ due, store.answer (.listDue now) = (.ok due, store) ∧ store.DueAt now due := by
  refine ⟨_, rfl, fun event => ?_, ?_⟩
  · rw [(Event.sort_perm _).mem_iff, List.mem_filter]
    simp only [Event.isDue, Bool.and_eq_true, Bool.not_eq_true', Option.any_eq_true, decide_eq_true_eq]
  · exact Event.pairwise_precedes_sort (keyed.nodup.sublist (List.filter_sublist.map Event.id))

structure Purged (before : MemoryStore) (cutoff : Instant) (deleted : Nat) (after : MemoryStore) : Prop where
  kept : ∀ id event, after.records.get? id = some event ↔
    before.records.get? id = some event ∧ cutoff ≤ event.offTime
  count : deleted = (before.records.values.filter fun event => event.offTime < cutoff).length
  nextId : after.nextId = before.nextId
  indexed : before.WellIndexed → after.WellIndexed

theorem purged_purge (keyed : store.records.Keyed Event.id) (cutoff : Instant) :
    ∃ deleted after, store.answer (.purge cutoff) = (.ok deleted, after) ∧ store.Purged cutoff deleted after := by
  refine ⟨_, _, rfl, ?_, List.length_map _, store.nextId_foldl_remove _, fun indexed => indexed.foldl_remove _⟩
  intro id event
  rw [get?_foldl_remove]
  by_cases isStale : id ∈ store.stale cutoff
  · rw [if_pos isStale]
    constructor
    · intro gone
      cases gone
    · rintro ⟨found, late⟩
      exact absurd ((mem_stale_iff keyed found).mp isStale) (Instant.not_lt_iff_le.mpr late)
  · rw [if_neg isStale]
    constructor
    · intro found
      exact ⟨found, Instant.not_lt_iff_le.mp fun early => isStale ((mem_stale_iff keyed found).mpr early)⟩
    · exact And.left

end MemoryStore

theorem Store.eq_of_reading {request : Request} (reads : request.isReading = true) (store : Store) :
    (store.answer request).2 = store := by
  cases store with
  | memory inner =>
      change memory (inner.answer request).2 = memory inner
      rw [MemoryStore.eq_of_reading reads]
  | database inner =>
      simp only [answer, Database.answer]
      split
      · rfl
      · split
        · rw [Table.eq_of_reading reads]
        · rfl

theorem StoreLink.eq_of_reading {request : Request} (reads : request.isReading = true) (link : StoreLink) :
    (link.answer request).2 = link := by
  unfold answer
  split
  · rfl
  · simp only [Store.eq_of_reading reads]

theorem StoreLink.answer_memory (store : MemoryStore) (request : Request) :
    (direct (.memory store)).answer request =
      ((store.answer request).1, direct (.memory (store.answer request).2)) := rfl

namespace Scheduler

variable {scheduler : Scheduler} {now cutoff : Instant}

inductive Ticked (scheduler : Scheduler) (now : Instant) : Except SchedulerError TickReport × Scheduler → Prop where
  | unlisted {error : StoreError} (failed : (scheduler.link.answer (.listDue now)).1 = .error error) :
      Ticked scheduler now (.error (.store error), scheduler)
  | refused {sent rest : List Event} {event : Event} {error : TransportError} {last : Scheduler}
      (listed : (scheduler.link.answer (.listDue now)).1 = .ok (sent ++ event :: rest))
      (refuses : scheduler.Refuses sent event error last) :
      Ticked scheduler now (.error (.transport error), last)
  | noCutoff {due : List Event} {published : Scheduler}
      (listed : (scheduler.link.answer (.listDue now)).1 = .ok due) (sends : scheduler.Sends due published)
      (none : now.purgeCutoff? = none) : Ticked scheduler now (.error .noCutoff, published)
  | unpurged {due : List Event} {published : Scheduler} {cutoff : Instant} {error : StoreError} {link : StoreLink}
      (listed : (scheduler.link.answer (.listDue now)).1 = .ok due) (sends : scheduler.Sends due published)
      (found : now.purgeCutoff? = some cutoff) (failed : scheduler.link.answer (.purge cutoff) = (.error error, link)) :
      Ticked scheduler now (.error (.store error), { published with link })
  | completed {due : List Event} {published : Scheduler} {cutoff : Instant} {deleted : Nat} {link : StoreLink}
      (listed : (scheduler.link.answer (.listDue now)).1 = .ok due) (sends : scheduler.Sends due published)
      (found : now.purgeCutoff? = some cutoff) (purged : scheduler.link.answer (.purge cutoff) = (.ok deleted, link)) :
      Ticked scheduler now (.ok ⟨due.length, deleted⟩, { published with link })

theorem notify_eq {due : List Event} (listed : (scheduler.link.answer (.listDue now)).1 = .ok due) :
    scheduler.notify now = ((sendAll due scheduler).1.mapError SchedulerError.transport, (sendAll due scheduler).2) := by
  -- The list only reads, so the batch starts from the scheduler as it was.
  have same : scheduler.link.answer (.listDue now) = (.ok due, scheduler.link) :=
    Prod.ext listed (StoreLink.eq_of_reading rfl scheduler.link)
  simp only [notify, same]

theorem ticked_tick (scheduler : Scheduler) (now : Instant) : scheduler.Ticked now (scheduler.tick now) := by
  cases listed : (scheduler.link.answer (.listDue now)).1 with
  | error error =>
      have same : scheduler.link.answer (.listDue now) = (.error error, scheduler.link) :=
        Prod.ext listed (StoreLink.eq_of_reading rfl scheduler.link)
      simp only [tick, notify, same]
      exact .unlisted listed
  | ok due =>
      have notified := notify_eq listed
      rcases sends_or_refuses due scheduler with ⟨published, sends⟩ | ⟨sent, event, rest, error, last, rfl, refuses⟩
      · rw [sends.sendAll] at notified
        -- Publishing leaves the link alone, so the purge meets the store that the list was taken from.
        have sameLink : published.link = scheduler.link := sends.publishes.2.2
        cases found : now.purgeCutoff? with
        | none =>
            simp only [tick, notified, Except.mapError, found]
            exact .noCutoff listed sends found
        | some cutoff =>
            cases purged : scheduler.link.answer (.purge cutoff) with
            | mk result link =>
                cases result with
                | error error =>
                    simp only [tick, notified, Except.mapError, found, purge, sameLink, purged]
                    exact .unpurged listed sends found purged
                | ok deleted =>
                    simp only [tick, notified, Except.mapError, found, purge, sameLink, purged]
                    exact .completed listed sends found purged
      · rw [refuses.sendAll] at notified
        simp only [tick, notified, Except.mapError]
        exact .refused listed refuses

-- What a tick over a store in memory comes to when these events are due.
inductive Delivers (scheduler : Scheduler) (store : MemoryStore) (cutoff : Instant) (due : List Event) :
    Except SchedulerError TickReport × Scheduler → Prop where
  | completed {published : Scheduler} {deleted : Nat} {left : MemoryStore} (sends : scheduler.Sends due published)
      (purged : store.Purged cutoff deleted left)
      (publishes : scheduler.Publishes (due.map Event.toNotice) { published with link := .direct (.memory left) }) :
      Delivers scheduler store cutoff due (.ok ⟨due.length, deleted⟩, { published with link := .direct (.memory left) })
  | refused {sent rest : List Event} {event : Event} {error : TransportError} {last : Scheduler}
      (first : due = sent ++ event :: rest) (refuses : scheduler.Refuses sent event error last)
      (publishes : scheduler.Publishes (sent.map Event.toNotice) last) (untouched : last.link = scheduler.link) :
      Delivers scheduler store cutoff due (.error (.transport error), last)

theorem tick_exact {requests : List Request} (inMemory : scheduler.link = .direct (.memory (.after requests)))
    (found : now.purgeCutoff? = some cutoff) :
    ∃ due, (MemoryStore.after requests).DueAt now due ∧
      scheduler.Delivers (.after requests) cutoff due (scheduler.tick now) := by
  have keyed := MemoryStore.keyed_after requests
  obtain ⟨due, isDue, dueAt⟩ := MemoryStore.dueAt_listDue keyed now
  obtain ⟨deleted, left, isPurged, purged⟩ := MemoryStore.purged_purge keyed cutoff
  have lists : scheduler.link.answer (.listDue now) = (.ok due, scheduler.link) := by
    rw [inMemory, StoreLink.answer_memory, isDue]
  have purges : scheduler.link.answer (.purge cutoff) = (.ok deleted, .direct (.memory left)) := by
    rw [inMemory, StoreLink.answer_memory, isPurged]
  refine ⟨due, dueAt, ?_⟩
  have ticked := scheduler.ticked_tick now
  generalize scheduler.tick now = outcome at ticked ⊢
  -- A store in memory answers both requests and there is a cutoff, so only the producer can end the tick early.
  cases ticked with
  | unlisted failed => simp [lists] at failed
  | noCutoff _ _ none => simp [found] at none
  | unpurged _ _ found' failed =>
      cases found.symm.trans found'
      simp [purges] at failed
  | refused listed refuses =>
      simp only [lists, Except.ok.injEq] at listed
      exact .refused listed refuses refuses.publishes.1 refuses.publishes.2.2
  | completed listed sends found' purged' =>
      cases found.symm.trans found'
      rw [purges] at purged'
      cases purged'
      simp only [lists, Except.ok.injEq] at listed
      subst listed
      exact .completed sends purged (sends.publishes.1.congr rfl rfl)

def newYear : Instant := (Instant.of? 1767225600 0).get (by decide)

def yearBefore : Instant := (Instant.of? 1735689600 0).get (by decide)

def longAgo : Instant := (Instant.of? 1262304000 0).get (by decide)

-- Both events are due at the new year, and one of them ended long ago.
def dueAndStale : List Request :=
  [.insert ⟨0, 7, "recent", "", yearBefore, newYear, some newYear, false⟩,
    .insert ⟨0, 7, "stale", "", longAgo, longAgo, some longAgo, false⟩]

def willing (allowance : Option Nat) : Scheduler :=
  ⟨.direct (.memory (.after dueAndStale)), .outbox, allowance, [], .empty, []⟩

theorem tick_exact_of_refusal :
    ((willing none).tick newYear).1 = .ok ⟨2, 1⟩ ∧
      ((willing (some 1)).tick newYear).1 = .error (.transport .refused) ∧
      (willing (some 1)).link = .direct (.memory (.after dueAndStale)) ∧
      newYear.purgeCutoff? = some yearBefore ∧
      ∃ due, (MemoryStore.after dueAndStale).DueAt newYear due ∧
        (willing (some 1)).Delivers (.after dueAndStale) yearBefore due ((willing (some 1)).tick newYear) := by
  have cutoff : newYear.purgeCutoff? = some yearBefore := by decide
  exact ⟨by decide, by decide, rfl, cutoff, tick_exact rfl cutoff⟩

end Scheduler
end Datebook
