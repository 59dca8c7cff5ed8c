import Datebook.Proofs.ClampedBounds
import Datebook.Proofs.FreeTime
import Datebook.Proofs.PurgeCutoff
import Datebook.Proofs.SchedulerTick

set_option autoImplicit false

namespace Datebook

open Store (Request)

theorem Instant.IsCutoff.toNanoCount_le {cutoff common now : Instant} (isCutoff : cutoff.IsCutoff common now)
    {count : NanoCount} (recent : common ≤ count.toInstant) : cutoff.toNanoCount.value ≤ count.value := by
  have earlier := isCutoff.le.2
  -- The clamped cutoff may come after the cutoff, but then it is the least count there is.
  have least := count.value_ge
  rw [NanoCount.le_toInstant_iff_nanoCount isCutoff.days.regular] at recent
  rw [Instant.value_toNanoCount]
  simp only [NanoCount.least]
  omega

namespace Store

variable {store : Store}

/-- A store in memory has come to its state by requests; of a database any state will do. -/
def IsReached (store : Store) : Prop :=
  ∀ inner, store = memory inner → ∃ requests, inner = .after requests

theorem IsReached.mem_ledger_purge (reached : store.IsReached) {cutoff common now : Instant}
    (isCutoff : cutoff.IsCutoff common now) {event : Event} (member : event ∈ store.ledger.events)
    (recent : common ≤ event.offTime) : event ∈ (store.answer (.purge cutoff)).2.ledger.events := by
  cases store with
  | memory inner =>
      obtain ⟨requests, rfl⟩ := reached inner rfl
      have keyed := MemoryStore.keyed_after requests
      obtain ⟨deleted, left, answered, purged⟩ := MemoryStore.purged_purge keyed cutoff
      have late : cutoff ≤ event.offTime := by
        have earlier := isCutoff.le.1
        rw [Instant.le_def] at earlier recent ⊢
        omega
      have found := (purged.kept event.id event).mpr ⟨keyed.get?_eq_some_iff.mpr ⟨member, rfl⟩, late⟩
      change event ∈ ((MemoryStore.after requests).answer (.purge cutoff)).2.records.values
      rw [answered]
      exact List.mem_map_of_mem (FinMap.get?_eq_some_iff.mp found)
  | database inner =>
      obtain ⟨row, isRow, rfl⟩ := List.mem_map.mp member
      have late := isCutoff.toNanoCount_le recent
      simp only [Store.answer, Database.answer, Database.precheck]
      split
      · exact List.mem_map_of_mem (List.mem_filter.mpr ⟨isRow, by simpa using late⟩)
      · exact member

end Store

theorem StoreLink.store_answer (link : StoreLink) {request : Request} {answer : request.Answer} {next : StoreLink}
    (answered : link.answer request = (.ok answer, next)) : next.store = (link.store.answer request).2 := by
  unfold StoreLink.answer at answered
  split at answered
  · cases answered
  · exact (congrArg (fun outcome => outcome.2.store) answered).symm

namespace Scheduler

theorem mem_ledger_tick {scheduler next : Scheduler} {report : TickReport} {now : Instant}
    (reached : scheduler.link.store.IsReached) (ticked : scheduler.tick now = (.ok report, next)) :
    ∃ common : Instant, common.IsCommonYearBefore now ∧
      ∀ event ∈ scheduler.link.store.ledger.events, common ≤ event.offTime → event ∈ next.link.store.ledger.events := by
  have outcome := scheduler.ticked_tick now
  rw [ticked] at outcome
  cases outcome with
  | completed listed sends found purged =>
      obtain ⟨common, isCutoff⟩ := Instant.isCutoff_of_purgeCutoff? found
      refine ⟨common, isCutoff.days, fun event member recent => ?_⟩
      rw [StoreLink.store_answer _ purged]
      exact reached.mem_ledger_purge isCutoff member recent

theorem purgeCutoff_exact (now : Instant) :
    (∀ time, Instant.first ≤ time) ∧
      (now.purgeCutoff? = none ↔ now.nanoCount - 365 * 86400 * 1000000000 < Instant.first.nanoCount) ∧
      (∀ cutoff, now.purgeCutoff? = some cutoff → ∃ common, cutoff.IsCutoff common now) ∧
      ∀ (scheduler next : Scheduler) (report : TickReport), scheduler.link.store.IsReached →
        scheduler.tick now = (.ok report, next) → ∃ common : Instant, common.IsCommonYearBefore now ∧
          ∀ event ∈ scheduler.link.store.ledger.events, common ≤ event.offTime →
            event ∈ next.link.store.ledger.events :=
  ⟨Instant.first_le, Instant.purgeCutoff?_eq_none_iff, fun _ found => Instant.isCutoff_of_purgeCutoff? found,
    fun _ _ _ reached ticked => mem_ledger_tick reached ticked⟩

/-- The leap second at the end of the first year, which alone in it has an instant 365 days before. -/
def firstLeap : Instant :=
  (Instant.of? (Date.firstDayNumber * secondsPerDay + 365 * secondsPerDay - 1) 1500000000).get (by decide)

def firstHalf : Instant := (Instant.of? (Date.firstDayNumber * secondsPerDay) 500000000).get (by decide)

-- Over a database whose one event ended at the least time that can be stored.
def archivist : Scheduler :=
  ⟨.direct (.database ⟨.file, ⟨[⟨1, 7, "first", "", .least, .least, none, false⟩], 1⟩, true⟩), .outbox, none, [],
    .empty, []⟩

theorem purgeCutoff_exact_at_firstLeap :
    firstLeap.purgeCutoff? = some firstHalf ∧ (∃ common, firstHalf.IsCutoff common firstLeap) ∧
      archivist.link.store.IsReached ∧ archivist.tick firstLeap = (.ok ⟨0, 0⟩, archivist) ∧
      ∃ common : Instant, common.IsCommonYearBefore firstLeap ∧
        ∀ event ∈ archivist.link.store.ledger.events, common ≤ event.offTime →
          event ∈ archivist.link.store.ledger.events := by
  have cutoff : firstLeap.purgeCutoff? = some firstHalf := by decide
  have reached : archivist.link.store.IsReached := fun inner same => by cases same
  have ticked : archivist.tick firstLeap = (.ok ⟨0, 0⟩, archivist) := by decide
  exact ⟨cutoff, (purgeCutoff_exact firstLeap).2.2.1 _ cutoff, reached, ticked,
    (purgeCutoff_exact firstLeap).2.2.2 _ _ _ reached ticked⟩

end Scheduler
end Datebook
