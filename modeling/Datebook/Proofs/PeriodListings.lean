import Datebook.Proofs.CalendarPeriods
import Datebook.Proofs.WriteOutcomes

set_option autoImplicit false

namespace Datebook

open Service (PeriodKind)

namespace Event

variable {event : Event} {kind : PeriodKind} {date : Date} {period : Period}

-- One of the dates from that of the start to that of the end belongs to the period.
def Meets (event : Event) (kind : PeriodKind) (date : Date) : Prop :=
  ∃ day, kind.Shares date day ∧ event.onTime.date ≤ day ∧ day ≤ event.offTime.date

/-- The event starts in a leap second with which the period ends. -/
def StartsAtLast (event : Event) (kind : PeriodKind) (date : Date) : Prop :=
  event.onTime.InClosingLeapSecond ∧ kind.Shares date event.onTime.date ∧
    ∀ day, kind.Shares date day → day ≤ event.onTime.date

theorem overlaps_bounds_iff (ordered : event.onTime ≤ event.offTime) (found : kind.bounds date = some period) :
    event.overlaps period.first period.last = true ↔ event.Meets kind date ∧ ¬ event.StartsAtLast kind date := by
  obtain ⟨first, last, rfl, shares⟩ := PeriodKind.exists_of_bounds found
  have sorted : event.onTime.date ≤ event.offTime.date := Instant.date_mono ordered
  have ⟨since, upTo⟩ := (shares date).mp (kind.shares_refl date)
  simp only [overlaps, Bool.and_eq_true, decide_eq_true_eq, Instant.le_endOfDay_iff, Instant.startOfDay_le_iff,
    Meets, StartsAtLast, shares, Date.le_def] at sorted since upTo ⊢
  constructor
  · rintro ⟨⟨startsBefore, notLast⟩, endsAfter⟩
    constructor
    -- The later of the first date of the period and that of the start is in both.
    · by_cases early : event.onTime.date.dayNumber ≤ first.dayNumber
      · exact ⟨first, ⟨Int.le_refl _, Int.le_trans since upTo⟩, early, endsAfter⟩
      · exact ⟨event.onTime.date, ⟨by omega, startsBefore⟩, Int.le_refl _, sorted⟩
    · rintro ⟨leap, -, latest⟩
      have late := latest last ⟨Int.le_trans since upTo, Int.le_refl _⟩
      exact notLast ⟨Date.dayNumber_inj (Int.le_antisymm startsBefore late), leap⟩
  · rintro ⟨⟨day, ⟨inside, inside'⟩, starts, ends⟩, notLast⟩
    refine ⟨⟨Int.le_trans starts inside', ?_⟩, Int.le_trans inside ends⟩
    rintro ⟨isLast, leap⟩
    refine notLast ⟨leap, ?_, ?_⟩
    · rw [isLast]
      exact ⟨Int.le_trans since upTo, Int.le_refl _⟩
    · rintro other ⟨-, before⟩
      rwa [isLast]

end Event

namespace MemoryStore

variable {store : MemoryStore} {kind : PeriodKind} {userId : UserId} {time : Instant}

/-- A listing has the stored events of the user that meet the period, less those that start with its end. -/
structure ExactListing (store : MemoryStore) (kind : PeriodKind) (userId : UserId) (time : Instant)
    (outcome : Except ServiceError (List Event) × StoreLink) : Prop where
  unchanged : outcome.2 = .direct (.memory store)
  listed : ∀ events, outcome.1 = .ok events → events.Pairwise Event.Precedes ∧
    ∀ event, event ∈ events ↔ store.records.get? event.id = some event ∧ event.userId = userId ∧
      event.Meets kind time.date ∧ ¬ event.StartsAtLast kind time.date
  succeeds_iff : (∃ events, outcome.1 = .ok events) ↔ userId ≠ 0 ∧ kind.Fits time.date

theorem WellIndexed.mem_listRange (indexed : store.WellIndexed) {first last : Instant} {events : List Event}
    (listed : (store.answer (.listRange userId first last)).1 = .ok events) (event : Event) :
    event ∈ events ↔ store.records.get? event.id = some event ∧ event.userId = userId ∧
      event.overlaps first last = true := by
  rw [indexed.answer_listRange] at listed
  cases listed
  rw [(Event.sort_perm _).mem_iff, List.mem_filter, indexed.keyed.get?_eq_some_iff]
  simp

theorem ExactListing.of_error {error : ServiceError} (hindered : ¬ (userId ≠ 0 ∧ kind.Fits time.date)) :
    store.ExactListing kind userId time (.error error, .direct (.memory store)) where
  unchanged := rfl
  listed events succeeded := by cases succeeded
  succeeds_iff := by simp [hindered]

theorem WellIndexed.exactListing (indexed : store.WellIndexed)
    (ordered : ∀ id event, store.records.get? id = some event → event.onTime ≤ event.offTime)
    (kind : PeriodKind) (userId : UserId) (time : Instant) :
    store.ExactListing kind userId time (Service.perform (.listPeriod kind userId time) (.direct (.memory store))) := by
  simp only [Service.perform, Service.Call.procedure, Service.listPeriod]
  by_cases noUser : userId = 0
  · rw [if_pos noUser]
    apply ExactListing.of_error
    rintro ⟨hasUser, -⟩
    exact hasUser noUser
  rw [if_neg noUser]
  cases found : kind.bounds time.date with
  | none =>
      apply ExactListing.of_error
      rintro ⟨-, fits⟩
      obtain ⟨period, bounded⟩ := PeriodKind.exists_bounds_iff.mpr fits
      cases found.symm.trans bounded
  | some period =>
      let request : Store.Request := .listRange userId period.first period.last
      change store.ExactListing kind userId time ((Procedure.single request).run Service.serve _)
      rw [Procedure.run_single]
      have answered : ((Store.memory store).answer request).1 = (store.answer request).1 := rfl
      rw [answered, indexed.answer_listRange]
      have fits : kind.Fits time.date := PeriodKind.exists_bounds_iff.mp ⟨period, found⟩
      refine ⟨rfl, ?_, iff_of_true ⟨_, rfl⟩ ⟨noUser, fits⟩⟩
      intro events succeeded
      cases succeeded
      refine ⟨indexed.listsInOrder.listRange _ _ _ _ (indexed.answer_listRange ..), fun event => ?_⟩
      rw [indexed.mem_listRange (indexed.answer_listRange ..)]
      refine and_congr_right fun stored => and_congr_right fun _ => ?_
      exact Event.overlaps_bounds_iff (ordered event.id event stored) found

end MemoryStore

namespace System

variable {moves : List Move} {system : System} {memory : MemoryStore}

theorem listings_of_run (few : moves.countP Move.startsInsert < 2 ^ 64 - 1)
    (ran : run moves (start (.memory .empty)) = some system) (inMemory : system.shared.store = .memory memory)
    (kind : PeriodKind) (userId : UserId) (time : Instant) :
    memory.ExactListing kind userId time
      (Service.perform (.listPeriod kind userId time) (.direct (.memory memory))) := by
  have peaceful := (sane_run_memory few ran).peaceful
  rw [inMemory] at peaceful
  refine peaceful.1.exactListing ?_ kind userId time
  intro id event stored
  have member : event ∈ system.ledger.events := by
    rw [ledger, inMemory]
    exact (peaceful.1.keyed.get?_eq_some_iff.mp stored).1
  exact Instant.le_of_lt (keepsRules_of_run few ran member).ordered

-- The second of the two days of an event that starts in a leap second.
theorem listings_of_secondDay :
    let time : Instant := markedEvent.offTime
    markedMoves.countP Move.startsInsert < 2 ^ 64 - 1 ∧
      ∃ system memory, run markedMoves (start (.memory .empty)) = some system ∧
        system.shared.store = .memory memory ∧
        memory.ExactListing .day 7 time (Service.perform (.listPeriod .day 7 time) (.direct (.memory memory))) ∧
        (Service.perform (.listPeriod .day 7 time) (.direct (.memory memory))).1.toOption.map (List.map Event.id) =
          some [1] := by
  intro time
  have outcome : ((run markedMoves (start (.memory .empty))).map fun system =>
      (Service.perform (.listPeriod .day 7 time) (.direct system.shared.store)).1.toOption.map (List.map Event.id)) =
      some (some [1]) := by decide
  obtain ⟨system, ran, listed⟩ := Option.map_eq_some_iff.mp outcome
  obtain ⟨memory, inMemory⟩ := inMemory_of_run ran
  rw [inMemory] at listed
  exact ⟨by decide, system, memory, ran, inMemory, listings_of_run (by decide) ran inMemory .day 7 time, listed⟩

theorem missing_of_firstDay :
    let time : Instant := markedEvent.onTime
    ∃ system memory, run markedMoves (start (.memory .empty)) = some system ∧
      system.shared.store = .memory memory ∧ memory.records.get? 1 = some markedEvent ∧
      markedEvent.Meets .day time.date ∧
      (Service.perform (.listPeriod .day markedEvent.userId time) (.direct (.memory memory))).1 = .ok [] := by
  intro time
  obtain ⟨system, memory, ran, inMemory, stored⟩ := markedEvent_stored
  have outcome : ((run markedMoves (start (.memory .empty))).map fun system =>
      (Service.perform (.listPeriod .day markedEvent.userId time) (.direct system.shared.store)).1) =
      some (.ok []) := by decide
  rw [ran, Option.map_some, inMemory] at outcome
  have meets : markedEvent.Meets .day time.date :=
    ⟨time.date, rfl, Int.le_refl _, Instant.date_mono (by decide)⟩
  exact ⟨system, memory, ran, inMemory, stored, meets, Option.some.inj outcome⟩

end System
end Datebook
