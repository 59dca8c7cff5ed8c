import Datebook.Proofs.FreeTime
import Datebook.Proofs.WriteGate

set_option autoImplicit false

namespace Datebook

open Store (Request)

def Move.insertKey? : Move → Option Nat
  | arrive key job => if job.isInsert then some key else none
  | act _ _ => none

def Move.startsInsert (move : Move) : Bool := move.insertKey?.isSome

theorem Visit.isSettled_proceed {visit : Visit} {request : Request}
    {next : request.Answer → Procedure visit.job.Answer} (asks : visit.job.Asks request next)
    (inserts : request.isInsert = true) (result : request.Result) :
    (visit.proceed (.resume next result)).isSettled = true := by
  cases result with
  | error error => rfl
  | ok answer =>
      simp only [Procedure.resume, proceed]
      rcases asks.goesOn answer with ⟨result, ends⟩ | ⟨slot, write, rest, checks, -⟩
      · rw [ends]
        rfl
      · cases request with
        | insert event => cases checks
        | _ => cases inserts

namespace System

variable {system next : System} {done : List Move}

def HasInserted (system : System) (key : Nat) : Prop :=
  ∃ visit, system.visits.get? key = some visit ∧ visit.job.isInsert = true ∧ visit.isSettled = true

structure Budget (done : List Move) (system : System) : Prop where
  started : ∀ key visit, system.visits.get? key = some visit → visit.job.isInsert = true →
    key ∈ done.filterMap Move.insertKey?
  spent : ∀ memory, system.shared.store = .memory memory →
    ∃ keys : List Nat, keys.Nodup ∧ memory.nextId.toNat = keys.length + 1 ∧ ∀ key ∈ keys, system.HasInserted key

theorem Budget.length_lt (budget : Budget done system) {keys : List Nat} (distinct : keys.Nodup)
    (inserted : ∀ key ∈ keys, system.HasInserted key) {key : Nat} {visit : Visit}
    (found : system.visits.get? key = some visit) (inserts : visit.job.isInsert = true) (new : key ∉ keys) :
    keys.length < done.countP Move.startsInsert := by
  -- The call that is about to insert comes on top of those that have.
  have known : key :: keys ⊆ done.filterMap Move.insertKey? := by
    intro other member
    rcases List.mem_cons.mp member with rfl | old
    · exact budget.started other visit found inserts
    · obtain ⟨visit, isThere, inserts, -⟩ := inserted other old
      exact budget.started other visit isThere inserts
  have bound := (List.nodup_cons.mpr ⟨new, distinct⟩).length_le_of_subset known
  rwa [List.length_filterMap_eq_countP] at bound

theorem not_hasInserted {key : Nat} {visit : Visit} (found : system.visits.get? key = some visit)
    (unsettled : visit.isSettled = false) : ¬ system.HasInserted key := by
  rintro ⟨other, isThere, -, settled⟩
  rw [found] at isThere
  cases isThere
  rw [settled] at unsettled
  cases unsettled

theorem Budget.arrive (budget : Budget done system) {key : Nat} {job : Job}
    (moved : system.move (.arrive key job) = some next) : Budget (done ++ [.arrive key job]) next := by
  obtain ⟨absent, rfl⟩ := move_arrive moved
  refine ⟨?_, ?_⟩
  · intro other visit found inserts
    rw [List.filterMap_append, List.mem_append]
    rcases FinMap.get?_put_eq_some_iff.mp found with ⟨rfl, rfl⟩ | ⟨-, isOld⟩
    · right
      simp [Move.insertKey?, inserts]
    · exact .inl (budget.started other visit isOld inserts)
  · intro memory same
    obtain ⟨keys, distinct, next, inserted⟩ := budget.spent memory same
    refine ⟨keys, distinct, next, ?_⟩
    intro other member
    obtain ⟨visit, found, inserts, settled⟩ := inserted other member
    refine ⟨visit, ?_, inserts, settled⟩
    rw [FinMap.get?_put_of_ne, found]
    rintro rfl
    rw [absent] at found
    cases found

theorem HasInserted.act {key other : Nat} {action : Action} (inserted : system.HasInserted other)
    (moved : system.move (.act key action) = some next) : next.HasInserted other := by
  obtain ⟨visit, visit', shared', isThere, acted, rfl⟩ := move_act moved
  obtain ⟨old, found, inserts, settled⟩ := inserted
  by_cases same : other = key
  · subst same
    rw [isThere] at found
    cases found
    obtain ⟨job, -, stays⟩ := Visit.act_kept acted
    exact ⟨visit', FinMap.get?_put_self .., job ▸ inserts, stays settled⟩
  · exact ⟨old, by rw [FinMap.get?_put_of_ne _ same, found], inserts, settled⟩

theorem Budget.room (budget : Budget done system) (few : done.countP Move.startsInsert < 2 ^ 64 - 1) {key : Nat}
    {visit : Visit} (found : system.visits.get? key = some visit) (inserts : visit.job.isInsert = true)
    (unsettled : visit.isSettled = false) : system.shared.store.HasRoom := by
  intro memory same
  obtain ⟨keys, distinct, next, inserted⟩ := budget.spent memory same
  have new : key ∉ keys := fun member => not_hasInserted found unsettled (inserted key member)
  have length := budget.length_lt distinct inserted found inserts new
  omega

theorem Budget.started_act (budget : Budget done system) {key : Nat} {action : Action}
    (moved : system.move (.act key action) = some next) :
    ∀ other visit, next.visits.get? other = some visit → visit.job.isInsert = true →
      other ∈ (done ++ [Move.act key action]).filterMap Move.insertKey? := by
  obtain ⟨visit, visit', shared', isThere, acted, rfl⟩ := move_act moved
  intro other old found inserts
  rw [List.filterMap_append, List.mem_append]
  left
  rcases FinMap.get?_put_eq_some_iff.mp found with ⟨rfl, rfl⟩ | ⟨-, isOld⟩
  · exact budget.started other visit isThere ((Visit.act_kept acted).1 ▸ inserts)
  · exact budget.started other old isOld inserts

structure Sane (done : List Move) (system : System) : Prop where
  orderly : system.Orderly
  peaceful : system.shared.store.Peaceful
  budget : Budget done system

theorem sane_start {store : Store} (peaceful : store.Peaceful)
    (first : ∀ memory, store = .memory memory → memory.nextId = 1) : Sane [] (start store) where
  orderly := orderly_start store
  peaceful := peaceful
  budget.started key visit found := by cases found
  budget.spent memory same := by
    refine ⟨[], List.nodup_nil, ?_, fun key member => by cases member⟩
    rw [first memory same]
    rfl

theorem Sane.act_database (sane : Sane done system) {inner : Database}
    (inDatabase : system.shared.store = .database inner) {key : Nat} {action : Action}
    (moved : system.move (.act key action) = some next) : Sane (done ++ [.act key action]) next := by
  have started := sane.budget.started_act moved
  have orderly := sane.orderly.act moved
  obtain ⟨visit, visit', shared', isThere, acted, rfl⟩ := move_act moved
  have progress := ((sane.orderly.visits key visit isThere).act acted).progress
  rcases progress.store_eq (sane.orderly.free key visit isThere) with same | ⟨request, same, free⟩
  · refine ⟨orderly, same ▸ sane.peaceful, started, ?_⟩
    intro memory inMemory
    cases inDatabase.symm.trans (same.symm.trans inMemory)
  · refine ⟨orderly, ?_, started, ?_⟩
    · rw [same]
      apply sane.peaceful.after free
      intro _ memory inMemory
      cases inDatabase.symm.trans inMemory
    · intro memory inMemory
      rw [inDatabase] at same
      cases same.symm.trans inMemory

theorem Sane.act_memory (sane : Sane done system) {memory : MemoryStore}
    (inMemory : system.shared.store = .memory memory) (few : done.countP Move.startsInsert < 2 ^ 64 - 1)
    {key : Nat} {action : Action} (moved : system.move (.act key action) = some next) :
    Sane (done ++ [.act key action]) next := by
  have started := sane.budget.started_act moved
  have orderly := sane.orderly.act moved
  obtain ⟨keys, distinct, nextId, inserted⟩ := sane.budget.spent memory inMemory
  have stillInserted (other : Nat) (member : other ∈ keys) := (inserted other member).act moved
  obtain ⟨visit, visit', shared', isThere, acted, rfl⟩ := move_act moved
  have orderlyVisit := sane.orderly.visits key visit isThere
  -- In memory only the request of a visit that was ready can have changed the store.
  rcases orderlyVisit.act_memory inMemory acted with same | ⟨request, next, ready, asks, rfl, same⟩
  · refine ⟨orderly, ?_, started, ?_⟩
    · rw [same, ← inMemory]
      exact sane.peaceful
    · intro other isOther
      cases same.symm.trans isOther
      exact ⟨keys, distinct, nextId, stillInserted⟩
  · have unsettled : visit.isSettled = false := by simp [Visit.isSettled, ready]
    have claims : visit.claim? = request.slot? := by simp [Visit.claim?, ready]
    have free (slot : Slot) (takes : request.slot? = some slot) : system.shared.store.IsFree slot :=
      sane.orderly.free key visit isThere slot (claims.trans takes)
    have isInsert (inserts : request.isInsert = true) : visit.job.isInsert = true := by
      cases request with
      | insert event => exact asks.isInsert
      | _ => cases inserts
    have room (inserts : request.isInsert = true) : system.shared.store.HasRoom :=
      sane.budget.room few isThere (isInsert inserts) unsettled
    have peaceful := sane.peaceful
    rw [inMemory] at peaceful
    have after : shared'.store = system.shared.store.after request := by
      rw [same, inMemory]
      rfl
    refine ⟨orderly, after ▸ sane.peaceful.after free room, started, ?_⟩
    intro other isOther
    cases same.symm.trans isOther
    rw [peaceful.1.nextId_answer]
    cases inserts : request.isInsert with
    | false => exact ⟨keys, distinct, nextId, stillInserted⟩
    | true =>
        have new : key ∉ keys := fun member => not_hasInserted isThere unsettled (inserted key member)
        refine ⟨key :: keys, List.nodup_cons.mpr ⟨new, distinct⟩, ?_, ?_⟩
        · have succ := MemoryStore.toNat_succ (room inserts memory inMemory).2
          simp only [if_true, succ, nextId, List.length_cons]
        · intro other member
          rcases List.mem_cons.mp member with rfl | old
          · have settled := Visit.isSettled_proceed asks inserts (memory.answer request).1
            exact ⟨visit.proceed (.resume next (memory.answer request).1), FinMap.get?_put_self ..,
              isInsert inserts, settled⟩
          · exact stillInserted other old

theorem Sane.move {move : Move} (sane : Sane done system)
    (few : ∀ memory, system.shared.store = .memory memory → done.countP Move.startsInsert < 2 ^ 64 - 1)
    (moved : system.move move = some next) : Sane (done ++ [move]) next := by
  cases move with
  | arrive key job =>
      refine ⟨sane.orderly.arrive moved, ?_, sane.budget.arrive moved⟩
      obtain ⟨-, rfl⟩ := move_arrive moved
      exact sane.peaceful
  | act key action =>
      cases inMemory : system.shared.store with
      | memory memory => exact sane.act_memory inMemory (few memory inMemory) moved
      | database inner => exact sane.act_database inMemory moved

end System

def Store.IsFresh : Store → Prop
  | memory inner => inner = .empty
  | database inner => inner.table = .empty

theorem Store.isFresh_empty : IsFresh (memory .empty) := rfl

theorem Store.IsFresh.peaceful {store : Store} (fresh : store.IsFresh) : store.Peaceful := by
  cases store with
  | memory inner =>
      subst fresh
      exact ⟨MemoryStore.wellIndexed_empty, fun left isLeft => by cases isLeft⟩
  | database inner =>
      obtain ⟨medium, table, connected⟩ := inner
      subst fresh
      exact ⟨Table.sound_empty, fun left isLeft => by cases isLeft⟩

theorem Store.IsFresh.ledger_eq {store : Store} (fresh : store.IsFresh) : store.ledger = ⟨[], 1⟩ := by
  cases store with
  | memory inner =>
      subst fresh
      rfl
  | database inner =>
      obtain ⟨medium, table, connected⟩ := inner
      subst fresh
      rfl

namespace System

variable {moves : List Move} {system : System}

theorem sane_run_memory (few : moves.countP Move.startsInsert < 2 ^ 64 - 1)
    (ran : run moves (start (.memory .empty)) = some system) : Sane moves system := by
  have initial : Sane [] (start (.memory .empty)) := by
    apply sane_start Store.isFresh_empty.peaceful
    intro memory same
    cases same
    rfl
  refine run_keep Sane initial ?_ ran
  intro done move rest system next whole _ moved sane
  rw [whole, List.countP_append] at few
  exact sane.move (fun _ _ => by omega) moved

theorem sane_run_database {database : Database} (fresh : database.table = .empty)
    (ran : run moves (start (.database database)) = some system) : Sane moves system := by
  have initial : Sane [] (start (.database database)) := by
    refine sane_start (Store.IsFresh.peaceful fresh) ?_
    intro memory same
    cases same
  refine run_keep Sane initial ?_ ran
  intro done move rest system next _ came moved sane
  refine sane.move ?_ moved
  -- What the run started on stays what it runs on, so no bound on the ids of a store in memory is asked for.
  intro memory inMemory
  have tabled := medium_run came
  rw [inMemory] at tabled
  cases tabled

theorem few_left {store : Store} {rest : List Move}
    (few : store = .memory .empty → (moves ++ rest).countP Move.startsInsert < 2 ^ 64 - 1) :
    store = .memory .empty → moves.countP Move.startsInsert < 2 ^ 64 - 1 := by
  intro inMemory
  have bound := few inMemory
  rw [List.countP_append] at bound
  omega

theorem sane_run {store : Store} (fresh : store.IsFresh)
    (few : store = .memory .empty → moves.countP Move.startsInsert < 2 ^ 64 - 1)
    (ran : run moves (start store) = some system) : Sane moves system := by
  cases store with
  | memory inner =>
      obtain rfl : inner = .empty := fresh
      exact sane_run_memory (few rfl) ran
  | database inner => exact sane_run_database fresh ran

/-- The bound is that of the ids of a store in memory: after `2 ^ 64 - 1` inserts they start over, and come
to 0, which the check of a new event leaves out. -/
theorem conflictFree_of_run {store : Store} (fresh : store.IsFresh)
    (ran : run moves (start store) = some system)
    (few : store = .memory .empty → moves.countP Move.startsInsert < 2 ^ 64 - 1) :
    system.shared.store.ConflictFree := by
  cases store with
  | memory inner =>
      obtain rfl : inner = .empty := fresh
      exact (sane_run_memory (few rfl) ran).peaceful.conflictFree
  | database inner => exact (sane_run_database fresh ran).peaceful.conflictFree

-- A caller gives up between the last look at it and the commit, while another waits with the same event.
theorem conflictFree_of_late_commit :
    let draft : Draft := ⟨0, 7, "", "", some NanoCount.least.toInstant, some NanoCount.greatest.toInstant, none⟩
    let store : Store := .database ⟨.file, .empty, true⟩
    let moves : List Move := [.arrive 0 (.call (.insert draft)), .act 0 .enter, .arrive 1 (.call (.insert draft)),
      .act 0 .send, .act 0 .work, .act 0 .work, .act 0 .receive, .act 0 .send, .act 0 .work, .act 0 .work,
      .act 0 .work, .act 0 .timeOut, .act 0 .leave, .act 1 .enter, .act 1 .send, .act 0 .work, .act 1 .work,
      .act 1 .work, .act 1 .receive, .act 1 .leave]
    store.IsFresh ∧ (store = .memory .empty → moves.countP Move.startsInsert < 2 ^ 64 - 1) ∧
      ∃ system, run moves (start store) = some system ∧
        system.shared.store.table?.map (fun table => table.rows.length) = some 1 ∧
        system.shared.store.ConflictFree := by
  intro draft store moves
  have outcome : ((run moves (start store)).bind fun system =>
      system.shared.store.table?.map fun table => table.rows.length) = some 1 := by decide
  obtain ⟨system, ran, stored⟩ := Option.bind_eq_some_iff.mp outcome
  have fresh : store.IsFresh := rfl
  exact ⟨fresh, fun _ => by decide, system, ran, stored, conflictFree_of_run fresh ran fun _ => by decide⟩

end System
end Datebook
