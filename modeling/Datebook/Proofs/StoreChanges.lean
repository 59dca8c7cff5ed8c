import Datebook.Proofs.ConflictFree

set_option autoImplicit false

namespace Datebook

open Store (Request)

namespace StoreTask

variable {request : Request} {task task' : StoreTask request} {key : Nat} {shared shared' : Shared}

theorem Orderly.store_work (orderly : task.Orderly key shared)
    (worked : task.work key shared = some (task', shared')) :
    shared'.store = shared.store ∨ shared'.store = shared.store.after request := by
  obtain ⟨store, gate, connection⟩ := shared
  obtain ⟨phase, awaited⟩ := task
  cases store with
  | memory memory => cases worked
  | database database =>
      simp only [StoreTask.work] at worked
      split at worked
      · cases phase with
        | queued =>
            cases worked
            exact .inl rfl
        | executed answer table =>
            cases awaited <;> cases worked <;> exact .inl rfl
        | finished result =>
            cases worked
            exact .inl rfl
        | holding =>
            simp only [step] at worked
            split at worked
            · split at worked
              · cases worked
                exact .inl rfl
              · next answer table answered =>
                split at worked
                · cases worked
                  exact .inl rfl
                · cases worked
                  right
                  simp [Store.after, answered]
            · cases worked
              exact .inl rfl
        | cleared answer table =>
            -- The table that was computed before is still what the request makes of the one stored.
            obtain ⟨-, before, tabled, answered⟩ := orderly
            cases worked
            cases tabled
            right
            simp [Store.after, step, answered]
      · cases worked

end StoreTask

namespace Visit

variable {visit visit' : Visit} {key time : Nat} {shared shared' : Shared} {action : Action}

def OwnsOrphan (visit : Visit) : Prop :=
  ∀ errand ∈ visit.orphan, ∃ next, visit.job.Asks errand.request next

theorem ownsOrphan_none {job : Job} {since : Nat} {stage : Stage job.Answer} :
    OwnsOrphan ⟨job, since, stage, none⟩ := fun _ isOrphan => by cases isOrphan

def Changes (visit : Visit) (before after : Store) : Prop :=
  after = before ∨ ∃ request next, visit.job.Asks request next ∧ after = before.after request

theorem Orderly.changes_giveUp (orderly : visit.Orderly key shared) (owns : visit.OwnsOrphan)
    {result : Option (Except ServiceError visit.job.Answer)}
    (acted : visit.giveUp result shared = some (visit', shared')) :
    visit'.OwnsOrphan ∧ visit.Changes shared.store shared'.store := by
  cases orderly with
  | leaving | ended => cases acted
  | waiting | ready =>
      cases acted
      exact ⟨ownsOrphan_none, .inl rfl⟩
  | @asking _ _ _ _ next asks =>
      cases acted
      refine ⟨?_, .inl rfl⟩
      intro errand isOrphan
      cases isOrphan
      exact ⟨next, asks⟩

theorem Orderly.changes_work (orderly : visit.Orderly key shared) (owns : visit.OwnsOrphan)
    (acted : visit.work key shared = some (visit', shared')) :
    visit'.OwnsOrphan ∧ visit.Changes shared.store shared'.store := by
  cases orderly with
  | waiting | ready => cases acted
  | @asking _ _ request _ next asks _ _ _ orderly =>
      obtain ⟨⟨task', _⟩, worked, same⟩ := Option.map_eq_some_iff.mp acted
      cases same
      exact ⟨ownsOrphan_none, (orderly.store_work worked).imp_right fun after => ⟨request, next, asks, after⟩⟩
  | @leaving _ _ _ orphan orphans | @ended _ _ _ _ orphan orphans =>
      cases orphan with
      | none => cases acted
      | some errand =>
          obtain ⟨⟨task', _⟩, worked, same⟩ := Option.map_eq_some_iff.mp acted
          cases same
          obtain ⟨next, asks⟩ := owns errand rfl
          refine ⟨?_, ((orphans errand rfl).2.store_work worked).imp_right fun after => ⟨_, next, asks, after⟩⟩
          intro other isOrphan
          cases isOrphan
          exact ⟨next, asks⟩

theorem Orderly.changes_send (orderly : visit.Orderly key shared)
    (acted : visit.send shared = some (visit', shared')) :
    visit'.OwnsOrphan ∧ visit.Changes shared.store shared'.store := by
  cases orderly with
  | waiting | asking | leaving | ended => cases acted
  | @ready _ _ request next asks =>
      obtain ⟨store, gate, connection⟩ := shared
      cases store with
      | memory memory =>
          rw [send_memory] at acted
          cases acted
          exact ⟨ownsOrphan_none, .inr ⟨request, next, asks, rfl⟩⟩
      | database database =>
          simp only [Visit.send] at acted
          split at acted <;> cases acted <;> exact ⟨ownsOrphan_none, .inl rfl⟩

theorem Orderly.changes (orderly : visit.Orderly key shared) (owns : visit.OwnsOrphan)
    (acted : visit.act key time shared action = some (visit', shared')) :
    visit'.OwnsOrphan ∧ visit.Changes shared.store shared'.store := by
  cases action with
  | send => exact orderly.changes_send acted
  | work => exact orderly.changes_work owns acted
  | drop => exact orderly.changes_giveUp owns acted
  | timeOut =>
      simp only [Visit.act, Visit.timeOut] at acted
      split at acted
      · cases acted
      · exact orderly.changes_giveUp owns acted
  | enter | receive | leave =>
      simp only [Visit.act, Visit.enter, Visit.receive, Visit.leave] at acted
      repeat' split at acted
      all_goals cases acted
      all_goals exact ⟨owns, .inl rfl⟩

end Visit

theorem Store.rounding_eq (store : Store) :
    store.rounding = if store.table?.isSome then Instant.rounded else id := by
  cases store <;> rfl

def Requested (done : List Move) (request : Request) : Prop :=
  ∃ key job next, Move.arrive key job ∈ done ∧ job.Asks request next

namespace System

variable {system next : System} {done : List Move}

-- Every visit is due to an arrival, and every task to a visit.
structure Accounted (done : List Move) (system : System) : Prop where
  orderly : system.Orderly
  visits : ∀ key visit, system.visits.get? key = some visit → Move.arrive key visit.job ∈ done ∧ visit.OwnsOrphan

theorem accounted_start (store : Store) : Accounted [] (start store) where
  orderly := orderly_start store
  visits key visit found := by cases found

theorem Accounted.move (accounted : Accounted done system) {move : Move}
    (moved : system.move move = some next) : Accounted (done ++ [move]) next := by
  refine ⟨accounted.orderly.move moved, ?_⟩
  intro other visit found
  have old (isOld : system.visits.get? other = some visit) :
      Move.arrive other visit.job ∈ done ++ [move] ∧ visit.OwnsOrphan :=
    (accounted.visits other visit isOld).imp_left (List.mem_append_left _)
  cases move with
  | arrive key job =>
      obtain ⟨-, rfl⟩ := move_arrive moved
      rcases FinMap.get?_put_eq_some_iff.mp found with ⟨rfl, rfl⟩ | ⟨-, isOld⟩
      · exact ⟨List.mem_append_right _ (List.mem_singleton_self _), Visit.ownsOrphan_none⟩
      · exact old isOld
  | act key action =>
      obtain ⟨before, visit', shared', isThere, acted, rfl⟩ := move_act moved
      rcases FinMap.get?_put_eq_some_iff.mp found with ⟨rfl, rfl⟩ | ⟨-, isOld⟩
      · obtain ⟨arrived, owns⟩ := accounted.visits _ before isThere
        rw [(Visit.act_kept acted).1]
        exact ⟨List.mem_append_left _ arrived, ((accounted.orderly.visits _ before isThere).changes owns acted).1⟩
      · exact old isOld

theorem Accounted.store_move (accounted : Accounted done system) {move : Move}
    (moved : system.move move = some next) :
    next.shared.store = system.shared.store ∨
      ∃ request, Requested done request ∧ next.shared.store = system.shared.store.after request := by
  cases move with
  | arrive key job =>
      obtain ⟨-, rfl⟩ := move_arrive moved
      exact .inl rfl
  | act key action =>
      obtain ⟨visit, visit', shared', isThere, acted, rfl⟩ := move_act moved
      obtain ⟨arrived, owns⟩ := accounted.visits key visit isThere
      refine ((accounted.orderly.visits key visit isThere).changes owns acted).2.imp_right ?_
      rintro ⟨request, next, asks, after⟩
      exact ⟨request, ⟨key, visit.job, next, arrived, asks⟩, after⟩

theorem accounted_run {store : Store} {moves : List Move} (ran : run moves (start store) = some system) :
    Accounted moves system :=
  run_keep Accounted (accounted_start store) (fun _ _ _ _ _ _ _ moved accounted => accounted.move moved) ran

theorem rounding_run {store : Store} {moves : List Move} (ran : run moves (start store) = some system) :
    system.shared.store.rounding = store.rounding := by
  rw [Store.rounding_eq, Store.rounding_eq, medium_run ran]

def ledger (system : System) : Ledger := system.shared.store.ledger

theorem Sane.ledger_move (sane : Sane done system) (accounted : Accounted done system) {move : Move}
    (moved : system.move move = some next) :
    next.ledger = system.ledger ∨ ∃ request, Requested done request ∧
      next.ledger = (system.ledger.answer system.shared.store.rounding request).2 := by
  rcases accounted.store_move moved with same | ⟨request, requested, after⟩
  · exact .inl (congrArg Store.ledger same)
  · rw [ledger, after]
    exact (sane.peaceful.ledger_after request).imp_right fun answered => ⟨request, requested, answered⟩

theorem run_keep_sane {store : Store} (fresh : store.IsFresh) {moves : List Move}
    (few : store = .memory .empty → moves.countP Move.startsInsert < 2 ^ 64 - 1)
    (holds : List Move → System → Prop) (initial : holds [] (start store))
    (keep : ∀ done move system next, run done (start store) = some system → Sane done system →
      system.move move = some next → holds done system → holds (done ++ [move]) next)
    (ran : run moves (start store) = some system) : holds moves system := by
  refine run_keep holds initial ?_ ran
  intro done move rest system next whole came moved held
  rw [whole] at few
  exact keep done move system next came (sane_run fresh (few_left few) came) moved held

end System
end Datebook
