import Datebook.Proofs.StoreChanges

set_option autoImplicit false

namespace Datebook

open Store (Request)

namespace Ledger

/-- Ids are only given upwards, so an event under an old id was there all the time. -/
structure Becomes (before after : Ledger) : Prop where
  nextId : before.nextId.toNat ≤ after.nextId.toNat
  events : ∀ event ∈ after.events, event.id.toNat < before.nextId.toNat →
    ∃ old ∈ before.events, old.id = event.id ∧ (old.notified = true → event.notified = true)

theorem Becomes.refl (ledger : Ledger) : ledger.Becomes ledger :=
  ⟨Nat.le_refl _, fun event member _ => ⟨event, member, rfl, id⟩⟩

theorem Becomes.trans {first second third : Ledger} (left : first.Becomes second) (right : second.Becomes third) :
    first.Becomes third := by
  refine ⟨Nat.le_trans left.nextId right.nextId, ?_⟩
  intro event member given
  obtain ⟨middle, inSecond, sameMiddle, stays⟩ := right.events event member (Nat.lt_of_lt_of_le given left.nextId)
  obtain ⟨old, inFirst, sameOld, stays'⟩ := left.events middle inSecond (by rwa [sameMiddle])
  exact ⟨old, inFirst, sameOld.trans sameMiddle, fun notified => stays (stays' notified)⟩

variable {ledger : Ledger} {round : Instant → Instant} {request : Request}

theorem becomes_answer (sound : (ledger.answer round request).2.Sound) :
    ledger.Becomes (ledger.answer round request).2 := by
  refine ⟨?_, ?_⟩
  · cases request with
    | insert event =>
        -- The new event has the id that was next, which is sound only if a greater one is next now.
        have given := (sound.assigned (event.stored round ledger.nextId false) (by simp [answer])).2
        exact Nat.le_of_lt given
    | _ =>
        rw [nextId_answer]
        exact Nat.le_refl _
  · intro event member given
    cases origin_of_mem_answer member with
    | kept isOld => exact ⟨event, isOld, rfl, id⟩
    | inserted new => exact absurd given (Nat.lt_irrefl _)
    | updated isOld same => exact ⟨_, isOld, rfl, id⟩
    | marked isOld => exact ⟨_, isOld, rfl, fun _ => rfl⟩

theorem notified_answer {event : Event} (member : event ∈ (ledger.answer round request).2.events)
    (notified : event.notified = true) :
    (∃ old ∈ ledger.events, old.id = event.id ∧ old.notified = true) ∨ request = .markNotified event.id := by
  cases origin_of_mem_answer member with
  | kept isOld => exact .inl ⟨event, isOld, rfl, notified⟩
  | inserted new => cases notified
  | updated isOld same => exact .inl ⟨_, isOld, rfl, notified⟩
  | marked isOld => exact .inr rfl

end Ledger

theorem Job.Asks.eq_markNotified {job : Job} {id : EventId} {next : Unit → Procedure job.Answer}
    (asks : job.Asks (.markNotified id) next) : job = .markNotified id := by
  cases asks with
  | second isGated takes => cases takes
  | first starts =>
      cases job with
      | purge cutoff => cases starts
      | markNotified other =>
          cases starts
          rfl
      | call call =>
          cases call with
          | delete other => cases starts
          | insert draft | update draft | lookup other | list userId | listPeriod kind userId date =>
              simp only [procedure, Service.Call.procedure, Service.insert, Service.update, Service.lookup,
                Service.list, Service.listPeriod, Procedure.single] at starts
              repeat' split at starts
              all_goals cases starts

namespace System

variable {system next : System} {done : List Move} {move : Move}

theorem Sane.becomes_move (sane : Sane done system) (accounted : Accounted done system)
    (moved : system.move move = some next) (sane' : Sane (done ++ [move]) next) :
    system.ledger.Becomes next.ledger := by
  have sound : next.ledger.Sound := sane'.peaceful.sound
  rcases sane.ledger_move accounted moved with same | ⟨request, -, answered⟩
  · rw [same]
    exact .refl _
  · rw [answered] at sound ⊢
    exact Ledger.becomes_answer sound

theorem becomes_of_run {store : Store} {rest : List Move} {earlier : System} (fresh : store.IsFresh)
    (few : store = .memory .empty → (done ++ rest).countP Move.startsInsert < 2 ^ 64 - 1)
    (came : run done (start store) = some earlier) (ran : run rest earlier = some system) :
    earlier.ledger.Becomes system.ledger := by
  -- The steps count from the middle of a run, but what is known of a store counts from its start.
  refine run_keep (fun _ later => earlier.ledger.Becomes later.ledger) (.refl _) ?_ ran
  intro past move others middle later whole reached moved becomes
  have came' : run (done ++ past) (start store) = some middle := (run_append came).trans reached
  have came'' : run (done ++ past ++ [move]) (start store) = some later := by
    rw [run_append came', run, moved]
    rfl
  have few' (inMemory : store = .memory .empty) :
      ((done ++ past ++ [move]) ++ others).countP Move.startsInsert < 2 ^ 64 - 1 := by
    simpa [whole] using few inMemory
  have sane := sane_run fresh (few_left (few_left few')) came'
  have sane' := sane_run fresh (few_left few') came''
  exact becomes.trans (sane.becomes_move (accounted_run came') moved sane')

theorem Sane.notified_move (sane : Sane done system) (accounted : Accounted done system)
    (moved : system.move move = some next) {event : Event} (member : event ∈ next.ledger.events)
    (notified : event.notified = true) :
    (∃ old ∈ system.ledger.events, old.id = event.id ∧ old.notified = true) ∨
      ∃ key, Move.arrive key (.markNotified event.id) ∈ done := by
  rcases sane.ledger_move accounted moved with same | ⟨request, ⟨key, job, rest, arrived, asks⟩, answered⟩
  · exact .inl ⟨event, same ▸ member, rfl, notified⟩
  · rw [answered] at member
    refine (Ledger.notified_answer member notified).imp_right ?_
    rintro rfl
    rw [asks.eq_markNotified] at arrived
    exact ⟨key, arrived⟩

end System
end Datebook
