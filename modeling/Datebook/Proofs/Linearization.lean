import Mathlib.Data.List.Nodup
import Datebook.Proofs.WriteGate

set_option autoImplicit false

namespace Datebook

open Store (Request)

structure Job.Outcome where
  job : Job
  result : Except ServiceError job.Answer

def oneByOne : List Job → StoreLink → List Job.Outcome × StoreLink
  | [], link => ([], link)
  | job :: rest, link =>
      let (result, link) := job.procedure.run Service.serve link
      let (others, link) := oneByOne rest link
      (⟨job, result⟩ :: others, link)

theorem oneByOne_append (first second : List Job) (link : StoreLink) :
    oneByOne (first ++ second) link =
      ((oneByOne first link).1 ++ (oneByOne second (oneByOne first link).2).1,
        (oneByOne second (oneByOne first link).2).2) := by
  induction first generalizing link with
  | nil => rfl
  | cons job rest ih => simp only [List.cons_append, oneByOne, ih]

structure Turn where
  time : Nat
  key : Nat
  outcome : Job.Outcome

def Action.isPatient : Action → Bool
  | .timeOut | .drop => false
  | .enter | .send | .work | .receive | .leave => true

def Move.isPatient : Move → Bool
  | arrive _ _ => true
  | act _ action => action.isPatient

theorem Procedure.run_ask {α : Type} (request : Request) (next : request.Answer → Procedure α)
    (memory : MemoryStore) :
    (ask request next).run Service.serve (.direct (.memory memory)) =
      (resume next (memory.answer request).1).run Service.serve (.direct (.memory (memory.answer request).2)) :=
  run_direct request next (.memory memory)

namespace Visit

variable {visit visit' : Visit} {key time : Nat} {shared shared' : Shared} {memory : MemoryStore}

def Took (visit : Visit) (turn : Turn) : Prop :=
  visit.since < turn.time ∧ ∃ result, turn.outcome = ⟨visit.job, result⟩ ∧
    (visit.stage = .leaving (some result) ∨ ∃ finish, turn.time < finish ∧ visit.stage = .ended (some result) finish)

theorem Took.isSettled {turn : Turn} (took : visit.Took turn) : visit.isSettled = true := by
  obtain ⟨-, result, -, leaving | ⟨finish, -, ended⟩⟩ := took
  · simp [Visit.isSettled, leaving]
  · simp [Visit.isSettled, ended]

theorem run_procedure {job : Job} {request : Request} {next : request.Answer → Procedure job.Answer}
    (asks : job.Asks request next)
    (free : ∀ slot, request.slot? = some slot → (memory.answer slot.check).1 = .ok ()) :
    job.procedure.run Service.serve (.direct (.memory memory)) =
      (Procedure.resume next (memory.answer request).1).run Service.serve
        (.direct (.memory (memory.answer request).2)) := by
  -- A check made earlier would come out the same now, as its slot is free again or still.
  cases asks with
  | first starts => rw [starts, Procedure.run_ask]
  | @second slot _ _ isGated takes ends starts =>
      rw [starts, Procedure.run_ask, free slot takes, memory.answer_check slot]
      exact Procedure.run_ask request next memory

inductive Advances (time : Nat) (visit visit' : Visit) (before after : MemoryStore) : Prop where
  | goesOn (asks : visit.isSettled = false) (stillAsks : visit'.isSettled = false) (same : after = before)
  | takesTurn (result : Except ServiceError visit.job.Answer) (asks : visit.isSettled = false)
      (leaves : visit' = { visit with stage := .leaving (some result) })
      (alone : visit.job.procedure.run Service.serve (.direct (.memory before)) = (result, .direct (.memory after)))
  | ends (result : Option (Except ServiceError visit.job.Answer)) (leaves : visit.stage = .leaving result)
      (ended : visit' = { visit with stage := .ended result time }) (same : after = before)

theorem Advances.resume {job : Job} {since : Nat} {orphan : Option Errand} {request : Request}
    {next : request.Answer → Procedure job.Answer} (asks : job.Asks request next)
    (free : ∀ slot, request.slot? = some slot → (memory.answer slot.check).1 = .ok ()) :
    Advances time ⟨job, since, .ready request next, orphan⟩
      ⟨job, since, (Procedure.resume next (memory.answer request).1).stage, orphan⟩ memory
      (memory.answer request).2 := by
  have alone := run_procedure asks free
  cases rest : Procedure.resume next (memory.answer request).1 with
  | done result =>
      rw [rest] at alone
      exact .takesTurn result rfl rfl alone
  | ask write further =>
      -- Only a check is followed by another request.
      refine .goesOn rfl rfl ?_
      cases answered : (memory.answer request).1 with
      | error error => simp [answered, Procedure.resume] at rest
      | ok answer =>
          rw [answered, Procedure.resume] at rest
          rcases asks.goesOn answer with ⟨result, done⟩ | ⟨slot, _, _, checks, -⟩
          · rw [rest] at done
            cases done
          · obtain rfl := Request.eq_check checks
            exact memory.answer_check slot

theorem Orderly.advance {action : Action} (orderly : visit.Orderly key shared)
    (inMemory : shared.store = .memory memory)
    (free : ∀ slot, visit.claim? = some slot → shared.store.IsFree slot) (patient : action.isPatient = true)
    (acted : visit.act key time shared action = some (visit', shared')) :
    ∃ after, shared'.store = .memory after ∧ Advances time visit visit' memory after := by
  obtain ⟨store, gate, connection⟩ := shared
  obtain rfl : store = .memory memory := inMemory
  cases action with
  | timeOut | drop => cases patient
  | enter =>
      cases orderly with
      | ready | asking | leaving | ended => cases acted
      | @waiting job since =>
          have advances : Advances time ⟨job, since, .waiting, none⟩ ⟨job, since, job.procedure.stage, none⟩
              memory memory := by
            -- A draft that breaks a rule has its turn at once, whatever the store holds.
            cases plan : job.procedure with
            | done result =>
                refine .takesTurn result rfl rfl ?_
                rw [plan]
                rfl
            | ask request next => exact .goesOn rfl rfl rfl
          simp only [Visit.act, Visit.enter, proceed] at acted
          split at acted
          · split at acted
            · cases acted
              exact ⟨memory, rfl, advances⟩
            · cases acted
          · cases acted
            exact ⟨memory, rfl, advances⟩
  | send =>
      cases orderly with
      | waiting | asking | leaving | ended => cases acted
      | ready asks =>
          rw [Visit.act, send_memory] at acted
          cases acted
          exact ⟨_, rfl, .resume asks free⟩
  | work =>
      simp only [Visit.act, Visit.work, StoreTask.work] at acted
      repeat' split at acted
      all_goals cases acted
  | receive =>
      cases orderly with
      | waiting | ready | leaving | ended => cases acted
      | asking _ _ tabled => cases tabled
  | leave =>
      cases orderly with
      | waiting | ready | asking | ended => cases acted
      | leaving =>
          cases acted
          exact ⟨memory, rfl, .ends _ rfl rfl rfl⟩

end Visit

namespace System

/-- The turns make up a run of one job after another, which nobody could tell from the run of the
system so far. -/
structure Linearized (start : MemoryStore) (system : System) (turns : List Turn) : Prop where
  ordered : turns.Pairwise fun earlier later => earlier.time < later.time
  once : (turns.map Turn.key).Nodup
  taken : ∀ turn ∈ turns, ∃ visit, system.visits.get? turn.key = some visit ∧ visit.Took turn
  settled : ∀ key visit, system.visits.get? key = some visit → visit.isSettled = true →
    key ∈ turns.map Turn.key
  replayed : oneByOne (turns.map fun turn => turn.outcome.job) (.direct (.memory start)) =
    (turns.map Turn.outcome, .direct system.shared.store)

structure Stamped (system : System) (turns : List Turn) : Prop where
  turns : ∀ turn ∈ turns, turn.time < system.clock
  visits : ∀ key visit, system.visits.get? key = some visit → visit.since < system.clock

variable {system next : System} {memory : MemoryStore} {turns : List Turn}

theorem Linearized.arrive (linearized : Linearized memory system turns) {key : Nat} {job : Job}
    (moved : system.move (.arrive key job) = some next) : Linearized memory next turns := by
  obtain ⟨absent, rfl⟩ := move_arrive moved
  refine ⟨linearized.ordered, linearized.once, ?_, ?_, linearized.replayed⟩
  · intro turn member
    obtain ⟨visit, found, took⟩ := linearized.taken turn member
    refine ⟨visit, ?_, took⟩
    rw [FinMap.get?_put_of_ne, found]
    intro same
    rw [same, absent] at found
    cases found
  · intro other visit found settled
    rcases FinMap.get?_put_eq_some_iff.mp found with ⟨-, rfl⟩ | ⟨-, old⟩
    · cases settled
    · exact linearized.settled other visit old settled

theorem Linearized.not_mem (linearized : Linearized memory system turns) {key : Nat} {visit : Visit}
    (found : system.visits.get? key = some visit) (asks : visit.isSettled = false) :
    key ∉ turns.map Turn.key := by
  intro member
  obtain ⟨turn, inTurns, rfl⟩ := List.mem_map.mp member
  obtain ⟨other, isThere, took⟩ := linearized.taken turn inTurns
  rw [found] at isThere
  cases isThere
  rw [took.isSettled] at asks
  cases asks

section Act

variable {key : Nat} {visit visit' : Visit} {shared : Shared} {before after : MemoryStore}

theorem Linearized.goesOn (linearized : Linearized memory system turns)
    (found : system.visits.get? key = some visit) (asks : visit.isSettled = false)
    (stillAsks : visit'.isSettled = false) (same : shared.store = system.shared.store) :
    Linearized memory ⟨shared, system.visits.put key visit', system.clock + 1⟩ turns := by
  refine ⟨linearized.ordered, linearized.once, ?_, ?_, ?_⟩
  · intro turn member
    obtain ⟨other, isThere, took⟩ := linearized.taken turn member
    refine ⟨other, ?_, took⟩
    rw [FinMap.get?_put_of_ne, isThere]
    rintro rfl
    exact linearized.not_mem found asks (List.mem_map_of_mem member)
  · intro other old isThere settled
    rcases FinMap.get?_put_eq_some_iff.mp isThere with ⟨-, rfl⟩ | ⟨-, isOld⟩
    · rw [stillAsks] at settled
      cases settled
    · exact linearized.settled other old isOld settled
  · rw [same]
    exact linearized.replayed

theorem Linearized.takesTurn (linearized : Linearized memory system turns) (stamped : Stamped system turns)
    (found : system.visits.get? key = some visit) (asks : visit.isSettled = false)
    (inMemory : system.shared.store = .memory before) (inMemory' : shared.store = .memory after)
    {result : Except ServiceError visit.job.Answer}
    (alone : visit.job.procedure.run Service.serve (.direct (.memory before)) = (result, .direct (.memory after))) :
    Linearized memory
      ⟨shared, system.visits.put key { visit with stage := .leaving (some result) }, system.clock + 1⟩
      (turns ++ [⟨system.clock, key, ⟨visit.job, result⟩⟩]) := by
  have new := linearized.not_mem found asks
  refine ⟨?_, ?_, ?_, ?_, ?_⟩
  · refine List.pairwise_append.mpr ⟨linearized.ordered, List.pairwise_singleton _ _, ?_⟩
    intro turn member last isLast
    rw [List.mem_singleton.mp isLast]
    exact stamped.turns turn member
  · rw [List.map_append, List.map_singleton, List.nodup_append]
    refine ⟨linearized.once, List.nodup_singleton key, ?_⟩
    rintro other member last isLast rfl
    obtain rfl := List.mem_singleton.mp isLast
    exact new member
  · intro turn member
    rcases List.mem_append.mp member with old | last
    · obtain ⟨other, isThere, took⟩ := linearized.taken turn old
      refine ⟨other, ?_, took⟩
      rw [FinMap.get?_put_of_ne, isThere]
      rintro rfl
      exact new (List.mem_map_of_mem old)
    · obtain rfl := List.mem_singleton.mp last
      refine ⟨{ visit with stage := .leaving (some result) }, ?_, ?_, result, rfl, .inl rfl⟩
      · exact FinMap.get?_put_self ..
      · exact stamped.visits key visit found
  · intro other old isThere settled
    rw [List.map_append, List.mem_append]
    rcases FinMap.get?_put_eq_some_iff.mp isThere with ⟨rfl, -⟩ | ⟨-, isOld⟩
    · exact .inr (List.mem_singleton_self _)
    · exact .inl (linearized.settled other old isOld settled)
  · have replayed := linearized.replayed
    rw [inMemory] at replayed
    rw [List.map_append, oneByOne_append, replayed]
    simp [oneByOne, alone, inMemory']

theorem Linearized.ends (linearized : Linearized memory system turns) (stamped : Stamped system turns)
    (found : system.visits.get? key = some visit) {result : Option (Except ServiceError visit.job.Answer)}
    (leaves : visit.stage = .leaving result) (same : shared.store = system.shared.store) :
    Linearized memory
      ⟨shared, system.visits.put key { visit with stage := .ended result system.clock }, system.clock + 1⟩ turns := by
  refine ⟨linearized.ordered, linearized.once, ?_, ?_, ?_⟩
  · intro turn member
    obtain ⟨other, isThere, took⟩ := linearized.taken turn member
    by_cases isKey : turn.key = key
    · rw [isKey, found] at isThere
      cases isThere
      obtain ⟨since, outcome, sameOutcome, leaving | ⟨finish, -, ended⟩⟩ := took
      · -- The turn was taken before now, and now is when the visit ends.
        rw [leaves] at leaving
        cases leaving
        refine ⟨{ visit with stage := .ended (some outcome) system.clock }, ?_, since, outcome, sameOutcome, ?_⟩
        · rw [isKey, FinMap.get?_put_self]
        · exact .inr ⟨system.clock, stamped.turns turn member, rfl⟩
      · rw [leaves] at ended
        cases ended
    · exact ⟨other, by rw [FinMap.get?_put_of_ne _ isKey, isThere], took⟩
  · intro other old isThere settled
    rcases FinMap.get?_put_eq_some_iff.mp isThere with ⟨rfl, -⟩ | ⟨-, isOld⟩
    · apply linearized.settled other visit found
      simp [Visit.isSettled, leaves]
    · exact linearized.settled other old isOld settled
  · rw [same]
    exact linearized.replayed

end Act

theorem Stamped.arrive (stamped : Stamped system turns) {key : Nat} {job : Job}
    (moved : system.move (.arrive key job) = some next) : Stamped next turns := by
  obtain ⟨-, rfl⟩ := move_arrive moved
  refine ⟨fun turn member => Nat.lt_succ_of_lt (stamped.turns turn member), ?_⟩
  intro other visit found
  rcases FinMap.get?_put_eq_some_iff.mp found with ⟨-, rfl⟩ | ⟨-, isOld⟩
  · exact Nat.lt_succ_self _
  · exact Nat.lt_succ_of_lt (stamped.visits other visit isOld)

theorem Stamped.act (stamped : Stamped system turns) {key : Nat} {action : Action}
    (moved : system.move (.act key action) = some next) : Stamped next turns := by
  obtain ⟨visit, visit', shared', isThere, acted, rfl⟩ := move_act moved
  refine ⟨fun turn member => Nat.lt_succ_of_lt (stamped.turns turn member), ?_⟩
  intro other old found
  rcases FinMap.get?_put_eq_some_iff.mp found with ⟨-, rfl⟩ | ⟨-, isOld⟩
  · rw [(Visit.act_kept acted).2.1]
    exact Nat.lt_succ_of_lt (stamped.visits key visit isThere)
  · exact Nat.lt_succ_of_lt (stamped.visits other old isOld)

structure Linear (start : MemoryStore) (system : System) : Prop where
  orderly : system.Orderly
  inMemory : ∃ memory, system.shared.store = .memory memory
  turns : ∃ turns, Linearized start system turns ∧ Stamped system turns

theorem Linear.move {move : Move} (linear : Linear memory system) (patient : move.isPatient = true)
    (moved : system.move move = some next) : Linear memory next := by
  have orderly := linear.orderly.move moved
  obtain ⟨before, inMemory⟩ := linear.inMemory
  obtain ⟨turns, linearized, stamped⟩ := linear.turns
  cases move with
  | arrive key job =>
      refine ⟨orderly, ?_, turns, linearized.arrive moved, stamped.arrive moved⟩
      obtain ⟨-, rfl⟩ := move_arrive moved
      exact linear.inMemory
  | act key action =>
      have stamped' := stamped.act moved
      obtain ⟨visit, visit', shared', isThere, acted, rfl⟩ := move_act moved
      obtain ⟨after, inMemory', advances⟩ := (linear.orderly.visits key visit isThere).advance inMemory
        (linear.orderly.free key visit isThere) patient acted
      refine ⟨orderly, ⟨after, inMemory'⟩, ?_⟩
      cases advances with
      | goesOn asks stillAsks same =>
          exact ⟨turns, linearized.goesOn isThere asks stillAsks (by rw [inMemory', inMemory, same]), stamped'⟩
      | takesTurn result asks leaves alone =>
          subst leaves
          refine ⟨_, linearized.takesTurn stamped isThere asks inMemory inMemory' alone, ?_, stamped'.visits⟩
          intro turn member
          rcases List.mem_append.mp member with old | last
          · exact stamped'.turns turn old
          · obtain rfl := List.mem_singleton.mp last
            exact Nat.lt_succ_self _
      | ends result leaves ended same =>
          subst ended
          exact ⟨turns, linearized.ends stamped isThere leaves (by rw [inMemory', inMemory, same]), stamped'⟩

theorem linear_start (memory : MemoryStore) : Linear memory (start (.memory memory)) where
  orderly := orderly_start _
  inMemory := ⟨memory, rfl⟩
  turns := by
    refine ⟨[], ⟨.nil, List.nodup_nil, ?_, ?_, rfl⟩, ?_, ?_⟩
    · exact fun turn member => by cases member
    · exact fun key visit found => by cases found
    · exact fun turn member => by cases member
    · exact fun key visit found => by cases found

theorem linearizable_of_run {moves : List Move} (patient : ∀ move ∈ moves, move.isPatient = true)
    (ran : run moves (start (.memory memory)) = some system) : ∃ turns, Linearized memory system turns := by
  have linear : Linear memory system := by
    refine run_keep (fun _ system => Linear memory system) (linear_start memory) ?_ ran
    intro done move rest system next whole _ moved linear
    exact linear.move (patient move (by simp [whole])) moved
  obtain ⟨turns, linearized, -⟩ := linear.turns
  exact ⟨turns, linearized⟩

-- A purge comes between the check of an insert and its write, and another insert waits meanwhile.
theorem linearizable_of_purge_between :
    let draft : Draft := ⟨0, 7, "", "", some NanoCount.least.toInstant, some NanoCount.greatest.toInstant, none⟩
    let moves : List Move := [.arrive 0 (.call (.insert draft)), .arrive 1 (.call (.insert draft)), .act 0 .enter,
      .act 0 .send, .arrive 2 (.purge NanoCount.greatest.toInstant), .act 2 .enter, .act 2 .send, .act 0 .send,
      .act 2 .leave, .act 0 .leave, .act 1 .enter, .act 1 .send, .act 1 .leave]
    (∀ move ∈ moves, move.isPatient = true) ∧
      ∃ system, run moves (start (.memory .empty)) = some system ∧ ∃ turns, Linearized .empty system turns := by
  intro draft moves
  have finishes : (run moves (start (.memory .empty))).isSome := by decide
  obtain ⟨system, ran⟩ := Option.isSome_iff_exists.mp finishes
  exact ⟨by decide, system, ran, linearizable_of_run (by decide) ran⟩

end System
end Datebook
