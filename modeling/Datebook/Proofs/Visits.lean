import Datebook.FinMap
import Datebook.Proofs.Steps
import Datebook.Service

/-!
Calls of one service that are under way at once, beside the purges and marks of the background
loops. Each step is taken by one caller or by the task of one request, in any order. A caller that
gives up drops its request first and lets go of the write gate afterwards; the task of the request
goes on without it.
-/

set_option autoImplicit false

namespace Datebook

open Store (Request)

inductive Job where
  | call (call : Service.Call)
  | purge (cutoff : Instant)
  | markNotified (id : EventId)
  deriving DecidableEq

namespace Procedure

variable {α : Type}

def asks : Procedure α → Bool
  | done _ => false
  | ask _ _ => true

def resume {request : Request} (next : request.Answer → Procedure α) : request.Result → Procedure α
  | .error error => done (.error (.ofStore error))
  | .ok answer => next answer

theorem run_direct (request : Request) (next : request.Answer → Procedure α) (store : Store) :
    (ask request next).run Service.serve (.direct store) =
      (resume next (store.answer request).1).run Service.serve (.direct (store.answer request).2) := by
  have served : Service.serve request (.direct store) =
      ((store.answer request).1.mapError .ofStore, .direct (store.answer request).2) := rfl
  simp only [run, served]
  cases (store.answer request).1 <;> rfl

theorem run_single (request : Request) (store : Store) : (single request).run Service.serve (.direct store) =
    ((store.answer request).1.mapError .ofStore, .direct (store.answer request).2) := by
  change (ask request _).run Service.serve (.direct store) = _
  rw [run_direct]
  cases (store.answer request).1 <;> rfl

end Procedure

namespace Job

@[reducible] def Answer : Job → Type
  | call wanted => wanted.Answer
  | purge _ => Nat
  | markNotified _ => Unit

def procedure : (job : Job) → Procedure job.Answer
  | call wanted => wanted.procedure
  | purge cutoff => Procedure.single (.purge cutoff)
  | markNotified id => Procedure.single (.markNotified id)

def isGated : Job → Bool
  | call wanted => wanted.isGated
  | _ => false

def needsGate (job : Job) : Bool :=
  -- A draft that breaks a rule is refused before the gate is asked for.
  job.isGated && job.procedure.asks

def isInsert : Job → Bool
  | call (.insert _) => true
  | _ => false

end Job

inductive Stage (α : Type) where
  | waiting
  | ready (request : Request) (next : request.Answer → Procedure α)
  | asking (request : Request) (task : StoreTask request) (next : request.Answer → Procedure α)
  /-- Is about to let go of the gate. A caller that was dropped gets no result. -/
  | leaving (result : Option (Except ServiceError α))
  | ended (result : Option (Except ServiceError α)) (time : Nat)

def Procedure.stage {α : Type} : Procedure α → Stage α
  | done result => .leaving (some result)
  | ask request next => .ready request next

structure Errand where
  request : Request
  task : StoreTask request

structure Visit where
  job : Job
  since : Nat
  stage : Stage job.Answer
  orphan : Option Errand

structure Shared where
  store : Store
  gate : Option Nat
  connection : Option Nat

namespace StoreTask

variable {request : Request}

def isBusy (task : StoreTask request) : Bool :=
  match task.phase with
  | .queued | .finished _ => false
  | .holding | .executed _ _ | .cleared _ _ => true

def canStep (task : StoreTask request) (shared : Shared) : Bool :=
  match task.phase with
  | .queued => shared.connection.isNone
  | .finished _ => false
  | .holding | .executed _ _ | .cleared _ _ => true

def work (task : StoreTask request) (key : Nat) (shared : Shared) : Option (StoreTask request × Shared) :=
  match shared.store with
  | .memory _ => none
  | .database database =>
      if task.canStep shared then
        let (task, database) := task.step database
        -- The connection is given back in the same step as the result.
        some (task, { shared with
          store := .database database
          connection := if task.isBusy then some key else none })
      else none

end StoreTask

inductive Action where
  | enter
  | send
  | work
  | receive
  | timeOut
  | drop
  | leave
  deriving DecidableEq

namespace Visit

def proceed (visit : Visit) (rest : Procedure visit.job.Answer) : Visit := { visit with stage := rest.stage }

def enter (visit : Visit) (key : Nat) (shared : Shared) : Option (Visit × Shared) :=
  match visit.stage with
  | .waiting =>
      if visit.job.needsGate then
        if shared.gate.isNone then
          some (visit.proceed visit.job.procedure, { shared with gate := some key })
        else none
      else some (visit.proceed visit.job.procedure, shared)
  | _ => none

def send (visit : Visit) (shared : Shared) : Option (Visit × Shared) :=
  match visit.stage with
  | .ready request next =>
      match shared.store with
      | .memory memory =>
          let (result, memory) := memory.answer request
          some (visit.proceed (.resume next result), { shared with store := .memory memory })
      | .database _ =>
          match StoreTask.start request with
          | .error error => some (visit.proceed (.resume next (.error error)), shared)
          | .ok task => some ({ visit with stage := .asking request task next }, shared)
  | _ => none

def work (visit : Visit) (key : Nat) (shared : Shared) : Option (Visit × Shared) :=
  match visit.stage with
  | .asking request task next =>
      (task.work key shared).map fun (task, shared) => ({ visit with stage := .asking request task next }, shared)
  | _ =>
      match visit.orphan with
      | none => none
      | some ⟨request, task⟩ =>
          (task.work key shared).map fun (task, shared) => ({ visit with orphan := some ⟨request, task⟩ }, shared)

def receive (visit : Visit) (shared : Shared) : Option (Visit × Shared) :=
  match visit.stage with
  | .asking _ task next =>
      match task.phase with
      | .finished (some result) => some (visit.proceed (.resume next result), shared)
      | _ => none
  | _ => none

def giveUp (visit : Visit) (result : Option (Except ServiceError visit.job.Answer)) (shared : Shared) :
    Option (Visit × Shared) :=
  match visit.stage with
  | .waiting | .ready _ _ => some ({ visit with stage := .leaving result }, shared)
  | .asking request task _ =>
      -- The request is dropped first; the gate is kept until `leave`.
      some ({ visit with stage := .leaving result, orphan := some ⟨request, task.giveUp⟩ }, shared)
  | .leaving _ | .ended _ _ => none

def timeOut (visit : Visit) (shared : Shared) : Option (Visit × Shared) :=
  match visit.stage with
  -- Nobody is held to a deadline while waiting for the gate.
  | .waiting => none
  | _ => visit.giveUp (some (.error .timedOut)) shared

def leave (visit : Visit) (key time : Nat) (shared : Shared) : Option (Visit × Shared) :=
  match visit.stage with
  | .leaving result =>
      some ({ visit with stage := .ended result time },
        { shared with gate := if shared.gate = some key then none else shared.gate })
  | _ => none

def act (visit : Visit) (key time : Nat) (shared : Shared) : Action → Option (Visit × Shared)
  | .enter => visit.enter key shared
  | .send => visit.send shared
  | .work => visit.work key shared
  | .receive => visit.receive shared
  | .timeOut => visit.timeOut shared
  | .drop => visit.giveUp none shared
  | .leave => visit.leave key time shared

def isSettled (visit : Visit) : Bool :=
  match visit.stage with
  | .leaving _ | .ended _ _ => true
  | .waiting | .ready _ _ | .asking _ _ _ => false

variable {visit visit' : Visit} {key time : Nat} {shared shared' : Shared} {action : Action}

theorem act_kept (acted : visit.act key time shared action = some (visit', shared')) :
    visit'.job = visit.job ∧ visit'.since = visit.since ∧ (visit.isSettled = true → visit'.isSettled = true) := by
  obtain ⟨job, since, stage, orphan⟩ := visit
  cases action with
  | enter | send | receive | timeOut | drop =>
      simp only [act, enter, send, receive, timeOut, giveUp] at acted
      cases stage with
      | waiting | ready request next | asking request task next =>
          repeat' split at acted
          all_goals cases acted
          all_goals exact ⟨rfl, rfl, fun settled => by cases settled⟩
      | leaving result | ended result finished => cases acted
  | leave =>
      cases stage with
      | waiting | ready request next | asking request task next | ended result finished => cases acted
      | leaving result =>
          cases acted
          exact ⟨rfl, rfl, id⟩
  | work =>
      simp only [act, work] at acted
      cases stage with
      | waiting | ready request next | leaving result | ended result finished =>
          cases orphan with
          | none => cases acted
          | some errand =>
              obtain ⟨_, -, same⟩ := Option.map_eq_some_iff.mp acted
              cases same
              exact ⟨rfl, rfl, id⟩
      | asking request task next =>
          obtain ⟨_, -, same⟩ := Option.map_eq_some_iff.mp acted
          cases same
          exact ⟨rfl, rfl, id⟩

end Visit

inductive Move where
  | arrive (key : Nat) (job : Job)
  | act (key : Nat) (action : Action)
  deriving DecidableEq

structure System where
  shared : Shared
  visits : FinMap Nat Visit
  clock : Nat

namespace System

def start (store : Store) : System := ⟨⟨store, none, none⟩, .empty, 0⟩

def move (system : System) : Move → Option System
  | .arrive key job =>
      match system.visits.get? key with
      | some _ => none
      | none =>
          some { system with
            visits := system.visits.put key ⟨job, system.clock, .waiting, none⟩
            clock := system.clock + 1 }
  | .act key action =>
      match system.visits.get? key with
      | none => none
      | some visit =>
          (visit.act key system.clock system.shared action).map fun (visit, shared) =>
            ⟨shared, system.visits.put key visit, system.clock + 1⟩

def run : List Move → System → Option System
  | [], system => some system
  | move :: rest, system => (system.move move).bind (run rest)

variable {system next : System}

theorem run_eq_steps {moves : List Move} : run moves system = Steps.run System.move moves system := by
  induction moves generalizing system with
  | nil => rfl
  | cons move rest ih => exact Option.bind_congr fun next _ => ih

theorem run_append {done rest : List Move} {middle : System} (came : run done system = some middle) :
    run (done ++ rest) system = run rest middle := by
  rw [run_eq_steps] at came ⊢
  rw [run_eq_steps, Steps.run_append, came, Option.bind_some]

theorem move_arrive {key : Nat} {job : Job} (moved : system.move (.arrive key job) = some next) :
    system.visits.get? key = none ∧
      next = ⟨system.shared, system.visits.put key ⟨job, system.clock, .waiting, none⟩, system.clock + 1⟩ := by
  simp only [move] at moved
  split at moved
  · cases moved
  · next absent =>
    cases moved
    exact ⟨absent, rfl⟩

theorem move_act {key : Nat} {action : Action} (moved : system.move (.act key action) = some next) :
    ∃ visit visit' shared, system.visits.get? key = some visit ∧
      visit.act key system.clock system.shared action = some (visit', shared) ∧
      next = ⟨shared, system.visits.put key visit', system.clock + 1⟩ := by
  simp only [move] at moved
  split at moved
  · cases moved
  · next visit found =>
    obtain ⟨⟨visit', shared⟩, acted, rfl⟩ := Option.map_eq_some_iff.mp moved
    exact ⟨visit, visit', shared, found, acted, rfl⟩

theorem run_keep {moves : List Move} {start : System} (holds : List Move → System → Prop) (initial : holds [] start)
    (keep : ∀ done move rest system next, moves = done ++ move :: rest → run done start = some system →
      system.move move = some next → holds done system → holds (done ++ [move]) next)
    (ran : run moves start = some system) : holds moves system := by
  rw [run_eq_steps] at ran
  refine Steps.run_keep holds initial ?_ ran
  intro done move rest middle next whole came moved
  exact keep done move rest middle next whole (run_eq_steps.trans came) moved

end System
end Datebook
