import Datebook.Store.Database

/-!
Requests on their way through a database. Each has a task of its own, which takes the connection,
executes the request and gives the connection back, whether or not the caller still waits. Inserts,
updates and marks run in a transaction, which is committed only if a caller was found waiting after
the request was executed; all others take effect as they are executed.
Main statements: a task whose caller waits does what the database answers, and a transaction whose
caller gave up before it began changes nothing.
-/

set_option autoImplicit false

namespace Datebook

def Store.Request.isTransaction : Store.Request → Bool
  | insert _ | update _ | markNotified _ => true
  | _ => false

inductive TaskPhase (request : Store.Request) where
  | queued
  | holding
  /-- Has executed the request in a transaction that would leave the database with `table`. -/
  | executed (answer : request.Answer) (table : Table)
  /-- Has found the caller waiting, and is about to commit. -/
  | cleared (answer : request.Answer) (table : Table)
  /-- Has given the connection back. A transaction that was rolled back has no result. -/
  | finished (result : Option request.Result)

structure StoreTask (request : Store.Request) where
  phase : TaskPhase request
  awaited : Bool

namespace StoreTask

variable {request : Store.Request}

-- An instant that cannot be stored is refused before there is a task.
def start (request : Store.Request) : Except StoreError (StoreTask request) :=
  (Database.precheck request).map fun () => ⟨.queued, true⟩

def giveUp (task : StoreTask request) : StoreTask request := { task with awaited := false }

def step (task : StoreTask request) (database : Database) : StoreTask request × Database :=
  match task.phase with
  | .queued => ({ task with phase := .holding }, database)
  | .holding =>
      if database.connected then
        match database.table.answer request with
        | (.error error, _) => ({ task with phase := .finished (some (.error error)) }, database)
        | (.ok answer, table) =>
            if request.isTransaction then ({ task with phase := .executed answer table }, database)
            else ({ task with phase := .finished (some (.ok answer)) }, { database with table })
      else ({ task with phase := .finished (some (.error .notConnected)) }, database)
  | .executed answer table =>
      ({ task with phase := if task.awaited then .cleared answer table else .finished none }, database)
  | .cleared answer table =>
      ({ task with phase := .finished (some (.ok answer)) }, { database with table })
  | .finished _ => (task, database)

def steps : (count : Nat) → StoreTask request → Database → StoreTask request × Database
  | 0, task, database => (task, database)
  | count + 1, task, database =>
      let (task, database) := task.step database
      steps count task database

-- No task has more than four steps.
def run (task : StoreTask request) (database : Database) : StoreTask request × Database :=
  task.steps 4 database

end StoreTask

theorem Table.eq_of_answer_error {table : Table} {request : Store.Request} {error : StoreError} :
    (table.answer request).1 = .error error → (table.answer request).2 = table := by
  cases request <;> simp only [answer] <;> (repeat' split) <;> simp

namespace StoreTask

theorem eq_of_start {request : Store.Request} {task : StoreTask request} (started : start request = .ok task) :
    Database.precheck request = .ok () ∧ task = ⟨.queued, true⟩ := by
  rw [start] at started
  cases checked : Database.precheck request with
  | error error => simp [checked, Except.map] at started
  | ok _ => simpa [checked, Except.map, eq_comm] using started

theorem run_awaited {request : Store.Request} {task : StoreTask request} (started : start request = .ok task)
    (database : Database) :
    task.run database =
      (⟨.finished (some (database.answer request).1), true⟩, (database.answer request).2) := by
  obtain ⟨precheck, rfl⟩ := eq_of_start started
  rw [Database.answer, precheck]
  obtain ⟨medium, table, connected⟩ := database
  cases connected with
  | false => simp [run, steps, step]
  | true =>
    cases answered : table.answer request with
    | mk result after =>
      cases result with
      | error error =>
          obtain rfl : after = table := by
            have same := Table.eq_of_answer_error (congrArg Prod.fst answered)
            rwa [answered] at same
          simp [run, steps, step, answered]
      | ok answer =>
          by_cases transaction : request.isTransaction = true <;>
            simp [run, steps, step, answered, transaction]

theorem run_giveUp {request : Store.Request} (transaction : request.isTransaction = true)
    (database : Database) :
    ((⟨.queued, true⟩ : StoreTask request).giveUp.run database).2 = database := by
  obtain ⟨medium, table, connected⟩ := database
  cases connected with
  | false => simp [run, steps, step, giveUp]
  | true =>
    cases answered : table.answer request with
    | mk result after =>
      cases result with
      | error error => simp [run, steps, step, giveUp, answered]
      | ok answer => simp [run, steps, step, giveUp, answered, transaction]

end StoreTask
end Datebook
