import Mathlib.Tactic.ByContra
import Datebook.Proofs.Slots
import Datebook.Proofs.Visits

set_option autoImplicit false

namespace Datebook

open Store (Request)

namespace Procedure

/-- A procedure that takes time only right after it has checked it, behind the gate. -/
inductive Guarded {α : Type} (gated : Bool) : Procedure α → Prop where
  | settled {result : Except ServiceError α} : Guarded gated (done result)
  | plain {request : Request} {next : request.Answer → Procedure α} (takesNone : request.slot? = none)
      (checksNone : request.checked? = none) (ends : ∀ answer, ∃ result, next answer = done result) :
      Guarded gated (ask request next)
  | checked (slot : Slot) {write : Request} {next : write.Answer → Procedure α} (isGated : gated = true)
      (takes : write.slot? = some slot) (ends : ∀ answer, ∃ result, next answer = done result) :
      Guarded gated (ask slot.check fun _ => ask write next)

theorem guarded_single {request : Request} {gated : Bool} (takesNone : request.slot? = none)
    (checksNone : request.checked? = none) : (single request).Guarded gated :=
  .plain takesNone checksNone fun answer => ⟨.ok answer, rfl⟩

end Procedure

namespace Job

variable {job : Job}

theorem guarded (job : Job) : job.procedure.Guarded job.isGated := by
  cases job with
  | purge cutoff | markNotified id => exact Procedure.guarded_single rfl rfl
  | call call =>
      cases call with
      | insert draft =>
          simp only [procedure, Service.Call.procedure, Service.insert]
          split
          · exact .settled
          · exact .checked ⟨_, _, _, _⟩ rfl rfl fun answer => ⟨.ok answer, rfl⟩
      | update draft =>
          simp only [procedure, Service.Call.procedure, Service.update]
          split
          · exact .settled
          · exact .checked ⟨_, _, _, _⟩ rfl rfl fun answer => ⟨.ok answer, rfl⟩
      | delete id => exact Procedure.guarded_single rfl rfl
      | lookup id | list userId =>
          simp only [procedure, Service.Call.procedure, Service.lookup, Service.list]
          split
          · exact .settled
          · exact Procedure.guarded_single rfl rfl
      | listPeriod kind userId date =>
          simp only [procedure, Service.Call.procedure, Service.listPeriod]
          split
          · exact .settled
          · split
            · exact .settled
            · exact Procedure.guarded_single rfl rfl

/-- The job asks the request at some time, and goes on with `next` when it is answered. -/
inductive Asks (job : Job) : (request : Request) → (request.Answer → Procedure job.Answer) → Prop where
  | first {request : Request} {next : request.Answer → Procedure job.Answer}
      (starts : job.procedure = .ask request next) : job.Asks request next
  | second {slot : Slot} {write : Request} {next : write.Answer → Procedure job.Answer}
      (isGated : job.isGated = true) (takes : write.slot? = some slot)
      (ends : ∀ answer, ∃ result, next answer = .done result)
      (starts : job.procedure = .ask slot.check fun _ => .ask write next) : job.Asks write next

variable {request : Request} {next : request.Answer → Procedure job.Answer}

theorem slot?_of_first (starts : job.procedure = .ask request next) : request.slot? = none := by
  have guarded := job.guarded
  rw [starts] at guarded
  cases guarded with
  | plain takesNone => exact takesNone
  | checked => rfl

theorem Asks.isGated (asks : job.Asks request next)
    (writes : request.slot? ≠ none ∨ request.checked? ≠ none) : job.isGated = true := by
  cases asks with
  | first starts =>
      have guarded := job.guarded
      rw [starts] at guarded
      cases guarded with
      | plain takesNone checksNone => exact absurd writes (by simp [takesNone, checksNone])
      | checked _ isGated => exact isGated
  | second isGated => exact isGated

-- A job ends with any answer, unless it goes on to take the slot that it has found free.
theorem Asks.goesOn (asks : job.Asks request next) (answer : request.Answer) :
    (∃ result, next answer = .done result) ∨
      ∃ slot write rest, request.checked? = some slot ∧ write.slot? = some slot ∧
        next answer = .ask write rest ∧ job.Asks write rest := by
  cases asks with
  | first starts =>
      have guarded := job.guarded
      rw [starts] at guarded
      cases guarded with
      | plain takesNone checksNone ends => exact .inl (ends answer)
      | checked _ isGated takes ends => exact .inr ⟨_, _, _, rfl, takes, rfl, .second isGated takes ends starts⟩
  | second isGated takes ends => exact .inl (ends answer)

theorem Asks.isInsert {event : Event} {next : EventId → Procedure job.Answer}
    (asks : job.Asks (.insert event) next) : job.isInsert = true := by
  cases asks with
  | first starts => cases slot?_of_first starts
  | second isGated takes ends starts =>
      cases job with
      | purge cutoff | markNotified id => cases isGated
      | call call =>
          cases call with
          | insert draft => rfl
          | update draft =>
              simp only [procedure, Service.Call.procedure, Service.update] at starts
              split at starts
              · cases starts
              · simp only [Procedure.single, Procedure.ask.injEq, heq_eq_eq] at starts
                cases congrFun starts.2 ()
          | _ => cases isGated

end Job

def Store.table? : Store → Option Table
  | memory _ => none
  | database inner => some inner.table

namespace StoreTask

variable {request : Request} {task task' : StoreTask request} {key : Nat} {shared shared' : Shared}

/-- The slot that the task keeps from others. Once cleared it takes the slot even if its caller has
given up. -/
def claim? (task : StoreTask request) : Option Slot :=
  match task.phase with
  | .queued | .holding | .executed _ _ => if task.awaited then request.slot? else none
  | .cleared _ _ => request.slot?
  | .finished (some (.ok _)) => if task.awaited then request.checked? else none
  | .finished (some (.error _)) | .finished none => none

-- From when it holds the connection, the task has the table to itself.
def Orderly (task : StoreTask request) (key : Nat) (shared : Shared) : Prop :=
  match task.phase with
  | .queued | .finished _ => True
  | .holding => shared.connection = some key
  | .executed answer table | .cleared answer table =>
      shared.connection = some key ∧
        ∃ before, shared.store.table? = some before ∧ before.answer request = (.ok answer, table)

end StoreTask

inductive Progress (store : Store) : Option Slot → Option Slot → Store → Prop where
  | kept {claim : Option Slot} : Progress store claim claim store
  | lapsed {claim : Option Slot} : Progress store claim none store
  | granted {slot : Slot} (free : store.IsFree slot) : Progress store none (some slot) store
  | answered {request : Request} {claim : Option Slot}
      (claimed : ∀ slot, request.slot? = some slot → claim = some slot) :
      Progress store claim none (store.after request)

namespace Progress

theorem of_answered {database : Database} {request : Request} {answer : request.Answer} {table : Table}
    (answered : database.table.answer request = (.ok answer, table)) (awaited : Bool) :
    Progress (.database database) request.slot?
      (⟨.finished (some (.ok answer)), awaited⟩ : StoreTask request).claim?
      (.database { database with table }) := by
  cases checks : request.checked? with
  | none =>
      have after : Store.database { database with table } = (Store.database database).after request := by
        simp [Store.after, answered]
      rw [after]
      simpa [StoreTask.claim?, checks] using Progress.answered fun slot takes => takes
  | some slot =>
      -- A check leaves the table as it is, and its success is what the claim says.
      obtain rfl := Request.eq_check checks
      obtain rfl : database.table = table := by
        rw [← database.table.answer_check slot, answered]
      cases awaited with
      | false => exact .lapsed
      | true => exact .granted (congrArg Prod.fst answered)

variable {store store' : Store} {claim claim' : Option Slot}

theorem free (progress : Progress store claim claim' store')
    (free : ∀ slot, claim = some slot → store.IsFree slot) {slot : Slot} (claims : claim' = some slot) :
    store'.IsFree slot := by
  cases progress with
  | kept => exact free slot claims
  | lapsed | answered => cases claims
  | granted granted =>
      cases claims
      exact granted

theorem free_of_unclaimed (progress : Progress store claim claim' store') (unclaimed : claim = none)
    {slot : Slot} (free : store.IsFree slot) : store'.IsFree slot := by
  cases progress with
  | kept | lapsed | granted => exact free
  | @answered request _ claimed =>
      apply free.after
      cases takes : request.slot? with
      | none => rfl
      | some taken => rw [claimed taken takes] at unclaimed; cases unclaimed

theorem store_eq (progress : Progress store claim claim' store')
    (free : ∀ slot, claim = some slot → store.IsFree slot) :
    store' = store ∨ ∃ request, store' = store.after request ∧
      ∀ slot, request.slot? = some slot → store.IsFree slot := by
  cases progress with
  | kept | lapsed | granted => exact .inl rfl
  | @answered request _ claimed => exact .inr ⟨request, rfl, fun slot takes => free slot (claimed slot takes)⟩

end Progress

structure Shared.Spares (key : Nat) (before after : Shared) : Prop where
  gate : ∀ other, other ≠ key → before.gate = some other → after.gate = some other
  connection : ∀ other, other ≠ key → before.connection = some other →
    after.connection = some other ∧ after.store.table? = before.store.table?
  medium : after.store.table?.isSome = before.store.table?.isSome

namespace Shared

variable {shared : Shared} {key : Nat}

theorem Spares.refl (shared : Shared) (key : Nat) : shared.Spares key shared :=
  ⟨fun _ _ held => held, fun _ _ held => ⟨held, rfl⟩, rfl⟩

theorem Spares.of_gate (gate : shared.gate = none ∨ shared.gate = some key) (gate' : Option Nat) :
    shared.Spares key { shared with gate := gate' } := by
  refine ⟨?_, fun _ _ held => ⟨held, rfl⟩, rfl⟩
  intro other differs held
  simp [held, differs] at gate

end Shared

namespace StoreTask

variable {request : Request} {task task' : StoreTask request} {key other : Nat} {shared shared' : Shared}

theorem Orderly.spared (orderly : task.Orderly other shared) (spares : shared.Spares key shared')
    (differs : other ≠ key) : task.Orderly other shared' := by
  obtain ⟨phase, awaited⟩ := task
  cases phase with
  | queued | finished result => trivial
  | holding => exact (spares.connection other differs orderly).1
  | executed answer table | cleared answer table =>
      obtain ⟨held, before, tabled, answered⟩ := orderly
      obtain ⟨stillHeld, same⟩ := spares.connection other differs held
      exact ⟨stillHeld, before, same.trans tabled, answered⟩

theorem awaited_of_claim? {result : Option request.Result} {awaited : Bool}
    (claims : (⟨.finished result, awaited⟩ : StoreTask request).claim? ≠ none) : awaited = true := by
  cases awaited with
  | true => rfl
  | false =>
      cases result with
      | none => exact absurd rfl claims
      | some result => cases result <;> exact absurd rfl claims

structure Works (key : Nat) (task task' : StoreTask request) (shared shared' : Shared) : Prop where
  orderly : task'.Orderly key shared'
  awaited : task'.awaited = task.awaited
  gate : shared'.gate = shared.gate
  spares : shared.Spares key shared'
  progress : Progress shared.store task.claim? task'.claim? shared'.store
  held : task.claim? = none → task'.claim? ≠ none → task.awaited = true ∧ shared.connection = some key

theorem Orderly.work (orderly : task.Orderly key shared)
    (worked : task.work key shared = some (task', shared')) : task.Works key task' shared shared' := by
  obtain ⟨store, gate, connection⟩ := shared
  obtain ⟨phase, awaited⟩ := task
  cases store with
  | memory memory => cases worked
  | database database =>
      simp only [StoreTask.work] at worked
      split at worked
      · next can =>
        -- A task that takes a step holds the connection, or finds it free.
        have free : connection = none ∨ connection = some key := by
          cases phase <;> simp_all [canStep, Orderly]
        have spares (database' : Database) (connection' : Option Nat) :
            Shared.Spares key ⟨.database database, gate, connection⟩ ⟨.database database', gate, connection'⟩ := by
          refine ⟨fun _ _ held => held, ?_, rfl⟩
          rintro other differs rfl
          simp [differs] at free
        cases phase with
        | queued =>
            cases worked
            exact ⟨rfl, rfl, rfl, spares _ _, .kept, fun none some => absurd none some⟩
        | holding =>
            -- A transaction only computes the table to come; all else takes effect here.
            simp only [step] at worked
            split at worked
            · split at worked
              · cases worked
                exact ⟨trivial, rfl, rfl, spares _ _, .lapsed, fun _ some => absurd rfl some⟩
              · next answer table answered =>
                split at worked
                · cases worked
                  exact ⟨⟨rfl, database.table, rfl, answered⟩, rfl, rfl, spares _ _, .kept,
                    fun none some => absurd none some⟩
                · next reads =>
                  cases worked
                  have takesNone : request.slot? = none := by
                    cases request <;> first
                      | rfl
                      | exact absurd rfl reads
                  have progress := Progress.of_answered answered awaited
                  refine ⟨trivial, rfl, rfl, spares _ _, ?_, fun _ claims => ⟨awaited_of_claim? claims, orderly⟩⟩
                  simpa [claim?, takesNone] using progress
            · cases worked
              exact ⟨trivial, rfl, rfl, spares _ _, .lapsed, fun _ some => absurd rfl some⟩
        | executed answer table =>
            -- This is the last look at the caller: without one, the claim goes with the transaction.
            cases awaited <;> cases worked
            · exact ⟨trivial, rfl, rfl, spares _ _, .lapsed, fun _ some => absurd rfl some⟩
            · exact ⟨⟨rfl, orderly.2⟩, rfl, rfl, spares _ _, .kept, fun none some => absurd none some⟩
        | cleared answer table =>
            -- Nobody else has had the connection meanwhile, so the table is still the one that was looked at.
            cases worked
            obtain ⟨held, before, tabled, answered⟩ := orderly
            cases tabled
            exact ⟨trivial, rfl, rfl, spares _ _, .of_answered answered awaited,
              fun _ claims => ⟨awaited_of_claim? claims, held⟩⟩
        | finished result => cases can
      · cases worked

theorem Orderly.giveUp (orderly : task.Orderly key shared) : task.giveUp.Orderly key shared := orderly

theorem claim?_giveUp (task : StoreTask request) : task.giveUp.claim? = none ∨ task.giveUp.claim? = task.claim? := by
  obtain ⟨phase, awaited⟩ := task
  cases phase with
  | queued | holding | executed answer table => exact .inl rfl
  | cleared answer table => exact .inr rfl
  | finished result =>
      left
      cases result with
      | none => rfl
      | some result => cases result <;> rfl

theorem writes_of_claim? (claims : task.claim? ≠ none) : request.slot? ≠ none ∨ request.checked? ≠ none := by
  obtain ⟨phase, awaited⟩ := task
  cases phase with
  | queued | holding | executed answer table =>
      left
      intro none
      simp [claim?, none] at claims
  | cleared answer table => exact .inl claims
  | finished result =>
      cases result with
      | none => exact absurd rfl claims
      | some result =>
          cases result with
          | error error => exact absurd rfl claims
          | ok answer =>
              right
              intro none
              simp [claim?, none] at claims

end StoreTask

def Errand.Orderly (errand : Errand) (key : Nat) (shared : Shared) : Prop :=
  errand.task.awaited = false ∧ errand.task.Orderly key shared

theorem Errand.Orderly.connection {errand : Errand} {key : Nat} {shared : Shared}
    (orderly : errand.Orderly key shared) (claims : errand.task.claim? ≠ none) :
    shared.connection = some key ∧ shared.store.table?.isSome := by
  obtain ⟨request, phase, awaited⟩ := errand
  obtain ⟨rfl, task⟩ := orderly
  cases phase with
  | queued | holding | executed answer table => exact absurd rfl claims
  | cleared answer table =>
      obtain ⟨held, before, tabled, -⟩ := task
      exact ⟨held, by simp [tabled]⟩
  | finished result => cases StoreTask.awaited_of_claim? claims

theorem noOrphan {key : Nat} {shared : Shared} : ∀ errand ∈ (none : Option Errand), errand.Orderly key shared :=
  fun _ isOrphan => by cases isOrphan

def Shared.Holds (shared : Shared) (key : Nat) : Prop :=
  shared.gate = some key ∧ (shared.store.table?.isSome → shared.connection = some key)

namespace Visit

inductive Orderly (key : Nat) (shared : Shared) : Visit → Prop where
  | waiting {job : Job} {since : Nat} : Orderly key shared ⟨job, since, .waiting, none⟩
  | ready {job : Job} {since : Nat} {request : Request} {next : request.Answer → Procedure job.Answer}
      (asks : job.Asks request next) (gate : job.isGated = true → shared.gate = some key) :
      Orderly key shared ⟨job, since, .ready request next, none⟩
  | asking {job : Job} {since : Nat} {request : Request} {task : StoreTask request}
      {next : request.Answer → Procedure job.Answer}
      (asks : job.Asks request next) (gate : job.isGated = true → shared.gate = some key)
      (tabled : shared.store.table?.isSome) (awaited : task.awaited = true) (orderly : task.Orderly key shared) :
      Orderly key shared ⟨job, since, .asking request task next, none⟩
  | leaving {job : Job} {since : Nat} {result : Option (Except ServiceError job.Answer)}
      {orphan : Option Errand} (orphans : ∀ errand ∈ orphan, errand.Orderly key shared) :
      Orderly key shared ⟨job, since, .leaving result, orphan⟩
  | ended {job : Job} {since time : Nat} {result : Option (Except ServiceError job.Answer)}
      {orphan : Option Errand} (orphans : ∀ errand ∈ orphan, errand.Orderly key shared) :
      Orderly key shared ⟨job, since, .ended result time, orphan⟩

def claim? (visit : Visit) : Option Slot :=
  match visit.stage with
  | .waiting => none
  | .ready request _ => request.slot?
  | .asking _ task _ => task.claim?
  | .leaving _ | .ended _ _ => visit.orphan.bind fun errand => errand.task.claim?

variable {visit visit' : Visit} {key other : Nat} {shared shared' : Shared}

theorem Orderly.spared (orderly : visit.Orderly other shared) (spares : shared.Spares key shared')
    (differs : other ≠ key) : visit.Orderly other shared' := by
  have orphans {orphan : Option Errand} (orderly : ∀ errand ∈ orphan, errand.Orderly other shared) :
      ∀ errand ∈ orphan, errand.Orderly other shared' :=
    fun errand isOrphan => ⟨(orderly errand isOrphan).1, (orderly errand isOrphan).2.spared spares differs⟩
  cases orderly with
  | waiting => exact .waiting
  | ready asks gate => exact .ready asks fun gated => spares.gate other differs (gate gated)
  | asking asks gate tabled awaited orderly =>
      exact .asking asks (fun gated => spares.gate other differs (gate gated)) (spares.medium ▸ tabled)
        awaited (orderly.spared spares differs)
  | leaving orderly => exact .leaving (orphans orderly)
  | ended orderly => exact .ended (orphans orderly)

theorem Orderly.claim?_eq_none (orderly : visit.Orderly other shared) (holds : shared.Holds key)
    (differs : other ≠ key) : visit.claim? = none := by
  have otherGate (gate : shared.gate = some other) : False :=
    differs (Option.some.inj (gate.symm.trans holds.1))
  -- The gate rules out callers, the connection the tasks that they left behind.
  have unclaimed {orphan : Option Errand} (orphans : ∀ errand ∈ orphan, errand.Orderly other shared) :
      (orphan.bind fun errand => errand.task.claim?) = none := by
    cases orphan with
    | none => rfl
    | some errand =>
        by_contra claims
        obtain ⟨connection, tabled⟩ := (orphans errand rfl).connection claims
        exact differs (Option.some.inj (connection.symm.trans (holds.2 tabled)))
  cases orderly with
  | waiting => rfl
  | ready asks gate =>
      by_contra claims
      exact otherGate (gate (asks.isGated (.inl claims)))
  | asking asks gate =>
      by_contra claims
      exact otherGate (gate (asks.isGated (StoreTask.writes_of_claim? claims)))
  | leaving orphans | ended orphans => exact unclaimed orphans

section Answer

variable {job : Job} {request : Request} {next : request.Answer → Procedure job.Answer}

theorem Orderly.resume (asks : job.Asks request next) (gate : job.isGated = true → shared.gate = some key)
    (since : Nat) (result : request.Result) :
    Orderly key shared ⟨job, since, (Procedure.resume next result).stage, none⟩ := by
  cases result with
  | error error => exact .leaving noOrphan
  | ok answer =>
      simp only [Procedure.resume]
      rcases asks.goesOn answer with ⟨result, ends⟩ | ⟨slot, write, rest, -, -, goesOn, asks⟩
      · rw [ends]
        exact .leaving noOrphan
      · rw [goesOn]
        exact .ready asks gate

theorem claim?_resume (asks : job.Asks request next) (since : Nat) (result : request.Result) :
    (⟨job, since, (Procedure.resume next result).stage, none⟩ : Visit).claim? = none ∨
      ∃ answer slot, result = .ok answer ∧ request.checked? = some slot ∧
        (⟨job, since, (Procedure.resume next result).stage, none⟩ : Visit).claim? = some slot := by
  cases result with
  | error error => exact .inl rfl
  | ok answer =>
      simp only [Procedure.resume]
      rcases asks.goesOn answer with ⟨result, ends⟩ | ⟨slot, write, rest, checks, takes, goesOn, -⟩
      · rw [ends]
        exact .inl rfl
      · rw [goesOn]
        exact .inr ⟨answer, slot, rfl, checks, takes⟩

end Answer

structure Acts (key : Nat) (visit visit' : Visit) (shared shared' : Shared) : Prop where
  orderly : visit'.Orderly key shared'
  spares : shared.Spares key shared'
  progress : Progress shared.store visit.claim? visit'.claim? shared'.store
  holds : visit.claim? = none → visit'.claim? ≠ none → shared.Holds key

theorem Orderly.enter (orderly : visit.Orderly key shared)
    (acted : visit.enter key shared = some (visit', shared')) : Acts key visit visit' shared shared' := by
  cases orderly with
  | ready | asking | leaving | ended => cases acted
  | @waiting job since =>
      simp only [Visit.enter, Job.needsGate, proceed] at acted
      cases plan : job.procedure with
      | done result =>
          simp only [plan, Procedure.asks, Bool.and_false, Bool.false_eq_true, if_false, Procedure.stage] at acted
          cases acted
          exact ⟨.leaving noOrphan, .refl _ _, .kept, fun _ claims => absurd rfl claims⟩
      | ask request next =>
          have unclaimed : request.slot? = none := Job.slot?_of_first plan
          have progress : Progress shared.store none request.slot? shared.store := unclaimed ▸ .kept
          simp only [plan, Procedure.asks, Bool.and_true, Procedure.stage] at acted
          split at acted
          · split at acted
            · next free =>
              cases acted
              exact ⟨.ready (.first plan) fun _ => rfl, .of_gate (.inl (by simpa using free)) _, progress,
                fun _ claims => absurd unclaimed claims⟩
            · cases acted
          · next ungated =>
            cases acted
            exact ⟨.ready (.first plan) fun gated => absurd gated ungated, .refl _ _, progress,
              fun _ claims => absurd unclaimed claims⟩

theorem send_memory {job : Job} {since : Nat} {request : Request} {next : request.Answer → Procedure job.Answer}
    {orphan : Option Errand} {memory : MemoryStore} {gate connection : Option Nat} :
    Visit.send ⟨job, since, .ready request next, orphan⟩ ⟨.memory memory, gate, connection⟩ =
      some (⟨job, since, (Procedure.resume next (memory.answer request).1).stage, orphan⟩,
        ⟨.memory (memory.answer request).2, gate, connection⟩) := rfl

theorem Orderly.send (orderly : visit.Orderly key shared)
    (acted : visit.send shared = some (visit', shared')) : Acts key visit visit' shared shared' := by
  cases orderly with
  | waiting | asking | leaving | ended => cases acted
  | @ready job since request next asks gate =>
      obtain ⟨store, holder, connection⟩ := shared
      cases store with
      | memory memory =>
          rw [send_memory] at acted
          cases acted
          refine ⟨?_, ⟨fun _ _ held => held, ?_, rfl⟩, ?_, ?_⟩
          · exact .resume asks (by exact gate) _ _
          · exact fun _ _ held => ⟨held, rfl⟩
          · -- Only a check that has succeeded gives a claim.
            rcases claim?_resume asks since (memory.answer request).1 with lost | ⟨answer, slot, found, checks, claims⟩
            · rw [lost]
              exact .answered fun slot takes => takes
            · rw [claims]
              obtain rfl := Request.eq_check checks
              rw [memory.answer_check slot]
              exact .granted found
          · intro _ claims
            rcases claim?_resume asks since (memory.answer request).1 with lost | ⟨answer, slot, -, checks, -⟩
            · exact absurd lost claims
            · exact ⟨gate (asks.isGated (.inr (by simp [checks]))), fun tabled => by cases tabled⟩
      | database database =>
          simp only [Visit.send] at acted
          split at acted
          · cases acted
            exact ⟨.resume asks gate _ _, .refl _ _, .lapsed, fun _ claims => absurd rfl claims⟩
          · next task started =>
            obtain ⟨-, rfl⟩ := StoreTask.eq_of_start started
            cases acted
            exact ⟨.asking asks gate rfl rfl trivial, .refl _ _, .kept, fun none some => absurd none some⟩

theorem Orderly.work (orderly : visit.Orderly key shared)
    (acted : visit.work key shared = some (visit', shared')) : Acts key visit visit' shared shared' := by
  cases orderly with
  | waiting | ready => cases acted
  | asking asks gate tabled awaited orderly =>
      obtain ⟨⟨task', _⟩, worked, same⟩ := Option.map_eq_some_iff.mp acted
      cases same
      obtain ⟨orderly', awaited', gate', spares, progress, held⟩ := orderly.work worked
      refine ⟨.asking asks (gate' ▸ gate) (spares.medium ▸ tabled) (awaited'.trans awaited) orderly', spares,
        progress, ?_⟩
      intro none claims
      exact ⟨gate (asks.isGated (StoreTask.writes_of_claim? claims)), fun _ => (held none claims).2⟩
  | @leaving job since result orphan orphans | @ended job since time result orphan orphans =>
      cases orphan with
      | none => cases acted
      | some errand =>
          -- An orphan keeps the claim it had, but gains none: that would take a caller.
          obtain ⟨request, task⟩ := errand
          obtain ⟨⟨task', _⟩, worked, same⟩ := Option.map_eq_some_iff.mp acted
          cases same
          obtain ⟨gone, orderly⟩ := orphans _ rfl
          obtain ⟨orderly', awaited', gate', spares, progress, held⟩ := orderly.work worked
          have orphans' : ∀ errand ∈ some (⟨request, task'⟩ : Errand), errand.Orderly key shared' := by
            rintro errand isOrphan
            cases isOrphan
            exact ⟨awaited'.trans gone, orderly'⟩
          refine ⟨by constructor; exact orphans', spares, progress, ?_⟩
          intro none claims
          have awaited := (held none claims).1
          rw [gone] at awaited
          cases awaited

theorem Orderly.receive (orderly : visit.Orderly key shared)
    (acted : visit.receive shared = some (visit', shared')) : Acts key visit visit' shared shared' := by
  cases orderly with
  | waiting | ready | leaving | ended => cases acted
  | @asking job since request task next asks gate tabled awaited orderly =>
      simp only [Visit.receive, proceed] at acted
      split at acted
      · next result phase =>
        cases acted
        rcases claim?_resume asks since result with lost | ⟨answer, slot, rfl, checks, claims⟩
        · refine ⟨.resume asks gate _ _, .refl _ _, ?_, fun _ claims => absurd lost claims⟩
          rw [lost]
          exact .lapsed
        · -- The task had the claim already.
          have had : task.claim? = some slot := by simp [StoreTask.claim?, phase, awaited, checks]
          refine ⟨.resume asks gate _ _, .refl _ _, ?_, fun lost => absurd (had.symm.trans lost) (by simp)⟩
          rw [claims, ← had]
          exact .kept
      · cases acted

theorem Orderly.giveUp (orderly : visit.Orderly key shared)
    {result : Option (Except ServiceError visit.job.Answer)}
    (acted : visit.giveUp result shared = some (visit', shared')) : Acts key visit visit' shared shared' := by
  cases orderly with
  | leaving | ended => cases acted
  | waiting | ready asks gate =>
      cases acted
      exact ⟨.leaving noOrphan, .refl _ _, .lapsed, fun _ claims => absurd rfl claims⟩
  | @asking _ _ _ task _ asks gate tabled awaited orderly =>
      cases acted
      have abandoned : ∀ errand ∈ some (⟨_, task.giveUp⟩ : Errand), errand.Orderly key shared := by
        rintro errand isOrphan
        cases isOrphan
        exact ⟨rfl, orderly.giveUp⟩
      -- Once cleared, the task commits without its caller.
      rcases task.claim?_giveUp with gone | still
      · refine ⟨.leaving abandoned, .refl _ _, ?_, fun _ some => absurd gone some⟩
        simp only [claim?, Option.bind_some, gone]
        exact .lapsed
      · refine ⟨.leaving abandoned, .refl _ _, ?_, fun none some => absurd (still.trans none) some⟩
        simp only [claim?, Option.bind_some, still]
        exact .kept

theorem Orderly.timeOut (orderly : visit.Orderly key shared)
    (acted : visit.timeOut shared = some (visit', shared')) : Acts key visit visit' shared shared' := by
  unfold Visit.timeOut at acted
  split at acted
  · cases acted
  · exact orderly.giveUp acted

theorem Orderly.leave {time : Nat} (orderly : visit.Orderly key shared)
    (acted : visit.leave key time shared = some (visit', shared')) : Acts key visit visit' shared shared' := by
  cases orderly with
  | waiting | ready | asking | ended => cases acted
  | leaving orphans =>
      cases acted
      refine ⟨.ended orphans, ⟨?_, fun _ _ held => ⟨held, rfl⟩, rfl⟩, .kept, fun none some => absurd none some⟩
      intro other differs held
      simp [held, differs]

theorem Orderly.act_memory {memory : MemoryStore} {time : Nat} {action : Action}
    (orderly : visit.Orderly key shared) (inMemory : shared.store = .memory memory)
    (acted : visit.act key time shared action = some (visit', shared')) :
    shared'.store = .memory memory ∨
      ∃ request next, visit.stage = .ready request next ∧ visit.job.Asks request next ∧
        visit' = visit.proceed (.resume next (memory.answer request).1) ∧
        shared'.store = .memory (memory.answer request).2 := by
  obtain ⟨_, gate, connection⟩ := shared
  subst inMemory
  cases action with
  | send =>
      cases orderly with
      | waiting | asking | leaving | ended => cases acted
      | @ready job since request next asks =>
          rw [act, send_memory] at acted
          cases acted
          exact .inr ⟨request, next, rfl, asks, rfl, rfl⟩
  | work =>
      left
      simp only [act, Visit.work, StoreTask.work] at acted
      repeat' split at acted
      all_goals cases acted
  | enter | receive | timeOut | drop | leave =>
      left
      simp only [act, Visit.enter, Visit.receive, Visit.timeOut, Visit.giveUp, Visit.leave] at acted
      repeat' split at acted
      all_goals cases acted
      all_goals rfl

theorem Orderly.act {time : Nat} {action : Action} (orderly : visit.Orderly key shared)
    (acted : visit.act key time shared action = some (visit', shared')) : Acts key visit visit' shared shared' := by
  cases action with
  | enter => exact orderly.enter acted
  | send => exact orderly.send acted
  | work => exact orderly.work acted
  | receive => exact orderly.receive acted
  | timeOut => exact orderly.timeOut acted
  | drop => exact orderly.giveUp acted
  | leave => exact orderly.leave acted

end Visit

namespace System

structure Orderly (system : System) : Prop where
  visits : ∀ key visit, system.visits.get? key = some visit → visit.Orderly key system.shared
  free : ∀ key visit, system.visits.get? key = some visit →
    ∀ slot, visit.claim? = some slot → system.shared.store.IsFree slot
  alone : ∀ key visit other visit', system.visits.get? key = some visit →
    system.visits.get? other = some visit' → visit.claim? ≠ none → visit'.claim? ≠ none → key = other

variable {system next : System}

theorem orderly_start (store : Store) : (start store).Orderly where
  visits key visit found := by cases found
  free key visit found := by cases found
  alone key visit other visit' found := by cases found

theorem Orderly.arrive (orderly : system.Orderly) {key : Nat} {job : Job}
    (moved : system.move (.arrive key job) = some next) : next.Orderly := by
  obtain ⟨absent, rfl⟩ := move_arrive moved
  have found {other : Nat} {visit : Visit}
      (isThere : (system.visits.put key ⟨job, system.clock, .waiting, none⟩).get? other = some visit) :
      visit = ⟨job, system.clock, .waiting, none⟩ ∨ system.visits.get? other = some visit := by
    rcases FinMap.get?_put_eq_some_iff.mp isThere with ⟨-, new⟩ | ⟨-, old⟩
    · exact .inl new
    · exact .inr old
  refine ⟨?_, ?_, ?_⟩
  · intro other visit isThere
    rcases found isThere with rfl | old
    · exact .waiting
    · exact orderly.visits other visit old
  · intro other visit isThere slot claims
    rcases found isThere with rfl | old
    · cases claims
    · exact orderly.free other visit old slot claims
  · intro first visit second visit' isFirst isSecond claims claims'
    rcases found isFirst with rfl | old
    · exact absurd rfl claims
    · rcases found isSecond with rfl | old'
      · exact absurd rfl claims'
      · exact orderly.alone first visit second visit' old old' claims claims'

theorem Orderly.act (orderly : system.Orderly) {key : Nat} {action : Action}
    (moved : system.move (.act key action) = some next) : next.Orderly := by
  obtain ⟨visit, visit', shared', isThere, acted, rfl⟩ := move_act moved
  obtain ⟨orderly', spares, progress, holds⟩ := (orderly.visits key visit isThere).act acted
  -- As long as another visit has a claim, this one has none and gets none.
  have others {other : Nat} {old : Visit} (isOther : system.visits.get? other = some old) (differs : other ≠ key)
      (claims : old.claim? ≠ none) : visit.claim? = none ∧ visit'.claim? = none := by
    have unclaimed : visit.claim? = none := by
      by_contra claimed
      exact differs (orderly.alone other old key visit isOther isThere claims claimed)
    refine ⟨unclaimed, ?_⟩
    by_contra claimed
    have held := holds unclaimed claimed
    exact claims ((orderly.visits other old isOther).claim?_eq_none held differs)
  refine ⟨?_, ?_, ?_⟩
  · intro other old isOther
    rcases FinMap.get?_put_eq_some_iff.mp isOther with ⟨rfl, rfl⟩ | ⟨differs, isOld⟩
    · exact orderly'
    · exact (orderly.visits other old isOld).spared spares differs
  · intro other old isOther slot claims
    rcases FinMap.get?_put_eq_some_iff.mp isOther with ⟨rfl, rfl⟩ | ⟨differs, isOld⟩
    · exact progress.free (orderly.free other visit isThere) claims
    · have unclaimed := (others isOld differs (by simp [claims])).1
      exact progress.free_of_unclaimed unclaimed (orderly.free other old isOld slot claims)
  · intro first old second old' isFirst isSecond claims claims'
    rcases FinMap.get?_put_eq_some_iff.mp isFirst with ⟨rfl, rfl⟩ | ⟨differs, oldFirst⟩ <;>
      rcases FinMap.get?_put_eq_some_iff.mp isSecond with ⟨rfl, rfl⟩ | ⟨differs', oldSecond⟩
    · rfl
    · exact absurd (others oldSecond differs' claims').2 claims
    · exact absurd (others oldFirst differs claims).2 claims'
    · exact orderly.alone first old second old' oldFirst oldSecond claims claims'

theorem Orderly.move (orderly : system.Orderly) {move : Move} (moved : system.move move = some next) :
    next.Orderly := by
  cases move with
  | arrive key job => exact orderly.arrive moved
  | act key action => exact orderly.act moved

theorem Orderly.medium_move (orderly : system.Orderly) {move : Move} (moved : system.move move = some next) :
    next.shared.store.table?.isSome = system.shared.store.table?.isSome := by
  cases move with
  | arrive key job =>
      obtain ⟨-, rfl⟩ := move_arrive moved
      rfl
  | act key action =>
      obtain ⟨visit, visit', shared', isThere, acted, rfl⟩ := move_act moved
      exact ((orderly.visits key visit isThere).act acted).spares.medium

theorem orderly_run {store : Store} {moves : List Move} (ran : run moves (start store) = some system) :
    system.Orderly :=
  run_keep (fun _ system => system.Orderly) (orderly_start store)
    (fun _ _ _ _ _ _ _ moved orderly => orderly.move moved) ran

theorem medium_run {store : Store} {moves : List Move} (ran : run moves (start store) = some system) :
    system.shared.store.table?.isSome = store.table?.isSome := by
  refine run_keep (fun _ system => system.shared.store.table?.isSome = store.table?.isSome) rfl ?_ ran
  intro done move rest system next _ came moved same
  exact ((orderly_run came).medium_move moved).trans same

end System
end Datebook
