import Datebook.Proofs.StoreChanges

set_option autoImplicit false

namespace Datebook

open Store (Request)

namespace Procedure

variable {α : Type}

-- Whatever is answered, the procedure does not itself end as timed out.
def Untimed : Procedure α → Prop
  | done result => result ≠ .error .timedOut
  | ask _ next => ∀ answer, (next answer).Untimed

theorem untimed_single (request : Request) : (single request).Untimed := fun _ same => by cases same

theorem Untimed.resume {request : Request} {next : request.Answer → Procedure α}
    (untimed : ∀ answer, (next answer).Untimed) (result : request.Result) :
    (Procedure.resume next result).Untimed := by
  cases result with
  | ok answer => exact untimed answer
  | error error =>
      intro same
      cases error <;> cases same

end Procedure

def Stage.result? {α : Type} : Stage α → Option (Except ServiceError α)
  | leaving result | ended result _ => result
  | waiting | ready _ _ | asking _ _ _ => none

theorem Procedure.Untimed.result?_stage {α : Type} {rest : Procedure α} (untimed : rest.Untimed) :
    rest.stage.result? ≠ some (.error .timedOut) := by
  cases rest with
  | ask request next => exact fun same => by cases same
  | done result => exact fun same => untimed (Option.some.inj same)

namespace Job

variable {job : Job} {request : Request} {next : request.Answer → Procedure job.Answer}

theorem untimed (job : Job) : job.procedure.Untimed := by
  have refused {α : Type} (violation : Violation) :
      (Procedure.done (.error (.invalid violation)) : Procedure α).Untimed := fun same => by cases same
  cases job with
  | purge cutoff | markNotified id => exact Procedure.untimed_single _
  | call call =>
      cases call with
      | delete id => exact Procedure.untimed_single _
      | insert draft | update draft =>
          simp only [procedure, Service.Call.procedure, Service.insert, Service.update]
          split
          · exact refused _
          · exact fun _ => Procedure.untimed_single _
      | lookup id | list userId =>
          simp only [procedure, Service.Call.procedure, Service.lookup, Service.list]
          split
          · exact refused _
          · exact Procedure.untimed_single _
      | listPeriod kind userId date =>
          simp only [procedure, Service.Call.procedure, Service.listPeriod]
          split
          · exact refused _
          split
          · exact fun same => by cases same
          · exact Procedure.untimed_single _

theorem Asks.untimed (asks : job.Asks request next) (answer : request.Answer) : (next answer).Untimed := by
  have untimed := job.untimed
  cases asks with
  | first starts =>
      rw [starts] at untimed
      exact untimed answer
  | second _ _ _ starts =>
      rw [starts] at untimed
      exact untimed () answer

end Job

namespace StoreTask

variable {request : Request} {task task' : StoreTask request} {key : Nat} {shared shared' : Shared}

def hasWritten (task : StoreTask request) : Bool :=
  match task.phase with
  | .finished (some (.ok _)) => !request.isReading
  | .finished (some (.error _)) | .finished none | .queued | .holding | .executed _ _ | .cleared _ _ => false

/-- The task has written nothing, and will not if its caller gives up. -/
def canRetract (task : StoreTask request) : Bool :=
  request.isReading ||
    match task.phase with
    | .queued | .holding | .executed _ _ => request.isTransaction
    | .cleared _ _ | .finished (some (.ok _)) => false
    | .finished (some (.error _)) | .finished none => true

theorem unwritten_of_canRetract (retractable : task.canRetract = true) : task.hasWritten = false := by
  obtain ⟨phase, awaited⟩ := task
  cases phase with
  | queued | holding | executed answer table | cleared answer table => rfl
  | finished result =>
      cases result with
      | none => rfl
      | some result =>
          cases result with
          | error error => rfl
          | ok answer => simpa [canRetract, hasWritten] using retractable

theorem hasWritten_of_reading (reads : request.isReading = true) (task : StoreTask request) :
    task.hasWritten = false :=
  unwritten_of_canRetract (by simp [canRetract, reads])

inductive Worked (database : Database) : StoreTask request → StoreTask request → Database → Prop where
  | takes {awaited : Bool} : Worked database ⟨.queued, awaited⟩ ⟨.holding, awaited⟩ database
  | fails {awaited : Bool} {error : StoreError} :
      Worked database ⟨.holding, awaited⟩ ⟨.finished (some (.error error)), awaited⟩ database
  | executes {awaited : Bool} {answer : request.Answer} {table : Table} (transaction : request.isTransaction = true) :
      Worked database ⟨.holding, awaited⟩ ⟨.executed answer table, awaited⟩ database
  | answers {awaited : Bool} {answer : request.Answer} {table : Table} (effective : request.isTransaction = false) :
      Worked database ⟨.holding, awaited⟩ ⟨.finished (some (.ok answer)), awaited⟩ { database with table }
  | clears {answer : request.Answer} {table : Table} :
      Worked database ⟨.executed answer table, true⟩ ⟨.cleared answer table, true⟩ database
  | rollsBack {answer : request.Answer} {table : Table} :
      Worked database ⟨.executed answer table, false⟩ ⟨.finished none, false⟩ database
  | commits {awaited : Bool} {answer : request.Answer} {table : Table} :
      Worked database ⟨.cleared answer table, awaited⟩ ⟨.finished (some (.ok answer)), awaited⟩ { database with table }

theorem worked_of_work (worked : task.work key shared = some (task', shared')) :
    ∃ before after, shared.store = .database before ∧ shared'.store = .database after ∧
      Worked before task task' after := by
  obtain ⟨store, gate, connection⟩ := shared
  obtain ⟨phase, awaited⟩ := task
  cases store with
  | memory memory => cases worked
  | database database =>
      simp only [StoreTask.work] at worked
      split at worked
      · next can =>
        cases phase with
        | queued =>
            cases worked
            exact ⟨database, database, rfl, rfl, .takes⟩
        | executed answer table =>
            cases awaited <;> cases worked
            · exact ⟨database, database, rfl, rfl, .rollsBack⟩
            · exact ⟨database, database, rfl, rfl, .clears⟩
        | cleared answer table =>
            cases worked
            exact ⟨database, _, rfl, rfl, .commits⟩
        | finished result => cases can
        | holding =>
            simp only [step] at worked
            split at worked
            · split at worked
              · cases worked
                exact ⟨database, database, rfl, rfl, .fails⟩
              · split at worked
                · next transaction =>
                  cases worked
                  exact ⟨database, database, rfl, rfl, .executes transaction⟩
                · next effective =>
                  cases worked
                  exact ⟨database, _, rfl, rfl, .answers (Bool.eq_false_iff.mpr effective)⟩
            · cases worked
              exact ⟨database, database, rfl, rfl, .fails⟩
      · cases worked

theorem Orderly.silent_work (orderly : task.Orderly key shared)
    (worked : task.work key shared = some (task', shared')) (unwritten : task'.hasWritten = false) :
    shared'.store = shared.store ∧ task.hasWritten = false := by
  by_cases reads : request.isReading = true
  · -- A reading may succeed at this step, and the store is still the same.
    refine ⟨?_, hasWritten_of_reading reads task⟩
    rcases orderly.store_work worked with same | after
    · exact same
    · exact after.trans (Store.after_of_reading reads _)
  · obtain ⟨before, after, isBefore, isAfter, worked⟩ := worked_of_work worked
    rw [isBefore, isAfter]
    -- Only the last step of a task, the one that has a success to report, changes the store.
    cases worked with
    | takes | fails | executes | clears | rollsBack => exact ⟨rfl, rfl⟩
    | answers | commits => simp [hasWritten, reads] at unwritten

theorem canRetract_work (worked : task.work key shared = some (task', shared')) (gone : task.awaited = false)
    (retractable : task.canRetract = true) : task'.canRetract = true := by
  by_cases reads : request.isReading = true
  · simp [canRetract, reads]
  · obtain ⟨before, after, -, -, worked⟩ := worked_of_work worked
    cases worked with
    | takes => exact retractable
    | fails | rollsBack => simp [canRetract]
    | executes transaction => simp [canRetract, transaction]
    | answers effective => simp [canRetract, reads, effective] at retractable
    -- This is the last look, and it takes a caller.
    | clears => cases gone
    | commits => simp [canRetract, reads] at retractable

end StoreTask

namespace Visit

def hasWritten (visit : Visit) : Bool :=
  match visit.stage with
  | .asking _ task _ => task.hasWritten
  | .waiting | .ready _ _ | .leaving _ | .ended _ _ => false

def canRetract (visit : Visit) : Bool :=
  match visit.stage with
  | .asking _ task _ => task.canRetract
  | .waiting | .ready _ _ | .leaving _ | .ended _ _ => true

def TimedOut (visit : Visit) : Prop := visit.stage.result? = some (.error .timedOut)

instance (visit : Visit) : Decidable visit.TimedOut :=
  match told : visit.stage.result? with
  | some (.error .timedOut) => isTrue told
  | some (.error (.invalid _)) | some (.error .periodOutOfRange) | some (.error .dateBusy)
  | some (.error (.eventNotFound _)) | some (.error (.store _)) | some (.ok _) | none =>
      isFalse fun timedOut => by cases told.symm.trans timedOut

theorem reading_of_resume {job : Job} {request : Request} {next : request.Answer → Procedure job.Answer}
    (asks : job.Asks request next) {result : request.Result} {since : Nat} {orphan : Option Errand}
    (unsettled : (⟨job, since, (Procedure.resume next result).stage, orphan⟩ : Visit).isSettled = false) :
    request.isReading = true := by
  cases result with
  | error error => cases unsettled
  | ok answer =>
      rcases asks.goesOn answer with ⟨result, ends⟩ | ⟨slot, write, rest, checks, -, -, -⟩
      · simp [Procedure.resume, ends, Procedure.stage, isSettled] at unsettled
      · -- Only a check that has succeeded is followed by another request.
        rw [Request.eq_check checks]
        rfl

def LeavesQuiet (visit : Visit) : Prop := ∀ errand ∈ visit.orphan, errand.task.canRetract = true

structure Tells (action : Action) (visit visit' : Visit) (before after : Store) : Prop where
  unsettled : visit'.isSettled = false → visit'.hasWritten = false →
    after = before ∧ visit.isSettled = false ∧ visit.hasWritten = false
  timedOut : visit'.TimedOut →
    (action = .timeOut ∧ after = before ∧ visit.isSettled = false ∧
      (visit.canRetract = true → visit.hasWritten = false ∧ visit'.LeavesQuiet)) ∨
    (visit.TimedOut ∧ (visit.LeavesQuiet → after = before ∧ visit'.LeavesQuiet))

variable {visit visit' : Visit} {key time : Nat} {shared shared' : Shared} {action : Action}

theorem Orderly.tells_enter (orderly : visit.Orderly key shared)
    (acted : visit.enter key shared = some (visit', shared')) :
    Tells .enter visit visit' shared.store shared'.store := by
  cases orderly with
  | ready | asking | leaving | ended => cases acted
  | @waiting job since =>
      have untimed := job.untimed.result?_stage
      simp only [Visit.enter, proceed] at acted
      repeat' split at acted
      all_goals cases acted
      all_goals exact ⟨fun _ _ => ⟨rfl, rfl, rfl⟩, fun timedOut => absurd timedOut untimed⟩

theorem Orderly.tells_send (orderly : visit.Orderly key shared)
    (acted : visit.send shared = some (visit', shared')) :
    Tells .send visit visit' shared.store shared'.store := by
  cases orderly with
  | waiting | asking | leaving | ended => cases acted
  | @ready job since request next asks =>
      have untimed (result : request.Result) := (Procedure.Untimed.resume asks.untimed result).result?_stage
      obtain ⟨store, gate, connection⟩ := shared
      cases store with
      | memory memory =>
          rw [send_memory] at acted
          cases acted
          refine ⟨?_, fun timedOut => absurd timedOut (untimed _)⟩
          intro unsettled _
          exact ⟨Store.after_of_reading (reading_of_resume asks unsettled) (.memory memory), rfl, rfl⟩
      | database database =>
          simp only [Visit.send] at acted
          split at acted
          · cases acted
            exact ⟨fun _ _ => ⟨rfl, rfl, rfl⟩, fun timedOut => absurd timedOut (untimed (.error _))⟩
          · cases acted
            exact ⟨fun _ _ => ⟨rfl, rfl, rfl⟩, fun timedOut => by cases timedOut⟩

theorem Orderly.tells_work (orderly : visit.Orderly key shared)
    (acted : visit.work key shared = some (visit', shared')) :
    Tells .work visit visit' shared.store shared'.store := by
  cases orderly with
  | waiting | ready => cases acted
  | @asking job since request task next asks gate tabled awaited orderly =>
      obtain ⟨⟨task', _⟩, worked, same⟩ := Option.map_eq_some_iff.mp acted
      cases same
      refine ⟨?_, fun timedOut => by cases timedOut⟩
      intro _ unwritten
      obtain ⟨same, unwritten⟩ := orderly.silent_work worked unwritten
      exact ⟨same, rfl, unwritten⟩
  | @leaving job since result orphan orphans | @ended job since time result orphan orphans =>
      cases orphan with
      | none => cases acted
      | some errand =>
          obtain ⟨⟨task', _⟩, worked, same⟩ := Option.map_eq_some_iff.mp acted
          cases same
          obtain ⟨gone, orderly⟩ := orphans errand rfl
          refine ⟨fun unsettled => (by cases unsettled), fun timedOut => .inr ⟨timedOut, ?_⟩⟩
          intro quiet
          -- A task that can be taken back stays so without its caller, and so does not write.
          have retractable := StoreTask.canRetract_work worked gone (quiet errand rfl)
          have silent := orderly.silent_work worked (StoreTask.unwritten_of_canRetract retractable)
          refine ⟨silent.1, ?_⟩
          intro other isOrphan
          cases isOrphan
          exact retractable

theorem Orderly.tells_receive (orderly : visit.Orderly key shared)
    (acted : visit.receive shared = some (visit', shared')) :
    Tells .receive visit visit' shared.store shared'.store := by
  cases orderly with
  | waiting | ready | leaving | ended => cases acted
  | @asking job since request task next asks =>
      simp only [Visit.receive, proceed] at acted
      split at acted
      · next result phase =>
        have untimed := (Procedure.Untimed.resume asks.untimed result).result?_stage
        cases acted
        refine ⟨?_, fun timedOut => absurd timedOut untimed⟩
        intro unsettled _
        exact ⟨rfl, rfl, StoreTask.hasWritten_of_reading (reading_of_resume asks unsettled) task⟩
      · cases acted

theorem Orderly.tells_timeOut (orderly : visit.Orderly key shared)
    (acted : visit.timeOut shared = some (visit', shared')) :
    Tells .timeOut visit visit' shared.store shared'.store := by
  cases orderly with
  | waiting | leaving | ended => cases acted
  | ready =>
      cases acted
      refine ⟨fun unsettled => (by cases unsettled), fun _ => .inl ⟨rfl, rfl, rfl, fun _ => ⟨rfl, ?_⟩⟩⟩
      intro errand isOrphan
      cases isOrphan
  | asking =>
      cases acted
      refine ⟨fun unsettled => (by cases unsettled), fun _ => .inl ⟨rfl, rfl, rfl, fun retractable => ?_⟩⟩
      refine ⟨StoreTask.unwritten_of_canRetract retractable, ?_⟩
      intro errand isOrphan
      cases isOrphan
      exact retractable

theorem Orderly.tells (orderly : visit.Orderly key shared)
    (acted : visit.act key time shared action = some (visit', shared')) :
    Tells action visit visit' shared.store shared'.store := by
  cases action with
  | enter => exact orderly.tells_enter acted
  | send => exact orderly.tells_send acted
  | work => exact orderly.tells_work acted
  | receive => exact orderly.tells_receive acted
  | timeOut => exact orderly.tells_timeOut acted
  | drop =>
      -- A caller that was dropped gets no result, so it has not timed out either.
      simp only [Visit.act, Visit.giveUp] at acted
      repeat' split at acted
      all_goals cases acted
      all_goals exact ⟨fun unsettled => (by cases unsettled), fun timedOut => (by cases timedOut)⟩
  | leave =>
      cases orderly with
      | waiting | ready | asking | ended => cases acted
      | leaving =>
          cases acted
          exact ⟨fun unsettled => (by cases unsettled), fun timedOut => .inr ⟨timedOut, fun quiet => ⟨rfl, quiet⟩⟩⟩

end Visit

namespace System

def Quiet (initial : System) (key : Nat) (moves : List Move) : Prop :=
  ∀ earlier action later before after, moves = earlier ++ .act key action :: later →
    run earlier initial = some before → before.move (.act key action) = some after →
      after.shared.store = before.shared.store

/-- The caller of the visit gave up at some step. What could be taken back then has not been done, and no task
that is left will do it. -/
def Retracted (initial : System) (key : Nat) (moves : List Move) (visit : Visit) : Prop :=
  ∃ done rest before waiting, moves = done ++ .act key .timeOut :: rest ∧ run done initial = some before ∧
    before.visits.get? key = some waiting ∧ waiting.job = visit.job ∧
    (waiting.canRetract = true → Quiet initial key moves ∧ visit.LeavesQuiet)

structure Followed (initial : System) (key : Nat) (moves : List Move) (visit : Visit) : Prop where
  unsettled : visit.isSettled = false → visit.hasWritten = false → Quiet initial key moves
  timedOut : visit.TimedOut → Retracted initial key moves visit

structure Watched (initial : System) (moves : List Move) (system : System) : Prop where
  accounted : Accounted moves system
  absent : ∀ key, system.visits.get? key = none → Quiet initial key moves
  visits : ∀ key visit, system.visits.get? key = some visit → Followed initial key moves visit

variable {initial system next : System} {key : Nat} {moves : List Move} {visit visit' : Visit}

theorem quiet_nil (initial : System) (key : Nat) : Quiet initial key [] := by
  intro earlier action later before after whole
  simp at whole

theorem Quiet.snoc {move : Move} (quiet : Quiet initial key moves) (ran : run moves initial = some system)
    (moved : system.move move = some next)
    (silent : ∀ action, move = .act key action → next.shared.store = system.shared.store) :
    Quiet initial key (moves ++ [move]) := by
  intro earlier action later before after whole came stepped
  -- The step is the one that was added, or one of those before it.
  rcases List.eq_nil_or_concat later with rfl | ⟨later', last, rfl⟩
  · obtain ⟨rfl, same⟩ := List.append_inj' whole rfl
    cases same
    cases came.symm.trans ran
    cases stepped.symm.trans moved
    exact silent action rfl
  · rw [List.concat_eq_append, ← List.cons_append, ← List.append_assoc] at whole
    exact quiet earlier action later' before after (List.append_inj' whole rfl).1 came stepped

theorem Retracted.snoc {move : Move} (retracted : Retracted initial key moves visit) (ran : run moves initial = some system)
    (moved : system.move move = some next) (job : visit'.job = visit.job)
    (keeps : visit.LeavesQuiet →
      (∀ action, move = .act key action → next.shared.store = system.shared.store) ∧ visit'.LeavesQuiet) :
    Retracted initial key (moves ++ [move]) visit' := by
  -- The step at which the caller gave up stays where it was in the longer run.
  obtain ⟨done, rest, before, waiting, whole, came, found, same, quiet⟩ := retracted
  refine ⟨done, rest ++ [move], before, waiting, by simp [whole], came, found, same.trans job.symm, ?_⟩
  intro retractable
  obtain ⟨quiet, orphans⟩ := quiet retractable
  obtain ⟨silent, orphans'⟩ := keeps orphans
  exact ⟨quiet.snoc ran moved silent, orphans'⟩

theorem Followed.other {move : Move} (followed : Followed initial key moves visit) (ran : run moves initial = some system)
    (moved : system.move move = some next) (differs : ∀ action, move ≠ .act key action) :
    Followed initial key (moves ++ [move]) visit := by
  have silent (action : Action) (same : move = .act key action) : next.shared.store = system.shared.store :=
    absurd same (differs action)
  exact ⟨fun unsettled unwritten => (followed.unsettled unsettled unwritten).snoc ran moved silent,
    fun timedOut => (followed.timedOut timedOut).snoc ran moved rfl fun orphans => ⟨silent, orphans⟩⟩

theorem Followed.act {action : Action} (followed : Followed initial key moves visit)
    (tells : Visit.Tells action visit visit' system.shared.store next.shared.store)
    (found : system.visits.get? key = some visit) (job : visit'.job = visit.job)
    (ran : run moves initial = some system) (moved : system.move (.act key action) = some next) :
    Followed initial key (moves ++ [.act key action]) visit' := by
  constructor
  · intro unsettled unwritten
    obtain ⟨same, unsettled, unwritten⟩ := tells.unsettled unsettled unwritten
    exact (followed.unsettled unsettled unwritten).snoc ran moved fun _ _ => same
  · intro timedOut
    rcases tells.timedOut timedOut with ⟨rfl, same, unsettled, withdraws⟩ | ⟨timedOut, keeps⟩
    · -- The deadline passes at this very step, so all that came before is known of the visit as it waited.
      refine ⟨moves, [], system, visit, rfl, ran, found, job.symm, ?_⟩
      intro retractable
      obtain ⟨unwritten, quiet⟩ := withdraws retractable
      exact ⟨(followed.unsettled unsettled unwritten).snoc ran moved fun _ _ => same, quiet⟩
    · exact (followed.timedOut timedOut).snoc ran moved job fun quiet => (keeps quiet).imp_left fun same _ _ => same

theorem watched_start (store : Store) : Watched (start store) [] (start store) where
  accounted := accounted_start store
  absent key _ := quiet_nil _ key
  visits key visit found := by cases found

theorem Watched.arrive {job : Job} (watched : Watched initial moves system) (ran : run moves initial = some system)
    (moved : system.move (.arrive key job) = some next) : Watched initial (moves ++ [.arrive key job]) next := by
  have spared (action : Action) (other : Nat) : Move.arrive key job ≠ .act other action := fun same => by cases same
  have stays {other : Nat} (absent : system.visits.get? other = none) :
      Quiet initial other (moves ++ [.arrive key job]) :=
    (watched.absent other absent).snoc ran moved fun action => (absurd · (spared action other))
  have accounted := watched.accounted.move moved
  obtain ⟨absent, same⟩ := move_arrive moved
  refine ⟨accounted, ?_, ?_⟩
  · intro other isAbsent
    rw [same, FinMap.get?_put] at isAbsent
    split at isAbsent
    · cases isAbsent
    · exact stays isAbsent
  · intro other visit found
    rw [same] at found
    rcases FinMap.get?_put_eq_some_iff.mp found with ⟨rfl, rfl⟩ | ⟨-, isOld⟩
    · exact ⟨fun _ _ => stays absent, fun timedOut => by cases timedOut⟩
    · exact (watched.visits other visit isOld).other ran moved fun action => spared action other

theorem Watched.act {action : Action} (watched : Watched initial moves system) (ran : run moves initial = some system)
    (moved : system.move (.act key action) = some next) : Watched initial (moves ++ [.act key action]) next := by
  have accounted := watched.accounted.move moved
  obtain ⟨visit, visit', shared', isThere, acted, same⟩ := move_act moved
  have spared {other : Nat} (differs : other ≠ key) (taken : Action) : Move.act key action ≠ .act other taken := by
    intro same
    cases same
    exact differs rfl
  refine ⟨accounted, ?_, ?_⟩
  · intro other isAbsent
    rw [same, FinMap.get?_put] at isAbsent
    split at isAbsent
    · cases isAbsent
    · next differs =>
      exact (watched.absent other isAbsent).snoc ran moved fun taken => (absurd · (spared differs taken))
  · intro other old found
    rw [same] at found
    rcases FinMap.get?_put_eq_some_iff.mp found with ⟨rfl, rfl⟩ | ⟨differs, isOld⟩
    · have tells := (watched.accounted.orderly.visits other visit isThere).tells acted
      rw [show shared' = next.shared by rw [same]] at tells
      exact (watched.visits other visit isThere).act tells isThere (Visit.act_kept acted).1 ran moved
    · exact (watched.visits other old isOld).other ran moved (spared differs)

theorem watched_of_run {store : Store} (ran : run moves (start store) = some system) :
    Watched (start store) moves system := by
  refine run_keep (Watched (start store)) (watched_start store) ?_ ran
  intro done move rest state next whole came moved watched
  cases move with
  | arrive key job => exact watched.arrive came moved
  | act key action => exact watched.act came moved

/-- The deadline passed at some step, and what the store had been asked for by then is decisive: if it could still
be taken back, no step of the visit in the whole run changes the store. -/
theorem quiet_of_timedOut {store : Store} (ran : run moves (start store) = some system)
    (found : system.visits.get? key = some visit) (timedOut : visit.TimedOut) :
    ∃ done rest before waiting, moves = done ++ .act key .timeOut :: rest ∧ run done (start store) = some before ∧
      before.visits.get? key = some waiting ∧ waiting.job = visit.job ∧
      (waiting.canRetract = true → Quiet (start store) key moves) := by
  obtain ⟨done, rest, before, waiting, whole, came, isThere, job, quiet⟩ :=
    ((watched_of_run ran).visits key visit found).timedOut timedOut
  exact ⟨done, rest, before, waiting, whole, came, isThere, job, fun retractable => (quiet retractable).1⟩

-- The caller of an insert gives up before the last look at it, so the transaction is rolled back.
theorem quiet_of_timedOut_insert :
    let draft : Draft := ⟨0, 7, "", "", some NanoCount.least.toInstant, some NanoCount.greatest.toInstant, none⟩
    let store : Store := .database ⟨.file, .empty, true⟩
    let earlier : List Move := [.arrive 0 (.call (.insert draft)), .act 0 .enter, .act 0 .send, .act 0 .work,
      .act 0 .work, .act 0 .receive, .act 0 .send, .act 0 .work, .act 0 .work]
    let moves := earlier ++ .act 0 .timeOut :: [.act 0 .leave, .act 0 .work]
    ∃ system visit, run moves (start store) = some system ∧ system.visits.get? 0 = some visit ∧ visit.TimedOut ∧
      ∃ before waiting, run earlier (start store) = some before ∧ before.visits.get? 0 = some waiting ∧
        waiting.job = visit.job ∧ waiting.canRetract = true ∧ Quiet (start store) 0 moves := by
  intro draft store earlier moves
  have outcome : ((run moves (start store)).bind fun system =>
      (system.visits.get? 0).map fun visit => decide visit.TimedOut) = some true := by decide
  obtain ⟨system, ran, outcome⟩ := Option.bind_eq_some_iff.mp outcome
  obtain ⟨visit, found, timedOut⟩ := Option.map_eq_some_iff.mp outcome
  have timedOut := of_decide_eq_true timedOut
  obtain ⟨done, rest, before, waiting, whole, came, isThere, job, quiet⟩ := quiet_of_timedOut ran found timedOut
  -- There is only one moment at which a deadline passes, so the visit as it waited then can be computed.
  obtain ⟨rfl, -, rfl⟩ := (List.append_cons_inj_of_notMem (by decide) (by decide)).mp whole
  have retractable : ((run earlier (start store)).bind fun before =>
      (before.visits.get? 0).map Visit.canRetract) = some true := by decide
  rw [came, Option.bind_some, isThere] at retractable
  have retractable := Option.some.inj retractable
  exact ⟨system, visit, ran, found, timedOut, before, waiting, came, isThere, job, retractable, quiet retractable⟩

-- A removal comes to pass after its caller has been told that the deadline has passed.
theorem unquiet_of_timedOut_delete :
    let draft : Draft := ⟨0, 7, "", "", some NanoCount.least.toInstant, some NanoCount.greatest.toInstant, none⟩
    let store : Store := .database ⟨.file, .empty, true⟩
    let inserted : List Move := [.arrive 0 (.call (.insert draft)), .act 0 .enter, .act 0 .send, .act 0 .work,
      .act 0 .work, .act 0 .receive, .act 0 .send, .act 0 .work, .act 0 .work, .act 0 .work, .act 0 .work,
      .act 0 .receive, .act 0 .leave]
    let gaveUp : List Move := [.arrive 1 (.call (.delete 1)), .act 1 .enter, .act 1 .send, .act 1 .timeOut,
      .act 1 .leave]
    ∃ before visit after, run (inserted ++ gaveUp) (start store) = some before ∧
      before.visits.get? 1 = some visit ∧ visit.job = .call (.delete 1) ∧ visit.TimedOut ∧
      before.shared.store.table?.map (fun table => table.rows.length) = some 1 ∧
      run [.act 1 .work, .act 1 .work] before = some after ∧
      after.shared.store.table?.map (fun table => table.rows.length) = some 0 := by
  intro draft store inserted gaveUp
  have outcome : ((run (inserted ++ gaveUp) (start store)).bind fun before =>
      (before.visits.get? 1).bind fun visit => (run [.act 1 .work, .act 1 .work] before).map fun after =>
        decide (visit.job = .call (.delete 1) ∧ visit.TimedOut ∧
          before.shared.store.table?.map (fun table => table.rows.length) = some 1 ∧
          after.shared.store.table?.map (fun table => table.rows.length) = some 0)) = some true := by decide
  obtain ⟨before, ran, outcome⟩ := Option.bind_eq_some_iff.mp outcome
  obtain ⟨visit, found, outcome⟩ := Option.bind_eq_some_iff.mp outcome
  obtain ⟨after, worked, outcome⟩ := Option.map_eq_some_iff.mp outcome
  obtain ⟨job, timedOut, one, none⟩ := of_decide_eq_true outcome
  exact ⟨before, visit, after, ran, found, job, timedOut, one, worked, none⟩

end System
end Datebook
