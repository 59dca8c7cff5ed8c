import Datebook.Http.Router
import Datebook.Proofs.Slots

set_option autoImplicit false

namespace Datebook

namespace StoreLink

variable {link : StoreLink} {memory : MemoryStore}

def holding (link : StoreLink) (memory : MemoryStore) : StoreLink := { link with store := .memory memory }

theorem holding_eq (inMemory : link.store = .memory memory) : link.holding memory = link := by
  rw [holding, ← inMemory]

theorem serve_eq_or (inMemory : link.store = .memory memory) (request : Store.Request) :
    (∃ error, Service.serve request link = (.error error, link)) ∨
      Service.serve request link =
        ((memory.answer request).1.mapError .ofStore, link.holding (memory.answer request).2) := by
  by_cases late : Service.deadline < link.delay request.operation
  · exact .inl ⟨.timedOut, by rw [Service.serve, if_pos late]⟩
  by_cases refused : link.refused.contains request.operation
  · exact .inl ⟨.ofStore (.refused request.operation.name), by
      rw [Service.serve, if_neg late, answer, if_pos refused]
      rfl⟩
  · right
    rw [Service.serve, if_neg late, answer, if_neg refused, inMemory]
    rfl

end StoreLink

namespace Procedure

variable {α : Type} {procedure : Procedure α} {link : StoreLink} {memory : MemoryStore}

def Every (may : Store.Request → Prop) : Procedure α → Prop
  | done _ => True
  | ask request next => may request ∧ ∀ answer, (next answer).Every may

theorem every_true (procedure : Procedure α) : procedure.Every fun _ => True := by
  induction procedure with
  | done result => trivial
  | ask request next ih => exact ⟨trivial, ih⟩

/-- Asks at most one request that is more than a reading, and has succeeded once that is answered. -/
inductive WritesLast : Procedure α → Prop where
  | done (result : Except ServiceError α) : WritesLast (done result)
  | reads {request : Store.Request} {next : request.Answer → Procedure α} (reads : request.isReading = true)
      (rest : ∀ answer, WritesLast (next answer)) : WritesLast (ask request next)
  | last {request : Store.Request} {next : request.Answer → Procedure α}
      (ends : ∀ answer, ∃ value, next answer = .done (.ok value)) : WritesLast (ask request next)

theorem writesLast_single (request : Store.Request) : (single request).WritesLast :=
  .last fun answer => ⟨answer, rfl⟩

theorem WritesLast.run_eq_or (writesLast : procedure.WritesLast) {may : Store.Request → Prop}
    (every : procedure.Every may) (inMemory : link.store = .memory memory) :
    (procedure.run Service.serve link).2 = link ∨ ∃ request value, may request ∧
      procedure.run Service.serve link = (.ok value, link.holding (memory.answer request).2) := by
  induction writesLast with
  | done result => exact .inl rfl
  | @reads request next reads rest ih =>
      rw [run]
      rcases StoreLink.serve_eq_or inMemory request with ⟨error, refused⟩ | served
      · rw [refused]
        exact .inl rfl
      · rw [served, MemoryStore.eq_of_reading reads, StoreLink.holding_eq inMemory]
        cases (memory.answer request).1 with
        | error error => exact .inl rfl
        | ok answer => exact ih answer (every.2 answer)
  | @last request next ends =>
      rw [run]
      rcases StoreLink.serve_eq_or inMemory request with ⟨error, refused⟩ | served
      · rw [refused]
        exact .inl rfl
      · rw [served]
        cases answered : (memory.answer request).1 with
        | error error =>
            rw [MemoryStore.eq_of_answer_error answered, StoreLink.holding_eq inMemory]
            exact .inl rfl
        | ok answer =>
            obtain ⟨value, ended⟩ := ends answer
            refine .inr ⟨request, value, every.1, ?_⟩
            change (next answer).run Service.serve _ = _
            rw [ended]
            rfl

end Procedure

namespace Service

variable {call : Call}

def Call.isWrite : Call → Bool
  | insert _ | update _ | delete _ => true
  | lookup _ | list _ | listPeriod _ _ _ => false

theorem writesLast_procedure (call : Call) : call.procedure.WritesLast := by
  cases call with
  | insert draft | update draft =>
      simp only [Call.procedure, insert, update]
      split
      · exact .done _
      · exact .reads rfl fun _ => Procedure.writesLast_single _
  | delete id => exact Procedure.writesLast_single _
  | lookup id | list userId =>
      simp only [Call.procedure, lookup, list]
      split
      · exact .done _
      · exact Procedure.writesLast_single _
  | listPeriod kind userId date =>
      simp only [Call.procedure, listPeriod]
      split
      · exact .done _
      split
      · exact .done _
      · exact Procedure.writesLast_single _

theorem every_isReading (reads : call.isWrite = false) :
    call.procedure.Every fun request => request.isReading = true := by
  cases call with
  | insert | update | delete => cases reads
  | lookup id | list userId =>
      simp only [Call.procedure, lookup, list]
      split
      · trivial
      · exact ⟨rfl, fun _ => trivial⟩
  | listPeriod kind userId date =>
      simp only [Call.procedure, listPeriod]
      split
      · trivial
      split
      · trivial
      · exact ⟨rfl, fun _ => trivial⟩

end Service

namespace Http

variable {request : Request} {link : StoreLink} {memory : MemoryStore} {call : Service.Call}

def Route.isWrite : Route → Bool
  | insert | update | delete => true
  | health | lookup | list | listPeriod _ => false

def Request.isWrite (request : Request) : Bool := (Route.ofPath? request.path).any Route.isWrite

/-- The call that the service is asked to make, when nothing is wrong with the request itself. -/
def Request.call? (request : Request) : Option Service.Call :=
  if request.method = "POST" ∧ request.contentType.any MediaType.isJson ∧
      request.body.byteCount ≤ greatestBodySize then
    (Route.ofPath? request.path).bind fun route => (route.call? request.body).bind Except.toOption
  else none

theorem handle_of_call? (asks : request.call? = some call) (link : StoreLink) :
    handle request link = (.ofCall call (Service.perform call link).1, (Service.perform call link).2) := by
  unfold Request.call? at asks
  split at asks
  · next admitted =>
    obtain ⟨route, found, asks⟩ := Option.bind_eq_some_iff.mp asks
    obtain ⟨body, reads, asks⟩ := Option.bind_eq_some_iff.mp asks
    cases body with
    | error fault => cases asks
    | ok wanted =>
        cases asks
        simp [handle, found, reads, admitted.1, admitted.2.1, Nat.not_lt.mpr admitted.2.2]
  · cases asks

theorem handle_of_none (asks : request.call? = none) (link : StoreLink) : (handle request link).2 = link := by
  unfold handle
  split
  · rfl
  · next route found =>
    split
    · split
      · rfl
      split <;> rfl
    · next body reads =>
      by_cases post : request.method = "POST"
      · by_cases json : request.contentType.any MediaType.isJson
        · by_cases large : greatestBodySize < request.body.byteCount
          · simp [post, json, large]
          · cases body with
            | error fault => simp [post, json, large]
            | ok call => simp [Request.call?, found, reads, post, json, Nat.not_lt.mp large, Except.toOption] at asks
        · simp [post, json]
      · simp [post]

theorem isWrite_of_reads {route : Route} {body : Text.RawText} (reads : route.call? body = some (.ok call)) :
    call.isWrite = route.isWrite := by
  -- A body that reads is wrapped in the call of its route.
  have wrapped {α : Type} {wrap : α → Service.Call} {read : Except Json.Fault α} (same : read.map wrap = .ok call) :
      ∃ value, call = wrap value := by
    cases read with
    | error fault => cases same
    | ok value =>
        cases same
        exact ⟨value, rfl⟩
  cases route with
  | health => cases reads
  | insert | update | delete | lookup | list | listPeriod =>
      obtain ⟨value, rfl⟩ := wrapped (Option.some.inj reads)
      rfl

theorem isWrite_of_call? (asks : request.call? = some call) : call.isWrite = request.isWrite := by
  unfold Request.call? at asks
  split at asks
  · obtain ⟨route, found, asks⟩ := Option.bind_eq_some_iff.mp asks
    obtain ⟨body, reads, asks⟩ := Option.bind_eq_some_iff.mp asks
    cases body with
    | error fault => cases asks
    | ok wanted =>
        cases asks
        rw [Request.isWrite, found]
        exact isWrite_of_reads reads
  · cases asks

theorem errorStatus_ne (error : ServiceError) : errorStatus error ≠ 200 := by
  cases error <;> simp [errorStatus]

theorem failed_of_status (result : Except ServiceError call.Answer) (status : (Response.ofCall call result).status ≠ 200) :
    ∃ error, result = .error error := by
  cases result with
  | ok answer => exact absurd rfl status
  | error error => exact ⟨error, rfl⟩

theorem eq_of_idle (inMemory : link.store = .memory memory)
    (idle : request.isWrite = false ∨ (handle request link).1.status ≠ 200) : (handle request link).2 = link := by
  cases asks : request.call? with
  | none => exact handle_of_none asks link
  | some call =>
      rw [handle_of_call? asks] at idle ⊢
      have writesLast := Service.writesLast_procedure call
      rcases idle with reads | status
      · rw [← isWrite_of_call? asks] at reads
        rcases writesLast.run_eq_or (Service.every_isReading reads) inMemory with same | ⟨asked, value, asksReading, left⟩
        · exact same
        · rw [MemoryStore.eq_of_reading asksReading, StoreLink.holding_eq inMemory] at left
          exact congrArg Prod.snd left
      · obtain ⟨error, failed⟩ := failed_of_status _ status
        rcases writesLast.run_eq_or call.procedure.every_true inMemory with same | ⟨asked, value, -, left⟩
        · exact same
        · have answered : (Service.perform call link).1 = .ok value := congrArg Prod.fst left
          rw [failed] at answered
          cases answered

def handleAll : List Request → StoreLink → List Response × StoreLink
  | [], link => ([], link)
  | request :: rest, link =>
      let (response, link) := handle request link
      let (responses, link) := handleAll rest link
      (response :: responses, link)

theorem handleAll_cons (request : Request) (rest : List Request) (link : StoreLink) :
    handleAll (request :: rest) link =
      ((handle request link).1 :: (handleAll rest (handle request link).2).1,
        (handleAll rest (handle request link).2).2) := rfl

def isEffective (exchange : Request × Response) : Bool := exchange.1.isWrite && exchange.2.status = 200

def effects (requests : List Request) (link : StoreLink) : List (Request × Response) :=
  (requests.zip (handleAll requests link).1).filter isEffective

theorem handle_inMemory (inMemory : link.store = .memory memory) (request : Request) :
    ∃ after, (handle request link).2.store = .memory after := by
  cases asks : request.call? with
  | none => exact ⟨memory, by rw [handle_of_none asks, inMemory]⟩
  | some call =>
      rw [handle_of_call? asks]
      rcases (Service.writesLast_procedure call).run_eq_or call.procedure.every_true inMemory with
        same | ⟨asked, value, -, left⟩
      · exact ⟨memory, (congrArg StoreLink.store same).trans inMemory⟩
      · exact ⟨_, congrArg (fun outcome => outcome.2.store) left⟩

theorem handleAll_inMemory (inMemory : link.store = .memory memory) (requests : List Request) :
    ∃ after, (handleAll requests link).2.store = .memory after := by
  induction requests generalizing link memory with
  | nil => exact ⟨memory, inMemory⟩
  | cons request rest ih =>
      obtain ⟨after, inMemory⟩ := handle_inMemory inMemory request
      exact ih inMemory

theorem effects_cons (request : Request) (rest : List Request) (link : StoreLink) :
    effects (request :: rest) link =
      if isEffective (request, (handle request link).1) then
        (request, (handle request link).1) :: effects rest (handle request link).2
      else effects rest (handle request link).2 :=
  List.filter_cons

theorem handleAll_effects (inMemory : link.store = .memory memory) (requests : List Request) :
    handleAll ((effects requests link).map Prod.fst) link =
      ((effects requests link).map Prod.snd, (handleAll requests link).2) := by
  induction requests generalizing link memory with
  | nil => rfl
  | cons request rest ih =>
      obtain ⟨after, inMemory'⟩ := handle_inMemory inMemory request
      have later := ih inMemory'
      rw [effects_cons]
      by_cases effective : isEffective (request, (handle request link).1) = true
      · rw [if_pos effective, List.map_cons, handleAll_cons, later]
        rfl
      · -- What is left out has left no trace, so the rest is handled over the same store.
        rw [if_neg effective]
        have idle : request.isWrite = false ∨ (handle request link).1.status ≠ 200 := by
          simpa [isEffective, Decidable.imp_iff_not_or] using effective
        rw [eq_of_idle inMemory idle] at later ⊢
        rw [later, handleAll_cons, eq_of_idle inMemory idle]

/-- A request that reads or fails leaves the records, the index and the next id as they were, and the successful
writes alone, over the same store to begin with, get the same responses and leave the same store. -/
theorem replay_of_requests (memory : MemoryStore) (stalled refused : List Operation) (requests : List Request) :
    let link : StoreLink := ⟨.memory memory, stalled, refused⟩
    (∀ before request after, requests = before ++ request :: after →
      request.isWrite = false ∨ (handle request (handleAll before link).2).1.status ≠ 200 →
        (handle request (handleAll before link).2).2 = (handleAll before link).2) ∧
      handleAll ((effects requests link).map Prod.fst) link =
        ((effects requests link).map Prod.snd, (handleAll requests link).2) := by
  intro link
  constructor
  · intro before request after _ idle
    obtain ⟨memory', inMemory⟩ := @handleAll_inMemory link memory rfl before
    exact eq_of_idle inMemory idle
  · exact @handleAll_effects link memory rfl requests

end Http
end Datebook
