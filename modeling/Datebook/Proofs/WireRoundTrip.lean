import Datebook.Proofs.DeliveredNotices
import Datebook.Proofs.DraftRules
import Datebook.Proofs.RecordRoundTrip
import Datebook.Proofs.RequestReplay

set_option autoImplicit false

namespace Datebook

namespace Store.Request

-- Does nothing to the event of that id, unless a new event gets it.
def spares (id : EventId) : Store.Request → Prop
  | update event => event.id ≠ id
  | delete other => other ≠ id
  | purge _ | markNotified _ => False
  | insert _ | lookup _ | list _ | listRange _ _ _ | checkFree _ _ _ _ | listDue _ => True

end Store.Request

namespace MemoryStore

variable {memory : MemoryStore} {event : Event} {request : Store.Request} {taken : Nat}

structure Keeps (event : Event) (taken : Nat) (memory : MemoryStore) : Prop where
  found : memory.records.get? event.id = some event
  ahead : ∃ later ≤ taken, memory.nextId.toNat = (event.id.toNat + 1 + later) % 2 ^ 64

theorem Keeps.mono (keeps : memory.Keeps event taken) : memory.Keeps event (taken + 1) := by
  obtain ⟨later, among, ahead⟩ := keeps.ahead
  exact ⟨keeps.found, later, Nat.le_succ_of_le among, ahead⟩

theorem Keeps.nextId_ne (keeps : memory.Keeps event taken) (few : taken < 2 ^ 64 - 1) : memory.nextId ≠ event.id := by
  obtain ⟨later, among, ahead⟩ := keeps.ahead
  have bound := event.id.toNat_lt
  intro same
  rw [same] at ahead
  omega

theorem Keeps.answer (keeps : memory.Keeps event taken) (few : taken < 2 ^ 64 - 1)
    (spares : request.spares event.id) : (memory.answer request).2.Keeps event (taken + 1) := by
  have idle := keeps.mono
  cases request with
  | insert other =>
      obtain ⟨later, among, ahead⟩ := keeps.ahead
      have differs : event.id ≠ memory.nextId := (keeps.nextId_ne few).symm
      refine ⟨?_, later + 1, Nat.succ_le_succ among, ?_⟩
      · simp only [MemoryStore.answer, insert]
        rw [FinMap.get?_put_of_ne _ differs, keeps.found]
      · change (memory.nextId + 1).toNat = _
        rw [UInt64.toNat_add, ahead, ← Nat.add_assoc]
        exact Nat.mod_add_mod _ _ _
  | update other =>
      simp only [MemoryStore.answer]
      split
      · exact idle
      · refine ⟨?_, idle.ahead⟩
        simp only [MemoryStore.update]
        rw [FinMap.get?_put_of_ne _ (Ne.symm spares), keeps.found]
  | delete id =>
      simp only [MemoryStore.answer, remove]
      split
      · exact idle
      · refine ⟨?_, idle.ahead⟩
        rw [FinMap.get?_erase, if_neg (Ne.symm spares), keeps.found]
  | purge | markNotified => cases spares
  | lookup | list | listRange | checkFree | listDue => rwa [eq_of_reading rfl]

end MemoryStore

namespace Procedure

variable {α : Type} {link : StoreLink} {memory : MemoryStore}

theorem Every.mono {procedure : Procedure α} {may might : Store.Request → Prop} (every : procedure.Every may)
    (weaker : ∀ request, may request → might request) : procedure.Every might := by
  induction procedure with
  | done result => trivial
  | ask request next ih => exact ⟨weaker request every.1, fun answer => ih answer (every.2 answer)⟩

theorem run_ask_eq_ok (inMemory : link.store = .memory memory) {request : Store.Request}
    {next : request.Answer → Procedure α} {value : α}
    (succeeded : ((ask request next).run Service.serve link).1 = .ok value) :
    ∃ answer, (memory.answer request).1 = .ok answer ∧ (ask request next).run Service.serve link =
      (next answer).run Service.serve (link.holding (memory.answer request).2) := by
  rw [run] at succeeded ⊢
  rcases StoreLink.serve_eq_or inMemory request with ⟨error, refused⟩ | served
  · rw [refused] at succeeded
    cases succeeded
  · rw [served] at succeeded ⊢
    cases answered : (memory.answer request).1 with
    | error error =>
        rw [answered] at succeeded
        cases succeeded
    | ok answer => exact ⟨answer, rfl, rfl⟩

theorem run_single_eq_ok (inMemory : link.store = .memory memory) {request : Store.Request} {answer : request.Answer}
    (succeeded : ((single request).run Service.serve link).1 = .ok answer) :
    (memory.answer request).1 = .ok answer ∧
      ((single request).run Service.serve link).2 = link.holding (memory.answer request).2 := by
  obtain ⟨given, answered, ran⟩ := run_ask_eq_ok inMemory succeeded
  rw [single, ran] at succeeded ⊢
  cases succeeded
  exact ⟨answered, rfl⟩

end Procedure

namespace Service

variable {link after : StoreLink} {memory : MemoryStore} {draft : Draft} {event : Event}

def Call.target? : Call → Option EventId
  | update draft => some draft.id
  | delete id => some id
  | insert _ | lookup _ | list _ | listPeriod _ _ _ => none

theorem every_spares {call : Call} {id : EventId} (other : call.target? ≠ some id) :
    call.procedure.Every (Store.Request.spares id) := by
  cases call with
  | insert draft =>
      simp only [Call.procedure, insert]
      split
      · trivial
      · exact ⟨trivial, fun _ => ⟨trivial, fun _ => trivial⟩⟩
  | update draft =>
      simp only [Call.procedure, update]
      split
      · trivial
      · next event accepted =>
        have differs : event.id ≠ id := by
          obtain ⟨-, -, -, rfl⟩ := Draft.check_eq_ok_iff.mp accepted
          exact fun same => other (congrArg some same)
        exact ⟨trivial, fun _ => ⟨differs, fun _ => trivial⟩⟩
  | delete id => exact ⟨fun same => other (congrArg some same), fun _ => trivial⟩
  | lookup | list | listPeriod =>
      refine (every_isReading rfl).mono fun request reads => ?_
      cases request with
      | insert | update | delete | purge | markNotified => cases reads
      | lookup | list | listRange | checkFree | listDue => trivial

theorem perform_insert {id : EventId} (inMemory : link.store = .memory memory)
    (inserted : (perform (.insert draft) link).1 = .ok id) :
    ∃ event memory', event.id = id ∧ event.toDraft = { draft with id } ∧ event.notified = false ∧
      (perform (.insert draft) link).2 = link.holding memory' ∧ memory'.Keeps event 0 := by
  simp only [perform, Call.procedure, insert] at inserted ⊢
  cases checked : draft.check false with
  | error violation =>
      rw [checked] at inserted
      cases inserted
  | ok event =>
      obtain ⟨-, -, -, rfl⟩ := Draft.check_eq_ok_iff.mp checked
      simp only [checked] at inserted ⊢
      obtain ⟨answer, -, ran⟩ := Procedure.run_ask_eq_ok inMemory inserted
      rw [MemoryStore.eq_of_reading rfl, StoreLink.holding_eq inMemory] at ran
      rw [ran] at inserted ⊢
      obtain ⟨stored, left⟩ := Procedure.run_single_eq_ok inMemory inserted
      cases stored
      refine ⟨{ event with id := memory.nextId, notified := false }, _, rfl, rfl, rfl, left, ?_, 0, Nat.le_refl 0, ?_⟩
      · exact FinMap.get?_put_self _ _ _
      · exact UInt64.toNat_add memory.nextId 1

theorem perform_lookup (inMemory : link.store = .memory memory)
    (found : memory.records.get? event.id = some event) {answer : Event}
    (seen : (perform (.lookup event.id) link).1 = .ok answer) : answer = event := by
  simp only [perform, Call.procedure, lookup] at seen
  split at seen
  · cases seen
  · obtain ⟨looked, -⟩ := Procedure.run_single_eq_ok inMemory seen
    simp only [MemoryStore.answer, found] at looked
    cases looked
    rfl

end Service

open Json
open Text.RawText (ofChars)

namespace Http

variable {link : StoreLink} {memory : MemoryStore} {event : Event} {taken : Nat} {request : Request}

theorem handleAll_keeps (inMemory : link.store = .memory memory) (keeps : memory.Keeps event taken)
    {requests : List Request} (few : taken + requests.length < 2 ^ 64)
    (spared : ∀ request ∈ requests, ∀ call, request.call? = some call → call.target? ≠ some event.id) :
    ∃ after, (handleAll requests link).2.store = .memory after ∧ after.Keeps event (taken + requests.length) := by
  induction requests generalizing link memory taken with
  | nil => exact ⟨memory, inMemory, keeps⟩
  | cons request rest ih =>
      rw [List.length_cons] at few ⊢
      have next : ∃ after, (handle request link).2.store = .memory after ∧ after.Keeps event (taken + 1) := by
        cases asks : request.call? with
        | none => exact ⟨memory, by rw [handle_of_none asks, inMemory], keeps.mono⟩
        | some call =>
            rw [handle_of_call? asks]
            have every := Service.every_spares (spared request (List.mem_cons_self ..) call asks)
            rcases (Service.writesLast_procedure call).run_eq_or every inMemory with
              same | ⟨asked, value, spares, left⟩
            · exact ⟨memory, (congrArg StoreLink.store same).trans inMemory, keeps.mono⟩
            · exact ⟨_, congrArg (fun outcome => outcome.2.store) left, keeps.answer (by omega) spares⟩
      obtain ⟨after, inMemory', keeps'⟩ := next
      obtain ⟨final, inMemory'', keeps''⟩ :=
        ih inMemory' keeps' (by omega) fun other listed => spared other (List.mem_cons_of_mem _ listed)
      exact ⟨final, inMemory'', by rwa [Nat.add_assoc, Nat.add_comm 1] at keeps''⟩

theorem ok_of_status {call : Service.Call} (asks : request.call? = some call)
    (status : (handle request link).1.status = 200) :
    ∃ answer, (Service.perform call link).1 = .ok answer ∧
      (handle request link).1.body = .json (answerLexemes call answer) := by
  rw [handle_of_call? asks] at status ⊢
  cases performed : (Service.perform call link).1 with
  | ok answer => exact ⟨answer, rfl, rfl⟩
  | error error =>
      rw [performed] at status
      exact absurd status (errorStatus_ne error)

theorem readWhole_idLexemes (id : EventId) : readWhole idShape.read (ofChars (write (idLexemes id))) = .ok id := by
  have sets : Sets idShape.blank (idShape.members.zip [[.natural id]]) id :=
    .cons (reads_natural id).member (.nil id)
  exact readWhole_write (apart_of_single (by simp)) (Shape.read_objectOf (by decide) rfl sets)

def posted (path : String) (content : List Lexeme) : Request :=
  ⟨"POST", path, some "application/json", ofChars (write content)⟩

theorem call?_posted {path : String} {content : List Lexeme} {call : Service.Call} (route : Route)
    (found : Route.ofPath? path = some route) (small : (ofChars (write content)).byteCount ≤ greatestBodySize)
    (reads : route.call? (ofChars (write content)) = some (.ok call)) : (posted path content).call? = some call := by
  have json : MediaType.isJson "application/json" = true := by decide
  simp only [Request.call?, posted, found, Option.any_some, json, small, and_self, if_true, Option.bind_some, reads,
    Except.toOption]

theorem lookup_after_insert (inMemory : link.store = .memory memory) {insertion : Request} {draft : Draft}
    (inserts : insertion.call? = some (.insert draft)) (inserted : (handle insertion link).1.status = 200) :
    ∃ id, (handle insertion link).1.body = .json (idLexemes id) ∧
      ∀ (between : List Request) (lookup : Request), between.length < 2 ^ 64 →
        (∀ request ∈ between, ∀ call, request.call? = some call → call.target? ≠ some id) →
        lookup.call? = some (.lookup id) →
        (handle lookup (handleAll between (handle insertion link).2).2).1.status = 200 →
        ∃ event : Event, event.toDraft = { draft with id } ∧ event.notified = false ∧
          (handle lookup (handleAll between (handle insertion link).2).2).1.body = .json event.lexemes := by
  obtain ⟨id, performed, body⟩ := ok_of_status inserts inserted
  obtain ⟨event, stored, rfl, described, unnotified, left, keeps⟩ := Service.perform_insert inMemory performed
  refine ⟨event.id, body, fun between lookup few spared looks seen => ⟨event, described, unnotified, ?_⟩⟩
  have inMemory' : (handle insertion link).2.store = .memory stored := by
    rw [handle_of_call? inserts, left]
    rfl
  obtain ⟨final, inMemory'', keeps'⟩ := handleAll_keeps inMemory' keeps (by omega) spared
  obtain ⟨answer, looked, shown⟩ := ok_of_status looks seen
  rw [shown, Service.perform_lookup inMemory'' keeps'.found looked]
  rfl

end Http

/-- Events, drafts and notices survive being written and read. A notice in the queue is therefore never skipped as
unreadable, and what a consumer places for it is the notice that was sent; and an inserted event is looked up
with the fields of its draft, the id that the insert has answered, and not yet notified. -/
theorem wire_roundTrip :
    (∀ event : Event, readWhole Event.shape.read (ofChars (write event.lexemes)) = .ok event) ∧
    (∀ draft : Draft, readWhole Draft.shape.read (ofChars (write draft.lexemes)) = .ok draft) ∧
    (∀ notice : Notice, Notice.decode (ofChars notice.encode) = .ok notice) ∧
    (∀ (broker : Broker) (moves : List Depot.Move) (depot : Depot), broker.Ordered →
      Steps.run Depot.step moves (Depot.start broker) = some depot →
      ∀ (event : Event) (message : Message), message ∈ depot.published → message.queue = Broker.noticeQueue →
        message.payload = ofChars event.toNotice.encode →
        (message ∈ depot.broker.rows ∨ depot.HasPlaced message) ∧
          ∀ key courier, depot.couriers.get? key = some courier →
            (∀ notice, (message, notice) ∈ courier.placed → notice = event.toNotice) ∧
            (courier.phase = .settling message → (message, event.toNotice) ∈ courier.placed)) ∧
    ∀ (memory : MemoryStore) (stalled refused : List Operation) (insertion : Http.Request) (draft : Draft),
      let inserted := Http.handle insertion ⟨.memory memory, stalled, refused⟩
      insertion.call? = some (.insert draft) → inserted.1.status = 200 →
      ∃ id idText, inserted.1.body = .json idText ∧ readWhole Http.idShape.read (ofChars (write idText)) = .ok id ∧
        ∀ (between : List Http.Request) (lookup : Http.Request), between.length < 2 ^ 64 →
          (∀ request ∈ between, ∀ call, request.call? = some call → call.target? ≠ some id) →
          let looked := Http.handle lookup (Http.handleAll between inserted.2).2
          lookup.call? = some (.lookup id) → looked.1.status = 200 →
          ∃ (event : Event) (eventText : List Lexeme), looked.1.body = .json eventText ∧
            readWhole Event.shape.read (ofChars (write eventText)) = .ok event ∧
            event.toDraft = { draft with id } ∧ event.notified = false := by
  refine ⟨Event.readWhole_lexemes, Draft.readWhole_lexemes, Notice.decode_encode, ?_, ?_⟩
  · intro broker moves depot ordered ran event message isPublished queue payload
    have sound := Depot.sound_of_run ordered ran
    have reads : Notice.decode message.payload = .ok event.toNotice := payload ▸ event.toNotice.decode_encode
    have unskipped (fault : Fault) : Notice.decode message.payload ≠ .error fault := by simp [reads]
    have same {notice : Notice} (decodes : Notice.decode message.payload = .ok notice) : notice = event.toNotice := by
      rw [reads] at decodes
      exact (Except.ok.inj decodes).symm
    constructor
    · by_cases waits : message ∈ depot.broker.rows
      · exact .inl waits
      · obtain ⟨-, -, placed | ⟨fault, fails⟩⟩ := sound.removed message isPublished waits
        · exact .inr placed
        · exact absurd fails (unskipped fault)
    · intro key courier found
      have courierSound := sound.couriers key courier found
      constructor
      · exact fun notice placed => same (courierSound.placed message notice placed).2.2
      · intro settles
        rcases courierSound.settles message settles with ⟨notice, placed⟩ | ⟨fault, fails⟩
        · rwa [← same (courierSound.placed message notice placed).2.2]
        · exact absurd fails (unskipped fault)
  · intro memory stalled refused insertion draft inserted inserts status
    obtain ⟨id, body, later⟩ := @Http.lookup_after_insert ⟨.memory memory, stalled, refused⟩ memory rfl _ _ inserts status
    refine ⟨id, _, body, Http.readWhole_idLexemes id, ?_⟩
    intro between lookup few spared looked looks seen
    obtain ⟨event, described, unnotified, shown⟩ := later between lookup few spared looks seen
    exact ⟨event, _, shown, event.readWhole_lexemes, described, unnotified⟩

theorem wire_roundTrip_of_quotedTitle :
    let later : Instant := NanoCount.toInstant ⟨1500000000, by decide, by decide⟩
    let event : Event := ⟨1, 7, "the \"one\"\n", "", epoch, later, some epoch, false⟩
    let message : Message := ⟨1, Broker.noticeQueue, ofChars event.toNotice.encode⟩
    let moves : List Depot.Move := [.publish message.queue message.payload .sound, .join 0, .act 0 .start .sound,
      .act 0 .look .sound, .act 0 .deliver .sound, .act 0 .settle .sound]
    let draft : Draft := { event.toDraft with id := 0 }
    let insertion := Http.posted "/v1/events/insert" draft.lexemes
    let lookup := Http.posted "/v1/events/lookup" (Http.idLexemes 1)
    (∃ depot courier, Steps.run Depot.step moves (Depot.start .empty) = some depot ∧
      depot.couriers.get? 0 = some courier ∧ depot.broker.rows = [] ∧ depot.HasPlaced message ∧
      ∀ notice, (message, notice) ∈ courier.placed → notice = event.toNotice) ∧
    ∃ (stored : Event) (eventText : List Lexeme),
      (Http.handle lookup (Http.handle insertion ⟨.memory .empty, [], []⟩).2).1.body = .json eventText ∧
      readWhole Event.shape.read (ofChars (write eventText)) = .ok stored ∧
      stored.toDraft = { draft with id := 1 } ∧ stored.notified = false := by
  intro later event message moves draft insertion lookup
  obtain ⟨-, readsDraft, -, delivers, answers⟩ := wire_roundTrip
  constructor
  · let before : Depot := ⟨⟨[message], 1, .sound⟩, FinMap.empty.put 0 ⟨.looking, .empty, .start, []⟩, [], [message], []⟩
    let courier : Courier := ⟨.beginning, ⟨some event.toNotice, true⟩, .start, [(message, event.toNotice)]⟩
    let depot : Depot := ⟨⟨[], 1, .sound⟩, FinMap.empty.put 0 courier, [], [message], [1]⟩
    have came : Steps.run Depot.step (moves.take 3) (Depot.start .empty) = some before := rfl
    have looks := @Depot.step_look before 0 _ message _ _ rfl rfl rfl event.toNotice.decode_encode
    have ran : Steps.run Depot.step moves (Depot.start .empty) = some depot := by
      have whole : moves = moves.take 3 ++ .act 0 .look .sound :: moves.drop 4 := rfl
      rw [whole, Steps.run_past came looks]
      rfl
    obtain ⟨waitsOrPlaced, placed⟩ := delivers .empty moves depot ⟨.nil, by simp [Broker.empty]⟩ ran event message
      (by simp [depot]) rfl rfl
    refine ⟨depot, courier, ran, rfl, rfl, waitsOrPlaced.resolve_left ?_, (placed 0 courier rfl).1⟩
    simp [depot]
  · have inserts : insertion.call? = some (.insert draft) := by
      refine Http.call?_posted .insert (by decide) ?_ ?_
      · dsimp only [draft, event, later]
        decide +kernel
      · rw [Http.Route.call?, readFirst_of_readWhole (readsDraft draft)]
        rfl
    have looks : lookup.call? = some (.lookup 1) := by
      refine Http.call?_posted .lookup (by decide) (by decide) ?_
      rw [Http.Route.call?, readFirst_of_readWhole (Http.readWhole_idLexemes 1)]
      rfl
    have inserted : (Service.perform (.insert draft) ⟨.memory .empty, [], []⟩).1 = .ok 1 := by
      dsimp only [draft, event, later]
      rfl
    have lookedUp : (Service.perform (.lookup 1) (Service.perform (.insert draft) ⟨.memory .empty, [], []⟩).2).1 =
        .ok event := by
      dsimp only [draft, event, later]
      rfl
    obtain ⟨id, idText, body, reads, finds⟩ := answers .empty [] [] insertion draft inserts (by
      rw [Http.handle_of_call? inserts, inserted]
      rfl)
    -- The store was empty, so the insert is answered with the first id.
    rw [Http.handle_of_call? inserts, inserted] at body
    cases body
    cases reads.symm.trans (Http.readWhole_idLexemes 1)
    obtain ⟨stored, eventText, shown, readsBack, described, unnotified⟩ :=
      finds [] lookup (by decide) (by simp) looks (by
        rw [Http.handle_of_call? looks, Http.handleAll, Http.handle_of_call? inserts, lookedUp]
        rfl)
    rw [Http.handleAll] at shown
    exact ⟨stored, eventText, shown, readsBack, described, unnotified⟩

end Datebook
