import Datebook.Proofs.ClampedBounds
import Datebook.Proofs.DraftRules
import Datebook.Proofs.StoreChanges

set_option autoImplicit false

namespace Datebook

open Store (Request)

namespace Instant

variable {left right time : Instant}

theorem lt_iff_nanoCount (regularLeft : left.nanos < 1000000000) (regularRight : right.nanos < 1000000000) :
    left < right ↔ left.nanoCount < right.nanoCount := by
  simp only [lt_def, nanoCount]
  omega

theorem le_iff_nanoCount (regularLeft : left.nanos < 1000000000) (regularRight : right.nanos < 1000000000) :
    left ≤ right ↔ left.nanoCount ≤ right.nanoCount := by
  simp only [le_def, nanoCount]
  omega

theorem nanos_rounded (time : Instant) : time.rounded.nanos < 1000000000 := time.toNanoCount.subseconds_lt

theorem nanoCount_rounded (storable : time.isStorable = true) : time.rounded.nanoCount = time.nanoCount := by
  obtain ⟨count, found⟩ := Option.isSome_iff_exists.mp storable
  rw [rounded, toNanoCount_of_toNanoCount? found, toInstant_of_toNanoCount? found]

theorem isStorable_rounded (time : Instant) : time.rounded.isStorable = true := by
  have count : time.rounded.nanoCount = time.toNanoCount.value := NanoCount.nanoCount_toInstant _
  have fits := And.intro time.toNanoCount.value_ge time.toNanoCount.value_le
  simp only [isStorable, toNanoCount?, count, fits, and_self, dite_true, Option.isSome_some]

end Instant

namespace Event

variable {event : Event} {id : EventId} {notified : Bool}

structure CountsInOrder (event : Event) : Prop where
  ordered : event.onTime.nanoCount < event.offTime.nanoCount
  notifyTime : ∀ time ∈ event.notifyTime,
    event.onTime.nanoCount ≤ time.nanoCount ∧ time.nanoCount ≤ event.offTime.nanoCount

theorem KeepsRules.countsInOrder (keeps : event.KeepsRules)
    (regular : ∀ time ∈ (Request.insert event).instants, time.nanos < 1000000000) : event.CountsInOrder := by
  simp only [Request.instants, List.mem_cons, Option.mem_toList, forall_eq_or_imp] at regular
  obtain ⟨regularOn, regularOff, regularNotify⟩ := regular
  refine ⟨(Instant.lt_iff_nanoCount regularOn regularOff).mp keeps.ordered, ?_⟩
  intro time notifies
  obtain ⟨-, since, upTo⟩ := keeps.notifyTime time notifies
  have regularTime := regularNotify time notifies
  exact ⟨(Instant.le_iff_nanoCount regularOn regularTime).mp since,
    (Instant.le_iff_nanoCount regularTime regularOff).mp upTo⟩

theorem KeepsRules.stored_iff (keeps : event.KeepsRules) :
    (event.stored Instant.rounded id notified).KeepsRules ↔ event.CountsInOrder := by
  have on := Instant.nanoCount_rounded keeps.onTime
  have off := Instant.nanoCount_rounded keeps.offTime
  have notify (time : Instant) (notifies : time ∈ event.notifyTime) :=
    Instant.nanoCount_rounded (keeps.notifyTime time notifies).1
  constructor
  · rintro ⟨-, -, -, -, ordered, notifyTime⟩
    simp only [stored, Instant.lt_iff_nanoCount (Instant.nanos_rounded _) (Instant.nanos_rounded _), on, off] at ordered
    refine ⟨ordered, ?_⟩
    intro time notifies
    obtain ⟨-, since, upTo⟩ := notifyTime time.rounded (Option.mem_map_of_mem _ notifies)
    simp only [stored, Instant.le_iff_nanoCount (Instant.nanos_rounded _) (Instant.nanos_rounded _), on, off,
      notify time notifies] at since upTo
    exact ⟨since, upTo⟩
  · rintro ⟨ordered, notifyTime⟩
    refine ⟨keeps.userId, keeps.title, Instant.isStorable_rounded _, Instant.isStorable_rounded _, ?_, ?_⟩
    · simpa only [stored, Instant.lt_iff_nanoCount (Instant.nanos_rounded _) (Instant.nanos_rounded _), on, off]
    · intro rounded isRounded
      obtain ⟨time, notifies, rfl⟩ := Option.map_eq_some_iff.mp isRounded
      simp only [stored, Instant.le_iff_nanoCount (Instant.nanos_rounded _) (Instant.nanos_rounded _), on, off,
        notify time notifies]
      exact ⟨Instant.isStorable_rounded _, notifyTime time notifies⟩

end Event

namespace Job

variable {job : Job} {request : Request} {next : request.Answer → Procedure job.Answer} {event : Event}

def accepted? : Job → Option Event
  | call (.insert draft) => (draft.check false).toOption
  | call (.update draft) => (draft.check true).toOption
  | _ => none

theorem keepsRules_of_accepted? (accepted : job.accepted? = some event) : event.KeepsRules := by
  have keeps {draft : Draft} {needsId : Bool} (checked : (draft.check needsId).toOption = some event) :
      event.KeepsRules := by
    cases result : draft.check needsId with
    | error violation => simp [result, Except.toOption] at checked
    | ok value =>
        simp only [result, Except.toOption, Option.some.injEq] at checked
        subst checked
        exact (Draft.check_eq_ok_iff.mp result).2.1
  cases job with
  | purge cutoff | markNotified id => cases accepted
  | call call =>
      cases call with
      | insert draft | update draft => exact keeps accepted
      | _ => cases accepted

theorem Asks.accepted? (asks : job.Asks request next)
    (writes : request = .insert event ∨ request = .update event) :
    ∃ accepted, job.accepted? = some accepted ∧
      ∀ round id notified, event.stored round id notified = accepted.stored round id notified := by
  cases asks with
  | first starts => rcases writes with rfl | rfl <;> cases slot?_of_first starts
  | second isGated takes ends starts =>
      cases job with
      | purge cutoff | markNotified id => cases isGated
      | call call =>
          cases call with
          | insert draft | update draft =>
              -- The second request is the write, with what the check made of the draft.
              simp only [procedure, Service.Call.procedure, Service.insert, Service.update] at starts
              split at starts
              · cases starts
              · next accepted checked =>
                refine ⟨accepted, by simp [Job.accepted?, checked, Except.toOption], ?_⟩
                simp only [Procedure.single, Procedure.ask.injEq, heq_eq_eq] at starts
                cases congrFun starts.2 ()
                rcases writes with same | same <;> cases same
                exact fun _ _ _ => rfl
          | _ => cases isGated

end Job

def Event.StemsFrom (event accepted : Event) (done : List Move) (round : Instant → Instant) : Prop :=
  (∃ key job, Move.arrive key job ∈ done ∧ job.accepted? = some accepted) ∧
    event = accepted.stored round event.id event.notified

namespace Requested

variable {done : List Move} {event : Event} {round : Instant → Instant}

theorem stemsFrom {request : Request} (requested : Requested done request)
    (writes : request = .insert event ∨ request = .update event) (id : EventId) (notified : Bool) :
    ∃ accepted, (event.stored round id notified).StemsFrom accepted done round := by
  obtain ⟨key, job, next, arrived, asks⟩ := requested
  obtain ⟨accepted, describes, same⟩ := asks.accepted? writes
  exact ⟨accepted, ⟨key, job, arrived, describes⟩, same round id notified⟩

end Requested

namespace System

variable {moves : List Move} {system : System}

def Stems (round : Instant → Instant) (done : List Move) (system : System) : Prop :=
  ∀ event ∈ system.ledger.events, ∃ accepted, event.StemsFrom accepted done round

theorem stems_start {store : Store} (fresh : store.IsFresh) : Stems store.rounding [] (start store) := by
  intro event member
  rw [ledger, start, fresh.ledger_eq] at member
  cases member

theorem Stems.move {done : List Move} {move : Move} {next : System}
    (stems : Stems system.shared.store.rounding done system) (sane : Sane done system)
    (accounted : Accounted done system) (moved : system.move move = some next) :
    Stems system.shared.store.rounding (done ++ [move]) next := by
  intro event member
  suffices before : ∃ accepted, event.StemsFrom accepted done system.shared.store.rounding by
    obtain ⟨accepted, ⟨key, job, arrived, describes⟩, same⟩ := before
    exact ⟨accepted, ⟨key, job, List.mem_append_left _ arrived, describes⟩, same⟩
  rcases sane.ledger_move accounted moved with same | ⟨request, requested, answered⟩
  · exact stems event (same ▸ member)
  · rw [answered] at member
    cases Ledger.origin_of_mem_answer member with
    | kept isOld => exact stems event isOld
    | inserted new => exact requested.stemsFrom (.inl rfl) _ _
    | updated isOld same => exact requested.stemsFrom (.inr rfl) _ _
    | marked isOld =>
        -- A mark leaves all else as the store keeps it.
        obtain ⟨accepted, describes, same⟩ := stems _ isOld
        refine ⟨accepted, describes, ?_⟩
        rw [same]
        rfl

theorem stemsFrom_of_run {store : Store} (fresh : store.IsFresh)
    (few : store = .memory .empty → moves.countP Move.startsInsert < 2 ^ 64 - 1)
    (ran : run moves (start store) = some system) :
    ∀ event ∈ system.ledger.events, ∃ accepted, event.StemsFrom accepted moves store.rounding := by
  refine run_keep_sane fresh few (Stems store.rounding) (stems_start fresh) ?_ ran
  intro done move system next came sane moved stems
  rw [← rounding_run came] at stems ⊢
  exact stems.move sane (accounted_run came) moved

theorem keepsRules_of_run (few : moves.countP Move.startsInsert < 2 ^ 64 - 1)
    (ran : run moves (start (.memory .empty)) = some system) {event : Event}
    (member : event ∈ system.ledger.events) : event.KeepsRules := by
  obtain ⟨accepted, ⟨key, job, -, describes⟩, same⟩ :=
    stemsFrom_of_run Store.isFresh_empty (fun _ => few) ran event member
  have keeps := (Job.keepsRules_of_accepted? describes).relabel event.id event.notified
  simp only [Event.stored, Store.rounding, Option.map_id, id] at same
  rwa [same]

/-- Whatever calls, purges and marks are under way, an event that a database returns was accepted as the
draft of a call, and the counts of that draft decide whether it would be accepted again. -/
theorem storedRules_of_run {database : Database} (fresh : database.table = .empty)
    (ran : run moves (start (.database database)) = some system) {event : Event}
    (returns : system.shared.store.Returns event) :
    event.id ≠ 0 ∧ event.userId ≠ 0 ∧ event.title.length ≤ Event.titleLimit ∧
      ∃ accepted, event.StemsFrom accepted moves Instant.rounded ∧
        (event.toDraft.check true = .ok { event with notified := false } ↔ accepted.CountsInOrder) ∧
        ((∀ time ∈ (Request.insert accepted).instants, time.nanos < 1000000000) → accepted.CountsInOrder) := by
  have sane := sane_run_database fresh ran
  have member := sane.peaceful.mem_ledger returns
  have assigned := (sane.peaceful.sound.assigned event member).1
  have hasId : event.id ≠ 0 := fun zero => by simp [zero] at assigned
  have isFresh : (Store.database database).IsFresh := fresh
  obtain ⟨accepted, stems⟩ := stemsFrom_of_run isFresh (fun inMemory => by cases inMemory) ran event member
  have ⟨⟨key, job, arrived, describes⟩, same⟩ := stems
  have keeps := Job.keepsRules_of_accepted? describes
  refine ⟨hasId, ?_, ?_, accepted, stems, ?_, keeps.countsInOrder⟩
  · rw [same]
    exact keeps.userId
  · rw [same]
    exact keeps.title
  · have unmarked : { event with notified := false } = accepted.stored Instant.rounded event.id false := by
      rw [same]
      rfl
    rw [Draft.check_eq_ok_iff, unmarked, keeps.stored_iff]
    exact ⟨fun rules => rules.2.1, fun ordered => ⟨fun _ => hasId, ordered, rfl, by rw [same]; rfl⟩⟩

def leapDraft : Draft where
  id := 0
  userId := 7
  title := "leap"
  description := ""
  onTime := some ⟨1483228799, 1500000000, by decide, by decide, by decide, by decide⟩
  offTime := some ⟨1483228800, 200000000, by decide, by decide, by decide, by decide⟩
  notifyTime := none

def leapMoves : List Move :=
  .arrive 0 (.call (.insert leapDraft)) ::
    [.enter, .send, .work, .work, .receive, .send, .work, .work, .work, .work, .receive, .leave].map (.act 0)

-- The leap second is stored as the second after it.
def leapEvent : Event where
  id := 1
  userId := 7
  title := "leap"
  description := ""
  onTime := NanoCount.toInstant ⟨1483228800500000000, by decide, by decide⟩
  offTime := NanoCount.toInstant ⟨1483228800200000000, by decide, by decide⟩
  notifyTime := none
  notified := false

theorem returns_leapEvent : ∃ system, run leapMoves (start (.database ⟨.file, .empty, true⟩)) = some system ∧
    system.shared.store.Returns leapEvent := by
  have outcome : ((run leapMoves (start (.database ⟨.file, .empty, true⟩))).map fun system =>
      (system.shared.store.answer (.lookup 1)).1) = some (.ok leapEvent) := by decide
  obtain ⟨system, ran, answered⟩ := Option.map_eq_some_iff.mp outcome
  exact ⟨system, ran, .lookup 1, leapEvent, answered, List.mem_singleton_self _⟩

theorem storedRules_of_leapSecond : (⟨.file, .empty, true⟩ : Database).table = .empty ∧
    ∃ system, run leapMoves (start (.database ⟨.file, .empty, true⟩)) = some system ∧
      system.shared.store.Returns leapEvent ∧
      ∃ accepted, leapEvent.StemsFrom accepted leapMoves Instant.rounded ∧
        (leapEvent.toDraft.check true = .ok leapEvent ↔ accepted.CountsInOrder) := by
  obtain ⟨system, ran, returns⟩ := returns_leapEvent
  obtain ⟨-, -, -, accepted, stems, decides, -⟩ := storedRules_of_run rfl ran returns
  exact ⟨rfl, system, ran, returns, accepted, stems, decides⟩

theorem stored_leapSecond_breaks_rules :
    leapDraft.check false = .ok { leapEvent with id := 0, onTime := leapDraft.onTime.get rfl } ∧
      ∃ system, run leapMoves (start (.database ⟨.file, .empty, true⟩)) = some system ∧
        system.shared.store.Returns leapEvent ∧
        leapEvent.toDraft.check true = .error ⟨.offTime, .beforeStart⟩ :=
  have ⟨system, ran, returns⟩ := returns_leapEvent
  ⟨by decide, system, ran, returns, by decide⟩

end System
end Datebook
