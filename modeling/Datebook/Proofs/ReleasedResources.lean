import Datebook.Proofs.MarkedEvents
import Datebook.Proofs.SchedulerRun

set_option autoImplicit false

namespace Datebook

-- Memory has no connection.
def Store.IsClosed : Store → Prop
  | memory _ => True
  | database inner => inner.connected = false

theorem Store.isClosed_close (store : Store) : store.close.IsClosed := by
  cases store with
  | memory inner => trivial
  | database inner => rfl

def StoreLink.IsClosed (link : StoreLink) : Prop := link.refused.contains .close = true ∨ link.store.IsClosed

theorem StoreLink.isClosed_close (link : StoreLink) : link.close.2.IsClosed := by
  unfold StoreLink.close
  split
  · next refused => exact .inl refused
  · exact .inr link.store.isClosed_close

def Producer.IsClosed : Producer → Prop
  | outbox => True
  | queue endpoint => endpoint.link = none

def Consumer.IsClosed (consumer : Consumer) : Prop := consumer.endpoint.link = none ∧ consumer.delivering = false

namespace Scheduler

variable {scheduler middle next last : Scheduler} {now : Instant} {event : Event} {sent : List Event}
  {wait : Wait} {waits : List Wait} {passes : List Pass} {progress : Progress} {notices : List Notice}
  {outcome : List TickReport × Progress × Scheduler} {failure : Option TransportError}

structure StaysOpen (before after : Scheduler) : Prop where
  trace : ∃ ids : List EventId, after.trace = before.trace ++ ids.map Trace.sent
  producer : after.producer = before.producer

theorem staysOpen_of_eq (trace : next.trace = scheduler.trace) (producer : next.producer = scheduler.producer) :
    scheduler.StaysOpen next :=
  ⟨⟨[], by simp [trace]⟩, producer⟩

theorem StaysOpen.trans (first : scheduler.StaysOpen middle) (second : middle.StaysOpen next) :
    scheduler.StaysOpen next := by
  obtain ⟨⟨ids, trace⟩, producer⟩ := first
  obtain ⟨⟨ids', trace'⟩, producer'⟩ := second
  exact ⟨⟨ids ++ ids', by simp [trace', trace]⟩, producer'.trans producer⟩

theorem staysOpen_send (scheduler : Scheduler) (event : Event) : scheduler.StaysOpen (scheduler.send event).2 := by
  simp only [send]
  split
  · exact staysOpen_of_eq rfl rfl
  · simp only [produce, record]
    split
    · exact ⟨⟨[event.id], rfl⟩, rfl⟩
    · exact ⟨⟨[event.id], rfl⟩, rfl⟩

theorem Sends.staysOpen (sends : scheduler.Sends sent next) : scheduler.StaysOpen next := by
  induction sends with
  | none scheduler => exact staysOpen_of_eq rfl rfl
  | @one scheduler middle next event rest taken others ih =>
      have first := scheduler.staysOpen_send event
      rw [taken] at first
      exact first.trans ih

theorem Refuses.staysOpen {error : TransportError} (refuses : scheduler.Refuses sent event error last) :
    scheduler.StaysOpen last := by
  obtain ⟨middle, sends, refused⟩ := refuses
  have final := middle.staysOpen_send event
  rw [refused] at final
  exact sends.staysOpen.trans final

theorem staysOpen_tick (scheduler : Scheduler) (now : Instant) : scheduler.StaysOpen (scheduler.tick now).2 := by
  have ticked := scheduler.ticked_tick now
  generalize scheduler.tick now = outcome at ticked
  cases ticked with
  | unlisted failed => exact staysOpen_of_eq rfl rfl
  | refused listed refuses => exact refuses.staysOpen
  | noCutoff listed sends none => exact sends.staysOpen
  | unpurged listed sends | completed listed sends => exact sends.staysOpen.trans (staysOpen_of_eq rfl rfl)

theorem staysOpen_meet (scheduler : Scheduler) (wait : Wait) : scheduler.StaysOpen (scheduler.meet wait) :=
  staysOpen_of_eq rfl rfl

theorem Executes.staysOpen (executes : scheduler.Executes waits passes last) : scheduler.StaysOpen last := by
  induction executes with
  | start scheduler => exact staysOpen_of_eq rfl rfl
  | @idle scheduler last wait rest passes goesOn early others ih => exact (scheduler.staysOpen_meet wait).trans ih
  | @tick scheduler middle last wait now report rest passes goesOn due completed announces others ih =>
      have ticked := (scheduler.meet wait).staysOpen_tick now
      rw [completed] at ticked
      exact (scheduler.staysOpen_meet wait).trans (ticked.trans ih)

theorem Ends.staysOpen (ends : scheduler.Ends wait progress notices last) : scheduler.StaysOpen last := by
  cases ends with
  | stopped stops => exact scheduler.staysOpen_meet wait
  | @failed now error sent last goesOn due failed announces =>
      have ticked := (scheduler.meet wait).staysOpen_tick now
      rw [failed] at ticked
      exact (scheduler.staysOpen_meet wait).trans ticked

theorem staysOpen_loopAmid (waits : List Wait) (scheduler : Scheduler) :
    scheduler.StaysOpen (loopAmid waits scheduler).2.2 := by
  obtain ⟨notices, ran⟩ := exists_ran waits scheduler
  generalize loopAmid waits scheduler = outcome at ran
  cases ran with
  | waiting executes => exact executes.staysOpen
  | ended executes ends => exact executes.staysOpen.trans ends.staysOpen

-- The way out. A call to close the producer that fails leaves the producer as it is.
def leave (failure : Option TransportError) (scheduler : Scheduler) : Scheduler :=
  (if failure = none then scheduler.closeProducer else scheduler.record .producerClosed).closeStore

def runFailing (failure : Option TransportError) (waits : List Wait) (scheduler : Scheduler) :
    List TickReport × Progress × Scheduler :=
  match loopAmid waits scheduler with
  | (reports, .waiting, scheduler) => (reports, .waiting, scheduler)
  | (reports, progress, scheduler) => (reports, progress, scheduler.leave failure)

theorem runFailing_none (waits : List Wait) (scheduler : Scheduler) :
    runFailing none waits scheduler = runAmid waits scheduler := rfl

-- Without a cutoff the run does not return at all.
def Progress.hasReturned : Progress → Bool
  | waiting | failed .noCutoff => false
  | stopped | failed (.store _) | failed (.transport _) => true

structure Releases (scheduler : Scheduler) (failure : Option TransportError)
    (outcome : List TickReport × Progress × Scheduler) : Prop where
  waiting : outcome.2.1 = .waiting → scheduler.StaysOpen outcome.2.2
  returned : outcome.2.1.hasReturned = true → ∃ last, scheduler.StaysOpen last ∧
    outcome.2.2.trace = last.trace ++ [.producerClosed, .storeClosed]
  producer : outcome.2.1.hasReturned = true → failure = none → outcome.2.2.producer.IsClosed
  store : outcome.2.1.hasReturned = true → outcome.2.2.link.IsClosed

theorem isClosed_closeProducer (scheduler : Scheduler) : scheduler.closeProducer.producer.IsClosed := by
  simp only [closeProducer, record]
  split
  · trivial
  · rfl

theorem trace_leave (failure : Option TransportError) (scheduler : Scheduler) :
    (scheduler.leave failure).trace = scheduler.trace ++ [.producerClosed, .storeClosed] := by
  unfold leave
  split <;> simp [closeStore, closeProducer, record]

theorem releases_runFailing (failure : Option TransportError) (waits : List Wait) (scheduler : Scheduler) :
    scheduler.Releases failure (runFailing failure waits scheduler) := by
  have stays := staysOpen_loopAmid waits scheduler
  unfold runFailing
  split
  · next reports last looped =>
      rw [looped] at stays
      refine ⟨fun _ => stays, ?_, ?_, ?_⟩ <;> (intro returned; cases returned)
  · next reports progress last unfinished looped =>
      rw [looped] at stays
      refine ⟨fun waits => absurd waits unfinished, fun _ => ⟨last, stays, trace_leave failure last⟩, ?_, ?_⟩
      · rintro - rfl
        exact last.isClosed_closeProducer
      · exact fun _ => StoreLink.isClosed_close _

end Scheduler

namespace Reception

variable {reception next : Reception} {consumer : Consumer} {link : StoreLink} {move : Move} {moves done : List Move}

def Stage.trace : Stage → List Trace
  | listening | leaving | turnedAway _ => []
  | closing => [.consumerClosed]
  | returned => [.consumerClosed, .storeClosed]

structure Releases (consumer : Consumer) (moves : List Move) (reception : Reception) : Prop where
  trace : reception.sender.trace = reception.stage.trace
  turnedAway : ∀ error, reception.stage = .turnedAway error → consumer.channelTaken = true
  consumer : .closeConsumer none ∈ moves → reception.consumer.IsClosed
  store : reception.stage = .returned → reception.sender.link.IsClosed

theorem leaves_of_leaving (leaving : reception.stage = .leaving) (failure : Option TransportError) :
    ∃ final, Steps.run Reception.step [.closeConsumer failure, .closeStore] reception = some final ∧
      final.stage = .returned := by
  simp [Steps.run, Reception.step, act, leaving, Stage.isOver]

theorem releases_start (consumer : Consumer) (link : StoreLink) : (start consumer link).Releases consumer [] := by
  rw [start_eq]
  cases taken : consumer.channelTaken with
  | false => exact ⟨rfl, nofun, nofun, nofun⟩
  | true => exact ⟨rfl, fun _ _ => taken, nofun, nofun⟩

theorem trace_mark (sender : Sender) (notice : Notice) : (sender.mark notice).2.trace = sender.trace := by
  unfold Sender.mark
  split <;> rfl

theorem Releases.woken (releases : reception.Releases consumer done) (listens : reception.stage = .listening)
    (woken : Woken reception next) : next.Releases consumer (done ++ [.wake]) := by
  have trace := releases.trace
  rw [listens] at trace
  have closed : .closeConsumer none ∈ done ++ [Move.wake] → reception.consumer.IsClosed := by
    simpa using releases.consumer
  cases woken with
  | leaves turn reason => exact ⟨trace, nofun, closed, nofun⟩
  | waits turn => exact ⟨releases.trace, releases.turnedAway, closed, releases.store⟩
  | @marks notice rest turn first =>
      refine ⟨?_, releases.turnedAway, closed, fun returned => ?_⟩
      · exact (trace_mark reception.sender notice).trans releases.trace
      · cases listens.symm.trans returned

theorem Releases.step (releases : reception.Releases consumer done) (stepped : reception.step move = some next) :
    next.Releases consumer (done ++ [move]) := by
  obtain ⟨goesOn, stepped⟩ := stepped_of_step stepped
  cases stepped with
  | put | closeChannel | requestStop | abandonWatch =>
      exact ⟨releases.trace, releases.turnedAway, by simpa using releases.consumer, releases.store⟩
  | refuse | replace =>
      -- The link is another one afterwards, so it must not have been closed: the run was not over.
      refine ⟨releases.trace, releases.turnedAway, by simpa using releases.consumer, fun returned => ?_⟩
      have returned : reception.stage = .returned := returned
      rw [returned] at goesOn
      cases goesOn
  | wake listens woken => exact releases.woken listens woken
  | @closeConsumer failure leaves =>
      have trace := releases.trace
      rw [leaves] at trace
      refine ⟨congrArg (· ++ [Trace.consumerClosed]) trace, nofun, fun called => ?_, nofun⟩
      simp only
      split
      · exact ⟨rfl, rfl⟩
      · next failed =>
          -- This call failed, so the one that succeeded was made before.
          exact releases.consumer (by simpa [Ne.symm failed] using called)
  | closeStore closes =>
      have trace := releases.trace
      rw [closes] at trace
      exact ⟨congrArg (· ++ [Trace.storeClosed]) trace, nofun, by simpa using releases.consumer,
        fun _ => StoreLink.isClosed_close _⟩

theorem releases_of_run (ran : Steps.run Reception.step moves (start consumer link) = some reception) :
    reception.Releases consumer moves :=
  Steps.run_keep (fun done reception => reception.Releases consumer done) (releases_start consumer link)
    (fun _ _ _ _ _ _ _ stepped releases => releases.step stepped) ran

theorem closed_iff (ran : Steps.run Reception.step moves (start consumer link) = some reception)
    (isOver : reception.stage.isOver = true) :
    reception.sender.trace = [.consumerClosed, .storeClosed] ↔ consumer.channelTaken = false := by
  have releases := releases_of_run ran
  rw [releases.trace]
  cases stage : reception.stage with
  | returned => simp [Stage.trace, untaken_of_returned ran stage]
  | turnedAway error => simp [Stage.trace, releases.turnedAway error stage]
  | listening | leaving | closing =>
      rw [stage] at isOver
      cases isOver

end Reception

/-- Both loops close what they work on, whatever their waits find and whichever calls fail. -/
theorem released_of_run (scheduler : Scheduler) (consumer : Consumer) (link : StoreLink) :
    (∀ failure waits, scheduler.Releases failure (Scheduler.runFailing failure waits scheduler)) ∧
      (∀ wakes, Scheduler.runFailing none (wakes.map .undisturbed) scheduler = Scheduler.run wakes scheduler) ∧
      ∀ moves reception, Steps.run Reception.step moves (.start consumer link) = some reception →
        reception.Releases consumer moves ∧
          (reception.stage.isOver = true →
            (reception.sender.trace = [.consumerClosed, .storeClosed] ↔ consumer.channelTaken = false)) ∧
          (reception.stage = .leaving → ∀ failure, ∃ final,
            Steps.run Reception.step [.closeConsumer failure, .closeStore] reception = some final ∧
              final.stage = .returned) ∧
          ((∀ move ∈ moves, move.isForeign = false) → reception.stage = .returned →
            Sender.run consumer.channelTaken reception.wakes (.start link) = (.ok .finished, reception.sender)) := by
  refine ⟨fun failure waits => Scheduler.releases_runFailing failure waits scheduler, fun wakes => ?_, ?_⟩
  · rw [Scheduler.runFailing_none, Scheduler.runAmid_undisturbed]
  · intro moves reception ran
    exact ⟨Reception.releases_of_run ran, Reception.closed_iff ran, Reception.leaves_of_leaving,
      fun own returned => Reception.run_of_returned own returned ran⟩

def connectedLink : StoreLink := .direct (.database (Database.create .file).connect.2)

theorem isOpen_connectedLink : ¬ connectedLink.IsClosed := by
  simp [StoreLink.IsClosed, Store.IsClosed, connectedLink, StoreLink.direct, Database.connect, Database.create]

theorem released_of_failures :
    let outcome := Scheduler.runFailing (some .refused) [.undisturbed ⟨.start, some Scheduler.newYear⟩]
      (Scheduler.willing (some 0))
    outcome.2.1 = .failed (.transport .refused) ∧ outcome.2.2.trace = [.producerClosed, .storeClosed] ∧
      outcome.2.2.link.IsClosed ∧
      ∃ reception, Steps.run Reception.step [.requestStop, .wake, .closeConsumer (some .refused), .closeStore]
          (.start (.ofQueue (.file "queue.db")) connectedLink) = some reception ∧
        ¬ connectedLink.IsClosed ∧ reception.sender.trace = [.consumerClosed, .storeClosed] ∧
        reception.sender.link.IsClosed := by
  intro outcome
  obtain ⟨scheduler, -, sender⟩ := released_of_run (Scheduler.willing (some 0)) (.ofQueue (.file "queue.db"))
    connectedLink
  have releases := scheduler (some .refused) [.undisturbed ⟨.start, some Scheduler.newYear⟩]
  have progress : outcome.2.1 = .failed (.transport .refused) := by decide
  obtain ⟨reception, ran, returned⟩ : ∃ reception, Steps.run Reception.step
      [.requestStop, .wake, .closeConsumer (some .refused), .closeStore]
      (.start (.ofQueue (.file "queue.db")) connectedLink) = some reception ∧ reception.stage = .returned :=
    ⟨_, rfl, rfl⟩
  obtain ⟨releases', -, -⟩ := sender _ _ ran
  refine ⟨progress, by decide, releases.store (by rw [progress]; rfl), reception, ran, isOpen_connectedLink, ?_,
    releases'.store returned⟩
  rw [releases'.trace, returned]
  rfl

-- The channel has been handed out before: the run returns, and nothing has been closed.
theorem unreleased_of_takenChannel :
    let consumer := (Consumer.ofQueue (.file "queue.db")).takeChannel.2
    let reception := Reception.start consumer connectedLink
    reception.stage = .turnedAway .alreadySubscribed ∧
      Sender.run consumer.channelTaken [] (.start connectedLink) =
        (.error .alreadySubscribed, reception.sender) ∧
      reception.sender.trace = [] ∧ ¬ reception.consumer.IsClosed ∧ ¬ reception.sender.link.IsClosed :=
  ⟨rfl, rfl, rfl, nofun, isOpen_connectedLink⟩

end Datebook
