import Datebook.Proofs.SchedulerTick

set_option autoImplicit false

namespace Datebook.Scheduler

structure Surroundings where
  link : StoreLink
  exchange : Exchange
  allowance : Option Nat

/-- One wait of the loop: what others do meanwhile, and what it finds then. -/
structure Wait where
  others : Surroundings → Surroundings
  wake : Wake

namespace Wait

def undisturbed (wake : Wake) : Wait := ⟨id, wake⟩

def orphaned (wait : Wait) : Wait :=
  { wait with wake := { wait.wake with watch := wait.wake.watch.abandon } }

def LeavesQueues (wait : Wait) : Prop := ∀ found, (wait.others found).exchange = found.exchange

end Wait

def meet (scheduler : Scheduler) (wait : Wait) : Scheduler :=
  let found := wait.others ⟨scheduler.link, scheduler.exchange, scheduler.allowance⟩
  { scheduler with link := found.link, exchange := found.exchange, allowance := found.allowance }

def loopAmid : List Wait → Scheduler → List TickReport × Progress × Scheduler
  | [], scheduler => ([], .waiting, scheduler)
  | wait :: rest, scheduler =>
      match loop [wait.wake] (scheduler.meet wait) with
      | (reports, .waiting, scheduler) =>
          let (others, progress, scheduler) := loopAmid rest scheduler
          (reports ++ others, progress, scheduler)
      | ended => ended

def closing : List TickReport × Progress × Scheduler → List TickReport × Progress × Scheduler
  | (reports, .waiting, scheduler) => (reports, .waiting, scheduler)
  | (reports, progress, scheduler) => (reports, progress, scheduler.closeProducer.closeStore)

def runAmid (waits : List Wait) (scheduler : Scheduler) : List TickReport × Progress × Scheduler :=
  closing (loopAmid waits scheduler)

section Alone

theorem loopAmid_undisturbed (wakes : List Wake) (scheduler : Scheduler) :
    loopAmid (wakes.map Wait.undisturbed) scheduler = loop wakes scheduler := by
  induction wakes generalizing scheduler with
  | nil => rfl
  | cons wake rest ih =>
      have same : loop [(Wait.undisturbed wake).wake] (scheduler.meet (.undisturbed wake)) = loop [wake] scheduler := rfl
      rw [List.map_cons, loopAmid, same]
      cases stops : wake.watch.stop with
      | true => simp [loop, stops]
      | false =>
          cases due : wake.due with
          | none => simp [loop, stops, due, ih]
          | some now =>
              cases ticked : scheduler.tick now with
              | mk result next => cases result <;> simp [loop, stops, due, ticked, ih]

theorem runAmid_undisturbed (wakes : List Wake) (scheduler : Scheduler) :
    runAmid (wakes.map Wait.undisturbed) scheduler = run wakes scheduler := by
  rw [runAmid, loopAmid_undisturbed]
  rfl

theorem loopAmid_orphaned (waits : List Wait) (scheduler : Scheduler) :
    loopAmid (waits.map Wait.orphaned) scheduler = loopAmid waits scheduler := by
  induction waits generalizing scheduler with
  | nil => rfl
  | cons wait rest ih =>
      have same : loop [wait.orphaned.wake] (scheduler.meet wait.orphaned) = loop [wait.wake] (scheduler.meet wait) := rfl
      simp only [List.map_cons, loopAmid, same, ih]

end Alone

section Passes

variable {scheduler middle next last : Scheduler} {now : Instant}

def listed (scheduler : Scheduler) (now : Instant) : List Event :=
  match (scheduler.link.answer (.listDue now)).1 with
  | .ok due => due
  | .error _ => []

-- These events, the first of the due ones, are those whose notices the tick has published.
structure Announces (scheduler : Scheduler) (now : Instant) (sent : List Event) (next : Scheduler) : Prop where
  first : sent <+: scheduler.listed now
  publishes : scheduler.Publishes (sent.map Event.toNotice) next
  producer : next.producer = scheduler.producer

theorem Sends.announces {due : List Event} (listed : (scheduler.link.answer (.listDue now)).1 = .ok due)
    (sends : scheduler.Sends due middle) (link : StoreLink) :
    scheduler.Announces now (scheduler.listed now) { middle with link } := by
  have same : scheduler.listed now = due := by simp only [Scheduler.listed, listed]
  obtain ⟨publishes, producer, -⟩ := sends.publishes
  rw [same]
  exact ⟨same ▸ List.prefix_rfl, publishes.congr rfl rfl, producer⟩

theorem announces_of_ok {report : TickReport} (completed : scheduler.tick now = (.ok report, next)) :
    scheduler.Announces now (scheduler.listed now) next := by
  have ticked := scheduler.ticked_tick now
  rw [completed] at ticked
  cases ticked with
  | completed listed sends found purged => exact sends.announces listed _

theorem announces_of_error {error : SchedulerError} (failed : scheduler.tick now = (.error error, next)) :
    ∃ sent, scheduler.Announces now sent next := by
  have ticked := scheduler.ticked_tick now
  rw [failed] at ticked
  cases ticked with
  | unlisted unread => exact ⟨[], List.nil_prefix, publishes_nil rfl rfl, rfl⟩
  | @refused sent rest event error last listed refuses =>
      refine ⟨sent, ?_, refuses.publishes.1, refuses.publishes.2.1⟩
      simp only [Scheduler.listed, listed]
      exact List.prefix_append sent _
  | noCutoff listed sends none => exact ⟨_, sends.announces listed next.link⟩
  | unpurged listed sends found failed => exact ⟨_, sends.announces listed _⟩

structure Pass where
  report : TickReport
  notices : List Notice

/-- The loop goes on after all of these waits, having executed a tick in each in which one was due. -/
inductive Executes : Scheduler → List Wait → List Pass → Scheduler → Prop where
  | start (scheduler : Scheduler) : Executes scheduler [] [] scheduler
  | idle {scheduler last : Scheduler} {wait : Wait} {rest : List Wait} {passes : List Pass}
      (goesOn : wait.wake.watch.stop = false) (early : wait.wake.due = none)
      (others : Executes (scheduler.meet wait) rest passes last) : Executes scheduler (wait :: rest) passes last
  | tick {scheduler middle last : Scheduler} {wait : Wait} {now : Instant} {report : TickReport} {rest : List Wait}
      {passes : List Pass} (goesOn : wait.wake.watch.stop = false) (due : wait.wake.due = some now)
      (completed : (scheduler.meet wait).tick now = (.ok report, middle))
      (announces : (scheduler.meet wait).Announces now ((scheduler.meet wait).listed now) middle)
      (others : Executes middle rest passes last) :
      Executes scheduler (wait :: rest) (⟨report, ((scheduler.meet wait).listed now).map Event.toNotice⟩ :: passes) last

inductive Ends (scheduler : Scheduler) (wait : Wait) : Progress → List Notice → Scheduler → Prop where
  | stopped (stops : wait.wake.watch.stop = true) : Ends scheduler wait .stopped [] (scheduler.meet wait)
  | failed {now : Instant} {error : SchedulerError} {sent : List Event} {last : Scheduler}
      (goesOn : wait.wake.watch.stop = false) (due : wait.wake.due = some now)
      (failed : (scheduler.meet wait).tick now = (.error error, last))
      (announces : (scheduler.meet wait).Announces now sent last) :
      Ends scheduler wait (.failed error) (sent.map Event.toNotice) last

-- How the loop has gone, up to the closing of producer and store, and what it has published.
inductive Ran (scheduler : Scheduler) : List Wait → List TickReport × Progress × Scheduler → List Notice → Prop where
  | waiting {waits : List Wait} {passes : List Pass} {last : Scheduler} (executes : scheduler.Executes waits passes last) :
      Ran scheduler waits (passes.map Pass.report, .waiting, last) (passes.flatMap Pass.notices)
  | ended {before after : List Wait} {wait : Wait} {passes : List Pass} {middle last : Scheduler}
      {progress : Progress} {notices : List Notice} (executes : scheduler.Executes before passes middle)
      (ends : middle.Ends wait progress notices last) :
      Ran scheduler (before ++ wait :: after) (passes.map Pass.report, progress, last)
        (passes.flatMap Pass.notices ++ notices)

end Passes

section Run

variable {scheduler middle last : Scheduler} {wait : Wait} {waits before after rest : List Wait}
  {passes : List Pass} {progress : Progress} {notices : List Notice}
  {outcome : List TickReport × Progress × Scheduler}

theorem Executes.loopAmid_append (executes : scheduler.Executes before passes middle) (rest : List Wait) :
    loopAmid (before ++ rest) scheduler = (passes.map Pass.report ++ (loopAmid rest middle).1, (loopAmid rest middle).2) := by
  -- The rest of the loop begins where these waits end, and their reports come before its own.
  induction executes with
  | start scheduler => rfl
  | idle goesOn early others ih => simp [loopAmid, loop, goesOn, early, ih]
  | tick goesOn due completed announces others ih => simp [loopAmid, loop, goesOn, due, completed, ih]

theorem Ends.loopAmid_cons (ends : scheduler.Ends wait progress notices last) (rest : List Wait) :
    loopAmid (wait :: rest) scheduler = ([], progress, last) := by
  cases ends with
  | stopped stops => simp [loopAmid, loop, stops]
  | failed goesOn due failed announces => simp [loopAmid, loop, goesOn, due, failed]

theorem Ran.loopAmid_eq (ran : scheduler.Ran waits outcome notices) : loopAmid waits scheduler = outcome := by
  cases ran with
  | waiting executes =>
      have whole := executes.loopAmid_append []
      simpa [loopAmid] using whole
  | ended executes ends => rw [executes.loopAmid_append, ends.loopAmid_cons, List.append_nil]

theorem executes_or_ends (waits : List Wait) (scheduler : Scheduler) :
    (∃ passes last, scheduler.Executes waits passes last) ∨
      ∃ before wait after passes middle progress notices last, waits = before ++ wait :: after ∧
        scheduler.Executes before passes middle ∧ middle.Ends wait progress notices last := by
  induction waits generalizing scheduler with
  | nil => exact .inl ⟨[], scheduler, .start scheduler⟩
  | cons wait rest ih =>
      cases stops : wait.wake.watch.stop with
      | true => exact .inr ⟨[], wait, rest, [], scheduler, _, _, _, rfl, .start scheduler, .stopped stops⟩
      | false =>
          cases due : wait.wake.due with
          | none =>
              rcases ih (scheduler.meet wait) with
                ⟨passes, last, executes⟩ | ⟨before, final, after, passes, middle, _, _, _, rfl, executes, ends⟩
              · exact .inl ⟨passes, last, .idle stops due executes⟩
              · exact .inr ⟨wait :: before, final, after, passes, middle, _, _, _, rfl, .idle stops due executes, ends⟩
          | some now =>
              cases ticked : (scheduler.meet wait).tick now with
              | mk result next =>
                  cases result with
                  | error error =>
                      obtain ⟨sent, announces⟩ := announces_of_error ticked
                      exact .inr ⟨[], wait, rest, [], scheduler, _, _, next, rfl, .start scheduler,
                        .failed stops due ticked announces⟩
                  | ok report =>
                      have announces := announces_of_ok ticked
                      rcases ih next with
                        ⟨passes, last, executes⟩ | ⟨before, final, after, passes, middle, _, _, _, rfl, executes, ends⟩
                      · exact .inl ⟨_, last, .tick stops due ticked announces executes⟩
                      · exact .inr ⟨wait :: before, final, after, _, middle, _, _, _, rfl,
                          .tick stops due ticked announces executes, ends⟩

theorem exists_ran (waits : List Wait) (scheduler : Scheduler) :
    ∃ notices, scheduler.Ran waits (loopAmid waits scheduler) notices := by
  rcases executes_or_ends waits scheduler with
    ⟨passes, last, executes⟩ | ⟨before, wait, after, passes, middle, progress, notices, last, rfl, executes, ends⟩
  · have ran : scheduler.Ran waits _ _ := .waiting executes
    exact ⟨_, ran.loopAmid_eq ▸ ran⟩
  · have ran : scheduler.Ran (before ++ wait :: after) _ _ := .ended executes ends
    exact ⟨_, ran.loopAmid_eq ▸ ran⟩

/-- The notices have been published one after another, as far as others have left that to be seen. -/
structure Leaves (scheduler : Scheduler) (waits : List Wait) (notices : List Notice) (last : Scheduler) : Prop where
  producer : last.producer = scheduler.producer
  outbox : scheduler.producer = .outbox → last.outbox = scheduler.outbox ++ notices
  queues : (∀ wait ∈ waits, wait.LeavesQueues) → scheduler.Publishes notices last

theorem leaves_meet (scheduler : Scheduler) (wait : Wait) : scheduler.Leaves [wait] [] (scheduler.meet wait) where
  producer := rfl
  outbox _ := (List.append_nil _).symm
  queues leaves := publishes_nil (leaves wait (List.mem_singleton_self wait) _) rfl

theorem Announces.leaves {now : Instant} {sent : List Event} (announces : scheduler.Announces now sent last) :
    scheduler.Leaves [] (sent.map Event.toNotice) last where
  producer := announces.producer
  outbox := announces.publishes.outbox_eq
  queues _ := announces.publishes

theorem Leaves.trans {left right : List Notice} (leaves : scheduler.Leaves before left middle)
    (leaves' : middle.Leaves after right last) : scheduler.Leaves (before ++ after) (left ++ right) last where
  producer := leaves'.producer.trans leaves.producer
  outbox isOutbox := by
    rw [leaves'.outbox (leaves.producer.trans isOutbox), leaves.outbox isOutbox, List.append_assoc]
  queues left := by
    have first := leaves.queues fun wait member => left wait (List.mem_append_left _ member)
    have second := leaves'.queues fun wait member => left wait (List.mem_append_right _ member)
    exact first.trans second leaves.producer

theorem Executes.leaves (executes : scheduler.Executes waits passes last) :
    scheduler.Leaves waits (passes.flatMap Pass.notices) last := by
  induction executes with
  | start scheduler => exact ⟨rfl, fun _ => (List.append_nil _).symm, fun _ => publishes_nil rfl rfl⟩
  | @idle scheduler last wait rest passes goesOn early others ih => exact (scheduler.leaves_meet wait).trans ih
  | @tick scheduler middle last wait now report rest passes goesOn due completed announces others ih =>
      exact (scheduler.leaves_meet wait).trans (announces.leaves.trans ih)

theorem Ends.leaves (ends : scheduler.Ends wait progress notices last) : scheduler.Leaves [wait] notices last := by
  cases ends with
  | stopped stops => exact scheduler.leaves_meet wait
  | failed goesOn due failed announces => exact (scheduler.leaves_meet wait).trans announces.leaves

theorem Ran.leaves (ran : scheduler.Ran waits outcome notices) : scheduler.Leaves waits notices outcome.2.2 := by
  cases ran with
  | waiting executes => exact executes.leaves
  | ended executes ends =>
      have whole := executes.leaves.trans ends.leaves
      refine ⟨whole.producer, whole.outbox, fun left => whole.queues fun wait member => left wait ?_⟩
      -- The loop never comes to the waits after its end, so it does not matter what others do in them.
      rcases List.mem_append.mp member with met | final
      · exact List.mem_append_left _ met
      · rw [List.mem_singleton.mp final]
        exact List.mem_append_right _ List.mem_cons_self

structure FailFast (scheduler : Scheduler) (waits : List Wait) : Prop where
  ran : ∀ reports progress, (∃ last notices, scheduler.Ran waits (reports, progress, last) notices) ↔
    (runAmid waits scheduler).1 = reports ∧ (runAmid waits scheduler).2.1 = progress
  outbox : ∀ outcome notices, scheduler.Ran waits outcome notices → scheduler.producer = .outbox →
    (runAmid waits scheduler).2.2.outbox = scheduler.outbox ++ notices
  queues : ∀ outcome notices, scheduler.Ran waits outcome notices → (∀ wait ∈ waits, wait.LeavesQueues) →
    scheduler.Publishes notices (runAmid waits scheduler).2.2
  orphaned : ∀ others, others.map Wait.orphaned = waits.map Wait.orphaned →
    runAmid others scheduler = runAmid waits scheduler

theorem closing_eq (outcome : List TickReport × Progress × Scheduler) :
    (closing outcome).1 = outcome.1 ∧ (closing outcome).2.1 = outcome.2.1 ∧
      (closing outcome).2.2.outbox = outcome.2.2.outbox ∧ (closing outcome).2.2.exchange = outcome.2.2.exchange := by
  obtain ⟨reports, progress, last⟩ := outcome
  cases progress <;> exact ⟨rfl, rfl, rfl, rfl⟩

theorem failFast (scheduler : Scheduler) (waits : List Wait) : scheduler.FailFast waits := by
  obtain ⟨sameReports, sameProgress, sameOutbox, sameExchange⟩ := closing_eq (loopAmid waits scheduler)
  refine ⟨fun reports progress => ?_, ?_, ?_, ?_⟩
  · rw [runAmid, sameReports, sameProgress]
    constructor
    · rintro ⟨last, notices, ran⟩
      rw [ran.loopAmid_eq]
      exact ⟨rfl, rfl⟩
    · rintro ⟨rfl, rfl⟩
      obtain ⟨notices, ran⟩ := exists_ran waits scheduler
      exact ⟨_, notices, ran⟩
  · intro outcome notices ran isOutbox
    rw [runAmid, sameOutbox, ran.loopAmid_eq]
    exact ran.leaves.outbox isOutbox
  · intro outcome notices ran left
    have publishes := ran.leaves.queues left
    rw [← ran.loopAmid_eq] at publishes
    exact publishes.congr sameOutbox sameExchange
  · intro others same
    rw [runAmid, runAmid, ← loopAmid_orphaned others, same, loopAmid_orphaned]

theorem failFast_of_run (scheduler : Scheduler) :
    (∀ waits, scheduler.FailFast waits) ∧
      ∀ wakes, runAmid (wakes.map Wait.undisturbed) scheduler = run wakes scheduler :=
  ⟨scheduler.failFast, fun wakes => runAmid_undisturbed wakes scheduler⟩

end Run

end Datebook.Scheduler
