import Datebook.Http.Host
import Datebook.Log.Entry
import Datebook.Loop.Scheduler
import Datebook.Loop.Sender
import Datebook.Program.Start

set_option autoImplicit false

namespace Datebook.Session

structure Run where
  log : List LogEntry
  disk : Disk
  error : Option Breakdown

abbrev LogFields := List (String × String)

def byStore (config : StoreConfig) (message : String) : List LogEntry :=
  match config.kind with
  | .inMemory => []
  | .sqlite => [⟨.debug, "calendar::storage::sqlite", message, [("dsn", config.path)]⟩]

def storeOpened (config : StoreConfig) : List LogEntry := byStore config "sqlite storage connected"

def storeClosed (config : StoreConfig) : List LogEntry := byStore config "sqlite storage closed"

def signalled : LogEntry := ⟨.info, "calendar::runtime", "shutdown signal received", []⟩

-- What the server of requests writes when it stops. No request is under way then.
def serverStopped : List LogEntry :=
  ["received graceful shutdown signal. Telling tasks to shutdown",
    "signal received, not accepting new connections",
    "waiting for 0 task(s) to finish"].map fun message => ⟨.trace, "axum::serve", message, []⟩

def bySchedulerLoop (severity : Severity) (message : String) (fields : LogFields) : LogEntry :=
  ⟨severity, "calendar::runtime::scheduler", message, fields⟩

def bySenderLoop (severity : Severity) (message : String) (fields : LogFields) : LogEntry :=
  ⟨severity, "calendar::runtime::sender", message, fields⟩

def byQueue (severity : Severity) (message : String) (fields : LogFields) : LogEntry :=
  ⟨severity, "calendar::transport::queue", message, fields⟩

def readOnlyCause : String := "attempt to write a readonly database"

def storeCause : StoreError → String
  | .refused _ | .database => s!"sqlite error: {readOnlyCause}"
  | other => other.message?.getD ""

def queueCause : TransportError → String
  | .refused | .database => s!"queue error: {readOnlyCause}"
  | other => other.message?.getD ""

def tickCause : SchedulerError → String
  | .store error => s!"storage error: {storeCause error}"
  | .transport error => s!"send notification: {queueCause error}"
  | .noCutoff => SchedulerError.noCutoff.message?.getD ""

def listen (config : Config) (opened : OpenStore) (disk : Disk) : Run :=
  let address := config.http.address
  if Http.Host.canListen config.http.host then
    ⟨⟨.info, "calendar", "calendar listening", [("addr", address)]⟩ :: signalled :: serverStopped
      ++ storeClosed config.store
      ++ [⟨.info, "calendar::calendar", "calendar storage closed", []⟩,
        ⟨.info, "calendar", "calendar stopped", []⟩],
      keepStore opened.path opened.link.store disk, none⟩
  else ⟨[], disk, some (.cannotListen address)⟩

def passLog (ids : List EventId) (seq : Int) : List LogEntry :=
  bySchedulerLoop .debug "starting notification pass" [] :: ids.zipIdx.map fun (id, index) =>
    byQueue .debug "notification published" [("event_id", toString id), ("seq", toString (seq + index))]

def passEnded (sent : Nat) : LogEntry :=
  bySchedulerLoop .debug "notifications sent" [("sent", toString sent)]

def tickLog : List TickReport → List EventId → (seq : Int) → List LogEntry
  | [], _, _ => []
  | report :: reports, ids, seq =>
      let sent := ("sent", toString report.sent)
      let deleted := ("deleted", toString report.deleted)
      passLog (ids.take report.sent) seq
        ++ [passEnded report.sent,
          bySchedulerLoop .debug "stale events deleted" [deleted],
          bySchedulerLoop .info "scheduler tick finished" [sent, deleted]]
        ++ tickLog reports (ids.drop report.sent) (seq + report.sent)

def failedTickLog (error : SchedulerError) (ids : List EventId) (seq : Int) : List LogEntry :=
  let passed :=
    match error with
    | .store _ => [passEnded ids.length]
    | .transport _ | .noCutoff => []
  passLog ids seq ++ passed
    ++ [bySchedulerLoop .error "scheduler tick failed, stopping" [("error", tickCause error)]]

def sentBy (reports : List TickReport) : Nat := reports.foldl (fun count report => count + report.sent) 0

def sentIds (trace : List Trace) : List EventId :=
  trace.filterMap fun step =>
    match step with
    | .sent id => some id
    | _ => none

-- The period is a millisecond at least.
def period (config : Config) : TimeSpan := ⟨max 1000000 config.scheduler.period.nanoseconds⟩

def scheduleOver (queue : OpenQueue) (ticks : List Instant) (config : Config) (opened : OpenStore)
    (disk : Disk) : Run :=
  let next := (queue.endpoint.link.map fun address => (disk.exchange.broker address).lastSeq).getD 0 + 1
  let wakes : List Scheduler.Wake :=
    ticks.map (fun now => ⟨.start, some now⟩) ++ [⟨Watch.start.request, none⟩]
  let allowance := if queue.writable then none else some 0
  let (reports, progress, scheduler) :=
    Scheduler.run wakes ⟨opened.link, .queue queue.endpoint, allowance, [], disk.exchange, []⟩
  let ids := sentIds scheduler.trace
  let started :=
    bySchedulerLoop .info "scheduler started" [("period", String.ofList (period config).write)]
  let (ending, error) :=
    match progress with
    | .failed error =>
        (failedTickLog error (ids.drop (sentBy reports)) (next + sentBy reports),
          some Breakdown.tickFailed)
    | .waiting | .stopped =>
        ([signalled, bySchedulerLoop .info "scheduler shutdown requested" []], none)
  let stopped : List LogEntry :=
    if error.isSome then [] else [⟨.info, "calendar_scheduler", "scheduler stopped", []⟩]
  ⟨started :: tickLog reports ids next ++ ending
      ++ [bySchedulerLoop .debug "producer closed" []] ++ storeClosed config.store
      ++ [bySchedulerLoop .debug "storage closed" []] ++ stopped,
    keepStore opened.path scheduler.link.store { disk with exchange := scheduler.exchange }, error⟩

/-- The longest period, in seconds, after which the clock of a machine that has been running for a few
days can still show the time. -/
def greatestPeriod : Nat := 9223372036854000000

def schedule (directory : FilePath) (ticks : List Instant) (config : Config) (opened : OpenStore)
    (disk : Disk) : Run :=
  let connecting := byQueue .debug "connecting producer to queue" [("url", config.broker.url)]
  match openQueue directory config.broker.url disk with
  | none => ⟨[connecting], disk, some (.queueUnavailable config.broker.url)⟩
  | some (queue, disk) =>
      if greatestPeriod < (period config).seconds then ⟨[connecting], disk, some .periodTooLong⟩
      else
        let run := scheduleOver queue ticks config opened disk
        { run with log := connecting :: run.log }

-- A message comes out of the queue and, if it decodes, its event is marked.
def deliver (sender : Sender) (message : Message) : List LogEntry × Sender :=
  match Notice.decode message.payload with
  | .error _ =>
      ([byQueue .warning "dropping undecodable message" [("seq", toString message.seq)]], sender)
  | .ok notice =>
      let id := ("event_id", toString notice.id)
      let delivered := byQueue .debug "notification delivered" [id, ("seq", toString message.seq)]
      match sender.mark notice with
      | (.ok (), sender) =>
          ([delivered, bySenderLoop .info "event notified"
            [id, ("user_id", toString notice.userId), ("title", notice.title)]], sender)
      | (.error error, sender) =>
          ([delivered, bySenderLoop .error "failed to mark event notified"
            [id, ("error", storeCause error)]], sender)

def deliverAll : List Message → Sender → List LogEntry × Sender
  | [], sender => ([], sender)
  | message :: rest, sender =>
      let (entries, sender) := deliver sender message
      let (others, sender) := deliverAll rest sender
      (entries ++ others, sender)

def acknowledgeAll (broker : Broker) (messages : List Message) : Broker :=
  messages.foldl (fun broker message => (broker.acknowledge message.seq).2) broker

/-- The messages that are delivered, and those of them that cannot be acknowledged. Delivery does not
come past one of these. -/
def atHand (writable : Bool) (messages : List Message) : List Message × List Message :=
  if writable then (messages, []) else (messages.take 1, messages.take 1)

def send (directory : FilePath) (config : Config) (opened : OpenStore) (disk : Disk) : Run :=
  let connecting := byQueue .debug "connecting consumer to queue" [("url", config.broker.url)]
  match openQueue directory config.broker.url disk with
  | none => ⟨[connecting], disk, some (.queueUnavailable config.broker.url)⟩
  | some (⟨endpoint, writable⟩, disk) =>
      let broker := (endpoint.link.map disk.exchange.broker).getD .empty
      let (messages, unacknowledged) := atHand writable (broker.waiting Broker.noticeQueue)
      let (entries, sender) := deliverAll messages (.start opened.link)
      let entries := entries ++ unacknowledged.map fun message =>
        byQueue .error "queue ack failed"
          [("seq", toString message.seq), ("error", queueCause .database)]
      let exchange :=
        match endpoint.link, writable with
        | some address, true => disk.exchange.setBroker address (acknowledgeAll broker messages)
        | _, _ => disk.exchange
      ⟨connecting :: bySenderLoop .info "sender started" [] :: entries
          ++ [signalled, bySenderLoop .info "sender shutdown requested" [],
            bySenderLoop .debug "consumer closed" []] ++ storeClosed config.store
          ++ [bySenderLoop .debug "storage closed" [],
            ⟨.info, "calendar_sender", "sender stopped", [("acked", toString sender.acknowledged)]⟩],
        keepStore opened.path sender.closeStore.link.store { disk with exchange }, none⟩

end Datebook.Session
