import Datebook.Queue.Exchange
import Datebook.Service.Error
import Datebook.Store.Link
import Datebook.Time.Retention
import Datebook.Watch

set_option autoImplicit false

namespace Datebook

inductive Producer where
  | outbox
  | queue (endpoint : Endpoint)
  deriving DecidableEq

/-- What a loop has done that its store and its queue do not show. -/
inductive Trace where
  | sent (id : EventId)
  | producerClosed
  | consumerClosed
  | storeClosed
  deriving DecidableEq

inductive SchedulerError where
  | store (error : StoreError)
  | transport (error : TransportError)
  | noCutoff
  deriving DecidableEq

def SchedulerError.message? : SchedulerError → Option String
  | store error => error.message?.map fun message => s!"storage error: {message}"
  | transport error => error.message?.map fun message => s!"send notification: {message}"
  | noCutoff => some "\x60DateTime - TimeDelta\x60 overflowed"

structure TickReport where
  sent : Nat
  deleted : Nat
  deriving DecidableEq

structure Scheduler where
  link : StoreLink
  producer : Producer
  -- How many notices the producer still takes before it refuses, if it ever does.
  allowance : Option Nat
  outbox : List Notice
  exchange : Exchange
  trace : List Trace
  deriving DecidableEq

namespace Scheduler

def record (scheduler : Scheduler) (step : Trace) : Scheduler :=
  { scheduler with trace := scheduler.trace ++ [step] }

def produce (scheduler : Scheduler) (notice : Notice) : Except TransportError Unit × Scheduler :=
  match scheduler.producer with
  | .outbox => (.ok (), { scheduler with outbox := scheduler.outbox ++ [notice] })
  | .queue endpoint =>
      let (result, exchange) := endpoint.send notice scheduler.exchange
      (result, { scheduler with exchange })

def send (scheduler : Scheduler) (event : Event) : Except TransportError Unit × Scheduler :=
  match scheduler.allowance with
  | some 0 => (.error .refused, scheduler)
  | allowance =>
      ({ scheduler with allowance := allowance.map (· - 1) }.record (.sent event.id)).produce event.toNotice

def sendAll : List Event → Scheduler → Except TransportError Nat × Scheduler
  | [], scheduler => (.ok 0, scheduler)
  | event :: rest, scheduler =>
      match scheduler.send event with
      | (.error error, scheduler) => (.error error, scheduler)
      | (.ok (), scheduler) =>
          let (result, scheduler) := sendAll rest scheduler
          (result.map (· + 1), scheduler)

/-- Sends a notice for every due event. Nothing is marked: that is for the receiver of the notices. -/
def notify (scheduler : Scheduler) (now : Instant) : Except SchedulerError Nat × Scheduler :=
  match scheduler.link.answer (.listDue now) with
  | (.error error, link) => (.error (.store error), { scheduler with link })
  | (.ok events, link) =>
      let (result, scheduler) := sendAll events { scheduler with link }
      (result.mapError SchedulerError.transport, scheduler)

def purge (scheduler : Scheduler) (cutoff : Instant) : Except SchedulerError Nat × Scheduler :=
  let (result, link) := scheduler.link.answer (.purge cutoff)
  (result.mapError SchedulerError.store, { scheduler with link })

def tick (scheduler : Scheduler) (now : Instant) : Except SchedulerError TickReport × Scheduler :=
  match scheduler.notify now with
  | (.error error, scheduler) => (.error error, scheduler)
  | (.ok sent, scheduler) =>
      match now.purgeCutoff? with
      | none => (.error .noCutoff, scheduler)
      | some cutoff =>
          match scheduler.purge cutoff with
          | (.error error, scheduler) => (.error error, scheduler)
          | (.ok deleted, scheduler) => (.ok ⟨sent, deleted⟩, scheduler)

/-- What the waiting loop finds: the watch as it reads then and, if the timer is due, the time. -/
structure Wake where
  watch : Watch
  due : Option Instant
  deriving DecidableEq

inductive Progress where
  | waiting
  | stopped
  | failed (error : SchedulerError)
  deriving DecidableEq

-- The stop request is looked at before the timer.
def loop : List Wake → Scheduler → List TickReport × Progress × Scheduler
  | [], scheduler => ([], .waiting, scheduler)
  | wake :: rest, scheduler =>
      if wake.watch.stop then ([], .stopped, scheduler)
      else
        match wake.due with
        | none => loop rest scheduler
        | some now =>
            match scheduler.tick now with
            | (.error error, scheduler) => ([], .failed error, scheduler)
            | (.ok report, scheduler) =>
                let (reports, progress, scheduler) := loop rest scheduler
                (report :: reports, progress, scheduler)

def closeProducer (scheduler : Scheduler) : Scheduler :=
  let producer :=
    match scheduler.producer with
    | .outbox => .outbox
    | .queue endpoint => .queue endpoint.close
  { scheduler with producer }.record .producerClosed

def closeStore (scheduler : Scheduler) : Scheduler :=
  { scheduler with link := scheduler.link.close.2 }.record .storeClosed

def run (wakes : List Wake) (scheduler : Scheduler) : List TickReport × Progress × Scheduler :=
  match loop wakes scheduler with
  | (reports, .waiting, scheduler) => (reports, .waiting, scheduler)
  | (reports, progress, scheduler) => (reports, progress, scheduler.closeProducer.closeStore)

end Scheduler
end Datebook
