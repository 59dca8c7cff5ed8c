import Datebook.Loop.Scheduler

set_option autoImplicit false

namespace Datebook.Timetable

/-- A timer that is later than this puts off all its later dates. -/
def tolerance : Nat := 5

def tickTime (link : StoreLink) : Nat := link.delay .listDue + link.delay .purge

/-- Beginnings of ticks before `stop`, at most `count` of them. `ready` is when the loop is free and
`due` when the timer goes off. -/
def ticksFrom (period length stop : Nat) : (count ready due : Nat) → List Nat
  | 0, _, _ => []
  | count + 1, ready, due =>
      let start := max ready due
      if stop ≤ start then []
      else
        start :: ticksFrom period length stop count (start + length)
          ((if due + tolerance < start then start else due) + period)

def ticks (period length stop : Nat) : List Nat :=
  ticksFrom period length stop (stop / period + 1) 0 period

def dueWake (now : Instant) : Scheduler.Wake := ⟨.start, some now⟩

-- A run that is asked to stop at `stop`; every tick reads the same wall clock.
def runUntil (period stop : Nat) (now : Instant) (scheduler : Scheduler) :
    List TickReport × Scheduler.Progress × Scheduler :=
  let starts := ticks period (tickTime scheduler.link) stop
  scheduler.run (starts.map (fun _ => dueWake now) ++ [⟨Watch.start.request, none⟩])

/-- A run that nobody can stop any more and that is cut off right after `stop`. A tick that has not
come to its end by then is cut off too. -/
def runCutOff (period stop : Nat) (now : Instant) (scheduler : Scheduler) :
    List TickReport × Scheduler.Progress × Scheduler :=
  let length := tickTime scheduler.link
  let starts := ticks period length (stop + 1)
  let whole := starts.filter fun start => start + length ≤ stop
  let begun := starts.any fun start =>
    stop < start + length && start + scheduler.link.delay .listDue ≤ stop
  match scheduler.run (whole.map fun _ => dueWake now) with
  | (reports, .waiting, scheduler) =>
      if begun then
        match scheduler.notify now with
        | (.error error, scheduler) =>
            (reports, .failed error, scheduler.closeProducer.closeStore)
        | (.ok _, scheduler) => (reports, .waiting, scheduler)
      else (reports, .waiting, scheduler)
  | ended => ended

end Datebook.Timetable
