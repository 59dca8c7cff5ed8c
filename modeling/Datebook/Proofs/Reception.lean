import Datebook.Proofs.SenderLoop
import Datebook.Proofs.Steps

set_option autoImplicit false

namespace Datebook

inductive Reception.Stage where
  | listening
  | leaving
  -- Has called for the consumer to be closed.
  | closing
  | returned
  -- The channel had been handed out before, so that the run ended at once.
  | turnedAway (error : TransportError)
  deriving DecidableEq

structure Reception where
  sender : Sender
  consumer : Consumer
  watch : Watch
  stage : Reception.Stage
  channel : List Notice
  closed : Bool
  placed : List Notice
  wakes : List Sender.Wake
  -- What was to be marked, with what came of it.
  marks : List (Notice × Except StoreError Unit)

namespace Reception

def Stage.hasChannel : Stage → Bool
  | listening | leaving => true
  | closing | returned | turnedAway _ => false

def Stage.isOver : Stage → Bool
  | returned | turnedAway _ => true
  | listening | leaving | closing => false

inductive Move where
  | put (notice : Notice)
  | closeChannel
  | requestStop
  | abandonWatch
  | refuse (operations : List Operation)
  | replace (store : Store)
  | wake
  /-- A call that fails leaves the consumer as it is. -/
  | closeConsumer (failure : Option TransportError)
  | closeStore
  deriving DecidableEq

def start (consumer : Consumer) (link : StoreLink) : Reception :=
  let (result, consumer) := consumer.takeChannel
  let stage : Stage :=
    match result with
    | .ok () => .listening
    | .error error => .turnedAway error
  ⟨.start link, consumer, .start, stage, [], false, [], [], []⟩

def arrival (reception : Reception) : Sender.Arrival :=
  match reception.channel with
  | notice :: _ => .notice notice
  | [] => if reception.closed then .closed else .nothing

def found (reception : Reception) : Sender.Wake := ⟨reception.watch, reception.arrival⟩

def marking (reception : Reception) (notice : Notice) (rest : List Notice) : Reception :=
  { reception with
    sender := (reception.sender.mark notice).2
    wakes := reception.wakes ++ [reception.found]
    channel := rest
    marks := reception.marks ++ [(notice, (reception.sender.mark notice).1)] }

def wake (reception : Reception) : Reception :=
  let wakes := reception.wakes ++ [reception.found]
  -- The loop itself says whether it goes on; what arrived only tells which notice it took.
  match Sender.loop [reception.found] reception.sender, reception.arrival with
  | (.finished, sender), _ => { reception with sender, wakes, stage := .leaving }
  | (.waiting, sender), .notice notice =>
      { reception with
        sender
        wakes
        channel := reception.channel.tail
        marks := reception.marks ++ [(notice, (reception.sender.mark notice).1)] }
  | (.waiting, sender), _ => { reception with sender, wakes }

def act (reception : Reception) : Move → Option Reception
  | .put notice =>
      if reception.stage.hasChannel ∧ ¬ reception.closed then
        some { reception with
          channel := reception.channel ++ [notice]
          placed := reception.placed ++ [notice] }
      else none
  | .closeChannel => some { reception with closed := true }
  | .requestStop => some { reception with watch := reception.watch.request }
  | .abandonWatch => some { reception with watch := reception.watch.abandon }
  | .refuse operations =>
      let link := { reception.sender.link with refused := operations }
      some { reception with sender := { reception.sender with link } }
  | .replace store =>
      let link := { reception.sender.link with store }
      some { reception with sender := { reception.sender with link } }
  | .wake => if reception.stage = .listening then some reception.wake else none
  | .closeConsumer failure =>
      if reception.stage = .leaving then
        some { reception with
          sender := reception.sender.closeConsumer
          consumer := if failure = none then reception.consumer.close else reception.consumer
          stage := .closing }
      else none
  | .closeStore =>
      if reception.stage = .closing then
        some { reception with sender := reception.sender.closeStore, stage := .returned }
      else none

-- Nothing happens in a run that is over.
def step (reception : Reception) (move : Move) : Option Reception :=
  if reception.stage.isOver then none else reception.act move

variable {reception next : Reception} {notice : Notice} {rest : List Notice} {move : Move}

inductive Woken (reception : Reception) : Reception → Prop where
  | leaves (turn : Sender.loop [reception.found] reception.sender = (.finished, reception.sender))
      (reason : reception.watch.stop = true ∨ reception.closed = true ∧ reception.channel = []) :
      Woken reception { reception with wakes := reception.wakes ++ [reception.found], stage := .leaving }
  | waits (turn : Sender.loop [reception.found] reception.sender = (.waiting, reception.sender)) :
      Woken reception { reception with wakes := reception.wakes ++ [reception.found] }
  | marks {notice : Notice} {rest : List Notice}
      (turn : Sender.loop [reception.found] reception.sender = (.waiting, (reception.sender.mark notice).2))
      (first : reception.channel = notice :: rest) : Woken reception (reception.marking notice rest)

theorem arrival_eq_closed (arrives : reception.arrival = .closed) :
    reception.closed = true ∧ reception.channel = [] := by
  unfold arrival at arrives
  split at arrives
  · cases arrives
  · next empty =>
    split at arrives
    · next closed => exact ⟨closed, empty⟩
    · cases arrives

theorem arrival_eq_notice (arrives : reception.arrival = .notice notice) :
    ∃ rest, reception.channel = notice :: rest := by
  unfold arrival at arrives
  split at arrives
  · next rest first =>
    cases arrives
    exact ⟨rest, first⟩
  · split at arrives <;> cases arrives

theorem wake_of_stop (stops : reception.watch.stop = true) :
    reception.wake = { reception with wakes := reception.wakes ++ [reception.found], stage := .leaving } := by
  rw [wake, Sender.loop_of_stop reception.sender reception.found stops]

theorem wake_of_first (goesOn : reception.watch.stop = false) (first : reception.channel = notice :: rest) :
    reception.wake = reception.marking notice rest := by
  have arrives : reception.arrival = .notice notice := by simp only [arrival, first]
  rw [wake, Sender.loop_of_notice reception.sender reception.found goesOn arrives, arrives, first]
  rfl

theorem wake_of_closed (empty : reception.channel = []) (closed : reception.closed = true) :
    reception.wake = { reception with wakes := reception.wakes ++ [reception.found], stage := .leaving } := by
  have arrives : reception.arrival = .closed := by simp [arrival, empty, closed]
  rw [wake, Sender.loop_of_closed reception.sender reception.found arrives]

theorem woken_wake (reception : Reception) : Woken reception reception.wake := by
  have turned := reception.sender.turned_loop reception.found
  unfold wake
  generalize turn : Sender.loop [reception.found] reception.sender = outcome at turned
  cases turned with
  | leaves reason => exact .leaves turn (reason.imp_right arrival_eq_closed)
  | waits arrives =>
      have arrives : reception.arrival = .nothing := arrives
      rw [arrives]
      exact .waits turn
  | marks arrives =>
      have arrives : reception.arrival = .notice _ := arrives
      obtain ⟨rest, first⟩ := arrival_eq_notice arrives
      rw [arrives, first]
      exact .marks turn first

inductive Stepped (reception : Reception) : Move → Reception → Prop where
  | put {notice : Notice} (stays : reception.closed = false) :
      Stepped reception (.put notice)
        { reception with channel := reception.channel ++ [notice], placed := reception.placed ++ [notice] }
  | closeChannel : Stepped reception .closeChannel { reception with closed := true }
  | requestStop : Stepped reception .requestStop { reception with watch := reception.watch.request }
  | abandonWatch : Stepped reception .abandonWatch { reception with watch := reception.watch.abandon }
  | refuse {operations : List Operation} :
      Stepped reception (.refuse operations)
        { reception with
          sender := { reception.sender with link := { reception.sender.link with refused := operations } } }
  | replace {store : Store} :
      Stepped reception (.replace store)
        { reception with sender := { reception.sender with link := { reception.sender.link with store } } }
  | wake {next : Reception} (listens : reception.stage = .listening) (woken : Woken reception next) :
      Stepped reception .wake next
  | closeConsumer {failure : Option TransportError} (leaves : reception.stage = .leaving) :
      Stepped reception (.closeConsumer failure)
        { reception with
          sender := reception.sender.closeConsumer
          consumer := if failure = none then reception.consumer.close else reception.consumer
          stage := .closing }
  | closeStore (closes : reception.stage = .closing) :
      Stepped reception .closeStore
        { reception with sender := reception.sender.closeStore, stage := .returned }

theorem stepped_of_step (stepped : reception.step move = some next) :
    reception.stage.isOver = false ∧ Stepped reception move next := by
  obtain ⟨goesOn, acted⟩ := Option.ite_none_left_eq_some.mp stepped
  refine ⟨by simpa using goesOn, ?_⟩
  cases move with
  | put notice =>
      obtain ⟨⟨-, stays⟩, acts⟩ := Option.ite_none_right_eq_some.mp acted
      cases acts
      exact .put (by simpa using stays)
  | closeChannel =>
      cases acted
      exact .closeChannel
  | requestStop =>
      cases acted
      exact .requestStop
  | abandonWatch =>
      cases acted
      exact .abandonWatch
  | refuse operations =>
      cases acted
      exact .refuse
  | replace store =>
      cases acted
      exact .replace
  | wake =>
      obtain ⟨listens, acts⟩ := Option.ite_none_right_eq_some.mp acted
      cases acts
      exact .wake listens reception.woken_wake
  | closeConsumer failure =>
      obtain ⟨leaves, acts⟩ := Option.ite_none_right_eq_some.mp acted
      cases acts
      exact .closeConsumer leaves
  | closeStore =>
      obtain ⟨closes, acts⟩ := Option.ite_none_right_eq_some.mp acted
      cases acts
      exact .closeStore closes

end Reception
end Datebook
