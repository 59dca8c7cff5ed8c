import Datebook.Proofs.BrokerRows
import Datebook.Proofs.NoticeBatch

set_option autoImplicit false

namespace Datebook

open Text (RawText)

namespace Broker

inductive Call where
  | publish (queue : String) (notice : Notice)
  | peek (queue : String)
  | acknowledge (seq : Int)
  | depth (queue : String)
  deriving DecidableEq

@[reducible] def Call.Answer : Call → Type
  | publish _ _ => Int
  | peek _ => Option Message
  | acknowledge _ => Unit
  | depth _ => Nat

def answer (broker : Broker) : (call : Call) → Except TransportError call.Answer × Broker
  | .publish queue notice => broker.publish queue notice
  | .peek queue => (broker.peek queue, broker)
  | .acknowledge seq => broker.acknowledge seq
  | .depth queue => (broker.depth queue, broker)

/-- A call that was made, with what the database did at the time and what came of it. -/
structure Entry where
  state : BrokerState
  call : Call
  result : Except TransportError call.Answer

namespace Entry

def added : Entry → List Message
  | ⟨_, .publish queue notice, .ok seq⟩ => [⟨seq, queue, RawText.ofChars notice.encode⟩]
  | _ => []

def spares : Entry → Message → Bool
  | ⟨_, .acknowledge seq, .ok ()⟩, message => decide (message.seq ≠ seq)
  | _, _ => true

end Entry

variable {broker : Broker} {history : List Entry} {entry : Entry} {old rows messages : List Message} {message : Message}

def published (history : List Entry) : List Message := history.flatMap Entry.added

def spared (history : List Entry) (messages : List Message) : List Message :=
  messages.filter fun message => history.all fun entry => entry.spares message

def outstanding : List Entry → List Message
  | [] => []
  | entry :: rest => spared rest entry.added ++ outstanding rest

def left (old : List Message) (history : List Entry) : List Message := spared history old ++ outstanding history

theorem spared_snoc : spared (history ++ [entry]) messages = (spared history messages).filter entry.spares := by
  simp [spared, List.filter_filter, Bool.and_comm]

theorem outstanding_snoc :
    outstanding (history ++ [entry]) = (outstanding history).filter entry.spares ++ entry.added := by
  -- The definition looks ahead from each entry, so a later one thins what all earlier ones have added.
  induction history with
  | nil => simp [outstanding, spared]
  | cons first rest ih =>
      simp only [List.cons_append, outstanding, ih, spared_snoc, List.filter_append, List.append_assoc]

theorem left_snoc : left old (history ++ [entry]) = (left old history).filter entry.spares ++ entry.added := by
  simp only [left, spared_snoc, outstanding_snoc, List.filter_append, List.append_assoc]

theorem outstanding_sublist (history : List Entry) : (outstanding history).Sublist (published history) := by
  induction history with
  | nil => exact .slnil
  | cons first rest ih =>
      rw [published, List.flatMap_cons]
      exact List.filter_sublist.append ih

theorem left_sublist {given : List Message} (kept : old.Sublist given) :
    (left old history).Sublist (given ++ published history) :=
  (List.filter_sublist.trans kept).append (outstanding_sublist history)

/-- How a call is answered when these messages have been published and those of the rows not acknowledged, and what
it leaves of the rows. -/
inductive Answered (given rows : List Message) : Entry → List Message → Prop where
  | failed {state : BrokerState} {call : Call} {error : TransportError} (broken : state ≠ .sound) :
      Answered given rows ⟨state, call, .error error⟩ rows
  | published {state : BrokerState} {queue : String} {notice : Notice} {seq : Int}
      (new : ∀ message ∈ given, message.seq < seq)
      (reads : Notice.decode (RawText.ofChars notice.encode) = .ok notice) :
      Answered given rows ⟨state, .publish queue notice, .ok seq⟩
        (rows ++ [⟨seq, queue, RawText.ofChars notice.encode⟩])
  | peeked {state : BrokerState} {queue : String} :
      Answered given rows
        ⟨state, .peek queue, .ok (rows.filter fun message => message.queue = queue).head?⟩ rows
  | acknowledged {state : BrokerState} {seq : Int} :
      Answered given rows ⟨state, .acknowledge seq, .ok ()⟩ (rows.filter fun message => message.seq ≠ seq)
  | counted {state : BrokerState} {queue : String} :
      Answered given rows
        ⟨state, .depth queue, .ok (rows.filter fun message => message.queue = queue).length⟩ rows

theorem Answered.after_eq {given after : List Message} (answered : Answered given rows entry after) :
    after = rows.filter entry.spares ++ entry.added := by
  cases answered with
  | @failed state call error broken =>
      have keeps : ∀ message ∈ rows, Entry.spares ⟨state, call, .error error⟩ message = true :=
        fun _ _ => by cases call <;> rfl
      have adds : Entry.added ⟨state, call, .error error⟩ = [] := by cases call <;> rfl
      rw [List.filter_eq_self.mpr keeps, adds, List.append_nil]
  | published new reads => exact congrArg (· ++ _) (List.filter_eq_self.mpr fun _ _ => rfl).symm
  | peeked | counted => exact ((List.append_nil _).trans (List.filter_eq_self.mpr fun _ _ => rfl)).symm
  | acknowledged => exact (List.append_nil _).symm

theorem answered_answer (broker : Broker) (given : List Message)
    (bound : ∀ message ∈ given, message.seq ≤ broker.lastSeq) (call : Call) :
    Answered given broker.rows ⟨broker.state, call, (broker.answer call).1⟩ (broker.answer call).2.rows := by
  obtain ⟨rows, lastSeq, state⟩ := broker
  cases call with
  | publish queue notice =>
      -- The counter bounds all numbers ever given, also of rows that are gone.
      have new : ∀ message ∈ given, message.seq < lastSeq + 1 :=
        fun message member => Int.lt_add_one_of_le (bound message member)
      cases state with
      | tableless => exact .failed nofun
      | sound | undeletable => exact .published new notice.decode_encode
  | peek queue =>
      cases state with
      | tableless => exact .failed nofun
      | sound | undeletable => exact .peeked
  | depth queue =>
      cases state with
      | tableless => exact .failed nofun
      | sound | undeletable => exact .counted
  | acknowledge seq =>
      rcases acknowledge_eq_or ⟨rows, lastSeq, state⟩ seq with succeeds | ⟨broken, error, fails⟩
      · rw [answer, succeeds]
        exact .acknowledged
      · rw [answer, fails]
        exact .failed broken

structure Numbered (given : List Message) (broker : Broker) : Prop where
  ascending : given.Pairwise fun left right => left.seq < right.seq
  bound : ∀ message ∈ given, message.seq ≤ broker.lastSeq

theorem Numbered.extended {given : List Message} (numbered : Numbered given broker) (queue : String)
    (payload : RawText) :
    Numbered (given ++ [⟨broker.lastSeq + 1, queue, payload⟩]) (broker.extended queue payload) := by
  refine ⟨List.pairwise_append.mpr ⟨numbered.ascending, List.pairwise_singleton _ _, ?_⟩, ?_⟩
  · intro message member last isLast
    rw [List.mem_singleton.mp isLast]
    exact Int.lt_add_one_of_le (numbered.bound message member)
  · intro message member
    rcases List.mem_append.mp member with isOld | isLast
    · exact Int.le_add_one (numbered.bound message isOld)
    · rw [List.mem_singleton.mp isLast]
      exact Int.le_refl _

theorem Numbered.answer {given : List Message} (numbered : Numbered given broker) (call : Call) :
    Numbered (given ++ Entry.added ⟨broker.state, call, (broker.answer call).1⟩) (broker.answer call).2 := by
  cases call with
  | publish queue notice =>
      simp only [Broker.answer, publish]
      rcases broker.publishRaw_eq_or queue (RawText.ofChars notice.encode) with succeeds | ⟨error, fails⟩
      · rw [succeeds]
        exact numbered.extended queue _
      · rw [fails]
        change Numbered (given ++ []) broker
        rwa [List.append_nil]
  | peek queue | depth queue =>
      simp only [Broker.answer, Entry.added, List.append_nil]
      exact numbered
  | acknowledge seq =>
      simp only [Broker.answer, Entry.added, List.append_nil]
      rcases broker.acknowledge_eq_or seq with succeeds | ⟨-, error, fails⟩
      · rw [succeeds]
        exact ⟨numbered.ascending, numbered.bound⟩
      · rw [fails]
        exact numbered

end Broker

/-- Queue databases and the calls that were made, each through a handle; handles on the same database are clones. -/
structure Postbook where
  exchange : Exchange
  entries : List (Address × Broker.Entry)

namespace Postbook

open Broker (Entry Numbered Answered published left left_sublist outstanding)

structure Move where
  handle : Address
  state : BrokerState
  call : Broker.Call

def start (exchange : Exchange) : Postbook := ⟨exchange, []⟩

def step (book : Postbook) (move : Move) : Postbook :=
  let (result, broker) := { book.exchange.broker move.handle with state := move.state }.answer move.call
  ⟨book.exchange.setBroker move.handle broker, book.entries ++ [(move.handle, ⟨move.state, move.call, result⟩)]⟩

def run (moves : List Move) (book : Postbook) : Postbook := moves.foldl step book

def history (book : Postbook) (handle : Address) : List Entry :=
  book.entries.filterMap fun entry => if entry.1 = handle then some entry.2 else none

variable {exchange : Exchange} {book : Postbook} {handle : Address} {given old : List Message} {move : Move}

structure Fifo (given old : List Message) (handle : Address) (book : Postbook) : Prop where
  rows : (book.exchange.broker handle).rows = left old (book.history handle)
  numbered : Numbered (given ++ published (book.history handle)) (book.exchange.broker handle)

theorem history_step (book : Postbook) (move : Move) (handle : Address) :
    (book.step move).history handle = book.history handle ++
      if move.handle = handle then
        [⟨move.state, move.call, ({ book.exchange.broker move.handle with state := move.state }.answer move.call).1⟩]
      else [] := by
  simp only [history, step, List.filterMap_append]
  split <;> simp [*]

theorem broker_step (book : Postbook) (move : Move) (handle : Address) :
    (book.step move).exchange.broker handle =
      if move.handle = handle then
        ({ book.exchange.broker move.handle with state := move.state }.answer move.call).2
      else book.exchange.broker handle := by
  simp only [step, Exchange.broker_setBroker, eq_comm]

theorem Fifo.answered (fifo : book.Fifo given old handle) (own : move.handle = handle) :
    ∃ result, (book.step move).history handle = book.history handle ++ [⟨move.state, move.call, result⟩] ∧
      Answered (given ++ published (book.history handle)) (left old (book.history handle))
        ⟨move.state, move.call, result⟩ ((book.step move).exchange.broker handle).rows := by
  subst own
  refine ⟨_, by rw [history_step, if_pos rfl], ?_⟩
  rw [broker_step, if_pos rfl, ← fifo.rows]
  exact Broker.answered_answer { book.exchange.broker move.handle with state := move.state } _ fifo.numbered.bound
    move.call

theorem Fifo.step (fifo : book.Fifo given old handle) (move : Move) : (book.step move).Fifo given old handle := by
  -- Clones of the handle share its database, and other handles neither reach it nor enter its history.
  by_cases own : move.handle = handle
  · obtain ⟨result, recorded, answered⟩ := fifo.answered own
    refine ⟨by rw [answered.after_eq, recorded, Broker.left_snoc], ?_⟩
    subst own
    have numbered : Numbered (given ++ published (book.history move.handle))
        { book.exchange.broker move.handle with state := move.state } := ⟨fifo.numbered.ascending, fifo.numbered.bound⟩
    rw [history_step, broker_step, if_pos rfl, if_pos rfl, published, List.flatMap_append, ← List.append_assoc]
    simpa [published] using numbered.answer move.call
  · refine ⟨?_, ?_⟩
    · rw [history_step, broker_step, if_neg own, if_neg own, List.append_nil]
      exact fifo.rows
    · rw [history_step, broker_step, if_neg own, if_neg own, List.append_nil]
      exact fifo.numbered

theorem Fifo.run (fifo : book.Fifo given old handle) (moves : List Move) : (run moves book).Fifo given old handle := by
  induction moves generalizing book with
  | nil => exact fifo
  | cons move rest ih => exact ih (fifo.step move)

theorem fifo_start (numbered : Numbered given (exchange.broker handle)) :
    (start exchange).Fifo given (exchange.broker handle).rows handle where
  rows := by simp [left, Broker.spared, outstanding, history, start]
  numbered := by simpa [published, history, start] using numbered

/-- The messages of one database are given in the order in which they were published, whoever calls and in whatever
order. -/
theorem fifo_of_run (numbered : Numbered given (exchange.broker handle))
    (kept : (exchange.broker handle).rows.Sublist given) (moves : List Move) :
    let old := (exchange.broker handle).rows
    let book := run moves (start exchange)
    let history := book.history handle
    (book.exchange.broker handle).rows = left old history ∧
      (left old history).Sublist (given ++ published history) ∧
      (given ++ published history).Pairwise (fun left right => left.seq < right.seq) ∧
      ∀ move, move.handle = handle → ∃ result,
        (book.step move).history handle = history ++ [⟨move.state, move.call, result⟩] ∧
          Answered (given ++ published history) (left old history) ⟨move.state, move.call, result⟩
            ((book.step move).exchange.broker handle).rows := by
  have fifo := (fifo_start numbered).run moves
  exact ⟨fifo.rows, left_sublist kept, fifo.numbered.ascending, fun move own => fifo.answered own⟩

-- The first message is acknowledged twice, the second time after the queue was empty and another came.
def redelivered : List Move :=
  [⟨.file "queue.db", .sound, .publish "notification" ⟨1, "", epoch, 7⟩⟩, ⟨.file "queue.db", .sound, .acknowledge 1⟩,
    ⟨.file "other.db", .sound, .publish "notification" ⟨9, "", epoch, 7⟩⟩,
    ⟨.file "queue.db", .undeletable, .publish "notification" ⟨2, "", epoch, 7⟩⟩,
    ⟨.file "queue.db", .sound, .acknowledge 1⟩, ⟨.file "queue.db", .tableless, .acknowledge 2⟩]

theorem fifo_of_redelivered :
    let second : Message := ⟨2, "notification", RawText.ofChars (Notice.encode ⟨2, "", epoch, 7⟩)⟩
    let book := run redelivered (start .empty)
    Numbered [] (Exchange.empty.broker (.file "queue.db")) ∧
      (book.exchange.broker (.file "queue.db")).rows = [second] ∧
      ∃ result, Answered (published (book.history (.file "queue.db"))) [second]
        ⟨.sound, .peek "notification", result⟩ [second] := by
  intro second book
  have numbered : Numbered [] (Exchange.empty.broker (.file "queue.db")) := ⟨.nil, nofun⟩
  obtain ⟨rows, -, -, next⟩ := fifo_of_run numbered (.slnil) redelivered
  have remains : left [] (book.history (.file "queue.db")) = [second] := by rfl
  have rows : (book.exchange.broker (.file "queue.db")).rows = [second] := rows.trans remains
  obtain ⟨result, -, answered⟩ := next ⟨.file "queue.db", .sound, .peek "notification"⟩ rfl
  exact ⟨numbered, rows, result, answered⟩

end Postbook
end Datebook
