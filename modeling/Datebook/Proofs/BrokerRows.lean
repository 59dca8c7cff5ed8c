import Mathlib.Data.List.Basic
import Datebook.Queue.Broker

set_option autoImplicit false

namespace Datebook

def decoded (messages : List Message) : List (Message × Notice) :=
  messages.filterMap fun message => (Notice.decode message.payload).toOption.map (message, ·)

theorem decoded_append (left right : List Message) : decoded (left ++ right) = decoded left ++ decoded right :=
  List.filterMap_append

theorem decoded_cons_of_ok {message : Message} {notice : Notice} (reads : Notice.decode message.payload = .ok notice)
    (rest : List Message) : decoded (message :: rest) = (message, notice) :: decoded rest :=
  List.filterMap_cons_some (by simp [reads, Except.toOption])

theorem decoded_cons_of_error {message : Message} {fault : Json.Fault}
    (fails : Notice.decode message.payload = .error fault) (rest : List Message) :
    decoded (message :: rest) = decoded rest :=
  List.filterMap_cons_none (by simp [fails, Except.toOption])

namespace Broker

variable {broker : Broker}

structure Ordered (broker : Broker) : Prop where
  ascending : broker.rows.Pairwise fun left right => left.seq < right.seq
  given : ∀ message ∈ broker.rows, message.seq ≤ broker.lastSeq

def extended (broker : Broker) (queue : String) (payload : Text.RawText) : Broker :=
  { broker with
    rows := broker.rows ++ [⟨broker.lastSeq + 1, queue, payload⟩]
    lastSeq := broker.lastSeq + 1 }

theorem publishRaw_eq_or (broker : Broker) (queue : String) (payload : Text.RawText) :
    broker.publishRaw queue payload = (.ok (broker.lastSeq + 1), broker.extended queue payload) ∨
      ∃ error, broker.publishRaw queue payload = (.error error, broker) := by
  unfold publishRaw
  split
  · exact .inr ⟨_, rfl⟩
  · exact .inl rfl
  · exact .inl rfl

-- The broker without the row of that number, whether or not there is one.
def without (broker : Broker) (seq : Int) : Broker :=
  { broker with rows := broker.rows.filter fun message => message.seq ≠ seq }

theorem acknowledge_eq_or (broker : Broker) (seq : Int) :
    broker.acknowledge seq = (.ok (), broker.without seq) ∨
      broker.state ≠ .sound ∧ ∃ error, broker.acknowledge seq = (.error error, broker) := by
  obtain ⟨rows, lastSeq, state⟩ := broker
  cases state with
  | tableless => exact .inr ⟨nofun, _, rfl⟩
  | sound => exact .inl rfl
  | undeletable =>
      simp only [acknowledge, without]
      split
      · exact .inr ⟨nofun, _, rfl⟩
      · next absent =>
        left
        have unchanged : (rows.filter fun message => message.seq ≠ seq) = rows := by
          simpa [List.filter_eq_self] using absent
        rw [unchanged]

theorem peek_eq_or (broker : Broker) (queue : String) :
    broker.peek queue = .ok (broker.waiting queue).head? ∨ ∃ error, broker.peek queue = .error error := by
  unfold peek
  split
  · exact .inr ⟨_, rfl⟩
  · exact .inl rfl
  · exact .inl rfl

end Broker
end Datebook
