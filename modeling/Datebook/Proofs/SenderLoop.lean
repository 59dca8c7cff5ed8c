import Datebook.Loop.Sender

set_option autoImplicit false

namespace Datebook.Sender

theorem loop_append (first second : List Wake) (sender : Sender) :
    loop (first ++ second) sender =
      match loop first sender with
      | (.waiting, sender) => loop second sender
      | (.finished, sender) => (.finished, sender) := by
  induction first generalizing sender with
  | nil => rfl
  | cons wake rest ih =>
      simp only [List.cons_append, loop]
      split
      · rfl
      split
      · exact ih sender
      · rfl
      · exact ih _

section Turn

variable (sender : Sender) (wake : Wake)

theorem loop_of_stop (stops : wake.watch.stop = true) : loop [wake] sender = (.finished, sender) := if_pos stops

theorem loop_of_closed (arrives : wake.arrival = .closed) : loop [wake] sender = (.finished, sender) := by
  simp [loop, arrives]

theorem loop_of_notice {notice : Notice} (goesOn : wake.watch.stop = false) (arrives : wake.arrival = .notice notice) :
    loop [wake] sender = (.waiting, (sender.mark notice).2) := by
  simp [loop, goesOn, arrives]

inductive Turned : Progress × Sender → Prop where
  | leaves (reason : wake.watch.stop = true ∨ wake.arrival = .closed) : Turned (.finished, sender)
  | waits (arrives : wake.arrival = .nothing) : Turned (.waiting, sender)
  | marks {notice : Notice} (arrives : wake.arrival = .notice notice) : Turned (.waiting, (sender.mark notice).2)

theorem turned_loop : Turned sender wake (loop [wake] sender) := by
  simp only [loop]
  split
  · next stops => exact .leaves (.inl stops)
  split
  · next arrives => exact .waits arrives
  · next arrives => exact .leaves (.inr arrives)
  · next arrives => exact .marks arrives

end Turn

-- How far a sender is on the way out of its loop. It may do other things between two of these.
inductive Leg where
  | looping
  | out
  | consumerClosed
  | returned

namespace Leg

def progress : Leg → Progress
  | looping => .waiting
  | out | consumerClosed | returned => .finished

def ofProgress : Progress → Leg
  | .waiting => looping
  | .finished => out

def closes (sender : Sender) : Leg → Sender
  | looping | out => sender
  | consumerClosed => sender.closeConsumer
  | returned => sender.closeConsumer.closeStore

end Leg

variable {sender : Sender} {link : StoreLink} {wakes : List Wake}

def Looped (link : StoreLink) (wakes : List Wake) (leg : Leg) (sender : Sender) : Prop :=
  ∃ inLoop, loop wakes (.start link) = (leg.progress, inLoop) ∧ sender = leg.closes inLoop

theorem looped_start (link : StoreLink) : Looped link [] .looping (.start link) := ⟨_, rfl, rfl⟩

theorem Looped.turn {wake : Wake} {progress : Progress} {after : Sender} (looped : Looped link wakes .looping sender)
    (turn : loop [wake] sender = (progress, after)) :
    Looped link (wakes ++ [wake]) (.ofProgress progress) after := by
  obtain ⟨_, before, rfl⟩ := looped
  refine ⟨after, ?_, ?_⟩
  · rw [loop_append, before]
    cases progress <;> exact turn
  · cases progress <;> rfl

theorem Looped.closeConsumer (looped : Looped link wakes .out sender) :
    Looped link wakes .consumerClosed sender.closeConsumer := by
  obtain ⟨_, before, rfl⟩ := looped
  exact ⟨sender, before, rfl⟩

theorem Looped.closeStore (looped : Looped link wakes .consumerClosed sender) :
    Looped link wakes .returned sender.closeStore := by
  obtain ⟨inLoop, before, rfl⟩ := looped
  exact ⟨inLoop, before, rfl⟩

theorem Looped.run (looped : Looped link wakes .returned sender) :
    run false wakes (.start link) = (.ok .finished, sender) := by
  obtain ⟨inLoop, finished, rfl⟩ := looped
  rw [Sender.run, finished]
  rfl

end Datebook.Sender
