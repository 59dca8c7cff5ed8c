import Datebook.Event.Basic

set_option autoImplicit false

namespace Datebook

inductive Field where
  | id
  | userId
  | title
  | onTime
  | offTime
  | notifyTime
  deriving DecidableEq

inductive Reason where
  | zero
  | tooLong
  | missing
  | outOfRange
  | beforeStart
  | equalToStart
  | afterEnd
  deriving DecidableEq

structure Violation where
  field : Field
  reason : Reason
  deriving DecidableEq

def Event.titleLimit : Nat := 150

namespace Draft

def checkOffTime (onTime : Instant) : Option Instant → Except Violation Instant
  | none => .error ⟨.offTime, .missing⟩
  | some offTime =>
      if ¬ offTime.isStorable then .error ⟨.offTime, .outOfRange⟩
      else if offTime < onTime then .error ⟨.offTime, .beforeStart⟩
      else if offTime = onTime then .error ⟨.offTime, .equalToStart⟩
      else .ok offTime

def checkNotifyTime (onTime offTime : Instant) : Option Instant → Except Violation Unit
  | none => .ok ()
  | some notifyTime =>
      if ¬ notifyTime.isStorable then .error ⟨.notifyTime, .outOfRange⟩
      else if offTime < notifyTime then .error ⟨.notifyTime, .afterEnd⟩
      else if notifyTime < onTime then .error ⟨.notifyTime, .beforeStart⟩
      else .ok ()

-- The event that the draft describes. Updates need an id.
def check (draft : Draft) (needsId : Bool) : Except Violation Event :=
  if needsId ∧ draft.id = 0 then .error ⟨.id, .zero⟩
  else if draft.userId = 0 then .error ⟨.userId, .zero⟩
  else if Event.titleLimit < draft.title.length then .error ⟨.title, .tooLong⟩
  else
    match draft.onTime with
    | none => .error ⟨.onTime, .missing⟩
    | some onTime =>
        if ¬ onTime.isStorable then .error ⟨.onTime, .outOfRange⟩
        else do
          let offTime ← checkOffTime onTime draft.offTime
          checkNotifyTime onTime offTime draft.notifyTime
          return {
            id := draft.id
            userId := draft.userId
            title := draft.title
            description := draft.description
            onTime
            offTime
            notifyTime := draft.notifyTime
            notified := false }

end Draft
end Datebook
