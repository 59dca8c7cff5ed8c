import Datebook.Service.Error
import Datebook.Time.Period

set_option autoImplicit false

namespace Datebook

inductive Procedure (α : Type) where
  | done (result : Except ServiceError α)
  | ask (request : Store.Request) (next : request.Answer → Procedure α)

namespace Procedure

variable {α σ : Type}

def run (serve : (request : Store.Request) → σ → Except ServiceError request.Answer × σ) :
    Procedure α → σ → Except ServiceError α × σ
  | done result, state => (result, state)
  | ask request next, state =>
      match serve request state with
      | (.error error, state) => (.error error, state)
      | (.ok answer, state) => run serve (next answer) state

def single (request : Store.Request) : Procedure request.Answer :=
  ask request fun answer => done (.ok answer)

end Procedure

namespace Service

inductive PeriodKind where
  | day
  | week
  | month
  deriving DecidableEq

def PeriodKind.bounds : PeriodKind → Date → Option Period
  | day => Date.dayBounds
  | week => Date.weekBounds
  | month => Date.monthBounds

/-- New events get their ids from the store, so no event is left out of the check. -/
def insert (draft : Draft) : Procedure EventId :=
  match draft.check false with
  | .error violation => .done (.error (.invalid violation))
  | .ok event =>
      .ask (.checkFree 0 event.userId event.onTime event.offTime) fun () =>
        Procedure.single (.insert { event with id := 0 })

def update (draft : Draft) : Procedure Unit :=
  match draft.check true with
  | .error violation => .done (.error (.invalid violation))
  | .ok event =>
      .ask (.checkFree event.id event.userId event.onTime event.offTime) fun () =>
        Procedure.single (.update event)

def delete (id : EventId) : Procedure Unit := Procedure.single (.delete id)

def lookup (id : EventId) : Procedure Event :=
  if id = 0 then .done (.error (.invalid ⟨.id, .zero⟩)) else Procedure.single (.lookup id)

def list (userId : UserId) : Procedure (List Event) :=
  if userId = 0 then .done (.error (.invalid ⟨.userId, .zero⟩)) else Procedure.single (.list userId)

def listPeriod (kind : PeriodKind) (userId : UserId) (date : Instant) : Procedure (List Event) :=
  if userId = 0 then .done (.error (.invalid ⟨.userId, .zero⟩))
  else
    match kind.bounds date.date with
    | none => .done (.error .periodOutOfRange)
    | some period => Procedure.single (.listRange userId period.first period.last)

inductive Call where
  | insert (draft : Draft)
  | update (draft : Draft)
  | delete (id : EventId)
  | lookup (id : EventId)
  | list (userId : UserId)
  | listPeriod (kind : PeriodKind) (userId : UserId) (date : Instant)
  deriving DecidableEq

namespace Call

@[reducible] def Answer : Call → Type
  | insert _ => EventId
  | update _ | delete _ => Unit
  | lookup _ => Event
  | list _ | listPeriod _ _ _ => List Event

def procedure : (call : Call) → Procedure call.Answer
  | insert draft => Service.insert draft
  | update draft => Service.update draft
  | delete id => Service.delete id
  | lookup id => Service.lookup id
  | list userId => Service.list userId
  | listPeriod kind userId date => Service.listPeriod kind userId date

def isGated : Call → Bool
  | insert _ | update _ => true
  | _ => false

end Call
end Service
end Datebook
