import Datebook.Event.Rules
import Datebook.Store.Request
import Datebook.Time.Stamp

set_option autoImplicit false

namespace Datebook

def Field.name : Field → String
  | .id => "id"
  | .userId => "user_id"
  | .title => "title"
  | .onTime => "on_time"
  | .offTime => "off_time"
  | .notifyTime => "notify_time"

def Reason.message : Reason → String
  | .zero => "zero"
  | .tooLong => "longer than 150 characters"
  | .missing => "empty"
  | .outOfRange => "out of range"
  | .beforeStart => "before on_time"
  | .equalToStart => "equal to on_time"
  | .afterEnd => "after off_time"

def Violation.message (violation : Violation) : String :=
  s!"wrong {violation.field.name}: {violation.reason.message}"

def eventNotFoundMessage (id : EventId) : String := s!"event not found: {id.toNat}"

-- What a database itself reports is not part of a message.
def StoreError.message? : StoreError → Option String
  | .eventNotFound id => some (eventNotFoundMessage id)
  | .dateBusy => some "date range is busy"
  | .notConnected => some "storage is not connected"
  | .timestampOutOfRange time => some s!"timestamp out of storable range: {time.describe}"
  | .database => none
  | .refused operation => some s!"storage task failed: {operation} refused"

inductive ServiceError where
  | invalid (violation : Violation)
  | periodOutOfRange
  | dateBusy
  | eventNotFound (id : EventId)
  | timedOut
  | store (error : StoreError)
  deriving DecidableEq

namespace ServiceError

def ofStore : StoreError → ServiceError
  | .dateBusy => dateBusy
  | .eventNotFound id => eventNotFound id
  | error => store error

def isClientError : ServiceError → Bool
  | timedOut | store _ => false
  | _ => true

def isValidation : ServiceError → Bool
  | invalid _ | periodOutOfRange => true
  | _ => false

def message? : ServiceError → Option String
  | invalid violation => some violation.message
  | periodOutOfRange => some "wrong date: period outside supported range"
  | dateBusy => some "date is busy"
  | eventNotFound id => some (eventNotFoundMessage id)
  | timedOut => some "storage call timed out"
  | store error => error.message?

end ServiceError
end Datebook
