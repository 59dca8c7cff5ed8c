import Datebook.Http.MediaType
import Datebook.Http.Query
import Datebook.Service

set_option autoImplicit false

namespace Datebook.Http

open Json

inductive Route where
  | health
  | insert
  | update
  | delete
  | lookup
  | list
  | listPeriod (kind : Service.PeriodKind)
  deriving DecidableEq

def Route.ofPath? (path : String) : Option Route :=
  if path = "/health" then some health
  else if path = "/v1/events/insert" then some insert
  else if path = "/v1/events/update" then some update
  else if path = "/v1/events/delete" then some delete
  else if path = "/v1/events/lookup" then some lookup
  else if path = "/v1/events/list" then some list
  else if path = "/v1/events/list/day" then some (listPeriod .day)
  else if path = "/v1/events/list/week" then some (listPeriod .week)
  else if path = "/v1/events/list/month" then some (listPeriod .month)
  else none

structure Request where
  method : String
  path : String
  contentType : Option String
  body : Text.RawText

inductive Rejection where
  | unsupportedMediaType
  | tooLarge
  | malformed
  | mismatched
  deriving DecidableEq

namespace Rejection

def status : Rejection → Nat
  | unsupportedMediaType => 415
  | tooLarge => 413
  | malformed => 400
  | mismatched => 422

def message : Rejection → String
  | unsupportedMediaType => "Expected request with \x60Content-Type"
  | tooLarge => "Failed to buffer the request body"
  | malformed => "Failed to parse the request body as JSON"
  | mismatched => "Failed to deserialize the JSON body into the target type"

end Rejection

inductive Body where
  | none
  | text (content : String)
  | json (content : List Lexeme)

structure Response where
  status : Nat
  body : Body
  allow : Option (List String)

namespace Response

def ok (content : List Lexeme) : Response := ⟨200, .json content, .none⟩

def notFound : Response := ⟨404, .none, .none⟩

def methodNotAllowed (allow : List String) : Response := ⟨405, .none, some allow⟩

def rejected (rejection : Rejection) : Response := ⟨rejection.status, .text rejection.message, .none⟩

end Response

def errorStatus : ServiceError → Nat
  | .dateBusy => 409
  | .eventNotFound _ => 404
  | .timedOut => 504
  | .store _ => 500
  | .invalid _ | .periodOutOfRange => 400

def Response.failed (error : ServiceError) : Response :=
  ⟨errorStatus error, .json (errorLexemes (error.message?.getD "")), .none⟩

/-- The call that a body asks for; what follows the first JSON value is ignored. -/
def Route.call? (route : Route) (body : Text.RawText) : Option (Except Fault Service.Call) :=
  match route with
  | health => none
  | insert => some ((readFirst Draft.shape.read body).map .insert)
  | update => some ((readFirst Draft.shape.read body).map .update)
  | delete => some ((readFirst idShape.read body).map .delete)
  | lookup => some ((readFirst idShape.read body).map .lookup)
  | list => some ((readFirst userShape.read body).map .list)
  | listPeriod kind =>
      some ((readFirst userDateShape.read body).map fun query =>
        .listPeriod kind query.userId query.date)

def answerLexemes : (call : Service.Call) → call.Answer → List Lexeme
  | .insert _, id => idLexemes id
  | .update draft, () => messageLexemes s!"event {draft.id.toNat} updated"
  | .delete id, () => messageLexemes s!"event {id.toNat} deleted"
  | .lookup _, event => event.lexemes
  | .list _, events => eventsLexemes events
  | .listPeriod _ _ _, events => eventsLexemes events

def Response.ofCall (call : Service.Call) : Except ServiceError call.Answer → Response
  | .ok answer => .ok (answerLexemes call answer)
  | .error error => .failed error

def rejectionOf : Fault → Rejection
  | .cutShort | .malformed => .malformed
  | .mismatched => .mismatched

-- The largest body that is read, in bytes.
def greatestBodySize : Nat := 2097152

def handle (request : Request) (link : StoreLink) : Response × StoreLink :=
  match Route.ofPath? request.path with
  | none => (.notFound, link)
  | some route =>
      match route.call? request.body with
      | none =>
          if request.method = "GET" then (⟨200, .text "ok", none⟩, link)
          else if request.method = "HEAD" then (⟨200, .text "", none⟩, link)
          else (.methodNotAllowed ["GET", "HEAD"], link)
      | some body =>
          if request.method ≠ "POST" then (.methodNotAllowed ["POST"], link)
          else if ! request.contentType.any MediaType.isJson then
            (.rejected .unsupportedMediaType, link)
          else if greatestBodySize < request.body.byteCount then (.rejected .tooLarge, link)
          else
            match body with
            | .error fault => (.rejected (rejectionOf fault), link)
            | .ok call =>
                let (result, link) := Service.perform call link
                (.ofCall call result, link)

end Datebook.Http
