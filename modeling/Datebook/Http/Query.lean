import Datebook.Event.Json

set_option autoImplicit false

namespace Datebook.Http

open Json

structure UserDate where
  userId : UserId
  date : Instant
  deriving DecidableEq

def idShape : Shape EventId where
  members := [.of "id" true readNatural fun _ value => value]
  blank := 0
  shortList := false

def userShape : Shape UserId where
  members := [.of "user_id" true readNatural fun _ value => value]
  blank := 0
  shortList := false

def userDateShape : Shape UserDate where
  members := [
    .of "user_id" true readNatural fun query value => { query with userId := value },
    .of "date" true readInstant fun query value => { query with date := value }]
  blank := ⟨0, epoch⟩
  shortList := false

def idLexemes (id : EventId) : List Lexeme := objectOf [("id", [.natural id])]

def userLexemes (userId : UserId) : List Lexeme := objectOf [("user_id", [.natural userId])]

def userDateLexemes (query : UserDate) : List Lexeme :=
  objectOf [("user_id", [.natural query.userId]), ("date", [query.date.lexeme])]

def messageLexemes (message : String) : List Lexeme := objectOf [("msg", [.string message.toList])]

def eventsLexemes (events : List Event) : List Lexeme :=
  objectOf [("events", listOf (events.map Event.lexemes))]

def errorLexemes (message : String) : List Lexeme := objectOf [("error", [.string message.toList])]

end Datebook.Http
