import Datebook.Event.Basic
import Datebook.Json.Read
import Datebook.Time.Stamp
import Datebook.Time.StampReader

set_option autoImplicit false

namespace Datebook

open Json

def Instant.lexeme (instant : Instant) : Lexeme := .string instant.write

def Json.optional {α : Type} (lexeme : α → Lexeme) : Option α → Lexeme
  | none => .null
  | some value => lexeme value

def Event.lexemes (event : Event) : List Lexeme :=
  objectOf [
    ("id", [.natural event.id]),
    ("user_id", [.natural event.userId]),
    ("title", [.string event.title.toList]),
    ("description", [.string event.description.toList]),
    ("on_time", [event.onTime.lexeme]),
    ("off_time", [event.offTime.lexeme]),
    ("notify_time", [Json.optional Instant.lexeme event.notifyTime]),
    ("notified", [.boolean event.notified])]

def Draft.lexemes (draft : Draft) : List Lexeme :=
  objectOf [
    ("id", [.natural draft.id]),
    ("user_id", [.natural draft.userId]),
    ("title", [.string draft.title.toList]),
    ("description", [.string draft.description.toList]),
    ("on_time", [Json.optional Instant.lexeme draft.onTime]),
    ("off_time", [Json.optional Instant.lexeme draft.offTime]),
    ("notify_time", [Json.optional Instant.lexeme draft.notifyTime])]

def Notice.lexemes (notice : Notice) : List Lexeme :=
  objectOf [
    ("id", [.natural notice.id]),
    ("title", [.string notice.title.toList]),
    ("date", [notice.date.lexeme]),
    ("user_id", [.natural notice.userId])]

def Notice.encode (notice : Notice) : List Char := write notice.lexemes

def Json.readString : Read String := fun text => (readText text).map fun (value, rest) =>
  (String.ofList value, rest)

def Json.readInstant : Read Instant := readAccepted readText Instant.read?

def Json.Member.of {α β : Type} (name : String) (required : Bool) (read : Read β) (set : α → β → α) :
    Member α :=
  ⟨name, required, fun record text => (read text).map fun (value, rest) => (set record value, rest)⟩

-- Stands for the instants of a record of which nothing has been read.
def epoch : Instant := NanoCount.toInstant ⟨0, by decide, by decide⟩

def Event.shape : Shape Event where
  members := [
    .of "id" true readNatural fun event value => { event with id := value },
    .of "user_id" true readNatural fun event value => { event with userId := value },
    .of "title" true readString fun event value => { event with title := value },
    .of "description" true readString fun event value => { event with description := value },
    .of "on_time" true readInstant fun event value => { event with onTime := value },
    .of "off_time" true readInstant fun event value => { event with offTime := value },
    .of "notify_time" false (readOptional readInstant) fun event value => { event with notifyTime := value },
    .of "notified" true readBoolean fun event value => { event with notified := value }]
  blank := ⟨0, 0, "", "", epoch, epoch, none, false⟩
  shortList := false

def Draft.shape : Shape Draft where
  members := [
    .of "id" false readNatural fun draft value => { draft with id := value },
    .of "user_id" false readNatural fun draft value => { draft with userId := value },
    .of "title" false readString fun draft value => { draft with title := value },
    .of "description" false readString fun draft value => { draft with description := value },
    .of "on_time" false (readOptional readInstant) fun draft value => { draft with onTime := value },
    .of "off_time" false (readOptional readInstant) fun draft value => { draft with offTime := value },
    .of "notify_time" false (readOptional readInstant) fun draft value => { draft with notifyTime := value }]
  blank := Draft.blank
  shortList := true

def Notice.shape : Shape Notice where
  members := [
    .of "id" true readNatural fun notice value => { notice with id := value },
    .of "title" true readString fun notice value => { notice with title := value },
    .of "date" true readInstant fun notice value => { notice with date := value },
    .of "user_id" true readNatural fun notice value => { notice with userId := value }]
  blank := ⟨0, "", epoch, 0⟩
  shortList := false

def Notice.decode (text : Text.RawText) : Except Fault Notice := readWhole Notice.shape.read text

end Datebook
