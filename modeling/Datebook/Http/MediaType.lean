set_option autoImplicit false

namespace Datebook.Http.MediaType

def isTokenCharacter (character : Char) : Bool :=
  character.isAlphanum || "!#$%&'*+-.^_\x60|~".toList.contains character

def isToken (text : String) : Bool := ! text.toList.isEmpty && text.toList.all isTokenCharacter

def isHeaderValue (text : String) : Bool :=
  text.toList.all fun character =>
    character = '\t' || (32 ≤ character.toNat && character.toNat ≠ 127)

def isQuotable (character : Char) : Bool := 31 < character.toNat && character.toNat ≠ 127

inductive ParameterPart where
  | start
  | name
  | valueStart
  | value
  | quotedStart
  | quoted
  | afterQuoted

def parametersAreSound : ParameterPart → List Char → Bool
  | .start, [] | .value, [] | .valueStart, [] | .afterQuoted, [] => true
  | .name, [] | .quotedStart, [] | .quoted, [] => false
  | .start, character :: rest =>
      if character = ' ' then parametersAreSound .start rest
      else isTokenCharacter character && parametersAreSound .name rest
  | .name, character :: rest =>
      if character = '=' then parametersAreSound .valueStart rest
      else isTokenCharacter character && parametersAreSound .name rest
  | .valueStart, character :: rest =>
      if character = '"' then parametersAreSound .quotedStart rest
      else isTokenCharacter character && parametersAreSound .value rest
  | .value, character :: rest =>
      if character = ';' then parametersAreSound .start rest
      else isTokenCharacter character && parametersAreSound .value rest
  | .quotedStart, character :: rest =>
      isQuotable character && parametersAreSound .quoted rest
  | .quoted, character :: rest =>
      if character = '"' then parametersAreSound .afterQuoted rest
      else isQuotable character && parametersAreSound .quoted rest
  | .afterQuoted, character :: rest =>
      if character = ';' then parametersAreSound .start rest
      else character = ' ' && parametersAreSound .afterQuoted rest

-- Splits a subtype at its last plus sign that is not its first character.
def splitSuffix (subtype : List Char) : List Char × Option (List Char) :=
  match subtype.reverse.span (· ≠ '+') with
  | (_, []) => (subtype, none)
  | (suffix, _ :: base) => if base.isEmpty then (subtype, none) else (base.reverse, some suffix.reverse)

def isJson (header : String) : Bool :=
  let text := header.toList.map Char.toLower
  let (type, afterType) := text.span isTokenCharacter
  match afterType with
  | '/' :: rest =>
      let (subtype, parameters) := rest.span isTokenCharacter
      let (base, suffix) := splitSuffix subtype
      let sound :=
        match parameters with
        | [] => true
        | ';' :: rest => ! subtype.isEmpty && parametersAreSound .start rest
        | _ => false
      text.all (fun character => character.toNat < 127) && sound && type = "application".toList
        && (base = "json".toList || suffix = some "json".toList)
  | _ => false

end Datebook.Http.MediaType
