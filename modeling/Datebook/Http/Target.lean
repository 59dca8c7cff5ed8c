set_option autoImplicit false

namespace Datebook.Http.Target

def greatestSize : Nat := 65534

def greatestSchemeSize : Nat := 64

def isSchemeCharacter (character : Char) : Bool :=
  character.isAlphanum || "+-.~".toList.contains character

def endsAuthority (character : Char) : Bool :=
  character = '/' || character = '?' || character = '#'

def isAuthorityCharacter (character : Char) : Bool :=
  character.isAlphanum || "!$&'()*+,-.;=_~".toList.contains character

def endsPath (character : Char) : Bool := character = '?' || character = '#'

def isPathCharacter (character : Char) : Bool :=
  0x20 < character.toNat && ! "<>\x60".toList.contains character

def isQueryCharacter (character : Char) : Bool :=
  0x20 < character.toNat && ! "\"<>".toList.contains character

/-- What is known of an authority up to some character: colons and percent signs are counted since
the last mark that takes them out of the question, which is an at sign or a closing bracket. -/
structure Authority where
  colons : Nat
  encoded : Bool
  opened : Bool
  closed : Bool
  endsInAt : Bool

namespace Authority

def start : Authority := ⟨0, false, false, false, false⟩

def greatestColons : Nat := 8

def step? (authority : Authority) (character : Char) : Option Authority :=
  let authority := { authority with endsInAt := false }
  if character = ':' then
    if authority.colons < greatestColons then some { authority with colons := authority.colons + 1 }
    else none
  else if character = '[' then
    if authority.encoded || authority.opened then none else some { authority with opened := true }
  else if character = ']' then
    if authority.opened && ! authority.closed then
      some { authority with closed := true, colons := 0, encoded := false }
    else none
  else if character = '@' then some { authority with colons := 0, encoded := false, endsInAt := true }
  else if character = '%' then some { authority with encoded := true }
  else if isAuthorityCharacter character then some authority
  else none

def isSound (authority : Authority) : Bool :=
  authority.opened = authority.closed && authority.colons ≤ 1 && ! authority.endsInAt
    && ! authority.encoded

end Authority

def isAuthority (text : List Char) : Bool :=
  ! text.isEmpty && (text.foldlM Authority.step? .start).any Authority.isSound

-- The path that a text begins with, if what follows may follow a path; none at all is the root.
def leadingPath? (text : List Char) : Option (List Char) :=
  let (path, rest) := text.span (! endsPath ·)
  let querySound :=
    match rest with
    | '?' :: query => (query.takeWhile (· ≠ '#')).all isQueryCharacter
    | _ => true
  if path.all isPathCharacter && querySound then some (if path.isEmpty then ['/'] else path) else none

-- The path of a target, if it is one. An authority alone has none.
def path? (target : String) : Option String :=
  if greatestSize < target.utf8ByteSize then none
  else
    match target.toList with
    | ['*'] => some target
    | '/' :: rest => (leadingPath? ('/' :: rest)).map String.ofList
    | text =>
        match text.span isSchemeCharacter with
        | (scheme, ':' :: '/' :: '/' :: rest) =>
            let (authority, path) := rest.span (! endsAuthority ·)
            if scheme.length ≤ greatestSchemeSize && isAuthority authority then
              (leadingPath? path).map String.ofList
            else none
        | _ => if isAuthority text then some "" else none

end Datebook.Http.Target
