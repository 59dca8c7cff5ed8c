import Datebook.Text.Hex
import Datebook.Text.Raw

set_option autoImplicit false

namespace Datebook

inductive DatabaseAccess where
  | readOnly
  -- Of what is there already, for reading and writing.
  | existing
  | creating
  deriving DecidableEq

/-- What a database is kept in. Without shared memory, one that keeps a log of its writes beside it
cannot be opened. -/
inductive DatabaseKeeper where
  | memory
  | files (sharesMemory : Bool)
  deriving DecidableEq

inductive DatabaseName where
  | ephemeral
  | file (path : String) (access : DatabaseAccess) (sharesMemory : Bool)
  deriving DecidableEq

namespace DatabaseName

open Text

-- A nought byte ends the text.
def decodeBytes : List Char → List UInt8
  | [] => []
  | '%' :: tail@(high :: low :: rest) =>
      match hexDigit? high, hexDigit? low with
      | some high, some low =>
          if high = 0 ∧ low = 0 then [] else UInt8.ofNat (high * 16 + low) :: decodeBytes rest
      | _, _ => String.utf8EncodeChar '%' ++ decodeBytes tail
  | character :: rest => String.utf8EncodeChar character ++ decodeBytes rest

def decode (text : List Char) : String := (RawText.ofBytes (decodeBytes text)).shown

structure Options where
  -- None for a database in memory.
  access : Option DatabaseAccess
  keeper : DatabaseKeeper

/-- A later option may not ask for more access than an earlier one gave. -/
def Options.allows (options : Options) : DatabaseAccess → Bool
  | .readOnly => true
  | .existing => options.access ≠ some .readOnly
  | .creating => options.access = none || options.access = some .creating

def Options.setAccess? (options : Options) (access : DatabaseAccess) : Option Options :=
  if options.allows access then some { options with access := some access } else none

def Options.apply? (options : Options) (name value : String) : Option Options :=
  if name = "mode" then
    if value = "ro" then options.setAccess? .readOnly
    else if value = "rw" then options.setAccess? .existing
    else if value = "rwc" then options.setAccess? .creating
    else if value = "memory" then some { options with access := none }
    else none
  else if name = "cache" then
    if value = "shared" ∨ value = "private" then some options else none
  else if name = "vfs" then
    if value = "unix" ∨ value = "unix-excl" then some { options with keeper := .files true }
    else if value = "unix-none" ∨ value = "unix-dotfile" then
      some { options with keeper := .files false }
    else if value = "memdb" then some { options with keeper := .memory }
    else none
  else some options

-- Options without a name are passed over.
def readOption? (options : Options) (text : List Char) : Option Options :=
  let (name, value) := text.span (· ≠ '=')
  if name.isEmpty then some options else options.apply? (decode name) (decode (value.drop 1))

def withoutAuthority? : List Char → Option (List Char)
  | '/' :: '/' :: rest =>
      let (authority, path) := rest.span (· ≠ '/')
      if authority.isEmpty ∨ authority = "localhost".toList then some path else none
  | text => some text

def ofPath (path : String) (access : DatabaseAccess) (sharesMemory : Bool) : DatabaseName :=
  if path = "" ∨ path = ":memory:" then ephemeral else file path access sharesMemory

-- Without write access, a database that is not there yet is of no use.
def readLocator? (text : List Char) : Option DatabaseName := do
  let text ← withoutAuthority? text
  let (path, options) := (text.takeWhile (· ≠ '#')).span (· ≠ '?')
  let options ← ((options.drop 1).splitOn '&').foldlM readOption? ⟨some .creating, .files true⟩
  match options.access with
  | none => return ephemeral
  | some access =>
      let name :=
        match options.keeper with
        | .memory => ephemeral
        | .files sharesMemory => ofPath (decode path) access sharesMemory
      if name = ephemeral ∧ access = .readOnly then none else return name

def read? (name : String) : Option DatabaseName :=
  if name.toList.contains '\x00' then none
  else
    match name.toList with
    | 'f' :: 'i' :: 'l' :: 'e' :: ':' :: locator => readLocator? locator
    | _ => some (ofPath name .creating true)

end DatabaseName
end Datebook
