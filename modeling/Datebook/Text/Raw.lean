set_option autoImplicit false

namespace Datebook.Text

inductive Glyph where
  | char (character : Char)
  | invalid (size : Nat)
  deriving DecidableEq

abbrev RawText := List Glyph

namespace Glyph

def byteCount : Glyph → Nat
  | char character => character.utf8Size
  | invalid size => size

def shown : Glyph → Char
  | char character => character
  | invalid _ => '\uFFFD'

end Glyph

namespace RawText

def ofChars (characters : List Char) : RawText := characters.map Glyph.char

def ofString (text : String) : RawText := ofChars text.toList

def byteCount : RawText → Nat
  | [] => 0
  | glyph :: rest => glyph.byteCount + byteCount rest

def shown (text : RawText) : String := String.ofList (text.map Glyph.shown)

def chars? : RawText → Option (List Char)
  | [] => some []
  | .char character :: rest => (chars? rest).map (character :: ·)
  | .invalid _ :: _ => none

/-- A character of which some bytes are read: the bits so far, how many bytes were read and are
still owed, and which bytes may come next. -/
structure Partial where
  bits : Nat
  read : Nat
  owed : Nat
  least : Nat
  greatest : Nat

inductive Lead where
  | whole (glyph : Glyph)
  | begun (part : Partial)

def lead (byte : Nat) : Lead :=
  if byte < 0x80 then .whole (.char (Char.ofNat byte))
  else if byte < 0xC2 then .whole (.invalid 1)
  else if byte < 0xE0 then .begun ⟨byte - 0xC0, 1, 1, 0x80, 0xBF⟩
  else if byte < 0xF0 then
    .begun ⟨byte - 0xE0, 1, 2, if byte = 0xE0 then 0xA0 else 0x80, if byte = 0xED then 0x9F else 0xBF⟩
  else if byte < 0xF5 then
    .begun ⟨byte - 0xF0, 1, 3, if byte = 0xF0 then 0x90 else 0x80, if byte = 0xF4 then 0x8F else 0xBF⟩
  else .whole (.invalid 1)

def ofByteValues : Option Partial → List Nat → RawText
  | none, [] => []
  | some part, [] => [.invalid part.read]
  | none, byte :: rest => start byte rest
  | some part, byte :: rest =>
      if part.least ≤ byte ∧ byte ≤ part.greatest then
        let bits := part.bits * 64 + byte % 64
        if part.owed = 1 then .char (Char.ofNat bits) :: ofByteValues none rest
        else ofByteValues (some ⟨bits, part.read + 1, part.owed - 1, 0x80, 0xBF⟩) rest
      else .invalid part.read :: start byte rest
where
  start (byte : Nat) (rest : List Nat) : RawText :=
    match lead byte with
    | .whole glyph => glyph :: ofByteValues none rest
    | .begun part => ofByteValues (some part) rest

def ofBytes (bytes : List UInt8) : RawText := ofByteValues none (bytes.map UInt8.toNat)

end RawText
end Datebook.Text
