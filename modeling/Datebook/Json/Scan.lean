import Datebook.Json.Magnitude
import Datebook.Json.Token
import Datebook.Text.Hex
import Datebook.Text.Raw

set_option autoImplicit false

namespace Datebook.Json

open Text

/-- What a token makes of the text if it is kept, and what follows it if it is skimmed. -/
structure Scan (α : Type) where
  kept : Except Fault α
  rest : Except Fault RawText

namespace Scan

def failed {α : Type} (fault : Fault) : Scan α := ⟨.error fault, .error fault⟩

def refused {α : Type} (scan : Scan α) : Scan α := ⟨.error .malformed, scan.rest⟩

def map {α β : Type} (change : α → β) (scan : Scan α) : Scan β := ⟨scan.kept.map change, scan.rest⟩

def spoiled {α : Type} (scan : Scan α) : Scan α :=
  match scan.kept with
  | .ok _ => scan.refused
  | .error _ => scan

end Scan

def hexValue? (glyphs : List Glyph) : Option Nat :=
  glyphs.foldl (fun value glyph =>
    match value, glyph with
    | some value, .char character => (hexDigit? character).map (value * 16 + ·)
    | _, _ => none) (some 0)

-- Fewer than four bytes after `\u` are an end of input, even if they are no hex digits.
def hexFault (text : RawText) : Fault :=
  if text.byteCount < 4 then .cutShort else .malformed

def plainEscape? (character : Char) : Option Char :=
  if character = '"' ∨ character = '\\' ∨ character = '/' then some character
  else if character = 'b' then some '\x08'
  else if character = 'f' then some '\x0c'
  else if character = 'n' then some '\n'
  else if character = 'r' then some '\r'
  else if character = 't' then some '\t'
  else none

def isHighSurrogate (unit : Nat) : Bool := 0xD800 ≤ unit && unit < 0xDC00

def isLowSurrogate (unit : Nat) : Bool := 0xDC00 ≤ unit && unit < 0xE000

def joinSurrogates (high low : Nat) : Char :=
  Char.ofNat ((high - 0xD800) * 1024 + (low - 0xDC00) + 0x10000)

/-- The rest of a string after its opening quote. `high` is a high surrogate just read, which only
the escape of a low one may follow in a string that is kept. -/
def scanString (high : Option Nat) : RawText → Scan (List Char)
  | [] => .failed .cutShort
  | .invalid _ :: rest =>
      if high.isSome then (scanString none rest).refused else (scanString none rest).spoiled
  | .char character :: rest =>
      if character = '"' then
        ⟨if high.isSome then .error .malformed else .ok [], .ok rest⟩
      else if character = '\\' then
        match rest with
        | [] => .failed .cutShort
        | .invalid _ :: _ => .failed .malformed
        | .char escaped :: more =>
            if escaped = 'u' then
              match more with
              | first :: second :: third :: fourth :: after =>
                  match hexValue? [first, second, third, fourth], high with
                  | none, _ => .failed (hexFault more)
                  | some unit, none =>
                      if isLowSurrogate unit then (scanString none after).refused
                      else if isHighSurrogate unit then scanString (some unit) after
                      else (scanString none after).map (Char.ofNat unit :: ·)
                  | some unit, some high =>
                      if isLowSurrogate unit then
                        (scanString none after).map (joinSurrogates high unit :: ·)
                      else (scanString none after).refused
              | _ => .failed (hexFault more)
            else
              match plainEscape? escaped with
              | none => .failed .malformed
              | some plain =>
                  if high.isSome then (scanString none more).refused
                  else (scanString none more).map (plain :: ·)
      else if character.toNat < 32 then .failed .malformed
      else if high.isSome then (scanString none rest).refused
      else (scanString none rest).map (character :: ·)

def digitRun : RawText → List Nat × RawText
  | .char character :: rest =>
      if character.isDigit then
        let (digits, after) := digitRun rest
        ((character.toNat - 48) :: digits, after)
      else ([], .char character :: rest)
  | text => ([], text)

-- Input may end inside a number that is kept; a number that is skimmed is then malformed.
def numberFault {α : Type} : RawText → Scan α
  | [] => ⟨.error .cutShort, .error .malformed⟩
  | _ :: _ => .failed .malformed

def digitsValue (digits : List Nat) : Nat := digits.foldl (fun value digit => value * 10 + digit) 0

def exponentLimit : Nat := 2147483647

def keptNumber (magnitude : Magnitude) : Except Fault Number :=
  if magnitude.isTooLarge then .error .malformed else .ok .other

def scanExponent (magnitude : Magnitude) (text : RawText) : Scan Number :=
  let (minus, unsigned) :=
    match text with
    | .char '+' :: rest => (false, rest)
    | .char '-' :: rest => (true, rest)
    | _ => (false, text)
  match digitRun unsigned with
  | ([], after) => numberFault after
  | (digits, after) =>
      let exponent := digitsValue digits
      if exponentLimit < exponent then
        ⟨if magnitude.digits ≠ 0 ∧ ¬ minus then .error .malformed else .ok .other, .ok after⟩
      else
        ⟨keptNumber (magnitude.scale (if minus then -exponent else exponent)), .ok after⟩

def scanFraction (magnitude : Magnitude) (text : RawText) : Scan Number :=
  match digitRun text with
  | ([], after) => numberFault after
  | (digits, after) =>
      let magnitude := magnitude.addFraction digits
      match after with
      | .char 'e' :: rest | .char 'E' :: rest => scanExponent magnitude rest
      | _ => ⟨keptNumber magnitude, .ok after⟩

def wholeNumber (minus : Bool) (digits : List Nat) : Except Fault Number :=
  let value := digitsValue digits
  if Magnitude.digitsLimit < value then keptNumber (Magnitude.ofWhole digits)
  else if ¬ minus then .ok (.natural (UInt64.ofNat value))
  else if 0 < value ∧ value ≤ 9223372036854775808 then .ok (.negative (-value))
  else .ok .other

def scanNumber (text : RawText) : Scan Number :=
  let (minus, unsigned) :=
    match text with
    | .char '-' :: rest => (true, rest)
    | _ => (false, text)
  match digitRun unsigned with
  | ([], after) => numberFault after
  | (0 :: _ :: _, _) => .failed .malformed
  | (digits, after) =>
      match after with
      | .char '.' :: rest => scanFraction (Magnitude.ofWhole digits) rest
      | .char 'e' :: rest | .char 'E' :: rest => scanExponent (Magnitude.ofWhole digits) rest
      | _ => ⟨wholeNumber minus digits, .ok after⟩

def scanWord : List Char → RawText → Except Fault RawText
  | [], rest => .ok rest
  | _ :: _, [] => .error .cutShort
  | expected :: more, .char character :: rest =>
      if character = expected then scanWord more rest else .error .malformed
  | _ :: _, .invalid _ :: _ => .error .malformed

def isJsonBlank (character : Char) : Bool :=
  character = ' ' || character = '\t' || character = '\n' || character = '\r'

def mark? (character : Char) : Option Token :=
  if character = '\x7b' then some .openObject
  else if character = '\x7d' then some .closeObject
  else if character = '[' then some .openList
  else if character = ']' then some .closeList
  else if character = ',' then some .comma
  else if character = ':' then some .colon
  else none

def word? (character : Char) : Option (Token × List Char) :=
  if character = 'n' then some (.null, ['u', 'l', 'l'])
  else if character = 't' then some (.boolean true, ['r', 'u', 'e'])
  else if character = 'f' then some (.boolean false, ['a', 'l', 's', 'e'])
  else none

def Scan.thenTokens {α : Type} (scan : Scan α) (token : Except Fault α → Except Fault Unit → Token)
    (following : RawText → List Token) : List Token :=
  match scan.rest with
  | .ok rest => token scan.kept (.ok ()) :: following rest
  | .error fault => [token scan.kept (.error fault)]

-- Every token uses up a character, so as many steps as characters are enough.
def tokensWithin : (steps : Nat) → RawText → List Token
  | 0, _ => []
  | _, [] => []
  | _, .invalid _ :: _ => [.junk .malformed]
  | steps + 1, .char character :: rest =>
      if isJsonBlank character then tokensWithin steps rest
      else if character = '"' then
        (scanString none rest).thenTokens Token.string (tokensWithin steps)
      else if character = '-' || character.isDigit then
        (scanNumber (.char character :: rest)).thenTokens Token.number (tokensWithin steps)
      else
        match mark? character, word? character with
        | some token, _ => token :: tokensWithin steps rest
        | none, some (token, letters) =>
            match scanWord letters rest with
            | .ok after => token :: tokensWithin steps after
            | .error fault => [.junk fault]
        | none, none => [.junk .malformed]

def tokens (text : RawText) : List Token := tokensWithin text.length text

end Datebook.Json
