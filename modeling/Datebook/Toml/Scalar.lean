import Datebook.Text.Hex
import Datebook.Text.Reader
import Datebook.Toml.Table

set_option autoImplicit false

namespace Datebook.Toml

open Text Text.Reader

def isSpace (character : Char) : Bool := character = ' ' || character = '\t'

def spaces : Reader Unit := do
  let _ ← run isSpace

def lineBreak : Reader Unit :=
  exactly '\n' <|> do
    exactly '\r'
    exactly '\n'

def isPlain (character : Char) : Bool :=
  character = '\t' || (0x20 ≤ character.toNat && character.toNat ≠ 0x7F)

def isBasic (character : Char) : Bool := isPlain character && character ≠ '"' && character ≠ '\\'

def isLiteral (character : Char) : Bool := isPlain character && character ≠ '\''

def isHexDigit (character : Char) : Bool := (hexDigit? character).isSome

def codePoint (digits : Nat) : Reader Char := do
  let found ← (List.replicate digits ()).mapM fun _ => character isHexDigit
  let code := digitsInBase 16 found
  if code.isValidChar then return Char.ofNat code
  failure

def escapedCharacter : Reader Char := do
  exactly '\\'
  match ← character fun _ => true with
  | 'b' => return '\x08'
  | 'f' => return '\x0c'
  | 'n' => return '\n'
  | 'r' => return '\r'
  | 't' => return '\t'
  | '"' => return '"'
  | '\\' => return '\\'
  | 'u' => codePoint 4
  | 'U' => codePoint 8
  | _ => failure

def basicString : Reader (List Char) := do
  exactly '"'
  let text ← repeated (character isBasic <|> escapedCharacter)
  exactly '"'
  return text

def literalString : Reader (List Char) := do
  exactly '\''
  let text ← run isLiteral
  exactly '\''
  return text

-- A backslash at the end of a line takes away all white space up to the next other character.
def joinedLines : Reader (List Char) := do
  exactly '\\'
  spaces
  lineBreak
  let _ ← repeated (lineBreak <|> do
    let _ ← nonemptyRun isSpace)
  return []

def brokenLine : Reader (List Char) := do
  lineBreak
  return ['\n']

def innerQuotes (quote : Char) (next : Reader Unit) : Reader (List Char) :=
  several [quote, quote] <|> several [quote]
where
  several (quotes : List Char) : Reader (List Char) := do
    literal quotes
    ahead next
    return quotes

/-- A string between three quotes on either side. A line break right after the first three is left
out, and up to two quotes may stand before the last three. -/
def longString (quote : Char) (content : Reader (List Char)) : Reader (List Char) := do
  let closing := literal [quote, quote, quote]
  let another : Reader Unit := do
    let _ ← character fun found => found ≠ quote
  closing
  let _ ← optional lineBreak
  let begun ← repeated content
  let others ← repeated do
    let quotes ← innerQuotes quote another
    let more ← repeatedOnce content
    return quotes ++ more.flatten
  let last ← optional (innerQuotes quote closing)
  closing
  return begun.flatten ++ others.flatten ++ last.getD []

def longBasicString : Reader (List Char) :=
  longString '"' <|
    nonemptyRun isBasic <|> joinedLines <|> (fun found => [found]) <$> escapedCharacter <|> brokenLine

def longLiteralString : Reader (List Char) := longString '\'' (nonemptyRun isLiteral <|> brokenLine)

def string : Reader (List Char) :=
  longBasicString <|> basicString <|> longLiteralString <|> literalString

def isBare (character : Char) : Bool := character.isAlphanum || character = '-' || character = '_'

def simpleKey : Reader Key := basicString <|> literalString <|> nonemptyRun isBare

structure KeyPath where
  parents : List Key
  key : Key

def KeyPath.limit : Nat := 80

def KeyPath.ofParts? (parts : List Key) : Option KeyPath :=
  if KeyPath.limit ≤ parts.length then none
  else parts.getLast?.map fun key => ⟨parts.dropLast, key⟩

def keyPath : Reader KeyPath :=
  accepted (separatedOnce part (exactly '.')) KeyPath.ofParts?
where
  part : Reader Key := do
    spaces
    let key ← simpleKey
    spaces
    return key

def isOctalDigit (character : Char) : Bool := '0' ≤ character && character ≤ '7'

def isBinaryDigit (character : Char) : Bool := character = '0' || character = '1'

-- Digits, any two of which may have an underscore between them.
def groupedDigits (isDigit : Char → Bool) : Reader (List Char) := do
  let first ← character isDigit
  let others ← repeated (character isDigit <|> do
    exactly '_'
    character isDigit)
  return first :: others

def sign : Reader (Option Char) := optional (character fun found => found = '+' || found = '-')

def wholeDigits : Reader (List Char) :=
  (do
    ahead (exactly '0')
    return [← character Char.isDigit])
  <|> groupedDigits Char.isDigit

def leastInteger : Int := -9223372036854775808

def greatestInteger : Int := 9223372036854775807

def representable (number : Int) : Reader Int :=
  if leastInteger ≤ number ∧ number ≤ greatestInteger then pure number else failure

def integerInBase (mark : Char) (base : Nat) (isDigit : Char → Bool) : Reader Int := do
  literal ['0', mark]
  let digits ← groupedDigits isDigit
  representable (digitsInBase base digits)

def decimalInteger : Reader Int := do
  let sign ← sign
  let digits ← wholeDigits
  let size : Int := decimalValue digits
  representable (if sign = some '-' then -size else size)

def integer : Reader Int :=
  integerInBase 'x' 16 isHexDigit <|> integerInBase 'o' 8 isOctalDigit
    <|> integerInBase 'b' 2 isBinaryDigit <|> decimalInteger

def fraction : Reader (List Char) := do
  exactly '.'
  groupedDigits Char.isDigit

def exponent : Reader Int := do
  let _ ← character fun found => found = 'e' || found = 'E'
  let sign ← sign
  let digits ← groupedDigits Char.isDigit
  let size : Int := decimalValue digits
  return if sign = some '-' then -size else size

/-- A float has a fraction, an exponent or both. One that is too large is refused if it is positive,
and infinite if it is negative. -/
def decimalFloat : Reader Double := do
  let sign ← sign
  let whole ← wholeDigits
  let places ← optional fraction
  let power ← if places.isSome then optional exponent else some <$> exponent
  let digits := whole ++ places.getD []
  let number :=
    Double.ofDecimal (sign = some '-') digits (power.getD 0 - ((places.getD []).length : Int))
  if number = .infinite false then failure
  return number

def specialFloat : Reader Double := do
  let sign ← sign
  (do
    literal ['i', 'n', 'f']
    return .infinite (sign = some '-'))
  <|> do
    literal ['n', 'a', 'n']
    return .notANumber

def twoDigits (least greatest : Nat) : Reader Nat :=
  accepted ((List.replicate 2 ()).mapM fun _ => character Char.isDigit) fun digits =>
    let value := decimalValue digits
    if least ≤ value ∧ value ≤ greatest then some value else none

def daysIn (year month : Nat) : Nat :=
  if month = 2 then
    if year % 4 = 0 ∧ (year % 100 ≠ 0 ∨ year % 400 = 0) then 29 else 28
  else if month = 4 ∨ month = 6 ∨ month = 9 ∨ month = 11 then 30
  else 31

def date : Reader Unit := do
  let year ← (List.replicate 4 ()).mapM fun _ => character Char.isDigit
  exactly '-'
  let month ← twoDigits 1 12
  exactly '-'
  let _ ← twoDigits 1 (daysIn (decimalValue year) month)

-- A sixtieth second is allowed in any minute.
def time : Reader Unit := do
  let _ ← twoDigits 0 23
  exactly ':'
  let _ ← twoDigits 0 59
  exactly ':'
  let _ ← twoDigits 0 60
  let _ ← optional do
    exactly '.'
    nonemptyRun Char.isDigit

def offset : Reader Unit :=
  (do
    let _ ← character fun found => found = 'Z' || found = 'z')
  <|> do
    let _ ← character fun found => found = '+' || found = '-'
    let _ ← twoDigits 0 23
    exactly ':'
    let _ ← twoDigits 0 59

def dateTime : Reader Unit :=
  (do
    date
    let _ ← optional do
      let _ ← character fun found => found = 'T' || found = 't' || found = ' '
      time
      optional offset)
  <|> time

def boolean : Reader Bool :=
  (do
    literal ['t', 'r', 'u', 'e']
    return true)
  <|> do
    literal ['f', 'a', 'l', 's', 'e']
    return false

def scalar : Reader Value :=
  Value.string <$> string
    <|> (fun () => Value.dateTime) <$> dateTime
    <|> Value.float <$> (decimalFloat <|> specialFloat)
    <|> Value.integer <$> integer
    <|> Value.boolean <$> boolean

end Datebook.Toml
