import Datebook.Text.Quoted
import Datebook.Time.SpanReader
import Datebook.Toml.Table

set_option autoImplicit false

namespace Datebook

inductive ConfigError where
  | notToml
  | wrongType (found : Toml.Value) (wanted : String)
  | portOutOfRange (number : Int)
  | unknownStore (name : List Char)
  | storeNotNamed
  | noStoreKey
  | severalStoreKeys
  | storeWithEntries
  | storeWithItems
  | storeWithScalar (found : Toml.Value)
  | span (error : SpanError)
  | zeroSpan

namespace ConfigError

open Text

def ticked (text : List Char) : String := String.ofList ('\x60' :: text ++ ['\x60'])

def shown : Toml.Value → String
  | .string text => "string " ++ String.ofList (quoted text)
  | .integer number => "integer " ++ ticked (intDecimal number)
  | .float number => "floating point " ++ ticked number.write
  | .boolean value => "boolean " ++ ticked (if value then ['t', 'r', 'u', 'e'] else ['f', 'a', 'l', 's', 'e'])
  | .dateTime | .table _ _ => "map"
  | .list _ | .tables _ => "sequence"

def typeName : Toml.Value → String
  | .string _ => "string"
  | .integer _ => "integer"
  | .float _ => "float"
  | .boolean _ => "boolean"
  | .dateTime => "datetime"
  | .list _ => "array"
  | .table .inline _ => "inline table"
  | .table _ _ => "table"
  | .tables _ => "array of tables"

-- What is wrong with the grammar is not told.
def message? : ConfigError → Option String
  | notToml => none
  | wrongType found wanted => some ("invalid type: " ++ shown found ++ ", expected " ++ wanted)
  | portOutOfRange number => some ("invalid value: " ++ shown (.integer number) ++ ", expected u16")
  | unknownStore name =>
      some ("unknown variant " ++ ticked name ++ ", expected \x60in-memory\x60 or \x60sqlite\x60")
  | storeNotNamed => some "wanted string or table"
  | noStoreKey => some "wanted exactly 1 element, found 0 elements"
  | severalStoreKeys => some "wanted exactly 1 element, more than 1 element"
  | storeWithEntries => some "expected empty table"
  | storeWithItems => some "expected empty array"
  | storeWithScalar found => some ("expected table, found " ++ typeName found)
  | span error => some error.message
  | zeroSpan => some "duration must be greater than zero"

/-- Whether reading breaks off without a report: a span was too large for its own arithmetic. -/
def isAbrupt : ConfigError → Bool
  | span .fullSeconds => true
  | _ => false

end ConfigError
end Datebook
