import Datebook.Text.Decimal

set_option autoImplicit false

namespace Datebook

structure TimeSpan where
  nanoseconds : Nat
  deriving DecidableEq

namespace TimeSpan

open Text

def ofMilliseconds (count : Nat) : TimeSpan := ⟨count * 1000000⟩

def ofSeconds (count : Nat) : TimeSpan := ⟨count * 1000000000⟩

def seconds (span : TimeSpan) : Nat := span.nanoseconds / 1000000000

def subseconds (span : TimeSpan) : Nat := span.nanoseconds % 1000000000

-- A count of units, with as many decimal places as the rest of `width` digits needs.
def inUnit (span : TimeSpan) (width : Nat) (unit : List Char) : List Char :=
  let size := Nat.pow 10 width
  let places := ((paddedDecimal width (span.nanoseconds % size)).reverse.dropWhile (· = '0')).reverse
  decimal (span.nanoseconds / size)
    ++ (if span.nanoseconds % size = 0 then [] else '.' :: places) ++ unit

def write (span : TimeSpan) : List Char :=
  if 1000000000 ≤ span.nanoseconds then span.inUnit 9 ['s']
  else if 1000000 ≤ span.nanoseconds then span.inUnit 6 ['m', 's']
  else if 1000 ≤ span.nanoseconds then span.inUnit 3 ['µ', 's']
  else span.inUnit 0 ['n', 's']

end TimeSpan
end Datebook
