import Datebook.Text.Decimal
import Datebook.Time.Instant

set_option autoImplicit false

namespace Datebook

open Text

def writeYear (year : Int) : List Char :=
  if 0 ≤ year ∧ year ≤ 9999 then paddedDecimal 4 year.toNat
  else (if year < 0 then '-' else '+') :: paddedDecimal 4 year.natAbs

def Date.write (date : Date) : List Char :=
  writeYear date.year ++ '-' :: paddedDecimal 2 date.month ++ '-' :: paddedDecimal 2 date.day

-- The fewest of 0, 3, 6 or 9 digits that are exact.
def writeFraction (nanos : Nat) : List Char :=
  if nanos = 0 then []
  else if nanos % 1000000 = 0 then '.' :: paddedDecimal 3 (nanos / 1000000)
  else if nanos % 1000 = 0 then '.' :: paddedDecimal 6 (nanos / 1000)
  else '.' :: paddedDecimal 9 nanos

namespace Instant

def writeTime (instant : Instant) : List Char :=
  let second := instant.secondOfDay
  paddedDecimal 2 (second / 3600) ++ ':' :: paddedDecimal 2 (second / 60 % 60)
    ++ ':' :: paddedDecimal 2 (second % 60 + instant.nanos / 1000000000)
    ++ writeFraction (instant.nanos % 1000000000)

def write (instant : Instant) : List Char :=
  instant.date.write ++ 'T' :: instant.writeTime ++ ['Z']

def describe (instant : Instant) : String :=
  String.ofList (instant.date.write ++ ' ' :: instant.writeTime) ++ " UTC"

end Instant
end Datebook
