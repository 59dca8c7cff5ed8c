import Datebook.Text.Decimal

set_option autoImplicit false

namespace Datebook.Text

structure Magnitude where
  mantissa : Nat
  exponent : Int
  deriving DecidableEq

inductive Double where
  | finite (negative : Bool) (magnitude : Magnitude)
  | infinite (negative : Bool)
  | notANumber
  deriving DecidableEq

structure Ratio where
  numerator : Nat
  denominator : Nat

namespace Ratio

def scale (base : Nat) (ratio : Ratio) (exponent : Int) : Ratio :=
  if 0 ≤ exponent then ⟨ratio.numerator * Nat.pow base exponent.toNat, ratio.denominator⟩
  else ⟨ratio.numerator, ratio.denominator * Nat.pow base (-exponent).toNat⟩

def floor (ratio : Ratio) : Nat := ratio.numerator / ratio.denominator

def round (ratio : Ratio) : Nat :=
  let below := ratio.floor
  let rest := ratio.numerator % ratio.denominator
  if 2 * rest > ratio.denominator ∨ 2 * rest = ratio.denominator ∧ below % 2 = 1 then below + 1 else below

/-- How many digits to that base stand before the point. It is nought or less for zeros after it. -/
def order (base : Nat) (ratio : Ratio) : Int :=
  let guess : Int := (Nat.log2 ratio.numerator : Int) - Nat.log2 ratio.denominator
  let least := if base = 2 then guess else guess * 301029 / 1000000
  settle base ratio least 4
where
  settle (base : Nat) (ratio : Ratio) (least : Int) : Nat → Int
    | 0 => least
    | steps + 1 =>
        if (ratio.scale base (-least)).floor = 0 then least else settle base ratio (least + 1) steps

end Ratio

namespace Magnitude

def precision : Nat := 53

def leastExponent : Int := -1074

def greatestExponent : Int := 971

def toRatio (magnitude : Magnitude) : Ratio := (Ratio.mk magnitude.mantissa 1).scale 2 magnitude.exponent

def nearest? (ratio : Ratio) : Option Magnitude :=
  let exponent := max leastExponent (ratio.order 2 - precision)
  let mantissa := (ratio.scale 2 (-exponent)).round
  let (mantissa, exponent) :=
    if mantissa = Nat.pow 2 precision then (Nat.pow 2 (precision - 1), exponent + 1)
    else (mantissa, exponent)
  if mantissa = 0 then some ⟨0, leastExponent⟩
  else if greatestExponent < exponent then none
  else some ⟨mantissa, exponent⟩

/-- A decimal number of so many digits next to the magnitude that reads back as it: the one below,
the one above, or the nearer of both. -/
def shortOf? (magnitude : Magnitude) (point : Int) (count : Nat) : Option Nat :=
  let grid := magnitude.toRatio.scale 10 (count - point)
  let reads (digits : Nat) : Bool :=
    nearest? ((Ratio.mk digits 1).scale 10 (point - count)) = some magnitude
  let below := grid.floor
  let nearer := if 2 * (grid.numerator % grid.denominator) < grid.denominator then below else below + 1
  let farther := if nearer = below then below + 1 else below
  if reads nearer then some nearer else if reads farther then some farther else none

/-- The fewest digits that read back, and the power of ten of the last. A number next to the magnitude
may be the power of ten above it, whose nought is none of the digits. -/
def shortest (magnitude : Magnitude) : Nat × Int :=
  let point := magnitude.toRatio.order 10
  let found := (List.range 17).findSome? fun less =>
    (shortOf? magnitude point (less + 1)).map fun digits =>
      let last := point - (less + 1)
      if digits % 10 = 0 then (digits / 10, last + 1) else (digits, last)
  found.getD (0, 0)

def write (magnitude : Magnitude) : List Char :=
  if magnitude.mantissa = 0 then ['0', '.', '0']
  else
    let (digits, last) := magnitude.shortest
    if 0 ≤ last then decimal (digits * Nat.pow 10 last.toNat) ++ ['.', '0']
    else
      let places := (-last).toNat
      let size := Nat.pow 10 places
      decimal (digits / size) ++ '.' :: paddedDecimal places (digits % size)

end Magnitude

namespace Double

-- Decimal digits times a power of ten. A power that decides by itself is not computed.
def ofDecimal (negative : Bool) (digits : List Char) (exponent : Int) : Double :=
  let value := decimalValue digits
  let order : Int := (decimal value).length + exponent
  if value = 0 ∨ order < -330 then finite negative ⟨0, Magnitude.leastExponent⟩
  else if 310 < order then infinite negative
  else
    match Magnitude.nearest? ((Ratio.mk value 1).scale 10 exponent) with
    | some magnitude => finite negative magnitude
    | none => infinite negative

def write : Double → List Char
  | finite negative magnitude => (if negative then ['-'] else []) ++ magnitude.write
  | infinite negative => (if negative then ['-'] else []) ++ ['i', 'n', 'f']
  | notANumber => ['N', 'a', 'N']

end Double
end Datebook.Text
