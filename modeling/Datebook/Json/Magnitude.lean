set_option autoImplicit false

namespace Datebook.Json

/-- The nearest number with 53 significant bits, a half going to the even one. -/
def roundTo53Bits (number : Nat) : Nat :=
  let excess := number.log2 + 1 - 53
  let unit := Nat.pow 2 excess
  let kept := number / unit
  let rest := number % unit
  if 2 * rest > unit ∨ 2 * rest = unit ∧ kept % 2 = 1 then (kept + 1) * unit else kept * unit

structure Magnitude where
  digits : Nat
  exponent : Int

namespace Magnitude

def digitsLimit : Nat := 18446744073709551615

-- Whole digits: from the first that no longer fits, they only raise the power of ten.
def ofWhole (digits : List Nat) : Magnitude :=
  (digits.foldl (fun (state : Magnitude × Bool) digit =>
    let (magnitude, full) := state
    if full || magnitude.digits * 10 + digit > digitsLimit then
      (⟨magnitude.digits, magnitude.exponent + 1⟩, true)
    else (⟨magnitude.digits * 10 + digit, magnitude.exponent⟩, false)) (⟨0, 0⟩, false)).1

-- Digits after the point: from the first that no longer fits, they are dropped.
def addFraction (magnitude : Magnitude) (digits : List Nat) : Magnitude :=
  (digits.foldl (fun (state : Magnitude × Bool) digit =>
    let (magnitude, full) := state
    if full || magnitude.digits * 10 + digit > digitsLimit then (magnitude, true)
    else (⟨magnitude.digits * 10 + digit, magnitude.exponent - 1⟩, false)) (magnitude, false)).1

def scale (magnitude : Magnitude) (exponent : Int) : Magnitude :=
  ⟨magnitude.digits, magnitude.exponent + exponent⟩

def isTooLarge (magnitude : Magnitude) : Bool :=
  magnitude.digits ≠ 0 && 0 ≤ magnitude.exponent &&
    (308 < magnitude.exponent ||
      Nat.pow 2 1024 - Nat.pow 2 970 ≤ roundTo53Bits magnitude.digits * roundTo53Bits (Nat.pow 10 magnitude.exponent.toNat))

end Magnitude
end Datebook.Json
