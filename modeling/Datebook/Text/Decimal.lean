set_option autoImplicit false

namespace Datebook.Text

def decimal (number : Nat) : List Char := Nat.toDigits 10 number

def paddedDecimal (width number : Nat) : List Char :=
  List.replicate (width - (decimal number).length) '0' ++ decimal number

def decimalValue (digits : List Char) : Nat := Nat.ofDigitChars 10 digits 0

theorem decimalValue_decimal (number : Nat) : decimalValue (decimal number) = number :=
  Nat.ofDigitChars_toDigits (by decide) (by decide)

theorem isDigit_of_mem_decimal {number : Nat} {digit : Char} (member : digit ∈ decimal number) :
    digit.isDigit = true :=
  Nat.isDigit_of_mem_toDigits (by decide) (by decide) member

theorem isDigit_of_mem_paddedDecimal {width number : Nat} {digit : Char}
    (member : digit ∈ paddedDecimal width number) : digit.isDigit = true := by
  rcases List.mem_append.mp member with zero | proper
  · rw [List.eq_of_mem_replicate zero]
    rfl
  · exact isDigit_of_mem_decimal proper

theorem decimalValue_zeros (count : Nat) (digits : List Char) :
    decimalValue (List.replicate count '0' ++ digits) = decimalValue digits := by
  induction count with
  | zero => rfl
  | succ count ih => exact ih

theorem decimalValue_paddedDecimal (width number : Nat) :
    decimalValue (paddedDecimal width number) = number := by
  rw [paddedDecimal, decimalValue_zeros, decimalValue_decimal]

def digitPrefix : (limit : Nat) → List Char → List Char × List Char
  | 0, text => ([], text)
  | _, [] => ([], [])
  | limit + 1, character :: rest =>
      if character.isDigit then
        let (digits, after) := digitPrefix limit rest
        (character :: digits, after)
      else ([], character :: rest)

def intDecimal : Int → List Char
  | .ofNat number => decimal number
  | .negSucc below => '-' :: decimal (below + 1)

end Datebook.Text
