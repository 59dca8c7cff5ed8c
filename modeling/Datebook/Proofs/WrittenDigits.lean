import Mathlib.Algebra.Group.Nat.Defs
import Datebook.Text.Decimal

set_option autoImplicit false

namespace Datebook

namespace Text

variable {number : Nat} {digits text : List Char}

def StopsDigits (text : List Char) : Prop :=
  ∀ character rest, text = character :: rest → character.isDigit = false

theorem stopsDigits_cons {mark : Char} (other : mark.isDigit = false) (rest : List Char) :
    StopsDigits (mark :: rest) := by
  intro character others same
  cases same
  exact other

theorem decimal_ne_nil (number : Nat) : decimal number ≠ [] :=
  List.ne_nil_of_length_pos Nat.length_toDigits_pos

theorem head?_decimal_ne_zero (positive : 0 < number) : (decimal number).head? ≠ some '0' := by
  induction number using Nat.strongRecOn with
  | ind number ih =>
      rw [decimal, Nat.toDigits_eq_if (by decide)]
      split
      · simpa using Nat.ne_of_gt positive
      · next many =>
        -- The first digit is that of the number without its last one.
        obtain ⟨first, rest, digits⟩ := List.exists_cons_of_ne_nil (decimal_ne_nil (number / 10))
        have leading := ih (number / 10) (by omega) (by omega)
        rw [digits] at leading
        rw [decimal] at digits
        rw [digits]
        exact leading

theorem decimal_unpadded {first second : Char} {rest : List Char} (written : decimal number = first :: second :: rest) :
    first ≠ '0' := by
  rcases Nat.eq_zero_or_pos number with rfl | positive
  · cases written
  · simpa [written] using head?_decimal_ne_zero positive

theorem eq_zero_of_isDigit {digit : Char} (isDigit : digit.isDigit = true) (zero : digit.toNat - 48 = 0) :
    digit = '0' := by
  obtain ⟨least, -⟩ := Char.isDigit_iff_toNat.mp isDigit
  exact Char.toNat_inj.mp (Nat.le_antisymm (Nat.le_of_sub_eq_zero zero) least)

theorem length_paddedDecimal {width : Nat} (some : 0 < width) (fits : number < 10 ^ width) :
    (paddedDecimal width number).length = width := by
  have shorter : (decimal number).length ≤ width :=
    (Nat.length_toDigits_le_iff (by decide) some).mpr fits
  rw [paddedDecimal, List.length_append, List.length_replicate]
  omega

theorem paddedDecimal_eq_cons (width number : Nat) :
    ∃ first rest, paddedDecimal width number = first :: rest ∧ first.isDigit = true := by
  have notNil : paddedDecimal width number ≠ [] := List.append_ne_nil_of_right_ne_nil _ (decimal_ne_nil number)
  obtain ⟨first, rest, written⟩ := List.exists_cons_of_ne_nil notNil
  exact ⟨first, rest, written, isDigit_of_mem_paddedDecimal (written ▸ List.mem_cons_self ..)⟩

theorem digitPrefix_append {limit : Nat} (areDigits : ∀ digit ∈ digits, digit.isDigit = true)
    (fits : digits.length ≤ limit) (stops : StopsDigits text) :
    digitPrefix limit (digits ++ text) = (digits, text) := by
  induction digits generalizing limit with
  | nil =>
      cases limit with
      | zero => rfl
      | succ limit =>
          cases text with
          | nil => rfl
          | cons character rest => simp [digitPrefix, stops character rest rfl]
  | cons digit digits ih =>
      cases limit with
      | zero => cases fits
      | succ limit =>
          have rest := ih (fun other member => areDigits other (List.mem_cons_of_mem _ member))
            (Nat.le_of_succ_le_succ fits)
          rw [List.cons_append, digitPrefix, if_pos (areDigits digit (List.mem_cons_self ..)), rest]

end Text
end Datebook
