import Datebook.Json.Scan
import Datebook.Proofs.WrittenDigits
import Mathlib.Data.List.Chain

set_option autoImplicit false

namespace Datebook

namespace Json

open Text
open Text.RawText (ofChars)

variable {digits text : List Char} {glyphs : RawText}

theorem ofChars_append (left right : List Char) : ofChars (left ++ right) = ofChars left ++ ofChars right :=
  List.map_append

theorem digitRun_append (areDigits : ∀ digit ∈ digits, digit.isDigit = true) (stops : StopsDigits text) :
    digitRun (ofChars (digits ++ text)) = (digits.map fun digit => digit.toNat - 48, ofChars text) := by
  induction digits with
  | nil =>
      cases text with
      | nil => rfl
      | cons character rest => simp [ofChars, digitRun, stops character rest rfl]
  | cons digit digits ih =>
      have rest := ih fun other member => areDigits other (List.mem_cons_of_mem _ member)
      change digitRun (.char digit :: ofChars (digits ++ text)) = _
      rw [digitRun, if_pos (areDigits digit (List.mem_cons_self ..)), rest]
      rfl

theorem digitsValue_map (digits : List Char) :
    digitsValue (digits.map fun digit => digit.toNat - 48) = decimalValue digits := by
  rw [digitsValue, List.foldl_map, decimalValue, Nat.ofDigitChars]
  simp only [Nat.mul_comm]
  rfl

def EndsNumber (text : List Char) : Prop :=
  ∀ character rest, text = character :: rest →
    character.isDigit = false ∧ character ≠ '.' ∧ character ≠ 'e' ∧ character ≠ 'E'

theorem EndsNumber.stopsDigits (ends : EndsNumber text) : StopsDigits text :=
  fun character rest same => (ends character rest same).1

theorem EndsNumber.of_ofChars (ends : EndsNumber text) {character : Char} {rest : RawText}
    (same : ofChars text = .char character :: rest) :
    character.isDigit = false ∧ character ≠ '.' ∧ character ≠ 'e' ∧ character ≠ 'E' := by
  obtain ⟨_, others, rfl, isFirst, -⟩ := List.map_eq_cons_iff.mp same
  cases isFirst
  exact ends character others rfl

theorem scanNumber_decimal (value : UInt64) (ends : EndsNumber text) :
    scanNumber (ofChars (decimal value.toNat ++ text)) = ⟨.ok (.natural value), .ok (ofChars text)⟩ := by
  have areDigits (digit : Char) (member : digit ∈ decimal value.toNat) := isDigit_of_mem_decimal member
  have run := digitRun_append areDigits ends.stopsDigits
  have total := digitsValue_map (decimal value.toNat)
  rw [decimalValue_decimal] at total
  have fits : ¬ Magnitude.digitsLimit < value.toNat := Nat.not_lt.mpr (Nat.le_of_lt_succ value.toNat_lt)
  obtain ⟨first, others, written⟩ := List.exists_cons_of_ne_nil (decimal_ne_nil value.toNat)
  have isDigit : first.isDigit = true := areDigits first (by simp [written])
  unfold scanNumber
  split
  next minus unsigned sign =>
  split at sign
  · next dash =>
    rw [written] at dash
    cases dash
    cases isDigit
  · cases sign
    rw [run]
    split
    · next none =>
      simp [written] at none
    · next padded =>
      rw [written] at padded
      obtain ⟨second, rest, rfl⟩ : ∃ second rest, others = second :: rest := by
        cases others <;> simp at padded ⊢
      have zero : first.toNat - 48 = 0 := by simpa using congrArg (fun run => run.1.head?) padded
      have leading := decimal_unpadded written
      exact absurd (eq_zero_of_isDigit isDigit zero) leading
    · next whole =>
      cases whole
      split
      · next point => exact absurd rfl (ends.of_ofChars point).2.1
      · next exponent => exact absurd rfl (ends.of_ofChars exponent).2.2.1
      · next exponent => exact absurd rfl (ends.of_ofChars exponent).2.2.2
      · rw [wholeNumber, total, if_neg fits, if_pos (by decide), UInt64.ofNat_toNat]

theorem hexValue?_digitChar {number : Nat} (small : number < 32) :
    hexValue? (ofChars ['0', '0', Nat.digitChar (number / 16), Nat.digitChar (number % 16)]) = some number := by
  revert number
  decide

theorem scanString_shown {character : Char} (quote : character ≠ '"') (backslash : character ≠ '\\')
    (shown : ¬ character.toNat < 32) :
    scanString none (.char character :: glyphs) = (scanString none glyphs).map (character :: ·) := by
  rw [scanString.eq_def]
  simp [quote, backslash, shown]

theorem scanString_plainEscape {escaped plain : Char} (other : escaped ≠ 'u')
    (found : plainEscape? escaped = some plain) :
    scanString none (.char '\\' :: .char escaped :: glyphs) = (scanString none glyphs).map (plain :: ·) := by
  rw [scanString.eq_def]
  simp [other, found]

theorem scanString_unicodeEscape {first second third fourth : Glyph} {unit : Nat}
    (value : hexValue? [first, second, third, fourth] = some unit) (below : unit < 0xD800) :
    scanString none (.char '\\' :: .char 'u' :: first :: second :: third :: fourth :: glyphs) =
      (scanString none glyphs).map (Char.ofNat unit :: ·) := by
  have notLow : isLowSurrogate unit = false := by
    simp only [isLowSurrogate, Bool.and_eq_false_iff, decide_eq_false_iff_not]
    omega
  have notHigh : isHighSurrogate unit = false := by
    simp only [isHighSurrogate, Bool.and_eq_false_iff, decide_eq_false_iff_not]
    omega
  rw [scanString.eq_def]
  simp [value, notLow, notHigh]

theorem scanString_writeCharacter (character : Char) (glyphs : RawText) :
    scanString none (ofChars (Lexeme.writeCharacter character) ++ glyphs) =
      (scanString none glyphs).map (character :: ·) := by
  have named {code : Nat} (same : character.toNat = code) : character = Char.ofNat code := by
    rw [← same, Char.ofNat_toNat]
  unfold Lexeme.writeCharacter
  split
  · next quote => exact scanString_plainEscape (by decide) (by rw [quote]; rfl)
  split
  · next backslash => exact scanString_plainEscape (by decide) (by rw [backslash]; rfl)
  split
  · next code => exact scanString_plainEscape (by decide) (by rw [named code]; rfl)
  split
  · next code => exact scanString_plainEscape (by decide) (by rw [named code]; rfl)
  split
  · next code => exact scanString_plainEscape (by decide) (by rw [named code]; rfl)
  split
  · next code => exact scanString_plainEscape (by decide) (by rw [named code]; rfl)
  split
  · next code => exact scanString_plainEscape (by decide) (by rw [named code]; rfl)
  split
  · next control =>
    -- No control character is half of a surrogate pair.
    have unpaired : character.toNat < 0xD800 := by omega
    have scanned := @scanString_unicodeEscape glyphs _ _ _ _ _ (hexValue?_digitChar control) unpaired
    rwa [Char.ofNat_toNat] at scanned
  · next quote backslash _ _ _ _ _ shown => exact scanString_shown quote backslash shown

theorem scanString_write (value : List Char) (glyphs : RawText) :
    scanString none (ofChars (value.flatMap Lexeme.writeCharacter) ++ .char '"' :: glyphs) =
      ⟨.ok value, .ok glyphs⟩ := by
  induction value with
  | nil =>
      rw [scanString.eq_def]
      rfl
  | cons character value ih =>
      rw [List.flatMap_cons, ofChars_append, List.append_assoc, scanString_writeCharacter, ih]
      rfl

def Lexeme.isNatural : Lexeme → Bool
  | natural _ => true
  | _ => false

-- No two numbers side by side, which would read as one.
def Apart (lexemes : List Lexeme) : Prop :=
  lexemes.IsChain fun lexeme next => lexeme.isNatural = true → next.isNatural = false

theorem endsNumber_write {lexeme : Lexeme} (other : lexeme.isNatural = false) (text : List Char) :
    EndsNumber (lexeme.write ++ text) := by
  intro character rest same
  cases lexeme with
  | natural => cases other
  | boolean value => cases value <;> cases same <;> decide
  | _ => cases same; decide

theorem write_ne_nil (lexeme : Lexeme) : lexeme.write ≠ [] := by
  cases lexeme with
  | natural value => exact decimal_ne_nil value.toNat
  | boolean value => cases value <;> exact List.cons_ne_nil _ _
  | _ => exact List.cons_ne_nil _ _

theorem Scan.thenTokens_ok {α : Type} (value : α) (token : Except Fault α → Except Fault Unit → Token)
    (following : RawText → List Token) :
    (⟨.ok value, .ok glyphs⟩ : Scan α).thenTokens token following =
      token (.ok value) (.ok ()) :: following glyphs := rfl

theorem tokensWithin_digit {first : Char} (isDigit : first.isDigit = true) (steps : Nat) :
    tokensWithin (steps + 1) (.char first :: glyphs) =
      (scanNumber (.char first :: glyphs)).thenTokens Token.number (tokensWithin steps) := by
  have blank : isJsonBlank first = false := by
    obtain ⟨least, -⟩ := Char.isDigit_iff_toNat.mp isDigit
    simp only [isJsonBlank, Bool.or_eq_false_iff, decide_eq_false_iff_not]
    refine ⟨⟨⟨?_, ?_⟩, ?_⟩, ?_⟩ <;> rintro rfl <;> exact absurd least (by decide)
  have quote : first ≠ '"' := by
    rintro rfl
    cases isDigit
  rw [tokensWithin, if_neg (by simp [blank]), if_neg quote, if_pos (by simp [isDigit])]

theorem tokensWithin_write {lexeme : Lexeme} {text : List Char}
    (ends : lexeme.isNatural = true → EndsNumber text) (steps : Nat) :
    tokensWithin (steps + 1) (ofChars (lexeme.write ++ text)) =
      lexeme.token :: tokensWithin steps (ofChars text) := by
  cases lexeme with
  | natural value =>
      have scanned := scanNumber_decimal value (ends rfl)
      obtain ⟨first, others, written⟩ := List.exists_cons_of_ne_nil (decimal_ne_nil value.toNat)
      have isDigit : first.isDigit = true := isDigit_of_mem_decimal (written ▸ List.mem_cons_self ..)
      rw [written] at scanned
      change tokensWithin (steps + 1) (ofChars (decimal value.toNat ++ text)) = _
      rw [written]
      exact (tokensWithin_digit isDigit steps).trans (congrArg (Scan.thenTokens · _ _) scanned)
  | string value =>
      have scanned := scanString_write value (ofChars text)
      have written : ofChars ((Lexeme.string value).write ++ text) =
          .char '"' :: (ofChars (value.flatMap Lexeme.writeCharacter) ++ .char '"' :: ofChars text) := by
        simp [Lexeme.write, ofChars]
      rw [written, tokensWithin, if_neg (by decide), if_pos rfl, scanned, Scan.thenTokens_ok]
      rfl
  | boolean value => cases value <;> rfl
  | _ => rfl

theorem Apart.endsNumber {lexeme : Lexeme} {rest : List Lexeme} (apart : Apart (lexeme :: rest))
    (isNatural : lexeme.isNatural = true) : EndsNumber (write rest) := by
  cases rest with
  | nil =>
      intro character rest none
      cases none
  | cons next rest =>
      have other : next.isNatural = false := (List.isChain_cons_cons.mp apart).1 isNatural
      exact endsNumber_write other (write rest)

theorem tokensWithin_writes {lexemes : List Lexeme} (apart : Apart lexemes) {steps : Nat}
    (enough : (write lexemes).length ≤ steps) :
    tokensWithin steps (ofChars (write lexemes)) = lexemes.map Lexeme.token := by
  induction lexemes generalizing steps with
  | nil => cases steps <;> rfl
  | cons lexeme rest ih =>
      have written : write (lexeme :: rest) = lexeme.write ++ write rest := List.flatMap_cons
      have length : 0 < lexeme.write.length := List.length_pos_iff.mpr (write_ne_nil lexeme)
      rw [written, List.length_append] at enough
      obtain ⟨fewer, rfl⟩ : ∃ fewer, steps = fewer + 1 := ⟨steps - 1, by omega⟩
      rw [written, tokensWithin_write apart.endsNumber, ih apart.tail (by omega)]
      rfl

theorem tokens_write {lexemes : List Lexeme} (apart : Apart lexemes) :
    tokens (ofChars (write lexemes)) = lexemes.map Lexeme.token :=
  tokensWithin_writes apart (Nat.le_of_eq (by rw [ofChars, List.length_map]))

theorem Apart.cons {mark : Lexeme} (other : mark.isNatural = false) {rest : List Lexeme} (apart : Apart rest) :
    Apart (mark :: rest) :=
  List.isChain_cons.mpr ⟨fun _ _ isNatural => absurd isNatural (by simp [other]), apart⟩

theorem Apart.append_cons {mark : Lexeme} (other : mark.isNatural = false) {left right : List Lexeme}
    (before : Apart left) (after : Apart right) : Apart (left ++ mark :: right) :=
  List.IsChain.append before (after.cons other) fun _ _ first same _ => by
    cases same
    exact other

theorem apart_separated {items : List (List Lexeme)} (parts : ∀ item ∈ items, Apart item) :
    Apart (separated items) := by
  induction items using separated.induct with
  | case1 => exact .nil
  | case2 item => exact parts item (List.mem_singleton_self item)
  | case3 item next rest ih =>
      have others := ih fun other member => parts other (List.mem_cons_of_mem item member)
      exact (parts item (List.mem_cons_self ..)).append_cons rfl others

theorem apart_objectOf {members : List (String × List Lexeme)} (parts : ∀ member ∈ members, Apart member.2) :
    Apart (objectOf members) := by
  refine ((apart_separated ?_).cons rfl).append_cons rfl .nil
  intro item listed
  obtain ⟨member, among, rfl⟩ := List.mem_map.mp listed
  exact ((parts member among).cons rfl).cons rfl

end Json
end Datebook
