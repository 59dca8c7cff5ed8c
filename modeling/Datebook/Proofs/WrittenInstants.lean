import Datebook.Proofs.WrittenDigits
import Datebook.Time.Stamp
import Datebook.Time.StampReader

set_option autoImplicit false

namespace Datebook

open Text

variable {width value : Nat} {text : List Char}

theorem isBlank_eq_false_of_isDigit {digit : Char} (isDigit : digit.isDigit = true) : isBlank digit = false := by
  obtain ⟨least, greatest⟩ : 48 ≤ digit.toNat ∧ digit.toNat ≤ 57 := Char.isDigit_iff_toNat.mp isDigit
  simp only [isBlank, Bool.or_eq_false_iff, Bool.and_eq_false_iff, decide_eq_false_iff_not]
  omega

theorem skipBlank_cons {character : Char} (shown : isBlank character = false) :
    skipBlank (character :: text) = character :: text := by
  rw [skipBlank, List.dropWhile_cons, shown]
  rfl

theorem skipBlank_paddedDecimal (width value : Nat) (text : List Char) :
    skipBlank (paddedDecimal width value ++ text) = paddedDecimal width value ++ text := by
  obtain ⟨first, rest, written, isDigit⟩ := paddedDecimal_eq_cons width value
  rw [written]
  exact skipBlank_cons (isBlank_eq_false_of_isDigit isDigit)

theorem digitPrefix_paddedDecimal {limit : Nat} (fits : (paddedDecimal width value).length ≤ limit)
    (stops : StopsDigits text) :
    digitPrefix limit (paddedDecimal width value ++ text) = (paddedDecimal width value, text) :=
  digitPrefix_append (fun _ => isDigit_of_mem_paddedDecimal) fits stops

namespace StampReader

theorem number_paddedDecimal {limit : Nat} (fits : (paddedDecimal width value).length ≤ limit)
    (stops : StopsDigits text) : number limit (paddedDecimal width value ++ text) = some (value, text) := by
  obtain ⟨first, rest, written, -⟩ := paddedDecimal_eq_cons width value
  rw [number, skipBlank_paddedDecimal, digitPrefix_paddedDecimal fits stops]
  split
  · next none => simp [written] at none
  · next found =>
    cases found
    rw [decimalValue_paddedDecimal]

theorem number_two (small : value < 100) (stops : StopsDigits text) :
    number 2 (paddedDecimal 2 value ++ text) = some (value, text) :=
  number_paddedDecimal (Nat.le_of_eq (length_paddedDecimal (by decide) small)) stops

theorem signed_paddedDecimal (stops : StopsDigits text) (apply : Int → Int) :
    year.signed (paddedDecimal width value ++ text) apply = some (apply value, text) := by
  obtain ⟨first, rest, written, -⟩ := paddedDecimal_eq_cons width value
  have fits : (paddedDecimal width value).length ≤ (paddedDecimal width value ++ text).length := by simp
  rw [year.signed, digitPrefix_paddedDecimal fits stops]
  split
  · next none => simp [written] at none
  · next found =>
    cases found
    rw [decimalValue_paddedDecimal]

theorem year_writeYear (written : Int) (stops : StopsDigits text) :
    year (writeYear written ++ text) = some (written, text) := by
  unfold writeYear
  by_cases plain : 0 ≤ written ∧ written ≤ 9999
  · rw [if_pos plain]
    have few : (paddedDecimal 4 written.toNat).length ≤ 4 :=
      Nat.le_of_eq (length_paddedDecimal (by decide) (by omega))
    obtain ⟨first, rest, shape, isDigit⟩ := paddedDecimal_eq_cons 4 written.toNat
    rw [year, skipBlank_paddedDecimal]
    split
    · next sign =>
      rw [shape] at sign
      cases sign
      cases isDigit
    · next sign =>
      rw [shape] at sign
      cases sign
      cases isDigit
    · rw [number_paddedDecimal few stops]
      change some ((written.toNat : Int), text) = _
      rw [Int.toNat_of_nonneg plain.1]
  · rw [if_neg plain]
    by_cases before : written < 0
    · rw [if_pos before]
      change year.signed (paddedDecimal 4 written.natAbs ++ text) (fun value => -value) = _
      rw [signed_paddedDecimal stops, show -(written.natAbs : Int) = written by omega]
    · rw [if_neg before]
      change year.signed (paddedDecimal 4 written.natAbs ++ text) (fun value => value) = _
      rw [signed_paddedDecimal stops, show (written.natAbs : Int) = written by omega]

theorem fraction_paddedDecimal (some : 0 < width) (few : width ≤ 9) (fits : value < 10 ^ width)
    (stops : StopsDigits text) :
    fraction ('.' :: paddedDecimal width value ++ text) = .some (value * 10 ^ (9 - width), text) := by
  obtain ⟨first, rest, written, -⟩ := paddedDecimal_eq_cons width value
  have length := length_paddedDecimal some fits
  have ended : text.dropWhile Char.isDigit = text := by
    cases text with
    | nil => rfl
    | cons character rest => rw [List.dropWhile_cons, stops character rest rfl]; rfl
  rw [List.cons_append, fraction, digitPrefix_paddedDecimal (by rwa [length]) stops]
  split
  · next none => simp [written] at none
  · next found =>
    cases found
    rw [decimalValue_paddedDecimal, length, ended]
    rfl

theorem stopsDigits_writeFraction (nanos : Nat) (stops : StopsDigits text) :
    StopsDigits (writeFraction nanos ++ text) := by
  unfold writeFraction
  split
  · exact stops
  split
  · exact stopsDigits_cons rfl _
  split <;> exact stopsDigits_cons rfl _

theorem fraction_writeFraction {nanos : Nat} (small : nanos < 1000000000) (stops : StopsDigits text)
    (noPoint : text.head? ≠ some '.') : fraction (writeFraction nanos ++ text) = some (nanos, text) := by
  unfold writeFraction
  by_cases zero : nanos = 0
  · rw [if_pos zero, zero]
    cases text with
    | nil => rfl
    | cons character rest =>
        simp only [List.head?_cons, ne_eq, Option.some.injEq] at noPoint
        simp [fraction, noPoint]
  rw [if_neg zero]
  by_cases millis : nanos % 1000000 = 0
  · rw [if_pos millis, fraction_paddedDecimal (by decide) (by decide) (by omega) stops]
    have exact : nanos / 1000000 * 10 ^ (9 - 3) = nanos := by omega
    rw [exact]
  rw [if_neg millis]
  by_cases micros : nanos % 1000 = 0
  · rw [if_pos micros, fraction_paddedDecimal (by decide) (by decide) (by omega) stops]
    have exact : nanos / 1000 * 10 ^ (9 - 6) = nanos := by omega
    rw [exact]
  · rw [if_neg micros, fraction_paddedDecimal (by decide) (by decide) (by omega) stops, Nat.sub_self, Nat.pow_zero,
      Nat.mul_one]

end StampReader

namespace Instant

open StampReader

variable (instant : Instant)

theorem secondOfDay_lt : instant.secondOfDay < 86400 := by
  simp only [secondOfDay, secondsPerDay]
  omega

theorem ofFields?_parts :
    ofFields? instant.date (instant.secondOfDay / 3600) (instant.secondOfDay / 60 % 60)
      (instant.secondOfDay % 60 + instant.nanos / 1000000000) (instant.nanos % 1000000000) 0 = some instant := by
  have inDay := instant.secondOfDay_lt
  have below := instant.nanos_lt
  -- Only the last second of a minute can be a leap second.
  have leap : 1000000000 ≤ instant.nanos → instant.secondOfDay % 60 = 59 := by
    intro late
    have := instant.leap late
    simp only [secondOfDay, secondsPerDay]
    omega
  have valid : instant.secondOfDay / 3600 < 24 ∧ instant.secondOfDay / 60 % 60 < 60 ∧
      instant.secondOfDay % 60 + instant.nanos / 1000000000 ≤ 60 := by omega
  have seconds : instant.date.dayNumber * secondsPerDay + (instant.secondOfDay / 3600 * 3600 +
      instant.secondOfDay / 60 % 60 * 60 + min (instant.secondOfDay % 60 + instant.nanos / 1000000000) 59 : Nat) -
      0 * 60 = instant.seconds := by
    have clock : instant.secondOfDay / 3600 * 3600 + instant.secondOfDay / 60 % 60 * 60 +
        min (instant.secondOfDay % 60 + instant.nanos / 1000000000) 59 = instant.secondOfDay := by omega
    rw [clock, dayNumber_date]
    simp only [dayNumber, secondOfDay, secondsPerDay]
    omega
  have nanos : (if instant.secondOfDay % 60 + instant.nanos / 1000000000 = 60 then
      instant.nanos % 1000000000 + 1000000000 else instant.nanos % 1000000000) = instant.nanos := by
    split <;> omega
  rw [ofFields?, if_pos valid]
  simp only [seconds, nanos, of?_self]

theorem read?_write : read? instant.write = some instant := by
  have inDay := instant.secondOfDay_lt
  have below := instant.nanos_lt
  have monthBound : instant.date.month < 100 := Nat.lt_of_le_of_lt instant.date.month_le (by decide)
  have dayBound : instant.date.day < 100 :=
    Nat.lt_of_le_of_lt (Nat.le_trans instant.date.day_le (monthLength_le _ _)) (by decide)
  have hourBound : instant.secondOfDay / 3600 < 100 := by omega
  have minuteBound : instant.secondOfDay / 60 % 60 < 100 := by omega
  have secondBound : instant.secondOfDay % 60 + instant.nanos / 1000000000 < 100 := by omega
  have zoneStops : StopsDigits ['Z'] := stopsDigits_cons rfl []
  have parts : instant.write = writeYear instant.date.year ++ '-' :: (paddedDecimal 2 instant.date.month ++ '-' ::
      (paddedDecimal 2 instant.date.day ++ 'T' :: (paddedDecimal 2 (instant.secondOfDay / 3600) ++ ':' ::
      (paddedDecimal 2 (instant.secondOfDay / 60 % 60) ++ ':' ::
      (paddedDecimal 2 (instant.secondOfDay % 60 + instant.nanos / 1000000000) ++
      (writeFraction (instant.nanos % 1000000000) ++ ['Z'])))))) := by
    simp only [write, Date.write, writeTime, List.append_assoc, List.cons_append]
  have year (rest : List Char) := year_writeYear instant.date.year (@stopsDigits_cons '-' rfl rest)
  have month (rest : List Char) := number_two monthBound (@stopsDigits_cons '-' rfl rest)
  have day (rest : List Char) := number_two dayBound (@stopsDigits_cons 'T' rfl rest)
  have hour (rest : List Char) := number_two hourBound (@stopsDigits_cons ':' rfl rest)
  have minute (rest : List Char) := number_two minuteBound (@stopsDigits_cons ':' rfl rest)
  have second := number_two secondBound (stopsDigits_writeFraction (instant.nanos % 1000000000) zoneStops)
  have nanos := fraction_writeFraction (Nat.mod_lt instant.nanos (by decide)) zoneStops (by decide)
  have mark (rest : List Char) : expect '-' (skipBlank ('-' :: rest)) = some rest := rfl
  have colon (rest : List Char) : expect ':' (skipBlank (':' :: rest)) = some rest := rfl
  have goesOn {α β : Type} (value : α) (next : α → Option β) : (some value >>= next) = next value := rfl
  rw [parts]
  simp only [read?, year, month, day, hour, minute, second, nanos, mark, colon, separator, goesOn, Date.of?_self]
  exact ofFields?_parts instant

end Instant
end Datebook
