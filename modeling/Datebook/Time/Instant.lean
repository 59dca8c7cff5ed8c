import Datebook.Time.Date

/-!
Instants in UTC with leap seconds, and the count of nanoseconds by which they are stored.
A leap second is the second 59 of a minute with a billion nanoseconds or more, so instants compare
as pairs of seconds and nanoseconds.
Main statement: what is stored as a count of nanoseconds reads back with the same count.
-/

set_option autoImplicit false

namespace Datebook

def secondsPerDay : Int := 86400

/-- Seconds since the start of 1970 and nanoseconds into the second. -/
structure Instant where
  seconds : Int
  nanos : Nat
  nanos_lt : nanos < 2000000000
  leap : 1000000000 ≤ nanos → seconds % 60 = 59
  seconds_ge : Date.firstDayNumber * secondsPerDay ≤ seconds
  seconds_lt : seconds < (Date.lastDayNumber + 1) * secondsPerDay
  deriving DecidableEq

namespace Instant

theorem ext_pair {left right : Instant} (seconds : left.seconds = right.seconds)
    (nanos : left.nanos = right.nanos) : left = right := by
  cases left
  cases right
  simp_all

instance : LE Instant where
  le left right := left.seconds < right.seconds ∨ left.seconds = right.seconds ∧ left.nanos ≤ right.nanos

instance : LT Instant where
  lt left right := left.seconds < right.seconds ∨ left.seconds = right.seconds ∧ left.nanos < right.nanos

theorem le_def {left right : Instant} : left ≤ right ↔
    left.seconds < right.seconds ∨ left.seconds = right.seconds ∧ left.nanos ≤ right.nanos := Iff.rfl

theorem lt_def {left right : Instant} : left < right ↔
    left.seconds < right.seconds ∨ left.seconds = right.seconds ∧ left.nanos < right.nanos := Iff.rfl

instance (left right : Instant) : Decidable (left ≤ right) := decidable_of_iff _ le_def.symm

instance (left right : Instant) : Decidable (left < right) := decidable_of_iff _ lt_def.symm

def of? (seconds : Int) (nanos : Nat) : Option Instant :=
  if valid : (nanos < 2000000000 ∧ (1000000000 ≤ nanos → seconds % 60 = 59)) ∧
      Date.firstDayNumber * secondsPerDay ≤ seconds ∧
      seconds < (Date.lastDayNumber + 1) * secondsPerDay then
    some ⟨seconds, nanos, valid.1.1, valid.1.2, valid.2.1, valid.2.2⟩
  else none

theorem of?_self (instant : Instant) : of? instant.seconds instant.nanos = some instant := by
  rw [of?, dif_pos ⟨⟨instant.nanos_lt, instant.leap⟩, instant.seconds_ge, instant.seconds_lt⟩]

def dayNumber (instant : Instant) : Int := instant.seconds / secondsPerDay

def secondOfDay (instant : Instant) : Nat := (instant.seconds % secondsPerDay).toNat

theorem dayNumber_bounds (instant : Instant) :
    Date.firstDayNumber ≤ instant.dayNumber ∧ instant.dayNumber ≤ Date.lastDayNumber := by
  have := instant.seconds_ge
  have := instant.seconds_lt
  simp only [dayNumber, secondsPerDay, Date.firstDayNumber, Date.lastDayNumber] at *
  omega

def date (instant : Instant) : Date :=
  Date.ofDayNumber instant.dayNumber instant.dayNumber_bounds.1 instant.dayNumber_bounds.2

theorem dayNumber_date (instant : Instant) : instant.date.dayNumber = instant.dayNumber :=
  Date.dayNumber_ofDayNumber _ _ _

def nanoCount (instant : Instant) : Int := instant.seconds * 1000000000 + instant.nanos

end Instant

namespace Date

def startOfDay (date : Date) : Instant where
  seconds := date.dayNumber * secondsPerDay
  nanos := 0
  nanos_lt := by decide
  leap := by omega
  seconds_ge := by
    have := date.dayNumber_ge
    simp only [secondsPerDay]
    omega
  seconds_lt := by
    have := date.dayNumber_le
    simp only [secondsPerDay]
    omega

/-- The last nanosecond of the day that is not part of a leap second. -/
def endOfDay (date : Date) : Instant where
  seconds := date.dayNumber * secondsPerDay + 86399
  nanos := 999999999
  nanos_lt := by decide
  leap := by omega
  seconds_ge := by
    have := date.dayNumber_ge
    simp only [secondsPerDay]
    omega
  seconds_lt := by
    have := date.dayNumber_le
    simp only [secondsPerDay]
    omega

end Date

/-- Nanoseconds since the start of 1970, as a store keeps them in a signed 64-bit column. -/
structure NanoCount where
  value : Int
  value_ge : -9223372036854775808 ≤ value
  value_le : value ≤ 9223372036854775807
  deriving DecidableEq

namespace NanoCount

def least : NanoCount := ⟨-9223372036854775808, by decide, by decide⟩

def greatest : NanoCount := ⟨9223372036854775807, by decide, by decide⟩

theorem subseconds_lt (count : NanoCount) : (count.value % 1000000000).toNat < 1000000000 := by omega

theorem seconds_ge (count : NanoCount) :
    Date.firstDayNumber * secondsPerDay ≤ count.value / 1000000000 := by
  have := count.value_ge
  simp only [Date.firstDayNumber, secondsPerDay]
  omega

theorem seconds_lt (count : NanoCount) :
    count.value / 1000000000 < (Date.lastDayNumber + 1) * secondsPerDay := by
  have := count.value_le
  simp only [Date.lastDayNumber, secondsPerDay]
  omega

def toInstant (count : NanoCount) : Instant where
  seconds := count.value / 1000000000
  nanos := (count.value % 1000000000).toNat
  nanos_lt := Nat.lt_trans count.subseconds_lt (by decide)
  leap late := absurd late (Nat.not_le_of_lt count.subseconds_lt)
  seconds_ge := count.seconds_ge
  seconds_lt := count.seconds_lt

theorem nanoCount_toInstant (count : NanoCount) : count.toInstant.nanoCount = count.value := by
  simp only [toInstant, Instant.nanoCount]
  omega

end NanoCount

namespace Instant

def toNanoCount? (instant : Instant) : Option NanoCount :=
  if fits : -9223372036854775808 ≤ instant.nanoCount ∧ instant.nanoCount ≤ 9223372036854775807 then
    some ⟨instant.nanoCount, fits.1, fits.2⟩
  else none

def isStorable (instant : Instant) : Bool := instant.toNanoCount?.isSome

/-- The count nearest to the instant: one that does not fit becomes the least or the greatest. -/
def toNanoCount (instant : Instant) : NanoCount :=
  instant.toNanoCount?.getD (if instant.seconds < 0 then NanoCount.least else NanoCount.greatest)

theorem toInstant_of_toNanoCount? {instant : Instant} {count : NanoCount}
    (found : instant.toNanoCount? = some count) : count.toInstant.nanoCount = instant.nanoCount := by
  simp only [toNanoCount?] at found
  split at found
  · cases found
    exact NanoCount.nanoCount_toInstant _
  · cases found

end Instant
end Datebook
