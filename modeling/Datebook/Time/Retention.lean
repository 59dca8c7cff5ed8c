import Datebook.Time.Instant

set_option autoImplicit false

namespace Datebook.Instant

/-- 365 days earlier; a leap second counts as the start of the next minute. -/
def commonYearBefore? (now : Instant) : Option Instant :=
  if now.nanos < 1000000000 then of? (now.seconds - 365 * secondsPerDay) now.nanos
  else of? (now.seconds + 1 - 365 * secondsPerDay) (now.nanos - 1000000000)

/-- The same time of day on the same date of the previous year, 29 February becoming the 28th. -/
def calendarYearBefore? (now : Instant) : Option Instant := do
  let year := now.date.year - 1
  let date ← Date.of? year now.date.month (min now.date.day (monthLength year now.date.month))
  of? (date.dayNumber * secondsPerDay + now.secondOfDay) now.nanos

/-- Events that ended before this instant are purged. There is none when 365 days before `now` is
not an instant, even where the previous calendar year would be. -/
def purgeCutoff? (now : Instant) : Option Instant :=
  now.commonYearBefore?.map fun fallback => now.calendarYearBefore?.getD fallback

end Datebook.Instant
