import Datebook.Proofs.CalendarPeriods
import Datebook.Time.Retention

set_option autoImplicit false

namespace Datebook

namespace Date

variable {date : Date}

theorem of?_eq_some_iff {year : Int} {month day : Nat} :
    of? year month day = some date ↔ date.year = year ∧ date.month = month ∧ date.day = day := by
  constructor
  · intro found
    simp only [of?] at found
    split at found
    · cases found
      exact ⟨rfl, rfl, rfl⟩
    · cases found
  · rintro ⟨rfl, rfl, rfl⟩
    exact of?_self date

theorem min_day_yearBefore (date : Date) :
    min date.day (monthLength (date.year - 1) date.month) =
      if date.month = 2 ∧ date.day = 29 then 28 else date.day := by
  have le := date.day_le
  simp only [monthLength] at le ⊢
  by_cases february : date.month = 2
  · simp only [february, if_true, true_and] at le ⊢
    by_cases leapDay : date.day = 29
    · -- Only a leap year has the day, and the year before one is none.
      have leap : isLeapYear date.year = true := by
        cases isLeap : isLeapYear date.year with
        | true => rfl
        | false => simp [isLeap, leapDay] at le
      have common : isLeapYear (date.year - 1) = false := by
        simp only [isLeapYear] at leap ⊢
        grind
      simp [leapDay, common]
    · have early : date.day ≤ 28 := by
        split at le <;> omega
      rw [if_neg leapDay]
      split <;> omega
  · simp only [february, if_false, false_and] at le ⊢
    exact Nat.min_eq_left le

theorem leapDays_mono (year : Int) :
    (year - 1) / 4 - (year - 1) / 100 + (year - 1) / 400 ≤ year / 4 - year / 100 + year / 400 := by
  omega

theorem dayCount_yearBefore_le (year : Int) (month : Nat) {day earlier : Nat} (le : earlier ≤ day) :
    dayCount (year - 1) month earlier ≤ dayCount year month day - 365 := by
  simp only [dayCount]
  -- The days of January and February are counted with the year before.
  split
  · have february := leapDays_mono (year - 1)
    omega
  · have march := leapDays_mono year
    omega

end Date

namespace Instant

variable {now time cutoff common : Instant}

def first : Instant := (of? (Date.firstDayNumber * secondsPerDay) 0).get (by decide)

theorem first_parts : first.seconds = Date.firstDayNumber * secondsPerDay ∧ first.nanos = 0 := ⟨rfl, rfl⟩

theorem first_le (time : Instant) : first ≤ time := by
  have := time.seconds_ge
  rw [le_def, first_parts.1, first_parts.2]
  omega

theorem of?_eq_some_iff {seconds : Int} {nanos : Nat} :
    of? seconds nanos = some time ↔ time.seconds = seconds ∧ time.nanos = nanos := by
  constructor
  · intro found
    simp only [of?] at found
    split at found
    · cases found
      exact ⟨rfl, rfl⟩
    · cases found
  · rintro ⟨rfl, rfl⟩
    exact of?_self time

theorem of?_eq_none_iff {seconds : Int} {nanos : Nat} : of? seconds nanos = none ↔
    ¬ ((nanos < 2000000000 ∧ (1000000000 ≤ nanos → seconds % 60 = 59)) ∧
      Date.firstDayNumber * secondsPerDay ≤ seconds ∧
      seconds < (Date.lastDayNumber + 1) * secondsPerDay) := by
  simp only [of?, dite_eq_right_iff, reduceCtorEq, imp_false]

theorem of?_eq_none_iff_lt {seconds : Int} {nanos : Nat} (regular : nanos < 1000000000)
    (below : seconds < (Date.lastDayNumber + 1) * secondsPerDay) :
    of? seconds nanos = none ↔ seconds < Date.firstDayNumber * secondsPerDay := by
  rw [of?_eq_none_iff]
  constructor
  · intro outside
    apply Int.not_le.mp
    intro late
    exact outside ⟨⟨by omega, fun inLeap => by omega⟩, late, below⟩
  · intro early inside
    omega

/-- 365 days before, where a leap second is the second after it. -/
structure IsCommonYearBefore (common now : Instant) : Prop where
  regular : common.nanos < 1000000000
  count : common.nanoCount = now.nanoCount - 365 * 86400 * 1000000000

/-- The same time on the same day of the previous year, or on the 28th for 29 February. -/
structure IsCalendarYearBefore (cutoff now : Instant) : Prop where
  year : cutoff.date.year = now.date.year - 1
  month : cutoff.date.month = now.date.month
  day : cutoff.date.day = if now.date.month = 2 ∧ now.date.day = 29 then 28 else now.date.day
  secondOfDay : cutoff.secondOfDay = now.secondOfDay
  nanos : cutoff.nanos = now.nanos

theorem commonYearBefore?_eq_some_iff : now.commonYearBefore? = some common ↔ common.IsCommonYearBefore now := by
  have := now.nanos_lt
  constructor
  · intro found
    simp only [commonYearBefore?] at found
    split at found <;> obtain ⟨seconds, nanos⟩ := of?_eq_some_iff.mp found <;>
      refine ⟨by omega, ?_⟩ <;> simp only [nanoCount, secondsPerDay] at * <;> omega
  · rintro ⟨regular, count⟩
    simp only [commonYearBefore?]
    split <;> rw [of?_eq_some_iff] <;> simp only [nanoCount, secondsPerDay] at * <;> omega

theorem commonYearBefore?_eq_none_iff :
    now.commonYearBefore? = none ↔ now.nanoCount - 365 * 86400 * 1000000000 < first.nanoCount := by
  have nanos_lt := now.nanos_lt
  have seconds_lt := now.seconds_lt
  obtain ⟨seconds, nanos⟩ := first_parts
  simp only [commonYearBefore?, nanoCount, seconds, nanos, secondsPerDay] at *
  split
  · rw [of?_eq_none_iff_lt (by omega) (by simp only [secondsPerDay]; omega), secondsPerDay]
    omega
  · rw [of?_eq_none_iff_lt (by omega) (by simp only [secondsPerDay]; omega), secondsPerDay]
    omega

theorem calendarYearBefore?_eq_some_iff :
    now.calendarYearBefore? = some cutoff ↔ cutoff.IsCalendarYearBefore now := by
  have date_of_seconds {date : Date} (seconds : cutoff.seconds = date.dayNumber * secondsPerDay + now.secondOfDay) :
      cutoff.date = date ∧ cutoff.secondOfDay = now.secondOfDay := by
    rw [date_eq_iff]
    simp only [dayNumber, secondOfDay, secondsPerDay] at seconds ⊢
    omega
  simp only [calendarYearBefore?, bind, Option.bind_eq_some_iff, Date.of?_eq_some_iff, of?_eq_some_iff,
    Date.min_day_yearBefore]
  constructor
  · rintro ⟨date, ⟨year, month, day⟩, seconds, nanos⟩
    obtain ⟨rfl, sameClock⟩ := date_of_seconds seconds
    exact ⟨year, month, day, sameClock, nanos⟩
  · rintro ⟨year, month, day, sameClock, nanos⟩
    refine ⟨cutoff.date, ⟨year, month, day⟩, ?_, nanos⟩
    rw [dayNumber_date, ← sameClock]
    simp only [dayNumber, secondOfDay, secondsPerDay]
    omega

theorem exists_calendarYearBefore_iff :
    (∃ cutoff : Instant, cutoff.IsCalendarYearBefore now) ↔ ∃ date : Date, date.year = now.date.year - 1 := by
  constructor
  · rintro ⟨cutoff, calendar⟩
    exact ⟨cutoff.date, calendar.year⟩
  · rintro ⟨before, year⟩
    let length := monthLength (now.date.year - 1) now.date.month
    have positive : 1 ≤ length := by
      simp only [length, monthLength]
      repeat' split
      all_goals omega
    let date : Date := ⟨now.date.year - 1, now.date.month, min now.date.day length, year ▸ before.year_ge,
      year ▸ before.year_le, now.date.month_ge, now.date.month_le, Nat.le_min.mpr ⟨now.date.day_ge, positive⟩,
      Nat.min_le_right _ _⟩
    have isDate : Date.of? (now.date.year - 1) now.date.month (min now.date.day length) = some date := date.of?_self
    cases found : now.calendarYearBefore? with
    | some cutoff => exact ⟨cutoff, calendarYearBefore?_eq_some_iff.mp found⟩
    | none =>
        -- A time of the day on a supported date is an instant, also in a leap second.
        simp only [calendarYearBefore?, bind, length, isDate, Option.bind_some, of?_eq_none_iff] at found
        have := now.nanos_lt
        have := now.leap
        have := date.dayNumber_ge
        have := date.dayNumber_le
        simp only [secondOfDay, secondsPerDay] at found
        omega

theorem IsCalendarYearBefore.dayNumber_le (calendar : cutoff.IsCalendarYearBefore now) :
    cutoff.dayNumber ≤ now.dayNumber - 365 := by
  have le : cutoff.date.day ≤ now.date.day := by
    rw [calendar.day]
    split <;> omega
  rw [← dayNumber_date, ← dayNumber_date, Date.dayNumber, Date.dayNumber, calendar.year, calendar.month]
  exact Date.dayCount_yearBefore_le _ _ le

-- Also by the count of nanoseconds, in which a leap second is the second after it.
theorem IsCalendarYearBefore.le (calendar : cutoff.IsCalendarYearBefore now) (days : common.IsCommonYearBefore now) :
    cutoff ≤ common ∧ cutoff.nanoCount ≤ common.nanoCount := by
  have earlier := calendar.dayNumber_le
  have sameClock := calendar.secondOfDay
  have sameNanos := calendar.nanos
  have regular := days.regular
  have count := days.count
  have := now.nanos_lt
  rw [le_def]
  simp only [dayNumber, Instant.secondOfDay, nanoCount, secondsPerDay] at *
  omega

theorem purgeCutoff?_eq_none_iff :
    now.purgeCutoff? = none ↔ now.nanoCount - 365 * 86400 * 1000000000 < first.nanoCount := by
  rw [purgeCutoff?, Option.map_eq_none_iff, commonYearBefore?_eq_none_iff]

structure IsCutoff (cutoff common now : Instant) : Prop where
  days : common.IsCommonYearBefore now
  le : cutoff ≤ common ∧ cutoff.nanoCount ≤ common.nanoCount
  calendar : (∃ date : Date, date.year = now.date.year - 1) → cutoff.IsCalendarYearBefore now
  fallback : (¬ ∃ date : Date, date.year = now.date.year - 1) → cutoff = common

theorem isCutoff_of_purgeCutoff? (found : now.purgeCutoff? = some cutoff) : ∃ common, cutoff.IsCutoff common now := by
  obtain ⟨common, isCommon, same⟩ := Option.map_eq_some_iff.mp found
  have days := commonYearBefore?_eq_some_iff.mp isCommon
  refine ⟨common, ?_⟩
  cases isCalendar : now.calendarYearBefore? with
  | some earlier =>
      rw [isCalendar] at same
      cases same
      have calendar := calendarYearBefore?_eq_some_iff.mp isCalendar
      exact ⟨days, calendar.le days, fun _ => calendar,
        fun unsupported => absurd (exists_calendarYearBefore_iff.mp ⟨_, calendar⟩) unsupported⟩
  | none =>
      rw [isCalendar] at same
      cases same
      refine ⟨days, ⟨le_def.mpr (.inr ⟨rfl, Nat.le_refl _⟩), Int.le_refl _⟩, fun supported => ?_, fun _ => rfl⟩
      obtain ⟨earlier, calendar⟩ := exists_calendarYearBefore_iff.mpr supported
      rw [calendarYearBefore?_eq_some_iff.mpr calendar] at isCalendar
      cases isCalendar

end Instant
end Datebook
