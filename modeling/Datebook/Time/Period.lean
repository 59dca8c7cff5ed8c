import Datebook.Time.Instant

set_option autoImplicit false

namespace Datebook

inductive Weekday where
  | monday
  | tuesday
  | wednesday
  | thursday
  | friday
  | saturday
  | sunday
  deriving DecidableEq

structure Period where
  first : Instant
  last : Instant
  deriving DecidableEq

namespace Date

theorem dayNumber_of_ofDayNumber? {number : Int} {date : Date} (found : ofDayNumber? number = some date) :
    date.dayNumber = number := by
  simp only [ofDayNumber?] at found
  split at found
  · cases found
    exact dayNumber_ofDayNumber _ _ _
  · cases found

def addDays? (date : Date) (days : Int) : Option Date := ofDayNumber? (date.dayNumber + days)

theorem dayNumber_addDays? {date later : Date} {days : Int} (found : date.addDays? days = some later) :
    later.dayNumber = date.dayNumber + days :=
  dayNumber_of_ofDayNumber? found

def daysSinceMonday (date : Date) : Nat := ((date.dayNumber + 3) % 7).toNat

def weekday (date : Date) : Weekday :=
  match date.daysSinceMonday with
  | 0 => .monday
  | 1 => .tuesday
  | 2 => .wednesday
  | 3 => .thursday
  | 4 => .friday
  | 5 => .saturday
  | _ => .sunday

def firstDayOfWeek (date : Date) : Option Date :=
  if date.daysSinceMonday = 0 then some date
  else
    match _found : date.addDays? (-1) with
    | none => none
    | some previous => firstDayOfWeek previous
  termination_by date.daysSinceMonday
  decreasing_by
    have := dayNumber_addDays? _found
    simp only [daysSinceMonday] at *
    omega

def lastDayOfWeek (date : Date) : Option Date := do
  (← date.firstDayOfWeek).addDays? 6

def firstDayOfMonth (date : Date) : Option Date := date.addDays? (1 - date.day)

def lastDayOfMonth (date : Date) : Date :=
  match _found : date.addDays? 1 with
  | none => date
  | some next => if next.month = date.month then lastDayOfMonth next else date
  termination_by (lastDayNumber - date.dayNumber).toNat
  decreasing_by
    have := dayNumber_addDays? _found
    have := next.dayNumber_le
    omega

def dayBounds (date : Date) : Option Period :=
  some ⟨date.startOfDay, date.endOfDay⟩

def weekBounds (date : Date) : Option Period := do
  return ⟨(← date.firstDayOfWeek).startOfDay, (← date.lastDayOfWeek).endOfDay⟩

def monthBounds (date : Date) : Option Period := do
  return ⟨(← date.firstDayOfMonth).startOfDay, date.lastDayOfMonth.endOfDay⟩

end Date
end Datebook
