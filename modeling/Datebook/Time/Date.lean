set_option autoImplicit false

namespace Datebook

def isLeapYear (year : Int) : Bool :=
  year % 4 = 0 && (year % 100 ≠ 0 || year % 400 = 0)

def monthLength (year : Int) (month : Nat) : Nat :=
  if month = 2 then
    if isLeapYear year then 29 else 28
  else if month = 4 ∨ month = 6 ∨ month = 9 ∨ month = 11 then 30
  else 31

theorem monthLength_le (year : Int) (month : Nat) : monthLength year month ≤ 31 := by
  unfold monthLength
  repeat' split
  all_goals omega

/-- Dates from 1 January -262143 to 31 December 262142. -/
structure Date where
  year : Int
  month : Nat
  day : Nat
  year_ge : -262143 ≤ year
  year_le : year ≤ 262142
  month_ge : 1 ≤ month
  month_le : month ≤ 12
  day_ge : 1 ≤ day
  day_le : day ≤ monthLength year month
  deriving DecidableEq

namespace Date

def of? (year : Int) (month day : Nat) : Option Date :=
  if valid : (-262143 ≤ year ∧ year ≤ 262142) ∧ (1 ≤ month ∧ month ≤ 12) ∧
      (1 ≤ day ∧ day ≤ monthLength year month) then
    some ⟨year, month, day, valid.1.1, valid.1.2, valid.2.1.1, valid.2.1.2, valid.2.2.1, valid.2.2.2⟩
  else none

theorem of?_self (date : Date) : of? date.year date.month date.day = some date := by
  simp [of?, date.year_ge, date.year_le, date.month_ge, date.month_le, date.day_ge, date.day_le]

theorem ext_fields {left right : Date} (year : left.year = right.year)
    (month : left.month = right.month) (day : left.day = right.day) : left = right := by
  cases left
  cases right
  simp_all

-- Years are counted from March, so that the leap day is the last day of its year.
def dayCount (year : Int) (month day : Nat) : Int :=
  let marchYear := if month ≤ 2 then year - 1 else year
  let marchMonth := (month + 9) % 12
  365 * marchYear + marchYear / 4 - marchYear / 100 + marchYear / 400
    + ((153 * marchMonth + 2) / 5 + day : Nat) - 719469

/-- Days since 1 January 1970. -/
def dayNumber (date : Date) : Int :=
  dayCount date.year date.month date.day

def firstDayNumber : Int := -96465292

def lastDayNumber : Int := 95026236

structure Fields where
  year : Int
  month : Nat
  day : Nat

/-- Year, month and day of a day number, by whole cycles of 400, 100, 4 years and one year. -/
def fieldsOfDayNumber (number : Int) : Fields :=
  let shifted := number + 719468
  let era := shifted / 146097
  let dayOfEra := (shifted % 146097).toNat
  let century := min 3 (dayOfEra / 36524)
  let dayOfCentury := dayOfEra - 36524 * century
  let cycle := dayOfCentury / 1461
  let dayOfCycle := dayOfCentury - 1461 * cycle
  let yearOfCycle := min 3 (dayOfCycle / 365)
  let dayOfYear := dayOfCycle - 365 * yearOfCycle
  let marchMonth := (5 * dayOfYear + 2) / 153
  let day := dayOfYear - (153 * marchMonth + 2) / 5 + 1
  let marchYear := 400 * era + (100 * century + 4 * cycle + yearOfCycle : Nat)
  if marchMonth < 10 then ⟨marchYear, marchMonth + 3, day⟩
  else ⟨marchYear + 1, marchMonth - 9, day⟩

-- What the cycles of a day number add up to; every fact about its fields is read off this.
theorem fieldsOfDayNumber_cycles (number : Int) :
    ∃ (era : Int) (century cycle yearOfCycle dayOfYear marchMonth : Nat),
      number = 146097 * era + (36524 * century + 1461 * cycle + 365 * yearOfCycle + dayOfYear : Nat) - 719468 ∧
      century ≤ 3 ∧ cycle ≤ 24 ∧ yearOfCycle ≤ 3 ∧ dayOfYear ≤ 365 ∧
      (dayOfYear = 365 → yearOfCycle = 3 ∧ (cycle = 24 → century = 3)) ∧
      marchMonth = (5 * dayOfYear + 2) / 153 ∧
      fieldsOfDayNumber number =
        if marchMonth < 10 then
          ⟨400 * era + (100 * century + 4 * cycle + yearOfCycle : Nat), marchMonth + 3,
            dayOfYear - (153 * marchMonth + 2) / 5 + 1⟩
        else
          ⟨400 * era + (100 * century + 4 * cycle + yearOfCycle : Nat) + 1, marchMonth - 9,
            dayOfYear - (153 * marchMonth + 2) / 5 + 1⟩ := by
  refine ⟨_, _, _, _, _, _, ?_, ?_, ?_, ?_, ?_, ?_, rfl, rfl⟩ <;> omega

theorem dayCount_fieldsOfDayNumber (number : Int) :
    dayCount (fieldsOfDayNumber number).year (fieldsOfDayNumber number).month
      (fieldsOfDayNumber number).day = number := by
  obtain ⟨era, century, cycle, yearOfCycle, dayOfYear, marchMonth, total, h1, h2, h3, h4, _, month, fields⟩ :=
    fieldsOfDayNumber_cycles number
  rw [fields]
  have fourth : (400 * era + (100 * century + 4 * cycle + yearOfCycle : Nat)) / 4
      = 100 * era + 25 * century + cycle := by omega
  have hundredth : (400 * era + (100 * century + 4 * cycle + yearOfCycle : Nat)) / 100
      = 4 * era + century := by omega
  have whole : (400 * era + (100 * century + 4 * cycle + yearOfCycle : Nat)) / 400 = era := by omega
  split
  · have later : ¬ marchMonth + 3 ≤ 2 := by omega
    have turned : (marchMonth + 3 + 9) % 12 = marchMonth := by omega
    simp only [dayCount, later, if_false, turned, fourth, hundredth, whole]
    omega
  · have earlier : marchMonth - 9 ≤ 2 := by omega
    have turned : (marchMonth - 9 + 9) % 12 = marchMonth := by omega
    simp only [dayCount, earlier, if_true, turned, Int.add_sub_cancel, fourth, hundredth, whole]
    omega

theorem fieldsOfDayNumber_valid {number : Int} (first : firstDayNumber ≤ number)
    (last : number ≤ lastDayNumber) :
    (-262143 ≤ (fieldsOfDayNumber number).year ∧ (fieldsOfDayNumber number).year ≤ 262142) ∧
      (1 ≤ (fieldsOfDayNumber number).month ∧ (fieldsOfDayNumber number).month ≤ 12) ∧
      (1 ≤ (fieldsOfDayNumber number).day ∧
        (fieldsOfDayNumber number).day
          ≤ monthLength (fieldsOfDayNumber number).year (fieldsOfDayNumber number).month) := by
  obtain ⟨era, century, cycle, yearOfCycle, dayOfYear, marchMonth, total, h1, h2, h3, h4, leapDay, month, fields⟩ :=
    fieldsOfDayNumber_cycles number
  unfold firstDayNumber at first
  unfold lastDayNumber at last
  rw [fields]
  split
  · refine ⟨by dsimp only; omega, by dsimp only; omega, by dsimp only; omega, ?_⟩
    simp only [monthLength]
    repeat' split
    all_goals omega
  · have notAfter : 400 * era + (100 * century + 4 * cycle + yearOfCycle : Nat) + 1 ≤ 262142 := by
      rcases Int.lt_or_le era 655 with h | h
      · omega
      · have : era = 655 := by omega
        subst this
        have : 100 * century + 4 * cycle + yearOfCycle ≤ 142 := by omega
        omega
    refine ⟨by dsimp only; omega, by dsimp only; omega, by dsimp only; omega, ?_⟩
    simp only [monthLength]
    split
    · have february : marchMonth = 11 := by omega
      subst february
      by_cases leap : dayOfYear = 365
      · obtain ⟨hy, hc⟩ := leapDay leap
        have : isLeapYear (400 * era + (100 * century + 4 * cycle + yearOfCycle : Nat) + 1) = true := by
          simp only [isLeapYear, Bool.and_eq_true, Bool.or_eq_true, decide_eq_true_eq]
          omega
        rw [this]
        simp only [if_true]
        omega
      · split <;> omega
    · repeat' split
      all_goals omega

def ofDayNumber (number : Int) (first : firstDayNumber ≤ number) (last : number ≤ lastDayNumber) : Date :=
  let fields := fieldsOfDayNumber number
  have valid := fieldsOfDayNumber_valid first last
  ⟨fields.year, fields.month, fields.day, valid.1.1, valid.1.2, valid.2.1.1, valid.2.1.2,
    valid.2.2.1, valid.2.2.2⟩

theorem dayNumber_ofDayNumber (number : Int) (first : firstDayNumber ≤ number)
    (last : number ≤ lastDayNumber) : (ofDayNumber number first last).dayNumber = number :=
  dayCount_fieldsOfDayNumber number

def ofDayNumber? (number : Int) : Option Date :=
  if inRange : firstDayNumber ≤ number ∧ number ≤ lastDayNumber then
    some (ofDayNumber number inRange.1 inRange.2)
  else none

-- The same cycles found again from the number they add up to.
theorem fieldsOfDayNumber_of_cycles (era : Int) {century cycle yearOfCycle dayOfYear : Nat}
    (h1 : century ≤ 3) (h2 : cycle ≤ 24) (h3 : yearOfCycle ≤ 3) (h4 : dayOfYear ≤ 365)
    (leapDay : dayOfYear = 365 → yearOfCycle = 3 ∧ (cycle = 24 → century = 3)) :
    fieldsOfDayNumber
        (146097 * era + (36524 * century + 1461 * cycle + 365 * yearOfCycle + dayOfYear : Nat) - 719468) =
      if (5 * dayOfYear + 2) / 153 < 10 then
        ⟨400 * era + (100 * century + 4 * cycle + yearOfCycle : Nat), (5 * dayOfYear + 2) / 153 + 3,
          dayOfYear - (153 * ((5 * dayOfYear + 2) / 153) + 2) / 5 + 1⟩
      else
        ⟨400 * era + (100 * century + 4 * cycle + yearOfCycle : Nat) + 1, (5 * dayOfYear + 2) / 153 - 9,
          dayOfYear - (153 * ((5 * dayOfYear + 2) / 153) + 2) / 5 + 1⟩ := by
  generalize total : 36524 * century + 1461 * cycle + 365 * yearOfCycle + dayOfYear = dayOfEra
  have bounded : dayOfEra < 146097 := by omega
  have whole : (146097 * era + (dayOfEra : Nat) - 719468 + 719468) / 146097 = era := by omega
  have rest : ((146097 * era + (dayOfEra : Nat) - 719468 + 719468) % 146097).toNat = dayOfEra := by omega
  have first : min 3 (dayOfEra / 36524) = century := by
    rcases Nat.lt_or_ge century 3 with h | h
    · have : 1461 * cycle + 365 * yearOfCycle + dayOfYear < 36524 := by
        by_cases leap : dayOfYear = 365
        · have := leapDay leap
          omega
        · omega
      omega
    · omega
  have second : (dayOfEra - 36524 * century) / 1461 = cycle := by omega
  have third : min 3 ((dayOfEra - 36524 * century - 1461 * cycle) / 365) = yearOfCycle := by
    rcases Nat.lt_or_ge yearOfCycle 3 with h | h
    · have : dayOfYear < 365 := by
        by_cases leap : dayOfYear = 365
        · have := leapDay leap
          omega
        · omega
      omega
    · omega
  have fourth : dayOfEra - 36524 * century - 1461 * cycle - 365 * yearOfCycle = dayOfYear := by omega
  simp only [fieldsOfDayNumber, whole, rest, first, second, third, fourth]

theorem dayOffset_bounds (date : Date) :
    (153 * ((date.month + 9) % 12) + 2) / 5 + date.day - 1 ≤ 365 ∧
      ((153 * ((date.month + 9) % 12) + 2) / 5 + date.day - 1 = 365 →
        date.month = 2 ∧ isLeapYear date.year = true) ∧
      (5 * ((153 * ((date.month + 9) % 12) + 2) / 5 + date.day - 1) + 2) / 153 = (date.month + 9) % 12 := by
  have ge := date.month_ge
  have le := date.month_le
  have dayGe := date.day_ge
  have dayLe := date.day_le
  generalize date.month = month at *
  generalize date.day = day at *
  have : month = 2 ∨ month = 1 ∨ month = 3 ∨ month = 4 ∨ month = 5 ∨ month = 6 ∨ month = 7 ∨
      month = 8 ∨ month = 9 ∨ month = 10 ∨ month = 11 ∨ month = 12 := by omega
  rcases this with february | others
  · subst february
    by_cases leap : isLeapYear date.year = true <;> simp [monthLength, leap] at dayLe ⊢ <;> omega
  · rcases others with h | h | h | h | h | h | h | h | h | h | h <;> subst h <;>
      simp [monthLength] at dayLe ⊢ <;> omega

theorem fieldsOfDayNumber_dayNumber (date : Date) :
    fieldsOfDayNumber date.dayNumber = ⟨date.year, date.month, date.day⟩ := by
  obtain ⟨bounded, leapDay, month⟩ := dayOffset_bounds date
  have ge := date.month_ge
  have le := date.month_le
  have dayGe := date.day_ge
  generalize marchYear : (if date.month ≤ 2 then date.year - 1 else date.year) = year
  have century : ((year % 400).toNat / 100) ≤ 3 := by omega
  have cycle : ((year % 400).toNat % 100 / 4) ≤ 24 := by omega
  have yearOfCycle : ((year % 400).toNat % 4) ≤ 3 := by omega
  have leap : (153 * ((date.month + 9) % 12) + 2) / 5 + date.day - 1 = 365 →
      (year % 400).toNat % 4 = 3 ∧
        ((year % 400).toNat % 100 / 4 = 24 → (year % 400).toNat / 100 = 3) := by
    intro last
    obtain ⟨february, leap⟩ := leapDay last
    rw [if_pos (by omega)] at marchYear
    simp only [isLeapYear, Bool.and_eq_true, Bool.or_eq_true, decide_eq_true_eq] at leap
    omega
  have found := fieldsOfDayNumber_of_cycles (year / 400) century cycle yearOfCycle bounded leap
  have total : date.dayNumber = 146097 * (year / 400) + (36524 * ((year % 400).toNat / 100)
      + 1461 * ((year % 400).toNat % 100 / 4) + 365 * ((year % 400).toNat % 4)
      + ((153 * ((date.month + 9) % 12) + 2) / 5 + date.day - 1) : Nat) - 719468 := by
    simp only [dayNumber, dayCount, marchYear]
    omega
  rw [total, found, month]
  have whole : 400 * (year / 400) + (100 * ((year % 400).toNat / 100)
      + 4 * ((year % 400).toNat % 100 / 4) + (year % 400).toNat % 4 : Nat) = year := by omega
  rw [whole]
  rcases Nat.lt_or_ge 2 date.month with later | earlier
  · rw [if_neg (by omega)] at marchYear
    have turned : (date.month + 9) % 12 = date.month - 3 := by omega
    rw [turned, if_pos (by omega)]
    simp only [Fields.mk.injEq]
    omega
  · rw [if_pos (by omega)] at marchYear
    have turned : (date.month + 9) % 12 = date.month + 9 := by omega
    rw [turned, if_neg (by omega)]
    simp only [Fields.mk.injEq]
    omega

theorem dayNumber_inj {left right : Date} (same : left.dayNumber = right.dayNumber) : left = right := by
  have fields := fieldsOfDayNumber_dayNumber left
  rw [same, fieldsOfDayNumber_dayNumber right] at fields
  simp only [Fields.mk.injEq] at fields
  exact ext_fields fields.1.symm fields.2.1.symm fields.2.2.symm

theorem yearDays_mono (left right : Int) (le : left ≤ right) :
    365 * left + left / 4 - left / 100 + left / 400
      ≤ 365 * right + right / 4 - right / 100 + right / 400 := by
  omega

theorem dayNumber_ge (date : Date) : firstDayNumber ≤ date.dayNumber := by
  have first := date.year_ge
  have := date.month_ge
  have := date.day_ge
  simp only [dayNumber, dayCount, firstDayNumber]
  split
  · have turned : (date.month + 9) % 12 = date.month + 9 := by omega
    have := yearDays_mono (-262144) (date.year - 1) (by omega)
    rw [turned]
    omega
  · have := yearDays_mono (-262143) (date.year) first
    omega

theorem dayNumber_le (date : Date) : date.dayNumber ≤ lastDayNumber := by
  have last := date.year_le
  have := date.month_le
  have := date.day_le
  have := monthLength_le date.year date.month
  have := dayOffset_bounds date
  simp only [dayNumber, dayCount, lastDayNumber]
  split
  · have := yearDays_mono (date.year - 1) (262141) (by omega)
    omega
  · have turned : (date.month + 9) % 12 = date.month - 3 := by omega
    have := yearDays_mono (date.year) (262142) last
    rw [turned]
    omega

theorem ofDayNumber?_dayNumber (date : Date) : ofDayNumber? date.dayNumber = some date := by
  rw [ofDayNumber?, dif_pos ⟨dayNumber_ge date, dayNumber_le date⟩]
  congr 1
  exact dayNumber_inj (dayNumber_ofDayNumber _ _ _)

end Date
end Datebook
