import Datebook.Service.Procedure

set_option autoImplicit false

namespace Datebook

namespace Date

instance : LE Date where
  le left right := left.dayNumber ≤ right.dayNumber

variable {date later other : Date}

theorem le_def : date ≤ other ↔ date.dayNumber ≤ other.dayNumber := Iff.rfl

theorem addDays?_eq_some_iff {days : Int} :
    date.addDays? days = some later ↔ later.dayNumber = date.dayNumber + days := by
  constructor
  · exact dayNumber_addDays?
  · intro same
    rw [addDays?, ← same, ofDayNumber?_dayNumber]

theorem addDays?_eq_none_iff {days : Int} : date.addDays? days = none ↔
    ¬ (firstDayNumber ≤ date.dayNumber + days ∧ date.dayNumber + days ≤ lastDayNumber) := by
  simp only [addDays?, ofDayNumber?, dite_eq_right_iff, reduceCtorEq, imp_false]

section Weeks

-- The number of the Monday on or before the date, which need not be that of a date.
def mondayNumber (date : Date) : Int := date.dayNumber - date.daysSinceMonday

theorem firstDayOfWeek_eq (date : Date) : date.firstDayOfWeek = date.addDays? (-date.daysSinceMonday) := by
  fun_induction firstDayOfWeek date with
  | case1 date isMonday =>
      rw [isMonday, addDays?_eq_some_iff.mpr]
      simp
  | case2 date notMonday isFirst =>
      rw [addDays?_eq_none_iff] at isFirst
      refine (addDays?_eq_none_iff.mpr ?_).symm
      have := date.dayNumber_le
      omega
  | case3 date notMonday previous found ih =>
      -- One step back is one day less to Monday, so the Monday in question stays the same.
      have before := dayNumber_addDays? found
      have fewer : (previous.daysSinceMonday : Int) = date.daysSinceMonday - 1 := by
        simp only [daysSinceMonday] at notMonday ⊢
        omega
      rw [ih, addDays?, addDays?, before, fewer]
      congr 1
      omega

theorem firstDayOfWeek_eq_some_iff : date.firstDayOfWeek = some other ↔ other.dayNumber = date.mondayNumber := by
  rw [firstDayOfWeek_eq, addDays?_eq_some_iff, mondayNumber, Int.sub_eq_add_neg]

theorem lastDayOfWeek_eq_some_iff : date.lastDayOfWeek = some other ↔
    other.dayNumber = date.mondayNumber + 6 ∧ firstDayNumber ≤ date.mondayNumber := by
  simp only [lastDayOfWeek, bind, Option.bind_eq_some_iff, firstDayOfWeek_eq_some_iff, addDays?_eq_some_iff]
  constructor
  · rintro ⟨first, isMonday, isSunday⟩
    have := first.dayNumber_ge
    exact ⟨by omega, by omega⟩
  · rintro ⟨isSunday, ge⟩
    have := other.dayNumber_le
    have le : date.mondayNumber ≤ lastDayNumber := by omega
    refine ⟨ofDayNumber date.mondayNumber ge le, dayNumber_ofDayNumber _ _ _, ?_⟩
    rw [isSunday, dayNumber_ofDayNumber]

theorem mondayNumber_eq_iff : date.mondayNumber = other.mondayNumber ↔
    date.mondayNumber ≤ other.dayNumber ∧ other.dayNumber ≤ date.mondayNumber + 6 := by
  simp only [mondayNumber, daysSinceMonday]
  omega

end Weeks

section Months

variable {day : Nat}

def withDay (date : Date) (day : Nat) (ge : 1 ≤ day) (le : day ≤ monthLength date.year date.month) : Date :=
  ⟨date.year, date.month, day, date.year_ge, date.year_le, date.month_ge, date.month_le, ge, le⟩

theorem dayNumber_withDay (ge : 1 ≤ day) (le : day ≤ monthLength date.year date.month) :
    (date.withDay day ge le).dayNumber = date.dayNumber + day - date.day := by
  simp only [dayNumber, dayCount, withDay]
  omega

theorem monthLength_ge (date : Date) : 1 ≤ monthLength date.year date.month :=
  Nat.le_trans date.day_ge date.day_le

def monthStart (date : Date) : Date := date.withDay 1 (Nat.le_refl 1) date.monthLength_ge

def monthEnd (date : Date) : Date :=
  date.withDay (monthLength date.year date.month) date.monthLength_ge (Nat.le_refl _)

theorem dayNumber_monthStart (date : Date) : date.monthStart.dayNumber = date.dayNumber + 1 - date.day :=
  dayNumber_withDay _ _

theorem dayNumber_monthEnd (date : Date) :
    date.monthEnd.dayNumber = date.dayNumber + monthLength date.year date.month - date.day :=
  dayNumber_withDay _ _

theorem firstDayOfMonth_eq (date : Date) : date.firstDayOfMonth = some date.monthStart := by
  rw [firstDayOfMonth, addDays?_eq_some_iff, dayNumber_monthStart]
  omega

theorem year_le_of_near (sameMonth : date.month = other.month) (near : other.dayNumber ≤ date.dayNumber + 300) :
    other.year ≤ date.year := by
  refine Int.not_lt.mp fun after => ?_
  have gap := yearDays_mono (date.year + 1) other.year (by omega)
  have gap' := yearDays_mono date.year (other.year - 1) (by omega)
  have := date.day_le
  have := monthLength_le date.year date.month
  have := other.day_ge
  simp only [dayNumber, dayCount, sameMonth] at near
  split at near <;> omega

theorem same_month_iff : date.year = other.year ∧ date.month = other.month ↔
    date.monthStart ≤ other ∧ other ≤ date.monthEnd := by
  rw [le_def, le_def, dayNumber_monthStart, dayNumber_monthEnd]
  constructor
  · rintro ⟨sameYear, sameMonth⟩
    have ge := other.day_ge
    have le := other.day_le
    rw [← sameYear, ← sameMonth] at le
    have apart : other.dayNumber - other.day = date.dayNumber - date.day := by
      simp only [dayNumber, dayCount, sameYear, sameMonth]
      omega
    omega
  · rintro ⟨since, upTo⟩
    -- The date as far from the start of the month is the other one.
    let day := (other.dayNumber - date.dayNumber + date.day).toNat
    have ge : 1 ≤ day := by omega
    have le : day ≤ monthLength date.year date.month := by omega
    have same : date.withDay day ge le = other := by
      apply dayNumber_inj
      rw [dayNumber_withDay]
      omega
    rw [← same]
    exact ⟨rfl, rfl⟩

theorem addDays?_one_of_lt (early : date.day < monthLength date.year date.month) :
    date.addDays? 1 = some (date.withDay (date.day + 1) (Nat.le_add_left _ _) early) := by
  rw [addDays?_eq_some_iff, dayNumber_withDay]
  omega

theorem lastDayOfMonth_eq (date : Date) : date.lastDayOfMonth = date.monthEnd := by
  have isEnd {date : Date} (last : ¬ date.day < monthLength date.year date.month) : date = date.monthEnd :=
    ext_fields rfl rfl (Nat.le_antisymm date.day_le (Nat.le_of_not_lt last))
  fun_induction lastDayOfMonth date with
  | case1 date isLast =>
      apply isEnd
      intro early
      cases isLast.symm.trans (addDays?_one_of_lt early)
  | case2 date next found sameMonth ih =>
      -- The month of that name that holds the next day can only be the same one.
      have after := dayNumber_addDays? found
      have sameYear : next.year = date.year := by
        have le := year_le_of_near sameMonth.symm (by omega : next.dayNumber ≤ date.dayNumber + 300)
        have ge := year_le_of_near sameMonth (by omega : date.dayNumber ≤ next.dayNumber + 300)
        omega
      have sameLength : monthLength next.year next.month = monthLength date.year date.month := by
        rw [sameYear, sameMonth]
      rw [ih]
      exact ext_fields sameYear sameMonth sameLength
  | case3 date next found otherMonth =>
      apply isEnd
      intro early
      cases found.symm.trans (addDays?_one_of_lt early)
      exact otherMonth rfl

end Months

end Date

namespace Instant

variable {time : Instant} {date : Date}

theorem date_eq_iff : time.date = date ↔ time.dayNumber = date.dayNumber := by
  rw [← time.dayNumber_date]
  exact ⟨congrArg Date.dayNumber, Date.dayNumber_inj⟩

theorem date_mono {other : Instant} (le : time ≤ other) : time.date ≤ other.date := by
  rw [le_def] at le
  rw [Date.le_def, dayNumber_date, dayNumber_date, dayNumber, dayNumber, secondsPerDay]
  omega

/-- A leap second with which the day ends. -/
def InClosingLeapSecond (time : Instant) : Prop := time.secondOfDay = 86399 ∧ 1000000000 ≤ time.nanos

theorem startOfDay_le_iff : date.startOfDay ≤ time ↔ date ≤ time.date := by
  rw [le_def, Date.le_def, dayNumber_date]
  simp only [Date.startOfDay, dayNumber, secondsPerDay]
  omega

theorem le_endOfDay_iff :
    time ≤ date.endOfDay ↔ time.date ≤ date ∧ ¬ (time.date = date ∧ time.InClosingLeapSecond) := by
  rw [le_def, Date.le_def, dayNumber_date, date_eq_iff]
  simp only [Date.endOfDay, InClosingLeapSecond, secondOfDay, dayNumber, secondsPerDay]
  omega

end Instant

namespace Service.PeriodKind

variable {kind : PeriodKind} {date : Date} {period : Period}

def Shares : PeriodKind → Date → Date → Prop
  | day, left, right => left = right
  | week, left, right => left.mondayNumber = right.mondayNumber
  | month, left, right => left.year = right.year ∧ left.month = right.month

theorem shares_refl (kind : PeriodKind) (date : Date) : kind.Shares date date := by
  cases kind with
  | day | week => exact rfl
  | month => exact ⟨rfl, rfl⟩

theorem exists_of_bounds (found : kind.bounds date = some period) :
    ∃ first last : Date, period = ⟨first.startOfDay, last.endOfDay⟩ ∧
      ∀ other, kind.Shares date other ↔ first ≤ other ∧ other ≤ last := by
  cases kind with
  | day =>
      cases found
      refine ⟨date, date, rfl, fun other => ?_⟩
      simp only [Shares, Date.le_def]
      constructor
      · rintro rfl
        exact ⟨Int.le_refl _, Int.le_refl _⟩
      · rintro ⟨since, upTo⟩
        exact Date.dayNumber_inj (Int.le_antisymm since upTo)
  | week =>
      simp only [bounds, Date.weekBounds, bind, Option.bind_eq_some_iff, Date.firstDayOfWeek_eq_some_iff,
        Date.lastDayOfWeek_eq_some_iff] at found
      obtain ⟨first, isMonday, last, ⟨isSunday, -⟩, same⟩ := found
      cases same
      refine ⟨first, last, rfl, fun other => ?_⟩
      rw [Shares, Date.mondayNumber_eq_iff, Date.le_def, Date.le_def, isMonday, isSunday]
  | month =>
      simp only [bounds, Date.monthBounds, Date.firstDayOfMonth_eq, Date.lastDayOfMonth_eq] at found
      cases found
      exact ⟨date.monthStart, date.monthEnd, rfl, fun other => Date.same_month_iff⟩

-- Only a week may reach past the first or the last date.
def Fits (kind : PeriodKind) (date : Date) : Prop :=
  kind = week → Date.firstDayNumber ≤ date.mondayNumber ∧ date.mondayNumber + 6 ≤ Date.lastDayNumber

theorem exists_bounds_iff : (∃ period, kind.bounds date = some period) ↔ kind.Fits date := by
  cases kind with
  | day => exact iff_of_true ⟨_, rfl⟩ (fun isWeek => by cases isWeek)
  | week =>
      constructor
      · rintro ⟨period, found⟩ -
        simp only [bounds, Date.weekBounds, bind, Option.bind_eq_some_iff, Date.lastDayOfWeek_eq_some_iff] at found
        obtain ⟨-, -, sunday, ⟨isSunday, ge⟩, -⟩ := found
        exact ⟨ge, isSunday ▸ sunday.dayNumber_le⟩
      · intro fits
        obtain ⟨ge, le⟩ := fits rfl
        have isMonday : date.firstDayOfWeek = some (.ofDayNumber date.mondayNumber ge (by omega)) :=
          Date.firstDayOfWeek_eq_some_iff.mpr (Date.dayNumber_ofDayNumber _ _ _)
        have isSunday : date.lastDayOfWeek = some (.ofDayNumber (date.mondayNumber + 6) (by omega) le) :=
          Date.lastDayOfWeek_eq_some_iff.mpr ⟨Date.dayNumber_ofDayNumber _ _ _, ge⟩
        simp only [bounds, Date.weekBounds, isMonday, isSunday]
        exact ⟨_, rfl⟩
  | month =>
      simp only [bounds, Date.monthBounds, Date.firstDayOfMonth_eq]
      exact iff_of_true ⟨_, rfl⟩ (fun isWeek => by cases isWeek)

end Service.PeriodKind
end Datebook
