import Mathlib.Data.Int.Interval
import Mathlib.Data.Set.Card
import Datebook.Proofs.CalendarPeriods

set_option autoImplicit false

namespace Datebook

namespace Date

variable {date first last : Date}

theorem daysSinceMonday_lt (date : Date) : date.daysSinceMonday < 7 := by
  simp only [daysSinceMonday]
  omega

theorem weekday_eq_monday_iff : date.weekday = .monday ↔ date.daysSinceMonday = 0 := by
  simp only [weekday]
  split <;> simp_all

theorem weekday_eq_sunday_iff : date.weekday = .sunday ↔ date.daysSinceMonday = 6 := by
  have := date.daysSinceMonday_lt
  simp only [weekday]
  split <;> simp_all
  omega

structure IsWeek (date monday sunday : Date) : Prop where
  begins : monday.weekday = .monday
  ends : sunday.weekday = .sunday
  since : monday ≤ date
  upTo : date ≤ sunday
  length : sunday.dayNumber = monday.dayNumber + 6

theorem isWeek_iff : date.IsWeek first last ↔
    first.dayNumber = date.mondayNumber ∧ last.dayNumber = date.mondayNumber + 6 := by
  constructor
  · rintro ⟨begins, -, since, upTo, length⟩
    rw [weekday_eq_monday_iff] at begins
    rw [le_def] at since upTo
    simp only [mondayNumber, daysSinceMonday] at *
    omega
  · rintro ⟨isMonday, isSunday⟩
    refine ⟨weekday_eq_monday_iff.mpr ?_, weekday_eq_sunday_iff.mpr ?_, le_def.mpr ?_, le_def.mpr ?_, by omega⟩ <;>
      simp only [mondayNumber, daysSinceMonday] at * <;> omega

structure IsMonth (date first last : Date) : Prop where
  firstYear : first.year = date.year
  firstMonth : first.month = date.month
  firstDay : first.day = 1
  lastYear : last.year = date.year
  lastMonth : last.month = date.month
  lastDay : last.day = monthLength date.year date.month

theorem isMonth_iff : date.IsMonth first last ↔ first = date.monthStart ∧ last = date.monthEnd := by
  constructor
  · rintro ⟨firstYear, firstMonth, firstDay, lastYear, lastMonth, lastDay⟩
    exact ⟨ext_fields firstYear firstMonth firstDay, ext_fields lastYear lastMonth lastDay⟩
  · rintro ⟨rfl, rfl⟩
    exact ⟨rfl, rfl, rfl, rfl, rfl, rfl⟩

theorem ncard_between (first last : Date) :
    {date : Date | first ≤ date ∧ date ≤ last}.ncard = (last.dayNumber + 1 - first.dayNumber).toNat := by
  have numbers : dayNumber '' {date : Date | first ≤ date ∧ date ≤ last} =
      Set.Icc first.dayNumber last.dayNumber := by
    ext number
    constructor
    · rintro ⟨date, between, rfl⟩
      exact between
    · rintro ⟨since, upTo⟩
      have isDate := dayNumber_ofDayNumber number (Int.le_trans first.dayNumber_ge since)
        (Int.le_trans upTo last.dayNumber_le)
      refine ⟨_, ⟨?_, ?_⟩, isDate⟩ <;> rw [le_def, isDate] <;> assumption
  rw [← Set.ncard_image_of_injective _ fun _ _ => dayNumber_inj, numbers, Set.ncard_eq_toFinset_card']
  simp

section Walks

/-- A loop over dates that goes on while its body gives another date. -/
inductive Walk (body : Date → Option Date ⊕ Date) : Nat → Date → Option Date → Prop where
  | stop {date : Date} {found : Option Date} (ends : body date = .inl found) : Walk body 0 date found
  | step {count : Nat} {date next : Date} {found : Option Date} (goesOn : body date = .inr next)
      (rest : Walk body count next found) : Walk body (count + 1) date found

def stepBack (date : Date) : Option Date ⊕ Date :=
  if date.weekday = .monday then .inl (some date)
  else
    match date.addDays? (-1) with
    | none => .inl none
    | some previous => .inr previous

def stepForward (month : Nat) (date : Date) : Option Date ⊕ Date :=
  match date.addDays? 1 with
  | none => .inl (some date)
  | some next => if next.month = month then .inr next else .inl (some date)

theorem walk_firstDayOfWeek (date : Date) :
    ∃ count ≤ date.daysSinceMonday, Walk stepBack count date date.firstDayOfWeek := by
  fun_induction firstDayOfWeek date with
  | case1 date isMonday =>
      refine ⟨0, Nat.zero_le _, .stop ?_⟩
      simp [stepBack, weekday_eq_monday_iff, isMonday]
  | case2 date notMonday isFirst =>
      refine ⟨0, Nat.zero_le _, .stop ?_⟩
      simp [stepBack, weekday_eq_monday_iff, notMonday, isFirst]
  | case3 date notMonday previous found ih =>
      obtain ⟨count, few, walk⟩ := ih
      have before := dayNumber_addDays? found
      refine ⟨count + 1, ?_, .step ?_ walk⟩
      · simp only [daysSinceMonday] at few notMonday ⊢
        omega
      · simp [stepBack, weekday_eq_monday_iff, notMonday, found]

theorem Walk.dayNumber_eq {month count : Nat} (walk : Walk (stepForward month) count date (some last)) :
    last.dayNumber = date.dayNumber + count := by
  generalize ended : some last = found at walk
  induction walk with
  | stop ends =>
      subst ended
      simp only [stepForward] at ends
      repeat' split at ends
      all_goals cases ends
      all_goals omega
  | step goesOn rest ih =>
      simp only [stepForward] at goesOn
      repeat' split at goesOn
      all_goals cases goesOn
      next found _ =>
        have after := dayNumber_addDays? found
        have := ih ended
        omega

theorem walk_lastDayOfMonth (date : Date) :
    ∃ count ≤ 30, Walk (stepForward date.month) count date (some date.lastDayOfMonth) := by
  have walks : ∃ count, Walk (stepForward date.month) count date (some date.lastDayOfMonth) := by
    fun_induction lastDayOfMonth date with
    | case1 date isLast => exact ⟨0, .stop (by simp [stepForward, isLast])⟩
    | case2 date next found sameMonth ih =>
        -- The month that the loop compares with is that of its first date, and stays so.
        rw [sameMonth] at ih
        obtain ⟨count, walk⟩ := ih
        exact ⟨count + 1, .step (by simp [stepForward, found, sameMonth]) walk⟩
    | case3 date next found otherMonth => exact ⟨0, .stop (by simp [stepForward, found, otherMonth])⟩
  obtain ⟨count, walk⟩ := walks
  refine ⟨count, ?_, walk⟩
  have steps := walk.dayNumber_eq
  rw [lastDayOfMonth_eq, dayNumber_monthEnd] at steps
  have := monthLength_le date.year date.month
  have := date.day_ge
  omega

end Walks

end Date

structure Period.Covers (period : Period) (first last : Date) : Prop where
  firstDate : period.first.date = first
  midnight : period.first.secondOfDay = 0 ∧ period.first.nanos = 0
  lastDate : period.last.date = last
  lastNano : period.last.secondOfDay = 86399 ∧ period.last.nanos = 999999999

def Period.Has (period : Period) (time : Instant) : Prop := period.first ≤ time ∧ time ≤ period.last

namespace Instant

variable {time other : Instant}

theorem ext_clock (date : time.date = other.date) (secondOfDay : time.secondOfDay = other.secondOfDay)
    (nanos : time.nanos = other.nanos) : time = other := by
  refine ext_pair ?_ nanos
  rw [date_eq_iff, dayNumber_date] at date
  simp only [Instant.dayNumber, Instant.secondOfDay, secondsPerDay] at date secondOfDay
  omega

theorem date_startOfDay (date : Date) : date.startOfDay.date = date := by
  simp only [date_eq_iff, dayNumber, Date.startOfDay, secondsPerDay]
  omega

theorem date_endOfDay (date : Date) : date.endOfDay.date = date := by
  simp only [date_eq_iff, dayNumber, Date.endOfDay, secondsPerDay]
  omega

end Instant

theorem Period.covers_iff {period : Period} {first last : Date} :
    period.Covers first last ↔ period = ⟨first.startOfDay, last.endOfDay⟩ := by
  have midnight (date : Date) : date.startOfDay.secondOfDay = 0 := by
    simp only [Date.startOfDay, Instant.secondOfDay, secondsPerDay]
    omega
  have lastSecond (date : Date) : date.endOfDay.secondOfDay = 86399 := by
    simp only [Date.endOfDay, Instant.secondOfDay, secondsPerDay]
    omega
  constructor
  · rintro ⟨firstDate, ⟨second, nanos⟩, lastDate, ⟨second', nanos'⟩⟩
    obtain ⟨start, finish⟩ := period
    rw [Period.mk.injEq]
    constructor
    · exact Instant.ext_clock (firstDate.trans (Instant.date_startOfDay first).symm)
        (second.trans (midnight first).symm) nanos
    · exact Instant.ext_clock (lastDate.trans (Instant.date_endOfDay last).symm)
        (second'.trans (lastSecond last).symm) nanos'
  · rintro rfl
    exact ⟨Instant.date_startOfDay first, ⟨midnight first, rfl⟩, Instant.date_endOfDay last, lastSecond last, rfl⟩

namespace Service.PeriodKind

variable {kind : PeriodKind} {date other first last : Date} {period period' : Period}

def Spans : PeriodKind → Date → Date → Date → Prop
  | day, date, first, last => first = date ∧ last = date
  | week, date, first, last => date.IsWeek first last
  | month, date, first, last => date.IsMonth first last

theorem bounds_eq_some_iff : kind.bounds date = some period ↔
    ∃ first last, kind.Spans date first last ∧ period.Covers first last := by
  simp only [Period.covers_iff]
  cases kind with
  | day =>
      simp [bounds, Date.dayBounds, Spans, eq_comm]
  | week =>
      simp only [bounds, Date.weekBounds, Spans, Date.isWeek_iff, bind, Option.bind_eq_some_iff,
        Date.firstDayOfWeek_eq_some_iff, Date.lastDayOfWeek_eq_some_iff]
      constructor
      · rintro ⟨first, isMonday, last, ⟨isSunday, -⟩, same⟩
        cases same
        exact ⟨first, last, ⟨isMonday, isSunday⟩, rfl⟩
      · rintro ⟨first, last, ⟨isMonday, isSunday⟩, rfl⟩
        exact ⟨first, isMonday, last, ⟨isSunday, isMonday ▸ first.dayNumber_ge⟩, rfl⟩
  | month =>
      simp [bounds, Date.monthBounds, Spans, Date.isMonth_iff, Date.firstDayOfMonth_eq, Date.lastDayOfMonth_eq,
        eq_comm]

theorem Spans.shares_iff (spans : kind.Spans date first last) (other : Date) :
    kind.Shares date other ↔ first ≤ other ∧ other ≤ last := by
  have found := bounds_eq_some_iff.mpr ⟨first, last, spans, Period.covers_iff.mpr rfl⟩
  obtain ⟨first', last', same, shares⟩ := exists_of_bounds found
  rw [Period.mk.injEq] at same
  have sameFirst := congrArg Instant.date same.1
  have sameLast := congrArg Instant.date same.2
  rw [Instant.date_startOfDay, Instant.date_startOfDay] at sameFirst
  rw [Instant.date_endOfDay, Instant.date_endOfDay] at sameLast
  rw [sameFirst, sameLast]
  exact shares other

theorem Spans.has_date (spans : kind.Spans date first last) : first ≤ date ∧ date ≤ last :=
  (spans.shares_iff date).mp (kind.shares_refl date)

theorem Shares.iff (shares : kind.Shares date other) (third : Date) :
    kind.Shares date third ↔ kind.Shares other third := by
  cases kind with
  | day | week =>
      simp only [Shares] at *
      rw [shares]
  | month =>
      simp only [Shares] at *
      rw [shares.1, shares.2]

theorem Shares.symm (shares : kind.Shares date other) : kind.Shares other date :=
  (shares.iff date).mp (kind.shares_refl date)

def length : PeriodKind → Date → Nat
  | day, _ => 1
  | week, _ => 7
  | month, date => monthLength date.year date.month

theorem Spans.ncard (spans : kind.Spans date first last) :
    {other : Date | kind.Shares date other}.ncard = kind.length date := by
  simp only [spans.shares_iff, Date.ncard_between]
  cases kind with
  | day =>
      obtain ⟨rfl, rfl⟩ := spans
      simp [length]
  | week =>
      have := spans.length
      simp only [length]
      omega
  | month =>
      obtain ⟨rfl, rfl⟩ := Date.isMonth_iff.mp spans
      simp only [length, Date.dayNumber_monthStart, Date.dayNumber_monthEnd]
      omega

section Bounds

variable (found : kind.bounds date = some period) (found' : kind.bounds other = some period')

include found in
theorem shares_of_has {time : Instant} (inside : period.Has time) : kind.Shares date time.date := by
  obtain ⟨first, last, spans, covers⟩ := bounds_eq_some_iff.mp found
  obtain rfl := Period.covers_iff.mp covers
  exact (spans.shares_iff _).mpr ⟨Instant.startOfDay_le_iff.mp inside.1, (Instant.le_endOfDay_iff.mp inside.2).1⟩

include found in
theorem has_of_bounds : period.Has date.startOfDay ∧ period.Has date.endOfDay := by
  obtain ⟨first, last, spans, covers⟩ := bounds_eq_some_iff.mp found
  obtain rfl := Period.covers_iff.mp covers
  obtain ⟨since, upTo⟩ := spans.has_date
  simp only [Period.Has, Instant.le_def, Date.startOfDay, Date.endOfDay, secondsPerDay]
  rw [Date.le_def] at since upTo
  omega

include found found' in
theorem eq_iff_shares : period = period' ↔ kind.Shares date other := by
  constructor
  · rintro rfl
    have inside := shares_of_has found (has_of_bounds found').1
    rwa [Instant.date_startOfDay] at inside
  · intro shares
    obtain ⟨first, last, spans, covers⟩ := bounds_eq_some_iff.mp found
    obtain ⟨first', last', spans', covers'⟩ := bounds_eq_some_iff.mp found'
    -- Each of the four dates lies between the two of the other period.
    have between (third : Date) : first ≤ third ∧ third ≤ last ↔ first' ≤ third ∧ third ≤ last' := by
      rw [← spans.shares_iff, ← spans'.shares_iff, shares.iff]
    have := spans.has_date
    have := spans'.has_date
    have := between first
    have := between last
    have := between first'
    have := between last'
    simp only [Date.le_def] at *
    have sameFirst : first = first' := Date.dayNumber_inj (by omega)
    have sameLast : last = last' := Date.dayNumber_inj (by omega)
    rw [Period.covers_iff.mp covers, Period.covers_iff.mp covers', sameFirst, sameLast]

include found found' in
theorem disjoint_of_not_shares (apart : ¬ kind.Shares date other) (time : Instant) :
    ¬ (period.Has time ∧ period'.Has time) := by
  rintro ⟨inside, inside'⟩
  have shares := shares_of_has found inside
  exact apart ((shares.iff other).mpr (shares_of_has found' inside').symm)

end Bounds

structure Divides (kind : PeriodKind) : Prop where
  bounds_iff : ∀ date period, kind.bounds date = some period ↔
    ∃ first last, kind.Spans date first last ∧ period.Covers first last
  bounded_iff : ∀ date, (∃ period, kind.bounds date = some period) ↔
    (kind = week → ∃ monday sunday, date.IsWeek monday sunday)
  between : ∀ date first last, kind.Spans date first last →
    ∀ other, kind.Shares date other ↔ first ≤ other ∧ other ≤ last
  count : ∀ date first last, kind.Spans date first last → {other | kind.Shares date other}.ncard = kind.length date
  inside : ∀ date period, kind.bounds date = some period → period.Has date.startOfDay ∧ period.Has date.endOfDay
  same_iff : ∀ date other period period', kind.bounds date = some period → kind.bounds other = some period' →
    (period = period' ↔ kind.Shares date other)
  disjoint : ∀ date other period period', kind.bounds date = some period → kind.bounds other = some period' →
    ¬ kind.Shares date other → ∀ time, ¬ (period.Has time ∧ period'.Has time)

theorem divides (kind : PeriodKind) : kind.Divides where
  bounds_iff _ _ := bounds_eq_some_iff
  bounded_iff date := by
    cases kind with
    | day | month => exact exists_bounds_iff.trans (by simp [Fits])
    | week =>
        simp only [bounds_eq_some_iff, Spans, forall_const]
        constructor
        · rintro ⟨period, monday, sunday, isWeek, -⟩
          exact ⟨monday, sunday, isWeek⟩
        · rintro ⟨monday, sunday, isWeek⟩
          exact ⟨_, monday, sunday, isWeek, Period.covers_iff.mpr rfl⟩
  between _ _ _ spans := spans.shares_iff
  count _ _ _ spans := spans.ncard
  inside _ _ found := has_of_bounds found
  same_iff _ _ _ _ found found' := eq_iff_shares found found'
  disjoint _ _ _ _ found found' apart := disjoint_of_not_shares found found' apart

end Service.PeriodKind

theorem periods_partition : (∀ kind : Service.PeriodKind, kind.Divides) ∧
    (∀ date : Date, ∃ count ≤ 6, Date.Walk Date.stepBack count date date.firstDayOfWeek) ∧
    ∀ date : Date, ∃ count ≤ 30, Date.Walk (Date.stepForward date.month) count date (some date.lastDayOfMonth) := by
  refine ⟨Service.PeriodKind.divides, fun date => ?_, Date.walk_lastDayOfMonth⟩
  obtain ⟨count, few, walk⟩ := date.walk_firstDayOfWeek
  have := date.daysSinceMonday_lt
  exact ⟨count, by omega, walk⟩

end Datebook
