import Datebook.Event.Rules
import Datebook.Proofs.Replies
import Datebook.Proofs.TableLedger

set_option autoImplicit false

namespace Datebook

open Store

namespace Instant

theorem value_toNanoCount (time : Instant) : time.toNanoCount.value =
    max NanoCount.least.value (min time.nanoCount NanoCount.greatest.value) := by
  simp only [toNanoCount, toNanoCount?, NanoCount.least, NanoCount.greatest]
  split
  · simp only [Option.getD_some]
    omega
  · have count : time.nanoCount = time.seconds * 1000000000 + time.nanos := rfl
    have nanos := time.nanos_lt
    simp only [Option.getD_none]
    split <;> simp only [] <;> omega

end Instant

namespace NanoCount

variable {count : NanoCount} {time : Instant}

theorem toInstant_le_iff_nanoCount (regular : time.nanos < 1000000000) :
    count.toInstant ≤ time ↔ count.value ≤ time.nanoCount := by
  simp only [Instant.le_def, toInstant, Instant.nanoCount]
  omega

theorem le_toInstant_iff_nanoCount (regular : time.nanos < 1000000000) :
    time ≤ count.toInstant ↔ time.nanoCount ≤ count.value := by
  simp only [Instant.le_def, toInstant, Instant.nanoCount]
  omega

theorem toInstant_lt_iff_nanoCount (regular : time.nanos < 1000000000) :
    count.toInstant < time ↔ count.value < time.nanoCount := by
  simp only [Instant.lt_def, toInstant, Instant.nanoCount]
  omega

theorem lt_toInstant_iff_nanoCount (regular : time.nanos < 1000000000) :
    time < count.toInstant ↔ time.nanoCount < count.value := by
  simp only [Instant.lt_def, toInstant, Instant.nanoCount]
  omega

theorem eq_iff_value {left right : NanoCount} : left = right ↔ left.value = right.value := by
  cases left
  cases right
  simp

theorem toInstant_le_rounded_iff (regular : time.nanos < 1000000000) :
    count.toInstant ≤ time.rounded ↔ count.toInstant ≤ time ∨ count = least ∧ time < least.toInstant := by
  have above := count.value_ge
  have below := count.value_le
  rw [Instant.rounded, toInstant_le_iff, toInstant_le_iff_nanoCount regular,
    lt_toInstant_iff_nanoCount regular, eq_iff_value, time.value_toNanoCount]
  simp only [least, greatest]
  omega

theorem rounded_le_toInstant_iff (regular : time.nanos < 1000000000) :
    time.rounded ≤ count.toInstant ↔ time ≤ count.toInstant ∨ count = greatest ∧ greatest.toInstant < time := by
  have above := count.value_ge
  have below := count.value_le
  rw [Instant.rounded, toInstant_le_iff, le_toInstant_iff_nanoCount regular,
    toInstant_lt_iff_nanoCount regular, eq_iff_value, time.value_toNanoCount]
  simp only [least, greatest]
  omega

end NanoCount

structure Comparison where
  upTo : Instant → Instant → Bool
  since : Instant → Instant → Bool

namespace Comparison

def exact : Comparison where
  upTo time bound := decide (time ≤ bound)
  since time bound := decide (bound ≤ time)

/-- A bound before all stored times is not told from the least of them, nor one after them from the
greatest. -/
def clamped : Comparison where
  upTo time bound := exact.upTo time bound || decide (time = NanoCount.least.toInstant ∧ bound < time)
  since time bound := exact.since time bound || decide (time = NanoCount.greatest.toInstant ∧ time < bound)

variable {count : NanoCount} {bound : Instant}

theorem upTo_clamped (regular : bound.nanos < 1000000000) :
    clamped.upTo count.toInstant bound = decide (count.toInstant ≤ bound.rounded) := by
  have same : (count.toInstant = NanoCount.least.toInstant ∧ bound < count.toInstant) ↔
      (count = .least ∧ bound < NanoCount.least.toInstant) := by
    rw [NanoCount.toInstant_inj]
    constructor <;> rintro ⟨rfl, beyond⟩ <;> exact ⟨rfl, beyond⟩
  simp only [clamped, exact, same, NanoCount.toInstant_le_rounded_iff regular, Bool.decide_or]

theorem since_clamped (regular : bound.nanos < 1000000000) :
    clamped.since count.toInstant bound = decide (bound.rounded ≤ count.toInstant) := by
  have same : (count.toInstant = NanoCount.greatest.toInstant ∧ count.toInstant < bound) ↔
      (count = .greatest ∧ NanoCount.greatest.toInstant < bound) := by
    rw [NanoCount.toInstant_inj]
    constructor <;> rintro ⟨rfl, beyond⟩ <;> exact ⟨rfl, beyond⟩
  simp only [clamped, exact, same, NanoCount.rounded_le_toInstant_iff regular, Bool.decide_or]

end Comparison

namespace Database

variable {database : Database}

theorem answer_of_connected (connected : database.connected = true) {request : Request}
    (storable : precheck request = .ok ()) : database.answer request =
      ((database.table.answer request).1, { database with table := (database.table.answer request).2 }) := by
  simp [answer, storable, connected]

def Ready (database : Database) : Prop := database.connected = true ∧ database.table.Sound

theorem ready_of_connect {medium : Medium} (fresh : (create medium).connect = (.ok (), database)) :
    database.Ready := by
  cases medium <;> cases fresh <;> exact ⟨rfl, Table.sound_empty⟩

theorem Ready.answer (ready : database.Ready) (request : Request) : (database.answer request).2.Ready := by
  simp only [Database.answer]
  split
  · exact ready
  · rw [if_pos ready.1]
    exact ⟨ready.1, ready.2.answer request⟩

theorem Ready.replies (ready : database.Ready) (requests : List Request) :
    (replies Database.answer requests database).2.Ready :=
  replies_keep (fun _ (state : Database) => state.Ready) (fun request _ _ ready => ready.answer request) ready

def events (database : Database) : List Event := database.table.ledger.events

theorem filter_events {condition condition' : Event → Bool}
    (agrees : ∀ row : Row, condition row.toEvent = condition' row.toEvent) :
    database.events.filter condition = database.events.filter condition' := by
  apply List.filter_congr
  intro event member
  obtain ⟨row, -, rfl⟩ := List.mem_map.mp member
  exact agrees row

/-- Queries and purges compare every stored event with their bounds in this way. Leap seconds, which
the database does not keep, are no bounds. -/
structure ComparesBy (database : Database) (comparison : Comparison) : Prop where
  listRange : ∀ userId first last, first.nanos < 1000000000 → last.nanos < 1000000000 →
    (database.answer (.listRange userId first last)).1 = .ok (Event.sort (database.events.filter fun event =>
      event.userId = userId && (comparison.upTo event.onTime last && comparison.since event.offTime first)))
  listDue : ∀ cutoff, cutoff.nanos < 1000000000 →
    (database.answer (.listDue cutoff)).1 = .ok (Event.sort (database.events.filter fun event =>
      ! event.notified && event.notifyTime.any fun time => comparison.upTo time cutoff))
  purge : ∀ cutoff, cutoff.nanos < 1000000000 →
    (database.answer (.purge cutoff)).1 =
        .ok (database.events.countP fun event => ! comparison.since event.offTime cutoff) ∧
      (database.answer (.purge cutoff)).2.events =
        database.events.filter fun event => comparison.since event.offTime cutoff

theorem Ready.comparesClamped (ready : database.Ready) : database.ComparesBy .clamped := by
  obtain ⟨connected, sound⟩ := ready
  have answered (request : Request) (storable : precheck request = .ok ()) (inserts : request.isInsert = false) :
      (database.answer request).1 = (database.table.ledger.answer Instant.rounded request).1 ∧
        (database.answer request).2.events = (database.table.ledger.answer Instant.rounded request).2.events := by
    rw [answer_of_connected connected storable,
      sound.answer_ledger storable fun isInsert => absurd (inserts.symm.trans isInsert) (by decide)]
    exact ⟨rfl, rfl⟩
  refine ⟨?_, ?_, ?_⟩
  · intro userId first last regularFirst regularLast
    rw [(answered (.listRange userId first last) rfl rfl).1]
    refine congrArg (fun events => Except.ok (Event.sort events)) (filter_events fun row => ?_)
    change (_ && (decide (row.onTime.toInstant ≤ last.rounded) && decide (first.rounded ≤ row.offTime.toInstant))) =
      (_ && (Comparison.clamped.upTo row.onTime.toInstant last && Comparison.clamped.since row.offTime.toInstant first))
    rw [Comparison.upTo_clamped regularLast, Comparison.since_clamped regularFirst]
  · intro cutoff regular
    rw [(answered (.listDue cutoff) rfl rfl).1]
    refine congrArg (fun events => Except.ok (Event.sort events)) (filter_events fun row => ?_)
    simp only [Event.isDue, Row.toEvent, Option.any_map, Comparison.upTo_clamped regular]
  · intro cutoff regular
    obtain ⟨result, after⟩ := answered (.purge cutoff) rfl rfl
    have stale (row : Row) : decide (row.toEvent.offTime < cutoff.rounded) =
        ! Comparison.clamped.since row.toEvent.offTime cutoff := by
      simp only [Row.toEvent, Comparison.since_clamped regular, ← Instant.not_le_iff_lt, decide_not]
    rw [result, after]
    simp only [Ledger.answer, Ledger.keep, Except.ok.injEq, List.countP_eq_length_filter]
    refine ⟨congrArg List.length (filter_events stale), filter_events fun row => ?_⟩
    rw [stale, Bool.not_not]

/-- Whether one of the times with which queries compare is the least or the greatest that can be stored,
on the side on which a bound is clamped to it. -/
def IsOnLimit (event : Event) : Prop :=
  event.onTime = NanoCount.least.toInstant ∨ event.offTime = NanoCount.greatest.toInstant ∨
    event.notified = false ∧ event.notifyTime = some NanoCount.least.toInstant

theorem Ready.comparesExactly (ready : database.Ready) (inside : ∀ event ∈ database.events, ¬ IsOnLimit event) :
    database.ComparesBy .exact := by
  have clamped := ready.comparesClamped
  have upTo (event : Event) (member : event ∈ database.events) (bound : Instant) :
      Comparison.clamped.upTo event.onTime bound = Comparison.exact.upTo event.onTime bound := by
    have different : event.onTime ≠ NanoCount.least.toInstant := fun same => inside event member (.inl same)
    simp [Comparison.clamped, different]
  have since (event : Event) (member : event ∈ database.events) (bound : Instant) :
      Comparison.clamped.since event.offTime bound = Comparison.exact.since event.offTime bound := by
    have different : event.offTime ≠ NanoCount.greatest.toInstant :=
      fun same => inside event member (.inr (.inl same))
    simp [Comparison.clamped, different]
  refine ⟨?_, ?_, ?_⟩
  · intro userId first last regularFirst regularLast
    rw [clamped.listRange userId first last regularFirst regularLast]
    refine congrArg (fun events => Except.ok (Event.sort events)) (List.filter_congr fun event member => ?_)
    rw [upTo event member, since event member]
  · intro cutoff regular
    rw [clamped.listDue cutoff regular]
    refine congrArg (fun events => Except.ok (Event.sort events)) (List.filter_congr fun event member => ?_)
    have notLeast (unsent : event.notified = false) : event.notifyTime ≠ some NanoCount.least.toInstant :=
      fun same => inside event member (.inr (.inr ⟨unsent, same⟩))
    cases unsent : event.notified <;> cases due : event.notifyTime <;> simp_all [Comparison.clamped]
  · intro cutoff regular
    obtain ⟨count, kept⟩ := clamped.purge cutoff regular
    rw [count, kept]
    refine ⟨congrArg Except.ok (List.countP_congr fun event member => ?_),
      List.filter_congr fun event member => since event member cutoff⟩
    rw [since event member]

theorem of_sort_filter_eq {events : List Event} {condition condition' : Event → Bool}
    (same : Event.sort (events.filter condition) = Event.sort (events.filter condition')) {event : Event}
    (member : event ∈ events) (meets : condition event = true) : condition' event = true := by
  have listed : event ∈ Event.sort (events.filter condition) :=
    (Event.sort_perm _).mem_iff.mpr (List.mem_filter.mpr ⟨member, meets⟩)
  rw [same] at listed
  exact (List.mem_filter.mp ((Event.sort_perm _).mem_iff.mp listed)).2

-- The year 1600, before all that can be stored.
def early : Instant := (Instant.of? (-11676096000) 0).get (by decide)

-- The year 2300, after all that can be stored.
def late : Instant := (Instant.of? 10413792000 0).get (by decide)

theorem early_lt (count : NanoCount) : early < count.toInstant := by
  have below : early.nanoCount < -9223372036854775808 := by decide
  rw [NanoCount.lt_toInstant_iff_nanoCount (by decide)]
  exact Int.lt_of_lt_of_le below count.value_ge

theorem lt_late (count : NanoCount) : count.toInstant < late := by
  have above : 9223372036854775807 < late.nanoCount := by decide
  rw [NanoCount.toInstant_lt_iff_nanoCount (by decide)]
  exact Int.lt_of_le_of_lt count.value_le above

theorem Ready.comparesExactly_iff (ready : database.Ready) :
    database.ComparesBy .exact ↔ ∀ event ∈ database.events, ¬ IsOnLimit event := by
  refine ⟨?_, ready.comparesExactly⟩
  intro exact event member onLimit
  have clamped := ready.comparesClamped
  obtain ⟨row, -, rfl⟩ := List.mem_map.mp member
  have range (bound : Instant) (regular : bound.nanos < 1000000000)
      (upTo : Comparison.clamped.upTo row.toEvent.onTime bound = true)
      (since : Comparison.clamped.since row.toEvent.offTime bound = true) :
      row.toEvent.onTime ≤ bound ∧ bound ≤ row.toEvent.offTime := by
    have same := Except.ok.inj ((clamped.listRange row.toEvent.userId bound bound regular regular).symm.trans
      (exact.listRange row.toEvent.userId bound bound regular regular))
    simpa [Comparison.exact] using of_sort_filter_eq same member (by simp [upTo, since])
  -- Each limit is met by the query that asks for nothing but what lies beyond it.
  rcases onLimit with least | greatest | ⟨unsent, least⟩
  · have after : early < row.toEvent.onTime := early_lt row.onTime
    have ends : early ≤ row.toEvent.offTime := Instant.le_of_lt (early_lt row.offTime)
    have met := range early (by decide) (by simp [Comparison.clamped, ← least, after])
      (by simp [Comparison.clamped, Comparison.exact, ends])
    exact Instant.not_le_iff_lt.mpr after met.1
  · have before : row.toEvent.offTime < late := lt_late row.offTime
    have starts : row.toEvent.onTime ≤ late := Instant.le_of_lt (lt_late row.onTime)
    have met := range late (by decide) (by simp [Comparison.clamped, Comparison.exact, starts])
      (by simp [Comparison.clamped, ← greatest, before])
    exact Instant.not_le_iff_lt.mpr before met.2
  · have after : early < NanoCount.least.toInstant := early_lt _
    have same := Except.ok.inj ((clamped.listDue early (by decide)).symm.trans (exact.listDue early (by decide)))
    have due := of_sort_filter_eq same member (by simp [unsent, least, Comparison.clamped, after])
    have met : NanoCount.least.toInstant ≤ early := by
      simpa [unsent, least, Comparison.exact] using due
    exact Instant.not_le_iff_lt.mpr after met

/-- Clamping changes nothing unless an event lies on a limit, and any such event some query mistakes. -/
theorem clamped_of_replies {medium : Medium} (fresh : (create medium).connect = (.ok (), database))
    (requests : List Request) :
    (replies Database.answer requests database).2.ComparesBy .clamped ∧
      ((replies Database.answer requests database).2.ComparesBy .exact ↔
        ∀ event ∈ (replies Database.answer requests database).2.events, ¬ IsOnLimit event) :=
  have ready := (ready_of_connect fresh).replies requests
  ⟨ready.comparesClamped, ready.comparesExactly_iff⟩

def firstEvent : Event :=
  ⟨0, 7, "first", "", NanoCount.least.toInstant, (Instant.of? 0 0).get (by decide),
    some NanoCount.least.toInstant, false⟩

def lastEvent : Event :=
  ⟨0, 7, "last", "", (Instant.of? 946684800 0).get (by decide),
    NanoCount.greatest.toInstant, none, false⟩

theorem clamped_on_limits :
    (create .file).connect = (.ok (), ⟨.file, .empty, true⟩) ∧
      let database := (replies Database.answer [.insert firstEvent, .insert lastEvent, .markNotified 1]
        ⟨.file, .empty, true⟩).2
      database.ComparesBy .clamped ∧
        (database.ComparesBy .exact ↔ ∀ event ∈ database.events, ¬ IsOnLimit event) :=
  ⟨rfl, @clamped_of_replies _ .file rfl _⟩

theorem not_exact_on_limits :
    let database := (replies Database.answer [.insert firstEvent, .insert lastEvent] ⟨.file, .empty, true⟩).2
    (firstEvent.toDraft.check false = .ok firstEvent ∧ lastEvent.toDraft.check false = .ok lastEvent) ∧
      (database.answer (.listRange 7 early early)).1 = .ok [{ firstEvent with id := 1 }] ∧
      (database.answer (.listRange 7 late late)).1 = .ok [{ lastEvent with id := 2 }] ∧
      (database.answer (.listDue early)).1 = .ok [{ firstEvent with id := 1 }] ∧
      (database.answer (.purge late)).1 = .ok 1 ∧
      ¬ database.ComparesBy .exact := by
  refine ⟨by decide, by decide, by decide, by decide, by decide, fun exact => ?_⟩
  have listed := exact.listRange 7 early early (by decide) (by decide)
  revert listed
  decide

end Database
end Datebook
