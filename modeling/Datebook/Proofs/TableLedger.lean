import Datebook.Proofs.Ledger
import Datebook.Store.Database

set_option autoImplicit false

namespace Datebook

open Store

theorem NanoCount.toInstant_le_iff {left right : NanoCount} :
    left.toInstant ≤ right.toInstant ↔ left.value ≤ right.value := by
  simp only [Instant.le_def, toInstant]
  omega

theorem NanoCount.toInstant_lt_iff {left right : NanoCount} :
    left.toInstant < right.toInstant ↔ left.value < right.value := by
  simp only [Instant.lt_def, toInstant]
  omega

theorem NanoCount.toInstant_inj {left right : NanoCount} :
    left.toInstant = right.toInstant ↔ left = right := by
  constructor
  · intro same
    have counts := congrArg Instant.nanoCount same
    rw [nanoCount_toInstant, nanoCount_toInstant] at counts
    cases left
    cases right
    simp_all
  · exact congrArg toInstant

namespace Instant

def rounded (time : Instant) : Instant := time.toNanoCount.toInstant

/-- Neither in a leap second nor too far away to be counted in nanoseconds. -/
def IsPlain (time : Instant) : Prop := time.nanos < 1000000000 ∧ time.isStorable = true

instance (time : Instant) : Decidable time.IsPlain := inferInstanceAs (Decidable (_ ∧ _))

theorem toNanoCount_of_toNanoCount? {time : Instant} {count : NanoCount}
    (found : time.toNanoCount? = some count) : time.toNanoCount = count := by
  simp [toNanoCount, found]

theorem IsPlain.rounded_eq {time : Instant} (plain : time.IsPlain) : time.rounded = time := by
  obtain ⟨count, found⟩ := Option.isSome_iff_exists.mp plain.2
  have same := toInstant_of_toNanoCount? found
  have exact := plain.1
  -- The same count and no leap second on either side leave only one instant.
  rw [rounded, toNanoCount_of_toNanoCount? found, eq_iff]
  have nanos := count.subseconds_lt
  simp only [NanoCount.toInstant, nanoCount] at same ⊢
  omega

end Instant

namespace Columns

theorem storedTime_of_isStorable {time : Instant} (storable : time.isStorable = true) :
    storedTime time = .ok time.toNanoCount := by
  obtain ⟨count, found⟩ := Option.isSome_iff_exists.mp storable
  simp [storedTime, found, Instant.toNanoCount_of_toNanoCount? found]

theorem exists_ofEvent {event : Event} (onTime : event.onTime.isStorable = true)
    (offTime : event.offTime.isStorable = true) (notifyTime : ∀ time ∈ event.notifyTime, time.isStorable = true) :
    ∃ columns, ofEvent event = .ok columns := by
  cases due : event.notifyTime with
  | none =>
      simp [ofEvent, storedTime_of_isStorable onTime, storedTime_of_isStorable offTime, due, storedNotifyTime,
        bind, Except.bind, pure, Except.pure]
  | some time =>
      simp [ofEvent, storedTime_of_isStorable onTime, storedTime_of_isStorable offTime, due, storedNotifyTime,
        storedTime_of_isStorable (notifyTime time due), bind, Except.bind, Except.map, pure, Except.pure]

theorem storedTime_eq {time : Instant} {count : NanoCount} (stored : storedTime time = .ok count) :
    count = time.toNanoCount := by
  simp only [storedTime] at stored
  split at stored
  · cases stored
  · next found =>
    cases stored
    exact (Instant.toNanoCount_of_toNanoCount? found).symm

theorem storedNotifyTime_eq {time : Option Instant} {count : Option NanoCount}
    (stored : storedNotifyTime time = .ok count) : count = time.map Instant.toNanoCount := by
  cases time with
  | none =>
      cases stored
      rfl
  | some time =>
      cases found : storedTime time with
      | error error => simp [storedNotifyTime, found, Except.map] at stored
      | ok count =>
          simp only [storedNotifyTime, found, Except.map, Except.ok.injEq] at stored
          rw [← stored, storedTime_eq found]
          rfl

theorem ofEvent_eq {event : Event} {columns : Columns} (stored : ofEvent event = .ok columns) :
    columns = ⟨event.userId.toInt64, event.title, event.description, event.onTime.toNanoCount,
      event.offTime.toNanoCount, event.notifyTime.map Instant.toNanoCount⟩ := by
  cases on : storedTime event.onTime with
  | error error => simp [ofEvent, on, bind, Except.bind] at stored
  | ok onTime =>
    cases off : storedTime event.offTime with
    | error error => simp [ofEvent, on, off, bind, Except.bind] at stored
    | ok offTime =>
      cases notify : storedNotifyTime event.notifyTime with
      | error error => simp [ofEvent, on, off, notify, bind, Except.bind] at stored
      | ok notifyTime =>
          simp only [ofEvent, on, off, notify, bind, Except.bind, pure, Except.pure, Except.ok.injEq] at stored
          rw [← stored, storedTime_eq on, storedTime_eq off, storedNotifyTime_eq notify]

theorem toEvent_toRow {event : Event} {columns : Columns} (stored : ofEvent event = .ok columns)
    (id : Int64) (notified : Bool) :
    (columns.toRow id notified).toEvent = event.stored Instant.rounded id.toUInt64 notified := by
  rw [ofEvent_eq stored]
  simp only [toRow, Row.toEvent, Event.stored, Option.map_map]
  rfl

end Columns

namespace Table

structure Sound (table : Table) : Prop where
  distinct : (table.rows.map Row.id).Nodup
  assigned : ∀ row ∈ table.rows, 0 < row.id.toInt ∧ row.id.toInt ≤ table.lastId.toInt
  started : 0 ≤ table.lastId.toInt

def ledger (table : Table) : Ledger := ⟨table.rows.map Row.toEvent, (table.lastId + 1).toUInt64⟩

theorem sound_empty : empty.Sound where
  distinct := List.nodup_nil
  assigned row member := by cases member
  started := by decide

end Table

section Ids

variable {id : Int64}

theorem toNat_toUInt64 (id : Int64) (positive : 0 ≤ id.toInt) : (id.toUInt64.toNat : Int) = id.toInt := by
  have same := Int64.toNat_toUInt64_of_le (x := id) (by rwa [Int64.le_iff_toInt_le])
  rw [same, Int64.toNatClampNeg]
  omega

theorem toInt_succ (room : id ≠ Int64.maxValue) : (id + 1).toInt = id.toInt + 1 := by
  have least := Int64.le_toInt id
  have greatest := Int64.toInt_lt id
  have different : id.toInt ≠ Int64.maxValue.toInt := fun same => room (Int64.toInt_inj.mp same)
  have limit : Int64.maxValue.toInt = 2 ^ 63 - 1 := by decide
  rw [limit] at different
  rw [Int64.toInt_add, Int64.toInt_one, Int.bmod_eq_of_le] <;> omega

theorem toUInt64_eq_iff {id : Int64} {other : UInt64} : id.toUInt64 = other ↔ id = other.toInt64 := by
  constructor <;> rintro rfl <;> rfl

end Ids

namespace Table

variable {table : Table}

theorem Sound.comesBefore_eq (sound : table.Sound) {left right : Row} (inLeft : left ∈ table.rows)
    (inRight : right ∈ table.rows) : left.toEvent.comesBefore right.toEvent = comesBefore left right := by
  have leftId := toNat_toUInt64 left.id (Int.le_of_lt (sound.assigned left inLeft).1)
  have rightId := toNat_toUInt64 right.id (Int.le_of_lt (sound.assigned right inRight).1)
  have ids : left.id.toUInt64 ≤ right.id.toUInt64 ↔ left.id ≤ right.id := by
    rw [UInt64.le_iff_toNat_le, Int64.le_iff_toInt_le]
    omega
  simp only [Event.comesBefore, comesBefore, Row.toEvent, NanoCount.toInstant_lt_iff,
    NanoCount.toInstant_inj, ids]

theorem Sound.select_eq (sound : table.Sound) (condition : Row → Bool) (condition' : Event → Bool)
    (agrees : ∀ row, condition' row.toEvent = condition row) :
    table.select condition = Event.sort (table.ledger.events.filter condition') := by
  have translated : (table.rows.filter condition).map Row.toEvent =
      (table.rows.map Row.toEvent).filter condition' := by
    rw [List.filter_map]
    simp only [Function.comp_def, agrees]
  -- Rows are sorted by count and signed id, events by instant and unsigned id.
  rw [select, map_sorted, translated]
  · rfl
  · intro left inLeft right inRight
    exact sound.comesBefore_eq (List.mem_of_mem_filter inLeft) (List.mem_of_mem_filter inRight)

theorem ledger_find? (id : EventId) :
    table.ledger.find? id = (table.find? id.toInt64).map Row.toEvent := by
  simp only [Ledger.find?, ledger, List.find?_map, find?, Function.comp_def, Row.toEvent, toUInt64_eq_iff]

theorem ledger_change (id : EventId) (apply : Row → Row) (apply' : Event → Event)
    (agrees : ∀ row, (apply row).toEvent = apply' row.toEvent) :
    (table.change id.toInt64 apply).ledger = table.ledger.change id apply' := by
  have same (row : Row) : row.toEvent.id = id ↔ row.id = id.toInt64 := toUInt64_eq_iff
  simp only [ledger, change, Ledger.change, List.map_map, Ledger.mk.injEq, and_true]
  apply List.map_congr_left
  intro row member
  simp only [Function.comp_apply, same]
  split
  · exact agrees row
  · rfl

theorem ledger_deleteWhere (condition : Row → Bool) (kept : Event → Bool)
    (agrees : ∀ row, kept row.toEvent = ! condition row) :
    (table.deleteWhere condition).ledger = table.ledger.keep kept := by
  simp only [ledger, deleteWhere, Ledger.keep, List.filter_map, Function.comp_def, agrees]

theorem overlaps_toEvent (row : Row) (first last : Instant) :
    row.toEvent.overlaps first.rounded last.rounded = meets first.toNanoCount last.toNanoCount row := by
  simp only [Event.overlaps, meets, Row.toEvent, Instant.rounded, NanoCount.toInstant_le_iff]

theorem isDue_toEvent (row : Row) (cutoff : Instant) : row.toEvent.isDue cutoff.rounded =
    (! row.notified && row.notifyTime.any fun time => decide (time.value ≤ cutoff.toNanoCount.value)) := by
  simp only [Event.isDue, Row.toEvent, Option.any_map, Instant.rounded, NanoCount.toInstant_le_iff]

theorem Sound.answer_ledger (sound : table.Sound) {request : Request}
    (storable : Database.precheck request = .ok ())
    (room : request.isInsert = true → table.lastId ≠ Int64.maxValue) :
    table.ledger.answer Instant.rounded request =
      ((table.answer request).1, (table.answer request).2.ledger) := by
  cases request with
  | insert event =>
      cases stored : Columns.ofEvent event with
      | error error => simp [Database.precheck, stored, Except.map] at storable
      | ok columns =>
          have added := Columns.toEvent_toRow stored (table.lastId + 1) false
          simp only [Ledger.answer, answer, stored, room rfl, if_false, insert, ledger, List.map_append,
            List.map_cons, List.map_nil, added]
          rfl
  | update event =>
      cases stored : Columns.ofEvent event with
      | error error => simp [Database.precheck, stored, Except.map] at storable
      | ok columns =>
          have changed := table.ledger_change event.id
            (fun row => columns.toRow row.id row.notified)
            (fun old => event.stored Instant.rounded old.id old.notified)
            (fun row => Columns.toEvent_toRow stored row.id row.notified)
          cases found : table.find? event.id.toInt64 <;>
            simp only [Ledger.answer, answer, stored, ledger_find?, found, Option.map_none, Option.map_some, changed]
  | delete id =>
      have deleted := table.ledger_deleteWhere (fun row => row.id = id.toInt64)
        (fun event => event.id ≠ id) (fun row => by simp [Row.toEvent, toUInt64_eq_iff])
      simp only [Ledger.answer, answer, deleted]
  | lookup id =>
      cases found : table.find? id.toInt64 <;>
        simp only [Ledger.answer, answer, ledger_find?, found, Option.map_none, Option.map_some]
  | list userId =>
      have selected := sound.select_eq (fun row => row.user = userId.toInt64)
        (fun event => event.userId = userId) (fun row => by simp [Row.toEvent, toUInt64_eq_iff])
      simp only [Ledger.answer, answer, selected]
  | listRange userId first last =>
      have selected := sound.select_eq
        (fun row => row.user = userId.toInt64 && meets first.toNanoCount last.toNanoCount row)
        (fun event => event.userId = userId && event.overlaps first.rounded last.rounded)
        (fun row => by
          rw [overlaps_toEvent]
          simp [Row.toEvent, toUInt64_eq_iff])
      simp only [Ledger.answer, answer, selected]
  | checkFree except userId first last =>
      have busy : table.ledger.isBusy except userId first.rounded last.rounded =
          table.rows.any fun row => row.id ≠ except.toInt64 && row.user = userId.toInt64
            && meets first.toNanoCount last.toNanoCount row := by
        -- The same three conditions, which the table puts in another order.
        simp only [Ledger.isBusy, ledger, List.any_map, Function.comp_def, overlaps_toEvent]
        congr 1
        funext row
        have id : row.toEvent.id = except ↔ row.id = except.toInt64 := toUInt64_eq_iff
        have user : row.toEvent.userId = userId ↔ row.user = userId.toInt64 := toUInt64_eq_iff
        simp only [id, user, ne_eq, Bool.and_left_comm, Bool.and_assoc]
      simp only [Ledger.answer, answer, busy]
      split <;> rfl
  | listDue cutoff =>
      have selected := sound.select_eq _ (fun event => event.isDue cutoff.rounded)
        (fun row => isDue_toEvent row cutoff)
      simp only [Ledger.answer, answer, selected]
  | purge cutoff =>
      have early (row : Row) : row.toEvent.offTime < cutoff.rounded ↔
          row.offTime.value < cutoff.toNanoCount.value := NanoCount.toInstant_lt_iff
      have deleted := table.ledger_deleteWhere
        (fun row => decide (row.offTime.value < cutoff.toNanoCount.value))
        (fun event => ! decide (event.offTime < cutoff.rounded)) (fun row => by simp only [early])
      simp only [Ledger.answer, answer, deleted]
      simp only [ledger, List.countP_map, Function.comp_def, early]
  | markNotified id =>
      have changed := table.ledger_change id (fun row => { row with notified := true })
        (fun old => { old with notified := true }) (fun row => rfl)
      cases found : table.find? id.toInt64 <;>
        simp only [Ledger.answer, answer, ledger_find?, found, Option.map_none, Option.map_some, changed]

theorem Sound.insert (sound : table.Sound) (columns : Columns) (room : table.lastId ≠ Int64.maxValue) :
    (table.insert columns).2.Sound := by
  have next := toInt_succ room
  have started := sound.started
  refine ⟨?_, ?_, ?_⟩
  · simp only [Table.insert, List.map_append, List.map_cons, List.map_nil]
    refine List.nodup_append.mpr ⟨sound.distinct, List.nodup_singleton _, ?_⟩
    intro id member last isLast same
    obtain ⟨row, inRows, rfl⟩ := List.mem_map.mp member
    have bounds := sound.assigned row inRows
    have new : row.id = table.lastId + 1 := same.trans (List.mem_singleton.mp isLast)
    rw [new] at bounds
    omega
  · intro row member
    simp only [Table.insert] at member ⊢
    rcases List.mem_append.mp member with old | new
    · have bounds := sound.assigned row old
      omega
    · rw [List.mem_singleton.mp new]
      simp only [Columns.toRow]
      omega
  · simp only [Table.insert]
    omega

theorem Sound.change (sound : table.Sound) (id : Int64) {apply : Row → Row}
    (keepsId : ∀ row, (apply row).id = row.id) : (table.change id apply).Sound := by
  have ids (row : Row) : (if row.id = id then apply row else row).id = row.id := by
    split
    · exact keepsId row
    · rfl
  refine ⟨?_, ?_, sound.started⟩
  · simp only [Table.change, List.map_map, Function.comp_def, ids]
    exact sound.distinct
  · intro row member
    obtain ⟨old, inRows, rfl⟩ := List.mem_map.mp member
    rw [ids]
    exact sound.assigned old inRows

theorem Sound.deleteWhere (sound : table.Sound) (condition : Row → Bool) :
    (table.deleteWhere condition).Sound where
  distinct := sound.distinct.sublist (List.filter_sublist.map Row.id)
  assigned row member := sound.assigned row (List.mem_of_mem_filter member)
  started := sound.started

theorem Sound.answer (sound : table.Sound) (request : Request) : (table.answer request).2.Sound := by
  cases request with
  | insert event =>
      simp only [Table.answer]
      split
      · exact sound
      · split
        · exact sound
        · next room => exact sound.insert _ room
  | update event =>
      simp only [Table.answer]
      split
      · exact sound
      · split
        · exact sound
        · exact sound.change _ fun row => rfl
  | delete id => exact sound.deleteWhere _
  | purge cutoff => exact sound.deleteWhere _
  | markNotified id =>
      simp only [Table.answer]
      split
      · exact sound
      · exact sound.change _ fun row => rfl
  | lookup id | checkFree except userId first last =>
      simp only [Table.answer]
      split <;> exact sound
  | list userId | listRange userId first last | listDue cutoff => exact sound

end Table
end Datebook
