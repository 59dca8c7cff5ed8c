import Mathlib.Algebra.Group.Int.Defs
import Datebook.Proofs.MemoryIndex
import Datebook.Proofs.Replies
import Datebook.Proofs.TableLedger

set_option autoImplicit false

namespace Datebook

open Store

theorem Database.precheck_of_plain {request : Request}
    (plain : ∀ time ∈ request.instants, time.IsPlain) : precheck request = .ok () := by
  cases request with
  | insert event | update event =>
      simp only [Request.instants, List.mem_cons, Option.mem_toList, forall_eq_or_imp] at plain
      obtain ⟨onTime, offTime, notifyTime⟩ := plain
      obtain ⟨columns, stored⟩ :=
        Columns.exists_ofEvent onTime.2 offTime.2 fun time notifies => (notifyTime time notifies).2
      simp [precheck, stored, Except.map]
  | _ => rfl

theorem Table.lastId_answer {table : Table} {request : Request}
    (storable : Database.precheck request = .ok ())
    (room : request.isInsert = true → table.lastId ≠ Int64.maxValue) :
    (table.answer request).2.lastId = if request.isInsert then table.lastId + 1 else table.lastId := by
  cases request with
  | insert event =>
      cases stored : Columns.ofEvent event with
      | error error => simp [Database.precheck, stored, Except.map] at storable
      | ok columns => simp [answer, stored, room rfl, insert, Request.isInsert]
  | update event =>
      simp only [answer, Request.isInsert, Bool.false_eq_true, if_false]
      split
      · rfl
      · split <;> rfl
  | markNotified id | lookup id | checkFree except userId first last =>
      simp only [answer, Request.isInsert, Bool.false_eq_true, if_false]
      split <;> rfl
  | _ => rfl

/-- The table of the database and the store in memory hold the same events in the same order, and
will give the same id next. -/
structure Matching (memory : MemoryStore) (database : Database) : Prop where
  indexed : memory.WellIndexed
  sound : database.table.Sound
  connected : database.connected = true
  ledger_eq : memory.ledger = database.table.ledger

namespace Matching

variable {memory : MemoryStore} {database : Database}

theorem toNat_nextId (matching : Matching memory database)
    (room : database.table.lastId ≠ Int64.maxValue) :
    1 ≤ memory.nextId.toNat ∧ memory.nextId.toNat + 1 < 2 ^ 64 := by
  have next : memory.nextId = (database.table.lastId + 1).toUInt64 :=
    congrArg Ledger.nextId matching.ledger_eq
  have started := matching.sound.started
  have succ := toInt_succ room
  have value := toNat_toUInt64 (database.table.lastId + 1) (by omega)
  have limit := Int64.toInt_lt (database.table.lastId + 1)
  rw [next]
  omega

theorem answer (matching : Matching memory database) {request : Request}
    (plain : ∀ time ∈ request.instants, time.IsPlain)
    (room : request.isInsert = true → database.table.lastId ≠ Int64.maxValue) :
    (memory.answer request).1 = (database.answer request).1 ∧
      Matching (memory.answer request).2 (database.answer request).2 := by
  have storable := Database.precheck_of_plain plain
  have answered : database.answer request =
      ((database.table.answer request).1, { database with table := (database.table.answer request).2 }) := by
    simp [Database.answer, storable, matching.connected]
  -- Nothing is rounded, so both answer as one and the same list of events.
  have left := matching.indexed.answer_ledger request
  have right := matching.sound.answer_ledger storable room
  rw [Ledger.answer_of_fixed _ fun time member => (plain time member).rounded_eq, ← matching.ledger_eq,
    left] at right
  obtain ⟨answers, ledgers⟩ := Prod.mk.inj right
  rw [answered]
  refine ⟨answers, ?_, matching.sound.answer request, matching.connected, ledgers⟩
  exact matching.indexed.answer request fun inserts => matching.toNat_nextId (room inserts)

theorem replies_eq_iff {requests : List Request} (matching : Matching memory database)
    (plain : ∀ request ∈ requests, ∀ time ∈ request.instants, time.IsPlain) :
    (replies MemoryStore.answer requests memory).1 = (replies Database.answer requests database).1 ↔
      database.table.lastId.toInt + requests.countP Request.isInsert < 2 ^ 63 := by
  induction requests generalizing memory database with
  | nil =>
      have limit := Int64.toInt_lt database.table.lastId
      simpa [replies] using limit
  | cons request rest ih =>
      have plainHead := plain request (by simp)
      have storable := Database.precheck_of_plain plainHead
      -- While there is an id left both go on as one; the first insert without one tells them apart.
      by_cases room : request.isInsert = true → database.table.lastId ≠ Int64.maxValue
      · obtain ⟨same, next⟩ := matching.answer plainHead room
        have others := ih next fun other member => plain other (by simp [member])
        have lastId : (database.answer request).2.table.lastId =
            if request.isInsert then database.table.lastId + 1 else database.table.lastId := by
          rw [← Table.lastId_answer storable room]
          simp [Database.answer, storable, matching.connected]
        simp only [replies, same, List.cons.injEq, true_and, others, lastId]
        cases inserts : request.isInsert with
        | false => simp [List.countP_cons_of_neg, inserts]
        | true =>
            simp only [if_true, toInt_succ (room inserts), List.countP_cons_of_pos inserts]
            omega
      · push Not at room
        obtain ⟨inserts, used⟩ := room
        have limit : database.table.lastId.toInt = 2 ^ 63 - 1 := by
          rw [used]
          decide
        have tooMany : ¬ database.table.lastId.toInt + (request :: rest).countP Request.isInsert < 2 ^ 63 := by
          rw [List.countP_cons_of_pos inserts]
          omega
        simp only [tooMany, iff_false]
        intro agree
        cases request with
        | insert event =>
            have heads : Reply.mk (.insert event) (memory.answer (.insert event)).1 =
                ⟨.insert event, (database.answer (.insert event)).1⟩ := (List.cons.inj agree).1
            have refused : (database.answer (.insert event)).1 = .error .database := by
              cases stored : Columns.ofEvent event with
              | error error => simp [Database.precheck, stored, Except.map] at storable
              | ok columns => simp [Database.answer, storable, matching.connected, Table.answer, stored, used]
            rw [refused] at heads
            cases heads
        | _ => cases inserts

end Matching

/-- Both kinds of store answer any requests alike exactly as long as the sequence of the table, which
ends at the greatest signed id, has an id for every insert. -/
theorem memory_and_database_agree_iff {medium : Medium} {database : Database}
    (fresh : (Database.create medium).connect = (.ok (), database)) (requests : List Request)
    (plain : ∀ request ∈ requests, ∀ time ∈ request.instants, time.IsPlain) :
    (replies MemoryStore.answer requests .empty).1 = (replies Database.answer requests database).1 ↔
      requests.countP Request.isInsert < 2 ^ 63 := by
  obtain ⟨table, connected⟩ : database.table = .empty ∧ database.connected = true := by
    cases medium <;> cases fresh <;> exact ⟨rfl, rfl⟩
  have matching : Matching .empty database :=
    ⟨MemoryStore.wellIndexed_empty, table ▸ Table.sound_empty, connected, by rw [table]; rfl⟩
  have lastId : database.table.lastId.toInt = 0 := by
    rw [table]
    rfl
  rw [matching.replies_eq_iff plain, lastId]
  omega

theorem memory_and_database_agree_on_handover :
    let event : Event := ⟨5, 18446744073709551615, "", "", NanoCount.least.toInstant,
      NanoCount.greatest.toInstant, some NanoCount.least.toInstant, true⟩
    let requests : List Request := [.insert event, .checkFree 0 event.userId event.offTime event.offTime,
      .update event, .update { event with id := 1, userId := 3 }, .listDue event.onTime, .markNotified 1,
      .list 3, .purge event.offTime]
    (Database.create .file).connect = (.ok (), ⟨.file, .empty, true⟩) ∧
      (∀ request ∈ requests, ∀ time ∈ request.instants, time.IsPlain) ∧
      ((replies MemoryStore.answer requests .empty).1 =
          (replies Database.answer requests ⟨.file, .empty, true⟩).1 ↔
        requests.countP Request.isInsert < 2 ^ 63) :=
  ⟨rfl, by decide, @memory_and_database_agree_iff .file _ rfl _ (by decide)⟩

end Datebook
