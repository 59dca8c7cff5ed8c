import Datebook.Event.Rules
import Datebook.Proofs.Order

set_option autoImplicit false

namespace Datebook

structure Event.KeepsRules (event : Event) : Prop where
  userId : event.userId ≠ 0
  title : event.title.length ≤ Event.titleLimit
  onTime : event.onTime.isStorable = true
  offTime : event.offTime.isStorable = true
  ordered : event.onTime < event.offTime
  notifyTime : ∀ time ∈ event.notifyTime, time.isStorable = true ∧ event.onTime ≤ time ∧ time ≤ event.offTime

theorem Event.KeepsRules.relabel {event : Event} (keeps : event.KeepsRules) (id : EventId) (notified : Bool) :
    { event with id, notified }.KeepsRules :=
  ⟨keeps.userId, keeps.title, keeps.onTime, keeps.offTime, keeps.ordered, keeps.notifyTime⟩

namespace Draft

variable {draft : Draft} {event : Event} {onTime offTime : Instant}

theorem bind_eq_ok_iff {α β : Type} {first : Except Violation α} {next : α → Except Violation β} {result : β} :
    (first >>= next) = .ok result ↔ ∃ value, first = .ok value ∧ next value = .ok result := by
  cases first with
  | error violation => exact ⟨nofun, nofun⟩
  | ok value => exact ⟨fun ran => ⟨value, rfl, ran⟩, fun ⟨_, same, ran⟩ => Except.ok.inj same ▸ ran⟩

theorem bind_eq_error_iff {α β : Type} {first : Except Violation α} {next : α → Except Violation β}
    {violation : Violation} : (first >>= next) = .error violation ↔
      first = .error violation ∨ ∃ value, first = .ok value ∧ next value = .error violation := by
  cases first with
  | error other => simp [bind, Except.bind]
  | ok value => simp [bind, Except.bind]

theorem checkOffTime_eq_ok_iff {time : Option Instant} :
    checkOffTime onTime time = .ok offTime ↔ time = some offTime ∧ offTime.isStorable = true ∧ onTime < offTime := by
  cases time with
  | none => simp [checkOffTime]
  | some time =>
      simp only [checkOffTime]
      split
      · next unstorable =>
        simp only [reduceCtorEq, Option.some.injEq, false_iff]
        rintro ⟨rfl, storable, -⟩
        exact unstorable storable
      · next storable =>
        split
        · next early =>
          simp only [reduceCtorEq, Option.some.injEq, false_iff]
          rintro ⟨rfl, -, late⟩
          exact Instant.not_lt_iff_le.mpr (Instant.le_of_lt late) early
        · next notEarly =>
          split
          · next same =>
            simp only [reduceCtorEq, Option.some.injEq, false_iff]
            rintro ⟨rfl, -, late⟩
            exact (Instant.lt_iff_le_and_ne.mp late).2 same
          · next differs =>
            have late := Instant.lt_iff_le_and_ne.mpr ⟨Instant.not_lt_iff_le.mp notEarly, differs⟩
            simp only [Except.ok.injEq, Option.some.injEq]
            constructor
            · rintro rfl
              exact ⟨rfl, not_not.mp storable, late⟩
            · exact And.left

theorem checkNotifyTime_eq_ok_iff {time : Option Instant} :
    checkNotifyTime onTime offTime time = .ok () ↔
      ∀ notifyTime ∈ time, notifyTime.isStorable = true ∧ onTime ≤ notifyTime ∧ notifyTime ≤ offTime := by
  cases time with
  | none => simp [checkNotifyTime]
  | some time =>
      simp only [checkNotifyTime, Option.mem_some_iff, forall_eq', ← Instant.not_lt_iff_le]
      repeat' split
      all_goals simp_all

theorem check_eq_ok_iff {needsId : Bool} : draft.check needsId = .ok event ↔
    (needsId = true → event.id ≠ 0) ∧ event.KeepsRules ∧ event.notified = false ∧ event.toDraft = draft := by
  constructor
  · intro accepted
    simp only [check] at accepted
    split at accepted
    · cases accepted
    · next hasId =>
      split at accepted
      · cases accepted
      · next hasUser =>
        split at accepted
        · cases accepted
        · next short =>
          split at accepted
          · cases accepted
          · next onTime starts =>
            split at accepted
            · cases accepted
            · next storable =>
              obtain ⟨offTime, ends, accepted⟩ := bind_eq_ok_iff.mp accepted
              obtain ⟨_, notifies, accepted⟩ := bind_eq_ok_iff.mp accepted
              obtain ⟨ends, storableEnd, ordered⟩ := checkOffTime_eq_ok_iff.mp ends
              cases accepted
              refine ⟨fun needs noId => hasId ⟨needs, noId⟩, ?_, rfl, ?_⟩
              · exact ⟨hasUser, Nat.le_of_not_lt short, not_not.mp storable, storableEnd, ordered,
                  checkNotifyTime_eq_ok_iff.mp notifies⟩
              · obtain ⟨id, userId, title, description, on, off, notify⟩ := draft
                cases starts
                cases ends
                rfl
  · rintro ⟨hasId, keeps, unmarked, rfl⟩
    obtain ⟨id, userId, title, description, onTime, offTime, notifyTime, notified⟩ := event
    cases unmarked
    have ends := checkOffTime_eq_ok_iff.mpr ⟨rfl, keeps.offTime, keeps.ordered⟩
    have notifies := checkNotifyTime_eq_ok_iff.mpr keeps.notifyTime
    have identified : ¬ (needsId = true ∧ id = 0) := fun ⟨needs, noId⟩ => hasId needs noId
    simp only [check, Event.toDraft, identified, keeps.userId, Nat.not_lt.mpr keeps.title, keeps.onTime,
      if_false, not_true]
    exact bind_eq_ok_iff.mpr ⟨offTime, ends, bind_eq_ok_iff.mpr ⟨(), notifies, rfl⟩⟩

end Draft
end Datebook
