import Mathlib.Algebra.Group.Int.Defs
import Datebook.Proofs.DraftRules

set_option autoImplicit false

namespace Datebook

/-- The nanoseconds since the start of 1970, those into a leap second included, fit in 64 bits with a sign. -/
def Instant.Fits (time : Instant) : Prop :=
  -2 ^ 63 ≤ time.seconds * 10 ^ 9 + time.nanos ∧ time.seconds * 10 ^ 9 + time.nanos < 2 ^ 63

instance (time : Instant) : Decidable time.Fits := inferInstanceAs (Decidable (_ ∧ _))

theorem Instant.isStorable_iff {time : Instant} : time.isStorable = true ↔ time.Fits := by
  rw [isStorable, toNanoCount?, Option.isSome_dite]
  simp only [nanoCount, Fits]
  omega

def Field.place : Field → Nat
  | .id => 0
  | .userId => 1
  | .title => 2
  | .onTime => 3
  | .offTime => 4
  | .notifyTime => 5

theorem Field.place_inj {field other : Field} (same : field.place = other.place) : field = other := by
  cases field <;> cases other <;> simp_all [place]

-- Whether a field is there comes before whether it can be stored, and that before how it lies to others.
def Reason.place : Reason → Nat
  | .zero | .tooLong | .missing => 0
  | .outOfRange => 1
  | .beforeStart | .equalToStart | .afterEnd => 2

def Violation.Precedes (first second : Violation) : Prop :=
  first.field.place < second.field.place ∨
    first.field = second.field ∧ first.reason.place < second.reason.place

theorem Violation.Precedes.asymm {first second : Violation} (before : first.Precedes second) :
    ¬ second.Precedes first := by
  rintro (after | ⟨same, after⟩)
  · rcases before with before | ⟨same, -⟩
    · exact Nat.lt_asymm before after
    · exact absurd after (same ▸ Nat.lt_irrefl _)
  · rcases before with before | ⟨-, before⟩
    · exact absurd before (same ▸ Nat.lt_irrefl _)
    · exact Nat.lt_asymm before after

structure Event.IsOf (event : Event) (draft : Draft) : Prop where
  id : event.id = draft.id
  userId : event.userId = draft.userId
  title : event.title = draft.title
  description : event.description = draft.description
  onTime : some event.onTime = draft.onTime
  offTime : some event.offTime = draft.offTime
  notifyTime : event.notifyTime = draft.notifyTime
  notified : event.notified = false

theorem Event.isOf_iff {event : Event} {draft : Draft} :
    event.IsOf draft ↔ event.toDraft = draft ∧ event.notified = false := by
  constructor
  · rintro ⟨id, userId, title, description, onTime, offTime, notifyTime, unmarked⟩
    refine ⟨?_, unmarked⟩
    rw [toDraft, id, userId, title, description, onTime, offTime, notifyTime]
  · rintro ⟨rfl, unmarked⟩
    exact ⟨rfl, rfl, rfl, rfl, rfl, rfl, rfl, unmarked⟩

namespace Draft

def instants (draft : Draft) : List Instant :=
  draft.onTime.toList ++ draft.offTime.toList ++ draft.notifyTime.toList

theorem mem_instants_iff {draft : Draft} {time : Instant} : time ∈ draft.instants ↔
    draft.onTime = some time ∨ draft.offTime = some time ∨ draft.notifyTime = some time := by
  simp [instants]

structure KeepsRules (draft : Draft) (needsId : Bool) : Prop where
  id : needsId = true → draft.id ≠ 0
  userId : draft.userId ≠ 0
  title : draft.title.length ≤ 150
  onTime : draft.onTime.isSome = true
  offTime : draft.offTime.isSome = true
  fits : ∀ time ∈ draft.instants, time.Fits
  ordered : ∀ onTime ∈ draft.onTime, ∀ offTime ∈ draft.offTime, onTime < offTime
  notifyTime : ∀ onTime ∈ draft.onTime, ∀ offTime ∈ draft.offTime, ∀ notifyTime ∈ draft.notifyTime,
    onTime ≤ notifyTime ∧ notifyTime ≤ offTime

/-- The draft breaks the rule of which the violation tells. A rule on how instants lie to each other asks
nothing of a draft in which one of them is missing. -/
@[simp]
def Breaks (draft : Draft) (needsId : Bool) : Violation → Prop
  | ⟨.id, .zero⟩ => needsId = true ∧ draft.id = 0
  | ⟨.userId, .zero⟩ => draft.userId = 0
  | ⟨.title, .tooLong⟩ => 150 < draft.title.length
  | ⟨.onTime, .missing⟩ => draft.onTime = none
  | ⟨.onTime, .outOfRange⟩ => ∃ onTime ∈ draft.onTime, ¬ onTime.Fits
  | ⟨.offTime, .missing⟩ => draft.offTime = none
  | ⟨.offTime, .outOfRange⟩ => ∃ offTime ∈ draft.offTime, ¬ offTime.Fits
  | ⟨.offTime, .beforeStart⟩ => ∃ onTime ∈ draft.onTime, ∃ offTime ∈ draft.offTime, offTime < onTime
  | ⟨.offTime, .equalToStart⟩ => ∃ onTime ∈ draft.onTime, ∃ offTime ∈ draft.offTime, offTime = onTime
  | ⟨.notifyTime, .outOfRange⟩ => ∃ notifyTime ∈ draft.notifyTime, ¬ notifyTime.Fits
  | ⟨.notifyTime, .afterEnd⟩ => ∃ offTime ∈ draft.offTime, ∃ notifyTime ∈ draft.notifyTime, offTime < notifyTime
  | ⟨.notifyTime, .beforeStart⟩ => ∃ onTime ∈ draft.onTime, ∃ notifyTime ∈ draft.notifyTime, notifyTime < onTime
  | _ => False

def BreaksFirst (draft : Draft) (needsId : Bool) (violation : Violation) : Prop :=
  draft.Breaks needsId violation ∧
    ∀ other, draft.Breaks needsId other → other = violation ∨ violation.Precedes other

variable {draft : Draft} {needsId : Bool} {violation : Violation} {reason : Reason} {event : Event}
variable {onTime offTime notifyTime : Instant}

theorem breaks_id_iff : draft.Breaks needsId ⟨.id, reason⟩ ↔ reason = .zero ∧ needsId = true ∧ draft.id = 0 := by
  cases reason <;> simp

theorem breaks_userId_iff : draft.Breaks needsId ⟨.userId, reason⟩ ↔ reason = .zero ∧ draft.userId = 0 := by
  cases reason <;> simp

theorem breaks_title_iff : draft.Breaks needsId ⟨.title, reason⟩ ↔ reason = .tooLong ∧ 150 < draft.title.length := by
  cases reason <;> simp

theorem breaks_onTime_none (starts : draft.onTime = none) :
    draft.Breaks needsId ⟨.onTime, reason⟩ ↔ reason = .missing := by
  cases reason <;> simp [starts]

theorem breaks_onTime_some (starts : draft.onTime = some onTime) :
    draft.Breaks needsId ⟨.onTime, reason⟩ ↔ reason = .outOfRange ∧ ¬ onTime.Fits := by
  cases reason <;> simp [starts]

theorem breaks_offTime_none (ends : draft.offTime = none) :
    draft.Breaks needsId ⟨.offTime, reason⟩ ↔ reason = .missing := by
  cases reason <;> simp [ends]

theorem breaks_offTime_some (starts : draft.onTime = some onTime) (ends : draft.offTime = some offTime) :
    draft.Breaks needsId ⟨.offTime, reason⟩ ↔ reason = .outOfRange ∧ ¬ offTime.Fits ∨
      reason = .beforeStart ∧ offTime < onTime ∨ reason = .equalToStart ∧ offTime = onTime := by
  cases reason <;> simp [starts, ends]

theorem not_breaks_offTime (starts : draft.onTime = some onTime) (ends : draft.offTime = some offTime)
    (fits : offTime.Fits) (ordered : onTime < offTime) : ¬ draft.Breaks needsId ⟨.offTime, reason⟩ := by
  rw [breaks_offTime_some starts ends]
  rintro (⟨-, unfit⟩ | ⟨-, early⟩ | ⟨-, rfl⟩)
  · exact unfit fits
  · exact Instant.not_lt_iff_le.mpr (Instant.le_of_lt ordered) early
  · exact (Instant.lt_iff_le_and_ne.mp ordered).2 rfl

theorem not_breaks_notifyTime (notifies : draft.notifyTime = none) :
    ¬ draft.Breaks needsId ⟨.notifyTime, reason⟩ := by
  cases reason <;> simp [notifies]

theorem breaks_notifyTime_some (starts : draft.onTime = some onTime) (ends : draft.offTime = some offTime)
    (notifies : draft.notifyTime = some notifyTime) :
    draft.Breaks needsId ⟨.notifyTime, reason⟩ ↔ reason = .outOfRange ∧ ¬ notifyTime.Fits ∨
      reason = .afterEnd ∧ offTime < notifyTime ∨ reason = .beforeStart ∧ notifyTime < onTime := by
  cases reason <;> simp [starts, ends, notifies]

theorem KeepsRules.not_breaks (rules : draft.KeepsRules needsId) : ¬ draft.Breaks needsId violation := by
  obtain ⟨onTime, starts⟩ := Option.isSome_iff_exists.mp rules.onTime
  obtain ⟨offTime, ends⟩ := Option.isSome_iff_exists.mp rules.offTime
  have ordered := rules.ordered onTime starts offTime ends
  intro breaks
  obtain ⟨field, reason⟩ := violation
  cases field with
  | id =>
      obtain ⟨-, needs, zero⟩ := breaks_id_iff.mp breaks
      exact rules.id needs zero
  | userId => exact rules.userId (breaks_userId_iff.mp breaks).2
  | title => exact Nat.not_lt.mpr rules.title (breaks_title_iff.mp breaks).2
  | onTime => exact ((breaks_onTime_some starts).mp breaks).2 (rules.fits _ (mem_instants_iff.mpr (.inl starts)))
  | offTime =>
      have fits := rules.fits offTime (mem_instants_iff.mpr (.inr (.inl ends)))
      exact not_breaks_offTime starts ends fits ordered breaks
  | notifyTime =>
      cases notifies : draft.notifyTime with
      | none => exact not_breaks_notifyTime notifies breaks
      | some notifyTime =>
          obtain ⟨since, upTo⟩ := rules.notifyTime onTime starts offTime ends notifyTime notifies
          rcases (breaks_notifyTime_some starts ends notifies).mp breaks with ⟨-, unfit⟩ | ⟨-, late⟩ | ⟨-, early⟩
          · exact unfit (rules.fits _ (mem_instants_iff.mpr (.inr (.inr notifies))))
          · exact Instant.not_lt_iff_le.mpr upTo late
          · exact Instant.not_lt_iff_le.mpr since early

theorem keepsRules_toDraft_iff :
    event.toDraft.KeepsRules needsId ↔ (needsId = true → event.id ≠ 0) ∧ event.KeepsRules := by
  constructor
  · intro rules
    have storable {time : Instant} (member : time ∈ event.toDraft.instants) : time.isStorable = true :=
      Instant.isStorable_iff.mpr (rules.fits time member)
    refine ⟨rules.id, rules.userId, rules.title, storable (mem_instants_iff.mpr (.inl rfl)),
      storable (mem_instants_iff.mpr (.inr (.inl rfl))), rules.ordered _ rfl _ rfl, ?_⟩
    intro time notifies
    exact ⟨storable (mem_instants_iff.mpr (.inr (.inr notifies))), rules.notifyTime _ rfl _ rfl time notifies⟩
  · rintro ⟨hasId, keeps⟩
    refine ⟨hasId, keeps.userId, keeps.title, rfl, rfl, ?_, ?_, ?_⟩
    · intro time member
      rw [← Instant.isStorable_iff]
      rcases mem_instants_iff.mp member with starts | ends | notifies
      · cases starts
        exact keeps.onTime
      · cases ends
        exact keeps.offTime
      · exact (keeps.notifyTime time notifies).1
    · rintro _ ⟨⟩ _ ⟨⟩
      exact keeps.ordered
    · rintro _ ⟨⟩ _ ⟨⟩ time notifies
      exact (keeps.notifyTime time notifies).2

theorem check_accepts_iff : draft.check needsId = .ok event ↔ draft.KeepsRules needsId ∧ event.IsOf draft := by
  rw [check_eq_ok_iff, Event.isOf_iff]
  constructor
  · rintro ⟨hasId, keeps, unmarked, rfl⟩
    exact ⟨keepsRules_toDraft_iff.mpr ⟨hasId, keeps⟩, rfl, unmarked⟩
  · rintro ⟨rules, rfl, unmarked⟩
    obtain ⟨hasId, keeps⟩ := keepsRules_toDraft_iff.mp rules
    exact ⟨hasId, keeps, unmarked, rfl⟩

def KeepsBefore (draft : Draft) (needsId : Bool) (field : Field) : Prop :=
  ∀ other, draft.Breaks needsId other → field.place ≤ other.field.place

theorem keepsBefore_id : draft.KeepsBefore needsId .id := fun _ _ => Nat.zero_le _

namespace KeepsBefore

variable {field next : Field}

theorem step (kept : draft.KeepsBefore needsId field) (follows : next.place = field.place + 1)
    (fine : ∀ reason, ¬ draft.Breaks needsId ⟨field, reason⟩) : draft.KeepsBefore needsId next := by
  intro other breaks
  rw [follows]
  refine Nat.lt_of_le_of_ne (kept other breaks) fun same => ?_
  cases Field.place_inj same
  exact fine other.reason breaks

theorem breaksFirst (kept : draft.KeepsBefore needsId field) (breaks : draft.Breaks needsId ⟨field, reason⟩)
    (first : ∀ other, draft.Breaks needsId ⟨field, other⟩ → other = reason ∨ reason.place < other.place) :
    draft.BreaksFirst needsId ⟨field, reason⟩ := by
  refine ⟨breaks, fun other otherBreaks => ?_⟩
  rcases Nat.lt_or_eq_of_le (kept other otherBreaks) with later | same
  · exact .inr (.inl later)
  · cases Field.place_inj same
    rcases first other.reason otherBreaks with rfl | after
    · exact .inl rfl
    · exact .inr (.inr ⟨rfl, after⟩)

theorem guard {α : Type} {broken : Prop} [Decidable broken] {rest : Except Violation α}
    (kept : draft.KeepsBefore needsId field) (next : Field) (follows : next.place = field.place + 1)
    (rule : ∀ other, draft.Breaks needsId ⟨field, other⟩ ↔ other = reason ∧ broken)
    (refused : (if broken then .error ⟨field, reason⟩ else rest) = .error violation) :
    draft.BreaksFirst needsId violation ∨ draft.KeepsBefore needsId next ∧ rest = .error violation := by
  split at refused
  · next broke =>
    cases refused
    exact .inl (kept.breaksFirst ((rule _).mpr ⟨rfl, broke⟩) fun other breaks => .inl ((rule other).mp breaks).1)
  · next fine => exact .inr ⟨kept.step follows fun other breaks => fine ((rule other).mp breaks).2, refused⟩

theorem breaksFirst_of_instant {α : Type} {result : α} {one two : Reason} {unfit isOne isTwo : Prop}
    [Decidable unfit] [Decidable isOne] [Decidable isTwo] (kept : draft.KeepsBefore needsId field)
    (broken : ∀ reason, draft.Breaks needsId ⟨field, reason⟩ ↔
      reason = .outOfRange ∧ unfit ∨ reason = one ∧ isOne ∨ reason = two ∧ isTwo)
    (placeOne : one.place = 2) (placeTwo : two.place = 2) (apart : ¬ (isOne ∧ isTwo))
    (refused : (if unfit then .error ⟨field, .outOfRange⟩ else if isOne then .error ⟨field, one⟩
      else if isTwo then .error ⟨field, two⟩ else .ok result : Except Violation α) = .error violation) :
    draft.BreaksFirst needsId violation := by
  split at refused
  · next outside =>
    cases refused
    refine kept.breaksFirst ((broken _).mpr (.inl ⟨rfl, outside⟩)) fun other breaks => ?_
    rcases (broken other).mp breaks with ⟨rfl, -⟩ | ⟨rfl, -⟩ | ⟨rfl, -⟩
    · exact .inl rfl
    · exact .inr (placeOne ▸ Nat.one_lt_two)
    · exact .inr (placeTwo ▸ Nat.one_lt_two)
  next inside =>
  split at refused
  · next first =>
    cases refused
    refine kept.breaksFirst ((broken _).mpr (.inr (.inl ⟨rfl, first⟩))) fun other breaks => ?_
    rcases (broken other).mp breaks with ⟨-, outside⟩ | ⟨rfl, -⟩ | ⟨-, second⟩
    · exact absurd outside inside
    · exact .inl rfl
    · exact absurd ⟨first, second⟩ apart
  next notFirst =>
  split at refused
  · next second =>
    cases refused
    refine kept.breaksFirst ((broken _).mpr (.inr (.inr ⟨rfl, second⟩))) fun other breaks => ?_
    rcases (broken other).mp breaks with ⟨-, outside⟩ | ⟨-, first⟩ | ⟨rfl, -⟩
    · exact absurd outside inside
    · exact absurd first notFirst
    · exact .inl rfl
  · cases refused

end KeepsBefore

theorem breaksFirst_of_checkOffTime (kept : draft.KeepsBefore needsId .offTime) (starts : draft.onTime = some onTime)
    (refused : checkOffTime onTime draft.offTime = .error violation) : draft.BreaksFirst needsId violation := by
  cases ends : draft.offTime with
  | none =>
      rw [ends] at refused
      cases refused
      exact kept.breaksFirst ends fun other breaks => .inl ((breaks_offTime_none ends).mp breaks)
  | some offTime =>
      simp only [checkOffTime, ends, Instant.isStorable_iff] at refused
      refine kept.breaksFirst_of_instant (fun _ => breaks_offTime_some starts ends) rfl rfl ?_ refused
      rintro ⟨early, same⟩
      exact (Instant.lt_iff_le_and_ne.mp early).2 same.symm

theorem breaksFirst_of_checkNotifyTime (kept : draft.KeepsBefore needsId .notifyTime)
    (starts : draft.onTime = some onTime) (ends : draft.offTime = some offTime) (ordered : onTime < offTime)
    (refused : checkNotifyTime onTime offTime draft.notifyTime = .error violation) :
    draft.BreaksFirst needsId violation := by
  cases notifies : draft.notifyTime with
  | none =>
      rw [notifies] at refused
      cases refused
  | some notifyTime =>
      simp only [checkNotifyTime, notifies, Instant.isStorable_iff] at refused
      refine kept.breaksFirst_of_instant (fun _ => breaks_notifyTime_some starts ends notifies) rfl rfl ?_ refused
      -- The start is before the end, so no instant is after the end and before the start.
      rintro ⟨late, early⟩
      simp only [Instant.lt_def] at ordered late early
      omega

theorem breaksFirst_of_check (refused : draft.check needsId = .error violation) :
    draft.BreaksFirst needsId violation := by
  -- The check goes from field to field, and has found nothing broken before the one at which it stops.
  simp only [check, Instant.isStorable_iff] at refused
  rcases keepsBefore_id.guard .userId rfl (fun _ => breaks_id_iff) refused with first | ⟨kept, refused⟩
  · exact first
  rcases kept.guard .title rfl (fun _ => breaks_userId_iff) refused with first | ⟨kept, refused⟩
  · exact first
  rcases kept.guard .onTime rfl (fun _ => breaks_title_iff) refused with first | ⟨kept, refused⟩
  · exact first
  cases starts : draft.onTime with
  | none =>
      simp only [starts] at refused
      cases refused
      exact kept.breaksFirst starts fun other breaks => .inl ((breaks_onTime_none starts).mp breaks)
  | some onTime =>
      simp only [starts] at refused
      rcases kept.guard .offTime rfl (fun _ => breaks_onTime_some starts) refused with first | ⟨kept, refused⟩
      · exact first
      rcases bind_eq_error_iff.mp refused with refused | ⟨offTime, checked, refused⟩
      · exact breaksFirst_of_checkOffTime kept starts refused
      obtain ⟨ends, storable, ordered⟩ := checkOffTime_eq_ok_iff.mp checked
      have kept : draft.KeepsBefore needsId .notifyTime :=
        kept.step rfl fun _ => not_breaks_offTime starts ends (Instant.isStorable_iff.mp storable) ordered
      rcases bind_eq_error_iff.mp refused with refused | ⟨-, -, refused⟩
      · exact breaksFirst_of_checkNotifyTime kept starts ends ordered refused
      · cases refused

theorem BreaksFirst.unique {other : Violation} (first : draft.BreaksFirst needsId violation)
    (second : draft.BreaksFirst needsId other) : other = violation := by
  rcases first.2 other second.1 with same | before
  · exact same
  · rcases second.2 violation first.1 with same | after
    · exact same.symm
    · exact absurd after before.asymm

/-- A draft is accepted exactly if it keeps all rules, then as it is, and accepted again in the same way.
Otherwise the violation reported is that of the first rule that it breaks. -/
theorem check_exact (draft : Draft) (needsId : Bool) :
    ((∃ event, draft.check needsId = .ok event) ↔ draft.KeepsRules needsId) ∧
    (∀ event, draft.check needsId = .ok event ↔ draft.KeepsRules needsId ∧ event.IsOf draft) ∧
    (∀ event, draft.check needsId = .ok event → event.toDraft.check needsId = .ok event) ∧
    ∀ violation, draft.check needsId = .error violation ↔ draft.BreaksFirst needsId violation := by
  refine ⟨?_, fun event => check_accepts_iff, ?_, fun violation => ?_⟩
  · constructor
    · rintro ⟨event, accepted⟩
      exact (check_accepts_iff.mp accepted).1
    · intro rules
      cases result : draft.check needsId with
      | ok event => exact ⟨event, rfl⟩
      | error violation => exact absurd (breaksFirst_of_check result).1 rules.not_breaks
  · intro event accepted
    obtain ⟨same, -⟩ := Event.isOf_iff.mp (check_accepts_iff.mp accepted).2
    rwa [same]
  · constructor
    · exact breaksFirst_of_check
    · intro first
      cases result : draft.check needsId with
      | ok event => exact absurd first.1 (check_accepts_iff.mp result).1.not_breaks
      | error other => rw [first.unique (breaksFirst_of_check result)]

example : Draft.blank.check false = .error ⟨.userId, .zero⟩ := by decide

def limitDraft : Draft where
  id := 0
  userId := 1
  title := String.ofList (List.replicate 150 'é')
  description := ""
  onTime := some NanoCount.least.toInstant
  offTime := some NanoCount.greatest.toInstant
  notifyTime := some ⟨1435708799, 1999999999, by decide, by decide, by decide, by decide⟩

-- The end is before the start, and the notice between the two and so on the wrong side of both.
def tangledDraft : Draft :=
  { limitDraft with id := 1, onTime := limitDraft.offTime, offTime := limitDraft.onTime }

theorem check_exact_at_limits :
    ∃ event : Event, limitDraft.check false = .ok event ∧ event.IsOf limitDraft ∧
      event.toDraft.check false = .ok event ∧ tangledDraft.BreaksFirst true ⟨.offTime, .beforeStart⟩ ∧
      tangledDraft.Breaks true ⟨.notifyTime, .afterEnd⟩ ∧ tangledDraft.Breaks true ⟨.notifyTime, .beforeStart⟩ := by
  have titled : limitDraft.title.length = 150 := String.length_ofList
  have accepted : limitDraft.check false = .ok ⟨0, 1, limitDraft.title, "", NanoCount.least.toInstant,
      NanoCount.greatest.toInstant, limitDraft.notifyTime, false⟩ := by
    rw [check, titled]
    rfl
  have tangled : tangledDraft.check true = .error ⟨.offTime, .beforeStart⟩ := by
    rw [check, show tangledDraft.title.length = 150 from titled]
    rfl
  obtain ⟨-, describes, again, -⟩ := check_exact limitDraft false
  obtain ⟨-, -, -, refuses⟩ := check_exact tangledDraft true
  refine ⟨_, accepted, ((describes _).mp accepted).2, again _ accepted, (refuses _).mp tangled, ?_, ?_⟩
  · exact ⟨_, rfl, _, rfl, by decide⟩
  · exact ⟨_, rfl, _, rfl, by decide⟩

end Draft
end Datebook
