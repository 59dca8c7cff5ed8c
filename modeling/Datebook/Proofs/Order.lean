import Mathlib.Data.List.Nodup
import Datebook.Store.Request

set_option autoImplicit false

namespace Datebook

namespace Instant

variable {left right : Instant}

theorem eq_iff : left = right ↔ left.seconds = right.seconds ∧ left.nanos = right.nanos := by
  constructor
  · intro same
    subst same
    exact ⟨rfl, rfl⟩
  · rintro ⟨seconds, nanos⟩
    exact ext_pair seconds nanos

theorem not_le_iff_lt : ¬ left ≤ right ↔ right < left := by
  simp only [le_def, lt_def]
  omega

theorem not_lt_iff_le : ¬ left < right ↔ right ≤ left := by
  simp only [le_def, lt_def]
  omega

theorem le_of_lt (earlier : left < right) : left ≤ right := by
  simp only [le_def, lt_def] at *
  omega

theorem lt_iff_le_and_ne : left < right ↔ left ≤ right ∧ right ≠ left := by
  simp only [le_def, lt_def, ne_eq, eq_iff]
  omega

end Instant

section Translation

variable {α β : Type} {before : α → α → Bool} {before' : β → β → Bool} {translate : α → β}

theorem map_insertSorted (item : α) (items : List α)
    (agrees : ∀ other ∈ items, before' (translate item) (translate other) = before item other) :
    (insertSorted before item items).map translate =
      insertSorted before' (translate item) (items.map translate) := by
  induction items with
  | nil => rfl
  | cons next rest ih =>
      have first := agrees next (by simp)
      have others := ih fun other member => agrees other (by simp [member])
      cases earlier : before item next <;>
        simp [insertSorted, first, earlier, others]

theorem map_sorted (items : List α)
    (agrees : ∀ left ∈ items, ∀ right ∈ items,
      before' (translate left) (translate right) = before left right) :
    (sorted before items).map translate = sorted before' (items.map translate) := by
  induction items with
  | nil => rfl
  | cons item rest ih =>
      have others := ih fun left inLeft right inRight =>
        agrees left (by simp [inLeft]) right (by simp [inRight])
      calc
        (sorted before (item :: rest)).map translate
            = insertSorted before' (translate item) ((sorted before rest).map translate) := by
              apply map_insertSorted
              intro other member
              have : other ∈ rest := (sorted_perm before rest).mem_iff.mp member
              exact agrees item (by simp) other (by simp [this])
        _ = insertSorted before' (translate item) (sorted before' (rest.map translate)) := by rw [others]

end Translation

namespace Event

theorem comesBefore_iff {left right : Event} : left.comesBefore right = true ↔
    left.onTime < right.onTime ∨ left.onTime = right.onTime ∧ left.id ≤ right.id := by
  simp only [comesBefore, Bool.or_eq_true, Bool.and_eq_true, decide_eq_true_eq]

theorem comesBefore_trans (first second third : Event) (left : first.comesBefore second = true)
    (right : second.comesBefore third = true) : first.comesBefore third = true := by
  simp only [comesBefore_iff, Instant.lt_def, Instant.eq_iff, UInt64.le_iff_toNat_le] at *
  omega

theorem comesBefore_total (first second : Event) :
    first.comesBefore second = true ∨ second.comesBefore first = true := by
  simp only [comesBefore_iff, Instant.lt_def, Instant.eq_iff, UInt64.le_iff_toNat_le]
  omega

def Precedes (left right : Event) : Prop :=
  left.onTime < right.onTime ∨ left.onTime = right.onTime ∧ left.id < right.id

theorem precedes_of_comesBefore {left right : Event} (before : left.comesBefore right = true)
    (distinct : left.id ≠ right.id) : left.Precedes right := by
  rcases comesBefore_iff.mp before with earlier | ⟨same, le⟩
  · exact Or.inl earlier
  · exact Or.inr ⟨same, UInt64.lt_of_le_of_ne le distinct⟩

theorem id_eq_of_comesBefore {left right : Event} (before : left.comesBefore right = true)
    (after : right.comesBefore left = true) : left.id = right.id := by
  rw [← UInt64.toNat_inj]
  simp only [comesBefore_iff, Instant.lt_def, Instant.eq_iff, UInt64.le_iff_toNat_le] at before after
  omega

theorem sort_perm (events : List Event) : (sort events).Perm events := sorted_perm comesBefore events

theorem eq_of_id_eq {events : List Event} (distinct : (events.map id).Nodup) {left right : Event}
    (inLeft : left ∈ events) (inRight : right ∈ events) (same : left.id = right.id) : left = right :=
  List.inj_on_of_nodup_map distinct inLeft inRight same

theorem sort_eq_of_perm {left right : List Event} (same : left.Perm right)
    (distinct : (left.map id).Nodup) : sort left = sort right := by
  -- Two sorted arrangements of the same events agree, as only equal events come before each other.
  refine List.Perm.eq_of_pairwise ?_
    (pairwise_sorted comesBefore_trans comesBefore_total left)
    (pairwise_sorted comesBefore_trans comesBefore_total right)
    ((sort_perm left).trans (same.trans (sort_perm right).symm))
  intro first second inLeft inRight before after
  have firstMember := (sort_perm left).mem_iff.mp inLeft
  have secondMember := same.mem_iff.mpr ((sort_perm right).mem_iff.mp inRight)
  exact eq_of_id_eq distinct firstMember secondMember (id_eq_of_comesBefore before after)

theorem pairwise_precedes_sort {events : List Event} (distinct : (events.map id).Nodup) :
    (sort events).Pairwise Precedes := by
  have ordered := pairwise_sorted comesBefore_trans comesBefore_total events
  have different : (sort events).Pairwise fun left right => left.id ≠ right.id :=
    List.pairwise_map.mp (((sort_perm events).map id).nodup_iff.mpr distinct)
  exact (ordered.and different).imp fun both => precedes_of_comesBefore both.1 both.2

end Event
end Datebook
