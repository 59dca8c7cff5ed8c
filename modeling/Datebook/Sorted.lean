set_option autoImplicit false

namespace Datebook

variable {α : Type}

def insertSorted (before : α → α → Bool) (item : α) : List α → List α
  | [] => [item]
  | next :: rest =>
      if before item next then item :: next :: rest else next :: insertSorted before item rest

def sorted (before : α → α → Bool) (items : List α) : List α := items.foldr (insertSorted before) []

theorem insertSorted_perm (before : α → α → Bool) (item : α) (items : List α) :
    (insertSorted before item items).Perm (item :: items) := by
  induction items with
  | nil => exact .refl _
  | cons next rest ih =>
      simp only [insertSorted]
      split
      · exact .refl _
      · exact (ih.cons next).trans (.swap item next rest)

theorem sorted_perm (before : α → α → Bool) (items : List α) : (sorted before items).Perm items := by
  induction items with
  | nil => exact .refl _
  | cons item rest ih => exact (insertSorted_perm before item _).trans (ih.cons item)

theorem pairwise_insertSorted {before : α → α → Bool}
    (trans : ∀ first second third, before first second → before second third → before first third)
    (total : ∀ first second, before first second ∨ before second first) (item : α) {items : List α}
    (ordered : items.Pairwise fun first second => before first second) :
    (insertSorted before item items).Pairwise fun first second => before first second := by
  induction items with
  | nil => exact List.pairwise_singleton _ _
  | cons next rest ih =>
      obtain ⟨leads, others⟩ := List.pairwise_cons.mp ordered
      simp only [insertSorted]
      split
      · next earlier =>
        refine List.pairwise_cons.mpr ⟨?_, ordered⟩
        intro other member
        rcases List.mem_cons.mp member with rfl | member
        · exact earlier
        · exact trans _ _ _ earlier (leads other member)
      · next later =>
        refine List.pairwise_cons.mpr ⟨?_, ih others⟩
        intro other member
        rcases List.mem_cons.mp ((insertSorted_perm before item rest).mem_iff.mp member) with rfl | member
        · exact (total other next).resolve_left later
        · exact leads other member

theorem pairwise_sorted {before : α → α → Bool}
    (trans : ∀ first second third, before first second → before second third → before first third)
    (total : ∀ first second, before first second ∨ before second first) (items : List α) :
    (sorted before items).Pairwise fun first second => before first second := by
  induction items with
  | nil => exact .nil
  | cons item rest ih => exact pairwise_insertSorted trans total item ih

end Datebook
