set_option autoImplicit false

namespace Datebook

structure FinMap (κ ν : Type) where
  entries : List (κ × ν)
  distinct : (entries.map Prod.fst).Nodup
  deriving DecidableEq

namespace FinMap

variable {κ ν : Type}

def empty : FinMap κ ν := ⟨[], List.nodup_nil⟩

def keys (map : FinMap κ ν) : List κ := map.entries.map Prod.fst

def values (map : FinMap κ ν) : List ν := map.entries.map Prod.snd

def size (map : FinMap κ ν) : Nat := map.entries.length

variable [DecidableEq κ]

def get? (map : FinMap κ ν) (key : κ) : Option ν :=
  (map.entries.find? fun entry => entry.1 = key).map Prod.snd

def replaceIn (entries : List (κ × ν)) (key : κ) (value : ν) : List (κ × ν) :=
  entries.map fun entry => if entry.1 = key then (key, value) else entry

theorem keys_replaceIn (entries : List (κ × ν)) (key : κ) (value : ν) :
    (replaceIn entries key value).map Prod.fst = entries.map Prod.fst := by
  rw [replaceIn, List.map_map]
  apply List.map_congr_left
  intro entry _
  simp only [Function.comp_apply]
  split
  · simp_all
  · rfl

/-- Binds the key to the value; a new key comes last, another keeps its place. -/
def put (map : FinMap κ ν) (key : κ) (value : ν) : FinMap κ ν :=
  if present : key ∈ map.keys then
    ⟨replaceIn map.entries key value, by rw [keys_replaceIn]; exact map.distinct⟩
  else
    ⟨map.entries ++ [(key, value)], by
      rw [List.map_append, List.nodup_append]
      refine ⟨map.distinct, by simp, ?_⟩
      intro other member last isLast same
      simp only [List.map_cons, List.map_nil, List.mem_singleton] at isLast
      exact present (isLast ▸ same ▸ member)⟩

def erase (map : FinMap κ ν) (key : κ) : FinMap κ ν :=
  ⟨map.entries.filter fun entry => entry.1 ≠ key,
    map.distinct.sublist (List.filter_sublist.map Prod.fst)⟩

theorem get?_eq_some_iff {map : FinMap κ ν} {key : κ} {value : ν} :
    map.get? key = some value ↔ (key, value) ∈ map.entries := by
  obtain ⟨entries, distinct⟩ := map
  simp only [get?]
  induction entries with
  | nil => simp
  | cons entry rest ih =>
      obtain ⟨first, content⟩ := entry
      simp only [List.map_cons, List.nodup_cons] at distinct
      rw [List.find?_cons]
      by_cases same : first = key
      · subst same
        simp only [decide_true, Option.map_some, Option.some.injEq, List.mem_cons, Prod.mk.injEq, true_and]
        constructor
        · intro h
          exact Or.inl h.symm
        · rintro (h | member)
          · exact h.symm
          · exact absurd (List.mem_map_of_mem (f := Prod.fst) member) distinct.1
      · simp only [same, decide_false, List.mem_cons, Prod.mk.injEq, Ne.symm same, false_and, false_or]
        exact ih distinct.2

theorem get?_eq_none_iff {map : FinMap κ ν} {key : κ} : map.get? key = none ↔ key ∉ map.keys := by
  simp only [get?, keys, Option.map_eq_none_iff, List.find?_eq_none, decide_eq_true_eq, List.mem_map,
    not_exists, not_and]

theorem get?_empty (key : κ) : (empty : FinMap κ ν).get? key = none := rfl

theorem get?_put (map : FinMap κ ν) (key other : κ) (value : ν) :
    (map.put key value).get? other = if other = key then some value else map.get? other := by
  unfold put
  split
  · next present =>
    simp only [get?, replaceIn, List.find?_map]
    by_cases same : other = key
    · subst same
      rw [if_pos rfl]
      obtain ⟨entry, member, isKey⟩ := List.mem_map.mp present
      have found : (map.entries.find? ((fun entry => decide (entry.1 = other)) ∘
          fun entry => if entry.1 = other then (other, value) else entry)).isSome := by
        rw [List.find?_isSome]
        exact ⟨entry, member, by simp [isKey]⟩
      obtain ⟨hit, isHit⟩ := Option.isSome_iff_exists.mp found
      rw [isHit]
      have := List.find?_some isHit
      simp only [Function.comp_apply, decide_eq_true_eq] at this
      simp only [Option.map_some]
      split
      · rfl
      · next differs =>
        rw [if_neg differs] at this
        exact absurd this differs
    · rw [if_neg same]
      have sameTest : ((fun entry : κ × ν => decide (entry.1 = other)) ∘
          fun entry => if entry.1 = key then (key, value) else entry) =
          fun entry => decide (entry.1 = other) := by
        funext entry
        simp only [Function.comp_apply]
        split
        · next isKey => simp [isKey]
        · rfl
      rw [sameTest]
      cases found : map.entries.find? fun entry => decide (entry.1 = other) with
      | none => rfl
      | some hit =>
          have := List.find?_some found
          simp only [decide_eq_true_eq] at this
          simp only [Option.map_some]
          rw [if_neg (this ▸ same)]
  · next absent =>
    simp only [get?, List.find?_append]
    by_cases same : other = key
    · subst same
      have none : map.entries.find? (fun entry => decide (entry.1 = other)) = none := by
        have := get?_eq_none_iff.mpr absent
        simpa [get?] using this
      simp [none]
    · simp [same, Ne.symm same]

theorem get?_put_self (map : FinMap κ ν) (key : κ) (value : ν) : (map.put key value).get? key = some value := by
  rw [get?_put, if_pos rfl]

theorem get?_put_of_ne (map : FinMap κ ν) {key other : κ} (differs : other ≠ key) (value : ν) :
    (map.put key value).get? other = map.get? other := by
  rw [get?_put, if_neg differs]

theorem get?_put_eq_some_iff {map : FinMap κ ν} {key other : κ} {value found : ν} :
    (map.put key value).get? other = some found ↔
      other = key ∧ found = value ∨ other ≠ key ∧ map.get? other = some found := by
  by_cases same : other = key
  · subst same
    simp [get?_put_self, eq_comm]
  · simp [get?_put_of_ne map same, same]

theorem get?_erase (map : FinMap κ ν) (key other : κ) :
    (map.erase key).get? other = if other = key then none else map.get? other := by
  simp only [erase, get?, List.find?_filter]
  by_cases same : other = key
  · subst same
    simp
  · rw [if_neg same]
    congr 2
    funext entry
    by_cases isOther : entry.1 = other
    · simp [isOther, same]
    · simp [isOther]

end FinMap
end Datebook
