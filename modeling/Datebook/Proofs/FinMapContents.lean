import Mathlib.Data.List.Basic
import Datebook.FinMap

set_option autoImplicit false

namespace Datebook.FinMap

variable {κ ν : Type}

def Keyed (map : FinMap κ ν) (keyOf : ν → κ) : Prop :=
  ∀ entry ∈ map.entries, keyOf entry.2 = entry.1

section Keyed

variable {map : FinMap κ ν} {keyOf : ν → κ}

theorem Keyed.map_values (keyed : map.Keyed keyOf) : map.values.map keyOf = map.keys := by
  rw [values, keys, List.map_map]
  apply List.map_congr_left
  intro entry member
  exact keyed entry member

theorem Keyed.nodup (keyed : map.Keyed keyOf) : (map.values.map keyOf).Nodup := by
  rw [keyed.map_values]
  exact map.distinct

theorem Keyed.entries_eq (keyed : map.Keyed keyOf) :
    map.entries = map.values.map fun value => (keyOf value, value) := by
  rw [values, List.map_map]
  conv_lhs => rw [← List.map_id map.entries]
  apply List.map_congr_left
  intro entry member
  simp [keyed entry member]

variable [DecidableEq κ]

theorem Keyed.get?_eq_find? (keyed : map.Keyed keyOf) (key : κ) :
    map.get? key = map.values.find? fun value => keyOf value = key := by
  rw [get?, keyed.entries_eq, List.find?_map]
  simp [Function.comp_def]

theorem Keyed.get?_eq_some_iff (keyed : map.Keyed keyOf) {key : κ} {value : ν} :
    map.get? key = some value ↔ value ∈ map.values ∧ keyOf value = key := by
  rw [FinMap.get?_eq_some_iff, keyed.entries_eq, List.mem_map]
  constructor
  · rintro ⟨found, member, same⟩
    cases same
    exact ⟨member, rfl⟩
  · rintro ⟨member, same⟩
    exact ⟨value, member, by rw [same]⟩

theorem Keyed.put (keyed : map.Keyed keyOf) {key : κ} {value : ν} (own : keyOf value = key) :
    (map.put key value).Keyed keyOf := by
  rintro ⟨other, content⟩ member
  rcases get?_put_eq_some_iff.mp (FinMap.get?_eq_some_iff.mpr member) with ⟨rfl, rfl⟩ | ⟨-, isOld⟩
  · exact own
  · exact keyed _ (FinMap.get?_eq_some_iff.mp isOld)

theorem Keyed.erase (keyed : map.Keyed keyOf) (key : κ) : (map.erase key).Keyed keyOf :=
  fun entry member => keyed entry (List.mem_of_mem_filter member)

theorem Keyed.values_put (keyed : map.Keyed keyOf) {key : κ} {old : ν}
    (present : map.get? key = some old) (value : ν) :
    (map.put key value).values = map.values.map fun other => if keyOf other = key then value else other := by
  have inKeys : key ∈ map.keys := by
    by_contra absent
    rw [get?_eq_none_iff.mpr absent] at present
    cases present
  simp only [FinMap.put, inKeys, dif_pos, values, replaceIn, List.map_map]
  apply List.map_congr_left
  intro entry member
  simp only [Function.comp_apply, keyed entry member]
  split <;> rfl

theorem Keyed.values_erase (keyed : map.Keyed keyOf) (key : κ) :
    (map.erase key).values = map.values.filter fun value => keyOf value ≠ key := by
  change (map.entries.filter fun entry => entry.1 ≠ key).map Prod.snd = _
  rw [keyed.entries_eq, List.filter_map, List.map_map]
  simp [Function.comp_def]

end Keyed

section Adjust

variable {map : FinMap κ ν} {apply : κ → ν → ν} {key : κ}

def adjust (map : FinMap κ ν) (apply : κ → ν → ν) : FinMap κ ν :=
  ⟨map.entries.map fun entry => (entry.1, apply entry.1 entry.2), by
    rw [List.map_map]
    exact map.distinct⟩

theorem keys_adjust : (map.adjust apply).keys = map.keys := by
  simp only [keys, adjust, List.map_map]
  rfl

variable [DecidableEq κ]

theorem get?_adjust : (map.adjust apply).get? key = (map.get? key).map (apply key) := by
  simp only [get?, adjust, List.find?_map, Option.map_map]
  cases found : map.entries.find? fun entry => entry.1 = key with
  | none => simp [Function.comp_def, found]
  | some entry =>
      have own := List.find?_some found
      simp only [decide_eq_true_eq] at own
      simp [Function.comp_def, found, own]

theorem put_adjust {old : ν} (found : map.get? key = some old) (change : ν → ν) :
    (map.adjust apply).put key (change old) =
      map.adjust fun other content => if other = key then change content else apply other content := by
  have present : key ∈ (map.adjust apply).keys := by
    rw [keys_adjust]
    exact List.mem_map_of_mem (get?_eq_some_iff.mp found)
  rw [put, dif_pos present]
  simp only [adjust, replaceIn, List.map_map, FinMap.mk.injEq]
  apply List.map_congr_left
  rintro ⟨other, content⟩ member
  by_cases same : other = key
  · subst same
    rw [get?_eq_some_iff.mpr member] at found
    cases found
    simp
  · simp [same]

end Adjust

variable [DecidableEq κ]

theorem put_of_get? {map : FinMap κ ν} {key : κ} {value : ν} (found : map.get? key = some value) :
    map.put key value = map := by
  have member := FinMap.get?_eq_some_iff.mp found
  have present : key ∈ map.keys := List.mem_map_of_mem member
  have same : replaceIn map.entries key value = map.entries := by
    rw [replaceIn]
    conv_rhs => rw [← List.map_id map.entries]
    apply List.map_congr_left
    rintro ⟨other, content⟩ isThere
    split
    · next isKey =>
      subst isKey
      rw [FinMap.get?_eq_some_iff.mpr isThere] at found
      cases found
      rfl
    · rfl
  obtain ⟨entries, distinct⟩ := map
  simp only [put, present, dif_pos, same]

theorem values_put_of_absent {map : FinMap κ ν} {key : κ} (absent : map.get? key = none) (value : ν) :
    (map.put key value).values = map.values ++ [value] := by
  have notInKeys : key ∉ map.keys := get?_eq_none_iff.mp absent
  simp [FinMap.put, notInKeys, values]

end Datebook.FinMap
