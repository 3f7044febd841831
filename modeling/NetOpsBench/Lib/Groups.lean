import Mathlib.Data.List.Forall2
import Mathlib.Data.List.Nodup
import Mathlib.Data.List.Perm.Basic

/-!
# Lists in groups

The elements of a list by a key, one group for each key: together the groups are the list, and a
group is found again among all.
-/

namespace Groups

variable {α β : Type} [DecidableEq β]

/-- The groups of all keys, one after the other. -/
theorem perm_flatMap_filter (key : α → β) {keys : List β} (nodup : keys.Nodup) {xs : List α}
    (inside : ∀ x ∈ xs, key x ∈ keys) :
    (keys.flatMap fun k => xs.filter fun x => key x = k).Perm xs := by
  induction keys generalizing xs with
  | nil =>
      cases xs with
      | nil => exact .refl _
      | cons x xs => exact absurd (inside x List.mem_cons_self) List.not_mem_nil
  | cons k keys ih =>
      rcases List.nodup_cons.mp nodup with ⟨apart, nodup⟩
      have others : (keys.flatMap fun k' => xs.filter fun x => key x = k') =
          keys.flatMap fun k' => (xs.filter fun x => !decide (key x = k)).filter
            fun x => key x = k' := by
        refine List.flatMap_congr fun k' mem => ?_
        rw [List.filter_filter]
        refine List.filter_congr fun x _ => ?_
        by_cases isKey : key x = k'
        · have differs : key x ≠ k := fun same => apart (same.symm.trans isKey ▸ mem)
          simp [isKey, isKey ▸ differs]
        · simp [isKey]
      rw [List.flatMap_cons, others]
      refine ((ih nodup fun x mem => ?_).append_left _).trans (List.filter_append_perm _ xs)
      rcases List.mem_filter.mp mem with ⟨mem, differs⟩
      rcases List.mem_cons.mp (inside x mem) with same | later
      · simp [same] at differs
      · exact later

/-- In a concatenation of groups with distinct keys, the elements of one key are its group. -/
theorem filter_flatten (key : α → β) {keys : List β} {groups : List (List α)}
    (owned : List.Forall₂ (fun k group => ∀ x ∈ group, key x = k) keys groups)
    (nodup : keys.Nodup) {i : Nat} {k : β} {group : List α} (isKey : keys[i]? = some k)
    (isGroup : groups[i]? = some group) :
    (groups.flatten.filter fun x => key x = k) = group := by
  induction owned generalizing i with
  | nil => cases isKey
  | @cons k' group' keys groups owner owned ih =>
      rcases List.nodup_cons.mp nodup with ⟨apart, nodup⟩
      rw [List.flatten_cons, List.filter_append]
      cases i with
      | zero =>
          obtain rfl := Option.some.inj isKey
          obtain rfl := Option.some.inj isGroup
          have none : (groups.flatten.filter fun x => key x = k') = [] := by
            rw [List.filter_eq_nil_iff]
            intro x mem same
            obtain ⟨other, isOther, mem⟩ := List.mem_flatten.mp mem
            obtain ⟨j, below, rfl⟩ := List.mem_iff_getElem.mp isOther
            have ownerOf := owned.get (by rw [owned.length_eq]; exact below) below x mem
            refine apart ?_
            rw [← of_decide_eq_true same, ownerOf]
            exact List.getElem_mem _
          rw [none, List.append_nil, List.filter_eq_self]
          intro x mem
          exact decide_eq_true (owner x mem)
      | succ i =>
          have none : (group'.filter fun x => key x = k) = [] := by
            rw [List.filter_eq_nil_iff]
            intro x mem same
            refine apart ?_
            rw [← owner x mem, of_decide_eq_true same]
            exact List.mem_of_getElem? isKey
          rw [none, List.nil_append]
          exact ih nodup isKey isGroup

end Groups
