import Mathlib.Algebra.Order.Ring.Nat
import Mathlib.Data.List.Dedup
import Mathlib.Data.List.Induction
import Mathlib.Data.List.Nodup

/-!
# Insertion-ordered dictionaries

A `Dict` is the list of its entries in the order in which their keys were first set; the
keys are distinct by construction. `get_set` and `mem_entries` are what a reader of a
dictionary needs.
-/

structure Dict (κ ν : Type) : Type where
  entries : List (κ × ν)
  nodup : (entries.map Prod.fst).Nodup

namespace Dict

variable {κ ν : Type}

def empty : Dict κ ν := ⟨[], List.nodup_nil⟩

def keys (d : Dict κ ν) : List κ := d.entries.map Prod.fst

def values (d : Dict κ ν) : List ν := d.entries.map Prod.snd

variable [DecidableEq κ]

def get (d : Dict κ ν) (k : κ) : Option ν := d.entries.lookup k

/-- The entries after an assignment: in place for a known key, at the end for a new one. -/
def setEntries : List (κ × ν) → κ → ν → List (κ × ν)
  | [], k, v => [(k, v)]
  | (key, value) :: rest, k, v =>
      if key = k then (key, v) :: rest else (key, value) :: setEntries rest k v

theorem keys_setEntries (entries : List (κ × ν)) (k : κ) (v : ν) :
    (setEntries entries k v).map Prod.fst =
      if k ∈ entries.map Prod.fst then entries.map Prod.fst else entries.map Prod.fst ++ [k] := by
  induction entries with
  | nil => rfl
  | cons entry rest ih =>
      obtain ⟨key, value⟩ := entry
      by_cases same : key = k
      · simp [setEntries, same]
      · have later : k ∈ key :: rest.map Prod.fst ↔ k ∈ rest.map Prod.fst := by
          simp [Ne.symm same]
        simp only [setEntries, if_neg same, List.map_cons, ih, later]
        split <;> rfl

/-- `d[k] = v` -/
def set (d : Dict κ ν) (k : κ) (v : ν) : Dict κ ν where
  entries := setEntries d.entries k v
  nodup := by
    rw [keys_setEntries]
    split
    · exact d.nodup
    · rename_i absent
      exact List.nodup_append'.mpr ⟨d.nodup, List.nodup_singleton _, by simpa using absent⟩

@[simp] theorem get_empty (k : κ) : (empty : Dict κ ν).get k = none := rfl

theorem lookup_cons (key k : κ) (value : ν) (rest : List (κ × ν)) :
    ((key, value) :: rest).lookup k = if k = key then some value else rest.lookup k := by
  rw [List.lookup_cons]
  by_cases same : k = key
  · simp [same]
  · rw [if_neg same, beq_eq_false_iff_ne.mpr same]

theorem lookup_eq_none {entries : List (κ × ν)} {k : κ} (absent : k ∉ entries.map Prod.fst) :
    entries.lookup k = none := by
  rw [List.lookup_eq_none_iff]
  intro entry mem
  have differs : k ≠ entry.1 := fun same => absent (List.mem_map.mpr ⟨entry, mem, same.symm⟩)
  simpa using differs

theorem lookup_setEntries (entries : List (κ × ν)) (k k' : κ) (v : ν) :
    (setEntries entries k v).lookup k' = if k' = k then some v else entries.lookup k' := by
  induction entries with
  | nil => exact lookup_cons k k' v []
  | cons entry rest ih =>
      obtain ⟨key, value⟩ := entry
      by_cases head : key = k
      · subst head
        rw [setEntries, if_pos rfl, lookup_cons, lookup_cons]
        split <;> rfl
      · rw [setEntries, if_neg head, lookup_cons, lookup_cons, ih]
        by_cases same : k' = key
        · rw [if_pos same, if_neg fun eq => head (same.symm.trans eq), if_pos same]
        · rw [if_neg same, if_neg same]

theorem get_set (d : Dict κ ν) (k k' : κ) (v : ν) :
    (d.set k v).get k' = if k' = k then some v else d.get k' :=
  lookup_setEntries d.entries k k' v

/-- A new key goes to the end. -/
theorem entries_set_new {d : Dict κ ν} {k : κ} (absent : k ∉ d.keys) (v : ν) :
    (d.set k v).entries = d.entries ++ [(k, v)] := by
  obtain ⟨entries, nodup⟩ := d
  change k ∉ entries.map Prod.fst at absent
  change setEntries entries k v = entries ++ [(k, v)]
  clear nodup
  induction entries with
  | nil => rfl
  | cons entry rest ih =>
      obtain ⟨key, value⟩ := entry
      rw [List.map_cons, List.mem_cons, not_or] at absent
      rw [setEntries, if_neg (Ne.symm absent.1), ih absent.2]
      rfl

/-- The last key keeps its place. -/
theorem entries_set_last {d : Dict κ ν} {k : κ} {rest : List (κ × ν)} {u : ν}
    (last : d.entries = rest ++ [(k, u)]) (v : ν) : (d.set k v).entries = rest ++ [(k, v)] := by
  obtain ⟨entries, nodup⟩ := d
  change entries = _ at last
  subst last
  change setEntries (rest ++ [(k, u)]) k v = _
  induction rest with
  | nil => exact if_pos rfl
  | cons entry rest ih =>
      obtain ⟨key, value⟩ := entry
      rw [List.cons_append, List.map_cons, List.nodup_cons] at nodup
      have differs : key ≠ k := by
        rintro rfl
        apply nodup.1
        rw [List.map_append]
        exact List.mem_append_right _ (List.mem_singleton_self _)
      rw [List.cons_append, setEntries, if_neg differs, ih nodup.2]
      rfl

theorem perm_setEntries (entries : List (κ × ν)) (k : κ) (v : ν) :
    ∃ rest, (entries.map Prod.snd).Perm ((entries.lookup k).toList ++ rest) ∧
      ((setEntries entries k v).map Prod.snd).Perm (v :: rest) := by
  induction entries with
  | nil => exact ⟨[], .refl _, .refl _⟩
  | cons entry rest ih =>
      obtain ⟨key, value⟩ := entry
      rw [lookup_cons, setEntries]
      by_cases same : k = key
      · rw [if_pos same, if_pos same.symm]
        exact ⟨rest.map Prod.snd, .refl _, .refl _⟩
      · obtain ⟨others, before, after⟩ := ih
        rw [if_neg same, if_neg (Ne.symm same)]
        refine ⟨value :: others, (before.cons value).trans List.perm_middle.symm, ?_⟩
        exact (after.cons value).trans (.swap v value others)

/-- An assignment exchanges the value of its key and leaves the others. -/
theorem perm_values_set (d : Dict κ ν) (k : κ) (v : ν) :
    ∃ rest, d.values.Perm ((d.get k).toList ++ rest) ∧ (d.set k v).values.Perm (v :: rest) :=
  perm_setEntries d.entries k v

/-- An entry is what its key is bound to. -/
theorem mem_entries {d : Dict κ ν} {k : κ} {v : ν} : (k, v) ∈ d.entries ↔ d.get k = some v := by
  obtain ⟨entries, nodup⟩ := d
  simp only [get]
  induction entries with
  | nil => simp
  | cons entry rest ih =>
      obtain ⟨key, value⟩ := entry
      rw [List.map_cons, List.nodup_cons] at nodup
      by_cases same : k = key
      · subst same
        have absent : (k, v) ∉ rest := fun mem => nodup.1 (List.mem_map.mpr ⟨_, mem, rfl⟩)
        simp [absent, eq_comm]
      · simp [lookup_cons, same, ih nodup.2]

/-- The dictionary that assigns the entries one after the other. -/
def ofEntries (entries : List (κ × ν)) : Dict κ ν :=
  entries.foldl (fun d entry => d.set entry.1 entry.2) .empty

/-- With distinct keys, every entry is found under its key and nothing else is. -/
theorem get_ofEntries {entries : List (κ × ν)} (distinct : (entries.map Prod.fst).Nodup) {k : κ}
    {v : ν} : (ofEntries entries).get k = some v ↔ (k, v) ∈ entries := by
  induction entries using List.reverseRecOn with
  | nil => simp [ofEntries]
  | append_singleton entries entry ih =>
      obtain ⟨key, value⟩ := entry
      rw [List.map_append, List.nodup_append'] at distinct
      obtain ⟨earlier, -, apart⟩ := distinct
      have unfolded : ofEntries (entries ++ [(key, value)]) = (ofEntries entries).set key value := by
        simp [ofEntries]
      rw [unfolded, get_set, List.mem_append, List.mem_singleton, Prod.mk.injEq]
      by_cases same : k = key
      · subst same
        have absent : (k, v) ∉ entries := fun mem =>
          apart (List.mem_map.mpr ⟨_, mem, rfl⟩) (by simp)
        simp [absent, eq_comm]
      · simp [same, ih earlier]

/-- What is found was assigned. -/
theorem mem_of_get_ofEntries {entries : List (κ × ν)} {k : κ} {v : ν}
    (found : (ofEntries entries).get k = some v) : (k, v) ∈ entries := by
  induction entries using List.reverseRecOn with
  | nil => simp [ofEntries] at found
  | append_singleton entries entry ih =>
      have unfolded : ofEntries (entries ++ [entry]) = (ofEntries entries).set entry.1 entry.2 := by
        simp [ofEntries]
      rw [unfolded, get_set] at found
      split at found
      · rename_i same
        rw [Option.some.injEq] at found
        rw [same, ← found]
        simp
      · exact List.mem_append_left _ (ih found)

theorem mem_keys {d : Dict κ ν} {k : κ} : k ∈ d.keys ↔ ∃ v, d.get k = some v := by
  simp [keys, mem_entries]

theorem mem_values {d : Dict κ ν} {v : ν} : v ∈ d.values ↔ ∃ k, d.get k = some v := by
  simp [values, mem_entries]

/-- A change of every value. -/
def mapValues {μ : Type} (f : ν → μ) (d : Dict κ ν) : Dict κ μ where
  entries := d.entries.map fun entry => (entry.1, f entry.2)
  nodup := by
    rw [List.map_map]
    exact d.nodup

theorem get_mapValues {μ : Type} (f : ν → μ) (d : Dict κ ν) (k : κ) :
    (d.mapValues f).get k = (d.get k).map f := by
  obtain ⟨entries, nodup⟩ := d
  change (entries.map fun entry => (entry.1, f entry.2)).lookup k = (entries.lookup k).map f
  clear nodup
  induction entries with
  | nil => rfl
  | cons entry rest ih =>
      obtain ⟨key, value⟩ := entry
      rw [List.map_cons, lookup_cons, lookup_cons, ih]
      split <;> rfl

/-- `del d[k]`, for a key that may be missing -/
def erase (d : Dict κ ν) (k : κ) : Dict κ ν where
  entries := d.entries.filter fun entry => decide (entry.1 ≠ k)
  nodup := d.nodup.sublist (List.filter_sublist.map Prod.fst)

theorem get_erase (d : Dict κ ν) (k k' : κ) :
    (d.erase k).get k' = if k' = k then none else d.get k' := by
  apply Option.ext
  intro v
  rw [← mem_entries]
  change _ ∈ d.entries.filter _ ↔ _
  rw [List.mem_filter, mem_entries, decide_eq_true_eq]
  split
  · simp_all
  · simp_all

/-- `==` of two dictionaries, whatever the order of their entries -/
def same [DecidableEq ν] (first second : Dict κ ν) : Bool :=
  (first.keys ++ second.keys).all fun key => decide (first.get key = second.get key)

/-- The keys under which two dictionaries differ. -/
def changes [DecidableEq ν] (first second : Dict κ ν) : List κ :=
  (first.keys ++ second.keys).dedup.filter fun key => decide (first.get key ≠ second.get key)

end Dict
