import NetOpsBench.Lib.Dict

/-!
# Dictionaries and their lists of entries
-/

namespace Dict

variable {κ ν : Type} [DecidableEq κ]

theorem ofEntries_snoc (entries : List (κ × ν)) (entry : κ × ν) :
    ofEntries (entries ++ [entry]) = (ofEntries entries).set entry.1 entry.2 := by
  simp [ofEntries]

theorem mem_keys_set {d : Dict κ ν} {k k' : κ} {v : ν} :
    k' ∈ (d.set k v).keys ↔ k' = k ∨ k' ∈ d.keys := by
  rw [mem_keys, mem_keys]
  simp only [get_set]
  by_cases same : k' = k <;> simp [same]

/-- The keys are those of the entries. -/
theorem mem_keys_ofEntries {entries : List (κ × ν)} {k : κ} :
    k ∈ (ofEntries entries).keys ↔ ∃ v, (k, v) ∈ entries := by
  induction entries using List.reverseRecOn with
  | nil => simp [ofEntries, keys, empty]
  | append_singleton entries entry ih =>
    rw [ofEntries_snoc, mem_keys_set, ih]
    obtain ⟨key, value⟩ := entry
    simp only [List.mem_append, List.mem_singleton, Prod.mk.injEq, exists_or, exists_and_left,
      exists_eq, and_true]
    exact or_comm

/-- Where a key has only one value, it is found with it. -/
theorem get_ofEntries_of_unique {entries : List (κ × ν)} {k : κ} {v : ν} (mem : (k, v) ∈ entries)
    (unique : ∀ v', (k, v') ∈ entries → v' = v) : (ofEntries entries).get k = some v := by
  have known := mem_keys.mp (mem_keys_ofEntries.mpr ⟨v, mem⟩)
  obtain ⟨v', found⟩ := known
  rw [found, unique v' (mem_of_get_ofEntries found)]

/-- Distinct keys keep their entries as they are. -/
theorem entries_ofEntries {entries : List (κ × ν)} (distinct : (entries.map Prod.fst).Nodup) :
    (ofEntries entries).entries = entries := by
  induction entries using List.reverseRecOn with
  | nil => rfl
  | append_singleton entries entry ih =>
    rw [List.map_append, List.nodup_append'] at distinct
    obtain ⟨earlier, -, apart⟩ := distinct
    rw [ofEntries_snoc, entries_set_new, ih earlier]
    intro known
    obtain ⟨v, mem⟩ := mem_keys_ofEntries.mp known
    exact apart (List.mem_map_of_mem mem) (by simp)

/-- The values of a dictionary whose keys are found exactly as a list with distinct keys says. -/
theorem values_perm {d : Dict κ ν} {entries : List (κ × ν)}
    (distinct : (entries.map Prod.fst).Nodup)
    (found : ∀ k v, d.get k = some v ↔ (k, v) ∈ entries) :
    d.values.Perm (entries.map Prod.snd) := by
  apply List.Perm.map
  apply (List.perm_ext_iff_of_nodup (List.Nodup.of_map _ d.nodup)
    (List.Nodup.of_map _ distinct)).mpr
  intro entry
  obtain ⟨k, v⟩ := entry
  rw [mem_entries, found]

end Dict
