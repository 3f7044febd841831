import Mathlib.Order.Lattice

/-!
# Scans for a best element

A scan keeps a state and replaces it by the one an element makes when that one ranks strictly
higher: the first of the best elements wins.
-/

namespace Ranking

variable {σ α ρ : Type} [LinearOrder ρ]

/-- One round of a scan. -/
def keep (key : σ → ρ) (make : α → σ) (state : σ) (x : α) : σ :=
  if key state < key (make x) then make x else state

variable {key : σ → ρ} {make : α → σ}

theorem key_le_keep (state : σ) (x : α) : key state ≤ key (keep key make state x) := by
  unfold keep
  split
  · rename_i better
    exact le_of_lt better
  · exact le_refl _

theorem made_le_keep (state : σ) (x : α) : key (make x) ≤ key (keep key make state x) := by
  unfold keep
  split
  · exact le_refl _
  · rename_i worse
    exact le_of_not_gt worse

theorem key_le_scan (elements : List α) (state : σ) :
    key state ≤ key (elements.foldl (keep key make) state) := by
  induction elements generalizing state with
  | nil => exact le_refl _
  | cons x elements ih => exact le_trans (key_le_keep state x) (ih _)

/-- No element ranks above the result of a scan. -/
theorem made_le_scan {elements : List α} {x : α} (mem : x ∈ elements) (state : σ) :
    key (make x) ≤ key (elements.foldl (keep key make) state) := by
  induction elements generalizing state with
  | nil => cases mem
  | cons y elements ih =>
      rcases List.mem_cons.mp mem with rfl | later
      · exact le_trans (made_le_keep state x) (key_le_scan elements _)
      · exact ih later _

/-- The result of a scan was made by an element, unless no element was an improvement. -/
theorem scan_made (elements : List α) (state : σ) :
    elements.foldl (keep key make) state = state ∨
      ∃ x ∈ elements, elements.foldl (keep key make) state = make x := by
  induction elements generalizing state with
  | nil => exact .inl rfl
  | cons y elements ih =>
      rw [List.foldl_cons]
      rcases ih (keep key make state y) with same | ⟨x, mem, made⟩
      · rw [same]
        unfold keep
        split
        · exact .inr ⟨y, List.mem_cons_self .., rfl⟩
        · exact .inl rfl
      · exact .inr ⟨x, List.mem_cons_of_mem y mem, made⟩

/-- A scan that starts below every element ends in one of the best elements. -/
theorem scan_best (key : σ → ρ) (make : α → σ) {elements : List α} {state : σ} (nonempty : elements ≠ [])
    (below : ∀ x ∈ elements, key state < key (make x)) :
    ∃ x ∈ elements, elements.foldl (keep key make) state = make x ∧
      ∀ y ∈ elements, key (make y) ≤ key (make x) := by
  have found : elements.foldl (keep key make) state = state ∨
      ∃ x ∈ elements, elements.foldl (keep key make) state = make x := scan_made elements state
  rcases found with same | ⟨x, mem, made⟩
  · obtain ⟨x, mem⟩ := List.exists_mem_of_ne_nil elements nonempty
    have le : key (make x) ≤ key (elements.foldl (keep key make) state) := made_le_scan mem state
    rw [same] at le
    exact absurd (below x mem) (not_lt_of_ge le)
  · refine ⟨x, mem, made, ?_⟩
    intro y mem'
    rw [← made]
    exact made_le_scan mem' state

end Ranking
