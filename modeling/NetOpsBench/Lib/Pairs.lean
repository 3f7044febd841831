import Mathlib.Algebra.Order.Ring.Nat
import Mathlib.Data.List.Nodup
import Mathlib.Data.Prod.Basic

/-!
# Pairs of list elements

`permutations2` and `combinations2` are the two-element cases of Python's
`itertools.permutations` and `itertools.combinations`: elements are paired by
position, all ordered pairs of distinct positions in the first case and the
increasing ones in the second.
-/

namespace Pairs

variable {α : Type}

/-- `permutations(xs, 2)` -/
def permutations2 (xs : List α) : List (α × α) :=
  xs.zipIdx.flatMap fun (source, i) =>
    (xs.zipIdx.filter fun (_, j) => i ≠ j).map fun (destination, _) => (source, destination)

/-- `combinations(xs, 2)` -/
def combinations2 : List α → List (α × α)
  | [] => []
  | x :: xs => xs.map (fun y => (x, y)) ++ combinations2 xs

/-- Distinct positions of a list without duplicates hold distinct elements. -/
theorem mem_permutations2 {xs : List α} (nodup : xs.Nodup) {a b : α} :
    (a, b) ∈ permutations2 xs ↔ a ∈ xs ∧ b ∈ xs ∧ a ≠ b := by
  simp only [permutations2, List.mem_flatMap, List.mem_map, List.mem_filter, Prod.exists,
    List.mk_mem_zipIdx_iff_getElem?, decide_eq_true_eq, Prod.mk.injEq]
  constructor
  · rintro ⟨_, i, atI, _, j, ⟨atJ, ne⟩, rfl, rfl⟩
    refine ⟨List.mem_of_getElem? atI, List.mem_of_getElem? atJ, ?_⟩
    rintro rfl
    obtain ⟨boundI, eqI⟩ := List.getElem?_eq_some_iff.mp atI
    obtain ⟨boundJ, eqJ⟩ := List.getElem?_eq_some_iff.mp atJ
    exact ne (nodup.getElem_inj_iff.mp (eqI.trans eqJ.symm))
  · rintro ⟨memA, memB, ne⟩
    obtain ⟨i, atI⟩ := List.mem_iff_getElem?.mp memA
    obtain ⟨j, atJ⟩ := List.mem_iff_getElem?.mp memB
    refine ⟨a, i, atI, b, j, ⟨atJ, ?_⟩, rfl, rfl⟩
    rintro rfl
    exact ne (Option.some.inj (atI.symm.trans atJ))

theorem mem_of_mem_combinations2 {xs : List α} {a b : α} (mem : (a, b) ∈ combinations2 xs) :
    a ∈ xs ∧ b ∈ xs := by
  induction xs with
  | nil => cases mem
  | cons x xs ih =>
      simp only [combinations2, List.mem_append, List.mem_map, Prod.mk.injEq] at mem
      rcases mem with ⟨_, memB, rfl, rfl⟩ | later
      · simp [memB]
      · obtain ⟨memA, memB⟩ := ih later
        simp [memA, memB]

/-- A combination respects every relation that holds along the list. -/
theorem rel_of_mem_combinations2 {R : α → α → Prop} {xs : List α} (along : xs.Pairwise R)
    {a b : α} (mem : (a, b) ∈ combinations2 xs) : R a b := by
  induction along with
  | nil => cases mem
  | cons head _ ih =>
      simp only [combinations2, List.mem_append, List.mem_map, Prod.mk.injEq] at mem
      rcases mem with ⟨_, memB, rfl, rfl⟩ | later
      · exact head _ memB
      · exact ih later

/-- Two different elements are combined, in one order or the other. -/
theorem combinations2_complete {xs : List α} {a b : α} (memA : a ∈ xs) (memB : b ∈ xs)
    (ne : a ≠ b) : (a, b) ∈ combinations2 xs ∨ (b, a) ∈ combinations2 xs := by
  induction xs with
  | nil => cases memA
  | cons x xs ih =>
      simp only [combinations2, List.mem_append, List.mem_map, Prod.mk.injEq]
      rcases List.mem_cons.mp memA with rfl | laterA
      · rcases List.mem_cons.mp memB with rfl | laterB
        · exact (ne rfl).elim
        · exact .inl (.inl ⟨b, laterB, rfl, rfl⟩)
      · rcases List.mem_cons.mp memB with rfl | laterB
        · exact .inr (.inl ⟨a, laterA, rfl, rfl⟩)
        · exact (ih laterA laterB).imp .inr .inr

end Pairs
