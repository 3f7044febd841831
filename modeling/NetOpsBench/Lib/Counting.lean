import Mathlib.Data.List.Dedup
import Mathlib.Data.List.Perm.Subperm
import NetOpsBench.Lib.Fallible

/-!
# Counting distinct entries

A duplicate-free list inside a list of at most its length is a reordering of it
(`perm_of_nodup_of_length`), and a list is a reordering of a duplicate-free one exactly when
it has each of its entries once (`perm_iff_count`). A loop that puts keys into a set and
fails on a known one succeeds exactly on new and distinct keys (`insertAll_eq_ok`).
-/

namespace Counting

open Fallible

variable {α β ε : Type}

theorem perm_of_nodup_of_length {xs ys : List α} (nodup : xs.Nodup) (inside : xs ⊆ ys)
    (length : ys.length ≤ xs.length) : xs.Perm ys :=
  (List.subperm_of_subset nodup inside).perm_of_length_le length

theorem perm_iff_count [BEq α] [LawfulBEq α] {xs ys : List α} (nodup : ys.Nodup) :
    xs.Perm ys ↔ xs ⊆ ys ∧ ∀ y ∈ ys, xs.count y = 1 := by
  refine ⟨?_, ?_⟩
  · intro perm
    refine ⟨perm.subset, ?_⟩
    intro y mem
    rw [perm.count_eq, List.count_eq_one_of_mem nodup mem]
  · intro given
    rcases given with ⟨inside, once⟩
    rw [List.perm_iff_count]
    intro y
    by_cases mem : y ∈ ys
    · rw [once y mem, List.count_eq_one_of_mem nodup mem]
    · rw [List.count_eq_zero_of_not_mem mem, List.count_eq_zero_of_not_mem fun own => mem (inside own)]

/-- Of two tests that no element passes both, one passes where the sum counts. -/
theorem countP_add_countP {p q : α → Bool} {xs : List α}
    (apart : ∀ x ∈ xs, p x = true → q x = false) :
    xs.countP p + xs.countP q = xs.countP fun x => p x || q x := by
  induction xs with
  | nil => rfl
  | cons x xs ih =>
      have rest := ih fun y mem => apart y (List.mem_cons_of_mem x mem)
      have here := apart x List.mem_cons_self
      simp only [List.countP_cons]
      cases first : p x
      · simp only [Bool.false_or, Bool.false_eq_true, if_false]
        omega
      · simp only [here first, Bool.true_or, Bool.false_eq_true, if_false, if_true]
        omega

/-- A test that rules out all later elements passes at most once. -/
theorem countP_le_one {p : α → Bool} {xs : List α}
    (once : xs.Pairwise fun x y => p x = true → p y = false) : xs.countP p ≤ 1 := by
  induction xs with
  | nil => exact Nat.zero_le _
  | cons x xs ih =>
      rw [List.pairwise_cons] at once
      rw [List.countP_cons]
      split
      · rename_i passes
        have none : xs.countP p = 0 := by
          rw [List.countP_eq_zero]
          intro y mem
          rw [once.1 y mem passes]
          exact Bool.false_ne_true
        rw [none]
      · exact ih once.2

/-- Put the keys of a list into a set that must not have them. -/
def insertAll [DecidableEq β] (key : α → β) (e : ε) (xs : List α) (seen : List β) :
    Except ε (List β) :=
  xs.foldlM (fun seen x => do
    reject (key x ∈ seen) e
    pure (key x :: seen)) seen

theorem insertAll_eq_ok [DecidableEq β] {key : α → β} {e : ε} {xs : List α} {seen out : List β}
    (nodup : seen.Nodup) : insertAll key e xs seen = .ok out ↔
      out = (xs.map key).reverse ++ seen ∧ out.Nodup := by
  unfold insertAll
  induction xs generalizing seen with
  | nil =>
      rw [List.foldlM_nil, pure_eq_ok, List.map_nil, List.reverse_nil, List.nil_append, eq_comm]
      exact ⟨fun same => ⟨same, same ▸ nodup⟩, And.left⟩
  | cons x xs ih =>
      rw [List.foldlM_cons, bind_eq_ok, List.map_cons, List.reverse_cons, List.append_assoc,
        List.singleton_append]
      simp only [bind_eq_ok, reject_eq_ok, pure_eq_ok]
      refine ⟨?_, ?_⟩
      · intro given
        rcases given with ⟨_, ⟨_, fresh, same⟩, rest⟩
        subst same
        exact (ih (List.nodup_cons.mpr ⟨fresh, nodup⟩)).mp rest
      · intro given
        rcases given with ⟨same, distinct⟩
        have tail : (key x :: seen).Nodup :=
          (same ▸ distinct).sublist (List.sublist_append_right _ _)
        exact ⟨_, ⟨(), (List.nodup_cons.mp tail).1, rfl⟩, (ih tail).mpr ⟨same, distinct⟩⟩

end Counting
