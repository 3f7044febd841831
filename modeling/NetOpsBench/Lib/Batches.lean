import Mathlib.Algebra.Order.Ring.Nat
import Mathlib.Data.List.Range
import Mathlib.Data.List.Nodup
import Mathlib.Data.Nat.ModEq

/-!
# Ragged batches of an index range

`batch n size k` is the `k`-th run of `size` consecutive indices below `n`; the last
batch that has any index may be shorter and every later one is empty. An index below
`n` lies in exactly one batch, the one numbered `index / size` (`mem_batch`), and
`batchCount n size` batches hold them all. A list of rows of one length is a grid: its
entries are numbered row by row (`getElem?_grid`). A walk that pairs two index ranges
with the same rotating offset meets no pair twice (`rotation_injOn`).
-/

namespace Batches

/-- The number of batches that have an index: the ceiling of `n / size`. -/
def batchCount (n size : Nat) : Nat := (n + size - 1) / size

/-- `range(k * size, min((k + 1) * size, n))` -/
def batch (n size k : Nat) : List Nat :=
  List.range' (k * size) (min ((k + 1) * size) n - k * size)

def batches (n size : Nat) : List (List Nat) :=
  (List.range (batchCount n size)).map (batch n size)

section Membership

variable {n size k index : Nat}

theorem mem_batch (pos : 0 < size) : index ∈ batch n size k ↔ index < n ∧ index / size = k := by
  rw [batch, List.mem_range'_1, Nat.div_eq_iff pos, Nat.add_mul, Nat.mul_comm k size]
  omega

theorem batch_nodup : (batch n size k).Nodup := List.nodup_range'

theorem batch_length_le : (batch n size k).length ≤ size := by
  rw [batch, List.length_range', Nat.add_mul]
  omega

theorem div_lt_batchCount (below : index < n) (pos : 0 < size) :
    index / size < batchCount n size := by
  rw [batchCount, Nat.div_lt_iff_lt_mul pos]
  have ceil := Nat.lt_div_mul_add (a := n + size - 1) pos
  omega

theorem batch_ne_nil (pos : 0 < size) (below : k < batchCount n size) : batch n size k ≠ [] := by
  rw [batchCount, Nat.lt_div_iff_mul_lt pos] at below
  apply List.ne_nil_of_length_pos
  rw [batch, List.length_range', Nat.add_mul]
  omega

theorem batchCount_pos (pos : 0 < size) (some : 0 < n) : 0 < batchCount n size := by
  exact Nat.lt_of_le_of_lt (Nat.zero_le _) (div_lt_batchCount some pos)

theorem batchCount_le (pos : 0 < size) : batchCount n size ≤ n := by
  have wide : n ≤ n * size := Nat.le_mul_of_pos_right n pos
  apply Nat.le_of_lt_succ
  rw [batchCount, Nat.div_lt_iff_lt_mul pos, Nat.succ_mul]
  omega

@[simp] theorem length_batches : (batches n size).length = batchCount n size := by
  simp [batches]

theorem getElem_batches (below : k < (batches n size).length) :
    (batches n size)[k] = batch n size k := by
  simp [batches]

/-- The batches, in order, enumerate the range. -/
theorem flatten_batches (pos : 0 < size) : (batches n size).flatten.Perm (List.range n) := by
  apply (List.perm_ext_iff_of_nodup _ List.nodup_range).mpr
  · intro index
    simp only [batches, List.mem_flatten, List.mem_map, List.mem_range, exists_exists_and_eq_and,
      mem_batch pos]
    constructor
    · rintro ⟨_, _, below, _⟩
      exact below
    · intro below
      exact ⟨_, div_lt_batchCount below pos, below, rfl⟩
  · rw [List.nodup_flatten]
    refine ⟨?_, ?_⟩
    · intro row mem
      obtain ⟨_, _, rfl⟩ := List.mem_map.mp mem
      exact batch_nodup
    · rw [batches, List.pairwise_map]
      refine List.nodup_range.imp ?_
      intro i j ne index memLeft memRight
      rw [mem_batch pos] at memLeft memRight
      exact ne (memLeft.2.symm.trans memRight.2)

end Membership

section Grid

variable {α β : Type} {row : α → List β}

theorem length_grid (width : Nat) {rows : List α} (uniform : ∀ x ∈ rows, (row x).length = width) :
    (rows.flatMap row).length = rows.length * width := by
  rw [List.length_flatMap, List.map_congr_left uniform, List.map_const', List.sum_replicate_nat]

/-- The entry numbered `k` stands in row `k / width`, at column `k % width`. -/
theorem getElem?_grid {width : Nat} (pos : 0 < width) {rows : List α}
    (uniform : ∀ x ∈ rows, (row x).length = width) (k : Nat) :
    (rows.flatMap row)[k]? = rows[k / width]?.bind fun x => (row x)[k % width]? := by
  induction rows generalizing k with
  | nil => simp
  | cons x rows ih =>
      have first : (row x).length = width := uniform x (by simp)
      rw [List.flatMap_cons]
      by_cases below : k < width
      · rw [List.getElem?_append_left (by omega), Nat.div_eq_of_lt below, Nat.mod_eq_of_lt below]
        simp
      · have earlier : k / width = (k - width) / width + 1 := by
          rw [Nat.div_eq_sub_div pos (by omega)]
        rw [List.getElem?_append_right (by omega), first,
          ih (fun y mem => uniform y (by simp [mem])), earlier, List.getElem?_cons_succ,
          Nat.mod_eq_sub_mod (a := k) (by omega)]

end Grid

/-- Two walks of fewer than `m` steps that start together are at different residues
modulo `m` unless they took the same number of steps. -/
theorem rotation_injOn {m start : Nat} :
    Set.InjOn (fun step => (start + step) % m) {step | step < m} := by
  intro i below j below' same
  have congruent : start + i ≡ start + j [MOD m] := same
  exact (Nat.ModEq.add_left_cancel' start congruent).eq_of_lt_of_lt below below'

end Batches
