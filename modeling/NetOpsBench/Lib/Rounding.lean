import Mathlib.Algebra.Order.Ring.Unbundled.Rat
import Mathlib.Algebra.Order.Field.Rat
import Mathlib.Data.Rat.Floor

/-!
# Rounding to decimals

`round(x, digits)` on an exact rational: to the nearest multiple, and from the middle to the
even one.
-/

namespace Rounding

/-- The nearest integer; of two equally near ones, the even one. -/
def halfEven (q : Rat) : Int :=
  if q - q.floor < 1 / 2 then q.floor
  else if 1 / 2 < q - q.floor then q.floor + 1
  else if q.floor % 2 = 0 then q.floor else q.floor + 1

/-- `round(x, digits)` -/
def round (digits : Nat) (q : Rat) : Rat := halfEven (q * 10 ^ digits) / 10 ^ digits

theorem halfEven_intCast (n : Int) : halfEven n = n := by
  unfold halfEven
  rw [Rat.floor_intCast]
  apply if_pos
  rw [sub_self]
  norm_num

theorem halfEven_nonneg {q : Rat} (nonneg : 0 ≤ q) : 0 ≤ halfEven q := by
  have floor : 0 ≤ q.floor := Rat.le_floor_iff.mpr (by exact_mod_cast nonneg)
  unfold halfEven
  split
  · exact floor
  · split
    · omega
    · split <;> omega

/-- An integer is within a half of a rational, or just a half away and even. -/
def Near (q : Rat) (k : Int) : Prop := |q - k| < 1 / 2 ∨ |q - k| = 1 / 2 ∧ k % 2 = 0

instance (q : Rat) (k : Int) : Decidable (Near q k) :=
  inferInstanceAs (Decidable (|q - k| < 1 / 2 ∨ |q - k| = 1 / 2 ∧ k % 2 = 0))

theorem Near.within {q : Rat} {k : Int} (near : Near q k) : |q - k| ≤ 1 / 2 := by
  rcases near with less | ⟨equal, _⟩
  · exact le_of_lt less
  · exact le_of_eq equal

theorem near_halfEven (q : Rat) : Near q (halfEven q) := by
  have low : (q.floor : Rat) ≤ q := Rat.floor_le q
  have high : q < q.floor + 1 := by
    have less := Rat.lt_floor_add_one q
    push_cast at less
    exact less
  unfold halfEven Near
  split
  · left
    rw [abs_of_nonneg (by linarith)]
    assumption
  · split
    · left
      push_cast
      rw [abs_of_nonpos (by linarith)]
      linarith
    · have middle : q - q.floor = 1 / 2 := by linarith
      right
      split
      · rw [middle, abs_of_pos (by norm_num)]
        exact ⟨rfl, by assumption⟩
      · refine ⟨?_, by omega⟩
        push_cast
        rw [abs_of_nonpos (by linarith)]
        linarith

/-- No two integers are near one rational: neighbours are not both even. -/
theorem Near.unique {q : Rat} {k l : Int} (near : Near q k) (near' : Near q l) : k = l := by
  have triangle : |(k : Rat) - l| ≤ |q - k| + |q - l| := by
    rw [abs_sub_comm q k]
    exact abs_sub_le (k : Rat) q l
  have apart : |q - k| + |q - l| < 1 → k = l := by
    intro less
    have gap : |k - l| < 1 := by exact_mod_cast lt_of_le_of_lt triangle less
    rw [abs_lt] at gap
    omega
  have le := near.within
  have le' := near'.within
  rcases near with less | ⟨equal, even⟩
  · exact apart (by linarith)
  · rcases near' with less' | ⟨equal', even'⟩
    · exact apart (by linarith)
    · have whole : |(k : Rat) - l| ≤ 1 := by linarith
      have gap : |k - l| ≤ 1 := by exact_mod_cast whole
      rw [abs_le] at gap
      omega

theorem halfEven_eq_iff {q : Rat} {k : Int} : halfEven q = k ↔ Near q k := by
  constructor
  · intro rounded
    rw [← rounded]
    exact near_halfEven q
  · intro near
    exact (near_halfEven q).unique near

/-- What has no further decimals is kept. -/
theorem round_of_int {digits : Nat} {q : Rat} (n : Int) (exact : q * 10 ^ digits = n) :
    round digits q = q := by
  unfold round
  have power : (10 : Rat) ^ digits ≠ 0 := pow_ne_zero _ (by norm_num)
  rw [exact, halfEven_intCast, ← exact, mul_div_cancel_right₀ _ power]

/-- What is at most an integer rounds to at most that. -/
theorem halfEven_le {q : Rat} {n : Int} (le : q ≤ n) : halfEven q ≤ n := by
  have near := (near_halfEven q).within
  have upper := neg_le_of_abs_le near
  have real : (halfEven q : Rat) < n + 1 := by linarith
  have whole : halfEven q < n + 1 := by exact_mod_cast real
  omega

theorem round_le {digits : Nat} {q : Rat} {n : Int} (le : q ≤ n) : round digits q ≤ n := by
  have power : (0 : Rat) < 10 ^ digits := pow_pos (by norm_num) _
  have scaled : q * 10 ^ digits ≤ ((n * 10 ^ digits : Int) : Rat) := by
    push_cast
    exact mul_le_mul_of_nonneg_right le (le_of_lt power)
  have whole : (halfEven (q * 10 ^ digits) : Rat) ≤ ((n * 10 ^ digits : Int) : Rat) := by
    exact_mod_cast halfEven_le scaled
  push_cast at whole
  rw [round, div_le_iff₀ power]
  exact whole

end Rounding
