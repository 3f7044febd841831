import Mathlib.Algebra.Order.Ring.Nat
import Mathlib.Algebra.Order.Ring.Unbundled.Rat
import Mathlib.Data.Nat.Log
import Mathlib.Data.Rat.Defs

/-!
# Binary floating point numbers of 64 bits

The values of a `float64` as a reader of decimal texts meets them: `Binary64.ofNat` is
the value of the text of a natural number, rounded to 53 significant bits with ties
to even. Numbers up to `2 ^ 53` are held exactly (`roundNat_eq_self`).
-/

/-- A value; a finite one is the rational number it stands for. -/
inductive Binary64 : Type where
  | finite (value : Rat)
  | infinity (negative : Bool)
  | nan
  deriving DecidableEq, Repr

namespace Binary64

/-- The nearest number with 53 significant bits; a tie goes to the even neighbour. -/
def roundNat (n : Nat) : Nat :=
  let unit := 2 ^ (n.log2 + 1 - 53)
  let quotient := n / unit
  let rest := n % unit
  if unit < 2 * rest ∨ (unit = 2 * rest ∧ quotient % 2 = 1) then (quotient + 1) * unit
  else quotient * unit

/-- The value of the decimal text of a natural number. -/
def ofNat (n : Nat) : Binary64 :=
  if roundNat n < 2 ^ 1024 then .finite (roundNat n) else .infinity false

/-- The power of two with an exponent of either sign. -/
def power (exponent : Int) : Rat :=
  if 0 ≤ exponent then ((2 ^ exponent.toNat : Nat) : Rat)
  else 1 / ((2 ^ (-exponent).toNat : Nat) : Rat)

/-- The exponent of the largest power of two that is not above the absolute value. -/
def exponent (q : Rat) : Int :=
  let guess := (q.num.natAbs.log2 : Int) - (q.den.log2 : Int)
  if (q.num.natAbs : Rat) / (q.den : Rat) < power guess then guess - 1 else guess

/-- The nearest value to a rational number, the subnormal ones included; a tie goes to the even
neighbour. -/
def round (q : Rat) : Binary64 :=
  let unit := power (max (exponent q) (-1022) - 52)
  let low := (q / unit).floor
  let rest := q / unit - (low : Rat)
  let nearest := if 1 < 2 * rest ∨ (2 * rest = 1 ∧ low % 2 = 1) then low + 1 else low
  if (nearest.natAbs : Rat) * unit < power 1024 then .finite ((nearest : Rat) * unit)
  else .infinity (decide (q < 0))

/-- The product with a natural number that is held exactly. -/
def scale (factor : Nat) : Binary64 → Binary64
  | .finite value => round (value * (factor : Rat))
  | .infinity negative => .infinity negative
  | .nan => .nan

/-- `int(value)`: the integer part; a value that is not finite has none. -/
def truncate : Binary64 → Option Int
  | .finite value => some (value.num.tdiv value.den)
  | _ => none

/-- The natural number that a value is, if it is one. -/
def toNat? : Binary64 → Option Nat
  | .finite value => if value.den = 1 ∧ 0 ≤ value.num then some value.num.toNat else none
  | _ => none

/-- Rounding moves a number by at most one unit in the last place. -/
theorem roundNat_le (n : Nat) : roundNat n ≤ 2 * n + 1 := by
  have unit : 2 ^ (n.log2 + 1 - 53) ≤ n + 1 := by
    rcases Nat.eq_zero_or_pos n with rfl | pos
    · decide
    · calc 2 ^ (n.log2 + 1 - 53) ≤ 2 ^ n.log2 := Nat.pow_le_pow_right (by decide) (by omega)
        _ ≤ n := Nat.log2_self_le pos.ne'
        _ ≤ n + 1 := Nat.le_succ n
  have below := Nat.div_mul_le_self n (2 ^ (n.log2 + 1 - 53))
  unfold roundNat
  dsimp only
  split
  · rw [Nat.succ_mul]
    omega
  · omega

/-- A machine word is finite as a float. -/
theorem ofNat_finite {n : Nat} (word : n < 2 ^ 64) : ofNat n = .finite (roundNat n) := by
  rw [ofNat, if_pos]
  calc roundNat n ≤ 2 * n + 1 := roundNat_le n
    _ < 2 ^ 65 := by omega
    _ ≤ 2 ^ 1024 := Nat.pow_le_pow_right (by decide) (by decide)

/-- A number that survives the rounding. -/
def Exact (n : Nat) : Prop := roundNat n = n ∧ n < 2 ^ 1024

instance (n : Nat) : Decidable (Exact n) := inferInstanceAs (Decidable (_ ∧ _))

theorem exact_of_le {n : Nat} (le : n ≤ 2 ^ 53) : Exact n := by
  refine ⟨?_, Nat.lt_of_le_of_lt le (by decide +kernel)⟩
  rcases Nat.lt_or_eq_of_le le with below | rfl
  · have bits : n.log2 + 1 - 53 = 0 := by
      rcases Nat.eq_zero_or_pos n with rfl | pos
      · rfl
      · have := (Nat.log2_lt pos.ne').mpr below
        omega
    simp [roundNat, bits, Nat.mod_one]
  · decide +kernel

@[simp] theorem truncate_natCast (n : Nat) : truncate (.finite n) = some (n : Int) := by
  simp [truncate]

@[simp] theorem toNat?_natCast (n : Nat) : toNat? (.finite n) = some n := by
  simp [toNat?]

/-- An exact number is read back as itself. -/
theorem ofNat_eq {n : Nat} (exact : Exact n) : ofNat n = .finite n := by
  rw [ofNat, exact.1, if_pos exact.2]

end Binary64
