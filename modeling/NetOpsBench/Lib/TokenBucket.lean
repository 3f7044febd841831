import Mathlib.Algebra.BigOperators.Group.List.Basic
import Mathlib.Algebra.Order.Archimedean.Basic
import Mathlib.Algebra.Order.BigOperators.Group.Finset
import Mathlib.Algebra.Order.Floor.Ring
import Mathlib.Data.Int.GCD
import Mathlib.Tactic.Linarith
import Mathlib.Tactic.LinearCombination
import Mathlib.Tactic.Ring

/-!
# Token buckets

A bucket is refilled up to a burst and then drawn from. What is drawn over any rounds is at most
the burst and the credit of all rounds but the first (`sum_drawn_le`). With the same credit in
each round, and draws that stop once less than one payload is left, the bucket overflows again
and again unless one payload and one credit exceed the burst by at most their common grain
(`Rounds.sustained`, `Rounds.not_sustained`).
-/

namespace TokenBucket

variable {K : Type*} [Field K] [LinearOrder K]

/-- The level of a bucket that holds `burst`, after `credit` is added. -/
def refill (burst credit level : K) : K := min (level + credit) burst

variable {burst credit level : K}

theorem refill_le_burst : refill burst credit level ≤ burst := min_le_right _ _

theorem refill_le_add : refill burst credit level ≤ level + credit := min_le_left _ _

/-- The part of the credit that does not fit. -/
def lost (burst credit level : K) : K := level + credit - refill burst credit level

theorem lost_of_fits (fits : level + credit ≤ burst) :
    refill burst credit level = level + credit ∧ lost burst credit level = 0 := by
  have whole : refill burst credit level = level + credit := min_eq_left fits
  exact ⟨whole, by rw [lost, whole, sub_self]⟩

theorem lost_of_full (full : burst ≤ level + credit) :
    refill burst credit level = burst ∧ lost burst credit level = level + credit - burst := by
  have capped : refill burst credit level = burst := min_eq_right full
  exact ⟨capped, by rw [lost, capped]⟩

variable [IsStrictOrderedRing K]

theorem lost_nonneg : 0 ≤ lost burst credit level := sub_nonneg.mpr refill_le_add

theorem lost_pos_iff : 0 < lost burst credit level ↔ burst < level + credit := by
  constructor
  · intro overflows
    by_contra fits
    rw [(lost_of_fits (not_lt.mp fits)).2] at overflows
    exact lt_irrefl _ overflows
  · intro full
    rw [(lost_of_full full.le).2]
    exact sub_pos.mpr full

theorem refill_nonneg (nonneg : 0 ≤ level) (credited : 0 ≤ credit) (room : 0 ≤ burst) :
    0 ≤ refill burst credit level :=
  le_min (add_nonneg nonneg credited) room

/-! ## Any rounds -/

/-- A refill, and what is drawn after it. -/
structure Round (K : Type*) : Type _ where
  credit : K
  drawn : K

/-- The level after the rounds. -/
def settle (burst : K) (level : K) (rounds : List (Round K)) : K :=
  rounds.foldl (fun level round => refill burst round.credit level - round.drawn) level

/-- No round draws more than the bucket holds. -/
def Solvent (burst : K) : K → List (Round K) → Prop
  | _, [] => True
  | level, round :: rounds =>
      0 ≤ round.credit ∧ 0 ≤ round.drawn ∧ round.drawn ≤ refill burst round.credit level ∧
        Solvent burst (refill burst round.credit level - round.drawn) rounds

theorem sum_drawn_add_settle_le {rounds : List (Round K)} (solvent : Solvent burst level rounds) :
    (rounds.map Round.drawn).sum + settle burst level rounds ≤
      level + (rounds.map Round.credit).sum := by
  induction rounds generalizing level with
  | nil => simp [settle]
  | cons round rounds ih =>
      obtain ⟨-, -, -, rest⟩ := solvent
      have later := ih rest
      have first : refill burst round.credit level ≤ level + round.credit := refill_le_add
      rw [List.map_cons, List.sum_cons, List.map_cons, List.sum_cons]
      change round.drawn + _ +
        settle burst (refill burst round.credit level - round.drawn) rounds ≤ _
      linarith

theorem settle_nonneg {rounds : List (Round K)} (nonneg : 0 ≤ level)
    (solvent : Solvent burst level rounds) : 0 ≤ settle burst level rounds := by
  induction rounds generalizing level with
  | nil => exact nonneg
  | cons round rounds ih =>
      obtain ⟨-, -, held, rest⟩ := solvent
      exact ih (sub_nonneg.mpr held) rest

/-- The credit of the first round is bounded by the burst. -/
theorem sum_drawn_le {round : Round K} {rounds : List (Round K)}
    (solvent : Solvent burst level (round :: rounds)) :
    ((round :: rounds).map Round.drawn).sum ≤ burst + (rounds.map Round.credit).sum := by
  obtain ⟨-, -, held, rest⟩ := solvent
  have later := sum_drawn_add_settle_le rest
  have last := settle_nonneg (sub_nonneg.mpr held) rest
  have first : refill burst round.credit level ≤ burst := refill_le_burst
  rw [List.map_cons, List.sum_cons]
  linarith

/-! ## Rounds of one credit -/

/-- The levels before each round of a bucket that is drained, in whole grains, until less than one
payload is left. -/
structure Rounds (burst credit payload grain : K) (level drawn : ℕ → K) : Prop where
  succ : ∀ n, level (n + 1) = refill burst credit (level n) - drawn n
  nonneg : ∀ n, 0 ≤ level n
  le_burst : level 0 ≤ burst
  below : ∀ n, level (n + 1) < payload
  whole : ∀ n, ∃ k : ℕ, drawn n = k * grain

/-- What is drawn falls behind the credit by a bounded amount. -/
def Sustained (credit : K) (drawn : ℕ → K) : Prop :=
  ∃ bound, ∀ n : ℕ, n * credit ≤ ∑ i ∈ Finset.range n, drawn i + bound

/-- A level that differs from the burst by whole grains. -/
def Aligned (burst grain level : K) : Prop := ∃ z : ℤ, level = burst + z * grain

variable {payload grain : K} {levels drawn : ℕ → K}

namespace Rounds

/-- Nothing disappears: the credit is drawn, or lost, or still there. -/
theorem balance (rounds : Rounds burst credit payload grain levels drawn) (n : ℕ) :
    ∑ i ∈ Finset.range n, drawn i + ∑ i ∈ Finset.range n, lost burst credit (levels i) + levels n =
      levels 0 + n * credit := by
  induction n with
  | zero => simp
  | succ n ih =>
      rw [Finset.sum_range_succ, Finset.sum_range_succ, rounds.succ, lost, Nat.cast_succ]
      linear_combination ih

/-- A round that overflows starts from a full bucket, and leaves whole grains less. -/
theorem aligned_of_lost (rounds : Rounds burst credit payload grain levels drawn) {n : ℕ}
    (overflows : 0 < lost burst credit (levels n)) : Aligned burst grain (levels (n + 1)) := by
  obtain ⟨k, draws⟩ := rounds.whole n
  rw [rounds.succ, (lost_of_full (lost_pos_iff.mp overflows).le).1, draws]
  exact ⟨-k, by push_cast; ring⟩

/-- With a credit of whole grains, levels stay aligned. -/
theorem aligned_succ (rounds : Rounds burst credit payload grain levels drawn)
    (credits : ∃ c : ℕ, credit = c * grain) {n : ℕ} (aligned : Aligned burst grain (levels n)) :
    Aligned burst grain (levels (n + 1)) := by
  by_cases overflows : 0 < lost burst credit (levels n)
  · exact rounds.aligned_of_lost overflows
  · rw [lost_pos_iff, not_lt] at overflows
    obtain ⟨k, draws⟩ := rounds.whole n
    obtain ⟨c, isCredit⟩ := credits
    obtain ⟨z, isLevel⟩ := aligned
    rw [rounds.succ, (lost_of_fits overflows).1, draws, isLevel]
    exact ⟨z + c - k, by rw [isCredit]; push_cast; ring⟩

theorem aligned_add (rounds : Rounds burst credit payload grain levels drawn)
    (credits : ∃ c : ℕ, credit = c * grain) {n : ℕ} (aligned : Aligned burst grain (levels n))
    (j : ℕ) : Aligned burst grain (levels (n + j)) := by
  induction j with
  | zero => exact aligned
  | succ j ih => exact rounds.aligned_succ credits ih

/-- What overflows from an aligned level is at least a grain. -/
theorem grain_le_lost (credits : ∃ c : ℕ, credit = c * grain) (positive : 0 < grain) {n : ℕ}
    (aligned : Aligned burst grain (levels n)) (overflows : 0 < lost burst credit (levels n)) :
    grain ≤ lost burst credit (levels n) := by
  obtain ⟨c, isCredit⟩ := credits
  obtain ⟨z, isLevel⟩ := aligned
  have amount : lost burst credit (levels n) = (z + c : ℤ) * grain := by
    rw [(lost_of_full (lost_pos_iff.mp overflows).le).2, isLevel, isCredit]
    push_cast
    ring
  rw [amount] at overflows ⊢
  have whole : (0 : K) < (z + c : ℤ) := (mul_pos_iff_of_pos_right positive).mp overflows
  have atLeast : (1 : K) ≤ (z + c : ℤ) := by exact_mod_cast Int.cast_pos.mp whole
  calc grain = 1 * grain := (one_mul grain).symm
    _ ≤ (z + c : ℤ) * grain := mul_le_mul_of_nonneg_right atLeast positive.le

/-- Where one payload and one credit exceed the burst by at most a grain, the bucket overflows at
most once. -/
theorem lost_le_credit (rounds : Rounds burst credit payload grain levels drawn)
    (credits : ∃ c : ℕ, credit = c * grain) (positive : 0 < grain)
    (fits : payload + credit ≤ burst + grain) (n : ℕ) :
    ∑ i ∈ Finset.range n, lost burst credit (levels i) = 0 ∧ levels n ≤ burst ∨
      ∑ i ∈ Finset.range n, lost burst credit (levels i) ≤ credit ∧ levels n < payload ∧
        Aligned burst grain (levels n) := by
  induction n with
  | zero => exact .inl ⟨rfl, rounds.le_burst⟩
  | succ n ih =>
      have nonneg := (rounds.whole n).elim fun k draws => draws ▸ mul_nonneg k.cast_nonneg positive.le
      rw [Finset.sum_range_succ]
      rcases ih with ⟨none, level⟩ | ⟨once, below, aligned⟩
      · by_cases overflows : 0 < lost burst credit (levels n)
        · refine .inr ⟨?_, rounds.below n, rounds.aligned_of_lost overflows⟩
          rw [none, zero_add, (lost_of_full (lost_pos_iff.mp overflows).le).2]
          linarith
        · refine .inl ⟨?_, ?_⟩
          · rw [none, zero_add, le_antisymm (not_lt.mp overflows) lost_nonneg]
          · rw [rounds.succ]
            have room : refill burst credit (levels n) ≤ burst := refill_le_burst
            linarith
      · have spared : ¬ 0 < lost burst credit (levels n) := by
          intro overflows
          have atLeast := grain_le_lost credits positive aligned overflows
          rw [(lost_of_full (lost_pos_iff.mp overflows).le).2] at atLeast
          linarith
        refine .inr ⟨?_, rounds.below n, rounds.aligned_succ credits aligned⟩
        rw [le_antisymm (not_lt.mp spared) lost_nonneg, add_zero]
        exact once

theorem sustained (rounds : Rounds burst credit payload grain levels drawn)
    (credits : ∃ c : ℕ, credit = c * grain) (positive : 0 < grain)
    (fits : payload + credit ≤ burst + grain) : Sustained credit drawn := by
  have room : 0 ≤ burst := (rounds.nonneg 0).trans rounds.le_burst
  have payload_nonneg : 0 ≤ payload := (rounds.nonneg 1).trans (rounds.below 0).le
  have credit_nonneg : 0 ≤ credit := by
    obtain ⟨c, isCredit⟩ := credits
    rw [isCredit]
    exact mul_nonneg c.cast_nonneg positive.le
  refine ⟨credit + burst + payload, fun n => ?_⟩
  have balance := rounds.balance n
  have start := rounds.nonneg 0
  rcases rounds.lost_le_credit credits positive fits n with ⟨none, held⟩ | ⟨once, held, -⟩
  · rw [none] at balance
    linarith
  · linarith

omit [IsStrictOrderedRing K] in
/-- The same rounds in finer grains. -/
theorem refine (rounds : Rounds burst credit payload grain levels drawn) {fine : K} {d : ℕ}
    (isGrain : grain = d * fine) : Rounds burst credit payload fine levels drawn := by
  refine { rounds with whole := fun n => ?_ }
  obtain ⟨k, draws⟩ := rounds.whole n
  exact ⟨k * d, by rw [draws, isGrain, Nat.cast_mul, mul_assoc]⟩

end Rounds

/-! ## The bucket that overflows again and again -/

/-- Rounds that stop to draw as soon as less than one payload is left, and not more than one stride
below it. -/
structure Strides (burst credit payload stride : K) (levels drawn : ℕ → K) : Prop
    extends Rounds burst credit payload stride levels drawn where
  idle : ∀ n, refill burst credit (levels n) < payload → drawn n = 0
  window : ∀ n, payload ≤ refill burst credit (levels n) → payload - stride ≤ levels (n + 1)

namespace Strides

variable {stride unit : K} {c d : ℕ}

omit [IsStrictOrderedRing K] in
/-- Without an overflow a level moves by whole credits and whole strides. -/
theorem level_add (strides : Strides burst credit payload stride levels drawn) {n : ℕ}
    (fits : ∀ i, n ≤ i → levels i + credit ≤ burst) (j : ℕ) :
    ∃ k : ℕ, levels (n + j) = levels n + j * credit - k * stride := by
  induction j with
  | zero => exact ⟨0, by simp⟩
  | succ j ih =>
      obtain ⟨k, isLevel⟩ := ih
      obtain ⟨more, draws⟩ := strides.whole (n + j)
      refine ⟨k + more, ?_⟩
      rw [← Nat.add_assoc, strides.succ, (lost_of_fits (fits _ (Nat.le_add_right n j))).1, draws,
        isLevel]
      push_cast
      ring

/-- Without an overflow a bucket comes within one stride of a payload. -/
theorem exists_window [Archimedean K] (strides : Strides burst credit payload stride levels drawn)
    (credited : 0 < credit) {n : ℕ} (fits : ∀ i, n ≤ i → levels i + credit ≤ burst) :
    ∃ i, n ≤ i ∧ payload - stride ≤ levels i := by
  by_contra never
  simp only [not_exists, not_and, not_le] at never
  have grows (j : ℕ) : levels (n + j) = levels n + j * credit := by
    induction j with
    | zero => simp
    | succ j ih =>
        have idle : drawn (n + j) = 0 := by
          apply strides.idle
          by_contra draws
          exact absurd (strides.window _ (not_lt.mp draws)) (not_le.mpr (never _ (by omega)))
        rw [← Nat.add_assoc, strides.succ, (lost_of_fits (fits _ (Nat.le_add_right n j))).1, idle,
          ih]
        push_cast
        ring
  obtain ⟨j, high⟩ := Archimedean.arch (burst + 1) credited
  rw [nsmul_eq_mul] at high
  have capped := fits (n + j) (Nat.le_add_right n j)
  rw [grows] at capped
  have nonneg := strides.nonneg n
  linarith

/-- It stays there. -/
theorem window_add (strides : Strides burst credit payload stride levels drawn)
    (credited : 0 ≤ credit) {n : ℕ} (fits : ∀ i, n ≤ i → levels i + credit ≤ burst)
    (inside : payload - stride ≤ levels n) (j : ℕ) : payload - stride ≤ levels (n + j) := by
  induction j with
  | zero => exact inside
  | succ j ih =>
      rw [← Nat.add_assoc]
      by_cases draws : payload ≤ refill burst credit (levels (n + j))
      · exact strides.window _ draws
      · rw [strides.succ, strides.idle _ (not_le.mp draws), sub_zero,
          (lost_of_fits (fits _ (Nat.le_add_right n j))).1]
        linarith

/-- Some number of credits is some grains short of whole strides. -/
theorem exists_credits (c : ℕ) {d : ℕ} (d_pos : 0 < d) (z : ℕ) :
    ∃ (j : ℕ) (i : ℤ), (j : ℤ) * c + z * (Nat.gcd c d : ℤ) = i * d := by
  have bezout := Nat.gcd_eq_gcd_ab c d
  have d_ne : (d : ℤ) ≠ 0 := by exact_mod_cast d_pos.ne'
  have split := Int.emod_add_mul_ediv (-(z * Nat.gcdA c d)) d
  obtain ⟨j, isJ⟩ := Int.eq_ofNat_of_zero_le (Int.emod_nonneg (-(z * Nat.gcdA c d)) d_ne)
  rw [isJ] at split
  refine ⟨j, z * Nat.gcdB c d - c * (-(z * Nat.gcdA c d) / d), ?_⟩
  rw [bezout]
  linear_combination c * split

/-- Where one payload and one credit exceed the burst by more than the common grain of the credit
and the stride, the bucket overflows again after every round. -/
theorem overflows [FloorRing K] (strides : Strides burst credit payload stride levels drawn)
    (unit_pos : 0 < unit) (d_pos : 0 < d) (credits : credit = c * unit)
    (isStride : stride = d * unit) (credited : 0 < credit)
    (exceeds : burst + Nat.gcd c d * unit < payload + credit) (start : ℕ) :
    ∃ n, start ≤ n ∧ 0 < lost burst credit (levels n) := by
  by_contra never
  simp only [not_exists, not_and, not_lt] at never
  have fits (i : ℕ) (later : start ≤ i) : levels i + credit ≤ burst := by
    by_contra full
    exact absurd (lost_pos_iff.mpr (not_le.mp full)) (not_lt.mpr (never i later))
  obtain ⟨n, later, inside⟩ := strides.exists_window credited fits
  have fits' (i : ℕ) (after : n ≤ i) : levels i + credit ≤ burst := fits i (later.trans after)
  have grain_pos : (0 : K) < Nat.gcd c d * unit :=
    mul_pos (Nat.cast_pos.mpr (Nat.gcd_pos_of_pos_right c d_pos)) unit_pos
  -- how many grains the level is above the window
  obtain ⟨z, low, high⟩ : ∃ z : ℕ, z * (Nat.gcd c d * unit) ≤ levels n - (payload - stride) ∧
      levels n - (payload - stride) < (z + 1) * (Nat.gcd c d * unit) := by
    refine ⟨⌊(levels n - (payload - stride)) / (Nat.gcd c d * unit)⌋₊, ?_, ?_⟩
    · exact (le_div_iff₀ grain_pos).mp
        (Nat.floor_le (div_nonneg (sub_nonneg.mpr inside) grain_pos.le))
    · exact (div_lt_iff₀ grain_pos).mp (Nat.lt_floor_add_one _)
  obtain ⟨j, i, whole⟩ := exists_credits c d_pos (z + 1)
  obtain ⟨k, isLevel⟩ := strides.level_add fits' j
  have below := strides.window_add credited.le fits' inside j
  have capped := fits' (n + j) (Nat.le_add_right n j)
  have whole' : (j : K) * c + (z + 1) * Nat.gcd c d = i * d := by exact_mod_cast whole
  have moved : levels (n + j) =
      levels n - (z + 1) * (Nat.gcd c d * unit) + ((i - k : ℤ) : K) * stride := by
    rw [isLevel, credits, isStride]
    push_cast
    linear_combination unit * whole'
  have stride_pos : 0 < stride := isStride ▸ mul_pos (Nat.cast_pos.mpr d_pos) unit_pos
  have up : (0 : K) < ((i - k : ℤ) : K) := by
    apply (mul_pos_iff_of_pos_right stride_pos).mp
    linarith
  have once : (1 : K) ≤ ((i - k : ℤ) : K) := by exact_mod_cast Int.cast_pos.mp up
  have jump : stride ≤ ((i - k : ℤ) : K) * stride := le_mul_of_one_le_left stride_pos.le once
  linarith

omit [LinearOrder K] [IsStrictOrderedRing K] in
/-- The grain divides what is added and what is drawn. -/
theorem exists_eq_mul_grain (unit : K) {a b : ℕ} (divides : b ∣ a) :
    ∃ k : ℕ, (a : K) * unit = k * (b * unit) := by
  obtain ⟨k, isA⟩ := divides
  exact ⟨k, by rw [isA]; push_cast; ring⟩

/-- What overflows adds up without bound. -/
theorem lost_unbounded [FloorRing K] (strides : Strides burst credit payload stride levels drawn)
    (unit_pos : 0 < unit) (d_pos : 0 < d) (credits : credit = c * unit)
    (isStride : stride = d * unit) (credited : 0 < credit)
    (exceeds : burst + Nat.gcd c d * unit < payload + credit) (k : ℕ) :
    ∃ n, k * (Nat.gcd c d * unit) ≤ ∑ i ∈ Finset.range n, lost burst credit (levels i) ∧
      Aligned burst (Nat.gcd c d * unit) (levels n) := by
  have grain_pos : (0 : K) < Nat.gcd c d * unit :=
    mul_pos (Nat.cast_pos.mpr (Nat.gcd_pos_of_pos_right c d_pos)) unit_pos
  obtain ⟨d', whole⟩ := exists_eq_mul_grain unit (Nat.gcd_dvd_right c d)
  have rounds := strides.toRounds.refine (isStride.trans whole)
  have credits' : ∃ k : ℕ, credit = k * (Nat.gcd c d * unit) := by
    obtain ⟨c', whole⟩ := exists_eq_mul_grain unit (Nat.gcd_dvd_left c d)
    exact ⟨c', credits.trans whole⟩
  induction k with
  | zero =>
      obtain ⟨n, -, full⟩ := strides.overflows unit_pos d_pos credits isStride credited exceeds 0
      refine ⟨n + 1, ?_, rounds.aligned_of_lost full⟩
      rw [Nat.cast_zero, zero_mul]
      exact Finset.sum_nonneg fun i _ => lost_nonneg
  | succ k ih =>
      obtain ⟨n, sum, aligned⟩ := ih
      obtain ⟨m, later, full⟩ := strides.overflows unit_pos d_pos credits isStride credited exceeds n
      obtain ⟨j, rfl⟩ := Nat.exists_eq_add_of_le later
      have aligned' := rounds.aligned_add credits' aligned j
      refine ⟨n + j + 1, ?_, rounds.aligned_of_lost full⟩
      have more : ∑ i ∈ Finset.range n, lost burst credit (levels i) ≤
          ∑ i ∈ Finset.range (n + j), lost burst credit (levels i) :=
        Finset.sum_le_sum_of_subset_of_nonneg (Finset.range_mono (Nat.le_add_right n j))
          fun i _ _ => lost_nonneg
      have atLeast := Rounds.grain_le_lost credits' grain_pos aligned' full
      rw [Finset.sum_range_succ, Nat.cast_succ, add_mul, one_mul]
      linarith

/-- Then no bound on the arrears holds. -/
theorem not_sustained [FloorRing K] (strides : Strides burst credit payload stride levels drawn)
    (unit_pos : 0 < unit) (d_pos : 0 < d) (credits : credit = c * unit)
    (isStride : stride = d * unit) (fits : payload ≤ burst)
    (exceeds : burst + Nat.gcd c d * unit < payload + credit) : ¬ Sustained credit drawn := by
  have grain_pos : (0 : K) < Nat.gcd c d * unit :=
    mul_pos (Nat.cast_pos.mpr (Nat.gcd_pos_of_pos_right c d_pos)) unit_pos
  have credited : 0 < credit := by linarith
  rintro ⟨bound, behind⟩
  obtain ⟨k, high⟩ := Archimedean.arch (burst + bound + 1) grain_pos
  rw [nsmul_eq_mul] at high
  obtain ⟨n, sum, -⟩ :=
    strides.lost_unbounded unit_pos d_pos credits isStride credited exceeds k
  have balance := strides.balance n
  have arrears := behind n
  have start := strides.le_burst
  have nonneg := strides.nonneg n
  linarith

end Strides

end TokenBucket
