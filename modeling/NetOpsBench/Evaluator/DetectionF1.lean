import Mathlib.Tactic.FieldSimp
import NetOpsBench.Evaluator.Report

/-!
# How exact the published F1 is

`generate_report` takes the F1 of the positive class from precision and recall after it rounded
them to thousandths. `drift` is what that adds to F1, in terms of what the two roundings add; the
published figures are those of the counts exactly when the drift is absorbed by the last rounding.
-/

namespace NetOpsBench

open Rounding (round halfEven Near)

/-- `2 TP / (2 TP + FP + FN)` -/
def exactF1 (tp fp fn : Nat) : Rat := 2 * tp / (2 * tp + fp + fn)

/-- The mean of the F1 of the two classes. -/
def exactMacroF1 (tp fp fn tn : Nat) : Rat := (exactF1 tp fp fn + exactF1 tn fp fn) / 2

/-- The nearest thousandth of a share, in thousandths. -/
def permille (part whole : Nat) : Int := halfEven (part / whole * 10 ^ 3)

/-- What the rounding to thousandths adds to a share, in units of one over the whole. -/
def residue (part whole : Nat) : Rat := permille part whole * whole - 1000 * part

/-- What rounding precision and recall adds to F1, in thousandths. -/
def drift (tp fp fn : Nat) : Rat :=
  let precision := permille tp (tp + fp)
  let recalled := permille tp (tp + fn)
  if precision + recalled = 0 then -(1000 * exactF1 tp fp fn)
  else 2 * (precision * residue tp (tp + fn) + recalled * residue tp (tp + fp)) /
    ((precision + recalled) * (2 * tp + fp + fn))

/-- A shift leaves a value next to the integer that it is rounded to. -/
def Absorbs (value shift : Rat) : Prop := Near (value + shift) (halfEven value)

instance (value shift : Rat) : Decidable (Absorbs value shift) :=
  inferInstanceAs (Decidable (Near (value + shift) (halfEven value)))

/-! ## The drift -/

theorem permille_nonneg (part whole : Nat) : 0 ≤ permille part whole := by
  apply Rounding.halfEven_nonneg
  positivity

theorem rate_eq_permille (part : Nat) {whole : Nat} (positive : 0 < whole) :
    rate 3 part whole = permille part whole / 1000 := by
  unfold rate permille Rounding.round
  rw [if_neg (by positivity)]
  norm_num

/-- The F1 of rounded precision and recall is the exact one with the drift added. -/
theorem f1_rounded {tp : Nat} (fp fn : Nat) (detected : 0 < tp) :
    f1 (rate 3 tp (tp + fp)) (rate 3 tp (tp + fn)) * 1000 =
      exactF1 tp fp fn * 1000 + drift tp fp fn := by
  have precision : rate 3 (tp : Rat) (tp + fp) = permille tp (tp + fp) / 1000 := by
    exact_mod_cast rate_eq_permille tp (Nat.add_pos_left detected fp)
  have recalled : rate 3 (tp : Rat) (tp + fn) = permille tp (tp + fn) / 1000 := by
    exact_mod_cast rate_eq_permille tp (Nat.add_pos_left detected fn)
  rw [precision, recalled]
  unfold f1 drift residue
  have nonneg := permille_nonneg tp (tp + fp)
  have nonneg' := permille_nonneg tp (tp + fn)
  generalize permille tp (tp + fp) = p at nonneg ⊢
  generalize permille tp (tp + fn) = r at nonneg' ⊢
  by_cases zero : p + r = 0
  · obtain ⟨rfl, rfl⟩ : p = 0 ∧ r = 0 := by omega
    norm_num
    ring
  · have positive : (0 : Rat) < p + r := by exact_mod_cast (by omega : 0 < p + r)
    have counts : (0 : Rat) < 2 * tp + fp + fn := by positivity
    rw [if_pos (by linarith), if_neg zero]
    unfold exactF1
    push_cast
    field_simp
    ring

theorem f1_neg (tn fp fn : Nat) :
    f1 (tn / (tn + fn)) (tn / (tn + fp)) = exactF1 tn fp fn := by
  unfold f1 exactF1
  rcases Nat.eq_zero_or_pos tn with zero | positive
  · rw [zero]
    norm_num
  · have first : (0 : Rat) < tn := by exact_mod_cast positive
    have shares : (0 : Rat) < tn / (tn + fn) + tn / (tn + fp) := by positivity
    rw [if_pos shares]
    field_simp
    ring

/-- Shares that need no rounding leave no drift. -/
theorem drift_eq_zero {tp fp fn : Nat} (detected : 0 < tp) (precision : residue tp (tp + fp) = 0)
    (recalled : residue tp (tp + fn) = 0) : drift tp fp fn = 0 := by
  unfold drift
  have positive : permille tp (tp + fp) ≠ 0 := by
    intro zero
    unfold residue at precision
    rw [zero] at precision
    have none : (tp : Rat) = 0 := by
      push_cast at precision
      linarith
    have absent : tp = 0 := by exact_mod_cast none
    omega
  have nonneg := permille_nonneg tp (tp + fp)
  have nonneg' := permille_nonneg tp (tp + fn)
  simp only [precision, recalled, mul_zero, add_zero, zero_div]
  rw [if_neg (by omega)]

theorem absorbs_zero (value : Rat) : Absorbs value 0 := by
  unfold Absorbs
  rw [add_zero]
  exact Rounding.near_halfEven value

/-- As many false alarms as misses: F1 is the precision, and rounding it twice changes nothing. -/
theorem absorbs_of_balanced {tp : Nat} (missed : Nat) (detected : 0 < tp) :
    Absorbs (exactF1 tp missed missed * 1000) (drift tp missed missed) := by
  have whole : (0 : Rat) < tp + missed := by positivity
  have share : exactF1 tp missed missed * 1000 = tp / ((tp + missed : Nat) : Rat) * 10 ^ 3 := by
    unfold exactF1
    push_cast
    field_simp
    ring
  have rounded : halfEven (exactF1 tp missed missed * 1000) = permille tp (tp + missed) := by
    rw [share]
    rfl
  have arrived : exactF1 tp missed missed * 1000 + drift tp missed missed =
      permille tp (tp + missed) := by
    unfold drift residue
    generalize permille tp (tp + missed) = p
    by_cases zero : p = 0
    · rw [zero]
      norm_num
      ring
    · have nonzero : (p : Rat) ≠ 0 := by exact_mod_cast zero
      have twice : (p : Rat) + p ≠ 0 := by
        rw [← two_mul]
        exact mul_ne_zero two_ne_zero nonzero
      simp only
      rw [if_neg (by omega), share]
      push_cast
      field_simp
      ring
  unfold Absorbs
  rw [arrived, rounded]
  left
  rw [sub_self, abs_zero]
  norm_num

/-! ## When the report is exact -/

/-- Rounding a shifted value gives the same thousandth when the shift is absorbed. -/
theorem round_eq_iff_absorbs {value value' shift : Rat}
    (shifted : value' * 1000 = value * 1000 + shift) :
    round 3 value' = round 3 value ↔ Absorbs (value * 1000) shift := by
  have power : (10 : Rat) ^ 3 = 1000 := by norm_num
  unfold Rounding.round Absorbs
  rw [power, shifted, div_left_inj' (by norm_num), Int.cast_inj]
  exact Rounding.halfEven_eq_iff

variable {results : List EvaluationResult}

theorem f1Pos_eq (detected : 0 < truePositives results) :
    f1Pos results * 1000 =
      exactF1 (truePositives results) (falsePositives results) (falseNegatives results) * 1000 +
        drift (truePositives results) (falsePositives results) (falseNegatives results) :=
  f1_rounded (falsePositives results) (falseNegatives results) detected

/-- The detection figures of the report are those of the counts. -/
def DetectionExact (int : Json → Int) (results : List EvaluationResult) : Prop :=
  ∃ report, generateReport int results = .ok report ∧
    report.summary.detectionF1 = round 3
      (exactF1 (truePositives results) (falsePositives results) (falseNegatives results)) ∧
    (negativeCases results ≠ [] → report.summary.detectionMacroF1 = some (round 3
      (exactMacroF1 (truePositives results) (falsePositives results) (falseNegatives results)
        (trueNegatives results))))

/-- The result of a fault on `spine1` for an output with this verdict. -/
def faultResult (verdict : String) : EvaluationResult :=
  asciiEvaluator.evaluate { verdict, location := some ⟨some "spine1", none⟩ }
    (some { faultType := some "device_down", location := ⟨some "spine1", none⟩ }) "fault"

/-- The result of a healthy network for an output with this verdict. -/
def healthyResult (verdict : String) : EvaluationResult :=
  asciiEvaluator.evaluate { verdict } none "healthy"

end NetOpsBench
