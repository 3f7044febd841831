import NetOpsBench.ClientAgent.Config
import NetOpsBench.Evaluator.Scorer
import NetOpsBench.Lib.Grouping

/-!
# The benchmark report

`Evaluator.generate_report` of `netopsbench/evaluator/scorer.py`, in exact rationals. The detailed
results, the names and the clock readings that it copies into the report are left out.
-/

namespace NetOpsBench

open Rounding (round)

/-- One entry of `breakdown_by_difficulty` or `breakdown_by_fault_type`. -/
structure Breakdown : Type where
  total : Nat
  correct : Nat
  scoreSum : Rat
  accuracy : Rat
  avgScore : Rat

/-- `report["summary"]` -/
structure ReportSummary : Type where
  totalCases : Nat
  correctVerdict : Nat
  correctDevice : Nat
  correctInterface : Nat
  correctFaultType : Nat
  overallAccuracy : Rat
  detectionAccuracy : Rat
  detectionPrecision : Rat
  detectionRecall : Rat
  detectionF1 : Rat
  detectionMacroF1 : Option Rat
  localizationSuccessRate : Rat
  interfaceLocalizationRate : Rat
  interfaceApplicableCases : Nat
  localizationCompositeScore : Rat
  faultTypeAccuracy : Rat
  averageScore : Rat
  avgToolCalls : Rat
  avgTimeSeconds : Rat
  totalInputTokens : Int
  avgInputTokensPerCase : Rat
  totalOutputTokens : Int
  avgOutputTokensPerCase : Rat
  falsePositiveRate : Option Rat
  falseNegativeRate : Option Rat
  negativeSampleCases : Nat
  positiveSampleCases : Nat

structure Report : Type where
  summary : ReportSummary
  breakdownByDifficulty : Dict String Breakdown
  breakdownByFaultType : Dict (Option String) Breakdown

/-- `round(part / whole, digits) if whole else 0.0` -/
def rate (digits : Nat) (part whole : Rat) : Rat :=
  if whole = 0 then 0 else round digits (part / whole)

namespace EvaluationResult

/-- The truthiness of the interface of the ground truth's location. -/
def interfaceApplicable (result : EvaluationResult) : Bool :=
  result.groundTruth.any Evaluator.interfaceApplicable

/-- `_is_fully_correct_case` -/
def fullyCorrect (result : EvaluationResult) : Bool :=
  if result.negativeSample then result.correctVerdict
  else result.correctVerdict && result.correctDevice && result.correctFaultType &&
    (if result.interfaceApplicable then result.correctInterface else true)

/-- `int(metadata.get(key, 0) or 0)`; `int` is the built-in function. -/
def tokens (int : Json → Int) (key : String) (result : EvaluationResult) : Int :=
  match result.agentOutput.metadata.lookup key with
  | none => 0
  | some value => if Json.truthy value then int value else 0

end EvaluationResult

def breakdown (results : List EvaluationResult) : Breakdown where
  total := results.length
  correct := results.countP (·.correctFaultType)
  scoreSum := (results.map (·.score)).sum
  accuracy := round 3 (results.countP (·.correctFaultType) / results.length)
  avgScore := round 3 ((results.map (·.score)).sum / results.length)

def negativeCases (results : List EvaluationResult) : List EvaluationResult :=
  results.filter (·.negativeSample)

def positiveCases (results : List EvaluationResult) : List EvaluationResult :=
  results.filter (!·.negativeSample)

/-- The harmonic mean of precision and recall. -/
def f1 (precision recalled : Rat) : Rat :=
  if 0 < precision + recalled then 2 * precision * recalled / (precision + recalled) else 0

/-- `_tp_det` -/
def truePositives (results : List EvaluationResult) : Nat :=
  (positiveCases results).countP (·.correctVerdict)

/-- `_fn_det` -/
def falseNegatives (results : List EvaluationResult) : Nat :=
  (positiveCases results).length - truePositives results

/-- `_fp_det` -/
def falsePositives (results : List EvaluationResult) : Nat :=
  (negativeCases results).countP (·.falsePositive)

/-- `_tn_det` -/
def trueNegatives (results : List EvaluationResult) : Nat :=
  (negativeCases results).length - falsePositives results

def detectionPrecision (results : List EvaluationResult) : Rat :=
  rate 3 (truePositives results) (truePositives results + falsePositives results)

def detectionRecall (results : List EvaluationResult) : Rat :=
  rate 3 (truePositives results) (truePositives results + falseNegatives results)

/-- `_f1_pos` -/
def f1Pos (results : List EvaluationResult) : Rat :=
  f1 (detectionPrecision results) (detectionRecall results)

/-- `_f1_neg` -/
def f1Neg (results : List EvaluationResult) : Rat :=
  let precision : Rat := trueNegatives results / (trueNegatives results + falseNegatives results)
  let recalled : Rat := trueNegatives results / (trueNegatives results + falsePositives results)
  f1 precision recalled

def detectionMacroF1 (results : List EvaluationResult) : Option Rat :=
  if negativeCases results = [] then none
  else some (round 3 ((f1Pos results + f1Neg results) / 2))

def reportSummary (int : Json → Int) (results : List EvaluationResult) : ReportSummary :=
  let positives := positiveCases results
  let negatives := negativeCases results
  let applicable := positives.filter (·.interfaceApplicable)
  let correctDevice := positives.countP fun r => r.correctVerdict && r.correctDevice
  let correctInterface := applicable.countP fun r => r.correctVerdict && r.correctInterface
  let correctFaultType := positives.countP (·.correctFaultType)
  let localization := rate 3 correctDevice positives.length
  let interfaceLocalization := rate 3 correctInterface applicable.length
  let inputTokens := (results.map (·.tokens int "input_tokens")).sum
  let outputTokens := (results.map (·.tokens int "output_tokens")).sum
  let missed := positives.countP (·.agentOutput.verdict = "network_healthy")
  { totalCases := results.length
    correctVerdict := results.countP (·.correctVerdict)
    correctDevice, correctInterface, correctFaultType
    overallAccuracy := round 3 (results.countP (·.fullyCorrect) / results.length)
    detectionAccuracy := round 3 (results.countP (·.correctVerdict) / results.length)
    detectionPrecision := detectionPrecision results
    detectionRecall := detectionRecall results
    detectionF1 := round 3 (f1Pos results)
    detectionMacroF1 := detectionMacroF1 results
    localizationSuccessRate := localization
    interfaceLocalizationRate := interfaceLocalization
    interfaceApplicableCases := applicable.length
    localizationCompositeScore := round 3 (deviceLocalizationWeight * localization +
      interfaceLocalizationWeight * interfaceLocalization)
    faultTypeAccuracy := rate 3 correctFaultType positives.length
    averageScore := round 3 ((results.map (·.score)).sum / results.length)
    avgToolCalls := round 1 ((results.map (·.agentOutput.toolCalls.length)).sum / results.length)
    avgTimeSeconds := round 1 ((results.map (·.agentOutput.timeTakenSeconds)).sum / results.length)
    totalInputTokens := inputTokens
    avgInputTokensPerCase := round 1 (inputTokens / results.length)
    totalOutputTokens := outputTokens
    avgOutputTokensPerCase := round 1 (outputTokens / results.length)
    falsePositiveRate :=
      if negatives = [] then none
      else some (round 3 (falsePositives results / negatives.length))
    falseNegativeRate :=
      if positives = [] then none else some (round 3 (missed / positives.length))
    negativeSampleCases := negatives.length
    positiveSampleCases := positives.length }

/-- The breakdown of each group, in the order in which the groups first occur. -/
def breakdownBy {κ : Type} [DecidableEq κ] (key : EvaluationResult → κ)
    (results : List EvaluationResult) : Dict κ Breakdown :=
  (Grouping.grouped key results).mapValues breakdown

def generateReport (int : Json → Int) (results : List EvaluationResult) : Except String Report :=
  if results = [] then .error "No results to report"
  else .ok
    { summary := reportSummary int results
      breakdownByDifficulty := breakdownBy (·.difficulty.getD "unknown") results
      breakdownByFaultType :=
        breakdownBy (fun r => (r.groundTruth.map (·.faultType)).getD (some "unknown"))
          (positiveCases results) }

end NetOpsBench
