import NetOpsBench.Lib.Dict
import NetOpsBench.Models.Runtime

/-!
# Judging the fault type

`netopsbench/evaluator/fault_type_judge.py`: a diagnosis names the right fault type when the
names agree in canonical form, or when a semantic judge says so within the taxonomy. The judge
is a callback; it answers or fails with an error that `judge_fault_type_match` catches.
-/

namespace NetOpsBench

/-- The builtin fault specs: `_builtin_alias_index` and the names that scenarios support. -/
structure FaultCatalogue : Type where
  lower : String → String
  aliasIndex : Dict String String
  supportedScenarioFaults : List String

def unknownFaultType : String := "unknown"

/-- `_LEGACY_FAULT_TYPE_ALIASES` -/
def legacyFaultTypeAliases : List (String × String) :=
  [("link_failure", "link_down"), ("linkdown", "link_down"), ("link failure", "link_down"),
    ("blackhole", "blackhole_route"), ("black_hole", "blackhole_route"),
    ("static_route_error", "static_route_misconfig"),
    ("static_route_misconfiguration", "static_route_misconfig"),
    ("route_misconfig", "static_route_misconfig"), ("mtu_error", "mtu_mismatch")]

def canonicalizeFaultName (catalogue : FaultCatalogue) (name : String) : String :=
  (catalogue.aliasIndex.get (Text.strip name)).getD (Text.strip name)

def canonicalizeFaultType (catalogue : FaultCatalogue) (faultType : String) : String :=
  let raw := Text.strip faultType
  if raw = "" then ""
  else
    let spelled := Text.replace (Text.strip (catalogue.lower raw)) " " "_"
    let normalized := (legacyFaultTypeAliases.lookup spelled).getD spelled
    Text.either (canonicalizeFaultName catalogue normalized) normalized

/-- `_truncate_text` -/
def truncateText (value : String) (limit : Nat) : String :=
  let text := Text.strip value
  if text.length ≤ limit then text
  else String.ofList
    ((text.toList.take (limit - 3)).reverse.dropWhile Text.isSpace).reverse ++ "..."

structure FaultTypeJudgeRequest : Type where
  agentFaultType : String
  groundTruthFaultType : String
  canonicalAgentFaultType : String
  canonicalGroundTruthFaultType : String
  allowedFaultTypes : List String
  agentReasoning : String
  evidence : List String

/-- `build_fault_type_judge_request` -/
def FaultTypeJudgeRequest.build (catalogue : FaultCatalogue)
    (agentFaultType groundTruthFaultType agentReasoning : String) (evidence : List String) :
    FaultTypeJudgeRequest where
  agentFaultType
  groundTruthFaultType
  canonicalAgentFaultType := canonicalizeFaultType catalogue agentFaultType
  canonicalGroundTruthFaultType := canonicalizeFaultType catalogue groundTruthFaultType
  allowedFaultTypes := catalogue.supportedScenarioFaults
  agentReasoning := truncateText agentReasoning 1200
  evidence := (evidence.take 6).map fun item => truncateText item 240

structure FaultTypeJudgeResult : Type where
  canonicalAgentFaultType : String
  canonicalGroundTruthFaultType : String
  isMatch : Bool
  taxonomyViolation : Bool := false

/-- The validators of `FaultTypeJudgeResult`: canonical names, and none outside the taxonomy. -/
def FaultTypeJudgeResult.validate (catalogue : FaultCatalogue) (result : FaultTypeJudgeResult) :
    FaultTypeJudgeResult :=
  let normalize name := Text.either (canonicalizeFaultType catalogue name) unknownFaultType
  let agent := normalize result.canonicalAgentFaultType
  let groundTruth := normalize result.canonicalGroundTruthFaultType
  let allowed := catalogue.supportedScenarioFaults ++ [unknownFaultType, ""]
  if agent ∉ allowed ∨ groundTruth ∉ allowed then ⟨agent, groundTruth, false, true⟩
  else ⟨agent, groundTruth, result.isMatch, result.taxonomyViolation⟩

/-- A semantic judge; `none` stands for an error that the caller catches. -/
abbrev FaultTypeJudge : Type := FaultTypeJudgeRequest → Option FaultTypeJudgeResult

/-- The first component of `judge_fault_type_match`. -/
def judgeFaultTypeMatch (catalogue : FaultCatalogue) (judge : Option FaultTypeJudge)
    (agentFaultType groundTruthFaultType agentReasoning : String) (evidence : List String) : Bool :=
  let request := FaultTypeJudgeRequest.build catalogue agentFaultType groundTruthFaultType
    agentReasoning evidence
  if request.canonicalAgentFaultType ≠ "" ∧
      request.canonicalAgentFaultType = request.canonicalGroundTruthFaultType then true
  else
    match judge.bind fun judge => (judge request).map (·.validate catalogue) with
    | none => false
    | some judgment =>
        judgment.isMatch && !judgment.taxonomyViolation &&
          judgment.canonicalGroundTruthFaultType = request.canonicalGroundTruthFaultType &&
          judgment.canonicalAgentFaultType = request.canonicalGroundTruthFaultType

end NetOpsBench
