import Mathlib.Data.List.Lex
import Mathlib.Order.Bounds.Basic
import NetOpsBench.Evaluator.FaultTypeJudge
import NetOpsBench.Lib.Json
import NetOpsBench.Lib.Ranking
import NetOpsBench.Lib.Rounding
import NetOpsBench.Utils.InterfaceNames

/-!
# Scoring a diagnosis

`Evaluator.evaluate` of `netopsbench/evaluator/scorer.py`. Scores and weights are exact
rationals.
-/

namespace NetOpsBench

/-! ## Outputs and ground truths -/

/-- A location dictionary; a missing key and the value `None` read alike. -/
structure Location : Type where
  device : Option String := none
  interface : Option String := none
  deriving DecidableEq, Repr

structure Evaluator.AgentOutput : Type where
  verdict : String
  faultType : Option String := none
  location : Option Location := none
  evidence : List String := []
  confidence : Rat := 0
  reasoning : String := ""
  toolCalls : List Json := []
  timeTakenSeconds : Rat := 0
  metadata : List (String × Json) := []

/-- The ground truth of a fault. An equivalent location may be no dictionary: `none`. -/
structure FaultTruth : Type where
  faultType : Option String := none
  location : Location := {}
  equivalentLocations : List (Option Location) := []
  deriving DecidableEq, Repr

/-- How `_match_location` describes its choice. -/
inductive LocationMatchMode : Type where
  | noMatch
  | exact
  | equivalent
  | partialMatch
  deriving DecidableEq, Repr

structure EvaluationResult : Type where
  testcaseId : String
  correctVerdict : Bool
  correctDevice : Bool
  correctInterface : Bool
  correctFaultType : Bool
  score : Rat
  agentOutput : Evaluator.AgentOutput
  negativeSample : Bool
  falsePositive : Bool
  groundTruth : Option FaultTruth
  matchedLocation : Option Location
  locationMatchMode : LocationMatchMode
  /-- Set by `score_scenario_episode`. -/
  difficulty : Option String := none

/-- What an evaluator is built with, and the tables its texts are read by. -/
structure Evaluator : Type where
  tables : NameTables
  catalogue : FaultCatalogue
  faultTypeJudge : Option FaultTypeJudge := none

/-- The deterministic evaluator for texts of ASCII. -/
def asciiEvaluator : Evaluator := ⟨.ascii, ⟨Text.lower, .empty, []⟩, none⟩

def deviceLocalizationWeight : Rat := 1 / 2

def interfaceLocalizationWeight : Rat := 1 / 2

namespace Evaluator

variable (e : Evaluator)

/-! ## Matching a location -/

def normalizeName (name : String) : String :=
  if name = "" then ""
  else Text.replace (Text.replace (Text.strip (e.tables.lower name)) "-" "") "_" ""

def normalizeInterface (interface : Option String) : String :=
  normalizeInterfaceName e.tables interface

/-- `_is_better_location_rank` -/
def isBetterLocationRank : List Int → List Int → Bool
  | value :: rank, bestValue :: bestRank =>
      if bestValue < value then true
      else if value < bestValue then false
      else isBetterLocationRank rank bestRank
  | _, _ => false

/-- The running best of `_match_location`. -/
structure LocationMatch : Type where
  rank : List Int
  device : Bool
  interface : Bool
  location : Option Location
  mode : LocationMatchMode

def deviceMatch (agentDevice : Option String) (location : Location) : Bool :=
  e.normalizeName (agentDevice.getD "") = e.normalizeName (location.device.getD "")

def interfaceMatch (agentInterface : Option String) (interfaceApplicable : Bool)
    (location : Location) : Bool :=
  if interfaceApplicable then
    e.normalizeInterface agentInterface = e.normalizeInterface location.interface
  else true

/-- Before the first candidate. -/
def LocationMatch.start (interfaceApplicable : Bool) : LocationMatch :=
  ⟨[-1, -1, -1], false, !interfaceApplicable, none, .noMatch⟩

/-- The rank and the match of a candidate at a place of the list. -/
def candidateMatch (agentDevice agentInterface : Option String) (interfaceApplicable : Bool)
    (candidate : Location × Nat) : LocationMatch :=
  let device := e.deviceMatch agentDevice candidate.1
  let interface := e.interfaceMatch agentInterface interfaceApplicable candidate.1
  { rank := [if device then 1 else 0, if interface then 1 else 0, if candidate.2 = 0 then 1 else 0]
    device, interface
    location := some candidate.1
    mode :=
      if device && interface then if candidate.2 = 0 then .exact else .equivalent
      else .partialMatch }

/-- One round of the loop over the candidates. -/
def considerLocation (agentDevice agentInterface : Option String) (interfaceApplicable : Bool)
    (best : LocationMatch) (candidate : Location × Nat) : LocationMatch :=
  let found := e.candidateMatch agentDevice agentInterface interfaceApplicable candidate
  if isBetterLocationRank found.rank best.rank then found else best

def matchLocation (agentDevice agentInterface : Option String) (candidateLocations : List Location)
    (interfaceApplicable : Bool) : LocationMatch :=
  candidateLocations.zipIdx.foldl
    (e.considerLocation agentDevice agentInterface interfaceApplicable)
    (.start interfaceApplicable)

/-! ## Evaluation -/

/-- The locations that are accepted: the primary one, then the equivalent ones. -/
def candidateLocations (truth : FaultTruth) : List Location :=
  truth.location :: truth.equivalentLocations.filterMap id

theorem candidateLocations_ne_nil (truth : FaultTruth) : candidateLocations truth ≠ [] :=
  List.cons_ne_nil _ _

/-- `bool(gt_interface)` -/
def interfaceApplicable (truth : FaultTruth) : Bool :=
  truth.location.interface.getD "" ≠ ""

/-- The score before rounding. -/
def localizationScore (applicable correctDevice correctInterface : Bool) : Rat :=
  if applicable then
    (if correctDevice then deviceLocalizationWeight else 0) +
      (if correctInterface then interfaceLocalizationWeight else 0)
  else if correctDevice then 1 else 0

def evaluateHealthy (output : AgentOutput) (testcaseId : String) : EvaluationResult where
  testcaseId
  correctVerdict := output.verdict = "network_healthy"
  correctDevice := true
  correctInterface := true
  correctFaultType := true
  score := if output.verdict = "network_healthy" then 1 else 0
  agentOutput := output
  negativeSample := true
  falsePositive := output.verdict ≠ "network_healthy"
  groundTruth := none
  matchedLocation := none
  locationMatchMode := .noMatch

def evaluateFault (output : AgentOutput) (truth : FaultTruth) (testcaseId : String) :
    EvaluationResult :=
  let found := e.matchLocation (output.location.getD {}).device (output.location.getD {}).interface
    (candidateLocations truth) (interfaceApplicable truth)
  let correctVerdict : Bool := output.verdict = "fault_detected"
  { testcaseId
    correctVerdict
    correctDevice := found.device
    correctInterface := found.interface
    correctFaultType := judgeFaultTypeMatch e.catalogue e.faultTypeJudge (output.faultType.getD "")
      (truth.faultType.getD "") output.reasoning output.evidence
    score := Rounding.round 3 (
      if correctVerdict then
        localizationScore (interfaceApplicable truth) found.device found.interface
      else 0)
    agentOutput := output
    negativeSample := false
    falsePositive := false
    groundTruth := some truth
    matchedLocation := found.location
    locationMatchMode := found.mode }

/-- `Evaluator.evaluate`; the empty ground truth is that of a healthy network. -/
def evaluate (output : AgentOutput) (groundTruth : Option FaultTruth) (testcaseId : String) :
    EvaluationResult :=
  match groundTruth with
  | none => evaluateHealthy output testcaseId
  | some truth => e.evaluateFault output truth testcaseId

variable {e}

/-! ## The best candidate -/

section Best

variable {agentDevice agentInterface : Option String} {applicable : Bool}

/-- The ranks are compared in lexicographic order. -/
theorem isBetterLocationRank_eq (rank bestRank : List Int) (same : rank.length = bestRank.length) :
    isBetterLocationRank rank bestRank = decide (bestRank < rank) := by
  induction rank generalizing bestRank with
  | nil =>
      cases bestRank with
      | nil => rfl
      | cons bestValue bestRank => cases same
  | cons value rank ih =>
      cases bestRank with
      | nil => cases same
      | cons bestValue bestRank =>
          have rest := ih bestRank (Nat.succ.inj same)
          rw [Bool.eq_iff_iff, decide_eq_true_iff, List.cons_lt_cons_iff]
          unfold isBetterLocationRank
          split
          · rename_i more
            exact iff_of_true rfl (.inl more)
          · split
            · rename_i notMore less
              exact iff_of_false Bool.false_ne_true (by omega)
            · rename_i notMore notLess
              have equal : bestValue = value := by omega
              rw [rest, decide_eq_true_iff]
              constructor
              · exact fun later => .inr ⟨equal, later⟩
              · intro order
                rcases order with less | later
                · omega
                · exact later.2

theorem considerLocation_eq (best : LocationMatch) (candidate : Location × Nat)
    (length : best.rank.length = 3) :
    e.considerLocation agentDevice agentInterface applicable best candidate =
      Ranking.keep LocationMatch.rank (e.candidateMatch agentDevice agentInterface applicable)
        best candidate := by
  unfold considerLocation Ranking.keep
  have better := isBetterLocationRank_eq
    (e.candidateMatch agentDevice agentInterface applicable candidate).rank best.rank length.symm
  simp only [better, decide_eq_true_eq]
  by_cases above : best.rank <
      (e.candidateMatch agentDevice agentInterface applicable candidate).rank
  · rw [if_pos above, if_pos above]
  · rw [if_neg above, if_neg above]

/-- The loop is a scan by rank. -/
theorem foldl_considerLocation (candidates : List (Location × Nat)) (best : LocationMatch)
    (length : best.rank.length = 3) :
    candidates.foldl (e.considerLocation agentDevice agentInterface applicable) best =
      candidates.foldl
        (Ranking.keep LocationMatch.rank (e.candidateMatch agentDevice agentInterface applicable)) best := by
  induction candidates generalizing best with
  | nil => rfl
  | cons candidate candidates ih =>
      rw [List.foldl_cons, List.foldl_cons, considerLocation_eq best candidate length]
      apply ih
      unfold Ranking.keep
      split
      · rfl
      · exact length

/-- How well a candidate matches, the device before the interface. -/
def grade (device interface : Bool) : Nat := (if device then 2 else 0) + if interface then 1 else 0

theorem grade_le_of_rank {device interface device' interface' : Bool} {first first' : Int}
    (le : ¬ ([if device' then 1 else 0, if interface' then 1 else 0, first'] : List Int) <
      [if device then 1 else 0, if interface then 1 else 0, first]) :
    grade device interface ≤ grade device' interface' := by
  rw [List.cons_lt_cons_iff, List.cons_lt_cons_iff] at le
  cases device <;> cases device' <;> cases interface <;> cases interface' <;>
    simp [grade] at le ⊢

/-- The match that is found is that of a candidate, and none matches better. -/
theorem matchLocation_best (e : Evaluator) (agentDevice agentInterface : Option String)
    (applicable : Bool) {candidates : List Location} (nonempty : candidates ≠ []) :
    ∃ location ∈ candidates,
      (e.matchLocation agentDevice agentInterface candidates applicable).device =
          e.deviceMatch agentDevice location ∧
        (e.matchLocation agentDevice agentInterface candidates applicable).interface =
          e.interfaceMatch agentInterface applicable location ∧
        ∀ other ∈ candidates,
          grade (e.deviceMatch agentDevice other)
              (e.interfaceMatch agentInterface applicable other) ≤
            grade (e.deviceMatch agentDevice location)
              (e.interfaceMatch agentInterface applicable location) := by
  unfold matchLocation
  rw [foldl_considerLocation candidates.zipIdx (.start applicable) rfl]
  have indexed : candidates.zipIdx ≠ [] := by
    intro empty
    exact nonempty (List.zipIdx_eq_nil_iff.mp empty)
  have below : ∀ candidate ∈ candidates.zipIdx, (LocationMatch.start applicable).rank <
      (e.candidateMatch agentDevice agentInterface applicable candidate).rank := by
    intro candidate _
    apply List.cons_lt_cons_iff.mpr
    left
    split <;> decide
  obtain ⟨candidate, mem, made, best⟩ := Ranking.scan_best LocationMatch.rank
    (e.candidateMatch agentDevice agentInterface applicable) indexed below
  rw [made]
  refine ⟨candidate.1, List.fst_mem_of_mem_zipIdx mem, rfl, rfl, ?_⟩
  intro other mem'
  obtain ⟨i, at'⟩ := List.mem_iff_getElem?.mp mem'
  have le := best (other, i) (List.mem_zipIdx_iff_getElem?.mpr at')
  exact grade_le_of_rank (not_lt_of_ge le)

theorem grade_inj {device interface device' interface' : Bool}
    (same : grade device interface = grade device' interface') :
    device = device' ∧ interface = interface' := by
  cases device <;> cases device' <;> cases interface <;> cases interface' <;> simp [grade] at same ⊢

/-- Every candidate matches an output as well as one of the others does. -/
def Covered (e : Evaluator) (agentDevice agentInterface : Option String) (applicable : Bool)
    (candidates others : List Location) : Prop :=
  ∀ location ∈ candidates, ∃ other ∈ others,
    e.deviceMatch agentDevice other = e.deviceMatch agentDevice location ∧
      e.interfaceMatch agentInterface applicable other =
        e.interfaceMatch agentInterface applicable location

/-- Candidates that cover each other give the same match. -/
theorem matchLocation_alike {candidates others : List Location} (nonempty : candidates ≠ [])
    (nonempty' : others ≠ [])
    (covered : Covered e agentDevice agentInterface applicable candidates others)
    (covers : Covered e agentDevice agentInterface applicable others candidates) :
    (e.matchLocation agentDevice agentInterface candidates applicable).device =
        (e.matchLocation agentDevice agentInterface others applicable).device ∧
      (e.matchLocation agentDevice agentInterface candidates applicable).interface =
        (e.matchLocation agentDevice agentInterface others applicable).interface := by
  obtain ⟨location, mem, device, interface, best⟩ :=
    matchLocation_best e agentDevice agentInterface applicable nonempty
  obtain ⟨other, mem', device', interface', best'⟩ :=
    matchLocation_best e agentDevice agentInterface applicable nonempty'
  rw [device, interface, device', interface']
  apply grade_inj
  apply Nat.le_antisymm
  · obtain ⟨alike, listed, sameDevice, sameInterface⟩ := covered location mem
    have le := best' alike listed
    rwa [sameDevice, sameInterface] at le
  · obtain ⟨alike, listed, sameDevice, sameInterface⟩ := covers other mem'
    have le := best alike listed
    rwa [sameDevice, sameInterface] at le

end Best

/-! ## The score as a maximum -/

/-- What one location earns: half for the device and half for the interface, or all for the device
when the primary location has no interface. -/
def locationCredit (e : Evaluator) (output : AgentOutput) (truth : FaultTruth)
    (location : Location) : Rat :=
  let deviceMatches : Bool := e.normalizeName ((output.location.getD {}).device.getD "") =
    e.normalizeName (location.device.getD "")
  let interfaceMatches : Bool := e.normalizeInterface (output.location.getD {}).interface =
    e.normalizeInterface location.interface
  if interfaceApplicable truth then
    1 / 2 * (if deviceMatches then 1 else 0) + 1 / 2 * (if interfaceMatches then 1 else 0)
  else 1 * (if deviceMatches then 1 else 0)

theorem localizationScore_mono {applicable device interface device' interface' : Bool}
    (le : grade device interface ≤ grade device' interface') :
    localizationScore applicable device interface ≤ localizationScore applicable device' interface' := by
  unfold localizationScore deviceLocalizationWeight interfaceLocalizationWeight
  cases applicable <;> cases device <;> cases device' <;> cases interface <;> cases interface' <;>
    simp [grade] at le ⊢

theorem round_localizationScore (applicable device interface : Bool) :
    Rounding.round 3 (localizationScore applicable device interface) =
      localizationScore applicable device interface := by
  apply Rounding.round_of_int (if applicable then
    (if device then 500 else 0) + (if interface then 500 else 0) else if device then 1000 else 0)
  unfold localizationScore deviceLocalizationWeight interfaceLocalizationWeight
  cases applicable <;> cases device <;> cases interface <;> norm_num

variable {output : AgentOutput} {truth : FaultTruth} {testcaseId : String} {location : Location}

theorem locationCredit_eq :
    locationCredit e output truth location =
      localizationScore (interfaceApplicable truth)
        (e.deviceMatch (output.location.getD {}).device location)
        (e.interfaceMatch (output.location.getD {}).interface (interfaceApplicable truth)
          location) := by
  unfold locationCredit localizationScore interfaceMatch deviceLocalizationWeight
    interfaceLocalizationWeight
  cases interfaceApplicable truth
  · simp only [Bool.false_eq_true, if_false, one_mul]
    rfl
  · simp only [if_true, mul_ite, mul_one, mul_zero]
    rfl

/-- A detected fault earns what its best accepted location earns. -/
theorem score_greatest (e : Evaluator) (truth : FaultTruth) (testcaseId : String)
    (detected : output.verdict = "fault_detected") :
    IsGreatest {credit | ∃ location ∈ candidateLocations truth,
      credit = locationCredit e output truth location}
      (e.evaluate output (some truth) testcaseId).score := by
  obtain ⟨location, mem, device, interface, best⟩ := matchLocation_best e
    (output.location.getD {}).device (output.location.getD {}).interface (interfaceApplicable truth)
    (candidateLocations_ne_nil truth)
  have score : (e.evaluate output (some truth) testcaseId).score =
      locationCredit e output truth location := by
    rw [locationCredit_eq, ← device, ← interface]
    unfold evaluate evaluateFault
    simp only [detected, decide_true, if_true]
    exact round_localizationScore _ _ _
  constructor
  · exact ⟨location, mem, score⟩
  · intro credit earned
    obtain ⟨other, mem', same⟩ := earned
    rw [same, score, locationCredit_eq, locationCredit_eq]
    exact localizationScore_mono (best other mem')

theorem score_of_not_detected (missed : output.verdict ≠ "fault_detected") :
    (e.evaluate output (some truth) testcaseId).score = 0 := by
  unfold evaluate evaluateFault
  simp only [missed, decide_false, Bool.false_eq_true, if_false]
  exact Rounding.round_of_int 0 (by norm_num)

/-- A truth whose accepted locations include those of another scores no output lower. -/
theorem score_le_of_subset {truth' : FaultTruth}
    (applicable : interfaceApplicable truth' = interfaceApplicable truth)
    (more : candidateLocations truth ⊆ candidateLocations truth') :
    (e.evaluate output (some truth) testcaseId).score ≤
      (e.evaluate output (some truth') testcaseId).score := by
  by_cases detected : output.verdict = "fault_detected"
  · obtain ⟨⟨location, mem, score⟩, _⟩ := score_greatest e truth testcaseId detected
    have best := (score_greatest e truth' testcaseId detected).2
    rw [score]
    apply best
    refine ⟨location, more mem, ?_⟩
    rw [locationCredit_eq, locationCredit_eq, applicable]
  · rw [score_of_not_detected detected, score_of_not_detected detected]

/-- The score is the greatest credit of an accepted location and depends on the equivalent
locations only as a set that may grow. -/
theorem localization_score (e : Evaluator) (output : AgentOutput) (truth : FaultTruth)
    (testcaseId : String) :
    (output.verdict ≠ "fault_detected" →
        (e.evaluate output (some truth) testcaseId).score = 0) ∧
      (output.verdict = "fault_detected" →
        IsGreatest {credit | ∃ location ∈ candidateLocations truth,
          credit = locationCredit e output truth location}
          (e.evaluate output (some truth) testcaseId).score) ∧
      (∀ equivalentLocations, truth.equivalentLocations.Perm equivalentLocations →
        (e.evaluate output (some { truth with equivalentLocations }) testcaseId).score =
          (e.evaluate output (some truth) testcaseId).score) ∧
      ∀ equivalentLocations, truth.equivalentLocations ⊆ equivalentLocations →
        (e.evaluate output (some truth) testcaseId).score ≤
          (e.evaluate output (some { truth with equivalentLocations }) testcaseId).score := by
  have grow : ∀ fewer more : List (Option Location), fewer ⊆ more →
      truth.location :: fewer.filterMap id ⊆ truth.location :: more.filterMap id := by
    intro fewer more subset location mem
    rcases List.mem_cons.mp mem with rfl | equivalent
    · exact List.mem_cons_self ..
    · obtain ⟨entry, listed, same⟩ := List.mem_filterMap.mp equivalent
      exact List.mem_cons_of_mem _ (List.mem_filterMap.mpr ⟨entry, subset listed, same⟩)
  refine ⟨score_of_not_detected, score_greatest e truth testcaseId, ?_, ?_⟩
  · intro equivalentLocations shuffled
    apply le_antisymm
    · exact score_le_of_subset rfl (grow _ _ shuffled.symm.subset)
    · exact score_le_of_subset rfl (grow _ _ shuffled.subset)
  · intro equivalentLocations subset
    exact score_le_of_subset rfl (grow _ _ subset)

end Evaluator

end NetOpsBench
