import Mathlib
import NetOpsBench.Pingmesh.CoverageAgreement

/-!
# The coverage of one epoch

The rows of `coverage_epoch_cycles` consecutive cycles of every client, wherever each
client starts, make the coverage audit report a complete plan
(`Detector.probeLoop_agrees`). A cycle number that no float holds, or a client without a
name, breaks the agreement (`probeLoop_misread`).
-/

namespace NetOpsBench

open Fallible

/-! ## The metrics of a client -/

/-- A metric that the agents owe for a cycle of a client: one of the roster's clients reports
the frame that the plan has for it. -/
structure Owed (plan : PingmeshPlan) (config : ClientAgentConfig) (client : ClientProbePlan)
    (cycle : Nat) (frame : ProbeFrame) (metric : Metric) : Prop where
  frameAt : plan.FrameAt client.name cycle client frame
  reports : ∃ localClient ∈ config.clients, localClient.name = client.name ∧
    ProbeLoop.Reports config localClient client frame cycle metric

section Client

variable {plan : PingmeshPlan} {config : ClientAgentConfig} {client : ClientProbePlan}
  {summarize : List Nat → RttSummary} {turns : Nat} {around : String → Nat → Surroundings}
  {state : String → LoopState} {metrics : List Metric}

/-- The metrics of so many turns are owed in consecutive cycles, and none is left out. -/
theorem clientMetrics_spec (mem : client ∈ plan.clients)
    (done : clientMetrics summarize config turns around state client = .ok metrics)
    (noWrap : (state client.name).cycle.toNat + turns < 2 ^ 64) :
    (∀ metric ∈ metrics, ∃ k < turns, ∃ frame,
      Owed plan config client ((state client.name).cycle.toNat + k) frame metric) ∧
      ∀ k < turns, ∃ frame,
        plan.FrameAt client.name ((state client.name).cycle.toNat + k) client frame ∧
          ∀ name ∈ frameTargets client frame, ∃ metric ∈ metrics, metric.dstName = name ∧
            Owed plan config client ((state client.name).cycle.toNat + k) frame metric := by
  simp only [clientMetrics, bind_eq_ok] at done
  obtain ⟨localClient, found, loop, started, ran⟩ := done
  obtain ⟨memLocal, named⟩ := localClient_eq_ok found
  obtain ⟨sound, complete⟩ := ProbeLoop.run_spec (ProbeLoop.started_of_ok started) ran noWrap
  constructor
  · intro metric memMetric
    obtain ⟨k, below, frame, frameAt, reports⟩ := sound metric memMetric
    exact ⟨k, below, frame, ⟨mem, rfl, frameAt⟩, localClient, memLocal, named, reports⟩
  · intro k below
    obtain ⟨frame, frameAt, all⟩ := complete k below
    refine ⟨frame, ⟨mem, rfl, frameAt⟩, fun name active => ?_⟩
    obtain ⟨metric, memMetric, dstName, reports⟩ := all name active
    exact ⟨metric, memMetric, dstName, ⟨mem, rfl, frameAt⟩, localClient, memLocal, named, reports⟩

end Client

/-! ## The row loop over agreeing rows -/

/-- The row that a metric counts as when it is valid. -/
def Metric.validRow (metric : Metric) : ValidRow :=
  { source := metric.srcName
    destination := metric.dstName
    cycle := metric.result.probeCycle
    destinationBatchIndex := metric.result.destinationBatchIndex
    portBatchIndex := metric.result.portBatchIndex }

namespace Detector

/-- Rows that only add to the valid ones leave the other accumulators alone. -/
theorem foldlM_scanRow {α : Type} {d : Detector} {rows : List α} {row : α → Row}
    {valid : α → ValidRow}
    (adds : ∀ a ∈ rows, ∀ scan : CoverageScan,
      d.scanRow scan (row a) = .ok { scan with valid := scan.valid ++ [valid a] })
    (scan : CoverageScan) :
    (rows.map row).foldlM d.scanRow scan =
      .ok { scan with valid := scan.valid ++ rows.map valid } := by
  induction rows generalizing scan with
  | nil => simp [pure, Except.pure]
  | cons a rows ih =>
      rw [List.map_cons, List.foldlM_cons, adds a (by simp), ok_bind,
        ih fun b mem => adds b (by simp [mem])]
      simp

theorem mem_compileCombinations {plan : PingmeshPlan} {s d : String} {port : Nat} :
    (s, d, port) ∈ compileCombinations plan ↔ ∃ client ∈ plan.clients, client.name = s ∧
      ∃ (k : Nat) (frame : ProbeFrame), client.frames[k]? = some frame ∧
        d ∈ frameTargets client frame ∧ frame.portBatchIndex = port := by
  simp only [compileCombinations, List.mem_flatMap, List.mem_map, Prod.exists, Prod.mk.injEq]
  constructor
  · intro ⟨source, k, expected, mem, name, active, named, target, portEq⟩
    obtain ⟨client, memClient, clientName, frame, atK, rfl⟩ := Compiled.mem_frameEntries.mp mem
    subst named target
    exact ⟨client, memClient, clientName, k, frame, atK, active, portEq⟩
  · intro ⟨client, memClient, clientName, k, frame, atK, active, portEq⟩
    exact ⟨client.name, k, expectedFrame client frame,
      Compiled.mem_frameEntries.mpr ⟨client, memClient, rfl, frame, atK, rfl⟩, d, active, clientName,
      rfl, portEq⟩

end Detector

/-- Every residue comes up in as many consecutive numbers as the modulus. -/
theorem exists_mod_eq (start : Nat) {modulus residue : Nat} (below : residue < modulus) :
    ∃ k < modulus, (start + k) % modulus = residue := by
  have offset := Nat.mod_lt start (Nat.zero_lt_of_lt below)
  refine ⟨(modulus - start % modulus + residue) % modulus, Nat.mod_lt _ (Nat.zero_lt_of_lt below), ?_⟩
  have regroup : start % modulus + (modulus - start % modulus + residue) = modulus + residue := by
    omega
  rw [Nat.add_mod_mod, ← Nat.mod_add_mod, regroup, Nat.add_mod_left, Nat.mod_eq_of_lt below]

section Epoch

variable {manifest : TopologyManifest} {peers : Peers} {plan : PingmeshPlan}
  {str : Json → String} {config : ClientAgentConfig} {client : ClientProbePlan}
  {frame : ProbeFrame} {cycle : Nat} {metric : Metric} {render : Nat → String}

theorem Owed.agrees (owed : Owed plan config client cycle frame metric)
    (compiled : Compiled manifest peers plan)
    (built : buildClientAgentConfig str manifest plan = .ok config)
    (named : ∀ device ∈ manifest.clients, device.name ≠ "")
    (cycleHeld : Binary64.Exact cycle) (batchHeld : Binary64.Exact frame.destinationBatchIndex) :
    (Detector.ofPlan manifest plan).Agrees (metric.row render) cycle (expectedFrame client frame) := by
  obtain ⟨localClient, memLocal, sameName, reports⟩ := owed.reports
  exact reports.agrees compiled built named memLocal (sameName ▸ owed.frameAt) cycleHeld batchHeld

theorem srcName_row {s : String} :
    (metric.row render).srcName = some s ↔ metric.srcName = s ∧ s ≠ "" := by
  simp [Metric.row, nonempty_eq_some]

theorem dstName_row {s : String} :
    (metric.row render).dstName = some s ↔ metric.dstName = s ∧ s ≠ "" := by
  simp [Metric.row, nonempty_eq_some]

theorem planId_row {s : String} :
    (metric.row render).planId = some s ↔ metric.planId = s ∧ s ≠ "" := by
  simp [Metric.row, nonempty_eq_some]

theorem tagPresent_some {s : String} : tagPresent (some s) = true ↔ s ≠ "" := by
  simp [tagPresent]

/-- A row that agrees has every column of a complete record. -/
theorem recordComplete_of_agrees {d : Detector} {expected : ExpectedFrame}
    (agrees : d.Agrees (metric.row render) cycle expected) :
    (metric.row render).recordComplete = true := by
  obtain ⟨source, destination, srcName, dstName, -, identity⟩ := agrees.progress
  obtain ⟨planId, -⟩ := Detector.checkIdentity_eq_ok.mp identity
  simp only [Row.recordComplete, decide_eq_true_eq, planId, srcName, dstName, tagPresent_some]
  exact ⟨(planId_row.mp planId).2, (srcName_row.mp srcName).2, (dstName_row.mp dstName).2,
    fun _ _ => rfl⟩

/-- An owed metric without local errors adds its row to the valid ones. -/
theorem Owed.scanRow (owed : Owed plan config client cycle frame metric)
    (compiled : Compiled manifest peers plan)
    (built : buildClientAgentConfig str manifest plan = .ok config)
    (named : ∀ device ∈ manifest.clients, device.name ≠ "")
    (cycleHeld : Binary64.Exact cycle) (batchHeld : Binary64.Exact frame.destinationBatchIndex)
    (clean : metric.result.localProbeErrors = 0) (scan : CoverageScan) :
    (Detector.ofPlan manifest plan).scanRow scan (metric.row render) =
      .ok { scan with valid := scan.valid ++ [metric.validRow] } := by
  have agrees : (Detector.ofPlan manifest plan).Agrees (metric.row render) cycle
      (expectedFrame client frame) := owed.agrees compiled built named cycleHeld batchHeld
  obtain ⟨localClient, -, sameName, reports⟩ := owed.reports
  obtain ⟨source, destination, srcName, dstName, -⟩ := agrees.progress
  have sourceEq := (srcName_row.mp srcName).1
  have destinationEq := (dstName_row.mp dstName).1
  have noErrors : (metric.row render).fieldInt .localProbeErrors = .ok (some 0) :=
    Metric.fieldInt_row (congrArg some clean) (Binary64.exact_of_le (Nat.zero_le _))
  have valid : hasValidSocketBatch (Detector.ofPlan manifest plan).plan.settings
      (metric.row render) = .ok true := by
    simp [hasValidSocketBatch, agrees.socketBatch, noErrors, pure, Except.pure]
  simp only [Detector.scanRow, recordComplete_of_agrees agrees, if_true, agrees.cycle_eq, ok_bind,
    agrees.identified, valid, srcName, dstName, Option.getD_some, Int.toNat_natCast]
  simp [Metric.validRow, expectedFrame, sourceEq, destinationEq, reports.cycle_eq,
    reports.destinationBatch, reports.portBatch, pure, Except.pure]

end Epoch

/-! ## The report -/

/-- A report of a complete plan, with no row that is missing, unexpected or invalid. -/
structure Coverage.Whole (coverage : Coverage) : Prop where
  complete : coverage.complete = true
  missing : coverage.missingTasks = []
  unexpected : coverage.unexpectedRows = 0 ∧ coverage.unexpectedRecords = []
  invalid : coverage.invalidSocketRows = 0 ∧ coverage.invalidRows = [] ∧ coverage.invalidTasks = []
  records : coverage.incompleteRecordRows = 0

namespace Detector

/-- Valid rows for every expected combination, and nothing else, make a whole report. -/
theorem coverageOf_whole {d : Detector} {valid : List ValidRow}
    (covers : ∀ task ∈ d.expectedCombinations, task ∈ valid.map ValidRow.task) :
    (d.coverageOf { valid }).Whole := by
  have none : d.expectedCombinations.dedup.filter
      (· ∉ (valid.map ValidRow.task).dedup) = [] := by
    apply List.filter_eq_nil_iff.mpr
    intro task mem absent
    rw [decide_eq_true_eq, List.mem_dedup] at absent
    exact absent (covers task (List.mem_dedup.mp mem))
  have nothing : ∀ {α : Type} [DecidableEq α] (le : α → α → Bool), sortedSet le [] = [] := by
    intro α _ le
    simp [sortedSet]
  refine ⟨?_, ?_, ⟨rfl, rfl⟩, ⟨rfl, rfl, ?_⟩, rfl⟩
  · simp only [coverageOf, none, true_and, decide_true]
  · rw [coverageOf, none]
    exact nothing taskLe
  · exact nothing taskLe

/-- Owed metrics without local errors, of one epoch of every client and in any order, are a
whole coverage of the plan. -/
theorem summarizeCoverage_epoch {manifest : TopologyManifest} {peers : Peers} {plan : PingmeshPlan}
    {str : Json → String} {config : ClientAgentConfig} {render : Nat → String}
    {summarize : List Nat → RttSummary} {around : String → Nat → Surroundings}
    {state : String → LoopState} (compiled : Compiled manifest peers plan)
    (built : buildClientAgentConfig str manifest plan = .ok config)
    (named : ∀ device ∈ manifest.clients, device.name ≠ "")
    (noWrap : ∀ client ∈ plan.clients,
      (state client.name).cycle.toNat + plan.settings.coverageEpochCycles < 2 ^ 64)
    (cyclesHeld : ∀ client ∈ plan.clients, ∀ k < plan.settings.coverageEpochCycles,
      Binary64.Exact ((state client.name).cycle.toNat + k))
    (batchesHeld : ∀ client ∈ plan.clients, ∀ frame ∈ client.frames,
      Binary64.Exact frame.destinationBatchIndex)
    {lists : List (List Metric)}
    (done : plan.clients.mapM (clientMetrics summarize config plan.settings.coverageEpochCycles
      around state) = .ok lists)
    (clean : ∀ metric ∈ lists.flatten, metric.result.localProbeErrors = 0)
    {metrics : List Metric} (order : metrics.Perm lists.flatten) :
    ∃ coverage, (ofPlan manifest plan).summarizeCoverage (metrics.map (Metric.row render)) =
      .ok coverage ∧ coverage.Whole := by
  have adds : ∀ metric ∈ metrics, ∀ scan : CoverageScan,
      (ofPlan manifest plan).scanRow scan (metric.row render) =
        .ok { scan with valid := scan.valid ++ [metric.validRow] } := by
    intro metric mem
    have listed := order.mem_iff.mp mem
    obtain ⟨own, memOwn, memMetric⟩ := List.mem_flatten.mp listed
    obtain ⟨client, memClient, ran⟩ := (mem_of_mapM done).mp memOwn
    obtain ⟨k, below, frame, owed⟩ :=
      (clientMetrics_spec memClient ran (noWrap client memClient)).1 metric memMetric
    exact owed.scanRow compiled built named (cyclesHeld client memClient k below)
      (batchesHeld client memClient frame (List.mem_of_getElem? owed.frameAt.2.2))
      (clean metric listed)
  refine ⟨(ofPlan manifest plan).coverageOf { valid := metrics.map Metric.validRow }, ?_,
    coverageOf_whole ?_⟩
  · rw [summarizeCoverage, foldlM_scanRow adds]
    rfl
  · intro (source, destination, port) expected
    obtain ⟨client, memClient, named', k, frame, atK, active, portEq⟩ :=
      mem_compileCombinations.mp expected
    obtain ⟨own, memOwn, ran⟩ := exists_of_mapM done memClient
    have inEpoch : k < plan.settings.coverageEpochCycles := by
      rw [← compiled.frames_length_eq memClient]
      exact (List.getElem?_eq_some_iff.mp atK).1
    obtain ⟨turn, below, residue⟩ := exists_mod_eq (state client.name).cycle.toNat inEpoch
    obtain ⟨frame', frameAt, all⟩ :=
      (clientMetrics_spec memClient ran (noWrap client memClient)).2 turn below
    have sameFrame : frame' = frame := by
      have at' := frameAt.2.2
      rw [compiled.frames_length_eq memClient, residue] at at'
      exact Option.some.inj (at'.symm.trans atK)
    subst sameFrame
    obtain ⟨metric, memMetric, dstName, owed⟩ := all destination active
    obtain ⟨localClient, -, sameName, reports⟩ := owed.reports
    rw [List.map_map]
    have listed := order.mem_iff.mpr (List.mem_flatten.mpr ⟨own, memOwn, memMetric⟩)
    refine List.mem_map.mpr ⟨metric, listed, ?_⟩
    simp [ValidRow.task, Metric.validRow, reports.source.1, sameName, named', dstName,
      reports.portBatch, portEq]

/-- The agents and the detector agree: every metric of a cycle is a row that passes the
identity tests of both audits and the socket-batch test, a cycle that goes on has reported
every active target once, and one epoch of every client covers the plan. Both need the
clients to have names and the floats to hold the numbers. -/
theorem probeLoop_agrees (str : Json → String) (render : Nat → String)
    (summarize : List Nat → RttSummary) (manifest : TopologyManifest) (plan : PingmeshPlan)
    (compiled : compilePingmeshPlan manifest = .ok plan) (config : ClientAgentConfig)
    (built : buildClientAgentConfig str manifest plan = .ok config)
    (named : ∀ device ∈ manifest.clients, device.name ≠ "") :
    (∀ client ∈ plan.clients, ∀ localClient ∈ config.clients, localClient.name = client.name →
      ∃ loop, startLoop config localClient client = .ok loop ∧
        ∀ (around : Surroundings) (state : LoopState),
          (∀ next, (loop.turn summarize around state).next = .ok next →
            ∃ frame, plan.FrameAt client.name state.cycle.toNat client frame ∧
              (loop.turn summarize around state).emitted.map Metric.dstName =
                frameTargets client frame) ∧
          ∀ metric ∈ (loop.turn summarize around state).emitted,
            Binary64.Exact state.cycle.toNat →
            Binary64.Exact metric.result.destinationBatchIndex →
            ∃ frame, plan.FrameAt client.name state.cycle.toNat client frame ∧
              (ofPlan manifest plan).Agrees (metric.row render) state.cycle.toNat
                (expectedFrame client frame)) ∧
    ∀ (around : String → Nat → Surroundings) (state : String → LoopState),
      (∀ client ∈ plan.clients,
        (state client.name).cycle.toNat + plan.settings.coverageEpochCycles < 2 ^ 64) →
      (∀ client ∈ plan.clients, ∀ k < plan.settings.coverageEpochCycles,
        Binary64.Exact ((state client.name).cycle.toNat + k)) →
      (∀ client ∈ plan.clients, ∀ frame ∈ client.frames,
        Binary64.Exact frame.destinationBatchIndex) →
      ∀ lists, plan.clients.mapM (clientMetrics summarize config
          plan.settings.coverageEpochCycles around state) = .ok lists →
        (∀ metric ∈ lists.flatten, metric.result.localProbeErrors = 0) →
        ∀ metrics : List Metric, metrics.Perm lists.flatten →
          ∃ coverage, (ofPlan manifest plan).summarizeCoverage (metrics.map (Metric.row render)) =
            .ok coverage ∧ coverage.Whole := by
  obtain ⟨peers, facts⟩ := compiled_of_ok compiled
  constructor
  · intro client mem localClient memLocal sameName
    obtain ⟨loop, started⟩ := facts.startLoop_total built mem localClient
    refine ⟨loop, started, fun around state => ⟨fun next goesOn => ?_, fun metric emitted => ?_⟩⟩
    · obtain ⟨-, sequence, done⟩ := ProbeLoop.emitted_of_next goesOn
      obtain ⟨frame, frameAt, names, -⟩ :=
        ProbeLoop.cycleMetrics_spec (ProbeLoop.started_of_ok started) done
      exact ⟨frame, ⟨mem, rfl, frameAt⟩, names⟩
    · intro cycleHeld batchHeld
      obtain ⟨metrics, sequence, done, memMetric⟩ := ProbeLoop.mem_emitted emitted
      obtain ⟨frame, frameAt, -, reports⟩ :=
        ProbeLoop.cycleMetrics_spec (ProbeLoop.started_of_ok started) done
      have report := reports metric memMetric
      rw [report.destinationBatch] at batchHeld
      exact ⟨frame, ⟨mem, rfl, frameAt⟩,
        report.agrees facts built named memLocal ⟨mem, sameName.symm, frameAt⟩ cycleHeld batchHeld⟩
  · intro around state noWrap cyclesHeld batchesHeld lists done clean metrics order
    exact summarizeCoverage_epoch facts built named noWrap cyclesHeld batchesHeld done clean order

end Detector

/-! ## A quiet epoch of the small fabric -/

/-- Every send succeeds and nothing is received. -/
def quietNetwork : Network :=
  { sendTo := fun _ _ _ _ => .ok 1000
    receive := fun _ _ => []
    stale := fun _ => []
    waits := 0
    order := id
    order_perm := order_id }

def quietSurroundings : Surroundings :=
  { network := quietNetwork, clock := id, room := fun _ => true }

/-- The statistics of no round-trip time at all. -/
def noRtt (_ : List Nat) : RttSummary := ⟨.finite 0, .finite 0, .finite 0⟩

/-- What the agents of a fabric emit in so many turns from a state. -/
def quietMetrics (manifest : TopologyManifest) (turns : Nat) (state : LoopState) :
    Except String (PingmeshPlan × ClientAgentConfig × List (List Metric)) := do
  let plan ← compilePingmeshPlan manifest
  let config ← buildClientAgentConfig (fun _ => "") manifest plan
  let lists ← plan.clients.mapM
    (clientMetrics noRtt config turns (fun _ _ => quietSurroundings) fun _ => state)
  pure (plan, config, lists)

/-- The rows of one epoch of the small fabric, from cycle 5 on, cover its plan. -/
theorem smallClos_agents_agree :
    ∃ plan config lists coverage, compilePingmeshPlan smallClos = .ok plan ∧
      buildClientAgentConfig (fun _ => "") smallClos plan = .ok config ∧
      plan.clients.mapM (clientMetrics noRtt config 4 (fun _ _ => quietSurroundings)
        fun _ => ⟨5, 0⟩) = .ok lists ∧ lists.flatten ≠ [] ∧
      (Detector.ofPlan smallClos plan).summarizeCoverage
        (lists.flatten.map (Metric.row toString)) = .ok coverage ∧ coverage.Whole := by
  have evaluated : succeedsWith (quietMetrics smallClos 4 ⟨5, 0⟩) fun (plan, _, lists) =>
      plan.settings.coverageEpochCycles = 4 ∧ lists.flatten ≠ [] ∧
        (∀ metric ∈ lists.flatten, metric.result.localProbeErrors = 0) ∧
        ∀ client ∈ plan.clients, ∀ frame ∈ client.frames, frame.destinationBatchIndex ≤ 2 ^ 53 := by
    decide +kernel
  obtain ⟨⟨plan, config, lists⟩, ran, checked⟩ := succeedsWith_eq_true.mp evaluated
  simp only [quietMetrics, bind_eq_ok, pure_eq_ok, Prod.mk.injEq] at ran
  obtain ⟨_, compiled, _, built, _, done, rfl, rfl, rfl⟩ := ran
  simp only [decide_eq_true_eq] at checked
  obtain ⟨epoch, some, clean, small⟩ := checked
  obtain ⟨-, epochs⟩ := Detector.probeLoop_agrees (fun _ => "") toString noRtt smallClos _ compiled
    _ built (by decide)
  obtain ⟨coverage, summarized, whole⟩ := epochs (fun _ _ => quietSurroundings) (fun _ => ⟨5, 0⟩)
    (fun _ _ => by rw [epoch]; decide)
    (fun _ _ k below => Binary64.exact_of_le (by rw [epoch] at below; exact Nat.le_trans (Nat.add_le_add_left (Nat.le_of_lt below) _) (by decide)))
    (fun client mem frame memFrame => Binary64.exact_of_le (small client mem frame memFrame))
    _ (by rw [epoch]; exact done) clean _ (.refl _)
  exact ⟨_, _, _, coverage, compiled, built, done, some, summarized, whole⟩

/-- Some metric of a quiet turn is an unexpected row to the coverage audit. -/
def Misread (manifest : TopologyManifest) (state : LoopState) : Prop :=
  ∃ plan config lists, compilePingmeshPlan manifest = .ok plan ∧
    buildClientAgentConfig (fun _ => "") manifest plan = .ok config ∧
    plan.clients.mapM (clientMetrics noRtt config 1 (fun _ _ => quietSurroundings)
      fun _ => state) = .ok lists ∧
    ∃ metric ∈ lists.flatten, metric.result.probeCycle = state.cycle.toNat ∧
      ∃ coverage, (Detector.ofPlan manifest plan).summarizeCoverage [metric.row toString] =
        .ok coverage ∧ coverage.unexpectedRows = 1

/-- The plan has no frame for a row, or one with another destination batch. -/
def Detector.misplaces (d : Detector) (row : Row) : Bool :=
  succeedsWith (row.fieldInt .probeCycle) fun cycle =>
    match d.frameOfRow row cycle with
    | none => true
    | some expected => succeedsWith (row.fieldInt .destinationBatchIndex) fun batch =>
        batch ≠ some (expected.destinationBatchIndex : Int)

/-- Such a row is unexpected, whatever plan it names. -/
theorem Detector.unexpected_of_misplaces {d : Detector} {row : Row}
    (misplaced : d.misplaces row = true) :
    ∃ coverage, d.summarizeCoverage [row] = .ok coverage ∧ coverage.unexpectedRows = 1 := by
  obtain ⟨cycle, read, rest⟩ := succeedsWith_eq_true.mp misplaced
  have unidentified : d.identify row cycle = .ok none := by
    unfold identify
    split
    · rfl
    · rcases found : d.frameOfRow row cycle with _ | expected
      · rfl
      · simp only [found] at rest
        obtain ⟨batch, readBatch, other⟩ := succeedsWith_eq_true.mp rest
        simp only [readBatch, ok_bind]
        rw [if_pos (of_decide_eq_true other)]
        rfl
  simp only [summarizeCoverage, List.foldlM_cons, List.foldlM_nil, scanRow, read, ok_bind,
    unidentified]
  refine ⟨_, rfl, ?_⟩
  split <;> rfl

/-- The test that finds a misread metric. -/
def misreads (manifest : TopologyManifest) (state : LoopState) : Bool :=
  succeedsWith (quietMetrics manifest 1 state) fun (plan, _, lists) =>
    lists.flatten.any fun metric => decide (metric.result.probeCycle = state.cycle.toNat) &&
      (Detector.ofPlan manifest plan).misplaces (metric.row toString)

theorem misread_of_misreads {manifest : TopologyManifest} {state : LoopState}
    (found : misreads manifest state = true) : Misread manifest state := by
  obtain ⟨⟨plan, config, lists⟩, ran, checked⟩ := succeedsWith_eq_true.mp found
  simp only [quietMetrics, bind_eq_ok, pure_eq_ok, Prod.mk.injEq] at ran
  obtain ⟨_, compiled, _, built, _, done, rfl, rfl, rfl⟩ := ran
  obtain ⟨metric, mem, both⟩ := List.any_eq_true.mp checked
  rw [Bool.and_eq_true, decide_eq_true_eq] at both
  exact ⟨_, _, _, compiled, built, done, metric, mem, both.1,
    Detector.unexpected_of_misplaces both.2⟩

/-- The small fabric with a client that has no name. -/
def namelessClosTopology : Topology :=
  { smallClosTopology with
    devices := smallClosTopology.devices.map fun device =>
      if device.name = "client1" then { device with name := "" } else device
    links := smallClosTopology.links.map fun link =>
      if link.endpoints.2.device = "client1" then
        { link with endpoints := (link.endpoints.1, { link.endpoints.2 with device := "" }) }
      else link }

def namelessClos : TopologyManifest :=
  { namelessClosTopology with valid := by decide +kernel }

/-- The float that stands for cycle `2 ^ 53 + 1` is `2 ^ 53`, another frame of the plan, and
the row of a client without a name has no source. -/
theorem probeLoop_misread : Misread smallClos ⟨2 ^ 53 + 1, 0⟩ ∧ Misread namelessClos ⟨0, 0⟩ := by
  have rounded : misreads smallClos ⟨2 ^ 53 + 1, 0⟩ = true := by decide +kernel
  have unnamed : misreads namelessClos ⟨0, 0⟩ = true := by decide +kernel
  exact ⟨misread_of_misreads rounded, misread_of_misreads unnamed⟩

end NetOpsBench
