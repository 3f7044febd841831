import NetOpsBench.Pingmesh.Rows

/-!
# The coverage audit

`summarize_coverage` of `_detector_coverage.py`: every row is matched against the frame
that the plan has for its source and cycle, and what is left of the planned
combinations is missing.
-/

namespace NetOpsBench

open Fallible

/-- The keys whose absence makes a record incomplete. -/
def Row.recordComplete (row : Row) : Bool :=
  tagPresent row.planId ∧ tagPresent row.srcName ∧ tagPresent row.dstName ∧
    ∀ field ∈ [SnapshotField.probeCycle, .destinationBatchIndex, .portBatchIndex, .rttPortsActive,
      .rttPortsTotal, .localProbeErrors], (row.field field).isSome

/-- `_has_expected_socket_batch` -/
def hasExpectedSocketBatch (settings : PlanSettings) (row : Row) : Except String Bool := do
  match ← row.fieldInt .portBatchIndex with
  | none => pure false
  | some portBatch =>
      if ¬ (0 ≤ portBatch ∧ portBatch < settings.portBatches.length) then pure false
      else if (← row.fieldInt .rttPortsTotal) ≠ some (settings.sourcePorts.length : Int) then
        pure false
      else
        let active := (settings.portBatches.getD portBatch.toNat []).length
        pure (decide ((← row.fieldInt .rttPortsActive) = some (active : Int)))

/-- `_has_valid_socket_batch` -/
def hasValidSocketBatch (settings : PlanSettings) (row : Row) : Except String Bool := do
  if ← hasExpectedSocketBatch settings row then
    pure (decide ((← row.fieldInt .localProbeErrors) = some 0))
  else pure false

/-- An entry of `invalid_rows`. -/
structure InvalidRow : Type where
  src : String
  dst : String
  portBatchIndex : Nat
  probeCycle : Int
  time : String
  localProbeErrors : Option Int
  socketBatchValid : Bool
  deriving DecidableEq, Repr

/-- An entry of `unexpected_records`: the identifying columns as they stand. -/
structure UnexpectedRecord : Type where
  time : Option String
  srcName : Option String
  dstName : Option String
  planId : Option String
  probeCycle : Option Binary64
  destinationBatchIndex : Option Binary64
  portBatchIndex : Option Binary64
  deriving DecidableEq, Repr

/-- `str(row.get("_time") or row.get("time") or "")` -/
def Row.timeText (row : Row) : String :=
  if tagPresent row.time then row.time.getD "" else (row.others.lookup "time").getD ""

/-- A valid row with the integers that its checks have read. -/
structure ValidRow : Type where
  source : String
  destination : String
  cycle : Nat
  destinationBatchIndex : Nat
  portBatchIndex : Nat
  deriving DecidableEq, Repr

/-- The accumulators of the row loop. -/
structure CoverageScan : Type where
  valid : List ValidRow := []
  invalidRows : List InvalidRow := []
  invalidTasks : List (String × String × Nat) := []
  invalidSocketRows : Nat := 0
  unexpectedRows : Nat := 0
  incompleteRecordRows : Nat := 0
  unexpectedRecords : List UnexpectedRecord := []
  deriving DecidableEq, Repr

namespace Detector

variable (d : Detector)

/-- The frame that the plan has for a row, if its cycle is a natural number. -/
def frameOfRow (row : Row) (cycle : Option Int) : Option ExpectedFrame :=
  match row.srcName, cycle with
  | some source, some cycle => if 0 ≤ cycle then d.frameOf source cycle.toNat else none
  | _, _ => none

/-- The frame of a row that passes the identity tests. -/
def identify (row : Row) (cycle : Option Int) : Except String (Option ExpectedFrame) :=
  if row.planId ≠ some d.planId then pure none
  else
    match d.frameOfRow row cycle with
    | none => pure none
    | some frame => do
        if (← row.fieldInt .destinationBatchIndex) ≠ some (frame.destinationBatchIndex : Int) then
          pure none
        else if (← row.fieldInt .portBatchIndex) ≠ some (frame.portBatchIndex : Int) then
          pure none
        else pure (if row.dstName.any (· ∈ frame.names) then some frame else none)

def unexpectedRecord (row : Row) : UnexpectedRecord :=
  ⟨row.time, row.srcName, row.dstName, row.planId, row.field .probeCycle,
    row.field .destinationBatchIndex, row.field .portBatchIndex⟩

/-- One turn of the row loop. -/
def scanRow (scan : CoverageScan) (row : Row) : Except String CoverageScan := do
  let scan :=
    if row.recordComplete then scan
    else { scan with incompleteRecordRows := scan.incompleteRecordRows + 1 }
  let cycle ← row.fieldInt .probeCycle
  match ← d.identify row cycle with
  | none =>
      pure { scan with
        unexpectedRows := scan.unexpectedRows + 1
        unexpectedRecords :=
          if scan.unexpectedRecords.length < 20 then
            scan.unexpectedRecords ++ [unexpectedRecord row]
          else scan.unexpectedRecords }
  | some frame =>
      let source := row.srcName.getD ""
      let destination := row.dstName.getD ""
      if ← hasValidSocketBatch d.plan.settings row then
        pure { scan with
          valid := scan.valid ++ [⟨source, destination, (cycle.getD 0).toNat,
            frame.destinationBatchIndex, frame.portBatchIndex⟩] }
      else
        let invalid : InvalidRow :=
          { src := source
            dst := destination
            portBatchIndex := frame.portBatchIndex
            probeCycle := cycle.getD 0
            time := row.timeText
            localProbeErrors := ← row.fieldInt .localProbeErrors
            socketBatchValid := ← hasExpectedSocketBatch d.plan.settings row }
        pure { scan with
          invalidRows := scan.invalidRows ++ [invalid]
          invalidTasks := scan.invalidTasks ++ [(source, destination, frame.portBatchIndex)]
          invalidSocketRows := scan.invalidSocketRows + 1 }

end Detector

/-- `max(values) - min(values) + 1`, and 0 for no values. -/
def span (values : List Nat) : Nat :=
  match values.max?, values.min? with
  | some high, some low => high - low + 1
  | _, _ => 0

structure Coverage : Type where
  planId : String
  complete : Bool
  expectedEpochCycles : Nat
  observedCycleSpan : Nat
  minSourceCycleSpan : Nat
  sourceClientsObserved : Nat
  expectedSourceClients : Nat
  destinationPairsObserved : Nat
  expectedDestinationPairs : Nat
  pairPortCombinationsObserved : Nat
  expectedPairPortCombinations : Nat
  missingTasks : List (String × String × Nat)
  invalidTasks : List (String × String × Nat)
  invalidRows : List InvalidRow
  observablePairs : List (String × String)
  minSamplesPerPair : Nat
  portBatchesObserved : List Nat
  destinationBatchesObserved : List Nat
  missingPortBatches : List Nat
  missingDestinationBatches : List Nat
  missingSourceClients : Int
  invalidSocketRows : Nat
  unexpectedRows : Nat
  incompleteRecordRows : Nat
  unexpectedRecords : List UnexpectedRecord
  deriving DecidableEq, Repr

/-- `missing_pair_port_combinations` -/
def Coverage.missingPairPortCombinations (coverage : Coverage) : Nat :=
  coverage.missingTasks.length

/-- `sorted(set(values))` -/
def sortedSet {α : Type} [DecidableEq α] (le : α → α → Bool) (values : List α) : List α :=
  Sorting.sorted le values.dedup

def pairLe (a b : String × String) : Bool := a.1 < b.1 ∨ (a.1 = b.1 ∧ a.2 ≤ b.2)

def taskLe (a b : String × String × Nat) : Bool :=
  a.1 < b.1 ∨ (a.1 = b.1 ∧ (a.2.1 < b.2.1 ∨ (a.2.1 = b.2.1 ∧ a.2.2 ≤ b.2.2)))

namespace ValidRow

def task (row : ValidRow) : String × String × Nat :=
  (row.source, row.destination, row.portBatchIndex)

def pair (row : ValidRow) : String × String := (row.source, row.destination)

end ValidRow

namespace Detector

variable (d : Detector)

/-- The returned dictionary, from the accumulators. -/
def coverageOf (scan : CoverageScan) : Coverage :=
  let combinations := (scan.valid.map ValidRow.task).dedup
  let pairs := (scan.valid.map ValidRow.pair).dedup
  let missing := d.expectedCombinations.dedup.filter (· ∉ combinations)
  let sources := (scan.valid.map ValidRow.source).dedup
  let cyclesOf := fun source =>
    (scan.valid.filter fun row => row.source = source).map ValidRow.cycle
  let samplesOf := fun pair => scan.valid.countP fun row => row.pair = pair
  let ports := (scan.valid.map ValidRow.portBatchIndex).dedup
  let destinations := (scan.valid.map ValidRow.destinationBatchIndex).dedup
  let natLe := fun (a b : Nat) => decide (a ≤ b)
  { planId := d.planId
    complete := missing = [] ∧ scan.unexpectedRows = 0 ∧ scan.invalidSocketRows = 0
    expectedEpochCycles := d.plan.settings.coverageEpochCycles
    observedCycleSpan := span (scan.valid.map ValidRow.cycle)
    minSourceCycleSpan := (sources.map fun source => span (cyclesOf source)).min?.getD 0
    sourceClientsObserved := sources.length
    expectedSourceClients := d.plan.clients.length
    destinationPairsObserved := pairs.length
    expectedDestinationPairs := d.plan.directedPairCount
    pairPortCombinationsObserved := combinations.length
    expectedPairPortCombinations := d.expectedCombinations.dedup.length
    missingTasks := sortedSet taskLe missing
    invalidTasks := sortedSet taskLe scan.invalidTasks
    invalidRows := scan.invalidRows
    observablePairs := sortedSet pairLe pairs
    minSamplesPerPair := (pairs.map samplesOf).min?.getD 0
    portBatchesObserved := sortedSet natLe ports
    destinationBatchesObserved := sortedSet natLe destinations
    missingPortBatches := (List.range d.plan.settings.portBatches.length).filter (· ∉ ports)
    missingDestinationBatches :=
      sortedSet natLe (d.expectedDestinations.filter (· ∉ destinations))
    missingSourceClients := (d.plan.clients.length : Int) - sources.length
    invalidSocketRows := scan.invalidSocketRows
    unexpectedRows := scan.unexpectedRows
    incompleteRecordRows := scan.incompleteRecordRows
    unexpectedRecords := scan.unexpectedRecords }

/-- `summarize_coverage` -/
def summarizeCoverage (rows : List Row) : Except String Coverage := do
  let scan ← rows.foldlM d.scanRow {}
  pure (d.coverageOf scan)

end Detector

end NetOpsBench
