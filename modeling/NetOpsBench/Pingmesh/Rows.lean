import NetOpsBench.Lib.Binary64
import NetOpsBench.Lib.Dict
import NetOpsBench.Lib.Fallible
import NetOpsBench.Models.Topology

/-!
# Snapshot rows and the detector

A row as `_parse_snapshot_csv` of `_detector_query.py` leaves it: a dictionary whose
snapshot fields are floats and whose tags are strings, with absent keys for empty
columns. `Detector` is the part of the detector that the coverage and ingestion audits
read (`detector.py`, `_detector_coverage.py`).
-/

namespace NetOpsBench

open Fallible

/-! ## Rows -/

/-- `_SNAPSHOT_FIELDS` -/
inductive SnapshotField : Type where
  | rttMin
  | rttAvg
  | rttMax
  | packetsSent
  | packetsLost
  | dfPacketsSent
  | dfPacketsLost
  | dfMtuDrops
  | localProbeErrors
  | probeCycle
  | destinationBatchIndex
  | portBatchIndex
  | rttPortsActive
  | rttPortsTotal
  deriving DecidableEq, Repr

def SnapshotField.name : SnapshotField → String
  | .rttMin => "rtt_min"
  | .rttAvg => "rtt_avg"
  | .rttMax => "rtt_max"
  | .packetsSent => "packets_sent"
  | .packetsLost => "packets_lost"
  | .dfPacketsSent => "df_packets_sent"
  | .dfPacketsLost => "df_packets_lost"
  | .dfMtuDrops => "df_mtu_drops"
  | .localProbeErrors => "local_probe_errors"
  | .probeCycle => "probe_cycle"
  | .destinationBatchIndex => "destination_batch_index"
  | .portBatchIndex => "port_batch_index"
  | .rttPortsActive => "rtt_ports_active"
  | .rttPortsTotal => "rtt_ports_total"

/-- The fields in the order of the tuple. -/
def snapshotFields : List SnapshotField :=
  [.rttMin, .rttAvg, .rttMax, .packetsSent, .packetsLost, .dfPacketsSent, .dfPacketsLost,
    .dfMtuDrops, .localProbeErrors, .probeCycle, .destinationBatchIndex, .portBatchIndex,
    .rttPortsActive, .rttPortsTotal]

theorem mem_snapshotFields (field : SnapshotField) : field ∈ snapshotFields := by
  cases field <;> decide

/-- The snapshot fields of two rows are compared one by one. -/
instance : DecidableEq (SnapshotField → Option Binary64) := fun f g =>
  decidable_of_iff (∀ field ∈ snapshotFields, f field = g field)
    ⟨fun all => funext fun field => all field (mem_snapshotFields field), fun eq _ _ => eq ▸ rfl⟩

/-- A row; an absent key is `none`. -/
structure Row : Type where
  time : Option String
  srcName : Option String
  dstName : Option String
  srcIp : Option String
  dstIp : Option String
  planId : Option String
  field : SnapshotField → Option Binary64
  /-- The columns that neither audit reads. -/
  others : List (String × String) := []
  deriving DecidableEq

/-- `row.get(key) not in (None, "")` for a tag. -/
def tagPresent (tag : Option String) : Bool := tag ≠ none ∧ tag ≠ some ""

/-- `row[key]` -/
def require {α : Type} (key : String) : Option α → Except String α
  | some value => pure value
  | none => throw ("'" ++ key ++ "'")

/-- `_field_int`: a missing value and a NaN have no integer, an infinite one raises. -/
def Row.fieldInt (row : Row) (field : SnapshotField) : Except String (Option Int) :=
  match row.field field with
  | some (.infinity _) => throw "cannot convert float infinity to integer"
  | some value => pure value.truncate
  | none => pure none

/-- `_integer` -/
def Row.integer (row : Row) (field : SnapshotField) : Except String Nat := do
  let value ← require field.name (row.field field)
  match value.toNat? with
  | some n => pure n
  | none => throw ("invalid " ++ field.name)

/-! ## The detector -/

/-- An entry of `_expected_frames`: the batch numbers and the set of destinations. -/
structure ExpectedFrame : Type where
  destinationBatchIndex : Nat
  portBatchIndex : Nat
  names : List String
  deriving DecidableEq, Repr

/-- `{client.targets[index] for index in frame.target_indices}` -/
def frameTargets (client : ClientProbePlan) (frame : ProbeFrame) : List String :=
  frame.targetIndices.map fun index => client.targets.getD index ""

def expectedFrame (client : ClientProbePlan) (frame : ProbeFrame) : ExpectedFrame :=
  ⟨frame.destinationBatchIndex, frame.portBatchIndex, frameTargets client frame⟩

structure Detector : Type where
  /-- `_pingmesh_clients` -/
  clients : List String
  /-- `_client_addresses` -/
  clientAddresses : Dict String (Option String)
  plan : PingmeshPlan
  /-- `_expected_frames` -/
  expectedFrames : Dict (String × Nat) ExpectedFrame
  /-- `_expected_combinations`, with repetitions. -/
  expectedCombinations : List (String × String × Nat)
  /-- `_expected_destinations`, with repetitions. -/
  expectedDestinations : List Nat

namespace Detector

/-- The frames of `_compile_coverage_expectations` with their keys. -/
def frameEntries (plan : PingmeshPlan) : List ((String × Nat) × ExpectedFrame) :=
  plan.clients.flatMap fun client =>
    client.frames.zipIdx.map fun (frame, cycle) => ((client.name, cycle), expectedFrame client frame)

/-- `_compile_coverage_expectations` -/
def compileExpectedFrames (plan : PingmeshPlan) : Dict (String × Nat) ExpectedFrame :=
  .ofEntries (frameEntries plan)

def compileCombinations (plan : PingmeshPlan) : List (String × String × Nat) :=
  (frameEntries plan).flatMap fun ((client, _), frame) =>
    frame.names.map fun name => (client, name, frame.portBatchIndex)

def compileDestinations (plan : PingmeshPlan) : List Nat :=
  ((frameEntries plan).filter fun entry => entry.2.names ≠ []).map fun entry =>
    entry.2.destinationBatchIndex

/-- The detector of a manifest that carries the compiled plan. -/
def ofPlan (manifest : TopologyManifest) (plan : PingmeshPlan) : Detector :=
  { clients := manifest.clients.map Device.name
    clientAddresses := .ofEntries (manifest.clients.map fun client => (client.name, client.dataIp))
    plan
    expectedFrames := compileExpectedFrames plan
    expectedCombinations := compileCombinations plan
    expectedDestinations := compileDestinations plan }

/-- `self.plan_id` -/
def planId (d : Detector) : String := d.plan.settings.planId

/-- `self._expected_frames.get((source, cycle % coverage_epoch_cycles))` -/
def frameOf (d : Detector) (source : String) (cycle : Nat) : Option ExpectedFrame :=
  d.expectedFrames.get (source, cycle % d.plan.settings.coverageEpochCycles)

end Detector

end NetOpsBench
