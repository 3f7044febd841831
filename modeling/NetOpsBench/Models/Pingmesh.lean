import NetOpsBench.Lib.Json

/-!
# Persisted Pingmesh schedules

The models of `netopsbench/models/pingmesh.py`, which the native agent reads back
under the same field names (`native/client-agent/src/config.rs`).
-/

namespace NetOpsBench

/-- `Literal["rtt", "df"]` -/
inductive ProbeKind : Type where
  | rtt
  | df
  deriving DecidableEq, Repr

def ProbeKind.text : ProbeKind → String
  | .rtt => "rtt"
  | .df => "df"

structure ProbeFrame : Type where
  destinationBatchIndex : Nat
  portBatchIndex : Nat
  targetIndices : List Nat
  /-- Kind, frame-local target index, batch-local socket index. -/
  probes : List (ProbeKind × Nat × Nat)
  deriving DecidableEq, Repr

structure ClientProbePlan : Type where
  name : String
  targets : List String
  startupDelayMs : Nat
  frames : List ProbeFrame
  deriving DecidableEq, Repr

structure PlanSettings : Type where
  planId : String
  sourcePorts : List Nat
  portBatches : List (List Nat)
  destinationBatchSize : Nat
  cycleIntervalSeconds : Nat
  coverageEpochCycles : Nat
  coverageEpochSeconds : Nat
  completeWindowSeconds : Nat
  dfPayloadSize : Nat
  deriving DecidableEq, Repr

structure LinkCoverage : Type where
  source : String
  destination : String
  sourceInterface : String
  destinationInterface : String
  witnesses : Nat
  deriving DecidableEq, Repr

structure CandidateCoverage : Type where
  directedLinks : List LinkCoverage
  coveredSwitches : List String
  minimumWitnesses : Nat
  deriving DecidableEq, Repr

structure PingmeshPlan : Type where
  settings : PlanSettings
  clients : List ClientProbePlan
  coverage : CandidateCoverage
  deriving DecidableEq, Repr

/-- The `directed_pair_count` property. -/
def PingmeshPlan.directedPairCount (plan : PingmeshPlan) : Nat :=
  (plan.clients.map fun client => client.targets.length).sum

/-! ## `model_dump(mode="json")` -/

def ProbeFrame.dump (frame : ProbeFrame) : Json :=
  .obj [("destination_batch_index", .nat frame.destinationBatchIndex),
    ("port_batch_index", .nat frame.portBatchIndex),
    ("target_indices", .arr (frame.targetIndices.map .nat)),
    ("probes", .arr (frame.probes.map fun (kind, target, socket) =>
      .arr [.str kind.text, .nat target, .nat socket]))]

def ClientProbePlan.dump (client : ClientProbePlan) : Json :=
  .obj [("name", .str client.name), ("targets", .arr (client.targets.map .str)),
    ("startup_delay_ms", .nat client.startupDelayMs),
    ("frames", .arr (client.frames.map ProbeFrame.dump))]

def PlanSettings.dump (settings : PlanSettings) : Json :=
  .obj [("plan_id", .str settings.planId),
    ("source_ports", .arr (settings.sourcePorts.map .nat)),
    ("port_batches", .arr (settings.portBatches.map fun batch => .arr (batch.map .nat))),
    ("destination_batch_size", .nat settings.destinationBatchSize),
    ("cycle_interval_seconds", .nat settings.cycleIntervalSeconds),
    ("coverage_epoch_cycles", .nat settings.coverageEpochCycles),
    ("coverage_epoch_seconds", .nat settings.coverageEpochSeconds),
    ("complete_window_seconds", .nat settings.completeWindowSeconds),
    ("df_payload_size", .nat settings.dfPayloadSize)]

def LinkCoverage.dump (link : LinkCoverage) : Json :=
  .obj [("source", .str link.source), ("destination", .str link.destination),
    ("source_interface", .str link.sourceInterface),
    ("destination_interface", .str link.destinationInterface),
    ("witnesses", .nat link.witnesses)]

def CandidateCoverage.dump (coverage : CandidateCoverage) : Json :=
  .obj [("basis", .str "topology_candidate_paths"),
    ("directed_links", .arr (coverage.directedLinks.map LinkCoverage.dump)),
    ("covered_switches", .arr (coverage.coveredSwitches.map .str)),
    ("minimum_witnesses", .nat coverage.minimumWitnesses)]

def PingmeshPlan.dump (plan : PingmeshPlan) : Json :=
  .obj [("schema_version", .str "1"), ("settings", plan.settings.dump),
    ("clients", .arr (plan.clients.map ClientProbePlan.dump)),
    ("coverage", plan.coverage.dump)]

end NetOpsBench
