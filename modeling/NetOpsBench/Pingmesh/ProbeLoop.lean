import NetOpsBench.Pingmesh.ProbeCycle
import NetOpsBench.Pingmesh.Rows

/-!
# The probe loop of the native agent

`probe_loop` of `native/client-agent/src/pingmesh.rs`: one turn for every cycle, which
runs the frame of the cycle and sends one metric for each of its active targets. What
the surroundings decide in a turn (the network, the clock, the room in the metrics
queue) is a `Surroundings`. `Metric.row` is what the detector reads back of a metric.
-/

namespace NetOpsBench

open Fallible

/-! ## Metrics -/

/-- A line of `metric_lines`: its tags, its fields and its timestamp. -/
structure Metric : Type where
  srcIp : String
  dstIp : String
  srcName : String
  dstName : String
  srcLeaf : String
  dstLeaf : String
  pathType : String
  topologyId : String
  planId : String
  result : ProbeResult
  timestamp : Nat
  deriving DecidableEq, Repr

def metricLine (topologyId planId : String) (source : AgentClient) (target : Target)
    (result : ProbeResult) (timestamp : Nat) : Metric :=
  { srcIp := source.dataIp
    dstIp := target.client.dataIp
    srcName := source.name
    dstName := target.client.name
    srcLeaf := source.leaf
    dstLeaf := target.client.leaf
    pathType := target.pathType
    topologyId
    planId
    result
    timestamp }

/-- The integer fields of a metric. -/
def ProbeResult.number (result : ProbeResult) : SnapshotField → Option Nat
  | .rttMin | .rttAvg | .rttMax => none
  | .packetsSent => result.packetsSent
  | .packetsLost => result.packetsLost
  | .dfPacketsSent => result.dfPacketsSent
  | .dfPacketsLost => result.dfPacketsLost
  | .dfMtuDrops => result.dfMtuDrops
  | .localProbeErrors => result.localProbeErrors
  | .probeCycle => result.probeCycle
  | .destinationBatchIndex => result.destinationBatchIndex
  | .portBatchIndex => result.portBatchIndex
  | .rttPortsActive => result.rttPortsActive
  | .rttPortsTotal => result.rttPortsTotal

/-- A field of a metric as a float: the integers are read back from their decimal text. -/
def ProbeResult.value (result : ProbeResult) : SnapshotField → Binary64
  | .rttMin => result.rtt.min
  | .rttAvg => result.rtt.avg
  | .rttMax => result.rtt.max
  | field => Binary64.ofNat ((result.number field).getD 0)

/-- The row that `_parse_snapshot_csv` makes of a stored metric; an empty column has no key.
`render` writes the timestamp of the stored point. -/
def Metric.row (render : Nat → String) (metric : Metric) : Row :=
  { time := nonempty (some (render metric.timestamp))
    srcName := nonempty (some metric.srcName)
    dstName := nonempty (some metric.dstName)
    srcIp := nonempty (some metric.srcIp)
    dstIp := nonempty (some metric.dstIp)
    planId := nonempty (some metric.planId)
    field := fun field => some (metric.result.value field)
    others := [("src_leaf", metric.srcLeaf), ("dst_leaf", metric.dstLeaf),
      ("path_type", metric.pathType)].filter fun column => column.2 ≠ "" }

/-! ## The prepared frames -/

/-- What `probe_loop` captures before its first cycle. -/
structure ProbeLoop : Type where
  config : ClientAgentConfig
  localClient : AgentClient
  plan : ClientProbePlan
  /-- `sockets.len()` -/
  sockets : Nat
  /-- `socket_batches`: the sockets of every port batch. -/
  socketBatches : List (List Nat)
  /-- `frames`: the targets of every frame. -/
  activeTargets : List (List Target)

/-- An indexing that may panic. -/
def index {α : Type} (xs : List α) (i : Nat) : Except String α :=
  match xs[i]? with
  | some x => pure x
  | none => throw "index out of bounds"

def resolveTarget (config : ClientAgentConfig) (localClient : AgentClient) (name : String) :
    Except String Target :=
  match config.clients.find? fun client => client.name = name with
  | none => throw "validated target"
  | some client =>
      pure ⟨client, if client.rack = localClient.rack then "same_rack" else "cross_rack"⟩

/-- The start of `run` and `probe_loop`: one socket for every source port. -/
def startLoop (config : ClientAgentConfig) (localClient : AgentClient) (plan : ClientProbePlan) :
    Except String ProbeLoop := do
  let settings := config.pingmeshPlan
  let sockets := List.range settings.sourcePorts.length
  let targets ← plan.targets.mapM (resolveTarget config localClient)
  let socketBatches ← settings.portBatches.mapM fun indices => indices.mapM (index sockets)
  let activeTargets ← plan.frames.mapM fun frame => frame.targetIndices.mapM (index targets)
  pure { config, localClient, plan, sockets := sockets.length, socketBatches, activeTargets }

/-! ## Turns -/

structure Surroundings : Type where
  network : Network
  /-- `realtime_ns()` before the metric of each number. -/
  clock : Nat → Nat
  /-- Whether the queue takes the metric of each number. -/
  room : Nat → Bool

structure LoopState : Type where
  cycle : UInt64 := 0
  sequence : UInt64 := 0

/-- What a turn leaves: the metrics that the queue took, and the next state or the error that
ends the loop. -/
structure Turn : Type where
  emitted : List Metric
  next : Except String LoopState

namespace ProbeLoop

variable (summarize : List Nat → RttSummary) (loop : ProbeLoop)

/-- The identity of a result. -/
def label (cycle : UInt64) (frame : ProbeFrame) (result : ProbeResult) : ProbeResult :=
  { result with
    probeCycle := cycle.toNat
    destinationBatchIndex := frame.destinationBatchIndex
    portBatchIndex := frame.portBatchIndex
    rttPortsTotal := loop.sockets }

/-- The results of a frame and the next sequence number; an empty frame sends nothing. -/
def runFrame (network : Network) (sequence : UInt64) (frame : ProbeFrame) (targets : List Target) :
    Except String (List ProbeResult × UInt64) := do
  let sockets ← index loop.socketBatches frame.portBatchIndex
  if targets = [] then pure ([], sequence)
  else
    runProbeCycle summarize
      { targets
        sockets := sockets.length
        dfPayloadSize := loop.config.pingmeshPlan.dfPayloadSize
        sendQueue := frame.probes
        network } sequence

/-- The metrics of a frame, one for each result. -/
def metrics (clock : Nat → Nat) (cycle : UInt64) (frame : ProbeFrame) (targets : List Target)
    (results : List ProbeResult) : List Metric :=
  (targets.zip results).zipIdx.map fun ((target, result), k) =>
    metricLine loop.config.topologyId loop.config.pingmeshPlan.planId loop.localClient target
      (loop.label cycle frame result) (clock k)

/-- The results and the metrics of one cycle. -/
def cycleMetrics (around : Surroundings) (state : LoopState) :
    Except String (List Metric × UInt64) := do
  let frameIndex := state.cycle.toNat % loop.plan.frames.length
  let frame ← index loop.plan.frames frameIndex
  let targets ← index loop.activeTargets frameIndex
  let (results, sequence) ← loop.runFrame summarize around.network state.sequence frame targets
  pure (loop.metrics around.clock state.cycle frame targets results, sequence)

/-- One turn of the loop. A metric that finds the queue full ends it. -/
def turn (around : Surroundings) (state : LoopState) : Turn :=
  match loop.cycleMetrics summarize around state with
  | .error e => ⟨[], .error e⟩
  | .ok (metrics, sequence) =>
      let taken := metrics.zipIdx.takeWhile fun entry => around.room entry.2
      { emitted := taken.map Prod.fst
        next :=
          if taken.length = metrics.length then .ok ⟨state.cycle + 1, sequence⟩
          else .error "Pingmesh metrics queue is full" }

/-- The metrics of so many turns in a row, none of which ends the loop. -/
def run (around : Nat → Surroundings) : Nat → LoopState → Except String (List Metric)
  | 0, _ => pure []
  | turns + 1, state => do
      let turn := loop.turn summarize (around turns) state
      let next ← turn.next
      let rest ← run around turns next
      pure (turn.emitted ++ rest)

end ProbeLoop

/-- The metrics of one client in so many turns from a state. -/
def clientMetrics (summarize : List Nat → RttSummary) (config : ClientAgentConfig) (turns : Nat)
    (around : String → Nat → Surroundings) (state : String → LoopState)
    (client : ClientProbePlan) : Except String (List Metric) := do
  let localClient ← config.localClient client.name
  let loop ← startLoop config localClient client
  loop.run summarize (around client.name) turns (state client.name)

end NetOpsBench
