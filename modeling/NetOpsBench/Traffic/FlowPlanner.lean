import NetOpsBench.Lib.Sorting
import NetOpsBench.Traffic.Estimator

/-!
# The flow planner

`generate_traffic_config_from_topology` of `netopsbench/platform/traffic/planner.py`, over the
functions that `generator.py` gives it, and `validate_traffic_config`: round by round, every client
looks for a destination that its budgets and those of the switches allow. A table that is only read
at names is a function updated at a name.
-/

namespace NetOpsBench

open Fallible

/-- The arguments of the planner. -/
structure PlannerSettings : Type where
  scale : String
  flowsPerClient : Int
  maxPpsPerClient : Int
  /-- `bandwidth_by_protocol` -/
  bandwidths : FlowProtocol → Option String
  linkMtuBytes : Int
  switchPpsLimit : Option Int
  listenerPortBase : Int
  listenerPortPoolSize : Int
  udpPayloadLenBytes : Int
  tcpMssBytes : Int

inductive AdmissionError : Type where
  | sourceBudget
  | destinationBudget
  | ppsBudget
  deriving DecidableEq, Repr

inductive PoolType : Type where
  | cross
  | intra
  deriving DecidableEq, Repr

/-- The tables of the planner. -/
structure Planning : Type where
  flows : List PlannedFlow
  flowId : Nat
  switchPps : Dict String Rat
  clientPps : String → Rat
  sourceFlowCount : String → Nat
  sourceUsedDsts : String → List String
  incomingFlowCount : String → Nat
  crossSwitchFlows : Nat
  sameSwitchFlows : Nat
  rejected : AdmissionError → Nat

def Planning.start (t : TrafficTopology) : Planning where
  flows := []
  flowId := 0
  switchPps := t.noPps
  clientPps := fun _ => 0
  sourceFlowCount := fun _ => 0
  sourceUsedDsts := fun _ => []
  incomingFlowCount := fun _ => 0
  crossSwitchFlows := 0
  sameSwitchFlows := 0
  rejected := fun _ => 0

/-- `rejected[error] += 1` -/
def Planning.reject (s : Planning) (error : AdmissionError) : Planning :=
  { s with rejected := Function.update s.rejected error (s.rejected error + 1) }

/-- The attachment, where `isinstance(attached_switch, str)`. -/
def TrafficClient.attachedText (client : TrafficClient) : Option String :=
  match client.attachment with
  | some (.text name) => some name
  | _ => none

/-- `client_to_switch` of the planner -/
def TrafficTopology.attachedTexts (t : TrafficTopology) : Dict String String :=
  Dict.ofEntries (t.clients.filterMap fun client =>
    client.attachedText.map fun name => (client.name, name))

/-- `client_to_switch.get(name)` -/
def TrafficTopology.leafOf (t : TrafficTopology) (name : String) : Option NodeLabel :=
  (t.attachedTexts.get name).map .text

/-- `candidate_destinations`, without the indices -/
def candidateDestinations (clients : List TrafficClient) (srcIdx : Nat) : List TrafficClient :=
  (List.range (clients.length - 1)).filterMap fun k => clients[(srcIdx + (k + 1)) % clients.length]?

/-- `src_client.get("data_ip") or src_client.get("ip")` -/
def TrafficClient.address (client : TrafficClient) : Option String :=
  if client.dataIp.any fun ip => ip ≠ "" then client.dataIp
  else client.ip.filter fun ip => ip ≠ ""

/-- The two ends have different attachments. -/
def crossing (src dst : Option NodeLabel) : Bool :=
  src.any NodeLabel.truthy && dst.any NodeLabel.truthy && src ≠ dst

section Planner

variable (float : String → Except String Rat) (t : TrafficTopology) (settings : PlannerSettings)

/-- `build_candidate_flow` -/
def buildCandidateFlow (flowId : Nat) (src dst : TrafficClient) (protocol : FlowProtocol)
    (dstPort : Int) : Except String PlannedFlow :=
  match src.address, dst.address with
  | some srcIp, some dstIp =>
      match settings.bandwidths protocol with
      | none => .error (match protocol with | .udp => "'udp'" | .tcp => "'tcp'")
      | some bandwidth =>
          .ok
            { flowId
              src := src.name
              srcIp
              dst := dst.name
              dstIp
              dstPort
              protocol
              bandwidth
              payload := match protocol with
                | .udp => settings.udpPayloadLenBytes
                | .tcp => settings.tcpMssBytes }
  | _, _ =>
      .error ("Missing client IP for flow " ++ src.name ++ " -> " ++ dst.name ++
        ". Expected 'data_ip' or 'ip' in topology metadata.")

/-- The additions of a flow, as the planner counts them. -/
def flowAdditions (flow : PlannedFlow) (pps : Rat) : Dict String Rat :=
  t.switchPathPps (t.leafOf flow.src) (t.leafOf flow.dst) pps

/-- `admission_error` -/
def admissionError (s : Planning) (flow : PlannedFlow) : Except String (Option AdmissionError) :=
  if settings.flowsPerClient ≤ s.sourceFlowCount flow.src then .ok (some .sourceBudget)
  else if settings.flowsPerClient ≤ s.incomingFlowCount flow.dst then
    .ok (some .destinationBudget)
  else do
    let pps ← estimateFlowPps float flow
    if settings.maxPpsPerClient < s.clientPps flow.src + pps then pure (some .ppsBudget)
    else
      match settings.switchPpsLimit with
      | none => pure none
      | some limit =>
          if (flowAdditions t flow pps).entries.any fun addition =>
              (limit : Rat) < (s.switchPps.get addition.1).getD 0 + addition.2 then
            pure (some .ppsBudget)
          else pure none

/-- `admit_flow` -/
def admitFlow (s : Planning) (flow : PlannedFlow) : Except String Planning := do
  let pps ← estimateFlowPps float flow
  let isCross := crossing (t.leafOf flow.src) (t.leafOf flow.dst)
  pure
    { s with
      flows := s.flows ++ [flow]
      flowId := s.flowId + 1
      switchPps := spread s.switchPps (flowAdditions t flow pps)
      clientPps := Function.update s.clientPps flow.src (s.clientPps flow.src + pps)
      sourceFlowCount :=
        Function.update s.sourceFlowCount flow.src (s.sourceFlowCount flow.src + 1)
      sourceUsedDsts :=
        Function.update s.sourceUsedDsts flow.src ((s.sourceUsedDsts flow.src).insert flow.dst)
      incomingFlowCount :=
        Function.update s.incomingFlowCount flow.dst (s.incomingFlowCount flow.dst + 1)
      crossSwitchFlows := s.crossSwitchFlows + if isCross then 1 else 0
      sameSwitchFlows := s.sameSwitchFlows + if isCross then 0 else 1 }

/-- `candidate_pools(src_idx)[pool_type]` -/
def candidatePool (s : Planning) (srcIdx : Nat) (src : TrafficClient) (pool : PoolType) :
    List TrafficClient :=
  (candidateDestinations t.clients srcIdx).filter fun dst =>
    dst.name ∉ s.sourceUsedDsts src.name &&
      (crossing src.attachment dst.attachment == decide (pool = .cross))

/-- `sorted(candidate_pool, key=…)`: by incoming flows, then by the cyclic rank -/
def orderCandidates (s : Planning) (pool : List TrafficClient) : List TrafficClient :=
  let cyclicRank := Dict.ofEntries (pool.zipIdx.map fun candidate =>
    (candidate.1.name, candidate.2))
  let rank (candidate : TrafficClient) : Nat := (cyclicRank.get candidate.name).getD 0
  Sorting.sorted (fun a b =>
    decide (s.incomingFlowCount a.name < s.incomingFlowCount b.name ∨
      s.incomingFlowCount a.name = s.incomingFlowCount b.name ∧ rank a ≤ rank b)) pool

/-- The loop of `try_add_from_pool` over the ordered candidates. -/
def tryCandidates (src : TrafficClient) : List TrafficClient → Planning →
    Except String (Bool × Planning)
  | [], s => .ok (false, s)
  | dst :: rest, s =>
      let incomingSlot := s.incomingFlowCount dst.name
      if settings.listenerPortPoolSize ≤ incomingSlot then
        tryCandidates src rest (s.reject .destinationBudget)
      else do
        let protocol := if s.sourceFlowCount src.name % 2 = 0 then FlowProtocol.udp else .tcp
        let flow ← buildCandidateFlow settings s.flowId src dst protocol
          (settings.listenerPortBase + incomingSlot)
        let error ← admissionError float t settings s flow
        match error with
        | some error => tryCandidates src rest (s.reject error)
        | none => do
            let s ← admitFlow float t s flow
            .ok (true, s)

/-- `try_add_from_pool` -/
def tryAddFromPool (s : Planning) (srcIdx : Nat) (src : TrafficClient) (pool : PoolType) :
    Except String (Bool × Planning) :=
  tryCandidates float t settings src (orderCandidates s (candidatePool t s srcIdx src pool)) s

/-- `preferred_pools[min(round_index, 3)]` -/
def preferredPool (round : Nat) : PoolType := if round < 3 then .cross else .intra

def fallbackPool : PoolType → PoolType
  | .cross => .intra
  | .intra => .cross

/-- The turn of one client in a round. -/
def planTurn (round : Nat) (s : Planning) (client : TrafficClient × Nat) :
    Except String Planning :=
  let (src, srcIdx) := client
  if settings.flowsPerClient ≤ s.sourceFlowCount src.name then .ok (s.reject .sourceBudget)
  else do
    let preferred := preferredPool round
    let (added, s) ← tryAddFromPool float t settings s srcIdx src preferred
    if added then .ok s
    else do
      let (_, s) ← tryAddFromPool float t settings s srcIdx src (fallbackPool preferred)
      .ok s

/-- The rounds. -/
def planFlows : Except String Planning :=
  (List.range settings.flowsPerClient.toNat).foldlM (fun s round =>
    t.clients.zipIdx.foldlM (planTurn float t settings round) s) (.start t)

end Planner

/-! ## The configuration -/

structure TrafficProfile : Type where
  name : String
  description : String
  scale : String
  maxPpsPerClient : Int
  switchPpsLimit : Option Int
  linkMtuBytes : Int

structure TrafficStats : Type where
  totalFlows : Nat
  udpFlows : Nat
  tcpFlows : Nat
  rejectedCandidates : Nat
  rejectedBySourceBudget : Nat
  rejectedByDestinationBudget : Nat
  rejectedByPpsBudget : Nat
  outgoingFlowsPerClient : List (String × Nat)
  incomingFlowsPerClient : List (String × Nat)
  minIncomingFlows : Nat
  maxIncomingFlows : Nat
  requiredListenerPorts : List Int
  estimatedPpsPerClient : Dict String Rat
  estimatedMaxPpsPerClient : Rat
  estimatedUdpPpsPerClient : Dict String Rat
  estimatedMaxUdpPpsPerClient : Rat
  crossSwitchFlows : Nat
  sameSwitchFlows : Nat
  crossSwitchFlowRatio : Rat
  estimatedSwitchPps : SwitchEstimate

structure TrafficConfig : Type where
  profile : TrafficProfile
  flows : List PlannedFlow
  stats : TrafficStats

/-- The names of the clients, each once. -/
def TrafficTopology.clientNames (t : TrafficTopology) : List String :=
  (t.clients.map TrafficClient.name).dedup

/-- `dict(sorted(counts.items()))` -/
def sortedCounts (names : List String) (counts : String → Nat) : List (String × Nat) :=
  (Sorting.sorted (fun a b => decide (a ≤ b)) names).map fun name => (name, counts name)

/-- `generate_traffic_config_from_topology` -/
def generateTrafficConfig (float : String → Except String Rat) (t : TrafficTopology)
    (settings : PlannerSettings) : Except String TrafficConfig := do
  let s ← planFlows float t settings
  let pathFlows := s.crossSwitchFlows + s.sameSwitchFlows
  let perClientPps ← estimateClientPps float s.flows
  let perClientUdpPps ← s.flows.foldlM (fun perClient flow =>
    if flow.protocol = .udp then do
      let pps ← estimateFlowPps float flow
      pure (addPps perClient (flow.src, pps))
    else pure perClient) Dict.empty
  let switchPps ← estimateSwitchPps float t s.flows
  let incoming := t.clientNames.map s.incomingFlowCount
  pure
    { profile :=
        { name := settings.scale ++ "_standard"
          description := "Canonical standard traffic for " ++ settings.scale ++ " topology"
          scale := settings.scale
          maxPpsPerClient := settings.maxPpsPerClient
          switchPpsLimit := settings.switchPpsLimit
          linkMtuBytes := settings.linkMtuBytes }
      flows := s.flows
      stats :=
        { totalFlows := s.flows.length
          udpFlows := s.flows.countP fun flow => flow.protocol = .udp
          tcpFlows := s.flows.countP fun flow => flow.protocol = .tcp
          rejectedCandidates := s.rejected .sourceBudget + s.rejected .destinationBudget +
            s.rejected .ppsBudget
          rejectedBySourceBudget := s.rejected .sourceBudget
          rejectedByDestinationBudget := s.rejected .destinationBudget
          rejectedByPpsBudget := s.rejected .ppsBudget
          outgoingFlowsPerClient := sortedCounts t.clientNames s.sourceFlowCount
          incomingFlowsPerClient := sortedCounts t.clientNames s.incomingFlowCount
          minIncomingFlows := incoming.min?.getD 0
          maxIncomingFlows := incoming.max?.getD 0
          requiredListenerPorts := Sorting.sorted (fun a b => decide (a ≤ b))
            (s.flows.map PlannedFlow.dstPort).dedup
          estimatedPpsPerClient := perClientPps.mapValues (Rounding.round 2)
          estimatedMaxPpsPerClient := Rounding.round 2 (greatest perClientPps.values)
          estimatedUdpPpsPerClient := perClientUdpPps.mapValues (Rounding.round 2)
          estimatedMaxUdpPpsPerClient := Rounding.round 2 (greatest perClientUdpPps.values)
          crossSwitchFlows := s.crossSwitchFlows
          sameSwitchFlows := s.sameSwitchFlows
          crossSwitchFlowRatio := Rounding.round 3
            (if pathFlows = 0 then 0 else (s.crossSwitchFlows : Rat) / pathFlows)
          estimatedSwitchPps := switchPps } }

/-- `validate_traffic_config`, where the scale and the settings are those of the planner -/
def validateTrafficConfig (maxAllowedClientPps : Int) (switchPpsLimit : Option Int)
    (config : TrafficConfig) : Except String Unit := do
  reject ((maxAllowedClientPps : Rat) < config.stats.estimatedMaxPpsPerClient)
    "Estimated PPS per client too high"
  reject (∃ limit ∈ switchPpsLimit, (limit : Rat) < config.stats.estimatedSwitchPps.maxSwitchPps)
    "Estimated switch PPS too high"

end NetOpsBench
