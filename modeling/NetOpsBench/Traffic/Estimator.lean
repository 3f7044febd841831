import NetOpsBench.Lib.Rounding
import NetOpsBench.Traffic.Plan

/-!
# Packet rates

`netopsbench/platform/traffic/estimator.py`: how many packets a second a flow sends, and what that
adds to the switches on its way. Rates are exact; `float` is the built-in one, where it returns a
finite number.
-/

namespace NetOpsBench

open Fallible

/-! ## The topology dictionary -/

/-- What a key of the dictionary may hold besides `None`. -/
inductive NodeLabel : Type where
  | text (s : String)
  | number (n : Int)
  deriving DecidableEq, Repr

namespace NodeLabel

def truthy : NodeLabel → Bool
  | .text s => s ≠ ""
  | .number n => n ≠ 0

/-- `first or second` -/
def orElse (first second : Option NodeLabel) : Option NodeLabel :=
  if first.any truthy then first else second

/-- `label in names` -/
def isIn (names : List String) : NodeLabel → Bool
  | .text s => s ∈ names
  | .number _ => false

end NodeLabel

/-- An item of `clients`; a missing key is a `None`. -/
structure TrafficClient : Type where
  name : String
  dataIp : Option String := none
  ip : Option String := none
  leaf : Option NodeLabel := none
  edge : Option NodeLabel := none
  attachedSwitch : Option NodeLabel := none
  deriving DecidableEq, Repr

/-- `client.get("leaf") or client.get("edge") or client.get("attached_switch")` -/
def TrafficClient.attachment (client : TrafficClient) : Option NodeLabel :=
  NodeLabel.orElse client.leaf (NodeLabel.orElse client.edge client.attachedSwitch)

/-- An item of the lists of switches. -/
structure TrafficSwitch : Type where
  name : String
  pod : Option NodeLabel := none
  deriving DecidableEq, Repr

structure TrafficTopology : Type where
  clients : List TrafficClient
  spines : List TrafficSwitch := []
  leafs : List TrafficSwitch := []
  cores : List TrafficSwitch := []
  aggs : List TrafficSwitch := []
  edges : List TrafficSwitch := []

inductive SwitchRole : Type where
  | spine
  | leaf
  | core
  | agg
  | edge
  deriving DecidableEq, Repr

def SwitchRole.all : List SwitchRole := [.spine, .leaf, .core, .agg, .edge]

namespace TrafficTopology

variable (t : TrafficTopology)

/-- `devices.get(f"{role}s", [])` -/
def switches : SwitchRole → List TrafficSwitch
  | .spine => t.spines
  | .leaf => t.leafs
  | .core => t.cores
  | .agg => t.aggs
  | .edge => t.edges

/-- `role_names` -/
def roleNames (role : SwitchRole) : List String := (t.switches role).map TrafficSwitch.name

/-- The keys of `switch_pps`. -/
def switchNames : List String := SwitchRole.all.flatMap t.roleNames

/-- `device_pods` -/
def devicePods : Dict String (Option NodeLabel) :=
  Dict.ofEntries ((t.aggs ++ t.edges).map fun device => (device.name, device.pod))

/-- `device_pods.get(name)` -/
def podOf : NodeLabel → Option NodeLabel
  | .text name => (t.devicePods.get name).join
  | .number _ => none

/-- `client_to_switch` of the estimator -/
def clientToSwitch : Dict String (Option NodeLabel) :=
  Dict.ofEntries (t.clients.map fun client => (client.name, client.attachment))

end TrafficTopology

/-! ## Flows -/

inductive FlowProtocol : Type where
  | udp
  | tcp
  deriving DecidableEq, Repr

/-- A flow of the planner; `payload` is `udp_payload_len` or `tcp_mss`. -/
structure PlannedFlow : Type where
  flowId : Nat
  src : String
  srcIp : String
  dst : String
  dstIp : String
  dstPort : Int
  protocol : FlowProtocol
  bandwidth : String
  payload : Int
  deriving DecidableEq, Repr

/-- `bandwidth_to_bps` -/
def bandwidthToBps (float : String → Except String Rat) (bandwidth : String) :
    Except String Rat := do
  if bandwidth = "" then pure 0
  else
    let value := (Text.upper (Text.strip bandwidth)).toList
    match value.getLast?.bind bandwidthFactor with
    | some factor => do
        let number ← float (String.ofList value.dropLast)
        pure (number * factor)
    | none => float (String.ofList value)

/-- `estimate_packet_size_bytes` -/
def estimatePacketSizeBytes (flow : PlannedFlow) : Rat :=
  match flow.protocol with
  | .udp => max (flow.payload : Rat) 64 + 28
  | .tcp => max (flow.payload : Rat) 536 + 40

/-- `estimate_flow_pps` -/
def estimateFlowPps (float : String → Except String Rat) (flow : PlannedFlow) :
    Except String Rat := do
  let bps ← bandwidthToBps float flow.bandwidth
  if bps ≤ 0 then pure 0
  else
    let size := estimatePacketSizeBytes flow
    if size ≤ 0 then pure 0 else pure (bps / (size * 8))

/-! ## Paths -/

/-- `additions[name] = additions.get(name, 0.0) + pps` -/
def addPps (additions : Dict String Rat) (part : String × Rat) : Dict String Rat :=
  additions.set part.1 ((additions.get part.1).getD 0 + part.2)

/-- An equal share of the rate for each of the switches. -/
def shares (names : List String) (pps : Rat) : List (String × Rat) :=
  names.map fun name => (name, pps / names.length)

namespace TrafficTopology

variable (t : TrafficTopology)

/-- What an end of the path gets. -/
def endParts (pps : Rat) : Option NodeLabel → List (String × Rat)
  | some (.text name) =>
      if name ∈ t.roleNames .leaf ∨ name ∈ t.roleNames .edge then [(name, pps)] else []
  | _ => []

/-- What the switches between two different ends get. -/
def transitParts (src dst : NodeLabel) (pps : Rat) : List (String × Rat) :=
  if src.isIn (t.roleNames .leaf) ∧ dst.isIn (t.roleNames .leaf) then
    shares (t.roleNames .spine) pps
  else
    let srcPod := t.podOf src
    let dstPod := t.podOf dst
    let pods := if srcPod = dstPod then [srcPod] else [srcPod, dstPod]
    ((pods.filter fun pod => pod ≠ none).flatMap fun pod =>
      shares ((t.roleNames .agg).filter fun name => t.podOf (.text name) = pod) pps) ++
    if srcPod ≠ dstPod then shares (t.roleNames .core) pps else []

/-- The additions of `switch_path_pps`, in their order. -/
def pathParts (src dst : Option NodeLabel) (pps : Rat) : List (String × Rat) :=
  t.endParts pps src ++ t.endParts pps dst ++
    match src, dst with
    | some from', some to' =>
        if !from'.truthy || !to'.truthy || from' = to' then [] else t.transitParts from' to' pps
    | _, _ => []

/-- `switch_path_pps` -/
def switchPathPps (src dst : Option NodeLabel) (pps : Rat) : Dict String Rat :=
  (t.pathParts src dst pps).foldl addPps .empty

end TrafficTopology

/-- `for name, addition in additions.items(): switch_pps[name] += addition` -/
def spread (switchPps additions : Dict String Rat) : Dict String Rat :=
  additions.entries.foldl addPps switchPps

/-- `{name: 0.0 for names in role_names.values() for name in names}` -/
def TrafficTopology.noPps (t : TrafficTopology) : Dict String Rat :=
  Dict.ofEntries (t.switchNames.map fun name => (name, 0))

/-! ## Estimates -/

/-- `max(values) if values else 0.0` -/
def greatest : List Rat → Rat
  | [] => 0
  | first :: rest => rest.foldl max first

/-- The loop of `estimate_switch_pps` over the flows. -/
def switchTotals (float : String → Except String Rat) (t : TrafficTopology)
    (flows : List PlannedFlow) : Except String (Dict String Rat) :=
  flows.foldlM (fun switchPps flow => do
    let pps ← estimateFlowPps float flow
    if pps ≤ 0 then pure switchPps
    else
      pure (spread switchPps (t.switchPathPps (t.clientToSwitch.get flow.src).join
        (t.clientToSwitch.get flow.dst).join pps))) t.noPps

/-- The result of `estimate_switch_pps`. -/
structure SwitchEstimate : Type where
  byRole : SwitchRole → Dict String Rat
  maxByRole : SwitchRole → Rat
  maxSwitchPps : Rat

/-- `estimate_switch_pps` -/
def estimateSwitchPps (float : String → Except String Rat) (t : TrafficTopology)
    (flows : List PlannedFlow) : Except String SwitchEstimate := do
  let switchPps ← switchTotals float t flows
  let byRole (role : SwitchRole) : Dict String Rat :=
    Dict.ofEntries ((t.roleNames role).map fun name =>
      (name, Rounding.round 2 ((switchPps.get name).getD 0)))
  pure
    { byRole
      maxByRole := fun role => Rounding.round 2 (greatest (byRole role).values)
      maxSwitchPps := Rounding.round 2 (greatest switchPps.values) }

/-- `estimate_client_pps` -/
def estimateClientPps (float : String → Except String Rat) (flows : List PlannedFlow) :
    Except String (Dict String Rat) :=
  flows.foldlM (fun perClient flow =>
    if flow.src = "" then pure perClient
    else do
      let pps ← estimateFlowPps float flow
      pure (addPps perClient (flow.src, pps))) .empty

end NetOpsBench
