import NetOpsBench.Lib.Binary64
import NetOpsBench.Lib.Dict
import NetOpsBench.Lib.Fallible
import NetOpsBench.Lib.Json
import NetOpsBench.Lib.Text

/-!
# Client plans

`_client_plans` and `_plan_digest` of `netopsbench/platform/traffic/controller.py`: what the
controller asks of every client for a matrix of flows. An error is its text.
-/

namespace NetOpsBench

open Fallible

structure TrafficFlow : Type where
  src : String
  dst : String
  dstIp : String
  dstPort : Int := 5201
  protocol : String := "tcp"
  bandwidth : String := "100M"
  udpPayloadLen : Int := 1400
  tcpMss : Int := 1360
  flowId : String
  deriving DecidableEq, Repr

/-! ## The entries of a plan -/

/-- An item of `outgoing` -/
structure FlowEntry : Type where
  flowId : String
  protocol : String
  dstIp : String
  dstPort : Int
  bandwidthBps : Int
  payloadBytes : Int
  tcpMss : Int
  deriving DecidableEq, Repr

/-- An item of `listeners` -/
structure ListenerEntry : Type where
  protocol : String
  port : Int
  deriving DecidableEq, Repr

structure ClientPlan : Type where
  listeners : List ListenerEntry
  flows : List FlowEntry
  deriving DecidableEq, Repr

def FlowEntry.toJson (entry : FlowEntry) : Json :=
  .obj
    [("flow_id", .str entry.flowId), ("protocol", .str entry.protocol),
      ("dst_ip", .str entry.dstIp), ("dst_port", .int entry.dstPort),
      ("bandwidth_bps", .int entry.bandwidthBps), ("payload_bytes", .int entry.payloadBytes),
      ("tcp_mss", .int entry.tcpMss)]

def ListenerEntry.toJson (entry : ListenerEntry) : Json :=
  .obj [("protocol", .str entry.protocol), ("port", .int entry.port)]

def ClientPlan.toJson (plan : ClientPlan) : Json :=
  .obj
    [("listeners", .arr (plan.listeners.map ListenerEntry.toJson)),
      ("flows", .arr (plan.flows.map FlowEntry.toJson))]

/-- `json.dumps(plan, separators=(",", ":"), sort_keys=True).encode()` -/
def ClientPlan.encoded (plan : ClientPlan) : List UInt8 :=
  Json.encode (Json.dumps true plan.toJson)

/-- `_plan_digest` -/
def planDigest (plan : ClientPlan) : String := Sha256.hexdigest plan.encoded

/-! ## Building the plans -/

/-- The factor of a bandwidth suffix. -/
def bandwidthFactor : Char → Option Nat
  | 'K' => some 1000
  | 'M' => some 1000000
  | 'G' => some 1000000000
  | _ => none

/-- `int(value)` of a float -/
def intOfFloat (value : Binary64) : Except String Int :=
  match value.truncate with
  | some n => .ok n
  | none =>
      .error (if value = .nan then "cannot convert float NaN to integer"
        else "cannot convert float infinity to integer")

/-- `_parse_bandwidth_bps`, over the built-in `float` -/
def parseBandwidthBps (float : String → Except String Binary64) (value : String) :
    Except String Int := do
  let text := Text.upper (Text.strip value)
  match text.toList.getLast?.bind bandwidthFactor with
  | some factor => do
      let number ← float (String.ofList text.toList.dropLast)
      intOfFloat (number.scale factor)
  | none => do
      let number ← float text
      intOfFloat number

/-- The tables of the loop. -/
structure PlanTables : Type where
  outgoing : Dict String (List FlowEntry) := .empty
  listeners : Dict String (List ListenerEntry) := .empty
  /-- `seen_listeners`, by client -/
  seenListeners : Dict String (List (String × Int)) := .empty

/-- The listener of a flow at its destination, unless the same one is there already. -/
def addListener (tables : PlanTables) (dst protocol : String) (port : Int) : PlanTables :=
  let seen := (tables.seenListeners.get dst).getD []
  if seen.contains (protocol, port) then tables
  else
    { tables with
      listeners :=
        tables.listeners.set dst ((tables.listeners.get dst).getD [] ++ [{ protocol, port }])
      seenListeners := tables.seenListeners.set dst (seen ++ [(protocol, port)]) }

/-- One turn of the loop. -/
def addFlow (float : String → Except String Binary64) (tables : PlanTables) (flow : TrafficFlow) :
    Except String PlanTables := do
  let protocol := Text.lower flow.protocol
  reject (protocol ≠ "tcp" ∧ protocol ≠ "udp") ("Unsupported traffic protocol: " ++ flow.protocol)
  let payloadBytes := if protocol = "udp" then flow.udpPayloadLen else flow.tcpMss
  let bandwidthBps ← parseBandwidthBps float flow.bandwidth
  let entry : FlowEntry :=
    { flowId := flow.flowId
      protocol
      dstIp := flow.dstIp
      dstPort := flow.dstPort
      bandwidthBps
      payloadBytes := max 1 payloadBytes
      tcpMss := max 0 (if protocol = "tcp" then flow.tcpMss else 0) }
  let outgoing :=
    tables.outgoing.set flow.src ((tables.outgoing.get flow.src).getD [] ++ [entry])
  pure (addListener { tables with outgoing } flow.dst protocol flow.dstPort)

/-- `(item["port"], item["protocol"])`, in the order of pairs -/
def listenerLe (first second : ListenerEntry) : Bool :=
  decide (first.port < second.port ∨ first.port = second.port ∧ first.protocol ≤ second.protocol)

def flowLe (first second : FlowEntry) : Bool := decide (first.flowId ≤ second.flowId)

/-- The plan of one client, from the tables. -/
def clientPlan (tables : PlanTables) (client : String) : ClientPlan :=
  { listeners := Sorting.sorted listenerLe ((tables.listeners.get client).getD [])
    flows := Sorting.sorted flowLe ((tables.outgoing.get client).getD []) }

/-- `_client_plans`: the plans in the order of the clients -/
def clientPlans (float : String → Except String Binary64) (clients : List String)
    (flows : List TrafficFlow) : Except String (List (String × ClientPlan)) := do
  let tables ← flows.foldlM (addFlow float) {}
  pure (clients.map fun client => (client, clientPlan tables client))

/-! ## Requests -/

/-- The payload of `load_plan` -/
def loadRequest (generation : Nat) (plan : ClientPlan) : Json :=
  .obj
    [("generation", .int generation), ("plan_digest", .str (planDigest plan)),
      ("plan", plan.toJson)]

/-- The payload of `enable` and `disable` -/
def generationRequest (generation : Nat) (plan : ClientPlan) : Json :=
  .obj [("generation", .int generation), ("plan_digest", .str (planDigest plan))]

end NetOpsBench
