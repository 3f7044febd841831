import NetOpsBench.Lib.Ipv4
import NetOpsBench.Lib.SerdeJson

/-!
# The plan of a traffic client

`ClientTrafficPlan` of `native/client-agent/src/traffic.rs`: reading it from JSON, writing it
back, and its digest.
-/

namespace NetOpsBench

inductive Transport : Type where
  | tcp
  | udp
  deriving DecidableEq, Repr

structure ListenerPlan : Type where
  protocol : Transport
  port : UInt16
  deriving DecidableEq, Repr

structure FlowPlan : Type where
  flowId : String
  protocol : Transport
  dstIp : Nat × Nat × Nat × Nat
  dstPort : UInt16
  bandwidthBps : UInt64
  payloadBytes : UInt64
  tcpMss : UInt32
  deriving DecidableEq, Repr

structure ClientTrafficPlan : Type where
  listeners : List ListenerPlan
  flows : List FlowPlan
  deriving DecidableEq, Repr

/-! ## Reading -/

/-- A unit variant is its name, or an object from its name to `null`. -/
def Transport.deserialize : Json → Option Transport
  | .str "tcp" => some .tcp
  | .str "udp" => some .udp
  | .obj [("tcp", .null)] => some .tcp
  | .obj [("udp", .null)] => some .udp
  | _ => none

def ListenerPlan.deserialize (value : Json) : Option ListenerPlan := do
  match ← SerdeJson.structFields ["protocol", "port"] value with
  | [protocol, port] => do
      let protocol ← Transport.deserialize protocol
      let port ← SerdeJson.unsigned 16 port
      pure { protocol, port := .ofNat port }
  | _ => none

def FlowPlan.deserialize (value : Json) : Option FlowPlan := do
  match ← SerdeJson.structFields
      ["flow_id", "protocol", "dst_ip", "dst_port", "bandwidth_bps", "payload_bytes", "tcp_mss"]
      value with
  | [flowId, protocol, dstIp, dstPort, bandwidthBps, payloadBytes, tcpMss] => do
      let flowId ← SerdeJson.string flowId
      let protocol ← Transport.deserialize protocol
      let dstIp ← (SerdeJson.string dstIp).bind Ipv4.parse
      let dstPort ← SerdeJson.unsigned 16 dstPort
      let bandwidthBps ← SerdeJson.unsigned 64 bandwidthBps
      let payloadBytes ← SerdeJson.unsigned 64 payloadBytes
      let tcpMss ← SerdeJson.unsigned 32 tcpMss
      pure
        { flowId, protocol, dstIp
          dstPort := .ofNat dstPort
          bandwidthBps := .ofNat bandwidthBps
          payloadBytes := .ofNat payloadBytes
          tcpMss := .ofNat tcpMss }
  | _ => none

def ClientTrafficPlan.deserialize (value : Json) : Option ClientTrafficPlan := do
  match ← SerdeJson.structFields ["listeners", "flows"] value with
  | [listeners, flows] => do
      let listeners ← SerdeJson.array ListenerPlan.deserialize listeners
      let flows ← SerdeJson.array FlowPlan.deserialize flows
      pure { listeners, flows }
  | _ => none

/-! ## Writing -/

def Transport.text : Transport → String
  | .tcp => "tcp"
  | .udp => "udp"

def ListenerPlan.toJson (plan : ListenerPlan) : Json :=
  .obj [("protocol", .str plan.protocol.text), ("port", .int plan.port.toNat)]

def FlowPlan.toJson (plan : FlowPlan) : Json :=
  .obj
    [("flow_id", .str plan.flowId), ("protocol", .str plan.protocol.text),
      ("dst_ip", .str (Ipv4.display plan.dstIp)), ("dst_port", .int plan.dstPort.toNat),
      ("bandwidth_bps", .int plan.bandwidthBps.toNat),
      ("payload_bytes", .int plan.payloadBytes.toNat), ("tcp_mss", .int plan.tcpMss.toNat)]

/-- `serde_json::to_value` -/
def ClientTrafficPlan.toJson (plan : ClientTrafficPlan) : Json :=
  .obj
    [("listeners", .arr (plan.listeners.map ListenerPlan.toJson)),
      ("flows", .arr (plan.flows.map FlowPlan.toJson))]

/-- `serde_json::to_vec` of `canonical_json` -/
def ClientTrafficPlan.encoded (plan : ClientTrafficPlan) : List UInt8 :=
  Json.encode (SerdeJson.toText (SerdeJson.canonical plan.toJson))

/-- `plan_digest` -/
def ClientTrafficPlan.digest (plan : ClientTrafficPlan) : String :=
  Sha256.hexdigest plan.encoded

end NetOpsBench
