import NetOpsBench.Lib.Dict
import NetOpsBench.Lib.Ipv4Networks
import NetOpsBench.Models.Topology

/-!
# Planning a fabric

The plans of `netopsbench/platform/topology/plan.py` and the address allocation of `planning.py`.
What only the Containerlab file of a plan reads (images, shell commands of the clients, the header)
is left out.
-/

namespace NetOpsBench

open Fallible

structure BgpNeighborPlan : Type where
  peerIp : String
  remoteAs : Int
  deriving DecidableEq, Repr

structure RenderSettings : Type where
  syslogCollector : String

/-- Identity of a node and what it is rendered from. -/
structure DevicePlan : Type where
  device : Device
  requiredPorts : Nat := 0
  configdbInterfaceCidrs : Dict String (List String) := .empty
  bgpAsn : Option Int := none
  bgpRouterId : Option String := none
  bgpNeighbors : List BgpNeighborPlan := []
  bgpNetworks : List String := []

namespace DevicePlan

def name (plan : DevicePlan) : String := plan.device.name

def isClient (plan : DevicePlan) : Bool := decide (plan.device.role = .client)

end DevicePlan

/-! ## `FabricPlan` -/

/-- The fields of a plan, before `__post_init__` has run. -/
structure Fabric : Type where
  manifest : TopologyManifest
  devicePlans : List DevicePlan
  renderSettings : RenderSettings

namespace Fabric

def endpoints (fabric : Fabric) : List LinkEndpoint := fabric.manifest.links.flatMap Link.endpointList

/-- No endpoint is used twice. -/
def checkEndpoint (used : List LinkEndpoint) (endpoint : LinkEndpoint) :
    Except String (List LinkEndpoint) := do
  reject (endpoint ∈ used)
    ("Topology reuses data interface " ++ endpoint.device ++ ":" ++ endpoint.interface)
  pure (used ++ [endpoint])

/-- The number of data links of a device. -/
def degree (fabric : Fabric) (name : String) : Nat :=
  fabric.endpoints.countP fun endpoint => decide (endpoint.device = name)

def checkSwitch (fabric : Fabric) (plan : DevicePlan) : Except String Unit := do
  reject (plan.requiredPorts = 0) ("switch " ++ plan.name ++ " must define required_ports")
  reject (fabric.degree plan.name ≠ plan.requiredPorts)
    ("switch " ++ plan.name ++ " port capacity does not match its data links")
  reject (plan.bgpAsn.isNone || plan.bgpRouterId.isNone)
    ("switch " ++ plan.name ++ " must define BGP identity")

/-- `__post_init__` -/
def check (fabric : Fabric) : Except String Unit := do
  reject (fabric.manifest.devices.map Device.name ≠ fabric.devicePlans.map DevicePlan.name)
    "FabricPlan device plans must match canonical manifest device order"
  let _ ← fabric.endpoints.foldlM checkEndpoint []
  (fabric.devicePlans.filter fun plan => !plan.isClient).forM fabric.checkSwitch

end Fabric

/-- A plan that `__post_init__` accepted. -/
structure FabricPlan : Type extends Fabric where
  valid : toFabric.check = .ok ()

def FabricPlan.create (fabric : Fabric) : Except String FabricPlan :=
  match valid : fabric.check with
  | .ok () => .ok { fabric with valid }
  | .error e => .error e

/-- The switches of a plan -/
def FabricPlan.switchPlans (plan : FabricPlan) : List DevicePlan :=
  plan.devicePlans.filter fun device => !device.isClient

def TopologyManifest.create (topology : Topology) : Except String TopologyManifest :=
  match valid : topology.validateTopologyReferences with
  | .ok () => .ok { topology with valid }
  | .error e => .error e

/-- `manifest.pingmesh_plan = plan` -/
def TopologyManifest.setPingmeshPlan (manifest : TopologyManifest) (plan : PingmeshPlan) :
    TopologyManifest :=
  { manifest with pingmeshPlan := some plan, valid := manifest.valid }

theorem FabricPlan.create_eq_ok {fabric : Fabric} {plan : FabricPlan}
    (done : FabricPlan.create fabric = .ok plan) : plan.toFabric = fabric := by
  unfold FabricPlan.create at done
  split at done
  · cases done
    rfl
  · cases done

theorem TopologyManifest.create_eq_ok {topology : Topology} {manifest : TopologyManifest}
    (done : TopologyManifest.create topology = .ok manifest) : manifest.toTopology = topology := by
  unfold TopologyManifest.create at done
  split at done
  · cases done
    rfl
  · cases done

/-! ## Management addresses -/

structure ManagementAddressing : Type where
  network : Ipv4.Network
  allocatedOffsets : List Nat

namespace ManagementAddressing

def isReserved (addressing : ManagementAddressing) (candidate : Nat) : Bool :=
  candidate = addressing.network.address || candidate = addressing.network.broadcast

def allocatedIps (addressing : ManagementAddressing) : List Nat :=
  addressing.allocatedOffsets.map (addressing.network.address + ·)

def hostIp (addressing : ManagementAddressing) (offset : Nat) : Except String String := do
  reject (offset = 0) ("Management host offset must be positive, got " ++ toString offset)
  let candidate := addressing.network.address + offset
  reject (addressing.network.contains candidate = false)
    ("Management host offset " ++ toString offset ++ " falls outside subnet " ++
      addressing.network.text)
  reject (addressing.isReserved candidate = true)
    ("Management host offset " ++ toString offset ++ " resolves to reserved address " ++
      Ipv4.text candidate)
  pure (Ipv4.text candidate)

/-- `ipaddress.ip_network(subnet, strict=False)` -/
def parseNetwork (subnet : String) : Except String Ipv4.Network :=
  match Ipv4.readNetwork subnet with
  | some network => .ok network
  | none => .error (Text.quoted subnet ++ " does not appear to be an IPv4 or IPv6 network")

/-- `ipaddress.ip_address(text)` -/
def parseAddress (text : String) : Except String Nat :=
  match Ipv4.readAddress text with
  | some address => .ok address
  | none => .error (Text.quoted text ++ " does not appear to be an IPv4 or IPv6 address")

def create (subnet : String) (allocatedOffsets : List Nat) : Except String ManagementAddressing := do
  let network ← parseNetwork subnet
  let addressing := ManagementAddressing.mk network allocatedOffsets
  allocatedOffsets.forM fun offset => do
    let _ ← addressing.hostIp offset
    pure ()
  pure addressing

def validateCollector (addressing : ManagementAddressing) (collectorIp : String) :
    Except String String := do
  let candidate ← parseAddress collectorIp
  reject (addressing.network.contains candidate = false)
    ("Collector IP " ++ collectorIp ++ " falls outside management subnet " ++
      addressing.network.text)
  reject (addressing.isReserved candidate = true)
    ("Collector IP " ++ collectorIp ++ " is reserved in management subnet " ++
      addressing.network.text)
  reject (candidate ∈ addressing.allocatedIps)
    ("Collector IP " ++ collectorIp ++ " overlaps a generated device management address")
  pure (Ipv4.text candidate)

/-- An address of the network that is not reserved. -/
def isHost (addressing : ManagementAddressing) (candidate : Nat) : Bool :=
  addressing.network.contains candidate && !addressing.isReserved candidate

def defaultCollector (addressing : ManagementAddressing) (lastDeviceOffset : Nat)
    (preferOffset200 : Bool) : Except String String :=
  let preferred := addressing.network.address + 200
  if preferOffset200 && decide (lastDeviceOffset < 200) && addressing.isHost preferred then
    addressing.validateCollector (Ipv4.text preferred)
  else
    let fallback := addressing.network.address + lastDeviceOffset + 1
    addressing.validateCollector
      (Ipv4.text (if addressing.isHost fallback then fallback else addressing.network.broadcast - 1))

end ManagementAddressing

def buildRenderSettings (addressing : ManagementAddressing) (collectorIp : String) :
    Except String RenderSettings := do
  pure ⟨← addressing.validateCollector collectorIp⟩

/-- `config.collector_ip or addressing.default_collector(…)` -/
def chosenCollector (addressing : ManagementAddressing) (collectorIp : Option String)
    (lastDeviceOffset : Nat) (preferOffset200 : Bool) : Except String String :=
  match collectorIp.bind Text.nonempty with
  | some collectorIp => .ok collectorIp
  | none => addressing.defaultCollector lastDeviceOffset preferOffset200

def collectorSettings (addressing : ManagementAddressing) (collectorIp : Option String)
    (lastDeviceOffset : Nat) (preferOffset200 : Bool) : Except String RenderSettings := do
  let collectorIp ← chosenCollector addressing collectorIp lastDeviceOffset preferOffset200
  let _ ← addressing.validateCollector collectorIp
  buildRenderSettings addressing collectorIp

/-- `config.pingmesh_policy or pingmesh_policy_for_scale(scale_name)` -/
def chosenPolicy (policyForScale : String → Except String PingmeshPolicy)
    (policy : Option PingmeshPolicy) (scaleName : String) : Except String PingmeshPolicy :=
  match policy with
  | some policy => .ok policy
  | none => policyForScale scaleName

/-! ## Data addresses -/

/-- `range(1, count + 1)` -/
def indices (count : Nat) : List Nat := List.range' 1 count

def sonicPortName (ethIndex : Nat) : String := "Ethernet" ++ toString ((ethIndex - 1) * 4)

def ethPortName (index : Nat) : String := "eth" ++ toString index

/-- One /24 per rack and one /30 per access link. -/
structure ClientAddressing : Type where
  rackCount : Nat
  clientsPerRack : Nat
  racks : 1 ≤ rackCount ∧ rackCount ≤ 255
  clients : 1 ≤ clientsPerRack ∧ clientsPerRack ≤ 64

namespace ClientAddressing

def create (rackCount clientsPerRack : Int) : Except String ClientAddressing :=
  if racks : 1 ≤ rackCount ∧ rackCount ≤ 255 then
    if clients : 1 ≤ clientsPerRack ∧ clientsPerRack ≤ 64 then
      .ok
        { rackCount := rackCount.toNat
          clientsPerRack := clientsPerRack.toNat
          racks := by omega
          clients := by omega }
    else .error "Each client /24 supports 1-64 access links"
  else .error "Client address pool supports 1-255 racks"

/-- `int(IPv4Address("192.168.0.0"))` -/
def pool : Nat := 3232235520

def rackSubnet (addressing : ClientAddressing) (rack : Nat) : Except String Ipv4.Network := do
  reject (¬ (1 ≤ rack ∧ rack ≤ addressing.rackCount))
    "Client rack index exceeds allocated address pool"
  pure ⟨pool + rack * 256, 24⟩

/-- The addresses of an access link. -/
structure Access : Type where
  subnet : String
  gateway : String
  client : String

def access (addressing : ClientAddressing) (rack position : Nat) : Except String Access := do
  reject (¬ (1 ≤ position ∧ position ≤ addressing.clientsPerRack))
    "Client position exceeds allocated rack capacity"
  let subnet ← addressing.rackSubnet rack
  let network := Ipv4.Network.mk (subnet.address + (position - 1) * 4) 30
  pure
    { subnet := network.text
      gateway := Ipv4.text (network.address + 1)
      client := Ipv4.text (network.address + 2) }

end ClientAddressing

end NetOpsBench
