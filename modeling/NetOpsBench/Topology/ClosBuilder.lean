import NetOpsBench.Pingmesh.Planner
import NetOpsBench.Topology.Planning

/-!
# Two-tier fabrics

`build_clos_plan` of `netopsbench/platform/topology/clos_builder.py`.
-/

namespace NetOpsBench

open Fallible

/-- `TopologyConfig` -/
structure ClosConfig : Type where
  name : String := "dcn"
  numSpines : Int := 2
  numLeafs : Int := 2
  clientsPerLeaf : Int := 1
  mgmtIpv4Subnet : String := "172.20.20.0/24"
  mgmtNetworkName : Option String := none
  collectorIp : Option String := none
  spineAsn : Int := 65001
  leafAsnStart : Int := 65011
  purpose : Purpose := .benchmark
  scaleName : Option String := none
  pingmeshPolicy : Option PingmeshPolicy := none

namespace ClosConfig

/-- `_validate_config` -/
def validate (config : ClosConfig) : Except String Unit := do
  reject (¬ (1 ≤ config.numSpines ∧ config.numSpines ≤ 255))
    ("num_spines must fit in one IPv4 octet (1-255), got " ++ toString config.numSpines)
  let _ ← ClientAddressing.create config.numLeafs config.clientsPerLeaf
  let leafEnd := config.leafAsnStart + config.numLeafs - 1
  reject (¬ (64512 ≤ config.spineAsn ∧ config.spineAsn ≤ 65534 ∧ 64512 ≤ config.leafAsnStart ∧
      config.leafAsnStart ≤ leafEnd ∧ leafEnd ≤ 65534))
    "CLOS ASNs exceed the private 16-bit pool"
  reject (config.leafAsnStart ≤ config.spineAsn ∧ config.spineAsn ≤ leafEnd)
    "CLOS spine and leaf ASN allocations overlap"

def spines (config : ClosConfig) : Nat := config.numSpines.toNat

def leafs (config : ClosConfig) : Nat := config.numLeafs.toNat

def clients (config : ClosConfig) : Nat := config.clientsPerLeaf.toNat

def totalClients (config : ClosConfig) : Nat := config.leafs * config.clients

def spineMgmtOffset : Nat := 10

def leafMgmtOffset (config : ClosConfig) : Nat := spineMgmtOffset + config.spines

def clientMgmtOffset (config : ClosConfig) : Nat := config.leafMgmtOffset + config.leafs

def lastDeviceOffset (config : ClosConfig) : Nat := config.clientMgmtOffset + config.totalClients

def allocatedOffsets (config : ClosConfig) : List Nat :=
  (indices config.spines).map (spineMgmtOffset + ·) ++
    (indices config.leafs).map (config.leafMgmtOffset + ·) ++
    (indices config.totalClients).map (config.clientMgmtOffset + ·)

def leafAsn (config : ClosConfig) (leaf : Nat) : Int := config.leafAsnStart + leaf - 1

/-- An address of the link between a spine and a leaf. -/
def fabricIp (spine leaf host : Nat) : String :=
  "10." ++ toString spine ++ "." ++ toString leaf ++ "." ++ toString host

def spineDevicePlan (config : ClosConfig) (addressing : ManagementAddressing) (spine : Nat) :
    Except String DevicePlan := do
  let routerId := "10.0.0." ++ toString spine
  let mgmtIp ← addressing.hostIp (spineMgmtOffset + spine)
  pure
    { device :=
        { name := "spine" ++ toString spine
          role := .spine
          mgmtIp := some mgmtIp
          asn := some config.spineAsn
          routerId := some routerId }
      requiredPorts := config.leafs
      configdbInterfaceCidrs := .ofEntries ((indices config.leafs).map fun leaf =>
        (sonicPortName leaf, [fabricIp spine leaf 1 ++ "/30"]))
      bgpAsn := some config.spineAsn
      bgpRouterId := some routerId
      bgpNeighbors := (indices config.leafs).map fun leaf =>
        ⟨fabricIp spine leaf 2, config.leafAsn leaf⟩ }

def leafDevicePlan (config : ClosConfig) (addressing : ManagementAddressing)
    (clientAddressing : ClientAddressing) (leaf : Nat) : Except String DevicePlan := do
  let routerId := "10.0.1." ++ toString leaf
  let mgmtIp ← addressing.hostIp (config.leafMgmtOffset + leaf)
  let rackSubnet ← clientAddressing.rackSubnet leaf
  let links ← (indices config.clients).mapM (clientAddressing.access leaf)
  let clientInterfaces := ((indices config.clients).zip links).map fun (position, access) =>
    (sonicPortName (config.spines + position), [access.gateway ++ "/30"])
  pure
    { device :=
        { name := "leaf" ++ toString leaf
          role := .leaf
          mgmtIp := some mgmtIp
          asn := some (config.leafAsn leaf)
          routerId := some routerId
          metadata := [("client_subnet", .str rackSubnet.text)] }
      requiredPorts := config.spines + config.clients
      configdbInterfaceCidrs := .ofEntries
        ((indices config.spines).map (fun spine =>
          (sonicPortName spine, [fabricIp spine leaf 2 ++ "/30"])) ++ clientInterfaces)
      bgpAsn := some (config.leafAsn leaf)
      bgpRouterId := some routerId
      bgpNeighbors := (indices config.spines).map fun spine =>
        ⟨fabricIp spine leaf 1, config.spineAsn⟩
      bgpNetworks := links.map fun access => access.subnet }

/-- `(leaf_idx - 1) * config.clients_per_leaf + client_position` -/
def clientIndex (config : ClosConfig) (leaf position : Nat) : Nat :=
  (leaf - 1) * config.clients + position

def clientDevicePlan (config : ClosConfig) (addressing : ManagementAddressing)
    (clientAddressing : ClientAddressing) (leaf position : Nat) : Except String DevicePlan := do
  let access ← clientAddressing.access leaf position
  let mgmtIp ← addressing.hostIp (config.clientMgmtOffset + config.clientIndex leaf position)
  pure
    { device :=
        { name := "client" ++ toString (config.clientIndex leaf position)
          role := .client
          mgmtIp := some mgmtIp
          dataIp := some access.client
          attachedSwitch := some ("leaf" ++ toString leaf)
          metadata := [("rack", .str ("rack" ++ toString leaf))] } }

/-- The plans of a leaf and of its clients. -/
def rackDevicePlans (config : ClosConfig) (addressing : ManagementAddressing)
    (clientAddressing : ClientAddressing) (leaf : Nat) : Except String (List DevicePlan) := do
  let leafPlan ← config.leafDevicePlan addressing clientAddressing leaf
  let clientPlans ←
    (indices config.clients).mapM (config.clientDevicePlan addressing clientAddressing leaf)
  pure (leafPlan :: clientPlans)

def links (config : ClosConfig) : List Link :=
  ((indices config.spines).flatMap fun spine => (indices config.leafs).map fun leaf =>
    { kind := "spine-leaf"
      endpoints := (⟨"spine" ++ toString spine, ethPortName leaf⟩,
        ⟨"leaf" ++ toString leaf, ethPortName spine⟩) }) ++
  (indices config.leafs).flatMap fun leaf => (indices config.clients).map fun position =>
    { kind := "leaf-client"
      endpoints := (⟨"leaf" ++ toString leaf, ethPortName (config.spines + position)⟩,
        ⟨"client" ++ toString (config.clientIndex leaf position), "eth1"⟩) }

/-- The fields of the manifest. -/
def topology (config : ClosConfig) (addressing : ManagementAddressing)
    (renderSettings : RenderSettings) (policy : PingmeshPolicy) (scaleName : String)
    (devices : List Device) : Topology :=
  { topologyId := config.name
    name := config.name
    scale := scaleName
    purpose := config.purpose
    family := .clos
    management :=
      { network := (config.mgmtNetworkName.bind Text.nonempty).getD ("clab-mgmt-" ++ config.name)
        ipv4Subnet := addressing.network.text }
    collector := { ipv4 := renderSettings.syslogCollector }
    facts :=
      { numSpines := config.spines
        numLeafs := config.leafs
        clientsPerAttachedSwitch := config.clients
        totalClients := config.totalClients
        totalSwitches := config.spines + config.leafs }
    devices := devices
    links := config.links
    routing :=
      { spineAsn := some config.spineAsn
        leafAsnRange := some (toString config.leafAsnStart ++ "-" ++
          toString (config.leafAsnStart + config.numLeafs - 1))
        ecmpHashPolicyByRole := [(.spine, ⟨1, Nat.one_lt_two⟩), (.leaf, ⟨1, Nat.one_lt_two⟩)] }
    pingmesh := policy }

end ClosConfig

/-- `build_clos_plan`; `policyForScale` is `pingmesh_policy_for_scale`, which reads the profiles. -/
def buildClosPlan (policyForScale : String → Except String PingmeshPolicy) (config : ClosConfig) :
    Except String FabricPlan := do
  config.validate
  let clientAddressing ← ClientAddressing.create config.numLeafs config.clientsPerLeaf
  let addressing ← ManagementAddressing.create config.mgmtIpv4Subnet config.allocatedOffsets
  let renderSettings ←
    collectorSettings addressing config.collectorIp config.lastDeviceOffset true
  let spinePlans ← (indices config.spines).mapM (config.spineDevicePlan addressing)
  let rackPlans ← (indices config.leafs).mapM (config.rackDevicePlans addressing clientAddressing)
  let devicePlans := spinePlans ++ rackPlans.flatten
  let scaleName := (config.scaleName.bind Text.nonempty).getD "custom"
  let policy ← chosenPolicy policyForScale config.pingmeshPolicy scaleName
  let manifest ← TopologyManifest.create
    (config.topology addressing renderSettings policy scaleName (devicePlans.map DevicePlan.device))
  let pingmeshPlan ← compilePingmeshPlan manifest
  FabricPlan.create
    { manifest := manifest.setPingmeshPlan pingmeshPlan, devicePlans, renderSettings }

end NetOpsBench
