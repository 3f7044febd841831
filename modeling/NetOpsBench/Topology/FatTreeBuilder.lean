import NetOpsBench.Pingmesh.Planner
import NetOpsBench.Topology.Planning

/-!
# Fat trees

`build_fat_tree_plan` of `netopsbench/platform/topology/fat_tree_builder.py`. The dictionaries of
neighbors are read off the lists of links that the same loop fills.
-/

namespace NetOpsBench

open Fallible

/-- The configuration after `__post_init__`. -/
structure FatTreeConfig : Type where
  k : Nat
  name : String := "dcn"
  mgmtIpv4Subnet : String := "172.20.20.0/24"
  mgmtNetworkName : Option String := none
  collectorIp : Option String := none
  asnBase : Int := 65001
  clientsPerEdge : Nat := k / 2
  purpose : Purpose := .benchmark
  scaleName : Option String := none
  pingmeshPolicy : Option PingmeshPolicy := none
  even : 2 ≤ k ∧ k % 2 = 0
  clients : 1 ≤ clientsPerEdge ∧ clientsPerEdge ≤ k / 2

namespace FatTreeConfig

def half (config : FatTreeConfig) : Nat := config.k / 2

def numCore (config : FatTreeConfig) : Nat := config.half * config.half

def numTotalAgg (config : FatTreeConfig) : Nat := config.k * config.half

def numTotalEdge (config : FatTreeConfig) : Nat := config.k * config.half

def numTotalClients (config : FatTreeConfig) : Nat := config.numTotalEdge * config.clientsPerEdge

def hostDensity (config : FatTreeConfig) : HostDensity :=
  if config.clientsPerEdge = config.half then .standard else .sparse

/-- `_validate_config` -/
def validate (config : FatTreeConfig) : Except String Unit := do
  let _ ← ClientAddressing.create config.numTotalEdge config.clientsPerEdge
  reject (255 < max config.numCore (max config.numTotalAgg config.numTotalEdge))
    "Router ID pool exceeds one IPv4 octet"
  reject (¬ 64512 ≤ config.asnBase ∨
      65534 < config.asnBase + config.numCore + config.numTotalAgg + config.numTotalEdge - 1)
    "Fat-tree ASNs exceed the private 16-bit pool"
  reject (16384 < config.k * config.half * config.half)
    "Fat-tree fabric /30 address pool exhausted"

/-! ## Links -/

/-- The number of a switch of a pod among all switches of its tier. -/
def globalIndex (config : FatTreeConfig) (pod position : Nat) : Nat :=
  (pod - 1) * config.half + position

/-- `core_agg_links` -/
def coreAggLinks (config : FatTreeConfig) : List (Nat × Nat) :=
  (indices config.k).flatMap fun pod => (indices config.half).flatMap fun localAgg =>
    (indices config.half).map fun coreOffset =>
      ((localAgg - 1) * config.half + coreOffset, config.globalIndex pod localAgg)

/-- `agg_edge_links` -/
def aggEdgeLinks (config : FatTreeConfig) : List (Nat × Nat) :=
  (indices config.k).flatMap fun pod => (indices config.half).flatMap fun localAgg =>
    (indices config.half).map fun localEdge =>
      (config.globalIndex pod localAgg, config.globalIndex pod localEdge)

/-- `agg_pod` and `edge_pod` -/
def podOf (config : FatTreeConfig) : Dict Nat Nat :=
  .ofEntries ((indices config.k).flatMap fun pod => (indices config.half).map fun position =>
    (config.globalIndex pod position, pod))

def sortedLinks (links : List (Nat × Nat)) : List (Nat × Nat) :=
  Sorting.sorted (fun a b => decide (a.1 < b.1 ∨ a.1 = b.1 ∧ a.2 ≤ b.2)) links

/-- The lower ends of the links of an upper switch, in order. -/
def below (links : List (Nat × Nat)) (upper : Nat) : List Nat :=
  Sorting.sorted (fun a b => decide (a ≤ b))
    ((links.filter fun link => decide (link.1 = upper)).map Prod.snd)

/-- The upper ends of the links of a lower switch, in order. -/
def above (links : List (Nat × Nat)) (lower : Nat) : List Nat :=
  Sorting.sorted (fun a b => decide (a ≤ b))
    ((links.filter fun link => decide (link.2 = lower)).map Prod.fst)

/-- The addresses of the upper and the lower end of every link, one /30 of a pool after the
other. -/
def linkIps (pool : Nat) (links : List (Nat × Nat)) : Dict (Nat × Nat) (String × String) :=
  .ofEntries ((sortedLinks links).zipIdx.map fun (link, i) =>
    (link, (Ipv4.text (pool + 4 * i + 1), Ipv4.text (pool + 4 * i + 2))))

/-- `10.1.0.0` -/
def coreAggPool : Nat := 167837696

/-- `10.2.0.0` -/
def aggEdgePool : Nat := 167903232

def coreAggIps (config : FatTreeConfig) : Dict (Nat × Nat) (String × String) :=
  linkIps coreAggPool config.coreAggLinks

def aggEdgeIps (config : FatTreeConfig) : Dict (Nat × Nat) (String × String) :=
  linkIps aggEdgePool config.aggEdgeLinks

/-- `ips[link]` -/
def findIps (ips : Dict (Nat × Nat) (String × String)) (link : Nat × Nat) :
    Except String (String × String) :=
  match ips.get link with
  | some found => .ok found
  | none => .error ("(" ++ toString link.1 ++ ", " ++ toString link.2 ++ ")")

/-! ## Devices -/

def coreMgmtOffset : Nat := 10

def aggMgmtOffset (config : FatTreeConfig) : Nat := coreMgmtOffset + config.numCore

def edgeMgmtOffset (config : FatTreeConfig) : Nat := config.aggMgmtOffset + config.numTotalAgg

def clientMgmtOffset (config : FatTreeConfig) : Nat := config.edgeMgmtOffset + config.numTotalEdge

def lastDeviceOffset (config : FatTreeConfig) : Nat :=
  config.clientMgmtOffset + config.numTotalClients

def allocatedOffsets (config : FatTreeConfig) : List Nat :=
  (indices config.numCore).map (coreMgmtOffset + ·) ++
    (indices config.numTotalAgg).map (config.aggMgmtOffset + ·) ++
    (indices config.numTotalEdge).map (config.edgeMgmtOffset + ·) ++
    (indices config.numTotalClients).map (config.clientMgmtOffset + ·)

def coreAsnStart (config : FatTreeConfig) : Int := config.asnBase

def aggAsnStart (config : FatTreeConfig) : Int := config.coreAsnStart + config.numCore

def edgeAsnStart (config : FatTreeConfig) : Int := config.aggAsnStart + config.numTotalAgg

def coreAsn (config : FatTreeConfig) (core : Nat) : Int := config.coreAsnStart + core - 1

def aggAsn (config : FatTreeConfig) (agg : Nat) : Int := config.aggAsnStart + agg - 1

def edgeAsn (config : FatTreeConfig) (edge : Nat) : Int := config.edgeAsnStart + edge - 1

/-- The ConfigDB entries of some addresses on the ports from one of them on. -/
def portEntries (firstPort : Nat) (ips : List String) : List (String × List String) :=
  (ips.zipIdx firstPort).map fun (ip, port) => (sonicPortName port, [ip ++ "/30"])

def coreDevicePlan (config : FatTreeConfig) (addressing : ManagementAddressing) (core : Nat) :
    Except String DevicePlan := do
  let routerId := "10.0.1." ++ toString core
  let mgmtIp ← addressing.hostIp (coreMgmtOffset + core)
  let aggs := below config.coreAggLinks core
  let ips ← aggs.mapM fun agg => findIps config.coreAggIps (core, agg)
  pure
    { device :=
        { name := "core" ++ toString core
          role := .core
          mgmtIp := some mgmtIp
          asn := some (config.coreAsn core)
          routerId := some routerId }
      requiredPorts := config.k
      configdbInterfaceCidrs := .ofEntries (portEntries 1 (ips.map Prod.fst))
      bgpAsn := some (config.coreAsn core)
      bgpRouterId := some routerId
      bgpNeighbors := (aggs.zip ips).map fun (agg, ip) => ⟨ip.2, config.aggAsn agg⟩ }

/-- `agg_pod[index]` -/
def findPod (config : FatTreeConfig) (index : Nat) : Except String Nat :=
  match config.podOf.get index with
  | some pod => .ok pod
  | none => .error (toString index)

def aggDevicePlan (config : FatTreeConfig) (addressing : ManagementAddressing) (agg : Nat) :
    Except String DevicePlan := do
  let routerId := "10.0.2." ++ toString agg
  let mgmtIp ← addressing.hostIp (config.aggMgmtOffset + agg)
  let pod ← config.findPod agg
  let cores := above config.coreAggLinks agg
  let edges := below config.aggEdgeLinks agg
  let coreIps ← cores.mapM fun core => findIps config.coreAggIps (core, agg)
  let edgeIps ← edges.mapM fun edge => findIps config.aggEdgeIps (agg, edge)
  pure
    { device :=
        { name := "agg" ++ toString agg
          role := .agg
          mgmtIp := some mgmtIp
          asn := some (config.aggAsn agg)
          routerId := some routerId
          metadata := [("pod", .nat pod)] }
      requiredPorts := config.k
      configdbInterfaceCidrs := .ofEntries
        (portEntries 1 (coreIps.map Prod.snd) ++
          portEntries (config.half + 1) (edgeIps.map Prod.fst))
      bgpAsn := some (config.aggAsn agg)
      bgpRouterId := some routerId
      bgpNeighbors :=
        ((cores.zip coreIps).map fun (core, ip) => ⟨ip.1, config.coreAsn core⟩) ++
          (edges.zip edgeIps).map fun (edge, ip) => ⟨ip.2, config.edgeAsn edge⟩ }

def edgeDevicePlan (config : FatTreeConfig) (addressing : ManagementAddressing)
    (clientAddressing : ClientAddressing) (edge : Nat) : Except String DevicePlan := do
  let routerId := "10.0.3." ++ toString edge
  let mgmtIp ← addressing.hostIp (config.edgeMgmtOffset + edge)
  let pod ← config.findPod edge
  let rackSubnet ← clientAddressing.rackSubnet edge
  let aggs := above config.aggEdgeLinks edge
  let ips ← aggs.mapM fun agg => findIps config.aggEdgeIps (agg, edge)
  let links ← (indices config.clientsPerEdge).mapM (clientAddressing.access edge)
  pure
    { device :=
        { name := "edge" ++ toString edge
          role := .edge
          mgmtIp := some mgmtIp
          asn := some (config.edgeAsn edge)
          routerId := some routerId
          metadata := [("pod", .nat pod), ("client_subnet", .str rackSubnet.text)] }
      requiredPorts := config.half + config.clientsPerEdge
      configdbInterfaceCidrs := .ofEntries
        (portEntries 1 (ips.map Prod.snd) ++
          portEntries (config.half + 1) (links.map fun access => access.gateway))
      bgpAsn := some (config.edgeAsn edge)
      bgpRouterId := some routerId
      bgpNeighbors := (aggs.zip ips).map fun (agg, ip) => ⟨ip.1, config.aggAsn agg⟩
      bgpNetworks := links.map fun access => access.subnet }

/-- The access links in order, each with the number of its client. -/
def accessLinks (config : FatTreeConfig) : List ((Nat × Nat) × Nat) :=
  ((indices config.numTotalEdge).flatMap fun edge =>
    (indices config.clientsPerEdge).map fun position => (edge, position)).zipIdx 1

def clientDevicePlan (config : FatTreeConfig) (addressing : ManagementAddressing)
    (clientAddressing : ClientAddressing) (link : (Nat × Nat) × Nat) :
    Except String DevicePlan := do
  let ((edge, position), client) := link
  let access ← clientAddressing.access edge position
  let mgmtIp ← addressing.hostIp (config.clientMgmtOffset + client)
  let pod ← config.findPod edge
  pure
    { device :=
        { name := "client" ++ toString client
          role := .client
          mgmtIp := some mgmtIp
          dataIp := some access.client
          attachedSwitch := some ("edge" ++ toString edge)
          metadata := [("rack", .str ("pod" ++ toString pod ++ "-edge" ++ toString edge))] } }

/-! ## The manifest -/

/-- `sorted(peers).index(peer) + 1` -/
def portTo (peers : List Nat) (peer : Nat) : Nat := peers.idxOf peer + 1

def links (config : FatTreeConfig) : List Link :=
  ((sortedLinks config.coreAggLinks).map fun (core, agg) =>
    { kind := "core-agg"
      endpoints := (⟨"core" ++ toString core,
          ethPortName (portTo (below config.coreAggLinks core) agg)⟩,
        ⟨"agg" ++ toString agg, ethPortName (portTo (above config.coreAggLinks agg) core)⟩) }) ++
  ((sortedLinks config.aggEdgeLinks).map fun (agg, edge) =>
    { kind := "agg-edge"
      endpoints := (⟨"agg" ++ toString agg,
          ethPortName (config.half + portTo (below config.aggEdgeLinks agg) edge)⟩,
        ⟨"edge" ++ toString edge, ethPortName (portTo (above config.aggEdgeLinks edge) agg)⟩) }) ++
  config.accessLinks.map fun ((edge, position), client) =>
    { kind := "edge-client"
      endpoints := (⟨"edge" ++ toString edge, ethPortName (config.half + position)⟩,
        ⟨"client" ++ toString client, "eth1"⟩) }

def asnRange (start : Int) (count : Nat) : String :=
  toString start ++ "-" ++ toString (start + count - 1)

/-- The fields of the manifest. -/
def topology (config : FatTreeConfig) (addressing : ManagementAddressing)
    (renderSettings : RenderSettings) (policy : PingmeshPolicy) (scaleName : String)
    (devices : List Device) : Topology :=
  { topologyId := config.name
    name := config.name
    scale := scaleName
    purpose := config.purpose
    family := .fatTree
    management :=
      { network := (config.mgmtNetworkName.bind Text.nonempty).getD ("clab-mgmt-" ++ config.name)
        ipv4Subnet := addressing.network.text }
    collector := { ipv4 := renderSettings.syslogCollector }
    facts :=
      { numCores := config.numCore
        numAggs := config.numTotalAgg
        numEdges := config.numTotalEdge
        numPods := config.k
        clientsPerAttachedSwitch := config.clientsPerEdge
        totalClients := config.numTotalClients
        totalSwitches := config.numCore + config.numTotalAgg + config.numTotalEdge
        fatTreeK := some config.k
        fullDensityClientsPerAttachedSwitch := some config.half
        hostDensity := some config.hostDensity }
    devices := devices
    links := config.links
    routing :=
      { coreAsnRange := some (asnRange config.coreAsnStart config.numCore)
        aggAsnRange := some (asnRange config.aggAsnStart config.numTotalAgg)
        edgeAsnRange := some (asnRange config.edgeAsnStart config.numTotalEdge)
        ecmpHashPolicyByRole :=
          [(.core, ⟨1, Nat.one_lt_two⟩), (.agg, ⟨0, Nat.zero_lt_two⟩), (.edge, ⟨1, Nat.one_lt_two⟩)] }
    pingmesh := policy }

end FatTreeConfig

/-- `build_fat_tree_plan`; `policyForScale` is `pingmesh_policy_for_scale`. -/
def buildFatTreePlan (policyForScale : String → Except String PingmeshPolicy)
    (config : FatTreeConfig) : Except String FabricPlan := do
  config.validate
  let clientAddressing ← ClientAddressing.create config.numTotalEdge config.clientsPerEdge
  let addressing ← ManagementAddressing.create config.mgmtIpv4Subnet config.allocatedOffsets
  let renderSettings ←
    collectorSettings addressing config.collectorIp config.lastDeviceOffset false
  let corePlans ← (indices config.numCore).mapM (config.coreDevicePlan addressing)
  let aggPlans ← (indices config.numTotalAgg).mapM (config.aggDevicePlan addressing)
  let edgePlans ←
    (indices config.numTotalEdge).mapM (config.edgeDevicePlan addressing clientAddressing)
  let clientPlans ←
    config.accessLinks.mapM (config.clientDevicePlan addressing clientAddressing)
  let devicePlans := corePlans ++ aggPlans ++ edgePlans ++ clientPlans
  let scaleName := (config.scaleName.bind Text.nonempty).getD ("fat-tree-k" ++ toString config.k)
  let policy ← chosenPolicy policyForScale config.pingmeshPolicy scaleName
  let manifest ← TopologyManifest.create
    (config.topology addressing renderSettings policy scaleName (devicePlans.map DevicePlan.device))
  let pingmeshPlan ← compilePingmeshPlan manifest
  FabricPlan.create
    { manifest := manifest.setPingmeshPlan pingmeshPlan, devicePlans, renderSettings }

end NetOpsBench
