import NetOpsBench.Lib.Fallible
import NetOpsBench.Models.Pingmesh

/-!
# The canonical topology manifest

The persisted models of `netopsbench/models/topology.py`. `TopologyManifest` carries
the outcome of the model validator `_validate_topology_references`, so a manifest with
duplicate device names or a dangling client attachment cannot be built.
-/

namespace NetOpsBench

open Fallible

inductive DeviceRole : Type where
  | spine
  | leaf
  | core
  | agg
  | edge
  | client
  deriving DecidableEq, Repr

def DeviceRole.value : DeviceRole → String
  | .spine => "spine"
  | .leaf => "leaf"
  | .core => "core"
  | .agg => "agg"
  | .edge => "edge"
  | .client => "client"

structure Device : Type where
  name : String
  role : DeviceRole
  mgmtIp : Option String := none
  dataIp : Option String := none
  attachedSwitch : Option String := none
  asn : Option Int := none
  routerId : Option String := none
  /-- `dict[str, Any]`, in insertion order. -/
  metadata : List (String × Json) := []

structure LinkEndpoint : Type where
  device : String
  interface : String
  deriving DecidableEq, Repr

structure Link : Type where
  kind : String
  endpoints : LinkEndpoint × LinkEndpoint
  mtu : Nat := 9232
  deriving DecidableEq, Repr

/-- The endpoints in their persisted order. -/
def Link.endpointList (link : Link) : List LinkEndpoint := [link.endpoints.1, link.endpoints.2]

structure Management : Type where
  network : String
  ipv4Subnet : String

structure Collector : Type where
  ipv4 : String

/-- The probing policy; every bound is the field's `ge=1`. -/
structure PingmeshPolicy : Type where
  crossRackPairs : Option Nat := none
  destinationBatchSize : Option Nat := none
  rttPortPoolSize : Nat := 16
  rttPortsPerCycle : Nat := 4
  cycleIntervalSeconds : Nat := 1
  dfPayloadSize : Nat := 9072
  crossRackPairs_pos : ∀ n ∈ crossRackPairs, 1 ≤ n := by decide
  destinationBatchSize_pos : ∀ n ∈ destinationBatchSize, 1 ≤ n := by decide
  rttPortPoolSize_pos : 1 ≤ rttPortPoolSize := by decide
  rttPortsPerCycle_pos : 1 ≤ rttPortsPerCycle := by decide
  cycleIntervalSeconds_pos : 1 ≤ cycleIntervalSeconds := by decide
  dfPayloadSize_pos : 1 ≤ dfPayloadSize := by decide

structure TopologyDefaults : Type where
  linkMtu : Nat := 9232
  sonicPortMtu : Nat := 9100

inductive HostDensity : Type where
  | standard
  | sparse

def HostDensity.value : HostDensity → String
  | .standard => "standard"
  | .sparse => "sparse"

structure TopologyFacts : Type where
  numSpines : Nat := 0
  numLeafs : Nat := 0
  numCores : Nat := 0
  numAggs : Nat := 0
  numEdges : Nat := 0
  numPods : Nat := 0
  clientsPerAttachedSwitch : Nat
  totalClients : Nat
  totalSwitches : Nat
  fatTreeK : Option Nat := none
  fullDensityClientsPerAttachedSwitch : Option Nat := none
  hostDensity : Option HostDensity := none

structure RoutingMetadata : Type where
  spineAsn : Option Int := none
  leafAsnRange : Option String := none
  coreAsnRange : Option String := none
  aggAsnRange : Option String := none
  edgeAsnRange : Option String := none
  /-- `dict[DeviceRole, Literal[0, 1]]`, in insertion order. -/
  ecmpHashPolicyByRole : List (DeviceRole × Fin 2)
  ecmp : Bool := true
  bfd : Bool := false

inductive Purpose : Type where
  | benchmark
  | validation

def Purpose.value : Purpose → String
  | .benchmark => "benchmark"
  | .validation => "validation"

inductive Family : Type where
  | clos
  | fatTree
  deriving DecidableEq, Repr

def Family.value : Family → String
  | .clos => "clos"
  | .fatTree => "fat-tree"

/-- The fields of a manifest, before the model validator has run. -/
structure Topology : Type where
  topologyId : String
  name : String
  scale : String
  purpose : Purpose := .benchmark
  family : Family
  management : Management
  collector : Collector
  defaults : TopologyDefaults := {}
  facts : TopologyFacts
  devices : List Device
  links : List Link
  routing : RoutingMetadata
  pingmesh : PingmeshPolicy := {}
  pingmeshPlan : Option PingmeshPlan := none

namespace Topology

def switches (t : Topology) : List Device := t.devices.filter fun device => device.role ≠ .client

def clients (t : Topology) : List Device := t.devices.filter fun device => device.role = .client

/-- `device(name)`: the first device of that name. -/
def device (t : Topology) (name : String) : Option Device :=
  t.devices.find? fun device => device.name = name

/-! ## `_validate_topology_references` -/

def sortStrings (names : List String) : List String :=
  Sorting.sorted (fun a b => decide (a ≤ b)) names

/-- No two devices share a value of an optional field. -/
def checkUnique (fieldName : String) (values : List String) : Except String Unit :=
  let duplicates := values.dedup.filter fun value => 1 < values.count value
  reject (duplicates ≠ [])
    (fieldName ++ " values must be unique: " ++ ", ".intercalate (sortStrings duplicates))

/-- The hash policies cover exactly the roles of the switches. -/
def checkEcmpRoles (t : Topology) : Except String Unit :=
  let switchRoles := (t.switches.map Device.role).dedup
  let policyRoles := (t.routing.ecmpHashPolicyByRole.map Prod.fst).dedup
  let missing := sortStrings ((switchRoles.filter (· ∉ policyRoles)).map DeviceRole.value)
  let unexpected := sortStrings ((policyRoles.filter (· ∉ switchRoles)).map DeviceRole.value)
  let details :=
    (if missing = [] then [] else ["missing roles: " ++ ", ".intercalate missing]) ++
      (if unexpected = [] then [] else ["unexpected roles: " ++ ", ".intercalate unexpected])
  reject (missing ≠ [] ∨ unexpected ≠ [])
    ("ecmp_hash_policy_by_role must match switch roles (" ++ "; ".intercalate details ++ ")")

def checkLink (t : Topology) (link : Link) : Except String Unit :=
  link.endpointList.forM fun endpoint =>
    reject (endpoint.device ∉ t.devices.map Device.name)
      ("link endpoint references unknown device: " ++ endpoint.device)

/-- A client names a switch of the topology. -/
def checkClient (t : Topology) (client : Device) : Except String Unit :=
  match client.attachedSwitch with
  | none => .error ("client " ++ client.name ++ " must define attached_switch")
  | some attachedSwitch =>
      if attachedSwitch = "" then
        .error ("client " ++ client.name ++ " must define attached_switch")
      else
        match t.device attachedSwitch with
        | none =>
            .error ("client attached_switch references unknown device: " ++ attachedSwitch)
        | some attached =>
            reject (attached.role = .client)
              "client attached_switch must reference a non-client device"

def validateTopologyReferences (t : Topology) : Except String Unit := do
  reject (¬ (t.devices.map Device.name).Nodup) "device names must be unique"
  checkUnique "mgmt_ip" (t.devices.filterMap Device.mgmtIp)
  checkUnique "data_ip" (t.devices.filterMap Device.dataIp)
  checkUnique "router_id" (t.devices.filterMap Device.routerId)
  t.checkEcmpRoles
  t.links.forM t.checkLink
  t.clients.forM t.checkClient

end Topology

/-- A topology that its model validator accepted. -/
structure TopologyManifest : Type extends Topology where
  valid : toTopology.validateTopologyReferences = .ok ()

namespace TopologyManifest

/-- `str(client.attached_switch)` -/
def rackOf (client : Device) : String := client.attachedSwitch.getD "None"

theorem checks_passed (m : TopologyManifest) :
    (m.devices.map Device.name).Nodup ∧
      (∀ link ∈ m.links, m.checkLink link = .ok ()) ∧
      ∀ client ∈ m.clients, m.checkClient client = .ok () := by
  have valid := m.valid
  simp only [Topology.validateTopologyReferences, bind_eq_ok, reject_eq_ok, not_not,
    forM_eq_ok] at valid
  obtain ⟨_, names, _, _, _, _, _, _, _, _, _, links, clients⟩ := valid
  exact ⟨names, links, clients⟩

theorem deviceNames_nodup (m : TopologyManifest) : (m.devices.map Device.name).Nodup :=
  m.checks_passed.1

theorem clientNames_nodup (m : TopologyManifest) : (m.clients.map Device.name).Nodup :=
  m.deviceNames_nodup.sublist (List.filter_sublist.map Device.name)

/-- Every client is attached to a switch of the manifest. -/
theorem client_attached (m : TopologyManifest) {client : Device} (mem : client ∈ m.clients) :
    ∃ switch ∈ m.switches, client.attachedSwitch = some switch.name := by
  have passed := m.checks_passed.2.2 client mem
  unfold Topology.checkClient at passed
  split at passed
  · cases passed
  · rename_i attachedSwitch attachedEq
    split at passed
    · cases passed
    · split at passed
      · cases passed
      · rename_i attached found
        rw [reject_eq_ok] at passed
        have attachedMem := List.mem_of_find?_eq_some found
        have named := List.find?_some found
        refine ⟨attached, ?_, ?_⟩
        · simpa [Topology.switches, attachedMem] using passed
        · rw [attachedEq, ← of_decide_eq_true named]

end TopologyManifest

/-! ## `model_dump(mode="json", exclude={"pingmesh_plan"})` -/

def Device.dump (device : Device) : Json :=
  .obj [("name", .str device.name), ("role", .str device.role.value),
    ("mgmt_ip", .ofOption .str device.mgmtIp), ("data_ip", .ofOption .str device.dataIp),
    ("attached_switch", .ofOption .str device.attachedSwitch),
    ("asn", .ofOption .int device.asn), ("router_id", .ofOption .str device.routerId),
    ("metadata", .obj device.metadata)]

def LinkEndpoint.dump (endpoint : LinkEndpoint) : Json :=
  .obj [("device", .str endpoint.device), ("interface", .str endpoint.interface)]

def Link.dump (link : Link) : Json :=
  .obj [("kind", .str link.kind), ("endpoints", .arr (link.endpointList.map LinkEndpoint.dump)),
    ("mtu", .nat link.mtu)]

def PingmeshPolicy.dump (policy : PingmeshPolicy) : Json :=
  .obj [("cross_rack_pairs", .ofOption .nat policy.crossRackPairs),
    ("destination_batch_size", .ofOption .nat policy.destinationBatchSize),
    ("rtt_port_pool_size", .nat policy.rttPortPoolSize),
    ("rtt_ports_per_cycle", .nat policy.rttPortsPerCycle),
    ("cycle_interval_seconds", .nat policy.cycleIntervalSeconds),
    ("df_payload_size", .nat policy.dfPayloadSize)]

def TopologyFacts.dump (facts : TopologyFacts) : Json :=
  .obj [("num_spines", .nat facts.numSpines), ("num_leafs", .nat facts.numLeafs),
    ("num_cores", .nat facts.numCores), ("num_aggs", .nat facts.numAggs),
    ("num_edges", .nat facts.numEdges), ("num_pods", .nat facts.numPods),
    ("clients_per_attached_switch", .nat facts.clientsPerAttachedSwitch),
    ("total_clients", .nat facts.totalClients), ("total_switches", .nat facts.totalSwitches),
    ("fat_tree_k", .ofOption .nat facts.fatTreeK),
    ("full_density_clients_per_attached_switch",
      .ofOption .nat facts.fullDensityClientsPerAttachedSwitch),
    ("host_density", .ofOption (fun density => .str density.value) facts.hostDensity)]

def RoutingMetadata.dump (routing : RoutingMetadata) : Json :=
  .obj [("protocol", .str "BGP"), ("spine_asn", .ofOption .int routing.spineAsn),
    ("leaf_asn_range", .ofOption .str routing.leafAsnRange),
    ("core_asn_range", .ofOption .str routing.coreAsnRange),
    ("agg_asn_range", .ofOption .str routing.aggAsnRange),
    ("edge_asn_range", .ofOption .str routing.edgeAsnRange),
    ("ecmp_hash_policy_by_role",
      .obj (routing.ecmpHashPolicyByRole.map fun (role, policy) => (role.value, .nat policy.val))),
    ("ecmp", .bool routing.ecmp), ("bfd", .bool routing.bfd)]

def Topology.dump (t : Topology) : Json :=
  .obj [("schema_version", .str "4"), ("topology_id", .str t.topologyId), ("name", .str t.name),
    ("scale", .str t.scale), ("purpose", .str t.purpose.value), ("family", .str t.family.value),
    ("management", .obj [("network", .str t.management.network),
      ("ipv4_subnet", .str t.management.ipv4Subnet)]),
    ("collector", .obj [("ipv4", .str t.collector.ipv4)]),
    ("defaults", .obj [("link_mtu", .nat t.defaults.linkMtu),
      ("sonic_port_mtu", .nat t.defaults.sonicPortMtu)]),
    ("facts", t.facts.dump), ("devices", .arr (t.devices.map Device.dump)),
    ("links", .arr (t.links.map Link.dump)), ("routing", t.routing.dump),
    ("pingmesh", t.pingmesh.dump)]

end NetOpsBench
