import NetOpsBench.Lib.Text
import NetOpsBench.Models.Topology

/-!
# The fault catalog

The fault types and mechanisms of `catalog.py` and the coverage units of a family. What the
placement of a scenario relies on is `unit_placeable`: the faults of a whole device have no
position, and only a route filter has an export mechanism.
-/

namespace NetOpsBench

/-- The keys of `FAULT_MECHANISMS`. -/
inductive FaultType : Type where
  | linkDown
  | linkFlapping
  | interfaceIpMisconfig
  | deviceDown
  | bgpProcessDown
  | packetLoss
  | packetCorruption
  | highLatency
  | mtuMismatch
  | blackholeRoute
  | staticRouteMisconfig
  | routingLoop
  | bgpAsMismatch
  | bgpAuthMismatch
  | bgpUpdateSourceMismatch
  | bgpNeighborShutdown
  | bgpMaxPrefixMisconfig
  | routeFlapping
  | aclSourceMisconfig
  | aclDestinationMisconfig
  | aclL4PortMisconfig
  | routeOriginationMisconfig
  | routeFilterMisconfig
  | ecmpMisconfig
  deriving DecidableEq, Repr

def FaultType.value : FaultType → String
  | .linkDown => "link_down"
  | .linkFlapping => "link_flapping"
  | .interfaceIpMisconfig => "interface_ip_misconfig"
  | .deviceDown => "device_down"
  | .bgpProcessDown => "bgp_process_down"
  | .packetLoss => "packet_loss"
  | .packetCorruption => "packet_corruption"
  | .highLatency => "high_latency"
  | .mtuMismatch => "mtu_mismatch"
  | .blackholeRoute => "blackhole_route"
  | .staticRouteMisconfig => "static_route_misconfig"
  | .routingLoop => "routing_loop"
  | .bgpAsMismatch => "bgp_as_mismatch"
  | .bgpAuthMismatch => "bgp_auth_mismatch"
  | .bgpUpdateSourceMismatch => "bgp_update_source_mismatch"
  | .bgpNeighborShutdown => "bgp_neighbor_shutdown"
  | .bgpMaxPrefixMisconfig => "bgp_max_prefix_misconfig"
  | .routeFlapping => "route_flapping"
  | .aclSourceMisconfig => "acl_source_misconfig"
  | .aclDestinationMisconfig => "acl_destination_misconfig"
  | .aclL4PortMisconfig => "acl_l4_port_misconfig"
  | .routeOriginationMisconfig => "route_origination_misconfig"
  | .routeFilterMisconfig => "route_filter_misconfig"
  | .ecmpMisconfig => "ecmp_misconfig"

/-- `FAULT_MECHANISMS` -/
def FaultType.mechanisms : FaultType → List String
  | .routeOriginationMisconfig => ["network_statement_missing", "origination_policy_deny"]
  | .routeFilterMisconfig => ["export_filter", "import_filter"]
  | .ecmpMisconfig => ["max_paths_limit", "multipath_relax_disabled"]
  | fault => [fault.value]

structure CoverageUnit : Type where
  faultType : FaultType
  role : String
  position : Option String := none
  mechanism : Option String := none
  scope : Option String := none
  deriving DecidableEq, Repr

/-- The `id` property. -/
def CoverageUnit.id (unit : CoverageUnit) : String :=
  Text.join ":" (([some unit.faultType.value, unit.mechanism, some unit.role, unit.position,
    unit.scope].filterMap fun value => value).filter (· ≠ ""))

/-- The role of the access switches, the roles, and the positions of a family. -/
def familyShape : Family → String × List String × List (String × String)
  | .clos =>
      ("leaf", ["leaf", "spine"],
        [("leaf", "leaf-client"), ("leaf", "leaf-spine"), ("spine", "spine-leaf")])
  | .fatTree =>
      ("edge", ["edge", "agg", "core"],
        [("edge", "edge-client"), ("edge", "edge-agg"), ("agg", "agg-edge"), ("agg", "agg-core"),
          ("core", "core-agg")])

def validationUnits : List CoverageUnit :=
  [{ faultType := .linkDown, role := "leaf", position := some "leaf-spine" },
    { faultType := .deviceDown, role := "spine" },
    { faultType := .bgpAuthMismatch, role := "leaf", position := some "leaf-spine" }]

/-- One unit for each fault and each role or position. -/
def unitsAt (faults : List FaultType) (positions : List (String × Option String)) :
    List CoverageUnit :=
  faults.flatMap fun fault => positions.map fun (role, position) =>
    { faultType := fault, role := role, position := position }

/-- `coverage_units` -/
def coverageUnits (family : Family) (validation : Bool) : List CoverageUnit :=
  if validation then validationUnits
  else
    let (access, roles, positions) := familyShape family
    let fabric := positions.drop 1
    let imports := [(access, "missing"), (access, "reduced"), (roles.getLastD "", "missing")] ++
      match family with
      | .clos => []
      | .fatTree => [("agg", "missing"), ("agg", "reduced_remote_pod")]
    unitsAt [.linkDown, .linkFlapping, .interfaceIpMisconfig, .packetLoss, .packetCorruption,
        .highLatency, .mtuMismatch, .aclSourceMisconfig, .aclDestinationMisconfig,
        .aclL4PortMisconfig] (positions.map fun (role, position) => (role, some position)) ++
      unitsAt [.deviceDown, .bgpProcessDown] (roles.map fun role => (role, none)) ++
      ["source", "destination"].map (fun side =>
        { faultType := .blackholeRoute, role := access, scope := some side }) ++
      unitsAt [.blackholeRoute] ((roles.drop 1).map fun role => (role, none)) ++
      [{ faultType := .staticRouteMisconfig, role := access }] ++
      unitsAt [.routingLoop, .bgpAsMismatch, .bgpAuthMismatch, .bgpUpdateSourceMismatch,
        .bgpNeighborShutdown, .bgpMaxPrefixMisconfig, .routeFlapping]
        (fabric.map fun (role, position) => (role, some position)) ++
      FaultType.routeOriginationMisconfig.mechanisms.map (fun mechanism =>
        { faultType := .routeOriginationMisconfig, role := access, mechanism := some mechanism }) ++
      fabric.map (fun (role, position) =>
        { faultType := .routeFilterMisconfig, role := role, position := some position
          mechanism := some "export_filter" }) ++
      imports.map (fun (role, scope) =>
        { faultType := .routeFilterMisconfig, role := role, mechanism := some "import_filter"
          scope := some scope }) ++
      [{ faultType := .ecmpMisconfig, role := access, mechanism := some "max_paths_limit" }] ++
      match family with
      | .clos => []
      | .fatTree =>
          [("edge", "multipath_relax_disabled"), ("agg", "max_paths_limit"),
            ("agg", "multipath_relax_disabled")].map fun (role, mechanism) =>
              { faultType := .ecmpMisconfig, role := role, mechanism := some mechanism
                scope := if role = "agg" then some "remote_pod" else none }

/-- The faults of a whole device, whose controls avoid the device. -/
def deviceFaults : List FaultType := [.deviceDown, .bgpProcessDown, .ecmpMisconfig]

/-- `reverse`: the root is where routes towards the destination come from. -/
def CoverageUnit.reverse (unit : CoverageUnit) : Bool :=
  unit.faultType ∈ [.routingLoop, .routeFlapping] || unit.mechanism = some "export_filter"

/-- The faults whose reach is given by the destination of the anchor. -/
def destinationFaults : List FaultType :=
  [.routeOriginationMisconfig, .routeFilterMisconfig, .routingLoop, .blackholeRoute,
    .staticRouteMisconfig, .routeFlapping]

/-- What a placement relies on. -/
structure CoverageUnit.Placeable (unit : CoverageUnit) : Prop where
  position : unit.faultType ∈ deviceFaults → unit.position = none
  reverse : unit.reverse = true → unit.faultType ∈ destinationFaults

theorem unit_placeable {family : Family} {validation : Bool} {unit : CoverageUnit}
    (mem : unit ∈ coverageUnits family validation) : unit.Placeable := by
  have checked : (coverageUnits family validation).all (fun unit =>
      (!decide (unit.faultType ∈ deviceFaults) || decide (unit.position = none)) &&
        (!unit.reverse || decide (unit.faultType ∈ destinationFaults))) = true := by
    cases family <;> cases validation <;> decide +kernel
  have both := List.all_eq_true.mp checked unit mem
  rw [Bool.and_eq_true, Bool.or_eq_true, Bool.or_eq_true, decide_eq_true_eq, decide_eq_true_eq,
    Bool.not_eq_true', Bool.not_eq_true', decide_eq_false_iff_not] at both
  constructor
  · intro device
    rcases both.1 with other | plain
    · exact absurd device other
    · exact plain
  · intro reverse
    rcases both.2 with forward | known
    · rw [forward] at reverse
      cases reverse
    · exact known

example : ((coverageUnits .clos false).length, (coverageUnits .fatTree false).length) =
    (60, 104) := by decide +kernel

end NetOpsBench
