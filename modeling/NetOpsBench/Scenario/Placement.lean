import NetOpsBench.Lib.BigEndian
import NetOpsBench.Lib.Ipv4
import NetOpsBench.Scenario.Candidates
import Mathlib.Data.Finset.Insert

/-!
# Scenario placement

`_CandidateIndex` of `generator.py`: a coverage unit gets a root device, a peer, the planned pairs
that the fault affects and a pair as a control. The counters spread the units over the fabric;
equal counts are told apart by a digest of the seed.
-/

namespace NetOpsBench

open Fallible

/-- What is read of a configured BGP neighbor. -/
structure BgpNeighbor : Type where
  peerIp : Option String
  interface : Option String := none

structure TopologyContext : Type where
  manifest : TopologyManifest
  bgpNeighbors : Dict String (List BgpNeighbor)

/-- `random.Random(seed).shuffle` -/
structure Shuffle : Type where
  run : Int → List ProbePair → List ProbePair
  perm : ∀ seed pairs, (run seed pairs).Perm pairs

/-- A pod, as a key of a counter; a Boolean is the number that it equals. -/
inductive Pod : Type where
  | number (n : Int)
  | float (repr : String)
  | text (s : String)
  deriving DecidableEq, Repr

/-- `device.metadata.get("pod")`, which the counters hash -/
def Device.pod (device : Device) : Except String (Option Pod) :=
  match (device.metadata.lookup "pod").getD .null with
  | .null => .ok none
  | .bool b => .ok (some (.number (if b then 1 else 0)))
  | .int n => .ok (some (.number n))
  | .float repr => .ok (some (.float repr))
  | .str s => .ok (some (.text s))
  | .arr _ => .error "unhashable type: 'list'"
  | .obj _ => .error "unhashable type: 'dict'"

inductive PodKey : Type where
  | pod (role : String) (pod : Option Pod)
  | bucket (role : String) (bucket : Nat)
  deriving DecidableEq, Repr

/-- `collections.Counter` -/
abbrev Counter (κ : Type) : Type := Dict κ Nat

namespace Counter

variable {κ : Type} [DecidableEq κ]

def count (counter : Counter κ) (key : κ) : Nat := (counter.get key).getD 0

def tick (counter : Counter κ) (key : κ) : Counter κ := counter.set key (counter.count key + 1)

end Counter

/-- How often pods, devices and links were used. -/
structure Uses : Type where
  deviceUses : Counter String := Dict.empty
  podUses : Counter PodKey := Dict.empty
  linkUses : Counter (Finset String) := Dict.empty

structure Placement : Type where
  device : String
  interface : Option String
  peer : Option String
  prefixText : String
  parameters : Dict String Json
  witnesses : List ProbePair
  controls : List ProbePair

/-- `_stable_template_seed` -/
def stableTemplateSeed (seed : Int) (scale templateName : String) : Nat :=
  BigEndian.decode ((Sha256.digest (Json.encode
    (toString seed ++ "\x00" ++ scale ++ "\x00" ++ templateName))).take 8)

/-- `str(ipaddress.ip_network(f"{data_ip}/30", strict=False))` -/
def accessNetwork (dataIp : Option String) : Except String String :=
  let text := dataIp.getD "None"
  match Ipv4.parse text with
  | none => .error (Text.quoted (text ++ "/30") ++ " does not appear to be an IPv4 or IPv6 network")
  | some (a, b, c, d) => .ok (Ipv4.display (a, b, c, d / 4 * 4) ++ "/30")

/-- `f"{data_ip}/32"` -/
def hostPrefix (dataIp : Option String) : String := dataIp.getD "None" ++ "/32"

/-- `fault.startswith(start)` -/
def FaultType.startsWith (fault : FaultType) (start : String) : Bool :=
  start.toList.isPrefixOf fault.value.toList

/-- The parameters that only depend on the fault type. -/
def FaultType.strength : FaultType → List (String × Json)
  | .packetLoss => [("loss_pct", .int 30)]
  | .packetCorruption => [("corruption_pct", .int 20)]
  | .highLatency => [("latency_ms", .int 120)]
  | .mtuMismatch => [("mtu", .int 1400)]
  | _ => []

structure CandidateIndex : Type extends CandidatePaths where
  bgpNeighbors : Dict String (List BgpNeighbor)
  seed : Int

namespace CandidateIndex

/-- `__init__` -/
def ofTopology (tables : NameTables) (shuffle : Shuffle) (topo : TopologyContext) (seed : Int) :
    Except String CandidateIndex := do
  let paths ← CandidatePaths.ofManifest tables topo.manifest
  .ok
    { manifest := paths.manifest
      tables := paths.tables
      pairs := shuffle.run seed paths.pairs
      bgpNeighbors := topo.bgpNeighbors
      seed := seed }

variable (index : CandidateIndex) (unit : CoverageUnit)

def candidates : List Device :=
  index.manifest.switches.filter fun device => device.role.value = unit.role

/-- The low, middle or high third of the candidates in which a device is. -/
def bucket (name : String) : Nat :=
  let candidates := index.candidates unit
  min 2 ((candidates.findIdx fun device => device.name = name) * 3 / max 1 candidates.length)

def rootKey (uses : Uses) (device : Device) : Except String (List Nat) := do
  let pod ← device.pod
  .ok [pod.elim 0 fun pod => uses.podUses.count (.pod unit.role (some pod)),
    uses.deviceUses.count device.name,
    uses.podUses.count (.bucket unit.role (index.bucket unit device.name)),
    stableTemplateSeed index.seed index.manifest.scale (unit.id ++ device.name)]

/-- `_roots` -/
def roots (uses : Uses) : Except String (List Device) := do
  let keyed ← (index.candidates unit).mapM fun device => do
    let key ← index.rootKey unit uses device
    .ok (key, device)
  .ok ((Sorting.sorted (fun a b => decide (a.1 ≤ b.1)) keyed).map Prod.snd)

/-- The role at the other end of a position. -/
def peerRole (position : String) : String :=
  String.ofList ((position.toList.splitOn '-').getLastD [])

def peerKey (uses : Uses) (root peer : String) : List Nat :=
  [uses.linkUses.count {root, peer},
    stableTemplateSeed index.seed index.manifest.scale (unit.id ++ peer)]

def peers (uses : Uses) (root : String) : List (Option String) :=
  match unit.position.bind Text.nonempty with
  | none => [none]
  | some position =>
      let ends := index.ports.keys.filter fun port => port.1 = root &&
        (index.manifest.device port.2).any fun peer => peer.role.value = peerRole position
      (Sorting.sorted (fun a b => decide (index.peerKey unit uses root a ≤
        index.peerKey unit uses root b)) (ends.map Prod.snd)).map some

/-- `_peer_ip` -/
def peerIp (root : String) (peer : Option String) : Except String String :=
  let interface := peer.bind fun peer => index.ports.get (root, peer)
  match ((index.bgpNeighbors.get root).getD []).find? fun neighbor =>
      neighbor.interface = interface with
  | none => .error ("No configured neighbor for " ++ root ++ "->" ++ peer.getD "None")
  | some neighbor =>
      match neighbor.peerIp with
      | none => .error (Text.quoted "peer_ip")
      | some ip => .ok ip

/-! ## The anchor -/

/-- The next hops of the root towards a destination. -/
def nextHops (root target : String) : Except String (List String) :=
  let distances := index.distance target
  select (fun neighbor => do
    let near ← CandidatePaths.depth distances (some neighbor)
    let far ← CandidatePaths.depth distances (some root)
    .ok (near + 1 = far)) (index.adj root)

/-- `metadata.get("pod")` of both devices is the same; a root's pod was hashed before. -/
def samePod (device other : Device) : Bool :=
  match device.pod, other.pod with
  | .ok pod, .ok pod' => pod = pod'
  | _, _ => false

/-- The next hops that a pair offers to the fault, where it can be the anchor. -/
def offers (device : Device) (peer : Option String) (pair : ProbePair) :
    Except String (Option (List String)) := do
  let (src, dst) := pair
  let root := device.name
  let source ← index.client src
  let target ← index.client dst
  let member ← if unit.reverse then index.contains src dst peer (some root)
    else index.contains src dst (some root) peer
  if !member then .ok none
  else if (unit.faultType = .routeOriginationMisconfig ∨ unit.scope = some "destination") ∧
      target.attachedSwitch ≠ some root then .ok none
  else if (unit.scope = some "source" ∨ unit.faultType = .staticRouteMisconfig) ∧
      (source.attachedSwitch ≠ some root ∨ target.attachedSwitch = some root) then .ok none
  else if unit.faultType ∈ [.ecmpMisconfig, .routeFilterMisconfig] ∧ unit.reverse = false then do
    let switch ← index.attachedSwitch dst
    let hops ← index.nextHops root switch
    if hops = [] then .ok none
    else if (unit.faultType = .ecmpMisconfig ∨
        unit.scope ∈ [some "reduced", some "reduced_remote_pod"]) ∧ hops.length < 2 then .ok none
    else if unit.role = "agg" ∧
        (unit.faultType = .ecmpMisconfig ∨ unit.scope = some "reduced_remote_pod") then
      match index.manifest.device switch with
      | none => .error (Text.quoted switch)
      | some attached => .ok (if samePod device attached then none else some hops)
    else .ok (some hops)
  else .ok (some [])

/-- The neighbors that the parameters of a fault name. -/
def neighborParameters (root : String) (peer : Option String) (hops : List String) :
    Except String (Dict String Json) := do
  let parameters : Dict String Json := Dict.ofEntries
    ((unit.mechanism.bind Text.nonempty).toList.map fun mechanism => ("mechanism", .str mechanism))
  let parameters ←
    if unit.faultType.startsWith "bgp_" && unit.faultType ≠ .bgpProcessDown ||
        unit.faultType = .routeFlapping || unit.mechanism = some "export_filter" then do
      let ip ← index.peerIp root peer
      .ok (parameters.set "peer_ip" (.str ip))
    else .ok parameters
  if unit.mechanism = some "import_filter" then do
    let chosen := if unit.scope = some "missing" then index.adj root else hops.take 1
    let ips ← chosen.mapM fun neighbor => index.peerIp root (some neighbor)
    .ok (parameters.set "peer_ips" (.arr (ips.map .str)))
  else .ok parameters

/-- The prefix and the parameters of a fault with an anchor; a static route needs another client
at the root. -/
def parametersOf (root : String) (peer : Option String) (pair : ProbePair) (hops : List String) :
    Except String (Option (String × Dict String Json)) := do
  let source ← index.client pair.1
  let target ← index.client pair.2
  let network ← accessNetwork target.dataIp
  let parameters ← index.neighborParameters unit root peer hops
  let host := hostPrefix target.dataIp
  match unit.faultType with
  | .staticRouteMisconfig =>
      match index.manifest.clients.find? fun client =>
          client.attachedSwitch = some root && client.name ≠ pair.1 with
      | none => .ok none
      | some other =>
          .ok (some (host, (parameters.set "target_ip" (.str host)).set "wrong_nexthop"
            (.ofOption .str other.dataIp)))
  | .blackholeRoute => .ok (some (host, parameters))
  | .routingLoop => do
      let ip ← index.peerIp root peer
      .ok (some (host, parameters.set "next_hop" (.str ip)))
  | .aclSourceMisconfig =>
      .ok (some (network, (parameters.set "direction" (.str "out")).set "source_prefix"
        (.str (hostPrefix source.dataIp))))
  | .aclDestinationMisconfig => .ok (some (network, parameters.set "direction" (.str "out")))
  | .aclL4PortMisconfig =>
      .ok (some (network, (parameters.set "direction" (.str "out")).set "destination_port"
        (.int 33434)))
  | fault => .ok (some (network, fault.strength.foldl (fun parameters entry =>
      parameters.set entry.1 entry.2) parameters))

/-- The first planned pair that can be the anchor, with its prefix and parameters. -/
def anchor (device : Device) (peer : Option String) :
    Except String (Option (ProbePair × String × Dict String Json)) :=
  firstSome (fun pair => do
    match ← index.offers unit device peer pair with
    | none => .ok none
    | some hops => do
        let parameters ← index.parametersOf unit device.name peer pair hops
        .ok (parameters.map fun found => (pair, found))) index.pairs

/-! ## The control -/

/-- Whether a pair can be the control. -/
def eligible (fault : FaultType) (root : String) (peer : Option String)
    (affected pair : ProbePair) : Except String Bool :=
  let (src, dst) := pair
  if pair = affected then .ok false
  else if fault = .aclSourceMisconfig then
    both (affected.1 ≠ src && affected.1 ≠ dst) (index.contains src dst (some root) peer)
  else if fault = .aclDestinationMisconfig ∨ fault ∈ destinationFaults then
    .ok (dst ≠ affected.2 && src ≠ affected.2)
  else if fault ∈ deviceFaults then negate (index.contains src dst (some root) none)
  else do
    let outside ← negate (index.contains src dst (some root) peer)
    let outside ←
      if (index.fabricPeer peer).isSome then
        both outside (negate (index.contains src dst peer (some root)))
      else .ok outside
    .ok (if peer.any index.isClient then outside && peer ≠ some src && peer ≠ some dst else outside)

/-- The first planned pair that can be the control. -/
def control (fault : FaultType) (root : String) (peer : Option String) (affected : ProbePair) :
    Except String (Option ProbePair) :=
  firstSome (fun pair => do
    let holds ← index.eligible fault root peer affected pair
    .ok (if holds then some pair else none)) index.pairs

/-! ## `place` -/

/-- One root with one peer. -/
def attempt (device : Device) (peer : Option String) : Except String (Option Placement) := do
  match ← index.anchor unit device peer with
  | none => .ok none
  | some (affected, prefixText, parameters) => do
      let found ← index.affectedPairs unit.faultType device.name peer affected unit.reverse
      let placed (controls : List ProbePair) : Placement :=
        { device := device.name
          interface := peer.bind fun peer => index.ports.get (device.name, peer)
          peer := peer
          prefixText := prefixText
          parameters := parameters
          witnesses := found
          controls := controls }
      match ← index.control unit.faultType device.name peer affected with
      | some pair => .ok (some (placed [pair]))
      | none =>
          match index.manifest.purpose with
          | .benchmark => .ok none
          | .validation => .ok (some (placed [(affected.2, affected.1)]))

/-- The counters after a placement. -/
def used (uses : Uses) (device : Device) (peer : Option String) : Except String Uses := do
  let pod ← device.pod
  let podUses := (uses.podUses.tick (.pod unit.role pod)).tick
    (.bucket unit.role (index.bucket unit device.name))
  .ok
    { deviceUses := uses.deviceUses.tick device.name
      podUses := podUses
      linkUses := match peer.bind Text.nonempty with
        | none => uses.linkUses
        | some peer => uses.linkUses.tick {device.name, peer} }

def place (uses : Uses) : Except String (Placement × Uses) := do
  let roots ← index.roots unit uses
  let found ← firstSome (fun device =>
    firstSome (fun peer => do
      let placement ← index.attempt unit device peer
      .ok (placement.map fun placement => (device, placement)))
      (index.peers unit uses device.name)) roots
  match found with
  | none =>
      .error ("No planned candidate for necessary coverage unit " ++ unit.id ++ " in " ++
        index.manifest.scale)
  | some (device, placement) => do
      let uses ← index.used unit uses device placement.peer
      .ok (placement, uses)

/-- The loop of `generate` over the units. -/
def placeAll : Uses → List CoverageUnit → Except String (List (CoverageUnit × Placement))
  | _, [] => .ok []
  | uses, unit :: units => do
      let (placement, uses) ← index.place unit uses
      let rows ← placeAll uses units
      .ok ((unit, placement) :: rows)

end CandidateIndex

/-- The placements of `generate`. -/
def placements (tables : NameTables) (shuffle : Shuffle) (topo : TopologyContext) (seed : Int)
    (units : List CoverageUnit) : Except String (List (CoverageUnit × Placement)) := do
  let index ← CandidateIndex.ofTopology tables shuffle topo seed
  index.placeAll {} units

end NetOpsBench
