import NetOpsBench.Lib.BreadthFirst
import NetOpsBench.Faults.Catalog
import NetOpsBench.Utils.InterfaceNames

/-!
# Candidate paths

`CandidatePaths` of `candidates.py`: which shortest paths between switches go through a device or
over a link (`contains`), and which planned pairs a fault affects. A pair is contained exactly
where a shortest walk of the fabric leads through the element (`through_iff_walk`,
`across_iff_walk`), so the way back is contained where the way there is.
-/

namespace NetOpsBench

open Fallible

/-- The source and the destination of a probe. -/
abbrev ProbePair : Type := String × String

/-- The pairs of a plan, client by client. -/
def PingmeshPlan.pairs (plan : PingmeshPlan) : List ProbePair :=
  plan.clients.flatMap fun client => client.targets.map fun dst => (client.name, dst)

/-- `require_pingmesh_plan` -/
def TopologyManifest.requirePingmeshPlan (m : TopologyManifest) : Except String PingmeshPlan :=
  match m.pingmeshPlan with
  | none => .error "Missing compiled Pingmesh plan; regenerate topology.json"
  | some plan => .ok plan

/-- What `CandidatePaths` reads of its manifest, and the pairs in the order of the moment. -/
structure CandidatePaths : Type where
  manifest : TopologyManifest
  tables : NameTables
  pairs : List ProbePair

namespace CandidatePaths

variable (paths : CandidatePaths)

def ofManifest (tables : NameTables) (manifest : TopologyManifest) :
    Except String CandidatePaths := do
  let plan ← manifest.requirePingmeshPlan
  .ok ⟨manifest, tables, plan.pairs⟩

/-- `name in self.clients` -/
def isClient (name : String) : Bool := name ∈ paths.manifest.clients.map Device.name

/-- `self.clients[name]` -/
def client (name : String) : Except String Device :=
  match paths.manifest.clients.find? fun client => client.name = name with
  | none => .error (Text.quoted name)
  | some client => .ok client

/-- `self.clients[name].attached_switch`, which every client of a manifest has -/
def attachedSwitch (name : String) : Except String String := do
  let client ← paths.client name
  match client.attachedSwitch with
  | none => .error "None"
  | some switch => .ok switch

/-- `self.adj[node]`, in the order of the links between switches -/
def adj (node : String) : List String :=
  paths.manifest.links.flatMap fun link =>
    let a := link.endpoints.1.device
    let b := link.endpoints.2.device
    if paths.isClient a || paths.isClient b then []
    else (if a = node then [b] else []) ++ if b = node then [a] else []

/-- `self.ports` -/
def ports : Dict (String × String) String :=
  Dict.ofEntries (paths.manifest.links.flatMap fun link =>
    let a := link.endpoints.1
    let b := link.endpoints.2
    [((a.device, b.device), toSonicInterface paths.tables (some a.interface)),
      ((b.device, a.device), toSonicInterface paths.tables (some b.interface))])

/-- The devices at the ends of links. -/
def nodes : List String :=
  paths.manifest.links.flatMap fun link => link.endpointList.map LinkEndpoint.device

/-- `distance(root)` -/
def distance (root : String) : Dict String Nat :=
  BreadthFirst.distances paths.adj paths.nodes root

/-- `distances[node]` -/
def depth (distances : Dict String Nat) : Option String → Except String Nat
  | none => .error "None"
  | some node =>
      match distances.get node with
      | none => .error (Text.quoted node)
      | some n => .ok n

/-- A peer that counts as true in `contains` and is no client. -/
def fabricPeer (peer : Option String) : Option String :=
  peer.filter fun name => name ≠ "" && !paths.isClient name

/-- `contains` -/
def contains (src dst : String) (root peer : Option String) : Except String Bool := do
  let source ← paths.attachedSwitch src
  let target ← paths.attachedSwitch dst
  let ds := paths.distance source
  let dt := paths.distance target
  if peer.any paths.isClient then .ok (some dst = peer && root = some target)
  else
    match paths.fabricPeer peer with
    | some name => do
        let there ← depth ds root
        let back ← depth dt (some name)
        let whole ← depth ds (some target)
        .ok (there + 1 + back = whole)
    | none => do
        let there ← depth ds root
        let back ← depth dt root
        let whole ← depth ds (some target)
        .ok (there + back = whole)

/-- The faults of the data plane that both directions of a probe feel. -/
def impairments : List FaultType := [.packetLoss, .packetCorruption, .highLatency, .mtuMismatch]

/-- `eligible` in `affected_pairs`, from whether the pair is contained there and back -/
def feels (fault : FaultType) (root : String) (peer : Option String) (anchor : ProbePair)
    (reverse : Bool) (pair : ProbePair) (forward backward : Bool) : Except String Bool :=
  let (src, dst) := pair
  if fault = .aclSourceMisconfig then
    .ok (src = anchor.1 && forward || dst = anchor.1 && backward)
  else if fault = .aclL4PortMisconfig then .ok forward
  else if fault ∈ impairments then .ok (forward || backward)
  else if fault = .routingLoop then
    either (both (dst = anchor.2) (paths.contains src dst (some root) none))
      (both (src = anchor.2) (paths.contains dst src (some root) none))
  else do
    let member ← if reverse then paths.contains src dst peer (some root) else .ok forward
    let returning ← if reverse then paths.contains dst src peer (some root) else .ok backward
    .ok (dst = anchor.2 && member || src = anchor.2 && returning)

/-- The loop of `affected_pairs` for one pair. -/
def affects (fault : FaultType) (root : String) (peer : Option String) (anchor : ProbePair)
    (reverse : Bool) (pair : ProbePair) : Except String Bool :=
  let (src, dst) := pair
  if pair = anchor then .ok false
  else if fault = .aclSourceMisconfig ∧ src ≠ anchor.1 ∧ dst ≠ anchor.1 then .ok false
  else if fault ∉ .aclSourceMisconfig :: .aclL4PortMisconfig :: impairments ∧
      dst ≠ anchor.2 ∧ src ≠ anchor.2 then .ok false
  else do
    let forward ← paths.contains src dst (some root) peer
    let backward ← paths.contains dst src (some root) peer
    paths.feels fault root peer anchor reverse pair forward backward

/-- `affected_pairs` -/
def affectedPairs (fault : FaultType) (root : String) (peer : Option String) (anchor : ProbePair)
    (reverse : Bool) : Except String (List ProbePair) := do
  let found ← select (paths.affects fault root peer anchor reverse) paths.pairs
  .ok (anchor :: found)

/-! ## Distances -/

/-- The switches and the links between them. -/
abbrev fabric : SimpleGraph String := BreadthFirst.graph paths.adj

variable {paths}

theorem mem_adj {u v : String} : v ∈ paths.adj u ↔ ∃ link ∈ paths.manifest.links,
    paths.isClient link.endpoints.1.device = false ∧
      paths.isClient link.endpoints.2.device = false ∧
      ((link.endpoints.1.device, link.endpoints.2.device) = (u, v) ∨
        (link.endpoints.2.device, link.endpoints.1.device) = (u, v)) := by
  unfold adj
  rw [List.mem_flatMap]
  apply exists_congr
  intro link
  apply and_congr_right
  intro _
  dsimp only
  cases first : paths.isClient link.endpoints.1.device <;>
    cases second : paths.isClient link.endpoints.2.device <;>
    simp [List.mem_append, Prod.ext_iff, eq_comm]

theorem adj_symm (u v : String) (mem : v ∈ paths.adj u) : u ∈ paths.adj v := by
  obtain ⟨link, isLink, first, second, ends⟩ := mem_adj.mp mem
  refine mem_adj.mpr ⟨link, isLink, first, second, ?_⟩
  rcases ends with forth | back
  · obtain ⟨one, other⟩ := Prod.mk.inj forth
    exact .inr (Prod.ext other one)
  · obtain ⟨one, other⟩ := Prod.mk.inj back
    exact .inl (Prod.ext other one)

theorem adj_inside (u v : String) (mem : v ∈ paths.adj u) : v ∈ paths.nodes := by
  obtain ⟨link, isLink, -, -, ends⟩ := mem_adj.mp mem
  refine List.mem_flatMap.mpr ⟨link, isLink, ?_⟩
  rcases ends with forth | back
  · rw [← (Prod.mk.inj forth).2]
    simp [Link.endpointList]
  · rw [← (Prod.mk.inj back).2]
    simp [Link.endpointList]

theorem get_distance {s v : String} {n : Nat} : (paths.distance s).get v = some n ↔
    paths.fabric.Reachable s v ∧ paths.fabric.dist s v = n :=
  BreadthFirst.get_distances adj_inside adj_symm

theorem get_distance_comm (u v : String) :
    (paths.distance u).get v = (paths.distance v).get u :=
  BreadthFirst.get_distances_comm adj_inside adj_symm u v

/-- A peer of a port is a neighbor, unless one of the two is a client. -/
theorem edge_of_port {u v interface : String} (port : paths.ports.get (u, v) = some interface)
    (first : paths.isClient u = false) (second : paths.isClient v = false) (apart : u ≠ v) :
    paths.fabric.Adj u v := by
  obtain ⟨link, isLink, mem⟩ := List.mem_flatMap.mp (Dict.mem_of_get_ofEntries port)
  refine (SimpleGraph.fromRel_adj _ _ _).mpr ⟨apart, .inl ?_⟩
  have ends : (link.endpoints.1.device, link.endpoints.2.device) = (u, v) ∨
      (link.endpoints.2.device, link.endpoints.1.device) = (u, v) := by
    rcases List.mem_cons.mp mem with forth | later
    · exact .inl (congrArg Prod.fst forth).symm
    · exact .inr (congrArg Prod.fst (List.mem_singleton.mp later)).symm
  rcases ends with forth | back
  · obtain ⟨rfl, rfl⟩ := Prod.mk.inj forth
    exact mem_adj.mpr ⟨link, isLink, first, second, .inl rfl⟩
  · obtain ⟨rfl, rfl⟩ := Prod.mk.inj back
    exact mem_adj.mpr ⟨link, isLink, second, first, .inr rfl⟩

/-! ## Shortest walks -/

/-- The distances through a node add up. -/
def Through (paths : CandidatePaths) (source target node : String) : Prop :=
  ∃ i j n, (paths.distance source).get node = some i ∧
    (paths.distance target).get node = some j ∧
    (paths.distance source).get target = some n ∧ i + j = n

/-- The distances over a link add up. -/
def Across (paths : CandidatePaths) (source target root peer : String) : Prop :=
  ∃ i j n, (paths.distance source).get root = some i ∧
    (paths.distance target).get peer = some j ∧
    (paths.distance source).get target = some n ∧ i + 1 + j = n

theorem Through.symm {source target node : String} (through : paths.Through source target node) :
    paths.Through target source node := by
  obtain ⟨i, j, n, there, back, whole, sum⟩ := through
  rw [get_distance_comm] at whole
  exact ⟨j, i, n, back, there, whole, by omega⟩

theorem Across.symm {source target root peer : String}
    (across : paths.Across source target root peer) : paths.Across target source peer root := by
  obtain ⟨i, j, n, there, back, whole, sum⟩ := across
  rw [get_distance_comm] at whole
  exact ⟨j, i, n, back, there, whole, by omega⟩

/-- The distances through a node add up exactly where a shortest walk leads through it. -/
theorem through_iff_walk {source target node : String} : paths.Through source target node ↔
    ∃ p : paths.fabric.Walk source target,
      p.length = paths.fabric.dist source target ∧ node ∈ p.support := by
  constructor
  · rintro ⟨i, j, n, there, back, whole, sum⟩
    rw [get_distance_comm] at back
    obtain ⟨reach, rfl⟩ := get_distance.mp there
    obtain ⟨reachBack, rfl⟩ := get_distance.mp back
    obtain ⟨-, rfl⟩ := get_distance.mp whole
    exact (BreadthFirst.dist_add_dist_iff reach reachBack).mp sum
  · rintro ⟨p, shortest, on⟩
    obtain ⟨q, q', -⟩ := SimpleGraph.Walk.mem_support_iff_exists_append.mp on
    have sum := (BreadthFirst.dist_add_dist_iff ⟨q⟩ ⟨q'⟩).mpr ⟨p, shortest, on⟩
    refine ⟨_, _, _, get_distance.mpr ⟨⟨q⟩, rfl⟩, ?_, get_distance.mpr ⟨⟨p⟩, rfl⟩, sum⟩
    rw [get_distance_comm]
    exact get_distance.mpr ⟨⟨q'⟩, rfl⟩

/-- The distances over a link add up exactly where a shortest walk crosses it. -/
theorem across_iff_walk {source target root peer : String} (edge : paths.fabric.Adj root peer) :
    paths.Across source target root peer ↔
      ∃ (w : paths.fabric.Walk source root) (w' : paths.fabric.Walk peer target),
        (w.append (.cons edge w')).length = paths.fabric.dist source target := by
  constructor
  · rintro ⟨i, j, n, there, back, whole, sum⟩
    rw [get_distance_comm] at back
    obtain ⟨reach, rfl⟩ := get_distance.mp there
    obtain ⟨reachBack, rfl⟩ := get_distance.mp back
    obtain ⟨-, rfl⟩ := get_distance.mp whole
    exact (BreadthFirst.dist_add_one_add_dist_iff reach edge reachBack).mp sum
  · rintro ⟨w, w', shortest⟩
    have sum := (BreadthFirst.dist_add_one_add_dist_iff ⟨w⟩ edge ⟨w'⟩).mpr ⟨w, w', shortest⟩
    refine ⟨_, _, _, get_distance.mpr ⟨⟨w⟩, rfl⟩, ?_,
      get_distance.mpr ⟨⟨w.append (.cons edge w')⟩, rfl⟩, sum⟩
    rw [get_distance_comm]
    exact get_distance.mpr ⟨⟨w'⟩, rfl⟩

/-- What crosses a link comes through both of its ends. -/
theorem Across.through {source target root peer : String} (edge : paths.fabric.Adj root peer)
    (across : paths.Across source target root peer) :
    paths.Through source target root ∧ paths.Through source target peer := by
  obtain ⟨w, w', shortest⟩ := (across_iff_walk edge).mp across
  constructor
  · refine through_iff_walk.mpr ⟨_, shortest, ?_⟩
    exact (SimpleGraph.Walk.mem_support_append_iff ..).mpr (.inl w.end_mem_support)
  · refine through_iff_walk.mpr ⟨_, shortest, ?_⟩
    rw [SimpleGraph.Walk.mem_support_append_iff, SimpleGraph.Walk.support_cons]
    exact .inr (List.mem_cons_of_mem _ w'.start_mem_support)

end CandidatePaths

end NetOpsBench
