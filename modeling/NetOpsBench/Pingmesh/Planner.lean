import Mathlib.Logic.Function.Basic
import NetOpsBench.Lib.Batches
import NetOpsBench.Lib.BigEndian
import NetOpsBench.Lib.Dict
import NetOpsBench.Lib.Pairs
import NetOpsBench.Models.Topology

/-!
# The Pingmesh compiler

`compilePingmeshPlan` of `netopsbench/platform/pingmesh/planner.py`: peer selection by
rack, the two nested batchings that make the probe frames, the candidate coverage of the
shortest switch paths, and the fingerprint that names the plan.

A dictionary that is only read at keys (peers, distances, witness counts) is a function
updated at a key; the racks, whose insertion order matters, are a `Dict`. A set is a list
without duplicates.
-/

namespace NetOpsBench

open Fallible Batches Pairs

/-! ## Racks and peers -/

/-- `dict[str, list[str]]`: the attachment switches with their clients. -/
abbrev Racks : Type := Dict String (List String)

/-- `racks.setdefault(rack, []).append(name)` -/
def Racks.append (racks : Racks) (rack name : String) : Racks :=
  racks.set rack ((racks.get rack).getD [] ++ [name])

def racksOf (clients : List Device) : Racks :=
  clients.foldl (fun racks client => racks.append (TopologyManifest.rackOf client) client.name)
    .empty

/-- `dict[str, set[str]]` -/
abbrev Peers : Type := String → List String

/-- `peers[source].add(destination)` -/
def Peers.add (peers : Peers) (source destination : String) : Peers :=
  Function.update peers source ((peers source).insert destination)

/-- The peers and the rack pair counter of the rack loops. -/
structure Matching : Type where
  peers : Peers
  rackPairCounts : String × String → Nat

/-- Every client probes all other clients of its rack. -/
def rackMesh (racks : Racks) : Peers :=
  (racks.values.flatMap permutations2).foldl
    (fun peers pair => peers.add pair.1 pair.2) fun _ => []

/-- The client pairs that one pair of racks contributes, one for each replica. -/
def rackReplicas (i j : Nat) (a b : List String) (count : Nat) : List (String × String) :=
  (List.range count).map fun replica =>
    (a.getD ((i + j + replica) % a.length) "", b.getD ((i + j + replica) % b.length) "")

/-- `policy.cross_rack_pairs or max(len(a), len(b))` -/
def PingmeshPolicy.rackPairCount (policy : PingmeshPolicy) (a b : List String) : Nat :=
  policy.crossRackPairs.getD (max a.length b.length)

/-- One pair of indexed racks of `combinations(indexed_racks, 2)`. -/
def matchRackPair (policy : PingmeshPolicy) (m : Matching)
    (pair : ((String × List String) × Nat) × ((String × List String) × Nat)) :
    Except String Matching := do
  let (((left, a), i), ((right, b), j)) := pair
  let count := policy.rackPairCount a b
  reject (max a.length b.length < count) "cross_rack_pairs exceeds the rack matching capacity"
  pure
    { peers := (rackReplicas i j a b count).foldl
        (fun peers (source, destination) =>
          (peers.add source destination).add destination source) m.peers
      rackPairCounts :=
        Function.update (Function.update m.rackPairCounts (left, right) count) (right, left) count }

def matchRacks (policy : PingmeshPolicy) (racks : Racks) : Except String Matching :=
  (combinations2 racks.entries.zipIdx).foldlM (matchRackPair policy) ⟨rackMesh racks, fun _ => 0⟩

/-! ## Candidate coverage -/

/-- The neighbours of every switch, one entry for each link between two switches. -/
def switchGraph (t : Topology) : String → List String :=
  let switches := t.switches.map Device.name
  t.links.foldl (fun graph link =>
    let a := link.endpoints.1.device
    let b := link.endpoints.2.device
    if a ∈ switches ∧ b ∈ switches then
      let graph := Function.update graph a (graph a ++ [b])
      Function.update graph b (graph b ++ [a])
    else graph) fun _ => []

/-- `dict[str, int]` -/
abbrev Distances : Type := String → Option Nat

/-- Record the unseen neighbours of a dequeued node and enqueue them. -/
def visitNeighbors (distance : Nat) (neighbors : List String)
    (found : Distances × List String) : Distances × List String :=
  neighbors.foldl (fun (distances, queue) neighbor =>
    if (distances neighbor).isSome then (distances, queue)
    else (Function.update distances neighbor (some (distance + 1)), queue ++ [neighbor])) found

/-- The breadth-first loop. Every iteration dequeues one node, and a node is enqueued
once, so as many iterations as there are switches empty the queue. -/
def measure (graph : String → List String) : Nat → Distances → List String → Distances
  | 0, distances, _ => distances
  | _, distances, [] => distances
  | fuel + 1, distances, node :: queue =>
      let (distances, queue) :=
        visitNeighbors ((distances node).getD 0) (graph node) (distances, queue)
      measure graph fuel distances queue

/-- The state of the predecessor walk; `pending` has the next node to pop at its head. -/
structure PredecessorWalk : Type where
  witnesses : String × String → Nat
  visited : List String
  pending : List String

/-- Count the links from the predecessors of a popped node. -/
def visitPredecessors (graph : String → List String) (distances : Distances) (count : Nat)
    (node : String) (walk : PredecessorWalk) : PredecessorWalk :=
  (graph node).foldl (fun walk predecessor =>
    if (distances predecessor).map (· + 1) = distances node then
      let witnesses := Function.update walk.witnesses (predecessor, node)
        (walk.witnesses (predecessor, node) + count)
      if predecessor ∈ walk.visited then { walk with witnesses }
      else
        { witnesses
          visited := predecessor :: walk.visited
          pending := predecessor :: walk.pending }
    else walk) walk

/-- The walk down the predecessor graph; a node is pushed once. -/
def walkPredecessors (graph : String → List String) (distances : Distances) (count : Nat) :
    Nat → PredecessorWalk → PredecessorWalk
  | 0, walk => walk
  | fuel + 1, walk =>
      match walk.pending with
      | [] => walk
      | node :: pending =>
          walkPredecessors graph distances count fuel
            (visitPredecessors graph distances count node { walk with pending })

/-- The witnesses that the paths from one rack add. -/
def coverFrom (t : Topology) (graph : String → List String) (racks : Racks)
    (rackPairCounts : String × String → Nat) (witnesses : String × String → Nat)
    (source : String) : Except String (String × String → Nat) :=
  let fuel := t.switches.length
  let distances := measure graph fuel (Function.update (fun _ => none) source (some 0)) [source]
  racks.keys.foldlM (fun witnesses destination =>
    let count := rackPairCounts (source, destination)
    if count = 0 then pure witnesses
    else if distances destination = none then
      throw ("Disconnected racks: " ++ source ++ ", " ++ destination)
    else
      pure (walkPredecessors graph distances count fuel
        ⟨witnesses, [destination], [destination]⟩).witnesses) witnesses

/-- Both directions of a client's access link carry all of its targets. -/
def coverClient (peers : Peers) (witnesses : String × String → Nat) (client : Device) :
    String × String → Nat :=
  let degree := (peers client.name).length
  let rack := TopologyManifest.rackOf client
  Function.update (Function.update witnesses (client.name, rack) degree) (rack, client.name) degree

def linkCoverage (witnesses : String × String → Nat) (a b : LinkEndpoint) : LinkCoverage :=
  { source := a.device, destination := b.device
    sourceInterface := a.interface, destinationInterface := b.interface
    witnesses := witnesses (a.device, b.device) }

/-- `_candidate_coverage` -/
def candidateCoverage (t : Topology) (racks : Racks) (peers : Peers)
    (rackPairCounts : String × String → Nat) : Except String CandidateCoverage := do
  let graph := switchGraph t
  let witnesses ← racks.keys.foldlM (coverFrom t graph racks rackPairCounts) fun _ => 0
  let witnesses := t.clients.foldl (coverClient peers) witnesses
  let links := t.links.flatMap fun link =>
    [linkCoverage witnesses link.endpoints.1 link.endpoints.2,
      linkCoverage witnesses link.endpoints.2 link.endpoints.1]
  let covered := (links.filter fun link => link.witnesses ≠ 0).flatMap fun link =>
    [link.source, link.destination]
  pure
    { directedLinks := links
      coveredSwitches := (t.switches.map Device.name).filter (· ∈ covered)
      minimumWitnesses := (links.map LinkCoverage.witnesses).min?.getD 0 }

/-! ## Frames -/

/-- The RTT probes of an active target on every socket of the batch, then its DF probe. -/
def targetProbes (sockets target : Nat) : List (ProbeKind × Nat × Nat) :=
  (List.range sockets).map (fun socket => (.rtt, target, socket)) ++
    [(.df, target, target % sockets)]

def probeFrame (batchSize targets portBatch : Nat) (sockets : List Nat)
    (destinationBatch : Nat) : ProbeFrame :=
  let active := batch targets batchSize destinationBatch
  { destinationBatchIndex := destinationBatch
    portBatchIndex := portBatch
    targetIndices := active
    probes := (List.range active.length).flatMap (targetProbes sockets.length) }

/-- The frames of a client: destination batches inside port batches. -/
def probeFrames (batchSize destinationBatches targets : Nat) (portBatches : List (List Nat)) :
    List ProbeFrame :=
  portBatches.zipIdx.flatMap fun (sockets, portBatch) =>
    (List.range destinationBatches).map (probeFrame batchSize targets portBatch sockets)

def startupJitter (name : String) (interval : Nat) : Nat :=
  BigEndian.decode ((Sha256.digest (Json.encode name)).take 8) % (interval * 1000)

/-- `sorted(peers[name], key=order.__getitem__)` -/
def sortTargets (names peers : List String) : List String :=
  Sorting.sorted (fun a b => decide (names.idxOf a ≤ names.idxOf b)) peers

/-! ## The plan -/

/-- `plan_fingerprint` -/
def planFingerprint (t : Topology) (plan : PingmeshPlan) : String :=
  let payload := { plan with settings := { plan.settings with planId := "" } }
  Sha256.hexdigest (Json.encode
    ((Json.obj [("topology", t.dump), ("plan", payload.dump)]).dumps true))

/-- `policy.destination_batch_size or max(map(len, peers.values()))` -/
def PingmeshPolicy.batchSize (policy : PingmeshPolicy) (peers : Peers) (names : List String) :
    Nat :=
  policy.destinationBatchSize.getD ((names.map fun name => (peers name).length).foldr max 0)

/-- The destination batches of the client with the most targets. -/
def destinationBatchCount (batchSize : Nat) (peers : Peers) (names : List String) : Nat :=
  (names.map fun name => batchCount (peers name).length batchSize).foldr max 0

def PingmeshPolicy.portBatches (policy : PingmeshPolicy) : List (List Nat) :=
  batches policy.rttPortPoolSize policy.rttPortsPerCycle

def clientProbePlan (policy : PingmeshPolicy) (peers : Peers) (names : List String)
    (name : String) : ClientProbePlan :=
  let batchSize := policy.batchSize peers names
  let targets := sortTargets names (peers name)
  { name
    targets
    startupDelayMs := startupJitter name policy.cycleIntervalSeconds
    frames := probeFrames batchSize (destinationBatchCount batchSize peers names) targets.length
      policy.portBatches }

/-- The settings of the plan, before its fingerprint is known. -/
def planSettings (policy : PingmeshPolicy) (peers : Peers) (names : List String) : PlanSettings :=
  let batchSize := policy.batchSize peers names
  let epoch := destinationBatchCount batchSize peers names * policy.portBatches.length
  let interval := policy.cycleIntervalSeconds
  { planId := ""
    sourcePorts := List.range' 33000 policy.rttPortPoolSize
    portBatches := policy.portBatches
    destinationBatchSize := batchSize
    cycleIntervalSeconds := interval
    coverageEpochCycles := epoch
    coverageEpochSeconds := epoch * interval
    completeWindowSeconds := epoch * interval + max 5 (2 * interval)
    dfPayloadSize := policy.dfPayloadSize }

def minimumRequired (scale : String) : Nat :=
  if scale = "xlarge" ∨ scale = "fat-tree-k18" then 2 else 1

def compilePingmeshPlan (manifest : TopologyManifest) : Except String PingmeshPlan := do
  let policy := manifest.pingmesh
  let clients := manifest.clients
  let names := clients.map Device.name
  reject (clients.length < 2) "Pingmesh requires at least two clients"
  let racks := racksOf clients
  let ⟨peers, rackPairCounts⟩ ← matchRacks policy racks
  reject (∃ name ∈ names, peers name = []) "Pingmesh plan leaves a client without probes"
  reject (policy.rttPortPoolSize < policy.rttPortsPerCycle)
    "rtt_ports_per_cycle exceeds the source-port pool"
  let settings := planSettings policy peers names
  reject (65535 < settings.sourcePorts.getLast?.getD 0 ∨ 33434 ∈ settings.sourcePorts)
    "Pingmesh source-port pool overflows or overlaps the responder"
  let coverage ← candidateCoverage manifest.toTopology racks peers rackPairCounts
  let plan := PingmeshPlan.mk settings (names.map (clientProbePlan policy peers names)) coverage
  let switches := manifest.switches.map Device.name
  reject (¬ (coverage.coveredSwitches ⊆ switches ∧ switches ⊆ coverage.coveredSwitches))
    "Pingmesh plan leaves switches without candidate coverage"
  reject (coverage.minimumWitnesses < minimumRequired manifest.scale)
    "Pingmesh plan has insufficient candidate link coverage"
  pure { plan with
    settings := { plan.settings with planId := planFingerprint manifest.toTopology plan } }

end NetOpsBench
