import Mathlib.Data.List.MinMax
import NetOpsBench.Pingmesh.PlannerPeers

/-!
# The frames of a compiled plan

`Compiled` lists what a successful run of `compilePingmeshPlan` has established. The
frames of a client are a grid of port batches by destination batches, so the frame that
probes a target on a port batch is found by its two coordinates
(`exists_unique_frame`), and `PingmeshPlan.Sound` puts together what the agents and the
detector rely on.
-/

namespace NetOpsBench

open Fallible Batches Pairs

/-! ## The probes of a frame -/

section Probes

variable {batchSize targets portBatch destinationBatch : Nat} {sockets : List Nat}

theorem mem_targetProbes {socketCount target p s : Nat} {kind : ProbeKind} :
    (kind, p, s) ∈ targetProbes socketCount target ↔
      p = target ∧ ((kind = .rtt ∧ s < socketCount) ∨ (kind = .df ∧ s = target % socketCount)) := by
  simp only [targetProbes, List.mem_append, List.mem_map, List.mem_range, Prod.mk.injEq,
    List.mem_singleton]
  constructor
  · rintro (⟨_, below, rfl, rfl, rfl⟩ | ⟨rfl, rfl, rfl⟩)
    · exact ⟨rfl, .inl ⟨rfl, below⟩⟩
    · exact ⟨rfl, .inr ⟨rfl, rfl⟩⟩
  · rintro ⟨rfl, ⟨rfl, below⟩ | ⟨rfl, rfl⟩⟩
    · exact .inl ⟨s, below, rfl, rfl, rfl⟩
    · exact .inr ⟨rfl, rfl, rfl⟩

theorem targetProbes_nodup {socketCount target : Nat} :
    (targetProbes socketCount target).Nodup := by
  rw [targetProbes, List.nodup_append']
  refine ⟨?_, List.nodup_singleton _, by simp⟩
  exact List.Nodup.map (fun _ _ same => congrArg (fun probe => probe.2.2) same) List.nodup_range

theorem mem_probes {p s : Nat} {kind : ProbeKind} :
    (kind, p, s) ∈ (probeFrame batchSize targets portBatch sockets destinationBatch).probes ↔
      p < (batch targets batchSize destinationBatch).length ∧
        ((kind = .rtt ∧ s < sockets.length) ∨ (kind = .df ∧ s = p % sockets.length)) := by
  simp only [probeFrame, List.mem_flatMap, List.mem_range, mem_targetProbes]
  constructor
  · rintro ⟨_, below, rfl, shape⟩
    exact ⟨below, shape⟩
  · rintro ⟨below, shape⟩
    exact ⟨p, below, rfl, shape⟩

theorem probes_nodup :
    (probeFrame batchSize targets portBatch sockets destinationBatch).probes.Nodup := by
  rw [probeFrame, List.nodup_flatMap]
  refine ⟨fun _ _ => targetProbes_nodup, List.nodup_range.imp ?_⟩
  rintro left right ne ⟨kind, p, s⟩ memLeft memRight
  exact ne ((mem_targetProbes.mp memLeft).1.symm.trans (mem_targetProbes.mp memRight).1)

end Probes

/-- The sockets of a frame: the source port indices of its port batch. -/
def PlanSettings.socketsOf (settings : PlanSettings) (frame : ProbeFrame) : List Nat :=
  settings.portBatches.getD frame.portBatchIndex []

/-- A frame of a client with so many targets: its targets and probes are in range, and
every active target has one RTT probe for each socket and one DF probe. -/
structure ProbeFrame.Sound (settings : PlanSettings) (targets : Nat) (frame : ProbeFrame) :
    Prop where
  portBatch_lt : frame.portBatchIndex < settings.portBatches.length
  target_lt : ∀ i ∈ frame.targetIndices, i < targets
  targets_nodup : frame.targetIndices.Nodup
  probe_lt : ∀ kind p s, (kind, p, s) ∈ frame.probes →
    p < frame.targetIndices.length ∧ s < (settings.socketsOf frame).length
  rtt_once : ∀ p < frame.targetIndices.length, ∀ s < (settings.socketsOf frame).length,
    frame.probes.count (.rtt, p, s) = 1
  df_once : ∀ p < frame.targetIndices.length,
    (frame.probes.countP fun probe => probe.1 = .df ∧ probe.2.1 = p) = 1

theorem probeFrame_sound {settings : PlanSettings} {batchSize targets portBatch : Nat}
    {sockets : List Nat} {destinationBatch : Nat} (pos : 0 < batchSize)
    (portBatchAt : settings.portBatches[portBatch]? = some sockets) (used : sockets ≠ []) :
    (probeFrame batchSize targets portBatch sockets destinationBatch).Sound settings targets := by
  have socketsEq : settings.socketsOf
      (probeFrame batchSize targets portBatch sockets destinationBatch) = sockets := by
    simp [PlanSettings.socketsOf, probeFrame, portBatchAt]
  refine ⟨?_, ?_, batch_nodup, ?_, ?_, ?_⟩
  · exact (List.getElem?_eq_some_iff.mp portBatchAt).1
  · exact fun i mem => ((mem_batch pos).mp mem).1
  · intro kind p s mem
    rw [socketsEq]
    obtain ⟨below, ⟨-, socket⟩ | ⟨-, rfl⟩⟩ := mem_probes.mp mem
    · exact ⟨below, socket⟩
    · exact ⟨below, Nat.mod_lt _ (List.length_pos_iff.mpr used)⟩
  · intro p below s socket
    rw [socketsEq] at socket
    exact List.count_eq_one_of_mem probes_nodup (mem_probes.mpr ⟨below, .inl ⟨rfl, socket⟩⟩)
  · intro p below
    rw [← List.count_eq_one_of_mem probes_nodup
      (mem_probes.mpr ⟨below, .inr ⟨rfl, rfl⟩⟩), List.count]
    apply List.countP_congr
    rintro ⟨kind, p', s⟩ mem
    obtain ⟨-, shape⟩ := mem_probes.mp mem
    simp only [decide_eq_true_eq, beq_iff_eq, Prod.mk.injEq]
    constructor
    · rintro ⟨rfl, rfl⟩
      rcases shape with ⟨impossible, -⟩ | ⟨-, socket⟩
      · cases impossible
      · exact ⟨rfl, rfl, socket⟩
    · rintro ⟨kindEq, targetEq, -⟩
      exact ⟨kindEq, targetEq⟩

/-! ## The grid of frames -/

section Frames

variable {batchSize width targets : Nat} {portBatches : List (List Nat)}

theorem length_probeFrames :
    (probeFrames batchSize width targets portBatches).length = portBatches.length * width := by
  rw [probeFrames, length_grid width (by simp), List.length_zipIdx]

/-- The frame numbered `k` joins port batch `k / width` and destination batch
`k % width`. -/
theorem getElem?_probeFrames (pos : 0 < width) (k : Nat) :
    (probeFrames batchSize width targets portBatches)[k]? =
      portBatches[k / width]?.map fun sockets =>
        probeFrame batchSize targets (k / width) sockets (k % width) := by
  rw [probeFrames, getElem?_grid pos (by simp), List.getElem?_zipIdx]
  rcases portBatches[k / width]? with _ | sockets
  · rfl
  · simp [Nat.mod_lt _ pos]

/-- One frame of the epoch probes a given target on a given port batch. -/
theorem exists_unique_frame (pos : 0 < batchSize) {i portBatch : Nat} (target : i < targets)
    (covers : batchCount targets batchSize ≤ width) (port : portBatch < portBatches.length) :
    ∃! k : Nat, ∃ frame : ProbeFrame, (probeFrames batchSize width targets portBatches)[k]? = some frame ∧
      frame.portBatchIndex = portBatch ∧ i ∈ frame.targetIndices := by
  have column : i / batchSize < width :=
    Nat.lt_of_lt_of_le (div_lt_batchCount target pos) covers
  have widthPos : 0 < width := Nat.zero_lt_of_lt column
  have row : (portBatch * width + i / batchSize) / width = portBatch := by
    rw [Nat.mul_comm, Nat.mul_add_div widthPos, Nat.div_eq_of_lt column, Nat.add_zero]
  have offset : (portBatch * width + i / batchSize) % width = i / batchSize := by
    rw [Nat.mul_comm, Nat.mul_add_mod, Nat.mod_eq_of_lt column]
  refine ⟨portBatch * width + i / batchSize, ?_, ?_⟩
  · refine ⟨probeFrame batchSize targets portBatch portBatches[portBatch] (i / batchSize), ?_, rfl,
      (mem_batch pos).mpr ⟨target, rfl⟩⟩
    rw [getElem?_probeFrames widthPos, row, offset, List.getElem?_eq_getElem port]
    rfl
  · rintro k ⟨frame, atK, rfl, mem⟩
    rw [getElem?_probeFrames widthPos, Option.map_eq_some_iff] at atK
    obtain ⟨sockets, -, rfl⟩ := atK
    have := ((mem_batch pos).mp mem).2
    simp only [probeFrame]
    rw [this, Nat.mul_comm]
    exact (Nat.div_add_mod k width).symm

end Frames

/-! ## What a compilation establishes -/

/-- The facts behind a compiled plan, over the peers that its racks were given. -/
structure Compiled (manifest : TopologyManifest) (peers : Peers) (plan : PingmeshPlan) : Prop where
  correct : peers.Correct manifest.pingmesh manifest.clients
  two_clients : 2 ≤ manifest.clients.length
  probed : ∀ name ∈ manifest.clients.map Device.name, peers name ≠ []
  portsPerCycle_le : manifest.pingmesh.rttPortsPerCycle ≤ manifest.pingmesh.rttPortPoolSize
  ports_valid : plan.settings.sourcePorts.getLast?.getD 0 ≤ 65535
  responder_free : 33434 ∉ plan.settings.sourcePorts
  clients_eq : plan.clients = (manifest.clients.map Device.name).map
    (clientProbePlan manifest.pingmesh peers (manifest.clients.map Device.name))
  settings_eq : plan.settings =
    { planSettings manifest.pingmesh peers (manifest.clients.map Device.name) with
      planId := planFingerprint manifest.toTopology plan }

/-- Behind a compiled plan are the rack loops and the coverage that passed its checks. -/
theorem compiled_matching {manifest : TopologyManifest} {plan : PingmeshPlan}
    (done : compilePingmeshPlan manifest = .ok plan) :
    ∃ m, matchRacks manifest.pingmesh (racksOf manifest.clients) = .ok m ∧
      Compiled manifest m.peers plan ∧
      candidateCoverage manifest.toTopology (racksOf manifest.clients) m.peers m.rackPairCounts =
        .ok plan.coverage ∧
      minimumRequired manifest.scale ≤ plan.coverage.minimumWitnesses := by
  simp only [compilePingmeshPlan, bind_eq_ok, reject_eq_ok, pure_eq_ok, not_or, not_exists,
    not_and, Nat.not_lt] at done
  obtain ⟨_, two, ⟨peers, counts⟩, matched, _, probed, _, perCycle, _, ⟨ports, responder⟩,
    coverage, covered, _, -, _, enough, rfl⟩ := done
  refine ⟨⟨peers, counts⟩, matched, ?_, covered, enough⟩
  exact
    { correct := matchRacks_correct manifest.clientNames_nodup matched
      two_clients := two
      probed
      portsPerCycle_le := perCycle
      ports_valid := ports
      responder_free := responder
      clients_eq := rfl
      settings_eq := rfl }

theorem compiled_of_ok {manifest : TopologyManifest} {plan : PingmeshPlan}
    (done : compilePingmeshPlan manifest = .ok plan) : ∃ peers, Compiled manifest peers plan := by
  obtain ⟨m, -, compiled, -⟩ := compiled_matching done
  exact ⟨m.peers, compiled⟩

namespace Compiled

variable {manifest : TopologyManifest} {peers : Peers} {plan : PingmeshPlan}

theorem batchSize_pos (compiled : Compiled manifest peers plan) :
    0 < manifest.pingmesh.batchSize peers (manifest.clients.map Device.name) := by
  unfold PingmeshPolicy.batchSize
  rcases given : manifest.pingmesh.destinationBatchSize with _ | size
  · -- Some client exists, and it has a peer.
    obtain ⟨client, mem⟩ := List.exists_mem_of_ne_nil _
      (List.ne_nil_of_length_pos (Nat.lt_of_lt_of_le (by decide) compiled.two_clients))
    have name := List.mem_map_of_mem (f := Device.name) mem
    have peered := List.length_pos_iff.mpr (compiled.probed _ name)
    exact Nat.lt_of_lt_of_le peered (List.le_max_of_le' 0 (List.mem_map_of_mem name) le_rfl)
  · exact manifest.pingmesh.destinationBatchSize_pos size given

theorem portBatches_ne_nil {k : Nat} {sockets : List Nat}
    (atK : manifest.pingmesh.portBatches[k]? = some sockets) : sockets ≠ [] := by
  obtain ⟨below, rfl⟩ := List.getElem?_eq_some_iff.mp atK
  simp only [PingmeshPolicy.portBatches, getElem_batches] at below ⊢
  exact batch_ne_nil manifest.pingmesh.rttPortsPerCycle_pos (by simpa using below)

/-- The plan of a client of the manifest. -/
theorem mem_clients (compiled : Compiled manifest peers plan) {client : ClientProbePlan} :
    client ∈ plan.clients ↔ ∃ name ∈ manifest.clients.map Device.name,
      clientProbePlan manifest.pingmesh peers (manifest.clients.map Device.name) name = client := by
  rw [compiled.clients_eq, List.mem_map]

theorem map_name (compiled : Compiled manifest peers plan) :
    plan.clients.map ClientProbePlan.name = manifest.clients.map Device.name := by
  rw [compiled.clients_eq, List.map_map]
  exact List.map_id' _

theorem targets_perm (names : List String) (name : String) :
    (clientProbePlan manifest.pingmesh peers names name).targets.Perm (peers name) :=
  Sorting.sorted_perm _ _

/-- The batches of the longest target list suffice for every client. -/
theorem batchCount_targets_le {name : String} (mem : name ∈ manifest.clients.map Device.name)
    (size : Nat) :
    batchCount (clientProbePlan manifest.pingmesh peers (manifest.clients.map Device.name)
        name).targets.length size ≤
      destinationBatchCount size peers (manifest.clients.map Device.name) := by
  rw [(targets_perm _ name).length_eq]
  exact List.le_max_of_le' 0 (List.mem_map_of_mem mem) le_rfl

/-- One client of the plan probes another. -/
theorem mem_targets {names : List String} {s d : String} :
    d ∈ (clientProbePlan manifest.pingmesh peers names s).targets ↔ d ∈ peers s :=
  (targets_perm names s).mem_iff

end Compiled

/-! ## The sound plan -/

/-- `s` has `d` among its targets. -/
def PingmeshPlan.Probes (plan : PingmeshPlan) (s d : String) : Prop :=
  ∃ client ∈ plan.clients, client.name = s ∧ d ∈ client.targets

instance (plan : PingmeshPlan) (s d : String) : Decidable (plan.Probes s d) :=
  inferInstanceAs (Decidable (∃ client ∈ plan.clients, client.name = s ∧ d ∈ client.targets))

/-- A plan whose frames partition, for every client, the product of its targets and the
port batches, and whose target relation is the one that the policy asks for. -/
structure PingmeshPlan.Sound (manifest : TopologyManifest) (plan : PingmeshPlan) : Prop where
  client_names : plan.clients.map ClientProbePlan.name = manifest.clients.map Device.name
  ports_partitioned : plan.settings.portBatches.flatten.Perm
    (List.range plan.settings.sourcePorts.length)
  targets_nodup : ∀ client ∈ plan.clients, client.targets.Nodup
  frames_length : ∀ client ∈ plan.clients,
    client.frames.length = plan.settings.coverageEpochCycles
  frame_once : ∀ client ∈ plan.clients, ∀ i < client.targets.length,
    ∀ portBatch < plan.settings.portBatches.length,
      ∃! k : Nat, ∃ frame : ProbeFrame, client.frames[k]? = some frame ∧
        frame.portBatchIndex = portBatch ∧ i ∈ frame.targetIndices
  frame_sound : ∀ client ∈ plan.clients, ∀ frame ∈ client.frames,
    frame.Sound plan.settings client.targets.length
  irreflexive : ∀ s, ¬ plan.Probes s s
  symmetric : ∀ s d, plan.Probes s d → plan.Probes d s
  same_rack : ∀ rack, ∀ s ∈ rackMembers manifest.clients rack,
    ∀ d ∈ rackMembers manifest.clients rack, s ≠ d → plan.Probes s d
  cross_rack : ∀ left right, left ≠ right → rackMembers manifest.clients left ≠ [] →
    rackMembers manifest.clients right ≠ [] →
      ((rackMembers manifest.clients left ×ˢ rackMembers manifest.clients right).filter fun pair =>
        plan.Probes pair.1 pair.2).length = manifest.pingmesh.pairCount manifest.clients left right

namespace Compiled

variable {manifest : TopologyManifest} {peers : Peers} {plan : PingmeshPlan}

theorem probes_iff (compiled : Compiled manifest peers plan) {s d : String}
    (mem : s ∈ manifest.clients.map Device.name) : plan.Probes s d ↔ d ∈ peers s := by
  constructor
  · rintro ⟨client, memClient, rfl, target⟩
    obtain ⟨name, -, rfl⟩ := compiled.mem_clients.mp memClient
    exact mem_targets.mp target
  · intro peer
    exact ⟨_, compiled.mem_clients.mpr ⟨s, mem, rfl⟩, rfl, mem_targets.mpr peer⟩

theorem name_of_probes (compiled : Compiled manifest peers plan) {s d : String}
    (probes : plan.Probes s d) : s ∈ manifest.clients.map Device.name := by
  obtain ⟨client, memClient, rfl, -⟩ := probes
  rw [← compiled.map_name]
  exact List.mem_map_of_mem memClient

theorem frames_length_eq (compiled : Compiled manifest peers plan) {client : ClientProbePlan}
    (mem : client ∈ plan.clients) :
    client.frames.length = plan.settings.coverageEpochCycles := by
  obtain ⟨name, -, rfl⟩ := compiled.mem_clients.mp mem
  rw [compiled.settings_eq, clientProbePlan, length_probeFrames]
  exact Nat.mul_comm _ _

theorem frame_unique (compiled : Compiled manifest peers plan) {client : ClientProbePlan}
    (mem : client ∈ plan.clients) {i portBatch : Nat} (target : i < client.targets.length)
    (port : portBatch < plan.settings.portBatches.length) :
    ∃! k : Nat, ∃ frame : ProbeFrame, client.frames[k]? = some frame ∧
      frame.portBatchIndex = portBatch ∧ i ∈ frame.targetIndices := by
  obtain ⟨name, memName, rfl⟩ := compiled.mem_clients.mp mem
  rw [compiled.settings_eq] at port
  exact exists_unique_frame compiled.batchSize_pos target (batchCount_targets_le memName _) port

theorem frame_sound (compiled : Compiled manifest peers plan) {client : ClientProbePlan}
    (mem : client ∈ plan.clients) {frame : ProbeFrame} (memFrame : frame ∈ client.frames) :
    frame.Sound plan.settings client.targets.length := by
  obtain ⟨name, -, rfl⟩ := compiled.mem_clients.mp mem
  simp only [clientProbePlan, probeFrames, List.mem_flatMap, List.mem_map, Prod.exists,
    List.mk_mem_zipIdx_iff_getElem?] at memFrame
  obtain ⟨sockets, portBatch, atPort, _, -, rfl⟩ := memFrame
  refine probeFrame_sound compiled.batchSize_pos ?_ (portBatches_ne_nil atPort)
  rw [compiled.settings_eq]
  exact atPort

theorem sound (compiled : Compiled manifest peers plan) : plan.Sound manifest where
  client_names := compiled.map_name
  ports_partitioned := by
    rw [compiled.settings_eq]
    simp only [planSettings, List.length_range']
    exact flatten_batches manifest.pingmesh.rttPortsPerCycle_pos
  targets_nodup := by
    intro client mem
    obtain ⟨name, -, rfl⟩ := compiled.mem_clients.mp mem
    exact (targets_perm _ name).nodup_iff.mpr (compiled.correct.nodup name)
  frames_length _ mem := compiled.frames_length_eq mem
  frame_once _ mem _ target _ port := compiled.frame_unique mem target port
  frame_sound _ mem _ memFrame := compiled.frame_sound mem memFrame
  irreflexive := by
    intro s probes
    exact compiled.correct.irreflexive s
      ((compiled.probes_iff (compiled.name_of_probes probes)).mp probes)
  symmetric := by
    intro s d probes
    have peer := (compiled.probes_iff (compiled.name_of_probes probes)).mp probes
    exact (compiled.probes_iff (compiled.correct.known peer)).mpr (compiled.correct.symmetric peer)
  same_rack := by
    intro rack s inS d inD ne
    exact (compiled.probes_iff (mem_names_of_mem_rackMembers inS)).mpr
      ((compiled.correct.sameRack inS inD).mpr ne)
  cross_rack := by
    intro left right ne neLeft neRight
    rw [← compiled.correct.crossPairs manifest.clientNames_nodup ne neLeft neRight]
    congr 1
    apply List.filter_congr
    rintro ⟨s, d⟩ mem
    exact decide_eq_decide.mpr
      (compiled.probes_iff (mem_names_of_mem_rackMembers (List.mem_product.mp mem).1))

end Compiled

/-- Every plan that the compiler returns is sound for its manifest. -/
theorem compilePingmeshPlan_sound (manifest : TopologyManifest) (plan : PingmeshPlan)
    (done : compilePingmeshPlan manifest = .ok plan) : plan.Sound manifest := by
  obtain ⟨peers, compiled⟩ := compiled_of_ok done
  exact compiled.sound

/-! ## A small fabric -/

/-- Two leaves under one spine, with one client on the first leaf and two on the second. -/
def smallClosTopology : Topology :=
  { topologyId := "small-clos"
    name := "small"
    scale := "xs"
    family := .clos
    management := { network := "mgmt", ipv4Subnet := "172.20.20.0/24" }
    collector := { ipv4 := "172.20.20.2" }
    facts := { clientsPerAttachedSwitch := 2, totalClients := 3, totalSwitches := 3 }
    devices :=
      [{ name := "spine1", role := .spine }, { name := "leaf1", role := .leaf },
        { name := "leaf2", role := .leaf },
        { name := "client1", role := .client, mgmtIp := some "172.20.20.11",
          dataIp := some "10.0.1.1", attachedSwitch := some "leaf1" },
        { name := "client2", role := .client, mgmtIp := some "172.20.20.12",
          dataIp := some "10.0.2.1", attachedSwitch := some "leaf2" },
        { name := "client3", role := .client, mgmtIp := some "172.20.20.13",
          dataIp := some "10.0.2.2", attachedSwitch := some "leaf2" }]
    links :=
      [{ kind := "fabric", endpoints := (⟨"spine1", "eth1"⟩, ⟨"leaf1", "eth1"⟩) },
        { kind := "fabric", endpoints := (⟨"spine1", "eth2"⟩, ⟨"leaf2", "eth1"⟩) },
        { kind := "access", endpoints := (⟨"leaf1", "eth2"⟩, ⟨"client1", "eth1"⟩) },
        { kind := "access", endpoints := (⟨"leaf2", "eth2"⟩, ⟨"client2", "eth1"⟩) },
        { kind := "access", endpoints := (⟨"leaf2", "eth3"⟩, ⟨"client3", "eth1"⟩) }]
    routing := { ecmpHashPolicyByRole := [(.spine, 0), (.leaf, 1)] }
    pingmesh :=
      { destinationBatchSize := some 1, rttPortPoolSize := 3, rttPortsPerCycle := 2,
        dfPayloadSize := 64 } }

def smallClos : TopologyManifest :=
  { smallClosTopology with valid := by decide +kernel }

set_option maxRecDepth 4000 in
theorem smallClos_compiles : ∃ plan, compilePingmeshPlan smallClos = .ok plan := by
  have compiles : succeedsWith (compilePingmeshPlan smallClos) fun _ => true := by decide +kernel
  obtain ⟨plan, done, -⟩ := succeedsWith_eq_true.mp compiles
  exact ⟨plan, done⟩

theorem smallClos_plan_sound :
    ∃ plan, compilePingmeshPlan smallClos = .ok plan ∧ plan.Sound smallClos :=
  smallClos_compiles.imp fun plan done => ⟨done, compilePingmeshPlan_sound smallClos plan done⟩

end NetOpsBench
