import NetOpsBench.Evaluator.Scorer
import NetOpsBench.Pingmesh.PlannerFrames

/-!
# The ground truth of an episode

`netopsbench/platform/incident/scoring.py`: a fault of a link accepts the far end of the link as
an equivalent location. The manifest is looked up by the interfaces' aliases.
-/

namespace NetOpsBench

/-- `_INTERFACE_SYMMETRIC_FAULT_TYPES` -/
def interfaceSymmetricFaultTypes : List String := ["link_down", "link_flapping"]

/-- What the builder reads of an episode. -/
structure EpisodeInfo : Type where
  faultType : Option String
  targetDevice : Option String
  targetInterface : Option String

/-- An endpoint is the target, up to the aliases of its interface. -/
def LinkEndpoint.targeted (tables : NameTables) (targetDevice targetInterface : String)
    (endpoint : LinkEndpoint) : Bool :=
  endpoint.device = targetDevice &&
    areInterfacesEquivalent tables (some endpoint.interface) (some targetInterface)

/-- `location(device, interface)` in `_find_link_peer_locations` -/
def peerLocation (tables : NameTables) (manifest : TopologyManifest) (endpoint : LinkEndpoint) :
    Location where
  device := some endpoint.device
  interface :=
    match manifest.device endpoint.device with
    | some peer =>
        some (if peer.role ≠ .client then toSonicInterface tables (some endpoint.interface)
          else endpoint.interface)
    | none => some endpoint.interface

/-- The loop over the links. -/
def findPeer (tables : NameTables) (manifest : TopologyManifest)
    (targetDevice targetInterface : String) : List Link → List Location
  | [] => []
  | link :: links =>
      if link.endpoints.1.targeted tables targetDevice targetInterface then
        [peerLocation tables manifest link.endpoints.2]
      else if link.endpoints.2.targeted tables targetDevice targetInterface then
        [peerLocation tables manifest link.endpoints.1]
      else findPeer tables manifest targetDevice targetInterface links

/-- `load` is `load_topology_manifest`. -/
def findLinkPeerLocations (tables : NameTables) (load : String → Except String TopologyManifest)
    (topologyDir targetDevice targetInterface : Option String) : Except String (List Location) :=
  match topologyDir.bind Text.nonempty, targetDevice.bind Text.nonempty,
      targetInterface.bind Text.nonempty with
  | some topologyDir, some targetDevice, some targetInterface =>
      (load topologyDir).map fun manifest =>
        findPeer tables manifest targetDevice targetInterface manifest.links
  | _, _, _ => .ok []

def buildEpisodeGroundTruth (tables : NameTables)
    (load : String → Except String TopologyManifest) (episode : EpisodeInfo)
    (topologyDir : Option String) : Except String FaultTruth := do
  let location : Location :=
    { device := episode.targetDevice, interface := episode.targetInterface.bind Text.nonempty }
  if episode.faultType.any (· ∈ interfaceSymmetricFaultTypes) then
    let equivalentLocations ← findLinkPeerLocations tables load topologyDir episode.targetDevice
      episode.targetInterface
    pure { faultType := episode.faultType, location
           equivalentLocations := equivalentLocations.map some }
  else
    pure { faultType := episode.faultType, location }

/-! ## The two ends of a link -/

variable {tables : NameTables} {manifest : TopologyManifest} {endpoint : LinkEndpoint}
  {device target : String}

/-- A target names the port of an endpoint, whose normal form the conversion to SONiC keeps. -/
structure NamesPort (tables : NameTables) (endpoint : LinkEndpoint) (target : String) : Prop where
  device_ne : endpoint.device ≠ ""
  interface_ne : endpoint.interface ≠ ""
  target_ne : target ≠ ""
  same : normalizeInterfaceName tables (some target) =
    normalizeInterfaceName tables (some endpoint.interface)
  kept : normalizeInterfaceName tables (some (toSonicInterface tables (some endpoint.interface))) =
    normalizeInterfaceName tables (some endpoint.interface)

/-- Two spellings of one port. -/
theorem NamesPort.of_spells {n : Nat} (device_ne : endpoint.device ≠ "")
    (port : Spells tables endpoint.interface n) (spelled : Spells tables target n) :
    NamesPort tables endpoint target where
  device_ne
  interface_ne := port.getD_ne
  target_ne := spelled.getD_ne
  same := (spelled.normalize_eq_iff port).mpr rfl
  kept := by
    have sonic : Spells tables (sonicName (4 * (n - 1))) n := spells_sonicName port.positive
    rw [port.toSonic]
    exact (sonic.normalize_eq_iff port).mpr rfl

theorem NamesPort.targeted (port : NamesPort tables endpoint target) :
    endpoint.targeted tables endpoint.device target = true := by
  unfold LinkEndpoint.targeted areInterfacesEquivalent
  simp only [decide_true, Option.getD_some, port.interface_ne, port.target_ne, or_self,
    if_false, port.same, if_true, Bool.and_self]

/-- Links without the target are passed over. -/
theorem findPeer_append {before links : List Link}
    (other : ∀ link ∈ before, ∀ endpoint ∈ link.endpointList,
      endpoint.targeted tables device target = false) :
    findPeer tables manifest device target (before ++ links) =
      findPeer tables manifest device target links := by
  induction before with
  | nil => rfl
  | cons link before ih =>
      have own := other link (List.mem_cons_self ..)
      have first := own link.endpoints.1 (List.mem_cons_self ..)
      have second := own link.endpoints.2 (List.mem_cons_of_mem _ (List.mem_cons_self ..))
      rw [List.cons_append, findPeer, first, second]
      simp only [Bool.false_eq_true, if_false]
      exact ih fun later mem => other later (List.mem_cons_of_mem _ mem)

/-- An endpoint is that of a switch of the manifest. -/
def OnSwitch (manifest : TopologyManifest) (endpoint : LinkEndpoint) : Prop :=
  ∃ peer, manifest.device endpoint.device = some peer ∧ peer.role ≠ .client

theorem OnSwitch.peerLocation (switch : OnSwitch manifest endpoint) :
    peerLocation tables manifest endpoint =
      ⟨some endpoint.device, some (toSonicInterface tables (some endpoint.interface))⟩ := by
  obtain ⟨peer, found, role⟩ := switch
  unfold NetOpsBench.peerLocation
  simp only [found, role, ne_eq, not_false_eq_true, if_true]

/-- No link before this one has the target's port at an end. -/
def FirstWith (tables : NameTables) (before : List Link) (endpoint : LinkEndpoint)
    (target : String) : Prop :=
  ∀ link ∈ before, ∀ other ∈ link.endpointList,
    other.targeted tables endpoint.device target = false

/-- The truth of a link fault whose far end was found. -/
def linkTruth (tables : NameTables) (faultType : String) (near far : LinkEndpoint)
    (target : String) : FaultTruth where
  faultType := some faultType
  location := ⟨some near.device, some target⟩
  equivalentLocations :=
    [some ⟨some far.device, some (toSonicInterface tables (some far.interface))⟩]

theorem nonempty_of_ne {text : String} (ne : text ≠ "") : Text.nonempty text = some text :=
  if_neg ne

/-- The ground truth of a link fault once the loop has found the far end. -/
theorem buildEpisodeGroundTruth_link {load : String → Except String TopologyManifest}
    {topologyDir faultType : String} {near far : LinkEndpoint}
    (fault : faultType ∈ interfaceSymmetricFaultTypes) (dir : topologyDir ≠ "")
    (loaded : load topologyDir = .ok manifest) (port : NamesPort tables near target)
    (switch : OnSwitch manifest far)
    (found : findPeer tables manifest near.device target manifest.links =
      [peerLocation tables manifest far]) :
    buildEpisodeGroundTruth tables load ⟨some faultType, some near.device, some target⟩
      (some topologyDir) = .ok (linkTruth tables faultType near far target) := by
  unfold buildEpisodeGroundTruth findLinkPeerLocations
  simp only [Option.any_some, fault, decide_true, if_true, Option.bind_some,
    nonempty_of_ne dir, nonempty_of_ne port.device_ne, nonempty_of_ne port.target_ne, loaded, found,
    switch.peerLocation, Except.map]
  rfl

/-- The loop finds the far end of the link from either end. -/
theorem findPeer_ends {before after : List Link} {link : Link} {leftTarget rightTarget : String}
    (links : manifest.links = before ++ link :: after)
    (distinct : link.endpoints.1.device ≠ link.endpoints.2.device)
    (leftPort : NamesPort tables link.endpoints.1 leftTarget)
    (rightPort : NamesPort tables link.endpoints.2 rightTarget)
    (leftFirst : FirstWith tables before link.endpoints.1 leftTarget)
    (rightFirst : FirstWith tables before link.endpoints.2 rightTarget) :
    findPeer tables manifest link.endpoints.1.device leftTarget manifest.links =
        [peerLocation tables manifest link.endpoints.2] ∧
      findPeer tables manifest link.endpoints.2.device rightTarget manifest.links =
        [peerLocation tables manifest link.endpoints.1] := by
  constructor
  · rw [links, findPeer_append leftFirst, findPeer, if_pos leftPort.targeted]
  · have other : link.endpoints.1.targeted tables link.endpoints.2.device rightTarget = false := by
      unfold LinkEndpoint.targeted
      rw [decide_eq_false distinct, Bool.false_and]
    rw [links, findPeer_append rightFirst, findPeer, other, if_pos rightPort.targeted]
    exact if_neg Bool.false_ne_true

theorem candidateLocations_linkTruth (faultType : String) (near far : LinkEndpoint) :
    Evaluator.candidateLocations (linkTruth tables faultType near far target) =
      [⟨some near.device, some target⟩,
        ⟨some far.device, some (toSonicInterface tables (some far.interface))⟩] := rfl

/-- The truths from the two ends accept the same answers, each with the ends exchanged. -/
theorem linkTruth_covered (e : Evaluator) {near far : LinkEndpoint} {nearTarget farTarget : String}
    (faultType : String) (nearPort : NamesPort e.tables near nearTarget)
    (farPort : NamesPort e.tables far farTarget)
    (agentDevice agentInterface : Option String) (applicable : Bool) :
    e.Covered agentDevice agentInterface applicable
      (Evaluator.candidateLocations (linkTruth e.tables faultType near far nearTarget))
      (Evaluator.candidateLocations (linkTruth e.tables faultType far near farTarget)) := by
  have alike : ∀ (device interface interface' : String),
      normalizeInterfaceName e.tables (some interface) =
        normalizeInterfaceName e.tables (some interface') →
      e.deviceMatch agentDevice ⟨some device, some interface⟩ =
          e.deviceMatch agentDevice ⟨some device, some interface'⟩ ∧
        e.interfaceMatch agentInterface applicable ⟨some device, some interface⟩ =
          e.interfaceMatch agentInterface applicable ⟨some device, some interface'⟩ := by
    intro device interface interface' same
    refine ⟨rfl, ?_⟩
    unfold Evaluator.interfaceMatch Evaluator.normalizeInterface
    rw [same]
  rw [candidateLocations_linkTruth, candidateLocations_linkTruth]
  intro location mem
  rcases List.mem_cons.mp mem with own | mem
  · subst own
    exact ⟨_, List.mem_cons_of_mem _ (List.mem_cons_self ..),
      alike near.device _ _ (nearPort.kept.trans nearPort.same.symm)⟩
  · have own := List.mem_singleton.mp mem
    subst own
    exact ⟨_, List.mem_cons_self .., alike far.device _ _ (farPort.same.trans farPort.kept.symm)⟩

/-- A result that scores a diagnosis alike, flag by flag. -/
def EvaluationResult.Agrees (result result' : EvaluationResult) : Prop :=
  result.score = result'.score ∧ result.correctDevice = result'.correctDevice ∧
    result.correctInterface = result'.correctInterface

theorem linkTruth_agrees (e : Evaluator) {near far : LinkEndpoint} {nearTarget farTarget : String}
    (faultType : String) (nearPort : NamesPort e.tables near nearTarget)
    (farPort : NamesPort e.tables far farTarget) (output : Evaluator.AgentOutput)
    (testcaseId : String) :
    (e.evaluate output (some (linkTruth e.tables faultType near far nearTarget)) testcaseId).Agrees
      (e.evaluate output (some (linkTruth e.tables faultType far near farTarget)) testcaseId) := by
  have nearApplicable :
      Evaluator.interfaceApplicable (linkTruth e.tables faultType near far nearTarget) = true :=
    decide_eq_true nearPort.target_ne
  have farApplicable :
      Evaluator.interfaceApplicable (linkTruth e.tables faultType far near farTarget) = true :=
    decide_eq_true farPort.target_ne
  obtain ⟨device, interface⟩ := Evaluator.matchLocation_alike
    (Evaluator.candidateLocations_ne_nil _) (Evaluator.candidateLocations_ne_nil _)
    (linkTruth_covered e faultType nearPort farPort (output.location.getD {}).device
      (output.location.getD {}).interface true)
    (linkTruth_covered e faultType farPort nearPort (output.location.getD {}).device
      (output.location.getD {}).interface true)
  unfold EvaluationResult.Agrees Evaluator.evaluate Evaluator.evaluateFault
  simp only [nearApplicable, farApplicable, device, interface, and_self]

/-- The truths of a link fault built from the two ends of a link between two switches agree on
every diagnosis, when no link before it takes up one of its ports and the conversion to SONiC
keeps their normal forms. -/
theorem endpoint_symmetry (e : Evaluator) (load : String → Except String TopologyManifest)
    (manifest : TopologyManifest) (before after : List Link) (link : Link)
    (topologyDir faultType leftTarget rightTarget : String)
    (fault : faultType ∈ interfaceSymmetricFaultTypes) (dir : topologyDir ≠ "")
    (loaded : load topologyDir = .ok manifest) (links : manifest.links = before ++ link :: after)
    (leftSwitch : OnSwitch manifest link.endpoints.1)
    (rightSwitch : OnSwitch manifest link.endpoints.2)
    (distinct : link.endpoints.1.device ≠ link.endpoints.2.device)
    (leftPort : NamesPort e.tables link.endpoints.1 leftTarget)
    (rightPort : NamesPort e.tables link.endpoints.2 rightTarget)
    (leftFirst : FirstWith e.tables before link.endpoints.1 leftTarget)
    (rightFirst : FirstWith e.tables before link.endpoints.2 rightTarget) :
    ∃ leftTruth rightTruth,
      buildEpisodeGroundTruth e.tables load
          ⟨some faultType, some link.endpoints.1.device, some leftTarget⟩ (some topologyDir) =
        .ok leftTruth ∧
      buildEpisodeGroundTruth e.tables load
          ⟨some faultType, some link.endpoints.2.device, some rightTarget⟩ (some topologyDir) =
        .ok rightTruth ∧
      ∀ (output : Evaluator.AgentOutput) (testcaseId : String),
        (e.evaluate output (some leftTruth) testcaseId).Agrees
          (e.evaluate output (some rightTruth) testcaseId) := by
  obtain ⟨fromLeft, fromRight⟩ :=
    findPeer_ends links distinct leftPort rightPort leftFirst rightFirst
  exact ⟨_, _, buildEpisodeGroundTruth_link fault dir loaded leftPort rightSwitch fromLeft,
    buildEpisodeGroundTruth_link fault dir loaded rightPort leftSwitch fromRight,
    linkTruth_agrees e faultType leftPort rightPort⟩

/-! ## Two fabrics -/

/-- The second link of the small fabric, its ports named for SONiC. -/
theorem endpoint_symmetry_small :
    ∃ leftTruth rightTruth,
      buildEpisodeGroundTruth .ascii (fun _ => .ok smallClos)
          ⟨some "link_flapping", some "spine1", some "Ethernet4"⟩ (some "topology") =
        .ok leftTruth ∧
      buildEpisodeGroundTruth .ascii (fun _ => .ok smallClos)
          ⟨some "link_flapping", some "leaf2", some "Ethernet0"⟩ (some "topology") =
        .ok rightTruth ∧
      ∀ (output : Evaluator.AgentOutput) (testcaseId : String),
        (asciiEvaluator.evaluate output (some leftTruth) testcaseId).Agrees
          (asciiEvaluator.evaluate output (some rightTruth) testcaseId) := by
  have spinePort : NamesPort .ascii ⟨"spine1", "eth2"⟩ "Ethernet4" := by
    have port : Spells .ascii "eth2" 2 := spells_ethName (n := 2) (by decide)
    have spelled : Spells .ascii "Ethernet4" 2 := spells_sonicName (n := 2) (by decide)
    exact .of_spells (by decide) port spelled
  have leafPort : NamesPort .ascii ⟨"leaf2", "eth1"⟩ "Ethernet0" := by
    have port : Spells .ascii "eth1" 1 := spells_ethName (n := 1) (by decide)
    have spelled : Spells .ascii "Ethernet0" 1 := spells_sonicName (n := 1) (by decide)
    exact .of_spells (by decide) port spelled
  have first : ∀ endpoint ∈ ([⟨"spine1", "eth1"⟩, ⟨"leaf1", "eth1"⟩] : List LinkEndpoint),
      endpoint.targeted .ascii "spine1" "Ethernet4" = false ∧
        endpoint.targeted .ascii "leaf2" "Ethernet0" = false := by
    decide +kernel
  refine endpoint_symmetry asciiEvaluator (fun _ => .ok smallClos) smallClos
    (smallClos.links.take 1) (smallClos.links.drop 2)
    { kind := "fabric", endpoints := (⟨"spine1", "eth2"⟩, ⟨"leaf2", "eth1"⟩) }
    "topology" "link_flapping" "Ethernet4" "Ethernet0" (by decide) (by decide) rfl rfl
    ⟨_, rfl, by decide⟩ ⟨_, rfl, by decide⟩ (by decide) spinePort leafPort ?_ ?_
  · intro link mem endpoint listed
    rw [List.mem_singleton.mp mem] at listed
    exact (first endpoint listed).1
  · intro link mem endpoint listed
    rw [List.mem_singleton.mp mem] at listed
    exact (first endpoint listed).2

/-- The small fabric with a spine of two line cards, whose ports have one number each. -/
def cardsTopology : Topology :=
  { smallClosTopology with
    links :=
      [{ kind := "fabric", endpoints := (⟨"spine1", "e1-1"⟩, ⟨"leaf1", "eth1"⟩) },
        { kind := "fabric", endpoints := (⟨"spine1", "e2-1"⟩, ⟨"leaf2", "eth1"⟩) }] }

def cards : TopologyManifest := { cardsTopology with valid := by decide +kernel }

/-- The second card's port is taken for the first one's, so its far end is not accepted from there. -/
theorem endpoint_asymmetry :
    ∃ leftTruth rightTruth,
      ({ kind := "fabric", endpoints := (⟨"spine1", "e2-1"⟩, ⟨"leaf2", "eth1"⟩) } : Link) ∈
        cards.links ∧
      OnSwitch cards ⟨"spine1", "e2-1"⟩ ∧ OnSwitch cards ⟨"leaf2", "eth1"⟩ ∧
      buildEpisodeGroundTruth .ascii (fun _ => .ok cards)
          ⟨some "link_down", some "spine1", some "e2-1"⟩ (some "topology") = .ok leftTruth ∧
      buildEpisodeGroundTruth .ascii (fun _ => .ok cards)
          ⟨some "link_down", some "leaf2", some "eth1"⟩ (some "topology") = .ok rightTruth ∧
      ¬ (asciiEvaluator.evaluate
          { verdict := "fault_detected", location := some ⟨some "leaf2", some "Ethernet0"⟩ }
          (some leftTruth) "case").Agrees
        (asciiEvaluator.evaluate
          { verdict := "fault_detected", location := some ⟨some "leaf2", some "Ethernet0"⟩ }
          (some rightTruth) "case") := by
  refine ⟨{ faultType := some "link_down", location := ⟨some "spine1", some "e2-1"⟩
            equivalentLocations := [some ⟨some "leaf1", some "Ethernet0"⟩] },
    { faultType := some "link_down", location := ⟨some "leaf2", some "eth1"⟩
      equivalentLocations := [some ⟨some "spine1", some "Ethernet0"⟩] },
    by decide, ⟨_, rfl, by decide⟩, ⟨_, rfl, by decide⟩, by decide +kernel, by decide +kernel, ?_⟩
  intro agrees
  have device := agrees.2.1
  revert device
  decide +kernel

end NetOpsBench
