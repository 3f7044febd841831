import NetOpsBench.Pingmesh.PlannerFrames
import NetOpsBench.Scenario.Placement

/-!
# Clean controls

Every placement of a benchmark keeps its control out of the fault's reach (`placements_clean`):
what the fault affects is in the scope of its type (`inScope_of_affects`), and what may be a
control is not (`not_inScope_of_eligible`). Both ask for candidate paths, but not in the same
direction; the distances of the fabric are the same both ways.
-/

namespace NetOpsBench

open Fallible

/-! ## Scopes -/

/-- The probes that a fault is meant to reach, given its anchor. -/
inductive ProbeScope : Type where
  | source
  | forward
  | eitherWay
  | destination

def FaultType.probeScope : FaultType → ProbeScope
  | .aclSourceMisconfig => .source
  | .aclL4PortMisconfig => .forward
  | .packetLoss | .packetCorruption | .highLatency | .mtuMismatch => .eitherWay
  | _ => .destination

/-- The fault counts on the way of the probe. -/
def ProbeScope.Forth (anchor pair : ProbePair) : ProbeScope → Prop
  | .source => pair.1 = anchor.1
  | .forward => True
  | .eitherWay => True
  | .destination => pair.2 = anchor.2

/-- The fault counts on the way of the answer. -/
def ProbeScope.Back (anchor pair : ProbePair) : ProbeScope → Prop
  | .source => pair.2 = anchor.1
  | .forward => False
  | .eitherWay => True
  | .destination => pair.1 = anchor.2

/-- The device, or the link in the direction of the routes, that a fault sits on. -/
def rootElement (fault : FaultType) (root : String) (peer : Option String) (reverse : Bool) :
    Option String × Option String :=
  if fault = .routingLoop then (some root, none)
  else if reverse then (peer, some root)
  else (some root, peer)

/-- A candidate path of the pair, there or back as the scope says, goes through the element. -/
def CandidatePaths.InScope (paths : CandidatePaths) (scope : ProbeScope)
    (element : Option String × Option String) (anchor pair : ProbePair) : Prop :=
  scope.Forth anchor pair ∧ paths.contains pair.1 pair.2 element.1 element.2 = .ok true ∨
    scope.Back anchor pair ∧ paths.contains pair.2 pair.1 element.1 element.2 = .ok true

/-- What a placement owes: all its pairs are planned, each that it affects besides the anchor is
in the scope of the fault, and its control is not affected. -/
structure Placement.Clean (placement : Placement) (paths : CandidatePaths) (plan : PingmeshPlan)
    (unit : CoverageUnit) : Prop where
  planned : ∀ pair ∈ placement.witnesses, pair ∈ plan.pairs
  affected : ∃ anchor others, placement.witnesses = anchor :: others ∧
    ∀ pair ∈ others, paths.InScope unit.faultType.probeScope
      (rootElement unit.faultType placement.device placement.peer unit.reverse) anchor pair
  control : ∃ control, placement.controls = [control] ∧ control ∈ plan.pairs ∧
    control ∉ placement.witnesses

namespace CandidatePaths

variable {paths : CandidatePaths} {fault : FaultType} {root src dst name : String}
  {peer : Option String} {anchor pair : ProbePair} {reverse : Bool}

theorem probeScope_of_notMem (fault : FaultType)
    (other : fault ∉ .aclSourceMisconfig :: .aclL4PortMisconfig :: impairments) :
    fault.probeScope = .destination := by
  cases fault <;> first | rfl | exact absurd (by decide) other

theorem probeScope_impairment (isImpairment : fault ∈ impairments) :
    fault.probeScope = .eitherWay := by
  cases fault <;> first | rfl | exact absurd isImpairment (by decide)

/-- Apart from route faults, the element is the root with its peer. -/
theorem rootElement_straight (forward : reverse = true → fault ∈ destinationFaults)
    (other : fault ∉ destinationFaults) :
    rootElement fault root peer reverse = (some root, peer) := by
  have noLoop : fault ≠ .routingLoop := by
    rintro rfl
    exact other (by decide)
  have noReverse : reverse = false :=
    Bool.eq_false_iff.mpr fun isReverse => other (forward isReverse)
  rw [rootElement, if_neg noLoop, noReverse]
  rfl

/-- A fault is felt in its scope. -/
theorem inScope_of_feels (forward : reverse = true → fault ∈ destinationFaults)
    {there back : Bool} (isThere : paths.contains pair.1 pair.2 (some root) peer = .ok there)
    (isBack : paths.contains pair.2 pair.1 (some root) peer = .ok back)
    (felt : paths.feels fault root peer anchor reverse pair there back = .ok true) :
    paths.InScope fault.probeScope (rootElement fault root peer reverse) anchor pair := by
  unfold feels at felt
  dsimp only at felt
  split at felt
  · rename_i isSource
    subst isSource
    rw [rootElement_straight forward (by decide)]
    rcases Bool.or_eq_true_iff.mp (Except.ok.inj felt) with out | answer
    · rw [Bool.and_eq_true, decide_eq_true_eq] at out
      exact .inl ⟨out.1, out.2 ▸ isThere⟩
    · rw [Bool.and_eq_true, decide_eq_true_eq] at answer
      exact .inr ⟨answer.1, answer.2 ▸ isBack⟩
  · rename_i notSource
    split at felt
    · rename_i isPort
      subst isPort
      rw [rootElement_straight forward (by decide)]
      exact .inl ⟨trivial, Except.ok.inj felt ▸ isThere⟩
    · rename_i notPort
      split at felt
      · rename_i isImpairment
        have plain : fault ∉ destinationFaults := by
          revert isImpairment
          cases fault <;> decide
        rw [rootElement_straight forward plain, probeScope_impairment isImpairment]
        rcases Bool.or_eq_true_iff.mp (Except.ok.inj felt) with out | answer
        · exact .inl ⟨trivial, out ▸ isThere⟩
        · exact .inr ⟨trivial, answer ▸ isBack⟩
      · rename_i noImpairment
        have isOther : fault ∉ .aclSourceMisconfig :: .aclL4PortMisconfig :: impairments := by
          rw [List.mem_cons, List.mem_cons, not_or, not_or]
          exact ⟨notSource, notPort, noImpairment⟩
        rw [probeScope_of_notMem fault isOther]
        split at felt
        · rename_i isLoop
          subst isLoop
          rcases either_eq_true felt with out | answer
          · obtain ⟨meets, passes⟩ := both_eq_true.mp out
            have isDestination : pair.2 = anchor.2 := of_decide_eq_true meets
            exact .inl ⟨isDestination, passes⟩
          · obtain ⟨meets, passes⟩ := both_eq_true.mp answer
            have isSource : pair.1 = anchor.2 := of_decide_eq_true meets
            exact .inr ⟨isSource, passes⟩
        · rename_i noLoop
          -- towards the root or away from it, both ways are asked for the same element
          have asked : ∃ member returning,
              (paths.contains pair.1 pair.2 (rootElement fault root peer reverse).1
                (rootElement fault root peer reverse).2 = .ok member ∧
              paths.contains pair.2 pair.1 (rootElement fault root peer reverse).1
                (rootElement fault root peer reverse).2 = .ok returning) ∧
              (.ok (pair.2 = anchor.2 && member || pair.1 = anchor.2 && returning) :
                Except String Bool) = .ok true := by
            rw [rootElement, if_neg noLoop]
            cases reverse with
            | true =>
                obtain ⟨member, isMember, felt⟩ := bind_eq_ok.mp felt
                obtain ⟨returning, isReturning, felt⟩ := bind_eq_ok.mp felt
                exact ⟨member, returning, ⟨isMember, isReturning⟩, felt⟩
            | false => exact ⟨there, back, ⟨isThere, isBack⟩, felt⟩
          obtain ⟨member, returning, element, felt⟩ := asked
          rcases Bool.or_eq_true_iff.mp (Except.ok.inj felt) with out | answer
          · rw [Bool.and_eq_true, decide_eq_true_eq] at out
            exact .inl ⟨out.1, out.2 ▸ element.1⟩
          · rw [Bool.and_eq_true, decide_eq_true_eq] at answer
            exact .inr ⟨answer.1, answer.2 ▸ element.2⟩

/-- What `affected_pairs` adds is in the scope of the fault. -/
theorem inScope_of_affects (forward : reverse = true → fault ∈ destinationFaults)
    (added : paths.affects fault root peer anchor reverse pair = .ok true) :
    pair ≠ anchor ∧
      paths.InScope fault.probeScope (rootElement fault root peer reverse) anchor pair := by
  unfold affects at added
  dsimp only at added
  split at added
  · cases added
  · rename_i apart
    split at added
    · cases added
    · split at added
      · cases added
      · obtain ⟨there, isThere, added⟩ := bind_eq_ok.mp added
        obtain ⟨back, isBack, added⟩ := bind_eq_ok.mp added
        exact ⟨apart, inScope_of_feels forward isThere isBack added⟩

/-! ## Controls -/

theorem depth_eq_ok {distances : Dict String Nat} {n : Nat} :
    depth distances (some name) = .ok n ↔ distances.get name = some n := by
  unfold depth
  dsimp only
  split
  · rename_i unknown
    rw [unknown]
    constructor <;> intro impossible <;> cases impossible
  · rename_i m known
    rw [known, Option.some.injEq]
    exact ⟨Except.ok.inj, congrArg Except.ok⟩

/-- Without a peer in the fabric, a pair is contained where the distances through the root add
up. -/
theorem contains_through (noClient : peer.any paths.isClient = false)
    (noPeer : paths.fabricPeer peer = none) :
    paths.contains src dst (some root) peer = .ok true ↔ ∃ source target,
      paths.attachedSwitch src = .ok source ∧ paths.attachedSwitch dst = .ok target ∧
        paths.Through source target root := by
  unfold contains
  simp only [bind_eq_ok, noClient, noPeer, Bool.false_eq_true, if_false, depth_eq_ok, Through,
    Except.ok.injEq, decide_eq_true_eq]
  constructor
  · rintro ⟨source, isSource, target, isTarget, i, there, j, back, n, whole, sum⟩
    exact ⟨source, target, isSource, isTarget, i, j, n, there, back, whole, sum⟩
  · rintro ⟨source, target, isSource, isTarget, i, j, n, there, back, whole, sum⟩
    exact ⟨source, isSource, target, isTarget, i, there, j, back, n, whole, sum⟩

theorem fabricPeer_cases {q : String} (isPeer : paths.fabricPeer peer = some q) :
    peer = some q ∧ q ≠ "" ∧ paths.isClient q = false := by
  obtain ⟨isSome, holds⟩ := Option.filter_eq_some_iff.mp isPeer
  rw [Bool.and_eq_true, decide_eq_true_eq, Bool.not_eq_true'] at holds
  exact ⟨isSome, holds⟩

/-- With one, where the distances over the link add up. -/
theorem contains_across {q : String} (isPeer : paths.fabricPeer peer = some q) :
    paths.contains src dst (some root) peer = .ok true ↔ ∃ source target,
      paths.attachedSwitch src = .ok source ∧ paths.attachedSwitch dst = .ok target ∧
        paths.Across source target root q := by
  obtain ⟨rfl, -, noClient⟩ := fabricPeer_cases isPeer
  unfold contains
  simp only [bind_eq_ok, Option.any_some, noClient, isPeer, Bool.false_eq_true, if_false,
    depth_eq_ok, Across, Except.ok.injEq, decide_eq_true_eq]
  constructor
  · rintro ⟨source, isSource, target, isTarget, i, there, j, back, n, whole, sum⟩
    exact ⟨source, target, isSource, isTarget, i, j, n, there, back, whole, sum⟩
  · rintro ⟨source, target, isSource, isTarget, i, j, n, there, back, whole, sum⟩
    exact ⟨source, isSource, target, isTarget, i, there, j, back, n, whole, sum⟩

/-- A client as the peer: only its own probes are contained. -/
theorem dst_of_contains {other : Option String} (isClient : peer.any paths.isClient = true)
    (inside : paths.contains src dst other peer = .ok true) : some dst = peer := by
  unfold contains at inside
  simp only [bind_eq_ok, isClient, if_true, Except.ok.injEq, Bool.and_eq_true,
    decide_eq_true_eq] at inside
  obtain ⟨_, -, _, -, same, -⟩ := inside
  exact same

/-- Through a device, the way back is contained where the way there is. -/
theorem contains_comm (noClient : peer.any paths.isClient = false)
    (noPeer : paths.fabricPeer peer = none)
    (back : paths.contains dst src (some root) peer = .ok true) :
    paths.contains src dst (some root) peer = .ok true := by
  obtain ⟨target, source, isTarget, isSource, through⟩ := (contains_through noClient noPeer).mp back
  exact (contains_through noClient noPeer).mpr ⟨source, target, isSource, isTarget, through.symm⟩

/-- Over a link, it is contained where the way there is over the link the other way round. -/
theorem contains_back {q : String} (isPeer : paths.fabricPeer peer = some q)
    (noClient : paths.isClient root = false) (edge : root ≠ q → paths.fabric.Adj root q)
    (back : paths.contains dst src (some root) peer = .ok true) :
    paths.contains src dst peer (some root) = .ok true := by
  obtain ⟨target, source, isTarget, isSource, across⟩ := (contains_across isPeer).mp back
  obtain ⟨rfl, nonempty, -⟩ := fabricPeer_cases isPeer
  by_cases named : root = ""
  · -- a root without a name does not count as a peer, and is asked for as if there were none
    have noPeer : paths.fabricPeer (some root) = none :=
      Option.filter_eq_none_iff.mpr fun name isName => by
        rw [← Option.some.inj isName, named]
        simp
    have apart : root ≠ q := fun same => nonempty (same.symm.trans named)
    have through := (across.through (edge apart)).2
    exact (contains_through (by rw [Option.any_some, noClient]) noPeer).mpr
      ⟨source, target, isSource, isTarget, through.symm⟩
  · have isRoot : paths.fabricPeer (some root) = some root := by
      apply Option.filter_eq_some_iff.mpr
      refine ⟨rfl, ?_⟩
      rw [noClient]
      simpa using named
    exact (contains_across isRoot).mpr ⟨source, target, isSource, isTarget, across.symm⟩

end CandidatePaths

namespace CandidateIndex

open CandidatePaths

variable {index : CandidateIndex} {unit : CoverageUnit} {fault : FaultType} {root : String}
  {peer : Option String} {affected pair : ProbePair} {reverse : Bool}

/-- What a fault relies on at its place: the root is a switch, a fabric peer is its neighbor, the
faults of a device have no peer, and only route faults are reversed. -/
structure Placed (index : CandidateIndex) (fault : FaultType) (root : String) (peer : Option String)
    (reverse : Bool) : Prop where
  switch : index.isClient root = false
  edge : ∀ q, index.fabricPeer peer = some q → root ≠ q → index.fabric.Adj root q
  plain : fault ∈ deviceFaults → peer = none
  forward : reverse = true → fault ∈ destinationFaults

/-- Outside the scopes by an end of the anchor and the devices, a control is neither over the link
there nor back. -/
theorem not_contains_of_eligible (placed : Placed index fault root peer reverse)
    (noSource : fault ≠ .aclSourceMisconfig)
    (noDestination : ¬ (fault = .aclDestinationMisconfig ∨ fault ∈ destinationFaults))
    (holds : index.eligible fault root peer affected pair = .ok true) :
    index.contains pair.1 pair.2 (some root) peer ≠ .ok true ∧
      index.contains pair.2 pair.1 (some root) peer ≠ .ok true := by
  unfold eligible at holds
  dsimp only at holds
  by_cases same : pair = affected
  · rw [if_pos same] at holds
    cases holds
  rw [if_neg same, if_neg noSource, if_neg noDestination] at holds
  by_cases isDevice : fault ∈ deviceFaults
  · rw [if_pos isDevice] at holds
    obtain rfl := placed.plain isDevice
    have outside := negate_eq_true.mp holds
    constructor
    · intro inside
      rw [outside] at inside
      cases inside
    · intro inside
      rw [contains_comm rfl rfl inside] at outside
      cases outside
  rw [if_neg isDevice] at holds
  obtain ⟨outside, isOutside, holds⟩ := bind_eq_ok.mp holds
  by_cases isClient : peer.any index.isClient = true
  · -- an access link: the control leaves its client alone
    have noFabric : (index.fabricPeer peer).isSome = false := by
      cases named : index.fabricPeer peer with
      | none => rfl
      | some q =>
          obtain ⟨rfl, -, switch⟩ := fabricPeer_cases named
          rw [Option.any_some, switch] at isClient
          cases isClient
    rw [noFabric, if_neg Bool.false_ne_true] at holds
    have holds : (if peer.any index.isClient = true then
        outside && peer ≠ some pair.1 && peer ≠ some pair.2 else outside) = true :=
      Except.ok.inj holds
    rw [if_pos isClient, Bool.and_eq_true, Bool.and_eq_true, decide_eq_true_eq,
      decide_eq_true_eq] at holds
    constructor
    · intro inside
      exact holds.2 (dst_of_contains isClient inside).symm
    · intro inside
      exact holds.1.2 (dst_of_contains isClient inside).symm
  · have noClient : peer.any index.isClient = false := Bool.eq_false_iff.mpr isClient
    cases named : index.fabricPeer peer with
    | none =>
        rw [named, Option.isSome_none, if_neg Bool.false_ne_true] at holds
        have holds : (if peer.any index.isClient = true then
            outside && peer ≠ some pair.1 && peer ≠ some pair.2 else outside) = true :=
          Except.ok.inj holds
        rw [if_neg isClient] at holds
        have fails := negate_eq_true.mp (holds ▸ isOutside)
        constructor
        · intro inside
          rw [fails] at inside
          cases inside
        · intro inside
          rw [contains_comm noClient named inside] at fails
          cases fails
    | some q =>
        rw [named, Option.isSome_some, if_pos rfl] at holds
        obtain ⟨still, isStill, holds⟩ := bind_eq_ok.mp holds
        have holds : (if peer.any index.isClient = true then
            still && peer ≠ some pair.1 && peer ≠ some pair.2 else still) = true :=
          Except.ok.inj holds
        rw [if_neg isClient] at holds
        obtain ⟨isTrue, backFails⟩ := both_eq_true.mp (holds ▸ isStill)
        have fails := negate_eq_true.mp (isTrue ▸ isOutside)
        constructor
        · intro inside
          rw [fails] at inside
          cases inside
        · intro inside
          have crossed := contains_back named placed.switch (placed.edge q named) inside
          rw [negate_eq_true.mp backFails] at crossed
          cases crossed

/-- A control is not in the scope of the fault. -/
theorem not_inScope_of_eligible (placed : Placed index fault root peer reverse)
    (holds : index.eligible fault root peer affected pair = .ok true) :
    pair ≠ affected ∧ ¬ index.InScope fault.probeScope (rootElement fault root peer reverse)
      affected pair := by
  have apart : pair ≠ affected := by
    rintro rfl
    unfold eligible at holds
    dsimp only at holds
    rw [if_pos rfl] at holds
    cases holds
  refine ⟨apart, ?_⟩
  by_cases isSource : fault = .aclSourceMisconfig
  · subst isSource
    unfold eligible at holds
    dsimp only at holds
    rw [if_neg apart, if_pos rfl] at holds
    have ends := (both_eq_true.mp holds).1
    rw [Bool.and_eq_true, decide_eq_true_eq, decide_eq_true_eq] at ends
    rintro (⟨forth, -⟩ | ⟨back, -⟩)
    · exact ends.1 (Eq.symm forth)
    · exact ends.2 (Eq.symm back)
  · by_cases isDestination : fault = .aclDestinationMisconfig ∨ fault ∈ destinationFaults
    · have other : fault ∉ .aclSourceMisconfig :: .aclL4PortMisconfig :: impairments := by
        revert isDestination
        cases fault <;> decide
      unfold eligible at holds
      dsimp only at holds
      rw [if_neg apart, if_neg isSource, if_pos isDestination] at holds
      have ends : (pair.2 ≠ affected.2 && pair.1 ≠ affected.2) = true := Except.ok.inj holds
      rw [Bool.and_eq_true, decide_eq_true_eq, decide_eq_true_eq] at ends
      rw [probeScope_of_notMem fault other]
      rintro (⟨forth, -⟩ | ⟨back, -⟩)
      · exact ends.1 forth
      · exact ends.2 back
    · have outside := not_contains_of_eligible placed isSource isDestination holds
      rw [rootElement_straight placed.forward fun mem => isDestination (.inr mem)]
      rintro (⟨-, forth⟩ | ⟨-, back⟩)
      · exact outside.1 forth
      · exact outside.2 back

/-! ## Placements -/

/-- A placement comes from a root and a peer that were tried. -/
theorem place_attempt {uses uses' : Uses} {placement : Placement}
    (done : index.place unit uses = .ok (placement, uses')) :
    ∃ roots, index.roots unit uses = .ok roots ∧ ∃ device ∈ roots,
      ∃ peer ∈ index.peers unit uses device.name,
        index.attempt unit device peer = .ok (some placement) := by
  unfold place at done
  obtain ⟨roots, isRoots, done⟩ := bind_eq_ok.mp done
  obtain ⟨found, isFound, done⟩ := bind_eq_ok.mp done
  cases found with
  | none => cases done
  | some both =>
      obtain ⟨device, chosen⟩ := both
      obtain ⟨after, -, done⟩ := bind_eq_ok.mp done
      obtain ⟨rfl, -⟩ := Prod.mk.inj (Except.ok.inj done)
      obtain ⟨root, isRoot, tried⟩ := exists_of_firstSome isFound
      obtain ⟨peer, isPeer, tried⟩ := exists_of_firstSome tried
      obtain ⟨result, isResult, tried⟩ := bind_eq_ok.mp tried
      obtain ⟨placement, isSome, same⟩ := Option.map_eq_some_iff.mp (Except.ok.inj tried)
      obtain ⟨rfl, rfl⟩ := Prod.mk.inj same
      exact ⟨roots, isRoots, root, isRoot, peer, isPeer, isSome ▸ isResult⟩

/-- The roots are switches. -/
theorem switch_of_roots {uses : Uses} {roots : List Device} {device : Device}
    (isRoots : index.roots unit uses = .ok roots) (mem : device ∈ roots) :
    index.isClient device.name = false := by
  unfold CandidateIndex.roots at isRoots
  obtain ⟨keyed, isKeyed, isRoots⟩ := bind_eq_ok.mp isRoots
  rw [← Except.ok.inj isRoots] at mem
  obtain ⟨⟨key, other⟩, inKeyed, rfl⟩ := List.mem_map.mp mem
  obtain ⟨candidate, isCandidate, keyOf⟩ := (mem_of_mapM isKeyed).mp (Sorting.mem_sorted.mp inKeyed)
  obtain ⟨_, -, keyOf⟩ := bind_eq_ok.mp keyOf
  obtain ⟨-, rfl⟩ := Prod.mk.inj (Except.ok.inj keyOf)
  obtain ⟨isDevice, role⟩ := List.mem_filter.mp (List.mem_filter.mp isCandidate).1
  apply decide_eq_false
  intro named
  obtain ⟨client, isClient, sameName⟩ := List.mem_map.mp named
  obtain ⟨isOther, clientRole⟩ := List.mem_filter.mp isClient
  have same : client = candidate :=
    List.inj_on_of_nodup_map index.manifest.deviceNames_nodup isOther isDevice sameName
  rw [same] at clientRole
  exact of_decide_eq_true role (of_decide_eq_true clientRole)

/-- The peers are at the ends of ports of the root. -/
theorem port_of_peers {uses : Uses} {q : String} (mem : some q ∈ index.peers unit uses root) :
    ∃ interface, index.ports.get (root, q) = some interface := by
  unfold peers at mem
  split at mem
  · cases List.mem_singleton.mp mem
  · obtain ⟨peer, isPeer, same⟩ := List.mem_map.mp mem
    obtain rfl := Option.some.inj same
    obtain ⟨⟨first, second⟩, isKey, rfl⟩ := List.mem_map.mp (Sorting.mem_sorted.mp isPeer)
    obtain ⟨isPort, holds⟩ := List.mem_filter.mp isKey
    rw [Bool.and_eq_true, decide_eq_true_eq] at holds
    obtain rfl : first = root := holds.1
    exact Dict.mem_keys.mp isPort

/-- A root and a peer that were tried for a unit of the catalog. -/
theorem placed_of_tried {uses : Uses} {roots : List Device} {device : Device}
    (placeable : unit.Placeable) (isRoots : index.roots unit uses = .ok roots)
    (isRoot : device ∈ roots) (isPeer : peer ∈ index.peers unit uses device.name) :
    Placed index unit.faultType device.name peer unit.reverse where
  switch := switch_of_roots isRoots isRoot
  edge q named apart := by
    obtain ⟨rfl, -, noClient⟩ := fabricPeer_cases named
    obtain ⟨interface, port⟩ := port_of_peers isPeer
    exact edge_of_port port (switch_of_roots isRoots isRoot) noClient apart
  plain isDevice := by
    unfold peers at isPeer
    rw [placeable.position isDevice] at isPeer
    exact List.mem_singleton.mp isPeer
  forward := placeable.reverse

theorem attempt_benchmark (benchmark : index.manifest.purpose = .benchmark) {device : Device}
    {placement : Placement} (done : index.attempt unit device peer = .ok (some placement)) :
    placement.device = device.name ∧ placement.peer = peer ∧ ∃ affected ∈ index.pairs,
      index.affectedPairs unit.faultType device.name peer affected unit.reverse =
        .ok placement.witnesses ∧ ∃ control ∈ index.pairs, placement.controls = [control] ∧
          index.eligible unit.faultType device.name peer affected control = .ok true := by
  unfold attempt at done
  obtain ⟨anchor, isAnchor, done⟩ := bind_eq_ok.mp done
  cases anchor with
  | none => cases Except.ok.inj done
  | some found =>
      obtain ⟨affected, prefixText, parameters⟩ := found
      obtain ⟨witnesses, isWitnesses, done⟩ := bind_eq_ok.mp done
      obtain ⟨chosen, isChosen, done⟩ := bind_eq_ok.mp done
      have planned : affected ∈ index.pairs := by
        obtain ⟨pair, isPair, offered⟩ := exists_of_firstSome isAnchor
        obtain ⟨hops, -, offered⟩ := bind_eq_ok.mp offered
        cases hops with
        | none => cases Except.ok.inj offered
        | some hops =>
            obtain ⟨result, -, offered⟩ := bind_eq_ok.mp offered
            obtain ⟨_, -, same⟩ := Option.map_eq_some_iff.mp (Except.ok.inj offered)
            exact (Prod.mk.inj same).1 ▸ isPair
      cases chosen with
      | none =>
          rw [benchmark] at done
          cases Except.ok.inj done
      | some control =>
          obtain ⟨pair, isPair, holds⟩ := exists_of_firstSome isChosen
          obtain ⟨passes, isPasses, holds⟩ := bind_eq_ok.mp holds
          have picked : (if passes then some pair else none) = some control := Except.ok.inj holds
          cases passes with
          | false => cases picked
          | true =>
              obtain rfl := Option.some.inj picked
              obtain rfl := Option.some.inj (Except.ok.inj done)
              exact ⟨rfl, rfl, affected, planned, isWitnesses, pair, isPair, rfl, isPasses⟩

/-- Every placement for a unit of the catalog is clean. -/
theorem place_clean {plan : PingmeshPlan} (planned : index.pairs ⊆ plan.pairs)
    (benchmark : index.manifest.purpose = .benchmark) (placeable : unit.Placeable)
    {uses uses' : Uses} {placement : Placement}
    (done : index.place unit uses = .ok (placement, uses')) :
    placement.Clean index.toCandidatePaths plan unit := by
  obtain ⟨roots, isRoots, device, isRoot, peer, isPeer, tried⟩ := place_attempt done
  have placed := placed_of_tried placeable isRoots isRoot isPeer
  obtain ⟨isDevice, samePeer, affected, isPlanned, isWitnesses, control, isControl, controls,
    holds⟩ := attempt_benchmark benchmark tried
  obtain ⟨found, isFound, witnesses⟩ := bind_eq_ok.mp isWitnesses
  have witnesses : affected :: found = placement.witnesses := Except.ok.inj witnesses
  have inScope : ∀ pair ∈ found, pair ∈ index.pairs ∧ index.InScope unit.faultType.probeScope
      (rootElement unit.faultType device.name peer unit.reverse) affected pair := by
    intro pair mem
    obtain ⟨isPair, affects⟩ := (mem_select isFound).mp mem
    exact ⟨isPair, (inScope_of_affects placed.forward affects).2⟩
  have outside := not_inScope_of_eligible placed holds
  refine ⟨?_, ⟨affected, found, witnesses.symm, ?_⟩, control, controls, planned isControl, ?_⟩
  · intro pair mem
    rw [← witnesses] at mem
    rcases List.mem_cons.mp mem with rfl | later
    · exact planned isPlanned
    · exact planned (inScope pair later).1
  · intro pair mem
    rw [isDevice, samePeer]
    exact (inScope pair mem).2
  · intro mem
    rw [← witnesses] at mem
    rcases List.mem_cons.mp mem with same | later
    · exact outside.1 same
    · exact outside.2 (inScope control later).2

theorem placeAll_clean {plan : PingmeshPlan} (planned : index.pairs ⊆ plan.pairs)
    (benchmark : index.manifest.purpose = .benchmark) {units : List CoverageUnit}
    (placeable : ∀ unit ∈ units, unit.Placeable) {uses : Uses}
    {rows : List (CoverageUnit × Placement)} (done : index.placeAll uses units = .ok rows) :
    ∀ row ∈ rows, row.2.Clean index.toCandidatePaths plan row.1 := by
  induction units generalizing uses rows with
  | nil =>
      rw [← Except.ok.inj done]
      exact fun _ mem => (List.not_mem_nil mem).elim
  | cons unit units ih =>
      obtain ⟨⟨placement, after⟩, isPlacement, done⟩ := bind_eq_ok.mp done
      obtain ⟨later, isLater, done⟩ := bind_eq_ok.mp done
      rw [← Except.ok.inj done]
      intro row mem
      rcases List.mem_cons.mp mem with rfl | inLater
      · exact place_clean planned benchmark (placeable unit List.mem_cons_self) isPlacement
      · exact ih (fun unit mem => placeable unit (List.mem_cons_of_mem _ mem)) isLater row inLater

end CandidateIndex

/-- In a benchmark with a plan, whatever the seed, each placement for units of the catalog has
planned pairs only, affects pairs in the scope of its fault, and has a control outside. -/
theorem placements_clean (tables : NameTables) (shuffle : Shuffle) (topo : TopologyContext)
    (plan : PingmeshPlan) (compiled : topo.manifest.pingmeshPlan = some plan)
    (benchmark : topo.manifest.purpose = .benchmark) (seed : Int) (units : List CoverageUnit)
    (known : ∀ unit ∈ units, unit ∈ coverageUnits topo.manifest.family false)
    (rows : List (CoverageUnit × Placement))
    (done : placements tables shuffle topo seed units = .ok rows) :
    let paths : CandidatePaths := ⟨topo.manifest, tables, shuffle.run seed plan.pairs⟩
    ∀ row ∈ rows, row.2.Clean paths plan row.1 := by
  intro paths
  obtain ⟨index, isIndex, done⟩ := bind_eq_ok.mp done
  obtain ⟨found, isFound, isIndex⟩ := bind_eq_ok.mp isIndex
  obtain ⟨plan', isPlan, isFound⟩ := bind_eq_ok.mp isFound
  have samePlan : plan' = plan := by
    unfold TopologyManifest.requirePingmeshPlan at isPlan
    rw [compiled] at isPlan
    exact (Except.ok.inj isPlan).symm
  subst samePlan
  obtain rfl := Except.ok.inj isFound
  obtain rfl := Except.ok.inj isIndex
  exact CandidateIndex.placeAll_clean (shuffle.perm seed plan'.pairs).subset benchmark
    (fun unit mem => unit_placeable (known unit mem)) done

/-! ## The spine of the small fabric -/

/-- The order into which six pairs are shuffled with the seed 42. -/
def shuffleSix : Shuffle where
  run _ pairs :=
    match pairs with
    | [a, b, c, d, e, f] => [d, b, c, e, a, f]
    | pairs => pairs
  perm _ pairs := by
    split
    · rename_i a b c d e f
      have front : [d, b, c, e, a, f].Perm (a :: [d, b, c, e, f]) :=
        @List.perm_middle _ a [d, b, c, e] [f]
      exact front.trans ((@List.perm_middle _ d [b, c] [e, f]).symm.cons a)
    · exact .refl _

/-- The small fabric with its compiled plan. -/
def plannedClos : TopologyManifest :=
  { smallClosTopology with
    pingmeshPlan := (compilePingmeshPlan smallClos).toOption
    valid := by decide +kernel }

def spineUnits : List CoverageUnit :=
  [{ faultType := .deviceDown, role := "spine" }, { faultType := .blackholeRoute, role := "spine" }]

theorem placements_clean_spine :
    ∃ plan, plannedClos.pingmeshPlan = some plan ∧
      ∃ rows, placements .ascii shuffleSix ⟨plannedClos, .empty⟩ 42 spineUnits = .ok rows ∧
        rows.length = 2 ∧
        ∀ row ∈ rows,
          row.2.Clean ⟨plannedClos, .ascii, shuffleSix.run 42 plan.pairs⟩ plan row.1 := by
  obtain ⟨plan, compiles⟩ := smallClos_compiles
  have compiled : plannedClos.pingmeshPlan = some plan := by
    change (compilePingmeshPlan smallClos).toOption = some plan
    rw [compiles]
    rfl
  have succeeds : succeedsWith (placements .ascii shuffleSix ⟨plannedClos, .empty⟩ 42 spineUnits)
      fun rows => decide (rows.length = 2) := by decide +kernel
  obtain ⟨rows, done, both⟩ := succeedsWith_eq_true.mp succeeds
  have known : ∀ unit ∈ spineUnits, unit ∈ coverageUnits .clos false := by decide +kernel
  exact ⟨plan, compiled, rows, done, of_decide_eq_true both,
    placements_clean .ascii shuffleSix ⟨plannedClos, .empty⟩ plan compiled rfl 42 spineUnits known
      rows done⟩

end NetOpsBench
