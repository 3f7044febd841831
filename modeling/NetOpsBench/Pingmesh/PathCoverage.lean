import NetOpsBench.Lib.Groups
import NetOpsBench.Pingmesh.PathWalk
import NetOpsBench.Scenario.Controls

/-!
# Candidate coverage and candidate paths

The compiler counts witnesses rack pair by rack pair; the placements ask `contains` pair by pair.
The two agree (`coverage_counts`): a pair of racks counts as often as it has pairs of clients, and
all of these have the same candidate paths.
-/

namespace NetOpsBench

open Fallible Pairs

/-! ## Pairs of racks -/

section RackPairs

variable {policy : PingmeshPolicy} {clients : List Device} {m m' : Matching}

/-- The two racks of an iteration of the rack pair loop are `left` and `right`. -/
def joins (left right : String)
    (pair : ((String × List String) × Nat) × ((String × List String) × Nat)) : Prop :=
  (pair.1.1.1, pair.2.1.1) = (left, right) ∨ (pair.1.1.1, pair.2.1.1) = (right, left)

/-- The rack pair loop counts the pairs of racks that it comes to, as the policy says. -/
theorem matchRackPairs_counts
    {pairs : List (((String × List String) × Nat) × ((String × List String) × Nat))}
    (indexed : ∀ pair ∈ pairs, ∃ left right i j,
      pair = (indexedRack clients left i, indexedRack clients right j))
    (done : pairs.foldlM (matchRackPair policy) m = .ok m') (left right : String) :
    ((∃ pair ∈ pairs, joins left right pair) ∧
        m'.rackPairCounts (left, right) = policy.pairCount clients left right) ∨
      (∀ pair ∈ pairs, ¬ joins left right pair) ∧
        m'.rackPairCounts (left, right) = m.rackPairCounts (left, right) := by
  induction pairs generalizing m with
  | nil =>
      rw [List.foldlM_nil, pure_eq_ok] at done
      subst done
      exact .inr ⟨by simp, rfl⟩
  | cons pair pairs ih =>
      rw [List.foldlM_cons, bind_eq_ok] at done
      obtain ⟨next, first, rest⟩ := done
      rcases ih (fun pair mem => indexed pair (List.mem_cons_of_mem _ mem)) rest with
        ⟨⟨other, mem, joined⟩, counted⟩ | ⟨apart, same⟩
      · exact .inl ⟨⟨other, List.mem_cons_of_mem _ mem, joined⟩, counted⟩
      · obtain ⟨one, two, i, j, rfl⟩ := indexed pair List.mem_cons_self
        simp only [matchRackPair, bind_eq_ok, reject_eq_ok, pure_eq_ok] at first
        obtain ⟨_, -, rfl⟩ := first
        by_cases joined : joins left right (indexedRack clients one i, indexedRack clients two j)
        · refine .inl ⟨⟨_, List.mem_cons_self, joined⟩, same.trans ?_⟩
          rcases joined with forth | back
          · obtain ⟨rfl, rfl⟩ := Prod.mk.inj forth
            dsimp only [indexedRack]
            rw [Function.update_apply]
            split
            · rfl
            · exact Function.update_self ..
          · obtain ⟨rfl, rfl⟩ := Prod.mk.inj back
            rw [PingmeshPolicy.pairCount_comm]
            exact Function.update_self ..
        · refine .inr ⟨List.forall_mem_cons.mpr ⟨joined, apart⟩, same.trans ?_⟩
          have forth : (left, right) ≠ (one, two) := fun eq => joined (.inl eq.symm)
          have back : (left, right) ≠ (two, one) := by
            intro eq
            obtain ⟨rfl, rfl⟩ := Prod.mk.inj eq
            exact joined (.inr rfl)
          exact (Function.update_of_ne back ..).trans (Function.update_of_ne forth ..)

theorem mem_keys_racksOf {rack : String} :
    rack ∈ (racksOf clients).keys ↔ rackMembers clients rack ≠ [] := by
  rw [Dict.mem_keys]
  constructor
  · rintro ⟨names, found⟩
    obtain ⟨rfl, some⟩ := (racksOf_spec ..).mp found
    exact some
  · intro some
    exact ⟨_, (racksOf_spec ..).mpr ⟨rfl, some⟩⟩

/-- Two different racks count as often as the policy says, a rack and itself not at all. -/
theorem matchRacks_counts (done : matchRacks policy (racksOf clients) = .ok m)
    {left right : String} (isLeft : left ∈ (racksOf clients).keys)
    (isRight : right ∈ (racksOf clients).keys) :
    m.rackPairCounts (left, right) =
      if left = right then 0 else policy.pairCount clients left right := by
  have indexed : ∀ pair ∈ combinations2 (racksOf clients).entries.zipIdx, ∃ left right i j,
      pair = (indexedRack clients left i, indexedRack clients right j) := by
    intro pair mem
    obtain ⟨one, two, i, j, -, same, -⟩ := mem_rackPairs mem
    exact ⟨one, two, i, j, same⟩
  rcases matchRackPairs_counts indexed done left right with ⟨⟨pair, mem, joined⟩, counted⟩ |
    ⟨apart, same⟩
  · obtain ⟨one, two, i, j, differ, rfl, -⟩ := mem_rackPairs mem
    have differ : left ≠ right := by
      rcases joined with forth | back
      · obtain ⟨rfl, rfl⟩ := Prod.mk.inj forth
        exact differ
      · obtain ⟨rfl, rfl⟩ := Prod.mk.inj back
        exact differ.symm
    rw [if_neg differ, counted]
  · rw [same]
    split
    · rfl
    · rename_i differ
      obtain ⟨i, atLeft⟩ := exists_indexed (mem_keys_racksOf.mp isLeft)
      obtain ⟨j, atRight⟩ := exists_indexed (mem_keys_racksOf.mp isRight)
      have distinct : indexedRack clients left i ≠ indexedRack clients right j := fun eq =>
        differ (congrArg (fun entry => entry.1.1) eq)
      rcases combinations2_complete atLeft atRight distinct with mem | mem
      · exact absurd (.inl rfl) (apart _ mem)
      · exact absurd (.inr rfl) (apart _ mem)

end RackPairs

/-! ## Witnesses of the links between switches -/

namespace CandidatePaths

variable {paths : CandidatePaths} {racks : Racks} {counts : String × String → Nat} {u v : String}

/-- What a pair of racks adds to the witnesses of a link. -/
def rackWitnesses (paths : CandidatePaths) (counts : String × String → Nat) (u v : String)
    (source target : String) : Nat :=
  if u ∈ paths.adj v ∧ paths.crosses source target u v = true then counts (source, target) else 0

/-- The distances from a rack to itself. -/
theorem distance_self (source : String) : (paths.distance source).get source = some 0 :=
  get_distance.mpr ⟨.refl _, SimpleGraph.dist_self⟩

/-- A rack adds the witnesses of its paths to all racks. -/
theorem coverFrom_witnesses {source : String} {before after : String × String → Nat}
    (switches : ∀ rack ∈ racks.keys, rack ∈ paths.manifest.switches.map Device.name)
    (switch : source ∈ paths.manifest.switches.map Device.name)
    (single : u ≠ v → (paths.adj v).count u ≤ 1)
    (done : coverFrom paths.manifest.toTopology paths.adj racks counts before source = .ok after) :
    after (u, v) =
      before (u, v) + (racks.keys.map fun target =>
        paths.rackWitnesses counts u v source target).sum := by
  unfold coverFrom at done
  dsimp only at done
  have distances : measure paths.adj paths.manifest.switches.length
      (Function.update (fun _ => none) source (some 0)) [source] =
        (paths.distance source).get := funext (measure_eq_distance switch)
  rw [distances] at done
  generalize racks.keys = targets at switches done
  induction targets generalizing before with
  | nil =>
      rw [List.foldlM_nil, pure_eq_ok] at done
      rw [done, List.map_nil, List.sum_nil, Nat.add_zero]
  | cons target targets ih =>
      rw [List.foldlM_cons, bind_eq_ok] at done
      obtain ⟨next, first, rest⟩ := done
      rw [ih (fun rack mem => switches rack (List.mem_cons_of_mem _ mem)) rest, List.map_cons,
        List.sum_cons, ← Nat.add_assoc]
      congr 1
      split at first
      · rename_i none
        rw [← Except.ok.inj first, rackWitnesses, none, ite_self, Nat.add_zero]
      · split at first
        · cases first
        · rename_i connected
          obtain ⟨n, whole⟩ := Option.ne_none_iff_exists'.mp connected
          have isTarget : paths.Through source target target :=
            ⟨n, 0, n, whole, distance_self target, whole, Nat.add_zero n⟩
          rw [← Except.ok.inj first]
          exact walk_witnesses isTarget (switches target List.mem_cons_self) single

/-- All racks together. -/
theorem cover_witnesses {after : String × String → Nat}
    (switches : ∀ rack ∈ racks.keys, rack ∈ paths.manifest.switches.map Device.name)
    (single : u ≠ v → (paths.adj v).count u ≤ 1)
    (done : racks.keys.foldlM (coverFrom paths.manifest.toTopology paths.adj racks counts)
      (fun _ => 0) = .ok after) :
    after (u, v) = (racks.keys.map fun source => (racks.keys.map fun target =>
      paths.rackWitnesses counts u v source target).sum).sum := by
  have general : ∀ (sources : List String) (before : String × String → Nat),
      (∀ rack ∈ sources, rack ∈ paths.manifest.switches.map Device.name) →
      sources.foldlM (coverFrom paths.manifest.toTopology paths.adj racks counts) before =
        .ok after →
      after (u, v) = before (u, v) + (sources.map fun source => (racks.keys.map fun target =>
        paths.rackWitnesses counts u v source target).sum).sum := by
    intro sources
    induction sources with
    | nil =>
        intro before _ done
        rw [List.foldlM_nil, pure_eq_ok] at done
        rw [done, List.map_nil, List.sum_nil, Nat.add_zero]
    | cons source sources ih =>
        intro before inside done
        rw [List.foldlM_cons, bind_eq_ok] at done
        obtain ⟨next, first, rest⟩ := done
        rw [ih next (fun rack mem => inside rack (List.mem_cons_of_mem _ mem)) rest,
          coverFrom_witnesses switches (inside source List.mem_cons_self) single first,
          List.map_cons, List.sum_cons, Nat.add_assoc]
  rw [general racks.keys _ switches done, Nat.zero_add]

end CandidatePaths

/-! ## Access links -/

/-- The loop over the clients sets the links between a client and its rack, and no others. -/
theorem foldl_coverClient (peers : Peers) (before : String × String → Nat) (clients : List Device)
    (u v : String) :
    (∃ client ∈ clients, ((client.name, TopologyManifest.rackOf client) = (u, v) ∨
        (TopologyManifest.rackOf client, client.name) = (u, v)) ∧
        clients.foldl (coverClient peers) before (u, v) = (peers client.name).length) ∨
      (∀ client ∈ clients, (client.name, TopologyManifest.rackOf client) ≠ (u, v) ∧
        (TopologyManifest.rackOf client, client.name) ≠ (u, v)) ∧
        clients.foldl (coverClient peers) before (u, v) = before (u, v) := by
  induction clients using List.reverseRecOn with
  | nil => exact .inr ⟨by simp, rfl⟩
  | append_singleton clients client ih =>
      rw [List.foldl_append, List.foldl_cons, List.foldl_nil]
      generalize clients.foldl (coverClient peers) before = witnesses at ih
      have last : client ∈ clients ++ [client] := List.mem_append_right _ List.mem_cons_self
      unfold coverClient
      by_cases down : (TopologyManifest.rackOf client, client.name) = (u, v)
      · refine .inl ⟨client, last, .inr down, ?_⟩
        rw [down, Function.update_self]
      · rw [Function.update_of_ne (Ne.symm down)]
        by_cases up : (client.name, TopologyManifest.rackOf client) = (u, v)
        · refine .inl ⟨client, last, .inl up, ?_⟩
          rw [up, Function.update_self]
        · rw [Function.update_of_ne (Ne.symm up)]
          rcases ih with ⟨other, mem, ends, counted⟩ | ⟨apart, same⟩
          · exact .inl ⟨other, List.mem_append_left _ mem, ends, counted⟩
          · refine .inr ⟨?_, same⟩
            intro other mem
            rcases List.mem_append.mp mem with earlier | here
            · exact apart other earlier
            · rw [List.mem_singleton.mp here]
              exact ⟨up, down⟩

/-! ## Planned pairs -/

namespace Compiled

variable {manifest : TopologyManifest} {peers : Peers} {plan : PingmeshPlan} {s d : String}

theorem mem_pairs (compiled : Compiled manifest peers plan) :
    (s, d) ∈ plan.pairs ↔ s ∈ manifest.clients.map Device.name ∧ d ∈ peers s := by
  unfold PingmeshPlan.pairs
  rw [List.mem_flatMap]
  constructor
  · rintro ⟨client, isClient, mem⟩
    obtain ⟨target, isTarget, same⟩ := List.mem_map.mp mem
    obtain ⟨rfl, rfl⟩ := Prod.mk.inj same
    obtain ⟨name, isName, rfl⟩ := compiled.mem_clients.mp isClient
    exact ⟨isName, mem_targets.mp isTarget⟩
  · rintro ⟨isName, peer⟩
    exact ⟨_, compiled.mem_clients.mpr ⟨s, isName, rfl⟩,
      List.mem_map_of_mem (mem_targets.mpr peer)⟩

theorem pairs_nodup (compiled : Compiled manifest peers plan) : plan.pairs.Nodup := by
  unfold PingmeshPlan.pairs
  have names : (plan.clients.map ClientProbePlan.name).Nodup := by
    rw [compiled.map_name]
    exact manifest.clientNames_nodup
  refine List.nodup_flatMap.mpr ⟨?_, ?_⟩
  · intro client isClient
    exact (compiled.sound.targets_nodup client isClient).map fun _ _ same => (Prod.mk.inj same).2
  · apply (List.pairwise_map.mp names).imp
    intro client other apart pair left right
    obtain ⟨_, -, rfl⟩ := List.mem_map.mp left
    obtain ⟨_, -, same⟩ := List.mem_map.mp right
    exact apart (Prod.mk.inj same).1.symm

/-- As many pairs start at a client as it has peers. -/
theorem countP_source (compiled : Compiled manifest peers plan) {client : Device}
    (isClient : client ∈ manifest.clients) :
    (plan.pairs.countP fun pair => pair.1 = client.name) = (peers client.name).length := by
  have same : (plan.pairs.filter fun pair => pair.1 = client.name).Perm
      ((peers client.name).map fun peer => (client.name, peer)) := by
    refine (List.perm_ext_iff_of_nodup (compiled.pairs_nodup.filter _) ?_).mpr ?_
    · exact (compiled.correct.nodup _).map fun _ _ same => (Prod.mk.inj same).2
    · rintro ⟨s, d⟩
      rw [List.mem_filter, compiled.mem_pairs, decide_eq_true_eq]
      constructor
      · rintro ⟨⟨-, peer⟩, rfl⟩
        exact List.mem_map_of_mem peer
      · intro mem
        obtain ⟨_, peer, same⟩ := List.mem_map.mp mem
        obtain ⟨rfl, rfl⟩ := Prod.mk.inj same
        exact ⟨⟨List.mem_map_of_mem isClient, peer⟩, rfl⟩
  rw [List.countP_eq_length_filter, same.length_eq, List.length_map]

/-- As many pairs end there. -/
theorem countP_destination (compiled : Compiled manifest peers plan) (client : Device) :
    (plan.pairs.countP fun pair => pair.2 = client.name) = (peers client.name).length := by
  have same : (plan.pairs.filter fun pair => pair.2 = client.name).Perm
      ((peers client.name).map fun peer => (peer, client.name)) := by
    refine (List.perm_ext_iff_of_nodup (compiled.pairs_nodup.filter _) ?_).mpr ?_
    · exact (compiled.correct.nodup _).map fun _ _ same => (Prod.mk.inj same).1
    · rintro ⟨s, d⟩
      rw [List.mem_filter, compiled.mem_pairs, decide_eq_true_eq]
      constructor
      · rintro ⟨⟨-, peer⟩, rfl⟩
        exact List.mem_map_of_mem (compiled.correct.symmetric peer)
      · intro mem
        obtain ⟨_, peer, same⟩ := List.mem_map.mp mem
        obtain ⟨rfl, rfl⟩ := Prod.mk.inj same
        exact ⟨⟨compiled.correct.known peer, compiled.correct.symmetric peer⟩, rfl⟩
  rw [List.countP_eq_length_filter, same.length_eq, List.length_map]

/-- From one rack to another lead as many pairs as the policy says. -/
theorem length_rackPairs (compiled : Compiled manifest peers plan) {rack : String → String}
    (inRack : ∀ name ∈ manifest.clients.map Device.name, ∀ left,
      rack name = left ↔ name ∈ rackMembers manifest.clients left)
    {left right : String} (apart : left ≠ right)
    (someLeft : rackMembers manifest.clients left ≠ [])
    (someRight : rackMembers manifest.clients right ≠ []) :
    ((plan.pairs.filter fun pair => rack pair.1 = left).filter fun pair =>
      rack pair.2 = right).length = manifest.pingmesh.pairCount manifest.clients left right := by
  rw [← compiled.correct.crossPairs manifest.clientNames_nodup apart someLeft someRight]
  apply List.Perm.length_eq
  refine (List.perm_ext_iff_of_nodup ((compiled.pairs_nodup.filter _).filter _) ?_).mpr ?_
  · exact ((rackMembers_nodup manifest.clientNames_nodup left).product
      (rackMembers_nodup manifest.clientNames_nodup right)).filter _
  · rintro ⟨s, d⟩
    simp only [List.mem_filter, compiled.mem_pairs, List.mem_product, decide_eq_true_eq]
    constructor
    · rintro ⟨⟨⟨known, peer⟩, isLeft⟩, isRight⟩
      exact ⟨⟨(inRack s known left).mp isLeft,
        (inRack d (compiled.correct.known peer) right).mp isRight⟩, peer⟩
    · rintro ⟨⟨isLeft, isRight⟩, peer⟩
      have known := mem_names_of_mem_rackMembers isLeft
      exact ⟨⟨⟨known, peer⟩, (inRack s known left).mpr isLeft⟩,
        (inRack d (compiled.correct.known peer) right).mpr isRight⟩

end Compiled

/-! ## Witnesses and pairs -/

namespace CandidatePaths

variable {paths : CandidatePaths} {u v : String}

theorem attachedSwitch_eq_ok {name rack : String} :
    paths.attachedSwitch name = .ok rack ↔ name ∈ rackMembers paths.manifest.clients rack := by
  unfold attachedSwitch client
  rw [mem_rackMembers]
  cases found : paths.manifest.clients.find? fun client => client.name = name with
  | none =>
      constructor
      · intro attached
        cases attached
      · rintro ⟨client, isClient, -, rfl⟩
        exact absurd (decide_eq_true rfl) (List.find?_eq_none.mp found client isClient)
  | some client =>
      have isClient := List.mem_of_find?_eq_some found
      have isFound := List.find?_some found
      have named : client.name = name := of_decide_eq_true isFound
      obtain ⟨switch, -, attached⟩ := paths.manifest.client_attached isClient
      have isRack : TopologyManifest.rackOf client = switch.name := by
        rw [TopologyManifest.rackOf, attached, Option.getD_some]
      rw [bind_eq_ok]
      constructor
      · rintro ⟨_, same, isOk⟩
        obtain rfl := Except.ok.inj same
        rw [attached] at isOk
        exact ⟨client, isClient, isRack.trans (Except.ok.inj isOk), named⟩
      · rintro ⟨other, isOther, rfl, sameName⟩
        have same : other = client := List.inj_on_of_nodup_map paths.manifest.clientNames_nodup
          isOther isClient (sameName.trans named.symm)
        rw [same, isRack]
        refine ⟨client, rfl, ?_⟩
        rw [attached]

/-- The rack of a client. -/
def rackName (paths : CandidatePaths) (name : String) : String :=
  (paths.attachedSwitch name).toOption.getD ""

theorem rackName_eq_iff {name : String} (known : name ∈ paths.manifest.clients.map Device.name)
    (rack : String) :
    paths.rackName name = rack ↔ name ∈ rackMembers paths.manifest.clients rack := by
  obtain ⟨actual, inRack⟩ := mem_rackMembers_self known
  have isActual : paths.rackName name = actual := by
    rw [rackName, attachedSwitch_eq_ok.mpr inRack]
    rfl
  rw [isActual]
  constructor
  · rintro rfl
    exact inRack
  · intro other
    exact rack_unique paths.manifest.clientNames_nodup inRack other

/-- No shortest walk from a rack to itself crosses a link. -/
theorem not_crosses_same (rack : String) : paths.crosses rack rack u v = false := by
  rw [Bool.eq_false_iff]
  intro crossed
  obtain ⟨i, j, n, -, -, whole, sum⟩ := crosses_iff.mp crossed
  obtain rfl := Option.some.inj ((distance_self rack).symm.trans whole)
  omega

/-- The candidate paths of a pair are those of its racks. -/
theorem contains_iff_crosses {s d left right : String} (isPeer : paths.fabricPeer (some v) = some v)
    (isLeft : s ∈ rackMembers paths.manifest.clients left)
    (isRight : d ∈ rackMembers paths.manifest.clients right) :
    paths.contains s d (some u) (some v) = .ok true ↔ paths.crosses left right u v = true := by
  rw [contains_across isPeer, crosses_iff]
  constructor
  · rintro ⟨source, target, isSource, isTarget, across⟩
    obtain rfl := rack_unique paths.manifest.clientNames_nodup isLeft
      (attachedSwitch_eq_ok.mp isSource)
    obtain rfl := rack_unique paths.manifest.clientNames_nodup isRight
      (attachedSwitch_eq_ok.mp isTarget)
    exact across
  · intro across
    exact ⟨left, right, attachedSwitch_eq_ok.mpr isLeft, attachedSwitch_eq_ok.mpr isRight, across⟩

/-- `contains(src, dst, u, v)` is true for the pair. -/
def containsPair (paths : CandidatePaths) (u v : String) (pair : ProbePair) : Bool :=
  succeedsWith (paths.contains pair.1 pair.2 (some u) (some v)) id

theorem containsPair_iff {pair : ProbePair} : paths.containsPair u v pair = true ↔
    paths.contains pair.1 pair.2 (some u) (some v) = .ok true := by
  rw [containsPair, succeedsWith_eq_true]
  constructor
  · rintro ⟨_, isOk, rfl⟩
    exact isOk
  · intro isOk
    exact ⟨true, isOk, rfl⟩

/-- The pairs over a link, counted by their racks. -/
theorem countP_containsPair {peers : Peers} {plan : PingmeshPlan}
    (compiled : Compiled paths.manifest peers plan) {m : Matching}
    (matched : matchRacks paths.manifest.pingmesh (racksOf paths.manifest.clients) = .ok m)
    (isPeer : paths.fabricPeer (some v) = some v) (neighbor : u ∈ paths.adj v) :
    plan.pairs.countP (paths.containsPair u v) =
      ((racksOf paths.manifest.clients).keys.map fun source =>
        ((racksOf paths.manifest.clients).keys.map fun target =>
          paths.rackWitnesses m.rackPairCounts u v source target).sum).sum := by
  have inside : ∀ name ∈ paths.manifest.clients.map Device.name,
      paths.rackName name ∈ (racksOf paths.manifest.clients).keys := by
    intro name known
    exact mem_keys_racksOf.mpr (List.ne_nil_of_mem ((rackName_eq_iff known _).mp rfl))
  have ends : ∀ pair ∈ plan.pairs, pair.1 ∈ paths.manifest.clients.map Device.name ∧
      pair.2 ∈ paths.manifest.clients.map Device.name := by
    intro pair mem
    obtain ⟨known, peer⟩ := compiled.mem_pairs.mp mem
    exact ⟨known, compiled.correct.known peer⟩
  have keys := (racksOf paths.manifest.clients).nodup
  have bySource := Groups.perm_flatMap_filter (fun pair : ProbePair => paths.rackName pair.1) keys
    fun pair mem => inside pair.1 (ends pair mem).1
  rw [← bySource.countP_eq, List.countP_flatMap]
  congr 1
  apply List.map_congr_left
  intro left isLeft
  have inTarget : ∀ pair ∈ plan.pairs.filter fun pair => paths.rackName pair.1 = left,
      paths.rackName pair.2 ∈ (racksOf paths.manifest.clients).keys := fun pair mem =>
    inside pair.2 (ends pair (List.mem_of_mem_filter mem)).2
  have byTarget := Groups.perm_flatMap_filter (fun pair : ProbePair => paths.rackName pair.2) keys
    inTarget
  rw [Function.comp_apply, ← byTarget.countP_eq, List.countP_flatMap]
  congr 1
  apply List.map_congr_left
  intro right isRight
  rw [Function.comp_apply]
  have grouped : ∀ pair ∈ (plan.pairs.filter fun pair => paths.rackName pair.1 = left).filter
      (fun pair => paths.rackName pair.2 = right),
      paths.containsPair u v pair = true ↔ paths.crosses left right u v = true := by
    intro pair mem
    obtain ⟨mem, inRight⟩ := List.mem_filter.mp mem
    obtain ⟨mem, inLeft⟩ := List.mem_filter.mp mem
    obtain ⟨knownLeft, knownRight⟩ := ends pair mem
    exact containsPair_iff.trans (contains_iff_crosses isPeer
      ((rackName_eq_iff knownLeft left).mp (of_decide_eq_true inLeft))
      ((rackName_eq_iff knownRight right).mp (of_decide_eq_true inRight)))
  unfold rackWitnesses
  by_cases crossed : paths.crosses left right u v = true
  · have apart : left ≠ right := by
      rintro rfl
      rw [not_crosses_same] at crossed
      cases crossed
    rw [if_pos ⟨neighbor, crossed⟩, matchRacks_counts matched isLeft isRight, if_neg apart,
      ← compiled.length_rackPairs (fun name known left => rackName_eq_iff known left) apart
        (mem_keys_racksOf.mp isLeft) (mem_keys_racksOf.mp isRight)]
    exact List.countP_eq_length.mpr fun pair mem => (grouped pair mem).mpr crossed
  · rw [if_neg fun both => crossed both.2]
    exact List.countP_eq_zero.mpr fun pair mem contained =>
      crossed ((grouped pair mem).mp contained)

end CandidatePaths

/-! ## The coverage of a plan -/

/-- The links between two devices. -/
def TopologyManifest.linksBetween (m : TopologyManifest) (a b : String) : Nat :=
  m.links.countP fun link =>
    link.endpoints.1.device = a ∧ link.endpoints.2.device = b ∨
      link.endpoints.1.device = b ∧ link.endpoints.2.device = a

/-- At most one link between any two switches. -/
def TopologyManifest.SingleLinks (m : TopologyManifest) : Prop :=
  ∀ a ∈ m.switches.map Device.name, ∀ b ∈ m.switches.map Device.name,
    a ≠ b → m.linksBetween a b ≤ 1

instance (m : TopologyManifest) : Decidable m.SingleLinks :=
  inferInstanceAs (Decidable (∀ a ∈ m.switches.map Device.name,
    ∀ b ∈ m.switches.map Device.name, a ≠ b → m.linksBetween a b ≤ 1))

/-- The manifest with its compiled plan. -/
def TopologyManifest.withPlan (m : TopologyManifest) (plan : PingmeshPlan) : TopologyManifest where
  toTopology := { m.toTopology with pingmeshPlan := some plan }
  valid := m.valid

/-- Between two switches, a neighbor is listed once for each link. -/
theorem CandidatePaths.count_adj_le {paths : CandidatePaths} {u v : String} (apart : u ≠ v) :
    (paths.adj v).count u ≤ paths.manifest.linksBetween v u := by
  unfold adj TopologyManifest.linksBetween
  induction paths.manifest.links with
  | nil => exact Nat.le_refl 0
  | cons link links ih =>
      rw [List.flatMap_cons, List.count_append, List.countP_cons, Nat.add_comm]
      refine Nat.add_le_add ih ?_
      dsimp only
      generalize link.endpoints.1.device = a
      generalize link.endpoints.2.device = b
      split
      · exact Nat.zero_le _
      · by_cases first : a = v
        · subst first
          rw [if_pos rfl]
          by_cases second : b = a
          · subst second
            rw [if_pos rfl]
            simp [apart.symm]
          · rw [if_neg second]
            by_cases far : b = u
            · simp [far]
            · simp [far]
        · rw [if_neg first]
          by_cases second : b = v
          · subst second
            rw [if_pos rfl]
            by_cases near : a = u
            · simp [near]
            · simp [near]
          · rw [if_neg second]
            simp

theorem CandidatePaths.single_adj {paths : CandidatePaths} (single : paths.manifest.SingleLinks)
    {u v : String} (apart : u ≠ v) : (paths.adj v).count u ≤ 1 := by
  by_cases neighbor : u ∈ paths.adj v
  · exact (count_adj_le apart).trans (single v (adj_switch u v (adj_symm v u neighbor)) u
      (adj_switch v u neighbor) apart.symm)
  · rw [List.count_eq_zero.mpr neighbor]
    exact Nat.zero_le 1

/-- Every link of a plan has a witness. -/
theorem witnesses_pos {manifest : TopologyManifest} {plan : PingmeshPlan}
    (enough : minimumRequired manifest.scale ≤ plan.coverage.minimumWitnesses)
    (isMinimum : plan.coverage.minimumWitnesses =
      (plan.coverage.directedLinks.map LinkCoverage.witnesses).min?.getD 0)
    {link : LinkCoverage} (mem : link ∈ plan.coverage.directedLinks) : 0 < link.witnesses := by
  have required : 0 < minimumRequired manifest.scale := by
    unfold minimumRequired
    split <;> decide
  rw [isMinimum] at enough
  cases found : (plan.coverage.directedLinks.map LinkCoverage.witnesses).min? with
  | none =>
      rw [found, Option.getD_none] at enough
      omega
  | some least =>
      rw [found, Option.getD_some] at enough
      have lower := (List.min?_eq_some_iff.mp found).2 _ (List.mem_map_of_mem mem)
      omega

/-- What a link is counted at, when the loops over the racks and the clients are done. -/
structure Covering (manifest : TopologyManifest) (m : Matching) (plan : PingmeshPlan)
    (paths : CandidatePaths) (final : String × String → Nat) : Prop where
  links : plan.coverage.directedLinks = manifest.links.flatMap fun link =>
    [linkCoverage final link.endpoints.1 link.endpoints.2,
      linkCoverage final link.endpoints.2 link.endpoints.1]
  minimum : plan.coverage.minimumWitnesses =
    (plan.coverage.directedLinks.map LinkCoverage.witnesses).min?.getD 0
  cover : ∃ witnesses, (racksOf manifest.clients).keys.foldlM
      (coverFrom manifest.toTopology paths.adj (racksOf manifest.clients) m.rackPairCounts)
      (fun _ => 0) = .ok witnesses ∧
    final = manifest.clients.foldl (coverClient m.peers) witnesses

theorem covering_of_ok {manifest : TopologyManifest} {m : Matching} {plan : PingmeshPlan}
    {paths : CandidatePaths} (same : switchGraph manifest.toTopology = paths.adj)
    (done : candidateCoverage manifest.toTopology (racksOf manifest.clients) m.peers
      m.rackPairCounts = .ok plan.coverage) :
    ∃ final, Covering manifest m plan paths final := by
  unfold candidateCoverage at done
  obtain ⟨witnesses, covered, done⟩ := bind_eq_ok.mp done
  rw [same] at covered
  have isCoverage := Except.ok.inj done
  refine ⟨manifest.clients.foldl (coverClient m.peers) witnesses, ?_, ?_, witnesses, covered, rfl⟩
  · rw [← isCoverage]
  · rw [← isCoverage]

section Counts

variable {paths : CandidatePaths} {m : Matching} {plan : PingmeshPlan}
  {final : String × String → Nat} {u v : String}

/-- The racks of the clients are switches. -/
theorem switch_of_rack {manifest : TopologyManifest} {rack : String}
    (isRack : rack ∈ (racksOf manifest.clients).keys) :
    rack ∈ manifest.switches.map Device.name := by
  obtain ⟨name, mem⟩ := List.exists_mem_of_ne_nil _ (mem_keys_racksOf.mp isRack)
  obtain ⟨client, isClient, rfl, -⟩ := mem_rackMembers.mp mem
  obtain ⟨switch, isSwitch, attached⟩ := manifest.client_attached isClient
  rw [TopologyManifest.rackOf, attached, Option.getD_some]
  exact List.mem_map_of_mem isSwitch

/-- Between switches, the clients change nothing. -/
theorem Covering.switches (covering : Covering paths.manifest m plan paths final)
    (single : paths.manifest.SingleLinks) (first : paths.isClient u = false)
    (second : paths.isClient v = false) :
    final (u, v) = ((racksOf paths.manifest.clients).keys.map fun source =>
      ((racksOf paths.manifest.clients).keys.map fun target =>
        paths.rackWitnesses m.rackPairCounts u v source target).sum).sum := by
  obtain ⟨witnesses, covered, rfl⟩ := covering.cover
  rw [← CandidatePaths.cover_witnesses (fun rack mem => switch_of_rack mem)
    (fun apart => CandidatePaths.single_adj single apart) covered]
  rcases foldl_coverClient m.peers witnesses paths.manifest.clients u v with
    ⟨client, isClient, ends, -⟩ | ⟨-, same⟩
  · have named : paths.isClient client.name = true := decide_eq_true (List.mem_map_of_mem isClient)
    rcases ends with up | down
    · rw [(Prod.mk.inj up).1, first] at named
      cases named
    · rw [(Prod.mk.inj down).2, second] at named
      cases named
  · exact same

/-- Between a switch and a client, the count is the number of the client's peers. -/
theorem Covering.access (covering : Covering paths.manifest m plan paths final)
    (positive : 0 < final (u, v)) (mixed : paths.isClient u ≠ paths.isClient v) :
    ∃ client ∈ paths.manifest.clients, (client.name = u ∨ client.name = v) ∧
      final (u, v) = (m.peers client.name).length := by
  obtain ⟨witnesses, covered, rfl⟩ := covering.cover
  rcases foldl_coverClient m.peers witnesses paths.manifest.clients u v with
    ⟨client, isClient, ends, counted⟩ | ⟨-, same⟩
  · refine ⟨client, isClient, ?_, counted⟩
    rcases ends with up | down
    · exact .inl (Prod.mk.inj up).1
    · exact .inr (Prod.mk.inj down).2
  · -- the racks count nothing over a link of a client
    have away : u ∉ paths.adj v := by
      intro neighbor
      have isSwitch := CandidatePaths.adj_switch v u neighbor
      have isOther := CandidatePaths.adj_switch u v (CandidatePaths.adj_symm v u neighbor)
      have known : ∀ name ∈ paths.manifest.switches.map Device.name,
          paths.isClient name = false := fun name mem =>
        (CandidatePaths.mem_switches_iff
          ((List.filter_sublist.map Device.name).subset mem)).mp mem
      rw [known u isSwitch, known v isOther] at mixed
      exact mixed rfl
    have none : witnesses (u, v) = 0 := by
      have single : u ≠ v → (paths.adj v).count u ≤ 1 := fun _ => by
        rw [List.count_eq_zero.mpr away]
        exact Nat.zero_le 1
      rw [CandidatePaths.cover_witnesses (fun rack mem => switch_of_rack mem) single covered]
      simp [CandidatePaths.rackWitnesses, away]
    rw [same, none] at positive
    exact absurd positive (Nat.lt_irrefl 0)

end Counts

/-- A link of the coverage is a direction of a link of the manifest. -/
theorem Covering.mem_links {manifest : TopologyManifest} {m : Matching} {plan : PingmeshPlan}
    {paths : CandidatePaths} {final : String × String → Nat}
    (covering : Covering manifest m plan paths final) {link : LinkCoverage}
    (mem : link ∈ plan.coverage.directedLinks) :
    link.witnesses = final (link.source, link.destination) ∧ ∃ original ∈ manifest.links,
      (link.source, link.destination) =
        (original.endpoints.1.device, original.endpoints.2.device) ∨
      (link.source, link.destination) =
        (original.endpoints.2.device, original.endpoints.1.device) := by
  rw [covering.links, List.mem_flatMap] at mem
  obtain ⟨original, isLink, mem⟩ := mem
  rcases List.mem_cons.mp mem with rfl | later
  · exact ⟨rfl, original, isLink, .inl rfl⟩
  · rw [List.mem_singleton.mp later]
    exact ⟨rfl, original, isLink, .inr rfl⟩

/-- The witnesses of a link between switches are the pairs that candidate paths put over it, unless
its far end has no name; those of an access link are the pairs to its client, or from it. -/
structure LinkCoverage.Agrees (paths : CandidatePaths) (link : LinkCoverage) : Prop where
  switches : paths.isClient link.source = false → paths.isClient link.destination = false →
    link.destination ≠ "" →
      link.witnesses = paths.pairs.countP (paths.containsPair link.source link.destination)
  toClient : paths.isClient link.source = false → paths.isClient link.destination = true →
    link.witnesses = paths.pairs.countP fun pair => pair.2 = link.destination
  fromClient : paths.isClient link.source = true → paths.isClient link.destination = false →
    link.witnesses = paths.pairs.countP fun pair => pair.1 = link.source

/-- What has been counted agrees with the candidate paths. -/
theorem Covering.agrees {paths : CandidatePaths} {m : Matching} {plan : PingmeshPlan}
    {final : String × String → Nat} (covering : Covering paths.manifest m plan paths final)
    (facts : Compiled paths.manifest m.peers plan)
    (matched : matchRacks paths.manifest.pingmesh (racksOf paths.manifest.clients) = .ok m)
    (enough : minimumRequired paths.manifest.scale ≤ plan.coverage.minimumWitnesses)
    (single : paths.manifest.SingleLinks) (isPairs : paths.pairs = plan.pairs)
    {link : LinkCoverage} (mem : link ∈ plan.coverage.directedLinks) : link.Agrees paths := by
  obtain ⟨counted, original, isLink, ends⟩ := covering.mem_links mem
  have positive : 0 < final (link.source, link.destination) :=
    counted ▸ witnesses_pos enough covering.minimum mem
  refine ⟨?_, ?_, ?_⟩
  · intro first second named
    rw [counted, isPairs]
    have isPeer : paths.fabricPeer (some link.destination) = some link.destination := by
      refine Option.filter_eq_some_iff.mpr ⟨rfl, ?_⟩
      rw [second]
      simpa using named
    have neighbor : link.source ∈ paths.adj link.destination := by
      refine CandidatePaths.mem_adj.mpr ⟨original, isLink, ?_⟩
      rcases ends with forth | back
      · obtain ⟨isSource, isDestination⟩ := Prod.mk.inj forth
        rw [← isSource, ← isDestination]
        exact ⟨first, second, .inr rfl⟩
      · obtain ⟨isSource, isDestination⟩ := Prod.mk.inj back
        rw [← isSource, ← isDestination]
        exact ⟨second, first, .inl rfl⟩
    exact (covering.switches single first second).trans
      (CandidatePaths.countP_containsPair facts matched isPeer neighbor).symm
  · intro first second
    rw [counted, isPairs]
    have mixed : paths.isClient link.source ≠ paths.isClient link.destination := by
      rw [first, second]
      exact Bool.false_ne_true
    obtain ⟨client, isClient, ends, peers⟩ := covering.access positive mixed
    rw [peers, ← facts.countP_destination client]
    rcases ends with same | same
    · have named : paths.isClient client.name = true :=
        decide_eq_true (List.mem_map_of_mem isClient)
      rw [same, first] at named
      cases named
    · rw [same]
  · intro first second
    rw [counted, isPairs]
    have mixed : paths.isClient link.source ≠ paths.isClient link.destination := by
      rw [first, second]
      exact Bool.false_ne_true.symm
    obtain ⟨client, isClient, ends, peers⟩ := covering.access positive mixed
    rw [peers, ← facts.countP_source isClient]
    rcases ends with same | same
    · rw [same]
    · have named : paths.isClient client.name = true :=
        decide_eq_true (List.mem_map_of_mem isClient)
      rw [same, second] at named
      cases named

/-- A plan for a fabric without parallel links covers both directions of every link, and agrees
with the candidate paths on each. -/
theorem coverage_counts (tables : NameTables) (manifest : TopologyManifest) (plan : PingmeshPlan)
    (compiled : compilePingmeshPlan manifest = .ok plan) (single : manifest.SingleLinks)
    (paths : CandidatePaths)
    (isPaths : CandidatePaths.ofManifest tables (manifest.withPlan plan) = .ok paths) :
    (plan.coverage.directedLinks.map fun link => (link.source, link.destination)) =
        (manifest.links.flatMap fun link =>
          [(link.endpoints.1.device, link.endpoints.2.device),
            (link.endpoints.2.device, link.endpoints.1.device)]) ∧
      ∀ link ∈ plan.coverage.directedLinks, link.Agrees paths := by
  obtain ⟨plan', isPlan, isPaths⟩ := bind_eq_ok.mp isPaths
  obtain rfl : plan = plan' := Except.ok.inj isPlan
  obtain rfl := Except.ok.inj isPaths
  obtain ⟨m, matched, facts, covered, enough⟩ := compiled_matching compiled
  have sameGraph : switchGraph manifest.toTopology =
      (⟨manifest, tables, plan.pairs⟩ : CandidatePaths).adj :=
    @CandidatePaths.switchGraph_eq_adj ⟨manifest, tables, plan.pairs⟩
  obtain ⟨final, covering⟩ := covering_of_ok sameGraph covered
  refine ⟨?_, ?_⟩
  · rw [covering.links, List.map_flatMap]
    rfl
  · intro link mem
    -- what is counted depends on the devices and links only, which the plan does not change
    have agrees : link.Agrees ⟨manifest, tables, plan.pairs⟩ :=
      covering.agrees facts matched enough single rfl mem
    exact ⟨agrees.switches, agrees.toClient, agrees.fromClient⟩

/-- The coverage of the small fabric agrees with its candidate paths. -/
theorem coverage_counts_smallClos :
    ∃ plan, compilePingmeshPlan smallClos = .ok plan ∧
      ∃ paths, CandidatePaths.ofManifest .ascii (smallClos.withPlan plan) = .ok paths ∧
        ∀ link ∈ plan.coverage.directedLinks,
          paths.isClient link.source = false → paths.isClient link.destination = false →
            link.destination ≠ "" → link.witnesses =
              paths.pairs.countP (paths.containsPair link.source link.destination) := by
  obtain ⟨plan, compiled⟩ := smallClos_compiles
  have single : smallClos.SingleLinks := by decide +kernel
  have counts := (coverage_counts .ascii smallClos plan compiled single _ rfl).2
  exact ⟨plan, compiled, _, rfl, fun link mem => (counts link mem).1⟩

/-- The small fabric with a spine of no name. -/
def namelessSpineTopology : Topology :=
  { smallClosTopology with
    devices :=
      { name := "", role := .spine } ::
        smallClosTopology.devices.filter fun device => device.name ≠ "spine1"
    links :=
      [{ kind := "fabric", endpoints := (⟨"", "eth1"⟩, ⟨"leaf1", "eth1"⟩) },
        { kind := "fabric", endpoints := (⟨"", "eth2"⟩, ⟨"leaf2", "eth1"⟩) }] ++
      smallClosTopology.links.filter fun link => link.kind = "access" }

def namelessSpine : TopologyManifest :=
  { namelessSpineTopology with valid := by decide +kernel }

/-- A peer without a name is asked for as no peer: every pair through the first leaf is contained
in its link to the spine, the pairs on the way back too. -/
theorem nameless_uncounted :
    namelessSpine.SingleLinks ∧ ∃ plan, compilePingmeshPlan namelessSpine = .ok plan ∧
      ∃ paths, CandidatePaths.ofManifest .ascii (namelessSpine.withPlan plan) = .ok paths ∧
        ∃ link ∈ plan.coverage.directedLinks,
          paths.isClient link.source = false ∧ paths.isClient link.destination = false ∧
            link.witnesses ≠
              paths.pairs.countP (paths.containsPair link.source link.destination) := by
  have checks : succeedsWith (compilePingmeshPlan namelessSpine) (fun plan =>
      succeedsWith (CandidatePaths.ofManifest .ascii (namelessSpine.withPlan plan)) fun paths =>
        plan.coverage.directedLinks.any fun link => decide (paths.isClient link.source = false ∧
          paths.isClient link.destination = false ∧ link.witnesses ≠
            paths.pairs.countP (paths.containsPair link.source link.destination))) = true := by
    decide +kernel
  obtain ⟨plan, compiled, checks⟩ := succeedsWith_eq_true.mp checks
  obtain ⟨paths, isPaths, checks⟩ := succeedsWith_eq_true.mp checks
  obtain ⟨link, mem, differs⟩ := List.any_eq_true.mp checks
  have single : namelessSpine.SingleLinks := by decide +kernel
  exact ⟨single, plan, compiled, paths, isPaths, link, mem, of_decide_eq_true differs⟩

end NetOpsBench
