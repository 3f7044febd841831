import Mathlib.Data.List.GetD
import Mathlib.Data.List.ProdSigma
import NetOpsBench.Pingmesh.Planner

/-!
# The peer relation of the compiler

What the rack loops of `compilePingmeshPlan` build: `racksOf` lists every attachment
switch once with its clients in order, and `matchRacks` relates two clients exactly
when they share a rack or are a replica of their pair of racks (`Peers.Correct`). From
this the relation is irreflexive and symmetric, and a pair of racks contributes exactly
its policy count of client pairs (`Peers.Correct.crossPairs`).
-/

namespace NetOpsBench

open Fallible Batches Pairs

/-! ## Racks -/

/-- The clients attached to one switch, in manifest order. -/
def rackMembers (clients : List Device) (rack : String) : List String :=
  (clients.filter fun client => TopologyManifest.rackOf client = rack).map Device.name

theorem mem_rackMembers {clients : List Device} {rack name : String} :
    name ∈ rackMembers clients rack ↔
      ∃ client ∈ clients, TopologyManifest.rackOf client = rack ∧ client.name = name := by
  simp [rackMembers, and_assoc]

theorem rackMembers_nodup {clients : List Device} (nodup : (clients.map Device.name).Nodup)
    (rack : String) : (rackMembers clients rack).Nodup :=
  nodup.sublist (List.filter_sublist.map Device.name)

/-- A client of unique name is in one rack only. -/
theorem rack_unique {clients : List Device} (nodup : (clients.map Device.name).Nodup)
    {left right name : String} (memLeft : name ∈ rackMembers clients left)
    (memRight : name ∈ rackMembers clients right) : left = right := by
  obtain ⟨c, memC, rackC, nameC⟩ := mem_rackMembers.mp memLeft
  obtain ⟨d, memD, rackD, nameD⟩ := mem_rackMembers.mp memRight
  have same : c = d := List.inj_on_of_nodup_map nodup memC memD (nameC.trans nameD.symm)
  exact rackC.symm.trans (same ▸ rackD)

/-- The racks of a client list: the switches that have a client, with all their clients. -/
theorem racksOf_spec (clients : List Device) (rack : String) (names : List String) :
    (racksOf clients).get rack = some names ↔ names = rackMembers clients rack ∧ names ≠ [] := by
  induction clients using List.reverseRecOn generalizing names with
  | nil =>
      rw [racksOf, List.foldl_nil, Dict.get_empty]
      simp only [reduceCtorEq, rackMembers, List.filter_nil, List.map_nil, false_iff, not_and,
        not_not]
      exact id
  | append_singleton clients client ih =>
      have unfolded : racksOf (clients ++ [client]) =
          (racksOf clients).append (TopologyManifest.rackOf client) client.name := by
        simp [racksOf]
      have members : rackMembers (clients ++ [client]) rack = rackMembers clients rack ++
          if TopologyManifest.rackOf client = rack then [client.name] else [] := by
        simp only [rackMembers, List.filter_append, List.map_append, List.filter_singleton]
        split <;> simp_all
      rw [unfolded, Racks.append, Dict.get_set, members]
      by_cases same : rack = TopologyManifest.rackOf client
      · subst same
        have before : ((racksOf clients).get (TopologyManifest.rackOf client)).getD [] =
            rackMembers clients (TopologyManifest.rackOf client) := by
          rcases got : (racksOf clients).get (TopologyManifest.rackOf client) with _ | old
          · by_contra ne
            have listed := (ih _).mpr ⟨rfl, Ne.symm ne⟩
            rw [got] at listed
            cases listed
          · exact ((ih old).mp got).1
        rw [if_pos rfl, if_pos rfl, before, Option.some.injEq]
        exact ⟨fun eq => ⟨eq.symm, by simp [← eq]⟩, fun both => both.1.symm⟩
      · rw [if_neg same, if_neg fun eq => same eq.symm, List.append_nil]
        exact ih names

/-! ## Peers -/

theorem Peers.mem_add {peers : Peers} {source destination s d : String} :
    d ∈ peers.add source destination s ↔ d ∈ peers s ∨ (s = source ∧ d = destination) := by
  unfold Peers.add
  by_cases same : s = source
  · subst same
    simp [or_comm]
  · simp [same]

/-- Every peer set is free of duplicates. -/
def Peers.Nodup (peers : Peers) : Prop := ∀ name, (peers name).Nodup

theorem Peers.Nodup.add {peers : Peers} (nodup : peers.Nodup) (source destination : String) :
    (peers.add source destination).Nodup := by
  intro name
  unfold Peers.add
  by_cases same : name = source
  · subst same
    simpa using (nodup name).insert
  · simpa [Function.update_of_ne same] using nodup name

/-- Adding a list of pairs one by one relates exactly those pairs in addition. -/
theorem Peers.mem_foldl_add {pairs : List (String × String)} {peers : Peers} {s d : String} :
    d ∈ pairs.foldl (fun peers pair => peers.add pair.1 pair.2) peers s ↔
      d ∈ peers s ∨ (s, d) ∈ pairs := by
  induction pairs generalizing peers with
  | nil => simp
  | cons pair pairs ih => simp [ih, Peers.mem_add, or_assoc, Prod.ext_iff]

theorem Peers.Nodup.foldl_add {pairs : List (String × String)} {peers : Peers}
    (nodup : peers.Nodup) :
    Peers.Nodup (pairs.foldl (fun peers pair => peers.add pair.1 pair.2) peers) := by
  induction pairs generalizing peers with
  | nil => exact nodup
  | cons pair pairs ih => exact ih (nodup.add _ _)

/-- The replica loop adds every pair in both directions. -/
theorem Peers.mem_foldl_addBoth {pairs : List (String × String)} {peers : Peers} {s d : String} :
    d ∈ pairs.foldl (fun peers (source, destination) =>
        (peers.add source destination).add destination source) peers s ↔
      d ∈ peers s ∨ (s, d) ∈ pairs ∨ (d, s) ∈ pairs := by
  induction pairs generalizing peers with
  | nil => simp
  | cons pair pairs ih =>
      simp only [List.foldl_cons, ih, Peers.mem_add, List.mem_cons, Prod.ext_iff]
      tauto

theorem Peers.Nodup.foldl_addBoth {pairs : List (String × String)} {peers : Peers}
    (nodup : peers.Nodup) :
    Peers.Nodup (pairs.foldl (fun peers (source, destination) =>
      (peers.add source destination).add destination source) peers) := by
  induction pairs generalizing peers with
  | nil => exact nodup
  | cons pair pairs ih => exact ih ((nodup.add _ _).add _ _)

/-! ## Rack pairs -/

section Replicas

variable {i j count : Nat} {a b : List String} {s d : String}

theorem rackReplicas_length : (rackReplicas i j a b count).length = count := by
  simp [rackReplicas]

theorem mem_of_mem_rackReplicas (neA : a ≠ []) (neB : b ≠ [])
    (mem : (s, d) ∈ rackReplicas i j a b count) : s ∈ a ∧ d ∈ b := by
  obtain ⟨replica, -, eq⟩ := List.mem_map.mp mem
  obtain ⟨rfl, rfl⟩ := Prod.mk.inj eq
  have boundA := Nat.mod_lt (i + j + replica) (List.length_pos_iff.mpr neA)
  have boundB := Nat.mod_lt (i + j + replica) (List.length_pos_iff.mpr neB)
  rw [List.getD_eq_getElem _ _ boundA, List.getD_eq_getElem _ _ boundB]
  exact ⟨List.getElem_mem boundA, List.getElem_mem boundB⟩

/-- The rotation does not depend on which of the two racks comes first. -/
theorem mem_rackReplicas_swap :
    (d, s) ∈ rackReplicas j i b a count ↔ (s, d) ∈ rackReplicas i j a b count := by
  simp only [rackReplicas, List.mem_map, Prod.mk.injEq, Nat.add_comm j i]
  constructor <;> rintro ⟨replica, below, left, right⟩ <;> exact ⟨replica, below, right, left⟩

/-- Within the capacity of the larger rack the rotation meets no pair twice. -/
theorem rackReplicas_nodup (nodupA : a.Nodup) (nodupB : b.Nodup)
    (capacity : count ≤ max a.length b.length) : (rackReplicas i j a b count).Nodup := by
  have rotates : ∀ {names : List String}, names.Nodup → count ≤ names.length →
      ∀ x ∈ List.range count, ∀ y ∈ List.range count,
        names.getD ((i + j + x) % names.length) "" = names.getD ((i + j + y) % names.length) "" →
          x = y := by
    intro names nodup le x memX y memY same
    rw [List.mem_range] at memX memY
    have positive : 0 < names.length := by omega
    rw [List.getD_eq_getElem _ _ (Nat.mod_lt _ positive),
      List.getD_eq_getElem _ _ (Nat.mod_lt _ positive), nodup.getElem_inj_iff] at same
    exact rotation_injOn (by simpa using Nat.lt_of_lt_of_le memX le)
      (by simpa using Nat.lt_of_lt_of_le memY le) same
  apply List.Nodup.map_on _ List.nodup_range
  intro x memX y memY same
  obtain ⟨sameA, sameB⟩ := Prod.mk.inj same
  -- The longer rack turns less than once.
  rcases Nat.le_total a.length b.length with le | le
  · exact rotates nodupB (by omega) x memX y memY sameB
  · exact rotates nodupA (by omega) x memX y memY sameA

end Replicas

/-- The client pairs of one iteration of the rack pair loop. -/
def pairReplicas (policy : PingmeshPolicy)
    (pair : ((String × List String) × Nat) × ((String × List String) × Nat)) :
    List (String × String) :=
  rackReplicas pair.1.2 pair.2.2 pair.1.1.2 pair.2.1.2
    (policy.rackPairCount pair.1.1.2 pair.2.1.2)

/-- What a successful rack pair loop has done: no pair exceeded its capacity, and the
replicas of every pair were added in both directions. -/
theorem matchRackPairs_spec {policy : PingmeshPolicy}
    {pairs : List (((String × List String) × Nat) × ((String × List String) × Nat))}
    {m m' : Matching} (done : pairs.foldlM (matchRackPair policy) m = .ok m') :
    (∀ pair ∈ pairs, policy.rackPairCount pair.1.1.2 pair.2.1.2 ≤
        max pair.1.1.2.length pair.2.1.2.length) ∧
      (∀ s d, d ∈ m'.peers s ↔ d ∈ m.peers s ∨
        ∃ pair ∈ pairs, (s, d) ∈ pairReplicas policy pair ∨ (d, s) ∈ pairReplicas policy pair) ∧
      (m.peers.Nodup → m'.peers.Nodup) := by
  induction pairs generalizing m with
  | nil =>
      rw [List.foldlM_nil, pure_eq_ok] at done
      subst done
      simp
  | cons pair pairs ih =>
      rw [List.foldlM_cons, bind_eq_ok] at done
      obtain ⟨next, first, rest⟩ := done
      obtain ⟨capacity, peers, nodup⟩ := ih rest
      simp only [matchRackPair, bind_eq_ok, reject_eq_ok, pure_eq_ok] at first
      obtain ⟨_, within, rfl⟩ := first
      refine ⟨?_, ?_, fun start => nodup start.foldl_addBoth⟩
      · intro other mem
        rcases List.mem_cons.mp mem with rfl | later
        · exact Nat.le_of_not_lt within
        · exact capacity other later
      · intro s d
        rw [peers, Peers.mem_foldl_addBoth]
        simp only [List.mem_cons, exists_eq_or_imp, or_assoc]
        rfl

/-! ## The rack lists of the loops -/

section Indexed

variable {clients : List Device} {left right : String} {i j : Nat}

/-- A rack at its position among the indexed racks. -/
def indexedRack (clients : List Device) (rack : String) (i : Nat) :
    (String × List String) × Nat :=
  ((rack, rackMembers clients rack), i)

theorem mem_indexed {entry : (String × List String) × Nat}
    (mem : entry ∈ (racksOf clients).entries.zipIdx) :
    ∃ rack i, entry = indexedRack clients rack i ∧ rackMembers clients rack ≠ [] := by
  obtain ⟨⟨rack, names⟩, i⟩ := entry
  have listed := List.fst_mem_of_mem_zipIdx mem
  obtain ⟨rfl, ne⟩ := (racksOf_spec clients rack names).mp (Dict.mem_entries.mp listed)
  exact ⟨rack, i, rfl, ne⟩

theorem exists_indexed {rack : String} (ne : rackMembers clients rack ≠ []) :
    ∃ i, indexedRack clients rack i ∈ (racksOf clients).entries.zipIdx := by
  have listed := (racksOf_spec clients rack _).mpr ⟨rfl, ne⟩
  obtain ⟨i, atI⟩ := List.mem_iff_getElem?.mp (Dict.mem_entries.mpr listed)
  exact ⟨i, List.mk_mem_zipIdx_iff_getElem?.mpr atI⟩

/-- A rack has one position. -/
theorem indexed_unique {rack : String} (memLeft : indexedRack clients rack i ∈ (racksOf clients).entries.zipIdx)
    (memRight : indexedRack clients rack j ∈ (racksOf clients).entries.zipIdx) : i = j := by
  have nodup := (racksOf clients).nodup.of_map
  obtain ⟨boundI, atI⟩ := List.getElem?_eq_some_iff.mp (List.mk_mem_zipIdx_iff_getElem?.mp memLeft)
  obtain ⟨boundJ, atJ⟩ := List.getElem?_eq_some_iff.mp (List.mk_mem_zipIdx_iff_getElem?.mp memRight)
  exact nodup.getElem_inj_iff.mp (atI.trans atJ.symm)

theorem indexed_keys_ne :
    (racksOf clients).entries.zipIdx.Pairwise fun a b => a.1.1 ≠ b.1.1 := by
  have nodup := (racksOf clients).nodup
  rw [← List.zipIdx_map_fst 0 (racksOf clients).entries, List.map_map] at nodup
  exact List.pairwise_map.mp nodup

/-- Every pair of the rack pair loop consists of two different racks at their positions. -/
theorem mem_rackPairs {pair : ((String × List String) × Nat) × ((String × List String) × Nat)}
    (mem : pair ∈ combinations2 (racksOf clients).entries.zipIdx) :
    ∃ left right i j, left ≠ right ∧
      pair = (indexedRack clients left i, indexedRack clients right j) ∧
      rackMembers clients left ≠ [] ∧ rackMembers clients right ≠ [] := by
  obtain ⟨a, b⟩ := pair
  obtain ⟨memA, memB⟩ := mem_of_mem_combinations2 mem
  obtain ⟨left, i, rfl, neLeft⟩ := mem_indexed memA
  obtain ⟨right, j, rfl, neRight⟩ := mem_indexed memB
  exact ⟨left, right, i, j, rel_of_mem_combinations2 indexed_keys_ne mem, rfl, neLeft, neRight⟩

end Indexed

/-- Within the racks, two clients are peers exactly when they share one. -/
theorem mem_rackMesh {clients : List Device} (nodup : (clients.map Device.name).Nodup)
    {s d : String} :
    d ∈ rackMesh (racksOf clients) s ↔
      ∃ rack, s ∈ rackMembers clients rack ∧ d ∈ rackMembers clients rack ∧ s ≠ d := by
  rw [rackMesh, Peers.mem_foldl_add]
  simp only [List.not_mem_nil, false_or, List.mem_flatMap, Dict.mem_values, racksOf_spec]
  constructor
  · intro listed
    obtain ⟨names, ⟨rack, eq, _⟩, mem⟩ := listed
    subst eq
    exact ⟨rack, (mem_permutations2 (rackMembers_nodup nodup rack)).mp mem⟩
  · intro shared
    obtain ⟨rack, both⟩ := shared
    exact ⟨_, ⟨rack, rfl, List.ne_nil_of_mem both.1⟩,
      (mem_permutations2 (rackMembers_nodup nodup rack)).mpr both⟩

/-! ## The relation -/

/-- `policy.cross_rack_pairs or max(len(a), len(b))` for two racks of the client list. -/
def PingmeshPolicy.pairCount (policy : PingmeshPolicy) (clients : List Device)
    (left right : String) : Nat :=
  policy.rackPairCount (rackMembers clients left) (rackMembers clients right)

/-- The peer relation that a successful run of the rack loops leaves: the clients of one
rack are peers of each other, the clients of two racks are peers as the replicas of the
two racks say, and nobody else is. -/
structure Peers.Correct (policy : PingmeshPolicy) (clients : List Device) (peers : Peers) :
    Prop where
  nodup : peers.Nodup
  known : ∀ {s d}, d ∈ peers s → d ∈ clients.map Device.name
  symmetric : ∀ {s d}, d ∈ peers s → s ∈ peers d
  sameRack : ∀ {rack s d}, s ∈ rackMembers clients rack → d ∈ rackMembers clients rack →
    (d ∈ peers s ↔ s ≠ d)
  crossRack : ∀ {left right}, left ≠ right → rackMembers clients left ≠ [] →
    rackMembers clients right ≠ [] →
      policy.pairCount clients left right ≤
        max (rackMembers clients left).length (rackMembers clients right).length ∧
      ∃ i j, ∀ {s d}, s ∈ rackMembers clients left → d ∈ rackMembers clients right →
        (d ∈ peers s ↔ (s, d) ∈ rackReplicas i j (rackMembers clients left)
          (rackMembers clients right) (policy.pairCount clients left right))

theorem PingmeshPolicy.pairCount_comm (policy : PingmeshPolicy) (clients : List Device)
    (left right : String) :
    policy.pairCount clients left right = policy.pairCount clients right left := by
  simp only [PingmeshPolicy.pairCount, PingmeshPolicy.rackPairCount, Nat.max_comm]

theorem mem_rackMembers_self {clients : List Device} {name : String}
    (mem : name ∈ clients.map Device.name) : ∃ rack, name ∈ rackMembers clients rack := by
  obtain ⟨client, memClient, rfl⟩ := List.mem_map.mp mem
  exact ⟨_, mem_rackMembers.mpr ⟨client, memClient, rfl, rfl⟩⟩

theorem mem_names_of_mem_rackMembers {clients : List Device} {rack name : String}
    (mem : name ∈ rackMembers clients rack) : name ∈ clients.map Device.name := by
  obtain ⟨client, memClient, -, rfl⟩ := mem_rackMembers.mp mem
  exact List.mem_map_of_mem memClient

section MatchRacks

variable {policy : PingmeshPolicy} {clients : List Device} {m : Matching}

/-- The replicas of a pair of indexed racks lie in the two racks. -/
theorem mem_racks_of_mem_pairReplicas {left right s d : String} {i j : Nat}
    (neLeft : rackMembers clients left ≠ []) (neRight : rackMembers clients right ≠ [])
    (mem : (s, d) ∈ pairReplicas policy (indexedRack clients left i, indexedRack clients right j)) :
    s ∈ rackMembers clients left ∧ d ∈ rackMembers clients right :=
  mem_of_mem_rackReplicas neLeft neRight mem

theorem pairReplicas_swap {left right s d : String} {i j : Nat} :
    (d, s) ∈ pairReplicas policy (indexedRack clients right j, indexedRack clients left i) ↔
      (s, d) ∈ rackReplicas i j (rackMembers clients left) (rackMembers clients right)
        (policy.pairCount clients left right) := by
  rw [PingmeshPolicy.pairCount_comm]
  exact mem_rackReplicas_swap

/-- Across two racks, the peers are the replicas of the one combination of the two. -/
theorem mem_crossRack (nodup : (clients.map Device.name).Nodup) {left right s d : String}
    {i j : Nat} (ne : left ≠ right)
    (atLeft : indexedRack clients left i ∈ (racksOf clients).entries.zipIdx)
    (atRight : indexedRack clients right j ∈ (racksOf clients).entries.zipIdx)
    (memLeft : s ∈ rackMembers clients left) (memRight : d ∈ rackMembers clients right) :
    (∃ pair ∈ combinations2 (racksOf clients).entries.zipIdx,
        (s, d) ∈ pairReplicas policy pair ∨ (d, s) ∈ pairReplicas policy pair) ↔
      (s, d) ∈ rackReplicas i j (rackMembers clients left) (rackMembers clients right)
        (policy.pairCount clients left right) := by
  constructor
  · rintro ⟨pair, mem, found⟩
    obtain ⟨left', right', i', j', -, rfl, neLeft, neRight⟩ := mem_rackPairs mem
    obtain ⟨atLeft', atRight'⟩ := mem_of_mem_combinations2 mem
    rcases found with found | found
    · obtain ⟨inLeft, inRight⟩ := mem_racks_of_mem_pairReplicas neLeft neRight found
      obtain rfl := rack_unique nodup memLeft inLeft
      obtain rfl := rack_unique nodup memRight inRight
      obtain rfl := indexed_unique atLeft atLeft'
      obtain rfl := indexed_unique atRight atRight'
      exact found
    · obtain ⟨inLeft, inRight⟩ := mem_racks_of_mem_pairReplicas neLeft neRight found
      obtain rfl := rack_unique nodup memRight inLeft
      obtain rfl := rack_unique nodup memLeft inRight
      obtain rfl := indexed_unique atRight atLeft'
      obtain rfl := indexed_unique atLeft atRight'
      exact pairReplicas_swap.mp found
  · intro replica
    have distinct : indexedRack clients left i ≠ indexedRack clients right j := fun eq =>
      ne (congrArg (fun entry => entry.1.1) eq)
    rcases combinations2_complete atLeft atRight distinct with mem | mem
    · exact ⟨_, mem, .inl replica⟩
    · exact ⟨_, mem, .inr (pairReplicas_swap.mpr replica)⟩

theorem matchRacks_correct (nodup : (clients.map Device.name).Nodup)
    (done : matchRacks policy (racksOf clients) = .ok m) : m.peers.Correct policy clients := by
  obtain ⟨capacity, peers, keepsNodup⟩ := matchRackPairs_spec done
  refine ⟨keepsNodup ?_, ?_, ?_, ?_, ?_⟩
  · exact Peers.Nodup.foldl_add fun _ => List.nodup_nil
  · intro s d peer
    rcases (peers s d).mp peer with mesh | ⟨pair, mem, found⟩
    · obtain ⟨rack, -, inRack, -⟩ := (mem_rackMesh nodup).mp mesh
      exact mem_names_of_mem_rackMembers inRack
    · obtain ⟨left, right, i, j, -, rfl, neLeft, neRight⟩ := mem_rackPairs mem
      rcases found with found | found
      · exact mem_names_of_mem_rackMembers (mem_racks_of_mem_pairReplicas neLeft neRight found).2
      · exact mem_names_of_mem_rackMembers (mem_racks_of_mem_pairReplicas neLeft neRight found).1
  · intro s d peer
    refine (peers d s).mpr ?_
    rcases (peers s d).mp peer with mesh | ⟨pair, mem, found⟩
    · obtain ⟨rack, inS, inD, ne⟩ := (mem_rackMesh nodup).mp mesh
      exact .inl ((mem_rackMesh nodup).mpr ⟨rack, inD, inS, ne.symm⟩)
    · exact .inr ⟨pair, mem, found.symm⟩
  · intro rack s d inS inD
    rw [peers, mem_rackMesh nodup]
    constructor
    · rintro (⟨_, _, _, ne⟩ | ⟨pair, mem, found⟩)
      · exact ne
      · obtain ⟨left, right, i, j, ne, rfl, neLeft, neRight⟩ := mem_rackPairs mem
        -- A replica would put the rack on both sides of a pair.
        have apart : ∀ {s d}, s ∈ rackMembers clients rack → d ∈ rackMembers clients rack →
            (s, d) ∉ pairReplicas policy (indexedRack clients left i,
              indexedRack clients right j) := by
          intro s d inS inD found
          obtain ⟨inLeft, inRight⟩ := mem_racks_of_mem_pairReplicas neLeft neRight found
          exact ne ((rack_unique nodup inLeft inS).trans (rack_unique nodup inD inRight))
        rcases found with found | found
        · exact (apart inS inD found).elim
        · exact (apart inD inS found).elim
    · intro ne
      exact .inl ⟨rack, inS, inD, ne⟩
  · intro left right ne neLeft neRight
    obtain ⟨i, atLeft⟩ := exists_indexed neLeft
    obtain ⟨j, atRight⟩ := exists_indexed neRight
    refine ⟨?_, i, j, ?_⟩
    · have distinct : indexedRack clients left i ≠ indexedRack clients right j := fun eq =>
        ne (congrArg (fun entry => entry.1.1) eq)
      rcases combinations2_complete atLeft atRight distinct with mem | mem
      · exact capacity _ mem
      · rw [PingmeshPolicy.pairCount_comm, Nat.max_comm]
        exact capacity _ mem
    · intro s d inS inD
      rw [peers, mem_rackMesh nodup, ← mem_crossRack nodup ne atLeft atRight inS inD]
      refine or_iff_right ?_
      rintro ⟨rack, inRack, inRack', -⟩
      exact ne ((rack_unique nodup inS inRack).trans (rack_unique nodup inRack' inD))

end MatchRacks

namespace Peers.Correct

variable {policy : PingmeshPolicy} {clients : List Device} {peers : Peers}

theorem irreflexive (correct : peers.Correct policy clients) (s : String) : s ∉ peers s := by
  intro peer
  obtain ⟨rack, inRack⟩ := mem_rackMembers_self (correct.known peer)
  exact (correct.sameRack inRack inRack).mp peer rfl

/-- The client pairs from one rack to another are as many as the policy says. -/
theorem crossPairs (correct : peers.Correct policy clients)
    (nodup : (clients.map Device.name).Nodup) {left right : String} (ne : left ≠ right)
    (neLeft : rackMembers clients left ≠ []) (neRight : rackMembers clients right ≠ []) :
    ((rackMembers clients left ×ˢ rackMembers clients right).filter fun pair =>
        pair.2 ∈ peers pair.1).length = policy.pairCount clients left right := by
  obtain ⟨capacity, i, j, replicas⟩ := correct.crossRack ne neLeft neRight
  have same : ((rackMembers clients left ×ˢ rackMembers clients right).filter fun pair =>
      pair.2 ∈ peers pair.1).Perm (rackReplicas i j (rackMembers clients left)
        (rackMembers clients right) (policy.pairCount clients left right)) := by
    apply (List.perm_ext_iff_of_nodup _ _).mpr
    · rintro ⟨s, d⟩
      simp only [List.mem_filter, List.mem_product, decide_eq_true_eq]
      constructor
      · rintro ⟨⟨inLeft, inRight⟩, peer⟩
        exact (replicas inLeft inRight).mp peer
      · intro replica
        obtain ⟨inLeft, inRight⟩ := mem_of_mem_rackReplicas neLeft neRight replica
        exact ⟨⟨inLeft, inRight⟩, (replicas inLeft inRight).mpr replica⟩
    · exact ((rackMembers_nodup nodup left).product (rackMembers_nodup nodup right)).filter _
    · exact rackReplicas_nodup (rackMembers_nodup nodup left) (rackMembers_nodup nodup right) capacity
  rw [same.length_eq, rackReplicas_length]

end Peers.Correct

end NetOpsBench
