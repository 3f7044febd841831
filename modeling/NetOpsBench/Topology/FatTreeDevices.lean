import Mathlib.Data.List.ProdSigma
import NetOpsBench.Topology.ConfigDbRoundTrip
import NetOpsBench.Topology.FatTreeBuilder
import NetOpsBench.Topology.FrrRoundTrip
import NetOpsBench.Topology.PlannedAddresses

/-!
# The switches of a fat tree

Every core, aggregation and edge switch that `build_fat_tree_plan` plans is rendered to texts that
are read back. The addresses of the fabric links are distinct because their places among the sorted
links are.
-/

namespace NetOpsBench

open Fallible

variable {config : FatTreeConfig} {addressing : ManagementAddressing}
  {clientAddressing : ClientAddressing} {device : DevicePlan} {index : Nat}

namespace FatTreeConfig

/-- What `_validate_config` has checked. -/
structure Valid (config : FatTreeConfig) : Prop where
  edges : 1 ≤ config.numTotalEdge ∧ config.numTotalEdge ≤ 255
  routers : config.numCore ≤ 255 ∧ config.numTotalAgg ≤ 255
  asns : 64512 ≤ config.asnBase ∧
    config.asnBase + config.numCore + config.numTotalAgg + config.numTotalEdge - 1 ≤ 65534
  links : config.k * config.half * config.half ≤ 16384

theorem valid_of_validate (done : config.validate = .ok ()) : config.Valid := by
  unfold validate at done
  simp only [bind_eq_ok, reject_eq_ok, not_or, not_not, Nat.not_lt, Int.not_lt] at done
  obtain ⟨clientAddressing, created, _, routers, _, asns, links⟩ := done
  obtain ⟨-, -, lowEdges, highEdges, -⟩ := ClientAddressing.create_eq_ok created
  constructor
  · omega
  · omega
  · exact asns
  · exact links

/-! ## The links -/

theorem globalIndex_inj {pod pod' position position' : Nat} (pods : 1 ≤ pod ∧ 1 ≤ pod')
    (positions : 1 ≤ position ∧ position ≤ config.half)
    (positions' : 1 ≤ position' ∧ position' ≤ config.half)
    (same : config.globalIndex pod position = config.globalIndex pod' position') :
    pod = pod' ∧ position = position' := by
  unfold globalIndex at same
  obtain ⟨samePod, samePosition⟩ := @quotient_inj config.half (pod - 1) (position - 1) (pod' - 1)
    (position' - 1) (by omega) (by omega) (by omega)
  omega

/-- A triple loop that makes a different link in each turn. -/
theorem nodup_tripleLoop {pods positions : List Nat} {link : Nat → Nat → Nat → Nat × Nat}
    (nodupPods : pods.Nodup) (nodupPositions : positions.Nodup)
    (apart : ∀ p ∈ pods, ∀ a ∈ positions, ∀ b ∈ positions, ∀ p' ∈ pods, ∀ a' ∈ positions,
      ∀ b' ∈ positions, link p a b = link p' a' b' → p = p' ∧ a = a' ∧ b = b') :
    (pods.flatMap fun p => positions.flatMap fun a => positions.map fun b => link p a b).Nodup := by
  have product : (pods.flatMap fun p => positions.flatMap fun a => positions.map fun b =>
      link p a b) =
        (pods ×ˢ (positions ×ˢ positions)).map fun turn => link turn.1 turn.2.1 turn.2.2 := by
    simp [SProd.sprod, List.product, List.map_flatMap, Function.comp_def]
  rw [product]
  apply List.Nodup.map_on _ (nodupPods.product (nodupPositions.product nodupPositions))
  intro turn mem turn' mem' same
  obtain ⟨p, a, b⟩ := turn
  obtain ⟨p', a', b'⟩ := turn'
  simp only [List.mem_product] at mem mem'
  obtain ⟨rfl, rfl, rfl⟩ := apart p mem.1 a mem.2.1 b mem.2.2 p' mem'.1 a' mem'.2.1 b' mem'.2.2 same
  rfl

theorem nodup_coreAggLinks (config : FatTreeConfig) : config.coreAggLinks.Nodup := by
  apply nodup_tripleLoop (nodup_indices _) (nodup_indices _)
  intro p memP a memA b memB p' memP' a' memA' b' memB' same
  rw [mem_indices] at memP memA memB memP' memA' memB'
  obtain ⟨sameCore, sameAgg⟩ := Prod.mk.inj same
  obtain ⟨samePod, sameLocal⟩ := globalIndex_inj ⟨memP.1, memP'.1⟩ memA memA' sameAgg
  subst sameLocal
  exact ⟨samePod, rfl, by omega⟩

theorem nodup_aggEdgeLinks (config : FatTreeConfig) : config.aggEdgeLinks.Nodup := by
  apply nodup_tripleLoop (nodup_indices _) (nodup_indices _)
  intro p memP a memA b memB p' memP' a' memA' b' memB' same
  rw [mem_indices] at memP memA memB memP' memA' memB'
  obtain ⟨sameAgg, sameEdge⟩ := Prod.mk.inj same
  obtain ⟨samePod, sameLocal⟩ := globalIndex_inj ⟨memP.1, memP'.1⟩ memA memA' sameAgg
  obtain ⟨-, sameLower⟩ := globalIndex_inj ⟨memP.1, memP'.1⟩ memB memB' sameEdge
  exact ⟨samePod, sameLocal, sameLower⟩

theorem length_tripleLoop {α : Type} (k half : Nat) (link : Nat → Nat → Nat → α) :
    ((indices k).flatMap fun p => (indices half).flatMap fun a => (indices half).map fun b =>
      link p a b).length = k * half * half := by
  simp [List.length_flatMap, indices, Nat.mul_assoc]

theorem length_coreAggLinks (config : FatTreeConfig) :
    config.coreAggLinks.length = config.k * config.half * config.half := length_tripleLoop _ _ _

theorem length_aggEdgeLinks (config : FatTreeConfig) :
    config.aggEdgeLinks.length = config.k * config.half * config.half := length_tripleLoop _ _ _

theorem nodup_below {links : List (Nat × Nat)} (distinct : links.Nodup) (upper : Nat) :
    (below links upper).Nodup := by
  apply (Sorting.sorted_perm _ _).nodup_iff.mpr
  apply List.Nodup.map_on _ (distinct.filter _)
  intro a memA b memB same
  rw [List.mem_filter, decide_eq_true_eq] at memA memB
  exact Prod.ext (memA.2.trans memB.2.symm) same

theorem nodup_above {links : List (Nat × Nat)} (distinct : links.Nodup) (lower : Nat) :
    (above links lower).Nodup := by
  apply (Sorting.sorted_perm _ _).nodup_iff.mpr
  apply List.Nodup.map_on _ (distinct.filter _)
  intro a memA b memB same
  rw [List.mem_filter, decide_eq_true_eq] at memA memB
  exact Prod.ext same (memA.2.trans memB.2.symm)

/-! ## The addresses of the links -/

/-- The addresses of a link are those of its place among the sorted links. -/
theorem findIps_eq_ok {pool : Nat} {links : List (Nat × Nat)} {link : Nat × Nat}
    {ips : String × String} (found : findIps (linkIps pool links) link = .ok ips) :
    ∃ i < links.length, (sortedLinks links)[i]? = some link ∧
      ips = (Ipv4.text (pool + 4 * i + 1), Ipv4.text (pool + 4 * i + 2)) := by
  unfold findIps at found
  cases known : (linkIps pool links).get link with
  | none =>
    rw [known] at found
    cases found
  | some ips' =>
    rw [known] at found
    cases found
    obtain ⟨⟨link', i⟩, mem, entry⟩ := List.mem_map.mp (Dict.mem_of_get_ofEntries known)
    cases entry
    have atI := List.mk_mem_zipIdx_iff_getElem?.mp mem
    refine ⟨i, ?_, atI, rfl⟩
    have inside := (List.getElem?_eq_some_iff.mp atI).1
    rwa [sortedLinks, (Sorting.sorted_perm _ _).length_eq] at inside

/-- One of the two hosts of a link. -/
structure Side (side : String × String → String) (host : Nat) : Prop where
  isHost : host = 1 ∨ host = 2
  text : ∀ n, side (Ipv4.text (n + 1), Ipv4.text (n + 2)) = Ipv4.text (n + host)

theorem upperSide : Side Prod.fst 1 := ⟨.inl rfl, fun _ => rfl⟩

theorem lowerSide : Side Prod.snd 2 := ⟨.inr rfl, fun _ => rfl⟩

/-- What a loop over the links of a switch reads. -/
theorem linkIps_mapM {pool host : Nat} {links : List (Nat × Nat)} {peers : List Nat}
    {toLink : Nat → Nat × Nat} {ips : List (String × String)} {side : String × String → String}
    (isSide : Side side host) (inside : pool + 4 * links.length ≤ 2 ^ 32)
    (done : (peers.mapM fun peer => findIps (linkIps pool links) (toLink peer)) = .ok ips)
    (distinct : peers.Nodup) (apart : ∀ a b, toLink a = toLink b → a = b) :
    (ips.map side).Nodup ∧ ∀ ip ∈ ips.map side,
      ∃ n, pool < n ∧ n < pool + 4 * links.length ∧ ip = Ipv4.text n := by
  have hosts := isSide.isHost
  constructor
  · apply nodup_of_mapM done distinct
    intro a _ b _ x y left right same
    obtain ⟨i, iLt, atI, rfl⟩ := findIps_eq_ok left
    obtain ⟨j, jLt, atJ, rfl⟩ := findIps_eq_ok right
    rw [isSide.text, isSide.text] at same
    have numbers := Ipv4.text_inj (by omega) (by omega) same
    have places : i = j := by omega
    subst places
    rw [atI, Option.some.injEq] at atJ
    exact apart a b atJ
  · intro ip mem
    obtain ⟨pair, memPair, rfl⟩ := List.mem_map.mp mem
    obtain ⟨peer, -, found⟩ := (mem_of_mapM done).mp memPair
    obtain ⟨i, iLt, -, rfl⟩ := findIps_eq_ok found
    exact ⟨pool + 4 * i + host, by omega, by omega, isSide.text _⟩

/-- The neighbors of a switch have the addresses of its links. -/
theorem map_peerIp_zip {peers : List Nat} {ips : List (String × String)}
    {side : String × String → String} {asn : Nat → Int} (lengths : peers.length = ips.length) :
    ((peers.zip ips).map fun entry => BgpNeighborPlan.mk (side entry.2) (asn entry.1)).map
      BgpNeighborPlan.peerIp = ips.map side := by
  rw [List.map_map]
  have seconds : (fun entry : Nat × (String × String) => side entry.2) = side ∘ Prod.snd := rfl
  change (peers.zip ips).map (fun entry => side entry.2) = _
  rw [seconds, ← List.map_map, List.map_snd_zip (Nat.le_of_eq lengths.symm)]

theorem mem_portEntries {first : Nat} {ips : List String} {name : String} {cidrs : List String}
    (mem : (name, cidrs) ∈ portEntries first ips) :
    (∃ lane : Nat, name = "Ethernet" ++ toString lane) ∧ ∃ ip ∈ ips, cidrs = [ip ++ "/30"] := by
  obtain ⟨⟨ip, port⟩, memIp, entry⟩ := List.mem_map.mp mem
  cases entry
  exact ⟨sonicPortName_lane port, ip, List.fst_mem_of_mem_zipIdx memIp, rfl⟩

/-! ## Addresses of the two tiers of links -/

theorem Valid.coreAgg_inside (valid : config.Valid) :
    coreAggPool + 4 * config.coreAggLinks.length ≤ aggEdgePool := by
  have links := valid.links
  rw [length_coreAggLinks]
  unfold coreAggPool aggEdgePool
  omega

theorem Valid.aggEdge_inside (valid : config.Valid) :
    aggEdgePool + 4 * config.aggEdgeLinks.length ≤ 2 ^ 32 := by
  have links := valid.links
  rw [length_aggEdgeLinks]
  unfold aggEdgePool
  omega

theorem Valid.coreAgg_bound (valid : config.Valid) :
    coreAggPool + 4 * config.coreAggLinks.length ≤ 2 ^ 32 := by
  have inside := valid.coreAgg_inside
  unfold aggEdgePool at inside
  omega

theorem mapM_length {α β : Type} {f : α → Except String β} {xs : List α} {ys : List β}
    (done : xs.mapM f = .ok ys) : xs.length = ys.length := (mapM_eq_ok.mp done).length_eq

theorem pair_right (a : Nat) : ∀ b c : Nat, (a, b) = (a, c) → b = c :=
  fun _ _ same => (Prod.mk.inj same).2

theorem pair_left (a : Nat) : ∀ b c : Nat, (b, a) = (c, a) → b = c :=
  fun _ _ same => (Prod.mk.inj same).1

/-- The words and the numbers of the neighbors that a loop over links makes. -/
theorem solid_zip {peers : List Nat} {ips : List (String × String)}
    {side : String × String → String} {asn : Nat → Int} {low high : Nat}
    (texts : ∀ ip ∈ ips.map side, ∃ n, low < n ∧ n < high ∧ ip = Ipv4.text n)
    (nonneg : ∀ peer, 0 ≤ asn peer) {neighbor : BgpNeighborPlan}
    (mem : neighbor ∈ (peers.zip ips).map fun entry =>
      BgpNeighborPlan.mk (side entry.2) (asn entry.1)) :
    Text.Solid neighbor.peerIp ∧ 0 ≤ neighbor.remoteAs := by
  obtain ⟨entry, memEntry, rfl⟩ := List.mem_map.mp mem
  obtain ⟨n, -, -, isText⟩ := texts (side entry.2)
    (List.mem_map_of_mem (List.of_mem_zip (show (entry.1, entry.2) ∈ _ from memEntry)).2)
  constructor
  · simp only [isText]
    exact Ipv4.solid_text n
  · exact nonneg entry.1

theorem Valid.coreAsn_nonneg (valid : config.Valid) (core : Nat) : 0 ≤ config.coreAsn core := by
  have start := valid.asns.1
  unfold coreAsn coreAsnStart
  omega

theorem Valid.aggAsn_nonneg (valid : config.Valid) (agg : Nat) : 0 ≤ config.aggAsn agg := by
  have start := valid.asns.1
  unfold aggAsn aggAsnStart coreAsnStart
  omega

theorem Valid.edgeAsn_nonneg (valid : config.Valid) (edge : Nat) : 0 ≤ config.edgeAsn edge := by
  have start := valid.asns.1
  unfold edgeAsn edgeAsnStart aggAsnStart coreAsnStart
  omega

/-- The ports that a loop over addresses makes. -/
theorem readable_portEntries {first : Nat} {ips : List String}
    (texts : ∀ ip ∈ ips, ∃ n < 2 ^ 32, ip = Ipv4.text n) {name : String} {cidrs : List String}
    (mem : (name, cidrs) ∈ portEntries first ips) :
    (∃ lane : Nat, name = "Ethernet" ++ toString lane) ∧
      ∃ n < 2 ^ 32, cidrs = [Ipv4.text n ++ "/30"] := by
  obtain ⟨lane, ip, memIp, rfl⟩ := mem_portEntries mem
  obtain ⟨n, below, rfl⟩ := texts ip memIp
  exact ⟨lane, n, below, rfl⟩

theorem text_bound {ips : List String} {low high : Nat} (bound : high ≤ 2 ^ 32)
    (texts : ∀ ip ∈ ips, ∃ n, low < n ∧ n < high ∧ ip = Ipv4.text n) :
    ∀ ip ∈ ips, ∃ n < 2 ^ 32, ip = Ipv4.text n := by
  intro ip mem
  obtain ⟨n, -, below, isText⟩ := texts ip mem
  exact ⟨n, by omega, isText⟩

/-! ## Core switches -/

theorem core_renderable (valid : config.Valid)
    (made : config.coreDevicePlan addressing index = .ok device) :
    Renderable device ∧ PortsReadable device := by
  unfold coreDevicePlan at made
  simp only [bind_eq_ok, pure_eq_ok] at made
  obtain ⟨mgmtIp, -, ips, looked, rfl⟩ := made
  have distinct := nodup_below config.nodup_coreAggLinks index
  have lower := linkIps_mapM lowerSide valid.coreAgg_bound looked distinct (pair_right index)
  have upper := linkIps_mapM upperSide valid.coreAgg_bound looked distinct (pair_right index)
  constructor
  · constructor
    · exact (solid_literal (by rfl)).append (Text.Solid.toString index)
    · exact ⟨_, rfl, (solid_literal (by rfl)).append (Text.Solid.toString index)⟩
    · exact ⟨_, congrArg some (Int.toNat_of_nonneg (valid.coreAsn_nonneg index)).symm⟩
    · exact (map_peerIp_zip (mapM_length looked)).symm ▸ lower.1
    · intro neighbor mem
      exact solid_zip lower.2 valid.aggAsn_nonneg mem
    · exact List.nodup_nil
    · intro network memNetwork
      cases memNetwork
  · intro name cidrs planned
    exact readable_portEntries (text_bound valid.coreAgg_bound upper.2)
      (Dict.mem_of_get_ofEntries planned)

/-! ## Aggregation switches -/

theorem agg_renderable (valid : config.Valid)
    (made : config.aggDevicePlan addressing index = .ok device) :
    Renderable device ∧ PortsReadable device := by
  unfold aggDevicePlan at made
  simp only [bind_eq_ok, pure_eq_ok] at made
  obtain ⟨mgmtIp, -, pod, -, coreIps, lookedCores, edgeIps, lookedEdges, rfl⟩ := made
  have cores := nodup_above config.nodup_coreAggLinks index
  have edges := nodup_below config.nodup_aggEdgeLinks index
  have coreUpper := linkIps_mapM upperSide valid.coreAgg_bound lookedCores cores (pair_left index)
  have coreLower := linkIps_mapM lowerSide valid.coreAgg_bound lookedCores cores (pair_left index)
  have edgeUpper := linkIps_mapM upperSide valid.aggEdge_inside lookedEdges edges (pair_right index)
  have edgeLower := linkIps_mapM lowerSide valid.aggEdge_inside lookedEdges edges (pair_right index)
  constructor
  · constructor
    · exact (solid_literal (by rfl)).append (Text.Solid.toString index)
    · exact ⟨_, rfl, (solid_literal (by rfl)).append (Text.Solid.toString index)⟩
    · exact ⟨_, congrArg some (Int.toNat_of_nonneg (valid.aggAsn_nonneg index)).symm⟩
    · -- the two tiers of links have addresses of different pools
      have parts : (coreIps.map Prod.fst ++ edgeIps.map Prod.snd).Nodup := by
        apply List.nodup_append'.mpr
        refine ⟨coreUpper.1, edgeLower.1, ?_⟩
        intro ip memCore memEdge
        obtain ⟨m, -, belowPool, isCore⟩ := coreUpper.2 ip memCore
        obtain ⟨n, abovePool, below, isEdge⟩ := edgeLower.2 ip memEdge
        have inside := valid.coreAgg_inside
        have bound := valid.aggEdge_inside
        have numbers := Ipv4.text_inj (by omega) (by omega) (isCore.symm.trans isEdge)
        omega
      rw [List.map_append]
      exact (congrArg₂ (· ++ ·) (map_peerIp_zip (mapM_length lookedCores))
        (map_peerIp_zip (mapM_length lookedEdges))).symm ▸ parts
    · intro neighbor mem
      rcases List.mem_append.mp mem with isCore | isEdge
      · exact solid_zip coreUpper.2 valid.coreAsn_nonneg isCore
      · exact solid_zip edgeLower.2 valid.edgeAsn_nonneg isEdge
    · exact List.nodup_nil
    · intro network memNetwork
      cases memNetwork
  · intro name cidrs planned
    rcases List.mem_append.mp (Dict.mem_of_get_ofEntries planned) with core | edge
    · exact readable_portEntries (text_bound valid.coreAgg_bound coreLower.2) core
    · exact readable_portEntries (text_bound valid.aggEdge_inside edgeUpper.2) edge

/-! ## Edge switches -/

theorem edge_renderable (valid : config.Valid)
    (made : config.edgeDevicePlan addressing clientAddressing index = .ok device) :
    Renderable device ∧ PortsReadable device := by
  unfold edgeDevicePlan at made
  simp only [bind_eq_ok, pure_eq_ok] at made
  obtain ⟨mgmtIp, -, pod, -, subnet, -, ips, looked, links, access, rfl⟩ := made
  have aggs := nodup_above config.nodup_aggEdgeLinks index
  have upper := linkIps_mapM upperSide valid.aggEdge_inside looked aggs (pair_left index)
  have lower := linkIps_mapM lowerSide valid.aggEdge_inside looked aggs (pair_left index)
  obtain ⟨distinct, solid⟩ := access_subnets access
  constructor
  · constructor
    · exact (solid_literal (by rfl)).append (Text.Solid.toString index)
    · exact ⟨_, rfl, (solid_literal (by rfl)).append (Text.Solid.toString index)⟩
    · exact ⟨_, congrArg some (Int.toNat_of_nonneg (valid.edgeAsn_nonneg index)).symm⟩
    · exact (map_peerIp_zip (mapM_length looked)).symm ▸ upper.1
    · intro neighbor mem
      exact solid_zip upper.2 valid.aggAsn_nonneg mem
    · exact distinct
    · intro network memNetwork
      obtain ⟨link, memLink, rfl⟩ := List.mem_map.mp memNetwork
      exact (solid link memLink).1
  · intro name cidrs planned
    rcases List.mem_append.mp (Dict.mem_of_get_ofEntries planned) with fabric | client
    · exact readable_portEntries (text_bound valid.aggEdge_inside lower.2) fabric
    · apply readable_portEntries _ client
      intro ip mem
      obtain ⟨link, memLink, rfl⟩ := List.mem_map.mp mem
      exact (solid link memLink).2

/-! ## The plan -/

theorem client_isClient {link : (Nat × Nat) × Nat}
    (made : config.clientDevicePlan addressing clientAddressing link = .ok device) :
    device.isClient = true := by
  unfold clientDevicePlan at made
  simp only [bind_eq_ok, pure_eq_ok] at made
  obtain ⟨access, -, mgmtIp, -, pod, -, rfl⟩ := made
  rfl

end FatTreeConfig

/-- What a fat-tree plan is made of. -/
theorem buildFatTreePlan_eq_ok {policyForScale : String → Except String PingmeshPolicy}
    {plan : FabricPlan} (done : buildFatTreePlan policyForScale config = .ok plan) :
    config.Valid ∧ ∃ clientAddressing addressing renderSettings corePlans aggPlans edgePlans
        clientPlans,
      ClientAddressing.create config.numTotalEdge config.clientsPerEdge = .ok clientAddressing ∧
      ManagementAddressing.create config.mgmtIpv4Subnet config.allocatedOffsets = .ok addressing ∧
      collectorSettings addressing config.collectorIp config.lastDeviceOffset false =
        .ok renderSettings ∧
      Records plan config.links addressing renderSettings ∧
      (indices config.numCore).mapM (config.coreDevicePlan addressing) = .ok corePlans ∧
      (indices config.numTotalAgg).mapM (config.aggDevicePlan addressing) = .ok aggPlans ∧
      (indices config.numTotalEdge).mapM (config.edgeDevicePlan addressing clientAddressing) =
        .ok edgePlans ∧
      config.accessLinks.mapM (config.clientDevicePlan addressing clientAddressing) =
        .ok clientPlans ∧
      plan.devicePlans = corePlans ++ aggPlans ++ edgePlans ++ clientPlans := by
  unfold buildFatTreePlan at done
  simp only [bind_eq_ok] at done
  obtain ⟨_, validated, clientAddressing, clients, addressing, managed, renderSettings, settings,
    corePlans, cores, aggPlans, aggs, edgePlans, edges, clientPlans, links, _, _, manifest, made, _, _,
    created⟩ := done
  refine ⟨FatTreeConfig.valid_of_validate validated, clientAddressing, addressing, renderSettings,
    corePlans, aggPlans, edgePlans, clientPlans, clients, managed, settings,
    records_of_created made created rfl rfl, cores, aggs, edges, links, ?_⟩
  rw [FabricPlan.create_eq_ok created]

theorem fatTreeSwitch_renderable {policyForScale : String → Except String PingmeshPolicy}
    {plan : FabricPlan} (done : buildFatTreePlan policyForScale config = .ok plan)
    (mem : device ∈ plan.switchPlans) : Renderable device ∧ PortsReadable device := by
  obtain ⟨valid, clientAddressing, addressing, -, corePlans, aggPlans, edgePlans, clientPlans, -, -,
    -, -, cores, aggs, edges, clients, plans⟩ := buildFatTreePlan_eq_ok done
  unfold FabricPlan.switchPlans at mem
  rw [List.mem_filter, plans] at mem
  obtain ⟨memPlans, isSwitch⟩ := mem
  simp only [List.mem_append] at memPlans
  rcases memPlans with ((isCore | isAgg) | isEdge) | isClient
  · obtain ⟨core, -, made⟩ := (mem_of_mapM cores).mp isCore
    exact FatTreeConfig.core_renderable valid made
  · obtain ⟨agg, -, made⟩ := (mem_of_mapM aggs).mp isAgg
    exact FatTreeConfig.agg_renderable valid made
  · obtain ⟨edge, -, made⟩ := (mem_of_mapM edges).mp isEdge
    exact FatTreeConfig.edge_renderable valid made
  · obtain ⟨link, -, made⟩ := (mem_of_mapM clients).mp isClient
    rw [FatTreeConfig.client_isClient made] at isSwitch
    cases isSwitch

end NetOpsBench
