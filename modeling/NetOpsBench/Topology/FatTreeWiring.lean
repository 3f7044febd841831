import NetOpsBench.Topology.FatTreeCabling

/-!
# The switches of a fat tree and their cables

Every core, aggregation and edge switch that `build_fat_tree_plan` plans has the ports, the neighbors
and the networks of its cables. The ports down from an aggregation or an edge switch begin after half
of its ports, and it has at most that many peers above.
-/

namespace NetOpsBench

open Fallible

namespace FatTreeConfig

variable {config : FatTreeConfig} {addressing : ManagementAddressing}
  {clientAddressing : ClientAddressing} {device : DevicePlan} {index : Nat}

/-! ## Peers above -/

/-- Distinct numbers of a range are at most as many as the range has. -/
theorem length_le_of_range {peers : List Nat} {start count : Nat} (distinct : peers.Nodup)
    (inside : ∀ peer ∈ peers, start ≤ peer ∧ peer < start + count) : peers.length ≤ count := by
  have contained : peers ⊆ List.range' start count := by
    intro peer mem
    rw [List.mem_range'_1]
    exact inside peer mem
  have lengths := (List.subperm_of_subset distinct contained).length_le
  rwa [List.length_range'] at lengths

/-- The pod of a switch and its place there are told by its number. -/
theorem globalIndex_block {pod position : Nat} (low : 1 ≤ position) (high : position ≤ config.half) :
    (config.globalIndex pod position - 1) / config.half = pod - 1 ∧
      (config.globalIndex pod position - 1) % config.half = position - 1 := by
  have inside : position - 1 < config.half := by omega
  have number : config.globalIndex pod position - 1 = config.half * (pod - 1) + (position - 1) := by
    unfold globalIndex
    rw [Nat.add_sub_assoc low, Nat.mul_comm]
  rw [number, Nat.mul_add_div (by omega), Nat.mul_add_mod_self_left, Nat.div_eq_of_lt inside,
    Nat.mod_eq_of_lt inside]
  exact ⟨Nat.add_zero _, rfl⟩

theorem length_cores_le (config : FatTreeConfig) (agg : Nat) :
    (above config.coreAggLinks agg).length ≤ config.half := by
  apply @length_le_of_range _ ((agg - 1) % config.half * config.half + 1) _
    (nodup_above config.nodup_coreAggLinks agg)
  intro core mem
  obtain ⟨pod, -, rest⟩ := List.mem_flatMap.mp (mem_above.mp mem)
  obtain ⟨localAgg, memAgg, rest⟩ := List.mem_flatMap.mp rest
  obtain ⟨coreOffset, memCore, isLink⟩ := List.mem_map.mp rest
  obtain ⟨rfl, rfl⟩ := Prod.mk.inj isLink
  rw [mem_indices] at memAgg memCore
  rw [(globalIndex_block memAgg.1 memAgg.2).2]
  omega

theorem length_aggs_le (config : FatTreeConfig) (edge : Nat) :
    (above config.aggEdgeLinks edge).length ≤ config.half := by
  apply @length_le_of_range _ ((edge - 1) / config.half * config.half + 1) _
    (nodup_above config.nodup_aggEdgeLinks edge)
  intro agg mem
  obtain ⟨pod, -, rest⟩ := List.mem_flatMap.mp (mem_above.mp mem)
  obtain ⟨localAgg, memAgg, rest⟩ := List.mem_flatMap.mp rest
  obtain ⟨localEdge, memEdge, isLink⟩ := List.mem_map.mp rest
  obtain ⟨rfl, rfl⟩ := Prod.mk.inj isLink
  rw [mem_indices] at memAgg memEdge
  rw [(globalIndex_block memEdge.1 memEdge.2).1]
  unfold globalIndex
  omega

/-- The ports of the peers above and of those below are distinct. -/
theorem portNames_nodup {uppers lowers : List String} {half : Nat} (few : uppers.length ≤ half) :
    ((portEntries 1 uppers ++ portEntries (half + 1) lowers).map Prod.fst).Nodup := by
  rw [List.map_append, portEntries_names, portEntries_names, ← List.map_append]
  apply nodup_portNames
  · intro port mem
    rw [List.mem_append, List.mem_range'_1, List.mem_range'_1] at mem
    omega
  · apply List.nodup_append'.mpr
    refine ⟨List.nodup_range', List.nodup_range', ?_⟩
    intro port isUpper isLower
    rw [List.mem_range'_1] at isUpper isLower
    omega

/-! ## Core switches -/

theorem core_wired (made : config.coreDevicePlan addressing index = .ok device) :
    SwitchWired config.tiers config.asnOf "core" index device := by
  unfold coreDevicePlan at made
  simp only [bind_eq_ok, pure_eq_ok] at made
  obtain ⟨mgmtIp, -, ips, looked, rfl⟩ := made
  constructor
  · rfl
  · simp
  · rfl
  · rfl
  · intro name cidrs
    rw [Dict.get_ofEntries, exists_tier]
    · have ports := @upper_ports index coreAggPool 0 _ _ name cidrs config.nodup_coreAggLinks looked
      simp [coreAggTier, aggEdgeTier, accessTier] at ports ⊢
      exact ports
    · rw [portEntries_names]
      apply nodup_portNames _ List.nodup_range'
      intro port mem
      exact (List.mem_range'_1.mp mem).1
  · intro neighbor
    have neighbors := @upper_neighbors index coreAggPool 0 _ _ config.aggAsn neighbor
      config.nodup_coreAggLinks looked
    rw [exists_tier]
    simp [coreAggTier, aggEdgeTier, accessTier, asnOf] at neighbors ⊢
    exact neighbors
  · intro network
    rw [exists_tier]
    simp [coreAggTier, aggEdgeTier, accessTier]

/-! ## Aggregation switches -/

theorem agg_wired (made : config.aggDevicePlan addressing index = .ok device) :
    SwitchWired config.tiers config.asnOf "agg" index device := by
  unfold aggDevicePlan at made
  simp only [bind_eq_ok, pure_eq_ok] at made
  obtain ⟨mgmtIp, -, pod, -, coreIps, lookedCores, edgeIps, lookedEdges, rfl⟩ := made
  have few : (coreIps.map Prod.snd).length ≤ config.half := by
    rw [List.length_map, length_findIps lookedCores]
    exact config.length_cores_le index
  constructor
  · rfl
  · simp
  · rfl
  · rfl
  · intro name cidrs
    rw [Dict.get_ofEntries (portNames_nodup few), exists_tier, List.mem_append]
    have uppers := @lower_ports index coreAggPool 0 _ _ name cidrs config.nodup_coreAggLinks
      lookedCores
    have lowers := @upper_ports index aggEdgePool config.half _ _ name cidrs
      config.nodup_aggEdgeLinks lookedEdges
    rw [uppers, lowers]
    simp [coreAggTier, aggEdgeTier, accessTier]
  · intro neighbor
    have uppers := @lower_neighbors index coreAggPool 0 _ _ config.coreAsn neighbor
      config.nodup_coreAggLinks lookedCores
    have lowers := @upper_neighbors index aggEdgePool config.half _ _ config.edgeAsn neighbor
      config.nodup_aggEdgeLinks lookedEdges
    rw [exists_tier, List.mem_append, uppers, lowers]
    simp [coreAggTier, aggEdgeTier, accessTier, asnOf]
  · intro network
    rw [exists_tier]
    simp [coreAggTier, aggEdgeTier, accessTier]

/-! ## Edge switches -/

/-- The cables from an edge switch to its clients. -/
theorem exists_access {edge : Nat} (mem : edge ∈ indices config.numTotalEdge) {P : Nat → Nat → Prop} :
    (∃ cable ∈ config.accessTier.cables, cable.upper = edge ∧ P cable.upperPort cable.network) ↔
      ∃ position ∈ indices config.clientsPerEdge,
        P (config.half + position) (ClientAddressing.accessNumber edge position) := by
  constructor
  · intro found
    obtain ⟨cable, memCable, isEdge, holds⟩ := found
    obtain ⟨link, memLink, rfl⟩ := List.mem_map.mp memCable
    change link.1.1 = edge at isEdge
    subst isEdge
    exact ⟨link.1.2, (mem_accessLinks memLink).2, holds⟩
  · intro found
    obtain ⟨position, memPosition, holds⟩ := found
    obtain ⟨client, memLink⟩ := exists_accessLink mem memPosition
    exact ⟨_, List.mem_map_of_mem memLink, rfl, holds⟩

theorem idxOf_indices {count i : Nat} (mem : i ∈ indices count) : (indices count).idxOf i = i - 1 := by
  rw [mem_indices] at mem
  have inside : i - 1 < (indices count).length := by
    rw [indices, List.length_range']
    omega
  have place : (indices count)[i - 1] = i := by
    simp only [indices, List.getElem_range']
    omega
  calc (indices count).idxOf i = (indices count).idxOf (indices count)[i - 1] := by rw [place]
    _ = i - 1 := List.Nodup.idxOf_getElem (nodup_indices count) _ inside

/-- The ports of an edge switch to its clients. -/
theorem access_ports {edge : Nat} (mem : edge ∈ indices config.numTotalEdge) {name : String}
    {cidrs : List String} :
    (name, cidrs) ∈ portEntries (config.half + 1) (((indices config.clientsPerEdge).map
        (ClientAddressing.accessAt edge)).map fun access => access.gateway) ↔
      ∃ cable ∈ config.accessTier.cables, cable.upper = edge ∧
        name = sonicPortName cable.upperPort ∧
          cidrs = [Ipv4.text (cable.network + 1) ++ "/30"] := by
  rw [List.map_map, exists_access mem (P := fun port network =>
    name = sonicPortName port ∧ cidrs = [Ipv4.text (network + 1) ++ "/30"]),
    mem_portEntries_map (nodup_indices _)]
  apply exists_congr
  intro position
  apply and_congr_right
  intro memPosition
  have low := (mem_indices.mp memPosition).1
  rw [idxOf_indices memPosition, show config.half + 1 + (position - 1) = config.half + position by
    omega]
  rfl

theorem edge_wired (mem : index ∈ indices config.numTotalEdge)
    (made : config.edgeDevicePlan addressing clientAddressing index = .ok device) :
    SwitchWired config.tiers config.asnOf "edge" index device := by
  unfold edgeDevicePlan at made
  simp only [bind_eq_ok, pure_eq_ok] at made
  obtain ⟨mgmtIp, -, pod, -, subnet, -, ips, looked, links, access, rfl⟩ := made
  have planned := mapM_access access
  subst planned
  have few : (ips.map Prod.snd).length ≤ config.half := by
    rw [List.length_map, length_findIps looked]
    exact config.length_aggs_le index
  constructor
  · rfl
  · simp
  · rfl
  · rfl
  · intro name cidrs
    rw [Dict.get_ofEntries (portNames_nodup few), exists_tier, List.mem_append]
    have uppers := @lower_ports index aggEdgePool config.half _ _ name cidrs
      config.nodup_aggEdgeLinks looked
    have lowers := @access_ports config index mem name cidrs
    rw [uppers, lowers]
    simp [coreAggTier, aggEdgeTier, accessTier]
  · intro neighbor
    have uppers := @lower_neighbors index aggEdgePool config.half _ _ config.aggAsn neighbor
      config.nodup_aggEdgeLinks looked
    rw [exists_tier, uppers]
    simp [coreAggTier, aggEdgeTier, accessTier, asnOf]
  · intro network
    have access := @exists_access config index mem fun _ number =>
      network = (Ipv4.Network.mk number 30).text
    change network ∈ ((indices config.clientsPerEdge).map (ClientAddressing.accessAt index)).map
      (fun access => access.subnet) ↔ _
    rw [List.map_map, List.mem_map, exists_tier]
    constructor
    · intro found
      obtain ⟨position, memPosition, rfl⟩ := found
      obtain ⟨cable, memCable, isEdge, isNetwork⟩ := access.mpr ⟨position, memPosition, rfl⟩
      exact .inr (.inr ⟨cable, memCable, rfl, rfl, isEdge, isNetwork⟩)
    · intro found
      obtain ⟨cable, -, isEdge, -⟩ | ⟨cable, -, isEdge, -⟩ |
        ⟨cable, memCable, -, -, isEdge, isNetwork⟩ := found
      · simp [coreAggTier] at isEdge
      · simp [aggEdgeTier] at isEdge
      · obtain ⟨position, memPosition, isPosition⟩ :=
          access.mp ⟨cable, memCable, isEdge, isNetwork⟩
        exact ⟨position, memPosition, isPosition.symm⟩

/-! ## Clients -/

theorem client_wired {link : (Nat × Nat) × Nat} (mem : link ∈ config.accessLinks)
    (made : config.clientDevicePlan addressing clientAddressing link = .ok device) :
    ∃ index, device.name = "client" ++ toString index ∧
      ∀ tier ∈ config.tiers, tier.lowerStem = "client" → ∀ cable ∈ tier.cables,
        cable.lower = index → device.device.dataIp = some (Ipv4.text (cable.network + 2)) := by
  unfold clientDevicePlan at made
  simp only [bind_eq_ok, pure_eq_ok] at made
  obtain ⟨access, looked, mgmtIp, -, pod, -, rfl⟩ := made
  obtain ⟨-, -, -, -, rfl⟩ := ClientAddressing.access_eq_ok looked
  refine ⟨link.2, rfl, ?_⟩
  intro tier memTier toClient cable memCable isClient
  unfold tiers at memTier
  simp only [List.mem_cons, List.not_mem_nil, or_false] at memTier
  rcases memTier with rfl | rfl | rfl
  · simp [coreAggTier] at toClient
  · simp [aggEdgeTier] at toClient
  · obtain ⟨link', memLink, rfl⟩ := List.mem_map.mp memCable
    rw [accessLink_unique memLink mem isClient]
    rfl

end FatTreeConfig

/-! ## The plan -/

theorem fatTreePlan_tiered {policyForScale : String → Except String PingmeshPolicy}
    {plan : FabricPlan} {config : FatTreeConfig}
    (done : buildFatTreePlan policyForScale config = .ok plan) :
    Tiered plan config.tiers config.asnOf := by
  obtain ⟨valid, clientAddressing, addressing, _, corePlans, aggPlans, edgePlans, clientPlans, -, -,
    -, records, cores, aggs, edges, clients, plans⟩ := buildFatTreePlan_eq_ok done
  constructor
  · intro tier mem
    unfold FatTreeConfig.tiers at mem
    simp only [List.mem_cons, List.not_mem_nil, or_false] at mem
    rcases mem with rfl | rfl | rfl
    · exact ⟨(by rfl : isStem "core" = true), (by rfl : isStem "agg" = true)⟩
    · exact ⟨(by rfl : isStem "agg" = true), (by rfl : isStem "edge" = true)⟩
    · exact ⟨(by rfl : isStem "edge" = true), (by rfl : isStem "client" = true)⟩
  · intro tier mem
    unfold FatTreeConfig.tiers at mem
    simp only [List.mem_cons, List.not_mem_nil, or_false] at mem
    rcases mem with rfl | rfl | rfl
    · simp [FatTreeConfig.coreAggTier]
    · simp [FatTreeConfig.aggEdgeTier]
    · simp [FatTreeConfig.accessTier]
  · rw [records.links, FatTreeConfig.links_eq]
  · exact FatTreeConfig.cable_bounds valid
  · exact FatTreeConfig.networks_nodup valid
  · intro switch mem
    unfold FabricPlan.switchPlans at mem
    rw [List.mem_filter, plans] at mem
    obtain ⟨memPlans, isSwitch⟩ := mem
    simp only [List.mem_append] at memPlans
    rcases memPlans with ((isCore | isAgg) | isEdge) | isClient
    · obtain ⟨core, -, made⟩ := (mem_of_mapM cores).mp isCore
      exact ⟨"core", core, FatTreeConfig.core_wired made⟩
    · obtain ⟨agg, -, made⟩ := (mem_of_mapM aggs).mp isAgg
      exact ⟨"agg", agg, FatTreeConfig.agg_wired made⟩
    · obtain ⟨edge, memEdge, made⟩ := (mem_of_mapM edges).mp isEdge
      exact ⟨"edge", edge, FatTreeConfig.edge_wired memEdge made⟩
    · obtain ⟨link, -, made⟩ := (mem_of_mapM clients).mp isClient
      rw [FatTreeConfig.client_isClient made] at isSwitch
      cases isSwitch
  · intro client mem isClient
    rw [plans] at mem
    simp only [List.mem_append] at mem
    rcases mem with ((isCore | isAgg) | isEdge) | inClients
    · obtain ⟨core, -, made⟩ := (mem_of_mapM cores).mp isCore
      unfold FatTreeConfig.coreDevicePlan at made
      simp only [bind_eq_ok, pure_eq_ok] at made
      obtain ⟨mgmtIp, -, ips, -, rfl⟩ := made
      cases isClient
    · obtain ⟨agg, -, made⟩ := (mem_of_mapM aggs).mp isAgg
      unfold FatTreeConfig.aggDevicePlan at made
      simp only [bind_eq_ok, pure_eq_ok] at made
      obtain ⟨mgmtIp, -, pod, -, coreIps, -, edgeIps, -, rfl⟩ := made
      cases isClient
    · obtain ⟨edge, -, made⟩ := (mem_of_mapM edges).mp isEdge
      unfold FatTreeConfig.edgeDevicePlan at made
      simp only [bind_eq_ok, pure_eq_ok] at made
      obtain ⟨mgmtIp, -, pod, -, subnet, -, ips, -, links, -, rfl⟩ := made
      cases isClient
    · obtain ⟨link, memLink, made⟩ := (mem_of_mapM clients).mp inClients
      exact FatTreeConfig.client_wired memLink made

end NetOpsBench
