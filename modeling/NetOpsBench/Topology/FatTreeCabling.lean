import NetOpsBench.Topology.ClosCabling
import NetOpsBench.Topology.FatTreeDevices

/-!
# The cabling of a fat tree

The links of `build_fat_tree_plan` are those of three tiers of cables, and every switch is wired as
they say. The ports of a tier of links are the places of the peers among the sorted ones, and its
networks the places of the links among the sorted links.
-/

namespace NetOpsBench

open Fallible

namespace FatTreeConfig

variable {config : FatTreeConfig} {addressing : ManagementAddressing}
  {clientAddressing : ClientAddressing} {device : DevicePlan} {index : Nat} {cable : Cable}

/-! ## Tiers of links -/

section Links

variable {pool offset : Nat} {links : List (Nat × Nat)} {upper lower : Nat}

/-- The number of the network of a link. -/
def linkNumber (pool : Nat) (links : List (Nat × Nat)) (link : Nat × Nat) : Nat :=
  pool + 4 * (sortedLinks links).idxOf link

/-- The cable of a link; the ports below the upper switch begin after `offset`. -/
def linkCable (pool offset : Nat) (links : List (Nat × Nat)) (link : Nat × Nat) : Cable :=
  ⟨link.1, offset + portTo (below links link.1) link.2, link.2, portTo (above links link.2) link.1,
    linkNumber pool links link⟩

def linkCables (pool offset : Nat) (links : List (Nat × Nat)) : List Cable :=
  (sortedLinks links).map (linkCable pool offset links)

theorem mem_linkCables : cable ∈ linkCables pool offset links ↔
    ∃ link ∈ links, cable = linkCable pool offset links link := by
  unfold linkCables sortedLinks
  simp only [List.mem_map, Sorting.mem_sorted, eq_comm]

theorem mem_below : lower ∈ below links upper ↔ (upper, lower) ∈ links := by
  unfold below
  rw [Sorting.mem_sorted, List.mem_map]
  constructor
  · intro found
    obtain ⟨⟨upper', lower'⟩, mem, rfl⟩ := found
    rw [List.mem_filter, decide_eq_true_eq] at mem
    obtain ⟨memLink, rfl⟩ := mem
    exact memLink
  · intro mem
    exact ⟨(upper, lower), List.mem_filter.mpr ⟨mem, decide_eq_true rfl⟩, rfl⟩

theorem mem_above : upper ∈ above links lower ↔ (upper, lower) ∈ links := by
  unfold above
  rw [Sorting.mem_sorted, List.mem_map]
  constructor
  · intro found
    obtain ⟨⟨upper', lower'⟩, mem, rfl⟩ := found
    rw [List.mem_filter, decide_eq_true_eq] at mem
    obtain ⟨memLink, rfl⟩ := mem
    exact memLink
  · intro mem
    exact ⟨(upper, lower), List.mem_filter.mpr ⟨mem, decide_eq_true rfl⟩, rfl⟩

theorem nodup_sortedLinks (distinct : links.Nodup) : (sortedLinks links).Nodup :=
  (Sorting.sorted_perm _ _).nodup_iff.mpr distinct

/-- The addresses of a link are the hosts of its network. -/
theorem findIps_linkNumber (distinct : links.Nodup) {link : Nat × Nat} {ips : String × String}
    (found : findIps (linkIps pool links) link = .ok ips) :
    ips = (Ipv4.text (linkNumber pool links link + 1), Ipv4.text (linkNumber pool links link + 2)) := by
  obtain ⟨i, -, atI, rfl⟩ := findIps_eq_ok found
  obtain ⟨inside, isLink⟩ := List.getElem?_eq_some_iff.mp atI
  have place : (sortedLinks links).idxOf link = i := by
    rw [← isLink]
    exact List.Nodup.idxOf_getElem (nodup_sortedLinks distinct) i inside
  unfold linkNumber
  rw [place]

/-- What a loop over the peers of a switch looks up. -/
theorem mapM_findIps (distinct : links.Nodup) {peers : List Nat} {toLink : Nat → Nat × Nat}
    {ips : List (String × String)}
    (looked : (peers.mapM fun peer => findIps (linkIps pool links) (toLink peer)) = .ok ips) :
    ips = peers.map fun peer => (Ipv4.text (linkNumber pool links (toLink peer) + 1),
      Ipv4.text (linkNumber pool links (toLink peer) + 2)) := by
  rw [← List.map_id ips]
  apply map_of_mapM looked
  intro peer _ found isFound
  exact findIps_linkNumber distinct isFound

/-- The entries of the ports of some peers. -/
theorem mem_portEntries_map {first : Nat} {peers : List Nat} {text : Nat → String}
    (distinct : peers.Nodup) {name : String} {cidrs : List String} :
    (name, cidrs) ∈ portEntries first (peers.map text) ↔
      ∃ peer ∈ peers, name = sonicPortName (first + peers.idxOf peer) ∧
        cidrs = [text peer ++ "/30"] := by
  unfold portEntries
  rw [List.mem_map]
  constructor
  · intro found
    obtain ⟨⟨ip, port⟩, mem, entry⟩ := found
    cases entry
    rw [List.mk_mem_zipIdx_iff_le_and_getElem?_sub] at mem
    obtain ⟨low, atPort⟩ := mem
    rw [List.getElem?_map, Option.map_eq_some_iff] at atPort
    obtain ⟨peer, atPeer, rfl⟩ := atPort
    obtain ⟨inside, isPeer⟩ := List.getElem?_eq_some_iff.mp atPeer
    have place : peers.idxOf peer = port - first := by
      rw [← isPeer]
      exact List.Nodup.idxOf_getElem distinct _ inside
    refine ⟨peer, isPeer ▸ List.getElem_mem inside, ?_, rfl⟩
    rw [place, Nat.add_sub_cancel' low]
  · intro found
    obtain ⟨peer, mem, rfl, rfl⟩ := found
    have inside := List.idxOf_lt_length_of_mem mem
    refine ⟨(text peer, first + peers.idxOf peer), ?_, rfl⟩
    rw [List.mk_mem_zipIdx_iff_le_and_getElem?_sub]
    refine ⟨Nat.le_add_right _ _, ?_⟩
    rw [Nat.add_sub_cancel_left, List.getElem?_map, List.getElem?_eq_getElem inside,
      List.getElem_idxOf inside]
    rfl

theorem portEntries_names (first : Nat) (ips : List String) :
    (portEntries first ips).map Prod.fst = (List.range' first ips.length).map sonicPortName := by
  unfold portEntries
  rw [List.map_map, ← List.zipIdx_map_snd first ips, List.map_map]
  rfl

/-- The cables down from a switch. -/
theorem exists_upper {P : Cable → Prop} :
    (∃ cable ∈ linkCables pool offset links, cable.upper = index ∧ P cable) ↔
      ∃ lower ∈ below links index, P (linkCable pool offset links (index, lower)) := by
  constructor
  · intro found
    obtain ⟨cable, mem, isUpper, holds⟩ := found
    obtain ⟨⟨upper, lower⟩, memLink, rfl⟩ := mem_linkCables.mp mem
    change upper = index at isUpper
    subst isUpper
    exact ⟨lower, mem_below.mpr memLink, holds⟩
  · intro found
    obtain ⟨lower, mem, holds⟩ := found
    exact ⟨_, mem_linkCables.mpr ⟨_, mem_below.mp mem, rfl⟩, rfl, holds⟩

/-- The cables up from a switch. -/
theorem exists_lower {P : Cable → Prop} :
    (∃ cable ∈ linkCables pool offset links, cable.lower = index ∧ P cable) ↔
      ∃ upper ∈ above links index, P (linkCable pool offset links (upper, index)) := by
  constructor
  · intro found
    obtain ⟨cable, mem, isLower, holds⟩ := found
    obtain ⟨⟨upper, lower⟩, memLink, rfl⟩ := mem_linkCables.mp mem
    change lower = index at isLower
    subst isLower
    exact ⟨upper, mem_above.mpr memLink, holds⟩
  · intro found
    obtain ⟨upper, mem, holds⟩ := found
    exact ⟨_, mem_linkCables.mpr ⟨_, mem_above.mp mem, rfl⟩, rfl, holds⟩

variable {ips : List (String × String)} {name : String} {cidrs : List String} {asn : Nat → Int}
  {neighbor : BgpNeighborPlan}

/-- The ports of a switch down a tier. -/
theorem upper_ports (distinct : links.Nodup)
    (looked : ((below links index).mapM fun lower => findIps (linkIps pool links) (index, lower)) =
      .ok ips) :
    (name, cidrs) ∈ portEntries (offset + 1) (ips.map Prod.fst) ↔
      ∃ cable ∈ linkCables pool offset links, cable.upper = index ∧
        name = sonicPortName cable.upperPort ∧ cidrs = [Ipv4.text (cable.network + 1) ++ "/30"] := by
  rw [mapM_findIps distinct looked, List.map_map, exists_upper]
  change (name, cidrs) ∈ portEntries (offset + 1)
    ((below links index).map fun lower => Ipv4.text (linkNumber pool links (index, lower) + 1)) ↔ _
  rw [mem_portEntries_map (nodup_below distinct index)]
  simp only [Nat.add_assoc, Nat.add_comm 1, linkCable, portTo]

/-- The ports of a switch up a tier. -/
theorem lower_ports (distinct : links.Nodup)
    (looked : ((above links index).mapM fun upper => findIps (linkIps pool links) (upper, index)) =
      .ok ips) :
    (name, cidrs) ∈ portEntries 1 (ips.map Prod.snd) ↔
      ∃ cable ∈ linkCables pool offset links, cable.lower = index ∧
        name = sonicPortName cable.lowerPort ∧ cidrs = [Ipv4.text (cable.network + 2) ++ "/30"] := by
  rw [mapM_findIps distinct looked, List.map_map, exists_lower]
  change (name, cidrs) ∈ portEntries 1
    ((above links index).map fun upper => Ipv4.text (linkNumber pool links (upper, index) + 2)) ↔ _
  rw [mem_portEntries_map (nodup_above distinct index)]
  simp only [Nat.add_comm 1, linkCable, portTo]

theorem upper_neighbors (distinct : links.Nodup)
    (looked : ((below links index).mapM fun lower => findIps (linkIps pool links) (index, lower)) =
      .ok ips) :
    (neighbor ∈ ((below links index).zip ips).map fun entry =>
        BgpNeighborPlan.mk entry.2.2 (asn entry.1)) ↔
      ∃ cable ∈ linkCables pool offset links, cable.upper = index ∧
        neighbor = ⟨Ipv4.text (cable.network + 2), asn cable.lower⟩ := by
  rw [mapM_findIps distinct looked, zip_map_self, List.map_map, exists_upper, List.mem_map]
  simp only [eq_comm, Function.comp_apply, linkCable]

theorem lower_neighbors (distinct : links.Nodup)
    (looked : ((above links index).mapM fun upper => findIps (linkIps pool links) (upper, index)) =
      .ok ips) :
    (neighbor ∈ ((above links index).zip ips).map fun entry =>
        BgpNeighborPlan.mk entry.2.1 (asn entry.1)) ↔
      ∃ cable ∈ linkCables pool offset links, cable.lower = index ∧
        neighbor = ⟨Ipv4.text (cable.network + 1), asn cable.upper⟩ := by
  rw [mapM_findIps distinct looked, zip_map_self, List.map_map, exists_lower, List.mem_map]
  simp only [eq_comm, Function.comp_apply, linkCable]

theorem length_findIps {peers : List Nat} {toLink : Nat → Nat × Nat}
    (looked : (peers.mapM fun peer => findIps (linkIps pool links) (toLink peer)) = .ok ips) :
    ips.length = peers.length := (mapM_length looked).symm

/-! ## Networks of the links -/

theorem linkNumber_bounds {link : Nat × Nat} (mem : link ∈ links) :
    pool ≤ linkNumber pool links link ∧ linkNumber pool links link + 4 ≤ pool + 4 * links.length := by
  have inside := List.idxOf_lt_length_of_mem
    (show link ∈ sortedLinks links from Sorting.mem_sorted.mpr mem)
  have lengths : (sortedLinks links).length = links.length := (Sorting.sorted_perm _ _).length_eq
  unfold linkNumber
  omega

/-- The networks of a tier of links are distinct. -/
theorem linkNumbers_nodup (distinct : links.Nodup) :
    ((linkCables pool offset links).map Cable.network).Nodup := by
  unfold linkCables
  rw [List.map_map]
  apply List.Nodup.map_on _ (nodup_sortedLinks distinct)
  intro link mem link' mem' same
  change linkNumber pool links link = linkNumber pool links link' at same
  unfold linkNumber at same
  exact (List.idxOf_inj mem).mp (by omega)

end Links

/-! ## The tiers -/

def accessCable (config : FatTreeConfig) (link : (Nat × Nat) × Nat) : Cable :=
  ⟨link.1.1, config.half + link.1.2, link.2, 1, ClientAddressing.accessNumber link.1.1 link.1.2⟩

def coreAggTier (config : FatTreeConfig) : Tier :=
  ⟨"core-agg", "core", "agg", linkCables coreAggPool 0 config.coreAggLinks⟩

def aggEdgeTier (config : FatTreeConfig) : Tier :=
  ⟨"agg-edge", "agg", "edge", linkCables aggEdgePool config.half config.aggEdgeLinks⟩

def accessTier (config : FatTreeConfig) : Tier :=
  ⟨"edge-client", "edge", "client", config.accessLinks.map config.accessCable⟩

def tiers (config : FatTreeConfig) : List Tier :=
  [config.coreAggTier, config.aggEdgeTier, config.accessTier]

/-- The number of the system of a switch. -/
def asnOf (config : FatTreeConfig) (stem : String) (index : Nat) : Int :=
  if stem = "core" then config.coreAsn index
  else if stem = "agg" then config.aggAsn index else config.edgeAsn index

theorem exists_tier {P : Tier → Cable → Prop} :
    (∃ tier ∈ config.tiers, ∃ cable ∈ tier.cables, P tier cable) ↔
      (∃ cable ∈ config.coreAggTier.cables, P config.coreAggTier cable) ∨
        (∃ cable ∈ config.aggEdgeTier.cables, P config.aggEdgeTier cable) ∨
          ∃ cable ∈ config.accessTier.cables, P config.accessTier cable := by
  unfold tiers
  simp only [List.mem_cons, List.not_mem_nil, or_false, exists_eq_or_imp, exists_eq_left]

theorem links_eq (config : FatTreeConfig) :
    (numberingOf config.tiers).map Prod.fst = config.links := by
  simp [numberingOf, tiers, Tier.numbering, coreAggTier, aggEdgeTier, accessTier, links, linkCables,
    Function.comp_def, Tier.link, Tier.upperEndpoint, Tier.lowerEndpoint, linkCable, accessCable]
  intro _ _ _ _
  rfl

/-! ## Access links -/

theorem mem_accessLinks {link : (Nat × Nat) × Nat} (mem : link ∈ config.accessLinks) :
    link.1.1 ∈ indices config.numTotalEdge ∧ link.1.2 ∈ indices config.clientsPerEdge := by
  have place := List.fst_mem_of_mem_zipIdx mem
  simp only [List.mem_flatMap, List.mem_map] at place
  obtain ⟨edge, memEdge, position, memPosition, isPlace⟩ := place
  rw [← isPlace]
  exact ⟨memEdge, memPosition⟩

theorem exists_accessLink {edge position : Nat} (memEdge : edge ∈ indices config.numTotalEdge)
    (memPosition : position ∈ indices config.clientsPerEdge) :
    ∃ client, ((edge, position), client) ∈ config.accessLinks := by
  have place : (edge, position) ∈ (indices config.numTotalEdge).flatMap fun edge =>
      (indices config.clientsPerEdge).map fun position => (edge, position) :=
    List.mem_flatMap.mpr ⟨edge, memEdge, List.mem_map_of_mem memPosition⟩
  obtain ⟨i, inside, isPlace⟩ := List.mem_iff_getElem.mp place
  refine ⟨1 + i, ?_⟩
  unfold accessLinks
  rw [List.mk_mem_zipIdx_iff_le_and_getElem?_sub, Nat.add_sub_cancel_left,
    List.getElem?_eq_getElem inside, isPlace]
  exact ⟨Nat.le_add_right _ _, rfl⟩

/-- A client has one access link. -/
theorem accessLink_unique {link link' : (Nat × Nat) × Nat} (mem : link ∈ config.accessLinks)
    (mem' : link' ∈ config.accessLinks) (same : link.2 = link'.2) : link = link' := by
  obtain ⟨place, client⟩ := link
  obtain ⟨place', client'⟩ := link'
  change client = client' at same
  subst same
  unfold accessLinks at mem mem'
  rw [List.mk_mem_zipIdx_iff_le_and_getElem?_sub] at mem mem'
  rw [mem.2, Option.some.injEq] at mem'
  rw [mem'.2]

/-! ## Networks -/

/-- The links of a tier bound the clients of an edge switch. -/
theorem Valid.clients_le (valid : config.Valid) : config.clientsPerEdge ≤ 64 := by
  by_contra many
  have half : 65 ≤ config.half := by
    have clients := config.clients.2
    unfold half
    omega
  have pods : 65 ≤ config.k := by
    unfold FatTreeConfig.half at half
    omega
  have links := Nat.mul_le_mul (Nat.mul_le_mul pods half) half
  have bound := valid.links
  omega

theorem cable_bounds (valid : config.Valid) : ∀ tier ∈ config.tiers, ∀ cable ∈ tier.cables,
    4 ∣ cable.network ∧ cable.network + 4 ≤ 2 ^ 32 ∧ 1 ≤ cable.upperPort ∧ 1 ≤ cable.lowerPort := by
  have coreAgg := valid.coreAgg_bound
  have aggEdge := valid.aggEdge_inside
  have edges := valid.edges
  have clients := valid.clients_le
  intro tier memTier cable memCable
  unfold tiers at memTier
  simp only [List.mem_cons, List.not_mem_nil, or_false] at memTier
  rcases memTier with rfl | rfl | rfl
  · obtain ⟨link, memLink, rfl⟩ := mem_linkCables.mp memCable
    have bounds := @linkNumber_bounds coreAggPool _ _ memLink
    unfold linkCable portTo
    simp only
    refine ⟨?_, by omega, by omega, by omega⟩
    unfold linkNumber coreAggPool
    omega
  · obtain ⟨link, memLink, rfl⟩ := mem_linkCables.mp memCable
    have bounds := @linkNumber_bounds aggEdgePool _ _ memLink
    unfold linkCable portTo
    simp only
    refine ⟨?_, by omega, by omega, by omega⟩
    unfold linkNumber aggEdgePool
    omega
  · obtain ⟨link, memLink, rfl⟩ := List.mem_map.mp memCable
    obtain ⟨memEdge, memPosition⟩ := mem_accessLinks memLink
    rw [mem_indices] at memEdge memPosition
    unfold accessCable ClientAddressing.accessNumber ClientAddressing.pool
    simp only
    omega

theorem accessNumbers_nodup (valid : config.Valid) :
    (config.accessTier.cables.map Cable.network).Nodup := by
  have clients := valid.clients_le
  have places : config.accessTier.cables.map Cable.network =
      (indices config.numTotalEdge).flatMap fun edge => (indices config.clientsPerEdge).map fun
        position => ClientAddressing.accessNumber edge position := by
    unfold accessTier accessLinks
    rw [List.map_map]
    change List.map ((fun place : Nat × Nat => ClientAddressing.accessNumber place.1 place.2) ∘
      Prod.fst) _ = _
    rw [← List.map_map, List.zipIdx_map_fst, List.map_flatMap]
    simp only [List.map_map, Function.comp_def]
  rw [places]
  apply nodup_doubleLoop (nodup_indices _) (nodup_indices _)
  intro a memA b memB a' memA' b' memB' same
  rw [mem_indices] at memA memB memA' memB'
  unfold ClientAddressing.accessNumber at same
  omega

theorem networks_nodup (valid : config.Valid) : ((numberingOf config.tiers).map Prod.snd).Nodup := by
  have coreAgg := valid.coreAgg_inside
  have inside := valid.links
  have parts : (numberingOf config.tiers).map Prod.snd =
      config.coreAggTier.cables.map Cable.network ++
        (config.aggEdgeTier.cables.map Cable.network ++
          config.accessTier.cables.map Cable.network) := by
    simp [numberingOf, tiers, Tier.numbering, Function.comp_def]
  have bounds {pool offset n : Nat} {links : List (Nat × Nat)}
      (mem : n ∈ (linkCables pool offset links).map Cable.network) :
      pool ≤ n ∧ n + 4 ≤ pool + 4 * links.length := by
    obtain ⟨cable, memCable, rfl⟩ := List.mem_map.mp mem
    obtain ⟨link, memLink, rfl⟩ := mem_linkCables.mp memCable
    exact linkNumber_bounds memLink
  have access {n : Nat} (mem : n ∈ config.accessTier.cables.map Cable.network) :
      ClientAddressing.pool ≤ n := by
    obtain ⟨cable, memCable, rfl⟩ := List.mem_map.mp mem
    obtain ⟨link, -, rfl⟩ := List.mem_map.mp memCable
    change _ ≤ ClientAddressing.accessNumber link.1.1 link.1.2
    unfold ClientAddressing.accessNumber
    omega
  rw [parts]
  apply List.nodup_append'.mpr
  refine ⟨linkNumbers_nodup config.nodup_coreAggLinks, List.nodup_append'.mpr
    ⟨linkNumbers_nodup config.nodup_aggEdgeLinks, accessNumbers_nodup valid, ?_⟩, ?_⟩
  · intro n isEdge isAccess
    have upper := bounds isEdge
    have lower := access isAccess
    rw [length_aggEdgeLinks] at upper
    unfold aggEdgePool at upper
    unfold ClientAddressing.pool at lower
    omega
  · intro n isCore isOther
    have upper := bounds isCore
    rw [List.mem_append] at isOther
    rcases isOther with isEdge | isAccess
    · have lower := bounds isEdge
      omega
    · have lower := access isAccess
      unfold aggEdgePool at coreAgg
      unfold ClientAddressing.pool at lower
      omega

end FatTreeConfig

end NetOpsBench
