import NetOpsBench.Topology.Artifacts
import NetOpsBench.Topology.Identities

/-!
# Plans are well formed

Every plan that `build_clos_plan` or `build_fat_tree_plan` returns has addressed links, the routing of
its links, identities of its switches and management addresses of its devices.
-/

namespace NetOpsBench

open Fallible

variable {policyForScale : String → Except String PingmeshPolicy} {plan : FabricPlan}

/-- Router ids after different third octets differ. -/
theorem append_toString_ne {stem stem' : String} (apart : ∀ x y : List Char,
    stem.toList ++ x ≠ stem'.toList ++ y) (i j : Nat) : stem ++ toString i ≠ stem' ++ toString j := by
  intro same
  have chars := congrArg String.toList same
  rw [String.toList_append, String.toList_append] at chars
  exact apart _ _ chars

/-- The numbers of a row of switches are those of a range. -/
theorem exists_index {count : Nat} {start asn : Int} :
    (∃ index ∈ indices count, start + (index : Int) - 1 = asn) ↔
      start ≤ asn ∧ asn ≤ start + count - 1 := by
  constructor
  · intro found
    obtain ⟨index, inside, rfl⟩ := found
    rw [mem_indices] at inside
    omega
  · intro inside
    refine ⟨(asn - start + 1).toNat, ?_, by omega⟩
    rw [mem_indices]
    omega

/-! ## Two tiers -/

namespace ClosConfig

variable {config : ClosConfig} {addressing : ManagementAddressing}
  {clientAddressing : ClientAddressing} {device : DevicePlan} {index position : Nat}

def spineRow (config : ClosConfig) : DeviceRow :=
  { role := .spine
    stem := "spine"
    count := config.spines
    mgmtStart := spineMgmtOffset
    routerStem := some "10.0.0."
    asn := fun _ => some config.spineAsn }

def leafRow (config : ClosConfig) : DeviceRow :=
  { role := .leaf
    stem := "leaf"
    count := config.leafs
    mgmtStart := config.leafMgmtOffset
    routerStem := some "10.0.1."
    asn := fun leaf => some (config.leafAsn leaf) }

def clientRow (config : ClosConfig) : DeviceRow :=
  { role := .client, stem := "client", count := config.totalClients, mgmtStart := config.clientMgmtOffset }

def rows (config : ClosConfig) : List DeviceRow := [config.spineRow, config.leafRow, config.clientRow]

def asnRanges (config : ClosConfig) : List AsnRange :=
  [⟨.spine, config.spineAsn, config.spineAsn⟩,
    ⟨.leaf, config.leafAsnStart, config.leafAsnStart + config.numLeafs - 1⟩]

theorem spine_has (mem : index ∈ indices config.spines)
    (made : config.spineDevicePlan addressing index = .ok device) :
    config.spineRow.Has addressing index device := by
  unfold spineDevicePlan at made
  simp only [bind_eq_ok, pure_eq_ok] at made
  obtain ⟨mgmtIp, found, rfl⟩ := made
  exact ⟨mem, rfl, rfl, ⟨mgmtIp, found, rfl⟩, rfl, rfl⟩

theorem leaf_has (mem : index ∈ indices config.leafs)
    (made : config.leafDevicePlan addressing clientAddressing index = .ok device) :
    config.leafRow.Has addressing index device := by
  unfold leafDevicePlan at made
  simp only [bind_eq_ok, pure_eq_ok] at made
  obtain ⟨mgmtIp, found, subnet, -, links, -, rfl⟩ := made
  exact ⟨mem, rfl, rfl, ⟨mgmtIp, found, rfl⟩, rfl, rfl⟩

theorem clientIndex_mem (memLeaf : index ∈ indices config.leafs)
    (memPosition : position ∈ indices config.clients) :
    config.clientIndex index position ∈ indices config.totalClients := by
  rw [mem_indices] at memLeaf memPosition ⊢
  unfold clientIndex totalClients
  have racks := Nat.mul_le_mul_right config.clients (Nat.sub_le_sub_right memLeaf.2 1)
  have total : (config.leafs - 1) * config.clients + config.clients =
      config.leafs * config.clients := by
    rw [← Nat.succ_mul, Nat.succ_eq_add_one, Nat.sub_add_cancel (memLeaf.1.trans memLeaf.2)]
  omega

theorem client_has (memLeaf : index ∈ indices config.leafs)
    (memPosition : position ∈ indices config.clients)
    (made : config.clientDevicePlan addressing clientAddressing index position = .ok device) :
    config.clientRow.Has addressing (config.clientIndex index position) device := by
  unfold clientDevicePlan at made
  simp only [bind_eq_ok, pure_eq_ok] at made
  obtain ⟨access, -, mgmtIp, found, rfl⟩ := made
  exact ⟨clientIndex_mem memLeaf memPosition, rfl, rfl, ⟨mgmtIp, found, rfl⟩, rfl, rfl⟩

end ClosConfig

theorem closPlan_inRows {config : ClosConfig} (done : buildClosPlan policyForScale config = .ok plan) :
    config.Valid ∧ ∃ addressing renderSettings,
      ManagementAddressing.create config.mgmtIpv4Subnet config.allocatedOffsets = .ok addressing ∧
      collectorSettings addressing config.collectorIp config.lastDeviceOffset true =
        .ok renderSettings ∧
      Records plan config.links addressing renderSettings ∧ InRows plan addressing config.rows := by
  obtain ⟨valid, clientAddressing, addressing, renderSettings, spinePlans, rackPlans, -, managed,
    settings, records, spines, racks, plans⟩ := buildClosPlan_eq_ok done
  refine ⟨valid, addressing, renderSettings, managed, settings, records, ?_⟩
  have offsets := (network_of_create managed).1
  constructor
  · intro device mem
    rw [plans, List.mem_append] at mem
    rcases mem with isSpine | inRack
    · obtain ⟨spine, memSpine, made⟩ := (mem_of_mapM spines).mp isSpine
      exact ⟨config.spineRow, List.mem_cons_self, spine, ClosConfig.spine_has memSpine made⟩
    · obtain ⟨rack, memRack, memDevice⟩ := List.mem_flatten.mp inRack
      obtain ⟨leaf, memLeaf, made⟩ := (mem_of_mapM racks).mp memRack
      unfold ClosConfig.rackDevicePlans at made
      simp only [bind_eq_ok, pure_eq_ok] at made
      obtain ⟨leafPlan, madeLeaf, clientPlans, madeClients, rfl⟩ := made
      rcases List.mem_cons.mp memDevice with rfl | inClients
      · exact ⟨config.leafRow, by simp [ClosConfig.rows], leaf, ClosConfig.leaf_has memLeaf madeLeaf⟩
      · obtain ⟨position, memPosition, madeClient⟩ := (mem_of_mapM madeClients).mp inClients
        exact ⟨config.clientRow, by simp [ClosConfig.rows], _,
          ClosConfig.client_has memLeaf memPosition madeClient⟩
  · intro row mem isSwitch index inside
    unfold ClosConfig.rows at mem
    simp only [List.mem_cons, List.not_mem_nil, or_false] at mem
    rcases mem with rfl | rfl | rfl
    · obtain ⟨device, memDevice, made⟩ := exists_of_mapM spines inside
      refine ⟨device, ?_, ClosConfig.spine_has inside made⟩
      rw [plans]
      exact List.mem_append_left _ memDevice
    · obtain ⟨rack, memRack, made⟩ := exists_of_mapM racks inside
      unfold ClosConfig.rackDevicePlans at made
      simp only [bind_eq_ok, pure_eq_ok] at made
      obtain ⟨leafPlan, madeLeaf, clientPlans, -, rfl⟩ := made
      refine ⟨leafPlan, ?_, ClosConfig.leaf_has inside madeLeaf⟩
      rw [plans]
      exact List.mem_append_right _ (List.mem_flatten.mpr ⟨_, memRack, List.mem_cons_self⟩)
    · exact absurd rfl isSwitch
  · intro row mem index inside
    rw [offsets]
    unfold ClosConfig.rows at mem
    simp only [List.mem_cons, List.not_mem_nil, or_false] at mem
    unfold ClosConfig.allocatedOffsets
    simp only [List.mem_append, List.mem_map]
    rcases mem with rfl | rfl | rfl
    · exact .inl (.inl ⟨index, inside, rfl⟩)
    · exact .inl (.inr ⟨index, inside, rfl⟩)
    · exact .inr ⟨index, inside, rfl⟩
  · simp [ClosConfig.rows, DeviceRow.Disjoint, ClosConfig.spineRow, ClosConfig.leafRow,
      ClosConfig.clientRow, ClosConfig.leafMgmtOffset, ClosConfig.clientMgmtOffset]
  · simp [ClosConfig.rows, DeviceRow.RoutersApart, ClosConfig.spineRow, ClosConfig.leafRow,
      ClosConfig.clientRow]
    exact append_toString_ne (by simp)
  · intro row mem isSwitch
    unfold ClosConfig.rows at mem
    simp only [List.mem_cons, List.not_mem_nil, or_false] at mem
    rcases mem with rfl | rfl | rfl
    · simp [ClosConfig.spineRow]
    · simp [ClosConfig.leafRow]
    · exact absurd rfl isSwitch

theorem closPlan_identified {config : ClosConfig} (valid : config.Valid)
    {addressing : ManagementAddressing} (inRows : InRows plan addressing config.rows) :
    Identified plan config.asnRanges := by
  have spines := valid.spines
  have leafs := valid.leafs
  have spineAsn := valid.spineAsn
  have leafAsns := valid.leafAsns
  have apart := valid.apart
  have count : (config.leafs : Int) = config.numLeafs := by
    unfold ClosConfig.leafs
    omega
  apply inRows.identified
  · intro range mem
    rcases List.mem_pair.mp mem with rfl | rfl
    · exact spineAsn
    · exact leafAsns
  · simp [ClosConfig.asnRanges, AsnRange.Apart] <;> omega
  · simp [ClosConfig.asnRanges]
  · intro role asn
    constructor
    · intro found
      obtain ⟨row, mem, rfl, isSwitch, index, inside, isAsn⟩ := found
      unfold ClosConfig.rows at mem
      simp only [List.mem_cons, List.not_mem_nil, or_false] at mem
      rcases mem with rfl | rfl | rfl
      · refine ⟨_, List.mem_cons_self, rfl, ?_⟩
        have isSpine : config.spineAsn = asn := Option.some.inj isAsn
        simp only
        omega
      · refine ⟨_, List.mem_cons_of_mem _ List.mem_cons_self, rfl, ?_⟩
        rw [← count]
        exact exists_index.mp ⟨index, inside, Option.some.inj isAsn⟩
      · exact absurd rfl isSwitch
    · intro found
      obtain ⟨range, mem, rfl, low, high⟩ := found
      rcases List.mem_pair.mp mem with rfl | rfl
      · refine ⟨config.spineRow, List.mem_cons_self, rfl, by simp, 1, ?_, ?_⟩
        · rw [mem_indices]
          change 1 ≤ 1 ∧ 1 ≤ config.spines
          unfold ClosConfig.spines
          omega
        · change some config.spineAsn = some asn
          simp only at low high
          rw [Int.le_antisymm low high]
      · rw [← count] at high
        obtain ⟨index, inside, isAsn⟩ := exists_index.mpr ⟨low, high⟩
        exact ⟨config.leafRow, by simp [ClosConfig.rows], rfl, by simp, index, inside,
          congrArg some isAsn⟩

/-! ## Fat trees -/

namespace FatTreeConfig

variable {config : FatTreeConfig} {addressing : ManagementAddressing}
  {clientAddressing : ClientAddressing} {device : DevicePlan} {index : Nat}

def coreRow (config : FatTreeConfig) : DeviceRow :=
  { role := .core
    stem := "core"
    count := config.numCore
    mgmtStart := coreMgmtOffset
    routerStem := some "10.0.1."
    asn := fun core => some (config.coreAsn core) }

def aggRow (config : FatTreeConfig) : DeviceRow :=
  { role := .agg
    stem := "agg"
    count := config.numTotalAgg
    mgmtStart := config.aggMgmtOffset
    routerStem := some "10.0.2."
    asn := fun agg => some (config.aggAsn agg) }

def edgeRow (config : FatTreeConfig) : DeviceRow :=
  { role := .edge
    stem := "edge"
    count := config.numTotalEdge
    mgmtStart := config.edgeMgmtOffset
    routerStem := some "10.0.3."
    asn := fun edge => some (config.edgeAsn edge) }

def clientRow (config : FatTreeConfig) : DeviceRow :=
  { role := .client
    stem := "client"
    count := config.numTotalClients
    mgmtStart := config.clientMgmtOffset }

def rows (config : FatTreeConfig) : List DeviceRow :=
  [config.coreRow, config.aggRow, config.edgeRow, config.clientRow]

/-- The system numbers of a row of switches. -/
def rangeFrom (role : DeviceRole) (start : Int) (count : Nat) : AsnRange :=
  ⟨role, start, start + count - 1⟩

def asnRanges (config : FatTreeConfig) : List AsnRange :=
  [rangeFrom .core config.coreAsnStart config.numCore,
    rangeFrom .agg config.aggAsnStart config.numTotalAgg,
    rangeFrom .edge config.edgeAsnStart config.numTotalEdge]

theorem core_has (mem : index ∈ indices config.numCore)
    (made : config.coreDevicePlan addressing index = .ok device) :
    config.coreRow.Has addressing index device := by
  unfold coreDevicePlan at made
  simp only [bind_eq_ok, pure_eq_ok] at made
  obtain ⟨mgmtIp, found, ips, -, rfl⟩ := made
  exact ⟨mem, rfl, rfl, ⟨mgmtIp, found, rfl⟩, rfl, rfl⟩

theorem agg_has (mem : index ∈ indices config.numTotalAgg)
    (made : config.aggDevicePlan addressing index = .ok device) :
    config.aggRow.Has addressing index device := by
  unfold aggDevicePlan at made
  simp only [bind_eq_ok, pure_eq_ok] at made
  obtain ⟨mgmtIp, found, pod, -, coreIps, -, edgeIps, -, rfl⟩ := made
  exact ⟨mem, rfl, rfl, ⟨mgmtIp, found, rfl⟩, rfl, rfl⟩

theorem edge_has (mem : index ∈ indices config.numTotalEdge)
    (made : config.edgeDevicePlan addressing clientAddressing index = .ok device) :
    config.edgeRow.Has addressing index device := by
  unfold edgeDevicePlan at made
  simp only [bind_eq_ok, pure_eq_ok] at made
  obtain ⟨mgmtIp, found, pod, -, subnet, -, ips, -, links, -, rfl⟩ := made
  exact ⟨mem, rfl, rfl, ⟨mgmtIp, found, rfl⟩, rfl, rfl⟩

theorem client_mem {link : (Nat × Nat) × Nat} (mem : link ∈ config.accessLinks) :
    link.2 ∈ indices config.numTotalClients := by
  obtain ⟨place, client⟩ := link
  unfold accessLinks at mem
  rw [List.mk_mem_zipIdx_iff_le_and_getElem?_sub] at mem
  have inside := (List.getElem?_eq_some_iff.mp mem.2).1
  have total : ((indices config.numTotalEdge).flatMap fun edge =>
      (indices config.clientsPerEdge).map fun position => (edge, position)).length =
        config.numTotalClients := by
    simp [List.length_flatMap, indices, numTotalClients]
  rw [total] at inside
  rw [mem_indices]
  exact ⟨mem.1, by omega⟩

theorem client_has {link : (Nat × Nat) × Nat} (mem : link ∈ config.accessLinks)
    (made : config.clientDevicePlan addressing clientAddressing link = .ok device) :
    config.clientRow.Has addressing link.2 device := by
  unfold clientDevicePlan at made
  simp only [bind_eq_ok, pure_eq_ok] at made
  obtain ⟨access, -, mgmtIp, found, pod, -, rfl⟩ := made
  exact ⟨client_mem mem, rfl, rfl, ⟨mgmtIp, found, rfl⟩, rfl, rfl⟩

end FatTreeConfig

theorem fatTreePlan_inRows {config : FatTreeConfig}
    (done : buildFatTreePlan policyForScale config = .ok plan) :
    config.Valid ∧ ∃ addressing renderSettings,
      ManagementAddressing.create config.mgmtIpv4Subnet config.allocatedOffsets = .ok addressing ∧
      collectorSettings addressing config.collectorIp config.lastDeviceOffset false =
        .ok renderSettings ∧
      Records plan config.links addressing renderSettings ∧ InRows plan addressing config.rows := by
  obtain ⟨valid, clientAddressing, addressing, renderSettings, corePlans, aggPlans, edgePlans,
    clientPlans, -, managed, settings, records, cores, aggs, edges, clients, plans⟩ :=
    buildFatTreePlan_eq_ok done
  refine ⟨valid, addressing, renderSettings, managed, settings, records, ?_⟩
  have offsets := (network_of_create managed).1
  constructor
  · intro device mem
    rw [plans] at mem
    simp only [List.mem_append] at mem
    rcases mem with ((isCore | isAgg) | isEdge) | isClient
    · obtain ⟨core, inside, made⟩ := (mem_of_mapM cores).mp isCore
      exact ⟨config.coreRow, by simp [FatTreeConfig.rows], core, FatTreeConfig.core_has inside made⟩
    · obtain ⟨agg, inside, made⟩ := (mem_of_mapM aggs).mp isAgg
      exact ⟨config.aggRow, by simp [FatTreeConfig.rows], agg, FatTreeConfig.agg_has inside made⟩
    · obtain ⟨edge, inside, made⟩ := (mem_of_mapM edges).mp isEdge
      exact ⟨config.edgeRow, by simp [FatTreeConfig.rows], edge, FatTreeConfig.edge_has inside made⟩
    · obtain ⟨link, inside, made⟩ := (mem_of_mapM clients).mp isClient
      exact ⟨config.clientRow, by simp [FatTreeConfig.rows], link.2,
        FatTreeConfig.client_has inside made⟩
  · intro row mem isSwitch index inside
    rw [plans]
    simp only [List.mem_append]
    unfold FatTreeConfig.rows at mem
    simp only [List.mem_cons, List.not_mem_nil, or_false] at mem
    rcases mem with rfl | rfl | rfl | rfl
    · obtain ⟨device, memDevice, made⟩ := exists_of_mapM cores inside
      exact ⟨device, .inl (.inl (.inl memDevice)), FatTreeConfig.core_has inside made⟩
    · obtain ⟨device, memDevice, made⟩ := exists_of_mapM aggs inside
      exact ⟨device, .inl (.inl (.inr memDevice)), FatTreeConfig.agg_has inside made⟩
    · obtain ⟨device, memDevice, made⟩ := exists_of_mapM edges inside
      exact ⟨device, .inl (.inr memDevice), FatTreeConfig.edge_has inside made⟩
    · exact absurd rfl isSwitch
  · intro row mem index inside
    rw [offsets]
    unfold FatTreeConfig.rows at mem
    simp only [List.mem_cons, List.not_mem_nil, or_false] at mem
    unfold FatTreeConfig.allocatedOffsets
    simp only [List.mem_append, List.mem_map]
    rcases mem with rfl | rfl | rfl | rfl
    · exact .inl (.inl (.inl ⟨index, inside, rfl⟩))
    · exact .inl (.inl (.inr ⟨index, inside, rfl⟩))
    · exact .inl (.inr ⟨index, inside, rfl⟩)
    · exact .inr ⟨index, inside, rfl⟩
  · simp [FatTreeConfig.rows, DeviceRow.Disjoint, FatTreeConfig.coreRow, FatTreeConfig.aggRow,
      FatTreeConfig.edgeRow, FatTreeConfig.clientRow, FatTreeConfig.aggMgmtOffset,
      FatTreeConfig.edgeMgmtOffset, FatTreeConfig.clientMgmtOffset] <;> omega
  · simp [FatTreeConfig.rows, DeviceRow.RoutersApart, FatTreeConfig.coreRow, FatTreeConfig.aggRow,
      FatTreeConfig.edgeRow, FatTreeConfig.clientRow]
    exact ⟨⟨append_toString_ne (by simp), append_toString_ne (by simp)⟩,
      append_toString_ne (by simp)⟩
  · intro row mem isSwitch
    unfold FatTreeConfig.rows at mem
    simp only [List.mem_cons, List.not_mem_nil, or_false] at mem
    rcases mem with rfl | rfl | rfl | rfl
    · simp [FatTreeConfig.coreRow]
    · simp [FatTreeConfig.aggRow]
    · simp [FatTreeConfig.edgeRow]
    · exact absurd rfl isSwitch

theorem fatTreePlan_identified {config : FatTreeConfig} (valid : config.Valid)
    {addressing : ManagementAddressing} (inRows : InRows plan addressing config.rows) :
    Identified plan config.asnRanges := by
  have asns := valid.asns
  apply inRows.identified
  · intro range mem
    unfold FatTreeConfig.asnRanges at mem
    simp only [List.mem_cons, List.not_mem_nil, or_false] at mem
    rcases mem with rfl | rfl | rfl
    all_goals
      simp only [FatTreeConfig.rangeFrom, FatTreeConfig.edgeAsnStart, FatTreeConfig.aggAsnStart,
        FatTreeConfig.coreAsnStart]
      omega
  · simp [FatTreeConfig.asnRanges, AsnRange.Apart, FatTreeConfig.rangeFrom,
      FatTreeConfig.edgeAsnStart, FatTreeConfig.aggAsnStart] <;> omega
  · simp [FatTreeConfig.asnRanges, FatTreeConfig.rangeFrom]
  · intro role asn
    constructor
    · intro found
      obtain ⟨row, mem, rfl, isSwitch, index, inside, isAsn⟩ := found
      unfold FatTreeConfig.rows at mem
      simp only [List.mem_cons, List.not_mem_nil, or_false] at mem
      rcases mem with rfl | rfl | rfl | rfl
      · exact ⟨FatTreeConfig.rangeFrom .core config.coreAsnStart config.numCore,
          by simp [FatTreeConfig.asnRanges], rfl,
          exists_index.mp ⟨index, inside, Option.some.inj isAsn⟩⟩
      · exact ⟨FatTreeConfig.rangeFrom .agg config.aggAsnStart config.numTotalAgg,
          by simp [FatTreeConfig.asnRanges], rfl,
          exists_index.mp ⟨index, inside, Option.some.inj isAsn⟩⟩
      · exact ⟨FatTreeConfig.rangeFrom .edge config.edgeAsnStart config.numTotalEdge,
          by simp [FatTreeConfig.asnRanges], rfl,
          exists_index.mp ⟨index, inside, Option.some.inj isAsn⟩⟩
      · exact absurd rfl isSwitch
    · intro found
      obtain ⟨range, mem, rfl, bounds⟩ := found
      unfold FatTreeConfig.asnRanges at mem
      simp only [List.mem_cons, List.not_mem_nil, or_false] at mem
      rcases mem with rfl | rfl | rfl
      · obtain ⟨index, inside, isAsn⟩ := exists_index.mpr bounds
        exact ⟨config.coreRow, by simp [FatTreeConfig.rows], rfl,
          by simp [FatTreeConfig.rangeFrom], index, inside,
          congrArg some isAsn⟩
      · obtain ⟨index, inside, isAsn⟩ := exists_index.mpr bounds
        exact ⟨config.aggRow, by simp [FatTreeConfig.rows], rfl,
          by simp [FatTreeConfig.rangeFrom], index, inside,
          congrArg some isAsn⟩
      · obtain ⟨index, inside, isAsn⟩ := exists_index.mpr bounds
        exact ⟨config.edgeRow, by simp [FatTreeConfig.rows], rfl,
          by simp [FatTreeConfig.rangeFrom], index, inside,
          congrArg some isAsn⟩

/-! ## Well-formed plans -/

/-- What a plan owes its links and its devices. -/
structure WellFormed (plan : FabricPlan) : Prop where
  cabled : ∃ numbering, Addressed plan numbering ∧ Routed plan numbering
  identified : ∃ ranges, Identified plan ranges
  managed : ∃ network, Managed plan network

/-- Every plan of a builder is well formed. -/
theorem plan_wellFormed (policyForScale : String → Except String PingmeshPolicy) (plan : FabricPlan)
    (built : BuiltPlan policyForScale plan) : WellFormed plan := by
  cases built with
  | clos config done =>
    have tiered := closPlan_tiered done
    obtain ⟨valid, addressing, renderSettings, managed, settings, records, inRows⟩ :=
      closPlan_inRows done
    obtain ⟨-, room, read⟩ := network_of_create managed
    constructor
    · exact ⟨_, tiered.addressed, tiered.routed⟩
    · exact ⟨_, closPlan_identified valid inRows⟩
    · exact ⟨_, inRows.managed room read records (collectorSettings_eq_ok settings)⟩
  | fatTree config done =>
    have tiered := fatTreePlan_tiered done
    obtain ⟨valid, addressing, renderSettings, managed, settings, records, inRows⟩ :=
      fatTreePlan_inRows done
    obtain ⟨-, room, read⟩ := network_of_create managed
    constructor
    · exact ⟨_, tiered.addressed, tiered.routed⟩
    · exact ⟨_, fatTreePlan_identified valid inRows⟩
    · exact ⟨_, inRows.managed room read records (collectorSettings_eq_ok settings)⟩

theorem oneSpine_wellFormed : ∃ plan, BuiltPlan (fun _ => .ok {}) plan ∧ WellFormed plan :=
  oneSpine_built.imp fun plan built => ⟨built, plan_wellFormed (fun _ => .ok {}) plan built⟩

end NetOpsBench
