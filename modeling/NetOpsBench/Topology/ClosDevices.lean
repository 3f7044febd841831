import NetOpsBench.Topology.ClosBuilder
import NetOpsBench.Topology.ConfigDbRoundTrip
import NetOpsBench.Topology.FrrRoundTrip
import NetOpsBench.Topology.PlannedAddresses

/-!
# The switches of a two-tier plan

Every spine and every leaf that `build_clos_plan` plans is rendered to texts that are read back.
-/

namespace NetOpsBench

open Fallible

variable {config : ClosConfig} {addressing : ManagementAddressing}
  {clientAddressing : ClientAddressing} {device : DevicePlan} {spine leaf : Nat}

namespace ClosConfig

/-- What `_validate_config` has checked. -/
structure Valid (config : ClosConfig) : Prop where
  spines : 1 ≤ config.numSpines ∧ config.numSpines ≤ 255
  leafs : 1 ≤ config.numLeafs ∧ config.numLeafs ≤ 255
  clients : 1 ≤ config.clientsPerLeaf ∧ config.clientsPerLeaf ≤ 64
  spineAsn : 64512 ≤ config.spineAsn ∧ config.spineAsn ≤ 65534
  leafAsns : 64512 ≤ config.leafAsnStart ∧ config.leafAsnStart + config.numLeafs - 1 ≤ 65534
  apart : ¬ (config.leafAsnStart ≤ config.spineAsn ∧
    config.spineAsn ≤ config.leafAsnStart + config.numLeafs - 1)

theorem valid_of_validate (done : config.validate = .ok ()) : config.Valid := by
  unfold validate at done
  simp only [bind_eq_ok, reject_eq_ok, not_not] at done
  obtain ⟨_, spines, clientAddressing, created, _, asns, apart⟩ := done
  obtain ⟨-, -, lowLeafs, highLeafs, lowClients, highClients⟩ :=
    ClientAddressing.create_eq_ok created
  constructor
  · exact spines
  · exact ⟨lowLeafs, highLeafs⟩
  · exact ⟨lowClients, highClients⟩
  · exact ⟨asns.1, asns.2.1⟩
  · exact ⟨asns.2.2.1, asns.2.2.2.2⟩
  · exact apart

theorem Valid.spines_le (valid : config.Valid) : config.spines ≤ 255 := by
  have bounds := valid.spines
  unfold ClosConfig.spines
  omega

theorem Valid.leafs_le (valid : config.Valid) : config.leafs ≤ 255 := by
  have bounds := valid.leafs
  unfold ClosConfig.leafs
  omega

/-- The number of an address of a fabric link. -/
def fabricNumber (spine leaf host : Nat) : Nat := 167772160 + spine * 65536 + leaf * 256 + host

theorem fabricNumber_lt {host : Nat} (spines : spine ≤ 255) (leafs : leaf ≤ 255)
    (hosts : host ≤ 255) : fabricNumber spine leaf host < 2 ^ 32 := by
  unfold fabricNumber
  omega

theorem fabricIp_eq {host : Nat} (spines : spine ≤ 255) (leafs : leaf ≤ 255) (hosts : host ≤ 255) :
    fabricIp spine leaf host = Ipv4.text (fabricNumber spine leaf host) := by
  have octets : Ipv4.octets (fabricNumber spine leaf host) = (10, spine, leaf, host) := by
    unfold Ipv4.octets fabricNumber
    simp only [Prod.mk.injEq]
    omega
  unfold Ipv4.text
  rw [octets]
  apply String.toList_inj.mp
  simp [fabricIp, Ipv4.display]
  rfl

theorem leafAsn_nonneg (valid : config.Valid) (mem : leaf ∈ indices config.leafs) :
    0 ≤ config.leafAsn leaf := by
  have start := valid.leafAsns.1
  rw [mem_indices] at mem
  unfold leafAsn
  omega

/-! ## Spines -/

theorem spine_isClient (made : config.spineDevicePlan addressing spine = .ok device) :
    device.isClient = false := by
  unfold spineDevicePlan at made
  simp only [bind_eq_ok, pure_eq_ok] at made
  obtain ⟨mgmtIp, -, rfl⟩ := made
  rfl

theorem spine_renderable (valid : config.Valid) (mem : spine ∈ indices config.spines)
    (made : config.spineDevicePlan addressing spine = .ok device) : Renderable device := by
  unfold spineDevicePlan at made
  simp only [bind_eq_ok, pure_eq_ok] at made
  obtain ⟨mgmtIp, -, rfl⟩ := made
  have spines : spine ≤ 255 := (mem_indices.mp mem).2.trans valid.spines_le
  have leafs : ∀ leaf ∈ indices config.leafs, leaf ≤ 255 := fun leaf memLeaf =>
    (mem_indices.mp memLeaf).2.trans valid.leafs_le
  constructor
  · exact (solid_literal (by rfl)).append (Text.Solid.toString spine)
  · exact ⟨_, rfl, (solid_literal (by rfl)).append (Text.Solid.toString spine)⟩
  · have nonneg : 0 ≤ config.spineAsn := by
      have asn := valid.spineAsn
      omega
    exact ⟨_, congrArg some (Int.toNat_of_nonneg nonneg).symm⟩
  · rw [List.map_map]
    apply List.Nodup.map_on _ (nodup_indices _)
    intro a memA b memB same
    simp only [Function.comp_apply] at same
    rw [fabricIp_eq spines (leafs a memA) (by omega), fabricIp_eq spines (leafs b memB) (by omega)]
      at same
    have numbers := Ipv4.text_inj (fabricNumber_lt spines (leafs a memA) (by omega))
      (fabricNumber_lt spines (leafs b memB) (by omega)) same
    unfold fabricNumber at numbers
    omega
  · intro neighbor memNeighbor
    obtain ⟨leaf, memLeaf, rfl⟩ := List.mem_map.mp memNeighbor
    constructor
    · simp only
      rw [fabricIp_eq spines (leafs leaf memLeaf) (by omega)]
      exact Ipv4.solid_text _
    · exact leafAsn_nonneg valid memLeaf
  · exact List.nodup_nil
  · intro network memNetwork
    cases memNetwork

theorem spine_portsReadable (valid : config.Valid) (mem : spine ∈ indices config.spines)
    (made : config.spineDevicePlan addressing spine = .ok device) : PortsReadable device := by
  unfold spineDevicePlan at made
  simp only [bind_eq_ok, pure_eq_ok] at made
  obtain ⟨mgmtIp, -, rfl⟩ := made
  intro name cidrs planned
  obtain ⟨leaf, memLeaf, entry⟩ := List.mem_map.mp (Dict.mem_of_get_ofEntries planned)
  cases entry
  have spines : spine ≤ 255 := (mem_indices.mp mem).2.trans valid.spines_le
  have leafs : leaf ≤ 255 := (mem_indices.mp memLeaf).2.trans valid.leafs_le
  refine ⟨sonicPortName_lane leaf, fabricNumber spine leaf 1, ?_, ?_⟩
  · exact fabricNumber_lt spines leafs (by omega)
  · rw [fabricIp_eq spines leafs (by omega)]

/-! ## Leafs -/

theorem leaf_isClient (made : config.leafDevicePlan addressing clientAddressing leaf = .ok device) :
    device.isClient = false := by
  unfold leafDevicePlan at made
  simp only [bind_eq_ok, pure_eq_ok] at made
  obtain ⟨mgmtIp, -, subnet, -, links, -, rfl⟩ := made
  rfl

theorem leaf_renderable (valid : config.Valid) (mem : leaf ∈ indices config.leafs)
    (made : config.leafDevicePlan addressing clientAddressing leaf = .ok device) :
    Renderable device := by
  unfold leafDevicePlan at made
  simp only [bind_eq_ok, pure_eq_ok] at made
  obtain ⟨mgmtIp, -, subnet, -, links, access, rfl⟩ := made
  obtain ⟨distinct, solid⟩ := access_subnets access
  have leafs : leaf ≤ 255 := (mem_indices.mp mem).2.trans valid.leafs_le
  have spines : ∀ spine ∈ indices config.spines, spine ≤ 255 := fun spine memSpine =>
    (mem_indices.mp memSpine).2.trans valid.spines_le
  constructor
  · exact (solid_literal (by rfl)).append (Text.Solid.toString leaf)
  · exact ⟨_, rfl, (solid_literal (by rfl)).append (Text.Solid.toString leaf)⟩
  · exact ⟨_, congrArg some (Int.toNat_of_nonneg (leafAsn_nonneg valid mem)).symm⟩
  · rw [List.map_map]
    apply List.Nodup.map_on _ (nodup_indices _)
    intro a memA b memB same
    simp only [Function.comp_apply] at same
    rw [fabricIp_eq (spines a memA) leafs (by omega), fabricIp_eq (spines b memB) leafs (by omega)]
      at same
    have numbers := Ipv4.text_inj (fabricNumber_lt (spines a memA) leafs (by omega))
      (fabricNumber_lt (spines b memB) leafs (by omega)) same
    unfold fabricNumber at numbers
    omega
  · intro neighbor memNeighbor
    obtain ⟨spine, memSpine, rfl⟩ := List.mem_map.mp memNeighbor
    constructor
    · simp only
      rw [fabricIp_eq (spines spine memSpine) leafs (by omega)]
      exact Ipv4.solid_text _
    · have asn := valid.spineAsn
      simp only
      omega
  · exact distinct
  · intro network memNetwork
    obtain ⟨link, memLink, rfl⟩ := List.mem_map.mp memNetwork
    exact (solid link memLink).1

theorem leaf_portsReadable (valid : config.Valid) (mem : leaf ∈ indices config.leafs)
    (made : config.leafDevicePlan addressing clientAddressing leaf = .ok device) :
    PortsReadable device := by
  unfold leafDevicePlan at made
  simp only [bind_eq_ok, pure_eq_ok] at made
  obtain ⟨mgmtIp, -, subnet, -, links, access, rfl⟩ := made
  obtain ⟨-, solid⟩ := access_subnets access
  have leafs : leaf ≤ 255 := (mem_indices.mp mem).2.trans valid.leafs_le
  intro name cidrs planned
  rcases List.mem_append.mp (Dict.mem_of_get_ofEntries planned) with fabric | client
  · obtain ⟨spine, memSpine, entry⟩ := List.mem_map.mp fabric
    cases entry
    have spines : spine ≤ 255 := (mem_indices.mp memSpine).2.trans valid.spines_le
    refine ⟨sonicPortName_lane spine, fabricNumber spine leaf 2, ?_, ?_⟩
    · exact fabricNumber_lt spines leafs (by omega)
    · rw [fabricIp_eq spines leafs (by omega)]
  · obtain ⟨⟨position, link⟩, memLink, entry⟩ := List.mem_map.mp client
    cases entry
    obtain ⟨-, n, below, gateway⟩ := solid link (List.of_mem_zip memLink).2
    refine ⟨sonicPortName_lane _, n, below, ?_⟩
    rw [gateway]

/-! ## The plan -/

theorem client_isClient {position : Nat}
    (made : config.clientDevicePlan addressing clientAddressing leaf position = .ok device) :
    device.isClient = true := by
  unfold clientDevicePlan at made
  simp only [bind_eq_ok, pure_eq_ok] at made
  obtain ⟨access, -, mgmtIp, -, rfl⟩ := made
  rfl

end ClosConfig

/-- What a two-tier plan is made of. -/
theorem buildClosPlan_eq_ok {policyForScale : String → Except String PingmeshPolicy}
    {plan : FabricPlan} (done : buildClosPlan policyForScale config = .ok plan) :
    config.Valid ∧ ∃ clientAddressing addressing renderSettings spinePlans rackPlans,
      ClientAddressing.create config.numLeafs config.clientsPerLeaf = .ok clientAddressing ∧
      ManagementAddressing.create config.mgmtIpv4Subnet config.allocatedOffsets = .ok addressing ∧
      collectorSettings addressing config.collectorIp config.lastDeviceOffset true =
        .ok renderSettings ∧
      Records plan config.links addressing renderSettings ∧
      (indices config.spines).mapM (config.spineDevicePlan addressing) = .ok spinePlans ∧
      (indices config.leafs).mapM (config.rackDevicePlans addressing clientAddressing) =
        .ok rackPlans ∧
      plan.devicePlans = spinePlans ++ rackPlans.flatten := by
  unfold buildClosPlan at done
  simp only [bind_eq_ok] at done
  obtain ⟨_, validated, clientAddressing, clients, addressing, managed, renderSettings, settings,
    spinePlans, spines, rackPlans, racks, _, _, manifest, made, _, _, created⟩ := done
  refine ⟨ClosConfig.valid_of_validate validated, clientAddressing, addressing, renderSettings,
    spinePlans, rackPlans, clients, managed, settings, records_of_created made created rfl rfl,
    spines, racks, ?_⟩
  rw [FabricPlan.create_eq_ok created]

/-- A switch of a two-tier plan is a spine or a leaf. -/
theorem closSwitch_cases {policyForScale : String → Except String PingmeshPolicy}
    {plan : FabricPlan} (done : buildClosPlan policyForScale config = .ok plan)
    (mem : device ∈ plan.switchPlans) :
    config.Valid ∧ ∃ clientAddressing addressing,
      (∃ spine ∈ indices config.spines, config.spineDevicePlan addressing spine = .ok device) ∨
      ∃ leaf ∈ indices config.leafs,
        config.leafDevicePlan addressing clientAddressing leaf = .ok device := by
  obtain ⟨valid, clientAddressing, addressing, -, spinePlans, rackPlans, -, -, -, -, spines, racks,
    plans⟩ := buildClosPlan_eq_ok done
  refine ⟨valid, clientAddressing, addressing, ?_⟩
  unfold FabricPlan.switchPlans at mem
  rw [List.mem_filter, plans, List.mem_append] at mem
  obtain ⟨isSpine | inRack, isSwitch⟩ := mem
  · exact .inl ((mem_of_mapM spines).mp isSpine)
  · obtain ⟨rack, memRack, memDevice⟩ := List.mem_flatten.mp inRack
    obtain ⟨leaf, memLeaf, made⟩ := (mem_of_mapM racks).mp memRack
    unfold ClosConfig.rackDevicePlans at made
    simp only [bind_eq_ok, pure_eq_ok] at made
    obtain ⟨leafPlan, madeLeaf, clientPlans, madeClients, rfl⟩ := made
    rcases List.mem_cons.mp memDevice with rfl | isClient
    · exact .inr ⟨leaf, memLeaf, madeLeaf⟩
    · obtain ⟨position, -, madeClient⟩ := (mem_of_mapM madeClients).mp isClient
      rw [ClosConfig.client_isClient madeClient] at isSwitch
      cases isSwitch

theorem closSwitch_renderable {policyForScale : String → Except String PingmeshPolicy}
    {plan : FabricPlan} (done : buildClosPlan policyForScale config = .ok plan)
    (mem : device ∈ plan.switchPlans) : Renderable device ∧ PortsReadable device := by
  obtain ⟨valid, clientAddressing, addressing, ⟨spine, memSpine, made⟩ | ⟨leaf, memLeaf, made⟩⟩ :=
    closSwitch_cases done mem
  · exact ⟨ClosConfig.spine_renderable valid memSpine made,
      ClosConfig.spine_portsReadable valid memSpine made⟩
  · exact ⟨ClosConfig.leaf_renderable valid memLeaf made,
      ClosConfig.leaf_portsReadable valid memLeaf made⟩

end NetOpsBench
