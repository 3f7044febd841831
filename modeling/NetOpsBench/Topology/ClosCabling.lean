import Mathlib.Data.List.ProdSigma
import NetOpsBench.Topology.Cabling
import NetOpsBench.Topology.ClosDevices

/-!
# The cabling of a two-tier plan

The links of `build_clos_plan` are those of two tiers of cables, and every switch is wired as they
say.
-/

namespace NetOpsBench

open Fallible

/-! ## Loops over ports -/

theorem zip_map_self {α β : Type} (xs : List α) (f : α → β) :
    xs.zip (xs.map f) = xs.map fun x => (x, f x) := by
  induction xs with
  | nil => rfl
  | cons x xs ih => rw [List.map_cons, List.zip_cons_cons, ih, List.map_cons]

/-- A double loop that makes something different in each turn. -/
theorem nodup_doubleLoop {α : Type} {xs ys : List Nat} {f : Nat → Nat → α} (nodupXs : xs.Nodup)
    (nodupYs : ys.Nodup)
    (apart : ∀ x ∈ xs, ∀ y ∈ ys, ∀ x' ∈ xs, ∀ y' ∈ ys, f x y = f x' y' → x = x' ∧ y = y') :
    (xs.flatMap fun x => ys.map (f x)).Nodup := by
  have product : (xs.flatMap fun x => ys.map (f x)) =
      (xs ×ˢ ys).map fun turn => f turn.1 turn.2 := by
    simp [SProd.sprod, List.product, List.map_flatMap, Function.comp_def]
  rw [product]
  apply List.Nodup.map_on _ (nodupXs.product nodupYs)
  intro turn mem turn' mem' same
  obtain ⟨x, y⟩ := turn
  obtain ⟨x', y'⟩ := turn'
  simp only [List.mem_product] at mem mem'
  obtain ⟨rfl, rfl⟩ := apart x mem.1 y mem.2 x' mem'.1 y' mem'.2 same
  rfl

/-- Distinct ports have distinct names. -/
theorem nodup_portNames {ports : List Nat} (low : ∀ port ∈ ports, 1 ≤ port)
    (distinct : ports.Nodup) : (ports.map sonicPortName).Nodup :=
  List.Nodup.map_on (fun _ mem _ mem' => sonicPortName_inj (low _ mem) (low _ mem')) distinct

namespace ClosConfig

variable {config : ClosConfig} {addressing : ManagementAddressing}
  {clientAddressing : ClientAddressing} {device : DevicePlan} {spine leaf : Nat} {cable : Cable}

/-! ## The tiers -/

def fabricCable (spine leaf : Nat) : Cable := ⟨spine, leaf, leaf, spine, fabricNumber spine leaf 0⟩

def accessCable (config : ClosConfig) (leaf position : Nat) : Cable :=
  ⟨leaf, config.spines + position, config.clientIndex leaf position, 1,
    ClientAddressing.accessNumber leaf position⟩

def fabricCables (config : ClosConfig) : List Cable :=
  (indices config.spines).flatMap fun spine => (indices config.leafs).map fun leaf =>
    fabricCable spine leaf

def accessCables (config : ClosConfig) : List Cable :=
  (indices config.leafs).flatMap fun leaf => (indices config.clients).map fun position =>
    config.accessCable leaf position

def fabricTier (config : ClosConfig) : Tier := ⟨"spine-leaf", "spine", "leaf", config.fabricCables⟩

def accessTier (config : ClosConfig) : Tier := ⟨"leaf-client", "leaf", "client", config.accessCables⟩

def tiers (config : ClosConfig) : List Tier := [config.fabricTier, config.accessTier]

/-- The number of the system of a switch. -/
def asnOf (config : ClosConfig) (stem : String) (index : Nat) : Int :=
  if stem = "spine" then config.spineAsn else config.leafAsn index

theorem mem_fabricCables : cable ∈ config.fabricCables ↔
    ∃ spine ∈ indices config.spines, ∃ leaf ∈ indices config.leafs, cable = fabricCable spine leaf := by
  simp only [fabricCables, List.mem_flatMap, List.mem_map, eq_comm]

theorem mem_accessCables : cable ∈ config.accessCables ↔
    ∃ leaf ∈ indices config.leafs, ∃ position ∈ indices config.clients,
      cable = config.accessCable leaf position := by
  simp only [accessCables, List.mem_flatMap, List.mem_map, eq_comm]

/-- The cables of a tier, from both sides. -/
theorem exists_tier {P : Tier → Cable → Prop} :
    (∃ tier ∈ config.tiers, ∃ cable ∈ tier.cables, P tier cable) ↔
      (∃ cable ∈ config.fabricCables, P config.fabricTier cable) ∨
        ∃ cable ∈ config.accessCables, P config.accessTier cable := by
  unfold tiers
  simp only [List.mem_cons, List.not_mem_nil, or_false, exists_eq_or_imp, exists_eq_left]
  rfl

theorem links_eq (config : ClosConfig) : (numberingOf config.tiers).map Prod.fst = config.links := by
  simp [numberingOf, tiers, Tier.numbering, fabricTier, accessTier, fabricCables, accessCables, links,
    List.map_flatMap, Function.comp_def, Tier.link, Tier.upperEndpoint, Tier.lowerEndpoint,
    fabricCable, accessCable]
  rfl

theorem Valid.clients_le (valid : config.Valid) : config.clients ≤ 64 := by
  have bounds := valid.clients
  unfold ClosConfig.clients
  omega

/-! ## Networks -/

theorem cable_bounds (valid : config.Valid) : ∀ tier ∈ config.tiers, ∀ cable ∈ tier.cables,
    4 ∣ cable.network ∧ cable.network + 4 ≤ 2 ^ 32 ∧ 1 ≤ cable.upperPort ∧ 1 ≤ cable.lowerPort := by
  have spines := valid.spines_le
  have leafs := valid.leafs_le
  have clients := valid.clients_le
  intro tier memTier cable memCable
  unfold tiers at memTier
  rcases List.mem_pair.mp memTier with rfl | rfl
  · obtain ⟨spine, memSpine, leaf, memLeaf, rfl⟩ := mem_fabricCables.mp memCable
    rw [mem_indices] at memSpine memLeaf
    unfold fabricCable fabricNumber
    simp only
    omega
  · obtain ⟨leaf, memLeaf, position, memPosition, rfl⟩ := mem_accessCables.mp memCable
    rw [mem_indices] at memLeaf memPosition
    unfold accessCable ClientAddressing.accessNumber ClientAddressing.pool
    simp only
    omega

theorem networks_nodup (valid : config.Valid) : ((numberingOf config.tiers).map Prod.snd).Nodup := by
  have spines := valid.spines_le
  have leafs := valid.leafs_le
  have clients := valid.clients_le
  have parts : (numberingOf config.tiers).map Prod.snd =
      ((indices config.spines).flatMap fun spine => (indices config.leafs).map fun leaf =>
        fabricNumber spine leaf 0) ++
      (indices config.leafs).flatMap fun leaf => (indices config.clients).map fun position =>
        ClientAddressing.accessNumber leaf position := by
    simp [numberingOf, tiers, Tier.numbering, fabricTier, accessTier, fabricCables, accessCables,
      List.map_flatMap, Function.comp_def, fabricCable, accessCable]
  rw [parts]
  apply List.nodup_append'.mpr
  refine ⟨?_, ?_, ?_⟩
  · apply nodup_doubleLoop (nodup_indices _) (nodup_indices _)
    intro a memA b memB a' memA' b' memB' same
    rw [mem_indices] at memA memB memA' memB'
    unfold fabricNumber at same
    omega
  · apply nodup_doubleLoop (nodup_indices _) (nodup_indices _)
    intro a memA b memB a' memA' b' memB' same
    rw [mem_indices] at memA memB memA' memB'
    unfold ClientAddressing.accessNumber at same
    omega
  · intro n isFabric isAccess
    simp only [List.mem_flatMap, List.mem_map, mem_indices] at isFabric isAccess
    obtain ⟨spine, memSpine, leaf, memLeaf, rfl⟩ := isFabric
    obtain ⟨leaf', memLeaf', position, memPosition, same⟩ := isAccess
    unfold fabricNumber ClientAddressing.accessNumber ClientAddressing.pool at same
    omega

theorem spine_ne_client : "spine" ≠ "client" := by decide

theorem spine_ne_leaf : "spine" ≠ "leaf" := by decide

theorem leaf_ne_spine : "leaf" ≠ "spine" := by decide

theorem leaf_ne_client : "leaf" ≠ "client" := by decide

theorem client_ne_spine : "client" ≠ "spine" := by decide

theorem client_ne_leaf : "client" ≠ "leaf" := by decide

/-! ## Spines -/

theorem spine_wired (valid : config.Valid) (mem : spine ∈ indices config.spines)
    (made : config.spineDevicePlan addressing spine = .ok device) :
    SwitchWired config.tiers config.asnOf "spine" spine device := by
  have spines : spine ≤ 255 := (mem_indices.mp mem).2.trans valid.spines_le
  have address {leaf host : Nat} (memLeaf : leaf ∈ indices config.leafs) (hosts : host ≤ 255) :
      fabricIp spine leaf host = Ipv4.text ((fabricCable spine leaf).network + host) :=
    fabricIp_eq spines ((mem_indices.mp memLeaf).2.trans valid.leafs_le) hosts
  unfold spineDevicePlan at made
  simp only [bind_eq_ok, pure_eq_ok] at made
  obtain ⟨mgmtIp, -, rfl⟩ := made
  constructor
  · rfl
  · exact spine_ne_client
  · rfl
  · rfl
  · intro name cidrs
    rw [Dict.get_ofEntries, List.mem_map, exists_tier]
    · constructor
      · intro found
        obtain ⟨leaf, memLeaf, entry⟩ := found
        cases entry
        refine .inl ⟨fabricCable spine leaf, mem_fabricCables.mpr ⟨spine, mem, leaf, memLeaf, rfl⟩,
          .inl ⟨rfl, rfl, rfl, ?_⟩⟩
        rw [address memLeaf (by omega)]
      · intro found
        obtain ⟨cable, memCable, upper | lower⟩ | ⟨cable, memCable, upper | lower⟩ := found
        · obtain ⟨spine', -, leaf, memLeaf, rfl⟩ := mem_fabricCables.mp memCable
          obtain ⟨-, isSpine, rfl, rfl⟩ := upper
          change spine' = spine at isSpine
          subst isSpine
          refine ⟨leaf, memLeaf, ?_⟩
          rw [address memLeaf (by omega)]
          rfl
        · exact absurd lower.1 leaf_ne_spine
        · exact absurd upper.1 leaf_ne_spine
        · exact absurd lower.1 client_ne_spine
    · rw [List.map_map]
      exact nodup_portNames (fun port memPort => (mem_indices.mp memPort).1) (nodup_indices _)
  · intro neighbor
    rw [List.mem_map, exists_tier]
    constructor
    · intro found
      obtain ⟨leaf, memLeaf, rfl⟩ := found
      refine .inl ⟨fabricCable spine leaf, mem_fabricCables.mpr ⟨spine, mem, leaf, memLeaf, rfl⟩,
        .inl ⟨rfl, leaf_ne_client, rfl, ?_⟩⟩
      rw [address memLeaf (by omega)]
      rfl
    · intro found
      obtain ⟨cable, memCable, upper | lower⟩ | ⟨cable, memCable, upper | lower⟩ := found
      · obtain ⟨spine', -, leaf, memLeaf, rfl⟩ := mem_fabricCables.mp memCable
        obtain ⟨-, -, isSpine, rfl⟩ := upper
        change spine' = spine at isSpine
        subst isSpine
        refine ⟨leaf, memLeaf, ?_⟩
        rw [address memLeaf (by omega)]
        rfl
      · exact absurd lower.1 leaf_ne_spine
      · exact absurd upper.1 leaf_ne_spine
      · exact absurd lower.1 client_ne_spine
  · intro network
    rw [exists_tier]
    constructor
    · intro found
      cases found
    · intro found
      obtain ⟨cable, memCable, -, toClient, -⟩ | ⟨cable, memCable, isSpine, -⟩ := found
      · exact absurd toClient leaf_ne_client
      · exact absurd isSpine leaf_ne_spine

/-! ## Leafs -/

theorem leaf_wired (valid : config.Valid) (mem : leaf ∈ indices config.leafs)
    (made : config.leafDevicePlan addressing clientAddressing leaf = .ok device) :
    SwitchWired config.tiers config.asnOf "leaf" leaf device := by
  have leafs : leaf ≤ 255 := (mem_indices.mp mem).2.trans valid.leafs_le
  have address {spine host : Nat} (memSpine : spine ∈ indices config.spines) (hosts : host ≤ 255) :
      fabricIp spine leaf host = Ipv4.text ((fabricCable spine leaf).network + host) :=
    fabricIp_eq ((mem_indices.mp memSpine).2.trans valid.spines_le) leafs hosts
  unfold leafDevicePlan at made
  simp only [bind_eq_ok, pure_eq_ok] at made
  obtain ⟨mgmtIp, -, subnet, -, links, looked, rfl⟩ := made
  have planned := mapM_access looked
  subst planned
  simp only [zip_map_self]
  constructor
  · rfl
  · exact leaf_ne_client
  · rfl
  · rfl
  · intro name cidrs
    rw [Dict.get_ofEntries, List.mem_append, List.map_map, List.mem_map, List.mem_map, exists_tier]
    · constructor
      · intro found
        obtain ⟨spine, memSpine, entry⟩ | ⟨position, memPosition, entry⟩ := found
        · cases entry
          refine .inl ⟨fabricCable spine leaf, mem_fabricCables.mpr
            ⟨spine, memSpine, leaf, mem, rfl⟩, .inr ⟨rfl, rfl, rfl, ?_⟩⟩
          rw [address memSpine (by omega)]
        · cases entry
          exact .inr ⟨config.accessCable leaf position, mem_accessCables.mpr
            ⟨leaf, mem, position, memPosition, rfl⟩, .inl ⟨rfl, rfl, rfl, rfl⟩⟩
      · intro found
        obtain ⟨cable, memCable, upper | lower⟩ | ⟨cable, memCable, upper | lower⟩ := found
        · exact absurd upper.1 spine_ne_leaf
        · obtain ⟨spine, memSpine, leaf', -, rfl⟩ := mem_fabricCables.mp memCable
          obtain ⟨-, isLeaf, rfl, rfl⟩ := lower
          change leaf' = leaf at isLeaf
          subst isLeaf
          refine .inl ⟨spine, memSpine, ?_⟩
          rw [address memSpine (by omega)]
          rfl
        · obtain ⟨leaf', -, position, memPosition, rfl⟩ := mem_accessCables.mp memCable
          obtain ⟨-, isLeaf, rfl, rfl⟩ := upper
          change leaf' = leaf at isLeaf
          subst isLeaf
          exact .inr ⟨position, memPosition, rfl⟩
        · exact absurd lower.1 client_ne_leaf
    · rw [List.map_append, List.map_map, List.map_map, List.map_map]
      have ports := @nodup_portNames (indices config.spines ++
          (indices config.clients).map (config.spines + ·)) ?_ ?_
      · rwa [List.map_append, List.map_map] at ports
      · intro port memPort
        simp only [List.mem_append, List.mem_map, mem_indices] at memPort
        omega
      · apply List.nodup_append'.mpr
        refine ⟨nodup_indices _, ?_, ?_⟩
        · exact (nodup_indices _).map fun a b same => Nat.add_left_cancel same
        · intro port isSpine isClient
          simp only [List.mem_map, mem_indices] at isSpine isClient
          omega
  · intro neighbor
    rw [List.mem_map, exists_tier]
    constructor
    · intro found
      obtain ⟨spine, memSpine, rfl⟩ := found
      refine .inl ⟨fabricCable spine leaf, mem_fabricCables.mpr
        ⟨spine, memSpine, leaf, mem, rfl⟩, .inr ⟨rfl, rfl, ?_⟩⟩
      rw [address memSpine (by omega)]
      rfl
    · intro found
      obtain ⟨cable, memCable, upper | lower⟩ | ⟨cable, memCable, upper | lower⟩ := found
      · exact absurd upper.1 spine_ne_leaf
      · obtain ⟨spine, memSpine, leaf', -, rfl⟩ := mem_fabricCables.mp memCable
        obtain ⟨-, isLeaf, rfl⟩ := lower
        change leaf' = leaf at isLeaf
        subst isLeaf
        refine ⟨spine, memSpine, ?_⟩
        rw [address memSpine (by omega)]
        rfl
      · exact absurd rfl upper.2.1
      · exact absurd lower.1 client_ne_leaf
  · intro network
    change network ∈ ((indices config.clients).map (ClientAddressing.accessAt leaf)).map
      (fun access => access.subnet) ↔ _
    rw [List.map_map, List.mem_map, exists_tier]
    constructor
    · intro found
      obtain ⟨position, memPosition, rfl⟩ := found
      exact .inr ⟨config.accessCable leaf position, mem_accessCables.mpr
        ⟨leaf, mem, position, memPosition, rfl⟩, rfl, rfl, rfl, rfl⟩
    · intro found
      obtain ⟨cable, memCable, isLeaf, -⟩ | ⟨cable, memCable, -, -, isLeaf, rfl⟩ := found
      · exact absurd isLeaf spine_ne_leaf
      · obtain ⟨leaf', -, position, memPosition, rfl⟩ := mem_accessCables.mp memCable
        change leaf' = leaf at isLeaf
        subst isLeaf
        exact ⟨position, memPosition, rfl⟩

/-! ## Clients -/

theorem clientIndex_inj {leaf' position position' : Nat} (leafs : 1 ≤ leaf) (leafs' : 1 ≤ leaf')
    (mem : position ∈ indices config.clients) (mem' : position' ∈ indices config.clients)
    (same : config.clientIndex leaf position = config.clientIndex leaf' position') :
    leaf = leaf' ∧ position = position' := by
  rw [mem_indices] at mem mem'
  unfold clientIndex at same
  obtain ⟨sameLeaf, samePosition⟩ := @quotient_inj config.clients (leaf - 1) (position - 1)
    (leaf' - 1) (position' - 1) (by omega) (by omega) (by omega)
  omega

theorem client_wired {position : Nat} (memLeaf : leaf ∈ indices config.leafs)
    (memPosition : position ∈ indices config.clients)
    (made : config.clientDevicePlan addressing clientAddressing leaf position = .ok device) :
    ∃ index, device.name = "client" ++ toString index ∧
      ∀ tier ∈ config.tiers, tier.lowerStem = "client" → ∀ cable ∈ tier.cables,
        cable.lower = index → device.device.dataIp = some (Ipv4.text (cable.network + 2)) := by
  unfold clientDevicePlan at made
  simp only [bind_eq_ok, pure_eq_ok] at made
  obtain ⟨access, looked, mgmtIp, -, rfl⟩ := made
  obtain ⟨-, -, -, -, rfl⟩ := ClientAddressing.access_eq_ok looked
  refine ⟨config.clientIndex leaf position, rfl, ?_⟩
  intro tier memTier toClient cable memCable isClient
  unfold tiers at memTier
  rcases List.mem_pair.mp memTier with rfl | rfl
  · exact absurd toClient leaf_ne_client
  · obtain ⟨leaf', memLeaf', position', memPosition', rfl⟩ := mem_accessCables.mp memCable
    obtain ⟨rfl, rfl⟩ := clientIndex_inj (mem_indices.mp memLeaf').1 (mem_indices.mp memLeaf).1
      memPosition' memPosition isClient
    rfl

end ClosConfig

/-! ## The plan -/

/-- A client of a two-tier plan is one of a leaf. -/
theorem closClient_cases {policyForScale : String → Except String PingmeshPolicy} {plan : FabricPlan}
    {config : ClosConfig} {device : DevicePlan}
    (done : buildClosPlan policyForScale config = .ok plan) (mem : device ∈ plan.devicePlans)
    (isClient : device.isClient = true) :
    ∃ clientAddressing addressing, ∃ leaf ∈ indices config.leafs, ∃ position ∈ indices config.clients,
      config.clientDevicePlan addressing clientAddressing leaf position = .ok device := by
  obtain ⟨-, clientAddressing, addressing, -, spinePlans, rackPlans, -, -, -, -, spines, racks,
    plans⟩ := buildClosPlan_eq_ok done
  refine ⟨clientAddressing, addressing, ?_⟩
  rw [plans, List.mem_append] at mem
  rcases mem with isSpine | inRack
  · obtain ⟨spine, -, made⟩ := (mem_of_mapM spines).mp isSpine
    rw [ClosConfig.spine_isClient made] at isClient
    cases isClient
  · obtain ⟨rack, memRack, memDevice⟩ := List.mem_flatten.mp inRack
    obtain ⟨leaf, memLeaf, made⟩ := (mem_of_mapM racks).mp memRack
    unfold ClosConfig.rackDevicePlans at made
    simp only [bind_eq_ok, pure_eq_ok] at made
    obtain ⟨leafPlan, madeLeaf, clientPlans, madeClients, rfl⟩ := made
    rcases List.mem_cons.mp memDevice with rfl | inClients
    · rw [ClosConfig.leaf_isClient madeLeaf] at isClient
      cases isClient
    · obtain ⟨position, memPosition, madeClient⟩ := (mem_of_mapM madeClients).mp inClients
      exact ⟨leaf, memLeaf, position, memPosition, madeClient⟩

theorem closPlan_tiered {policyForScale : String → Except String PingmeshPolicy} {plan : FabricPlan}
    {config : ClosConfig} (done : buildClosPlan policyForScale config = .ok plan) :
    Tiered plan config.tiers config.asnOf := by
  obtain ⟨valid, _, _, _, _, _, -, -, -, records, -⟩ := buildClosPlan_eq_ok done
  constructor
  · intro tier mem
    rcases List.mem_pair.mp mem with rfl | rfl
    · exact ⟨(by rfl : isStem "spine" = true), (by rfl : isStem "leaf" = true)⟩
    · exact ⟨(by rfl : isStem "leaf" = true), (by rfl : isStem "client" = true)⟩
  · intro tier mem
    rcases List.mem_pair.mp mem with rfl | rfl
    · exact ClosConfig.spine_ne_client
    · exact ClosConfig.leaf_ne_client
  · rw [records.links, ClosConfig.links_eq]
  · exact ClosConfig.cable_bounds valid
  · exact ClosConfig.networks_nodup valid
  · intro switch mem
    obtain ⟨-, clientAddressing, addressing, ⟨spine, memSpine, made⟩ | ⟨leaf, memLeaf, made⟩⟩ :=
      closSwitch_cases done mem
    · exact ⟨"spine", spine, ClosConfig.spine_wired valid memSpine made⟩
    · exact ⟨"leaf", leaf, ClosConfig.leaf_wired valid memLeaf made⟩
  · intro client mem isClient
    obtain ⟨clientAddressing, addressing, leaf, memLeaf, position, memPosition, made⟩ :=
      closClient_cases done mem isClient
    exact ClosConfig.client_wired memLeaf memPosition made

end NetOpsBench
