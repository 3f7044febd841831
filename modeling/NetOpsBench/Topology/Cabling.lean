import NetOpsBench.Lib.DictEntries
import NetOpsBench.Topology.PlannedAddresses

/-!
# The cabling of a plan

What a plan owes its links: every link has a /30 of its own, whose two hosts are the addresses of its
ends, and the BGP neighbors and the advertised networks of a switch are those of its links
(`Addressed`, `Routed`). A fabric is made of tiers of cables between numbered devices; where every
switch has the ports, the neighbors and the networks of its cables (`Tiered`), both hold.
-/

namespace NetOpsBench

open Fallible

/-! ## What a plan owes its links -/

/-- An end of a link, with the numbers of the network of the link and of both addresses. -/
structure LinkEnd : Type where
  near : LinkEndpoint
  far : LinkEndpoint
  network : Nat
  address : Nat
  farAddress : Nat

/-- The two ends of a link whose network has a number. -/
def linkEnds (entry : Link × Nat) : List LinkEnd :=
  [⟨entry.1.endpoints.1, entry.1.endpoints.2, entry.2, entry.2 + 1, entry.2 + 2⟩,
    ⟨entry.1.endpoints.2, entry.1.endpoints.1, entry.2, entry.2 + 2, entry.2 + 1⟩]

/-- The ends of links at a device. -/
def endsAt (numbering : List (Link × Nat)) (device : String) : List LinkEnd :=
  (numbering.flatMap linkEnds).filter fun linkEnd => decide (linkEnd.near.device = device)

/-- Every link has a /30 of its own, and its ends have the two hosts. -/
structure Addressed (plan : FabricPlan) (numbering : List (Link × Nat)) : Prop where
  links : numbering.map Prod.fst = plan.manifest.links
  aligned : ∀ entry ∈ numbering, 4 ∣ entry.2 ∧ entry.2 + 4 ≤ 2 ^ 32
  disjoint : (numbering.map Prod.snd).Nodup
  endpoints : plan.endpoints.Nodup
  devices : ∀ linkEnd ∈ numbering.flatMap linkEnds,
    ∃ device ∈ plan.devicePlans, device.name = linkEnd.near.device
  /-- A switch has the address of an end on the port of its interface. -/
  ports : ∀ switch ∈ plan.switchPlans, ∀ name cidrs,
    switch.configdbInterfaceCidrs.get name = some cidrs ↔
      ∃ linkEnd ∈ endsAt numbering switch.name, ∃ port, 1 ≤ port ∧
        linkEnd.near.interface = ethPortName port ∧ name = sonicPortName port ∧
          cidrs = [Ipv4.text linkEnd.address ++ "/30"]
  /-- No other port of the switch has it. -/
  once : ∀ switch ∈ plan.switchPlans, ∀ name other cidrs,
    switch.configdbInterfaceCidrs.get name = some cidrs →
      switch.configdbInterfaceCidrs.get other = some cidrs → name = other
  clients : ∀ client ∈ plan.devicePlans, client.isClient = true →
    ∀ linkEnd ∈ endsAt numbering client.name,
      client.device.dataIp = some (Ipv4.text linkEnd.address)

/-- A switch has an address of another as a neighbor, with the number of its system. -/
def ListsNeighbor (switch other : DevicePlan) : Prop :=
  ∃ neighbor ∈ switch.bgpNeighbors, other.bgpAsn = some neighbor.remoteAs ∧
    ∃ name, other.configdbInterfaceCidrs.get name = some [neighbor.peerIp ++ "/30"]

/-- The neighbors of a switch are the far ends of its links to switches, and it advertises the
networks of its links to clients. -/
structure Routed (plan : FabricPlan) (numbering : List (Link × Nat)) : Prop where
  neighbors : ∀ switch ∈ plan.switchPlans, ∀ neighbor, neighbor ∈ switch.bgpNeighbors ↔
    ∃ linkEnd ∈ endsAt numbering switch.name, ∃ far ∈ plan.switchPlans,
      far.name = linkEnd.far.device ∧ far.bgpAsn = some neighbor.remoteAs ∧
        neighbor.peerIp = Ipv4.text linkEnd.farAddress
  symmetric : ∀ switch ∈ plan.switchPlans, ∀ other ∈ plan.switchPlans,
    ListsNeighbor switch other ↔ ListsNeighbor other switch
  networks : ∀ switch ∈ plan.switchPlans, ∀ network, network ∈ switch.bgpNetworks ↔
    ∃ linkEnd ∈ endsAt numbering switch.name, ∃ client ∈ plan.devicePlans,
      client.isClient = true ∧ client.name = linkEnd.far.device ∧
        network = (Ipv4.Network.mk linkEnd.network 30).text

/-! ## Names with numbers -/

/-- A text without digits. -/
def isStem (text : String) : Bool := text.toList.all fun c => !c.isDigit

theorem takeWhile_numbered {stem : String} (plain : isStem stem = true) (i : Nat) :
    ((stem ++ toString i).toList.takeWhile fun c => !c.isDigit) = stem.toList := by
  rw [String.toList_append, List.takeWhile_append_of_pos (List.all_eq_true.mp plain)]
  have stops : ((toString i).toList.takeWhile fun c => !c.isDigit) = [] := by
    cases digits : (toString i).toList with
    | nil => rfl
    | cons c rest =>
        have digit := Text.isDigit_of_mem_toString (digits ▸ List.mem_cons_self : c ∈ (toString i).toList)
        simp [digit]
  rw [stops, List.append_nil]

/-- The stem and the number of a name are told by the name. -/
theorem numbered_inj {stem stem' : String} {i j : Nat} (plain : isStem stem = true)
    (plain' : isStem stem' = true) (same : stem ++ toString i = stem' ++ toString j) :
    stem = stem' ∧ i = j := by
  have stems := takeWhile_numbered plain i
  rw [same, takeWhile_numbered plain' j] at stems
  have eq : stem = stem' := String.toList_inj.mp stems.symm
  subst eq
  have chars := congrArg String.toList same
  rw [String.toList_append, String.toList_append] at chars
  have numbers := congrArg Text.numeralValue (String.toList_inj.mp (List.append_cancel_left chars))
  rw [Text.numeralValue_toString, Text.numeralValue_toString] at numbers
  exact ⟨rfl, numbers⟩

theorem sonicPortName_inj {port port' : Nat} (low : 1 ≤ port) (low' : 1 ≤ port')
    (same : sonicPortName port = sonicPortName port') : port = port' := by
  have lanes := (@numbered_inj "Ethernet" "Ethernet" _ _ (by rfl) (by rfl) same).2
  omega

theorem ethPortName_inj {port port' : Nat} (same : ethPortName port = ethPortName port') :
    port = port' :=
  (@numbered_inj "eth" "eth" _ _ (by rfl) (by rfl) same).2

/-! ## Tiers of cables -/

/-- A cable between two numbered devices, with the number of its network. -/
structure Cable : Type where
  upper : Nat
  upperPort : Nat
  lower : Nat
  lowerPort : Nat
  network : Nat

structure Tier : Type where
  kind : String
  upperStem : String
  lowerStem : String
  cables : List Cable

namespace Tier

def upperEndpoint (tier : Tier) (cable : Cable) : LinkEndpoint :=
  ⟨tier.upperStem ++ toString cable.upper, ethPortName cable.upperPort⟩

def lowerEndpoint (tier : Tier) (cable : Cable) : LinkEndpoint :=
  ⟨tier.lowerStem ++ toString cable.lower, ethPortName cable.lowerPort⟩

def link (tier : Tier) (cable : Cable) : Link :=
  { kind := tier.kind, endpoints := (tier.upperEndpoint cable, tier.lowerEndpoint cable) }

def numbering (tier : Tier) : List (Link × Nat) :=
  tier.cables.map fun cable => (tier.link cable, cable.network)

def upperEnd (tier : Tier) (cable : Cable) : LinkEnd :=
  ⟨tier.upperEndpoint cable, tier.lowerEndpoint cable, cable.network, cable.network + 1,
    cable.network + 2⟩

def lowerEnd (tier : Tier) (cable : Cable) : LinkEnd :=
  ⟨tier.lowerEndpoint cable, tier.upperEndpoint cable, cable.network, cable.network + 2,
    cable.network + 1⟩

end Tier

def numberingOf (tiers : List Tier) : List (Link × Nat) := tiers.flatMap Tier.numbering

variable {tiers : List Tier} {plan : FabricPlan} {asn : String → Nat → Int} {stem : String}
  {index : Nat} {linkEnd : LinkEnd}

theorem mem_ends : linkEnd ∈ (numberingOf tiers).flatMap linkEnds ↔
    ∃ tier ∈ tiers, ∃ cable ∈ tier.cables,
      linkEnd = tier.upperEnd cable ∨ linkEnd = tier.lowerEnd cable := by
  unfold numberingOf Tier.numbering
  constructor
  · intro mem
    obtain ⟨entry, memEntry, isEnd⟩ := List.mem_flatMap.mp mem
    obtain ⟨tier, memTier, inTier⟩ := List.mem_flatMap.mp memEntry
    obtain ⟨cable, memCable, rfl⟩ := List.mem_map.mp inTier
    exact ⟨tier, memTier, cable, memCable, List.mem_pair.mp isEnd⟩
  · intro found
    obtain ⟨tier, memTier, cable, memCable, isEnd⟩ := found
    exact List.mem_flatMap.mpr ⟨_, List.mem_flatMap.mpr ⟨tier, memTier,
      List.mem_map_of_mem memCable⟩, List.mem_pair.mpr isEnd⟩

/-- The names of all tiers are told from their numbers. -/
def Plain (tiers : List Tier) : Prop :=
  ∀ tier ∈ tiers, isStem tier.upperStem = true ∧ isStem tier.lowerStem = true

/-- The ends at a device are those of its cables. -/
theorem mem_endsAt (plain : Plain tiers) (isPlain : isStem stem = true) :
    linkEnd ∈ endsAt (numberingOf tiers) (stem ++ toString index) ↔
      ∃ tier ∈ tiers, ∃ cable ∈ tier.cables,
        (tier.upperStem = stem ∧ cable.upper = index ∧ linkEnd = tier.upperEnd cable) ∨
        (tier.lowerStem = stem ∧ cable.lower = index ∧ linkEnd = tier.lowerEnd cable) := by
  unfold endsAt
  rw [List.mem_filter, decide_eq_true_eq, mem_ends]
  constructor
  · intro found
    obtain ⟨⟨tier, memTier, cable, memCable, isEnd⟩, named⟩ := found
    refine ⟨tier, memTier, cable, memCable, ?_⟩
    rcases isEnd with rfl | rfl
    · obtain ⟨sameStem, sameIndex⟩ := numbered_inj (plain tier memTier).1 isPlain named
      exact .inl ⟨sameStem, sameIndex, rfl⟩
    · obtain ⟨sameStem, sameIndex⟩ := numbered_inj (plain tier memTier).2 isPlain named
      exact .inr ⟨sameStem, sameIndex, rfl⟩
  · intro found
    obtain ⟨tier, memTier, cable, memCable, ⟨rfl, rfl, rfl⟩ | ⟨rfl, rfl, rfl⟩⟩ := found
    · exact ⟨⟨tier, memTier, cable, memCable, .inl rfl⟩, rfl⟩
    · exact ⟨⟨tier, memTier, cable, memCable, .inr rfl⟩, rfl⟩

/-! ## Plans of tiers -/

/-- A switch has the ports, the neighbors and the networks of its cables. -/
structure SwitchWired (tiers : List Tier) (asn : String → Nat → Int) (stem : String) (index : Nat)
    (switch : DevicePlan) : Prop where
  plain : isStem stem = true
  notClient : stem ≠ "client"
  name : switch.name = stem ++ toString index
  bgpAsn : switch.bgpAsn = some (asn stem index)
  ports : ∀ name cidrs, switch.configdbInterfaceCidrs.get name = some cidrs ↔
    ∃ tier ∈ tiers, ∃ cable ∈ tier.cables,
      (tier.upperStem = stem ∧ cable.upper = index ∧ name = sonicPortName cable.upperPort ∧
        cidrs = [Ipv4.text (cable.network + 1) ++ "/30"]) ∨
      (tier.lowerStem = stem ∧ cable.lower = index ∧ name = sonicPortName cable.lowerPort ∧
        cidrs = [Ipv4.text (cable.network + 2) ++ "/30"])
  neighbors : ∀ neighbor, neighbor ∈ switch.bgpNeighbors ↔
    ∃ tier ∈ tiers, ∃ cable ∈ tier.cables,
      (tier.upperStem = stem ∧ tier.lowerStem ≠ "client" ∧ cable.upper = index ∧
        neighbor = ⟨Ipv4.text (cable.network + 2), asn tier.lowerStem cable.lower⟩) ∨
      (tier.lowerStem = stem ∧ cable.lower = index ∧
        neighbor = ⟨Ipv4.text (cable.network + 1), asn tier.upperStem cable.upper⟩)
  networks : ∀ network, network ∈ switch.bgpNetworks ↔
    ∃ tier ∈ tiers, ∃ cable ∈ tier.cables,
      tier.upperStem = stem ∧ tier.lowerStem = "client" ∧ cable.upper = index ∧
        network = (Ipv4.Network.mk cable.network 30).text

/-- A plan whose devices are those of some tiers. -/
structure Tiered (plan : FabricPlan) (tiers : List Tier) (asn : String → Nat → Int) : Prop where
  plain : Plain tiers
  switchesAbove : ∀ tier ∈ tiers, tier.upperStem ≠ "client"
  links : (numberingOf tiers).map Prod.fst = plan.manifest.links
  cables : ∀ tier ∈ tiers, ∀ cable ∈ tier.cables,
    4 ∣ cable.network ∧ cable.network + 4 ≤ 2 ^ 32 ∧ 1 ≤ cable.upperPort ∧ 1 ≤ cable.lowerPort
  disjoint : ((numberingOf tiers).map Prod.snd).Nodup
  switches : ∀ switch ∈ plan.switchPlans, ∃ stem index, SwitchWired tiers asn stem index switch
  clients : ∀ client ∈ plan.devicePlans, client.isClient = true →
    ∃ index, client.name = "client" ++ toString index ∧
      ∀ tier ∈ tiers, tier.lowerStem = "client" → ∀ cable ∈ tier.cables, cable.lower = index →
        client.device.dataIp = some (Ipv4.text (cable.network + 2))

/-! ## Checked plans -/

theorem foldlM_checkEndpoint {endpoints used used' : List LinkEndpoint}
    (done : endpoints.foldlM Fabric.checkEndpoint used = .ok used') (distinct : used.Nodup) :
    (used ++ endpoints).Nodup := by
  induction endpoints generalizing used with
  | nil => rwa [List.append_nil]
  | cons endpoint endpoints ih =>
      rw [List.foldlM_cons, bind_eq_ok] at done
      obtain ⟨next, first, rest⟩ := done
      unfold Fabric.checkEndpoint at first
      rw [bind_eq_ok] at first
      obtain ⟨_, fresh, first⟩ := first
      rw [reject_eq_ok] at fresh
      rw [pure_eq_ok] at first
      subst first
      have longer : (used ++ [endpoint]).Nodup := by
        apply List.nodup_append'.mpr
        refine ⟨distinct, List.nodup_singleton _, ?_⟩
        intro other mem isEndpoint
        rw [List.mem_singleton] at isEndpoint
        exact fresh (isEndpoint ▸ mem)
      have all := ih rest longer
      rwa [List.append_assoc, List.singleton_append] at all

/-- What `__post_init__` has checked of the devices and the links. -/
theorem FabricPlan.checked (plan : FabricPlan) :
    plan.manifest.devices.map Device.name = plan.devicePlans.map DevicePlan.name ∧
      plan.endpoints.Nodup := by
  have valid := plan.valid
  unfold Fabric.check at valid
  simp only [bind_eq_ok, reject_eq_ok, not_not] at valid
  obtain ⟨_, names, used, endpoints, -⟩ := valid
  refine ⟨names, ?_⟩
  have distinct := foldlM_checkEndpoint endpoints List.nodup_nil
  rwa [List.nil_append] at distinct

theorem FabricPlan.names_nodup (plan : FabricPlan) :
    (plan.devicePlans.map DevicePlan.name).Nodup := by
  rw [← plan.checked.1]
  exact plan.manifest.deviceNames_nodup

/-- A device of a link is planned. -/
theorem FabricPlan.exists_device (plan : FabricPlan) {link : Link} (mem : link ∈ plan.manifest.links)
    {endpoint : LinkEndpoint} (isEnd : endpoint ∈ link.endpointList) :
    ∃ device ∈ plan.devicePlans, device.name = endpoint.device := by
  have passed := plan.manifest.checks_passed.2.1 link mem
  unfold Topology.checkLink at passed
  rw [forM_eq_ok] at passed
  have known := passed endpoint isEnd
  rw [reject_eq_ok, not_not, plan.checked.1] at known
  exact List.mem_map.mp known

/-! ## Ends and addresses -/

theorem text_slash_inj {m n : Nat} (low : m < 2 ^ 32) (low' : n < 2 ^ 32)
    (same : Ipv4.text m ++ "/30" = Ipv4.text n ++ "/30") : m = n := by
  have chars := congrArg String.toList same
  rw [String.toList_append, String.toList_append] at chars
  exact Ipv4.text_inj low low' (String.toList_inj.mp (List.append_cancel_right chars))

/-- The other end of the link. -/
def LinkEnd.reverse (linkEnd : LinkEnd) : LinkEnd :=
  ⟨linkEnd.far, linkEnd.near, linkEnd.network, linkEnd.farAddress, linkEnd.address⟩

theorem cable_of_entry {entry : Link × Nat} (mem : entry ∈ numberingOf tiers) :
    ∃ tier ∈ tiers, ∃ cable ∈ tier.cables, entry = (tier.link cable, cable.network) := by
  obtain ⟨tier, memTier, inTier⟩ := List.mem_flatMap.mp mem
  obtain ⟨cable, memCable, rfl⟩ := List.mem_map.mp inTier
  exact ⟨tier, memTier, cable, memCable, rfl⟩

/-- The two ends of a link are ends of the cabling. -/
theorem reverse_mem (mem : linkEnd ∈ (numberingOf tiers).flatMap linkEnds) :
    linkEnd.reverse ∈ (numberingOf tiers).flatMap linkEnds := by
  obtain ⟨tier, memTier, cable, memCable, isEnd⟩ := mem_ends.mp mem
  apply mem_ends.mpr
  refine ⟨tier, memTier, cable, memCable, ?_⟩
  rcases isEnd with rfl | rfl
  · exact .inr rfl
  · exact .inl rfl

theorem mem_ends_of_endsAt {device : String} (mem : linkEnd ∈ endsAt (numberingOf tiers) device) :
    linkEnd ∈ (numberingOf tiers).flatMap linkEnds ∧ linkEnd.near.device = device := by
  unfold endsAt at mem
  rw [List.mem_filter, decide_eq_true_eq] at mem
  exact mem

namespace Tiered

variable (tiered : Tiered plan tiers asn)
include tiered

theorem aligned : ∀ entry ∈ numberingOf tiers, 4 ∣ entry.2 ∧ entry.2 + 4 ≤ 2 ^ 32 := by
  intro entry mem
  obtain ⟨tier, memTier, cable, memCable, rfl⟩ := cable_of_entry mem
  have bounds := tiered.cables tier memTier cable memCable
  exact ⟨bounds.1, bounds.2.1⟩

theorem address_lt (mem : linkEnd ∈ (numberingOf tiers).flatMap linkEnds) :
    linkEnd.address < 2 ^ 32 := by
  obtain ⟨entry, memEntry, isEnd⟩ := List.mem_flatMap.mp mem
  have bounds := tiered.aligned entry memEntry
  rcases List.mem_pair.mp isEnd with rfl | rfl
  · simp only
    omega
  · simp only
    omega

/-- An address tells its end. -/
theorem address_inj {other : LinkEnd} (mem : linkEnd ∈ (numberingOf tiers).flatMap linkEnds)
    (mem' : other ∈ (numberingOf tiers).flatMap linkEnds)
    (same : linkEnd.address = other.address) : linkEnd = other := by
  obtain ⟨entry, memEntry, isEnd⟩ := List.mem_flatMap.mp mem
  obtain ⟨entry', memEntry', isEnd'⟩ := List.mem_flatMap.mp mem'
  have bounds := tiered.aligned entry memEntry
  have bounds' := tiered.aligned entry' memEntry'
  have entries : entry.2 = entry'.2 → entry = entry' := fun numbers =>
    List.inj_on_of_nodup_map tiered.disjoint memEntry memEntry' numbers
  rcases List.mem_pair.mp isEnd with rfl | rfl
  · rcases List.mem_pair.mp isEnd' with rfl | rfl
    · rw [entries (by simp only at same; omega)]
    · simp only at same
      omega
  · rcases List.mem_pair.mp isEnd' with rfl | rfl
    · simp only at same
      omega
    · rw [entries (by simp only at same; omega)]

theorem exists_port (mem : linkEnd ∈ (numberingOf tiers).flatMap linkEnds) :
    ∃ port, 1 ≤ port ∧ linkEnd.near.interface = ethPortName port := by
  obtain ⟨tier, memTier, cable, memCable, isEnd⟩ := mem_ends.mp mem
  have bounds := tiered.cables tier memTier cable memCable
  rcases isEnd with rfl | rfl
  · exact ⟨cable.upperPort, bounds.2.2.1, rfl⟩
  · exact ⟨cable.lowerPort, bounds.2.2.2, rfl⟩

theorem exists_device (mem : linkEnd ∈ (numberingOf tiers).flatMap linkEnds) :
    ∃ device ∈ plan.devicePlans, device.name = linkEnd.near.device := by
  obtain ⟨entry, memEntry, isEnd⟩ := List.mem_flatMap.mp mem
  have isLink : entry.1 ∈ plan.manifest.links := tiered.links ▸ List.mem_map_of_mem memEntry
  apply plan.exists_device isLink
  unfold Link.endpointList
  rcases List.mem_pair.mp isEnd with rfl | rfl
  · exact List.mem_cons_self
  · exact List.mem_cons_of_mem _ List.mem_cons_self

/-! ## Devices by their names -/

/-- A device that is named as a switch is that switch. -/
theorem switch_of_name {device : DevicePlan} (mem : device ∈ plan.devicePlans)
    (isPlain : isStem stem = true) (notClient : stem ≠ "client")
    (named : device.name = stem ++ toString index) :
    device ∈ plan.switchPlans ∧ device.bgpAsn = some (asn stem index) := by
  have isSwitch : device.isClient = false := by
    by_contra client
    rw [Bool.not_eq_false] at client
    obtain ⟨number, name, -⟩ := tiered.clients device mem client
    exact notClient (numbered_inj isPlain (by rfl) (named.symm.trans name)).1
  have memSwitch : device ∈ plan.switchPlans := by
    unfold FabricPlan.switchPlans
    rw [List.mem_filter, isSwitch]
    exact ⟨mem, rfl⟩
  obtain ⟨stem', index', wired⟩ := tiered.switches device memSwitch
  obtain ⟨rfl, rfl⟩ := numbered_inj isPlain wired.plain (named.symm.trans wired.name)
  exact ⟨memSwitch, wired.bgpAsn⟩

theorem client_of_name {device : DevicePlan} (mem : device ∈ plan.devicePlans)
    (named : device.name = "client" ++ toString index) : device.isClient = true := by
  by_contra switch
  have memSwitch : device ∈ plan.switchPlans := by
    unfold FabricPlan.switchPlans
    rw [List.mem_filter]
    exact ⟨mem, by simpa using switch⟩
  obtain ⟨stem', index', wired⟩ := tiered.switches device memSwitch
  exact wired.notClient
    (numbered_inj wired.plain (by rfl) (wired.name.symm.trans named)).1

/-! ## The plan is addressed -/

theorem ports {switch : DevicePlan} (mem : switch ∈ plan.switchPlans) (name : String)
    (cidrs : List String) : switch.configdbInterfaceCidrs.get name = some cidrs ↔
      ∃ linkEnd ∈ endsAt (numberingOf tiers) switch.name, ∃ port, 1 ≤ port ∧
        linkEnd.near.interface = ethPortName port ∧ name = sonicPortName port ∧
          cidrs = [Ipv4.text linkEnd.address ++ "/30"] := by
  obtain ⟨stem, index, wired⟩ := tiered.switches switch mem
  rw [wired.ports, wired.name]
  simp only [mem_endsAt tiered.plain wired.plain]
  constructor
  · intro found
    obtain ⟨tier, memTier, cable, memCable, upper | lower⟩ := found
    · obtain ⟨isStem, isIndex, rfl, rfl⟩ := upper
      exact ⟨tier.upperEnd cable, ⟨tier, memTier, cable, memCable, .inl ⟨isStem, isIndex, rfl⟩⟩,
        cable.upperPort, (tiered.cables tier memTier cable memCable).2.2.1, rfl, rfl, rfl⟩
    · obtain ⟨isStem, isIndex, rfl, rfl⟩ := lower
      exact ⟨tier.lowerEnd cable, ⟨tier, memTier, cable, memCable, .inr ⟨isStem, isIndex, rfl⟩⟩,
        cable.lowerPort, (tiered.cables tier memTier cable memCable).2.2.2, rfl, rfl, rfl⟩
  · intro found
    obtain ⟨linkEnd, ⟨tier, memTier, cable, memCable, upper | lower⟩, port, -, isPort, rfl, rfl⟩ :=
      found
    · obtain ⟨isStem, isIndex, rfl⟩ := upper
      have samePort := ethPortName_inj (show ethPortName cable.upperPort = _ from isPort)
      subst samePort
      exact ⟨tier, memTier, cable, memCable, .inl ⟨isStem, isIndex, rfl, rfl⟩⟩
    · obtain ⟨isStem, isIndex, rfl⟩ := lower
      have samePort := ethPortName_inj (show ethPortName cable.lowerPort = _ from isPort)
      subst samePort
      exact ⟨tier, memTier, cable, memCable, .inr ⟨isStem, isIndex, rfl, rfl⟩⟩

theorem addressed : Addressed plan (numberingOf tiers) := by
  constructor
  · exact tiered.links
  · exact tiered.aligned
  · exact tiered.disjoint
  · exact plan.checked.2
  · intro linkEnd mem
    exact tiered.exists_device mem
  · intro switch mem
    exact tiered.ports mem
  · intro switch mem name other cidrs found found'
    obtain ⟨linkEnd, isEnd, port, -, isPort, rfl, rfl⟩ := (tiered.ports mem name cidrs).mp found
    obtain ⟨linkEnd', isEnd', port', -, isPort', rfl, same⟩ := (tiered.ports mem other _).mp found'
    obtain ⟨memEnd, -⟩ := mem_ends_of_endsAt isEnd
    obtain ⟨memEnd', -⟩ := mem_ends_of_endsAt isEnd'
    have texts : Ipv4.text linkEnd.address ++ "/30" = Ipv4.text linkEnd'.address ++ "/30" := by
      simpa using same
    have addresses := text_slash_inj (tiered.address_lt memEnd) (tiered.address_lt memEnd') texts
    have sameEnd := tiered.address_inj memEnd memEnd' addresses
    subst sameEnd
    rw [ethPortName_inj (isPort.symm.trans isPort')]
  · intro client mem isClient linkEnd isEnd
    obtain ⟨index, name, address⟩ := tiered.clients client mem isClient
    rw [name, mem_endsAt tiered.plain (by rfl)] at isEnd
    obtain ⟨tier, memTier, cable, memCable, upper | lower⟩ := isEnd
    · exact absurd upper.1 (tiered.switchesAbove tier memTier)
    · obtain ⟨isStem, isIndex, rfl⟩ := lower
      exact address tier memTier isStem cable memCable isIndex

/-! ## The plan is routed -/

theorem neighbors {switch : DevicePlan} (mem : switch ∈ plan.switchPlans)
    (neighbor : BgpNeighborPlan) : neighbor ∈ switch.bgpNeighbors ↔
      ∃ linkEnd ∈ endsAt (numberingOf tiers) switch.name, ∃ far ∈ plan.switchPlans,
        far.name = linkEnd.far.device ∧ far.bgpAsn = some neighbor.remoteAs ∧
          neighbor.peerIp = Ipv4.text linkEnd.farAddress := by
  obtain ⟨stem, index, wired⟩ := tiered.switches switch mem
  rw [wired.neighbors, wired.name]
  simp only [mem_endsAt tiered.plain wired.plain]
  constructor
  · intro found
    obtain ⟨tier, memTier, cable, memCable, upper | lower⟩ := found
    · obtain ⟨isStem, notClient, isIndex, rfl⟩ := upper
      obtain ⟨far, memFar, named⟩ := tiered.exists_device
        (mem_ends.mpr ⟨tier, memTier, cable, memCable, .inr rfl⟩)
      obtain ⟨isSwitch, isAsn⟩ := tiered.switch_of_name memFar (tiered.plain tier memTier).2
        notClient named
      exact ⟨tier.upperEnd cable, ⟨tier, memTier, cable, memCable, .inl ⟨isStem, isIndex, rfl⟩⟩,
        far, isSwitch, named, isAsn, rfl⟩
    · obtain ⟨isStem, isIndex, rfl⟩ := lower
      obtain ⟨far, memFar, named⟩ := tiered.exists_device
        (mem_ends.mpr ⟨tier, memTier, cable, memCable, .inl rfl⟩)
      obtain ⟨isSwitch, isAsn⟩ := tiered.switch_of_name memFar (tiered.plain tier memTier).1
        (tiered.switchesAbove tier memTier) named
      exact ⟨tier.lowerEnd cable, ⟨tier, memTier, cable, memCable, .inr ⟨isStem, isIndex, rfl⟩⟩,
        far, isSwitch, named, isAsn, rfl⟩
  · intro found
    obtain ⟨linkEnd, ⟨tier, memTier, cable, memCable, upper | lower⟩, far, memFar, named, isAsn,
      peer⟩ := found
    · obtain ⟨isStem, isIndex, rfl⟩ := upper
      obtain ⟨farStem, farIndex, farWired⟩ := tiered.switches far memFar
      obtain ⟨sameStem, sameIndex⟩ := numbered_inj farWired.plain (tiered.plain tier memTier).2
        (farWired.name.symm.trans named)
      subst sameStem sameIndex
      refine ⟨tier, memTier, cable, memCable, .inl ⟨isStem, farWired.notClient, isIndex, ?_⟩⟩
      rw [farWired.bgpAsn, Option.some.injEq] at isAsn
      cases neighbor
      simp only at peer isAsn
      rw [peer, isAsn]
      rfl
    · obtain ⟨isStem, isIndex, rfl⟩ := lower
      obtain ⟨farStem, farIndex, farWired⟩ := tiered.switches far memFar
      obtain ⟨sameStem, sameIndex⟩ := numbered_inj farWired.plain (tiered.plain tier memTier).1
        (farWired.name.symm.trans named)
      subst sameStem sameIndex
      refine ⟨tier, memTier, cable, memCable, .inr ⟨isStem, isIndex, ?_⟩⟩
      rw [farWired.bgpAsn, Option.some.injEq] at isAsn
      cases neighbor
      simp only at peer isAsn
      rw [peer, isAsn]
      rfl

theorem networks {switch : DevicePlan} (mem : switch ∈ plan.switchPlans) (network : String) :
    network ∈ switch.bgpNetworks ↔
      ∃ linkEnd ∈ endsAt (numberingOf tiers) switch.name, ∃ client ∈ plan.devicePlans,
        client.isClient = true ∧ client.name = linkEnd.far.device ∧
          network = (Ipv4.Network.mk linkEnd.network 30).text := by
  obtain ⟨stem, index, wired⟩ := tiered.switches switch mem
  rw [wired.networks, wired.name]
  simp only [mem_endsAt tiered.plain wired.plain]
  constructor
  · intro found
    obtain ⟨tier, memTier, cable, memCable, isStem, toClient, isIndex, rfl⟩ := found
    obtain ⟨client, memClient, named⟩ := tiered.exists_device
      (mem_ends.mpr ⟨tier, memTier, cable, memCable, .inr rfl⟩)
    have name : client.name = "client" ++ toString cable.lower := toClient ▸ named
    exact ⟨tier.upperEnd cable, ⟨tier, memTier, cable, memCable, .inl ⟨isStem, isIndex, rfl⟩⟩,
      client, memClient, tiered.client_of_name memClient name, named, rfl⟩
  · intro found
    obtain ⟨linkEnd, ⟨tier, memTier, cable, memCable, upper | lower⟩, client, memClient, isClient,
      named, rfl⟩ := found
    · obtain ⟨isStem, isIndex, rfl⟩ := upper
      obtain ⟨number, name, -⟩ := tiered.clients client memClient isClient
      have toClient := (numbered_inj (tiered.plain tier memTier).2 (by rfl)
        (named.symm.trans name)).1
      exact ⟨tier, memTier, cable, memCable, isStem, toClient, isIndex, rfl⟩
    · obtain ⟨isStem, isIndex, rfl⟩ := lower
      obtain ⟨number, name, -⟩ := tiered.clients client memClient isClient
      have toClient := (numbered_inj (tiered.plain tier memTier).1 (by rfl)
        (named.symm.trans name)).1
      exact absurd toClient (tiered.switchesAbove tier memTier)

theorem lists_symm {switch other : DevicePlan} (mem : switch ∈ plan.switchPlans)
    (memOther : other ∈ plan.switchPlans) (lists : ListsNeighbor switch other) :
    ListsNeighbor other switch := by
  obtain ⟨neighbor, isNeighbor, isAsn, name, found⟩ := lists
  obtain ⟨linkEnd, isEnd, far, memFar, named, farAsn, peer⟩ :=
    (tiered.neighbors mem neighbor).mp isNeighbor
  obtain ⟨otherEnd, isOther, port, -, -, -, same⟩ := (tiered.ports memOther name _).mp found
  obtain ⟨memEnd, near⟩ := mem_ends_of_endsAt isEnd
  obtain ⟨memOtherEnd, nearOther⟩ := mem_ends_of_endsAt isOther
  have memReverse := reverse_mem memEnd
  -- the address that is listed is that of the other end of the link
  have texts : Ipv4.text linkEnd.reverse.address ++ "/30" = Ipv4.text otherEnd.address ++ "/30" := by
    rw [peer] at same
    change Ipv4.text linkEnd.farAddress ++ "/30" = _
    simpa using same
  have sameEnd := tiered.address_inj memReverse memOtherEnd
    (text_slash_inj (tiered.address_lt memReverse) (tiered.address_lt memOtherEnd) texts)
  subst sameEnd
  obtain ⟨stem, index, wired⟩ := tiered.switches switch mem
  refine ⟨⟨Ipv4.text linkEnd.address, asn stem index⟩, ?_, wired.bgpAsn, ?_⟩
  · exact (tiered.neighbors memOther _).mpr
      ⟨linkEnd.reverse, isOther, switch, mem, near.symm, wired.bgpAsn, rfl⟩
  · obtain ⟨port, low, isPort⟩ := tiered.exists_port memEnd
    exact ⟨sonicPortName port, (tiered.ports mem _ _).mpr
      ⟨linkEnd, isEnd, port, low, isPort, rfl, rfl⟩⟩

theorem routed : Routed plan (numberingOf tiers) := by
  constructor
  · intro switch mem
    exact tiered.neighbors mem
  · intro switch mem other memOther
    exact ⟨tiered.lists_symm mem memOther, tiered.lists_symm memOther mem⟩
  · intro switch mem
    exact tiered.networks mem

end Tiered

end NetOpsBench
