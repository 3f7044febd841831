import NetOpsBench.Topology.ClosCabling
import NetOpsBench.Topology.FatTreeWiring

/-!
# Identities and management addresses

What a plan owes its devices: switches have router ids and private system numbers of their own tier
(`Identified`), and devices have management addresses of their own that are hosts of the management
network and not the collector (`Managed`). Both builders plan rows of numbered devices, whose
management offsets follow one another.
-/

namespace NetOpsBench

open Fallible

/-! ## What a plan owes its devices -/

/-- The system numbers of a role. -/
structure AsnRange : Type where
  role : DeviceRole
  low : Int
  high : Int

def AsnRange.Apart (a b : AsnRange) : Prop := a.high < b.low ∨ b.high < a.low

/-- Router ids are unique, and the system numbers of the roles are private ranges that do not
overlap. -/
structure Identified (plan : FabricPlan) (ranges : List AsnRange) : Prop where
  routerIds : (plan.switchPlans.map DevicePlan.bgpRouterId).Nodup ∧
    ∀ switch ∈ plan.switchPlans, switch.bgpRouterId ≠ none
  /-- A range is what the switches of its role have. -/
  asns : ∀ role asn,
    (∃ switch ∈ plan.switchPlans, switch.device.role = role ∧ switch.bgpAsn = some asn) ↔
      ∃ range ∈ ranges, range.role = role ∧ range.low ≤ asn ∧ asn ≤ range.high
  everySwitch : ∀ switch ∈ plan.switchPlans, switch.bgpAsn ≠ none
  isPrivate : ∀ range ∈ ranges, 64512 ≤ range.low ∧ range.high ≤ 65534
  apart : ranges.Pairwise AsnRange.Apart
  roles : (ranges.map AsnRange.role).Nodup

/-- Management addresses are distinct hosts of the management network, and none is the collector. -/
structure Managed (plan : FabricPlan) (network : Ipv4.Network) : Prop where
  subnet : Ipv4.readNetwork plan.manifest.management.ipv4Subnet = some network
  hosts : ∀ device ∈ plan.devicePlans, ∃ n, device.device.mgmtIp = some (Ipv4.text n) ∧
    network.contains n = true ∧ n ≠ network.address ∧ n ≠ network.broadcast
  distinct : (plan.devicePlans.map fun device => device.device.mgmtIp).Nodup
  collector : ∀ device ∈ plan.devicePlans, device.device.mgmtIp ≠ some plan.manifest.collector.ipv4

/-! ## Rows of devices -/

/-- The devices of a role, numbered from one; `mgmtStart` is the offset before the first, and a
switch has its number after `routerStem`. -/
structure DeviceRow : Type where
  role : DeviceRole
  stem : String
  count : Nat
  mgmtStart : Nat
  routerStem : Option String := none
  asn : Nat → Option Int := fun _ => none

/-- A device of a row. -/
structure DeviceRow.Has (row : DeviceRow) (addressing : ManagementAddressing) (index : Nat)
    (device : DevicePlan) : Prop where
  inside : index ∈ indices row.count
  name : device.name = row.stem ++ toString index
  role : device.device.role = row.role
  mgmtIp : ∃ ip, addressing.hostIp (row.mgmtStart + index) = .ok ip ∧ device.device.mgmtIp = some ip
  bgpRouterId : device.bgpRouterId = row.routerStem.map fun stem => stem ++ toString index
  bgpAsn : device.bgpAsn = row.asn index

/-- One row ends before the other begins. -/
def DeviceRow.Disjoint (a b : DeviceRow) : Prop :=
  a.mgmtStart + a.count ≤ b.mgmtStart ∨ b.mgmtStart + b.count ≤ a.mgmtStart

/-- Router ids of different rows differ. -/
def DeviceRow.RoutersApart (a b : DeviceRow) : Prop :=
  ∀ stem ∈ a.routerStem, ∀ stem' ∈ b.routerStem, ∀ i j : Nat,
    stem ++ toString i ≠ stem' ++ toString j

/-- A plan whose devices stand in rows. -/
structure InRows (plan : FabricPlan) (addressing : ManagementAddressing) (rows : List DeviceRow) :
    Prop where
  devices : ∀ device ∈ plan.devicePlans, ∃ row ∈ rows, ∃ index, row.Has addressing index device
  filled : ∀ row ∈ rows, row.role ≠ .client → ∀ index ∈ indices row.count,
    ∃ device ∈ plan.devicePlans, row.Has addressing index device
  offsets : ∀ row ∈ rows, ∀ index ∈ indices row.count,
    row.mgmtStart + index ∈ addressing.allocatedOffsets
  disjoint : rows.Pairwise DeviceRow.Disjoint
  routersApart : rows.Pairwise DeviceRow.RoutersApart
  switches : ∀ row ∈ rows, row.role ≠ .client → row.routerStem ≠ none ∧ ∀ index, row.asn index ≠ none

variable {plan : FabricPlan} {addressing : ManagementAddressing} {rows : List DeviceRow}
  {row row' : DeviceRow} {device device' : DevicePlan} {index index' : Nat}
  {renderSettings : RenderSettings}

instance : Std.Symm DeviceRow.Disjoint := ⟨fun _ _ disjoint => Or.symm disjoint⟩

instance : Std.Symm DeviceRow.RoutersApart :=
  ⟨fun _ _ apart stem mem stem' mem' i j same => apart stem' mem' stem mem j i same.symm⟩

/-- What an offset is given. -/
theorem hostIp_eq_ok {offset : Nat} {ip : String} (found : addressing.hostIp offset = .ok ip) :
    ip = Ipv4.text (addressing.network.address + offset) ∧
      addressing.network.contains (addressing.network.address + offset) = true ∧
      addressing.network.address + offset ≠ addressing.network.address ∧
      addressing.network.address + offset ≠ addressing.network.broadcast := by
  unfold ManagementAddressing.hostIp at found
  simp only [bind_eq_ok, reject_eq_ok, pure_eq_ok, Bool.not_eq_false, Bool.not_eq_true] at found
  obtain ⟨_, positive, _, contained, _, unreserved, rfl⟩ := found
  refine ⟨rfl, contained, by omega, ?_⟩
  intro isBroadcast
  unfold ManagementAddressing.isReserved at unreserved
  simp [isBroadcast] at unreserved

/-- The network of an addressing is read from its text. -/
theorem network_of_create {subnet : String} {offsets : List Nat}
    (created : ManagementAddressing.create subnet offsets = .ok addressing) :
    addressing.allocatedOffsets = offsets ∧
      addressing.network.address + addressing.network.size ≤ 2 ^ 32 ∧
      Ipv4.readNetwork addressing.network.text = some addressing.network := by
  unfold ManagementAddressing.create at created
  simp only [bind_eq_ok, pure_eq_ok] at created
  obtain ⟨network, parsed, _, _, rfl⟩ := created
  unfold ManagementAddressing.parseNetwork at parsed
  split at parsed
  · rename_i found read
    cases parsed
    obtain ⟨room, readBack⟩ := Ipv4.readNetwork_bounds read
    exact ⟨rfl, room, readBack⟩
  · cases parsed

/-- The collector is no device. -/
theorem collectorSettings_eq_ok {collectorIp : Option String} {last : Nat} {prefer : Bool}
    (settled : collectorSettings addressing collectorIp last prefer = .ok renderSettings) :
    ∃ n, renderSettings.syslogCollector = Ipv4.text n ∧ addressing.network.contains n = true ∧
      n ∉ addressing.allocatedIps := by
  unfold collectorSettings buildRenderSettings ManagementAddressing.validateCollector at settled
  simp only [bind_eq_ok, reject_eq_ok, pure_eq_ok, Bool.not_eq_false, Bool.not_eq_true] at settled
  obtain ⟨collector, -, _, -, _, ⟨n, -, _, contained, _, -, _, fresh, rfl⟩, rfl⟩ := settled
  exact ⟨n, rfl, contained, fresh⟩

/-- The management address of a device of a row is the host of its offset. -/
theorem DeviceRow.Has.host (has : row.Has addressing index device) :
    device.device.mgmtIp =
        some (Ipv4.text (addressing.network.address + (row.mgmtStart + index))) ∧
      addressing.network.contains (addressing.network.address + (row.mgmtStart + index)) = true ∧
      addressing.network.address + (row.mgmtStart + index) ≠ addressing.network.address ∧
      addressing.network.address + (row.mgmtStart + index) ≠ addressing.network.broadcast := by
  obtain ⟨ip, found, isIp⟩ := has.mgmtIp
  obtain ⟨rfl, host⟩ := hostIp_eq_ok found
  exact ⟨isIp, host⟩

/-- Devices with one number in a row are one device. -/
theorem DeviceRow.Has.unique (has : row.Has addressing index device)
    (has' : row.Has addressing index device') (mem : device ∈ plan.devicePlans)
    (mem' : device' ∈ plan.devicePlans) : device = device' :=
  List.inj_on_of_nodup_map plan.names_nodup mem mem' (has.name.trans has'.name.symm)

theorem FabricPlan.devices_nodup (plan : FabricPlan) : plan.devicePlans.Nodup :=
  List.Nodup.of_map _ plan.names_nodup

theorem lt_of_contains {n : Nat}
    (room : addressing.network.address + addressing.network.size ≤ 2 ^ 32)
    (contained : addressing.network.contains n = true) : n < 2 ^ 32 := by
  have positive : 0 < addressing.network.size := Nat.pow_pos Nat.zero_lt_two
  unfold Ipv4.Network.contains Ipv4.Network.broadcast at contained
  simp only [Bool.and_eq_true, decide_eq_true_eq] at contained
  omega

namespace InRows

variable (inRows : InRows plan addressing rows)
include inRows

/-- An offset tells the row and the number of a device. -/
theorem row_of_offset (mem : row ∈ rows) (mem' : row' ∈ rows) (inside : index ∈ indices row.count)
    (inside' : index' ∈ indices row'.count)
    (same : row.mgmtStart + index = row'.mgmtStart + index') : row = row' ∧ index = index' := by
  rw [mem_indices] at inside inside'
  have rowsSame : row = row' := by
    by_contra different
    have apart := inRows.disjoint.forall mem mem' different
    unfold DeviceRow.Disjoint at apart
    omega
  subst rowsSame
  exact ⟨rfl, Nat.add_left_cancel same⟩

theorem managed (room : addressing.network.address + addressing.network.size ≤ 2 ^ 32)
    (read : Ipv4.readNetwork addressing.network.text = some addressing.network) {links : List Link}
    (records : Records plan links addressing renderSettings)
    (collector : ∃ n, renderSettings.syslogCollector = Ipv4.text n ∧
      addressing.network.contains n = true ∧ n ∉ addressing.allocatedIps) :
    Managed plan addressing.network := by
  constructor
  · rw [records.subnet, read]
  · intro device mem
    obtain ⟨row, -, index, has⟩ := inRows.devices device mem
    exact ⟨_, has.host⟩
  · apply List.Nodup.map_on _ plan.devices_nodup
    intro device mem device' mem' same
    obtain ⟨row, memRow, index, has⟩ := inRows.devices device mem
    obtain ⟨row', memRow', index', has'⟩ := inRows.devices device' mem'
    obtain ⟨isIp, contained, -⟩ := has.host
    obtain ⟨isIp', contained', -⟩ := has'.host
    rw [isIp, isIp', Option.some.injEq] at same
    have numbers := Ipv4.text_inj (lt_of_contains room contained) (lt_of_contains room contained')
      same
    obtain ⟨rfl, rfl⟩ := inRows.row_of_offset memRow memRow' has.inside has'.inside
      (Nat.add_left_cancel numbers)
    exact has.unique has' mem mem'
  · intro device mem same
    obtain ⟨n, isCollector, inside, fresh⟩ := collector
    obtain ⟨row, memRow, index, has⟩ := inRows.devices device mem
    obtain ⟨isIp, contained, -⟩ := has.host
    rw [isIp, records.collector, isCollector, Option.some.injEq] at same
    have numbers := Ipv4.text_inj (lt_of_contains room contained) (lt_of_contains room inside) same
    apply fresh
    unfold ManagementAddressing.allocatedIps
    rw [← numbers]
    exact List.mem_map_of_mem (inRows.offsets row memRow index has.inside)

/-! ## Switches -/

/-- A switch stands in a row of switches. -/
theorem switch_row {switch : DevicePlan} (mem : switch ∈ plan.switchPlans) :
    switch ∈ plan.devicePlans ∧
      ∃ row ∈ rows, ∃ index, row.Has addressing index switch ∧ row.role ≠ .client := by
  unfold FabricPlan.switchPlans at mem
  rw [List.mem_filter] at mem
  obtain ⟨memDevice, isSwitch⟩ := mem
  obtain ⟨row, memRow, index, has⟩ := inRows.devices switch memDevice
  refine ⟨memDevice, row, memRow, index, has, ?_⟩
  rw [← has.role]
  simpa [DevicePlan.isClient] using isSwitch

theorem identified {ranges : List AsnRange} (isPrivate : ∀ range ∈ ranges,
      64512 ≤ range.low ∧ range.high ≤ 65534) (apart : ranges.Pairwise AsnRange.Apart)
    (roles : (ranges.map AsnRange.role).Nodup)
    (asns : ∀ role asn, (∃ row ∈ rows, row.role = role ∧ role ≠ .client ∧
        ∃ index ∈ indices row.count, row.asn index = some asn) ↔
      ∃ range ∈ ranges, range.role = role ∧ range.low ≤ asn ∧ asn ≤ range.high) :
    Identified plan ranges := by
  constructor
  · constructor
    · apply List.Nodup.map_on _ (plan.devices_nodup.filter _)
      intro switch mem switch' mem' same
      obtain ⟨memDevice, row, memRow, index, has, isSwitch⟩ := inRows.switch_row mem
      obtain ⟨memDevice', row', memRow', index', has', isSwitch'⟩ := inRows.switch_row mem'
      obtain ⟨stem, isStem⟩ := Option.ne_none_iff_exists'.mp (inRows.switches row memRow isSwitch).1
      obtain ⟨stem', isStem'⟩ :=
        Option.ne_none_iff_exists'.mp (inRows.switches row' memRow' isSwitch').1
      rw [has.bgpRouterId, has'.bgpRouterId, isStem, isStem', Option.map_some, Option.map_some,
        Option.some.injEq] at same
      have rowsSame : row = row' := by
        by_contra different
        have routers := inRows.routersApart.forall memRow memRow' different
        exact routers stem isStem stem' isStem' index index' same
      subst rowsSame
      rw [isStem, Option.some.injEq] at isStem'
      subst isStem'
      have chars := congrArg String.toList same
      rw [String.toList_append, String.toList_append] at chars
      have numbers := congrArg Text.numeralValue
        (String.toList_inj.mp (List.append_cancel_left chars))
      rw [Text.numeralValue_toString, Text.numeralValue_toString] at numbers
      subst numbers
      exact has.unique has' memDevice memDevice'
    · intro switch mem
      obtain ⟨-, row, memRow, index, has, isSwitch⟩ := inRows.switch_row mem
      obtain ⟨stem, isStem⟩ := Option.ne_none_iff_exists'.mp (inRows.switches row memRow isSwitch).1
      rw [has.bgpRouterId, isStem]
      simp
  · intro role asn
    rw [← asns]
    constructor
    · intro found
      obtain ⟨switch, mem, rfl, isAsn⟩ := found
      obtain ⟨-, row, memRow, index, has, isSwitch⟩ := inRows.switch_row mem
      exact ⟨row, memRow, has.role.symm, has.role ▸ isSwitch, index, has.inside,
        has.bgpAsn.symm.trans isAsn⟩
    · intro found
      obtain ⟨row, memRow, rfl, isSwitch, index, inside, isAsn⟩ := found
      obtain ⟨device, memDevice, has⟩ := inRows.filled row memRow isSwitch index inside
      refine ⟨device, ?_, has.role, has.bgpAsn.trans isAsn⟩
      unfold FabricPlan.switchPlans
      rw [List.mem_filter]
      refine ⟨memDevice, ?_⟩
      simpa [DevicePlan.isClient, has.role] using isSwitch
  · intro switch mem
    obtain ⟨-, row, memRow, index, has, isSwitch⟩ := inRows.switch_row mem
    rw [has.bgpAsn]
    exact (inRows.switches row memRow isSwitch).2 index
  · exact isPrivate
  · exact apart
  · exact roles

end InRows

end NetOpsBench
