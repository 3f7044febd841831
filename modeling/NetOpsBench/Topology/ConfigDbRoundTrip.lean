import NetOpsBench.Lib.DictEntries
import NetOpsBench.Topology.Renderer

/-!
# What is read of the interfaces of a rendered ConfigDB

`interface_networks_from_payload` gives back the ports of a device with the networks of their
addresses, where the ports are named as `sonic_port_name` names them.
-/

namespace NetOpsBench

open Fallible

/-- Every port has the name of a lane and one address with its prefix length. -/
def PortsReadable (device : DevicePlan) : Prop :=
  ∀ name cidrs, device.configdbInterfaceCidrs.get name = some cidrs →
    (∃ lane : Nat, name = "Ethernet" ++ toString lane) ∧
      ∃ n < 2 ^ 32, cidrs = [Ipv4.text n ++ "/30"]

theorem bar_notMem {lane : Nat} : '|' ∉ ("Ethernet" ++ toString lane).toList := by
  rw [String.toList_append, List.mem_append]
  intro mem
  rcases mem with name | digits
  · exact absurd name (by decide)
  · exact Ipv4.notMem_toString (by rfl) digits

theorem interfaceSortKey_lane (lane : Nat) :
    interfaceSortKey ("Ethernet" ++ toString lane) = .ok lane := by
  have chars : ("Ethernet" ++ toString lane).toList = "Ethernet".toList ++ (toString lane).toList :=
    String.toList_append
  have isPrefix : "Ethernet".toList.isPrefixOf
      ("Ethernet".toList ++ (toString lane).toList) = true := by
    rw [List.isPrefixOf_iff_prefix]
    exact List.prefix_append _ _
  have suffix : ("Ethernet".toList ++ (toString lane).toList).drop 8 = (toString lane).toList :=
    @List.drop_left Char "Ethernet".toList (toString lane).toList
  have digits : Text.isNumeral (toString lane) = true := by
    unfold Text.isNumeral
    rw [Bool.and_eq_true, List.all_eq_true]
    exact ⟨by simp, fun c mem => Text.isDigit_of_mem_toString mem⟩
  unfold interfaceSortKey
  rw [chars, if_pos isPrefix, suffix]
  simp only [String.ofList_toList, digits, if_true, Text.numeralValue_toString]

/-- The names of the ports in another order. -/
theorem exists_sortedInterfaces {names : List String}
    (lanes : ∀ name ∈ names, ∃ lane : Nat, name = "Ethernet" ++ toString lane) :
    ∃ sorted, sortedInterfaces names = .ok sorted ∧ ∀ name, name ∈ sorted ↔ name ∈ names := by
  obtain ⟨keyed, done⟩ := @mapM_total String String (Nat × String)
    (fun name => do
      let key ← interfaceSortKey name
      pure (key, name)) names (by
    intro name mem
    obtain ⟨lane, rfl⟩ := lanes name mem
    rw [interfaceSortKey_lane]
    exact ⟨_, rfl⟩)
  refine ⟨_, by rw [sortedInterfaces, done]; rfl, ?_⟩
  intro name
  have same : keyed.map Prod.snd = names := by
    rw [map_of_mapM (h := id) done, List.map_id]
    intro name _ entry read
    rw [bind_eq_ok] at read
    obtain ⟨key, -, read⟩ := read
    rw [pure_eq_ok] at read
    rw [← read]
    rfl
  rw [← same, List.mem_map, List.mem_map]
  simp only [Sorting.mem_sorted]

theorem splitKey_plain {name : String} (plain : '|' ∉ name.toList) : splitKey name = none :=
  if_neg plain

theorem splitKey_address {name cidr : String} (plain : '|' ∉ name.toList) :
    splitKey (name ++ "|" ++ cidr) = some (name, cidr) := by
  have chars : (name ++ "|" ++ cidr).toList = name.toList ++ '|' :: cidr.toList := by simp
  have inName : ∀ c ∈ name.toList, (c != '|') = true := by
    intro c mem
    simp only [bne_iff_ne]
    rintro rfl
    exact plain mem
  unfold splitKey
  rw [chars, if_pos (by simp), List.takeWhile_append_of_pos inName,
    List.dropWhile_append_of_pos inName]
  simp

theorem keyNetwork_address {name cidr : String} (plain : '|' ∉ name.toList) :
    keyNetwork (name ++ "|" ++ cidr) =
      (Ipv4.interfaceNetwork cidr).map fun network => (name, network) := by
  unfold keyNetwork
  rw [splitKey_address plain]
  change (Ipv4.interfaceNetwork cidr).bind (fun network => some (name, network)) = _
  cases Ipv4.interfaceNetwork cidr <;> rfl

/-- What the keys of the table say. -/
theorem mem_keyNetworks {cidrs : Dict String (List String)} {names : List String}
    (ports : ∀ name ∈ names, '|' ∉ name.toList) {name network : String} :
    (∃ key ∈ interfaceKeys cidrs names, keyNetwork key = some (name, network)) ↔
      name ∈ names ∧ ∃ cidr ∈ (cidrs.get name).getD [],
        Ipv4.interfaceNetwork cidr = some network := by
  constructor
  · intro ⟨key, mem, shows⟩
    obtain ⟨port, memPort, memKey⟩ := List.mem_flatMap.mp mem
    rcases List.mem_cons.mp memKey with rfl | address
    · rw [keyNetwork, splitKey_plain (ports key memPort)] at shows
      cases shows
    · obtain ⟨cidr, memCidr, rfl⟩ := List.mem_map.mp address
      rw [keyNetwork_address (ports port memPort)] at shows
      obtain ⟨found, isNetwork, same⟩ := Option.map_eq_some_iff.mp shows
      cases same
      exact ⟨memPort, cidr, memCidr, isNetwork⟩
  · intro ⟨memPort, cidr, memCidr, isNetwork⟩
    refine ⟨name ++ "|" ++ cidr, ?_, ?_⟩
    · apply List.mem_flatMap.mpr
      exact ⟨name, memPort, List.mem_cons_of_mem _ (List.mem_map_of_mem memCidr)⟩
    · rw [keyNetwork_address (ports name memPort), isNetwork]
      rfl

/-- The interfaces of the rendered ConfigDB are the planned ones with the networks of their
addresses. -/
theorem interfaceNetworks_buildConfigDb (plan : FabricPlan) {device : DevicePlan}
    (readable : PortsReadable device) :
    ∃ db, buildConfigDb plan device = .ok db ∧
      ∀ name network, (interfaceNetworks db).get name = some network ↔
        ∃ cidr, device.configdbInterfaceCidrs.get name = some [cidr] ∧
          Ipv4.interfaceNetwork cidr = some network := by
  have lanes : ∀ name ∈ device.configdbInterfaceCidrs.keys,
      ∃ lane : Nat, name = "Ethernet" ++ toString lane := by
    intro name mem
    obtain ⟨cidrs, planned⟩ := Dict.mem_keys.mp mem
    exact (readable name cidrs planned).1
  obtain ⟨names, sorted, sameNames⟩ := exists_sortedInterfaces lanes
  have plain : ∀ name ∈ names, '|' ∉ name.toList := by
    intro name mem
    obtain ⟨lane, rfl⟩ := lanes name ((sameNames name).mp mem)
    exact bar_notMem
  have table : interfaceTable device.configdbInterfaceCidrs = .ok
      (.ofEntries ((interfaceKeys device.configdbInterfaceCidrs names).map fun key =>
        (key, .empty))) := by
    rw [interfaceTable, sorted]
    rfl
  refine ⟨_, by rw [buildConfigDb, table]; rfl, ?_⟩
  intro name network
  unfold interfaceNetworks
  rw [Dict.get_set, if_pos rfl]
  simp only
  -- what the keys of the table show of a port, they say of the planned address
  have shows : ∀ name network,
      (name, network) ∈ ((Dict.ofEntries ((interfaceKeys device.configdbInterfaceCidrs names).map
        fun key => (key, (.empty : ConfigRow)))).keys.filterMap keyNetwork) ↔
        ∃ cidr, device.configdbInterfaceCidrs.get name = some [cidr] ∧
          Ipv4.interfaceNetwork cidr = some network := by
    intro name network
    have keys : ∀ key, key ∈ (Dict.ofEntries
        ((interfaceKeys device.configdbInterfaceCidrs names).map
          fun key => (key, (.empty : ConfigRow)))).keys ↔
        key ∈ interfaceKeys device.configdbInterfaceCidrs names := by
      intro key
      rw [Dict.mem_keys_ofEntries]
      simp
    rw [List.mem_filterMap]
    simp only [keys]
    rw [mem_keyNetworks plain]
    constructor
    · intro shown
      obtain ⟨mem, cidr, memCidr, isNetwork⟩ := shown
      obtain ⟨cidrs, planned⟩ := Dict.mem_keys.mp ((sameNames name).mp mem)
      obtain ⟨-, n, -, rfl⟩ := readable name cidrs planned
      rw [planned, Option.getD_some, List.mem_singleton] at memCidr
      exact ⟨cidr, by rw [planned, memCidr], isNetwork⟩
    · intro shown
      obtain ⟨cidr, planned, isNetwork⟩ := shown
      refine ⟨(sameNames name).mpr (Dict.mem_keys.mpr ⟨_, planned⟩), cidr, ?_, isNetwork⟩
      rw [planned]
      exact List.mem_singleton_self cidr
  constructor
  · intro found
    exact (shows name network).mp (Dict.mem_of_get_ofEntries found)
  · intro planned
    apply Dict.get_ofEntries_of_unique ((shows name network).mpr planned)
    intro other mem
    obtain ⟨cidr, isCidr, isNetwork⟩ := planned
    obtain ⟨cidr', isCidr', isNetwork'⟩ := (shows name other).mp mem
    rw [isCidr, Option.some.injEq, List.cons.injEq] at isCidr'
    rw [← isCidr'.1, isNetwork, Option.some.injEq] at isNetwork'
    exact isNetwork'.symm

end NetOpsBench
