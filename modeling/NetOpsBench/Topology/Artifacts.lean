import NetOpsBench.Topology.ClosDevices
import NetOpsBench.Topology.FatTreeDevices

/-!
# The artifacts of a plan

What is read of the rendered FRR configuration and of the rendered ConfigDB of a switch is what the
plan says of it, for every plan that one of the builders returns.
-/

namespace NetOpsBench

open Fallible

/-- A plan that a builder returns. -/
inductive BuiltPlan (policyForScale : String → Except String PingmeshPolicy) : FabricPlan → Prop where
  | clos (config : ClosConfig) {plan : FabricPlan}
      (done : buildClosPlan policyForScale config = .ok plan) : BuiltPlan policyForScale plan
  | fatTree (config : FatTreeConfig) {plan : FabricPlan}
      (done : buildFatTreePlan policyForScale config = .ok plan) : BuiltPlan policyForScale plan

/-- The artifacts of a switch are read back as its plan. -/
structure Decodes (plan : FabricPlan) (device : DevicePlan) : Prop where
  asn : ∃ asn : Nat, device.bgpAsn = some (asn : Int) ∧
    (parseBgpText (frrConfig device)).localAs = some asn
  /-- Peers are distinct and their numbers are no integers below zero, so that nothing is lost in
  `shownNeighbor`. -/
  peers : (device.bgpNeighbors.map BgpNeighborPlan.peerIp).Nodup ∧
    ∀ neighbor ∈ device.bgpNeighbors, 0 ≤ neighbor.remoteAs
  neighbors : (parseBgpText (frrConfig device)).neighbors.Perm
    (device.bgpNeighbors.map shownNeighbor)
  networks : device.bgpNetworks.Nodup ∧ (parseBgpText (frrConfig device)).networks.Perm
    (device.bgpNetworks.map shownNetwork)
  interfaces : ∃ db, buildConfigDb plan device = .ok db ∧
    (∀ name, device.configdbInterfaceCidrs.get name = none →
      (interfaceNetworks db).get name = none) ∧
    ∀ name cidrs, device.configdbInterfaceCidrs.get name = some cidrs →
      ∃ address < 2 ^ 32, cidrs = [Ipv4.text address ++ "/30"] ∧
        (interfaceNetworks db).get name = some (Ipv4.Network.ofAddress address 30).text

/-- The network of an address of a link. -/
theorem interfaceNetwork_link {n : Nat} (below : n < 2 ^ 32) :
    Ipv4.interfaceNetwork (Ipv4.text n ++ "/30") = some (Ipv4.Network.ofAddress n 30).text := by
  have text : Ipv4.text n ++ "/30" = Ipv4.text n ++ "/" ++ toString 30 := by
    rw [String.append_assoc]
    congr 1
  rw [text, Ipv4.interfaceNetwork_text below (by omega)]

theorem decodes_of_renderable (plan : FabricPlan) {device : DevicePlan}
    (renderable : Renderable device) (readable : PortsReadable device) : Decodes plan device := by
  obtain ⟨localAs, neighbors, networks⟩ := parseBgpText_frrConfig renderable
  obtain ⟨db, built, interfaces⟩ := interfaceNetworks_buildConfigDb plan readable
  constructor
  · obtain ⟨asn, isAsn⟩ := renderable.asn
    refine ⟨asn, isAsn, ?_⟩
    rw [isAsn] at localAs
    obtain ⟨shown, isShown, same⟩ := Option.map_eq_some_iff.mp localAs
    rw [isShown, Int.ofNat.inj same]
  · exact ⟨renderable.peers_nodup, fun neighbor mem => (renderable.peers neighbor mem).2⟩
  · exact neighbors
  · exact ⟨renderable.networks_nodup, networks⟩
  · refine ⟨db, built, ?_, ?_⟩
    · intro name unplanned
      cases shown : (interfaceNetworks db).get name with
      | none => rfl
      | some network =>
        obtain ⟨cidr, isPlanned, -⟩ := (interfaces name network).mp shown
        rw [unplanned] at isPlanned
        cases isPlanned
    · intro name cidrs planned
      obtain ⟨-, address, below, rfl⟩ := readable name cidrs planned
      refine ⟨address, below, rfl, ?_⟩
      exact (interfaces name _).mpr ⟨_, planned, interfaceNetwork_link below⟩

/-- Generated artifacts decode to the plan. -/
theorem artifacts_decode (policyForScale : String → Except String PingmeshPolicy)
    (plan : FabricPlan) (built : BuiltPlan policyForScale plan) :
    ∀ device ∈ plan.switchPlans, Decodes plan device := by
  intro device mem
  cases built with
  | clos config done =>
    obtain ⟨renderable, readable⟩ := closSwitch_renderable done mem
    exact decodes_of_renderable plan renderable readable
  | fatTree config done =>
    obtain ⟨renderable, readable⟩ := fatTreeSwitch_renderable done mem
    exact decodes_of_renderable plan renderable readable

/-- A spine with two leafs of one client each. -/
def oneSpine : ClosConfig :=
  { numSpines := 1 }

theorem oneSpine_built : ∃ plan, BuiltPlan (fun _ => .ok {}) plan := by
  have succeeds : succeedsWith (buildClosPlan (fun _ => .ok {}) oneSpine) fun _ => true := by
    decide +kernel
  obtain ⟨plan, done, -⟩ := succeedsWith_eq_true.mp succeeds
  exact ⟨plan, .clos oneSpine done⟩

theorem oneSpine_decodes :
    ∃ plan, BuiltPlan (fun _ => .ok {}) plan ∧ ∀ device ∈ plan.switchPlans, Decodes plan device :=
  oneSpine_built.imp fun plan built => ⟨built, artifacts_decode (fun _ => .ok {}) plan built⟩

end NetOpsBench
