import NetOpsBench.Topology.Planning

/-!
# Planned addresses

The texts of the data addresses that both builders allocate are those of distinct numbers.
-/

namespace NetOpsBench

open Fallible

theorem mem_indices {n i : Nat} : i ∈ indices n ↔ 1 ≤ i ∧ i ≤ n := by
  rw [indices, List.mem_range'_1]
  omega

theorem nodup_indices (n : Nat) : (indices n).Nodup := List.nodup_range'

/-- The results of a loop at distinct elements are distinct. -/
theorem nodup_of_mapM {α β γ : Type} {f : α → Except String β} {g : β → γ} {xs : List α}
    {ys : List β} (done : xs.mapM f = .ok ys) (distinct : xs.Nodup)
    (apart : ∀ a ∈ xs, ∀ b ∈ xs, ∀ x y, f a = .ok x → f b = .ok y → g x = g y → a = b) :
    (ys.map g).Nodup := by
  have pointwise := mapM_eq_ok.mp done
  clear done
  induction pointwise with
  | nil => exact List.nodup_nil
  | @cons a x xs ys first rest ih =>
    rw [List.nodup_cons] at distinct
    rw [List.map_cons, List.nodup_cons]
    constructor
    · intro mem
      obtain ⟨y, memY, same⟩ := List.mem_map.mp mem
      obtain ⟨b, memB, found⟩ := (mem_of_mapM (mapM_eq_ok.mpr rest)).mp memY
      have eq := apart a List.mem_cons_self b (List.mem_cons_of_mem _ memB) x y first found same.symm
      exact distinct.1 (eq ▸ memB)
    · exact ih distinct.2 fun a memA b memB =>
        apart a (List.mem_cons_of_mem _ memA) b (List.mem_cons_of_mem _ memB)

/-- Quotient and remainder of a number are unique. -/
theorem quotient_inj {m a b c d : Nat} (low : b < m) (low' : d < m) (same : a * m + b = c * m + d) :
    a = c ∧ b = d := by
  have pos : 0 < m := Nat.zero_lt_of_lt low
  have quotients := congrArg (· / m) same
  have remainders := congrArg (· % m) same
  simp only [Nat.mul_comm _ m, Nat.mul_add_div pos, Nat.mul_add_mod, Nat.div_eq_of_lt low,
    Nat.div_eq_of_lt low', Nat.mod_eq_of_lt low, Nat.mod_eq_of_lt low', Nat.add_zero] at quotients remainders
  exact ⟨quotients, remainders⟩

/-! ## Manifests -/

/-- What the manifest of a plan says of the links, the management network and the collector. -/
structure Records (plan : FabricPlan) (links : List Link) (addressing : ManagementAddressing)
    (renderSettings : RenderSettings) : Prop where
  links : plan.manifest.links = links
  subnet : plan.manifest.management.ipv4Subnet = addressing.network.text
  collector : plan.manifest.collector.ipv4 = renderSettings.syslogCollector

/-- A manifest keeps the fields it is made of. -/
theorem records_of_created {topology : Topology} {manifest : TopologyManifest}
    {pingmeshPlan : PingmeshPlan} {devicePlans : List DevicePlan} {renderSettings : RenderSettings}
    {addressing : ManagementAddressing} {plan : FabricPlan}
    (made : TopologyManifest.create topology = .ok manifest)
    (created : FabricPlan.create
      { manifest := manifest.setPingmeshPlan pingmeshPlan, devicePlans, renderSettings } = .ok plan)
    (subnet : topology.management.ipv4Subnet = addressing.network.text)
    (collector : topology.collector.ipv4 = renderSettings.syslogCollector) :
    Records plan topology.links addressing renderSettings := by
  have fields := FabricPlan.create_eq_ok created
  have isTopology := TopologyManifest.create_eq_ok made
  constructor
  · rw [fields, ← isTopology]
    rfl
  · rw [fields, ← subnet, ← isTopology]
    rfl
  · rw [fields, ← collector, ← isTopology]
    rfl

/-! ## Access links -/

namespace ClientAddressing

variable {addressing : ClientAddressing} {rack position : Nat} {access : Access}

theorem create_eq_ok {rackCount clientsPerRack : Int}
    (done : create rackCount clientsPerRack = .ok addressing) :
    addressing.rackCount = rackCount.toNat ∧ addressing.clientsPerRack = clientsPerRack.toNat ∧
      1 ≤ rackCount ∧ rackCount ≤ 255 ∧ 1 ≤ clientsPerRack ∧ clientsPerRack ≤ 64 := by
  unfold create at done
  by_cases racks : 1 ≤ rackCount ∧ rackCount ≤ 255
  · rw [dif_pos racks] at done
    by_cases clients : 1 ≤ clientsPerRack ∧ clientsPerRack ≤ 64
    · rw [dif_pos clients] at done
      cases done
      exact ⟨rfl, rfl, racks.1, racks.2, clients.1, clients.2⟩
    · rw [dif_neg clients] at done
      cases done
  · rw [dif_neg racks] at done
    cases done

/-- The number of the network of an access link. -/
def accessNumber (rack position : Nat) : Nat := pool + rack * 256 + (position - 1) * 4

/-- What an access link is given. -/
theorem access_eq_ok (done : addressing.access rack position = .ok access) :
    1 ≤ rack ∧ rack ≤ 255 ∧ 1 ≤ position ∧ position ≤ 64 ∧
      access =
        { subnet := (Ipv4.Network.mk (accessNumber rack position) 30).text
          gateway := Ipv4.text (accessNumber rack position + 1)
          client := Ipv4.text (accessNumber rack position + 2) } := by
  unfold ClientAddressing.access rackSubnet at done
  simp only [bind_eq_ok, reject_eq_ok, pure_eq_ok, not_not] at done
  obtain ⟨_, inside, _, ⟨_, rackInside, rfl⟩, rfl⟩ := done
  have racks := addressing.racks.2
  have clients := addressing.clients.2
  exact ⟨rackInside.1, by omega, inside.1, by omega, rfl⟩

theorem accessNumber_lt (racks : rack ≤ 255) (positions : position ≤ 64) :
    accessNumber rack position + 2 < 2 ^ 32 := by
  unfold accessNumber pool
  omega

end ClientAddressing

/-- The addresses of the access links of a rack. -/
def ClientAddressing.accessAt (rack position : Nat) : Access :=
  { subnet := (Ipv4.Network.mk (accessNumber rack position) 30).text
    gateway := Ipv4.text (accessNumber rack position + 1)
    client := Ipv4.text (accessNumber rack position + 2) }

theorem mapM_access {addressing : ClientAddressing} {rack : Nat} {positions : List Nat}
    {links : List ClientAddressing.Access}
    (done : positions.mapM (addressing.access rack) = .ok links) :
    links = positions.map (ClientAddressing.accessAt rack) := by
  rw [← List.map_id links]
  apply map_of_mapM done
  intro position _ access found
  exact (ClientAddressing.access_eq_ok found).2.2.2.2

/-- The networks of the access links of a rack are distinct words. -/
theorem access_subnets {addressing : ClientAddressing} {rack count : Nat}
    {links : List ClientAddressing.Access}
    (done : (indices count).mapM (addressing.access rack) = .ok links) :
    (links.map fun access => access.subnet).Nodup ∧
      ∀ access ∈ links, Text.Solid access.subnet ∧ ∃ n < 2 ^ 32, access.gateway = Ipv4.text n := by
  constructor
  · apply nodup_of_mapM done (nodup_indices count)
    intro a _ b _ x y left right same
    obtain ⟨-, racks, lowA, highA, rfl⟩ := ClientAddressing.access_eq_ok left
    obtain ⟨-, -, lowB, highB, rfl⟩ := ClientAddressing.access_eq_ok right
    have boundA := ClientAddressing.accessNumber_lt racks highA
    have boundB := ClientAddressing.accessNumber_lt racks highB
    have numbers := Ipv4.Network.text_inj (by omega) (by omega) (by omega) same
    unfold ClientAddressing.accessNumber at numbers
    omega
  · intro access mem
    obtain ⟨position, _, found⟩ := (mem_of_mapM done).mp mem
    obtain ⟨-, racks, -, positions, rfl⟩ := ClientAddressing.access_eq_ok found
    have bound := ClientAddressing.accessNumber_lt racks positions
    exact ⟨Ipv4.Network.solid_text _, _, by omega, rfl⟩

/-- A switch port has the name of a lane. -/
theorem sonicPortName_lane (ethIndex : Nat) :
    ∃ lane : Nat, sonicPortName ethIndex = "Ethernet" ++ toString lane := ⟨_, rfl⟩

end NetOpsBench
