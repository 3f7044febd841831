import NetOpsBench.ClientAgent.TrafficInvariant
import NetOpsBench.Traffic.Plan

/-!
# The digest of a plan on both sides

Whatever plan the controller builds and the agent can read, the agent writes back as it was
(`ClientTrafficPlan.toJson_of_deserialize`), so that both compute one digest
(`plan_digests_agree`).
-/

namespace NetOpsBench

open Fallible Program

/-! ## The round trip -/

theorem Transport.text_of_deserialize {s : String} {transport : Transport}
    (accepted : Transport.deserialize (.str s) = some transport) : transport.text = s := by
  unfold Transport.deserialize at accepted
  split at accepted
  · rename_i same
    obtain rfl := Option.some.inj accepted
    exact (Json.str.inj same).symm
  · rename_i same
    obtain rfl := Option.some.inj accepted
    exact (Json.str.inj same).symm
  · rename_i same
    cases same
  · rename_i same
    cases same
  · cases accepted

theorem ListenerPlan.toJson_of_deserialize {entry : ListenerEntry} {plan : ListenerPlan}
    (accepted : ListenerPlan.deserialize entry.toJson = some plan) :
    plan.toJson = entry.toJson := by
  have fields : SerdeJson.structFields ["protocol", "port"] entry.toJson =
      some [.str entry.protocol, .int entry.port] := by
    simp [SerdeJson.structFields, ListenerEntry.toJson, List.lookup_cons]
  unfold ListenerPlan.deserialize at accepted
  rw [fields, Option.bind_eq_bind, Option.bind_some] at accepted
  obtain ⟨protocol, isProtocol, accepted⟩ := Option.bind_eq_some_iff.mp accepted
  obtain ⟨port, isPort, accepted⟩ := Option.bind_eq_some_iff.mp accepted
  obtain rfl := Option.some.inj accepted
  obtain ⟨portEq, portLt⟩ := SerdeJson.of_unsigned isPort
  rw [ListenerPlan.toJson, ListenerEntry.toJson, Transport.text_of_deserialize isProtocol, portEq]
  dsimp only
  rw [UInt16.toNat_ofNat_of_lt' portLt]

theorem FlowPlan.toJson_of_deserialize {entry : FlowEntry} {plan : FlowPlan}
    (accepted : FlowPlan.deserialize entry.toJson = some plan) :
    plan.toJson = entry.toJson := by
  have fields : SerdeJson.structFields
      ["flow_id", "protocol", "dst_ip", "dst_port", "bandwidth_bps", "payload_bytes", "tcp_mss"]
      entry.toJson =
      some [.str entry.flowId, .str entry.protocol, .str entry.dstIp, .int entry.dstPort,
        .int entry.bandwidthBps, .int entry.payloadBytes, .int entry.tcpMss] := by
    simp [SerdeJson.structFields, FlowEntry.toJson, List.lookup_cons]
  unfold FlowPlan.deserialize at accepted
  rw [fields, Option.bind_eq_bind, Option.bind_some] at accepted
  obtain ⟨flowId, isFlowId, accepted⟩ := Option.bind_eq_some_iff.mp accepted
  obtain ⟨protocol, isProtocol, accepted⟩ := Option.bind_eq_some_iff.mp accepted
  obtain ⟨dstIp, isDstIp, accepted⟩ := Option.bind_eq_some_iff.mp accepted
  obtain ⟨dstPort, isDstPort, accepted⟩ := Option.bind_eq_some_iff.mp accepted
  obtain ⟨bandwidth, isBandwidth, accepted⟩ := Option.bind_eq_some_iff.mp accepted
  obtain ⟨payload, isPayload, accepted⟩ := Option.bind_eq_some_iff.mp accepted
  obtain ⟨mss, isMss, accepted⟩ := Option.bind_eq_some_iff.mp accepted
  obtain rfl := Option.some.inj accepted
  obtain rfl : entry.flowId = flowId := Option.some.inj isFlowId
  have address : Ipv4.display dstIp = entry.dstIp := Ipv4.display_of_parse isDstIp
  obtain ⟨dstPortEq, dstPortLt⟩ := SerdeJson.of_unsigned isDstPort
  obtain ⟨bandwidthEq, bandwidthLt⟩ := SerdeJson.of_unsigned isBandwidth
  obtain ⟨payloadEq, payloadLt⟩ := SerdeJson.of_unsigned isPayload
  obtain ⟨mssEq, mssLt⟩ := SerdeJson.of_unsigned isMss
  rw [FlowPlan.toJson, FlowEntry.toJson, Transport.text_of_deserialize isProtocol, address,
    dstPortEq, bandwidthEq, payloadEq, mssEq]
  dsimp only
  rw [UInt16.toNat_ofNat_of_lt' dstPortLt, UInt64.toNat_ofNat_of_lt' bandwidthLt,
    UInt64.toNat_ofNat_of_lt' payloadLt, UInt32.toNat_ofNat_of_lt' mssLt]

/-- A plan that the agent can read is written back as it was. -/
theorem ClientTrafficPlan.toJson_of_deserialize {plan : ClientPlan} {decoded : ClientTrafficPlan}
    (accepted : ClientTrafficPlan.deserialize plan.toJson = some decoded) :
    decoded.toJson = plan.toJson := by
  have fields : SerdeJson.structFields ["listeners", "flows"] plan.toJson =
      some [.arr (plan.listeners.map ListenerEntry.toJson),
        .arr (plan.flows.map FlowEntry.toJson)] := by
    simp [SerdeJson.structFields, ClientPlan.toJson, List.lookup_cons]
  unfold ClientTrafficPlan.deserialize at accepted
  rw [fields, Option.bind_eq_bind, Option.bind_some] at accepted
  obtain ⟨listeners, isListeners, accepted⟩ := Option.bind_eq_some_iff.mp accepted
  obtain ⟨flows, isFlows, accepted⟩ := Option.bind_eq_some_iff.mp accepted
  obtain rfl := Option.some.inj accepted
  have listenersBack : listeners.map ListenerPlan.toJson =
      plan.listeners.map ListenerEntry.toJson := by
    refine SerdeJson.of_array isListeners fun json mem listener isListener => ?_
    obtain ⟨entry, -, rfl⟩ := List.mem_map.mp mem
    exact ListenerPlan.toJson_of_deserialize isListener
  have flowsBack : flows.map FlowPlan.toJson = plan.flows.map FlowEntry.toJson := by
    refine SerdeJson.of_array isFlows fun json mem flow isFlow => ?_
    obtain ⟨entry, -, rfl⟩ := List.mem_map.mp mem
    exact FlowPlan.toJson_of_deserialize isFlow
  rw [ClientTrafficPlan.toJson, ClientPlan.toJson, listenersBack, flowsBack]

/-! ## Printable plans -/

/-- The keys of a plan. -/
def planKeys : List String :=
  ["listeners", "flows", "flow_id", "protocol", "dst_ip", "dst_port", "bandwidth_bps",
    "payload_bytes", "tcp_mss", "port"]

theorem printable_key : ∀ key ∈ planKeys, SerdeJson.PrintableText key := by decide +kernel

theorem Transport.printable_text (transport : Transport) :
    SerdeJson.PrintableText transport.text := by
  cases transport with
  | tcp => decide +kernel
  | udp => decide +kernel

theorem printable_display (address : Nat × Nat × Nat × Nat) :
    SerdeJson.PrintableText (Ipv4.display address) := by
  intro c mem
  rcases Ipv4.mem_display mem with digit | rfl
  · obtain ⟨low, high⟩ := Char.isDigit_iff_toNat.mp digit
    have zero : '0'.toNat = 48 := rfl
    have nine : '9'.toNat = 57 := rfl
    exact ⟨by omega, by omega⟩
  · decide

theorem ListenerPlan.plain (plan : ListenerPlan) : SerdeJson.Plain plan.toJson :=
  ⟨⟨printable_key _ (by simp [planKeys]), plan.protocol.printable_text⟩,
    ⟨printable_key _ (by simp [planKeys]), trivial⟩, trivial⟩

theorem FlowPlan.plain {plan : FlowPlan} (printable : SerdeJson.PrintableText plan.flowId) :
    SerdeJson.Plain plan.toJson :=
  ⟨⟨printable_key _ (by simp [planKeys]), printable⟩,
    ⟨printable_key _ (by simp [planKeys]), plan.protocol.printable_text⟩,
    ⟨printable_key _ (by simp [planKeys]), printable_display plan.dstIp⟩,
    ⟨printable_key _ (by simp [planKeys]), trivial⟩,
    ⟨printable_key _ (by simp [planKeys]), trivial⟩,
    ⟨printable_key _ (by simp [planKeys]), trivial⟩,
    ⟨printable_key _ (by simp [planKeys]), trivial⟩, trivial⟩

theorem ClientTrafficPlan.plain {plan : ClientTrafficPlan}
    (printable : ∀ flow ∈ plan.flows, SerdeJson.PrintableText flow.flowId) :
    SerdeJson.Plain plan.toJson := by
  refine ⟨⟨printable_key _ (by simp [planKeys]), ?_⟩,
    ⟨printable_key _ (by simp [planKeys]), ?_⟩, trivial⟩
  · refine SerdeJson.plainItems_of_forall fun item mem => ?_
    obtain ⟨listener, -, rfl⟩ := List.mem_map.mp mem
    exact listener.plain
  · refine SerdeJson.plainItems_of_forall fun item mem => ?_
    obtain ⟨flow, isFlow, rfl⟩ := List.mem_map.mp mem
    exact FlowPlan.plain (printable flow isFlow)

/-! ## The flows of a plan -/

/-- The flows of the tables have printable identifiers. -/
def PlanTables.Printable (tables : PlanTables) : Prop :=
  ∀ (client : String) (entries : List FlowEntry), tables.outgoing.get client = some entries →
    ∀ entry ∈ entries, SerdeJson.PrintableText entry.flowId

theorem outgoing_addListener (tables : PlanTables) (dst protocol : String) (port : Int) :
    (addListener tables dst protocol port).outgoing = tables.outgoing := by
  unfold addListener
  dsimp only
  split
  · rfl
  · rfl

theorem PlanTables.Printable.addFlow {float : String → Except String Binary64}
    {tables after : PlanTables} (holds : tables.Printable) {flow : TrafficFlow}
    (printable : SerdeJson.PrintableText flow.flowId)
    (added : NetOpsBench.addFlow float tables flow = .ok after) : after.Printable := by
  obtain ⟨_, -, added⟩ := bind_eq_ok.mp added
  obtain ⟨bandwidth, -, added⟩ := bind_eq_ok.mp added
  obtain rfl := pure_eq_ok _ _ |>.mp added
  intro client entries isEntries entry mem
  rw [outgoing_addListener, Dict.get_set] at isEntries
  split at isEntries
  · obtain rfl := Option.some.inj isEntries
    rcases List.mem_append.mp mem with old | new
    · cases before : tables.outgoing.get flow.src with
      | none =>
          rw [before] at old
          cases old
      | some earlier =>
          rw [before] at old
          exact holds flow.src earlier before entry old
    · rw [List.mem_singleton.mp new]
      exact printable
  · exact holds client entries isEntries entry mem

/-- The plans that are built have the identifiers of the flows. -/
theorem printable_clientPlans {float : String → Except String Binary64} {clients : List String}
    {flows : List TrafficFlow} (printable : ∀ flow ∈ flows, SerdeJson.PrintableText flow.flowId)
    {plans : List (String × ClientPlan)} (built : clientPlans float clients flows = .ok plans)
    {client : String} {plan : ClientPlan} (mem : (client, plan) ∈ plans) :
    ∀ entry ∈ plan.flows, SerdeJson.PrintableText entry.flowId := by
  obtain ⟨tables, isTables, built⟩ := bind_eq_ok.mp built
  obtain rfl := pure_eq_ok _ _ |>.mp built
  have holds : tables.Printable := by
    refine foldlM_preserves_of_mem (P := PlanTables.Printable) ?_ ?_ isTables
    · intro before flow after isFlow kept added
      exact kept.addFlow (printable flow isFlow) added
    · intro client entries absent
      cases absent
  obtain ⟨name, -, same⟩ := List.mem_map.mp mem
  obtain ⟨rfl, rfl⟩ := Prod.mk.inj same
  intro entry isEntry
  have listed := Sorting.mem_sorted.mp isEntry
  cases isEntries : tables.outgoing.get name with
  | none =>
      rw [isEntries] at listed
      cases listed
  | some entries =>
      rw [isEntries] at listed
      exact holds name entries isEntries entry listed

/-! ## One digest -/

/-- A flow that was read has the identifier of an entry. -/
theorem ClientTrafficPlan.entry_of_flow {plan : ClientPlan} {decoded : ClientTrafficPlan}
    (back : decoded.toJson = plan.toJson) {flow : FlowPlan} (mem : flow ∈ decoded.flows) :
    ∃ entry ∈ plan.flows, entry.flowId = flow.flowId := by
  rw [ClientTrafficPlan.toJson, ClientPlan.toJson] at back
  have flows : decoded.flows.map FlowPlan.toJson = plan.flows.map FlowEntry.toJson := by
    injection back with members
    injection members with _ members
    injection members with member _
    injection member with _ items
    injection items
  have isItem : flow.toJson ∈ plan.flows.map FlowEntry.toJson :=
    flows ▸ List.mem_map_of_mem mem
  obtain ⟨entry, isEntry, same⟩ := List.mem_map.mp isItem
  refine ⟨entry, isEntry, ?_⟩
  injection same with members
  injection members with member _
  injection member with _ value
  injection value

/-- The controller and the agent write one text for a plan. -/
theorem encoded_eq {plan : ClientPlan} {decoded : ClientTrafficPlan}
    (printable : ∀ entry ∈ plan.flows, SerdeJson.PrintableText entry.flowId)
    (accepted : ClientTrafficPlan.deserialize plan.toJson = some decoded) :
    decoded.encoded = plan.encoded := by
  have back := ClientTrafficPlan.toJson_of_deserialize accepted
  have plain : SerdeJson.Plain decoded.toJson := by
    refine ClientTrafficPlan.plain fun flow mem => ?_
    obtain ⟨entry, isEntry, same⟩ := ClientTrafficPlan.entry_of_flow back mem
    exact same ▸ printable entry isEntry
  rw [ClientTrafficPlan.encoded, ClientPlan.encoded, ← back, SerdeJson.dumps_eq_toText _ plain]

theorem deserialize_loadRequest {generation : Nat} (word : generation < 2 ^ 64)
    {plan : ClientPlan} {decoded : ClientTrafficPlan}
    (accepted : ClientTrafficPlan.deserialize plan.toJson = some decoded) :
    LoadPayload.deserialize (loadRequest generation plan) =
      some ⟨.ofNat generation, planDigest plan, decoded⟩ := by
  have fields : SerdeJson.structFields ["generation", "plan_digest", "plan"]
      (loadRequest generation plan) =
      some [.int generation, .str (planDigest plan), plan.toJson] := by
    simp [SerdeJson.structFields, loadRequest, List.lookup_cons]
  unfold LoadPayload.deserialize
  rw [fields, Option.bind_eq_bind, Option.bind_some]
  dsimp only
  rw [SerdeJson.unsigned_natCast word, accepted]
  rfl

theorem outcome_loadRequest {generation : Nat} (word : generation < 2 ^ 64) {plan : ClientPlan}
    {decoded : ClientTrafficPlan}
    (accepted : ClientTrafficPlan.deserialize plan.toJson = some decoded) (script : RequestScript)
    (runtime : TrafficRuntime) :
    outcome (TrafficRuntime.handleRequest script "load_plan" (loadRequest generation plan))
        runtime =
      outcome (TrafficRuntime.load script ⟨.ofNat generation, planDigest plan, decoded⟩)
        runtime := by
  unfold TrafficRuntime.handleRequest
  rw [if_pos rfl, deserialize_loadRequest word accepted]
  rfl

/-- A load that carries its plan's own digest can only fail to bind. -/
theorem load_of_digest {generation : Nat} (positive : 0 < generation)
    (word : generation < 2 ^ 64) {plan : ClientPlan} {decoded : ClientTrafficPlan}
    (digest : decoded.digest = planDigest plan) (script : RequestScript)
    (runtime : TrafficRuntime) :
    outcome (TrafficRuntime.load script ⟨.ofNat generation, planDigest plan, decoded⟩) runtime =
        (.ok (), runtime.loadedWith ⟨.ofNat generation, planDigest plan, decoded⟩) ∨
      ∃ error, TrafficRuntime.bindListeners script.bind 0 decoded.listeners = .error error ∧
        (outcome (TrafficRuntime.load script ⟨.ofNat generation, planDigest plan, decoded⟩)
          runtime).1 = .error (.unbound error) := by
  rcases TrafficRuntime.load_cases script ⟨.ofNat generation, planDigest plan, decoded⟩ runtime with
    ⟨text, why, -⟩ | ⟨error, unbound, -, ended⟩ | ⟨-, ended⟩
  · rcases why with zero | empty | mismatch
    · have value := congrArg UInt64.toNat zero
      rw [UInt64.toNat_ofNat_of_lt' word] at value
      exact absurd value positive.ne'
    · have length := congrArg String.length empty
      change (Sha256.hexdigest plan.encoded).length = 0 at length
      rw [Sha256.hexdigest_length] at length
      cases length
    · exact absurd digest mismatch
  · rw [ended]
    exact .inr ⟨error, unbound, rfl⟩
  · exact .inl ended

/-- Whatever flows a plan is built from, if the agent can read the plan then both sides write the
same bytes and compute the same digest, and the agent does not refuse to load it for that. -/
theorem plan_digests_agree (float : String → Except String Binary64) (clients : List String)
    (flows : List TrafficFlow)
    (printable : ∀ flow ∈ flows, SerdeJson.PrintableText flow.flowId)
    (plans : List (String × ClientPlan)) (built : clientPlans float clients flows = .ok plans)
    (client : String) (plan : ClientPlan) (mem : (client, plan) ∈ plans)
    (decoded : ClientTrafficPlan)
    (accepted : ClientTrafficPlan.deserialize plan.toJson = some decoded) :
    decoded.encoded = plan.encoded ∧ decoded.digest = planDigest plan ∧
      ∀ generation, 0 < generation → generation < 2 ^ 64 →
        ∀ (script : RequestScript) (runtime : TrafficRuntime),
          (outcome (TrafficRuntime.handleRequest script "load_plan" (loadRequest generation plan))
              runtime).1 = .ok () ∨
            ∃ error, (outcome (TrafficRuntime.handleRequest script "load_plan"
              (loadRequest generation plan)) runtime).1 = .error (.unbound error) := by
  have encoded := encoded_eq (printable_clientPlans printable built mem) accepted
  have digest : decoded.digest = planDigest plan := by
    rw [ClientTrafficPlan.digest, planDigest, encoded]
  refine ⟨encoded, digest, ?_⟩
  intro generation positive word script runtime
  rw [outcome_loadRequest word accepted]
  rcases load_of_digest positive word digest script runtime with ended | ⟨error, -, ended⟩
  · rw [ended]
    exact .inl rfl
  · exact .inr ⟨error, ended⟩

/-- A plan with a flow whose identifier has a quote and a backslash. -/
theorem plan_digests_agree_quoted :
    let plan : ClientPlan :=
      { listeners := []
        flows :=
          [{ flowId := "a\"\\b", protocol := "udp", dstIp := "10.0.0.2", dstPort := 5201
             bandwidthBps := 2000000, payloadBytes := 1400, tcpMss := 0 }] }
    let decoded : ClientTrafficPlan :=
      { listeners := []
        flows :=
          [{ flowId := "a\"\\b", protocol := .udp, dstIp := (10, 0, 0, 2), dstPort := 5201
             bandwidthBps := 2000000, payloadBytes := 1400, tcpMss := 0 }] }
    decoded.digest = planDigest plan := by
  intro plan decoded
  exact (plan_digests_agree (fun _ => .ok (.finite 2)) ["a"]
    [{ src := "a", dst := "b", dstIp := "10.0.0.2", protocol := "UDP", bandwidth := "2M"
       flowId := "a\"\\b" }]
    (by decide +kernel) [("a", plan)] (by decide +kernel) "a" plan List.mem_cons_self decoded
    (by decide +kernel)).2.1

end NetOpsBench
