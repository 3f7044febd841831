import NetOpsBench.Traffic.Admission

/-!
# Runs of the flow planner

Whatever the rounds do, the tables of the planner count its flows, and every flow was admissible
when it was added (`Planned`). So a configuration that the planner returns is an admissible matrix
that the validation accepts (`generateTrafficConfig_admissible`), when the clients have distinct
names, their attachments are texts or missing, and no limit is negative.
-/

namespace NetOpsBench

open Fallible

variable {float : String → Except String Rat} {t : TrafficTopology} {settings : PlannerSettings}

/-- The tables count the flows, and the flows are admitted ones. -/
structure Planned (float : String → Except String Rat) (t : TrafficTopology)
    (settings : PlannerSettings) (s : Planning) : Prop where
  source : ∀ name, s.sourceFlowCount name = s.flows.countP fun flow => flow.src = name
  incoming : ∀ name, s.incomingFlowCount name = s.flows.countP fun flow => flow.dst = name
  used : ∀ src dst, dst ∈ s.sourceUsedDsts src ↔ ∃ flow ∈ s.flows, flow.src = src ∧ flow.dst = dst
  clients : ∀ name, s.clientPps name = clientRate float s.flows name
  switches : ∀ name, (s.switchPps.get name).getD 0 = switchRate float t s.flows name
  admitted : Admitted float t settings s.flows

namespace Planned

theorem start : Planned float t settings (.start t) where
  source _ := rfl
  incoming _ := rfl
  used src dst := by simp [Planning.start]
  clients _ := rfl
  switches name := getD_noPps name
  admitted := .nil

variable {s s' : Planning}

theorem reject (planned : Planned float t settings s) (error : AdmissionError) :
    Planned float t settings (s.reject error) :=
  ⟨planned.source, planned.incoming, planned.used, planned.clients, planned.switches,
    planned.admitted⟩

/-- What passes the checks of `admission_error` is admissible. -/
theorem admissible (planned : Planned float t settings s) {flow : PlannedFlow}
    (apart : flow.src ≠ flow.dst) (unused : flow.dst ∉ s.sourceUsedDsts flow.src)
    (slot : (s.incomingFlowCount flow.dst : Int) < settings.listenerPortPoolSize)
    (port : flow.dstPort = settings.listenerPortBase + s.incomingFlowCount flow.dst)
    (protocol : flow.protocol = if s.sourceFlowCount flow.src % 2 = 0 then .udp else .tcp)
    (passes : admissionError float t settings s flow = .ok none) :
    Admissible float t settings s.flows flow := by
  unfold admissionError at passes
  split at passes
  · cases Except.ok.inj passes
  · rename_i outgoing
    split at passes
    · cases Except.ok.inj passes
    · rename_i incoming
      obtain ⟨pps, isRate, passes⟩ := bind_eq_ok.mp passes
      have rate := flowRate_of_ok isRate
      rw [planned.source] at outgoing protocol
      rw [planned.incoming] at incoming slot port
      split at passes
      · cases Except.ok.inj passes
      · rename_i within
        rw [planned.clients, ← rate] at within
        refine ⟨apart, ?_, ?_, ?_, slot, port, protocol, ⟨pps, isRate⟩, not_lt.mp within, ?_⟩
        · intro other mem same
          obtain ⟨sameSrc, sameDst⟩ := Prod.mk.inj same
          exact unused ((planned.used _ _).mpr ⟨other, mem, sameSrc, sameDst⟩)
        · exact not_le.mp outgoing
        · exact not_le.mp incoming
        · intro limit isLimit name share isShare
          rw [isLimit] at passes
          dsimp only at passes
          split at passes
          · cases Except.ok.inj passes
          · rename_i allowed
            have below := allowed
            rw [List.any_eq_true] at below
            rw [← planned.switches, ← not_lt]
            intro above
            rw [rate] at isShare
            exact below ⟨(name, share), Dict.mem_entries.mpr isShare, decide_eq_true above⟩

theorem append (planned : Planned float t settings s) {flow : PlannedFlow}
    (admissible : Admissible float t settings s.flows flow)
    (done : admitFlow float t s flow = .ok s') : Planned float t settings s' := by
  unfold admitFlow at done
  obtain ⟨pps, isRate, done⟩ := bind_eq_ok.mp done
  have rate := flowRate_of_ok isRate
  have counted : ∀ (key : PlannedFlow → String) (count : String → Nat) (name : String),
      (∀ name, count name = s.flows.countP fun flow => key flow = name) →
      Function.update count (key flow) (count (key flow) + 1) name =
        (s.flows ++ [flow]).countP fun flow => key flow = name := by
    intro key count name before
    rw [List.countP_append, List.countP_singleton, ← before, Function.update_apply]
    by_cases here : name = key flow
    · rw [if_pos here, if_pos (decide_eq_true here.symm), here]
    · have away : ¬ decide (key flow = name) = true := fun same =>
        here (of_decide_eq_true same).symm
      rw [if_neg here, if_neg away, Nat.add_zero]
  rw [← Except.ok.inj done]
  refine ⟨?_, ?_, ?_, ?_, ?_, .snoc planned.admitted admissible⟩
  · exact fun name => counted PlannedFlow.src s.sourceFlowCount name planned.source
  · exact fun name => counted PlannedFlow.dst s.incomingFlowCount name planned.incoming
  · intro src dst
    dsimp only
    rw [Function.update_apply]
    by_cases here : src = flow.src
    · subst here
      rw [if_pos rfl, List.mem_insert_iff, planned.used]
      constructor
      · intro either
        rcases either with rfl | ⟨other, mem, ends⟩
        · exact ⟨flow, List.mem_append_right _ List.mem_cons_self, rfl, rfl⟩
        · exact ⟨other, List.mem_append_left _ mem, ends⟩
      · intro found
        obtain ⟨other, mem, sameSrc, sameDst⟩ := found
        rcases List.mem_append.mp mem with earlier | last
        · exact .inr ⟨other, earlier, sameSrc, sameDst⟩
        · rw [List.mem_singleton.mp last] at sameDst
          exact .inl sameDst.symm
    · rw [if_neg here, planned.used]
      constructor
      · intro found
        obtain ⟨other, mem, ends⟩ := found
        exact ⟨other, List.mem_append_left _ mem, ends⟩
      · intro found
        obtain ⟨other, mem, sameSrc, sameDst⟩ := found
        rcases List.mem_append.mp mem with earlier | last
        · exact ⟨other, earlier, sameSrc, sameDst⟩
        · rw [List.mem_singleton.mp last] at sameSrc
          exact absurd sameSrc.symm here
  · intro name
    dsimp only
    rw [Admitted.clientRate_snoc, Function.update_apply, rate]
    by_cases here : name = flow.src
    · rw [if_pos here, if_pos here.symm, here, planned.clients]
    · rw [if_neg here, if_neg (Ne.symm here), add_zero, planned.clients]
  · intro name
    dsimp only
    rw [getD_spread, planned.switches, Admitted.switchRate_snoc, flowShare, rate]

end Planned

/-! ## Turns -/

theorem buildCandidateFlow_ok {flowId : Nat} {src dst : TrafficClient} {protocol : FlowProtocol}
    {dstPort : Int} {flow : PlannedFlow}
    (done : buildCandidateFlow settings flowId src dst protocol dstPort = .ok flow) :
    flow.src = src.name ∧ flow.dst = dst.name ∧ flow.dstPort = dstPort ∧
      flow.protocol = protocol := by
  unfold buildCandidateFlow at done
  split at done
  · split at done
    · cases done
    · rw [← Except.ok.inj done]
      exact ⟨rfl, rfl, rfl, rfl⟩
  · cases done

/-- No client is its own candidate. -/
theorem mem_candidateDestinations {clients : List TrafficClient}
    (distinct : (clients.map TrafficClient.name).Nodup) {srcIdx : Nat} {src dst : TrafficClient}
    (isSrc : clients[srcIdx]? = some src) (mem : dst ∈ candidateDestinations clients srcIdx) :
    dst.name ≠ src.name := by
  obtain ⟨k, below, isDst⟩ := List.mem_filterMap.mp mem
  rw [List.mem_range] at below
  intro same
  have names : ∀ {i : Nat} {client : TrafficClient}, clients[i]? = some client →
      (clients.map TrafficClient.name)[i]? = some client.name := by
    intro i client found
    rw [List.getElem?_map, found, Option.map_some]
  obtain ⟨inside, -⟩ := List.getElem?_eq_some_iff.mp isSrc
  have indices : (srcIdx + (k + 1)) % clients.length = srcIdx := by
    obtain ⟨belowDst, atDst⟩ := List.getElem?_eq_some_iff.mp (names isDst)
    obtain ⟨belowSrc, atSrc⟩ := List.getElem?_eq_some_iff.mp (names isSrc)
    exact distinct.getElem_inj_iff.mp (atDst.trans (same.trans atSrc.symm))
  by_cases within : srcIdx + (k + 1) < clients.length
  · rw [Nat.mod_eq_of_lt within] at indices
    omega
  · rw [Nat.mod_eq_sub_mod (Nat.le_of_not_lt within), Nat.mod_eq_of_lt (by omega)] at indices
    omega

namespace Planned

variable {s s' : Planning}

/-- Trying candidates keeps the tables true, whether one is taken or not. -/
theorem tryCandidates {src : TrafficClient} {candidates : List TrafficClient} {added : Bool}
    (planned : Planned float t settings s)
    (free : ∀ dst ∈ candidates, dst.name ≠ src.name ∧ dst.name ∉ s.sourceUsedDsts src.name)
    (done : tryCandidates float t settings src candidates s = .ok (added, s')) :
    Planned float t settings s' := by
  induction candidates generalizing s with
  | nil =>
      obtain ⟨-, rfl⟩ := Prod.mk.inj (Except.ok.inj done)
      exact planned
  | cons dst rest ih =>
      have freeRest : ∀ dst ∈ rest, dst.name ≠ src.name ∧
          dst.name ∉ s.sourceUsedDsts src.name := fun dst mem =>
        free dst (List.mem_cons_of_mem _ mem)
      unfold NetOpsBench.tryCandidates at done
      dsimp only at done
      split at done
      · exact ih (planned.reject _) freeRest done
      · rename_i slot
        obtain ⟨flow, isFlow, done⟩ := bind_eq_ok.mp done
        obtain ⟨error, isError, done⟩ := bind_eq_ok.mp done
        cases error with
        | some error => exact ih (planned.reject _) freeRest done
        | none =>
            obtain ⟨after, isAfter, done⟩ := bind_eq_ok.mp done
            obtain ⟨-, rfl⟩ := Prod.mk.inj (Except.ok.inj done)
            obtain ⟨isSrc, isDst, isPort, isProtocol⟩ := buildCandidateFlow_ok isFlow
            obtain ⟨apart, unused⟩ := free dst List.mem_cons_self
            rw [← isSrc, ← isDst] at unused
            rw [← isDst] at slot isPort
            rw [← isSrc] at isProtocol
            have differ : flow.src ≠ flow.dst := by
              rw [isSrc, isDst]
              exact apart.symm
            exact planned.append
              (planned.admissible differ unused (not_le.mp slot) isPort isProtocol isError) isAfter

/-- The candidates of a pool may be tried. -/
theorem tryAddFromPool (planned : Planned float t settings s)
    (distinct : (t.clients.map TrafficClient.name).Nodup) {srcIdx : Nat} {src : TrafficClient}
    (isSrc : t.clients[srcIdx]? = some src) {pool : PoolType} {added : Bool}
    (done : tryAddFromPool float t settings s srcIdx src pool = .ok (added, s')) :
    Planned float t settings s' := by
  apply planned.tryCandidates _ done
  intro dst mem
  obtain ⟨isCandidate, holds⟩ := List.mem_filter.mp (Sorting.mem_sorted.mp mem)
  rw [Bool.and_eq_true, decide_eq_true_eq] at holds
  exact ⟨mem_candidateDestinations distinct isSrc isCandidate, holds.1⟩

theorem planTurn (planned : Planned float t settings s)
    (distinct : (t.clients.map TrafficClient.name).Nodup) {round : Nat}
    {client : TrafficClient × Nat} (mem : client ∈ t.clients.zipIdx)
    (done : planTurn float t settings round s client = .ok s') : Planned float t settings s' := by
  obtain ⟨src, srcIdx⟩ := client
  have isSrc : t.clients[srcIdx]? = some src := List.mk_mem_zipIdx_iff_getElem?.mp mem
  unfold NetOpsBench.planTurn at done
  dsimp only at done
  split at done
  · rw [← Except.ok.inj done]
    exact planned.reject _
  · obtain ⟨⟨added, middle⟩, first, done⟩ := bind_eq_ok.mp done
    have between := planned.tryAddFromPool distinct isSrc first
    dsimp only at done
    split at done
    · rw [← Except.ok.inj done]
      exact between
    · obtain ⟨⟨_, last⟩, second, done⟩ := bind_eq_ok.mp done
      rw [← Except.ok.inj done]
      exact between.tryAddFromPool distinct isSrc second

end Planned

/-- The rounds leave tables that count their flows. -/
theorem planFlows_planned {s : Planning} (distinct : (t.clients.map TrafficClient.name).Nodup)
    (done : planFlows float t settings = .ok s) : Planned float t settings s := by
  apply foldlM_preserves _ Planned.start done
  intro before round after planned turns
  exact foldlM_preserves_of_mem
    (fun _ _ _ mem planned turn => planned.planTurn distinct mem turn) planned turns

/-! ## Estimates -/

/-- The attachment of a client is a text or missing. -/
def TrafficClient.Attached (client : TrafficClient) : Prop :=
  ∀ label ∈ client.attachment, ∃ name, label = .text name

theorem attachedText_eq_some {client : TrafficClient} {name : String} :
    client.attachedText = some name ↔ client.attachment = some (.text name) := by
  unfold TrafficClient.attachedText
  split
  · rename_i text isText
    rw [isText, Option.some.injEq, Option.some.injEq, NodeLabel.text.injEq]
  · rename_i noText
    constructor
    · intro isText
      cases isText
    · intro isText
      exact absurd isText (noText name)

/-- The names of the clients with a text are names of clients, in their order. -/
theorem attachedTexts_sublist (clients : List TrafficClient) :
    ((clients.filterMap fun client =>
      client.attachedText.map fun name => (client.name, name)).map Prod.fst).Sublist
        (clients.map TrafficClient.name) := by
  induction clients with
  | nil => exact .slnil
  | cons client clients ih =>
      cases isText : client.attachedText with
      | none =>
          rw [List.filterMap_cons_none (by rw [isText, Option.map_none])]
          exact ih.cons _
      | some name =>
          rw [List.filterMap_cons_some (by rw [isText, Option.map_some])]
          exact ih.cons_cons _

/-- The planner's attachments are the estimator's. -/
theorem leafOf_eq (distinct : (t.clients.map TrafficClient.name).Nodup)
    (attached : ∀ client ∈ t.clients, client.Attached) (name : String) :
    t.leafOf name = (t.clientToSwitch.get name).join := by
  have estimated : ((t.clients.map fun client => (client.name, client.attachment)).map
      Prod.fst).Nodup := by
    rw [List.map_map]
    exact distinct
  have texts := distinct.sublist (attachedTexts_sublist t.clients)
  apply Option.ext
  intro label
  rw [TrafficTopology.leafOf, Option.map_eq_some_iff, Option.join_eq_some_iff]
  constructor
  · intro found
    obtain ⟨text, isText, rfl⟩ := found
    obtain ⟨client, mem, isEntry⟩ := List.mem_filterMap.mp (Dict.mem_of_get_ofEntries isText)
    obtain ⟨_, hasText, same⟩ := Option.map_eq_some_iff.mp isEntry
    obtain ⟨rfl, rfl⟩ := Prod.mk.inj same
    apply (Dict.get_ofEntries estimated).mpr
    rw [← attachedText_eq_some.mp hasText]
    exact List.mem_map_of_mem mem
  · intro found
    obtain ⟨client, mem, same⟩ := List.mem_map.mp (Dict.mem_of_get_ofEntries found)
    obtain ⟨rfl, isLabel⟩ := Prod.mk.inj same
    obtain ⟨text, rfl⟩ := attached client mem label isLabel
    refine ⟨text, (Dict.get_ofEntries texts).mpr (List.mem_filterMap.mpr ⟨client, mem, ?_⟩), rfl⟩
    rw [attachedText_eq_some.mpr isLabel, Option.map_some]

theorem pathParts_zero (src dst : Option NodeLabel) :
    ∀ part ∈ t.pathParts src dst 0, part.2 = 0 := by
  have ends : ∀ label, ∀ part ∈ t.endParts 0 label, part.2 = 0 := by
    intro label part mem
    unfold TrafficTopology.endParts at mem
    split at mem
    · split at mem
      · rw [List.mem_singleton.mp mem]
      · exact absurd mem List.not_mem_nil
    · exact absurd mem List.not_mem_nil
  have shared : ∀ names, ∀ part ∈ shares names 0, part.2 = 0 := by
    intro names part mem
    obtain ⟨name, -, rfl⟩ := List.mem_map.mp mem
    exact zero_div _
  intro part mem
  unfold TrafficTopology.pathParts at mem
  rcases List.mem_append.mp mem with both | transit
  · rcases List.mem_append.mp both with first | second
    · exact ends src part first
    · exact ends dst part second
  · split at transit
    · split at transit
      · exact absurd transit List.not_mem_nil
      · unfold TrafficTopology.transitParts at transit
        split at transit
        · exact shared _ part transit
        · rcases List.mem_append.mp transit with aggs | cores
          · obtain ⟨pod, -, inPod⟩ := List.mem_flatMap.mp aggs
            exact shared _ part inPod
          · split at cores
            · exact shared _ part cores
            · exact absurd cores List.not_mem_nil
    · exact absurd transit List.not_mem_nil

/-- Without packets nothing is added. -/
theorem flowShare_of_zero {flow : PlannedFlow} (none : flowRate float flow = 0) (name : String) :
    flowShare float t flow name = 0 := by
  unfold flowShare flowAdditions TrafficTopology.switchPathPps
  rw [none, getD_foldl_addPps, Dict.get_empty, Option.getD_none, zero_add]
  apply List.sum_eq_zero
  intro x mem
  obtain ⟨part, isPart, rfl⟩ := List.mem_map.mp mem
  exact pathParts_zero _ _ part (List.mem_of_mem_filter isPart)

/-- The estimator recomputes what the switches carry. -/
theorem switchTotals_eq (distinct : (t.clients.map TrafficClient.name).Nodup)
    (attached : ∀ client ∈ t.clients, client.Attached) {flows : List PlannedFlow}
    {totals : Dict String Rat} (done : switchTotals float t flows = .ok totals) (name : String) :
    (totals.get name).getD 0 = switchRate float t flows name := by
  have general : ∀ (flows : List PlannedFlow) (before : Dict String Rat),
      flows.foldlM (fun switchPps flow => do
        let pps ← estimateFlowPps float flow
        if pps ≤ 0 then pure switchPps
        else
          pure (spread switchPps (t.switchPathPps (t.clientToSwitch.get flow.src).join
            (t.clientToSwitch.get flow.dst).join pps))) before = .ok totals →
      (totals.get name).getD 0 = (before.get name).getD 0 + switchRate float t flows name := by
    intro flows
    induction flows with
    | nil =>
        intro before done
        rw [List.foldlM_nil, pure_eq_ok] at done
        rw [done, switchRate, List.map_nil, List.sum_nil, add_zero]
    | cons flow flows ih =>
        intro before done
        rw [List.foldlM_cons, bind_eq_ok] at done
        obtain ⟨next, first, rest⟩ := done
        obtain ⟨pps, isRate, first⟩ := bind_eq_ok.mp first
        have rate := flowRate_of_ok isRate
        have shared : (next.get name).getD 0 =
            (before.get name).getD 0 + flowShare float t flow name := by
          split at first
          · rename_i idle
            have none : flowRate float flow = 0 :=
              rate.trans (le_antisymm idle (estimateFlowPps_nonneg isRate))
            rw [← Except.ok.inj first, flowShare_of_zero none, add_zero]
          · rw [← Except.ok.inj first, getD_spread, flowShare, flowAdditions,
              leafOf_eq distinct attached, leafOf_eq distinct attached, rate]
        rw [ih next rest, shared, add_assoc, switchRate, switchRate, List.map_cons, List.sum_cons]
  rw [general flows t.noPps done, getD_noPps, zero_add]

theorem clientRate_cons (flow : PlannedFlow) (flows : List PlannedFlow) (name : String) :
    clientRate float (flow :: flows) name =
      (if flow.src = name then flowRate float flow else 0) + clientRate float flows name := by
  unfold clientRate
  rw [List.filter_cons]
  by_cases here : flow.src = name
  · rw [if_pos (decide_eq_true here), if_pos here, List.map_cons, List.sum_cons]
  · have away : ¬ decide (flow.src = name) = true := fun same => here (of_decide_eq_true same)
    rw [if_neg away, if_neg here, zero_add]

/-- The estimate of a client is what it sends. -/
theorem estimateClientPps_eq {flows : List PlannedFlow} {perClient : Dict String Rat}
    (done : estimateClientPps float flows = .ok perClient) (name : String) :
    (perClient.get name).getD 0 = if name = "" then 0 else clientRate float flows name := by
  have general : ∀ (flows : List PlannedFlow) (before : Dict String Rat),
      flows.foldlM (fun perClient flow =>
        if flow.src = "" then pure perClient
        else do
          let pps ← estimateFlowPps float flow
          pure (addPps perClient (flow.src, pps))) before = .ok perClient →
      (perClient.get name).getD 0 = (before.get name).getD 0 +
        if name = "" then 0 else clientRate float flows name := by
    intro flows
    induction flows with
    | nil =>
        intro before done
        rw [List.foldlM_nil, pure_eq_ok] at done
        have none : clientRate float [] name = 0 := rfl
        rw [done, none, ite_self, add_zero]
    | cons flow flows ih =>
        intro before done
        rw [List.foldlM_cons, bind_eq_ok] at done
        obtain ⟨next, first, rest⟩ := done
        rw [ih next rest, clientRate_cons]
        by_cases unnamed : flow.src = ""
        · rw [if_pos unnamed, pure_eq_ok] at first
          rw [first]
          congr 1
          by_cases isEmpty : name = ""
          · rw [if_pos isEmpty, if_pos isEmpty]
          · have away : ¬ flow.src = name := fun same => isEmpty (same.symm.trans unnamed)
            rw [if_neg isEmpty, if_neg isEmpty, if_neg away, zero_add]
        · rw [if_neg unnamed] at first
          obtain ⟨pps, isRate, first⟩ := bind_eq_ok.mp first
          rw [← Except.ok.inj first, getD_addPps, flowRate_of_ok isRate, add_assoc]
          congr 1
          by_cases isEmpty : name = ""
          · have away : ¬ name = flow.src := fun same => unnamed (same.symm.trans isEmpty)
            rw [if_pos isEmpty, if_pos isEmpty, if_neg away, zero_add]
          · rw [if_neg isEmpty, if_neg isEmpty]
            exact congrArg (· + _) (if_congr eq_comm rfl rfl)
  rw [general flows .empty done, Dict.get_empty, Option.getD_none, zero_add]

/-! ## The configuration -/

theorem greatest_le {xs : List Rat} {bound : Rat} (nonneg : 0 ≤ bound)
    (below : ∀ x ∈ xs, x ≤ bound) : greatest xs ≤ bound := by
  cases xs with
  | nil => exact nonneg
  | cons first rest =>
      have general : ∀ (rest : List Rat) (most : Rat), most ≤ bound → (∀ x ∈ rest, x ≤ bound) →
          rest.foldl max most ≤ bound := by
        intro rest
        induction rest with
        | nil => exact fun most within _ => within
        | cons x rest ih =>
            intro most within below
            exact ih _ (max_le within (below x List.mem_cons_self))
              fun y mem => below y (List.mem_cons_of_mem _ mem)
      exact general rest first (below first List.mem_cons_self)
        fun x mem => below x (List.mem_cons_of_mem _ mem)

/-- The values of a table of rates are within a bound where its lookups are. -/
theorem values_le {d : Dict String Rat} {bound : Rat}
    (below : ∀ name, (d.get name).getD 0 ≤ bound) : ∀ x ∈ d.values, x ≤ bound := by
  intro x mem
  obtain ⟨name, found⟩ := Dict.mem_values.mp mem
  have within := below name
  rw [found, Option.getD_some] at within
  exact within

/-- What a matrix of flows is meant to have. -/
structure TrafficConfig.Admissible (float : String → Except String Rat) (t : TrafficTopology)
    (settings : PlannerSettings) (config : TrafficConfig) : Prop where
  apart : ∀ flow ∈ config.flows, flow.src ≠ flow.dst
  pairs : (config.flows.map fun flow => (flow.src, flow.dst)).Nodup
  outgoing : ∀ client ∈ t.clients,
    (config.flows.countP fun flow => flow.src = client.name : Int) ≤ settings.flowsPerClient
  incoming : ∀ client ∈ t.clients,
    (config.flows.countP fun flow => flow.dst = client.name : Int) ≤ settings.flowsPerClient
  ports : (config.flows.map fun flow => (flow.dst, flow.dstPort)).Nodup
  inPool : ∀ flow ∈ config.flows, settings.listenerPortBase ≤ flow.dstPort ∧
    flow.dstPort < settings.listenerPortBase + settings.listenerPortPoolSize
  protocols : ∀ client ∈ t.clients, ∀ k flow,
    (config.flows.filter fun flow => flow.src = client.name)[k]? = some flow →
      flow.protocol = if k % 2 = 0 then .udp else .tcp
  rated : ∀ flow ∈ config.flows, ∃ pps, estimateFlowPps float flow = .ok pps
  clientPps : ∀ client ∈ t.clients,
    clientRate float config.flows client.name ≤ settings.maxPpsPerClient
  switchPps : ∀ limit ∈ settings.switchPpsLimit, ∀ name ∈ t.switchNames,
    switchRate float t config.flows name ≤ limit
  recomputed : ∃ s totals, planFlows float t settings = .ok s ∧ s.flows = config.flows ∧
    switchTotals float t config.flows = .ok totals ∧ ∀ name ∈ t.switchNames,
      (totals.get name).getD 0 = (s.switchPps.get name).getD 0
  accepted : validateTrafficConfig settings.maxPpsPerClient settings.switchPpsLimit config = .ok ()

/-- Where clients have distinct names, attachments are texts or missing, and no limit is negative,
every configuration that the planner returns is admissible. -/
theorem generateTrafficConfig_admissible (float : String → Except String Rat) (t : TrafficTopology)
    (settings : PlannerSettings) (distinct : (t.clients.map TrafficClient.name).Nodup)
    (attached : ∀ client ∈ t.clients, client.Attached)
    (flowsNonneg : 0 ≤ settings.flowsPerClient) (ppsNonneg : 0 ≤ settings.maxPpsPerClient)
    (limitNonneg : ∀ limit ∈ settings.switchPpsLimit, 0 ≤ limit) (config : TrafficConfig)
    (done : generateTrafficConfig float t settings = .ok config) :
    config.Admissible float t settings := by
  unfold generateTrafficConfig at done
  obtain ⟨s, isRun, done⟩ := bind_eq_ok.mp done
  obtain ⟨perClient, isClients, done⟩ := bind_eq_ok.mp done
  obtain ⟨perClientUdp, -, done⟩ := bind_eq_ok.mp done
  obtain ⟨estimate, isEstimate, done⟩ := bind_eq_ok.mp done
  have planned := planFlows_planned distinct isRun
  have admitted := planned.admitted
  obtain ⟨totals, isTotals, isEstimate⟩ := bind_eq_ok.mp isEstimate
  have total := fun name => switchTotals_eq distinct attached isTotals name
  have maximum : estimate.maxSwitchPps = Rounding.round 2 (greatest totals.values) := by
    rw [← Except.ok.inj isEstimate]
  have isFlows : config.flows = s.flows := by
    rw [← Except.ok.inj done]
  have clientMaximum : config.stats.estimatedMaxPpsPerClient =
      Rounding.round 2 (greatest perClient.values) := by
    rw [← Except.ok.inj done]
  have isSwitches : config.stats.estimatedSwitchPps = estimate := by
    rw [← Except.ok.inj done]
  refine ⟨?_, ?_, ?_, ?_, ?_, ?_, ?_, ?_, ?_, ?_, ?_, ?_⟩
  · exact isFlows ▸ admitted.apart
  · exact isFlows ▸ admitted.pairs_nodup
  · exact isFlows ▸ fun client _ => admitted.outgoing_le flowsNonneg client.name
  · exact isFlows ▸ fun client _ => admitted.incoming_le flowsNonneg client.name
  · exact isFlows ▸ admitted.ports_nodup
  · exact isFlows ▸ admitted.port_in_pool
  · exact isFlows ▸ fun client _ k flow isFlow => admitted.protocol_alternates client.name isFlow
  · exact isFlows ▸ admitted.rated
  · exact isFlows ▸ fun client _ => admitted.clientRate_le ppsNonneg client.name
  · exact isFlows ▸ fun limit isLimit name _ =>
      admitted.switchRate_le isLimit (limitNonneg limit isLimit) name
  · rw [isFlows]
    exact ⟨s, totals, isRun, rfl, isTotals, fun name _ =>
      (total name).trans (planned.switches name).symm⟩
  · unfold validateTrafficConfig
    rw [bind_eq_ok]
    refine ⟨(), reject_eq_ok.mpr ?_, reject_eq_ok.mpr ?_⟩
    · rw [clientMaximum, not_lt]
      apply Rounding.round_le
      apply greatest_le (by exact_mod_cast ppsNonneg)
      apply values_le
      intro name
      rw [estimateClientPps_eq isClients]
      split
      · exact_mod_cast ppsNonneg
      · exact admitted.clientRate_le ppsNonneg name
    · intro exceeded
      obtain ⟨limit, isLimit, above⟩ := exceeded
      have nonneg := limitNonneg limit isLimit
      rw [isSwitches, maximum, ← not_le] at above
      apply above
      apply Rounding.round_le
      apply greatest_le (by exact_mod_cast nonneg)
      apply values_le
      intro name
      rw [total name]
      exact admitted.switchRate_le isLimit nonneg name

/-! ## Two pods -/

/-- Every bandwidth is one packet a second of UDP. -/
def onePacket (_ : String) : Except String Rat := .ok 11424

/-- Two clients on a leaf of their own, and two on the edges of a pod. -/
def podTopology (attachment : NodeLabel) : TrafficTopology where
  clients :=
    [{ name := "a1", ip := some "10.0.0.1", leaf := some attachment },
      { name := "a2", ip := some "10.0.0.2", leaf := some attachment },
      { name := "b1", ip := some "10.0.1.1", edge := some (.text "edge1") },
      { name := "b2", ip := some "10.0.2.1", edge := some (.text "edge2") }]
  cores := [{ name := "core1" }]
  aggs := [{ name := "agg1", pod := some (.number 1) }]
  edges :=
    [{ name := "edge1", pod := some (.number 1) }, { name := "edge2", pod := some (.number 1) },
      { name := "edge3", pod := some (.number 1) }]

/-- One flow for a client, and one packet a second for a switch. -/
def podSettings : PlannerSettings where
  scale := "xs"
  flowsPerClient := 1
  maxPpsPerClient := 1
  bandwidths _ := some "11424"
  linkMtuBytes := 9232
  switchPpsLimit := some 1
  listenerPortBase := 5201
  listenerPortPoolSize := 4
  udpPayloadLenBytes := 1400
  tcpMssBytes := 1360

theorem generateTrafficConfig_admissible_pod :
    ∃ config, generateTrafficConfig onePacket (podTopology (.text "edge3")) podSettings =
        .ok config ∧
      config.flows.length = 1 ∧
      config.Admissible onePacket (podTopology (.text "edge3")) podSettings := by
  have succeeds : succeedsWith
      (generateTrafficConfig onePacket (podTopology (.text "edge3")) podSettings)
      (fun config => decide (config.flows.length = 1)) = true := by decide +kernel
  obtain ⟨config, done, one⟩ := succeedsWith_eq_true.mp succeeds
  have distinct : ((podTopology (.text "edge3")).clients.map TrafficClient.name).Nodup := by
    decide +kernel
  have attached : ∀ client ∈ (podTopology (.text "edge3")).clients, client.Attached := by
    intro client mem label isLabel
    have texts : (podTopology (.text "edge3")).clients.all (fun client =>
        client.attachedText.isSome) = true := by decide +kernel
    obtain ⟨name, isText⟩ := Option.isSome_iff_exists.mp (List.all_eq_true.mp texts client mem)
    rw [attachedText_eq_some.mp isText] at isLabel
    exact ⟨name, (Option.some.inj isLabel).symm⟩
  have limit : ∀ limit ∈ podSettings.switchPpsLimit, 0 ≤ limit := by
    intro limit isLimit
    rw [← Option.some.inj isLimit]
    exact Int.one_nonneg
  exact ⟨config, done, of_decide_eq_true one,
    generateTrafficConfig_admissible onePacket (podTopology (.text "edge3")) podSettings distinct
      attached (by decide) (by decide) limit config done⟩

/-- Two clients of one name. -/
def twinTopology : TrafficTopology where
  clients := [{ name := "a", ip := some "10.0.0.1" }, { name := "a", ip := some "10.0.0.2" }]

/-- Twins send to themselves; behind a leaf that is a number, the estimator counts the way through
the pod, which the planner does not, and the validation rejects; and no client has fewer than no
flows. -/
theorem matrices_inadmissible :
    (∃ config, generateTrafficConfig onePacket twinTopology podSettings = .ok config ∧
      ∃ flow ∈ config.flows, flow.src = flow.dst) ∧
    (∃ config, generateTrafficConfig onePacket (podTopology (.number 5)) podSettings =
        .ok config ∧
      validateTrafficConfig podSettings.maxPpsPerClient podSettings.switchPpsLimit config ≠
        .ok ()) ∧
    ∃ config, generateTrafficConfig onePacket twinTopology
        { podSettings with flowsPerClient := -1 } = .ok config ∧
      ¬ (config.flows.countP fun flow => flow.src = "a" : Int) ≤ -1 := by
  have twins : succeedsWith (generateTrafficConfig onePacket twinTopology podSettings)
      (fun config => config.flows.any fun flow => flow.src = flow.dst) = true := by decide +kernel
  have numbered : succeedsWith
      (generateTrafficConfig onePacket (podTopology (.number 5)) podSettings) (fun config =>
        !succeedsWith (validateTrafficConfig podSettings.maxPpsPerClient podSettings.switchPpsLimit
          config) fun _ => true) = true := by decide +kernel
  have negative : succeedsWith
      (generateTrafficConfig onePacket twinTopology { podSettings with flowsPerClient := -1 })
      (fun config => decide (¬ (config.flows.countP fun flow => flow.src = "a" : Int) ≤ -1)) =
        true := by decide +kernel
  refine ⟨?_, ?_, ?_⟩
  · obtain ⟨config, done, found⟩ := succeedsWith_eq_true.mp twins
    obtain ⟨flow, mem, same⟩ := List.any_eq_true.mp found
    exact ⟨config, done, flow, mem, of_decide_eq_true same⟩
  · obtain ⟨config, done, rejected⟩ := succeedsWith_eq_true.mp numbered
    refine ⟨config, done, ?_⟩
    intro accepted
    rw [accepted] at rejected
    cases rejected
  · obtain ⟨config, done, less⟩ := succeedsWith_eq_true.mp negative
    exact ⟨config, done, of_decide_eq_true less⟩

end NetOpsBench
