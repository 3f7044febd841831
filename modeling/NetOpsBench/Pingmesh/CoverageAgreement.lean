import NetOpsBench.Pingmesh.Expectations
import NetOpsBench.Pingmesh.IngestionFrames
import NetOpsBench.Pingmesh.ProbeEmission

/-!
# The agents and the detector agree

The agents number their frames and sockets by the plan that the detector audits them
against. A row passes the identity tests of both audits and the socket-batch test
(`Detector.Agrees`) when the floats hold its numbers exactly and the clients have names,
and the metrics of one epoch of every client cover the plan.
-/

namespace NetOpsBench

open Fallible Batches

/-! ## The plan behind a row -/

namespace Compiled

variable {manifest : TopologyManifest} {peers : Peers} {plan : PingmeshPlan}

theorem planId_ne_empty (compiled : Compiled manifest peers plan) : plan.settings.planId ≠ "" := by
  intro empty
  have named : plan.settings.planId = planFingerprint manifest.toTopology plan := by
    conv_lhs => rw [compiled.settings_eq]
  have short := congrArg String.length (named.symm.trans empty)
  simp [planFingerprint] at short

/-- The source ports are valid port numbers, so a float counts them. -/
theorem sourcePorts_length_le (compiled : Compiled manifest peers plan) :
    plan.settings.sourcePorts.length ≤ 2 ^ 53 := by
  have last := compiled.ports_valid
  rw [compiled.settings_eq] at last ⊢
  simp only [planSettings, List.getLast?_range', List.length_range'] at last ⊢
  split at last
  · omega
  · simp only [Option.getD_some] at last
    omega

theorem portBatches_length_le (compiled : Compiled manifest peers plan) :
    plan.settings.portBatches.length ≤ plan.settings.sourcePorts.length := by
  rw [compiled.settings_eq]
  simp only [planSettings, PingmeshPolicy.portBatches, length_batches, List.length_range']
  exact batchCount_le manifest.pingmesh.rttPortsPerCycle_pos

theorem socketsOf_length_le (compiled : Compiled manifest peers plan) (frame : ProbeFrame) :
    (plan.settings.socketsOf frame).length ≤ plan.settings.sourcePorts.length := by
  rw [PlanSettings.socketsOf, List.getD_eq_getElem?_getD]
  rcases atPort : plan.settings.portBatches[frame.portBatchIndex]? with _ | sockets
  · simp
  · have part := (List.sublist_flatten_of_mem (List.mem_of_getElem? atPort)).length_le
    rw [compiled.sound.ports_partitioned.length_eq, List.length_range] at part
    exact part

/-- Every target of a client is a client of the manifest. -/
theorem target_known (compiled : Compiled manifest peers plan) {client : ClientProbePlan}
    (mem : client ∈ plan.clients) {name : String} (target : name ∈ client.targets) :
    name ∈ manifest.clients.map Device.name := by
  obtain ⟨source, -, rfl⟩ := compiled.mem_clients.mp mem
  exact compiled.correct.known (mem_targets.mp target)

/-- The targets of a frame are targets of its client. -/
theorem mem_targets_of_mem_frameTargets (compiled : Compiled manifest peers plan)
    {client : ClientProbePlan} (mem : client ∈ plan.clients) {frame : ProbeFrame}
    (memFrame : frame ∈ client.frames) {name : String}
    (active : name ∈ frameTargets client frame) : name ∈ client.targets := by
  obtain ⟨i, memI, rfl⟩ := List.mem_map.mp active
  have below := (compiled.frame_sound mem memFrame).target_lt i memI
  rw [List.getD_eq_getElem?_getD, List.getElem?_eq_getElem below]
  exact List.getElem_mem below

variable {str : Json → String} {config : ClientAgentConfig}

/-- The agent of every client of the plan starts its loop. -/
theorem startLoop_total (compiled : Compiled manifest peers plan)
    (built : buildClientAgentConfig str manifest plan = .ok config) {client : ClientProbePlan}
    (mem : client ∈ plan.clients) (localClient : AgentClient) :
    ∃ loop, startLoop config localClient client = .ok loop := by
  refine ProbeLoop.startLoop_total ?_ ?_ ?_
  · intro name target
    rw [roster_names built]
    exact compiled.target_known mem target
  · intro indices memBatch i memI
    rw [pingmeshPlan_of_built built] at memBatch ⊢
    have inPool : i ∈ plan.settings.portBatches.flatten :=
      List.mem_flatten.mpr ⟨indices, memBatch, memI⟩
    exact List.mem_range.mp (compiled.sound.ports_partitioned.mem_iff.mp inPool)
  · intro frame memFrame
    exact (compiled.frame_sound mem memFrame).target_lt

end Compiled

/-! ## One row -/

/-- A row of a cycle that passes the identity tests of both audits, as one of the expected
frame, and the socket-batch test. -/
structure Detector.Agrees (d : Detector) (row : Row) (cycle : Nat) (expected : ExpectedFrame) :
    Prop where
  cycle_eq : row.fieldInt .probeCycle = .ok (some (cycle : Int))
  identified : d.identify row (some (cycle : Int)) = .ok (some expected)
  progress : ∃ source destination, row.srcName = some source ∧ row.dstName = some destination ∧
    row.integer .probeCycle = .ok cycle ∧ d.checkIdentity row source cycle destination = .ok ()
  addresses : ¬ (d.addressMismatch row.srcName row.srcIp ∨ d.addressMismatch row.dstName row.dstIp)
  socketBatch : hasExpectedSocketBatch d.plan.settings row = .ok true

/-- The identity tests of the coverage audit. -/
theorem Detector.identify_eq_ok {d : Detector} {row : Row} {source destination : String}
    {cycle : Nat} {expected : ExpectedFrame} (planId : row.planId = some d.planId)
    (srcName : row.srcName = some source) (found : d.frameOf source cycle = some expected)
    (destinationBatch : row.fieldInt .destinationBatchIndex =
      .ok (some (expected.destinationBatchIndex : Int)))
    (portBatch : row.fieldInt .portBatchIndex = .ok (some (expected.portBatchIndex : Int)))
    (dstName : row.dstName = some destination) (target : destination ∈ expected.names) :
    d.identify row (some (cycle : Int)) = .ok (some expected) := by
  have here : d.frameOfRow row (some (cycle : Int)) = some expected := by
    simp [frameOfRow, srcName, found]
  rw [identify, if_neg (not_not.mpr planId), here]
  simp [destinationBatch, portBatch, dstName, target, pure, Except.pure]

theorem hasExpectedSocketBatch_eq_ok {settings : PlanSettings} {row : Row} {portBatch : Nat}
    (port : row.fieldInt .portBatchIndex = .ok (some (portBatch : Int)))
    (below : portBatch < settings.portBatches.length)
    (total : row.fieldInt .rttPortsTotal = .ok (some (settings.sourcePorts.length : Int)))
    (active : row.fieldInt .rttPortsActive =
      .ok (some ((settings.portBatches.getD portBatch []).length : Int))) :
    hasExpectedSocketBatch settings row = .ok true := by
  have inRange : 0 ≤ (portBatch : Int) ∧ (portBatch : Int) < (settings.portBatches.length : Int) :=
    ⟨Int.natCast_nonneg _, Int.ofNat_lt.mpr below⟩
  simp only [hasExpectedSocketBatch, port, ok_bind, total, active]
  rw [if_neg (not_not.mpr inRange), if_neg (not_not.mpr rfl)]
  simp [pure, Except.pure]

/-- The integer fields are read back from their decimal text. -/
theorem ProbeResult.value_of_number {result : ProbeResult} {field : SnapshotField} {n : Nat}
    (number : result.number field = some n) : result.value field = Binary64.ofNat n := by
  cases field with
  | rttMin | rttAvg | rttMax => cases number
  | _ =>
      obtain rfl := Option.some.inj number
      rfl

/-- A float field that holds an integer exactly. -/
theorem ProbeResult.value_eq {result : ProbeResult} {field : SnapshotField} {n : Nat}
    (number : result.number field = some n) (held : Binary64.Exact n) :
    result.value field = .finite n :=
  (value_of_number number).trans (Binary64.ofNat_eq held)

theorem Metric.fieldInt_row {render : Nat → String} {metric : Metric} {field : SnapshotField}
    {n : Nat} (number : metric.result.number field = some n) (held : Binary64.Exact n) :
    (metric.row render).fieldInt field = .ok (some (n : Int)) := by
  simp [Row.fieldInt, Metric.row, ProbeResult.value_eq number held, pure, Except.pure]

theorem Metric.integer_row {render : Nat → String} {metric : Metric} {field : SnapshotField}
    {n : Nat} (number : metric.result.number field = some n) (held : Binary64.Exact n) :
    (metric.row render).integer field = .ok n := by
  simp [Row.integer, Metric.row, ProbeResult.value_eq number held, require, pure, Except.pure,
    bind, Except.bind]

/-! ## The rows of a client -/

section Agreement

variable {manifest : TopologyManifest} {peers : Peers} {plan : PingmeshPlan}
  {str : Json → String} {config : ClientAgentConfig} {localClient : AgentClient}
  {client : ClientProbePlan} {frame : ProbeFrame} {cycle : Nat} {metric : Metric}
  {render : Nat → String}

/-- The manifest's address of a roster entry is the one that its metrics carry. -/
theorem addressMismatch_eq_false (built : buildClientAgentConfig str manifest plan = .ok config)
    {entry : AgentClient} (mem : entry ∈ config.clients) :
    (Detector.ofPlan manifest plan).addressMismatch (some entry.name) (nonempty (some entry.dataIp)) =
      false := by
  obtain ⟨device, memDevice, named, address, used⟩ := roster_address built mem
  have distinct : ((manifest.clients.map fun client => (client.name, client.dataIp)).map
      Prod.fst).Nodup := by
    rw [List.map_map]
    exact manifest.clientNames_nodup
  have known : (Detector.ofPlan manifest plan).clientAddresses.get entry.name =
      some (some entry.dataIp) := by
    refine (Dict.get_ofEntries distinct).mpr (List.mem_map.mpr ⟨device, memDevice, ?_⟩)
    rw [named, address]
  have shown : nonempty (some entry.dataIp) = some entry.dataIp :=
    nonempty_eq_some.mpr ⟨rfl, used⟩
  simp [Detector.addressMismatch, known, shown]

/-- A metric of the frame that the plan has for its cycle agrees with the detector. -/
theorem ProbeLoop.Reports.agrees (compiled : Compiled manifest peers plan)
    (built : buildClientAgentConfig str manifest plan = .ok config)
    (named : ∀ device ∈ manifest.clients, device.name ≠ "") (memLocal : localClient ∈ config.clients)
    (frameAt : plan.FrameAt localClient.name cycle client frame)
    (reports : ProbeLoop.Reports config localClient client frame cycle metric)
    (cycleHeld : Binary64.Exact cycle) (batchHeld : Binary64.Exact frame.destinationBatchIndex) :
    (Detector.ofPlan manifest plan).Agrees (metric.row render) cycle (expectedFrame client frame) := by
  have settings := pingmeshPlan_of_built built
  have memFrame := List.mem_of_getElem? frameAt.2.2
  have sound := compiled.frame_sound frameAt.1 memFrame
  have nameUsed : ∀ name ∈ manifest.clients.map Device.name, name ≠ "" := by
    intro name mem
    obtain ⟨device, memDevice, rfl⟩ := List.mem_map.mp mem
    exact named device memDevice
  have sourceUsed := nameUsed _
    (roster_names built ▸ List.mem_map_of_mem (f := AgentClient.name) memLocal)
  have targetUsed := nameUsed _ (compiled.target_known frameAt.1
    (compiled.mem_targets_of_mem_frameTargets frameAt.1 memFrame reports.target))
  have found := compiled.frameOf_eq_some.mpr ⟨client, frame, frameAt, rfl⟩
  have srcName : (metric.row render).srcName = some localClient.name :=
    nonempty_eq_some.mpr ⟨congrArg some reports.source.1, sourceUsed⟩
  have dstName : (metric.row render).dstName = some metric.dstName :=
    nonempty_eq_some.mpr ⟨rfl, targetUsed⟩
  have planId : (metric.row render).planId = some (Detector.ofPlan manifest plan).planId :=
    nonempty_eq_some.mpr ⟨congrArg some (reports.planId.trans (by rw [settings])),
      compiled.planId_ne_empty⟩
  have portHeld : Binary64.Exact frame.portBatchIndex := by
    have := compiled.portBatches_length_le
    have := compiled.sourcePorts_length_le
    have := sound.portBatch_lt
    exact Binary64.exact_of_le (by omega)
  have activeHeld : Binary64.Exact (plan.settings.socketsOf frame).length :=
    Binary64.exact_of_le ((compiled.socketsOf_length_le frame).trans compiled.sourcePorts_length_le)
  have totalHeld := Binary64.exact_of_le compiled.sourcePorts_length_le
  have cycleNumber : metric.result.number .probeCycle = some cycle := congrArg some reports.cycle_eq
  have batchNumber : metric.result.number .destinationBatchIndex =
      some frame.destinationBatchIndex := congrArg some reports.destinationBatch
  have portNumber : metric.result.number .portBatchIndex = some frame.portBatchIndex :=
    congrArg some reports.portBatch
  have activeNumber : metric.result.number .rttPortsActive =
      some (plan.settings.socketsOf frame).length := by
    rw [← settings]
    exact congrArg some reports.portsActive
  have totalNumber : metric.result.number .rttPortsTotal =
      some plan.settings.sourcePorts.length := by
    rw [← settings]
    exact congrArg some reports.portsTotal
  refine
    { cycle_eq := Metric.fieldInt_row cycleNumber cycleHeld
      identified := ?_
      progress := ⟨localClient.name, metric.dstName, srcName, dstName,
        Metric.integer_row cycleNumber cycleHeld, ?_⟩
      addresses := ?_
      socketBatch := ?_ }
  · exact Detector.identify_eq_ok planId srcName found (Metric.fieldInt_row batchNumber batchHeld)
      (Metric.fieldInt_row portNumber portHeld) dstName reports.target
  · exact Detector.checkIdentity_eq_ok.mpr ⟨planId, _, found, reports.target,
      Metric.integer_row batchNumber batchHeld, Metric.integer_row portNumber portHeld⟩
  · have source := addressMismatch_eq_false built memLocal
    obtain ⟨entry, memEntry, entryName, entryIp⟩ := reports.address
    have target := addressMismatch_eq_false built memEntry
    have srcIp : (metric.row render).srcIp = nonempty (some localClient.dataIp) := by
      rw [← reports.source.2]
      rfl
    have dstIp : (metric.row render).dstIp = nonempty (some entry.dataIp) := by
      rw [entryIp]
      rfl
    rw [srcName, dstName, srcIp, dstIp, source, ← entryName, target]
    simp
  · exact hasExpectedSocketBatch_eq_ok (Metric.fieldInt_row portNumber portHeld) sound.portBatch_lt
      (Metric.fieldInt_row totalNumber totalHeld) (Metric.fieldInt_row activeNumber activeHeld)

end Agreement

end NetOpsBench
