import NetOpsBench.ClientAgent.Config
import NetOpsBench.Lib.Counting
import NetOpsBench.Pingmesh.PlannerFrames

/-!
# What the native agent accepts

`ClientAgentConfig::validate` and `ClientProbePlan::validate` of
`native/client-agent/src/config.rs`. `AgentProbePlan.validate_eq_ok` and
`ClientAgentConfig.validate_eq_ok` say what an accepted plan and an accepted configuration are:
the counting checks of the agent amount to frames that have every task once and to an epoch
that has every target and port batch once.
-/

namespace NetOpsBench

open Fallible

/-- `CONFIG_SCHEMA_VERSION` -/
def configSchemaVersion : Nat := 2

/-- The product of two `u64` values, as the release build computes it. -/
def wrappingMul (a b : Nat) : Nat := a * b % 2 ^ 64

/-- The agent's `ClientProbePlan`: the schedule of a client and the versions it is made for. -/
structure AgentProbePlan : Type extends ClientProbePlan where
  schemaVersion : Nat
  planId : String

/-! ## The configuration -/

namespace ClientAgentConfig

def names (config : ClientAgentConfig) : List String := config.clients.map AgentClient.name

def validate (config : ClientAgentConfig) : Except String Unit := do
  reject (config.schemaVersion ≠ configSchemaVersion)
    "unsupported client-agent schema; expected 2; regenerate the topology"
  let settings := config.pingmeshPlan
  reject (config.clients.length < 2 ∨ ¬ config.names.Nodup ∨
      (∃ client ∈ config.clients, '/' ∈ client.name.toList ∨ client.name = "..") ∨
      ¬ config.clientPlanSha256.keys ⊆ config.names ∨
      ¬ config.names ⊆ config.clientPlanSha256.keys)
    "invalid client roster or client plan digests"
  reject (settings.planId.utf8ByteSize ≠ 64 ∨ settings.sourcePorts = [] ∨
      33434 ∈ settings.sourcePorts ∨ ¬ settings.sourcePorts.Nodup ∨
      settings.cycleIntervalSeconds = 0 ∨ settings.coverageEpochCycles = 0 ∨
      settings.destinationBatchSize = 0 ∨ settings.dfPayloadSize < 24 ∨
      65507 < settings.dfPayloadSize ∨ settings.portBatches = [] ∨ [] ∈ settings.portBatches ∨
      settings.coverageEpochSeconds ≠
        wrappingMul settings.coverageEpochCycles settings.cycleIntervalSeconds ∨
      settings.completeWindowSeconds < settings.coverageEpochSeconds)
    "invalid compiled Pingmesh plan settings"
  let indices := Sorting.sorted (fun a b => decide (a ≤ b)) settings.portBatches.flatten
  reject (indices ≠ List.range settings.sourcePorts.length)
    "port batches must partition the source-port pool"

end ClientAgentConfig

/-! ## The plan -/

/-- The tasks of a frame that have been seen: `rtt` and `df`. -/
structure SeenTasks : Type where
  rtt : List (Nat × Nat)
  df : List Nat

/-- One turn of the loop over the probes of a frame. -/
def checkProbe (targets sockets : Nat) (seen : SeenTasks) :
    ProbeKind × Nat × Nat → Except String SeenTasks
  | (kind, target, socket) => do
      reject (targets ≤ target ∨ sockets ≤ socket) "probe references an invalid target or socket"
      match kind with
      | .rtt =>
          reject ((target, socket) ∈ seen.rtt) "duplicate RTT task"
          pure { seen with rtt := (target, socket) :: seen.rtt }
      | .df =>
          reject (target ∈ seen.df) "duplicate DF task"
          pure { seen with df := target :: seen.df }

/-- The checks of a frame on its own. -/
def checkTasks (settings : PlanSettings) (targets : Nat) (frame : ProbeFrame) :
    Except String Unit := do
  match settings.portBatches[frame.portBatchIndex]? with
  | none => throw "invalid frame port batch"
  | some batch =>
      reject (settings.destinationBatchSize < frame.targetIndices.length ∨
          (∃ index ∈ frame.targetIndices, targets ≤ index) ∨ ¬ frame.targetIndices.Nodup)
        "invalid frame targets"
      let seen ← frame.probes.foldlM (checkProbe frame.targetIndices.length batch.length) ⟨[], []⟩
      reject (seen.rtt.length ≠ frame.targetIndices.length * batch.length ∨
          seen.df.length ≠ frame.targetIndices.length)
        "frame is missing RTT or DF tasks"

/-- One turn of the loop over the frames: its checks, and its share of the coverage. -/
def checkFrame (settings : PlanSettings) (targets : Nat) (coverage : List (Nat × Nat))
    (frame : ProbeFrame) : Except String (List (Nat × Nat)) := do
  checkTasks settings targets frame
  Counting.insertAll (fun target => (target, frame.portBatchIndex)) "duplicate target/port batch"
    frame.targetIndices coverage

/-- `ClientProbePlan::validate` -/
def AgentProbePlan.validate (plan : AgentProbePlan) (config : ClientAgentConfig)
    (localClient : AgentClient) : Except String Unit := do
  let settings := config.pingmeshPlan
  reject (plan.schemaVersion ≠ configSchemaVersion ∨ plan.planId ≠ settings.planId ∨
      plan.name ≠ localClient.name ∨ plan.frames.length ≠ settings.coverageEpochCycles ∨
      plan.targets = [] ∨ ¬ plan.targets.Nodup ∨
      (∃ name ∈ plan.targets, name = localClient.name ∨ name ∉ config.names) ∨
      wrappingMul settings.cycleIntervalSeconds 1000 ≤ plan.startupDelayMs)
    "client plan does not match current configuration"
  let coverage ← plan.frames.foldlM (checkFrame settings plan.targets.length) []
  reject (coverage.length ≠ plan.targets.length * settings.portBatches.length)
    "client plan has incomplete target/port coverage"

/-! ## Accepted configurations -/

theorem sorted_eq_range {indices : List Nat} {n : Nat} :
    Sorting.sorted (fun a b => decide (a ≤ b)) indices = List.range n ↔
      indices.Perm (List.range n) := by
  have sorted := @Sorting.pairwise_sorted _ (fun a b : Nat => decide (a ≤ b)) indices
    (fun a b c first second => by simp only [decide_eq_true_eq] at *; omega)
    (fun a b => by simp only [decide_eq_true_eq]; omega)
  refine ⟨?_, ?_⟩
  · intro same
    exact same ▸ (Sorting.sorted_perm _ indices).symm
  · intro perm
    refine ((Sorting.sorted_perm _ indices).trans perm).eq_of_pairwise ?_ sorted ?_
    · intro a b _ _ ab ba
      exact Nat.le_antisymm (of_decide_eq_true ab) (of_decide_eq_true ba)
    · refine List.pairwise_lt_range.imp ?_
      intro a b less
      exact decide_eq_true (Nat.le_of_lt less)

/-- A configuration that the agent starts with. -/
structure ClientAgentConfig.Accepted (config : ClientAgentConfig) : Prop where
  schema : config.schemaVersion = configSchemaVersion
  two_clients : 2 ≤ config.clients.length
  names_nodup : config.names.Nodup
  names_plain : ∀ client ∈ config.clients, '/' ∉ client.name.toList ∧ client.name ≠ ".."
  digests : config.clientPlanSha256.keys ⊆ config.names ∧
    config.names ⊆ config.clientPlanSha256.keys
  planId_length : config.pingmeshPlan.planId.utf8ByteSize = 64
  ports_ne_nil : config.pingmeshPlan.sourcePorts ≠ []
  responder_free : 33434 ∉ config.pingmeshPlan.sourcePorts
  ports_nodup : config.pingmeshPlan.sourcePorts.Nodup
  interval_pos : config.pingmeshPlan.cycleIntervalSeconds ≠ 0
  epoch_pos : config.pingmeshPlan.coverageEpochCycles ≠ 0
  batchSize_pos : config.pingmeshPlan.destinationBatchSize ≠ 0
  payload : 24 ≤ config.pingmeshPlan.dfPayloadSize ∧ config.pingmeshPlan.dfPayloadSize ≤ 65507
  batches_ne_nil : config.pingmeshPlan.portBatches ≠ [] ∧ [] ∉ config.pingmeshPlan.portBatches
  epoch_seconds : config.pingmeshPlan.coverageEpochSeconds =
    wrappingMul config.pingmeshPlan.coverageEpochCycles config.pingmeshPlan.cycleIntervalSeconds
  window : config.pingmeshPlan.coverageEpochSeconds ≤ config.pingmeshPlan.completeWindowSeconds
  ports_partitioned : config.pingmeshPlan.portBatches.flatten.Perm
    (List.range config.pingmeshPlan.sourcePorts.length)

theorem ClientAgentConfig.validate_eq_ok {config : ClientAgentConfig} :
    config.validate = .ok () ↔ config.Accepted := by
  simp only [validate, bind_eq_ok, reject_eq_ok, not_or, not_not, not_exists, not_and, Nat.not_lt,
    sorted_eq_range]
  refine ⟨?_, ?_⟩
  · intro given
    rcases given with ⟨_, schema, _, ⟨two, names, plain, known, named⟩, _, ⟨planId, ports, responder, portsNodup,
      interval, epoch, batch, low, high, batches, inhabited, seconds, window⟩, partition⟩
    exact
      { schema, two_clients := two, names_nodup := names, names_plain := plain
        digests := ⟨known, named⟩
        planId_length := planId, ports_ne_nil := ports, responder_free := responder
        ports_nodup := portsNodup, interval_pos := interval, epoch_pos := epoch
        batchSize_pos := batch, payload := ⟨low, high⟩, batches_ne_nil := ⟨batches, inhabited⟩
        epoch_seconds := seconds, window, ports_partitioned := partition }
  · intro accepted
    exact ⟨(), accepted.schema, (), ⟨accepted.two_clients, accepted.names_nodup,
      accepted.names_plain, accepted.digests.1, accepted.digests.2⟩, (), ⟨accepted.planId_length, accepted.ports_ne_nil,
      accepted.responder_free, accepted.ports_nodup, accepted.interval_pos, accepted.epoch_pos,
      accepted.batchSize_pos, accepted.payload.1, accepted.payload.2, accepted.batches_ne_nil.1,
      accepted.batches_ne_nil.2, accepted.epoch_seconds, accepted.window⟩,
      accepted.ports_partitioned⟩

/-! ## Accepted plans -/

/-- The RTT tasks among the probes of a frame. -/
def rttTasks (probes : List (ProbeKind × Nat × Nat)) : List (Nat × Nat) :=
  probes.filterMap fun probe => if probe.1 = .rtt then some probe.2 else none

/-- The targets of the DF tasks. -/
def dfTasks (probes : List (ProbeKind × Nat × Nat)) : List Nat :=
  probes.filterMap fun probe => if probe.1 = .df then some probe.2.1 else none

/-- The target and port batch pairs that a frame covers. -/
def ProbeFrame.coverage (frame : ProbeFrame) : List (Nat × Nat) :=
  frame.targetIndices.map fun target => (target, frame.portBatchIndex)

section Tasks

variable {targets sockets : Nat} {probes : List (ProbeKind × Nat × Nat)}

/-- The loop over the probes collects the tasks of both kinds, each of them once. -/
theorem checkProbes_eq_ok {seen out : SeenTasks} (rttNodup : seen.rtt.Nodup)
    (dfNodup : seen.df.Nodup) : probes.foldlM (checkProbe targets sockets) seen = .ok out ↔
      (∀ probe ∈ probes, probe.2.1 < targets ∧ probe.2.2 < sockets) ∧
        out = ⟨(rttTasks probes).reverse ++ seen.rtt, (dfTasks probes).reverse ++ seen.df⟩ ∧
        out.rtt.Nodup ∧ out.df.Nodup := by
  induction probes generalizing seen with
  | nil =>
      rw [List.foldlM_nil, pure_eq_ok]
      refine ⟨?_, ?_⟩
      · intro same
        subst same
        exact ⟨fun _ mem => (List.not_mem_nil mem).elim, rfl, rttNodup, dfNodup⟩
      · intro given
        rcases given with ⟨_, same, _⟩
        exact same.symm
  | cons probe probes ih =>
      obtain ⟨kind, target, socket⟩ := probe
      rw [List.foldlM_cons, bind_eq_ok, List.forall_mem_cons]
      cases kind with
      | rtt =>
          have tasks : rttTasks ((.rtt, target, socket) :: probes) =
              (target, socket) :: rttTasks probes := rfl
          have others : dfTasks ((.rtt, target, socket) :: probes) = dfTasks probes := rfl
          simp only [checkProbe, bind_eq_ok, reject_eq_ok, pure_eq_ok, not_or, Nat.not_le, tasks,
            others, List.reverse_cons, List.append_assoc, List.singleton_append]
          refine ⟨?_, ?_⟩
          · intro given
            rcases given with ⟨_, ⟨_, inRange, _, fresh, same⟩, rest⟩
            subst same
            obtain ⟨later, outEq, nodups⟩ :=
              (@ih ⟨_, _⟩ (List.nodup_cons.mpr ⟨fresh, rttNodup⟩) dfNodup).mp rest
            exact ⟨⟨inRange, later⟩, outEq, nodups⟩
          · intro given
            rcases given with ⟨⟨inRange, later⟩, outEq, nodups⟩
            have tail : ((target, socket) :: seen.rtt).Nodup := by
              have whole := nodups.1
              rw [outEq] at whole
              exact whole.sublist (List.sublist_append_right _ _)
            exact ⟨_, ⟨(), inRange, (), (List.nodup_cons.mp tail).1, rfl⟩,
              (@ih ⟨_, _⟩ tail dfNodup).mpr ⟨later, outEq, nodups⟩⟩
      | df =>
          have tasks : dfTasks ((.df, target, socket) :: probes) = target :: dfTasks probes := rfl
          have others : rttTasks ((.df, target, socket) :: probes) = rttTasks probes := rfl
          simp only [checkProbe, bind_eq_ok, reject_eq_ok, pure_eq_ok, not_or, Nat.not_le, tasks,
            others, List.reverse_cons, List.append_assoc, List.singleton_append]
          refine ⟨?_, ?_⟩
          · intro given
            rcases given with ⟨_, ⟨_, inRange, _, fresh, same⟩, rest⟩
            subst same
            obtain ⟨later, outEq, nodups⟩ :=
              (@ih ⟨seen.rtt, target :: seen.df⟩ rttNodup
                (List.nodup_cons.mpr ⟨fresh, dfNodup⟩)).mp rest
            exact ⟨⟨inRange, later⟩, outEq, nodups⟩
          · intro given
            rcases given with ⟨⟨inRange, later⟩, outEq, nodups⟩
            have tail : (target :: seen.df).Nodup := by
              have whole := nodups.2
              rw [outEq] at whole
              exact whole.sublist (List.sublist_append_right _ _)
            exact ⟨_, ⟨(), inRange, (), (List.nodup_cons.mp tail).1, rfl⟩,
              (@ih ⟨seen.rtt, target :: seen.df⟩ rttNodup tail).mpr ⟨later, outEq, nodups⟩⟩

theorem mem_rttTasks {task : Nat × Nat} : task ∈ rttTasks probes ↔ (.rtt, task) ∈ probes := by
  simp only [rttTasks, List.mem_filterMap, Option.ite_none_right_eq_some, Option.some.injEq]
  refine ⟨?_, fun mem => ⟨_, mem, rfl, rfl⟩⟩
  intro given
  rcases given with ⟨⟨kind, task'⟩, mem, isRtt, same⟩
  rw [← same, ← isRtt]
  exact mem

theorem mem_dfTasks {target : Nat} :
    target ∈ dfTasks probes ↔ ∃ socket, (.df, target, socket) ∈ probes := by
  simp only [dfTasks, List.mem_filterMap, Option.ite_none_right_eq_some, Option.some.injEq]
  refine ⟨?_, fun ⟨socket, mem⟩ => ⟨_, mem, rfl, rfl⟩⟩
  intro given
  rcases given with ⟨⟨kind, target', socket⟩, mem, isDf, same⟩
  refine ⟨socket, ?_⟩
  rw [← same, ← isDf]
  exact mem

theorem count_rttTasks (task : Nat × Nat) :
    (rttTasks probes).count task = probes.count (.rtt, task) := by
  rw [List.count, rttTasks, List.countP_filterMap, List.count]
  apply List.countP_congr
  intro probe _
  obtain ⟨kind, other⟩ := probe
  cases kind <;> simp

theorem count_dfTasks (target : Nat) : (dfTasks probes).count target =
    probes.countP fun probe => probe.1 = .df ∧ probe.2.1 = target := by
  rw [List.count, dfTasks, List.countP_filterMap]
  apply List.countP_congr
  intro probe _
  obtain ⟨kind, other⟩ := probe
  cases kind <;> simp

/-- The counting checks of a frame pass exactly on a sound frame of at most a batch. -/
theorem checkTasks_eq_ok {settings : PlanSettings} {frame : ProbeFrame} :
    checkTasks settings targets frame = .ok () ↔
      frame.Sound settings targets ∧ frame.targetIndices.length ≤ settings.destinationBatchSize := by
  unfold checkTasks
  split
  · rename_i absent
    refine ⟨nofun, ?_⟩
    intro given
    rcases given with ⟨sound, _⟩
    rw [List.getElem?_eq_getElem sound.portBatch_lt] at absent
    cases absent
  · rename_i batch found
    have socketsEq : settings.socketsOf frame = batch := by
      rw [PlanSettings.socketsOf, List.getD_eq_getElem?_getD, found]
      rfl
    simp only [bind_eq_ok, reject_eq_ok, not_or, not_not, not_exists, not_and, Nat.not_lt,
      Nat.not_le, @checkProbes_eq_ok _ _ _ ⟨[], []⟩ _ List.nodup_nil List.nodup_nil, List.append_nil]
    have products : (List.range frame.targetIndices.length ×ˢ List.range batch.length).Nodup :=
      List.nodup_range.product List.nodup_range
    refine ⟨?_, ?_⟩
    · intro given
      rcases given with ⟨_, ⟨size, inRange, nodup⟩, seen, ⟨probesInRange, seenEq, rttNodup, dfNodup⟩,
        rttLength, dfLength⟩
      subst seenEq
      simp only [List.nodup_reverse, List.length_reverse] at rttNodup dfNodup rttLength dfLength
      have rttPerm : (rttTasks frame.probes).Perm
          (List.range frame.targetIndices.length ×ˢ List.range batch.length) := by
        refine Counting.perm_of_nodup_of_length rttNodup ?_ ?_
        · intro task mem
          have both := probesInRange _ (mem_rttTasks.mp mem)
          exact List.mem_product.mpr ⟨List.mem_range.mpr both.1, List.mem_range.mpr both.2⟩
        · rw [List.length_product, List.length_range, List.length_range, rttLength]
      have dfPerm : (dfTasks frame.probes).Perm (List.range frame.targetIndices.length) := by
        refine Counting.perm_of_nodup_of_length dfNodup ?_ ?_
        · intro target mem
          obtain ⟨socket, memProbe⟩ := mem_dfTasks.mp mem
          exact List.mem_range.mpr (probesInRange _ memProbe).1
        · rw [List.length_range, dfLength]
      refine ⟨⟨(List.getElem?_eq_some_iff.mp found).1, inRange, nodup, ?_, ?_, ?_⟩, size⟩
      · intro kind target socket mem
        rw [socketsEq]
        exact probesInRange _ mem
      · intro target targetLt socket socketLt
        rw [socketsEq] at socketLt
        rw [← count_rttTasks]
        exact ((Counting.perm_iff_count products).mp rttPerm).2 _
          (List.mem_product.mpr ⟨List.mem_range.mpr targetLt, List.mem_range.mpr socketLt⟩)
      · intro target targetLt
        rw [← count_dfTasks]
        exact ((Counting.perm_iff_count List.nodup_range).mp dfPerm).2 _
          (List.mem_range.mpr targetLt)
    · intro given
      rcases given with ⟨sound, size⟩
      have probesInRange : ∀ probe ∈ frame.probes,
          probe.2.1 < frame.targetIndices.length ∧ probe.2.2 < batch.length := by
        intro probe mem
        rw [← socketsEq]
        exact sound.probe_lt probe.1 probe.2.1 probe.2.2 mem
      have rttPerm : (rttTasks frame.probes).Perm
          (List.range frame.targetIndices.length ×ˢ List.range batch.length) := by
        refine (Counting.perm_iff_count products).mpr ⟨?_, ?_⟩
        · intro task mem
          have both := probesInRange _ (mem_rttTasks.mp mem)
          exact List.mem_product.mpr ⟨List.mem_range.mpr both.1, List.mem_range.mpr both.2⟩
        · intro task mem
          obtain ⟨targetMem, socketMem⟩ := List.mem_product.mp mem
          rw [count_rttTasks]
          refine sound.rtt_once task.1 (List.mem_range.mp targetMem) task.2 ?_
          rw [socketsEq]
          exact List.mem_range.mp socketMem
      have dfPerm : (dfTasks frame.probes).Perm (List.range frame.targetIndices.length) := by
        refine (Counting.perm_iff_count List.nodup_range).mpr ⟨?_, ?_⟩
        · intro target mem
          obtain ⟨socket, memProbe⟩ := mem_dfTasks.mp mem
          exact List.mem_range.mpr (probesInRange _ memProbe).1
        · intro target mem
          rw [count_dfTasks]
          exact sound.df_once target (List.mem_range.mp mem)
      refine ⟨(), ⟨size, sound.target_lt, sound.targets_nodup⟩, _, ⟨probesInRange, rfl, ?_, ?_⟩,
        ?_, ?_⟩
      · exact List.nodup_reverse.mpr (rttPerm.nodup_iff.mpr products)
      · exact List.nodup_reverse.mpr (dfPerm.nodup_iff.mpr List.nodup_range)
      · rw [List.length_reverse, rttPerm.length_eq, List.length_product, List.length_range,
          List.length_range]
      · rw [List.length_reverse, dfPerm.length_eq, List.length_range]

end Tasks

/-- The loop over the frames checks each of them and collects their coverage. -/
theorem checkFrames_eq_ok {settings : PlanSettings} {targets : Nat} {frames : List ProbeFrame}
    {coverage out : List (Nat × Nat)} (nodup : coverage.Nodup) :
    frames.foldlM (checkFrame settings targets) coverage = .ok out ↔
      (∀ frame ∈ frames, frame.Sound settings targets ∧
        frame.targetIndices.length ≤ settings.destinationBatchSize) ∧
      out = (frames.flatMap ProbeFrame.coverage).reverse ++ coverage ∧ out.Nodup := by
  induction frames generalizing coverage with
  | nil =>
      rw [List.foldlM_nil, pure_eq_ok]
      refine ⟨?_, fun ⟨_, same, _⟩ => same.symm⟩
      intro same
      exact ⟨fun _ mem => (List.not_mem_nil mem).elim, same.symm, same ▸ nodup⟩
  | cons frame frames ih =>
      rw [List.foldlM_cons, List.forall_mem_cons, List.flatMap_cons, List.reverse_append,
        List.append_assoc]
      simp only [bind_eq_ok, checkFrame, Counting.insertAll_eq_ok nodup]
      refine ⟨?_, ?_⟩
      · intro given
        rcases given with ⟨next, ⟨_, sound, nextEq, nextNodup⟩, rest⟩
        obtain ⟨sounds, outEq, outNodup⟩ := (ih nextNodup).mp rest
        subst nextEq
        exact ⟨⟨checkTasks_eq_ok.mp sound, sounds⟩, outEq, outNodup⟩
      · intro given
        rcases given with ⟨⟨sound, sounds⟩, outEq, outNodup⟩
        have nextNodup : (frame.coverage.reverse ++ coverage).Nodup :=
          (outEq ▸ outNodup).sublist (List.sublist_append_right _ _)
        exact ⟨_, ⟨(), checkTasks_eq_ok.mpr sound, rfl, nextNodup⟩,
          (ih nextNodup).mpr ⟨sounds, outEq, outNodup⟩⟩

/-- A plan that the agent runs as a client of a configuration. -/
structure AgentProbePlan.Accepted (plan : AgentProbePlan) (config : ClientAgentConfig)
    (localClient : AgentClient) : Prop where
  schema : plan.schemaVersion = configSchemaVersion
  planId_eq : plan.planId = config.pingmeshPlan.planId
  name_eq : plan.name = localClient.name
  frames_length : plan.frames.length = config.pingmeshPlan.coverageEpochCycles
  targets_ne_nil : plan.targets ≠ []
  targets_nodup : plan.targets.Nodup
  targets_known : ∀ name ∈ plan.targets, name ≠ localClient.name ∧ name ∈ config.names
  startup : plan.startupDelayMs < wrappingMul config.pingmeshPlan.cycleIntervalSeconds 1000
  frame_sound : ∀ frame ∈ plan.frames, frame.Sound config.pingmeshPlan plan.targets.length ∧
    frame.targetIndices.length ≤ config.pingmeshPlan.destinationBatchSize
  covers : (plan.frames.flatMap ProbeFrame.coverage).Perm
    (List.range plan.targets.length ×ˢ List.range config.pingmeshPlan.portBatches.length)

theorem mem_coverage {frame : ProbeFrame} {target portBatch : Nat} :
    (target, portBatch) ∈ frame.coverage ↔
      target ∈ frame.targetIndices ∧ frame.portBatchIndex = portBatch := by
  simp [ProbeFrame.coverage]

theorem AgentProbePlan.validate_eq_ok {plan : AgentProbePlan} {config : ClientAgentConfig}
    {localClient : AgentClient} :
    plan.validate config localClient = .ok () ↔ plan.Accepted config localClient := by
  have products : (List.range plan.targets.length ×ˢ
      List.range config.pingmeshPlan.portBatches.length).Nodup :=
    List.nodup_range.product List.nodup_range
  simp only [validate, bind_eq_ok, reject_eq_ok, not_or, not_not, not_exists, not_and, Nat.not_le,
    @checkFrames_eq_ok _ _ _ [] _ List.nodup_nil, List.append_nil]
  refine ⟨?_, ?_⟩
  · intro given
    rcases given with ⟨_, ⟨schema, planId, name, length, targets, nodup, known, startup⟩, coverage,
      ⟨sounds, coverageEq, distinct⟩, complete⟩
    subst coverageEq
    rw [List.length_reverse] at complete
    refine
      { schema, planId_eq := planId, name_eq := name, frames_length := length
        targets_ne_nil := targets, targets_nodup := nodup, targets_known := known, startup
        frame_sound := sounds, covers := ?_ }
    refine Counting.perm_of_nodup_of_length (List.nodup_reverse.mp distinct) ?_ ?_
    · intro unit mem
      obtain ⟨frame, memFrame, covered⟩ := List.mem_flatMap.mp mem
      obtain ⟨active, portBatch⟩ := mem_coverage.mp covered
      refine List.mem_product.mpr ⟨List.mem_range.mpr ?_, List.mem_range.mpr ?_⟩
      · exact (sounds frame memFrame).1.target_lt _ active
      · rw [← portBatch]
        exact (sounds frame memFrame).1.portBatch_lt
    · rw [List.length_product, List.length_range, List.length_range, complete]
  · intro accepted
    refine ⟨(), ⟨accepted.schema, accepted.planId_eq, accepted.name_eq, accepted.frames_length,
      accepted.targets_ne_nil, accepted.targets_nodup, accepted.targets_known, accepted.startup⟩, _,
      ⟨accepted.frame_sound, rfl, ?_⟩, ?_⟩
    · exact List.nodup_reverse.mpr (accepted.covers.nodup_iff.mpr products)
    · rw [List.length_reverse, accepted.covers.length_eq, List.length_product, List.length_range,
        List.length_range]

end NetOpsBench
