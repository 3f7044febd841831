import Mathlib.Data.List.TakeWhile
import NetOpsBench.ClientAgent.Validation
import NetOpsBench.Pingmesh.CoverageEpoch
import NetOpsBench.Pingmesh.ProbeEmission
import NetOpsBench.Pingmesh.ProbeSends

/-!
# A coverage epoch on the wire

What `probe_loop` sends when it runs a plan that `ClientProbePlan::validate` has accepted. No
index of such a plan is out of range (`turn_inRange`), and as many consecutive cycles as the
plan has frames send every target one RTT probe from every source port and one initial DF
probe from every port batch (`probeLoop_complete`), unless the cycle counter wraps in between.
-/

namespace NetOpsBench

open Fallible

/-- A probe that a cycle hands to the kernel. -/
structure SentProbe : Type where
  kind : ProbeKind
  /-- Sent before the confirmation set is computed. -/
  initial : Bool
  destination : String
  sourcePort : Nat
  deriving DecidableEq, Repr

namespace ProbeLoop

variable (summarize : List Nat → RttSummary) (loop : ProbeLoop)

/-- The arguments of `run_probe_cycle` in a turn of the loop. -/
def cycleInput (network : Network) (frame : ProbeFrame) (targets : List Target)
    (sockets : List Nat) : CycleInput :=
  { targets
    sockets := sockets.length
    dfPayloadSize := loop.config.pingmeshPlan.dfPayloadSize
    sendQueue := frame.probes
    network }

/-- A send with its target and its source port. -/
def observe (targets : List Target) (sockets : List Nat) (initial : Bool)
    (task : ProbeKind × Nat × Nat) : SentProbe :=
  { kind := task.1
    initial
    destination := (targets.map fun target => target.client.name).getD task.2.1 ""
    sourcePort := loop.config.pingmeshPlan.sourcePorts.getD (sockets.getD task.2.2 0) 0 }

/-- The sends of one cycle: the initial ones and the confirmations. -/
def cycleProbes (network : Network) (state : LoopState) : Except String (List SentProbe) := do
  let frameIndex := state.cycle.toNat % loop.plan.frames.length
  let frame ← index loop.plan.frames frameIndex
  let targets ← index loop.activeTargets frameIndex
  let sockets ← index loop.socketBatches frame.portBatchIndex
  if targets = [] then pure []
  else do
    let input := loop.cycleInput network frame targets sockets
    let middle ← initialPhase input state.sequence
    let last ← confirmationPhase input middle
    let confirmations := last.attempts.drop middle.attempts.length
    pure (middle.tasks.map (loop.observe targets sockets true) ++
      confirmations.map fun attempt => loop.observe targets sockets false attempt.task)

/-- The sends of so many turns in a row, none of which ends the loop. -/
def runProbes (around : Nat → Surroundings) : Nat → LoopState → Except String (List SentProbe)
  | 0, _ => pure []
  | turns + 1, state => do
      let next ← (loop.turn summarize (around turns) state).next
      let probes ← loop.cycleProbes (around turns).network state
      let rest ← runProbes around turns next
      pure (probes ++ rest)

end ProbeLoop

/-- The state after so many turns in a row, none of which ends the loop. -/
def ProbeLoop.stateAfter (summarize : List Nat → RttSummary) (loop : ProbeLoop)
    (around : Nat → Surroundings) : Nat → LoopState → Except String LoopState
  | 0, state => pure state
  | turns + 1, state => do
      let last ← stateAfter summarize loop around turns state
      (loop.turn summarize (around turns) last).next

/-! ## The errors of a cycle -/

/-- The errors with which a network ends a cycle. -/
inductive Network.Raises (network : Network) : String → Prop where
  | send {attempt socket : Nat} {address : String} {payload : List UInt8}
      (fatal : sendOutcome (network.sendTo attempt socket address payload) = none) :
      Raises network "send Pingmesh probe"
  | receive {drain socket : Nat} {error : String}
      (read : .error error ∈ network.receive drain socket) :
      Raises network "receive Pingmesh reply"
  | stale {socket : Nat} {error : String} (read : .error error ∈ network.stale socket) :
      Raises network "drain stale Pingmesh reply"

theorem Network.Raises.ne_outOfBounds {network : Network} {error : String}
    (raised : network.Raises error) : error ≠ "index out of bounds" := by
  cases raised <;> decide

/-- A network that answers everything ends no cycle. -/
theorem Network.Answers.not_raises {network : Network} (answers : network.Answers)
    {error : String} (raised : network.Raises error) : False := by
  cases raised with
  | @send attempt socket address payload fatal =>
      have settled := answers.sends attempt socket address payload
      rw [fatal] at settled
      cases settled
  | receive read =>
      obtain ⟨datagram, same⟩ := answers.receives _ _ _ read
      cases same
  | stale read =>
      obtain ⟨datagram, same⟩ := answers.stales _ _ read
      cases same

section Ranges

variable {input : CycleInput} {cycle : Cycle}

theorem sendProbe_failsOnly {kind : ProbeKind} {target socket : Nat}
    (inRange : target < input.targets.length) (socketInRange : socket < input.sockets) :
    FailsOnly input.network.Raises (sendProbe input kind target socket cycle) := by
  obtain ⟨payload, -, eq⟩ := sendProbe_eq cycle kind inRange socketInRange
  rw [eq, settleSend_eq]
  split
  · exact failsOnly_ok _
  · rename_i fatal
    exact failsOnly_error (.send fatal)

theorem drainReplies_failsOnly : FailsOnly input.network.Raises (drainReplies input cycle) := by
  refine FailsOnly.foldlM (P := fun _ => True) ?_ trivial
  intro before socket _ _
  refine ⟨?_, fun _ _ => trivial⟩
  refine FailsOnly.foldlM (P := fun _ => True) ?_ trivial
  intro state packet mem _
  refine ⟨?_, fun _ _ => trivial⟩
  cases packet with
  | ok packet => exact failsOnly_ok _
  | error message => exact failsOnly_error (.receive mem)

theorem drainSockets_failsOnly : FailsOnly input.network.Raises (drainSockets input) := by
  refine FailsOnly.forM fun socket _ => FailsOnly.forM fun packet mem => ?_
  cases packet with
  | ok packet => exact failsOnly_ok _
  | error message => exact failsOnly_error (.stale mem)

theorem awaitReplies_failsOnly (waits : Nat) :
    FailsOnly input.network.Raises (awaitReplies input waits cycle) := by
  induction waits generalizing cycle with
  | zero => exact failsOnly_ok _
  | succ waits ih =>
      rw [awaitReplies]
      split
      · exact failsOnly_ok _
      · exact drainReplies_failsOnly.bind fun _ _ => ih

theorem initialPhase_failsOnly (valid : input.ValidQueue) (sequence : UInt64) :
    FailsOnly input.network.Raises (initialPhase input sequence) := by
  refine drainSockets_failsOnly.bind fun _ _ => ?_
  refine FailsOnly.bind ?_ fun _ _ => drainReplies_failsOnly.bind fun _ _ => drainReplies_failsOnly
  refine FailsOnly.foldlM (P := fun _ => True) ?_ trivial
  intro before task mem _
  obtain ⟨kind, target, socket⟩ := task
  obtain ⟨targetLt, socketLt⟩ := valid kind target socket mem
  exact ⟨(sendProbe_failsOnly targetLt socketLt).bind fun _ _ => drainReplies_failsOnly,
    fun _ _ => trivial⟩

theorem confirmationPhase_failsOnly (conserved : cycle.Conserved input) :
    FailsOnly input.network.Raises (confirmationPhase input cycle) := by
  refine FailsOnly.bind ?_ fun _ _ =>
    (awaitReplies_failsOnly _).bind fun _ _ => drainReplies_failsOnly
  unfold confirmUnanswered
  split
  · exact failsOnly_ok _
  · refine FailsOnly.foldlM (P := fun _ => True) ?_ trivial
    intro before round _ _
    refine ⟨?_, fun _ _ => trivial⟩
    refine FailsOnly.bind ?_ fun _ _ => drainReplies_failsOnly
    refine FailsOnly.foldlM (P := fun _ => True) ?_ trivial
    intro state unit mem _
    obtain ⟨target, socket⟩ := unit
    obtain ⟨targetLt, socketLt⟩ := unansweredDfTargets_in_range conserved mem
    exact ⟨sendProbe_failsOnly targetLt socketLt, fun _ _ => trivial⟩

/-- A cycle over a valid queue fails only where the network does. -/
theorem runProbeCycle_failsOnly (summarize : List Nat → RttSummary) (valid : input.ValidQueue)
    (sequence : UInt64) :
    FailsOnly input.network.Raises (runProbeCycle summarize input sequence) := by
  refine FailsOnly.bind ?_ fun _ _ => failsOnly_ok _
  refine (initialPhase_failsOnly valid sequence).bind fun middle initial => ?_
  exact confirmationPhase_failsOnly (CycleReach.conserved (initialPhase_reach initial))

end Ranges

/-! ## The prepared loop -/

namespace ProbeLoop

variable {config : ClientAgentConfig} {localClient : AgentClient} {plan : AgentProbePlan}
  {loop : ProbeLoop}

/-- Every port batch has its sockets under the same numbers. -/
theorem socketBatches_eq (done : startLoop config localClient plan.toClientProbePlan = .ok loop) :
    loop.socketBatches = config.pingmeshPlan.portBatches := by
  simp only [startLoop, bind_eq_ok, pure_eq_ok] at done
  obtain ⟨targets, -, socketBatches, batched, frames, -, rfl⟩ := done
  -- a socket is its own number
  have itself : ∀ (i socket : Nat),
      index (List.range config.pingmeshPlan.sourcePorts.length) i = .ok socket → socket = i := by
    intro i socket found
    rw [index_eq_ok] at found
    obtain ⟨below, eq⟩ := List.getElem?_eq_some_iff.mp found
    rw [← eq, List.getElem_range]
  have rows := map_of_mapM (g := id) (h := id) batched fun indices _ sockets picked => by
    have row := map_of_mapM (g := id) (h := id) picked fun i _ socket found =>
      itself i socket found
    simpa using row
  simpa using rows

theorem activeTargets_length
    (done : startLoop config localClient plan.toClientProbePlan = .ok loop) :
    loop.activeTargets.length = plan.frames.length := by
  simp only [startLoop, bind_eq_ok, pure_eq_ok] at done
  obtain ⟨targets, -, socketBatches, -, frames, framed, rfl⟩ := done
  exact (mapM_eq_ok.mp framed).length_eq.symm

/-- An accepted plan can be started. -/
theorem startLoop_of_accepted (configured : config.Accepted)
    (accepted : plan.Accepted config localClient) :
    ∃ loop, startLoop config localClient plan.toClientProbePlan = .ok loop := by
  refine startLoop_total ?_ ?_ ?_
  · intro name mem
    exact (accepted.targets_known name mem).2
  · intro indices mem i memI
    have inFlat : i ∈ config.pingmeshPlan.portBatches.flatten :=
      List.mem_flatten.mpr ⟨indices, mem, memI⟩
    rw [configured.ports_partitioned.mem_iff] at inFlat
    exact List.mem_range.mp inFlat
  · intro frame mem i memI
    exact (accepted.frame_sound frame mem).1.target_lt i memI

/-- What a turn finds under its index. -/
structure AtTurn (loop : ProbeLoop) (state : LoopState) (frame : ProbeFrame)
    (targets : List Target) (sockets : List Nat) : Prop where
  frame_at : loop.plan.frames[state.cycle.toNat % loop.plan.frames.length]? = some frame
  targets_at : loop.activeTargets[state.cycle.toNat % loop.plan.frames.length]? = some targets
  sockets_at : loop.socketBatches[frame.portBatchIndex]? = some sockets

/-- The frame of a turn of an accepted plan. -/
structure Prepared (config : ClientAgentConfig) (plan : AgentProbePlan) (frame : ProbeFrame)
    (targets : List Target) (sockets : List Nat) : Prop where
  mem : frame ∈ plan.frames
  sound : frame.Sound config.pingmeshPlan plan.targets.length
  targets_eq : targets.map (fun target => target.client.name) =
    frameTargets plan.toClientProbePlan frame
  sockets_eq : sockets = config.pingmeshPlan.socketsOf frame

theorem Prepared.length_targets {frame : ProbeFrame} {targets : List Target} {sockets : List Nat}
    (prepared : Prepared config plan frame targets sockets) :
    targets.length = frame.targetIndices.length := by
  have lengths := congrArg List.length prepared.targets_eq
  simpa [frameTargets] using lengths

theorem exists_prepared (accepted : plan.Accepted config localClient)
    (configured : config.Accepted)
    (done : startLoop config localClient plan.toClientProbePlan = .ok loop) (state : LoopState) :
    ∃ frame targets sockets, loop.AtTurn state frame targets sockets ∧
      Prepared config plan frame targets sockets := by
  have started := started_of_ok done
  have batches := socketBatches_eq done
  have planEq : loop.plan = plan.toClientProbePlan := started.plan_eq
  have pos : 0 < plan.frames.length := by
    rw [accepted.frames_length]
    exact Nat.pos_of_ne_zero configured.epoch_pos
  have below := Nat.mod_lt state.cycle.toNat pos
  obtain ⟨frame, frameAt⟩ : ∃ frame,
      plan.frames[state.cycle.toNat % plan.frames.length]? = some frame :=
    ⟨_, List.getElem?_eq_getElem below⟩
  obtain ⟨targets, targetsAt⟩ : ∃ targets,
      loop.activeTargets[state.cycle.toNat % plan.frames.length]? = some targets :=
    ⟨_, List.getElem?_eq_getElem (by rw [activeTargets_length done]; exact below)⟩
  have mem := List.mem_of_getElem? frameAt
  have sound := (accepted.frame_sound frame mem).1
  refine ⟨frame, targets, config.pingmeshPlan.socketsOf frame, ⟨?_, ?_, ?_⟩, mem, sound, ?_, rfl⟩
  · rw [planEq]
    exact frameAt
  · rw [planEq]
    exact targetsAt
  · rw [batches, PlanSettings.socketsOf, List.getD_eq_getElem?_getD,
      List.getElem?_eq_getElem sound.portBatch_lt]
    rfl
  · exact started.targets_eq targetsAt frameAt

theorem Prepared.validQueue {frame : ProbeFrame} {targets : List Target} {sockets : List Nat}
    (prepared : Prepared config plan frame targets sockets) (loop : ProbeLoop)
    (network : Network) :
    (loop.cycleInput network frame targets sockets).ValidQueue := by
  intro kind target socket mem
  have bounds := prepared.sound.probe_lt kind target socket mem
  rw [← prepared.sockets_eq, ← prepared.length_targets] at bounds
  exact bounds

/-- A turn of an accepted plan ends the loop only where the network fails or the queue is full. -/
theorem turn_ends (summarize : List Nat → RttSummary)
    (accepted : plan.Accepted config localClient) (configured : config.Accepted)
    (done : startLoop config localClient plan.toClientProbePlan = .ok loop)
    {around : Surroundings} {state : LoopState} {error : String}
    (ended : (loop.turn summarize around state).next = .error error) :
    around.network.Raises error ∨
      (∃ k, around.room k = false) ∧ error = "Pingmesh metrics queue is full" := by
  obtain ⟨frame, targets, sockets, atTurn, prepared⟩ :=
    exists_prepared accepted configured done state
  have cycleFails :
      FailsOnly around.network.Raises (loop.cycleMetrics summarize around state) := by
    unfold cycleMetrics
    dsimp only
    rw [index_eq_ok.mpr atTurn.frame_at, ok_bind, index_eq_ok.mpr atTurn.targets_at, ok_bind]
    refine FailsOnly.bind ?_ fun _ _ => failsOnly_ok _
    unfold runFrame
    rw [index_eq_ok.mpr atTurn.sockets_at, ok_bind]
    split
    · exact failsOnly_ok _
    · exact runProbeCycle_failsOnly summarize (prepared.validQueue loop around.network)
        state.sequence
  unfold turn at ended
  split at ended
  · rename_i raised failed
    exact .inl (Except.error.inj ended ▸ cycleFails raised failed)
  · dsimp only at ended
    split at ended
    · cases ended
    · rename_i full
      refine .inr ⟨?_, (Except.error.inj ended).symm⟩
      by_contra never
      refine full ?_
      rw [List.takeWhile_eq_self_iff.mpr, List.length_zipIdx]
      intro entry _
      by_contra refused
      exact never ⟨entry.2, Bool.eq_false_iff.mpr refused⟩

/-- While the network answers and the queue has room, the loop goes on. -/
theorem turn_goesOn {summarize : List Nat → RttSummary}
    (accepted : plan.Accepted config localClient) (configured : config.Accepted)
    (done : startLoop config localClient plan.toClientProbePlan = .ok loop)
    {around : Surroundings} (answers : around.network.Answers)
    (room : ∀ k, around.room k = true) (state : LoopState) :
    ∃ next, (loop.turn summarize around state).next = .ok next ∧
      next.cycle = state.cycle + 1 := by
  cases ended : (loop.turn summarize around state).next with
  | ok next => exact ⟨next, rfl, (emitted_of_next ended).1⟩
  | error error =>
      rcases turn_ends summarize accepted configured done ended with raised | ⟨⟨k, full⟩, -⟩
      · exact (answers.not_raises raised).elim
      · rw [room k] at full
        cases full

section GoesOn

variable {summarize : List Nat → RttSummary} (accepted : plan.Accepted config localClient)
  (configured : config.Accepted)
  (done : startLoop config localClient plan.toClientProbePlan = .ok loop)
  {around : Nat → Surroundings} (answers : ∀ turn, (around turn).network.Answers)
  (room : ∀ turn k, (around turn).room k = true)

include accepted configured done answers room

/-- The loop reaches every cycle number. -/
theorem stateAfter_total (turns : Nat) (state : LoopState) :
    ∃ last, loop.stateAfter summarize around turns state = .ok last ∧
      last.cycle = state.cycle + UInt64.ofNat turns := by
  induction turns with
  | zero => exact ⟨state, rfl, by simp⟩
  | succ turns ih =>
      obtain ⟨middle, reached, middleCycle⟩ := ih
      obtain ⟨last, goesOn, lastCycle⟩ :=
        turn_goesOn accepted configured done (answers turns) (room turns) middle
      refine ⟨last, by rw [ProbeLoop.stateAfter, reached, ok_bind, goesOn], ?_⟩
      rw [lastCycle, middleCycle, UInt64.add_assoc, UInt64.ofNat_add]
      rfl

theorem run_total (turns : Nat) (state : LoopState) :
    ∃ metrics, loop.run summarize around turns state = .ok metrics := by
  induction turns generalizing state with
  | zero => exact ⟨[], rfl⟩
  | succ turns ih =>
      obtain ⟨next, goesOn, -⟩ :=
        turn_goesOn accepted configured done (answers turns) (room turns) state
      obtain ⟨rest, later⟩ := ih next
      exact ⟨_, by rw [run, goesOn, ok_bind, later]; rfl⟩

end GoesOn

/-- No turn of an accepted plan runs into an index out of range. -/
theorem turn_inRange (summarize : List Nat → RttSummary)
    (accepted : plan.Accepted config localClient) (configured : config.Accepted)
    (done : startLoop config localClient plan.toClientProbePlan = .ok loop)
    (around : Surroundings) (state : LoopState) :
    (loop.turn summarize around state).next ≠ .error "index out of bounds" := by
  intro ended
  rcases turn_ends summarize accepted configured done ended with raised | full
  · exact raised.ne_outOfBounds rfl
  · exact absurd full.2 (by decide)

/-! ## One cycle -/

/-- What a test of the probes counts in a cycle, when it passes no confirmation. -/
theorem countP_cycleProbes {state : LoopState} {frame : ProbeFrame} {targets : List Target}
    {sockets : List Nat} (atTurn : loop.AtTurn state frame targets sockets)
    (prepared : Prepared config plan frame targets sockets) {network : Network}
    {probes : List SentProbe} (done : loop.cycleProbes network state = .ok probes)
    {test : SentProbe → Bool}
    (initialOnly : ∀ probe, probe.kind = .df → probe.initial = false → test probe = false) :
    probes.countP test = frame.probes.countP (test ∘ loop.observe targets sockets true) := by
  unfold cycleProbes at done
  dsimp only at done
  rw [index_eq_ok.mpr atTurn.frame_at, ok_bind, index_eq_ok.mpr atTurn.targets_at, ok_bind,
    index_eq_ok.mpr atTurn.sockets_at, ok_bind] at done
  by_cases none : targets = []
  · -- without a target there is no task
    rw [if_pos none, pure_eq_ok] at done
    have length := prepared.length_targets
    have empty : frame.probes = [] := by
      refine List.eq_nil_iff_forall_not_mem.mpr fun probe mem => ?_
      have bounds := prepared.sound.probe_lt probe.1 probe.2.1 probe.2.2 mem
      rw [← length, none] at bounds
      exact Nat.not_lt_zero _ bounds.1
    rw [← done, empty]
    rfl
  · rw [if_neg none] at done
    simp only [bind_eq_ok, pure_eq_ok] at done
    obtain ⟨middle, initial, last, confirmed, rfl⟩ := done
    obtain ⟨more, moreEq⟩ := (confirmationPhase_reach confirmed).extends.attempts
    have tasks := confirmationPhase_tasks confirmed
    rw [Cycle.tasks, ← moreEq, List.map_append, ← Cycle.tasks, List.append_cancel_left_eq] at tasks
    have confirmations : ∀ attempt ∈ more, attempt.kind = .df := by
      intro attempt mem
      have task := List.mem_map_of_mem (f := Attempt.task) mem
      rw [tasks] at task
      obtain ⟨round, memRound, inRound⟩ := List.mem_flatten.mp task
      rw [(List.mem_replicate.mp memRound).2] at inRound
      obtain ⟨unit, -, eq⟩ := List.mem_map.mp inRound
      exact (congrArg Prod.fst eq).symm
    rw [← moreEq, List.drop_left, List.countP_append, List.countP_map, initialPhase_tasks initial]
    have silent : (more.map fun attempt =>
        loop.observe targets sockets false attempt.task).countP test = 0 := by
      rw [List.countP_eq_zero]
      intro probe mem
      obtain ⟨attempt, memAttempt, rfl⟩ := List.mem_map.mp mem
      rw [initialOnly _ (confirmations attempt memAttempt) rfl]
      exact Bool.false_ne_true
    rw [silent, Nat.add_zero]
    rfl

/-- The name at the place of a target identifies it. -/
theorem destination_eq_iff (accepted : plan.Accepted config localClient) {frame : ProbeFrame}
    {targets : List Target} {sockets : List Nat}
    (prepared : Prepared config plan frame targets sockets) (loop : ProbeLoop) (initial : Bool)
    {task : ProbeKind × Nat × Nat} (mem : task ∈ frame.probes) {i : Nat}
    (target : i < plan.targets.length) :
    (loop.observe targets sockets initial task).destination = plan.targets[i] ↔
      frame.targetIndices[task.2.1]? = some i := by
  have below := (prepared.sound.probe_lt task.1 task.2.1 task.2.2 mem).1
  have inRange := prepared.sound.target_lt _ (List.getElem_mem below)
  have name : (loop.observe targets sockets initial task).destination =
      plan.targets[frame.targetIndices[task.2.1]] := by
    simp only [observe, prepared.targets_eq, frameTargets]
    rw [List.getD_eq_getElem?_getD, List.getElem?_map, List.getElem?_eq_getElem below]
    simp [List.getD_eq_getElem?_getD, List.getElem?_eq_getElem inRange]
  rw [name, List.getElem?_eq_getElem below, Option.some.injEq]
  exact accepted.targets_nodup.getElem_inj_iff

theorem socket_mem_batches {frame : ProbeFrame} {targets : List Target} {sockets : List Nat}
    (prepared : Prepared config plan frame targets sockets) :
    sockets ∈ config.pingmeshPlan.portBatches := by
  rw [prepared.sockets_eq, PlanSettings.socketsOf,
    List.getD_eq_getElem _ _ prepared.sound.portBatch_lt]
  exact List.getElem_mem _

/-- The port at the place of a socket identifies it. -/
theorem sourcePort_eq_iff (configured : config.Accepted)
    (done : startLoop config localClient plan.toClientProbePlan = .ok loop) {frame : ProbeFrame}
    {targets : List Target} {sockets : List Nat}
    (prepared : Prepared config plan frame targets sockets) (initial : Bool)
    {task : ProbeKind × Nat × Nat} (mem : task ∈ frame.probes) {q : Nat}
    (port : q < config.pingmeshPlan.sourcePorts.length) :
    (loop.observe targets sockets initial task).sourcePort = config.pingmeshPlan.sourcePorts[q] ↔
      sockets[task.2.2]? = some q := by
  have configEq : loop.config = config := (started_of_ok done).config_eq
  have below := (prepared.sound.probe_lt task.1 task.2.1 task.2.2 mem).2
  rw [← prepared.sockets_eq] at below
  have inRange : sockets[task.2.2] < config.pingmeshPlan.sourcePorts.length := by
    have inFlat : sockets[task.2.2] ∈ config.pingmeshPlan.portBatches.flatten :=
      List.mem_flatten.mpr ⟨sockets, socket_mem_batches prepared, List.getElem_mem below⟩
    rw [configured.ports_partitioned.mem_iff] at inFlat
    exact List.mem_range.mp inFlat
  have number : (loop.observe targets sockets initial task).sourcePort =
      config.pingmeshPlan.sourcePorts[sockets[task.2.2]] := by
    simp only [observe, configEq]
    rw [List.getD_eq_getElem _ _ below, List.getD_eq_getElem _ _ inRange]
  rw [number, List.getElem?_eq_getElem below, Option.some.injEq]
  exact configured.ports_nodup.getElem_inj_iff

/-- An RTT probe to a target from a source port. -/
def rttTest (destination : String) (sourcePort : Nat) (probe : SentProbe) : Bool :=
  probe.kind = .rtt ∧ probe.destination = destination ∧ probe.sourcePort = sourcePort

/-- An initial DF probe to a target from one of some source ports. -/
def dfTest (destination : String) (sourcePorts : List Nat) (probe : SentProbe) : Bool :=
  probe.kind = .df ∧ probe.initial = true ∧ probe.destination = destination ∧
    probe.sourcePort ∈ sourcePorts

/-- The source ports of a port batch. -/
def batchPorts (settings : PlanSettings) (portBatch : Nat) : List Nat :=
  (settings.portBatches.getD portBatch []).map fun socket => settings.sourcePorts.getD socket 0

/-- The port batches have no socket in common. -/
theorem portBatch_unique (configured : config.Accepted) {i j : Nat} {socket : Nat}
    (inFirst : socket ∈ config.pingmeshPlan.portBatches.getD i [])
    (inSecond : socket ∈ config.pingmeshPlan.portBatches.getD j []) : i = j := by
  have nodup := configured.ports_partitioned.nodup_iff.mpr List.nodup_range
  rw [List.nodup_flatten] at nodup
  have inRange : ∀ {k : Nat}, socket ∈ config.pingmeshPlan.portBatches.getD k [] →
      k < config.pingmeshPlan.portBatches.length := by
    intro k mem
    by_contra above
    rw [List.getD_eq_default _ _ (Nat.le_of_not_lt above)] at mem
    exact List.not_mem_nil mem
  have iLt := inRange inFirst
  have jLt := inRange inSecond
  rw [List.getD_eq_getElem _ _ iLt] at inFirst
  rw [List.getD_eq_getElem _ _ jLt] at inSecond
  rcases Nat.lt_trichotomy i j with less | same | more
  · exact (List.pairwise_iff_getElem.mp nodup.2 i j iLt jLt less inFirst inSecond).elim
  · exact same
  · exact (List.pairwise_iff_getElem.mp nodup.2 j i jLt iLt more inSecond inFirst).elim

theorem sockets_nodup (configured : config.Accepted) {frame : ProbeFrame} {targets : List Target}
    {sockets : List Nat} (prepared : Prepared config plan frame targets sockets) :
    sockets.Nodup := by
  have nodup := configured.ports_partitioned.nodup_iff.mpr List.nodup_range
  exact (List.nodup_flatten.mp nodup).1 _ (socket_mem_batches prepared)

section Frame

variable (accepted : plan.Accepted config localClient) (configured : config.Accepted)
  (done : startLoop config localClient plan.toClientProbePlan = .ok loop) {frame : ProbeFrame}
  {targets : List Target} {sockets : List Nat}
  (prepared : Prepared config plan frame targets sockets) {i : Nat}
  (target : i < plan.targets.length)

include accepted configured done prepared target

/-- A frame probes an active target once from every port of its batch. -/
theorem countP_rttTest {q : Nat} (port : q < config.pingmeshPlan.sourcePorts.length) :
    frame.probes.countP (rttTest plan.targets[i] config.pingmeshPlan.sourcePorts[q] ∘
        loop.observe targets sockets true) =
      if i ∈ frame.targetIndices ∧ q ∈ sockets then 1 else 0 := by
  have test : ∀ task ∈ frame.probes,
      (rttTest plan.targets[i] config.pingmeshPlan.sourcePorts[q] ∘
        loop.observe targets sockets true) task = true ↔
      task.1 = .rtt ∧ frame.targetIndices[task.2.1]? = some i ∧ sockets[task.2.2]? = some q := by
    intro task mem
    rw [← destination_eq_iff accepted prepared loop true mem target,
      ← sourcePort_eq_iff configured done prepared true mem port]
    exact decide_eq_true_iff
  split
  · rename_i both
    obtain ⟨p, atP⟩ := List.getElem?_of_mem both.1
    obtain ⟨s, atS⟩ := List.getElem?_of_mem both.2
    have pLt := (List.getElem?_eq_some_iff.mp atP).1
    have sLt := (List.getElem?_eq_some_iff.mp atS).1
    rw [← prepared.sound.rtt_once p pLt s (prepared.sockets_eq ▸ sLt), List.count]
    refine List.countP_congr fun task mem => ?_
    rw [test task mem, beq_iff_eq]
    refine ⟨?_, ?_⟩
    · intro ⟨kind, here, there⟩
      have samePlace := (List.getElem?_inj pLt prepared.sound.targets_nodup).mp
        (atP.trans here.symm)
      have sameSocket := (List.getElem?_inj sLt (sockets_nodup configured prepared)).mp
        (atS.trans there.symm)
      rw [samePlace, sameSocket, ← kind]
    · intro same
      rw [same]
      exact ⟨rfl, atP, atS⟩
  · rename_i neither
    rw [List.countP_eq_zero]
    intro task mem passed
    obtain ⟨-, here, there⟩ := (test task mem).mp passed
    exact neither ⟨List.mem_of_getElem? here, List.mem_of_getElem? there⟩

/-- A frame sends an active target one initial DF probe, from a port of its batch. -/
theorem countP_dfTest {b : Nat} (batch : b < config.pingmeshPlan.portBatches.length) :
    frame.probes.countP (dfTest plan.targets[i] (batchPorts config.pingmeshPlan b) ∘
        loop.observe targets sockets true) =
      if i ∈ frame.targetIndices ∧ frame.portBatchIndex = b then 1 else 0 := by
  have test : ∀ task ∈ frame.probes,
      (dfTest plan.targets[i] (batchPorts config.pingmeshPlan b) ∘
        loop.observe targets sockets true) task = true ↔
      task.1 = .df ∧ frame.targetIndices[task.2.1]? = some i ∧ frame.portBatchIndex = b := by
    intro task mem
    have below := (prepared.sound.probe_lt task.1 task.2.1 task.2.2 mem).2
    have inBatch : (loop.observe targets sockets true task).sourcePort ∈
        batchPorts config.pingmeshPlan b ↔ frame.portBatchIndex = b := by
      have own : sockets.getD task.2.2 0 ∈
          config.pingmeshPlan.portBatches.getD frame.portBatchIndex [] := by
        rw [prepared.sockets_eq, List.getD_eq_getElem _ _ below]
        exact List.getElem_mem below
      refine ⟨?_, ?_⟩
      · intro memPorts
        obtain ⟨q, memQ, same⟩ := List.mem_map.mp memPorts
        have inFlat : q ∈ config.pingmeshPlan.portBatches.flatten := by
          rw [List.getD_eq_getElem _ _ batch] at memQ
          exact List.mem_flatten.mpr ⟨_, List.getElem_mem batch, memQ⟩
        rw [configured.ports_partitioned.mem_iff, List.mem_range] at inFlat
        rw [List.getD_eq_getElem _ _ inFlat] at same
        have socket := (sourcePort_eq_iff configured done prepared true mem inFlat).mp same.symm
        have place : sockets.getD task.2.2 0 = q := by
          rw [List.getD_eq_getElem?_getD, socket]
          rfl
        rw [place] at own
        exact portBatch_unique configured own memQ
      · intro same
        refine List.mem_map.mpr ⟨sockets.getD task.2.2 0, same ▸ own, ?_⟩
        rw [observe, (started_of_ok done).config_eq]
    rw [← destination_eq_iff accepted prepared loop true mem target, ← inBatch]
    refine decide_eq_true_iff.trans ?_
    exact ⟨fun ⟨kind, _, rest⟩ => ⟨kind, rest⟩, fun ⟨kind, rest⟩ => ⟨kind, rfl, rest⟩⟩
  split
  · rename_i both
    obtain ⟨p, atP⟩ := List.getElem?_of_mem both.1
    have pLt := (List.getElem?_eq_some_iff.mp atP).1
    rw [← prepared.sound.df_once p pLt]
    refine List.countP_congr fun task mem => ?_
    rw [test task mem, decide_eq_true_iff]
    refine ⟨?_, ?_⟩
    · intro ⟨kind, here, _⟩
      exact ⟨kind, ((List.getElem?_inj pLt prepared.sound.targets_nodup).mp
        (atP.trans here.symm)).symm⟩
    · intro ⟨kind, same⟩
      exact ⟨kind, same ▸ atP, both.2⟩
  · rename_i neither
    rw [List.countP_eq_zero]
    intro task mem passed
    obtain ⟨-, here, batchEq⟩ := (test task mem).mp passed
    exact neither ⟨List.mem_of_getElem? here, batchEq⟩

end Frame

/-! ## The window -/

/-- How often the frame of a cycle covers a target on a port batch. -/
def coverageAt (plan : AgentProbePlan) (unit : Nat × Nat) (k : Nat) : Nat :=
  (plan.frames[k]?).elim 0 fun frame => frame.coverage.count unit

theorem count_coverage {frame : ProbeFrame} (nodup : frame.targetIndices.Nodup) (i b : Nat) :
    frame.coverage.count (i, b) =
      if i ∈ frame.targetIndices ∧ frame.portBatchIndex = b then 1 else 0 := by
  split
  · rename_i both
    refine List.count_eq_one_of_mem (nodup.map fun _ _ same => (Prod.mk.inj same).1) ?_
    exact mem_coverage.mpr both
  · rename_i neither
    exact List.count_eq_zero_of_not_mem fun mem => neither (mem_coverage.mp mem)

/-- Over the frames of an accepted plan every target and port batch is covered once. -/
theorem sum_coverageAt (accepted : plan.Accepted config localClient) {i b : Nat}
    (target : i < plan.targets.length) (batch : b < config.pingmeshPlan.portBatches.length) :
    ((List.range plan.frames.length).map (coverageAt plan (i, b))).sum = 1 := by
  have once := accepted.covers.count_eq (i, b)
  rw [List.count_flatMap, List.count_eq_one_of_mem (List.nodup_range.product List.nodup_range)
    (List.mem_product.mpr ⟨List.mem_range.mpr target, List.mem_range.mpr batch⟩)] at once
  rw [← once]
  congr 1
  refine List.ext_getElem (by simp) ?_
  intro k left right
  rw [List.length_map, List.length_range] at left
  simp [coverageAt, List.getElem?_eq_getElem left]

/-- The frame indices of a window are those of the plan in another order. -/
theorem window_perm {n : Nat} (pos : 0 < n) {cycle : UInt64}
    (straight : cycle.toNat + n ≤ 2 ^ 64 ∨ n ∣ 2 ^ 64) :
    ((List.range n).map fun t => (cycle + UInt64.ofNat t).toNat % n).Perm (List.range n) := by
  have index : ∀ t < n, (cycle + UInt64.ofNat t).toNat % n = (cycle.toNat + t) % n := by
    intro t below
    rw [UInt64.toNat_add, UInt64.toNat_ofNat']
    rcases straight with room | divides
    · have small : t < 2 ^ 64 := by omega
      have whole : cycle.toNat + t < 2 ^ 64 := by omega
      rw [Nat.mod_eq_of_lt small, Nat.mod_eq_of_lt whole]
    · rw [Nat.add_mod_mod, Nat.mod_mod_of_dvd _ divides]
  refine Counting.perm_of_nodup_of_length ?_ ?_ ?_
  · refine List.Nodup.map_on ?_ List.nodup_range
    intro s memS t memT same
    rw [List.mem_range] at memS memT
    rw [index s memS, index t memT] at same
    exact Batches.rotation_injOn memS memT same
  · intro k mem
    obtain ⟨t, -, rfl⟩ := List.mem_map.mp mem
    exact List.mem_range.mpr (Nat.mod_lt _ pos)
  · rw [List.length_map]

/-- What a test counts in a run is the sum over its cycles. -/
theorem countP_runProbes {summarize : List Nat → RttSummary} {around : Nat → Surroundings}
    {test : SentProbe → Bool} {count : Nat → Nat}
    (each : ∀ network state probes, loop.cycleProbes network state = .ok probes →
      probes.countP test = count (state.cycle.toNat % plan.frames.length))
    {turns : Nat} {state : LoopState} {probes : List SentProbe}
    (ran : loop.runProbes summarize around turns state = .ok probes) :
    probes.countP test = ((List.range turns).map fun t =>
      count ((state.cycle + UInt64.ofNat t).toNat % plan.frames.length)).sum := by
  induction turns generalizing state probes with
  | zero =>
      rw [runProbes, pure_eq_ok] at ran
      rw [← ran]
      rfl
  | succ turns ih =>
      simp only [runProbes, bind_eq_ok, pure_eq_ok] at ran
      obtain ⟨next, goesOn, first, sent, rest, later, rfl⟩ := ran
      obtain ⟨nextCycle, -, -⟩ := emitted_of_next goesOn
      have offset (t : Nat) : next.cycle + UInt64.ofNat t = state.cycle + UInt64.ofNat (t + 1) := by
        rw [nextCycle, UInt64.add_assoc, Nat.add_comm t, UInt64.ofNat_add]
        rfl
      rw [List.countP_append, each _ _ _ sent, ih later, List.range_succ_eq_map, List.map_cons,
        List.sum_cons, List.map_map]
      simp only [offset]
      congr 1
      simp

theorem cycleProbes_total {state : LoopState} {metrics : List Metric} {sequence : UInt64}
    {summarize : List Nat → RttSummary} {around : Surroundings}
    (done : loop.cycleMetrics summarize around state = .ok (metrics, sequence)) :
    ∃ probes, loop.cycleProbes around.network state = .ok probes := by
  unfold cycleMetrics at done
  dsimp only at done
  simp only [bind_eq_ok, index_eq_ok, runFrame] at done
  obtain ⟨frame, frameAt, targets, targetsAt, ⟨results, next⟩, ⟨sockets, socketsAt, ran⟩, -⟩ := done
  unfold cycleProbes
  dsimp only
  rw [index_eq_ok.mpr frameAt, ok_bind, index_eq_ok.mpr targetsAt, ok_bind,
    index_eq_ok.mpr socketsAt, ok_bind]
  split
  · exact ⟨_, rfl⟩
  · rename_i some
    rw [if_neg some] at ran
    simp only [runProbeCycle, probeCycle, bind_eq_ok] at ran
    obtain ⟨last, ⟨middle, initial, confirmed⟩, -⟩ := ran
    exact ⟨_, bind_eq_ok.mpr ⟨middle, initial, bind_eq_ok.mpr ⟨last, confirmed, rfl⟩⟩⟩

/-- The turns that the loop completes have sends. -/
theorem runProbes_total {summarize : List Nat → RttSummary} {around : Nat → Surroundings}
    {turns : Nat} {state : LoopState} {metrics : List Metric}
    (ran : loop.run summarize around turns state = .ok metrics) :
    ∃ probes, loop.runProbes summarize around turns state = .ok probes := by
  induction turns generalizing state metrics with
  | zero => exact ⟨_, rfl⟩
  | succ turns ih =>
      simp only [run, bind_eq_ok] at ran
      obtain ⟨next, goesOn, rest, later, -⟩ := ran
      obtain ⟨-, sequence, emitted⟩ := emitted_of_next goesOn
      obtain ⟨first, sent⟩ := cycleProbes_total emitted
      obtain ⟨probes, more⟩ := ih later
      exact ⟨first ++ probes, by rw [runProbes, goesOn, ok_bind, sent, ok_bind, more]; rfl⟩

/-- A frame of an accepted plan uses a socket exactly when its port batch has it. -/
theorem mem_sockets_iff (configured : config.Accepted) {frame : ProbeFrame}
    {targets : List Target} {sockets : List Nat}
    (prepared : Prepared config plan frame targets sockets) {q b : Nat}
    (own : q ∈ config.pingmeshPlan.portBatches.getD b []) :
    q ∈ sockets ↔ frame.portBatchIndex = b := by
  rw [prepared.sockets_eq, PlanSettings.socketsOf]
  refine ⟨fun inFrame => portBatch_unique configured inFrame own, ?_⟩
  intro same
  rw [same]
  exact own

section Run

variable (accepted : plan.Accepted config localClient) (configured : config.Accepted)
  (done : startLoop config localClient plan.toClientProbePlan = .ok loop)
  {summarize : List Nat → RttSummary} {around : Nat → Surroundings} {turns : Nat}
  {state : LoopState} {probes : List SentProbe}
  (ran : loop.runProbes summarize around turns state = .ok probes) {i b : Nat}
  (target : i < plan.targets.length)

include accepted configured done ran

/-- A test that counts the coverage of a target and a port batch in every frame counts it in
every run. -/
theorem countP_runProbes_unit {test : SentProbe → Bool}
    (initialOnly : ∀ probe : SentProbe, probe.kind = .df → probe.initial = false →
      test probe = false)
    (perFrame : ∀ frame targets sockets, Prepared config plan frame targets sockets →
      frame.probes.countP (test ∘ loop.observe targets sockets true) =
        if i ∈ frame.targetIndices ∧ frame.portBatchIndex = b then 1 else 0) :
    probes.countP test = ((List.range turns).map fun t =>
      coverageAt plan (i, b) ((state.cycle + UInt64.ofNat t).toNat % plan.frames.length)).sum := by
  refine countP_runProbes ?_ ran
  intro network state probes cycleDone
  obtain ⟨frame, targets, sockets, atTurn, prepared⟩ :=
    exists_prepared accepted configured done state
  have frameAt := atTurn.frame_at
  rw [(started_of_ok done).plan_eq] at frameAt
  rw [countP_cycleProbes atTurn prepared cycleDone initialOnly,
    perFrame frame targets sockets prepared, coverageAt, frameAt, Option.elim_some,
    count_coverage prepared.sound.targets_nodup]

include target

/-- The RTT probes of a run to a target from a port of a batch. -/
theorem countP_runProbes_rtt {q : Nat} (port : q < config.pingmeshPlan.sourcePorts.length)
    (own : q ∈ config.pingmeshPlan.portBatches.getD b []) :
    probes.countP (rttTest plan.targets[i] config.pingmeshPlan.sourcePorts[q]) =
      ((List.range turns).map fun t => coverageAt plan (i, b)
        ((state.cycle + UInt64.ofNat t).toNat % plan.frames.length)).sum := by
  refine countP_runProbes_unit accepted configured done ran ?_ ?_
  · intro probe isDf _
    simp [rttTest, isDf]
  · intro frame targets sockets prepared
    rw [countP_rttTest accepted configured done prepared target port]
    simp only [mem_sockets_iff configured prepared own]

/-- The initial DF probes of a run to a target from the ports of a batch. -/
theorem countP_runProbes_df (batch : b < config.pingmeshPlan.portBatches.length) :
    probes.countP (dfTest plan.targets[i] (batchPorts config.pingmeshPlan b)) =
      ((List.range turns).map fun t => coverageAt plan (i, b)
        ((state.cycle + UInt64.ofNat t).toNat % plan.frames.length)).sum := by
  refine countP_runProbes_unit accepted configured done ran ?_ ?_
  · intro probe _ late
    simp [dfTest, late]
  · intro frame targets sockets prepared
    exact countP_dfTest accepted configured done prepared target batch

end Run

/-- In a window that the counter does not wrap in, every target and port batch is covered once. -/
theorem sum_window (accepted : plan.Accepted config localClient) (configured : config.Accepted)
    {i b : Nat} (target : i < plan.targets.length)
    (batch : b < config.pingmeshPlan.portBatches.length) {cycle : UInt64}
    (straight : cycle.toNat + plan.frames.length ≤ 2 ^ 64 ∨ plan.frames.length ∣ 2 ^ 64) :
    ((List.range plan.frames.length).map fun t => coverageAt plan (i, b)
      ((cycle + UInt64.ofNat t).toNat % plan.frames.length)).sum = 1 := by
  have pos : 0 < plan.frames.length := by
    rw [accepted.frames_length]
    exact Nat.pos_of_ne_zero configured.epoch_pos
  rw [← sum_coverageAt accepted target batch]
  have perm := (window_perm pos straight).map (coverageAt plan (i, b))
  rw [List.map_map] at perm
  exact perm.sum_nat

end ProbeLoop

open ProbeLoop

/-- A plan that the agent accepts is executed completely, and without an index out of range. -/
theorem probeLoop_complete (config : ClientAgentConfig) (plan : AgentProbePlan)
    (localClient : AgentClient) (configured : config.validate = .ok ())
    (valid : plan.validate config localClient = .ok ()) :
    ∃ loop, startLoop config localClient plan.toClientProbePlan = .ok loop ∧
      (∀ (summarize : List Nat → RttSummary) (around : Surroundings) (state : LoopState),
        (loop.turn summarize around state).next ≠ .error "index out of bounds") ∧
      ∀ (summarize : List Nat → RttSummary) (around : Nat → Surroundings) (state : LoopState)
        (metrics : List Metric),
        loop.run summarize around config.pingmeshPlan.coverageEpochCycles state = .ok metrics →
          state.cycle.toNat + config.pingmeshPlan.coverageEpochCycles ≤ 2 ^ 64 ∨
            config.pingmeshPlan.coverageEpochCycles ∣ 2 ^ 64 →
          ∃ probes, loop.runProbes summarize around config.pingmeshPlan.coverageEpochCycles state =
              .ok probes ∧
            ∀ destination ∈ plan.targets,
              (∀ port ∈ config.pingmeshPlan.sourcePorts,
                probes.countP (rttTest destination port) = 1) ∧
              ∀ b < config.pingmeshPlan.portBatches.length,
                probes.countP (dfTest destination (batchPorts config.pingmeshPlan b)) = 1 := by
  rw [ClientAgentConfig.validate_eq_ok] at configured
  rw [AgentProbePlan.validate_eq_ok] at valid
  obtain ⟨loop, started⟩ := startLoop_of_accepted configured valid
  refine ⟨loop, started, ?_, ?_⟩
  · intro summarize around state
    exact turn_inRange summarize valid configured started around state
  · intro summarize around state metrics ran straight
    obtain ⟨probes, sent⟩ := runProbes_total ran
    refine ⟨probes, sent, ?_⟩
    rw [← valid.frames_length] at sent straight
    intro destination mem
    obtain ⟨i, target, rfl⟩ := List.getElem_of_mem mem
    refine ⟨?_, ?_⟩
    · intro port memPort
      obtain ⟨q, below, rfl⟩ := List.getElem_of_mem memPort
      -- the port batch of the port
      have inFlat : q ∈ config.pingmeshPlan.portBatches.flatten := by
        rw [configured.ports_partitioned.mem_iff, List.mem_range]
        exact below
      obtain ⟨batch, memBatch, inBatch⟩ := List.mem_flatten.mp inFlat
      obtain ⟨b, batchLt, rfl⟩ := List.getElem_of_mem memBatch
      rw [← List.getD_eq_getElem _ [] batchLt] at inBatch
      rw [countP_runProbes_rtt valid configured started sent target below inBatch]
      exact sum_window valid configured target batchLt straight
    · intro b batch
      rw [countP_runProbes_df valid configured started sent target batch]
      exact sum_window valid configured target batch straight

/-! ## A plan of three frames -/

/-- Two clients that probe each other from three ports, one in each cycle. -/
def trioConfig : ClientAgentConfig :=
  { schemaVersion := 2
    topologyId := "trio"
    pingmeshPlan :=
      { planId := "0123456789abcdef0123456789abcdef0123456789abcdef0123456789abcdef"
        sourcePorts := [50000, 50001, 50002]
        portBatches := [[0], [1], [2]]
        destinationBatchSize := 1
        cycleIntervalSeconds := 1
        coverageEpochCycles := 3
        coverageEpochSeconds := 3
        completeWindowSeconds := 3
        dfPayloadSize := 1472 }
    clientPlanSha256 := .ofEntries [("client1", ""), ("client2", "")]
    clients :=
      [⟨"client1", "10.0.1.1", "172.20.20.11", "leaf1", "leaf1"⟩,
        ⟨"client2", "10.0.2.1", "172.20.20.12", "leaf2", "leaf2"⟩] }

def trioClient : AgentClient := ⟨"client1", "10.0.1.1", "172.20.20.11", "leaf1", "leaf1"⟩

def trioPlan : AgentProbePlan :=
  { name := "client1"
    targets := ["client2"]
    startupDelayMs := 0
    frames := (List.range 3).map fun k => ⟨0, k, [0], [(.rtt, 0, 0), (.df, 0, 0)]⟩
    schemaVersion := 2
    planId := trioConfig.pingmeshPlan.planId }

theorem quietNetwork_answers : quietNetwork.Answers where
  sends _ _ _ _ := rfl
  receives _ _ _ mem := by cases mem
  stales _ _ mem := by cases mem

theorem trioConfig_accepted : trioConfig.validate = .ok () := by decide +kernel

theorem trioPlan_accepted : trioPlan.validate trioConfig trioClient = .ok () := by decide +kernel

/-- The first window of the three frames. -/
theorem trioPlan_complete :
    ∃ loop metrics probes, startLoop trioConfig trioClient trioPlan.toClientProbePlan = .ok loop ∧
      loop.run noRtt (fun _ => quietSurroundings) 3 {} = .ok metrics ∧
      loop.runProbes noRtt (fun _ => quietSurroundings) 3 {} = .ok probes ∧
      ∀ port ∈ [50000, 50001, 50002], probes.countP (rttTest "client2" port) = 1 := by
  obtain ⟨loop, started, -, complete⟩ :=
    probeLoop_complete trioConfig trioPlan trioClient trioConfig_accepted trioPlan_accepted
  obtain ⟨metrics, ran⟩ := @run_total _ _ _ loop noRtt
    (AgentProbePlan.validate_eq_ok.mp trioPlan_accepted)
    (ClientAgentConfig.validate_eq_ok.mp trioConfig_accepted) started (fun _ => quietSurroundings)
    (fun _ => quietNetwork_answers) (fun _ _ => rfl) 3 {}
  obtain ⟨probes, sent, counts⟩ := complete noRtt (fun _ => quietSurroundings) {} metrics ran
    (.inl (by decide))
  exact ⟨loop, metrics, probes, started, ran, sent, (counts "client2" (by decide)).1⟩

/-- The window in which the cycle counter wraps repeats the first frame and leaves out the last. -/
theorem trioPlan_wraps :
    trioConfig.validate = .ok () ∧ trioPlan.validate trioConfig trioClient = .ok () ∧
      ∃ loop state metrics probes,
        startLoop trioConfig trioClient trioPlan.toClientProbePlan = .ok loop ∧
        loop.stateAfter noRtt (fun _ => quietSurroundings) (2 ^ 64 - 1) {} = .ok state ∧
        loop.run noRtt (fun _ => quietSurroundings) 3 state = .ok metrics ∧
        loop.runProbes noRtt (fun _ => quietSurroundings) 3 state = .ok probes ∧
        probes.countP (rttTest "client2" 50000) = 2 ∧
        probes.countP (rttTest "client2" 50002) = 0 := by
  refine ⟨trioConfig_accepted, trioPlan_accepted, ?_⟩
  have accepted := AgentProbePlan.validate_eq_ok.mp trioPlan_accepted
  have configured := ClientAgentConfig.validate_eq_ok.mp trioConfig_accepted
  obtain ⟨loop, started⟩ := startLoop_of_accepted configured accepted
  obtain ⟨state, reached, cycle⟩ := @stateAfter_total _ _ _ loop noRtt accepted configured started
    (fun _ => quietSurroundings) (fun _ => quietNetwork_answers) (fun _ _ => rfl) (2 ^ 64 - 1) {}
  obtain ⟨metrics, ran⟩ := @run_total _ _ _ loop noRtt accepted configured started
    (fun _ => quietSurroundings) (fun _ => quietNetwork_answers) (fun _ _ => rfl) 3 state
  obtain ⟨probes, sent⟩ := runProbes_total ran
  refine ⟨loop, state, metrics, probes, started, reached, ran, sent, ?_, ?_⟩
  · have counted := @countP_runProbes_rtt _ _ _ _ accepted configured started _ _ _ _ _ sent 0 0
      (by decide) 0 (by decide) (by decide)
    rw [cycle] at counted
    exact counted.trans (by decide +kernel)
  · have counted := @countP_runProbes_rtt _ _ _ _ accepted configured started _ _ _ _ _ sent 0 2
      (by decide) 2 (by decide) (by decide)
    rw [cycle] at counted
    exact counted.trans (by decide +kernel)

end NetOpsBench
