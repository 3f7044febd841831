import NetOpsBench.Pingmesh.PlannerFrames
import NetOpsBench.Pingmesh.ProbeLoop

/-!
# What the probe loop emits

A finished cycle has one metric for every active target of its frame, under the numbers
of that frame (`cycleMetrics_spec`). A turn that the queue ends has emitted some of them,
a turn that goes on all of them, and a run of turns those of consecutive cycles
(`run_spec`).
-/

namespace NetOpsBench

open Fallible

@[simp] theorem index_eq_ok {α : Type} {xs : List α} {i : Nat} {x : α} :
    index xs i = .ok x ↔ xs[i]? = some x := by
  unfold index
  split
  · rename_i y found
    rw [pure_eq_ok, found, Option.some.injEq]
  · rename_i none
    simp [none]

theorem resolveTarget_eq_ok {config : ClientAgentConfig} {localClient : AgentClient}
    {name : String} {target : Target} (done : resolveTarget config localClient name = .ok target) :
    target.client.name = name ∧ target.client ∈ config.clients := by
  unfold resolveTarget at done
  split at done
  · cases done
  · rename_i client found
    rw [pure_eq_ok] at done
    subst done
    have named := List.find?_some found
    exact ⟨of_decide_eq_true named, List.mem_of_find?_eq_some found⟩

namespace ProbeLoop

/-- What the start of a loop has prepared. -/
structure Started (config : ClientAgentConfig) (localClient : AgentClient)
    (client : ClientProbePlan) (loop : ProbeLoop) : Prop where
  config_eq : loop.config = config
  local_eq : loop.localClient = localClient
  plan_eq : loop.plan = client
  sockets_eq : loop.sockets = config.pingmeshPlan.sourcePorts.length
  batch_length : ∀ {k sockets}, loop.socketBatches[k]? = some sockets →
    sockets.length = (config.pingmeshPlan.portBatches.getD k []).length
  targets_eq : ∀ {k : Nat} {targets : List Target} {frame : ProbeFrame},
    loop.activeTargets[k]? = some targets → client.frames[k]? = some frame →
      targets.map (fun target => target.client.name) = frameTargets client frame
  targets_known : ∀ {k : Nat} {targets : List Target}, loop.activeTargets[k]? = some targets →
    ∀ target ∈ targets, target.client ∈ config.clients

variable {config : ClientAgentConfig} {localClient : AgentClient} {client : ClientProbePlan}
  {loop : ProbeLoop}

theorem started_of_ok (done : startLoop config localClient client = .ok loop) :
    Started config localClient client loop := by
  simp only [startLoop, bind_eq_ok, pure_eq_ok] at done
  obtain ⟨targets, resolved, socketBatches, batched, frames, framed, rfl⟩ := done
  have targetAt : ∀ {i : Nat} {target : Target}, targets[i]? = some target →
      client.targets.getD i "" = target.client.name ∧ target.client ∈ config.clients := by
    intro i target atI
    obtain ⟨name, nameAt, done⟩ := getElem?_of_mapM resolved atI
    obtain ⟨named, known⟩ := resolveTarget_eq_ok done
    exact ⟨by rw [List.getD_eq_getElem?_getD, nameAt, named]; rfl, known⟩
  refine
    { config_eq := rfl, local_eq := rfl, plan_eq := rfl, sockets_eq := List.length_range,
      batch_length := ?_, targets_eq := ?_, targets_known := ?_ }
  · intro k sockets atK
    obtain ⟨indices, indicesAt, picked⟩ := getElem?_of_mapM batched atK
    rw [List.getD_eq_getElem?_getD, indicesAt]
    exact (mapM_eq_ok.mp picked).length_eq.symm
  · intro k active frame atK frameAt
    obtain ⟨frame', frameAt', picked⟩ := getElem?_of_mapM framed atK
    obtain rfl := Option.some.inj (frameAt.symm.trans frameAt')
    exact map_of_mapM picked fun i _ target found => (targetAt (index_eq_ok.mp found)).1.symm
  · intro k active atK target mem
    obtain ⟨frame, -, picked⟩ := getElem?_of_mapM framed atK
    obtain ⟨i, -, found⟩ := (mem_of_mapM picked).mp mem
    exact (targetAt (index_eq_ok.mp found)).2

/-- A loop starts when its targets are in the roster and its indices in range. -/
theorem startLoop_total
    (known : ∀ name ∈ client.targets, name ∈ config.clients.map AgentClient.name)
    (ports : ∀ indices ∈ config.pingmeshPlan.portBatches, ∀ i ∈ indices,
      i < config.pingmeshPlan.sourcePorts.length)
    (inRange : ∀ frame ∈ client.frames, ∀ i ∈ frame.targetIndices, i < client.targets.length) :
    ∃ loop, startLoop config localClient client = .ok loop := by
  obtain ⟨targets, resolved⟩ : ∃ targets,
      client.targets.mapM (resolveTarget config localClient) = .ok targets := by
    refine mapM_total fun name mem => ?_
    obtain ⟨entry, memEntry, named⟩ := List.mem_map.mp (known name mem)
    rcases found : config.clients.find? fun client => client.name = name with _ | entry'
    · have absent := List.find?_eq_none.mp found entry memEntry
      simp [named] at absent
    · exact ⟨_, by rw [resolveTarget, found]; rfl⟩
  obtain ⟨batches, batched⟩ : ∃ batches, (config.pingmeshPlan.portBatches.mapM fun indices =>
      indices.mapM (index (List.range config.pingmeshPlan.sourcePorts.length))) = .ok batches := by
    refine mapM_total fun indices mem => mapM_total fun i memI => ?_
    exact ⟨i, index_eq_ok.mpr (by simp [ports indices mem i memI])⟩
  obtain ⟨frames, framed⟩ : ∃ frames, (client.frames.mapM fun frame =>
      frame.targetIndices.mapM (index targets)) = .ok frames := by
    refine mapM_total fun frame mem => mapM_total fun i memI => ?_
    have below := inRange frame mem i memI
    rw [(mapM_eq_ok.mp resolved).length_eq] at below
    exact ⟨targets[i], index_eq_ok.mpr (List.getElem?_eq_getElem below)⟩
  exact ⟨_, by simp only [startLoop, resolved, ok_bind, batched, framed]; rfl⟩

/-! ## One cycle -/

/-- A metric of a client about one target of a frame, in a cycle. -/
structure Reports (config : ClientAgentConfig) (localClient : AgentClient)
    (client : ClientProbePlan) (frame : ProbeFrame) (cycle : Nat) (metric : Metric) : Prop where
  source : metric.srcName = localClient.name ∧ metric.srcIp = localClient.dataIp
  target : metric.dstName ∈ frameTargets client frame
  address : ∃ entry ∈ config.clients, entry.name = metric.dstName ∧ entry.dataIp = metric.dstIp
  planId : metric.planId = config.pingmeshPlan.planId
  cycle_eq : metric.result.probeCycle = cycle
  destinationBatch : metric.result.destinationBatchIndex = frame.destinationBatchIndex
  portBatch : metric.result.portBatchIndex = frame.portBatchIndex
  portsActive : metric.result.rttPortsActive = (config.pingmeshPlan.socketsOf frame).length
  portsTotal : metric.result.rttPortsTotal = config.pingmeshPlan.sourcePorts.length

variable {summarize : List Nat → RttSummary}

/-- A frame has one result for each of its targets, over the sockets of its batch. -/
theorem runFrame_spec {network : Network} {sequence next : UInt64} {frame : ProbeFrame}
    {targets : List Target} {results : List ProbeResult}
    (done : loop.runFrame summarize network sequence frame targets = .ok (results, next)) :
    results.length = targets.length ∧
      ∃ sockets, loop.socketBatches[frame.portBatchIndex]? = some sockets ∧
        ∀ result ∈ results, result.rttPortsActive = sockets.length := by
  simp only [runFrame, bind_eq_ok, index_eq_ok] at done
  obtain ⟨sockets, atPort, done⟩ := done
  split at done
  · rename_i empty
    rw [pure_eq_ok, Prod.mk.injEq] at done
    obtain ⟨rfl, rfl⟩ := done
    exact ⟨by simp [empty], sockets, atPort, by simp⟩
  · simp only [runProbeCycle, bind_eq_ok, pure_eq_ok, Prod.mk.injEq] at done
    obtain ⟨cycle, -, rfl, -⟩ := done
    refine ⟨by simp [Cycle.results], sockets, atPort, fun result mem => ?_⟩
    obtain ⟨i, -, rfl⟩ := List.mem_map.mp mem
    rfl

theorem mem_metrics {clock : Nat → Nat} {cycle : UInt64} {frame : ProbeFrame}
    {targets : List Target} {results : List ProbeResult} {metric : Metric}
    (mem : metric ∈ loop.metrics clock cycle frame targets results) :
    ∃ target ∈ targets, ∃ result ∈ results, ∃ timestamp,
      metric = metricLine loop.config.topologyId loop.config.pingmeshPlan.planId loop.localClient
        target (loop.label cycle frame result) timestamp := by
  obtain ⟨⟨⟨target, result⟩, k⟩, memEntry, rfl⟩ := List.mem_map.mp mem
  have memPair := (List.mem_zipIdx' memEntry).2 ▸ List.getElem_mem _
  obtain ⟨memTarget, memResult⟩ := List.of_mem_zip memPair
  exact ⟨target, memTarget, result, memResult, clock k, rfl⟩

/-- The metrics name the targets in their order. -/
theorem map_dstName_metrics {clock : Nat → Nat} {cycle : UInt64} {frame : ProbeFrame}
    {targets : List Target} {results : List ProbeResult}
    (lengths : results.length = targets.length) :
    (loop.metrics clock cycle frame targets results).map Metric.dstName =
      targets.map fun target => target.client.name := by
  have first : (targets.zip results).map Prod.fst = targets :=
    List.map_fst_zip (Nat.le_of_eq lengths.symm)
  have plain : ((targets.zip results).zipIdx.map Prod.fst) = targets.zip results :=
    List.zipIdx_map_fst 0 _
  calc (loop.metrics clock cycle frame targets results).map Metric.dstName
      = ((targets.zip results).zipIdx.map Prod.fst).map fun pair => pair.1.client.name := by
        rw [metrics, List.map_map, List.map_map]
        rfl
    _ = ((targets.zip results).map Prod.fst).map fun target => target.client.name := by
        rw [plain, List.map_map]
        rfl
    _ = targets.map fun target => target.client.name := by rw [first]

/-- A finished cycle reports every target of its frame once, and nothing else. -/
theorem cycleMetrics_spec (started : Started config localClient client loop)
    {around : Surroundings} {state : LoopState} {metrics : List Metric} {sequence : UInt64}
    (done : loop.cycleMetrics summarize around state = .ok (metrics, sequence)) :
    ∃ frame, client.frames[state.cycle.toNat % client.frames.length]? = some frame ∧
      metrics.map Metric.dstName = frameTargets client frame ∧
      ∀ metric ∈ metrics,
        Reports config localClient client frame state.cycle.toNat metric := by
  simp only [cycleMetrics, bind_eq_ok, index_eq_ok, pure_eq_ok, Prod.exists, Prod.mk.injEq,
    started.plan_eq] at done
  obtain ⟨frame, frameAt, targets, targetsAt, results, next, ran, rfl, -⟩ := done
  obtain ⟨lengths, sockets, atPort, active⟩ := runFrame_spec ran
  have names := started.targets_eq targetsAt frameAt
  refine ⟨frame, frameAt, (map_dstName_metrics lengths).trans names, fun metric mem => ?_⟩
  obtain ⟨target, memTarget, result, memResult, timestamp, rfl⟩ := mem_metrics mem
  have listed := List.mem_map_of_mem (f := fun target : Target => target.client.name) memTarget
  rw [names] at listed
  have sockets_eq := (active result memResult).trans (started.batch_length atPort)
  exact
    { source := by rw [← started.local_eq]; exact ⟨rfl, rfl⟩
      target := listed
      address := ⟨target.client, started.targets_known targetsAt target memTarget, rfl, rfl⟩
      planId := by rw [← started.config_eq]; rfl
      cycle_eq := rfl
      destinationBatch := rfl
      portBatch := rfl
      portsActive := sockets_eq
      portsTotal := started.sockets_eq }

/-! ## Turns and runs -/

/-- What a turn emits belongs to its cycle. -/
theorem mem_emitted {around : Surroundings} {state : LoopState} {metric : Metric}
    (mem : metric ∈ (loop.turn summarize around state).emitted) :
    ∃ metrics sequence, loop.cycleMetrics summarize around state = .ok (metrics, sequence) ∧
      metric ∈ metrics := by
  unfold turn at mem
  split at mem
  · cases mem
  · rename_i metrics sequence done
    obtain ⟨⟨metric', k⟩, memEntry, rfl⟩ := List.mem_map.mp mem
    have memAll := (List.takeWhile_sublist _).subset memEntry
    exact ⟨metrics, sequence, done, (List.mem_zipIdx' memAll).2 ▸ List.getElem_mem _⟩

/-- A turn that goes on has emitted all metrics of its cycle. -/
theorem emitted_of_next {around : Surroundings} {state next : LoopState}
    (goesOn : (loop.turn summarize around state).next = .ok next) :
    next.cycle = state.cycle + 1 ∧ ∃ sequence,
      loop.cycleMetrics summarize around state =
        .ok ((loop.turn summarize around state).emitted, sequence) := by
  unfold turn at goesOn ⊢
  split at goesOn
  · cases goesOn
  · rename_i metrics sequence done
    simp only [done]
    dsimp only at goesOn
    split at goesOn
    · rename_i all
      cases goesOn
      refine ⟨rfl, sequence, ?_⟩
      have whole := (List.takeWhile_prefix (fun entry : Metric × Nat => around.room entry.2)).eq_of_length
        (all.trans List.length_zipIdx.symm)
      rw [whole, List.zipIdx_map_fst]
    · cases goesOn

/-- The metrics of a run are those of consecutive cycles, as long as the counter does not
wrap. -/
theorem run_spec (started : Started config localClient client loop)
    {around : Nat → Surroundings} {turns : Nat} {state : LoopState} {metrics : List Metric}
    (done : loop.run summarize around turns state = .ok metrics)
    (noWrap : state.cycle.toNat + turns < 2 ^ 64) :
    (∀ metric ∈ metrics, ∃ k < turns, ∃ frame,
      client.frames[(state.cycle.toNat + k) % client.frames.length]? = some frame ∧
        Reports config localClient client frame (state.cycle.toNat + k) metric) ∧
      ∀ k < turns, ∃ frame,
        client.frames[(state.cycle.toNat + k) % client.frames.length]? = some frame ∧
          ∀ name ∈ frameTargets client frame, ∃ metric ∈ metrics, metric.dstName = name ∧
            Reports config localClient client frame (state.cycle.toNat + k) metric := by
  induction turns generalizing state metrics with
  | zero =>
      rw [run, pure_eq_ok] at done
      subst done
      exact ⟨by simp, by simp⟩
  | succ turns ih =>
      simp only [run, bind_eq_ok, pure_eq_ok] at done
      obtain ⟨next, goesOn, rest, ran, rfl⟩ := done
      obtain ⟨nextCycle, sequence, emitted⟩ := emitted_of_next goesOn
      obtain ⟨frame, frameAt, names, reports⟩ := cycleMetrics_spec started emitted
      have later : next.cycle.toNat = state.cycle.toNat + 1 := by
        rw [nextCycle, UInt64.toNat_add]
        exact Nat.mod_eq_of_lt (by simpa using by omega)
      obtain ⟨sound, complete⟩ := ih ran (by omega)
      simp only [later, Nat.add_assoc, Nat.add_comm 1] at sound complete
      constructor
      · intro metric mem
        rcases List.mem_append.mp mem with now | then_
        · exact ⟨0, by omega, frame, frameAt, reports metric now⟩
        · obtain ⟨k, below, frame', rest⟩ := sound metric then_
          exact ⟨k + 1, by omega, frame', rest⟩
      · intro k below
        cases k with
        | zero =>
            refine ⟨frame, frameAt, fun name mem => ?_⟩
            rw [← names] at mem
            obtain ⟨metric, memMetric, named⟩ := List.mem_map.mp mem
            exact ⟨metric, by simp [memMetric], named, reports metric memMetric⟩
        | succ k =>
            obtain ⟨frame', frameAt', all⟩ := complete k (by omega)
            refine ⟨frame', frameAt', fun name mem => ?_⟩
            obtain ⟨metric, memMetric, rest⟩ := all name mem
            exact ⟨metric, by simp [memMetric], rest⟩

end ProbeLoop

end NetOpsBench
