import NetOpsBench.ClientAgent.TrafficRuntime

/-!
# What the status of the traffic process says

`TrafficProcess.Consistent` ties the status, the plan, the listeners and the scheduler together.
Each request is read by how it ends, and each write of the scheduler by what it changes; every
run keeps the invariant (`traffic_runtime_consistent`).
-/

namespace NetOpsBench

open Fallible Program

/-! ## How requests end -/

namespace TrafficRuntime

/-- The process without a plan. -/
def cleared (now : UInt64) : TrafficRuntime := { status := { heartbeatUnixNs := now } }

/-- The process with a plan that has just been loaded. -/
def loadedWith (runtime : TrafficRuntime) (payload : LoadPayload) : TrafficRuntime :=
  { status :=
      { runtime.status with
        generation := payload.generation
        planDigest := payload.planDigest
        enabled := false
        expectedFlows := payload.plan.flows.length
        activeFlows := 0
        expectedListeners := payload.plan.listeners.length
        activeListeners := payload.plan.listeners.length
        ready := true
        lastError := none }
    plan := some payload.plan
    listenerTasks := payload.plan.listeners }

def disabled (runtime : TrafficRuntime) : TrafficRuntime :=
  { runtime with
    senderTask := none
    status :=
      { runtime.status with
        enabled := false
        activeFlows := 0
        ready := runtime.status.activeListeners == runtime.status.expectedListeners } }

theorem bindListeners_eq_ok {bind : Nat → Except String Unit} {index : Nat}
    {listeners handles : List ListenerPlan}
    (bound : bindListeners bind index listeners = .ok handles) : handles = listeners := by
  induction listeners generalizing index handles with
  | nil => exact (Except.ok.inj bound).symm
  | cons listener listeners ih =>
      obtain ⟨_, -, rest⟩ := bind_eq_ok.mp bound
      obtain ⟨others, isOthers, last⟩ := bind_eq_ok.mp rest
      obtain rfl := pure_eq_ok _ _ |>.mp last
      rw [ih isOthers]

/-- Binds that succeed bind all listeners. -/
theorem bindListeners_ok (index : Nat) (listeners : List ListenerPlan) :
    bindListeners (fun _ => .ok ()) index listeners = .ok listeners := by
  induction listeners generalizing index with
  | nil => rfl
  | cons listener listeners ih => rw [bindListeners, ok_bind, ih, ok_bind]; rfl

/-- A load is refused and changes nothing, or fails to bind and clears the process, or succeeds. -/
theorem load_cases (script : RequestScript) (payload : LoadPayload) (runtime : TrafficRuntime) :
    (∃ text, (payload.generation = 0 ∨ payload.planDigest = "" ∨
        payload.plan.digest ≠ payload.planDigest) ∧
      outcome (load script payload) runtime = (.error (.message text), runtime)) ∨
    (∃ error, bindListeners script.bind 0 payload.plan.listeners = .error error ∧
      payload.plan.digest = payload.planDigest ∧
      outcome (load script payload) runtime = (.error (.unbound error), cleared script.now)) ∨
    (payload.plan.digest = payload.planDigest ∧
      outcome (load script payload) runtime = (.ok (), runtime.loadedWith payload)) := by
  unfold load
  by_cases required : payload.generation = 0 ∨ payload.planDigest = ""
  · rw [reject, if_pos required]
    exact .inl ⟨_, required.imp_right .inl, rfl⟩
  · rw [reject, if_neg required]
    by_cases mismatch : payload.plan.digest ≠ payload.planDigest
    · rw [reject, if_pos mismatch]
      exact .inl ⟨_, .inr (.inr mismatch), rfl⟩
    · rw [reject, if_neg mismatch]
      have same := not_not.mp mismatch
      cases bound : bindListeners script.bind 0 payload.plan.listeners with
      | error error => exact .inr (.inl ⟨error, rfl, same, rfl⟩)
      | ok handles =>
          obtain rfl := bindListeners_eq_ok bound
          refine .inr (.inr ⟨same, ?_⟩)
          have all : (payload.plan.listeners.length == payload.plan.listeners.length) = true :=
            beq_self_eq_true _
          unfold loadedWith
          rw [← all]
          rfl

/-- The process that starts to send. -/
def sending (runtime : TrafficRuntime) (script : RequestScript) (plan : ClientTrafficPlan) :
    TrafficRuntime :=
  { runtime with
    status := { runtime.status with enabled := true, ready := false, activeFlows := 0 }
    senderTask := some { flows := plan.flows.map fun flow => .new flow script.instant } }

/-- The process with a plan without flows. -/
def enabledEmpty (runtime : TrafficRuntime) : TrafficRuntime :=
  { runtime with
    status :=
      { runtime.status with
        enabled := true
        activeFlows := 0
        ready := runtime.status.activeListeners == runtime.status.expectedListeners } }

/-- An answer of `enable` leaves the process as it was, unless it has a plan and no scheduler. -/
theorem enable_cases (script : RequestScript) (payload : GenerationPayload)
    (runtime : TrafficRuntime) :
    (outcome (enable script payload) runtime).2 = runtime ∨
    ∃ plan, runtime.senderTask = none ∧ runtime.plan = some plan ∧
      (outcome (enable script payload) runtime).2 =
        if plan.flows.isEmpty then runtime.enabledEmpty else runtime.sending script plan := by
  unfold enable validateGeneration
  rw [bind_assoc, outcome_bind_ok (outcome_get runtime)]
  by_cases mismatch : runtime.status.generation ≠ payload.generation ∨
      runtime.status.planDigest ≠ payload.planDigest
  · rw [reject, if_pos mismatch]
    exact .inl rfl
  · rw [reject, if_neg mismatch, outcome_bind_ok (outcome_ofExcept _ _),
      outcome_bind_ok (outcome_get runtime)]
    cases sender : runtime.senderTask with
    | some scheduler => exact .inl rfl
    | none =>
        cases loaded : runtime.plan with
        | none => exact .inl rfl
        | some plan =>
            refine .inr ⟨plan, rfl, rfl, ?_⟩
            dsimp only
            by_cases empty : plan.flows.isEmpty = true
            · rw [startSender, if_pos empty, if_pos empty]
              rfl
            · rw [startSender, if_neg empty, if_neg empty]
              rfl

/-- A request to disable is refused, or stops the scheduler. -/
theorem disable_cases (payload : GenerationPayload) (runtime : TrafficRuntime) :
    (outcome (validateGeneration payload >>= fun _ => disable) runtime).2 = runtime ∨
      (outcome (validateGeneration payload >>= fun _ => disable) runtime).2 = runtime.disabled := by
  unfold validateGeneration
  rw [bind_assoc, outcome_bind_ok (outcome_get runtime)]
  by_cases mismatch : runtime.status.generation ≠ payload.generation ∨
      runtime.status.planDigest ≠ payload.planDigest
  · rw [reject, if_pos mismatch]
    exact .inl rfl
  · rw [reject, if_neg mismatch]
    exact .inr rfl

end TrafficRuntime

/-! ## The invariant -/

/-- The flows of a scheduler that are marked active. -/
def TrafficScheduler.activeCount (scheduler : TrafficScheduler) : Nat :=
  scheduler.flows.countP ScheduledFlow.active

/-- The flows that a plan asks for. -/
def LoadPayload.flowPlans (payload : Option LoadPayload) : List FlowPlan :=
  (payload.map fun payload => payload.plan.flows).getD []

def LoadPayload.listenerPlans (payload : Option LoadPayload) : List ListenerPlan :=
  (payload.map fun payload => payload.plan.listeners).getD []

/-- What the status, the plan, the listeners and the scheduler owe to the load in force. -/
structure TrafficRuntime.Consistent (runtime : TrafficRuntime) (loaded : Option LoadPayload) :
    Prop where
  plan : runtime.plan = loaded.map LoadPayload.plan
  generation : ∀ payload : LoadPayload, loaded = some payload →
    runtime.status.generation = payload.generation ∧
      runtime.status.planDigest = payload.planDigest ∧ payload.plan.digest = payload.planDigest
  expectedFlows : runtime.status.expectedFlows = (LoadPayload.flowPlans loaded).length
  expectedListeners : runtime.status.expectedListeners = (LoadPayload.listenerPlans loaded).length
  listenerTasks : runtime.listenerTasks = LoadPayload.listenerPlans loaded
  activeListeners : runtime.status.activeListeners = runtime.listenerTasks.length
  sender : ∀ scheduler : TrafficScheduler, runtime.senderTask = some scheduler →
    loaded.isSome = true ∧ runtime.status.enabled = true ∧
      scheduler.flows.map ScheduledFlow.plan = LoadPayload.flowPlans loaded
  activeFlows : runtime.status.activeFlows =
    (runtime.senderTask.map TrafficScheduler.activeCount).getD 0
  idle : runtime.status.enabled = true → runtime.senderTask = none →
    runtime.status.expectedFlows = 0
  unloaded : loaded = none → runtime.status.enabled = false
  ready : runtime.status.ready = true →
    runtime.status.activeListeners = runtime.status.expectedListeners ∧
      (runtime.status.enabled = true →
        runtime.status.activeFlows = runtime.status.expectedFlows)

namespace TrafficRuntime

variable {runtime : TrafficRuntime} {loaded : Option LoadPayload}

theorem consistent_cleared (now : UInt64) : (cleared now).Consistent none :=
  { plan := rfl
    generation := nofun
    expectedFlows := rfl
    expectedListeners := rfl
    listenerTasks := rfl
    activeListeners := rfl
    sender := nofun
    activeFlows := rfl
    idle := nofun
    unloaded := fun _ => rfl
    ready := nofun }

theorem consistent_loadedWith (runtime : TrafficRuntime) {payload : LoadPayload}
    (digest : payload.plan.digest = payload.planDigest) :
    (runtime.loadedWith payload).Consistent (some payload) :=
  { plan := rfl
    generation := by
      intro other same
      obtain rfl := Option.some.inj same
      exact ⟨rfl, rfl, digest⟩
    expectedFlows := rfl
    expectedListeners := rfl
    listenerTasks := rfl
    activeListeners := rfl
    sender := nofun
    activeFlows := rfl
    idle := nofun
    unloaded := nofun
    ready := fun _ => ⟨rfl, nofun⟩ }

theorem Consistent.disabled (consistent : runtime.Consistent loaded) :
    runtime.disabled.Consistent loaded :=
  { consistent with
    sender := nofun
    activeFlows := rfl
    idle := nofun
    unloaded := fun _ => rfl
    ready := fun ready => ⟨eq_of_beq ready, nofun⟩ }

/-- A new scheduler has no active flow yet. -/
theorem activeCount_new (flows : List FlowPlan) (now : Nat) :
    TrafficScheduler.activeCount { flows := flows.map fun flow => .new flow now } = 0 := by
  unfold TrafficScheduler.activeCount
  rw [List.countP_eq_zero]
  intro flow mem
  obtain ⟨plan, -, rfl⟩ := List.mem_map.mp mem
  exact Bool.false_ne_true

theorem Consistent.sending (consistent : runtime.Consistent loaded) (script : RequestScript)
    {plan : ClientTrafficPlan} (isPlan : runtime.plan = some plan) :
    (runtime.sending script plan).Consistent loaded := by
  obtain ⟨payload, isLoaded, rfl⟩ := Option.map_eq_some_iff.mp (consistent.plan.symm.trans isPlan)
  refine { consistent with
    sender := ?_, activeFlows := ?_, idle := nofun, unloaded := ?_, ready := nofun }
  · intro scheduler same
    obtain rfl := Option.some.inj same
    refine ⟨by rw [isLoaded]; rfl, rfl, ?_⟩
    rw [isLoaded, List.map_map]
    exact List.map_id _
  · exact (activeCount_new payload.plan.flows script.instant).symm
  · intro unloaded
    exact nomatch unloaded.symm.trans isLoaded

theorem Consistent.enabledEmpty (consistent : runtime.Consistent loaded)
    (noSender : runtime.senderTask = none) {plan : ClientTrafficPlan}
    (isPlan : runtime.plan = some plan) (empty : plan.flows.isEmpty = true) :
    runtime.enabledEmpty.Consistent loaded := by
  obtain ⟨payload, isLoaded, rfl⟩ := Option.map_eq_some_iff.mp (consistent.plan.symm.trans isPlan)
  have none_ : runtime.status.expectedFlows = 0 := by
    rw [consistent.expectedFlows, isLoaded]
    exact List.length_eq_zero_iff.mpr (List.isEmpty_iff.mp empty)
  refine { consistent with
    sender := ?_, activeFlows := ?_, idle := ?_, unloaded := ?_, ready := ?_ }
  · intro scheduler same
    exact nomatch noSender.symm.trans same
  · change 0 = (runtime.senderTask.map TrafficScheduler.activeCount).getD 0
    rw [noSender]
    rfl
  · exact fun _ _ => none_
  · intro unloaded
    exact nomatch unloaded.symm.trans isLoaded
  · exact fun ready => ⟨eq_of_beq ready, fun _ => none_.symm⟩

theorem Consistent.load (consistent : runtime.Consistent loaded) (script : RequestScript)
    (payload : LoadPayload) :
    (outcome (TrafficRuntime.load script payload) runtime).2.Consistent
      (TrafficProcess.loadedBy loaded payload
        (outcome (TrafficRuntime.load script payload) runtime).1) := by
  rcases load_cases script payload runtime with ⟨text, -, ended⟩ | ⟨error, -, -, ended⟩ | ⟨digest, ended⟩
  · rw [ended]
    exact consistent
  · rw [ended]
    exact consistent_cleared script.now
  · rw [ended]
    exact consistent_loadedWith runtime digest

theorem Consistent.enable (consistent : runtime.Consistent loaded) (script : RequestScript)
    (payload : GenerationPayload) :
    (outcome (TrafficRuntime.enable script payload) runtime).2.Consistent loaded := by
  rcases enable_cases script payload runtime with same | ⟨plan, noSender, isPlan, after⟩
  · rw [same]
    exact consistent
  · rw [after]
    split
    · rename_i empty
      exact consistent.enabledEmpty noSender isPlan empty
    · exact consistent.sending script isPlan

/-- Whatever a request is and however it ends, the process is consistent with the load that is in
force afterwards. -/
theorem Consistent.handleRequest (consistent : runtime.Consistent loaded) (script : RequestScript)
    (op : String) (payload : Json) :
    (outcome (TrafficRuntime.handleRequest script op payload) runtime).2.Consistent
      (TrafficProcess.loadedAfter loaded op payload
        (outcome (TrafficRuntime.handleRequest script op payload) runtime).1) := by
  unfold TrafficRuntime.handleRequest TrafficProcess.loadedAfter
  by_cases isLoad : op = "load_plan"
  · rw [if_pos isLoad, if_pos isLoad]
    cases LoadPayload.deserialize payload with
    | none => exact consistent
    | some request => exact consistent.load script request
  · rw [if_neg isLoad, if_neg isLoad]
    by_cases isReset : op = "reset"
    · subst isReset
      exact consistent_cleared script.now
    · rw [if_neg isReset, if_neg isReset]
      by_cases isEnable : op = "enable"
      · rw [if_pos isEnable]
        cases GenerationPayload.deserialize payload with
        | none => exact consistent
        | some request => exact consistent.enable script request
      · rw [if_neg isEnable]
        by_cases isDisable : op = "disable"
        · rw [if_pos isDisable]
          cases GenerationPayload.deserialize payload with
          | none => exact consistent
          | some request =>
              change (outcome (validateGeneration request >>= fun _ => disable)
                runtime).2.Consistent loaded
              rcases disable_cases request runtime with same | after
              · rw [same]
                exact consistent
              · rw [after]
                exact consistent.disabled
        · rw [if_neg isDisable]
          split
          · exact consistent
          · exact consistent

end TrafficRuntime

/-! ## The writes of the scheduler -/

/-- Marking one flow changes the count of active flows by what its flag changes. -/
theorem countP_set_active {flows : List ScheduledFlow} {index : Nat} {flow : ScheduledFlow}
    (at_ : flows[index]? = some flow) (value : Bool) :
    (flows.set index { flow with active := value }).countP ScheduledFlow.active +
        flow.active.toNat =
      flows.countP ScheduledFlow.active + value.toNat := by
  induction flows generalizing index with
  | nil => cases at_
  | cons first flows ih =>
      cases index with
      | zero =>
          obtain rfl := Option.some.inj at_
          rw [List.set_cons_zero, List.countP_cons, List.countP_cons]
          cases first.active <;> cases value <;> simp
      | succ index =>
          rw [List.set_cons_succ, List.countP_cons, List.countP_cons]
          have := ih at_
          omega

theorem map_plan_set_active {flows : List ScheduledFlow} {index : Nat} {flow : ScheduledFlow}
    (at_ : flows[index]? = some flow) (value : Bool) :
    (flows.set index { flow with active := value }).map ScheduledFlow.plan =
      flows.map ScheduledFlow.plan := by
  rw [List.map_set]
  refine List.ext_getElem? fun place => ?_
  rw [List.getElem?_set]
  split
  · rename_i same
    subst same
    rw [List.getElem?_map, at_, List.length_map, if_pos (List.getElem?_eq_some_iff.mp at_).1]
    rfl
  · rfl

namespace TrafficRuntime

variable {runtime : TrafficRuntime} {loaded : Option LoadPayload}

/-- A write that leaves the flags and the counts alone. -/
theorem Consistent.written (consistent : runtime.Consistent loaded) {scheduler : TrafficScheduler}
    (running : runtime.senderTask = some scheduler) (f : AgentStatus → AgentStatus)
    (calls : List StatusCall)
    (same : ∀ status, f status =
      { f status with
        ready := status.ready
        enabled := status.enabled
        generation := status.generation
        planDigest := status.planDigest
        expectedFlows := status.expectedFlows
        activeFlows := status.activeFlows
        expectedListeners := status.expectedListeners
        activeListeners := status.activeListeners }) :
    ({ runtime with
      status := f runtime.status
      senderTask := some { flows := scheduler.flows, calls } } : TrafficRuntime).Consistent
        loaded := by
  rw [same runtime.status]
  refine { consistent with sender := ?_, activeFlows := ?_, idle := nofun }
  · intro other isOther
    obtain rfl := Option.some.inj isOther
    exact consistent.sender scheduler running
  · have active := consistent.activeFlows
    rw [running] at active
    exact active

/-- A flow that goes up or down is counted. -/
theorem Consistent.setFlowActive (consistent : runtime.Consistent loaded)
    {scheduler : TrafficScheduler} (running : runtime.senderTask = some scheduler) {index : Nat}
    {flow : ScheduledFlow} (at_ : scheduler.flows[index]? = some flow) (value : Bool)
    (calls : List StatusCall) :
    ({ runtime with
      status := (NetOpsBench.setFlowActive runtime.status flow.active value).2
      senderTask :=
        some
          { flows :=
              scheduler.flows.set index
                { flow with
                  active := (NetOpsBench.setFlowActive runtime.status flow.active value).1 }
            calls } } : TrafficRuntime).Consistent loaded := by
  have active := consistent.activeFlows
  rw [running] at active
  change runtime.status.activeFlows = scheduler.activeCount at active
  have counted := countP_set_active at_ value
  obtain ⟨isLoaded, enabled, plans⟩ := consistent.sender scheduler running
  unfold NetOpsBench.setFlowActive
  by_cases unchanged : flow.active = value
  · rw [if_pos unchanged]
    refine { consistent with sender := ?_, activeFlows := ?_, idle := nofun }
    · intro other isOther
      obtain rfl := Option.some.inj isOther
      exact ⟨isLoaded, enabled, (map_plan_set_active at_ _).trans plans⟩
    · change runtime.status.activeFlows = List.countP _ _
      rw [active, TrafficScheduler.activeCount]
      rw [← unchanged] at counted
      exact (Nat.add_right_cancel counted).symm
  · rw [if_neg unchanged]
    refine { consistent with sender := ?_, activeFlows := ?_, idle := nofun, ready := ?_ }
    · intro other isOther
      obtain rfl := Option.some.inj isOther
      exact ⟨isLoaded, enabled, (map_plan_set_active at_ _).trans plans⟩
    · change (if value = true then runtime.status.activeFlows + 1
        else runtime.status.activeFlows - 1) =
          (scheduler.flows.set index { flow with active := value }).countP ScheduledFlow.active
      rw [active, TrafficScheduler.activeCount]
      cases value with
      | true =>
          rw [Bool.not_eq_true] at unchanged
          rw [unchanged] at counted
          exact counted.symm
      | false =>
          rw [Bool.not_eq_false] at unchanged
          rw [unchanged, Bool.toNat_true, Bool.toNat_false] at counted
          rw [if_neg Bool.false_ne_true]
          omega
    · intro ready
      obtain ⟨listeners, flows⟩ := Bool.and_eq_true_iff.mp ready
      refine ⟨eq_of_beq listeners, fun isEnabled => ?_⟩
      rcases Bool.or_eq_true_iff.mp flows with off | all
      · change runtime.status.enabled = true at isEnabled
        rw [isEnabled] at off
        cases off
      · exact eq_of_beq all

theorem Consistent.perform (consistent : runtime.Consistent loaded) {scheduler : TrafficScheduler}
    (running : runtime.senderTask = some scheduler) (call : StatusCall) (calls : List StatusCall) :
    ({ runtime with
      status := (call.perform scheduler.flows runtime.status).2
      senderTask :=
        some { flows := (call.perform scheduler.flows runtime.status).1, calls } } :
      TrafficRuntime).Consistent loaded := by
  cases call with
  | setFlowActive index value =>
      cases at_ : scheduler.flows[index]? with
      | none =>
          simp only [StatusCall.perform, at_]
          exact consistent.written running id calls fun _ => rfl
      | some flow =>
          simp only [StatusCall.perform, at_]
          exact consistent.setFlowActive running at_ value calls
  | recordError error =>
      exact consistent.written running
        (fun status => { status with lastError := some error }) calls fun _ => rfl
  | recordReconnect =>
      exact consistent.written running
        (fun status => { status with reconnects := status.reconnects + 1 }) calls fun _ => rfl
  | recordSchedulerTick packets bytes now =>
      exact consistent.written running
        (fun status =>
          { status with
            packetsSent := status.packetsSent + packets
            bytesSent := status.bytesSent + bytes
            heartbeatUnixNs := now }) calls fun _ => rfl

end TrafficRuntime

/-! ## Runs -/

namespace TrafficProcess

/-- The process is what the load in force asks for. -/
def Consistent (process : TrafficProcess) : Prop := process.runtime.Consistent process.loaded

variable {reconnectDelayFor : String → Nat → Nat} {process : TrafficProcess}

theorem serviceFlows_flags (now index : Nat) (script : Nat → FlowScript)
    (flows : List ScheduledFlow) :
    (serviceFlows reconnectDelayFor now script index flows).1.map
        (fun flow => (flow.plan, flow.active)) =
      flows.map fun flow => (flow.plan, flow.active) := by
  induction flows generalizing index with
  | nil => rfl
  | cons flow flows ih =>
      rw [serviceFlows, List.map_cons, List.map_cons, ih]

/-- A tick changes no flag and no plan before it writes to the status. -/
theorem tick_flags (now : Nat) (clock : UInt64) (script : Nat → FlowScript)
    (scheduler : TrafficScheduler) :
    (tick reconnectDelayFor now clock script scheduler).flows.map
        (fun flow => (flow.plan, flow.active)) =
      scheduler.flows.map fun flow => (flow.plan, flow.active) := by
  unfold tick
  split
  · exact serviceFlows_flags now 0 script scheduler.flows
  · rfl

theorem Consistent.tick (consistent : process.Consistent) (now : Nat) (clock : UInt64)
    (script : Nat → FlowScript) :
    (process.step reconnectDelayFor (.tick now clock script)).Consistent := by
  refine { consistent with sender := ?_, activeFlows := ?_, idle := ?_ }
  · intro scheduler running
    obtain ⟨before, isBefore, rfl⟩ := Option.map_eq_some_iff.mp running
    obtain ⟨isLoaded, enabled, plans⟩ := consistent.sender before isBefore
    refine ⟨isLoaded, enabled, Eq.trans ?_ plans⟩
    have flags := congrArg (List.map Prod.fst)
      (@tick_flags reconnectDelayFor now clock script before)
    rw [List.map_map, List.map_map] at flags
    exact flags
  · refine Eq.trans consistent.activeFlows ?_
    change _ = ((process.runtime.senderTask.map _).map TrafficScheduler.activeCount).getD 0
    cases process.runtime.senderTask with
    | none => rfl
    | some before =>
        have flags := congrArg (List.countP Prod.snd)
          (@tick_flags reconnectDelayFor now clock script before)
        rw [List.countP_map, List.countP_map] at flags
        exact flags.symm
  · intro enabled stopped
    exact consistent.idle enabled (Option.map_eq_none_iff.mp stopped)

theorem Consistent.step (consistent : process.Consistent) (event : TrafficEvent) :
    (process.step reconnectDelayFor event).Consistent := by
  cases event with
  | request script op payload => exact consistent.handleRequest script op payload
  | tick now clock script => exact consistent.tick now clock script
  | call =>
      unfold TrafficProcess.step
      dsimp only
      cases running : process.runtime.senderTask with
      | none => exact consistent
      | some scheduler =>
          cases calls : scheduler.calls with
          | nil =>
              simp only [calls]
              exact consistent
          | cons call calls' =>
              simp only [calls]
              exact TrafficRuntime.Consistent.perform consistent running call calls'

theorem Consistent.run (consistent : process.Consistent) (events : List TrafficEvent) :
    (process.run reconnectDelayFor events).Consistent := by
  induction events generalizing process with
  | nil => exact consistent
  | cons event events ih => exact ih (consistent.step event)

theorem consistent_start : ({} : TrafficProcess).Consistent := TrafficRuntime.consistent_cleared 0

end TrafficProcess

/-- After every request and every event: a scheduler runs only for the plan that is loaded, with
its generation and digest in the status; the counts are those of the plan and of the flows that
are up; what is ready is complete. A load that is refused for its digest changes nothing, and one
that cannot bind leaves nothing. -/
theorem traffic_runtime_consistent (reconnectDelayFor : String → Nat → Nat)
    (events : List TrafficEvent) :
    let process := ({} : TrafficProcess).run reconnectDelayFor events
    let runtime := process.runtime
    runtime.plan = process.loaded.map LoadPayload.plan ∧
    (∀ scheduler : TrafficScheduler, runtime.senderTask = some scheduler →
      ∃ payload, process.loaded = some payload ∧ runtime.plan = some payload.plan ∧
        runtime.status.enabled = true ∧ runtime.status.generation = payload.generation ∧
        runtime.status.planDigest = payload.plan.digest) ∧
    runtime.status.expectedFlows = (runtime.plan.map fun plan => plan.flows.length).getD 0 ∧
    runtime.status.expectedListeners =
      (runtime.plan.map fun plan => plan.listeners.length).getD 0 ∧
    runtime.status.activeFlows =
      (runtime.senderTask.map TrafficScheduler.activeCount).getD 0 ∧
    runtime.status.activeFlows ≤ runtime.status.expectedFlows ∧
    (runtime.status.ready = true →
      runtime.status.activeListeners = runtime.status.expectedListeners ∧
        (runtime.status.enabled = true →
          runtime.status.activeFlows = runtime.status.expectedFlows)) ∧
    (∀ (script : RequestScript) (payload : LoadPayload),
      payload.plan.digest ≠ payload.planDigest →
        (outcome (TrafficRuntime.load script payload) runtime).2 = runtime) ∧
    ∀ (script : RequestScript) (payload : LoadPayload) (error : String),
      (outcome (TrafficRuntime.load script payload) runtime).1 = .error (.unbound error) →
        (outcome (TrafficRuntime.load script payload) runtime).2.plan = none ∧
        (outcome (TrafficRuntime.load script payload) runtime).2.listenerTasks = [] ∧
        (outcome (TrafficRuntime.load script payload) runtime).2.senderTask = none := by
  intro process runtime
  have consistent : runtime.Consistent process.loaded :=
    TrafficProcess.consistent_start.run events
  have expectedFlows :
      runtime.status.expectedFlows = (runtime.plan.map fun plan => plan.flows.length).getD 0 := by
    rw [consistent.expectedFlows, consistent.plan]
    cases process.loaded with
    | none => rfl
    | some payload => rfl
  have expectedListeners : runtime.status.expectedListeners =
      (runtime.plan.map fun plan => plan.listeners.length).getD 0 := by
    rw [consistent.expectedListeners, consistent.plan]
    cases process.loaded with
    | none => rfl
    | some payload => rfl
  refine ⟨consistent.plan, ?_, expectedFlows, expectedListeners, consistent.activeFlows, ?_,
    consistent.ready, ?_, ?_⟩
  · intro scheduler running
    obtain ⟨isLoaded, enabled, -⟩ := consistent.sender scheduler running
    obtain ⟨payload, loaded⟩ := Option.isSome_iff_exists.mp isLoaded
    obtain ⟨generation, planDigest, digest⟩ := consistent.generation payload loaded
    have plan := consistent.plan
    rw [loaded] at plan
    exact ⟨payload, loaded, plan, enabled, generation, planDigest.trans digest.symm⟩
  · rw [consistent.activeFlows, consistent.expectedFlows]
    cases running : runtime.senderTask with
    | none => exact Nat.zero_le _
    | some scheduler =>
        obtain ⟨-, -, plans⟩ := consistent.sender scheduler running
        rw [← plans, List.length_map]
        exact List.countP_le_length
  · intro script payload mismatch
    rcases TrafficRuntime.load_cases script payload runtime with
      ⟨text, -, ended⟩ | ⟨error, -, same, -⟩ | ⟨same, -⟩
    · rw [ended]
    · exact absurd same mismatch
    · exact absurd same mismatch
  · intro script payload error raised
    rcases TrafficRuntime.load_cases script payload runtime with
      ⟨text, -, ended⟩ | ⟨other, -, -, ended⟩ | ⟨-, ended⟩
    · rw [ended] at raised
      cases raised
    · rw [ended]
      exact ⟨rfl, rfl, rfl⟩
    · rw [ended] at raised
      cases raised

end NetOpsBench
