import NetOpsBench.Traffic.Control
import NetOpsBench.Traffic.Digest

/-!
# A call that nothing disturbs

What a `start_matrix` over one client does when every attempt is served and answered at once:
each phase is one exchange (`run_exchange`), and the call returns (`run_call`).
-/

namespace NetOpsBench

open Fallible Program

/-! ## The process -/

/-- A plan that the agent reads, and its digest. -/
structure Readable (plan : ClientPlan) (decoded : ClientTrafficPlan) : Prop where
  accepted : ClientTrafficPlan.deserialize plan.toJson = some decoded
  digest : decoded.digest = planDigest plan

variable {plan : ClientPlan} {decoded : ClientTrafficPlan} {generation : Nat}

/-- A load that binds its listeners at `now`. -/
theorem outcome_loadAt (readable : Readable plan decoded) (positive : 0 < generation)
    (word : generation < 2 ^ 64) (now : UInt64) (runtime : TrafficRuntime) :
    outcome (TrafficRuntime.handleRequest { now } "load_plan" (loadRequest generation plan))
        runtime =
      (.ok (), runtime.loadedWith ⟨.ofNat generation, planDigest plan, decoded⟩) := by
  rw [outcome_loadRequest word readable.accepted]
  rcases load_of_digest positive word readable.digest { now } runtime with
    ended | ⟨error, unbound, -⟩
  · exact ended
  · rw [TrafficRuntime.bindListeners_ok] at unbound
    cases unbound

theorem outcome_load (readable : Readable plan decoded) (positive : 0 < generation)
    (word : generation < 2 ^ 64) (runtime : TrafficRuntime) :
    outcome (TrafficRuntime.handleRequest {} "load_plan" (loadRequest generation plan)) runtime =
      (.ok (), runtime.loadedWith ⟨.ofNat generation, planDigest plan, decoded⟩) :=
  outcome_loadAt readable positive word 0 runtime

theorem deserialize_generationRequest (word : generation < 2 ^ 64) :
    GenerationPayload.deserialize (generationRequest generation plan) =
      some ⟨.ofNat generation, planDigest plan⟩ := by
  have fields : SerdeJson.structFields ["generation", "plan_digest"]
      (generationRequest generation plan) =
      some [.int generation, .str (planDigest plan)] := by
    simp [SerdeJson.structFields, generationRequest, List.lookup_cons]
  unfold GenerationPayload.deserialize
  rw [fields, Option.bind_eq_bind, Option.bind_some]
  dsimp only
  rw [SerdeJson.unsigned_natCast word]
  rfl

/-- A process with a plan and no scheduler accepts the request of its own generation. -/
theorem outcome_enableLoaded (word : generation < 2 ^ 64) (script : RequestScript)
    {runtime : TrafficRuntime} (isGeneration : runtime.status.generation = .ofNat generation)
    (isDigest : runtime.status.planDigest = planDigest plan)
    (idle : runtime.senderTask = none) (isPlan : runtime.plan = some decoded) :
    outcome (TrafficRuntime.handleRequest script "enable" (generationRequest generation plan))
        runtime =
      (.ok (),
        if decoded.flows.isEmpty then runtime.enabledEmpty else runtime.sending script decoded) := by
  unfold TrafficRuntime.handleRequest
  rw [if_neg (by simp), if_pos rfl, deserialize_generationRequest word]
  change outcome (TrafficRuntime.enable script ⟨.ofNat generation, planDigest plan⟩) runtime = _
  unfold TrafficRuntime.enable TrafficRuntime.validateGeneration
  have matches_ : ¬ (runtime.status.generation ≠ UInt64.ofNat generation ∨
      runtime.status.planDigest ≠ planDigest plan) := by
    rw [isGeneration, isDigest]
    simp
  rw [bind_assoc, outcome_bind_ok (outcome_get runtime), reject, if_neg matches_,
    outcome_bind_ok (outcome_ofExcept _ _), outcome_bind_ok (outcome_get runtime), idle, isPlan]
  change outcome (TrafficRuntime.modifyStatus _ >>= fun _ =>
    TrafficRuntime.startSender script decoded) runtime = _
  by_cases empty : decoded.flows.isEmpty = true
  · rw [TrafficRuntime.startSender, if_pos empty, if_pos empty]
    rfl
  · rw [TrafficRuntime.startSender, if_neg empty, if_neg empty]
    rfl

theorem outcome_enable (word : generation < 2 ^ 64) {runtime : TrafficRuntime}
    (isGeneration : runtime.status.generation = .ofNat generation)
    (isDigest : runtime.status.planDigest = planDigest plan)
    (idle : runtime.senderTask = none) (isPlan : runtime.plan = some decoded)
    (flows : decoded.flows ≠ []) :
    outcome (TrafficRuntime.handleRequest {} "enable" (generationRequest generation plan)) runtime =
      (.ok (), runtime.sending {} decoded) := by
  rw [outcome_enableLoaded word {} isGeneration isDigest idle isPlan, if_neg]
  rw [List.isEmpty_iff]
  exact flows

theorem request_load (readable : Readable plan decoded) (positive : 0 < generation)
    (word : generation < 2 ^ 64) (process : TrafficProcess) :
    process.request {} "load_plan" (loadRequest generation plan) =
      (.ok (),
        { runtime := process.runtime.loadedWith ⟨.ofNat generation, planDigest plan, decoded⟩
          loaded := some ⟨.ofNat generation, planDigest plan, decoded⟩ }) := by
  unfold TrafficProcess.request TrafficProcess.loadedAfter
  rw [outcome_load readable positive word]
  dsimp only
  rw [if_pos rfl, deserialize_loadRequest word readable.accepted]
  rfl

theorem request_enable (word : generation < 2 ^ 64) {process : TrafficProcess}
    (isGeneration : process.runtime.status.generation = .ofNat generation)
    (isDigest : process.runtime.status.planDigest = planDigest plan)
    (idle : process.runtime.senderTask = none) (isPlan : process.runtime.plan = some decoded)
    (flows : decoded.flows ≠ []) :
    process.request {} "enable" (generationRequest generation plan) =
      (.ok (), { process with runtime := process.runtime.sending {} decoded }) := by
  unfold TrafficProcess.request TrafficProcess.loadedAfter
  rw [outcome_enable word isGeneration isDigest idle isPlan flows]
  dsimp only
  rw [if_neg (by simp), if_neg (by simp)]

/-! ## One exchange -/

namespace ControlWorld

/-- Every client is asked once, and answers. -/
def exchange (client : String) (id : Nat) : List ControlEvent :=
  [.attempt client, .deliver id {}, .receive client, .advance (fun _ => true) false]

/-- The controller with the answer of its one client. -/
def answered (control : TrafficController) (client : String) (status : AgentStatus) :
    TrafficController :=
  { control with
    slots := fun other =>
      if other = client then { attempts := 1, result := some (.ok status) }
      else control.slots other }

/-- The world after an exchange that leads to a phase. -/
def afterExchange (before : ControlWorld) (phase : ControlPhase) (client : String)
    (agent : TrafficProcess) : ControlWorld :=
  { control := { call := before.control.call, phase }
    agents := fun other => if other = client then agent else before.agents other
    pending := before.pending
    answers := (before.attempts, .ok agent.runtime.status) :: before.answers
    attempts := before.attempts + 1 }

variable {float : String → Except String Binary64} {reconnectDelayFor : String → Nat → Nat}

/-- The attempt that an exchange makes. -/
theorem attempt_eq {world : ControlWorld} {client op : String} {payload : Json}
    (fresh : world.control.slots client = {})
    (request : world.control.call.request client world.control.phase = some (op, payload)) :
    world.attempt [client] client =
      { world with
        control :=
          { world.control with
            slots := fun other =>
              if other = client then { attempts := 1, outstanding := some world.attempts }
              else world.control.slots other }
        pending := world.pending ++ [⟨world.attempts, client, op, payload⟩]
        attempts := world.attempts + 1 } := by
  unfold ControlWorld.attempt
  rw [request, fresh]
  simp [modifySlot]

theorem find_attempt {world : ControlWorld}
    (below : ∀ attempt ∈ world.pending, attempt.id < world.attempts) (attempt : ControlAttempt)
    (new : attempt.id = world.attempts) :
    (world.pending ++ [attempt]).find? (fun other => decide (other.id = world.attempts)) =
      some attempt := by
  have absent : world.pending.find? (fun other => decide (other.id = world.attempts)) = none := by
    rw [List.find?_eq_none]
    intro other mem
    simpa using (below other mem).ne
  rw [List.find?_append, absent, Option.none_or, List.find?_singleton, new, decide_eq_true rfl]
  rfl

theorem run_exchange {world : ControlWorld} {client op : String} {payload : Json}
    (below : ∀ attempt ∈ world.pending, attempt.id < world.attempts)
    (fresh : world.control.slots client = {})
    (request : world.control.call.request client world.control.phase = some (op, payload))
    {agent : TrafficProcess}
    (served : (world.agents client).request {} op payload = (.ok (), agent)) :
    world.run float [client] reconnectDelayFor (exchange client world.attempts) =
      afterExchange world ((answered world.control client agent.runtime.status).nextPhase [client]
        (fun _ => true) false) client agent := by
  have kept : world.pending.filter (fun attempt => decide (attempt.id ≠ world.attempts)) =
      world.pending := by
    rw [List.filter_eq_self]
    intro attempt mem
    simpa using (below attempt mem).ne
  unfold exchange run
  rw [List.foldl_cons, List.foldl_cons, List.foldl_cons, List.foldl_cons, List.foldl_nil]
  simp only [step, attempt_eq fresh request]
  unfold deliver
  simp only [find_attempt below ⟨world.attempts, client, op, payload⟩ rfl]
  unfold serve
  simp only [served, modifyAgent, List.filter_append, kept]
  have removed : [(⟨world.attempts, client, op, payload⟩ : ControlAttempt)].filter
      (fun other => decide (other.id ≠ world.attempts)) = [] := by simp
  have slots : (fun other => if other = client
      then ({ attempts := 1, result := some (.ok agent.runtime.status) } : RequestSlot)
      else if other = client then { attempts := 1, outstanding := some world.attempts }
      else world.control.slots other) =
      (answered world.control client agent.runtime.status).slots := by
    funext other
    by_cases same : other = client
    · simp [answered, same]
    · simp [answered, same]
  unfold receive
  simp only [removed, List.append_nil, if_true, Option.bind_some, List.lookup_cons, beq_self_eq_true,
    Except.map, Except.mapError, modifySlot]
  unfold advance
  rw [slots, if_pos (by simp [answered])]
  rfl

/-- An exchange disturbs nobody while nothing has been shown, or if it only asks. -/
theorem undisturbed_exchange {world : ControlWorld} {client op : String} {payload : Json}
    (below : ∀ attempt ∈ world.pending, attempt.id < world.attempts)
    (fresh : world.control.slots client = {})
    (request : world.control.call.request client world.control.phase = some (op, payload))
    (calm : world.control.phase ≠ .polling ∧ world.control.phase ≠ .ready ∨
      op ≠ "reset" ∧ op ≠ "load_plan") :
    Undisturbed float [client] reconnectDelayFor world (exchange client world.attempts) := by
  refine ⟨nofun, id, nofun, ?_, nofun, id, nofun, id, trivial⟩
  change ¬ (world.attempt [client] client).Late [client] (.deliver world.attempts {})
  rw [attempt_eq fresh request]
  intro late
  rcases late with ⟨attempt, found, disturbs, -, shown⟩
  rw [find_attempt below ⟨world.attempts, client, op, payload⟩ rfl] at found
  obtain rfl := Option.some.inj found
  rcases calm with ⟨notPolling, notReady⟩ | ⟨notReset, notLoad⟩
  · rcases shown with ready | ⟨polling, -⟩
    · exact notReady ready
    · exact notPolling polling
  · rcases disturbs with reset | load
    · exact notReset reset
    · exact notLoad load

/-! ## The whole call -/

/-- The phases of a call over one client whose flow comes up at the first tick. -/
def cleanPhases (client : String) (id : Nat) : List ControlEvent :=
  exchange client id ++ (exchange client (id + 1) ++ (exchange client (id + 2) ++
    ([.tick client 0 0 fun _ => {}, .call client] ++ exchange client (id + 3))))

def cleanCall (client : String) (id generation : Nat) (flows : List TrafficFlow) :
    List ControlEvent :=
  .start generation flows :: cleanPhases client id

theorem nextPhase_answered {control : TrafficController} {client : String} {status : AgentStatus} :
    (control.phase = .resetting →
      (answered control client status).nextPhase [client] (fun _ => true) false = .loading) ∧
    (control.phase = .loading →
      (answered control client status).nextPhase [client] (fun _ => true) false = .enabling) ∧
    (control.phase = .enabling →
      (answered control client status).nextPhase [client] (fun _ => true) false = .polling) ∧
    (control.phase = .polling → statusReady control.call client true status = true →
      (answered control client status).nextPhase [client] (fun _ => true) false = .ready) := by
  refine ⟨?_, ?_, ?_, ?_⟩
  · intro phase
    simp [TrafficController.nextPhase, answered, RequestSlot.ok, phase]
  · intro phase
    simp [TrafficController.nextPhase, answered, RequestSlot.ok, phase]
  · intro phase
    simp [TrafficController.nextPhase, answered, RequestSlot.ok, phase]
  · intro phase ready
    simp [TrafficController.nextPhase, answered, RequestSlot.ready, phase, ready]

/-- The process of a plan with one UDP flow, once the flow is up. -/
def flowUp (payload : LoadPayload) (flow : FlowPlan) : TrafficProcess :=
  { runtime :=
      { status :=
          { ready := true
            enabled := true
            generation := payload.generation
            planDigest := payload.planDigest
            expectedFlows := 1
            activeFlows := 1
            expectedListeners := payload.plan.listeners.length
            activeListeners := payload.plan.listeners.length }
        plan := some payload.plan
        listenerTasks := payload.plan.listeners
        senderTask :=
          some
            { flows := [{ plan := flow, transport := .udp ⟨true, 0, minReconnect⟩, active := true }]
              calls := [.recordSchedulerTick 0 0 0] } }
    loaded := some payload }

theorem step_flowUp {payload : LoadPayload} {flow : FlowPlan} (flows : payload.plan.flows = [flow])
    (udp : flow.protocol = .udp) :
    ((({ runtime := ((TrafficRuntime.cleared 0).loadedWith payload).sending {} payload.plan
         loaded := some payload } : TrafficProcess).step reconnectDelayFor
          (.tick 0 0 fun _ => {})).step reconnectDelayFor .call) = flowUp payload flow := by
  have new : ScheduledFlow.new flow 0 =
      { plan := flow, transport := .udp ⟨false, 0, minReconnect⟩, active := false } := by
    rw [ScheduledFlow.new, udp]
  unfold TrafficRuntime.sending TrafficRuntime.loadedWith
  rw [flows, List.map_cons, List.map_nil, new]
  simp [TrafficProcess.step, TrafficProcess.tick, serviceFlows, serviceFlow, serviceUdp, setupUdp,
    sendUdp, SendActivity.add, StatusCall.perform, setFlowActive, flowUp, TrafficRuntime.cleared]

theorem run_append (world : ControlWorld) (clients : List String)
    (first second : List ControlEvent) :
    world.run float clients reconnectDelayFor (first ++ second) =
      (world.run float clients reconnectDelayFor first).run float clients reconnectDelayFor
        second :=
  List.foldl_append

/-- What is left of the arguments of a call once they have been checked. -/
structure Startable (float : String → Except String Binary64) (client : String)
    (flows : List TrafficFlow) (plan : ClientPlan) : Prop where
  nonempty : flows ≠ []
  known : (flows.any fun flow =>
    !List.contains [client] flow.src || !List.contains [client] flow.dst) = false
  plans : clientPlans float [client] flows = .ok [(client, plan)]

theorem run_start {world : ControlWorld} {client : String} {flows : List TrafficFlow}
    {plan : ClientPlan} (startable : Startable float client flows plan) (generation : Nat)
    (rests : world.control.phase = .idle ∨ world.control.phase = .ready) :
    world.run float [client] reconnectDelayFor [.start generation flows] =
      { world with
        control := { call := { generation, plans := [(client, plan)] }, phase := .resetting } } := by
  have resting : ¬ (world.control.phase ≠ .idle ∧ world.control.phase ≠ .ready) := by
    rcases rests with idle | ready
    · exact fun both => both.1 idle
    · exact fun both => both.2 ready
  change world.start float [client] generation flows = _
  unfold ControlWorld.start
  rw [if_neg resting, if_neg startable.nonempty,
    if_neg (by rw [startable.known]; exact Bool.false_ne_true), startable.plans]

theorem plan_singleton (generation : Nat) (client : String) (plan : ClientPlan) :
    ({ generation, plans := [(client, plan)] } : MatrixCall).plan client = plan := by
  simp [MatrixCall.plan]

/-- A call that nothing disturbs returns, with its generation in force; attempts that were left
over before are left over still. -/
theorem run_call {world : ControlWorld} {client : String} {flows : List TrafficFlow}
    {plan : ClientPlan} {decoded : ClientTrafficPlan} {flow : FlowPlan} {generation : Nat}
    (startable : Startable float client flows plan) (readable : Readable plan decoded)
    (isFlow : decoded.flows = [flow]) (udp : flow.protocol = .udp) (positive : 0 < generation)
    (word : generation < 2 ^ 64)
    (below : ∀ attempt ∈ world.pending, attempt.id < world.attempts)
    (rests : world.control.phase = .idle ∨ world.control.phase = .ready) :
    let call : MatrixCall := { generation, plans := [(client, plan)] }
    let after := world.run float [client] reconnectDelayFor
      (cleanCall client world.attempts generation flows)
    after.control = { call, phase := .ready } ∧ after.pending = world.pending ∧
      after.attempts = world.attempts + 4 ∧
      after.agents client = flowUp ⟨.ofNat generation, planDigest plan, decoded⟩ flow ∧
      Undisturbed float [client] reconnectDelayFor
        (world.run float [client] reconnectDelayFor [.start generation flows])
        (cleanPhases client world.attempts) := by
  intro call after
  have planOf : call.plan client = plan := plan_singleton generation client plan
  let payload : LoadPayload := ⟨.ofNat generation, planDigest plan, decoded⟩
  let cleared : TrafficProcess := { runtime := .cleared 0 }
  let loaded : TrafficProcess :=
    { runtime := (TrafficRuntime.cleared 0).loadedWith payload, loaded := some payload }
  let enabled : TrafficProcess :=
    { runtime := loaded.runtime.sending {} decoded, loaded := some payload }
  -- the world before each exchange
  let first : ControlWorld := { world with control := { call, phase := .resetting } }
  have reset : first.run float [client] reconnectDelayFor (exchange client world.attempts) =
      afterExchange first .loading client cleared := by
    have ended := @run_exchange float reconnectDelayFor first client "reset" (.obj []) below rfl
      rfl cleared rfl
    rw [nextPhase_answered.1 rfl] at ended
    exact ended
  let second := afterExchange first .loading client cleared
  have load : second.run float [client] reconnectDelayFor
      (exchange client (world.attempts + 1)) = afterExchange second .enabling client loaded := by
    have isCleared : second.agents client = cleared := if_pos rfl
    have ended := @run_exchange float reconnectDelayFor second client "load_plan"
      (loadRequest generation plan) (fun attempt mem => Nat.lt_add_right 1 (below attempt mem)) rfl
      (congrArg (fun plan => some ("load_plan", loadRequest generation plan)) planOf) loaded
      (by rw [isCleared]; exact request_load readable positive word _)
    rw [nextPhase_answered.2.1 rfl] at ended
    exact ended
  let third := afterExchange second .enabling client loaded
  have enable : third.run float [client] reconnectDelayFor
      (exchange client (world.attempts + 2)) = afterExchange third .polling client enabled := by
    have isLoaded : third.agents client = loaded := if_pos rfl
    have ended := @run_exchange float reconnectDelayFor third client "enable"
      (generationRequest generation plan)
      (fun attempt mem => Nat.lt_add_right 2 (below attempt mem)) rfl
      (congrArg (fun plan => some ("enable", generationRequest generation plan)) planOf) enabled
      (by
        rw [isLoaded]
        exact request_enable word rfl rfl rfl rfl (by rw [isFlow]; exact List.cons_ne_nil _ _))
    rw [nextPhase_answered.2.2.1 rfl] at ended
    exact ended
  let fourth := afterExchange third .polling client enabled
  let fifth : ControlWorld :=
    { fourth with
      agents := fun other => if other = client then flowUp payload flow else fourth.agents other }
  have work : fourth.run float [client] reconnectDelayFor
      [.tick client 0 0 fun _ => {}, .call client] = fifth := by
    have isEnabled : fourth.agents client = enabled := if_pos rfl
    have up := @step_flowUp reconnectDelayFor payload flow isFlow udp
    have ticked : (fourth.step float [client] reconnectDelayFor
        (.tick client 0 0 fun _ => {})).agents client =
        enabled.step reconnectDelayFor (.tick 0 0 fun _ => {}) := by
      refine (if_pos rfl).trans ?_
      rw [isEnabled]
    change (fourth.modifyAgent client _).modifyAgent client _ = fifth
    unfold modifyAgent
    dsimp only [fifth]
    congr 1
    funext other
    by_cases same : other = client
    · rw [if_pos same, if_pos same, ticked]
      exact up
    · rw [if_neg same, if_neg same, if_neg same]
  have poll : fifth.run float [client] reconnectDelayFor (exchange client (world.attempts + 3)) =
      afterExchange fifth .ready client (flowUp payload flow) := by
    have isUp : fifth.agents client = flowUp payload flow := if_pos rfl
    have ended := @run_exchange float reconnectDelayFor fifth client "status" (.obj [])
      (fun attempt mem => Nat.lt_add_right 3 (below attempt mem)) rfl rfl (flowUp payload flow)
      (by rw [isUp]; rfl)
    have ready : statusReady call client true (flowUp payload flow).runtime.status = true := by
      have inForce : call.InForce client (flowUp payload flow).runtime.status := by
        refine ⟨UInt64.toNat_ofNat_of_lt' word, ?_, rfl⟩
        rw [planOf]
        rfl
      unfold statusReady
      rw [decide_eq_true inForce]
      simp [flowUp]
    rw [nextPhase_answered.2.2.2 rfl ready] at ended
    exact ended
  have begun : world.run float [client] reconnectDelayFor [.start generation flows] = first :=
    run_start startable generation rests
  have ended : after = afterExchange fifth .ready client (flowUp payload flow) := by
    change (world.run float [client] reconnectDelayFor [.start generation flows]).run float [client]
      reconnectDelayFor (cleanPhases client world.attempts) = _
    unfold cleanPhases
    rw [run_append, run_append, run_append, run_append, begun, reset, load, enable, work]
    exact poll
  have undisturbed : Undisturbed float [client] reconnectDelayFor first
      (cleanPhases client world.attempts) := by
    unfold cleanPhases
    rw [undisturbed_append, undisturbed_append, undisturbed_append, undisturbed_append, reset, load,
      enable, work]
    refine ⟨?_, ?_, ?_, ⟨nofun, id, nofun, id, trivial⟩, ?_⟩
    · exact @undisturbed_exchange float reconnectDelayFor first client "reset" (.obj []) below rfl
        rfl (.inl ⟨nofun, nofun⟩)
    · exact @undisturbed_exchange float reconnectDelayFor second client "load_plan"
        (loadRequest generation plan) (fun attempt mem => Nat.lt_add_right 1 (below attempt mem)) rfl
        (congrArg (fun plan => some ("load_plan", loadRequest generation plan)) planOf)
        (.inl ⟨nofun, nofun⟩)
    · exact @undisturbed_exchange float reconnectDelayFor third client "enable"
        (generationRequest generation plan)
        (fun attempt mem => Nat.lt_add_right 2 (below attempt mem)) rfl
        (congrArg (fun plan => some ("enable", generationRequest generation plan)) planOf)
        (.inl ⟨nofun, nofun⟩)
    · exact @undisturbed_exchange float reconnectDelayFor fifth client "status" (.obj [])
        (fun attempt mem => Nat.lt_add_right 3 (below attempt mem)) rfl rfl
        (.inr ⟨by simp, by simp⟩)
  rw [ended, begun]
  exact ⟨rfl, rfl, rfl, if_pos rfl, undisturbed⟩

/-! ## A call whose load is not answered -/

/-- Two attempts without an answer; the first one stays under way, the second one is lost. -/
def unanswered (client : String) (id : Nat) : List ControlEvent :=
  [.attempt client, .timeout client, .attempt client, .lose (id + 1), .timeout client,
    .advance (fun _ => true) false]

theorem run_unanswered {world : ControlWorld} {client op : String} {payload : Json}
    (below : ∀ attempt ∈ world.pending, attempt.id < world.attempts)
    (fresh : world.control.slots client = {}) (loading : world.control.phase = .loading)
    (request : world.control.call.request client .loading = some (op, payload)) :
    world.run float [client] reconnectDelayFor (unanswered client world.attempts) =
      { world with
        control := { call := world.control.call, phase := .aborting }
        pending := world.pending ++ [⟨world.attempts, client, op, payload⟩]
        attempts := world.attempts + 2 } := by
  have kept : ∀ attempt ∈ world.pending, attempt.id ≠ world.attempts + 1 :=
    fun attempt mem => (Nat.lt_succ_of_lt (below attempt mem)).ne
  unfold unanswered run
  simp only [List.foldl_cons, List.foldl_nil, step]
  simp [ControlWorld.attempt, timeout, modifySlot, loading, request, fresh, advance,
    TrafficController.nextPhase, RequestSlot.ok]
  exact kept

/-- A `start_matrix` over one client that fails to load, and resets it. -/
def failedCall (client : String) (id generation : Nat) (flows : List TrafficFlow) :
    List ControlEvent :=
  [.start generation flows] ++ exchange client id ++ unanswered client (id + 1) ++
    exchange client (id + 3)

/-- The first attempt to load is still under way when the call has failed. -/
theorem run_failedCall {world : ControlWorld} {client : String} {flows : List TrafficFlow}
    {plan : ClientPlan} (startable : Startable float client flows plan) (generation : Nat)
    (below : ∀ attempt ∈ world.pending, attempt.id < world.attempts)
    (rests : world.control.phase = .idle ∨ world.control.phase = .ready) :
    let after := world.run float [client] reconnectDelayFor
      (failedCall client world.attempts generation flows)
    after.control.phase = .idle ∧ after.attempts = world.attempts + 4 ∧
      after.pending = world.pending ++
        [⟨world.attempts + 1, client, "load_plan", loadRequest generation plan⟩] := by
  intro after
  let call : MatrixCall := { generation, plans := [(client, plan)] }
  let cleared : TrafficProcess := { runtime := .cleared 0 }
  let first : ControlWorld := { world with control := { call, phase := .resetting } }
  let second := afterExchange first .loading client cleared
  have reset : first.run float [client] reconnectDelayFor (exchange client world.attempts) =
      second := by
    have ended := @run_exchange float reconnectDelayFor first client "reset" (.obj []) below rfl
      rfl cleared rfl
    rw [nextPhase_answered.1 rfl] at ended
    exact ended
  let attempt : ControlAttempt :=
    ⟨world.attempts + 1, client, "load_plan", loadRequest generation plan⟩
  let third : ControlWorld :=
    { second with
      control := { call, phase := .aborting }
      pending := world.pending ++ [attempt]
      attempts := world.attempts + 3 }
  have load : second.run float [client] reconnectDelayFor
      (unanswered client (world.attempts + 1)) = third := by
    have planOf : call.plan client = plan := plan_singleton generation client plan
    exact @run_unanswered float reconnectDelayFor second client "load_plan"
      (loadRequest generation plan) (fun other mem => Nat.lt_add_right 1 (below other mem)) rfl rfl
      (congrArg (fun plan => some ("load_plan", loadRequest generation plan)) planOf)
  have abort : third.run float [client] reconnectDelayFor (exchange client (world.attempts + 3)) =
      afterExchange third .idle client cleared := by
    have belowThird : ∀ other ∈ third.pending, other.id < third.attempts := by
      intro other mem
      rcases List.mem_append.mp mem with old | new
      · exact Nat.lt_add_right 3 (below other old)
      · rw [List.mem_singleton.mp new]
        exact Nat.lt_add_right 1 (Nat.lt_succ_self _)
    exact @run_exchange float reconnectDelayFor third client "reset" (.obj []) belowThird rfl
      rfl cleared rfl
  have ended : after = afterExchange third .idle client cleared := by
    have begun : world.run float [client] reconnectDelayFor [.start generation flows] = first :=
      run_start startable generation rests
    change world.run float [client] reconnectDelayFor (failedCall client world.attempts generation
      flows) = _
    unfold failedCall
    rw [run_append, run_append, run_append, begun, reset, load]
    exact abort
  rw [ended]
  exact ⟨rfl, rfl, rfl⟩

end ControlWorld

/-! ## An example of a client -/

/-- One client that sends to itself. -/
def loopFlows : List TrafficFlow :=
  [{ src := "a", dst := "a", dstIp := "10.0.0.1", protocol := "udp", bandwidth := "1000"
     flowId := "f" }]

def loopPlan : ClientPlan :=
  { listeners := [{ protocol := "udp", port := 5201 }]
    flows :=
      [{ flowId := "f", protocol := "udp", dstIp := "10.0.0.1", dstPort := 5201
         bandwidthBps := 1000, payloadBytes := 1400, tcpMss := 0 }] }

def loopFlow : FlowPlan :=
  { flowId := "f", protocol := .udp, dstIp := (10, 0, 0, 1), dstPort := 5201
    bandwidthBps := 1000, payloadBytes := 1400, tcpMss := 0 }

def loopDecoded : ClientTrafficPlan :=
  { listeners := [{ protocol := .udp, port := 5201 }], flows := [loopFlow] }

/-- A `float` for the bandwidth of the example. -/
def loopFloat : String → Except String Binary64 := fun _ => .ok (.finite 1000)

theorem loop_startable : ControlWorld.Startable loopFloat "a" loopFlows loopPlan :=
  { nonempty := List.cons_ne_nil _ _
    known := by decide +kernel
    plans := by decide +kernel }

theorem loop_readable : Readable loopPlan loopDecoded := by
  have accepted : ClientTrafficPlan.deserialize loopPlan.toJson = some loopDecoded := by
    decide +kernel
  have printable : ∀ entry ∈ loopPlan.flows, SerdeJson.PrintableText entry.flowId := by
    decide +kernel
  refine ⟨accepted, ?_⟩
  rw [ClientTrafficPlan.digest, planDigest, encoded_eq printable accepted]

end NetOpsBench
