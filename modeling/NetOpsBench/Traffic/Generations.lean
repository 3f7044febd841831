import NetOpsBench.Traffic.Exchange

/-!
# Generations

What a process keeps of the generation that a `start_matrix` has put in force. A reset and a
load are served whatever the generation they were made for, so that an attempt left over from an
earlier call takes a process out of the present generation (`late_load_regresses`); as long as
no such attempt is served by a process that has shown itself ready, no process leaves it
(`generation_kept`).
-/

namespace NetOpsBench

open Fallible Program

/-! ## What a request keeps -/

namespace TrafficRuntime

/-- The plan, its generation and its digest, and whether it is enabled. -/
def core (runtime : TrafficRuntime) : Option ClientTrafficPlan × UInt64 × String × Bool :=
  (runtime.plan, runtime.status.generation, runtime.status.planDigest, runtime.status.enabled)

/-- A process that is enabled keeps its plan through every request but those that load, reset or
disable, whatever generation they are for. -/
theorem core_handleRequest {runtime : TrafficRuntime} (enabled : runtime.status.enabled = true)
    (script : RequestScript) {op : String} (payload : Json) (notLoad : op ≠ "load_plan")
    (notReset : op ≠ "reset") (notDisable : op ≠ "disable") :
    (outcome (handleRequest script op payload) runtime).2.core = runtime.core := by
  unfold handleRequest
  rw [if_neg notLoad]
  by_cases isEnable : op = "enable"
  · rw [if_pos isEnable]
    cases GenerationPayload.deserialize payload with
    | none => rfl
    | some request =>
        change (outcome (enable script request) runtime).2.core = runtime.core
        rcases enable_cases script request runtime with same | ⟨plan, -, isPlan, after⟩
        · rw [same]
        · rw [after, core, core, enabled]
          split
          · rfl
          · rfl
  · rw [if_neg isEnable, if_neg notDisable, if_neg notReset]
    split
    · rfl
    · rfl

end TrafficRuntime

namespace TrafficProcess

variable {reconnectDelayFor : String → Nat → Nat}

theorem setFlowActive_core (status : AgentStatus) (active value : Bool) :
    (setFlowActive status active value).2.generation = status.generation ∧
      (setFlowActive status active value).2.planDigest = status.planDigest ∧
      (setFlowActive status active value).2.enabled = status.enabled := by
  unfold setFlowActive
  by_cases same : active = value
  · rw [if_pos same]
    exact ⟨rfl, rfl, rfl⟩
  · rw [if_neg same]
    exact ⟨rfl, rfl, rfl⟩

theorem perform_core (call : StatusCall) (flows : List ScheduledFlow) (status : AgentStatus) :
    (call.perform flows status).2.generation = status.generation ∧
      (call.perform flows status).2.planDigest = status.planDigest ∧
      (call.perform flows status).2.enabled = status.enabled := by
  cases call with
  | setFlowActive index value =>
      cases at_ : flows[index]? with
      | none =>
          simp only [StatusCall.perform, at_]
          exact ⟨trivial, trivial, trivial⟩
      | some flow =>
          simp only [StatusCall.perform, at_]
          exact setFlowActive_core status flow.active value
  | recordError error => exact ⟨rfl, rfl, rfl⟩
  | recordReconnect => exact ⟨rfl, rfl, rfl⟩
  | recordSchedulerTick packets bytes now => exact ⟨rfl, rfl, rfl⟩

/-- The scheduler does not touch the generation. -/
theorem core_call (process : TrafficProcess) :
    (process.step reconnectDelayFor .call).runtime.core = process.runtime.core := by
  unfold step
  cases process.runtime.senderTask with
  | none => rfl
  | some scheduler =>
      dsimp only
      cases scheduler.calls with
      | nil => rfl
      | cons call calls =>
          obtain ⟨generation, digest, enabled⟩ :=
            perform_core call scheduler.flows process.runtime.status
          simp only [TrafficRuntime.core, generation, digest, enabled]

end TrafficProcess

/-! ## Bookkeeping of attempts -/

namespace ControlWorld

/-- The attempts and answers are numbered, and an attempt that is waited for is of its client. -/
structure Numbered (world : ControlWorld) : Prop where
  answered : ∀ (id : Nat) (answer : Except Unit AgentStatus), (id, answer) ∈ world.answers →
    id < world.attempts
  pending : ∀ attempt ∈ world.pending, attempt.id < world.attempts
  op : ∀ attempt ∈ world.pending, attempt.op ≠ "disable"
  outstanding : ∀ (client : String) (id : Nat),
    (world.control.slots client).outstanding = some id → id < world.attempts ∧
      ∀ attempt ∈ world.pending, attempt.id = id → attempt.client = client

variable {float : String → Except String Binary64} {clients : List String}
  {reconnectDelayFor : String → Nat → Nat} {world : ControlWorld}

theorem numbered_start : ({} : ControlWorld).Numbered :=
  { answered := nofun, pending := nofun, op := nofun, outstanding := nofun }

theorem request_op {call : MatrixCall} {client : String} {phase : ControlPhase}
    {request : String × Json} (is_ : call.request client phase = some request) :
    request.1 ≠ "disable" := by
  cases phase with
  | idle => cases is_
  | ready => cases is_
  | resetting => obtain rfl := Option.some.inj is_; simp
  | loading => obtain rfl := Option.some.inj is_; simp
  | enabling => obtain rfl := Option.some.inj is_; simp
  | polling => obtain rfl := Option.some.inj is_; simp
  | aborting => obtain rfl := Option.some.inj is_; simp

theorem Numbered.start (numbered : world.Numbered) (generation : Nat) (flows : List TrafficFlow) :
    (world.start float clients generation flows).Numbered := by
  unfold ControlWorld.start
  split
  · exact numbered
  · split
    · exact numbered
    · split
      · exact numbered
      · split
        · exact numbered
        · exact { numbered with outstanding := nofun }

theorem Numbered.attempt (numbered : world.Numbered) (client : String) :
    (world.attempt clients client).Numbered := by
  unfold ControlWorld.attempt
  dsimp only
  cases is_ : world.control.call.request client world.control.phase with
  | none => exact numbered
  | some request =>
      dsimp only
      split
      · refine { answered := ?_, pending := ?_, op := ?_, outstanding := ?_ }
        · intro id answer mem
          exact Nat.lt_succ_of_lt (numbered.answered id answer mem)
        · intro attempt mem
          rcases List.mem_append.mp mem with old | new
          · exact Nat.lt_succ_of_lt (numbered.pending attempt old)
          · rw [List.mem_singleton.mp new]
            exact Nat.lt_succ_self _
        · intro attempt mem
          rcases List.mem_append.mp mem with old | new
          · exact numbered.op attempt old
          · rw [List.mem_singleton.mp new]
            exact request_op is_
        · intro other id waits
          change ((if other = client then _ else world.control.slots other) :
            RequestSlot).outstanding = some id at waits
          by_cases same : other = client
          · rw [if_pos same] at waits
            obtain rfl := Option.some.inj waits
            refine ⟨Nat.lt_succ_self _, ?_⟩
            intro attempt mem isId
            rcases List.mem_append.mp mem with old | new
            · exact absurd isId (numbered.pending attempt old).ne
            · rw [List.mem_singleton.mp new]
              exact same.symm
          · rw [if_neg same] at waits
            obtain ⟨below, owner⟩ := numbered.outstanding other id waits
            refine ⟨Nat.lt_succ_of_lt below, ?_⟩
            intro attempt mem isId
            rcases List.mem_append.mp mem with old | new
            · exact owner attempt old isId
            · rw [List.mem_singleton.mp new] at isId
              exact absurd isId.symm below.ne
      · exact numbered

theorem Numbered.serve (numbered : world.Numbered) {attempt : ControlAttempt}
    (mem : attempt ∈ world.pending) (script : RequestScript) :
    (world.serve attempt script).Numbered := by
  refine { answered := ?_, pending := ?_, op := ?_, outstanding := ?_ }
  · intro id answer isAnswer
    rcases List.mem_cons.mp isAnswer with new | old
    · obtain ⟨rfl, -⟩ := Prod.mk.inj new
      exact numbered.pending attempt mem
    · exact numbered.answered id answer old
  · intro other isOther
    exact numbered.pending other (List.mem_filter.mp isOther).1
  · intro other isOther
    exact numbered.op other (List.mem_filter.mp isOther).1
  · intro client id waits
    obtain ⟨below, owner⟩ := numbered.outstanding client id waits
    exact ⟨below, fun other isOther => owner other (List.mem_filter.mp isOther).1⟩

/-- A slot that waits for nothing new. -/
theorem Numbered.modifySlot (numbered : world.Numbered) (client : String) {slot : RequestSlot}
    (outstanding : slot.outstanding = none) : (world.modifySlot client slot).Numbered := by
  refine { numbered with outstanding := ?_ }
  intro other id waits
  change ((if other = client then slot else world.control.slots other) :
    RequestSlot).outstanding = some id at waits
  split at waits
  · exact nomatch outstanding.symm.trans waits
  · exact numbered.outstanding other id waits

theorem Numbered.step (numbered : world.Numbered) (event : ControlEvent) :
    (world.step float clients reconnectDelayFor event).Numbered := by
  cases event with
  | start generation flows => exact numbered.start generation flows
  | attempt client => exact numbered.attempt client
  | deliver id script =>
      change (world.deliver id script).Numbered
      unfold ControlWorld.deliver
      cases found : world.pending.find? fun attempt => attempt.id = id with
      | none => exact numbered
      | some attempt => exact numbered.serve (List.mem_of_find?_eq_some found) script
  | lose id =>
      refine { numbered with pending := ?_, op := ?_, outstanding := ?_ }
      · intro other isOther
        exact numbered.pending other (List.mem_filter.mp isOther).1
      · intro other isOther
        exact numbered.op other (List.mem_filter.mp isOther).1
      · intro client id waits
        obtain ⟨below, owner⟩ := numbered.outstanding client id waits
        exact ⟨below, fun other isOther => owner other (List.mem_filter.mp isOther).1⟩
  | timeout client =>
      change (world.timeout client).Numbered
      unfold ControlWorld.timeout
      dsimp only
      split
      · exact numbered
      · exact numbered.modifySlot client rfl
  | receive client =>
      change (world.receive client).Numbered
      unfold ControlWorld.receive
      dsimp only
      split
      · exact numbered
      · exact numbered.modifySlot client rfl
  | advance fresh expired =>
      change (world.advance clients fresh expired).Numbered
      unfold ControlWorld.advance
      split
      · exact { numbered with outstanding := nofun }
      · exact numbered
  | tick client now clock script => exact { numbered with }
  | call client => exact { numbered with }

theorem Numbered.run (numbered : world.Numbered) (events : List ControlEvent) :
    (world.run float clients reconnectDelayFor events).Numbered := by
  induction events generalizing world with
  | nil => exact numbered
  | cons event events ih => exact ih (numbered.step event)

/-! ## Processes that have shown themselves ready -/

/-- What has been shown is so still. -/
def Kept (clients : List String) (world : ControlWorld) : Prop :=
  ∀ client, world.Shown clients client →
    world.control.call.InForce client (world.agents client).runtime.status

theorem inForce_of_core {call : MatrixCall} {client : String} {before after : TrafficRuntime}
    (same : after.core = before.core) (inForce : call.InForce client before.status) :
    call.InForce client after.status := by
  obtain ⟨-, generation, digest, enabled⟩ : after.plan = before.plan ∧
      after.status.generation = before.status.generation ∧
      after.status.planDigest = before.status.planDigest ∧
      after.status.enabled = before.status.enabled := by
    simpa [TrafficRuntime.core] using same
  unfold MatrixCall.InForce
  rw [generation, digest, enabled]
  exact inForce

/-- An attempt that is not late keeps a process that has shown itself ready. -/
theorem core_served (numbered : world.Numbered) (kept : world.Kept clients) {id : Nat}
    {script : RequestScript} {attempt : ControlAttempt}
    (found : world.pending.find? (fun attempt => attempt.id = id) = some attempt)
    (inTime : ¬ world.Late clients (.deliver id script))
    (shown : world.Shown clients attempt.client) :
    ((world.agents attempt.client).request script attempt.op attempt.payload).2.runtime.core =
      (world.agents attempt.client).runtime.core := by
  have mem := List.mem_of_find?_eq_some found
  refine TrafficRuntime.core_handleRequest (kept attempt.client shown).2.2 script attempt.payload
    ?_ ?_ (numbered.op attempt mem)
  · intro isLoad
    exact inTime ⟨attempt, found, .inr isLoad, shown⟩
  · intro isReset
    exact inTime ⟨attempt, found, .inl isReset, shown⟩

/-- No step but a late one takes a process out of the generation that it has shown. -/
theorem core_step (numbered : world.Numbered) (kept : world.Kept clients) {event : ControlEvent}
    (inTime : ¬ world.Late clients event) {client : String}
    (shown : world.Shown clients client) :
    ((world.step float clients reconnectDelayFor event).agents client).runtime.core =
      (world.agents client).runtime.core := by
  cases event with
  | start generation flows =>
      change ((world.start float clients generation flows).agents client).runtime.core = _
      unfold ControlWorld.start
      split
      · rfl
      · split
        · rfl
        · split
          · rfl
          · split
            · rfl
            · rfl
  | attempt other =>
      change ((world.attempt clients other).agents client).runtime.core = _
      unfold ControlWorld.attempt
      dsimp only
      split
      · rfl
      · split
        · rfl
        · rfl
  | deliver id script =>
      change ((world.deliver id script).agents client).runtime.core = _
      unfold ControlWorld.deliver
      cases found : world.pending.find? fun attempt => attempt.id = id with
      | none => rfl
      | some attempt =>
          change ((if client = attempt.client then _ else world.agents client) :
            TrafficProcess).runtime.core = _
          by_cases same : client = attempt.client
          · rw [if_pos same]
            subst same
            exact core_served numbered kept found inTime shown
          · rw [if_neg same]
  | lose id => rfl
  | timeout other =>
      change ((world.timeout other).agents client).runtime.core = _
      unfold ControlWorld.timeout
      dsimp only
      split
      · rfl
      · rfl
  | receive other =>
      change ((world.receive other).agents client).runtime.core = _
      unfold ControlWorld.receive
      dsimp only
      split
      · rfl
      · rfl
  | advance fresh expired =>
      change ((world.advance clients fresh expired).agents client).runtime.core = _
      unfold ControlWorld.advance
      split
      · rfl
      · rfl
  | tick other now clock script =>
      change ((if client = other then _ else world.agents client) :
        TrafficProcess).runtime.core = _
      split
      · rename_i same
        rw [same]
        rfl
      · rfl
  | call other =>
      change ((if client = other then _ else world.agents client) :
        TrafficProcess).runtime.core = _
      split
      · rename_i same
        rw [same]
        exact TrafficProcess.core_call _
      · rfl

/-- A slot that is written shows what it showed before, unless its result is new. -/
theorem shown_modifySlot {client : String} {slot : RequestSlot} {other : String}
    (result : ∀ status, slot.result = some (.ok status) →
      (world.control.slots client).result = some (.ok status) ∨
        ∃ id : Nat, (world.control.slots client).outstanding = some id ∧
          (id, .ok status) ∈ world.answers)
    (outstanding : ∀ id answer, slot.outstanding = some id → (id, answer) ∉ world.answers)
    (shown : (world.modifySlot client slot).Shown clients other) :
    world.Shown clients other := by
  rcases shown with ⟨mem, ready | ⟨polling, status, source, inForce⟩⟩
  · exact ⟨mem, .inl ready⟩
  · refine ⟨mem, .inr ⟨polling, status, ?_, inForce⟩⟩
    change ((if other = client then slot else world.control.slots other) :
        RequestSlot).result = some (.ok status) ∨
      ∃ id : Nat, ((if other = client then slot else world.control.slots other) :
        RequestSlot).outstanding = some id ∧ (id, .ok status) ∈ world.answers at source
    by_cases same : other = client
    · rw [if_pos same] at source
      rw [same]
      rcases source with isResult | ⟨id, waits, isAnswer⟩
      · exact result status isResult
      · exact absurd isAnswer (outstanding id _ waits)
    · rw [if_neg same] at source
      exact source

theorem mem_of_lookup {answers : List (Nat × Except Unit AgentStatus)} {id : Nat}
    {answer : Except Unit AgentStatus} (found : answers.lookup id = some answer) :
    (id, answer) ∈ answers := by
  induction answers with
  | nil => cases found
  | cons first answers ih =>
      rcases first with ⟨key, value⟩
      rw [List.lookup_cons] at found
      split at found
      · rename_i same
        obtain rfl := Option.some.inj found
        rw [eq_of_beq same]
        exact List.mem_cons_self
      · exact List.mem_cons_of_mem _ (ih found)

/-- A phase begins without a slot that shows anything, unless it is the end of the call. -/
theorem shown_advance {fresh : String → Bool} {expired : Bool} {client : String}
    (shown : (world.advance clients fresh expired).Shown clients client) :
    world.Shown clients client := by
  unfold ControlWorld.advance at shown
  split at shown
  · rcases shown with ⟨mem, ready | ⟨-, status, isResult | ⟨id, waits, -⟩, -⟩⟩
    · refine ⟨mem, ?_⟩
      change world.control.nextPhase clients fresh expired = .ready at ready
      unfold TrafficController.nextPhase at ready
      cases phase : world.control.phase with
      | ready => exact .inl rfl
      | polling =>
          rw [phase] at ready
          dsimp only at ready
          split at ready
          · rename_i all
            have isReady := List.all_eq_true.mp all client mem
            unfold RequestSlot.ready at isReady
            split at isReady
            · rename_i status isResult
              refine .inr ⟨rfl, status, .inl isResult, ?_⟩
              unfold statusReady at isReady
              simp only [Bool.and_eq_true, decide_eq_true_eq] at isReady
              exact isReady.1.1.1.2
            · cases isReady
          · split at ready
            · cases ready
            · cases ready
      | idle => rw [phase] at ready; cases ready
      | aborting => rw [phase] at ready; cases ready
      | resetting =>
          rw [phase] at ready
          dsimp only at ready
          split at ready
          · cases ready
          · cases ready
      | loading =>
          rw [phase] at ready
          dsimp only at ready
          split at ready
          · cases ready
          · cases ready
      | enabling =>
          rw [phase] at ready
          dsimp only at ready
          split at ready
          · cases ready
          · cases ready
    · cases isResult
    · cases waits
  · exact shown

/-- An answer that is not a refusal carries the status afterwards. -/
theorem served_status {answer : Except Refusal Unit} {status after : AgentStatus}
    (is_ : (.ok status : Except Unit AgentStatus) =
      (answer.mapError fun _ => ()).map fun _ => after) : status = after := by
  cases answer with
  | ok _ => exact Except.ok.inj is_
  | error _ => cases is_

/-- What a step shows was shown before, or is the status of the process that it has served. -/
theorem shown_step (numbered : world.Numbered) {event : ControlEvent}
    (same : ∀ generation flows, event ≠ .start generation flows) {client : String}
    (shown : (world.step float clients reconnectDelayFor event).Shown clients client) :
    world.Shown clients client ∨
      world.control.call.InForce client
        ((world.step float clients reconnectDelayFor event).agents client).runtime.status := by
  cases event with
  | start generation flows => exact absurd rfl (same generation flows)
  | attempt other =>
      refine .inl ?_
      change (world.attempt clients other).Shown clients client at shown
      unfold ControlWorld.attempt at shown
      dsimp only at shown
      split at shown
      · exact shown
      · split at shown
        · have written : (world.modifySlot other
              { world.control.slots other with
                attempts := (world.control.slots other).attempts + 1
                outstanding := some world.attempts }).Shown clients client := shown
          refine shown_modifySlot ?_ ?_ written
          · exact fun status => .inl
          · intro id answer waits isAnswer
            obtain rfl := Option.some.inj waits
            exact Nat.lt_irrefl _ (numbered.answered _ answer isAnswer)
        · exact shown
  | deliver id script =>
      change (world.deliver id script).Shown clients client at shown
      change _ ∨ world.control.call.InForce client
        ((world.deliver id script).agents client).runtime.status
      unfold ControlWorld.deliver at shown ⊢
      cases found : world.pending.find? fun attempt => attempt.id = id with
      | none =>
          rw [found] at shown
          exact .inl shown
      | some attempt =>
          rw [found] at shown
          dsimp only at shown ⊢
          rcases shown with ⟨mem, ready | ⟨polling, status, isResult | ⟨id, waits, isAnswer⟩, inForce⟩⟩
          · exact .inl ⟨mem, .inl ready⟩
          · exact .inl ⟨mem, .inr ⟨polling, status, .inl isResult, inForce⟩⟩
          · rcases List.mem_cons.mp isAnswer with new | old
            · obtain ⟨rfl, isStatus⟩ := Prod.mk.inj new
              have isAttempt := List.find?_some found
              have owner := (numbered.outstanding client _ waits).2 attempt
                (List.mem_of_find?_eq_some found) rfl
              refine .inr ?_
              subst owner
              rw [ControlWorld.served_status isStatus] at inForce
              change world.control.call.InForce attempt.client
                ((if attempt.client = attempt.client then _ else _ : TrafficProcess)).runtime.status
              rw [if_pos rfl]
              exact inForce
            · exact .inl ⟨mem, .inr ⟨polling, status, .inr ⟨id, waits, old⟩, inForce⟩⟩
  | lose id => exact .inl shown
  | timeout other =>
      refine .inl ?_
      change (world.timeout other).Shown clients client at shown
      unfold ControlWorld.timeout at shown
      dsimp only at shown
      split at shown
      · exact shown
      · refine shown_modifySlot ?_ ?_ shown
        · intro status isOk
          dsimp only at isOk
          split at isOk
          · cases isOk
          · cases isOk
        · exact fun id answer waits => nomatch waits
  | receive other =>
      refine .inl ?_
      change (world.receive other).Shown clients client at shown
      unfold ControlWorld.receive at shown
      dsimp only at shown
      split at shown
      · exact shown
      · rename_i answer found
        refine shown_modifySlot ?_ ?_ shown
        · intro status isOk
          obtain rfl := Option.some.inj isOk
          obtain ⟨id, waits, isAnswer⟩ := Option.bind_eq_some_iff.mp found
          exact .inr ⟨id, waits, mem_of_lookup isAnswer⟩
        · exact fun id answer waits => nomatch waits
  | advance fresh expired => exact .inl (shown_advance shown)
  | tick other now clock script => exact .inl shown
  | call other => exact .inl shown

theorem call_step {event : ControlEvent}
    (same : ∀ generation flows, event ≠ .start generation flows) :
    (world.step float clients reconnectDelayFor event).control.call = world.control.call := by
  cases event with
  | start generation flows => exact absurd rfl (same generation flows)
  | attempt other =>
      change (world.attempt clients other).control.call = _
      unfold ControlWorld.attempt
      dsimp only
      split
      · rfl
      · split
        · rfl
        · rfl
  | deliver id script =>
      change (world.deliver id script).control.call = _
      unfold ControlWorld.deliver
      split
      · rfl
      · rfl
  | lose id => rfl
  | timeout other =>
      change (world.timeout other).control.call = _
      unfold ControlWorld.timeout
      dsimp only
      split
      · rfl
      · rfl
  | receive other =>
      change (world.receive other).control.call = _
      unfold ControlWorld.receive
      dsimp only
      split
      · rfl
      · rfl
  | advance fresh expired =>
      change (world.advance clients fresh expired).control.call = _
      unfold ControlWorld.advance
      split
      · rfl
      · rfl
  | tick other now clock script => rfl
  | call other => rfl

theorem Kept.step (kept : world.Kept clients) (numbered : world.Numbered) {event : ControlEvent}
    (same : ∀ generation flows, event ≠ .start generation flows)
    (inTime : ¬ world.Late clients event) :
    (world.step float clients reconnectDelayFor event).Kept clients := by
  intro client shown
  rw [call_step same]
  rcases shown_step numbered same shown with before | served
  · exact inForce_of_core (core_step numbered kept inTime before) (kept client before)
  · exact served

/-- A call that has returned stays in force until the next one. -/
theorem ready_step {event : ControlEvent} (same : ∀ generation flows, event ≠ .start generation flows)
    (ready : world.control.phase = .ready) :
    (world.step float clients reconnectDelayFor event).control.phase = .ready := by
  cases event with
  | start generation flows => exact absurd rfl (same generation flows)
  | attempt other =>
      change (world.attempt clients other).control.phase = _
      unfold ControlWorld.attempt
      rw [ready]
      exact ready
  | deliver id script =>
      change (world.deliver id script).control.phase = _
      unfold ControlWorld.deliver
      split
      · exact ready
      · exact ready
  | lose id => exact ready
  | timeout other =>
      change (world.timeout other).control.phase = _
      unfold ControlWorld.timeout
      dsimp only
      split
      · exact ready
      · exact ready
  | receive other =>
      change (world.receive other).control.phase = _
      unfold ControlWorld.receive
      dsimp only
      split
      · exact ready
      · exact ready
  | advance fresh expired =>
      change (world.advance clients fresh expired).control.phase = _
      unfold ControlWorld.advance
      split
      · change world.control.nextPhase clients fresh expired = .ready
        unfold TrafficController.nextPhase
        rw [ready]
      · exact ready
  | tick other now clock script => exact ready
  | call other => exact ready

/-! ## Runs -/

theorem Kept.run (kept : world.Kept clients) (numbered : world.Numbered)
    {events : List ControlEvent}
    (undisturbed : Undisturbed float clients reconnectDelayFor world events) :
    (world.run float clients reconnectDelayFor events).Kept clients := by
  induction events generalizing world with
  | nil => exact kept
  | cons event events ih =>
      obtain ⟨same, inTime, rest⟩ := undisturbed
      exact ih (kept.step numbered same inTime) (numbered.step event) rest

theorem call_run {events : List ControlEvent}
    (undisturbed : Undisturbed float clients reconnectDelayFor world events) :
    (world.run float clients reconnectDelayFor events).control.call = world.control.call := by
  induction events generalizing world with
  | nil => rfl
  | cons event events ih =>
      obtain ⟨same, -, rest⟩ := undisturbed
      exact (ih rest).trans (call_step same)

/-- From the return of a call on, its clients keep what they have. -/
theorem core_run (numbered : world.Numbered) (kept : world.Kept clients)
    (ready : world.control.phase = .ready) {events : List ControlEvent}
    (undisturbed : Undisturbed float clients reconnectDelayFor world events) {client : String}
    (mem : client ∈ clients) :
    (world.run float clients reconnectDelayFor events).control.phase = .ready ∧
      ((world.run float clients reconnectDelayFor events).agents client).runtime.core =
        (world.agents client).runtime.core := by
  induction events generalizing world with
  | nil => exact ⟨ready, rfl⟩
  | cons event events ih =>
      obtain ⟨same, inTime, rest⟩ := undisturbed
      obtain ⟨stays, cores⟩ := ih (numbered.step event) (kept.step numbered same inTime)
        (ready_step same ready) rest
      exact ⟨stays, cores.trans (core_step numbered kept inTime ⟨mem, .inl ready⟩)⟩

/-- Every process is consistent with the load that it has served last. -/
def AgentsConsistent (world : ControlWorld) : Prop := ∀ client, (world.agents client).Consistent

theorem AgentsConsistent.modifyAgent (consistent : world.AgentsConsistent) (client : String)
    {agent : TrafficProcess} (isConsistent : agent.Consistent) :
    (world.modifyAgent client agent).AgentsConsistent := by
  intro other
  change ((if other = client then agent else world.agents other) : TrafficProcess).Consistent
  split
  · exact isConsistent
  · exact consistent other

theorem AgentsConsistent.step (consistent : world.AgentsConsistent) (event : ControlEvent) :
    (world.step float clients reconnectDelayFor event).AgentsConsistent := by
  cases event with
  | start generation flows =>
      change (world.start float clients generation flows).AgentsConsistent
      unfold ControlWorld.start
      split
      · exact consistent
      · split
        · exact consistent
        · split
          · exact consistent
          · split
            · exact consistent
            · exact consistent
  | attempt other =>
      change (world.attempt clients other).AgentsConsistent
      unfold ControlWorld.attempt
      dsimp only
      split
      · exact consistent
      · split
        · exact consistent
        · exact consistent
  | deliver id script =>
      change (world.deliver id script).AgentsConsistent
      unfold ControlWorld.deliver
      split
      · exact consistent
      · rename_i attempt _
        exact consistent.modifyAgent attempt.client
          (TrafficRuntime.Consistent.handleRequest (consistent attempt.client) script attempt.op
            attempt.payload)
  | lose id => exact consistent
  | timeout other =>
      change (world.timeout other).AgentsConsistent
      unfold ControlWorld.timeout
      dsimp only
      split
      · exact consistent
      · exact consistent
  | receive other =>
      change (world.receive other).AgentsConsistent
      unfold ControlWorld.receive
      dsimp only
      split
      · exact consistent
      · exact consistent
  | advance fresh expired =>
      change (world.advance clients fresh expired).AgentsConsistent
      unfold ControlWorld.advance
      split
      · exact consistent
      · exact consistent
  | tick other now clock script =>
      exact consistent.modifyAgent other ((consistent other).step (.tick now clock script))
  | call other => exact consistent.modifyAgent other ((consistent other).step .call)

theorem AgentsConsistent.run (consistent : world.AgentsConsistent) (events : List ControlEvent) :
    (world.run float clients reconnectDelayFor events).AgentsConsistent := by
  induction events generalizing world with
  | nil => exact consistent
  | cons event events ih => exact ih (consistent.step event)

end ControlWorld

/-- A process that is enabled has a plan with the digest that it reports. -/
theorem TrafficRuntime.Consistent.digest {runtime : TrafficRuntime} {loaded : Option LoadPayload}
    (consistent : runtime.Consistent loaded) (enabled : runtime.status.enabled = true) :
    runtime.plan.map ClientTrafficPlan.digest = some runtime.status.planDigest := by
  cases loaded with
  | none =>
      rw [consistent.unloaded rfl] at enabled
      cases enabled
  | some payload =>
      obtain ⟨-, planDigest, digest⟩ := consistent.generation payload rfl
      rw [consistent.plan, planDigest, ← digest]
      rfl

/-- If no process that has shown itself ready for a call serves a reset or a load any more, then
whatever else is lost, repeated or late: when the call returns, every client has the call's
generation, digest and plan and is enabled, and it keeps them until the next call. -/
theorem generation_kept (float : String → Except String Binary64) (clients : List String)
    (reconnectDelayFor : String → Nat → Nat) (earlier before later : List ControlEvent)
    (second : (({} : ControlWorld).run float clients reconnectDelayFor earlier).control.phase =
      .resetting)
    (undisturbed : ControlWorld.Undisturbed float clients reconnectDelayFor
      (({} : ControlWorld).run float clients reconnectDelayFor earlier) (before ++ later))
    (ready : ((({} : ControlWorld).run float clients reconnectDelayFor earlier).run float clients
      reconnectDelayFor before).control.phase = .ready)
    (client : String) (mem : client ∈ clients) :
    let first := ({} : ControlWorld).run float clients reconnectDelayFor earlier
    let returned := first.run float clients reconnectDelayFor before
    let last := returned.run float clients reconnectDelayFor later
    first.control.call.InForce client (last.agents client).runtime.status ∧
      (last.agents client).runtime.plan.map ClientTrafficPlan.digest =
        some (planDigest (first.control.call.plan client)) ∧
      (last.agents client).runtime.core = (returned.agents client).runtime.core := by
  intro first returned last
  obtain ⟨until_, after⟩ := ControlWorld.undisturbed_append.mp undisturbed
  have numbered : first.Numbered := ControlWorld.numbered_start.run earlier
  have kept : first.Kept clients := by
    intro other shown
    rcases shown with ⟨-, isReady | ⟨polling, -⟩⟩
    · exact nomatch second.symm.trans isReady
    · exact nomatch second.symm.trans polling
  have keptReturned : returned.Kept clients := kept.run numbered until_
  obtain ⟨stays, core⟩ :=
    ControlWorld.core_run (numbered.run before) keptReturned ready after mem
  have inForce : first.control.call.InForce client (last.agents client).runtime.status := by
    refine ControlWorld.inForce_of_core core ?_
    rw [← ControlWorld.call_run until_]
    exact keptReturned client ⟨mem, .inl ready⟩
  have consistent : last.AgentsConsistent :=
    ControlWorld.AgentsConsistent.run
      (ControlWorld.AgentsConsistent.run
        (ControlWorld.AgentsConsistent.run (fun _ => TrafficProcess.consistent_start) earlier)
        before) later
  refine ⟨inForce, ?_, core⟩
  rw [(consistent client).digest inForce.2.2, inForce.2.1]

/-- A first call over one client is one that `generation_kept` is about. -/
theorem cleanCall_premises {float : String → Except String Binary64}
    {reconnectDelayFor : String → Nat → Nat} {client : String} {flows : List TrafficFlow}
    {plan : ClientPlan} {decoded : ClientTrafficPlan} {flow : FlowPlan} {generation : Nat}
    (startable : ControlWorld.Startable float client flows plan) (readable : Readable plan decoded)
    (isFlow : decoded.flows = [flow]) (udp : flow.protocol = .udp) (positive : 0 < generation)
    (word : generation < 2 ^ 64) :
    (({} : ControlWorld).run float [client] reconnectDelayFor
      [.start generation flows]).control.phase = .resetting ∧
    ControlWorld.Undisturbed float [client] reconnectDelayFor
      (({} : ControlWorld).run float [client] reconnectDelayFor [.start generation flows])
      (ControlWorld.cleanPhases client 0 ++ [.lose 0]) ∧
    ((({} : ControlWorld).run float [client] reconnectDelayFor [.start generation flows]).run float
      [client] reconnectDelayFor (ControlWorld.cleanPhases client 0)).control.phase = .ready := by
  obtain ⟨control, -, -, -, undisturbed⟩ := @ControlWorld.run_call float reconnectDelayFor {} client
    flows plan decoded flow generation startable readable isFlow udp positive word nofun (.inl rfl)
  refine ⟨?_, ?_, ?_⟩
  · rw [ControlWorld.run_start startable generation (.inl rfl)]
  · refine ControlWorld.undisturbed_append.mpr ⟨undisturbed, ?_, ?_, trivial⟩
    · exact nofun
    · exact id
  · exact congrArg TrafficController.phase control

/-- A call over one client, with an attempt that is lost later. -/
theorem generation_kept_loop :
    let first := ({} : ControlWorld).run loopFloat ["a"] (fun _ _ => 0) [.start 1 loopFlows]
    let returned := first.run loopFloat ["a"] (fun _ _ => 0) (ControlWorld.cleanPhases "a" 0)
    let last := returned.run loopFloat ["a"] (fun _ _ => 0) [.lose 0]
    (last.agents "a").runtime.core = (returned.agents "a").runtime.core := by
  obtain ⟨resetting, undisturbed, ready⟩ := @cleanCall_premises loopFloat (fun _ _ => 0) "a"
    loopFlows loopPlan loopDecoded loopFlow 1 loop_startable loop_readable rfl rfl (by decide)
    (by decide)
  have kept := generation_kept loopFloat ["a"] (fun _ _ => 0) [.start 1 loopFlows]
    (ControlWorld.cleanPhases "a" 0) [.lose 0] resetting undisturbed ready "a" List.mem_cons_self
  exact kept.2.2

/-- A load is served whatever generation is in force. -/
theorem core_late_load {world : ControlWorld} {id generation : Nat} {client : String}
    {plan : ClientPlan} {decoded : ClientTrafficPlan} (readable : Readable plan decoded)
    (positive : 0 < generation) (word : generation < 2 ^ 64)
    (found : world.pending.find? (fun attempt => attempt.id = id) =
      some ⟨id, client, "load_plan", loadRequest generation plan⟩) :
    ((world.deliver id {}).agents client).runtime.core =
      (some decoded, .ofNat generation, planDigest plan, false) := by
  unfold ControlWorld.deliver
  rw [found]
  change ((if client = client then _ else world.agents client) : TrafficProcess).runtime.core = _
  rw [if_pos rfl, request_load readable positive word]
  rfl

/-- What a load left over from a call that failed does after the next call has returned. -/
theorem late_load_after {failed : ControlWorld} (idle : failed.control.phase = .idle)
    (attempts : failed.attempts = 4)
    (pending : failed.pending = [⟨1, "a", "load_plan", loadRequest 1 loopPlan⟩]) :
    let returned := failed.run loopFloat ["a"] (fun _ _ => 0)
      (ControlWorld.cleanCall "a" 4 2 loopFlows)
    returned.control.phase = .ready ∧ returned.control.call.generation = 2 ∧
      (returned.agents "a").runtime.status.generation = 2 ∧
      (returned.agents "a").runtime.status.enabled = true ∧
      ((returned.deliver 1 {}).agents "a").runtime.status.generation = 1 ∧
      ((returned.deliver 1 {}).agents "a").runtime.status.enabled = false := by
  intro returned
  have below : ∀ attempt ∈ failed.pending, attempt.id < failed.attempts := by
    rw [pending, attempts]
    intro attempt mem
    rw [List.mem_singleton.mp mem]
    decide
  have ended := @ControlWorld.run_call loopFloat (fun _ _ => 0) failed "a" loopFlows loopPlan
    loopDecoded loopFlow 2 loop_startable loop_readable rfl rfl (by decide) (by decide) below
    (.inl idle)
  rw [attempts] at ended
  obtain ⟨control, stillPending, -, agent, -⟩ := ended
  have core := @core_late_load returned 1 1 "a" loopPlan loopDecoded loop_readable (by decide)
    (by decide) (by rw [stillPending, pending]; rfl)
  have generation := congrArg (fun core => core.2.1) core
  have enabled := congrArg (fun core => core.2.2.2) core
  have isUp : returned.agents "a" = ControlWorld.flowUp ⟨.ofNat 2, planDigest loopPlan, loopDecoded⟩
      loopFlow := agent
  refine ⟨congrArg TrafficController.phase control,
    congrArg (fun control => control.call.generation) control, ?_, ?_, generation, enabled⟩
  · rw [isUp]
    rfl
  · rw [isUp]
    rfl

/-- The load of a call that failed is served after the next call has returned, and takes the
process back to the first generation. -/
theorem late_load_regresses :
    let returned := (({} : ControlWorld).run loopFloat ["a"] (fun _ _ => 0)
      (ControlWorld.failedCall "a" 0 1 loopFlows)).run loopFloat ["a"] (fun _ _ => 0)
        (ControlWorld.cleanCall "a" 4 2 loopFlows)
    returned.control.phase = .ready ∧ returned.control.call.generation = 2 ∧
      (returned.agents "a").runtime.status.generation = 2 ∧
      (returned.agents "a").runtime.status.enabled = true ∧
      ((returned.deliver 1 {}).agents "a").runtime.status.generation = 1 ∧
      ((returned.deliver 1 {}).agents "a").runtime.status.enabled = false := by
  obtain ⟨idle, attempts, pending⟩ := @ControlWorld.run_failedCall loopFloat (fun _ _ => 0) {} "a"
    loopFlows loopPlan loop_startable 1 nofun (.inl rfl)
  exact late_load_after idle attempts pending

end NetOpsBench
