import NetOpsBench.ClientAgent.TrafficInvariant

/-!
# An agent without a plan

Before the first load, after a reset and after a load that could not bind, the status is the
default one, whose generation is zero and whose digest is empty. `validate_generation` compares a
request with that status, so that a request to disable which names generation zero and no digest
passes, and `disable` then finds that none of the expected listeners is missing. No other request
is served to an agent without a plan, and none other makes it ready (`unloaded_rejects`).
-/

namespace NetOpsBench

open Fallible Program

/-- The payload that agrees with the default status. -/
def GenerationPayload.blank : GenerationPayload := { generation := 0, planDigest := "" }

namespace TrafficRuntime

/-- What an agent without a plan has: no scheduler, and the counts and the names of the default
status. -/
structure Vacant (runtime : TrafficRuntime) : Prop where
  plan : runtime.plan = none
  sender : runtime.senderTask = none
  generation : runtime.status.generation = 0
  planDigest : runtime.status.planDigest = ""
  listeners : runtime.status.activeListeners = runtime.status.expectedListeners

/-- A request that is refused and leaves the status as it was. -/
def Rejects (runtime : TrafficRuntime) (script : RequestScript) (op : String) (payload : Json) :
    Prop :=
  ∃ refusal, (outcome (handleRequest script op payload) runtime).1 = .error refusal ∧
    (outcome (handleRequest script op payload) runtime).2.status = runtime.status

theorem handleRequest_enable (script : RequestScript) (payload : Json) :
    handleRequest script "enable" payload =
      (decode script (GenerationPayload.deserialize payload) >>= enable script) := rfl

theorem handleRequest_disable (script : RequestScript) (payload : Json) :
    handleRequest script "disable" payload =
      (decode script (GenerationPayload.deserialize payload) >>= fun request =>
        validateGeneration request >>= fun _ => disable) := rfl

theorem vacant_cleared (now : UInt64) : (cleared now).Vacant := ⟨rfl, rfl, rfl, rfl, rfl⟩

variable {runtime : TrafficRuntime}

theorem Vacant.disabled (vacant : runtime.Vacant) : runtime.disabled.Vacant :=
  ⟨vacant.plan, rfl, vacant.generation, vacant.planDigest, vacant.listeners⟩

/-- What makes it ready: there is no listener to wait for. -/
theorem Vacant.disabled_ready (vacant : runtime.Vacant) : runtime.disabled.status.ready = true :=
  beq_iff_eq.mpr vacant.listeners

theorem Vacant.mismatch (vacant : runtime.Vacant) {payload : GenerationPayload}
    (named : payload ≠ .blank) :
    runtime.status.generation ≠ payload.generation ∨
      runtime.status.planDigest ≠ payload.planDigest := by
  by_contra same
  rw [not_or, not_not, not_not, vacant.generation, vacant.planDigest] at same
  apply named
  obtain ⟨generation, planDigest⟩ := payload
  obtain ⟨rfl, rfl⟩ := same
  rfl

theorem Vacant.enable (vacant : runtime.Vacant) (script : RequestScript)
    (payload : GenerationPayload) :
    ∃ text, outcome (TrafficRuntime.enable script payload) runtime =
      (.error (.message text), runtime) := by
  unfold TrafficRuntime.enable validateGeneration
  rw [bind_assoc, outcome_bind_ok (outcome_get runtime)]
  by_cases mismatch : runtime.status.generation ≠ payload.generation ∨
      runtime.status.planDigest ≠ payload.planDigest
  · rw [reject, if_pos mismatch]
    exact ⟨_, rfl⟩
  · rw [reject, if_neg mismatch, outcome_bind_ok (outcome_ofExcept _ _),
      outcome_bind_ok (outcome_get runtime), vacant.sender, vacant.plan]
    exact ⟨_, rfl⟩

theorem Vacant.enable_refused (vacant : runtime.Vacant) (script : RequestScript)
    (payload : Json) :
    ∃ refusal, outcome (handleRequest script "enable" payload) runtime =
      (.error refusal, runtime) := by
  rw [handleRequest_enable]
  cases GenerationPayload.deserialize payload with
  | none => exact ⟨_, rfl⟩
  | some request =>
      obtain ⟨text, ended⟩ := vacant.enable script request
      exact ⟨_, ended⟩

theorem Vacant.disable_refused (vacant : runtime.Vacant) (script : RequestScript) {payload : Json}
    (named : GenerationPayload.deserialize payload ≠ some .blank) :
    ∃ refusal, outcome (handleRequest script "disable" payload) runtime =
      (.error refusal, runtime) := by
  rw [handleRequest_disable]
  cases decoded : GenerationPayload.deserialize payload with
  | none => exact ⟨_, rfl⟩
  | some request =>
      rw [decoded] at named
      have mismatch := vacant.mismatch fun same : request = .blank => named (congrArg some same)
      change ∃ refusal, outcome (validateGeneration request >>= fun _ => TrafficRuntime.disable)
        runtime = _
      unfold validateGeneration
      rw [bind_assoc, outcome_bind_ok (outcome_get runtime), reject, if_pos mismatch]
      exact ⟨_, rfl⟩

theorem Vacant.disable_blank (vacant : runtime.Vacant) (script : RequestScript) {payload : Json}
    (blank : GenerationPayload.deserialize payload = some .blank) :
    outcome (handleRequest script "disable" payload) runtime = (.ok (), runtime.disabled) := by
  have agrees : ¬ (runtime.status.generation ≠ GenerationPayload.blank.generation ∨
      runtime.status.planDigest ≠ GenerationPayload.blank.planDigest) := by
    rw [vacant.generation, vacant.planDigest]
    exact not_or.mpr ⟨not_not.mpr rfl, not_not.mpr rfl⟩
  rw [handleRequest_disable, blank]
  change outcome (validateGeneration .blank >>= fun _ => TrafficRuntime.disable) runtime = _
  unfold validateGeneration
  rw [bind_assoc, outcome_bind_ok (outcome_get runtime), reject, if_neg agrees]
  rfl

/-- Every other operation leaves the agent as it was, or clears it, or loads a plan. -/
theorem handleRequest_other (script : RequestScript) {op : String} (notEnable : op ≠ "enable")
    (notDisable : op ≠ "disable") (payload : Json) :
    (outcome (handleRequest script op payload) runtime).2 = runtime ∨
    (outcome (handleRequest script op payload) runtime).2 = cleared script.now ∨
    (outcome (handleRequest script op payload) runtime).2.plan ≠ none := by
  unfold handleRequest
  by_cases isLoad : op = "load_plan"
  · rw [if_pos isLoad]
    cases LoadPayload.deserialize payload with
    | none => exact .inl rfl
    | some request =>
        change (outcome (load script request) runtime).2 = _ ∨ _
        rcases load_cases script request runtime with ⟨text, -, ended⟩ | ⟨error, -, -, ended⟩ |
          ⟨-, ended⟩
        · exact .inl (congrArg Prod.snd ended)
        · exact .inr (.inl (congrArg Prod.snd ended))
        · refine .inr (.inr ?_)
          change (outcome (load script request) runtime).2.plan ≠ none
          rw [ended]
          exact nofun
  · rw [if_neg isLoad, if_neg notEnable, if_neg notDisable]
    by_cases isReset : op = "reset"
    · rw [if_pos isReset]
      exact .inr (.inl rfl)
    · rw [if_neg isReset]
      apply Or.inl
      split
      · rfl
      · rfl

/-- An agent that has no plan after a request had none before, or is cleared. -/
theorem handleRequest_unloads {script : RequestScript} {op : String} {payload : Json}
    (unloaded : (outcome (handleRequest script op payload) runtime).2.plan = none) :
    (outcome (handleRequest script op payload) runtime).2 = cleared script.now ∨
      runtime.plan = none := by
  by_cases isEnable : op = "enable"
  · subst isEnable
    rw [handleRequest_enable] at unloaded ⊢
    cases decoded : GenerationPayload.deserialize payload with
    | none =>
        rw [decoded] at unloaded
        exact .inr unloaded
    | some request =>
        rw [decoded] at unloaded
        change (outcome (TrafficRuntime.enable script request) runtime).2.plan = none at unloaded
        rcases enable_cases script request runtime with same | ⟨plan, -, isPlan, after⟩
        · rw [same] at unloaded
          exact .inr unloaded
        · rw [after] at unloaded
          split at unloaded
          · exact .inr unloaded
          · exact .inr unloaded
  · by_cases isDisable : op = "disable"
    · subst isDisable
      rw [handleRequest_disable] at unloaded ⊢
      cases decoded : GenerationPayload.deserialize payload with
      | none =>
          rw [decoded] at unloaded
          exact .inr unloaded
      | some request =>
          rw [decoded] at unloaded
          change (outcome (validateGeneration request >>= fun _ => TrafficRuntime.disable)
            runtime).2.plan = none at unloaded
          rcases disable_cases request runtime with same | after
          · rw [same] at unloaded
            exact .inr unloaded
          · rw [after] at unloaded
            exact .inr unloaded
    · rcases handleRequest_other script isEnable isDisable payload with same | clears | loads
      · rw [same] at unloaded
        exact .inr unloaded
      · exact .inl clears
      · exact absurd unloaded loads

/-- What a request leaves of a vacant agent that stays without a plan. -/
theorem Vacant.handleRequest (vacant : runtime.Vacant) {script : RequestScript} {op : String}
    {payload : Json}
    (unloaded : (outcome (TrafficRuntime.handleRequest script op payload) runtime).2.plan = none) :
    (outcome (TrafficRuntime.handleRequest script op payload) runtime).2 = runtime ∨
    (outcome (TrafficRuntime.handleRequest script op payload) runtime).2 = cleared script.now ∨
    op = "disable" ∧ GenerationPayload.deserialize payload = some .blank ∧
      (outcome (TrafficRuntime.handleRequest script op payload) runtime).2 = runtime.disabled := by
  by_cases isEnable : op = "enable"
  · subst isEnable
    obtain ⟨refusal, ended⟩ := vacant.enable_refused script payload
    exact .inl (congrArg Prod.snd ended)
  · by_cases isDisable : op = "disable"
    · subst isDisable
      by_cases blank : GenerationPayload.deserialize payload = some .blank
      · exact .inr (.inr ⟨rfl, blank, congrArg Prod.snd (vacant.disable_blank script blank)⟩)
      · obtain ⟨refusal, ended⟩ := vacant.disable_refused script blank
        exact .inl (congrArg Prod.snd ended)
    · rcases handleRequest_other script isEnable isDisable payload with same | clears | loads
      · exact .inl same
      · exact .inr (.inl clears)
      · exact absurd unloaded loads

/-- An agent without a plan refuses to enable; it refuses to disable unless the request is blank. -/
theorem Vacant.rejects (vacant : runtime.Vacant) {script : RequestScript} {op : String}
    {payload : Json} (isOp : op = "enable" ∨ op = "disable") :
    runtime.Rejects script op payload ↔
      ¬ (op = "disable" ∧ GenerationPayload.deserialize payload = some .blank) := by
  rcases isOp with rfl | rfl
  · refine ⟨fun _ both => ?_, fun _ => ?_⟩
    · exact absurd both.1 (by decide +kernel)
    · obtain ⟨refusal, ended⟩ := vacant.enable_refused script payload
      unfold Rejects
      rw [ended]
      exact ⟨refusal, rfl, rfl⟩
  · constructor
    · rintro ⟨refusal, refused, -⟩ ⟨-, blank⟩
      rw [vacant.disable_blank script blank] at refused
      cases refused
    · intro spared
      obtain ⟨refusal, ended⟩ := vacant.disable_refused script fun blank => spared ⟨rfl, blank⟩
      unfold Rejects
      rw [ended]
      exact ⟨refusal, rfl, rfl⟩

end TrafficRuntime

/-! ## Runs -/

/-- A request to disable that names generation zero and no digest. -/
def TrafficEvent.BlankDisable : TrafficEvent → Prop
  | .request _ op payload =>
      op = "disable" ∧ GenerationPayload.deserialize payload = some .blank
  | .tick .. => False
  | .call => False

namespace TrafficProcess

/-- A request to enable or to disable is refused, and the status stays. -/
def Rejects (process : TrafficProcess) : TrafficEvent → Prop
  | .request script op payload =>
      op = "enable" ∨ op = "disable" → process.runtime.Rejects script op payload
  | .tick .. => True
  | .call => True

/-- A process without a plan is vacant. -/
def Vacates (process : TrafficProcess) : Prop :=
  process.runtime.plan = none → process.runtime.Vacant

/-- A process without a plan is not ready. -/
def Unready (process : TrafficProcess) : Prop :=
  process.runtime.plan = none → process.runtime.status.ready = false

variable {reconnectDelayFor : String → Nat → Nat} {process : TrafficProcess}

/-- The scheduler leaves the plan alone, and a process without a scheduler. -/
theorem step_tick (now : Nat) (clock : UInt64) (script : Nat → FlowScript) :
    (process.step reconnectDelayFor (.tick now clock script)).runtime.plan =
        process.runtime.plan ∧
      (process.runtime.senderTask = none →
        process.step reconnectDelayFor (.tick now clock script) = process) := by
  obtain ⟨⟨status, plan, listenerTasks, senderTask⟩, loaded⟩ := process
  refine ⟨rfl, fun noSender => ?_⟩
  obtain rfl : senderTask = none := noSender
  rfl

theorem step_call :
    (process.step reconnectDelayFor .call).runtime.plan = process.runtime.plan ∧
      (process.runtime.senderTask = none →
        process.step reconnectDelayFor .call = process) := by
  unfold TrafficProcess.step
  dsimp only
  cases process.runtime.senderTask with
  | none => exact ⟨rfl, fun _ => rfl⟩
  | some scheduler =>
      cases calls : scheduler.calls with
      | nil =>
          simp only [calls]
          exact ⟨trivial, nofun⟩
      | cons call calls' =>
          simp only [calls]
          exact ⟨trivial, nofun⟩

theorem Vacates.step (vacates : process.Vacates) (event : TrafficEvent) :
    (process.step reconnectDelayFor event).Vacates := by
  intro unloaded
  cases event with
  | request script op payload =>
      rcases TrafficRuntime.handleRequest_unloads unloaded with clears | before
      · change (outcome (TrafficRuntime.handleRequest script op payload) process.runtime).2.Vacant
        rw [clears]
        exact TrafficRuntime.vacant_cleared script.now
      · have vacant := vacates before
        change (outcome (TrafficRuntime.handleRequest script op payload) process.runtime).2.Vacant
        rcases vacant.handleRequest unloaded with same | clears | ⟨-, -, disables⟩
        · rw [same]
          exact vacant
        · rw [clears]
          exact TrafficRuntime.vacant_cleared script.now
        · rw [disables]
          exact vacant.disabled
  | tick now clock script =>
      obtain ⟨plan, same⟩ := @step_tick reconnectDelayFor process now clock script
      have vacant := vacates (plan.symm.trans unloaded)
      rw [same vacant.sender]
      exact vacant
  | call =>
      obtain ⟨plan, same⟩ := @step_call reconnectDelayFor process
      have vacant := vacates (plan.symm.trans unloaded)
      rw [same vacant.sender]
      exact vacant

theorem Vacates.run (vacates : process.Vacates) (events : List TrafficEvent) :
    (process.run reconnectDelayFor events).Vacates := by
  induction events generalizing process with
  | nil => exact vacates
  | cons event events ih => exact ih (vacates.step event)

theorem vacates_start : ({} : TrafficProcess).Vacates :=
  fun _ => TrafficRuntime.vacant_cleared 0

/-- Only a blank request to disable makes an agent without a plan ready. -/
theorem Unready.step (unready : process.Unready) (vacates : process.Vacates)
    {event : TrafficEvent} (spared : process.runtime.plan = none → ¬ event.BlankDisable) :
    (process.step reconnectDelayFor event).Unready := by
  intro unloaded
  cases event with
  | request script op payload =>
      change (outcome (TrafficRuntime.handleRequest script op payload)
        process.runtime).2.status.ready = false
      rcases TrafficRuntime.handleRequest_unloads unloaded with clears | before
      · rw [clears]
        rfl
      · rcases (vacates before).handleRequest unloaded with same | clears | ⟨isDisable, blank, -⟩
        · rw [same]
          exact unready before
        · rw [clears]
          rfl
        · exact absurd ⟨isDisable, blank⟩ (spared before)
  | tick now clock script =>
      obtain ⟨plan, same⟩ := @step_tick reconnectDelayFor process now clock script
      have before := plan.symm.trans unloaded
      rw [same (vacates before).sender]
      exact unready before
  | call =>
      obtain ⟨plan, same⟩ := @step_call reconnectDelayFor process
      have before := plan.symm.trans unloaded
      rw [same (vacates before).sender]
      exact unready before

theorem run_concat (events : List TrafficEvent) (event : TrafficEvent) :
    process.run reconnectDelayFor (events ++ [event]) =
      (process.run reconnectDelayFor events).step reconnectDelayFor event := by
  unfold TrafficProcess.run
  rw [List.foldl_append]
  rfl

theorem Unready.run (unready : process.Unready) (vacates : process.Vacates)
    (events : List TrafficEvent)
    (spared : ∀ before event after, events = before ++ event :: after →
      (process.run reconnectDelayFor before).runtime.plan = none → ¬ event.BlankDisable) :
    (process.run reconnectDelayFor events).Unready := by
  induction events using List.reverseRecOn with
  | nil => exact unready
  | append_singleton events event ih =>
      rw [run_concat]
      refine Unready.step (ih fun before other after cut => ?_) (vacates.run events)
        (spared events event [] rfl)
      apply spared before other (after ++ [event])
      rw [cut, List.append_assoc]
      rfl

end TrafficProcess

/-- In every run: an agent without a plan refuses each request to enable or disable and is never
ready, exactly if none of the requests that reach it without a plan is a blank one to disable. -/
theorem unloaded_rejects (reconnectDelayFor : String → Nat → Nat) (events : List TrafficEvent) :
    ((∀ before event after, events = before ++ event :: after →
        (({} : TrafficProcess).run reconnectDelayFor before).runtime.plan = none →
          (({} : TrafficProcess).run reconnectDelayFor before).Rejects event) ∧
      ∀ before after, events = before ++ after →
        (({} : TrafficProcess).run reconnectDelayFor before).runtime.plan = none →
          (({} : TrafficProcess).run reconnectDelayFor before).runtime.status.ready = false) ↔
    ∀ before event after, events = before ++ event :: after →
      (({} : TrafficProcess).run reconnectDelayFor before).runtime.plan = none →
        ¬ event.BlankDisable := by
  have vacates (before : List TrafficEvent) :
      (({} : TrafficProcess).run reconnectDelayFor before).Vacates :=
    TrafficProcess.vacates_start.run before
  constructor
  · intro both before event after cut unloaded
    cases event with
    | request script op payload =>
        rintro ⟨isDisable, blank⟩
        exact (vacates before unloaded |>.rejects (.inr isDisable)).mp
          (both.1 before _ after cut unloaded (.inr isDisable)) ⟨isDisable, blank⟩
    | tick now clock script => exact not_false
    | call => exact not_false
  · intro spared
    constructor
    · intro before event after cut unloaded
      cases event with
      | request script op payload =>
          intro isOp
          exact (vacates before unloaded |>.rejects isOp).mpr (spared before _ after cut unloaded)
      | tick now clock script => trivial
      | call => trivial
    · intro before after cut
      apply TrafficProcess.Unready.run (fun _ => rfl) TrafficProcess.vacates_start before
      intro first event rest cutBefore
      apply spared first event (rest ++ after)
      rw [cut, cutBefore, List.append_assoc]
      rfl

/-- A request that names generation zero and no digest. -/
def blankPayload : Json := .obj [("generation", .int 0), ("plan_digest", .str "")]

/-- The agent that has just started is served a request to disable, and reports that it is
ready. -/
theorem unloaded_not_rejects :
    ¬ ({} : TrafficProcess).Rejects (.request {} "disable" blankPayload) ∧
      (({} : TrafficProcess).request {} "disable" blankPayload).1 = .ok () ∧
      (({} : TrafficProcess).request {} "disable" blankPayload).2.runtime.plan = none ∧
      (({} : TrafficProcess).request {} "disable" blankPayload).2.runtime.status.ready = true := by
  have decoded : GenerationPayload.deserialize blankPayload = some .blank := by decide +kernel
  have vacant := TrafficRuntime.vacant_cleared 0
  have served := vacant.disable_blank {} decoded
  refine ⟨fun rejects => ?_, congrArg Prod.fst served, ?_, ?_⟩
  · exact (vacant.rejects (.inr rfl)).mp (rejects (.inr rfl)) ⟨rfl, decoded⟩
  · exact congrArg (fun ended => ended.2.plan) served
  · exact (congrArg (fun ended => ended.2.status.ready) served).trans vacant.disabled_ready

end NetOpsBench
