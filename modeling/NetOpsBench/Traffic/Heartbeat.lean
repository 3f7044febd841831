import Mathlib.Algebra.Order.Field.Rat
import Mathlib.Logic.Relation
import Mathlib.Tactic.Linarith
import NetOpsBench.Lib.BigEndian
import NetOpsBench.Traffic.Exchange

/-!
# The heartbeat of a traffic process

The traffic process of a client with its clock. A tick is due when the cadence says so and the
tick before has been recorded, and it is recorded within the service time. Time does not pass a
write that is due; the clock stays below the 64 bits in which a heartbeat counts nanoseconds.
-/

namespace NetOpsBench

open Fallible Program Relation

/-! ## The clock of the process -/

/-- `HEARTBEAT_MAX_AGE_SECONDS` -/
def heartbeatMaxAgeSeconds : Rat := 10

/-- `scheduler_start_delay` -/
def schedulerStartDelay (localIp : Nat × Nat × Nat × Nat) (now : Nat) : Nat :=
  let octets := [localIp.1, localIp.2.1, localIp.2.2.1, localIp.2.2.2].map UInt8.ofNat
  let slot := BigEndian.decode ((Sha256.digest octets).take 8) % trafficSchedulerTick
  let current := now % 2 ^ 64 % trafficSchedulerTick
  (slot + trafficSchedulerTick - current) % trafficSchedulerTick

/-- The value that `refresh_heartbeat` writes. -/
def heartbeatAt (now : Nat) : UInt64 := .ofNat (min now (2 ^ 64 - 1))

/-- When an interval is due again after a tick at `now`, with `MissedTickBehavior::Skip`: a tick
that is late by more than five milliseconds falls back into the period. -/
def nextTimeout (timeout now : Nat) : Nat :=
  if timeout + 5000000 < now then
    now + trafficSchedulerTick - (now - timeout) % trafficSchedulerTick
  else timeout + trafficSchedulerTick

/-- `_status_ready`, its check of the heartbeat, at `now` nanoseconds. -/
def heartbeatFresh (now : Nat) (status : AgentStatus) : Bool :=
  let age : Rat := now / 1000000000 - status.heartbeatUnixNs.toNat / 1000000000
  decide (0 ≤ age) && decide (age ≤ heartbeatMaxAgeSeconds)

structure TimedTraffic : Type where
  process : TrafficProcess := {}
  now : Nat
  /-- The next instant of the scheduler's interval. -/
  cadence : Nat := 0
  /-- When the next tick is due, or the one in service was. -/
  due : Nat := 0
  /-- When the tick in service is recorded. -/
  finish : Nat := 0

namespace TimedTraffic

def status (agent : TimedTraffic) : AgentStatus := agent.process.runtime.status

def senderTask (agent : TimedTraffic) : Option TrafficScheduler := agent.process.runtime.senderTask

def heartbeat (agent : TimedTraffic) : Nat := agent.status.heartbeatUnixNs.toNat

/-- The last moment of the write of a heartbeat that comes next. -/
def deadline (service : Nat) (scheduler : TrafficScheduler) (agent : TimedTraffic) : Nat :=
  if scheduler.calls = [] then agent.due + service else agent.finish

/-- The process answers a request; a scheduler that it starts has its first tick in its slot. -/
def request (localIp : Nat × Nat × Nat × Nat) (script : RequestScript) (op : String)
    (payload : Json) (agent : TimedTraffic) : TimedTraffic :=
  let process := (agent.process.request script op payload).2
  if agent.senderTask.isNone ∧ process.runtime.senderTask.isSome then
    let first := agent.now + schedulerStartDelay localIp agent.now
    { agent with process, cadence := first, due := first }
  else { agent with process }

/-- A tick starts, to be recorded at `finish`. -/
def tick (reconnectDelayFor : String → Nat → Nat) (finish : Nat) (script : Nat → FlowScript)
    (agent : TimedTraffic) : TimedTraffic :=
  { agent with
    process := agent.process.step reconnectDelayFor (.tick agent.now (heartbeatAt finish) script)
    cadence := nextTimeout agent.cadence agent.now
    finish }

/-- The scheduler writes to the status. -/
def write (reconnectDelayFor : String → Nat → Nat) (agent : TimedTraffic) : TimedTraffic :=
  { agent with process := agent.process.step reconnectDelayFor .call }

section Steps

variable (reconnectDelayFor : String → Nat → Nat) (service : Nat)

/-- Time passes, and the scheduler works. -/
inductive Flows : TimedTraffic → TimedTraffic → Prop where
  | elapse {agent : TimedTraffic} (elapsed : Nat) (clock : agent.now + elapsed < 2 ^ 64)
      (prompt : ∀ scheduler, agent.senderTask = some scheduler →
        agent.now + elapsed ≤ agent.deadline service scheduler) :
      Flows agent { agent with now := agent.now + elapsed }
  | tick {agent : TimedTraffic} {scheduler : TrafficScheduler} (finish : Nat)
      (script : Nat → FlowScript) (running : agent.senderTask = some scheduler)
      (idle : scheduler.calls = []) (due : agent.due ≤ agent.now) (after : agent.now ≤ finish)
      (prompt : finish ≤ agent.due + service) :
      Flows agent (agent.tick reconnectDelayFor finish script)
  | write {agent : TimedTraffic} {scheduler : TrafficScheduler} {call next : StatusCall}
      {calls : List StatusCall} (running : agent.senderTask = some scheduler)
      (pending : scheduler.calls = call :: next :: calls) :
      Flows agent (agent.write reconnectDelayFor)
  | record {agent : TimedTraffic} {scheduler : TrafficScheduler} {call : StatusCall}
      (running : agent.senderTask = some scheduler) (pending : scheduler.calls = [call])
      (now : agent.now = agent.finish) :
      Flows agent
        { agent.write reconnectDelayFor with due := max agent.cadence agent.now }

/-- A step of the scheduler or of the clock, or the answer to a request. -/
inductive Steps (localIp : Nat × Nat × Nat × Nat) : TimedTraffic → TimedTraffic → Prop where
  | flows {agent after : TimedTraffic} (flows : Flows reconnectDelayFor service agent after) :
      Steps localIp agent after
  | request {agent : TimedTraffic} (script : RequestScript) (op : String) (payload : Json)
      (clock : script.now = heartbeatAt agent.now) :
      Steps localIp agent (agent.request localIp script op payload)

/-- A process that has been started, with whatever has happened to it since. -/
def Reachable (localIp : Nat × Nat × Nat × Nat) (agent : TimedTraffic) : Prop :=
  ∃ start, start < 2 ^ 64 ∧
    ReflTransGen (Steps reconnectDelayFor service localIp) { now := start } agent

end Steps

/-- The heartbeat is no older than a tick and its service, and the controller's check of its age
does not fail. -/
structure Alive (service : Nat) (agent : TimedTraffic) : Prop where
  recent : agent.now ≤ agent.heartbeat + trafficSchedulerTick + service
  fresh : trafficSchedulerTick + service ≤ 10000000000 →
    ∀ (call : MatrixCall) (client : String),
      statusReady call client (heartbeatFresh agent.now agent.status) agent.status =
        statusReady call client true agent.status

/-- Before an `enable`: the scheduler that runs, or the one that it starts, writes a heartbeat
before the last one is older than a tick and its service. -/
def Paced (service : Nat) (localIp : Nat × Nat × Nat × Nat) (agent : TimedTraffic) : Prop :=
  (∀ scheduler, agent.senderTask = some scheduler →
    agent.deadline service scheduler ≤ agent.heartbeat + trafficSchedulerTick + service) ∧
  (agent.senderTask = none →
    (∃ plan, agent.process.runtime.plan = some plan ∧ plan.flows ≠ []) ∧
      agent.now + schedulerStartDelay localIp agent.now ≤
        agent.heartbeat + trafficSchedulerTick)

end TimedTraffic

/-! ## Instants -/

theorem schedulerStartDelay_lt (localIp : Nat × Nat × Nat × Nat) (now : Nat) :
    schedulerStartDelay localIp now < trafficSchedulerTick :=
  Nat.mod_lt _ (by decide)

theorem nextTimeout_le {timeout now : Nat} (due : timeout ≤ now) :
    nextTimeout timeout now ≤ now + trafficSchedulerTick := by
  unfold nextTimeout
  split <;> omega

theorem heartbeatAt_toNat {now : Nat} (clock : now < 2 ^ 64) : (heartbeatAt now).toNat = now := by
  rw [heartbeatAt, Nat.min_eq_left (by omega), UInt64.toNat_ofNat_of_lt' clock]

theorem heartbeatFresh_of_recent {now : Nat} {status : AgentStatus}
    (past : status.heartbeatUnixNs.toNat ≤ now)
    (recent : now ≤ status.heartbeatUnixNs.toNat + 10000000000) :
    heartbeatFresh now status = true := by
  have low : (status.heartbeatUnixNs.toNat : Rat) ≤ now := Nat.cast_le.mpr past
  have high : (now : Rat) ≤ status.heartbeatUnixNs.toNat + 10000000000 := by exact_mod_cast recent
  rw [heartbeatFresh, heartbeatMaxAgeSeconds, Bool.and_eq_true, decide_eq_true_eq,
    decide_eq_true_eq]
  constructor <;> linarith

/-! ## The writes of a tick -/

/-- A write of the scheduler other than that of the tick itself. -/
def StatusCall.KeepsHeartbeat : StatusCall → Prop
  | recordSchedulerTick _ _ _ => False
  | setFlowActive _ _ => True
  | recordError _ => True
  | recordReconnect => True

theorem keepsHeartbeat_sendUdp (index : Nat) (flowId : String) (answers : List SendAnswer) :
    ∀ call ∈ (sendUdp index flowId answers).1, call.KeepsHeartbeat := by
  induction answers with
  | nil => exact List.forall_mem_nil _
  | cons answer answers ih =>
      cases answer with
      | sent bytes => exact List.forall_mem_cons.mpr ⟨trivial, ih⟩
      | wouldBlock => exact List.forall_mem_nil _
      | failed error =>
          exact List.forall_mem_cons.mpr ⟨trivial, List.forall_mem_singleton.mpr trivial⟩

section ServiceFlow

variable (reconnectDelayFor : String → Nat → Nat) (now index : Nat) (script : FlowScript)

theorem keepsHeartbeat_serviceUdp (plan : FlowPlan) (transport : UdpTransport) :
    ∀ call ∈ (serviceUdp reconnectDelayFor now index script plan transport).2.1,
      call.KeepsHeartbeat := by
  have setup : ∀ call ∈ (setupUdp reconnectDelayFor now index script plan transport).2,
      call.KeepsHeartbeat := by
    unfold setupUdp
    split
    · split
      · exact List.forall_mem_singleton.mpr trivial
      · exact List.forall_mem_singleton.mpr trivial
    · exact List.forall_mem_nil _
  unfold serviceUdp
  dsimp only
  split
  · exact List.forall_mem_append.mpr ⟨setup, keepsHeartbeat_sendUdp index plan.flowId _⟩
  · exact setup

theorem keepsHeartbeat_serviceTcp (plan : FlowPlan) (transport : TcpTransport) :
    ∀ call ∈ (serviceTcp reconnectDelayFor now index script plan transport).2.1,
      call.KeepsHeartbeat := by
  have finished : ∀ call ∈ (finishConnect reconnectDelayFor now index script plan transport).2,
      call.KeepsHeartbeat := by
    unfold finishConnect
    split
    · exact List.forall_mem_nil _
    · exact List.forall_mem_singleton.mpr trivial
    · exact List.forall_mem_cons.mpr ⟨trivial, List.forall_mem_singleton.mpr trivial⟩
    · exact List.forall_mem_cons.mpr ⟨trivial, List.forall_mem_singleton.mpr trivial⟩
  have driven : ∀ transport : TcpTransport,
      ∀ call ∈ (driveTcp reconnectDelayFor now index script plan transport).2.1,
        call.KeepsHeartbeat := by
    intro transport
    unfold driveTcp
    dsimp only
    split
    · split
      · exact List.forall_mem_nil _
      · rename_i error _
        cases error with
        | none => exact List.forall_mem_cons.mpr ⟨trivial, List.forall_mem_singleton.mpr trivial⟩
        | some error =>
            exact List.forall_mem_cons.mpr ⟨trivial, List.forall_mem_cons.mpr
              ⟨trivial, List.forall_mem_singleton.mpr trivial⟩⟩
    · exact List.forall_mem_nil _
  exact List.forall_mem_append.mpr ⟨finished, driven _⟩

end ServiceFlow

theorem keepsHeartbeat_serviceFlows (reconnectDelayFor : String → Nat → Nat) (now index : Nat)
    (script : Nat → FlowScript) (flows : List ScheduledFlow) :
    ∀ call ∈ (serviceFlows reconnectDelayFor now script index flows).2.1,
      call.KeepsHeartbeat := by
  induction flows generalizing index with
  | nil => exact List.forall_mem_nil _
  | cons flow flows ih =>
      refine List.forall_mem_append.mpr ⟨?_, ih (index + 1)⟩
      unfold serviceFlow
      split
      · exact keepsHeartbeat_serviceUdp reconnectDelayFor now index (script index) flow.plan _
      · exact keepsHeartbeat_serviceTcp reconnectDelayFor now index (script index) flow.plan _

theorem heartbeat_perform {call : StatusCall} (keeps : call.KeepsHeartbeat)
    (flows : List ScheduledFlow) (status : AgentStatus) :
    (call.perform flows status).2.heartbeatUnixNs = status.heartbeatUnixNs := by
  cases call with
  | setFlowActive index value =>
      unfold StatusCall.perform
      dsimp only
      split
      · rfl
      · unfold setFlowActive
        split
        · rfl
        · rfl
  | recordError error => rfl
  | recordReconnect => rfl
  | recordSchedulerTick packets bytes now => exact keeps.elim

/-! ## Requests -/

namespace TrafficRuntime

/-- What a request may do to the heartbeat and to the scheduler. -/
structure Served (script : RequestScript) (runtime after : TrafficRuntime) : Prop where
  heartbeat : after.status.heartbeatUnixNs = runtime.status.heartbeatUnixNs ∨
    after.status.heartbeatUnixNs = script.now
  sender : after.senderTask = none ∨ after.senderTask = runtime.senderTask ∨
    runtime.senderTask = none ∧ ∃ flows, after.senderTask = some { flows }

theorem Served.same (script : RequestScript) (runtime : TrafficRuntime) :
    Served script runtime runtime :=
  ⟨.inl rfl, .inr (.inl rfl)⟩

theorem served_enable (script : RequestScript) (payload : GenerationPayload)
    (runtime : TrafficRuntime) :
    Served script runtime (outcome (enable script payload) runtime).2 := by
  rcases enable_cases script payload runtime with same | ⟨plan, noSender, -, after⟩
  · rw [same]
    exact .same script runtime
  · rw [after]
    split
    · exact ⟨.inl rfl, .inl noSender⟩
    · exact ⟨.inl rfl, .inr (.inr ⟨noSender, _, rfl⟩)⟩

theorem served_load (script : RequestScript) (payload : LoadPayload) (runtime : TrafficRuntime) :
    Served script runtime (outcome (load script payload) runtime).2 := by
  rcases load_cases script payload runtime with ⟨text, -, ended⟩ | ⟨error, -, -, ended⟩ |
    ⟨-, ended⟩
  · rw [ended]
    exact .same script runtime
  · rw [ended]
    exact ⟨.inr rfl, .inl rfl⟩
  · rw [ended]
    exact ⟨.inl rfl, .inl rfl⟩

theorem served_handleRequest (script : RequestScript) (op : String) (payload : Json)
    (runtime : TrafficRuntime) :
    Served script runtime (outcome (handleRequest script op payload) runtime).2 := by
  unfold handleRequest
  split
  · cases LoadPayload.deserialize payload with
    | none => exact .same script runtime
    | some request => exact served_load script request runtime
  · split
    · cases GenerationPayload.deserialize payload with
      | none => exact .same script runtime
      | some request => exact served_enable script request runtime
    · split
      · cases GenerationPayload.deserialize payload with
        | none => exact .same script runtime
        | some request =>
            change Served script runtime
              (outcome (validateGeneration request >>= fun _ => disable) runtime).2
            rcases disable_cases request runtime with same | after
            · rw [same]
              exact .same script runtime
            · rw [after]
              exact ⟨.inl rfl, .inl rfl⟩
      · split
        · exact ⟨.inr rfl, .inl rfl⟩
        · split
          · exact .same script runtime
          · exact .same script runtime

/-- An `enable` that is accepted finds a scheduler, and changes nothing, or a plan. -/
theorem enable_ok {script : RequestScript} {payload : GenerationPayload}
    {runtime after : TrafficRuntime}
    (accepted : outcome (enable script payload) runtime = (.ok (), after)) :
    (∃ scheduler, runtime.senderTask = some scheduler) ∧ after = runtime ∨
    ∃ plan, runtime.senderTask = none ∧ runtime.plan = some plan ∧
      after = if plan.flows.isEmpty then runtime.enabledEmpty else runtime.sending script plan := by
  unfold enable validateGeneration at accepted
  rw [bind_assoc, outcome_bind_ok (outcome_get runtime)] at accepted
  by_cases mismatch : runtime.status.generation ≠ payload.generation ∨
      runtime.status.planDigest ≠ payload.planDigest
  · rw [reject, if_pos mismatch] at accepted
    cases accepted
  · rw [reject, if_neg mismatch, outcome_bind_ok (outcome_ofExcept _ _),
      outcome_bind_ok (outcome_get runtime)] at accepted
    cases sender : runtime.senderTask with
    | some scheduler =>
        rw [sender] at accepted
        exact .inl ⟨⟨scheduler, rfl⟩, (congrArg Prod.snd accepted).symm⟩
    | none =>
        rw [sender] at accepted
        cases loaded : runtime.plan with
        | none =>
            rw [loaded] at accepted
            cases accepted
        | some plan =>
            rw [loaded] at accepted
            refine .inr ⟨plan, rfl, rfl, ?_⟩
            by_cases empty : plan.flows.isEmpty = true
            · dsimp only at accepted
              rw [startSender, if_pos empty] at accepted
              rw [if_pos empty]
              exact (congrArg Prod.snd accepted).symm
            · dsimp only at accepted
              rw [startSender, if_neg empty] at accepted
              rw [if_neg empty]
              exact (congrArg Prod.snd accepted).symm

end TrafficRuntime

namespace TimedTraffic

variable {reconnectDelayFor : String → Nat → Nat} {service : Nat}
  {localIp : Nat × Nat × Nat × Nat} {agent after : TimedTraffic}

/-! ## The clock and the scheduler -/

/-- A tick in service: its last write is the heartbeat, at `finish`. -/
structure InService (service : Nat) (agent : TimedTraffic) (calls : List StatusCall) : Prop where
  writes : ∃ before packets bytes,
    calls = before ++ [.recordSchedulerTick packets bytes (heartbeatAt agent.finish)] ∧
      ∀ call ∈ before, call.KeepsHeartbeat
  prompt : agent.finish ≤ agent.due + service
  cadence : agent.cadence ≤ agent.now + trafficSchedulerTick

/-- The clock of a process that has been started, and the writes of its scheduler. -/
structure Timely (service : Nat) (agent : TimedTraffic) : Prop where
  clock : agent.now < 2 ^ 64
  past : agent.heartbeat ≤ agent.now
  prompt : ∀ scheduler, agent.senderTask = some scheduler →
    agent.now ≤ agent.deadline service scheduler
  near : ∀ scheduler, agent.senderTask = some scheduler →
    agent.due ≤ agent.now + trafficSchedulerTick
  waiting : ∀ scheduler, agent.senderTask = some scheduler → scheduler.calls = [] →
    agent.cadence ≤ agent.due
  inService : ∀ scheduler, agent.senderTask = some scheduler → scheduler.calls ≠ [] →
    agent.InService service scheduler.calls

theorem heartbeat_of_served {script : RequestScript} {runtime : TrafficRuntime}
    (served : TrafficRuntime.Served script agent.process.runtime runtime)
    (timely : agent.Timely service) (clock : script.now = heartbeatAt agent.now) :
    runtime.status.heartbeatUnixNs.toNat ≤ agent.now := by
  rcases served.heartbeat with same | now
  · rw [same]
    exact timely.past
  · rw [now, clock, heartbeatAt_toNat timely.clock]

theorem Timely.request (timely : agent.Timely service) (script : RequestScript) (op : String)
    (payload : Json) (clock : script.now = heartbeatAt agent.now) :
    (agent.request localIp script op payload).Timely service := by
  have served := TrafficRuntime.served_handleRequest script op payload agent.process.runtime
  have past := heartbeat_of_served served timely clock
  unfold TimedTraffic.request
  dsimp only
  split
  · rename_i starts
    -- the only way to a scheduler from none is `enable`, whose scheduler has nothing to write yet
    have idle : ∀ scheduler, (agent.process.request script op payload).2.runtime.senderTask =
        some scheduler → scheduler.calls = [] := by
      intro scheduler running
      have none : agent.process.runtime.senderTask = none := Option.isNone_iff_eq_none.mp starts.1
      rcases served.sender with stopped | same | ⟨-, flows, isNew⟩
      · exact absurd (running.symm.trans stopped) (Option.some_ne_none _)
      · exact absurd (running.symm.trans (same.trans none)) (Option.some_ne_none _)
      · obtain rfl := Option.some.inj (running.symm.trans isNew)
        rfl
    refine ⟨timely.clock, past, ?_, ?_, fun _ _ _ => le_refl _, ?_⟩
    · intro scheduler running
      rw [deadline, if_pos (idle scheduler running)]
      change agent.now ≤ agent.now + schedulerStartDelay localIp agent.now + service
      omega
    · intro scheduler running
      exact Nat.add_le_add_left (schedulerStartDelay_lt localIp agent.now).le agent.now
    · intro scheduler running busy
      exact absurd (idle scheduler running) busy
  · rename_i unchanged
    have same : ∀ scheduler, (agent.process.request script op payload).2.runtime.senderTask =
        some scheduler → agent.senderTask = some scheduler := by
      intro scheduler running
      rcases served.sender with stopped | same | ⟨none, -⟩
      · exact absurd (running.symm.trans stopped) (Option.some_ne_none _)
      · exact same.symm.trans running
      · exact absurd ⟨Option.isNone_iff_eq_none.mpr none, Option.isSome_of_eq_some running⟩ unchanged
    refine ⟨timely.clock, past, ?_, ?_, ?_, ?_⟩
    · intro scheduler running
      exact timely.prompt scheduler (same scheduler running)
    · intro scheduler running
      exact timely.near scheduler (same scheduler running)
    · intro scheduler running
      exact timely.waiting scheduler (same scheduler running)
    · intro scheduler running busy
      rcases timely.inService scheduler (same scheduler running) busy with ⟨writes, prompt, cadence⟩
      exact ⟨writes, prompt, cadence⟩

theorem senderTask_tick (reconnectDelayFor : String → Nat → Nat) (finish : Nat) (script : Nat → FlowScript) {scheduler : TrafficScheduler}
    (running : agent.senderTask = some scheduler) :
    (agent.tick reconnectDelayFor finish script).senderTask =
      some (TrafficProcess.tick reconnectDelayFor agent.now (heartbeatAt finish) script scheduler) :=
  congrArg (Option.map _) running

theorem calls_tick (reconnectDelayFor : String → Nat → Nat) {scheduler : TrafficScheduler} (idle : scheduler.calls = []) (now : Nat)
    (clock : UInt64) (script : Nat → FlowScript) :
    ∃ before packets bytes,
      (TrafficProcess.tick reconnectDelayFor now clock script scheduler).calls =
          before ++ [.recordSchedulerTick packets bytes clock] ∧
        ∀ call ∈ before, call.KeepsHeartbeat := by
  unfold TrafficProcess.tick
  rw [idle, if_pos List.isEmpty_nil]
  exact ⟨_, _, _, rfl, keepsHeartbeat_serviceFlows reconnectDelayFor now 0 script scheduler.flows⟩

theorem process_write (reconnectDelayFor : String → Nat → Nat) {scheduler : TrafficScheduler} {call : StatusCall} {calls : List StatusCall}
    (running : agent.senderTask = some scheduler) (pending : scheduler.calls = call :: calls) :
    (agent.write reconnectDelayFor).process.runtime =
      { agent.process.runtime with
        status := (call.perform scheduler.flows agent.status).2
        senderTask := some { flows := (call.perform scheduler.flows agent.status).1, calls } } := by
  have isSender : agent.process.runtime.senderTask = some scheduler := running
  simp only [write, TrafficProcess.step, isSender, pending]
  rfl

theorem senderTask_write (reconnectDelayFor : String → Nat → Nat) {scheduler : TrafficScheduler} {call : StatusCall}
    {calls : List StatusCall} (running : agent.senderTask = some scheduler)
    (pending : scheduler.calls = call :: calls) :
    (agent.write reconnectDelayFor).senderTask =
      some { flows := (call.perform scheduler.flows agent.status).1, calls } :=
  congrArg TrafficRuntime.senderTask (process_write reconnectDelayFor running pending)

theorem status_write (reconnectDelayFor : String → Nat → Nat) {scheduler : TrafficScheduler} {call : StatusCall}
    {calls : List StatusCall} (running : agent.senderTask = some scheduler)
    (pending : scheduler.calls = call :: calls) :
    (agent.write reconnectDelayFor).status = (call.perform scheduler.flows agent.status).2 :=
  congrArg TrafficRuntime.status (process_write reconnectDelayFor running pending)

/-- The writes of a tick but the last keep the heartbeat. -/
theorem heartbeat_write (reconnectDelayFor : String → Nat → Nat) {scheduler : TrafficScheduler} {call next : StatusCall}
    {calls : List StatusCall} (running : agent.senderTask = some scheduler)
    (pending : scheduler.calls = call :: next :: calls)
    (inService : agent.InService service scheduler.calls) :
    (agent.write reconnectDelayFor).heartbeat = agent.heartbeat ∧
      (agent.write reconnectDelayFor).InService service (next :: calls) := by
  rcases inService.writes with ⟨before, packets, bytes, isCalls, keeps⟩
  rw [pending] at isCalls
  cases before with
  | nil => cases isCalls
  | cons first before =>
      obtain ⟨rfl, rest⟩ := List.cons.inj isCalls
      have kept := (List.forall_mem_cons.mp keeps).1
      refine ⟨?_, ⟨before, packets, bytes, rest, (List.forall_mem_cons.mp keeps).2⟩,
        inService.prompt, inService.cadence⟩
      rw [heartbeat, status_write reconnectDelayFor running pending, heartbeat_perform kept]
      rfl

/-- The last write of a tick is its heartbeat. -/
theorem heartbeat_record (reconnectDelayFor : String → Nat → Nat) {scheduler : TrafficScheduler} {call : StatusCall}
    (timely : agent.Timely service) (running : agent.senderTask = some scheduler)
    (pending : scheduler.calls = [call]) (now : agent.now = agent.finish) :
    (agent.write reconnectDelayFor).heartbeat = agent.now := by
  have inService := timely.inService scheduler running
    (by rw [pending]; exact List.cons_ne_nil _ _)
  rcases inService.writes with ⟨before, packets, bytes, isCalls, -⟩
  rw [pending] at isCalls
  rw [← List.nil_append [call]] at isCalls
  obtain ⟨-, isCall⟩ := List.append_inj' isCalls rfl
  obtain rfl := (List.cons.inj isCall).1
  rw [heartbeat, status_write reconnectDelayFor running pending, ← now]
  exact heartbeatAt_toNat timely.clock

theorem Timely.flows (timely : agent.Timely service)
    (flows : Flows reconnectDelayFor service agent after) : after.Timely service := by
  cases flows with
  | elapse elapsed clock prompt =>
      have later : agent.now + trafficSchedulerTick ≤ agent.now + elapsed + trafficSchedulerTick :=
        Nat.add_le_add_right (Nat.le_add_right _ _) _
      refine ⟨clock, timely.past.trans (Nat.le_add_right _ _), prompt, ?_, timely.waiting, ?_⟩
      · intro scheduler running
        exact (timely.near scheduler running).trans later
      · intro scheduler running busy
        rcases timely.inService scheduler running busy with ⟨writes, prompt, cadence⟩
        exact ⟨writes, prompt, cadence.trans later⟩
  | @tick scheduler finish script running idle due soon prompt =>
      have sender := senderTask_tick reconnectDelayFor finish script running
      rcases calls_tick reconnectDelayFor idle agent.now
        (heartbeatAt finish) script with ⟨before, packets, bytes, isCalls, keeps⟩
      have busy : (TrafficProcess.tick reconnectDelayFor agent.now (heartbeatAt finish) script
          scheduler).calls ≠ [] := by
        rw [isCalls]
        exact List.append_ne_nil_of_right_ne_nil _ (List.cons_ne_nil _ _)
      refine ⟨timely.clock, timely.past, ?_, fun _ _ => timely.near scheduler running, ?_, ?_⟩
      · intro other running'
        obtain rfl := Option.some.inj (running'.symm.trans sender)
        rw [deadline, if_neg busy]
        exact soon
      · intro other running' idle'
        obtain rfl := Option.some.inj (running'.symm.trans sender)
        exact absurd idle' busy
      · intro other running' _
        obtain rfl := Option.some.inj (running'.symm.trans sender)
        exact ⟨⟨before, packets, bytes, isCalls, keeps⟩, prompt,
          nextTimeout_le ((timely.waiting scheduler running idle).trans due)⟩
  | @write scheduler call next calls running pending =>
      have sender := senderTask_write reconnectDelayFor running pending
      have busy : scheduler.calls ≠ [] := by rw [pending]; exact List.cons_ne_nil _ _
      rcases heartbeat_write reconnectDelayFor running pending
        (timely.inService scheduler running busy) with ⟨kept, inService⟩
      have prompt := timely.prompt scheduler running
      rw [deadline, if_neg busy] at prompt
      refine ⟨timely.clock, kept.trans_le timely.past, ?_,
        fun _ _ => timely.near scheduler running, ?_, ?_⟩
      · intro other running'
        obtain rfl := Option.some.inj (running'.symm.trans sender)
        rw [deadline, if_neg (List.cons_ne_nil _ _)]
        exact prompt
      · intro other running' idle
        obtain rfl := Option.some.inj (running'.symm.trans sender)
        cases idle
      · intro other running' _
        obtain rfl := Option.some.inj (running'.symm.trans sender)
        exact inService
  | @record scheduler call running pending now =>
      have sender := senderTask_write reconnectDelayFor running pending
      have written := heartbeat_record reconnectDelayFor timely running
        pending now
      have inService := timely.inService scheduler running
        (by rw [pending]; exact List.cons_ne_nil _ _)
      refine ⟨timely.clock, written.le, ?_,
        fun _ _ => max_le inService.cadence (Nat.le_add_right _ _), fun _ _ _ => le_max_left _ _, ?_⟩
      · intro other running'
        obtain rfl := Option.some.inj (running'.symm.trans sender)
        rw [deadline, if_pos rfl]
        exact (le_max_right _ _).trans (Nat.le_add_right _ _)
      · intro other running' busy
        obtain rfl := Option.some.inj (running'.symm.trans sender)
        exact absurd rfl busy

theorem Reachable.timely (reachable : Reachable reconnectDelayFor service localIp agent) :
    agent.Timely service := by
  rcases reachable with ⟨start, clock, steps⟩
  induction steps with
  | refl =>
      have none : ∀ scheduler, ({ now := start } : TimedTraffic).senderTask ≠ some scheduler :=
        fun scheduler => (Option.some_ne_none scheduler).symm
      exact ⟨clock, Nat.zero_le _, fun _ running => absurd running (none _),
        fun _ running => absurd running (none _), fun _ running => absurd running (none _),
        fun _ running => absurd running (none _)⟩
  | tail _ step ih =>
      cases step with
      | flows flows => exact ih.flows flows
      | request script op payload clock => exact ih.request script op payload clock

/-! ## The pace of the scheduler -/

/-- The scheduler runs, and its next heartbeat comes in time. -/
def OnPace (service : Nat) (agent : TimedTraffic) : Prop :=
  ∃ scheduler, agent.senderTask = some scheduler ∧
    agent.deadline service scheduler ≤ agent.heartbeat + trafficSchedulerTick + service

theorem OnPace.flows (onPace : agent.OnPace service) (timely : agent.Timely service)
    (flows : Flows reconnectDelayFor service agent after) : after.OnPace service := by
  rcases onPace with ⟨scheduler, running, inTime⟩
  cases flows with
  | elapse elapsed clock prompt => exact ⟨scheduler, running, inTime⟩
  | @tick other finish script running' idle due soon prompt =>
      obtain rfl := Option.some.inj (running'.symm.trans running)
      rw [deadline, if_pos idle] at inTime
      refine ⟨_, senderTask_tick reconnectDelayFor finish script running, ?_⟩
      rcases calls_tick reconnectDelayFor idle agent.now
        (heartbeatAt finish) script with ⟨before, packets, bytes, isCalls, -⟩
      rw [deadline, if_neg (by
        rw [isCalls]
        exact List.append_ne_nil_of_right_ne_nil _ (List.cons_ne_nil _ _))]
      exact prompt.trans inTime
  | @write other call next calls running' pending =>
      obtain rfl := Option.some.inj (running'.symm.trans running)
      have busy : other.calls ≠ [] := by rw [pending]; exact List.cons_ne_nil _ _
      rw [deadline, if_neg busy] at inTime
      refine ⟨_, senderTask_write reconnectDelayFor running pending, ?_⟩
      rw [deadline, if_neg (List.cons_ne_nil _ _),
        (heartbeat_write reconnectDelayFor running pending (timely.inService other running busy)).1]
      exact inTime
  | @record other call running' pending now =>
      obtain rfl := Option.some.inj (running'.symm.trans running)
      have inService := timely.inService other running
        (by rw [pending]; exact List.cons_ne_nil _ _)
      refine ⟨_, senderTask_write reconnectDelayFor running pending, ?_⟩
      rw [deadline, if_pos rfl]
      have written := heartbeat_record reconnectDelayFor timely running
        pending now
      change max agent.cadence agent.now + service ≤
        (agent.write reconnectDelayFor).heartbeat + trafficSchedulerTick + service
      rw [written]
      exact Nat.add_le_add_right (max_le inService.cadence (Nat.le_add_right _ _)) service

theorem alive_of_onPace (timely : agent.Timely service) (onPace : agent.OnPace service) :
    agent.Alive service := by
  rcases onPace with ⟨scheduler, running, inTime⟩
  have recent := (timely.prompt scheduler running).trans inTime
  refine ⟨recent, fun short call client => ?_⟩
  rw [heartbeatFresh_of_recent timely.past (recent.trans (by
    change agent.heartbeat + trafficSchedulerTick + service ≤ agent.heartbeat + 10000000000
    omega))]

/-- A scheduler on pace stays so. -/
theorem alive_of_run (timely : agent.Timely service) (onPace : agent.OnPace service)
    (run : ReflTransGen (Flows reconnectDelayFor service) agent after) : after.Alive service := by
  have kept : after.Timely service ∧ after.OnPace service := by
    induction run with
    | refl => exact ⟨timely, onPace⟩
    | tail _ step ih => exact ⟨ih.1.flows step, ih.2.flows ih.1 step⟩
  exact alive_of_onPace kept.1 kept.2

/-! ## After an `enable` -/

/-- An `enable` that is accepted changes nothing, or starts to send, or has nothing to send. -/
theorem request_enable_cases {script : RequestScript} {payload : Json}
    (accepted : (agent.process.request script "enable" payload).1 = .ok ()) :
    (∃ scheduler, agent.senderTask = some scheduler) ∧
        agent.request localIp script "enable" payload = agent ∨
    agent.senderTask = none ∧ ∃ plan, agent.process.runtime.plan = some plan ∧
      (agent.process.request script "enable" payload).2.runtime =
        if plan.flows.isEmpty then agent.process.runtime.enabledEmpty
        else agent.process.runtime.sending script plan := by
  have loaded : (agent.process.request script "enable" payload).2.loaded = agent.process.loaded := by
    unfold TrafficProcess.request TrafficProcess.loadedAfter
    dsimp only
    rw [if_neg (by simp), if_neg (by simp)]
  cases decoded : GenerationPayload.deserialize payload with
  | none =>
      unfold TrafficProcess.request TrafficRuntime.handleRequest at accepted
      rw [if_neg (by simp), if_pos rfl, decoded] at accepted
      cases accepted
  | some request =>
      have answer : outcome (TrafficRuntime.enable script request) agent.process.runtime =
          (.ok (), (agent.process.request script "enable" payload).2.runtime) := by
        have ran : outcome (TrafficRuntime.handleRequest script "enable" payload)
            agent.process.runtime =
            outcome (TrafficRuntime.enable script request) agent.process.runtime := by
          unfold TrafficRuntime.handleRequest
          rw [if_neg (by simp), if_pos rfl, decoded]
          rfl
        rw [← ran]
        exact Prod.ext accepted rfl
      rcases TrafficRuntime.enable_ok answer with ⟨⟨scheduler, running⟩, same⟩ |
        ⟨plan, none, isPlan, after⟩
      · refine .inl ⟨⟨scheduler, running⟩, ?_⟩
        have process : (agent.process.request script "enable" payload).2 = agent.process :=
          congrArg₂ TrafficProcess.mk same loaded
        have runs : agent.senderTask = some scheduler := running
        rw [TimedTraffic.request, process, runs, if_neg (by simp)]
      · exact .inr ⟨none, plan, isPlan, after⟩

theorem request_sending {script : RequestScript} {payload : Json} {plan : ClientTrafficPlan}
    (none : agent.senderTask = none)
    (after : (agent.process.request script "enable" payload).2.runtime =
      agent.process.runtime.sending script plan) :
    agent.request localIp script "enable" payload =
      { agent with
        process := (agent.process.request script "enable" payload).2
        cadence := agent.now + schedulerStartDelay localIp agent.now
        due := agent.now + schedulerStartDelay localIp agent.now } := by
  rw [TimedTraffic.request, none, after, if_pos ⟨rfl, rfl⟩]

theorem request_enabledEmpty {script : RequestScript} {payload : Json}
    (none : agent.senderTask = none)
    (after : (agent.process.request script "enable" payload).2.runtime =
      agent.process.runtime.enabledEmpty) :
    agent.request localIp script "enable" payload =
      { agent with process := (agent.process.request script "enable" payload).2 } := by
  have still : agent.process.runtime.enabledEmpty.senderTask = .none := none
  rw [TimedTraffic.request, after, still, if_neg (by simp)]

/-- The scheduler that an `enable` finds or starts is on pace. -/
theorem onPace_enable {script : RequestScript} {payload : Json}
    (accepted : (agent.process.request script "enable" payload).1 = .ok ())
    (paced : agent.Paced service localIp) :
    (agent.request localIp script "enable" payload).OnPace service := by
  rcases request_enable_cases accepted with ⟨⟨scheduler, running⟩, same⟩ | ⟨none, plan, isPlan, after⟩
  · rw [same]
    exact ⟨scheduler, running, paced.1 scheduler running⟩
  · rcases paced.2 none with ⟨⟨other, isOther, flows⟩, inTime⟩
    obtain rfl := Option.some.inj (isPlan.symm.trans isOther)
    rw [if_neg (by rw [List.isEmpty_iff]; exact flows)] at after
    rw [request_sending none after]
    refine ⟨_, congrArg TrafficRuntime.senderTask after, ?_⟩
    have kept : ((agent.process.request script "enable" payload).2.runtime.status).heartbeatUnixNs =
        agent.status.heartbeatUnixNs := by
      rw [after]
      rfl
    rw [deadline, if_pos rfl, heartbeat, status, kept]
    exact Nat.add_le_add_right inTime service

/-- A scheduler that may write its next heartbeat too late will do so in some run. -/
theorem inTime_of_alive {scheduler : TrafficScheduler} (timely : agent.Timely service)
    (room : agent.now + trafficSchedulerTick + service + 1 < 2 ^ 64)
    (running : agent.senderTask = some scheduler)
    (alive : ∀ later, ReflTransGen (Flows reconnectDelayFor service) agent later →
      later.Alive service) :
    agent.deadline service scheduler ≤ agent.heartbeat + trafficSchedulerTick + service := by
  have prompt := timely.prompt scheduler running
  have bound : agent.deadline service scheduler ≤ agent.now + trafficSchedulerTick + service := by
    have near := timely.near scheduler running
    by_cases idle : scheduler.calls = []
    · rw [deadline, if_pos idle]
      exact Nat.add_le_add_right near service
    · rw [deadline, if_neg idle]
      exact (timely.inService scheduler running idle).prompt.trans
        (Nat.add_le_add_right near service)
  have elapsed : agent.now + (agent.deadline service scheduler - agent.now) =
      agent.deadline service scheduler := Nat.add_sub_cancel' prompt
  have step : Flows reconnectDelayFor service agent
      { agent with now := agent.now + (agent.deadline service scheduler - agent.now) } := by
    refine .elapse _ (by rw [elapsed]; omega) fun other running' => ?_
    obtain rfl := Option.some.inj (running'.symm.trans running)
    exact elapsed.le
  have recent := (alive _ (.single step)).recent
  exact elapsed.symm.trans_le recent

/-- Without a scheduler the heartbeat grows old in some run. -/
theorem not_alive_of_none (timely : agent.Timely service)
    (room : agent.now + trafficSchedulerTick + service + 1 < 2 ^ 64)
    (none : agent.senderTask = none)
    (alive : ∀ later, ReflTransGen (Flows reconnectDelayFor service) agent later →
      later.Alive service) : False := by
  have step : Flows reconnectDelayFor service agent
      { agent with now := agent.now + (trafficSchedulerTick + service + 1) } :=
    .elapse _ (by omega) fun scheduler running =>
      absurd (running.symm.trans none) (Option.some_ne_none _)
  have recent := (alive _ (.single step)).recent
  have past := timely.past
  change agent.now + (trafficSchedulerTick + service + 1) ≤
    agent.heartbeat + trafficSchedulerTick + service at recent
  omega

/-- After an `enable` that is accepted the heartbeat stays recent, whatever the clock and the
flows do, exactly if the process has a flow to send and its scheduler is in time for the heartbeat
that it finds. -/
theorem heartbeat_recent_iff (reachable : Reachable reconnectDelayFor service localIp agent)
    {script : RequestScript} {payload : Json} (clock : script.now = heartbeatAt agent.now)
    (accepted : (agent.process.request script "enable" payload).1 = .ok ()) :
    (agent.Paced service localIp → ∀ later,
      ReflTransGen (Flows reconnectDelayFor service)
        (agent.request localIp script "enable" payload) later → later.Alive service) ∧
    (agent.now + trafficSchedulerTick + service + 1 < 2 ^ 64 →
      (∀ later, ReflTransGen (Flows reconnectDelayFor service)
        (agent.request localIp script "enable" payload) later → later.Alive service) →
      agent.Paced service localIp) := by
  have timely := reachable.timely
  have enabled : (agent.request localIp script "enable" payload).Timely service :=
    timely.request script "enable" payload clock
  refine ⟨fun paced later run => alive_of_run enabled (onPace_enable accepted paced) run, ?_⟩
  intro room alive
  rcases @request_enable_cases localIp _ _ _ accepted with
    ⟨⟨scheduler, running⟩, same⟩ | ⟨none, plan, isPlan, after⟩
  · rw [same] at alive
    refine ⟨?_, fun none => absurd (running.symm.trans none) (Option.some_ne_none _)⟩
    intro other running'
    exact inTime_of_alive timely room running' alive
  · refine ⟨fun scheduler running => absurd (running.symm.trans none) (Option.some_ne_none _), ?_⟩
    intro _
    by_cases flows : plan.flows = []
    · rw [if_pos (List.isEmpty_iff.mpr flows)] at after
      have still : (agent.request localIp script "enable" payload).senderTask = .none := by
        rw [request_enabledEmpty none after, senderTask, after]
        exact none
      have now : (agent.request localIp script "enable" payload).now = agent.now := by
        rw [request_enabledEmpty none after]
      exact (not_alive_of_none enabled (by rw [now]; exact room) still alive).elim
    · refine ⟨⟨plan, isPlan, flows⟩, ?_⟩
      rw [if_neg (by rw [List.isEmpty_iff]; exact flows)] at after
      have kept : (agent.process.request script "enable" payload).2.runtime.status.heartbeatUnixNs =
          agent.status.heartbeatUnixNs := by
        rw [after]
        rfl
      rw [request_sending none after] at enabled alive
      have inTime := inTime_of_alive enabled room (congrArg TrafficRuntime.senderTask after) alive
      rw [deadline, if_pos rfl, heartbeat, status, kept] at inTime
      exact Nat.le_of_add_le_add_right inTime

/-! ## Examples of clients -/

/-- A process that has been reset and has loaded a plan, at `start`. -/
def loadedAt (start : Nat) (localIp : Nat × Nat × Nat × Nat) (plan : ClientPlan) : TimedTraffic :=
  (({ now := start } : TimedTraffic).request localIp { now := heartbeatAt start } "reset"
    (.obj [])).request localIp { now := heartbeatAt start } "load_plan" (loadRequest 1 plan)

theorem loadedAt_runtime (localIp : Nat × Nat × Nat × Nat) (start : Nat)
    {plan : ClientPlan} {decoded : ClientTrafficPlan}
    (readable : Readable plan decoded) :
    (loadedAt start localIp plan).process.runtime =
      (TrafficRuntime.cleared (heartbeatAt start)).loadedWith
        ⟨1, planDigest plan, decoded⟩ ∧ (loadedAt start localIp plan).now = start := by
  have reset : ({ now := start } : TimedTraffic).request localIp { now := heartbeatAt start } "reset"
      (.obj []) = { now := start, process := { runtime := .cleared (heartbeatAt start) } } := rfl
  have answered := outcome_loadAt readable Nat.one_pos (by decide) (heartbeatAt start)
    (TrafficRuntime.cleared (heartbeatAt start))
  have loaded : (TrafficProcess.request { runtime := .cleared (heartbeatAt start) }
      { now := heartbeatAt start } "load_plan" (loadRequest 1 plan)).2.runtime =
      (TrafficRuntime.cleared (heartbeatAt start)).loadedWith ⟨1, planDigest plan, decoded⟩ :=
    congrArg Prod.snd answered
  rw [loadedAt, reset, TimedTraffic.request, loaded, if_neg (by
    intro starts
    cases starts.2)]
  exact ⟨loaded, rfl⟩

theorem reachable_loadedAt {start : Nat} (clock : start < 2 ^ 64) (plan : ClientPlan) :
    Reachable reconnectDelayFor service localIp (loadedAt start localIp plan) := by
  have reset : Steps reconnectDelayFor service localIp { now := start }
      (({ now := start } : TimedTraffic).request localIp { now := heartbeatAt start } "reset"
        (.obj [])) := .request _ "reset" (.obj []) rfl
  have load : Steps reconnectDelayFor service localIp
      (({ now := start } : TimedTraffic).request localIp { now := heartbeatAt start } "reset"
        (.obj [])) (loadedAt start localIp plan) := .request _ "load_plan" (loadRequest 1 plan) rfl
  exact ⟨start, clock, .tail (.single reset) load⟩

theorem accepts_loadedAt (localIp : Nat × Nat × Nat × Nat) (start : Nat)
    {plan : ClientPlan} {decoded : ClientTrafficPlan}
    (readable : Readable plan decoded) (script : RequestScript) :
    outcome (TrafficRuntime.handleRequest script "enable" (generationRequest 1 plan))
        (loadedAt start localIp plan).process.runtime =
      (.ok (),
        if decoded.flows.isEmpty then (loadedAt start localIp plan).process.runtime.enabledEmpty
        else (loadedAt start localIp plan).process.runtime.sending script decoded) := by
  rw [(loadedAt_runtime localIp start readable).1]
  exact outcome_enableLoaded (by decide) script rfl rfl rfl rfl

theorem paced_loadedAt {start : Nat} (clock : start < 2 ^ 64) {plan : ClientPlan}
    {decoded : ClientTrafficPlan} (readable : Readable plan decoded) (sends : decoded.flows ≠ []) :
    (loadedAt start localIp plan).Paced service localIp := by
  have loaded := loadedAt_runtime localIp start readable
  have none : (loadedAt start localIp plan).senderTask = .none :=
    congrArg TrafficRuntime.senderTask loaded.1
  have heartbeat : (loadedAt start localIp plan).heartbeat = start := by
    rw [TimedTraffic.heartbeat, status, loaded.1]
    exact heartbeatAt_toNat clock
  refine ⟨fun scheduler running => absurd (running.symm.trans none) (Option.some_ne_none _), ?_⟩
  intro _
  refine ⟨⟨decoded, congrArg TrafficRuntime.plan loaded.1, sends⟩, ?_⟩
  rw [loaded.2, heartbeat]
  exact Nat.add_le_add_left (schedulerStartDelay_lt localIp start).le start

/-- A client that sends to itself. -/
theorem heartbeat_recent_loop :
    let localIp := (10, 0, 0, 1)
    let start := 1750000000000000000
    let agent := loadedAt start localIp loopPlan
    ∀ later, ReflTransGen (Flows (fun _ delay => delay) 1000000)
      (agent.request localIp { now := heartbeatAt start } "enable" (generationRequest 1 loopPlan))
      later → later.Alive 1000000 := by
  intro localIp start agent
  have loaded := loadedAt_runtime localIp start loop_readable
  exact (heartbeat_recent_iff (reachable_loadedAt (by decide) loopPlan) (by rw [loaded.2])
    (congrArg Prod.fst (accepts_loadedAt localIp start loop_readable { now := heartbeatAt start }))).1
    (paced_loadedAt (by decide) loop_readable (List.cons_ne_nil _ _))

/-- A client that receives on one port. -/
def receiverPlan : ClientPlan := { listeners := [{ protocol := "udp", port := 5201 }], flows := [] }

theorem receiver_readable :
    Readable receiverPlan { listeners := [{ protocol := .udp, port := 5201 }], flows := [] } := by
  have accepted : ClientTrafficPlan.deserialize receiverPlan.toJson =
      some { listeners := [{ protocol := .udp, port := 5201 }], flows := [] } := by
    decide +kernel
  refine ⟨accepted, ?_⟩
  rw [ClientTrafficPlan.digest, planDigest, encoded_eq (List.forall_mem_nil _) accepted]

/-- What a client that only receives looks like after an `enable`. -/
theorem enabled_receiver (localIp : Nat × Nat × Nat × Nat) (start : Nat)
    {plan : ClientPlan} {decoded : ClientTrafficPlan}
    (readable : Readable plan decoded) (receives : decoded.flows = []) (script : RequestScript) :
    ((loadedAt start localIp plan).request localIp script "enable"
        (generationRequest 1 plan)).process.runtime =
      ((TrafficRuntime.cleared (heartbeatAt start)).loadedWith
        ⟨1, planDigest plan, decoded⟩).enabledEmpty := by
  have loaded := (loadedAt_runtime localIp start readable).1
  have answered := accepts_loadedAt localIp start readable script
  rw [if_pos (List.isEmpty_iff.mpr receives)] at answered
  have after : ((loadedAt start localIp plan).process.request script "enable"
      (generationRequest 1 plan)).2.runtime = (loadedAt start localIp plan).process.runtime.enabledEmpty :=
    congrArg Prod.snd answered
  rw [request_enabledEmpty (congrArg TrafficRuntime.senderTask loaded) after, ← loaded]
  exact after

/-- Ready but for its heartbeat. -/
theorem statusReady_receiver (start : Nat) {plan : ClientPlan} {decoded : ClientTrafficPlan}
    (receives : decoded.flows = []) (fresh : Bool) :
    statusReady { generation := 1, plans := [("a", plan)] } "a" fresh
      ((TrafficRuntime.cleared (heartbeatAt start)).loadedWith
        ⟨1, planDigest plan, decoded⟩).enabledEmpty.status = fresh := by
  have isPlan : ({ generation := 1, plans := [("a", plan)] } : MatrixCall).plan "a" = plan := by
    simp [MatrixCall.plan]
  have inForce : ({ generation := 1, plans := [("a", plan)] } : MatrixCall).InForce "a"
      ((TrafficRuntime.cleared (heartbeatAt start)).loadedWith
        ⟨1, planDigest plan, decoded⟩).enabledEmpty.status := by
    refine ⟨rfl, ?_, rfl⟩
    rw [isPlan]
    rfl
  have flows : (0 == decoded.flows.length) = true := by rw [receives]; rfl
  have listeners : (decoded.listeners.length == decoded.listeners.length) = true :=
    beq_self_eq_true _
  unfold statusReady
  rw [decide_eq_true inForce]
  change ((decoded.listeners.length == decoded.listeners.length) && true &&
    (0 == decoded.flows.length) && (decoded.listeners.length == decoded.listeners.length) &&
    fresh) = fresh
  rw [listeners, flows]
  rfl

/-- A client that only receives, eleven seconds after its `enable`: it has no scheduler, and the
controller finds it not ready for its heartbeat alone. -/
theorem receiver_goes_stale :
    let localIp := (10, 0, 0, 2)
    let start := 1750000000000000000
    let agent := loadedAt start localIp receiverPlan
    let enabled := agent.request localIp { now := heartbeatAt start } "enable"
      (generationRequest 1 receiverPlan)
    let later := { enabled with now := start + 11000000000 }
    let call : MatrixCall := { generation := 1, plans := [("a", receiverPlan)] }
    Reachable (fun _ delay => delay) 1000000 localIp agent ∧
      (agent.process.request { now := heartbeatAt start } "enable"
        (generationRequest 1 receiverPlan)).1 = .ok () ∧
      ReflTransGen (Flows (fun _ delay => delay) 1000000) enabled later ∧
      statusReady call "a" true later.status = true ∧
      statusReady call "a" (heartbeatFresh later.now later.status) later.status = false ∧
      ¬ later.Alive 1000000 := by
  intro localIp start agent enabled later call
  have runtime := enabled_receiver localIp start receiver_readable rfl
    { now := heartbeatAt start }
  have now : enabled.now = start := by
    have loaded := loadedAt_runtime localIp start receiver_readable
    have answered := accepts_loadedAt localIp start receiver_readable
      { now := heartbeatAt start }
    exact (congrArg TimedTraffic.now (request_enabledEmpty
      (congrArg TrafficRuntime.senderTask loaded.1) (congrArg Prod.snd answered))).trans loaded.2
  have status : later.status = ((TrafficRuntime.cleared (heartbeatAt start)).loadedWith
      ⟨1, planDigest receiverPlan, _⟩).enabledEmpty.status := congrArg TrafficRuntime.status runtime
  have none : enabled.senderTask = none := congrArg TrafficRuntime.senderTask runtime
  have stale : heartbeatFresh later.now later.status = false := by
    rw [status]
    decide +kernel
  have ready : ∀ fresh, statusReady call "a" fresh ((TrafficRuntime.cleared
      (heartbeatAt start)).loadedWith ⟨1, planDigest receiverPlan,
        { listeners := [{ protocol := .udp, port := 5201 }], flows := [] }⟩).enabledEmpty.status =
      fresh := fun fresh => statusReady_receiver start rfl fresh
  rw [← status] at ready
  have elapses : Flows (fun _ delay => delay) 1000000 enabled later := by
    have step : Flows (fun _ delay => delay) 1000000 enabled
        { enabled with now := enabled.now + 11000000000 } :=
      .elapse _ (by rw [now]; decide) fun scheduler running =>
        absurd (running.symm.trans none) (Option.some_ne_none _)
    rw [now] at step
    exact step
  refine ⟨reachable_loadedAt (by decide) receiverPlan, ?_, .single elapses, ready true, ?_, ?_⟩
  · exact congrArg Prod.fst (accepts_loadedAt localIp start receiver_readable _)
  · rw [stale]
    exact ready false
  · intro alive
    have same := alive.fresh (by decide) call "a"
    rw [stale, ready, ready] at same
    cases same

end TimedTraffic

end NetOpsBench
