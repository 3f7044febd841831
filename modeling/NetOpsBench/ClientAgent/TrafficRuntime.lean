import NetOpsBench.ClientAgent.TrafficPlan
import NetOpsBench.Lib.Fallible
import NetOpsBench.Lib.Program

/-!
# The traffic process of a client

`TrafficRuntime` of `native/client-agent/src/traffic.rs`. A request holds the runtime until it is
answered, and it awaits an aborted task before it goes on, so that it is one step; the scheduler
may be overtaken by a request before each of its writes to the status. What sockets and clocks
answer is a script. The token bucket of a flow is not embedded: a script has as many answers to
`try_send` as the tokens allow.
-/

namespace NetOpsBench

open Fallible Program

/-! ## The status -/

/-- The fields that the traffic process writes. -/
structure AgentStatus : Type where
  ready : Bool := false
  enabled : Bool := false
  heartbeatUnixNs : UInt64 := 0
  generation : UInt64 := 0
  planDigest : String := ""
  expectedFlows : Nat := 0
  activeFlows : Nat := 0
  expectedListeners : Nat := 0
  activeListeners : Nat := 0
  packetsSent : UInt64 := 0
  bytesSent : UInt64 := 0
  reconnects : UInt64 := 0
  lastError : Option String := none
  deriving DecidableEq, Repr

/-! ## The scheduler -/

structure UdpTransport : Type where
  socket : Bool
  nextRetry : Nat
  retryDelay : Nat
  deriving DecidableEq, Repr

structure TcpTransport : Type where
  stream : Bool
  connectTask : Bool
  nextRetry : Nat
  retryDelay : Nat
  deriving DecidableEq, Repr

inductive ScheduledTransport : Type where
  | udp (transport : UdpTransport)
  | tcp (transport : TcpTransport)
  deriving DecidableEq, Repr

structure ScheduledFlow : Type where
  plan : FlowPlan
  transport : ScheduledTransport
  active : Bool
  deriving DecidableEq, Repr

/-- `TRAFFIC_SCHEDULER_TICK`, in nanoseconds -/
def trafficSchedulerTick : Nat := 100000000

/-- `MIN_RECONNECT`, in nanoseconds -/
def minReconnect : Nat := 500000000

/-- `MAX_RECONNECT`, in nanoseconds -/
def maxReconnect : Nat := 5000000000

/-- `ScheduledFlow::new` -/
def ScheduledFlow.new (plan : FlowPlan) (now : Nat) : ScheduledFlow :=
  { plan
    transport :=
      match plan.protocol with
      | .udp => .udp ⟨false, now, minReconnect⟩
      | .tcp => .tcp ⟨false, false, now, minReconnect⟩
    active := false }

/-- What the scheduler does to the status. -/
inductive StatusCall : Type where
  | setFlowActive (flow : Nat) (value : Bool)
  | recordError (error : String)
  | recordReconnect
  | recordSchedulerTick (packets bytes now : UInt64)

structure SendActivity : Type where
  packets : UInt64 := 0
  bytes : UInt64 := 0

def SendActivity.add (first second : SendActivity) : SendActivity :=
  ⟨first.packets + second.packets, first.bytes + second.bytes⟩

/-- An answer of `try_send` or `try_write`. -/
inductive SendAnswer : Type where
  | sent (bytes : Nat)
  | wouldBlock
  | failed (error : String)

/-- How a connect task has ended. -/
inductive ConnectAnswer : Type where
  | connected
  | failed (error : String)
  | taskFailed (error : String)

/-- What the sockets of one flow answer in one tick. -/
structure FlowScript : Type where
  created : Except String Unit := .ok ()
  /-- The result of a connect task that has finished. -/
  connected : Option ConnectAnswer := none
  sends : List SendAnswer := []

/-- The sends of a UDP flow, until the tokens are spent or a send does not succeed. -/
def sendUdp (index : Nat) (flowId : String) : List SendAnswer → List StatusCall × SendActivity
  | [] => ([], {})
  | .sent bytes :: answers =>
      let rest := sendUdp index flowId answers
      (.setFlowActive index true :: rest.1, SendActivity.add ⟨1, .ofNat bytes⟩ rest.2)
  | .wouldBlock :: _ => ([], {})
  | .failed error :: _ =>
      ([.setFlowActive index false, .recordError ("UDP " ++ flowId ++ " send failed: " ++ error)], {})

/-- The writes of a TCP flow: the activity, and how it is disconnected, if it is. -/
def writeTcp (payloadBytes : Nat) : List SendAnswer → SendActivity × Option (Option String)
  | [] => ({}, none)
  | .sent bytes :: answers =>
      if bytes = 0 then ({}, some none)
      else
        let rest := writeTcp payloadBytes answers
        (SendActivity.add ⟨.ofNat ((bytes + payloadBytes - 1) / payloadBytes), .ofNat bytes⟩ rest.1,
          rest.2)
  | .wouldBlock :: _ => ({}, none)
  | .failed error :: _ => ({}, some (some error))

section ServiceFlow

-- `reconnect_delay_for` computes in floating point
variable (reconnectDelayFor : String → Nat → Nat)

/-- The socket of a UDP flow, when it has none and may try again. -/
def setupUdp (now index : Nat) (script : FlowScript) (plan : FlowPlan) (transport : UdpTransport) :
    UdpTransport × List StatusCall :=
  if ¬ transport.socket ∧ transport.nextRetry ≤ now then
    match script.created with
    | .ok () =>
        ({ transport with socket := true, retryDelay := minReconnect }, [.setFlowActive index true])
    | .error error =>
        ({ transport with
            nextRetry := now + reconnectDelayFor plan.flowId transport.retryDelay
            retryDelay := min (2 * transport.retryDelay) maxReconnect },
          [.recordError ("UDP " ++ plan.flowId ++ " setup failed: " ++ error)])
  else (transport, [])

def serviceUdp (now index : Nat) (script : FlowScript) (plan : FlowPlan)
    (transport : UdpTransport) : UdpTransport × List StatusCall × SendActivity :=
  let setup := setupUdp reconnectDelayFor now index script plan transport
  if setup.1.socket then
    let sends := sendUdp index plan.flowId script.sends
    (setup.1, setup.2 ++ sends.1, sends.2)
  else (setup.1, setup.2, {})

/-- What follows a connection that failed or was lost. -/
def backOff (now : Nat) (plan : FlowPlan) (transport : TcpTransport) : TcpTransport :=
  { transport with
    nextRetry := now + reconnectDelayFor plan.flowId transport.retryDelay
    retryDelay := min (2 * transport.retryDelay) maxReconnect }

/-- A connect task that has finished. -/
def finishConnect (now index : Nat) (script : FlowScript) (plan : FlowPlan)
    (transport : TcpTransport) : TcpTransport × List StatusCall :=
  match (if transport.connectTask then script.connected else none) with
  | none => (transport, [])
  | some .connected =>
      ({ transport with stream := true, connectTask := false, retryDelay := minReconnect },
        [.setFlowActive index true])
  | some (.failed error) =>
      (backOff reconnectDelayFor now plan { transport with connectTask := false },
        [.recordError ("TCP " ++ plan.flowId ++ " connect failed: " ++ error), .recordReconnect])
  | some (.taskFailed error) =>
      (backOff reconnectDelayFor now plan { transport with connectTask := false },
        [.recordError ("TCP " ++ plan.flowId ++ " connect task failed: " ++ error),
          .recordReconnect])

/-- The start of a connect task, and the writes of a flow that is connected. -/
def driveTcp (now index : Nat) (script : FlowScript) (plan : FlowPlan)
    (transport : TcpTransport) : TcpTransport × List StatusCall × SendActivity :=
  let transport :=
    { transport with
      connectTask :=
        transport.connectTask || decide (¬ transport.stream ∧ transport.nextRetry ≤ now) }
  if transport.stream then
    let writes := writeTcp (max plan.payloadBytes.toNat 1) script.sends
    match writes.2 with
    | none => (transport, [], writes.1)
    | some error =>
        (backOff reconnectDelayFor now plan { transport with stream := false },
          .setFlowActive index false ::
            (error.toList.map fun error =>
              .recordError ("TCP " ++ plan.flowId ++ " send failed: " ++ error)) ++
            [.recordReconnect],
          writes.1)
  else (transport, [], {})

def serviceTcp (now index : Nat) (script : FlowScript) (plan : FlowPlan)
    (transport : TcpTransport) : TcpTransport × List StatusCall × SendActivity :=
  let finished := finishConnect reconnectDelayFor now index script plan transport
  let driven := driveTcp reconnectDelayFor now index script plan finished.1
  (driven.1, finished.2 ++ driven.2.1, driven.2.2)

/-- `service_flow`: the transport afterwards, the writes to the status, and what was sent -/
def serviceFlow (now index : Nat) (script : FlowScript) (flow : ScheduledFlow) :
    ScheduledTransport × List StatusCall × SendActivity :=
  match flow.transport with
  | .udp transport =>
      let served := serviceUdp reconnectDelayFor now index script flow.plan transport
      (.udp served.1, served.2)
  | .tcp transport =>
      let served := serviceTcp reconnectDelayFor now index script flow.plan transport
      (.tcp served.1, served.2)

/-- One tick of `traffic_scheduler`: the flows afterwards, and the writes to the status. -/
def serviceFlows (now : Nat) (script : Nat → FlowScript) (index : Nat) :
    List ScheduledFlow → List ScheduledFlow × List StatusCall × SendActivity
  | [] => ([], [], {})
  | flow :: flows =>
      let served := serviceFlow reconnectDelayFor now index (script index) flow
      let rest := serviceFlows now script (index + 1) flows
      ({ flow with transport := served.1 } :: rest.1, served.2.1 ++ rest.2.1,
        SendActivity.add served.2.2 rest.2.2)

end ServiceFlow

/-- `traffic_scheduler` between two writes to the status; `calls` are those of its tick that are
still to come. -/
structure TrafficScheduler : Type where
  flows : List ScheduledFlow
  calls : List StatusCall := []

/-! ## The runtime -/

structure TrafficRuntime : Type where
  status : AgentStatus := {}
  plan : Option ClientTrafficPlan := none
  listenerTasks : List ListenerPlan := []
  senderTask : Option TrafficScheduler := none

structure LoadPayload : Type where
  generation : UInt64
  planDigest : String
  plan : ClientTrafficPlan
  deriving DecidableEq, Repr

structure GenerationPayload : Type where
  generation : UInt64
  planDigest : String
  deriving DecidableEq, Repr

def LoadPayload.deserialize (value : Json) : Option LoadPayload := do
  match ← SerdeJson.structFields ["generation", "plan_digest", "plan"] value with
  | [generation, planDigest, plan] => do
      let generation ← SerdeJson.unsigned 64 generation
      let planDigest ← SerdeJson.string planDigest
      let plan ← ClientTrafficPlan.deserialize plan
      pure { generation := .ofNat generation, planDigest, plan }
  | _ => none

def GenerationPayload.deserialize (value : Json) : Option GenerationPayload := do
  match ← SerdeJson.structFields ["generation", "plan_digest"] value with
  | [generation, planDigest] => do
      let generation ← SerdeJson.unsigned 64 generation
      let planDigest ← SerdeJson.string planDigest
      pure { generation := .ofNat generation, planDigest }
  | _ => none

/-- Why a request is refused. -/
inductive Refusal : Type where
  /-- The payload is not one of the operation. -/
  | undecodable (error : String)
  /-- A listener cannot be bound. -/
  | unbound (error : String)
  | message (text : String)
  deriving DecidableEq, Repr

/-- What a request meets: the clock, the errors of serde, and the answers to the binds, by the
place of the listener. -/
structure RequestScript : Type where
  now : UInt64 := 0
  instant : Nat := 0
  decodeError : String := ""
  bind : Nat → Except String Unit := fun _ => .ok ()

abbrev TrafficProgram : Type → Type := Program TrafficRuntime Refusal

namespace TrafficRuntime

def modifyStatus (f : AgentStatus → AgentStatus) : TrafficProgram Unit :=
  modify fun runtime => { runtime with status := f runtime.status }

def validateGeneration (payload : GenerationPayload) : TrafficProgram Unit := do
  let runtime ← get
  Program.ofExcept (reject
    (runtime.status.generation ≠ payload.generation ∨ runtime.status.planDigest ≠ payload.planDigest)
    (.message "traffic generation or plan digest mismatch"))

def disable : TrafficProgram Unit :=
  modify fun runtime =>
    { runtime with
      senderTask := none
      status :=
        { runtime.status with
          enabled := false
          activeFlows := 0
          ready := runtime.status.activeListeners == runtime.status.expectedListeners } }

def stopListeners : TrafficProgram Unit :=
  modify fun runtime => { runtime with listenerTasks := [] }

/-- The status of a process without a plan. -/
def clearStatus (now : UInt64) : TrafficProgram Unit :=
  modifyStatus fun _ => { heartbeatUnixNs := now }

/-- The listeners, all of them or none. -/
def bindListeners (bind : Nat → Except String Unit) :
    Nat → List ListenerPlan → Except String (List ListenerPlan)
  | _, [] => .ok []
  | index, listener :: listeners => do
      bind index
      let handles ← bindListeners bind (index + 1) listeners
      pure (listener :: handles)

def load (script : RequestScript) (payload : LoadPayload) : TrafficProgram Unit := do
  Program.ofExcept (reject (payload.generation = 0 ∨ payload.planDigest = "")
    (.message "generation and plan_digest are required"))
  Program.ofExcept (reject (payload.plan.digest ≠ payload.planDigest)
    (.message ("traffic plan digest mismatch: received " ++ payload.planDigest ++ ", calculated " ++
      payload.plan.digest)))
  disable
  stopListeners
  match bindListeners script.bind 0 payload.plan.listeners with
  | .error error => do
      modify fun runtime : TrafficRuntime => { runtime with plan := none }
      clearStatus script.now
      throw (.unbound error)
  | .ok handles =>
      modify fun runtime : TrafficRuntime =>
        { runtime with
          listenerTasks := handles
          plan := some payload.plan
          status :=
            { runtime.status with
              generation := payload.generation
              planDigest := payload.planDigest
              enabled := false
              expectedFlows := payload.plan.flows.length
              activeFlows := 0
              expectedListeners := payload.plan.listeners.length
              activeListeners := handles.length
              ready := handles.length == payload.plan.listeners.length
              lastError := none } }

def reset (script : RequestScript) : TrafficProgram Unit := do
  disable
  stopListeners
  modify fun runtime : TrafficRuntime => { runtime with plan := none }
  clearStatus script.now

/-- The end of `enable`: the status of a plan without flows, or a scheduler. -/
def startSender (script : RequestScript) (plan : ClientTrafficPlan) : TrafficProgram Unit :=
  if plan.flows.isEmpty then
    modifyStatus fun status =>
      { status with ready := status.activeListeners == status.expectedListeners }
  else
    modify fun runtime =>
      { runtime with
        senderTask :=
          some { flows := plan.flows.map fun flow => ScheduledFlow.new flow script.instant } }

def enable (script : RequestScript) (payload : GenerationPayload) : TrafficProgram Unit := do
  validateGeneration payload
  let runtime ← get
  if runtime.senderTask.isSome then pure ()
  else
    match runtime.plan with
    | none => throw (.message "traffic plan is not loaded")
    | some plan => do
        modifyStatus fun status => { status with enabled := true, ready := false, activeFlows := 0 }
        startSender script plan

/-- The payload of a request, or the refusal of one that does not fit. -/
def decode {α : Type} (script : RequestScript) (payload : Option α) : TrafficProgram α :=
  match payload with
  | some request => pure request
  | none => throw (.undecodable script.decodeError)

/-- `handle_request`, up to the response -/
def handleRequest (script : RequestScript) (op : String) (payload : Json) : TrafficProgram Unit :=
  if op = "load_plan" then do
    let payload ← decode script (LoadPayload.deserialize payload)
    load script payload
  else if op = "enable" then do
    let payload ← decode script (GenerationPayload.deserialize payload)
    enable script payload
  else if op = "disable" then do
    let payload ← decode script (GenerationPayload.deserialize payload)
    validateGeneration payload
    disable
  else if op = "reset" then reset script
  else if op = "status" then pure ()
  else throw (.message ("unsupported operation " ++ op))

end TrafficRuntime

/-! ## The process -/

/-- `set_flow_active`: the flag and the status afterwards -/
def setFlowActive (status : AgentStatus) (active value : Bool) : Bool × AgentStatus :=
  if active = value then (active, status)
  else
    let activeFlows := if value then status.activeFlows + 1 else status.activeFlows - 1
    let ready := status.activeListeners == status.expectedListeners &&
      (!status.enabled || activeFlows == status.expectedFlows)
    (value,
      { status with
        activeFlows
        ready
        lastError := if ready then none else status.lastError })

/-- The flows and the status after a write of the scheduler. -/
def StatusCall.perform (call : StatusCall) (flows : List ScheduledFlow) (status : AgentStatus) :
    List ScheduledFlow × AgentStatus :=
  match call with
  | setFlowActive index value =>
      match flows[index]? with
      | none => (flows, status)
      | some flow =>
          let written := NetOpsBench.setFlowActive status flow.active value
          (flows.set index { flow with active := written.1 }, written.2)
  | recordError error => (flows, { status with lastError := some error })
  | recordReconnect => (flows, { status with reconnects := status.reconnects + 1 })
  | recordSchedulerTick packets bytes now =>
      (flows,
        { status with
          packetsSent := status.packetsSent + packets
          bytesSent := status.bytesSent + bytes
          heartbeatUnixNs := now })

inductive TrafficEvent : Type where
  | request (script : RequestScript) (op : String) (payload : Json)
  /-- The scheduler starts a tick. -/
  | tick (now : Nat) (clock : UInt64) (script : Nat → FlowScript)
  /-- The scheduler writes to the status. -/
  | call

/-- The process, with the payload of the load that its plan comes from. -/
structure TrafficProcess : Type where
  runtime : TrafficRuntime := {}
  loaded : Option LoadPayload := none

namespace TrafficProcess

/-- The load that is in force after an attempt to load. -/
def loadedBy (loaded : Option LoadPayload) (payload : LoadPayload) :
    Except Refusal Unit → Option LoadPayload
  | .ok () => some payload
  | .error (.unbound _) => none
  | .error _ => loaded

/-- The load that is in force after a request has been answered. -/
def loadedAfter (loaded : Option LoadPayload) (op : String) (payload : Json)
    (answer : Except Refusal Unit) : Option LoadPayload :=
  if op = "load_plan" then
    match LoadPayload.deserialize payload with
    | none => loaded
    | some request => loadedBy loaded request answer
  else if op = "reset" then none
  else loaded

/-- A tick: what it will write to the status is fixed when it starts. -/
def tick (reconnectDelayFor : String → Nat → Nat) (now : Nat) (clock : UInt64)
    (script : Nat → FlowScript) (scheduler : TrafficScheduler) : TrafficScheduler :=
  if scheduler.calls.isEmpty then
    let served := serviceFlows reconnectDelayFor now script 0 scheduler.flows
    { flows := served.1
      calls := served.2.1 ++ [.recordSchedulerTick served.2.2.packets served.2.2.bytes clock] }
  else scheduler

/-- The answer to a request, and the process afterwards. -/
def request (process : TrafficProcess) (script : RequestScript) (op : String) (payload : Json) :
    Except Refusal Unit × TrafficProcess :=
  let answered := outcome (TrafficRuntime.handleRequest script op payload) process.runtime
  (answered.1,
    { runtime := answered.2
      loaded := loadedAfter process.loaded op payload answered.1 })

def step (reconnectDelayFor : String → Nat → Nat) (process : TrafficProcess) :
    TrafficEvent → TrafficProcess
  | .request script op payload => (process.request script op payload).2
  | .tick now clock script =>
      { process with
        runtime :=
          { process.runtime with
            senderTask :=
              process.runtime.senderTask.map (tick reconnectDelayFor now clock script) } }
  | .call =>
      match process.runtime.senderTask with
      | none => process
      | some scheduler =>
          match scheduler.calls with
          | [] => process
          | call :: calls =>
              let written := call.perform scheduler.flows process.runtime.status
              { process with
                runtime :=
                  { process.runtime with
                    status := written.2
                    senderTask := some { flows := written.1, calls } } }

def run (reconnectDelayFor : String → Nat → Nat) (process : TrafficProcess)
    (events : List TrafficEvent) : TrafficProcess :=
  events.foldl (step reconnectDelayFor) process

end TrafficProcess

end NetOpsBench
