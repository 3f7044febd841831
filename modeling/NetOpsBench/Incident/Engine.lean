import Mathlib.Algebra.Order.Ring.Unbundled.Rat
import NetOpsBench.ClientAgent.Config
import NetOpsBench.Lib.Binary64
import NetOpsBench.Lib.Program

/-!
# Incidents and their sessions

`PreparedIncident` and `DiagnosticSession` of `netopsbench/platform/incident/engine.py`. What
the backend, the evaluator, the callback and the clock answer in one call is a script of the
call, so any of them may raise at any time. `IncidentWorld.calls` is the record of what was
asked of them; no operation reads it.
-/

namespace NetOpsBench

open Fallible

/-! ## States -/

/-- An exception: `type(exc).__name__` and `str(exc)`. -/
structure Thrown : Type where
  errorType : String
  message : String
  deriving DecidableEq, Repr

def Thrown.runtimeError (message : String) : Thrown := ⟨"RuntimeError", message⟩

def Thrown.valueError (message : String) : Thrown := ⟨"ValueError", message⟩

inductive IncidentState : Type where
  | created
  | preparing
  | active
  | closing
  | closed
  | broken
  deriving DecidableEq, Repr

def IncidentState.value : IncidentState → String
  | .created => "created"
  | .preparing => "preparing"
  | .active => "active"
  | .closing => "closing"
  | .closed => "closed"
  | .broken => "broken"

inductive SessionState : Type where
  | active
  | terminal
  deriving DecidableEq, Repr

def SessionState.value : SessionState → String
  | .active => "active"
  | .terminal => "terminal"

inductive FailureDomain : Type where
  | infrastructure
  | agent
  | protocol
  | toolExecution
  | cleanup
  deriving DecidableEq, Repr

inductive CleanupStatus : Type where
  | notStarted
  | succeeded
  | failed
  deriving DecidableEq, Repr

inductive TerminationReason : Type where
  | submitted
  | agentError
  | protocolError
  | limitExhausted
  deriving DecidableEq, Repr

structure ExecutionFailure : Type where
  domain : FailureDomain
  phase : String
  message : String
  errorType : Option String := none
  deriving DecidableEq, Repr

/-- The failure that an exception is reported as. -/
def Thrown.failure (thrown : Thrown) (domain : FailureDomain) (phase : String) : ExecutionFailure :=
  ⟨domain, phase, thrown.message, some thrown.errorType⟩

/-! ## Contracts -/

/-- `SimulatorConfig` with its validator `validate_lease_deadline`. -/
structure SimulatorConfig : Type where
  maxActiveRuntimes : Nat := 1
  maxToolCalls : Nat := 20
  maxAgentSeconds : Nat := 300
  maxToolResultBytes : Nat := 8192
  orphanLeaseTtlSeconds : Nat := 3600
  maxActiveRuntimes_pos : 1 ≤ maxActiveRuntimes := by decide
  maxToolCalls_pos : 1 ≤ maxToolCalls := by decide
  maxAgentSeconds_pos : 1 ≤ maxAgentSeconds := by decide
  maxToolResultBytes_ge : 1024 ≤ maxToolResultBytes := by decide
  orphanLeaseTtlSeconds_pos : 1 ≤ orphanLeaseTtlSeconds := by decide
  leaseDeadline : maxAgentSeconds + 300 ≤ orphanLeaseTtlSeconds := by decide

structure ToolAction : Type where
  name : String
  arguments : List (String × Json) := []

/-- The literals of `DiagnosisSubmission.verdict`. -/
inductive Verdict : Type where
  | faultDetected
  | networkHealthy
  | inconclusive
  deriving DecidableEq, Repr

structure DiagnosisLocation : Type where
  device : Option String := none
  interface : Option String := none
  deriving DecidableEq, Repr

/-- `model_dump(exclude_none=True)` -/
def DiagnosisLocation.dump (location : DiagnosisLocation) : List (String × Json) :=
  [("device", location.device), ("interface", location.interface)].filterMap fun field =>
    field.2.map fun value => (field.1, .str value)

structure DiagnosisSubmission : Type where
  verdict : Verdict
  faultType : Option String := none
  location : DiagnosisLocation := {}
  evidence : List String := []
  confidence : Rat := 0
  reasoning : String := ""
  confidence_nonneg : 0 ≤ confidence := by decide
  confidence_le : confidence ≤ 1 := by decide

structure AgentUsage : Type where
  inputTokens : Nat := 0
  outputTokens : Nat := 0
  deriving DecidableEq, Repr

/-- What the evaluator is given. -/
structure AgentOutput : Type where
  diagnosis : DiagnosisSubmission
  location : List (String × Json)
  toolCalls : List Json
  timeTakenSeconds : Rat
  metadata : List (String × Json)

/-- What the evaluator returns; the details are its `to_dict()`. -/
structure Evaluation : Type where
  score : Binary64
  correctVerdict : Json
  correctDevice : Json
  correctInterface : Json
  correctFaultType : Json
  details : List (String × Json)

/-- The second component of `PreparedIncident.evaluate`. -/
def Evaluation.metrics (evaluation : Evaluation) : List (String × Json) :=
  [("correct_verdict", evaluation.correctVerdict), ("correct_device", evaluation.correctDevice),
    ("correct_interface", evaluation.correctInterface),
    ("correct_fault_type", evaluation.correctFaultType),
    ("fault_type_kpi", .float (if Json.truthy evaluation.correctFaultType then "1.0" else "0.0"))]

/-- The metrics of a transition; its own entries replace those of the evaluation. -/
structure SessionMetrics : Type where
  evaluation : List (String × Json) := []
  toolCalls : Nat
  elapsedSeconds : Rat
  usage : Option AgentUsage := none

structure SessionTransition : Type where
  valid : Bool := true
  caseValid : Bool := true
  state : SessionState
  observation : List (String × Json) := []
  reward : Option Binary64 := none
  rewardComponents : List (String × Binary64) := []
  metrics : SessionMetrics
  terminationReason : Option TerminationReason := none
  failure : Option ExecutionFailure := none
  cleanupFailure : Option ExecutionFailure := none
  cleanupStatus : CleanupStatus := .notStarted
  error : Option String := none

/-! ## The world -/

structure PreparedIncident : Type where
  /-- `scenario.digest` -/
  digest : String
  /-- `scenario.episode.is_healthy` -/
  isHealthy : Bool
  defaultSessionConfig : Option SimulatorConfig
  /-- `_on_close is not None` -/
  hasOnClose : Bool
  state : IncidentState := .created
  observation : List (String × Json) := []
  failure : Option ExecutionFailure := none
  cleanupFailure : Option ExecutionFailure := none
  cleanupStatus : CleanupStatus := .notStarted
  closeNotified : Bool := false

structure DiagnosticSession : Type where
  config : SimulatorConfig
  startedAt : Rat
  state : SessionState := .active
  toolCalls : Nat := 0
  toolCallRecords : List Json := []
  evaluationResult : Option (List (String × Json)) := none

/-- What is asked of the backend, the evaluator and the callback; a tool call names the session
that made it. -/
inductive ExternalCall : Type where
  | prepare
  | refresh (minSeconds : Rat)
  | callTool (session : Option Nat) (action : ToolAction)
  | groundTruth
  | evaluate (output : AgentOutput) (groundTruth : Json) (caseId : String)
  | finish (broken : Bool)
  | onClose

structure IncidentWorld : Type where
  incident : PreparedIncident
  sessions : List DiagnosticSession := []
  calls : List ExternalCall := []

/-- `validate_tool_call`, `compact_json` and the built-in `str`. -/
structure IncidentContext : Type where
  validateToolCall : ToolAction → Bool
  compactJson : Json → Nat → Json
  str : Json → String

/-- A program over an incident and its sessions. -/
abbrev IncidentProgram : Type → Type := Program IncidentWorld Thrown

def ask (call : ExternalCall) : IncidentProgram Unit :=
  modify fun world => { world with calls := world.calls ++ [call] }

def modifyIncident (f : PreparedIncident → PreparedIncident) : IncidentProgram Unit :=
  modify fun world => { world with incident := f world.incident }

def modifySession (id : Nat) (f : DiagnosticSession → DiagnosticSession) : IncidentProgram Unit :=
  modify fun world => { world with sessions := world.sessions.modify id f }

/-! ## The incident -/

/-- What `finish` and `_on_close` answer. -/
structure CleanupScript : Type where
  finish : Except Thrown Unit := .ok ()
  onClose : Except Thrown Unit := .ok ()

namespace PreparedIncident

/-- `case_id` -/
def caseId (ctx : IncidentContext) (incident : PreparedIncident) : String :=
  ((incident.observation.lookup "case_id").filter Json.truthy).elim
    ("case-" ++ String.ofList (incident.digest.toList.take 12)) ctx.str

/-- The check that opens `open_session`, `call_tool` and `evaluate`. -/
def requireActive : IncidentProgram PreparedIncident := do
  let world ← get
  Program.ofExcept (reject (world.incident.state ≠ .active)
    (.runtimeError ("Incident is not active: " ++ world.incident.state.value)))
  pure world.incident

/-- `_notify_close` -/
def notifyClose (script : CleanupScript) : IncidentProgram Unit := do
  let world ← get
  if ¬ world.incident.closeNotified ∧ world.incident.hasOnClose then
    modifyIncident fun incident => { incident with closeNotified := true }
    ask .onClose
    Program.ofExcept script.onClose
  else pure ()

/-- `_finish_backend` -/
def finishBackend (broken : Bool) (script : CleanupScript) : IncidentProgram Unit := do
  ask (.finish broken)
  match script.finish with
  | .error thrown => do
      modifyIncident fun incident =>
        { incident with
          cleanupStatus := .failed
          cleanupFailure := some (thrown.failure .cleanup "cleanup")
          state := .broken }
      notifyClose script
  | .ok () => do
      modifyIncident fun incident =>
        { incident with
          cleanupStatus := .succeeded
          state := if broken then .broken else .closed }
      notifyClose script

def prepare (observation : Except Thrown (List (String × Json))) (script : CleanupScript) :
    IncidentProgram Unit := do
  let world ← get
  Program.ofExcept (reject (world.incident.state ≠ .created)
    (.runtimeError ("Incident cannot prepare from " ++ world.incident.state.value)))
  modifyIncident fun incident => { incident with state := .preparing }
  ask .prepare
  match observation with
  | .error thrown => do
      modifyIncident fun incident =>
        { incident with
          failure := some (thrown.failure .infrastructure "prepare")
          state := .broken }
      finishBackend true script
  | .ok observation =>
      modifyIncident fun incident => { incident with observation, state := .active }

/-- `_refresh_lease` -/
def refreshLease (minSeconds : Rat) (answer : Except Thrown Unit) : IncidentProgram Unit := do
  ask (.refresh minSeconds)
  Program.ofExcept answer

/-- `open_session`: the number of the new session. -/
def openSession (config : Option SimulatorConfig) (refresh : Except Thrown Unit)
    (startedAt : Rat) : IncidentProgram Nat := do
  let incident ← requireActive
  match config.or incident.defaultSessionConfig with
  | none => throw (.valueError
      "A SimulatorConfig is required when the incident has no default session config")
  | some resolved => do
      refreshLease resolved.maxAgentSeconds refresh
      let world ← get
      modify fun world : IncidentWorld =>
        { world with sessions := world.sessions ++ [{ config := resolved, startedAt }] }
      pure world.sessions.length

/-- What the backend answers during a tool call. -/
structure ToolScript : Type where
  refreshBefore : Except Thrown Unit := .ok ()
  result : Except Thrown Json
  refreshAfter : Except Thrown Unit := .ok ()

def callTool (ctx : IncidentContext) (session : Option Nat) (action : ToolAction)
    (script : ToolScript) : IncidentProgram Json := do
  let _ ← requireActive
  Program.ofExcept (reject (ctx.validateToolCall action = false)
    (.valueError ("Invalid tool action: " ++ action.name)))
  refreshLease 0 script.refreshBefore
  ask (.callTool session action)
  let result ← Program.ofExcept script.result
  refreshLease 0 script.refreshAfter
  pure result

/-- What `evaluate` passes on of an agent's run. -/
structure Accounting : Type where
  toolCalls : List Json := []
  timeTakenSeconds : Rat := 0
  metadata : List (String × Json) := []

structure EvaluateScript : Type where
  refresh : Except Thrown Unit := .ok ()
  groundTruth : Except Thrown Json := .ok (.obj [])
  evaluation : Except Thrown Evaluation

/-- The ground truth that `evaluate` builds; a healthy episode has none. -/
def groundTruth (incident : PreparedIncident) (script : EvaluateScript) : IncidentProgram Json :=
  if incident.isHealthy then pure (.obj [])
  else do
    ask .groundTruth
    Program.ofExcept script.groundTruth

def evaluate (ctx : IncidentContext) (diagnosis : DiagnosisSubmission) (accounting : Accounting)
    (script : EvaluateScript) : IncidentProgram Evaluation := do
  let incident ← requireActive
  refreshLease 0 script.refresh
  let groundTruth ← incident.groundTruth script
  ask (.evaluate
    { diagnosis
      location := diagnosis.location.dump
      toolCalls := accounting.toolCalls
      timeTakenSeconds := max 0 accounting.timeTakenSeconds
      metadata := accounting.metadata } groundTruth (incident.caseId ctx))
  Program.ofExcept script.evaluation

def close (script : CleanupScript) : IncidentProgram CleanupStatus := do
  let world ← get
  if world.incident.state = .closed ∨ world.incident.cleanupStatus ≠ .notStarted then
    pure world.incident.cleanupStatus
  else do
    let broken := decide (world.incident.state = .broken)
    modifyIncident fun incident =>
      if broken then incident else { incident with state := .closing }
    finishBackend broken script
    let after ← get
    pure after.incident.cleanupStatus

end PreparedIncident

/-! ## The sessions -/

/-- `time.monotonic()`, and the seconds that the timings of the session assign to its agent's
cleanup. -/
structure SessionClock : Type where
  now : Rat
  cleanupSeconds : Rat := 0

namespace DiagnosticSession

/-- `_elapsed` -/
def elapsed (session : DiagnosticSession) (clock : SessionClock) : Rat :=
  max 0 (clock.now - session.startedAt)

/-- `_metrics` -/
def metrics (session : DiagnosticSession) (elapsed : Rat) : SessionMetrics :=
  { toolCalls := session.toolCalls, elapsedSeconds := elapsed }

/-- `_bounded_tool_observation` -/
def boundedToolObservation (ctx : IncidentContext) (session : DiagnosticSession)
    (value : List (String × Json)) : List (String × Json) :=
  match ctx.compactJson (.obj value) session.config.maxToolResultBytes with
  | .obj bounded => bounded
  | bounded => [("result", bounded)]

/-- A session that was never opened cannot be asked. -/
def find (id : Nat) : IncidentProgram DiagnosticSession := do
  let world ← get
  match world.sessions[id]? with
  | none => throw ⟨"NameError", "no such session"⟩
  | some session => pure session

/-- `_require_active` -/
def requireActive (id : Nat) : IncidentProgram DiagnosticSession := do
  let session ← find id
  Program.ofExcept (reject (session.state ≠ .active)
    (.runtimeError ("Diagnostic session is not active: " ++ session.state.value)))
  let _ ← PreparedIncident.requireActive
  pure session

/-- The limit that `_limit_transition` finds exceeded. -/
def exceededLimit (session : DiagnosticSession) (clock : SessionClock) : Option String :=
  if session.config.maxAgentSeconds < max 0 (session.elapsed clock - clock.cleanupSeconds) then
    some "max_agent_seconds exceeded"
  else if session.config.maxToolCalls ≤ session.toolCalls then some "max_tool_calls exceeded"
  else none

/-- A transition that ends a session without a diagnosis. -/
def failedTransition (session : DiagnosticSession) (elapsed : Rat) (failure : ExecutionFailure)
    (reason : TerminationReason) : SessionTransition :=
  { state := .terminal
    reward := some (.finite 0)
    rewardComponents := [("outcome", .finite 0)]
    metrics := session.metrics elapsed
    terminationReason := some reason
    failure := some failure
    error := some failure.message }

/-- `_limit_transition` -/
def limitTransition (id : Nat) (session : DiagnosticSession) (clock : SessionClock) :
    IncidentProgram (Option SessionTransition) :=
  match session.exceededLimit clock with
  | none => pure none
  | some message => do
      modifySession id fun session => { session with state := .terminal }
      pure (some (session.failedTransition (session.elapsed clock)
        { domain := .agent, phase := "limits", message } .limitExhausted))

/-- A transition of a tool call that failed; the session goes on. -/
def failedToolTransition (ctx : IncidentContext) (session : DiagnosticSession)
    (action : ToolAction) (elapsed : Rat) (failure : ExecutionFailure) : SessionTransition :=
  { state := session.state
    observation := session.boundedToolObservation ctx
      [("tool", .str action.name), ("success", .bool false), ("error", .str failure.message)]
    failure := some failure
    error := some failure.message
    metrics := session.metrics elapsed }

/-- What the surroundings answer during a tool call of a session; entering the deadline scope
may raise. -/
structure CallScript : Type extends PreparedIncident.ToolScript where
  clock : SessionClock
  scope : Except Thrown Unit := .ok ()

/-- The session after it has counted a tool call. -/
def counted (session : DiagnosticSession) (action : ToolAction) : DiagnosticSession :=
  { session with
    toolCalls := session.toolCalls + 1
    toolCallRecords := session.toolCallRecords ++
      [.obj [("tool", .str action.name), ("args", .obj action.arguments)]] }

/-- The `try` of `call_tool`: an ordinary error of a query is recoverable. -/
def runTool (ctx : IncidentContext) (id : Nat) (session : DiagnosticSession) (action : ToolAction)
    (elapsed : Rat) (script : CallScript) : IncidentProgram SessionTransition :=
  tryCatch (do
    Program.ofExcept script.scope
    let result ← PreparedIncident.callTool ctx (some id) action script.toToolScript
    pure
      { state := session.state
        observation := session.boundedToolObservation ctx
          [("tool", .str action.name), ("result", result)]
        metrics := session.metrics elapsed })
    fun thrown => pure (session.failedToolTransition ctx action elapsed
      (thrown.failure .toolExecution "tool_execution"))

def callTool (ctx : IncidentContext) (id : Nat) (action : ToolAction) (script : CallScript) :
    IncidentProgram SessionTransition := do
  let before ← requireActive id
  let elapsed := before.elapsed script.clock
  match ← limitTransition id before script.clock with
  | some limit => pure limit
  | none => do
      modifySession id fun session => session.counted action
      let session := before.counted action
      if ctx.validateToolCall action = false then
        pure (session.failedToolTransition ctx action elapsed
          { domain := .protocol
            phase := "tool_validation"
            message := "Invalid tool action: " ++ action.name })
      else runTool ctx id session action elapsed script

/-- The arguments of `submit` beside the diagnosis. -/
structure Submission : Type where
  usage : Option AgentUsage := none
  toolCalls : List Json := []
  timeTakenSeconds : Option Rat := none
  metadata : List (String × Json) := []

structure SubmitScript : Type extends PreparedIncident.EvaluateScript where
  clock : SessionClock

def submit (ctx : IncidentContext) (id : Nat) (diagnosis : DiagnosisSubmission)
    (submission : Submission) (script : SubmitScript) : IncidentProgram SessionTransition := do
  let session ← requireActive id
  let elapsed := session.elapsed script.clock
  match ← limitTransition id session script.clock with
  | some limit => pure limit
  | none => do
      let toolCalls :=
        if submission.toolCalls = [] then session.toolCallRecords else submission.toolCalls
      let evaluation ← PreparedIncident.evaluate ctx diagnosis
        { toolCalls
          timeTakenSeconds := (submission.timeTakenSeconds.map (max 0)).getD elapsed
          metadata := submission.metadata } script.toEvaluateScript
      modifySession id fun session =>
        { session with evaluationResult := some evaluation.details, state := .terminal }
      pure
        { state := .terminal
          reward := some evaluation.score
          rewardComponents := [("outcome", evaluation.score)]
          metrics :=
            { session.metrics elapsed with
              evaluation := evaluation.metrics
              toolCalls := toolCalls.length
              usage := submission.usage }
          terminationReason := some .submitted }

def terminateFailure (id : Nat) (domain : FailureDomain) (message : String)
    (reason : TerminationReason) (clock : SessionClock) : IncidentProgram SessionTransition := do
  let session ← requireActive id
  modifySession id fun session => { session with state := .terminal }
  pure (session.failedTransition (session.elapsed clock)
    { domain, phase := "diagnosis", message } reason)

end DiagnosticSession

end NetOpsBench
