import NetOpsBench.Scenario.Cleanup

/-!
# Scenarios on one executor

`ScenarioExecutor.run_scenario` with the `ExecutorIncidentBackend` of
`netopsbench/platform/scenario/incident_backend.py` and `observe_episode` of `episode_runner.py`.
What the calls answer is a script of the scenario; a call that reads the topology manifest may find
it changed, which clears the handoff.
-/

namespace NetOpsBench

open Program

/-! ## The episode -/

structure InjectionScript : Type where
  /-- `_check_cancelled` -/
  check : Except StepError Unit := .ok ()
  snapshot : Step FrrSnapshot
  /-- Whether the injection reports success. -/
  answer : Except StepError Bool := .ok true
  /-- The faults that are tracked after the injection. -/
  tracked : List String := []

structure EpisodeScript : Type where
  injection : InjectionScript
  /-- The budget of the episode and the wait for its window. -/
  window : Step Unit := { answer := .ok () }
  observation : Step Observation

/-- The faults that may rewrite the configuration of their device. -/
def ScenarioCase.rewritesConfiguration (case : ScenarioCase) : Bool :=
  case.faultType.startsWith "bgp_" || case.faultType.startsWith "route_" ||
    ["ecmp_misconfig", "routing_loop", "static_route_misconfig", "blackhole_route",
      "device_down"].contains case.faultType

def captureConfiguration (case : ScenarioCase) (script : InjectionScript) :
    ExecutorProgram Unit := do
  let world ← get
  if world.hasWorker && case.rewritesConfiguration then do
    let snapshot ← perform script.snapshot
    modify fun world : ExecutorWorld => { world with frrBefore := some snapshot }
  else pure ()

/-- `_inject_fault`, and the error of an injection without success -/
def injectFault (case : ScenarioCase) (script : InjectionScript) : ExecutorProgram Unit := do
  Program.ofExcept script.check
  modify fun world : ExecutorWorld => { world with frrBefore := none }
  captureConfiguration case script
  modify fun world : ExecutorWorld =>
    { world.record .injected with activeFaults := script.tracked }
  let injected ← Program.ofExcept script.answer
  if injected then pure () else throw (.other "Fault injection failed")

/-- `_offer_healthy_window` -/
def ExecutorWorld.offer (observation : Observation) (world : ExecutorWorld) : ExecutorWorld :=
  match offeredWindow observation with
  | none => world
  | some window => { world with healthyCandidate := some window }

/-- The fault of the episode, if it has one. -/
def activateFault (case : ScenarioCase) (script : InjectionScript) : ExecutorProgram Unit :=
  if case.isHealthy then pure () else injectFault case script

/-- `observe_episode` -/
def observeEpisode (case : ScenarioCase) (script : EpisodeScript) :
    ExecutorProgram Observation := do
  activateFault case script.injection
  perform script.window
  let observation ← observing script.observation
  modify fun world : ExecutorWorld => if case.isHealthy then world.offer observation else world
  pure observation

/-! ## The preparation -/

structure PrepareScript : Type where
  /-- The check of the experiment of a campaign. -/
  experiment : Step Unit := { answer := .ok () }
  traffic : Step Unit := { answer := .ok () }
  /-- `_baseline_scope` -/
  scope : Option RuntimeScope := none
  /-- `baseline_window_seconds` -/
  minimumSeconds : Step Int
  monotonic : Rat := 0
  now : Int := 0
  history : Step Unit := { answer := .ok () }
  /-- `_capture_baseline_window` -/
  capture : Step Unit := { answer := .ok () }
  reference : Step Observation
  epoch : Rat := 0
  candidates : Step Unit := { answer := .ok () }
  routes : Step Unit := { answer := .ok () }
  episode : EpisodeScript
  /-- The errors of the effect and of the observation in its scope. -/
  effect : Step (List String) := { answer := .ok [] }
  /-- The toolkit and the public observation. -/
  toolkit : Step Unit := { answer := .ok () }

/-- The record of a window that is taken. -/
def ExecutorWorld.recordReuse (window : Option BaselineWindow) (scope : Option RuntimeScope)
    (world : ExecutorWorld) : ExecutorWorld :=
  match window with
  | none => world
  | some window =>
      match scope with
      | none => world
      | some scope => world.record (.reused window scope)

def ExecutorWorld.takeBaseline (scope : Option RuntimeScope) (minimumSeconds : Int)
    (monotonic : Rat) (now : Int) (world : ExecutorWorld) : ExecutorWorld :=
  let taken := world.handoff.take scope minimumSeconds monotonic now
  { world.recordReuse taken.1 scope with handoff := taken.2.2, baselineWindow := taken.1 }

def takePhase (script : PrepareScript) : ExecutorProgram Unit := do
  modify fun world : ExecutorWorld => { world with scope := script.scope }
  let minimumSeconds ← perform script.minimumSeconds
  modify fun world : ExecutorWorld =>
    world.takeBaseline script.scope minimumSeconds script.monotonic script.now

def performIf (condition : Bool) (step : Step Unit) : ExecutorProgram Unit :=
  if condition then perform step else pure ()

def ExecutorWorld.freshBaseline (window : BaselineWindow) (epoch : Rat) (world : ExecutorWorld) :
    ExecutorWorld :=
  { world with baselineWindow := some window, handoff := world.handoff.freshEpoch epoch }

def freshPhase (script : PrepareScript) : ExecutorProgram Unit := do
  let world ← get
  performIf world.hasWorker script.history
  perform script.capture
  let validation ← observing script.reference
  if (baselineGateErrors validation).isEmpty then
    modify fun world : ExecutorWorld => world.freshBaseline validation.window script.epoch
  else throw (.other "Healthy baseline is unavailable")

/-- The baseline of the case, which is a window that was handed on or a fresh one. -/
def baselinePhase (script : PrepareScript) : ExecutorProgram Unit := do
  takePhase script
  let world ← get
  if world.baselineWindow.isSome then pure () else freshPhase script

/-- Whether the observation of the episode is complete. -/
def effectComplete (case : ScenarioCase) (script : PrepareScript) (observation : Observation) :
    ExecutorProgram Bool :=
  if case.catalogV2 then do
    let errors ← perform script.effect
    pure errors.isEmpty
  else pure (observationIntegrityErrors observation).isEmpty

def effectPhase (case : ScenarioCase) (script : PrepareScript) (observation : Observation) :
    ExecutorProgram Unit := do
  let complete ← effectComplete case script observation
  if complete then pure () else throw (.other "Incident observation is incomplete")

/-- `ExecutorIncidentBackend.prepare` -/
def ExecutorIncidentBackend.prepare (case : ScenarioCase) (script : PrepareScript) : ExecutorProgram Unit := do
  perform script.experiment
  perform script.traffic
  baselinePhase script
  modify fun world : ExecutorWorld => { world with caseInitialScope := world.scope }
  performIf (case.catalogV2 && !case.isHealthy) script.candidates
  performIf case.catalogV2 script.routes
  let observation ← observeEpisode case script.episode
  effectPhase case script observation
  perform script.toolkit

/-! ## The end of a case -/

structure FinishScript : Type where
  cleanup : CleanupAttempts
  /-- `_baseline_scope` -/
  scope : Option RuntimeScope := none
  /-- `baseline_window_seconds` -/
  minimumSeconds : Step Int
  now : Int := 0

/-- The window that a case may hand on. -/
def ExecutorWorld.candidate (case : ScenarioCase) (result : CleanupResult)
    (world : ExecutorWorld) : Option BaselineWindow :=
  match result.validatedBaseline with
  | some window => some window
  | none => if case.isHealthy then world.healthyCandidate else none

/-- The window that a case hands on, unless the publication refuses it. -/
def ExecutorWorld.publishable (case : ScenarioCase) (broken : Bool) (scope : Option RuntimeScope)
    (result : CleanupResult) (world : ExecutorWorld) : Option BaselineWindow :=
  if !broken && result.success && world.scope.isSome &&
      sameScope scope (result.validatedBaselineScope.or world.scope) then
    world.candidate case result
  else none

def ExecutorWorld.recordPublication (published : Bool) (window : BaselineWindow)
    (scope : Option RuntimeScope) (world : ExecutorWorld) : ExecutorWorld :=
  match scope with
  | none => world
  | some scope => if published then world.record (.published window scope) else world

def ExecutorWorld.publish (case : ScenarioCase) (window : BaselineWindow)
    (scope : Option RuntimeScope) (minimumSeconds now : Int) (world : ExecutorWorld) :
    ExecutorWorld :=
  let answer := world.handoff.publish window scope case.id minimumSeconds now
  { world.recordPublication answer.1 window scope with handoff := answer.2 }

def handOn (case : ScenarioCase) (broken : Bool) (script : FinishScript)
    (result : CleanupResult) : ExecutorProgram Unit := do
  let world ← get
  match world.publishable case broken script.scope result with
  | none => modify fun world : ExecutorWorld => { world with handoff := world.handoff.clear }
  | some window => do
      let minimumSeconds ← perform script.minimumSeconds
      modify fun world : ExecutorWorld =>
        world.publish case window script.scope minimumSeconds script.now

/-- `ExecutorIncidentBackend.finish` -/
def ExecutorIncidentBackend.finish (case : ScenarioCase) (broken : Bool) (script : FinishScript) :
    ExecutorProgram Unit := do
  let world ← get
  let result ← cleanupAfterScenario case none world.baselineWindow script.cleanup
  handOn case broken script result
  if result.success then pure () else throw (.other "Scenario cleanup failed")

/-! ## Runs -/

structure ScenarioScript : Type where
  case : ScenarioCase
  prepare : PrepareScript
  /-- The incident is broken when it is closed. -/
  broken : Bool := false
  finish : FinishScript

namespace ExecutorWorld

/-- An executor before its first scenario. -/
def start (hasWorker : Bool) (tracked : List String) : ExecutorWorld :=
  { hasWorker, activeFaults := tracked }

/-- A new backend and what a scenario resets. -/
def startCase (world : ExecutorWorld) : ExecutorWorld :=
  { world with healthyCandidate := none, frrBefore := none, baselineWindow := none, scope := none }

/-- `run_scenario`; an incident whose preparation has failed is broken -/
def runScenario (world : ExecutorWorld) (script : ScenarioScript) : ExecutorWorld :=
  match outcome (ExecutorIncidentBackend.prepare script.case script.prepare) world.startCase with
  | (.ok _, prepared) => (outcome (ExecutorIncidentBackend.finish script.case script.broken script.finish) prepared).2
  | (.error _, failed) => (outcome (ExecutorIncidentBackend.finish script.case true script.finish) failed).2

def runScenarios (world : ExecutorWorld) (scripts : List ScenarioScript) : ExecutorWorld :=
  scripts.foldl runScenario world

end ExecutorWorld

end NetOpsBench
