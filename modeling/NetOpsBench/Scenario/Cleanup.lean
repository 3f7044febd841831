import NetOpsBench.Lib.Program
import NetOpsBench.Scenario.Baseline

/-!
# Cleanup after a scenario

`ScenarioExecutor._cleanup_after_scenario` of `netopsbench/platform/scenario/executor.py`. What
its calls answer, and whether a reading of the clock is past the deadline, is a script; there is
one entry for every turn of the loop that the clock allows. `ExecutorWorld.history` is the record
of what has happened to the network, and no operation reads it.
-/

namespace NetOpsBench

open Program

/-! ## The executor -/

/-- An exception, by whether it is a `TimeoutError`. -/
inductive StepError : Type where
  | timeout (message : String)
  | other (message : String)
  deriving DecidableEq, Repr

inductive ExecutorEvent : Type where
  | injected
  | recovered
  /-- A window has been observed: whether it has passed the gate, and the tracked faults. -/
  | observed (window : BaselineWindow) (passed : Bool) (tracked : List String)
  | published (window : BaselineWindow) (scope : RuntimeScope)
  | reused (window : BaselineWindow) (scope : RuntimeScope)

/-- The executor, and what the backend of the current case keeps. -/
structure ExecutorWorld : Type where
  hasWorker : Bool := true
  activeFaults : List String := []
  handoff : BaselineHandoff := {}
  healthyCandidate : Option BaselineWindow := none
  caseInitialScope : Option RuntimeScope := none
  frrBefore : Option FrrSnapshot := none
  /-- `baseline_window` of the backend -/
  baselineWindow : Option BaselineWindow := none
  /-- `_scope` of the backend -/
  scope : Option RuntimeScope := none
  history : List ExecutorEvent := []

abbrev ExecutorProgram : Type → Type := Program ExecutorWorld StepError

/-- What a call answers, and whether it has found changed topology artifacts. -/
structure Step (α : Type) : Type where
  reload : Bool := false
  answer : Except StepError α

/-- What an episode and its cleanup read of a scenario. -/
structure ScenarioCase : Type where
  id : String
  faultType : String
  targetDevice : String
  /-- The faults of the scenario are those of version 2 of the catalog. -/
  catalogV2 : Bool
  deriving DecidableEq, Repr

def ScenarioCase.isHealthy (case : ScenarioCase) : Bool := case.faultType = "none"

namespace ExecutorWorld

def record (event : ExecutorEvent) (world : ExecutorWorld) : ExecutorWorld :=
  { world with history := world.history ++ [event] }

/-- `current_manifest`, when it has reloaded the topology -/
def reload (world : ExecutorWorld) : ExecutorWorld := { world with handoff := world.handoff.clear }

/-- The record of an observation. -/
def observe (observation : Observation) (world : ExecutorWorld) : ExecutorWorld :=
  world.record (.observed { observation.window with number := world.history.length }
    (baselineGateErrors observation).isEmpty world.activeFaults)

end ExecutorWorld

def reloading (changed : Bool) : ExecutorProgram Unit :=
  modify fun world : ExecutorWorld => if changed then world.reload else world

def perform {α : Type} (step : Step α) : ExecutorProgram α := do
  reloading step.reload
  Program.ofExcept step.answer

/-- An observation, with its place in the history as its number. -/
def observing (step : Step Observation) : ExecutorProgram Observation := do
  let observation ← perform step
  let world ← get
  modify fun world : ExecutorWorld => world.observe observation
  pure { observation with window := { observation.window with number := world.history.length } }

/-! ## Recovery results -/

/-- An entry of the results of `recover_all`. -/
inductive RecoveryItem : Type where
  | dict (recovered retryable : Option Bool)
  | other
  deriving DecidableEq, Repr

inductive RecoveryResults : Type where
  | list (items : List RecoveryItem)
  | other
  deriving DecidableEq, Repr

def RecoveryItem.recovered : RecoveryItem → Bool
  | dict recovered _ => recovered = some true
  | other => false

def RecoveryItem.terminal : RecoveryItem → Bool
  | dict recovered retryable => recovered ≠ some true && retryable = some false
  | other => false

/-- `_recovery_results_succeeded` -/
def RecoveryResults.succeeded : RecoveryResults → Bool
  | list items => items.all (·.recovered)
  | other => false

/-- `_recovery_has_terminal_failure` -/
def RecoveryResults.terminalFailure : RecoveryResults → Bool
  | list items => items.any (·.terminal)
  | other => false

/-! ## The loop -/

inductive CleanupError : Type where
  | faultRecovery (remaining : Nat) (results : RecoveryResults)
  | recoveryRaised (error : StepError)
  | trafficNotReady
  | health (error : String)
  | observationTimeout (message : String)
  | baseline (error : GateError)
  | deadlineExceeded
  | route (error : String)
  deriving DecidableEq, Repr

inductive CleanupState : Type where
  | clean
  | recoveredAfterRetry
  | configurationRecoveryFailed
  | recoveryIdentityChanged
  | recoveryTimeout
  | postRecoveryBaselineFailed
  | routeRecoveryFailed
  | terminalRecoveryFailure
  | postRecoveryConvergenceTimeout
  deriving DecidableEq, Repr

structure CleanupResult : Type where
  success : Bool
  status : CleanupState
  attempts : Option Nat := none
  errors : List CleanupError := []
  recovery : Option RecoveryResults := none
  validatedBaseline : Option BaselineWindow := none
  validatedBaselineScope : Option RuntimeScope := none
  scopeChanges : List String := []
  remainingFaults : Option Nat := none

/-- What one turn of the loop meets. -/
structure AttemptScript : Type where
  recovery : Except StepError RecoveryResults
  /-- The faults that are tracked after the recovery. -/
  tracked : List String := []
  /-- The traffic is fully active, or there is none. -/
  traffic : Step Bool := { answer := .ok true }
  health : Step (List String) := { answer := .ok [] }
  convergenceExpired : Bool := false
  frrAfter : Step FrrSnapshot
  windowScope : Option RuntimeScope := none
  observation : Step Observation
  observationExpired : Bool := false
  verifiedScope : Option RuntimeScope := none
  finalExpired : Bool := false
  routeErrors : Step (List String) := { answer := .ok [] }
  retryExpired : Bool := false

structure CleanupAttempts : Type where
  first : AttemptScript
  later : List AttemptScript := []

structure CleanupFlags : Type where
  attempts : Nat := 0
  errors : List CleanupError := []
  recoveryAttempted : Bool := false
  convergencePending : Bool := false
  terminalRecoveryFailure : Bool := false
  recoveryResults : Option RecoveryResults := none

/-- What a phase of the cleanup comes to: the result that ends the cleanup, or a value. -/
abbrev CleanupPhase (α : Type) : Type := Except CleanupResult α

def ExecutorProgram.andThen {α β : Type} (phase : ExecutorProgram (CleanupPhase α))
    (next : α → ExecutorProgram (CleanupPhase β)) : ExecutorProgram (CleanupPhase β) := do
  match ← phase with
  | .error result => pure (.error result)
  | .ok a => next a

def finished {α : Type} (result : CleanupResult) : ExecutorProgram (CleanupPhase α) :=
  pure (.error result)

def goOn {α : Type} (a : α) : ExecutorProgram (CleanupPhase α) := pure (.ok a)

/-- The errors, without repetitions. -/
def CleanupFlags.distinctErrors (flags : CleanupFlags) : List CleanupError :=
  flags.errors.reverse.dedup.reverse

def recoverFault (script : AttemptScript) (flags : CleanupFlags) :
    ExecutorProgram (Bool × CleanupFlags) := do
  modify fun world : ExecutorWorld =>
    { world.record .recovered with activeFaults := script.tracked }
  match script.recovery with
  | .error error =>
      pure (false,
        { flags with
          recoveryAttempted := true
          errors := flags.errors ++ [.recoveryRaised error] })
  | .ok results =>
      if results.succeeded && script.tracked.isEmpty then
        pure (true, { flags with recoveryAttempted := true, recoveryResults := some results })
      else
        pure (false,
          { flags with
            recoveryAttempted := true
            recoveryResults := some results
            errors := flags.errors ++ [.faultRecovery script.tracked.length results]
            terminalRecoveryFailure := results.terminalFailure })

/-- Whether the recovery is complete, after one more attempt where it is not. -/
def recoverPhase (script : AttemptScript) (flags : CleanupFlags) :
    ExecutorProgram (Bool × CleanupFlags) := do
  let world ← get
  if world.activeFaults.isEmpty && flags.recoveryResults.all (·.succeeded) then pure (true, flags)
  else recoverFault script flags

/-- The errors of traffic and health. -/
def convergePhase (script : AttemptScript) : ExecutorProgram (List CleanupError) := do
  let ready ← perform script.traffic
  let world ← get
  let health ← perform (if world.hasWorker then script.health else { answer := .ok [] })
  pure ((if ready then [] else [.trafficNotReady]) ++ health.map .health)

/-- Whether the configuration of the device has been proved restored. -/
def provePhase (script : AttemptScript) : ExecutorProgram (CleanupPhase Bool) := do
  let world ← get
  match world.frrBefore with
  | none => goOn false
  | some before => do
      let after ← perform script.frrAfter
      if before.restoredTo after then goOn true
      else finished { success := false, status := .configurationRecoveryFailed }

/-- The changes of the scope since the case began, but for what the recovery restores. -/
def ExecutorWorld.unrestored (case : ScenarioCase) (windowScope : Option RuntimeScope)
    (restored : Bool) (world : ExecutorWorld) : List String :=
  if world.hasWorker && world.caseInitialScope.isSome then
    restoredScopeErrors world.caseInitialScope windowScope case.targetDevice case.faultType restored
  else []

/-- `window_scope` -/
def ExecutorWorld.windowScope (script : AttemptScript) (world : ExecutorWorld) :
    Option RuntimeScope :=
  if world.hasWorker then script.windowScope else none

/-- The scope of the window. -/
def scopePhase (case : ScenarioCase) (script : AttemptScript) (restored : Bool) :
    ExecutorProgram (CleanupPhase (Option RuntimeScope)) := do
  let world ← get
  if (world.unrestored case (world.windowScope script) restored).isEmpty then
    goOn (world.windowScope script)
  else
    finished
      { success := false
        status := .recoveryIdentityChanged
        scopeChanges := world.unrestored case (world.windowScope script) restored }

def observePhase (script : AttemptScript) : ExecutorProgram (CleanupPhase Observation) := do
  let observation ← observing script.observation
  if script.observationExpired then
    throw (.timeout "Recovery deadline exceeded during observation validation")
  else goOn observation

def verifyPhase (script : AttemptScript) (windowScope : Option RuntimeScope) :
    ExecutorProgram (CleanupPhase (Option RuntimeScope)) := do
  let world ← get
  if world.hasWorker && windowScope.isSome then
    if script.verifiedScope.isNone || !(scopeChanges windowScope script.verifiedScope).isEmpty then
      finished
        { success := false
          status := .recoveryIdentityChanged
          scopeChanges := scopeChanges windowScope script.verifiedScope }
    else goOn script.verifiedScope
  else goOn none

/-- The body of the `try` of the validation. -/
def revalidate (case : ScenarioCase) (script : AttemptScript) :
    ExecutorProgram (CleanupPhase (Observation × Option RuntimeScope)) :=
  (provePhase script).andThen fun restored =>
    (scopePhase case script restored).andThen fun windowScope =>
      (observePhase script).andThen fun observation =>
        (verifyPhase script windowScope).andThen fun verified => goOn (observation, verified)

def CleanupFlags.failed (flags : CleanupFlags) (status : CleanupState) : CleanupResult :=
  { success := false
    status
    attempts := some flags.attempts
    errors := flags.distinctErrors }

/-- `except TimeoutError` of the validation -/
def catchTimeout {α : Type} (flags : CleanupFlags) :
    StepError → ExecutorProgram (CleanupPhase α)
  | .timeout message =>
      finished (CleanupFlags.failed
        { flags with errors := flags.errors ++ [.observationTimeout message] } .recoveryTimeout)
  | .other message => throw (.other message)

/-- The gate of the observation that a validation has made. -/
def gatePhase (flags : CleanupFlags) (validated : Observation × Option RuntimeScope) :
    ExecutorProgram (CleanupPhase (Option (BaselineWindow × Option RuntimeScope))) :=
  if (baselineGateErrors validated.1).isEmpty then goOn (some (validated.1.window, validated.2))
  else
    finished (CleanupFlags.failed
      { flags with errors := flags.errors ++ (baselineGateErrors validated.1).map .baseline }
      .postRecoveryBaselineFailed)

/-- The window that is validated after a recovery. -/
def validatePhase (case : ScenarioCase) (script : AttemptScript) (flags : CleanupFlags)
    (baselineWindow : Option BaselineWindow) :
    ExecutorProgram (CleanupPhase (Option (BaselineWindow × Option RuntimeScope))) :=
  if flags.recoveryAttempted && baselineWindow.isSome then
    ExecutorProgram.andThen (tryCatch (revalidate case script) (catchTimeout flags)) (gatePhase flags)
  else goOn none

/-- How a turn of the loop ends that does not end the cleanup. -/
inductive CleanupTurn : Type where
  | again (flags : CleanupFlags)
  | stop (flags : CleanupFlags)

def conclude (script : AttemptScript) (flags : CleanupFlags)
    (validated : Option (BaselineWindow × Option RuntimeScope)) :
    ExecutorProgram (CleanupPhase CleanupTurn) :=
  if script.finalExpired then
    goOn (.stop { flags with errors := flags.errors ++ [.deadlineExceeded] })
  else do
    let world ← get
    let routeErrors ← perform (if world.hasWorker then script.routeErrors else { answer := .ok [] })
    if routeErrors.isEmpty then
      finished
        { success := true
          status := if flags.attempts = 1 then .clean else .recoveredAfterRetry
          attempts := some flags.attempts
          errors := flags.distinctErrors
          recovery := flags.recoveryResults
          validatedBaseline := validated.map Prod.fst
          validatedBaselineScope := validated.bind Prod.snd }
    else
      finished
        { success := false, status := .routeRecoveryFailed, errors := routeErrors.map .route }

/-- A turn of the loop whose recovery is complete. -/
def convergeTurn (case : ScenarioCase) (script : AttemptScript) (flags : CleanupFlags)
    (baselineWindow : Option BaselineWindow) : ExecutorProgram (CleanupPhase CleanupTurn) := do
  let errors ← convergePhase script
  if errors.isEmpty then
    (validatePhase case script flags baselineWindow).andThen fun validated =>
      conclude script flags validated
  else
    let flags := { flags with convergencePending := true, errors := flags.errors ++ errors }
    goOn (if script.convergenceExpired then .stop flags else .again flags)

/-- A turn of the loop. -/
def cleanupTurn (case : ScenarioCase) (script : AttemptScript) (flags : CleanupFlags)
    (baselineWindow : Option BaselineWindow) : ExecutorProgram (CleanupPhase CleanupTurn) := do
  let recovered ← recoverPhase script { flags with attempts := flags.attempts + 1 }
  if recovered.1 then convergeTurn case script recovered.2 baselineWindow
  else
    goOn
      (if recovered.2.terminalRecoveryFailure || script.retryExpired then .stop recovered.2
      else .again recovered.2)

/-- The result after the loop. -/
def cleanupFailure (flags : CleanupFlags) : ExecutorProgram CleanupResult := do
  let world ← get
  pure
    { success := false
      status :=
        if flags.terminalRecoveryFailure then .terminalRecoveryFailure
        else if flags.convergencePending then .postRecoveryConvergenceTimeout
        else .recoveryTimeout
      attempts := some flags.attempts
      errors := flags.distinctErrors
      remainingFaults := some world.activeFaults.length }

def cleanupLoop (case : ScenarioCase) (baselineWindow : Option BaselineWindow)
    (flags : CleanupFlags) : List AttemptScript → ExecutorProgram CleanupResult
  | [] => cleanupFailure flags
  | script :: later => do
      match ← cleanupTurn case script flags baselineWindow with
      | .error result => pure result
      | .ok (.stop flags) => cleanupFailure flags
      | .ok (.again flags) => cleanupLoop case baselineWindow flags later

/-- `_cleanup_after_scenario`; `prior` is the recovery that the episode already has -/
def cleanupAfterScenario (case : ScenarioCase) (prior : Option RecoveryResults)
    (baselineWindow : Option BaselineWindow) (script : CleanupAttempts) :
    ExecutorProgram CleanupResult :=
  cleanupLoop case baselineWindow { recoveryResults := prior } (script.first :: script.later)

end NetOpsBench
