import NetOpsBench.Lib.Counting
import NetOpsBench.Lib.Dict
import NetOpsBench.Lib.Fallible
import NetOpsBench.Lib.Json
import NetOpsBench.Lib.Program
import NetOpsBench.Lib.Sorting
import NetOpsBench.Models.Runtime

/-!
# Dispatch of scenarios to workers

`netopsbench/platform/session/dispatch.py`. What a worker meets while it runs its scenarios is a
script; the workers of a pool end in any order. The state of the programs is the list of calls of
`mark_quarantined`.
-/

namespace NetOpsBench

open Fallible Program Sorting

/-! ## Scenarios and their results -/

/-- What dispatch reads of a scenario. -/
structure ScenarioSpec : Type where
  id : String
  scale : String
  deriving DecidableEq, Repr

structure ExecutionControl : Type where
  /-- Whether there is a hook `on_case`. -/
  onCase : Bool := false
  stopOnFailure : Bool := false
  /-- Whether there is a `cancel_event`. -/
  cancelEvent : Bool := false
  effectsOnly : Bool := false

/-- What dispatch reads of the result of a scenario. -/
structure ScenarioResult : Type where
  caseValid : Option Bool := none
  success : Option Bool := none
  /-- `cleanup`, and what it has under `success`. -/
  cleanup : Option (Option Bool) := none
  phaseTimings : Option Json := none

namespace ScenarioResult

/-- `case_valid`, which is `success` where a result has none -/
def valid (result : ScenarioResult) : Bool := (result.caseValid.or result.success).getD false

def cleanupSuccess (result : ScenarioResult) : Bool := (result.cleanup.bind id).getD true

def succeeded (result : ScenarioResult) : Bool :=
  result.valid && result.success.getD false && result.cleanupSuccess

end ScenarioResult

inductive CaseStatus : Type where
  | completed
  | invalid
  | failed
  | skippedInfrastructureFailure
  | skippedExecutionFailure
  deriving DecidableEq, Repr

inductive FailureStage : Type where
  | infrastructure
  | cleanup
  | execution
  | priorCaseCleanup
  | priorCaseExecution
  deriving DecidableEq, Repr

structure ScenarioSummary : Type where
  scenarioId : String
  status : CaseStatus
  caseValid : Option Bool := none
  scale : String
  worker : String
  rawResultPath : Option String := none
  cleanupFailed : Option Bool := none
  phaseTimings : Option Json := none
  failureStage : Option FailureStage := none

structure WorkerSummary : Type where
  workerId : String
  workerName : String
  labName : String
  scenarioCount : Nat
  executedCount : Nat
  skippedCount : Nat
  success : Bool
  deriving DecidableEq, Repr

inductive DispatchError : Type where
  | noWorkers
  | notEligible (id state : String) (quarantined : Bool)
  | scaleMismatch (scale : String) (scenarios : List String)
  | keyError
  /-- What one of the called functions raises. -/
  | raised (error : String)
  deriving DecidableEq, Repr

/-! ## One worker -/

section Worker

variable {Evaluation : Type}

/-- What a worker meets at one scenario. -/
structure CaseScript (Evaluation : Type) : Type where
  /-- `cancel_event.is_set()` -/
  cancelled : Bool := false
  callback : Except DispatchError Unit := .ok ()
  run : Except DispatchError ScenarioResult
  persist : Except DispatchError String
  score : Except DispatchError (List Evaluation) := .ok []
  quarantine : Except DispatchError Unit := .ok ()
  onCase : Except DispatchError Unit := .ok ()

/-- What a worker meets. -/
structure WorkerScript (Evaluation : Type) : Type where
  context : Except DispatchError Unit := .ok ()
  topology : ScenarioSpec → Except DispatchError Unit := fun _ => .ok ()
  executor : Except DispatchError Unit := .ok ()
  cases : Nat → CaseScript Evaluation
  close : Except DispatchError Unit := .ok ()

structure WorkerProgress (Evaluation : Type) : Type where
  evaluations : List Evaluation := []
  summaries : List ScenarioSummary := []
  success : Bool := true
  executed : Nat := 0

/-- The calls of `mark_quarantined`, by the workers that they name. -/
abbrev DispatchProgram : Type → Type := Program (List (List String)) DispatchError

namespace ExecutionControl

def effects (control : Option ExecutionControl) : Bool := control.any (·.effectsOnly)

def cancels (control : Option ExecutionControl) (script : CaseScript Evaluation) : Bool :=
  control.any (·.cancelEvent) && script.cancelled

/-- A worker runs no scenario after one with this result. -/
def stops (control : Option ExecutionControl) (result : ScenarioResult) : Bool :=
  !result.cleanupSuccess || (control.any (·.stopOnFailure) && !result.succeeded)

end ExecutionControl

open ExecutionControl

def caseSummary (worker : RuntimeIdentity) (scenario : ScenarioSpec) (path : String)
    (result : ScenarioResult) : ScenarioSummary :=
  { scenarioId := scenario.id
    status :=
      if !result.valid then .invalid else if result.succeeded then .completed else .failed
    caseValid := some result.valid
    scale := scenario.scale
    worker := worker.workerId
    rawResultPath := some path
    cleanupFailed := some !result.cleanupSuccess
    phaseTimings := result.phaseTimings
    failureStage :=
      if !result.valid then some .infrastructure
      else if result.succeeded then none
      else if !result.cleanupSuccess then some .cleanup
      else some .execution }

def skippedSummary (worker : RuntimeIdentity) (result : ScenarioResult) (skipped : ScenarioSpec) :
    ScenarioSummary :=
  { scenarioId := skipped.id
    status :=
      if !result.cleanupSuccess then .skippedInfrastructureFailure else .skippedExecutionFailure
    scale := skipped.scale
    worker := worker.workerId
    failureStage :=
      some (if !result.cleanupSuccess then .priorCaseCleanup else .priorCaseExecution) }

def scoreCase (control : Option ExecutionControl) (script : CaseScript Evaluation)
    (result : ScenarioResult) : Except DispatchError (List Evaluation) :=
  if result.valid && !effects control then script.score else .ok []

/-- `build_runtime_diagnosis_callback`, where there is to be a diagnosis -/
def buildCallback (control : Option ExecutionControl) (script : CaseScript Evaluation) :
    Except DispatchError Unit :=
  if effects control then .ok () else script.callback

/-- A scenario, up to its summary. -/
def runCase (control : Option ExecutionControl) (script : CaseScript Evaluation) :
    Except DispatchError (ScenarioResult × String × List Evaluation) := do
  buildCallback control script
  let result ← script.run
  let path ← script.persist
  let scored ← scoreCase control script result
  pure (result, path, scored)

/-- What follows the summary of a scenario. -/
def reportCase (control : Option ExecutionControl) (worker : RuntimeIdentity)
    (script : CaseScript Evaluation) (result : ScenarioResult) : DispatchProgram Unit := do
  if !result.cleanupSuccess then do
    modify fun marks : List (List String) => marks ++ [[worker.workerId]]
    Program.ofExcept script.quarantine
  if control.any (·.onCase) then Program.ofExcept script.onCase

def WorkerProgress.add (progress : WorkerProgress Evaluation) (worker : RuntimeIdentity)
    (scenario : ScenarioSpec) (ran : ScenarioResult × String × List Evaluation) :
    WorkerProgress Evaluation :=
  { evaluations := progress.evaluations ++ ran.2.2
    summaries := progress.summaries ++ [caseSummary worker scenario ran.2.1 ran.1]
    success := progress.success && ran.1.succeeded
    executed := progress.executed + 1 }

/-- The scenarios of a worker from one of them on. -/
def runCases (control : Option ExecutionControl) (worker : RuntimeIdentity)
    (script : Nat → CaseScript Evaluation) (index : Nat) (progress : WorkerProgress Evaluation) :
    List ScenarioSpec → DispatchProgram (WorkerProgress Evaluation)
  | [] => pure progress
  | scenario :: later =>
      if cancels control (script index) then pure { progress with success := false }
      else do
        let ran ← Program.ofExcept (runCase control (script index))
        let progress := progress.add worker scenario ran
        reportCase control worker (script index) ran.1
        if stops control ran.1 then
          pure
            { progress with
              summaries := progress.summaries ++ later.map (skippedSummary worker ran.1) }
        else runCases control worker script (index + 1) progress later

/-- `runner.close()`, however the loop ends -/
def closing {α : Type} (loop : DispatchProgram α) (close : Except DispatchError Unit) :
    DispatchProgram α := do
  let ended ← tryCatch loop fun error => do
    Program.ofExcept close
    throw error
  Program.ofExcept close
  pure ended

structure WorkerRunResult (Evaluation : Type) : Type where
  evaluations : List Evaluation
  summaries : List ScenarioSummary
  worker : WorkerSummary

/-- `_run_worker` -/
def runWorker (control : Option ExecutionControl) (script : WorkerScript Evaluation)
    (worker : RuntimeIdentity) (scenarios : List ScenarioSpec) :
    DispatchProgram (WorkerRunResult Evaluation) := do
  Program.ofExcept script.context
  Program.ofExcept (scenarios.forM script.topology)
  Program.ofExcept script.executor
  let ended ← closing (runCases control worker script.cases 0 {} scenarios) script.close
  pure
    { evaluations := ended.evaluations
      summaries := ended.summaries
      worker :=
        { workerId := worker.workerId
          workerName := worker.workerId
          labName := worker.labName
          scenarioCount := scenarios.length
          executedCount := ended.executed
          skippedCount := scenarios.length - ended.executed
          success := ended.success } }

/-! ## The pool -/

/-- `sorted(workers, key=lambda item: item.worker_index)` -/
def orderedWorkers (workers : List RuntimeIdentity) : List RuntimeIdentity :=
  sorted (fun first second => decide (first.workerIndex ≤ second.workerIndex)) workers

/-- The worker of the scenario at a place. -/
def workerAt (workers : List RuntimeIdentity) (index : Nat) : Option RuntimeIdentity :=
  workers[index % workers.length]?

/-- The scenarios from a place on, appended to those of their workers. -/
def assignFrom (workers : List RuntimeIdentity) (index : Nat)
    (assignments : Dict String (List ScenarioSpec)) :
    List ScenarioSpec → Dict String (List ScenarioSpec)
  | [] => assignments
  | scenario :: later =>
      assignFrom workers (index + 1)
        (match workerAt workers index with
        | none => assignments
        | some worker =>
            assignments.set worker.workerId
              ((assignments.get worker.workerId).getD [] ++ [scenario]))
        later

/-- `assign_scenarios_to_workers` -/
def assignScenariosToWorkers (scenarios : List ScenarioSpec) (workers : List RuntimeIdentity) :
    Except DispatchError (Dict String (List ScenarioSpec)) := do
  reject (workers = []) .noWorkers
  pure (assignFrom workers 0 (.ofEntries (workers.map fun worker => (worker.workerId, []))) scenarios)

structure PoolDispatchResult (Evaluation : Type) : Type where
  evaluations : List Evaluation
  scenarios : List ScenarioSummary
  workers : List WorkerSummary

/-- The order in which the futures of the workers are done. -/
def Completion (workers : List RuntimeIdentity) : Type :=
  { order : List RuntimeIdentity // order.Perm workers }

/-- How the run of every worker has ended, in the order in which they have. -/
abbrev Runs (Evaluation : Type) : Type :=
  List (RuntimeIdentity × Except DispatchError (WorkerRunResult Evaluation) × List (List String))

/-- The runs of all workers, each on a thread of its own. -/
def runAll (run : RuntimeIdentity → List ScenarioSpec → DispatchProgram (WorkerRunResult Evaluation))
    (assignments : Dict String (List ScenarioSpec)) (order : List RuntimeIdentity) :
    Runs Evaluation :=
  order.map fun worker =>
    (worker, outcome (run worker ((assignments.get worker.workerId).getD [])) [])

/-- `results[worker.worker_index] = future.result()`, in the order in which the runs end -/
def collect (runs : Runs Evaluation) : Except DispatchError (Dict Nat (WorkerRunResult Evaluation)) :=
  runs.foldlM (fun results run => do
    let result ← run.2.1
    pure (results.set run.1.workerIndex result)) .empty

/-- The result of a worker. -/
def resultOf (results : Dict Nat (WorkerRunResult Evaluation)) (worker : RuntimeIdentity) :
    Except DispatchError (WorkerRunResult Evaluation) :=
  match results.get worker.workerIndex with
  | none => .error .keyError
  | some result => .ok result

def merge (results : List (WorkerRunResult Evaluation)) : PoolDispatchResult Evaluation :=
  { evaluations := results.flatMap (·.evaluations)
    scenarios := results.flatMap (·.summaries)
    workers := results.map (·.worker) }

/-- `_dispatch_workers`: the result, and the calls of `mark_quarantined` -/
def dispatchWorkers (workers : List RuntimeIdentity) (scenarios : List ScenarioSpec)
    (run : RuntimeIdentity → List ScenarioSpec → DispatchProgram (WorkerRunResult Evaluation))
    (completion : Completion (orderedWorkers workers)) :
    Except DispatchError (PoolDispatchResult Evaluation) × List (List String) :=
  match assignScenariosToWorkers scenarios (orderedWorkers workers) with
  | .error error => (.error error, [])
  | .ok assignments =>
      let runs := runAll run assignments completion.val
      (do
        let results ← collect runs
        let ordered ← (orderedWorkers workers).mapM (resultOf results)
        pure (merge ordered),
      runs.flatMap (·.2.2))

/-- What dispatch reads of a runtime. -/
structure ExecutionRuntime : Type where
  id : String
  state : String
  quarantined : Bool
  scale : String
  workers : List RuntimeIdentity

/-- The workers of the failed cleanups, sorted. -/
def cleanupFailures (summaries : List ScenarioSummary) : List String :=
  sorted (fun first second => decide (first ≤ second))
    (((summaries.filter fun summary =>
      summary.cleanupFailed = some true ∧ summary.worker ≠ "").map (·.worker)).dedup)

/-- `execute_on_runtime_pool`, with the answer of its own `mark_quarantined` -/
def executeOnRuntimePool (runtime : ExecutionRuntime) (scenarios : List ScenarioSpec)
    (control : Option ExecutionControl) (scripts : RuntimeIdentity → WorkerScript Evaluation)
    (completion : Completion (orderedWorkers runtime.workers))
    (quarantine : Except DispatchError Unit) :
    Except DispatchError (PoolDispatchResult Evaluation) × List (List String) :=
  let mismatched := (scenarios.filter fun scenario => scenario.scale ≠ runtime.scale).map (·.id)
  if runtime.state ≠ "warm" ∨ runtime.quarantined then
    (.error (.notEligible runtime.id runtime.state runtime.quarantined), [])
  else if mismatched ≠ [] then (.error (.scaleMismatch runtime.scale mismatched), [])
  else
    let dispatched := dispatchWorkers runtime.workers scenarios
      (fun worker => runWorker control (scripts worker) worker) completion
    match dispatched.1 with
    | .error error => (.error error, dispatched.2)
    | .ok result =>
        if cleanupFailures result.scenarios = [] then (.ok result, dispatched.2)
        else
          (quarantine.map fun _ => result,
            dispatched.2 ++ [cleanupFailures result.scenarios])

end Worker

end NetOpsBench
