import NetOpsBench.Lib.Dict
import NetOpsBench.Lib.Program
import NetOpsBench.Lib.Text
import NetOpsBench.Models.Topology

/-!
# The services of the fault handlers

The fault tracker (`netopsbench/platform/faults/services/tracking.py`), the results of
commands (`command_runner.py`) and what the environment may do to a command: it succeeds,
it fails, or it takes effect although it reports failure.
-/

namespace NetOpsBench

/-! ## Commands -/

/-- `subprocess.CompletedProcess` -/
structure CommandResult : Type where
  returncode : Int
  stdout : String := ""
  stderr : String := ""
  deriving DecidableEq, Repr

namespace CommandResult

/-- `(result.stderr or result.stdout or "").strip()` -/
def detail (result : CommandResult) : String := Text.strip (Text.either result.stderr result.stdout)

end CommandResult

/-- What the environment does to a command that changes something. -/
structure Mutation : Type where
  result : CommandResult
  takesEffect : Bool
  reported : result.returncode = 0 → takesEffect = true

/-- What `control.sleep` raises. -/
inductive Interruption : Type where
  | timeout
  | cancelled
  deriving DecidableEq, Repr

/-- The errors that a handler raises. -/
inductive Raised : Type where
  | valueError (message : String)
  | runtimeError (message : String)
  | interrupted (interruption : Interruption)
  deriving DecidableEq, Repr

/-- `str(exc)` -/
def Raised.message : Raised → String
  | .valueError message => message
  | .runtimeError message => message
  | .interrupted .timeout => "Operation deadline exceeded"
  | .interrupted .cancelled => "Operation cancelled"

section Commands

variable {σ : Type}

/-- A command with an effect, as the environment lets it run. -/
def Mutation.run (mutation : Mutation) (effect : σ → σ) : Program σ Raised CommandResult := do
  if mutation.takesEffect then
    modify effect
  pure mutation.result

/-- The state after a command. -/
def Mutation.after (mutation : Mutation) (effect : σ → σ) (state : σ) : σ :=
  if mutation.takesEffect then effect state else state

@[simp] theorem Mutation.outcome_run (mutation : Mutation) (effect : σ → σ) (state : σ) :
    (mutation.run effect).outcome state = (.ok mutation.result, mutation.after effect state) := by
  unfold run after
  cases mutation.takesEffect with
  | true => rfl
  | false => rfl

end Commands

/-! ## The tracker -/

/-- A fault dictionary in its normal form. `residual_mutation`, which the tracker writes, is
a field; `metadata` holds the keys of the handler. -/
structure ActiveFault (μ : Type) : Type where
  type : String
  device : Option String := none
  interface : Option String := none
  success : Bool := true
  error : Option String := none
  residualMutation : Bool := false
  metadata : μ

/-- A thread that repeats a fault. -/
structure BackgroundControl : Type where
  stopRequested : Bool := false
  downTime : Int
  upTime : Int
  deriving DecidableEq, Repr

structure FaultTracker (μ : Type) : Type where
  activeFaults : List (ActiveFault μ) := []
  backgroundFaultControls : Dict String BackgroundControl := .empty

namespace FaultTracker

variable {μ : Type}

def track (tracker : FaultTracker μ) (fault : ActiveFault μ) : FaultTracker μ :=
  { tracker with activeFaults := tracker.activeFaults ++ [fault] }

/-- A mutation that could not be verified or fully compensated. -/
def trackResidual (tracker : FaultTracker μ) (fault : ActiveFault μ) (error : String) :
    FaultTracker μ :=
  tracker.track { fault with success := false, error := some error, residualMutation := true }

def registerBackgroundControl (tracker : FaultTracker μ) (controlId : String)
    (control : BackgroundControl) : FaultTracker μ :=
  { tracker with
    backgroundFaultControls := tracker.backgroundFaultControls.set controlId control }

def removeFaults (tracker : FaultTracker μ) (predicate : ActiveFault μ → Bool) : FaultTracker μ :=
  { tracker with activeFaults := tracker.activeFaults.filter fun fault => !predicate fault }

@[simp] theorem activeFaults_track (tracker : FaultTracker μ) (fault : ActiveFault μ) :
    (tracker.track fault).activeFaults = tracker.activeFaults ++ [fault] := rfl

@[simp] theorem activeFaults_trackResidual (tracker : FaultTracker μ) (fault : ActiveFault μ)
    (error : String) :
    (tracker.trackResidual fault error).activeFaults = tracker.activeFaults ++
      [{ fault with success := false, error := some error, residualMutation := true }] := rfl

@[simp] theorem activeFaults_registerBackgroundControl (tracker : FaultTracker μ)
    (controlId : String) (control : BackgroundControl) :
    (tracker.registerBackgroundControl controlId control).activeFaults = tracker.activeFaults := rfl

end FaultTracker

/-! ## The context -/

/-- `FaultRuntimeContext` with the two services that name things: the interface names
(`InterfaceRuntime`) and the durations of the experiment profile. -/
structure FaultRuntimeContext : Type where
  manifest : TopologyManifest
  resolveSonic : String → String
  resolveLinux : String → String
  flappingDownSeconds : Nat
  flappingUpSeconds : Nat
  flappingDownSeconds_pos : 0 < flappingDownSeconds
  flappingUpSeconds_pos : 0 < flappingUpSeconds

/-- `clab_container_name` -/
def clabContainerName (labName deviceName : String) : String :=
  "clab-" ++ labName ++ "-" ++ deviceName

/-- `container_names.get(device)` -/
def FaultRuntimeContext.containerName (ctx : FaultRuntimeContext) (device : String) :
    Option String :=
  if device ∈ ctx.manifest.devices.map Device.name then
    some (clabContainerName ctx.manifest.name device)
  else
    none

end NetOpsBench
