import NetOpsBench.Lib.Dict
import NetOpsBench.Lib.Program
import NetOpsBench.Lib.Sorting
import NetOpsBench.Models.Runtime

/-!
# The runtime manager

`RuntimePool` and `RuntimeManager` of `netopsbench/platform/runtime/manager.py`, the stages of
`RuntimeLifecycle` that they run, and `ManagedBucketRegistry`. What Docker, Containerlab, InfluxDB
and the file system answer is a script. An answer may also stop the process, so a call can end
between any two of its effects; what it has written by then stays. A pool is a handle: several
handles of several processes may stand for one runtime. `Workspace.history` is the record of what
has happened, and no operation reads it.
-/

namespace NetOpsBench

open Program

/-! ## Records -/

inductive RuntimeStage : Type where
  | deploy
  | observability
  | pingmesh
  | warm
  | teardown
  deriving DecidableEq, Repr

inductive StageStatus : Type where
  | completed
  | failed
  deriving DecidableEq, Repr

/-- `LifecycleStageResult` -/
structure StageResult : Type where
  stage : RuntimeStage
  status : StageStatus
  error : Option String := none
  deriving DecidableEq, Repr

inductive PoolState : Type where
  | created
  | deployed
  | observabilityReady
  | pingmeshReady
  | warm
  | quarantined
  | cleanupFailed
  | tornDown
  deriving DecidableEq, Repr

/-- `runtime_backend_identity` -/
structure RuntimeBackend : Type where
  provider : String
  containerlabVersion : String
  containerlabSha256 : String
  sonicStartSha256 : String
  deriving DecidableEq, Repr

structure PoolMetadata : Type where
  runtimeBackend : Option RuntimeBackend := none
  deploymentStarted : Bool := false
  quarantined : Bool := false
  quarantineReason : Option String := none
  quarantinedWorkers : Option (List String) := none
  cleanupError : Option String := none
  cleanupPendingBuckets : Option (List String) := none
  provisioningMode : Option String := none
  deriving DecidableEq, Repr

/-- What `runtime.json` holds. -/
structure RuntimeRecord : Type where
  /-- Which of the runtimes of the workspace this is, in the order of their making; the file does
  not hold it. -/
  runtime : Nat
  id : String
  workers : List RuntimeIdentity
  state : PoolState := .created
  metadata : PoolMetadata := {}
  stageResults : Dict RuntimeStage StageResult := .empty

namespace RuntimeRecord

variable (record : RuntimeRecord)

/-- There may be a physical lab: the test of `teardown`. -/
def needsCleanup : Bool :=
  record.state ≠ .created || (record.stageResults.get .deploy).isSome

/-- Nothing has been run on the runtime: the test under which a backend is recorded. -/
def isPristine : Bool :=
  record.metadata.runtimeBackend = none && record.state = .created &&
    record.stageResults.entries.isEmpty && !record.metadata.deploymentStarted

def completed (stage : RuntimeStage) : Bool :=
  (record.stageResults.get stage).any fun result => result.status = .completed

def withResult (result : StageResult) : RuntimeRecord :=
  { record with stageResults := record.stageResults.set result.stage result }

def withState (state : PoolState) : RuntimeRecord := { record with state }

def withBackend (backend : RuntimeBackend) : RuntimeRecord :=
  { record with metadata := { record.metadata with runtimeBackend := some backend } }

/-- The fields that every failed cleanup sets. -/
def cleanupFailed (error : String) : RuntimeRecord :=
  { record with
    state := .cleanupFailed
    metadata := { record.metadata with quarantined := true, cleanupError := some error } }

def withPending (pending : Option (List String)) : RuntimeRecord :=
  { record with metadata := { record.metadata with cleanupPendingBuckets := pending } }

/-- The workers with the subnets that a deployment has allocated. -/
def withSubnets (subnets : List String) : RuntimeRecord :=
  { record with
    workers := record.workers.zipIdx.map fun (worker, index) =>
      { worker with mgmtSubnet := (subnets[index]?).getD worker.mgmtSubnet } }

def deploying : RuntimeRecord :=
  { record with metadata := { record.metadata with deploymentStarted := true } }

end RuntimeRecord

/-! ## The workspace -/

inductive RuntimeDirectory : Type where
  | absent
  /-- There is no `runtime.json` in it. -/
  | bare
  | holding (record : RuntimeRecord)

/-- A handle of a runtime, in the process that made it. -/
structure RuntimePool : Type where
  process : Nat
  rootDir : String
  record : RuntimeRecord
  provisionCreatedBuckets : List String := []

/-- What happens to the labs, the directories and the buckets. -/
inductive RuntimeEvent : Type where
  | created (runtime : Nat) (id : String) (buckets : List String)
  /-- The slot checks have passed and the deployment begins. -/
  | deploying (runtime : Nat)
  | destroying (runtime : Nat) (labName : String)
  /-- Every worker of the runtime has been torn down. -/
  | labsRemoved (runtime : Nat)
  | bucketCreated (runtime : Nat) (bucket : String)
  | bucketDeleted (runtime : Nat) (bucket : String)
  /-- `teardown` has removed the directory. -/
  | removed (runtime : Nat)
  /-- `teardown` reports `torn_down`. -/
  | tornDown (runtime : Nat)
  /-- The compensation of `provision` has removed the directory. -/
  | discarded (runtime : Nat)
  deriving DecidableEq, Repr

structure Workspace : Type where
  directories : String → RuntimeDirectory := fun _ => .absent
  /-- The handles, in the order in which they were made; those of a dead process are gone. -/
  pools : List (Option RuntimePool) := []
  /-- The manifest of `ManagedBucketRegistry`: the runtime that each bucket was created for. -/
  registry : Dict String String := .empty
  /-- The buckets that InfluxDB has. -/
  buckets : List String := []
  /-- How many runtimes have been made. -/
  made : Nat := 0
  history : List RuntimeEvent := []

namespace Workspace

variable (workspace : Workspace)

def note (event : RuntimeEvent) : Workspace :=
  { workspace with history := workspace.history ++ [event] }

def place (rootDir : String) (directory : RuntimeDirectory) : Workspace :=
  { workspace with
    directories := fun path => if path = rootDir then directory else workspace.directories path }

/-- `ManagedBucketRegistry.record_created`: the first owner stays. -/
def recordCreated (bucket runtimeId : String) : Workspace :=
  match workspace.registry.get bucket with
  | some _ => workspace
  | none => { workspace with registry := workspace.registry.set bucket runtimeId }

/-- `ManagedBucketRegistry.active_for_runtime` -/
def activeForRuntime (runtimeId : String) : List String :=
  Sorting.sorted (fun first second => decide (first ≤ second))
    ((workspace.registry.entries.filter fun entry => decide (entry.2 = runtimeId)).map Prod.fst)

/-- `ManagedBucketRegistry.mark_deleted` -/
def markDeleted (bucket : String) : Workspace :=
  { workspace with registry := workspace.registry.erase bucket }

/-- The handles of a dead process are gone. -/
def kill (process : Nat) : Workspace :=
  { workspace with
    pools := workspace.pools.map fun pool => pool.filter fun pool => pool.process ≠ process }

end Workspace

/-! ## Calls -/

/-- The exceptions that a retry of `ensure_bucket` tells apart. -/
inductive ErrorFamily : Type where
  | os
  | runtime
  | value
  | other
  deriving DecidableEq, Repr

/-- How a call ends that does not return. -/
inductive RuntimeStop : Type where
  /-- `RuntimeLifecycleError` -/
  | lifecycle (result : StageResult)
  /-- Another `Exception`, with its type and its message. -/
  | raised (family : ErrorFamily) (text : String)
  /-- A `BaseException` that is no `Exception`, such as `KeyboardInterrupt` -/
  | interrupted
  /-- The process is gone. -/
  | killed
  deriving DecidableEq, Repr

abbrev Answer (α : Type) : Type := Except RuntimeStop α

def runtimeError (message : String) : RuntimeStop := .raised .runtime ("RuntimeError: " ++ message)

def RuntimeStage.name : RuntimeStage → String
  | deploy => "deploy"
  | observability => "observability"
  | pingmesh => "pingmesh"
  | warm => "warm"
  | teardown => "teardown"

/-- `str(exc)` of a `RuntimeLifecycleError` -/
def StageResult.message (result : StageResult) : String :=
  "Runtime lifecycle stage " ++ Text.quoted result.stage.name ++ " failed: " ++
    result.error.getD "None"

/-- `f"{type(exc).__name__}: {exc}"`, of what `except Exception` catches -/
def RuntimeStop.exception : RuntimeStop → Option String
  | lifecycle result => some ("RuntimeLifecycleError: " ++ result.message)
  | raised _ text => some text
  | interrupted => none
  | killed => none

/-- `except (OSError, URLError, HTTPError, RuntimeError, ValueError)` -/
def RuntimeStop.retried : RuntimeStop → Bool
  | lifecycle _ => true
  | raised family _ => family ≠ .other
  | interrupted => false
  | killed => false

/-- A call on a handle. -/
structure PoolCall : Type where
  pool : RuntimePool
  workspace : Workspace

abbrev PoolProgram : Type → Type := Program PoolCall RuntimeStop

namespace PoolCall

variable (call : PoolCall)

def mapRecord (f : RuntimeRecord → RuntimeRecord) : PoolCall :=
  { call with pool := { call.pool with record := f call.pool.record } }

def mapWorkspace (f : Workspace → Workspace) : PoolCall :=
  { call with workspace := f call.workspace }

/-- An event of the runtime of the handle. -/
def note (event : Nat → RuntimeEvent) : PoolCall :=
  call.mapWorkspace (·.note (event call.pool.record.runtime))

def write : PoolCall :=
  call.mapWorkspace (·.place call.pool.rootDir (.holding call.pool.record))

def withCreated (buckets : List String) : PoolCall :=
  { call with pool := { call.pool with provisionCreatedBuckets := buckets } }

end PoolCall

def mapRecord (f : RuntimeRecord → RuntimeRecord) : PoolProgram Unit :=
  modify fun call : PoolCall => call.mapRecord f

def noting (event : Nat → RuntimeEvent) : PoolProgram Unit :=
  modify fun call : PoolCall => call.note event

/-- `_write_metadata`; the file is replaced as a whole. -/
def writeMetadata (answer : Answer Unit) : PoolProgram Unit := do
  Program.ofExcept answer
  modify fun call : PoolCall => call.write

/-- `except Exception`, with the text of what was caught -/
def caught (program : PoolProgram Unit) : PoolProgram (Option String) :=
  tryCatch (do program; pure none) fun stop =>
    match stop.exception with
    | some text => pure (some text)
    | none => throw stop

/-! ## Buckets -/

/-- The answer to a request with an effect. -/
inductive EffectAnswer : Type where
  | done
  /-- The request has had its effect, and the reply is lost. -/
  | lost (stop : RuntimeStop)
  | refused (stop : RuntimeStop)

namespace EffectAnswer

def effective : EffectAnswer → Bool
  | done => true
  | lost _ => true
  | refused _ => false

def answer : EffectAnswer → Answer Unit
  | done => .ok ()
  | lost stop => .error stop
  | refused stop => .error stop

end EffectAnswer

/-- One turn of the loop of `ensure_bucket`. -/
structure BucketAttempt : Type where
  existing : Answer Unit := .ok ()
  organization : Answer Unit := .ok ()
  post : EffectAnswer := .done

def PoolCall.createBucket (bucket : String) (call : PoolCall) : PoolCall :=
  (call.mapWorkspace fun workspace =>
    { workspace with buckets := workspace.buckets ++ [bucket] }).note (.bucketCreated · bucket)

def PoolCall.deleteBucket (bucket : String) (call : PoolCall) : PoolCall :=
  (call.mapWorkspace fun workspace =>
    { workspace with buckets := workspace.buckets.filter (· ≠ bucket) }).note
      (.bucketDeleted · bucket)

/-- The bucket is absent: its creation. -/
def postBucket (attempt : BucketAttempt) (bucket : String) : PoolProgram (Option Bool) := do
  Program.ofExcept attempt.organization
  modify fun call : PoolCall => if attempt.post.effective then call.createBucket bucket else call
  Program.ofExcept attempt.post.answer
  pure (some true)

/-- One turn: whether the bucket was created, or nothing for another turn. -/
def attemptBucket (attempt : BucketAttempt) (bucket : String) : PoolProgram (Option Bool) :=
  tryCatch
    (do
      Program.ofExcept attempt.existing
      let call ← get
      if bucket ∈ call.workspace.buckets then pure (some false) else postBucket attempt bucket)
    fun stop => if stop.retried then pure none else throw stop

/-- `ensure_bucket`, with the turns that are left -/
def ensureBucket (attempts : Nat → BucketAttempt) (bucket : String) : Nat → PoolProgram Bool
  | 0 => throw (runtimeError ("Failed to ensure InfluxDB bucket " ++ Text.quoted bucket))
  | turns + 1 => do
      match ← attemptBucket (attempts turns) bucket with
      | some created => pure created
      | none => ensureBucket attempts bucket turns

def bucketRetries : Nat := 20

/-- `delete_bucket` and the `mark_deleted` that follows it. -/
structure BucketDeletion : Type where
  lookup : Answer Unit := .ok ()
  delete : EffectAnswer := .done
  forget : Answer Unit := .ok ()

/-- `delete_bucket` -/
def deleteBucket (script : BucketDeletion) (bucket : String) : PoolProgram Unit := do
  Program.ofExcept script.lookup
  let call ← get
  if bucket ∈ call.workspace.buckets then do
    modify fun call : PoolCall =>
      if script.delete.effective then call.deleteBucket bucket else call
    Program.ofExcept script.delete.answer
  else pure ()

/-- One turn of the loop over the pending buckets: the error, when the bucket stays. -/
def deletePending (script : BucketDeletion) (bucket : String) : PoolProgram (Option String) := do
  match ← caught (deleteBucket script bucket) with
  | some text => pure (some (bucket ++ ": " ++ text))
  | none => do
      Program.ofExcept script.forget
      modify fun call : PoolCall => call.mapWorkspace (·.markDeleted bucket)
      pure none

/-- The loop: the buckets that stay, with their errors. -/
def deleteAll (script : String → BucketDeletion) :
    List String → PoolProgram (List (String × String))
  | [] => pure []
  | bucket :: rest => do
      let failed ← deletePending (script bucket) bucket
      let later ← deleteAll script rest
      pure ((failed.map (bucket, ·)).toList ++ later)

/-- `_delete_provision_created_buckets` -/
def deleteProvisionCreatedBuckets (script : String → BucketDeletion) : PoolProgram Unit := do
  let call ← get
  let failed ← deleteAll script call.pool.provisionCreatedBuckets
  modify fun call : PoolCall => call.withCreated (failed.map Prod.fst)
  if failed.isEmpty then pure ()
  else throw (runtimeError ("Managed bucket cleanup failed: " ++
    Text.join "; " (failed.map Prod.snd)))

/-! ## Stages -/

/-- The stages that `_run_stage` runs. -/
inductive SetupStage : Type where
  | deploy
  | observability
  | pingmesh
  | warm
  deriving DecidableEq, Repr

namespace SetupStage

def stage : SetupStage → RuntimeStage
  | deploy => .deploy
  | observability => .observability
  | pingmesh => .pingmesh
  | warm => .warm

def nextState : SetupStage → PoolState
  | deploy => .deployed
  | observability => .observabilityReady
  | pingmesh => .pingmeshReady
  | warm => .warm

end SetupStage

/-- `ensure_worker_observability`, with the check of the operation control before it. -/
structure ObservabilityScript : Type where
  control : Answer Unit := .ok ()
  core : Answer Unit := .ok ()
  attempts : Nat → BucketAttempt := fun _ => {}
  recordCreated : Answer Unit := .ok ()
  /-- The network, the collector and Telegraf. -/
  services : Answer Unit := .ok ()

structure StageScript : Type where
  control : Answer Unit := .ok ()
  backend : Answer RuntimeBackend
  writeBackend : Answer Unit := .ok ()
  begin : Answer Unit := .ok ()
  /-- The deploy lock and the allocation of the subnets. -/
  subnets : Answer (List String) := .ok []
  slots : RuntimeIdentity → Answer Unit := fun _ => .ok ()
  deployWorkers : Answer Unit := .ok ()
  observability : RuntimeIdentity → ObservabilityScript := fun _ => {}
  /-- The client agents of a worker, or its health check. -/
  worker : RuntimeIdentity → Answer Unit := fun _ => .ok ()
  writeResult : Answer Unit := .ok ()

/-- `_deploy` -/
def deployOperation (script : StageScript) : PoolProgram Unit := do
  let subnets ← Program.ofExcept script.subnets
  mapRecord (·.withSubnets subnets)
  let call ← get
  Program.ofExcept (call.pool.record.workers.forM script.slots)
  modify fun call : PoolCall => (call.mapRecord (·.deploying)).note .deploying
  Program.ofExcept script.deployWorkers

/-- `record_created` of `_ensure_observability` -/
def recordCreated (answer : Answer Unit) (bucket : String) : PoolProgram Unit := do
  Program.ofExcept answer
  modify fun call : PoolCall =>
    (call.mapWorkspace (·.recordCreated bucket call.pool.record.id)).withCreated
      (call.pool.provisionCreatedBuckets ++ [bucket])

/-- `on_bucket_created`, of a bucket that was created -/
def onBucketCreated (answer : Answer Unit) (bucket : String) (created : Bool) :
    PoolProgram Unit :=
  if created then recordCreated answer bucket else pure ()

/-- `ensure_worker_observability` -/
def ensureWorkerObservability (script : ObservabilityScript) (worker : RuntimeIdentity) :
    PoolProgram Unit := do
  Program.ofExcept script.control
  Program.ofExcept script.core
  let created ← ensureBucket script.attempts worker.bucket bucketRetries
  onBucketCreated script.recordCreated worker.bucket created
  Program.ofExcept script.services

/-- The loop of `_ensure_observability` -/
def ensureObservability (script : StageScript) : List RuntimeIdentity → PoolProgram Unit
  | [] => pure ()
  | worker :: rest => do
      ensureWorkerObservability (script.observability worker) worker
      ensureObservability script rest

/-- The operation of a stage. -/
def stageOperation (script : StageScript) : SetupStage → PoolProgram Unit
  | .deploy => deployOperation script
  | .observability => do
      let call ← get
      ensureObservability script call.pool.record.workers
  | .pingmesh => do
      let call ← get
      Program.ofExcept (call.pool.record.workers.forM script.worker)
  | .warm => do
      let call ← get
      Program.ofExcept (call.pool.record.workers.forM script.worker)

/-- `RuntimeLifecycle.run` -/
def lifecycleRun (stage : RuntimeStage) (operation : PoolProgram Unit) :
    PoolProgram StageResult := do
  match ← caught operation with
  | none => pure { stage, status := .completed }
  | some error => throw (.lifecycle { stage, status := .failed, error := some error })

/-- The check of the backend in `_run_stage`. -/
def checkBackend (script : StageScript) (backend : RuntimeBackend) : PoolProgram Unit := do
  let call ← get
  if call.pool.record.isPristine then do
    mapRecord (·.withBackend backend)
    writeMetadata script.writeBackend
  else if call.pool.record.metadata.runtimeBackend = some backend then pure ()
  else throw (.raised .value
    "ValueError: Runtime backend changed or is unrecorded; archive it and create a new runtime")

/-- The handler of `_run_stage`. -/
def stageFailed (answer : Answer Unit) (stop : RuntimeStop) : PoolProgram StageResult :=
  match stop with
  | .lifecycle result => do
      mapRecord (·.withResult result)
      writeMetadata answer
      throw stop
  | other => throw other

/-- A stage that has not completed before. -/
def performStage (script : StageScript) (stage : SetupStage) : PoolProgram Unit := do
  let result ← tryCatch
    (lifecycleRun stage.stage do
      Program.ofExcept script.begin
      stageOperation script stage)
    (stageFailed script.writeResult)
  mapRecord fun record => (record.withResult result).withState stage.nextState
  writeMetadata script.writeResult

/-- `_run_stage` -/
def runStage (script : StageScript) (stage : SetupStage) : PoolProgram Unit := do
  Program.ofExcept script.control
  let backend ← Program.ofExcept script.backend
  checkBackend script backend
  let call ← get
  if call.pool.record.completed stage.stage then pure () else performStage script stage

/-! ## Quarantine -/

/-- The workers that a report adds to those already known, without repetition and in order. -/
def knownWorkers (previous : Option (List String)) (workers : List String) : List String :=
  Sorting.sorted (fun first second => decide (first ≤ second))
    ((previous.getD [] ++ workers).dedup)

def RuntimeRecord.quarantine (reason : String) (workers : Option (List String))
    (record : RuntimeRecord) : RuntimeRecord :=
  { record with
    state := .quarantined
    metadata := { record.metadata with
      quarantined := true
      quarantineReason := some reason
      quarantinedWorkers := match workers with
        | none => record.metadata.quarantinedWorkers
        | some workers => some (knownWorkers record.metadata.quarantinedWorkers workers) } }

/-- `mark_quarantined` -/
def markQuarantined (reason : String) (workers : Option (List String)) (answer : Answer Unit) :
    PoolProgram Unit := do
  let call ← get
  let record := call.pool.record.quarantine reason workers
  if call.pool.record.state = .quarantined ∧ call.pool.record.metadata = record.metadata then
    pure ()
  else do
    mapRecord fun _ => record
    writeMetadata answer

/-! ## Teardown -/

/-- What the removal of the directory leaves, and how it ends. -/
structure Removal : Type where
  gone : Bool := true
  /-- `runtime.json` is still there, when the directory is. -/
  keepsRecord : Bool := true
  answer : Answer Unit := .ok ()

def RuntimeDirectory.removed (removal : Removal) : RuntimeDirectory → RuntimeDirectory
  | absent => absent
  | bare => if removal.gone then absent else bare
  | holding record =>
      if removal.gone then absent else if removal.keepsRecord then holding record else bare

def RuntimeDirectory.exists : RuntimeDirectory → Bool
  | absent => false
  | bare => true
  | holding _ => true

structure PoolTeardownScript : Type where
  labs : RuntimeIdentity → Answer Unit := fun _ => .ok ()
  active : Answer Unit := .ok ()
  deletions : String → BucketDeletion := fun _ => {}
  removal : Removal := {}
  /-- The write of `runtime.json`, when a part of the cleanup has failed. -/
  writeFailure : Answer Unit := .ok ()

/-- The loop of `teardown_workers`: the failures. -/
def teardownEach (labs : RuntimeIdentity → Answer Unit) :
    List RuntimeIdentity → PoolProgram (List String)
  | [] => pure []
  | worker :: rest => do
      noting (.destroying · worker.labName)
      let failed ← caught (Program.ofExcept (labs worker))
      let later ← teardownEach labs rest
      pure ((failed.map (worker.labName ++ ": " ++ ·)).toList ++ later)

/-- `teardown_workers` -/
def teardownWorkers (labs : RuntimeIdentity → Answer Unit) : PoolProgram Unit := do
  let call ← get
  let failures ← teardownEach labs call.pool.record.workers
  if failures.isEmpty then noting .labsRemoved
  else throw (runtimeError ("Worker teardown failed: " ++ Text.join "; " failures))

/-- `active_for_runtime`, which reads the manifest. -/
def activeForRuntime (answer : Answer Unit) : PoolProgram (List String) := do
  Program.ofExcept answer
  let call ← get
  pure (call.workspace.activeForRuntime call.pool.record.id)

/-- The handler of a failed lifecycle teardown. -/
def labsFailed (script : PoolTeardownScript) (stop : RuntimeStop) : PoolProgram StageResult :=
  match stop with
  | .lifecycle result => do
      mapRecord fun record =>
        (record.withResult result).cleanupFailed (result.error.getD result.message)
      let pending ← activeForRuntime script.active
      mapRecord (·.withPending (some pending))
      writeMetadata script.writeFailure
      throw stop
  | other => throw other

/-- The handler of a failed deletion of the buckets. -/
def bucketsFailed (script : PoolTeardownScript) (stop : RuntimeStop) : PoolProgram Unit :=
  match stop.exception with
  | some text => do
      modify fun call : PoolCall => call.mapRecord fun record =>
        (record.cleanupFailed text).withPending (some call.pool.provisionCreatedBuckets)
      writeMetadata script.writeFailure
      throw stop
  | none => throw stop

/-- The buckets that a teardown has to delete. -/
def pendingBuckets (answer : Answer Unit) : PoolProgram (List String) := do
  let call ← get
  match call.pool.record.metadata.cleanupPendingBuckets with
  | some pending =>
      if call.pool.record.state = .cleanupFailed then pure pending else activeForRuntime answer
  | none => activeForRuntime answer

/-- The labs and the buckets of a runtime that may have some. -/
def cleanResources (script : PoolTeardownScript) : PoolProgram Unit := do
  let _ ← tryCatch (lifecycleRun .teardown (teardownWorkers script.labs)) (labsFailed script)
  let pending ← pendingBuckets script.active
  modify fun call : PoolCall => call.withCreated pending
  tryCatch (deleteProvisionCreatedBuckets script.deletions) (bucketsFailed script)
  mapRecord (·.withPending none)

def PoolCall.removeDirectory (removal : Removal) (event : Nat → RuntimeEvent) (call : PoolCall) :
    PoolCall :=
  let directory := call.workspace.directories call.pool.rootDir
  let left := call.mapWorkspace (·.place call.pool.rootDir (directory.removed removal))
  if directory.exists && removal.gone then left.note event else left

def removeRootDir (script : PoolTeardownScript) : PoolProgram Unit := do
  modify fun call : PoolCall => call.removeDirectory script.removal .removed
  Program.ofExcept script.removal.answer
  let call ← get
  if (call.workspace.directories call.pool.rootDir).exists then do
    let error := "runtime directory remained after teardown: " ++ call.pool.rootDir
    mapRecord (·.cleanupFailed error)
    writeMetadata script.writeFailure
    throw (runtimeError error)
  else modify fun call : PoolCall => (call.mapRecord (·.withState .tornDown)).note .tornDown

/-- The part of `teardown` before the removal of the directory. -/
def cleanIfNeeded (script : PoolTeardownScript) (needed : Bool) : PoolProgram Unit :=
  if needed then cleanResources script else pure ()

/-- `teardown` -/
def teardown (script : PoolTeardownScript) : PoolProgram Unit := do
  let call ← get
  if call.pool.record.state = .tornDown then pure ()
  else do
    cleanIfNeeded script call.pool.record.needsCleanup
    removeRootDir script

/-! ## Provisioning -/

structure ProvisionScript : Type where
  deploy : StageScript
  observability : StageScript
  pingmesh : StageScript
  warm : StageScript
  /-- The compensation. -/
  cleanup : PoolTeardownScript := {}
  writeWarm : Answer Unit := .ok ()

def provisioningFailed (error cleanup : String) : RuntimeStop :=
  runtimeError ("Runtime provisioning failed (" ++ error ++ ") and cleanup failed (" ++ cleanup ++
    ")")

/-- The handler of a part of the compensation that has failed. -/
def compensationFailed {α : Type} (script : PoolTeardownScript) (error : String) (stop : RuntimeStop) :
    PoolProgram α :=
  match stop.exception with
  | some text => do
      modify fun call : PoolCall => call.mapRecord fun record =>
        (record.cleanupFailed text).withPending (some call.pool.provisionCreatedBuckets)
      writeMetadata script.writeFailure
      throw (provisioningFailed error text)
  | none => throw stop

/-- The removal of the directory in the compensation. -/
def discardRootDir (script : PoolTeardownScript) (error : String) : PoolProgram Unit := do
  modify fun call : PoolCall => call.removeDirectory script.removal .discarded
  let _ ← caught (Program.ofExcept script.removal.answer)
  let call ← get
  if (call.workspace.directories call.pool.rootDir).exists then do
    let cleanup := "runtime directory remained after provisioning cleanup: " ++ call.pool.rootDir
    mapRecord (·.cleanupFailed cleanup)
    let _ ← caught (writeMetadata script.writeFailure)
    throw (provisioningFailed error ("RuntimeError: " ++ cleanup))
  else pure ()

/-- The compensation of `provision`. -/
def compensate (script : PoolTeardownScript) (stop : RuntimeStop) : PoolProgram Unit :=
  match stop.exception with
  | some error => do
      let call ← get
      tryCatch
        (if call.pool.record.metadata.deploymentStarted then teardownWorkers script.labs
          else pure ())
        (compensationFailed script error)
      tryCatch (deleteProvisionCreatedBuckets script.deletions) (compensationFailed script error)
      discardRootDir script error
      throw stop
  | none => throw stop

/-- `provision`, once the runtime has been built. -/
def provisionPool (script : ProvisionScript) : PoolProgram Unit := do
  tryCatch
    (do
      runStage script.deploy .deploy
      runStage script.observability .observability
      runStage script.pingmesh .pingmesh
      runStage script.warm .warm)
    (compensate script.cleanup)
  mapRecord fun record =>
    { record with
      state := .warm
      metadata := { record.metadata with provisioningMode := some "worker_pool" } }
  writeMetadata script.writeWarm

/-! ## The manager -/

/-- The arguments of `create` and `provision`. -/
structure RuntimeRequest : Type where
  scale : String
  workers : Int := 1
  name : Option String := none
  rootDir : Option String := none

structure BuildScript : Type where
  /-- The characters of the default name, from `uuid4`. -/
  token : String := ""
  /-- The profile of the scale and the parent directory. -/
  prepare : Answer Unit := .ok ()
  /-- The other directories, and the subnets of the workers. -/
  directories : Answer Unit := .ok ()
  subnet : Nat → String := fun _ => ""
  write : Answer Unit := .ok ()

namespace RuntimeRequest

variable (request : RuntimeRequest)

def workerCount : Nat := (max 1 request.workers).toNat

def runtimeName (token : String) : String :=
  Text.strip (((request.name).bind Text.nonempty).getD
    (request.scale ++ "-" ++ toString request.workerCount ++ "-" ++ token))

def root (token : String) : String :=
  request.rootDir.getD (".netopsbench/runtimes/" ++ request.runtimeName token)

def labName (token : String) (index : Nat) : String :=
  if request.workerCount = 1 then request.runtimeName token
  else request.runtimeName token ++ "-w" ++ twoDigits index

def worker (tables : CharacterTables) (script : BuildScript) (index : Nat) : RuntimeIdentity :=
  let workerName := "worker-" ++ toString index
  let labName := request.labName script.token index
  .create tables (request.runtimeName script.token) workerName index labName
    (request.root script.token ++ "/" ++ workerName) (script.subnet index)
    ("clab-mgmt-" ++ labName) none none

/-- The record of a new runtime. -/
def record (tables : CharacterTables) (script : BuildScript) (runtime : Nat) : RuntimeRecord where
  runtime
  id := request.runtimeName script.token
  workers := (List.range' 1 request.workerCount).map (request.worker tables script)

end RuntimeRequest

/-- `_build_runtime` -/
def buildRuntime (tables : CharacterTables) (process : Nat) (request : RuntimeRequest)
    (script : BuildScript) : Program Workspace RuntimeStop RuntimePool := do
  Program.ofExcept script.prepare
  let workspace ← get
  let rootDir := request.root script.token
  if (workspace.directories rootDir).exists then
    throw (.raised .value ("RuntimeMetadataError: Runtime path already exists; attach or " ++
      "teardown it before reusing the name: " ++ rootDir))
  else do
    modify fun workspace : Workspace => workspace.place rootDir .bare
    Program.ofExcept script.directories
    Program.ofExcept script.write
    let record := request.record tables script workspace.made
    modify fun workspace : Workspace =>
      { (workspace.place rootDir (.holding record)).note
          (.created record.runtime record.id (record.workers.map (·.bucket))) with
        made := workspace.made + 1 }
    pure { process, rootDir, record }

/-- `attach` -/
def attach (process : Nat) (rootDir : String) (answer : Answer Unit) :
    Program Workspace RuntimeStop RuntimePool := do
  Program.ofExcept answer
  let workspace ← get
  match workspace.directories rootDir with
  | .holding record => pure { process, rootDir, record }
  | .bare => throw (.raised .os "FileNotFoundError: runtime.json")
  | .absent => throw (.raised .os "FileNotFoundError: runtime.json")

/-! ## Runs -/

inductive RuntimeStep : Type where
  | create (process : Nat) (request : RuntimeRequest) (script : BuildScript)
  | provision (process : Nat) (request : RuntimeRequest) (build : BuildScript)
      (script : ProvisionScript)
  | stage (pool : Nat) (stage : SetupStage) (script : StageScript)
  | quarantine (pool : Nat) (reason : String) (workers : Option (List String))
      (write : Answer Unit)
  | attach (process : Nat) (rootDir : String) (answer : Answer Unit)
  | teardown (pool : Nat) (script : PoolTeardownScript)
  | kill (process : Nat)

namespace Workspace

/-- A process that a call has killed leaves no handles. -/
def settle {α : Type} (process : Nat) (answer : Answer α) (workspace : Workspace) : Workspace :=
  match answer with
  | .error .killed => workspace.kill process
  | _ => workspace

def addPool (pool : RuntimePool) (workspace : Workspace) : Workspace :=
  { workspace with pools := workspace.pools ++ [some pool] }

def handle (workspace : Workspace) (index : Nat) : Option RuntimePool :=
  workspace.pools[index]?.join

/-- The call on a handle, when its process is alive. -/
def call (index : Nat) (program : PoolProgram Unit) (workspace : Workspace) : Workspace :=
  match workspace.handle index with
  | none => workspace
  | some pool =>
      let (answer, ended) := outcome program { pool, workspace }
      ({ ended.workspace with pools := ended.workspace.pools.set index (some ended.pool) }).settle
        pool.process answer

/-- A program of the manager that makes a handle, and what is run on it before it is returned. -/
def making (process : Nat) (build : Program Workspace RuntimeStop RuntimePool)
    (first : PoolProgram Unit) (workspace : Workspace) : Workspace :=
  match outcome build workspace with
  | (.error stop, built) => built.settle process (.error stop : Answer Unit)
  | (.ok pool, built) =>
      match outcome first { pool, workspace := built } with
      | (.error stop, ended) => ended.workspace.settle process (.error stop : Answer Unit)
      | (.ok (), ended) => ended.workspace.addPool ended.pool

def step (tables : CharacterTables) (workspace : Workspace) : RuntimeStep → Workspace
  | .create process request script =>
      workspace.making process (buildRuntime tables process request script) (pure ())
  | .provision process request build script =>
      workspace.making process (buildRuntime tables process request build) (provisionPool script)
  | .stage pool stage script => workspace.call pool (runStage script stage)
  | .quarantine pool reason workers write =>
      workspace.call pool (markQuarantined reason workers write)
  | .attach process rootDir answer =>
      workspace.making process (NetOpsBench.attach process rootDir answer) (pure ())
  | .teardown pool script => workspace.call pool (NetOpsBench.teardown script)
  | .kill process => workspace.kill process

def run (tables : CharacterTables) (workspace : Workspace) (steps : List RuntimeStep) :
    Workspace :=
  steps.foldl (step tables) workspace

/-- Every step of a run is fine where it is taken. -/
def EachStep (fine : Workspace → RuntimeStep → Prop) (tables : CharacterTables)
    (workspace : Workspace) (steps : List RuntimeStep) : Prop :=
  ∀ earlier step later, steps = earlier ++ step :: later →
    fine (workspace.run tables earlier) step

/-- A workspace without runtimes; some buckets and directories are there already. -/
def fresh (buckets occupied : List String) : Workspace where
  directories := fun path => if path ∈ occupied then .bare else .absent
  buckets

end Workspace

end NetOpsBench
