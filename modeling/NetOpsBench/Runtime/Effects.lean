import NetOpsBench.Runtime.Calls

/-!
# What the effects of a call keep

A call on a handle changes its record, and the workspace, by a few effects. A property that each
of these keeps is `Stable`, and every call keeps it, however it ends.
-/

namespace NetOpsBench

open Program

/-- How a stage changes the record of its handle. -/
inductive RuntimeRecord.StageUpdate : (RuntimeRecord → RuntimeRecord) → Prop
  | withResult (result : StageResult) : StageUpdate (·.withResult result)
  | withState (state : PoolState) : StageUpdate (·.withState state)
  | withBackend (backend : RuntimeBackend) : StageUpdate (·.withBackend backend)
  | withSubnets (subnets : List String) : StageUpdate (·.withSubnets subnets)
  | deploying : StageUpdate (·.deploying)

/-- How a call changes the record of its handle. -/
inductive RuntimeRecord.Update : (RuntimeRecord → RuntimeRecord) → Prop
  | staged {f : RuntimeRecord → RuntimeRecord} (update : StageUpdate f) : Update f
  | cleanupFailed (error : String) : Update (·.cleanupFailed error)
  | withPending (pending : Option (List String)) : Update (·.withPending pending)
  | quarantine (reason : String) (workers : Option (List String)) :
    Update (·.quarantine reason workers)
  | provisioned : Update fun record =>
    { record with
      state := .warm
      metadata := { record.metadata with provisioningMode := some "worker_pool" } }

/-- What the bookkeeping of a stage keeps. -/
structure Recorded (P : PoolCall → Prop) : Prop where
  mapRecord : ∀ call f, RuntimeRecord.StageUpdate f → P call → P (call.mapRecord f)
  write : ∀ call, P call → P call.write

/-- What every effect keeps. -/
structure Stable (P : PoolCall → Prop) : Prop where
  mapRecord : ∀ call f, RuntimeRecord.Update f → P call → P (call.mapRecord f)
  note : ∀ call event, P call → P (call.note event)
  write : ∀ call, P call → P call.write
  withCreated : ∀ call buckets, P call → P (call.withCreated buckets)
  buckets : ∀ (call : PoolCall) buckets, P call →
    P (call.mapWorkspace fun workspace => { workspace with buckets })
  registry : ∀ (call : PoolCall) registry, P call →
    P (call.mapWorkspace fun workspace => { workspace with registry })
  removed : ∀ (call : PoolCall) removal, P call →
    P (call.mapWorkspace (·.place call.pool.rootDir
      ((call.workspace.directories call.pool.rootDir).removed removal)))

variable {P : PoolCall → Prop}

theorem lifecycleRun_keeps {stage : RuntimeStage} {operation : PoolProgram Unit}
    (body : Keeps operation P) : Keeps (lifecycleRun stage operation) P := by
  apply Keeps.bind (caught_keeps body)
  intro error
  cases error with
  | none => exact Keeps.pure _
  | some text => exact Keeps.throw _

namespace Recorded

variable (recorded : Recorded P)
include recorded

theorem writeMetadata_keeps (answer : Answer Unit) : Keeps (writeMetadata answer) P :=
  Keeps.bind (Keeps.ofExcept answer) fun _ => Keeps.modify recorded.write

theorem checkBackend_keeps (script : StageScript) (backend : RuntimeBackend) :
    Keeps (checkBackend script backend) P := by
  apply Keeps.get_bind
  intro call _
  split
  · exact Keeps.bind (Keeps.modify fun call => recorded.mapRecord call _ (.withBackend backend))
      fun _ => recorded.writeMetadata_keeps _
  · split
    · exact Keeps.pure _
    · exact Keeps.throw _

theorem stageFailed_keeps (answer : Answer Unit) (stop : RuntimeStop) :
    Keeps (stageFailed answer stop) P := by
  cases stop with
  | lifecycle result =>
      exact Keeps.bind (Keeps.modify fun call => recorded.mapRecord call _ (.withResult result))
        fun _ => Keeps.bind (recorded.writeMetadata_keeps _) fun _ => Keeps.throw _
  | raised family text => exact Keeps.throw _
  | interrupted => exact Keeps.throw _
  | killed => exact Keeps.throw _

/-- A stage keeps what its operation and its bookkeeping keep. -/
theorem runStage_keeps (script : StageScript) (stage : SetupStage)
    (operation : Keeps (stageOperation script stage) P) : Keeps (runStage script stage) P := by
  apply Keeps.bind (Keeps.ofExcept script.control)
  intro _
  apply Keeps.bind (Keeps.ofExcept script.backend)
  intro backend
  apply Keeps.bind (recorded.checkBackend_keeps script backend)
  intro _
  apply Keeps.get_bind
  intro call _
  split
  · exact Keeps.pure _
  apply Keeps.bind (Keeps.tryCatch (lifecycleRun_keeps (Keeps.bind (Keeps.ofExcept script.begin)
    fun _ => operation)) (recorded.stageFailed_keeps _))
  intro result
  apply Keeps.bind _ fun _ => recorded.writeMetadata_keeps _
  apply Keeps.modify
  intro call holds
  exact recorded.mapRecord (call.mapRecord (·.withResult result)) _ (.withState _)
    (recorded.mapRecord call _ (.withResult result) holds)

end Recorded

namespace Stable

variable (stable : Stable P)
include stable

theorem mapRecord_keeps {f : RuntimeRecord → RuntimeRecord} (update : RuntimeRecord.Update f) :
    Keeps (NetOpsBench.mapRecord f) P :=
  Keeps.modify fun call holds => stable.mapRecord call f update holds

theorem writeMetadata_keeps (answer : Answer Unit) : Keeps (writeMetadata answer) P :=
  Keeps.bind (Keeps.ofExcept answer) fun _ => Keeps.modify stable.write

theorem noting_keeps (event : Nat → RuntimeEvent) : Keeps (noting event) P :=
  Keeps.modify fun call holds => stable.note call event holds

/-- The update and the write that follow a failed cleanup. -/
theorem cleanupFailed_keeps (error : String) {call : PoolCall} (holds : P call) :
    P (call.mapRecord fun record =>
      (record.cleanupFailed error).withPending (some call.pool.provisionCreatedBuckets)) :=
  stable.mapRecord (call.mapRecord (·.cleanupFailed error)) _ (.withPending _)
    (stable.mapRecord call _ (.cleanupFailed error) holds)

/-! ## Buckets -/

theorem createBucket {call : PoolCall} (bucket : String) (holds : P call) :
    P (call.createBucket bucket) :=
  stable.note _ _ (stable.buckets call _ holds)

theorem deletion {call : PoolCall} (bucket : String) (holds : P call) :
    P (call.deleteBucket bucket) :=
  stable.note _ _ (stable.buckets call _ holds)

theorem postBucket_keeps (attempt : BucketAttempt) (bucket : String) :
    Keeps (postBucket attempt bucket) P := by
  apply Keeps.bind (Keeps.ofExcept attempt.organization)
  intro _
  apply Keeps.bind
  · apply Keeps.modify
    intro call holds
    split
    · exact stable.createBucket bucket holds
    · exact holds
  · intro _
    exact Keeps.bind (Keeps.ofExcept _) fun _ => Keeps.pure _

theorem attemptBucket_keeps (attempt : BucketAttempt) (bucket : String) :
    Keeps (attemptBucket attempt bucket) P := by
  apply Keeps.tryCatch
  · apply Keeps.bind (Keeps.ofExcept attempt.existing)
    intro _
    apply Keeps.get_bind
    intro call _
    split
    · exact Keeps.pure _
    · exact stable.postBucket_keeps attempt bucket
  · intro stop
    split
    · exact Keeps.pure _
    · exact Keeps.throw _

theorem ensureBucket_keeps (attempts : Nat → BucketAttempt) (bucket : String) (turns : Nat) :
    Keeps (ensureBucket attempts bucket turns) P := by
  induction turns with
  | zero => exact Keeps.throw _
  | succ turns ih =>
      apply Keeps.bind (stable.attemptBucket_keeps (attempts turns) bucket)
      intro answer
      cases answer with
      | some created => exact Keeps.pure _
      | none => exact ih

theorem recordCreated_keeps (answer : Answer Unit) (bucket : String) :
    Keeps (recordCreated answer bucket) P := by
  apply Keeps.bind (Keeps.ofExcept answer)
  intro _
  apply Keeps.modify
  intro call holds
  apply stable.withCreated (call.mapWorkspace (·.recordCreated bucket call.pool.record.id))
  unfold PoolCall.mapWorkspace Workspace.recordCreated
  dsimp only
  split
  · exact holds
  · exact stable.registry call _ holds

theorem deleteBucket_keeps (script : BucketDeletion) (bucket : String) :
    Keeps (deleteBucket script bucket) P := by
  apply Keeps.bind (Keeps.ofExcept script.lookup)
  intro _
  apply Keeps.get_bind
  intro call _
  split
  · apply Keeps.bind
    · apply Keeps.modify
      intro call holds
      split
      · exact stable.deletion bucket holds
      · exact holds
    · intro _
      exact Keeps.ofExcept _
  · exact Keeps.pure _

theorem deletePending_keeps (script : BucketDeletion) (bucket : String) :
    Keeps (deletePending script bucket) P := by
  apply Keeps.bind (caught_keeps (stable.deleteBucket_keeps script bucket))
  intro failed
  cases failed with
  | some text => exact Keeps.pure _
  | none =>
      apply Keeps.bind (Keeps.ofExcept script.forget)
      intro _
      exact Keeps.bind (Keeps.modify fun call holds => stable.registry call _ holds)
        fun _ => Keeps.pure _

theorem deleteAll_keeps (script : String → BucketDeletion) (buckets : List String) :
    Keeps (deleteAll script buckets) P := by
  induction buckets with
  | nil => exact Keeps.pure _
  | cons bucket rest ih =>
      apply Keeps.bind (stable.deletePending_keeps (script bucket) bucket)
      intro failed
      exact Keeps.bind ih fun _ => Keeps.pure _

theorem deleteProvisionCreatedBuckets_keeps (script : String → BucketDeletion) :
    Keeps (deleteProvisionCreatedBuckets script) P := by
  apply Keeps.get_bind
  intro call _
  apply Keeps.bind (stable.deleteAll_keeps script _)
  intro failed
  apply Keeps.bind (Keeps.modify fun call holds => stable.withCreated call _ holds)
  intro _
  split
  · exact Keeps.pure _
  · exact Keeps.throw _

/-! ## Stages -/

theorem ensureObservability_keeps (script : StageScript) (workers : List RuntimeIdentity) :
    Keeps (ensureObservability script workers) P := by
  induction workers with
  | nil => exact Keeps.pure _
  | cons worker rest ih =>
      apply Keeps.bind _ fun _ => ih
      apply Keeps.bind (Keeps.ofExcept _)
      intro _
      apply Keeps.bind (Keeps.ofExcept _)
      intro _
      apply Keeps.bind (stable.ensureBucket_keeps _ worker.bucket bucketRetries)
      intro created
      apply Keeps.bind _ fun _ => Keeps.ofExcept _
      cases created with
      | true => exact stable.recordCreated_keeps _ worker.bucket
      | false => exact Keeps.pure _

theorem stageOperation_keeps (script : StageScript) (stage : SetupStage) :
    Keeps (stageOperation script stage) P := by
  cases stage with
  | deploy =>
      apply Keeps.bind (Keeps.ofExcept script.subnets)
      intro subnets
      apply Keeps.bind (stable.mapRecord_keeps (.staged (.withSubnets subnets)))
      intro _
      apply Keeps.get_bind
      intro call _
      apply Keeps.bind (Keeps.ofExcept _)
      intro _
      apply Keeps.bind (Keeps.modify fun call holds =>
        stable.note _ _ (stable.mapRecord call _ (.staged .deploying) holds))
      intro _
      exact Keeps.ofExcept _
  | observability => exact Keeps.get_bind fun call _ => stable.ensureObservability_keeps script _
  | pingmesh => exact Keeps.get_bind fun call _ => Keeps.ofExcept _
  | warm => exact Keeps.get_bind fun call _ => Keeps.ofExcept _

theorem recorded : Recorded P :=
  ⟨fun call f update => stable.mapRecord call f (.staged update), stable.write⟩

theorem runStage_keeps (script : StageScript) (stage : SetupStage) :
    Keeps (runStage script stage) P :=
  stable.recorded.runStage_keeps script stage (stable.stageOperation_keeps script stage)

theorem markQuarantined_keeps (reason : String) (workers : Option (List String))
    (answer : Answer Unit) : Keeps (markQuarantined reason workers answer) P := by
  apply Meets.get_bind
  intro call holds
  dsimp only
  split
  · apply Meets.pure
    rintro _ rfl
    exact holds
  · refine Meets.bind (Q := fun _ => P) ?_ fun _ => stable.writeMetadata_keeps _
    apply Meets.modify
    rintro _ rfl
    exact stable.mapRecord _ (·.quarantine reason workers) (.quarantine reason workers) holds

/-! ## Teardown -/

theorem teardownEach_keeps (labs : RuntimeIdentity → Answer Unit) (workers : List RuntimeIdentity) :
    Keeps (teardownEach labs workers) P := by
  induction workers with
  | nil => exact Keeps.pure _
  | cons worker rest ih =>
      apply Keeps.bind (stable.noting_keeps _)
      intro _
      apply Keeps.bind (caught_keeps (Keeps.ofExcept _))
      intro failed
      exact Keeps.bind ih fun _ => Keeps.pure _

theorem teardownWorkers_keeps (labs : RuntimeIdentity → Answer Unit) :
    Keeps (teardownWorkers labs) P := by
  apply Keeps.get_bind
  intro call _
  apply Keeps.bind (stable.teardownEach_keeps labs _)
  intro failures
  split
  · exact stable.noting_keeps _
  · exact Keeps.throw _

omit stable in
theorem activeForRuntime_keeps (answer : Answer Unit) : Keeps (activeForRuntime answer) P :=
  Keeps.bind (Keeps.ofExcept answer) fun _ => Keeps.get_bind fun _ _ => Keeps.pure _

theorem labsFailed_keeps (script : PoolTeardownScript) (stop : RuntimeStop) :
    Keeps (labsFailed script stop) P := by
  cases stop with
  | lifecycle result =>
      apply Keeps.bind
      · apply Keeps.modify
        intro call holds
        exact stable.mapRecord (call.mapRecord (·.withResult result)) _ (.cleanupFailed _)
          (stable.mapRecord call _ (.staged (.withResult result)) holds)
      intro _
      apply Keeps.bind (activeForRuntime_keeps _)
      intro pending
      exact Keeps.bind (stable.mapRecord_keeps (.withPending _)) fun _ =>
        Keeps.bind (stable.writeMetadata_keeps _) fun _ => Keeps.throw _
  | raised family text => exact Keeps.throw _
  | interrupted => exact Keeps.throw _
  | killed => exact Keeps.throw _

theorem bucketsFailed_keeps (script : PoolTeardownScript) (stop : RuntimeStop) :
    Keeps (bucketsFailed script stop) P := by
  unfold bucketsFailed
  split
  · rename_i text _
    exact Keeps.bind (Keeps.modify fun call holds => stable.cleanupFailed_keeps text holds)
      fun _ => Keeps.bind (stable.writeMetadata_keeps _) fun _ => Keeps.throw _
  · exact Keeps.throw _

omit stable in
theorem pendingBuckets_keeps (answer : Answer Unit) : Keeps (pendingBuckets answer) P := by
  apply Keeps.get_bind
  intro call _
  split
  · split
    · exact Keeps.pure _
    · exact activeForRuntime_keeps answer
  · exact activeForRuntime_keeps answer

theorem cleanResources_keeps (script : PoolTeardownScript) : Keeps (cleanResources script) P := by
  apply Keeps.bind (Keeps.tryCatch (lifecycleRun_keeps (stable.teardownWorkers_keeps script.labs))
    (stable.labsFailed_keeps script))
  intro _
  apply Keeps.bind (pendingBuckets_keeps script.active)
  intro pending
  apply Keeps.bind (Keeps.modify fun call holds => stable.withCreated call _ holds)
  intro _
  apply Keeps.bind (Keeps.tryCatch (stable.deleteProvisionCreatedBuckets_keeps script.deletions)
    (stable.bucketsFailed_keeps script))
  intro _
  exact stable.mapRecord_keeps (.withPending none)

theorem removeDirectory {call : PoolCall} (removal : Removal) (event : Nat → RuntimeEvent)
    (holds : P call) : P (call.removeDirectory removal event) := by
  unfold PoolCall.removeDirectory
  dsimp only
  split
  · exact stable.note _ _ (stable.removed call removal holds)
  · exact stable.removed call removal holds

theorem removeRootDir_keeps (script : PoolTeardownScript) : Keeps (removeRootDir script) P := by
  apply Keeps.bind (Keeps.modify fun call holds => stable.removeDirectory script.removal _ holds)
  intro _
  apply Keeps.bind (Keeps.ofExcept _)
  intro _
  apply Keeps.get_bind
  intro call _
  split
  · exact Keeps.bind (stable.mapRecord_keeps (.cleanupFailed _)) fun _ =>
      Keeps.bind (stable.writeMetadata_keeps _) fun _ => Keeps.throw _
  · exact Keeps.modify fun call holds =>
      stable.note _ _ (stable.mapRecord call _ (.staged (.withState .tornDown)) holds)

theorem teardown_keeps (script : PoolTeardownScript) : Keeps (teardown script) P := by
  apply Keeps.get_bind
  intro call _
  split
  · exact Keeps.pure _
  · apply Keeps.bind _ fun _ => stable.removeRootDir_keeps script
    unfold cleanIfNeeded
    split
    · exact stable.cleanResources_keeps script
    · exact Keeps.pure _

/-! ## Provisioning -/

theorem compensationFailed_keeps {α : Type} (script : PoolTeardownScript) (error : String)
    (stop : RuntimeStop) : Keeps (compensationFailed (α := α) script error stop) P := by
  unfold compensationFailed
  split
  · rename_i text _
    exact Keeps.bind (Keeps.modify fun call holds => stable.cleanupFailed_keeps text holds)
      fun _ => Keeps.bind (stable.writeMetadata_keeps _) fun _ => Keeps.throw _
  · exact Keeps.throw _

theorem discardRootDir_keeps (script : PoolTeardownScript) (error : String) :
    Keeps (discardRootDir script error) P := by
  apply Keeps.bind (Keeps.modify fun call holds => stable.removeDirectory script.removal _ holds)
  intro _
  apply Keeps.bind (caught_keeps (Keeps.ofExcept _))
  intro _
  apply Keeps.get_bind
  intro call _
  split
  · exact Keeps.bind (stable.mapRecord_keeps (.cleanupFailed _)) fun _ =>
      Keeps.bind (caught_keeps (stable.writeMetadata_keeps _)) fun _ => Keeps.throw _
  · exact Keeps.pure _

theorem compensate_keeps (script : PoolTeardownScript) (stop : RuntimeStop) :
    Keeps (compensate script stop) P := by
  unfold compensate
  split
  · rename_i error _
    apply Keeps.get_bind
    intro call _
    apply Keeps.bind
    · apply Keeps.tryCatch _ (stable.compensationFailed_keeps script error)
      split
      · exact stable.teardownWorkers_keeps script.labs
      · exact Keeps.pure _
    intro _
    apply Keeps.bind (Keeps.tryCatch (stable.deleteProvisionCreatedBuckets_keeps script.deletions)
      (stable.compensationFailed_keeps script error))
    intro _
    exact Keeps.bind (stable.discardRootDir_keeps script error) fun _ => Keeps.throw _
  · exact Keeps.throw _

theorem provisionPool_keeps (script : ProvisionScript) : Keeps (provisionPool script) P := by
  apply Keeps.bind
  · apply Keeps.tryCatch _ (stable.compensate_keeps script.cleanup)
    exact Keeps.bind (stable.runStage_keeps _ _) fun _ => Keeps.bind (stable.runStage_keeps _ _)
      fun _ => Keeps.bind (stable.runStage_keeps _ _) fun _ => stable.runStage_keeps _ _
  · intro _
    exact Keeps.bind (stable.mapRecord_keeps .provisioned) fun _ => stable.writeMetadata_keeps _

end Stable

end NetOpsBench
