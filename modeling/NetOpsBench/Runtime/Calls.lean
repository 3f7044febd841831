import NetOpsBench.Runtime.Soundness

/-!
# What every call keeps

One lemma for each stage and each operation on buckets: from a sound workspace it leaves a sound
one, however it ends. `Frozen` describes a part of a call in which the record of the handle stays.
-/

namespace NetOpsBench

open Program

variable {tables : CharacterTables} {rule : List RuntimeEvent → RuntimeEvent → Prop}
  {history before after : List RuntimeEvent} {id bucket : String} {record : RuntimeRecord}
  {created : List String} {runtime : Nat} {P Q R : PoolCall → Prop}

/-! ## Records -/

/-- A deployment changes the subnets of the workers, not their buckets. -/
theorem RuntimeRecord.workers_withSubnets (record : RuntimeRecord) (subnets : List String) :
    (record.withSubnets subnets).workers.map (·.bucket) = record.workers.map (·.bucket) := by
  unfold RuntimeRecord.withSubnets
  rw [List.map_map]
  have pointwise : ((·.bucket) ∘ fun entry : RuntimeIdentity × Nat =>
      ({ entry.1 with mgmtSubnet := (subnets[entry.2]?).getD entry.1.mgmtSubnet } :
        RuntimeIdentity)) = (·.bucket) ∘ Prod.fst := rfl
  rw [pointwise, ← List.map_map, List.zipIdx_map_fst]

namespace Registered

variable (registered : Registered history record created)
include registered

theorem withResult (result : StageResult) :
    Registered history (record.withResult result) created := { registered with }

theorem withState (state : PoolState) : Registered history (record.withState state) created :=
  { registered with }

theorem withBackend (backend : RuntimeBackend) :
    Registered history (record.withBackend backend) created := { registered with }

theorem cleanupFailed (error : String) :
    Registered history (record.cleanupFailed error) created := { registered with }

theorem quarantine (reason : String) (workers : Option (List String)) :
    Registered history (record.quarantine reason workers) created := { registered with }

theorem withPending {pending : Option (List String)}
    (owned : ∀ buckets, pending = some buckets → ∀ bucket ∈ buckets,
      Owned history record.id bucket) :
    Registered history (record.withPending pending) created := { registered with pending := owned }

theorem withSubnets (subnets : List String) :
    Registered history (record.withSubnets subnets) created :=
  { registered with
    made := by
      rw [record.workers_withSubnets]
      exact registered.made }

end Registered

theorem mapRecord_keeps {f : RuntimeRecord → RuntimeRecord}
    (keeps : ∀ history record created, Registered history record created →
      Registered history (f record) created) :
    Keeps (mapRecord f) (PoolCall.Sound tables rule) :=
  Keeps.modify fun _ sound => sound.mapRecord (keeps _ _ _ sound.pool)

theorem writeMetadata_keeps (answer : Answer Unit) :
    Keeps (writeMetadata answer) (PoolCall.Sound tables rule) :=
  Keeps.bind (Keeps.ofExcept answer) fun _ => Keeps.modify fun _ sound => sound.write

/-! ## Caught exceptions -/

theorem caught_meets {program : PoolProgram Unit}
    (body : Meets program P (fun _ => Q) fun _ => R) :
    Meets (caught program) P
      (fun error call => (error = none → Q call) ∧ (error ≠ none → R call)) fun _ => R := by
  refine Meets.tryCatch (Meets.bind body fun _ => Meets.pure fun _ holds => ?_) fun stop => ?_
  · exact ⟨fun _ => holds, fun differs => absurd rfl differs⟩
  · cases stop.exception with
    | some text => exact Meets.pure fun _ holds => ⟨(nomatch ·), fun _ => holds⟩
    | none => exact Meets.throw fun _ holds => holds

theorem caught_keeps {program : PoolProgram Unit} (body : Keeps program P) :
    Keeps (caught program) P := by
  refine Meets.mono (caught_meets body) (fun _ holds => holds) ?_ fun _ _ holds => holds
  intro error call ended
  cases error with
  | none => exact ended.1 rfl
  | some text => exact ended.2 (by simp)

theorem lifecycleRun_meets {stage : RuntimeStage} {operation : PoolProgram Unit}
    (body : Meets operation P (fun _ => Q) fun _ => R) :
    Meets (lifecycleRun stage operation) P (fun _ => Q) fun _ => R := by
  refine Meets.bind (caught_meets body) fun error => ?_
  cases error with
  | none => exact Meets.pure fun _ ended => ended.1 rfl
  | some text => exact Meets.throw fun _ ended => ended.2 (by simp)

/-! ## A part of a call -/

/-- In this part of a call the handle keeps its record, and no deployment begins. -/
structure Frozen (tables : CharacterTables) (rule : List RuntimeEvent → RuntimeEvent → Prop)
    (record : RuntimeRecord) (history : List RuntimeEvent) (call : PoolCall) : Prop where
  sound : call.Sound tables rule
  record : call.pool.record = record
  longer : Extends history call.workspace.history

theorem Frozen.start {call : PoolCall} (sound : call.Sound tables rule) :
    Frozen tables rule call.pool.record call.workspace.history call :=
  ⟨sound, rfl, Extends.refl _⟩

theorem Frozen.owned {call : PoolCall} (frozen : Frozen tables rule record history call)
    (owned : Owned history record.id bucket) :
    Owned call.workspace.history call.pool.record.id bucket := by
  rw [frozen.record]
  exact owned.grow frozen.longer.subset

/-! ## Buckets -/

variable (allows : Allows rule)
include allows

theorem Frozen.createBucket {call : PoolCall} (frozen : Frozen tables rule record history call) :
    Frozen tables rule record history (call.createBucket bucket) :=
  ⟨frozen.sound.createBucket (allows.bucketCreated ..), frozen.record,
    frozen.longer.concat fun _ => RuntimeEvent.noConfusion⟩

theorem postBucket_meets (attempt : BucketAttempt) (bucket : String) :
    Meets (postBucket attempt bucket) (Frozen tables rule record history)
      (fun answer call => Frozen tables rule record history call ∧
        (answer = some true → .bucketCreated record.runtime bucket ∈ call.workspace.history))
      fun _ => Frozen tables rule record history := by
  refine Meets.bind (Keeps.ofExcept attempt.organization) fun _ => ?_
  refine Meets.bind (Q := fun _ call => Frozen tables rule record history call ∧
    (attempt.post.effective = true →
      .bucketCreated record.runtime bucket ∈ call.workspace.history)) ?_ fun _ => ?_
  · apply Meets.modify
    intro call frozen
    split
    · refine ⟨frozen.createBucket allows, fun _ => ?_⟩
      rw [← frozen.record]
      exact List.mem_append_right _ List.mem_cons_self
    · rename_i refused
      exact ⟨frozen, fun effective => absurd effective refused⟩
  · refine Meets.bind (Q := fun _ call => Frozen tables rule record history call ∧
      .bucketCreated record.runtime bucket ∈ call.workspace.history) ?_ fun _ => ?_
    · refine Meets.ofExcept (fun _ answered _ posted => ⟨posted.1, posted.2 ?_⟩)
        fun _ _ _ posted => posted.1
      cases post : attempt.post with
      | done => rfl
      | lost stop => rfl
      | refused stop =>
          rw [post] at answered
          cases answered
    · exact Meets.pure fun _ posted => ⟨posted.1, fun _ => posted.2⟩

theorem attemptBucket_meets (attempt : BucketAttempt) (bucket : String) :
    Meets (attemptBucket attempt bucket) (Frozen tables rule record history)
      (fun answer call => Frozen tables rule record history call ∧
        (answer = some true → .bucketCreated record.runtime bucket ∈ call.workspace.history))
      fun _ => Frozen tables rule record history := by
  refine Meets.tryCatch (R := fun _ => Frozen tables rule record history) ?_ fun stop => ?_
  · refine Meets.bind (Keeps.ofExcept attempt.existing) fun _ => Meets.get_bind fun call frozen => ?_
    split
    · exact Meets.pure fun _ same => ⟨same ▸ frozen, (nomatch ·)⟩
    · refine Meets.mono (postBucket_meets allows attempt bucket) ?_ (fun _ _ ended => ended)
        fun _ _ ended => ended
      rintro _ rfl
      exact frozen
  · split
    · exact Meets.pure fun _ frozen => ⟨frozen, (nomatch ·)⟩
    · exact Meets.throw fun _ frozen => frozen

theorem ensureBucket_meets (attempts : Nat → BucketAttempt) (bucket : String) (turns : Nat) :
    Meets (ensureBucket attempts bucket turns) (Frozen tables rule record history)
      (fun answer call => Frozen tables rule record history call ∧
        (answer = true → .bucketCreated record.runtime bucket ∈ call.workspace.history))
      fun _ => Frozen tables rule record history := by
  induction turns with
  | zero => exact Meets.throw fun _ frozen => frozen
  | succ turns ih =>
      refine Meets.bind (attemptBucket_meets allows (attempts turns) bucket) fun answer => ?_
      cases answer with
      | some created =>
          exact Meets.pure fun _ ended => ⟨ended.1, fun same => ended.2 (congrArg some same)⟩
      | none =>
          exact Meets.mono ih (fun _ ended => ended.1) (fun _ _ ended => ended)
            fun _ _ ended => ended

omit allows in
/-- A bucket that the stage has created for a worker is recorded as its own. -/
theorem recordCreated_meets (answer : Answer Unit)
    (worker : bucket ∈ record.workers.map (·.bucket)) :
    Meets (recordCreated answer bucket)
      (fun call => Frozen tables rule record history call ∧
        .bucketCreated record.runtime bucket ∈ call.workspace.history)
      (fun _ => Frozen tables rule record history) fun _ => Frozen tables rule record history := by
  refine Meets.bind (Meets.ofExcept (fun _ _ _ made => made) fun _ _ _ made => made.1) fun _ => ?_
  apply Meets.modify
  rintro call ⟨frozen, wasCreated⟩
  have owned : Owned call.workspace.history call.pool.record.id bucket := by
    refine ⟨_, _, frozen.sound.pool.made, ?_, ?_⟩
    · rw [frozen.record]
      exact worker
    · rw [frozen.record]
      exact wasCreated
  have grown : (call.workspace.recordCreated bucket call.pool.record.id).history =
      call.workspace.history := by
    unfold Workspace.recordCreated
    split
    · rfl
    · rfl
  refine ⟨⟨frozen.sound.workspace.recordCreated owned, ?_⟩, frozen.record, ?_⟩
  · change Registered (call.workspace.recordCreated bucket call.pool.record.id).history _ _
    rw [grown]
    refine { frozen.sound.pool with owned := fun name mem => ?_ }
    rcases List.mem_append.mp mem with earlier | last
    · exact frozen.sound.pool.owned name earlier
    · rw [List.mem_singleton.mp last]
      exact owned
  · change Extends history (call.workspace.recordCreated bucket call.pool.record.id).history
    rw [grown]
    exact frozen.longer

theorem ensureWorkerObservability_keeps (script : ObservabilityScript) {worker : RuntimeIdentity}
    (mem : worker ∈ record.workers) :
    Keeps (ensureWorkerObservability script worker) (Frozen tables rule record history) := by
  refine Meets.bind (Keeps.ofExcept script.control) fun _ => ?_
  refine Meets.bind (Keeps.ofExcept script.core) fun _ => ?_
  refine Meets.bind (ensureBucket_meets allows script.attempts worker.bucket bucketRetries)
    fun created => ?_
  refine Meets.bind (Q := fun _ => Frozen tables rule record history) ?_ fun _ =>
    Keeps.ofExcept script.services
  cases created with
  | true =>
      exact Meets.mono (recordCreated_meets script.recordCreated (List.mem_map_of_mem mem))
        (fun _ ended => ⟨ended.1, ended.2 rfl⟩) (fun _ _ ended => ended) fun _ _ ended => ended
  | false => exact Meets.pure fun _ ended => ended.1

theorem ensureObservability_keeps (script : StageScript) (workers : List RuntimeIdentity)
    (all : ∀ worker ∈ workers, worker ∈ record.workers) :
    Keeps (ensureObservability script workers) (Frozen tables rule record history) := by
  induction workers with
  | nil => exact Keeps.pure _
  | cons worker rest ih =>
      refine Keeps.bind (ensureWorkerObservability_keeps allows _ (all worker List.mem_cons_self))
        fun _ => ih fun other mem => all other (List.mem_cons_of_mem _ mem)

/-! ## Deletions -/

theorem deleteBucket_keeps (script : BucketDeletion) (owned : Owned history record.id bucket) :
    Keeps (deleteBucket script bucket) (Frozen tables rule record history) := by
  refine Keeps.bind (Keeps.ofExcept script.lookup) fun _ => Meets.get_bind fun call frozen => ?_
  split
  · rename_i present
    refine Meets.bind (Q := fun _ => Frozen tables rule record history) ?_ fun _ =>
      Keeps.ofExcept script.delete.answer
    apply Meets.modify
    rintro _ rfl
    split
    · have allowed := allows.bucketDeleted _ _ _ (frozen.sound.deletable (frozen.owned owned) present)
      exact ⟨frozen.sound.deleteBucket allowed, frozen.record,
        frozen.longer.concat fun _ => RuntimeEvent.noConfusion⟩
    · exact frozen
  · exact Meets.pure fun _ same => same ▸ frozen

theorem deletePending_keeps (script : BucketDeletion) (owned : Owned history record.id bucket) :
    Keeps (deletePending script bucket) (Frozen tables rule record history) := by
  refine Keeps.bind (caught_keeps (deleteBucket_keeps allows script owned)) fun failed => ?_
  cases failed with
  | some text => exact Keeps.pure _
  | none =>
      refine Keeps.bind (Keeps.ofExcept script.forget) fun _ =>
        Keeps.bind (Keeps.modify fun call frozen => ?_) fun _ => Keeps.pure _
      exact ⟨⟨frozen.sound.workspace.markDeleted bucket, frozen.sound.pool⟩, frozen.record,
        frozen.longer⟩

/-- The buckets that stay are some of those that were to be deleted. -/
theorem deleteAll_meets (script : String → BucketDeletion) (buckets : List String)
    (owned : ∀ bucket ∈ buckets, Owned history record.id bucket) :
    Meets (deleteAll script buckets) (Frozen tables rule record history)
      (fun failed call => Frozen tables rule record history call ∧
        ∀ entry ∈ failed, entry.1 ∈ buckets)
      fun _ => Frozen tables rule record history := by
  induction buckets with
  | nil => exact Meets.pure fun _ frozen => ⟨frozen, fun _ mem => absurd mem List.not_mem_nil⟩
  | cons bucket rest ih =>
      refine Meets.bind (deletePending_keeps allows _ (owned bucket List.mem_cons_self))
        fun failed => Meets.bind (ih fun name mem => owned name (List.mem_cons_of_mem _ mem))
          fun later => Meets.pure ?_
      rintro call ⟨frozen, within⟩
      refine ⟨frozen, fun entry mem => ?_⟩
      rcases List.mem_append.mp mem with first | last
      · cases failed with
        | none => exact absurd first List.not_mem_nil
        | some text =>
            rw [List.mem_singleton.mp first]
            exact List.mem_cons_self
      · exact List.mem_cons_of_mem _ (within entry last)

theorem deleteProvisionCreatedBuckets_keeps (script : String → BucketDeletion) :
    Keeps (deleteProvisionCreatedBuckets script) (Frozen tables rule record history) := by
  refine Meets.get_bind fun start frozen => ?_
  -- the buckets are owned where the loop begins, and the part continues from there
  have owned : ∀ bucket ∈ start.pool.provisionCreatedBuckets,
      Owned start.workspace.history record.id bucket := by
    rw [← frozen.record]
    exact frozen.sound.pool.owned
  have begun : ∀ call, call = start →
      Frozen tables rule record start.workspace.history call := by
    rintro _ rfl
    exact ⟨frozen.sound, frozen.record, Extends.refl _⟩
  refine Meets.mono (Q := fun _ => Frozen tables rule record start.workspace.history)
    (R := fun _ => Frozen tables rule record start.workspace.history) ?_ begun ?_ ?_
  · refine Meets.bind (deleteAll_meets allows script _ owned) fun failed => ?_
    refine Meets.bind (Q := fun _ => Frozen tables rule record start.workspace.history) ?_
      fun _ => ?_
    · apply Meets.modify
      rintro call ⟨later, within⟩
      refine ⟨later.sound.withCreated fun name mem => ?_, later.record, later.longer⟩
      rcases List.mem_map.mp mem with ⟨entry, listed, rfl⟩
      exact later.owned (owned entry.1 (within entry listed))
    · split
      · exact Keeps.pure _
      · exact Keeps.throw _
  · exact fun _ call later => ⟨later.sound, later.record, frozen.longer.trans later.longer⟩
  · exact fun _ call later => ⟨later.sound, later.record, frozen.longer.trans later.longer⟩

/-! ## Stages -/

omit allows in
/-- A part of a call whose beginning is any sound call. -/
theorem Keeps.of_frozen {α : Type} {program : PoolProgram α}
    (part : ∀ record history, Keeps program (Frozen tables rule record history)) :
    Keeps program (PoolCall.Sound tables rule) := by
  intro call sound
  exact (Meets.mono (part call.pool.record call.workspace.history) (fun _ holds => holds)
    (fun _ _ frozen => frozen.sound) fun _ _ frozen => frozen.sound) call (Frozen.start sound)

theorem deployOperation_keeps (script : StageScript) :
    Keeps (deployOperation script) (PoolCall.Sound tables rule) := by
  refine Keeps.bind (Keeps.ofExcept script.subnets) fun subnets => ?_
  refine Keeps.bind (mapRecord_keeps fun _ _ _ registered => registered.withSubnets subnets)
    fun _ => Keeps.get_bind fun call _ => ?_
  refine Keeps.bind (Keeps.ofExcept _) fun _ => Keeps.bind (Keeps.modify fun call sound => ?_)
    fun _ => Keeps.ofExcept script.deployWorkers
  have begun := sound.workspace.note (allows.deploying _ call.pool.record.runtime) trivial
  refine ⟨begun, ?_⟩
  have grown := sound.pool.grow (List.subset_append_left call.workspace.history
    [.deploying call.pool.record.runtime])
  exact { grown with started := fun _ => List.mem_append_right _ List.mem_cons_self }

theorem stageOperation_keeps (script : StageScript) (stage : SetupStage) :
    Keeps (stageOperation script stage) (PoolCall.Sound tables rule) := by
  cases stage with
  | deploy => exact deployOperation_keeps allows script
  | observability =>
      refine Keeps.of_frozen fun record history => ?_
      refine Keeps.get_bind fun call frozen => ?_
      rw [frozen.record]
      exact ensureObservability_keeps allows script record.workers fun _ mem => mem
  | pingmesh => exact Keeps.get_bind fun call _ => Keeps.ofExcept _
  | warm => exact Keeps.get_bind fun call _ => Keeps.ofExcept _

omit allows in
theorem checkBackend_keeps (script : StageScript) (backend : RuntimeBackend) :
    Keeps (checkBackend script backend) (PoolCall.Sound tables rule) := by
  refine Keeps.get_bind fun call _ => ?_
  split
  · exact Keeps.bind (mapRecord_keeps fun _ _ _ registered => registered.withBackend backend)
      fun _ => writeMetadata_keeps _
  · split
    · exact Keeps.pure _
    · exact Keeps.throw _

theorem performStage_keeps (script : StageScript) (stage : SetupStage) :
    Keeps (performStage script stage) (PoolCall.Sound tables rule) := by
  have operation : Keeps (do Program.ofExcept script.begin; stageOperation script stage)
      (PoolCall.Sound tables rule) :=
    Keeps.bind (Keeps.ofExcept script.begin) fun _ => stageOperation_keeps allows script stage
  refine Keeps.bind (Keeps.tryCatch (lifecycleRun_meets operation) fun stop => ?_) fun result => ?_
  · cases stop with
    | lifecycle result =>
        exact Keeps.bind (mapRecord_keeps fun _ _ _ registered => registered.withResult result)
          fun _ => Keeps.bind (writeMetadata_keeps _) fun _ => Keeps.throw _
    | raised family text => exact Keeps.throw _
    | interrupted => exact Keeps.throw _
    | killed => exact Keeps.throw _
  · exact Keeps.bind (mapRecord_keeps fun _ _ _ registered =>
      (registered.withResult result).withState stage.nextState) fun _ => writeMetadata_keeps _

theorem runStage_keeps (script : StageScript) (stage : SetupStage) :
    Keeps (runStage script stage) (PoolCall.Sound tables rule) := by
  refine Keeps.bind (Keeps.ofExcept script.control) fun _ =>
    Keeps.bind (Keeps.ofExcept script.backend) fun backend =>
      Keeps.bind (checkBackend_keeps script backend) fun _ => Keeps.get_bind fun call _ => ?_
  split
  · exact Keeps.pure _
  · exact performStage_keeps allows script stage

omit allows in
theorem markQuarantined_keeps (reason : String) (workers : Option (List String))
    (answer : Answer Unit) :
    Keeps (markQuarantined reason workers answer) (PoolCall.Sound tables rule) := by
  refine Meets.get_bind fun call sound => ?_
  dsimp only
  split
  · exact Meets.pure fun _ same => same ▸ sound
  · refine Meets.bind (Q := fun _ => PoolCall.Sound tables rule) ?_ fun _ => writeMetadata_keeps _
    apply Meets.modify
    rintro _ rfl
    exact sound.mapRecord (sound.pool.quarantine reason workers)

end NetOpsBench
