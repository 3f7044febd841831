import NetOpsBench.Runtime.Effects

/-!
# Who keeps track of a created bucket

The observability stage creates the buckets of a runtime and records them in the manifest; the
compensation of `provision` and `teardown` delete what is recorded. `Custody` says that every
bucket that the runtime has created, and that still exists, is in the manifest under its id and in
each list of pending deletions. This module is about the stages.
-/

namespace NetOpsBench

open Program

/-- A use of a runtime. -/
inductive RuntimeUse : Type where
  | stage (stage : SetupStage) (script : StageScript)
  /-- The compensation of `provision`, after what has stopped it. -/
  | compensate (script : PoolTeardownScript) (stop : RuntimeStop)
  | teardown (script : PoolTeardownScript)
  /-- From here on a new handle is used. -/
  | attach (process : Nat) (answer : Answer Unit)

def RuntimeUse.attaches : RuntimeUse → Bool
  | stage .. => false
  | compensate .. => false
  | teardown _ => false
  | attach .. => true

namespace PoolCall

/-- `attach`; when it raises, the handle stays. -/
def reattach (process : Nat) (answer : Answer Unit) (call : PoolCall) : Answer Unit × PoolCall :=
  match outcome (attach process call.pool.rootDir answer) call.workspace with
  | (.ok pool, workspace) => (.ok (), { pool, workspace })
  | (.error stop, workspace) => (.error stop, { call with workspace })

def use (call : PoolCall) : RuntimeUse → Answer Unit × PoolCall
  | .stage stage script => outcome (runStage script stage) call
  | .compensate script stop => outcome (NetOpsBench.compensate script stop) call
  | .teardown script => outcome (NetOpsBench.teardown script) call
  | .attach process answer => call.reattach process answer

def uses (call : PoolCall) (uses : List RuntimeUse) : PoolCall :=
  uses.foldl (fun call use => (call.use use).2) call

/-- The runtime has created the bucket since the start, and it still exists. -/
def Leftover (start call : PoolCall) (bucket : String) : Prop :=
  .bucketCreated start.pool.record.runtime bucket ∈
      call.workspace.history.drop start.workspace.history.length ∧
    bucket ∈ call.workspace.buckets

end PoolCall

/-- No cleanup of the runtime is unfinished. -/
structure RuntimeRecord.Unpending (start record : RuntimeRecord) : Prop where
  runtime : record.runtime = start.runtime
  id : record.id = start.id
  pending : record.metadata.cleanupPendingBuckets = none

/-- An unfinished cleanup of the runtime has all of these buckets to delete. -/
structure RuntimeRecord.Lists (start : RuntimeRecord) (buckets : String → Prop)
    (record : RuntimeRecord) : Prop where
  runtime : record.runtime = start.runtime
  id : record.id = start.id
  pending : ∀ pending, record.metadata.cleanupPendingBuckets = some pending →
    ∀ bucket, buckets bucket → bucket ∈ pending

/-- Every bucket that is left over is recorded. The handle itself lists them when it is the one
that has run the stages. -/
structure PoolCall.Custody (start : PoolCall) (own : Bool) (call : PoolCall) : Prop where
  longer : start.workspace.history.length ≤ call.workspace.history.length
  pool : start.pool.record.Lists (start.Leftover call) call.pool.record
  directory : ∀ record, call.workspace.directories call.pool.rootDir = .holding record →
    start.pool.record.Lists (start.Leftover call) record
  registered : ∀ bucket, start.Leftover call bucket →
    call.workspace.registry.get bucket = some start.pool.record.id
  held : own = true → ∀ bucket, start.Leftover call bucket →
    bucket ∈ call.pool.provisionCreatedBuckets

/-- In the observability stage: every bucket that is left over is recorded, but for those that are
`unrecorded` yet, and no cleanup is unfinished. -/
structure PoolCall.Collecting (start : PoolCall) (own : Bool) (names : List String)
    (unrecorded : String → Prop) (call : PoolCall) : Prop where
  longer : start.workspace.history.length ≤ call.workspace.history.length
  pool : start.pool.record.Unpending call.pool.record
  directory : ∀ record, call.workspace.directories call.pool.rootDir = .holding record →
    start.pool.record.Unpending record
  workers : call.pool.record.workers.map (·.bucket) = names
  free : ∀ bucket ∈ names, ∀ owner, call.workspace.registry.get bucket = some owner →
    owner = start.pool.record.id
  registered : ∀ bucket, start.Leftover call bucket → ¬ unrecorded bucket →
    call.workspace.registry.get bucket = some start.pool.record.id
  held : own = true → ∀ bucket, start.Leftover call bucket → ¬ unrecorded bucket →
    bucket ∈ call.pool.provisionCreatedBuckets

namespace RuntimeRecord

variable {start record : RuntimeRecord} {buckets : String → Prop}
  {f : RuntimeRecord → RuntimeRecord}

/-- A stage keeps the identity of the runtime, its buckets and its unfinished cleanup. -/
theorem StageUpdate.frame (update : StageUpdate f) (record : RuntimeRecord) :
    (f record).runtime = record.runtime ∧ (f record).id = record.id ∧
      (f record).metadata.cleanupPendingBuckets = record.metadata.cleanupPendingBuckets ∧
      (f record).workers.map (·.bucket) = record.workers.map (·.bucket) := by
  cases update with
  | withResult result => exact ⟨rfl, rfl, rfl, rfl⟩
  | withState state => exact ⟨rfl, rfl, rfl, rfl⟩
  | withBackend backend => exact ⟨rfl, rfl, rfl, rfl⟩
  | withSubnets subnets => exact ⟨rfl, rfl, rfl, workers_withSubnets record subnets⟩
  | deploying => exact ⟨rfl, rfl, rfl, rfl⟩

theorem Unpending.update (unpending : start.Unpending record) (update : StageUpdate f) :
    start.Unpending (f record) := by
  rcases update.frame record with ⟨runtime, id, pending, -⟩
  exact ⟨runtime.trans unpending.runtime, id.trans unpending.id, pending.trans unpending.pending⟩

theorem Unpending.lists (unpending : start.Unpending record) (buckets : String → Prop) :
    start.Lists buckets record := by
  refine ⟨unpending.runtime, unpending.id, fun pending recorded => ?_⟩
  rw [unpending.pending] at recorded
  cases recorded

theorem Lists.update (lists : start.Lists buckets record) (update : StageUpdate f) :
    start.Lists buckets (f record) := by
  rcases update.frame record with ⟨runtime, id, pending, -⟩
  refine ⟨runtime.trans lists.runtime, id.trans lists.id, fun found recorded => ?_⟩
  rw [pending] at recorded
  exact lists.pending found recorded

theorem Lists.mono {fewer : String → Prop} (lists : start.Lists buckets record)
    (within : ∀ bucket, fewer bucket → buckets bucket) : start.Lists fewer record :=
  ⟨lists.runtime, lists.id, fun pending recorded bucket left =>
    lists.pending pending recorded bucket (within bucket left)⟩

end RuntimeRecord

namespace PoolCall

variable {start call : PoolCall} {own : Bool} {names : List String} {bucket : String}
  {unrecorded : String → Prop}

/-! ## Left over buckets -/

/-- An event that creates no bucket leaves none over. -/
theorem leftover_note {event : Nat → RuntimeEvent}
    (longer : start.workspace.history.length ≤ call.workspace.history.length)
    (idle : ∀ runtime other bucket, event runtime ≠ .bucketCreated other bucket) :
    start.Leftover (call.note event) bucket ↔ start.Leftover call bucket := by
  unfold Leftover note mapWorkspace Workspace.note
  dsimp only
  rw [List.drop_append_of_le_length longer, List.mem_append]
  constructor
  · rintro ⟨earlier | last, present⟩
    · exact ⟨earlier, present⟩
    · exact absurd (List.mem_singleton.mp last).symm (idle _ _ _)
  · rintro ⟨earlier, present⟩
    exact ⟨.inl earlier, present⟩

theorem leftover_createBucket {other : String}
    (longer : start.workspace.history.length ≤ call.workspace.history.length)
    (left : start.Leftover (call.createBucket bucket) other) :
    start.Leftover call other ∨ other = bucket := by
  unfold Leftover createBucket note mapWorkspace Workspace.note at left
  dsimp only at left
  rcases left with ⟨created, present⟩
  rcases List.mem_append.mp present with earlier | last
  · rw [List.drop_append_of_le_length longer, List.mem_append] at created
    rcases created with before | now
    · exact .inl ⟨before, earlier⟩
    · have same := List.mem_singleton.mp now
      injection same with _ same
      exact .inr same
  · exact .inr (List.mem_singleton.mp last)

theorem leftover_deleteBucket {other : String}
    (longer : start.workspace.history.length ≤ call.workspace.history.length)
    (left : start.Leftover (call.deleteBucket bucket) other) :
    start.Leftover call other ∧ other ≠ bucket := by
  have noted : start.Leftover ((call.mapWorkspace fun workspace =>
      { workspace with buckets := workspace.buckets.filter (· ≠ bucket) }).note
        (.bucketDeleted · bucket)) other := left
  have shrunk := (leftover_note (by exact longer) fun _ _ _ => RuntimeEvent.noConfusion).mp noted
  rcases shrunk with ⟨created, present⟩
  rcases List.mem_filter.mp present with ⟨present, differs⟩
  exact ⟨⟨created, present⟩, of_decide_eq_true differs⟩

/-! ## Stages -/

namespace Collecting

variable (collecting : start.Collecting own names unrecorded call)
include collecting

theorem mono {unrecorded' : String → Prop}
    (within : ∀ bucket, unrecorded bucket → unrecorded' bucket) :
    start.Collecting own names unrecorded' call :=
  { collecting with
    registered := fun bucket left recorded =>
      collecting.registered bucket left fun was => recorded (within bucket was)
    held := fun mine bucket left recorded =>
      collecting.held mine bucket left fun was => recorded (within bucket was) }

/-- Outside of the stage. -/
theorem custody (all : ∀ bucket, ¬ unrecorded bucket) : start.Custody own call where
  longer := collecting.longer
  pool := collecting.pool.lists _
  directory := fun record found => (collecting.directory record found).lists _
  registered := fun bucket left => collecting.registered bucket left (all bucket)
  held := fun mine bucket left => collecting.held mine bucket left (all bucket)

theorem createBucket (bucket : String) :
    start.Collecting own names (fun other => unrecorded other ∨ other = bucket)
      (call.createBucket bucket) where
  longer := by
    refine collecting.longer.trans ?_
    change _ ≤ (call.workspace.history ++ [_]).length
    rw [List.length_append]
    omega
  pool := collecting.pool
  directory := collecting.directory
  workers := collecting.workers
  free := collecting.free
  registered := by
    intro other left recorded
    rcases leftover_createBucket collecting.longer left with before | same
    · exact collecting.registered other before fun was => recorded (.inl was)
    · exact absurd (.inr same) recorded
  held := by
    intro mine other left recorded
    rcases leftover_createBucket collecting.longer left with before | same
    · exact collecting.held mine other before fun was => recorded (.inl was)
    · exact absurd (.inr same) recorded

/-- The record of a created bucket. -/
theorem recordCreated (mem : bucket ∈ names) (only : ∀ other, unrecorded other → other = bucket) :
    start.Collecting own names (fun _ => False)
      ((call.mapWorkspace (·.recordCreated bucket call.pool.record.id)).withCreated
        (call.pool.provisionCreatedBuckets ++ [bucket])) := by
  have entries : ∀ other, (call.workspace.recordCreated bucket call.pool.record.id).registry.get
      other = if other = bucket then some start.pool.record.id
        else call.workspace.registry.get other := by
    intro other
    unfold Workspace.recordCreated
    split
    · rename_i owner found
      split
      · rename_i same
        rw [same, found, collecting.free bucket mem owner found]
      · rfl
    · dsimp only
      rw [Dict.get_set, collecting.pool.id]
  have frame : (call.workspace.recordCreated bucket call.pool.record.id).history =
      call.workspace.history ∧
      (call.workspace.recordCreated bucket call.pool.record.id).buckets = call.workspace.buckets ∧
      (call.workspace.recordCreated bucket call.pool.record.id).directories =
        call.workspace.directories := by
    unfold Workspace.recordCreated
    split
    · exact ⟨rfl, rfl, rfl⟩
    · exact ⟨rfl, rfl, rfl⟩
  rcases frame with ⟨history, buckets, directories⟩
  have same : ∀ other, start.Leftover ((call.mapWorkspace
      (·.recordCreated bucket call.pool.record.id)).withCreated
        (call.pool.provisionCreatedBuckets ++ [bucket])) other → start.Leftover call other := by
    intro other left
    unfold Leftover withCreated mapWorkspace at left
    dsimp only at left
    rw [history, buckets] at left
    exact left
  refine ⟨?_, collecting.pool, ?_, collecting.workers, ?_, ?_, ?_⟩
  · change _ ≤ (call.workspace.recordCreated bucket call.pool.record.id).history.length
    rw [history]
    exact collecting.longer
  · intro record found
    change (call.workspace.recordCreated bucket call.pool.record.id).directories _ = _ at found
    rw [directories] at found
    exact collecting.directory record found
  · intro other listed owner found
    change (call.workspace.recordCreated bucket call.pool.record.id).registry.get other = _ at found
    rw [entries] at found
    split at found
    · exact (Option.some.inj found).symm
    · exact collecting.free other listed owner found
  · intro other left _
    change (call.workspace.recordCreated bucket call.pool.record.id).registry.get other = _
    rw [entries]
    split
    · rfl
    · rename_i differs
      exact collecting.registered other (same other left) fun was => differs (only other was)
  · intro mine other left _
    by_cases differs : other = bucket
    · rw [differs]
      exact List.mem_append_right _ (List.mem_singleton_self _)
    · exact List.mem_append_left _ (collecting.held mine other (same other left) fun was =>
        differs (only other was))

end Collecting

theorem recorded_collecting : Recorded (start.Collecting own names unrecorded) where
  mapRecord := by
    intro call f update collecting
    rcases update.frame call.pool.record with ⟨-, -, -, workers⟩
    exact { collecting with
      pool := collecting.pool.update update
      workers := workers.trans collecting.workers }
  write := by
    intro call collecting
    refine { collecting with directory := fun record found => ?_ }
    unfold write mapWorkspace Workspace.place at found
    dsimp only at found
    rw [if_pos rfl] at found
    cases found
    exact collecting.pool

/-- No request that creates a bucket is lost, and what is created is recorded. -/
structure Prompt (script : ObservabilityScript) : Prop where
  answered : ∀ turn stop, (script.attempts turn).post ≠ .lost stop
  recorded : script.recordCreated = .ok ()

theorem postBucket_collects {attempt : BucketAttempt}
    (answered : ∀ stop, attempt.post ≠ .lost stop) (bucket : String) :
    Meets (postBucket attempt bucket) (start.Collecting own names fun _ => False)
      (fun answer => start.Collecting own names fun other => answer = some true ∧ other = bucket)
      fun _ => start.Collecting own names fun _ => False := by
  refine Meets.bind (Keeps.ofExcept attempt.organization) fun _ => ?_
  cases post : attempt.post with
  | lost stop => exact absurd post (answered stop)
  | refused stop =>
      refine Meets.bind (Q := fun _ => start.Collecting own names fun _ => False) ?_ fun _ => ?_
      · exact Meets.modify fun call collecting => collecting
      · exact Meets.throw fun call collecting => collecting
  | done =>
      refine Meets.bind (Q := fun _ => start.Collecting own names fun other => other = bucket) ?_
        fun _ => Meets.pure fun call collecting => ?_
      · apply Meets.modify
        intro call collecting
        exact (collecting.createBucket bucket).mono fun _ was => was.resolve_left id
      · exact collecting.mono fun _ same => ⟨rfl, same⟩

theorem ensureBucket_collects {attempts : Nat → BucketAttempt}
    (answered : ∀ turn stop, (attempts turn).post ≠ .lost stop) (bucket : String) (turns : Nat) :
    Meets (ensureBucket attempts bucket turns) (start.Collecting own names fun _ => False)
      (fun created => start.Collecting own names fun other => created = true ∧ other = bucket)
      fun _ => start.Collecting own names fun _ => False := by
  induction turns with
  | zero => exact Meets.throw fun _ collecting => collecting
  | succ turns ih =>
      have attempted : Meets (attemptBucket (attempts turns) bucket)
          (start.Collecting own names fun _ => False)
          (fun answer => start.Collecting own names fun other =>
            answer = some true ∧ other = bucket)
          fun _ => start.Collecting own names fun _ => False := by
        refine Meets.tryCatch (R := fun _ => start.Collecting own names fun _ => False) ?_
          fun stop => ?_
        · refine Meets.bind (Keeps.ofExcept _) fun _ => Meets.read_bind fun call _ => ?_
          split
          · exact Meets.pure fun _ collecting => collecting.mono fun _ never => never.elim
          · exact postBucket_collects (answered turns) bucket
        · split
          · exact Meets.pure fun _ collecting => collecting.mono fun _ never => never.elim
          · exact Meets.throw fun _ collecting => collecting
      refine Meets.bind attempted fun answer => ?_
      cases answer with
      | some created =>
          apply Meets.pure
          intro call collecting
          exact collecting.mono fun _ was => ⟨Option.some.inj was.1, was.2⟩
      | none =>
          refine Meets.mono ih (fun call collecting => ?_) (fun _ _ ended => ended)
            fun _ _ ended => ended
          exact collecting.mono fun _ was => (Option.some_ne_none true was.1.symm).elim

theorem ensureObservability_collects (script : StageScript) (workers : List RuntimeIdentity)
    (prompt : ∀ worker ∈ workers, Prompt (script.observability worker))
    (within : ∀ worker ∈ workers, worker.bucket ∈ names) :
    Keeps (ensureObservability script workers) (start.Collecting own names fun _ => False) := by
  induction workers with
  | nil => exact Keeps.pure _
  | cons worker rest ih =>
      have prompted := prompt worker List.mem_cons_self
      refine Keeps.bind ?_ fun _ => ih (fun other mem => prompt other (List.mem_cons_of_mem _ mem))
        fun other mem => within other (List.mem_cons_of_mem _ mem)
      refine Keeps.bind (Keeps.ofExcept _) fun _ => Keeps.bind (Keeps.ofExcept _) fun _ => ?_
      refine Meets.bind (ensureBucket_collects prompted.answered worker.bucket bucketRetries)
        fun created => ?_
      refine Meets.bind (Q := fun _ => start.Collecting own names fun _ => False) ?_ fun _ =>
        Keeps.ofExcept _
      cases created with
      | false =>
          exact Meets.pure fun _ collecting => collecting.mono fun _ was => Bool.noConfusion was.1
      | true =>
          change Meets (NetOpsBench.recordCreated _ worker.bucket) _ _ _
          unfold NetOpsBench.recordCreated
          rw [prompted.recorded]
          apply Meets.modify
          intro call collecting
          exact collecting.recordCreated (within worker List.mem_cons_self) fun _ was => was.2

end PoolCall

end NetOpsBench
