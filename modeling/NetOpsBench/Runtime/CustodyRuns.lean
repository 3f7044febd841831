import NetOpsBench.Runtime.Custody
import NetOpsBench.Runtime.Labs

/-!
# Whether a bucket leaks

A cleanup keeps the custody of the buckets, and a teardown that returns leaves none over
(`buckets_kept`), when every creation is answered, no cleanup is unfinished where the stage begins,
and the teardown sees that the runtime may have buckets. A creation whose reply is lost is taken
for a bucket of another by the next turn of `ensure_bucket`, and its bucket stays for ever
(`bucket_leaked`).
-/

namespace NetOpsBench

open Program

namespace PoolCall

variable {start call : PoolCall} {own : Bool} {bucket : String} {buckets gone : List String}

/-! ## Custody -/

namespace Custody

variable (custody : start.Custody own call)
include custody

theorem weaken (mine : Bool) (was : mine = true → own = true) : start.Custody mine call :=
  { custody with held := fun flag => custody.held (was flag) }

/-- A change of the record that keeps the identity of the runtime and lists all its buckets. -/
theorem mapRecord {f : RuntimeRecord → RuntimeRecord}
    (lists : start.pool.record.Lists (start.Leftover call) (f call.pool.record)) :
    start.Custody own (call.mapRecord f) :=
  { custody with pool := lists }

theorem write : start.Custody own call.write := by
  refine { custody with directory := fun record found => ?_ }
  unfold PoolCall.write mapWorkspace Workspace.place at found
  dsimp only at found
  rw [if_pos rfl] at found
  cases found
  exact custody.pool

theorem note {event : Nat → RuntimeEvent}
    (idle : ∀ runtime other bucket, event runtime ≠ .bucketCreated other bucket) :
    start.Custody own (call.note event) := by
  have same : ∀ bucket, start.Leftover (call.note event) bucket → start.Leftover call bucket :=
    fun bucket => (leftover_note custody.longer idle).mp
  refine ⟨?_, custody.pool.mono same, fun record found =>
    (custody.directory record found).mono same, fun bucket left =>
      custody.registered bucket (same bucket left), fun mine bucket left =>
        custody.held mine bucket (same bucket left)⟩
  refine custody.longer.trans ?_
  change _ ≤ (call.workspace.history ++ [_]).length
  rw [List.length_append]
  omega

/-- The handle takes up the buckets to delete. -/
theorem withCreated (all : ∀ bucket, start.Leftover call bucket → bucket ∈ buckets) :
    start.Custody true (call.withCreated buckets) :=
  { custody with held := fun _ => all }

theorem deleteBucket (bucket : String) : start.Custody own (call.deleteBucket bucket) := by
  have fewer : ∀ other, start.Leftover (call.deleteBucket bucket) other →
      start.Leftover call other := fun other left =>
    (leftover_deleteBucket custody.longer left).1
  refine ⟨?_, custody.pool.mono fewer, fun record found =>
    (custody.directory record found).mono fewer, fun other left =>
      custody.registered other (fewer other left), fun mine other left =>
        custody.held mine other (fewer other left)⟩
  refine custody.longer.trans ?_
  change _ ≤ (call.workspace.history ++ [_]).length
  rw [List.length_append]
  omega

/-- The manifest forgets a bucket that does not exist. -/
theorem markDeleted (absent : bucket ∉ call.workspace.buckets) :
    start.Custody own (call.mapWorkspace (·.markDeleted bucket)) := by
  refine { custody with registered := fun other left => ?_ }
  change (call.workspace.registry.erase bucket).get other = _
  have differs : other ≠ bucket := by
    rintro rfl
    exact absent left.2
  rw [Dict.get_erase, if_neg differs]
  exact custody.registered other left

theorem removeDirectory (removal : Removal) {event : Nat → RuntimeEvent}
    (idle : ∀ runtime other bucket, event runtime ≠ .bucketCreated other bucket) :
    start.Custody own (call.removeDirectory removal event) := by
  have placed : start.Custody own (call.mapWorkspace (·.place call.pool.rootDir
      ((call.workspace.directories call.pool.rootDir).removed removal))) := by
    refine { custody with directory := fun record found => ?_ }
    unfold mapWorkspace Workspace.place at found
    dsimp only at found
    rw [if_pos rfl] at found
    exact custody.directory record (holding_of_removed found)
  unfold PoolCall.removeDirectory
  dsimp only
  split
  · exact placed.note idle
  · exact placed

/-- The manifest lists every bucket that is left over. -/
theorem mem_activeForRuntime (left : start.Leftover call bucket) :
    bucket ∈ call.workspace.activeForRuntime call.pool.record.id := by
  unfold Workspace.activeForRuntime
  rw [Sorting.mem_sorted, List.mem_map]
  refine ⟨(bucket, start.pool.record.id), List.mem_filter.mpr ⟨?_, ?_⟩, rfl⟩
  · exact Dict.mem_entries.mpr (custody.registered bucket left)
  · exact decide_eq_true custody.pool.id.symm

end Custody

theorem recorded_custody : Recorded (start.Custody own) where
  mapRecord := fun _ _ update custody => custody.mapRecord (custody.pool.update update)
  write := fun _ custody => custody.write

theorem mapRecord_custody {f : RuntimeRecord → RuntimeRecord}
    (lists : ∀ record buckets, start.pool.record.Lists buckets record →
      start.pool.record.Lists buckets (f record)) :
    Keeps (NetOpsBench.mapRecord f) (start.Custody own) :=
  Keeps.modify fun _ custody => custody.mapRecord (lists _ _ custody.pool)

/-- A failed cleanup is not a finished one. -/
theorem lists_cleanupFailed (error : String) (record : RuntimeRecord) (buckets : String → Prop)
    (lists : start.pool.record.Lists buckets record) :
    start.pool.record.Lists buckets (record.cleanupFailed error) :=
  ⟨lists.runtime, lists.id, lists.pending⟩

/-! ## Stages -/

/-- Where the observability stage begins: its scripts are prompt, no other runtime has one of its
buckets in the manifest, and no cleanup is unfinished. -/
structure ReadyToObserve (script : StageScript) (call : PoolCall) : Prop where
  prompt : ∀ worker, Prompt (script.observability worker)
  free : ∀ worker ∈ call.pool.record.workers, ∀ owner,
    call.workspace.registry.get worker.bucket = some owner → owner = call.pool.record.id
  finished : call.pool.record.metadata.cleanupPendingBuckets = none
  written : ∀ record, call.workspace.directories call.pool.rootDir = .holding record →
    record.metadata.cleanupPendingBuckets = none

/-- The observability stage, from where it is ready. -/
theorem observe_custody (script : StageScript) (ready : ReadyToObserve script call)
    (custody : start.Custody own call) :
    start.Custody own (outcome (runStage script .observability) call).2 := by
  have collecting : start.Collecting own (call.pool.record.workers.map (·.bucket))
      (fun _ => False) call := by
    refine ⟨custody.longer, ⟨custody.pool.runtime, custody.pool.id, ready.finished⟩,
      fun record found => ?_, rfl, fun bucket mem owner found => ?_,
      fun bucket left _ => custody.registered bucket left,
      fun mine bucket left _ => custody.held mine bucket left⟩
    · have lists := custody.directory record found
      exact ⟨lists.runtime, lists.id, ready.written record found⟩
    · rcases List.mem_map.mp mem with ⟨worker, listed, rfl⟩
      rw [ready.free worker listed owner found]
      exact custody.pool.id
  have operation : Keeps (stageOperation script .observability)
      (start.Collecting own (call.pool.record.workers.map (·.bucket)) fun _ => False) := by
    refine Meets.get_bind fun begun held => ?_
    refine Meets.mono (ensureObservability_collects script begun.pool.record.workers
      (fun worker _ => ready.prompt worker) fun worker mem => ?_) ?_ (fun _ _ ended => ended)
        fun _ _ ended => ended
    · rw [← held.workers]
      exact List.mem_map_of_mem mem
    · rintro _ rfl
      exact held
  exact ((recorded_collecting.runStage_keeps script .observability operation).outcome
    collecting).custody fun _ => id

/-- A stage without buckets. -/
theorem stage_custody (script : StageScript) {stage : SetupStage}
    (other : stage ≠ .observability) : Keeps (runStage script stage) (start.Custody own) := by
  apply recorded_custody.runStage_keeps
  cases stage with
  | deploy =>
      refine Keeps.bind (Keeps.ofExcept script.subnets) fun subnets => ?_
      refine Keeps.bind (Keeps.modify fun call =>
        recorded_custody.mapRecord call _ (.withSubnets subnets)) fun _ => ?_
      refine Keeps.get_bind fun call _ => Keeps.bind (Keeps.ofExcept _) fun _ => ?_
      refine Keeps.bind (Keeps.modify fun call custody => ?_) fun _ => Keeps.ofExcept _
      exact (recorded_custody.mapRecord call _ .deploying custody).note
        fun _ _ _ => RuntimeEvent.noConfusion
  | observability => exact absurd rfl other
  | pingmesh => exact Keeps.get_bind fun _ _ => Keeps.ofExcept _
  | warm => exact Keeps.get_bind fun _ _ => Keeps.ofExcept _

/-! ## Deletions -/

/-- In the loop of deletions: the buckets of the list are all that may be left over, and those
that have been deleted are gone. -/
structure Deleting (start : PoolCall) (buckets gone : List String) (call : PoolCall) : Prop where
  custody : start.Custody true call
  listed : ∀ bucket, start.Leftover call bucket → bucket ∈ buckets
  gone : ∀ bucket ∈ gone, bucket ∉ call.workspace.buckets

theorem Deleting.fewer {gone' : List String} (deleting : start.Deleting buckets gone call)
    (within : ∀ bucket ∈ gone', bucket ∈ gone) : start.Deleting buckets gone' call :=
  ⟨deleting.custody, deleting.listed, fun bucket mem => deleting.gone bucket (within bucket mem)⟩

theorem Deleting.deleteBucket (deleting : start.Deleting buckets gone call) (bucket : String) :
    start.Deleting buckets (bucket :: gone) (call.deleteBucket bucket) where
  custody := deleting.custody.deleteBucket bucket
  listed := fun other left =>
    deleting.listed other (leftover_deleteBucket deleting.custody.longer left).1
  gone := by
    intro other mem present
    rcases List.mem_filter.mp present with ⟨earlier, differs⟩
    rcases List.mem_cons.mp mem with same | before
    · exact of_decide_eq_true differs same
    · exact deleting.gone other before earlier

theorem deleteBucket_deleting (script : BucketDeletion) (bucket : String) :
    Meets (NetOpsBench.deleteBucket script bucket) (start.Deleting buckets gone)
      (fun _ => start.Deleting buckets (bucket :: gone)) fun _ => start.Deleting buckets gone := by
  refine Meets.bind (Keeps.ofExcept script.lookup) fun _ => Meets.get_bind fun call deleting => ?_
  split
  · refine Meets.bind (Q := fun _ call => start.Deleting buckets gone call ∧
      (script.delete.effective = true → start.Deleting buckets (bucket :: gone) call)) ?_
        fun _ => ?_
    · apply Meets.modify
      rintro _ rfl
      have deleted := deleting.deleteBucket bucket
      split
      · exact ⟨deleted.fewer fun _ => List.mem_cons_of_mem _, fun _ => deleted⟩
      · rename_i refused
        exact ⟨deleting, fun effective => absurd effective refused⟩
    · refine Meets.ofExcept (fun _ answered _ ended => ended.2 ?_) fun _ _ _ ended => ended.1
      cases delete : script.delete with
      | done => rfl
      | lost stop => rfl
      | refused stop =>
          rw [delete] at answered
          cases answered
  · rename_i absent
    apply Meets.pure
    rintro _ rfl
    refine ⟨deleting.custody, deleting.listed, fun other mem => ?_⟩
    rcases List.mem_cons.mp mem with same | before
    · rw [same]
      exact absent
    · exact deleting.gone other before

theorem deletePending_deleting (script : BucketDeletion) (bucket : String) :
    Meets (deletePending script bucket) (start.Deleting buckets gone)
      (fun failed call => start.Deleting buckets gone call ∧
        (failed = none → start.Deleting buckets (bucket :: gone) call))
      fun _ => start.Deleting buckets gone := by
  refine Meets.bind (caught_meets (deleteBucket_deleting script bucket)) fun failed => ?_
  cases failed with
  | some text =>
      apply Meets.pure
      intro call ended
      exact ⟨ended.2 (Option.some_ne_none _), fun none => (Option.some_ne_none _ none).elim⟩
  | none =>
      refine Meets.bind (Q := fun _ => start.Deleting buckets (bucket :: gone)) ?_ fun _ => ?_
      · exact Meets.ofExcept (fun _ _ _ ended => ended.1 rfl) fun _ _ _ ended =>
          (ended.1 rfl).fewer fun _ => List.mem_cons_of_mem _
      · refine Meets.bind (Q := fun _ => start.Deleting buckets (bucket :: gone)) ?_ fun _ => ?_
        · apply Meets.modify
          intro call deleting
          exact ⟨deleting.custody.markDeleted (deleting.gone bucket List.mem_cons_self),
            deleting.listed, deleting.gone⟩
        · exact Meets.pure fun call deleting =>
            ⟨deleting.fewer fun _ => List.mem_cons_of_mem _, fun _ => deleting⟩

/-- What a loop of deletions does not report has been deleted. -/
theorem deleteAll_deleting (script : String → BucketDeletion) (names gone : List String) :
    Meets (deleteAll script names) (start.Deleting buckets gone)
      (fun failed call => start.Deleting buckets gone call ∧
        ∀ bucket ∈ names, bucket ∉ failed.map Prod.fst → bucket ∉ call.workspace.buckets)
      fun _ => start.Deleting buckets gone := by
  induction names generalizing gone with
  | nil => exact Meets.pure fun _ deleting => ⟨deleting, fun _ mem => absurd mem List.not_mem_nil⟩
  | cons bucket rest ih =>
      refine Meets.bind (deletePending_deleting (script bucket) bucket) fun failed => ?_
      cases failed with
      | some text =>
          refine Meets.bind (Meets.mono (ih gone) (fun _ ended => ended.1)
            (fun _ _ ended => ended) fun _ _ ended => ended) fun later => Meets.pure ?_
          rintro call ⟨deleting, deleted⟩
          refine ⟨deleting, fun other mem unreported => ?_⟩
          rcases List.mem_cons.mp mem with rfl | after
          · exact absurd List.mem_cons_self unreported
          · exact deleted other after fun reported =>
              unreported (List.mem_cons_of_mem _ reported)
      | none =>
          refine Meets.bind (Meets.mono (ih (bucket :: gone)) (fun _ ended => ended.2 rfl)
            (fun _ _ ended => ended) fun _ _ ended =>
              ended.fewer fun _ => List.mem_cons_of_mem _) fun later => Meets.pure ?_
          rintro call ⟨deleting, deleted⟩
          refine ⟨deleting.fewer fun _ => List.mem_cons_of_mem _, fun other mem unreported => ?_⟩
          rcases List.mem_cons.mp mem with rfl | after
          · exact deleting.gone other List.mem_cons_self
          · exact deleted other after unreported

/-- The deletion of the buckets of the handle leaves none over when it returns. -/
theorem deleteProvisionCreatedBuckets_custody (script : String → BucketDeletion) :
    Meets (deleteProvisionCreatedBuckets script) (start.Custody true)
      (fun _ call => start.Custody true call ∧ ∀ bucket, ¬ start.Leftover call bucket)
      fun _ => start.Custody true := by
  refine Meets.get_bind fun begun custody => ?_
  have loop : Meets (deleteAll script begun.pool.provisionCreatedBuckets)
      (fun call => call = begun)
      (fun failed call => start.Deleting begun.pool.provisionCreatedBuckets [] call ∧
        ∀ bucket ∈ begun.pool.provisionCreatedBuckets, bucket ∉ failed.map Prod.fst →
          bucket ∉ call.workspace.buckets)
      fun _ => start.Custody true := by
    refine Meets.mono (deleteAll_deleting script _ []) ?_ (fun _ _ ended => ended)
      fun _ _ deleting => deleting.custody
    rintro _ rfl
    exact ⟨custody, custody.held rfl, fun _ mem => absurd mem List.not_mem_nil⟩
  refine Meets.bind loop fun failed => ?_
  have kept : ∀ call, (start.Deleting begun.pool.provisionCreatedBuckets [] call ∧
      ∀ bucket ∈ begun.pool.provisionCreatedBuckets, bucket ∉ failed.map Prod.fst →
        bucket ∉ call.workspace.buckets) → ∀ bucket, start.Leftover call bucket →
          bucket ∈ failed.map Prod.fst := by
    rintro call ⟨deleting, deleted⟩ bucket left
    by_contra unreported
    exact deleted bucket (deleting.listed bucket left) unreported left.2
  refine Meets.bind (Q := fun _ call => start.Custody true call ∧
    ∀ bucket, start.Leftover call bucket → bucket ∈ failed.map Prod.fst) ?_ fun _ => ?_
  · apply Meets.modify
    intro call ended
    exact ⟨ended.1.custody.withCreated (kept call ended), kept call ended⟩
  · split
    · rename_i none
      apply Meets.pure
      rintro call ⟨custody, left⟩
      refine ⟨custody, fun bucket present => ?_⟩
      rw [List.isEmpty_iff.mp none] at left
      exact List.not_mem_nil (left bucket present)
    · exact Meets.throw fun _ ended => ended.1

/-! ## Teardown -/

theorem teardownWorkers_custody (labs : RuntimeIdentity → Answer Unit) :
    Keeps (teardownWorkers labs) (start.Custody own) := by
  have noting {event : Nat → RuntimeEvent}
      (idle : ∀ runtime other bucket, event runtime ≠ .bucketCreated other bucket) :
      Keeps (noting event) (start.Custody own) :=
    Keeps.modify fun _ custody => custody.note idle
  refine Keeps.get_bind fun begun _ => Keeps.bind ?_ fun failures => ?_
  · induction begun.pool.record.workers with
    | nil => exact Keeps.pure _
    | cons worker rest ih =>
        refine Keeps.bind (noting fun _ _ _ => RuntimeEvent.noConfusion) fun _ => ?_
        refine Keeps.bind (caught_keeps (Keeps.ofExcept _)) fun _ => ?_
        exact Keeps.bind ih fun _ => Keeps.pure _
  · split
    · exact noting fun _ _ _ => RuntimeEvent.noConfusion
    · exact Keeps.throw _

theorem activeForRuntime_custody (answer : Answer Unit) :
    Meets (activeForRuntime answer) (start.Custody own)
      (fun pending call => start.Custody own call ∧
        ∀ bucket, start.Leftover call bucket → bucket ∈ pending)
      fun _ => start.Custody own := by
  refine Meets.bind (Keeps.ofExcept answer) fun _ => Meets.get_bind fun call custody => ?_
  apply Meets.pure
  rintro _ rfl
  exact ⟨custody, fun _ left => custody.mem_activeForRuntime left⟩

/-- What a teardown has to delete is all that may be left over. -/
theorem pendingBuckets_custody (answer : Answer Unit) :
    Meets (pendingBuckets answer) (start.Custody own)
      (fun pending call => start.Custody own call ∧
        ∀ bucket, start.Leftover call bucket → bucket ∈ pending)
      fun _ => start.Custody own := by
  refine Meets.get_bind fun call custody => ?_
  have active : Meets (activeForRuntime answer) (fun begun => begun = call)
      (fun pending call => start.Custody own call ∧
        ∀ bucket, start.Leftover call bucket → bucket ∈ pending)
      fun _ => start.Custody own := by
    refine Meets.mono (activeForRuntime_custody answer) ?_ (fun _ _ ended => ended)
      fun _ _ ended => ended
    rintro _ rfl
    exact custody
  split
  · rename_i pending recorded
    split
    · apply Meets.pure
      rintro _ rfl
      exact ⟨custody, custody.pool.pending pending recorded⟩
    · exact active
  · exact active

theorem labsFailed_custody (script : PoolTeardownScript) (stop : RuntimeStop) :
    Keeps (labsFailed script stop) (start.Custody own) := by
  cases stop with
  | lifecycle result =>
      refine Keeps.bind (mapRecord_custody fun record buckets lists =>
        lists_cleanupFailed _ _ _ (lists.update (.withResult result))) fun _ => ?_
      refine Meets.bind (activeForRuntime_custody script.active) fun pending => ?_
      refine Meets.bind (Q := fun _ => start.Custody own) ?_ fun _ =>
        Keeps.bind (recorded_custody.writeMetadata_keeps _) fun _ => Keeps.throw _
      apply Meets.modify
      rintro call ⟨custody, listed⟩
      refine custody.mapRecord ⟨custody.pool.runtime, custody.pool.id, fun found same => ?_⟩
      cases same
      exact listed
  | raised family text => exact Keeps.throw _
  | interrupted => exact Keeps.throw _
  | killed => exact Keeps.throw _

/-- A failed deletion leaves what is left over in the record. -/
theorem failedCleanup_custody {α : Type} {Q : α → PoolCall → Prop} (text : String)
    (answer : Answer Unit) (stop : RuntimeStop) :
    Meets (do
        modify fun call : PoolCall => call.mapRecord fun record =>
          (record.cleanupFailed text).withPending (some call.pool.provisionCreatedBuckets)
        writeMetadata answer
        throw stop : PoolProgram α)
      (start.Custody true) Q fun _ => start.Custody true := by
  refine Meets.bind (Q := fun _ => start.Custody true) ?_ fun _ =>
    Meets.bind (recorded_custody.writeMetadata_keeps _) fun _ =>
      Meets.throw fun _ custody => custody
  apply Meets.modify
  intro call custody
  refine custody.mapRecord ⟨custody.pool.runtime, custody.pool.id, fun found same => ?_⟩
  cases same
  exact custody.held rfl

theorem cleanResources_custody (script : PoolTeardownScript) :
    Meets (cleanResources script) (start.Custody own)
      (fun _ call => start.Custody own call ∧ ∀ bucket, ¬ start.Leftover call bucket)
      fun _ => start.Custody own := by
  have weaker : ∀ call, start.Custody true call → start.Custody own call :=
    fun _ custody => custody.weaken own fun _ => rfl
  refine Meets.bind (Keeps.tryCatch (lifecycleRun_keeps (teardownWorkers_custody script.labs))
    (labsFailed_custody script)) fun _ => ?_
  refine Meets.bind (pendingBuckets_custody script.active) fun pending => ?_
  refine Meets.bind (Q := fun _ => start.Custody true) ?_ fun _ => ?_
  · exact Meets.modify fun call ended => ended.1.withCreated ended.2
  refine Meets.bind (Q := fun _ call => start.Custody true call ∧
    ∀ bucket, ¬ start.Leftover call bucket) ?_ fun _ => ?_
  · refine Meets.tryCatch (deleteProvisionCreatedBuckets_custody script.deletions) fun stop => ?_
    refine Meets.mono (P := start.Custody true) (Q := fun _ call => start.Custody true call ∧
      ∀ bucket, ¬ start.Leftover call bucket) (R := fun _ => start.Custody true) ?_
        (fun _ custody => custody) (fun _ _ ended => ended) fun _ call custody => weaker call custody
    unfold bucketsFailed
    split
    · exact failedCleanup_custody _ _ _
    · exact Meets.throw fun _ custody => custody
  · apply Meets.modify
    rintro call ⟨custody, none⟩
    refine ⟨weaker _ (custody.mapRecord ⟨custody.pool.runtime, custody.pool.id, ?_⟩), none⟩
    intro found same
    cases same

theorem leftover_removeDirectory {removal : Removal} {event : Nat → RuntimeEvent}
    (longer : start.workspace.history.length ≤ call.workspace.history.length)
    (idle : ∀ runtime other bucket, event runtime ≠ .bucketCreated other bucket)
    (left : start.Leftover (call.removeDirectory removal event) bucket) :
    start.Leftover call bucket := by
  unfold PoolCall.removeDirectory at left
  dsimp only at left
  split at left
  · have kept : start.Leftover (call.mapWorkspace (·.place call.pool.rootDir
        ((call.workspace.directories call.pool.rootDir).removed removal))) bucket :=
      (leftover_note longer idle).mp left
    exact kept
  · exact left

/-- The removal of the directory leaves no bucket over that was not. -/
theorem removeRootDir_custody (script : PoolTeardownScript) :
    Meets (removeRootDir script)
      (fun call => start.Custody own call ∧ ∀ bucket, ¬ start.Leftover call bucket)
      (fun _ call => start.Custody own call ∧ ∀ bucket, ¬ start.Leftover call bucket)
      fun _ => start.Custody own := by
  refine Meets.bind (Q := fun _ call => start.Custody own call ∧
    ∀ bucket, ¬ start.Leftover call bucket) ?_ fun _ => ?_
  · apply Meets.modify
    rintro call ⟨custody, none⟩
    refine ⟨custody.removeDirectory script.removal fun _ _ _ => RuntimeEvent.noConfusion, ?_⟩
    intro bucket left
    exact none bucket (leftover_removeDirectory custody.longer
      (fun _ _ _ => RuntimeEvent.noConfusion) left)
  refine Meets.bind (Meets.ofExcept (fun _ _ _ ended => ended) fun _ _ _ ended => ended.1)
    fun _ => Meets.read_bind fun call _ => ?_
  split
  · refine Meets.bind (Q := fun _ => start.Custody own) ?_ fun _ =>
      Meets.bind (recorded_custody.writeMetadata_keeps _) fun _ =>
        Meets.throw fun _ custody => custody
    apply Meets.modify
    rintro last ⟨custody, -⟩
    exact custody.mapRecord (lists_cleanupFailed _ _ _ custody.pool)
  · apply Meets.modify
    rintro last ⟨custody, none⟩
    have settled := custody.mapRecord (custody.pool.update (.withState .tornDown))
    refine ⟨settled.note fun _ _ _ => RuntimeEvent.noConfusion, fun bucket left => ?_⟩
    exact none bucket ((leftover_note settled.longer
      fun _ _ _ => RuntimeEvent.noConfusion).mp left)

/-- A teardown sees that the runtime may have buckets, or the manifest has none of it. -/
def Discerning (call : PoolCall) : Prop :=
  (call.pool.record.state ≠ .tornDown ∧ call.pool.record.needsCleanup = true) ∨
    call.workspace.activeForRuntime call.pool.record.id = []

/-- A teardown that returns leaves no bucket over. -/
theorem teardown_custody (script : PoolTeardownScript) :
    Meets (teardown script) (fun call => start.Custody own call ∧ call.Discerning)
      (fun _ call => start.Custody own call ∧ ∀ bucket, ¬ start.Leftover call bucket)
      fun _ => start.Custody own := by
  refine Meets.get_bind ?_
  rintro call ⟨custody, discerning⟩
  have unlisted (empty : call.workspace.activeForRuntime call.pool.record.id = []) :
      ∀ bucket, ¬ start.Leftover call bucket := by
    intro bucket left
    have listed := custody.mem_activeForRuntime left
    rw [empty] at listed
    exact List.not_mem_nil listed
  split
  · rename_i state
    apply Meets.pure
    rintro _ rfl
    rcases discerning with ⟨differs, -⟩ | empty
    · exact absurd state differs
    · exact ⟨custody, unlisted empty⟩
  · rename_i state
    refine Meets.bind (Q := fun _ call => start.Custody own call ∧
      ∀ bucket, ¬ start.Leftover call bucket) ?_ fun _ => removeRootDir_custody script
    unfold cleanIfNeeded
    split
    · refine Meets.mono (cleanResources_custody script) ?_ (fun _ _ ended => ended)
        fun _ _ ended => ended
      rintro _ rfl
      exact custody
    · rename_i idle
      apply Meets.pure
      rintro _ rfl
      rcases discerning with ⟨-, needed⟩ | empty
      · exact absurd needed idle
      · exact ⟨custody, unlisted empty⟩

/-! ## Compensation -/

/-- The compensation of `provision`, on the handle that has run the stages. -/
theorem compensate_custody (script : PoolTeardownScript) (stop : RuntimeStop) :
    Keeps (compensate script stop) (start.Custody true) := by
  have failed {α : Type} {Q : α → PoolCall → Prop} (error : String) (stop : RuntimeStop) :
      Meets (compensationFailed script error stop) (start.Custody true) Q
        fun _ => start.Custody true := by
    unfold compensationFailed
    split
    · exact failedCleanup_custody _ _ _
    · exact Meets.throw fun _ custody => custody
  unfold compensate
  split
  · rename_i error _
    refine Keeps.get_bind fun call _ => Keeps.bind ?_ fun _ => ?_
    · refine Keeps.tryCatch ?_ fun stop => failed error stop
      split
      · exact teardownWorkers_custody script.labs
      · exact Keeps.pure _
    · refine Meets.bind (Q := fun _ => start.Custody true) ?_ fun _ => ?_
      · exact Meets.mono (Meets.tryCatch (deleteProvisionCreatedBuckets_custody script.deletions)
          fun stop => failed error stop) (fun _ custody => custody) (fun _ _ ended => ended.1)
            fun _ _ custody => custody
      refine Keeps.bind ?_ fun _ => Keeps.throw _
      refine Keeps.bind (Keeps.modify fun call custody =>
        custody.removeDirectory script.removal fun _ _ _ => RuntimeEvent.noConfusion) fun _ => ?_
      refine Keeps.bind (caught_keeps (Keeps.ofExcept _)) fun _ => Keeps.get_bind fun call _ => ?_
      split
      · refine Keeps.bind (mapRecord_custody fun record buckets lists =>
          lists_cleanupFailed _ _ _ lists) fun _ => ?_
        exact Keeps.bind (caught_keeps (recorded_custody.writeMetadata_keeps _)) fun _ =>
          Keeps.throw _
      · exact Keeps.pure _
  · exact Keeps.throw _

/-! ## Runs -/

/-- A new handle has what `runtime.json` lists. -/
theorem reattach_custody (process : Nat) (answer : Answer Unit)
    (custody : start.Custody own call) : start.Custody false (call.reattach process answer).2 := by
  have attaching : Meets (attach process call.pool.rootDir answer)
      (fun workspace => workspace = call.workspace)
      (fun pool workspace => workspace = call.workspace ∧ pool.rootDir = call.pool.rootDir ∧
        call.workspace.directories call.pool.rootDir = .holding pool.record)
      fun _ workspace => workspace = call.workspace := by
    refine Meets.bind (Keeps.ofExcept answer) fun _ => Meets.get_bind ?_
    rintro _ rfl
    split
    · rename_i record held
      exact Meets.pure fun _ same => ⟨same, rfl, held⟩
    · exact Meets.throw fun _ same => same
    · exact Meets.throw fun _ same => same
  unfold reattach
  rcases ended : outcome (attach process call.pool.rootDir answer) call.workspace with
    ⟨stop | pool, workspace⟩
  · have same := attaching.of_error rfl ended
    subst same
    exact custody.weaken false Bool.noConfusion
  · rcases attaching.of_ok rfl ended with ⟨same, path, held⟩
    subst same
    dsimp only
    refine ⟨custody.longer, custody.directory pool.record held, fun record found => ?_,
      custody.registered, Bool.noConfusion⟩
    dsimp only at found
    rw [path] at found
    exact custody.directory record found

end PoolCall

/-- What a use of a runtime needs, after the uses before it. -/
def RuntimeUse.Careful (earlier : List RuntimeUse) (call : PoolCall) : RuntimeUse → Prop
  | .stage kind script => kind = .observability → call.ReadyToObserve script
  | .compensate .. => earlier.any RuntimeUse.attaches = false
  | .teardown _ => call.Discerning
  | .attach .. => True

/-- After every use, each bucket that the runtime has created since the start and that still exists
is recorded as its own; after a teardown that returns there is none. -/
def BucketsKept (start : PoolCall) (uses : List RuntimeUse) : Prop :=
  ∀ earlier next later, uses = earlier ++ next :: later →
    (∀ bucket, start.Leftover ((start.uses earlier).use next).2 bucket →
      ((start.uses earlier).use next).2.workspace.registry.get bucket =
        some start.pool.record.id) ∧
    ∀ script, next = .teardown script → ((start.uses earlier).use next).1 = .ok () →
      ∀ bucket, ¬ start.Leftover ((start.uses earlier).use next).2 bucket

namespace PoolCall

variable {start call : PoolCall} {own : Bool}

/-- A use keeps the custody. -/
theorem use_custody {earlier : List RuntimeUse} {next : RuntimeUse}
    (careful : next.Careful earlier call)
    (custody : start.Custody (!earlier.any RuntimeUse.attaches) call) :
    start.Custody (!(earlier ++ [next]).any RuntimeUse.attaches) (call.use next).2 := by
  have same (stays : next.attaches = false) :
      (!(earlier ++ [next]).any RuntimeUse.attaches) = !earlier.any RuntimeUse.attaches := by
    rw [List.any_append, List.any_cons, List.any_nil, stays, Bool.or_false, Bool.or_false]
  cases next with
  | stage stage script =>
      rw [same rfl]
      by_cases observing : stage = .observability
      · subst observing
        exact observe_custody script (careful rfl) custody
      · exact (stage_custody script observing).outcome custody
  | compensate script stop =>
      rw [same rfl]
      change earlier.any RuntimeUse.attaches = false at careful
      rw [careful] at custody ⊢
      exact (compensate_custody script stop).outcome custody
  | teardown script =>
      rw [same rfl]
      exact (Meets.mono (teardown_custody script) (fun _ holds => holds) (fun _ _ ended => ended.1)
        fun _ _ ended => ended).leaves ⟨custody, careful⟩
  | attach process answer =>
      rw [List.any_append, List.any_cons, List.any_nil]
      change start.Custody (!(_ || (true || false))) _
      rw [Bool.true_or, Bool.or_true]
      exact reattach_custody process answer custody

/-- A run of careful uses keeps the custody. -/
theorem uses_custody {uses : List RuntimeUse} (custody : start.Custody true start)
    (careful : ∀ earlier next later, uses = earlier ++ next :: later →
      next.Careful earlier (start.uses earlier)) :
    start.Custody (!uses.any RuntimeUse.attaches) (start.uses uses) := by
  induction uses using List.reverseRecOn with
  | nil => exact custody
  | append_singleton uses last ih =>
      have before := ih fun earlier next later split =>
        careful earlier next (later ++ [last]) (by rw [split]; simp)
      unfold PoolCall.uses
      rw [List.foldl_append]
      exact use_custody (careful uses last [] rfl) before

end PoolCall

/-- In a run of careful uses of a runtime, no bucket leaks. -/
theorem buckets_kept (start : PoolCall) (uses : List RuntimeUse)
    (sited : ∀ record, start.workspace.directories start.pool.rootDir = .holding record →
      record.runtime = start.pool.record.runtime ∧ record.id = start.pool.record.id)
    (careful : ∀ earlier next later, uses = earlier ++ next :: later →
      next.Careful earlier (start.uses earlier)) :
    BucketsKept start uses := by
  have none : ∀ bucket, ¬ start.Leftover start bucket := by
    rintro bucket ⟨created, -⟩
    rw [List.drop_length] at created
    exact List.not_mem_nil created
  have custody : start.Custody true start := by
    refine ⟨Nat.le_refl _, ⟨rfl, rfl, fun _ _ bucket left => absurd left (none bucket)⟩,
      fun record found => ?_, fun bucket left => absurd left (none bucket),
      fun _ bucket left => absurd left (none bucket)⟩
    rcases sited record found with ⟨runtime, id⟩
    exact ⟨runtime, id, fun _ _ bucket left => absurd left (none bucket)⟩
  intro earlier next later split
  have before : start.Custody (!earlier.any RuntimeUse.attaches) (start.uses earlier) :=
    PoolCall.uses_custody custody fun first use rest within =>
      careful first use (rest ++ next :: later) (by rw [split, within]; simp)
  have fine := careful earlier next later split
  refine ⟨(PoolCall.use_custody fine before).registered, ?_⟩
  rintro script rfl returned
  rcases ended : outcome (teardown script) (start.uses earlier) with ⟨answer, last⟩
  change (outcome (teardown script) (start.uses earlier)).1 = _ at returned
  change ∀ bucket, ¬ start.Leftover (outcome (teardown script) (start.uses earlier)).2 bucket
  rw [ended] at returned ⊢
  cases returned
  exact ((PoolCall.teardown_custody script).of_ok ⟨before, fine⟩ ended).2

/-- A runtime with one worker, after its deployment. -/
def labCall : PoolCall :=
  (outcome (runStage completedDeploy .deploy)
    { pool := { process := 0, rootDir := labRequest.root "", record := labRequest.record .ascii {} 0 }
      workspace := {} }).2

/-- The first request that creates the bucket takes effect, and its reply is lost. -/
def lostObservability : StageScript where
  backend := .ok upstreamBackend
  observability := fun _ =>
    { attempts := fun turn =>
        if turn = 19 then { post := .lost (.raised .os "TimeoutError: timed out") } else {} }

def lostRun : List RuntimeUse := [.stage .observability lostObservability, .teardown {}]

theorem bucket_leaked : ¬ BucketsKept labCall lostRun := by
  intro kept
  have isOk : ((labCall.uses [.stage .observability lostObservability]).use
      (.teardown {})).1.isOk = true := by
    decide +kernel
  have returned : ((labCall.uses [.stage .observability lostObservability]).use
      (.teardown {})).1 = .ok () := by
    cases answer : ((labCall.uses [.stage .observability lostObservability]).use
        (.teardown {})).1 with
    | ok _ => rfl
    | error stop =>
        rw [answer] at isOk
        cases isOk
  apply (kept [.stage .observability lostObservability] (.teardown {}) [] rfl).2 {} rfl returned
    "network_data_lab_w01"
  constructor
  · decide +kernel
  · decide +kernel

/-- A creation whose reply arrives, and two teardowns of which the first cannot delete. -/
def keptRun : List RuntimeUse :=
  [.stage .observability completedDeploy,
    .teardown { deletions := fun _ => { delete := .refused (.raised .os "HTTP 503") } },
    .teardown {}]

theorem buckets_kept_lab : BucketsKept labCall keptRun := by
  have held : labCall.workspace.directories labCall.pool.rootDir = .holding labCall.pool.record := by
    rfl
  apply buckets_kept
  · intro record found
    rw [held] at found
    cases found
    exact ⟨rfl, rfl⟩
  · intro earlier next later split
    rcases earlier with _ | ⟨first, _ | ⟨second, _ | ⟨third, rest⟩⟩⟩
    · rcases List.cons.inj split with ⟨rfl, -⟩
      intro _
      refine ⟨fun worker => ⟨fun turn stop => EffectAnswer.noConfusion, rfl⟩, ?_, rfl, ?_⟩
      · intro worker _ owner found
        cases found
      · intro record found
        change labCall.workspace.directories labCall.pool.rootDir = _ at found
        rw [held] at found
        cases found
        rfl
    · rcases List.cons.inj split with ⟨rfl, after⟩
      rcases List.cons.inj after with ⟨rfl, -⟩
      left
      constructor
      · decide +kernel
      · decide +kernel
    · rcases List.cons.inj split with ⟨rfl, after⟩
      rcases List.cons.inj after with ⟨rfl, last⟩
      rcases List.cons.inj last with ⟨rfl, -⟩
      left
      constructor
      · decide +kernel
      · decide +kernel
    · have length := congrArg List.length split
      change 3 = (first :: second :: third :: (rest ++ next :: later)).length at length
      simp at length

end NetOpsBench
