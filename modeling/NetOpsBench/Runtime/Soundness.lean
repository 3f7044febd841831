import NetOpsBench.Lib.History
import NetOpsBench.Runtime.Manager

/-!
# What every run of the workspace keeps

Every record and every handle is that of a runtime that was created, the flag `deployment_started`
is set only by a deployment, and whatever a cleanup may delete was created for a runtime of the
same id (`Workspace.Sound`). The events of a run meet a rule; what the rule has to allow is split
in what holds of every call (`Allows`) and what a teardown needs of its handle (`MayTeardown`).
-/

namespace NetOpsBench

open Program

variable {tables : CharacterTables} {rule : List RuntimeEvent → RuntimeEvent → Prop}
  {history before after : List RuntimeEvent} {event : RuntimeEvent} {id bucket : String}
  {record : RuntimeRecord} {created : List String} {runtime : Nat}

/-! ## Facts of a history -/

/-- The bucket was created for a runtime of the id, and is that of a worker of it. -/
def Owned (history : List RuntimeEvent) (id bucket : String) : Prop :=
  ∃ runtime buckets, .created runtime id buckets ∈ history ∧ bucket ∈ buckets ∧
    .bucketCreated runtime bucket ∈ history

/-- The bucket was created in the workspace and has not been deleted since. -/
def BucketMade (history : List RuntimeEvent) (bucket : String) : Prop :=
  ∃ creator, History.Last (fun event => ∀ runtime, event ≠ .bucketDeleted runtime bucket)
    (.bucketCreated creator bucket) history

/-- A deployment of the runtime has begun after which its labs have not all been removed. -/
def LabsLive (runtime : Nat) (history : List RuntimeEvent) : Prop :=
  History.Last (· ≠ .labsRemoved runtime) (.deploying runtime) history

/-- A longer history, in which no deployment has begun since. -/
def Extends (before after : List RuntimeEvent) : Prop :=
  ∃ later, after = before ++ later ∧ ∀ runtime, .deploying runtime ∉ later

theorem Owned.grow (owned : Owned before id bucket) (sub : before ⊆ after) :
    Owned after id bucket := by
  rcases owned with ⟨runtime, buckets, made, mem, wasCreated⟩
  exact ⟨runtime, buckets, sub made, mem, sub wasCreated⟩

theorem Extends.refl (history : List RuntimeEvent) : Extends history history :=
  ⟨[], (List.append_nil _).symm, fun _ => List.not_mem_nil⟩

theorem Extends.concat (longer : Extends before after)
    (other : ∀ runtime, event ≠ .deploying runtime) : Extends before (after ++ [event]) := by
  rcases longer with ⟨later, rfl, none⟩
  refine ⟨later ++ [event], (List.append_assoc ..), fun runtime mem => ?_⟩
  rcases List.mem_append.mp mem with within | last
  · exact none runtime within
  · exact other runtime (List.mem_singleton.mp last).symm

theorem Extends.trans {middle : List RuntimeEvent} (first : Extends before middle)
    (second : Extends middle after) : Extends before after := by
  rcases first with ⟨later, rfl, none⟩
  rcases second with ⟨latest, rfl, noneLater⟩
  refine ⟨later ++ latest, List.append_assoc .., fun runtime mem => ?_⟩
  rcases List.mem_append.mp mem with within | last
  · exact none runtime within
  · exact noneLater runtime last

theorem Extends.subset (longer : Extends before after) : before ⊆ after := by
  rcases longer with ⟨later, rfl, -⟩
  exact List.subset_append_left before later

/-- Only a deployment makes labs live. -/
theorem not_labsLive_concat (settled : ¬ LabsLive runtime history)
    (other : event ≠ .deploying runtime) : ¬ LabsLive runtime (history ++ [event]) := by
  rintro ⟨earlier, later, split, after⟩
  rcases History.split_concat split with ⟨-, same, -⟩ | ⟨between, within, rfl⟩
  · exact other same.symm
  · apply settled
    refine ⟨earlier, between, within, fun place mem => ?_⟩
    exact after place (List.mem_append_left _ mem)

theorem not_labsLive_labsRemoved : ¬ LabsLive runtime (history ++ [.labsRemoved runtime]) := by
  rintro ⟨earlier, later, split, after⟩
  rcases History.split_concat split with ⟨-, same, -⟩ | ⟨between, within, rfl⟩
  · cases same
  · exact after (.labsRemoved runtime) (by simp) rfl

theorem Extends.settled (longer : Extends before after) (settled : ¬ LabsLive runtime before) :
    ¬ LabsLive runtime after := by
  rcases longer with ⟨later, rfl, none⟩
  induction later using List.reverseRecOn with
  | nil => rwa [List.append_nil]
  | append_singleton later event ih =>
      rw [← List.append_assoc]
      apply not_labsLive_concat
      · exact ih fun other mem => none other (List.mem_append_left _ mem)
      · exact fun same => none runtime (by simp [same])

theorem LabsLive.mem (live : LabsLive runtime history) : .deploying runtime ∈ history :=
  History.Last.mem live

/-- An event that is about no bucket. -/
def RuntimeEvent.OfLab : RuntimeEvent → Prop
  | .created .. => False
  | .bucketCreated .. => False
  | .bucketDeleted .. => False
  | .deploying _ => True
  | .destroying .. => True
  | .labsRemoved _ => True
  | .removed _ => True
  | .tornDown _ => True
  | .discarded _ => True

/-! ## The invariant -/

/-- A record of a runtime of the workspace, and the buckets that a handle of it has created. -/
structure Registered (history : List RuntimeEvent) (record : RuntimeRecord)
    (created : List String) : Prop where
  made : .created record.runtime record.id (record.workers.map (·.bucket)) ∈ history
  started : record.metadata.deploymentStarted = true → .deploying record.runtime ∈ history
  pending : ∀ buckets, record.metadata.cleanupPendingBuckets = some buckets →
    ∀ bucket ∈ buckets, Owned history record.id bucket
  owned : ∀ bucket ∈ created, Owned history record.id bucket

theorem Registered.grow (registered : Registered before record created) (sub : before ⊆ after) :
    Registered after record created where
  made := sub registered.made
  started := fun flag => sub (registered.started flag)
  pending := fun buckets pending bucket mem => (registered.pending buckets pending bucket mem).grow sub
  owned := fun bucket mem => (registered.owned bucket mem).grow sub

theorem Registered.forget (registered : Registered history record created) :
    Registered history record [] :=
  { registered with owned := fun _ mem => absurd mem List.not_mem_nil }

structure Workspace.Sound (tables : CharacterTables)
    (rule : List RuntimeEvent → RuntimeEvent → Prop) (workspace : Workspace) : Prop where
  pools : ∀ pool, some pool ∈ workspace.pools →
    Registered workspace.history pool.record pool.provisionCreatedBuckets
  directories : ∀ path record, workspace.directories path = .holding record →
    Registered workspace.history record []
  registry : ∀ bucket id, workspace.registry.get bucket = some id →
    Owned workspace.history id bucket
  present : ∀ bucket ∈ workspace.buckets, ∀ runtime,
    .bucketCreated runtime bucket ∈ workspace.history → BucketMade workspace.history bucket
  naming : ∀ runtime id buckets, .created runtime id buckets ∈ workspace.history →
    ∃ count, 0 < count ∧ buckets = (List.range' 1 count).map (defaultBucket tables id)
  audited : History.Audited rule workspace.history

structure PoolCall.Sound (tables : CharacterTables)
    (rule : List RuntimeEvent → RuntimeEvent → Prop) (call : PoolCall) : Prop where
  workspace : call.workspace.Sound tables rule
  pool : Registered call.workspace.history call.pool.record call.pool.provisionCreatedBuckets

/-- What a deletion by a runtime is known to have met. -/
structure Deletable (history : List RuntimeEvent) (runtime : Nat) (bucket : String) : Prop where
  owned : ∃ id buckets, .created runtime id buckets ∈ history ∧ Owned history id bucket
  made : BucketMade history bucket

/-- What a rule allows of every call. -/
structure Allows (rule : List RuntimeEvent → RuntimeEvent → Prop) : Prop where
  created : ∀ history runtime id buckets, rule history (.created runtime id buckets)
  deploying : ∀ history runtime, rule history (.deploying runtime)
  destroying : ∀ history runtime labName, .deploying runtime ∈ history →
    rule history (.destroying runtime labName)
  labsRemoved : ∀ history runtime, rule history (.labsRemoved runtime)
  bucketCreated : ∀ history runtime bucket, rule history (.bucketCreated runtime bucket)
  bucketDeleted : ∀ history runtime bucket, Deletable history runtime bucket →
    rule history (.bucketDeleted runtime bucket)
  discarded : ∀ history runtime, rule history (.discarded runtime)

/-- What a teardown needs that starts in a history with a record. -/
structure MayTeardown (rule : List RuntimeEvent → RuntimeEvent → Prop)
    (history : List RuntimeEvent) (record : RuntimeRecord) : Prop where
  destroying : record.needsCleanup = true → ∀ after labName, Extends history after →
    rule after (.destroying record.runtime labName)
  removing : ∀ after, (record.needsCleanup = true → ¬ LabsLive record.runtime after) →
    (record.needsCleanup = false → Extends history after) →
      rule after (.removed record.runtime) ∧ rule after (.tornDown record.runtime)

namespace Workspace.Sound

variable {workspace : Workspace}

/-- The invariant does not look at anything but the parts that stay. -/
theorem note (sound : workspace.Sound tables rule) (allowed : rule workspace.history event)
    (lab : event.OfLab) : (workspace.note event).Sound tables rule where
  pools := fun pool mem => (sound.pools pool mem).grow (List.subset_append_left ..)
  directories := fun path record held =>
    (sound.directories path record held).grow (List.subset_append_left ..)
  registry := fun bucket id found =>
    (sound.registry bucket id found).grow (List.subset_append_left ..)
  present := by
    intro bucket mem runtime wasCreated
    have earlier : .bucketCreated runtime bucket ∈ workspace.history := by
      rcases List.mem_append.mp wasCreated with within | last
      · exact within
      · rw [← List.mem_singleton.mp last] at lab
        exact lab.elim
    rcases sound.present bucket mem runtime earlier with ⟨creator, last⟩
    refine ⟨creator, last.concat ?_⟩
    rintro other rfl
    exact lab
  naming := by
    intro runtime id buckets wasMade
    rcases List.mem_append.mp wasMade with within | last
    · exact sound.naming runtime id buckets within
    · rw [← List.mem_singleton.mp last] at lab
      exact lab.elim
  audited := sound.audited.concat allowed

theorem place (sound : workspace.Sound tables rule) {rootDir : String}
    {directory : RuntimeDirectory}
    (held : ∀ record, directory = .holding record → Registered workspace.history record []) :
    (workspace.place rootDir directory).Sound tables rule :=
  { sound with
    directories := by
      intro path record found
      unfold Workspace.place at found
      dsimp only at found
      split at found
      · exact held record found
      · exact sound.directories path record found }

theorem recordCreated (sound : workspace.Sound tables rule)
    (owned : Owned workspace.history id bucket) :
    (workspace.recordCreated bucket id).Sound tables rule := by
  unfold Workspace.recordCreated
  split
  · exact sound
  · refine { sound with registry := ?_ }
    intro other owner found
    rw [Dict.get_set] at found
    split at found
    · rename_i same
      cases found
      rw [same]
      exact owned
    · exact sound.registry other owner found

theorem markDeleted (sound : workspace.Sound tables rule) (bucket : String) :
    (workspace.markDeleted bucket).Sound tables rule :=
  { sound with
    registry := by
      intro other owner found
      unfold Workspace.markDeleted at found
      rw [Dict.get_erase] at found
      split at found
      · cases found
      · exact sound.registry other owner found }

theorem mem_activeForRuntime (sound : workspace.Sound tables rule)
    (mem : bucket ∈ workspace.activeForRuntime id) : Owned workspace.history id bucket := by
  unfold Workspace.activeForRuntime at mem
  rcases List.mem_map.mp (Sorting.mem_sorted.mp mem) with ⟨⟨found, owner⟩, entry, rfl⟩
  rcases List.mem_filter.mp entry with ⟨listed, same⟩
  rw [← of_decide_eq_true same]
  exact sound.registry found owner (Dict.mem_entries.mp listed)

theorem kill (sound : workspace.Sound tables rule) (process : Nat) :
    (workspace.kill process).Sound tables rule :=
  { sound with
    pools := by
      intro pool mem
      rcases List.mem_map.mp mem with ⟨slot, listed, same⟩
      rw [Option.filter_eq_some_iff] at same
      rw [same.1] at listed
      exact sound.pools pool listed }

end Workspace.Sound

namespace PoolCall.Sound

variable {call : PoolCall}

theorem mapRecord (sound : call.Sound tables rule) {f : RuntimeRecord → RuntimeRecord}
    (keeps : Registered call.workspace.history (f call.pool.record)
      call.pool.provisionCreatedBuckets) : (call.mapRecord f).Sound tables rule :=
  ⟨sound.workspace, keeps⟩

theorem note (sound : call.Sound tables rule) (event : Nat → RuntimeEvent)
    (allowed : rule call.workspace.history (event call.pool.record.runtime))
    (lab : (event call.pool.record.runtime).OfLab) : (call.note event).Sound tables rule :=
  ⟨sound.workspace.note allowed lab, sound.pool.grow (List.subset_append_left ..)⟩

theorem write (sound : call.Sound tables rule) : call.write.Sound tables rule :=
  ⟨sound.workspace.place fun _ same => RuntimeDirectory.holding.inj same ▸ sound.pool.forget,
    sound.pool⟩

theorem withCreated (sound : call.Sound tables rule) {buckets : List String}
    (owned : ∀ bucket ∈ buckets, Owned call.workspace.history call.pool.record.id bucket) :
    (call.withCreated buckets).Sound tables rule :=
  ⟨sound.workspace, { sound.pool with owned }⟩

theorem createBucket (sound : call.Sound tables rule)
    (allowed : rule call.workspace.history (.bucketCreated call.pool.record.runtime bucket)) :
    (call.createBucket bucket).Sound tables rule where
  workspace :=
    { pools := fun pool mem => (sound.workspace.pools pool mem).grow (List.subset_append_left ..)
      directories := fun path record held =>
        (sound.workspace.directories path record held).grow (List.subset_append_left ..)
      registry := fun name id found =>
        (sound.workspace.registry name id found).grow (List.subset_append_left ..)
      present := by
        intro name mem runtime wasCreated
        by_cases same : name = bucket
        · subst same
          exact ⟨_, History.last_concat ..⟩
        · have listed : name ∈ call.workspace.buckets := by
            rcases List.mem_append.mp mem with within | last
            · exact within
            · exact absurd (List.mem_singleton.mp last) same
          have earlier : .bucketCreated runtime name ∈ call.workspace.history := by
            rcases List.mem_append.mp wasCreated with within | last
            · exact within
            · cases List.mem_singleton.mp last
              exact absurd rfl same
          rcases sound.workspace.present name listed runtime earlier with ⟨creator, last⟩
          exact ⟨creator, last.concat fun _ eq => RuntimeEvent.noConfusion eq⟩
      naming := by
        intro runtime id buckets wasMade
        rcases List.mem_append.mp wasMade with within | last
        · exact sound.workspace.naming runtime id buckets within
        · cases List.mem_singleton.mp last
      audited := sound.workspace.audited.concat allowed }
  pool := sound.pool.grow (List.subset_append_left ..)

theorem deleteBucket (sound : call.Sound tables rule)
    (allowed : rule call.workspace.history (.bucketDeleted call.pool.record.runtime bucket)) :
    (call.deleteBucket bucket).Sound tables rule where
  workspace :=
    { pools := fun pool mem => (sound.workspace.pools pool mem).grow (List.subset_append_left ..)
      directories := fun path record held =>
        (sound.workspace.directories path record held).grow (List.subset_append_left ..)
      registry := fun name id found =>
        (sound.workspace.registry name id found).grow (List.subset_append_left ..)
      present := by
        intro name mem runtime wasCreated
        rcases List.mem_filter.mp mem with ⟨listed, other⟩
        have earlier : .bucketCreated runtime name ∈ call.workspace.history := by
          rcases List.mem_append.mp wasCreated with within | last
          · exact within
          · cases List.mem_singleton.mp last
        rcases sound.workspace.present name listed runtime earlier with ⟨creator, last⟩
        refine ⟨creator, last.concat ?_⟩
        intro by' same
        cases same
        simp at other
      naming := by
        intro runtime id buckets wasMade
        rcases List.mem_append.mp wasMade with within | last
        · exact sound.workspace.naming runtime id buckets within
        · cases List.mem_singleton.mp last
      audited := sound.workspace.audited.concat allowed }
  pool := sound.pool.grow (List.subset_append_left ..)

/-- A bucket that exists and is owned may be deleted. -/
theorem deletable (sound : call.Sound tables rule)
    (owned : Owned call.workspace.history call.pool.record.id bucket)
    (present : bucket ∈ call.workspace.buckets) :
    Deletable call.workspace.history call.pool.record.runtime bucket := by
  refine ⟨⟨_, _, sound.pool.made, owned⟩, ?_⟩
  rcases owned with ⟨creator, -, -, -, wasCreated⟩
  exact sound.workspace.present bucket present creator wasCreated

end PoolCall.Sound

end NetOpsBench
