import Mathlib.Data.List.Pairwise
import NetOpsBench.Runtime.Runs

/-!
# Whose buckets are deleted

A cleanup deletes only buckets that the workspace has created, and it finds them under the id of
its runtime. The name of a bucket holds only the label of the id, and `safe_runtime_label` gives
one label to ids that differ in case or in punctuation; then one runtime's teardown deletes the
bucket of the other (`prodRun_history`). Buckets are isolated, and their names distinct, exactly
when the labels of the runtimes are (`buckets_isolated`).
-/

namespace NetOpsBench

variable {tables : CharacterTables} {history : List RuntimeEvent} {runtime : Nat} {bucket : String}

/-- What is deleted is no bucket of another runtime that has not been torn down, and it was created
in the workspace. -/
def Isolated (earlier : List RuntimeEvent) : RuntimeEvent → Prop
  | .bucketDeleted runtime bucket =>
      (∀ other id buckets, other ≠ runtime → .created other id buckets ∈ earlier →
        .tornDown other ∉ earlier → bucket ∉ buckets) ∧ BucketMade earlier bucket
  | .created .. => True
  | .deploying _ => True
  | .destroying .. => True
  | .labsRemoved _ => True
  | .bucketCreated .. => True
  | .removed _ => True
  | .tornDown _ => True
  | .discarded _ => True

def RuntimeEvent.createdId : RuntimeEvent → Option String
  | .created _ id _ => some id
  | .deploying _ => none
  | .destroying .. => none
  | .labsRemoved _ => none
  | .bucketCreated .. => none
  | .bucketDeleted .. => none
  | .removed _ => none
  | .tornDown _ => none
  | .discarded _ => none

/-- The ids of the runtimes, in the order of their making. -/
def createdIds (history : List RuntimeEvent) : List String :=
  history.filterMap RuntimeEvent.createdId

/-- Distinct workers have distinct buckets. -/
def DistinctBuckets (history : List RuntimeEvent) : Prop :=
  ∀ runtime id buckets runtime' id' buckets', .created runtime id buckets ∈ history →
    .created runtime' id' buckets' ∈ history →
      ∀ (index index' : Nat) (bucket bucket' : String), buckets[index]? = some bucket →
        buckets'[index']? = some bucket' → (id, index) ≠ (id', index') → bucket ≠ bucket'

/-- What holds of every deletion, whatever the labels. -/
def DeletionRule (earlier : List RuntimeEvent) : RuntimeEvent → Prop
  | .bucketDeleted runtime bucket => Deletable earlier runtime bucket
  | .created .. => True
  | .deploying _ => True
  | .destroying .. => True
  | .labsRemoved _ => True
  | .bucketCreated .. => True
  | .removed _ => True
  | .tornDown _ => True
  | .discarded _ => True

theorem allows_deletionRule : Allows DeletionRule where
  created := fun _ _ _ _ => trivial
  deploying := fun _ _ => trivial
  destroying := fun _ _ _ _ => trivial
  labsRemoved := fun _ _ => trivial
  bucketCreated := fun _ _ _ => trivial
  bucketDeleted := fun _ _ _ deletable => deletable
  discarded := fun _ _ => trivial

/-- Every run keeps the rule of the deletions. -/
theorem run_deletions (tables : CharacterTables) (buckets occupied : List String)
    (steps : List RuntimeStep) :
    ((Workspace.fresh buckets occupied).run tables steps).Sound tables DeletionRule := by
  apply (Workspace.Sound.fresh buckets occupied).run allows_deletionRule
  intro earlier step later _
  cases step with
  | teardown index script =>
      intro pool _ _
      exact ⟨fun _ _ _ _ => trivial, fun _ _ _ => ⟨trivial, trivial⟩⟩
  | create process request script => trivial
  | provision process request build script => trivial
  | stage pool stage script => trivial
  | quarantine pool reason workers write => trivial
  | attach process rootDir answer => trivial
  | kill process => trivial

/-- How the buckets of the runtimes of a history are named. -/
def Named (tables : CharacterTables) (history : List RuntimeEvent) : Prop :=
  ∀ runtime id buckets, .created runtime id buckets ∈ history →
    ∃ count, 0 < count ∧ buckets = (List.range' 1 count).map (defaultBucket tables id)

theorem Named.getElem? (named : Named tables history) {id : String} {buckets : List String}
    (made : .created runtime id buckets ∈ history) {index : Nat}
    (found : buckets[index]? = some bucket) : bucket = defaultBucket tables id (index + 1) := by
  rcases named runtime id buckets made with ⟨count, -, rfl⟩
  rw [List.getElem?_map, Option.map_eq_some_iff] at found
  rcases found with ⟨place, listed, rfl⟩
  have within : index < count := by
    have bound := (List.getElem?_eq_some_iff.mp listed).1
    rwa [List.length_range'] at bound
  rw [List.getElem?_range' within, Option.some.injEq] at listed
  rw [← listed, Nat.one_mul, Nat.add_comm]

theorem Named.first (named : Named tables history) {id : String} {buckets : List String}
    (made : .created runtime id buckets ∈ history) :
    buckets[0]? = some (defaultBucket tables id 1) := by
  rcases named runtime id buckets made with ⟨count, positive, rfl⟩
  rw [List.getElem?_map, List.getElem?_range' positive]
  rfl

theorem mem_createdIds {id : String} :
    id ∈ createdIds history ↔ ∃ runtime buckets, .created runtime id buckets ∈ history := by
  unfold createdIds
  rw [List.mem_filterMap]
  constructor
  · rintro ⟨event, mem, same⟩
    cases event with
    | created runtime other buckets =>
        cases same
        exact ⟨runtime, buckets, mem⟩
    | deploying runtime => cases same
    | destroying runtime labName => cases same
    | labsRemoved runtime => cases same
    | bucketCreated runtime bucket => cases same
    | bucketDeleted runtime bucket => cases same
    | removed runtime => cases same
    | tornDown runtime => cases same
    | discarded runtime => cases same
  · rintro ⟨runtime, buckets, mem⟩
    exact ⟨_, mem, rfl⟩

/-- With distinct ids, an id determines its runtime. -/
theorem runtime_of_id (distinct : (createdIds history).Nodup) {id : String} {runtime' : Nat}
    {buckets buckets' : List String} (made : .created runtime id buckets ∈ history)
    (made' : .created runtime' id buckets' ∈ history) : runtime = runtime' := by
  by_contra differ
  have apart := List.pairwise_filterMap.mp distinct
  have symmetric : Std.Symm fun first second : RuntimeEvent => ∀ id, first.createdId = some id →
      ∀ id', second.createdId = some id' → id ≠ id' :=
    ⟨fun _ _ differs id found id' found' same => differs id' found' id found same.symm⟩
  refine apart.forall made made' ?_ id rfl id rfl rfl
  intro same
  cases same
  exact differ rfl

/-- Where the labels differ, a bucket is that of one id. -/
theorem id_of_bucket (named : Named tables history)
    (labels : ((createdIds history).map (safeRuntimeLabel tables)).Nodup) {id id' : String}
    {runtime' : Nat} {buckets buckets' : List String}
    (made : .created runtime id buckets ∈ history)
    (made' : .created runtime' id' buckets' ∈ history) {index index' : Nat}
    (found : buckets[index]? = some bucket) (found' : buckets'[index']? = some bucket) :
    id = id' ∧ index = index' := by
  have same := (named.getElem? made found).symm.trans (named.getElem? made' found')
  rcases defaultBucket_inj.mp same with ⟨label, place⟩
  refine ⟨?_, by omega⟩
  exact List.inj_on_of_nodup_map labels (mem_createdIds.mpr ⟨_, _, made⟩)
    (mem_createdIds.mpr ⟨_, _, made'⟩) label

theorem distinctBuckets_of_labels (named : Named tables history)
    (labels : ((createdIds history).map (safeRuntimeLabel tables)).Nodup) :
    DistinctBuckets history := by
  intro runtime id buckets runtime' id' buckets' made made' index index' bucket bucket' found found'
    differ same
  subst same
  rcases id_of_bucket named labels made made' found found' with ⟨ids, places⟩
  exact differ (Prod.ext ids places)

/-- Two ids with one label are two ids of which the first workers share a bucket. -/
theorem labels_of_distinctBuckets (named : Named tables history)
    (distinct : (createdIds history).Nodup) (apart : DistinctBuckets history) :
    ((createdIds history).map (safeRuntimeLabel tables)).Nodup := by
  refine distinct.map_on fun id mem id' mem' label => ?_
  rcases mem_createdIds.mp mem with ⟨runtime, buckets, made⟩
  rcases mem_createdIds.mp mem' with ⟨runtime', buckets', made'⟩
  by_contra differ
  apply apart runtime id buckets runtime' id' buckets' made made' 0 0 _ _ (named.first made)
    (named.first made')
  · intro same
    exact differ (Prod.mk.inj same).1
  · exact defaultBucket_inj.mpr ⟨label, rfl⟩

theorem isolated_of_labels (named : Named tables history)
    (labels : ((createdIds history).map (safeRuntimeLabel tables)).Nodup)
    (deletions : History.Audited DeletionRule history) : History.Audited Isolated history := by
  intro earlier event later split
  have rule := deletions earlier event later split
  have within : earlier ⊆ history := by
    rw [split]
    exact List.subset_append_left ..
  have ids := labels.of_map
  cases event with
  | bucketDeleted runtime bucket =>
      refine ⟨fun other id buckets differ made _ shared => ?_, rule.made⟩
      rcases rule.owned with ⟨ownId, ownBuckets, ownMade, owner, buckets', ownerMade, mem, -⟩
      rcases List.getElem?_of_mem shared with ⟨index, found⟩
      rcases List.getElem?_of_mem mem with ⟨index', found'⟩
      rcases id_of_bucket named labels (within made) (within ownerMade) found found' with
        ⟨rfl, -⟩
      exact differ (runtime_of_id ids (within made) (within ownMade))
  | created runtime id buckets => trivial
  | deploying runtime => trivial
  | destroying runtime labName => trivial
  | labsRemoved runtime => trivial
  | bucketCreated runtime bucket => trivial
  | removed runtime => trivial
  | tornDown runtime => trivial
  | discarded runtime => trivial

/-- Over every run with distinct ids, buckets are isolated and distinct exactly when the labels of
the ids are. -/
theorem buckets_isolated (tables : CharacterTables) (buckets occupied : List String)
    (steps : List RuntimeStep)
    (distinct : (createdIds
      ((Workspace.fresh buckets occupied).run tables steps).history).Nodup) :
    (History.Audited Isolated ((Workspace.fresh buckets occupied).run tables steps).history ∧
      DistinctBuckets ((Workspace.fresh buckets occupied).run tables steps).history) ↔
    ((createdIds ((Workspace.fresh buckets occupied).run tables steps).history).map
      (safeRuntimeLabel tables)).Nodup := by
  have sound := run_deletions tables buckets occupied steps
  constructor
  · rintro ⟨-, apart⟩
    exact labels_of_distinctBuckets sound.naming distinct apart
  · intro labels
    exact ⟨isolated_of_labels sound.naming labels sound.audited,
      distinctBuckets_of_labels sound.naming labels⟩

def labScript : StageScript where
  backend := .ok ⟨"upstream", "0.68.0", "5f1c", "a1b2"⟩
  subnets := .ok ["172.31.101.0/24"]

/-- Two runtimes whose ids differ in case, and the teardown of the first. -/
def prodRun : List RuntimeStep :=
  [.create 0 { scale := "xs", name := some "prod" } {},
    .create 0 { scale := "xs", name := some "PROD" } {}, .stage 0 .deploy labScript,
    .stage 1 .deploy labScript, .stage 0 .observability labScript,
    .stage 1 .observability labScript, .teardown 0 {}]

theorem prodRun_history : ((Workspace.fresh [] []).run .ascii prodRun).history =
    [.created 0 "prod" ["network_data_prod_w01"], .created 1 "PROD" ["network_data_prod_w01"],
      .deploying 0, .deploying 1, .bucketCreated 0 "network_data_prod_w01", .destroying 0 "prod",
      .labsRemoved 0, .bucketDeleted 0 "network_data_prod_w01", .removed 0, .tornDown 0] := by
  decide +kernel

theorem buckets_not_isolated :
    (createdIds ((Workspace.fresh [] []).run .ascii prodRun).history).Nodup ∧
      ¬ History.Audited Isolated ((Workspace.fresh [] []).run .ascii prodRun).history ∧
      ¬ DistinctBuckets ((Workspace.fresh [] []).run .ascii prodRun).history := by
  rw [prodRun_history]
  refine ⟨by decide +kernel, fun audited => ?_, fun apart => ?_⟩
  · have rule : Isolated _ _ := audited
      [.created 0 "prod" ["network_data_prod_w01"], .created 1 "PROD" ["network_data_prod_w01"],
        .deploying 0, .deploying 1, .bucketCreated 0 "network_data_prod_w01", .destroying 0 "prod",
        .labsRemoved 0] (.bucketDeleted 0 "network_data_prod_w01") [.removed 0, .tornDown 0] rfl
    apply rule.1 1 "PROD" ["network_data_prod_w01"]
    · omega
    · exact List.mem_cons_of_mem _ List.mem_cons_self
    · decide +kernel
    · exact List.mem_cons_self
  · apply apart 0 "prod" ["network_data_prod_w01"] 1 "PROD" ["network_data_prod_w01"]
      List.mem_cons_self (List.mem_cons_of_mem _ List.mem_cons_self) 0 0 _ _ rfl rfl
    · decide +kernel
    · rfl

/-- Two runtimes with distinct labels: the teardown of the first leaves the bucket of the second. -/
def pairRun : List RuntimeStep :=
  [.create 0 { scale := "xs", name := some "left" } {},
    .create 0 { scale := "xs", name := some "right" } {}, .stage 0 .deploy labScript,
    .stage 1 .deploy labScript, .stage 0 .observability labScript,
    .stage 1 .observability labScript, .teardown 0 {}]

theorem buckets_isolated_pair :
    (History.Audited Isolated ((Workspace.fresh [] []).run .ascii pairRun).history ∧
      DistinctBuckets ((Workspace.fresh [] []).run .ascii pairRun).history) ↔
    ((createdIds ((Workspace.fresh [] []).run .ascii pairRun).history).map
      (safeRuntimeLabel .ascii)).Nodup :=
  buckets_isolated .ascii [] [] pairRun (by decide +kernel)

end NetOpsBench
