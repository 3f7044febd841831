import NetOpsBench.Runtime.Runs

/-!
# Who destroys a lab

The labs of a runtime may be destroyed only after it has begun a deployment, and its directory may
be removed only when none of its labs is live (`LabRule`). `teardown` infers from the state and the
stage results whether there is a lab; the flag `deployment_started` says so, but only `provision`
reads it, and a deployment that is stopped never writes it. So a teardown after a refused slot
check destroys the lab of another runtime, and a teardown after a killed deployment removes the
directory of a lab that is running (`labs_not_owned`). A run in which every teardown finds the flag
up to date, and its own test in agreement with it, keeps the rule (`labs_owned`).
-/

namespace NetOpsBench

/-- A lab is destroyed, and a directory removed, only by its runtime and in its time. -/
def LabRule (earlier : List RuntimeEvent) : RuntimeEvent → Prop
  | .destroying runtime _ => .deploying runtime ∈ earlier
  | .removed runtime => ¬ LabsLive runtime earlier
  | .tornDown runtime => ¬ LabsLive runtime earlier
  | .created .. => True
  | .deploying _ => True
  | .labsRemoved _ => True
  | .bucketCreated .. => True
  | .bucketDeleted .. => True
  | .discarded _ => True

/-- The flag `deployment_started` of a record is up to date, and the test of `teardown` agrees
with it. -/
structure Truthful (history : List RuntimeEvent) (record : RuntimeRecord) : Prop where
  upToDate : .deploying record.runtime ∈ history → record.metadata.deploymentStarted = true
  agrees : record.needsCleanup = record.metadata.deploymentStarted

/-- A teardown that is not a repetition finds a truthful record. -/
def RuntimeStep.Truthful (workspace : Workspace) : RuntimeStep → Prop
  | .teardown index _ => ∀ pool, workspace.handle index = some pool →
      pool.record.state ≠ .tornDown → NetOpsBench.Truthful workspace.history pool.record
  | .create .. => True
  | .provision .. => True
  | .stage .. => True
  | .quarantine .. => True
  | .attach .. => True
  | .kill _ => True

variable {tables : CharacterTables} {workspace : Workspace} {history : List RuntimeEvent}
  {record : RuntimeRecord} {created : List String}

theorem allows_labRule : Allows LabRule where
  created := fun _ _ _ _ => trivial
  deploying := fun _ _ => trivial
  destroying := fun _ _ _ started => started
  labsRemoved := fun _ _ => trivial
  bucketCreated := fun _ _ _ => trivial
  bucketDeleted := fun _ _ _ _ => trivial
  discarded := fun _ _ => trivial

/-- The teardown of a truthful record keeps the rule. -/
theorem Truthful.mayTeardown (truthful : Truthful history record)
    (registered : Registered history record created) : MayTeardown LabRule history record where
  destroying := by
    intro needed after labName longer
    rw [truthful.agrees] at needed
    exact longer.subset (registered.started needed)
  removing := by
    intro after settled longer
    have idle : ¬ LabsLive record.runtime after := by
      cases needed : record.needsCleanup with
      | true => exact settled needed
      | false =>
          refine (longer needed).settled fun live => ?_
          have started := truthful.upToDate live.mem
          rw [← truthful.agrees, needed] at started
          cases started
    exact ⟨idle, idle⟩

theorem RuntimeStep.Truthful.mayRun {step : RuntimeStep}
    (sound : workspace.Sound tables LabRule) (truthful : step.Truthful workspace) :
    step.MayRun LabRule workspace := by
  cases step with
  | teardown index script =>
      intro pool found state
      exact (truthful pool found state).mayTeardown (sound.handle found).pool
  | create process request script => trivial
  | provision process request build script => trivial
  | stage pool stage script => trivial
  | quarantine pool reason workers write => trivial
  | attach process rootDir answer => trivial
  | kill process => trivial

/-- In a run whose teardowns all find truthful records, labs are destroyed and directories are
removed only by the rule. -/
theorem labs_owned (tables : CharacterTables) (buckets occupied : List String)
    (steps : List RuntimeStep)
    (truthful : Workspace.EachStep (fun workspace step => step.Truthful workspace) tables
      (Workspace.fresh buckets occupied) steps) :
    History.Audited LabRule ((Workspace.fresh buckets occupied).run tables steps).history := by
  suffices sound : ((Workspace.fresh buckets occupied).run tables steps).Sound tables LabRule from
    sound.audited
  induction steps using List.reverseRecOn with
  | nil => exact Workspace.Sound.fresh buckets occupied
  | append_singleton steps last ih =>
      have before := ih fun earlier step later split =>
        truthful earlier step (later ++ [last]) (by rw [split]; simp)
      have may := (truthful steps last [] rfl).mayRun before
      unfold Workspace.run
      rw [List.foldl_append]
      exact before.step allows_labRule may

def upstreamBackend : RuntimeBackend := ⟨"upstream", "0.68.0", "5f1c", "a1b2"⟩

/-- A lab of the name exists already. -/
def conflictDeploy : StageScript where
  backend := .ok upstreamBackend
  subnets := .ok ["172.31.101.0/24"]
  slots := fun _ => .error (runtimeError "Containerlab lab already exists for lab: clab-lab-spine1")

/-- The process is killed while it is deploying. -/
def killedDeploy : StageScript where
  backend := .ok upstreamBackend
  subnets := .ok ["172.31.101.0/24"]
  deployWorkers := .error .killed

def completedDeploy : StageScript where
  backend := .ok upstreamBackend
  subnets := .ok ["172.31.101.0/24"]

def labRequest : RuntimeRequest := { scale := "xs", name := some "lab" }

/-- A refused slot check, and a teardown. -/
def conflictRun : List RuntimeStep :=
  [.create 0 labRequest {}, .stage 0 .deploy conflictDeploy, .teardown 0 {}]

/-- A killed deployment, and a teardown in another process. -/
def killedRun : List RuntimeStep :=
  [.create 0 labRequest {}, .stage 0 .deploy killedDeploy,
    .attach 1 ".netopsbench/runtimes/lab" (.ok ()), .teardown 1 {}]

theorem conflictRun_history :
    ((Workspace.fresh [] []).run .ascii conflictRun).history =
      [.created 0 "lab" ["network_data_lab_w01"], .destroying 0 "lab", .labsRemoved 0, .removed 0,
        .tornDown 0] := by
  decide +kernel

theorem killedRun_history :
    ((Workspace.fresh [] []).run .ascii killedRun).history =
      [.created 0 "lab" ["network_data_lab_w01"], .deploying 0, .removed 0, .tornDown 0] := by
  decide +kernel

theorem labs_not_owned :
    ¬ History.Audited LabRule ((Workspace.fresh [] []).run .ascii conflictRun).history ∧
      ¬ History.Audited LabRule ((Workspace.fresh [] []).run .ascii killedRun).history := by
  constructor
  · rw [conflictRun_history]
    intro audited
    have started : RuntimeEvent.deploying 0 ∈
        [RuntimeEvent.created 0 "lab" ["network_data_lab_w01"]] :=
      audited [.created 0 "lab" ["network_data_lab_w01"]] (.destroying 0 "lab")
        [.labsRemoved 0, .removed 0, .tornDown 0] rfl
    cases List.mem_singleton.mp started
  · rw [killedRun_history]
    intro audited
    have settled : ¬ LabsLive 0 [.created 0 "lab" ["network_data_lab_w01"], .deploying 0] :=
      audited [.created 0 "lab" ["network_data_lab_w01"], .deploying 0] (.removed 0)
        [.tornDown 0] rfl
    apply settled
    exact ⟨[.created 0 "lab" ["network_data_lab_w01"]], [], rfl, fun _ mem => nomatch mem⟩

/-- A deployment, and a teardown. -/
def completedRun : List RuntimeStep :=
  [.create 0 labRequest {}, .stage 0 .deploy completedDeploy, .teardown 0 {}]

theorem labs_owned_completed :
    History.Audited LabRule ((Workspace.fresh [] []).run .ascii completedRun).history := by
  apply labs_owned .ascii [] [] completedRun
  refine eachStep_cons trivial (eachStep_cons trivial (eachStep_cons ?_ eachStep_nil))
  intro pool found _
  have flagged : ((((Workspace.fresh [] []).step .ascii (.create 0 labRequest {})).step .ascii
      (.stage 0 .deploy completedDeploy)).handle 0).all
        (fun pool => pool.record.needsCleanup && pool.record.metadata.deploymentStarted) = true := by
    decide +kernel
  rw [found, Option.all_some, Bool.and_eq_true] at flagged
  exact ⟨fun _ => flagged.2, flagged.1.trans flagged.2.symm⟩

end NetOpsBench
