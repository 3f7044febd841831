import NetOpsBench.Runtime.Effects
import NetOpsBench.Runtime.Labs
import NetOpsBench.Session.Dispatch

/-!
# Whether a quarantine lasts

A handle writes the whole of `runtime.json` from its own record. So a handle that was attached
before a quarantine takes it back with its next write (`quarantine_lost`), and a repeated
`mark_quarantined` whose first write has failed returns without a write. While every call on the
directory goes through a handle that knows of the quarantine, every `attach` finds it
(`quarantine_lasts`).
-/

namespace NetOpsBench

open Program

/-- The record says that the runtime is quarantined, with a reason and at least these workers. -/
structure RuntimeRecord.Tells (workers : List String) (record : RuntimeRecord) : Prop where
  quarantined : record.metadata.quarantined = true
  reason : record.metadata.quarantineReason.isSome = true
  workers : ∀ worker ∈ workers, worker ∈ record.metadata.quarantinedWorkers.getD []

namespace RuntimeRecord.Tells

instance (workers : List String) (record : RuntimeRecord) : Decidable (record.Tells workers) :=
  decidable_of_iff (record.metadata.quarantined = true ∧
      record.metadata.quarantineReason.isSome = true ∧
      ∀ worker ∈ workers, worker ∈ record.metadata.quarantinedWorkers.getD [])
    ⟨fun tells => ⟨tells.1, tells.2.1, tells.2.2⟩,
      fun tells => ⟨tells.quarantined, tells.reason, tells.workers⟩⟩

end RuntimeRecord.Tells

/-- What is in a directory tells of the quarantine. -/
def Workspace.Tells (rootDir : String) (workers : List String) (workspace : Workspace) : Prop :=
  ∀ record, workspace.directories rootDir = .holding record → record.Tells workers

/-- A call on the directory is one of a handle that knows of the quarantine. -/
structure PoolCall.Tells (rootDir : String) (workers : List String) (call : PoolCall) : Prop where
  pool : call.pool.rootDir = rootDir → call.pool.record.Tells workers
  workspace : call.workspace.Tells rootDir workers

/-- A step that changes the directory goes through a handle that knows of the quarantine. -/
def RuntimeStep.Informed (rootDir : String) (workers : List String) (workspace : Workspace) :
    RuntimeStep → Prop
  | .stage index _ _ => ∀ pool, workspace.handle index = some pool → pool.rootDir = rootDir →
      pool.record.Tells workers
  | .quarantine index _ _ _ => ∀ pool, workspace.handle index = some pool →
      pool.rootDir = rootDir → pool.record.Tells workers
  | .teardown index _ => ∀ pool, workspace.handle index = some pool → pool.rootDir = rootDir →
      pool.record.Tells workers
  | .create .. => True
  | .provision .. => True
  | .attach .. => True
  | .kill _ => True

/-! ## Execution -/

namespace PoolState

def text : PoolState → String
  | created => "created"
  | deployed => "deployed"
  | observabilityReady => "observability_ready"
  | pingmeshReady => "pingmesh_ready"
  | warm => "warm"
  | quarantined => "quarantined"
  | cleanupFailed => "cleanup_failed"
  | tornDown => "torn_down"

end PoolState

/-- A handle, as dispatch reads it. -/
def RuntimePool.executionRuntime (pool : RuntimePool) (scale : String) : ExecutionRuntime where
  id := pool.record.id
  state := pool.record.state.text
  quarantined := pool.record.metadata.quarantined
  scale
  workers := pool.record.workers

/-- No scenario is run on the runtime, and it is not marked. -/
def ExecutionRuntime.Refused (runtime : ExecutionRuntime) : Prop :=
  ∀ (Evaluation : Type) (scenarios : List ScenarioSpec) (control : Option ExecutionControl)
    (scripts : RuntimeIdentity → WorkerScript Evaluation)
    (completion : Completion (orderedWorkers runtime.workers))
    (quarantine : Except DispatchError Unit),
    executeOnRuntimePool runtime scenarios control scripts completion quarantine =
      (.error (.notEligible runtime.id runtime.state runtime.quarantined), [])

theorem ExecutionRuntime.refused {runtime : ExecutionRuntime}
    (quarantined : runtime.quarantined = true) : runtime.Refused := by
  intro Evaluation scenarios control scripts completion quarantine
  unfold executeOnRuntimePool
  dsimp only
  rw [if_pos (Or.inr quarantined)]

/-! ## What a call keeps -/

variable {tables : CharacterTables} {rootDir reason : String} {marked : List String}
  {workers : Option (List String)} {record : RuntimeRecord} {workspace : Workspace}

theorem mem_knownWorkers {previous : Option (List String)} {names : List String} {worker : String} :
    worker ∈ knownWorkers previous names ↔ worker ∈ previous.getD [] ∨ worker ∈ names := by
  unfold knownWorkers
  rw [Sorting.mem_sorted, List.mem_dedup, List.mem_append]

namespace RuntimeRecord

/-- A mark tells of itself. -/
theorem tells_quarantine (record : RuntimeRecord) (reason : String)
    (workers : Option (List String)) :
    (record.quarantine reason workers).Tells (workers.getD []) := by
  refine ⟨rfl, rfl, fun worker mem => ?_⟩
  cases workers with
  | none => exact absurd mem List.not_mem_nil
  | some names => exact mem_knownWorkers.mpr (.inr mem)

/-- A mark keeps the workers of the marks before it. -/
theorem Tells.quarantine (tells : record.Tells marked) (reason : String)
    (workers : Option (List String)) : (record.quarantine reason workers).Tells marked := by
  refine ⟨rfl, rfl, fun worker mem => ?_⟩
  cases workers with
  | none => exact tells.workers worker mem
  | some names => exact mem_knownWorkers.mpr (.inl (tells.workers worker mem))

/-- A record keeps what it tells. -/
theorem Tells.update {f : RuntimeRecord → RuntimeRecord} (tells : record.Tells marked)
    (update : Update f) : (f record).Tells marked := by
  cases update with
  | staged update => cases update <;> exact ⟨tells.quarantined, tells.reason, tells.workers⟩
  | cleanupFailed error => exact ⟨rfl, tells.reason, tells.workers⟩
  | withPending pending => exact ⟨tells.quarantined, tells.reason, tells.workers⟩
  | quarantine reason workers => exact tells.quarantine reason workers
  | provisioned => exact ⟨tells.quarantined, tells.reason, tells.workers⟩

end RuntimeRecord

theorem Workspace.Tells.place {path : String} {directory : RuntimeDirectory}
    (tells : workspace.Tells rootDir marked)
    (placed : path = rootDir → ∀ record, directory = .holding record → record.Tells marked) :
    (workspace.place path directory).Tells rootDir marked := by
  intro record held
  unfold Workspace.place at held
  dsimp only at held
  split at held
  · rename_i same
    exact placed same.symm record held
  · exact tells record held

theorem stable_tells : Stable (PoolCall.Tells rootDir marked) where
  mapRecord := fun _ _ update tells =>
    ⟨fun same => (tells.pool same).update update, tells.workspace⟩
  note := fun _ _ tells => ⟨tells.pool, tells.workspace⟩
  write := by
    intro call tells
    refine ⟨tells.pool, tells.workspace.place fun same record held => ?_⟩
    cases held
    exact tells.pool same
  withCreated := fun _ _ tells => ⟨tells.pool, tells.workspace⟩
  buckets := fun _ _ tells => ⟨tells.pool, tells.workspace⟩
  registry := fun _ _ tells => ⟨tells.pool, tells.workspace⟩
  removed := by
    intro call removal tells
    refine ⟨tells.pool, tells.workspace.place fun same record held => ?_⟩
    rw [same] at held
    exact tells.workspace record (holding_of_removed held)

/-! ## Steps and runs -/

namespace Workspace.Tells

variable (tells : workspace.Tells rootDir marked)
include tells

theorem kill (process : Nat) : (workspace.kill process).Tells rootDir marked := tells

theorem settle {α : Type} (process : Nat) (answer : Answer α) :
    (workspace.settle process answer).Tells rootDir marked := by
  unfold Workspace.settle
  split
  · exact tells
  · exact tells

/-- A call of a handle that knows of the quarantine. -/
theorem call {index : Nat} {program : PoolProgram Unit}
    (informed : ∀ pool, workspace.handle index = some pool → pool.rootDir = rootDir →
      pool.record.Tells marked)
    (keeps : Keeps program (PoolCall.Tells rootDir marked)) :
    (workspace.call index program).Tells rootDir marked := by
  unfold Workspace.call
  split
  · exact tells
  · rename_i pool found
    have ended := keeps.outcome (s := ⟨pool, workspace⟩) ⟨informed pool found, tells⟩
    rcases run : outcome program ⟨pool, workspace⟩ with ⟨answer, last⟩
    rw [run] at ended
    apply Workspace.Tells.settle
    exact ended.workspace

omit tells in
theorem making (process : Nat) {build : Program Workspace RuntimeStop RuntimePool}
    {first : PoolProgram Unit}
    (builds : Meets build (fun start => start = workspace)
      (fun pool built => PoolCall.Tells rootDir marked ⟨pool, built⟩)
      fun _ built => built.Tells rootDir marked)
    (keeps : Keeps first (PoolCall.Tells rootDir marked)) :
    (workspace.making process build first).Tells rootDir marked := by
  unfold Workspace.making
  rcases built : outcome build workspace with ⟨stop | pool, after⟩
  · exact (builds.of_error rfl built).settle process _
  · have ready := builds.of_ok rfl built
    have last := keeps.outcome ready
    dsimp only
    rcases ended : outcome first ⟨pool, after⟩ with ⟨stop | value, final⟩
    · rw [ended] at last
      exact last.workspace.settle process _
    · rw [ended] at last
      exact last.workspace

omit tells in
theorem attach_meets (process : Nat) (path : String) (answer : Answer Unit) :
    Meets (attach process path answer) (Workspace.Tells rootDir marked)
      (fun pool built => PoolCall.Tells rootDir marked ⟨pool, built⟩)
      fun _ => Workspace.Tells rootDir marked := by
  refine Meets.bind (Keeps.ofExcept answer) fun _ => Meets.get_bind fun start tells => ?_
  split
  · rename_i record held
    apply Meets.pure
    rintro _ rfl
    refine ⟨fun same => tells record ?_, tells⟩
    rw [← same]
    exact held
  · exact Meets.throw fun _ same => same ▸ tells
  · exact Meets.throw fun _ same => same ▸ tells

/-- A runtime is not built in a directory that exists. -/
theorem buildRuntime_meets (present : (workspace.directories rootDir).exists = true)
    (process : Nat) (request : RuntimeRequest) (script : BuildScript) :
    Meets (buildRuntime tables process request script) (fun start => start = workspace)
      (fun pool built => PoolCall.Tells rootDir marked ⟨pool, built⟩)
      fun _ built => built.Tells rootDir marked := by
  refine Meets.bind (Meets.ofExcept (fun _ _ _ same => same) ?_) fun _ => Meets.get_bind ?_
  · rintro _ _ _ rfl
    exact tells
  rintro _ rfl
  dsimp only
  split
  · apply Meets.throw
    rintro _ rfl
    exact tells
  rename_i absent
  have elsewhere : request.root script.token ≠ rootDir := by
    intro same
    rw [same] at absent
    exact absent present
  have placed {built : Workspace} (tells : built.Tells rootDir marked)
      (directory : RuntimeDirectory) :
      (built.place (request.root script.token) directory).Tells rootDir marked :=
    tells.place fun same => absurd same elsewhere
  refine Meets.bind (Q := fun _ built => built.Tells rootDir marked) ?_ fun _ => ?_
  · apply Meets.modify
    rintro _ rfl
    exact placed tells .bare
  refine Meets.bind (Keeps.ofExcept _) fun _ => Meets.bind (Keeps.ofExcept _) fun _ => ?_
  refine Meets.bind (Q := fun _ built => built.Tells rootDir marked) ?_ fun _ => ?_
  · exact Meets.modify fun built tells => placed tells _
  · exact Meets.pure fun built tells => ⟨fun same => absurd same elsewhere, tells⟩

/-- A step keeps the quarantine of a directory that exists. -/
theorem step {step : RuntimeStep} (present : (workspace.directories rootDir).exists = true)
    (informed : step.Informed rootDir marked workspace) :
    (workspace.step tables step).Tells rootDir marked := by
  cases step with
  | create process request script =>
      exact making process (tells.buildRuntime_meets present process request script)
        (Keeps.pure ())
  | provision process request build script =>
      exact making process (tells.buildRuntime_meets present process request build)
        (stable_tells.provisionPool_keeps script)
  | stage index stage script => exact tells.call informed (stable_tells.runStage_keeps script stage)
  | quarantine index reason workers write =>
      exact tells.call informed (stable_tells.markQuarantined_keeps reason workers write)
  | attach process path answer =>
      refine making process (Meets.mono (attach_meets process path answer) ?_
        (fun _ _ ready => ready) fun _ _ raised => raised) (Keeps.pure ())
      rintro _ rfl
      exact tells
  | teardown index script => exact tells.call informed (stable_tells.teardown_keeps script)
  | kill process => exact tells.kill process

theorem run {steps : List RuntimeStep}
    (each : Workspace.EachStep (fun workspace step =>
      (workspace.directories rootDir).exists = true ∧ step.Informed rootDir marked workspace)
      tables workspace steps) : (workspace.run tables steps).Tells rootDir marked := by
  induction steps using List.reverseRecOn with
  | nil => exact tells
  | append_singleton steps last ih =>
      have before := ih fun earlier step later split =>
        each earlier step (later ++ [last]) (by rw [split]; simp)
      rcases each steps last [] rfl with ⟨present, informed⟩
      unfold Workspace.run
      rw [List.foldl_append]
      exact before.step present informed

end Workspace.Tells

/-! ## The mark -/

/-- A mark that adds nothing to the record of its handle finds the report in `runtime.json`. -/
def Unrepeated (pool : RuntimePool) (reason : String) (workers : Option (List String))
    (workspace : Workspace) : Prop :=
  pool.record.state = .quarantined →
    pool.record.metadata = (pool.record.quarantine reason workers).metadata →
      workspace.Tells pool.rootDir (workers.getD [])

/-- A mark that returns has written the report, unless it adds nothing to its own record. -/
theorem markQuarantined_tells {pool : RuntimePool} {write : Answer Unit}
    (unrepeated : Unrepeated pool reason workers workspace)
    (returned : (outcome (markQuarantined reason workers write) ⟨pool, workspace⟩).1 = .ok ()) :
    (outcome (markQuarantined reason workers write) ⟨pool, workspace⟩).2.workspace.Tells
      pool.rootDir (workers.getD []) := by
  have tells : Meets (markQuarantined reason workers write) (fun call => call = ⟨pool, workspace⟩)
      (fun _ call => call.workspace.Tells pool.rootDir (workers.getD [])) fun _ _ => True := by
    apply Meets.get_bind
    rintro _ rfl
    dsimp only
    split
    · rename_i same
      apply Meets.pure
      rintro _ rfl
      exact unrepeated same.1 same.2
    · refine Meets.bind (Q := fun _ call => call.pool.rootDir = pool.rootDir ∧
        call.pool.record = pool.record.quarantine reason workers ∧
        call.workspace = workspace) ?_ fun _ => ?_
      · apply Meets.modify
        rintro _ rfl
        exact ⟨rfl, rfl, rfl⟩
      refine Meets.bind (Meets.ofExcept (fun _ _ _ holds => holds) fun _ _ _ _ => trivial)
        fun _ => Meets.modify ?_
      rintro ⟨⟨process, path, found, created⟩, left⟩ ⟨rfl, rfl, rfl⟩ record held
      unfold PoolCall.write PoolCall.mapWorkspace Workspace.place at held
      dsimp only at held
      rw [if_pos rfl] at held
      cases held
      exact pool.record.tells_quarantine reason workers
  rcases ended : outcome (markQuarantined reason workers write) ⟨pool, workspace⟩ with ⟨answer, last⟩
  rw [ended] at returned
  cases returned
  exact tells.of_ok rfl ended

/-! ## Every attach -/

/-- After a mark that has returned, and until the directory is removed, an `attach` to it yields a
runtime that is quarantined, with a reason and the reported workers, and that is refused. -/
def QuarantineLasts (tables : CharacterTables) (workspace : Workspace) (index : Nat)
    (reason : String) (workers : Option (List String)) (write : Answer Unit)
    (later : List RuntimeStep) : Prop :=
  ∀ pool, workspace.handle index = some pool →
    (outcome (markQuarantined reason workers write) ⟨pool, workspace⟩).1 = .ok () →
    Workspace.EachStep (fun workspace _ => (workspace.directories pool.rootDir).exists = true)
      tables (workspace.step tables (.quarantine index reason workers write)) later →
    ∀ process answer attached final scale,
      outcome (attach process pool.rootDir answer)
        ((workspace.step tables (.quarantine index reason workers write)).run tables later) =
          (.ok attached, final) →
      attached.record.Tells (workers.getD []) ∧ (attached.executionRuntime scale).Refused

/-- When a mark is no repetition of one that was not written, and every later call on the
directory goes through a handle that knows of it, it lasts. -/
theorem quarantine_lasts (tables : CharacterTables) (workspace : Workspace) (index : Nat)
    (reason : String) (workers : Option (List String)) (write : Answer Unit)
    (later : List RuntimeStep)
    (unrepeated : ∀ pool, workspace.handle index = some pool →
      Unrepeated pool reason workers workspace)
    (informed : ∀ pool, workspace.handle index = some pool →
      Workspace.EachStep (fun workspace step =>
        step.Informed pool.rootDir (workers.getD []) workspace) tables
        (workspace.step tables (.quarantine index reason workers write)) later) :
    QuarantineLasts tables workspace index reason workers write later := by
  intro pool found returned present process answer attached final scale attaches
  have marked : (workspace.step tables (.quarantine index reason workers write)).Tells
      pool.rootDir (workers.getD []) := by
    have written := markQuarantined_tells (unrepeated pool found) returned
    change (workspace.call index (markQuarantined reason workers write)).Tells _ _
    unfold Workspace.call
    rw [found]
    dsimp only
    apply Workspace.Tells.settle
    exact written
  have lasting : ((workspace.step tables (.quarantine index reason workers write)).run tables
      later).Tells pool.rootDir (workers.getD []) :=
    marked.run fun earlier step later split =>
      ⟨present earlier step later split, informed pool found earlier step later split⟩
  have ready := (Workspace.Tells.attach_meets process pool.rootDir answer).of_ok lasting attaches
  have here : attached.rootDir = pool.rootDir := by
    have sited : Meets (attach process pool.rootDir answer) (fun _ => True)
        (fun attached _ => attached.rootDir = pool.rootDir) fun _ _ => True := by
      refine Meets.bind (Meets.ofExcept (fun _ _ _ _ => trivial) fun _ _ _ _ => trivial) fun _ =>
        Meets.read_bind fun start _ => ?_
      split
      · exact Meets.pure fun _ _ => rfl
      · exact Meets.throw fun _ _ => trivial
      · exact Meets.throw fun _ _ => trivial
    exact sited.of_ok trivial attaches
  have tells := ready.pool here
  exact ⟨tells, ExecutionRuntime.refused tells.quarantined⟩

/-- A runtime, which another process has attached. -/
def attachedRun : List RuntimeStep :=
  [.create 0 labRequest {}, .attach 1 ".netopsbench/runtimes/lab" (.ok ())]

def attachedWorkspace : Workspace := (Workspace.fresh [] []).run .ascii attachedRun

def cleanupReason : String := "scenario_cleanup_failure"

/-- The other process deploys the runtime after the mark. -/
theorem quarantine_lost :
    ¬ QuarantineLasts .ascii attachedWorkspace 0 cleanupReason (some ["worker-1"]) (.ok ())
      [.stage 1 .deploy completedDeploy] := by
  intro lasts
  have shown : (attachedWorkspace.handle 0).any (fun pool =>
      (outcome (markQuarantined cleanupReason (some ["worker-1"]) (.ok ()))
        ⟨pool, attachedWorkspace⟩).1.isOk &&
      ((attachedWorkspace.step .ascii (.quarantine 0 cleanupReason (some ["worker-1"])
        (.ok ()))).directories pool.rootDir).exists &&
      (outcome (attach 2 pool.rootDir (.ok ())) ((attachedWorkspace.step .ascii
        (.quarantine 0 cleanupReason (some ["worker-1"]) (.ok ()))).run .ascii
          [.stage 1 .deploy completedDeploy])).1.toOption.any
        fun attached => !attached.record.metadata.quarantined) = true := by
    decide +kernel
  rw [Option.any_eq_true] at shown
  rcases shown with ⟨pool, found, shown⟩
  rw [Bool.and_eq_true, Bool.and_eq_true] at shown
  rcases shown with ⟨⟨isOk, present⟩, lost⟩
  have returned : (outcome (markQuarantined cleanupReason (some ["worker-1"]) (.ok ()))
      ⟨pool, attachedWorkspace⟩).1 = .ok () := by
    cases answer : (outcome (markQuarantined cleanupReason (some ["worker-1"]) (.ok ()))
        ⟨pool, attachedWorkspace⟩).1 with
    | ok _ => rfl
    | error stop =>
        rw [answer] at isOk
        cases isOk
  rcases attaches : outcome (attach 2 pool.rootDir (.ok ())) ((attachedWorkspace.step .ascii
      (.quarantine 0 cleanupReason (some ["worker-1"]) (.ok ()))).run .ascii
        [.stage 1 .deploy completedDeploy]) with ⟨stop | attached, final⟩
  · rw [attaches] at lost
    cases lost
  · rw [attaches] at lost
    have known := (lasts pool found returned (eachStep_cons present eachStep_nil) 2 (.ok ())
      attached final "xs" attaches).1.quarantined
    change (!attached.record.metadata.quarantined) = true at lost
    rw [known] at lost
    cases lost

/-- The marking process deploys the runtime after the mark. -/
theorem quarantine_lasts_own :
    QuarantineLasts .ascii attachedWorkspace 0 cleanupReason (some ["worker-1"]) (.ok ())
      [.stage 0 .deploy completedDeploy] := by
  apply quarantine_lasts
  · intro pool found state
    have idle : (attachedWorkspace.handle 0).all
        (fun pool => pool.record.state ≠ .quarantined) = true := by
      decide +kernel
    rw [found, Option.all_some, decide_eq_true_eq] at idle
    exact absurd state idle
  · intro pool found
    refine eachStep_cons (fun marked held _ => ?_) eachStep_nil
    have tells : ((attachedWorkspace.step .ascii (.quarantine 0 cleanupReason
        (some ["worker-1"]) (.ok ()))).handle 0).all
          (fun pool => pool.record.Tells ["worker-1"]) = true := by
      decide +kernel
    rw [held, Option.all_some, decide_eq_true_eq] at tells
    exact tells

end NetOpsBench
