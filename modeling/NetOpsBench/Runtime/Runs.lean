import NetOpsBench.Runtime.Teardown

/-!
# What every run keeps

The step lemma and the run lemma of `Workspace.Sound`, and the building and the attaching of a
runtime.
-/

namespace NetOpsBench

open Program

variable {tables : CharacterTables} {rule : List RuntimeEvent → RuntimeEvent → Prop}
  {id : String}

variable (allows : Allows rule)
include allows

omit allows in
theorem eachStep_cons {fine : Workspace → RuntimeStep → Prop} {workspace : Workspace}
    {step : RuntimeStep} {steps : List RuntimeStep} (first : fine workspace step)
    (rest : Workspace.EachStep fine tables (workspace.step tables step) steps) :
    Workspace.EachStep fine tables workspace (step :: steps) := by
  intro earlier place later split
  cases earlier with
  | nil =>
      rcases List.cons.inj split with ⟨rfl, -⟩
      exact first
  | cons head earlier =>
      rcases List.cons.inj split with ⟨rfl, within⟩
      exact rest earlier place later within

omit allows in
theorem eachStep_nil {fine : Workspace → RuntimeStep → Prop} {workspace : Workspace} :
    Workspace.EachStep fine tables workspace [] := by
  intro earlier place later split
  simp at split

omit allows in
/-- The rule lets the step be taken. -/
def RuntimeStep.MayRun (rule : List RuntimeEvent → RuntimeEvent → Prop) (workspace : Workspace) :
    RuntimeStep → Prop
  | .teardown index _ => ∀ pool, workspace.handle index = some pool →
      pool.record.state ≠ .tornDown → MayTeardown rule workspace.history pool.record
  | .create .. => True
  | .provision .. => True
  | .stage .. => True
  | .quarantine .. => True
  | .attach .. => True
  | .kill _ => True

namespace Workspace.Sound

variable {workspace : Workspace}

omit allows in
theorem settle (sound : workspace.Sound tables rule) {α : Type} (process : Nat)
    (answer : Answer α) : (workspace.settle process answer).Sound tables rule := by
  unfold Workspace.settle
  split
  · exact sound.kill process
  · exact sound

omit allows in
/-- A new runtime has one bucket for every index. -/
theorem naming_record (tables : CharacterTables) (request : RuntimeRequest) (script : BuildScript)
    (runtime : Nat) :
    0 < request.workerCount ∧ (request.record tables script runtime).workers.map (·.bucket) =
      (List.range' 1 request.workerCount).map
        (defaultBucket tables (request.record tables script runtime).id) := by
  constructor
  · unfold RuntimeRequest.workerCount
    omega
  · unfold RuntimeRequest.record
    rw [List.map_map]
    rfl

theorem noteCreated (sound : workspace.Sound tables rule) (runtime : Nat) (id : String)
    {buckets : List String} {count : Nat} (positive : 0 < count)
    (named : buckets = (List.range' 1 count).map (defaultBucket tables id)) :
    (workspace.note (.created runtime id buckets)).Sound tables rule where
  pools := fun pool mem => (sound.pools pool mem).grow (List.subset_append_left ..)
  directories := fun path record held =>
    (sound.directories path record held).grow (List.subset_append_left ..)
  registry := fun bucket id found =>
    (sound.registry bucket id found).grow (List.subset_append_left ..)
  present := by
    intro bucket mem creator wasCreated
    have earlier : .bucketCreated creator bucket ∈ workspace.history := by
      rcases List.mem_append.mp wasCreated with within | last
      · exact within
      · cases List.mem_singleton.mp last
    rcases sound.present bucket mem creator earlier with ⟨maker, last⟩
    exact ⟨maker, last.concat fun _ => RuntimeEvent.noConfusion⟩
  naming := by
    intro other otherId others wasMade
    rcases List.mem_append.mp wasMade with within | last
    · exact sound.naming other otherId others within
    · cases List.mem_singleton.mp last
      exact ⟨count, positive, named⟩
  audited := sound.audited.concat (allows.created ..)

theorem buildRuntime_meets (process : Nat) (request : RuntimeRequest) (script : BuildScript) :
    Meets (buildRuntime tables process request script) (Workspace.Sound tables rule)
      (fun pool workspace => PoolCall.Sound tables rule ⟨pool, workspace⟩)
      fun _ => Workspace.Sound tables rule := by
  refine Meets.bind (Keeps.ofExcept script.prepare) fun _ => Meets.read_bind fun start _ => ?_
  dsimp only
  split
  · exact Meets.throw fun _ sound => sound
  refine Meets.bind (Q := fun _ => Workspace.Sound tables rule) ?_ fun _ => ?_
  · exact Meets.modify fun workspace sound => sound.place fun _ held => nomatch held
  refine Meets.bind (Keeps.ofExcept script.directories) fun _ =>
    Meets.bind (Keeps.ofExcept script.write) fun _ => ?_
  refine Meets.bind (Q := fun _ workspace => workspace.Sound tables rule ∧
    Registered workspace.history (request.record tables script start.made) []) ?_ fun _ => ?_
  · apply Meets.modify
    intro workspace sound
    rcases naming_record tables request script start.made with ⟨positive, buckets⟩
    have noted := sound.noteCreated allows start.made _ positive buckets
    have registered : Registered (workspace.note (.created start.made
        (request.record tables script start.made).id
        ((request.record tables script start.made).workers.map (·.bucket)))).history
        (request.record tables script start.made) [] :=
      { made := List.mem_append_right _ List.mem_cons_self
        started := fun flag => nomatch flag
        pending := fun _ pending => nomatch pending
        owned := fun _ mem => absurd mem List.not_mem_nil }
    have placed : (Workspace.place _ (request.root script.token) _).Sound tables rule :=
      noted.place fun record held => RuntimeDirectory.holding.inj held ▸ registered
    exact ⟨{ placed with }, registered⟩
  · exact Meets.pure fun workspace built => ⟨built.1, built.2⟩

omit allows in
theorem attach_meets (process : Nat) (rootDir : String) (answer : Answer Unit) :
    Meets (attach process rootDir answer) (Workspace.Sound tables rule)
      (fun pool workspace => PoolCall.Sound tables rule ⟨pool, workspace⟩)
      fun _ => Workspace.Sound tables rule := by
  refine Meets.bind (Keeps.ofExcept answer) fun _ => Meets.get_bind fun start sound => ?_
  split
  · rename_i record held
    apply Meets.pure
    rintro _ rfl
    exact ⟨sound, sound.directories rootDir record held⟩
  · apply Meets.throw
    rintro _ rfl
    exact sound
  · apply Meets.throw
    rintro _ rfl
    exact sound

omit allows in
theorem making (sound : workspace.Sound tables rule) (process : Nat)
    {build : Program Workspace RuntimeStop RuntimePool} {first : PoolProgram Unit}
    (builds : Meets build (Workspace.Sound tables rule)
      (fun pool workspace => PoolCall.Sound tables rule ⟨pool, workspace⟩)
      fun _ => Workspace.Sound tables rule)
    (runs : Keeps first (PoolCall.Sound tables rule)) :
    (workspace.making process build first).Sound tables rule := by
  unfold Workspace.making
  rcases built : outcome build workspace with ⟨stop | pool, after⟩
  · exact (builds.of_error sound built).settle process _
  · have ready := builds.of_ok sound built
    dsimp only
    rcases ended : outcome first ⟨pool, after⟩ with ⟨stop | value, last⟩
    · exact (Meets.of_error runs ready ended).workspace.settle process _
    · have done := Meets.of_ok runs ready ended
      refine { done.workspace with pools := ?_ }
      intro other mem
      rcases List.mem_append.mp mem with listed | new
      · exact done.workspace.pools other listed
      · rw [Option.some.inj (List.mem_singleton.mp new)]
        exact done.pool

omit allows in
theorem handle (sound : workspace.Sound tables rule) {index : Nat} {pool : RuntimePool}
    (found : workspace.handle index = some pool) : PoolCall.Sound tables rule ⟨pool, workspace⟩ := by
  refine ⟨sound, sound.pools pool ?_⟩
  unfold Workspace.handle at found
  rw [Option.join_eq_some_iff] at found
  exact List.mem_of_getElem? found

omit allows in
theorem call (sound : workspace.Sound tables rule) {index : Nat} {program : PoolProgram Unit}
    (keeps : ∀ pool, workspace.handle index = some pool →
      (outcome program ⟨pool, workspace⟩).2.Sound tables rule) :
    (workspace.call index program).Sound tables rule := by
  unfold Workspace.call
  split
  · exact sound
  · rename_i pool found
    have ended := keeps pool found
    rcases run : outcome program ⟨pool, workspace⟩ with ⟨answer, last⟩
    rw [run] at ended
    apply Workspace.Sound.settle
    refine { ended.workspace with pools := ?_ }
    intro other mem
    rcases List.mem_or_eq_of_mem_set mem with listed | same
    · exact ended.workspace.pools other listed
    · rw [Option.some.inj same]
      exact ended.pool

/-- A step keeps the workspace sound, when the rule lets its teardown do it. -/
theorem step (sound : workspace.Sound tables rule) {step : RuntimeStep}
    (may : step.MayRun rule workspace) : (workspace.step tables step).Sound tables rule := by
  cases step with
  | create process request script =>
      exact sound.making process (buildRuntime_meets allows process request script) (Keeps.pure ())
  | provision process request build script =>
      exact sound.making process (buildRuntime_meets allows process request build)
        (provisionPool_keeps allows script)
  | stage pool stage script =>
      exact sound.call fun _ found => (runStage_keeps allows script stage).outcome (sound.handle found)
  | quarantine pool reason workers write =>
      exact sound.call fun _ found =>
        (markQuarantined_keeps reason workers write).outcome (sound.handle found)
  | attach process rootDir answer =>
      exact sound.making process (attach_meets process rootDir answer) (Keeps.pure ())
  | teardown pool script =>
      exact sound.call fun handle found =>
        (teardown_meets allows script).leaves ⟨sound.handle found, may handle found⟩
  | kill process => exact sound.kill process

theorem run {steps : List RuntimeStep} (sound : workspace.Sound tables rule)
    (may : Workspace.EachStep (fun workspace step => step.MayRun rule workspace) tables workspace
      steps) : (workspace.run tables steps).Sound tables rule := by
  induction steps using List.reverseRecOn with
  | nil => exact sound
  | append_singleton steps last ih =>
      unfold Workspace.run
      rw [List.foldl_append]
      refine (ih fun earlier step later split => ?_).step allows (may steps last [] rfl)
      refine may earlier step (later ++ [last]) ?_
      rw [split]
      simp

omit allows in
theorem fresh (buckets occupied : List String) :
    (Workspace.fresh buckets occupied).Sound tables rule where
  pools := fun _ mem => absurd mem List.not_mem_nil
  directories := by
    intro path record held
    change (if path ∈ occupied then RuntimeDirectory.bare else .absent) = _ at held
    split at held
    · cases held
    · cases held
  registry := fun _ _ found => nomatch found
  present := fun _ _ _ wasCreated => absurd wasCreated List.not_mem_nil
  naming := fun _ _ _ wasMade => absurd wasMade List.not_mem_nil
  audited := History.audited_nil

end Workspace.Sound

end NetOpsBench
