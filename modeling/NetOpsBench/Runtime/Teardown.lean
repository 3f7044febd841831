import NetOpsBench.Runtime.Calls

/-!
# What a teardown and a compensation keep

A teardown needs of its handle what `MayTeardown` says: whether it may destroy the labs, and
whether it may remove the directory. The compensation of `provision` looks at the flag
`deployment_started` and needs nothing.
-/

namespace NetOpsBench

open Program

variable {tables : CharacterTables} {rule : List RuntimeEvent → RuntimeEvent → Prop}
  {history : List RuntimeEvent} {record : RuntimeRecord} {runtime : Nat}

variable (allows : Allows rule)
include allows

/-! ## Teardown -/

omit allows in
theorem teardownEach_keeps (labs : RuntimeIdentity → Answer Unit)
    (may : ∀ after labName, Extends history after →
      rule after (.destroying record.runtime labName)) (workers : List RuntimeIdentity) :
    Keeps (teardownEach labs workers) (Frozen tables rule record history) := by
  induction workers with
  | nil => exact Keeps.pure _
  | cons worker rest ih =>
      refine Keeps.bind (Keeps.modify fun call frozen => ?_) fun _ =>
        Keeps.bind (caught_keeps (Keeps.ofExcept _)) fun failed =>
          Keeps.bind ih fun later => Keeps.pure _
      have allowed := may _ worker.labName frozen.longer
      rw [← frozen.record] at allowed
      exact ⟨frozen.sound.note (.destroying · worker.labName) allowed trivial,
        frozen.record, frozen.longer.concat fun _ => RuntimeEvent.noConfusion⟩

/-- Once every worker has been torn down, no lab of the runtime is live. -/
theorem teardownWorkers_meets (labs : RuntimeIdentity → Answer Unit)
    (may : ∀ after labName, Extends history after →
      rule after (.destroying record.runtime labName)) :
    Meets (teardownWorkers labs) (Frozen tables rule record history)
      (fun _ call => Frozen tables rule record history call ∧
        ¬ LabsLive record.runtime call.workspace.history)
      fun _ => Frozen tables rule record history := by
  refine Meets.read_bind fun call _ => ?_
  refine Meets.bind (teardownEach_keeps labs may _) fun failures => ?_
  split
  · apply Meets.modify
    intro call frozen
    refine ⟨⟨frozen.sound.note .labsRemoved (allows.labsRemoved ..) trivial, frozen.record,
      frozen.longer.concat fun _ => RuntimeEvent.noConfusion⟩, ?_⟩
    rw [← frozen.record]
    exact not_labsLive_labsRemoved
  · exact Meets.throw fun _ frozen => frozen

omit allows in
theorem activeForRuntime_meets {call : PoolCall} (sound : call.Sound tables rule)
    (answer : Answer Unit) :
    Meets (activeForRuntime answer) (fun start => start = call)
      (fun pending start => start = call ∧
        ∀ bucket ∈ pending, Owned call.workspace.history call.pool.record.id bucket)
      fun _ start => start = call := by
  refine Meets.bind (Keeps.ofExcept answer) fun _ => Meets.read_bind ?_
  rintro _ rfl
  exact Meets.pure fun _ same => ⟨same, fun bucket mem => sound.workspace.mem_activeForRuntime mem⟩

omit allows in
theorem pendingBuckets_meets {call : PoolCall} (sound : call.Sound tables rule)
    (answer : Answer Unit) :
    Meets (pendingBuckets answer) (fun start => start = call)
      (fun pending start => start = call ∧
        ∀ bucket ∈ pending, Owned call.workspace.history call.pool.record.id bucket)
      fun _ start => start = call := by
  refine Meets.read_bind ?_
  rintro _ rfl
  split
  · rename_i pending recorded
    split
    · exact Meets.pure fun _ same => ⟨same, sound.pool.pending pending recorded⟩
    · exact activeForRuntime_meets sound answer
  · exact activeForRuntime_meets sound answer

omit allows in
theorem labsFailed_meets {Q : StageResult → PoolCall → Prop} (script : PoolTeardownScript)
    (stop : RuntimeStop) :
    Meets (labsFailed script stop) (PoolCall.Sound tables rule) Q
      fun _ => PoolCall.Sound tables rule := by
  cases stop with
  | lifecycle result =>
      refine Meets.bind (mapRecord_keeps fun _ _ _ registered =>
        (registered.withResult result).cleanupFailed _) fun _ => ?_
      refine Meets.bind (Q := fun pending call => call.Sound tables rule ∧
        ∀ bucket ∈ pending, Owned call.workspace.history call.pool.record.id bucket) ?_
          fun pending => ?_
      · refine Meets.of_start fun call sound => ?_
        refine Meets.mono (activeForRuntime_meets sound script.active) (fun _ same => same) ?_ ?_
        · rintro pending _ ⟨rfl, owned⟩
          exact ⟨sound, owned⟩
        · rintro _ _ rfl
          exact sound
      · refine Meets.bind (Q := fun _ => PoolCall.Sound tables rule) ?_ fun _ =>
          Meets.bind (writeMetadata_keeps _) fun _ => Meets.throw fun _ sound => sound
        apply Meets.modify
        rintro call ⟨sound, owned⟩
        refine sound.mapRecord (sound.pool.withPending fun buckets same => ?_)
        cases same
        exact owned
  | raised family text => exact Meets.throw fun _ sound => sound
  | interrupted => exact Meets.throw fun _ sound => sound
  | killed => exact Meets.throw fun _ sound => sound

omit allows in
/-- A failed deletion leaves the buckets that are left in the record. -/
theorem failedCleanup_meets {α : Type} {Q : α → PoolCall → Prop} (text : String)
    (answer : Answer Unit) (stop : RuntimeStop) :
    Meets (do
        modify fun call : PoolCall => call.mapRecord fun record =>
          (record.cleanupFailed text).withPending (some call.pool.provisionCreatedBuckets)
        writeMetadata answer
        throw stop : PoolProgram α)
      (PoolCall.Sound tables rule) Q fun _ => PoolCall.Sound tables rule := by
  refine Meets.bind (Q := fun _ => PoolCall.Sound tables rule) ?_ fun _ =>
    Meets.bind (writeMetadata_keeps _) fun _ => Meets.throw fun _ sound => sound
  apply Meets.modify
  intro call sound
  refine sound.mapRecord ((sound.pool.cleanupFailed text).withPending fun buckets same => ?_)
  cases same
  exact sound.pool.owned

omit allows in
theorem bucketsFailed_meets {Q : Unit → PoolCall → Prop} (script : PoolTeardownScript)
    (stop : RuntimeStop) :
    Meets (bucketsFailed script stop) (PoolCall.Sound tables rule) Q
      fun _ => PoolCall.Sound tables rule := by
  unfold bucketsFailed
  split
  · exact failedCleanup_meets _ _ _
  · exact Meets.throw fun _ sound => sound

/-- After the cleanup of its resources no lab of the runtime is live. -/
theorem cleanResources_meets (script : PoolTeardownScript)
    (may : ∀ after labName, Extends history after →
      rule after (.destroying record.runtime labName)) :
    Meets (cleanResources script) (Frozen tables rule record history)
      (fun _ call => call.Sound tables rule ∧ call.pool.record.runtime = record.runtime ∧
        ¬ LabsLive record.runtime call.workspace.history)
      fun _ => PoolCall.Sound tables rule := by
  refine Meets.bind (Q := fun _ call => Frozen tables rule record history call ∧
    ¬ LabsLive record.runtime call.workspace.history) ?_ fun _ => ?_
  · refine Meets.tryCatch (lifecycleRun_meets (teardownWorkers_meets allows script.labs may))
      fun stop => ?_
    exact Meets.mono (labsFailed_meets script stop) (fun _ frozen => frozen.sound)
      (fun _ _ ended => ended) fun _ _ ended => ended
  refine Meets.of_start ?_
  rintro call ⟨frozen, settled⟩
  refine Meets.bind (Meets.mono (pendingBuckets_meets frozen.sound script.active)
    (fun _ same => same) (fun _ _ ended => ended) ?_) fun pending => ?_
  · rintro _ _ rfl
    exact frozen.sound
  refine Meets.bind (Q := fun _ => Frozen tables rule record call.workspace.history) ?_
    fun _ => ?_
  · apply Meets.modify
    rintro _ ⟨rfl, owned⟩
    exact ⟨frozen.sound.withCreated owned, frozen.record, Extends.refl _⟩
  refine Meets.bind (Q := fun _ => Frozen tables rule record call.workspace.history) ?_
    fun _ => ?_
  · refine Meets.tryCatch (deleteProvisionCreatedBuckets_keeps allows script.deletions)
      fun stop => ?_
    exact Meets.mono (bucketsFailed_meets script stop) (fun _ later => later.sound)
      (fun _ _ ended => ended) fun _ _ ended => ended
  · apply Meets.modify
    intro last later
    refine ⟨later.sound.mapRecord (later.sound.pool.withPending fun _ => (nomatch ·)), ?_,
      later.longer.settled settled⟩
    rw [← later.record]
    rfl

omit allows in
/-- A removal leaves no other record than the one that was there. -/
theorem holding_of_removed {directory : RuntimeDirectory} {removal : Removal}
    (held : directory.removed removal = .holding record) : directory = .holding record := by
  cases directory with
  | absent => exact held
  | bare =>
      change (if removal.gone then RuntimeDirectory.absent else .bare) = _ at held
      split at held
      · cases held
      · cases held
  | holding found =>
      change (if removal.gone then RuntimeDirectory.absent
        else if removal.keepsRecord then .holding found else .bare) = _ at held
      split at held
      · cases held
      · split at held
        · exact held
        · cases held

omit allows in
theorem PoolCall.Sound.removeDirectory {call : PoolCall} (sound : call.Sound tables rule)
    (removal : Removal) {event : Nat → RuntimeEvent}
    (allowed : rule call.workspace.history (event call.pool.record.runtime))
    (lab : (event call.pool.record.runtime).OfLab) :
    (call.removeDirectory removal event).Sound tables rule := by
  have placed : (call.mapWorkspace (·.place call.pool.rootDir
      ((call.workspace.directories call.pool.rootDir).removed removal))).Sound tables rule :=
    ⟨sound.workspace.place fun record held =>
      sound.workspace.directories call.pool.rootDir record (holding_of_removed held), sound.pool⟩
  unfold PoolCall.removeDirectory
  dsimp only
  split
  · exact placed.note event allowed lab
  · exact placed

omit allows in
theorem removeRootDir_meets (script : PoolTeardownScript)
    (may : ∀ after, Extends history after →
      rule after (.removed runtime) ∧ rule after (.tornDown runtime)) :
    Meets (removeRootDir script)
      (fun call => call.Sound tables rule ∧ call.pool.record.runtime = runtime ∧
        Extends history call.workspace.history)
      (fun _ => PoolCall.Sound tables rule) fun _ => PoolCall.Sound tables rule := by
  refine Meets.bind (Q := fun _ call => call.Sound tables rule ∧
    call.pool.record.runtime = runtime ∧ Extends history call.workspace.history) ?_ fun _ => ?_
  · apply Meets.modify
    rintro call ⟨sound, rfl, longer⟩
    refine ⟨sound.removeDirectory script.removal (may _ longer).1 trivial, ?_, ?_⟩
    · unfold PoolCall.removeDirectory
      dsimp only
      split
      · rfl
      · rfl
    · unfold PoolCall.removeDirectory
      dsimp only
      split
      · exact longer.concat fun _ => RuntimeEvent.noConfusion
      · exact longer
  refine Meets.bind (Meets.ofExcept (fun _ _ _ holds => holds) fun _ _ _ holds => holds.1)
    fun _ => Meets.read_bind fun call _ => ?_
  split
  · exact Meets.bind (Meets.mono (mapRecord_keeps fun _ _ _ registered =>
        registered.cleanupFailed _) (fun _ holds => holds.1) (fun _ _ ended => ended)
          fun _ _ ended => ended)
      fun _ => Meets.bind (writeMetadata_keeps _) fun _ => Meets.throw fun _ sound => sound
  · apply Meets.modify
    rintro last ⟨sound, rfl, longer⟩
    exact (sound.mapRecord (sound.pool.withState .tornDown)).note .tornDown
      (may _ longer).2 trivial

/-- A teardown keeps the workspace sound, when the rule lets its handle do it. -/
theorem teardown_meets (script : PoolTeardownScript) :
    Meets (teardown script)
      (fun call => call.Sound tables rule ∧ (call.pool.record.state ≠ .tornDown →
        MayTeardown rule call.workspace.history call.pool.record))
      (fun _ => PoolCall.Sound tables rule) fun _ => PoolCall.Sound tables rule := by
  refine Meets.get_bind ?_
  rintro call ⟨sound, may⟩
  split
  · apply Meets.pure
    rintro _ rfl
    exact sound
  · rename_i state
    have fine := may state
    cases needed : call.pool.record.needsCleanup with
    | true =>
        have cleaning : Meets (cleanResources script)
            (Frozen tables rule call.pool.record call.workspace.history) _ _ :=
          cleanResources_meets allows script (fine.destroying needed)
        refine Meets.bind (Meets.mono cleaning ?_ (fun _ _ ended => ended) fun _ _ ended => ended)
          fun _ => Meets.of_start ?_
        · rintro _ rfl
          exact Frozen.start sound
        rintro cleaned ⟨later, same, settled⟩
        have removing : Meets (removeRootDir script) _ (fun _ => PoolCall.Sound tables rule) _ :=
          removeRootDir_meets script
            fun after (longer : Extends cleaned.workspace.history after) =>
              fine.removing after (fun _ => longer.settled settled) fun idle => by
                rw [needed] at idle
                cases idle
        refine Meets.mono removing ?_ (fun _ _ ended => ended) fun _ _ ended => ended
        rintro _ rfl
        exact ⟨later, same, Extends.refl _⟩
    | false =>
        have removing : Meets (removeRootDir script) _ (fun _ => PoolCall.Sound tables rule) _ :=
          removeRootDir_meets script
            fun after (longer : Extends call.workspace.history after) =>
              fine.removing after (fun needs => by
                rw [needed] at needs
                cases needs) fun _ => longer
        refine Meets.bind (Q := fun _ start => start = call) (Meets.pure fun _ same => same)
          fun _ => Meets.mono removing ?_ (fun _ _ ended => ended) fun _ _ ended => ended
        rintro _ rfl
        exact ⟨sound, rfl, Extends.refl _⟩

/-! ## Provisioning -/

omit allows in
theorem compensationFailed_meets {α : Type} {Q : α → PoolCall → Prop}
    (script : PoolTeardownScript) (error : String) (stop : RuntimeStop) :
    Meets (compensationFailed script error stop) (PoolCall.Sound tables rule) Q
      fun _ => PoolCall.Sound tables rule := by
  unfold compensationFailed
  split
  · exact failedCleanup_meets _ _ _
  · exact Meets.throw fun _ sound => sound

theorem discardRootDir_keeps (script : PoolTeardownScript) (error : String) :
    Keeps (discardRootDir script error) (PoolCall.Sound tables rule) := by
  refine Keeps.bind (Keeps.modify fun call sound =>
    sound.removeDirectory script.removal (allows.discarded ..) trivial) fun _ => ?_
  refine Keeps.bind (caught_keeps (Keeps.ofExcept _)) fun _ => Keeps.get_bind fun call _ => ?_
  split
  · exact Keeps.bind (mapRecord_keeps fun _ _ _ registered => registered.cleanupFailed _)
      fun _ => Keeps.bind (caught_keeps (writeMetadata_keeps _)) fun _ => Keeps.throw _
  · exact Keeps.pure _

theorem compensate_keeps (script : PoolTeardownScript) (stop : RuntimeStop) :
    Keeps (compensate script stop) (PoolCall.Sound tables rule) := by
  unfold compensate
  split
  · rename_i error _
    refine Meets.get_bind fun call sound => ?_
    refine Meets.bind (Q := fun _ => PoolCall.Sound tables rule) ?_ fun _ => ?_
    · refine Meets.tryCatch (R := fun _ => PoolCall.Sound tables rule) ?_ fun stop =>
        compensationFailed_meets script error stop
      split
      · rename_i started
        have may : ∀ after labName, Extends call.workspace.history after →
            rule after (.destroying call.pool.record.runtime labName) :=
          fun after labName longer =>
            allows.destroying after _ labName (longer.subset (sound.pool.started started))
        refine Meets.mono (teardownWorkers_meets allows script.labs may) ?_
          (fun _ _ ended => ended.1.sound) fun _ _ frozen => frozen.sound
        rintro _ rfl
        exact Frozen.start sound
      · apply Meets.pure
        rintro _ rfl
        exact sound
    · refine Keeps.bind (Meets.tryCatch (Keeps.of_frozen fun _ _ =>
          deleteProvisionCreatedBuckets_keeps allows script.deletions)
        fun stop => compensationFailed_meets script error stop) fun _ => ?_
      exact Keeps.bind (discardRootDir_keeps allows script error) fun _ => Keeps.throw _
  · exact Keeps.throw _

theorem provisionPool_keeps (script : ProvisionScript) :
    Keeps (provisionPool script) (PoolCall.Sound tables rule) := by
  have stages : Keeps (do
      runStage script.deploy .deploy
      runStage script.observability .observability
      runStage script.pingmesh .pingmesh
      runStage script.warm .warm) (PoolCall.Sound tables rule) :=
    Keeps.bind (runStage_keeps allows _ _) fun _ => Keeps.bind (runStage_keeps allows _ _)
      fun _ => Keeps.bind (runStage_keeps allows _ _) fun _ => runStage_keeps allows _ _
  refine Keeps.bind (Keeps.tryCatch stages fun stop => compensate_keeps allows _ stop) fun _ => ?_
  exact Keeps.bind (mapRecord_keeps fun _ _ _ registered => { registered with }) fun _ =>
    writeMetadata_keeps _

end NetOpsBench
