import NetOpsBench.Faults.Transaction
import NetOpsBench.Faults.UndoJournal

/-!
# The law of the undo journal

However the commands of an injection end, the fault is in place and tracked, or every journaled
operation is restored and nothing is tracked, or the fault is tracked as residual with every
operation that was begun in its journal (`inject_journaled`). A later recovery restores the whole
journal in reverse order, unless the periodic controller of the fault does not stop
(`stuckController_keeps`).
-/

namespace NetOpsBench

open Program NetworkWorld NetworkFaultHandler

variable {δ : Type}

/-! ## The property -/

/-- The fault is tracked, and every operation that was prepared has been executed. -/
structure InPlace (net : NetworkServices δ) (episode : NetworkEpisode) (before : NetworkWorld δ)
    (info : NetworkFault) (after : NetworkWorld δ) : Prop where
  success : info.success = true
  tracked : after.tracker.activeFaults = before.tracker.activeFaults ++ [info]
  executed : ∃ operations evidence lab,
    (net.prepare episode).outcome before.lab = (.ok (operations, evidence), lab) ∧
      after.applied = before.applied ++ operations

/-- Nothing is tracked, and every journaled operation was restored in reverse order. -/
structure Compensated (before : NetworkWorld δ) (info : NetworkFault) (after : NetworkWorld δ) :
    Prop where
  failed : info.success = false
  untracked : after.tracker.activeFaults = before.tracker.activeFaults
  journaled : after.attempted = before.attempted ++ info.metadata.journal
  restored : after.restores =
    before.restores ++ info.metadata.journal.reverse.map fun operation => ⟨operation, true⟩

/-- The fault is tracked as residual, with every operation that was begun in its journal. -/
structure LeftResidual (before : NetworkWorld δ) (info : NetworkFault)
    (after : NetworkWorld δ) : Prop where
  failed : info.success = false
  tracked : after.tracker.activeFaults =
    before.tracker.activeFaults ++ [{ info with residualMutation := true }]
  journaled : after.attempted = before.attempted ++ info.metadata.journal

/-- A recovery attempts the restore of every journaled operation in reverse order, and the fault
leaves the tracker when all of them succeeded. -/
def RestoresJournal (net : NetworkServices δ) (fault : NetworkFault) (later : NetworkWorld δ) :
    Prop :=
  ∃ recovery after attempts, (recover net fault).outcome later = (.ok recovery, after) ∧
    after.restores = later.restores ++ attempts ∧
    attempts.map RestoreAttempt.operation = fault.metadata.journal.reverse ∧
    ((∀ other ∈ after.tracker.activeFaults, other.metadata.faultId ≠ fault.metadata.faultId) ↔
      ∀ attempt ∈ attempts, attempt.succeeded = true)

/-- The thread of the fault, if it has one, ends while it is joined. -/
def ControllerStops (net : NetworkServices δ) (fault : NetworkFault) (later : NetworkWorld δ) :
    Prop :=
  ∀ controlId control, fault.metadata.controlId = some controlId →
    later.tracker.backgroundFaultControls.get controlId = some control →
      (net.joinThread controlId later.lab).1 = true

/-- A recovery that only reports the controller: the fault stays tracked, and no restore is
attempted. -/
def WaitsForController (net : NetworkServices δ) (fault : NetworkFault)
    (later : NetworkWorld δ) : Prop :=
  ∃ recovery after, (recover net fault).outcome later = (.ok recovery, after) ∧
    recovery.recovered = false ∧ recovery.error = some "Periodic controller still running" ∧
    after.restores = later.restores ∧
    after.tracker.activeFaults = later.tracker.activeFaults

namespace NetworkFaultHandler

variable {net : NetworkServices δ}

/-! ## `recover` -/

/-- What the loop of `recover` has done. -/
structure Restored (before : NetworkWorld δ) (operations : List Operation) (errors : List String)
    (attempts : List RestoreAttempt) (after : NetworkWorld δ) : Prop where
  restores : after.restores = before.restores ++ attempts
  order : attempts.map RestoreAttempt.operation = operations
  succeeded : errors = [] ↔ ∀ attempt ∈ attempts, attempt.succeeded = true
  tracker : after.tracker = before.tracker
  info : after.info = before.info
  attempted : after.attempted = before.attempted

theorem attemptRestore_outcome (net : NetworkServices δ) (device : String)
    (operation : Operation) (world : NetworkWorld δ) :
    ∃ errors after, (attemptRestore net device operation).outcome world = (.ok errors, after) ∧
      Restored world [operation] errors [⟨operation, decide (errors = [])⟩] after := by
  unfold attemptRestore
  rw [outcome_bind, outcome_tryCatch, outcome_bind, outcome_perform]
  cases ((restoreOperation net device operation).outcome world.lab).1 with
  | ok done => exact ⟨_, _, rfl, rfl, rfl, by simp, rfl, rfl, rfl⟩
  | error exc => exact ⟨_, _, rfl, rfl, rfl, by simp, rfl, rfl, rfl⟩

theorem restoreAll_outcome (net : NetworkServices δ) (device : String)
    (operations : List Operation) (world : NetworkWorld δ) :
    ∃ errors attempts after, (restoreAll net device operations).outcome world = (.ok errors, after) ∧
      Restored world operations errors attempts after := by
  induction operations generalizing world with
  | nil => exact ⟨[], [], world, rfl, (List.append_nil _).symm, rfl, by simp, rfl, rfl, rfl⟩
  | cons operation operations ih =>
      obtain ⟨errors, middle, first, turn⟩ := attemptRestore_outcome net device operation world
      obtain ⟨later, attempts, after, rest, loop⟩ := ih middle
      have whole : (restoreAll net device (operation :: operations)).outcome world =
          (.ok (errors ++ later), after) := by
        unfold restoreAll
        rw [outcome_bind_ok first, outcome_bind_ok rest, outcome_pure]
      refine ⟨_, ⟨operation, decide (errors = [])⟩ :: attempts, after, whole, ?_⟩
      constructor
      · rw [loop.restores, turn.restores, List.append_assoc, List.singleton_append]
      · rw [List.map_cons, loop.order]
      · simp [loop.succeeded]
      · rw [loop.tracker, turn.tracker]
      · rw [loop.info, turn.info]
      · rw [loop.attempted, turn.attempted]

/-- The tracker after a recovery. -/
def recoveredTracker (fault : NetworkFault) (errors : List String)
    (tracker : FaultTracker NetworkMetadata) : FaultTracker NetworkMetadata :=
  if errors = [] then removeOwned fault tracker else tracker

/-- A recovery whose controller has stopped. -/
theorem recover_outcome {fault : NetworkFault} {world stopped : NetworkWorld δ}
    (stops : (stopController net fault).outcome world = (.ok true, stopped)) :
    ∃ errors attempts restored,
      Restored stopped fault.metadata.journal.reverse errors attempts restored ∧
      (recover net fault).outcome world =
        (.ok
          { type := fault.type
            device := fault.device
            recovered := decide (errors = [])
            error := if errors = [] then none else some (Text.join "; " errors) },
          { restored with tracker := recoveredTracker fault errors restored.tracker }) := by
  obtain ⟨errors, attempts, restored, loop, done⟩ := restoreAll_outcome net
    (fault.device.getD "") fault.metadata.journal.reverse stopped
  refine ⟨errors, attempts, restored, done, ?_⟩
  unfold recover
  rw [outcome_bind_ok stops, if_neg (by simp), outcome_bind_ok loop]
  rfl

/-- A control that stops leaves the faults and the restores as they are. -/
theorem stopController_outcome (net : NetworkServices δ) (fault : NetworkFault)
    (world : NetworkWorld δ) :
    ∃ stopped, ((stopController net fault).outcome world).2 = stopped ∧
      stopped.tracker.activeFaults = world.tracker.activeFaults ∧
      stopped.restores = world.restores ∧
      ((ControllerStops net fault world ∧
          ((stopController net fault).outcome world).1 = .ok true) ∨
        (¬ ControllerStops net fault world ∧
          ((stopController net fault).outcome world).1 = .ok false)) := by
  refine ⟨_, rfl, ?_⟩
  unfold stopController
  cases control : fault.metadata.controlId with
  | none =>
      refine ⟨rfl, rfl, .inl ⟨?_, rfl⟩⟩
      intro controlId running named
      rw [control] at named
      cases named
  | some controlId =>
      dsimp only
      unfold stopBackground
      rw [outcome_bind_ok (outcome_get world)]
      cases registered : world.tracker.backgroundFaultControls.get controlId with
      | none =>
          refine ⟨rfl, rfl, .inl ⟨?_, rfl⟩⟩
          intro other running named found
          rw [control] at named
          cases named
          rw [registered] at found
          cases found
      | some running =>
          dsimp only
          cases ended : (net.joinThread controlId world.lab).1 with
          | true =>
              refine ⟨rfl, rfl, .inl ⟨?_, rfl⟩⟩
              intro other running named found
              rw [control] at named
              cases named
              exact ended
          | false =>
              refine ⟨rfl, rfl, .inr ⟨?_, rfl⟩⟩
              intro stops
              have joined := stops controlId running control registered
              rw [ended] at joined
              cases joined

/-- Whether the owner of a fault is gone after `remove_faults`. -/
theorem recoveredTracker_untracked {fault : NetworkFault} {errors : List String}
    {tracker : FaultTracker NetworkMetadata} (mem : fault ∈ tracker.activeFaults)
    (owned : fault.metadata.faultId.isSome = true) :
    (∀ other ∈ (recoveredTracker fault errors tracker).activeFaults,
      other.metadata.faultId ≠ fault.metadata.faultId) ↔ errors = [] := by
  obtain ⟨owner, owns⟩ := Option.isSome_iff_exists.mp owned
  unfold recoveredTracker
  by_cases none : errors = []
  · rw [if_pos none]
    refine iff_of_true ?_ none
    intro other remains
    simp only [removeOwned, owns, FaultTracker.removeFaults, List.mem_filter] at remains
    simpa [owns] using remains.2
  · rw [if_neg none]
    refine iff_of_false ?_ none
    intro absent
    exact absent fault mem rfl

theorem recover_restores {fault : NetworkFault} {later : NetworkWorld δ}
    (mem : fault ∈ later.tracker.activeFaults) (owned : fault.metadata.faultId.isSome = true)
    (stops : ControllerStops net fault later) : RestoresJournal net fault later := by
  obtain ⟨stopped, left, faults, restores, verdict⟩ := stopController_outcome net fault later
  have ended : (stopController net fault).outcome later = (.ok true, stopped) := by
    obtain ⟨-, answer⟩ | ⟨running, -⟩ := verdict
    · exact Prod.ext answer left
    · exact absurd stops running
  obtain ⟨errors, attempts, restored, loop, recovered⟩ := recover_outcome ended
  refine ⟨_, _, attempts, recovered, ?_, loop.order, ?_⟩
  · change restored.restores = _
    rw [loop.restores, restores]
  · rw [← loop.succeeded]
    apply recoveredTracker_untracked _ owned
    rw [loop.tracker, faults]
    exact mem

theorem recover_waits {fault : NetworkFault} {later : NetworkWorld δ}
    (runs : ¬ ControllerStops net fault later) : WaitsForController net fault later := by
  obtain ⟨stopped, left, faults, restores, verdict⟩ := stopController_outcome net fault later
  have ended : (stopController net fault).outcome later = (.ok false, stopped) := by
    obtain ⟨stops, -⟩ | ⟨-, answer⟩ := verdict
    · exact absurd stops runs
    · exact Prod.ext answer left
  refine ⟨⟨fault.type, none, false, some "Periodic controller still running"⟩, stopped, ?_, rfl,
    rfl, restores, faults⟩
  unfold recover
  rw [outcome_bind_ok ended, if_pos rfl]
  rfl

/-! ## `inject` -/

/-- An injection that has not ended: the journal has every operation that was begun. -/
structure Underway (net : NetworkServices δ) (before world : NetworkWorld δ) : Prop where
  failed : world.info.success = false
  owner : world.info.metadata.faultId = some net.faultId
  journaled : world.attempted = before.attempted ++ world.info.metadata.journal
  faults : world.tracker.activeFaults = before.tracker.activeFaults
  restores : world.restores = before.restores

/-- No controller has started. -/
def Uncontrolled (net : NetworkServices δ) (before world : NetworkWorld δ) : Prop :=
  Underway net before world ∧ world.info.metadata.controlId = none

/-- The operations up to some point have been executed. -/
def Executed (net : NetworkServices δ) (before : NetworkWorld δ) (operations : List Operation)
    (world : NetworkWorld δ) : Prop :=
  Uncontrolled net before world ∧ world.applied = before.applied ++ operations

variable {before : NetworkWorld δ} {P : NetworkWorld δ → Prop} {α : Type}

/-- Commands in the lab keep what does not speak of the lab. -/
theorem perform_meets {commands : Program δ Raised α} {P R : NetworkWorld δ → Prop}
    (kept : ∀ world lab, P world → P { world with lab := lab })
    (raised : ∀ world, P world → R world) :
    Meets (perform commands) P (fun _ => P) fun _ => R := by
  intro world holds
  rw [outcome_perform]
  cases (commands.outcome world.lab).1 with
  | ok a => exact kept world _ holds
  | error exc => exact raised _ (kept world _ holds)

theorem Uncontrolled.lab {world : NetworkWorld δ} (under : Uncontrolled net before world)
    (lab : δ) : Uncontrolled net before { world with lab := lab } :=
  ⟨⟨under.1.failed, under.1.owner, under.1.journaled, under.1.faults, under.1.restores⟩, under.2⟩

theorem executeAll_meets (device : String) (operations done : List Operation) :
    Meets (executeAll net device operations) (Executed net before done)
      (fun _ => Executed net before (done ++ operations))
      fun _ => Uncontrolled net before := by
  induction operations generalizing done with
  | nil =>
      rw [List.append_nil]
      exact Meets.pure fun world holds => holds
  | cons operation operations ih =>
      unfold executeAll
      apply Meets.bind (Q := fun _ world => (world.info.success = false ∧
        world.info.metadata.faultId = some net.faultId ∧
        world.attempted ++ [operation] = before.attempted ++ world.info.metadata.journal ∧
        world.tracker.activeFaults = before.tracker.activeFaults ∧
        world.restores = before.restores) ∧ world.info.metadata.controlId = none ∧
        world.applied = before.applied ++ done)
      · apply Meets.modify
        intro world holds
        obtain ⟨⟨under, free⟩, applied⟩ := holds
        refine ⟨⟨under.failed, under.owner, ?_, under.faults, under.restores⟩, free, applied⟩
        rw [under.journaled, List.append_assoc]
      · intro _
        apply Meets.bind (Q := fun _ => Executed net before done)
        · apply Meets.modify
          intro world holds
          obtain ⟨⟨failed, owner, journaled, faults, restores⟩, free, applied⟩ := holds
          exact ⟨⟨⟨failed, owner, journaled, faults, restores⟩, free⟩, applied⟩
        · intro _
          apply Meets.bind (Q := fun _ => Executed net before done)
          · apply perform_meets
            · intro world lab holds
              exact ⟨holds.1.lab lab, holds.2⟩
            · intro world holds
              exact holds.1
          · intro _
            apply Meets.bind (Q := fun _ => Executed net before (done ++ [operation]))
            · apply Meets.modify
              intro world holds
              obtain ⟨⟨under, free⟩, applied⟩ := holds
              refine ⟨⟨⟨under.failed, under.owner, under.journaled, under.faults,
                under.restores⟩, free⟩, ?_⟩
              rw [applied, List.append_assoc]
            · intro _
              have rest := ih (done ++ [operation])
              rwa [List.append_assoc, List.singleton_append] at rest

/-- The controller, when it starts, is the last that may fail. -/
theorem keepFlapping_meets (episode : NetworkEpisode) (operations : List Operation) :
    Meets (keepFlapping net episode) (Executed net before operations)
      (fun _ world => Underway net before world ∧
        world.applied = before.applied ++ operations)
      fun _ => Uncontrolled net before := by
  unfold keepFlapping
  by_cases flapping : episode.faultType = "route_flapping"
  · rw [if_pos flapping]
    unfold startController
    dsimp only
    by_cases positive :
        min (episode.downTime.getD net.ctx.flappingDownSeconds)
          (episode.upTime.getD net.ctx.flappingUpSeconds) ≤ 0
    · rw [if_pos positive]
      exact Meets.throw fun world holds => holds.1
    · rw [if_neg positive]
      apply Meets.bind (Q := fun _ => Executed net before operations)
      · apply Meets.modify
        intro world holds
        obtain ⟨⟨under, free⟩, applied⟩ := holds
        exact ⟨⟨⟨under.failed, under.owner, under.journaled, under.faults, under.restores⟩, free⟩,
          applied⟩
      · intro _
        apply Meets.bind (Q := fun _ => Executed net before operations)
        · apply perform_meets
          · intro world lab holds
            exact ⟨holds.1.lab lab, holds.2⟩
          · intro world holds
            exact holds.1
        · intro _
          apply Meets.modify
          intro world holds
          obtain ⟨⟨under, free⟩, applied⟩ := holds
          exact ⟨⟨under.failed, under.owner, under.journaled, under.faults, under.restores⟩,
            applied⟩
  · rw [if_neg flapping]
    exact Meets.pure fun world holds => ⟨holds.1.1, holds.2⟩

/-- The body of the `try` ends with the fault in place, or with no controller started. -/
theorem injectBody_meets (net : NetworkServices δ) (episode : NetworkEpisode)
    (before : NetworkWorld δ) :
    Meets (injectBody net episode)
      (fun world => Executed net before [] world ∧ world.lab = before.lab)
      (fun _ world => InPlace net episode before world.info world ∧
        world.info.metadata.faultId = some net.faultId)
      fun _ => Uncontrolled net before := by
  unfold injectBody
  apply Meets.bind (Q := fun plan world => Executed net before [] world ∧
    ∃ lab, (net.prepare episode).outcome before.lab = (.ok plan, lab))
  · intro world holds
    obtain ⟨executed, same⟩ := holds
    rw [outcome_perform, same]
    rcases prepared : (net.prepare episode).outcome before.lab with ⟨answer, lab⟩
    cases answer with
    | ok plan => exact ⟨⟨executed.1.lab lab, executed.2⟩, lab, rfl⟩
    | error exc => exact executed.1.lab lab
  · intro plan
    obtain ⟨operations, evidence⟩ := plan
    apply Meets.of_start
    intro start holds
    obtain ⟨executed, lab, prepared⟩ := holds
    apply Meets.mono (P := Executed net before []) (Q := fun _ world =>
      InPlace net episode before world.info world ∧
        world.info.metadata.faultId = some net.faultId) (R := fun _ => Uncontrolled net before)
    · apply Meets.bind (Q := fun _ => Executed net before [])
      · apply Meets.modify
        intro world holds
        obtain ⟨⟨under, free⟩, applied⟩ := holds
        exact ⟨⟨⟨under.failed, under.owner, under.journaled, under.faults, under.restores⟩, free⟩,
          applied⟩
      · intro _
        apply Meets.bind (executeAll_meets episode.targetDevice operations [])
        intro _
        apply Meets.read_bind
        intro shown _
        apply Meets.bind (Q := fun _ => Executed net before operations)
        · apply perform_meets
          · intro world lab holds
            exact ⟨holds.1.lab lab, holds.2⟩
          · intro world holds
            exact holds.1
        · intro _
          apply Meets.bind (keepFlapping_meets episode operations)
          intro _
          apply Meets.bind (Q := fun _ world => world.info.success = true ∧
            world.info.metadata.faultId = some net.faultId ∧
            world.tracker.activeFaults = before.tracker.activeFaults ∧
            world.applied = before.applied ++ operations)
          · apply Meets.modify
            intro world holds
            exact ⟨rfl, holds.1.owner, holds.1.faults, holds.2⟩
          · intro _
            apply Meets.get_bind
            intro shown holds
            apply Meets.modify
            intro world same
            subst same
            obtain ⟨success, owner, faults, applied⟩ := holds
            exact ⟨⟨success, by simp [faults], operations, evidence, lab, prepared, applied⟩, owner⟩
    · intro world same
      subst same
      exact executed
    · intro _ world holds
      exact holds
    · intro _ world holds
      exact holds

/-- An identifier that was not drawn before. -/
def FreshOwner (net : NetworkServices δ) (before : NetworkWorld δ) : Prop :=
  ∀ other ∈ before.tracker.activeFaults, other.metadata.faultId ≠ some net.faultId

/-- Attempts that all succeeded are told by their operations. -/
theorem attempts_of_succeeded {attempts : List RestoreAttempt} {operations : List Operation}
    (order : attempts.map RestoreAttempt.operation = operations)
    (succeeded : ∀ attempt ∈ attempts, attempt.succeeded = true) :
    attempts = operations.map fun operation => ⟨operation, true⟩ := by
  subst order
  rw [List.map_map]
  symm
  rw [List.map_congr_left (g := id), List.map_id]
  intro attempt mem
  have done := succeeded attempt mem
  cases attempt
  simp_all

theorem removeOwned_of_fresh {fault : NetworkFault} {tracker : FaultTracker NetworkMetadata}
    {owner : String} (owns : fault.metadata.faultId = some owner)
    (fresh : ∀ other ∈ tracker.activeFaults, other.metadata.faultId ≠ some owner) :
    (removeOwned fault tracker).activeFaults = tracker.activeFaults := by
  simp only [removeOwned, owns, FaultTracker.removeFaults, List.filter_eq_self]
  intro other mem
  simp [fresh other mem]

/-- What `track_residual` tracks of a failed fault. -/
theorem residual_eq {fault : NetworkFault} (failed : fault.success = false) (error : String) :
    { withError error fault with
        success := false, error := some error, residualMutation := true } =
      { withError error fault with residualMutation := true } := by
  cases fault
  simp_all [withError]

/-- The world of the `except` clause -/
def raisedWorld (exc : Raised) (world : NetworkWorld δ) : NetworkWorld δ :=
  { world with info := withError exc.message world.info }

theorem compensate_eq {world restored : NetworkWorld δ} {exc : Raised} {recovery : Recovery}
    (recovered : (recover net (raisedWorld exc world).info).outcome (raisedWorld exc world) =
      (.ok recovery, restored)) :
    (compensate net exc).outcome world =
      (.ok ⟨⟩, if recovery.recovered = true then restored
        else { restored with
          info := withError (residualError exc recovery) restored.info
          tracker := restored.tracker.trackResidual
            (withError (residualError exc recovery) restored.info)
            (residualError exc recovery) }) := by
  unfold raisedWorld at recovered
  unfold compensate setInfo
  rw [outcome_bind_ok (outcome_modify _ world), outcome_bind_ok (outcome_get _),
    outcome_bind_ok recovered]
  split
  · rfl
  · rfl

/-- The `except` clause compensates, or tracks the fault as residual. -/
theorem compensate_outcome {world : NetworkWorld δ} (fresh : FreshOwner net before)
    (under : Uncontrolled net before world) (exc : Raised) :
    ∃ after, (compensate net exc).outcome world = (.ok ⟨⟩, after) ∧
      after.info.metadata.faultId = some net.faultId ∧
      (Compensated before after.info after ∨ LeftResidual before after.info after) := by
  obtain ⟨under, free⟩ := under
  have stops : (stopController net (raisedWorld exc world).info).outcome (raisedWorld exc world) =
      (.ok true, raisedWorld exc world) := by
    unfold stopController
    rw [show (raisedWorld exc world).info.metadata.controlId = none from free]
    rfl
  obtain ⟨errors, attempts, restored, loop, recovered⟩ := recover_outcome stops
  have faults : restored.tracker.activeFaults = before.tracker.activeFaults := by
    rw [loop.tracker]
    exact under.faults
  have failed : restored.info.success = false := by
    rw [loop.info]
    exact under.failed
  have journaled : restored.attempted = before.attempted ++ restored.info.metadata.journal := by
    rw [loop.attempted, loop.info]
    exact under.journaled
  have owner : restored.info.metadata.faultId = some net.faultId := by
    rw [loop.info]
    exact under.owner
  refine ⟨_, compensate_eq recovered, ?_⟩
  by_cases complete : errors = []
  · rw [if_pos (by simp [complete])]
    refine ⟨owner, .inl ?_⟩
    constructor
    · exact failed
    · have raisedOwner : (raisedWorld exc world).info.metadata.faultId = some net.faultId :=
        under.owner
      change (recoveredTracker _ errors restored.tracker).activeFaults = _
      unfold recoveredTracker
      rw [if_pos complete, removeOwned_of_fresh raisedOwner, faults]
      rw [faults]
      exact fresh
    · exact journaled
    · change restored.restores = before.restores ++
        restored.info.metadata.journal.reverse.map fun operation => ⟨operation, true⟩
      rw [loop.restores, loop.info,
        attempts_of_succeeded loop.order (loop.succeeded.mp complete)]
      exact congrArg (· ++ _) under.restores
  · rw [if_neg (by simp [complete])]
    refine ⟨owner, .inr ?_⟩
    constructor
    · exact failed
    · simp only [recoveredTracker, if_neg complete]
      rw [FaultTracker.activeFaults_trackResidual, faults, residual_eq failed]
    · exact journaled

/-- How an injection ends. -/
theorem inject_outcome (net : NetworkServices δ) (episode : NetworkEpisode)
    {before : NetworkWorld δ} (fresh : FreshOwner net before) :
    ∃ info after, (inject net episode).outcome before = (.ok info, after) ∧
      info.metadata.faultId = some net.faultId ∧
      (InPlace net episode before info after ∨ Compensated before info after ∨
        LeftResidual before info after) := by
  have start : Executed net before []
      { before with info := newInfo net episode } ∧
      ({ before with info := newInfo net episode } : NetworkWorld δ).lab = before.lab := by
    refine ⟨⟨⟨⟨rfl, rfl, ?_, rfl, rfl⟩, rfl⟩, ?_⟩, rfl⟩
    · exact (List.append_nil _).symm
    · exact (List.append_nil _).symm
  have body := injectBody_meets net episode before _ start
  have begun : (inject net episode).outcome before =
      ((tryCatch (injectBody net episode) (compensate net)) >>= fun _ => do
        let world ← get
        pure world.info : Injection δ NetworkFault).outcome
          { before with info := newInfo net episode } := by
    unfold inject setInfo
    rw [outcome_bind_ok (outcome_modify _ before)]
  rw [begun]
  rcases ended : (injectBody net episode).outcome
    { before with info := newInfo net episode } with ⟨answer, middle⟩
  rw [ended] at body
  cases answer with
  | ok done =>
      have caught : (tryCatch (injectBody net episode) (compensate net)).outcome
          { before with info := newInfo net episode } = (.ok done, middle) := by
        rw [outcome_tryCatch, ended]
      rw [outcome_bind_ok caught]
      exact ⟨middle.info, middle, rfl, body.2, .inl body.1⟩
  | error exc =>
      obtain ⟨after, handled, owner, ends⟩ := compensate_outcome fresh body exc
      have caught : (tryCatch (injectBody net episode) (compensate net)).outcome
          { before with info := newInfo net episode } = (.ok ⟨⟩, after) := by
        rw [outcome_tryCatch, ended]
        exact handled
      rw [outcome_bind_ok caught]
      exact ⟨after.info, after, rfl, owner, .inr ends⟩

/-- The three ends of an injection exclude each other. -/
theorem exactlyOne_of_ends {net : NetworkServices δ} {episode : NetworkEpisode}
    {before after : NetworkWorld δ} {info : NetworkFault}
    (ends : InPlace net episode before info after ∨ Compensated before info after ∨
      LeftResidual before info after) :
    ExactlyOne (InPlace net episode before info after) (Compensated before info after)
      (LeftResidual before info after) := by
  refine ⟨ends, ?_, ?_, ?_⟩
  · intro both
    have same := both.1.success.symm.trans both.2.failed
    cases same
  · intro both
    have same := both.1.success.symm.trans both.2.failed
    cases same
  · intro both
    have longer := congrArg List.length (both.1.untracked.symm.trans both.2.tracked)
    rw [List.length_append, List.length_singleton] at longer
    omega

end NetworkFaultHandler

/-- An injection leaves its fault in place, compensated, or tracked as residual; a later recovery
restores its whole journal, or waits for its controller. -/
theorem inject_journaled (net : NetworkServices δ) (episode : NetworkEpisode)
    (before : NetworkWorld δ) (fresh : FreshOwner net before) :
    (∃ info after, (inject net episode).outcome before = (.ok info, after) ∧
      info.metadata.faultId = some net.faultId ∧
      ExactlyOne (InPlace net episode before info after) (Compensated before info after)
        (LeftResidual before info after)) ∧
    ∀ (fault : NetworkFault) (later : NetworkWorld δ), fault ∈ later.tracker.activeFaults →
      fault.metadata.faultId.isSome = true →
        (ControllerStops net fault later → RestoresJournal net fault later) ∧
          (¬ ControllerStops net fault later → WaitsForController net fault later) := by
  constructor
  · obtain ⟨info, after, ended, owner, ends⟩ := inject_outcome net episode fresh
    exact ⟨info, after, ended, owner, exactlyOne_of_ends ends⟩
  · intro fault later mem owned
    exact ⟨recover_restores mem owned, recover_waits⟩

/-! ## A controller that does not stop -/

/-- The withdrawal of a network. -/
def withdrawal : Operation :=
  { kind := .frr
    apply := ["configure terminal", "router bgp 65001", "no network 10.1.0.0/24", "end",
      "write memory"]
    restore := ["configure terminal", "router bgp 65001", "network 10.1.0.0/24", "end",
      "write memory"] }

/-- Every command succeeds with no output; a thread that runs does not end in time. -/
def stuckServices : NetworkServices Unit :=
  { shell := ⟨fun _ _ lab => (.ok { returncode := 0 }, lab)⟩
    ctx := smallContext
    loadAddresses := fun _ => .ok []
    prepare := fun _ => pure ([withdrawal], {})
    faultId := "f1"
    controlId := "c1"
    startThread := pure ⟨⟩
    joinThread := fun _ lab => (false, lab) }

def flappingEpisode : NetworkEpisode := { faultType := "route_flapping", targetDevice := "leaf1" }

theorem noFaults_fresh : FreshOwner stuckServices { lab := () } := by
  intro other mem
  cases mem

theorem inject_journaled_flapping :
    (∃ info after, (inject stuckServices flappingEpisode).outcome { lab := () } = (.ok info, after) ∧
      info.metadata.faultId = some stuckServices.faultId ∧
      ExactlyOne (InPlace stuckServices flappingEpisode { lab := () } info after)
        (Compensated { lab := () } info after) (LeftResidual { lab := () } info after)) :=
  (inject_journaled stuckServices flappingEpisode { lab := () } noFaults_fresh).1

/-- The fault that the injection tracks. -/
def flappingFault : NetworkFault :=
  { type := "route_flapping"
    device := some "leaf1"
    metadata :=
      { faultId := some "f1"
        mechanism := some "route_flapping"
        journal := [withdrawal]
        controlId := some "c1" } }

def flappingWorld : NetworkWorld Unit :=
  { lab := ()
    tracker :=
      { activeFaults := [flappingFault]
        backgroundFaultControls := Dict.set .empty "c1" { downTime := 10, upTime := 10 } }
    info := flappingFault
    attempted := [withdrawal]
    applied := [withdrawal] }

theorem flapping_injected :
    (inject stuckServices flappingEpisode).outcome { lab := () } =
      (.ok flappingFault, flappingWorld) := by
  rfl

/-- The fault of a controller that does not stop is not restored. -/
theorem stuckController_keeps :
    (inject stuckServices flappingEpisode).outcome { lab := () } =
        (.ok flappingFault, flappingWorld) ∧
      flappingFault ∈ flappingWorld.tracker.activeFaults ∧
      ¬ RestoresJournal stuckServices flappingFault flappingWorld := by
  refine ⟨flapping_injected, List.mem_singleton_self _, ?_⟩
  intro restores
  obtain ⟨recovery, after, attempts, recovered, appended, order, -⟩ := restores
  have runs : ¬ ControllerStops stuckServices flappingFault flappingWorld := by
    intro stops
    have joined := stops "c1" _ rfl rfl
    cases joined
  obtain ⟨waiting, left, waited, -, -, kept, -⟩ := recover_waits runs
  rw [recovered] at waited
  cases waited
  have noAttempt : attempts = [] := by simpa [kept] using appended
  rw [noAttempt] at order
  cases order

end NetOpsBench
