import Mathlib.Algebra.Order.Field.Rat
import Mathlib.Tactic.Linarith
import NetOpsBench.Scenario.Handoff

/-!
# What a successful cleanup has seen

`cleanupTrace` lists the turns that the loop of a cleanup takes. The evidence for a success is that of
its last turn: `meets_cleanupTurn_evidence` says what one turn finds when it ends in a success, and
what it leaves to the next turn otherwise. The wait of an observation is that of
`capture_observation_window` of `netopsbench/platform/scenario/observation.py`.
-/

namespace NetOpsBench

open Program

/-! ## Observations of a duration -/

/-- The readings of the monotonic clock in one turn of the wait. -/
structure WaitTurn : Type where
  remaining : Rat
  budget : Rat
  slept : Rat

/-- What a capture reads of the clocks. -/
structure CaptureScript : Type where
  checked : Rat
  started : Rat
  startTime : Int
  turns : List WaitTurn

/-- The rest of the wait, unless its turns do not end it; a reading at which it ends -/
def waitUntil (stop deadline : Rat) : List WaitTurn → Option (Except StepError Rat)
  | [] => none
  | turn :: later =>
      if stop - turn.remaining ≤ 0 then some (.ok turn.remaining)
      else if deadline - turn.budget ≤ 0 || deadline - turn.slept ≤ 0 then
        some (.error (.timeout "Operation deadline exceeded"))
      else waitUntil stop deadline later

/-- `safe_duration` -/
def safeDuration (duration : Int) : Int := max 0 duration

/-- `capture_observation_window`, and the reading of the clock at which its wait ends -/
def captureObservationWindow (duration : Int) (deadline : Rat) (script : CaptureScript) :
    Option (Except StepError (BaselineWindow × Rat)) :=
  let safe := safeDuration duration
  if deadline - script.checked ≤ 0 then some (.error (.timeout "Operation deadline exceeded"))
  else if deadline - script.checked < safe then
    some (.error (.timeout "Insufficient recovery budget for a complete observation window"))
  else
    (waitUntil (script.started + safe) deadline script.turns).map fun waited =>
      waited.map fun ended =>
        ({ number := 0
           startTime := some { micros := script.startTime, aware := true }
           endTime := some { micros := script.startTime + safe * 1000000, aware := true }
           durationSeconds := some safe }, ended)

/-- An observation of `wait_and_observe` has the times of a window that was captured, and the duration
that was asked for. -/
def Observes (duration : Option Int) (deadline : Rat) (step : Step Observation) : Prop :=
  ∀ observation, step.answer = .ok observation →
    ∃ seconds script window ended, duration = some seconds ∧
      captureObservationWindow seconds deadline script = some (.ok (window, ended)) ∧
        observation.window.startTime = window.startTime ∧
        observation.window.endTime = window.endTime ∧
        observation.window.durationSeconds = some seconds

theorem le_of_waitUntil {stop deadline ended : Rat} {turns : List WaitTurn}
    (waited : waitUntil stop deadline turns = some (.ok ended)) : stop ≤ ended := by
  induction turns with
  | nil => cases waited
  | cons turn later ih =>
      unfold waitUntil at waited
      split at waited
      · rename_i ends
        cases waited
        linarith
      · split at waited
        · cases waited
        · exact ih waited

theorem spans_of_captured {seconds : Int} {deadline ended : Rat} {script : CaptureScript}
    {window : BaselineWindow}
    (captured : captureObservationWindow seconds deadline script = some (.ok (window, ended))) :
    ∃ start : Int, window.startTime = some { micros := start, aware := true } ∧
      window.endTime = some { micros := start + max 0 seconds * 1000000, aware := true } ∧
        script.started + (max 0 seconds : Int) ≤ ended := by
  unfold captureObservationWindow at captured
  dsimp only at captured
  split at captured
  · cases captured
  · split at captured
    · cases captured
    · obtain ⟨answer, waited, isAnswer⟩ := Option.map_eq_some_iff.mp captured
      rcases answer with error | last
      · cases isAnswer
      · cases isAnswer
        exact ⟨script.startTime, rfl, rfl, le_of_waitUntil waited⟩

/-- The window lasts as long as it should, and so does the wait of its capture. -/
structure FullDuration (seconds : Int) (deadline : Rat) (window : BaselineWindow) : Prop where
  spans : ∃ start : Int, window.startTime = some { micros := start, aware := true } ∧
    window.endTime = some { micros := start + max 0 seconds * 1000000, aware := true }
  asked : window.durationSeconds = some seconds
  waited : ∃ script captured ended,
    captureObservationWindow seconds deadline script = some (.ok (captured, ended)) ∧
      captured.startTime = window.startTime ∧ script.started + (max 0 seconds : Int) ≤ ended

theorem FullDuration.of_observes {duration : Option Int} {deadline : Rat}
    {step : Step Observation} {observation : Observation}
    (observes : Observes duration deadline step) (answered : step.answer = .ok observation) :
    ∃ seconds, duration = some seconds ∧ FullDuration seconds deadline observation.window := by
  obtain ⟨seconds, script, window, ended, isDuration, captured, startTime, endTime, asked⟩ :=
    observes observation answered
  obtain ⟨start, starts, stops, waited⟩ := spans_of_captured captured
  refine ⟨seconds, isDuration, ?_⟩
  exact
    { spans := ⟨start, startTime.trans starts, endTime.trans stops⟩
      asked
      waited := ⟨script, window, ended, captured, startTime.symm, waited⟩ }

/-! ## The turns of the loop -/

/-- A turn of the loop, with the flags and the executor that it finds. -/
structure TurnRecord : Type where
  script : AttemptScript
  flags : CleanupFlags
  world : ExecutorWorld

namespace TurnRecord

/-- The turn attempts a recovery. -/
def recovers (record : TurnRecord) : Bool :=
  !(record.world.activeFaults.isEmpty && record.flags.recoveryResults.all (·.succeeded))

/-- The last recovery list after the turn, from the one before it. -/
def resultsAfter (results : Option RecoveryResults) (record : TurnRecord) :
    Option RecoveryResults :=
  if record.recovers then
    match record.script.recovery with
    | .ok results => some results
    | .error _ => results
  else results

/-- The recovery of the turn has failed, and is not to be tried again. -/
def terminal (record : TurnRecord) : Bool :=
  record.recovers &&
    match record.script.recovery with
    | .ok results => results.terminalFailure
    | .error _ => false

end TurnRecord

/-- The turns that the loop of a cleanup takes. -/
def cleanupTrace (case : ScenarioCase) (baselineWindow : Option BaselineWindow)
    (flags : CleanupFlags) (world : ExecutorWorld) : List AttemptScript → List TurnRecord
  | [] => []
  | script :: later =>
      { script, flags, world } ::
        match outcome (cleanupTurn case script flags baselineWindow) world with
        | (.ok (.ok (.again flags)), world) => cleanupTrace case baselineWindow flags world later
        | (.ok (.ok (.stop _)), _) => []
        | (.ok (.error _), _) => []
        | (.error _, _) => []

/-- The last recovery list after some turns. -/
def lastResults (prior : Option RecoveryResults) (trace : List TurnRecord) :
    Option RecoveryResults :=
  trace.foldl TurnRecord.resultsAfter prior

/-! ## What a turn finds -/

/-- No fault is tracked, on an executor with a worker or without one. -/
structure Untracked (hasWorker : Bool) (world : ExecutorWorld) : Prop where
  worker : world.hasWorker = hasWorker
  noFault : world.activeFaults = []

/-- Traffic and health in a turn. -/
structure Converged (hasWorker : Bool) (script : AttemptScript) : Prop where
  traffic : script.traffic.answer = .ok true
  health : hasWorker = true → script.health.answer = .ok []

/-- What is known of an observation before the gate judges it: it is that of the script, made when no
fault was tracked and since the last recovery, before the deadline and under one scope. -/
structure Sighted (hasWorker : Bool) (script : AttemptScript) (observation : Observation)
    (world : ExecutorWorld) : Prop where
  answered : ∃ answer number, script.observation.answer = .ok answer ∧
    observation = { answer with window := { answer.window with number } }
  since : baselineGateErrors observation = [] →
    History.Last ExecutorEvent.Quiet (.observed observation.window true []) world.history
  early : script.observationExpired = false

/-- The scope of the runtime is the one before the observation, where it is known. -/
def ScopeKept (hasWorker : Bool) (script : AttemptScript) : Prop :=
  hasWorker = true → ∀ scope, script.windowScope = some scope →
    ∃ verified, script.verifiedScope = some verified ∧
      scopeChanges (some scope) (some verified) = []

/-- The evidence of a turn that ends the cleanup in a success. -/
structure TurnEvidence (hasWorker attempted : Bool) (baselineWindow : Option BaselineWindow)
    (results : Option RecoveryResults) (script : AttemptScript) (result : CleanupResult)
    (world : ExecutorWorld) : Prop where
  noFault : world.activeFaults = []
  recovered : ∀ list, results = some list → list.succeeded = true
  reported : result.recovery = results
  converged : Converged hasWorker script
  routes : hasWorker = true → script.routeErrors.answer = .ok []
  inTime : script.finalExpired = false
  observed : attempted = true → baselineWindow.isSome = true →
    ∃ observation, Sighted hasWorker script observation world ∧
      baselineGateErrors observation = [] ∧ ScopeKept hasWorker script ∧
        result.validatedBaseline = some observation.window

section Turn

variable {α : Type} {hasWorker : Bool} {script : AttemptScript} {world : ExecutorWorld}
  {F : CleanupResult → ExecutorWorld → Prop} {R : StepError → ExecutorWorld → Prop}

theorem Untracked.reload (untracked : Untracked hasWorker world) :
    Untracked hasWorker world.reload :=
  ⟨untracked.worker, untracked.noFault⟩

theorem Untracked.observe (observation : Observation) (untracked : Untracked hasWorker world) :
    Untracked hasWorker (world.observe observation) :=
  ⟨untracked.worker, untracked.noFault⟩

/-- What a step returns is its answer. -/
theorem meets_perform {P : ExecutorWorld → Prop} (reload : ∀ world, P world → P world.reload)
    (raised : ∀ error world, P world → R error world) (step : Step α) :
    Meets (perform step) P (fun answer world => P world ∧ step.answer = .ok answer) R := by
  unfold perform reloading
  refine Meets.bind (Q := fun _ => P) (Meets.modify fun world holds => ?_) fun _ => ?_
  · split
    · exact reload world holds
    · exact holds
  · refine Meets.ofExcept (fun answer isAnswer world holds => ⟨holds, isAnswer⟩) ?_
    exact fun error _ => raised error

theorem meets_convergePhase (script : AttemptScript) :
    Meets (convergePhase script) (Untracked hasWorker)
      (fun errors world => Untracked hasWorker world ∧ (errors = [] → Converged hasWorker script))
      fun _ _ => True := by
  unfold convergePhase
  have traffic := meets_perform (P := Untracked hasWorker) (R := fun _ _ => True)
    (fun _ => Untracked.reload) (fun _ _ _ => trivial) script.traffic
  refine traffic.bind fun ready => Meets.get_bind fun world now => ?_
  have health := meets_perform (P := Untracked hasWorker) (R := fun _ _ => True)
    (fun _ => Untracked.reload) (fun _ _ _ => trivial)
    (if world.hasWorker then script.health else { answer := .ok [] })
  refine Meets.bind (health.mono (fun after same => same ▸ now.1) (fun _ _ => id) fun _ _ => id)
    fun errors => Meets.pure fun after found => ⟨found.1, fun none => ?_⟩
  obtain ⟨isReady, healthy⟩ := List.append_eq_nil_iff.mp none
  constructor
  · rcases ready with _ | _
    · cases isReady
    · exact now.2
  · intro isWorker
    rw [if_pos (now.1.worker.trans isWorker)] at found
    rw [found.2, List.map_eq_nil_iff.mp healthy]

/-- The observation of a turn. -/
theorem meets_observing_seen (raised : ∀ error world, Untracked hasWorker world → R error world)
    (script : AttemptScript) :
    Meets (observing script.observation) (Untracked hasWorker)
      (fun observation world => Untracked hasWorker world ∧
        (script.observationExpired = false → Sighted hasWorker script observation world)) R := by
  unfold observing
  have performed := meets_perform (P := Untracked hasWorker) (fun _ => Untracked.reload) raised
    script.observation
  refine performed.bind fun answer => Meets.get_bind fun world now => ?_
  refine Meets.bind (Q := fun _ after => after = world.observe answer)
    (Meets.modify fun _ same => by rw [same]) fun _ => Meets.pure fun after same => ?_
  subst same
  refine ⟨now.1.observe answer, fun early => ⟨⟨answer, _, now.2, rfl⟩, fun passed => ?_, early⟩⟩
  have gate : (baselineGateErrors answer).isEmpty = true := List.isEmpty_iff.mpr passed
  unfold ExecutorWorld.observe
  rw [gate, now.1.noFault]
  exact History.last_concat _ _

/-- The phases of a validation end the cleanup only in a failure. -/
theorem meets_provePhase_untracked
    (failed : ∀ result world, result.success = false → F result world) (script : AttemptScript) :
    Meets (provePhase script) (Untracked hasWorker)
      (CleanupPhase.Comes F fun _ => Untracked hasWorker) fun _ _ => True := by
  unfold provePhase
  refine Meets.get_bind fun world untracked => ?_
  split
  · exact meets_goOn fun after same => same ▸ untracked
  · have performed := meets_perform (P := Untracked hasWorker) (R := fun _ _ => True)
      (fun _ => Untracked.reload) (fun _ _ _ => trivial) script.frrAfter
    refine Meets.bind (performed.mono (fun after same => same ▸ untracked) (fun _ _ => id)
      fun _ _ => id) fun after => ?_
    split
    · exact meets_goOn fun _ now => now.1
    · exact meets_finished fun after _ => failed _ after rfl

/-- The scope that a window is observed under. -/
def windowScopeOf (hasWorker : Bool) (script : AttemptScript) : Option RuntimeScope :=
  if hasWorker then script.windowScope else none

theorem meets_scopePhase_untracked
    (failed : ∀ result world, result.success = false → F result world) (case : ScenarioCase)
    (script : AttemptScript) (restored : Bool) :
    Meets (scopePhase case script restored) (Untracked hasWorker)
      (CleanupPhase.Comes F fun windowScope world =>
        Untracked hasWorker world ∧ windowScope = windowScopeOf hasWorker script)
      fun _ _ => True := by
  unfold scopePhase
  refine Meets.get_bind fun world untracked => ?_
  split
  · refine meets_goOn fun after same => ⟨same ▸ untracked, ?_⟩
    unfold ExecutorWorld.windowScope windowScopeOf
    rw [untracked.worker]
  · exact meets_finished fun after _ => failed _ after rfl

/-- The executor once a window has been observed. -/
structure Witnessed (hasWorker : Bool) (script : AttemptScript) (observation : Observation)
    (world : ExecutorWorld) : Prop extends Untracked hasWorker world where
  seen : Sighted hasWorker script observation world

theorem meets_observePhase_seen (script : AttemptScript) :
    Meets (observePhase script) (Untracked hasWorker)
      (CleanupPhase.Comes F (Witnessed hasWorker script)) fun _ _ => True := by
  unfold observePhase
  refine Meets.bind (meets_observing_seen (R := fun _ _ => True) (fun _ _ _ => trivial) script)
    fun observation => ?_
  split
  · exact Meets.throw fun _ _ => trivial
  · rename_i early
    exact meets_goOn fun _ now => ⟨now.1, now.2 (Bool.eq_false_iff.mpr early)⟩

theorem meets_verifyPhase_kept
    (failed : ∀ result world, result.success = false → F result world) (script : AttemptScript)
    (observation : Observation) :
    Meets (verifyPhase script (windowScopeOf hasWorker script))
      (Witnessed hasWorker script observation)
      (CleanupPhase.Comes F fun _ world =>
        Witnessed hasWorker script observation world ∧ ScopeKept hasWorker script)
      fun _ _ => True := by
  unfold verifyPhase
  refine Meets.get_bind fun world witnessed => ?_
  rw [witnessed.worker]
  split
  · split
    · exact meets_finished fun after _ => failed _ after rfl
    · rename_i unchanged
      refine meets_goOn fun after same => ⟨same ▸ witnessed, fun isWorker scope isScope => ?_⟩
      rw [windowScopeOf, if_pos isWorker, isScope] at unchanged
      rcases verified : script.verifiedScope with _ | kept
      · simp [verified] at unchanged
      · refine ⟨kept, rfl, ?_⟩
        simpa [verified] using unchanged
  · rename_i unknown
    refine meets_goOn fun after same => ⟨same ▸ witnessed, fun isWorker scope isScope => ?_⟩
    rw [windowScopeOf, if_pos isWorker, isScope] at unknown
    simp [isWorker] at unknown

theorem meets_revalidate_kept
    (failed : ∀ result world, result.success = false → F result world) (case : ScenarioCase)
    (script : AttemptScript) :
    Meets (revalidate case script) (Untracked hasWorker)
      (CleanupPhase.Comes F fun validated world =>
        Witnessed hasWorker script validated.1 world ∧ ScopeKept hasWorker script)
      fun _ _ => True := by
  unfold revalidate
  refine meets_andThen (meets_provePhase_untracked failed script) fun restored => ?_
  refine meets_andThen (meets_scopePhase_untracked failed case script restored) ?_
  intro windowScope world now
  obtain ⟨untracked, isScope⟩ := now
  subst isScope
  revert world
  refine meets_andThen (meets_observePhase_seen script) fun observation => ?_
  refine meets_andThen (meets_verifyPhase_kept failed script observation) fun verified => ?_
  exact meets_goOn fun _ => id

/-- What a turn has seen before it concludes. -/
structure Judged (hasWorker attempted : Bool) (baselineWindow : Option BaselineWindow)
    (script : AttemptScript) (validated : Option (BaselineWindow × Option RuntimeScope))
    (world : ExecutorWorld) : Prop extends Untracked hasWorker world where
  observed : attempted = true → baselineWindow.isSome = true →
    ∃ observation, Sighted hasWorker script observation world ∧
      baselineGateErrors observation = [] ∧ ScopeKept hasWorker script ∧
        validated.map Prod.fst = some observation.window

variable {flags : CleanupFlags} {baselineWindow : Option BaselineWindow}

theorem meets_gatePhase_judged
    (failed : ∀ result world, result.success = false → F result world) (attempted : Bool)
    (validated : Observation × Option RuntimeScope) :
    Meets (gatePhase flags validated)
      (fun world => Witnessed hasWorker script validated.1 world ∧ ScopeKept hasWorker script)
      (CleanupPhase.Comes F (Judged hasWorker attempted baselineWindow script))
      fun _ _ => True := by
  unfold gatePhase
  split
  · rename_i passed
    refine meets_goOn fun world now => ⟨now.1.toUntracked, fun _ _ => ?_⟩
    exact ⟨validated.1, now.1.seen, List.isEmpty_iff.mp passed, now.2, rfl⟩
  · exact meets_finished fun after _ => failed _ after rfl

theorem meets_validatePhase_judged
    (failed : ∀ result world, result.success = false → F result world) (case : ScenarioCase)
    (script : AttemptScript) (flags : CleanupFlags) (baselineWindow : Option BaselineWindow) :
    Meets (validatePhase case script flags baselineWindow) (Untracked hasWorker)
      (CleanupPhase.Comes F (Judged hasWorker flags.recoveryAttempted baselineWindow script))
      fun _ _ => True := by
  unfold validatePhase
  split
  · refine meets_andThen ?_ (meets_gatePhase_judged failed flags.recoveryAttempted)
    refine Meets.tryCatch (meets_revalidate_kept failed case script) fun error => ?_
    cases error with
    | timeout message => exact meets_finished fun after _ => failed _ after rfl
    | other message => exact Meets.throw fun _ _ => trivial
  · rename_i unvalidated
    refine meets_goOn fun world untracked => ⟨untracked, fun attempted given => ?_⟩
    rw [attempted, given] at unvalidated
    exact absurd rfl unvalidated

theorem Judged.reload {attempted : Bool}
    {validated : Option (BaselineWindow × Option RuntimeScope)}
    (judged : Judged hasWorker attempted baselineWindow script validated world) :
    Judged hasWorker attempted baselineWindow script validated world.reload where
  toUntracked := judged.toUntracked.reload
  observed attempted given := by
    obtain ⟨observation, seen, rest⟩ := judged.observed attempted given
    exact ⟨observation, ⟨seen.answered, seen.since, seen.early⟩, rest⟩

/-- What a turn leaves to the next one. -/
def Passed (hasWorker : Bool) (flags : CleanupFlags) (turn : CleanupTurn)
    (world : ExecutorWorld) : Prop :=
  ∀ next, turn = .again next → next.recoveryAttempted = flags.recoveryAttempted ∧
    next.recoveryResults = flags.recoveryResults ∧ world.hasWorker = hasWorker

/-- What a result says that ends the cleanup: a success has its evidence. -/
def Evident (hasWorker : Bool) (flags : CleanupFlags) (baselineWindow : Option BaselineWindow)
    (script : AttemptScript) (result : CleanupResult) (world : ExecutorWorld) : Prop :=
  result.success = true →
    TurnEvidence hasWorker flags.recoveryAttempted baselineWindow flags.recoveryResults script
      result world

theorem Evident.of_failure {result : CleanupResult} {world : ExecutorWorld}
    (failed : result.success = false) :
    Evident hasWorker flags baselineWindow script result world :=
  fun success => absurd success (by simp [failed])

theorem meets_conclude_evident
    (recovered : ∀ list, flags.recoveryResults = some list → list.succeeded = true)
    (converged : Converged hasWorker script)
    (validated : Option (BaselineWindow × Option RuntimeScope)) :
    Meets (conclude script flags validated)
      (Judged hasWorker flags.recoveryAttempted baselineWindow script validated)
      (CleanupPhase.Comes (Evident hasWorker flags baselineWindow script) (Passed hasWorker flags))
      fun _ _ => True := by
  unfold conclude
  split
  · refine meets_goOn fun _ _ next same => ?_
    cases same
  · rename_i inTime
    refine Meets.get_bind fun world judged => ?_
    have performed := meets_perform
      (P := Judged hasWorker flags.recoveryAttempted baselineWindow script validated)
      (R := fun _ _ => True) (fun _ => Judged.reload) (fun _ _ _ => trivial)
      (if world.hasWorker then script.routeErrors else { answer := .ok [] })
    refine Meets.bind (performed.mono (fun after same => same ▸ judged) (fun _ _ => id)
      fun _ _ => id) fun routeErrors => ?_
    split
    · rename_i noError
      refine meets_finished fun after now _ => ?_
      exact
        { noFault := now.1.noFault
          recovered
          reported := rfl
          converged
          routes := by
            intro isWorker
            have answered := now.2
            rw [if_pos (judged.worker.trans isWorker)] at answered
            rw [answered, List.isEmpty_iff.mp noError]
          inTime := Bool.eq_false_iff.mpr inTime
          observed := now.1.observed }
    · exact meets_finished fun _ _ => Evident.of_failure rfl

theorem meets_convergeTurn_evident (hasWorker : Bool) (case : ScenarioCase)
    (script : AttemptScript) (flags : CleanupFlags) (baselineWindow : Option BaselineWindow)
    (recovered : ∀ list, flags.recoveryResults = some list → list.succeeded = true) :
    Meets (convergeTurn case script flags baselineWindow) (Untracked hasWorker)
      (CleanupPhase.Comes (Evident hasWorker flags baselineWindow script) (Passed hasWorker flags))
      fun _ _ => True := by
  unfold convergeTurn
  refine Meets.bind (meets_convergePhase script) fun errors => Meets.of_start fun world now => ?_
  split
  · rename_i none
    have converged := now.2 (List.isEmpty_iff.mp none)
    refine meets_andThen ?_ (meets_conclude_evident recovered converged)
    refine (meets_validatePhase_judged (fun _ _ => Evident.of_failure) case script flags
      baselineWindow).mono (fun after same => ?_) (fun _ _ => id) fun _ _ => id
    subst same
    exact now.1
  · refine meets_goOn fun after start next same => ?_
    subst start
    split at same
    · cases same
    · cases same
      exact ⟨rfl, rfl, now.1.worker⟩

theorem RecoveryResults.terminalFailure_eq_false {results : RecoveryResults}
    (succeeded : results.succeeded = true) : results.terminalFailure = false := by
  cases results with
  | other => rfl
  | list items =>
      unfold RecoveryResults.terminalFailure
      rw [List.any_eq_false]
      intro item mem
      have recovered := List.all_eq_true.mp succeeded item mem
      cases item with
      | other => cases recovered
      | dict recovered retryable => simp_all [RecoveryItem.recovered, RecoveryItem.terminal]

/-- The flags of a turn after its recovery. -/
structure FlagsAfter (record : TurnRecord) (flags : CleanupFlags) : Prop where
  attempted : flags.recoveryAttempted = (record.flags.recoveryAttempted || record.recovers)
  results : flags.recoveryResults = record.resultsAfter record.flags.recoveryResults

/-- How a turn stands after its recovery. -/
structure Tried (record : TurnRecord) (recovered : Bool × CleanupFlags) (world : ExecutorWorld) :
    Prop where
  recorded : FlagsAfter record recovered.2
  worker : world.hasWorker = record.world.hasWorker
  complete : recovered.1 = true → world.activeFaults = [] ∧
    (∀ list, recovered.2.recoveryResults = some list → list.succeeded = true) ∧
      record.terminal = false
  terminal : record.terminal = true → recovered.2.terminalRecoveryFailure = true

theorem meets_recoverPhase_tried (record : TurnRecord) :
    Meets (recoverPhase record.script { record.flags with attempts := record.flags.attempts + 1 })
      (fun world => world = record.world) (Tried record) fun _ _ => True := by
  unfold recoverPhase
  refine Meets.get_bind fun world same => ?_
  subst same
  dsimp only
  split
  · rename_i complete
    have untried : record.recovers = false := by simp [TurnRecord.recovers, complete]
    rw [Bool.and_eq_true, List.isEmpty_iff, Option.all_eq_true] at complete
    refine Meets.pure fun after same => ?_
    subst same
    exact
      { recorded := ⟨by simp [untried], by simp [TurnRecord.resultsAfter, untried]⟩
        worker := rfl
        complete := fun _ => ⟨complete.1, complete.2, by simp [TurnRecord.terminal, untried]⟩
        terminal := by simp [TurnRecord.terminal, untried] }
  · rename_i incomplete
    have tries : record.recovers = true := by
      rw [TurnRecord.recovers, Bool.eq_false_iff.mpr incomplete, Bool.not_false]
    unfold recoverFault
    refine Meets.bind (Q := fun _ after => after.activeFaults = record.script.tracked ∧
      after.hasWorker = record.world.hasWorker) ?_ fun _ => ?_
    · exact Meets.modify fun after same => same ▸ ⟨rfl, rfl⟩
    · rcases answer : record.script.recovery with error | results
      · refine Meets.pure fun after now => ?_
        exact
          { recorded := ⟨by simp [tries], by simp [TurnRecord.resultsAfter, tries, answer]⟩
            worker := now.2
            complete := fun same => nomatch same
            terminal := by simp [TurnRecord.terminal, answer] }
      · dsimp only
        have recorded : ∀ flags : CleanupFlags, flags.recoveryAttempted = true →
            flags.recoveryResults = some results → FlagsAfter record flags := by
          intro flags attempted isResults
          constructor
          · rw [attempted, tries, Bool.or_true]
          · simp [TurnRecord.resultsAfter, tries, answer, isResults]
        split
        · rename_i complete
          rw [Bool.and_eq_true, List.isEmpty_iff] at complete
          have mild : record.terminal = false := by
            simp [TurnRecord.terminal, answer,
              RecoveryResults.terminalFailure_eq_false complete.1]
          refine Meets.pure fun after now => ?_
          exact
            { recorded := recorded _ rfl rfl
              worker := now.2
              complete := fun _ => ⟨now.1.trans complete.2,
                fun list same => Option.some.inj same ▸ complete.1, mild⟩
              terminal := by simp [mild] }
        · refine Meets.pure fun after now => ?_
          exact
            { recorded := recorded _ rfl rfl
              worker := now.2
              complete := fun same => nomatch same
              terminal := by simp [TurnRecord.terminal, answer] }

/-- How a turn stands that does not end the cleanup. -/
def Continues (record : TurnRecord) (turn : CleanupTurn) (world : ExecutorWorld) : Prop :=
  ∀ flags, turn = .again flags →
    FlagsAfter record flags ∧ world.hasWorker = record.world.hasWorker ∧ record.terminal = false

theorem meets_cleanupTurn_evident (case : ScenarioCase) (baselineWindow : Option BaselineWindow)
    (record : TurnRecord) :
    Meets (cleanupTurn case record.script record.flags baselineWindow)
      (fun world => world = record.world)
      (CleanupPhase.Comes (fun result world => ∀ flags, FlagsAfter record flags →
        Evident record.world.hasWorker flags baselineWindow record.script result world)
        (Continues record)) fun _ _ => True := by
  unfold cleanupTurn
  refine Meets.bind (meets_recoverPhase_tried record) fun recovered => ?_
  refine Meets.of_start fun world tried => ?_
  rcases recovered with ⟨complete, flags⟩
  cases complete with
  | true =>
      obtain ⟨noFault, succeeded, mild⟩ := tried.complete rfl
      refine (meets_convergeTurn_evident record.world.hasWorker case record.script flags
        baselineWindow succeeded).mono (fun after same => ?_) (fun phase after ended => ?_)
        fun _ _ => id
      · subst same
        exact ⟨tried.worker, noFault⟩
      rcases phase with result | turn
      · intro other recorded success
        have evidence := ended success
        rw [tried.recorded.attempted, tried.recorded.results] at evidence
        rw [recorded.attempted, recorded.results]
        exact evidence
      · intro next same
        obtain ⟨attempted, results, worker⟩ := ended next same
        exact ⟨⟨attempted.trans tried.recorded.attempted, results.trans tried.recorded.results⟩,
          worker, mild⟩
  | false =>
      refine meets_goOn fun after start next same => ?_
      subst start
      split at same
      · cases same
      · rename_i retried
        cases same
        refine ⟨tried.recorded, tried.worker, ?_⟩
        rcases terminal : record.terminal with _ | _
        · rfl
        · rw [tried.terminal terminal, Bool.true_or] at retried
          exact absurd rfl retried

end Turn

/-! ## The loop -/

section Loop

variable {case : ScenarioCase} {baselineWindow : Option BaselineWindow} {flags : CleanupFlags}
  {world : ExecutorWorld} {scripts : List AttemptScript}

theorem script_mem_of_cleanupTrace {record : TurnRecord}
    (mem : record ∈ cleanupTrace case baselineWindow flags world scripts) :
    record.script ∈ scripts := by
  induction scripts generalizing flags world with
  | nil => cases mem
  | cons script later ih =>
      rcases List.mem_cons.mp mem with rfl | mem
      · exact List.mem_cons_self
      · split at mem
        · exact List.mem_cons_of_mem _ (ih mem)
        · cases mem
        · cases mem
        · cases mem

/-- No turn follows a failure that is not to be retried. -/
theorem nil_of_terminal {earlier later : List TurnRecord} {record : TurnRecord}
    (isTrace : cleanupTrace case baselineWindow flags world scripts = earlier ++ record :: later)
    (terminal : record.terminal = true) : later = [] := by
  induction scripts generalizing flags world earlier with
  | nil => simp [cleanupTrace] at isTrace
  | cons script rest ih =>
      rw [cleanupTrace] at isTrace
      rcases earlier with _ | ⟨first, earlier⟩
      · obtain ⟨rfl, isLater⟩ := List.cons.inj isTrace
        rw [← isLater]
        split
        · rename_i next after ended
          have continues := (meets_cleanupTurn_evident case baselineWindow
            { script, flags, world }).of_ok rfl ended
          rw [(continues next rfl).2.2] at terminal
          cases terminal
        · rfl
        · rfl
        · rfl
      · obtain ⟨-, isRest⟩ := List.cons.inj isTrace
        split at isRest
        · exact ih isRest
        all_goals simp at isRest

/-- A success of the loop has the evidence of its last turn. -/
theorem turnEvidence_of_success {result : CleanupResult} {after : ExecutorWorld}
    (ended : outcome (cleanupLoop case baselineWindow flags scripts) world = (.ok result, after))
    (success : result.success = true) :
    ∃ earlier record,
      cleanupTrace case baselineWindow flags world scripts = earlier ++ [record] ∧
      TurnEvidence world.hasWorker
        (flags.recoveryAttempted ||
          (cleanupTrace case baselineWindow flags world scripts).any (·.recovers))
        baselineWindow
        (lastResults flags.recoveryResults
          (cleanupTrace case baselineWindow flags world scripts))
        record.script result after := by
  induction scripts generalizing flags world with
  | nil =>
      cases ended
      cases success
  | cons script later ih =>
      have meets := meets_cleanupTurn_evident case baselineWindow { script, flags, world }
      unfold cleanupLoop at ended
      rw [cleanupTrace]
      rcases turned : outcome (cleanupTurn case script flags baselineWindow) world with
        ⟨_ | _ | _ | _, next⟩
      · rw [outcome_bind_error turned] at ended
        cases ended
      · rw [outcome_bind_ok turned] at ended
        cases ended
        refine ⟨[], _, rfl, ?_⟩
        have evident := meets.of_ok rfl turned
          { flags with
            recoveryAttempted :=
              flags.recoveryAttempted || TurnRecord.recovers { script, flags, world }
            recoveryResults :=
              TurnRecord.resultsAfter flags.recoveryResults { script, flags, world } }
          ⟨rfl, rfl⟩ success
        rw [List.any_cons, List.any_nil, Bool.or_false]
        exact evident
      · rename_i again
        rw [outcome_bind_ok turned] at ended
        obtain ⟨recorded, worker, -⟩ := meets.of_ok rfl turned again rfl
        obtain ⟨earlier, record, isTrace, evidence⟩ := ih ended
        rw [worker, recorded.attempted, recorded.results, Bool.or_assoc] at evidence
        refine ⟨_ :: earlier, record, congrArg _ isTrace, ?_⟩
        rw [List.any_cons]
        exact evidence
      · rw [outcome_bind_ok turned] at ended
        cases ended
        cases success

/-- What a cleanup has seen that attempted a recovery after a baseline window: a window that lasts as
long as the baseline was asked to. -/
structure FullObservation (deadline : Rat) (baseline : BaselineWindow) (result : CleanupResult) :
    Prop where
  observed : ∃ seconds window, baseline.durationSeconds = some seconds ∧
    result.validatedBaseline = some window ∧ FullDuration seconds deadline window

theorem TurnEvidence.fullObservation {hasWorker attempted : Bool} {baseline : BaselineWindow}
    {results : Option RecoveryResults} {script : AttemptScript} {result : CleanupResult}
    {deadline : Rat}
    (evidence : TurnEvidence hasWorker attempted (some baseline) results script result world)
    (observes : Observes baseline.durationSeconds deadline script.observation)
    (isAttempted : attempted = true) : FullObservation deadline baseline result := by
  obtain ⟨observation, seen, -, -, validated⟩ := evidence.observed isAttempted rfl
  obtain ⟨answer, number, answered, isObservation⟩ := seen.answered
  obtain ⟨seconds, isDuration, full⟩ := FullDuration.of_observes observes answered
  refine ⟨seconds, observation.window, isDuration, validated, ?_⟩
  subst isObservation
  exact ⟨full.spans, full.asked, full.waited⟩

end Loop

/-- A recovery that succeeds at its second attempt, and the observation after it. -/
def retriedCleanup : CleanupAttempts where
  first :=
    { recovery := .ok (.list [.dict (some false) (some true)])
      tracked := ["link_down"]
      frrAfter := { answer := .error (.other "unused") }
      observation := { answer := .error (.timeout "Operation deadline exceeded") } }
  later :=
    [{ recovery := .ok (.list [.dict (some true) none])
       frrAfter := { answer := .error (.other "unused") }
       windowScope := some idleScope
       observation := { answer := .ok healthyObservation }
       verifiedScope := some idleScope }]

def linkCase : ScenarioCase :=
  { id := "case", faultType := "link_down", targetDevice := "leaf1", catalogV2 := true }

def minuteCapture : CaptureScript where
  checked := 10
  started := 20
  startTime := 0
  turns := [⟨20, 20, 21⟩, ⟨81, 0, 0⟩]

end NetOpsBench
