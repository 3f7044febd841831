import NetOpsBench.Lib.History
import NetOpsBench.Scenario.Executor
import NetOpsBench.Scenario.HandoffRuns

/-!
# Baselines that are handed on

A window that a case reuses has passed the gate, was observed while no fault was tracked, and
nothing has been injected or recovered since; it is the last window that was published, under the
scope that the case finds, and no case has reused it before. `HandoffSound` is the invariant of the
executor, `Cleaning` that of the loop of the cleanup.
-/

namespace NetOpsBench

open Program

/-! ## The history of an executor -/

namespace ExecutorEvent

/-- The event leaves the faults as they are. -/
def Quiet : ExecutorEvent → Prop
  | injected => False
  | recovered => False
  | observed _ _ _ => True
  | published _ _ => True
  | reused _ _ => True

def NotPublication : ExecutorEvent → Prop
  | published _ _ => False
  | injected => True
  | recovered => True
  | observed _ _ _ => True
  | reused _ _ => True

end ExecutorEvent

/-- What the history must say of a window that is reused under a scope. -/
structure ReusedSoundly (history : List ExecutorEvent) (window : BaselineWindow)
    (scope : RuntimeScope) : Prop where
  healthy : History.Last ExecutorEvent.Quiet (.observed window true []) history
  published : ∃ earlier, scope.same earlier = true ∧
    History.Last ExecutorEvent.NotPublication (.published window earlier) history
  once : ∀ earlier, .reused window earlier ∉ history

/-- A reuse is sound at its place in the history. -/
def ReuseRule (history : List ExecutorEvent) : ExecutorEvent → Prop
  | .injected => True
  | .recovered => True
  | .observed _ _ _ => True
  | .published _ _ => True
  | .reused window scope => ReusedSoundly history window scope

structure Chronicle (history : List ExecutorEvent) : Prop where
  audited : History.Audited ReuseRule history
  numbered : ∀ window scope, .reused window scope ∈ history → window.number < history.length

theorem chronicle_nil : Chronicle [] where
  audited := History.audited_nil
  numbered _ _ mem := absurd mem List.not_mem_nil

theorem Chronicle.concat {history : List ExecutorEvent} {event : ExecutorEvent}
    (chronicle : Chronicle history) (rule : ReuseRule history event)
    (number : ∀ window scope, event = .reused window scope → window.number < history.length) :
    Chronicle (history ++ [event]) where
  audited := chronicle.audited.concat rule
  numbered window scope mem := by
    rw [List.length_append, List.length_singleton]
    rcases List.mem_append.mp mem with before | added
    · have := chronicle.numbered window scope before
      omega
    · have := number window scope (List.mem_singleton.mp added).symm
      omega

/-! ## The invariant -/

namespace ExecutorWorld

/-- The window has passed the gate with the faults that are tracked, and has not been reused. -/
structure Fresh (world : ExecutorWorld) (window : BaselineWindow) : Prop where
  observed : History.Last ExecutorEvent.Quiet (.observed window true world.activeFaults)
    world.history
  unused : ∀ scope, .reused window scope ∉ world.history
  numbered : window.number < world.history.length

/-- What holds of the window of the handoff. -/
structure Handed (world : ExecutorWorld) (window : BaselineWindow) : Prop where
  noFault : world.activeFaults = []
  fresh : world.Fresh window
  published : ∃ scope, world.handoff.scope = some scope ∧
    History.Last ExecutorEvent.NotPublication (.published window scope) world.history

structure HandoffSound (world : ExecutorWorld) : Prop where
  chronicle : Chronicle world.history
  handed : ∀ window, world.handoff.window = some window → world.Handed window

/-- The window that a healthy case offers is fresh. -/
def CandidateFresh (world : ExecutorWorld) : Prop :=
  ∀ window, world.healthyCandidate = some window → world.Fresh window

/-- The handoff has no window. -/
structure Emptied (world : ExecutorWorld) : Prop where
  chronicle : Chronicle world.history
  window : world.handoff.window = none

variable {world after : ExecutorWorld} {window : BaselineWindow}

theorem Emptied.sound (emptied : world.Emptied) : world.HandoffSound where
  chronicle := emptied.chronicle
  handed window handed := by
    rw [emptied.window] at handed
    cases handed

theorem Fresh.congr (fresh : world.Fresh window) (history : after.history = world.history)
    (faults : after.activeFaults = world.activeFaults) : after.Fresh window where
  observed := by
    rw [history, faults]
    exact fresh.observed
  unused := by
    rw [history]
    exact fresh.unused
  numbered := by
    rw [history]
    exact fresh.numbered

theorem HandoffSound.congr (sound : world.HandoffSound) (history : after.history = world.history)
    (faults : after.activeFaults = world.activeFaults)
    (handoff : after.handoff = world.handoff) : after.HandoffSound where
  chronicle := by
    rw [history]
    exact sound.chronicle
  handed window handed := by
    have before := sound.handed window (handoff ▸ handed)
    refine ⟨faults.trans before.noFault, before.fresh.congr history faults, ?_⟩
    rw [history, handoff]
    exact before.published

theorem HandoffSound.reload (sound : world.HandoffSound) : world.reload.HandoffSound :=
  Emptied.sound ⟨sound.chronicle, rfl⟩

/-- A quiet event that is no reuse of the window leaves it fresh. -/
theorem Fresh.record {event : ExecutorEvent} (fresh : world.Fresh window)
    (quiet : ExecutorEvent.Quiet event) (unused : ∀ scope, event ≠ .reused window scope) :
    (world.record event).Fresh window where
  observed := fresh.observed.concat quiet
  unused scope mem := by
    rcases List.mem_append.mp mem with before | added
    · exact fresh.unused scope before
    · exact unused scope (List.mem_singleton.mp added).symm
  numbered := by
    have := fresh.numbered
    simp only [ExecutorWorld.record, List.length_append, List.length_singleton]
    omega

theorem HandoffSound.observe (sound : world.HandoffSound) (observation : Observation) :
    (world.observe observation).HandoffSound where
  chronicle := sound.chronicle.concat trivial fun _ _ same => nomatch same
  handed window handed := by
    have before := sound.handed window handed
    rcases before.published with ⟨scope, isScope, last⟩
    refine ⟨before.noFault, before.fresh.record trivial (fun _ same => nomatch same), scope,
      isScope, last.concat trivial⟩

/-- An observation that passes the gate is a fresh window. -/
theorem fresh_observe {observation : Observation} (chronicle : Chronicle world.history)
    (passed : baselineGateErrors observation = []) :
    (world.observe observation).Fresh
      { observation.window with number := world.history.length } where
  observed := by
    unfold ExecutorWorld.observe
    rw [passed]
    exact History.last_concat _ _
  unused scope mem := by
    rcases List.mem_append.mp mem with before | added
    · have := chronicle.numbered _ scope before
      dsimp only at this
      omega
    · cases List.mem_singleton.mp added
  numbered := by
    simp [ExecutorWorld.observe, ExecutorWorld.record]

end ExecutorWorld

open ExecutorWorld

/-! ## Calls and observations -/

section Calls

variable {P : ExecutorWorld → Prop} {α : Type}

theorem keeps_perform (reload : ∀ world, P world → P world.reload) (step : Step α) :
    Keeps (perform step) P := by
  unfold perform reloading
  refine Keeps.bind (Keeps.modify fun world holds => ?_) fun _ => Keeps.ofExcept _
  split
  · exact reload world holds
  · exact holds

theorem keeps_performIf (reload : ∀ world, P world → P world.reload) (condition : Bool)
    (step : Step Unit) : Keeps (performIf condition step) P := by
  unfold performIf
  split
  · exact keeps_perform reload step
  · exact Keeps.pure _

/-- The window of an observation without gate errors is fresh. -/
theorem meets_observing (reload : ∀ world, P world → P world.reload)
    (observe : ∀ observation world, P world → P (world.observe observation))
    (chronicle : ∀ world, P world → Chronicle world.history) (step : Step Observation) :
    Meets (observing step) P
      (fun observation world => P world ∧
        (baselineGateErrors observation = [] → world.Fresh observation.window))
      fun _ => P := by
  unfold observing
  refine Meets.bind (keeps_perform reload step) fun observation => ?_
  refine Meets.get_bind fun world holds => ?_
  refine Meets.bind (Q := fun _ after => after = world.observe observation)
    (Meets.modify fun _ same => by rw [same]) fun _ => ?_
  refine Meets.pure fun after same => ?_
  subst same
  exact ⟨observe observation world holds, fresh_observe (chronicle world holds)⟩

end Calls

/-! ## The cleanup -/

section Cleanup

variable {α β : Type} {P : ExecutorWorld → Prop} {F : CleanupResult → ExecutorWorld → Prop}
  {R : StepError → ExecutorWorld → Prop}

/-- What a phase comes to: the result that ends the cleanup, or a value to go on with. -/
def CleanupPhase.Comes (F : CleanupResult → ExecutorWorld → Prop)
    (Q : α → ExecutorWorld → Prop) : CleanupPhase α → ExecutorWorld → Prop
  | .error result => F result
  | .ok a => Q a

theorem meets_andThen {phase : ExecutorProgram (CleanupPhase α)}
    {next : α → ExecutorProgram (CleanupPhase β)} {Q : α → ExecutorWorld → Prop}
    {Q' : β → ExecutorWorld → Prop} (first : Meets phase P (CleanupPhase.Comes F Q) R)
    (second : ∀ a, Meets (next a) (Q a) (CleanupPhase.Comes F Q') R) :
    Meets (phase.andThen next) P (CleanupPhase.Comes F Q') R := by
  unfold ExecutorProgram.andThen
  refine first.bind fun answer => ?_
  cases answer with
  | error result => exact Meets.pure fun _ ended => ended
  | ok a => exact second a

theorem meets_finished {result : CleanupResult} {Q : α → ExecutorWorld → Prop}
    (ended : ∀ world, P world → F result world) :
    Meets (finished result) P (CleanupPhase.Comes F Q) R :=
  Meets.pure ended

theorem meets_goOn {a : α} {Q : α → ExecutorWorld → Prop} (after : ∀ world, P world → Q a world) :
    Meets (goOn a) P (CleanupPhase.Comes F Q) R :=
  Meets.pure after

/-- The executor while its faults are recovered. -/
structure Recovered (world : ExecutorWorld) : Prop where
  sound : world.HandoffSound
  noFault : world.activeFaults = []

/-- What a cleanup says about windows when it succeeds. -/
structure Cleaned (baselineWindow : Option BaselineWindow) (result : CleanupResult)
    (world : ExecutorWorld) : Prop where
  sound : world.HandoffSound
  noFault : result.success = true → world.activeFaults = []
  validated : result.success = true → ∀ window, result.validatedBaseline = some window →
    world.Fresh window
  candidate : result.success = true → baselineWindow.isSome = true →
    result.validatedBaseline = none → world.CandidateFresh

/-- What a turn of the loop finds: as long as no recovery has been attempted, the window that the
case offers is fresh; only then may the handoff still have a window. -/
structure Cleaning (flags : CleanupFlags) (world : ExecutorWorld) : Prop where
  sound : world.HandoffSound
  results : flags.recoveryAttempted = false → flags.recoveryResults = none
  candidate : flags.recoveryAttempted = false → world.CandidateFresh
  attempted : flags.recoveryAttempted = true → world.handoff.window = none

/-- What a turn finds once the recovery is complete. -/
structure Converging (flags : CleanupFlags) (world : ExecutorWorld) : Prop extends
    Cleaning flags world where
  noFault : world.activeFaults = []

variable {world : ExecutorWorld} {flags : CleanupFlags} {baselineWindow : Option BaselineWindow}

theorem Cleaned.of_failure {result : CleanupResult} (failed : result.success = false)
    (sound : world.HandoffSound) : Cleaned baselineWindow result world where
  sound := sound
  noFault success := absurd success (by simp [failed])
  validated success := absurd success (by simp [failed])
  candidate success := absurd success (by simp [failed])

theorem CandidateFresh.reload (fresh : world.CandidateFresh) : world.reload.CandidateFresh :=
  fun window offered => (fresh window offered).congr rfl rfl

theorem Recovered.reload (recovered : Recovered world) : Recovered world.reload where
  sound := recovered.sound.reload
  noFault := recovered.noFault

theorem Recovered.observe (observation : Observation) (recovered : Recovered world) :
    Recovered (world.observe observation) where
  sound := recovered.sound.observe observation
  noFault := recovered.noFault

theorem Cleaning.reload (cleaning : Cleaning flags world) : Cleaning flags world.reload where
  sound := cleaning.sound.reload
  results := cleaning.results
  candidate untouched := CandidateFresh.reload (cleaning.candidate untouched)
  attempted _ := rfl

theorem Converging.reload (converging : Converging flags world) :
    Converging flags world.reload where
  toCleaning := converging.toCleaning.reload
  noFault := converging.noFault

theorem Converging.recovered (converging : Converging flags world) : Recovered world where
  sound := converging.sound
  noFault := converging.noFault

/-- A window of the handoff has no fault beside it, so that its recovery is complete. -/
theorem Cleaning.emptied (cleaning : Cleaning flags world)
    (incomplete : (world.activeFaults.isEmpty && flags.recoveryResults.all (·.succeeded)) = false) :
    world.handoff.window = none := by
  cases attempted : flags.recoveryAttempted with
  | true => exact cleaning.attempted attempted
  | false =>
      rw [cleaning.results attempted, Option.all_none, Bool.and_true] at incomplete
      rcases handed : world.handoff.window with _ | window
      · rfl
      · have noFault := (cleaning.sound.handed window handed).noFault
        rw [noFault] at incomplete
        cases incomplete

/-- After an attempt only the handoff matters. -/
theorem Emptied.cleaning (emptied : world.Emptied) (attempted : flags.recoveryAttempted = true) :
    Cleaning flags world where
  sound := emptied.sound
  results untouched := absurd attempted (by simp [untouched])
  candidate untouched := absurd attempted (by simp [untouched])
  attempted _ := emptied.window

theorem Emptied.recovery (emptied : world.Emptied) (tracked : List String) :
    ExecutorWorld.Emptied { world.record .recovered with activeFaults := tracked } where
  chronicle := emptied.chronicle.concat trivial fun _ _ same => nomatch same
  window := emptied.window

/-- How a turn stands after the phase of the recovery. -/
def AfterRecovery (recovered : Bool × CleanupFlags) (world : ExecutorWorld) : Prop :=
  if recovered.1 then Converging recovered.2 world else Cleaning recovered.2 world

theorem meets_recoverFault (script : AttemptScript) (flags : CleanupFlags) :
    Meets (recoverFault script flags) ExecutorWorld.Emptied AfterRecovery
      fun _ => HandoffSound := by
  unfold recoverFault
  refine Meets.bind
    (Q := fun _ after => after.Emptied ∧ after.activeFaults = script.tracked) ?_ fun _ => ?_
  · exact Meets.modify fun world emptied => ⟨Emptied.recovery emptied script.tracked, rfl⟩
  · split
    · exact Meets.pure fun after emptied => Emptied.cleaning emptied.1 rfl
    · split
      · rename_i complete
        rw [Bool.and_eq_true, List.isEmpty_iff] at complete
        exact Meets.pure fun after emptied =>
          ⟨Emptied.cleaning emptied.1 rfl, emptied.2.trans complete.2⟩
      · exact Meets.pure fun after emptied => Emptied.cleaning emptied.1 rfl

theorem meets_recoverPhase (script : AttemptScript) (flags : CleanupFlags) :
    Meets (recoverPhase script flags) (Cleaning flags) AfterRecovery fun _ => HandoffSound := by
  unfold recoverPhase
  refine Meets.get_bind fun world cleaning => ?_
  split
  · rename_i complete
    rw [Bool.and_eq_true, List.isEmpty_iff] at complete
    refine Meets.pure fun after same => ?_
    subst same
    exact ⟨cleaning, complete.1⟩
  · rename_i incomplete
    refine (meets_recoverFault script flags).mono (fun after same => ?_) (fun _ _ => id)
      fun _ _ => id
    subst same
    exact ⟨cleaning.sound.chronicle, cleaning.emptied (Bool.eq_false_iff.mpr incomplete)⟩

theorem keeps_convergePhase (script : AttemptScript) (flags : CleanupFlags) :
    Keeps (convergePhase script) (Converging flags) := by
  unfold convergePhase
  have performed : ∀ {α : Type} (step : Step α), Keeps (perform step) (Converging flags) :=
    keeps_perform fun _ => Converging.reload
  refine (performed script.traffic).bind fun ready => ?_
  exact Keeps.get_bind fun world _ => (performed _).bind fun health => Keeps.pure _

/-! ### The validation -/

theorem failed_recovered {result : CleanupResult} (failed : result.success = false)
    (world : ExecutorWorld) (recovered : Recovered world) :
    Cleaned baselineWindow result world :=
  Cleaned.of_failure failed recovered.sound

theorem meets_provePhase (script : AttemptScript) :
    Meets (provePhase script) Recovered
      (CleanupPhase.Comes (Cleaned baselineWindow) fun _ => Recovered) fun _ => Recovered := by
  unfold provePhase
  refine Meets.get_bind fun world recovered => ?_
  split
  · exact meets_goOn fun after same => same ▸ recovered
  · refine Meets.bind (Q := fun _ => Recovered) ?_ fun after => ?_
    · exact (keeps_perform (P := Recovered) (fun _ => Recovered.reload) _).mono
        (fun after same => same ▸ recovered) (fun _ _ => id) fun _ _ => id
    · split
      · exact meets_goOn fun _ => id
      · exact meets_finished (failed_recovered rfl)

theorem meets_scopePhase (case : ScenarioCase) (script : AttemptScript) (restored : Bool) :
    Meets (scopePhase case script restored) Recovered
      (CleanupPhase.Comes (Cleaned baselineWindow) fun _ => Recovered) fun _ => Recovered := by
  unfold scopePhase
  refine Meets.get_bind fun world recovered => ?_
  split
  · exact meets_goOn fun after same => same ▸ recovered
  · exact meets_finished fun after same => failed_recovered rfl after (same ▸ recovered)

/-- The executor with an observation that is fresh when it has passed the gate. -/
structure Observed (observation : Observation) (world : ExecutorWorld) : Prop extends
    Recovered world where
  fresh : baselineGateErrors observation = [] → world.Fresh observation.window

theorem meets_observePhase (script : AttemptScript) :
    Meets (observePhase script) Recovered
      (CleanupPhase.Comes (Cleaned baselineWindow) Observed) fun _ => Recovered := by
  unfold observePhase
  have observed := meets_observing (P := Recovered) (fun _ => Recovered.reload)
    (fun observation _ => Recovered.observe observation)
    (fun _ recovered => recovered.sound.chronicle) script.observation
  refine observed.bind fun observation => ?_
  split
  · exact Meets.throw fun _ after => after.1
  · exact meets_goOn fun _ after => ⟨after.1, after.2⟩

theorem meets_verifyPhase (script : AttemptScript) (windowScope : Option RuntimeScope)
    (observation : Observation) :
    Meets (verifyPhase script windowScope) (Observed observation)
      (CleanupPhase.Comes (Cleaned baselineWindow) fun _ => Observed observation)
      fun _ => Recovered := by
  unfold verifyPhase
  refine Meets.get_bind fun world observed => ?_
  have failed : ∀ result : CleanupResult, result.success = false →
      ∀ after, after = world → Cleaned baselineWindow result after := by
    intro result failed after same
    subst same
    exact failed_recovered failed _ observed.toRecovered
  split
  · split
    · exact meets_finished (failed _ rfl)
    · exact meets_goOn fun after same => same ▸ observed
  · exact meets_goOn fun after same => same ▸ observed

theorem meets_revalidate (case : ScenarioCase) (script : AttemptScript) :
    Meets (revalidate case script) Recovered
      (CleanupPhase.Comes (Cleaned baselineWindow) fun validated => Observed validated.1)
      fun _ => Recovered := by
  unfold revalidate
  refine meets_andThen (meets_provePhase script) fun restored => ?_
  refine meets_andThen (meets_scopePhase case script restored) fun windowScope => ?_
  refine meets_andThen (meets_observePhase script) fun observation => ?_
  refine meets_andThen (meets_verifyPhase script windowScope observation) fun verified => ?_
  exact meets_goOn fun _ => id

theorem meets_catchTimeout {α : Type} {Q : α → ExecutorWorld → Prop} (flags : CleanupFlags)
    (error : StepError) :
    Meets (catchTimeout flags error) Recovered (CleanupPhase.Comes (Cleaned baselineWindow) Q)
      fun _ => HandoffSound := by
  cases error with
  | timeout message => exact meets_finished (failed_recovered rfl)
  | other message => exact Meets.throw fun _ recovered => recovered.sound

/-- What a turn knows of windows before it concludes. -/
structure Validated (baselineWindow : Option BaselineWindow)
    (validated : Option (BaselineWindow × Option RuntimeScope)) (world : ExecutorWorld) : Prop
    extends Recovered world where
  fresh : ∀ window, validated.map Prod.fst = some window → world.Fresh window
  candidate : baselineWindow.isSome = true → validated = none → world.CandidateFresh

theorem meets_gatePhase (flags : CleanupFlags) (validated : Observation × Option RuntimeScope) :
    Meets (gatePhase flags validated) (Observed validated.1)
      (CleanupPhase.Comes (Cleaned baselineWindow) (Validated baselineWindow))
      fun _ => HandoffSound := by
  unfold gatePhase
  split
  · rename_i passed
    refine meets_goOn fun world observed => ⟨observed.toRecovered, ?_, fun _ none => nomatch none⟩
    intro window isWindow
    cases isWindow
    exact observed.fresh (List.isEmpty_iff.mp passed)
  · exact meets_finished fun _ observed => failed_recovered rfl _ observed.toRecovered

theorem meets_validatePhase (case : ScenarioCase) (script : AttemptScript) (flags : CleanupFlags)
    (baselineWindow : Option BaselineWindow) :
    Meets (validatePhase case script flags baselineWindow) (Converging flags)
      (CleanupPhase.Comes (Cleaned baselineWindow) (Validated baselineWindow))
      fun _ => HandoffSound := by
  unfold validatePhase
  split
  · refine meets_andThen ?_ (meets_gatePhase flags)
    refine Meets.tryCatch ?_ (meets_catchTimeout flags)
    exact (meets_revalidate case script).mono (fun _ => Converging.recovered) (fun _ _ => id)
      fun _ _ => id
  · rename_i unvalidated
    refine meets_goOn fun world converging => ⟨converging.recovered, ?_, ?_⟩
    · intro window isWindow
      cases isWindow
    · intro given _
      rw [given, Bool.and_true, Bool.not_eq_true] at unvalidated
      exact converging.candidate unvalidated

/-! ### The loop -/

/-- How a turn stands that does not end the cleanup. -/
def AfterTurn (turn : CleanupTurn) (world : ExecutorWorld) : Prop :=
  match turn with
  | .again flags => Cleaning flags world
  | .stop _ => world.HandoffSound

theorem Validated.reload {validated : Option (BaselineWindow × Option RuntimeScope)}
    (before : Validated baselineWindow validated world) :
    Validated baselineWindow validated world.reload where
  toRecovered := before.toRecovered.reload
  fresh window isWindow := (before.fresh window isWindow).congr rfl rfl
  candidate given none := CandidateFresh.reload (before.candidate given none)

theorem meets_conclude (script : AttemptScript) (flags : CleanupFlags)
    (validated : Option (BaselineWindow × Option RuntimeScope)) :
    Meets (conclude script flags validated) (Validated baselineWindow validated)
      (CleanupPhase.Comes (Cleaned baselineWindow) AfterTurn) fun _ => HandoffSound := by
  unfold conclude
  split
  · exact meets_goOn fun _ before => before.sound
  · refine Meets.get_bind fun world before => ?_
    refine Meets.bind (Q := fun _ => Validated baselineWindow validated) ?_ fun routeErrors => ?_
    · exact (keeps_perform (P := Validated baselineWindow validated)
        (fun _ => Validated.reload) _).mono (fun after same => same ▸ before) (fun _ _ => id)
        fun _ _ after => after.sound
    · split
      · refine meets_finished fun after now => ⟨now.sound, fun _ => now.noFault,
          fun _ => now.fresh, fun _ given none => now.candidate given ?_⟩
        exact Option.map_eq_none_iff.mp none
      · exact meets_finished fun after now => Cleaned.of_failure rfl now.sound

theorem meets_convergeTurn (case : ScenarioCase) (script : AttemptScript) (flags : CleanupFlags)
    (baselineWindow : Option BaselineWindow) :
    Meets (convergeTurn case script flags baselineWindow) (Converging flags)
      (CleanupPhase.Comes (Cleaned baselineWindow) AfterTurn) fun _ => HandoffSound := by
  unfold convergeTurn
  have converged : Meets (convergePhase script) (Converging flags) (fun _ => Converging flags)
      fun _ => HandoffSound :=
    (keeps_convergePhase script flags).mono (fun _ => id) (fun _ _ => id)
      fun _ _ after => after.sound
  refine converged.bind fun errors => ?_
  split
  · exact meets_andThen (meets_validatePhase case script flags baselineWindow)
      (meets_conclude script flags)
  · dsimp only
    refine meets_goOn fun world now => ?_
    split
    · exact now.sound
    · exact ⟨now.sound, now.results, now.candidate, now.attempted⟩

theorem meets_cleanupTurn (case : ScenarioCase) (script : AttemptScript) (flags : CleanupFlags)
    (baselineWindow : Option BaselineWindow) :
    Meets (cleanupTurn case script flags baselineWindow) (Cleaning flags)
      (CleanupPhase.Comes (Cleaned baselineWindow) AfterTurn) fun _ => HandoffSound := by
  unfold cleanupTurn
  have recovery : Meets (recoverPhase script { flags with attempts := flags.attempts + 1 })
      (Cleaning flags) AfterRecovery fun _ => HandoffSound :=
    (meets_recoverPhase script _).mono
      (fun world now => ⟨now.sound, now.results, now.candidate, now.attempted⟩)
      (fun _ _ => id) fun _ _ => id
  refine recovery.bind fun recovered => ?_
  rcases recovered with ⟨complete, flags⟩
  cases complete with
  | true => exact meets_convergeTurn case script flags baselineWindow
  | false =>
      refine meets_goOn fun world now => ?_
      have cleaning : Cleaning flags world := now
      split
      · exact cleaning.sound
      · exact cleaning

theorem meets_cleanupFailure (flags : CleanupFlags) :
    Meets (cleanupFailure flags) HandoffSound (Cleaned baselineWindow)
      fun _ => HandoffSound := by
  unfold cleanupFailure
  refine Meets.get_bind fun world sound => Meets.pure fun after same => ?_
  subst same
  exact Cleaned.of_failure rfl sound

theorem meets_cleanupLoop (case : ScenarioCase) (baselineWindow : Option BaselineWindow)
    (flags : CleanupFlags) (scripts : List AttemptScript) :
    Meets (cleanupLoop case baselineWindow flags scripts) (Cleaning flags)
      (Cleaned baselineWindow) fun _ => HandoffSound := by
  induction scripts generalizing flags with
  | nil =>
      exact (meets_cleanupFailure flags).mono (fun _ now => now.sound) (fun _ _ => id)
        fun _ _ => id
  | cons script later ih =>
      unfold cleanupLoop
      refine (meets_cleanupTurn case script flags baselineWindow).bind fun turn => ?_
      rcases turn with result | ⟨flags⟩ | ⟨flags⟩
      · exact Meets.pure fun _ ended => ended
      · exact ih flags
      · exact meets_cleanupFailure flags

/-- A cleanup, from a state in which the window that the case offers is fresh. -/
theorem meets_cleanupAfterScenario (case : ScenarioCase) (baselineWindow : Option BaselineWindow)
    (script : CleanupAttempts) :
    Meets (cleanupAfterScenario case none baselineWindow script)
      (fun world => world.HandoffSound ∧ world.CandidateFresh) (Cleaned baselineWindow)
      fun _ => HandoffSound := by
  refine (meets_cleanupLoop case baselineWindow _ _).mono (fun world now => ?_) (fun _ _ => id)
    fun _ _ => id
  exact ⟨now.1, fun _ => rfl, fun _ => now.2, fun attempted => nomatch attempted⟩

end Cleanup

/-! ## The preparation -/

section Preparation

variable {world : ExecutorWorld}

/-- What holds of the executor when a case is closed. -/
structure Prepared (world : ExecutorWorld) : Prop where
  sound : world.HandoffSound
  candidate : world.CandidateFresh

/-- The executor before the fault of a case. -/
structure Preparing (world : ExecutorWorld) : Prop where
  sound : world.HandoffSound
  candidate : world.healthyCandidate = none

/-- The executor once the handoff has given its window away. -/
structure Taken (world : ExecutorWorld) : Prop where
  emptied : world.Emptied
  candidate : world.healthyCandidate = none

/-- The executor from the fault of a case on. -/
structure Active (world : ExecutorWorld) : Prop where
  emptied : world.Emptied
  candidate : world.CandidateFresh
  baseline : world.baselineWindow.isSome = true

theorem candidateFresh_none (none : world.healthyCandidate = none) : world.CandidateFresh :=
  fun _ offered => absurd (none.symm.trans offered) (by simp)

theorem Preparing.prepared (preparing : Preparing world) : Prepared world :=
  ⟨preparing.sound, candidateFresh_none preparing.candidate⟩

theorem Taken.prepared (taken : Taken world) : Prepared world :=
  ⟨taken.emptied.sound, candidateFresh_none taken.candidate⟩

theorem Active.prepared (active : Active world) : Prepared world :=
  ⟨active.emptied.sound, active.candidate⟩

theorem Emptied.reload (emptied : world.Emptied) : world.reload.Emptied := ⟨emptied.chronicle, rfl⟩

theorem Emptied.observe (observation : Observation) (emptied : world.Emptied) :
    (world.observe observation).Emptied where
  chronicle := emptied.chronicle.concat trivial fun _ _ same => nomatch same
  window := emptied.window

theorem Preparing.reload (preparing : Preparing world) : Preparing world.reload :=
  ⟨preparing.sound.reload, preparing.candidate⟩

theorem Taken.reload (taken : Taken world) : Taken world.reload :=
  ⟨Emptied.reload taken.emptied, taken.candidate⟩

theorem Taken.observe (observation : Observation) (taken : Taken world) :
    Taken (world.observe observation) :=
  ⟨Emptied.observe observation taken.emptied, taken.candidate⟩

theorem Active.reload (active : Active world) : Active world.reload :=
  ⟨Emptied.reload active.emptied, CandidateFresh.reload active.candidate, active.baseline⟩

theorem Active.observe (observation : Observation) (active : Active world) :
    Active (world.observe observation) where
  emptied := Emptied.observe observation active.emptied
  candidate window offered :=
    (active.candidate window offered).record trivial fun _ same => nomatch same
  baseline := active.baseline

/-! ### Taking a baseline -/

theorem ReusedSoundly.of_handed {window : BaselineWindow} {scope : RuntimeScope}
    (handed : world.Handed window) (same : sameScope (some scope) world.handoff.scope = true) :
    ReusedSoundly world.history window scope where
  healthy := by
    have observed := handed.fresh.observed
    rw [handed.noFault] at observed
    exact observed
  published := by
    rcases handed.published with ⟨earlier, isScope, last⟩
    rw [isScope] at same
    exact ⟨earlier, same, last⟩
  once := handed.fresh.unused

theorem recordReuse_healthyCandidate (window : Option BaselineWindow)
    (scope : Option RuntimeScope) :
    (world.recordReuse window scope).healthyCandidate = world.healthyCandidate := by
  unfold ExecutorWorld.recordReuse
  rcases window with _ | window
  · rfl
  · cases scope <;> rfl

/-- The record of a window that the handoff gives away is sound. -/
theorem Preparing.recordReuse (preparing : Preparing world) (scope : Option RuntimeScope)
    (minimumSeconds : Int) (monotonic : Rat) (now : Int) :
    Chronicle (world.recordReuse (world.handoff.take scope minimumSeconds monotonic now).1
      scope).history := by
  rcases taken : (world.handoff.take scope minimumSeconds monotonic now).1 with _ | window
  · exact preparing.sound.chronicle
  · have takes := BaselineHandoff.take_eq_some taken
    rcases scope with _ | scope
    · cases takes.present
    · have handed := preparing.sound.handed window takes.held
      have rule : ReuseRule world.history (.reused window scope) :=
        ReusedSoundly.of_handed handed takes.unchanged
      refine preparing.sound.chronicle.concat rule fun reused _ isReuse => ?_
      cases isReuse
      exact handed.fresh.numbered

theorem Preparing.takeBaseline (preparing : Preparing world) (scope : Option RuntimeScope)
    (minimumSeconds : Int) (monotonic : Rat) (now : Int) :
    Taken (world.takeBaseline scope minimumSeconds monotonic now) where
  emptied :=
    { chronicle := preparing.recordReuse scope minimumSeconds monotonic now
      window := BaselineHandoff.take_window world.handoff scope minimumSeconds monotonic now }
  candidate := (recordReuse_healthyCandidate _ scope).trans preparing.candidate

theorem meets_takePhase (script : PrepareScript) :
    Meets (takePhase script) Preparing (fun _ => Taken) fun _ => Preparing := by
  unfold takePhase
  refine Meets.bind (Q := fun _ => Preparing)
    (Meets.modify fun world before => ⟨before.sound.congr rfl rfl rfl, before.candidate⟩)
    fun _ => ?_
  refine Meets.bind (keeps_perform (P := Preparing) (fun _ => Preparing.reload) _)
    fun minimumSeconds => ?_
  exact Meets.modify fun world before => before.takeBaseline _ _ _ _

/-- The executor with its baseline, before the fault of the case. -/
structure Ready (world : ExecutorWorld) : Prop extends Taken world where
  baseline : world.baselineWindow.isSome = true

theorem meets_freshPhase (script : PrepareScript) :
    Meets (freshPhase script) Taken (fun _ => Ready) fun _ => Taken := by
  unfold freshPhase
  refine Meets.get_bind fun world taken => ?_
  refine Meets.bind (Q := fun _ => Taken) ?_ fun _ => ?_
  · exact (keeps_performIf (P := Taken) (fun _ => Taken.reload) _ _).mono
      (fun after same => same ▸ taken) (fun _ _ => id) fun _ _ => id
  · refine Meets.bind (keeps_perform (P := Taken) (fun _ => Taken.reload) _) fun _ => ?_
    refine Meets.bind (meets_observing (P := Taken) (fun _ => Taken.reload)
      (fun observation _ => Taken.observe observation)
      (fun _ taken => taken.emptied.chronicle) script.reference) fun validation => ?_
    split
    · exact Meets.modify fun after now => ⟨⟨⟨now.1.emptied.chronicle, rfl⟩, now.1.candidate⟩, rfl⟩
    · exact Meets.throw fun _ now => now.1

theorem meets_baselinePhase (script : PrepareScript) :
    Meets (baselinePhase script) Preparing (fun _ => Ready) fun _ => Prepared := by
  unfold baselinePhase
  refine Meets.bind ((meets_takePhase script).mono (fun _ => id) (fun _ _ => id)
    fun _ _ => Preparing.prepared) fun _ => ?_
  refine Meets.get_bind fun world taken => ?_
  split
  · rename_i given
    refine Meets.pure fun after same => ?_
    subst same
    exact ⟨taken, given⟩
  · exact (meets_freshPhase script).mono (fun after same => same ▸ taken) (fun _ _ => id)
      fun _ _ => Taken.prepared

/-! ### The episode -/

theorem Ready.reload (ready : Ready world) : Ready world.reload :=
  ⟨ready.toTaken.reload, ready.baseline⟩

theorem Ready.active (ready : Ready world) : Active world :=
  ⟨ready.emptied, candidateFresh_none ready.candidate, ready.baseline⟩

theorem keeps_captureConfiguration (case : ScenarioCase) (script : InjectionScript) :
    Keeps (captureConfiguration case script) Ready := by
  unfold captureConfiguration
  refine Keeps.get_bind fun world ready => ?_
  split
  · refine Keeps.bind (keeps_perform (P := Ready) (fun _ => Ready.reload) _) fun snapshot => ?_
    exact Keeps.modify fun _ before =>
      ⟨⟨⟨before.emptied.chronicle, before.emptied.window⟩, before.candidate⟩, before.baseline⟩
  · exact Keeps.pure _

theorem keeps_injectFault (case : ScenarioCase) (script : InjectionScript) :
    Keeps (injectFault case script) Ready := by
  unfold injectFault
  refine (Keeps.ofExcept _).bind fun _ => ?_
  refine Keeps.bind (Keeps.modify fun _ before =>
    ⟨⟨⟨before.emptied.chronicle, before.emptied.window⟩, before.candidate⟩, before.baseline⟩)
    fun _ => ?_
  refine (keeps_captureConfiguration case script).bind fun _ => ?_
  refine Keeps.bind (Keeps.modify fun _ before => ?_) fun _ => ?_
  · exact ⟨⟨⟨before.emptied.chronicle.concat trivial (fun _ _ same => nomatch same),
      before.emptied.window⟩, before.candidate⟩, before.baseline⟩
  · refine (Keeps.ofExcept _).bind fun injected => ?_
    split
    · exact Keeps.pure _
    · exact Keeps.throw _

theorem keeps_activateFault (case : ScenarioCase) (script : InjectionScript) :
    Keeps (activateFault case script) Ready := by
  unfold activateFault
  split
  · exact Keeps.pure _
  · exact keeps_injectFault case script

/-- A window is offered only when it has passed the gate. -/
theorem offeredWindow_eq_some {observation : Observation} {window : BaselineWindow}
    (offered : offeredWindow observation = some window) :
    baselineGateErrors observation = [] ∧ window = observation.window := by
  unfold offeredWindow at offered
  rcases isHealth : observation.baselineHealth with _ | absolute
  · simp [isHealth] at offered
  · simp only [isHealth] at offered
    split at offered
    · rename_i passed
      rw [Bool.and_eq_true, List.isEmpty_iff] at passed
      exact ⟨passed.2, (Option.some.inj offered).symm⟩
    · cases offered

theorem Active.offer (active : Active world) {observation : Observation}
    (fresh : baselineGateErrors observation = [] → world.Fresh observation.window) :
    Active (world.offer observation) := by
  unfold ExecutorWorld.offer
  rcases offered : offeredWindow observation with _ | window
  · exact active
  · rcases offeredWindow_eq_some offered with ⟨passed, rfl⟩
    refine ⟨⟨active.emptied.chronicle, active.emptied.window⟩, ?_, active.baseline⟩
    intro candidate isCandidate
    cases isCandidate
    exact (fresh passed).congr rfl rfl

theorem meets_observeEpisode (case : ScenarioCase) (script : EpisodeScript) :
    Meets (observeEpisode case script) Ready (fun _ => Active) fun _ => Active := by
  unfold observeEpisode
  refine Meets.bind ((keeps_activateFault case script.injection).mono (fun _ => id)
    (fun _ _ => Ready.active) fun _ _ => Ready.active) fun _ => ?_
  refine Meets.bind (keeps_perform (P := Active) (fun _ => Active.reload) _) fun _ => ?_
  refine Meets.bind (meets_observing (P := Active) (fun _ => Active.reload)
    (fun observation _ => Active.observe observation)
    (fun _ active => active.emptied.chronicle) script.observation) fun observation => ?_
  refine Meets.bind (Q := fun _ => Active) ?_ fun _ => Meets.pure fun _ => id
  refine Meets.modify fun after now => ?_
  split
  · exact now.1.offer now.2
  · exact now.1

theorem keeps_effectPhase (case : ScenarioCase) (script : PrepareScript)
    (observation : Observation) : Keeps (effectPhase case script observation) Active := by
  unfold effectPhase effectComplete
  refine Keeps.bind ?_ fun complete => ?_
  · split
    · exact Keeps.bind (keeps_perform (P := Active) (fun _ => Active.reload) _) fun _ =>
        Keeps.pure _
    · exact Keeps.pure _
  · split
    · exact Keeps.pure _
    · exact Keeps.throw _

theorem meets_prepare (case : ScenarioCase) (script : PrepareScript) :
    Meets (ExecutorIncidentBackend.prepare case script) Preparing (fun _ => Active)
      fun _ => Prepared := by
  unfold ExecutorIncidentBackend.prepare
  have preparing : ∀ step : Step Unit,
      Meets (perform step) Preparing (fun _ => Preparing) fun _ => Prepared := fun step =>
    (keeps_perform (P := Preparing) (fun _ => Preparing.reload) step).mono (fun _ => id) (fun _ _ => id)
      fun _ _ => Preparing.prepared
  have ready : ∀ (condition : Bool) (step : Step Unit),
      Meets (performIf condition step) Ready (fun _ => Ready) fun _ => Prepared :=
    fun condition step =>
      (keeps_performIf (P := Ready) (fun _ => Ready.reload) condition step).mono (fun _ => id)
        (fun _ _ => id) fun _ _ now => now.active.prepared
  refine (preparing _).bind fun _ => ?_
  refine (preparing _).bind fun _ => ?_
  refine (meets_baselinePhase script).bind fun _ => ?_
  refine Meets.bind (Q := fun _ => Ready) (Meets.modify fun _ now => ?_) fun _ => ?_
  · exact ⟨⟨⟨now.emptied.chronicle, now.emptied.window⟩, now.candidate⟩, now.baseline⟩
  · refine (ready _ _).bind fun _ => ?_
    refine (ready _ _).bind fun _ => ?_
    have episode := (meets_observeEpisode case script.episode).mono (fun _ => id)
      (fun _ _ => id) fun _ _ => Active.prepared
    refine episode.bind fun observation => ?_
    have effect := (keeps_effectPhase case script observation).mono (fun _ => id)
      (fun _ _ => id) fun _ _ => Active.prepared
    refine effect.bind fun _ => ?_
    exact (keeps_perform (P := Active) (fun _ => Active.reload) _).mono (fun _ => id)
      (fun _ _ => id) fun _ _ => Active.prepared

end Preparation

/-! ## The end of a case -/

section Finish

variable {world : ExecutorWorld} {case : ScenarioCase} {broken : Bool}
  {scope : Option RuntimeScope} {result : CleanupResult} {window : BaselineWindow}

/-- A window that a case hands on is fresh: it was validated after the recovery, or the case is
healthy and nothing had to be recovered. -/
theorem Cleaned.publishable {baselineWindow : Option BaselineWindow}
    (cleaned : Cleaned baselineWindow result world)
    (given : broken = true ∨ baselineWindow.isSome = true)
    (publishable : world.publishable case broken scope result = some window) :
    Recovered world ∧ world.Fresh window := by
  unfold ExecutorWorld.publishable at publishable
  split at publishable
  · rename_i allowed
    simp only [Bool.and_eq_true, Bool.not_eq_true'] at allowed
    rcases allowed with ⟨⟨⟨sound, success⟩, -⟩, -⟩
    have baseline : baselineWindow.isSome = true :=
      given.resolve_left (by simp [sound])
    refine ⟨⟨cleaned.sound, cleaned.noFault success⟩, ?_⟩
    unfold ExecutorWorld.candidate at publishable
    rcases validated : result.validatedBaseline with _ | validatedWindow
    · simp only [validated] at publishable
      split at publishable
      · exact cleaned.candidate success baseline validated window publishable
      · cases publishable
    · simp only [validated, Option.some.injEq] at publishable
      exact publishable ▸ cleaned.validated success validatedWindow validated
  · cases publishable

theorem HandoffSound.publish (recovered : Recovered world) (fresh : world.Fresh window)
    (minimumSeconds now : Int) :
    (world.publish case window scope minimumSeconds now).HandoffSound := by
  have chronicle := recovered.sound.chronicle
  unfold ExecutorWorld.publish BaselineHandoff.publish
  rcases scope with _ | scope
  · exact Emptied.sound ⟨chronicle, rfl⟩
  · simp only [Option.isNone_some, Bool.false_or]
    split
    · exact Emptied.sound ⟨chronicle, rfl⟩
    · refine ⟨chronicle.concat trivial (fun _ _ same => nomatch same), fun handed isHanded => ?_⟩
      cases isHanded
      have after : (world.record (.published window scope)).Fresh window :=
        fresh.record trivial fun _ same => nomatch same
      exact ⟨recovered.noFault, after.congr rfl rfl, scope, rfl, History.last_concat _ _⟩

theorem meets_handOn {baselineWindow : Option BaselineWindow} (script : FinishScript)
    (given : broken = true ∨ baselineWindow.isSome = true) :
    Meets (handOn case broken script result) (Cleaned baselineWindow result)
      (fun _ => HandoffSound) fun _ => HandoffSound := by
  unfold handOn
  refine Meets.get_bind fun world cleaned => ?_
  rcases publishable : world.publishable case broken script.scope result with _ | window
  · refine Meets.modify fun after same => ?_
    subst same
    exact Emptied.sound ⟨cleaned.sound.chronicle, rfl⟩
  · have fresh := cleaned.publishable given publishable
    refine Meets.bind (Q := fun _ after => Recovered after ∧ after.Fresh window) ?_
      fun minimumSeconds => ?_
    · refine (keeps_perform (P := fun after => Recovered after ∧ after.Fresh window) ?_ _).mono
        (fun after same => same ▸ fresh) (fun _ _ => id) fun _ _ now => now.1.sound
      exact fun _ now => ⟨now.1.reload, now.2.congr rfl rfl⟩
    · exact Meets.modify fun after now => HandoffSound.publish now.1 now.2 _ _

theorem meets_finish (script : FinishScript)
    (P : ExecutorWorld → Prop) (prepared : ∀ world, P world → Prepared world)
    (given : ∀ world, P world → broken = true ∨ world.baselineWindow.isSome = true) :
    Meets (ExecutorIncidentBackend.finish case broken script) P (fun _ => HandoffSound)
      fun _ => HandoffSound := by
  unfold ExecutorIncidentBackend.finish
  refine Meets.get_bind fun world holds => ?_
  have cleanup : Meets (cleanupAfterScenario case none world.baselineWindow script.cleanup)
      (fun after => after = world) (Cleaned world.baselineWindow) fun _ => HandoffSound :=
    (meets_cleanupAfterScenario case world.baselineWindow script.cleanup).mono
      (fun after same => same ▸ ⟨(prepared world holds).sound, (prepared world holds).candidate⟩)
      (fun _ _ => id) fun _ _ => id
  refine cleanup.bind fun result => ?_
  refine (meets_handOn script (given world holds)).bind fun _ => ?_
  split
  · exact Meets.pure fun _ => id
  · exact Meets.throw fun _ => id

end Finish

/-! ## Runs -/

namespace ExecutorWorld

theorem HandoffSound.startCase {world : ExecutorWorld} (sound : world.HandoffSound) :
    Preparing world.startCase :=
  ⟨sound.congr rfl rfl rfl, rfl⟩

theorem sound_start (hasWorker : Bool) (tracked : List String) :
    (start hasWorker tracked).HandoffSound :=
  Emptied.sound ⟨chronicle_nil, rfl⟩

theorem HandoffSound.runScenario {world : ExecutorWorld} (sound : world.HandoffSound)
    (script : ScenarioScript) : (world.runScenario script).HandoffSound := by
  have prepare := meets_prepare script.case script.prepare
  unfold ExecutorWorld.runScenario
  rcases ended : outcome (ExecutorIncidentBackend.prepare script.case script.prepare)
    world.startCase with ⟨answer, after⟩
  rcases answer with error | _
  · have prepared := prepare.of_error sound.startCase ended
    exact (meets_finish script.finish Prepared (fun _ => id) fun _ _ => .inl rfl).leaves prepared
  · have active := prepare.of_ok sound.startCase ended
    exact (meets_finish script.finish Active (fun _ => Active.prepared)
      fun _ now => .inr now.baseline).leaves active

theorem HandoffSound.runScenarios {world : ExecutorWorld} (sound : world.HandoffSound)
    (scripts : List ScenarioScript) : (world.runScenarios scripts).HandoffSound := by
  induction scripts generalizing world with
  | nil => exact sound
  | cons script later ih => exact ih (sound.runScenario script)

end ExecutorWorld

/-- Every window that a case reuses, in whatever run of scenarios, is healthy and current. -/
theorem reused_baseline_sound (hasWorker : Bool) (tracked : List String)
    (scripts : List ScenarioScript) {before after : List ExecutorEvent} {window : BaselineWindow}
    {scope : RuntimeScope}
    (reused : ((ExecutorWorld.start hasWorker tracked).runScenarios scripts).history =
      before ++ .reused window scope :: after) : ReusedSoundly before window scope :=
  ((sound_start hasWorker tracked).runScenarios scripts).chronicle.audited _ _ _ reused

/-! ### Two healthy cases, the second of which reuses the window of the first -/

def ExecutorEvent.isReuse : ExecutorEvent → Bool
  | injected => false
  | recovered => false
  | observed _ _ _ => false
  | published _ _ => false
  | reused _ _ => true

theorem exists_reuse {history : List ExecutorEvent} (any : history.any (·.isReuse) = true) :
    ∃ before window scope after, history = before ++ .reused window scope :: after := by
  rcases List.any_eq_true.mp any with ⟨event, mem, isReuse⟩
  rcases List.append_of_mem mem with ⟨before, after, split⟩
  cases event with
  | reused window scope => exact ⟨before, window, scope, after, split⟩
  | injected => cases isReuse
  | recovered => cases isReuse
  | observed _ _ _ => cases isReuse
  | published _ _ => cases isReuse

def healthyObservation : Observation where
  window :=
    { number := 0
      startTime := some { micros := 0, aware := true }
      endTime := some { micros := 60000000, aware := true }
      durationSeconds := some 60 }
  dataSourceStatus := some "ok"
  coverageStatus := some "complete"
  baselineCoverageStatus := some "complete"
  currentPathsObserved := 10
  localDfMtuDrops := 0
  localProbeErrors := 0
  latencySpikes := 0
  quality := {}
  baselineHealth :=
    some { unreachablePaths := some 0, packetLossPaths := some 0, networkMtuPaths := some 0 }

def idleScope : RuntimeScope where
  identity :=
    { runtime := "r", worker := "w", topology := "t", pingmeshPlanId := "p", bucket := "b",
      scale := "s", trafficProfile := "light", generation := 1, plans := .empty }
  configs := .empty
  containers := .empty

def healthyCase (id : String) : ScenarioScript where
  case := { id, faultType := "none", targetDevice := "", catalogV2 := false }
  prepare :=
    { scope := some idleScope
      minimumSeconds := { answer := .ok 60 }
      now := 61000000
      reference := { answer := .ok healthyObservation }
      episode :=
        { injection := { snapshot := { answer := .error (.other "unused") } }
          observation := { answer := .ok healthyObservation } } }
  finish :=
    { cleanup :=
        { first :=
            { recovery := .ok (.list [])
              frrAfter := { answer := .error (.other "unused") }
              observation := { answer := .error (.other "unused") } } }
      scope := some idleScope
      minimumSeconds := { answer := .ok 60 }
      now := 61000000 }

theorem reused_baseline_sound_twice :
    ∃ before window scope after,
      ((ExecutorWorld.start true []).runScenarios [healthyCase "first", healthyCase "second"]).history
        = before ++ .reused window scope :: after ∧ ReusedSoundly before window scope := by
  have reuses : ((ExecutorWorld.start true []).runScenarios
      [healthyCase "first", healthyCase "second"]).history.any (·.isReuse) = true := by
    decide +kernel
  rcases exists_reuse reuses with ⟨before, window, scope, after, split⟩
  exact ⟨before, window, scope, after, split, reused_baseline_sound true [] _ split⟩

end NetOpsBench
