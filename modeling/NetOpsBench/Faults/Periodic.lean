import Mathlib.Algebra.Order.Field.Rat
import Mathlib.Data.List.Basic
import Mathlib.Tactic.Linarith
import Mathlib.Tactic.NormNum

/-!
# Periodic faults

`PeriodicController` of `netopsbench/platform/faults/services/periodic.py`, in the runs of its loop
that raise nothing. A transition begins, takes its time and is recorded at its end. `completed` is
every phase that has been recorded; the code keeps the last of them.
-/

namespace NetOpsBench

inductive PhaseKind : Type where
  | fault
  | healthy
  deriving DecidableEq, Repr

/-- An entry of `history`; the instants are microseconds. -/
structure PhaseEntry : Type where
  phase : PhaseKind
  startedAt : Option Int := none
  time : Int
  deriving DecidableEq, Repr

/-- `phase.get("started_at", phase["time"])` -/
def PhaseEntry.begins (entry : PhaseEntry) : Int := entry.startedAt.getD entry.time

/-- Where the loop stands. -/
inductive PeriodicStage : Type where
  /-- `stop_event.wait(self._down)` -/
  | faulty
  | healing (startedAt : Int)
  /-- `stop_event.wait(self._up)` -/
  | healthy
  | failing (startedAt : Int)
  /-- The phase of a fault is recorded, and the history not yet cut. -/
  | recorded
  | stopped
  deriving DecidableEq, Repr

/-- `down_time` and `up_time`, in seconds -/
structure PeriodicTimes : Type where
  down : Rat
  up : Rat
  positive : 0 < min down up

structure PeriodicController : Type where
  stage : PeriodicStage
  history : List PhaseEntry
  clock : Int
  completed : List PhaseEntry

namespace PeriodicController

/-- The number of entries that a cut leaves. -/
def historyLimit : Nat := 50

/-- `self.history[-50:]` -/
def lastEntries (entries : List PhaseEntry) : List PhaseEntry :=
  entries.drop (entries.length - historyLimit)

/-- The controller with its first phase; there is no `started_at` if only the thread is started. -/
def launch (startedAt : Option Int) (time : Int) : PeriodicController where
  stage := .faulty
  history := [{ phase := .fault, startedAt, time }]
  clock := time
  completed := [{ phase := .fault, startedAt, time }]

inductive PeriodicEvent : Type where
  /-- The wait of a phase has ended, and the next transition begins. -/
  | begins (time : Int)
  /-- The transition has ended. -/
  | ends (time : Int)
  | cuts
  | stops
  deriving DecidableEq, Repr

/-- The wait of a phase has ended. -/
def waited (clock : Int) (seconds : Rat) (time : Int) : Bool :=
  decide ((clock : Rat) + seconds * 1000000 ≤ time)

def record (entry : PhaseEntry) (stage : PeriodicStage) (controller : PeriodicController) :
    PeriodicController :=
  { stage
    history := controller.history ++ [entry]
    clock := entry.time
    completed := controller.completed ++ [entry] }

/-- `_run`, event by event -/
def step (times : PeriodicTimes) (controller : PeriodicController) :
    PeriodicEvent → Option PeriodicController
  | .begins time =>
      match controller.stage with
      | .faulty =>
          if waited controller.clock times.down time then
            some { controller with stage := .healing time, clock := time }
          else none
      | .healthy =>
          if waited controller.clock times.up time then
            some { controller with stage := .failing time, clock := time }
          else none
      | _ => none
  | .ends time =>
      match controller.stage with
      | .healing startedAt =>
          if controller.clock ≤ time then
            some (controller.record { phase := .healthy, startedAt := some startedAt, time } .healthy)
          else none
      | .failing startedAt =>
          if controller.clock ≤ time then
            some (controller.record { phase := .fault, startedAt := some startedAt, time } .recorded)
          else none
      | _ => none
  | .cuts =>
      if controller.stage = .recorded then
        some { controller with stage := .faulty, history := lastEntries controller.history }
      else none
  | .stops => some { controller with stage := .stopped }

/-- The controllers of a run. -/
inductive Reachable (times : PeriodicTimes) : PeriodicController → Prop where
  | launched (startedAt : Option Int) (time : Int) (before : ∀ start ∈ startedAt, start ≤ time) :
      Reachable times (launch startedAt time)
  | stepped {controller after : PeriodicController} {event : PeriodicEvent}
      (reached : Reachable times controller) (steps : controller.step times event = some after) :
      Reachable times after

/-! ## What a step does -/

variable {times : PeriodicTimes} {controller after : PeriodicController} {event : PeriodicEvent}

/-- A step: a transition begins after the wait of its phase, it is recorded, or nothing is. -/
inductive Moves (controller after : PeriodicController) : Prop where
  | heals (faulty : controller.stage = .faulty) (time : Int) (later : controller.clock < time)
      (same : after = { controller with stage := .healing time, clock := time })
  | fails (healthy : controller.stage = .healthy) (time : Int) (later : controller.clock < time)
      (same : after = { controller with stage := .failing time, clock := time })
  | healed (startedAt time : Int) (healing : controller.stage = .healing startedAt)
      (later : controller.clock ≤ time)
      (same : after =
        controller.record { phase := .healthy, startedAt := some startedAt, time } .healthy)
  | failed (startedAt time : Int) (failing : controller.stage = .failing startedAt)
      (later : controller.clock ≤ time)
      (same : after =
        controller.record { phase := .fault, startedAt := some startedAt, time } .recorded)
  | cuts (recorded : controller.stage = .recorded)
      (same : after =
        { controller with stage := .faulty, history := lastEntries controller.history })
  | stops (same : after = { controller with stage := .stopped })

theorem lt_of_waited {clock time : Int} {seconds : Rat} (positive : 0 < seconds)
    (waits : waited clock seconds time = true) : clock < time := by
  have reached := of_decide_eq_true waits
  have more : (clock : Rat) < time := by
    have : 0 < seconds * 1000000 := mul_pos positive (by norm_num)
    linarith
  exact_mod_cast more

theorem step_moves (steps : controller.step times event = some after) : Moves controller after := by
  have down : 0 < times.down := lt_of_lt_of_le times.positive (min_le_left _ _)
  have up : 0 < times.up := lt_of_lt_of_le times.positive (min_le_right _ _)
  cases event with
  | begins time =>
      unfold step at steps
      dsimp only at steps
      split at steps
      · rename_i faulty
        split at steps
        · rename_i waits
          cases steps
          exact .heals faulty time (lt_of_waited down waits) rfl
        · cases steps
      · rename_i healthy
        split at steps
        · rename_i waits
          cases steps
          exact .fails healthy time (lt_of_waited up waits) rfl
        · cases steps
      · cases steps
  | ends time =>
      unfold step at steps
      dsimp only at steps
      split at steps
      · rename_i startedAt healing
        split at steps
        · rename_i later
          cases steps
          exact .healed startedAt time healing later rfl
        · cases steps
      · rename_i startedAt failing
        split at steps
        · rename_i later
          cases steps
          exact .failed startedAt time failing later rfl
        · cases steps
      · cases steps
  | cuts =>
      unfold step at steps
      dsimp only at steps
      split at steps
      · rename_i recorded
        cases steps
        exact .cuts recorded rfl
      · cases steps
  | stops =>
      cases steps
      exact .stops rfl

/-! ## What the history keeps -/

/-- The history is what is left of the phases after some of the first ones, and the last fifty are
among it. -/
structure Kept (controller : PeriodicController) (dropped : Nat) : Prop where
  history : controller.history = controller.completed.drop dropped
  few : dropped = 0 ∨ dropped + historyLimit ≤ controller.completed.length

theorem Kept.record {dropped : Nat} (kept : controller.Kept dropped) (entry : PhaseEntry)
    (stage : PeriodicStage) : (controller.record entry stage).Kept dropped := by
  have few := kept.few
  unfold historyLimit at few
  refine ⟨?_, ?_⟩
  · unfold PeriodicController.record
    rw [kept.history, List.drop_append_of_le_length (by omega)]
  · unfold PeriodicController.record historyLimit
    rw [List.length_append, List.length_singleton]
    omega

theorem Kept.moves {dropped : Nat} (kept : controller.Kept dropped)
    (moves : Moves controller after) : ∃ dropped', after.Kept dropped' := by
  cases moves with
  | heals faulty time later same => exact ⟨dropped, same ▸ ⟨kept.history, kept.few⟩⟩
  | fails healthy time later same => exact ⟨dropped, same ▸ ⟨kept.history, kept.few⟩⟩
  | healed startedAt time healing later same => exact ⟨dropped, same ▸ kept.record _ _⟩
  | failed startedAt time failing later same => exact ⟨dropped, same ▸ kept.record _ _⟩
  | stops same => exact ⟨dropped, same ▸ ⟨kept.history, kept.few⟩⟩
  | cuts recorded same =>
      subst same
      refine ⟨dropped + (controller.history.length - historyLimit), ?_, ?_⟩
      · rw [lastEntries, kept.history, List.drop_drop]
      · have few := kept.few
        dsimp only
        rw [kept.history, List.length_drop]
        unfold historyLimit at few ⊢
        omega

theorem Reachable.kept (reached : Reachable times controller) :
    ∃ dropped, controller.Kept dropped := by
  induction reached with
  | launched startedAt time before => exact ⟨0, rfl, .inl rfl⟩
  | stepped reached steps ih =>
      obtain ⟨dropped, kept⟩ := ih
      exact kept.moves (step_moves steps)

/-! ## The order of the phases -/

/-- The phase at a place of a run. -/
def phaseAt (place : Nat) : PhaseKind := if place % 2 = 0 then .fault else .healthy

/-- The stage of a controller with so many phases, which is in a transition since its last event. -/
def Fits (clock : Int) (count : Nat) : PeriodicStage → Prop
  | .faulty => count % 2 = 1
  | .healing startedAt => count % 2 = 1 ∧ startedAt = clock
  | .healthy => count % 2 = 0
  | .failing startedAt => count % 2 = 0 ∧ startedAt = clock
  | .recorded => count % 2 = 1
  | .stopped => True

/-- A transition goes on. -/
def InTransition : PeriodicStage → Prop
  | .healing _ => True
  | .failing _ => True
  | _ => False

/-- The phases alternate, and each one begins before the next one is recorded. -/
structure Alternates (controller : PeriodicController) : Prop where
  fits : Fits controller.clock controller.completed.length controller.stage
  phases : ∀ place entry, controller.completed[place]? = some entry → entry.phase = phaseAt place
  begun : ∀ entry ∈ controller.completed, entry.begins ≤ controller.clock
  before : InTransition controller.stage →
    ∀ entry ∈ controller.completed, entry.begins < controller.clock
  ordered : controller.completed.Pairwise fun first second => first.begins < second.time

theorem Alternates.record {startedAt time : Int} {phase : PhaseKind} {stage : PeriodicStage}
    (alternates : controller.Alternates) (isPhase : phase = phaseAt controller.completed.length)
    (here : InTransition controller.stage) (isStart : startedAt = controller.clock)
    (later : controller.clock ≤ time)
    (fits : Fits time (controller.completed.length + 1) stage) (rests : ¬ InTransition stage) :
    (controller.record { phase, startedAt := some startedAt, time } stage).Alternates := by
  have before := alternates.before here
  unfold PeriodicController.record
  refine ⟨?_, fun place entry atPlace => ?_, fun entry mem => ?_, fun moving => absurd moving rests,
    ?_⟩
  · rw [List.length_append, List.length_singleton]
    exact fits
  · rcases Nat.lt_trichotomy place controller.completed.length with below | here | above
    · rw [List.getElem?_append_left below] at atPlace
      exact alternates.phases place entry atPlace
    · rw [here, List.getElem?_concat_length] at atPlace
      cases atPlace
      rw [isPhase, here]
    · rw [List.getElem?_eq_none (by rw [List.length_append, List.length_singleton]; omega)] at atPlace
      cases atPlace
  · rcases List.mem_append.mp mem with mem | mem
    · exact (before entry mem).le.trans later
    · cases List.mem_singleton.mp mem
      exact isStart.le.trans later
  · rw [List.pairwise_append]
    refine ⟨alternates.ordered, List.pairwise_singleton _ _, fun first mem second last => ?_⟩
    cases List.mem_singleton.mp last
    exact (before first mem).trans_le later

theorem Alternates.moves (alternates : controller.Alternates) (moves : Moves controller after) :
    after.Alternates := by
  have fits := alternates.fits
  cases moves with
  | heals faulty time later same =>
      rw [faulty] at fits
      have before := fun entry mem => (alternates.begun entry mem).trans_lt later
      exact same ▸ ⟨⟨fits, rfl⟩, alternates.phases, fun entry mem => (before entry mem).le,
        fun _ => before, alternates.ordered⟩
  | fails healthy time later same =>
      rw [healthy] at fits
      have before := fun entry mem => (alternates.begun entry mem).trans_lt later
      exact same ▸ ⟨⟨fits, rfl⟩, alternates.phases, fun entry mem => (before entry mem).le,
        fun _ => before, alternates.ordered⟩
  | healed startedAt time healing later same =>
      rw [healing] at fits
      refine same ▸ alternates.record ?_ (healing ▸ trivial) fits.2 later ?_ id
      · rw [phaseAt, if_neg (by rw [fits.1]; exact one_ne_zero)]
      · have odd := fits.1
        change (controller.completed.length + 1) % 2 = 0
        omega
  | failed startedAt time failing later same =>
      rw [failing] at fits
      refine same ▸ alternates.record ?_ (failing ▸ trivial) fits.2 later ?_ id
      · rw [phaseAt, if_pos fits.1]
      · have even := fits.1
        change (controller.completed.length + 1) % 2 = 1
        omega
  | cuts recorded same =>
      rw [recorded] at fits
      exact same ▸ ⟨fits, alternates.phases, alternates.begun, fun moving => moving.elim,
        alternates.ordered⟩
  | stops same =>
      exact same ▸ ⟨trivial, alternates.phases, alternates.begun, fun moving => moving.elim,
        alternates.ordered⟩

theorem alternates_launch {startedAt : Option Int} {time : Int}
    (before : ∀ start ∈ startedAt, start ≤ time) : (launch startedAt time).Alternates := by
  refine ⟨rfl, fun place entry atPlace => ?_, fun entry mem => ?_, fun moving => moving.elim,
    List.pairwise_singleton _ _⟩
  · rcases place with _ | place
    · cases atPlace
      rfl
    · cases atPlace
  · cases List.mem_singleton.mp mem
    rcases startedAt with _ | start
    · exact le_refl time
    · exact before start rfl

theorem Reachable.alternates (reached : Reachable times controller) : controller.Alternates := by
  induction reached with
  | launched startedAt time before => exact alternates_launch before
  | stepped reached steps ih => exact ih.moves (step_moves steps)

end PeriodicController

end NetOpsBench
