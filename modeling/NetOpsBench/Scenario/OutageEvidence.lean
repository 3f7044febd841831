import NetOpsBench.Faults.Periodic
import Mathlib.Data.List.Induction

/-!
# Outages of a periodic fault

`_periodic_client_outages` and `_observed_periodic_phases` of
`netopsbench/platform/scenario/effects.py`, over the history of a `PeriodicController`.
-/

namespace NetOpsBench

structure OutageInterval : Type where
  client : String
  start : Int
  stop : Int
  deriving DecidableEq, Repr

/-- The end of the outage of a phase: the entry after it, at most the end of the window. -/
def outageStop (phases : List PhaseEntry) (index : Nat) (endTime : Int) : Int :=
  match phases[index + 1]? with
  | none => endTime
  | some next => min endTime next.time

/-- One turn of the loop of `_periodic_client_outages`. -/
def phaseOutages (phases : List PhaseEntry) (clients : List String) (endTime : Int)
    (numbered : PhaseEntry × Nat) : List OutageInterval :=
  if numbered.1.phase = .fault then
    if numbered.1.begins < outageStop phases numbered.2 endTime then
      clients.map fun client =>
        { client, start := numbered.1.begins, stop := outageStop phases numbered.2 endTime }
    else []
  else []

/-- `_periodic_client_outages` -/
def periodicClientOutages (phases : List PhaseEntry) (clients : List String) (endTime : Int) :
    List OutageInterval :=
  phases.zipIdx.flatMap (phaseOutages phases clients endTime)

/-- One turn of the loop of `_observed_periodic_phases`, over `previous` and `observed`. -/
def seePhase (start stop : Int) (seen : List PhaseEntry × List PhaseEntry)
    (phase : PhaseEntry) : List PhaseEntry × List PhaseEntry :=
  if phase.time ≤ start then ([phase], seen.2)
  else if phase.time ≤ stop then (seen.1, seen.2 ++ [phase])
  else seen

/-- `_observed_periodic_phases` -/
def observedPeriodicPhases (history : List PhaseEntry) (start stop : Int) : List PhaseEntry :=
  let seen := history.foldl (seePhase start stop) ([], [])
  seen.1 ++ seen.2

/-- A phase was verified inside the window. -/
def verifiedWithin (start stop : Int) (phase : PhaseEntry) : Bool :=
  decide (start < phase.time) && decide (phase.time ≤ stop)

/-- The last of the phases that were verified before the window. -/
def lastBefore (start : Int) (phases : List PhaseEntry) : List PhaseEntry :=
  ((phases.filter fun phase => decide (phase.time ≤ start)).getLast?).toList

/-! ## The intervals -/

section Intervals

variable {phases : List PhaseEntry} {clients : List String} {start stop : Int}

theorem mem_periodicClientOutages {outage : OutageInterval} :
    outage ∈ periodicClientOutages phases clients stop ↔
      ∃ place entry, phases[place]? = some entry ∧ entry.phase = .fault ∧
        entry.begins < outageStop phases place stop ∧ outage.client ∈ clients ∧
        outage.start = entry.begins ∧ outage.stop = outageStop phases place stop := by
  unfold periodicClientOutages
  rw [List.mem_flatMap]
  constructor
  · intro reported
    obtain ⟨numbered, mem, turn⟩ := reported
    unfold phaseOutages at turn
    split at turn
    · rename_i isFault
      split at turn
      · rename_i earlier
        obtain ⟨client, isClient, rfl⟩ := List.mem_map.mp turn
        exact ⟨numbered.2, numbered.1, List.mem_zipIdx_iff_getElem?.mp mem, isFault, earlier,
          isClient, rfl, rfl⟩
      · cases turn
    · cases turn
  · intro reported
    obtain ⟨place, entry, atPlace, isFault, earlier, isClient, starts, stops⟩ := reported
    refine ⟨(entry, place), List.mem_zipIdx_iff_getElem?.mpr atPlace, ?_⟩
    unfold phaseOutages
    rw [if_pos isFault, if_pos earlier]
    refine List.mem_map.mpr ⟨outage.client, isClient, ?_⟩
    obtain ⟨client, outageStart, outageEnd⟩ := outage
    cases starts
    cases stops
    rfl

theorem outageStop_le {place : Nat} : outageStop phases place stop ≤ stop := by
  unfold outageStop
  split
  · exact le_refl stop
  · exact min_le_left _ _

theorem outageStop_le_next {place : Nat} {next : PhaseEntry}
    (follows : phases[place + 1]? = some next) : outageStop phases place stop ≤ next.time := by
  unfold outageStop
  rw [follows]
  exact min_le_right _ _

theorem le_outageStop {place : Nat} {time : Int} (inWindow : time ≤ stop)
    (beforeNext : ∀ next, phases[place + 1]? = some next → time ≤ next.time) :
    time ≤ outageStop phases place stop := by
  unfold outageStop
  split
  · exact inWindow
  · rename_i next follows
    exact le_min inWindow (beforeNext next follows)

theorem lt_outageStop {place : Nat} {time : Int} (inWindow : time < stop)
    (beforeNext : ∀ next, phases[place + 1]? = some next → time < next.time) :
    time < outageStop phases place stop := by
  unfold outageStop
  split
  · exact inWindow
  · rename_i next follows
    exact lt_min inWindow (beforeNext next follows)

end Intervals

/-! ## The phases -/

section Phases

variable {start stop : Int}

theorem lastBefore_append_pos {phases : List PhaseEntry} {phase : PhaseEntry}
    (earlier : phase.time ≤ start) : lastBefore start (phases ++ [phase]) = [phase] := by
  unfold lastBefore
  rw [List.filter_append, List.filter_singleton, decide_eq_true earlier]
  simp

theorem lastBefore_append_neg {phases : List PhaseEntry} {phase : PhaseEntry}
    (later : ¬ phase.time ≤ start) :
    lastBefore start (phases ++ [phase]) = lastBefore start phases := by
  unfold lastBefore
  rw [List.filter_append, List.filter_singleton, decide_eq_false later]
  simp

theorem filter_verifiedWithin_append (phases : List PhaseEntry) (phase : PhaseEntry) :
    (phases ++ [phase]).filter (verifiedWithin start stop) =
      phases.filter (verifiedWithin start stop) ++
        if verifiedWithin start stop phase = true then [phase] else [] := by
  rw [List.filter_append, List.filter_singleton]
  cases verifiedWithin start stop phase <;> rfl

/-- What the loop has seen after some phases. -/
theorem foldl_seePhase (phases : List PhaseEntry) :
    phases.foldl (seePhase start stop) ([], []) =
      (lastBefore start phases, phases.filter (verifiedWithin start stop)) := by
  induction phases using List.reverseRecOn with
  | nil => rfl
  | append_singleton phases phase ih =>
      rw [List.foldl_append, ih, List.foldl_cons, List.foldl_nil, filter_verifiedWithin_append]
      unfold seePhase
      split
      · rename_i earlier
        rw [lastBefore_append_pos earlier, if_neg, List.append_nil]
        unfold verifiedWithin
        rw [decide_eq_false (by omega), Bool.false_and]
        exact Bool.false_ne_true
      · rename_i later
        rw [lastBefore_append_neg later]
        unfold verifiedWithin
        rw [decide_eq_true (by omega : start < phase.time), Bool.true_and]
        split
        · rename_i inWindow
          rw [if_pos (decide_eq_true inWindow)]
        · rename_i outside
          rw [if_neg (by rw [decide_eq_true_eq]; exact outside), List.append_nil]

theorem observedPeriodicPhases_eq (phases : List PhaseEntry) :
    observedPeriodicPhases phases start stop =
      lastBefore start phases ++ phases.filter (verifiedWithin start stop) := by
  unfold observedPeriodicPhases
  rw [foldl_seePhase]

end Phases

namespace PeriodicController

/-! ## Completeness -/

/-- The intervals cover the phase of a fault, from its start to the next phase, in the window. -/
def Covers (outages : List OutageInterval) (completed : List PhaseEntry) (client : String)
    (start stop : Int) (place : Nat) (entry : PhaseEntry) : Prop :=
  ∀ time, start ≤ time → time ≤ stop → entry.begins ≤ time →
    (∀ next, completed[place + 1]? = some next → time ≤ next.time) →
      ∃ outage ∈ outages, outage.client = client ∧ outage.start ≤ time ∧ time ≤ outage.stop

/-- An interval is part of the phase of a fault. -/
def PartOfFault (completed : List PhaseEntry) (stop : Int) (outage : OutageInterval) : Prop :=
  ∃ place entry, completed[place]? = some entry ∧ entry.phase = .fault ∧
    outage.start = entry.begins ∧ outage.start < outage.stop ∧ outage.stop ≤ stop ∧
    ∀ next, completed[place + 1]? = some next →
      next.phase = .healthy ∧ outage.stop ≤ next.time

/-- The evidence about a window is complete. -/
structure OutageEvidence (controller : PeriodicController) (clients : List String)
    (start stop : Int) : Prop where
  covers : ∀ client ∈ clients, ∀ place entry, controller.completed[place]? = some entry →
    entry.phase = .fault → entry.begins < stop →
      Covers (periodicClientOutages controller.history clients stop) controller.completed client
        start stop place entry
  /-- A transition to the fault that goes on is covered. -/
  ongoing : ∀ client ∈ clients, ∀ startedAt, controller.stage = .failing startedAt →
    ∀ time, start ≤ time → time ≤ stop → startedAt ≤ time →
      ∃ outage ∈ periodicClientOutages controller.history clients stop,
        outage.client = client ∧ outage.start ≤ time ∧ time ≤ outage.stop
  within : ∀ outage ∈ periodicClientOutages controller.history clients stop,
    outage.client ∈ clients ∧ PartOfFault controller.completed stop outage
  lists : ∃ before, observedPeriodicPhases controller.history start stop =
    before ++ controller.completed.filter (verifiedWithin start stop) ∧
      ∀ phase ∈ before, phase.time ≤ start

/-- The evidence about a window, over the phases that the history still has. -/
structure KeptEvidence (controller : PeriodicController) (clients : List String)
    (start stop : Int) (dropped : Nat) : Prop where
  few : dropped = 0 ∨ dropped + historyLimit ≤ controller.completed.length
  covers : ∀ client ∈ clients, ∀ place entry, controller.completed[place]? = some entry →
    entry.phase = .fault → dropped ≤ place → entry.begins < stop →
      Covers (periodicClientOutages controller.history clients stop) controller.completed client
        start stop place entry
  within : ∀ outage ∈ periodicClientOutages controller.history clients stop,
    outage.client ∈ clients ∧ PartOfFault controller.completed stop outage
  lists : observedPeriodicPhases controller.history start stop =
    lastBefore start (controller.completed.drop dropped) ++
      (controller.completed.drop dropped).filter (verifiedWithin start stop)
  alternate : ∀ place entry, controller.completed[place]? = some entry →
    entry.phase = phaseAt place

variable {times : PeriodicTimes} {controller : PeriodicController} {clients : List String}
  {start stop : Int} {dropped : Nat}

theorem Alternates.next_healthy (alternates : controller.Alternates) {place : Nat}
    {entry next : PhaseEntry} (atPlace : controller.completed[place]? = some entry)
    (isFault : entry.phase = .fault) (follows : controller.completed[place + 1]? = some next) :
    next.phase = .healthy := by
  have here := alternates.phases place entry atPlace
  have there := alternates.phases (place + 1) next follows
  rw [isFault, phaseAt] at here
  split at here
  · rw [there, phaseAt, if_neg (by omega)]
  · cases here

theorem Alternates.begins_lt_next (alternates : controller.Alternates) {place : Nat}
    {entry next : PhaseEntry} (atPlace : controller.completed[place]? = some entry)
    (follows : controller.completed[place + 1]? = some next) : entry.begins < next.time := by
  obtain ⟨inside, rfl⟩ := List.getElem?_eq_some_iff.mp atPlace
  obtain ⟨insideNext, rfl⟩ := List.getElem?_eq_some_iff.mp follows
  exact List.pairwise_iff_getElem.mp alternates.ordered place (place + 1) inside insideNext
    (Nat.lt_succ_self place)

theorem Kept.getElem? (kept : controller.Kept dropped) (index : Nat) :
    controller.history[index]? = controller.completed[dropped + index]? := by
  rw [kept.history, List.getElem?_drop]

theorem Kept.covers (kept : controller.Kept dropped) (alternates : controller.Alternates)
    {client : String} (isClient : client ∈ clients) {place : Nat} {entry : PhaseEntry}
    (atPlace : controller.completed[place]? = some entry) (isFault : entry.phase = .fault)
    (isKept : dropped ≤ place) (earlier : entry.begins < stop) :
    Covers (periodicClientOutages controller.history clients stop) controller.completed client
      start stop place entry := by
  intro time _ inWindow begun beforeNext
  have same : ∀ offset, controller.history[place - dropped + offset]? =
      controller.completed[place + offset]? := by
    intro offset
    rw [kept.getElem?]
    congr 1
    omega
  have opens : entry.begins < outageStop controller.history (place - dropped) stop :=
    lt_outageStop earlier fun next follows =>
      alternates.begins_lt_next atPlace ((same 1).symm.trans follows)
  refine ⟨⟨client, entry.begins, outageStop controller.history (place - dropped) stop⟩, ?_, rfl,
    begun, ?_⟩
  · exact mem_periodicClientOutages.mpr ⟨place - dropped, entry, (same 0).trans atPlace, isFault,
      opens, isClient, rfl, rfl⟩
  · exact le_outageStop inWindow fun next follows => beforeNext next ((same 1).symm.trans follows)

theorem Kept.within (kept : controller.Kept dropped) (alternates : controller.Alternates)
    {outage : OutageInterval}
    (reported : outage ∈ periodicClientOutages controller.history clients stop) :
    outage.client ∈ clients ∧ PartOfFault controller.completed stop outage := by
  obtain ⟨index, entry, atIndex, isFault, opens, isClient, starts, stops⟩ :=
    mem_periodicClientOutages.mp reported
  have atPlace := (kept.getElem? index).symm.trans atIndex
  refine ⟨isClient, dropped + index, entry, atPlace, isFault, starts, ?_, ?_, ?_⟩
  · rw [starts, stops]
    exact opens
  · rw [stops]
    exact outageStop_le
  · intro next follows
    refine ⟨alternates.next_healthy atPlace isFault follows, ?_⟩
    rw [stops]
    exact outageStop_le_next ((kept.getElem? (index + 1)).trans follows)

theorem Kept.evidence (kept : controller.Kept dropped) (alternates : controller.Alternates) :
    controller.KeptEvidence clients start stop dropped where
  few := kept.few
  covers _ isClient _ _ atPlace isFault isKept earlier :=
    kept.covers alternates isClient atPlace isFault isKept earlier
  within _ reported := kept.within alternates reported
  lists := by rw [observedPeriodicPhases_eq, kept.history]
  alternate := alternates.phases

/-- The evidence about every window, at every moment of a run. -/
theorem outage_evidence_kept (reached : Reachable times controller) (clients : List String)
    (start stop : Int) : ∃ dropped, controller.KeptEvidence clients start stop dropped := by
  obtain ⟨dropped, kept⟩ := reached.kept
  exact ⟨dropped, kept.evidence reached.alternates⟩

/-! ## Runs -/

/-- A run of the loop, event after event. -/
def run (times : PeriodicTimes) : PeriodicController → List PeriodicEvent →
    Option PeriodicController
  | controller, [] => some controller
  | controller, event :: events =>
      match controller.step times event with
      | none => none
      | some after => run times after events

theorem Reachable.run {events : List PeriodicEvent} {after : PeriodicController}
    (reached : Reachable times controller) (runs : run times controller events = some after) :
    Reachable times after := by
  induction events generalizing controller with
  | nil =>
      cases runs
      exact reached
  | cons event events ih =>
      rw [PeriodicController.run] at runs
      split at runs
      · cases runs
      · rename_i middle steps
        exact ih (.stepped reached steps) runs

/-- One second of each phase. -/
def everySecond : PeriodicTimes where
  down := 1
  up := 1
  positive := by norm_num

/-- A cycle from a second on; every transition takes a second. -/
def cycleFrom (second : Int) : List PeriodicEvent :=
  [.begins ((second + 1) * 1000000), .ends ((second + 2) * 1000000),
    .begins ((second + 3) * 1000000), .ends ((second + 4) * 1000000), .cuts]

/-- The events of some cycles. -/
def cycles (count : Nat) : List PeriodicEvent :=
  (List.range count).flatMap fun index => cycleFrom (4 * index)

theorem reachable_launch : Reachable everySecond (launch (some 0) 0) := by
  apply Reachable.launched
  intro start isStart
  cases isStart
  exact le_refl 0

/-- The evidence about the first hundred seconds of a run of one cycle. -/
theorem outage_evidence_one_cycle :
    ∃ controller, run everySecond (launch (some 0) 0) (cycles 1) = some controller ∧
      ∃ dropped, controller.KeptEvidence ["client1"] 0 100000000 dropped := by
  have isSome : (run everySecond (launch (some 0) 0) (cycles 1)).isSome = true := by
    decide +kernel
  obtain ⟨controller, runs⟩ := Option.isSome_iff_exists.mp isSome
  exact ⟨controller, runs,
    outage_evidence_kept (reachable_launch.run runs) ["client1"] 0 100000000⟩

/-- After twenty-five cycles, every interval begins after the first phase. -/
def firstOutageLost (controller : PeriodicController) : Bool :=
  decide (controller.completed[0]? = some { phase := .fault, startedAt := some 0, time := 0 }) &&
  decide (controller.completed[1]? =
    some { phase := .healthy, startedAt := some 1000000, time := 2000000 }) &&
  decide (controller.clock ≤ 100000000) &&
  (periodicClientOutages controller.history ["client1"] 100000000).all fun outage =>
    decide (1000000 < outage.start)

/-- A transition to the fault goes on, and every interval ends before it. -/
def ongoingMissed (controller : PeriodicController) : Bool :=
  decide (controller.stage = .failing 3000000) &&
  decide (controller.completed.length = 2) &&
  decide (controller.clock ≤ 10000000) &&
  (periodicClientOutages controller.history ["client1"] 10000000).all fun outage =>
    decide (outage.stop < 5000000)

/-- The history is cut to fifty entries, and the outage of the first phase is not reported; and
neither is that of a transition that goes on, before any cut. -/
theorem outage_evidence_incomplete :
    (¬ ∀ (times : PeriodicTimes) (controller : PeriodicController) (clients : List String)
      (start stop readAt : Int), Reachable times controller → controller.clock ≤ readAt →
        stop ≤ readAt → controller.OutageEvidence clients start stop) ∧
    ¬ ∀ (times : PeriodicTimes) (controller : PeriodicController) (clients : List String)
      (start stop readAt : Int), Reachable times controller → controller.clock ≤ readAt →
        stop ≤ readAt → controller.completed.length ≤ historyLimit →
          controller.OutageEvidence clients start stop := by
  constructor
  · intro complete
    have lost : (run everySecond (launch (some 0) 0) (cycles 25)).any firstOutageLost = true := by
      decide +kernel
    obtain ⟨controller, runs, lost⟩ := (Option.any_eq_true _ _).mp lost
    unfold firstOutageLost at lost
    rw [Bool.and_eq_true, Bool.and_eq_true, Bool.and_eq_true, decide_eq_true_eq,
      decide_eq_true_eq, decide_eq_true_eq, List.all_eq_true] at lost
    obtain ⟨⟨⟨first, second⟩, ended⟩, later⟩ := lost
    have evidence := complete everySecond controller ["client1"] 0 100000000 100000000
      (reachable_launch.run runs) ended (le_refl _)
    obtain ⟨outage, reported, isClient, starts, stops⟩ :=
      evidence.covers "client1" (List.mem_singleton_self _) 0 _ first rfl (by decide) 1000000
        (by decide) (by decide) (by decide) fun next follows => by
          rw [second] at follows
          cases follows
          decide
    have after := of_decide_eq_true (later outage reported)
    omega
  · intro complete
    have missed : (run everySecond (launch (some 0) 0) ((cycleFrom 0).take 3)).any ongoingMissed =
        true := by
      decide +kernel
    obtain ⟨controller, runs, missed⟩ := (Option.any_eq_true _ _).mp missed
    unfold ongoingMissed at missed
    rw [Bool.and_eq_true, Bool.and_eq_true, Bool.and_eq_true, decide_eq_true_eq,
      decide_eq_true_eq, decide_eq_true_eq, List.all_eq_true] at missed
    obtain ⟨⟨⟨failing, few⟩, ended⟩, earlier⟩ := missed
    have evidence := complete everySecond controller ["client1"] 0 10000000 10000000
      (reachable_launch.run runs) ended (le_refl _) (by rw [few]; decide)
    obtain ⟨outage, reported, isClient, starts, stops⟩ :=
      evidence.ongoing "client1" (List.mem_singleton_self _) 3000000 failing 5000000
        (by decide) (by decide) (by decide)
    have before := of_decide_eq_true (earlier outage reported)
    omega

end PeriodicController

end NetOpsBench
