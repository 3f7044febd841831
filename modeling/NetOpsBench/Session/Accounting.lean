import NetOpsBench.Lib.Groups
import NetOpsBench.Session.Dispatch

/-!
# Every scenario is accounted for

What a worker that returns has made of its scenarios (`meets_runCases`), what the dispatch makes
of the workers' results, and when the two account for every scenario (`dispatch_accounts`).
-/

namespace NetOpsBench

open Fallible Program Sorting ExecutionControl

variable {Evaluation : Type}

/-! ## What is to be accounted for -/

/-- The scenarios at the places of one worker out of `count`. -/
def roundRobin (count place : Nat) (scenarios : List ScenarioSpec) : List ScenarioSpec :=
  (scenarios.zipIdx.filter fun entry => entry.2 % count = place).map Prod.fst

/-- The scenario that a summary is about. -/
def ScenarioSummary.case (summary : ScenarioSummary) : String × String :=
  (summary.scenarioId, summary.scale)

def ScenarioSpec.case (scenario : ScenarioSpec) : String × String := (scenario.id, scenario.scale)

def PoolDispatchResult.ofWorker (result : PoolDispatchResult Evaluation) (workerId : String) :
    List ScenarioSummary :=
  result.scenarios.filter fun summary => summary.worker = workerId

/-- Every scenario is summarised once, by the worker of its turn, and the workers' counts and
their success agree with the summaries. -/
structure Accounted (workers : List RuntimeIdentity) (scenarios : List ScenarioSpec)
    (result : PoolDispatchResult Evaluation) : Prop where
  once : (result.scenarios.map ScenarioSummary.case).Perm (scenarios.map ScenarioSpec.case)
  assigned : ∀ place worker, workers[place]? = some worker →
    (result.ofWorker worker.workerId).map ScenarioSummary.case =
      (roundRobin workers.length place scenarios).map ScenarioSpec.case
  workers : result.workers.map (·.workerId) = workers.map (·.workerId)
  counts : ∀ summary ∈ result.workers,
    summary.executedCount + summary.skippedCount = summary.scenarioCount ∧
      summary.scenarioCount = (result.ofWorker summary.workerId).length
  success : ∀ summary ∈ result.workers,
    summary.success = true ↔ ∀ case ∈ result.ofWorker summary.workerId, case.status = .completed

/-- Before each of the `count` scenarios that a worker gets to, from the one at `index` on, the
cancel event is not set. -/
def UncancelledFrom (control : Option ExecutionControl) (script : Nat → CaseScript Evaluation)
    (index count : Nat) : Prop :=
  ∀ k < count, (∀ j < k, ∀ result, (script (index + j)).run = .ok result →
    stops control result = false) → cancels control (script (index + k)) = false

/-- No worker finds the cancel event set before a scenario that it gets to. -/
def Uncancelled (control : Option ExecutionControl)
    (scripts : RuntimeIdentity → WorkerScript Evaluation) (workers : List RuntimeIdentity)
    (scenarios : List ScenarioSpec) : Prop :=
  ∀ place worker, workers[place]? = some worker →
    UncancelledFrom control (scripts worker).cases 0
      (roundRobin workers.length place scenarios).length

/-! ## One worker -/

section Worker

variable {control : Option ExecutionControl} {worker : RuntimeIdentity}
  {script : Nat → CaseScript Evaluation} {index : Nat}

theorem uncancelledFrom_zero : UncancelledFrom control script index 0 := by
  intro k below
  exact absurd below (Nat.not_lt_zero k)

/-- The first scenario decides whether the later ones matter. -/
theorem uncancelledFrom_succ {count : Nat} :
    UncancelledFrom control script index (count + 1) ↔
      cancels control (script index) = false ∧
        ((∀ result, (script index).run = .ok result → stops control result = false) →
          UncancelledFrom control script (index + 1) count) := by
  constructor
  · intro uncancelled
    refine ⟨uncancelled 0 (Nat.succ_pos count) fun j below => absurd below (Nat.not_lt_zero j), ?_⟩
    intro goesOn k below earlier
    rw [Nat.add_right_comm, Nat.add_assoc]
    refine uncancelled (k + 1) (Nat.succ_lt_succ below) fun j later result ran => ?_
    cases j with
    | zero => exact goesOn result ran
    | succ j =>
        refine earlier j (Nat.lt_of_succ_lt_succ later) result ?_
        rw [Nat.add_right_comm, Nat.add_assoc]
        exact ran
  · intro both k below earlier
    rcases both with ⟨first, rest⟩
    cases k with
    | zero => exact first
    | succ k =>
        have goesOn := earlier 0 (Nat.succ_pos k)
        have later := rest goesOn k (Nat.lt_of_succ_lt_succ below) fun j lt result ran => by
          refine earlier (j + 1) (Nat.succ_lt_succ lt) result ?_
          rw [← Nat.add_assoc, Nat.add_right_comm]
          exact ran
        rw [Nat.add_right_comm, Nat.add_assoc] at later
        exact later

theorem succeeded_of_status {result : ScenarioResult} {scenario : ScenarioSpec} {path : String} :
    (caseSummary worker scenario path result).status = .completed ↔ result.succeeded = true := by
  unfold caseSummary ScenarioResult.succeeded
  cases result.valid <;> cases result.success.getD false <;> cases result.cleanupSuccess <;> simp

theorem not_succeeded_of_stops {result : ScenarioResult} (stop : stops control result = true) :
    result.succeeded = false := by
  rw [stops, Bool.or_eq_true] at stop
  rcases stop with cleanup | failed
  · have dirty : result.cleanupSuccess = false := by simpa using cleanup
    rw [ScenarioResult.succeeded, dirty, Bool.and_false]
  · simpa using (Bool.and_eq_true_iff.mp failed).2

/-- What the loop over `scenarios` has added when it returns. -/
structure Ran (control : Option ExecutionControl) (worker : RuntimeIdentity)
    (script : Nat → CaseScript Evaluation) (index : Nat) (scenarios : List ScenarioSpec)
    (progress final : WorkerProgress Evaluation) : Prop where
  executed : final.executed ≤ progress.executed + scenarios.length
  summaries : ∃ added : List ScenarioSummary, final.summaries = progress.summaries ++ added ∧
    (∀ summary ∈ added, summary.worker = worker.workerId) ∧
    (UncancelledFrom control script index scenarios.length →
      added.map ScenarioSummary.case = scenarios.map ScenarioSpec.case ∧
        (final.success = true ↔
          progress.success = true ∧ ∀ summary ∈ added, summary.status = .completed)) ∧
    (¬ UncancelledFrom control script index scenarios.length → added.length < scenarios.length)

theorem ran_nil (progress : WorkerProgress Evaluation) :
    Ran control worker script index [] progress progress := by
  refine ⟨le_refl _, [], (List.append_nil _).symm, List.forall_mem_nil _, ?_, ?_⟩
  · intro _
    exact ⟨rfl, (and_iff_left (List.forall_mem_nil _)).symm⟩
  · intro cancelled
    exact absurd uncancelledFrom_zero cancelled

theorem ran_cancelled (cancelled : cancels control (script index) = true)
    (scenario : ScenarioSpec) (later : List ScenarioSpec) (progress : WorkerProgress Evaluation) :
    Ran control worker script index (scenario :: later) progress
      { progress with success := false } := by
  refine ⟨Nat.le_add_right _ _, [], (List.append_nil _).symm, List.forall_mem_nil _, ?_, ?_⟩
  · intro uncancelled
    have not := (uncancelledFrom_succ.mp uncancelled).1
    rw [cancelled] at not
    cases not
  · intro _
    exact Nat.succ_pos _

theorem ran_stopped (running : cancels control (script index) = false) {scenario : ScenarioSpec}
    (later : List ScenarioSpec) (progress : WorkerProgress Evaluation)
    {ran : ScenarioResult × String × List Evaluation} (isRun : (script index).run = .ok ran.1)
    (stop : stops control ran.1 = true) :
    Ran control worker script index (scenario :: later) progress
      { progress.add worker scenario ran with
        summaries := (progress.add worker scenario ran).summaries ++
          later.map (skippedSummary worker ran.1) } := by
  have failed := not_succeeded_of_stops stop
  have uncancelled : UncancelledFrom control script index (later.length + 1) := by
    refine uncancelledFrom_succ.mpr ⟨running, fun goesOn => ?_⟩
    have not := goesOn ran.1 isRun
    rw [stop] at not
    cases not
  refine ⟨?_, caseSummary worker scenario ran.2.1 ran.1 :: later.map (skippedSummary worker ran.1),
    ?_, ?_, ?_, ?_⟩
  · change progress.executed + 1 ≤ progress.executed + (later.length + 1)
    omega
  · exact List.append_assoc _ _ _
  · refine List.forall_mem_cons.mpr ⟨rfl, fun summary mem => ?_⟩
    obtain ⟨skipped, -, rfl⟩ := List.mem_map.mp mem
    rfl
  · intro _
    refine ⟨?_, ?_⟩
    · rw [List.map_cons, List.map_cons, List.map_map]
      rfl
    · change (progress.success && ran.1.succeeded) = true ↔ _
      rw [failed, Bool.and_false]
      constructor
      · intro impossible
        cases impossible
      · intro all
        have completed := succeeded_of_status.mp (all.2 _ List.mem_cons_self)
        rw [failed] at completed
        cases completed
  · intro cancelled
    exact absurd uncancelled cancelled

theorem ran_continued (running : cancels control (script index) = false) {scenario : ScenarioSpec}
    {later : List ScenarioSpec} {progress final : WorkerProgress Evaluation}
    {ran : ScenarioResult × String × List Evaluation} (isRun : (script index).run = .ok ran.1)
    (goesOn : stops control ran.1 = false)
    (rest : Ran control worker script (index + 1) later (progress.add worker scenario ran) final) :
    Ran control worker script index (scenario :: later) progress final := by
  have goes : ∀ result, (script index).run = .ok result → stops control result = false := by
    intro result isResult
    obtain rfl := Except.ok.inj (isResult.symm.trans isRun)
    exact goesOn
  have same : UncancelledFrom control script index (later.length + 1) ↔
      UncancelledFrom control script (index + 1) later.length := by
    rw [uncancelledFrom_succ, and_iff_right running]
    exact forall_prop_of_true goes
  rcases rest.summaries with ⟨added, isFinal, workers, all, cut⟩
  refine ⟨?_, caseSummary worker scenario ran.2.1 ran.1 :: added, ?_, ?_, ?_, ?_⟩
  · have counted := rest.executed
    change final.executed ≤ progress.executed + 1 + later.length at counted
    rw [List.length_cons]
    omega
  · rw [isFinal]
    exact List.append_assoc _ _ _
  · exact List.forall_mem_cons.mpr ⟨rfl, workers⟩
  · intro uncancelled
    rcases all (same.mp uncancelled) with ⟨cases, success⟩
    refine ⟨?_, ?_⟩
    · rw [List.map_cons, List.map_cons, cases]
      rfl
    · rw [success, List.forall_mem_cons, succeeded_of_status]
      change (progress.success && ran.1.succeeded) = true ∧ _ ↔ _
      rw [Bool.and_eq_true, and_assoc]
  · intro cancelled
    exact Nat.succ_lt_succ (cut fun uncancelled => cancelled (same.mpr uncancelled))

theorem run_of_runCase {script : CaseScript Evaluation}
    {ran : ScenarioResult × String × List Evaluation} (done : runCase control script = .ok ran) :
    script.run = .ok ran.1 := by
  unfold runCase at done
  obtain ⟨-, -, done⟩ := bind_eq_ok.mp done
  obtain ⟨result, isResult, done⟩ := bind_eq_ok.mp done
  obtain ⟨path, -, done⟩ := bind_eq_ok.mp done
  obtain ⟨scored, -, done⟩ := bind_eq_ok.mp done
  obtain rfl := (pure_eq_ok _ _).mp done
  exact isResult

/-- The loop of a worker, from one of its scenarios on. -/
theorem meets_runCases (scenarios : List ScenarioSpec) (progress : WorkerProgress Evaluation) :
    Meets (runCases control worker script index progress scenarios) (fun _ => True)
      (fun final _ => Ran control worker script index scenarios progress final)
      (fun _ _ => True) := by
  induction scenarios generalizing index progress with
  | nil => exact Meets.pure fun _ _ => ran_nil progress
  | cons scenario later ih =>
      rw [runCases]
      by_cases cancelled : cancels control (script index) = true
      · rw [if_pos cancelled]
        exact Meets.pure fun _ _ => ran_cancelled cancelled scenario later progress
      · rw [if_neg cancelled]
        have running := Bool.eq_false_iff.mpr cancelled
        refine Meets.bind (Q := fun ran _ => runCase control (script index) = .ok ran)
          (Meets.ofExcept (fun ran done _ _ => done) fun _ _ _ _ => trivial) fun ran => ?_
        refine Meets.bind (Q := fun _ _ => runCase control (script index) = .ok ran) ?_ fun _ => ?_
        · refine Meets.of_outcome fun s done => ⟨fun _ _ _ => done, fun _ _ _ => trivial⟩
        · by_cases stop : stops control ran.1 = true
          · rw [if_pos stop]
            exact Meets.pure fun _ done =>
              ran_stopped running later progress (run_of_runCase done) stop
          · rw [if_neg stop]
            have goesOn := Bool.eq_false_iff.mpr stop
            refine Meets.of_outcome fun s done => ⟨fun final s' ended => ?_, fun _ _ _ => trivial⟩
            exact ran_continued running (run_of_runCase done) goesOn
              ((ih (progress.add worker scenario ran)).of_ok trivial ended)

/-- What a worker that returns reports of its scenarios. -/
structure Reported (control : Option ExecutionControl) (script : Nat → CaseScript Evaluation)
    (worker : RuntimeIdentity) (scenarios : List ScenarioSpec)
    (result : WorkerRunResult Evaluation) : Prop where
  owner : ∀ summary ∈ result.summaries, summary.worker = worker.workerId
  worker : result.worker.workerId = worker.workerId
  counted : result.worker.executedCount + result.worker.skippedCount = result.worker.scenarioCount ∧
    result.worker.scenarioCount = scenarios.length
  all : UncancelledFrom control script 0 scenarios.length →
    result.summaries.map ScenarioSummary.case = scenarios.map ScenarioSpec.case ∧
      (result.worker.success = true ↔ ∀ summary ∈ result.summaries, summary.status = .completed)
  cut : ¬ UncancelledFrom control script 0 scenarios.length →
    result.summaries.length < scenarios.length

theorem meets_closing {α : Type} {loop : DispatchProgram α} {Q : α → Prop}
    (meets : Meets loop (fun _ => True) (fun ended _ => Q ended) (fun _ _ => True))
    (close : Except DispatchError Unit) :
    Meets (closing loop close) (fun _ => True) (fun ended _ => Q ended) (fun _ _ => True) := by
  have raises : ∀ error, Meets (do Program.ofExcept close; throw error : DispatchProgram α)
      (fun _ => True) (fun ended _ => Q ended) (fun _ _ => True) := by
    intro error
    refine Meets.bind (Q := fun _ _ => True) ?_ fun _ => Meets.throw fun _ _ => trivial
    exact Meets.ofExcept (fun _ _ _ _ => trivial) fun _ _ _ _ => trivial
  refine Meets.bind (Meets.tryCatch meets raises) fun ended => ?_
  refine Meets.bind (Q := fun _ _ => Q ended) ?_ fun _ => Meets.pure fun _ holds => holds
  exact Meets.ofExcept (fun _ _ _ holds => holds) fun _ _ _ _ => trivial

theorem meets_runWorker (script : WorkerScript Evaluation) (scenarios : List ScenarioSpec) :
    Meets (runWorker control script worker scenarios) (fun _ => True)
      (fun result _ => Reported control script.cases worker scenarios result)
      (fun _ _ => True) := by
  have passes : ∀ answer : Except DispatchError Unit, Meets (Program.ofExcept answer : DispatchProgram
      Unit) (fun _ => True) (fun _ _ => True) (fun _ _ => True) := fun answer =>
    Meets.ofExcept (fun _ _ _ _ => trivial) fun _ _ _ _ => trivial
  refine Meets.bind (passes _) fun _ => Meets.bind (passes _) fun _ =>
    Meets.bind (passes _) fun _ => ?_
  refine Meets.bind (meets_closing (meets_runCases scenarios {}) script.close) fun ended =>
    Meets.pure fun _ ran => ?_
  have executed : ended.executed ≤ scenarios.length := by
    have bound := ran.executed
    change ended.executed ≤ 0 + scenarios.length at bound
    omega
  rcases ran.summaries with ⟨added, isAdded, owner, all, cut⟩
  have isAll : ended.summaries = added := isAdded
  refine ⟨?_, rfl, ⟨Nat.add_sub_cancel' executed, rfl⟩, ?_, ?_⟩
  · rw [isAll]
    exact owner
  · intro uncancelled
    rcases all uncancelled with ⟨cases, success⟩
    rw [isAll]
    exact ⟨cases, success.trans (and_iff_right rfl)⟩
  · intro cancelled
    rw [isAll]
    exact cut cancelled

end Worker

/-! ## The assignments -/

theorem get_assignFrom (workers : List RuntimeIdentity) (index : Nat)
    (assignments : Dict String (List ScenarioSpec)) (scenarios : List ScenarioSpec)
    (workerId : String) :
    ((assignFrom workers index assignments scenarios).get workerId).getD [] =
      (assignments.get workerId).getD [] ++
        ((scenarios.zipIdx index).filter fun entry =>
          (workerAt workers entry.2).any (·.workerId = workerId)).map Prod.fst := by
  induction scenarios generalizing index assignments with
  | nil => exact (List.append_nil _).symm
  | cons scenario later ih =>
      rw [assignFrom, ih, List.zipIdx_cons]
      cases worker : workerAt workers index with
      | none =>
          rw [List.filter_cons_of_neg (by rw [worker]; exact Bool.false_ne_true)]
      | some worker' =>
          dsimp only
          rw [Dict.get_set]
          by_cases same : worker'.workerId = workerId
          · rw [if_pos same.symm, List.filter_cons_of_pos (by rw [worker]; simpa using same), same]
            simp
          · rw [if_neg fun eq => same eq.symm,
              List.filter_cons_of_neg (by rw [worker]; simpa using same)]

/-- The worker of a place gets the scenarios of its turn. -/
theorem assigned_roundRobin {workers : List RuntimeIdentity} {scenarios : List ScenarioSpec}
    {assignments : Dict String (List ScenarioSpec)}
    (assigned : assignScenariosToWorkers scenarios workers = .ok assignments)
    (ids : (workers.map (·.workerId)).Nodup) {place : Nat} {worker : RuntimeIdentity}
    (isWorker : workers[place]? = some worker) :
    (assignments.get worker.workerId).getD [] = roundRobin workers.length place scenarios := by
  obtain ⟨-, -, done⟩ := bind_eq_ok.mp assigned
  obtain rfl := (pure_eq_ok _ _).mp done
  have before : ((Dict.ofEntries (workers.map fun worker =>
      (worker.workerId, ([] : List ScenarioSpec)))).get worker.workerId).getD [] = [] := by
    cases found : (Dict.ofEntries (workers.map fun worker =>
        (worker.workerId, ([] : List ScenarioSpec)))).get worker.workerId with
    | none => rfl
    | some none =>
        have mem := (Dict.get_ofEntries (by rw [List.map_map]; exact ids)).mp found
        obtain ⟨other, -, isEntry⟩ := List.mem_map.mp mem
        exact (Prod.mk.inj isEntry).2.symm
  rw [get_assignFrom, before, List.nil_append, roundRobin]
  refine congrArg (List.map Prod.fst) (List.filter_congr fun entry _ => ?_)
  obtain ⟨below, -⟩ := List.getElem?_eq_some_iff.mp isWorker
  have turn : entry.2 % workers.length < workers.length :=
    Nat.mod_lt _ (Nat.zero_lt_of_lt below)
  rw [workerAt, List.getElem?_eq_getElem turn, Option.any_some, decide_eq_decide]
  constructor
  · intro same
    have turnId : entry.2 % workers.length < (workers.map (·.workerId)).length := by
      rw [List.length_map]
      exact turn
    have placeId : place < (workers.map (·.workerId)).length := by
      rw [List.length_map]
      exact below
    have sameId : (workers.map (·.workerId))[entry.2 % workers.length] =
        (workers.map (·.workerId))[place] := by
      rw [List.getElem_map, List.getElem_map, same]
      rw [List.getElem?_eq_getElem below] at isWorker
      rw [Option.some.inj isWorker]
    exact ids.getElem_inj_iff.mp sameId
  · intro same
    subst same
    rw [List.getElem?_eq_getElem below] at isWorker
    rw [Option.some.inj isWorker]

theorem perm_roundRobin {count : Nat} (pos : 0 < count) (scenarios : List ScenarioSpec) :
    ((List.range count).flatMap fun place => roundRobin count place scenarios).Perm scenarios := by
  have turns : ∀ entry ∈ scenarios.zipIdx, entry.2 % count ∈ List.range count :=
    fun entry _ => List.mem_range.mpr (Nat.mod_lt _ pos)
  have groups := Groups.perm_flatMap_filter (fun entry : ScenarioSpec × Nat => entry.2 % count)
    List.nodup_range turns
  have mapped := groups.map Prod.fst
  rw [List.map_flatMap, List.zipIdx_map_fst] at mapped
  exact mapped

/-! ## The pool -/

theorem collect_from {runs : Runs Evaluation} {known results : Dict Nat (WorkerRunResult Evaluation)}
    (done : runs.foldlM (fun results run => do
      let result ← run.2.1
      pure (results.set run.1.workerIndex result)) known = .ok results)
    (indices : (runs.map (·.1.workerIndex)).Nodup) :
    (∀ run ∈ runs, ∃ result, run.2.1 = .ok result ∧
      results.get run.1.workerIndex = some result) ∧
    ∀ index, index ∉ runs.map (·.1.workerIndex) → results.get index = known.get index := by
  induction runs generalizing known with
  | nil =>
      obtain rfl := (pure_eq_ok _ _).mp done
      exact ⟨List.forall_mem_nil _, fun _ _ => rfl⟩
  | cons run runs ih =>
      rw [List.map_cons, List.nodup_cons] at indices
      obtain ⟨next, first, rest⟩ := bind_eq_ok.mp done
      obtain ⟨result, isResult, isNext⟩ := bind_eq_ok.mp first
      obtain rfl := (pure_eq_ok _ _).mp isNext
      rcases ih rest indices.2 with ⟨found, others⟩
      refine ⟨List.forall_mem_cons.mpr ⟨⟨result, isResult, ?_⟩, found⟩, ?_⟩
      · rw [others _ indices.1, Dict.get_set, if_pos rfl]
      · intro index absent
        rw [List.map_cons, List.mem_cons, not_or] at absent
        rw [others index absent.2, Dict.get_set, if_neg absent.1]

/-- Whatever the order in which they end, every worker's result is its own run's. -/
theorem results_of_dispatch {workers : List RuntimeIdentity} {scenarios : List ScenarioSpec}
    {run : RuntimeIdentity → List ScenarioSpec → DispatchProgram (WorkerRunResult Evaluation)}
    {completion : Completion (orderedWorkers workers)} {result : PoolDispatchResult Evaluation}
    {marks : List (List String)}
    (indices : ((orderedWorkers workers).map (·.workerIndex)).Nodup)
    (done : dispatchWorkers workers scenarios run completion = (.ok result, marks)) :
    ∃ assignments results,
      assignScenariosToWorkers scenarios (orderedWorkers workers) = .ok assignments ∧
      result = merge results ∧
      List.Forall₂ (fun worker result =>
        (outcome (run worker ((assignments.get worker.workerId).getD [])) []).1 = .ok result)
        (orderedWorkers workers) results := by
  unfold dispatchWorkers at done
  cases assigned : assignScenariosToWorkers scenarios (orderedWorkers workers) with
  | error error =>
      rw [assigned] at done
      cases (Prod.mk.inj done).1
  | ok assignments =>
      rw [assigned] at done
      obtain ⟨collected, isCollected, rest⟩ := bind_eq_ok.mp (Prod.mk.inj done).1
      obtain ⟨results, isResults, merged⟩ := bind_eq_ok.mp rest
      obtain rfl := (pure_eq_ok _ _).mp merged
      refine ⟨assignments, results, rfl, rfl, ?_⟩
      have ofRuns : (runAll run assignments completion.val).map (·.1.workerIndex) =
          completion.val.map (·.workerIndex) := by
        rw [runAll, List.map_map]
        rfl
      have found := (collect_from isCollected (by
        rw [ofRuns]
        exact ((completion.property.map _).nodup_iff).mpr indices)).1
      refine List.Forall₂.imp ?_ ((List.forall₂_and_left (p := fun worker =>
        worker ∈ orderedWorkers workers) _ _).mpr ⟨fun _ mem => mem, mapM_eq_ok.mp isResults⟩)
      intro worker result both
      rcases both with ⟨mem, isResult⟩
      have ran : (worker, outcome (run worker ((assignments.get worker.workerId).getD [])) []) ∈
          runAll run assignments completion.val :=
        List.mem_map.mpr ⟨worker, completion.property.mem_iff.mpr mem, rfl⟩
      obtain ⟨own, isOwn, atIndex⟩ := found _ ran
      unfold resultOf at isResult
      rw [atIndex] at isResult
      obtain rfl := Except.ok.inj isResult
      exact isOwn

/-- The workers of a pool, each with what it reports of the scenarios of its turn. -/
structure PoolReport (control : Option ExecutionControl)
    (scripts : RuntimeIdentity → WorkerScript Evaluation) (workers : List RuntimeIdentity)
    (scenarios : List ScenarioSpec) (results : List (WorkerRunResult Evaluation)) : Prop where
  length : results.length = workers.length
  reported : ∀ place worker, workers[place]? = some worker → ∃ result,
    results[place]? = some result ∧
      Reported control (scripts worker).cases worker
        (roundRobin workers.length place scenarios) result

section Pool

variable {control : Option ExecutionControl} {scripts : RuntimeIdentity → WorkerScript Evaluation}
  {workers : List RuntimeIdentity} {scenarios : List ScenarioSpec}
  {results : List (WorkerRunResult Evaluation)}

theorem PoolReport.of_results (ids : (workers.map (·.workerId)).Nodup)
    {assignments : Dict String (List ScenarioSpec)}
    (assigned : assignScenariosToWorkers scenarios workers = .ok assignments)
    (ran : List.Forall₂ (fun worker result =>
      (outcome (runWorker control (scripts worker) worker
        ((assignments.get worker.workerId).getD [])) []).1 = .ok result) workers results) :
    PoolReport control scripts workers scenarios results := by
  refine ⟨ran.length_eq.symm, fun place worker isWorker => ?_⟩
  obtain ⟨below, rfl⟩ := List.getElem?_eq_some_iff.mp isWorker
  have inside : place < results.length := ran.length_eq ▸ below
  refine ⟨results[place], List.getElem?_eq_getElem inside, ?_⟩
  have ended := ran.get below inside
  simp only [List.get_eq_getElem] at ended
  rw [assigned_roundRobin assigned ids isWorker] at ended
  exact (meets_runWorker (scripts workers[place]) _).of_ok trivial (Prod.ext ended rfl)

/-- A worker's summaries are found again among all. -/
theorem PoolReport.ofWorker (report : PoolReport control scripts workers scenarios results)
    (ids : (workers.map (·.workerId)).Nodup) {place : Nat} {worker : RuntimeIdentity}
    {result : WorkerRunResult Evaluation} (isWorker : workers[place]? = some worker)
    (isResult : results[place]? = some result) :
    (merge results).ofWorker worker.workerId = result.summaries := by
  have owned : List.Forall₂ (fun workerId group => ∀ summary ∈ group,
      ScenarioSummary.worker summary = workerId) (workers.map (·.workerId))
      (results.map (·.summaries)) := by
    rw [List.forall₂_map_left_iff, List.forall₂_map_right_iff, List.forall₂_iff_get]
    refine ⟨report.length.symm, fun i below inside => ?_⟩
    obtain ⟨own, isOwn, reported⟩ := report.reported i _ (List.getElem?_eq_getElem below)
    rw [List.getElem?_eq_getElem inside] at isOwn
    obtain rfl := Option.some.inj isOwn
    exact reported.owner
  refine Groups.filter_flatten ScenarioSummary.worker owned ids (i := place) ?_ ?_
  · rw [List.getElem?_map, isWorker]
    rfl
  · rw [List.getElem?_map, isResult]
    rfl

/-- The report of a place. -/
theorem PoolReport.at (report : PoolReport control scripts workers scenarios results) {place : Nat}
    {result : WorkerRunResult Evaluation} (isResult : results[place]? = some result) :
    ∃ worker, workers[place]? = some worker ∧
      Reported control (scripts worker).cases worker
        (roundRobin workers.length place scenarios) result := by
  obtain ⟨inside, -⟩ := List.getElem?_eq_some_iff.mp isResult
  have below : place < workers.length := report.length ▸ inside
  have isWorker := List.getElem?_eq_getElem below
  obtain ⟨own, isOwn, reported⟩ := report.reported place _ isWorker
  obtain rfl := Option.some.inj (isOwn.symm.trans isResult)
  exact ⟨_, isWorker, reported⟩

theorem PoolReport.worker_ids (report : PoolReport control scripts workers scenarios results) :
    (merge results).workers.map (·.workerId) = workers.map (·.workerId) := by
  refine List.ext_getElem? fun place => ?_
  change ((results.map (·.worker)).map (·.workerId))[place]? = _
  rw [List.map_map, List.getElem?_map, List.getElem?_map]
  cases isResult : results[place]? with
  | none =>
      have outside := List.getElem?_eq_none_iff.mp isResult
      rw [List.getElem?_eq_none_iff.mpr (report.length ▸ outside)]
      rfl
  | some result =>
      obtain ⟨worker, isWorker, reported⟩ := report.at isResult
      rw [isWorker]
      exact congrArg some reported.worker

theorem PoolReport.once (report : PoolReport control scripts workers scenarios results)
    (pos : 0 < workers.length) (uncancelled : Uncancelled control scripts workers scenarios) :
    ((merge results).scenarios.map ScenarioSummary.case).Perm
      (scenarios.map ScenarioSpec.case) := by
  have groups : (results.map fun result => result.summaries.map ScenarioSummary.case) =
      (List.range workers.length).map fun place =>
        (roundRobin workers.length place scenarios).map ScenarioSpec.case := by
    refine List.ext_getElem? fun place => ?_
    rw [List.getElem?_map, List.getElem?_map]
    cases isResult : results[place]? with
    | none =>
        have outside := List.getElem?_eq_none_iff.mp isResult
        rw [List.getElem?_eq_none_iff.mpr (by rw [List.length_range, ← report.length]; exact outside)]
        rfl
    | some result =>
        obtain ⟨worker, isWorker, reported⟩ := report.at isResult
        obtain ⟨below, -⟩ := List.getElem?_eq_some_iff.mp isWorker
        rw [List.getElem?_range below]
        exact congrArg some (reported.all (uncancelled place worker isWorker)).1
  have cases : (merge results).scenarios.map ScenarioSummary.case =
      ((List.range workers.length).flatMap fun place =>
        roundRobin workers.length place scenarios).map ScenarioSpec.case := by
    rw [List.map_flatMap, List.flatMap_def, ← groups]
    exact List.map_flatMap
  rw [cases]
  exact (perm_roundRobin pos scenarios).map _

theorem PoolReport.accounted (report : PoolReport control scripts workers scenarios results)
    (pos : 0 < workers.length) (ids : (workers.map (·.workerId)).Nodup)
    (uncancelled : Uncancelled control scripts workers scenarios) :
    Accounted workers scenarios (merge results) := by
  have ofSummary : ∀ summary ∈ (merge results).workers, ∃ place worker result,
      workers[place]? = some worker ∧ summary = WorkerRunResult.worker result ∧
        (merge results).ofWorker summary.workerId = result.summaries ∧
        Reported control (scripts worker).cases worker
          (roundRobin workers.length place scenarios) result := by
    intro summary mem
    obtain ⟨result, isResult, rfl⟩ := List.mem_map.mp mem
    obtain ⟨place, atPlace⟩ := List.mem_iff_getElem?.mp isResult
    obtain ⟨worker, isWorker, reported⟩ := report.at atPlace
    refine ⟨place, worker, result, isWorker, rfl, ?_, reported⟩
    rw [reported.worker]
    exact report.ofWorker ids isWorker atPlace
  refine ⟨report.once pos uncancelled, ?_, report.worker_ids, ?_, ?_⟩
  · intro place worker isWorker
    obtain ⟨result, isResult, reported⟩ := report.reported place worker isWorker
    rw [report.ofWorker ids isWorker isResult]
    exact (reported.all (uncancelled place worker isWorker)).1
  · intro summary mem
    obtain ⟨place, worker, result, isWorker, rfl, own, reported⟩ := ofSummary summary mem
    refine ⟨reported.counted.1, ?_⟩
    have cases := (reported.all (uncancelled place worker isWorker)).1
    have lengths := congrArg List.length cases
    rw [List.length_map, List.length_map] at lengths
    rw [own, lengths]
    exact reported.counted.2
  · intro summary mem
    obtain ⟨place, worker, result, isWorker, rfl, own, reported⟩ := ofSummary summary mem
    rw [own]
    exact (reported.all (uncancelled place worker isWorker)).2

/-- A scenario that a worker does not get to for a cancellation has no summary. -/
theorem PoolReport.uncancelled (report : PoolReport control scripts workers scenarios results)
    (ids : (workers.map (·.workerId)).Nodup)
    (accounted : Accounted workers scenarios (merge results)) :
    Uncancelled control scripts workers scenarios := by
  intro place worker isWorker
  by_contra cancelled
  obtain ⟨result, isResult, reported⟩ := report.reported place worker isWorker
  have mem : result.worker ∈ (merge results).workers :=
    List.mem_map.mpr ⟨result, List.mem_of_getElem? isResult, rfl⟩
  have counted := (accounted.counts _ mem).2
  rw [reported.worker, report.ofWorker ids isWorker isResult, reported.counted.2] at counted
  exact absurd (reported.cut cancelled) (counted ▸ lt_irrefl _)

end Pool

/-- An execution that returns accounts for every scenario exactly if no worker finds the cancel
event set before a scenario that it gets to. -/
theorem dispatch_accounts {runtime : ExecutionRuntime} {scenarios : List ScenarioSpec}
    {control : Option ExecutionControl} {scripts : RuntimeIdentity → WorkerScript Evaluation}
    {completion : Completion (orderedWorkers runtime.workers)}
    {quarantine : Except DispatchError Unit} {result : PoolDispatchResult Evaluation}
    {marks : List (List String)} (ids : (runtime.workers.map (·.workerId)).Nodup)
    (indices : (runtime.workers.map (·.workerIndex)).Nodup)
    (returned : executeOnRuntimePool runtime scenarios control scripts completion quarantine =
      (.ok result, marks)) :
    Accounted (orderedWorkers runtime.workers) scenarios result ↔
      Uncancelled control scripts (orderedWorkers runtime.workers) scenarios := by
  have perm : (orderedWorkers runtime.workers).Perm runtime.workers := sorted_perm _ _
  have orderedIds : ((orderedWorkers runtime.workers).map (·.workerId)).Nodup :=
    (perm.map _).nodup_iff.mpr ids
  obtain ⟨dispatchMarks, done⟩ : ∃ dispatchMarks, dispatchWorkers runtime.workers scenarios
      (fun worker => runWorker control (scripts worker) worker) completion =
      (.ok result, dispatchMarks) := by
    unfold executeOnRuntimePool at returned
    dsimp only at returned
    split at returned
    · cases (Prod.mk.inj returned).1
    · split at returned
      · cases (Prod.mk.inj returned).1
      · cases ended : (dispatchWorkers runtime.workers scenarios
            (fun worker => runWorker control (scripts worker) worker) completion).1 with
        | error error =>
            rw [ended] at returned
            cases (Prod.mk.inj returned).1
        | ok own =>
            rw [ended] at returned
            dsimp only at returned
            refine ⟨_, Prod.ext (ended.trans ?_) rfl⟩
            split at returned
            · exact (Prod.mk.inj returned).1
            · cases quarantine with
              | error error => cases (Prod.mk.inj returned).1
              | ok _ => exact (Prod.mk.inj returned).1
  obtain ⟨assignments, results, assigned, rfl, ran⟩ := results_of_dispatch
    ((perm.map _).nodup_iff.mpr indices) done
  have report := PoolReport.of_results orderedIds assigned ran
  have pos : 0 < (orderedWorkers runtime.workers).length := by
    obtain ⟨_, nonempty, _⟩ := bind_eq_ok.mp assigned
    exact List.length_pos_iff.mpr (reject_eq_ok.mp nonempty)
  exact ⟨report.uncancelled orderedIds, report.accounted pos orderedIds⟩

/-! ## Examples of a pool -/

def poolWorker (index : Nat) (id : String) : RuntimeIdentity :=
  { runtimeId := "r", workerId := id, workerIndex := index, labName := id, topologyId := id
    topologyDir := id, bucket := id, mgmtSubnet := "172.20.0.0/16", mgmtNetwork := id }

def warmRuntime (workers : List RuntimeIdentity) : ExecutionRuntime :=
  { id := "r", state := "warm", quarantined := false, scale := "xs", workers }

/-- A scenario that is valid and succeeds. -/
def goodCase : CaseScript Unit :=
  { run := .ok { caseValid := some true, success := some true }, persist := .ok "raw.json" }

/-- Three scenarios on two workers, which end in the order of their numbers. -/
theorem dispatch_accounts_three :
    let workers := [poolWorker 1 "worker-1", poolWorker 2 "worker-2"]
    let scenarios : List ScenarioSpec := [⟨"a", "xs"⟩, ⟨"b", "xs"⟩, ⟨"c", "xs"⟩]
    ∃ result marks,
      executeOnRuntimePool (warmRuntime workers) scenarios none
        (fun _ => { cases := fun _ => goodCase }) ⟨_, .refl _⟩ (.ok ()) = (.ok result, marks) ∧
        Accounted (orderedWorkers workers) scenarios result := by
  intro workers scenarios
  have returns : succeedsWith (executeOnRuntimePool (warmRuntime workers) scenarios none
      (fun _ => { cases := fun _ => goodCase }) ⟨_, .refl _⟩ (.ok ())).1 (fun _ => true) = true := by
    decide +kernel
  obtain ⟨result, ended, -⟩ := succeedsWith_eq_true.mp returns
  refine ⟨result, _, Prod.ext ended rfl, ?_⟩
  exact (dispatch_accounts (by decide) (by decide) (Prod.ext ended rfl)).mpr
    fun _ _ _ _ _ _ => rfl

/-- A cancel event that is set while the first of two scenarios runs: the second one is counted as
skipped, and has no summary. -/
theorem cancelled_scenario_lost :
    let workers := [poolWorker 1 "worker-1"]
    let scenarios : List ScenarioSpec := [⟨"a", "xs"⟩, ⟨"b", "xs"⟩]
    ∃ result marks,
      executeOnRuntimePool (warmRuntime workers) scenarios (some { cancelEvent := true })
        (fun _ => { cases := fun index => { goodCase with cancelled := 0 < index } })
        ⟨_, .refl _⟩ (.ok ()) = (.ok result, marks) ∧
        result.scenarios.map ScenarioSummary.case = [("a", "xs")] ∧
        result.workers.map (·.skippedCount) = [1] ∧
        ¬ Accounted (orderedWorkers workers) scenarios result := by
  intro workers scenarios
  have returns : succeedsWith (executeOnRuntimePool (warmRuntime workers) scenarios
      (some { cancelEvent := true })
      (fun _ => { cases := fun index => { goodCase with cancelled := 0 < index } })
      ⟨_, .refl _⟩ (.ok ())).1 (fun result =>
        result.scenarios.map ScenarioSummary.case == [("a", "xs")] &&
          result.workers.map (·.skippedCount) == [1]) = true := by
    decide +kernel
  obtain ⟨result, ended, test⟩ := succeedsWith_eq_true.mp returns
  rcases Bool.and_eq_true_iff.mp test with ⟨cases, skipped⟩
  refine ⟨result, _, Prod.ext ended rfl, eq_of_beq cases, eq_of_beq skipped, fun accounted => ?_⟩
  have length := accounted.once.length_eq
  rw [eq_of_beq cases] at length
  cases length

end NetOpsBench
