import NetOpsBench.Incident.Lifecycle

/-!
# The limits of a session

One check guards tool calls and submissions, and only tool calls are counted. A session that has
made as many calls as it may has not exceeded its limit, and yet its submission is refused: a
diagnosis is scored just when one call was left (`submission_scored_iff`).
-/

namespace NetOpsBench

open Fallible Program

variable {ctx : IncidentContext} {world : IncidentWorld} {id : Nat} {session : DiagnosticSession}

/-- A session and its incident are active. -/
structure IncidentWorld.Ready (world : IncidentWorld) (id : Nat) (session : DiagnosticSession) :
    Prop where
  found : world.sessions[id]? = some session
  active : session.state = .active
  incident : world.incident.state = .active

/-- The clock is within the time of the session, its agent's cleanup not counted. -/
def DiagnosticSession.Timely (session : DiagnosticSession) (clock : SessionClock) : Prop :=
  max 0 (session.elapsed clock - clock.cleanupSeconds) ≤ session.config.maxAgentSeconds

/-- Nothing that `evaluate` asks raises, and this is the evaluator's answer. -/
structure PreparedIncident.EvaluateScript.Answers (script : PreparedIncident.EvaluateScript)
    (incident : PreparedIncident) (evaluation : Evaluation) : Prop where
  refresh : script.refresh = .ok ()
  groundTruth : incident.isHealthy = false → script.groundTruth.isOk = true
  evaluation : script.evaluation = .ok evaluation

namespace DiagnosticSession

theorem requireActive_ready (ready : world.Ready id session) :
    (requireActive id).outcome world = (.ok session, world) := by
  rcases requireActive_cases id world with ⟨thrown, refused⟩ | ⟨session', found, -, -, checked⟩
  · have checked := PreparedIncident.outcome_requireActive world
    rw [if_pos ready.incident] at checked
    unfold requireActive at refused
    rw [outcome_bind_ok (find_present ready.found), reject, if_neg (not_not.mpr ready.active),
      outcome_bind_ok (outcome_ofExcept _ _), outcome_bind_ok checked] at refused
    cases refused
  · rw [checked, Option.some.inj (ready.found.symm.trans found)]

theorem exceededLimit_eq (clock : SessionClock) (timely : session.Timely clock) :
    session.exceededLimit clock =
      if session.config.maxToolCalls ≤ session.toolCalls then some "max_tool_calls exceeded"
      else none := by
  unfold exceededLimit
  rw [if_neg (not_lt_of_ge timely)]

/-! ## Tool calls -/

theorem limitTransition_within {clock : SessionClock} (within : session.exceededLimit clock = none) :
    (limitTransition id session clock).outcome world = (.ok none, world) := by
  unfold limitTransition
  rw [within]
  rfl

/-- What a session still counts is there after its backend was asked. -/
theorem ready_counted (ready : world.Ready id session) (action : ToolAction) {limit : Nat}
    {after : IncidentWorld}
    (asks : (world.withSession id fun session => session.counted action).Asks after (some id) limit) :
    after.Ready id (session.counted action) where
  found := by
    rw [asks.sessions]
    refine (List.getElem?_modify_eq _ _ _).trans ?_
    rw [ready.found]
    rfl
  active := ready.active
  incident := by
    rw [asks.incident]
    exact ready.incident

/-- A call below the limit is counted, whatever becomes of it. -/
theorem callTool_ready (ctx : IncidentContext) (ready : world.Ready id session)
    (action : ToolAction) (script : CallScript) (timely : session.Timely script.clock)
    (below : session.toolCalls < session.config.maxToolCalls) :
    ((IncidentRequest.sessionCallTool id action script).after ctx world).Ready id
      (session.counted action) := by
  have unlimited : session.exceededLimit script.clock = none := by
    rw [exceededLimit_eq script.clock timely, if_neg (Nat.not_le_of_lt below)]
  rw [IncidentRequest.after, IncidentRequest.perform, outcome_bind_reading fun _ _ => rfl, callTool]
  rw [outcome_bind_ok (requireActive_ready ready)]
  dsimp only
  rw [outcome_bind_ok (limitTransition_within unlimited)]
  dsimp only
  rw [modifySession, outcome_bind_ok (outcome_modify _ _)]
  set counted := world.withSession id fun session => session.counted action
  split
  · exact ready_counted ready action (.refl counted _ 1)
  · have ran := meets_runTool ctx id (session.counted action) action
      (session.elapsed script.clock) script counted
    change ((runTool ctx id (session.counted action) action (session.elapsed script.clock)
      script).outcome counted).2.Ready id (session.counted action)
    rcases ended : (runTool ctx id (session.counted action) action
      (session.elapsed script.clock) script).outcome counted with ⟨answer, after⟩
    cases answer with
    | error thrown => exact (ran.of_error (.refl counted _ _) ended).elim
    | ok transition =>
        obtain ⟨-, asks⟩ := ran.of_ok (.refl counted _ _) ended
        exact ready_counted ready action asks

/-- The requests of a list of tool calls. -/
def callRequests (id : Nat) (calls : List (ToolAction × CallScript)) : List IncidentRequest :=
  calls.map fun call => .sessionCallTool id call.1 call.2

/-- Calls up to the limit are all counted, and the session stays active. -/
theorem run_calls (ctx : IncidentContext) (calls : List (ToolAction × CallScript))
    (ready : world.Ready id session)
    (few : session.toolCalls + calls.length ≤ session.config.maxToolCalls)
    (timely : ∀ call ∈ calls, session.Timely call.2.clock) :
    ∃ after : DiagnosticSession, (world.run ctx (callRequests id calls)).Ready id after ∧
      (world.run ctx (callRequests id calls)).incident = world.incident ∧
      after.toolCalls = session.toolCalls + calls.length ∧
      after.config = session.config ∧ after.startedAt = session.startedAt := by
  induction calls generalizing world session with
  | nil => exact ⟨session, ready, rfl, rfl, rfl, rfl⟩
  | cons call calls ih =>
      rw [List.length_cons] at few
      have next := callTool_ready ctx ready call.1 call.2 (timely call (List.mem_cons_self ..))
        (by omega)
      obtain ⟨after, ended, incident, made, config, startedAt⟩ :=
        ih next (by simp only [counted]; omega)
          fun later mem => timely later (List.mem_cons_of_mem _ mem)
      refine ⟨after, ended, ?_, ?_, config, startedAt⟩
      · refine incident.trans ?_
        rw [IncidentRequest.after, IncidentRequest.perform, outcome_bind_reading fun _ _ => rfl]
        exact ((callTool_step ctx id call.1 call.2 world).sameIncident).incident
      · rw [made, List.length_cons]
        simp only [counted]
        omega

/-! ## Submissions -/

theorem evaluate_answers (ctx : IncidentContext) (diagnosis : DiagnosisSubmission)
    (accounting : PreparedIncident.Accounting) {script : PreparedIncident.EvaluateScript}
    {evaluation : Evaluation} (active : world.incident.state = .active)
    (answers : script.Answers world.incident evaluation) :
    ∃ after, (PreparedIncident.evaluate ctx diagnosis accounting script).outcome world =
      (.ok evaluation, after) := by
  have checked := PreparedIncident.outcome_requireActive world
  rw [if_pos active] at checked
  unfold PreparedIncident.evaluate
  rw [outcome_bind_ok checked, PreparedIncident.refreshLease, ask, answers.refresh,
    outcome_bind_ok ((outcome_bind_ok (outcome_modify _ _)).trans (outcome_ofExcept _ _))]
  obtain ⟨after, truth⟩ := world.incident.groundTruth_outcome script
    { world with calls := world.calls ++ [.refresh 0] }
  have given : ∃ value, (if world.incident.isHealthy then .ok (.obj []) else script.groundTruth :
      Except Thrown Json) = .ok value := by
    cases healthy : world.incident.isHealthy with
    | true => exact ⟨_, rfl⟩
    | false =>
        have ok := answers.groundTruth healthy
        cases answer : script.groundTruth with
        | ok value => exact ⟨value, rfl⟩
        | error thrown =>
            rw [answer] at ok
            cases ok
  obtain ⟨value, given⟩ := given
  rw [given] at truth
  rw [outcome_bind_ok truth, ask, outcome_bind_ok (outcome_modify _ _), outcome_ofExcept,
    answers.evaluation]
  exact ⟨_, rfl⟩

/-- A submission returns the evaluator's score. -/
def Scored (ctx : IncidentContext) (world : IncidentWorld) (id : Nat)
    (diagnosis : DiagnosisSubmission) (submission : Submission) (script : SubmitScript)
    (evaluation : Evaluation) : Prop :=
  ∃ transition, ((submit ctx id diagnosis submission script).outcome world).1 = .ok transition ∧
    transition.reward = some evaluation.score ∧ transition.terminationReason = some .submitted

theorem submit_below (ctx : IncidentContext) (ready : world.Ready id session)
    (diagnosis : DiagnosisSubmission) (submission : Submission) {script : SubmitScript}
    {evaluation : Evaluation} (timely : session.Timely script.clock)
    (answers : script.Answers world.incident evaluation)
    (below : session.toolCalls < session.config.maxToolCalls) :
    Scored ctx world id diagnosis submission script evaluation := by
  have unlimited : session.exceededLimit script.clock = none := by
    rw [exceededLimit_eq script.clock timely, if_neg (Nat.not_le_of_lt below)]
  unfold Scored submit
  rw [outcome_bind_ok (requireActive_ready ready)]
  dsimp only
  rw [outcome_bind_ok (limitTransition_within unlimited)]
  dsimp only
  set accounting : PreparedIncident.Accounting := { toolCalls := _, timeTakenSeconds := _, metadata := _ }
  obtain ⟨after, evaluated⟩ := evaluate_answers ctx diagnosis accounting ready.incident answers
  rw [outcome_bind_ok evaluated, modifySession, outcome_bind_ok (outcome_modify _ _)]
  exact ⟨_, rfl, rfl, rfl⟩

/-- With no call left, a submission ends the session as one that exceeded its limit. -/
theorem submit_exhausted (ctx : IncidentContext) (ready : world.Ready id session)
    (diagnosis : DiagnosisSubmission) (submission : Submission) {script : SubmitScript}
    (timely : session.Timely script.clock)
    (exhausted : session.config.maxToolCalls ≤ session.toolCalls) :
    ∃ transition, ((submit ctx id diagnosis submission script).outcome world).1 = .ok transition ∧
      transition.reward = some (.finite 0) ∧
      transition.terminationReason = some .limitExhausted := by
  have limited : session.exceededLimit script.clock = some "max_tool_calls exceeded" := by
    rw [exceededLimit_eq script.clock timely, if_pos exhausted]
  have refused : ∃ transition, (limitTransition id session script.clock).outcome world =
      (.ok (some transition),
        world.withSession id fun session => { session with state := .terminal }) ∧
      transition.reward = some (.finite 0) ∧
      transition.terminationReason = some .limitExhausted := by
    unfold limitTransition
    rw [limited]
    exact ⟨_, rfl, rfl, rfl⟩
  obtain ⟨transition, refused, reward, reason⟩ := refused
  unfold submit
  rw [outcome_bind_ok (requireActive_ready ready)]
  dsimp only
  rw [outcome_bind_ok refused]
  exact ⟨transition, rfl, reward, reason⟩

/-- After so many calls in time, as many as the limit allows at most, a submission in time is
scored just when there were fewer. -/
theorem submission_scored_iff (ctx : IncidentContext) (world : IncidentWorld) (id : Nat)
    (session : DiagnosticSession) (ready : world.Ready id session) (fresh : session.toolCalls = 0)
    (calls : List (ToolAction × CallScript))
    (few : calls.length ≤ session.config.maxToolCalls)
    (timely : ∀ call ∈ calls, session.Timely call.2.clock)
    (diagnosis : DiagnosisSubmission) (submission : Submission) (script : SubmitScript)
    (inTime : session.Timely script.clock) (evaluation : Evaluation)
    (answers : script.Answers world.incident evaluation) :
    Scored ctx (world.run ctx (callRequests id calls)) id diagnosis submission script evaluation ↔
      calls.length < session.config.maxToolCalls := by
  obtain ⟨after, ended, incident, made, config, startedAt⟩ :=
    run_calls ctx calls ready (by omega) timely
  have still : after.Timely script.clock := by
    unfold Timely elapsed
    rw [startedAt, config]
    exact inTime
  constructor
  · intro scored
    by_contra none
    obtain ⟨refused, ended', -, reason⟩ := submit_exhausted ctx ended diagnosis submission still
      (by rw [config, made]; omega)
    obtain ⟨transition, ended'', -, submitted⟩ := scored
    rw [ended'] at ended''
    rw [← Except.ok.inj ended'', reason] at submitted
    cases submitted
  · intro below
    exact submit_below ctx ended diagnosis submission still (incident ▸ answers)
      (by rw [config, made]; omega)

/-! ## A session of so many calls -/

theorem oneRuntime_pos : 1 ≤ 1 := Nat.le_refl 1

/-- A session that may make so many calls, on an active incident. -/
def briefSession (maxToolCalls : Nat) (positive : 1 ≤ maxToolCalls) : DiagnosticSession :=
  { config :=
      { maxToolCalls, maxToolCalls_pos := positive, maxActiveRuntimes_pos := oneRuntime_pos }
    startedAt := 0 }

def briefWorld (maxToolCalls : Nat) (positive : 1 ≤ maxToolCalls) : IncidentWorld :=
  { incident :=
      { digest := "digest", isHealthy := true, defaultSessionConfig := none, hasOnClose := false
        state := .active }
    sessions := [briefSession maxToolCalls positive] }

/-- A context that refuses no call and shortens no observation. -/
def plainContext : IncidentContext := ⟨fun _ => true, fun value _ => value, fun _ => ""⟩

/-- A call after one second that returns nothing. -/
def briefCall : ToolAction × CallScript :=
  (⟨"get_topology", []⟩, { result := .ok .null, clock := ⟨1, 0⟩ })

/-- The evaluator gives a full score after two seconds. -/
def fullScore : Evaluation := ⟨.finite 1, .bool true, .bool true, .bool true, .bool true, []⟩

def briefSubmission : SubmitScript := { evaluation := .ok fullScore, clock := ⟨2, 0⟩ }

theorem briefWorld_ready (maxToolCalls : Nat) (positive : 1 ≤ maxToolCalls) :
    (briefWorld maxToolCalls positive).Ready 0 (briefSession maxToolCalls positive) :=
  ⟨rfl, rfl, rfl⟩

theorem briefCall_timely (maxToolCalls : Nat) (positive : 1 ≤ maxToolCalls) :
    ∀ call ∈ [briefCall], (briefSession maxToolCalls positive).Timely call.2.clock := by
  intro call mem
  rw [List.mem_singleton.mp mem]
  change max 0 (max 0 ((1 : Rat) - 0) - 0) ≤ 300
  decide +kernel

theorem briefSubmission_timely (maxToolCalls : Nat) (positive : 1 ≤ maxToolCalls) :
    (briefSession maxToolCalls positive).Timely briefSubmission.clock := by
  change max 0 (max 0 ((2 : Rat) - 0) - 0) ≤ 300
  decide +kernel

theorem briefSubmission_answers (maxToolCalls : Nat) (positive : 1 ≤ maxToolCalls) :
    briefSubmission.Answers (briefWorld maxToolCalls positive).incident fullScore :=
  ⟨rfl, fun _ => rfl, rfl⟩

/-- One call of two, then the diagnosis. -/
theorem submission_scored_after_one :
    Scored plainContext
        ((briefWorld 2 (by decide)).run plainContext (callRequests 0 [briefCall])) 0
        { verdict := .faultDetected } {} briefSubmission fullScore ↔ 1 < 2 :=
  submission_scored_iff plainContext (briefWorld 2 (by decide)) 0 (briefSession 2 (by decide))
    (briefWorld_ready 2 (by decide)) rfl [briefCall] (by decide) (briefCall_timely 2 (by decide))
    { verdict := .faultDetected } {} briefSubmission (briefSubmission_timely 2 (by decide))
    fullScore (briefSubmission_answers 2 (by decide))

/-- The only call that was granted, then the diagnosis: it is refused. -/
theorem submission_refused_at_limit :
    (briefWorld 1 (by decide)).Ready 0 (briefSession 1 (by decide)) ∧
      [briefCall].length ≤ (briefSession 1 (by decide)).config.maxToolCalls ∧
      (∀ call ∈ [briefCall], (briefSession 1 (by decide)).Timely call.2.clock) ∧
      (briefSession 1 (by decide)).Timely briefSubmission.clock ∧
      briefSubmission.Answers (briefWorld 1 (by decide)).incident fullScore ∧
      ¬ Scored plainContext
        ((briefWorld 1 (by decide)).run plainContext (callRequests 0 [briefCall])) 0
        { verdict := .faultDetected } {} briefSubmission fullScore := by
  have timely := briefCall_timely 1 (by decide)
  have inTime := briefSubmission_timely 1 (by decide)
  refine ⟨briefWorld_ready 1 (by decide), by decide, timely, inTime,
    briefSubmission_answers 1 (by decide), ?_⟩
  intro scored
  have ready : ((briefWorld 1 (by decide)).run plainContext (callRequests 0 [briefCall])).Ready 0
      ((briefSession 1 (by decide)).counted briefCall.1) :=
    callTool_ready plainContext (briefWorld_ready 1 (by decide)) briefCall.1 briefCall.2
      (timely briefCall (List.mem_singleton_self _)) (by decide)
  have still : ((briefSession 1 (by decide)).counted briefCall.1).Timely briefSubmission.clock :=
    inTime
  obtain ⟨refused, ended, -, reason⟩ := submit_exhausted plainContext ready
    { verdict := .faultDetected } {} still (by decide)
  obtain ⟨transition, ended', -, submitted⟩ := scored
  rw [← Except.ok.inj (ended.symm.trans ended'), reason] at submitted
  cases submitted

end DiagnosticSession

end NetOpsBench
