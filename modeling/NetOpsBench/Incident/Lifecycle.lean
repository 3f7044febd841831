import Mathlib.Data.List.Count
import NetOpsBench.Incident.Engine
import NetOpsBench.Lib.Counting

/-!
# The life cycle of an incident

What a request does to an incident and its sessions (`IncidentRequest`), and from it what a
sequence of requests does: the backend is finished once, the states at the end are never left,
and a session has one reward and no more tool calls than its configuration grants
(`incident_lifecycle`).
-/

namespace NetOpsBench

open Fallible Program

/-! ## Requests -/

/-- A call on the incident or on one of its sessions, with what the surroundings answer. -/
inductive IncidentRequest : Type where
  | prepare (observation : Except Thrown (List (String × Json))) (script : CleanupScript)
  | openSession (config : Option SimulatorConfig) (refresh : Except Thrown Unit) (startedAt : Rat)
  | callTool (action : ToolAction) (script : PreparedIncident.ToolScript)
  | evaluate (diagnosis : DiagnosisSubmission) (accounting : PreparedIncident.Accounting)
      (script : PreparedIncident.EvaluateScript)
  | close (script : CleanupScript)
  | sessionCallTool (id : Nat) (action : ToolAction) (script : DiagnosticSession.CallScript)
  | submit (id : Nat) (diagnosis : DiagnosisSubmission)
      (submission : DiagnosticSession.Submission) (script : DiagnosticSession.SubmitScript)
  | terminateFailure (id : Nat) (domain : FailureDomain) (message : String)
      (reason : TerminationReason) (clock : SessionClock)

inductive IncidentResponse : Type where
  | prepared
  | opened (id : Nat)
  | result (value : Json)
  | evaluated (evaluation : Evaluation)
  | closed (status : CleanupStatus)
  | transition (transition : SessionTransition)

namespace IncidentRequest

/-- The session that a request is made on. -/
def session : IncidentRequest → Option Nat
  | .sessionCallTool id _ _ | .submit id _ _ _ | .terminateFailure id _ _ _ _ => some id
  | _ => none

def perform (ctx : IncidentContext) : IncidentRequest → IncidentProgram IncidentResponse
  | .prepare observation script => do
      PreparedIncident.prepare observation script
      pure .prepared
  | .openSession config refresh startedAt => do
      let id ← PreparedIncident.openSession config refresh startedAt
      pure (.opened id)
  | .callTool action script => do
      let value ← PreparedIncident.callTool ctx none action script
      pure (.result value)
  | .evaluate diagnosis accounting script => do
      let evaluation ← PreparedIncident.evaluate ctx diagnosis accounting script
      pure (.evaluated evaluation)
  | .close script => do
      let status ← PreparedIncident.close script
      pure (.closed status)
  | .sessionCallTool id action script => do
      let transition ← DiagnosticSession.callTool ctx id action script
      pure (.transition transition)
  | .submit id diagnosis submission script => do
      let transition ← DiagnosticSession.submit ctx id diagnosis submission script
      pure (.transition transition)
  | .terminateFailure id domain message reason clock => do
      let transition ← DiagnosticSession.terminateFailure id domain message reason clock
      pure (.transition transition)

/-- The world after a request, however it ends. -/
def after (ctx : IncidentContext) (request : IncidentRequest) (world : IncidentWorld) :
    IncidentWorld := ((request.perform ctx).outcome world).2

end IncidentRequest

/-- A request and how it ended. -/
structure IncidentEvent : Type where
  request : IncidentRequest
  outcome : Except Thrown IncidentResponse

/-- The reward of the transition that an event yields. -/
def IncidentEvent.reward (event : IncidentEvent) : Option Binary64 :=
  match event.outcome with
  | .ok (.transition transition) => transition.reward
  | _ => none

/-- The event yields a transition of a session with a reward. -/
def IncidentEvent.rewards (id : Nat) (event : IncidentEvent) : Bool :=
  event.request.session = some id ∧ event.reward.isSome

namespace IncidentWorld

/-- A new incident. -/
def start (digest : String) (isHealthy : Bool) (config : Option SimulatorConfig)
    (hasOnClose : Bool) : IncidentWorld :=
  { incident := { digest, isHealthy, defaultSessionConfig := config, hasOnClose } }

/-- The world after so many requests. -/
def run (ctx : IncidentContext) (world : IncidentWorld) (requests : List IncidentRequest) :
    IncidentWorld :=
  requests.foldl (fun world request => request.after ctx world) world

/-- The events of so many requests. -/
def events (ctx : IncidentContext) : IncidentWorld → List IncidentRequest → List IncidentEvent
  | _, [] => []
  | world, request :: requests =>
      ⟨request, ((request.perform ctx).outcome world).1⟩ ::
        events ctx (request.after ctx world) requests

end IncidentWorld

/-! ## What is asked -/

namespace ExternalCall

def isFinish : ExternalCall → Bool
  | .finish _ => true
  | _ => false

def isOnClose : ExternalCall → Bool
  | .onClose => true
  | _ => false

/-- A tool call of a session. -/
def isToolCallOf (id : Nat) : ExternalCall → Bool
  | .callTool session _ => session = some id
  | _ => false

end ExternalCall

namespace IncidentWorld

variable (world : IncidentWorld)

/-- How often `backend.finish` has run. -/
def finishes : Nat := world.calls.countP ExternalCall.isFinish

/-- How often `on_close` has run. -/
def notifications : Nat := world.calls.countP ExternalCall.isOnClose

/-- How many backend tool calls a session has made. -/
def toolCallsOf (id : Nat) : Nat := world.calls.countP (ExternalCall.isToolCallOf id)

/-- Only the backend and the evaluator were asked something in between, and only one session
made tool calls, no more than a number. -/
structure Asks (before after : IncidentWorld) (session : Option Nat) (limit : Nat) : Prop where
  incident : after.incident = before.incident
  sessions : after.sessions = before.sessions
  finishes : after.finishes = before.finishes
  notifications : after.notifications = before.notifications
  others : ∀ id, session ≠ some id → after.toolCallsOf id = before.toolCallsOf id
  toolCalls : ∀ id, after.toolCallsOf id ≤ before.toolCallsOf id + limit

theorem Asks.refl (session : Option Nat) (limit : Nat) : world.Asks world session limit :=
  ⟨rfl, rfl, rfl, rfl, fun _ _ => rfl, fun _ => Nat.le_add_right _ _⟩

theorem Asks.more {before after : IncidentWorld} {session : Option Nat}
    (asks : before.Asks after session 0) : before.Asks after session 1 :=
  { asks with toolCalls := fun id => (asks.toolCalls id).trans (Nat.le_succ _) }

end IncidentWorld

section Ask

variable {before : IncidentWorld} {session : Option Nat} {limit : Nat}

/-- A question that is no tool call, no cleanup and no notification. -/
theorem keeps_ask {call : ExternalCall} (plain : call.isFinish = false ∧ call.isOnClose = false ∧
    ∀ id, call.isToolCallOf id = false) :
    Keeps (ask call) fun after => before.Asks after session limit := by
  refine Keeps.modify ?_
  intro after asks
  refine ⟨asks.incident, asks.sessions, ?_, ?_, ?_, ?_⟩
  · rw [← asks.finishes]
    simp [IncidentWorld.finishes, plain.1]
  · rw [← asks.notifications]
    simp [IncidentWorld.notifications, plain.2.1]
  · intro id other
    rw [← asks.others id other]
    simp [IncidentWorld.toolCallsOf, plain.2.2 id]
  · intro id
    refine le_trans (le_of_eq ?_) (asks.toolCalls id)
    simp [IncidentWorld.toolCallsOf, plain.2.2 id]

/-- A tool call of a session is one more of its tool calls. -/
theorem meets_ask_callTool (action : ToolAction) {R : Thrown → IncidentWorld → Prop} :
    Meets (ask (.callTool session action)) (fun after => before.Asks after session 0)
      (fun _ after => before.Asks after session 1) R := by
  refine Meets.modify ?_
  intro after asks
  refine ⟨asks.incident, asks.sessions, ?_, ?_, ?_, ?_⟩
  · rw [← asks.finishes]
    simp [IncidentWorld.finishes, ExternalCall.isFinish]
  · rw [← asks.notifications]
    simp [IncidentWorld.notifications, ExternalCall.isOnClose]
  · intro id other
    rw [← asks.others id other]
    simp [IncidentWorld.toolCallsOf, ExternalCall.isToolCallOf, other]
  · intro id
    have before := asks.toolCalls id
    simp only [IncidentWorld.toolCallsOf, List.countP_append, List.countP_cons, List.countP_nil]
      at before ⊢
    split <;> omega

end Ask

namespace PreparedIncident

variable {before : IncidentWorld} {session : Option Nat} {limit : Nat}

theorem outcome_requireActive (world : IncidentWorld) :
    requireActive.outcome world =
      if world.incident.state = .active then (.ok world.incident, world)
      else (.error (.runtimeError ("Incident is not active: " ++ world.incident.state.value)),
        world) := by
  unfold requireActive
  rw [outcome_bind_ok (outcome_get world)]
  split
  · rename_i active
    rw [reject, if_neg (not_not.mpr active)]
    rfl
  · rename_i inactive
    rw [reject, if_pos inactive]
    rfl

theorem keeps_requireActive {P : IncidentWorld → Prop} : Keeps requireActive P := by
  refine Keeps.get_bind ?_
  intro world _
  exact (Keeps.ofExcept _).bind fun _ => Keeps.pure _

theorem keeps_refreshLease (minSeconds : Rat) (answer : Except Thrown Unit) :
    Keeps (refreshLease minSeconds answer) fun after => before.Asks after session limit :=
  (keeps_ask ⟨rfl, rfl, fun _ => rfl⟩).bind fun _ => Keeps.ofExcept _

/-- A tool call asks the backend for one at most. -/
theorem meets_callTool (ctx : IncidentContext) (action : ToolAction) (script : ToolScript) :
    Meets (callTool ctx session action script) (fun after => before.Asks after session 0)
      (fun _ after => before.Asks after session 1) fun _ after => before.Asks after session 1 := by
  have first : ∀ {α : Type} {program : IncidentProgram α},
      Keeps program (fun after => before.Asks after session 0) →
      Meets program (fun after => before.Asks after session 0)
        (fun _ after => before.Asks after session 0) fun _ after => before.Asks after session 1 :=
    fun keeps => keeps.mono (fun _ => id) (fun _ _ => id) fun _ _ => .more
  unfold callTool
  refine (first keeps_requireActive).bind fun _ => ?_
  refine (first (Keeps.ofExcept _)).bind fun _ => ?_
  refine (first (keeps_refreshLease _ _)).bind fun _ => ?_
  refine (meets_ask_callTool action).bind fun _ => ?_
  refine Keeps.bind (Keeps.ofExcept _) fun result => ?_
  exact (keeps_refreshLease _ _).bind fun _ => Keeps.pure _

theorem keeps_evaluate (ctx : IncidentContext) (diagnosis : DiagnosisSubmission)
    (accounting : Accounting) (script : EvaluateScript) :
    Keeps (evaluate ctx diagnosis accounting script) fun after =>
      before.Asks after session limit := by
  unfold evaluate
  refine keeps_requireActive.bind fun incident => ?_
  refine (keeps_refreshLease _ _).bind fun _ => ?_
  refine Keeps.bind ?_ fun groundTruth => ?_
  · unfold groundTruth
    split
    · exact Keeps.pure _
    · exact (keeps_ask ⟨rfl, rfl, fun _ => rfl⟩).bind fun _ => Keeps.ofExcept _
  · exact (keeps_ask ⟨rfl, rfl, fun _ => rfl⟩).bind fun _ => Keeps.ofExcept _

end PreparedIncident

/-! ## Cleanup -/

namespace IncidentWorld

/-- The cleanup has not run. -/
structure Open (world : IncidentWorld) : Prop where
  state : world.incident.state = .created ∨ world.incident.state = .active
  status : world.incident.cleanupStatus = .notStarted
  notified : world.incident.closeNotified = false
  finishes : world.finishes = 0
  notifications : world.notifications = 0

/-- The cleanup has run, and so has the callback, if there is one. -/
structure Settled (world : IncidentWorld) : Prop where
  state : world.incident.state = .closed ∨ world.incident.state = .broken
  status : world.incident.cleanupStatus ≠ .notStarted
  finishes : world.finishes = 1
  notifications : world.notifications = if world.incident.hasOnClose then 1 else 0

/-- The sessions and their tool calls are untouched, and so is the callback. -/
structure SameSessions (before after : IncidentWorld) : Prop where
  hasOnClose : after.incident.hasOnClose = before.incident.hasOnClose
  sessions : after.sessions = before.sessions
  toolCalls : ∀ id, after.toolCallsOf id = before.toolCallsOf id

end IncidentWorld

namespace PreparedIncident

/-- The incident after `backend.finish`. -/
def finished (broken : Bool) (incident : PreparedIncident) : Except Thrown Unit → PreparedIncident
  | .ok _ =>
      { incident with
        cleanupStatus := .succeeded
        state := if broken then .broken else .closed }
  | .error thrown =>
      { incident with
        cleanupStatus := .failed
        cleanupFailure := some (thrown.failure .cleanup "cleanup")
        state := .broken }

/-- The world after `_notify_close`. -/
def notified (world : IncidentWorld) : IncidentWorld :=
  if ¬ world.incident.closeNotified ∧ world.incident.hasOnClose then
    { world with
      incident := { world.incident with closeNotified := true }
      calls := world.calls ++ [.onClose] }
  else world

theorem notifyClose_world (script : CleanupScript) (world : IncidentWorld) :
    ((notifyClose script).outcome world).2 = notified world := by
  unfold notifyClose notified
  rw [outcome_bind_ok (outcome_get world)]
  split
  · rw [modifyIncident, outcome_bind_ok (outcome_modify _ _), ask,
      outcome_bind_ok (outcome_modify _ _), outcome_ofExcept]
  · rfl

theorem finishBackend_world (broken : Bool) (script : CleanupScript) (world : IncidentWorld) :
    ((finishBackend broken script).outcome world).2 = notified
      { world with
        incident := finished broken world.incident script.finish
        calls := world.calls ++ [.finish broken] } := by
  unfold finishBackend
  rw [ask, outcome_bind_ok (outcome_modify _ _)]
  split
  · rename_i thrown failed
    rw [modifyIncident, outcome_bind_ok (outcome_modify _ _), notifyClose_world, failed]
    rfl
  · rename_i done
    rw [modifyIncident, outcome_bind_ok (outcome_modify _ _), notifyClose_world, done]
    rfl

/-- However `finish` ends, the incident is at its end. -/
theorem finished_spec (broken : Bool) (incident : PreparedIncident) (finish : Except Thrown Unit) :
    ((finished broken incident finish).state = .closed ∨
        (finished broken incident finish).state = .broken) ∧
      (broken = true → (finished broken incident finish).state = .broken) ∧
      (finished broken incident finish).cleanupStatus ≠ .notStarted ∧
      (finished broken incident finish).closeNotified = incident.closeNotified ∧
      (finished broken incident finish).hasOnClose = incident.hasOnClose := by
  cases finish with
  | error thrown => exact ⟨.inr rfl, fun _ => rfl, nofun, rfl, rfl⟩
  | ok _ =>
      cases broken with
      | true => exact ⟨.inr rfl, fun _ => rfl, nofun, rfl, rfl⟩
      | false => exact ⟨.inl rfl, nofun, nofun, rfl, rfl⟩

theorem notified_spec {world : IncidentWorld} (fresh : world.incident.closeNotified = false) :
    (notified world).incident.state = world.incident.state ∧
      (notified world).incident.cleanupStatus = world.incident.cleanupStatus ∧
      (notified world).incident.hasOnClose = world.incident.hasOnClose ∧
      (notified world).sessions = world.sessions ∧
      (notified world).calls =
        world.calls ++ if world.incident.hasOnClose then [.onClose] else [] := by
  unfold notified
  rw [fresh]
  cases callback : world.incident.hasOnClose with
  | true => exact ⟨rfl, rfl, callback, rfl, rfl⟩
  | false => exact ⟨rfl, rfl, callback, rfl, (List.append_nil _).symm⟩

/-- The cleanup of an incident that had none. -/
theorem finishBackend_settled {world : IncidentWorld} (broken : Bool) (script : CleanupScript)
    (fresh : world.incident.closeNotified = false) (finishes : world.finishes = 0)
    (notifications : world.notifications = 0) :
    ((finishBackend broken script).outcome world).2.Settled ∧
      world.SameSessions ((finishBackend broken script).outcome world).2 := by
  rw [finishBackend_world]
  obtain ⟨state, -, status, sameNotified, sameCallback⟩ :=
    finished_spec broken world.incident script.finish
  obtain ⟨stateEq, statusEq, callbackEq, sessionsEq, callsEq⟩ := @notified_spec
    { world with
      incident := finished broken world.incident script.finish
      calls := world.calls ++ [.finish broken] } (sameNotified.trans fresh)
  dsimp only at callsEq callbackEq
  rw [sameCallback] at callsEq callbackEq
  refine ⟨⟨stateEq ▸ state, statusEq ▸ status, ?_, ?_⟩, ⟨callbackEq, sessionsEq, ?_⟩⟩
  · unfold IncidentWorld.finishes at finishes ⊢
    rw [callsEq, List.countP_append, List.countP_append, finishes]
    cases world.incident.hasOnClose <;> rfl
  · unfold IncidentWorld.notifications at notifications ⊢
    rw [callsEq, callbackEq, List.countP_append, List.countP_append, notifications]
    cases world.incident.hasOnClose <;> rfl
  · intro id
    unfold IncidentWorld.toolCallsOf
    rw [callsEq, List.countP_append, List.countP_append]
    cases world.incident.hasOnClose <;> rfl

theorem prepare_rejected (observation : Except Thrown (List (String × Json)))
    (script : CleanupScript) {world : IncidentWorld} (late : world.incident.state ≠ .created) :
    ((prepare observation script).outcome world).2 = world := by
  unfold prepare
  rw [outcome_bind_ok (outcome_get world), reject, if_pos late,
    outcome_bind_error (outcome_ofExcept _ _)]

theorem prepare_created {observation : Except Thrown (List (String × Json))}
    {script : CleanupScript} {world : IncidentWorld} (created : world.incident.state = .created) :
    ((prepare observation script).outcome world).2 =
      match observation with
      | .ok observation =>
          { world with
            incident := { world.incident with observation, state := .active }
            calls := world.calls ++ [.prepare] }
      | .error thrown => ((finishBackend true script).outcome
          { world with
            incident :=
              { world.incident with
                failure := some (thrown.failure .infrastructure "prepare")
                state := .broken }
            calls := world.calls ++ [.prepare] }).2 := by
  unfold prepare
  rw [outcome_bind_ok (outcome_get world), reject, if_neg (not_not.mpr created),
    outcome_bind_ok (outcome_ofExcept _ _), modifyIncident, outcome_bind_ok (outcome_modify _ _),
    ask, outcome_bind_ok (outcome_modify _ _)]
  cases observation with
  | ok observation => rfl
  | error thrown =>
      dsimp only
      rw [modifyIncident, outcome_bind_ok (outcome_modify _ _)]

theorem close_settled (script : CleanupScript) {world : IncidentWorld} (settled : world.Settled) :
    ((close script).outcome world).2 = world := by
  unfold close
  rw [outcome_bind_ok (outcome_get world), if_pos (.inr settled.status), outcome_pure]

/-- Closing an open incident is its cleanup. -/
theorem close_open (script : CleanupScript) {world : IncidentWorld} (fresh : world.Open) :
    ((close script).outcome world).2 = ((finishBackend false script).outcome
      { world with incident := { world.incident with state := .closing } }).2 := by
  have unclosed : world.incident.state ≠ .closed := by
    rcases fresh.state with created | active
    · rw [created]
      exact nofun
    · rw [active]
      exact nofun
  have unbroken : decide (world.incident.state = .broken) = false := by
    rcases fresh.state with created | active
    · rw [created]
      rfl
    · rw [active]
      rfl
  have skip : ¬ (world.incident.state = .closed ∨ world.incident.cleanupStatus ≠ .notStarted) := by
    intro late
    rcases late with closed | started
    · exact unclosed closed
    · exact started fresh.status
  unfold close
  rw [outcome_bind_ok (outcome_get world), if_neg skip, unbroken]
  dsimp only
  rw [modifyIncident, outcome_bind_ok (outcome_modify _ _),
    outcome_bind_reading fun _ _ => rfl]
  rfl

end PreparedIncident

/-! ## The incident over a request -/

namespace IncidentWorld

/-- The incident and what was asked for its cleanup are as before. -/
structure SameIncident (before after : IncidentWorld) : Prop where
  incident : after.incident = before.incident
  finishes : after.finishes = before.finishes
  notifications : after.notifications = before.notifications

theorem Asks.sameIncident {before after : IncidentWorld} {session : Option Nat} {limit : Nat}
    (asks : before.Asks after session limit) : before.SameIncident after :=
  ⟨asks.incident, asks.finishes, asks.notifications⟩

/-- The only change of an incident in a request: it is prepared or closed. -/
inductive IncidentStep (before after : IncidentWorld) : Prop where
  | same (same : before.SameIncident after)
  | prepared (fresh : before.Open) (opened : after.Open)
      (callback : after.incident.hasOnClose = before.incident.hasOnClose)
  | settled (fresh : before.Open) (settled : after.Settled)
      (callback : after.incident.hasOnClose = before.incident.hasOnClose)

variable {world : IncidentWorld}

theorem prepare_step (observation : Except Thrown (List (String × Json)))
    (script : CleanupScript) (sound : world.Open ∨ world.Settled) :
    world.IncidentStep ((PreparedIncident.prepare observation script).outcome world).2 ∧
      world.SameSessions ((PreparedIncident.prepare observation script).outcome world).2 ∧
      (world.incident.state = .created → observation.isOk = false →
        ((PreparedIncident.prepare observation script).outcome world).2.Settled) := by
  by_cases created : world.incident.state = .created
  · have fresh : world.Open := by
      rcases sound with fresh | settled
      · exact fresh
      · rcases settled.state with closed | broken
        · rw [closed] at created
          cases created
        · rw [broken] at created
          cases created
    have finishes : ({ world with calls := world.calls ++ [.prepare] } : IncidentWorld).finishes =
        0 := by
      rw [← fresh.finishes]
      simp [IncidentWorld.finishes, ExternalCall.isFinish]
    have notifications :
        ({ world with calls := world.calls ++ [.prepare] } : IncidentWorld).notifications = 0 := by
      rw [← fresh.notifications]
      simp [IncidentWorld.notifications, ExternalCall.isOnClose]
    have toolCalls : ∀ id,
        ({ world with calls := world.calls ++ [.prepare] } : IncidentWorld).toolCallsOf id =
          world.toolCallsOf id := by
      intro id
      simp [toolCallsOf, ExternalCall.isToolCallOf]
    rw [PreparedIncident.prepare_created created]
    cases observation with
    | ok observation =>
        exact ⟨.prepared fresh ⟨.inr rfl, fresh.status, fresh.notified, finishes, notifications⟩
          rfl, ⟨rfl, rfl, toolCalls⟩, fun _ failed => by cases failed⟩
    | error thrown =>
        dsimp only
        obtain ⟨settled, sessions⟩ := @PreparedIncident.finishBackend_settled
          { world with
            incident :=
              { world.incident with
                failure := some (thrown.failure .infrastructure "prepare")
                state := .broken }
            calls := world.calls ++ [.prepare] } true script fresh.notified finishes notifications
        exact ⟨.settled fresh settled sessions.hasOnClose,
          ⟨sessions.hasOnClose, sessions.sessions,
            fun id => (sessions.toolCalls id).trans (toolCalls id)⟩, fun _ _ => settled⟩
  · rw [PreparedIncident.prepare_rejected observation script created]
    exact ⟨.same ⟨rfl, rfl, rfl⟩, ⟨rfl, rfl, fun _ => rfl⟩, fun now => absurd now created⟩

theorem close_step (script : CleanupScript) (sound : world.Open ∨ world.Settled) :
    world.IncidentStep ((PreparedIncident.close script).outcome world).2 ∧
      world.SameSessions ((PreparedIncident.close script).outcome world).2 ∧
      ((PreparedIncident.close script).outcome world).2.Settled := by
  rcases sound with fresh | settled
  · rw [PreparedIncident.close_open script fresh]
    obtain ⟨settled, sessions⟩ := @PreparedIncident.finishBackend_settled
      { world with incident := { world.incident with state := .closing } } false script
      fresh.notified fresh.finishes fresh.notifications
    exact ⟨.settled fresh settled sessions.hasOnClose,
      ⟨sessions.hasOnClose, sessions.sessions, sessions.toolCalls⟩, settled⟩
  · rw [PreparedIncident.close_settled script settled]
    exact ⟨.same ⟨rfl, rfl, rfl⟩, ⟨rfl, rfl, fun _ => rfl⟩, settled⟩

end IncidentWorld

/-! ## The sessions over a request -/

/-- The world with one session changed. -/
def IncidentWorld.withSession (world : IncidentWorld) (id : Nat)
    (f : DiagnosticSession → DiagnosticSession) : IncidentWorld :=
  { world with sessions := world.sessions.modify id f }

/-- A change that ends a session, and touches neither its counters nor its configuration. -/
structure Ends (f : DiagnosticSession → DiagnosticSession) : Prop where
  state : ∀ session, (f session).state = .terminal
  config : ∀ session, (f session).config = session.config
  toolCalls : ∀ session, (f session).toolCalls = session.toolCalls

/-- How an operation on a session ends: it raises, and no session has changed; or it returns a
transition of a session that was active. Then the session is over, or the operation was a tool
call within the limit, which has no reward. -/
inductive SessionStep (world : IncidentWorld) (id : Nat) :
    Except Thrown SessionTransition × IncidentWorld → Prop
  | raised {thrown : Thrown} {after : IncidentWorld} (asks : world.Asks after none 0) :
      SessionStep world id (.error thrown, after)
  | ended {session : DiagnosticSession} {transition : SessionTransition} {middle : IncidentWorld}
      {f : DiagnosticSession → DiagnosticSession} (found : world.sessions[id]? = some session)
      (asks : world.Asks middle none 0) (ends : Ends f) :
      SessionStep world id (.ok transition, middle.withSession id f)
  | called {session : DiagnosticSession} {transition : SessionTransition} {after : IncidentWorld}
      {action : ToolAction} (found : world.sessions[id]? = some session)
      (within : session.toolCalls < session.config.maxToolCalls)
      (asks : (world.withSession id fun session => session.counted action).Asks after (some id) 1)
      (noReward : transition.reward = none) : SessionStep world id (.ok transition, after)

namespace DiagnosticSession

theorem find_absent {id : Nat} {world : IncidentWorld} (absent : world.sessions[id]? = none) :
    (find id).outcome world = (.error ⟨"NameError", "no such session"⟩, world) := by
  unfold find
  rw [outcome_bind_ok (outcome_get world), absent]
  rfl

theorem find_present {id : Nat} {world : IncidentWorld} {session : DiagnosticSession}
    (found : world.sessions[id]? = some session) :
    (find id).outcome world = (.ok session, world) := by
  unfold find
  rw [outcome_bind_ok (outcome_get world), found]
  rfl

/-- The check of a session: it raises, or the session and its incident are active. -/
theorem requireActive_cases (id : Nat) (world : IncidentWorld) :
    (∃ thrown, (requireActive id).outcome world = (.error thrown, world)) ∨
      ∃ session, world.sessions[id]? = some session ∧ session.state = .active ∧
        world.incident.state = .active ∧
        (requireActive id).outcome world = (.ok session, world) := by
  unfold requireActive
  rcases found : world.sessions[id]? with _ | session
  · exact .inl ⟨_, outcome_bind_error (find_absent found)⟩
  · rw [outcome_bind_ok (find_present found), reject]
    by_cases active : session.state = .active
    · rw [if_neg (not_not.mpr active), outcome_bind_ok (outcome_ofExcept _ _)]
      have checked := PreparedIncident.outcome_requireActive world
      split at checked
      · rename_i incidentActive
        rw [outcome_bind_ok checked]
        exact .inr ⟨session, rfl, active, incidentActive, rfl⟩
      · rw [outcome_bind_error checked]
        exact .inl ⟨_, rfl⟩
    · rw [if_pos active, outcome_bind_error (outcome_ofExcept _ _)]
      exact .inl ⟨_, rfl⟩

theorem requireActive_terminal {id : Nat} {world : IncidentWorld} {session : DiagnosticSession}
    (found : world.sessions[id]? = some session) (terminal : session.state = .terminal) :
    (requireActive id).outcome world =
      (.error (.runtimeError "Diagnostic session is not active: terminal"), world) := by
  unfold requireActive
  rw [outcome_bind_ok (find_present found), reject, terminal, if_pos nofun,
    outcome_bind_error (outcome_ofExcept _ _)]
  rfl

theorem limitTransition_cases (id : Nat) (session : DiagnosticSession) (clock : SessionClock)
    (world : IncidentWorld) :
    (session.exceededLimit clock = none ∧
        (limitTransition id session clock).outcome world = (.ok none, world)) ∨
      ∃ transition, (limitTransition id session clock).outcome world = (.ok (some transition),
        world.withSession id fun session => { session with state := .terminal }) := by
  unfold limitTransition
  split
  · rename_i none
    exact .inl ⟨none, rfl⟩
  · rw [modifySession, outcome_bind_ok (outcome_modify _ _)]
    exact .inr ⟨_, rfl⟩

theorem toolCalls_lt_of_within {session : DiagnosticSession} {clock : SessionClock}
    (within : session.exceededLimit clock = none) :
    session.toolCalls < session.config.maxToolCalls := by
  unfold exceededLimit at within
  split at within
  · cases within
  · split at within
    · cases within
    · rename_i less
      exact Nat.lt_of_not_le less

theorem ends_state : Ends fun session => { session with state := .terminal } :=
  ⟨fun _ => rfl, fun _ => rfl, fun _ => rfl⟩

theorem terminateFailure_step (id : Nat) (domain : FailureDomain) (message : String)
    (reason : TerminationReason) (clock : SessionClock) (world : IncidentWorld) :
    SessionStep world id ((terminateFailure id domain message reason clock).outcome world) := by
  unfold terminateFailure
  rcases requireActive_cases id world with ⟨thrown, refused⟩ | ⟨session, found, -, -, checked⟩
  · rw [outcome_bind_error refused]
    exact .raised (.refl world _ _)
  · rw [outcome_bind_ok checked, modifySession, outcome_bind_ok (outcome_modify _ _)]
    exact .ended found (.refl world _ _) ends_state

theorem submit_step (ctx : IncidentContext) (id : Nat) (diagnosis : DiagnosisSubmission)
    (submission : Submission) (script : SubmitScript) (world : IncidentWorld) :
    SessionStep world id ((submit ctx id diagnosis submission script).outcome world) := by
  unfold submit
  rcases requireActive_cases id world with ⟨thrown, refused⟩ | ⟨session, found, -, -, checked⟩
  · rw [outcome_bind_error refused]
    exact .raised (.refl world _ _)
  · rw [outcome_bind_ok checked]
    dsimp only
    rcases limitTransition_cases id session script.clock world with
      ⟨-, within⟩ | ⟨transition, exceeded⟩
    · rw [outcome_bind_ok within]
      dsimp only
      set evaluation := PreparedIncident.evaluate ctx diagnosis _ script.toEvaluateScript
      have asks : Keeps evaluation fun after => world.Asks after none 0 :=
        PreparedIncident.keeps_evaluate ctx diagnosis _ script.toEvaluateScript
      have after := asks.outcome (.refl world none 0)
      rcases ended : evaluation.outcome world with ⟨answer, middle⟩
      rw [ended] at after
      cases answer with
      | error thrown =>
          rw [outcome_bind_error ended]
          exact .raised after
      | ok evaluation =>
          rw [outcome_bind_ok ended, modifySession, outcome_bind_ok (outcome_modify _ _)]
          exact .ended found after ⟨fun _ => rfl, fun _ => rfl, fun _ => rfl⟩
    · rw [outcome_bind_ok exceeded]
      exact .ended found (.refl world _ _) ends_state

/-- Whatever a query does, it yields a transition without a reward. -/
theorem meets_runTool (ctx : IncidentContext) (id : Nat) (session : DiagnosticSession)
    (action : ToolAction) (elapsed : Rat) (script : CallScript) (before : IncidentWorld) :
    Meets (runTool ctx id session action elapsed script)
      (fun after => before.Asks after (some id) 0)
      (fun transition after => transition.reward = none ∧ before.Asks after (some id) 1)
      fun _ _ => False := by
  unfold runTool
  refine Meets.tryCatch (R := fun _ after => before.Asks after (some id) 1) ?_ ?_
  · refine Meets.bind (Q := fun _ after => before.Asks after (some id) 0) ?_ fun _ => ?_
    · exact Meets.ofExcept (fun _ _ _ asks => asks) fun _ _ _ asks => asks.more
    · refine (PreparedIncident.meets_callTool ctx action script.toToolScript).bind fun result => ?_
      exact Meets.pure fun _ asks => ⟨rfl, asks⟩
  · intro thrown
    exact Meets.pure fun _ asks => ⟨rfl, asks⟩

theorem callTool_step (ctx : IncidentContext) (id : Nat) (action : ToolAction)
    (script : CallScript) (world : IncidentWorld) :
    SessionStep world id ((callTool ctx id action script).outcome world) := by
  unfold callTool
  rcases requireActive_cases id world with ⟨thrown, refused⟩ | ⟨session, found, -, -, checked⟩
  · rw [outcome_bind_error refused]
    exact .raised (.refl world _ _)
  · rw [outcome_bind_ok checked]
    dsimp only
    rcases limitTransition_cases id session script.clock world with
      ⟨unlimited, within⟩ | ⟨transition, exceeded⟩
    · rw [outcome_bind_ok within]
      dsimp only
      rw [modifySession, outcome_bind_ok (outcome_modify _ _)]
      have below := toolCalls_lt_of_within unlimited
      set counted := world.withSession id fun session => session.counted action
      split
      · exact .called found below (.refl counted _ _) rfl
      · rcases ended : (runTool ctx id (session.counted action) action
          (session.elapsed script.clock) script).outcome counted with ⟨answer, after⟩
        have ran := meets_runTool ctx id (session.counted action) action
          (session.elapsed script.clock) script counted
        change SessionStep world id ((runTool ctx id (session.counted action) action
          (session.elapsed script.clock) script).outcome counted)
        rw [ended]
        cases answer with
        | error thrown => exact (ran.of_error (.refl counted _ _) ended).elim
        | ok transition =>
            obtain ⟨noReward, asks⟩ := ran.of_ok (.refl counted _ _) ended
            exact .called found below asks noReward
    · rw [outcome_bind_ok exceeded]
      exact .ended found (.refl world _ _) ends_state

end DiagnosticSession

namespace PreparedIncident

/-- A new session is added to the others, or none is. -/
theorem openSession_cases (config : Option SimulatorConfig) (refresh : Except Thrown Unit)
    (startedAt : Rat) (world : IncidentWorld) :
    ∃ middle, world.Asks middle none 0 ∧
      (((openSession config refresh startedAt).outcome world).2 = middle ∨
        ∃ resolved, ((openSession config refresh startedAt).outcome world).2 =
          { middle with
            sessions := middle.sessions ++ [{ config := resolved, startedAt }] }) := by
  unfold openSession
  have checked := outcome_requireActive world
  split at checked
  · rw [outcome_bind_ok checked]
    split
    · exact ⟨world, .refl world _ _, .inl rfl⟩
    · rename_i resolved _
      have asks : Keeps (refreshLease resolved.maxAgentSeconds refresh) fun after =>
          world.Asks after none 0 := keeps_refreshLease _ _
      have after := asks.outcome (.refl world none 0)
      rcases ended : (refreshLease resolved.maxAgentSeconds refresh).outcome world with
        ⟨answer, middle⟩
      rw [ended] at after
      refine ⟨middle, after, ?_⟩
      cases answer with
      | error thrown =>
          rw [outcome_bind_error ended]
          exact .inl rfl
      | ok _ =>
          rw [outcome_bind_ok ended, outcome_bind_ok (outcome_get middle),
            outcome_bind_ok (outcome_modify _ _)]
          exact .inr ⟨resolved, rfl⟩
  · rw [outcome_bind_error checked]
    exact ⟨world, .refl world _ _, .inl rfl⟩

end PreparedIncident

namespace IncidentRequest

variable (ctx : IncidentContext) {id : Nat} {world : IncidentWorld}

/-- A request on a session is a step of the session. -/
theorem perform_session {request : IncidentRequest} (on : request.session = some id)
    (world : IncidentWorld) :
    ∃ out, SessionStep world id out ∧
      (request.perform ctx).outcome world = (out.1.map .transition, out.2) := by
  cases request with
  | sessionCallTool id' action script =>
      cases on
      exact ⟨_, DiagnosticSession.callTool_step ctx id action script world,
        outcome_bind_pure _ _ world⟩
  | submit id' diagnosis submission script =>
      cases on
      exact ⟨_, DiagnosticSession.submit_step ctx id diagnosis submission script world,
        outcome_bind_pure _ _ world⟩
  | terminateFailure id' domain message reason clock =>
      cases on
      exact ⟨_, DiagnosticSession.terminateFailure_step id domain message reason clock world,
        outcome_bind_pure _ _ world⟩
  | prepare _ _ => cases on
  | openSession _ _ _ => cases on
  | callTool _ _ => cases on
  | evaluate _ _ _ => cases on
  | close _ => cases on

/-- A session that is over rejects everything. -/
theorem perform_terminal {request : IncidentRequest} (on : request.session = some id)
    {session : DiagnosticSession} (found : world.sessions[id]? = some session)
    (terminal : session.state = .terminal) :
    (request.perform ctx).outcome world =
      (.error (.runtimeError "Diagnostic session is not active: terminal"), world) := by
  have refused := DiagnosticSession.requireActive_terminal found terminal
  cases request with
  | sessionCallTool id' action script =>
      cases on
      exact outcome_bind_error (outcome_bind_error refused)
  | submit id' diagnosis submission script =>
      cases on
      exact outcome_bind_error (outcome_bind_error refused)
  | terminateFailure id' domain message reason clock =>
      cases on
      exact outcome_bind_error (outcome_bind_error refused)
  | prepare _ _ => cases on
  | openSession _ _ _ => cases on
  | callTool _ _ => cases on
  | evaluate _ _ _ => cases on
  | close _ => cases on

end IncidentRequest

/-! ## The invariant -/

namespace IncidentWorld

/-- Every tool call of a session is counted, and the counter stays within its limit. -/
structure Counted (world : IncidentWorld) : Prop where
  counted : ∀ id session, world.sessions[id]? = some session →
    world.toolCallsOf id ≤ session.toolCalls ∧ session.toolCalls ≤ session.config.maxToolCalls
  unopened : ∀ id, world.sessions[id]? = none → world.toolCallsOf id = 0

/-- What holds between two requests. -/
structure Sound (hasOnClose : Bool) (world : IncidentWorld) : Prop where
  callback : world.incident.hasOnClose = hasOnClose
  cleanup : world.Open ∨ world.Settled
  counted : world.Counted

variable {world before after : IncidentWorld} {id : Nat}

theorem Counted.of_same (counted : before.Counted) (sessions : after.sessions = before.sessions)
    (toolCalls : ∀ id, after.toolCallsOf id = before.toolCallsOf id) : after.Counted where
  counted := by
    intro id session found
    rw [sessions] at found
    rw [toolCalls id]
    exact counted.counted id session found
  unopened := by
    intro id absent
    rw [sessions] at absent
    rw [toolCalls id]
    exact counted.unopened id absent

theorem Asks.counted {limit : Nat} (asks : before.Asks after none limit)
    (counted : before.Counted) : after.Counted :=
  counted.of_same asks.sessions fun id => asks.others id nofun

end IncidentWorld

namespace SessionStep

variable {world : IncidentWorld} {id : Nat} {out : Except Thrown SessionTransition × IncidentWorld}

theorem sameIncident (step : SessionStep world id out) : world.SameIncident out.2 := by
  cases step with
  | raised asks => exact asks.sameIncident
  | ended found asks ends => exact ⟨asks.incident, asks.finishes, asks.notifications⟩
  | called found within asks noReward => exact ⟨asks.incident, asks.finishes, asks.notifications⟩

theorem others (step : SessionStep world id out) {other : Nat} (ne : id ≠ other) :
    out.2.sessions[other]? = world.sessions[other]? := by
  cases step with
  | raised asks => rw [asks.sessions]
  | ended found asks ends =>
      rw [← asks.sessions]
      exact List.getElem?_modify_ne _ _ ne
  | called found within asks noReward =>
      rw [asks.sessions]
      exact List.getElem?_modify_ne _ _ ne

/-- A session that yields a reward is over. -/
theorem terminal_of_reward (step : SessionStep world id out) {transition : SessionTransition}
    (yields : out.1 = .ok transition) (reward : transition.reward.isSome) :
    ∃ session, out.2.sessions[id]? = some session ∧ session.state = .terminal := by
  cases step with
  | raised asks => cases yields
  | @ended session _ middle f found asks ends =>
      refine ⟨f session, ?_, ends.state session⟩
      refine (List.getElem?_modify_eq _ _ _).trans ?_
      rw [asks.sessions, found]
      rfl
  | called found within asks noReward =>
      cases yields
      rw [noReward] at reward
      cases reward

theorem counted (step : SessionStep world id out) (counted : world.Counted) : out.2.Counted := by
  cases step with
  | raised asks => exact asks.counted counted
  | @ended session _ middle f found asks ends =>
      have sound := asks.counted counted
      refine ⟨?_, ?_⟩
      · intro other changed at_
        obtain ⟨original, foundOriginal, eq⟩ :
            ∃ original, middle.sessions[other]? = some original ∧
              (if id = other then f original else original) = changed := by
          rw [IncidentWorld.withSession, List.getElem?_modify] at at_
          exact Option.map_eq_some_iff.mp at_
        have bounds := sound.counted other original foundOriginal
        rw [← eq]
        split
        · rw [ends.toolCalls, ends.config]
          exact bounds
        · exact bounds
      · intro other absent
        rw [IncidentWorld.withSession, List.getElem?_modify] at absent
        exact sound.unopened other (Option.map_eq_none_iff.mp absent)
  | @called session _ _ action found within asks noReward =>
      refine ⟨?_, ?_⟩
      · intro other changed at_
        rw [asks.sessions] at at_
        by_cases same : id = other
        · subst same
          have value : (world.withSession id fun session => session.counted action).sessions[id]? =
              some (session.counted action) := by
            refine (List.getElem?_modify_eq _ _ _).trans ?_
            rw [found]
            rfl
          rw [value] at at_
          obtain rfl := Option.some.inj at_
          refine ⟨?_, within⟩
          have made := (counted.counted id session found).1
          exact (asks.toolCalls id).trans (Nat.succ_le_succ made)
        · have kept : world.sessions[other]? = some changed := by
            rw [← at_]
            exact (List.getElem?_modify_ne _ _ same).symm
          rw [asks.others other fun wrong => same (Option.some.inj wrong)]
          exact counted.counted other changed kept
      · intro other absent
        rw [asks.sessions] at absent
        have none : world.sessions[other]? = none := by
          rw [IncidentWorld.withSession, List.getElem?_modify] at absent
          exact Option.map_eq_none_iff.mp absent
        have ne : some id ≠ some other := by
          intro wrong
          rw [← Option.some.inj wrong, found] at none
          cases none
        rw [asks.others other ne]
        exact counted.unopened other none

end SessionStep

/-- What a request does: it works on the incident, asks for something, opens a session, or works
on one. -/
inductive RequestStep (world : IncidentWorld) : Option Nat → IncidentWorld → Prop
  | cleanup {after : IncidentWorld} (incident : world.IncidentStep after)
      (sessions : world.SameSessions after) : RequestStep world none after
  | asked {after : IncidentWorld} (asks : world.Asks after none 1) : RequestStep world none after
  | opened {middle : IncidentWorld} (config : SimulatorConfig) (startedAt : Rat)
      (asks : world.Asks middle none 0) :
      RequestStep world none
        { middle with sessions := middle.sessions ++ [{ config, startedAt }] }
  | session {id : Nat} {out : Except Thrown SessionTransition × IncidentWorld}
      (step : SessionStep world id out) : RequestStep world (some id) out.2

theorem IncidentRequest.step (ctx : IncidentContext) (request : IncidentRequest)
    {world : IncidentWorld} (sound : world.Open ∨ world.Settled) :
    RequestStep world request.session (request.after ctx world) := by
  have ofSession : ∀ {id}, request.session = some id →
      RequestStep world (some id) (request.after ctx world) := by
    intro id on
    obtain ⟨out, step, eq⟩ := perform_session ctx on world
    rw [after, eq]
    exact .session step
  cases request with
  | prepare observation script =>
      rw [after, perform, outcome_bind_reading fun _ _ => rfl]
      obtain ⟨incident, sessions, -⟩ := IncidentWorld.prepare_step observation script sound
      exact .cleanup incident sessions
  | close script =>
      rw [after, perform, outcome_bind_reading fun _ _ => rfl]
      obtain ⟨incident, sessions, -⟩ := IncidentWorld.close_step script sound
      exact .cleanup incident sessions
  | openSession config refresh startedAt =>
      rw [after, perform, outcome_bind_reading fun _ _ => rfl]
      obtain ⟨middle, asks, same | ⟨resolved, added⟩⟩ :=
        PreparedIncident.openSession_cases config refresh startedAt world
      · rw [same]
        exact .asked asks.more
      · rw [added]
        exact .opened resolved startedAt asks
  | callTool action script =>
      rw [after, perform, outcome_bind_reading fun _ _ => rfl]
      have called := @PreparedIncident.meets_callTool world none ctx action script
      rcases ended : (PreparedIncident.callTool ctx none action script).outcome world with
        ⟨answer, later⟩
      cases answer with
      | ok value => exact .asked (called.of_ok (.refl world none 0) ended)
      | error thrown => exact .asked (called.of_error (.refl world none 0) ended)
  | evaluate diagnosis accounting script =>
      rw [after, perform, outcome_bind_reading fun _ _ => rfl]
      exact .asked ((PreparedIncident.keeps_evaluate ctx diagnosis accounting script).outcome
        (.refl world none 1))
  | sessionCallTool id _ _ => exact ofSession rfl
  | submit id _ _ _ => exact ofSession rfl
  | terminateFailure id _ _ _ _ => exact ofSession rfl

namespace RequestStep

variable {world after : IncidentWorld} {session : Option Nat}

theorem incident (step : RequestStep world session after) : world.IncidentStep after := by
  cases step with
  | cleanup incident sessions => exact incident
  | asked asks => exact .same asks.sameIncident
  | opened config startedAt asks =>
      exact .same ⟨asks.incident, asks.finishes, asks.notifications⟩
  | session step => exact .same step.sameIncident

theorem counted (step : RequestStep world session after) (counted : world.Counted) :
    after.Counted := by
  cases step with
  | cleanup incident sessions => exact counted.of_same sessions.sessions sessions.toolCalls
  | asked asks => exact asks.counted counted
  | opened config startedAt asks =>
      have sound := asks.counted counted
      refine ⟨?_, ?_⟩
      · intro id opened at_
        dsimp only at at_
        rw [List.getElem?_append] at at_
        split at at_
        · exact sound.counted id opened at_
        · rename_i above
          obtain ⟨_, eq⟩ := List.getElem?_eq_some_iff.mp at_
          have made := sound.unopened id (List.getElem?_eq_none (Nat.le_of_not_lt above))
          rw [List.getElem_singleton] at eq
          rw [← eq]
          exact ⟨le_of_eq made, Nat.zero_le _⟩
      · intro id absent
        refine sound.unopened id ?_
        rw [List.getElem?_eq_none_iff] at absent ⊢
        rw [List.length_append] at absent
        omega
  | session step => exact step.counted counted

/-- A session that no request is made on stays as it is. -/
theorem keeps_session (step : RequestStep world session after) {id : Nat} (ne : session ≠ some id)
    {kept : DiagnosticSession} (found : world.sessions[id]? = some kept) :
    after.sessions[id]? = some kept := by
  cases step with
  | cleanup incident sessions => rw [sessions.sessions, found]
  | asked asks => rw [asks.sessions, found]
  | opened config startedAt asks =>
      rw [← asks.sessions] at found
      exact (List.getElem?_append_left (List.getElem?_eq_some_iff.mp found).1).trans found
  | session step => rw [step.others fun same => ne (congrArg some same), found]

end RequestStep

/-! ## Runs -/

namespace IncidentWorld

variable {hasOnClose : Bool} {world after : IncidentWorld}

theorem IncidentStep.cleanup (step : world.IncidentStep after)
    (sound : world.Open ∨ world.Settled) : after.Open ∨ after.Settled := by
  cases step with
  | same same =>
      rcases sound with fresh | settled
      · exact .inl ⟨same.incident ▸ fresh.state, same.incident ▸ fresh.status,
          same.incident ▸ fresh.notified, same.finishes.trans fresh.finishes,
          same.notifications.trans fresh.notifications⟩
      · refine .inr ⟨same.incident ▸ settled.state, same.incident ▸ settled.status,
          same.finishes.trans settled.finishes, ?_⟩
        rw [same.notifications, settled.notifications, same.incident]
  | prepared fresh opened callback => exact .inl opened
  | settled fresh settled callback => exact .inr settled

theorem IncidentStep.callback (step : world.IncidentStep after) :
    after.incident.hasOnClose = world.incident.hasOnClose := by
  cases step with
  | same same => rw [same.incident]
  | prepared fresh opened callback => exact callback
  | settled fresh settled callback => exact callback

/-- An incident at its end stays there. -/
theorem IncidentStep.stays (step : world.IncidentStep after)
    (atEnd : world.incident.state = .closed ∨ world.incident.state = .broken) :
    after.incident.state = world.incident.state := by
  have ended : ¬ world.Open := by
    intro fresh
    rcases fresh.state with created | active
    · rw [created] at atEnd
      rcases atEnd with closed | broken
      · cases closed
      · cases broken
    · rw [active] at atEnd
      rcases atEnd with closed | broken
      · cases closed
      · cases broken
  cases step with
  | same same => rw [same.incident]
  | prepared fresh opened callback => exact absurd fresh ended
  | settled fresh settled callback => exact absurd fresh ended

theorem start_sound (digest : String) (isHealthy : Bool) (config : Option SimulatorConfig)
    (hasOnClose : Bool) : (start digest isHealthy config hasOnClose).Sound hasOnClose where
  callback := rfl
  cleanup := .inl ⟨.inl rfl, rfl, rfl, rfl, rfl⟩
  counted := ⟨nofun, fun _ _ => rfl⟩

variable (ctx : IncidentContext)

theorem Sound.next (sound : world.Sound hasOnClose) (request : IncidentRequest) :
    (request.after ctx world).Sound hasOnClose where
  callback := (request.step ctx sound.cleanup).incident.callback.trans sound.callback
  cleanup := (request.step ctx sound.cleanup).incident.cleanup sound.cleanup
  counted := (request.step ctx sound.cleanup).counted sound.counted

theorem Sound.run (sound : world.Sound hasOnClose) (requests : List IncidentRequest) :
    (world.run ctx requests).Sound hasOnClose := by
  induction requests generalizing world with
  | nil => exact sound
  | cons request requests ih => exact ih (sound.next ctx request)

theorem Sound.stays (sound : world.Sound hasOnClose)
    (atEnd : world.incident.state = .closed ∨ world.incident.state = .broken)
    (requests : List IncidentRequest) :
    (world.run ctx requests).incident.state = world.incident.state := by
  induction requests generalizing world with
  | nil => rfl
  | cons request requests ih =>
      have same := (request.step ctx sound.cleanup).incident.stays atEnd
      exact (ih (sound.next ctx request) (same ▸ atEnd)).trans same

theorem Sound.finishes_le (sound : world.Sound hasOnClose) : world.finishes ≤ 1 := by
  rcases sound.cleanup with fresh | settled
  · rw [fresh.finishes]
    exact Nat.zero_le 1
  · rw [settled.finishes]

theorem Sound.notifications_le (sound : world.Sound hasOnClose) : world.notifications ≤ 1 := by
  rcases sound.cleanup with fresh | settled
  · rw [fresh.notifications]
    exact Nat.zero_le 1
  · rw [settled.notifications]
    split <;> decide

/-- Nothing that is asked of a session that is over is done. -/
theorem Sound.rejects (sound : world.Sound hasOnClose) {id : Nat} {session : DiagnosticSession}
    (found : world.sessions[id]? = some session) (terminal : session.state = .terminal)
    (requests : List IncidentRequest) :
    ∀ event ∈ events ctx world requests, event.request.session = some id →
      event.outcome = .error (.runtimeError "Diagnostic session is not active: terminal") := by
  induction requests generalizing world with
  | nil =>
      intro event mem
      cases mem
  | cons request requests ih =>
      intro event mem on
      rcases List.mem_cons.mp mem with here | later
      · subst here
        exact congrArg Prod.fst (IncidentRequest.perform_terminal ctx on found terminal)
      · refine ih (sound.next ctx request) ?_ event later on
        by_cases same : request.session = some id
        · rw [IncidentRequest.after, IncidentRequest.perform_terminal ctx same found terminal,
            found]
        · exact (request.step ctx sound.cleanup).keeps_session same found

/-- A session that has yielded a reward is over. -/
theorem terminal_of_rewards {request : IncidentRequest} {id : Nat}
    (rewarded : IncidentEvent.rewards id ⟨request, ((request.perform ctx).outcome world).1⟩) :
    ∃ session, (request.after ctx world).sessions[id]? = some session ∧
      session.state = .terminal := by
  obtain ⟨on, reward⟩ := of_decide_eq_true rewarded
  obtain ⟨out, step, eq⟩ := IncidentRequest.perform_session ctx on world
  rw [IncidentRequest.after, eq]
  unfold IncidentEvent.reward at reward
  dsimp only at reward
  rw [eq] at reward
  rcases answered : out.1 with thrown | transition
  · rw [answered] at reward
    cases reward
  · rw [answered] at reward
    exact step.terminal_of_reward answered reward

theorem Sound.events_rejected (sound : world.Sound hasOnClose) (requests : List IncidentRequest) :
    (events ctx world requests).Pairwise fun earlier later => ∀ id,
      earlier.rewards id = true → later.request.session = some id →
        later.outcome = .error (.runtimeError "Diagnostic session is not active: terminal") := by
  induction requests generalizing world with
  | nil => exact .nil
  | cons request requests ih =>
      refine List.pairwise_cons.mpr ⟨?_, ih (sound.next ctx request)⟩
      intro event mem id rewarded on
      obtain ⟨session, found, terminal⟩ := terminal_of_rewards ctx rewarded
      exact (sound.next ctx request).rejects ctx found terminal requests event mem on

end IncidentWorld

/-! ## Evaluation -/

/-- What the backend and the evaluator answer makes `evaluate` raise. -/
def PreparedIncident.EvaluateScript.Raises (script : PreparedIncident.EvaluateScript)
    (incident : PreparedIncident) : Prop :=
  script.refresh.isOk = false ∨ (incident.isHealthy = false ∧ script.groundTruth.isOk = false) ∨
    script.evaluation.isOk = false

/-- Close, and a `prepare` that the backend fails. -/
def IncidentRequest.CleansUp (world : IncidentWorld) : IncidentRequest → Prop
  | .close _ => True
  | .prepare observation _ => world.incident.state = .created ∧ observation.isOk = false
  | _ => False

theorem IncidentRequest.settles (ctx : IncidentContext) {request : IncidentRequest}
    {world : IncidentWorld} (sound : world.Open ∨ world.Settled)
    (cleansUp : request.CleansUp world) : (request.after ctx world).Settled := by
  cases request with
  | close script =>
      rw [after, perform, outcome_bind_reading fun _ _ => rfl]
      exact (IncidentWorld.close_step script sound).2.2
  | prepare observation script =>
      rw [after, perform, outcome_bind_reading fun _ _ => rfl]
      exact (IncidentWorld.prepare_step observation script sound).2.2 cleansUp.1 cleansUp.2
  | openSession _ _ _ => cases cleansUp
  | callTool _ _ => cases cleansUp
  | evaluate _ _ _ => cases cleansUp
  | sessionCallTool _ _ _ => cases cleansUp
  | submit _ _ _ _ => cases cleansUp
  | terminateFailure _ _ _ _ _ => cases cleansUp

theorem PreparedIncident.groundTruth_outcome (incident : PreparedIncident) (script : EvaluateScript)
    (world : IncidentWorld) :
    ∃ after, (incident.groundTruth script).outcome world =
      (if incident.isHealthy then .ok (.obj []) else script.groundTruth, after) := by
  unfold groundTruth
  split
  · exact ⟨world, rfl⟩
  · rw [ask, outcome_bind_ok (outcome_modify _ _), outcome_ofExcept]
    exact ⟨_, rfl⟩

/-- An answer that is an error is raised. -/
theorem PreparedIncident.evaluate_raises (ctx : IncidentContext) (diagnosis : DiagnosisSubmission)
    (accounting : Accounting) {script : EvaluateScript} {world : IncidentWorld}
    (raises : script.Raises world.incident) :
    ∃ thrown, ((evaluate ctx diagnosis accounting script).outcome world).1 = .error thrown := by
  unfold evaluate
  have checked := outcome_requireActive world
  split at checked
  · rw [outcome_bind_ok checked, refreshLease, ask]
    rcases refreshed : script.refresh with thrown | _
    · rw [outcome_bind_error ((outcome_bind_ok (outcome_modify _ _)).trans (outcome_ofExcept _ _))]
      exact ⟨thrown, rfl⟩
    · rw [outcome_bind_ok ((outcome_bind_ok (outcome_modify _ _)).trans (outcome_ofExcept _ _))]
      obtain ⟨after, truth⟩ := world.incident.groundTruth_outcome script
        { world with calls := world.calls ++ [.refresh 0] }
      rcases answered : (if world.incident.isHealthy then .ok (.obj []) else script.groundTruth :
        Except Thrown Json) with thrown | value
      · rw [answered] at truth
        rw [outcome_bind_error truth]
        exact ⟨thrown, rfl⟩
      · rw [answered] at truth
        rw [outcome_bind_ok truth, ask, outcome_bind_ok (outcome_modify _ _), outcome_ofExcept]
        -- only the evaluator is left to raise
        rcases raises with refresh | ⟨unhealthy, absent⟩ | evaluation
        · rw [refreshed] at refresh
          cases refresh
        · rw [unhealthy, if_neg Bool.false_ne_true] at answered
          rw [answered] at absent
          cases absent
        · rcases evaluated : script.evaluation with thrown | result
          · exact ⟨thrown, rfl⟩
          · rw [evaluated] at evaluation
            cases evaluation
  · rw [outcome_bind_error checked]
    exact ⟨_, rfl⟩

/-- A submission whose evaluation raises, within the limits of an active session. -/
theorem DiagnosticSession.submit_raises (ctx : IncidentContext) {id : Nat}
    (diagnosis : DiagnosisSubmission) (submission : Submission) {script : SubmitScript}
    {world : IncidentWorld} {session : DiagnosticSession}
    (found : world.sessions[id]? = some session)
    (within : session.exceededLimit script.clock = none)
    (raises : script.Raises world.incident) :
    ∃ thrown, ((submit ctx id diagnosis submission script).outcome world).1 = .error thrown := by
  unfold submit
  rcases requireActive_cases id world with ⟨thrown, refused⟩ | ⟨session', found', -, -, checked⟩
  · rw [outcome_bind_error refused]
    exact ⟨thrown, rfl⟩
  · obtain rfl := Option.some.inj (found.symm.trans found')
    rw [outcome_bind_ok checked]
    dsimp only
    rcases limitTransition_cases id session script.clock world with
      ⟨-, unlimited⟩ | ⟨transition, exceeded⟩
    · rw [outcome_bind_ok unlimited]
      dsimp only
      set evaluation := PreparedIncident.evaluate ctx diagnosis _ script.toEvaluateScript
      obtain ⟨thrown, failed⟩ : ∃ thrown, (evaluation.outcome world).1 = .error thrown :=
        PreparedIncident.evaluate_raises ctx diagnosis _ raises
      rcases ended : evaluation.outcome world with ⟨answer, middle⟩
      rw [ended] at failed
      dsimp only at failed
      subst failed
      rw [outcome_bind_error ended]
      exact ⟨thrown, rfl⟩
    · unfold limitTransition at exceeded
      rw [within] at exceeded
      cases exceeded

/-- The life cycle of an incident and its sessions. -/
theorem incident_lifecycle (ctx : IncidentContext) (digest : String) (isHealthy : Bool)
    (config : Option SimulatorConfig) (hasOnClose : Bool) (requests : List IncidentRequest) :
    let start := IncidentWorld.start digest isHealthy config hasOnClose
    let world := start.run ctx requests
    -- the cleanup and the callback
    (world.finishes ≤ 1 ∧ world.notifications ≤ 1 ∧
      ∀ request : IncidentRequest, request.CleansUp world →
        (request.after ctx world).finishes = 1 ∧
          (request.after ctx world).notifications = if hasOnClose then 1 else 0) ∧
    -- the states at the end
    (world.incident.state = .closed ∨ world.incident.state = .broken →
      ∀ more, (world.run ctx more).incident.state = world.incident.state) ∧
    -- the rewards
    ((∀ id, (start.events ctx requests).countP (IncidentEvent.rewards id) ≤ 1) ∧
      (start.events ctx requests).Pairwise fun earlier later => ∀ id,
        earlier.rewards id = true → later.request.session = some id →
          later.outcome =
            .error (.runtimeError "Diagnostic session is not active: terminal")) ∧
    -- an evaluation that raises
    (∀ id session diagnosis submission (script : DiagnosticSession.SubmitScript),
      world.sessions[id]? = some session → session.state = .active →
      session.exceededLimit script.clock = none → script.Raises world.incident →
        ∃ thrown after,
          (DiagnosticSession.submit ctx id diagnosis submission script).outcome world =
            (.error thrown, after) ∧ after.sessions = world.sessions) ∧
    -- the tool calls
    ∀ id session, world.sessions[id]? = some session →
      world.toolCallsOf id ≤ session.config.maxToolCalls := by
  intro start world
  have fresh : start.Sound hasOnClose :=
    IncidentWorld.start_sound digest isHealthy config hasOnClose
  have sound : world.Sound hasOnClose := fresh.run ctx requests
  refine ⟨⟨sound.finishes_le, sound.notifications_le, ?_⟩, ?_, ⟨?_, ?_⟩, ?_, ?_⟩
  · intro request cleansUp
    have settled := request.settles ctx sound.cleanup cleansUp
    exact ⟨settled.finishes, (sound.next ctx request).callback ▸ settled.notifications⟩
  · intro atEnd more
    exact sound.stays ctx atEnd more
  · intro id
    refine Counting.countP_le_one ((fresh.events_rejected ctx requests).imp ?_)
    intro earlier later rejected rewarded
    rw [Bool.eq_false_iff]
    intro again
    obtain ⟨on, reward⟩ := of_decide_eq_true again
    rw [IncidentEvent.reward, rejected id rewarded on] at reward
    cases reward
  · exact fresh.events_rejected ctx requests
  · intro id session diagnosis submission script found _ within raises
    obtain ⟨thrown, failed⟩ :=
      DiagnosticSession.submit_raises ctx diagnosis submission found within raises
    have step := DiagnosticSession.submit_step ctx id diagnosis submission script world
    rcases ended : (DiagnosticSession.submit ctx id diagnosis submission script).outcome world with
      ⟨answer, after⟩
    rw [ended] at failed step
    dsimp only at failed
    subst failed
    refine ⟨thrown, after, rfl, ?_⟩
    cases step with
    | raised asks => exact asks.sessions
  · intro id session found
    obtain ⟨counted, limited⟩ := sound.counted.counted id session found
    exact counted.trans limited

end NetOpsBench
