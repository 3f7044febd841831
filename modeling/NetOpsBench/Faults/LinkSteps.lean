import NetOpsBench.Faults.Link

/-!
# What one call of the link handler does

One lemma for each function of the handler says how its run ends and what it leaves of the
port it works on. How the wait of an admin command ends (`AdminScript.ending`) and what a
command leaves of a port are functions of the script alone.
-/

namespace NetOpsBench

open Program

/-! ## Admin commands -/

/-- How the convergence wait of an admin command ends. -/
inductive Ending : Type where
  | confirmed
  | unconfirmed
  | interrupted (interruption : Interruption)
  deriving DecidableEq, Repr

namespace AdminScript

variable (script : AdminScript)

/-- The result that the wait looks at: the fallback's when the first command fails. -/
def result : CommandResult :=
  if script.configCmd.result.returncode ≠ 0 then script.fallback.result
  else script.configCmd.result

/-- The answers of the wait. -/
def wait (enabled : Bool) : Except Interruption (CommandResult × Bool) :=
  LinkHandler.awaitAdminState enabled script.result script.polls script.result

def ending (enabled : Bool) : Ending :=
  match script.wait enabled with
  | .error interruption => .interrupted interruption
  | .ok (_, stateMatches) =>
      if script.result.returncode = 0 ∧ stateMatches then .confirmed else .unconfirmed

/-- One of the commands that ran took effect. -/
def lands : Bool :=
  script.configCmd.takesEffect ||
    decide (script.configCmd.result.returncode ≠ 0) && script.fallback.takesEffect

/-- The port after the commands. -/
def portAfter (enabled : Bool) (state : PortState) : PortState :=
  if script.lands then state.setAdmin enabled else state

variable {script} {enabled : Bool}

theorem lands_of_result (ok : script.result.returncode = 0) : script.lands = true := by
  unfold result at ok
  unfold lands
  split at ok
  · rename_i failed
    simp [failed, script.fallback.reported ok]
  · simp [script.configCmd.reported ok]

/-- A wait sleeps only after a command that reported success. -/
theorem result_of_awaitAdminState {result state : CommandResult} {polls : List Poll}
    {interruption : Interruption}
    (raised : LinkHandler.awaitAdminState enabled result polls state = .error interruption) :
    result.returncode = 0 := by
  induction polls generalizing state with
  | nil => cases raised
  | cons poll polls ih =>
      unfold LinkHandler.awaitAdminState at raised
      split at raised
      · cases raised
      · split at raised
        · cases raised
        · rename_i goesOn
          by_contra failed
          exact goesOn (.inl failed)

theorem lands_of_interrupted {interruption : Interruption}
    (ends : script.ending enabled = .interrupted interruption) : script.lands = true := by
  unfold ending at ends
  split at ends
  · rename_i raised
    exact lands_of_result (result_of_awaitAdminState raised)
  · split at ends
    · cases ends
    · cases ends

theorem lands_of_confirmed (ends : script.ending enabled = .confirmed) : script.lands = true := by
  unfold ending at ends
  split at ends
  · cases ends
  · split at ends
    · rename_i both
      exact lands_of_result both.1
    · cases ends

theorem adminUp_portAfter (landed : script.lands = true) (state : PortState) :
    (script.portAfter enabled state).adminUp = enabled := by
  rw [portAfter, if_pos landed, PortState.adminUp_setAdmin]

end AdminScript

theorem PortState.setAdmin_setAdmin (enabled : Bool) (state : PortState) :
    (state.setAdmin enabled).setAdmin enabled = state.setAdmin enabled :=
  if_pos (adminUp_setAdmin enabled state)

namespace LinkWorld

theorem setPort_setPort (world : LinkWorld) (port : Port) (f g : PortState → PortState) :
    (world.setPort port f).setPort port g = world.setPort port (g ∘ f) := by
  simp [setPort]

theorem setPort_id (world : LinkWorld) (port : Port) : world.setPort port id = world := by
  simp [setPort]

theorem setPort_congr (world : LinkWorld) (port : Port) {f g : PortState → PortState}
    (same : f (world.port port) = g (world.port port)) :
    world.setPort port f = world.setPort port g := by
  rw [setPort, setPort, same]

/-- A command on a port, seen from the port. -/
theorem after_setPort (mutation : Mutation) (port : Port) (f : PortState → PortState)
    (world : LinkWorld) : mutation.after (fun world => world.setPort port f) world =
      world.setPort port (mutation.after f) := by
  unfold Mutation.after
  cases mutation.takesEffect with
  | true => rfl
  | false => exact (world.setPort_id port).symm

end LinkWorld

namespace LinkHandler

variable {ctx : FaultRuntimeContext}

theorem setPort_portAfter (script : AdminScript) (port : Port) (enabled : Bool)
    (world : LinkWorld) : world.setPort port (script.portAfter enabled) =
      if script.lands then adminEffect port enabled world else world := by
  have unfolded : script.portAfter enabled =
      fun state => if script.lands then state.setAdmin enabled else state := rfl
  rw [unfolded]
  cases script.lands with
  | true => rfl
  | false => exact world.setPort_id port

theorem admin_first (script : AdminScript) (port : Port) (enabled : Bool) (world : LinkWorld)
    (ok : script.configCmd.result.returncode = 0) :
    script.configCmd.after (adminEffect port enabled) world =
      world.setPort port (script.portAfter enabled) := by
  have landed : script.lands = true := by
    rw [AdminScript.lands, script.configCmd.reported ok]
    rfl
  rw [setPort_portAfter, if_pos landed, Mutation.after, if_pos (script.configCmd.reported ok)]

theorem admin_both (script : AdminScript) (port : Port) (enabled : Bool) (world : LinkWorld)
    (failed : script.configCmd.result.returncode ≠ 0) :
    script.fallback.after (adminEffect port enabled)
        (script.configCmd.after (adminEffect port enabled) world) =
      world.setPort port (script.portAfter enabled) := by
  rw [setPort_portAfter]
  simp only [AdminScript.lands, Mutation.after, failed, ne_eq, not_false_eq_true, decide_true,
    Bool.true_and]
  cases script.configCmd.takesEffect with
  | false =>
      rw [Bool.false_or]
      rfl
  | true =>
      cases script.fallback.takesEffect with
      | false => rfl
      | true =>
          refine (LinkWorld.setPort_setPort ..).trans ?_
          exact world.setPort_congr port (PortState.setAdmin_setAdmin ..)

theorem adminCommands_outcome (script : AdminScript) (endpoint : Endpoint ctx) (enabled : Bool)
    (world : LinkWorld) : (adminCommands script endpoint enabled).outcome world =
      (.ok script.result, world.setPort endpoint.port (script.portAfter enabled)) := by
  rw [adminCommands, outcome_bind_ok (Mutation.outcome_run ..), AdminScript.result]
  by_cases ok : script.configCmd.result.returncode = 0
  · rw [if_neg (not_not.mpr ok), if_neg (not_not.mpr ok), outcome_pure, admin_first _ _ _ _ ok]
  · rw [if_pos ok, if_pos ok, Mutation.outcome_run, admin_both _ _ _ _ ok]

/-- The commands leave `portAfter` of the port, and the answer is that of the wait. -/
theorem setLinkAdminState_outcome (script : AdminScript) (endpoint : Endpoint ctx)
    (enabled : Bool) (world : LinkWorld) :
    ∃ answer, (setLinkAdminState script endpoint enabled).outcome world =
      (answer, world.setPort endpoint.port (script.portAfter enabled)) ∧
      match script.ending enabled with
      | .interrupted interruption => answer = .error (.interrupted interruption)
      | .confirmed => ∃ result, answer = .ok result ∧ result.success = true
      | .unconfirmed => ∃ result, answer = .ok result ∧ result.success = false := by
  rw [setLinkAdminState, outcome_bind_ok (adminCommands_outcome ..)]
  rcases waited : script.wait enabled with interruption | ⟨state, stateMatches⟩
  · have raised : awaitAdminState enabled script.result script.polls script.result =
        .error interruption := waited
    have ends : script.ending enabled = .interrupted interruption := by
      rw [AdminScript.ending, waited]
    refine ⟨.error (.interrupted interruption), ?_, ?_⟩
    · rw [raised]
      rfl
    · rw [ends]
  · have answered : awaitAdminState enabled script.result script.polls script.result =
        .ok (state, stateMatches) := waited
    have ends : script.ending enabled =
        if script.result.returncode = 0 ∧ stateMatches then .confirmed else .unconfirmed := by
      rw [AdminScript.ending, waited]
    refine ⟨_, by rw [answered]; rfl, ?_⟩
    rw [ends]
    by_cases both : script.result.returncode = 0 ∧ stateMatches
    · rw [if_pos both]
      exact ⟨_, rfl, decide_eq_true both⟩
    · rw [if_neg both]
      exact ⟨_, rfl, decide_eq_false both⟩

end LinkHandler

/-! ## Routes -/

namespace PortState

/-- The port is up and has the routes, as the handler tells routes apart. -/
def Holds (state : PortState) (routes : List Route) : Prop :=
  state.adminUp = true ∧ ∀ route ∈ routes, route.identity ∈ state.routes.map Route.identity

instance (state : PortState) (routes : List Route) : Decidable (state.Holds routes) :=
  inferInstanceAs (Decidable (_ ∧ _))

theorem holds_configured {state : PortState} (up : state.adminUp = true) :
    state.Holds state.configured :=
  ⟨up, fun _ mem => List.mem_map_of_mem (List.mem_of_mem_filter mem)⟩

end PortState

namespace RestoreScript

variable (script : RestoreScript)

/-- The port after a `replace` for each route. -/
def replaced : List Route → PortState → PortState
  | [], state => state
  | route :: routes, state =>
      replaced routes ((script.replace route).after
        (fun state => { state with routes := route.replaceIn state.routes }) state)

/-- The port after `_restore_client_routes`. -/
def portAfter (routes : List Route) (state : PortState) : PortState :=
  match script.current with
  | .shown => script.replaced
      (routes.filter fun route => !(state.routes.map Route.identity).contains route.identity) state
  | .invalid _ => state
  | .failed _ _ => state

variable {script}

@[simp] theorem adminUp_replaced (routes : List Route) (state : PortState) :
    (script.replaced routes state).adminUp = state.adminUp := by
  induction routes generalizing state with
  | nil => rfl
  | cons route routes ih =>
      rw [replaced, ih, Mutation.after]
      split <;> rfl

@[simp] theorem adminUp_portAfter (routes : List Route) (state : PortState) :
    (script.portAfter routes state).adminUp = state.adminUp := by
  unfold portAfter
  split
  · exact adminUp_replaced ..
  · rfl
  · rfl

/-- Where no route is missing, none is replaced. -/
theorem portAfter_of_present {routes : List Route} {state : PortState}
    (present : ∀ route ∈ routes, route.identity ∈ state.routes.map Route.identity) :
    script.portAfter routes state = state := by
  have none : (routes.filter fun route =>
      !(state.routes.map Route.identity).contains route.identity) = [] := by
    rw [List.filter_eq_nil_iff]
    intro route mem
    simpa using present route mem
  unfold portAfter
  split
  · rw [none, replaced]
  · rfl
  · rfl

end RestoreScript

namespace LinkHandler

variable {ctx : FaultRuntimeContext}

theorem replaceRoutes_outcome (script : RestoreScript) (endpoint : Endpoint ctx)
    (routes : List Route) (world : LinkWorld) :
    ∃ errors, (replaceRoutes script endpoint routes).outcome world =
      (.ok errors, world.setPort endpoint.port (script.replaced routes)) := by
  induction routes generalizing world with
  | nil => exact ⟨[], by rw [replaceRoutes]; exact congrArg _ (world.setPort_id _).symm⟩
  | cons route routes ih =>
      obtain ⟨errors, rest⟩ := ih (world.setPort endpoint.port ((script.replace route).after
        fun state => { state with routes := route.replaceIn state.routes }))
      rw [replaceRoutes, outcome_bind_ok (Mutation.outcome_run ..), LinkWorld.after_setPort,
        outcome_bind_ok rest, LinkWorld.setPort_setPort]
      by_cases ok : (script.replace route).result.returncode = 0
      · rw [if_neg (not_not.mpr ok)]
        exact ⟨errors, rfl⟩
      · rw [if_pos ok]
        exact ⟨_, rfl⟩

theorem setPort_of_eq (world : LinkWorld) (port : Port) {f : PortState → PortState}
    (same : f (world.port port) = world.port port) : world.setPort port f = world :=
  (world.setPort_congr port same).trans (world.setPort_id port)

/-- A successful restore has read the routes back. -/
theorem restoreClientRoutes_outcome (script : RestoreScript) (endpoint : Endpoint ctx)
    (routes : List Route) (world : LinkWorld) :
    ∃ result, (restoreClientRoutes script endpoint routes).outcome world =
      (.ok result, world.setPort endpoint.port (script.portAfter routes)) ∧
      (result.success = true → ∀ route ∈ routes, route.identity ∈
        (script.portAfter routes (world.port endpoint.port)).routes.map Route.identity) := by
  by_cases some : routes = []
  · subst some
    have unchanged := setPort_of_eq world endpoint.port
      (@RestoreScript.portAfter_of_present script [] _ (by simp))
    exact ⟨⟨true, none⟩, by rw [unchanged]; rfl, by simp⟩
  · unfold restoreClientRoutes RestoreScript.portAfter
    rw [if_neg some]
    rcases current : script.current with ⟨result, nonzero⟩ | message | _
    · exact ⟨_, congrArg _ (world.setPort_id _).symm, nofun⟩
    · exact ⟨_, congrArg _ (world.setPort_id _).symm, nofun⟩
    · set port := endpoint.port
      set absent := routes.filter fun route =>
        route.identity ∉ (world.port port).routes.map Route.identity
      have filters : (routes.filter fun route =>
          !((world.port port).routes.map Route.identity).contains route.identity) = absent := by
        refine List.filter_congr ?_
        intro route _
        rw [List.contains_eq_mem, decide_not]
      have same : world.setPort port (fun state => script.replaced (routes.filter fun route =>
          !(state.routes.map Route.identity).contains route.identity) state) =
          world.setPort port (script.replaced absent) :=
        world.setPort_congr port (by rw [filters])
      obtain ⟨failures, done⟩ := replaceRoutes_outcome script endpoint absent world
      dsimp only
      rw [outcome_bind_ok (outcome_get world), outcome_bind_ok done,
        outcome_bind_ok (outcome_get _), same]
      refine ⟨_, rfl, ?_⟩
      intro success
      have noErrors := of_decide_eq_true success
      rw [List.append_eq_nil_iff] at noErrors
      have noneMissing := noErrors.2
      rw [ite_eq_left_iff] at noneMissing
      have readBack := not_imp_comm.mp noneMissing (List.cons_ne_nil _ _)
      intro route mem
      have found := List.filter_eq_nil_iff.mp readBack route mem
      rw [decide_eq_true_eq, not_not, LinkWorld.port_setPort_same] at found
      cases verify : script.verify with
      | shown =>
          rw [verify] at found
          rw [filters]
          exact found
      | failed result nonzero =>
          rw [verify] at found
          cases found
      | invalid message =>
          rw [verify] at found
          cases found

end LinkHandler

/-! ## Compensation -/

/-- The port after `compensateEndpoint`. -/
def EndpointScript.compensated (script : EndpointScript) (routes : List Route)
    (state : PortState) : PortState :=
  match script.startup.ending true with
  | .confirmed => script.restore.portAfter routes (script.startup.portAfter true state)
  | _ => script.startup.portAfter true state

namespace LinkHandler

variable {ctx : FaultRuntimeContext}

/-- A compensation without an error has put the port up with its routes. -/
theorem compensateEndpoint_outcome (snapshots : Option Snapshots) (endpoint : Endpoint ctx)
    (script : EndpointScript) (world : LinkWorld) :
    ∃ answer, (compensateEndpoint snapshots endpoint script).outcome world =
      (answer, world.setPort endpoint.port
        (script.compensated (snapshotOf snapshots endpoint))) ∧
      match script.startup.ending true with
      | .interrupted interruption => answer = .error (.interrupted interruption)
      | _ => ∃ error, answer = .ok error ∧ (error = none →
          (script.compensated (snapshotOf snapshots endpoint) (world.port endpoint.port)).Holds
            (snapshotOf snapshots endpoint)) := by
  obtain ⟨answer, started, ends⟩ := setLinkAdminState_outcome script.startup endpoint true world
  unfold compensateEndpoint EndpointScript.compensated
  rcases ending : script.startup.ending true with _ | _ | interruption
  · rw [ending] at ends
    obtain ⟨result, answerEq, success⟩ := ends
    subst answerEq
    obtain ⟨restored, done, present⟩ := restoreClientRoutes_outcome script.restore endpoint
      (snapshotOf snapshots endpoint)
      (world.setPort endpoint.port (script.startup.portAfter true))
    rw [outcome_bind_ok started, if_pos success, outcome_bind_ok done, LinkWorld.setPort_setPort]
    rw [LinkWorld.port_setPort_same] at present
    have up : (script.startup.portAfter true (world.port endpoint.port)).adminUp = true :=
      AdminScript.adminUp_portAfter (AdminScript.lands_of_confirmed ending) _
    cases readBack : restored.success with
    | true => exact ⟨_, rfl, none, rfl, fun _ =>
        ⟨(RestoreScript.adminUp_portAfter ..).trans up, present readBack⟩⟩
    | false => exact ⟨_, rfl, _, rfl, nofun⟩
  · rw [ending] at ends
    obtain ⟨result, answerEq, failure⟩ := ends
    subst answerEq
    rw [outcome_bind_ok started, failure]
    exact ⟨_, rfl, _, rfl, nofun⟩
  · rw [ending] at ends
    subst ends
    exact ⟨_, outcome_bind_error started, rfl⟩

end LinkHandler

end NetOpsBench
