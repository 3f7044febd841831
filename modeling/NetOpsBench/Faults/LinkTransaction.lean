import NetOpsBench.Faults.LinkSteps

/-!
# Injections into a link

After an injection of a link fault the link is as before, or the tracker has the fault, or a
sleep has raised. `Spared` says when the commands and waits of a script leave the link as
before even then.
-/

namespace NetOpsBench

open Program

variable {ctx : FaultRuntimeContext}

/-- No sleep raises while an endpoint is shut down, and one that raises in the compensation
of the target does so when both endpoints are up with their routes again. -/
structure Spared (target peer : EndpointScript) (targetRoutes peerRoutes : List Route)
    (targetState peerState : PortState) : Prop where
  targetShutdown : ∀ interruption, target.shutdown.ending false ≠ .interrupted interruption
  peerShutdown : target.shutdown.ending false = .confirmed →
    ∀ interruption, peer.shutdown.ending false ≠ .interrupted interruption
  targetAlone : target.shutdown.ending false = .unconfirmed →
    ∀ interruption, target.startup.ending true = .interrupted interruption →
      (target.compensated targetRoutes (target.shutdown.portAfter false targetState)).Holds
        targetRoutes
  peerStartup : target.shutdown.ending false = .confirmed →
    peer.shutdown.ending false = .unconfirmed →
      ∀ interruption, peer.startup.ending true ≠ .interrupted interruption
  targetLast : target.shutdown.ending false = .confirmed →
    peer.shutdown.ending false = .unconfirmed →
      ∀ interruption, target.startup.ending true = .interrupted interruption →
        (target.compensated targetRoutes (target.shutdown.portAfter false targetState)).Holds
          targetRoutes ∧
        (peer.compensated peerRoutes (peer.shutdown.portAfter false peerState)).Holds peerRoutes

namespace LinkHandler

section Physical

variable {target peer : Endpoint ctx} {targetScript peerScript : EndpointScript}
  {snapshots : Option Snapshots} {world : LinkWorld}

/-! ### The loops -/

section Loops

variable (snapshots : Option Snapshots) (endpoint : Endpoint ctx)
  (rest : List (Endpoint ctx × EndpointScript)) (world : LinkWorld) {script : EndpointScript}

theorem changeEndpoints_interrupted {interruption : Interruption}
    (ends : script.shutdown.ending false = .interrupted interruption) :
    (changeEndpoints false snapshots ((endpoint, script) :: rest)).outcome world =
      (.error (.interrupted interruption),
        world.setPort endpoint.port (script.shutdown.portAfter false)) := by
  obtain ⟨answer, done, shape⟩ := setLinkAdminState_outcome script.shutdown endpoint false world
  rw [ends] at shape
  subst shape
  rw [changeEndpoints]
  exact outcome_bind_error done

theorem changeEndpoints_unconfirmed (ends : script.shutdown.ending false = .unconfirmed) :
    ∃ error, (changeEndpoints false snapshots ((endpoint, script) :: rest)).outcome world =
      (.ok ([(endpoint, script)], [error]),
        world.setPort endpoint.port (script.shutdown.portAfter false)) := by
  obtain ⟨answer, done, shape⟩ := setLinkAdminState_outcome script.shutdown endpoint false world
  rw [ends] at shape
  obtain ⟨result, answerEq, failure⟩ := shape
  subst answerEq
  refine ⟨endpoint.label ++ ": " ++ Text.either (result.error.getD "") "state change failed", ?_⟩
  rw [changeEndpoints]
  refine (outcome_bind_ok done).trans ?_
  rw [failure]
  rfl

theorem changeEndpoints_confirmed (ends : script.shutdown.ending false = .confirmed) :
    (changeEndpoints false snapshots ((endpoint, script) :: rest)).outcome world =
      match (changeEndpoints false snapshots rest).outcome
        (world.setPort endpoint.port (script.shutdown.portAfter false)) with
      | (.ok (attempted, errors), after) => (.ok ((endpoint, script) :: attempted, errors), after)
      | (.error error, after) => (.error error, after) := by
  obtain ⟨answer, done, shape⟩ := setLinkAdminState_outcome script.shutdown endpoint false world
  rw [ends] at shape
  obtain ⟨result, answerEq, success⟩ := shape
  subst answerEq
  rw [changeEndpoints]
  refine (outcome_bind_ok done).trans ?_
  rw [success]
  refine (outcome_bind_ok (outcome_pure _ _)).trans ?_
  rw [outcome_bind]
  rcases (changeEndpoints false snapshots rest).outcome
    (world.setPort endpoint.port (script.shutdown.portAfter false)) with ⟨answer, after⟩
  cases answer with
  | ok both => rfl
  | error error => rfl

variable {snapshots world}

theorem setPhysicalLink_raised {endpoints : List (Endpoint ctx × EndpointScript)} {error : Raised}
    {after : LinkWorld}
    (changed : (changeEndpoints false snapshots endpoints).outcome world = (.error error, after)) :
    (setPhysicalLink endpoints false snapshots).outcome world = (.error error, after) :=
  outcome_bind_error changed

theorem setPhysicalLink_success {endpoints attempted : List (Endpoint ctx × EndpointScript)}
    {after : LinkWorld}
    (changed : (changeEndpoints false snapshots endpoints).outcome world =
      (.ok (attempted, []), after)) :
    ∃ result, (setPhysicalLink endpoints false snapshots).outcome world = (.ok result, after) ∧
      result.success = true := by
  unfold setPhysicalLink
  rw [outcome_bind_ok changed]
  exact ⟨_, rfl, rfl⟩

/-- A failure is compensated, and the result says whether an error is left. -/
theorem setPhysicalLink_failure {endpoints attempted : List (Endpoint ctx × EndpointScript)}
    {error : String} {errors : List String} {middle : LinkWorld}
    (changed : (changeEndpoints false snapshots endpoints).outcome world =
      (.ok (attempted, error :: errors), middle)) {answer : Except Raised (List String)}
    {after : LinkWorld}
    (compensated : (compensate snapshots attempted.reverse).outcome middle = (answer, after)) :
    ∃ result, (setPhysicalLink endpoints false snapshots).outcome world =
        (answer.map fun _ => result, after) ∧ result.success = false ∧
      (result.residualMutation = false → ∀ left, answer = .ok left → left = []) := by
  unfold setPhysicalLink
  rw [outcome_bind_ok changed]
  cases answer with
  | error raised =>
      refine ⟨⟨false, none, none, false⟩, ?_, rfl, nofun⟩
      exact outcome_bind_error compensated
  | ok left =>
      refine ⟨_, (outcome_bind_ok compensated).trans rfl, rfl, ?_⟩
      intro settled other same
      have leftEq := Except.ok.inj same
      subst leftEq
      simpa using settled

variable (snapshots world)

theorem compensate_interrupted {interruption : Interruption}
    (ends : script.startup.ending true = .interrupted interruption) :
    (compensate snapshots ((endpoint, script) :: rest)).outcome world =
      (.error (.interrupted interruption),
        world.setPort endpoint.port (script.compensated (snapshotOf snapshots endpoint))) := by
  obtain ⟨answer, done, shape⟩ := compensateEndpoint_outcome snapshots endpoint script world
  rw [ends] at shape
  subst shape
  rw [compensate]
  exact outcome_bind_error done

theorem compensate_attempted
    (goesOn : ∀ interruption, script.startup.ending true ≠ .interrupted interruption) :
    ∃ error : Option String, (compensate snapshots ((endpoint, script) :: rest)).outcome world =
        (match (compensate snapshots rest).outcome (world.setPort endpoint.port
            (script.compensated (snapshotOf snapshots endpoint))) with
          | (.ok errors, after) => (.ok (error.toList ++ errors), after)
          | (.error raised, after) => (.error raised, after)) ∧
      (error = none →
        (script.compensated (snapshotOf snapshots endpoint) (world.port endpoint.port)).Holds
          (snapshotOf snapshots endpoint)) := by
  obtain ⟨answer, done, shape⟩ := compensateEndpoint_outcome snapshots endpoint script world
  have returned : ∃ error, answer = .ok error ∧ (error = none →
      (script.compensated (snapshotOf snapshots endpoint) (world.port endpoint.port)).Holds
        (snapshotOf snapshots endpoint)) := by
    rcases ending : script.startup.ending true with _ | _ | interruption
    · rw [ending] at shape
      exact shape
    · rw [ending] at shape
      exact shape
    · exact (goesOn interruption ending).elim
  obtain ⟨error, answerEq, holds⟩ := returned
  subst answerEq
  refine ⟨error, ?_, holds⟩
  rw [compensate, outcome_bind_ok done, outcome_bind]
  rcases (compensate snapshots rest).outcome (world.setPort endpoint.port
    (script.compensated (snapshotOf snapshots endpoint))) with ⟨answer, after⟩
  cases answer with
  | ok errors => rfl
  | error raised => rfl

/-! ### The link -/

end Loops

/-! ### The link -/

/-- Both ports are up with the routes of their snapshots. -/
def Restored (target peer : Endpoint ctx) (snapshots : Option Snapshots) (world : LinkWorld) :
    Prop :=
  (world.port target.port).Holds (snapshotOf snapshots target) ∧
    (world.port peer.port).Holds (snapshotOf snapshots peer)

/-- `Spared` at the ports of a link. -/
def SparedLink (target peer : Endpoint ctx) (targetScript peerScript : EndpointScript)
    (snapshots : Option Snapshots) (world : LinkWorld) : Prop :=
  Spared targetScript peerScript (snapshotOf snapshots target) (snapshotOf snapshots peer)
    (world.port target.port) (world.port peer.port)

/-- How `_set_physical_link` may end when it shuts a link down: a result that reports no
residue belongs to a change that is in place or taken back, and a raise spares the link
exactly when the script does. -/
def Settles (target peer : Endpoint ctx) (targetScript peerScript : EndpointScript)
    (snapshots : Option Snapshots) (world : LinkWorld)
    (run : Except Raised PhysicalResult × LinkWorld) : Prop :=
  run.2.tracker = world.tracker ∧
    match run.1 with
    | .ok result =>
        SparedLink target peer targetScript peerScript snapshots world ∧
        (result.success = false → result.residualMutation = false →
          Restored target peer snapshots run.2) ∧
        (result.success = true ↔ targetScript.shutdown.ending false = .confirmed ∧
          peerScript.shutdown.ending false = .confirmed) ∧
        (result.success = true → (run.2.port target.port).adminUp = false)
    | .error _ =>
        ¬ (targetScript.shutdown.ending false = .confirmed ∧
          peerScript.shutdown.ending false = .confirmed) ∧
        (SparedLink target peer targetScript peerScript snapshots world ↔
          Restored target peer snapshots run.2)

theorem settles_of_interrupted {interruption : Interruption}
    (ends : targetScript.shutdown.ending false = .interrupted interruption) :
    Settles target peer targetScript peerScript snapshots world
      ((setPhysicalLink [(target, targetScript), (peer, peerScript)] false
        snapshots).outcome world) := by
  have down : (targetScript.shutdown.portAfter false (world.port target.port)).adminUp = false :=
    AdminScript.adminUp_portAfter (AdminScript.lands_of_interrupted ends) _
  rw [setPhysicalLink_raised (changeEndpoints_interrupted _ _ _ _ ends)]
  refine ⟨rfl, by rw [ends]; nofun, ?_, ?_⟩
  · intro spared
    exact (spared.targetShutdown interruption ends).elim
  · intro restored
    have up := restored.1.1
    rw [LinkWorld.port_setPort_same, down] at up
    cases up

/-- The shutdown of the target is not confirmed: the target alone is compensated. -/
theorem settles_of_unconfirmed (apart : target.port ≠ peer.port)
    (peerPresent : (world.port peer.port).Holds (snapshotOf snapshots peer))
    (ends : targetScript.shutdown.ending false = .unconfirmed) :
    Settles target peer targetScript peerScript snapshots world
      ((setPhysicalLink [(target, targetScript), (peer, peerScript)] false
        snapshots).outcome world) := by
  obtain ⟨error, changed⟩ := changeEndpoints_unconfirmed snapshots target
    [(peer, peerScript)] world ends
  set middle := world.setPort target.port (targetScript.shutdown.portAfter false)
  set after := middle.setPort target.port
    (targetScript.compensated (snapshotOf snapshots target))
  have targetPort : after.port target.port = targetScript.compensated (snapshotOf snapshots target)
      (targetScript.shutdown.portAfter false (world.port target.port)) := by
    rw [LinkWorld.port_setPort_same, LinkWorld.port_setPort_same]
  have peerPort : after.port peer.port = world.port peer.port := by
    rw [LinkWorld.port_setPort_of_ne _ apart.symm, LinkWorld.port_setPort_of_ne _ apart.symm]
  have sparedOf : (∀ interruption, targetScript.startup.ending true = .interrupted interruption →
      (after.port target.port).Holds (snapshotOf snapshots target)) →
      SparedLink target peer targetScript peerScript snapshots world := by
    intro alone
    refine ⟨?_, ?_, ?_, ?_, ?_⟩
    · rw [ends]
      nofun
    · rw [ends]
      nofun
    · intro _
      rw [← targetPort]
      exact alone
    · rw [ends]
      nofun
    · rw [ends]
      nofun
  by_cases raises : ∃ interruption, targetScript.startup.ending true = .interrupted interruption
  · obtain ⟨interruption, raised⟩ := raises
    obtain ⟨result, whole, -, -⟩ :=
      setPhysicalLink_failure changed (compensate_interrupted _ _ _ _ raised)
    rw [whole]
    refine ⟨rfl, by rw [ends]; nofun, ?_, ?_⟩
    · intro spared
      refine ⟨?_, ?_⟩
      · rw [targetPort]
        exact spared.targetAlone ends interruption raised
      · rw [peerPort]
        exact peerPresent
    · intro restored
      exact sparedOf fun _ _ => restored.1
  · obtain ⟨left, done, holds⟩ := compensate_attempted snapshots target [] middle
      fun interruption raised => raises ⟨interruption, raised⟩
    obtain ⟨result, whole, failure, residue⟩ := setPhysicalLink_failure changed done
    rw [whole]
    refine ⟨rfl, sparedOf fun interruption raised => (raises ⟨interruption, raised⟩).elim, ?_, ?_,
      ?_⟩
    · intro _ settled
      have none : left = .none := by
        have empty := residue settled _ rfl
        simpa using empty
      refine ⟨?_, ?_⟩
      · rw [targetPort]
        simpa [middle] using holds none
      · rw [peerPort]
        exact peerPresent
    · rw [failure, ends]
      exact ⟨nofun, nofun⟩
    · rw [failure]
      nofun

/-- The shutdown of the target is confirmed and that of the peer is not: both are
compensated, the peer first. -/
theorem settles_of_peer_unconfirmed (apart : target.port ≠ peer.port)
    (targetEnds : targetScript.shutdown.ending false = .confirmed)
    (ends : peerScript.shutdown.ending false = .unconfirmed) :
    Settles target peer targetScript peerScript snapshots world
      ((setPhysicalLink [(target, targetScript), (peer, peerScript)] false
        snapshots).outcome world) := by
  obtain ⟨error, peerChanged⟩ := changeEndpoints_unconfirmed snapshots peer []
    (world.setPort target.port (targetScript.shutdown.portAfter false)) ends
  have changed := changeEndpoints_confirmed snapshots target [(peer, peerScript)] world targetEnds
  rw [peerChanged] at changed
  set down := world.setPort target.port (targetScript.shutdown.portAfter false)
  set middle := down.setPort peer.port (peerScript.shutdown.portAfter false)
  set half := middle.setPort peer.port (peerScript.compensated (snapshotOf snapshots peer))
  set after := half.setPort target.port
    (targetScript.compensated (snapshotOf snapshots target))
  have targetDown : half.port target.port =
      targetScript.shutdown.portAfter false (world.port target.port) := by
    rw [LinkWorld.port_setPort_of_ne _ apart, LinkWorld.port_setPort_of_ne _ apart,
      LinkWorld.port_setPort_same]
  have targetPort : after.port target.port = targetScript.compensated (snapshotOf snapshots target)
      (targetScript.shutdown.portAfter false (world.port target.port)) := by
    rw [LinkWorld.port_setPort_same, targetDown]
  have halfPort : half.port peer.port = peerScript.compensated (snapshotOf snapshots peer)
      (peerScript.shutdown.portAfter false (world.port peer.port)) := by
    rw [LinkWorld.port_setPort_same, LinkWorld.port_setPort_same,
      LinkWorld.port_setPort_of_ne _ apart.symm]
  have peerPort : after.port peer.port = half.port peer.port :=
    LinkWorld.port_setPort_of_ne _ apart.symm _
  have sparedOf : (∀ interruption, peerScript.startup.ending true ≠ .interrupted interruption) →
      (∀ interruption, targetScript.startup.ending true = .interrupted interruption →
        Restored target peer snapshots after) →
      SparedLink target peer targetScript peerScript snapshots world := by
    intro quiet both
    refine ⟨?_, ?_, ?_, fun _ _ => quiet, ?_⟩
    · rw [targetEnds]
      nofun
    · rw [ends]
      nofun
    · rw [targetEnds]
      nofun
    · intro _ _
      rw [← targetPort, ← halfPort, ← peerPort]
      exact both
  by_cases raises : ∃ interruption, peerScript.startup.ending true = .interrupted interruption
  · obtain ⟨interruption, raised⟩ := raises
    obtain ⟨result, whole, -, -⟩ := setPhysicalLink_failure changed
      (compensate_interrupted snapshots peer [(target, targetScript)] middle raised)
    rw [whole]
    refine ⟨rfl, by rw [ends]; nofun, ?_, ?_⟩
    · intro spared
      exact (spared.peerStartup targetEnds ends interruption raised).elim
    · intro restored
      have up : (half.port target.port).adminUp = true := restored.1.1
      rw [targetDown,
        AdminScript.adminUp_portAfter (AdminScript.lands_of_confirmed targetEnds)] at up
      cases up
  · have quiet : ∀ interruption, peerScript.startup.ending true ≠ .interrupted interruption :=
      fun interruption raised => raises ⟨interruption, raised⟩
    obtain ⟨peerLeft, peerDone, peerHolds⟩ :=
      compensate_attempted snapshots peer [(target, targetScript)] middle quiet
    by_cases targetRaises :
        ∃ interruption, targetScript.startup.ending true = .interrupted interruption
    · obtain ⟨interruption, raised⟩ := targetRaises
      rw [compensate_interrupted snapshots target [] half raised] at peerDone
      obtain ⟨result, whole, -, -⟩ := setPhysicalLink_failure changed peerDone
      rw [whole]
      refine ⟨rfl, by rw [ends]; nofun, ?_, fun restored => sparedOf quiet fun _ _ => restored⟩
      intro spared
      have both := spared.targetLast targetEnds ends interruption raised
      rw [← targetPort, ← halfPort, ← peerPort] at both
      exact both
    · obtain ⟨left, done, holds⟩ := compensate_attempted snapshots target [] half
        fun interruption raised => targetRaises ⟨interruption, raised⟩
      rw [done] at peerDone
      obtain ⟨result, whole, failure, residue⟩ := setPhysicalLink_failure changed peerDone
      rw [whole]
      refine ⟨rfl, sparedOf quiet fun interruption raised =>
        (targetRaises ⟨interruption, raised⟩).elim, ?_, ?_, ?_⟩
      · intro _ settled
        have empty := residue settled _ rfl
        rw [List.append_eq_nil_iff] at empty
        have peerNone : peerLeft = none := by simpa using empty.1
        have targetNone : left = none := by simpa using empty.2
        refine ⟨?_, ?_⟩
        · have back := holds targetNone
          rw [targetDown, ← targetPort] at back
          exact back
        · have back := peerHolds peerNone
          rw [← LinkWorld.port_setPort_same middle peer.port
            (peerScript.compensated (snapshotOf snapshots peer)), ← peerPort] at back
          exact back
      · rw [failure, ends]
        exact ⟨nofun, nofun⟩
      · rw [failure]
        nofun

/-- The shutdown of the target is confirmed and that of the peer is interrupted. -/
theorem settles_of_peer_interrupted (apart : target.port ≠ peer.port)
    (targetEnds : targetScript.shutdown.ending false = .confirmed) {interruption : Interruption}
    (ends : peerScript.shutdown.ending false = .interrupted interruption) :
    Settles target peer targetScript peerScript snapshots world
      ((setPhysicalLink [(target, targetScript), (peer, peerScript)] false
        snapshots).outcome world) := by
  have changed := changeEndpoints_confirmed snapshots target [(peer, peerScript)] world targetEnds
  rw [changeEndpoints_interrupted _ _ _ _ ends] at changed
  rw [setPhysicalLink_raised changed]
  refine ⟨rfl, by rw [ends]; nofun, ?_, ?_⟩
  · intro spared
    exact (spared.peerShutdown targetEnds interruption ends).elim
  · intro restored
    have up := restored.1.1
    rw [LinkWorld.port_setPort_of_ne _ apart, LinkWorld.port_setPort_same,
      AdminScript.adminUp_portAfter (AdminScript.lands_of_confirmed targetEnds)] at up
    cases up

/-- Both shutdowns are confirmed. -/
theorem settles_of_confirmed (apart : target.port ≠ peer.port)
    (targetEnds : targetScript.shutdown.ending false = .confirmed)
    (ends : peerScript.shutdown.ending false = .confirmed) :
    Settles target peer targetScript peerScript snapshots world
      ((setPhysicalLink [(target, targetScript), (peer, peerScript)] false
        snapshots).outcome world) := by
  have changed := changeEndpoints_confirmed snapshots target [(peer, peerScript)] world targetEnds
  rw [changeEndpoints_confirmed _ _ _ _ ends] at changed
  obtain ⟨result, whole, success⟩ := setPhysicalLink_success changed
  rw [whole]
  refine ⟨rfl, ⟨?_, ?_, ?_, ?_, ?_⟩, ?_, ?_, ?_⟩
  · rw [targetEnds]
    nofun
  · rw [ends]
    nofun
  · rw [targetEnds]
    nofun
  · rw [ends]
    nofun
  · rw [ends]
    nofun
  · intro failure
    rw [success] at failure
    cases failure
  · exact ⟨fun _ => ⟨targetEnds, ends⟩, fun _ => success⟩
  · intro _
    rw [LinkWorld.port_setPort_of_ne _ apart, LinkWorld.port_setPort_same]
    exact AdminScript.adminUp_portAfter (AdminScript.lands_of_confirmed targetEnds) _

/-- How `_set_physical_link` ends when it shuts a link down. -/
theorem settles (targetScript peerScript : EndpointScript) (snapshots : Option Snapshots)
    (apart : target.port ≠ peer.port)
    (peerPresent : (world.port peer.port).Holds (snapshotOf snapshots peer)) :
    Settles target peer targetScript peerScript snapshots world
      ((setPhysicalLink [(target, targetScript), (peer, peerScript)] false
        snapshots).outcome world) := by
  rcases targetEnds : targetScript.shutdown.ending false with _ | _ | interruption
  · rcases ends : peerScript.shutdown.ending false with _ | _ | interruption
    · exact settles_of_confirmed apart targetEnds ends
    · exact settles_of_peer_unconfirmed apart targetEnds ends
    · exact settles_of_peer_interrupted apart targetEnds ends
  · exact settles_of_unconfirmed apart peerPresent targetEnds
  · exact settles_of_interrupted targetEnds

end Physical

end LinkHandler

end NetOpsBench
