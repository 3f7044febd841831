import NetOpsBench.Faults.Transaction
import NetOpsBench.Utils.InterfaceNames

/-!
# Recoveries of a link

`recover_link_down` and `recover_link_flapping` of `link.py`, how the fault registry calls them
for a tracked fault (`link_specs.py`), and `FaultInjector.recover_all` (`injector.py`). A recovery
whose commands succeed leaves each port up, with the routes of its snapshot put back
(`EndpointScript.raised`).
-/

namespace NetOpsBench

open Program

/-! ## Recoveries -/

/-- `stop_background`; `joined` says that the thread ends before its timeout. -/
def FaultTracker.stopBackground {μ : Type} (joined : Bool) (controlId : String)
    (tracker : FaultTracker μ) : Bool × FaultTracker μ :=
  match tracker.backgroundFaultControls.get controlId with
  | none => (true, tracker)
  | some control =>
      let controls := tracker.backgroundFaultControls
      if joined then
        (true, { tracker with backgroundFaultControls := controls.erase controlId })
      else
        (false, { tracker with
          backgroundFaultControls := controls.set controlId { control with stopRequested := true } })

/-- The script of a recovery of one fault. -/
structure RecoveryScript : Type where
  target : EndpointScript
  peer : EndpointScript
  joined : Bool := true

/-- What a recovery returns. -/
structure Recovery : Type where
  type : String
  device : Option String := none
  interface : Option String := none
  recovered : Bool
  error : Option String
  deriving DecidableEq, Repr

namespace LinkHandler

section Handler

variable (ctx : FaultRuntimeContext)

/-- The peer that a fault names, or else the one of the topology. -/
def recoveryPeer (discovered : Endpoint ctx) (peerDevice peerInterface : Option String) :
    Except Raised (Endpoint ctx) :=
  match peerDevice.bind Text.nonempty, peerInterface.bind Text.nonempty with
  | some device, some interface => endpoint ctx device interface
  | _, _ => .ok discovered

/-- What both recoveries do: the endpoints are put up, and then the fault is no longer tracked. -/
def recoverLink (type : String) (script : RecoveryScript) (device interface : String)
    (peerDevice peerInterface : Option String) (routeSnapshots : Option Snapshots) :
    Program LinkWorld Raised Recovery := do
  let (target, discovered) ← Program.ofExcept (linkEndpoints ctx device interface)
  let peer ← Program.ofExcept (recoveryPeer ctx discovered peerDevice peerInterface)
  let result ← setPhysicalLink [(target, script.target), (peer, script.peer)] true routeSnapshots
  if result.success then
    modify fun world : LinkWorld => world.record fun tracker => tracker.removeFaults fun fault =>
      decide (fault.type = type ∧ fault.device = some device ∧
        fault.interface = some target.sonicIf)
  pure
    { type := type
      device := some device
      interface := some target.sonicIf
      recovered := result.success
      error := result.error }

def recoverLinkDown (script : RecoveryScript) (device interface : String)
    (peerDevice peerInterface : Option String) (routeSnapshots : Option Snapshots) :
    Program LinkWorld Raised Recovery :=
  recoverLink ctx "link_down" script device interface peerDevice peerInterface routeSnapshots

def recoverLinkFlapping (script : RecoveryScript) (device interface : String)
    (taskId peerDevice peerInterface : Option String) (routeSnapshots : Option Snapshots) :
    Program LinkWorld Raised Recovery := do
  let stopped ← match taskId.bind Text.nonempty with
    | none => pure true
    | some controlId => do
        let world ← get
        let (stopped, tracker) := world.tracker.stopBackground script.joined controlId
        modify fun world : LinkWorld => world.record fun _ => tracker
        pure stopped
  if stopped then
    recoverLink ctx "link_flapping" script device interface peerDevice peerInterface routeSnapshots
  else
    pure
      { type := "link_flapping"
        device := some device
        interface := some interface
        recovered := false
        error := some "Periodic controller still running" }

/-! ## The registry -/

/-- `fault[key]`; a missing key is an error like the others. -/
def requireKey (key : String) : Option String → Except Raised String
  | some value => .ok value
  | none => .error (.valueError ("'" ++ key ++ "'"))

/-- `_recover_link_down_fault` -/
def recoverLinkDownFault (script : RecoveryScript) (fault : ActiveFault LinkMetadata) :
    Program LinkWorld Raised Recovery := do
  let device ← Program.ofExcept (requireKey "device" fault.device)
  let interface ← Program.ofExcept (requireKey "interface" fault.interface)
  recoverLinkDown ctx script device interface fault.metadata.peerDevice
    fault.metadata.peerInterface fault.metadata.routeSnapshots

/-- `_recover_link_flapping_fault` -/
def recoverLinkFlappingFault (script : RecoveryScript) (fault : ActiveFault LinkMetadata) :
    Program LinkWorld Raised Recovery := do
  let device ← Program.ofExcept (requireKey "device" fault.device)
  let interface ← Program.ofExcept (requireKey "interface" fault.interface)
  recoverLinkFlapping ctx script device interface fault.metadata.taskId fault.metadata.peerDevice
    fault.metadata.peerInterface fault.metadata.routeSnapshots

variable (others : ActiveFault LinkMetadata → Program LinkWorld Raised Recovery)

/-- The recovery that the registry has for a fault; `others` are those of the other types. -/
def recoverActiveFault (script : RecoveryScript) (fault : ActiveFault LinkMetadata) :
    Program LinkWorld Raised Recovery :=
  if fault.type = "link_down" then recoverLinkDownFault ctx script fault
  else if fault.type = "link_flapping" then recoverLinkFlappingFault ctx script fault
  else others fault

/-- One turn of the loop of `recover_all`. -/
def recoverTracked (script : RecoveryScript) (fault : ActiveFault LinkMetadata) :
    Program LinkWorld Raised Recovery :=
  tryCatch (recoverActiveFault ctx others script fault) fun error =>
    pure { type := fault.type, recovered := false, error := some error.message }

/-- The loop of `recover_all`: the results, and the faults that remain. -/
def recoverEach (scripts : Nat → RecoveryScript) :
    Nat → List (ActiveFault LinkMetadata) →
      Program LinkWorld Raised (List Recovery × List (ActiveFault LinkMetadata))
  | _, [] => pure ([], [])
  | index, fault :: faults => do
      let result ← recoverTracked ctx others (scripts index) fault
      let (results, remaining) ← recoverEach scripts (index + 1) faults
      pure (result :: results, if result.recovered then remaining else fault :: remaining)

/-- `recover_all` -/
def recoverAll (scripts : Nat → RecoveryScript) : Program LinkWorld Raised (List Recovery) := do
  let world ← get
  let (results, remaining) ← recoverEach ctx others scripts 0 world.tracker.activeFaults
  modify fun world : LinkWorld => world.record fun tracker =>
    { tracker with activeFaults := remaining }
  pure results

end Handler

end LinkHandler

/-! ## A recovery whose commands succeed -/

/-- Every command that puts an endpoint up succeeds, and every answer is read. -/
structure EndpointScript.Obeys (script : EndpointScript) : Prop where
  startup : script.startup.ending true = .confirmed
  current : script.restore.current = .shown
  replace : ∀ route, (script.restore.replace route).result.returncode = 0
  verify : script.restore.verify = .shown

structure RecoveryScript.Obeys (script : RecoveryScript) : Prop where
  target : script.target.Obeys
  peer : script.peer.Obeys

/-- The routes of a snapshot that a port does not show. -/
def PortState.missing (state : PortState) (routes : List Route) : List Route :=
  routes.filter fun route => !(state.routes.map Route.identity).contains route.identity

/-- A port that was put up, with a `replace` for each route that it does not show. -/
def PortState.raised (routes : List Route) (state : PortState) : PortState :=
  let up := state.setAdmin true
  { up with
    routes := (up.missing routes).foldl (fun routes route => route.replaceIn routes) up.routes }

theorem RestoreScript.replaced_eq {script : RestoreScript}
    (replaces : ∀ route, (script.replace route).result.returncode = 0) (routes : List Route)
    (state : PortState) : script.replaced routes state =
      { state with
        routes := routes.foldl (fun routes route => route.replaceIn routes) state.routes } := by
  induction routes generalizing state with
  | nil => rfl
  | cons route routes ih =>
      rw [replaced, Mutation.after, if_pos ((script.replace route).reported (replaces route)), ih]
      rfl

theorem EndpointScript.Obeys.portAfter {script : EndpointScript} (obeys : script.Obeys)
    (routes : List Route) (state : PortState) :
    script.restore.portAfter routes (script.startup.portAfter true state) =
      state.raised routes := by
  rw [AdminScript.portAfter, if_pos (AdminScript.lands_of_confirmed obeys.startup),
    RestoreScript.portAfter, obeys.current]
  exact RestoreScript.replaced_eq obeys.replace _ _

namespace LinkHandler

variable {ctx : FaultRuntimeContext}

/-- Putting endpoints up raises each port, one after the other. -/
theorem changeEndpoints_obeys (snapshots : Option Snapshots)
    {endpoints : List (Endpoint ctx × EndpointScript)}
    (obeys : ∀ entry ∈ endpoints, entry.2.Obeys) (world : LinkWorld) :
    ∃ answer, (changeEndpoints true snapshots endpoints).outcome world =
      (.ok answer, endpoints.foldl (fun world entry => world.setPort entry.1.port
        (PortState.raised (snapshotOf snapshots entry.1))) world) := by
  induction endpoints generalizing world with
  | nil => exact ⟨([], []), rfl⟩
  | cons entry rest ih =>
      have here := obeys entry (List.mem_cons_self ..)
      obtain ⟨answer, done, ends⟩ := setLinkAdminState_outcome entry.2.startup entry.1 true world
      rw [here.startup] at ends
      obtain ⟨result, answerEq, success⟩ := ends
      subst answerEq
      obtain ⟨restored, readBack, -⟩ := restoreClientRoutes_outcome entry.2.restore entry.1
        (snapshotOf snapshots entry.1)
        (world.setPort entry.1.port (entry.2.startup.portAfter true))
      have raises : (world.setPort entry.1.port (entry.2.startup.portAfter true)).setPort
          entry.1.port (entry.2.restore.portAfter (snapshotOf snapshots entry.1)) =
          world.setPort entry.1.port (PortState.raised (snapshotOf snapshots entry.1)) := by
        rw [LinkWorld.setPort_setPort]
        exact world.setPort_congr _ (here.portAfter _ _)
      rw [raises] at readBack
      obtain ⟨⟨attempted, errors⟩, later⟩ := ih
        (fun other mem => obeys other (List.mem_cons_of_mem _ mem))
        (world.setPort entry.1.port (PortState.raised (snapshotOf snapshots entry.1)))
      rw [changeEndpoints, if_pos rfl, outcome_bind_ok done, if_pos success, if_pos rfl,
        outcome_bind_ok readBack, outcome_bind_ok later]
      dsimp only
      split
      · exact ⟨_, rfl⟩
      · exact ⟨_, rfl⟩

/-- A recovery puts both ports up, and only those. -/
theorem setPhysicalLink_obeys (snapshots : Option Snapshots) (target peer : Endpoint ctx)
    {script : RecoveryScript} (obeys : script.Obeys) (world : LinkWorld) :
    ∃ result, (setPhysicalLink [(target, script.target), (peer, script.peer)] true
        snapshots).outcome world =
      (.ok result, (world.setPort target.port
        (PortState.raised (snapshotOf snapshots target))).setPort peer.port
          (PortState.raised (snapshotOf snapshots peer))) := by
  have both : ∀ entry ∈ [(target, script.target), (peer, script.peer)], entry.2.Obeys := by
    intro entry mem
    rcases List.mem_cons.mp mem with rfl | later
    · exact obeys.target
    · rw [List.mem_singleton.mp later]
      exact obeys.peer
  obtain ⟨⟨attempted, errors⟩, changed⟩ := changeEndpoints_obeys snapshots both world
  have keepsGoing : ¬ (errors ≠ [] ∧ true = false) := fun down => Bool.noConfusion down.2
  unfold setPhysicalLink
  rw [outcome_bind_ok changed]
  dsimp only
  rw [if_neg keepsGoing]
  exact ⟨_, rfl⟩

end LinkHandler

end NetOpsBench
