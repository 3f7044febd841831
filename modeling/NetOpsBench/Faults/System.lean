import NetOpsBench.Faults.Services

/-!
# Device faults

`inject_device_down` of `netopsbench/platform/faults/handlers/system.py`: the node is stopped
with Containerlab, which parks its interfaces in a namespace, and the handler waits for both
states to settle. Reads of the environment may fail but do not lie.
-/

namespace NetOpsBench

/-- A container and the namespace that its interfaces are parked in. -/
structure ContainerState : Type where
  running : Bool
  parked : Bool
  deriving DecidableEq, Repr

/-- The keys of a device fault beside those of every fault. -/
structure DeviceMetadata : Type where
  container : Option String := none
  mode : Option String := none
  originalRunning : Option Bool
  parkingNamespace : Option String := none
  containerRunning : Option Bool := none
  parkingExists : Option Bool := none
  managementUnavailable : Option Bool := none
  controlPlaneUnavailable : Option Bool := none
  dataPlaneUnavailable : Option Bool := none
  retryable : Option Bool := none

structure SystemWorld : Type where
  container : String → ContainerState
  tracker : FaultTracker DeviceMetadata

namespace SystemWorld

def leave (world : SystemWorld) (container : String) (state : ContainerState) : SystemWorld :=
  { world with container := Function.update world.container container state }

@[simp] theorem container_leave (world : SystemWorld) (container : String)
    (state : ContainerState) : (world.leave container state).container container = state :=
  Function.update_self ..

end SystemWorld

namespace SystemHandler

/-- `container_is_running` -/
def containerIsRunning (result : CommandResult) : Option Bool :=
  if result.returncode ≠ 0 then none
  else
    let state := (Text.strip result.stdout).toLower
    if state = "true" then some true
    else if state = "false" then some false
    else none

/-- `_parking_namespace` -/
def parkingNamespace (container : String) : String := "clab-park-" ++ container

/-- `_parking_namespace_exists` -/
def parkingNamespaceExists (container : String) (result : CommandResult) : Option Bool :=
  if result.returncode ≠ 0 then none
  else some (decide (parkingNamespace container ∈ Text.firstWords result.stdout))

end SystemHandler

/-! ## The script of a call -/

/-- What `docker inspect` answers for each state of a container. -/
structure RunningRead : Type where
  shown : Bool → CommandResult
  faithful : ∀ running, SystemHandler.containerIsRunning (shown running) ≠ some (!running)

/-- What `ip netns list` answers with and without the namespace of a container. -/
structure ParkingRead (container : String) : Type where
  shown : Bool → CommandResult
  faithful : ∀ parked,
    SystemHandler.parkingNamespaceExists container (shown parked) ≠ some (!parked)

/-- The stop command: a success stops the node, a failure leaves anything. -/
structure StopCommand : Type where
  result : CommandResult
  left : ContainerState
  reported : result.returncode = 0 → left = ⟨false, true⟩

/-- One turn of the settle wait. -/
structure SettlePoll (container : String) : Type where
  running : RunningRead
  parking : ParkingRead container
  responsive : CommandResult
  interruption : Option Interruption := none

/-- The script of an injection; `last` is the turn that finds the deadline passed. -/
structure StopScript (container : String) : Type where
  original : RunningRead
  stop : StopCommand
  polls : List (SettlePoll container)
  last : SettlePoll container

/-! ## `SystemHandler` -/

namespace SystemHandler

variable {container : String}

/-- What a turn reads. -/
def observe (poll : SettlePoll container) (state : ContainerState) : Option Bool × Option Bool :=
  (containerIsRunning (poll.running.shown state.running),
    parkingNamespaceExists container (poll.parking.shown state.parked))

/-- `responsive_polls` after a turn -/
def responsivePolls (poll : SettlePoll container) (state : ContainerState) (count : Nat) : Nat :=
  if observe poll state = (some true, some false) ∧ poll.responsive.returncode = 0 then count + 1
  else 0

/-- `_settled_stop_state` -/
def settledStopState (state : ContainerState) (last : SettlePoll container) :
    List (SettlePoll container) → Nat → Except Interruption (Option Bool × Option Bool)
  | [], _ => .ok (observe last state)
  | poll :: polls, count =>
      if (observe poll state).1 = some false ∨ 3 ≤ responsivePolls poll state count then
        .ok (observe poll state)
      else
        match poll.interruption with
        | some interruption => .error interruption
        | none => settledStopState state last polls (responsivePolls poll state count)

def record (f : FaultTracker DeviceMetadata → FaultTracker DeviceMetadata) (world : SystemWorld) :
    SystemWorld :=
  { world with tracker := f world.tracker }

/-- The error of a stop that did not settle. -/
def stopError (container : String) (result : CommandResult) (running parking : Option Bool) :
    String :=
  let stateDetail := "container_running=" ++ Text.reprBool running ++ ", parking_namespace=" ++
    Text.quoted (parkingNamespace container) ++ ", parking_exists=" ++ Text.reprBool parking
  Text.join "; " ([result.detail, stateDetail].filter (· ≠ ""))

def injectDeviceDown (ctx : FaultRuntimeContext) (device : String)
    (script : ∀ container, StopScript container) :
    Program SystemWorld Raised (ActiveFault DeviceMetadata) :=
  match ctx.containerName device with
  | none => throw (.valueError ("Unknown device: " ++ device))
  | some container => do
      let before ← get
      let script := script container
      let originalRunning :=
        containerIsRunning (script.original.shown (before.container container).running)
      if originalRunning ≠ some true then
        pure
          { type := "device_down"
            device := some device
            success := false
            error := some
              "Device must be running before this fault can own its stop/start lifecycle"
            metadata := { originalRunning } }
      else
        modify fun world : SystemWorld => world.leave container script.stop.left
        let after ← get
        let (runningState, parkingExists) ← Program.ofExcept
          ((settledStopState (after.container container) script.last script.polls 0).mapError
            Raised.interrupted)
        let success := decide (runningState = some false ∧ parkingExists = some true)
        let error := if success then none
          else some (stopError container script.stop.result runningState parkingExists)
        let faultInfo : ActiveFault DeviceMetadata :=
          { type := "device_down"
            device := some device
            success := success
            error := error
            metadata :=
              { container := some container
                mode := some "containerlab_node_stop"
                originalRunning := originalRunning
                parkingNamespace := some (parkingNamespace container)
                containerRunning := runningState
                parkingExists := parkingExists
                managementUnavailable := some (runningState = some false)
                controlPlaneUnavailable := some (runningState = some false)
                dataPlaneUnavailable := some (parkingExists = some true) } }
        if success then
          modify (record fun tracker => tracker.track faultInfo)
          pure faultInfo
        else if runningState = some true ∧ parkingExists = some false then
          pure faultInfo
        else
          let faultInfo := { faultInfo with
            metadata := { faultInfo.metadata with retryable := some false } }
          modify (record fun tracker => tracker.trackResidual faultInfo
            (Text.either (error.getD "") "device-down state is inconsistent"))
          pure faultInfo

/-! ## The transaction law -/

/-- What a settled state says is true. -/
theorem settledStopState_faithful {state : ContainerState} {last : SettlePoll container}
    {polls : List (SettlePoll container)} {count : Nat} {seen : Option Bool × Option Bool}
    (settled : settledStopState state last polls count = .ok seen) :
    seen.1 ≠ some (!state.running) ∧ seen.2 ≠ some (!state.parked) := by
  induction polls generalizing count with
  | nil =>
      rw [settledStopState, Except.ok.injEq] at settled
      rw [← settled]
      exact ⟨last.running.faithful _, last.parking.faithful _⟩
  | cons poll polls ih =>
      unfold settledStopState at settled
      split at settled
      · rw [Except.ok.injEq] at settled
        rw [← settled]
        exact ⟨poll.running.faithful _, poll.parking.faithful _⟩
      · split at settled
        · cases settled
        · exact ih settled

end SystemHandler

/-- A running node whose interfaces are in place, and that no tracked fault is about. -/
structure SystemWorld.Healthy (world : SystemWorld) (device container : String) : Prop where
  running : world.container container = ⟨true, false⟩
  untracked : ∀ fault ∈ world.tracker.activeFaults, fault.device ≠ some device

/-- The law: the node runs with its interfaces, or the tracker holds a fault that names it. -/
def SystemWorld.Accounted (after : SystemWorld) (device container : String) : Prop :=
  after.container container = ⟨true, false⟩ ∨ ∃ fault ∈ after.tracker.activeFaults,
    fault.type = "device_down" ∧ fault.device = some device

/-- The settle wait is not interrupted, or the stop command has left the node as it was. -/
def StopScript.Spares {container : String} (script : StopScript container) : Prop :=
  SystemHandler.containerIsRunning (script.original.shown true) = some true →
    ∀ interruption, SystemHandler.settledStopState script.stop.left script.last script.polls 0 =
      .error interruption → script.stop.left = ⟨true, false⟩

namespace SystemHandler

open Program

/-- `inject_device_down` accounts for a healthy node exactly when its script spares the node. -/
theorem injectDeviceDown_accounted {ctx : FaultRuntimeContext} {device container : String}
    {script : ∀ container, StopScript container} {world : SystemWorld}
    (known : ctx.containerName device = some container) (healthy : world.Healthy device container) :
    SystemWorld.Accounted ((injectDeviceDown ctx device script).outcome world).2 device container ↔
      (script container).Spares := by
  unfold injectDeviceDown StopScript.Spares
  rw [known]
  dsimp only
  rw [outcome_bind_ok (outcome_get world), healthy.running]
  by_cases original : containerIsRunning ((script container).original.shown true) = some true
  · rw [if_neg (not_not.mpr original), outcome_bind_ok (outcome_modify _ _),
      outcome_bind_ok (outcome_get _), SystemWorld.container_leave]
    rcases settled : settledStopState (script container).stop.left (script container).last
      (script container).polls 0 with interruption | ⟨running, parking⟩
    · have raised : ∀ after, (Program.ofExcept (Except.mapError Raised.interrupted
          (.error interruption : Except Interruption (Option Bool × Option Bool))) :
          Program SystemWorld Raised _).outcome after = (.error (.interrupted interruption), after) :=
        fun _ => rfl
      rw [outcome_bind_error (raised _)]
      refine ⟨?_, ?_⟩
      · intro accounted _ _ _
        rcases accounted with same | ⟨fault, mem, -, named⟩
        · rw [SystemWorld.container_leave] at same
          exact same
        · exact (healthy.untracked fault mem named).elim
      · intro spares
        refine .inl ?_
        rw [SystemWorld.container_leave]
        exact spares original interruption rfl
    · have told := settledStopState_faithful settled
      have returned : ∀ after, (Program.ofExcept (Except.mapError Raised.interrupted
          (.ok (running, parking) : Except Interruption (Option Bool × Option Bool))) :
          Program SystemWorld Raised _).outcome after = (.ok (running, parking), after) :=
        fun _ => rfl
      rw [outcome_bind_ok (returned _)]
      refine ⟨fun _ _ _ => nofun, fun _ => ?_⟩
      dsimp only
      by_cases success : running = some false ∧ parking = some true
      · rw [if_pos (decide_eq_true success)]
        exact .inr ⟨_, List.mem_append_right _ (List.mem_singleton_self _), rfl, rfl⟩
      · rw [decide_eq_false success, if_neg Bool.false_ne_true]
        by_cases clean : running = some true ∧ parking = some false
        · rw [if_pos clean]
          refine .inl ((SystemWorld.container_leave ..).trans ?_)
          rw [clean.1, clean.2] at told
          rcases left : (script container).stop.left with ⟨isRunning, isParked⟩
          rw [left] at told
          cases isRunning <;> cases isParked <;> simp_all
        · rw [if_neg clean]
          exact .inr ⟨_, List.mem_append_right _ (List.mem_singleton_self _), rfl, rfl⟩
  · rw [if_pos original]
    exact ⟨fun _ read => (original read).elim, fun _ => .inl healthy.running⟩

end SystemHandler

end NetOpsBench
