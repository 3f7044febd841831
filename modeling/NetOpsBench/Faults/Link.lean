import Mathlib.Logic.Function.Basic
import NetOpsBench.Faults.Services

/-!
# Link faults

`LinkHandler` of `netopsbench/platform/faults/handlers/link.py`. The two endpoints of a link
are ports of devices; what the environment does to the commands and the waits of one call is
a script, one record for each place of the code that runs a command.
-/

namespace NetOpsBench

/-! ## Ports -/

/-- A port, as `ip` addresses it in the container of a device. -/
structure Port : Type where
  device : String
  linuxIf : String
  deriving DecidableEq, Repr

/-- A route, with the keys of `ip -j route show` that the handler reads. -/
structure Route : Type where
  dst : Option String := none
  gateway : Option String := none
  dev : Option String := none
  table : Option String := none
  protocol : Option String := none
  metric : Option Nat := none
  deriving DecidableEq, Repr

namespace Route

/-- `str(route.get(key) or default)` -/
def text (value : Option String) (default : String) : String := Text.either (value.getD "") default

def destination (route : Route) : String := text route.dst "default"

/-- `_route_identity` -/
def identity (route : Route) : String × String × String × String :=
  (route.destination, text route.gateway "", text route.dev "", text route.table "main")

/-- The routes after `ip route replace`: the route takes the place of one of the same
destination and metric. The kernel shows it as a route that was set by hand. -/
def replaceIn (route : Route) (routes : List Route) : List Route :=
  routes.filter (fun other =>
    ¬ (other.destination = route.destination ∧ other.metric = route.metric)) ++
    [{ route with protocol := some "boot" }]

end Route

/-- What is true of a port. The kernel adds its connected routes when the port goes up and
drops every route of the port when it goes down. -/
structure PortState : Type where
  adminUp : Bool
  routes : List Route
  connected : List Route

namespace PortState

def setAdmin (enabled : Bool) (state : PortState) : PortState :=
  if state.adminUp = enabled then state
  else { state with adminUp := enabled, routes := if enabled then state.connected else [] }

/-- The routes that `_snapshot_client_routes` keeps. -/
def configured (state : PortState) : List Route :=
  state.routes.filter fun route => Route.text route.protocol "" ≠ "kernel"

@[simp] theorem adminUp_setAdmin (enabled : Bool) (state : PortState) :
    (state.setAdmin enabled).adminUp = enabled := by
  unfold setAdmin
  split
  · assumption
  · rfl

end PortState

/-- The admin state of an endpoint before the injection. -/
structure LinkStateRow : Type where
  device : String
  interface : String
  adminUp : Option Bool
  deriving DecidableEq, Repr

/-- The keys of a link fault beside those of every fault. -/
structure LinkMetadata : Type where
  linuxInterface : Option String := none
  container : Option String := none
  peerDevice : Option String := none
  peerInterface : Option String := none
  peerLinuxInterface : Option String := none
  routeSnapshots : Option (Dict String (List Route)) := none
  originalState : Option (List LinkStateRow) := none
  downTime : Option Int := none
  upTime : Option Int := none
  taskId : Option String := none
  orchestration : Option String := none

structure LinkWorld : Type where
  port : Port → PortState
  tracker : FaultTracker LinkMetadata

namespace LinkWorld

def setPort (world : LinkWorld) (port : Port) (f : PortState → PortState) : LinkWorld :=
  { world with port := Function.update world.port port (f (world.port port)) }

/-- A change of the tracker. -/
def record (world : LinkWorld)
    (f : FaultTracker LinkMetadata → FaultTracker LinkMetadata) : LinkWorld :=
  { world with tracker := f world.tracker }

@[simp] theorem port_setPort_same (world : LinkWorld) (port : Port) (f : PortState → PortState) :
    (world.setPort port f).port port = f (world.port port) := Function.update_self ..

theorem port_setPort_of_ne (world : LinkWorld) {port other : Port} (ne : other ≠ port)
    (f : PortState → PortState) : (world.setPort port f).port other = world.port other :=
  Function.update_of_ne ne ..

end LinkWorld

/-! ## The script of a call -/

/-- One turn of a convergence wait that begins before its deadline: what `ip link show`
answers, whether the answer comes before the deadline, whether a delay is left, and whether
the sleep raises. -/
structure Poll : Type where
  shown : CommandResult
  inTime : Bool := true
  delayLeft : Bool := true
  interruption : Option Interruption := none

/-- `_set_link_admin_state`: the SONiC command, the fallback, and the turns of the wait. -/
structure AdminScript : Type where
  configCmd : Mutation
  fallback : Mutation
  polls : List Poll

/-- What `ip -j route show` answers: it fails, its output is no JSON, or it shows the routes. -/
inductive RouteRead : Type where
  | failed (result : CommandResult) (nonzero : result.returncode ≠ 0)
  | invalid (message : String)
  | shown

/-- The routes that a readback shows; a failed one shows none. -/
def RouteRead.identities (read : RouteRead) (state : PortState) :
    List (String × String × String × String) :=
  match read with
  | .shown => state.routes.map Route.identity
  | _ => []

/-- `_restore_client_routes`: the read, the command for each route, and the readback. -/
structure RestoreScript : Type where
  current : RouteRead
  replace : Route → Mutation
  verify : RouteRead

structure EndpointScript : Type where
  shutdown : AdminScript
  startup : AdminScript
  restore : RestoreScript

/-- The script of an injection; `timeNs` is the clock reading that names a controller. -/
structure LinkScript : Type where
  targetHealth : CommandResult
  peerHealth : CommandResult
  targetRoutes : RouteRead
  peerRoutes : RouteRead
  target : EndpointScript
  peer : EndpointScript
  timeNs : Nat := 0

/-! ## `LinkHandler` -/

/-- The tuple of `_endpoint`; its container is the one of its device. -/
structure Endpoint (ctx : FaultRuntimeContext) : Type where
  device : String
  container : String
  sonicIf : String
  linuxIf : String
  known : ctx.containerName device = some container

namespace Endpoint

variable {ctx : FaultRuntimeContext}

def port (endpoint : Endpoint ctx) : Port := ⟨endpoint.device, endpoint.linuxIf⟩

/-- `f"{device}:{linux_if}"` -/
def key (endpoint : Endpoint ctx) : String := endpoint.device ++ ":" ++ endpoint.linuxIf

/-- `f"{device}:{sonic_if}"` -/
def label (endpoint : Endpoint ctx) : String := endpoint.device ++ ":" ++ endpoint.sonicIf

end Endpoint

/-- The result of a change of one endpoint. -/
structure StepResult : Type where
  success : Bool
  error : Option String
  deriving DecidableEq, Repr

/-- `f"{value}"` of an optional text -/
def showOptional (text : Option String) : String := text.getD "None"

namespace LinkHandler

/-- `_admin_up` -/
def adminUp (result : CommandResult) : Option Bool :=
  let output := result.stdout.toList
  if result.returncode ≠ 0 ∨ '<' ∉ output ∨ '>' ∉ output then none
  else
    let flags := ((output.dropWhile (· ≠ '<')).drop 1).takeWhile (· ≠ '>')
    if flags = [] then none
    else some (decide (['U', 'P'] ∈ flags.splitOn ','))

/-- The loop of `_set_link_admin_state`: the last answer, and whether it shows the state. -/
def awaitAdminState (enabled : Bool) (result : CommandResult) :
    List Poll → CommandResult → Except Interruption (CommandResult × Bool)
  | [], state => .ok (state, false)
  | poll :: polls, _ =>
      if poll.inTime ∧ adminUp poll.shown = some enabled then .ok (poll.shown, true)
      else if result.returncode ≠ 0 ∨ ¬ poll.delayLeft then .ok (poll.shown, false)
      else
        match poll.interruption with
        | some interruption => .error interruption
        | none => awaitAdminState enabled result polls poll.shown

section Calls

variable {ctx : FaultRuntimeContext}

/-- The effect of an admin command on its port. -/
abbrev adminEffect (port : Port) (enabled : Bool) (world : LinkWorld) : LinkWorld :=
  world.setPort port (PortState.setAdmin enabled)

/-- The SONiC command of `_set_link_admin_state`, and its fallback. -/
def adminCommands (script : AdminScript) (endpoint : Endpoint ctx) (enabled : Bool) :
    Program LinkWorld Raised CommandResult := do
  let result ← script.configCmd.run (adminEffect endpoint.port enabled)
  if result.returncode ≠ 0 then script.fallback.run (adminEffect endpoint.port enabled)
  else pure result

def setLinkAdminState (script : AdminScript) (endpoint : Endpoint ctx) (enabled : Bool) :
    Program LinkWorld Raised StepResult := do
  let result ← adminCommands script endpoint enabled
  let (state, stateMatches) ← Program.ofExcept
    ((awaitAdminState enabled result script.polls result).mapError Raised.interrupted)
  let success := decide (result.returncode = 0 ∧ stateMatches)
  let detail := Text.strip (Text.either result.stderr (Text.either result.stdout
    (Text.either state.stderr state.stdout)))
  let unreached := endpoint.label ++ " did not reach " ++ (if enabled then "up" else "down") ++
    " state"
  pure ⟨success, if success then none else some (Text.either detail unreached)⟩

/-- `_healthy_link_state`: the rows, and whether both endpoints are admin up. -/
def healthyLinkState (endpoints : Endpoint ctx × Endpoint ctx) (target peer : CommandResult) :
    List LinkStateRow × StepResult :=
  let states := [⟨endpoints.1.device, endpoints.1.sonicIf, adminUp target⟩,
    ⟨endpoints.2.device, endpoints.2.sonicIf, adminUp peer⟩]
  let healthy := states.all fun row => row.adminUp = some true
  (states, ⟨healthy, if healthy then none else
    some "Both link endpoints must be readable and admin up before injection"⟩)

variable (ctx) in
/-- `_endpoint` -/
def endpoint (device interface : String) : Except Raised (Endpoint ctx) :=
  match known : ctx.containerName device with
  | none => .error (.valueError ("Unknown device: " ++ device))
  | some container =>
      .ok ⟨device, container, ctx.resolveSonic interface, ctx.resolveLinux interface, known⟩

/-- `_snapshot_client_routes` -/
def snapshotClientRoutes (read : RouteRead) (endpoint : Endpoint ctx) :
    Program LinkWorld Raised (List Route) :=
  if (ctx.manifest.device endpoint.device).map Device.role ≠ some .client then pure []
  else
    match read with
    | .failed result _ => throw (.runtimeError
        (Text.either result.detail ("failed to snapshot routes for " ++ endpoint.key)))
    | .invalid message => throw (.runtimeError
        ("invalid route snapshot for " ++ endpoint.key ++ ": " ++ message))
    | .shown => do
        let world ← get
        pure (world.port endpoint.port).configured

/-- The commands of `_restore_client_routes`, and the errors of those that fail. -/
def replaceRoutes (script : RestoreScript) (endpoint : Endpoint ctx) :
    List Route → Program LinkWorld Raised (List String)
  | [] => pure []
  | route :: routes => do
      let result ← (script.replace route).run fun world : LinkWorld =>
        world.setPort endpoint.port fun state =>
          { state with routes := route.replaceIn state.routes }
      let errors ← replaceRoutes script endpoint routes
      if result.returncode ≠ 0 then
        pure (Text.either result.detail ("failed to restore " ++ route.destination) :: errors)
      else
        pure errors

/-- `_restore_client_routes` -/
def restoreClientRoutes (script : RestoreScript) (endpoint : Endpoint ctx) (routes : List Route) :
    Program LinkWorld Raised StepResult :=
  if routes = [] then pure ⟨true, none⟩
  else
    match script.current with
    | .failed result _ => pure
        ⟨false, some (Text.either result.detail ("failed to read routes for " ++ endpoint.key))⟩
    | .invalid message => pure
        ⟨false, some ("invalid route readback for " ++ endpoint.key ++ ": " ++ message)⟩
    | .shown => do
        let before ← get
        let currentKeys := (before.port endpoint.port).routes.map Route.identity
        let failures ← replaceRoutes script endpoint
          (routes.filter fun route => route.identity ∉ currentKeys)
        let after ← get
        let restoredKeys := script.verify.identities (after.port endpoint.port)
        let missing := routes.filter fun route => route.identity ∉ restoredKeys
        let errors := failures ++ (if missing = [] then [] else
          ["missing route readback: " ++ Text.join ", " (missing.map Route.destination)])
        pure ⟨decide (errors = []), Text.nonempty (Text.join "; " errors)⟩

/-- The endpoints of a link, the one that an interface names first. -/
def orientLink (ctx : FaultRuntimeContext) (device interface : String) (link : Link) :
    Option (LinkEndpoint × LinkEndpoint) :=
  let named := fun endpoint : LinkEndpoint =>
    endpoint.device = device ∧ ctx.resolveLinux endpoint.interface = ctx.resolveLinux interface
  if named link.endpoints.1 then some link.endpoints
  else if named link.endpoints.2 then some (link.endpoints.2, link.endpoints.1)
  else none

variable (ctx) in
/-- `_link_endpoints` -/
def linkEndpoints (device interface : String) : Except Raised (Endpoint ctx × Endpoint ctx) :=
  match ctx.manifest.links.findSome? (orientLink ctx device interface) with
  | none => .error (.valueError
      ("Interface is not a topology link endpoint: " ++ device ++ ":" ++ interface))
  | some (own, peer) => do
      let target ← endpoint ctx device own.interface
      let peer ← endpoint ctx peer.device peer.interface
      pure (target, peer)

abbrev Snapshots : Type := Dict String (List Route)

/-- `(route_snapshots or {}).get(f"{device}:{linux_if}", [])` -/
def snapshotOf (snapshots : Option Snapshots) (endpoint : Endpoint ctx) : List Route :=
  ((snapshots.bind fun dict => dict.get endpoint.key)).getD []

/-- The first loop of `_set_physical_link`: the attempted endpoints and the errors. Shutting
down stops at the first failure. -/
def changeEndpoints (enabled : Bool) (snapshots : Option Snapshots) :
    List (Endpoint ctx × EndpointScript) →
      Program LinkWorld Raised (List (Endpoint ctx × EndpointScript) × List String)
  | [] => pure ([], [])
  | (endpoint, script) :: rest => do
      let result ← setLinkAdminState (if enabled then script.startup else script.shutdown)
        endpoint enabled
      if result.success then
        let restored ← if enabled then
            restoreClientRoutes script.restore endpoint (snapshotOf snapshots endpoint)
          else pure ⟨true, none⟩
        let (attempted, errors) ← changeEndpoints enabled snapshots rest
        if restored.success then pure ((endpoint, script) :: attempted, errors)
        else pure ((endpoint, script) :: attempted,
          (endpoint.label ++ ": " ++ showOptional restored.error) :: errors)
      else
        let error := endpoint.label ++ ": " ++
          Text.either (result.error.getD "") "state change failed"
        if enabled then
          let (attempted, errors) ← changeEndpoints enabled snapshots rest
          pure ((endpoint, script) :: attempted, error :: errors)
        else
          pure ([(endpoint, script)], [error])

/-- The compensation of one attempted endpoint: nothing, or its error. -/
def compensateEndpoint (snapshots : Option Snapshots) (endpoint : Endpoint ctx)
    (script : EndpointScript) : Program LinkWorld Raised (Option String) := do
  let compensation ← setLinkAdminState script.startup endpoint true
  if compensation.success then
    let restored ← restoreClientRoutes script.restore endpoint (snapshotOf snapshots endpoint)
    if restored.success then pure none
    else pure (some ("compensation " ++ endpoint.label ++ ": " ++ showOptional restored.error))
  else
    pure (some ("compensation " ++ endpoint.label ++ ": " ++ showOptional compensation.error))

/-- The compensation loop of `_set_physical_link`. -/
def compensate (snapshots : Option Snapshots) :
    List (Endpoint ctx × EndpointScript) → Program LinkWorld Raised (List String)
  | [] => pure []
  | (endpoint, script) :: rest => do
      let error ← compensateEndpoint snapshots endpoint script
      let errors ← compensate snapshots rest
      pure (error.toList ++ errors)

/-- The result of `_set_physical_link`. -/
structure PhysicalResult : Type where
  success : Bool
  error : Option String
  compensated : Option Bool
  residualMutation : Bool
  deriving DecidableEq, Repr

/-- `_set_physical_link` -/
def setPhysicalLink (endpoints : List (Endpoint ctx × EndpointScript)) (enabled : Bool)
    (snapshots : Option Snapshots) : Program LinkWorld Raised PhysicalResult := do
  let (attempted, errors) ← changeEndpoints enabled snapshots endpoints
  let compensationErrors ←
    if errors ≠ [] ∧ enabled = false then compensate snapshots attempted.reverse else pure []
  pure
    { success := decide (errors = [])
      error := Text.nonempty (Text.join "; " (errors ++ compensationErrors))
      compensated :=
        if enabled then none else some (decide (errors ≠ [] ∧ compensationErrors = []))
      residualMutation := if enabled then false else decide (compensationErrors ≠ []) }

/-- `{f"{device}:{linux_if}": self._snapshot_client_routes(endpoint) for …}` -/
def snapshotRoutes (script : LinkScript) (target peer : Endpoint ctx) :
    Program LinkWorld Raised Snapshots := do
  let targetRoutes ← snapshotClientRoutes script.targetRoutes target
  let peerRoutes ← snapshotClientRoutes script.peerRoutes peer
  pure (Dict.ofEntries [(target.key, targetRoutes), (peer.key, peerRoutes)])

/-- The fault that a link handler returns for a link that is not healthy. -/
def unhealthyLink (type device interface : String) (rows : List LinkStateRow)
    (state : StepResult) : ActiveFault LinkMetadata :=
  { type := type
    device := some device
    interface := some interface
    success := state.success
    error := state.error
    metadata := { originalState := some rows } }

variable (ctx) in
def injectLinkDown (script : LinkScript) (device interface : String) :
    Program LinkWorld Raised (ActiveFault LinkMetadata) := do
  let (target, peer) ← Program.ofExcept (linkEndpoints ctx device interface)
  let (rows, state) := healthyLinkState (target, peer) script.targetHealth script.peerHealth
  if state.success then
    let snapshots ← snapshotRoutes script target peer
    let result ← setPhysicalLink [(target, script.target), (peer, script.peer)] false
      (some snapshots)
    let faultInfo : ActiveFault LinkMetadata :=
      { type := "link_down"
        device := some device
        interface := some target.sonicIf
        success := result.success
        error := result.error
        metadata :=
          { linuxInterface := some target.linuxIf
            container := some target.container
            peerDevice := some peer.device
            peerInterface := some peer.sonicIf
            peerLinuxInterface := some peer.linuxIf
            routeSnapshots := some snapshots
            originalState := some rows } }
    if result.success then
      modify fun world : LinkWorld => world.record fun tracker => tracker.track faultInfo
    else if result.residualMutation then
      modify fun world : LinkWorld => world.record fun tracker => tracker.trackResidual faultInfo
        (Text.either (faultInfo.error.getD "") "link compensation failed")
    pure faultInfo
  else
    pure (unhealthyLink "link_down" device interface rows state)

/-- The check of `PeriodicController.__init__`. -/
def periodicController (downTime upTime : Int) : Except Raised BackgroundControl :=
  if min downTime upTime ≤ 0 then .error (.valueError "Periodic fault intervals must be positive")
  else .ok { downTime, upTime }

variable (ctx) in
def injectLinkFlapping (script : LinkScript) (device interface : String)
    (downTime upTime : Option Int) : Program LinkWorld Raised (ActiveFault LinkMetadata) := do
  let downTime := downTime.getD ctx.flappingDownSeconds
  let upTime := upTime.getD ctx.flappingUpSeconds
  let (target, peer) ← Program.ofExcept (linkEndpoints ctx device interface)
  let (rows, state) := healthyLinkState (target, peer) script.targetHealth script.peerHealth
  if state.success then
    let snapshots ← snapshotRoutes script target peer
    let controlId := "link-flap:" ++ device ++ ":" ++ target.sonicIf ++ ":" ++
      toString script.timeNs
    let initial ← setPhysicalLink [(target, script.target), (peer, script.peer)] false
      (some snapshots)
    if initial.success then
      let controller ← Program.ofExcept (periodicController downTime upTime)
      let faultInfo : ActiveFault LinkMetadata :=
        { type := "link_flapping"
          device := some device
          interface := some target.sonicIf
          success := true
          metadata :=
            { linuxInterface := some target.linuxIf
              peerDevice := some peer.device
              peerInterface := some peer.sonicIf
              peerLinuxInterface := some peer.linuxIf
              routeSnapshots := some snapshots
              downTime := some downTime
              upTime := some upTime
              taskId := some controlId
              orchestration := some "python"
              originalState := some rows } }
      modify fun world : LinkWorld => world.record fun tracker =>
        (tracker.registerBackgroundControl controlId controller).track faultInfo
      pure faultInfo
    else
      let faultInfo : ActiveFault LinkMetadata :=
        { type := "link_flapping"
          device := some device
          interface := some target.sonicIf
          success := false
          error := initial.error
          metadata := {} }
      if initial.residualMutation then
        modify fun world : LinkWorld => world.record fun tracker =>
          tracker.trackResidual faultInfo
            (Text.either (faultInfo.error.getD "") "link-flapping compensation failed")
      pure faultInfo
  else
    pure (unhealthyLink "link_flapping" device interface rows state)

end Calls

end LinkHandler

end NetOpsBench
