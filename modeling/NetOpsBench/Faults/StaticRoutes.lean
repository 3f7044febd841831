import NetOpsBench.Faults.Impairment
import NetOpsBench.Lib.Sorting

/-!
# Static route faults

`StaticRouteHandler` of `netopsbench/platform/faults/handlers/routing_static.py`: a route into
`Null0`, and a route to a client that does not forward. A route that is there already, or a
configuration that cannot be read, stops an injection before it changes anything.
-/

namespace NetOpsBench

namespace StaticRouteHandler

open InjectionWorld

variable {δ : Type} (services : HandlerServices δ)

/-! ## Readbacks -/

/-- `" ".join(line.strip().split())` for the lines of the running configuration. -/
def runningConfig (device : String) : Program δ Raised (Option (List String)) := do
  let result ← vtysh services.shell services.ctx device ["show running-config"]
  if result.returncode ≠ 0 then pure none
  else pure (some ((Text.outputLines result.stdout).map Text.normalized))

/-- `_running_config_contains` -/
def runningConfigContains (device statement : String) : Program δ Raised (Option Bool) := do
  let config ← runningConfig services device
  pure (config.map fun lines => lines.contains (Text.normalized statement))

/-- `_running_config_has_route` -/
def runningConfigHasRoute (device target : String) : Program δ Raised (Option Bool) := do
  let config ← runningConfig services device
  pure (config.map fun lines => lines.any (Text.beginsWith ("ip route " ++ target ++ " ")))

/-- `_operational_route` -/
def operationalRoute (device target : String) : Program δ Raised (Option String) := do
  let result ← vtysh services.shell services.ctx device ["show ip route " ++ target]
  if result.returncode ≠ 0 then pure none
  else pure (some result.stdout)

/-- `\b(?:blackhole|discard|Null0)\b` in either case -/
def dropWord : Matching.Matcher :=
  Matching.followed (Matching.boundary services.isWord)
    (Matching.followed
      (Matching.anyOf (["blackhole", "discard", "null0"].map fun word =>
        Matching.exactly Matching.sameIgnoringCase word.toList))
      (Matching.boundary services.isWord))

/-- `\b(?:via\s+)?{nexthop}\b` -/
def nexthopWord (nexthop : String) : Matching.Matcher :=
  Matching.followed (Matching.boundary services.isWord)
    (Matching.followed
      (Matching.optional (Matching.followed (Matching.exactly (· == ·) "via".toList)
        (Matching.many Text.isSpace)))
      (Matching.followed (Matching.exactly (· == ·) nexthop.toList)
        (Matching.boundary services.isWord)))

/-- `_operational_blackhole_present` -/
def operationalBlackholePresent (device target : String) : Program δ Raised (Option Bool) := do
  let output ← operationalRoute services device target
  pure (output.map fun output =>
    Text.occursIn target output && Matching.found (dropWord services) output)

/-- `_operational_nexthop_present` -/
def operationalNexthopPresent (device target nexthop : String) :
    Program δ Raised (Option Bool) := do
  let output ← operationalRoute services device target
  pure (output.map fun output =>
    Text.occursIn target output && Matching.found (nexthopWord services nexthop) output)

/-- Two readbacks, the second only after the first has answered `expected`. -/
def bothShow (expected : Bool) (first second : Program δ Raised (Option Bool)) :
    Program δ Raised Bool := do
  let configured ← first
  if configured = some expected then do
    let operational ← second
    pure (decide (operational = some expected))
  else pure false

/-! ## Commands -/

/-- The configuration commands for a statement. -/
def configure (device statement : String) : Program δ Raised CommandResult :=
  vtysh services.shell services.ctx device ["configure terminal", statement, "end", "write memory"]

/-- A statement and its readbacks. -/
def configureVerified (device statement : String) (readback : Program δ Raised Bool) :
    Program δ Raised (CommandResult × Bool) := do
  let result ← configure services device statement
  if result.returncode = 0 then do
    let verified ← readback
    pure (result, verified)
  else pure (result, false)

/-- An existing or unreadable route of the target stops the injection. -/
def requireNoRoute (device target : String) : Program δ Raised PUnit := do
  let present ← runningConfigHasRoute services device target
  if present = some false then pure ⟨⟩
  else throw (.runtimeError "Cannot safely own an existing or unreadable static route")

/-- A recovery: the statement, its readbacks, and the faults that it removes. -/
def recoverRoute (type device statement : String) (readback : Program δ Raised Bool)
    (owns : HandlerFault → Bool) (remained : String) : Injecting δ HandlerRecovery := do
  let removed ← perform (configureVerified services device statement readback)
  record fun tracker => if removed.2 = true then tracker.removeFaults owns else tracker
  pure
    { type := some type
      recovered := removed.2
      error := if removed.2 = true then none else some (Text.either removed.1.stderr remained) }

/-- `_track_failed_compensation`, after which an injection ends. -/
def endFailed (fault : HandlerFault) (rollback : HandlerRecovery) : Injecting δ HandlerFault :=
  leaveFailed fault rollback.recovered
    (Text.either (rollback.error.getD "") "route compensation failed")

/-! ## Blackholes -/

def blackholeShown (expected : Bool) (device targetPrefix : String) : Program δ Raised Bool :=
  bothShow expected
    (runningConfigContains services device ("ip route " ++ targetPrefix ++ " Null0"))
    (operationalBlackholePresent services device targetPrefix)

def recoverBlackholeRoute (device targetPrefix : String) : Injecting δ HandlerRecovery := do
  let _ ← Program.ofExcept (containerOf services.ctx device)
  recoverRoute services "blackhole_route" device ("no ip route " ++ targetPrefix ++ " Null0")
    (blackholeShown services false device targetPrefix)
    (fun fault => decide (fault.type = "blackhole_route" ∧ fault.device = some device ∧
      fault.metadata.targetPrefix = some targetPrefix))
    "blackhole route remained in running config"

def blackholeFault (device targetPrefix : String) (configured : CommandResult × Bool) :
    HandlerFault :=
  { type := "blackhole_route"
    device := some device
    success := configured.2
    error := if configured.2 = true then none else some (Text.either configured.1.stderr
      ("blackhole route was not operational: ip route " ++ targetPrefix ++ " Null0"))
    metadata := { targetPrefix := some targetPrefix } }

def injectBlackholeRoute (device targetPrefix : String) : Injecting δ HandlerFault := do
  let _ ← Program.ofExcept (containerOf services.ctx device)
  perform (requireNoRoute services device targetPrefix)
  let configured ← perform (configureVerified services device
    ("ip route " ++ targetPrefix ++ " Null0") (blackholeShown services true device targetPrefix))
  let fault := blackholeFault device targetPrefix configured
  if fault.success = true then leaveVerified fault
  else do
    let rollback ← recoverBlackholeRoute services device targetPrefix
    endFailed fault rollback

/-! ## Where a wrong route may lead -/

/-- The clients with an address, by their switch and name. -/
def byPlace (clients : List Device) : List Device :=
  Sorting.sorted (fun a b =>
    decide ((a.attachedSwitch.getD "") < b.attachedSwitch.getD "" ∨
      (a.attachedSwitch.getD "" = b.attachedSwitch.getD "" ∧ a.name ≤ b.name))) clients

/-- `clients_by_leaf.get(device, [])` -/
def clientsOf (device : String) : List Device :=
  services.ctx.manifest.clients.filter fun client =>
    ((client.attachedSwitch.map Text.strip).bind Text.nonempty) == some device

/-- `text.split("/")[0]` -/
def hostPart (text : String) : String := String.ofList (text.toList.takeWhile (· ≠ '/'))

/-- `_pick_reachable_wrong_nexthop` -/
def pickReachableWrongNexthop (targetDevice targetIp : String) : Option String :=
  let candidates := services.ctx.manifest.clients.filter fun client =>
    (client.dataIp.bind Text.nonempty).any (· ≠ hostPart targetIp)
  if candidates = [] then none
  else
    let near := (clientsOf services targetDevice).filter fun client =>
      client.dataIp ≠ some (hostPart targetIp)
    ((Sorting.sorted (fun a b => decide (a.name ≤ b.name))
      (if near = [] then candidates else near)).head?.bind Device.dataIp).bind Text.nonempty

/-- `_pick_remote_client_host_route` -/
def pickRemoteClientHostRoute (targetDevice : String) : Option String :=
  let candidates := services.ctx.manifest.clients.filter fun client =>
    (client.dataIp.bind Text.nonempty).isSome
  let remote := candidates.filter fun client => client.attachedSwitch ≠ some targetDevice
  (byPlace (if remote = [] then candidates else remote)).head?.bind fun chosen =>
    (Text.nonempty (Text.strip (hostPart (chosen.dataIp.getD "")))).map (· ++ "/32")

/-- `_resolve_static_route_target_ip` -/
def resolveStaticRouteTargetIp (targetDevice : String) (targetIp : Option String) :
    Option String :=
  let raw := Text.strip (targetIp.getD "")
  if raw = "" ∨ services.lower raw = "auto" then pickRemoteClientHostRoute services targetDevice
  else if Text.occursIn "/" raw = true then some raw
  else some (raw ++ "/32")

/-! ## Wrong routes -/

def recoverStaticRouteMisconfig (device targetIp : String) (wrongNexthop : Option String) :
    Injecting δ HandlerRecovery := do
  let _ ← Program.ofExcept (containerOf services.ctx device)
  match wrongNexthop.bind Text.nonempty with
  | none => throw (.valueError "Recovery requires the owned next hop")
  | some nexthop =>
      recoverRoute services "static_route_misconfig" device
        ("no ip route " ++ targetIp ++ " " ++ nexthop)
        (bothShow false (runningConfigHasRoute services device targetIp)
          (operationalNexthopPresent services device targetIp nexthop))
        (fun fault => decide (fault.type = "static_route_misconfig" ∧
          fault.device = some device ∧ fault.metadata.targetIp = some targetIp))
        "static route remained in running config"

def misconfigFault (device targetIp wrongNexthop : String) (configured : CommandResult × Bool) :
    HandlerFault :=
  { type := "static_route_misconfig"
    device := some device
    success := configured.2
    error := if configured.2 = true then none else some (Text.either configured.1.stderr
      ("static route was not operational: ip route " ++ targetIp ++ " " ++ wrongNexthop))
    metadata :=
      { targetIp := some targetIp
        wrongNexthop := some wrongNexthop } }

/-- The next hop that was asked for, or one that the topology has. -/
def resolveWrongNexthop (device targetIp : String) (wrongNexthop : Option String) :
    Except Raised String :=
  match wrongNexthop.bind Text.nonempty with
  | some nexthop =>
      if services.lower nexthop ≠ "auto" then .ok nexthop
      else orRaise (pickReachableWrongNexthop services device targetIp)
  | none => orRaise (pickReachableWrongNexthop services device targetIp)
where
  orRaise (picked : Option String) : Except Raised String :=
    match picked with
    | some nexthop => .ok nexthop
    | none => .error (.runtimeError
        ("Unable to determine reachable wrong next-hop from topology metadata: device=" ++ device ++
          " target_ip=" ++ targetIp))

/-- The target and the next hop of an injection, with the client that has the next hop. -/
def resolveMisconfig (device : String) (targetIp wrongNexthop : Option String) :
    Except Raised (String × String × Device) :=
  match (resolveStaticRouteTargetIp services device targetIp).bind Text.nonempty with
  | none => .error (.runtimeError
      ("Unable to determine target host route from topology metadata: device=" ++ device))
  | some target => do
      let nexthop ← resolveWrongNexthop services device target wrongNexthop
      match (clientsOf services device).find? fun client => client.dataIp == some nexthop with
      | none => .error (.valueError "Wrong next hop must be another directly attached client")
      | some owner => .ok (target, nexthop, owner)

/-- The client that has the next hop must not forward. -/
def requireNoForwarding (client : Device) : Program δ Raised PUnit := do
  let container ← Program.ofExcept (containerAt services.ctx client.name)
  let forwarding ← dockerExec services.shell container ["sysctl", "-n", "net.ipv4.ip_forward"]
  if forwarding.returncode ≠ 0 ∨ Text.strip forwarding.stdout ≠ "0" then
    throw (.runtimeError "Wrong endpoint must have IP forwarding disabled")
  else pure ⟨⟩

def injectStaticRouteMisconfig (device : String) (targetIp wrongNexthop : Option String) :
    Injecting δ HandlerFault := do
  let _ ← Program.ofExcept (containerOf services.ctx device)
  let (target, nexthop, owner) ←
    Program.ofExcept (resolveMisconfig services device targetIp wrongNexthop)
  perform (requireNoForwarding services owner)
  perform (requireNoRoute services device target)
  let configured ← perform (configureVerified services device
    ("ip route " ++ target ++ " " ++ nexthop)
    (bothShow true
      (runningConfigContains services device ("ip route " ++ target ++ " " ++ nexthop))
      (operationalNexthopPresent services device target nexthop)))
  let fault := misconfigFault device target nexthop configured
  if fault.success = true then leaveVerified fault
  else do
    let rollback ← recoverStaticRouteMisconfig services device target (some nexthop)
    endFailed fault rollback

end StaticRouteHandler

end NetOpsBench
