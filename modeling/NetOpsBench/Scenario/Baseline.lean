import Mathlib.Algebra.Order.Ring.Unbundled.Rat
import NetOpsBench.Lib.Dict
import NetOpsBench.Lib.Sorting

/-!
# Baseline windows and their handoff

`netopsbench/platform/scenario/baseline.py`, and the gates of `observation.py` that a window
passes before it may be handed on. Instants are microseconds; a reading of the monotonic clock is
an exact number of seconds.
-/

namespace NetOpsBench

/-! ## Windows -/

/-- `datetime.fromisoformat` of a text, and whether it has a time zone. -/
structure Moment : Type where
  micros : Int
  aware : Bool
  deriving DecidableEq, Repr

/-- A window by the readings of its fields; `number` is the place of its observation in the history
of the executor, which no operation reads. -/
structure BaselineWindow : Type where
  number : Nat
  startTime : Option Moment
  endTime : Option Moment
  durationSeconds : Option Int
  deriving DecidableEq, Repr

/-- `MAX_WINDOW_AGE_SECONDS` -/
def maxWindowAgeSeconds : Int := 120

/-- `RECALIBRATE_SECONDS` -/
def recalibrateSeconds : Rat := 600

/-- `valid_window` at the instant `now` -/
def validWindow (window : BaselineWindow) (minimumSeconds now : Int) : Bool :=
  match window.startTime, window.endTime, window.durationSeconds with
  | some start, some ended, some duration =>
      start.aware && ended.aware &&
        decide (minimumSeconds * 1000000 ≤ ended.micros - start.micros) &&
        decide (minimumSeconds ≤ duration) && decide (0 ≤ now - ended.micros) &&
        decide (now - ended.micros ≤ maxWindowAgeSeconds * 1000000)
  | _, _, _ => false

/-! ## The scope of a runtime -/

structure ScopeIdentity : Type where
  runtime : String
  worker : String
  topology : String
  pingmeshPlanId : String
  bucket : String
  scale : String
  trafficProfile : String
  generation : Nat
  plans : Dict String String

structure RuntimeScope : Type where
  identity : ScopeIdentity
  configs : Dict String String
  containers : Dict String (List String)

namespace ScopeIdentity

/-- The keys of `identity` under which two scopes differ. -/
def changes (first second : ScopeIdentity) : List String :=
  [("runtime", decide (first.runtime = second.runtime)),
    ("worker", decide (first.worker = second.worker)),
    ("topology", decide (first.topology = second.topology)),
    ("pingmesh_plan_id", decide (first.pingmeshPlanId = second.pingmeshPlanId)),
    ("bucket", decide (first.bucket = second.bucket)),
    ("scale", decide (first.scale = second.scale)),
    ("traffic_profile", decide (first.trafficProfile = second.trafficProfile)),
    ("generation", decide (first.generation = second.generation)),
    ("plans", first.plans.same second.plans)].filterMap fun field =>
      if field.2 then none else some field.1

end ScopeIdentity

/-- `==` of two scopes -/
def RuntimeScope.same (first second : RuntimeScope) : Bool :=
  (first.identity.changes second.identity).isEmpty && first.configs.same second.configs &&
    first.containers.same second.containers

/-- `==` of two scopes that may be missing -/
def sameScope : Option RuntimeScope → Option RuntimeScope → Bool
  | none, none => true
  | some first, some second => first.same second
  | some _, none => false
  | none, some _ => false

def sortedTexts (texts : List String) : List String :=
  Sorting.sorted (fun first second => decide (first ≤ second)) texts

/-- `scope_changes` -/
def scopeChanges : Option RuntimeScope → Option RuntimeScope → List String
  | none, none => []
  | some first, some second =>
      if first.same second then []
      else
        sortedTexts
          ((first.identity.changes second.identity).map ("identity:" ++ ·) ++
            (first.configs.changes second.configs).map ("configs:" ++ ·) ++
            (first.containers.changes second.containers).map ("containers:" ++ ·))
  | some _, none => ["scope_unavailable_or_changed"]
  | none, some _ => ["scope_unavailable_or_changed"]

/-- What the cleanup reads of the configuration of a device. -/
structure FrrSnapshot : Type where
  device : String
  running : String
  saved : String
  savedBytes : String
  deriving DecidableEq, Repr

/-- The configuration that a recovery leaves is the one before the fault. -/
def FrrSnapshot.restoredTo (before after : FrrSnapshot) : Bool :=
  decide (before.running = after.running) &&
    (decide (before.savedBytes = after.savedBytes) || decide (after.saved = after.running))

/-- The containers of a device whose image is the one before. -/
def restartedContainers (before after : RuntimeScope) (device : String) : List String :=
  (after.containers.keys.filter fun name =>
    name.endsWith ("-" ++ device) && (before.containers.get name).isSome &&
      decide (((before.containers.get name).bind (·[1]?)) =
        ((after.containers.get name).bind (·[1]?)))).map ("containers:" ++ ·)

/-- `restored_scope_errors`, with the `restored` of the configuration proof -/
def restoredScopeErrors (before after : Option RuntimeScope) (device faultType : String)
    (restored : Bool) : List String :=
  let config := if restored then ["configs:configs/frr/" ++ device ++ ".conf"] else []
  let containers :=
    match before, after with
    | some before, some after =>
        if faultType = "device_down" then restartedContainers before after device else []
    | _, _ => []
  (scopeChanges before after).filter fun change => !(config ++ containers).contains change

/-! ## The handoff -/

structure BaselineHandoff : Type where
  window : Option BaselineWindow := none
  scope : Option RuntimeScope := none
  source : Option String := none
  epoch : Option Rat := none
  lastChanges : Option (List String) := none

namespace BaselineHandoff

def clear (handoff : BaselineHandoff) : BaselineHandoff :=
  { lastChanges := handoff.lastChanges }

def freshEpoch (monotonic : Rat) (handoff : BaselineHandoff) : BaselineHandoff :=
  { handoff.clear with epoch := some monotonic }

/-- The epoch is not older than it may be. -/
def current (monotonic : Rat) (handoff : BaselineHandoff) : Bool :=
  match handoff.epoch with
  | none => false
  | some epoch => decide (0 ≤ monotonic - epoch) && decide (monotonic - epoch ≤ recalibrateSeconds)

inductive TakeReason : Type where
  | missingOrChangedScope
  | recalibrationDue
  | expiredOrShortWindow
  | verifiedPreviousCase
  deriving DecidableEq, Repr

/-- `take`: the window, the reason and the handoff afterwards -/
def take (scope : Option RuntimeScope) (minimumSeconds : Int) (monotonic : Rat) (now : Int)
    (handoff : BaselineHandoff) : Option BaselineWindow × TakeReason × BaselineHandoff :=
  let after :=
    { handoff with window := none, lastChanges := some (scopeChanges handoff.scope scope) }
  match handoff.window with
  | none => (none, .missingOrChangedScope, after)
  | some window =>
      if scope.isNone || !sameScope scope handoff.scope then (none, .missingOrChangedScope, after)
      else if !handoff.current monotonic then (none, .recalibrationDue, after)
      else if !validWindow window minimumSeconds now then (none, .expiredOrShortWindow, after)
      else (some window, .verifiedPreviousCase, after)

/-- `publish`: whether the window is published, and the handoff afterwards -/
def publish (window : BaselineWindow) (scope : Option RuntimeScope) (source : String)
    (minimumSeconds now : Int) (handoff : BaselineHandoff) : Bool × BaselineHandoff :=
  if scope.isNone || handoff.epoch.isNone || !validWindow window minimumSeconds now then
    (false, { handoff with window := none })
  else (true, { handoff with window := some window, scope, source := some source })

end BaselineHandoff

/-! ## The gates of an observation -/

/-- The absolute counters of an observation that has them. -/
structure AbsoluteHealth : Type where
  unreachablePaths : Option Int := none
  packetLossPaths : Option Int := none
  networkMtuPaths : Option Int := none
  deriving DecidableEq, Repr

/-- What the gates read of an observation. -/
structure Observation : Type where
  window : BaselineWindow
  dataSourceStatus : Option String
  coverageStatus : Option String
  baselineCoverageStatus : Option String
  currentPathsObserved : Int
  localDfMtuDrops : Int
  localProbeErrors : Int
  latencySpikes : Int
  /-- The counters of `quality`. -/
  quality : AbsoluteHealth
  /-- `_baseline_health`, unless it is empty. -/
  baselineHealth : Option AbsoluteHealth

inductive GateError : Type where
  | data (status : Option String)
  | coverage (status : Option String)
  | baselineCoverage (status : Option String)
  | noCurrentPaths
  | localDfMtuDrops (count : Int)
  | localProbeErrors (count : Int)
  | unreachablePaths (count : Int)
  | latencySpikes (count : Int)
  | networkMtuPaths (count : Int)
  | packetLossPathRate (rate : Rat)
  deriving DecidableEq, Repr

/-- An error for a counter that is not zero. -/
def nonzero (error : Int → GateError) (count : Int) : List GateError :=
  if count = 0 then [] else [error count]

/-- `observation_integrity_errors` -/
def observationIntegrityErrors (observation : Observation) : List GateError :=
  (if observation.dataSourceStatus = some "ok" then []
    else [.data observation.dataSourceStatus]) ++
    (if observation.coverageStatus = some "complete" then []
      else [.coverage observation.coverageStatus]) ++
    (if observation.baselineCoverageStatus = some "complete" then []
      else [.baselineCoverage observation.baselineCoverageStatus]) ++
    (if observation.currentPathsObserved ≤ 0 then [.noCurrentPaths] else []) ++
    nonzero .localDfMtuDrops observation.localDfMtuDrops ++
    nonzero .localProbeErrors observation.localProbeErrors

/-- `baseline_gate_errors` -/
def baselineGateErrors (observation : Observation) : List GateError :=
  let absolute := observation.baselineHealth.getD observation.quality
  let loss : Rat := (absolute.packetLossPaths.getD 0 : Int) / observation.currentPathsObserved
  if observation.currentPathsObserved ≤ 0 then observationIntegrityErrors observation
  else
    observationIntegrityErrors observation ++
      nonzero .unreachablePaths (absolute.unreachablePaths.getD 0) ++
      nonzero .latencySpikes observation.latencySpikes ++
      nonzero .networkMtuPaths (absolute.networkMtuPaths.getD 0) ++
      (if loss > 1 / 1000 then [.packetLossPathRate loss] else [])

/-- `_offer_healthy_window`: the window that an observation offers, if it does -/
def offeredWindow (observation : Observation) : Option BaselineWindow :=
  match observation.baselineHealth with
  | none => none
  | some absolute =>
      if absolute.unreachablePaths.isSome && absolute.packetLossPaths.isSome &&
          absolute.networkMtuPaths.isSome && (baselineGateErrors observation).isEmpty then
        some observation.window
      else none

end NetOpsBench
