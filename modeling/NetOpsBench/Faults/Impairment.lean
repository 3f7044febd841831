import NetOpsBench.Faults.InterfaceMtu
import NetOpsBench.Lib.Binary64
import NetOpsBench.Lib.Matching

/-!
# Impairments of an interface

The injections of `ImpairmentHandler` (`netopsbench/platform/faults/handlers/impairment.py`): an
MTU that differs from the other end's, and the netem rules for corruption, loss and delay. Each
changes the interface, reads back what it shows, and takes its change back when that is not the
fault; what it cannot take back it leaves to the tracker as residual.
-/

namespace NetOpsBench

/-! ## The world of an injection -/

/-- The keys of the faults of `ImpairmentHandler` and `StaticRouteHandler` beside those of every
fault. `amount` is the key of a netem rule with its value. -/
structure HandlerMetadata : Type where
  linuxInterface : Option String := none
  mtu : Option Int := none
  originalMtu : Option Int := none
  amount : Option (String × Rat) := none
  targetPrefix : Option String := none
  targetIp : Option String := none
  wrongNexthop : Option String := none

abbrev HandlerFault : Type := ActiveFault HandlerMetadata

structure HandlerRecovery : Type where
  type : Option String
  recovered : Bool
  error : Option String

/-- What the handlers rest on: the containers, the names, `json.loads` on a list of queueing
disciplines, of which the kinds are kept, and how texts are read and written. -/
structure HandlerServices (δ : Type) : Type where
  shell : Shell δ
  ctx : FaultRuntimeContext
  reader : IntReader
  loadQdiscs : String → Except Raised (List (Option String))
  lower : String → String
  number : Rat → String
  isWord : Char → Bool

structure InjectionWorld (δ : Type) : Type where
  lab : δ
  tracker : FaultTracker HandlerMetadata := {}

abbrev Injecting (δ : Type) : Type → Type := Program (InjectionWorld δ) Raised

namespace InjectionWorld

variable {δ α : Type}

/-- Commands in the lab. -/
def perform (commands : Program δ Raised α) : Injecting δ α := do
  let world ← get
  modify fun world : InjectionWorld δ => { world with lab := (commands.outcome world.lab).2 }
  Program.ofExcept (commands.outcome world.lab).1

@[simp] theorem outcome_perform (commands : Program δ Raised α) (world : InjectionWorld δ) :
    (perform commands).outcome world =
      ((commands.outcome world.lab).1, { world with lab := (commands.outcome world.lab).2 }) := by
  unfold perform
  rw [Program.outcome_bind_ok (Program.outcome_get world),
    Program.outcome_bind_ok (Program.outcome_modify _ world), Program.outcome_ofExcept]

/-- A change of the tracker. -/
def record (f : FaultTracker HandlerMetadata → FaultTracker HandlerMetadata) : Injecting δ PUnit :=
  modify fun world : InjectionWorld δ => { world with tracker := f world.tracker }

@[simp] theorem outcome_record (f : FaultTracker HandlerMetadata → FaultTracker HandlerMetadata)
    (world : InjectionWorld δ) :
    (record f).outcome world = (.ok ⟨⟩, { world with tracker := f world.tracker }) := rfl

/-! ## How an injection ends -/

/-- `"; ".join(filter(None, […]))` -/
def joinErrors (errors : List String) : String := Text.join "; " (errors.filter (· ≠ ""))

/-- The end of an injection that was read back. -/
def leaveVerified (fault : HandlerFault) : Injecting δ HandlerFault := do
  record fun tracker => tracker.track fault
  pure fault

/-- The end of an injection that failed, after its compensation. -/
def leaveFailed (fault : HandlerFault) (compensated : Bool) (detail : String) :
    Injecting δ HandlerFault :=
  if compensated = true then pure fault
  else do
    let error := joinErrors [fault.error.getD "", detail]
    record fun tracker => tracker.trackResidual { fault with error := some error } error
    pure { fault with error := some error }

end InjectionWorld

namespace ImpairmentHandler

open InjectionWorld

variable {δ : Type} (services : HandlerServices δ)

/-! ## The MTU -/

/-- `SonicRuntime.config_cmd` -/
def configCmd (device : String) (args : List String) : Program δ Raised CommandResult := do
  let container ← Program.ofExcept (containerOf services.ctx device)
  dockerExec services.shell container ("config" :: args)

def getInterfaceMtu (device sonicIf : String) : Program δ Raised Int :=
  InterfaceRuntime.getInterfaceMtu services.reader services.shell services.ctx device sonicIf

/-- `_apply_mtu`: the command that decided, and the MTU that was read after it. -/
def applyMtu (device container sonicIf linuxIf : String) (targetMtu : Int) :
    Program δ Raised (CommandResult × Int) := do
  let result ← configCmd services device ["interface", "mtu", sonicIf, toString targetMtu]
  let effectiveMtu ← getInterfaceMtu services device sonicIf
  if result.returncode ≠ 0 ∨ effectiveMtu ≠ targetMtu then do
    let result ← dockerExec services.shell container
      ["ip", "link", "set", linuxIf, "mtu", toString targetMtu]
    let effectiveMtu ← getInterfaceMtu services device sonicIf
    pure (result, effectiveMtu)
  else pure (result, effectiveMtu)

/-- The dictionary of `inject_mtu_mismatch`. -/
def mtuFault (device sonicIf linuxIf : String) (mtu originalMtu : Int)
    (applied : CommandResult × Int) : HandlerFault :=
  let success := decide (applied.1.returncode = 0 ∧ applied.2 = mtu)
  { type := "mtu_mismatch"
    device := some device
    interface := some sonicIf
    success := success
    error := if success = true then none else some (Text.either applied.1.stderr
      ("effective MTU is " ++ toString applied.2 ++ ", expected " ++ toString mtu))
    metadata :=
      { linuxInterface := some linuxIf
        mtu := some mtu
        originalMtu := some originalMtu } }

def injectMtuMismatch (device interface : String) (mtu : Int) : Injecting δ HandlerFault := do
  let container ← Program.ofExcept (containerOf services.ctx device)
  let sonicIf := services.ctx.resolveSonic interface
  let linuxIf := services.ctx.resolveLinux interface
  let originalMtu ← perform (getInterfaceMtu services device sonicIf)
  let applied ← perform (applyMtu services device container sonicIf linuxIf mtu)
  let fault := mtuFault device sonicIf linuxIf mtu originalMtu applied
  if fault.success = true then leaveVerified fault
  else do
    let restored ← perform (applyMtu services device container sonicIf linuxIf originalMtu)
    leaveFailed fault (decide (restored.1.returncode = 0 ∧ restored.2 = originalMtu))
      (Text.either restored.1.stderr ("MTU compensation read back " ++ toString restored.2 ++
        ", expected " ++ toString originalMtu))

/-! ## netem -/

/-- `math.isclose(value, expected, rel_tol=0.0, abs_tol=0.001)` -/
def isClose (value expected : Rat) : Bool :=
  let near (difference tolerance : Binary64) : Bool :=
    match difference, tolerance with
    | .finite difference, .finite tolerance =>
        decide (difference ≤ tolerance ∧ -difference ≤ tolerance)
    | _, _ => false
  value == expected || near (Binary64.round (expected - value)) (Binary64.round (1 / 1000))

/-- What the pattern of `_qdisc_matches` reads as the value of a rule. -/
def qdiscValue (impairment unit : String) : Matching.Place → List Rat := fun place =>
  let keyword := Matching.followed (Matching.boundary services.isWord)
    (Matching.followed (Matching.exactly (· == ·) impairment.toList)
      (Matching.followed
        (Matching.optional (Matching.followed (Matching.many Text.isSpace)
          (Matching.exactly (· == ·) "random".toList)))
        (Matching.many Text.isSpace)))
  let ending := Matching.followed (Matching.exactly (· == ·) unit.toList)
    (Matching.anyOf [Matching.single Text.isSpace, Matching.final])
  (keyword place).flatMap fun start =>
    (Matching.decimal start).flatMap fun finish =>
      (ending finish).map fun _ => Matching.decimalValue (Matching.between start finish)

/-- `_qdisc_matches` -/
def qdiscMatches (container linuxIf impairment : String) (expectedValue : Rat) (unit : String) :
    Program δ Raised Bool := do
  let result ← dockerExec services.shell container ["tc", "qdisc", "show", "dev", linuxIf]
  let output := services.lower result.stdout
  pure (decide (result.returncode = 0) && Text.occursIn "netem" output &&
    (Matching.search (qdiscValue services impairment unit) output).any fun value =>
      match Binary64.round value with
      | .finite value => isClose value expectedValue
      | _ => false)

/-- `_require_default_qdisc` -/
def requireDefaultQdisc (container interface : String) : Program δ Raised PUnit := do
  let result ← dockerExec services.shell container ["tc", "-j", "qdisc", "show", "dev", interface]
  if result.returncode ≠ 0 then throw (.runtimeError "Cannot inspect existing qdisc")
  else do
    let kinds ← Program.ofExcept (services.loadQdiscs result.stdout)
    if kinds.any fun kind => !([some "noqueue", some "pfifo_fast", some "mq"].contains kind) then
      throw (.runtimeError "Non-default qdisc exists; refusing to overwrite unowned state")
    else pure ⟨⟩

/-- `_has_netem_qdisc` -/
def hasNetemQdisc (container linuxIf : String) : Program δ Raised (Option Bool) := do
  let result ← dockerExec services.shell container ["tc", "qdisc", "show", "dev", linuxIf]
  if result.returncode ≠ 0 then pure none
  else pure (some (Text.occursIn "netem" (services.lower result.stdout)))

/-- The compensation of a netem rule: its command and whether it was read back. -/
def removeNetem (container linuxIf : String) : Program δ Raised (CommandResult × Bool) := do
  let rollback ← dockerExec services.shell container
    ["tc", "qdisc", "del", "dev", linuxIf, "root"]
  if rollback.returncode = 0 ∨ rollback.returncode = 2 then do
    let present ← hasNetemQdisc services container linuxIf
    pure (rollback, decide (present = some false))
  else pure (rollback, false)

/-- `_finish_netem_injection` -/
def finishNetemInjection (container linuxIf : String) (fault : HandlerFault) :
    Injecting δ HandlerFault :=
  if fault.success = true then leaveVerified fault
  else do
    let removed ← perform (removeNetem services container linuxIf)
    leaveFailed fault removed.2
      (Text.either removed.1.stderr (Text.either removed.1.stdout "netem compensation failed"))

/-- A netem rule: the type of its fault, its keyword, the key and the unit of its value, and what is
said when it is not read back. -/
structure NetemRule : Type where
  type : String
  impairment : String
  key : String
  unit : String
  unobserved : String

/-- The rule is installed and read back. -/
def installNetem (container linuxIf : String) (rule : NetemRule) (value : Rat) :
    Program δ Raised (CommandResult × Bool) := do
  let result ← dockerExec services.shell container
    ["tc", "qdisc", "replace", "dev", linuxIf, "root", "netem", rule.impairment,
      services.number value ++ rule.unit]
  if result.returncode = 0 then do
    let observed ← qdiscMatches services container linuxIf rule.impairment value rule.unit
    pure (result, observed)
  else pure (result, false)

def netemFault (rule : NetemRule) (device linuxIf : String) (value : Rat)
    (installed : CommandResult × Bool) : HandlerFault :=
  { type := rule.type
    device := some device
    interface := some linuxIf
    success := installed.2
    error := if installed.2 = true then none
      else some (Text.either installed.1.stderr rule.unobserved)
    metadata := { amount := some (rule.key, value) } }

def injectNetem (rule : NetemRule) (device interface : String) (value : Rat) :
    Injecting δ HandlerFault := do
  let container ← Program.ofExcept (containerOf services.ctx device)
  let linuxIf := services.ctx.resolveLinux interface
  perform (requireDefaultQdisc services container linuxIf)
  let installed ← perform (installNetem services container linuxIf rule value)
  finishNetemInjection services container linuxIf (netemFault rule device linuxIf value installed)

def corruptionRule : NetemRule where
  type := "packet_corruption"
  impairment := "corrupt"
  key := "corruption_pct"
  unit := "%"
  unobserved := "netem corruption rule was not observed"

def lossRule : NetemRule where
  type := "packet_loss"
  impairment := "loss"
  key := "loss_pct"
  unit := "%"
  unobserved := "netem loss rule was not observed"

def delayRule : NetemRule where
  type := "high_latency"
  impairment := "delay"
  key := "latency_ms"
  unit := "ms"
  unobserved := "netem delay rule was not observed"

def injectPacketCorruption (device interface : String) (corruptionPct : Rat) :
    Injecting δ HandlerFault :=
  injectNetem services corruptionRule device interface corruptionPct

def injectPacketLoss (device interface : String) (lossPct : Rat) : Injecting δ HandlerFault :=
  injectNetem services lossRule device interface lossPct

def injectHighLatency (device interface : String) (latencyMs : Rat) : Injecting δ HandlerFault :=
  injectNetem services delayRule device interface latencyMs

/-! ## Recoveries -/

/-- `resolve_recovery_mtu` -/
def resolveRecoveryMtu (device sonicIf : String) (originalMtu : Option Int) :
    Program δ Raised Int :=
  match originalMtu with
  | some mtu =>
      if InterfaceRuntime.InRange mtu then pure mtu
      else InterfaceRuntime.getCommonPortMtu services.reader services.shell services.ctx device
        sonicIf
  | none =>
      InterfaceRuntime.getCommonPortMtu services.reader services.shell services.ctx device sonicIf

def recoverMtuMismatch (device interface : String) (originalMtu : Option Int) :
    Injecting δ HandlerRecovery := do
  let container ← Program.ofExcept (containerOf services.ctx device)
  let sonicIf := services.ctx.resolveSonic interface
  let linuxIf := services.ctx.resolveLinux interface
  let targetMtu ← perform (resolveRecoveryMtu services device sonicIf originalMtu)
  let applied ← perform (applyMtu services device container sonicIf linuxIf targetMtu)
  let recovered := decide (applied.1.returncode = 0 ∧ applied.2 = targetMtu)
  record fun tracker =>
    if recovered = true then tracker.removeFaults fun fault =>
      decide (fault.type = "mtu_mismatch" ∧ fault.device = some device ∧
        fault.interface = some sonicIf)
    else tracker
  pure
    { type := some "mtu_mismatch"
      recovered := recovered
      error := if recovered = true then none else some (Text.either applied.1.stderr
        ("effective MTU is " ++ toString applied.2 ++ ", expected " ++ toString targetMtu)) }

def recoverTcRules (device interface : String) : Injecting δ HandlerRecovery := do
  let container ← Program.ofExcept (containerOf services.ctx device)
  let linuxIf := services.ctx.resolveLinux interface
  let removed ← perform (removeNetem services container linuxIf)
  record fun tracker =>
    if removed.2 = true then tracker.removeFaults fun fault =>
      decide (fault.device = some device ∧ fault.interface = some linuxIf ∧
        fault.type ∈ ["packet_corruption", "packet_loss", "high_latency"])
    else tracker
  pure
    { type := none
      recovered := removed.2
      error := if removed.2 = true then none
        else some (Text.either removed.1.stderr "netem qdisc remained installed") }

end ImpairmentHandler

end NetOpsBench
