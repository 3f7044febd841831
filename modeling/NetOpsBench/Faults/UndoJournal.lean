import NetOpsBench.Faults.CommandRunner

/-!
# The undo journal

`NetworkFaultHandler.inject` and `recover` of
`netopsbench/platform/faults/handlers/network.py`, with the readback `_verify_written` and the
periodic controller of `route_flapping`. The operations that `_prepare` plans are those of a
parameter, which may run commands and raise.
-/

namespace NetOpsBench

/-! ## Operations and faults -/

inductive OperationKind : Type where
  | frr
  | docker
  deriving DecidableEq, Repr

def OperationKind.text : OperationKind → String
  | frr => "frr"
  | docker => "docker"

/-- An entry of the journal: the commands of a change and those that undo it. -/
structure Operation : Type where
  kind : OperationKind
  apply : List String
  restore : List String
  deriving DecidableEq, Repr

/-- The keys of `evidence` that the readback looks up. -/
structure Evidence : Type where
  faultAddress : Option String := none
  originalAddress : Option String := none
  aclName : Option String := none
  rule : Option (List String) := none

/-- The keys of a network fault beside those of every fault. -/
structure NetworkMetadata : Type where
  faultId : Option String := none
  prefixText : Option String := none
  mechanism : Option String := none
  journal : List Operation := []
  evidence : Evidence := {}
  controlId : Option String := none

abbrev NetworkFault : Type := ActiveFault NetworkMetadata

/-- The fields of an episode that the handler reads, with the parameters `mechanism`,
`down_time` and `up_time`. -/
structure NetworkEpisode : Type where
  faultType : String
  targetDevice : String
  targetInterface : Option String := none
  targetPrefix : Option String := none
  mechanism : Option String := none
  downTime : Option Int := none
  upTime : Option Int := none

/-- A row of `ip -j -4 addr show`. -/
structure AddressRow : Type where
  addrInfo : List (String × Nat) := []
  flags : List String := []

/-- What the handler rests on: the containers, the names, `json.loads` on a list of address rows,
`_prepare`, the identifiers that `uuid4` draws, whether a controller thread starts, and whether
it ends while it is joined. -/
structure NetworkServices (δ : Type) : Type where
  shell : Shell δ
  ctx : FaultRuntimeContext
  loadAddresses : String → Except Raised (List AddressRow)
  prepare : NetworkEpisode → Program δ Raised (List Operation × Evidence)
  faultId : String
  controlId : String
  startThread : Program δ Raised PUnit
  joinThread : String → δ → Bool × δ

namespace NetworkFaultHandler

variable {δ : Type} (net : NetworkServices δ)

/-! ## Commands -/

/-- `re.search(r"(?m)^%", text)` -/
def reportsError (text : String) : Bool :=
  (text.toList.splitOn '\n').any fun line => line.head? == some '%'

/-- The command of an operation of a kind -/
def call (device : String) (commands : List String) :
    OperationKind → Program δ Raised CommandResult
  | .frr => vtysh net.shell net.ctx device commands
  | .docker => do
      let container ← Program.ofExcept (containerAt net.ctx device)
      dockerExec net.shell container commands

/-- `_run`. A supervisor that shows a stopped service returns 3. -/
def run (device : String) (kind : OperationKind) (commands : List String) :
    Program δ Raised String := do
  let result ← call net device commands kind
  let serviceStatus := commands.take 2 == ["supervisorctl", "status"] && result.returncode == 3
  if (result.returncode ≠ 0 ∧ serviceStatus = false) ∨
      (kind = .frr ∧ reportsError result.stdout = true) then
    throw (.runtimeError (Text.either result.stderr
      (Text.either result.stdout (kind.text ++ " command failed"))))
  else pure result.stdout

/-- The addresses of an interface, with their lengths, and the rows that show them. -/
def liveAddresses (device interface : String) :
    Program δ Raised (List String × List AddressRow) := do
  let shown ← run net device .docker ["ip", "-j", "-4", "addr", "show", "dev", interface]
  let rows ← Program.ofExcept (net.loadAddresses shown)
  pure (rows.flatMap fun row => row.addrInfo.map fun info => info.1 ++ "/" ++ toString info.2, rows)

/-- The lines of the running configuration, with single blanks. -/
def runningLines (device : String) : Program δ Raised (List String) := do
  let shown ← run net device .frr ["show running-config"]
  pure ((Text.outputLines shown).map Text.normalized)

/-! ## The readback -/

/-- `evidence[key]`; the text of a `KeyError` is the quoted key -/
def evidenceAt {α : Type} (key : String) (value : Option α) : Except Raised α :=
  match value with
  | some value => .ok value
  | none => .error (.runtimeError (Text.quoted key))

/-- The commands that only choose a context or reset sessions. -/
def leavesNoLine (command : String) : Bool :=
  ["configure terminal", "end", "write memory"].contains command ||
    ["router bgp ", "address-family ", "match ", "set ", "clear "].any
      fun start => Text.beginsWith start command

/-- What the running configuration has to show of a command. -/
def checkCommand (config : List String) (command : String) : Except Raised PUnit :=
  if leavesNoLine command = true then .ok ⟨⟩
  else if Text.beginsWith "no " command = true then
    if Text.dropChars 3 (Text.normalized command) ∈ config then
      .error (.runtimeError
        ("Configuration remained present: " ++ Text.dropChars 3 (Text.normalized command)))
    else .ok ⟨⟩
  else if Text.normalized command ∉ config then
    .error (.runtimeError ("Configuration readback is missing: " ++ Text.normalized command))
  else .ok ⟨⟩

/-- The keys of an ACL in ConfigDB -/
def aclKeys (name : String) : List String :=
  ["ACL_TABLE|" ++ name, "ACL_RULE|" ++ name ++ "|RULE1"]

def checkAclKeys (device : String) : List String → Program δ Raised PUnit
  | [] => pure ⟨⟩
  | key :: keys => do
      let shown ← run net device .docker ["sonic-db-cli", "CONFIG_DB", "exists", key]
      if Text.strip shown ≠ "1" then throw (.runtimeError "ACL ConfigDB readback is missing")
      else checkAclKeys device keys

/-- `_verify_written` -/
def verifyWritten (episode : NetworkEpisode) (info : NetworkFault) : Program δ Raised PUnit :=
  let device := episode.targetDevice
  let evidence := info.metadata.evidence
  if episode.faultType = "bgp_process_down" then do
    let status ← run net device .docker ["supervisorctl", "status", "bgpd"]
    if Text.occursIn "STOPPED" status = true then pure ⟨⟩
    else throw (.runtimeError "Supervisor did not stop bgpd")
  else if episode.faultType = "interface_ip_misconfig" then do
    let interface := net.ctx.resolveSonic (episode.targetInterface.getD "")
    let (addresses, rows) ← liveAddresses net device interface
    let faultAddress ← Program.ofExcept (evidenceAt "fault_address" evidence.faultAddress)
    let originalAddress ← Program.ofExcept (evidenceAt "original_address" evidence.originalAddress)
    if faultAddress ∉ addresses ∨ originalAddress ∈ addresses then
      throw (.runtimeError "Live address readback disagrees with the injected configuration")
    else
      match rows with
      | [] => throw (.runtimeError "list index out of range")
      | row :: _ =>
          if "UP" ∈ row.flags then pure ⟨⟩
          else throw (.runtimeError "Address mutation changed admin state")
  else if Text.beginsWith "acl_" episode.faultType = true then do
    let rule ← Program.ofExcept (evidenceAt "rule" evidence.rule)
    let _ ← run net device .docker (["iptables", "-C"] ++ rule)
    let name ← Program.ofExcept (evidenceAt "acl_name" evidence.aclName)
    checkAclKeys net device (aclKeys name)
  else do
    let config ← runningLines net device
    let _ ← Program.ofExcept
      ((info.metadata.journal.flatMap Operation.apply).mapM (checkCommand config))
    pure ⟨⟩

/-! ## Restoring one operation -/

/-- `present(statement)` -/
def present (current : List String) (statement : String) : Bool :=
  let parameterStem := Text.beginsWith "neighbor " statement &&
    ["password", "remote-as", "update-source", "maximum-prefix"].any
      fun word => (Text.tokens statement).getLast? == some word
  if parameterStem || Text.beginsWith "route-map " statement ||
      Text.beginsWith "ip prefix-list " statement then
    current.any fun line => line == statement || Text.beginsWith (statement ++ " ") line
  else current.contains statement

/-- The restore commands, without those that remove a line that is not there. -/
def restoreCommands (device : String) (operation : Operation) :
    Program δ Raised (List String) :=
  match operation.kind with
  | .frr => do
      let current ← runningLines net device
      pure (operation.restore.filter fun command =>
        !Text.beginsWith "no " command || present current (Text.normalized (Text.dropChars 3 command)))
  | .docker => pure operation.restore

/-- Whether the address that the commands remove is already absent. -/
def addressAbsent (device : String) : List String → Program δ Raised Bool
  | ["config", "interface", "ip", "remove", interface, address] => do
      let (addresses, _) ← liveAddresses net device interface
      let configured ← run net device .docker
        ["sonic-db-cli", "CONFIG_DB", "exists", "INTERFACE|" ++ interface ++ "|" ++ address]
      if Text.strip configured = "0" ∧ address ∉ addresses then pure true
      else if Text.strip configured ≠ "0" ∧ Text.strip configured ≠ "1" then
        throw (.runtimeError "Cannot read owned interface address state")
      else pure false
  | "config" :: "interface" :: "ip" :: "remove" :: rest =>
      throw (.valueError (if rest.length < 2 then
        "not enough values to unpack (expected 2, got " ++ toString rest.length ++ ")"
        else "too many values to unpack (expected 2)"))
  | _ => pure false

/-- Whether the rule that the commands delete is already absent. -/
def ruleAbsent (device : String) : List String → Program δ Raised Bool
  | "iptables" :: "-D" :: rule => do
      let container ← Program.ofExcept (containerAt net.ctx device)
      let check ← dockerExec net.shell container ("iptables" :: "-C" :: rule)
      if check.returncode = 1 then pure true
      else if check.returncode ≠ 0 then
        throw (.runtimeError (Text.either check.stderr "ACL presence check failed"))
      else pure false
  | _ => pure false

/-- The body of the loop of `recover` -/
def restoreOperation (device : String) (operation : Operation) : Program δ Raised PUnit := do
  let commands ← restoreCommands net device operation
  let addressGone ← addressAbsent net device commands
  if addressGone = true then pure ⟨⟩
  else do
    let ruleGone ← ruleAbsent net device commands
    if ruleGone = true then pure ⟨⟩
    else do
      let _ ← run net device operation.kind commands
      pure ⟨⟩

end NetworkFaultHandler

/-! ## The world of an injection -/

/-- How a restore ended. -/
structure RestoreAttempt : Type where
  operation : Operation
  succeeded : Bool
  deriving DecidableEq, Repr

/-- The lab, the tracker and the dictionary `info` of the injection that runs. The last three
lists record which operations were begun, which were executed, and which were restored. -/
structure NetworkWorld (δ : Type) : Type where
  lab : δ
  tracker : FaultTracker NetworkMetadata := {}
  info : NetworkFault := { type := "", metadata := {} }
  attempted : List Operation := []
  applied : List Operation := []
  restores : List RestoreAttempt := []

abbrev Injection (δ : Type) : Type → Type := Program (NetworkWorld δ) Raised

namespace NetworkWorld

variable {δ α : Type}

/-- Commands in the lab. -/
def perform (commands : Program δ Raised α) : Injection δ α := do
  let world ← get
  modify fun world : NetworkWorld δ => { world with lab := (commands.outcome world.lab).2 }
  Program.ofExcept (commands.outcome world.lab).1

@[simp] theorem outcome_perform (commands : Program δ Raised α) (world : NetworkWorld δ) :
    (perform commands).outcome world =
      ((commands.outcome world.lab).1, { world with lab := (commands.outcome world.lab).2 }) := by
  unfold perform
  rw [Program.outcome_bind_ok (Program.outcome_get world),
    Program.outcome_bind_ok (Program.outcome_modify _ world), Program.outcome_ofExcept]

/-- A change of the tracker. -/
def record (f : FaultTracker NetworkMetadata → FaultTracker NetworkMetadata) : Injection δ PUnit :=
  modify fun world : NetworkWorld δ => { world with tracker := f world.tracker }

/-- An assignment to keys of `info`. -/
def setInfo (f : NetworkFault → NetworkFault) : Injection δ PUnit :=
  modify fun world : NetworkWorld δ => { world with info := f world.info }

end NetworkWorld

namespace NetworkFaultHandler

open NetworkWorld

variable {δ : Type} (net : NetworkServices δ)

/-! ## `recover` -/

structure Recovery : Type where
  type : String
  device : Option String
  recovered : Bool
  error : Option String
  deriving DecidableEq, Repr

/-- `stop_background(control, join_timeout=65)` -/
def stopBackground (controlId : String) : Injection δ Bool := do
  let world ← get
  match world.tracker.backgroundFaultControls.get controlId with
  | none => pure true
  | some control => do
      record fun tracker =>
        tracker.registerBackgroundControl controlId { control with stopRequested := true }
      let ended := net.joinThread controlId world.lab
      modify fun world : NetworkWorld δ => { world with lab := ended.2 }
      if ended.1 = true then
        record fun tracker => { tracker with
          backgroundFaultControls := tracker.backgroundFaultControls.erase controlId }
        pure true
      else pure false

/-- One turn of the loop of `recover`, with the error that it adds. -/
def attemptRestore (device : String) (operation : Operation) : Injection δ (List String) := do
  let errors ← tryCatch
    (do let _ ← perform (restoreOperation net device operation); pure [])
    fun exc => pure [exc.message]
  modify fun world : NetworkWorld δ => { world with
    restores := world.restores ++ [⟨operation, decide (errors = [])⟩] }
  pure errors

/-- The loop of `recover`, with the errors that it collects. -/
def restoreAll (device : String) : List Operation → Injection δ (List String)
  | [] => pure []
  | operation :: operations => do
      let errors ← attemptRestore net device operation
      let later ← restoreAll device operations
      pure (errors ++ later)

/-- The controller of a fault, if it has one. -/
def stopController (fault : NetworkFault) : Injection δ Bool :=
  match fault.metadata.controlId with
  | none => pure true
  | some control => stopBackground net control

/-- `remove_faults` for the faults with the identifier of `fault` -/
def removeOwned (fault : NetworkFault) (tracker : FaultTracker NetworkMetadata) :
    FaultTracker NetworkMetadata :=
  match fault.metadata.faultId with
  | none => tracker
  | some owner => tracker.removeFaults fun other => decide (other.metadata.faultId = some owner)

/-- `recover` -/
def recover (fault : NetworkFault) : Injection δ Recovery := do
  let stopped ← stopController net fault
  if stopped = false then
    pure
      { type := fault.type
        device := none
        recovered := false
        error := some "Periodic controller still running" }
  else do
    let errors ← restoreAll net (fault.device.getD "") fault.metadata.journal.reverse
    record fun tracker => if errors = [] then removeOwned fault tracker else tracker
    pure
      { type := fault.type
        device := fault.device
        recovered := decide (errors = [])
        error := if errors = [] then none else some (Text.join "; " errors) }

/-! ## `inject` -/

/-- The dictionary that `inject` begins with. -/
def newInfo (episode : NetworkEpisode) : NetworkFault :=
  { type := episode.faultType
    device := some episode.targetDevice
    interface := episode.targetInterface
    success := false
    error := none
    metadata :=
      { faultId := some net.faultId
        prefixText := episode.targetPrefix
        mechanism := some (episode.mechanism.getD episode.faultType) } }

/-- The loop of `inject`: every operation is journaled before it is executed. -/
def executeAll (device : String) : List Operation → Injection δ PUnit
  | [] => pure ⟨⟩
  | operation :: operations => do
      setInfo fun info => { info with
        metadata := { info.metadata with journal := info.metadata.journal ++ [operation] } }
      modify fun world : NetworkWorld δ => { world with
        attempted := world.attempted ++ [operation] }
      let _ ← perform (run net device operation.kind operation.apply)
      modify fun world : NetworkWorld δ => { world with applied := world.applied ++ [operation] }
      executeAll device operations

/-- The periodic controller of `route_flapping` -/
def startController (episode : NetworkEpisode) : Injection δ PUnit := do
  let downTime := episode.downTime.getD net.ctx.flappingDownSeconds
  let upTime := episode.upTime.getD net.ctx.flappingUpSeconds
  if min downTime upTime ≤ 0 then
    throw (.valueError "Periodic fault intervals must be positive")
  else do
    record fun tracker => tracker.registerBackgroundControl net.controlId
      { downTime := downTime, upTime := upTime }
    perform net.startThread
    setInfo fun info => { info with
      metadata := { info.metadata with controlId := some net.controlId } }

/-- A flapping fault is in its first fault phase already: only the waiting loop starts. -/
def keepFlapping (episode : NetworkEpisode) : Injection δ PUnit :=
  if episode.faultType = "route_flapping" then startController net episode else pure ⟨⟩

/-- The body of the `try` -/
def injectBody (episode : NetworkEpisode) : Injection δ PUnit := do
  let (operations, evidence) ← perform (net.prepare episode)
  setInfo fun info => { info with metadata := { info.metadata with evidence := evidence } }
  executeAll net episode.targetDevice operations
  let world ← get
  perform (verifyWritten net episode world.info)
  keepFlapping net episode
  setInfo fun info => { info with success := true }
  let world ← get
  record fun tracker => tracker.track world.info

/-- `info["error"] = error` -/
def withError (error : String) (info : NetworkFault) : NetworkFault :=
  { info with error := some error }

/-- The error of an injection that was not compensated. -/
def residualError (exc : Raised) (recovery : Recovery) : String :=
  exc.message ++ "; compensation: " ++ recovery.error.getD "None"

/-- The `except` clause -/
def compensate (exc : Raised) : Injection δ PUnit := do
  setInfo (withError exc.message)
  let world ← get
  let recovery ← recover net world.info
  if recovery.recovered = true then pure ⟨⟩
  else do
    let error := residualError exc recovery
    setInfo (withError error)
    let world ← get
    record fun tracker => tracker.trackResidual world.info error

/-- `inject` -/
def inject (episode : NetworkEpisode) : Injection δ NetworkFault := do
  setInfo fun _ => newInfo net episode
  tryCatch (injectBody net episode) (compensate net)
  let world ← get
  pure world.info

end NetworkFaultHandler

end NetOpsBench
