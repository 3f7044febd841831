import NetOpsBench.Session.Accounting

/-!
# Acceptance campaigns

`netopsbench/platform/session/acceptance.py`, for one scale of a campaign: what is recorded of the
cases, what a resumed process still runs, and when `acceptance.json` is replaced. A worker runs its
cases as in `Dispatch`. A process that is killed is one that raises and of which no later write is
made.
-/

namespace NetOpsBench

namespace Acceptance

open Fallible Program ExecutionControl

variable {Evaluation : Type}

/-! ## Records -/

/-- What is read of a report in `cases`. -/
structure CaseReport : Type where
  /-- Whether `mode` is `effects`. -/
  effects : Bool
  /-- Whether `diagnosis_complete` is `True`. -/
  diagnosisComplete : Bool := false
  /-- Whether there is an `acceptance_error`. -/
  acceptanceError : Bool := false
  scenarioSummaries : List ScenarioSummary

/-- The record of one agent. -/
structure AgentRecord : Type where
  identity : String
  cases : List CaseReport := []
  selectedCases : Option (List String) := none
  scenarioSha256 : Option (Dict String String) := none

/-- `agents` of the entry of a scale -/
abbrev Agents : Type := Dict String AgentRecord

/-- A scenario and the hash of its file. -/
structure CaseFile : Type where
  spec : ScenarioSpec
  sha256 : String

inductive AcceptanceError : Type where
  | valueError (message : String)
  | runtimeError (message : String)
  | fileNotFound
  /-- What dispatch raises. -/
  | dispatch (error : DispatchError)
  /-- What any other called function raises. -/
  | raised (error : String)
  deriving DecidableEq, Repr

/-- A summary of this report is of a completed case. -/
def CaseReport.counts (report : CaseReport) (summary : ScenarioSummary) : Bool :=
  !report.acceptanceError && decide (summary.caseValid = some true) &&
    ((report.effects && !(summary.cleanupFailed.getD false) &&
        decide (summary.status = .completed)) ||
      (!report.effects && report.diagnosisComplete))

/-- The cases that a report completes. -/
def CaseReport.completed (report : CaseReport) : List String :=
  (report.scenarioSummaries.filter report.counts).map (·.scenarioId)

/-- `completed_case_ids`, with an entry for every report -/
def completedCaseIds (record : AgentRecord) : List String := record.cases.flatMap (·.completed)

/-- `freeze_cases`: the record that it leaves -/
def freezeCases (record : AgentRecord) (files : List CaseFile) :
    Except AcceptanceError AgentRecord := do
  let hashes : Dict String String := .ofEntries (files.map fun file => (file.spec.id, file.sha256))
  reject (hashes.keys.length ≠ files.length) (.valueError "Acceptance scenario IDs must be unique")
  reject (∃ selected ∈ record.selectedCases,
      ¬ ((∀ id ∈ selected, id ∈ hashes.keys) ∧ ∀ id ∈ hashes.keys, id ∈ selected))
    (.valueError "Acceptance scenario set changed; use a separate campaign")
  reject (∃ previous ∈ record.scenarioSha256, previous.same hashes = false)
    (.valueError "Acceptance scenario contents changed; use a separate campaign")
  pure
    { record with
      selectedCases := some (record.selectedCases.getD hashes.keys)
      scenarioSha256 := some (record.scenarioSha256.getD hashes) }

/-! ## What a process meets -/

/-- How `run_scenario` ends. -/
inductive CaseEnd : Type where
  /-- The preparation of the incident fails. -/
  | broken
  /-- It stops at an exception, before the execution is recorded. -/
  | raised (caseValid : Bool)
  /-- Without an agent it ends here. With one, `submitted` tells whether the transition of the
  session is that of a submission; any other transition carries a failure. -/
  | ended (submitted : Bool)

def CaseEnd.result (effects : Bool) (cleanup : Option (Option Bool)) (phaseTimings : Option Json) :
    CaseEnd → ScenarioResult
  | .broken => ⟨some false, some false, cleanup, phaseTimings⟩
  | .raised caseValid => ⟨some caseValid, some false, cleanup, phaseTimings⟩
  | .ended submitted => ⟨some true, some (effects || submitted), cleanup, phaseTimings⟩

/-- The agent's diagnosis succeeded and was submitted. -/
def CaseEnd.diagnosisComplete : CaseEnd → Bool
  | .ended submitted => submitted
  | _ => false

/-- What a process meets at one case. -/
structure CaseRun (Evaluation : Type) : Type where
  cancelled : Bool := false
  callback : Except DispatchError Unit := .ok ()
  ending : Except DispatchError CaseEnd
  cleanup : Option (Option Bool) := none
  phaseTimings : Option Json := none
  persist : Except DispatchError String
  score : Except DispatchError (List Evaluation) := .ok []
  quarantine : Except DispatchError Unit := .ok ()
  /-- `generate_report` in `on_case` -/
  aggregate : Except DispatchError Unit := .ok ()

def CaseRun.script (effects : Bool) (case : CaseRun Evaluation) : CaseScript Evaluation where
  cancelled := case.cancelled
  callback := case.callback
  run := case.ending.map (·.result effects case.cleanup case.phaseTimings)
  persist := case.persist
  score := case.score
  quarantine := case.quarantine
  onCase := case.aggregate

/-- Whether the report of a case tells that the diagnosis is complete. -/
def CaseRun.diagnosisComplete (effects : Bool) (case : CaseRun Evaluation) : Bool :=
  !effects && succeedsWith case.ending (·.diagnosisComplete)

/-- The report that `on_case` appends. -/
def CaseRun.report (effects : Bool) (case : CaseRun Evaluation) (summary : ScenarioSummary) :
    CaseReport where
  effects
  diagnosisComplete := case.diagnosisComplete effects
  scenarioSummaries := [summary]

/-- What a process meets with one agent. -/
structure AgentScript (Evaluation : Type) : Type where
  /-- What may raise before the cases of the agent are selected. -/
  start : Except AcceptanceError Unit := .ok ()
  files : List CaseFile
  /-- The agent, the artifacts and the executor. -/
  setup : Except AcceptanceError Unit := .ok ()
  worker : RuntimeIdentity
  cases : Nat → CaseRun Evaluation
  /-- `cancel.is_set()` after the last case -/
  cancelled : Bool := false
  /-- An event that is set stays set. -/
  stays : ∀ index, (cases index).cancelled = true → cancelled = true
  /-- The end of the executor, the quarantine and the report of the run. -/
  close : Except AcceptanceError Unit := .ok ()
  /-- `require_full_health` -/
  health : Except AcceptanceError Unit := .ok ()

/-- What becomes of a write of `acceptance.json`. -/
inductive Write : Type where
  | returns
  /-- It raises, with or without having replaced the file. -/
  | raises (replaced : Bool) (error : String)

/-- What one process meets. -/
structure Process (Evaluation : Type) : Type where
  /-- The checks that precede the first `try`. -/
  gate : Except AcceptanceError Unit := .ok ()
  /-- The checks that follow it, up to those of the records. -/
  attach : Except AcceptanceError Unit := .ok ()
  effects : Bool := false
  backends : List String
  identities : String → String
  /-- The selected cases, as `validate_campaign_cases` finds them. -/
  recorded : List CaseFile
  /-- The selected cases, when they are frozen. -/
  selected : List CaseFile
  /-- The deployment and its checks. -/
  deploy : Except AcceptanceError Unit := .ok ()
  agents : String → AgentScript Evaluation
  /-- What may raise after the last agent. -/
  finish : Except AcceptanceError Unit := .ok ()
  release : Except AcceptanceError Unit := .ok ()
  write : Nat → Write

/-! ## The state of a campaign -/

structure Campaign : Type where
  /-- The agents of the entry, in the memory of the process. -/
  agents : Agents
  /-- Those of the entry in `acceptance.json`. -/
  disk : Option Agents
  /-- Every case whose run was begun, with its agent. -/
  ran : List (String × String)
  /-- How often the process has written. -/
  writes : Nat

abbrev CampaignProgram : Type → Type := Program Campaign AcceptanceError

def Campaign.put (s : Campaign) (backend : String) (record : AgentRecord) : Campaign :=
  { s with agents := s.agents.set backend record }

def Campaign.start (s : Campaign) (backend : String) (scenario : ScenarioSpec) : Campaign :=
  { s with ran := s.ran ++ [(backend, scenario.id)] }

/-- A write of the file, which may have replaced it. -/
def Campaign.written (s : Campaign) (replaced : Bool) : Campaign :=
  { s with disk := if replaced then some s.agents else s.disk, writes := s.writes + 1 }

/-- The record of an agent, which is a new one where there is none. -/
def Campaign.record (s : Campaign) (backend identity : String) : AgentRecord :=
  (s.agents.get backend).getD { identity }

/-- A report, appended to the cases of an agent. -/
def Campaign.report (s : Campaign) (backend identity : String) (report : CaseReport) : Campaign :=
  s.put backend
    { s.record backend identity with cases := (s.record backend identity).cases ++ [report] }

/-- What dispatch answers. -/
def dispatched {α : Type} (answer : Except DispatchError α) : CampaignProgram α :=
  Program.ofExcept (answer.mapError .dispatch)

section Process

variable (process : Process Evaluation)

/-- `checkpoint` -/
def checkpoint : CampaignProgram Unit := do
  let s ← get
  match process.write s.writes with
  | .returns => modify (·.written true)
  | .raises replaced error => do
      modify (·.written replaced)
      throw (.raised error)

/-- `freeze_cases`, for the record of an agent -/
def freezeAgent (backend identity : String) (files : List CaseFile) :
    CampaignProgram AgentRecord := do
  let s ← get
  let record ← Program.ofExcept (freezeCases (s.record backend identity) files)
  modify (·.put backend record)
  pure record

/-- `setdefault` and `freeze_cases`, for every agent -/
def freezeAgents (identities : String → String) (files : List CaseFile) :
    List String → CampaignProgram Unit
  | [] => pure ()
  | backend :: later => do
      let _ ← freezeAgent backend (identities backend) files
      freezeAgents identities files later

/-- What `validate_campaign_cases` requires of the records. -/
def validateRecords (agents : Agents) : Except AcceptanceError Unit := do
  reject (agents.keys = []) (.valueError
    "Legacy acceptance checkpoint; retain it as an archive and start a new campaign")
  reject (¬ ((∀ backend ∈ agents.keys, backend ∈ process.backends) ∧
      ∀ backend ∈ process.backends, backend ∈ agents.keys))
    (.valueError "Acceptance agent set changed; use a separate campaign")
  reject (∃ record ∈ agents.values,
      record.selectedCases.isNone = true ∨ record.scenarioSha256.isNone = true)
    (.valueError "Checkpoint lacks immutable case identity; start a separate campaign")

/-- No agent's identity has changed. -/
def checkIdentity (agents : Agents) (backend : String) : Except AcceptanceError Unit :=
  reject (∃ record ∈ agents.get backend, record.identity ≠ process.identities backend)
    (.valueError
      ("Cannot change " ++ backend ++ " configuration when resuming acceptance"))

/-- `validate_campaign_cases`, for the agents of the file -/
def validateCampaignCases : CampaignProgram Unit := do
  let s ← get
  Program.ofExcept (validateRecords process s.agents)
  freezeAgents (fun backend => (s.record backend "").identity) process.recorded s.agents.keys

def validateResumed : Bool → CampaignProgram Unit
  | true => validateCampaignCases process
  | false => pure ()

/-- What precedes the first write. -/
def prepare (resumed : Bool) : CampaignProgram Unit := do
  Program.ofExcept process.attach
  validateResumed process resumed
  let s ← get
  Program.ofExcept (process.backends.forM (checkIdentity process s.agents))

/-- `on_case` -/
def onCase (backend : String) (case : CaseRun Evaluation) (summary : ScenarioSummary) :
    CampaignProgram Unit := do
  dispatched case.aggregate
  modify (·.report backend (process.identities backend) (case.report process.effects summary))
  checkpoint process

/-- The hooks of `run_cases`. -/
def control : ExecutionControl where
  onCase := true
  stopOnFailure := true
  cancelEvent := true
  effectsOnly := process.effects

/-- What follows a cleanup that failed. -/
def markQuarantined (case : CaseScript Evaluation) (result : ScenarioResult) :
    CampaignProgram Unit :=
  if result.cleanupSuccess then pure () else dispatched case.quarantine

/-- A pending case, up to its report. -/
def runScenario (backend : String) (script : AgentScript Evaluation) (index : Nat)
    (scenario : ScenarioSpec) : CampaignProgram (ScenarioResult × String × List Evaluation) := do
  let case := (script.cases index).script process.effects
  modify (·.start backend scenario)
  let ran ← dispatched (runCase (some (control process)) case)
  markQuarantined case ran.1
  onCase process backend (script.cases index) (caseSummary script.worker scenario ran.2.1 ran.1)
  pure ran

/-- The pending cases of an agent from one of them on, as `_run_worker` runs them. -/
def runPending (backend : String) (script : AgentScript Evaluation) (index : Nat)
    (progress : WorkerProgress Evaluation) :
    List ScenarioSpec → CampaignProgram (WorkerProgress Evaluation)
  | [] => pure progress
  | scenario :: later =>
      if (script.cases index).cancelled = true then pure { progress with success := false }
      else do
        let ran ← runScenario process backend script index scenario
        let progress := progress.add script.worker scenario ran
        if stops (some (control process)) ran.1 then
          pure
            { progress with
              summaries :=
                progress.summaries ++ later.map (skippedSummary script.worker ran.1) }
        else runPending backend script (index + 1) progress later

/-- The cases that a record does not tell to be completed. -/
def pendingCases (record : AgentRecord) (files : List CaseFile) : List ScenarioSpec :=
  (files.map (·.spec)).filter fun scenario => scenario.id ∉ completedCaseIds record

/-- `run_cases` -/
def runCases (backend : String) (script : AgentScript Evaluation) : CampaignProgram Bool := do
  let s ← get
  Program.ofExcept (checkIdentity process s.agents backend)
  let record ← freezeAgent backend (process.identities backend) script.files
  if pendingCases record script.files = [] then pure false
  else do
    Program.ofExcept script.setup
    let report ← runPending process backend script 0 {} (pendingCases record script.files)
    Program.ofExcept script.close
    checkpoint process
    if script.cancelled = true ∨ ∃ summary ∈ report.summaries, summary.status ≠ .completed then
      throw (.runtimeError
        (backend ++ " acceptance interrupted; runtime retained after fault recovery"))
    else pure true

/-- `require_full_health`, after an agent with cases or the last one -/
def requireHealth (backend : String) (ran : Bool) : CampaignProgram Unit :=
  if ran = true ∨ process.backends.getLast? = some backend then
    Program.ofExcept (process.agents backend).health
  else pure ()

/-- The agents of a process, one after the other. -/
def runBackends : List String → CampaignProgram Unit
  | [] => pure ()
  | backend :: later => do
      Program.ofExcept (process.agents backend).start
      let ran ← runCases process backend (process.agents backend)
      requireHealth process backend ran
      runBackends later

/-- `try` and `finally` -/
def ensuring (body after : CampaignProgram Unit) : CampaignProgram Unit := do
  tryCatch body fun error => do
    after
    throw error
  after

/-- From the deployment on. -/
def runDeployed : CampaignProgram Unit := do
  Program.ofExcept process.deploy
  checkpoint process
  runBackends process process.backends
  Program.ofExcept process.finish

/-- What a process does until it ends. -/
def runBody (resumed : Bool) : CampaignProgram Unit := do
  prepare process resumed
  checkpoint process
  freezeAgents process.identities process.selected process.backends
  checkpoint process
  ensuring (runDeployed process) do
    checkpoint process
    Program.ofExcept process.release
    checkpoint process

/-- `run_acceptance` for a campaign with this file and these runs. A resumed campaign goes on from
the file. -/
def runAcceptance (resumed : Bool) (s : Campaign) : Except AcceptanceError Unit × Campaign :=
  match process.gate, resumed, s.disk with
  | .error error, _, _ => (.error error, s)
  | .ok _, true, none => (.error .fileNotFound, s)
  | .ok _, true, some agents =>
      outcome (ensuring (runBody process true) (checkpoint process))
        { s with agents := agents, writes := 0 }
  | .ok _, false, _ =>
      outcome (ensuring (runBody process false) (checkpoint process))
        { s with agents := .empty, writes := 0 }

end Process

/-- A campaign after one process and those that resume it. -/
def campaign (first : Process Evaluation) (later : List (Process Evaluation)) : Campaign :=
  later.foldl (fun s process => (runAcceptance process true s).2)
    (runAcceptance first false ⟨.empty, none, [], 0⟩).2

end Acceptance

end NetOpsBench
