import NetOpsBench.Incident.Engine
import NetOpsBench.Lib.Dict
import NetOpsBench.Lib.Text

/-!
# Leases of warm runtimes

`RuntimeLeasePool` and `RuntimeEpisodeBackend` of `netopsbench/platform/simulator/runtime.py`.
A record is known by its place in `LeaseWorld.heap`. The methods of the pool hold its lock, so
each of them is one step, and so is each turn of the loop of `acquire`; a backend can be
overtaken between its steps. The clock, the teardowns and the provisioning answer by script.
-/

namespace NetOpsBench

open Fallible Program

/-! ## The records -/

structure WarmRuntime : Type where
  /-- `runtime.name` -/
  name : String
  /-- `runtime.scale` -/
  scale : String
  inUse : Bool := false
  leaseDeadline : Rat := 0
  quarantined : Bool := false
  deriving DecidableEq, Repr

/-- What a method of a backend is about to do to a record that it holds no more. -/
structure LeaseEnding : Type where
  record : Nat
  broken : Bool
  /-- What the method raises afterwards. -/
  raises : Option Thrown

inductive BackendStage : Type where
  | idle
  /-- In the loop of `acquire`, until a deadline. -/
  | acquiring (scale : String) (deadline : Rat)
  /-- In `prepare`, with a lease. -/
  | preparing
  | ending (ending : LeaseEnding)

structure RuntimeEpisodeBackend : Type where
  record : Option Nat := none
  /-- `delegate is not None` -/
  delegate : Bool := false
  stage : BackendStage := .idle

/-- The pool and its backends; `tornDown` and `handedOut` are records of what has happened. -/
structure LeaseWorld : Type where
  /-- Every record that was ever made. -/
  heap : List WarmRuntime := []
  /-- `_runtimes` -/
  runtimes : Dict String (List Nat) := .empty
  backends : List RuntimeEpisodeBackend
  tornDown : List Nat := []
  handedOut : List Nat := []

abbrev LeaseProgram : Type → Type := Program LeaseWorld Thrown

/-- What `_stop_traffic` and `teardown` answer. -/
structure TeardownScript : Type where
  stopTraffic : Except Thrown Unit := .ok ()
  teardown : Except Thrown Unit := .ok ()

def leaseWaitTimeoutSeconds : Rat := 1800

namespace LeaseWorld

/-- The records of the pool. -/
def pooled (world : LeaseWorld) : List Nat := world.runtimes.values.flatten

/-- `_runtime_count` -/
def runtimeCount (world : LeaseWorld) : Nat := (world.runtimes.values.map List.length).sum

/-- A record that can be handed out. -/
def Available (world : LeaseWorld) (record : Nat) : Prop :=
  ∃ state, world.heap[record]? = some state ∧ state.inUse = false ∧ state.quarantined = false

instance (world : LeaseWorld) (record : Nat) : Decidable (world.Available record) :=
  match found : world.heap[record]? with
  | none => isFalse fun ⟨_, at_, _⟩ => by rw [found] at at_; cases at_
  | some state =>
      if idle : state.inUse = false ∧ state.quarantined = false then
        isTrue ⟨state, found, idle.1, idle.2⟩
      else isFalse fun ⟨_, at_, both⟩ => by
        rw [found] at at_
        exact idle (Option.some.inj at_ ▸ both)

/-- The lease of a record has run out. -/
def stale (world : LeaseWorld) (now : Rat) (record : Nat) : Bool :=
  match world.heap[record]? with
  | none => false
  | some state => state.inUse && decide (state.leaseDeadline ≠ 0) && decide (state.leaseDeadline < now)

end LeaseWorld

namespace RuntimeLeasePool

def modifyRecord (record : Nat) (f : WarmRuntime → WarmRuntime) : LeaseProgram Unit :=
  modify fun world => { world with heap := world.heap.modify record f }

def release (record : Nat) : LeaseProgram Unit :=
  modifyRecord record fun state => { state with inUse := false, leaseDeadline := 0 }

def refresh (config : SimulatorConfig) (record : Nat) (minSeconds now : Rat) : LeaseProgram Unit :=
  modifyRecord record fun state =>
    if state.inUse && !state.quarantined then
      { state with
        leaseDeadline := now + max (config.orphanLeaseTtlSeconds : Rat) (minSeconds + 300) }
    else state

/-- `_remove` -/
def remove (record : Nat) : LeaseProgram Unit :=
  modify fun world =>
    match world.heap[record]? with
    | none => world
    | some state =>
        match world.runtimes.get state.scale with
        | none => world
        | some records =>
            { world with runtimes := world.runtimes.set state.scale (records.erase record) }

/-- `quarantine`: a failed teardown leaves the record in the pool. -/
def quarantine (record : Nat) (script : TeardownScript) : LeaseProgram Unit := do
  modifyRecord record fun state =>
    { state with quarantined := true, inUse := false, leaseDeadline := 0 }
  tryCatch (Program.ofExcept script.stopTraffic) fun _ => pure ()
  Program.ofExcept script.teardown
  modify fun world => { world with tornDown := world.tornDown ++ [record] }
  remove record

/-- The text of a failed teardown in `drain`. -/
def drainFailure (name : String) (thrown : Thrown) : String :=
  name ++ ": " ++ thrown.errorType ++ ": " ++ thrown.message

/-- The loop of `drain`: the failures, in order. -/
def drainAll (script : Nat → TeardownScript) : List Nat → LeaseProgram (List String)
  | [] => pure []
  | record :: records => do
      let world ← get
      let name := (world.heap[record]?.map WarmRuntime.name).getD ""
      let failures ← tryCatch (do
        quarantine record (script record)
        pure []) fun thrown => pure [drainFailure name thrown]
      let rest ← drainAll script records
      pure (failures ++ rest)

def drain (scales : Option (List String)) (script : Nat → TeardownScript) : LeaseProgram Unit := do
  let world ← get
  let selected := (world.runtimes.entries.filter fun entry =>
    scales.all fun scales => scales.contains entry.1).flatMap Prod.snd
  let failures ← drainAll script selected
  Program.ofExcept (reject (failures ≠ [])
    (.runtimeError ("Simulator runtime drain failed: " ++ Text.join "; " failures)))

/-- `quarantine` in a loop that goes on after a failure. -/
def quarantineQuietly (script : Nat → TeardownScript) (record : Nat) : LeaseProgram Unit :=
  tryCatch (quarantine record (script record)) fun _ => pure ()

def quarantineAll (script : Nat → TeardownScript) : List Nat → LeaseProgram Unit
  | [] => pure ()
  | record :: records => do
      quarantineQuietly script record
      quarantineAll script records

def reapOrphans (now : Rat) (script : Nat → TeardownScript) : LeaseProgram Unit := do
  let world ← get
  quarantineAll script (world.pooled.filter (world.stale now))

/-- The loop of `_make_capacity_for`; after a failed teardown the count is not looked at. -/
def evict (config : SimulatorConfig) (script : Nat → TeardownScript) : List Nat → LeaseProgram Unit
  | [] => pure ()
  | record :: records => do
      let done ← tryCatch (do
        quarantine record (script record)
        pure true) fun _ => pure false
      let world ← get
      if done ∧ world.runtimeCount < config.maxActiveRuntimes then pure ()
      else evict config script records

/-- `_make_capacity_for` -/
def makeCapacityFor (config : SimulatorConfig) (scale : String) (script : Nat → TeardownScript) :
    LeaseProgram Unit := do
  let world ← get
  if world.runtimeCount < config.maxActiveRuntimes then pure ()
  else
    evict config script (((world.runtimes.entries.filter fun entry => entry.1 ≠ scale).flatMap
      Prod.snd).filter fun record => world.Available record)

/-- `self._runtimes.setdefault(scale, [])` -/
def setdefault (scale : String) : LeaseProgram (List Nat) := do
  let world ← get
  match world.runtimes.get scale with
  | some records => pure records
  | none => do
      modify fun world : LeaseWorld => { world with runtimes := world.runtimes.set scale [] }
      pure []

/-- `_provision` and the `append` after it; the answer is the name of the runtime. -/
def provision (scale : String) (answer : Except Thrown String) : LeaseProgram Nat := do
  let name ← Program.ofExcept answer
  let world ← get
  let record := world.heap.length
  modify fun world : LeaseWorld =>
    { world with
      heap := world.heap ++ [{ name, scale }]
      runtimes :=
        world.runtimes.set scale ((world.runtimes.get scale).getD [] ++ [record]) }
  pure record

/-- What the surroundings answer in one turn of the loop of `acquire`. -/
structure AcquireScript : Type where
  /-- `time.monotonic()` in `reap_orphans`, for the new deadline, and before the wait. -/
  reapNow : Rat
  leaseNow : Rat
  waitNow : Rat
  reaped : Nat → TeardownScript
  evicted : Nat → TeardownScript
  provisioned : Except Thrown String

/-- The record that a turn of `acquire` finds, evicts for or provisions. -/
def findRecord (config : SimulatorConfig) (scale : String) (script : AcquireScript) :
    LeaseProgram (Option Nat) := do
  let records ← setdefault scale
  let world ← get
  match records.find? fun record => world.Available record with
  | some record => pure (some record)
  | none => do
      makeCapacityFor config scale script.evicted
      let _ ← setdefault scale
      let after ← get
      if after.runtimeCount < config.maxActiveRuntimes then
        let record ← provision scale script.provisioned
        pure (some record)
      else pure none

/-- One turn of the loop of `acquire`: a lease, or none yet. -/
def acquireTurn (config : SimulatorConfig) (scale : String) (deadline : Rat)
    (script : AcquireScript) : LeaseProgram (Option Nat) := do
  reapOrphans script.reapNow script.reaped
  match ← findRecord config scale script with
  | some record => do
      modifyRecord record fun state =>
        { state with
          inUse := true
          leaseDeadline := script.leaseNow + config.orphanLeaseTtlSeconds }
      modify fun world => { world with handedOut := world.handedOut ++ [record] }
      pure (some record)
  | none => do
      Program.ofExcept (reject (deadline - script.waitNow ≤ 0)
        (.runtimeError ("Timed out waiting for runtime lease for scale " ++ scale ++
          "; global capacity is " ++ toString config.maxActiveRuntimes)))
      pure none

end RuntimeLeasePool

/-! ## The backends -/

namespace RuntimeEpisodeBackend

open RuntimeLeasePool

def modifyBackend (backend : Nat) (f : RuntimeEpisodeBackend → RuntimeEpisodeBackend) :
    LeaseProgram Unit :=
  modify fun world => { world with backends := world.backends.modify backend f }

/-- The backend as it is before a step. -/
def current (backend : Nat) : LeaseProgram RuntimeEpisodeBackend := do
  let world ← get
  pure (world.backends[backend]?.getD {})

/-- The start of `prepare`: the deadline of `acquire`. -/
def beginPrepare (backend : Nat) (scale : String) (now : Rat) : LeaseProgram Unit := do
  let state ← current backend
  match state.stage with
  | .idle => modifyBackend backend fun state =>
      { state with stage := .acquiring scale (now + leaseWaitTimeoutSeconds) }
  | _ => pure ()

/-- A turn of `acquire` in `prepare`. -/
def acquire (config : SimulatorConfig) (backend : Nat) (script : AcquireScript) :
    LeaseProgram Unit := do
  let state ← current backend
  match state.stage with
  | .acquiring scale deadline =>
      tryCatch (do
        match ← acquireTurn config scale deadline script with
        | some record => modifyBackend backend fun state =>
            { state with record := some record, stage := .preparing }
        | none => pure ())
        fun thrown => do
          modifyBackend backend fun state => { state with stage := .idle }
          throw thrown
  | _ => pure ()

/-- The first part of `finish`: the delegate is finished, and the lease is given up. -/
def giveUp (backend : Nat) (broken : Bool) (delegate : Except Thrown Unit)
    (otherwise : Option Thrown) : LeaseProgram Unit := do
  let state ← current backend
  match state.record with
  | none => do
      modifyBackend backend fun state => { state with stage := .idle }
      match otherwise with
      | some thrown => throw thrown
      | none => pure ()
  | some record =>
      let failure : Option Thrown :=
        if state.delegate then
          match delegate with
          | .error thrown => some thrown
          | .ok () => none
        else none
      let ending : LeaseEnding :=
        { record
          broken := broken || failure.isSome
          raises :=
            match failure with
            | some thrown =>
                if broken then otherwise
                else some (.runtimeError (thrown.errorType ++ ": " ++ thrown.message))
            | none => otherwise }
      modifyBackend backend fun state =>
        { state with record := none, delegate := false, stage := .ending ending }

def finish (backend : Nat) (broken : Bool) (delegate : Except Thrown Unit) :
    LeaseProgram Unit := do
  let state ← current backend
  match state.stage with
  | .idle => giveUp backend broken delegate none
  | _ => pure ()

/-- How the part of `prepare` that has a lease ends. -/
inductive Preparation : Type where
  | ready
  /-- The scenario does not fit the topology. -/
  | topologyInvalid (thrown : Thrown)
  /-- `_BaselineNotReadyError`, and what a delegate would answer to `finish`. -/
  | baselineNotReady (thrown : Thrown) (delegate : Except Thrown Unit)
  /-- Another exception, before or after the delegate was made. -/
  | failed (thrown : Thrown) (delegate : Bool)

/-- The rest of `prepare`. -/
def endPrepare (backend : Nat) (preparation : Preparation) : LeaseProgram Unit := do
  let state ← current backend
  match state.stage with
  | .preparing =>
      match preparation with
      | .ready => modifyBackend backend fun state => { state with delegate := true, stage := .idle }
      | .topologyInvalid thrown =>
          match state.record with
          | none => pure ()
          | some record => modifyBackend backend fun state =>
              { state with record := none, stage := .ending ⟨record, false, some thrown⟩ }
      | .baselineNotReady thrown delegate => giveUp backend false delegate (some thrown)
      | .failed thrown delegate => do
          modifyBackend backend fun state =>
            { state with delegate := state.delegate || delegate, stage := .idle }
          throw thrown
  | _ => pure ()

/-- The lease goes back to the pool. -/
def giveBack (ending : LeaseEnding) (script : TeardownScript) : LeaseProgram Unit :=
  if ending.broken then quarantine ending.record script else release ending.record

/-- The method that gave the lease up ends after giving it back. -/
def settle (backend : Nat) (script : TeardownScript) : LeaseProgram Unit := do
  let state ← current backend
  match state.stage with
  | .ending ending => do
      modifyBackend backend fun state => { state with stage := .idle }
      giveBack ending script
      match ending.raises with
      | some thrown => throw thrown
      | none => pure ()
  | _ => pure ()

def refresh (config : SimulatorConfig) (backend : Nat) (minSeconds now : Rat) :
    LeaseProgram Unit := do
  let state ← current backend
  match state.record with
  | none => pure ()
  | some record => RuntimeLeasePool.refresh config record minSeconds now

end RuntimeEpisodeBackend

end NetOpsBench
