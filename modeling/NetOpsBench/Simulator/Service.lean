import Mathlib.Algebra.Order.Ring.Unbundled.Rat
import Mathlib.Logic.Function.Basic
import NetOpsBench.Lib.Dict
import NetOpsBench.Lib.Sorting

/-!
# The slots of the simulator service

`platform/simulator/service.py`. A thread of the service stops between any two effects on a slot and
at every call of an environment; a block under the lock of the table is one step. Environments are
numbered in the order in which the manager makes them, and the slot of an environment has its
number for an address. `uuid4` never gives an id twice. The event log of the service is left out.
-/

namespace NetOpsBench

/-- `_EnvironmentSlot`; `lock` is the thread that holds the lock. -/
structure EnvironmentSlot : Type where
  environment : Option Nat
  caseId : String
  terminal : Bool := false
  terminalAt : Option Rat := none
  lock : Option Nat := none
  deriving DecidableEq

/-- What happens to an environment, and to the lock of its slot. -/
inductive EnvironmentEvent : Type where
  /-- `step` or `terminate_protocol` starts. -/
  | started
  /-- A terminal result is returned. -/
  | ended
  /-- `delete` or `close` takes the lock of the slot. -/
  | taken
  | closed
  deriving DecidableEq

/-- Where a thread is. -/
inductive ServiceCall : Type where
  | idle
  /-- `create`, while the environment is reset. -/
  | resetting (environment : Nat) (caseId id : String)
  /-- `create`, before it closes an environment that is not valid. -/
  | refused (environment : Nat) (caseId id : String)
  /-- `create`, before it takes the lock of the table. -/
  | placing (environment : Nat) (caseId id : String) (terminal : Bool)
  /-- `step`, before it takes the lock of the slot. -/
  | waiting (slot : Nat)
  /-- `step`, while the environment acts. -/
  | acting (slot environment : Nat)
  /-- `step`, before it closes an environment that has ended. -/
  | ended (slot environment : Nat)
  /-- `step`, before it clears `slot.environment`. -/
  | closed (slot : Nat)
  /-- `step`, before it sets `slot.terminal_at`. -/
  | cleared (slot : Nat)
  /-- `step`, before it prunes. -/
  | stamped (slot : Nat)
  /-- `step`, before it gives the lock back. -/
  | pruned (slot : Nat)
  /-- `delete` or `close`, before it takes the lock of the next slot. -/
  | sweeping (rest : List Nat)
  /-- `delete` or `close`, with the lock of a slot. -/
  | taken (slot : Nat) (rest : List Nat)
  /-- `delete` or `close`, before it clears `slot.environment`. -/
  | swept (slot : Nat) (rest : List Nat)
  /-- `delete` or `close`, before it gives the lock back. -/
  | emptied (slot : Nat) (rest : List Nat)
  deriving DecidableEq

/-- How `step` or `terminate_protocol` of an environment ends. -/
inductive ActionOutcome : Type where
  | raised
  | continued
  | terminal
  deriving DecidableEq

/-- What a thread meets when it goes on: the result of `reset`, that of an action, and the readings
of the clock. -/
structure ServiceAnswer : Type where
  valid : Bool := true
  outcome : ActionOutcome := .continued
  now : Nat → Rat := fun _ => 0

inductive ServiceMove : Type where
  | create (caseId id : String)
  | step (id : String) (now : Rat)
  | delete (id : String)
  | close
  | proceed (answer : ServiceAnswer)

/-- The service, with what has happened to each environment. -/
structure SimulatorService : Type where
  scenarios : List String
  environments : Dict String Nat := .empty
  slots : Nat → Option EnvironmentSlot := fun _ => none
  calls : Nat → ServiceCall := fun _ => .idle
  obtained : Nat := 0
  issued : List String := []
  log : Nat → List EnvironmentEvent := fun _ => []

/-- `_TERMINAL_TOMBSTONE_TTL_SECONDS` -/
def terminalTombstoneTtlSeconds : Rat := 3600

/-- `_MAX_TERMINAL_TOMBSTONES` -/
def maxTerminalTombstones : Nat := 1024

namespace EnvironmentSlot

/-- A terminal slot without an environment. -/
def tombstone (slot : EnvironmentSlot) : Bool := slot.terminal && slot.environment.isNone

def expired (now : Rat) (slot : EnvironmentSlot) : Bool :=
  slot.tombstone && slot.terminalAt.any fun at_ => decide (terminalTombstoneTtlSeconds ≤ now - at_)

/-- `item[1].terminal_at or float("inf")`; nothing stands for infinity -/
def age (slot : EnvironmentSlot) : Option Rat := slot.terminalAt.filter fun at_ => decide (at_ ≠ 0)

def ageLe : Option Rat → Option Rat → Bool
  | _, none => true
  | none, some _ => false
  | some first, some second => decide (first ≤ second)

end EnvironmentSlot

namespace SimulatorService

/-- Whether the slot of an entry of the table passes a test. -/
def slotTest (service : SimulatorService) (test : EnvironmentSlot → Bool) (entry : String × Nat) :
    Bool :=
  (service.slots entry.2).any test

/-- The entries of the table that are terminal tombstones. -/
def tombstones (service : SimulatorService) : List (String × Nat) :=
  service.environments.entries.filter (service.slotTest EnvironmentSlot.tombstone)

/-- `self.environments.pop(environment_id, None)`, for each of the entries -/
def popAll (service : SimulatorService) (entries : List (String × Nat)) : SimulatorService :=
  { service with
    environments := entries.foldl (fun table entry => table.erase entry.1) service.environments }

/-- The tombstones, the oldest first. -/
def terminalIds (service : SimulatorService) : List (String × Nat) :=
  (Sorting.sorted
    (fun first second =>
      EnvironmentSlot.ageLe ((service.slots first.2).bind EnvironmentSlot.age)
        ((service.slots second.2).bind EnvironmentSlot.age))
    service.environments.entries).filter (service.slotTest EnvironmentSlot.tombstone)

/-- `_prune_terminal_environments` -/
def pruneTerminalEnvironments (service : SimulatorService) (now : Rat) : SimulatorService :=
  let service := service.popAll
    (service.environments.entries.filter (service.slotTest (EnvironmentSlot.expired now)))
  service.popAll (service.terminalIds.take (service.terminalIds.length - maxTerminalTombstones))

def goto (service : SimulatorService) (thread : Nat) (call : ServiceCall) : SimulatorService :=
  { service with calls := Function.update service.calls thread call }

def modifySlot (service : SimulatorService) (slot : Nat) (f : EnvironmentSlot → EnvironmentSlot) :
    SimulatorService :=
  { service with slots := Function.update service.slots slot ((service.slots slot).map f) }

def note (service : SimulatorService) (environment : Nat) (event : EnvironmentEvent) :
    SimulatorService :=
  { service with
    log := Function.update service.log environment (service.log environment ++ [event]) }

/-- The end of a `with slot.lock` block. -/
def unlock (service : SimulatorService) (slot : Nat) : SimulatorService :=
  service.modifySlot slot fun slot => { slot with lock := none }

/-- `create`, up to `environment.reset()` -/
def create (service : SimulatorService) (thread : Nat) (caseId id : String) : SimulatorService :=
  if caseId ∈ service.scenarios ∧ id ∉ service.issued then
    { service with obtained := service.obtained + 1, issued := id :: service.issued }.goto thread
      (.resetting service.obtained caseId id)
  else service

/-- The block of `create` under the lock of the table -/
def place (service : SimulatorService) (environment : Nat) (caseId id : String) (terminal : Bool)
    (now : Nat → Rat) : SimulatorService :=
  let service := service.pruneTerminalEnvironments (now 0)
  let slot : EnvironmentSlot :=
    { environment := if terminal then none else some environment
      caseId
      terminal
      terminalAt := if terminal then some (now 1) else none }
  { service with
    environments := service.environments.set id environment
    slots := Function.update service.slots environment (some slot) }.pruneTerminalEnvironments (now 2)

/-- `step`, up to the lock of the slot -/
def lookUp (service : SimulatorService) (thread : Nat) (id : String) (now : Rat) :
    SimulatorService :=
  let service := service.pruneTerminalEnvironments now
  match service.environments.get id with
  | none => service
  | some slot => service.goto thread (.waiting slot)

/-- `step`, once the lock of the slot is free -/
def act (service : SimulatorService) (thread slot : Nat) : SimulatorService :=
  match service.slots slot with
  | none => service
  | some state =>
      if state.lock ≠ none then service
      else if state.terminal then service.goto thread .idle
      else
        match state.environment with
        | none => service.goto thread .idle
        | some environment =>
            ((service.modifySlot slot fun state => { state with lock := some thread }).note
              environment .started).goto thread (.acting slot environment)

/-- `step`, with the result of the environment -/
def conclude (service : SimulatorService) (thread slot environment : Nat) :
    ActionOutcome → SimulatorService
  | .raised => (service.unlock slot).goto thread .idle
  | .continued =>
      ((service.modifySlot slot fun state => { state with terminal := false }).unlock slot).goto
        thread .idle
  | .terminal =>
      ((service.modifySlot slot fun state => { state with terminal := true }).note environment
        .ended).goto thread (.ended slot environment)

/-- `delete`, up to the lock of the slot -/
def delete (service : SimulatorService) (thread : Nat) (id : String) : SimulatorService :=
  match service.environments.get id with
  | none => service
  | some slot =>
      { service with environments := service.environments.erase id }.goto thread (.sweeping [slot])

/-- `close`, up to the lock of the first slot -/
def close (service : SimulatorService) (thread : Nat) : SimulatorService :=
  { service with environments := .empty }.goto thread (.sweeping service.environments.values)

/-- The next slot of `delete` or `close`, once its lock is free -/
def take (service : SimulatorService) (thread slot : Nat) (rest : List Nat) : SimulatorService :=
  match service.slots slot with
  | none => service
  | some state =>
      if state.lock ≠ none then service
      else
        ((service.modifySlot slot fun state => { state with lock := some thread }).note slot
          .taken).goto thread (.taken slot rest)

/-- `delete` or `close`, with the lock of a slot -/
def sweep (service : SimulatorService) (thread slot : Nat) (rest : List Nat) : SimulatorService :=
  match (service.slots slot).bind EnvironmentSlot.environment with
  | none => (service.unlock slot).goto thread (.sweeping rest)
  | some environment => (service.note environment .closed).goto thread (.swept slot rest)

/-- A thread goes on from where it is. -/
def proceed (service : SimulatorService) (thread : Nat) (answer : ServiceAnswer) :
    SimulatorService :=
  match service.calls thread with
  | .idle => service
  | .resetting environment caseId id =>
      if answer.valid then service.goto thread (.placing environment caseId id false)
      else (service.note environment .ended).goto thread (.refused environment caseId id)
  | .refused environment caseId id =>
      (service.note environment .closed).goto thread (.placing environment caseId id true)
  | .placing environment caseId id terminal =>
      (service.place environment caseId id terminal answer.now).goto thread .idle
  | .waiting slot => service.act thread slot
  | .acting slot environment => service.conclude thread slot environment answer.outcome
  | .ended slot environment => (service.note environment .closed).goto thread (.closed slot)
  | .closed slot =>
      (service.modifySlot slot fun state => { state with environment := none }).goto thread
        (.cleared slot)
  | .cleared slot =>
      (service.modifySlot slot fun state => { state with terminalAt := some (answer.now 0) }).goto
        thread (.stamped slot)
  | .stamped slot => (service.pruneTerminalEnvironments (answer.now 0)).goto thread (.pruned slot)
  | .pruned slot => (service.unlock slot).goto thread .idle
  | .sweeping [] => service.goto thread .idle
  | .sweeping (slot :: rest) => service.take thread slot rest
  | .taken slot rest => service.sweep thread slot rest
  | .swept slot rest =>
      (service.modifySlot slot fun state => { state with environment := none }).goto thread
        (.emptied slot rest)
  | .emptied slot rest => (service.unlock slot).goto thread (.sweeping rest)

/-- A thread that is idle starts a call, or one that is not goes on. -/
def advance (service : SimulatorService) (thread : Nat) : ServiceMove → SimulatorService
  | .create caseId id =>
      if service.calls thread = .idle then service.create thread caseId id else service
  | .step id now => if service.calls thread = .idle then service.lookUp thread id now else service
  | .delete id => if service.calls thread = .idle then service.delete thread id else service
  | .close => if service.calls thread = .idle then service.close thread else service
  | .proceed answer => service.proceed thread answer

def run (service : SimulatorService) (moves : List (Nat × ServiceMove)) : SimulatorService :=
  moves.foldl (fun service move => service.advance move.1 move.2) service

end SimulatorService

end NetOpsBench
