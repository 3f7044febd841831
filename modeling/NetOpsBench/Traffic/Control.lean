import NetOpsBench.ClientAgent.TrafficInvariant
import NetOpsBench.Traffic.Plan

/-!
# The traffic control protocol

`TrafficController.start_matrix` of `netopsbench/platform/traffic/controller.py` and the traffic
processes of its clients. Every attempt of a request has a connection of its own: the process
serves it at any time after it was made, also when the controller waits no more for its answer,
or never. The requests of one phase run side by side.
-/

namespace NetOpsBench

open Fallible Program

/-! ## The controller -/

/-- The arguments of one `start_matrix` that its requests carry. -/
structure MatrixCall : Type where
  generation : Nat := 0
  plans : List (String × ClientPlan) := []

def MatrixCall.plan (call : MatrixCall) (client : String) : ClientPlan :=
  (call.plans.lookup client).getD ⟨[], []⟩

inductive ControlPhase : Type where
  | idle
  /-- `_reset_all` -/
  | resetting
  | loading
  | enabling
  /-- `_status_all` -/
  | polling
  /-- `start_matrix` has returned. -/
  | ready
  /-- `_reset_all_best_effort` -/
  | aborting
  deriving DecidableEq, Repr

/-- A request of `_parallel_requests` to one client. -/
structure RequestSlot : Type where
  attempts : Nat := 0
  outstanding : Option Nat := none
  result : Option (Except Unit AgentStatus) := none

structure TrafficController : Type where
  call : MatrixCall := {}
  phase : ControlPhase := .idle
  slots : String → RequestSlot := fun _ => {}

/-- The request of a phase to a client. -/
def MatrixCall.request (call : MatrixCall) (client : String) : ControlPhase → Option (String × Json)
  | .resetting => some ("reset", .obj [])
  | .loading => some ("load_plan", loadRequest call.generation (call.plan client))
  | .enabling => some ("enable", generationRequest call.generation (call.plan client))
  | .polling => some ("status", .obj [])
  | .aborting => some ("reset", .obj [])
  | .idle => none
  | .ready => none

/-- The status is one of the call's generation, and enabled. -/
def MatrixCall.InForce (call : MatrixCall) (client : String) (status : AgentStatus) : Prop :=
  status.generation.toNat = call.generation ∧
    status.planDigest = planDigest (call.plan client) ∧ status.enabled = true

instance (call : MatrixCall) (client : String) (status : AgentStatus) :
    Decidable (call.InForce client status) := inferInstanceAs (Decidable (_ ∧ _ ∧ _))

/-- `_status_ready`; `fresh` is its check of the heartbeat -/
def statusReady (call : MatrixCall) (client : String) (fresh : Bool) (status : AgentStatus) : Bool :=
  status.ready && decide (call.InForce client status) &&
    status.activeFlows == status.expectedFlows &&
    status.activeListeners == status.expectedListeners && fresh

namespace RequestSlot

def ok (slot : RequestSlot) : Bool :=
  match slot.result with
  | some (.ok _) => true
  | _ => false

def ready (call : MatrixCall) (client : String) (fresh : Bool) (slot : RequestSlot) : Bool :=
  match slot.result with
  | some (.ok status) => statusReady call client fresh status
  | _ => false

end RequestSlot

/-- The phase after one whose requests have all ended. -/
def TrafficController.nextPhase (control : TrafficController) (clients : List String)
    (fresh : String → Bool) (expired : Bool) : ControlPhase :=
  let allOk := clients.all fun client => (control.slots client).ok
  match control.phase with
  | .idle => .idle
  | .ready => .ready
  | .aborting => .idle
  | .resetting => if allOk then .loading else .aborting
  | .loading => if allOk then .enabling else .aborting
  | .enabling => if allOk then .polling else .aborting
  | .polling =>
      if clients.all fun client => (control.slots client).ready control.call client (fresh client)
      then .ready
      else if allOk && !expired then .polling
      else .aborting

/-! ## The system -/

structure ControlAttempt : Type where
  id : Nat
  client : String
  op : String
  payload : Json

structure ControlWorld : Type where
  control : TrafficController := {}
  agents : String → TrafficProcess := fun _ => {}
  /-- The attempts that no process has served yet. -/
  pending : List ControlAttempt := []
  /-- The responses: the snapshot of the status, or a refusal. -/
  answers : List (Nat × Except Unit AgentStatus) := []
  attempts : Nat := 0

inductive ControlEvent : Type where
  | start (generation : Nat) (flows : List TrafficFlow)
  /-- The controller opens a connection, for the first time or again. -/
  | attempt (client : String)
  /-- A process serves an attempt. -/
  | deliver (id : Nat) (script : RequestScript)
  | lose (id : Nat)
  /-- The controller waits no more for an answer. -/
  | timeout (client : String)
  | receive (client : String)
  /-- All requests of the phase have ended. -/
  | advance (fresh : String → Bool) (expired : Bool)
  /-- The scheduler of a process. -/
  | tick (client : String) (now : Nat) (clock : UInt64) (script : Nat → FlowScript)
  | call (client : String)

namespace ControlWorld

def modifySlot (world : ControlWorld) (client : String) (slot : RequestSlot) : ControlWorld :=
  { world with
    control :=
      { world.control with
        slots := fun other => if other = client then slot else world.control.slots other } }

def modifyAgent (world : ControlWorld) (client : String) (agent : TrafficProcess) : ControlWorld :=
  { world with agents := fun other => if other = client then agent else world.agents other }

/-- `start_matrix`, up to its first request -/
def start (float : String → Except String Binary64) (clients : List String) (generation : Nat)
    (flows : List TrafficFlow) (world : ControlWorld) : ControlWorld :=
  if world.control.phase ≠ .idle ∧ world.control.phase ≠ .ready then world
  else if flows = [] then world
  else if flows.any fun flow => !clients.contains flow.src || !clients.contains flow.dst then world
  else
    match clientPlans float clients flows with
    | .error _ => world
    | .ok plans =>
        { world with control := { call := { generation, plans }, phase := .resetting } }

/-- One turn of the loop of `_request_with_retry`, up to the connection. -/
def attempt (clients : List String) (client : String) (world : ControlWorld) : ControlWorld :=
  let slot := world.control.slots client
  match world.control.call.request client world.control.phase with
  | none => world
  | some request =>
      if clients.contains client ∧ slot.attempts < 2 ∧ slot.outstanding = none ∧
          slot.result.isNone then
        let world :=
          world.modifySlot client
            { slot with attempts := slot.attempts + 1, outstanding := some world.attempts }
        { world with
          pending := world.pending ++ [⟨world.attempts, client, request.1, request.2⟩]
          attempts := world.attempts + 1 }
      else world

/-- The process of the client serves the attempt. -/
def serve (attempt : ControlAttempt) (script : RequestScript) (world : ControlWorld) :
    ControlWorld :=
  let served := (world.agents attempt.client).request script attempt.op attempt.payload
  let world := world.modifyAgent attempt.client served.2
  { world with
    pending := world.pending.filter fun other => other.id ≠ attempt.id
    answers :=
      (attempt.id, (served.1.mapError fun _ => ()).map fun _ => served.2.runtime.status) ::
        world.answers }

def deliver (id : Nat) (script : RequestScript) (world : ControlWorld) : ControlWorld :=
  match world.pending.find? fun attempt => attempt.id = id with
  | none => world
  | some attempt => world.serve attempt script

/-- The end of an attempt without an answer; the second one ends the request. -/
def timeout (client : String) (world : ControlWorld) : ControlWorld :=
  let slot := world.control.slots client
  match slot.outstanding with
  | none => world
  | some _ =>
      world.modifySlot client
        { slot with
          outstanding := none
          result := if slot.attempts < 2 then none else some (.error ()) }

def receive (client : String) (world : ControlWorld) : ControlWorld :=
  let slot := world.control.slots client
  match slot.outstanding.bind fun id => world.answers.lookup id with
  | none => world
  | some answer => world.modifySlot client { slot with outstanding := none, result := some answer }

def advance (clients : List String) (fresh : String → Bool) (expired : Bool)
    (world : ControlWorld) : ControlWorld :=
  if clients.all fun client => (world.control.slots client).result.isSome then
    { world with
      control :=
        { call := world.control.call
          phase := world.control.nextPhase clients fresh expired } }
  else world

def step (float : String → Except String Binary64) (clients : List String)
    (reconnectDelayFor : String → Nat → Nat) (world : ControlWorld) : ControlEvent → ControlWorld
  | .start generation flows => world.start float clients generation flows
  | .attempt client => world.attempt clients client
  | .deliver id script => world.deliver id script
  | .lose id => { world with pending := world.pending.filter fun attempt => attempt.id ≠ id }
  | .timeout client => world.timeout client
  | .receive client => world.receive client
  | .advance fresh expired => world.advance clients fresh expired
  | .tick client now clock script =>
      world.modifyAgent client
        ((world.agents client).step reconnectDelayFor (.tick now clock script))
  | .call client => world.modifyAgent client ((world.agents client).step reconnectDelayFor .call)

def run (float : String → Except String Binary64) (clients : List String)
    (reconnectDelayFor : String → Nat → Nat) (world : ControlWorld) (events : List ControlEvent) :
    ControlWorld :=
  events.foldl (step float clients reconnectDelayFor) world

/-! ## Late requests -/

/-- The controller has, or is about to read, a status of the process that is in the call's
generation. -/
def Shown (clients : List String) (world : ControlWorld) (client : String) : Prop :=
  client ∈ clients ∧
    (world.control.phase = .ready ∨
      world.control.phase = .polling ∧ ∃ status : AgentStatus,
        ((world.control.slots client).result = some (.ok status) ∨
          ∃ id : Nat, (world.control.slots client).outstanding = some id ∧
            (id, .ok status) ∈ world.answers) ∧
          world.control.call.InForce client status)

/-- A reset or a load that is served by a process after it has shown itself ready. -/
def Late (clients : List String) (world : ControlWorld) : ControlEvent → Prop
  | .deliver id _ => ∃ attempt : ControlAttempt,
      world.pending.find? (fun attempt => attempt.id = id) = some attempt ∧
        (attempt.op = "reset" ∨ attempt.op = "load_plan") ∧ world.Shown clients attempt.client
  | _ => False

/-- A continuation without another `start_matrix`, in which no reset and no load comes late. -/
def Undisturbed (float : String → Except String Binary64) (clients : List String)
    (reconnectDelayFor : String → Nat → Nat) : ControlWorld → List ControlEvent → Prop
  | _, [] => True
  | world, event :: events =>
      (∀ generation flows, event ≠ .start generation flows) ∧ ¬ world.Late clients event ∧
        Undisturbed float clients reconnectDelayFor
          (world.step float clients reconnectDelayFor event) events

theorem undisturbed_append {float : String → Except String Binary64} {clients : List String}
    {reconnectDelayFor : String → Nat → Nat} {world : ControlWorld} {before after : List ControlEvent} :
    Undisturbed float clients reconnectDelayFor world (before ++ after) ↔
      Undisturbed float clients reconnectDelayFor world before ∧
        Undisturbed float clients reconnectDelayFor
          (world.run float clients reconnectDelayFor before) after := by
  induction before generalizing world with
  | nil => exact ⟨fun rest => ⟨trivial, rest⟩, fun both => both.2⟩
  | cons event before ih =>
      rw [List.cons_append, Undisturbed, Undisturbed, ih, and_assoc, and_assoc]
      rfl

end ControlWorld

end NetOpsBench
