import NetOpsBench.Faults.Services

/-!
# The removal of a lab

`teardown_worker_lab` and `assert_worker_slot_available` of
`netopsbench/platform/runtime/deployment.py`, with their queries of Docker. A query fails with any
output or shows what is there. What a command removes, and how it ends, is a script; no command adds
anything.

The code reads the output of a query that has failed as it reads an answer. `lab_removal_sound_iff`
says which queries make a teardown return although something is left.
-/

namespace NetOpsBench

open Program

/-! ## The host -/

/-- A name that Docker gives to a container. -/
structure ContainerName : Type where
  text : String
  nonempty : text ≠ ""
  solid : ∀ c ∈ text.toList, Text.isSpace c = false

/-- What is on the host of the lab of a worker. -/
structure LabHost : Type where
  /-- The containers with the label of the lab. -/
  containers : List ContainerName := []
  telegraf : Bool := false
  network : Bool := false

namespace LabHost

/-- Nothing of the lab is left. -/
structure Clean (host : LabHost) : Prop where
  containers : host.containers = []
  telegraf : host.telegraf = false
  network : host.network = false

/-- What is on the first host is on the second one too. -/
structure Within (first second : LabHost) : Prop where
  containers : first.containers ⊆ second.containers
  telegraf : first.telegraf = true → second.telegraf = true
  network : first.network = true → second.network = true

theorem Within.refl (host : LabHost) : host.Within host := ⟨List.Subset.refl _, id, id⟩

end LabHost

/-! ## Commands and queries -/

/-- What `safe_run` raises, by whether it is a `TimeoutExpired`. -/
inductive RunError : Type where
  | timeout
  | other (message : String)
  deriving DecidableEq, Repr

/-- A command that removes things. -/
structure LabCommand : Type where
  leaves : LabHost → LabHost
  removes : ∀ host, (leaves host).Within host
  result : Except RunError CommandResult

/-- How a query fails: with any output. -/
structure QueryFailure : Type where
  result : CommandResult
  failed : result.returncode ≠ 0

/-- What `docker ps --format` prints -/
def printNames (names : List ContainerName) : String :=
  String.ofList (names.flatMap fun name => name.text.toList ++ ['\n'])

/-- `[line.strip() for line in result.stdout.splitlines() if line.strip()]` -/
def shownNames (result : CommandResult) : List String :=
  ((result.stdout.toList.splitOnP Text.isLineBreak).map fun line =>
    Text.strip (String.ofList line)).filter (· ≠ "")

/-- What `docker ps` answers for the containers of a lab, unless it fails. -/
def listed (failure : Option QueryFailure) (names : List ContainerName) : CommandResult :=
  match failure with
  | none => { returncode := 0, stdout := printNames names }
  | some failure => failure.result

/-- What `docker container inspect` or `docker network inspect` answers, unless it fails. -/
def probed (failure : Option QueryFailure) (present : Bool) : CommandResult :=
  match failure with
  | none => { returncode := if present then 0 else 1 }
  | some failure => failure.result

/-- A listing that fails prints a name. -/
def ListingSeen (failure : Option QueryFailure) : Prop :=
  ∀ made, failure = some made → shownNames made.result ≠ []

inductive TeardownError : Type where
  | run (error : RunError)
  | runtime (message : String)
  deriving DecidableEq, Repr

abbrev LabProgram : Type → Type := Program LabHost TeardownError

def mutate (command : LabCommand) : LabProgram CommandResult := do
  modify command.leaves
  Program.ofExcept (command.result.mapError .run)

/-- What may be raised in place of an answer. -/
def interruptible (raised : Option RunError) : LabProgram Unit :=
  match raised with
  | none => pure ()
  | some error => throw (.run error)

/-- `_lab_container_names` -/
def labContainerNames (failure : Option QueryFailure) (raised : Option RunError) :
    LabProgram (List String) := do
  interruptible raised
  let host ← get
  pure (shownNames (listed failure host.containers))

/-- An inspection that succeeds -/
def resourceExists (resource : LabHost → Bool) (failure : Option QueryFailure)
    (raised : Option RunError) : LabProgram Bool := do
  interruptible raised
  let host ← get
  pure (decide ((probed failure (resource host)).returncode = 0))

/-- `_container_exists` of the sidecar -/
def containerExists : Option QueryFailure → Option RunError → LabProgram Bool :=
  resourceExists (·.telegraf)

/-- `_network_exists` of the management network -/
def networkExists : Option QueryFailure → Option RunError → LabProgram Bool :=
  resourceExists (·.network)

/-! ## Teardown -/

/-- What a teardown reads of its worker. -/
structure LabWorker : Type where
  labName : String
  mgmtNetwork : String

/-- How the queries of a teardown fail, where they do; `last` is that of the turn which finds the
deadline of the wait passed. -/
structure TeardownQueries : Type where
  before : Option QueryFailure := none
  turns : List (Option QueryFailure) := []
  last : Option QueryFailure := none
  telegraf : Option QueryFailure := none
  network : Option QueryFailure := none

/-- A turn of the wait, beside its query. -/
structure RemovalTurn : Type where
  raised : Option RunError
  remove : LabCommand

/-- What else happens in a teardown. -/
structure LabTeardownScript : Type where
  /-- `_stop_collector`, with the type and the text of what it raises -/
  collector : Except (String × String) Unit
  removeTelegraf : LabCommand
  disconnect : LabCommand
  /-- `containerlab_command` and `_teardown_profile` -/
  backend : Except RunError Unit
  destroy : LabCommand
  beforeRaised : Option RunError
  removeNames : LabCommand
  turn : Nat → RemovalTurn
  lastRaised : Option RunError
  destroyAgain : LabCommand
  removeNetwork : LabCommand
  telegrafRaised : Option RunError
  networkRaised : Option RunError

/-- The first eight names -/
def preview (names : List String) : String := Text.join ", " (names.take 8)

/-- `_wait_for_lab_removal` from a turn on -/
def waitForLabRemoval (last : Option QueryFailure) (script : LabTeardownScript) :
    Nat → List (Option QueryFailure) → LabProgram Unit
  | _, [] => do
      let names ← labContainerNames last script.lastRaised
      if names.isEmpty then pure ()
      else
        throw (.runtime ("Timed out waiting for lab containers to be removed: " ++ preview names))
  | turn, listing :: later => do
      let names ← labContainerNames listing (script.turn turn).raised
      if names.isEmpty then pure ()
      else do
        let _ ← mutate (script.turn turn).remove
        waitForLabRemoval last script (turn + 1) later

/-- A destroy that a timeout ends. -/
def destroyTimedOut : CommandResult where
  returncode := 124
  stderr := "Containerlab destroy timed out"

/-- The first destroy. -/
def destroyOnce (command : LabCommand) : LabProgram CommandResult :=
  tryCatch (mutate command) fun error =>
    if error = .run .timeout then pure destroyTimedOut else throw error

/-- A destroy that has failed is tried once more. -/
def destroyRest (command : LabCommand) (first : CommandResult) : LabProgram CommandResult :=
  if first.returncode ≠ 0 then mutate command else pure first

/-- `docker rm -f` of what a listing has shown. -/
def removeShown (command : LabCommand) (names : List String) : LabProgram Unit :=
  if names.isEmpty then pure ()
  else do
    let _ ← mutate command
    pure ()

def collectorErrors : Except (String × String) Unit → List String
  | .ok () => []
  | .error (kind, message) => ["BGP collector cleanup failed: " ++ kind ++ ": " ++ message]

/-- The last `n` characters -/
def lastCharacters (n : Nat) (text : String) : String :=
  String.ofList (text.toList.drop (text.toList.length - n))

/-- `(stderr or stdout or default).strip()` -/
def removalDetail (result : CommandResult) : String :=
  Text.strip (Text.either (Text.either result.stderr result.stdout) "management network remained")

def destroyErrors (result : CommandResult) : List String :=
  if result.returncode ≠ 0 then
    ["containerlab destroy failed (" ++ toString result.returncode ++ "): " ++
      lastCharacters 2000 result.detail]
  else []

def telegrafErrors (worker : LabWorker) (remained : Bool) : List String :=
  if remained then ["telegraf container remained: telegraf-" ++ worker.labName] else []

def networkErrors (worker : LabWorker) (remained : Bool) (removed : CommandResult) :
    List String :=
  if remained then [worker.mgmtNetwork ++ ": " ++ removalDetail removed] else []

def raiseErrors (errors : List String) : LabProgram Unit :=
  if errors.isEmpty then pure ()
  else throw (.runtime ("Worker teardown incomplete: " ++ Text.join "; " errors))

/-- `teardown_worker_lab` -/
def teardownWorkerLab (worker : LabWorker) (queries : TeardownQueries) (script : LabTeardownScript) :
    LabProgram Unit := do
  let _ ← mutate script.removeTelegraf
  let _ ← mutate script.disconnect
  Program.ofExcept (script.backend.mapError .run)
  let destroyed ← destroyOnce script.destroy
  let names ← labContainerNames queries.before script.beforeRaised
  removeShown script.removeNames names
  waitForLabRemoval queries.last script 0 queries.turns
  let destroyed ← destroyRest script.destroyAgain destroyed
  let removed ← mutate script.removeNetwork
  let telegraf ← containerExists queries.telegraf script.telegrafRaised
  let network ← networkExists queries.network script.networkRaised
  raiseErrors (collectorErrors script.collector ++ telegrafErrors worker telegraf ++
    networkErrors worker network removed ++ destroyErrors destroyed)

/-! ## The slot -/

structure SlotQueries : Type where
  listing : Option QueryFailure := none
  network : Option QueryFailure := none
  telegraf : Option QueryFailure := none

/-- What else happens while a slot is looked at; others may change the host between the queries. -/
structure SlotScript : Type where
  listingRaised : Option RunError := none
  afterListing : LabHost → LabHost := id
  networkRaised : Option RunError := none
  afterNetwork : LabHost → LabHost := id
  telegrafRaised : Option RunError := none

/-- `raise RuntimeError(message)`, if the condition holds -/
def refuse (condition : Bool) (message : String) : LabProgram Unit :=
  if condition then throw (.runtime message) else pure ()

/-- `assert_worker_slot_available` -/
def assertWorkerSlotAvailable (worker : LabWorker) (queries : SlotQueries) (script : SlotScript) :
    LabProgram Unit := do
  let conflicts ← labContainerNames queries.listing script.listingRaised
  refuse (!conflicts.isEmpty)
    ("Containerlab lab already exists for " ++ worker.labName ++ ": " ++ preview conflicts)
  modify script.afterListing
  let network ← networkExists queries.network script.networkRaised
  refuse network
    ("Management network already exists for " ++ worker.labName ++ ": " ++ worker.mgmtNetwork)
  modify script.afterNetwork
  let telegraf ← containerExists queries.telegraf script.telegrafRaised
  refuse telegraf ("Telegraf container already exists for " ++ worker.labName)

/-! ## What a query shows -/

section Rules

variable {P : LabHost → Prop} {R : TeardownError → LabHost → Prop}

/-- What holds of less holds after a command. -/
theorem keeps_mutate (less : ∀ first second : LabHost, first.Within second → P second → P first)
    (command : LabCommand) : Keeps (mutate command) P := by
  unfold mutate
  refine Keeps.bind (Keeps.modify fun host holds => ?_) fun _ => Keeps.ofExcept _
  exact less _ host (command.removes host) holds

theorem keeps_interruptible (raised : Option RunError) : Keeps (interruptible raised) P := by
  cases raised with
  | none => exact Keeps.pure _
  | some error => exact Keeps.throw _

theorem meets_labContainerNames (failure : Option QueryFailure) (raised : Option RunError) :
    Meets (labContainerNames failure raised) P
      (fun names host => P host ∧ names = shownNames (listed failure host.containers))
      fun _ => P := by
  unfold labContainerNames
  refine Meets.bind (keeps_interruptible raised) fun _ => Meets.get_bind fun host holds => ?_
  refine Meets.pure fun after same => ?_
  subst same
  exact ⟨holds, rfl⟩

/-- An inspection that does not fail does not miss what is there. -/
theorem meets_resourceExists (resource : LabHost → Bool) (raised : Option RunError) :
    Meets (resourceExists resource none raised) P
      (fun present host => P host ∧ (present = false → resource host = false)) fun _ => P := by
  unfold resourceExists
  refine Meets.bind (keeps_interruptible raised) fun _ => Meets.get_bind fun host holds => ?_
  refine Meets.pure fun after same => ?_
  subst same
  refine ⟨holds, fun absent => ?_⟩
  rcases present : resource after with _ | _
  · rfl
  · rw [present] at absent
    cases absent

theorem meets_refuse (condition : Bool) (message : String) :
    Meets (refuse condition message) P (fun _ host => P host ∧ condition = false)
      fun _ _ => True := by
  cases condition with
  | false => exact Meets.pure fun _ holds => ⟨holds, rfl⟩
  | true => exact Meets.throw fun _ _ => trivial

end Rules

/-! ## A teardown that returns -/

/-- No container of the lab is left. -/
def NoContainer (host : LabHost) : Prop := host.containers = []

theorem NoContainer.less (first second : LabHost) (within : first.Within second)
    (none : NoContainer second) : NoContainer first := by
  have subset := within.containers
  rw [NoContainer] at none
  rw [none] at subset
  exact List.subset_nil.mp subset

theorem not_isLineBreak_of_solid {c : Char} (solid : Text.isSpace c = false) :
    Text.isLineBreak c = false := by
  rw [Bool.eq_false_iff] at solid ⊢
  intro isBreak
  apply solid
  unfold Text.isLineBreak at isBreak
  unfold Text.isSpace
  simp only [List.mem_cons, List.not_mem_nil, or_false, decide_eq_true_eq] at isBreak ⊢
  omega

theorem shownNames_listed_none (names : List ContainerName) :
    shownNames (listed none names) = names.map (·.text) := by
  unfold shownNames listed printNames
  dsimp only
  rw [String.toList_ofList]
  induction names with
  | nil => simp [Text.strip]
  | cons name rest ih =>
      have solid : ∀ c ∈ name.text.toList, Text.isLineBreak c = false :=
        fun c mem => not_isLineBreak_of_solid (name.solid c mem)
      have kept : Text.strip (String.ofList name.text.toList) = name.text := by
        rw [String.ofList_toList, Text.strip_eq_self name.solid]
      rw [List.flatMap_cons, List.append_assoc, List.singleton_append,
        List.splitOnP_append_cons_of_forall_mem solid _ (by decide), List.map_cons, kept,
        List.filter_cons_of_pos (by simpa using name.nonempty), ih, List.map_cons]

/-- The listing may come out empty. -/
def ListingEnds (failure : Option QueryFailure) : Prop := failure = none ∨ ¬ ListingSeen failure

/-- An empty listing that is not missed leaves no container. -/
theorem noContainer_of_listed {failure : Option QueryFailure} (seen : ListingSeen failure)
    {host : LabHost} (empty : shownNames (listed failure host.containers) = []) :
    NoContainer host := by
  rcases failure with _ | made
  · rw [shownNames_listed_none] at empty
    exact List.map_eq_nil_iff.mp empty
  · exact absurd empty (seen made rfl)

theorem listingEnds_of_listed {failure : Option QueryFailure} {names : List ContainerName}
    (empty : shownNames (listed failure names) = []) : ListingEnds failure := by
  rcases failure with _ | made
  · exact .inl rfl
  · exact .inr fun seen => seen made rfl empty

/-- A wait that returns has seen an empty listing. -/
theorem meets_waitForLabRemoval (last : Option QueryFailure) (script : LabTeardownScript)
    (turns : List (Option QueryFailure)) (turn : Nat) :
    Meets (waitForLabRemoval last script turn turns) (fun _ => True)
      (fun _ host => (∃ failure ∈ turns ++ [last], ListingEnds failure) ∧
        ((∀ failure ∈ turns ++ [last], ListingSeen failure) → NoContainer host))
      fun _ _ => True := by
  induction turns generalizing turn with
  | nil =>
      unfold waitForLabRemoval
      refine Meets.bind (meets_labContainerNames last script.lastRaised) fun names => ?_
      split
      · rename_i empty
        refine Meets.pure fun host now => ?_
        have empty : shownNames (listed last host.containers) = [] := by
          rw [← now.2, List.isEmpty_iff.mp empty]
        exact ⟨⟨last, List.mem_cons_self, listingEnds_of_listed empty⟩,
          fun seen => noContainer_of_listed (seen last List.mem_cons_self) empty⟩
      · exact Meets.throw fun _ _ => trivial
  | cons failure later ih =>
      unfold waitForLabRemoval
      refine Meets.bind (meets_labContainerNames failure _) fun names => ?_
      split
      · rename_i empty
        refine Meets.pure fun host now => ?_
        have empty : shownNames (listed failure host.containers) = [] := by
          rw [← now.2, List.isEmpty_iff.mp empty]
        exact ⟨⟨failure, List.mem_cons_self, listingEnds_of_listed empty⟩,
          fun seen => noContainer_of_listed (seen failure List.mem_cons_self) empty⟩
      · refine Meets.bind (Q := fun _ _ => True) ?_ fun _ => ?_
        · exact (keeps_mutate (P := fun _ => True) (fun _ _ _ => id) _).mono (fun _ _ => trivial)
            (fun _ _ => id) fun _ _ => id
        · refine (ih (turn + 1)).mono (fun _ => id) (fun _ host now => ?_) fun _ _ => id
          obtain ⟨⟨other, mem, ends⟩, noContainer⟩ := now
          exact ⟨⟨other, List.mem_cons_of_mem _ mem, ends⟩,
            fun seen => noContainer fun other mem => seen other (List.mem_cons_of_mem _ mem)⟩

namespace TeardownQueries

/-- The listings of the wait. -/
def listings (queries : TeardownQueries) : List (Option QueryFailure) :=
  queries.turns ++ [queries.last]

/-- The wait may come to an end. -/
def MayEnd (queries : TeardownQueries) : Prop := ∃ failure ∈ queries.listings, ListingEnds failure

/-- No query by which a teardown concludes misses what is there. -/
structure Seen (queries : TeardownQueries) : Prop where
  listings : ∀ failure ∈ queries.listings, ListingSeen failure
  telegraf : queries.telegraf = none
  network : queries.network = none

end TeardownQueries

theorem meets_teardownWorkerLab (worker : LabWorker) {queries : TeardownQueries}
    (seen : queries.MayEnd → queries.Seen) (script : LabTeardownScript) :
    Meets (teardownWorkerLab worker queries script) (fun _ => True) (fun _ => LabHost.Clean)
      fun _ _ => True := by
  have any : ∀ command : LabCommand,
      Meets (mutate command) (fun _ => True) (fun _ _ => True) fun _ _ => True :=
    fun command => keeps_mutate (P := fun _ => True) (fun _ _ _ => id) command
  have empty : ∀ command : LabCommand,
      Meets (mutate command) NoContainer (fun _ => NoContainer) fun _ _ => True :=
    fun command => (keeps_mutate NoContainer.less command).mono (fun _ => id) (fun _ _ => id)
      fun _ _ _ => trivial
  unfold teardownWorkerLab
  refine Meets.bind (any _) fun _ => Meets.bind (any _) fun _ => ?_
  refine Meets.bind (Q := fun _ _ => True) ?_ fun _ => ?_
  · exact Meets.ofExcept (fun _ _ _ _ => trivial) fun _ _ _ _ => trivial
  refine Meets.bind (Q := fun _ _ => True) ?_ fun destroyed => ?_
  · refine Meets.tryCatch (any _) fun error => ?_
    split
    · exact Meets.pure fun _ _ => trivial
    · exact Meets.throw fun _ _ => trivial
  refine Meets.bind (Q := fun _ _ => True) ?_ fun names => ?_
  · exact (meets_labContainerNames _ _).mono (fun _ _ => trivial) (fun _ _ _ => trivial)
      fun _ _ => id
  refine Meets.bind (Q := fun _ _ => True) ?_ fun _ => ?_
  · unfold removeShown
    split
    · exact Meets.pure fun _ _ => trivial
    · exact Meets.bind (any _) fun _ => Meets.pure fun _ _ => trivial
  refine Meets.bind (meets_waitForLabRemoval queries.last script queries.turns 0) fun _ => ?_
  refine Meets.of_start fun host waited => ?_
  have seen := seen waited.1
  have noContainer := waited.2 seen.listings
  refine Meets.bind (Q := fun _ => NoContainer) ?_ fun destroyed => ?_
  · refine Meets.mono (P := NoContainer) ?_ (fun after same => same ▸ noContainer) (fun _ _ => id)
      fun _ _ => id
    unfold destroyRest
    split
    · exact empty _
    · exact Meets.pure fun _ => id
  refine Meets.bind (empty _) fun removed => ?_
  rw [seen.telegraf, seen.network]
  refine Meets.bind ((meets_resourceExists _ _).mono (fun _ => id) (fun _ _ => id)
    fun _ _ _ => trivial) fun telegraf => ?_
  refine Meets.bind ((meets_resourceExists _ _).mono (fun _ => id) (fun _ _ => id)
    fun _ _ _ => trivial) fun network => ?_
  unfold raiseErrors
  split
  · rename_i none
    refine Meets.pure fun host now => ?_
    obtain ⟨⟨noContainer, noTelegraf⟩, noNetwork⟩ := now
    rcases telegraf with _ | _
    · rcases network with _ | _
      · exact ⟨noContainer, noTelegraf rfl, noNetwork rfl⟩
      · simp [networkErrors] at none
    · simp [telegrafErrors] at none
  · exact Meets.throw fun _ _ => trivial

/-! ## Teardowns in which nothing else fails -/

/-- A container name for runs on fixed inputs. -/
def leafContainer : ContainerName where
  text := "clab-lab-leaf1"
  nonempty := by simp
  solid := by simp [Text.isSpace]

/-- A command that succeeds and removes nothing. -/
def idleCommand : LabCommand where
  leaves := id
  removes := LabHost.Within.refl
  result := .ok { returncode := 0 }

/-- A teardown whose commands succeed and remove nothing. -/
def idleTeardown : LabTeardownScript where
  collector := .ok ()
  removeTelegraf := idleCommand
  disconnect := idleCommand
  backend := .ok ()
  destroy := idleCommand
  beforeRaised := none
  removeNames := idleCommand
  turn _ := { raised := none, remove := idleCommand }
  lastRaised := none
  destroyAgain := idleCommand
  removeNetwork := idleCommand
  telegrafRaised := none
  networkRaised := none

theorem outcome_mutate_idle (host : LabHost) :
    outcome (mutate idleCommand) host = (.ok { returncode := 0 }, host) := rfl

theorem outcome_labContainerNames (failure : Option QueryFailure) (host : LabHost) :
    outcome (labContainerNames failure none) host =
      (.ok (shownNames (listed failure host.containers)), host) := rfl

theorem outcome_resourceExists (resource : LabHost → Bool) (failure : Option QueryFailure)
    (host : LabHost) :
    outcome (resourceExists resource failure none) host =
      (.ok (decide ((probed failure (resource host)).returncode = 0)), host) := rfl

theorem outcome_removeShown_idle (names : List String) (host : LabHost) :
    outcome (removeShown idleCommand names) host = (.ok (), host) := by
  unfold removeShown
  split
  · rfl
  · rfl

/-- The idle wait ends at the first listing that comes out empty. -/
theorem outcome_waitForLabRemoval_idle {host : LabHost} {last : Option QueryFailure}
    {turns : List (Option QueryFailure)} (turn : Nat)
    (ends : ∃ failure ∈ turns ++ [last], shownNames (listed failure host.containers) = []) :
    outcome (waitForLabRemoval last idleTeardown turn turns) host = (.ok (), host) := by
  induction turns generalizing turn with
  | nil =>
      obtain ⟨failure, mem, empty⟩ := ends
      cases List.mem_singleton.mp mem
      have shown : outcome (labContainerNames last idleTeardown.lastRaised) host =
        (.ok (shownNames (listed last host.containers)), host) := rfl
      unfold waitForLabRemoval
      rw [outcome_bind_ok shown, empty, List.isEmpty_nil, if_pos rfl, outcome_pure]
  | cons failure later ih =>
      unfold waitForLabRemoval
      refine (outcome_bind_ok (outcome_labContainerNames failure host)).trans ?_
      split
      · rfl
      · rename_i shown
        refine (outcome_bind_ok (outcome_mutate_idle host)).trans ?_
        obtain ⟨other, mem, empty⟩ := ends
        rcases List.mem_cons.mp mem with rfl | mem
        · rw [empty] at shown
          exact absurd rfl shown
        · exact ih (turn + 1) ⟨other, mem, empty⟩

/-- An idle teardown returns when its queries show nothing. -/
theorem outcome_teardownWorkerLab_idle (worker : LabWorker) {queries : TeardownQueries}
    {host : LabHost}
    (ends : ∃ failure ∈ queries.listings, shownNames (listed failure host.containers) = [])
    (telegraf : (probed queries.telegraf host.telegraf).returncode ≠ 0)
    (network : (probed queries.network host.network).returncode ≠ 0) :
    outcome (teardownWorkerLab worker queries idleTeardown) host = (.ok (), host) := by
  have sidecar : outcome (containerExists queries.telegraf none) host = (.ok false, host) := by
    rw [containerExists, outcome_resourceExists, decide_eq_false telegraf]
  have management : outcome (networkExists queries.network none) host = (.ok false, host) := by
    rw [networkExists, outcome_resourceExists, decide_eq_false network]
  have destroyed : outcome (destroyOnce idleCommand) host = (.ok { returncode := 0 }, host) := rfl
  have retried : outcome (destroyRest idleCommand { returncode := 0 }) host =
    (.ok { returncode := 0 }, host) := rfl
  unfold teardownWorkerLab
  refine (outcome_bind_ok (outcome_mutate_idle host)).trans ?_
  refine (outcome_bind_ok (outcome_mutate_idle host)).trans ?_
  refine (outcome_bind_ok (outcome_ofExcept (.ok ()) host)).trans ?_
  refine (outcome_bind_ok destroyed).trans ?_
  refine (outcome_bind_ok (outcome_labContainerNames queries.before host)).trans ?_
  refine (outcome_bind_ok (outcome_removeShown_idle _ host)).trans ?_
  refine (outcome_bind_ok (outcome_waitForLabRemoval_idle 0 ends)).trans ?_
  refine (outcome_bind_ok retried).trans ?_
  refine (outcome_bind_ok (outcome_mutate_idle host)).trans ?_
  refine (outcome_bind_ok sidecar).trans ?_
  exact outcome_bind_ok management

theorem probed_absent (failure : Option QueryFailure) :
    (probed failure false).returncode ≠ 0 := by
  rcases failure with _ | made
  · exact one_ne_zero
  · exact made.failed

theorem ListingEnds.blank {failure : Option QueryFailure} (ends : ListingEnds failure) :
    shownNames (listed failure []) = [] := by
  rcases ends with rfl | missed
  · exact shownNames_listed_none []
  · unfold ListingSeen at missed
    push Not at missed
    obtain ⟨made, rfl, blank⟩ := missed
    exact blank

/-- No host has anything of the lab left when a teardown returns. -/
def TeardownSound (queries : TeardownQueries) : Prop :=
  ∀ worker script host after,
    outcome (teardownWorkerLab worker queries script) host = (.ok (), after) → after.Clean

theorem TeardownSound.seen {queries : TeardownQueries} (sound : TeardownSound queries)
    (mayEnd : queries.MayEnd) : queries.Seen := by
  have worker : LabWorker := { labName := "lab", mgmtNetwork := "clab-mgmt-lab" }
  obtain ⟨ending, mem, ends⟩ := mayEnd
  have ends : ∃ failure ∈ queries.listings, shownNames (listed failure []) = [] :=
    ⟨ending, mem, ends.blank⟩
  refine ⟨fun failure mem => ?_, ?_, ?_⟩
  · by_contra missed
    unfold ListingSeen at missed
    push Not at missed
    obtain ⟨made, rfl, blank⟩ := missed
    have clean := sound worker idleTeardown { containers := [leafContainer] } _
      (outcome_teardownWorkerLab_idle worker ⟨some made, mem, blank⟩ (probed_absent _) (probed_absent _))
    cases clean.containers
  · rcases failed : queries.telegraf with _ | made
    · rfl
    · have missed : (probed queries.telegraf true).returncode ≠ 0 := by
        rw [failed]
        exact made.failed
      have clean := sound worker idleTeardown { telegraf := true } _
        (outcome_teardownWorkerLab_idle worker ends missed (probed_absent _))
      cases clean.telegraf
  · rcases failed : queries.network with _ | made
    · rfl
    · have missed : (probed queries.network true).returncode ≠ 0 := by
        rw [failed]
        exact made.failed
      have clean := sound worker idleTeardown { network := true } _
        (outcome_teardownWorkerLab_idle worker ends (probed_absent _) missed)
      cases clean.network

/-! ## A slot that is available -/

/-- Nothing of the lab has been there when it was asked for. -/
def SlotSound (queries : SlotQueries) : Prop :=
  ∀ worker script host after,
    outcome (assertWorkerSlotAvailable worker queries script) host = (.ok (), after) →
      host.containers = [] ∧ (script.afterListing host).network = false ∧
        (script.afterNetwork (script.afterListing host)).telegraf = false

/-- No query of a slot misses what is there. -/
structure SlotQueries.Seen (queries : SlotQueries) : Prop where
  listing : ListingSeen queries.listing
  network : queries.network = none
  telegraf : queries.telegraf = none

/-- A slot can be found available. -/
def SlotQueries.MayEnd (queries : SlotQueries) : Prop := ListingEnds queries.listing

theorem meets_assertWorkerSlotAvailable (worker : LabWorker) {queries : SlotQueries}
    (seen : queries.MayEnd → queries.Seen) (script : SlotScript) (host : LabHost) :
    Meets (assertWorkerSlotAvailable worker queries script) (fun start => start = host)
      (fun _ _ => host.containers = [] ∧ (script.afterListing host).network = false ∧
        (script.afterNetwork (script.afterListing host)).telegraf = false)
      fun _ _ => True := by
  unfold assertWorkerSlotAvailable
  refine Meets.bind ((meets_labContainerNames _ _).mono (fun _ => id) (fun _ _ => id)
    fun _ _ _ => trivial) fun conflicts => ?_
  refine Meets.bind (meets_refuse _ _) fun _ => Meets.of_start fun now holds => ?_
  obtain ⟨⟨rfl, isConflicts⟩, none⟩ := holds
  have empty : shownNames (listed queries.listing now.containers) = [] := by
    rw [← isConflicts, ← List.isEmpty_iff, ← Bool.not_eq_false', none]
  have seen := seen (listingEnds_of_listed empty)
  have noContainer := noContainer_of_listed seen.listing empty
  refine Meets.bind (Q := fun _ after => after = script.afterListing now)
    (Meets.modify fun _ same => congrArg _ same) fun _ => ?_
  rw [seen.network, seen.telegraf]
  refine Meets.bind ((meets_resourceExists _ _).mono (fun _ => id) (fun _ _ => id)
    fun _ _ _ => trivial) fun network => ?_
  refine Meets.bind (meets_refuse _ _) fun _ => Meets.of_start fun later holds => ?_
  obtain ⟨⟨rfl, noNetwork⟩, absent⟩ := holds
  refine Meets.bind
    (Q := fun _ after => after = script.afterNetwork (script.afterListing now))
    (Meets.modify fun _ same => congrArg _ same) fun _ => ?_
  refine Meets.bind ((meets_resourceExists _ _).mono (fun _ => id) (fun _ _ => id)
    fun _ _ _ => trivial) fun telegraf => ?_
  refine (meets_refuse _ _).mono (fun _ => id) (fun _ last holds => ?_) fun _ _ => id
  obtain ⟨⟨rfl, noTelegraf⟩, unseen⟩ := holds
  exact ⟨noContainer, noNetwork absent, noTelegraf unseen⟩

theorem outcome_assertWorkerSlotAvailable {worker : LabWorker} {queries : SlotQueries}
    {host : LabHost} (empty : shownNames (listed queries.listing host.containers) = [])
    (network : (probed queries.network host.network).returncode ≠ 0)
    (telegraf : (probed queries.telegraf host.telegraf).returncode ≠ 0) :
    outcome (assertWorkerSlotAvailable worker queries {}) host = (.ok (), host) := by
  have listing : outcome (labContainerNames queries.listing none) host = (.ok [], host) := by
    rw [outcome_labContainerNames, empty]
  have management : outcome (networkExists queries.network none) host = (.ok false, host) := by
    rw [networkExists, outcome_resourceExists, decide_eq_false network]
  have sidecar : outcome (containerExists queries.telegraf none) host = (.ok false, host) := by
    rw [containerExists, outcome_resourceExists, decide_eq_false telegraf]
  have allowed : ∀ message, outcome (refuse false message) host = (.ok (), host) := fun _ => rfl
  unfold assertWorkerSlotAvailable
  refine (outcome_bind_ok listing).trans ?_
  refine (outcome_bind_ok (allowed _)).trans ?_
  refine (outcome_bind_ok (outcome_modify id host)).trans ?_
  refine (outcome_bind_ok management).trans ?_
  refine (outcome_bind_ok (allowed _)).trans ?_
  refine (outcome_bind_ok (outcome_modify id host)).trans ?_
  exact (outcome_bind_ok sidecar).trans (allowed _)

theorem SlotSound.seen {queries : SlotQueries} (sound : SlotSound queries)
    (mayEnd : queries.MayEnd) : queries.Seen := by
  have worker : LabWorker := { labName := "lab", mgmtNetwork := "clab-mgmt-lab" }
  have ends := ListingEnds.blank mayEnd
  refine ⟨fun made isMade blank => ?_, ?_, ?_⟩
  · have blank : shownNames (listed queries.listing [leafContainer]) = [] := by
      rw [isMade]
      exact blank
    have absent := sound worker {} { containers := [leafContainer] } _
      (outcome_assertWorkerSlotAvailable blank (probed_absent _) (probed_absent _))
    cases absent.1
  · rcases failed : queries.network with _ | made
    · rfl
    · have missed : (probed queries.network true).returncode ≠ 0 := by
        rw [failed]
        exact made.failed
      have absent := sound worker {} { network := true } _
        (outcome_assertWorkerSlotAvailable ends missed (probed_absent _))
      cases absent.2.1
  · rcases failed : queries.telegraf with _ | made
    · rfl
    · have missed : (probed queries.telegraf true).returncode ≠ 0 := by
        rw [failed]
        exact made.failed
      have absent := sound worker {} { telegraf := true } _
        (outcome_assertWorkerSlotAvailable ends (probed_absent _) missed)
      cases absent.2.2

/-- A teardown that returns has left nothing, and a slot that is found available has been free,
exactly when no query by which they conclude fails without a name. -/
theorem lab_removal_sound_iff (queries : TeardownQueries) (slot : SlotQueries) :
    (TeardownSound queries ↔ (queries.MayEnd → queries.Seen)) ∧
      (SlotSound slot ↔ (slot.MayEnd → slot.Seen)) := by
  refine ⟨⟨TeardownSound.seen, fun seen worker script host after ended => ?_⟩,
    ⟨SlotSound.seen, fun seen worker script host after ended => ?_⟩⟩
  · exact (meets_teardownWorkerLab worker seen script).of_ok trivial ended
  · exact (meets_assertWorkerSlotAvailable worker seen script host).of_ok rfl ended

/-- A query that does not reach Docker. -/
def dockerGone : QueryFailure where
  result := { returncode := 1, stderr := "Cannot connect to the Docker daemon" }
  failed := one_ne_zero

/-- The management network is left when its last inspection fails. -/
theorem management_network_missed : ¬ TeardownSound { network := some dockerGone } := by
  intro sound
  have kept : outcome (teardownWorkerLab { labName := "lab", mgmtNetwork := "clab-mgmt-lab" }
      { network := some dockerGone } idleTeardown) { network := true } =
        (.ok (), { network := true }) :=
    outcome_teardownWorkerLab_idle _ ⟨none, List.mem_cons_self, shownNames_listed_none []⟩
      (probed_absent _) dockerGone.failed
  cases (sound _ _ _ _ kept).network

end NetOpsBench
