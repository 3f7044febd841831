import NetOpsBench.Lib.Dict
import NetOpsBench.Lib.Sorting
import NetOpsBench.Lib.Text

/-!
# The registry of faults

`FaultSpecRegistry` of `netopsbench/platform/faults/specs.py`. A callable is known by its name. A
name is looked up by its alias first, and a registration writes both maps whatever they hold; what
it must leave alone for the lookups to stay consistent is `RegistryRun.Apart`.
-/

namespace NetOpsBench

/-- The name of a callable. -/
abbrev Callback : Type := String

structure FaultSpec : Type where
  name : String
  injectEpisode : Option Callback := none
  recoverActiveFault : Option Callback := none
  requiresInterface : Bool := false
  requiresPrefix : Bool := false
  requiredParameters : List String := []
  episodeValidator : Option Callback := none
  aliases : List String := []
  scenarioSupported : Bool := true
  deriving DecidableEq, Repr

/-- The fields that the schema of a fault has defaults for. -/
structure SchemaDefaults : Type where
  injectEpisode : Option Callback := none
  recoverActiveFault : Option Callback := none
  requiresInterface : Option Bool := none
  requiresPrefix : Option Bool := none
  requiredParameters : Option (List String) := none
  episodeValidator : Option Callback := none
  scenarioSupported : Option Bool := none

/-- A default takes the place of `False`. -/
def defaultFlag (default : Option Bool) (flag : Bool) : Bool := flag || default.getD false

/-- The fields of a spec that are `False`, `None` or empty have their defaults. -/
def SchemaDefaults.fill (defaults : SchemaDefaults) (spec : FaultSpec) : FaultSpec :=
  { spec with
    injectEpisode := spec.injectEpisode <|> defaults.injectEpisode
    recoverActiveFault := spec.recoverActiveFault <|> defaults.recoverActiveFault
    requiresInterface := defaultFlag defaults.requiresInterface spec.requiresInterface
    requiresPrefix := defaultFlag defaults.requiresPrefix spec.requiresPrefix
    requiredParameters :=
      if spec.requiredParameters = [] then defaults.requiredParameters.getD []
      else spec.requiredParameters
    episodeValidator := spec.episodeValidator <|> defaults.episodeValidator
    scenarioSupported := defaultFlag defaults.scenarioSupported spec.scenarioSupported }

/-! ## Builtin specs -/

def buildLinkFaultSpecs : List FaultSpec :=
  [{ name := "link_down"
     requiresInterface := true
     injectEpisode := some "_inject_link_down_episode"
     recoverActiveFault := some "_recover_link_down_fault" },
    { name := "link_flapping"
      injectEpisode := some "_inject_link_flapping_episode"
      recoverActiveFault := some "_recover_link_flapping_fault" }]

def buildRoutingFaultSpecs : List FaultSpec :=
  [{ name := "blackhole_route"
     injectEpisode := some "_inject_blackhole_route_episode"
     recoverActiveFault := some "_recover_blackhole_route_fault" },
    { name := "static_route_misconfig"
      aliases := ["static_route_misconfiguration"]
      injectEpisode := some "_inject_static_route_misconfig_episode"
      recoverActiveFault := some "_recover_static_route_misconfig_fault" }]

def buildImpairmentFaultSpecs : List FaultSpec :=
  [{ name := "mtu_mismatch"
     requiresInterface := true
     injectEpisode := some "_inject_mtu_mismatch_episode"
     recoverActiveFault := some "_recover_mtu_mismatch_fault" },
    { name := "packet_corruption"
      injectEpisode := some "_inject_packet_corruption_episode"
      recoverActiveFault := some "_recover_tc_fault" },
    { name := "packet_loss"
      injectEpisode := some "_inject_packet_loss_episode"
      recoverActiveFault := some "_recover_tc_fault" },
    { name := "high_latency"
      injectEpisode := some "_inject_high_latency_episode"
      recoverActiveFault := some "_recover_tc_fault" }]

def buildSystemFaultSpecs : List FaultSpec :=
  [{ name := "device_down"
     injectEpisode := some "_inject_device_down_episode"
     recoverActiveFault := some "_recover_device_down_fault" }]

/-- `CONFIGURATION_TYPES`, sorted -/
def configurationTypes : List String :=
  ["acl_destination_misconfig", "acl_l4_port_misconfig", "acl_source_misconfig", "bgp_as_mismatch",
    "bgp_auth_mismatch", "bgp_max_prefix_misconfig", "bgp_neighbor_shutdown", "bgp_process_down",
    "bgp_update_source_mismatch", "ecmp_misconfig", "interface_ip_misconfig",
    "route_filter_misconfig", "route_flapping", "route_origination_misconfig", "routing_loop"]

/-- `INTERFACE_TYPES` -/
def interfaceTypes : List String :=
  ["interface_ip_misconfig", "routing_loop", "route_flapping", "acl_source_misconfig",
    "acl_destination_misconfig", "acl_l4_port_misconfig"]

/-- `PREFIX_TYPES` -/
def prefixTypes : List String :=
  ["routing_loop", "route_origination_misconfig", "route_filter_misconfig", "route_flapping",
    "ecmp_misconfig", "acl_source_misconfig", "acl_destination_misconfig",
    "acl_l4_port_misconfig"]

def buildCatalogFaultSpecs : List FaultSpec :=
  configurationTypes.map fun name =>
    { name
      injectEpisode := some "inject"
      recoverActiveFault := some "recover"
      requiresInterface := interfaceTypes.contains name
      requiresPrefix := prefixTypes.contains name
      episodeValidator := some ("validate_parameters:" ++ name) }

/-- `_build_builtin_fault_specs` -/
def buildBuiltinFaultSpecs : List FaultSpec :=
  buildLinkFaultSpecs ++ buildRoutingFaultSpecs ++ buildImpairmentFaultSpecs ++
    buildSystemFaultSpecs ++ buildCatalogFaultSpecs

/-! ## The registry -/

structure FaultSpecRegistry : Type where
  specs : Dict String FaultSpec := .empty
  aliases : Dict String String
  schemaDefaults : Dict String SchemaDefaults
  builtinNames : Option (List String) := none

namespace FaultSpecRegistry

/-- `_CANONICAL_FAULT_ALIASES` -/
def canonicalFaultAliases : Dict String String :=
  Dict.empty.set "static_route_misconfiguration" "static_route_misconfig"

/-- `FaultSpecRegistry(...)` -/
def create (canonicalAliases : Option (Dict String String) := none)
    (schemaDefaults : Option (Dict String SchemaDefaults) := none) : FaultSpecRegistry where
  aliases :=
    match canonicalAliases with
    | none => canonicalFaultAliases
    | some aliases => if aliases.entries.isEmpty then canonicalFaultAliases else aliases
  schemaDefaults :=
    schemaDefaults.getD (Dict.empty.set "blackhole_route" { requiresPrefix := some true })

def canonicalize (registry : FaultSpecRegistry) (name : Option String) : String :=
  let rawName := Text.strip (name.getD "")
  if rawName = "" then "" else (registry.aliases.get rawName).getD rawName

/-- The name under which a spec is registered. -/
def canonicalName (registry : FaultSpecRegistry) (spec : FaultSpec) : String :=
  Text.either (registry.canonicalize (some spec.name)) spec.name

def normalizedAliases (registry : FaultSpecRegistry) (spec : FaultSpec) : List String :=
  Sorting.sorted (fun first second => decide (first ≤ second))
    (((spec.name :: spec.aliases ++ [registry.canonicalName spec]).filter fun name =>
      decide (name ≠ "") && decide (name ≠ registry.canonicalName spec)).dedup)

def normalized (registry : FaultSpecRegistry) (spec : FaultSpec) : FaultSpec :=
  { ((registry.schemaDefaults.get (registry.canonicalName spec)).getD {}).fill spec with
    name := registry.canonicalName spec
    aliases := registry.normalizedAliases spec }

/-- `register`: the normalized spec and the registry afterwards -/
def register (registry : FaultSpecRegistry) (spec : FaultSpec) : FaultSpec × FaultSpecRegistry :=
  let canonical := registry.canonicalName spec
  (registry.normalized spec,
    { registry with
      specs := registry.specs.set canonical (registry.normalized spec)
      aliases :=
        (registry.normalizedAliases spec).foldl (fun aliases name => aliases.set name canonical)
          (registry.aliases.set canonical canonical) })

/-- `load_builtins` -/
def loadBuiltins (registry : FaultSpecRegistry) : FaultSpecRegistry :=
  if registry.builtinNames.isSome then registry
  else
    let loaded := buildBuiltinFaultSpecs.foldl (fun registry spec => (registry.register spec).2)
      registry
    { loaded with
      builtinNames :=
        some (Sorting.sorted (fun first second => decide (first ≤ second)) loaded.specs.keys) }

/-- `get`: what is found, and the registry afterwards -/
def get (registry : FaultSpecRegistry) (name : String) : Option FaultSpec × FaultSpecRegistry :=
  let loaded := registry.loadBuiltins
  (loaded.specs.get (loaded.canonicalize (some name)), loaded)

/-! ### What a registration does to the lookups -/

variable {registry : FaultSpecRegistry} {spec : FaultSpec}

theorem get_foldl_set (names : List String) (canonical key : String)
    (aliases : Dict String String) :
    (names.foldl (fun aliases name => aliases.set name canonical) aliases).get key =
      if key ∈ names then some canonical else aliases.get key := by
  induction names generalizing aliases with
  | nil => simp
  | cons name names ih =>
      rw [List.foldl_cons, ih, Dict.get_set]
      by_cases later : key ∈ names
      · rw [if_pos later, if_pos (List.mem_cons_of_mem name later)]
      · rw [if_neg later]
        by_cases same : key = name
        · rw [if_pos same, if_pos (List.mem_cons.mpr (.inl same))]
        · rw [if_neg same, if_neg (List.mem_cons.not.mpr (not_or.mpr ⟨same, later⟩))]

theorem mem_normalizedAliases {name : String} :
    name ∈ registry.normalizedAliases spec ↔
      (name = spec.name ∨ name ∈ spec.aliases) ∧ name ≠ "" ∧
        name ≠ registry.canonicalName spec := by
  unfold normalizedAliases
  rw [Sorting.mem_sorted, List.mem_dedup, List.mem_filter, List.mem_append, List.mem_cons,
    List.mem_singleton, Bool.and_eq_true, decide_eq_true_eq, decide_eq_true_eq]
  constructor
  · intro listed
    obtain ⟨found, nonempty, differs⟩ := listed
    rcases found with listed | isCanonical
    · exact ⟨listed, nonempty, differs⟩
    · exact absurd isCanonical differs
  · intro found
    obtain ⟨listed, nonempty, differs⟩ := found
    exact ⟨.inl listed, nonempty, differs⟩

theorem get_register_aliases (registry : FaultSpecRegistry) (spec : FaultSpec) (key : String) :
    (registry.register spec).2.aliases.get key =
      if key ∈ registry.normalizedAliases spec ∨ key = registry.canonicalName spec then
        some (registry.canonicalName spec)
      else registry.aliases.get key := by
  unfold register
  dsimp only
  rw [get_foldl_set, Dict.get_set]
  by_cases listed : key ∈ registry.normalizedAliases spec
  · rw [if_pos listed, if_pos (.inl listed)]
  · rw [if_neg listed]
    by_cases same : key = registry.canonicalName spec
    · rw [if_pos same, if_pos (.inr same)]
    · rw [if_neg same, if_neg (not_or.mpr ⟨listed, same⟩)]

theorem get_register_specs (registry : FaultSpecRegistry) (spec : FaultSpec) (key : String) :
    (registry.register spec).2.specs.get key =
      if key = registry.canonicalName spec then some (registry.normalized spec)
      else registry.specs.get key :=
  Dict.get_set ..

theorem canonicalize_of_strip (registry : FaultSpecRegistry) {name : String}
    (solid : Text.strip name ≠ "") :
    registry.canonicalize (some name) =
      (registry.aliases.get (Text.strip name)).getD (Text.strip name) := by
  unfold canonicalize
  exact if_neg solid

theorem canonicalize_blank (registry : FaultSpecRegistry) {name : String}
    (blank : Text.strip name = "") : registry.canonicalize (some name) = "" := by
  unfold canonicalize
  exact if_pos blank

/-- The name of a spec is found where the spec has a name. -/
theorem canonicalName_eq (found : registry.canonicalize (some spec.name) ≠ "") :
    registry.canonicalName spec = registry.canonicalize (some spec.name) := by
  unfold canonicalName Text.either
  exact if_neg found

/-- What `canonicalize` returns is what it makes of it. -/
def Settled (registry : FaultSpecRegistry) : Prop :=
  ∀ name, registry.canonicalize (some (registry.canonicalize (some name))) =
    registry.canonicalize (some name)

theorem canonicalize_congr (registry : FaultSpecRegistry) {first second : String}
    (same : Text.strip first = Text.strip second) :
    registry.canonicalize (some first) = registry.canonicalize (some second) := by
  unfold canonicalize
  simp only [Option.getD_some, same]

/-- Only the aliases of the spec resolve to another name afterwards. -/
theorem canonicalize_register (settled : registry.Settled)
    (named : registry.canonicalize (some spec.name) ≠ "") (name : String) :
    (registry.register spec).2.canonicalize (some name) =
      if Text.strip name ≠ "" ∧ Text.strip name ∈ spec.aliases then registry.canonicalName spec
      else registry.canonicalize (some name) := by
  have isCanonical := canonicalName_eq named
  by_cases blank : Text.strip name = ""
  · rw [canonicalize_blank _ blank, canonicalize_blank _ blank, if_neg fun found => found.1 blank]
  · rw [canonicalize_of_strip _ blank, get_register_aliases]
    by_cases listed : Text.strip name ∈ spec.aliases
    · have isAlias : Text.strip name ≠ "" ∧ Text.strip name ∈ spec.aliases := ⟨blank, listed⟩
      rw [if_pos isAlias]
      by_cases same : Text.strip name = registry.canonicalName spec
      · rw [if_pos (.inr same), Option.getD_some]
      · rw [if_pos (.inl (mem_normalizedAliases.mpr ⟨.inr listed, blank, same⟩)), Option.getD_some]
    · have noAlias : ¬(Text.strip name ≠ "" ∧ Text.strip name ∈ spec.aliases) :=
        fun found => listed found.2
      rw [if_neg noAlias]
      by_cases same : Text.strip name = registry.canonicalName spec
      · have fixed := settled spec.name
        rw [← isCanonical, ← same,
          registry.canonicalize_congr (Text.strip_strip name)] at fixed
        rw [if_pos (.inr same), Option.getD_some, fixed, same]
      · by_cases own : Text.strip name = spec.name
        · have itself : Text.strip name = Text.strip spec.name := by
            rw [← own, Text.strip_strip]
          rw [if_pos (.inl (mem_normalizedAliases.mpr ⟨.inl own, blank, same⟩)), Option.getD_some,
            registry.canonicalize_congr itself, isCanonical]
        · have unlisted : ¬(Text.strip name ∈ registry.normalizedAliases spec ∨
              Text.strip name = registry.canonicalName spec) := by
            rw [mem_normalizedAliases]
            intro found
            rcases found with ⟨isOwn | isAlias, -, -⟩ | isCanonical
            · exact own isOwn
            · exact listed isAlias
            · exact same isCanonical
          rw [if_neg unlisted, canonicalize_of_strip _ blank]

end FaultSpecRegistry

/-! ## Runs -/

inductive RegistryCall : Type where
  | register (spec : FaultSpec)
  /-- `load_builtins`, also at the beginning of a `get` -/
  | loadBuiltins

/-- A registry, and the specs that have been registered with what came of each. -/
structure RegistryRun : Type where
  registry : FaultSpecRegistry
  registered : List (FaultSpec × FaultSpec) := []

namespace RegistryRun

/-- A registry that has just been created. -/
def create (canonicalAliases : Option (Dict String String))
    (schemaDefaults : Option (Dict String SchemaDefaults)) : RegistryRun where
  registry := .create canonicalAliases schemaDefaults

def register (run : RegistryRun) (spec : FaultSpec) : RegistryRun where
  registry := (run.registry.register spec).2
  registered := run.registered ++ [(spec, (run.registry.register spec).1)]

/-- The specs that a call registers. -/
def specsOf (run : RegistryRun) : RegistryCall → List FaultSpec
  | .register spec => [spec]
  | .loadBuiltins => if run.registry.builtinNames.isSome then [] else buildBuiltinFaultSpecs

def call (run : RegistryRun) (call : RegistryCall) : RegistryRun :=
  let after := (run.specsOf call).foldl register run
  match call with
  | .register _ => after
  | .loadBuiltins => { after with registry := run.registry.loadBuiltins }

def calls (run : RegistryRun) (calls : List RegistryCall) : RegistryRun := calls.foldl call run

/-- The spec has a name under which none is registered, and none of its aliases is a name that
something resolves to or that a spec was registered with. -/
structure Apart (run : RegistryRun) (spec : FaultSpec) : Prop where
  named : run.registry.canonicalize (some spec.name) ≠ ""
  unregistered : run.registry.specs.get (run.registry.canonicalName spec) = none
  free : ∀ name ∈ spec.aliases, name ≠ run.registry.canonicalName spec →
    (∀ value ∈ run.registry.aliases.values, Text.strip value ≠ name) ∧
      ∀ entry ∈ run.registered, Text.strip entry.1.name ≠ name

/-- Every spec of a list is apart from what precedes it. -/
def AllApart (run : RegistryRun) : List FaultSpec → Prop
  | [] => True
  | spec :: rest => run.Apart spec ∧ (run.register spec).AllApart rest

def CallsApart (run : RegistryRun) : List RegistryCall → Prop
  | [] => True
  | call :: rest => run.AllApart (run.specsOf call) ∧ (run.call call).CallsApart rest

/-- Lookups resolve a name once, and find every spec under its own name. -/
structure Consistent (run : RegistryRun) : Prop where
  settled : run.registry.Settled
  owned : ∀ entry ∈ run.registered,
    run.registry.specs.get (run.registry.canonicalize (some entry.1.name)) = some entry.2

/-- What a registry holds has been registered. -/
def Stored (run : RegistryRun) : Prop :=
  ∀ name spec, run.registry.specs.get name = some spec → ∃ given, (given, spec) ∈ run.registered

variable {run : RegistryRun} {spec : FaultSpec}

theorem Stored.register (stored : run.Stored) (spec : FaultSpec) : (run.register spec).Stored := by
  intro name kept found
  change (run.registry.register spec).2.specs.get name = some kept at found
  rw [FaultSpecRegistry.get_register_specs] at found
  split at found
  · cases found
    exact ⟨spec, List.mem_append_right _ (List.mem_singleton_self _)⟩
  · obtain ⟨given, mem⟩ := stored name kept found
    exact ⟨given, List.mem_append_left _ mem⟩

theorem canonicalize_cases (registry : FaultSpecRegistry) (name : String) :
    registry.canonicalize (some name) = Text.strip name ∨
      registry.canonicalize (some name) ∈ registry.aliases.values := by
  by_cases blank : Text.strip name = ""
  · exact .inl ((registry.canonicalize_blank blank).trans blank.symm)
  · rw [registry.canonicalize_of_strip blank]
    rcases found : registry.aliases.get (Text.strip name) with _ | value
    · exact .inl rfl
    · exact .inr (Dict.mem_values.mpr ⟨_, found⟩)

/-- The canonical name of a spec resolves to itself, and so does what it is stripped from. -/
theorem canonicalize_of_canonical (settled : run.registry.Settled) (apart : run.Apart spec)
    {name : String} (same : Text.strip name = run.registry.canonicalName spec) :
    run.registry.canonicalize (some name) = run.registry.canonicalName spec := by
  have isCanonical := FaultSpecRegistry.canonicalName_eq apart.named
  have fixed := settled spec.name
  rw [← isCanonical] at fixed
  rw [← fixed]
  apply run.registry.canonicalize_congr
  rw [← same, Text.strip_strip]

theorem settled_register (settled : run.registry.Settled) (apart : run.Apart spec) :
    (run.registry.register spec).2.Settled := by
  intro name
  have resolve := FaultSpecRegistry.canonicalize_register settled apart.named
  have isCanonical := FaultSpecRegistry.canonicalName_eq apart.named
  by_cases isAlias : Text.strip name ≠ "" ∧ Text.strip name ∈ spec.aliases
  · rw [resolve name, if_pos isAlias, resolve]
    split
    · rfl
    · rw [isCanonical]
      exact settled spec.name
  · rw [resolve name, if_neg isAlias, resolve]
    split
    · rename_i captured
      by_cases same : Text.strip (run.registry.canonicalize (some name)) =
          run.registry.canonicalName spec
      · rw [← settled name]
        exact (canonicalize_of_canonical settled apart same).symm
      · have free := (apart.free _ captured.2 same).1
        rcases canonicalize_cases run.registry name with isName | isValue
        · rw [isName, Text.strip_strip] at captured
          exact absurd captured isAlias
        · exact absurd rfl (free _ isValue)
    · exact settled name

theorem Consistent.register (consistent : run.Consistent) (apart : run.Apart spec) :
    (run.register spec).Consistent where
  settled := settled_register consistent.settled apart
  owned := by
    intro entry mem
    have resolve := FaultSpecRegistry.canonicalize_register consistent.settled apart.named
    change (run.registry.register spec).2.specs.get
      ((run.registry.register spec).2.canonicalize (some entry.1.name)) = some entry.2
    rw [resolve, FaultSpecRegistry.get_register_specs]
    rcases List.mem_append.mp mem with earlier | new
    · have found := consistent.owned entry earlier
      have differs : run.registry.canonicalize (some entry.1.name) ≠
          run.registry.canonicalName spec := by
        intro same
        rw [same, apart.unregistered] at found
        cases found
      have noAlias : ¬(Text.strip entry.1.name ≠ "" ∧ Text.strip entry.1.name ∈ spec.aliases) := by
        intro captured
        by_cases same : Text.strip entry.1.name = run.registry.canonicalName spec
        · exact differs (canonicalize_of_canonical consistent.settled apart same)
        · exact (apart.free _ captured.2 same).2 entry earlier rfl
      rw [if_neg noAlias, if_neg differs]
      exact found
    · cases List.mem_singleton.mp new
      have isCanonical := FaultSpecRegistry.canonicalName_eq apart.named
      split
      · exact if_pos rfl
      · exact if_pos isCanonical.symm

/-! ### Whole runs -/

theorem Stored.foldl_register (stored : run.Stored) (specs : List FaultSpec) :
    (specs.foldl RegistryRun.register run).Stored := by
  induction specs generalizing run with
  | nil => exact stored
  | cons spec rest ih => exact ih (stored.register spec)

theorem Consistent.foldl_register {specs : List FaultSpec} (consistent : run.Consistent)
    (apart : run.AllApart specs) : (specs.foldl RegistryRun.register run).Consistent := by
  induction specs generalizing run with
  | nil => exact consistent
  | cons spec rest ih => exact ih (consistent.register apart.1) apart.2

theorem registry_foldl_register (specs : List FaultSpec) (run : RegistryRun) :
    (specs.foldl RegistryRun.register run).registry =
      specs.foldl (fun registry spec => (registry.register spec).2) run.registry := by
  induction specs generalizing run with
  | nil => rfl
  | cons spec rest ih => exact ih (run.register spec)

/-- A call registers its specs, and may note that the builtin ones are loaded. -/
theorem exists_call_eq (run : RegistryRun) (call : RegistryCall) :
    ∃ builtinNames,
      run.call call =
        { (run.specsOf call).foldl RegistryRun.register run with
          registry :=
            { ((run.specsOf call).foldl RegistryRun.register run).registry with builtinNames } } := by
  cases call with
  | register spec => exact ⟨run.registry.builtinNames, rfl⟩
  | loadBuiltins =>
      by_cases loaded : run.registry.builtinNames.isSome = true
      · refine ⟨run.registry.builtinNames, ?_⟩
        simp only [RegistryRun.call, specsOf, FaultSpecRegistry.loadBuiltins, if_pos loaded,
          List.foldl_nil]
      · refine ⟨some (Sorting.sorted (fun first second => decide (first ≤ second))
          (buildBuiltinFaultSpecs.foldl (fun registry spec => (registry.register spec).2)
            run.registry).specs.keys), ?_⟩
        simp only [RegistryRun.call, specsOf, FaultSpecRegistry.loadBuiltins, if_neg loaded,
          registry_foldl_register]

theorem Stored.call (stored : run.Stored) (call : RegistryCall) : (run.call call).Stored := by
  obtain ⟨builtinNames, isCall⟩ := exists_call_eq run call
  rw [isCall]
  exact stored.foldl_register (run.specsOf call)

theorem Consistent.call {call : RegistryCall} (consistent : run.Consistent)
    (apart : run.AllApart (run.specsOf call)) : (run.call call).Consistent := by
  obtain ⟨builtinNames, isCall⟩ := exists_call_eq run call
  have after := consistent.foldl_register apart
  rw [isCall]
  exact ⟨after.settled, after.owned⟩

theorem Stored.calls (stored : run.Stored) (calls : List RegistryCall) :
    (run.calls calls).Stored := by
  induction calls generalizing run with
  | nil => exact stored
  | cons call rest ih => exact ih (stored.call call)

theorem Consistent.calls {calls : List RegistryCall} (consistent : run.Consistent)
    (apart : run.CallsApart calls) : (run.calls calls).Consistent := by
  induction calls generalizing run with
  | nil => exact consistent
  | cons call rest ih => exact ih (consistent.call apart.1) apart.2

theorem CallsApart.init {calls later : List RegistryCall}
    (apart : run.CallsApart (calls ++ later)) : run.CallsApart calls := by
  induction calls generalizing run with
  | nil => trivial
  | cons call rest ih => exact ⟨apart.1, ih apart.2⟩

/-- A `get` looks into the registry that its own loading of the builtin specs leaves. -/
theorem get_calls (run : RegistryRun) (calls : List RegistryCall) (name : String) :
    ((run.calls calls).registry.get name).1 =
      (run.calls (calls ++ [.loadBuiltins])).registry.specs.get
        ((run.calls (calls ++ [.loadBuiltins])).registry.canonicalize (some name)) := by
  unfold RegistryRun.calls
  rw [List.foldl_append]
  rfl

end RegistryRun

/-- After any registrations, what a `get` finds has been registered. Where each of them, those of
the builtin specs included, was apart from what preceded it, names resolve once, and every spec is
found under its own name. -/
theorem fault_registry_consistent (canonicalAliases : Option (Dict String String))
    (schemaDefaults : Option (Dict String SchemaDefaults)) (calls : List RegistryCall) :
    let start := RegistryRun.create canonicalAliases schemaDefaults
    let loaded := start.calls (calls ++ [.loadBuiltins])
    (∀ name spec, ((start.calls calls).registry.get name).1 = some spec →
        ∃ given, (given, spec) ∈ loaded.registered) ∧
      (start.registry.Settled → start.CallsApart (calls ++ [.loadBuiltins]) →
        (start.calls calls).registry.Settled ∧ loaded.registry.Settled ∧
          ∀ given kept, (given, kept) ∈ loaded.registered →
            ((start.calls calls).registry.get given.name).1 = some kept) := by
  intro start loaded
  constructor
  · intro name spec found
    rw [RegistryRun.get_calls] at found
    have nothing : start.Stored := fun _ _ found => nomatch found
    exact nothing.calls _ _ _ found
  · intro settled apart
    have begun : start.Consistent := ⟨settled, fun _ mem => absurd mem List.not_mem_nil⟩
    refine ⟨(begun.calls (RegistryRun.CallsApart.init apart)).settled,
      (begun.calls apart).settled, ?_⟩
    intro given kept mem
    rw [RegistryRun.get_calls]
    exact (begun.calls apart).owned (given, kept) mem

/-- The aliases that a registry has by default resolve once. -/
theorem settled_default (schemaDefaults : Option (Dict String SchemaDefaults)) :
    (FaultSpecRegistry.create none schemaDefaults).Settled := by
  intro name
  have resolves : ∀ name, Text.strip name ≠ "" →
      (FaultSpecRegistry.create none schemaDefaults).canonicalize (some name) =
        if Text.strip name = "static_route_misconfiguration" then "static_route_misconfig"
        else Text.strip name := by
    intro name solid
    rw [FaultSpecRegistry.canonicalize_of_strip _ solid]
    change ((Dict.empty.set "static_route_misconfiguration" "static_route_misconfig").get
      (Text.strip name)).getD _ = _
    rw [Dict.get_set]
    split <;> rfl
  by_cases blank : Text.strip name = ""
  · rw [FaultSpecRegistry.canonicalize_blank _ blank]
    rfl
  · rw [resolves name blank]
    split
    · exact resolves "static_route_misconfig" (by decide +kernel)
    · rename_i other
      rw [resolves (Text.strip name) (by rwa [Text.strip_strip]), Text.strip_strip, if_neg other]

instance (run : RegistryRun) (spec : FaultSpec) : Decidable (run.Apart spec) :=
  decidable_of_iff
    (run.registry.canonicalize (some spec.name) ≠ "" ∧
      run.registry.specs.get (run.registry.canonicalName spec) = none ∧
      ∀ name ∈ spec.aliases, name ≠ run.registry.canonicalName spec →
        (∀ value ∈ run.registry.aliases.values, Text.strip value ≠ name) ∧
          ∀ entry ∈ run.registered, Text.strip entry.1.name ≠ name)
    ⟨fun apart => ⟨apart.1, apart.2.1, apart.2.2⟩,
      fun apart => ⟨apart.named, apart.unregistered, apart.free⟩⟩

instance decidableAllApart : (specs : List FaultSpec) → (run : RegistryRun) →
    Decidable (run.AllApart specs)
  | [], _ => .isTrue trivial
  | spec :: rest, run =>
      have := decidableAllApart rest (run.register spec)
      inferInstanceAs (Decidable (run.Apart spec ∧ (run.register spec).AllApart rest))

instance decidableCallsApart : (calls : List RegistryCall) → (run : RegistryRun) →
    Decidable (run.CallsApart calls)
  | [], _ => .isTrue trivial
  | call :: rest, run =>
      have := decidableCallsApart rest (run.call call)
      inferInstanceAs (Decidable (run.AllApart (run.specsOf call) ∧
        (run.call call).CallsApart rest))

/-- A spec of a fault pack. -/
def packSpec (name : String) (aliases : List String) : FaultSpec where
  name
  injectEpisode := some "_inject_episode"
  recoverActiveFault := some "_recover_active_fault"
  aliases

theorem fault_registry_consistent_pack :
    let loaded := (RegistryRun.create none none).calls
      [.loadBuiltins, .register (packSpec "dns_outage" ["dns_down", "resolver_outage"]),
        .register (packSpec "clock_skew" ["ntp_drift"])]
    loaded.registry.Settled ∧
      (loaded.registry.get "clock_skew").1 =
        some (packSpec "clock_skew" ["ntp_drift"]) := by
  obtain ⟨-, consistent⟩ := fault_registry_consistent none none
    [.loadBuiltins, .register (packSpec "dns_outage" ["dns_down", "resolver_outage"]),
      .register (packSpec "clock_skew" ["ntp_drift"])]
  obtain ⟨settled, -, owned⟩ := consistent (settled_default none) (by decide +kernel)
  exact ⟨settled, owned (packSpec "clock_skew" ["ntp_drift"]) _ (by decide +kernel)⟩

/-- Two specs with different names: the second has the name of the first as an alias. An alias of
the first resolves to a name that resolves further, and the first is not found under its name. -/
theorem captured_name_resolves_twice :
    let loaded := (RegistryRun.create none none).calls
      [.loadBuiltins, .register (packSpec "dns_outage" ["dns_down"]),
        .register (packSpec "resolver_outage" ["dns_outage"])]
    (loaded.registered.map fun entry => entry.1.name).Nodup ∧
      loaded.registry.canonicalize (some "dns_down") = "dns_outage" ∧
      loaded.registry.canonicalize (some (loaded.registry.canonicalize (some "dns_down"))) =
        "resolver_outage" ∧
      (packSpec "dns_outage" ["dns_down"], packSpec "dns_outage" ["dns_down"]) ∈
        loaded.registered ∧
      (loaded.registry.get "dns_outage").1 =
        some (packSpec "resolver_outage" ["dns_outage"]) := by
  decide +kernel

end NetOpsBench
