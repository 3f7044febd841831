import NetOpsBench.ClientAgent.Validation
import NetOpsBench.Lib.Ipv4

/-!
# Loading the compiled files

`ClientAgentConfig::load` and `load_client_plan` of `native/client-agent/src/config.rs` on the
files that `write_client_agent_config` writes: the records are read at their Rust types and
validated. `compiledFiles_load_iff` says for which manifests the compiled files are accepted.
-/

namespace NetOpsBench

open Fallible Batches

/-! ## Reading the records -/

/-- A number is read at an unsigned type of so many bits. -/
def readUnsigned (bits n : Nat) : Except String Unit :=
  reject (2 ^ bits ≤ n) "parse current client-agent config; regenerate old artifacts"

/-- A text is read as an `Ipv4Addr`. -/
def readAddress (text : String) : Except String Unit :=
  reject (Ipv4.parse text = none) "parse current client-agent config; regenerate old artifacts"

/-- The fields of `PlanSettings`: `u16` ports, and `u64` and `usize` numbers. -/
def PlanSettings.read (settings : PlanSettings) : Except String Unit := do
  settings.sourcePorts.forM (readUnsigned 16)
  settings.portBatches.forM fun batch => batch.forM (readUnsigned 64)
  [settings.destinationBatchSize, settings.cycleIntervalSeconds, settings.coverageEpochCycles,
    settings.coverageEpochSeconds, settings.completeWindowSeconds,
    settings.dfPayloadSize].forM (readUnsigned 64)

/-- The fields of a `ProbeFrame`. -/
def ProbeFrame.read (frame : ProbeFrame) : Except String Unit := do
  [frame.destinationBatchIndex, frame.portBatchIndex].forM (readUnsigned 64)
  frame.targetIndices.forM (readUnsigned 64)
  frame.probes.forM fun probe => [probe.2.1, probe.2.2].forM (readUnsigned 64)

/-- `ClientAgentConfig::load` -/
def ClientAgentConfig.load (config : ClientAgentConfig) : Except String Unit := do
  readUnsigned 32 config.schemaVersion
  config.clients.forM fun client => [client.dataIp, client.managementIp].forM readAddress
  config.pingmeshPlan.read
  config.validate

/-- `load_client_plan`, for the text of a plan file and the plan that it is the text of. -/
def ClientAgentConfig.loadClientPlan (config : ClientAgentConfig) (text : String)
    (plan : AgentProbePlan) (localClient : AgentClient) : Except String Unit := do
  reject (config.clientPlanSha256.get localClient.name ≠
      some (Sha256.hexdigest (Json.encode text)))
    "client plan digest mismatch; regenerate the topology"
  [plan.schemaVersion].forM (readUnsigned 32)
  readUnsigned 64 plan.startupDelayMs
  plan.frames.forM ProbeFrame.read
  plan.validate config localClient

/-- The plan that the file of a client holds. -/
def agentProbePlan (plan : PingmeshPlan) (client : ClientProbePlan) : AgentProbePlan :=
  { client with schemaVersion := clientAgentSchemaVersion, planId := plan.settings.planId }

/-- The agents of all clients start with the written files. -/
def PingmeshPlan.Loads (plan : PingmeshPlan) (config : ClientAgentConfig) : Prop :=
  config.load = .ok () ∧ ∀ client ∈ plan.clients, ∀ localClient,
    config.localClient client.name = .ok localClient →
      config.loadClientPlan (clientPlanText plan client) (agentProbePlan plan client) localClient =
        .ok ()

/-! ## The condition -/

namespace TopologyManifest

/-- The peers that the rack loops select. -/
def peers (manifest : TopologyManifest) : Peers :=
  match matchRacks manifest.pingmesh (racksOf manifest.clients) with
  | .ok matching => matching.peers
  | .error _ => fun _ => []

def clientNames (manifest : TopologyManifest) : List String := manifest.clients.map Device.name

/-- The cycles that visit every destination batch of every client on every port batch. -/
def epochCycles (manifest : TopologyManifest) : Nat :=
  destinationBatchCount (manifest.pingmesh.batchSize manifest.peers manifest.clientNames)
    manifest.peers manifest.clientNames * manifest.pingmesh.portBatches.length

/-- The bounds of the agent that neither the policy model nor the compiler checks. -/
structure Loadable (manifest : TopologyManifest) : Prop where
  names : ∀ client ∈ manifest.clients, '/' ∉ client.name.toList ∧ client.name ≠ ".."
  addresses : ∀ client ∈ manifest.clients, ∀ address,
    client.dataIp = some address ∨ client.mgmtIp = some address → Ipv4.parse address ≠ none
  payload : 24 ≤ manifest.pingmesh.dfPayloadSize ∧ manifest.pingmesh.dfPayloadSize ≤ 65507
  batch : manifest.pingmesh.batchSize manifest.peers manifest.clientNames < 2 ^ 64
  window : manifest.epochCycles * manifest.pingmesh.cycleIntervalSeconds +
    max 5 (2 * manifest.pingmesh.cycleIntervalSeconds) < 2 ^ 64
  targets : ∀ name ∈ manifest.clientNames, (manifest.peers name).length ≤ 2 ^ 64
  startup : ∀ name ∈ manifest.clientNames,
    startupJitter name manifest.pingmesh.cycleIntervalSeconds <
      wrappingMul manifest.pingmesh.cycleIntervalSeconds 1000

end TopologyManifest

/-! ## What is written -/

section Written

variable {str : Json → String} {manifest : TopologyManifest} {plan : PingmeshPlan}
  {config : ClientAgentConfig}

@[simp] theorem readUnsigned_eq_ok {bits n : Nat} {u : Unit} :
    readUnsigned bits n = .ok u ↔ n < 2 ^ bits := by
  rw [readUnsigned, reject_eq_ok, Nat.not_le]

@[simp] theorem readAddress_eq_ok {text : String} {u : Unit} :
    readAddress text = .ok u ↔ Ipv4.parse text ≠ none := by
  rw [readAddress, reject_eq_ok]

/-- Hexadecimal text has one byte for each digit. -/
theorem utf8ByteSize_hexdigest (message : List UInt8) :
    (Sha256.hexdigest message).utf8ByteSize = 64 := by
  have digits : ∀ cs : List Char, (∀ c ∈ cs, c.utf8Size = 1) →
      (String.ofList cs).utf8ByteSize = cs.length := by
    intro cs
    induction cs with
    | nil => exact fun _ => rfl
    | cons c cs ih =>
        intro small
        have split : String.ofList (c :: cs) = String.singleton c ++ String.ofList cs := by
          refine String.toList_inj.mp ?_
          simp
        rw [split, String.utf8ByteSize_append, String.utf8ByteSize_singleton,
          small c List.mem_cons_self, ih fun d mem => small d (List.mem_cons_of_mem c mem),
          List.length_cons, Nat.add_comm]
  have hex : ∀ n, (Sha256.hexDigit n).utf8Size = 1 := by
    intro n
    have known : ∀ c ∈ '0' :: "0123456789abcdef".toList, c.utf8Size = 1 := by
      simp [Char.utf8Size]
    refine known _ ?_
    rw [Sha256.hexDigit, List.getD_eq_getElem?_getD]
    rcases found : "0123456789abcdef".toList[n]? with _ | c
    · exact List.mem_cons_self
    · exact List.mem_cons_of_mem _ (List.mem_of_getElem? found)
  rw [Sha256.hexdigest, digits]
  · rw [Sha256.hexBytes_length, Sha256.digest_length]
  · intro c mem
    obtain ⟨b, -, memDigits⟩ := List.mem_flatMap.mp mem
    rcases List.mem_cons.mp memDigits with first | rest
    · rw [first]
      exact hex _
    · rw [List.mem_singleton.mp rest]
      exact hex _

/-- The compiled plan over the peers that the rack loops select. -/
theorem compiled_peers (done : compilePingmeshPlan manifest = .ok plan) :
    Compiled manifest manifest.peers plan := by
  have passed := done
  simp only [compilePingmeshPlan, bind_eq_ok, reject_eq_ok, pure_eq_ok, not_or, not_exists,
    not_and, Nat.not_lt] at passed
  obtain ⟨_, two, ⟨peers, counts⟩, matched, _, probed, _, perCycle, _, ⟨ports, responder⟩,
    coverage, -, _, -, _, -, rfl⟩ := passed
  have selected : manifest.peers = peers := by
    rw [TopologyManifest.peers, matched]
  rw [selected]
  exact
    { correct := matchRacks_correct manifest.clientNames_nodup matched
      two_clients := two
      probed
      portsPerCycle_le := perCycle
      ports_valid := ports
      responder_free := responder
      clients_eq := rfl
      settings_eq := rfl }

theorem agentClient_managementIp {client : Device} {entry : AgentClient}
    (done : agentClient str client = .ok entry) : client.mgmtIp = some entry.managementIp := by
  unfold agentClient at done
  split at done
  · rename_i mgmtIp _ _ management _
    rw [pure_eq_ok] at done
    subst done
    exact (nonempty_eq_some.mp management).1
  · cases done

/-- The addresses of the roster are those of the clients. -/
theorem roster_addresses (built : buildClientAgentConfig str manifest plan = .ok config)
    (p : String → Prop) :
    (∀ entry ∈ config.clients, p entry.dataIp ∧ p entry.managementIp) ↔
      ∀ client ∈ manifest.clients, ∀ address,
        client.dataIp = some address ∨ client.mgmtIp = some address → p address := by
  simp only [buildClientAgentConfig, bind_eq_ok, pure_eq_ok] at built
  obtain ⟨clients, entries, rfl⟩ := built
  refine ⟨?_, ?_⟩
  · intro all client mem address given
    obtain ⟨entry, memEntry, done⟩ := exists_of_mapM entries mem
    rcases given with data | management
    · rw [(agentClient_eq_ok done).2.1] at data
      exact Option.some.inj data ▸ (all entry memEntry).1
    · rw [agentClient_managementIp done] at management
      exact Option.some.inj management ▸ (all entry memEntry).2
  · intro all entry mem
    obtain ⟨client, memClient, done⟩ := (mem_of_mapM entries).mp mem
    exact ⟨all client memClient _ (.inl (agentClient_eq_ok done).2.1),
      all client memClient _ (.inr (agentClient_managementIp done))⟩

theorem forall_names (built : buildClientAgentConfig str manifest plan = .ok config)
    (p : String → Prop) :
    (∀ entry ∈ config.clients, p entry.name) ↔ ∀ client ∈ manifest.clients, p client.name := by
  have names := roster_names built
  have left : (∀ entry ∈ config.clients, p entry.name) ↔
      ∀ name ∈ config.clients.map AgentClient.name, p name := by simp
  have right : (∀ client ∈ manifest.clients, p client.name) ↔
      ∀ name ∈ manifest.clients.map Device.name, p name := by simp
  rw [left, right, names]

/-- The digest of a plan file is filed under the name of its client. -/
theorem digest_of_built (done : compilePingmeshPlan manifest = .ok plan)
    (built : buildClientAgentConfig str manifest plan = .ok config) {name digest : String} :
    config.clientPlanSha256.get name = some digest ↔ ∃ client ∈ plan.clients, client.name = name ∧
      Sha256.hexdigest (Json.encode (clientPlanText plan client)) = digest := by
  have distinct : ((plan.clients.map fun client => (client.name, Sha256.hexdigest
      (Json.encode (clientPlanText plan client)))).map Prod.fst).Nodup := by
    rw [List.map_map]
    exact (compiled_peers done).map_name ▸ manifest.clientNames_nodup
  simp only [buildClientAgentConfig, bind_eq_ok, pure_eq_ok] at built
  obtain ⟨clients, entries, rfl⟩ := built
  rw [Dict.get_ofEntries distinct]
  simp [List.mem_map]

theorem length_targets (policy : PingmeshPolicy) (peers : Peers) (names : List String)
    (name : String) : (clientProbePlan policy peers names name).targets.length =
      (peers name).length :=
  (Sorting.sorted_perm _ _).length_eq

namespace Compiled

variable {peers : Peers}

theorem poolSize_le (compiled : Compiled manifest peers plan) :
    33000 + manifest.pingmesh.rttPortPoolSize ≤ 65536 := by
  have last := compiled.ports_valid
  have pos := manifest.pingmesh.rttPortPoolSize_pos
  rw [compiled.settings_eq] at last
  simp only [planSettings, List.getLast?_range'] at last
  split at last
  · omega
  · simp only [Option.getD_some] at last
    omega

theorem mem_portBatches {batch : List Nat} {i : Nat}
    (memBatch : batch ∈ manifest.pingmesh.portBatches) (mem : i ∈ batch) :
    i < manifest.pingmesh.rttPortPoolSize := by
  obtain ⟨k, -, rfl⟩ := List.mem_map.mp memBatch
  exact ((mem_batch manifest.pingmesh.rttPortsPerCycle_pos).mp mem).1

theorem portBatches_length_pos : 0 < manifest.pingmesh.portBatches.length := by
  rw [PingmeshPolicy.portBatches, length_batches]
  exact batchCount_pos manifest.pingmesh.rttPortsPerCycle_pos manifest.pingmesh.rttPortPoolSize_pos

theorem epochCycles_pos (compiled : Compiled manifest manifest.peers plan) :
    0 < manifest.epochCycles := by
  obtain ⟨client, mem⟩ := List.exists_mem_of_ne_nil _
    (List.ne_nil_of_length_pos (Nat.lt_of_lt_of_le (by decide) compiled.two_clients))
  have name : client.name ∈ manifest.clientNames := List.mem_map_of_mem mem
  have peered := List.length_pos_iff.mpr (compiled.probed _ name)
  refine Nat.mul_pos ?_ portBatches_length_pos
  exact Nat.lt_of_lt_of_le (batchCount_pos compiled.batchSize_pos peered)
    (List.le_max_of_le' 0 (List.mem_map_of_mem name) le_rfl)

end Compiled

/-- The settings of a compiled plan. -/
theorem settings_of_compiled (compiled : Compiled manifest manifest.peers plan) :
    plan.settings =
      { planId := planFingerprint manifest.toTopology plan
        sourcePorts := List.range' 33000 manifest.pingmesh.rttPortPoolSize
        portBatches := manifest.pingmesh.portBatches
        destinationBatchSize := manifest.pingmesh.batchSize manifest.peers manifest.clientNames
        cycleIntervalSeconds := manifest.pingmesh.cycleIntervalSeconds
        coverageEpochCycles := manifest.epochCycles
        coverageEpochSeconds := manifest.epochCycles * manifest.pingmesh.cycleIntervalSeconds
        completeWindowSeconds := manifest.epochCycles * manifest.pingmesh.cycleIntervalSeconds +
          max 5 (2 * manifest.pingmesh.cycleIntervalSeconds)
        dfPayloadSize := manifest.pingmesh.dfPayloadSize } :=
  compiled.settings_eq

/-- The settings are read exactly when their products are small enough. -/
theorem read_settings_iff (compiled : Compiled manifest manifest.peers plan) :
    plan.settings.read = .ok () ↔
      manifest.pingmesh.batchSize manifest.peers manifest.clientNames < 2 ^ 64 ∧
        manifest.epochCycles * manifest.pingmesh.cycleIntervalSeconds +
          max 5 (2 * manifest.pingmesh.cycleIntervalSeconds) < 2 ^ 64 ∧
        manifest.pingmesh.dfPayloadSize < 2 ^ 64 := by
  have pool := compiled.poolSize_le
  have ports : ∀ port ∈ List.range' 33000 manifest.pingmesh.rttPortPoolSize, port < 2 ^ 16 := by
    intro port mem
    rw [List.mem_range'_1] at mem
    omega
  have sockets : ∀ batch ∈ manifest.pingmesh.portBatches, ∀ i ∈ batch, i < 2 ^ 64 := by
    intro batch memBatch i mem
    have := Compiled.mem_portBatches memBatch mem
    omega
  have interval := manifest.pingmesh.cycleIntervalSeconds_pos
  have epoch : manifest.epochCycles ≤
      manifest.epochCycles * manifest.pingmesh.cycleIntervalSeconds :=
    Nat.le_mul_of_pos_right _ interval
  rw [settings_of_compiled compiled]
  simp only [PlanSettings.read, bind_eq_ok, forM_eq_ok, readUnsigned_eq_ok, List.forall_mem_cons]
  refine ⟨?_, ?_⟩
  · intro given
    rcases given with ⟨_, _, _, _, batch, _, _, _, window, payload, _⟩
    exact ⟨batch, window, payload⟩
  · intro given
    rcases given with ⟨batch, window, payload⟩
    refine ⟨(), ports, (), sockets, batch, ?_, ?_, ?_, window, payload, ?_⟩
    · omega
    · omega
    · omega
    · exact fun _ mem => (List.not_mem_nil mem).elim

theorem schemaVersion_of_built (built : buildClientAgentConfig str manifest plan = .ok config) :
    config.schemaVersion = configSchemaVersion := by
  simp only [buildClientAgentConfig, bind_eq_ok, pure_eq_ok] at built
  obtain ⟨_, -, rfl⟩ := built
  rfl

/-- A written configuration satisfies every check but those that depend on its bounds. -/
theorem accepted_of_built (done : compilePingmeshPlan manifest = .ok plan)
    (built : buildClientAgentConfig str manifest plan = .ok config)
    (small : manifest.epochCycles * manifest.pingmesh.cycleIntervalSeconds < 2 ^ 64) :
    config.Accepted ↔
      (∀ client ∈ manifest.clients, '/' ∉ client.name.toList ∧ client.name ≠ "..") ∧
        24 ≤ manifest.pingmesh.dfPayloadSize ∧ manifest.pingmesh.dfPayloadSize ≤ 65507 := by
  have compiled := compiled_peers done
  have sound := compiled.sound
  have names := roster_names built
  have settings := pingmeshPlan_of_built built
  have keys : ∀ name, name ∈ config.clientPlanSha256.keys ↔ name ∈ config.names := by
    intro name
    simp only [Dict.mem_keys, digest_of_built done built, ClientAgentConfig.names, names,
      ← compiled.map_name, List.mem_map]
    refine ⟨?_, ?_⟩
    · intro given
      rcases given with ⟨_, client, mem, named, _⟩
      exact ⟨client, mem, named⟩
    · intro given
      rcases given with ⟨client, mem, named⟩
      exact ⟨_, client, mem, named, rfl⟩
  rw [← forall_names built fun name => '/' ∉ name.toList ∧ name ≠ ".."]
  refine ⟨?_, ?_⟩
  · intro accepted
    refine ⟨accepted.names_plain, ?_⟩
    have payload := accepted.payload
    rw [settings, settings_of_compiled compiled] at payload
    exact payload
  · intro given
    rcases given with ⟨plain, payload⟩
    have partition := sound.ports_partitioned
    rw [settings_of_compiled compiled] at partition
    refine
      { schema := schemaVersion_of_built built, two_clients := ?_, names_nodup := ?_, names_plain := plain
        digests := ⟨fun name => (keys name).mp, fun name => (keys name).mpr⟩
        planId_length := ?_, ports_ne_nil := ?_, responder_free := ?_, ports_nodup := ?_
        interval_pos := ?_, epoch_pos := ?_, batchSize_pos := ?_, payload := ?_
        batches_ne_nil := ?_, epoch_seconds := ?_, window := ?_, ports_partitioned := ?_ }
    · have length := congrArg List.length names
      rw [List.length_map, List.length_map] at length
      rw [length]
      exact compiled.two_clients
    · rw [ClientAgentConfig.names, names]
      exact manifest.clientNames_nodup
    all_goals rw [settings]
    · rw [settings_of_compiled compiled]
      exact utf8ByteSize_hexdigest _
    · rw [settings_of_compiled compiled]
      refine List.ne_nil_of_length_pos ?_
      rw [List.length_range']
      exact manifest.pingmesh.rttPortPoolSize_pos
    · exact compiled.responder_free
    · rw [settings_of_compiled compiled]
      exact List.nodup_range'
    · rw [settings_of_compiled compiled]
      exact Nat.ne_of_gt manifest.pingmesh.cycleIntervalSeconds_pos
    · rw [settings_of_compiled compiled]
      exact Nat.ne_of_gt compiled.epochCycles_pos
    · rw [settings_of_compiled compiled]
      exact Nat.ne_of_gt compiled.batchSize_pos
    · rw [settings_of_compiled compiled]
      exact payload
    · rw [settings_of_compiled compiled]
      refine ⟨List.ne_nil_of_length_pos Compiled.portBatches_length_pos, ?_⟩
      intro empty
      obtain ⟨k, atK⟩ := List.getElem?_of_mem empty
      exact Compiled.portBatches_ne_nil atK rfl
    · rw [settings_of_compiled compiled]
      exact (Nat.mod_eq_of_lt small).symm
    · rw [settings_of_compiled compiled]
      exact Nat.le_add_right _ _
    · rw [settings_of_compiled compiled]
      exact partition

/-- The written configuration is loaded exactly within the bounds of the agent. -/
theorem load_iff (done : compilePingmeshPlan manifest = .ok plan)
    (built : buildClientAgentConfig str manifest plan = .ok config) :
    config.load = .ok () ↔
      (∀ client ∈ manifest.clients, '/' ∉ client.name.toList ∧ client.name ≠ "..") ∧
        (∀ client ∈ manifest.clients, ∀ address,
          client.dataIp = some address ∨ client.mgmtIp = some address →
            Ipv4.parse address ≠ none) ∧
        (24 ≤ manifest.pingmesh.dfPayloadSize ∧ manifest.pingmesh.dfPayloadSize ≤ 65507) ∧
        manifest.pingmesh.batchSize manifest.peers manifest.clientNames < 2 ^ 64 ∧
        manifest.epochCycles * manifest.pingmesh.cycleIntervalSeconds +
          max 5 (2 * manifest.pingmesh.cycleIntervalSeconds) < 2 ^ 64 := by
  have compiled := compiled_peers done
  have schema : config.schemaVersion < 2 ^ 32 := by
    rw [schemaVersion_of_built built]
    decide
  have settings := pingmeshPlan_of_built built
  have addresses := roster_addresses built fun address => Ipv4.parse address ≠ none
  unfold ClientAgentConfig.load
  simp only [bind_eq_ok, forM_eq_ok, readUnsigned_eq_ok, readAddress_eq_ok, List.forall_mem_cons,
    ClientAgentConfig.validate_eq_ok, settings, read_settings_iff compiled]
  have pairs : (∀ entry ∈ config.clients, Ipv4.parse entry.dataIp ≠ none ∧
      Ipv4.parse entry.managementIp ≠ none ∧ ∀ address ∈ ([] : List String),
        Ipv4.parse address ≠ none) ↔ ∀ entry ∈ config.clients, Ipv4.parse entry.dataIp ≠ none ∧
      Ipv4.parse entry.managementIp ≠ none := by
    simp
  refine ⟨?_, ?_⟩
  · intro given
    rcases given with ⟨_, _, _, parsed, _, ⟨batch, window, _⟩, accepted⟩
    obtain ⟨plain, payload⟩ := (accepted_of_built done built (by omega)).mp accepted
    exact ⟨plain, addresses.mp (pairs.mp parsed), payload, batch, window⟩
  · intro given
    rcases given with ⟨plain, parsed, payload, batch, window⟩
    refine ⟨(), schema, (), pairs.mpr (addresses.mpr parsed), (), ⟨batch, window, by omega⟩, ?_⟩
    exact (accepted_of_built done built (by omega)).mpr ⟨plain, payload⟩

/-- The frames of a compiled plan cover every target on every port batch once. -/
theorem coverage_perm (compiled : Compiled manifest manifest.peers plan) {client : ClientProbePlan}
    (mem : client ∈ plan.clients) : (client.frames.flatMap ProbeFrame.coverage).Perm
      (List.range client.targets.length ×ˢ List.range plan.settings.portBatches.length) := by
  have sound := compiled.sound
  refine (List.perm_ext_iff_of_nodup ?_ (List.nodup_range.product List.nodup_range)).mpr ?_
  · rw [List.nodup_flatMap]
    refine ⟨?_, List.pairwise_iff_getElem.mpr ?_⟩
    · intro frame memFrame
      refine (sound.frame_sound client mem frame memFrame).targets_nodup.map ?_
      intro a b same
      exact (Prod.mk.inj same).1
    · intro i j iLt jLt less unit inFirst inSecond
      obtain ⟨target, portBatch⟩ := unit
      obtain ⟨active, here⟩ := mem_coverage.mp inFirst
      obtain ⟨active', here'⟩ := mem_coverage.mp inSecond
      have inRange := sound.frame_sound client mem _ (List.getElem_mem iLt)
      have port := inRange.portBatch_lt
      rw [here] at port
      obtain ⟨k, -, only⟩ := sound.frame_once client mem target (inRange.target_lt _ active)
        portBatch port
      have first := only i ⟨_, List.getElem?_eq_getElem iLt, here, active⟩
      have second := only j ⟨_, List.getElem?_eq_getElem jLt, here', active'⟩
      omega
  · intro given
    rcases given with ⟨target, portBatch⟩
    rw [List.mem_product, List.mem_range, List.mem_range, List.mem_flatMap]
    refine ⟨?_, ?_⟩
    · intro given
      rcases given with ⟨frame, memFrame, covered⟩
      obtain ⟨active, here⟩ := mem_coverage.mp covered
      have inRange := sound.frame_sound client mem frame memFrame
      exact ⟨inRange.target_lt _ active, here ▸ inRange.portBatch_lt⟩
    · intro given
      rcases given with ⟨below, port⟩
      obtain ⟨k, ⟨frame, atK, here, active⟩, -⟩ :=
        sound.frame_once client mem target below portBatch port
      exact ⟨frame, List.mem_of_getElem? atK, mem_coverage.mpr ⟨active, here⟩⟩

/-- A frame of a compiled plan, by its destination batch. -/
theorem mem_frames (compiled : Compiled manifest manifest.peers plan) {client : ClientProbePlan}
    (mem : client ∈ plan.clients) {frame : ProbeFrame} (memFrame : frame ∈ client.frames) :
    frame.destinationBatchIndex < manifest.epochCycles ∧
      frame.targetIndices.length ≤ manifest.pingmesh.batchSize manifest.peers manifest.clientNames
      := by
  obtain ⟨name, -, rfl⟩ := compiled.mem_clients.mp mem
  simp only [clientProbePlan, probeFrames, List.mem_flatMap, List.mem_map, List.mem_range] at memFrame
  obtain ⟨⟨sockets, portBatch⟩, -, destinationBatch, below, rfl⟩ := memFrame
  refine ⟨Nat.lt_of_lt_of_le below ?_, batch_length_le⟩
  exact Nat.le_mul_of_pos_right _ Compiled.portBatches_length_pos

/-- The frames of a client are read when its targets can be numbered. -/
theorem read_frames_iff (compiled : Compiled manifest manifest.peers plan)
    {client : ClientProbePlan} (mem : client ∈ plan.clients)
    (window : manifest.epochCycles < 2 ^ 64) :
    client.frames.forM ProbeFrame.read = .ok () ↔ client.targets.length ≤ 2 ^ 64 := by
  have sound := compiled.sound
  have pool := compiled.poolSize_le
  have portsLength : plan.settings.portBatches.length ≤ manifest.pingmesh.rttPortPoolSize := by
    rw [settings_of_compiled compiled, PingmeshPolicy.portBatches, length_batches]
    exact batchCount_le manifest.pingmesh.rttPortsPerCycle_pos
  simp only [forM_eq_ok, ProbeFrame.read, bind_eq_ok, readUnsigned_eq_ok, List.forall_mem_cons]
  refine ⟨?_, ?_⟩
  · intro all
    by_contra many
    -- the last target is in some frame
    have covered : (client.targets.length - 1, 0) ∈
        client.frames.flatMap ProbeFrame.coverage := by
      rw [(coverage_perm compiled mem).mem_iff]
      refine List.mem_product.mpr ⟨List.mem_range.mpr (by omega), List.mem_range.mpr ?_⟩
      rw [settings_of_compiled compiled]
      exact Compiled.portBatches_length_pos
    obtain ⟨frame, memFrame, inFrame⟩ := List.mem_flatMap.mp covered
    obtain ⟨_, _, _, targets, _⟩ := all frame memFrame
    have bound := targets _ (mem_coverage.mp inFrame).1
    omega
  · intro few frame memFrame
    have inRange := sound.frame_sound client mem frame memFrame
    have small : ∀ i < client.targets.length, i < 2 ^ 64 := fun i below => by omega
    have active : frame.targetIndices.length ≤ client.targets.length := by
      have inside : frame.targetIndices ⊆ List.range client.targets.length := by
        intro i memI
        exact List.mem_range.mpr (inRange.target_lt i memI)
      have length := (List.subperm_of_subset inRange.targets_nodup inside).length_le
      rwa [List.length_range] at length
    have sockets : (plan.settings.socketsOf frame).length ≤ 2 ^ 64 := by
      have batches := sound.ports_partitioned.length_eq
      have part : (plan.settings.socketsOf frame).length ≤ plan.settings.portBatches.flatten.length := by
        rw [PlanSettings.socketsOf, List.getD_eq_getElem?_getD,
          List.getElem?_eq_getElem inRange.portBatch_lt]
        exact (List.sublist_flatten_of_mem (List.getElem_mem _)).length_le
      have ports : plan.settings.sourcePorts.length = manifest.pingmesh.rttPortPoolSize := by
        rw [settings_of_compiled compiled, List.length_range']
      rw [batches, List.length_range, ports] at part
      omega
    refine ⟨(), ⟨?_, ?_, fun _ none => (List.not_mem_nil none).elim⟩, (), ?_, ?_⟩
    · exact (mem_frames compiled mem memFrame).1.trans window
    · have port := inRange.portBatch_lt
      omega
    · intro i memI
      exact small i (inRange.target_lt i memI)
    · intro probe memProbe
      have bounds := inRange.probe_lt probe.1 probe.2.1 probe.2.2 memProbe
      refine ⟨small _ (by omega), by omega, fun _ none => (List.not_mem_nil none).elim⟩

/-- The written plan of a client is loaded when its targets can be numbered and its startup
delay is below the cycle. -/
theorem loadClientPlan_iff (done : compilePingmeshPlan manifest = .ok plan)
    (built : buildClientAgentConfig str manifest plan = .ok config) {client : ClientProbePlan}
    (mem : client ∈ plan.clients) {localClient : AgentClient}
    (found : config.localClient client.name = .ok localClient)
    (window : manifest.epochCycles < 2 ^ 64) :
    config.loadClientPlan (clientPlanText plan client) (agentProbePlan plan client) localClient =
        .ok () ↔
      client.targets.length ≤ 2 ^ 64 ∧
        client.startupDelayMs < wrappingMul manifest.pingmesh.cycleIntervalSeconds 1000 := by
  have compiled := compiled_peers done
  have sound := compiled.sound
  obtain ⟨-, localName⟩ := localClient_eq_ok found
  have settings := pingmeshPlan_of_built built
  have interval : plan.settings.cycleIntervalSeconds = manifest.pingmesh.cycleIntervalSeconds := by
    rw [settings_of_compiled compiled]
  have names : config.names = manifest.clientNames := roster_names built
  have digest : config.clientPlanSha256.get localClient.name =
      some (Sha256.hexdigest (Json.encode (clientPlanText plan client))) :=
    (digest_of_built done built).mpr ⟨client, mem, localName.symm, rfl⟩
  have delay : client.startupDelayMs < 2 ^ 64 := by
    obtain ⟨name, -, rfl⟩ := compiled.mem_clients.mp mem
    refine Nat.lt_of_le_of_lt (Nat.mod_le _ _) ?_
    refine Nat.lt_of_lt_of_le (BigEndian.decode_lt _) ?_
    rw [List.length_take, Sha256.digest_length]
    decide
  have accepted : client.startupDelayMs <
        wrappingMul manifest.pingmesh.cycleIntervalSeconds 1000 ↔
      (agentProbePlan plan client).Accepted config localClient := by
    refine ⟨?_, ?_⟩
    · intro startup
      refine
        { schema := rfl, planId_eq := ?_, name_eq := localName.symm, frames_length := ?_
          targets_ne_nil := ?_, targets_nodup := sound.targets_nodup client mem, targets_known := ?_
          startup := ?_, frame_sound := ?_, covers := ?_ }
      · rw [settings]
        rfl
      · rw [settings]
        exact sound.frames_length client mem
      · obtain ⟨name, memName, rfl⟩ := compiled.mem_clients.mp mem
        intro empty
        have length := length_targets manifest.pingmesh manifest.peers manifest.clientNames name
        have none := (List.length_eq_zero_iff.mpr empty).symm.trans length
        exact compiled.probed name memName (List.eq_nil_of_length_eq_zero none.symm)
      · intro name memName
        rw [localName, names]
        have probes : plan.Probes client.name name := ⟨client, mem, rfl, memName⟩
        refine ⟨?_, compiled.name_of_probes (sound.symmetric _ _ probes)⟩
        intro same
        rw [same] at probes
        exact sound.irreflexive _ probes
      · rw [settings, interval]
        exact startup
      · intro frame memFrame
        rw [settings]
        refine ⟨sound.frame_sound client mem frame memFrame, ?_⟩
        rw [settings_of_compiled compiled]
        exact (mem_frames compiled mem memFrame).2
      · rw [settings]
        exact coverage_perm compiled mem
    · intro accepted
      have startup := accepted.startup
      rw [settings, interval] at startup
      exact startup
  unfold ClientAgentConfig.loadClientPlan
  have schema : (agentProbePlan plan client).schemaVersion < 2 ^ 32 :=
    (by decide : clientAgentSchemaVersion < 2 ^ 32)
  rw [accepted, ← AgentProbePlan.validate_eq_ok, ← read_frames_iff compiled mem window]
  simp only [bind_eq_ok, reject_eq_ok, not_not, digest, readUnsigned_eq_ok, forM_eq_ok,
    List.forall_mem_singleton]
  refine ⟨?_, ?_⟩
  · intro given
    rcases given with ⟨_, _, _, _, _, _, _, frames, valid⟩
    exact ⟨frames, valid⟩
  · intro given
    rcases given with ⟨frames, valid⟩
    exact ⟨(), trivial, (), schema, (), delay, (), frames, valid⟩

/-- The compiled files are loaded by every agent exactly when the manifest is loadable. -/
theorem compiledFiles_load_iff (done : compilePingmeshPlan manifest = .ok plan)
    (built : buildClientAgentConfig str manifest plan = .ok config) :
    plan.Loads config ↔ manifest.Loadable := by
  have compiled := compiled_peers done
  have epoch : manifest.epochCycles ≤
      manifest.epochCycles * manifest.pingmesh.cycleIntervalSeconds :=
    Nat.le_mul_of_pos_right _ manifest.pingmesh.cycleIntervalSeconds_pos
  have clients : ∀ name ∈ manifest.clientNames, ∃ client ∈ plan.clients, client.name = name ∧
      client.targets.length = (manifest.peers name).length ∧ client.startupDelayMs =
        startupJitter name manifest.pingmesh.cycleIntervalSeconds := by
    intro name mem
    exact ⟨_, compiled.mem_clients.mpr ⟨name, mem, rfl⟩, rfl,
      length_targets .., rfl⟩
  unfold PingmeshPlan.Loads
  rw [load_iff done built]
  refine ⟨?_, ?_⟩
  · intro given
    rcases given with ⟨⟨names, addresses, payload, batch, window⟩, plans⟩
    have each : ∀ name ∈ manifest.clientNames, (manifest.peers name).length ≤ 2 ^ 64 ∧
        startupJitter name manifest.pingmesh.cycleIntervalSeconds <
          wrappingMul manifest.pingmesh.cycleIntervalSeconds 1000 := by
      intro name mem
      obtain ⟨client, memClient, rfl, length, delay⟩ := clients name mem
      have listed : client.name ∈ config.clients.map AgentClient.name := by
        rw [roster_names built]
        exact mem
      obtain ⟨localClient, found⟩ := localClient_total listed
      rw [← length, ← delay]
      exact (loadClientPlan_iff done built memClient found (by omega)).mp
        (plans client memClient localClient found)
    exact ⟨names, addresses, payload, batch, window, fun name mem => (each name mem).1,
      fun name mem => (each name mem).2⟩
  · intro loadable
    have window := loadable.window
    refine ⟨⟨loadable.names, loadable.addresses, loadable.payload, loadable.batch, window⟩, ?_⟩
    intro client memClient localClient found
    refine (loadClientPlan_iff done built memClient found (by omega)).mpr ?_
    obtain ⟨name, mem, rfl⟩ := compiled.mem_clients.mp memClient
    refine ⟨?_, loadable.startup name mem⟩
    rw [length_targets]
    exact loadable.targets name mem

end Written

/-! ## The small fabric -/

/-- The compiled plan and configuration of a manifest. -/
def compiledFiles (manifest : TopologyManifest) :
    Except String (PingmeshPlan × ClientAgentConfig) := do
  let plan ← compilePingmeshPlan manifest
  let config ← buildClientAgentConfig (fun _ => "") manifest plan
  pure (plan, config)

theorem exists_compiledFiles {manifest : TopologyManifest}
    (written : succeedsWith (compiledFiles manifest) (fun _ => true) = true) :
    ∃ plan config, compilePingmeshPlan manifest = .ok plan ∧
      buildClientAgentConfig (fun _ => "") manifest plan = .ok config := by
  obtain ⟨files, done, -⟩ := succeedsWith_eq_true.mp written
  simp only [compiledFiles, bind_eq_ok] at done
  obtain ⟨plan, compiled, config, built, -⟩ := done
  exact ⟨plan, config, compiled, built⟩

theorem startupJitter_lt {interval : Nat} (pos : 1 ≤ interval) (small : interval * 1000 < 2 ^ 64)
    (name : String) : startupJitter name interval < wrappingMul interval 1000 := by
  rw [wrappingMul, Nat.mod_eq_of_lt small]
  exact Nat.mod_lt _ (by omega)

theorem smallClos_loadable : smallClos.Loadable where
  names := by decide +kernel
  addresses := by
    intro client mem address given
    have checked : ∀ client ∈ smallClos.clients, ∀ given ∈ [client.dataIp, client.mgmtIp],
        given.all (fun address => Ipv4.parse address ≠ none) = true := by decide +kernel
    rcases given with data | management
    · have each := checked client mem _ List.mem_cons_self
      rw [data] at each
      exact of_decide_eq_true each
    · have each := checked client mem _ (List.mem_cons_of_mem _ List.mem_cons_self)
      rw [management] at each
      exact of_decide_eq_true each
  payload := by decide +kernel
  batch := by decide +kernel
  window := by decide +kernel
  targets := by decide +kernel
  startup := fun name _ => startupJitter_lt (by decide +kernel) (by decide +kernel) name

/-- The agents of the small fabric start with the files that are written for them. -/
theorem smallClos_loads :
    ∃ plan config, compilePingmeshPlan smallClos = .ok plan ∧
      buildClientAgentConfig (fun _ => "") smallClos plan = .ok config ∧ plan.Loads config := by
  obtain ⟨plan, config, compiled, built⟩ :=
    @exists_compiledFiles smallClos (by decide +kernel)
  exact ⟨plan, config, compiled, built,
    (compiledFiles_load_iff compiled built).mpr smallClos_loadable⟩

/-- The small fabric with DF probes that are shorter than a probe header. -/
def shortProbesTopology : Topology :=
  { smallClosTopology with
    pingmesh :=
      { smallClosTopology.pingmesh with dfPayloadSize := 23, dfPayloadSize_pos := by decide } }

def shortProbes : TopologyManifest := { shortProbesTopology with valid := by decide +kernel }

/-- The policy model and the compiler admit short probes, the agent does not. -/
theorem shortProbes_refused :
    ∃ plan config, compilePingmeshPlan shortProbes = .ok plan ∧
      buildClientAgentConfig (fun _ => "") shortProbes plan = .ok config ∧ ¬ plan.Loads config := by
  obtain ⟨plan, config, compiled, built⟩ :=
    @exists_compiledFiles shortProbes (by decide +kernel)
  refine ⟨plan, config, compiled, built, ?_⟩
  intro given
  rcases given with ⟨loaded, _⟩
  have payload := ((load_iff compiled built).mp loaded).2.2.1
  exact absurd payload.1 (by decide +kernel)

end NetOpsBench
