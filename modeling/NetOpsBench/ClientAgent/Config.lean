import NetOpsBench.Lib.Dict
import NetOpsBench.Models.Topology

/-!
# The configuration of the native client agent

`build_client_agent_config` of `netopsbench/platform/client_agent/config.py` and the
record that the agent reads it into (`native/client-agent/src/config.rs`).
-/

namespace NetOpsBench

open Fallible

/-- A client of the agent configuration. -/
structure AgentClient : Type where
  name : String
  dataIp : String
  managementIp : String
  rack : String
  leaf : String
  deriving DecidableEq, Repr

structure ClientAgentConfig : Type where
  schemaVersion : Nat
  topologyId : String
  pingmeshPlan : PlanSettings
  clientPlanSha256 : Dict String String
  clients : List AgentClient

/-- `CLIENT_AGENT_SCHEMA_VERSION` -/
def clientAgentSchemaVersion : Nat := 2

/-- The truth value of a metadata value. -/
def Json.truthy : Json → Bool
  | .null => false
  | .bool b => b
  | .int n => n ≠ 0
  | .float repr => repr ≠ "0.0" ∧ repr ≠ "-0.0"
  | .str s => s ≠ ""
  | .arr items => ¬ items.isEmpty
  | .obj members => ¬ members.isEmpty

/-- An optional text that is there and is not empty. -/
def nonempty (text : Option String) : Option String := text.filter (· ≠ "")

/-- `str(client.metadata.get("rack") or client.attached_switch)`, over the built-in `str`. -/
def Device.rack (str : Json → String) (client : Device) (attachedSwitch : String) : String :=
  match (client.metadata.lookup "rack").filter Json.truthy with
  | some rack => str rack
  | none => attachedSwitch

/-- The entry of one client. -/
def agentClient (str : Json → String) (client : Device) : Except String AgentClient :=
  match nonempty client.dataIp, nonempty client.mgmtIp, nonempty client.attachedSwitch with
  | some dataIp, some mgmtIp, some attachedSwitch =>
      pure
        { name := client.name
          dataIp
          managementIp := mgmtIp
          rack := client.rack str attachedSwitch
          leaf := attachedSwitch }
  | _, _, _ =>
      throw ("Client " ++ client.name ++
        " requires data_ip, mgmt_ip, and attached_switch for the native client agent")

/-- `_client_plan_bytes` -/
def clientPlanText (plan : PingmeshPlan) (client : ClientProbePlan) : String :=
  (Json.obj [("schema_version", .nat clientAgentSchemaVersion),
    ("plan_id", .str plan.settings.planId), ("name", .str client.name),
    ("targets", .arr (client.targets.map .str)), ("startup_delay_ms", .nat client.startupDelayMs),
    ("frames", .arr (client.frames.map ProbeFrame.dump))]).dumps false ++ "\n"

/-- `build_client_agent_config`, for a manifest that carries the plan. -/
def buildClientAgentConfig (str : Json → String) (manifest : TopologyManifest)
    (plan : PingmeshPlan) : Except String ClientAgentConfig := do
  let clients ← manifest.clients.mapM (agentClient str)
  pure
    { schemaVersion := clientAgentSchemaVersion
      topologyId := manifest.topologyId
      pingmeshPlan := plan.settings
      clientPlanSha256 := .ofEntries (plan.clients.map fun client =>
        (client.name, Sha256.hexdigest (Json.encode (clientPlanText plan client))))
      clients }

/-- `local_client`: the first client of the host's name. -/
def ClientAgentConfig.localClient (config : ClientAgentConfig) (hostname : String) :
    Except String AgentClient :=
  match config.clients.find? fun client => client.name = hostname with
  | some client => pure client
  | none => throw ("HOSTNAME " ++ hostname ++ " is not present in client-agent config")

/-! ## The roster -/

section Roster

variable {str : Json → String} {manifest : TopologyManifest} {plan : PingmeshPlan}

theorem nonempty_eq_some {text : Option String} {s : String} :
    nonempty text = some s ↔ text = some s ∧ s ≠ "" := by
  simp [nonempty, Option.filter_eq_some_iff]

theorem agentClient_eq_ok {client : Device} {entry : AgentClient}
    (done : agentClient str client = .ok entry) :
    entry.name = client.name ∧ client.dataIp = some entry.dataIp ∧ entry.dataIp ≠ "" := by
  unfold agentClient at done
  split at done
  · rename_i dataIp _ _ data _ _
    rw [pure_eq_ok] at done
    subst done
    exact ⟨rfl, nonempty_eq_some.mp data⟩
  · cases done

/-- The roster has the names of the manifest, in its order. -/
theorem roster_names {config : ClientAgentConfig}
    (built : buildClientAgentConfig str manifest plan = .ok config) :
    config.clients.map AgentClient.name = manifest.clients.map Device.name := by
  simp only [buildClientAgentConfig, bind_eq_ok, pure_eq_ok] at built
  obtain ⟨clients, entries, rfl⟩ := built
  exact map_of_mapM entries fun _ _ _ done => (agentClient_eq_ok done).1

/-- A client of the roster has the address of its device. -/
theorem roster_address {config : ClientAgentConfig}
    (built : buildClientAgentConfig str manifest plan = .ok config) {entry : AgentClient}
    (mem : entry ∈ config.clients) :
    ∃ client ∈ manifest.clients, client.name = entry.name ∧ client.dataIp = some entry.dataIp ∧
      entry.dataIp ≠ "" := by
  simp only [buildClientAgentConfig, bind_eq_ok, pure_eq_ok] at built
  obtain ⟨clients, entries, rfl⟩ := built
  obtain ⟨client, memClient, done⟩ := (mem_of_mapM entries).mp mem
  obtain ⟨named, address⟩ := agentClient_eq_ok done
  exact ⟨client, memClient, named.symm, address⟩

theorem pingmeshPlan_of_built {config : ClientAgentConfig}
    (built : buildClientAgentConfig str manifest plan = .ok config) :
    config.pingmeshPlan = plan.settings := by
  simp only [buildClientAgentConfig, bind_eq_ok, pure_eq_ok] at built
  obtain ⟨_, -, rfl⟩ := built
  rfl

theorem localClient_eq_ok {config : ClientAgentConfig} {hostname : String} {entry : AgentClient}
    (found : config.localClient hostname = .ok entry) :
    entry ∈ config.clients ∧ entry.name = hostname := by
  unfold ClientAgentConfig.localClient at found
  split at found
  · rename_i client eq
    rw [pure_eq_ok] at found
    subst found
    have named := List.find?_some eq
    exact ⟨List.mem_of_find?_eq_some eq, of_decide_eq_true named⟩
  · cases found

/-- Every name of the roster is found. -/
theorem localClient_total {config : ClientAgentConfig} {hostname : String}
    (mem : hostname ∈ config.clients.map AgentClient.name) :
    ∃ entry, config.localClient hostname = .ok entry := by
  obtain ⟨client, memClient, named⟩ := List.mem_map.mp mem
  rcases found : config.clients.find? fun client => client.name = hostname with _ | entry
  · have absent := List.find?_eq_none.mp found client memClient
    simp [named] at absent
  · exact ⟨entry, by rw [ClientAgentConfig.localClient, found]; rfl⟩

end Roster

end NetOpsBench
