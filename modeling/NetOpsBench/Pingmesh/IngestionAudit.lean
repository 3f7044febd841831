import NetOpsBench.Pingmesh.AgentLog

/-!
# The ingestion audit of what the agents emit

Both directions of `audit_ingestion`: a window that it calls ready is closed
(`Detector.auditIngestion_sound`), and over a log of the agents whose progress reaches
over the window and whose snapshot is exact it is ready
(`Detector.auditIngestion_complete`).
-/

namespace NetOpsBench

open Fallible

/-! ## Steady logs -/

/-- The client of the roster that has a name. -/
def rosterEntry (config : ClientAgentConfig) (name : String) : AgentClient :=
  (config.clients.find? fun client => client.name = name).getD ⟨name, "", "", "", ""⟩

/-- The frame that the plan has for a source and a cycle. -/
def plannedFrame (plan : PingmeshPlan) (source : String) (cycle : Nat) : ProbeFrame :=
  ((plan.clients.find? fun client => client.name = source).bind fun client =>
    client.frames[cycle % client.frames.length]?).getD ⟨0, 0, [], []⟩

/-- The metric of a target that has answered all of its probes. -/
def steadyMetric (plan : PingmeshPlan) (config : ClientAgentConfig) (timestamp : Nat → Nat)
    (source : String) (cycle : Nat) (destination : String) : Metric :=
  let frame := plannedFrame plan source cycle
  let sockets := (plan.settings.socketsOf frame).length
  metricLine config.topologyId config.pingmeshPlan.planId (rosterEntry config source)
    ⟨rosterEntry config destination, "cross_rack"⟩
    { rtt := ⟨.finite 0, .finite 0, .finite 0⟩
      packetsSent := sockets
      packetsLost := 0
      rttPortsActive := sockets
      rttPortsTotal := plan.settings.sourcePorts.length
      probeCycle := cycle
      destinationBatchIndex := frame.destinationBatchIndex
      portBatchIndex := frame.portBatchIndex
      dfPacketsSent := 1
      dfPacketsLost := 0
      dfMtuDrops := 0
      localProbeErrors := 0 } (timestamp cycle)

section Steady

variable {manifest : TopologyManifest} {peers : Peers} {plan : PingmeshPlan}
  {str : Json → String} {config : ClientAgentConfig}

theorem rosterEntry_spec {name : String} (mem : name ∈ config.clients.map AgentClient.name) :
    rosterEntry config name ∈ config.clients ∧ (rosterEntry config name).name = name := by
  obtain ⟨entry, done⟩ := localClient_total mem
  obtain ⟨memEntry, named⟩ := localClient_eq_ok done
  unfold ClientAgentConfig.localClient at done
  split at done
  · rename_i client found
    rw [pure_eq_ok] at done
    subst done
    rw [rosterEntry, found]
    exact ⟨memEntry, named⟩
  · cases done

theorem plannedFrame_eq (compiled : Compiled manifest peers plan) {source : String} {cycle : Nat}
    {client : ClientProbePlan} {frame : ProbeFrame}
    (frameAt : plan.FrameAt source cycle client frame) : plannedFrame plan source cycle = frame := by
  obtain ⟨mem, named, atK⟩ := frameAt
  rcases found : plan.clients.find? fun client => client.name = source with _ | client'
  · have absent := List.find?_eq_none.mp found client mem
    simp [named] at absent
  · have named' := List.find?_some found
    have same := compiled.client_unique (List.mem_of_find?_eq_some found) mem
      ((of_decide_eq_true named').trans named.symm)
    rw [plannedFrame, found, same, Option.bind_some, atK]
    rfl

/-- The agents of a compiled plan, when every probe is answered. -/
def AgentLog.steady (compiled : Compiled manifest peers plan)
    (built : buildClientAgentConfig str manifest plan = .ok config) (timestamp : Nat → Nat) :
    AgentLog plan config where
  metric := steadyMetric plan config timestamp
  owed := by
    intro source cycle client frame frameAt destination target
    have memFrame := List.mem_of_getElem? frameAt.2.2
    have rosterNames := roster_names built
    have sourceListed : source ∈ config.clients.map AgentClient.name := by
      rw [rosterNames, ← compiled.map_name, ← frameAt.2.1]
      exact List.mem_map_of_mem frameAt.1
    have targetListed : destination ∈ config.clients.map AgentClient.name := by
      rw [rosterNames]
      exact compiled.target_known frameAt.1
        (compiled.mem_targets_of_mem_frameTargets frameAt.1 memFrame target)
    obtain ⟨memSource, sourceName⟩ := rosterEntry_spec sourceListed
    obtain ⟨memTarget, targetName⟩ := rosterEntry_spec targetListed
    have frameEq := plannedFrame_eq compiled frameAt
    have settings := pingmeshPlan_of_built built
    refine ⟨targetName, ⟨frameAt.1, rfl, frameAt.2.2⟩, rosterEntry config source, memSource,
      sourceName.trans frameAt.2.1.symm, ?_⟩
    exact
      { source := ⟨rfl, rfl⟩
        target := by rw [← targetName] at target; exact target
        address := ⟨rosterEntry config destination, memTarget, rfl, rfl⟩
        planId := rfl
        cycle_eq := rfl
        destinationBatch := congrArg ProbeFrame.destinationBatchIndex frameEq
        portBatch := congrArg ProbeFrame.portBatchIndex frameEq
        portsActive := by rw [settings, ← frameEq]; rfl
        portsTotal := by rw [settings]; rfl }

/-- The metrics of all clients in so many cycles. -/
def AgentLog.cycles (log : AgentLog plan config) (first count : Nat) : List Metric :=
  plan.clients.flatMap fun client => (List.range' first count).flatMap fun cycle =>
    (client.frames[cycle % client.frames.length]?.toList.flatMap (frameTargets client)).map
      (log.metric client.name cycle)

theorem AgentLog.mem_cycles {log : AgentLog plan config} {first count : Nat} {metric : Metric} :
    metric ∈ log.cycles first count ↔ ∃ source cycle destination,
      log.Emits metric source cycle destination ∧ first ≤ cycle ∧ cycle < first + count := by
  simp only [cycles, List.mem_flatMap, List.mem_map, List.mem_range'_1, Option.mem_toList]
  constructor
  · intro ⟨client, mem, cycle, bounds, destination, ⟨frame, atK, target⟩, eq⟩
    exact ⟨client.name, cycle, destination, ⟨client, frame, ⟨mem, rfl, atK⟩, target, eq.symm⟩,
      bounds⟩
  · intro ⟨source, cycle, destination, ⟨client, frame, ⟨mem, named, atK⟩, target, eq⟩, bounds⟩
    subst named
    exact ⟨client, mem, cycle, bounds, destination, ⟨frame, atK, target⟩, eq.symm⟩

/-- The cycle and the time of a metric of a steady log. -/
theorem AgentLog.mem_steady_cycles {compiled : Compiled manifest peers plan}
    {built : buildClientAgentConfig str manifest plan = .ok config} {timestamp : Nat → Nat}
    {first count : Nat} {metric : Metric}
    (mem : metric ∈ (steady compiled built timestamp).cycles first count) :
    ∃ cycle, first ≤ cycle ∧ cycle < first + count ∧ metric.result.probeCycle = cycle ∧
      metric.timestamp = timestamp cycle := by
  obtain ⟨source, cycle, destination, ⟨-, -, -, -, eq⟩, above, below⟩ := mem_cycles.mp mem
  refine ⟨cycle, above, below, ?_, ?_⟩
  · rw [eq]; rfl
  · rw [eq]; rfl

/-- A client whose frames all have targets emits something in every cycle. -/
theorem AgentLog.exists_emits (compiled : Compiled manifest peers plan)
    (log : AgentLog plan config) {client : ClientProbePlan} (mem : client ∈ plan.clients)
    (full : ∀ frame ∈ client.frames, frame.targetIndices ≠ []) (cycle : Nat) :
    ∃ destination metric, log.Emits metric client.name cycle destination := by
  have atK := List.getElem?_eq_getElem (Nat.mod_lt cycle (compiled.epoch_pos mem))
  obtain ⟨i, memI⟩ := List.exists_mem_of_ne_nil _ (full _ (List.mem_of_getElem? atK))
  exact ⟨_, _, client, _, ⟨mem, rfl, atK⟩, List.mem_map_of_mem memI, rfl⟩

/-- A steady log over some cycles closes the window that leaves out the first and the last. -/
theorem AgentLog.steady_window (compiled : Compiled manifest peers plan)
    (built : buildClientAgentConfig str manifest plan = .ok config) {timestamp : Nat → Nat}
    {stamp : Nat → Int} {lib : PyLibrary} {render : Nat → String} {first count : Nat}
    (grows : StrictMono fun cycle => stamp (timestamp cycle))
    (timed : ∀ cycle, first ≤ cycle → cycle < first + count → render (timestamp cycle) ≠ "" ∧
      lib.time (render (timestamp cycle)) = .ok (stamp (timestamp cycle)))
    (two : 2 ≤ count) (word : first + count < 2 ^ 64)
    (full : ∀ client ∈ plan.clients, ∀ frame ∈ client.frames,
      frame.targetIndices ≠ [] ∧ frame.destinationBatchIndex < 2 ^ 53) :
    (steady compiled built timestamp).Window lib render stamp
      ((steady compiled built timestamp).cycles first count)
      ((steady compiled built timestamp).cycles (first + 1) (count - 2))
      (stamp (timestamp (first + 1))) (stamp (timestamp (first + count - 1))) := by
  have someTarget : ∀ client ∈ plan.clients, ∀ cycle, ∃ destination metric,
      (steady compiled built timestamp).Emits metric client.name cycle destination :=
    fun client mem cycle => exists_emits compiled _ mem (fun frame memFrame =>
      (full client mem frame memFrame).1) cycle
  refine
    { increasing := ?_, timed := ?_, numbers := ?_, logged := ?_, range := ?_, exactly := ?_ }
  · intro source earlier later left right a b emitsA emitsB lt
    obtain ⟨-, -, -, -, rfl⟩ := emitsA
    obtain ⟨-, -, -, -, rfl⟩ := emitsB
    exact grows lt
  · intro metric mem
    rcases mem with progress | snapshot
    · obtain ⟨source, cycle, destination, ⟨-, -, -, -, rfl⟩, above, below⟩ := mem_cycles.mp progress
      exact timed cycle above below
    · obtain ⟨source, cycle, destination, ⟨-, -, -, -, rfl⟩, above, below⟩ := mem_cycles.mp snapshot
      exact timed cycle (by omega) (by omega)
  · intro metric mem
    obtain ⟨source, cycle, destination, ⟨client, frame, frameAt, -, rfl⟩, above, below⟩ :=
      mem_cycles.mp mem
    have frameEq := plannedFrame_eq compiled frameAt
    have memFrame := List.mem_of_getElem? frameAt.2.2
    have := compiled.sourcePorts_length_le
    have := compiled.socketsOf_length_le frame
    have := compiled.portBatches_length_le
    have := (compiled.frame_sound frameAt.1 memFrame).portBatch_lt
    have := (full client frameAt.1 frame memFrame).2
    refine ⟨?_, rfl, rfl, rfl⟩
    intro field n number
    cases field with
    | rttMin | rttAvg | rttMax => cases number
    | _ =>
        have eq := Option.some.inj number
        simp only [steady, steadyMetric, metricLine, frameEq] at eq
        omega
  · intro metric mem
    obtain ⟨source, cycle, destination, emits, -⟩ := mem_cycles.mp mem
    exact ⟨source, cycle, destination, emits⟩
  · intro client mem
    refine ⟨first, first + count - 1, ?_, ⟨first, le_rfl, by omega, someTarget client mem first, ?_⟩,
      ⟨first + count - 1, by omega, le_rfl, someTarget client mem _, ?_⟩⟩
    · intro cycle above below destination metric emits
      exact mem_cycles.mpr ⟨client.name, cycle, destination, emits, above, by omega⟩
    · intro destination metric emits
      obtain ⟨-, -, -, -, rfl⟩ := emits
      exact grows (Nat.lt_succ_self first)
    · intro destination metric emits
      obtain ⟨-, -, -, -, rfl⟩ := emits
      exact le_rfl
  · intro metric
    rw [mem_cycles]
    constructor
    · intro ⟨source, cycle, destination, emits, above, below⟩
      refine ⟨⟨source, cycle, destination, emits⟩, ?_⟩
      obtain ⟨-, -, -, -, rfl⟩ := emits
      exact ⟨grows.monotone above, grows (show cycle < first + count - 1 by omega)⟩
    · intro ⟨⟨source, cycle, destination, emits⟩, after, before⟩
      refine ⟨source, cycle, destination, emits, ?_⟩
      obtain ⟨-, -, -, -, rfl⟩ := emits
      have above := grows.le_iff_le.mp after
      have below := grows.lt_iff_lt.mp before
      omega

end Steady

/-! ## Logs of the small fabric -/

/-- The agents of a fabric: its plan and its configuration. -/
def agentsOf (manifest : TopologyManifest) : Except String (PingmeshPlan × ClientAgentConfig) := do
  let plan ← compilePingmeshPlan manifest
  let config ← buildClientAgentConfig (fun _ => "") manifest plan
  pure (plan, config)

/-- Every frame of the plan has targets and a small destination batch. -/
def PingmeshPlan.full (plan : PingmeshPlan) : Bool :=
  plan.clients ≠ [] ∧ ∀ client ∈ plan.clients, ∀ frame ∈ client.frames,
    frame.targetIndices ≠ [] ∧ frame.destinationBatchIndex < 2 ^ 53

theorem PingmeshPlan.frames_of_full {plan : PingmeshPlan} (full : plan.full = true) :
    ∀ client ∈ plan.clients, ∀ frame ∈ client.frames,
      frame.targetIndices ≠ [] ∧ frame.destinationBatchIndex < 2 ^ 53 := by
  simp only [PingmeshPlan.full, decide_eq_true_eq] at full
  exact full.2

theorem agents_of_check {manifest : TopologyManifest}
    (check : succeedsWith (agentsOf manifest) (fun agents => agents.1.full) = true) :
    ∃ plan config, compilePingmeshPlan manifest = .ok plan ∧
      buildClientAgentConfig (fun _ => "") manifest plan = .ok config ∧ plan.full = true := by
  obtain ⟨⟨plan, config⟩, done, full⟩ := succeedsWith_eq_true.mp check
  simp only [agentsOf, bind_eq_ok, pure_eq_ok, Prod.mk.injEq] at done
  obtain ⟨_, compiled, _, built, rfl, rfl⟩ := done
  exact ⟨_, _, compiled, built, full⟩

/-- What a `datetime` keeps of a timestamp in nanoseconds. -/
def microseconds (timestamp : Nat) : Int := (timestamp / 1000 : Nat)

/-- A clock that writes a timestamp in nanoseconds as a fixed text with one varying digit. -/
structure DigitClock : Type where
  text : String
  /-- The time in microseconds at digit 0, and the microseconds of one digit. -/
  base : Nat
  unit : Nat

namespace DigitClock

variable (clock : DigitClock)

def digitText (digit : Nat) : String := clock.text ++ toString digit ++ "Z"

/-- The text of a timestamp. -/
def render (timestamp : Nat) : String :=
  clock.digitText ((timestamp / 1000 - clock.base) / clock.unit)

def library : PyLibrary :=
  { time := fun text =>
      match (List.range 10).find? fun digit => clock.digitText digit = text with
      | some digit => .ok ((clock.base + digit * clock.unit : Nat) : Int)
      | none => .error ("Invalid isoformat string: '" ++ text ++ "'")
    reprFloat := fun _ => "0.0" }

/-- A timestamp that shows a digit is read back. -/
theorem timed {clock : DigitClock} (unit : 0 < clock.unit)
    (reads : ∀ digit < 10, clock.digitText digit ≠ "" ∧ clock.library.time (clock.digitText digit) =
      .ok ((clock.base + digit * clock.unit : Nat) : Int)) {timestamp digit : Nat}
    (below : digit < 10) (shows : timestamp / 1000 = clock.base + digit * clock.unit) :
    clock.render timestamp ≠ "" ∧
      clock.library.time (clock.render timestamp) = .ok (microseconds timestamp) := by
  have text : clock.render timestamp = clock.digitText digit := by
    rw [render, shows, Nat.add_sub_cancel_left, Nat.mul_div_cancel _ unit]
  rw [text, microseconds, shows]
  exact reads digit below

end DigitClock

/-- The first ten seconds of the year 2024. -/
def secondClock : DigitClock := ⟨"2024-01-01T00:00:0", 1704067200000000, 1000000⟩

/-- Ten microseconds around `2 ^ 53` microseconds after the epoch. -/
def microsecondClock : DigitClock := ⟨"2255-06-05T23:47:34.74099", 9007199254740990, 1⟩

/-- The timestamp of a cycle that starts with every second of the second clock. -/
def secondOf (cycle : Nat) : Nat := (1704067200000000 + cycle * 1000000) * 1000

theorem secondOf_grows : StrictMono fun cycle => microseconds (secondOf cycle) := by
  intro a b lt
  simp only [microseconds, secondOf, Nat.mul_div_cancel _ (show 0 < 1000 by decide)]
  omega

theorem secondClock_timed (cycle : Nat) (below : cycle < 10) :
    secondClock.render (secondOf cycle) ≠ "" ∧
      secondClock.library.time (secondClock.render (secondOf cycle)) =
        .ok (microseconds (secondOf cycle)) :=
  DigitClock.timed (by decide) (by decide) below (Nat.mul_div_cancel _ (by decide))

/-- A steady log over cycles 1 to 6, of which 2 to 5 are inside the window. -/
theorem secondClock_window {manifest : TopologyManifest} {peers : Peers} {plan : PingmeshPlan}
    {str : Json → String} {config : ClientAgentConfig} (facts : Compiled manifest peers plan)
    (built : buildClientAgentConfig str manifest plan = .ok config) (full : plan.full = true) :
    (AgentLog.steady facts built secondOf).Window secondClock.library secondClock.render
      microseconds ((AgentLog.steady facts built secondOf).cycles 1 6)
      ((AgentLog.steady facts built secondOf).cycles 2 4) (microseconds (secondOf 2))
      (microseconds (secondOf 6)) :=
  AgentLog.steady_window facts built secondOf_grows
    (fun cycle _ below => secondClock_timed cycle (Nat.lt_of_lt_of_le below (by decide)))
    (by decide) (by decide) (PingmeshPlan.frames_of_full full)

/-- A quiet log of the small fabric: cycles 1 to 6, of which 2 to 5 are inside the window. -/
theorem smallClos_window :
    ∃ plan config, compilePingmeshPlan smallClos = .ok plan ∧
      buildClientAgentConfig (fun _ => "") smallClos plan = .ok config ∧
      ∃ (log : AgentLog plan config) (progress snapshot : List Metric),
        log.Window secondClock.library secondClock.render microseconds progress snapshot
          (microseconds (secondOf 2)) (microseconds (secondOf 6)) ∧
        AgentLog.Held progress snapshot ∧ snapshot ≠ [] := by
  have check : succeedsWith (agentsOf smallClos) (fun agents => agents.1.full) = true := by
    decide +kernel
  obtain ⟨plan, config, compiled, built, full⟩ := agents_of_check check
  obtain ⟨peers, facts⟩ := compiled_of_ok compiled
  have window := secondClock_window facts built full
  have frames := PingmeshPlan.frames_of_full full
  refine ⟨plan, config, compiled, built, _, _, _, window, ?_, ?_⟩
  · intro metric mem
    have coordinates : ∃ source cycle destination,
        (AgentLog.steady facts built secondOf).Emits metric source cycle destination ∧ cycle < 7 := by
      rcases mem with progress | snapshot
      · obtain ⟨source, cycle, destination, emits, -, below⟩ := AgentLog.mem_cycles.mp progress
        exact ⟨source, cycle, destination, emits, below⟩
      · obtain ⟨source, cycle, destination, emits, -, below⟩ := AgentLog.mem_cycles.mp snapshot
        exact ⟨source, cycle, destination, emits, by omega⟩
    obtain ⟨source, cycle, destination, ⟨client, frame, frameAt, -, rfl⟩, below⟩ := coordinates
    have frameEq := plannedFrame_eq facts frameAt
    have small := (frames client frameAt.1 frame (List.mem_of_getElem? frameAt.2.2)).2
    rw [← frameEq] at small
    exact ⟨Binary64.exact_of_le (Nat.le_trans (Nat.le_of_lt below) (by decide)),
      Binary64.exact_of_le (Nat.le_of_lt small)⟩
  · simp only [PingmeshPlan.full, decide_eq_true_eq] at full
    obtain ⟨client, mem⟩ := List.exists_mem_of_ne_nil _ full.1
    obtain ⟨destination, metric, emits⟩ := AgentLog.exists_emits facts
      (AgentLog.steady facts built secondOf) mem
      (fun frame memFrame => (frames client mem frame memFrame).1) 2
    exact List.ne_nil_of_mem
      (AgentLog.mem_cycles.mpr ⟨client.name, 2, destination, emits, by decide, by decide⟩)

/-! ## The two directions -/

namespace Detector

/-- A window that the audit calls ready is closed. -/
theorem auditIngestion_sound (lib : PyLibrary) (manifest : TopologyManifest) (plan : PingmeshPlan)
    (compiled : compilePingmeshPlan manifest = .ok plan) (progress snapshot : List Row)
    (startTime endTime : String) (start stop : Int) (startEq : lib.time startTime = .ok start)
    (stopEq : lib.time endTime = .ok stop) (audit : Audit)
    (done : auditIngestion (ofPlan manifest plan) lib progress snapshot startTime endTime =
      .ok audit) (ready : audit.isReady = true) :
    WindowClosed (ofPlan manifest plan) lib progress snapshot start stop := by
  obtain ⟨peers, facts⟩ := compiled_of_ok compiled
  obtain ⟨expectedRows, actual, body⟩ := auditBody_of_ready startEq stopEq done ready
  exact auditBody_closed facts body

/-- The window of the small fabric is ready, and so it is closed. -/
theorem smallClos_window_closed :
    ∃ plan config progress snapshot audit, compilePingmeshPlan smallClos = .ok plan ∧
      buildClientAgentConfig (fun _ => "") smallClos plan = .ok config ∧ snapshot ≠ [] ∧
      auditIngestion (ofPlan smallClos plan) secondClock.library progress snapshot
        "2024-01-01T00:00:02Z" "2024-01-01T00:00:06Z" = .ok audit ∧ audit.isReady = true ∧
      WindowClosed (ofPlan smallClos plan) secondClock.library progress snapshot
        1704067202000000 1704067206000000 := by
  obtain ⟨plan, config, compiled, built, log, progress, snapshot, window, held, some⟩ :=
    smallClos_window
  obtain ⟨peers, facts⟩ := compiled_of_ok compiled
  have startEq := (secondClock_timed 2 (by decide)).2
  have stopEq := (secondClock_timed 6 (by decide)).2
  obtain ⟨audit, done, ready⟩ := auditIngestion_ready (expectsPlan_ofPlan facts) startEq stopEq
    (window.logs facts built (by decide) held) (window.snapshots facts built (by decide) held)
  refine ⟨plan, config, _, _, audit, compiled, built, ?_, done, ready, ?_⟩
  · simpa using some
  · exact auditIngestion_sound secondClock.library smallClos plan compiled _ _ _ _ _ _ startEq stopEq
      audit done ready

/-- Over a log of the agents whose progress reaches over the window, and a snapshot of exactly
the metrics inside, the audit is ready. The clients need names, and the floats must hold the
cycle numbers and the destination batches. -/
theorem auditIngestion_complete (str : Json → String) (lib : PyLibrary)
    (render : Nat → String) (stamp : Nat → Int) (manifest : TopologyManifest) (plan : PingmeshPlan)
    (compiled : compilePingmeshPlan manifest = .ok plan) (config : ClientAgentConfig)
    (built : buildClientAgentConfig str manifest plan = .ok config)
    (named : ∀ device ∈ manifest.clients, device.name ≠ "") (log : AgentLog plan config)
    (progress snapshot : List Metric) (startTime endTime : String) (start stop : Int)
    (startEq : lib.time startTime = .ok start) (stopEq : lib.time endTime = .ok stop)
    (window : log.Window lib render stamp progress snapshot start stop)
    (held : AgentLog.Held progress snapshot) :
    ∃ audit, auditIngestion (ofPlan manifest plan) lib (progress.map (Metric.progressRow render))
      (snapshot.map (Metric.row render)) startTime endTime = .ok audit ∧ audit.isReady = true := by
  obtain ⟨peers, facts⟩ := compiled_of_ok compiled
  exact auditIngestion_ready (expectsPlan_ofPlan facts) startEq stopEq
    (window.logs facts built named held) (window.snapshots facts built named held)

/-- The audit of the small fabric's log is ready. -/
theorem smallClos_window_ready :
    ∃ (plan : PingmeshPlan) (config : ClientAgentConfig) (progress snapshot : List Metric)
      (audit : Audit), compilePingmeshPlan smallClos = .ok plan ∧
      buildClientAgentConfig (fun _ => "") smallClos plan = .ok config ∧ snapshot ≠ [] ∧
      auditIngestion (ofPlan smallClos plan) secondClock.library
        (progress.map (Metric.progressRow secondClock.render))
        (snapshot.map (Metric.row secondClock.render))
        "2024-01-01T00:00:02Z" "2024-01-01T00:00:06Z" = .ok audit ∧ audit.isReady = true := by
  obtain ⟨plan, config, compiled, built, log, progress, snapshot, window, held, some⟩ :=
    smallClos_window
  have startEq := (secondClock_timed 2 (by decide)).2
  have stopEq := (secondClock_timed 6 (by decide)).2
  obtain ⟨audit, done, ready⟩ := auditIngestion_complete (fun _ => "") secondClock.library
    secondClock.render microseconds smallClos plan compiled config built (by decide) log
    progress snapshot _ _ _ _ startEq stopEq window held
  exact ⟨plan, config, progress, snapshot, audit, compiled, built, some, done, ready⟩

/-- The log of some fabric meets the conditions of a window, and its audit is not ready. -/
def AuditMisreads (manifest : TopologyManifest) : Prop :=
  ∃ (plan : PingmeshPlan) (config : ClientAgentConfig) (log : AgentLog plan config)
    (lib : PyLibrary) (render : Nat → String) (progress snapshot : List Metric)
    (startTime endTime : String) (start stop : Int) (audit : Audit),
    compilePingmeshPlan manifest = .ok plan ∧
    buildClientAgentConfig (fun _ => "") manifest plan = .ok config ∧ start < stop ∧
    lib.time startTime = .ok start ∧ lib.time endTime = .ok stop ∧
    log.Window lib render microseconds progress snapshot start stop ∧
    auditIngestion (ofPlan manifest plan) lib (progress.map (Metric.progressRow render))
      (snapshot.map (Metric.row render)) startTime endTime = .ok audit ∧ audit.isReady = false

/-- A window that the rows do not close is not ready. -/
theorem not_ready {manifest : TopologyManifest} {peers : Peers} {plan : PingmeshPlan}
    (facts : Compiled manifest peers plan) {lib : PyLibrary} {progress snapshot : List Row}
    {startTime endTime : String} {start stop : Int} (startEq : lib.time startTime = .ok start)
    (stopEq : lib.time endTime = .ok stop)
    (still : ¬ WindowClosed (ofPlan manifest plan) lib progress snapshot start stop) :
    ∃ audit, auditIngestion (ofPlan manifest plan) lib progress snapshot startTime endTime =
      .ok audit ∧ audit.isReady = false := by
  obtain ⟨audit, done⟩ := auditIngestion_total (d := ofPlan manifest plan) startEq stopEq progress
    snapshot
  refine ⟨audit, done, ?_⟩
  by_contra ready
  obtain ⟨expectedRows, actual, body⟩ :=
    auditBody_of_ready startEq stopEq done (by simpa using ready)
  exact still (auditBody_closed facts body)

/-- The timestamp of a cycle that starts with every microsecond after the epoch. -/
def microsecondOf (cycle : Nat) : Nat := cycle * 1000

theorem microseconds_microsecondOf (cycle : Nat) :
    microseconds (microsecondOf cycle) = (cycle : Int) := by
  rw [microseconds, microsecondOf, Nat.mul_div_cancel _ (by decide)]

theorem microsecondClock_timed (cycle : Nat) (above : 9007199254740990 ≤ cycle)
    (below : cycle < 9007199254741000) :
    microsecondClock.render (microsecondOf cycle) ≠ "" ∧
      microsecondClock.library.time (microsecondClock.render (microsecondOf cycle)) =
        .ok (microseconds (microsecondOf cycle)) := by
  refine DigitClock.timed (by decide) (by decide)
    (show cycle - 9007199254740990 < 10 by omega) ?_
  rw [microsecondOf, Nat.mul_div_cancel _ (by decide)]
  simp only [microsecondClock]
  omega

theorem time_progressRow {render : Nat → String} {metric : Metric} {text : String}
    (shown : (metric.progressRow render).time = some text) :
    render metric.timestamp = text ∧ text ≠ "" := by
  simpa [Metric.progressRow, Metric.row, nonempty_eq_some] using shown

/-- The cycle that a progress row is read under. -/
theorem toNat?_of_integer {render : Nat → String} {metric : Metric} {k : Nat}
    (read : (metric.progressRow render).integer .probeCycle = .ok k) :
    (Binary64.ofNat metric.result.probeCycle).toNat? = some k := by
  have shown : (metric.progressRow render).field .probeCycle =
      some (Binary64.ofNat metric.result.probeCycle) := rfl
  simp only [Row.integer, shown, bind_eq_ok, require_eq_ok, Option.some.injEq] at read
  obtain ⟨value, rfl, rest⟩ := read
  split at rest
  · rename_i n eq
    rw [pure_eq_ok] at rest
    exact rest ▸ eq
  · cases rest

/-- What a progress log of a steady log shows: the cycles as they are read, and their times. -/
theorem observed_steady {manifest : TopologyManifest} {peers : Peers} {plan : PingmeshPlan}
    {str : Json → String} {config : ClientAgentConfig} {facts : Compiled manifest peers plan}
    {built : buildClientAgentConfig str manifest plan = .ok config} {timestamp : Nat → Nat}
    {lib : PyLibrary} {render : Nat → String} {first count k : Nat} {source destination : String}
    {time : Int}
    (observed : Observed lib (((AgentLog.steady facts built timestamp).cycles first count).map
      (Metric.progressRow render)) source k destination time) :
    ∃ cycle, first ≤ cycle ∧ cycle < first + count ∧ (Binary64.ofNat cycle).toNat? = some k ∧
      lib.time (render (timestamp cycle)) = .ok time := by
  obtain ⟨row, mem, -, text, key, timed⟩ := observed
  obtain ⟨metric, memMetric, rfl⟩ := List.mem_map.mp mem
  obtain ⟨cycle, above, below, cycleEq, timestampEq⟩ := AgentLog.mem_steady_cycles memMetric
  obtain ⟨-, read, -, stamped⟩ := Row.key_eq_ok.mp key
  have shown := (time_progressRow stamped).1
  have asRead := toNat?_of_integer read
  rw [cycleEq] at asRead
  rw [← shown, timestampEq] at timed
  exact ⟨cycle, above, below, asRead, timed⟩

/-- The floats that stand for three cycles from `2 ^ 53 + 1` on. -/
theorem read_of_cycle {first cycle k : Nat} (firstEq : first = 9007199254740993)
    (above : first ≤ cycle) (below : cycle < first + 3)
    (read : (Binary64.ofNat cycle).toNat? = some k) :
    cycle = first ∧ k + 1 = first ∨ cycle = first + 1 ∧ k = first + 1 ∨
      cycle = first + 2 ∧ k = first + 3 := by
  have firstRead : (Binary64.ofNat first).toNat? = some (first - 1) := by
    rw [firstEq]; decide +kernel
  have secondRead : (Binary64.ofNat (first + 1)).toNat? = some (first + 1) := by
    rw [firstEq]; decide +kernel
  have thirdRead : (Binary64.ofNat (first + 2)).toNat? = some (first + 3) := by
    rw [firstEq]; decide +kernel
  have which : cycle = first ∨ cycle = first + 1 ∨ cycle = first + 2 := by omega
  have positive : 0 < first := by rw [firstEq]; decide
  rcases which with same | next | last
  · rw [same, firstRead, Option.some.injEq] at read
    omega
  · rw [next, secondRead, Option.some.injEq] at read
    omega
  · rw [last, thirdRead, Option.some.injEq] at read
    omega

/-- The rows of cycles `2 ^ 53 + 1` to `2 ^ 53 + 3` are read as those of cycles `2 ^ 53`,
`2 ^ 53 + 2` and `2 ^ 53 + 4`, so a cycle between the boundaries is missing. -/
theorem not_closed_of_rounding {manifest : TopologyManifest} {peers : Peers} {plan : PingmeshPlan}
    {str : Json → String} {config : ClientAgentConfig} (facts : Compiled manifest peers plan)
    (built : buildClientAgentConfig str manifest plan = .ok config) (full : plan.full = true)
    {first : Nat} (firstEq : first = 9007199254740993) (snapshot : List Row) :
    ¬ WindowClosed (ofPlan manifest plan) microsecondClock.library
      (((AgentLog.steady facts built microsecondOf).cycles first 3).map
        (Metric.progressRow microsecondClock.render)) snapshot ((first + 1 : Nat) : Int)
      ((first + 3 - 1 : Nat) : Int) := by
  intro closed
  simp only [PingmeshPlan.full, decide_eq_true_eq] at full
  obtain ⟨someClient, frames⟩ := full
  obtain ⟨client, mem⟩ := List.exists_mem_of_ne_nil _ someClient
  have listed := List.mem_map_of_mem (f := ClientProbePlan.name) mem
  rw [facts.map_name] at listed
  obtain ⟨left, right, source⟩ := closed.sources client.name listed
  have timeOf : ∀ {cycle : Nat} {time : Int}, first ≤ cycle → cycle < first + 3 →
      microsecondClock.library.time (microsecondClock.render (microsecondOf cycle)) = .ok time →
        time = cycle := by
    intro cycle time above below timed
    have known := (microsecondClock_timed cycle (by omega) (by omega)).2
    rw [microseconds_microsecondOf] at known
    exact Except.ok.inj (timed.symm.trans known)
  obtain ⟨_, before, early, observedLeft⟩ := source.preceding
  obtain ⟨_, after, late, observedRight⟩ := source.following
  obtain ⟨a, aAbove, aBelow, aRead, aTime⟩ := observed_steady observedLeft
  obtain ⟨b, bAbove, bBelow, bRead, bTime⟩ := observed_steady observedRight
  have leftTime := timeOf aAbove aBelow aTime
  have rightTime := timeOf bAbove bBelow bTime
  have leftCycle := read_of_cycle firstEq aAbove aBelow aRead
  have rightCycle := read_of_cycle firstEq bAbove bBelow bRead
  obtain ⟨client', frame, frameAt, targets⟩ := source.complete first (by omega) (by omega)
  obtain ⟨i, memI⟩ := List.exists_mem_of_ne_nil _
    (frames client' frameAt.1 frame (List.mem_of_getElem? frameAt.2.2)).1
  obtain ⟨time, observed⟩ := (targets _).mpr (List.mem_map_of_mem memI)
  obtain ⟨c, cAbove, cBelow, cRead, -⟩ := observed_steady observed
  have missing := read_of_cycle firstEq cAbove cBelow cRead
  clear firstEq
  omega

/-- A client without a name has no rows in the answer of a query. -/
theorem not_closed_of_nameless {manifest : TopologyManifest} {plan : PingmeshPlan}
    (nameless : "" ∈ manifest.clients.map Device.name) {lib : PyLibrary} {render : Nat → String}
    (progress : List Metric) (snapshot : List Row) {start stop : Int} :
    ¬ WindowClosed (ofPlan manifest plan) lib (progress.map (Metric.progressRow render)) snapshot
      start stop := by
  intro closed
  obtain ⟨left, right, source⟩ := closed.sources "" nameless
  obtain ⟨_, time, -, row, mem, -, timestamp, key, -⟩ := source.preceding
  obtain ⟨metric, -, rfl⟩ := List.mem_map.mp mem
  have shown : (metric.row render).srcName = some "" := (Row.key_eq_ok.mp key).1
  exact (srcName_row.mp shown).2 rfl

theorem smallClos_misread : AuditMisreads smallClos := by
  have check : succeedsWith (agentsOf smallClos) (fun agents => agents.1.full) = true := by
    decide +kernel
  obtain ⟨plan, config, compiled, built, full⟩ := agents_of_check check
  obtain ⟨peers, facts⟩ := compiled_of_ok compiled
  obtain ⟨first, firstEq⟩ : ∃ first : Nat, first = 9007199254740993 := ⟨_, rfl⟩
  have grows : StrictMono fun cycle : Nat => microseconds (microsecondOf cycle) := by
    intro a b lt
    simp only [microseconds_microsecondOf]
    omega
  have timed : ∀ cycle, first ≤ cycle → cycle < first + 3 →
      microsecondClock.render (microsecondOf cycle) ≠ "" ∧
        microsecondClock.library.time (microsecondClock.render (microsecondOf cycle)) =
          .ok (microseconds (microsecondOf cycle)) := by
    intro cycle above below
    exact microsecondClock_timed cycle (by omega) (by omega)
  have window := AgentLog.steady_window facts built grows timed (by decide)
    (show first + 3 < 2 ^ 64 by omega) (PingmeshPlan.frames_of_full full)
  have startEq := (microsecondClock_timed (first + 1) (by omega) (by omega)).2
  have stopEq := (microsecondClock_timed (first + 3 - 1) (by omega) (by omega)).2
  simp only [microseconds_microsecondOf] at window startEq stopEq
  obtain ⟨audit, done, notReady⟩ := not_ready facts startEq stopEq
    (not_closed_of_rounding facts built full firstEq _)
  refine ⟨plan, config, _, _, _, _, _, _, _, _, _, audit, compiled, built, ?_, startEq,
    stopEq, window, done, notReady⟩
  omega

theorem namelessClos_misread : AuditMisreads namelessClos := by
  have check : succeedsWith (agentsOf namelessClos) (fun agents => agents.1.full) = true := by
    decide +kernel
  obtain ⟨plan, config, compiled, built, full⟩ := agents_of_check check
  obtain ⟨peers, facts⟩ := compiled_of_ok compiled
  have window := secondClock_window facts built full
  have startEq := (secondClock_timed 2 (by decide)).2
  have stopEq := (secondClock_timed 6 (by decide)).2
  obtain ⟨audit, done, notReady⟩ := not_ready facts startEq stopEq
    (not_closed_of_nameless (by decide) _ _)
  exact ⟨plan, config, _, _, _, _, _, _, _, _, _, audit, compiled, built, secondOf_grows (by decide),
    startEq, stopEq, window, done, notReady⟩

/-- Both conditions of `auditIngestion_complete` are needed. -/
theorem auditIngestion_misread : AuditMisreads smallClos ∧ AuditMisreads namelessClos :=
  ⟨smallClos_misread, namelessClos_misread⟩

end Detector

end NetOpsBench
