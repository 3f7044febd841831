import NetOpsBench.Pingmesh.CoverageEpoch
import NetOpsBench.Pingmesh.IngestionComplete

/-!
# The log of the agents

What the probe loops of all clients emit over time (`AgentLog`), and what a query for a
window returns of it (`AgentLog.Window`): the progress rows reach over the window, and the
snapshot rows are the ones inside (`AgentLog.Window.logs`, `AgentLog.Window.snapshots`).
-/

namespace NetOpsBench

open Fallible

/-- The row of a metric in the answer to a query for the progress fields alone. -/
def Metric.progressRow (render : Nat → String) (metric : Metric) : Row :=
  { metric.row render with
    field := fun field => if field ∈ progressFields then some (metric.result.value field) else none }

/-- What the agents emit over time: one metric for every active target of every cycle of a
client. -/
structure AgentLog (plan : PingmeshPlan) (config : ClientAgentConfig) : Type where
  metric : String → Nat → String → Metric
  owed : ∀ {source cycle client frame}, plan.FrameAt source cycle client frame →
    ∀ destination ∈ frameTargets client frame,
      (metric source cycle destination).dstName = destination ∧
        Owed plan config client cycle frame (metric source cycle destination)

/-- The numbers of a result are machine words and finite floats. -/
structure ProbeResult.MachineNumbers (result : ProbeResult) : Prop where
  counts : ∀ field n, result.number field = some n → n < 2 ^ 64
  rtt : Detector.isFinite result.rtt.min = true ∧ Detector.isFinite result.rtt.avg = true ∧
    Detector.isFinite result.rtt.max = true

theorem ProbeResult.MachineNumbers.isFinite_value {result : ProbeResult}
    (numbers : result.MachineNumbers) (field : SnapshotField) :
    Detector.isFinite (result.value field) = true := by
  rcases number : result.number field with _ | n
  · cases field with
    | rttMin => exact numbers.rtt.1
    | rttAvg => exact numbers.rtt.2.1
    | rttMax => exact numbers.rtt.2.2
    | _ => cases number
  · rw [value_of_number number, Binary64.ofNat_finite (numbers.counts field n number)]
    rfl

namespace AgentLog

variable {plan : PingmeshPlan} {config : ClientAgentConfig} (log : AgentLog plan config)

/-- A metric of the log with its coordinates. -/
def Emits (metric : Metric) (source : String) (cycle : Nat) (destination : String) : Prop :=
  ∃ client frame, plan.FrameAt source cycle client frame ∧ destination ∈ frameTargets client frame ∧
    metric = log.metric source cycle destination

/-- The conditions of a window: the times of a client grow from cycle to cycle, the progress
log has all metrics of a range of cycles with a nonempty frame on either side, and the
snapshot has exactly the metrics inside. `stamp` is the time that the text of a timestamp
is read back as. -/
structure Window (lib : PyLibrary) (render : Nat → String) (stamp : Nat → Int)
    (progress snapshot : List Metric) (start stop : Int) : Prop where
  increasing : ∀ source earlier later left right a b, log.Emits a source earlier left →
    log.Emits b source later right → earlier < later → stamp a.timestamp < stamp b.timestamp
  timed : ∀ metric, metric ∈ progress ∨ metric ∈ snapshot → render metric.timestamp ≠ "" ∧
    lib.time (render metric.timestamp) = .ok (stamp metric.timestamp)
  numbers : ∀ metric ∈ snapshot, metric.result.MachineNumbers
  logged : ∀ metric ∈ progress, ∃ source cycle destination,
    log.Emits metric source cycle destination
  range : ∀ client ∈ plan.clients, ∃ first last,
    (∀ cycle, first ≤ cycle → cycle ≤ last → ∀ destination metric,
      log.Emits metric client.name cycle destination → metric ∈ progress) ∧
    (∃ cycle, first ≤ cycle ∧ cycle ≤ last ∧
      (∃ destination metric, log.Emits metric client.name cycle destination) ∧
      ∀ destination metric, log.Emits metric client.name cycle destination →
        stamp metric.timestamp < start) ∧
    ∃ cycle, first ≤ cycle ∧ cycle ≤ last ∧
      (∃ destination metric, log.Emits metric client.name cycle destination) ∧
      ∀ destination metric, log.Emits metric client.name cycle destination →
        stop ≤ stamp metric.timestamp
  exactly : ∀ metric, metric ∈ snapshot ↔
    (∃ source cycle destination, log.Emits metric source cycle destination) ∧
      start ≤ stamp metric.timestamp ∧ stamp metric.timestamp < stop

/-! ## The rows of the log -/

section Rows

variable {manifest : TopologyManifest} {peers : Peers} {str : Json → String} {lib : PyLibrary}
  {render : Nat → String} {stamp : Nat → Int} {progress snapshot : List Metric} {start stop : Int}
  {log : AgentLog plan config} {metric : Metric} {source destination : String} {cycle : Nat}

theorem active_iff (log : AgentLog plan config) (compiled : Compiled manifest peers plan) :
    (Detector.ofPlan manifest plan).Active source cycle destination ↔
      ∃ metric, log.Emits metric source cycle destination := by
  constructor
  · intro ⟨expected, found, target⟩
    obtain ⟨client, frame, frameAt, rfl⟩ := compiled.frameOf_eq_some.mp found
    exact ⟨_, client, frame, frameAt, target, rfl⟩
  · intro ⟨metric, client, frame, frameAt, target, _⟩
    exact ⟨_, compiled.frameOf_eq_some.mpr ⟨client, frame, frameAt, rfl⟩, target⟩

/-- The audit accepts the row of an emitted metric, under its coordinates. -/
theorem Emits.accepts (emits : log.Emits metric source cycle destination)
    (compiled : Compiled manifest peers plan)
    (built : buildClientAgentConfig str manifest plan = .ok config)
    (named : ∀ device ∈ manifest.clients, device.name ≠ "")
    (held : Binary64.Exact metric.result.probeCycle ∧
      Binary64.Exact metric.result.destinationBatchIndex)
    (shown : render metric.timestamp ≠ "") {time : Int}
    (timed : lib.time (render metric.timestamp) = .ok time) :
    (Detector.ofPlan manifest plan).Accepts lib (metric.row render) source cycle destination
      (render metric.timestamp) ∧
      (metric.row render).complete snapshotFields = true := by
  obtain ⟨client, frame, frameAt, target, rfl⟩ := emits
  obtain ⟨dstName, owed⟩ := log.owed frameAt destination target
  obtain ⟨localClient, -, sameName, reports⟩ := owed.reports
  have agrees : (Detector.ofPlan manifest plan).Agrees
      ((log.metric source cycle destination).row render) cycle (expectedFrame client frame) :=
    owed.agrees compiled built named (reports.cycle_eq ▸ held.1)
      (reports.destinationBatch ▸ held.2)
  obtain ⟨source', destination', srcRead, dstRead, cycleRead, identity⟩ := agrees.progress
  have sourceEq : source' = source := by
    rw [← (srcName_row.mp srcRead).1, reports.source.1, sameName, frameAt.2.1]
  have destinationEq : destination' = destination := by
    rw [← (dstName_row.mp dstRead).1, dstName]
  subst sourceEq destinationEq
  have timeRead : ((log.metric source' cycle destination').row render).time =
      some (render (log.metric source' cycle destination').timestamp) :=
    nonempty_eq_some.mpr ⟨rfl, shown⟩
  refine ⟨⟨Row.key_eq_ok.mpr ⟨srcRead, cycleRead, dstRead, timeRead⟩, ⟨time, timed⟩, identity,
    agrees.addresses⟩, ?_⟩
  have planRead := (Detector.checkIdentity_eq_ok.mp identity).1
  simp only [Row.complete, decide_eq_true_eq, planRead, timeRead, srcRead, dstRead,
    tagPresent_some]
  exact ⟨(planId_row.mp planRead).2, shown, (srcName_row.mp srcRead).2, (dstName_row.mp dstRead).2,
    fun _ _ => rfl⟩

/-- A row with the progress fields alone is accepted like the whole row. -/
theorem accepts_progressRow {timestamp : String}
    (accepts : (Detector.ofPlan manifest plan).Accepts lib (metric.row render) source cycle
      destination timestamp) :
    (Detector.ofPlan manifest plan).Accepts lib (metric.progressRow render) source cycle
      destination timestamp :=
  ⟨accepts.key, accepts.time, accepts.identity, accepts.addresses⟩

theorem complete_progressRow (complete : (metric.row render).complete snapshotFields = true) :
    (metric.progressRow render).complete progressFields = true := by
  simp only [Row.complete, decide_eq_true_eq] at complete ⊢
  exact ⟨complete.1, complete.2.1, complete.2.2.1, complete.2.2.2.1, fun field mem => by
    simp [Metric.progressRow, mem]⟩

/-- The emission behind a log whose times grow. -/
def emission (compiled : Compiled manifest peers plan)
    (window : log.Window lib render stamp progress snapshot start stop) :
    (Detector.ofPlan manifest plan).Emission where
  stamp source cycle destination := render (log.metric source cycle destination).timestamp
  time source cycle destination := stamp (log.metric source cycle destination).timestamp
  increasing source earlier later left right activeLeft activeRight lt := by
    obtain ⟨a, emitsA⟩ := (active_iff log compiled).mp activeLeft
    obtain ⟨b, emitsB⟩ := (active_iff log compiled).mp activeRight
    have grows := window.increasing source earlier later left right a b emitsA emitsB lt
    obtain ⟨-, -, -, -, rfl⟩ := emitsA
    obtain ⟨-, -, -, -, rfl⟩ := emitsB
    exact grows

/-- The numbers that the floats of a window hold. -/
def Held (progress snapshot : List Metric) : Prop :=
  ∀ metric, metric ∈ progress ∨ metric ∈ snapshot → Binary64.Exact metric.result.probeCycle ∧
    Binary64.Exact metric.result.destinationBatchIndex

/-- The progress rows reach over the window. -/
theorem Window.logs (window : log.Window lib render stamp progress snapshot start stop)
    (compiled : Compiled manifest peers plan)
    (built : buildClientAgentConfig str manifest plan = .ok config)
    (named : ∀ device ∈ manifest.clients, device.name ≠ "") (held : Held progress snapshot) :
    (emission compiled window).Logs lib (progress.map (Metric.progressRow render)) start stop where
  emitted := by
    intro row mem
    obtain ⟨metric, memMetric, rfl⟩ := List.mem_map.mp mem
    obtain ⟨source, cycle, destination, emits⟩ := window.logged metric memMetric
    obtain ⟨shown, timed⟩ := window.timed metric (.inl memMetric)
    obtain ⟨accepts, complete⟩ :=
      emits.accepts compiled built named (held metric (.inl memMetric)) shown timed
    refine ⟨complete_progressRow complete, source, cycle, destination, ?_⟩
    obtain ⟨-, -, -, -, rfl⟩ := emits
    exact ⟨accepts_progressRow accepts, timed⟩
  planned := by
    intro source mem cycle
    obtain ⟨client, frame, frameAt⟩ := compiled.exists_frameAt mem cycle
    exact ⟨_, compiled.frameOf_eq_some.mpr ⟨client, frame, frameAt, rfl⟩⟩
  range := by
    intro source mem
    have listed : source ∈ plan.clients.map ClientProbePlan.name := by
      rw [compiled.map_name]
      exact mem
    obtain ⟨client, memClient, rfl⟩ := List.mem_map.mp listed
    obtain ⟨first, last, all, ⟨b, bAbove, bBelow, bSome, bBefore⟩,
      ⟨a, aAbove, aBelow, aSome, aAfter⟩⟩ := window.range client memClient
    refine ⟨first, last, ?_, ⟨b, bAbove, bBelow, ?_, ?_⟩, ⟨a, aAbove, aBelow, ?_, ?_⟩⟩
    · intro cycle above below destination active
      obtain ⟨metric, emits⟩ := (active_iff log compiled).mp active
      have listed := all cycle above below destination metric emits
      obtain ⟨shown, timed⟩ := window.timed metric (.inl listed)
      have accepts := (emits.accepts compiled built named (held metric (.inl listed)) shown timed).1
      refine ⟨metric.progressRow render, List.mem_map_of_mem listed, ?_⟩
      obtain ⟨-, -, -, -, rfl⟩ := emits
      exact (accepts_progressRow accepts).key
    · obtain ⟨destination, emits⟩ := bSome
      exact ⟨destination, (active_iff log compiled).mpr emits⟩
    · intro destination active
      obtain ⟨metric, emits⟩ := (active_iff log compiled).mp active
      have before := bBefore destination metric emits
      obtain ⟨-, -, -, -, rfl⟩ := emits
      exact before
    · obtain ⟨destination, emits⟩ := aSome
      exact ⟨destination, (active_iff log compiled).mpr emits⟩
    · intro destination active
      obtain ⟨metric, emits⟩ := (active_iff log compiled).mp active
      have after := aAfter destination metric emits
      obtain ⟨-, -, -, -, rfl⟩ := emits
      exact after

/-- The snapshot rows are the emitted ones inside the window. -/
theorem Window.snapshots (window : log.Window lib render stamp progress snapshot start stop)
    (compiled : Compiled manifest peers plan)
    (built : buildClientAgentConfig str manifest plan = .ok config)
    (named : ∀ device ∈ manifest.clients, device.name ≠ "") (held : Held progress snapshot) :
    (emission compiled window).Snapshots lib (snapshot.map (Metric.row render)) start stop where
  emitted := by
    intro row mem
    obtain ⟨metric, memMetric, rfl⟩ := List.mem_map.mp mem
    obtain ⟨⟨source, cycle, destination, emits⟩, within⟩ := (window.exactly metric).mp memMetric
    obtain ⟨shown, timed⟩ := window.timed metric (.inr memMetric)
    obtain ⟨accepts, complete⟩ :=
      emits.accepts compiled built named (held metric (.inr memMetric)) shown timed
    refine ⟨complete, ?_, source, ?_, cycle, destination, ?_⟩
    · intro field value found
      obtain rfl := Option.some.inj found
      exact (window.numbers metric memMetric).isFinite_value field
    · obtain ⟨client, frame, frameAt, -, -⟩ := emits
      exact Detector.mem_clients_of_frameOf compiled
        (compiled.frameOf_eq_some.mpr ⟨client, frame, frameAt, rfl⟩)
    · obtain ⟨-, -, -, -, rfl⟩ := emits
      exact ⟨⟨accepts, timed⟩, within⟩
  all := by
    intro source _ cycle destination active after before
    obtain ⟨metric, emits⟩ := (active_iff log compiled).mp active
    have emits' := emits
    obtain ⟨-, -, -, -, rfl⟩ := emits'
    have listed := (window.exactly _).mpr ⟨⟨source, cycle, destination, emits⟩, after, before⟩
    obtain ⟨shown, timed⟩ := window.timed _ (.inr listed)
    exact ⟨_, List.mem_map_of_mem listed,
      (emits.accepts compiled built named (held _ (.inr listed)) shown timed).1.key⟩
  single := by
    intro a memA b memB same
    obtain ⟨left, memLeft, rfl⟩ := List.mem_map.mp memA
    obtain ⟨right, memRight, rfl⟩ := List.mem_map.mp memB
    have keyOf : ∀ metric ∈ snapshot, ∃ source cycle destination timestamp,
        metric = log.metric source cycle destination ∧
          (metric.row render).key = .ok (source, cycle, destination, timestamp) := by
      intro metric mem
      obtain ⟨⟨source, cycle, destination, emits⟩, -⟩ := (window.exactly metric).mp mem
      obtain ⟨shown, timed⟩ := window.timed metric (.inr mem)
      have accepts := (emits.accepts compiled built named (held metric (.inr mem)) shown timed).1
      obtain ⟨-, -, -, -, eq⟩ := emits
      exact ⟨source, cycle, destination, _, eq, accepts.key⟩
    obtain ⟨s, c, n, t, leftEq, leftKey⟩ := keyOf left memLeft
    obtain ⟨s', c', n', t', rightEq, rightKey⟩ := keyOf right memRight
    have keys := Except.ok.inj (leftKey.symm.trans (same.trans rightKey))
    simp only [Prod.mk.injEq] at keys
    obtain ⟨rfl, rfl, rfl, -⟩ := keys
    rw [leftEq, rightEq]

end Rows

end AgentLog

end NetOpsBench
