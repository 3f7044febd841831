import NetOpsBench.Pingmesh.CoverageRows
import NetOpsBench.Pingmesh.Windows
import NetOpsBench.Scenario.Baseline

/-!
# Gaps that a fault explains

`scoped_integrity_errors` of `netopsbench/platform/scenario/effects.py` over the coverage audit. The
unobservable clients of an effect excuse every task that has one of them at an end; the bounded
outages of a client excuse the rows of its own cycles that overlap them and report a local error.
-/

namespace NetOpsBench

open Fallible

/-! ## The effect -/

/-- An entry of `bounded_client_outages`. -/
structure ClientOutage : Type where
  client : String
  start : String
  stop : String
  deriving DecidableEq, Repr

/-- What the check reads of an effect. -/
structure ScopedEffect : Type where
  unobservableClients : List String := []
  boundedClientOutages : List ClientOutage := []
  probeCycleSeconds : Option Int := none

abbrev CoverageTask : Type := String × String × Nat

/-- What the check reads of an audit. -/
structure CoverageAudit : Type where
  unexpectedRows : Option Nat
  missingTasks : Option (List CoverageTask)
  invalidTasks : Option (List CoverageTask)
  invalidRows : Option (List InvalidRow)
  invalidSocketRows : Option Nat
  observablePairs : Option (List (String × String))

/-- The audit that `summarize_coverage` returns. -/
def Coverage.audit (coverage : Coverage) : CoverageAudit where
  unexpectedRows := some coverage.unexpectedRows
  missingTasks := some coverage.missingTasks
  invalidTasks := some coverage.invalidTasks
  invalidRows := some coverage.invalidRows
  invalidSocketRows := some coverage.invalidSocketRows
  observablePairs := some coverage.observablePairs

/-! ## Local errors in an outage -/

/-- `datetime.fromisoformat(value)`, with an error for an invalid text -/
def isoTime (fromIso : FromIso) (value : String) : Except String IsoTime :=
  match fromIso value with
  | some time => pure time
  | none => throw "Invalid isoformat string"

/-- The cycle from `start` to `stop` overlaps the outage, which is one of its client. -/
def ClientOutage.overlaps (fromIso : FromIso) (source : String) (start stop : IsoTime)
    (outage : ClientOutage) : Except String Bool :=
  if source ≠ outage.client then pure false
  else do
    let outageStop ← isoTime fromIso outage.stop
    if ← start.before outageStop then do
      let outageStart ← isoTime fromIso outage.start
      outageStart.before stop
    else pure false

/-- `any` of a test that may raise -/
def anyOutage (test : ClientOutage → Except String Bool) : List ClientOutage → Except String Bool
  | [] => pure false
  | outage :: later => do if ← test outage then pure true else anyOutage test later

/-- The `try` of `_outage_explains_local_error` -/
def cycleOverlaps (fromIso : FromIso) (row : InvalidRow) (outages : List ClientOutage)
    (cycleSeconds : Int) : Except String Bool := do
  let stop ← isoTime fromIso (Text.replace row.time "Z" "+00:00")
  let start := { stop with instant := stop.instant - cycleSeconds * 1000000 }
  anyOutage (ClientOutage.overlaps fromIso row.src start stop) outages

/-- `_outage_explains_local_error` -/
def outageExplainsLocalError (fromIso : FromIso) (row : InvalidRow)
    (outages : List ClientOutage) (cycleSeconds : Int) : Bool :=
  row.socketBatchValid && decide (0 < row.localProbeErrors.getD 0) &&
    succeedsWith (cycleOverlaps fromIso row outages cycleSeconds) id

/-! ## The check -/

inductive ScopedError : Type where
  | integrity (error : GateError)
  | ingestion
  | baselineCoverage
  | unexpectedRows
  | detailedAudit
  | timedAudit
  | localError (row : InvalidRow)
  | unobservedTask (task : CoverageTask)
  | invalidRowAudit
  | portBatch (row : InvalidRow)
  | unexplainedTask (task : CoverageTask)
  | noPair
  deriving DecidableEq, Repr

/-- An error that a condition makes. -/
def errorIf (condition : Bool) (error : ScopedError) : List ScopedError :=
  if condition then [error] else []

/-- The errors before the branches. -/
def sharedErrors (observation : Observation) (audit : CoverageAudit) : List ScopedError :=
  errorIf (observation.dataSourceStatus ≠ some "ok") .ingestion ++
    errorIf (observation.baselineCoverageStatus ≠ some "complete") .baselineCoverage ++
    errorIf (audit.unexpectedRows.getD 0 ≠ 0) .unexpectedRows ++
    errorIf (audit.missingTasks.isNone || audit.invalidTasks.isNone) .detailedAudit

/-- `(row["src"], row["dst"], row.get("port_batch_index"))` -/
def InvalidRow.task (row : InvalidRow) : CoverageTask := (row.src, row.dst, row.portBatchIndex)

/-- The branch of the outages. -/
def outageErrors (fromIso : FromIso) (audit : CoverageAudit) (outages : List ClientOutage)
    (cycleSeconds : Int) : List ScopedError :=
  let rows := audit.invalidRows.getD []
  let explains := fun row => outageExplainsLocalError fromIso row outages cycleSeconds
  let explained := (rows.filter explains).map InvalidRow.task
  errorIf (some rows.length ≠ audit.invalidSocketRows) .timedAudit ++
    (rows.filter fun row => !explains row).map .localError ++
    ((audit.missingTasks.getD []).filter fun task => !explained.contains task).map
      .unobservedTask ++
    errorIf (audit.observablePairs.getD []).isEmpty .noPair

/-- The branch of the unobservable clients. -/
def clientErrors (audit : CoverageAudit) (excluded : List String) : List ScopedError :=
  let rows := audit.invalidRows.getD []
  let outside := fun name => !excluded.contains name
  errorIf (rows.length ≠ audit.invalidSocketRows.getD 0) .invalidRowAudit ++
    (rows.filter fun row => !row.socketBatchValid).map .portBatch ++
    ((audit.missingTasks.getD [] ++ audit.invalidTasks.getD []).filter fun task =>
      outside task.1 && outside task.2.1).map .unexplainedTask ++
    errorIf (!(audit.observablePairs.getD []).any fun pair => outside pair.1 && outside pair.2)
      .noPair

/-- `scoped_integrity_errors`; the length of a cycle is read for the first invalid row. -/
def scopedIntegrityErrors (fromIso : FromIso) (observation : Observation) (audit : CoverageAudit)
    (effect : ScopedEffect) : Except String (List ScopedError) :=
  if effect.unobservableClients.isEmpty && effect.boundedClientOutages.isEmpty then
    pure ((observationIntegrityErrors observation).map .integrity)
  else if effect.boundedClientOutages.isEmpty then
    pure (sharedErrors observation audit ++ clientErrors audit effect.unobservableClients)
  else if (audit.invalidRows.getD []).isEmpty then
    pure (sharedErrors observation audit ++
      outageErrors fromIso audit effect.boundedClientOutages 0)
  else do
    let seconds ← require "probe_cycle_seconds" effect.probeCycleSeconds
    pure (sharedErrors observation audit ++
      outageErrors fromIso audit effect.boundedClientOutages seconds)

/-! ## What the errors exclude -/

/-- A cycle of the row overlaps an outage of its own source. -/
def InOutage (fromIso : FromIso) (row : Row) (effect : ScopedEffect) : Prop :=
  ∃ source seconds stop, row.srcName = some source ∧ effect.probeCycleSeconds = some seconds ∧
    fromIso (Text.replace row.timeText "Z" "+00:00") = some stop ∧
    ∃ outage ∈ effect.boundedClientOutages, outage.client = source ∧
      ∃ outageStart outageStop, fromIso outage.start = some outageStart ∧
        fromIso outage.stop = some outageStop ∧
        stop.instant - seconds * 1000000 < outageStop.instant ∧
        outageStart.instant < stop.instant

/-- The row has failed as an outage of its source makes it fail. -/
structure ExplainedRow (fromIso : FromIso) (d : Detector) (row : Row) (frame : ExpectedFrame)
    (effect : ScopedEffect) : Prop extends Detector.Sent d row frame where
  errors : ∃ count : Int, row.fieldInt .localProbeErrors = .ok (some count) ∧ 0 < count
  overlaps : InOutage fromIso row effect

/-- What the rows of an observation are when no error is returned. -/
structure ScopedSound (fromIso : FromIso) (d : Detector) (rows : List Row)
    (effect : ScopedEffect) : Prop where
  planned : ∀ row ∈ rows, ∃ frame, d.Planned row frame
  failed : ∀ row ∈ rows, ∀ frame, d.Planned row frame → ¬ d.Succeeded row frame →
    d.Sent row frame ∧
      (effect.boundedClientOutages ≠ [] → ExplainedRow fromIso d row frame effect)
  task : ∀ task ∈ d.expectedCombinations,
    (∃ row ∈ rows, ∃ frame, d.Planned row frame ∧ d.Succeeded row frame ∧
      task = Detector.rowTask row frame) ∨
    (effect.boundedClientOutages ≠ [] ∧ ∃ row ∈ rows, ∃ frame, d.Planned row frame ∧
      ExplainedRow fromIso d row frame effect ∧ task = Detector.rowTask row frame) ∨
    (effect.boundedClientOutages = [] ∧
      (task.1 ∈ effect.unobservableClients ∨ task.2.1 ∈ effect.unobservableClients))
  observable : ∃ row ∈ rows, ∃ frame, d.Planned row frame ∧ d.Succeeded row frame ∧
    (effect.boundedClientOutages = [] →
      (Detector.rowTask row frame).1 ∉ effect.unobservableClients ∧
        (Detector.rowTask row frame).2.1 ∉ effect.unobservableClients)

/-! ## Inversions of the tests -/

theorem errorIf_eq_nil {condition : Bool} {error : ScopedError} :
    errorIf condition error = [] ↔ condition = false := by
  cases condition with
  | false => exact ⟨fun _ => rfl, fun _ => rfl⟩
  | true => exact ⟨nofun, nofun⟩

theorem isoTime_eq_ok {fromIso : FromIso} {value : String} {time : IsoTime} :
    isoTime fromIso value = .ok time ↔ fromIso value = some time := by
  unfold isoTime
  rcases fromIso value with _ | found
  · exact ⟨nofun, nofun⟩
  · simp [pure, Except.pure]

theorem IsoTime.lt_of_before {a b : IsoTime} (before : a.before b = .ok true) :
    a.instant < b.instant := by
  unfold IsoTime.before at before
  split at before
  · rw [pure_eq_ok, decide_eq_true_iff] at before
    exact before
  · cases before

theorem ClientOutage.of_overlaps {fromIso : FromIso} {source : String} {start stop : IsoTime}
    {outage : ClientOutage} (overlaps : outage.overlaps fromIso source start stop = .ok true) :
    outage.client = source ∧ ∃ outageStart outageStop, fromIso outage.start = some outageStart ∧
      fromIso outage.stop = some outageStop ∧ start.instant < outageStop.instant ∧
        outageStart.instant < stop.instant := by
  unfold ClientOutage.overlaps at overlaps
  split at overlaps
  · cases overlaps
  · rename_i same
    obtain ⟨outageStop, isStop, overlaps⟩ := bind_eq_ok.mp overlaps
    obtain ⟨starts, isBefore, overlaps⟩ := bind_eq_ok.mp overlaps
    split at overlaps
    · rename_i before
      subst before
      obtain ⟨outageStart, isStart, overlaps⟩ := bind_eq_ok.mp overlaps
      exact ⟨(not_not.mp same).symm, outageStart, outageStop, isoTime_eq_ok.mp isStart,
        isoTime_eq_ok.mp isStop, IsoTime.lt_of_before isBefore, IsoTime.lt_of_before overlaps⟩
    · cases overlaps

theorem mem_of_anyOutage {test : ClientOutage → Except String Bool} {outages : List ClientOutage}
    (any : anyOutage test outages = .ok true) : ∃ outage ∈ outages, test outage = .ok true := by
  induction outages with
  | nil => cases any
  | cons outage later ih =>
      rw [anyOutage, bind_eq_ok] at any
      obtain ⟨found, tested, rest⟩ := any
      split at rest
      · rename_i isFound
        subst isFound
        exact ⟨outage, List.mem_cons_self, tested⟩
      · obtain ⟨other, mem, holds⟩ := ih rest
        exact ⟨other, List.mem_cons_of_mem _ mem, holds⟩

/-- What an entry that an outage explains says of its row. -/
theorem explainedRow_of_entry {fromIso : FromIso} {d : Detector} {row : Row}
    {frame : ExpectedFrame} {entry : InvalidRow} {effect : ScopedEffect} {seconds : Int}
    (planned : d.Planned row frame) (described : d.Describes row frame entry)
    (isSeconds : effect.probeCycleSeconds = some seconds)
    (explained : outageExplainsLocalError fromIso entry effect.boundedClientOutages seconds =
      true) : ExplainedRow fromIso d row frame effect := by
  unfold outageExplainsLocalError at explained
  rw [Bool.and_eq_true, Bool.and_eq_true, decide_eq_true_iff, succeedsWith_eq_true] at explained
  obtain ⟨⟨batch, positive⟩, overlap, isOverlap, same⟩ := explained
  change overlap = true at same
  subst same
  refine ⟨described.batch.mp batch, ?_, ?_⟩
  · rcases counted : entry.localProbeErrors with _ | count
    · rw [counted] at positive
      cases positive
    · rw [counted] at positive
      exact ⟨count, counted ▸ described.errors, positive⟩
  · unfold cycleOverlaps at isOverlap
    obtain ⟨stop, isStop, isOverlap⟩ := bind_eq_ok.mp isOverlap
    obtain ⟨outage, mem, overlaps⟩ := mem_of_anyOutage isOverlap
    obtain ⟨client, times⟩ := ClientOutage.of_overlaps overlaps
    obtain ⟨source, cycle, isSource, -⟩ := planned.scheduled
    have isSrc : entry.src = source := by
      have task := congrArg Prod.fst described.task
      unfold Detector.rowTask at task
      rw [isSource] at task
      exact task
    rw [isoTime_eq_ok, described.time] at isStop
    exact ⟨source, seconds, stop, isSource, isSeconds, isStop, outage, mem, client.trans isSrc,
      times⟩

/-! ## The audit and the check -/

/-- What an audit without unexpected rows says of the rows. -/
structure AuditedRows (d : Detector) (rows : List Row) (coverage : Coverage) : Prop where
  counted : coverage.unexpectedRows = 0 → ∀ row ∈ rows, ∃ frame, d.Planned row frame ∧
    (¬ d.Succeeded row frame → ∃ entry ∈ coverage.invalidRows, d.Describes row frame entry)
  invalid : ∀ entry ∈ coverage.invalidRows, ∃ row ∈ rows, ∃ frame, d.Planned row frame ∧
    d.Describes row frame entry
  task : ∀ task ∈ d.expectedCombinations, task ∈ coverage.missingTasks ∨
    ∃ row ∈ rows, ∃ frame, d.Planned row frame ∧ d.Succeeded row frame ∧
      task = Detector.rowTask row frame
  pair : ∀ pair ∈ coverage.observablePairs, ∃ row ∈ rows, ∃ frame, d.Planned row frame ∧
    d.Succeeded row frame ∧ (Detector.rowTask row frame).1 = pair.1 ∧
      (Detector.rowTask row frame).2.1 = pair.2

theorem mem_sortedSet {α : Type} [DecidableEq α] {le : α → α → Bool} {values : List α} {a : α} :
    a ∈ sortedSet le values ↔ a ∈ values := by
  rw [sortedSet, Sorting.mem_sorted, List.mem_dedup]

theorem auditedRows_of_summarizeCoverage {d : Detector} {rows : List Row} {coverage : Coverage}
    (summarized : d.summarizeCoverage rows = .ok coverage) : AuditedRows d rows coverage := by
  unfold Detector.summarizeCoverage at summarized
  obtain ⟨scan, scanned, same⟩ := bind_eq_ok.mp summarized
  rw [pure_eq_ok] at same
  have audited := Detector.audited_of_foldlM Detector.audited_nil scanned
  rw [List.nil_append] at audited
  subst same
  refine ⟨fun none row mem => ?_, fun entry mem => ?_, fun task mem => ?_, fun pair mem => ?_⟩
  · rcases audited.counted row mem with unexpected | ⟨frame, planned, kind⟩
    · exact absurd none (Nat.ne_of_gt unexpected)
    · refine ⟨frame, planned, fun failed => ?_⟩
      rcases kind with ⟨succeeded, -⟩ | ⟨-, entry⟩
      · exact absurd succeeded failed
      · exact entry
  · obtain ⟨row, memRow, frame, planned, -, described⟩ := audited.invalid entry mem
    exact ⟨row, memRow, frame, planned, described⟩
  · by_cases covered : task ∈ (scan.valid.map ValidRow.task).dedup
    · rw [List.mem_dedup, List.mem_map] at covered
      obtain ⟨v, memV, isTask⟩ := covered
      obtain ⟨row, memRow, frame, planned, succeeded, same⟩ := audited.valid v memV
      exact .inr ⟨row, memRow, frame, planned, succeeded, isTask.symm.trans same⟩
    · left
      unfold Detector.coverageOf
      dsimp only
      rw [mem_sortedSet, List.mem_filter, List.mem_dedup, decide_eq_true_iff]
      exact ⟨mem, covered⟩
  · unfold Detector.coverageOf at mem
    dsimp only at mem
    rw [mem_sortedSet, List.mem_dedup, List.mem_map] at mem
    obtain ⟨v, memV, isPair⟩ := mem
    obtain ⟨row, memRow, frame, planned, succeeded, same⟩ := audited.valid v memV
    refine ⟨row, memRow, frame, planned, succeeded, ?_, ?_⟩
    · rw [← same, ← isPair]
      rfl
    · rw [← same, ← isPair]
      rfl

/-- The tests before the branches find no unexpected row. -/
theorem unexpectedRows_of_sharedErrors {observation : Observation} {coverage : Coverage}
    (none : sharedErrors observation coverage.audit = []) : coverage.unexpectedRows = 0 := by
  unfold sharedErrors at none
  simp only [List.append_eq_nil_iff, errorIf_eq_nil] at none
  have counted := none.1.2
  rw [decide_eq_false_iff_not, not_not] at counted
  exact counted

section Branches

variable {fromIso : FromIso} {d : Detector} {rows : List Row} {coverage : Coverage}
  {effect : ScopedEffect}

/-- The branch of the unobservable clients -/
theorem scopedSound_of_clientErrors (audited : AuditedRows d rows coverage)
    (expected : coverage.unexpectedRows = 0) (noOutage : effect.boundedClientOutages = [])
    (none : clientErrors coverage.audit effect.unobservableClients = []) :
    ScopedSound fromIso d rows effect := by
  unfold clientErrors Coverage.audit at none
  simp only [Option.getD_some, List.append_eq_nil_iff, List.map_eq_nil_iff, errorIf_eq_nil,
    List.filter_eq_nil_iff] at none
  obtain ⟨⟨⟨-, batches⟩, tasks⟩, pairs⟩ := none
  refine ⟨fun row mem => ?_, fun row mem frame planned failed => ?_, fun task mem => ?_, ?_⟩
  · obtain ⟨frame, planned, -⟩ := audited.counted expected row mem
    exact ⟨frame, planned⟩
  · obtain ⟨other, alsoPlanned, described⟩ := audited.counted expected row mem
    cases planned.unique alsoPlanned
    obtain ⟨entry, memEntry, described⟩ := described failed
    have batch := batches entry memEntry
    rw [Bool.not_eq_true, Bool.not_eq_false'] at batch
    exact ⟨described.batch.mp batch, fun some => absurd noOutage some⟩
  · rcases audited.task task mem with missing | succeeded
    · have explained := tasks task (List.mem_append_left _ missing)
      rw [Bool.and_eq_true, not_and_or] at explained
      refine .inr (.inr ⟨noOutage, ?_⟩)
      simpa using explained
    · exact .inl succeeded
  · rw [Bool.not_eq_false', List.any_eq_true] at pairs
    obtain ⟨pair, mem, outside⟩ := pairs
    obtain ⟨row, memRow, frame, planned, succeeded, first, second⟩ := audited.pair pair mem
    refine ⟨row, memRow, frame, planned, succeeded, fun _ => ?_⟩
    rw [first, second]
    simpa using outside

/-- The branch of the outages -/
theorem scopedSound_of_outageErrors {seconds : Int} (audited : AuditedRows d rows coverage)
    (expected : coverage.unexpectedRows = 0) (outages : effect.boundedClientOutages ≠ [])
    (isSeconds : coverage.invalidRows ≠ [] → effect.probeCycleSeconds = some seconds)
    (none : outageErrors fromIso coverage.audit effect.boundedClientOutages seconds = []) :
    ScopedSound fromIso d rows effect := by
  unfold outageErrors Coverage.audit at none
  simp only [Option.getD_some, List.append_eq_nil_iff, List.map_eq_nil_iff, errorIf_eq_nil,
    List.filter_eq_nil_iff] at none
  obtain ⟨⟨⟨-, explained⟩, tasks⟩, pairs⟩ := none
  have explains : ∀ row frame entry, d.Planned row frame → entry ∈ coverage.invalidRows →
      d.Describes row frame entry → ExplainedRow fromIso d row frame effect := by
    intro row frame entry planned mem described
    have isExplained := explained entry mem
    rw [Bool.not_eq_true, Bool.not_eq_false'] at isExplained
    exact explainedRow_of_entry planned described (isSeconds (List.ne_nil_of_mem mem)) isExplained
  refine ⟨fun row mem => ?_, fun row mem frame planned failed => ?_, fun task mem => ?_, ?_⟩
  · obtain ⟨frame, planned, -⟩ := audited.counted expected row mem
    exact ⟨frame, planned⟩
  · obtain ⟨other, alsoPlanned, described⟩ := audited.counted expected row mem
    cases planned.unique alsoPlanned
    obtain ⟨entry, memEntry, described⟩ := described failed
    have explained := explains row frame entry planned memEntry described
    exact ⟨explained.toSent, fun _ => explained⟩
  · rcases audited.task task mem with missing | succeeded
    · have found := tasks task missing
      rw [Bool.not_eq_true, Bool.not_eq_false', List.contains_iff_mem, List.mem_map] at found
      obtain ⟨entry, memEntry, isTask⟩ := found
      have memEntry := (List.mem_filter.mp memEntry).1
      obtain ⟨row, memRow, frame, planned, described⟩ := audited.invalid entry memEntry
      exact .inr (.inl ⟨outages, row, memRow, frame, planned,
        explains row frame entry planned memEntry described, isTask.symm.trans described.task⟩)
    · exact .inl succeeded
  · rw [List.isEmpty_eq_false_iff_exists_mem] at pairs
    obtain ⟨pair, mem⟩ := pairs
    obtain ⟨row, memRow, frame, planned, succeeded, -⟩ := audited.pair pair mem
    exact ⟨row, memRow, frame, planned, succeeded, fun noOutage => absurd noOutage outages⟩

end Branches

/-- A gap that no fault explains is an error. -/
theorem scoped_integrity_sound (fromIso : FromIso) (d : Detector) (rows : List Row)
    (coverage : Coverage) (observation : Observation) (effect : ScopedEffect)
    (summarized : d.summarizeCoverage rows = .ok coverage)
    (given : effect.unobservableClients ≠ [] ∨ effect.boundedClientOutages ≠ [])
    (none : scopedIntegrityErrors fromIso observation coverage.audit effect = .ok []) :
    ScopedSound fromIso d rows effect := by
  have audited := auditedRows_of_summarizeCoverage summarized
  unfold scopedIntegrityErrors at none
  split at none
  · rename_i unscoped
    rw [Bool.and_eq_true, List.isEmpty_iff, List.isEmpty_iff] at unscoped
    rcases given with clients | outages
    · exact absurd unscoped.1 clients
    · exact absurd unscoped.2 outages
  · split at none
    · rename_i noOutage
      rw [pure_eq_ok, List.append_eq_nil_iff] at none
      exact scopedSound_of_clientErrors audited (unexpectedRows_of_sharedErrors none.1)
        (List.isEmpty_iff.mp noOutage) none.2
    · rename_i outages
      have outages : effect.boundedClientOutages ≠ [] := by
        intro noOutage
        rw [noOutage] at outages
        exact outages rfl
      split at none
      · rename_i noInvalid
        rw [pure_eq_ok, List.append_eq_nil_iff] at none
        refine scopedSound_of_outageErrors audited (unexpectedRows_of_sharedErrors none.1) outages
          (fun invalid => absurd ?_ invalid) none.2
        exact List.isEmpty_iff.mp noInvalid
      · obtain ⟨seconds, isSeconds, none⟩ := bind_eq_ok.mp none
        rw [pure_eq_ok, List.append_eq_nil_iff] at none
        refine scopedSound_of_outageErrors audited (unexpectedRows_of_sharedErrors none.1) outages
          (fun _ => ?_) none.2
        rcases known : effect.probeCycleSeconds with _ | other
        · rw [known] at isSeconds
          cases isSeconds
        · rw [known] at isSeconds
          cases isSeconds
          rfl

/-! ## A short outage -/

/-- Two clients that probe each other once a cycle. -/
def pairPlan : PingmeshPlan where
  settings :=
    { planId := "plan", sourcePorts := [33434], portBatches := [[0]], destinationBatchSize := 1,
      cycleIntervalSeconds := 1, coverageEpochCycles := 1, coverageEpochSeconds := 1,
      completeWindowSeconds := 2, dfPayloadSize := 1472 }
  clients :=
    [{ name := "client1", targets := ["client2"], startupDelayMs := 0,
       frames := [⟨0, 0, [0], [(.rtt, 0, 0)]⟩] },
      { name := "client2", targets := ["client1"], startupDelayMs := 0,
        frames := [⟨0, 0, [0], [(.rtt, 0, 0)]⟩] }]
  coverage := { directedLinks := [], coveredSwitches := [], minimumWitnesses := 0 }

def pairDetector : Detector where
  clients := ["client1", "client2"]
  clientAddresses := .empty
  plan := pairPlan
  expectedFrames := Detector.compileExpectedFrames pairPlan
  expectedCombinations := Detector.compileCombinations pairPlan
  expectedDestinations := Detector.compileDestinations pairPlan

/-- A row of a cycle with so many local errors. -/
def pairRow (source destination : String) (errors : Rat) : Row where
  time := some "2026-01-01T00:00:05Z"
  srcName := some source
  dstName := some destination
  srcIp := none
  dstIp := none
  planId := some "plan"
  field
    | .rttPortsActive => some (.finite 1)
    | .rttPortsTotal => some (.finite 1)
    | .localProbeErrors => some (.finite errors)
    | _ => some (.finite 0)

/-- The instants of the texts of the example. -/
def outageTimes (value : String) : Option IsoTime :=
  if value = "2026-01-01T00:00:00+00:00" then some ⟨0, true⟩
  else if value = "2026-01-01T00:00:05+00:00" then some ⟨5000000, true⟩
  else if value = "2026-01-01T00:00:10+00:00" then some ⟨10000000, true⟩
  else none

def shortOutage : ScopedEffect where
  boundedClientOutages :=
    [⟨"client1", "2026-01-01T00:00:00+00:00", "2026-01-01T00:00:10+00:00"⟩]
  probeCycleSeconds := some 1

def outageObservation : Observation where
  window := { number := 0, startTime := none, endTime := none, durationSeconds := none }
  dataSourceStatus := some "ok"
  coverageStatus := some "incomplete"
  baselineCoverageStatus := some "complete"
  currentPathsObserved := 2
  localDfMtuDrops := 0
  localProbeErrors := 1
  latencySpikes := 0
  quality := {}
  baselineHealth := none

theorem scoped_integrity_sound_outage :
    ScopedSound outageTimes pairDetector
      [pairRow "client1" "client2" 1, pairRow "client2" "client1" 0] shortOutage := by
  have checked : succeedsWith (pairDetector.summarizeCoverage
      [pairRow "client1" "client2" 1, pairRow "client2" "client1" 0]) (fun coverage =>
        succeedsWith (scopedIntegrityErrors outageTimes outageObservation coverage.audit
          shortOutage) List.isEmpty) = true := by
    decide +kernel
  obtain ⟨coverage, summarized, rest⟩ := succeedsWith_eq_true.mp checked
  obtain ⟨errors, returned, none⟩ := succeedsWith_eq_true.mp rest
  rw [List.isEmpty_iff.mp none] at returned
  exact scoped_integrity_sound outageTimes pairDetector _ coverage outageObservation shortOutage
    summarized (.inr (List.cons_ne_nil _ _)) returned

end NetOpsBench
