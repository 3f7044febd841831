import NetOpsBench.Pingmesh.Copies
import NetOpsBench.Scenario.ScopedIntegrity

/-!
# Tolerance of copies

The audit passes rows that come twice as harmless. They are to the analysis where the rows agree
one by one (`Settled`): no path and no port batch has an anomaly however often its rows are
repeated, and each absolute test has one answer for all numbers of repetitions.
-/

namespace NetOpsBench

open Fallible

/-! ## Repeated rows -/

/-- The rows of a list, each at least once. -/
def Repeats (rows rows' : List Row) : Prop :=
  ∃ copies, rows'.Perm (rows ++ copies) ∧ ∀ row ∈ copies, row ∈ rows

variable {df : Bool} {pct : Rat} {rows rows' copies : List Row} {thresholds : DetectorThresholds}

theorem Repeats.mem (repeats : Repeats rows rows') (row : Row) : row ∈ rows ↔ row ∈ rows' := by
  obtain ⟨copies, perm, isCopy⟩ := repeats
  rw [perm.mem_iff, List.mem_append]
  exact ⟨.inl, fun mem => mem.elim id (isCopy row)⟩

/-- A sum of what no row takes from grows with the repetitions. -/
theorem Repeats.sum_le {f : Row → Rat} (repeats : Repeats rows rows')
    (nonneg : ∀ row ∈ counted df rows, 0 ≤ f row) :
    ((counted df rows).map f).sum ≤ ((counted df rows').map f).sum := by
  obtain ⟨copies, perm, isCopy⟩ := repeats
  have counts : (counted df rows').Perm (counted df rows ++ counted df copies) := by
    unfold counted
    rw [← List.filter_append]
    exact perm.filter _
  rw [(counts.map f).sum_eq, List.map_append, List.sum_append]
  have more : 0 ≤ ((counted df copies).map f).sum := by
    apply sum_map_nonneg
    intro row mem
    obtain ⟨memCopies, sends⟩ := mem_counted.mp mem
    exact nonneg row (mem_counted.mpr ⟨isCopy row memCopies, sends⟩)
  linarith

/-! ## The absolute tests -/

/-- No row has lost less than nothing, and together they have lost enough probes. -/
def Enough (rows : List Row) : Prop :=
  (∀ row ∈ counted false rows, 0 ≤ row.asFloat .packetsLost) ∧
    minPathLostProbes ≤ ((counted false rows).map fun row => row.asFloat .packetsLost).sum

/-- However often the rows are repeated, a path is or is not unreachable or lossy. -/
def SteadyRegular (thresholds : DetectorThresholds) (rows : List Row) : Prop :=
  counted false rows = [] ∨ StaysAtLeast false 100 rows ∨
    StaysBelow false 100 rows ∧
      (Lossless rows ∨ StaysBelow false thresholds.lossPctThreshold rows ∨
        StaysAtLeast false thresholds.lossPctThreshold rows ∧ Enough rows)

/-- However often the rows are repeated, a port batch does not count for the MTU. -/
def NeverMtu (rows : List Row) : Prop :=
  counted false rows = [] ∨ counted true rows = [] ∨ Lossy rows ∨ Dropping rows ∨
    StaysBelow true 100 rows

/-- However often the rows are repeated, a port batch counts for the MTU. -/
structure AlwaysMtu (rows : List Row) : Prop where
  probed : counted false rows ≠ []
  delivered : ∀ row ∈ counted false rows, row.asFloat .packetsLost = 0
  lost : StaysAtLeast true 100 rows
  enough : (minConfirmedDfProbes : Rat) ≤
    ((counted true rows).map fun row => row.asFloat .dfPacketsSent).sum
  clean : ∀ row ∈ rows, row.asFloat .dfMtuDrops = 0

theorem lossStats_none (none_ : counted df rows = []) : lossStats df rows = none := by
  unfold lossStats
  rw [if_pos none_]

theorem exists_lossStats (some_ : counted df rows ≠ []) : ∃ stats, lossStats df rows = some stats := by
  unfold lossStats
  rw [if_neg some_]
  exact ⟨_, rfl⟩

/-- The tests of the regular probes of a path have one answer. -/
theorem SteadyRegular.tests (steady : SteadyRegular thresholds rows) :
    ∃ unreachable loss : Bool, ∀ rows', Repeats rows rows' →
      DetectorThresholds.absoluteUnreachable rows' = unreachable ∧
        thresholds.absoluteLoss rows' = loss := by
  unfold DetectorThresholds.absoluteUnreachable DetectorThresholds.absoluteLoss
  by_cases none_ : counted false rows = []
  · refine ⟨false, false, fun rows' repeats => ?_⟩
    rw [lossStats_none ((counted_eq_nil repeats.mem).mp none_)]
    exact ⟨rfl, rfl⟩
  have known {rows' : List Row} (repeats : Repeats rows rows') :
      ∃ stats, lossStats false rows' = some stats ∧ stats.Of false rows' := by
    obtain ⟨stats, found⟩ := exists_lossStats (mt (counted_eq_nil repeats.mem).mpr none_)
    exact ⟨stats, found, LossStats.of_lossStats found⟩
  rcases steady with empty | all | ⟨below, rest⟩
  · exact absurd empty none_
  · refine ⟨true, false, fun rows' repeats => ?_⟩
    obtain ⟨stats, found, of⟩ := known repeats
    have down := of.sent_le_lost.mpr (of.le_lossPct_of (all.congr repeats.mem))
    rw [found]
    simp [of.sent_pos, down]
  · have up {rows' : List Row} (repeats : Repeats rows rows') {stats : LossStats}
        (of : stats.Of false rows') : ¬ stats.sent ≤ stats.lost := by
      rw [of.sent_le_lost, not_le]
      exact of.lossPct_lt_of (below.congr repeats.mem)
    rcases rest with lossless | small | ⟨large, enough⟩
    · refine ⟨false, false, fun rows' repeats => ?_⟩
      obtain ⟨stats, found, of⟩ := known repeats
      have few := of.lost_nonpos (lossless.congr repeats.mem) rfl
      have tooFew : ¬ minPathLostProbes ≤ stats.lost := by
        unfold minPathLostProbes
        linarith
      rw [found]
      simp [up repeats of, tooFew]
    · refine ⟨false, false, fun rows' repeats => ?_⟩
      obtain ⟨stats, found, of⟩ := known repeats
      have low := not_le.mpr (of.lossPct_lt_of (small.congr repeats.mem))
      rw [found]
      simp [up repeats of, low]
    · refine ⟨false, true, fun rows' repeats => ?_⟩
      obtain ⟨stats, found, of⟩ := known repeats
      have high := of.le_lossPct_of (large.congr repeats.mem)
      have many : minPathLostProbes ≤ stats.lost := by
        rw [of.lost]
        exact enough.2.trans (repeats.sum_le enough.1)
      rw [found]
      simp [of.sent_pos, not_le.mp (up repeats of), high, many]

theorem NeverMtu.test (never : NeverMtu rows) (repeats : Repeats rows rows') :
    absoluteMtu rows' = false := by
  unfold absoluteMtu
  cases regular : lossStats false rows' with
  | none => rfl
  | some stats =>
      cases fragment : lossStats true rows' with
      | none => rfl
      | some dfStats =>
          have of := LossStats.of_lossStats regular
          have ofDf := LossStats.of_lossStats fragment
          simp only [Option.any_some, decide_eq_false_iff_not]
          intro counts
          obtain ⟨-, lossless, -, all, clean⟩ := counts
          rcases never with none_ | none_ | lossy | dropping | below
          · exact of.some_ ((counted_eq_nil repeats.mem).mp none_)
          · exact ofDf.some_ ((counted_eq_nil repeats.mem).mp none_)
          · have positive := of.lost_pos (lossy.congr repeats.mem) rfl
            rw [lossless] at positive
            exact lt_irrefl _ positive
          · have positive := ofDf.mtuDrops_pos (dropping.congr repeats.mem) rfl
            rw [clean] at positive
            exact lt_irrefl _ positive
          · exact absurd (ofDf.sent_le_lost.mp all)
              (not_le.mpr (ofDf.lossPct_lt_of (below.congr repeats.mem)))

theorem sum_map_zero {α : Type} {f : α → Rat} {xs : List α} (all : ∀ x ∈ xs, f x = 0) :
    (xs.map f).sum = 0 := by
  rw [List.map_congr_left all]
  simp

theorem AlwaysMtu.test (always : AlwaysMtu rows) (repeats : Repeats rows rows') :
    absoluteMtu rows' = true := by
  have sends : counted true rows ≠ [] := by
    intro none_
    have enough := always.enough
    rw [none_] at enough
    norm_num [minConfirmedDfProbes] at enough
  obtain ⟨stats, found⟩ := exists_lossStats (mt (counted_eq_nil repeats.mem).mpr always.probed)
  obtain ⟨dfStats, foundDf⟩ := exists_lossStats (mt (counted_eq_nil repeats.mem).mpr sends)
  have of := LossStats.of_lossStats found
  have ofDf := LossStats.of_lossStats foundDf
  have delivered : stats.lost = 0 := by
    rw [of.lost]
    exact sum_map_zero fun row mem =>
      always.delivered row ((mem_counted_iff repeats.mem).mpr mem)
  have lost : dfStats.sent ≤ dfStats.lost :=
    ofDf.sent_le_lost.mpr (ofDf.le_lossPct_of (always.lost.congr repeats.mem))
  have enough : (minConfirmedDfProbes : Rat) ≤ dfStats.sent := by
    rw [ofDf.sent]
    exact always.enough.trans (repeats.sum_le fun row mem => le_of_lt (mem_counted.mp mem).2)
  have clean : dfStats.mtuDrops = 0 := by
    rw [ofDf.mtuDrops, if_pos rfl]
    exact sum_map_zero fun row mem => always.clean row ((repeats.mem row).mpr mem)
  unfold absoluteMtu
  rw [found, foundDf]
  simp [of.sent_pos, delivered, enough, lost, clean]

/-! ## Paths and batches -/

section Grouping

variable {κ : Type} [DecidableEq κ] {key : Row → κ}

/-- The rows of a key. -/
def pointsOf (key : Row → κ) (rows : List Row) (k : κ) : List Row :=
  Sorting.sorted Row.notAfter (Grouping.group key rows k)

theorem entries_groupBy (rows : List Row) :
    (groupBy key rows).entries = (Grouping.grouped key rows).keys.map fun k =>
      (k, pointsOf key rows k) := by
  change (Grouping.grouped key rows).entries.map
    (fun entry => (entry.1, Sorting.sorted Row.notAfter entry.2)) = _
  rw [Grouping.entries_grouped, List.map_map]
  rfl

/-- The rows that a dictionary has under a key. -/
theorem mem_getD_groupBy {k : κ} {row : Row} :
    row ∈ ((groupBy key rows).get k).getD [] ↔ row ∈ Grouping.group key rows k := by
  unfold groupBy
  rw [Dict.get_mapValues, Grouping.get_grouped]
  by_cases known : k ∈ rows.map key
  · rw [if_pos known]
    exact Sorting.mem_sorted
  · rw [if_neg known, not_not.mp (mt Grouping.group_ne_nil.mp known)]
    rfl

/-- Copies have no keys of their own. -/
theorem keys_copies (isCopy : ∀ row ∈ copies, row ∈ rows) :
    (Grouping.grouped key (rows ++ copies)).keys = (Grouping.grouped key rows).keys := by
  induction copies using List.reverseRecOn with
  | nil => rw [List.append_nil]
  | append_singleton copies copy ih =>
      have before := ih fun row mem => isCopy row (List.mem_append_left _ mem)
      have known : key copy ∈ (Grouping.grouped key (rows ++ copies)).keys := by
        rw [before, Grouping.mem_keys_grouped]
        exact List.mem_map_of_mem (isCopy copy (List.mem_append_right _ (List.mem_singleton_self _)))
      rw [← List.append_assoc, Grouping.grouped_snoc, ← before]
      exact (Dict.keys_setEntries _ _ _).trans (if_pos known)

theorem repeats_pointsOf (isCopy : ∀ row ∈ copies, row ∈ rows) (k : κ) :
    Repeats (Grouping.group key rows k) (pointsOf key (rows ++ copies) k) := by
  refine ⟨Grouping.group key copies k, ?_, ?_⟩
  · rw [← Grouping.group_append]
    exact Sorting.sorted_perm _ _
  · intro row mem
    obtain ⟨memCopies, isKey⟩ := Grouping.mem_group.mp mem
    exact Grouping.mem_group.mpr ⟨isCopy row memCopies, isKey⟩

theorem repeats_self (rows : List Row) (k : κ) :
    Repeats (Grouping.group key rows k) (pointsOf key rows k) := by
  have repeats := @repeats_pointsOf rows [] κ _ key (by simp) k
  rwa [List.append_nil] at repeats

/-- A test with one answer for each key counts the same of the copies. -/
theorem countP_copies {test : List Row → Bool} (isCopy : ∀ row ∈ copies, row ∈ rows)
    (same : ∀ k, test (pointsOf key (rows ++ copies) k) = test (pointsOf key rows k)) :
    (groupBy key (rows ++ copies)).values.countP test = (groupBy key rows).values.countP test := by
  unfold Dict.values
  rw [entries_groupBy, entries_groupBy, keys_copies isCopy, List.map_map, List.map_map,
    List.countP_map, List.countP_map]
  congr 1
  funext k
  exact same k

end Grouping

/-! ## Settled snapshots -/

/-- However often the rows are repeated, a path is or is not one with an MTU fault. -/
def SteadyMtu (lib : PyLibrary) (rows : List Row) (path : String × String) : Prop :=
  (∀ batch, batch.1 = path → NeverMtu (Grouping.group (Row.batch lib) rows batch)) ∨
    ∃ batch, batch.1 = path ∧ AlwaysMtu (Grouping.group (Row.batch lib) rows batch)

/-- However often the rows of two snapshots are repeated, the analysis finds no anomaly, and its
absolute tests have one answer. -/
structure Settled (lib : PyLibrary) (thresholds : DetectorThresholds)
    (baseline current : List Row) : Prop where
  latency : ∀ path, QuietLatency (Grouping.group Row.path baseline path)
    (Grouping.group Row.path current path)
  loss : ∀ path, QuietLoss thresholds (Grouping.group Row.path baseline path)
    (Grouping.group Row.path current path)
  df : ∀ batch, QuietDf (Grouping.group (Row.batch lib) baseline batch)
    (Grouping.group (Row.batch lib) current batch)
  regular : ∀ path, SteadyRegular thresholds (Grouping.group Row.path current path)
  mtu : ∀ path, SteadyMtu lib current path

section Analysis

variable {lib : PyLibrary} {baseline current baselineCopies currentCopies : List Row}

/-- A settled pair of snapshots has no anomaly, with its copies or without. -/
theorem Settled.anomalies (settled : Settled lib thresholds baseline current)
    (isBaseline : ∀ row ∈ baselineCopies, row ∈ baseline)
    (isCurrent : ∀ row ∈ currentCopies, row ∈ current) :
    (analyzeSnapshotRows lib thresholds (baseline ++ baselineCopies)
      (current ++ currentCopies)).anomalies = [] := by
  have same {κ : Type} [DecidableEq κ] {key : Row → κ} (k : κ) :
      (∀ row, row ∈ Grouping.group key baseline k ↔
        row ∈ ((groupBy key (baseline ++ baselineCopies)).get k).getD []) ∧
      ∀ row, row ∈ Grouping.group key current k ↔
        row ∈ pointsOf key (current ++ currentCopies) k := by
    constructor
    · intro row
      rw [mem_getD_groupBy, (repeats_pointsOf isBaseline k).mem]
      exact Sorting.mem_sorted
    · exact (repeats_pointsOf isCurrent k).mem
  have latency : detectLatencyFromRows (groupByPath (baseline ++ baselineCopies))
      (groupByPath (current ++ currentCopies)) = [] := by
    unfold detectLatencyFromRows groupByPath
    rw [entries_groupBy, List.filterMap_map, List.filterMap_eq_nil_iff]
    intro path _
    exact latency_none ((settled.latency path).congr (same path).1 (same path).2)
  have loss : (thresholds.detectLossFromRows (groupByPath (baseline ++ baselineCopies))
      (groupByPath (current ++ currentCopies))).1 = [] := by
    unfold DetectorThresholds.detectLossFromRows groupByPath
    rw [entries_groupBy]
    simp only [List.map_map, List.filterMap_map, List.filterMap_eq_nil_iff]
    intro path _
    exact loss_none ((settled.loss path).congr (same path).1 (same path).2)
  have df : thresholds.detectDfFromRows (groupByPathPortBatch lib (baseline ++ baselineCopies))
      (groupByPathPortBatch lib (current ++ currentCopies)) = [] := by
    unfold DetectorThresholds.detectDfFromRows groupByPathPortBatch
    rw [entries_groupBy]
    generalize (Grouping.grouped (Row.batch lib) (current ++ currentCopies)).keys = keys
    induction keys with
    | nil => rfl
    | cons batch keys ih =>
        rw [List.map_cons, List.foldl_cons]
        unfold DetectorThresholds.addDfAnomaly
        rw [df_none ((settled.df batch).congr (same batch).1 (same batch).2)]
        exact ih
  unfold analyzeSnapshotRows
  dsimp only
  rw [latency, loss, df]
  rfl

/-- The counters of the absolute health. -/
def SnapshotQuality.absoluteHealth (quality : SnapshotQuality) : Nat × Nat × Nat :=
  (quality.absoluteUnreachablePaths, quality.absolutePacketLossPaths,
    quality.absoluteNetworkMtuPaths)

theorem mem_absoluteMtuPaths {path : String × String} :
    path ∈ absoluteMtuPaths (groupByPathPortBatch lib current) ↔
      ∃ batch ∈ current.map (Row.batch lib), batch.1 = path ∧
        absoluteMtu (pointsOf (Row.batch lib) current batch) = true := by
  unfold absoluteMtuPaths groupByPathPortBatch
  rw [List.mem_dedup, entries_groupBy, List.filter_map, List.map_map, List.mem_map]
  constructor
  · intro found
    obtain ⟨batch, mem, onPath⟩ := found
    obtain ⟨isKey, counts⟩ := List.mem_filter.mp mem
    exact ⟨batch, Grouping.mem_keys_grouped.mp isKey, onPath, counts⟩
  · intro found
    obtain ⟨batch, isKey, onPath, counts⟩ := found
    exact ⟨batch, List.mem_filter.mpr ⟨Grouping.mem_keys_grouped.mpr isKey, counts⟩, onPath⟩

theorem SteadyMtu.counts {path : String × String} (steady : SteadyMtu lib current path)
    (isCurrent : ∀ row ∈ currentCopies, row ∈ current) :
    path ∈ absoluteMtuPaths (groupByPathPortBatch lib (current ++ currentCopies)) ↔
      path ∈ absoluteMtuPaths (groupByPathPortBatch lib current) := by
  rw [mem_absoluteMtuPaths, mem_absoluteMtuPaths]
  rcases steady with never | ⟨batch, onPath, always⟩
  · constructor
    · intro found
      obtain ⟨batch, -, onPath, counts⟩ := found
      rw [(never batch onPath).test (repeats_pointsOf isCurrent batch)] at counts
      cases counts
    · intro found
      obtain ⟨batch, -, onPath, counts⟩ := found
      rw [(never batch onPath).test (repeats_self current batch)] at counts
      cases counts
  · have known : batch ∈ current.map (Row.batch lib) := by
      apply Grouping.group_ne_nil.mp
      intro none_
      apply always.probed
      rw [none_]
      rfl
    constructor
    · intro _
      exact ⟨batch, known, onPath, always.test (repeats_self current batch)⟩
    · intro _
      refine ⟨batch, ?_, onPath, always.test (repeats_pointsOf isCurrent batch)⟩
      rw [List.map_append]
      exact List.mem_append_left _ known

/-- A settled snapshot has the absolute counters of its copies. -/
theorem Settled.absoluteHealth (settled : Settled lib thresholds baseline current)
    (isCurrent : ∀ row ∈ currentCopies, row ∈ current) :
    (analyzeSnapshotRows lib thresholds (baseline ++ baselineCopies)
        (current ++ currentCopies)).quality.absoluteHealth =
      (analyzeSnapshotRows lib thresholds baseline current).quality.absoluteHealth := by
  have regular (path : String × String) :
      DetectorThresholds.absoluteUnreachable (pointsOf Row.path (current ++ currentCopies) path) =
          DetectorThresholds.absoluteUnreachable (pointsOf Row.path current path) ∧
        thresholds.absoluteLoss (pointsOf Row.path (current ++ currentCopies) path) =
          thresholds.absoluteLoss (pointsOf Row.path current path) := by
    obtain ⟨unreachable, loss, all⟩ := (settled.regular path).tests
    obtain ⟨isUnreachable, isLoss⟩ := all _ (repeats_pointsOf isCurrent path)
    obtain ⟨isUnreachable', isLoss'⟩ := all _ (repeats_self current path)
    exact ⟨isUnreachable.trans isUnreachable'.symm, isLoss.trans isLoss'.symm⟩
  have mtu : (absoluteMtuPaths (groupByPathPortBatch lib (current ++ currentCopies))).length =
      (absoluteMtuPaths (groupByPathPortBatch lib current)).length := by
    apply List.Perm.length_eq
    apply (List.perm_ext_iff_of_nodup (List.nodup_dedup _) (List.nodup_dedup _)).mpr
    intro path
    exact (settled.mtu path).counts isCurrent
  unfold analyzeSnapshotRows SnapshotQuality.absoluteHealth
  dsimp only
  rw [mtu]
  unfold groupByPath
  rw [countP_copies isCurrent fun path => (regular path).1,
    countP_copies isCurrent fun path => (regular path).2]

end Analysis

/-! ## Two windows -/

/-- A window with the rows that the detector has read for it. -/
structure ReadWindow : Type where
  progress : List Row
  rows : List Row
  startTime : String
  endTime : String

namespace ReadWindow

def audit (window : ReadWindow) (d : Detector) (lib : PyLibrary) : Except String Detector.Audit :=
  d.auditIngestion lib window.progress window.rows window.startTime window.endTime

/-- The audit says `ready`. -/
def Ready (d : Detector) (lib : PyLibrary) (window : ReadWindow) : Prop :=
  ∃ audit, window.audit d lib = .ok audit ∧ audit.isReady = true

/-- The window with rows at the end of its snapshot. -/
def append (window : ReadWindow) (copies : List Row) : ReadWindow :=
  { window with rows := window.rows ++ copies }

def coverageComplete (window : ReadWindow) (d : Detector) : Except String Bool :=
  (d.summarizeCoverage window.rows).map Coverage.complete

end ReadWindow

/-- Two pairs of windows have one report: their audits, the status of their coverage, the anomalies
and the absolute health. -/
structure SameReport (d : Detector) (lib : PyLibrary) (thresholds : DetectorThresholds)
    (baseline current baseline' current' : ReadWindow) : Prop where
  baselineAudit : baseline'.audit d lib = baseline.audit d lib
  currentAudit : current'.audit d lib = current.audit d lib
  baselineCoverage : baseline'.coverageComplete d = baseline.coverageComplete d
  currentCoverage : current'.coverageComplete d = current.coverageComplete d
  anomalies : (analyzeSnapshotRows lib thresholds baseline'.rows current'.rows).anomalies =
    (analyzeSnapshotRows lib thresholds baseline.rows current.rows).anomalies
  absoluteHealth :
    (analyzeSnapshotRows lib thresholds baseline'.rows current'.rows).quality.absoluteHealth =
      (analyzeSnapshotRows lib thresholds baseline.rows current.rows).quality.absoluteHealth

/-- Copies of rows do not change the report. -/
def TolerantOfCopies (d : Detector) (lib : PyLibrary) (thresholds : DetectorThresholds)
    (baseline current : ReadWindow) : Prop :=
  ∀ baselineCopies currentCopies, (∀ row ∈ baselineCopies, row ∈ baseline.rows) →
    (∀ row ∈ currentCopies, row ∈ current.rows) →
    SameReport d lib thresholds baseline current (baseline.append baselineCopies)
      (current.append currentCopies)

/-- A library for the first seconds of a minute. -/
def secondsLibrary : PyLibrary where
  time text :=
    match ["2026-01-01T00:00:00Z", "2026-01-01T00:00:01Z", "2026-01-01T00:00:02Z",
      "2026-01-01T00:00:03Z"].idxOf? text with
    | some second => .ok (1000000 * second)
    | none => .error ("Invalid isoformat string: '" ++ text ++ "'")
  reprFloat _ := "0.0"

/-- Two probes of a client in a cycle. -/
def probedRow (source destination : String) (cycle : Nat) (lost : Rat) : Row where
  time := some ("2026-01-01T00:00:0" ++ toString cycle ++ "Z")
  srcName := some source
  dstName := some destination
  srcIp := some source
  dstIp := some destination
  planId := some "plan"
  field
    | .packetsSent => some (.finite 2)
    | .packetsLost => some (.finite lost)
    | .probeCycle => some (.finite cycle)
    | .rttPortsActive => some (.finite 1)
    | .rttPortsTotal => some (.finite 1)
    | _ => some (.finite 0)

/-- The rows of both clients in a cycle. -/
def probedCycle (cycle : Nat) (lost : Rat) : List Row :=
  [probedRow "client1" "client2" cycle lost, probedRow "client2" "client1" cycle 0]

/-- The window of one cycle. -/
def probedWindow (cycle : Nat) (lost : Rat) : ReadWindow where
  progress := (List.range 4).flatMap fun cycle => probedCycle cycle 0
  rows := probedCycle cycle lost
  startTime := "2026-01-01T00:00:0" ++ toString cycle ++ "Z"
  endTime := "2026-01-01T00:00:0" ++ toString (cycle + 1) ++ "Z"

theorem probedWindow_ready {cycle : Nat} (inside : cycle = 1 ∨ cycle = 2) (lost : Rat) :
    (probedWindow cycle lost).Ready pairDetector secondsLibrary := by
  have ready : succeedsWith ((probedWindow cycle lost).audit pairDetector secondsLibrary)
      Detector.Audit.isReady = true := by
    rcases inside with rfl | rfl
    · rfl
    · rfl
  obtain ⟨audit, done, isReady⟩ := succeedsWith_eq_true.mp ready
  exact ⟨audit, done, isReady⟩

/-- The loss of copies of a row. -/
theorem lossStats_probed (source destination : String) (cycle n : Nat) (lost : Rat) :
    lossStats false (List.replicate (n + 1) (probedRow source destination cycle lost)) =
      some
        { lossPct := (n + 1) * lost / ((n + 1) * 2) * 100
          sent := (n + 1) * 2
          lost := (n + 1) * lost
          samples := n + 1
          mtuDrops := 0 } := by
  have sends : counted false (List.replicate (n + 1) (probedRow source destination cycle lost)) =
      List.replicate (n + 1) (probedRow source destination cycle lost) :=
    List.filter_replicate_of_pos (by
      change decide ((0 : Rat) < 2) = true
      norm_num)
  unfold lossStats
  dsimp only
  rw [sends, if_neg (by simp), List.map_replicate, List.map_replicate, List.sum_replicate,
    List.sum_replicate, List.length_replicate]
  simp [Row.asFloat, probedRow, sentField, lostField]

/-- Copies of a row with one lost probe of two are packet loss from three on. -/
theorem absoluteLoss_probed (source destination : String) (cycle n : Nat) :
    ({} : DetectorThresholds).absoluteLoss
      (List.replicate (n + 1) (probedRow source destination cycle 1)) = decide (3 ≤ n + 1) := by
  unfold DetectorThresholds.absoluteLoss
  rw [lossStats_probed, Option.any_some]
  have positive : (0 : Rat) < n + 1 := by positivity
  have half : ((n : Rat) + 1) * 1 / ((n + 1) * 2) * 100 = 50 := by
    rw [mul_div_mul_left _ _ (ne_of_gt positive)]
    norm_num
  have partial_ : ¬ ((n : Rat) + 1) * 2 ≤ (n + 1) * 1 := by
    linarith
  simp only [half, partial_, and_false, not_false_eq_true, true_and, minPathLostProbes]
  norm_num
  norm_cast

/-- Rows without lost probes, without round trips and without DF probes are settled. -/
theorem probedWindow_settled (cycle cycle' : Nat) :
    Settled secondsLibrary {} (probedWindow cycle 0).rows (probedWindow cycle' 0).rows := by
  have facts {cycle : Nat} {κ : Type} [DecidableEq κ] {key : Row → κ} {k : κ} {row : Row}
      (mem : row ∈ Grouping.group key (probedWindow cycle 0).rows k) :
      row.asFloat .rttAvg = 0 ∧ row.asFloat .packetsSent = 2 ∧ row.asFloat .packetsLost = 0 ∧
        row.asFloat .dfPacketsSent = 0 := by
    obtain ⟨isRow, -⟩ := Grouping.mem_group.mp mem
    rcases List.mem_pair.mp isRow with rfl | rfl
    · exact ⟨rfl, rfl, rfl, rfl⟩
    · exact ⟨rfl, rfl, rfl, rfl⟩
  have noDf {cycle : Nat} {κ : Type} [DecidableEq κ] {key : Row → κ} {k : κ} :
      counted true (Grouping.group key (probedWindow cycle 0).rows k) = [] := by
    apply List.eq_nil_iff_forall_not_mem.mpr
    intro row mem
    obtain ⟨isRow, sends⟩ := mem_counted.mp mem
    change 0 < row.asFloat .dfPacketsSent at sends
    rw [(facts isRow).2.2.2] at sends
    exact lt_irrefl _ sends
  have healthy {cycle : Nat} {κ : Type} [DecidableEq κ] {key : Row → κ} {k : κ} :
      counted false (Grouping.group key (probedWindow cycle 0).rows k) = [] ∨
        StaysBelow false 100 (Grouping.group key (probedWindow cycle 0).rows k) ∧
          Lossless (Grouping.group key (probedWindow cycle 0).rows k) := by
    by_cases none_ : counted false (Grouping.group key (probedWindow cycle 0).rows k) = []
    · exact .inl none_
    · have excess {row : Row}
          (mem : row ∈ counted false (Grouping.group key (probedWindow cycle 0).rows k)) :
          row.excess false 100 < 0 := by
        obtain ⟨-, sent, lost, -⟩ := facts (mem_counted.mp mem).1
        unfold Row.excess
        change 100 * row.asFloat .packetsLost - 100 * row.asFloat .packetsSent < 0
        rw [sent, lost]
        norm_num
      obtain ⟨row, mem⟩ := List.exists_mem_of_ne_nil _ none_
      refine .inr ⟨⟨fun other isOther => le_of_lt (excess isOther), row, mem, excess mem⟩, ?_⟩
      intro other isOther
      rw [(facts (mem_counted.mp isOther).1).2.2.1]
  constructor
  · intro path row mem positive
    rw [(facts mem).1] at positive
    exact absurd positive (lt_irrefl _)
  · intro path
    rcases @healthy cycle' _ _ Row.path path with none_ | ⟨below, lossless⟩
    · exact .inr (.inl none_)
    · exact .inr (.inr ⟨below, .inl lossless⟩)
  · intro batch
    exact .inl noDf
  · intro path
    rcases @healthy cycle' _ _ Row.path path with none_ | ⟨below, lossless⟩
    · exact .inl none_
    · exact .inr (.inr ⟨below, .inl lossless⟩)
  · intro path
    exact .inl fun batch _ => .inr (.inl noDf)

end NetOpsBench
