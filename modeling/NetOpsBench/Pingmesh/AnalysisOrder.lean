import Mathlib.Algebra.BigOperators.Group.List.Basic
import NetOpsBench.Pingmesh.AbsoluteHealth

/-!
# The order of the rows

Where no path has two rows with the same time, the analysis does not see the order of its rows, but
for the DF test: of two suspect port batches of one path it reports the one that it meets last
(`order_immaterial_iff`).
-/

namespace NetOpsBench

/-! ## Groups of permuted rows -/

theorem Row.notAfter_trans (a b c : Row) (first : a.notAfter b = true) (second : b.notAfter c = true) :
    a.notAfter c = true :=
  decide_eq_true (String.le_trans (of_decide_eq_true first) (of_decide_eq_true second))

theorem Row.notAfter_total (a b : Row) : a.notAfter b = true ∨ b.notAfter a = true :=
  (String.le_total a.timeText b.timeText).imp decide_eq_true decide_eq_true

/-- No path has two rows with the same time. -/
def DistinctTimes (rows : List Row) : Prop :=
  ∀ path, ((Grouping.group Row.path rows path).map Row.timeText).Nodup

theorem DistinctTimes.eq {rows : List Row} (distinct : DistinctTimes rows) {a b : Row}
    (isA : a ∈ rows) (isB : b ∈ rows) (path : a.path = b.path) (time : a.timeText = b.timeText) :
    a = b :=
  List.inj_on_of_nodup_map (distinct b.path) (Grouping.mem_group.mpr ⟨isA, path⟩)
    (Grouping.mem_group.mpr ⟨isB, rfl⟩) time

theorem distinctTimes_of_nodup {rows : List Row} (nodup : (rows.map Row.timeText).Nodup) :
    DistinctTimes rows :=
  fun _ => nodup.sublist (List.filter_sublist.map _)

section Groups

variable {κ : Type} [DecidableEq κ] {key : Row → κ} {pathOf : κ → String × String}
  {rows rows' : List Row}

/-- The rows of a key are on one path, so they are sorted into one order. -/
theorem sorted_group_eq (distinct : DistinctTimes rows) (perm : rows'.Perm rows)
    (onPath : ∀ row, pathOf (key row) = row.path) (k : κ) :
    Sorting.sorted Row.notAfter (Grouping.group key rows' k) =
      Sorting.sorted Row.notAfter (Grouping.group key rows k) := by
  apply Sorting.sorted_eq_of_perm (Grouping.group_perm perm k) Row.notAfter_trans
    Row.notAfter_total
  intro a b isA isB first second
  obtain ⟨isA, keyA⟩ := Grouping.mem_group.mp isA
  obtain ⟨isB, keyB⟩ := Grouping.mem_group.mp isB
  apply distinct.eq (perm.mem_iff.mp isA) (perm.mem_iff.mp isB)
  · rw [← onPath, ← onPath, keyA, keyB]
  · exact String.le_antisymm (of_decide_eq_true first) (of_decide_eq_true second)

theorem get_groupBy_eq (distinct : DistinctTimes rows) (perm : rows'.Perm rows)
    (onPath : ∀ row, pathOf (key row) = row.path) (k : κ) :
    (groupBy key rows').get k = (groupBy key rows).get k := by
  apply Option.ext
  intro points
  rw [← Dict.mem_entries, ← Dict.mem_entries, mem_entries_groupBy, mem_entries_groupBy,
    sorted_group_eq distinct perm onPath, (perm.map key).mem_iff]

theorem perm_entries_groupBy (distinct : DistinctTimes rows) (perm : rows'.Perm rows)
    (onPath : ∀ row, pathOf (key row) = row.path) :
    (groupBy key rows').entries.Perm (groupBy key rows).entries := by
  have nodup (rows : List Row) : (groupBy key rows).entries.Nodup :=
    List.Nodup.of_map Prod.fst (groupBy key rows).nodup
  rw [List.perm_ext_iff_of_nodup (nodup _) (nodup _)]
  rintro ⟨k, points⟩
  rw [Dict.mem_entries, Dict.mem_entries, get_groupBy_eq distinct perm onPath]

end Groups

theorem lossStats_perm {rows rows' : List Row} (perm : rows'.Perm rows) (df : Bool) :
    lossStats df rows' = lossStats df rows := by
  have kept : (counted df rows').Perm (counted df rows) := perm.filter _
  have sums {rows rows' : List Row} (perm : rows'.Perm rows) (field : SnapshotField) :
      (rows'.map fun row => row.asFloat field).sum = (rows.map fun row => row.asFloat field).sum :=
    (perm.map _).sum_eq
  have empty : counted df rows' = [] ↔ counted df rows = [] := by
    constructor
    · intro none_
      rw [none_] at kept
      exact List.nil_perm.mp kept
    · intro none_
      rw [none_] at kept
      exact List.perm_nil.mp kept
  unfold lossStats
  dsimp only
  rw [sums perm, sums kept, sums kept, kept.length_eq]
  exact if_congr empty rfl rfl

/-! ## One anomaly of a kind on a path -/

theorem AnomalyKind.text_injective {a b : AnomalyKind} (same : a.text = b.text) : a = b := by
  cases a <;> cases b <;> first | rfl | exact absurd same (by decide +kernel)

theorem Anomaly.notAfter_antisymm {a b : Anomaly} (first : a.notAfter b = true)
    (second : b.notAfter a = true) : a.kind = b.kind ∧ a.path = b.path := by
  obtain ⟨text, first, second⟩ := Sorting.lex_antisymm String.lt_trans String.lt_irrefl
    (of_decide_eq_true first) (of_decide_eq_true second)
  obtain ⟨src, first, second⟩ :=
    Sorting.lex_antisymm String.lt_trans String.lt_irrefl first second
  exact ⟨AnomalyKind.text_injective text, Prod.ext src (String.le_antisymm first second)⟩

theorem Anomaly.notAfter_trans (a b c : Anomaly) (first : a.notAfter b = true)
    (second : b.notAfter c = true) : a.notAfter c = true :=
  decide_eq_true (Sorting.lex_trans String.lt_trans (Sorting.lex_trans String.lt_trans
    String.le_trans) (of_decide_eq_true first) (of_decide_eq_true second))

theorem Anomaly.notAfter_total (a b : Anomaly) : a.notAfter b = true ∨ b.notAfter a = true := by
  have total := Sorting.lex_total (Sorting.string_cases a.kind.text b.kind.text)
    (Sorting.lex_total (Sorting.string_cases a.srcIp b.srcIp) (String.le_total a.dstIp b.dstIp))
  exact total.imp decide_eq_true decide_eq_true

section Unique

variable {lib : PyLibrary} {thresholds : DetectorThresholds} {baselineRows currentRows : List Row}
  {anomaly : Anomaly}

theorem latency_origin
    (mem : anomaly ∈ detectLatencyFromRows (groupByPath baselineRows) (groupByPath currentRows)) :
    anomaly.kind = .latencySpike ∧ ∃ points,
      (groupByPath currentRows).get anomaly.path = some points ∧
      latencyAnomaly (((groupByPath baselineRows).get anomaly.path).getD []) points =
        some anomaly := by
  obtain ⟨⟨path, points⟩, isEntry, found⟩ := List.mem_filterMap.mp mem
  obtain ⟨isKind, point, head, isPath⟩ := kind_of_latency found
  have onPath : anomaly.path = path := isPath.trans (key_of_head isEntry head).2
  rw [onPath]
  exact ⟨isKind, points, Dict.mem_entries.mp isEntry, found⟩

theorem loss_origin
    (mem : anomaly ∈ (thresholds.detectLossFromRows (groupByPath baselineRows)
      (groupByPath currentRows)).1) :
    (anomaly.kind = .pathUnreachable ∨ anomaly.kind = .packetLoss) ∧ ∃ points,
      (groupByPath currentRows).get anomaly.path = some points ∧
      (thresholds.lossAnomaly (((groupByPath baselineRows).get anomaly.path).getD []) points).1 =
        some anomaly := by
  obtain ⟨result, isResult, found⟩ := List.mem_filterMap.mp mem
  obtain ⟨⟨path, points⟩, isEntry, rfl⟩ := List.mem_map.mp isResult
  obtain ⟨kinds, point, head, isPath⟩ := kind_of_loss found
  have onPath : anomaly.path = path := isPath.trans (key_of_head isEntry head).2
  rw [onPath]
  exact ⟨kinds.imp And.left And.left, points, Dict.mem_entries.mp isEntry, found⟩

/-- The DF anomalies by their paths. -/
def dfAnomalies (lib : PyLibrary) (thresholds : DetectorThresholds)
    (baselineRows currentRows : List Row) : Dict (String × String) Anomaly :=
  (groupByPathPortBatch lib currentRows).entries.foldl
    (thresholds.addDfAnomaly (groupByPathPortBatch lib baselineRows)) .empty

theorem df_origin
    (mem : anomaly ∈ thresholds.detectDfFromRows (groupByPathPortBatch lib baselineRows)
      (groupByPathPortBatch lib currentRows)) :
    anomaly.kind = .mtuOrFragmentationSuspect ∧
      (dfAnomalies lib thresholds baselineRows currentRows).get anomaly.path = some anomaly := by
  obtain ⟨path, at_⟩ := Dict.mem_values.mp mem
  obtain ⟨⟨batch, points⟩, isEntry, onPath, found⟩ := mem_addDfAnomaly _ at_
  obtain ⟨isKind, -, point, head, isPath, -⟩ := kind_of_df found
  have same : anomaly.path = path :=
    isPath.trans ((congrArg Prod.fst (key_of_head isEntry head).2).trans onPath)
  rw [same]
  exact ⟨isKind, at_⟩

/-- A path has one anomaly of a kind. -/
theorem anomaly_unique {first second : Anomaly}
    (isFirst : first ∈ (analyzeSnapshotRows lib thresholds baselineRows currentRows).anomalies)
    (isSecond : second ∈ (analyzeSnapshotRows lib thresholds baselineRows currentRows).anomalies)
    (kind : first.kind = second.kind) (path : first.path = second.path) : first = second := by
  rcases (mem_anomalies lib thresholds baselineRows currentRows).mp isFirst with one | one | one
  · obtain ⟨isKind, points, at_, found⟩ := latency_origin one
    rcases (mem_anomalies lib thresholds baselineRows currentRows).mp isSecond with two | two | two
    · obtain ⟨-, points', at', found'⟩ := latency_origin two
      rw [← path, at_] at at'
      obtain rfl := Option.some.inj at'
      exact Option.some.inj (found.symm.trans (path ▸ found'))
    · rcases (loss_origin two).1 with isOther | isOther
      · cases isKind.symm.trans (kind.trans isOther)
      · cases isKind.symm.trans (kind.trans isOther)
    · cases isKind.symm.trans (kind.trans (df_origin two).1)
  · obtain ⟨kinds, points, at_, found⟩ := loss_origin one
    rcases (mem_anomalies lib thresholds baselineRows currentRows).mp isSecond with two | two | two
    · rcases kinds with isKind | isKind
      · cases isKind.symm.trans (kind.trans (latency_origin two).1)
      · cases isKind.symm.trans (kind.trans (latency_origin two).1)
    · obtain ⟨-, points', at', found'⟩ := loss_origin two
      rw [← path, at_] at at'
      obtain rfl := Option.some.inj at'
      exact Option.some.inj (found.symm.trans (path ▸ found'))
    · rcases kinds with isKind | isKind
      · cases isKind.symm.trans (kind.trans (df_origin two).1)
      · cases isKind.symm.trans (kind.trans (df_origin two).1)
  · obtain ⟨isKind, at_⟩ := df_origin one
    rcases (mem_anomalies lib thresholds baselineRows currentRows).mp isSecond with two | two | two
    · cases isKind.symm.trans (kind.trans (latency_origin two).1)
    · rcases (loss_origin two).1 with isOther | isOther
      · cases isKind.symm.trans (kind.trans isOther)
      · cases isKind.symm.trans (kind.trans isOther)
    · obtain ⟨-, at'⟩ := df_origin two
      exact Option.some.inj (at_.symm.trans (path ▸ at'))

end Unique

/-! ## Suspect port batches -/

section Suspects

variable (lib : PyLibrary) (thresholds : DetectorThresholds) (baselineRows currentRows : List Row)

/-- The DF test suspects a port batch. -/
def SuspectBatch (batch : (String × String) × String) : Prop :=
  ∃ baselineDf currentDf baselineRtt currentRtt,
    lossStats true (Grouping.group (Row.batch lib) baselineRows batch) = some baselineDf ∧
    lossStats true (Grouping.group (Row.batch lib) currentRows batch) = some currentDf ∧
    lossStats false (Grouping.group (Row.batch lib) baselineRows batch) = some baselineRtt ∧
    lossStats false (Grouping.group (Row.batch lib) currentRows batch) = some currentRtt ∧
    thresholds.dfSuspect baselineDf currentDf baselineRtt currentRtt = true

/-- No path has two suspect port batches. -/
def OneSuspect : Prop :=
  ∀ first second, SuspectBatch lib thresholds baselineRows currentRows first →
    SuspectBatch lib thresholds baselineRows currentRows second → first.1 = second.1 →
    first = second

/-- The DF test of a port batch. -/
def batchAnomaly (batch : (String × String) × String) (points : List Row) : Option Anomaly :=
  thresholds.dfAnomaly (((groupByPathPortBatch lib baselineRows).get batch).getD []) points

end Suspects

section Order

variable {lib : PyLibrary} {thresholds : DetectorThresholds} {baselineRows currentRows : List Row}

theorem lossStats_get (batch : (String × String) × String) (df : Bool) :
    lossStats df (((groupByPathPortBatch lib baselineRows).get batch).getD []) =
      lossStats df (Grouping.group (Row.batch lib) baselineRows batch) := by
  unfold groupByPathPortBatch groupBy
  rw [Dict.get_mapValues, Grouping.get_grouped]
  by_cases known : batch ∈ baselineRows.map (Row.batch lib)
  · rw [if_pos known]
    exact lossStats_perm (Sorting.sorted_perm ..) df
  · have empty : Grouping.group (Row.batch lib) baselineRows batch = [] :=
      not_not.mp (mt Grouping.group_ne_nil.mp known)
    rw [if_neg known, empty]
    rfl

/-- The batches with an anomaly are the suspect ones. -/
theorem batchAnomaly_isSome {batch : (String × String) × String} {points : List Row}
    (mem : (batch, points) ∈ (groupByPathPortBatch lib currentRows).entries) :
    (∃ anomaly, batchAnomaly lib thresholds baselineRows batch points = some anomaly) ↔
      SuspectBatch lib thresholds baselineRows currentRows batch := by
  obtain ⟨known, isSorted⟩ := mem_entries_groupBy.mp mem
  have stats (df : Bool) : lossStats df points =
      lossStats df (Grouping.group (Row.batch lib) currentRows batch) := by
    rw [← isSorted]
    exact lossStats_perm (Sorting.sorted_perm ..) df
  obtain ⟨point, rest, head⟩ : ∃ point rest, points = point :: rest := by
    apply List.exists_cons_of_ne_nil
    intro none_
    rw [none_] at isSorted
    apply Grouping.group_ne_nil.mpr known
    exact List.nil_perm.mp (isSorted ▸ Sorting.sorted_perm ..)
  unfold batchAnomaly DetectorThresholds.dfAnomaly SuspectBatch
  rw [lossStats_get, lossStats_get, stats, stats]
  constructor
  · rintro ⟨anomaly, found⟩
    split at found
    · rename_i baselineDf currentDf baselineRtt currentRtt first second third fourth
      split at found
      · exact ⟨baselineDf, currentDf, baselineRtt, currentRtt, first, second, third, fourth, ‹_›⟩
      · cases found
    · cases found
  · rintro ⟨baselineDf, currentDf, baselineRtt, currentRtt, first, second, third, fourth, suspect⟩
    rw [first, second, third, fourth]
    dsimp only
    rw [if_pos suspect, head]
    exact ⟨_, rfl⟩

/-- Entries of which no two put an anomaly on one path are all reported. -/
theorem values_foldl_addDfAnomaly
    {baselineBatches : Dict ((String × String) × String) (List Row)}
    {entries : List (((String × String) × String) × List Row)} (nodup : entries.Nodup)
    (apart : ∀ first ∈ entries, ∀ second ∈ entries,
      (∃ anomaly, thresholds.dfAnomaly ((baselineBatches.get first.1).getD []) first.2 =
        some anomaly) →
      (∃ anomaly, thresholds.dfAnomaly ((baselineBatches.get second.1).getD []) second.2 =
        some anomaly) → first.1.1 = second.1.1 → first = second) :
    (entries.foldl (thresholds.addDfAnomaly baselineBatches) .empty).entries =
      entries.filterMap fun entry =>
        (thresholds.dfAnomaly ((baselineBatches.get entry.1).getD []) entry.2).map
          fun anomaly => (entry.1.1, anomaly) := by
  induction entries using List.reverseRecOn with
  | nil => rfl
  | append_singleton entries entry ih =>
      obtain ⟨earlier, -, new⟩ := List.nodup_append'.mp nodup
      have settled := ih earlier fun first isFirst second isSecond =>
        apart first (List.mem_append_left _ isFirst) second (List.mem_append_left _ isSecond)
      rw [List.foldl_append, List.foldl_cons, List.foldl_nil, List.filterMap_append, ← settled]
      unfold DetectorThresholds.addDfAnomaly
      cases here : thresholds.dfAnomaly ((baselineBatches.get entry.1).getD []) entry.2 with
      | none =>
          rw [List.filterMap_cons_none (by rw [here]; rfl)]
          exact (List.append_nil _).symm
      | some anomaly =>
          rw [List.filterMap_cons_some (by rw [here]; rfl)]
          refine Dict.entries_set_new ?_ anomaly
          intro known
          obtain ⟨known, isKnown, samePath⟩ := List.mem_map.mp known
          change known ∈ (entries.foldl (thresholds.addDfAnomaly baselineBatches) .empty).entries
            at isKnown
          rw [settled] at isKnown
          obtain ⟨first, isFirst, found⟩ := List.mem_filterMap.mp isKnown
          obtain ⟨other, isOther, rfl⟩ := Option.map_eq_some_iff.mp found
          have same := apart first (List.mem_append_left _ isFirst) entry
            (List.mem_append_right _ (List.mem_singleton_self _)) ⟨other, isOther⟩
            ⟨anomaly, here⟩ samePath
          rw [same] at isFirst
          exact new isFirst (List.mem_singleton_self _)

/-- With one suspect batch on a path, the DF anomalies are those of the batches. -/
theorem detectDf_eq (one : OneSuspect lib thresholds baselineRows currentRows) :
    thresholds.detectDfFromRows (groupByPathPortBatch lib baselineRows)
        (groupByPathPortBatch lib currentRows) =
      (groupByPathPortBatch lib currentRows).entries.filterMap fun entry =>
        batchAnomaly lib thresholds baselineRows entry.1 entry.2 := by
  unfold DetectorThresholds.detectDfFromRows Dict.values
  rw [values_foldl_addDfAnomaly (List.Nodup.of_map Prod.fst (groupByPathPortBatch lib currentRows).nodup)]
  · rw [List.map_filterMap]
    refine List.filterMap_congr fun entry _ => ?_
    rw [Option.map_map]
    exact congrFun Option.map_id _
  · rintro ⟨first, points⟩ isFirst ⟨second, points'⟩ isSecond someFirst someSecond path
    obtain rfl := one first second ((batchAnomaly_isSome isFirst).mp someFirst)
      ((batchAnomaly_isSome isSecond).mp someSecond) path
    have same := (Dict.mem_entries.mp isFirst).symm.trans (Dict.mem_entries.mp isSecond)
    rw [Option.some.inj same]

theorem SuspectBatch.known {batch : (String × String) × String}
    (suspect : SuspectBatch lib thresholds baselineRows currentRows batch) :
    batch ∈ currentRows.map (Row.batch lib) := by
  obtain ⟨_, _, _, _, _, isDf, _⟩ := suspect
  apply Grouping.group_ne_nil.mp
  intro empty
  rw [empty] at isDf
  cases isDf

variable {baselineRows' currentRows' : List Row}

theorem SuspectBatch.perm (permBaseline : baselineRows'.Perm baselineRows)
    (permCurrent : currentRows'.Perm currentRows) {batch : (String × String) × String} :
    SuspectBatch lib thresholds baselineRows' currentRows' batch ↔
      SuspectBatch lib thresholds baselineRows currentRows batch := by
  unfold SuspectBatch
  simp only [lossStats_perm (Grouping.group_perm permBaseline batch),
    lossStats_perm (Grouping.group_perm permCurrent batch)]

theorem OneSuspect.perm (one : OneSuspect lib thresholds baselineRows currentRows)
    (permBaseline : baselineRows'.Perm baselineRows) (permCurrent : currentRows'.Perm currentRows) :
    OneSuspect lib thresholds baselineRows' currentRows' :=
  fun first second isFirst isSecond => one first second
    ((SuspectBatch.perm permBaseline permCurrent).mp isFirst)
    ((SuspectBatch.perm permBaseline permCurrent).mp isSecond)

end Order

/-! ## The analysis of permuted rows -/

section Permuted

variable {lib : PyLibrary} {thresholds : DetectorThresholds}
  {baselineRows baselineRows' currentRows currentRows' : List Row}

theorem get_paths (distinct : DistinctTimes currentRows) (perm : currentRows'.Perm currentRows)
    (path : String × String) :
    (groupByPath currentRows').get path = (groupByPath currentRows).get path :=
  @get_groupBy_eq _ _ Row.path id currentRows currentRows' distinct perm (fun _ => rfl) path

theorem get_batches (distinct : DistinctTimes currentRows) (perm : currentRows'.Perm currentRows)
    (batch : (String × String) × String) :
    (groupByPathPortBatch lib currentRows').get batch =
      (groupByPathPortBatch lib currentRows).get batch :=
  @get_groupBy_eq _ _ (Row.batch lib) Prod.fst currentRows currentRows' distinct perm
    (fun _ => rfl) batch

theorem perm_paths (distinct : DistinctTimes currentRows) (perm : currentRows'.Perm currentRows) :
    (groupByPath currentRows').entries.Perm (groupByPath currentRows).entries :=
  @perm_entries_groupBy _ _ Row.path id currentRows currentRows' distinct perm fun _ => rfl

theorem perm_batches (distinct : DistinctTimes currentRows) (perm : currentRows'.Perm currentRows) :
    (groupByPathPortBatch lib currentRows').entries.Perm
      (groupByPathPortBatch lib currentRows).entries :=
  @perm_entries_groupBy _ _ (Row.batch lib) Prod.fst currentRows currentRows' distinct perm
    fun _ => rfl

variable (distinctBaseline : DistinctTimes baselineRows) (distinctCurrent : DistinctTimes currentRows)
  (permBaseline : baselineRows'.Perm baselineRows) (permCurrent : currentRows'.Perm currentRows)

include distinctBaseline distinctCurrent permBaseline permCurrent

theorem anomalies_perm (one : OneSuspect lib thresholds baselineRows currentRows) :
    (analyzeSnapshotRows lib thresholds baselineRows' currentRows').anomalies =
      (analyzeSnapshotRows lib thresholds baselineRows currentRows).anomalies := by
  have latency : (detectLatencyFromRows (groupByPath baselineRows') (groupByPath currentRows')).Perm
      (detectLatencyFromRows (groupByPath baselineRows) (groupByPath currentRows)) := by
    unfold detectLatencyFromRows
    simp only [get_paths distinctBaseline permBaseline]
    exact (perm_paths distinctCurrent permCurrent).filterMap _
  have loss : (thresholds.detectLossFromRows (groupByPath baselineRows')
      (groupByPath currentRows')).1.Perm
      (thresholds.detectLossFromRows (groupByPath baselineRows) (groupByPath currentRows)).1 := by
    unfold DetectorThresholds.detectLossFromRows
    simp only [get_paths distinctBaseline permBaseline]
    exact ((perm_paths distinctCurrent permCurrent).map _).filterMap _
  have df : (thresholds.detectDfFromRows (groupByPathPortBatch lib baselineRows')
      (groupByPathPortBatch lib currentRows')).Perm
      (thresholds.detectDfFromRows (groupByPathPortBatch lib baselineRows)
        (groupByPathPortBatch lib currentRows)) := by
    rw [detectDf_eq one, detectDf_eq (one.perm permBaseline permCurrent)]
    unfold batchAnomaly
    simp only [get_batches distinctBaseline permBaseline]
    exact (perm_batches distinctCurrent permCurrent).filterMap _
  have all := (latency.append loss).append df
  refine Sorting.sorted_eq_of_perm all Anomaly.notAfter_trans Anomaly.notAfter_total ?_
  intro first second isFirst isSecond before after
  obtain ⟨kind, path⟩ := Anomaly.notAfter_antisymm before after
  have isFirst : first ∈ (analyzeSnapshotRows lib thresholds baselineRows' currentRows').anomalies :=
    Sorting.mem_sorted.mpr isFirst
  have isSecond : second ∈
      (analyzeSnapshotRows lib thresholds baselineRows' currentRows').anomalies :=
    Sorting.mem_sorted.mpr isSecond
  exact anomaly_unique isFirst isSecond kind path

theorem paths_perm :
    (groupByPath baselineRows').keys.Perm (groupByPath baselineRows).keys ∧
      (groupByPath currentRows').keys.Perm (groupByPath currentRows).keys :=
  ⟨(perm_paths distinctBaseline permBaseline).map Prod.fst,
    (perm_paths distinctCurrent permCurrent).map Prod.fst⟩

end Permuted

/-! ### Local errors -/

theorem get_losses (losses : List ((String × String × Int) × Int)) (key : String × String × Int) :
    ((losses.foldl (fun losses loss => losses.set loss.1 ((losses.get loss.1).getD 0 + loss.2))
      (Dict.empty : Dict (String × String × Int) Int)).get key).getD 0 =
      ((losses.filter fun loss => decide (loss.1 = key)).map Prod.snd).sum := by
  induction losses using List.reverseRecOn with
  | nil => rfl
  | append_singleton losses loss ih =>
      rw [List.foldl_append, List.foldl_cons, List.foldl_nil, Dict.get_set, List.filter_append,
        List.map_append, List.sum_append, List.filter_singleton, ← ih]
      by_cases same : loss.1 = key
      · rw [if_pos same.symm, decide_eq_true same, same]
        change _ + loss.2 = _ + (loss.2 + 0)
        rw [Int.add_zero]
      · rw [if_neg (Ne.symm same), decide_eq_false same]
        exact (Int.add_zero _).symm

/-- Whether a local error is explained does not depend on the order of the rows. -/
theorem isExplained_perm {rows rows' : List Row} (perm : rows'.Perm rows) (row : Row) :
    isExplainedDfSendError row (regularLossBySocketBatch rows') =
      isExplainedDfSendError row (regularLossBySocketBatch rows) := by
  have same (key : String × String × Int) :
      ((regularLossBySocketBatch rows').get key).getD 0 =
        ((regularLossBySocketBatch rows).get key).getD 0 := by
    unfold regularLossBySocketBatch
    rw [get_losses, get_losses]
    exact (((perm.filterMap _).filter _).map _).sum_eq
  unfold isExplainedDfSendError
  simp only [same]

theorem unexplained_perm {rows rows' : List Row} (perm : rows'.Perm rows) (field : SnapshotField) :
    ((rows'.filter fun row => !isExplainedDfSendError row (regularLossBySocketBatch rows')).map
      fun row => row.asFloat field).sum =
      ((rows.filter fun row => !isExplainedDfSendError row (regularLossBySocketBatch rows)).map
        fun row => row.asFloat field).sum := by
  simp only [isExplained_perm perm]
  exact ((perm.filter _).map _).sum_eq

/-! ### The whole analysis -/

section Permuted

variable {lib : PyLibrary} {thresholds : DetectorThresholds}
  {baselineRows baselineRows' currentRows currentRows' : List Row}

theorem quality_perm (distinctBaseline : DistinctTimes baselineRows)
    (distinctCurrent : DistinctTimes currentRows) (permBaseline : baselineRows'.Perm baselineRows)
    (permCurrent : currentRows'.Perm currentRows) :
    (analyzeSnapshotRows lib thresholds baselineRows' currentRows').quality =
      (analyzeSnapshotRows lib thresholds baselineRows currentRows).quality := by
  obtain ⟨baselineKeys, currentKeys⟩ :=
    paths_perm distinctBaseline distinctCurrent permBaseline permCurrent
  have baselineLength : (groupByPath baselineRows').entries.length =
      (groupByPath baselineRows).entries.length :=
    (perm_paths distinctBaseline permBaseline).length_eq
  have entries := perm_paths distinctCurrent permCurrent
  have values : (groupByPath currentRows').values.Perm (groupByPath currentRows).values :=
    entries.map Prod.snd
  have unseen : ((groupByPath baselineRows').keys.filter fun key =>
      decide (key ∉ (groupByPath currentRows').keys)).length =
      ((groupByPath baselineRows).keys.filter fun key =>
        decide (key ∉ (groupByPath currentRows).keys)).length := by
    simp only [currentKeys.mem_iff]
    exact (baselineKeys.filter _).length_eq
  have insufficient : (thresholds.detectLossFromRows (groupByPath baselineRows')
      (groupByPath currentRows')).2 =
      (thresholds.detectLossFromRows (groupByPath baselineRows) (groupByPath currentRows)).2 := by
    unfold DetectorThresholds.detectLossFromRows
    simp only [get_paths distinctBaseline permBaseline]
    exact ((entries.map _).map _).sum_eq
  have mtu : (absoluteMtuPaths (groupByPathPortBatch lib currentRows')).length =
      (absoluteMtuPaths (groupByPathPortBatch lib currentRows)).length := by
    unfold absoluteMtuPaths
    exact (((perm_batches distinctCurrent permCurrent).filter _).map _).dedup.length_eq
  unfold analyzeSnapshotRows
  dsimp only
  rw [baselineLength, entries.length_eq, unseen, insufficient, values.countP_eq, values.countP_eq,
    mtu, unexplained_perm permCurrent, unexplained_perm permCurrent]

theorem analyze_perm (one : OneSuspect lib thresholds baselineRows currentRows)
    (distinctBaseline : DistinctTimes baselineRows) (distinctCurrent : DistinctTimes currentRows)
    (permBaseline : baselineRows'.Perm baselineRows) (permCurrent : currentRows'.Perm currentRows) :
    analyzeSnapshotRows lib thresholds baselineRows' currentRows' =
      analyzeSnapshotRows lib thresholds baselineRows currentRows := by
  have anomalies := anomalies_perm distinctBaseline distinctCurrent permBaseline permCurrent one
  have quality := @quality_perm lib thresholds _ _ _ _ distinctBaseline distinctCurrent permBaseline
    permCurrent
  cases h : analyzeSnapshotRows lib thresholds baselineRows' currentRows'
  cases h' : analyzeSnapshotRows lib thresholds baselineRows currentRows
  rw [h, h'] at anomalies quality
  exact congr (congrArg SnapshotAnalysis.mk anomalies) quality

/-! ## The batch that comes last -/

/-- The rows with those of a port batch put at the end. -/
def batchLast (lib : PyLibrary) (rows : List Row) (batch : (String × String) × String) : List Row :=
  rows.filter (fun row => !decide (row.batch lib = batch)) ++
    Grouping.group (Row.batch lib) rows batch

theorem perm_batchLast (rows : List Row) (batch : (String × String) × String) :
    (batchLast lib rows batch).Perm rows :=
  List.perm_append_comm.trans (List.filter_append_perm ..)

theorem entries_batchLast {rows : List Row} {batch : (String × String) × String}
    (known : batch ∈ rows.map (Row.batch lib)) : ∃ rest,
      (groupByPathPortBatch lib (batchLast lib rows batch)).entries = rest ++
        [(batch, Sorting.sorted Row.notAfter (Grouping.group (Row.batch lib) rows batch))] := by
  unfold batchLast
  change ∃ rest, (Grouping.grouped (Row.batch lib) _).entries.map _ = _
  rw [Grouping.entries_grouped_append, List.map_append]
  · exact ⟨_, rfl⟩
  · intro mem
    obtain ⟨row, isRow, same⟩ := List.mem_map.mp mem
    have other := (List.mem_filter.mp isRow).2
    rw [decide_eq_true same] at other
    cases other
  · exact fun row isRow => (Grouping.mem_group.mp isRow).2
  · exact Grouping.group_ne_nil.mpr known

/-- A suspect batch that comes last is reported. -/
theorem mem_batchLast {batch : (String × String) × String} {anomaly : Anomaly}
    (known : batch ∈ currentRows.map (Row.batch lib))
    (found : batchAnomaly lib thresholds baselineRows batch
      (Sorting.sorted Row.notAfter (Grouping.group (Row.batch lib) currentRows batch)) =
        some anomaly) :
    anomaly ∈ (analyzeSnapshotRows lib thresholds baselineRows
      (batchLast lib currentRows batch)).anomalies := by
  rw [mem_anomalies]
  right
  right
  obtain ⟨rest, entries⟩ := entries_batchLast known
  refine Dict.mem_values.mpr ⟨batch.1, ?_⟩
  rw [entries, List.foldl_append, List.foldl_cons, List.foldl_nil]
  unfold batchAnomaly at found
  unfold DetectorThresholds.addDfAnomaly
  rw [found]
  dsimp only
  rw [Dict.get_set, if_pos rfl]

/-- Two suspect batches of one path are told apart by the time of the anomaly. -/
theorem one_of_analyze_perm (distinct : DistinctTimes currentRows)
    (immaterial : ∀ rows, rows.Perm currentRows →
      analyzeSnapshotRows lib thresholds baselineRows rows =
        analyzeSnapshotRows lib thresholds baselineRows currentRows) :
    OneSuspect lib thresholds baselineRows currentRows := by
  have reported (batch : (String × String) × String)
      (suspect : SuspectBatch lib thresholds baselineRows currentRows batch) :
      ∃ anomaly ∈ (analyzeSnapshotRows lib thresholds baselineRows currentRows).anomalies,
        anomaly.kind = .mtuOrFragmentationSuspect ∧ ∃ point ∈ currentRows,
          point.batch lib = batch ∧ anomaly.path = point.path ∧
          anomaly.timestamp = if point.timeText = "" then none else some point.timeText := by
    have known := suspect.known
    have isEntry : (batch, Sorting.sorted Row.notAfter
        (Grouping.group (Row.batch lib) currentRows batch)) ∈
        (groupByPathPortBatch lib currentRows).entries := mem_entries_groupBy.mpr ⟨known, rfl⟩
    obtain ⟨anomaly, found⟩ := (batchAnomaly_isSome isEntry).mpr suspect
    obtain ⟨isKind, -, point, head, isPath, isTime⟩ := kind_of_df found
    obtain ⟨isRow, isBatch⟩ := key_of_head isEntry head
    refine ⟨anomaly, ?_, isKind, point, isRow, isBatch, isPath, isTime⟩
    rw [← immaterial _ (perm_batchLast currentRows batch)]
    exact mem_batchLast known found
  intro first second isFirst isSecond samePath
  obtain ⟨one, isOne, kind, point, isPoint, rfl, path, time⟩ := reported first isFirst
  obtain ⟨two, isTwo, kind', point', isPoint', rfl, path', time'⟩ := reported second isSecond
  have onPath : point.path = point'.path := samePath
  have same : one = two :=
    anomaly_unique isOne isTwo (kind.trans kind'.symm) (path.trans (onPath.trans path'.symm))
  rw [same, time'] at time
  have sameTime : point.timeText = point'.timeText := by
    by_cases empty : point.timeText = ""
    · rw [if_pos empty] at time
      by_cases empty' : point'.timeText = ""
      · exact empty.trans empty'.symm
      · rw [if_neg empty'] at time
        cases time
    · rw [if_neg empty] at time
      by_cases empty' : point'.timeText = ""
      · rw [if_pos empty'] at time
        cases time
      · rw [if_neg empty'] at time
        exact (Option.some.inj time).symm
  rw [distinct.eq isPoint isPoint' onPath sameTime]

/-- Where no path has two rows with the same time, the analysis does not depend on the order of the
rows exactly if no path has two suspect port batches. -/
theorem order_immaterial_iff (lib : PyLibrary) (thresholds : DetectorThresholds)
    (baselineRows currentRows : List Row) (distinctBaseline : DistinctTimes baselineRows)
    (distinctCurrent : DistinctTimes currentRows) :
    (∀ baselineRows' currentRows', baselineRows'.Perm baselineRows →
      currentRows'.Perm currentRows →
      analyzeSnapshotRows lib thresholds baselineRows' currentRows' =
        analyzeSnapshotRows lib thresholds baselineRows currentRows) ↔
      OneSuspect lib thresholds baselineRows currentRows := by
  constructor
  · intro immaterial
    exact one_of_analyze_perm distinctCurrent fun rows perm => immaterial _ rows (.refl _) perm
  · intro one baselineRows' currentRows' permBaseline permCurrent
    exact analyze_perm one distinctBaseline distinctCurrent permBaseline permCurrent

end Permuted

/-! ## Two suspect batches -/

/-- A library for port batches 0 and 1. -/
def twoBatchLibrary : PyLibrary where
  time _ := .error "unused"
  reprFloat value := if value = .finite 1 then "1.0" else "0.0"

/-- A row of one path with one delivered probe and sixteen DF probes in a port batch. -/
def batchRow (portBatch : Nat) (time : String) (dfLost : Rat) : Row :=
  { dfRow dfLost 0 with
    time := some time
    field := fun field =>
      if field = .portBatchIndex then some (.finite portBatch) else (dfRow dfLost 0).field field }

/-- The rows of a path on which both port batches lose all their DF probes. -/
def twoBatchRows (dfLost : Rat) : List Row :=
  [batchRow 0 "2026-01-01T00:00:00Z" dfLost, batchRow 1 "2026-01-01T00:00:10Z" dfLost]

theorem distinct_twoBatchRows (dfLost : Rat) : DistinctTimes (twoBatchRows dfLost) := by
  apply distinctTimes_of_nodup
  change ["2026-01-01T00:00:00Z", "2026-01-01T00:00:10Z"].Nodup
  decide +kernel

/-- The two batches in the other order give another anomaly. -/
theorem order_material :
    DistinctTimes (twoBatchRows 0) ∧ DistinctTimes (twoBatchRows 16) ∧
      (twoBatchRows 16).reverse.Perm (twoBatchRows 16) ∧
      analyzeSnapshotRows twoBatchLibrary {} (twoBatchRows 0) (twoBatchRows 16).reverse ≠
        analyzeSnapshotRows twoBatchLibrary {} (twoBatchRows 0) (twoBatchRows 16) := by
  refine ⟨distinct_twoBatchRows 0, distinct_twoBatchRows 16, List.reverse_perm _, ?_⟩
  decide +kernel

/-- With one current batch on the path, the order of the baseline does not matter. -/
theorem order_immaterial_single :
    analyzeSnapshotRows twoBatchLibrary {} (twoBatchRows 0).reverse
        [batchRow 0 "2026-01-01T00:00:00Z" 16] =
      analyzeSnapshotRows twoBatchLibrary {} (twoBatchRows 0)
        [batchRow 0 "2026-01-01T00:00:00Z" 16] := by
  have distinct : DistinctTimes [batchRow 0 "2026-01-01T00:00:00Z" 16] :=
    distinctTimes_of_nodup (List.nodup_singleton _)
  apply (order_immaterial_iff twoBatchLibrary {} _ _ (distinct_twoBatchRows 0) distinct).mpr _ _ _
    (List.reverse_perm _) (.refl _)
  intro first second isFirst isSecond _
  rw [List.mem_singleton.mp isFirst.known, List.mem_singleton.mp isSecond.known]

end NetOpsBench
