import NetOpsBench.Pingmesh.Analysis

/-!
# Relative anomalies and absolute health

A loss or MTU anomaly, whatever the baseline, lies on a path that an absolute counter counts
(`anomaly_counted`); an MTU anomaly does so where no batch drops fewer packets than none.
-/

namespace NetOpsBench

/-! ## Where an anomaly comes from -/

section Grouping

variable {κ : Type} [DecidableEq κ] {key : Row → κ} {rows points : List Row} {k : κ}

theorem mem_entries_groupBy :
    (k, points) ∈ (groupBy key rows).entries ↔
      k ∈ rows.map key ∧ Sorting.sorted Row.notAfter (Grouping.group key rows k) = points := by
  rw [Dict.mem_entries, groupBy, Dict.get_mapValues, Grouping.get_grouped]
  by_cases known : k ∈ rows.map key
  · rw [if_pos known]
    exact ⟨fun found => ⟨known, Option.some.inj found⟩, fun both => congrArg some both.2⟩
  · rw [if_neg known]
    exact ⟨fun found => absurd found (Option.some_ne_none _).symm, fun both => absurd both.1 known⟩

theorem key_of_head (mem : (k, points) ∈ (groupBy key rows).entries) {point : Row}
    (head : points.head? = some point) : point ∈ rows ∧ key point = k := by
  obtain ⟨-, rfl⟩ := mem_entries_groupBy.mp mem
  exact Grouping.mem_group.mp (Sorting.mem_sorted.mp (List.mem_of_mem_head? head))

end Grouping

/-- The path of an anomaly. -/
def Anomaly.path (anomaly : Anomaly) : String × String := (anomaly.srcIp, anomaly.dstIp)

variable {thresholds : DetectorThresholds} {baselinePoints currentPoints : List Row}
  {anomaly : Anomaly}

theorem kind_of_latency (found : latencyAnomaly baselinePoints currentPoints = some anomaly) :
    anomaly.kind = .latencySpike ∧ ∃ point, currentPoints.head? = some point ∧
      anomaly.path = point.path := by
  unfold latencyAnomaly at found
  dsimp only at found
  split at found
  · cases found
  · split at found
    · cases found
    · obtain ⟨point, head, rfl⟩ := Option.map_eq_some_iff.mp found
      exact ⟨rfl, point, head, rfl⟩

/-- A loss anomaly is absolute. -/
theorem kind_of_loss
    (found : (thresholds.lossAnomaly baselinePoints currentPoints).1 = some anomaly) :
    (anomaly.kind = .pathUnreachable ∧ DetectorThresholds.absoluteUnreachable currentPoints = true ∨
      anomaly.kind = .packetLoss ∧ thresholds.absoluteLoss currentPoints = true) ∧
      ∃ point, currentPoints.head? = some point ∧ anomaly.path = point.path := by
  unfold DetectorThresholds.lossAnomaly at found
  split at found
  · cases found
  · rename_i current isCurrent
    split at found
    · cases found
    · rename_i positive
      have sends : 0 < current.sent := not_le.mp positive
      split at found
      · cases found
      · rename_i baseline _
        dsimp only at found
        split at found
        · rename_i unreachable
          obtain ⟨point, head, rfl⟩ := Option.map_eq_some_iff.mp found
          refine ⟨.inl ⟨rfl, ?_⟩, point, head, rfl⟩
          unfold DetectorThresholds.absoluteUnreachable
          rw [isCurrent]
          exact decide_eq_true ⟨sends, unreachable⟩
        · rename_i reachable
          split at found
          · rename_i lossy
            obtain ⟨point, head, rfl⟩ := Option.map_eq_some_iff.mp found
            refine ⟨.inr ⟨rfl, ?_⟩, point, head, rfl⟩
            have least : thresholds.lossPctThreshold ≤ thresholds.lossThreshold baseline :=
              le_max_left ..
            unfold DetectorThresholds.absoluteLoss
            rw [isCurrent]
            exact decide_eq_true ⟨fun both => reachable both.2, least.trans lossy.1, lossy.2⟩
          · cases found

/-- An MTU anomaly is absolute, if the batch does not drop fewer packets than none. -/
theorem kind_of_df (found : thresholds.dfAnomaly baselinePoints currentPoints = some anomaly) :
    anomaly.kind = .mtuOrFragmentationSuspect ∧
      (0 ≤ (currentPoints.map fun row => row.asFloat .dfMtuDrops).sum →
        absoluteMtu currentPoints = true) ∧
      ∃ point, currentPoints.head? = some point ∧ anomaly.path = point.path ∧
        anomaly.timestamp = if point.timeText = "" then none else some point.timeText := by
  unfold DetectorThresholds.dfAnomaly at found
  split at found
  · rename_i baselineDf currentDf baselineRtt currentRtt _ isDf _ isRtt
    split at found
    · rename_i suspect
      obtain ⟨point, head, rfl⟩ := Option.map_eq_some_iff.mp found
      refine ⟨rfl, fun natural => ?_, point, head, rfl, rfl⟩
      obtain ⟨⟨sends, -, none_⟩, ⟨enough, all, -⟩, few⟩ := of_decide_eq_true suspect
      have drops : currentDf.mtuDrops = (currentPoints.map fun row => row.asFloat .dfMtuDrops).sum := by
        unfold lossStats at isDf
        dsimp only at isDf
        split at isDf
        · cases isDf
        · rw [← Option.some.inj isDf]
          rfl
      have exact_ : currentDf.mtuDrops = 0 :=
        le_antisymm (not_lt.mp few) (natural.trans_eq drops.symm)
      unfold absoluteMtu
      rw [isRtt, isDf]
      exact decide_eq_true ⟨sends, none_, enough, all, exact_⟩
    · cases found
  · cases found

/-- Every anomaly of the DF test comes from a port batch. -/
theorem mem_addDfAnomaly {baselineBatches : Dict ((String × String) × String) (List Row)}
    (entries : List (((String × String) × String) × List Row)) {path : String × String}
    (found : (entries.foldl (thresholds.addDfAnomaly baselineBatches) .empty).get path =
      some anomaly) :
    ∃ entry ∈ entries, entry.1.1 = path ∧
      thresholds.dfAnomaly ((baselineBatches.get entry.1).getD []) entry.2 = some anomaly := by
  induction entries using List.reverseRecOn with
  | nil => cases found
  | append_singleton entries entry ih =>
      have later (earlier : ∃ entry ∈ entries, entry.1.1 = path ∧
          thresholds.dfAnomaly ((baselineBatches.get entry.1).getD []) entry.2 = some anomaly) :
          ∃ other ∈ entries ++ [entry], other.1.1 = path ∧
            thresholds.dfAnomaly ((baselineBatches.get other.1).getD []) other.2 = some anomaly :=
        earlier.imp fun _ both => ⟨List.mem_append_left _ both.1, both.2⟩
      rw [List.foldl_append, List.foldl_cons, List.foldl_nil] at found
      unfold DetectorThresholds.addDfAnomaly at found
      split at found
      · exact later (ih found)
      · rename_i here
        rw [Dict.get_set] at found
        split at found
        · rename_i same
          obtain rfl := Option.some.inj found
          exact ⟨entry, List.mem_append_right _ (List.mem_singleton_self _), same.symm, here⟩
        · exact later (ih found)

/-! ## The counters -/

/-- A path of the current rows passes an absolute test. -/
def PathCounted (test : List Row → Bool) (currentRows : List Row) (path : String × String) : Prop :=
  ∃ points, (groupByPath currentRows).get path = some points ∧ test points = true

/-- No port batch of a path drops fewer packets than none. -/
def NaturalDrops (lib : PyLibrary) (currentRows : List Row) (path : String × String) : Prop :=
  ∀ entry ∈ (groupByPathPortBatch lib currentRows).entries, entry.1.1 = path →
    0 ≤ (entry.2.map fun row => row.asFloat .dfMtuDrops).sum

/-- The absolute test for the kind of an anomaly. -/
def Anomaly.Counted (anomaly : Anomaly) (lib : PyLibrary) (thresholds : DetectorThresholds)
    (currentRows : List Row) : Prop :=
  match anomaly.kind with
  | .latencySpike => True
  | .pathUnreachable =>
      PathCounted DetectorThresholds.absoluteUnreachable currentRows anomaly.path
  | .packetLoss => PathCounted thresholds.absoluteLoss currentRows anomaly.path
  | .mtuOrFragmentationSuspect =>
      anomaly.path ∈ absoluteMtuPaths (groupByPathPortBatch lib currentRows)

section Analysis

variable (lib : PyLibrary) (thresholds : DetectorThresholds) (baselineRows currentRows : List Row)

theorem mem_anomalies {anomaly : Anomaly} :
    anomaly ∈ (analyzeSnapshotRows lib thresholds baselineRows currentRows).anomalies ↔
      anomaly ∈ detectLatencyFromRows (groupByPath baselineRows) (groupByPath currentRows) ∨
      anomaly ∈ (thresholds.detectLossFromRows (groupByPath baselineRows)
        (groupByPath currentRows)).1 ∨
      anomaly ∈ thresholds.detectDfFromRows (groupByPathPortBatch lib baselineRows)
        (groupByPathPortBatch lib currentRows) := by
  unfold analyzeSnapshotRows
  rw [Sorting.mem_sorted, List.mem_append, List.mem_append, or_assoc]

theorem counted_of_mem {anomaly : Anomaly}
    (mem : anomaly ∈ (analyzeSnapshotRows lib thresholds baselineRows currentRows).anomalies)
    (natural : anomaly.kind = .mtuOrFragmentationSuspect →
      NaturalDrops lib currentRows anomaly.path) :
    anomaly.Counted lib thresholds currentRows := by
  rcases (mem_anomalies lib thresholds baselineRows currentRows).mp mem with latency | loss | df
  · obtain ⟨entry, -, found⟩ := List.mem_filterMap.mp latency
    unfold Anomaly.Counted
    rw [(kind_of_latency found).1]
    trivial
  · obtain ⟨result, isResult, found⟩ := List.mem_filterMap.mp loss
    obtain ⟨⟨path, points⟩, isEntry, rfl⟩ := List.mem_map.mp isResult
    obtain ⟨kinds, point, head, isPath⟩ := kind_of_loss found
    have onPath : anomaly.path = path := isPath.trans (key_of_head isEntry head).2
    have at_ : (groupByPath currentRows).get anomaly.path = some points := by
      rw [onPath]
      exact Dict.mem_entries.mp isEntry
    unfold Anomaly.Counted
    rcases kinds with ⟨isKind, counted⟩ | ⟨isKind, counted⟩
    · rw [isKind]
      exact ⟨points, at_, counted⟩
    · rw [isKind]
      exact ⟨points, at_, counted⟩
  · obtain ⟨path, found⟩ := Dict.mem_values.mp df
    obtain ⟨⟨batch, points⟩, isEntry, -, found⟩ := mem_addDfAnomaly _ found
    obtain ⟨isKind, counted, point, head, isPath, -⟩ := kind_of_df found
    have onPath : batch.1 = anomaly.path :=
      (congrArg Prod.fst (key_of_head isEntry head).2).symm.trans isPath.symm
    unfold Anomaly.Counted
    rw [isKind]
    refine List.mem_dedup.mpr (List.mem_map.mpr ⟨(batch, points), ?_, onPath⟩)
    exact List.mem_filter.mpr ⟨isEntry, counted (natural isKind _ isEntry onPath)⟩

/-- A counter that is zero counts no path. -/
theorem not_pathCounted {test : List Row → Bool}
    (zero : (groupByPath currentRows).values.countP test = 0) (path : String × String) :
    ¬ PathCounted test currentRows path := by
  rintro ⟨points, at_, passes⟩
  exact List.countP_eq_zero.mp zero points (Dict.mem_values.mpr ⟨path, at_⟩) passes

/-- Whatever the baseline, a loss anomaly lies on a path that its absolute counter counts, and so
does an MTU anomaly on a path without negative drops; where the three counters are zero there is
neither. -/
theorem anomalies_counted :
    (∀ anomaly ∈ (analyzeSnapshotRows lib thresholds baselineRows currentRows).anomalies,
      (anomaly.kind = .mtuOrFragmentationSuspect → NaturalDrops lib currentRows anomaly.path) →
      anomaly.Counted lib thresholds currentRows) ∧
    ((analyzeSnapshotRows lib thresholds baselineRows currentRows).quality.absoluteUnreachablePaths
        = 0 →
      (analyzeSnapshotRows lib thresholds baselineRows currentRows).quality.absolutePacketLossPaths
        = 0 →
      (analyzeSnapshotRows lib thresholds baselineRows currentRows).quality.absoluteNetworkMtuPaths
        = 0 →
      ∀ anomaly ∈ (analyzeSnapshotRows lib thresholds baselineRows currentRows).anomalies,
        (anomaly.kind = .mtuOrFragmentationSuspect → NaturalDrops lib currentRows anomaly.path) →
        anomaly.kind = .latencySpike) := by
  refine ⟨fun anomaly mem natural => counted_of_mem _ _ _ _ mem natural, ?_⟩
  intro unreachable loss mtu anomaly mem natural
  have counted := counted_of_mem _ _ _ _ mem natural
  unfold Anomaly.Counted at counted
  cases isKind : anomaly.kind with
  | latencySpike => rfl
  | pathUnreachable =>
      rw [isKind] at counted
      exact absurd counted (not_pathCounted currentRows unreachable _)
  | packetLoss =>
      rw [isKind] at counted
      exact absurd counted (not_pathCounted currentRows loss _)
  | mtuOrFragmentationSuspect =>
      rw [isKind] at counted
      have none_ : absoluteMtuPaths (groupByPathPortBatch lib currentRows) = [] :=
        List.eq_nil_of_length_eq_zero mtu
      rw [none_] at counted
      cases counted

end Analysis

/-! ## A negative drop count -/

/-- A library for port batch 0. -/
def batchZeroLibrary : PyLibrary where
  time _ := .error "unused"
  reprFloat _ := "0.0"

/-- A row of one path with one delivered probe, sixteen DF probes and a drop count. -/
def dfRow (dfLost dfMtuDrops : Rat) : Row where
  time := some "2026-01-01T00:00:00Z"
  srcName := some "client1"
  dstName := some "client2"
  srcIp := some "10.0.0.1"
  dstIp := some "10.0.0.2"
  planId := some "plan"
  field
    | .packetsSent => some (.finite 1)
    | .packetsLost => some (.finite 0)
    | .dfPacketsSent => some (.finite 16)
    | .dfPacketsLost => some (.finite dfLost)
    | .dfMtuDrops => some (.finite dfMtuDrops)
    | .portBatchIndex => some (.finite 0)
    | _ => none

/-- A row that drops fewer packets than none is an MTU anomaly that no counter counts. -/
theorem anomaly_not_counted :
    ((analyzeSnapshotRows batchZeroLibrary {} [dfRow 0 0] [dfRow 16 (-1)]).anomalies.map
      fun anomaly => anomaly.kind) = [.mtuOrFragmentationSuspect] ∧
    (analyzeSnapshotRows batchZeroLibrary {} [dfRow 0 0] [dfRow 16 (-1)]).quality =
      { baselinePathsObserved := 1, currentPathsObserved := 1, notObservedPaths := 0
        insufficientBaselinePaths := 0, absoluteUnreachablePaths := 0
        absolutePacketLossPaths := 0, absoluteNetworkMtuPaths := 0
        localDfMtuDrops := -1, localProbeErrors := 0 } := by
  decide +kernel

end NetOpsBench
