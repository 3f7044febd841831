import Mathlib.Algebra.Order.Field.Rat
import NetOpsBench.Lib.Grouping
import NetOpsBench.Lib.Sorting
import NetOpsBench.Pingmesh.ConfirmedMtu
import NetOpsBench.Pingmesh.Coverage
import NetOpsBench.Pingmesh.Ingestion

/-!
# The analysis of two snapshots

`analyze_snapshot_rows` of `_detector_analysis.py`, over rows whose metrics are finite, as the audit
wants them, and in exact arithmetic. The anomalies are relative to a baseline; the absolute counters
of the quality look at the current rows alone.
-/

namespace NetOpsBench

/-! ## Rows -/

/-- `_as_float(row.get(field))` -/
def Row.asFloat (row : Row) (field : SnapshotField) : Rat :=
  match row.field field with
  | some (.finite value) => value
  | _ => 0

/-- `_field_int`, for a metric that is finite. -/
def Row.asInt (row : Row) (field : SnapshotField) : Option Int :=
  (row.field field).bind Binary64.truncate

/-- `int(value)` -/
def truncateRat (value : Rat) : Int := value.num.tdiv value.den

/-- The addresses of a row. -/
def Row.path (row : Row) : String × String := (row.srcIp.getD "", row.dstIp.getD "")

/-- The addresses and the port batch. -/
def Row.batch (lib : PyLibrary) (row : Row) : (String × String) × String :=
  (row.path, (row.field .portBatchIndex).elim "" lib.reprFloat)

/-- The order by `_time`, or else by `time`. -/
def Row.notAfter (a b : Row) : Bool := decide (a.timeText ≤ b.timeText)

/-- Rows by a key, the rows of a key in the order of their times. -/
def groupBy {κ : Type} [DecidableEq κ] (key : Row → κ) (rows : List Row) : Dict κ (List Row) :=
  (Grouping.grouped key rows).mapValues (Sorting.sorted Row.notAfter)

/-- `_group_by_path` -/
def groupByPath (rows : List Row) : Dict (String × String) (List Row) := groupBy Row.path rows

/-- `_group_by_path_port_batch` -/
def groupByPathPortBatch (lib : PyLibrary) (rows : List Row) :
    Dict ((String × String) × String) (List Row) :=
  groupBy (Row.batch lib) rows

/-! ## Statistics -/

structure LossStats : Type where
  lossPct : Rat
  sent : Rat
  lost : Rat
  samples : Nat
  mtuDrops : Rat
  deriving DecidableEq

/-- The fields of a probe family; `df` is for the prefix `df_`. -/
def sentField (df : Bool) : SnapshotField := if df then .dfPacketsSent else .packetsSent

def lostField (df : Bool) : SnapshotField := if df then .dfPacketsLost else .packetsLost

/-- The rows that have sent probes. -/
def counted (df : Bool) (rows : List Row) : List Row :=
  rows.filter fun row => decide (0 < row.asFloat (sentField df))

/-- `_loss_stats` -/
def lossStats (df : Bool) (rows : List Row) : Option LossStats :=
  let counted := counted df rows
  let mtuDrops := if df then (rows.map fun row => row.asFloat .dfMtuDrops).sum else 0
  if counted = [] then none
  else
    let totalSent := (counted.map fun row => row.asFloat (sentField df)).sum
    let totalLost := (counted.map fun row => row.asFloat (lostField df)).sum
    some
      { lossPct := totalLost / totalSent * 100
        sent := totalSent
        lost := totalLost
        samples := counted.length
        mtuDrops }

/-- `statistics.median` -/
def median (values : List Rat) : Rat :=
  let ordered := Sorting.sorted (fun a b => decide (a ≤ b)) values
  let middle := ordered.length / 2
  if ordered.length % 2 = 1 then ordered.getD middle 0
  else (ordered.getD (middle - 1) 0 + ordered.getD middle 0) / 2

/-! ## Anomalies -/

inductive AnomalyKind : Type where
  | latencySpike
  | pathUnreachable
  | packetLoss
  | mtuOrFragmentationSuspect
  deriving DecidableEq

def AnomalyKind.text : AnomalyKind → String
  | .latencySpike => "latency_spike"
  | .pathUnreachable => "path_unreachable"
  | .packetLoss => "packet_loss"
  | .mtuOrFragmentationSuspect => "mtu_or_fragmentation_suspect"

inductive Severity : Type where
  | high
  | medium
  | low
  deriving DecidableEq

/-- `Anomaly`; without a timestamp it has that of the call. -/
structure Anomaly : Type where
  kind : AnomalyKind
  srcIp : String
  srcName : String
  dstIp : String
  dstName : String
  srcLeaf : String
  dstLeaf : String
  value : Rat
  baseline : Rat
  threshold : Rat
  severity : Severity
  timestamp : Option String
  samplesSent : Int := 0
  samplesLost : Int := 0
  sampleCount : Nat := 0
  deriving DecidableEq

/-- `_MIN_LATENCY_DELTA_MS` -/
def minLatencyDeltaMs : Rat := 20

/-- `_MIN_PATH_LOST_PROBES` -/
def minPathLostProbes : Rat := 3

/-- `_signal_severity` -/
def signalSeverity (kind : AnomalyKind) (value baseline threshold : Rat) : Severity :=
  let increase := max 0 (value - baseline)
  if kind = .latencySpike then
    if 50 ≤ increase then .high else if 10 ≤ increase then .medium else .low
  else if threshold = 0 then .high
  else if 2 < value / threshold then .high
  else if 3 / 2 < value / threshold then .medium
  else .low

/-- `_new_anomaly` -/
def newAnomaly (kind : AnomalyKind) (point : Row) (value baseline threshold : Rat)
    (severity : Severity) (samplesSent samplesLost : Int) (sampleCount : Nat) : Anomaly :=
  { kind
    srcIp := point.srcIp.getD ""
    srcName := point.srcName.getD ""
    dstIp := point.dstIp.getD ""
    dstName := point.dstName.getD ""
    srcLeaf := (point.others.lookup "src_leaf").getD ""
    dstLeaf := (point.others.lookup "dst_leaf").getD ""
    value, baseline, threshold, severity
    timestamp := if point.timeText = "" then none else some point.timeText
    samplesSent, samplesLost, sampleCount }

/-- `item.type, item.src_ip, item.dst_ip` -/
def Anomaly.notAfter (a b : Anomaly) : Bool :=
  decide (a.kind.text < b.kind.text ∨ a.kind.text = b.kind.text ∧
    (a.srcIp < b.srcIp ∨ a.srcIp = b.srcIp ∧ a.dstIp ≤ b.dstIp))

/-- The thresholds of the detector. -/
structure DetectorThresholds : Type where
  lossPctThreshold : Rat := 5
  lossPctDelta : Rat := 5

/-! ## The relative tests -/

/-- `_detect_latency_from_rows`, for one path -/
def latencyAnomaly (baselinePoints currentPoints : List Row) : Option Anomaly :=
  let values := fun points : List Row =>
    (points.map fun row => row.asFloat .rttAvg).filter fun value => decide (0 < value)
  if values currentPoints = [] ∨ values baselinePoints = [] then none
  else
    let baseline := median (values baselinePoints)
    let current := median (values currentPoints)
    let threshold := baseline + minLatencyDeltaMs
    if current < threshold then none
    else
      currentPoints.head?.map fun point =>
        newAnomaly .latencySpike point current baseline threshold
          (signalSeverity .latencySpike current baseline threshold) 0 0
          (values currentPoints).length

namespace DetectorThresholds

variable (thresholds : DetectorThresholds)

/-- `max(self.loss_pct_threshold, baseline["loss_pct"] + self.loss_pct_delta)` -/
def lossThreshold (baseline : LossStats) : Rat :=
  max thresholds.lossPctThreshold (baseline.lossPct + thresholds.lossPctDelta)

/-- `_detect_loss_from_rows`, for one path: its anomaly, and whether it has no baseline -/
def lossAnomaly (baselinePoints currentPoints : List Row) : Option Anomaly × Nat :=
  match lossStats false currentPoints with
  | none => (none, 0)
  | some current =>
      if current.sent ≤ 0 then (none, 0)
      else
        match lossStats false baselinePoints with
        | none => (none, 1)
        | some baseline =>
            let threshold := thresholds.lossThreshold baseline
            let anomaly := fun kind value threshold severity =>
              currentPoints.head?.map fun point =>
                newAnomaly kind point value baseline.lossPct threshold severity
                  (truncateRat current.sent) (truncateRat current.lost) current.samples
            if current.sent ≤ current.lost then (anomaly .pathUnreachable 100 100 .high, 0)
            else if threshold ≤ current.lossPct ∧ minPathLostProbes ≤ current.lost then
              (anomaly .packetLoss current.lossPct threshold
                (signalSeverity .packetLoss current.lossPct baseline.lossPct threshold), 0)
            else (none, 0)

/-- The tests of `_detect_df_from_rows` on one port batch of a path. -/
def dfSuspect (baselineDf currentDf baselineRtt currentRtt : LossStats) : Bool :=
  let rttHealthy := 0 < currentRtt.sent ∧ currentRtt.lossPct < thresholds.lossThreshold baselineRtt ∧
    currentRtt.lost = 0
  let dfLossSignal := (minConfirmedDfProbes : Rat) ≤ currentDf.sent ∧
    currentDf.sent ≤ currentDf.lost ∧ 15 ≤ currentDf.lossPct - baselineDf.lossPct
  decide (rttHealthy ∧ dfLossSignal ∧ ¬ 0 < currentDf.mtuDrops)

/-- `_detect_df_from_rows`, for one port batch of a path -/
def dfAnomaly (baselinePoints currentPoints : List Row) : Option Anomaly :=
  match lossStats true baselinePoints, lossStats true currentPoints,
      lossStats false baselinePoints, lossStats false currentPoints with
  | some baselineDf, some currentDf, some baselineRtt, some currentRtt =>
      if thresholds.dfSuspect baselineDf currentDf baselineRtt currentRtt then
        currentPoints.head?.map fun point =>
          newAnomaly .mtuOrFragmentationSuspect point currentDf.lossPct baselineDf.lossPct
            (max 20 (baselineDf.lossPct + 15)) .high (truncateRat currentDf.sent)
            (truncateRat currentDf.lost) currentDf.samples
      else none
  | _, _, _, _ => none

/-- One turn of the loop of `_detect_df_from_rows`; a later batch of a path replaces an earlier. -/
def addDfAnomaly (baselineBatches : Dict ((String × String) × String) (List Row))
    (anomalies : Dict (String × String) Anomaly)
    (entry : ((String × String) × String) × List Row) : Dict (String × String) Anomaly :=
  match thresholds.dfAnomaly ((baselineBatches.get entry.1).getD []) entry.2 with
  | none => anomalies
  | some anomaly => anomalies.set entry.1.1 anomaly

end DetectorThresholds

/-- `_detect_latency_from_rows` -/
def detectLatencyFromRows (baselinePaths currentPaths : Dict (String × String) (List Row)) :
    List Anomaly :=
  currentPaths.entries.filterMap fun entry =>
    latencyAnomaly ((baselinePaths.get entry.1).getD []) entry.2

namespace DetectorThresholds

variable (thresholds : DetectorThresholds)

/-- `_detect_loss_from_rows` -/
def detectLossFromRows (baselinePaths currentPaths : Dict (String × String) (List Row)) :
    List Anomaly × Nat :=
  let results := currentPaths.entries.map fun entry =>
    thresholds.lossAnomaly ((baselinePaths.get entry.1).getD []) entry.2
  (results.filterMap Prod.fst, (results.map Prod.snd).sum)

/-- `_detect_df_from_rows` -/
def detectDfFromRows
    (baselineBatches currentBatches : Dict ((String × String) × String) (List Row)) :
    List Anomaly :=
  (currentBatches.entries.foldl (thresholds.addDfAnomaly baselineBatches) .empty).values

/-! ## The absolute tests -/

/-- A path of `absolute_unreachable_paths` -/
def absoluteUnreachable (points : List Row) : Bool :=
  (lossStats false points).any fun regular =>
    decide (0 < regular.sent ∧ regular.sent ≤ regular.lost)

/-- A path of `absolute_packet_loss_paths` -/
def absoluteLoss (points : List Row) : Bool :=
  (lossStats false points).any fun regular =>
    decide (¬ (0 < regular.sent ∧ regular.sent ≤ regular.lost) ∧
      thresholds.lossPctThreshold ≤ regular.lossPct ∧ minPathLostProbes ≤ regular.lost)

end DetectorThresholds

/-- A port batch that puts its path into `absolute_mtu_paths` -/
def absoluteMtu (points : List Row) : Bool :=
  (lossStats false points).any fun regular =>
    (lossStats true points).any fun df =>
      decide (0 < regular.sent ∧ regular.lost = 0 ∧ (minConfirmedDfProbes : Rat) ≤ df.sent ∧
        df.sent ≤ df.lost ∧ df.mtuDrops = 0)

/-- `absolute_mtu_paths` -/
def absoluteMtuPaths (currentBatches : Dict ((String × String) × String) (List Row)) :
    List (String × String) :=
  ((currentBatches.entries.filter fun entry => absoluteMtu entry.2).map fun entry =>
    entry.1.1).dedup

/-! ## Local errors -/

/-- `row.get(name) or row.get(ip) or ""` -/
def nameOrIp (name ip : Option String) : String :=
  if tagPresent name then name.getD "" else ip.getD ""

/-- `_socket_batch_key` -/
def Row.socketBatchKey (row : Row) : Option (String × String × Int) :=
  let source := nameOrIp row.srcName row.srcIp
  let destination := nameOrIp row.dstName row.dstIp
  if source = "" ∨ destination = "" then none
  else some (source, destination, (row.asInt .portBatchIndex).getD (-1))

/-- The socket batch for which a row counts, and its lost probes. -/
def Row.regularLoss (row : Row) : Option ((String × String × Int) × Int) :=
  match row.socketBatchKey, row.asInt .packetsSent, row.asInt .packetsLost with
  | some key, some sent, some lost =>
      if 0 < sent ∧ 0 ≤ lost ∧ lost ≤ sent then some (key, lost) else none
  | _, _, _ => none

/-- `_regular_loss_by_socket_batch` -/
def regularLossBySocketBatch (rows : List Row) : Dict (String × String × Int) Int :=
  (rows.filterMap Row.regularLoss).foldl
    (fun losses loss => losses.set loss.1 ((losses.get loss.1).getD 0 + loss.2)) .empty

/-- `is_explained_df_send_error` -/
def isExplainedDfSendError (row : Row) (losses : Dict (String × String × Int) Int) : Bool :=
  match row.asInt .localProbeErrors, row.socketBatchKey with
  | some errors, some key =>
      decide (errors ≠ 0 ∧ row.asInt .dfMtuDrops = some errors ∧ 3 ≤ (losses.get key).getD 0)
  | _, _ => false

/-! ## The analysis -/

structure SnapshotQuality : Type where
  baselinePathsObserved : Nat
  currentPathsObserved : Nat
  notObservedPaths : Nat
  insufficientBaselinePaths : Nat
  absoluteUnreachablePaths : Nat
  absolutePacketLossPaths : Nat
  absoluteNetworkMtuPaths : Nat
  localDfMtuDrops : Int
  localProbeErrors : Int
  deriving DecidableEq

structure SnapshotAnalysis : Type where
  anomalies : List Anomaly
  quality : SnapshotQuality
  deriving DecidableEq

/-- `analyze_snapshot_rows` -/
def analyzeSnapshotRows (lib : PyLibrary) (thresholds : DetectorThresholds)
    (baselineRows currentRows : List Row) : SnapshotAnalysis :=
  let baselinePaths := groupByPath baselineRows
  let currentPaths := groupByPath currentRows
  let baselineBatches := groupByPathPortBatch lib baselineRows
  let currentBatches := groupByPathPortBatch lib currentRows
  let (lossAnomalies, insufficientBaseline) :=
    thresholds.detectLossFromRows baselinePaths currentPaths
  let anomalies := detectLatencyFromRows baselinePaths currentPaths ++ lossAnomalies ++
    thresholds.detectDfFromRows baselineBatches currentBatches
  let losses := regularLossBySocketBatch currentRows
  let unexplained := currentRows.filter fun row => !isExplainedDfSendError row losses
  { anomalies := Sorting.sorted Anomaly.notAfter anomalies
    quality :=
      { baselinePathsObserved := baselinePaths.entries.length
        currentPathsObserved := currentPaths.entries.length
        notObservedPaths := (baselinePaths.keys.filter fun key => decide (key ∉ currentPaths.keys)).length
        insufficientBaselinePaths := insufficientBaseline
        absoluteUnreachablePaths := currentPaths.values.countP DetectorThresholds.absoluteUnreachable
        absolutePacketLossPaths := currentPaths.values.countP thresholds.absoluteLoss
        absoluteNetworkMtuPaths := (absoluteMtuPaths currentBatches).length
        localDfMtuDrops := truncateRat (unexplained.map fun row => row.asFloat .dfMtuDrops).sum
        localProbeErrors :=
          truncateRat (unexplained.map fun row => row.asFloat .localProbeErrors).sum } }

end NetOpsBench
