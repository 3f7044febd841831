import NetOpsBench.Lib.Text
import NetOpsBench.Pingmesh.AnalysisOrder

/-!
# The findings of the windows of a snapshot

`_slice_rows`, `_merge_window_anomalies` and the loop of `generate_windowed_anomaly_report` between
them, of `detector.py`. An anomaly is an object: its number, the fields that are set when it is
made, and an annotation that the merge assigns. A window that holds the whole snapshot shares the
objects of the full analysis.
-/

namespace NetOpsBench

/-! ## Slices -/

/-- A `datetime`; an aware one and a naive one cannot be compared. -/
structure IsoTime : Type where
  instant : Int
  aware : Bool

/-- `a <= b` -/
def IsoTime.notAfter (a b : IsoTime) : Except String Bool :=
  if a.aware = b.aware then pure (decide (a.instant ≤ b.instant))
  else throw "can't compare offset-naive and offset-aware datetimes"

/-- `a < b` -/
def IsoTime.before (a b : IsoTime) : Except String Bool :=
  if a.aware = b.aware then pure (decide (a.instant < b.instant))
  else throw "can't compare offset-naive and offset-aware datetimes"

/-- `datetime.fromisoformat(value.replace("Z", "+00:00"))`; `none` stands for a `ValueError`. -/
abbrev FromIso : Type := String → Option IsoTime

/-- `start <= timestamp < end` for the time of a row, where it has one. -/
def Row.within (fromIso : FromIso) (start stop : IsoTime) (row : Row) : Except String Bool :=
  match row.time.bind Text.nonempty with
  | none => pure false
  | some rawTime =>
      match fromIso rawTime with
      | none => pure false
      | some timestamp => do
          if ← start.notAfter timestamp then timestamp.before stop else pure false

/-- The rows that a test selects. -/
def selectRows (test : Row → Except String Bool) : List Row → Except String (List Row)
  | [] => pure []
  | row :: rows => do
      let keep ← test row
      let selected ← selectRows test rows
      pure (if keep then row :: selected else selected)

/-- `_slice_rows` -/
def sliceRows (fromIso : FromIso) (rows : List Row) (startTime endTime : String) :
    Except String (List Row) :=
  match fromIso startTime, fromIso endTime with
  | some start, some stop => selectRows (Row.within fromIso start stop) rows
  | _, _ => throw "Invalid isoformat string"

/-! ## Merging -/

/-- `_anomaly_family` -/
def AnomalyKind.family (kind : AnomalyKind) : String :=
  if kind = .packetLoss ∨ kind = .pathUnreachable then "loss" else kind.text

/-- `(family, src_ip, dst_ip)` -/
abbrev FindingKey : Type := String × String × String

def Anomaly.findingKey (anomaly : Anomaly) : FindingKey :=
  (anomaly.kind.family, anomaly.srcIp, anomaly.dstIp)

/-- The fields that are assigned after an anomaly is made. -/
structure Annotation : Type where
  windowsObserved : List String := []
  persistence : Option String := none

structure AnomalyObject : Type where
  id : Nat
  finding : Anomaly

/-- The annotations of the objects by their numbers. -/
abbrev Annotations : Type := Nat → Annotation

/-- `full` and `seen_windows` -/
structure WindowMerge : Type where
  full : Dict FindingKey AnomalyObject := .empty
  seen : Dict FindingKey (List String) := .empty

/-- `seen_windows.setdefault(key, set()).add(window)` -/
def addWindow (seen : Dict FindingKey (List String)) (key : FindingKey) (window : String) :
    Dict FindingKey (List String) :=
  seen.set key (((seen.get key).getD []).insert window)

/-- The first loop, for one anomaly. -/
def addFull (merge : WindowMerge) (object : AnomalyObject) : WindowMerge where
  full := merge.full.set object.finding.findingKey object
  seen := addWindow merge.seen object.finding.findingKey "full"

/-- The second loop, for one anomaly. -/
def addSeen (window : String) (merge : WindowMerge) (object : AnomalyObject) : WindowMerge :=
  if object.finding.findingKey ∈ merge.full.keys then
    { merge with seen := addWindow merge.seen object.finding.findingKey window }
  else merge

def persistence (windows : List String) : String :=
  if "early" ∈ windows ∧ "steady" ∈ windows then "persistent"
  else if "early" ∈ windows then "early_only"
  else if "steady" ∈ windows then "steady_only"
  else "full_window"

/-- What the third loop assigns to the anomaly of a key. -/
def annotationOf (seen : Dict FindingKey (List String)) (key : FindingKey) : Annotation :=
  let windows := Topology.sortStrings ((seen.get key).getD [])
  { windowsObserved := windows, persistence := some (persistence windows) }

/-- The first two loops. -/
def gatherWindows (analyses : List (String × List AnomalyObject)) : WindowMerge :=
  let first := (analyses.filter fun analysis => analysis.1 = "full").foldl
    (fun merge analysis => analysis.2.foldl addFull merge) {}
  (analyses.filter fun analysis => analysis.1 ≠ "full").foldl
    (fun merge analysis => analysis.2.foldl (addSeen analysis.1) merge) first

/-- `_merge_window_anomalies`: the anomalies, and the annotations after it. -/
def mergeWindowAnomalies (analyses : List (String × List AnomalyObject))
    (annotations : Annotations) : List AnomalyObject × Annotations :=
  let merge := gatherWindows analyses
  (Sorting.sorted (fun a b => a.finding.notAfter b.finding) merge.full.values,
    merge.full.entries.foldl (fun annotations entry =>
      Function.update annotations entry.2.id (annotationOf merge.seen entry.1)) annotations)

/-! ## The report -/

/-- One of the windows that a report is asked for. -/
structure ReportWindow : Type where
  name : Option String
  startTime : String
  endTime : String

/-- `str(window.get("name") or "window")` -/
def ReportWindow.label (window : ReportWindow) : String :=
  (window.name.bind Text.nonempty).getD "window"

/-- New objects, numbered from the next free number. -/
def makeObjects (next : Nat) (findings : List Anomaly) : List AnomalyObject :=
  (findings.zipIdx next).map fun entry => ⟨entry.2, entry.1⟩

/-- What the loop over the windows has made so far. -/
structure WindowLoop : Type where
  next : Nat
  analyses : List (String × List AnomalyObject)

section Report

variable (lib : PyLibrary) (fromIso : FromIso) (thresholds : DetectorThresholds)
  (baselineRows currentRows : List Row)

/-- One round of the loop over the windows. -/
def analyzeWindow (fullObjects : List AnomalyObject) (loop : WindowLoop) (window : ReportWindow) :
    Except String WindowLoop := do
  let rows ← sliceRows fromIso currentRows window.startTime window.endTime
  if rows.length = currentRows.length then
    pure { loop with analyses := loop.analyses ++ [(window.label, fullObjects)] }
  else
    let findings := (analyzeSnapshotRows lib thresholds baselineRows rows).anomalies
    pure
      { next := loop.next + findings.length
        analyses := loop.analyses ++ [(window.label, makeObjects loop.next findings)] }

/-- The anomalies of `generate_windowed_anomaly_report` with their annotations, once the
snapshots are there. -/
def windowedAnomalies (windows : List ReportWindow) : Except String (List (Anomaly × Annotation)) := do
  let findings := (analyzeSnapshotRows lib thresholds baselineRows currentRows).anomalies
  let fullObjects := makeObjects 0 findings
  let loop ← windows.foldlM
    (analyzeWindow lib fromIso thresholds baselineRows currentRows fullObjects)
    { next := findings.length, analyses := [("full", fullObjects)] }
  let (merged, annotations) := mergeWindowAnomalies loop.analyses fun _ => {}
  pure (merged.map fun object => (object.finding, annotations object.id))

end Report

/-! ## One finding of a family on a path -/

section Unique

variable {lib : PyLibrary} {thresholds : DetectorThresholds} {baselineRows currentRows : List Row}

/-- What is made of entries of distinct keys, and carries their keys, is distinct. -/
theorem nodup_filterMap_key {ι κ α : Type} {f : ι → Option α} {key : α → κ} {entryKey : ι → κ}
    {entries : List ι} (nodup : (entries.map entryKey).Nodup)
    (same : ∀ entry ∈ entries, ∀ a, f entry = some a → key a = entryKey entry) :
    ((entries.filterMap f).map key).Nodup := by
  have sub : ((entries.filterMap f).map key).Sublist (entries.map entryKey) := by
    clear nodup
    induction entries with
    | nil => exact .refl _
    | cons entry entries ih =>
        have rest := ih fun later mem => same later (List.mem_cons_of_mem _ mem)
        cases made : f entry with
        | none =>
            rw [List.filterMap_cons_none made, List.map_cons]
            exact rest.cons _
        | some a =>
            rw [List.filterMap_cons_some made, List.map_cons, List.map_cons,
              same entry (List.mem_cons_self ..) a made]
            exact rest.cons_cons _
  exact nodup.sublist sub

theorem nodup_latency_paths :
    ((detectLatencyFromRows (groupByPath baselineRows) (groupByPath currentRows)).map
      Anomaly.path).Nodup := by
  refine nodup_filterMap_key (groupByPath currentRows).nodup ?_
  intro entry isEntry anomaly found
  obtain ⟨-, point, head, isPath⟩ := kind_of_latency found
  exact isPath.trans (key_of_head isEntry head).2

theorem nodup_loss_paths :
    ((thresholds.detectLossFromRows (groupByPath baselineRows)
      (groupByPath currentRows)).1.map Anomaly.path).Nodup := by
  unfold DetectorThresholds.detectLossFromRows
  dsimp only
  rw [List.filterMap_map]
  refine nodup_filterMap_key (groupByPath currentRows).nodup ?_
  intro entry isEntry anomaly found
  obtain ⟨-, point, head, isPath⟩ := kind_of_loss found
  exact isPath.trans (key_of_head isEntry head).2

theorem nodup_df_paths :
    ((thresholds.detectDfFromRows (groupByPathPortBatch lib baselineRows)
      (groupByPathPortBatch lib currentRows)).map Anomaly.path).Nodup := by
  change ((dfAnomalies lib thresholds baselineRows currentRows).values.map Anomaly.path).Nodup
  have keys : (dfAnomalies lib thresholds baselineRows currentRows).values.map Anomaly.path =
      (dfAnomalies lib thresholds baselineRows currentRows).keys := by
    unfold Dict.values Dict.keys
    rw [List.map_map]
    apply List.map_congr_left
    intro entry mem
    have at_ := Dict.mem_entries.mp mem
    obtain ⟨⟨batch, points⟩, isEntry, onPath, found⟩ := mem_addDfAnomaly _ at_
    obtain ⟨-, -, point, head, isPath, -⟩ := kind_of_df found
    exact isPath.trans ((congrArg Prod.fst (key_of_head isEntry head).2).trans onPath)
  rw [keys]
  exact (dfAnomalies lib thresholds baselineRows currentRows).nodup

theorem nodup_findingKey {anomalies : List Anomaly} (nodup : (anomalies.map Anomaly.path).Nodup) :
    (anomalies.map Anomaly.findingKey).Nodup := by
  apply List.Nodup.of_map Prod.snd
  rw [List.map_map]
  exact nodup

/-- The full analysis has one anomaly of a family on a path. -/
theorem findingKeys_nodup :
    ((analyzeSnapshotRows lib thresholds baselineRows currentRows).anomalies.map
      Anomaly.findingKey).Nodup := by
  set latency := detectLatencyFromRows (groupByPath baselineRows) (groupByPath currentRows)
    with latencyEq
  set loss := (thresholds.detectLossFromRows (groupByPath baselineRows)
    (groupByPath currentRows)).1 with lossEq
  set df := thresholds.detectDfFromRows (groupByPathPortBatch lib baselineRows)
    (groupByPathPortBatch lib currentRows) with dfEq
  have perm : (analyzeSnapshotRows lib thresholds baselineRows currentRows).anomalies.Perm
      (latency ++ loss ++ df) := Sorting.sorted_perm _ _
  have latencyFamily : ∀ key ∈ latency.map Anomaly.findingKey, key.1 = "latency_spike" := by
    intro key mem
    obtain ⟨anomaly, made, rfl⟩ := List.mem_map.mp mem
    exact congrArg AnomalyKind.family (latency_origin made).1
  have lossFamily : ∀ key ∈ loss.map Anomaly.findingKey, key.1 = "loss" := by
    intro key mem
    obtain ⟨anomaly, made, rfl⟩ := List.mem_map.mp mem
    rcases (loss_origin made).1 with kind | kind
    · exact congrArg AnomalyKind.family kind
    · exact congrArg AnomalyKind.family kind
  have dfFamily : ∀ key ∈ df.map Anomaly.findingKey, key.1 = "mtu_or_fragmentation_suspect" := by
    intro key mem
    obtain ⟨anomaly, made, rfl⟩ := List.mem_map.mp mem
    exact congrArg AnomalyKind.family (df_origin made).1
  rw [(perm.map _).nodup_iff, List.map_append, List.map_append, List.nodup_append',
    List.nodup_append']
  refine ⟨⟨nodup_findingKey nodup_latency_paths, nodup_findingKey nodup_loss_paths, ?_⟩,
    nodup_findingKey nodup_df_paths, ?_⟩
  · intro key first second
    have families := (latencyFamily key first).symm.trans (lossFamily key second)
    exact absurd families (by decide)
  · intro key first second
    rcases List.mem_append.mp first with first | first
    · have families := (latencyFamily key first).symm.trans (dfFamily key second)
      exact absurd families (by decide)
    · have families := (lossFamily key first).symm.trans (dfFamily key second)
      exact absurd families (by decide)

end Unique

/-! ## What the loops gather -/

/-- A window is recorded for a key. -/
def Seen (seen : Dict FindingKey (List String)) (key : FindingKey) (window : String) : Prop :=
  window ∈ (seen.get key).getD []

theorem seen_addWindow {seen : Dict FindingKey (List String)} {key key' : FindingKey}
    {window window' : String} :
    Seen (addWindow seen key window) key' window' ↔
      Seen seen key' window' ∨ key' = key ∧ window' = window := by
  unfold Seen addWindow
  rw [Dict.get_set]
  by_cases same : key' = key
  · subst same
    rw [if_pos rfl, Option.getD_some, List.mem_insert_iff]
    constructor
    · rintro (here | earlier)
      · exact .inr ⟨rfl, here⟩
      · exact .inl earlier
    · rintro (earlier | ⟨-, here⟩)
      · exact .inr earlier
      · exact .inl here
  · rw [if_neg same]
    exact ⟨.inl, fun either => either.resolve_right fun here => same here.1⟩

/-- After the first loop over objects of distinct keys, `full` has each under its key. -/
theorem foldl_addFull {objects : List AnomalyObject}
    (nodup : (objects.map (·.finding.findingKey)).Nodup) :
    (objects.foldl addFull {}).full.entries =
        objects.map (fun object => (object.finding.findingKey, object)) ∧
      ∀ key window, Seen (objects.foldl addFull {}).seen key window ↔
        key ∈ objects.map (·.finding.findingKey) ∧ window = "full" := by
  induction objects using List.reverseRecOn with
  | nil =>
      refine ⟨rfl, fun key window => ?_⟩
      exact ⟨fun absent => absurd absent List.not_mem_nil, fun absent => absurd absent.1 List.not_mem_nil⟩
  | append_singleton objects object ih =>
      rw [List.map_append, List.map_singleton] at nodup
      obtain ⟨earlier, -, fresh⟩ := List.nodup_append'.mp nodup
      obtain ⟨entries, seen⟩ := ih earlier
      rw [List.foldl_append]
      constructor
      · have absent : object.finding.findingKey ∉ (objects.foldl addFull {}).full.keys := by
          unfold Dict.keys
          rw [entries, List.map_map]
          intro known
          exact fresh known (List.mem_singleton_self _)
        refine (Dict.entries_set_new absent object).trans ?_
        rw [entries, List.map_append]
        rfl
      · intro key window
        refine seen_addWindow.trans ?_
        rw [seen, List.map_append, List.mem_append, List.map_singleton, List.mem_singleton]
        constructor
        · rintro (⟨known, isFull⟩ | ⟨isKey, isFull⟩)
          · exact ⟨.inl known, isFull⟩
          · exact ⟨.inr isKey, isFull⟩
        · rintro ⟨known | isKey, isFull⟩
          · exact .inl ⟨known, isFull⟩
          · exact .inr ⟨isKey, isFull⟩

theorem addSeen_full (window : String) (merge : WindowMerge) (object : AnomalyObject) :
    (addSeen window merge object).full = merge.full := by
  unfold addSeen
  split <;> rfl

theorem seen_addSeen {window : String} {merge : WindowMerge} {object : AnomalyObject}
    {key : FindingKey} (known : key ∈ merge.full.keys) {window' : String} :
    Seen (addSeen window merge object).seen key window' ↔
      Seen merge.seen key window' ∨ key = object.finding.findingKey ∧ window' = window := by
  unfold addSeen
  split
  · exact seen_addWindow
  · rename_i unknown
    exact ⟨.inl, fun either => either.resolve_right fun here => unknown (here.1 ▸ known)⟩

/-- The second loop over one analysis records its window for the keys it has an anomaly of. -/
theorem foldl_addSeen (window : String) (objects : List AnomalyObject) (merge : WindowMerge) :
    (objects.foldl (addSeen window) merge).full = merge.full ∧
      ∀ key ∈ merge.full.keys, ∀ window',
        Seen (objects.foldl (addSeen window) merge).seen key window' ↔
          Seen merge.seen key window' ∨
            window' = window ∧ key ∈ objects.map (·.finding.findingKey) := by
  induction objects generalizing merge with
  | nil =>
      refine ⟨rfl, fun key _ window' => ?_⟩
      exact ⟨.inl, fun either => either.resolve_right fun absent => absurd absent.2 List.not_mem_nil⟩
  | cons object objects ih =>
      obtain ⟨full, seen⟩ := ih (addSeen window merge object)
      rw [addSeen_full] at full seen
      refine ⟨full, fun key known window' => ?_⟩
      rw [List.foldl_cons, seen key known, seen_addSeen known, List.map_cons, List.mem_cons]
      constructor
      · rintro ((earlier | ⟨isKey, isWindow⟩) | ⟨isWindow, later⟩)
        · exact .inl earlier
        · exact .inr ⟨isWindow, .inl isKey⟩
        · exact .inr ⟨isWindow, .inr later⟩
      · rintro (earlier | ⟨isWindow, isKey | later⟩)
        · exact .inl (.inl earlier)
        · exact .inl (.inr ⟨isKey, isWindow⟩)
        · exact .inr ⟨isWindow, later⟩

theorem foldl_analyses (analyses : List (String × List AnomalyObject)) (merge : WindowMerge) :
    (analyses.foldl (fun merge analysis => analysis.2.foldl (addSeen analysis.1) merge)
        merge).full = merge.full ∧
      ∀ key ∈ merge.full.keys, ∀ window',
        Seen (analyses.foldl (fun merge analysis => analysis.2.foldl (addSeen analysis.1) merge)
            merge).seen key window' ↔
          Seen merge.seen key window' ∨ ∃ analysis ∈ analyses,
            window' = analysis.1 ∧ key ∈ analysis.2.map (·.finding.findingKey) := by
  induction analyses generalizing merge with
  | nil =>
      refine ⟨rfl, fun key _ window' => ?_⟩
      constructor
      · exact .inl
      · rintro (earlier | ⟨analysis, absent, -⟩)
        · exact earlier
        · exact absurd absent List.not_mem_nil
  | cons analysis analyses ih =>
      obtain ⟨own, ownSeen⟩ := foldl_addSeen analysis.1 analysis.2 merge
      obtain ⟨full, seen⟩ := ih (analysis.2.foldl (addSeen analysis.1) merge)
      rw [own] at full seen
      refine ⟨full, fun key known window' => ?_⟩
      rw [List.foldl_cons, seen key known, ownSeen key known]
      constructor
      · rintro ((earlier | here) | ⟨later, mem, found⟩)
        · exact .inl earlier
        · exact .inr ⟨analysis, List.mem_cons_self .., here⟩
        · exact .inr ⟨later, List.mem_cons_of_mem _ mem, found⟩
      · rintro (earlier | ⟨found, mem, here⟩)
        · exact .inl (.inl earlier)
        · rcases List.mem_cons.mp mem with rfl | later
          · exact .inl (.inr here)
          · exact .inr ⟨found, later, here⟩

section Merge

variable {objects : List AnomalyObject} {others : List (String × List AnomalyObject)}

/-- The two loops over the full analysis and the analyses of other windows. -/
theorem gatherWindows_spec (nodup : (objects.map (·.finding.findingKey)).Nodup)
    (named : ∀ analysis ∈ others, analysis.1 ≠ "full") :
    (gatherWindows (("full", objects) :: others)).full.entries =
        objects.map (fun object => (object.finding.findingKey, object)) ∧
      ∀ key ∈ objects.map (·.finding.findingKey), ∀ window,
        Seen (gatherWindows (("full", objects) :: others)).seen key window ↔
          window = "full" ∨ ∃ analysis ∈ others,
            window = analysis.1 ∧ key ∈ analysis.2.map (·.finding.findingKey) := by
  have first : (("full", objects) :: others).filter (fun analysis => analysis.1 = "full") =
      [("full", objects)] := by
    rw [List.filter_cons_of_pos (by simp), List.filter_eq_nil_iff.mpr]
    intro analysis mem
    simpa using named analysis mem
  have rest : (("full", objects) :: others).filter (fun analysis => analysis.1 ≠ "full") =
      others := by
    rw [List.filter_cons_of_neg (by simp), List.filter_eq_self]
    intro analysis mem
    simpa using named analysis mem
  unfold gatherWindows
  rw [first, rest]
  obtain ⟨entries, fullSeen⟩ := foldl_addFull nodup
  obtain ⟨kept, seen⟩ := foldl_analyses others (objects.foldl addFull {})
  refine ⟨(congrArg Dict.entries kept).trans entries, fun key known window => ?_⟩
  have isKey : key ∈ (objects.foldl addFull {}).full.keys := by
    unfold Dict.keys
    rw [entries, List.map_map]
    exact known
  refine (seen key isKey window).trans ?_
  rw [fullSeen]
  constructor
  · rintro (⟨-, isFull⟩ | found)
    · exact .inl isFull
    · exact .inr found
  · rintro (isFull | found)
    · exact .inl ⟨known, isFull⟩
    · exact .inr found

/-- Of assignments to distinct places, each is in force at the end. -/
theorem foldl_update {ι β : Type} {place : ι → Nat} {value : ι → β} {entries : List ι}
    (nodup : (entries.map place).Nodup) (store : Nat → β) {entry : ι} (mem : entry ∈ entries) :
    entries.foldl (fun store entry => Function.update store (place entry) (value entry)) store
      (place entry) = value entry := by
  induction entries using List.reverseRecOn with
  | nil => cases mem
  | append_singleton entries last ih =>
      rw [List.map_append, List.map_singleton] at nodup
      obtain ⟨earlier, -, fresh⟩ := List.nodup_append'.mp nodup
      rw [List.foldl_append, List.foldl_cons, List.foldl_nil]
      rcases List.mem_append.mp mem with before | here
      · have differs : place entry ≠ place last := by
          intro same
          exact fresh (List.mem_map_of_mem before) (same ▸ List.mem_singleton_self _)
        rw [Function.update_of_ne differs]
        exact ih earlier before
      · rw [List.mem_singleton.mp here, Function.update_self]

/-- The merge returns the objects of the full analysis and annotates each with its windows. -/
theorem mergeWindowAnomalies_spec (nodup : (objects.map (·.finding.findingKey)).Nodup)
    (ids : (objects.map AnomalyObject.id).Nodup)
    (ordered : objects.Pairwise fun a b => a.finding.notAfter b.finding = true)
    (named : ∀ analysis ∈ others, analysis.1 ≠ "full") (annotations : Annotations) :
    (mergeWindowAnomalies (("full", objects) :: others) annotations).1 = objects ∧
      ∀ object ∈ objects,
        (mergeWindowAnomalies (("full", objects) :: others) annotations).2 object.id =
          annotationOf (gatherWindows (("full", objects) :: others)).seen
            object.finding.findingKey := by
  obtain ⟨entries, -⟩ := gatherWindows_spec nodup named
  unfold mergeWindowAnomalies
  dsimp only
  constructor
  · have values : (gatherWindows (("full", objects) :: others)).full.values = objects := by
      unfold Dict.values
      rw [entries, List.map_map]
      exact List.map_id _
    rw [values]
    exact ordered.insertionSort_eq
  · intro object mem
    rw [entries, List.foldl_map]
    exact foldl_update ids annotations mem

end Merge

/-! ## The loop over the windows -/

theorem selectRows_sublist {test : Row → Except String Bool} {rows selected : List Row}
    (done : selectRows test rows = .ok selected) : selected.Sublist rows := by
  induction rows generalizing selected with
  | nil =>
      cases done
      exact .refl _
  | cons row rows ih =>
      unfold selectRows at done
      obtain ⟨keep, -, done⟩ := Fallible.bind_eq_ok.mp done
      obtain ⟨rest, later, done⟩ := Fallible.bind_eq_ok.mp done
      rw [← Except.ok.inj done]
      split
      · exact (ih later).cons_cons _
      · exact (ih later).cons _

/-- A slice as long as the snapshot is the snapshot. -/
theorem sliceRows_whole {fromIso : FromIso} {rows selected : List Row} {startTime endTime : String}
    (done : sliceRows fromIso rows startTime endTime = .ok selected)
    (whole : selected.length = rows.length) : selected = rows := by
  unfold sliceRows at done
  split at done
  · exact (selectRows_sublist done).eq_of_length whole
  · cases done

theorem map_finding_makeObjects (next : Nat) (findings : List Anomaly) :
    (makeObjects next findings).map AnomalyObject.finding = findings := by
  unfold makeObjects
  rw [List.map_map]
  exact List.zipIdx_map_fst next findings

theorem map_id_makeObjects (next : Nat) (findings : List Anomaly) :
    (makeObjects next findings).map AnomalyObject.id = List.range' next findings.length := by
  unfold makeObjects
  rw [List.map_map]
  exact List.zipIdx_map_snd next findings

section Loop

variable {lib : PyLibrary} {fromIso : FromIso} {thresholds : DetectorThresholds}
  {baselineRows currentRows : List Row}

/-- The analysis that the loop made for a window: that of its rows, under its name. -/
def AnalysisOf (lib : PyLibrary) (fromIso : FromIso) (thresholds : DetectorThresholds)
    (baselineRows currentRows : List Row) (window : ReportWindow)
    (analysis : String × List AnomalyObject) : Prop :=
  analysis.1 = window.label ∧ ∃ rows,
    sliceRows fromIso currentRows window.startTime window.endTime = .ok rows ∧
    analysis.2.map AnomalyObject.finding =
      (analyzeSnapshotRows lib thresholds baselineRows rows).anomalies

theorem analyzeWindow_spec {fullObjects : List AnomalyObject} {loop next : WindowLoop}
    {window : ReportWindow}
    (full : fullObjects.map AnomalyObject.finding =
      (analyzeSnapshotRows lib thresholds baselineRows currentRows).anomalies)
    (done : analyzeWindow lib fromIso thresholds baselineRows currentRows fullObjects loop window =
      .ok next) :
    ∃ analysis, next.analyses = loop.analyses ++ [analysis] ∧
      AnalysisOf lib fromIso thresholds baselineRows currentRows window analysis := by
  unfold analyzeWindow at done
  obtain ⟨rows, sliced, done⟩ := Fallible.bind_eq_ok.mp done
  split at done
  · rename_i whole
    rw [← Except.ok.inj done]
    refine ⟨(window.label, fullObjects), rfl, rfl, rows, sliced, ?_⟩
    rw [full, sliceRows_whole sliced whole]
  · rw [← Except.ok.inj done]
    exact ⟨_, rfl, rfl, rows, sliced, map_finding_makeObjects _ _⟩

/-- The loop makes one analysis for each window. -/
theorem foldlM_analyzeWindow {fullObjects : List AnomalyObject} {windows : List ReportWindow}
    {loop last : WindowLoop}
    (full : fullObjects.map AnomalyObject.finding =
      (analyzeSnapshotRows lib thresholds baselineRows currentRows).anomalies)
    (done : windows.foldlM
      (analyzeWindow lib fromIso thresholds baselineRows currentRows fullObjects) loop = .ok last) :
    ∃ others, last.analyses = loop.analyses ++ others ∧
      List.Forall₂ (AnalysisOf lib fromIso thresholds baselineRows currentRows) windows others := by
  induction windows generalizing loop with
  | nil =>
      rw [← Except.ok.inj done]
      exact ⟨[], (List.append_nil _).symm, .nil⟩
  | cons window windows ih =>
      rw [List.foldlM_cons] at done
      obtain ⟨next, first, done⟩ := Fallible.bind_eq_ok.mp done
      obtain ⟨analysis, made, isOf⟩ := analyzeWindow_spec full first
      obtain ⟨others, eq, all⟩ := ih done
      refine ⟨analysis :: others, ?_, .cons isOf all⟩
      rw [eq, made, List.append_assoc]
      rfl

/-- The loop ends where the rows of every window can be selected. -/
theorem foldlM_analyzeWindow_ok {fullObjects : List AnomalyObject} {windows : List ReportWindow}
    (sliced : ∀ window ∈ windows, ∃ rows,
      sliceRows fromIso currentRows window.startTime window.endTime = .ok rows)
    (loop : WindowLoop) :
    ∃ last, windows.foldlM
      (analyzeWindow lib fromIso thresholds baselineRows currentRows fullObjects) loop =
        .ok last := by
  induction windows generalizing loop with
  | nil => exact ⟨loop, rfl⟩
  | cons window windows ih =>
      obtain ⟨rows, first⟩ := sliced window (List.mem_cons_self ..)
      have turn : ∃ next, analyzeWindow lib fromIso thresholds baselineRows currentRows
          fullObjects loop window = .ok next := by
        unfold analyzeWindow
        rw [first]
        change ∃ next, (if rows.length = currentRows.length then _ else _) = _
        split
        · exact ⟨_, rfl⟩
        · exact ⟨_, rfl⟩
      obtain ⟨next, turned⟩ := turn
      obtain ⟨last, rest⟩ := ih (fun later mem => sliced later (List.mem_cons_of_mem _ mem)) next
      refine ⟨last, ?_⟩
      rw [List.foldlM_cons, turned]
      exact rest

/-- A window's own analysis has an anomaly of a family on a path. -/
def ReportWindow.Finds (lib : PyLibrary) (fromIso : FromIso) (thresholds : DetectorThresholds)
    (baselineRows currentRows : List Row) (window : ReportWindow) (key : FindingKey) : Prop :=
  ∃ rows, sliceRows fromIso currentRows window.startTime window.endTime = .ok rows ∧
    ∃ anomaly ∈ (analyzeSnapshotRows lib thresholds baselineRows rows).anomalies,
      anomaly.findingKey = key

/-- Of two lists related entry by entry, each entry of either has one that it is related to. -/
theorem forall₂_exists {ι κ : Type} {related : ι → κ → Prop} {left : List ι} {right : List κ}
    (all : List.Forall₂ related left right) :
    (∀ a ∈ left, ∃ b ∈ right, related a b) ∧ ∀ b ∈ right, ∃ a ∈ left, related a b := by
  induction all with
  | nil =>
      constructor
      · intro a absent
        cases absent
      · intro b absent
        cases absent
  | @cons a b left right here rest ih =>
      obtain ⟨forward, backward⟩ := ih
      constructor
      · intro other mem
        rcases List.mem_cons.mp mem with rfl | later
        · exact ⟨b, List.mem_cons_self .., here⟩
        · obtain ⟨found, isLater, isRelated⟩ := forward other later
          exact ⟨found, List.mem_cons_of_mem _ isLater, isRelated⟩
      · intro other mem
        rcases List.mem_cons.mp mem with rfl | later
        · exact ⟨a, List.mem_cons_self .., here⟩
        · obtain ⟨found, isLater, isRelated⟩ := backward other later
          exact ⟨found, List.mem_cons_of_mem _ isLater, isRelated⟩

/-- The windows whose analyses have a key are those that find it. -/
theorem finds_iff {windows : List ReportWindow} {others : List (String × List AnomalyObject)}
    (all : List.Forall₂ (AnalysisOf lib fromIso thresholds baselineRows currentRows) windows others)
    (key : FindingKey) (name : String) :
    (∃ analysis ∈ others, name = analysis.1 ∧ key ∈ analysis.2.map (·.finding.findingKey)) ↔
      ∃ window ∈ windows, name = window.label ∧
        window.Finds lib fromIso thresholds baselineRows currentRows key := by
  constructor
  · rintro ⟨analysis, mem, rfl, has⟩
    obtain ⟨window, isWindow, label, rows, sliced, same⟩ := (forall₂_exists all).2 analysis mem
    obtain ⟨object, isObject, isKey⟩ := List.mem_map.mp has
    refine ⟨window, isWindow, label, rows, sliced, object.finding, ?_, isKey⟩
    rw [← same]
    exact List.mem_map_of_mem isObject
  · rintro ⟨window, isWindow, rfl, rows, sliced, anomaly, found, isKey⟩
    obtain ⟨analysis, mem, label, rows', sliced', same⟩ := (forall₂_exists all).1 window isWindow
    cases sliced.symm.trans sliced'
    rw [← same] at found
    obtain ⟨object, isObject, rfl⟩ := List.mem_map.mp found
    exact ⟨analysis, mem, label.symm, List.mem_map.mpr ⟨object, isObject, isKey⟩⟩

theorem persistence_persistent (windows : List String) :
    persistence windows = "persistent" ↔ "early" ∈ windows ∧ "steady" ∈ windows := by
  unfold persistence
  constructor
  · intro isPersistent
    by_contra neither
    rw [if_neg neither] at isPersistent
    split at isPersistent
    · exact absurd isPersistent (by decide)
    · split at isPersistent
      · exact absurd isPersistent (by decide)
      · exact absurd isPersistent (by decide)
  · intro both
    exact if_pos both

/-- The report has the anomalies of the full analysis, one for a family on a path; each was
observed in the full snapshot and in the windows that find it. -/
theorem windowed_anomalies (lib : PyLibrary) (fromIso : FromIso) (thresholds : DetectorThresholds)
    (baselineRows currentRows : List Row) (windows : List ReportWindow)
    (named : ∀ window ∈ windows, window.label ≠ "full")
    (sliced : ∀ window ∈ windows, ∃ rows,
      sliceRows fromIso currentRows window.startTime window.endTime = .ok rows) :
    ∃ report,
      windowedAnomalies lib fromIso thresholds baselineRows currentRows windows = .ok report ∧
      report.map Prod.fst =
        (analyzeSnapshotRows lib thresholds baselineRows currentRows).anomalies ∧
      (report.map fun entry => entry.1.findingKey).Nodup ∧
      ∀ entry ∈ report,
        (∀ name, name ∈ entry.2.windowsObserved ↔ name = "full" ∨ ∃ window ∈ windows,
          name = window.label ∧ window.Finds lib fromIso thresholds baselineRows currentRows
            entry.1.findingKey) ∧
        (entry.2.persistence = some "persistent" ↔
          "early" ∈ entry.2.windowsObserved ∧ "steady" ∈ entry.2.windowsObserved) := by
  set findings := (analyzeSnapshotRows lib thresholds baselineRows currentRows).anomalies
    with findingsEq
  set objects := makeObjects 0 findings with objectsEq
  have full : objects.map AnomalyObject.finding = findings := map_finding_makeObjects 0 findings
  have keys : objects.map (·.finding.findingKey) = findings.map Anomaly.findingKey := by
    have mapped := congrArg (List.map Anomaly.findingKey) full
    rwa [List.map_map] at mapped
  have nodup : (objects.map (·.finding.findingKey)).Nodup := by
    rw [keys]
    exact findingKeys_nodup
  have ids : (objects.map AnomalyObject.id).Nodup := by
    rw [objectsEq, map_id_makeObjects]
    exact List.nodup_range'
  have ordered : objects.Pairwise fun a b => a.finding.notAfter b.finding = true := by
    have sorted : findings.Pairwise fun a b => a.notAfter b = true :=
      Sorting.pairwise_sorted _ Anomaly.notAfter_trans Anomaly.notAfter_total
    rw [← full] at sorted
    exact List.pairwise_map.mp sorted
  have ends : ∃ last, windows.foldlM
      (analyzeWindow lib fromIso thresholds baselineRows currentRows objects)
      { next := findings.length, analyses := [("full", objects)] } = .ok last :=
    foldlM_analyzeWindow_ok sliced _
  obtain ⟨last, looped⟩ := ends
  obtain ⟨others, analyses, all⟩ := foldlM_analyzeWindow full looped
  have otherNames : ∀ analysis ∈ others, analysis.1 ≠ "full" := by
    intro analysis mem
    obtain ⟨window, isWindow, label, -⟩ := (forall₂_exists all).2 analysis mem
    rw [label]
    exact named window isWindow
  have merges : last.analyses = ("full", objects) :: others := analyses
  set merged := mergeWindowAnomalies (("full", objects) :: others) (fun _ => {}) with mergedEq
  obtain ⟨same, annotated⟩ :=
    mergeWindowAnomalies_spec nodup ids ordered otherNames (fun _ => {})
  obtain ⟨-, seen⟩ := gatherWindows_spec nodup otherNames
  have made : windowedAnomalies lib fromIso thresholds baselineRows currentRows windows =
      .ok (objects.map fun object => (object.finding, merged.2 object.id)) := by
    unfold windowedAnomalies
    dsimp only
    rw [← findingsEq, ← objectsEq, looped, ← same, mergedEq, ← merges]
    rfl
  refine ⟨_, made, ?_, ?_, ?_⟩
  · rw [List.map_map]
    exact full
  · rw [List.map_map]
    exact nodup
  · intro entry mem
    obtain ⟨object, isObject, rfl⟩ := List.mem_map.mp mem
    rw [annotated object isObject]
    constructor
    · intro name
      refine Sorting.mem_sorted.trans ((seen _ (List.mem_map_of_mem isObject) name).trans ?_)
      rw [finds_iff all]
    · refine Iff.trans ?_ (persistence_persistent _)
      exact ⟨Option.some.inj, congrArg some⟩

end Loop

/-! ## Two windows -/

/-- `fromisoformat` on the times of three rounds of ten seconds. -/
def roundIso : FromIso := fun text =>
  if text = "2026-01-01T00:00:00Z" then some ⟨0, true⟩
  else if text = "2026-01-01T00:00:10Z" then some ⟨10, true⟩
  else if text = "2026-01-01T00:00:20Z" then some ⟨20, true⟩
  else none

/-- A window of each of the first two rounds. -/
def twoRounds : List ReportWindow :=
  [⟨some "early", "2026-01-01T00:00:00Z", "2026-01-01T00:00:10Z"⟩,
    ⟨some "steady", "2026-01-01T00:00:10Z", "2026-01-01T00:00:20Z"⟩]

/-- A path that loses its DF probes in both rounds has one anomaly, a persistent one. -/
theorem windowed_anomalies_rounds :
    ∃ report,
      windowedAnomalies twoBatchLibrary roundIso {} (twoBatchRows 0) (twoBatchRows 16) twoRounds =
        .ok report ∧
      report.length = 1 ∧
      ∀ entry ∈ report, entry.2.persistence = some "persistent" ∧
        "early" ∈ entry.2.windowsObserved ∧ "steady" ∈ entry.2.windowsObserved := by
  have named : ∀ window ∈ twoRounds, window.label ≠ "full" := by decide +kernel
  have slices : (twoRounds.all fun window =>
      (sliceRows roundIso (twoBatchRows 16) window.startTime window.endTime).isOk) = true := by
    decide +kernel
  have sliced : ∀ window ∈ twoRounds, ∃ rows,
      sliceRows roundIso (twoBatchRows 16) window.startTime window.endTime = .ok rows := by
    intro window mem
    have isOk := List.all_eq_true.mp slices window mem
    cases answer : sliceRows roundIso (twoBatchRows 16) window.startTime window.endTime with
    | error message =>
        rw [answer] at isOk
        cases isOk
    | ok rows => exact ⟨rows, rfl⟩
  obtain ⟨report, made, same, -, observed⟩ := windowed_anomalies twoBatchLibrary roundIso {}
    (twoBatchRows 0) (twoBatchRows 16) twoRounds named sliced
  have evaluated : (windowedAnomalies twoBatchLibrary roundIso {} (twoBatchRows 0)
      (twoBatchRows 16) twoRounds).toOption.map (fun report =>
        (report.length, report.map fun entry => entry.2.persistence)) =
      some (1, [some "persistent"]) := by
    decide +kernel
  rw [made] at evaluated
  obtain ⟨one, persistent⟩ := Prod.mk.inj (Option.some.inj evaluated)
  refine ⟨report, made, one, fun entry mem => ?_⟩
  have isPersistent : entry.2.persistence = some "persistent" := by
    have here : entry.2.persistence ∈ report.map fun entry => entry.2.persistence :=
      List.mem_map_of_mem mem
    rw [persistent] at here
    exact List.mem_singleton.mp here
  exact ⟨isPersistent, (observed entry mem).2.mp isPersistent⟩

end NetOpsBench
