import NetOpsBench.Lib.Json
import NetOpsBench.Pingmesh.Rows

/-!
# The ingestion audit

`_progress_frames` and `audit_ingestion` of `_detector_ingestion.py`. The progress rows
of every client must reach over both ends of the window with no hole between, and the
snapshot must hold exactly the records that they have inside it.
-/

namespace NetOpsBench

open Fallible

/-- The standard library functions behind the audit: `_time` on a timestamp text, as
microseconds, and the `repr` of a float. -/
structure PyLibrary : Type where
  time : String → Except String Int
  reprFloat : Binary64 → String

/-- `(source, cycle, destination, time)` -/
abbrev RecordKey : Type := String × Nat × String × String

/-- `_key` -/
def Row.key (row : Row) : Except String RecordKey := do
  let source ← require "src_name" row.srcName
  let cycle ← row.integer .probeCycle
  let destination ← require "dst_name" row.dstName
  let time ← require "_time" row.time
  pure (source, cycle, destination, time)

/-- `_time(row["_time"])` -/
def Row.stamp (lib : PyLibrary) (row : Row) : Except String Int := do
  let time ← require "_time" row.time
  lib.time time

/-- `_PROGRESS_FIELDS` -/
def progressFields : List SnapshotField := [.probeCycle, .destinationBatchIndex, .portBatchIndex]

/-- No tag that identifies the row, and no field of the list, is missing. -/
def Row.complete (row : Row) (fields : List SnapshotField) : Bool :=
  tagPresent row.planId ∧ tagPresent row.time ∧ tagPresent row.srcName ∧ tagPresent row.dstName ∧
    ∀ field ∈ fields, (row.field field).isSome

/-- `dict[tuple[str, int], dict[str, dict]]`: the rows of each frame by destination. -/
abbrev Frames : Type := Dict (String × Nat) (Dict String Row)

/-- `frames[source, cycle]` of a `defaultdict(dict)`. -/
def Frames.targets (frames : Frames) (source : String) (cycle : Nat) : Dict String Row :=
  (frames.get (source, cycle)).getD .empty

namespace Detector

variable (d : Detector) (lib : PyLibrary)

/-! ## `_progress_frames` -/

/-- The identity test of a progress row. -/
def checkIdentity (row : Row) (source : String) (cycle : Nat) (destination : String) :
    Except String Unit := do
  let unexpected := "unexpected frame identity, peer or port batch"
  reject (row.planId ≠ some d.planId) unexpected
  match d.frameOf source cycle with
  | none => throw unexpected
  | some expected =>
      reject (destination ∉ expected.names) unexpected
      let destinationBatch ← row.integer .destinationBatchIndex
      reject (destinationBatch ≠ expected.destinationBatchIndex) unexpected
      let portBatch ← row.integer .portBatchIndex
      reject (portBatch ≠ expected.portBatchIndex) unexpected

/-- `addresses.get(name) not in (None, ip)` -/
def addressMismatch (name ip : Option String) : Bool :=
  match (name.bind d.clientAddresses.get).join with
  | none => false
  | some address => ip ≠ some address

/-- One turn of the row loop. -/
def addProgress (frames : Frames) (row : Row) : Except String Frames := do
  let (source, cycle, destination, timestamp) ← row.key
  let _ ← lib.time timestamp
  d.checkIdentity row source cycle destination
  reject (d.addressMismatch row.srcName row.srcIp ∨ d.addressMismatch row.dstName row.dstIp)
    "client address does not match the manifest"
  let targets := frames.targets source cycle
  reject ((targets.get destination).any fun previous => previous.time ≠ some timestamp)
    "repeated cycle/peer at a different timestamp; possible source restart"
  pure (frames.set (source, cycle) (targets.set destination row))

/-- `_progress_frames` -/
def progressFrames (rows : List Row) : Except String Frames := rows.foldlM (d.addProgress lib) .empty

/-! ## `audit_ingestion` -/

/-- `start <= _time(row["_time"]) < end` -/
def inWindow (start stop : Int) (row : Row) : Except String Bool := do
  let stamp ← row.stamp lib
  pure (decide (start ≤ stamp ∧ stamp < stop))

/-- A row of the source and the cycle that a frame was recorded under, with its time. -/
structure Stamp : Type where
  source : String
  time : Int
  cycle : Nat
  deriving DecidableEq, Repr

/-- The rows of all frames, under the source and the cycle of their frame. -/
def frameRows (frames : Frames) : List (String × Nat × Row) :=
  frames.entries.flatMap fun ((source, cycle), targets) =>
    targets.values.map fun row => (source, cycle, row)

/-- The entries of `by_source`, for all sources. -/
def frameStamps (frames : Frames) : Except String (List Stamp) :=
  (frameRows frames).mapM fun (source, cycle, row) => do
    let time ← row.stamp lib
    pure ⟨source, time, cycle⟩

/-- The order of the pairs of a time and a cycle. -/
def stampLe (a b : Int × Nat) : Bool := a.1 < b.1 ∨ (a.1 = b.1 ∧ a.2 ≤ b.2)

/-- `sorted(by_source[source])` -/
def orderedStamps (stamps : List Stamp) (source : String) : List (Int × Nat) :=
  Sorting.sorted stampLe ((stamps.filter fun stamp => stamp.source = source).map fun stamp =>
    (stamp.time, stamp.cycle))

/-- Two lists of set members describe one set. -/
def sameSet {α : Type} [DecidableEq α] (a b : List α) : Bool := a ⊆ b ∧ b ⊆ a

/-- What a part of the audit appends to `pending` and to `expected_rows`; the set is kept
with its repetitions. -/
structure Findings : Type where
  pending : List String
  expectedRows : List RecordKey

def Findings.join (parts : List Findings) : Findings :=
  ⟨parts.flatMap Findings.pending, parts.flatMap Findings.expectedRows⟩

/-- The key of a row inside the window. -/
def windowKey (start stop : Int) (row : Row) : Except String (List RecordKey) := do
  if ← inWindow lib start stop row then
    let key ← row.key
    pure [key]
  else pure []

/-- One cycle between the two boundaries. -/
def auditCycle (frames : Frames) (start stop : Int) (source : String) (cycle : Nat) :
    Except String Findings :=
  match d.frameOf source cycle with
  | none => throw ("('" ++ source ++ "', " ++
      toString (cycle % d.plan.settings.coverageEpochCycles) ++ ")")
  | some expected => do
      let targets := frames.targets source cycle
      let keys ← targets.values.mapM (windowKey lib start stop)
      pure
        { pending :=
            if sameSet targets.keys expected.names then []
            else [source ++ "/" ++ toString cycle ++ ": missing frame targets"]
          expectedRows := keys.flatten }

/-- One client: its boundaries and every cycle between them. -/
def auditSource (frames : Frames) (stamps : List Stamp) (start stop : Int) (source : String) :
    Except String Findings := do
  let ordered := orderedStamps stamps source
  reject ((ordered.zip ordered.tail).any fun (before, after) => after.2 < before.2)
    (source ++ ": cycle/time order conflict; possible source restart or clock reversal")
  let before := (ordered.filter fun stamp => stamp.1 < start).map Prod.snd
  let after := (ordered.filter fun stamp => stop ≤ stamp.1).map Prod.snd
  match before.max?, after.min? with
  | none, _ => pure ⟨[source ++ ": missing preceding boundary"], []⟩
  | some _, none => pure ⟨[source ++ ": missing following boundary"], []⟩
  | some left, some right => do
      let cycles ← (List.range' left (right + 1 - left)).mapM
        (auditCycle d lib frames start stop source)
      pure (Findings.join cycles)

/-- `actual` and what the snapshot rows add to `pending`. -/
structure SnapshotState : Type where
  pending : List String
  actual : Dict RecordKey Row

def isFinite : Binary64 → Bool
  | .finite _ => true
  | _ => false

/-- One turn of the snapshot loop. -/
def addSnapshot (state : SnapshotState) (row : Row) : Except String SnapshotState :=
  if ¬ row.complete snapshotFields then
    -- A missing field can be an incompletely flushed pivot row.
    pure { state with pending := state.pending ++ ["snapshot: missing required fields"] }
  else do
    reject (snapshotFields.any fun field => (row.field field).any fun value => ¬ isFinite value)
      "snapshot contains a non-finite metric"
    let key ← row.key
    reject ((state.actual.get key).any fun known => known ≠ row)
      "conflicting duplicate snapshot record"
    pure { state with actual := state.actual.set key row }

def keyLe (a b : RecordKey) : Bool :=
  a.1 < b.1 ∨ (a.1 = b.1 ∧ (a.2.1 < b.2.1 ∨ (a.2.1 = b.2.1 ∧ (a.2.2.1 < b.2.2.1 ∨
    (a.2.2.1 = b.2.2.1 ∧ a.2.2.2 ≤ b.2.2.2)))))

/-- `records_sha256` -/
def recordsSha256 (actual : Dict RecordKey Row) : String :=
  let record := fun (key : RecordKey) =>
    let values := snapshotFields.map fun field =>
      Json.float (lib.reprFloat (((actual.get key).bind fun row => row.field field).getD .nan))
    Json.arr ([.str key.1, .nat key.2.1, .str key.2.2.1, .str key.2.2.2] ++ values)
  Sha256.hexdigest (Json.encode ((Json.arr ((Sorting.sorted keyLe actual.keys).map record)).dumps false))

/-- The returned dictionary: `invalid`, or `ready` or `pending` with its counts. -/
inductive Audit : Type where
  | invalid (error : String)
  | closed (ready : Bool) (expectedRecords observedRecords : Nat) (reasons : List String)
      (recordsSha256 : Option String)
  deriving DecidableEq, Repr

def Audit.isReady : Audit → Bool
  | .closed true _ _ _ _ => true
  | _ => false

/-- The body of the `try` statement. -/
def auditBody (progressRows snapshotRows : List Row) (start stop : Int) :
    Except String (List String × List RecordKey × Dict RecordKey Row) := do
  let completeProgress := progressRows.filter fun row => row.complete progressFields
  let missing ← progressRows.anyM fun row =>
    if row.complete progressFields then pure false else inWindow lib start stop row
  let pending := if missing then ["progress: missing required fields"] else []
  let frames ← d.progressFrames lib completeProgress
  let stamps ← frameStamps lib frames
  let sources ← d.clients.mapM (auditSource d lib frames stamps start stop)
  let audited := Findings.join (⟨pending, []⟩ :: sources)
  let snapshot ← snapshotRows.foldlM addSnapshot ⟨audited.pending, .empty⟩
  let pending :=
    if sameSet snapshot.actual.keys audited.expectedRows then snapshot.pending
    else snapshot.pending ++ ["snapshot and frame records do not match"]
  -- Complete snapshot rows are validated independently of the progress query.
  let _ ← d.progressFrames lib snapshot.actual.values
  pure (pending, audited.expectedRows, snapshot.actual)

/-- `audit_ingestion`; the window itself is read outside the `try` statement. -/
def auditIngestion (progressRows snapshotRows : List Row) (startTime endTime : String) :
    Except String Audit := do
  let start ← lib.time startTime
  let stop ← lib.time endTime
  match auditBody d lib progressRows snapshotRows start stop with
  | .error e => pure (.invalid e)
  | .ok (pending, expectedRows, actual) =>
      pure (.closed (pending = []) expectedRows.dedup.length actual.keys.length (pending.take 20)
        (if pending = [] then some (recordsSha256 lib actual) else none))

end Detector

end NetOpsBench
