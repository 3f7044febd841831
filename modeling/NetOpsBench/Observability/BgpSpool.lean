import NetOpsBench.Observability.BgpCollector

/-!
# The spool of the BGP collector

The segmented spool of `netopsbench/platform/observability/bgp_collector.py` and the iterations of
`run_loop` over it. A file is the list of its lines. One step of the collector submits a poll, takes
the result of a poll that is done, or ends the iteration; whatever raises in an iteration abandons
the results that are still pending and skips the cleanup.
-/

namespace NetOpsBench

open Program

/-! ## Files -/

/-- `_line_timestamp` -/
def lineTimestamp (line : String) : Option Nat :=
  let reversed := line.toList.reverse.dropWhile Text.isSpace
  let digits := reversed.takeWhile Char.isDigit
  match reversed.drop digits.length with
  | [] => none
  | c :: _ =>
      if digits.isEmpty || !Text.isSpace c then none else (String.ofList digits.reverse).toNat?

def fileBytes (lines : List String) : Nat := (lines.map fun line => line.utf8ByteSize + 1).sum

/-- `_file_max_timestamp` -/
def fileMaxTimestamp (lines : List String) : Option Nat := (lines.filterMap lineTimestamp).max?

structure SealedSegment : Type where
  timestamp : Nat
  sequence : Nat
  lines : List String
  deriving DecidableEq, Repr

/-- The identity in the name of a sealed segment. -/
def segmentId (timestamp sequence : Nat) : String := toString timestamp ++ "-" ++ toString sequence

def SealedSegment.id (segment : SealedSegment) : String :=
  segmentId segment.timestamp segment.sequence

structure BgpSpool : Type where
  active : List String := []
  sealedSegments : List SealedSegment := []
  deriving DecidableEq, Repr

namespace BgpSpool

/-- `_spool_size` -/
def size (spool : BgpSpool) : Nat :=
  fileBytes spool.active + (spool.sealedSegments.map fun segment => fileBytes segment.lines).sum

/-- The sequence number from `sequence` on that no segment of the timestamp has. -/
def freeSequence (spool : BgpSpool) (timestamp : Nat) : Nat → Nat → Nat
  | sequence, 0 => sequence
  | sequence, fuel + 1 =>
      if spool.sealedSegments.any fun segment =>
          segment.timestamp = timestamp && segment.sequence = sequence then
        spool.freeSequence timestamp (sequence + 1) fuel
      else sequence

end BgpSpool

/-! ## Writing -/

structure SpoolConfig : Type where
  maxBytes : Int
  segmentBytes : Int
  topologyId : String

/-- What a write raises; an error of the operating system leaves some of the lines. -/
inductive SpoolError : Type where
  | buffer
  | noTimestamp
  | os (kept : Nat)
  deriving DecidableEq, Repr

/-- How many lines a write that has raised has left. -/
def SpoolError.kept : SpoolError → Nat
  | buffer => 0
  | noTimestamp => 0
  | os kept => kept

/-- Where the operating system fails a write: before any change, after the marker of a segment, after
its renaming, or after some of the lines. -/
structure SpoolFaults : Type where
  before : Bool := false
  marked : Bool := false
  renamed : Bool := false
  written : Option Nat := none
  deriving DecidableEq, Repr

def segmentMarker (topologyId : String) (timestamp sequence : Nat) : String :=
  lineText "bgp_event_index"
    ([("source", "__spool__"), ("spool_segment", segmentId timestamp sequence)] ++
      topologyTag topologyId)
    (intField "schema_version" (some bgpEventSchemaVersion)) timestamp

/-- A size that is over a limit, where there is one. -/
def overLimit (limit : Int) (bytes : Nat) : Bool := decide (0 < limit) && decide (limit < bytes)

namespace BgpSpool

/-- `_rotate_active_segment` of a file that is not empty -/
def rotate (config : SpoolConfig) (faults : SpoolFaults) (spool : BgpSpool) :
    Except SpoolError Unit × BgpSpool :=
  match fileMaxTimestamp spool.active with
  | none => (.error .noTimestamp, spool)
  | some timestamp =>
      let sequence := spool.freeSequence timestamp 0 spool.sealedSegments.length
      let marker := segmentMarker config.topologyId timestamp sequence
      let segment := { timestamp, sequence, lines := spool.active ++ [marker] }
      if overLimit config.maxBytes (spool.size + fileBytes [marker]) then (.error .buffer, spool)
      else if faults.marked then (.error (.os 0), { spool with active := spool.active ++ [marker] })
      else
        (if faults.renamed then .error (.os 0) else .ok (),
          { active := [], sealedSegments := spool.sealedSegments ++ [segment] })

/-- The write at the end of the active file. -/
def append (lines : List String) (faults : SpoolFaults) (spool : BgpSpool) :
    Except SpoolError Unit × BgpSpool :=
  match faults.written with
  | none => (.ok (), { spool with active := spool.active ++ lines })
  | some kept => (.error (.os kept), { spool with active := spool.active ++ lines.take kept })

/-- The lines of `rendered`, whose text is empty for no line and for one empty line. -/
def rendered (lines : List String) : List String := if lines = [""] then [] else lines

/-- `_write_segmented_lines` -/
def writeSegmentedLines (config : SpoolConfig) (lines : List String) (faults : SpoolFaults)
    (spool : BgpSpool) : Except SpoolError Unit × BgpSpool :=
  let bytes := fileBytes (rendered lines)
  if faults.before then (.error (.os 0), spool)
  else if overLimit config.maxBytes (spool.size + bytes) then (.error .buffer, spool)
  else if decide (spool.active ≠ []) && overLimit config.segmentBytes
      (fileBytes spool.active + bytes) then
    match spool.rotate config faults with
    | (.ok _, rotated) => rotated.append (rendered lines) faults
    | (.error error, rotated) => (.error error, rotated)
  else spool.append (rendered lines) faults

/-- `_delete_ingested_segments` -/
def deleteIngested (ingested : List String) (spool : BgpSpool) : BgpSpool :=
  { spool with
    sealedSegments := spool.sealedSegments.filter fun segment => !ingested.contains segment.id }

end BgpSpool

/-! ## The collector -/

/-- A poll whose result has not been taken yet. -/
structure PendingPoll : Type where
  poll : BgpPoll
  answer : Except BgpError (List BgpPoint)

/-- The points of a poll that have come into the spool. -/
structure LoggedPoll : Type where
  poll : BgpPoll
  points : List BgpPoint
  deriving DecidableEq

structure CollectorWorld : Type where
  tracker : BgpTransitionTracker := .empty
  pending : List PendingPoll := []
  /-- The iteration has raised. -/
  raised : Bool := false
  spool : BgpSpool := {}
  /-- The record of what has been written, which no operation reads. -/
  log : List LoggedPoll := []

inductive CollectorStep : Type where
  /-- The poll of a device is submitted and runs. -/
  | launch (poll : BgpPoll)
  /-- The result of the poll of a device is taken and written. -/
  | deliver (device : String) (faults : SpoolFaults)
  /-- The end of an iteration, with the segments that the query reports, unless it fails. -/
  | finish (ingested : Option (List String))

namespace CollectorWorld

/-- The exception that ends the collection of an iteration. -/
def raise (world : CollectorWorld) : CollectorWorld := { world with pending := [], raised := true }

def launch (poll : BgpPoll) (world : CollectorWorld) : CollectorWorld :=
  let collected := outcome (collectDeviceBgp poll) world.tracker
  { world with
    tracker := collected.2
    pending := world.pending ++ [{ poll, answer := collected.1 }] }

/-- The pending polls without the one of a device. -/
def others (device : String) (world : CollectorWorld) : List PendingPoll :=
  world.pending.filter fun item => item.poll.device ≠ device

/-- `_write_lines`, and the record of the points that it leaves in the spool -/
def write (config : SpoolConfig) (poll : BgpPoll) (points : List BgpPoint) (faults : SpoolFaults)
    (world : CollectorWorld) : CollectorWorld :=
  match world.spool.writeSegmentedLines config (points.map (·.line config.topologyId)) faults with
  | (.ok _, spool) =>
      { world with
        spool
        pending := world.others poll.device
        log := world.log ++ [{ poll, points }] }
  | (.error error, spool) =>
      { world.raise with
        spool
        log := world.log ++ [{ poll, points := points.take error.kept }] }

/-- `on_lines(item.result())` -/
def deliver (config : SpoolConfig) (item : PendingPoll) (faults : SpoolFaults)
    (world : CollectorWorld) : CollectorWorld :=
  match item.answer with
  | .error _ => world.raise
  | .ok points => world.write config item.poll points faults

/-- The cleanup of an iteration that has not raised. -/
def cleanup (ingested : Option (List String)) (world : CollectorWorld) : CollectorWorld :=
  match ingested with
  | none => world
  | some ingested => { world with spool := world.spool.deleteIngested ingested }

/-- A step of `run_loop` with a bucket and a topology. -/
def step (config : SpoolConfig) (world : CollectorWorld) : CollectorStep → CollectorWorld
  | .launch poll =>
      if world.raised || world.pending.any (fun item => item.poll.device = poll.device) then world
      else world.launch poll
  | .deliver device faults =>
      match world.pending.find? fun item => item.poll.device = device with
      | none => world
      | some item => if world.raised then world else world.deliver config item faults
  | .finish ingested =>
      if world.raised then { world with raised := false }
      else if world.pending.isEmpty then world.cleanup ingested
      else world

def run (config : SpoolConfig) (world : CollectorWorld) (steps : List CollectorStep) :
    CollectorWorld :=
  steps.foldl (step config) world

end CollectorWorld

end NetOpsBench
