import NetOpsBench.Lib.Dict
import NetOpsBench.Lib.Program
import NetOpsBench.Lib.Text

/-!
# The BGP collector

`netopsbench/platform/observability/bgp_collector.py`: the lines that one poll of a device writes
and the tracker that remembers the latest row of every neighbor. A line is a `BgpPoint`, and
`BgpPoint.line` is its text. The tracker keeps what it has changed when a line cannot be built.
-/

namespace NetOpsBench

open Program

/-! ## Rows -/

/-- `_coerce_value` of an AS number; a text is one that `int` refuses. -/
inductive Asn : Type where
  | number (value : Int)
  | text (value : String)
  deriving DecidableEq, Repr

/-- What the collector reads of a row of `parse_bgp_summary`. -/
structure BgpRow : Type where
  neighbor : String
  state : Option String
  asn : Option Asn := none
  prefixesReceived : Option Nat := none
  deriving DecidableEq, Repr

def normalizeBgpState : Option String → String
  | none => "UNKNOWN"
  | some value => if value = "" then "UNKNOWN" else Text.upper (Text.strip value)

/-- The normalized state of a row. -/
def BgpRow.sessionState (row : BgpRow) : String := normalizeBgpState row.state

/-- `{str(row["neighbor"]): dict(row) for row in rows if row.get("neighbor")}` -/
def currentRows (rows : List BgpRow) : Dict String BgpRow :=
  Dict.ofEntries ((rows.filter fun row => row.neighbor ≠ "").map fun row => (row.neighbor, row))

/-! ## Points -/

/-- `ValueError` of `int` -/
inductive BgpError : Type where
  | invalidInt (text : String)
  deriving DecidableEq, Repr

/-- `_int_field` of an AS number -/
def asnField : Option Asn → Except BgpError (Option Int)
  | none => .ok none
  | some (.number value) => .ok (some value)
  | some (.text value) => if value = "" then .ok none else .error (.invalidInt value)

inductive SessionEventType : Type where
  | sessionDown
  | sessionRecovered
  | sessionStateChanged
  deriving DecidableEq, Repr

def SessionEventType.name : SessionEventType → String
  | sessionDown => "session_down"
  | sessionRecovered => "session_recovered"
  | sessionStateChanged => "session_state_changed"

structure NeighborSample : Type where
  source : String
  neighborAddress : String
  sessionState : String
  asn : Option Int
  prefixesReceived : Option Nat
  timestamp : Nat
  deriving DecidableEq, Repr

structure SessionEvent : Type where
  source : String
  neighborAddress : String
  eventType : SessionEventType
  previousState : String
  latestState : String
  asn : Option Int
  prefixesBefore : Option Nat
  prefixesAfter : Option Nat
  timestamp : Nat
  deriving DecidableEq, Repr

structure PrefixEvent : Type where
  source : String
  neighborAddress : String
  prefixesBefore : Nat
  prefixesAfter : Nat
  timestamp : Nat
  deriving DecidableEq, Repr

structure IndexHeartbeat : Type where
  source : String
  collectionOk : Bool
  timestamp : Nat
  deriving DecidableEq, Repr

structure CollectionSample : Type where
  source : String
  collectionOk : Bool
  errorType : String
  timestamp : Nat
  deriving DecidableEq, Repr

/-- A line of the spool. -/
inductive BgpPoint : Type where
  | neighbor (sample : NeighborSample)
  | session (event : SessionEvent)
  | prefixCount (event : PrefixEvent)
  | index (heartbeat : IndexHeartbeat)
  | collection (sample : CollectionSample)
  deriving DecidableEq, Repr

/-! ### Their text -/

/-- `_escape_tag` -/
def escapeTag (value : String) : String :=
  String.ofList (value.toList.flatMap fun c =>
    if c = '\\' ∨ c = ',' ∨ c = ' ' ∨ c = '=' then ['\\', c] else [c])

/-- `_escape_string_field` -/
def escapeStringField (value : String) : String :=
  String.ofList (value.toList.flatMap fun c => if c = '\\' ∨ c = '"' then ['\\', c] else [c])

def lineText (measurement : String) (tags : List (String × String)) (fields : List String)
    (timestamp : Nat) : String :=
  measurement ++ "," ++
    Text.join "," (tags.map fun tag => tag.1 ++ "=" ++ escapeTag tag.2) ++ " " ++
    Text.join "," fields ++ " " ++ toString timestamp

def topologyTag (topologyId : String) : List (String × String) :=
  if topologyId = "" then [] else [("topology_id", topologyId)]

def textField (name value : String) : String :=
  name ++ "=\"" ++ escapeStringField value ++ "\""

/-- `_int_field` of a number -/
def intField (name : String) (value : Option Int) : List String :=
  match value with
  | none => []
  | some value => [name ++ "=" ++ toString value ++ "i"]

def natField (name : String) (value : Option Nat) : List String :=
  intField name (value.map fun n => (n : Int))

def boolField (name : String) (value : Bool) : String :=
  name ++ "=" ++ if value then "true" else "false"

/-- `_BGP_EVENT_SCHEMA_VERSION` -/
def bgpEventSchemaVersion : Int := 1

def BgpPoint.line (topologyId : String) : BgpPoint → String
  | neighbor sample =>
      lineText "bgp_neighbors"
        ([("source", sample.source), ("neighbor_address", sample.neighborAddress)] ++
          topologyTag topologyId)
        ([textField "session_state" sample.sessionState] ++ intField "asn" sample.asn ++
          natField "prefixes_received" sample.prefixesReceived) sample.timestamp
  | session event =>
      lineText "bgp_session_events"
        ([("source", event.source), ("neighbor_address", event.neighborAddress),
          ("event_type", event.eventType.name)] ++ topologyTag topologyId)
        ([textField "previous_state" event.previousState,
          textField "latest_state" event.latestState] ++ intField "asn" event.asn ++
          natField "prefixes_before" event.prefixesBefore ++
          natField "prefixes_after" event.prefixesAfter) event.timestamp
  | prefixCount event =>
      lineText "bgp_prefix_events"
        [("source", event.source), ("neighbor_address", event.neighborAddress),
          ("topology_id", topologyId)]
        (natField "prefixes_before" (some event.prefixesBefore) ++
          natField "prefixes_after" (some event.prefixesAfter)) event.timestamp
  | index heartbeat =>
      lineText "bgp_event_index" ([("source", heartbeat.source)] ++ topologyTag topologyId)
        (intField "schema_version" (some bgpEventSchemaVersion) ++
          [boolField "collection_ok" heartbeat.collectionOk]) heartbeat.timestamp
  | collection sample =>
      lineText "bgp_collection" ([("source", sample.source)] ++ topologyTag topologyId)
        [boolField "collection_ok" sample.collectionOk, textField "error_type" sample.errorType]
        sample.timestamp

/-! ## The tracker -/

/-- `_previous` -/
abbrev BgpTransitionTracker : Type := Dict (String × String) BgpRow

abbrev TrackerProgram : Type → Type := Program BgpTransitionTracker BgpError

def sessionEventType (previousState latestState : String) : SessionEventType :=
  if previousState = "ESTABLISHED" ∧ latestState ≠ "ESTABLISHED" then .sessionDown
  else if previousState ≠ "ESTABLISHED" ∧ latestState = "ESTABLISHED" then .sessionRecovered
  else .sessionStateChanged

/-- The AS number of a transition. -/
def transitionAsn (previous current : BgpRow) : Option Asn := current.asn.or previous.asn

/-- `build_bgp_transition_line` -/
def buildBgpTransitionLine (device neighbor : String) (previous current : BgpRow)
    (timestamp : Nat) : Except BgpError SessionEvent :=
  (asnField (transitionAsn previous current)).map fun asn =>
    { source := device
      neighborAddress := neighbor
      eventType := sessionEventType previous.sessionState current.sessionState
      previousState := previous.sessionState
      latestState := current.sessionState
      asn
      prefixesBefore := previous.prefixesReceived
      prefixesAfter := current.prefixesReceived
      timestamp }

/-- The event of a row whose state is not the previous one. -/
def transitionPoints (device neighbor : String) (previous : Option BgpRow) (current : BgpRow)
    (timestamp : Nat) : Except BgpError (List BgpPoint) :=
  match previous with
  | none => .ok []
  | some previous =>
      if previous.sessionState = current.sessionState then .ok []
      else
        (buildBgpTransitionLine device neighbor previous current timestamp).map fun event =>
          [.session event]

/-- The event of a row whose number of prefixes is not the previous one. -/
def prefixPoints (device neighbor : String) (previous : Option BgpRow) (current : BgpRow)
    (timestamp : Nat) : List BgpPoint :=
  match previous.bind (·.prefixesReceived), current.prefixesReceived with
  | some before, some after =>
      if before = after then []
      else
        [.prefixCount
          { source := device, neighborAddress := neighbor, prefixesBefore := before,
            prefixesAfter := after, timestamp }]
  | some _, none => []
  | none, some _ => []
  | none, none => []

def processRow (device : String) (timestamp : Nat) (neighbor : String) (current : BgpRow) :
    TrackerProgram (List BgpPoint) := do
  let tracker ← get
  let previous := tracker.get (device, neighbor)
  let transition ←
    Program.ofExcept (transitionPoints device neighbor previous current timestamp)
  modify fun tracker : BgpTransitionTracker => tracker.set (device, neighbor) current
  pure (transition ++ prefixPoints device neighbor previous current timestamp)

def processRows (device : String) (timestamp : Nat) :
    List (String × BgpRow) → TrackerProgram (List BgpPoint)
  | [] => pure []
  | (neighbor, current) :: rest => do
      let points ← processRow device timestamp neighbor current
      let later ← processRows device timestamp rest
      pure (points ++ later)

/-- The row of a neighbor that is no longer there. -/
def BgpRow.missing (previous : BgpRow) : BgpRow :=
  { previous with state := some "MISSING", prefixesReceived := none }

/-- `missing_keys` -/
def missingNeighbors (device : String) (current : Dict String BgpRow)
    (tracker : BgpTransitionTracker) : List (String × BgpRow) :=
  (tracker.entries.filter fun entry =>
    entry.1.1 = device && !(current.keys.contains entry.1.2)).map fun entry => (entry.1.2, entry.2)

def processMissing (device : String) (timestamp : Nat) :
    List (String × BgpRow) → TrackerProgram (List BgpPoint)
  | [] => pure []
  | (neighbor, previous) :: rest => do
      if previous.sessionState = "MISSING" then processMissing device timestamp rest
      else do
        let event ← Program.ofExcept
          (buildBgpTransitionLine device neighbor previous previous.missing timestamp)
        modify fun tracker : BgpTransitionTracker => tracker.set (device, neighbor) previous.missing
        let later ← processMissing device timestamp rest
        pure (.session event :: later)

/-- `BgpTransitionTracker.process` -/
def process (device : String) (rows : List BgpRow) (timestamp : Nat) (collectionOk : Bool) :
    TrackerProgram (List BgpPoint) :=
  if collectionOk then do
    let changed ← processRows device timestamp (currentRows rows).entries
    let tracker ← get
    let missing ← processMissing device timestamp
      (missingNeighbors device (currentRows rows) tracker)
    pure (.index { source := device, collectionOk, timestamp } :: (changed ++ missing))
  else pure [.index { source := device, collectionOk, timestamp }]

/-! ## A poll -/

/-- `error_type` of a poll that fails. -/
inductive CollectionError : Type where
  | commandFailed
  | parserFailed
  | timeout
  | collectorError
  deriving DecidableEq, Repr

def CollectionError.name : CollectionError → String
  | commandFailed => "command_failed"
  | parserFailed => "parser_failed"
  | timeout => "timeout"
  | collectorError => "collector_error"

structure BgpPoll : Type where
  device : String
  timestamp : Nat
  /-- `include_full_snapshot` -/
  full : Bool := true
  answer : Except CollectionError (List BgpRow)
  deriving DecidableEq

namespace BgpPoll

def rows (poll : BgpPoll) : List BgpRow :=
  match poll.answer with
  | .ok rows => rows
  | .error _ => []

def errorType (poll : BgpPoll) : String :=
  match poll.answer with
  | .ok _ => ""
  | .error error => error.name

def collectionOk (poll : BgpPoll) : Bool :=
  match poll.answer with
  | .ok _ => true
  | .error _ => false

/-- `snapshot_rows` -/
def snapshotRows (poll : BgpPoll) : List BgpRow :=
  if poll.full then poll.rows else poll.rows.filter fun row => row.sessionState ≠ "ESTABLISHED"

end BgpPoll

/-- `build_bgp_lines` -/
def buildBgpLines (device : String) (timestamp : Nat) : List BgpRow → Except BgpError (List BgpPoint)
  | [] => .ok []
  | row :: rest =>
      if row.neighbor = "" then buildBgpLines device timestamp rest
      else do
        let asn ← asnField row.asn
        let later ← buildBgpLines device timestamp rest
        pure (.neighbor
          { source := device, neighborAddress := row.neighbor, sessionState := row.sessionState,
            asn, prefixesReceived := row.prefixesReceived, timestamp } :: later)

/-- `_collect_device_bgp` with a tracker -/
def collectDeviceBgp (poll : BgpPoll) : TrackerProgram (List BgpPoint) := do
  let snapshot ← Program.ofExcept (buildBgpLines poll.device poll.timestamp poll.snapshotRows)
  let tracked ← process poll.device poll.rows poll.timestamp poll.collectionOk
  pure (snapshot ++ tracked ++
    [.collection
      { source := poll.device, collectionOk := poll.collectionOk, errorType := poll.errorType,
        timestamp := poll.timestamp }])

end NetOpsBench
