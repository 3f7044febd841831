import NetOpsBench.Lib.Patterns
import NetOpsBench.Utils.InterfaceNames

/-!
# Route tables

`parse_route_table` of `netopsbench/platform/toolkit/_core/device/route_parsers.py`, over the
characters of each line. What lower case, digits and word characters are outside of ASCII is a
table.
-/

namespace NetOpsBench

open Patterns
open Scan (numeral)
open Text (isSpace)

/-- The tables of Unicode that the parser reads, `\w` among them. -/
structure RouteTables : Type extends NameTables where
  isWord : Char → Bool
  lower_empty : lower "" = ""
  isWord_ascii : ∀ c : Char, c.toNat < 128 → isWord c = (c.isAlphanum || c == '_')

/-- The tables, for texts of ASCII. -/
def RouteTables.ascii : RouteTables where
  toNameTables := .ascii
  isWord c := c.isAlphanum || c == '_'
  lower_empty := rfl
  isWord_ascii _ _ := rfl

structure NextHop : Type where
  via : Option String
  interface : Option String
  deriving DecidableEq, Repr

/-- What a line says of a route. -/
structure RouteEntry : Type where
  routePrefix : String
  code : Option String
  protocol : String
  nexthops : List NextHop := []
  adminDistance : Option Nat := none
  metric : Option Nat := none
  deriving DecidableEq, Repr

structure RouteRecord : Type extends RouteEntry where
  selected : Bool
  isDiscard : Bool
  discardInterface : Option String
  deriving DecidableEq, Repr

/-- A record of which further lines may follow; `raw` is its `_raw`. -/
structure OpenRoute : Type where
  entry : RouteEntry
  raw : List Char
  deriving DecidableEq, Repr

/-- `protocol_from_code` -/
def protocolFromCode (code : List Char) : String :=
  match code.head? with
  | none => "unknown"
  | some 'B' => "bgp"
  | some 'C' => "connected"
  | some 'S' => "static"
  | some 'O' => "ospf"
  | some 'R' => "rip"
  | some 'K' => "kernel"
  | some 'L' => "local"
  | some _ => "other"

/-- `[^,\s]` -/
def isField (c : Char) : Bool := c != ',' && !isSpace c

/-- `,\s*([^,\s]+)` -/
def fieldAfterComma (text : List Char) : Option (List Char × List Char) := do
  let rest ← after [','] text
  run isField (rest.dropWhile isSpace)

/-- `via\s+([^,\s]+)(?:,\s*([^,\s]+))?` -/
def viaHop (text : List Char) : Option (NextHop × List Char) := do
  let rest ← after "via".toList text
  let (_, rest) ← run isSpace rest
  let (via, rest) ← run isField rest
  match fieldAfterComma rest with
  | none => some (⟨some (.ofList via), none⟩, rest)
  | some (interface, rest) =>
      some (⟨some (.ofList via),
        if interface = "weight".toList then none else some (.ofList interface)⟩, rest)

/-- `parse_nexthops` -/
def parseNexthops (rest : List Char) : List NextHop := findAll viaHop rest

/-- `directly connected,\s*([^,\s]+)` -/
def connectedInterface (text : List Char) : Option String := do
  let rest ← after "directly connected".toList text
  let (interface, _) ← fieldAfterComma rest
  some (.ofList interface)

/-- `\[(\d+)/(\d+)\]` -/
def distanceAndMetric (tables : RouteTables) (text : List Char) : Option (Nat × Nat) := do
  let rest ← after ['['] text
  let (distance, rest) ← numeral tables.digits rest
  let rest ← after ['/'] rest
  let (metric, rest) ← numeral tables.digits rest
  let _ ← after [']'] rest
  some (distance, metric)

def discardWords : List (List Char) := ["null0".toList, "blackhole".toList, "reject".toList]

/-- `\b(Null0|blackhole|reject)\b` -/
def discardWord (tables : RouteTables) (text : List Char) : Option String :=
  (findWord tables.isWord discardWords text).map String.ofList

/-- A hop that leads to the null interface. -/
def NextHop.isNull (tables : RouteTables) (hop : NextHop) : Bool :=
  tables.lower (hop.interface.getD "") = "null0"

/-- `discard_hop` -/
def discardHop (tables : RouteTables) (hops : List NextHop) : Option String :=
  (hops.find? (NextHop.isNull tables)).bind NextHop.interface

/-- `add_route_state` -/
def addRouteState (tables : RouteTables) (route : RouteEntry) (rawText : List Char) : RouteRecord :=
  let code := (route.code.getD "").toList
  let discard := (discardHop tables route.nexthops).or (discardWord tables rawText)
  { route with
    selected := code.contains '>' ||
      contains "best".toList (tables.lower (.ofList rawText)).toList
    isDiscard := discard.isSome
    discardInterface := discard }

/-! ## The detailed form -/

/-- `^Known via "([^"]+)", distance (\d+), metric (\d+)` -/
def knownVia (tables : RouteTables) (line : List Char) : Option (List Char × Nat × Nat) := do
  let rest ← after "Known via \"".toList line
  let (protocol, rest) ← run (· != '"') rest
  let rest ← after "\", distance ".toList rest
  let (distance, rest) ← numeral tables.digits rest
  let rest ← after ", metric ".toList rest
  let (metric, _) ← numeral tables.digits rest
  some (protocol, distance, metric)

/-- `,\s*via\s+([^,\s]+)` -/
def viaInterface (text : List Char) : Option (List Char) := do
  let rest ← after [','] text
  let rest ← after "via".toList (rest.dropWhile isSpace)
  let (_, rest) ← run isSpace rest
  let (interface, _) ← run isField rest
  some interface

/-- `^([^,\s]+)(?:,\s*via\s+([^,\s]+))?` -/
def entryHop (line : List Char) : Option NextHop := do
  let (via, rest) ← run isField line
  some ⟨some (.ofList via), (viaInterface rest).map String.ofList⟩

/-- The hop of a line that begins with a star. -/
def starredHop (line : List Char) : Option NextHop :=
  if line.head? ≠ some '*' then none
  else
    let line := strip (line.dropWhile fun c => c == '*' || c == ' ')
    if (after "directly connected".toList line).isSome then
      some ⟨none, search connectedInterface line⟩
    else entryHop line

/-- One line below the first. -/
def readEntryLine (tables : RouteTables) (route : RouteEntry) (raw : List Char) : RouteEntry :=
  match knownVia tables (strip raw) with
  | some (protocol, distance, metric) =>
      { route with
        protocol := Text.replace (tables.lower (.ofList protocol)) " " "_"
        adminDistance := some distance
        metric := some metric }
  | none => { route with nexthops := route.nexthops ++ (starredHop (strip raw)).toList }

/-- The branch of a text that describes one route. -/
def readRoutingEntry (tables : RouteTables) (text routePrefix : List Char)
    (lines : List (List Char)) : RouteRecord :=
  addRouteState tables
    (lines.foldl (readEntryLine tables)
      { routePrefix := .ofList (strip routePrefix), code := none, protocol := "unknown" })
    text

/-- The description of a route shows no code. -/
theorem readRoutingEntry_code (tables : RouteTables) (text routePrefix : List Char)
    (lines : List (List Char)) :
    (readRoutingEntry tables text routePrefix lines).code = none := by
  have step : ∀ route raw, (readEntryLine tables route raw).code = route.code := by
    intro route raw
    unfold readEntryLine
    cases knownVia tables (strip raw) <;> rfl
  have run : ∀ (lines : List (List Char)) (route : RouteEntry),
      (lines.foldl (readEntryLine tables) route).code = route.code := by
    intro lines
    induction lines with
    | nil => exact fun _ => rfl
    | cons line lines ih => exact fun route => (ih _).trans (step route line)
  exact run lines _

/-! ## The table -/

/-- What the groups of `^([A-Z*>]+)\s+([0-9.]+/\d+)\s*(.*)$` read of a line. -/
structure RouteLine : Type where
  code : List Char
  routePrefix : List Char
  rest : List Char

def matchRouteLine (tables : RouteTables) (line : List Char) : Option RouteLine := do
  let (code, rest) ← run (fun c => c.isUpper || c == '*' || c == '>') line
  let (_, rest) ← run isSpace rest
  let (address, rest) ← run (fun c => c.isDigit || c == '.') rest
  let rest ← after ['/'] rest
  let (length, rest) ← run tables.digits.isDigit rest
  some ⟨code, address ++ '/' :: length, rest.dropWhile isSpace⟩

/-- The record that a matched line opens. -/
def RouteLine.openRoute (tables : RouteTables) (line : RouteLine) : OpenRoute where
  entry :=
    { routePrefix := .ofList line.routePrefix
      code := some (.ofList line.code)
      protocol := protocolFromCode line.code
      nexthops :=
        (if contains "directly connected".toList line.rest then
          ((search connectedInterface line.rest).map fun interface =>
            NextHop.mk none (some interface)).toList
        else []) ++ parseNexthops line.rest
      adminDistance := (search (distanceAndMetric tables) line.rest).map Prod.fst
      metric := (search (distanceAndMetric tables) line.rest).map Prod.snd }
  raw := line.rest

/-- An indented line below a record. -/
def OpenRoute.continued (route : OpenRoute) (raw : List Char) : OpenRoute where
  entry := { route.entry with nexthops := route.entry.nexthops ++ parseNexthops raw }
  raw := route.raw ++ ' ' :: strip raw

def OpenRoute.close (tables : RouteTables) (route : OpenRoute) : RouteRecord :=
  addRouteState tables route.entry route.raw

/-- The records of the loop. The last of them is `current`, which further lines extend. -/
structure TableScan : Type where
  finished : List OpenRoute := []
  current : Option OpenRoute := none

def TableScan.routes (scan : TableScan) : List OpenRoute := scan.finished ++ scan.current.toList

/-- One turn of the loop over the lines. -/
def readTableLine (tables : RouteTables) (scan : TableScan) (raw : List Char) : TableScan :=
  if strip raw = [] then scan
  else if raw.head? = some ' ' then
    { scan with current := scan.current.map fun route => route.continued raw }
  else
    match matchRouteLine tables (strip raw) with
    | none => scan
    | some line => ⟨scan.routes, some (line.openRoute tables)⟩

/-- The lines that are not blank, without the space at their ends. -/
def nonblankLines (text : String) : List (List Char) :=
  ((splitLines text).filter fun line => strip line ≠ []).map stripEnd

/-- `parse_route_table` -/
def parseRouteTable (tables : RouteTables) (text : String) : List RouteRecord :=
  if text = "" then []
  else if contains "Network not in table".toList text.toList then []
  else
    match (nonblankLines text).head?.bind (after "Routing entry for ".toList) with
    | some routePrefix =>
        [readRoutingEntry tables text.toList routePrefix (nonblankLines text).tail]
    | none =>
        ((splitLines text).foldl (readTableLine tables) {}).routes.map (OpenRoute.close tables)

end NetOpsBench
