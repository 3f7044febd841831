import NetOpsBench.Toolkit.RouteParsers
import Mathlib.Data.List.Forall2
import Mathlib.Data.List.TakeWhile

/-!
# Which lines the records of a route table come from

A line that the route pattern accepts opens a record, and the indented lines below it, blank lines
among them, go on with it. `parse_route_table` keeps the record open over any other line, so that
the indented lines below a header or below a route that it cannot read go to the record before.
`attributed_iff` says for which texts that does no harm.
-/

namespace NetOpsBench

open Patterns
open Text (isSpace)

/-! ## The lines of a table -/

inductive TableLine : Type where
  | blank
  | indented
  | accepted (route : OpenRoute)
  | unread
  deriving DecidableEq

def tableLine (tables : RouteTables) (line : List Char) : TableLine :=
  if strip line = [] then .blank
  else if line.head? = some ' ' then .indented
  else
    match matchRouteLine tables (strip line) with
    | none => .unread
    | some found => .accepted (found.openRoute tables)

/-- The accepted lines of a text in order, each with the lines after it. -/
def acceptedLines (tables : RouteTables) : List (List Char) → List (OpenRoute × List (List Char))
  | [] => []
  | line :: rest =>
      match tableLine tables line with
      | .accepted route => (route, rest) :: acceptedLines tables rest
      | _ => acceptedLines tables rest

/-- A line that may stand within the block of a record. -/
def TableLine.isInner (line : TableLine) : Bool := line = .blank || line = .indented

def TableLine.isAccepted : TableLine → Bool
  | .accepted _ => true
  | _ => false

def indentedLines (tables : RouteTables) (lines : List (List Char)) : List (List Char) :=
  lines.filter fun line => tableLine tables line = .indented

/-- The indented lines that belong to the record of the line before `rest`. -/
def followers (tables : RouteTables) (rest : List (List Char)) : List (List Char) :=
  indentedLines tables (rest.takeWhile fun line => (tableLine tables line).isInner)

/-- The indented lines of `rest` that stand below an unread line and above the next record. -/
def strays (tables : RouteTables) (rest : List (List Char)) : List (List Char) :=
  indentedLines tables
    ((rest.takeWhile fun line => !(tableLine tables line).isAccepted).dropWhile
      fun line => (tableLine tables line).isInner)

/-! ## What a record may show -/

/-- The hops of some lines. -/
def hopsOf (lines : List (List Char)) : List NextHop := lines.flatMap parseNexthops

/-- A discard mark that the block of a record shows: a hop to the null interface, or a word. -/
def DiscardMark (tables : RouteTables) (own : OpenRoute) (block : List (List Char))
    (mark : String) : Prop :=
  (∃ hop ∈ own.entry.nexthops ++ hopsOf block,
    hop.isNull tables = true ∧ hop.interface = some mark) ∨
  ∃ text ∈ own.raw :: block.map strip, discardWord tables text = some mark

/-- A record is that of its line, with next hops and a discard mark of its block only. -/
structure ComesFrom (tables : RouteTables) (own : OpenRoute) (block : List (List Char))
    (record : RouteRecord) : Prop where
  routePrefix : record.routePrefix = own.entry.routePrefix
  code : record.code = own.entry.code
  nexthops : record.nexthops.Sublist (own.entry.nexthops ++ hopsOf block)
  discard : record.isDiscard = true ∨ record.discardInterface ≠ none →
    ∃ mark, record.discardInterface = some mark ∧ DiscardMark tables own block mark

/-- The records of a text are those of its accepted lines, in order. -/
def Attributed (tables : RouteTables) (text : String) : Prop :=
  List.Forall₂ (fun found record => ComesFrom tables found.1 (followers tables found.2) record)
    (acceptedLines tables (splitLines text)) (parseRouteTable tables text)

/-- No line below an unread line carries a next hop, and one carries a discard word only where the
block of the record above shows a discard mark itself. -/
def StraysSilent (tables : RouteTables) (text : String) : Prop :=
  ∀ found ∈ acceptedLines tables (splitLines text),
    (∀ line ∈ strays tables found.2, parseNexthops line = []) ∧
    ∀ line ∈ strays tables found.2, discardWord tables (strip line) ≠ none →
      ∃ mark, DiscardMark tables found.1 (followers tables found.2) mark

/-- The text is read as the description of one route. -/
def IsRoutingEntry (text : String) : Prop :=
  (nonblankLines text).head?.bind (after "Routing entry for ".toList) ≠ none

/-! ## The loop -/

variable {tables : RouteTables} {lines rest : List (List Char)} {line : List Char}

/-- The indented lines up to the next record. -/
def scope (tables : RouteTables) (lines : List (List Char)) : List (List Char) :=
  indentedLines tables (lines.takeWhile fun line => !(tableLine tables line).isAccepted)

/-- A record with the lines that the loop adds to it. -/
def OpenRoute.extended (route : OpenRoute) (lines : List (List Char)) : OpenRoute :=
  lines.foldl OpenRoute.continued route

theorem readTableLine_eq (tables : RouteTables) (scan : TableScan) (line : List Char) :
    readTableLine tables scan line =
      match tableLine tables line with
      | .blank | .unread => scan
      | .indented => { scan with current := scan.current.map fun route => route.continued line }
      | .accepted route => ⟨scan.routes, some route⟩ := by
  unfold readTableLine tableLine
  by_cases blank : strip line = []
  · rw [if_pos blank, if_pos blank]
  · rw [if_neg blank, if_neg blank]
    by_cases indented : line.head? = some ' '
    · rw [if_pos indented, if_pos indented]
    · rw [if_neg indented, if_neg indented]
      cases matchRouteLine tables (strip line) <;> rfl

theorem scope_cons (tables : RouteTables) (line : List Char) (lines : List (List Char)) :
    scope tables (line :: lines) =
      match tableLine tables line with
      | .blank | .unread => scope tables lines
      | .indented => line :: scope tables lines
      | .accepted _ => [] := by
  unfold scope indentedLines
  cases kind : tableLine tables line <;> simp [kind, TableLine.isAccepted]

/-- The loop ends with the record that was open, extended by its scope, and one record for every
accepted line. -/
theorem routes_foldl (lines : List (List Char)) (scan : TableScan) :
    (lines.foldl (readTableLine tables) scan).routes =
      scan.finished ++ (scan.current.map fun route => route.extended (scope tables lines)).toList ++
        (acceptedLines tables lines).map fun found => found.1.extended (scope tables found.2) := by
  induction lines generalizing scan with
  | nil =>
    obtain ⟨finished, current⟩ := scan
    cases current <;> simp [TableScan.routes, scope, indentedLines, acceptedLines,
      OpenRoute.extended]
  | cons line lines ih =>
    obtain ⟨finished, current⟩ := scan
    rw [List.foldl_cons, ih, readTableLine_eq, scope_cons, acceptedLines]
    cases kind : tableLine tables line with
    | blank => rfl
    | unread => rfl
    | indented => cases current <;> rfl
    | accepted route => cases current <;> simp [TableScan.routes, OpenRoute.extended]

/-- The scope of a record is its block and the strays after it. -/
theorem scope_eq (tables : RouteTables) (rest : List (List Char)) :
    scope tables rest = followers tables rest ++ strays tables rest := by
  have inner : (rest.takeWhile fun line => !(tableLine tables line).isAccepted).takeWhile
      (fun line => (tableLine tables line).isInner) =
        rest.takeWhile fun line => (tableLine tables line).isInner := by
    rw [List.takeWhile_takeWhile]
    congr 1
    funext line
    cases tableLine tables line <;> rfl
  unfold scope followers strays indentedLines
  rw [← List.filter_append, ← inner, List.takeWhile_append_dropWhile]

/-! ## An extended record -/

theorem extended_entry (route : OpenRoute) (lines : List (List Char)) :
    (route.extended lines).entry =
      { route.entry with nexthops := route.entry.nexthops ++ hopsOf lines } := by
  induction lines generalizing route with
  | nil => simp [OpenRoute.extended, hopsOf]
  | cons line lines ih =>
    rw [OpenRoute.extended, List.foldl_cons]
    exact (ih (route.continued line)).trans (by simp [OpenRoute.continued, hopsOf])

theorem extended_raw (route : OpenRoute) (lines : List (List Char)) :
    (route.extended lines).raw =
      (lines.map strip).foldl (fun text part => text ++ ' ' :: part) route.raw := by
  induction lines generalizing route with
  | nil => rfl
  | cons line lines ih => exact ih (route.continued line)

theorem discardWords_lettered : ∀ word ∈ discardWords, Lettered word := by
  decide

theorem RouteTables.isWord_space (tables : RouteTables) : tables.isWord ' ' = false := by
  rw [tables.isWord_ascii ' ' (by decide)]
  rfl

/-- The word of a record is the first one of its texts. -/
theorem discardWord_extended (route : OpenRoute) (lines : List (List Char)) :
    discardWord tables (route.extended lines).raw =
      (route.raw :: lines.map strip).findSome? (discardWord tables) := by
  have first := findWord_foldl tables.isWord_space discardWords_lettered route.raw
    (lines.map strip)
  rw [discardWord, extended_raw, first]
  have commute : ∀ texts : List (List Char),
      (texts.findSome? (findWord tables.isWord discardWords)).map String.ofList =
        texts.findSome? (discardWord tables) := by
    intro texts
    induction texts with
    | nil => rfl
    | cons text texts ih =>
      rw [List.findSome?_cons, List.findSome?_cons, discardWord]
      cases findWord tables.isWord discardWords text with
      | some found => rfl
      | none => exact ih
  exact commute _

/-- A hop to the null interface names it. -/
theorem NextHop.isNull_interface {hop : NextHop} (null : hop.isNull tables = true) :
    ∃ mark, hop.interface = some mark := by
  cases named : hop.interface with
  | some mark => exact ⟨mark, rfl⟩
  | none => simp [NextHop.isNull, named, tables.lower_empty] at null

/-- The mark of a closed record -/
theorem discardInterface_close (route : OpenRoute) (block beyond : List (List Char)) :
    ((route.extended (block ++ beyond)).close tables).discardInterface =
      (discardHop tables (route.entry.nexthops ++ hopsOf block ++ hopsOf beyond)).or
        ((route.raw :: block.map strip ++ beyond.map strip).findSome? (discardWord tables)) := by
  simp only [OpenRoute.close, addRouteState, discardWord_extended, extended_entry, hopsOf,
    List.flatMap_append, List.map_append, List.append_assoc, List.cons_append]

/-- Some mark of the block is found before all others. -/
theorem DiscardMark.found {own : OpenRoute} {block : List (List Char)} {mark : String}
    (shown : DiscardMark tables own block mark) :
    discardHop tables (own.entry.nexthops ++ hopsOf block) ≠ none ∨
      (own.raw :: block.map strip).findSome? (discardWord tables) ≠ none := by
  rcases shown with ⟨hop, mem, null, -⟩ | ⟨text, mem, word⟩
  · left
    unfold discardHop
    cases first : (own.entry.nexthops ++ hopsOf block).find? (NextHop.isNull tables) with
    | none => exact absurd null (by simpa using List.find?_eq_none.mp first hop mem)
    | some found =>
      obtain ⟨name, named⟩ := NextHop.isNull_interface (List.find?_some first)
      simp [named]
  · right
    intro nothing
    have silent := List.findSome?_eq_none_iff.mp nothing text mem
    rw [silent] at word
    cases word

/-- What is found in the block is a mark of it. -/
theorem discardMark_of_found {own : OpenRoute} {block : List (List Char)} {mark : String}
    (found : (discardHop tables (own.entry.nexthops ++ hopsOf block)).or
      ((own.raw :: block.map strip).findSome? (discardWord tables)) = some mark) :
    DiscardMark tables own block mark := by
  rcases Option.or_eq_some_iff.mp found with hop | ⟨-, word⟩
  · obtain ⟨first, found, named⟩ := Option.bind_eq_some_iff.mp hop
    exact .inl ⟨first, List.mem_of_find?_eq_some found, List.find?_some found, named⟩
  · obtain ⟨text, mem, word⟩ := List.exists_of_findSome?_eq_some word
    exact .inr ⟨text, mem, word⟩

/-! ## The attribution -/

/-- When the record of a line shows nothing of the strays after it. -/
theorem comesFrom_iff (own : OpenRoute) (block beyond : List (List Char)) :
    ComesFrom tables own block ((own.extended (block ++ beyond)).close tables) ↔
      (∀ line ∈ beyond, parseNexthops line = []) ∧
      ∀ line ∈ beyond, discardWord tables (strip line) ≠ none →
        ∃ mark, DiscardMark tables own block mark := by
  have hops : ((own.extended (block ++ beyond)).close tables).nexthops =
      own.entry.nexthops ++ hopsOf block ++ hopsOf beyond := by
    simp [OpenRoute.close, addRouteState, extended_entry, hopsOf]
  have flag : ((own.extended (block ++ beyond)).close tables).isDiscard =
      ((own.extended (block ++ beyond)).close tables).discardInterface.isSome := rfl
  have mark := @discardInterface_close tables own block beyond
  constructor
  · intro comes
    constructor
    · have short := comes.nexthops.length_le
      rw [hops, List.length_append] at short
      have silent : hopsOf beyond = [] := List.length_eq_zero_iff.mp (by omega)
      exact List.flatMap_eq_nil_iff.mp silent
    · intro line mem word
      have marked : ((own.extended (block ++ beyond)).close tables).discardInterface ≠ none := by
        rw [mark]
        intro nothing
        have texts := (Option.or_eq_none_iff.mp nothing).2
        apply word
        exact List.findSome?_eq_none_iff.mp texts (strip line)
          (List.mem_append_right _ (List.mem_map_of_mem mem))
      obtain ⟨shown, -, isMark⟩ := comes.discard (.inr marked)
      exact ⟨shown, isMark⟩
  · intro ⟨noHops, noWords⟩
    have silent : hopsOf beyond = [] := List.flatMap_eq_nil_iff.mpr noHops
    rw [silent, List.append_nil] at hops mark
    constructor
    · simp [OpenRoute.close, addRouteState, extended_entry]
    · simp [OpenRoute.close, addRouteState, extended_entry]
    · rw [hops]
    · intro discarded
      have marked : ((own.extended (block ++ beyond)).close tables).discardInterface ≠ none := by
        rcases discarded with isDiscard | marked
        · rw [flag] at isDiscard
          exact Option.isSome_iff_ne_none.mp isDiscard
        · exact marked
      obtain ⟨shown, found⟩ := Option.ne_none_iff_exists'.mp marked
      refine ⟨shown, found, discardMark_of_found ?_⟩
      rw [mark, List.findSome?_append] at found
      -- a stray word is only found behind the marks of the block
      cases ownWord : (own.raw :: block.map strip).findSome? (discardWord tables) with
      | some first => rwa [ownWord, Option.some_or] at found
      | none =>
        rw [ownWord, Option.none_or] at found
        rw [Option.or_none]
        rcases Option.or_eq_some_iff.mp found with hop | ⟨noHop, word⟩
        · exact hop
        · obtain ⟨text, mem, word⟩ := List.exists_of_findSome?_eq_some word
          obtain ⟨line, memLine, rfl⟩ := List.mem_map.mp mem
          obtain ⟨other, isMark⟩ := noWords line memLine (by rw [word]; simp)
          rcases isMark.found with hop | word
          · exact absurd noHop hop
          · exact absurd ownWord word

/-- The records of a table. -/
theorem parseRouteTable_table {text : String}
    (known : contains "Network not in table".toList text.toList = false)
    (table : ¬ IsRoutingEntry text) :
    parseRouteTable tables text =
      (acceptedLines tables (splitLines text)).map fun found =>
        (found.1.extended (followers tables found.2 ++ strays tables found.2)).close tables := by
  unfold parseRouteTable
  by_cases empty : text = ""
  · rw [if_pos empty, empty]
    rfl
  · unfold IsRoutingEntry at table
    rw [if_neg empty, known, not_not.mp table]
    simp only [Bool.false_eq_true, if_false, routes_foldl]
    simp [scope_eq]

theorem tableLine_eq_accepted {route : OpenRoute} (kind : tableLine tables line = .accepted route) :
    ∃ found, matchRouteLine tables (strip line) = some found ∧ route = found.openRoute tables := by
  unfold tableLine at kind
  by_cases blank : strip line = []
  · rw [if_pos blank] at kind
    cases kind
  · rw [if_neg blank] at kind
    by_cases indented : line.head? = some ' '
    · rw [if_pos indented] at kind
      cases kind
    · rw [if_neg indented] at kind
      cases read : matchRouteLine tables (strip line) with
      | none =>
        rw [read] at kind
        cases kind
      | some found =>
        rw [read] at kind
        exact ⟨found, rfl, (TableLine.accepted.inj kind).symm⟩

/-- A record of an accepted line has a code. -/
theorem code_of_accepted {found : OpenRoute × List (List Char)}
    (mem : found ∈ acceptedLines tables lines) : found.1.entry.code ≠ none := by
  induction lines with
  | nil => cases mem
  | cons line lines ih =>
    rw [acceptedLines] at mem
    revert mem
    cases kind : tableLine tables line with
    | blank => exact ih
    | indented => exact ih
    | unread => exact ih
    | accepted route =>
      intro mem
      rcases List.mem_cons.mp mem with rfl | later
      · obtain ⟨read, -, rfl⟩ := tableLine_eq_accepted kind
        exact Option.some_ne_none _
      · exact ih later

/-- The description of one route is not the record of a line. -/
theorem not_attributed_entry {text : String}
    (known : contains "Network not in table".toList text.toList = false)
    (entry : IsRoutingEntry text) : ¬ Attributed tables text := by
  obtain ⟨routePrefix, first⟩ := Option.ne_none_iff_exists'.mp entry
  have some : text ≠ "" := by
    rintro rfl
    exact absurd rfl entry
  have records : parseRouteTable tables text =
      [readRoutingEntry tables text.toList routePrefix (nonblankLines text).tail] := by
    unfold parseRouteTable
    rw [if_neg some, known, first]
    rfl
  unfold Attributed
  rw [records]
  intro attributed
  cases accepted : acceptedLines tables (splitLines text) with
  | nil =>
    rw [accepted] at attributed
    cases attributed
  | cons found others =>
    rw [accepted] at attributed
    cases attributed with
    | cons comes _ =>
      have mem : found ∈ acceptedLines tables (splitLines text) := by
        rw [accepted]
        exact List.mem_cons_self
      exact code_of_accepted mem (comes.code.symm.trans (readRoutingEntry_code _ _ _ _))

/-- The records of a text are those of its accepted lines, with next hops and discard marks of
their blocks only, exactly if the first line that is not blank does not begin the description of
one route and the lines below unread lines are silent. -/
theorem attributed_iff (tables : RouteTables) (text : String)
    (known : contains "Network not in table".toList text.toList = false) :
    Attributed tables text ↔ ¬ IsRoutingEntry text ∧ StraysSilent tables text := by
  by_cases entry : IsRoutingEntry text
  · constructor
    · intro attributed
      exact absurd attributed (not_attributed_entry known entry)
    · intro ⟨other, _⟩
      exact absurd entry other
  · unfold Attributed StraysSilent
    rw [parseRouteTable_table known entry, List.forall₂_map_right_iff, List.forall₂_same]
    simp only [comesFrom_iff]
    exact (and_iff_right entry).symm

/-- A route with a second next hop below it. -/
def twoHops : String := "B>* 10.1.0.0/24 via 10.0.0.1\n  * via 10.0.0.3"

set_option maxRecDepth 8000 in
theorem attributed_iff_twoHops :
    contains "Network not in table".toList twoHops.toList = false ∧
      (Attributed .ascii twoHops ↔ ¬ IsRoutingEntry twoHops ∧ StraysSilent .ascii twoHops) :=
  have known : contains "Network not in table".toList twoHops.toList = false := by rfl
  ⟨known, attributed_iff .ascii twoHops known⟩

/-- A route that the parser reads and below it one that it does not, of a protocol with a small
letter, which has a second next hop. -/
def unreadRoute : String :=
  "B>* 10.1.0.0/24 via 10.0.0.1\nf>* 10.2.0.0/24 via 10.0.0.5\n  * via 10.0.0.7"

set_option maxRecDepth 8000 in
/-- The second next hop of the unread route goes to the route above. -/
theorem not_attributed_unreadRoute :
    ¬ ∀ (tables : RouteTables) (text : String),
      after "Routing entry for".toList text.toList = none →
      contains "Network not in table".toList text.toList = false → Attributed tables text := by
  intro claimed
  have attributed := claimed .ascii unreadRoute (by rfl) (by rfl)
  have own : (acceptedLines .ascii (splitLines unreadRoute)).map (fun found =>
      (found.1.entry.nexthops ++ hopsOf (followers .ascii found.2)).length) = [1] := by rfl
  have shown : (parseRouteTable .ascii unreadRoute).map
      (fun record => record.nexthops.length) = [2] := by rfl
  have lengths : List.Forall₂ (fun a b => b ≤ a)
      ((acceptedLines .ascii (splitLines unreadRoute)).map fun found =>
        (found.1.entry.nexthops ++ hopsOf (followers .ascii found.2)).length)
      ((parseRouteTable .ascii unreadRoute).map fun record => record.nexthops.length) := by
    rw [List.forall₂_map_left_iff, List.forall₂_map_right_iff]
    exact attributed.imp fun _ _ comes => comes.nexthops.length_le
  rw [own, shown] at lengths
  cases lengths with
  | cons le _ => omega

end NetOpsBench
