import NetOpsBench.Lib.FirstMatch
import NetOpsBench.Utils.FrrConfig
import Mathlib.Logic.Function.Basic

/-!
# The shell of FRR

`vtysh` and the routing daemon behind it are outside the repository. `Vtysh` is any shell that gives
the documented answers to the commands of a scoped policy, with any clauses in the terms of its
route-maps and any meaning of them.
-/

namespace NetOpsBench

inductive TermAction : Type where
  | permit
  | deny
  deriving DecidableEq, Repr

def TermAction.text : TermAction → String
  | .permit => "permit"
  | .deny => "deny"

/-- A term of a route-map; a clause is the words of its line. -/
structure RouteTerm : Type where
  sequence : Nat
  action : TermAction
  clauses : List (List String)
  deriving DecidableEq, Repr

def RouteTerm.permits (term : RouteTerm) : Bool := decide (term.action = .permit)

/-- The routing configuration, with the attachments of IPv4 unicast. -/
structure FrrState (Net : Type) : Type where
  asn : Nat
  peers : List String
  maps : String → List RouteTerm
  /-- The prefix lists; an entry is what follows the name on its line. -/
  lists : String → List (List String)
  attached : String → Direction → Option String
  /-- The originated networks, and their route-maps. -/
  networks : Net → Option (Option String)

/-- Where the shell reads a command. -/
inductive CliNode : Type where
  | view
  | config
  | routeMap (name : String) (sequence : Nat)
  | bgp
  | unicast
  deriving DecidableEq, Repr

/-- A top-level command of the configuration is read here. -/
inductive CliNode.Configures : CliNode → Prop where
  | config : Configures .config
  | routeMap (name : String) (sequence : Nat) : Configures (.routeMap name sequence)

/-- The clauses of a term begin with one of these. -/
def clauseKeywords : List String :=
  ["match", "set", "on-match", "call", "continue", "description"]

/-- `match ip address prefix-list` -/
def matchList (name : String) : List String := ["match", "ip", "address", "prefix-list", name]

/-- The entry `seq 5 permit` -/
def onlyEntry (network : String) : List String := ["seq", "5", "permit", network]

/-- A new term among others, by sequence. -/
def insertTerm (term : RouteTerm) : List RouteTerm → List RouteTerm
  | [] => [term]
  | other :: rest =>
      if term.sequence < other.sequence then term :: other :: rest
      else other :: insertTerm term rest

theorem insertTerm_eq_append {term : RouteTerm} {terms : List RouteTerm}
    (below : ∀ other ∈ terms, other.sequence < term.sequence) :
    insertTerm term terms = terms ++ [term] := by
  induction terms with
  | nil => rfl
  | cons other rest ih =>
      have first := below other (List.mem_cons_self ..)
      rw [insertTerm, if_neg (by omega), ih fun later mem => below later (List.mem_cons_of_mem _ mem)]
      rfl

theorem find?_last {terms : List RouteTerm} {term : RouteTerm}
    (below : ∀ other ∈ terms, other.sequence < term.sequence) :
    (terms ++ [term]).find? (fun other => decide (other.sequence = term.sequence)) = some term := by
  rw [List.find?_append, List.find?_eq_none.mpr]
  · simp
  · intro other mem
    have lower := below other mem
    simp only [decide_eq_true_eq]
    omega

namespace FrrState

variable {Net : Type}

def setMap (state : FrrState Net) (name : String) (terms : List RouteTerm) : FrrState Net :=
  { state with maps := Function.update state.maps name terms }

def setList (state : FrrState Net) (name : String) (entries : List (List String)) : FrrState Net :=
  { state with lists := Function.update state.lists name entries }

def attach (state : FrrState Net) (peer : String) (direction : Direction) (map : Option String) :
    FrrState Net :=
  { state with
    attached := Function.update state.attached peer
      (Function.update (state.attached peer) direction map) }

def setNetwork [DecidableEq Net] (state : FrrState Net) (network : Net)
    (statement : Option (Option String)) : FrrState Net :=
  { state with networks := Function.update state.networks network statement }

/-- The clauses of a term of a route-map are changed. -/
def setClauses (state : FrrState Net) (name : String) (sequence : Nat)
    (clauses : List (List String)) : FrrState Net :=
  state.setMap name ((state.maps name).map fun term =>
    if term.sequence = sequence then { term with clauses } else term)

@[simp] theorem maps_setMap (state : FrrState Net) (name : String) (terms : List RouteTerm) :
    (state.setMap name terms).maps name = terms := Function.update_self ..

@[simp] theorem setMap_setMap (state : FrrState Net) (name : String)
    (terms terms' : List RouteTerm) :
    (state.setMap name terms).setMap name terms' = state.setMap name terms' := by
  simp [setMap]

/-- The last term is the one of its sequence. -/
theorem setClauses_last (state : FrrState Net) (name : String) {terms : List RouteTerm}
    {term : RouteTerm} (clauses : List (List String))
    (below : ∀ other ∈ terms, other.sequence < term.sequence) :
    (state.setMap name (terms ++ [term])).setClauses name term.sequence clauses =
      state.setMap name (terms ++ [{ term with clauses }]) := by
  have kept : (terms.map fun other =>
      if other.sequence = term.sequence then { other with clauses } else other) = terms := by
    rw [List.map_congr_left (g := id), List.map_id]
    intro other mem
    have lower := below other mem
    rw [if_neg (by omega)]
    rfl
  unfold setClauses
  rw [maps_setMap, setMap_setMap, List.map_append, kept, List.map_singleton, if_pos rfl]

/-- Nothing is lost, and nothing new has a name that a clause mentions. -/
structure Extends (before after : FrrState Net) : Prop where
  maps : ∀ name, before.maps name ≠ [] → after.maps name = before.maps name
  lists : ∀ name, before.lists name ≠ [] → after.lists name = before.lists name
  unmentioned : ∀ name, before.maps name ≠ after.maps name ∨ before.lists name ≠ after.lists name →
    ∀ owner, ∀ term ∈ before.maps owner, ∀ clause ∈ term.clauses, name ∉ clause

end FrrState

/-- How the daemon reads a network and the clauses of a term. -/
structure FrrReading (Net Route : Type) : Type where
  readNetwork : String → Option Net
  destination : Route → Net
  /-- The clauses of a term after one more is entered. -/
  enter : List (List String) → List String → Option (List (List String))
  /-- The route after the clauses of a term, if they match it. -/
  judge : FrrState Net → List (List String) → Route → Option Route

/-- The documented answers; a command without one is rejected. -/
inductive FrrReading.Answers {Net Route : Type} [DecidableEq Net] (reading : FrrReading Net Route) :
    CliNode → FrrState Net → List String → Option (CliNode × FrrState Net) → Prop where
  | empty {node : CliNode} {state : FrrState Net} : Answers reading node state [] (some (node, state))
  | configure {state : FrrState Net} :
      Answers reading .view state ["configure", "terminal"] (some (.config, state))
  | newList {state : FrrState Net} {name text : String} {network : Net}
      (reads : reading.readNetwork text = some network) (new : state.lists name = []) :
      Answers reading .config state ["ip", "prefix-list", name, "seq", "5", "permit", text]
        (some (.config, state.setList name [onlyEntry text]))
  | newTerm {node : CliNode} {state : FrrState Net} {name digits : String} {action : TermAction}
      (configures : node.Configures) (numeral : Text.isNumeral digits = true)
      (new : ∀ term ∈ state.maps name, term.sequence ≠ Text.numeralValue digits) :
      Answers reading node state ["route-map", name, action.text, digits]
        (some (.routeMap name (Text.numeralValue digits), state.setMap name
          (insertTerm ⟨Text.numeralValue digits, action, []⟩ (state.maps name))))
  | clause {state : FrrState Net} {name keyword : String} {sequence : Nat} {words : List String}
      {term : RouteTerm} {clauses : List (List String)} (isClause : keyword ∈ clauseKeywords)
      (here : (state.maps name).find? (fun term => decide (term.sequence = sequence)) = some term)
      (enters : reading.enter term.clauses (keyword :: words) = some clauses) :
      Answers reading (.routeMap name sequence) state (keyword :: words)
        (some (.routeMap name sequence, state.setClauses name sequence clauses))
  | router {node : CliNode} {state : FrrState Net} (configures : node.Configures) :
      Answers reading node state ["router", "bgp", toString state.asn] (some (.bgp, state))
  | family {state : FrrState Net} :
      Answers reading .bgp state ["address-family", "ipv4", "unicast"] (some (.unicast, state))
  | attach {state : FrrState Net} {peer name : String} {direction : Direction}
      (known : peer ∈ state.peers) :
      Answers reading .unicast state ["neighbor", peer, "route-map", name, direction.text]
        (some (.unicast, state.attach peer direction (some name)))
  | detach {state : FrrState Net} {peer name : String} {direction : Direction}
      (known : peer ∈ state.peers) :
      Answers reading .unicast state ["no", "neighbor", peer, "route-map", name, direction.text]
        (some (.unicast, state.attach peer direction none))
  | originate {state : FrrState Net} {text : String} {network : Net}
      (reads : reading.readNetwork text = some network) :
      Answers reading .unicast state ["network", text]
        (some (.unicast, state.setNetwork network (some none)))
  | originateBy {state : FrrState Net} {text name : String} {network : Net}
      (reads : reading.readNetwork text = some network) :
      Answers reading .unicast state ["network", text, "route-map", name]
        (some (.unicast, state.setNetwork network (some (some name))))
  | withdraw {state : FrrState Net} {text : String} {words : List String} {network : Net}
      (reads : reading.readNetwork text = some network) (there : state.networks network ≠ none)
      (shape : words = [] ∨ ∃ name, words = ["route-map", name]) :
      Answers reading .unicast state ("no" :: "network" :: text :: words)
        (some (.unicast, state.setNetwork network none))
  | exitFamily {state : FrrState Net} :
      Answers reading .unicast state ["exit-address-family"] (some (.bgp, state))
  | exit {state : FrrState Net} : Answers reading .bgp state ["exit"] (some (.config, state))
  | dropMap {state : FrrState Net} {name : String} (there : state.maps name ≠ []) :
      Answers reading .config state ["no", "route-map", name] (some (.config, state.setMap name []))
  | dropList {state : FrrState Net} {name : String} (there : state.lists name ≠ []) :
      Answers reading .config state ["no", "ip", "prefix-list", name]
        (some (.config, state.setList name []))
  | finish {node : CliNode} {state : FrrState Net} (inConfig : node ≠ .view) :
      Answers reading node state ["end"] (some (.view, state))
  | write {state : FrrState Net} : Answers reading .view state ["write", "memory"] (some (.view, state))
  | refresh {state : FrrState Net} {peer : String} {direction : Direction}
      (known : peer ∈ state.peers) :
      Answers reading .view state ["clear", "bgp", "ipv4", "unicast", peer, "soft", direction.text]
        (some (.view, state))
  /-- No command has a capital letter in its first word. -/
  | unknown {node : CliNode} {state : FrrState Net} {word : String} {words : List String}
      (capital : word.toList.any Char.isUpper = true) :
      Answers reading node state (word :: words) none

/-- A shell with the documented behaviour. -/
structure Vtysh (Net Route : Type) [DecidableEq Net] : Type extends FrrReading Net Route where
  exec : CliNode → FrrState Net → List String → Option (CliNode × FrrState Net)
  answers : ∀ {node state words answer}, toFrrReading.Answers node state words answer →
    exec node state words = answer
  enter_list : ∀ name, enter [] (matchList name) = some [matchList name]
  judge_nil : ∀ state route, judge state [] route = some route
  /-- A prefix list of one network matches the routes to it. -/
  judge_list : ∀ {state : FrrState Net} {name text network} route,
    state.lists name = [onlyEntry text] → readNetwork text = some network →
      judge state [matchList name] route = if destination route = network then some route else none
  /-- The meaning of a term rests on what its clauses mention. -/
  judge_extends : ∀ {before after : FrrState Net} {owner term} route, before.Extends after →
    term ∈ before.maps owner → judge after term.clauses route = judge before term.clauses route

namespace Vtysh

variable {Net Route : Type} [DecidableEq Net]

/-- The route after a term, if the term matches it. -/
def judgeTerm (shell : Vtysh Net Route) (state : FrrState Net) (term : RouteTerm) (route : Route) :
    Option Route := shell.judge state term.clauses route

/-- What a route-map makes of a route, with all routes permitted where none is attached. -/
def policy (shell : Vtysh Net Route) (state : FrrState Net) (attached : Option String)
    (route : Route) : Option Route :=
  match attached with
  | none => some route
  | some name => FirstMatch.verdict (shell.judgeTerm state) RouteTerm.permits (state.maps name) route

/-- `vtysh -c … -c …`, from a node on -/
def run (shell : Vtysh Net Route) (node : CliNode) (state : FrrState Net) :
    List String → Option (CliNode × FrrState Net)
  | [] => some (node, state)
  | command :: commands =>
      match shell.exec node state (Text.words command) with
      | none => none
      | some next => run shell next.1 next.2 commands

/-- One call of the shell. -/
def call (shell : Vtysh Net Route) (state : FrrState Net) (commands : List String) :
    Option (FrrState Net) :=
  (shell.run .view state commands).map Prod.snd

/-- One call after the other. -/
def calls (shell : Vtysh Net Route) (state : FrrState Net) :
    List (List String) → Option (FrrState Net)
  | [] => some state
  | commands :: rest =>
      match shell.call state commands with
      | none => none
      | some after => calls shell after rest

variable {shell : Vtysh Net Route} {node : CliNode} {state : FrrState Net} {command : String}
  {commands more : List String}

theorem run_step {node' : CliNode} {state' : FrrState Net} {words : List String}
    (answer : shell.toFrrReading.Answers node state words (some (node', state')))
    (reads : Text.words command = words) :
    shell.run node state (command :: commands) = shell.run node' state' commands := by
  rw [run, reads, shell.answers answer]

theorem run_append : shell.run node state (commands ++ more) =
    (shell.run node state commands).bind fun next => shell.run next.1 next.2 more := by
  induction commands generalizing node state with
  | nil => rfl
  | cons command commands ih =>
      rw [List.cons_append, run, run]
      cases shell.exec node state (Text.words command) with
      | none => rfl
      | some next => exact ih

/-- A command that is rejected everywhere makes every call with it fail. -/
theorem run_eq_none (mem : command ∈ commands)
    (rejected : ∀ node state, shell.exec node state (Text.words command) = none) :
    shell.run node state commands = none := by
  obtain ⟨before, after, rfl⟩ := List.append_of_mem mem
  rw [run_append]
  cases shell.run node state before with
  | none => rfl
  | some next =>
      change shell.run next.1 next.2 (command :: after) = none
      rw [run, rejected]

theorem calls_append {first second : List (List String)} :
    shell.calls state (first ++ second) =
      (shell.calls state first).bind fun middle => shell.calls middle second := by
  induction first generalizing state with
  | nil => rfl
  | cons commands first ih =>
      rw [List.cons_append, calls, calls]
      cases shell.call state commands with
      | none => rfl
      | some after => exact ih

end Vtysh

end NetOpsBench
