import NetOpsBench.Faults.PolicyPlans

/-!
# Scoped policies on a router

The operations of `prefixPolicy` on the router whose running configuration was read: when they deny
the target alone, and give everything back.
-/

namespace NetOpsBench

/-! ## The operations of a call -/

section Call

variable {Net Route : Type} [DecidableEq Net] {shell : Vtysh Net Route} {config : List ConfigLine}
  {before : FrrState Net} {token : PolicyToken} {target : String} {network : Net}
  {direction : Direction} {peers : List String} {statement : Option ParsedNetwork}
  {operations : List PolicyOperation}

/-- What the code reads for a slot is what is attached there, and no part of a header's keyword. -/
def ReadRight (config : List ConfigLine) (before : FrrState Net) (network : Net)
    (direction : Direction) (slot : PolicySlot) : Prop :=
  slotNow network direction before slot = some (readOriginal config direction slot) ∧
    ¬ Ambiguous (readOriginal config direction slot)

/-- What the code reads for a slot can be cloned. -/
def Clonable (config : List ConfigLine) (before : FrrState Net) (direction : Direction)
    (slot : PolicySlot) : Prop :=
  (∀ address, slot = .peer address →
      (parseBgpConfig (config.map ConfigLine.text)).neighbor address ≠ none) ∧
    ∀ name ∈ readOriginal config direction slot,
      before.maps name ≠ [] ∧ ∀ term ∈ before.maps name, 1 < term.sequence

theorem mem_policySlots {slot : PolicySlot} (mem : slot ∈ policySlots peers statement) :
    (∃ address ∈ peers, slot = .peer address) ∨
      ∃ parsed ∈ statement, slot = .network parsed.routeMap := by
  unfold policySlots at mem
  split at mem
  · obtain ⟨address, isPeer, rfl⟩ := List.mem_map.mp mem
    exact .inl ⟨address, isPeer, rfl⟩
  · rename_i parsed
    exact .inr ⟨parsed, rfl, List.mem_singleton.mp mem⟩

/-- The slots of a call are different places. -/
theorem same_policySlots {slot slot' : PolicySlot} (mem : slot ∈ policySlots peers statement)
    (mem' : slot' ∈ policySlots peers statement) (same : slot.same slot' = true) : slot = slot' := by
  obtain ⟨address, _, rfl⟩ | ⟨parsed, isParsed, rfl⟩ := mem_policySlots mem
  · obtain ⟨address', _, rfl⟩ | ⟨parsed', _, rfl⟩ := mem_policySlots mem'
    · rw [PolicySlot.same, beq_iff_eq] at same
      rw [same]
    · cases same
  · obtain ⟨address', _, rfl⟩ | ⟨parsed', isParsed', rfl⟩ := mem_policySlots mem'
    · cases same
    · cases isParsed
      cases isParsed'
      rfl

theorem solid_readOriginal
    (parsed : ∀ p ∈ statement, p ∈ (parseBgpConfig (config.map ConfigLine.text)).networks)
    {slot : PolicySlot} (mem : slot ∈ policySlots peers statement) :
    ∀ name ∈ readOriginal config direction slot, Text.Solid name := by
  intro name isName
  apply PolicyPlan.original_word ?_ isName
  intro routeMap isNetwork
  obtain ⟨address, _, rfl⟩ | ⟨found, isFound, rfl⟩ := mem_policySlots mem
  · cases isNetwork
  · exact solid_parseBgpConfig (parsed found isFound) (PolicySlot.network.inj isNetwork)

theorem builds_prefixPolicy (running : Running shell config before)
    (parsed : ∀ p ∈ statement, p ∈ (parseBgpConfig (config.map ConfigLine.text)).networks)
    (clonable : ∀ slot ∈ policySlots peers statement, Clonable config before direction slot) :
    ∃ operations, prefixPolicy token (config.map ConfigLine.text) before.asn target peers direction
      statement = .ok operations := by
  apply Fallible.mapM_total
  intro attachment mem
  have isSlot : attachment.1 ∈ policySlots peers statement := by
    have listed := List.mem_map_of_mem (f := Prod.fst) mem
    rwa [List.zipIdx_map_fst] at listed
  obtain ⟨known, terms⟩ := clonable attachment.1 isSlot
  have isCloned : ∃ cloned, clonePolicy (config.map ConfigLine.text)
      (readOriginal config direction attachment.1) (token.text ++ toString attachment.2) =
        .ok cloned := by
    have isWord := @solid_readOriginal config direction peers statement parsed attachment.1 isSlot
    cases original : readOriginal config direction attachment.1 with
    | none => exact ⟨_, rfl⟩
    | some name =>
        obtain ⟨some, safe⟩ := terms name original
        rw [running.maps] at some safe
        refine ⟨_, (clonePolicy_some (isWord name original)).mpr ⟨?_, ?_, rfl⟩⟩
        · intro empty
          exact some (by rw [empty, List.map_nil])
        · intro shown isShown
          exact safe shown.term (List.mem_map_of_mem isShown)
  obtain ⟨cloned, isCloned⟩ := isCloned
  refine ⟨buildOperation target (token.text ++ toString attachment.2) before.asn direction attachment.1
    (readOriginal config direction attachment.1) cloned, ?_⟩
  unfold policyOperation
  rw [PolicyPlan.slotOriginal_eq_ok.mpr ⟨rfl, known⟩, Fallible.ok_bind, isCloned, Fallible.ok_bind]

/-- The plan of a call. -/
def callPlan (token : PolicyToken) (config : List ConfigLine) (target : String) (network : Net)
    (direction : Direction) : PolicyPlan Net where
  token := token
  config := config
  target := target
  network := network
  direction := direction

section Built

variable (running : Running shell config before) (fresh : FreshToken token before)
  (isTarget : Text.Solid target) (reads : shell.readNetwork target = some network)
  (known : ∀ peer ∈ peers, peer ∈ before.peers ∧ Text.Solid peer)
  (parsed : ∀ p ∈ statement, p ∈ (parseBgpConfig (config.map ConfigLine.text)).networks)
  (built : prefixPolicy token (config.map ConfigLine.text) before.asn target peers direction
    statement = .ok operations)

theorem mem_attachments {attachment : PolicySlot × Nat}
    (mem : attachment ∈ (policySlots peers statement).zipIdx) :
    attachment.1 ∈ policySlots peers statement := by
  have listed := List.mem_map_of_mem (f := Prod.fst) mem
  rwa [List.zipIdx_map_fst] at listed

theorem coherent_attachments : PolicyPlan.Coherent (policySlots peers statement).zipIdx :=
  fun _ isFirst _ isSecond => same_policySlots (mem_attachments isFirst) (mem_attachments isSecond)

omit [DecidableEq Net] in
include built in
theorem builds_attachments :
    List.Forall₂ ((callPlan token config target network direction).Builds before.asn)
      (policySlots peers statement).zipIdx operations := by
  refine (Fallible.mapM_eq_ok.mp built).imp fun attachment operation isOperation => ?_
  exact @PolicyPlan.builds_policyOperation _ (callPlan token config target network direction)
    attachment before.asn operation isOperation

omit [DecidableEq Net] in
include known parsed in
theorem proper_slot {slot : PolicySlot} (mem : slot ∈ policySlots peers statement) :
    (callPlan token config target network direction).Proper before slot where
  known := by
    obtain ⟨address, isPeer, rfl⟩ | ⟨found, _, rfl⟩ := mem_policySlots mem
    · exact known address isPeer
    · trivial
  word := solid_readOriginal parsed mem

omit [DecidableEq Net] in
include fresh known parsed in
theorem ready_attachments
    (there : ∀ slot ∈ policySlots peers statement, slotNow network direction before slot ≠ none) :
    (callPlan token config target network direction).Ready before
      (policySlots peers statement).zipIdx where
  proper _ mem := proper_slot known parsed (mem_attachments mem)
  there a mem := there a.1 (mem_attachments mem)
  newMap a _ := fresh.maps a.2
  newList a _ := fresh.lists a.2
  distinct := by
    rw [List.zipIdx_map_snd]
    exact List.nodup_range'

include known parsed built in
/-- A header's keyword with a name in it is rejected. -/
theorem not_ambiguous_of_applies (network : Net) {applied : FrrState Net}
    (applies : shell.calls before (operations.map PolicyOperation.apply) = some applied)
    {slot : PolicySlot} (mem : slot ∈ policySlots peers statement) :
    ¬ Ambiguous (readOriginal config direction slot) := by
  intro ambiguous
  rw [← List.zipIdx_map_fst 0 (policySlots peers statement)] at mem
  obtain ⟨attachment, isAttachment, rfl⟩ := List.mem_map.mp mem
  obtain ⟨operation, isOperation, isBuilt⟩ := Fallible.exists_of_mapM built isAttachment
  let plan := callPlan token config target network direction
  obtain ⟨cloned, isCloned, rfl⟩ :=
    @PolicyPlan.builds_policyOperation _ plan attachment before.asn operation isBuilt
  have proper : plan.Proper before attachment.1 :=
    proper_slot known parsed (mem_attachments isAttachment)
  have none := @PolicyPlan.calls_eq_none _ _ _ shell before operations _ isOperation fun state =>
    call_apply_ambiguous (PolicyPlan.solid_name plan attachment.2)
      (PolicyPlan.capital_name plan attachment.2) proper.word ambiguous isCloned before.asn
  rw [applies] at none
  cases none

include running fresh isTarget reads known parsed built in
theorem scopes_of_readRight
    (right : ∀ slot ∈ policySlots peers statement, ReadRight config before network direction slot) :
    ∃ applied, ScopesSlots shell before network direction (policySlots peers statement) operations
      applied := by
  have there : ∀ slot ∈ policySlots peers statement, slotNow network direction before slot ≠ none := by
    intro slot mem missing
    exact nomatch missing.symm.trans (right slot mem).1
  have builds : List.Forall₂ ((callPlan token config target network direction).Builds before.asn)
      _ operations := builds_attachments built
  have scopes := PolicyPlan.scopesSlots ⟨running, isTarget, reads⟩ fresh builds
    (ready_attachments fresh known parsed there) (fun a mem => (right a.1 (mem_attachments mem)).2) coherent_attachments
    fun a mem => (right a.1 (mem_attachments mem)).1
  rw [List.zipIdx_map_fst] at scopes
  exact ⟨_, scopes⟩

include running fresh isTarget reads known parsed built in
theorem readRight_of_scopes {applied : FrrState Net}
    (scopes : ScopesSlots shell before network direction (policySlots peers statement) operations
      applied) {slot : PolicySlot} (mem : slot ∈ policySlots peers statement) :
    ReadRight config before network direction slot := by
  let plan := callPlan token config target network direction
  have fits : plan.Fits shell before := ⟨running, isTarget, reads⟩
  have read : ∀ slot ∈ policySlots peers statement,
      ¬ Ambiguous (readOriginal config direction slot) :=
    fun slot mem => not_ambiguous_of_applies known parsed built network scopes.applies mem
  have there : ∀ slot ∈ policySlots peers statement, slotNow network direction before slot ≠ none := by
    intro slot mem missing
    obtain ⟨name, previous, _, isPrevious, _⟩ := scopes.denies slot mem
    exact nomatch missing.symm.trans isPrevious
  have builds : List.Forall₂ (plan.Builds before.asn) _ operations := builds_attachments built
  have ready : plan.Ready before _ := ready_attachments fresh known parsed there
  have same := PolicyPlan.calls_install fits builds ready fun a isA => read a.1 (mem_attachments isA)
  rw [scopes.applies] at same
  cases same
  have restored := PolicyPlan.calls_restores fits builds ready operations.length
  rw [List.take_of_length_le (by simp), scopes.restores,
    List.take_of_length_le (by simp [builds.length_eq])] at restored
  have only : ∀ a ∈ (policySlots peers statement).zipIdx.reverse, a.1.same slot = true →
      a.1 = slot :=
    fun a isA => same_policySlots (mem_attachments (List.mem_reverse.mp isA)) mem
  have listed : slot ∈ (policySlots peers statement).zipIdx.reverse.map Prod.fst := by
    rw [List.map_reverse, List.zipIdx_map_fst, List.mem_reverse]
    exact mem
  have now := @PolicyPlan.now_removeAll _ _ plan
    (plan.installAll before (policySlots peers statement).zipIdx) slot _ only
  rw [← Option.some.inj restored, if_pos listed] at now
  exact ⟨now, read slot mem⟩

end Built

/-- The operations scope the slots exactly when each slot is read right. -/
theorem prefixPolicy_scopes_iff (running : Running shell config before)
    (fresh : FreshToken token before) (isTarget : Text.Solid target)
    (reads : shell.readNetwork target = some network)
    (known : ∀ peer ∈ peers, peer ∈ before.peers ∧ Text.Solid peer)
    (parsed : ∀ p ∈ statement, p ∈ (parseBgpConfig (config.map ConfigLine.text)).networks) :
    ((∀ slot ∈ policySlots peers statement, Clonable config before direction slot) →
      ∃ operations, prefixPolicy token (config.map ConfigLine.text) before.asn target peers direction
        statement = .ok operations) ∧
    ∀ operations, prefixPolicy token (config.map ConfigLine.text) before.asn target peers direction
        statement = .ok operations →
      ((∃ applied, ScopesSlots shell before network direction (policySlots peers statement) operations
          applied) ↔
        ∀ slot ∈ policySlots peers statement, ReadRight config before network direction slot) := by
  constructor
  · exact builds_prefixPolicy running parsed
  · intro operations built
    constructor
    · intro isScoped slot mem
      obtain ⟨applied, scopes⟩ := isScoped
      exact readRight_of_scopes running fresh isTarget reads known parsed built scopes mem
    · exact scopes_of_readRight running fresh isTarget reads known parsed built

end Call

/-! ## A router -/

/-- A clause matches a route to the network of its list; any other clause matches every route. -/
def simpleMatch (state : FrrState String) (route : String) : List String → Bool
  | ["match", "ip", "address", "prefix-list", name] => (state.lists name).any (· == onlyEntry route)
  | _ => true

/-- Networks are their texts, and a route is the network that it leads to. -/
def simpleReading : FrrReading String String where
  readNetwork := some
  destination := id
  enter clauses clause := some (clauses ++ [clause])
  judge state clauses route := if clauses.all (simpleMatch state route) then some route else none

/-- A shell that takes every command of a scoped policy, wherever it is. -/
def simpleExec (node : CliNode) (state : FrrState String) :
    List String → Option (CliNode × FrrState String)
  | [] => some (node, state)
  | ["configure", "terminal"] => some (.config, state)
  | ["ip", "prefix-list", name, "seq", "5", "permit", text] =>
      some (.config, state.setList name [onlyEntry text])
  | ["route-map", name, action, digits] =>
      (readAction action).map fun action => (.routeMap name (Text.numeralValue digits),
        state.setMap name (insertTerm ⟨Text.numeralValue digits, action, []⟩ (state.maps name)))
  | ["router", "bgp", _] => some (.bgp, state)
  | ["address-family", "ipv4", "unicast"] => some (.unicast, state)
  | ["neighbor", peer, "route-map", name, way] =>
      (readDirection way).map fun direction => (.unicast, state.attach peer direction (some name))
  | ["no", "neighbor", peer, "route-map", _, way] =>
      (readDirection way).map fun direction => (.unicast, state.attach peer direction none)
  | ["network", text] => some (.unicast, state.setNetwork text (some none))
  | ["network", text, "route-map", name] => some (.unicast, state.setNetwork text (some (some name)))
  | ["no", "network", text] => some (.unicast, state.setNetwork text none)
  | ["no", "network", text, "route-map", _] => some (.unicast, state.setNetwork text none)
  | ["exit-address-family"] => some (.bgp, state)
  | ["exit"] => some (.config, state)
  | ["no", "route-map", name] => some (.config, state.setMap name [])
  | ["no", "ip", "prefix-list", name] => some (.config, state.setList name [])
  | ["end"] => some (.view, state)
  | ["write", "memory"] => some (.view, state)
  | ["clear", "bgp", "ipv4", "unicast", _, "soft", _] => some (.view, state)
  | keyword :: words =>
      match node with
      | .routeMap name sequence =>
          if keyword ∈ clauseKeywords then
            ((state.maps name).find? fun term => decide (term.sequence = sequence)).map fun term =>
              (.routeMap name sequence,
                state.setClauses name sequence (term.clauses ++ [keyword :: words]))
          else none
      | _ => none

theorem simpleExec_unknown {node : CliNode} {state : FrrState String} {word : String}
    (words : List String) (capital : word.toList.any Char.isUpper = true) :
    simpleExec node state (word :: words) = none := by
  have small : clauseKeywords.all (fun keyword => !keyword.toList.any Char.isUpper) = true := by rfl
  have lower : ∀ keyword ∈ clauseKeywords, keyword.toList.any Char.isUpper = false := by
    intro keyword isKeyword
    simpa using List.all_eq_true.mp small keyword isKeyword
  unfold simpleExec
  split
  · rename_i shape
    cases shape
  -- Every command of the shell begins with small letters.
  any_goals
    rename_i shape
    cases shape
    apply absurd capital
    decide
  · rename_i shape
    cases shape
    split
    · rw [if_neg]
      intro isClause
      rw [lower word isClause] at capital
      cases capital
    · rfl

theorem simpleExec_clause {state : FrrState String} {name keyword : String} {sequence : Nat}
    {term : RouteTerm} (words : List String) (isClause : keyword ∈ clauseKeywords)
    (here : (state.maps name).find? (fun term => decide (term.sequence = sequence)) = some term) :
    simpleExec (.routeMap name sequence) state (keyword :: words) =
      some (.routeMap name sequence,
        state.setClauses name sequence (term.clauses ++ [keyword :: words])) := by
  have isKeyword := isClause
  simp only [clauseKeywords, List.mem_cons, List.not_mem_nil, or_false] at isKeyword
  obtain rfl | rfl | rfl | rfl | rfl | rfl := isKeyword <;> simp [simpleExec, here, isClause]

theorem simpleExec_answers {node : CliNode} {state : FrrState String} {words : List String}
    {answer : Option (CliNode × FrrState String)}
    (answers : simpleReading.Answers node state words answer) :
    simpleExec node state words = answer := by
  cases answers with
  | empty => rfl
  | configure => rfl
  | newList reads new => rfl
  | newTerm configures numeral new => simp [simpleExec]
  | clause isClause here enters =>
      cases enters
      exact simpleExec_clause _ isClause here
  | router configures => rfl
  | family => rfl
  | attach known => simp [simpleExec]
  | detach known => simp [simpleExec]
  | originate reads =>
      cases reads
      rfl
  | originateBy reads =>
      cases reads
      rfl
  | withdraw reads there shape =>
      cases reads
      obtain rfl | ⟨name, rfl⟩ := shape <;> rfl
  | exitFamily => rfl
  | exit => rfl
  | dropMap there => rfl
  | dropList there => rfl
  | finish inConfig => rfl
  | write => rfl
  | refresh known => rfl
  | unknown capital => exact simpleExec_unknown _ capital

/-- A clause that no new name occurs in matches as before. -/
theorem simpleMatch_extends {before after : FrrState String} {owner : String} {term : RouteTerm}
    {clause : List String} (grows : before.Extends after) (mem : term ∈ before.maps owner)
    (isClause : clause ∈ term.clauses) (route : String) :
    simpleMatch after route clause = simpleMatch before route clause := by
  unfold simpleMatch
  split
  · rename_i name
    by_cases same : before.lists name = after.lists name
    · rw [same]
    · have absent := grows.unmentioned name (.inr same) owner term mem _ isClause
      simp at absent
  · rfl

def simpleShell : Vtysh String String where
  toFrrReading := simpleReading
  exec := simpleExec
  answers := simpleExec_answers
  enter_list _ := rfl
  judge_nil _ _ := rfl
  judge_list {state name text network} route listed reads := by
    cases reads
    by_cases same : route = text
    · simp [simpleReading, matchList, simpleMatch, listed, same]
    · simp [simpleReading, matchList, simpleMatch, listed, onlyEntry, same, Ne.symm same]
  judge_extends {before after owner term} route grows mem := by
    have alike : term.clauses.all (simpleMatch after route) =
        term.clauses.all (simpleMatch before route) := by
      rw [Bool.eq_iff_iff, List.all_eq_true, List.all_eq_true]
      apply forall₂_congr
      intro clause isClause
      rw [simpleMatch_extends grows mem isClause]
    simp only [simpleReading, alike]

/-- A router with one route-map, for what goes out to its peer. -/
def simpleConfig (name : String) : List ConfigLine :=
  [.ofWords 0 ["route-map", name, "permit", "10"], .ofWords 1 ["set", "metric", "7"],
    .ofWords 0 ["router", "bgp", "65001"],
    .ofWords 2 ["neighbor", "10.0.0.1", "route-map", name, "out"]]

def simpleState (name : String) : FrrState String where
  asn := 65001
  peers := ["10.0.0.1"]
  maps owner := (shownTerms owner (simpleConfig name)).map ShownTerm.term
  lists _ := []
  attached peer direction := if peer = "10.0.0.1" ∧ direction = .outbound then some name else none
  networks _ := none

theorem isNumeral_ten : Text.isNumeral "10" = true := by rfl

/-- The term of its route-map. -/
def simpleTerm : ShownTerm where
  action := .permit
  digits := "10"
  numeral := isNumeral_ten
  body := [.ofWords 1 ["set", "metric", "7"]]

theorem clauses_simpleTerm : simpleTerm.clauses = [["set", "metric", "7"]] := by rfl

theorem shownTerms_simpleConfig {name : String} (isName : Text.isSolid name = true)
    (owner : String) :
    shownTerms owner (simpleConfig name) = if name = owner then [simpleTerm] else [] := by
  have solid : ["route-map", "permit", "10", "set", "metric", "7", "router", "bgp", "65001",
      "neighbor", "10.0.0.1", "out"].all Text.isSolid = true := by rfl
  simp only [List.all_cons, Bool.and_eq_true] at solid
  simp [simpleConfig, shownTerms, ConfigLine.ofWords, readHeader, isName, solid]
  split
  · simp [readAction, ConfigLine.inside, simpleTerm, ConfigLine.ofWords, isNumeral_ten, solid]
  · rfl

theorem running_simpleState {name : String} (isName : Text.isSolid name = true) :
    Running simpleShell (simpleConfig name) (simpleState name) where
  maps _ := rfl
  ascending owner := by
    change ((shownTerms owner (simpleConfig name)).map ShownTerm.term).Pairwise _
    rw [shownTerms_simpleConfig isName]
    split <;> simp
  enterable owner shown mem := by
    rw [shownTerms_simpleConfig isName] at mem
    split at mem
    · rw [List.mem_singleton] at mem
      subst mem
      constructor
      · rw [clauses_simpleTerm]
        decide
      · rw [clauses_simpleTerm]
        rfl
    · cases mem

def simpleToken : PolicyToken where
  digits := List.replicate 12 '0'
  hex := by
    intro c mem
    rw [List.eq_of_mem_replicate mem]
    simp
  twelve := rfl

theorem head?_policyName (token : PolicyToken) (index : Nat) (rest : String) :
    (policyName token index ++ rest).toList.head? = some 'P' := by
  simp [policyName, PolicyToken.text]

theorem fresh_simpleState {name : String} (isName : Text.isSolid name = true)
    (small : name.toList.head? ≠ some 'P') (token : PolicyToken) :
    FreshToken token (simpleState name) where
  maps index := by
    change (shownTerms _ (simpleConfig name)).map ShownTerm.term = []
    rw [shownTerms_simpleConfig isName, if_neg, List.map_nil]
    intro same
    rw [same, ← String.append_empty (s := policyName token index)] at small
    exact small (head?_policyName token index "")
  lists _ := rfl
  unmentioned index owner term mem clause isClause := by
    obtain ⟨shown, isShown, rfl⟩ := List.mem_map.mp mem
    rw [shownTerms_simpleConfig isName] at isShown
    split at isShown
    · rw [List.mem_singleton] at isShown
      subst isShown
      change clause ∈ simpleTerm.clauses at isClause
      rw [clauses_simpleTerm, List.mem_singleton] at isClause
      subst isClause
      have other : ∀ rest, policyName token index ++ rest ∉ ["set", "metric", "7"] := by
        intro rest listed
        have first := head?_policyName token index rest
        revert first
        simp only [List.mem_cons, List.not_mem_nil, or_false] at listed
        obtain same | same | same := listed <;> rw [same] <;> decide
      constructor
      · rw [← String.append_empty (s := policyName token index)]
        exact other ""
      · exact other "L"
    · cases isShown

theorem clonable_simpleState {name : String} (isName : Text.isSolid name = true)
    (known : ((parseBgpConfig ((simpleConfig name).map ConfigLine.text)).neighbor
      "10.0.0.1").isSome = true)
    (attached : firstAttachment (simpleConfig name) "10.0.0.1" .outbound = some name) :
    ∀ slot ∈ policySlots ["10.0.0.1"] none,
      Clonable (simpleConfig name) (simpleState name) .outbound slot := by
  intro slot mem
  rw [policySlots, List.map_singleton, List.mem_singleton] at mem
  subst mem
  constructor
  · intro address isPeer
    cases isPeer
    exact Option.isSome_iff_ne_none.mp known
  · intro owner isOwner
    have same : name = owner := Option.some.inj (attached.symm.trans isOwner)
    subst same
    change (shownTerms name (simpleConfig name)).map ShownTerm.term ≠ [] ∧
      ∀ term ∈ (shownTerms name (simpleConfig name)).map ShownTerm.term, 1 < term.sequence
    rw [shownTerms_simpleConfig isName, if_pos rfl, List.map_singleton]
    constructor
    · exact List.cons_ne_nil _ _
    · intro term isTerm
      rw [List.mem_singleton.mp isTerm]
      decide

theorem known_simpleState (name : String) : ∀ peer ∈ ["10.0.0.1"],
    peer ∈ (simpleState name).peers ∧ Text.Solid peer := by
  intro peer mem
  rw [List.mem_singleton] at mem
  subst mem
  exact ⟨List.mem_singleton_self _, Text.isSolid_iff.mp (by rfl)⟩

theorem solid_simpleTarget : Text.Solid "192.168.1.0/30" := Text.isSolid_iff.mp (by rfl)

/-- A policy is scoped and given back. -/
theorem prefixPolicy_scopes_allow :
    (∃ operations, prefixPolicy simpleToken ((simpleConfig "RM-ALLOW").map ConfigLine.text) 65001
      "192.168.1.0/30" ["10.0.0.1"] .outbound none = .ok operations) ∧
    ∀ operations, prefixPolicy simpleToken ((simpleConfig "RM-ALLOW").map ConfigLine.text) 65001
        "192.168.1.0/30" ["10.0.0.1"] .outbound none = .ok operations →
      ∃ applied, ScopesSlots simpleShell (simpleState "RM-ALLOW") "192.168.1.0/30" .outbound
        (policySlots ["10.0.0.1"] none) operations applied := by
  have isName : Text.isSolid "RM-ALLOW" = true := by rfl
  have isPeer : ((parseBgpConfig ((simpleConfig "RM-ALLOW").map ConfigLine.text)).neighbor
      "10.0.0.1").isSome = true := by rfl
  have attached : firstAttachment (simpleConfig "RM-ALLOW") "10.0.0.1" .outbound =
      some "RM-ALLOW" := by rfl
  have both := @prefixPolicy_scopes_iff _ _ _ simpleShell (simpleConfig "RM-ALLOW")
    (simpleState "RM-ALLOW") simpleToken "192.168.1.0/30" "192.168.1.0/30" .outbound ["10.0.0.1"] none
    (running_simpleState isName) (fresh_simpleState isName (by simp) simpleToken)
    solid_simpleTarget rfl (known_simpleState "RM-ALLOW") nofun
  constructor
  · exact both.1 (clonable_simpleState isName isPeer attached)
  · intro operations built
    apply (both.2 operations built).mpr
    intro slot mem
    rw [policySlots, List.map_singleton, List.mem_singleton] at mem
    subst mem
    constructor
    · rw [readOriginal, attached]
      rfl
    · rw [readOriginal, attached]
      intro ambiguous
      obtain ⟨name, isName, occurs⟩ := ambiguous
      cases isName
      revert occurs
      decide

/-- The header of a route-map with the name `map` is spoilt, and the router takes no policy. -/
theorem prefixPolicy_map :
    Running simpleShell (simpleConfig "map") (simpleState "map") ∧
    FreshToken simpleToken (simpleState "map") ∧
    slotNow "192.168.1.0/30" .outbound (simpleState "map") (.peer "10.0.0.1") =
      some (some "map") ∧
    (∀ term ∈ (simpleState "map").maps "map", 1 < term.sequence) ∧
    ∃ operations, prefixPolicy simpleToken ((simpleConfig "map").map ConfigLine.text) 65001
        "192.168.1.0/30" ["10.0.0.1"] .outbound none = .ok operations ∧
      ¬ ∃ applied, ScopesSlots simpleShell (simpleState "map") "192.168.1.0/30" .outbound
        (policySlots ["10.0.0.1"] none) operations applied := by
  have isName : Text.isSolid "map" = true := by rfl
  have isPeer : ((parseBgpConfig ((simpleConfig "map").map ConfigLine.text)).neighbor
      "10.0.0.1").isSome = true := by rfl
  have attached : firstAttachment (simpleConfig "map") "10.0.0.1" .outbound = some "map" := by
    rfl
  have running := running_simpleState isName
  have clonable := clonable_simpleState isName isPeer attached
  have parsed : ∀ p ∈ (none : Option ParsedNetwork),
      p ∈ (parseBgpConfig ((simpleConfig "map").map ConfigLine.text)).networks := nofun
  obtain ⟨operations, built⟩ := @builds_prefixPolicy _ _ _ simpleShell (simpleConfig "map")
    (simpleState "map") simpleToken "192.168.1.0/30" .outbound ["10.0.0.1"] none running parsed clonable
  have mem : PolicySlot.peer "10.0.0.1" ∈ policySlots ["10.0.0.1"] none := List.mem_singleton_self _
  refine ⟨running, fresh_simpleState isName (by simp) simpleToken, by rfl,
    ((clonable _ mem).2 "map" attached).2, operations, built, ?_⟩
  intro isScoped
  obtain ⟨applied, scopes⟩ := isScoped
  apply not_ambiguous_of_applies (known_simpleState "map") parsed built "192.168.1.0/30"
    scopes.applies mem
  exact ⟨"map", attached, by decide⟩

end NetOpsBench
