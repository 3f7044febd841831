import NetOpsBench.Faults.ShownTerms

/-!
# The commands of a scoped policy

What the shell reads in each command, and what the commands of an operation do.
-/

namespace NetOpsBench

/-! ## What the shell reads -/

/-- The fixed words of the commands. -/
def frrKeywords : List String :=
  ["configure", "terminal", "ip", "prefix-list", "seq", "5", "permit", "route-map", "deny", "1",
    "100", "match", "address", "router", "bgp", "address-family", "ipv4", "unicast", "neighbor",
    "no", "network", "exit-address-family", "exit", "end", "write", "memory", "clear", "soft", "in",
    "out"]

theorem solid_of_mem_frrKeywords {word : String} (mem : word ∈ frrKeywords) : Text.Solid word := by
  have all : ∀ word ∈ frrKeywords, Text.isSolid word = true := by decide +kernel
  exact Text.isSolid_iff.mp (all word mem)

/-- A command of fixed words and of names is read as these. -/
theorem words_eq {command : String} {words : List String} (names : List String)
    (same : command = Text.join " " words) (solid : ∀ name ∈ names, Text.Solid name)
    (parts : ∀ word ∈ words, word ∈ frrKeywords ∨ word ∈ names) : Text.words command = words := by
  rw [same]
  apply Text.words_join
  intro word mem
  exact (parts word mem).elim solid_of_mem_frrKeywords (solid word)

theorem Direction.text_mem (direction : Direction) : direction.text ∈ frrKeywords := by
  cases direction <;> simp [Direction.text, frrKeywords]

section Commands

variable {name target peer : String}

theorem words_newList (isName : Text.Solid name) (isTarget : Text.Solid target) :
    Text.words ("ip prefix-list " ++ name ++ " seq 5 permit " ++ target) =
      ["ip", "prefix-list", name, "seq", "5", "permit", target] := by
  apply words_eq [name, target]
  · apply String.toList_inj.mp
    simp [Text.join]
  · simp [isName, isTarget]
  · simp [frrKeywords]

theorem words_denyTerm (isName : Text.Solid name) :
    Text.words ("route-map " ++ name ++ " deny 1") = ["route-map", name, "deny", "1"] := by
  apply words_eq [name]
  · apply String.toList_inj.mp
    simp [Text.join]
  · simpa using isName
  · simp [frrKeywords]

theorem words_permitTerm (isName : Text.Solid name) :
    Text.words ("route-map " ++ name ++ " permit 100") = ["route-map", name, "permit", "100"] := by
  apply words_eq [name]
  · apply String.toList_inj.mp
    simp [Text.join]
  · simpa using isName
  · simp [frrKeywords]

theorem words_matchList (isName : Text.Solid name) :
    Text.words ("match ip address prefix-list " ++ name) = matchList name := by
  apply words_eq [name]
  · apply String.toList_inj.mp
    simp [Text.join, matchList]
  · simpa using isName
  · simp [frrKeywords, matchList]

theorem words_router (asn : Nat) :
    Text.words ("router bgp " ++ toString asn) = ["router", "bgp", toString asn] := by
  apply words_eq [toString asn]
  · apply String.toList_inj.mp
    simp [Text.join]
  · simpa using Text.Solid.toString asn
  · simp [frrKeywords]

theorem words_attach (isPeer : Text.Solid peer) (isName : Text.Solid name) (direction : Direction) :
    Text.words ("neighbor " ++ peer ++ " route-map " ++ name ++ " " ++ direction.text) =
      ["neighbor", peer, "route-map", name, direction.text] := by
  apply words_eq [peer, name]
  · apply String.toList_inj.mp
    simp [Text.join]
  · simp [isPeer, isName]
  · have isWord := direction.text_mem
    simp [frrKeywords] at isWord ⊢
    exact .inl isWord

theorem words_detach (isPeer : Text.Solid peer) (isName : Text.Solid name) (direction : Direction) :
    Text.words ("no neighbor " ++ peer ++ " route-map " ++ name ++ " " ++ direction.text) =
      ["no", "neighbor", peer, "route-map", name, direction.text] := by
  apply words_eq [peer, name]
  · apply String.toList_inj.mp
    simp [Text.join]
  · simp [isPeer, isName]
  · have isWord := direction.text_mem
    simp [frrKeywords] at isWord ⊢
    exact .inl isWord

theorem words_refresh (isPeer : Text.Solid peer) (direction : Direction) :
    Text.words ("clear bgp ipv4 unicast " ++ peer ++ " soft " ++ direction.text) =
      ["clear", "bgp", "ipv4", "unicast", peer, "soft", direction.text] := by
  apply words_eq [peer]
  · apply String.toList_inj.mp
    simp [Text.join]
  · simpa using isPeer
  · have isWord := direction.text_mem
    simp [frrKeywords] at isWord ⊢
    exact .inl isWord

theorem words_originateBy (isTarget : Text.Solid target) (isName : Text.Solid name) :
    Text.words ("network " ++ target ++ " route-map " ++ name) =
      ["network", target, "route-map", name] := by
  apply words_eq [target, name]
  · apply String.toList_inj.mp
    simp [Text.join]
  · simp [isTarget, isName]
  · simp [frrKeywords]

theorem words_withdrawBy (isTarget : Text.Solid target) (isName : Text.Solid name) :
    Text.words ("no network " ++ target ++ " route-map " ++ name) =
      ["no", "network", target, "route-map", name] := by
  apply words_eq [target, name]
  · apply String.toList_inj.mp
    simp [Text.join]
  · simp [isTarget, isName]
  · simp [frrKeywords]

theorem words_originate (isTarget : Text.Solid target) :
    Text.words ("network " ++ target) = ["network", target] := by
  apply words_eq [target]
  · apply String.toList_inj.mp
    simp [Text.join]
  · simpa using isTarget
  · simp [frrKeywords]

theorem words_withdraw (isTarget : Text.Solid target) :
    Text.words ("no network " ++ target) = ["no", "network", target] := by
  apply words_eq [target]
  · apply String.toList_inj.mp
    simp [Text.join]
  · simpa using isTarget
  · simp [frrKeywords]

theorem words_dropMap (isName : Text.Solid name) :
    Text.words ("no route-map " ++ name) = ["no", "route-map", name] := by
  apply words_eq [name]
  · apply String.toList_inj.mp
    simp [Text.join]
  · simpa using isName
  · simp [frrKeywords]

theorem words_dropList (isName : Text.Solid name) :
    Text.words ("no ip prefix-list " ++ name) = ["no", "ip", "prefix-list", name] := by
  apply words_eq [name]
  · apply String.toList_inj.mp
    simp [Text.join]
  · simpa using isName
  · simp [frrKeywords]

/-- A command of fixed words alone. -/
theorem words_fixed {command : String} {words : List String} (same : command = Text.join " " words)
    (parts : ∀ word ∈ words, word ∈ frrKeywords) : Text.words command = words :=
  words_eq [] same nofun fun word mem => .inl (parts word mem)

theorem words_configure : Text.words "configure terminal" = ["configure", "terminal"] :=
  words_fixed rfl (by simp [frrKeywords])

theorem words_family :
    Text.words "address-family ipv4 unicast" = ["address-family", "ipv4", "unicast"] :=
  words_fixed rfl (by simp [frrKeywords])

theorem words_exitFamily : Text.words "exit-address-family" = ["exit-address-family"] :=
  words_fixed rfl (by simp [frrKeywords])

theorem words_exit : Text.words "exit" = ["exit"] := words_fixed rfl (by simp [frrKeywords])

theorem words_end : Text.words "end" = ["end"] := words_fixed rfl (by simp [frrKeywords])

theorem words_write : Text.words "write memory" = ["write", "memory"] :=
  words_fixed rfl (by simp [frrKeywords])

end Commands

/-! ## The clone in the shell -/

section Clones

variable {Net Route : Type} [DecidableEq Net] {shell : Vtysh Net Route} {state : FrrState Net}
  {node : CliNode} {name routeMap : String}

/-- The clause lines of a term are entered one after the other; empty lines do nothing. -/
theorem run_clauses {terms : List RouteTerm} {term : RouteTerm} {clauses : List (List String)}
    {more : List String} (body : List ConfigLine)
    (below : ∀ other ∈ terms, other.sequence < term.sequence)
    (keywords : ∀ line ∈ body, ∀ word ∈ line.words.head?, word ∈ clauseKeywords)
    (enters : ((body.map ConfigLine.words).filter (· ≠ [])).foldlM shell.enter term.clauses =
      some clauses) :
    shell.run (.routeMap routeMap term.sequence) (state.setMap routeMap (terms ++ [term]))
        (body.map (fun line => Text.join " " line.words) ++ more) =
      shell.run (.routeMap routeMap term.sequence)
        (state.setMap routeMap (terms ++ [{ term with clauses }])) more := by
  induction body generalizing term with
  | nil =>
      cases enters
      rfl
  | cons line body ih =>
      have later := fun other mem => keywords other (List.mem_cons_of_mem line mem)
      rw [List.map_cons, List.cons_append]
      cases shape : line.words with
      | nil =>
          rw [List.map_cons, shape, List.filter_cons_of_neg (by simp)] at enters
          rw [Vtysh.run_step .empty rfl]
          exact ih below later enters
      | cons keyword words =>
          have isClause := keywords line (List.mem_cons_self ..) keyword (by simp [shape])
          rw [List.map_cons, shape, List.filter_cons_of_pos (by simp), List.foldlM_cons] at enters
          cases first : shell.enter term.clauses (keyword :: words) with
          | none => simp [first] at enters
          | some entered =>
              have here := find?_last below
              rw [← FrrState.maps_setMap state routeMap (terms ++ [term])] at here
              rw [Vtysh.run_step (.clause isClause here first)
                (Text.words_join (shape ▸ line.solid)), FrrState.setClauses_last _ _ _ below]
              rw [first] at enters
              exact @ih { term with clauses := entered } below later enters

/-- The header of a clone is read as that of a term of the new route-map. -/
theorem words_cloneHeader (isName : Text.Solid name) (isMap : Text.Solid routeMap)
    (absent : ¬ name.toList <:+: "route-map".toList) (shown : ShownTerm) :
    Text.words (Text.replaceFirst (Text.join " " (shown.header name)) name routeMap) =
      shown.header routeMap := by
  have split : ∀ owner, Text.join " " (shown.header owner) =
      "route-map" ++ " " ++ owner ++ (" " ++ shown.action.text ++ " " ++ shown.digits) := by
    intro owner
    apply String.toList_inj.mp
    simp [Text.join, ShownTerm.header]
  rw [split, Text.replaceFirst_word isName absent, ← split]
  exact Text.words_join (shown.solid_header isMap)

/-- A term that can be entered again, clause by clause. -/
structure ShownTerm.Enterable (shell : Vtysh Net Route) (shown : ShownTerm) : Prop where
  keywords : ∀ clause ∈ shown.clauses, ∀ word ∈ clause.head?, word ∈ clauseKeywords
  entered : shown.clauses.foldlM shell.enter [] = some shown.clauses

theorem ShownTerm.Enterable.keywords_keptBody {shown : ShownTerm} (enterable : shown.Enterable shell) :
    ∀ line ∈ shown.keptBody, ∀ word ∈ line.words.head?, word ∈ clauseKeywords := by
  intro line mem word isFirst
  apply enterable.keywords line.words ?_ word isFirst
  rw [← shown.filter_keptBody, List.mem_filter]
  constructor
  · exact List.mem_map_of_mem mem
  · cases shape : line.words with
    | nil => simp [shape] at isFirst
    | cons keyword words => simp

theorem run_term (isName : Text.Solid name) (isMap : Text.Solid routeMap)
    (absent : ¬ name.toList <:+: "route-map".toList) {shown : ShownTerm}
    (enterable : shown.Enterable shell) {terms : List RouteTerm} {more : List String}
    (configures : node.Configures)
    (below : ∀ other ∈ terms, other.sequence < shown.term.sequence) :
    shell.run node (state.setMap routeMap terms) (shown.cloneLines name routeMap ++ more) =
      shell.run (.routeMap routeMap shown.term.sequence)
        (state.setMap routeMap (terms ++ [shown.term])) more := by
  have new : ∀ term ∈ (state.setMap routeMap terms).maps routeMap,
      term.sequence ≠ Text.numeralValue shown.digits := by
    intro term mem
    rw [FrrState.maps_setMap] at mem
    exact (below term mem).ne
  have opened : insertTerm ⟨Text.numeralValue shown.digits, shown.action, []⟩ terms =
      terms ++ [⟨Text.numeralValue shown.digits, shown.action, []⟩] := insertTerm_eq_append below
  have entered : ((shown.keptBody.map ConfigLine.words).filter (· ≠ [])).foldlM shell.enter [] =
      some shown.clauses := by
    rw [shown.filter_keptBody]
    exact enterable.entered
  unfold ShownTerm.cloneLines
  rw [List.cons_append, Vtysh.run_step (.newTerm configures shown.numeral new)
    (words_cloneHeader isName isMap absent shown), FrrState.maps_setMap, FrrState.setMap_setMap,
    opened]
  exact @run_clauses _ _ _ shell state routeMap terms { shown.term with clauses := [] } _ more
    shown.keptBody below enterable.keywords_keptBody entered

/-- The terms of a route-map are cloned one after the other. -/
theorem run_terms (isName : Text.Solid name) (isMap : Text.Solid routeMap)
    (absent : ¬ name.toList <:+: "route-map".toList) {shown : List ShownTerm}
    (enterable : ∀ term ∈ shown, term.Enterable shell) {terms : List RouteTerm}
    {more : List String} (configures : node.Configures)
    (below : ∀ other ∈ terms, ∀ term ∈ shown, other.sequence < term.term.sequence)
    (ascending : (shown.map ShownTerm.term).Pairwise fun a b => a.sequence < b.sequence) :
    ∃ node' : CliNode, node'.Configures ∧
      shell.run node (state.setMap routeMap terms)
          ((shown.map (ShownTerm.cloneLines name routeMap)).flatten ++ more) =
        shell.run node' (state.setMap routeMap (terms ++ shown.map ShownTerm.term)) more := by
  induction shown generalizing node terms with
  | nil =>
      refine ⟨node, configures, ?_⟩
      simp
  | cons first rest ih =>
      rw [List.map_cons, List.pairwise_cons] at ascending
      have isFirst := fun other mem => below other mem first (List.mem_cons_self ..)
      have later : ∀ other ∈ terms ++ [first.term], ∀ term ∈ rest,
          other.sequence < term.term.sequence := by
        intro other mem term isTerm
        rcases List.mem_append.mp mem with old | new
        · exact below other old term (List.mem_cons_of_mem first isTerm)
        · rw [List.mem_singleton.mp new]
          exact ascending.1 term.term (List.mem_map_of_mem isTerm)
      obtain ⟨node', configures', runs⟩ := ih (fun term mem => enterable term (List.mem_cons_of_mem _ mem))
        (.routeMap routeMap first.term.sequence) later ascending.2
      refine ⟨node', configures', ?_⟩
      rw [List.map_cons, List.flatten_cons, List.append_assoc,
        run_term isName isMap absent (enterable first (List.mem_cons_self ..)) configures isFirst, runs,
        List.map_cons, List.append_assoc, List.singleton_append]

end Clones

/-! ## An operation in the shell -/

/-- The term before those of a clone. -/
def guardTerm (list : String) : RouteTerm where
  sequence := 1
  action := .deny
  clauses := [matchList list]

/-- The terms that a clone has after the first one. -/
def clonedTerms (config : List ConfigLine) (original : Option String) : List RouteTerm :=
  match original with
  | none => [⟨100, .permit, []⟩]
  | some name => (shownTerms name config).map ShownTerm.term

/-- The router runs the configuration that the text shows. -/
structure Running {Net Route : Type} [DecidableEq Net] (shell : Vtysh Net Route)
    (config : List ConfigLine) (state : FrrState Net) : Prop where
  maps : ∀ name, state.maps name = (shownTerms name config).map ShownTerm.term
  ascending : ∀ name, (state.maps name).Pairwise fun a b => a.sequence < b.sequence
  enterable : ∀ name, ∀ shown ∈ shownTerms name config, shown.Enterable shell

/-- The commands of a clone of what is attached, from the blocks of the text. -/
theorem clonePolicy_some {config : List ConfigLine} {name routeMap : String} {cloned : List String}
    (isName : Text.Solid name) :
    clonePolicy (config.map ConfigLine.text) (some name) routeMap = .ok cloned ↔
      shownTerms name config ≠ [] ∧
        (∀ shown ∈ shownTerms name config, 1 < shown.term.sequence) ∧
        cloned = ((shownTerms name config).map (ShownTerm.cloneLines name routeMap)).flatten := by
  have blocks : ∀ (shown : List ShownTerm) (lines : List (List String)),
      (shown.map (ShownTerm.lines name)).mapM (cloneBlock name routeMap) = .ok lines ↔
        (∀ term ∈ shown, 1 < term.term.sequence) ∧
          lines = shown.map (ShownTerm.cloneLines name routeMap) := by
    intro shown
    induction shown with
    | nil =>
        intro lines
        simp [pure, Except.pure, eq_comm]
    | cons first rest ih =>
        intro lines
        rw [List.map_cons, List.mapM_cons, ShownTerm.cloneBlock_lines isName, List.forall_mem_cons]
        by_cases low : first.term.sequence ≤ 1
        · rw [if_pos low, Fallible.error_bind]
          constructor
          · nofun
          · intro safe
            omega
        · rw [if_neg low, Fallible.ok_bind, Fallible.bind_eq_ok]
          simp only [ih, Fallible.pure_eq_ok]
          constructor
          · intro done
            obtain ⟨tail, ⟨safe, rfl⟩, rfl⟩ := done
            exact ⟨⟨by omega, safe⟩, rfl⟩
          · intro shape
            obtain ⟨⟨_, safe⟩, rfl⟩ := shape
            exact ⟨_, ⟨safe, rfl⟩, rfl⟩
  unfold clonePolicy
  dsimp only
  rw [policyBlocks_text]
  by_cases empty : shownTerms name config = []
  · simp [empty]
  · rw [if_neg (by simpa using empty), Fallible.bind_eq_ok]
    constructor
    · intro done
      obtain ⟨lines, each, isCloned⟩ := done
      obtain ⟨safe, rfl⟩ := (blocks _ lines).mp each
      cases isCloned
      exact ⟨empty, safe, rfl⟩
    · intro shape
      obtain ⟨_, safe, rfl⟩ := shape
      exact ⟨_, (blocks _ _).mpr ⟨safe, rfl⟩, rfl⟩

/-- The word that a header must not hold. -/
def Ambiguous (original : Option String) : Prop :=
  ∃ name ∈ original, name.toList <:+: "route-map".toList

section Operations

variable {Net Route : Type} [DecidableEq Net] {shell : Vtysh Net Route} {config : List ConfigLine}
  {before state : FrrState Net} {target routeMap : String} {network : Net} {original : Option String}
  {cloned more : List String}

theorem answer_newTerm {node : CliNode} {name digits : String} (action : TermAction)
    (configures : node.Configures) (numeral : Text.isNumeral digits = true)
    (new : ∀ term ∈ state.maps name, term.sequence ≠ Text.numeralValue digits) :
    shell.toFrrReading.Answers node state ["route-map", name, action.text, digits]
      (some (.routeMap name (Text.numeralValue digits), state.setMap name
        (insertTerm ⟨Text.numeralValue digits, action, []⟩ (state.maps name)))) :=
  .newTerm configures numeral new

theorem run_clone (running : Running shell config before) (isMap : Text.Solid routeMap)
    (isName : ∀ name ∈ original, Text.Solid name) (read : ¬ Ambiguous original)
    (isCloned : clonePolicy (config.map ConfigLine.text) original routeMap = .ok cloned)
    (list : String) :
    ∃ node : CliNode, node.Configures ∧
      shell.run (.routeMap routeMap 1) (state.setMap routeMap [guardTerm list]) (cloned ++ more) =
        shell.run node (state.setMap routeMap (guardTerm list :: clonedTerms config original))
          more := by
  cases original with
  | none =>
      cases isCloned
      refine ⟨.routeMap routeMap 100, .routeMap routeMap 100, ?_⟩
      have new : ∀ term ∈ (state.setMap routeMap [guardTerm list]).maps routeMap,
          term.sequence ≠ Text.numeralValue "100" := by
        rw [FrrState.maps_setMap]
        intro term mem
        rw [List.mem_singleton.mp mem]
        change (1 : Nat) ≠ 100
        decide
      rw [List.singleton_append, Vtysh.run_step (answer_newTerm .permit (.routeMap routeMap 1) rfl new)
        (words_permitTerm isMap), FrrState.maps_setMap, FrrState.setMap_setMap]
      rfl
  | some name =>
      obtain ⟨_, safe, rfl⟩ := (clonePolicy_some (isName name rfl)).mp isCloned
      have absent : ¬ name.toList <:+: "route-map".toList := fun occurs => read ⟨name, rfl, occurs⟩
      have ascending := running.ascending name
      rw [running.maps] at ascending
      exact run_terms (isName name rfl) isMap absent (running.enterable name) (.routeMap routeMap 1)
        (fun other mem shown isShown => by
          cases List.mem_singleton.mp mem
          exact safe shown isShown) ascending

theorem solid_list (isMap : Text.Solid routeMap) : Text.Solid (routeMap ++ "L") :=
  isMap.append (by constructor <;> simp [Text.isSpace])

/-- The first commands make the list and the term before those of the clone. -/
theorem run_guard (isMap : Text.Solid routeMap) (isTarget : Text.Solid target)
    (reads : shell.readNetwork target = some network) (newMap : state.maps routeMap = [])
    (newList : state.lists (routeMap ++ "L") = []) :
    shell.run .view state ("configure terminal" ::
        ("ip prefix-list " ++ (routeMap ++ "L") ++ " seq 5 permit " ++ target) ::
        ("route-map " ++ routeMap ++ " deny 1") ::
        ("match ip address prefix-list " ++ (routeMap ++ "L")) :: more) =
      shell.run (.routeMap routeMap 1) ((state.setList (routeMap ++ "L") [onlyEntry target]).setMap
        routeMap [guardTerm (routeMap ++ "L")]) more := by
  have isList := solid_list isMap
  have listed : (state.setList (routeMap ++ "L") [onlyEntry target]).maps routeMap = [] := newMap
  have one : Text.numeralValue "1" = 1 := rfl
  have noTerm : ∀ term ∈ (state.setList (routeMap ++ "L") [onlyEntry target]).maps routeMap,
      term.sequence ≠ Text.numeralValue "1" := by
    rw [listed]
    nofun
  have found : (((state.setList (routeMap ++ "L") [onlyEntry target]).setMap routeMap
      [⟨1, .deny, []⟩]).maps routeMap).find? (fun term => decide (term.sequence = 1)) =
        some ⟨1, .deny, []⟩ := by
    rw [FrrState.maps_setMap]
    rfl
  have guarded : ((state.setList (routeMap ++ "L") [onlyEntry target]).setMap routeMap
      [⟨1, .deny, []⟩]).setClauses routeMap 1 [matchList (routeMap ++ "L")] =
        (state.setList (routeMap ++ "L") [onlyEntry target]).setMap routeMap
          [guardTerm (routeMap ++ "L")] := by
    simp [FrrState.setClauses, guardTerm]
  rw [Vtysh.run_step .configure words_configure,
    Vtysh.run_step (.newList reads newList) (words_newList isList isTarget),
    Vtysh.run_step (answer_newTerm .deny .config rfl noTerm) (words_denyTerm isMap), listed, one]
  rw [insertTerm, Vtysh.run_step (.clause (by simp [clauseKeywords]) found (shell.enter_list _))
    (words_matchList isList)]
  rw [guarded]

/-- The commands before the attachment make the list and the new route-map. -/
theorem run_setup (running : Running shell config before) (isMap : Text.Solid routeMap)
    (isTarget : Text.Solid target) (reads : shell.readNetwork target = some network)
    (isName : ∀ name ∈ original, Text.Solid name) (read : ¬ Ambiguous original)
    (isCloned : clonePolicy (config.map ConfigLine.text) original routeMap = .ok cloned)
    (newMap : state.maps routeMap = []) (newList : state.lists (routeMap ++ "L") = []) :
    shell.run .view state
        ("configure terminal" :: (applySetup target routeMap cloned state.asn ++ more)) =
      shell.run .unicast ((state.setList (routeMap ++ "L") [onlyEntry target]).setMap routeMap
        (guardTerm (routeMap ++ "L") :: clonedTerms config original)) more := by
  obtain ⟨node, configures, runs⟩ := @run_clone _ _ _ shell config before
    (state.setList (routeMap ++ "L") [onlyEntry target]) routeMap original cloned
    (["router bgp " ++ toString state.asn, "address-family ipv4 unicast"] ++ more)
    running isMap isName read isCloned (routeMap ++ "L")
  unfold applySetup
  rw [List.append_assoc, List.append_assoc, List.cons_append, List.cons_append, List.cons_append,
    List.nil_append, run_guard isMap isTarget reads newMap newList, runs, List.cons_append,
    List.cons_append, List.nil_append]
  have routed : shell.toFrrReading.Answers node
      ((state.setList (routeMap ++ "L") [onlyEntry target]).setMap routeMap
        (guardTerm (routeMap ++ "L") :: clonedTerms config original))
      ["router", "bgp", toString state.asn] (some (.bgp, _)) := .router configures
  rw [Vtysh.run_step routed (words_router state.asn), Vtysh.run_step .family words_family]

/-! ## The attachments -/

/-- What is attached to a slot, if the slot is there. -/
def slotNow (network : Net) (direction : Direction) (state : FrrState Net) :
    PolicySlot → Option (Option String)
  | .peer address => some (state.attached address direction)
  | .network _ => state.networks network

def setSlot (network : Net) (direction : Direction) (state : FrrState Net) (slot : PolicySlot)
    (map : Option String) : FrrState Net :=
  match slot with
  | .peer address => state.attach address direction map
  | .network _ => state.setNetwork network (some map)

/-- The peer is one of the router's. -/
def SlotKnown (state : FrrState Net) : PolicySlot → Prop
  | .peer address => address ∈ state.peers ∧ Text.Solid address
  | .network _ => True

variable {direction : Direction} {slot : PolicySlot}

theorem words_statement (isTarget : Text.Solid target) (isName : ∀ name ∈ original, Text.Solid name) :
    ∃ words, Text.words ("no " ++ formatNetworkStatement target original) =
        "no" :: "network" :: target :: words ∧
      (words = [] ∨ ∃ name, words = ["route-map", name]) := by
  cases original with
  | none =>
      exact ⟨[], words_withdraw isTarget, .inl rfl⟩
  | some name =>
      refine ⟨["route-map", name], ?_, .inr ⟨name, rfl⟩⟩
      have same : "no " ++ formatNetworkStatement target (some name) =
          "no network " ++ target ++ " route-map " ++ name := by
        apply String.toList_inj.mp
        simp [formatNetworkStatement]
      rw [same]
      exact words_withdrawBy isTarget (isName name rfl)

theorem run_applySlot (isMap : Text.Solid routeMap) (isTarget : Text.Solid target)
    (reads : shell.readNetwork target = some network)
    (isName : ∀ name ∈ original, Text.Solid name) (known : SlotKnown state slot)
    (there : slotNow network direction state slot ≠ none) :
    shell.run .unicast state (applySlot target routeMap direction original slot ++ more) =
      shell.run .unicast (setSlot network direction state slot (some routeMap)) more := by
  cases slot with
  | peer address =>
      exact Vtysh.run_step (.attach known.1) (words_attach known.2 isMap direction)
  | network statement =>
      obtain ⟨words, readsWords, shape⟩ := words_statement isTarget isName
      have again : (state.setNetwork network none).setNetwork network (some (some routeMap)) =
          state.setNetwork network (some (some routeMap)) := by
        simp [FrrState.setNetwork]
      unfold applySlot
      rw [List.cons_append, Vtysh.run_step (.withdraw reads there shape) readsWords,
        List.cons_append, Vtysh.run_step (.originateBy reads) (words_originateBy isTarget isMap), again]
      rfl

theorem run_restoreSlot (isMap : Text.Solid routeMap) (isTarget : Text.Solid target)
    (reads : shell.readNetwork target = some network)
    (isName : ∀ name ∈ original, Text.Solid name) (known : SlotKnown state slot)
    (there : slotNow network direction state slot ≠ none) :
    shell.run .unicast state (restoreSlot target routeMap direction original slot ++ more) =
      shell.run .unicast (setSlot network direction state slot original) more := by
  cases slot with
  | peer address =>
      cases original with
      | none => exact Vtysh.run_step (.detach known.1) (words_detach known.2 isMap direction)
      | some name =>
          exact Vtysh.run_step (.attach known.1) (words_attach known.2 (isName name rfl) direction)
  | network statement =>
      have again : (state.setNetwork network none).setNetwork network (some original) =
          state.setNetwork network (some original) := by
        simp [FrrState.setNetwork]
      unfold restoreSlot
      rw [List.cons_append, Vtysh.run_step (.withdraw reads there (.inr ⟨routeMap, rfl⟩))
        (words_withdrawBy isTarget isMap)]
      change shell.run .unicast _ (formatNetworkStatement target original :: more) = _
      cases original with
      | none =>
          rw [formatNetworkStatement, Vtysh.run_step (.originate reads) (words_originate isTarget),
            again]
          rfl
      | some name =>
          rw [formatNetworkStatement, Vtysh.run_step (.originateBy reads)
            (words_originateBy isTarget (isName name rfl)), again]
          rfl

/-! ## The calls -/

theorem run_ending {node : CliNode} (inConfig : node ≠ .view) (known : SlotKnown state slot) :
    shell.run node state (["end", "write memory"] ++ refreshSlot direction slot) =
      some (.view, state) := by
  rw [List.cons_append, Vtysh.run_step (.finish inConfig) words_end, List.cons_append,
    Vtysh.run_step .write words_write]
  cases slot with
  | peer address => exact Vtysh.run_step (.refresh known.1) (words_refresh known.2 direction)
  | network statement => rfl

/-- The router with the list and the route-map of an operation, attached to its slot. -/
def installed (network : Net) (direction : Direction) (target routeMap : String)
    (terms : List RouteTerm) (slot : PolicySlot) (state : FrrState Net) : FrrState Net :=
  setSlot network direction ((state.setList (routeMap ++ "L") [onlyEntry target]).setMap routeMap
    (guardTerm (routeMap ++ "L") :: terms)) slot (some routeMap)

/-- The router with the original policy attached again, and without the list and the route-map. -/
def removed (network : Net) (direction : Direction) (routeMap : String) (original : Option String)
    (slot : PolicySlot) (state : FrrState Net) : FrrState Net :=
  ((setSlot network direction state slot original).setMap routeMap []).setList (routeMap ++ "L") []

theorem slotKnown_setSlot {slot' : PolicySlot} {map : Option String} (known : SlotKnown state slot) :
    SlotKnown (setSlot network direction state slot' map) slot := by
  cases slot <;> cases slot' <;> exact known

theorem call_apply (running : Running shell config before) (isMap : Text.Solid routeMap)
    (isTarget : Text.Solid target) (reads : shell.readNetwork target = some network)
    (isName : ∀ name ∈ original, Text.Solid name) (read : ¬ Ambiguous original)
    (isCloned : clonePolicy (config.map ConfigLine.text) original routeMap = .ok cloned)
    (newMap : state.maps routeMap = []) (newList : state.lists (routeMap ++ "L") = [])
    (known : SlotKnown state slot) (there : slotNow network direction state slot ≠ none) :
    shell.call state
        (buildOperation target routeMap state.asn direction slot original cloned).apply =
      some (installed network direction target routeMap (clonedTerms config original) slot state) := by
  have known' : SlotKnown ((state.setList (routeMap ++ "L") [onlyEntry target]).setMap routeMap
      (guardTerm (routeMap ++ "L") :: clonedTerms config original)) slot := by
    cases slot <;> exact known
  have there' : slotNow network direction ((state.setList (routeMap ++ "L") [onlyEntry target]).setMap
      routeMap (guardTerm (routeMap ++ "L") :: clonedTerms config original)) slot ≠ none := by
    cases slot <;> exact there
  have inConfig : CliNode.unicast ≠ .view := nofun
  unfold Vtysh.call buildOperation inConfiguration
  dsimp only
  rw [List.cons_append, List.cons_append, List.append_assoc, List.append_assoc,
    run_setup running isMap isTarget reads isName read isCloned newMap newList,
    run_applySlot isMap isTarget reads isName known' there',
    run_ending inConfig (slotKnown_setSlot known')]
  rfl

/-- A clone of a header in which the name is found too early is rejected. -/
theorem call_apply_ambiguous (isMap : Text.Solid routeMap)
    (capital : routeMap.toList.any Char.isUpper = true)
    (isName : ∀ name ∈ original, Text.Solid name) (ambiguous : Ambiguous original)
    (isCloned : clonePolicy (config.map ConfigLine.text) original routeMap = .ok cloned)
    (asn : Nat) :
    shell.call state (buildOperation target routeMap asn direction slot original cloned).apply =
      none := by
  obtain ⟨name, isOriginal, occurs⟩ := ambiguous
  cases isOriginal
  have isWord := isName name rfl
  obtain ⟨some, _, rfl⟩ := (clonePolicy_some isWord).mp isCloned
  obtain ⟨shown, rest, terms⟩ := List.exists_cons_of_ne_nil some
  have split : Text.join " " (shown.header name) =
      "route-map" ++ (" " ++ name ++ " " ++ shown.action.text ++ " " ++ shown.digits) := by
    apply String.toList_inj.mp
    simp [Text.join, ShownTerm.header]
  have joined : Text.replaceFirst (Text.join " " (shown.header name)) name routeMap =
      Text.join " " [Text.replaceFirst "route-map" name routeMap, name, shown.action.text,
        shown.digits] := by
    rw [split, Text.replaceFirst_keyword isWord occurs]
    apply String.toList_inj.mp
    simp [Text.join]
  have mem : Text.replaceFirst (Text.join " " (shown.header name)) name routeMap ∈
      (buildOperation target routeMap asn direction slot (Option.some name)
        ((shownTerms name config).map (ShownTerm.cloneLines name routeMap)).flatten).apply := by
    simp [buildOperation, inConfiguration, applySetup, terms, ShownTerm.cloneLines]
  unfold Vtysh.call
  rw [Vtysh.run_eq_none mem]
  · rfl
  · intro node state
    have words : ∀ word ∈ [Text.replaceFirst "route-map" name routeMap, name, shown.action.text,
        shown.digits], Text.Solid word := by
      have header := shown.solid_header isWord
      simp only [ShownTerm.header, List.forall_mem_cons] at header ⊢
      exact ⟨isWord.replaceFirst isMap solid_routeMap occurs, header.2⟩
    rw [joined, Text.words_join words]
    apply shell.answers
    apply FrrReading.Answers.unknown
    obtain ⟨c, isChar, isUpper⟩ := List.any_eq_true.mp capital
    rw [List.any_eq_true]
    refine ⟨c, ?_, isUpper⟩
    unfold Text.replaceFirst
    rw [String.toList_ofList]
    exact Text.mem_replaceFirstFrom isWord.toList_ne_nil occurs isChar

theorem call_restore (isMap : Text.Solid routeMap) (isTarget : Text.Solid target)
    (reads : shell.readNetwork target = some network)
    (isName : ∀ name ∈ original, Text.Solid name) (known : SlotKnown state slot)
    (there : slotNow network direction state slot ≠ none) (isMade : state.maps routeMap ≠ [])
    (isListed : state.lists (routeMap ++ "L") ≠ []) :
    shell.call state
        (buildOperation target routeMap state.asn direction slot original cloned).restore =
      some (removed network direction routeMap original slot state) := by
  have made : (setSlot network direction state slot original).maps routeMap ≠ [] := by
    cases slot <;> exact isMade
  have listed : ((setSlot network direction state slot original).setMap routeMap []).lists
      (routeMap ++ "L") ≠ [] := by
    cases slot <;> exact isListed
  have ending : SlotKnown (removed network direction routeMap original slot state) slot := by
    cases slot <;> exact known
  unfold Vtysh.call buildOperation inConfiguration restoreCleanup
  dsimp only
  rw [List.cons_append, List.cons_append, Vtysh.run_step .configure words_configure]
  simp only [List.cons_append, List.nil_append, List.append_assoc]
  rw [Vtysh.run_step (.router .config) (words_router state.asn),
    Vtysh.run_step .family words_family, run_restoreSlot isMap isTarget reads isName known there,
    Vtysh.run_step .exitFamily words_exitFamily, Vtysh.run_step .exit words_exit,
    Vtysh.run_step (.dropMap made) (words_dropMap isMap),
    Vtysh.run_step (.dropList listed) (words_dropList (solid_list isMap))]
  have ends := @run_ending _ _ _ shell _ direction slot .config nofun ending
  rw [List.cons_append, List.cons_append, List.nil_append] at ends
  unfold removed at ends
  rw [ends]
  rfl

end Operations

end NetOpsBench
