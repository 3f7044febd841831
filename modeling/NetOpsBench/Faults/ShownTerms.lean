import NetOpsBench.Faults.PrefixPolicy

/-!
# Shown terms

The terms of a route-map as a running configuration shows them, and the blocks and clones that the
code makes of its text.
-/

namespace NetOpsBench

/-! ## The terms that a configuration shows -/

/-- A term of a route-map as a running configuration shows it. -/
structure ShownTerm : Type where
  action : TermAction
  digits : String
  numeral : Text.isNumeral digits = true
  body : List ConfigLine

namespace ShownTerm

def header (name : String) (shown : ShownTerm) : List String :=
  ["route-map", name, shown.action.text, shown.digits]

def clauses (shown : ShownTerm) : List (List String) :=
  (shown.body.map ConfigLine.words).filter (· ≠ [])

def term (shown : ShownTerm) : RouteTerm where
  sequence := Text.numeralValue shown.digits
  action := shown.action
  clauses := shown.clauses

/-- The lines of a term. -/
def lines (name : String) (shown : ShownTerm) : List String :=
  Text.join " " (shown.header name) :: shown.body.map ConfigLine.text

end ShownTerm

def readAction (text : String) : Option TermAction :=
  if text = "permit" then some .permit else if text = "deny" then some .deny else none

/-- The header of a term of a route-map. -/
def readHeader (name : String) (words : List String) (body : List ConfigLine) : Option ShownTerm :=
  match words with
  | [keyword, owner, action, digits] =>
      if keyword = "route-map" ∧ owner = name then
        match readAction action with
        | some action =>
            if numeral : Text.isNumeral digits = true then some ⟨action, digits, numeral, body⟩ else none
        | none => none
      else none
  | _ => none

/-- A line inside a section, or an empty one. -/
def ConfigLine.inside (line : ConfigLine) : Bool := decide (0 < line.indent) || line.words.isEmpty

/-- The terms of a route-map, each a header at the margin and the lines inside it. -/
def shownTerms (name : String) : List ConfigLine → List ShownTerm
  | [] => []
  | line :: rest =>
      (if line.indent = 0 then (readHeader name line.words (rest.takeWhile ConfigLine.inside)).toList
        else []) ++ shownTerms name rest

theorem readAction_eq_some {text : String} {action : TermAction} :
    readAction text = some action ↔ text = action.text := by
  unfold readAction
  split
  · rename_i isPermit
    cases action <;> simp [isPermit, TermAction.text]
  · split
    · rename_i isDeny
      cases action <;> simp [isDeny, TermAction.text]
    · cases action <;> simp_all [TermAction.text]

@[simp] theorem readAction_text (action : TermAction) : readAction action.text = some action :=
  readAction_eq_some.mpr rfl

theorem readHeader_eq_some {name : String} {words : List String} {body : List ConfigLine}
    {shown : ShownTerm} (reads : readHeader name words body = some shown) :
    words = shown.header name ∧ shown.body = body := by
  unfold readHeader at reads
  split at reads
  · split at reads
    · rename_i isHeader
      split at reads
      · rename_i action isAction
        split at reads
        · cases reads
          simp [ShownTerm.header, isHeader, readAction_eq_some.mp isAction]
        · cases reads
      · cases reads
    · cases reads
  · cases reads

/-! ## The blocks that the code finds -/

theorem isTermHeader_indented {line : ConfigLine} {name : String} (indented : 0 < line.indent) :
    isTermHeader name line.text = false := by
  obtain ⟨indent, isIndent⟩ := Nat.exists_eq_succ_of_ne_zero indented.ne'
  obtain ⟨rest, fields⟩ := Text.fields_indented indent line.words
  unfold isTermHeader ConfigLine.text
  rw [isIndent, Nat.succ_eq_add_one, fields]
  split
  · rename_i shape
    cases shape
    rfl
  · rfl

theorem text_margin {line : ConfigLine} (margin : line.indent = 0) :
    line.text = Text.join " " line.words := by
  unfold ConfigLine.text Text.lineText
  rw [margin]
  simp

theorem isSome_readAction {text : String} :
    (readAction text).isSome = (text == "permit" || text == "deny") := by
  unfold readAction
  split
  · simp [*]
  · split <;> simp [*]

theorem isHeader_words (name : String) (body : List ConfigLine) (keyword owner action digits : String) :
    (keyword == "route-map" && owner == name && (action == "permit" || action == "deny") &&
      Text.isNumeral digits) = (readHeader name [keyword, owner, action, digits] body).isSome := by
  rw [← isSome_readAction]
  simp only [readHeader]
  by_cases isHeader : keyword = "route-map" ∧ owner = name
  · rw [if_pos isHeader, isHeader.1, isHeader.2]
    cases readAction action with
    | none => simp
    | some action => by_cases numeral : Text.isNumeral digits = true <;> simp [numeral]
  · rw [if_neg isHeader]
    by_cases isRouteMap : keyword = "route-map"
    · have isOther : ¬ owner = name := fun same => isHeader ⟨isRouteMap, same⟩
      simp [isOther]
    · simp [isRouteMap]

theorem isTermHeader_margin {line : ConfigLine} {name : String} (margin : line.indent = 0)
    (body : List ConfigLine) :
    isTermHeader name line.text = (readHeader name line.words body).isSome := by
  have shown : Text.fields line.text = line.words ∨ line.words = [] := by
    rw [text_margin margin]
    by_cases empty : line.words = []
    · exact .inr empty
    · exact .inl (Text.fields_join line.solid empty)
  obtain shown | empty := shown
  · unfold isTermHeader
    rw [shown]
    rcases line.words with _ | ⟨keyword, _ | ⟨owner, _ | ⟨action, _ | ⟨digits, _ | ⟨more, rest⟩⟩⟩⟩⟩
    · rfl
    · rfl
    · rfl
    · rfl
    · exact isHeader_words name body keyword owner action digits
    · rfl
  · unfold isTermHeader
    rw [text_margin margin, empty]
    rfl

theorem isTermBody_text (line : ConfigLine) : isTermBody line.text = line.inside := by
  unfold isTermBody ConfigLine.inside
  cases isIndent : line.indent with
  | zero =>
      rw [text_margin isIndent]
      cases isWords : line.words with
      | nil => rfl
      | cons word rest =>
          have solid := isWords ▸ line.solid
          have some : Text.join " " (word :: rest) ≠ "" := by
            intro empty
            have fields := Text.words_join solid
            rw [empty] at fields
            cases fields
          have first : (Text.join " " (word :: rest)).toList.head? ≠ Option.some ' ' := by
            intro space
            have solid := Text.head?_join solid space
            simp [Text.isSpace] at solid
          simp [some, first]
  | succ indent =>
      unfold ConfigLine.text Text.lineText
      rw [isIndent]
      simp [List.replicate_succ]

/-- The blocks of a route-map are its shown terms. -/
theorem policyBlocks_text (name : String) (config : List ConfigLine) :
    policyBlocks name (config.map ConfigLine.text) =
      (shownTerms name config).map (ShownTerm.lines name) := by
  induction config with
  | nil => rfl
  | cons line config ih =>
      rw [List.map_cons, policyBlocks, shownTerms, List.map_append, ← ih]
      by_cases margin : line.indent = 0
      · rw [if_pos margin, isTermHeader_margin margin (config.takeWhile ConfigLine.inside)]
        cases reads : readHeader name line.words (config.takeWhile ConfigLine.inside) with
        | none => rfl
        | some shown =>
            obtain ⟨isHeader, isBody⟩ := readHeader_eq_some reads
            have body : (config.map ConfigLine.text).takeWhile isTermBody =
                shown.body.map ConfigLine.text := by
              rw [List.takeWhile_map, isBody]
              congr 2
              exact funext isTermBody_text
            rw [body, text_margin margin, isHeader]
            rfl
      · rw [if_neg margin, isTermHeader_indented (Nat.pos_of_ne_zero margin)]
        rfl

/-! ## The clone of a term -/

theorem solid_isNumeral {text : String} (numeral : Text.isNumeral text = true) : Text.Solid text := by
  unfold Text.isNumeral at numeral
  rw [Bool.and_eq_true, List.all_eq_true] at numeral
  constructor
  · simpa using numeral.1
  · intro c mem
    exact Text.isSpace_of_isDigit (numeral.2 c mem)

theorem TermAction.solid_text (action : TermAction) : Text.Solid action.text := by
  cases action <;> constructor <;> simp [TermAction.text, Text.isSpace]

theorem solid_routeMap : Text.Solid "route-map" := by
  constructor <;> simp [Text.isSpace]

namespace ShownTerm

variable {name routeMap : String}

theorem solid_header (isName : Text.Solid name) (shown : ShownTerm) :
    ∀ word ∈ shown.header name, Text.Solid word := by
  intro word mem
  simp only [header, List.mem_cons, List.not_mem_nil, or_false] at mem
  obtain rfl | rfl | rfl | rfl := mem
  · exact solid_routeMap
  · exact isName
  · exact shown.action.solid_text
  · exact solid_isNumeral shown.numeral

/-- The lines of the body that the code keeps: the empty ones at the end are cut. -/
def keptBody (shown : ShownTerm) : List ConfigLine :=
  shown.body.rdropWhile fun line => line.words.isEmpty

/-- Only the end of a list is dropped. -/
theorem rdropWhile_cons_neg {α : Type} {p : α → Bool} {a : α} {rest : List α} (keeps : p a = false) :
    (a :: rest).rdropWhile p = a :: rest.rdropWhile p := by
  induction rest using List.reverseRecOn with
  | nil => simp [List.rdropWhile, keeps]
  | append_singleton rest b ih =>
      rw [← List.cons_append]
      by_cases drops : p b = true
      · rw [List.rdropWhile_concat_pos _ _ _ drops, List.rdropWhile_concat_pos _ _ _ drops, ih]
      · rw [List.rdropWhile_concat_neg _ _ _ drops, List.rdropWhile_concat_neg _ _ _ drops,
          List.cons_append]

theorem rdropWhile_map {α β : Type} {f : α → β} {p : β → Bool} {q : α → Bool} {xs : List α}
    (alike : ∀ x ∈ xs, p (f x) = q x) : (xs.map f).rdropWhile p = (xs.rdropWhile q).map f := by
  induction xs using List.reverseRecOn with
  | nil => simp [List.rdropWhile]
  | append_singleton xs x ih =>
      have same := alike x (by simp)
      rw [List.map_append, List.map_singleton, List.rdropWhile_concat, List.rdropWhile_concat, same]
      split
      · exact ih fun y mem => alike y (List.mem_append_left _ mem)
      · rw [List.map_append, List.map_singleton]

theorem blockLines_lines (isName : Text.Solid name) (shown : ShownTerm) :
    blockLines (shown.lines name) =
      Text.join " " (shown.header name) :: shown.keptBody.map ConfigLine.text := by
  have solid := shown.solid_header isName
  have header : (Text.strip (Text.join " " (shown.header name)) == "") = false := by
    rw [Text.strip_join solid, Text.join_eq_empty solid]
    rfl
  unfold blockLines lines
  rw [@rdropWhile_cons_neg _ (fun line => Text.strip line == "") _ _ header, keptBody]
  rw [rdropWhile_map]
  intro line _
  rw [ConfigLine.text, Text.strip_lineText line.solid, Text.join_eq_empty line.solid]

/-- The lines of a term's clone. -/
def cloneLines (name routeMap : String) (shown : ShownTerm) : List String :=
  Text.replaceFirst (Text.join " " (shown.header name)) name routeMap ::
    shown.keptBody.map fun line => Text.join " " line.words

theorem cloneBlock_lines (isName : Text.Solid name) (shown : ShownTerm) :
    cloneBlock name routeMap (shown.lines name) =
      if shown.term.sequence ≤ 1 then .error .noSafeSequence
      else .ok (shown.cloneLines name routeMap) := by
  have last : (Text.words (Text.join " " (shown.header name))).getLastD "" = shown.digits := by
    rw [Text.words_join (shown.solid_header isName)]
    rfl
  have body : (shown.keptBody.map ConfigLine.text).map Text.strip =
      shown.keptBody.map fun line => Text.join " " line.words := by
    rw [List.map_map]
    apply List.map_congr_left
    intro line _
    exact Text.strip_lineText line.solid
  unfold cloneBlock
  rw [blockLines_lines isName]
  dsimp only
  rw [last, body]
  rfl

/-- The clause lines of a term, without the empty ones. -/
theorem filter_keptBody (shown : ShownTerm) :
    (shown.keptBody.map ConfigLine.words).filter (· ≠ []) = shown.clauses := by
  unfold keptBody clauses
  generalize shown.body = body
  induction body using List.reverseRecOn with
  | nil => simp [List.rdropWhile]
  | append_singleton body line ih =>
      rw [List.rdropWhile_concat]
      split
      · rename_i empty
        rw [ih, List.map_append, List.filter_append]
        simp [List.isEmpty_iff.mp empty]
      · rfl

end ShownTerm

end NetOpsBench
