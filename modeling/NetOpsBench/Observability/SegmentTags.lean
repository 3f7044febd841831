import NetOpsBench.Lib.Words
import NetOpsBench.Observability.SpoolBounds

/-!
# The segment tag of a line

What the database stores as the tag `spool_segment` of a line: the marker of a segment carries its
identity, and no line of the collector carries the tag.
-/

namespace NetOpsBench

/-! ## The tags of a line -/

/-- The parts of a text to which characters are added at the front. -/
def onFirst (chars : List Char) : List (List Char) → List (List Char)
  | [] => [chars]
  | part :: parts => (chars ++ part) :: parts

/-- The parts of a line up to its first space, between commas; a backslash escapes a character. -/
def tagParts : Bool → List Char → List (List Char)
  | _, [] => [[]]
  | true, c :: rest => onFirst [c] (tagParts false rest)
  | false, c :: rest =>
      if c = ' ' then [[]]
      else if c = ',' then [] :: tagParts false rest
      else onFirst [c] (tagParts (c == '\\') rest)

/-- The value of a tag that needs no escapes. -/
def tagValue (key : String) (part : List Char) : Option String :=
  if (key ++ "=").toList.isPrefixOf part then some (String.ofList (part.drop (key ++ "=").length))
  else none

def segmentTag (line : String) : Option String :=
  (tagParts false line.toList).findSome? (tagValue "spool_segment")

/-- `(\d+)-\d+`: the timestamp of an identity. -/
def segmentTime (id : String) : Option Nat :=
  let stamp := String.ofList (id.toList.takeWhile (· ≠ '-'))
  let sequence := String.ofList ((id.toList.dropWhile (· ≠ '-')).drop 1)
  if Text.isNumeral stamp && Text.isNumeral sequence then some (Text.numeralValue stamp) else none

theorem onFirst_append (first second : List Char) (parts : List (List Char)) :
    onFirst (first ++ second) parts = onFirst first (onFirst second parts) := by
  cases parts with
  | nil => rfl
  | cons part parts => simp [onFirst]

theorem onFirst_nil {parts : List (List Char)} (some : parts ≠ []) : onFirst [] parts = parts := by
  cases parts with
  | nil => exact absurd rfl some
  | cons part parts => rfl

theorem tagParts_ne_nil (escaped : Bool) (chars : List Char) : tagParts escaped chars ≠ [] := by
  have onFirst_ne_nil : ∀ (front : List Char) (parts : List (List Char)), onFirst front parts ≠ [] := by
    intro front parts
    cases parts <;> simp [onFirst]
  cases chars with
  | nil => simp [tagParts]
  | cons c rest =>
      cases escaped with
      | true => exact onFirst_ne_nil _ _
      | false =>
          rw [tagParts]
          split
          · simp
          · split
            · simp
            · exact onFirst_ne_nil _ _

/-- Characters that neither end a part nor escape the next one. -/
def PlainChars (chars : List Char) : Prop := ∀ c ∈ chars, c ≠ ' ' ∧ c ≠ ',' ∧ c ≠ '\\'

theorem tagParts_plain {chars : List Char} (plain : PlainChars chars) (rest : List Char) :
    tagParts false (chars ++ rest) = onFirst chars (tagParts false rest) := by
  induction chars with
  | nil => rw [List.nil_append, onFirst_nil (tagParts_ne_nil false rest)]
  | cons c chars ih =>
      obtain ⟨space, comma, escape⟩ := plain c List.mem_cons_self
      have later := ih fun c mem => plain c (List.mem_cons_of_mem _ mem)
      have unescaped : (c == '\\') = false := by simpa using escape
      rw [List.cons_append, tagParts, if_neg space, if_neg comma, unescaped, later,
        ← onFirst_append]
      rfl

theorem tagParts_escapeTag (value : String) (rest : List Char) :
    tagParts false ((escapeTag value).toList ++ rest) =
      onFirst (escapeTag value).toList (tagParts false rest) := by
  unfold escapeTag
  rw [String.toList_ofList]
  induction value.toList with
  | nil => exact (onFirst_nil (tagParts_ne_nil false rest)).symm
  | cons c chars ih =>
      rw [List.flatMap_cons, List.append_assoc, onFirst_append, ← ih]
      split
      · exact (onFirst_append ['\\'] [c] _).symm
      · rename_i special
        apply tagParts_plain
        intro d mem
        rw [List.mem_singleton] at mem
        subst mem
        simp only [not_or] at special
        exact ⟨special.2.2.1, special.2.1, special.1⟩

/-- The text of a tag. -/
def tagText (tag : String × String) : String := tag.1 ++ "=" ++ escapeTag tag.2

theorem tagParts_tagText {tag : String × String} (plain : PlainChars (tag.1 ++ "=").toList)
    (rest : List Char) :
    tagParts false ((tagText tag).toList ++ rest) =
      onFirst (tagText tag).toList (tagParts false rest) := by
  unfold tagText
  rw [String.toList_append, List.append_assoc, tagParts_plain plain, tagParts_escapeTag,
    ← onFirst_append]

theorem tagParts_intercalate {parts : List (List Char)} (some : parts ≠ [])
    (each : ∀ part ∈ parts, ∀ rest,
      tagParts false (part ++ rest) = onFirst part (tagParts false rest)) (rest : List Char) :
    tagParts false ([','].intercalate parts ++ ' ' :: rest) = parts := by
  induction parts with
  | nil => exact absurd rfl some
  | cons part parts ih =>
      have here := each part List.mem_cons_self
      cases parts with
      | nil =>
          have single := here (' ' :: rest)
          simpa [tagParts, onFirst] using single
      | cons next parts =>
          have later := ih (List.cons_ne_nil _ _) fun part mem =>
            each part (List.mem_cons_of_mem _ mem)
          have first := here (',' :: ([','].intercalate (next :: parts) ++ ' ' :: rest))
          have comma : tagParts false (',' :: ([','].intercalate (next :: parts) ++ ' ' :: rest)) =
              [] :: (next :: parts) := by
            rw [tagParts, if_neg (by decide), if_pos rfl, later]
          rw [comma] at first
          simpa [onFirst, List.intercalate_cons_cons] using first

/-- The parts of a line are its measurement and its tags. -/
theorem tagParts_lineText {measurement : String} (plain : PlainChars measurement.toList)
    {tags : List (String × String)} (some : tags ≠ [])
    (keys : ∀ tag ∈ tags, PlainChars (tag.1 ++ "=").toList) (fields : List String)
    (timestamp : Nat) :
    tagParts false (lineText measurement tags fields timestamp).toList =
      measurement.toList :: tags.map fun tag => (tagText tag).toList := by
  have joined : (lineText measurement tags fields timestamp).toList =
      measurement.toList ++ ',' ::
        ([','].intercalate (tags.map fun tag => (tagText tag).toList) ++
          ' ' :: (Text.join "," fields ++ " " ++ toString timestamp).toList) := by
    simp [lineText, Text.join, tagText, Function.comp_def]
  have parts := @tagParts_intercalate (tags.map fun tag => (tagText tag).toList)
    (by simpa using some) (by
      intro part mem rest
      obtain ⟨tag, isTag, rfl⟩ := List.mem_map.mp mem
      exact tagParts_tagText (keys tag isTag) rest)
    (Text.join "," fields ++ " " ++ toString timestamp).toList
  rw [joined, tagParts_plain plain, tagParts, if_neg (by decide), if_pos rfl, parts]
  simp [onFirst]

/-! ## Lines of the collector and markers -/

theorem tagValue_other {key : String} {tag : String × String}
    (other : (key ++ "=").toList.isPrefixOf (tagText tag).toList = false) :
    tagValue key (tagText tag).toList = none := by
  unfold tagValue
  rw [other, if_neg Bool.false_ne_true]

/-- The keys of the tags that the collector writes. -/
def collectorKeys : List String := ["source", "neighbor_address", "event_type", "topology_id"]

theorem not_segment_of_collectorKeys {tag : String × String} (isKey : tag.1 ∈ collectorKeys) :
    tagValue "spool_segment" (tagText tag).toList = none ∧
      PlainChars (tag.1 ++ "=").toList := by
  obtain ⟨key, value⟩ := tag
  simp only [collectorKeys, List.mem_cons, List.not_mem_nil, or_false] at isKey
  constructor
  · apply tagValue_other
    obtain rfl | rfl | rfl | rfl := isKey <;> simp [tagText, List.isPrefixOf]
  · obtain rfl | rfl | rfl | rfl := isKey <;> simp [PlainChars]

theorem segmentTag_lineText {measurement : String} (plain : PlainChars measurement.toList)
    (other : tagValue "spool_segment" measurement.toList = none)
    {tags : List (String × String)} (some : tags ≠ [])
    (keys : ∀ tag ∈ tags, tag.1 ∈ collectorKeys) (fields : List String) (timestamp : Nat) :
    segmentTag (lineText measurement tags fields timestamp) = none := by
  unfold segmentTag
  rw [tagParts_lineText plain some fun tag mem => (not_segment_of_collectorKeys (keys tag mem)).2,
    List.findSome?_cons, other, List.findSome?_eq_none_iff]
  intro part mem
  obtain ⟨tag, isTag, rfl⟩ := List.mem_map.mp mem
  exact (not_segment_of_collectorKeys (keys tag isTag)).1

theorem topologyTag_keys (topologyId : String) :
    ∀ tag ∈ topologyTag topologyId, tag.1 ∈ collectorKeys := by
  unfold topologyTag
  split
  · intro tag mem
    cases mem
  · intro tag mem
    rw [List.mem_singleton.mp mem]
    simp [collectorKeys]

/-- No line of the collector carries the tag of a segment. -/
theorem segmentTag_line (topologyId : String) (point : BgpPoint) :
    segmentTag (point.line topologyId) = none := by
  cases point with
  | neighbor sample =>
      apply segmentTag_lineText
      · simp [PlainChars]
      · rfl
      · simp
      · intro tag mem
        rcases List.mem_append.mp mem with own | isTopology
        · simp only [List.mem_cons, List.not_mem_nil, or_false] at own
          obtain rfl | rfl := own <;> simp [collectorKeys]
        · exact topologyTag_keys topologyId tag isTopology
  | session event =>
      apply segmentTag_lineText
      · simp [PlainChars]
      · rfl
      · simp
      · intro tag mem
        rcases List.mem_append.mp mem with own | isTopology
        · simp only [List.mem_cons, List.not_mem_nil, or_false] at own
          obtain rfl | rfl | rfl := own <;> simp [collectorKeys]
        · exact topologyTag_keys topologyId tag isTopology
  | prefixCount event =>
      apply segmentTag_lineText
      · simp [PlainChars]
      · rfl
      · simp
      · intro tag mem
        simp only [List.mem_cons, List.not_mem_nil, or_false] at mem
        obtain rfl | rfl | rfl := mem <;> simp [collectorKeys]
  | index heartbeat =>
      apply segmentTag_lineText
      · simp [PlainChars]
      · rfl
      · simp
      · intro tag mem
        rcases List.mem_append.mp mem with own | isTopology
        · rw [List.mem_singleton.mp own]
          simp [collectorKeys]
        · exact topologyTag_keys topologyId tag isTopology
  | collection sample =>
      apply segmentTag_lineText
      · simp [PlainChars]
      · rfl
      · simp
      · intro tag mem
        rcases List.mem_append.mp mem with own | isTopology
        · rw [List.mem_singleton.mp own]
          simp [collectorKeys]
        · exact topologyTag_keys topologyId tag isTopology

theorem mem_segmentId {timestamp sequence : Nat} {c : Char}
    (mem : c ∈ (segmentId timestamp sequence).toList) : c.isDigit = true ∨ c = '-' := by
  simp only [segmentId, String.toList_append, List.mem_append] at mem
  rcases mem with (stamp | dash) | number
  · exact .inl (Text.isDigit_of_mem_toString stamp)
  · exact .inr (List.mem_singleton.mp dash)
  · exact .inl (Text.isDigit_of_mem_toString number)

theorem escapeTag_segmentId (timestamp sequence : Nat) :
    escapeTag (segmentId timestamp sequence) = segmentId timestamp sequence := by
  have plain : ∀ c ∈ (segmentId timestamp sequence).toList,
      (if c = '\\' ∨ c = ',' ∨ c = ' ' ∨ c = '=' then ['\\', c] else [c]) = [c] := by
    intro c mem
    apply if_neg
    intro special
    rcases mem_segmentId mem with digit | dash
    · obtain rfl | rfl | rfl | rfl := special <;> simp [Char.isDigit] at digit
    · subst dash
      simp at special
  unfold escapeTag
  rw [List.flatMap_congr plain]
  simp

/-- The marker of a segment carries its identity. -/
theorem segmentTag_marker (topologyId : String) (timestamp sequence : Nat) :
    segmentTag (segmentMarker topologyId timestamp sequence) =
      some (segmentId timestamp sequence) := by
  unfold segmentTag segmentMarker
  rw [tagParts_lineText]
  · have first : tagValue "spool_segment" "bgp_event_index".toList = none := by rfl
    have second : tagValue "spool_segment" (tagText ("source", "__spool__")).toList = none := by rfl
    have third : tagValue "spool_segment"
        (tagText ("spool_segment", segmentId timestamp sequence)).toList =
          some (segmentId timestamp sequence) := by
      have length : "spool_segment=".length = 14 := rfl
      simp [tagValue, tagText, escapeTag_segmentId, length]
    rw [List.findSome?_cons, first, List.cons_append, List.map_cons, List.findSome?_cons, second,
      List.cons_append, List.map_cons, List.findSome?_cons, third]
  · simp [PlainChars]
  · simp
  · intro tag mem
    rcases List.mem_append.mp mem with own | isTopology
    · simp only [List.mem_cons, List.not_mem_nil, or_false] at own
      obtain rfl | rfl := own <;> simp [PlainChars]
    · exact (not_segment_of_collectorKeys (topologyTag_keys topologyId tag isTopology)).2

theorem lineTimestamp_marker (topologyId : String) (timestamp sequence : Nat) :
    lineTimestamp (segmentMarker topologyId timestamp sequence) = some timestamp :=
  lineTimestamp_concat _ timestamp

/-- An identity determines the timestamp and the sequence number of its segment. -/
theorem segmentId_inj {timestamp sequence timestamp' sequence' : Nat}
    (same : segmentId timestamp sequence = segmentId timestamp' sequence') :
    timestamp = timestamp' ∧ sequence = sequence' := by
  have noDash : ∀ n : Nat, '-' ∉ (toString n).toList := by
    intro n mem
    have digit := Text.isDigit_of_mem_toString mem
    simp [Char.isDigit] at digit
  have chars := congrArg String.toList same
  simp only [segmentId, String.toList_append, List.append_assoc] at chars
  obtain ⟨stamps, numbers⟩ := Text.append_inj_of_notMem (noDash sequence) (noDash sequence') chars
  have toString_inj : ∀ n m : Nat, (toString n).toList = (toString m).toList → n = m := by
    intro n m same
    have values := congrArg Text.numeralValue (String.toList_inj.mp same)
    rwa [Text.numeralValue_toString, Text.numeralValue_toString] at values
  exact ⟨toString_inj _ _ stamps, toString_inj _ _ numbers⟩

theorem segmentTime_segmentId (timestamp sequence : Nat) :
    segmentTime (segmentId timestamp sequence) = some timestamp := by
  have digits : ∀ c ∈ (toString timestamp).toList, decide (c ≠ '-') = true := by
    intro c mem
    have digit := Text.isDigit_of_mem_toString mem
    rw [decide_eq_true_eq]
    rintro rfl
    simp [Char.isDigit] at digit
  have whole : (segmentId timestamp sequence).toList =
      (toString timestamp).toList ++ '-' :: (toString sequence).toList := by
    simp [segmentId]
  have numeral : ∀ n : Nat, Text.isNumeral (toString n) = true := by
    intro n
    unfold Text.isNumeral
    rw [Bool.and_eq_true, List.all_eq_true]
    exact ⟨by simp, fun c mem => Text.isDigit_of_mem_toString mem⟩
  unfold segmentTime
  rw [whole, List.takeWhile_append_of_pos digits, List.dropWhile_append_of_pos digits,
    List.takeWhile_cons_of_neg (by simp), List.dropWhile_cons_of_neg (by simp), List.append_nil,
    List.drop_one, List.tail_cons, String.ofList_toList, String.ofList_toList]
  dsimp only
  rw [numeral, numeral, Bool.and_self, if_pos rfl, Text.numeralValue_toString]

end NetOpsBench
