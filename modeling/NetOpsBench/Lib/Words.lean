import NetOpsBench.Lib.Text
import Mathlib.Data.List.Infix

/-!
# Lines of words

A line is an indentation and words with single spaces between them. What splitting, stripping and
the replacement of a first occurrence do to its text.
-/

namespace Text

/-- A text that a line shows as one word. -/
structure Solid (text : String) : Prop where
  nonempty : text ≠ ""
  solid : ∀ c ∈ text.toList, isSpace c = false

/-- `text.split(" ")` -/
def fields (text : String) : List String := (text.toList.splitOn ' ').map String.ofList

/-- The words of a command. -/
def words (text : String) : List String := (fields text).filter (· ≠ "")

/-- The decimal digits of a text, at least one. -/
def isNumeral (text : String) : Bool := text ≠ "" && text.toList.all Char.isDigit

/-- `int(text)`, of decimal digits -/
def numeralValue (text : String) : Nat :=
  text.toList.foldl (fun value c => 10 * value + (c.toNat - 48)) 0

/-- `text.replace(old, new, 1)` on characters, for a nonempty `old` -/
def replaceFirstFrom (old new : List Char) : List Char → List Char
  | [] => []
  | c :: rest =>
      if old.isPrefixOf (c :: rest) then new ++ (c :: rest).drop old.length
      else c :: replaceFirstFrom old new rest

/-- `text.replace(old, new, 1)`, for a nonempty `old` -/
def replaceFirst (text old new : String) : String :=
  String.ofList (replaceFirstFrom old.toList new.toList text.toList)

/-- The text of a line. -/
def lineText (indent : Nat) (lineWords : List String) : String :=
  String.ofList (List.replicate indent ' ') ++ join " " lineWords

/-- A text that is one word. -/
def isSolid (text : String) : Bool := text != "" && text.toList.all fun c => !isSpace c

variable {lineWords : List String} {word : String}

theorem isSolid_iff : isSolid word = true ↔ Solid word := by
  unfold isSolid
  rw [Bool.and_eq_true, List.all_eq_true]
  constructor
  · intro check
    constructor
    · simpa using check.1
    · intro c mem
      simpa using check.2 c mem
  · intro isWord
    constructor
    · simpa using isWord.nonempty
    · intro c mem
      simpa using isWord.solid c mem

theorem Solid.toList_ne_nil (solid : Solid word) : word.toList ≠ [] := by
  intro empty
  exact solid.nonempty (String.toList_eq_nil_iff.mp empty)

theorem Solid.space_notMem (solid : Solid word) : ' ' ∉ word.toList := by
  intro mem
  have space := solid.solid ' ' mem
  simp [isSpace] at space

theorem Solid.append {left right : String} (solid : Solid left) (solid' : Solid right) :
    Solid (left ++ right) where
  nonempty := by
    intro empty
    have chars := congrArg String.toList empty
    simp [solid.nonempty] at chars
  solid := by
    intro c mem
    rw [String.toList_append, List.mem_append] at mem
    exact mem.elim (solid.solid c) (solid'.solid c)

theorem Solid.toString (n : Nat) : Solid (toString n) where
  nonempty := by
    intro empty
    have chars := congrArg String.toList empty
    rw [toList_toString] at chars
    exact Nat.toDigits_ne_nil chars
  solid _ mem := isSpace_of_isDigit (isDigit_of_mem_toString mem)

theorem numeralValue_toString (n : Nat) : numeralValue (toString n) = n := by
  unfold numeralValue
  rw [toList_toString]
  exact Nat.ofDigitChars_ten_toDigits

/-! ## Splitting -/

theorem toList_join : (join " " lineWords).toList = [' '].intercalate (lineWords.map String.toList) := by
  unfold join
  rw [String.toList_intercalate]
  rfl

theorem fields_join (solid : ∀ w ∈ lineWords, Solid w) (some : lineWords ≠ []) :
    fields (join " " lineWords) = lineWords := by
  unfold fields
  rw [toList_join, List.splitOn_intercalate]
  · simp [Function.comp_def]
  · intro chars mem
    obtain ⟨w, isWord, rfl⟩ := List.mem_map.mp mem
    exact (solid w isWord).space_notMem
  · simpa using some

theorem words_join (solid : ∀ w ∈ lineWords, Solid w) : words (join " " lineWords) = lineWords := by
  unfold words
  cases lineWords with
  | nil => rfl
  | cons w rest =>
      rw [fields_join solid (List.cons_ne_nil w rest), List.filter_eq_self]
      intro word mem
      simpa using (solid word mem).nonempty

theorem fields_indented (indent : Nat) (lineWords : List String) :
    ∃ rest, fields (lineText (indent + 1) lineWords) = "" :: rest := by
  unfold fields lineText
  simp [List.replicate_succ, List.splitOn, List.splitOnP_cons_eq_if_modifyHead]

/-! ## Stripping -/

/-- Stripping takes the spaces before a text that neither begins nor ends with one. -/
theorem strip_spaces {indent : Nat} {text : String}
    (begins : ∀ c, text.toList.head? = some c → isSpace c = false)
    (ends : ∀ c, text.toList.getLast? = some c → isSpace c = false) :
    strip (String.ofList (List.replicate indent ' ') ++ text) = text := by
  have kept : ∀ chars : List Char, (∀ c, chars.head? = some c → isSpace c = false) →
      chars.dropWhile isSpace = chars := by
    intro chars front
    cases chars with
    | nil => rfl
    | cons c rest =>
        apply List.dropWhile_cons_of_neg
        simp [front c rfl]
  have spaces : (List.replicate indent ' ' ++ text.toList).dropWhile isSpace =
      text.toList.dropWhile isSpace := by
    apply List.dropWhile_append_of_pos
    intro c mem
    rw [(List.mem_replicate.mp mem).2]
    decide
  unfold strip
  rw [String.toList_append, String.toList_ofList, spaces, kept _ begins, kept, List.reverse_reverse,
    String.ofList_toList]
  intro c last
  rw [List.head?_reverse] at last
  exact ends c last

theorem head?_join {c : Char} (solid : ∀ w ∈ lineWords, Solid w)
    (first : (join " " lineWords).toList.head? = some c) : isSpace c = false := by
  cases lineWords with
  | nil => cases first
  | cons w rest =>
      have isSolid := solid w (List.mem_cons_self ..)
      obtain ⟨head, tail, chars⟩ := List.exists_cons_of_ne_nil isSolid.toList_ne_nil
      apply isSolid.solid
      unfold join at first
      cases rest with
      | nil =>
          rw [String.intercalate_singleton, chars] at first
          simp_all
      | cons w' rest =>
          rw [String.intercalate_cons_cons, String.toList_append, String.toList_append, chars] at first
          simp_all

theorem getLast?_join {c : Char} (solid : ∀ w ∈ lineWords, Solid w)
    (last : (join " " lineWords).toList.getLast? = some c) : isSpace c = false := by
  induction lineWords using List.reverseRecOn with
  | nil => cases last
  | append_singleton rest w _ =>
      have isSolid := solid w (by simp)
      apply isSolid.solid
      apply List.mem_of_mem_getLast?
      unfold join at last
      cases rest with
      | nil =>
          rw [List.nil_append, String.intercalate_singleton] at last
          exact last
      | cons w' rest =>
          rw [String.intercalate_append_of_ne_nil (List.cons_ne_nil w' rest) (List.cons_ne_nil w []),
            String.intercalate_singleton, String.toList_append,
            List.getLast?_append_of_ne_nil _ isSolid.toList_ne_nil] at last
          exact last

theorem strip_lineText {indent : Nat} (solid : ∀ w ∈ lineWords, Solid w) :
    strip (lineText indent lineWords) = join " " lineWords :=
  strip_spaces (fun _ => head?_join solid) fun _ => getLast?_join solid

theorem lineText_zero : lineText 0 lineWords = join " " lineWords := by
  unfold lineText
  simp

theorem strip_join (solid : ∀ w ∈ lineWords, Solid w) :
    strip (join " " lineWords) = join " " lineWords := by
  rw [← lineText_zero, strip_lineText solid, lineText_zero]

theorem join_eq_empty (solid : ∀ w ∈ lineWords, Solid w) :
    (join " " lineWords == "") = lineWords.isEmpty := by
  cases lineWords with
  | nil => rfl
  | cons w rest =>
      have some : join " " (w :: rest) ≠ "" := by
        intro empty
        have none := words_join solid
        rw [empty] at none
        cases none
      simp [some]

/-! ## Replacing -/

/-- The first occurrence is replaced where it is the first one. -/
theorem replaceFirstFrom_of_absent {old new before after : List Char} (some : old ≠ [])
    (absent : ∀ tail, tail ≠ [] → tail <:+ before → ¬ old <+: tail ++ (old ++ after)) :
    replaceFirstFrom old new (before ++ (old ++ after)) = before ++ (new ++ after) := by
  induction before with
  | nil =>
      obtain ⟨c, rest, rfl⟩ := List.exists_cons_of_ne_nil some
      simp [replaceFirstFrom]
  | cons c rest ih =>
      have here := absent (c :: rest) (List.cons_ne_nil c rest) (List.suffix_refl _)
      have later := ih fun tail nonempty suffix =>
        absent tail nonempty (suffix.trans (List.suffix_cons c rest))
      rw [List.cons_append] at here ⊢
      rw [replaceFirstFrom, if_neg (by simpa using here), later, List.cons_append]

/-- A text without the separator occurs before the separator or not at the start. -/
theorem isPrefix_of_notMem {old tail after : List Char} {c : Char} (absent : c ∉ old)
    (occurs : old <+: tail ++ c :: after) : old <+: tail := by
  rcases List.prefix_or_prefix_of_prefix occurs (List.prefix_append tail _) with short | long
  · exact short
  · obtain ⟨more, rfl⟩ := long
    rw [List.prefix_append_right_inj] at occurs
    cases more with
    | nil => rw [List.append_nil]
    | cons head more =>
        obtain ⟨same, _⟩ := List.cons_prefix_cons.mp occurs
        simp [same] at absent

/-- An occurrence within the first part of a text is replaced there. -/
theorem replaceFirstFrom_append {old new before after : List Char} (some : old ≠ [])
    (occurs : old <:+: before) :
    replaceFirstFrom old new (before ++ after) = replaceFirstFrom old new before ++ after := by
  induction before with
  | nil => exact (some (List.infix_nil.mp occurs)).elim
  | cons c rest ih =>
      rw [List.cons_append, replaceFirstFrom, replaceFirstFrom]
      by_cases here : old <+: c :: rest
      · have longer : old <+: c :: (rest ++ after) := here.trans (List.prefix_append (c :: rest) after)
        rw [if_pos (List.isPrefixOf_iff_prefix.mpr here), if_pos (List.isPrefixOf_iff_prefix.mpr longer),
          ← List.cons_append, List.drop_append_of_le_length here.length_le, List.append_assoc]
      · have within := (List.infix_cons_iff.mp occurs).resolve_left here
        have short : old.length ≤ (c :: rest).length := occurs.length_le
        have absent : ¬ old <+: c :: (rest ++ after) := fun longer =>
          here (List.prefix_of_prefix_length_le longer (List.prefix_append (c :: rest) after) short)
        rw [if_neg (by simpa using absent), if_neg (by simpa using here), ih within, List.cons_append]

/-- The characters of the new text are there if the old one occurs. -/
theorem mem_replaceFirstFrom {old new text : List Char} {c : Char} (some : old ≠ [])
    (occurs : old <:+: text) (mem : c ∈ new) : c ∈ replaceFirstFrom old new text := by
  induction text with
  | nil => exact (some (List.infix_nil.mp occurs)).elim
  | cons d rest ih =>
      rw [replaceFirstFrom]
      split
      · exact List.mem_append_left _ mem
      · rename_i absent
        have within := (List.infix_cons_iff.mp occurs).resolve_left fun here =>
          absent (List.isPrefixOf_iff_prefix.mpr here)
        exact List.mem_cons_of_mem d (ih within)

/-- Every character of the result is one of the text or of the new text. -/
theorem of_mem_replaceFirstFrom {old new text : List Char} {c : Char}
    (mem : c ∈ replaceFirstFrom old new text) : c ∈ text ∨ c ∈ new := by
  induction text with
  | nil => cases mem
  | cons d rest ih =>
      rw [replaceFirstFrom] at mem
      split at mem
      · rcases List.mem_append.mp mem with isNew | isOld
        · exact .inr isNew
        · exact .inl (List.mem_of_mem_drop isOld)
      · rcases List.mem_cons.mp mem with rfl | later
        · exact .inl (List.mem_cons_self ..)
        · exact (ih later).imp_left (List.mem_cons_of_mem d)

/-- The word after a keyword in which it does not occur is replaced. -/
theorem replaceFirst_word {keyword old new rest : String} (isWord : Solid old)
    (absent : ¬ old.toList <:+: keyword.toList) :
    replaceFirst (keyword ++ " " ++ old ++ rest) old new = keyword ++ " " ++ new ++ rest := by
  apply String.toList_inj.mp
  have inner : replaceFirstFrom old.toList new.toList
      ((keyword.toList ++ [' ']) ++ (old.toList ++ rest.toList)) =
        (keyword.toList ++ [' ']) ++ (new.toList ++ rest.toList) := by
    apply replaceFirstFrom_of_absent isWord.toList_ne_nil
    intro tail nonempty suffix occurs
    rcases List.suffix_concat_iff.mp suffix with empty | ⟨before, rfl, isSuffix⟩
    · exact nonempty empty
    · rw [List.append_assoc, List.singleton_append] at occurs
      have within := isPrefix_of_notMem isWord.space_notMem occurs
      exact absent (within.isInfix.trans isSuffix.isInfix)
  unfold replaceFirst
  rw [String.toList_ofList]
  simpa using inner

/-- A word that occurs in the keyword is replaced in it. -/
theorem replaceFirst_keyword {keyword old new rest : String} (isWord : Solid old)
    (occurs : old.toList <:+: keyword.toList) :
    replaceFirst (keyword ++ rest) old new = replaceFirst keyword old new ++ rest := by
  apply String.toList_inj.mp
  unfold replaceFirst
  rw [String.toList_append, String.toList_append, String.toList_ofList, String.toList_ofList,
    replaceFirstFrom_append isWord.toList_ne_nil occurs]

/-- The keyword with the new word in it is one word. -/
theorem Solid.replaceFirst {keyword old new : String} (isWord : Solid old) (isNew : Solid new)
    (isKeyword : Solid keyword) (occurs : old.toList <:+: keyword.toList) :
    Solid (replaceFirst keyword old new) := by
  unfold Text.replaceFirst
  constructor
  · intro empty
    obtain ⟨c, rest, chars⟩ := List.exists_cons_of_ne_nil isNew.toList_ne_nil
    have mem : c ∈ replaceFirstFrom old.toList new.toList keyword.toList :=
      mem_replaceFirstFrom isWord.toList_ne_nil occurs (by simp [chars])
    have none := congrArg String.toList empty
    rw [String.toList_ofList] at none
    simp [none] at mem
  · intro c mem
    rw [String.toList_ofList] at mem
    exact (of_mem_replaceFirstFrom mem).elim (isKeyword.solid c) (isNew.solid c)

end Text
