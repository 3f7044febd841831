import NetOpsBench.Lib.Scan

/-!
# Searching a text for a pattern

What `re` finds with patterns whose parts do not compete for characters, so that one greedy pass
decides whether they match at a place: the first match, all matches in a row, and words whose
letters match in either case.
-/

namespace Patterns

open Text (isSpace)

/-- `line.rstrip()` -/
def stripEnd (line : List Char) : List Char := (line.reverse.dropWhile isSpace).reverse

/-- `line.strip()` -/
def strip (line : List Char) : List Char := stripEnd (line.dropWhile isSpace)

/-- `text.splitlines()`, of which the blank lines are dropped later on -/
def splitLines (text : String) : List (List Char) := text.toList.splitOnP Text.isLineBreak

/-- A literal: what follows it. -/
def after (pattern text : List Char) : Option (List Char) :=
  if pattern.isPrefixOf text then some (text.drop pattern.length) else none

/-- `[…]+`: the run and what follows it. -/
def run (p : Char → Bool) (text : List Char) : Option (List Char × List Char) :=
  if text.takeWhile p = [] then none else some (text.takeWhile p, text.dropWhile p)

/-- What a matcher reads at the first place where it matches. It also sees the character before
the place. -/
def searchFrom {α : Type} (matchAt : Option Char → List Char → Option α) :
    Option Char → List Char → Option α
  | before, [] => matchAt before []
  | before, c :: rest =>
      match matchAt before (c :: rest) with
      | some found => some found
      | none => searchFrom matchAt (some c) rest

/-- `re.search` -/
def search {α : Type} (matchAt : List Char → Option α) (text : List Char) : Option α :=
  searchFrom (fun _ => matchAt) none text

/-- `pattern in text` -/
def contains (pattern text : List Char) : Bool := (search (after pattern) text).isSome

/-- `re.finditer`, for a matcher that consumes something; `skip` counts the characters of a match
still to pass. -/
def findAllFrom {α : Type} (matchAt : List Char → Option (α × List Char)) :
    Nat → List Char → List α
  | _, [] => []
  | skip + 1, _ :: rest => findAllFrom matchAt skip rest
  | 0, c :: rest =>
      match matchAt (c :: rest) with
      | some (found, tail) => found :: findAllFrom matchAt (rest.length - tail.length) rest
      | none => findAllFrom matchAt 0 rest

def findAll {α : Type} (matchAt : List Char → Option (α × List Char)) (text : List Char) : List α :=
  findAllFrom matchAt 0 text

/-! ## Words -/

/-- A small letter of a pattern and the characters that `re.IGNORECASE` takes for it, among which
is the Kelvin sign. -/
def sameLetter (letter c : Char) : Bool :=
  c.toLower == letter || (letter == 'k' && c == Char.ofNat 0x212a)

/-- A word in either case: what follows it. -/
def afterIgnoringCase : List Char → List Char → Option (List Char)
  | [], text => some text
  | _ :: _, [] => none
  | letter :: word, c :: text => if sameLetter letter c then afterIgnoringCase word text else none

/-- `\b` -/
def isBoundary (isWord : Char → Bool) (before next : Option Char) : Bool :=
  before.any isWord != next.any isWord

/-- The text that a word matches, if it stands alone at its end. -/
def wordEnding (isWord : Char → Bool) (text word : List Char) : Option (List Char) :=
  (afterIgnoringCase word text).bind fun rest =>
    if isBoundary isWord (text.take word.length).getLast? rest.head? then
      some (text.take word.length)
    else none

/-- `\b(word|…)\b` -/
def wordAt (isWord : Char → Bool) (words : List (List Char)) (before : Option Char)
    (text : List Char) : Option (List Char) :=
  if isBoundary isWord before text.head? then words.findSome? (wordEnding isWord text) else none

/-- The first of some words in a text. -/
def findWord (isWord : Char → Bool) (words : List (List Char)) (text : List Char) :
    Option (List Char) :=
  searchFrom (wordAt isWord words) none text

/-! ## Words of a joined text -/

variable {isWord : Char → Bool} {words : List (List Char)} {word : List Char}

/-- The letters of a word are no spaces. -/
def Lettered (word : List Char) : Prop :=
  word ≠ [] ∧ word.all (fun letter => !sameLetter letter ' ') = true

instance (word : List Char) : Decidable (Lettered word) :=
  inferInstanceAs (Decidable (_ ∧ _))

theorem afterIgnoringCase_append (letters : word.all (fun letter => !sameLetter letter ' ') = true)
    (left right : List Char) :
    afterIgnoringCase word (left ++ ' ' :: right) =
      (afterIgnoringCase word left).map (· ++ ' ' :: right) := by
  induction word generalizing left with
  | nil => rfl
  | cons letter word ih =>
    simp only [List.all_cons, Bool.and_eq_true, Bool.not_eq_true'] at letters
    cases left with
    | nil => simp [afterIgnoringCase, letters.1]
    | cons c left =>
      simp only [List.cons_append, afterIgnoringCase]
      split
      · exact ih letters.2 left
      · rfl

/-- A word is matched by as many characters as it has letters. -/
theorem length_le_of_afterIgnoringCase {text rest : List Char}
    (found : afterIgnoringCase word text = some rest) : word.length ≤ text.length := by
  induction word generalizing text with
  | nil => exact Nat.zero_le _
  | cons letter word ih =>
    cases text with
    | nil => simp [afterIgnoringCase] at found
    | cons c text =>
      simp only [afterIgnoringCase] at found
      split at found
      · exact Nat.succ_le_succ (ih found)
      · cases found

/-- A text ends where a space follows. -/
theorem head_any_append (space : isWord ' ' = false) (left right : List Char) :
    (left ++ ' ' :: right).head?.any isWord = left.head?.any isWord := by
  cases left with
  | nil => simp [space]
  | cons c left => rfl

theorem wordEnding_append (space : isWord ' ' = false) (letters : Lettered word)
    (left right : List Char) :
    wordEnding isWord (left ++ ' ' :: right) word = wordEnding isWord left word := by
  unfold wordEnding
  rw [afterIgnoringCase_append letters.2]
  cases found : afterIgnoringCase word left with
  | none => rfl
  | some rest =>
    have inside := length_le_of_afterIgnoringCase found
    simp only [Option.map_some, Option.bind_some]
    rw [List.take_append_of_le_length inside]
    unfold isBoundary
    rw [head_any_append space]

theorem findSome?_congr {α β : Type} {first second : α → Option β} {entries : List α}
    (same : ∀ entry ∈ entries, first entry = second entry) :
    entries.findSome? first = entries.findSome? second := by
  induction entries with
  | nil => rfl
  | cons entry entries ih =>
    rw [List.findSome?_cons, List.findSome?_cons, same entry List.mem_cons_self,
      ih fun other mem => same other (List.mem_cons_of_mem _ mem)]

theorem wordAt_append (space : isWord ' ' = false) (letters : ∀ word ∈ words, Lettered word)
    (before : Option Char) (left right : List Char) :
    wordAt isWord words before (left ++ ' ' :: right) = wordAt isWord words before left := by
  unfold wordAt isBoundary
  rw [head_any_append space]
  rw [findSome?_congr fun word mem => wordEnding_append space (letters word mem) left right]

/-- There is no word in front of nothing. -/
theorem wordAt_nil (letters : ∀ word ∈ words, Lettered word) (before : Option Char) :
    wordAt isWord words before [] = none := by
  unfold wordAt
  split
  · apply List.findSome?_eq_none_iff.mpr
    intro word mem
    have some := (letters word mem).1
    cases word with
    | nil => contradiction
    | cons letter word => rfl
  · rfl

/-- A search goes on after a space as it begins. -/
theorem searchFrom_space (space : isWord ' ' = false) (text : List Char) :
    searchFrom (wordAt isWord words) (some ' ') text = searchFrom (wordAt isWord words) none text := by
  cases text with
  | nil => simp [searchFrom, wordAt, isBoundary, space]
  | cons c text => simp [searchFrom, wordAt, isBoundary, space]

/-- The words of a joined text are those of its parts. -/
theorem searchFrom_append (space : isWord ' ' = false) (letters : ∀ word ∈ words, Lettered word)
    (before : Option Char) (left right : List Char) :
    searchFrom (wordAt isWord words) before (left ++ ' ' :: right) =
      (searchFrom (wordAt isWord words) before left).or
        (searchFrom (wordAt isWord words) none right) := by
  induction left generalizing before with
  | nil =>
    have here : wordAt isWord words before (' ' :: right) = none :=
      (wordAt_append space letters before [] right).trans (wordAt_nil letters before)
    simp only [List.nil_append, searchFrom, here, wordAt_nil letters, Option.none_or]
    exact searchFrom_space space right
  | cons c left ih =>
    have same := wordAt_append space letters before (c :: left) right
    simp only [List.cons_append] at same
    simp only [List.cons_append, searchFrom, same]
    cases wordAt isWord words before (c :: left) with
    | some found => rfl
    | none => exact ih (some c)

theorem findWord_append (space : isWord ' ' = false) (letters : ∀ word ∈ words, Lettered word)
    (left right : List Char) :
    findWord isWord words (left ++ ' ' :: right) =
      (findWord isWord words left).or (findWord isWord words right) :=
  searchFrom_append space letters none left right

/-- The first word of some texts with spaces between them. -/
theorem findWord_foldl (space : isWord ' ' = false) (letters : ∀ word ∈ words, Lettered word)
    (text : List Char) (parts : List (List Char)) :
    findWord isWord words (parts.foldl (fun text part => text ++ ' ' :: part) text) =
      (text :: parts).findSome? (findWord isWord words) := by
  induction parts generalizing text with
  | nil =>
    rw [List.foldl_nil, List.findSome?_singleton]
  | cons part parts ih =>
    rw [List.foldl_cons, ih, List.findSome?_cons, findWord_append space letters,
      List.findSome?_cons, List.findSome?_cons]
    cases findWord isWord words text with
    | some found => rfl
    | none => rfl

end Patterns
