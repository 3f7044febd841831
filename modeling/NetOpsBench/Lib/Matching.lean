import Mathlib.Algebra.Order.Ring.Nat
import Mathlib.Data.Rat.Defs
import NetOpsBench.Lib.Patterns
import NetOpsBench.Lib.Words

/-!
# Patterns whose parts compete for characters

A matcher goes from a place of a text to the places where a match may end, the preferred one
first, as `re` tries them. The parts are those that patterns of command output are made of.
-/

namespace Matching

/-- A place of a text: the character before it, and what follows it. -/
structure Place : Type where
  previous : Option Char
  rest : List Char

abbrev Matcher : Type := Place → List Place

/-- One character of a class. -/
def single (p : Char → Bool) : Matcher
  | ⟨_, c :: rest⟩ => if p c then [⟨some c, rest⟩] else []
  | ⟨_, []⟩ => []

def followed (first second : Matcher) : Matcher := fun place => (first place).flatMap second

/-- `(?:…|…)` -/
def anyOf (matchers : List Matcher) : Matcher := fun place => matchers.flatMap fun m => m place

/-- `(?:…)?` -/
def optional (matcher : Matcher) : Matcher := fun place => matcher place ++ [place]

/-- The characters of a text, as `same` compares them. -/
def exactly (same : Char → Char → Bool) : List Char → Matcher
  | [] => fun place => [place]
  | c :: text => followed (single (same c)) (exactly same text)

/-- The places after a run of at least one character of a class, the longest run first. -/
def runEnds (p : Char → Bool) : List Char → List Place
  | [] => []
  | c :: rest => if p c then runEnds p rest ++ [⟨some c, rest⟩] else []

/-- `[…]+` -/
def many (p : Char → Bool) : Matcher := fun place => runEnds p place.rest

/-- `\b` -/
def boundary (isWord : Char → Bool) : Matcher := fun place =>
  if Patterns.isBoundary isWord place.previous place.rest.head? then [place] else []

/-- `$` -/
def final : Matcher := fun place => if Scan.atEnd place.rest then [place] else []

/-- A small letter of a pattern and the characters that `re.IGNORECASE` takes for it. -/
def sameIgnoringCase (letter c : Char) : Bool :=
  c.toLower == letter ||
    ([('k', 0x212a), ('s', 0x17f), ('i', 0x130), ('i', 0x131)].any fun pair =>
      letter == pair.1 && c.toNat == pair.2)

/-- `[0-9]+(?:\.[0-9]+)?` -/
def decimal : Matcher :=
  followed (many Char.isDigit) (optional (followed (single (· == '.')) (many Char.isDigit)))

/-- The number that such a text writes. -/
def decimalValue (chars : List Char) : Rat :=
  let fraction := (chars.dropWhile (· ≠ '.')).drop 1
  (Text.numeralValue (String.ofList (chars.takeWhile (· ≠ '.'))) : Rat) +
    (Text.numeralValue (String.ofList fraction) : Rat) / ((10 ^ fraction.length : Nat) : Rat)

/-- The text between two places. -/
def between (start finish : Place) : List Char :=
  start.rest.take (start.rest.length - finish.rest.length)

/-- The places of a text, from one of them on. -/
def places : Option Char → List Char → List Place
  | previous, [] => [⟨previous, []⟩]
  | previous, c :: rest => ⟨previous, c :: rest⟩ :: places (some c) rest

/-- `re.search`: what the preferred match at the first place that has one reads. -/
def search {α : Type} (matchesAt : Place → List α) (text : String) : Option α :=
  ((places none text.toList).flatMap matchesAt).head?

/-- Whether a pattern is found in a text. -/
def found (matcher : Matcher) (text : String) : Bool := (search matcher text).isSome

end Matching
