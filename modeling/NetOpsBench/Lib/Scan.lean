import NetOpsBench.Lib.Text

/-!
# Matching at the start of a text

The parts that a pattern of literals and numbers is made of: a literal whose letters match in
either case, a greedy run of digits, and the end of the text. What counts as a digit is a
table, of which only the entries of ASCII are fixed.
-/

namespace Scan

/-- The characters that `\d` matches, with their values. -/
structure Digits : Type where
  value : Char → Option Nat
  ascii : ∀ c : Char, c.toNat < 128 →
    value c = if c.isDigit then some (c.toNat - '0'.toNat) else none

namespace Digits

/-- The digits of ASCII and no others. -/
def western : Digits where
  value c := if c.isDigit then some (c.toNat - '0'.toNat) else none
  ascii _ _ := rfl

def isDigit (digits : Digits) (c : Char) : Bool := (digits.value c).isSome

/-- `int(run)` -/
def ofChars (digits : Digits) (run : List Char) : Nat :=
  run.foldl (fun n c => 10 * n + (digits.value c).getD 0) 0

end Digits

/-- A literal, its letters in either case: what follows it. -/
def literal (pattern text : List Char) : Option (List Char) :=
  if (text.take pattern.length).map Char.toLower = pattern then some (text.drop pattern.length)
  else none

/-- `(\d+)`: the number and what follows it. -/
def numeral (digits : Digits) (text : List Char) : Option (Nat × List Char) :=
  if text.takeWhile digits.isDigit = [] then none
  else some (digits.ofChars (text.takeWhile digits.isDigit), text.dropWhile digits.isDigit)

/-- `$`, which also holds before a line break that ends the text. -/
def atEnd (rest : List Char) : Bool := rest = [] || rest = ['\n']

/-- A text is a literal up to the case of its letters. -/
def Cased (pattern head : List Char) : Prop := head.map Char.toLower = pattern

instance (pattern head : List Char) : Decidable (Cased pattern head) :=
  inferInstanceAs (Decidable (head.map Char.toLower = pattern))

/-- A text is written in digits and they stand for a number. -/
structure Digits.Numeral (digits : Digits) (run : List Char) (n : Nat) : Prop where
  nonempty : run ≠ []
  all : ∀ c ∈ run, digits.isDigit c = true
  value : digits.ofChars run = n

variable {digits : Digits} {pattern head run rest : List Char} {n : Nat}

theorem literal_append (cased : Cased pattern head) :
    literal pattern (head ++ rest) = some rest := by
  have length : pattern.length = head.length := by rw [← cased, List.length_map]
  unfold literal
  rw [length, List.take_left, List.drop_left]
  exact if_pos cased

/-- A literal does not match where the texts differ. -/
theorem literal_eq_none {text : List Char} (i : Nat) {c l : Char} (atText : text[i]? = some c)
    (atPattern : pattern[i]? = some l) (differ : c.toLower ≠ l) : literal pattern text = none := by
  unfold literal
  apply if_neg
  intro same
  apply differ
  have bound : i < pattern.length := (List.getElem?_eq_some_iff.mp atPattern).1
  have chars := congrArg (fun text => text[i]?) same
  simp only [List.getElem?_map, List.getElem?_take_of_lt bound, atText, atPattern,
    Option.map_some, Option.some.injEq] at chars
  exact chars

theorem numeral_append (numeral' : digits.Numeral run n)
    (stop : ∀ c, rest.head? = some c → digits.isDigit c = false) :
    numeral digits (run ++ rest) = some (n, rest) := by
  have taken : (run ++ rest).takeWhile digits.isDigit = run := by
    rw [List.takeWhile_append_of_pos numeral'.all]
    cases rest with
    | nil => simp
    | cons c rest => rw [List.takeWhile_cons, stop c rfl]; simp
  have dropped : (run ++ rest).dropWhile digits.isDigit = rest := by
    rw [List.dropWhile_append_of_pos numeral'.all]
    cases rest with
    | nil => rfl
    | cons c rest => rw [List.dropWhile_cons, stop c rfl]; simp
  unfold numeral
  rw [taken, dropped, if_neg numeral'.nonempty, numeral'.value]

/-- A number up to the end of the text. -/
theorem numeral_all (numeral' : digits.Numeral run n) : numeral digits run = some (n, []) := by
  have stop : ∀ c, ([] : List Char).head? = some c → digits.isDigit c = false := by
    intro c same
    cases same
  have whole := numeral_append numeral' stop
  rwa [List.append_nil] at whole

theorem numeral_eq_none {text : List Char} (stop : ∀ c, text.head? = some c → digits.isDigit c = false) :
    numeral digits text = none := by
  unfold numeral
  apply if_pos
  cases text with
  | nil => rfl
  | cons c rest => rw [List.takeWhile_cons, stop c rfl]; simp

theorem toNat_lt_of_isDigit {c : Char} (digit : c.isDigit = true) : c.toNat < 128 := by
  simp only [Char.isDigit, Bool.and_eq_true, decide_eq_true_eq] at digit
  have high : c.toNat ≤ 57 := UInt32.le_iff_toNat_le.mp digit.2
  omega

namespace Digits

theorem isDigit_ascii {c : Char} (ascii : c.toNat < 128) : digits.isDigit c = c.isDigit := by
  unfold isDigit
  rw [digits.ascii c ascii]
  cases c.isDigit <;> rfl

/-- No digit is the letter or the separator of a literal. -/
theorem toLower_ne {c l : Char} (digit : digits.isDigit c = true) (ascii : l.toNat < 128)
    (other : l.isDigit = false) : c.toLower ≠ l := by
  intro same
  by_cases upper : c.val ≥ 'A'.val ∧ c.val ≤ 'Z'.val
  · have low : 65 ≤ c.toNat := UInt32.le_iff_toNat_le.mp upper.1
    have high : c.toNat ≤ 90 := UInt32.le_iff_toNat_le.mp upper.2
    rw [isDigit_ascii (by omega)] at digit
    have small : c.toNat ≤ 57 := by
      simp only [Char.isDigit, Bool.and_eq_true, decide_eq_true_eq] at digit
      exact UInt32.le_iff_toNat_le.mp digit.2
    omega
  · have kept : c.toLower = c := dif_neg upper
    rw [← same, kept] at ascii other
    rw [isDigit_ascii ascii, other] at digit
    exact Bool.noConfusion digit

theorem ofChars_ascii (ascii : ∀ c ∈ run, c.isDigit = true) :
    digits.ofChars run = Nat.ofDigitChars 10 run 0 := by
  unfold ofChars
  rw [Nat.ofDigitChars_eq_foldl]
  apply List.foldl_ext
  intro n c mem
  rw [digits.ascii c (toNat_lt_of_isDigit (ascii c mem)), if_pos (ascii c mem), Option.getD_some]

/-- A decimal text is a numeral of its number. -/
theorem Numeral.toDigits (n : Nat) : digits.Numeral (Nat.toDigits 10 n) n where
  nonempty := Nat.toDigits_ne_nil
  all c mem := by
    have digit := Nat.isDigit_of_mem_toDigits (by decide) (by decide) mem
    rw [isDigit_ascii (toNat_lt_of_isDigit digit), digit]
  value := by
    rw [ofChars_ascii fun c mem => Nat.isDigit_of_mem_toDigits (by decide) (by decide) mem]
    exact Nat.ofDigitChars_ten_toDigits

/-- A number does not begin with the letter or the separator of a literal. -/
theorem numeral_cased {l : Char} (cased : Cased (l :: pattern) head) (ascii : l.toNat < 128)
    (other : l.isDigit = false) : numeral digits (head ++ rest) = none := by
  cases head with
  | nil => cases cased
  | cons c head =>
      apply numeral_eq_none
      intro c' same
      obtain rfl : c = c' := Option.some.inj same
      cases digit : digits.isDigit c with
      | false => rfl
      | true => exact absurd (List.cons.inj cased).1 (toLower_ne digit ascii other)

/-- A literal that goes on after what a number follows does not match. -/
theorem literal_numeral {more : List Char} {l : Char} (cased : Cased pattern head)
    (numeral : digits.Numeral run n) (ascii : l.toNat < 128) (other : l.isDigit = false) :
    literal (pattern ++ l :: more) (head ++ (run ++ rest)) = none := by
  have length : pattern.length = head.length := by rw [← cased, List.length_map]
  cases run with
  | nil => exact absurd rfl numeral.nonempty
  | cons c run =>
      apply literal_eq_none pattern.length (c := c) (l := l)
      · rw [length, List.getElem?_append_right (Nat.le_refl _), Nat.sub_self]
        rfl
      · rw [List.getElem?_append_right (Nat.le_refl _), Nat.sub_self]
        rfl
      · exact toLower_ne (numeral.all c (List.mem_cons_self ..)) ascii other

end Digits

/-- The parts of a literal. -/
theorem Cased.split {more : List Char} (cased : Cased (pattern ++ more) head) :
    ∃ front back, head = front ++ back ∧ Cased pattern front ∧ Cased more back :=
  List.map_eq_append_iff.mp cased

end Scan
