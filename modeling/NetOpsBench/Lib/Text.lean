import Mathlib.Data.List.Basic

/-!
# Texts

The operations on `str` that handlers build their messages and read command output with.
-/

namespace Text

/-- The characters that `str.strip` removes. -/
def isSpace (c : Char) : Bool :=
  c.toNat ∈ [0x09, 0x0a, 0x0b, 0x0c, 0x0d, 0x1c, 0x1d, 0x1e, 0x1f, 0x20, 0x85, 0xa0, 0x1680, 0x2028,
    0x2029, 0x202f, 0x205f, 0x3000] ∨ 0x2000 ≤ c.toNat ∧ c.toNat ≤ 0x200a

/-- `text.strip()` -/
def strip (text : String) : String :=
  String.ofList ((text.toList.dropWhile isSpace).reverse.dropWhile isSpace).reverse

/-- `text.lower()`, for the letters of ASCII -/
def lower (text : String) : String := String.ofList (text.toList.map Char.toLower)

/-- `text.upper()`, for the letters of ASCII -/
def upper (text : String) : String := String.ofList (text.toList.map Char.toUpper)

/-- `left or right` -/
def either (left right : String) : String := if left = "" then right else left

/-- `separator.join(texts)` -/
def join (separator : String) (texts : List String) : String := separator.intercalate texts

/-- `text or None` -/
def nonempty (text : String) : Option String := if text = "" then none else some text

/-- The characters at which `str.splitlines` splits. -/
def isLineBreak (c : Char) : Bool :=
  c.toNat ∈ [0x0a, 0x0b, 0x0c, 0x0d, 0x1c, 0x1d, 0x1e, 0x85, 0x2028, 0x2029]

/-- `[line.split(maxsplit=1)[0] for line in text.splitlines() if line.strip()]` -/
def firstWords (text : String) : List String :=
  ((text.toList.splitOnP isLineBreak).map fun line =>
    String.ofList ((line.dropWhile isSpace).takeWhile fun c => !isSpace c)).filter (· ≠ "")

/-- `repr` of a text without quotes and escapes -/
def quoted (text : String) : String := "'" ++ text ++ "'"

/-- `repr` of an optional truth value -/
def reprBool : Option Bool → String
  | none => "None"
  | some true => "True"
  | some false => "False"

/-- `text.replace(old, new)` on characters; `skip` counts those of an occurrence still to pass. -/
def replaceFrom (old new : List Char) : Nat → List Char → List Char
  | _, [] => []
  | skip + 1, _ :: rest => replaceFrom old new skip rest
  | 0, c :: rest =>
      if old.isPrefixOf (c :: rest) then new ++ replaceFrom old new (old.length - 1) rest
      else c :: replaceFrom old new 0 rest

/-- `text.replace(old, new)`, for a nonempty `old` -/
def replace (text old new : String) : String :=
  String.ofList (replaceFrom old.toList new.toList 0 text.toList)

/-- A stripped text does not begin with a space. -/
theorem dropWhile_stripped (chars : List Char) :
    ((chars.dropWhile isSpace).reverse.dropWhile isSpace).reverse.dropWhile isSpace =
      ((chars.dropWhile isSpace).reverse.dropWhile isSpace).reverse := by
  have front : ((chars.dropWhile isSpace).reverse.dropWhile isSpace).reverse <+:
      chars.dropWhile isSpace := by
    have back := List.reverse_prefix.mpr
      (List.dropWhile_suffix isSpace (l := (chars.dropWhile isSpace).reverse))
    rwa [List.reverse_reverse] at back
  cases kept : ((chars.dropWhile isSpace).reverse.dropWhile isSpace).reverse with
  | nil => rfl
  | cons c rest =>
      rw [kept] at front
      obtain ⟨spaces, whole⟩ := front
      have head := List.head?_dropWhile_not isSpace chars
      rw [← whole, List.cons_append, List.head?_cons] at head
      exact List.dropWhile_cons_of_neg (by rw [head]; exact Bool.false_ne_true)

theorem strip_strip (text : String) : strip (strip text) = strip text := by
  have back : ((text.toList.dropWhile isSpace).reverse.dropWhile isSpace).dropWhile isSpace =
      (text.toList.dropWhile isSpace).reverse.dropWhile isSpace := by
    cases kept : (text.toList.dropWhile isSpace).reverse.dropWhile isSpace with
    | nil => rfl
    | cons c rest =>
        have head := List.head?_dropWhile_not isSpace (text.toList.dropWhile isSpace).reverse
        rw [kept, List.head?_cons] at head
        exact List.dropWhile_cons_of_neg (by rw [head]; exact Bool.false_ne_true)
  unfold strip
  rw [String.toList_ofList, dropWhile_stripped text.toList, List.reverse_reverse, back]

theorem strip_eq_self {text : String} (solid : ∀ c ∈ text.toList, isSpace c = false) :
    strip text = text := by
  have kept : ∀ chars : List Char, (∀ c ∈ chars, isSpace c = false) →
      chars.dropWhile isSpace = chars := by
    intro chars all
    cases chars with
    | nil => rfl
    | cons c rest =>
        apply List.dropWhile_cons_of_neg
        rw [all c (List.mem_cons_self ..)]
        exact Bool.false_ne_true
  unfold strip
  rw [kept _ solid, kept _ fun c mem => solid c (List.mem_reverse.mp mem), List.reverse_reverse,
    String.ofList_toList]

theorem toList_toString (n : Nat) : (toString n).toList = Nat.toDigits 10 n := by
  rw [Nat.toString_eq_repr, Nat.toList_repr]

/-- The digits of a number are digits. -/
theorem isDigit_of_mem_toString {n : Nat} {c : Char} (mem : c ∈ (toString n).toList) :
    c.isDigit = true := by
  rw [toList_toString] at mem
  exact Nat.isDigit_of_mem_toDigits (by decide) (by decide) mem

theorem isSpace_of_isDigit {c : Char} (digit : c.isDigit = true) : isSpace c = false := by
  simp only [Char.isDigit, Bool.and_eq_true, decide_eq_true_eq] at digit
  have low : 48 ≤ c.toNat := UInt32.le_iff_toNat_le.mp digit.1
  have high : c.toNat ≤ 57 := UInt32.le_iff_toNat_le.mp digit.2
  unfold isSpace
  simp only [List.mem_cons, List.not_mem_nil, or_false, decide_eq_false_iff_not]
  omega

/-- A separator that occurs in neither right part determines where a text was joined. -/
theorem append_inj_of_notMem {left left' right right' : List Char} {c : Char} (absent : c ∉ right)
    (absent' : c ∉ right') (same : left ++ c :: right = left' ++ c :: right') :
    left = left' ∧ right = right' := by
  rcases List.append_eq_append_iff.mp same with ⟨more, leftEq, rightEq⟩ | ⟨more, leftEq, rightEq⟩
  · cases more with
    | nil =>
        rw [List.append_nil] at leftEq
        rw [List.nil_append, List.cons.injEq] at rightEq
        exact ⟨leftEq.symm, rightEq.2⟩
    | cons head more =>
        rw [List.cons_append, List.cons.injEq] at rightEq
        exact (absent (rightEq.2 ▸ List.mem_append_right more (List.mem_cons_self ..))).elim
  · cases more with
    | nil =>
        rw [List.append_nil] at leftEq
        rw [List.nil_append, List.cons.injEq] at rightEq
        exact ⟨leftEq, rightEq.2.symm⟩
    | cons head more =>
        rw [List.cons_append, List.cons.injEq] at rightEq
        exact (absent' (rightEq.2 ▸ List.mem_append_right more (List.mem_cons_self ..))).elim

end Text
