import Mathlib.Data.List.Sort

/-!
# Stable sorting by a comparison

`sorted` is Python's built-in of that name on a list: equal elements keep their order. It
recurses on the list, so it evaluates wherever the comparison does.
-/

namespace Sorting

variable {α : Type}

def sorted (le : α → α → Bool) (xs : List α) : List α := xs.insertionSort fun a b => le a b = true

theorem sorted_perm (le : α → α → Bool) (xs : List α) : (sorted le xs).Perm xs :=
  List.perm_insertionSort _ xs

@[simp] theorem sorted_nil (le : α → α → Bool) : sorted le [] = [] := rfl

/-- Sorting goes through a map that the comparison does not see. -/
theorem sorted_map {β : Type} {le : α → α → Bool} {le' : β → β → Bool} (f : α → β) (xs : List α)
    (same : ∀ a b, le' (f a) (f b) = le a b) : sorted le' (xs.map f) = (sorted le xs).map f :=
  (List.map_insertionSort _ _ f xs fun a _ b _ => by rw [same]).symm

theorem mem_sorted {le : α → α → Bool} {xs : List α} {a : α} : a ∈ sorted le xs ↔ a ∈ xs :=
  (sorted_perm le xs).mem_iff

/-- By a total and transitive comparison, every element is at most the later ones. -/
theorem pairwise_sorted {le : α → α → Bool} (xs : List α)
    (trans : ∀ a b c, le a b = true → le b c = true → le a c = true)
    (total : ∀ a b, le a b = true ∨ le b a = true) :
    (sorted le xs).Pairwise fun a b => le a b = true :=
  have : IsTrans α fun a b => le a b = true := ⟨trans⟩
  have : Std.Total fun a b => le a b = true := ⟨total⟩
  List.pairwise_insertionSort _ xs

/-- Sorting forgets the order of elements that the comparison tells apart. -/
theorem sorted_eq_of_perm {le : α → α → Bool} {xs ys : List α} (perm : xs.Perm ys)
    (trans : ∀ a b c, le a b = true → le b c = true → le a c = true)
    (total : ∀ a b, le a b = true ∨ le b a = true)
    (antisymm : ∀ a b, a ∈ xs → b ∈ xs → le a b = true → le b a = true → a = b) :
    sorted le xs = sorted le ys :=
  List.Perm.eq_of_pairwise
    (fun a b isA isB => antisymm a b (mem_sorted.mp isA) (perm.mem_iff.mpr (mem_sorted.mp isB)))
    (pairwise_sorted xs trans total) (pairwise_sorted ys trans total)
    (((sorted_perm le xs).trans perm).trans (sorted_perm le ys).symm)

/-! ## Lexicographic comparisons -/

section Lex

variable {α : Type} [LT α] {a b c : α} {p q r : Prop}

theorem lex_trans (ltTrans : a < b → b < c → a < c) (rest : p → q → r)
    (first : a < b ∨ a = b ∧ p) (second : b < c ∨ b = c ∧ q) : a < c ∨ a = c ∧ r := by
  rcases first with below | ⟨rfl, below⟩
  · rcases second with below' | ⟨rfl, -⟩
    · exact .inl (ltTrans below below')
    · exact .inl below
  · rcases second with below' | ⟨rfl, below'⟩
    · exact .inl below'
    · exact .inr ⟨rfl, rest below below'⟩

theorem lex_total (one : a < b ∨ a = b ∨ b < a) (rest : p ∨ q) :
    (a < b ∨ a = b ∧ p) ∨ (b < a ∨ b = a ∧ q) := by
  rcases one with below | rfl | above
  · exact .inl (.inl below)
  · exact rest.imp (fun holds => .inr ⟨rfl, holds⟩) fun holds => .inr ⟨rfl, holds⟩
  · exact .inr (.inl above)

theorem lex_antisymm (ltTrans : a < b → b < a → a < a) (irrefl : ∀ x : α, ¬ x < x)
    (first : a < b ∨ a = b ∧ p) (second : b < a ∨ b = a ∧ q) : a = b ∧ p ∧ q := by
  rcases first with below | ⟨rfl, below⟩
  · rcases second with above | ⟨rfl, -⟩
    · exact absurd (ltTrans below above) (irrefl a)
    · exact absurd below (irrefl _)
  · rcases second with above | ⟨-, above⟩
    · exact absurd above (irrefl a)
    · exact ⟨rfl, below, above⟩

end Lex

/-- Strings are compared one way or the other. -/
theorem string_cases (a b : String) : a < b ∨ a = b ∨ b < a := by
  rcases String.le_total a b with le | le
  · by_cases below : a < b
    · exact .inl below
    · exact .inr (.inl (String.le_antisymm le (String.not_lt.mp below)))
  · by_cases below : b < a
    · exact .inr (.inr below)
    · exact .inr (.inl (String.le_antisymm (String.not_lt.mp below) le))

end Sorting
