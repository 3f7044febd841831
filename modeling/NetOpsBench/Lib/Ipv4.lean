import Mathlib.Data.List.Induction

/-!
# IPv4 addresses as text

`parse` accepts four decimal octets between dots, without leading zeros, and nothing else, so
that what it accepts is what `display` writes (`display_of_parse`).
-/

namespace Ipv4

/-- The number that decimal digits denote. -/
def decimal (digits : List Char) : Nat :=
  digits.foldl (fun value digit => 10 * value + (digit.toNat - '0'.toNat)) 0

/-- One to three digits of a number below 256, without a leading zero. -/
def octet (digits : List Char) : Option Nat :=
  if digits ≠ [] ∧ digits.length ≤ 3 ∧ digits.all Char.isDigit ∧
      (digits.length = 1 ∨ digits.head? ≠ some '0') ∧ decimal digits < 256 then
    some (decimal digits)
  else none

/-- `Ipv4Addr::from_str` -/
def parse (text : String) : Option (Nat × Nat × Nat × Nat) :=
  match (text.toList.splitOn '.').map octet with
  | [some a, some b, some c, some d] => some (a, b, c, d)
  | _ => none

/-- The text of an address. -/
def display (address : Nat × Nat × Nat × Nat) : String :=
  toString address.1 ++ "." ++ toString address.2.1 ++ "." ++ toString address.2.2.1 ++ "." ++
    toString address.2.2.2

theorem digitChar_sub {c : Char} (digit : c.isDigit = true) :
    c.toNat - '0'.toNat < 10 ∧ Nat.digitChar (c.toNat - '0'.toNat) = c := by
  obtain ⟨low, high⟩ := Char.isDigit_iff_toNat.mp digit
  have zero : '0'.toNat = 48 := rfl
  rw [zero] at low ⊢
  have nine : '9'.toNat = 57 := rfl
  rw [nine] at high
  refine ⟨by omega, Char.toNat_inj.mp ?_⟩
  rw [Nat.toNat_digitChar_of_lt_ten (by omega)]
  omega

/-- Digits without a leading zero are the text of the number that they denote. -/
theorem toDigits_decimal (digits : List Char) (all : ∀ c ∈ digits, c.isDigit = true)
    (nonempty : digits ≠ []) (lead : digits.length = 1 ∨ digits.head? ≠ some '0') :
    Nat.toDigits 10 (decimal digits) = digits ∧
      (digits.head? ≠ some '0' → 0 < decimal digits) := by
  induction digits using List.reverseRecOn with
  | nil => exact absurd rfl nonempty
  | append_singleton front last ih =>
      obtain ⟨below, same⟩ := digitChar_sub (all last (by simp))
      have value : decimal (front ++ [last]) = 10 * decimal front + (last.toNat - '0'.toNat) := by
        rw [decimal, List.foldl_append]
        rfl
      rw [value]
      cases front with
      | nil =>
          change Nat.toDigits 10 (10 * 0 + (last.toNat - '0'.toNat)) = [last] ∧ _
          rw [Nat.mul_zero, Nat.zero_add, Nat.toDigits_of_lt_base below, same]
          refine ⟨rfl, fun notZero => ?_⟩
          change 0 < 10 * 0 + (last.toNat - '0'.toNat)
          rcases Nat.eq_zero_or_pos (last.toNat - '0'.toNat) with zero | pos
          · rw [zero] at same
            exact absurd (congrArg some same.symm) notZero
          · omega
      | cons first rest =>
          have lead' : (first :: rest).head? ≠ some '0' := by
            rcases lead with short | other
            · simp at short
            · exact other
          obtain ⟨digits, pos⟩ := ih (fun c mem => all c (List.mem_append_left _ mem))
            (List.cons_ne_nil _ _) (.inr lead')
          have front := pos lead'
          refine ⟨?_, fun _ => by omega⟩
          rw [← Nat.toDigits_append_toDigits (by decide) front below, digits,
            Nat.toDigits_of_lt_base below, same]

theorem toString_of_octet {digits : List Char} {n : Nat} (accepted : octet digits = some n) :
    (toString n).toList = digits := by
  unfold octet at accepted
  split at accepted
  · rename_i fits
    rcases fits with ⟨nonempty, -, all, lead, -⟩
    obtain rfl := Option.some.inj accepted
    rw [Nat.toString_eq_repr, Nat.toList_repr]
    exact (toDigits_decimal digits (List.all_eq_true.mp all) nonempty lead).1
  · cases accepted

theorem display_of_parse {text : String} {address : Nat × Nat × Nat × Nat}
    (accepted : parse text = some address) : display address = text := by
  unfold parse at accepted
  split at accepted
  · rename_i a b c d parts
    obtain rfl := Option.some.inj accepted
    obtain ⟨first, rest, split, isA, parts⟩ := List.map_eq_cons_iff.mp parts
    obtain ⟨second, rest, rfl, isB, parts⟩ := List.map_eq_cons_iff.mp parts
    obtain ⟨third, rest, rfl, isC, parts⟩ := List.map_eq_cons_iff.mp parts
    obtain ⟨fourth, rest, rfl, isD, parts⟩ := List.map_eq_cons_iff.mp parts
    obtain rfl := List.map_eq_nil_iff.mp parts
    have joined : ['.'].intercalate (text.toList.splitOn '.') = text.toList :=
      List.intercalate_splitOn '.'
    rw [split] at joined
    apply String.toList_inj.mp
    rw [← joined, display]
    simp only [String.toList_append, toString_of_octet isA, toString_of_octet isB,
      toString_of_octet isC, toString_of_octet isD]
    simp [List.intercalate, List.intersperse]
  · cases accepted

/-- The text of an address has digits and dots only. -/
theorem mem_display {address : Nat × Nat × Nat × Nat} {c : Char}
    (mem : c ∈ (display address).toList) : c.isDigit = true ∨ c = '.' := by
  have digit : ∀ n : Nat, c ∈ (toString n).toList → c.isDigit = true := by
    intro n mem
    rw [Nat.toString_eq_repr, Nat.toList_repr] at mem
    exact Nat.isDigit_of_mem_toDigits (by decide) (by decide) mem
  have dot : c ∈ ".".toList → c = '.' := fun mem => List.mem_singleton.mp mem
  simp only [display, String.toList_append, List.mem_append] at mem
  rcases mem with (((((a | d) | b) | d) | e) | d) | f
  · exact .inl (digit _ a)
  · exact .inr (dot d)
  · exact .inl (digit _ b)
  · exact .inr (dot d)
  · exact .inl (digit _ e)
  · exact .inr (dot d)
  · exact .inl (digit _ f)

example : parse "10.0.255.1" = some (10, 0, 255, 1) := by decide

example : parse "10.0.01.1" = none := by decide

end Ipv4
