import NetOpsBench.Lib.Json

/-!
# JSON as serde writes it

`SerdeJson.toText` is the text of `serde_json::to_vec` for a value, which escapes quotes,
backslashes and control characters and nothing else. On values whose texts are printable ASCII
it agrees with `json.dumps`, once the members of every object are in the order of their keys
(`dumps_eq_toText`).
-/

namespace SerdeJson

/-! ## The text of a value -/

def escapeChar (c : Char) : List Char :=
  if c = '"' then ['\\', '"']
  else if c = '\\' then ['\\', '\\']
  else if c.toNat = 8 then ['\\', 'b']
  else if c = '\t' then ['\\', 't']
  else if c = '\n' then ['\\', 'n']
  else if c.toNat = 12 then ['\\', 'f']
  else if c = '\r' then ['\\', 'r']
  else if c.toNat < 32 then Json.unicodeEscape c.toNat
  else [c]

def quote (s : String) : String :=
  String.ofList (['"'] ++ s.toList.flatMap escapeChar ++ ['"'])

mutual

/-- The text of `serde_json::to_vec`; a float is kept as the text that is written for it. -/
def toText : Json → String
  | .null => "null"
  | .bool true => "true"
  | .bool false => "false"
  | .int n => toString n
  | .float repr => repr
  | .str s => quote s
  | .arr items => "[" ++ ",".intercalate (toTextItems items) ++ "]"
  | .obj members => "\x7b" ++ ",".intercalate (toTextMembers members) ++ "\x7d"

def toTextItems : List Json → List String
  | [] => []
  | item :: items => toText item :: toTextItems items

def toTextMembers : List (String × Json) → List String
  | [] => []
  | (key, value) :: members => (quote key ++ ":" ++ toText value) :: toTextMembers members

end

/-- The order of the members of an object in a sorted map. -/
def keyLe {β : Type} (first second : String × β) : Bool := decide (first.1 ≤ second.1)

mutual

/-- The members of every object, of which each has its own key, in a sorted map. -/
def canonical : Json → Json
  | .arr items => .arr (canonicalItems items)
  | .obj members => .obj (Sorting.sorted keyLe (canonicalMembers members))
  | .null => .null
  | .bool b => .bool b
  | .int n => .int n
  | .float repr => .float repr
  | .str s => .str s

def canonicalItems : List Json → List Json
  | [] => []
  | item :: items => canonical item :: canonicalItems items

def canonicalMembers : List (String × Json) → List (String × Json)
  | [] => []
  | (key, value) :: members => (key, canonical value) :: canonicalMembers members

end

theorem toTextMembers_eq (members : List (String × Json)) :
    toTextMembers members = members.map fun member => quote member.1 ++ ":" ++ toText member.2 := by
  induction members with
  | nil => rfl
  | cons member members ih => rw [toTextMembers, ih, List.map_cons]

theorem canonicalMembers_eq (members : List (String × Json)) :
    canonicalMembers members = members.map fun member => (member.1, canonical member.2) := by
  induction members with
  | nil => rfl
  | cons member members ih => rw [canonicalMembers, ih, List.map_cons]

/-! ## Printable texts -/

/-- From the blank to the tilde. -/
def Printable (c : Char) : Prop := 32 ≤ c.toNat ∧ c.toNat ≤ 126

instance (c : Char) : Decidable (Printable c) := inferInstanceAs (Decidable (_ ∧ _))

def PrintableText (s : String) : Prop := ∀ c ∈ s.toList, Printable c

instance (s : String) : Decidable (PrintableText s) :=
  List.decidableBAll Printable s.toList

theorem escapeChar_eq {c : Char} (printable : Printable c) :
    Json.escapeChar c = escapeChar c := by
  rcases printable with ⟨low, high⟩
  unfold Json.escapeChar escapeChar
  have newline : c ≠ '\n' := by rintro rfl; exact absurd low (by decide)
  have carriage : c ≠ '\r' := by rintro rfl; exact absurd low (by decide)
  have tab : c ≠ '\t' := by rintro rfl; exact absurd low (by decide)
  have plain : ¬ c.toNat < 32 := by omega
  have backspace : c.toNat ≠ 8 := by omega
  have feed : c.toNat ≠ 12 := by omega
  simp only [newline, carriage, tab, backspace, feed, low, high, plain, and_self, if_true, if_false]

theorem quote_eq {s : String} (printable : PrintableText s) : Json.quote s = quote s := by
  unfold Json.quote quote
  congr 3
  exact List.flatMap_congr fun c mem => escapeChar_eq (printable c mem)

mutual

/-- Every text of a value is printable, the keys included. -/
def Plain : Json → Prop
  | .str s => PrintableText s
  | .arr items => PlainItems items
  | .obj members => PlainMembers members
  | .null => True
  | .bool _ => True
  | .int _ => True
  | .float _ => True

def PlainItems : List Json → Prop
  | [] => True
  | item :: items => Plain item ∧ PlainItems items

def PlainMembers : List (String × Json) → Prop
  | [] => True
  | (key, value) :: members => (PrintableText key ∧ Plain value) ∧ PlainMembers members

end

theorem plainItems_of_forall {items : List Json} (plain : ∀ item ∈ items, Plain item) :
    PlainItems items := by
  induction items with
  | nil => trivial
  | cons item items ih =>
      exact ⟨plain item List.mem_cons_self, ih fun other mem => plain other (.tail _ mem)⟩

/-! ## Agreement -/

/-- The order of the members does not depend on their values. -/
theorem sorted_keys {β : Type} (f : Json → β) (members : List (String × Json)) :
    Sorting.sorted keyLe (members.map fun member => (member.1, f member.2)) =
      (Sorting.sorted keyLe members).map fun member => (member.1, f member.2) :=
  Sorting.sorted_map _ members fun _ _ => rfl

/-- The members in order, each written by a writer of its own. -/
theorem sortMembers_dumps (members : List (String × Json)) :
    (Json.sortMembers (Json.dumpsMembers true members)).map Json.memberText =
      (Sorting.sorted keyLe members).map fun member =>
        Json.quote member.1 ++ ":" ++ Json.dumps true member.2 := by
  have texts : Json.dumpsMembers true members =
      members.map fun member => (member.1, Json.dumps true member.2) := by
    induction members with
    | nil => rfl
    | cons member members ih => rw [Json.dumpsMembers, ih, List.map_cons]
  change (Sorting.sorted keyLe (Json.dumpsMembers true members)).map Json.memberText = _
  rw [texts, sorted_keys, List.map_map]
  rfl

theorem toTextMembers_canonical (members : List (String × Json)) :
    toTextMembers (Sorting.sorted keyLe (canonicalMembers members)) =
      (Sorting.sorted keyLe members).map fun member =>
        quote member.1 ++ ":" ++ toText (canonical member.2) := by
  rw [toTextMembers_eq, canonicalMembers_eq, sorted_keys, List.map_map]
  rfl

mutual

/-- Both writers write the same text for a printable value. -/
theorem dumps_eq_toText (value : Json) (plain : Plain value) :
    Json.dumps true value = toText (canonical value) := by
  cases value with
  | str s => exact quote_eq plain
  | arr items => rw [Json.dumps, canonical, toText, dumpsItems_eq items plain]
  | obj members =>
      rw [Json.dumps, canonical, toText, toTextMembers_canonical, if_pos rfl, sortMembers_dumps]
      congr 3
      refine List.map_congr_left fun member mem => ?_
      obtain ⟨key, same⟩ := dumpsMembers_eq members plain member (Sorting.mem_sorted.mp mem)
      rw [key, same]
  | bool b =>
      cases b with
      | true => rfl
      | false => rfl
  | null => rfl
  | int n => rfl
  | float repr => rfl

theorem dumpsItems_eq (items : List Json) (plain : PlainItems items) :
    Json.dumpsItems true items = toTextItems (canonicalItems items) := by
  cases items with
  | nil => rfl
  | cons item items =>
      rw [Json.dumpsItems, canonicalItems, toTextItems, dumps_eq_toText item plain.1,
        dumpsItems_eq items plain.2]

theorem dumpsMembers_eq (members : List (String × Json)) (plain : PlainMembers members) :
    ∀ member ∈ members, Json.quote member.1 = quote member.1 ∧
      Json.dumps true member.2 = toText (canonical member.2) := by
  cases members with
  | nil => exact nofun
  | cons first members =>
      intro member mem
      rcases List.mem_cons.mp mem with same | rest
      · rw [same]
        exact ⟨quote_eq plain.1.1, dumps_eq_toText first.2 plain.1.2⟩
      · exact dumpsMembers_eq members plain.2 member rest

end

/-! ## Reading records -/

/-- The values of the fields of a record that denies unknown fields: the members of an object,
or an array of all fields in order. -/
def structFields (names : List String) : Json → Option (List Json)
  | .obj members =>
      if members.all fun member => names.contains member.1 then
        names.mapM fun name => members.lookup name
      else none
  | .arr items => if items.length = names.length then some items else none
  | _ => none

def string : Json → Option String
  | .str s => some s
  | _ => none

/-- An unsigned number of so many bits. -/
def unsigned (bits : Nat) : Json → Option Nat
  | .int n => if 0 ≤ n ∧ n < 2 ^ bits then some n.toNat else none
  | _ => none

def array {α : Type} (item : Json → Option α) : Json → Option (List α)
  | .arr items => items.mapM item
  | _ => none

theorem unsigned_natCast {bits n : Nat} (word : n < 2 ^ bits) :
    unsigned bits (.int n) = some n := by
  have fits : (0 : Int) ≤ (n : Int) ∧ (n : Int) < 2 ^ bits := ⟨Int.natCast_nonneg n, by exact_mod_cast word⟩
  exact if_pos fits

/-- A number that was read as unsigned is the number that it was. -/
theorem of_unsigned {bits n : Nat} {value : Json} (accepted : unsigned bits value = some n) :
    value = .int n ∧ n < 2 ^ bits := by
  cases value with
  | int m =>
      change (if 0 ≤ m ∧ m < 2 ^ bits then some m.toNat else none) = some n at accepted
      by_cases fits : 0 ≤ m ∧ m < 2 ^ bits
      · rw [if_pos fits] at accepted
        rcases fits with ⟨low, high⟩
        obtain rfl := Option.some.inj accepted
        refine ⟨by rw [Int.toNat_of_nonneg low], ?_⟩
        have cast : (m.toNat : Int) < ((2 ^ bits : Nat) : Int) := by
          rw [Int.toNat_of_nonneg low]
          exact_mod_cast high
        exact Int.ofNat_lt.mp cast
      · rw [if_neg fits] at accepted
        cases accepted
  | _ => cases accepted

/-- What is written back as it was read, item by item. -/
theorem of_array {α : Type} {item : Json → Option α} {write : α → Json} {jsons : List Json}
    {items : List α} (accepted : array item (.arr jsons) = some items)
    (back : ∀ json ∈ jsons, ∀ a, item json = some a → write a = json) :
    items.map write = jsons := by
  change jsons.mapM item = some items at accepted
  induction jsons generalizing items with
  | nil =>
      obtain rfl : [] = items := Option.some.inj accepted
      rfl
  | cons json jsons ih =>
      rw [List.mapM_cons] at accepted
      obtain ⟨first, isFirst, accepted⟩ := Option.bind_eq_some_iff.mp accepted
      obtain ⟨rest, isRest, accepted⟩ := Option.bind_eq_some_iff.mp accepted
      obtain rfl := Option.some.inj accepted
      rw [List.map_cons, back json List.mem_cons_self first isFirst,
        ih (fun json mem => back json (List.mem_cons_of_mem _ mem)) isRest]

end SerdeJson
