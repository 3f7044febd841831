import NetOpsBench.Lib.Dict
import NetOpsBench.Lib.SerdeJson

/-!
# Size bounds of observations

`compact_json` of `payloads.py`. `View` says what a bounded view of a value is: kept members and
elements, each with the number of those left out, and texts of which something was removed.
`_compact` marks every text that it keeps, also one that it keeps whole, and it writes its marker
over a member of the marker's name; `clean` says that it comes to neither.
-/

namespace NetOpsBench.Payloads

/-- `json_size`; the escapes are those that serde writes. -/
def jsonSize (value : Json) : Nat := (SerdeJson.toText (SerdeJson.canonical value)).utf8ByteSize

/-! ## Markers -/

/-- The members of `marker`. -/
def markerMembers (originalBytes : Nat) : List (String × Json) :=
  [("truncated", .bool true), ("original_bytes", .nat originalBytes)]

/-- `{**marker, "omitted_items": omitted}` -/
def omission (originalBytes omitted : Nat) : Json :=
  .obj (markerMembers originalBytes ++ [("omitted_items", .nat omitted)])

/-- `{"_truncation": marker}` -/
def withheld (originalBytes : Nat) : Json :=
  .obj [("_truncation", .obj (markerMembers originalBytes))]

/-- The characters whose bytes are all among the first `room` of a text. -/
def decodedPrefix (room : Nat) : List Char → List Char
  | [] => []
  | c :: cs => if c.utf8Size ≤ room then c :: decodedPrefix (room - c.utf8Size) cs else []

def truncatedText (kept : List Char) (originalChars : Nat) : Json :=
  .obj [("_truncated_text", .str (String.ofList kept)), ("original_chars", .nat originalChars)]

/-! ## Compaction -/

section Loops

variable (originalBytes budget : Nat)

/-- `remaining`, for what is kept so far. -/
def remaining (output : Json) : Nat := max 128 (budget - jsonSize output - 256)

/-- `{**output, "_truncation": {**marker, "omitted_items": omitted}}` -/
def marked (output : Dict String Json) (omitted : Nat) : Dict String Json :=
  output.set "_truncation" (omission originalBytes omitted)

/-- `[*output, {"_truncation": {**marker, "omitted_items": omitted}}]` -/
def markedItems (output : List Json) (omitted : Nat) : List Json :=
  output ++ [.obj [("_truncation", omission originalBytes omitted)]]

/-- The loop over the members of an object, each with the compaction of its value. -/
def keepMembers : List (String × (Nat → Json)) → Dict String Json → Dict String Json
  | [], output => output
  | (key, child) :: rest, output =>
      let next := output.set key (child (remaining budget (.obj output.entries)))
      if budget < jsonSize (.obj (marked originalBytes next rest.length).entries) then
        next.erase key
      else keepMembers rest next

/-- The budgets of the members that the loop keeps. -/
def memberBudgets : List (String × (Nat → Json)) → Dict String Json → List Nat
  | [], _ => []
  | (key, child) :: rest, output =>
      let next := output.set key (child (remaining budget (.obj output.entries)))
      if budget < jsonSize (.obj (marked originalBytes next rest.length).entries) then []
      else remaining budget (.obj output.entries) :: memberBudgets rest next

/-- The loop over the elements of a list. -/
def keepItems : List (Nat → Json) → List Json → List Json
  | [], output => output
  | child :: rest, output =>
      let next := output ++ [child (remaining budget (.arr output))]
      if budget < jsonSize (.arr (markedItems originalBytes next rest.length)) then next.dropLast
      else keepItems rest next

/-- The budgets of the elements that the loop keeps. -/
def itemBudgets : List (Nat → Json) → List Json → List Nat
  | [], _ => []
  | child :: rest, output =>
      let next := output ++ [child (remaining budget (.arr output))]
      if budget < jsonSize (.arr (markedItems originalBytes next rest.length)) then []
      else remaining budget (.arr output) :: itemBudgets rest next

end Loops

mutual

/-- `_compact` -/
def compact (originalBytes : Nat) : Json → Nat → Json
  | .obj members, budget =>
      let items := Sorting.sorted SerdeJson.keyLe (compactMembers originalBytes members)
      let output := keepMembers originalBytes budget items .empty
      .obj (marked originalBytes output (items.length - output.entries.length)).entries
  | .arr items, budget =>
      let children := compactItems originalBytes items
      let output := keepItems originalBytes budget children []
      .arr (markedItems originalBytes output (children.length - output.length))
  | .str s, budget => truncatedText (decodedPrefix (budget - 160) s.toList) s.length
  | .null, _ => .null
  | .bool b, _ => .bool b
  | .int n, _ => .int n
  | .float repr, _ => .float repr

def compactItems (originalBytes : Nat) : List Json → List (Nat → Json)
  | [] => []
  | item :: items => compact originalBytes item :: compactItems originalBytes items

def compactMembers (originalBytes : Nat) : List (String × Json) → List (String × (Nat → Json))
  | [] => []
  | (key, value) :: members =>
      (key, compact originalBytes value) :: compactMembers originalBytes members

end

/-- `compact_json` -/
def compactJson (value : Json) (maxBytes : Nat) : Json :=
  let originalBytes := jsonSize value
  if originalBytes ≤ maxBytes then value
  else
    let compacted := compact originalBytes value maxBytes
    if jsonSize compacted ≤ maxBytes then compacted else withheld originalBytes

/-! ## Views -/

/-- A level that carries the marker of a compaction. -/
def Marked : Json → Prop
  | .obj members => "_truncation" ∈ members.map Prod.fst
  | .arr items => ∃ members, items.getLast? = some (.obj members) ∧
      "_truncation" ∈ members.map Prod.fst
  | _ => False

mutual

/-- A value as it was, or a compacted form of it. -/
def View (originalBytes : Nat) : Json → Json → Prop
  | .obj members, result =>
      (result = .obj members ∧ ¬ Marked (.obj members)) ∨
        ∃ entries kept omitted, result = .obj entries ∧
          entries.Perm (kept ++ [("_truncation", omission originalBytes omitted)]) ∧
          (kept.map Prod.fst).Nodup ∧ "_truncation" ∉ kept.map Prod.fst ∧
          (∀ entry ∈ kept, ViewMember originalBytes members entry) ∧
          kept.length + omitted = members.length
  | .arr items, result =>
      (result = .arr items ∧ ¬ Marked (.arr items)) ∨
        ∃ kept omitted, result = .arr (markedItems originalBytes kept omitted) ∧
          ViewItems originalBytes items kept ∧ kept.length + omitted = items.length
  | .str s, result =>
      result = .str s ∨ ∃ kept, result = truncatedText kept s.length ∧ kept <+: s.toList ∧
        kept.length < s.length
  | .null, result => result = .null
  | .bool b, result => result = .bool b
  | .int n, result => result = .int n
  | .float repr, result => result = .float repr

/-- The first items, each as it was or compacted. -/
def ViewItems (originalBytes : Nat) : List Json → List Json → Prop
  | _, [] => True
  | [], _ :: _ => False
  | item :: items, result :: results =>
      View originalBytes item result ∧ ViewItems originalBytes items results

/-- A member of that key, as it was or compacted. -/
def ViewMember (originalBytes : Nat) : List (String × Json) → String × Json → Prop
  | [], _ => False
  | (key, value) :: members, entry =>
      (entry.1 = key ∧ View originalBytes value entry.2) ∨
        ViewMember originalBytes members entry

end

/-- A value within the limit is returned, and a view of a value above it, or else the marker
alone, for which something is left out. -/
structure Faithful (value : Json) (maxBytes : Nat) (result : Json) : Prop where
  within : jsonSize value ≤ maxBytes → result = value
  above : maxBytes < jsonSize value →
    View (jsonSize value) value result ∨ result = withheld (jsonSize value) ∧ value ≠ .str ""

mutual

/-- Every text that `_compact` keeps loses some of its characters, and no member that it keeps
has the name of the marker. -/
def clean (originalBytes : Nat) : Json → Nat → Bool
  | .obj members, budget =>
      let budgets := memberBudgets originalBytes budget
        (Sorting.sorted SerdeJson.keyLe (compactMembers originalBytes members)) .empty
      let kept := (Sorting.sorted SerdeJson.keyLe (cleanMembers originalBytes members)).zip budgets
      kept.all fun entry => decide (entry.1.1 ≠ "_truncation") && entry.1.2 entry.2
  | .arr items, budget =>
      let budgets := itemBudgets originalBytes budget (compactItems originalBytes items) []
      ((cleanItems originalBytes items).zip budgets).all fun entry => entry.1 entry.2
  | .str s, budget => decide (budget - 160 < (s.toList.map Char.utf8Size).sum)
  | .null, _ => true
  | .bool _, _ => true
  | .int _, _ => true
  | .float _, _ => true

def cleanItems (originalBytes : Nat) : List Json → List (Nat → Bool)
  | [] => []
  | item :: items => clean originalBytes item :: cleanItems originalBytes items

def cleanMembers (originalBytes : Nat) : List (String × Json) → List (String × (Nat → Bool))
  | [] => []
  | (key, value) :: members =>
      (key, clean originalBytes value) :: cleanMembers originalBytes members

end

mutual

/-- No object has two members of one key. -/
def Keyed : Json → Prop
  | .obj members => (members.map Prod.fst).Nodup ∧ KeyedMembers members
  | .arr items => KeyedItems items
  | _ => True

def KeyedItems : List Json → Prop
  | [] => True
  | item :: items => Keyed item ∧ KeyedItems items

def KeyedMembers : List (String × Json) → Prop
  | [] => True
  | (_, value) :: members => Keyed value ∧ KeyedMembers members

end

/-! ## What the loops keep -/

theorem compactMembers_eq (originalBytes : Nat) (members : List (String × Json)) :
    compactMembers originalBytes members =
      members.map fun member => (member.1, compact originalBytes member.2) := by
  induction members with
  | nil => rfl
  | cons member members ih => rw [compactMembers, ih, List.map_cons]

theorem compactItems_eq (originalBytes : Nat) (items : List Json) :
    compactItems originalBytes items = items.map (compact originalBytes) := by
  induction items with
  | nil => rfl
  | cons item items ih => rw [compactItems, ih, List.map_cons]

theorem cleanMembers_eq (originalBytes : Nat) (members : List (String × Json)) :
    cleanMembers originalBytes members =
      members.map fun member => (member.1, clean originalBytes member.2) := by
  induction members with
  | nil => rfl
  | cons member members ih => rw [cleanMembers, ih, List.map_cons]

theorem cleanItems_eq (originalBytes : Nat) (items : List Json) :
    cleanItems originalBytes items = items.map (clean originalBytes) := by
  induction items with
  | nil => rfl
  | cons item items ih => rw [cleanItems, ih, List.map_cons]

/-- A new entry that is deleted again. -/
theorem entries_erase_set {output : Dict String Json} {key : String} (fresh : key ∉ output.keys)
    (value : Json) : ((output.set key value).erase key).entries = output.entries := by
  change (output.set key value).entries.filter (fun entry => decide (entry.1 ≠ key)) = _
  rw [Dict.entries_set_new fresh, List.filter_append, List.filter_cons_of_neg (by simp),
    List.filter_nil, List.append_nil, List.filter_eq_self]
  intro entry mem
  have differs : entry.1 ≠ key := by
    rintro rfl
    exact fresh (List.mem_map_of_mem mem)
  exact decide_eq_true differs

section Loops

variable (originalBytes budget : Nat)

/-- The loop keeps the first members, each compacted under its budget. -/
theorem entries_keepMembers (items : List (String × (Nat → Json))) (output : Dict String Json)
    (nodup : (items.map Prod.fst).Nodup) (fresh : ∀ item ∈ items, item.1 ∉ output.keys) :
    (keepMembers originalBytes budget items output).entries =
      output.entries ++ (items.zip (memberBudgets originalBytes budget items output)).map
        fun entry => (entry.1.1, entry.1.2 entry.2) := by
  induction items generalizing output with
  | nil => exact (List.append_nil _).symm
  | cons item items ih =>
      obtain ⟨absent, later⟩ := List.nodup_cons.mp nodup
      have new := fresh item (List.mem_cons_self ..)
      unfold keepMembers memberBudgets
      dsimp only
      split
      · rw [entries_erase_set new]
        exact (List.append_nil _).symm
      · have stillFresh : ∀ next ∈ items, next.1 ∉
            (output.set item.1 (item.2 (remaining budget (.obj output.entries)))).keys := by
          intro next mem known
          unfold Dict.keys at known
          rw [Dict.entries_set_new new, List.map_append, List.mem_append] at known
          rcases known with known | known
          · exact fresh next (List.mem_cons_of_mem _ mem) known
          · rw [List.map_singleton, List.mem_singleton] at known
            exact absent (known ▸ List.mem_map_of_mem mem)
        rw [ih _ later stillFresh, Dict.entries_set_new new, List.append_assoc]
        rfl

/-- The loop keeps the first elements, each compacted under its budget. -/
theorem keepItems_eq (items : List (Nat → Json)) (output : List Json) :
    keepItems originalBytes budget items output =
      output ++ (items.zip (itemBudgets originalBytes budget items output)).map
        fun entry => entry.1 entry.2 := by
  induction items generalizing output with
  | nil => exact (List.append_nil _).symm
  | cons item items ih =>
      unfold keepItems itemBudgets
      dsimp only
      split
      · rw [List.dropLast_concat]
        exact (List.append_nil _).symm
      · rw [ih, List.append_assoc]
        rfl

end Loops

/-- The members of an object that `_compact` keeps, with their budgets. -/
def keptMembers (originalBytes : Nat) (members : List (String × Json)) (budget : Nat) :
    List ((String × Json) × Nat) :=
  let sorted := Sorting.sorted SerdeJson.keyLe members
  sorted.zip (memberBudgets originalBytes budget
    (sorted.map fun member => (member.1, compact originalBytes member.2)) .empty)

/-- The elements of a list that `_compact` keeps, with their budgets. -/
def keptItems (originalBytes : Nat) (items : List Json) (budget : Nat) : List (Json × Nat) :=
  items.zip (itemBudgets originalBytes budget (items.map (compact originalBytes)) [])

theorem compact_obj (originalBytes : Nat) {members : List (String × Json)} (budget : Nat)
    (nodup : (members.map Prod.fst).Nodup) :
    ∃ output : Dict String Json, ∃ omitted,
      compact originalBytes (.obj members) budget =
        .obj (marked originalBytes output omitted).entries ∧
      output.entries = (keptMembers originalBytes members budget).map
        (fun entry => (entry.1.1, compact originalBytes entry.1.2 entry.2)) ∧
      output.entries.length + omitted = members.length := by
  set sorted := Sorting.sorted SerdeJson.keyLe members with sortedEq
  have perm : sorted.Perm members := Sorting.sorted_perm _ _
  set items := sorted.map fun member => (member.1, compact originalBytes member.2) with itemsEq
  have keys : items.map Prod.fst = sorted.map Prod.fst := by
    rw [itemsEq, List.map_map]
    rfl
  have distinct : (items.map Prod.fst).Nodup := by
    rw [keys]
    exact (perm.map _).nodup_iff.mpr nodup
  have entries := entries_keepMembers originalBytes budget items .empty distinct
    (fun item _ known => absurd known List.not_mem_nil)
  have same : (keepMembers originalBytes budget items .empty).entries =
      (keptMembers originalBytes members budget).map
        (fun entry => (entry.1.1, compact originalBytes entry.1.2 entry.2)) := by
    rw [entries, itemsEq]
    change [] ++ List.map _ (List.zip (List.map _ sorted) _) = _
    rw [List.nil_append, List.zip_map_left, List.map_map]
    rfl
  refine ⟨keepMembers originalBytes budget items .empty,
    items.length - (keepMembers originalBytes budget items .empty).entries.length, ?_, same, ?_⟩
  · rw [compact, compactMembers_eq, SerdeJson.sorted_keys]
  · have length : items.length = members.length := by
      rw [itemsEq, List.length_map]
      exact perm.length_eq
    have bounded : (keepMembers originalBytes budget items .empty).entries.length ≤
        items.length := by
      rw [same, List.length_map, length, ← perm.length_eq]
      unfold keptMembers
      rw [List.length_zip]
      exact Nat.min_le_left _ _
    omega

theorem compact_arr (originalBytes : Nat) (items : List Json) (budget : Nat) :
    ∃ omitted, compact originalBytes (.arr items) budget =
        .arr (markedItems originalBytes ((keptItems originalBytes items budget).map
          fun entry => compact originalBytes entry.1 entry.2) omitted) ∧
      (keptItems originalBytes items budget).length + omitted = items.length := by
  have same : keepItems originalBytes budget (items.map (compact originalBytes)) [] =
      (keptItems originalBytes items budget).map
        fun entry => compact originalBytes entry.1 entry.2 := by
    rw [keepItems_eq, List.nil_append, List.zip_map_left, List.map_map]
    rfl
  refine ⟨items.length - (keptItems originalBytes items budget).length, ?_, ?_⟩
  · rw [compact, compactItems_eq, same, List.length_map, List.length_map]
  · have bounded : (keptItems originalBytes items budget).length ≤ items.length := by
      unfold keptItems
      rw [List.length_zip]
      exact Nat.min_le_left _ _
    omega

theorem clean_obj {originalBytes : Nat} {members : List (String × Json)} {budget : Nat} :
    clean originalBytes (.obj members) budget = true ↔
      ∀ entry ∈ keptMembers originalBytes members budget,
        entry.1.1 ≠ "_truncation" ∧ clean originalBytes entry.1.2 entry.2 = true := by
  rw [clean, compactMembers_eq, cleanMembers_eq, SerdeJson.sorted_keys, SerdeJson.sorted_keys,
    List.zip_map_left, List.all_map, List.all_eq_true]
  unfold keptMembers
  refine forall₂_congr fun entry _ => ?_
  rw [Function.comp_apply, Bool.and_eq_true, decide_eq_true_eq]
  rfl

theorem clean_arr {originalBytes : Nat} {items : List Json} {budget : Nat} :
    clean originalBytes (.arr items) budget = true ↔
      ∀ entry ∈ keptItems originalBytes items budget,
        clean originalBytes entry.1 entry.2 = true := by
  rw [clean, compactItems_eq, cleanItems_eq, List.zip_map_left, List.all_map, List.all_eq_true]
  exact Iff.rfl

/-! ## Texts -/

theorem decodedPrefix_prefix (room : Nat) (cs : List Char) : decodedPrefix room cs <+: cs := by
  induction cs generalizing room with
  | nil => exact List.prefix_rfl
  | cons c cs ih =>
      unfold decodedPrefix
      split
      · exact List.cons_prefix_cons.mpr ⟨rfl, ih _⟩
      · exact List.nil_prefix

/-- Something is removed exactly where the bytes of the text do not all fit. -/
theorem length_decodedPrefix_lt (room : Nat) (cs : List Char) :
    (decodedPrefix room cs).length < cs.length ↔ room < (cs.map Char.utf8Size).sum := by
  induction cs generalizing room with
  | nil => exact iff_of_false (Nat.lt_irrefl _) (Nat.not_lt_zero _)
  | cons c cs ih =>
      unfold decodedPrefix
      rw [List.map_cons, List.sum_cons]
      split
      · have rest := ih (room - c.utf8Size)
        rw [List.length_cons, List.length_cons]
        omega
      · have some : 0 < (c :: cs).length := Nat.succ_pos _
        rw [List.length_nil]
        omega

theorem view_text (originalBytes : Nat) (s : String) (budget : Nat) :
    View originalBytes (.str s) (compact originalBytes (.str s) budget) ↔
      clean originalBytes (.str s) budget = true := by
  rw [View, compact, clean, decide_eq_true_eq, ← length_decodedPrefix_lt, String.length_toList]
  constructor
  · rintro (same | ⟨kept, same, -, shorter⟩)
    · cases same
    · have texts : String.ofList (decodedPrefix (budget - 160) s.toList) = String.ofList kept := by
        have members := Json.obj.inj same
        exact Json.str.inj (Prod.mk.inj (List.cons.inj members).1).2
      rw [String.ofList_injective texts]
      exact shorter
  · intro shorter
    exact .inr ⟨_, rfl, decodedPrefix_prefix _ _, shorter⟩

/-! ## Levels -/

theorem omission_inj {originalBytes omitted omitted' : Nat}
    (same : omission originalBytes omitted = omission originalBytes omitted') :
    omitted = omitted' := by
  have last := (List.append_cancel_left (Json.obj.inj same))
  have counts := Json.int.inj (Prod.mk.inj (List.cons.inj last).1).2
  exact Int.ofNat.inj counts

theorem viewMember_iff {originalBytes : Nat} {members : List (String × Json)}
    {entry : String × Json} :
    ViewMember originalBytes members entry ↔
      ∃ value, (entry.1, value) ∈ members ∧ View originalBytes value entry.2 := by
  induction members with
  | nil =>
      constructor
      · intro absent
        exact absent.elim
      · rintro ⟨value, absent, -⟩
        cases absent
  | cons member members ih =>
      obtain ⟨key, value⟩ := member
      rw [ViewMember, ih]
      constructor
      · rintro (⟨isKey, viewed⟩ | ⟨later, mem, viewed⟩)
        · exact ⟨value, isKey ▸ List.mem_cons_self .., viewed⟩
        · exact ⟨later, List.mem_cons_of_mem _ mem, viewed⟩
      · rintro ⟨found, mem, viewed⟩
        rcases List.mem_cons.mp mem with here | later
        · obtain ⟨isKey, isValue⟩ := Prod.mk.inj here
          exact .inl ⟨isKey, isValue ▸ viewed⟩
        · exact .inr ⟨found, later, viewed⟩

theorem viewItems_zip {originalBytes : Nat} (form : Json → Nat → Json) (items : List Json)
    (budgets : List Nat) :
    ViewItems originalBytes items ((items.zip budgets).map fun entry => form entry.1 entry.2) ↔
      ∀ entry ∈ items.zip budgets, View originalBytes entry.1 (form entry.1 entry.2) := by
  induction items generalizing budgets with
  | nil =>
      constructor
      · intro _ entry absent
        cases absent
      · intro _
        trivial
  | cons item items ih =>
      cases budgets with
      | nil =>
          constructor
          · intro _ entry absent
            cases absent
          · intro _
            trivial
      | cons budget budgets =>
          rw [List.zip_cons_cons, List.map_cons, ViewItems, ih, List.forall_mem_cons]

/-- An object with its marker is a view where the marker has written over no member. -/
theorem view_obj {originalBytes omitted : Nat} {members : List (String × Json)}
    {output : Dict String Json} (counted : output.entries.length + omitted = members.length) :
    View originalBytes (.obj members) (.obj (marked originalBytes output omitted).entries) ↔
      "_truncation" ∉ output.keys ∧
        ∀ entry ∈ output.entries, ViewMember originalBytes members entry := by
  have marker : ("_truncation", omission originalBytes omitted) ∈
      (marked originalBytes output omitted).entries := by
    rw [Dict.mem_entries, marked, Dict.get_set, if_pos rfl]
  rw [View]
  constructor
  · rintro (⟨same, unmarked⟩ | ⟨entries, kept, omitted', same, perm, -, free, viewed, counts⟩)
    · rw [Json.obj.inj same] at marker
      exact absurd (List.mem_map_of_mem marker) unmarked
    · obtain rfl := Json.obj.inj same
      have last := perm.mem_iff.mp marker
      rcases List.mem_append.mp last with inKept | isLast
      · exact absurd (List.mem_map_of_mem inKept) free
      · obtain rfl := omission_inj (Prod.mk.inj (List.mem_singleton.mp isLast)).2
        have lengths := perm.length_eq
        rw [List.length_append, List.length_singleton] at lengths
        have fresh : "_truncation" ∉ output.keys := by
          intro known
          have inPlace : (marked originalBytes output omitted).entries.length =
              output.entries.length := by
            have keys := Dict.keys_setEntries output.entries "_truncation"
              (omission originalBytes omitted)
            have isKey : "_truncation" ∈ output.entries.map Prod.fst := known
            rw [if_pos isKey] at keys
            have sizes := congrArg List.length keys
            rwa [List.length_map, List.length_map] at sizes
          omega
        rw [marked, Dict.entries_set_new fresh] at perm
        have kept := (List.perm_append_right_iff _).mp perm
        exact ⟨fresh, fun entry mem => viewed entry (kept.mem_iff.mp mem)⟩
  · rintro ⟨fresh, viewed⟩
    refine .inr ⟨_, output.entries, omitted, rfl, ?_, output.nodup, fresh, viewed, counted⟩
    rw [marked, Dict.entries_set_new fresh]

theorem view_arr {originalBytes omitted : Nat} {items kept : List Json}
    (counted : kept.length + omitted = items.length) :
    View originalBytes (.arr items) (.arr (markedItems originalBytes kept omitted)) ↔
      ViewItems originalBytes items kept := by
  rw [View]
  constructor
  · rintro (⟨same, unmarked⟩ | ⟨kept', omitted', same, viewed, -⟩)
    · refine absurd ⟨[("_truncation", omission originalBytes omitted)], ?_, ?_⟩ unmarked
      · rw [← Json.arr.inj same]
        exact List.getLast?_concat
      · exact List.mem_cons_self ..
    · rw [(List.append_inj' (Json.arr.inj same) rfl).1]
      exact viewed
  · intro viewed
    exact .inr ⟨kept, omitted, rfl, viewed, counted⟩

theorem KeyedItems.mem {items : List Json} (keyed : KeyedItems items) :
    ∀ item ∈ items, Keyed item := by
  induction items with
  | nil =>
      intro item absent
      cases absent
  | cons first items ih =>
      intro item mem
      rcases List.mem_cons.mp mem with rfl | later
      · exact keyed.1
      · exact ih keyed.2 item later

theorem KeyedMembers.mem {members : List (String × Json)} (keyed : KeyedMembers members) :
    ∀ member ∈ members, Keyed member.2 := by
  induction members with
  | nil =>
      intro member absent
      cases absent
  | cons first members ih =>
      intro member mem
      rcases List.mem_cons.mp mem with rfl | later
      · exact keyed.1
      · exact ih keyed.2 member later

/-- One level of an object, if its members are done. -/
theorem view_compact_obj {originalBytes budget : Nat} {members : List (String × Json)}
    (nodup : (members.map Prod.fst).Nodup)
    (children : ∀ member ∈ members, ∀ budget,
      View originalBytes member.2 (compact originalBytes member.2 budget) ↔
        clean originalBytes member.2 budget = true) :
    View originalBytes (.obj members) (compact originalBytes (.obj members) budget) ↔
      clean originalBytes (.obj members) budget = true := by
  obtain ⟨output, omitted, compacted, entries, counted⟩ :=
    compact_obj originalBytes budget nodup
  have isMember : ∀ entry ∈ keptMembers originalBytes members budget, entry.1 ∈ members := by
    intro entry mem
    exact Sorting.mem_sorted.mp (List.of_mem_zip mem).1
  rw [compacted, view_obj counted, clean_obj]
  unfold Dict.keys
  rw [entries, List.map_map, List.forall_mem_map]
  constructor
  · rintro ⟨fresh, viewed⟩ entry mem
    obtain ⟨value, isValue, view⟩ := viewMember_iff.mp (viewed entry mem)
    have same : entry.1 = (entry.1.1, value) :=
      List.inj_on_of_nodup_map nodup (isMember entry mem) isValue rfl
    constructor
    · intro isMarker
      exact fresh (isMarker ▸ List.mem_map_of_mem (f := Prod.fst ∘ fun entry =>
        (entry.1.1, compact originalBytes entry.1.2 entry.2)) mem)
    · apply (children entry.1 (isMember entry mem) entry.2).mp
      rw [congrArg Prod.snd same]
      rw [congrArg Prod.snd same] at view
      exact view
  · intro cleaned
    constructor
    · intro known
      obtain ⟨entry, mem, isMarker⟩ := List.mem_map.mp known
      exact (cleaned entry mem).1 isMarker
    · intro entry mem
      apply viewMember_iff.mpr
      exact ⟨entry.1.2, isMember entry mem,
        (children entry.1 (isMember entry mem) entry.2).mpr (cleaned entry mem).2⟩

/-- One level of a list, if its elements are done. -/
theorem view_compact_arr {originalBytes budget : Nat} {items : List Json}
    (children : ∀ item ∈ items, ∀ budget,
      View originalBytes item (compact originalBytes item budget) ↔
        clean originalBytes item budget = true) :
    View originalBytes (.arr items) (compact originalBytes (.arr items) budget) ↔
      clean originalBytes (.arr items) budget = true := by
  obtain ⟨omitted, compacted, counted⟩ := compact_arr originalBytes items budget
  rw [compacted, view_arr (by rwa [List.length_map]), clean_arr, keptItems, viewItems_zip]
  refine forall₂_congr fun entry mem => ?_
  exact children entry.1 (List.of_mem_zip mem).1 entry.2

/-- The compacted form of a value is a view of it exactly where the compaction is clean. -/
theorem view_compact (originalBytes : Nat) (value : Json) (keyed : Keyed value) (budget : Nat) :
    View originalBytes value (compact originalBytes value budget) ↔
      clean originalBytes value budget = true := by
  revert keyed budget
  -- by the structure of the value; for lists of values, of all of them
  refine @Json.rec
    (fun value => Keyed value → ∀ budget,
      View originalBytes value (compact originalBytes value budget) ↔
        clean originalBytes value budget = true)
    (fun items => ∀ item ∈ items, Keyed item → ∀ budget,
      View originalBytes item (compact originalBytes item budget) ↔
        clean originalBytes item budget = true)
    (fun members => ∀ member ∈ members, Keyed member.2 → ∀ budget,
      View originalBytes member.2 (compact originalBytes member.2 budget) ↔
        clean originalBytes member.2 budget = true)
    (fun member => Keyed member.2 → ∀ budget,
      View originalBytes member.2 (compact originalBytes member.2 budget) ↔
        clean originalBytes member.2 budget = true)
    ?null ?bool ?int ?float ?str ?arr ?obj ?nilItems ?consItems ?nilMembers ?consMembers ?member
    value
  case null => exact fun _ _ => ⟨fun _ => rfl, fun _ => rfl⟩
  case bool => exact fun b _ _ => ⟨fun _ => rfl, fun _ => rfl⟩
  case int => exact fun n _ _ => ⟨fun _ => rfl, fun _ => rfl⟩
  case float => exact fun repr _ _ => ⟨fun _ => rfl, fun _ => rfl⟩
  case str => exact fun s _ budget => view_text originalBytes s budget
  case arr =>
    intro items ih keyed budget
    exact view_compact_arr fun item mem => ih item mem (KeyedItems.mem keyed item mem)
  case obj =>
    intro members ih keyed budget
    exact view_compact_obj keyed.1 fun member mem =>
      ih member mem (KeyedMembers.mem keyed.2 member mem)
  case nilItems =>
    intro item absent
    cases absent
  case consItems =>
    intro first items ihFirst ih item mem
    rcases List.mem_cons.mp mem with rfl | later
    · exact ihFirst
    · exact ih item later
  case nilMembers =>
    intro member absent
    cases absent
  case consMembers =>
    intro first members ihFirst ih member mem
    rcases List.mem_cons.mp mem with rfl | later
    · exact ihFirst
    · exact ih member later
  case member => exact fun _ value ih => ih

/-! ## `compact_json` -/

/-- No compacted form is the marker alone. -/
theorem compact_ne_withheld (originalBytes : Nat) (value : Json) (budget : Nat) :
    compact originalBytes value budget ≠ withheld originalBytes := by
  cases value with
  | obj members =>
      intro same
      rw [compact] at same
      set output := keepMembers originalBytes budget
        (Sorting.sorted SerdeJson.keyLe (compactMembers originalBytes members)) .empty
      set omitted := (Sorting.sorted SerdeJson.keyLe (compactMembers originalBytes members)).length
        - output.entries.length
      have marker : ("_truncation", omission originalBytes omitted) ∈
          (marked originalBytes output omitted).entries := by
        rw [Dict.mem_entries, marked, Dict.get_set, if_pos rfl]
      rw [Json.obj.inj same, List.mem_singleton] at marker
      have members := Json.obj.inj (Prod.mk.inj marker).2
      have lengths : 3 = 2 := congrArg List.length members
      exact absurd lengths (by decide)
  | arr items =>
      rw [compact]
      exact Json.noConfusion
  | str s =>
      intro same
      have keys : "_truncated_text" = "_truncation" :=
        congrArg Prod.fst (List.cons.inj (Json.obj.inj same)).1
      exact absurd keys (by decide +kernel)
  | null => exact Json.noConfusion
  | bool b => exact Json.noConfusion
  | int n => exact Json.noConfusion
  | float repr => exact Json.noConfusion

/-- A short text beside a long list. -/
def shortAndLong : Json :=
  .obj [("kind", .str "ok"), ("rows", .arr (List.replicate 100 .null))]

theorem keyed_shortAndLong : Keyed shortAndLong := by
  have keyedRows : ∀ count : Nat, KeyedItems (List.replicate count .null) := by
    intro count
    induction count with
    | zero => trivial
    | succ count ih => exact ⟨trivial, ih⟩
  refine ⟨?_, trivial, keyedRows 100, trivial⟩
  change ["kind", "rows"].Nodup
  decide +kernel

theorem shortAndLong_compacted :
    (decide (450 < jsonSize shortAndLong) && decide (jsonSize shortAndLong ≤ 600) &&
      decide (jsonSize (compact (jsonSize shortAndLong) shortAndLong 450) ≤ 450) &&
      !clean (jsonSize shortAndLong) shortAndLong 450) = true := by
  decide +kernel

end NetOpsBench.Payloads
