import NetOpsBench.Lib.Text

/-!
# The identity of a worker

`RuntimeIdentity` of `netopsbench/models/runtime.py`, with the names that it gives the resources of
a worker. Two workers share a bucket exactly when they have one index and the labels of their
runtimes are the same text (`defaultBucket_inj`).
-/

namespace NetOpsBench

/-- What `str.lower` and `str.isalnum` answer, by the tables of Unicode. -/
structure CharacterTables : Type where
  lower : String → String
  isAlnum : Char → Bool

/-- The tables, for texts of ASCII. -/
def CharacterTables.ascii : CharacterTables := ⟨Text.lower, Char.isAlphanum⟩

variable {tables : CharacterTables}

/-- `safe_runtime_label` -/
def safeRuntimeLabel (tables : CharacterTables) (value : String) : String :=
  let text := tables.lower (Text.strip (Text.either value "unknown"))
  Text.either (String.ofList (text.toList.map fun char =>
    if tables.isAlnum char || char == '-' || char == '_' then char else '_')) "unknown"

/-- `f"{index:02d}"` -/
def twoDigits (index : Nat) : String :=
  if index < 10 then "0" ++ toString index else toString index

/-- `_default_bucket` -/
def defaultBucket (tables : CharacterTables) (runtimeId : String) (workerIndex : Nat) : String :=
  "network_data_" ++ safeRuntimeLabel tables runtimeId ++ "_w" ++ twoDigits workerIndex

structure RuntimeIdentity : Type where
  runtimeId : String
  workerId : String
  workerIndex : Nat
  labName : String
  topologyId : String
  topologyDir : String
  bucket : String
  mgmtSubnet : String
  mgmtNetwork : String
  deriving DecidableEq, Repr

/-- `RuntimeIdentity.create` -/
def RuntimeIdentity.create (tables : CharacterTables) (runtimeId workerId : String)
    (workerIndex : Nat) (labName topologyDir mgmtSubnet mgmtNetwork : String)
    (topologyId bucket : Option String) : RuntimeIdentity where
  runtimeId
  workerId
  workerIndex
  labName
  topologyId := topologyId.getD labName
  topologyDir
  bucket := (bucket.bind Text.nonempty).getD (defaultBucket tables runtimeId workerIndex)
  mgmtSubnet
  mgmtNetwork

/-! ## Buckets -/

theorem toList_twoDigits (index : Nat) :
    (twoDigits index).toList = (if index < 10 then ['0'] else []) ++ Nat.toDigits 10 index := by
  unfold twoDigits
  split
  · rw [String.toList_append, Nat.toString_eq_repr, Nat.toList_repr]
    rfl
  · rw [Nat.toString_eq_repr, Nat.toList_repr, List.nil_append]

/-- The digits of an index are read back. -/
theorem ofDigitChars_twoDigits (index : Nat) :
    Nat.ofDigitChars 10 (twoDigits index).toList 0 = index := by
  rw [toList_twoDigits, Nat.ofDigitChars_append]
  split
  · exact Nat.ofDigitChars_ten_toDigits
  · exact Nat.ofDigitChars_ten_toDigits

theorem twoDigits_injective {index index' : Nat} (same : twoDigits index = twoDigits index') :
    index = index' := by
  rw [← ofDigitChars_twoDigits index, same, ofDigitChars_twoDigits]

theorem w_notMem_twoDigits (index : Nat) : 'w' ∉ (twoDigits index).toList := by
  rw [toList_twoDigits]
  intro mem
  rcases List.mem_append.mp mem with zero | digit
  · split at zero <;> simp at zero
  · have decimal := Nat.isDigit_of_mem_toDigits (by decide) (by decide) digit
    exact absurd decimal (by decide)

theorem defaultBucket_inj {runtimeId runtimeId' : String} {index index' : Nat} :
    defaultBucket tables runtimeId index = defaultBucket tables runtimeId' index' ↔
      safeRuntimeLabel tables runtimeId = safeRuntimeLabel tables runtimeId' ∧ index = index' := by
  constructor
  · intro same
    have texts := congrArg String.toList same
    have suffix : ("_w" : String).toList = ['_', 'w'] := rfl
    simp only [defaultBucket, String.toList_append, suffix, List.append_assoc, List.cons_append,
      List.nil_append, List.append_cancel_left_eq] at texts
    -- the index is what follows the last `w`
    have apart : ∀ (label : List Char) (digits : List Char),
        label ++ '_' :: 'w' :: digits = (label ++ ['_']) ++ 'w' :: digits := by
      intro label digits
      simp
    rw [apart, apart] at texts
    rcases Text.append_inj_of_notMem (w_notMem_twoDigits index) (w_notMem_twoDigits index') texts
      with ⟨labels, digits⟩
    refine ⟨String.toList_injective ?_, twoDigits_injective (String.toList_injective digits)⟩
    exact List.append_cancel_right labels
  · rintro ⟨labels, rfl⟩
    rw [defaultBucket, defaultBucket, labels]

end NetOpsBench
