import Mathlib.Data.List.Induction
import Mathlib.Data.Nat.ModEq
import Mathlib.Order.Bounds.Basic

/-!
# Runs around a cycle

The longest run of marked entries of a list that is read as a cycle. One walk along the list
written twice finds it: a run that wraps from the last entry to the first lies inside the two
copies, and what is counted is cut off at the length of the cycle.
-/

namespace CyclicRuns

variable {α : Type} {marked : α → Bool} {bound : Nat}

/-- One entry of the walk: the run that ends there and the longest run so far. -/
def step (marked : α → Bool) (bound : Nat) (state : Nat × Nat) (entry : α) : Nat × Nat :=
  let run := if marked entry then state.1 + 1 else 0
  (run, max state.2 (min run bound))

/-- The walk along a list, given the longest run known before. -/
def walk (marked : α → Bool) (bound longest : Nat) (entries : List α) : Nat × Nat :=
  entries.foldl (step marked bound) (0, longest)

/-- Some entries in a row, all of them marked. -/
def Marked (marked : α → Bool) (entries : List α) (start k : Nat) : Prop :=
  ∀ i < k, ∃ entry, entries[start + i]? = some entry ∧ marked entry = true

/-- The same around the cycle. -/
def Around (marked : α → Bool) (entries : List α) (start k : Nat) : Prop :=
  ∀ i < k, ∃ entry, entries[(start + i) % entries.length]? = some entry ∧ marked entry = true

/-- The length of the longest run around the cycle. -/
def IsLongest (marked : α → Bool) (entries : List α) (k : Nat) : Prop :=
  IsGreatest {k | k ≤ entries.length ∧ ∃ start, Around marked entries start k} k

/-! ## The walk -/

theorem walk_snoc (longest : Nat) (entries : List α) (entry : α) :
    walk marked bound longest (entries ++ [entry]) =
      step marked bound (walk marked bound longest entries) entry := by
  simp [walk]

/-- What was known before only raises the result. -/
theorem walk_eq_max (longest : Nat) (entries : List α) :
    walk marked bound longest entries =
      ((walk marked bound 0 entries).1, max longest (walk marked bound 0 entries).2) := by
  induction entries using List.reverseRecOn with
  | nil => simp [walk]
  | append_singleton entries entry ih =>
    rw [walk_snoc, walk_snoc, ih]
    simp [step, max_assoc]

/-- What the walk knows after some entries. -/
structure Walked (marked : α → Bool) (bound : Nat) (entries : List α) (state : Nat × Nat) :
    Prop where
  run_le : state.1 ≤ entries.length
  run_marked : Marked marked entries (entries.length - state.1) state.1
  run_longest : ∀ k ≤ entries.length, Marked marked entries (entries.length - k) k → k ≤ state.1
  longest_le : state.2 ≤ bound
  attained : ∃ start, start + state.2 ≤ entries.length ∧ Marked marked entries start state.2
  longest : ∀ start k, start + k ≤ entries.length → k ≤ bound → Marked marked entries start k →
    k ≤ state.2

/-- Entries that end before the last one are those of the list without it. -/
theorem marked_snoc {entries : List α} {entry : α} {start k : Nat}
    (inside : start + k ≤ entries.length) :
    Marked marked (entries ++ [entry]) start k ↔ Marked marked entries start k := by
  unfold Marked
  refine forall₂_congr fun i below => ?_
  rw [List.getElem?_append_left (by omega)]

/-- Entries that end with the last one. -/
theorem marked_snoc_last {entries : List α} {entry : α} {k : Nat} (inside : k ≤ entries.length) :
    Marked marked (entries ++ [entry]) (entries.length - k) (k + 1) ↔
      Marked marked entries (entries.length - k) k ∧ marked entry = true := by
  have last : (entries ++ [entry])[entries.length - k + k]? = some entry := by
    rw [Nat.sub_add_cancel inside, List.getElem?_concat_length]
  constructor
  · intro all
    constructor
    · apply (@marked_snoc _ _ _ entry _ _ (by omega)).mp
      intro i below
      exact all i (by omega)
    · obtain ⟨found, at_, mark⟩ := all k (by omega)
      rw [last] at at_
      rwa [Option.some.inj at_]
  · intro ⟨all, mark⟩ i below
    rcases Nat.lt_succ_iff_lt_or_eq.mp below with inner | rfl
    · exact (@marked_snoc _ _ _ entry _ _ (by omega)).mpr all i inner
    · exact ⟨entry, last, mark⟩

/-- The walk keeps what it knows. -/
theorem Walked.step {entries : List α} {state : Nat × Nat}
    (walked : Walked marked bound entries state) (entry : α) :
    Walked marked bound (entries ++ [entry]) (step marked bound state entry) := by
  obtain ⟨run, longest⟩ := state
  obtain ⟨runLe, runMarked, runLongest, longestLe, ⟨start, inside, attained⟩, isLongest⟩ := walked
  simp only at runLe runMarked runLongest longestLe inside attained isLongest
  -- the run that ends with the new entry
  obtain ⟨run', eq⟩ : ∃ run', run' = if marked entry then run + 1 else 0 := ⟨_, rfl⟩
  have stepEq : CyclicRuns.step marked bound (run, longest) entry =
      (run', max longest (min run' bound)) := by simp [CyclicRuns.step, eq]
  have runLe' : run' ≤ entries.length + 1 := by split at eq <;> omega
  have runMarked' : Marked marked (entries ++ [entry]) (entries.length + 1 - run') run' := by
    split at eq
    · rename_i mark
      rw [eq, Nat.add_sub_add_right]
      exact (marked_snoc_last runLe).mpr ⟨runMarked, mark⟩
    · intro i below
      omega
  have runLongest' : ∀ k ≤ entries.length + 1,
      Marked marked (entries ++ [entry]) (entries.length + 1 - k) k → k ≤ run' := by
    intro k kLe all
    cases k with
    | zero => omega
    | succ k =>
      rw [Nat.add_sub_add_right] at all
      obtain ⟨before, mark⟩ := (marked_snoc_last (by omega)).mp all
      have := runLongest k (by omega) before
      rw [if_pos mark] at eq
      omega
  rw [stepEq]
  constructor
  · simpa using runLe'
  · simpa using runMarked'
  · simpa using runLongest'
  · simp only
    omega
  · simp only [List.length_append, List.length_singleton]
    rcases Nat.le_total longest (min run' bound) with le | le
    · rw [Nat.max_eq_right le]
      refine ⟨entries.length + 1 - run', by omega, ?_⟩
      intro i below
      exact runMarked' i (by omega)
    · rw [Nat.max_eq_left le]
      exact ⟨start, by omega, (marked_snoc inside).mpr attained⟩
  · simp only [List.length_append, List.length_singleton]
    intro first k ends kLe all
    rcases Nat.lt_or_eq_of_le ends with before | last
    · have := isLongest first k (by omega) kLe ((marked_snoc (by omega)).mp all)
      omega
    · have := runLongest' k (by omega) (by rwa [show entries.length + 1 - k = first by omega])
      omega

theorem walked (entries : List α) :
    Walked marked bound entries (walk marked bound 0 entries) := by
  induction entries using List.reverseRecOn with
  | nil =>
    constructor
    · exact Nat.le_refl 0
    · intro i below
      exact absurd below (Nat.not_lt_zero i)
    · intro k le _
      exact le
    · exact Nat.zero_le bound
    · exact ⟨0, Nat.le_refl 0, fun i below => absurd below (Nat.not_lt_zero i)⟩
    · intro start k inside _ _
      exact Nat.le_trans (Nat.le_add_left k start) inside
  | append_singleton entries entry ih =>
    rw [walk_snoc]
    exact ih.step entry

/-! ## Around the cycle -/

/-- The two copies show the cycle from every start. -/
theorem getElem?_twice {entries : List α} {k : Nat} (below : k < 2 * entries.length) :
    (entries ++ entries)[k]? = entries[k % entries.length]? := by
  rcases Nat.lt_or_ge k entries.length with first | second
  · rw [List.getElem?_append_left first, Nat.mod_eq_of_lt first]
  · rw [List.getElem?_append_right second, Nat.mod_eq_sub_mod second,
      Nat.mod_eq_of_lt (by omega)]

theorem marked_twice {entries : List α} {start k : Nat} (inside : start + k ≤ 2 * entries.length) :
    Marked marked (entries ++ entries) start k ↔ Around marked entries start k := by
  unfold Marked Around
  refine forall₂_congr fun i below => ?_
  rw [getElem?_twice (by omega)]

/-- A run around the cycle is found from a start inside it. -/
theorem Around.mod {entries : List α} {start k : Nat} (around : Around marked entries start k) :
    Around marked entries (start % entries.length) k := by
  intro i below
  rw [Nat.mod_add_mod]
  exact around i below

/-- The walk along the two copies finds the longest run around the cycle. -/
theorem isLongest_walk (entries : List α) :
    IsLongest marked entries (walk marked entries.length 0 (entries ++ entries)).2 := by
  have known := @walked _ marked entries.length (entries ++ entries)
  have length : (entries ++ entries).length = 2 * entries.length := by
    rw [List.length_append, Nat.two_mul]
  constructor
  · obtain ⟨start, inside, attained⟩ := known.attained
    exact ⟨known.longest_le, start, (marked_twice (by omega)).mp attained⟩
  · intro k ⟨kLe, start, around⟩
    rcases Nat.eq_zero_or_pos entries.length with empty | pos
    · omega
    · have := Nat.mod_lt start pos
      exact known.longest _ k (by omega) kLe ((marked_twice (by omega)).mpr around.mod)

/-- Every index of the cycle is met in one turn from any start. -/
theorem exists_turn {n k : Nat} (below : k < n) (start : Nat) : ∃ i < n, (start + i) % n = k := by
  refine ⟨(k + (n - start % n)) % n, Nat.mod_lt _ (by omega), ?_⟩
  have startLt : start % n < n := Nat.mod_lt _ (by omega)
  calc (start + (k + (n - start % n)) % n) % n
      = (start % n + (k + (n - start % n))) % n := by simp [Nat.add_mod]
    _ = (k + n) % n := by rw [show start % n + (k + (n - start % n)) = k + n by omega]
    _ = k := by rw [Nat.add_mod_right, Nat.mod_eq_of_lt below]

/-- Where some entry is not marked, one more entry than the longest run meets such an entry. -/
theorem IsLongest.exists_unmarked {entries : List α} {k : Nat}
    (longest : IsLongest marked entries k) (stop : ∃ entry ∈ entries, marked entry = false)
    (start : Nat) :
    ∃ i ≤ k, ∃ entry, entries[(start + i) % entries.length]? = some entry ∧
      marked entry = false := by
  by_contra none
  obtain ⟨entry, mem, unmarked⟩ := stop
  obtain ⟨j, atJ⟩ := List.mem_iff_getElem?.mp mem
  obtain ⟨jLt, -⟩ := List.getElem?_eq_some_iff.mp atJ
  have around : Around marked entries start (k + 1) := by
    intro i below
    have inside := Nat.mod_lt (start + i) (Nat.zero_lt_of_lt jLt)
    refine ⟨_, List.getElem?_eq_getElem inside, ?_⟩
    by_contra unmarked
    exact none ⟨i, by omega, _, List.getElem?_eq_getElem inside, by simpa using unmarked⟩
  rcases Nat.lt_or_eq_of_le longest.1.1 with shorter | whole
  · have := longest.2 ⟨shorter, start, around⟩
    omega
  · obtain ⟨i, iLt, turn⟩ := exists_turn jLt start
    obtain ⟨found, atI, mark⟩ := around i (by omega)
    rw [turn, atJ] at atI
    rw [Option.some.inj atI, mark] at unmarked
    contradiction

end CyclicRuns
