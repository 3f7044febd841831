import NetOpsBench.Lib.Fallible

/-!
# Programs that fail alike

Two fallible programs are alike if both fail, whatever their errors, or both succeed with related
results. Sequences of alike programs are alike (`Alike.bind`), and so are loops over two lists in
which every element has its like (`Alike.mapM`).
-/

namespace Fallible

variable {ε ε' α β γ δ : Type}

inductive Alike (R : α → β → Prop) : Except ε α → Except ε' β → Prop where
  | fail {e : ε} {e' : ε'} : Alike R (.error e) (.error e')
  | done {a : α} {b : β} : R a b → Alike R (.ok a) (.ok b)

/-- Every element of either list has its like in the other. -/
structure Matched (R : α → β → Prop) (xs : List α) (ys : List β) : Prop where
  there : ∀ x ∈ xs, ∃ y ∈ ys, R x y
  back : ∀ y ∈ ys, ∃ x ∈ xs, R x y

theorem Matched.mem_iff {xs ys : List α} (matched : Matched (· = ·) xs ys) (x : α) :
    x ∈ xs ↔ x ∈ ys := by
  constructor
  · intro mem
    obtain ⟨y, isY, rfl⟩ := matched.there x mem
    exact isY
  · intro mem
    obtain ⟨y, isY, rfl⟩ := matched.back x mem
    exact isY

namespace Alike

variable {R : α → β → Prop} {S : γ → δ → Prop} {x : Except ε α} {y : Except ε' β}

theorem bind {f : α → Except ε γ} {g : β → Except ε' δ} (first : Alike R x y)
    (rest : ∀ a b, R a b → Alike S (f a) (g b)) : Alike S (x >>= f) (y >>= g) := by
  cases first with
  | fail => exact .fail
  | done related => exact rest _ _ related

theorem of_eq {x y : Except ε α} (same : x = y) : Alike (· = ·) x y := by
  subst same
  cases x with
  | error e => exact .fail
  | ok a => exact .done rfl

/-- Either program succeeds if the other does, with a related result. -/
theorem of_ok (there : ∀ a, x = .ok a → ∃ b, y = .ok b ∧ R a b)
    (back : ∀ b, y = .ok b → ∃ a, x = .ok a) : Alike R x y := by
  cases isX : x with
  | error e =>
      cases isY : y with
      | error e' => exact .fail
      | ok b =>
          obtain ⟨a, done⟩ := back b isY
          cases isX.symm.trans done
  | ok a =>
      obtain ⟨b, done, related⟩ := there a isX
      rw [done]
      exact .done related

theorem reject {p q : Prop} [Decidable p] [Decidable q] (same : p ↔ q) {e : ε} {e' : ε'} :
    Alike (fun _ _ => True) (Fallible.reject p e) (Fallible.reject q e') := by
  unfold Fallible.reject
  by_cases holds : p
  · rw [if_pos holds, if_pos (same.mp holds)]
    exact .fail
  · rw [if_neg holds, if_neg (mt same.mpr holds)]
    exact .done trivial

theorem mono {S : α → β → Prop} (alike : Alike R x y) (weaker : ∀ a b, R a b → S a b) :
    Alike S x y := by
  cases alike with
  | fail => exact .fail
  | done related => exact .done (weaker _ _ related)

theorem error_there (alike : Alike R x y) {e : ε} (failed : x = .error e) :
    ∃ e', y = .error e' := by
  cases alike with
  | fail => exact ⟨_, rfl⟩
  | done => cases failed

theorem ok_there (alike : Alike R x y) {a : α} (done : x = .ok a) : ∃ b, y = .ok b ∧ R a b := by
  cases alike with
  | fail => cases done
  | done related => exact ⟨_, rfl, Except.ok.inj done ▸ related⟩

theorem ok_back (alike : Alike R x y) {b : β} (done : y = .ok b) : ∃ a, x = .ok a ∧ R a b := by
  cases alike with
  | fail => cases done
  | done related => exact ⟨_, rfl, Except.ok.inj done ▸ related⟩

theorem mapM {f : α → Except ε γ} {g : β → Except ε' δ} {xs : List α} {ys : List β}
    (matched : Matched (fun x y => Alike S (f x) (g y)) xs ys) :
    Alike (Matched S) (xs.mapM f) (ys.mapM g) := by
  apply of_ok
  · intro as done
    have each (y : β) (mem : y ∈ ys) : ∃ b, g y = .ok b := by
      obtain ⟨x, isX, alike⟩ := matched.back y mem
      obtain ⟨a, -, succeeds⟩ := exists_of_mapM done isX
      obtain ⟨b, ok, -⟩ := alike.ok_there succeeds
      exact ⟨b, ok⟩
    obtain ⟨bs, done'⟩ := mapM_total each
    refine ⟨bs, done', fun a mem => ?_, fun b mem => ?_⟩
    · obtain ⟨x, isX, succeeds⟩ := (mem_of_mapM done).mp mem
      obtain ⟨y, isY, alike⟩ := matched.there x isX
      obtain ⟨b, ok, related⟩ := alike.ok_there succeeds
      exact ⟨b, (mem_of_mapM done').mpr ⟨y, isY, ok⟩, related⟩
    · obtain ⟨y, isY, succeeds⟩ := (mem_of_mapM done').mp mem
      obtain ⟨x, isX, alike⟩ := matched.back y isY
      obtain ⟨a, ok, related⟩ := alike.ok_back succeeds
      exact ⟨a, (mem_of_mapM done).mpr ⟨x, isX, ok⟩, related⟩
  · intro bs done
    apply mapM_total
    intro x isX
    obtain ⟨y, isY, alike⟩ := matched.there x isX
    obtain ⟨b, -, succeeds⟩ := exists_of_mapM done isY
    obtain ⟨a, ok, -⟩ := alike.ok_back succeeds
    exact ⟨a, ok⟩

/-! ### Searches -/

theorem anyM_total {p : α → Except ε Bool} {xs : List α} (each : ∀ x ∈ xs, ∃ b, p x = .ok b) :
    ∃ b, xs.anyM p = .ok b ∧ (b = true ↔ ∃ x ∈ xs, p x = .ok true) := by
  induction xs with
  | nil => exact ⟨false, rfl, nofun, fun found => nomatch found⟩
  | cons x xs ih =>
      obtain ⟨b, first⟩ := each x List.mem_cons_self
      rw [List.anyM_cons, first, ok_bind]
      cases b with
      | true => exact ⟨true, rfl, fun _ => ⟨x, List.mem_cons_self, first⟩, fun _ => rfl⟩
      | false =>
          obtain ⟨b, rest, found⟩ := ih fun y mem => each y (List.mem_cons_of_mem x mem)
          refine ⟨b, rest, found.trans ⟨?_, ?_⟩⟩
          · rintro ⟨y, mem, hit⟩
            exact ⟨y, List.mem_cons_of_mem x mem, hit⟩
          · rintro ⟨y, mem, hit⟩
            rcases List.mem_cons.mp mem with rfl | mem
            · cases first.symm.trans hit
            · exact ⟨y, mem, hit⟩

theorem anyM_fails {p : α → Except ε Bool} {xs : List α} (none_ : ∀ x ∈ xs, p x ≠ .ok true)
    (some_ : ∃ x ∈ xs, ∃ e, p x = .error e) : ∃ e, xs.anyM p = .error e := by
  induction xs with
  | nil =>
      obtain ⟨x, mem, -⟩ := some_
      cases mem
  | cons x xs ih =>
      rw [List.anyM_cons]
      cases first : p x with
      | error e => exact ⟨e, rfl⟩
      | ok b =>
          cases b with
          | true => exact absurd first (none_ x List.mem_cons_self)
          | false =>
              refine ih (fun y mem => none_ y (List.mem_cons_of_mem x mem)) ?_
              obtain ⟨y, mem, e, fails⟩ := some_
              rcases List.mem_cons.mp mem with rfl | mem
              · cases first.symm.trans fails
              · exact ⟨y, mem, e, fails⟩

/-- Searches over the same elements end alike, unless one element is found and another fails. -/
theorem anyM {p : α → Except ε Bool} {xs ys : List α} (same : ∀ x, x ∈ xs ↔ x ∈ ys)
    (unmixed : ¬ ((∃ x ∈ xs, p x = .ok true) ∧ ∃ x ∈ xs, ∃ e, p x = .error e)) :
    Alike (· = ·) (xs.anyM p) (ys.anyM p) := by
  by_cases fails : ∃ x ∈ xs, ∃ e, p x = .error e
  · have none_ (x : α) (mem : x ∈ xs) : p x ≠ .ok true := fun hit => unmixed ⟨⟨x, mem, hit⟩, fails⟩
    obtain ⟨e, failed⟩ := anyM_fails none_ fails
    obtain ⟨x, mem, e', failsAt⟩ := fails
    obtain ⟨e', failed'⟩ := anyM_fails (fun y isY => none_ y ((same y).mpr isY))
      ⟨x, (same x).mp mem, e', failsAt⟩
    rw [failed, failed']
    exact .fail
  · have total (x : α) (mem : x ∈ xs) : ∃ b, p x = .ok b := by
      cases at_ : p x with
      | error e => exact absurd ⟨x, mem, e, at_⟩ fails
      | ok b => exact ⟨b, rfl⟩
    obtain ⟨b, done, found⟩ := anyM_total total
    obtain ⟨b', done', found'⟩ := anyM_total fun y isY => total y ((same y).mpr isY)
    rw [done, done']
    refine .done (Bool.eq_iff_iff.mpr ?_)
    rw [found, found']
    simp only [same]

end Alike

end Fallible
