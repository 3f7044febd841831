import Mathlib.Algebra.Order.Ring.Nat
import Mathlib.Data.List.Forall2

/-!
# Fallible programs

Inversion and loop rules for programs in `Except`: a sequence of steps succeeds
exactly when each step does, and what every successful step of a loop preserves
holds after the whole loop.
-/

namespace Fallible

variable {ε α β γ : Type}

/-- A successful sequence has a successful first step. -/
theorem bind_eq_ok {x : Except ε α} {f : α → Except ε β} {b : β} :
    (x >>= f) = .ok b ↔ ∃ a, x = .ok a ∧ f a = .ok b := by
  cases x with
  | error e => simp [bind, Except.bind]
  | ok a => simp [bind, Except.bind]

@[simp] theorem ok_bind (a : α) (f : α → Except ε β) : ((.ok a : Except ε α) >>= f) = f a := rfl

@[simp] theorem error_bind (e : ε) (f : α → Except ε β) :
    ((.error e : Except ε α) >>= f) = .error e := rfl

@[simp] theorem pure_eq_ok (a b : α) : (pure a : Except ε α) = .ok b ↔ a = b := by
  simp [pure, Except.pure]

@[simp] theorem throw_ne_ok (e : ε) (b : α) : ¬ (throw e : Except ε α) = .ok b := nofun

/-- A check that raises exactly when `p` holds. -/
def reject (p : Prop) [Decidable p] (e : ε) : Except ε Unit := if p then .error e else .ok ()

@[simp] theorem reject_eq_ok {p : Prop} [Decidable p] {e : ε} {u : Unit} :
    reject p e = .ok u ↔ ¬ p := by
  unfold reject
  split <;> simp [*]

/-- A loop of checks passes exactly when every check passes. -/
theorem forM_eq_ok {f : α → Except ε Unit} {xs : List α} {u : Unit} :
    xs.forM f = .ok u ↔ ∀ x ∈ xs, f x = .ok () := by
  induction xs with
  | nil => simp [List.forM, pure, Except.pure]
  | cons x xs ih =>
      rw [List.forM, bind_eq_ok]
      constructor
      · rintro ⟨_, first, rest⟩
        simpa [first] using ih.mp rest
      · intro all
        exact ⟨(), all x (by simp), ih.mpr fun y mem => all y (by simp [mem])⟩

/-- A predicate that holds at the start of a loop and survives every successful step on its
elements holds after a successful loop. -/
theorem foldlM_preserves_of_mem {f : β → α → Except ε β} {P : β → Prop} :
    ∀ {xs : List α}, (∀ b x b', x ∈ xs → P b → f b x = .ok b' → P b') →
      ∀ {b b' : β}, P b → xs.foldlM f b = .ok b' → P b' := by
  intro xs
  induction xs with
  | nil =>
      intro _ b b' start done
      rw [List.foldlM_nil, pure_eq_ok] at done
      exact done ▸ start
  | cons x xs ih =>
      intro step b b' start done
      rw [List.foldlM_cons, bind_eq_ok] at done
      obtain ⟨next, first, rest⟩ := done
      exact ih (fun b y b' mem => step b y b' (List.mem_cons_of_mem _ mem))
        (step b x next List.mem_cons_self start first) rest

/-- A predicate that holds at the start of a loop and survives every successful
step holds after a successful loop. -/
theorem foldlM_preserves {f : β → α → Except ε β} {P : β → Prop}
    (step : ∀ b x b', P b → f b x = .ok b' → P b') {xs : List α} {b b' : β} (start : P b)
    (done : xs.foldlM f b = .ok b') : P b' :=
  foldlM_preserves_of_mem (fun b x b' _ => step b x b') start done

/-- A loop whose every step succeeds under an invariant, and keeps it, succeeds. -/
theorem foldlM_total {f : β → α → Except ε β} {P : β → Prop} :
    ∀ {xs : List α}, (∀ b x, x ∈ xs → P b → ∃ b', f b x = .ok b' ∧ P b') →
      ∀ {b : β}, P b → ∃ b', xs.foldlM f b = .ok b' ∧ P b' := by
  intro xs
  induction xs with
  | nil => exact fun _ b start => ⟨b, rfl, start⟩
  | cons x xs ih =>
      intro step b start
      obtain ⟨next, first, holds⟩ := step b x (by simp) start
      obtain ⟨last, rest, final⟩ := ih (fun b x mem => step b x (by simp [mem])) holds
      exact ⟨last, by rw [List.foldlM_cons, first, ok_bind, rest], final⟩

/-- Every error of a program is of a kind. -/
def FailsOnly (kind : ε → Prop) (x : Except ε α) : Prop := ∀ e, x = .error e → kind e

theorem failsOnly_ok {kind : ε → Prop} (a : α) : FailsOnly kind (.ok a) := nofun

theorem failsOnly_error {kind : ε → Prop} {e : ε} (isKind : kind e) :
    FailsOnly kind (.error e : Except ε α) := by
  intro e' same
  exact Except.error.inj same ▸ isKind

theorem FailsOnly.bind {kind : ε → Prop} {x : Except ε α} {f : α → Except ε β}
    (first : FailsOnly kind x) (rest : ∀ a, x = .ok a → FailsOnly kind (f a)) :
    FailsOnly kind (x >>= f) := by
  cases x with
  | error e => exact failsOnly_error (first e rfl)
  | ok a => exact rest a rfl

/-- A loop whose steps fail only in a kind, under an invariant that they keep. -/
theorem FailsOnly.foldlM {kind : ε → Prop} {f : β → α → Except ε β} {P : β → Prop} :
    ∀ {xs : List α}, (∀ b x, x ∈ xs → P b →
        FailsOnly kind (f b x) ∧ ∀ b', f b x = .ok b' → P b') →
      ∀ {b : β}, P b → FailsOnly kind (xs.foldlM f b) := by
  intro xs
  induction xs with
  | nil => exact fun _ b _ => failsOnly_ok b
  | cons x xs ih =>
      intro step b start
      obtain ⟨first, keeps⟩ := step b x List.mem_cons_self start
      rw [List.foldlM_cons]
      refine first.bind fun next done => ?_
      exact ih (fun b y mem => step b y (List.mem_cons_of_mem x mem)) (keeps next done)

theorem FailsOnly.forM {kind : ε → Prop} {f : α → Except ε Unit} {xs : List α}
    (each : ∀ x ∈ xs, FailsOnly kind (f x)) : FailsOnly kind (xs.forM f) := by
  induction xs with
  | nil => exact failsOnly_ok _
  | cons x xs ih =>
      rw [List.forM]
      exact (each x List.mem_cons_self).bind fun _ _ =>
        ih fun y mem => each y (List.mem_cons_of_mem x mem)

/-- A program that succeeds with a value that passes a test. -/
def succeedsWith (x : Except ε α) (test : α → Bool) : Bool :=
  match x with
  | .ok a => test a
  | .error _ => false

theorem succeedsWith_eq_true {x : Except ε α} {test : α → Bool} :
    succeedsWith x test = true ↔ ∃ a, x = .ok a ∧ test a = true := by
  cases x with
  | error e => simp [succeedsWith]
  | ok a => simp [succeedsWith]

/-- A successful `mapM` applies the function successfully to every element. -/
theorem mapM_eq_ok {f : α → Except ε β} {xs : List α} {ys : List β} :
    xs.mapM f = .ok ys ↔ List.Forall₂ (fun x y => f x = .ok y) xs ys := by
  induction xs generalizing ys with
  | nil => rw [List.mapM_nil, pure_eq_ok, List.forall₂_nil_left_iff, eq_comm]
  | cons x xs ih =>
      simp only [List.mapM_cons, bind_eq_ok, pure_eq_ok, ih, List.forall₂_cons_left_iff]
      constructor
      · intro ⟨y, first, tail, rest, whole⟩
        exact ⟨y, tail, first, rest, whole.symm⟩
      · intro ⟨y, tail, first, rest, whole⟩
        exact ⟨y, first, tail, rest, whole.symm⟩

/-- The results of a successful `mapM` are the results at the elements. -/
theorem mem_of_mapM {f : α → Except ε β} {xs : List α} {ys : List β} (done : xs.mapM f = .ok ys)
    {y : β} : y ∈ ys ↔ ∃ x ∈ xs, f x = .ok y := by
  have pointwise := mapM_eq_ok.mp done
  clear done
  induction pointwise with
  | nil => simp
  | @cons x y' xs ys first _ ih =>
      refine (List.mem_cons.trans (or_congr_right ih)).trans ⟨?_, ?_⟩
      · intro found
        rcases found with here | ⟨x', mem, eq⟩
        · exact ⟨x, by simp, here ▸ first⟩
        · exact ⟨x', by simp [mem], eq⟩
      · intro ⟨x', mem, eq⟩
        rcases List.mem_cons.mp mem with here | later
        · exact .inl (Except.ok.inj (eq.symm.trans (here ▸ first)))
        · exact .inr ⟨x', later, eq⟩

theorem mapM_total {f : α → Except ε β} {xs : List α} (all : ∀ x ∈ xs, ∃ y, f x = .ok y) :
    ∃ ys, xs.mapM f = .ok ys := by
  induction xs with
  | nil => exact ⟨[], rfl⟩
  | cons x xs ih =>
      obtain ⟨y, first⟩ := all x (by simp)
      obtain ⟨ys, rest⟩ := ih fun x' mem => all x' (by simp [mem])
      exact ⟨y :: ys, by rw [List.mapM_cons, first, ok_bind, rest, ok_bind]; rfl⟩

/-- Every element of a successful `mapM` has a result. -/
theorem exists_of_mapM {f : α → Except ε β} {xs : List α} {ys : List β}
    (done : xs.mapM f = .ok ys) {x : α} (mem : x ∈ xs) : ∃ y ∈ ys, f x = .ok y := by
  have pointwise := mapM_eq_ok.mp done
  clear done
  induction pointwise with
  | nil => cases mem
  | @cons x' y xs ys first _ ih =>
      rcases List.mem_cons.mp mem with here | later
      · exact ⟨y, by simp, here ▸ first⟩
      · obtain ⟨y', memY, eq⟩ := ih later
        exact ⟨y', by simp [memY], eq⟩

/-- A result of a successful `mapM` comes from the element at its place. -/
theorem getElem?_of_mapM {f : α → Except ε β} {xs : List α} {ys : List β}
    (done : xs.mapM f = .ok ys) {i : Nat} {y : β} (atI : ys[i]? = some y) :
    ∃ x, xs[i]? = some x ∧ f x = .ok y := by
  have pointwise := mapM_eq_ok.mp done
  clear done
  induction pointwise generalizing i with
  | nil => simp at atI
  | @cons x y' xs ys first _ ih =>
      cases i with
      | zero =>
          rw [List.getElem?_cons_zero] at atI
          exact ⟨x, rfl, Option.some.inj atI ▸ first⟩
      | succ i => exact ih (by simpa using atI)

/-- What every result keeps of its element, the whole `mapM` keeps. -/
theorem map_of_mapM {f : α → Except ε β} {g : β → γ} {h : α → γ} {xs : List α} {ys : List β}
    (done : xs.mapM f = .ok ys) (keeps : ∀ x ∈ xs, ∀ y, f x = .ok y → g y = h x) :
    ys.map g = xs.map h := by
  have pointwise := mapM_eq_ok.mp done
  clear done
  induction pointwise with
  | nil => rfl
  | @cons x y xs ys first _ ih =>
      rw [List.map_cons, List.map_cons, keeps x (by simp) y first,
        ih fun x mem => keeps x (by simp [mem])]

/-- A search that finds nothing has looked at every element. -/
theorem anyM_eq_false {p : α → Except ε Bool} {xs : List α} :
    xs.anyM p = .ok false ↔ ∀ x ∈ xs, p x = .ok false := by
  induction xs with
  | nil => simp [pure, Except.pure]
  | cons x xs ih =>
      rw [List.anyM_cons, bind_eq_ok, List.forall_mem_cons]
      constructor
      · intro ⟨found, first, rest⟩
        cases found with
        | true => simp [pure, Except.pure] at rest
        | false => exact ⟨first, ih.mp (by simpa using rest)⟩
      · intro ⟨first, rest⟩
        exact ⟨false, first, by simpa using ih.mpr rest⟩

/-! ## Conditions that may fail -/

/-- `first and second`: the second is only asked where the first holds. -/
def both (first : Bool) (second : Except ε Bool) : Except ε Bool :=
  if first then second else .ok false

theorem both_eq_true {first : Bool} {second : Except ε Bool} :
    both first second = .ok true ↔ first = true ∧ second = .ok true := by
  cases first with
  | true => simp [both]
  | false => simp [both]

/-- `first or second` -/
def either (first second : Except ε Bool) : Except ε Bool := do
  if ← first then .ok true else second

theorem either_eq_true {first second : Except ε Bool} (holds : either first second = .ok true) :
    first = .ok true ∨ second = .ok true := by
  obtain ⟨one, isOne, holds⟩ := bind_eq_ok.mp holds
  cases one with
  | true => exact .inl isOne
  | false => exact .inr holds

/-- `not condition` -/
def negate (condition : Except ε Bool) : Except ε Bool := do
  let holds ← condition
  .ok !holds

theorem negate_eq_true {condition : Except ε Bool} :
    negate condition = .ok true ↔ condition = .ok false := by
  unfold negate
  rw [bind_eq_ok]
  constructor
  · intro ⟨holds, isHolds, negated⟩
    cases holds with
    | false => exact isHolds
    | true => cases negated
  · intro fails
    exact ⟨false, fails, rfl⟩

/-- The elements that meet a condition, in their order. -/
def select (condition : α → Except ε Bool) : List α → Except ε (List α)
  | [] => .ok []
  | x :: xs => do
      let holds ← condition x
      let rest ← select condition xs
      .ok (if holds then x :: rest else rest)

theorem mem_select {condition : α → Except ε Bool} {xs ys : List α}
    (done : select condition xs = .ok ys) {y : α} :
    y ∈ ys ↔ y ∈ xs ∧ condition y = .ok true := by
  induction xs generalizing ys with
  | nil =>
      rw [← Except.ok.inj done]
      simp
  | cons x xs ih =>
      obtain ⟨holds, isHolds, done⟩ := bind_eq_ok.mp done
      obtain ⟨rest, isRest, done⟩ := bind_eq_ok.mp done
      rw [← Except.ok.inj done]
      cases holds with
      | true =>
          rw [if_pos rfl, List.mem_cons, List.mem_cons, ih isRest, or_and_right]
          apply or_congr_left
          constructor
          · intro same
            exact ⟨same, same ▸ isHolds⟩
          · intro both
            exact both.1
      | false =>
          rw [if_neg Bool.false_ne_true, List.mem_cons, ih isRest, or_and_right]
          constructor
          · intro later
            exact .inr later
          · rintro (⟨rfl, met⟩ | later)
            · rw [isHolds] at met
              cases met
            · exact later

/-- The first result that there is. -/
def firstSome (f : α → Except ε (Option β)) : List α → Except ε (Option β)
  | [] => .ok none
  | x :: xs => do
      match ← f x with
      | some b => .ok (some b)
      | none => firstSome f xs

theorem exists_of_firstSome {f : α → Except ε (Option β)} {xs : List α} {b : β}
    (found : firstSome f xs = .ok (some b)) : ∃ x ∈ xs, f x = .ok (some b) := by
  induction xs with
  | nil => cases found
  | cons x xs ih =>
      obtain ⟨result, isResult, found⟩ := bind_eq_ok.mp found
      cases result with
      | some b' =>
          obtain rfl := Option.some.inj (Except.ok.inj found)
          exact ⟨x, List.mem_cons_self, isResult⟩
      | none =>
          obtain ⟨y, mem, isFound⟩ := ih found
          exact ⟨y, List.mem_cons_of_mem _ mem, isFound⟩

end Fallible
