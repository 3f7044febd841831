import Mathlib.Logic.Basic
import Mathlib.Order.Basic

/-!
# Programs that change a state and may raise

A run of a `Program` ends in a value or in a raised error, and in a state either way: what
was done before a raise stays done. `Program.Meets` is a rule of pre- and postconditions
with one postcondition for a return and one for a raise.
-/

/-- A program over a state that may raise. -/
abbrev Program (σ ε : Type) : Type → Type := ExceptT ε (StateM σ)

namespace Program

variable {σ ε α β ι : Type}

/-- How a run ends, and the state that it leaves. -/
def outcome (program : Program σ ε α) (s : σ) : Except ε α × σ := StateT.run (ExceptT.run program) s

@[simp] theorem outcome_pure (a : α) (s : σ) :
    outcome (pure a : Program σ ε α) s = (.ok a, s) := rfl

@[simp] theorem outcome_throw (e : ε) (s : σ) :
    outcome (throw e : Program σ ε α) s = (.error e, s) := rfl

@[simp] theorem outcome_get (s : σ) : outcome (get : Program σ ε σ) s = (.ok s, s) := rfl

@[simp] theorem outcome_modify (f : σ → σ) (s : σ) :
    outcome (modify f : Program σ ε PUnit) s = (.ok ⟨⟩, f s) := rfl

theorem outcome_bind (program : Program σ ε α) (rest : α → Program σ ε β) (s : σ) :
    outcome (program >>= rest) s =
      match outcome program s with
      | (.ok a, s') => outcome (rest a) s'
      | (.error e, s') => (.error e, s') := by
  change StateT.run (ExceptT.run program >>= ExceptT.bindCont rest) s = _
  unfold outcome
  rw [StateT.run_bind]
  rcases StateT.run (ExceptT.run program) s with ⟨answer, s'⟩
  cases answer with
  | ok a => rfl
  | error e => rfl

theorem outcome_bind_ok {program : Program σ ε α} {rest : α → Program σ ε β} {s s' : σ} {a : α}
    (first : outcome program s = (.ok a, s')) :
    outcome (program >>= rest) s = outcome (rest a) s' := by
  rw [outcome_bind, first]

theorem outcome_bind_error {program : Program σ ε α} {rest : α → Program σ ε β} {s s' : σ} {e : ε}
    (first : outcome program s = (.error e, s')) :
    outcome (program >>= rest) s = (.error e, s') := by
  rw [outcome_bind, first]

/-- A run that returns has returned at both of its parts. -/
theorem outcome_bind_eq_ok {program : Program σ ε α} {rest : α → Program σ ε β} {s s' : σ} {b : β} :
    outcome (program >>= rest) s = (.ok b, s') ↔
      ∃ a middle, outcome program s = (.ok a, middle) ∧ outcome (rest a) middle = (.ok b, s') := by
  rw [outcome_bind]
  rcases outcome program s with ⟨answer, middle⟩
  cases answer with
  | ok a =>
      constructor
      · intro ended
        exact ⟨a, middle, rfl, ended⟩
      · intro ended
        obtain ⟨_, _, first, second⟩ := ended
        cases first
        exact second
  | error e =>
      constructor
      · intro ended
        cases ended
      · intro ended
        obtain ⟨_, _, first, -⟩ := ended
        cases first

/-- A continuation that only reads leaves the state of the first program. -/
theorem outcome_bind_reading {program : Program σ ε α} {rest : α → Program σ ε β}
    (reading : ∀ a s, (outcome (rest a) s).2 = s) (s : σ) :
    (outcome (program >>= rest) s).2 = (outcome program s).2 := by
  rw [outcome_bind]
  rcases outcome program s with ⟨answer, s'⟩
  cases answer with
  | ok a => exact reading a s'
  | error e => rfl

theorem outcome_bind_pure (program : Program σ ε α) (f : α → β) (s : σ) :
    outcome (program >>= fun a => pure (f a)) s =
      ((outcome program s).1.map f, (outcome program s).2) := by
  rw [outcome_bind]
  rcases outcome program s with ⟨answer, s'⟩
  cases answer with
  | ok a => rfl
  | error e => rfl

theorem outcome_tryCatch (program : Program σ ε α) (handler : ε → Program σ ε α) (s : σ) :
    outcome (tryCatch program handler) s =
      match outcome program s with
      | (.ok a, s') => (.ok a, s')
      | (.error e, s') => outcome (handler e) s' := by
  unfold outcome
  change StateT.run (ExceptT.run (ExceptT.tryCatch program handler)) s = _
  rw [ExceptT.tryCatch, ExceptT.run_mk, StateT.run_bind]
  change (StateT.run (ExceptT.run program) s >>= _) = _
  rcases StateT.run (ExceptT.run program) s with ⟨answer, s'⟩
  cases answer with
  | ok a => rfl
  | error e => rfl

/-- A result that is already known. -/
def ofExcept (answer : Except ε α) : Program σ ε α :=
  match answer with
  | .ok a => pure a
  | .error e => throw e

@[simp] theorem outcome_ofExcept (answer : Except ε α) (s : σ) :
    outcome (ofExcept answer : Program σ ε α) s = (answer, s) := by
  cases answer with
  | ok a => rfl
  | error e => rfl

/-- From `P`, every run returns in `Q` or raises in `R`. -/
def Meets (program : Program σ ε α) (P : σ → Prop) (Q : α → σ → Prop) (R : ε → σ → Prop) : Prop :=
  ∀ s, P s →
    match outcome program s with
    | (.ok a, s') => Q a s'
    | (.error e, s') => R e s'

namespace Meets

variable {program : Program σ ε α} {rest : α → Program σ ε β} {P P' : σ → Prop}
  {Q Q' : α → σ → Prop} {Q'' : β → σ → Prop} {R R' : ε → σ → Prop}

theorem of_outcome (h : ∀ s, P s → (∀ a s', outcome program s = (.ok a, s') → Q a s') ∧
    ∀ e s', outcome program s = (.error e, s') → R e s') : Meets program P Q R := by
  intro s holds
  rcases ended : outcome program s with ⟨answer, s'⟩
  cases answer with
  | ok a => exact (h s holds).1 a s' ended
  | error e => exact (h s holds).2 e s' ended

theorem of_ok (meets : Meets program P Q R) {s s' : σ} {a : α} (holds : P s)
    (ended : outcome program s = (.ok a, s')) : Q a s' := by
  have after := meets s holds
  rw [ended] at after
  exact after

theorem of_error (meets : Meets program P Q R) {s s' : σ} {e : ε} (holds : P s)
    (ended : outcome program s = (.error e, s')) : R e s' := by
  have after := meets s holds
  rw [ended] at after
  exact after

/-- What holds however a run ends holds of the state that it leaves. -/
theorem leaves {A : σ → Prop} (meets : Meets program P (fun _ => A) fun _ => A) {s : σ}
    (holds : P s) : A (outcome program s).2 := by
  have after := meets s holds
  rcases ended : outcome program s with ⟨answer, s'⟩
  rw [ended] at after
  cases answer with
  | ok a => exact after
  | error e => exact after

/-- A rule for every state in which the program may start. -/
theorem of_start (each : ∀ s, P s → Meets program (fun s' => s' = s) Q R) : Meets program P Q R :=
  fun s holds => each s holds s rfl

theorem mono (meets : Meets program P Q R) (before : ∀ s, P' s → P s)
    (after : ∀ a s, Q a s → Q' a s) (raised : ∀ e s, R e s → R' e s) :
    Meets program P' Q' R' := by
  refine of_outcome fun s holds => ⟨?_, ?_⟩
  · intro a s' ended
    exact after a s' (meets.of_ok (before s holds) ended)
  · intro e s' ended
    exact raised e s' (meets.of_error (before s holds) ended)

theorem bind (first : Meets program P Q R) (second : ∀ a, Meets (rest a) (Q a) Q'' R) :
    Meets (program >>= rest) P Q'' R := by
  intro s holds
  rw [outcome_bind]
  rcases ended : outcome program s with ⟨answer, s'⟩
  cases answer with
  | ok a => exact second a s' (first.of_ok holds ended)
  | error e => exact first.of_error holds ended

theorem pure {a : α} (h : ∀ s, P s → Q a s) : Meets (Pure.pure a : Program σ ε α) P Q R := h

theorem throw {e : ε} (h : ∀ s, P s → R e s) :
    Meets (MonadExcept.throw e : Program σ ε α) P Q R := h

theorem tryCatch {handler : ε → Program σ ε α} (body : Meets program P Q R)
    (handled : ∀ e, Meets (handler e) (R e) Q R') : Meets (tryCatch program handler) P Q R' := by
  intro s holds
  rw [outcome_tryCatch]
  rcases ended : outcome program s with ⟨answer, s'⟩
  cases answer with
  | ok a => exact body.of_ok holds ended
  | error e => exact handled e s' (body.of_error holds ended)

theorem modify {f : σ → σ} {Q : PUnit → σ → Prop} (h : ∀ s, P s → Q ⟨⟩ (f s)) :
    Meets (modify f : Program σ ε PUnit) P Q R := h

theorem ofExcept {answer : Except ε α} (returns : ∀ a, answer = .ok a → ∀ s, P s → Q a s)
    (raises : ∀ e, answer = .error e → ∀ s, P s → R e s) :
    Meets (Program.ofExcept answer) P Q R := by
  intro s holds
  rw [outcome_ofExcept]
  cases answer with
  | ok a => exact returns a rfl s holds
  | error e => exact raises e rfl s holds

/-- What was read is the state. -/
theorem get_bind {rest : σ → Program σ ε β} {Q : β → σ → Prop}
    (second : ∀ s, P s → Meets (rest s) (fun s' => s' = s) Q R) : Meets (get >>= rest) P Q R := by
  intro s holds
  rw [outcome_bind_ok (outcome_get s)]
  exact second s holds s rfl

/-- What holds of the state that was read holds of the state in which the rest starts. -/
theorem read_bind {rest : σ → Program σ ε β} {Q : β → σ → Prop}
    (second : ∀ s, P s → Meets (rest s) P Q R) : Meets (get >>= rest) P Q R := by
  intro s holds
  rw [outcome_bind_ok (outcome_get s)]
  exact second s holds s holds

end Meets

/-- However a run ends, it keeps what holds before. -/
def Keeps (program : Program σ ε α) (P : σ → Prop) : Prop :=
  Meets program P (fun _ => P) fun _ => P

namespace Keeps

variable {program : Program σ ε α} {rest : α → Program σ ε β} {P : σ → Prop}

theorem bind (first : Keeps program P) (second : ∀ a, Keeps (rest a) P) :
    Keeps (program >>= rest) P :=
  Meets.bind first second

/-- A state that was read is one in which the invariant holds. -/
theorem get_bind {rest : σ → Program σ ε β} (second : ∀ s, P s → Keeps (rest s) P) :
    Keeps (get >>= rest) P :=
  Meets.read_bind second

theorem pure (a : α) : Keeps (Pure.pure a : Program σ ε α) P := Meets.pure fun _ holds => holds

theorem throw (e : ε) : Keeps (MonadExcept.throw e : Program σ ε α) P :=
  Meets.throw fun _ holds => holds

theorem modify {f : σ → σ} (h : ∀ s, P s → P (f s)) : Keeps (modify f : Program σ ε PUnit) P := h

theorem ofExcept (answer : Except ε α) : Keeps (Program.ofExcept answer) P :=
  Meets.ofExcept (fun _ _ _ holds => holds) fun _ _ _ holds => holds

theorem tryCatch {handler : ε → Program σ ε α} (body : Keeps program P)
    (handled : ∀ e, Keeps (handler e) P) : Keeps (tryCatch program handler) P :=
  Meets.tryCatch body handled

theorem outcome (keeps : Keeps program P) {s : σ} (holds : P s) : P (outcome program s).2 :=
  Meets.leaves keeps holds

end Keeps

end Program
