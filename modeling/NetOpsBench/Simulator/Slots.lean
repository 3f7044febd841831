import Mathlib.Logic.Relation
import NetOpsBench.Simulator.Service

/-!
# One slot under every interleaving

`SlotView` is what the threads of the service see of one environment: its slot, where each thread
stands with it, whether the table refers to it, and what has happened to it. Each step of a thread
keeps `SlotView.Sound`.
-/

namespace NetOpsBench

open Relation

/-! ## What a thread does with one environment -/

/-- Where a thread stands with an environment. -/
inductive SlotRole : Type where
  | none
  | resetting
  | refused
  | placing (terminal : Bool)
  | waiting
  | acting
  | ended
  | closed
  | cleared
  | stamped
  | pruned
  /-- The slot is still to be swept. -/
  | pending
  | taken
  | swept
  | emptied
  deriving DecidableEq

namespace SlotRole

/-- The environment is in the hands of `create`. -/
def making : SlotRole → Bool
  | resetting => true
  | refused => true
  | placing _ => true
  | _ => false

/-- The thread holds the lock of the slot. -/
def holds : SlotRole → Bool
  | acting => true
  | ended => true
  | closed => true
  | cleared => true
  | stamped => true
  | pruned => true
  | taken => true
  | swept => true
  | emptied => true
  | _ => false

/-- The slot is going to be emptied by `delete` or `close`. -/
def sweeps : SlotRole → Bool
  | pending => true
  | taken => true
  | swept => true
  | _ => false

end SlotRole

/-- The role of a call that stands at one slot. -/
def ServiceCall.at_ (slot environment : Nat) (role otherwise : SlotRole) : SlotRole :=
  if slot = environment then role else otherwise

/-- The role of a call for which a slot is still to be swept, or is not. -/
def ServiceCall.among (rest : List Nat) (environment : Nat) : SlotRole :=
  if environment ∈ rest then .pending else .none

def ServiceCall.role (environment : Nat) : ServiceCall → SlotRole
  | .idle => .none
  | .resetting e _ _ => at_ e environment .resetting .none
  | .refused e _ _ => at_ e environment .refused .none
  | .placing e _ _ terminal => at_ e environment (.placing terminal) .none
  | .waiting slot => at_ slot environment .waiting .none
  | .acting slot _ => at_ slot environment .acting .none
  | .ended slot _ => at_ slot environment .ended .none
  | .closed slot => at_ slot environment .closed .none
  | .cleared slot => at_ slot environment .cleared .none
  | .stamped slot => at_ slot environment .stamped .none
  | .pruned slot => at_ slot environment .pruned .none
  | .sweeping rest => among rest environment
  | .taken slot rest => at_ slot environment .taken (among rest environment)
  | .swept slot rest => at_ slot environment .swept (among rest environment)
  | .emptied slot rest => at_ slot environment .emptied (among rest environment)

/-! ## The view of one environment -/

structure SlotView : Type where
  slot : Option EnvironmentSlot
  role : Nat → SlotRole
  listed : Prop
  obtained : Prop
  log : List EnvironmentEvent

namespace SlotView

def goto (view : SlotView) (thread : Nat) (role : SlotRole) : SlotView :=
  { view with role := Function.update view.role thread role }

def note (view : SlotView) (event : EnvironmentEvent) : SlotView :=
  { view with log := view.log ++ [event] }

/-- What a thread may do to an environment of which it sees this. -/
inductive Step (environment thread : Nat) : SlotView → SlotView → Prop where
  | obtain {view : SlotView} : ¬ view.obtained →
    Step environment thread view ({ view with obtained := True }.goto thread .resetting)
  | valid {view : SlotView} : view.role thread = .resetting →
    Step environment thread view (view.goto thread (.placing false))
  | invalid {view : SlotView} : view.role thread = .resetting →
    Step environment thread view ((view.note .ended).goto thread .refused)
  | refuse {view : SlotView} : view.role thread = .refused →
    Step environment thread view ((view.note .closed).goto thread (.placing true))
  | place {view : SlotView} {caseId : String} {terminal : Bool} {terminalAt : Option Rat} :
    view.role thread = .placing terminal →
    Step environment thread view
      ({ view with
          slot := some { environment := if terminal then none else some environment
                         caseId, terminal, terminalAt }
          listed := True }.goto thread .none)
  | unlist {view : SlotView} {slot : EnvironmentSlot} : view.slot = some slot →
    slot.tombstone = true → Step environment thread view { view with listed := False }
  | wait {view : SlotView} : view.listed → view.role thread = .none →
    Step environment thread view (view.goto thread .waiting)
  | leave {view : SlotView} : view.role thread = .waiting →
    Step environment thread view (view.goto thread .none)
  | start {view : SlotView} {slot : EnvironmentSlot} : view.role thread = .waiting →
    view.slot = some slot → slot.lock = none → slot.environment = some environment →
    Step environment thread view
      (({ view with slot := some { slot with lock := some thread } }.note .started).goto thread
        .acting)
  | keep {view : SlotView} {slot : EnvironmentSlot} (terminal : Bool) :
    view.role thread = .acting → view.slot = some slot →
    terminal = slot.terminal ∨ terminal = false →
    Step environment thread view
      ({ view with slot := some { slot with terminal, lock := none } }.goto thread .none)
  | conclude {view : SlotView} {slot : EnvironmentSlot} : view.role thread = .acting →
    view.slot = some slot →
    Step environment thread view
      (({ view with slot := some { slot with terminal := true } }.note .ended).goto thread .ended)
  | close {view : SlotView} : view.role thread = .ended →
    Step environment thread view ((view.note .closed).goto thread .closed)
  | clear {view : SlotView} {slot : EnvironmentSlot} : view.role thread = .closed →
    view.slot = some slot →
    Step environment thread view
      ({ view with slot := some { slot with environment := none } }.goto thread .cleared)
  | stamp {view : SlotView} {slot : EnvironmentSlot} {terminalAt : Option Rat} :
    view.role thread = .cleared → view.slot = some slot →
    Step environment thread view
      ({ view with slot := some { slot with terminalAt } }.goto thread .stamped)
  | prune {view : SlotView} : view.role thread = .stamped →
    Step environment thread view (view.goto thread .pruned)
  | finish {view : SlotView} {slot : EnvironmentSlot} : view.role thread = .pruned →
    view.slot = some slot →
    Step environment thread view
      ({ view with slot := some { slot with lock := none } }.goto thread .none)
  | pop {view : SlotView} (listed : Prop) : view.listed → view.role thread = .none →
    Step environment thread view ({ view with listed }.goto thread .pending)
  | take {view : SlotView} {slot : EnvironmentSlot} : view.role thread = .pending →
    view.slot = some slot → slot.lock = none →
    Step environment thread view
      (({ view with slot := some { slot with lock := some thread } }.note .taken).goto thread
        .taken)
  | skip {view : SlotView} {slot : EnvironmentSlot} (later : Bool) : view.role thread = .taken →
    view.slot = some slot → slot.environment = none →
    Step environment thread view
      ({ view with slot := some { slot with lock := none } }.goto thread
        (if later then .pending else .none))
  | sweep {view : SlotView} {slot : EnvironmentSlot} : view.role thread = .taken →
    view.slot = some slot → slot.environment = some environment →
    Step environment thread view ((view.note .closed).goto thread .swept)
  | empty {view : SlotView} {slot : EnvironmentSlot} : view.role thread = .swept →
    view.slot = some slot →
    Step environment thread view
      ({ view with slot := some { slot with environment := none } }.goto thread .emptied)
  | release {view : SlotView} {slot : EnvironmentSlot} (later : Bool) :
    view.role thread = .emptied → view.slot = some slot →
    Step environment thread view
      ({ view with slot := some { slot with lock := none } }.goto thread
        (if later then .pending else .none))

/-- Nothing has happened but actions. -/
def Clean (log : List EnvironmentEvent) : Prop := ∀ event ∈ log, event = .started

/-- An action starts only after actions. -/
def Ordered (log : List EnvironmentEvent) : Prop :=
  ∀ before after, log = before ++ .started :: after → Clean before

/-- The environment is in its slot, and has not been closed. -/
def Present (environment : Nat) (slot : EnvironmentSlot) (log : List EnvironmentEvent) : Prop :=
  slot.environment = some environment ∧ log.count .closed = 0

/-- The environment has been closed, once, and is not in its slot any more. -/
def Gone (slot : EnvironmentSlot) (log : List EnvironmentEvent) : Prop :=
  slot.environment = none ∧ log.count .closed = 1

/-- What the thread that holds the lock of a slot, or nobody, leaves of it between two steps. -/
def Phase (environment : Nat) (slot : EnvironmentSlot) (log : List EnvironmentEvent) :
    SlotRole → Prop
  | .none => Present environment slot log ∧ Clean log ∧ slot.terminal = false ∨ Gone slot log
  | .acting => Present environment slot log ∧ Clean log ∧ slot.terminal = false
  | .ended => Present environment slot log
  | .closed => slot.environment = some environment ∧ log.count .closed = 1
  | .cleared => Gone slot log
  | .stamped => Gone slot log
  | .pruned => Gone slot log
  | .taken => Present environment slot log ∧ slot.terminal = false ∨ Gone slot log
  | .swept =>
      slot.environment = some environment ∧ log.count .closed = 1 ∧ slot.terminal = false
  | .emptied => Gone slot log
  | _ => False

/-- The log of an environment that `create` has in its hands. -/
def Made (log : List EnvironmentEvent) : SlotRole → Prop
  | .refused => log = [.ended]
  | .placing true => log = [.ended, .closed]
  | _ => log = []

/-- What holds of every view between any two steps. -/
structure Sound (environment : Nat) (view : SlotView) : Prop where
  fresh : ¬ view.obtained → view.slot = none ∧ view.log = [] ∧ ∀ thread, view.role thread = .none
  made : view.obtained → view.slot = none → ∃ thread, (view.role thread).making = true
  making : ∀ thread, (view.role thread).making = true → view.slot = none ∧
    Made view.log (view.role thread) ∧ ∀ other, view.role other ≠ .none → other = thread
  listed : view.listed → view.slot ≠ none
  lock : ∀ slot, view.slot = some slot → ∀ thread,
    slot.lock = some thread ↔ (view.role thread).holds = true
  phase : ∀ slot, view.slot = some slot →
    Phase environment slot view.log ((slot.lock.map view.role).getD .none)
  placed : ∀ slot, view.slot = some slot → slot.environment ≠ none →
    view.listed ∨ ∃ thread, (view.role thread).sweeps = true
  ordered : Ordered view.log

variable {environment thread : Nat} {view : SlotView} {slot slot' : EnvironmentSlot}
  {role : SlotRole}

theorem Clean.snoc {log : List EnvironmentEvent} (clean : Clean log) :
    Clean (log ++ [.started]) := by
  intro event mem
  rcases List.mem_append.mp mem with mem | mem
  · exact clean event mem
  · exact List.mem_singleton.mp mem

/-- An event that does not start an action, or starts one after actions. -/
theorem Ordered.snoc {log : List EnvironmentEvent} (ordered : Ordered log)
    {event : EnvironmentEvent} (next : event = .started → Clean log) :
    Ordered (log ++ [event]) := by
  intro before after cut
  rcases List.eq_nil_or_concat after with rfl | ⟨rest, last, rfl⟩
  · obtain ⟨rfl, isStarted⟩ := List.append_inj' cut rfl
    exact next (List.singleton_inj.mp isStarted)
  · rw [List.concat_eq_append, ← List.cons_append, ← List.append_assoc] at cut
    exact ordered before rest (List.append_inj' cut rfl).1

theorem ordered_nil : Ordered [] := by
  intro before after cut
  cases before with
  | nil => cases cut
  | cons _ _ => cases cut

namespace Sound

theorem obtained (sound : Sound environment view) (some_ : view.slot ≠ none) : view.obtained := by
  by_contra unknown
  exact some_ (sound.fresh unknown).1

theorem obtained_of_role (sound : Sound environment view) (thread : Nat) (busy : view.role thread ≠ .none) :
    view.obtained := by
  by_contra unknown
  exact busy ((sound.fresh unknown).2.2 thread)

/-- Whoever has an environment that `create` has not placed is `create`. -/
theorem slot_of_role (sound : Sound environment view) (isRole : view.role thread = role)
    (busy : role ≠ .none) (notMaking : role.making = false) : ∃ slot, view.slot = some slot := by
  subst isRole
  cases at_ : view.slot with
  | some slot => exact ⟨slot, rfl⟩
  | none =>
      obtain ⟨maker, making⟩ := sound.made (sound.obtained_of_role thread busy) at_
      obtain rfl := (sound.making maker making).2.2 thread busy
      rw [making] at notMaking
      cases notMaking

theorem lock_eq (sound : Sound environment view) (at_ : view.slot = some slot)
    (holds : (view.role thread).holds = true) : slot.lock = some thread :=
  (sound.lock slot at_ thread).mpr holds

theorem phase_of (sound : Sound environment view) (at_ : view.slot = some slot)
    (isRole : view.role thread = role) (holds : role.holds = true) :
    Phase environment slot view.log role := by
  subst isRole
  have phase := sound.phase slot at_
  rw [sound.lock_eq at_ holds] at phase
  exact phase

theorem phase_free (sound : Sound environment view) (at_ : view.slot = some slot)
    (free : slot.lock = none) : Phase environment slot view.log .none := by
  have phase := sound.phase slot at_
  rw [free] at phase
  exact phase

/-- What is left to show when a thread takes a role and changes a slot that is there. -/
theorem moved (sound : Sound environment view) (thread : Nat) (role : SlotRole)
    (slot' : EnvironmentSlot) (at_ : view.slot = some slot)
    (notMaking : role.making = false) (listed : Prop) {log : List EnvironmentEvent}
    (lock : ∀ other, slot'.lock = some other ↔
      (Function.update view.role thread role other).holds = true)
    (phase : Phase environment slot' log
      ((slot'.lock.map (Function.update view.role thread role)).getD .none))
    (placed : slot'.environment ≠ none →
      listed ∨ ∃ other, (Function.update view.role thread role other).sweeps = true)
    (ordered : Ordered log) :
    Sound environment
      { slot := some slot', role := Function.update view.role thread role, listed
        obtained := view.obtained, log } where
  fresh unknown := absurd (sound.obtained (by rw [at_]; exact nofun)) unknown
  made _ := nofun
  making other making := by
    change (Function.update view.role thread role other).making = true at making
    by_cases same : other = thread
    · subst same
      rw [Function.update_self, notMaking] at making
      cases making
    · rw [Function.update_of_ne same] at making
      exact nomatch at_.symm.trans (sound.making other making).1
  listed _ := nofun
  lock := by
    rintro _ ⟨⟩
    exact lock
  phase := by
    rintro _ ⟨⟩
    exact phase
  placed := by
    rintro _ ⟨⟩
    exact placed
  ordered := ordered

/-- The lock stays with whoever has it. -/
theorem lock_keep (sound : Sound environment view) (at_ : view.slot = some slot)
    (sameLock : slot'.lock = slot.lock) (same : (view.role thread).holds = role.holds)
    (other : Nat) : slot'.lock = some other ↔
      (Function.update view.role thread role other).holds = true := by
  rw [sameLock, sound.lock slot at_ other]
  by_cases isThread : other = thread
  · subst isThread
    rw [Function.update_self, same]
  · rw [Function.update_of_ne isThread]

theorem lock_take (sound : Sound environment view) (at_ : view.slot = some slot)
    (free : slot.lock = none) (taken : slot'.lock = some thread) (holds : role.holds = true)
    (other : Nat) : slot'.lock = some other ↔
      (Function.update view.role thread role other).holds = true := by
  rw [taken]
  by_cases isThread : other = thread
  · subst isThread
    rw [Function.update_self, holds]
    exact ⟨fun _ => rfl, fun _ => rfl⟩
  · rw [Function.update_of_ne isThread, ← sound.lock slot at_ other, free]
    exact ⟨fun same => absurd (Option.some.inj same).symm isThread, nofun⟩

theorem lock_give (sound : Sound environment view) (at_ : view.slot = some slot)
    (held : (view.role thread).holds = true) (given : slot'.lock = none)
    (holds : role.holds = false) (other : Nat) : slot'.lock = some other ↔
      (Function.update view.role thread role other).holds = true := by
  rw [given]
  by_cases isThread : other = thread
  · subst isThread
    rw [Function.update_self, holds]
    exact ⟨nofun, nofun⟩
  · rw [Function.update_of_ne isThread, ← sound.lock slot at_ other, sound.lock_eq at_ held]
    exact ⟨nofun, fun same => absurd (Option.some.inj same).symm isThread⟩

/-- A thread without the lock does not change what the holder leaves. -/
theorem phase_keep (sound : Sound environment view) (at_ : view.slot = some slot)
    (unheld : (view.role thread).holds = false) :
    Phase environment slot view.log
      ((slot.lock.map (Function.update view.role thread role)).getD .none) := by
  have phase := sound.phase slot at_
  cases locked : slot.lock with
  | none =>
      rw [locked] at phase
      exact phase
  | some holder =>
      rw [locked] at phase
      have holds := (sound.lock slot at_ holder).mp locked
      have other : holder ≠ thread := by
        rintro rfl
        rw [unheld] at holds
        cases holds
      change Phase environment slot view.log (Function.update view.role thread role holder)
      rw [Function.update_of_ne other]
      exact phase

/-- The slot is still listed, or still to be swept. -/
theorem placed_keep (sound : Sound environment view) (at_ : view.slot = some slot)
    (still : (view.role thread).sweeps = true → role.sweeps = true)
    (some_ : slot.environment ≠ none) :
    view.listed ∨ ∃ other, (Function.update view.role thread role other).sweeps = true := by
  rcases sound.placed slot at_ some_ with listed | ⟨other, sweeps⟩
  · exact .inl listed
  · refine .inr ⟨other, ?_⟩
    by_cases isThread : other = thread
    · subst isThread
      rw [Function.update_self]
      exact still sweeps
    · rw [Function.update_of_ne isThread]
      exact sweeps

/-! ### Before the slot is there -/

theorem obtain (sound : Sound environment view) (unknown : ¬ view.obtained) :
    Sound environment ({ view with obtained := True }.goto thread .resetting) := by
  obtain ⟨noSlot, noLog, noRole⟩ := sound.fresh unknown
  have unlisted : ¬ view.listed := fun listed => sound.listed listed noSlot
  refine ⟨fun known => absurd trivial known, fun _ _ => ⟨thread, ?_⟩, fun other making => ?_,
    fun listed => absurd listed unlisted, ?_, ?_, ?_, sound.ordered⟩
  · change (Function.update view.role thread .resetting thread).making = true
    rw [Function.update_self]
    rfl
  · change (Function.update view.role thread .resetting other).making = true at making
    obtain rfl : other = thread := by
      by_contra differs
      rw [Function.update_of_ne differs, noRole] at making
      cases making
    refine ⟨noSlot, ?_, fun another busy => ?_⟩
    · change Made view.log (Function.update view.role other .resetting other)
      rw [Function.update_self]
      exact noLog
    · by_contra differs
      change Function.update view.role other .resetting another ≠ _ at busy
      rw [Function.update_of_ne differs] at busy
      exact busy (noRole another)
  · intro slot at_
    exact nomatch at_.symm.trans noSlot
  · intro slot at_
    exact nomatch at_.symm.trans noSlot
  · intro slot at_
    exact nomatch at_.symm.trans noSlot

/-- `create` goes on with an environment that it has not placed. -/
theorem make (sound : Sound environment view) (role : SlotRole) (before : (view.role thread).making = true)
    (after : role.making = true) {log : List EnvironmentEvent} (made : Made log role)
    (ordered : Ordered log) :
    Sound environment ({ view with log }.goto thread role) := by
  obtain ⟨noSlot, -, alone⟩ := sound.making thread before
  have known := sound.obtained_of_role thread fun idle => by
    rw [idle] at before
    cases before
  have unlisted : ¬ view.listed := fun listed => sound.listed listed noSlot
  refine ⟨fun unknown => absurd known unknown, fun _ _ => ⟨thread, ?_⟩, fun other making => ?_,
    fun listed => absurd listed unlisted, ?_, ?_, ?_, ordered⟩
  · change (Function.update view.role thread role thread).making = true
    rw [Function.update_self]
    exact after
  · change (Function.update view.role thread role other).making = true at making
    obtain rfl : other = thread := by
      by_contra differs
      rw [Function.update_of_ne differs] at making
      apply differs
      apply alone
      intro idle
      rw [idle] at making
      cases making
    refine ⟨noSlot, ?_, fun another busy => ?_⟩
    · change Made log (Function.update view.role other role other)
      rw [Function.update_self]
      exact made
    · by_contra differs
      change Function.update view.role other role another ≠ _ at busy
      rw [Function.update_of_ne differs] at busy
      exact differs (alone another busy)
  · intro slot at_
    exact nomatch at_.symm.trans noSlot
  · intro slot at_
    exact nomatch at_.symm.trans noSlot
  · intro slot at_
    exact nomatch at_.symm.trans noSlot

/-- `create` places an environment. -/
theorem place (sound : Sound environment view) {terminal : Bool}
    (isRole : view.role thread = .placing terminal) (caseId : String) (terminalAt : Option Rat) :
    Sound environment
      ({ view with
          slot := some { environment := if terminal then none else some environment
                         caseId, terminal, terminalAt }
          listed := True }.goto thread .none) := by
  have making : (view.role thread).making = true := by rw [isRole]; rfl
  obtain ⟨-, made, alone⟩ := sound.making thread making
  have known := sound.obtained_of_role thread (by rw [isRole]; exact nofun)
  have idle (other : Nat) : Function.update view.role thread .none other = .none := by
    by_cases same : other = thread
    · subst same
      exact Function.update_self ..
    · rw [Function.update_of_ne same]
      by_contra busy
      exact same (alone other busy)
  refine ⟨fun unknown => absurd known unknown, fun _ => nofun, fun other making => ?_,
    fun _ => nofun, ?_, ?_, ?_, sound.ordered⟩
  · change (Function.update view.role thread .none other).making = true at making
    rw [idle] at making
    cases making
  · rintro _ ⟨⟩ other
    change none = some other ↔ (Function.update view.role thread .none other).holds = true
    rw [idle]
    exact ⟨nofun, nofun⟩
  · rintro _ ⟨⟩
    rw [isRole] at made
    change Phase environment _ view.log .none
    cases terminal with
    | false =>
        have empty : view.log = [] := made
        exact .inl ⟨⟨rfl, by rw [empty]; rfl⟩, by rw [empty]; exact nofun, rfl⟩
    | true =>
        have closed : view.log = [.ended, .closed] := made
        exact .inr ⟨rfl, by rw [closed]; rfl⟩
  · rintro _ ⟨⟩ -
    exact .inl trivial

/-! ### Once it is there -/

theorem unlist (sound : Sound environment view) (at_ : view.slot = some slot)
    (gone : slot.tombstone = true) : Sound environment { view with listed := False } := by
  refine { sound with listed := nofun, placed := ?_ }
  intro other isOther some_
  obtain rfl := Option.some.inj (at_.symm.trans isOther)
  have cleared := (Bool.and_eq_true_iff.mp gone).2
  exact absurd (Option.isNone_iff_eq_none.mp cleared) some_

/-- A thread without the lock takes another role without it. -/
theorem stroll (sound : Sound environment view) (role : SlotRole) (at_ : view.slot = some slot)
    (notMaking : role.making = false) (before : (view.role thread).holds = false)
    (after : role.holds = false) {listed : Prop}
    (placed : slot.environment ≠ none →
      listed ∨ ∃ other, (Function.update view.role thread role other).sweeps = true) :
    Sound environment ({ view with listed }.goto thread role) := by
  have moved := sound.moved thread role slot at_ notMaking listed
    (sound.lock_keep at_ rfl (before.trans after.symm)) (sound.phase_keep at_ before) placed
    sound.ordered
  rw [← at_] at moved
  exact moved

/-- The thread that holds the lock goes on with it. -/
theorem handle (sound : Sound environment view) (role : SlotRole) (slot' : EnvironmentSlot)
    (at_ : view.slot = some slot)
    (before : (view.role thread).holds = true) (after : role.holds = true)
    (sameLock : slot'.lock = slot.lock) {log : List EnvironmentEvent}
    (phase : Phase environment slot' log role)
    (placed : slot'.environment ≠ none →
      slot.environment ≠ none ∧ ((view.role thread).sweeps = true → role.sweeps = true))
    (ordered : Ordered log) :
    Sound environment ({ view with slot := some slot', log }.goto thread role) := by
  have notMaking : role.making = false := by
    cases role <;> first | rfl | cases after
  refine sound.moved thread role _ at_ notMaking _ (sound.lock_keep at_ sameLock (before.trans after.symm)) ?_ ?_
    ordered
  · rw [sameLock, sound.lock_eq at_ before, Option.map_some, Function.update_self]
    exact phase
  · intro some_
    obtain ⟨before_, still⟩ := placed some_
    exact sound.placed_keep at_ still before_

/-- It goes on and leaves the slot as it is. -/
theorem handleKept (sound : Sound environment view) (role : SlotRole) (at_ : view.slot = some slot)
    (before : (view.role thread).holds = true) (after : role.holds = true)
    {log : List EnvironmentEvent} (phase : Phase environment slot log role)
    (still : slot.environment ≠ none → (view.role thread).sweeps = true → role.sweeps = true)
    (ordered : Ordered log) : Sound environment ({ view with log }.goto thread role) := by
  have handled := sound.handle role slot at_ before after rfl phase
    (fun some_ => ⟨some_, still some_⟩) ordered
  rw [← at_] at handled
  exact handled

/-- It takes the lock. -/
theorem lockSlot (sound : Sound environment view) (role : SlotRole) (at_ : view.slot = some slot)
    (free : slot.lock = none) (after : role.holds = true) {log : List EnvironmentEvent}
    (phase : Phase environment { slot with lock := some thread } log role)
    (still : (view.role thread).sweeps = true → role.sweeps = true) (ordered : Ordered log) :
    Sound environment
      ({ view with slot := some { slot with lock := some thread }, log }.goto thread role) := by
  have notMaking : role.making = false := by
    cases role <;> first | rfl | cases after
  refine sound.moved thread role _ at_ notMaking _ (sound.lock_take at_ free rfl after) ?_
    (fun some_ => sound.placed_keep at_ still some_) ordered
  rw [Option.map_some, Function.update_self]
  exact phase

/-- It gives the lock back. -/
theorem unlockSlot (sound : Sound environment view) (role : SlotRole) (at_ : view.slot = some slot)
    (before : (view.role thread).holds = true) (after : role.holds = false)
    (notMaking : role.making = false) (free : slot'.lock = none)
    (same : slot'.environment = slot.environment)
    (phase : Phase environment slot' view.log .none)
    (still : slot.environment ≠ none → (view.role thread).sweeps = true → role.sweeps = true) :
    Sound environment ({ view with slot := some slot' }.goto thread role) := by
  refine sound.moved thread role _ at_ notMaking _ (sound.lock_give at_ before free after) ?_ ?_
    sound.ordered
  · rw [free]
    exact phase
  · rw [same]
    exact fun some_ => sound.placed_keep at_ (still some_) some_

end Sound

theorem count_snoc_closed (log : List EnvironmentEvent) :
    (log ++ [EnvironmentEvent.closed]).count .closed = log.count .closed + 1 := by
  rw [List.count_append]
  rfl

theorem count_snoc {event : EnvironmentEvent} (other : event ≠ .closed)
    (log : List EnvironmentEvent) : (log ++ [event]).count .closed = log.count .closed := by
  rw [List.count_append, List.count_singleton, beq_eq_false_iff_ne.mpr other]
  rfl

theorem Gone.snoc {log : List EnvironmentEvent} (gone : Gone slot log) {event : EnvironmentEvent}
    (other : event ≠ .closed) : Gone slot (log ++ [event]) :=
  ⟨gone.1, (count_snoc other log).trans gone.2⟩

theorem Present.snoc {log : List EnvironmentEvent} (present : Present environment slot log)
    {event : EnvironmentEvent} (other : event ≠ .closed) :
    Present environment slot (log ++ [event]) :=
  ⟨present.1, (count_snoc other log).trans present.2⟩

/-- Every step keeps what holds of the view. -/
theorem Step.sound {after : SlotView} (step : Step environment thread view after)
    (sound : Sound environment view) : Sound environment after := by
  cases step with
  | obtain unknown => exact sound.obtain unknown
  | valid isRole =>
      have making : (view.role thread).making = true := by rw [isRole]; rfl
      have made := (sound.making thread making).2.1
      rw [isRole] at made
      exact sound.make (.placing false) making rfl made sound.ordered
  | invalid isRole =>
      have making : (view.role thread).making = true := by rw [isRole]; rfl
      have made := (sound.making thread making).2.1
      rw [isRole] at made
      have empty : view.log = [] := made
      exact sound.make .refused making rfl (by rw [empty]; rfl) (sound.ordered.snoc nofun)
  | refuse isRole =>
      have making : (view.role thread).making = true := by rw [isRole]; rfl
      have made := (sound.making thread making).2.1
      rw [isRole] at made
      have ended : view.log = [.ended] := made
      exact sound.make (.placing true) making rfl (by rw [ended]; rfl)
        (sound.ordered.snoc nofun)
  | place isRole => exact sound.place isRole _ _
  | unlist at_ gone => exact sound.unlist at_ gone
  | wait listed isRole =>
      obtain ⟨slot, at_⟩ := Option.ne_none_iff_exists'.mp (sound.listed listed)
      exact sound.stroll .waiting at_ rfl (by rw [isRole]; rfl) rfl
        (sound.placed_keep at_ (by rw [isRole]; exact nofun))
  | leave isRole =>
      obtain ⟨slot, at_⟩ := sound.slot_of_role isRole nofun rfl
      exact sound.stroll .none at_ rfl (by rw [isRole]; rfl) rfl
        (sound.placed_keep at_ (by rw [isRole]; exact nofun))
  | @start slot isRole at_ free some_ =>
      rcases sound.phase_free at_ free with ⟨present, clean, running⟩ | gone
      · exact sound.lockSlot .acting at_ free rfl
          ⟨present.snoc nofun, clean.snoc, running⟩ (by rw [isRole]; exact nofun)
          (sound.ordered.snoc fun _ => clean)
      · exact nomatch gone.1.symm.trans some_
  | @keep slot terminal isRole at_ flag =>
      obtain ⟨present, clean, running⟩ := sound.phase_of at_ isRole rfl
      refine sound.unlockSlot .none at_ (by rw [isRole]; rfl) rfl rfl rfl rfl
        (.inl ⟨present, clean, ?_⟩) (by rw [isRole]; exact fun _ => nofun)
      rcases flag with same | off
      · exact same.trans running
      · exact off
  | @conclude slot isRole at_ =>
      obtain ⟨present, clean, running⟩ := sound.phase_of at_ isRole rfl
      exact sound.handle .ended { slot with terminal := true } at_ (by rw [isRole]; rfl) rfl rfl
        (present.snoc nofun) (fun some_ => ⟨some_, by rw [isRole]; exact nofun⟩)
        (sound.ordered.snoc nofun)
  | close isRole =>
      obtain ⟨slot, at_⟩ := sound.slot_of_role isRole nofun rfl
      have present := sound.phase_of at_ isRole rfl
      exact sound.handleKept .closed at_ (by rw [isRole]; rfl) rfl
        ⟨present.1, by rw [count_snoc_closed, present.2]⟩ (by rw [isRole]; exact fun _ => nofun)
        (sound.ordered.snoc nofun)
  | @clear slot isRole at_ =>
      obtain ⟨-, once⟩ := sound.phase_of at_ isRole rfl
      exact sound.handle .cleared { slot with environment := none } at_ (by rw [isRole]; rfl) rfl rfl ⟨rfl, once⟩
        (fun some_ => absurd rfl some_) sound.ordered
  | @stamp slot terminalAt isRole at_ =>
      have gone := sound.phase_of at_ isRole rfl
      exact sound.handle .stamped { slot with terminalAt } at_ (by rw [isRole]; rfl) rfl rfl gone
        (fun some_ => absurd gone.1 some_) sound.ordered
  | prune isRole =>
      obtain ⟨slot, at_⟩ := sound.slot_of_role isRole nofun rfl
      have gone := sound.phase_of at_ isRole rfl
      exact sound.handleKept .pruned at_ (by rw [isRole]; rfl) rfl gone
        (fun some_ => absurd gone.1 some_) sound.ordered
  | @finish slot isRole at_ =>
      have gone := sound.phase_of at_ isRole rfl
      exact sound.unlockSlot .none at_ (by rw [isRole]; rfl) rfl rfl rfl rfl (.inr gone)
        (by rw [isRole]; exact fun _ => nofun)
  | pop _ listed isRole =>
      obtain ⟨slot, at_⟩ := Option.ne_none_iff_exists'.mp (sound.listed listed)
      refine sound.stroll .pending at_ rfl (by rw [isRole]; rfl) rfl fun _ => ?_
      exact .inr ⟨thread, by rw [Function.update_self]; rfl⟩
  | @take slot isRole at_ free =>
      refine sound.lockSlot .taken at_ free rfl ?_ (fun _ => rfl)
        (sound.ordered.snoc nofun)
      rcases sound.phase_free at_ free with ⟨present, -, running⟩ | gone
      · exact .inl ⟨present.snoc nofun, running⟩
      · exact .inr (gone.snoc nofun)
  | @skip slot later isRole at_ none =>
      have gone : Gone slot view.log := by
        rcases sound.phase_of at_ isRole rfl with ⟨present, -⟩ | gone
        · exact nomatch none.symm.trans present.1
        · exact gone
      refine sound.unlockSlot _ at_ (by rw [isRole]; rfl) ?_ ?_ rfl rfl (.inr gone)
        (fun some_ => absurd none some_)
      · cases later <;> rfl
      · cases later <;> rfl
  | @sweep slot isRole at_ some_ =>
      rcases sound.phase_of at_ isRole rfl with ⟨present, running⟩ | gone
      · exact sound.handleKept .swept at_ (by rw [isRole]; rfl) rfl
          ⟨present.1, by rw [count_snoc_closed, present.2], running⟩ (fun _ _ => rfl)
          (sound.ordered.snoc nofun)
      · exact nomatch gone.1.symm.trans some_
  | @empty slot isRole at_ =>
      obtain ⟨-, once, -⟩ := sound.phase_of at_ isRole rfl
      exact sound.handle .emptied { slot with environment := none } at_ (by rw [isRole]; rfl) rfl rfl ⟨rfl, once⟩
        (fun some_ => absurd rfl some_) sound.ordered
  | @release slot later isRole at_ =>
      have gone := sound.phase_of at_ isRole rfl
      refine sound.unlockSlot _ at_ (by rw [isRole]; rfl) ?_ ?_ rfl rfl (.inr gone)
        (fun some_ => absurd gone.1 some_)
      · cases later <;> rfl
      · cases later <;> rfl

/-- Any number of steps. -/
def Steps (environment thread : Nat) : SlotView → SlotView → Prop :=
  ReflTransGen (Step environment thread)

theorem Steps.sound {after : SlotView} (steps : Steps environment thread view after)
    (sound : Sound environment view) : Sound environment after := by
  induction steps with
  | refl => exact sound
  | tail _ step ih => exact step.sound ih

end SlotView

end NetOpsBench
