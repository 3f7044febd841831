import Mathlib.Data.List.Basic

/-!
# Histories of events

A history grows at its end. `History.Audited` is a rule for every event of a history, relative to
what precedes it; `History.Last` says of an event that only such events as are allowed follow it.
-/

namespace History

variable {ε : Type} {rule : List ε → ε → Prop} {allowed : ε → Prop} {history : List ε} {event : ε}

/-- Every event meets the rule at its place. -/
def Audited (rule : List ε → ε → Prop) (history : List ε) : Prop :=
  ∀ earlier event later, history = earlier ++ event :: later → rule earlier event

theorem audited_nil : Audited rule [] := by
  intro earlier event later split
  simp at split

/-- A place in a longer history is its new end, or a place in the shorter one. -/
theorem split_concat {added : ε} {earlier later : List ε}
    (split : history ++ [added] = earlier ++ event :: later) :
    (earlier = history ∧ event = added ∧ later = []) ∨
      ∃ between, history = earlier ++ event :: between ∧ later = between ++ [added] := by
  rcases List.eq_nil_or_concat later with ended | ⟨between, last, ended⟩
  · subst ended
    rcases List.append_inj' split rfl with ⟨same, rest⟩
    exact .inl ⟨same.symm, (List.cons.inj rest).1.symm, rfl⟩
  · subst ended
    rw [List.concat_eq_append, ← List.cons_append, ← List.append_assoc] at split
    rcases List.append_inj' split rfl with ⟨same, rest⟩
    exact .inr ⟨between, same, by rw [List.concat_eq_append, (List.cons.inj rest).1]⟩

theorem Audited.concat (audited : Audited rule history) (next : rule history event) :
    Audited rule (history ++ [event]) := by
  intro earlier place later split
  rcases split_concat split with ⟨rfl, rfl, -⟩ | ⟨between, within, -⟩
  · exact next
  · exact audited earlier place between within

theorem Audited.init (audited : Audited rule (history ++ [event])) : Audited rule history := by
  intro earlier place later split
  refine audited earlier place (later ++ [event]) ?_
  rw [split]
  simp

theorem Audited.last (audited : Audited rule (history ++ [event])) : rule history event :=
  audited history event [] rfl

/-- The event is in the history, and only allowed events follow it. -/
def Last (allowed : ε → Prop) (event : ε) (history : List ε) : Prop :=
  ∃ earlier later, history = earlier ++ event :: later ∧ ∀ after ∈ later, allowed after

theorem last_concat (event : ε) (history : List ε) : Last allowed event (history ++ [event]) :=
  ⟨history, [], rfl, fun _ mem => absurd mem List.not_mem_nil⟩

theorem Last.concat (last : Last allowed event history) {added : ε} (fine : allowed added) :
    Last allowed event (history ++ [added]) := by
  rcases last with ⟨earlier, later, split, after⟩
  refine ⟨earlier, later ++ [added], by simp [split], fun place mem => ?_⟩
  rcases List.mem_append.mp mem with within | new
  · exact after place within
  · exact List.mem_singleton.mp new ▸ fine

theorem Last.mem (last : Last allowed event history) : event ∈ history := by
  rcases last with ⟨earlier, later, rfl, -⟩
  simp

end History
