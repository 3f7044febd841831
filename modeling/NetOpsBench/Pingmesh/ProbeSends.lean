import NetOpsBench.Pingmesh.ProbeConservation

/-!
# The sends of a probe cycle

A cycle first makes the sends of its queue, in order, and then fifteen rounds over the
targets whose DF probe was pending when the confirmation set was computed
(`initialPhase_tasks`, `confirmationPhase_tasks`). Receiving sends nothing.
-/

namespace NetOpsBench

open Fallible

/-- What a send was asked to do. -/
def Attempt.task (attempt : Attempt) : ProbeKind × Nat × Nat :=
  (attempt.kind, attempt.targetIndex, attempt.socketIndex)

/-- Every send of a cycle so far, in order. -/
def Cycle.tasks (cycle : Cycle) : List (ProbeKind × Nat × Nat) := cycle.attempts.map Attempt.task

/-- The sends of one confirmation round. -/
def confirmations (unanswered : List (Nat × Nat)) : List (ProbeKind × Nat × Nat) :=
  unanswered.map fun unit => (.df, unit)

/-! ## One step -/

theorem sendProbe_attempts {input : CycleInput} {kind : ProbeKind} {target socket : Nat}
    {cycle next : Cycle} (done : sendProbe input kind target socket cycle = .ok next) :
    ∃ outcome, next.attempts = cycle.attempts ++ [⟨kind, target, socket, cycle.sequence, outcome⟩] := by
  obtain ⟨-, -, sentNs, outcome, rfl⟩ := sendProbe_inv done
  exact ⟨outcome, Cycle.Conserved.attempts_afterSend⟩

theorem sendProbe_removed {input : CycleInput} {kind : ProbeKind} {target socket : Nat}
    {cycle next : Cycle} (done : sendProbe input kind target socket cycle = .ok next) :
    next.removed = cycle.removed := by
  obtain ⟨-, -, sentNs, outcome, rfl⟩ := sendProbe_inv done
  exact Cycle.Conserved.removed_afterSend

theorem sendProbe_tasks {input : CycleInput} {kind : ProbeKind} {target socket : Nat}
    {cycle next : Cycle} (done : sendProbe input kind target socket cycle = .ok next) :
    next.tasks = cycle.tasks ++ [(kind, target, socket)] := by
  obtain ⟨outcome, attempts⟩ := sendProbe_attempts done
  rw [Cycle.tasks, attempts, List.map_append]
  rfl

@[simp] theorem attempts_receive (cycle : Cycle) (packet : Datagram) :
    (cycle.receive packet).attempts = cycle.attempts := by
  rcases receive_inv cycle packet with same | ⟨sequence, item, counted, f, -, -, -, eq⟩
  · rw [same]
  · rw [eq, Cycle.attempts_modifyStats]
    rfl

theorem receiveAll_attempts {context : String} {packets : List (Except String Datagram)}
    {cycle next : Cycle} (done : receiveAll context cycle packets = .ok next) :
    next.attempts = cycle.attempts := by
  refine foldlM_preserves (P := fun state => state.attempts = cycle.attempts) ?_ rfl done
  intro before packet after same done
  cases packet with
  | error _ => cases done
  | ok packet =>
      rw [pure_eq_ok] at done
      rw [← done, attempts_receive, same]

theorem drainReplies_attempts {input : CycleInput} {cycle next : Cycle}
    (done : drainReplies input cycle = .ok next) : next.attempts = cycle.attempts := by
  refine foldlM_preserves (P := fun state => state.attempts = cycle.attempts) ?_ rfl done
  intro before socket after same done
  rw [receiveAll_attempts done, same]

theorem drainReplies_tasks {input : CycleInput} {cycle next : Cycle}
    (done : drainReplies input cycle = .ok next) : next.tasks = cycle.tasks := by
  rw [Cycle.tasks, drainReplies_attempts done, Cycle.tasks]

/-! ## The phases -/

section Phases

variable {input : CycleInput} {cycle next : Cycle}

theorem sendInitial_tasks (done : sendInitial input cycle = .ok next) :
    next.tasks = cycle.tasks ++ input.sendQueue := by
  unfold sendInitial at done
  generalize input.sendQueue = queue at done ⊢
  induction queue generalizing cycle with
  | nil =>
      rw [List.foldlM_nil, pure_eq_ok] at done
      rw [done, List.append_nil]
  | cons task queue ih =>
      obtain ⟨kind, target, socket⟩ := task
      rw [List.foldlM_cons, bind_eq_ok] at done
      obtain ⟨drained, step, rest⟩ := done
      obtain ⟨sent, send, drain⟩ := bind_eq_ok.mp step
      rw [ih rest, drainReplies_tasks drain, sendProbe_tasks send, List.append_assoc]
      rfl

theorem initialPhase_tasks {sequence : UInt64}
    (done : initialPhase input sequence = .ok cycle) : cycle.tasks = input.sendQueue := by
  simp only [initialPhase, bind_eq_ok] at done
  obtain ⟨_, -, sent, sends, drained, drain, again⟩ := done
  rw [drainReplies_tasks again, drainReplies_tasks drain, sendInitial_tasks sends]
  rfl

theorem confirmationRound_tasks {unanswered : List (Nat × Nat)}
    (done : confirmationRound input unanswered cycle = .ok next) :
    next.tasks = cycle.tasks ++ confirmations unanswered := by
  obtain ⟨sent, sends, drain⟩ := bind_eq_ok.mp done
  rw [drainReplies_tasks drain]
  clear drain done
  induction unanswered generalizing cycle with
  | nil =>
      rw [List.foldlM_nil, pure_eq_ok] at sends
      rw [sends, confirmations, List.map_nil, List.append_nil]
  | cons unit unanswered ih =>
      obtain ⟨target, socket⟩ := unit
      rw [List.foldlM_cons, bind_eq_ok] at sends
      obtain ⟨after, send, rest⟩ := sends
      rw [ih rest, sendProbe_tasks send, List.append_assoc]
      rfl

theorem confirmUnanswered_tasks {unanswered : List (Nat × Nat)}
    (done : confirmUnanswered input unanswered cycle = .ok next) :
    next.tasks = cycle.tasks ++
      (List.replicate dfConfirmationProbes (confirmations unanswered)).flatten := by
  unfold confirmUnanswered at done
  split at done
  · rename_i empty
    rw [pure_eq_ok] at done
    subst empty
    rw [done, confirmations, List.map_nil]
    simp
  · rw [← List.length_range (n := dfConfirmationProbes)]
    generalize List.range dfConfirmationProbes = rounds at done ⊢
    induction rounds generalizing cycle with
    | nil =>
        rw [List.foldlM_nil, pure_eq_ok] at done
        simp [done]
    | cons round rounds ih =>
        rw [List.foldlM_cons, bind_eq_ok] at done
        obtain ⟨after, first, rest⟩ := done
        rw [ih rest, confirmationRound_tasks first, List.append_assoc, List.length_cons,
          List.replicate_succ, List.flatten_cons]

theorem awaitReplies_attempts {waits : Nat} (done : awaitReplies input waits cycle = .ok next) :
    next.attempts = cycle.attempts := by
  induction waits generalizing cycle with
  | zero =>
      rw [awaitReplies, pure_eq_ok] at done
      rw [done]
  | succ waits ih =>
      rw [awaitReplies] at done
      split at done
      · rw [pure_eq_ok] at done
        rw [done]
      · obtain ⟨drained, drain, rest⟩ := bind_eq_ok.mp done
        rw [ih rest, drainReplies_attempts drain]

theorem confirmationPhase_tasks (done : confirmationPhase input cycle = .ok next) :
    next.tasks = cycle.tasks ++ (List.replicate dfConfirmationProbes
      (confirmations (unansweredDfTargets input.network cycle))).flatten := by
  simp only [confirmationPhase, bind_eq_ok] at done
  obtain ⟨confirmed, confirm, awaited, await, drain⟩ := done
  rw [drainReplies_tasks drain, Cycle.tasks, awaitReplies_attempts await, ← Cycle.tasks,
    confirmUnanswered_tasks confirm]

/-! ## Nothing is unsent or unanswered -/

/-- The later state of a cycle has made the sends and lost the pending probes of the earlier. -/
structure Cycle.Extends (first last : Cycle) : Prop where
  attempts : first.attempts <+: last.attempts
  removed : first.removed <+: last.removed

theorem CycleStep.extends (step : CycleStep input cycle next) : cycle.Extends next := by
  cases step with
  | send done =>
      obtain ⟨outcome, attempts⟩ := sendProbe_attempts done
      exact ⟨attempts ▸ List.prefix_append _ _, sendProbe_removed done ▸ List.prefix_rfl⟩
  | receive packet =>
      refine ⟨attempts_receive cycle packet ▸ List.prefix_rfl, ?_⟩
      rcases receive_inv cycle packet with same | ⟨sequence, item, counted, f, -, -, -, eq⟩
      · have kept := congrArg Cycle.removed same
        exact kept ▸ List.prefix_rfl
      · rw [eq, Cycle.removed_modifyStats]
        exact List.prefix_append _ _
  | drain _ => exact ⟨List.prefix_rfl, List.prefix_rfl⟩

theorem CycleReach.extends (reach : CycleReach input cycle next) : cycle.Extends next := by
  induction reach with
  | refl => exact ⟨List.prefix_rfl, List.prefix_rfl⟩
  | tail _ step ih => exact ⟨ih.attempts.trans step.extends.attempts,
      ih.removed.trans step.extends.removed⟩

theorem initialPhase_reach {sequence : UInt64} (done : initialPhase input sequence = .ok cycle) :
    CycleReach input (Cycle.start input.targets.length sequence) cycle := by
  simp only [initialPhase, bind_eq_ok] at done
  obtain ⟨_, -, sent, sends, drained, drain, again⟩ := done
  exact drainReplies_reach again (drainReplies_reach drain (sendInitial_reach sends .refl))

theorem confirmationPhase_reach (done : confirmationPhase input cycle = .ok next) :
    CycleReach input cycle next := by
  simp only [confirmationPhase, bind_eq_ok] at done
  obtain ⟨confirmed, confirm, awaited, await, drain⟩ := done
  exact drainReplies_reach drain (awaitReplies_reach await (confirmUnanswered_reach confirm .refl))

end Phases

end NetOpsBench
