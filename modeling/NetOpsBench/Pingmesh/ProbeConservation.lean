import Mathlib.Logic.Relation
import NetOpsBench.Pingmesh.ProbeLedger

/-!
# Conservation of probes

A cycle moves by three steps, one send, one received datagram and the start of a drain
(`CycleStep`). The invariant of the ledger holds along every such run, a cycle whose
sends and receives do not fail returns (`probeCycle_total`), and the losses that it
reports are the validly sent probes without a counted reply (`runProbeCycle_conserves`).
-/

namespace NetOpsBench

open Fallible

/-! ## Runs -/

/-- One step of a cycle. -/
inductive CycleStep (input : CycleInput) : Cycle → Cycle → Prop
  | send {kind : ProbeKind} {target socket : Nat} {cycle next : Cycle} :
    sendProbe input kind target socket cycle = .ok next → CycleStep input cycle next
  | receive {cycle : Cycle} (packet : Datagram) : CycleStep input cycle (cycle.receive packet)
  | drain (cycle : Cycle) : CycleStep input cycle { cycle with drains := cycle.drains + 1 }

/-- The states that a cycle can be in after some steps. -/
abbrev CycleReach (input : CycleInput) : Cycle → Cycle → Prop :=
  Relation.ReflTransGen (CycleStep input)

theorem CycleStep.conserved {input : CycleInput} {cycle next : Cycle}
    (step : CycleStep input cycle next) (conserved : cycle.Conserved input) :
    next.Conserved input := by
  cases step with
  | send done =>
      obtain ⟨inRange, socketInRange, sentNs, outcome, rfl⟩ := sendProbe_inv done
      exact conserved.afterSend inRange socketInRange
  | receive packet => exact conserved.receive packet
  | drain _ => exact { conserved with }

/-- Every state of a cycle is conserved. -/
theorem CycleReach.conserved {input : CycleInput} {sequence : UInt64} {cycle : Cycle}
    (reach : CycleReach input (Cycle.start input.targets.length sequence) cycle) :
    cycle.Conserved input := by
  induction reach with
  | refl => exact Cycle.Conserved.start sequence
  | tail _ step ih => exact step.conserved ih

section Loops

variable {input : CycleInput} {first cycle next : Cycle}

theorem receiveAll_reach {context : String} {packets : List (Except String Datagram)}
    (done : receiveAll context cycle packets = .ok next) (reach : CycleReach input first cycle) :
    CycleReach input first next := by
  refine foldlM_preserves (P := CycleReach input first) ?_ reach done
  intro before packet after reach done
  cases packet with
  | error _ => cases done
  | ok packet =>
      rw [pure_eq_ok] at done
      exact done ▸ reach.tail (.receive packet)

theorem drainReplies_reach (done : drainReplies input cycle = .ok next)
    (reach : CycleReach input first cycle) : CycleReach input first next := by
  refine foldlM_preserves (P := CycleReach input first) ?_ (reach.tail (.drain _)) done
  intro before socket after reach done
  exact receiveAll_reach done reach

theorem sendInitial_reach (done : sendInitial input cycle = .ok next)
    (reach : CycleReach input first cycle) : CycleReach input first next := by
  refine foldlM_preserves (P := CycleReach input first) ?_ reach done
  rintro before ⟨kind, target, socket⟩ after reach done
  obtain ⟨sent, sendDone, drained⟩ := bind_eq_ok.mp done
  exact drainReplies_reach drained (reach.tail (.send sendDone))

theorem confirmationRound_reach {unanswered : List (Nat × Nat)}
    (done : confirmationRound input unanswered cycle = .ok next)
    (reach : CycleReach input first cycle) : CycleReach input first next := by
  obtain ⟨sent, sends, drained⟩ := bind_eq_ok.mp done
  refine drainReplies_reach drained (foldlM_preserves (P := CycleReach input first) ?_ reach sends)
  rintro before ⟨target, socket⟩ after reach done
  exact reach.tail (.send done)

theorem confirmUnanswered_reach {unanswered : List (Nat × Nat)}
    (done : confirmUnanswered input unanswered cycle = .ok next)
    (reach : CycleReach input first cycle) : CycleReach input first next := by
  unfold confirmUnanswered at done
  split at done
  · rw [pure_eq_ok] at done
    exact done ▸ reach
  · exact foldlM_preserves (P := CycleReach input first)
      (fun _ _ _ reach done => confirmationRound_reach done reach) reach done

theorem awaitReplies_reach {waits : Nat} (done : awaitReplies input waits cycle = .ok next)
    (reach : CycleReach input first cycle) : CycleReach input first next := by
  induction waits generalizing cycle with
  | zero =>
      rw [awaitReplies, pure_eq_ok] at done
      exact done ▸ reach
  | succ waits ih =>
      rw [awaitReplies] at done
      split at done
      · rw [pure_eq_ok] at done
        exact done ▸ reach
      · obtain ⟨drained, drain, rest⟩ := bind_eq_ok.mp done
        exact ih rest (drainReplies_reach drain reach)

theorem probeCycle_reach {sequence : UInt64} (done : probeCycle input sequence = .ok cycle) :
    CycleReach input (Cycle.start input.targets.length sequence) cycle := by
  obtain ⟨middle, initial, confirmation⟩ := bind_eq_ok.mp done
  simp only [initialPhase, confirmationPhase, bind_eq_ok] at initial confirmation
  obtain ⟨_, -, sent, sends, drained, drain, again⟩ := initial
  obtain ⟨confirmed, confirm, awaited, await, last⟩ := confirmation
  exact drainReplies_reach last (awaitReplies_reach await (confirmUnanswered_reach confirm
    (drainReplies_reach again (drainReplies_reach drain (sendInitial_reach sends .refl)))))

end Loops

/-! ## Totality -/

/-- The indices of the send queue are in range. -/
def CycleInput.ValidQueue (input : CycleInput) : Prop :=
  ∀ kind target socket, (kind, target, socket) ∈ input.sendQueue →
    target < input.targets.length ∧ socket < input.sockets

/-- Every send is accepted, too big, transient or a path error, and no receive fails. -/
structure Network.Answers (network : Network) : Prop where
  sends : ∀ attempt socket destination payload,
    (sendOutcome (network.sendTo attempt socket destination payload)).isSome
  receives : ∀ drain socket, ∀ packet ∈ network.receive drain socket, ∃ datagram, packet = .ok datagram
  stales : ∀ socket, ∀ packet ∈ network.stale socket, ∃ datagram, packet = .ok datagram

section Total

variable {input : CycleInput} {cycle : Cycle}

theorem sendProbe_total (answers : input.network.Answers) (kind : ProbeKind) {target socket : Nat}
    (inRange : target < input.targets.length) (socketInRange : socket < input.sockets)
    (conserved : cycle.Conserved input) :
    ∃ next, sendProbe input kind target socket cycle = .ok next ∧ next.Conserved input := by
  obtain ⟨payload, -, eq⟩ := sendProbe_eq cycle kind inRange socketInRange
  obtain ⟨outcome, outcomeEq⟩ := Option.isSome_iff_exists.mp
    (answers.sends cycle.attempts.length socket input.targets[target].client.dataIp payload)
  rw [eq, settleSend_eq, outcomeEq]
  exact ⟨_, rfl, conserved.afterSend inRange socketInRange⟩

theorem drainReplies_total (answers : input.network.Answers) (conserved : cycle.Conserved input) :
    ∃ next, drainReplies input cycle = .ok next ∧ next.Conserved input := by
  refine foldlM_total (P := Cycle.Conserved input) ?_
    ((CycleStep.drain cycle).conserved conserved)
  intro before socket _ conserved
  refine foldlM_total (P := Cycle.Conserved input) ?_ conserved
  intro before packet mem conserved
  obtain ⟨datagram, rfl⟩ := answers.receives _ _ packet mem
  exact ⟨_, rfl, conserved.receive datagram⟩

theorem drainSockets_total (answers : input.network.Answers) : drainSockets input = .ok () := by
  refine forM_eq_ok.mpr fun socket _ => forM_eq_ok.mpr fun packet mem => ?_
  obtain ⟨datagram, rfl⟩ := answers.stales socket packet mem
  rfl

/-- The confirmation set names probes of this cycle. -/
theorem unansweredDfTargets_in_range (conserved : cycle.Conserved input) {target socket : Nat}
    (mem : (target, socket) ∈ unansweredDfTargets input.network cycle) :
    target < input.targets.length ∧ socket < input.sockets := by
  rw [unansweredDfTargets, (input.network.order_perm _).mem_iff] at mem
  obtain ⟨⟨sequence, item⟩, memItem, eq⟩ := List.mem_map.mp mem
  obtain ⟨rfl, rfl⟩ := Prod.mk.inj eq
  have sent := conserved.pending_sent sequence item (List.mem_filter.mp memItem).1
  exact conserved.in_range _ (List.mem_of_getElem? sent)

theorem confirmUnanswered_total (answers : input.network.Answers) {unanswered : List (Nat × Nat)}
    (inRange : ∀ target socket, (target, socket) ∈ unanswered →
      target < input.targets.length ∧ socket < input.sockets)
    (conserved : cycle.Conserved input) :
    ∃ next, confirmUnanswered input unanswered cycle = .ok next ∧ next.Conserved input := by
  unfold confirmUnanswered
  split
  · exact ⟨cycle, rfl, conserved⟩
  · refine foldlM_total (P := Cycle.Conserved input) ?_ conserved
    intro before round _ conserved
    have sends : ∃ sent, unanswered.foldlM (fun cycle unit =>
        sendProbe input .df unit.1 unit.2 cycle) before = .ok sent ∧ sent.Conserved input := by
      refine foldlM_total (P := Cycle.Conserved input) ?_ conserved
      rintro before ⟨target, socket⟩ mem conserved
      obtain ⟨target_lt, socket_lt⟩ := inRange target socket mem
      exact sendProbe_total answers .df target_lt socket_lt conserved
    obtain ⟨sent, sendsDone, conserved⟩ := sends
    obtain ⟨drained, drainDone, conserved⟩ := drainReplies_total answers conserved
    exact ⟨drained, bind_eq_ok.mpr ⟨sent, sendsDone, drainDone⟩, conserved⟩

theorem awaitReplies_total (answers : input.network.Answers) (waits : Nat)
    (conserved : cycle.Conserved input) :
    ∃ next, awaitReplies input waits cycle = .ok next ∧ next.Conserved input := by
  induction waits generalizing cycle with
  | zero => exact ⟨cycle, rfl, conserved⟩
  | succ waits ih =>
      rw [awaitReplies]
      split
      · exact ⟨cycle, rfl, conserved⟩
      · obtain ⟨drained, drainDone, conserved⟩ := drainReplies_total answers conserved
        obtain ⟨last, rest, conserved⟩ := ih conserved
        exact ⟨last, bind_eq_ok.mpr ⟨drained, drainDone, rest⟩, conserved⟩

theorem probeCycle_total (valid : input.ValidQueue) (answers : input.network.Answers)
    (sequence : UInt64) : ∃ cycle, probeCycle input sequence = .ok cycle := by
  have initial : ∃ sent, sendInitial input (Cycle.start input.targets.length sequence) = .ok sent ∧
      sent.Conserved input := by
    refine foldlM_total (P := Cycle.Conserved input) ?_ (Cycle.Conserved.start sequence)
    rintro before ⟨kind, target, socket⟩ mem conserved
    obtain ⟨target_lt, socket_lt⟩ := valid kind target socket mem
    obtain ⟨sent, sendDone, conserved⟩ :=
      sendProbe_total answers kind target_lt socket_lt conserved
    obtain ⟨drained, drainDone, conserved⟩ := drainReplies_total answers conserved
    exact ⟨drained, bind_eq_ok.mpr ⟨sent, sendDone, drainDone⟩, conserved⟩
  obtain ⟨sent, sends, conserved⟩ := initial
  obtain ⟨drained, drain, conserved⟩ := drainReplies_total answers conserved
  obtain ⟨again, drainAgain, conserved⟩ := drainReplies_total answers conserved
  obtain ⟨confirmed, confirm, conserved⟩ := confirmUnanswered_total answers
    (fun _ _ => unansweredDfTargets_in_range conserved) conserved
  obtain ⟨awaited, await, conserved⟩ := awaitReplies_total answers input.network.waits conserved
  obtain ⟨last, lastDrain, -⟩ := drainReplies_total answers conserved
  refine ⟨last, ?_⟩
  simp only [probeCycle, initialPhase, confirmationPhase, drainSockets_total answers, sends, drain,
    drainAgain, confirm, await, ok_bind]
  exact lastDrain

end Total

/-! ## Conservation -/

/-- A datagram that answers no send of the cycle changes nothing. -/
theorem Cycle.Conserved.receive_foreign {input : CycleInput} {cycle : Cycle}
    (conserved : cycle.Conserved input) {packet : Datagram}
    (foreign : ∀ attempt ∈ cycle.attempts, attempt.outcome = .sent →
      (decodeHeader packet.bytes).map Prod.fst ≠ some attempt.sequence) :
    cycle.receive packet = cycle := by
  rcases receive_inv cycle packet with same | ⟨sequence, item, _, _, mem, decoded, -, -⟩
  · exact same
  · have sent := conserved.pending_sent sequence item mem
    exact (foreign _ (List.mem_of_getElem? sent) rfl decoded).elim

theorem Cycle.Conserved.lost_eq {input : CycleInput} {cycle : Cycle}
    (conserved : cycle.Conserved input) (kind : ProbeKind) (target : Nat) :
    validSent (cycle.statsAt kind target) - (cycle.statsAt kind target).received =
      cycle.lostProbes kind target := by
  have balance := conserved.balance kind target
  rw [validSent]
  omega

/-- Probe conservation: over every run of a cycle no probe is taken out of the pending map
twice, counted and invalid probes never outnumber the sent ones, and a datagram of
another cycle changes nothing; the reported losses are the validly sent probes without
a counted reply. -/
theorem runProbeCycle_conserves (summarize : List Nat → RttSummary) (input : CycleInput)
    (sequence : UInt64) (valid : input.ValidQueue) (answers : input.network.Answers) :
    (∃ cycle results, probeCycle input sequence = .ok cycle ∧
      runProbeCycle summarize input sequence = .ok (results, cycle.sequence) ∧
      CycleReach input (Cycle.start input.targets.length sequence) cycle ∧
      results.length = input.targets.length ∧
      ∀ (target : Nat) (result : ProbeResult), results[target]? = some result →
        result.packetsLost = cycle.lostProbes .rtt target ∧
        result.dfPacketsLost = cycle.lostProbes .df target) ∧
    ∀ cycle, CycleReach input (Cycle.start input.targets.length sequence) cycle →
      cycle.removedAttempts.Nodup ∧
      (∀ kind target, (cycle.statsAt kind target).received +
        (cycle.statsAt kind target).invalidSent ≤ (cycle.statsAt kind target).sent) ∧
      ∀ packet : Datagram, (∀ attempt ∈ cycle.attempts, attempt.outcome = .sent →
          (decodeHeader packet.bytes).map Prod.fst ≠ some attempt.sequence) →
        cycle.receive packet = cycle := by
  constructor
  · obtain ⟨cycle, done⟩ := probeCycle_total valid answers sequence
    have reach := probeCycle_reach done
    have conserved := reach.conserved
    refine ⟨cycle, cycle.results summarize input, done, ?_, reach, ?_, ?_⟩
    · rw [runProbeCycle, done, ok_bind]
      rfl
    · simp [Cycle.results]
    · intro target result atTarget
      simp only [Cycle.results, List.getElem?_map, Option.map_eq_some_iff] at atTarget
      obtain ⟨index, atIndex, rfl⟩ := atTarget
      obtain ⟨below, eq⟩ := List.getElem?_eq_some_iff.mp atIndex
      obtain rfl : target = index := by simpa using eq
      exact ⟨conserved.lost_eq .rtt _, conserved.lost_eq .df _⟩
  · intro cycle reach
    have conserved := reach.conserved
    refine ⟨conserved.removed_nodup, ?_, fun packet => conserved.receive_foreign⟩
    intro kind target
    have balance := conserved.balance kind target
    omega

/-- Two targets on one socket: the first answers its RTT probe, its DF probe is too big for
the interface and the second one is never answered. -/
def sampleNetwork : Network :=
  { sendTo := fun attempt _ _ _ => if attempt = 1 then .error .emsgsize else .ok 1000
    receive := fun drain _ =>
      if drain = 0 then
        [.ok ⟨(encodeHeader (List.replicate 64 0) 0 0).toOption.getD [], some 5000⟩]
      else []
    stale := fun _ => []
    waits := 2
    order := id
    order_perm := order_id }

def sampleInput : CycleInput :=
  { targets :=
      [⟨⟨"client2", "10.0.2.1", "172.20.20.12", "leaf2", "leaf2"⟩, "cross_rack"⟩,
        ⟨⟨"client3", "10.0.2.2", "172.20.20.13", "leaf2", "leaf2"⟩, "cross_rack"⟩]
    sockets := 1
    dfPayloadSize := 9072
    sendQueue := [(.rtt, 0, 0), (.df, 0, 0), (.rtt, 1, 0), (.df, 1, 0)]
    network := sampleNetwork }

theorem sampleInput_validQueue : sampleInput.ValidQueue := by
  intro kind target socket mem
  simp only [sampleInput, List.mem_cons, Prod.mk.injEq, List.not_mem_nil, or_false] at mem
  rcases mem with ⟨-, rfl, rfl⟩ | ⟨-, rfl, rfl⟩ | ⟨-, rfl, rfl⟩ | ⟨-, rfl, rfl⟩ <;> decide

theorem sampleNetwork_answers : sampleNetwork.Answers where
  sends attempt _ _ _ := by
    unfold sampleNetwork
    dsimp only
    split <;> rfl
  receives drain _ packet mem := by
    unfold sampleNetwork at mem
    dsimp only at mem
    split at mem
    · exact ⟨_, List.mem_singleton.mp mem⟩
    · cases mem
  stales _ _ mem := by cases mem

theorem sampleInput_conserves :
    ∃ (cycle : Cycle) (results : List ProbeResult),
      runProbeCycle (fun _ => ⟨.nan, .nan, .nan⟩) sampleInput 0 = .ok (results, cycle.sequence) ∧
      ∀ (target : Nat) (result : ProbeResult), results[target]? = some result →
        result.packetsLost = cycle.lostProbes .rtt target ∧
        result.dfPacketsLost = cycle.lostProbes .df target := by
  obtain ⟨⟨cycle, results, -, done, -, -, losses⟩, -⟩ := runProbeCycle_conserves
    (fun _ => ⟨.nan, .nan, .nan⟩) sampleInput 0 sampleInput_validQueue sampleNetwork_answers
  exact ⟨cycle, results, done, losses⟩

end NetOpsBench
