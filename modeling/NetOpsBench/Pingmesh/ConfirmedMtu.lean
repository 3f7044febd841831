import Mathlib.Data.List.Count
import NetOpsBench.Lib.Counting
import NetOpsBench.Pingmesh.ProbeSends

/-!
# Confirmed MTU losses

A row passes the gate of the detector for a network MTU fault, sixteen DF probes that are
all lost, exactly when the initial DF probe of its target was sent and unanswered when the
confirmation set was computed, its confirmations reached the network, and none of the
sixteen was answered in the cycle (`runProbeCycle_confirmedMtu`).
-/

namespace NetOpsBench

open Fallible

/-- `_MIN_CONFIRMED_DF_PROBES` -/
def minConfirmedDfProbes : Nat := 16

/-- The DF loss test of `_detect_df_from_rows` on the counts of a single row. -/
def ProbeResult.ConfirmsDfLoss (result : ProbeResult) : Prop :=
  minConfirmedDfProbes ≤ result.dfPacketsSent ∧ result.dfPacketsSent ≤ result.dfPacketsLost

/-- The queue of a valid frame: its indices are in range and every target has one DF probe.
It is a `Vec`, which has at most `usize::MAX` items. -/
structure CycleInput.ValidFrame (input : CycleInput) : Prop where
  queue : input.ValidQueue
  df_once : ∀ target < input.targets.length,
    (input.sendQueue.countP fun task => task.1 = .df ∧ task.2.1 = target) = 1
  queue_length : input.sendQueue.length < 2 ^ 64

namespace Cycle

variable (cycle : Cycle) (target : Nat)

/-- The DF probes of a target, each with the number of its send. -/
def dfProbes : List (Attempt × Nat) :=
  cycle.attempts.zipIdx.filter fun entry => entry.1.kind = .df ∧ entry.1.targetIndex = target

/-- A reply to a probe was taken, with or without a timestamp. -/
def Answered (entry : Attempt × Nat) : Prop := entry.2 ∈ cycle.removedAttempts

/-- A probe reached the network or was refused on its path. -/
def Offered (entry : Attempt × Nat) : Prop :=
  entry.1.outcome = .sent ∨ entry.1.outcome = .pathError

instance (entry : Attempt × Nat) : Decidable (Offered entry) :=
  inferInstanceAs (Decidable (_ ∨ _))

/-- A probe that a local error has spoilt: the interface was too small, the kernel short of
buffers, or its reply without a timestamp. -/
def LocalError (entry : Attempt × Nat) : Prop :=
  entry.1.outcome = .oversize ∨ entry.1.outcome = .transient ∨
    ∃ removal ∈ cycle.removed, removal.1.attempt = entry.2 ∧ removal.2 = false

/-- What the gate stands for, between the state when the confirmation set was computed and
the end of the cycle. -/
structure ConfirmedLoss (middle last : Cycle) (target : Nat) : Prop where
  initial : ∃ probe ∈ middle.dfProbes target, probe.1.outcome = .sent ∧ ¬ middle.Answered probe
  confirmations : ∀ probe ∈ last.dfProbes target, middle.attempts.length ≤ probe.2 →
    Offered probe
  unanswered : ∀ probe ∈ last.dfProbes target, ¬ last.Answered probe

end Cycle

/-! ## Sequence numbers -/

/-- The pending map of a cycle: sends are numbered in order, and the sent and unanswered ones
are pending. -/
structure Cycle.Numbered (first : UInt64) (cycle : Cycle) : Prop where
  next : cycle.sequence = first + UInt64.ofNat cycle.attempts.length
  numbers : ∀ {k : Nat} {attempt : Attempt}, cycle.attempts[k]? = some attempt →
    attempt.sequence = first + UInt64.ofNat k
  pending : ∀ {k : Nat} {attempt : Attempt}, cycle.attempts[k]? = some attempt →
    attempt.outcome = .sent → k ∉ cycle.removedAttempts →
      ∃ item : Pending, (attempt.sequence, item) ∈ cycle.pending ∧ item.attempt = k

/-- The keys of the pending map are distinct. -/
def Cycle.DistinctKeys (cycle : Cycle) : Prop := (cycle.pending.map Prod.fst).Nodup

/-- A taken reply belongs to the send that its item remembers. -/
def Cycle.RemovedSent (cycle : Cycle) : Prop :=
  ∀ removal ∈ cycle.removed, ∃ sequence, cycle.attempts[removal.1.attempt]? =
    some ⟨removal.1.kind, removal.1.targetIndex, removal.1.socketIndex, sequence, .sent⟩

section Steps

variable {input : CycleInput} {cycle next : Cycle} {first : UInt64}

theorem offset_injective {i j : Nat} (iLt : i < 2 ^ 64) (jLt : j < 2 ^ 64)
    (same : first + UInt64.ofNat i = first + UInt64.ofNat j) : i = j := by
  have cancelled : UInt64.ofNat i = UInt64.ofNat j := (UInt64.add_right_inj first).mp same
  have nats := congrArg UInt64.toNat cancelled
  rwa [UInt64.toNat_ofNat', UInt64.toNat_ofNat', Nat.mod_eq_of_lt iLt, Nat.mod_eq_of_lt jLt] at nats

theorem getElem?_attempts_append {attempts : List Attempt} {added attempt : Attempt} {k : Nat}
    (atK : (attempts ++ [added])[k]? = some attempt) :
    attempts[k]? = some attempt ∨ (k = attempts.length ∧ attempt = added) := by
  rw [List.getElem?_append] at atK
  split at atK
  · exact .inl atK
  · rename_i above
    obtain ⟨below, eq⟩ := List.getElem?_eq_some_iff.mp atK
    have last : k = attempts.length := by
      simp only [List.length_singleton] at below
      omega
    subst last
    simp only [Nat.sub_self, List.getElem_cons_zero] at eq
    exact .inr ⟨rfl, eq.symm⟩

/-- A send is numbered after the earlier ones and displaces none of them. -/
theorem sendProbe_numbered {kind : ProbeKind} {target socket : Nat}
    (done : sendProbe input kind target socket cycle = .ok next)
    (numbered : cycle.Numbered first) (room : next.attempts.length ≤ 2 ^ 64) :
    next.Numbered first := by
  obtain ⟨-, -, sentNs, outcome, rfl⟩ := sendProbe_inv done
  have removed : (cycle.afterSend kind target socket sentNs outcome).removedAttempts =
      cycle.removedAttempts := by simp [Cycle.removedAttempts]
  rw [Cycle.Conserved.attempts_afterSend, List.length_append, List.length_singleton] at room
  refine ⟨?_, ?_, ?_⟩
  · have sequence : (cycle.afterSend kind target socket sentNs outcome).sequence =
        cycle.sequence + 1 := by
      unfold Cycle.afterSend
      split <;> simp [Cycle.finishSend, Cycle.insertPending]
    rw [sequence, Cycle.Conserved.attempts_afterSend, List.length_append, List.length_singleton,
      numbered.next, UInt64.add_assoc, UInt64.ofNat_add]
    rfl
  · intro k attempt atK
    rw [Cycle.Conserved.attempts_afterSend] at atK
    rcases getElem?_attempts_append atK with old | ⟨rfl, rfl⟩
    · exact numbered.numbers old
    · exact numbered.next
  · intro k attempt atK sent fresh
    rw [Cycle.Conserved.attempts_afterSend] at atK
    rw [removed] at fresh
    rcases getElem?_attempts_append atK with old | ⟨rfl, rfl⟩
    · obtain ⟨item, mem, number⟩ := numbered.pending old sent fresh
      have below := (List.getElem?_eq_some_iff.mp old).1
      have apart : attempt.sequence ≠ cycle.sequence := by
        intro same
        rw [numbered.numbers old, numbered.next] at same
        have equal := offset_injective (by omega) (by omega) same
        omega
      refine ⟨item, ?_, number⟩
      unfold Cycle.afterSend
      split
      · simp [Cycle.finishSend, Cycle.insertPending, mem, apart]
      · simp [Cycle.finishSend, mem]
    · refine ⟨⟨kind, target, socket, sentNs, cycle.attempts.length⟩, ?_, rfl⟩
      have isSent : outcome = .sent := sent
      subst isSent
      simp [Cycle.afterSend, Cycle.finishSend, Cycle.insertPending]

/-- A reply takes out the pending probe of its own number only. -/
theorem receive_numbered (conserved : cycle.Conserved input) (numbered : cycle.Numbered first)
    (room : cycle.attempts.length ≤ 2 ^ 64) (packet : Datagram) :
    (cycle.receive packet).Numbered first := by
  rcases receive_inv cycle packet with same | ⟨sequence, item, counted, f, mem, -, -, eq⟩
  · rwa [same]
  · have removed : (cycle.receive packet).removedAttempts =
        cycle.removedAttempts ++ [item.attempt] := by
      rw [eq]
      simp [Cycle.removedAttempts, Cycle.removePending]
    refine ⟨?_, ?_, ?_⟩
    · rw [attempts_receive, ← numbered.next, eq, Cycle.sequence_modifyStats]
      rfl
    · intro k attempt atK
      rw [attempts_receive] at atK
      exact numbered.numbers atK
    · intro k attempt atK sent fresh
      rw [attempts_receive] at atK
      rw [removed, List.mem_append, List.mem_singleton, not_or] at fresh
      obtain ⟨other, memOther, number⟩ := numbered.pending atK sent fresh.1
      refine ⟨other, ?_, number⟩
      have apart : attempt.sequence ≠ sequence := by
        intro same
        have own := conserved.pending_sent sequence item mem
        have below := (List.getElem?_eq_some_iff.mp atK).1
        have ownBelow := (List.getElem?_eq_some_iff.mp own).1
        have ownNumber : sequence = first + UInt64.ofNat item.attempt := numbered.numbers own
        rw [numbered.numbers atK, ownNumber] at same
        exact fresh.2 (offset_injective (by omega) (by omega) same)
      rw [eq, Cycle.pending_modifyStats]
      simp [Cycle.removePending, memOther, apart]

theorem CycleStep.distinctKeys (step : CycleStep input cycle next) (distinct : cycle.DistinctKeys) :
    next.DistinctKeys := by
  unfold Cycle.DistinctKeys at distinct ⊢
  cases step with
  | send done =>
      obtain ⟨-, -, sentNs, outcome, rfl⟩ := sendProbe_inv done
      unfold Cycle.afterSend
      split
      · simp only [Cycle.finishSend, Cycle.insertPending, Cycle.pending_modifyStats,
          List.map_cons, List.nodup_cons]
        refine ⟨by simp, ?_⟩
        exact distinct.sublist (List.filter_sublist.map Prod.fst)
      · simpa [Cycle.finishSend] using distinct
  | receive packet =>
      rcases receive_inv cycle packet with same | ⟨sequence, item, counted, f, -, -, -, eq⟩
      · rwa [same]
      · rw [eq, Cycle.pending_modifyStats]
        exact distinct.sublist (List.filter_sublist.map Prod.fst)
  | drain _ => exact distinct

theorem CycleStep.removedSent (step : CycleStep input cycle next)
    (conserved : cycle.Conserved input) (sent : cycle.RemovedSent) : next.RemovedSent := by
  intro removal mem
  have earlier : ∀ {k : Nat} {attempt : Attempt}, cycle.attempts[k]? = some attempt →
      next.attempts[k]? = some attempt := by
    intro k attempt atK
    obtain ⟨more, eq⟩ := step.extends.attempts
    rw [← eq, List.getElem?_append_left (List.getElem?_eq_some_iff.mp atK).1, atK]
  cases step with
  | send done =>
      rw [sendProbe_removed done] at mem
      obtain ⟨sequence, atK⟩ := sent removal mem
      exact ⟨sequence, earlier atK⟩
  | receive packet =>
      rcases receive_inv cycle packet with same | ⟨sequence, item, counted, f, memItem, -, -, eq⟩
      · rw [same] at mem
        obtain ⟨sequence, atK⟩ := sent removal mem
        exact ⟨sequence, earlier atK⟩
      · rw [eq, Cycle.removed_modifyStats] at mem
        rcases List.mem_append.mp mem with old | new
        · obtain ⟨sequence, atK⟩ := sent removal old
          exact ⟨sequence, earlier atK⟩
        · rw [List.mem_singleton] at new
          subst new
          exact ⟨sequence, earlier (conserved.pending_sent sequence item memItem)⟩
  | drain _ => exact sent removal mem

/-- The states of a cycle that has made at most `2 ^ 64` sends are numbered. -/
theorem CycleReach.numbered (reach : CycleReach input (Cycle.start input.targets.length first) cycle)
    (room : cycle.attempts.length ≤ 2 ^ 64) : cycle.Numbered first := by
  induction reach with
  | refl =>
      refine ⟨?_, ?_, ?_⟩
      · simp [Cycle.start]
      · intro k attempt atK
        simp [Cycle.start] at atK
      · intro k attempt atK
        simp [Cycle.start] at atK
  | tail earlier step ih =>
      have earlierRoom := (step.extends.attempts.length_le).trans room
      cases step with
      | send done => exact sendProbe_numbered done (ih earlierRoom) room
      | receive packet =>
          exact receive_numbered (CycleReach.conserved earlier) (ih earlierRoom) earlierRoom packet
      | drain _ =>
          have before := ih earlierRoom
          exact ⟨before.next, before.numbers, before.pending⟩

theorem CycleReach.distinctKeys {sequence : UInt64}
    (reach : CycleReach input (Cycle.start input.targets.length sequence) cycle) :
    cycle.DistinctKeys := by
  induction reach with
  | refl => exact List.nodup_nil
  | tail _ step ih => exact step.distinctKeys ih

theorem CycleReach.removedSent {sequence : UInt64}
    (reach : CycleReach input (Cycle.start input.targets.length sequence) cycle) :
    cycle.RemovedSent := by
  induction reach with
  | refl => exact fun _ mem => (List.not_mem_nil mem).elim
  | tail earlier step ih => exact step.removedSent (CycleReach.conserved earlier) ih

end Steps

/-! ## The confirmation set -/

section Confirmation

variable {input : CycleInput} {middle last : Cycle} {first : UInt64} {target : Nat}

theorem length_dfProbes (cycle : Cycle) (target : Nat) :
    (cycle.dfProbes target).length =
      cycle.tasks.countP fun task => task.1 = .df ∧ task.2.1 = target := by
  have attempts : cycle.attempts = cycle.attempts.zipIdx.map Prod.fst := by
    rw [List.zipIdx_map_fst]
  rw [Cycle.dfProbes, ← List.countP_eq_length_filter, Cycle.tasks]
  conv_rhs => rw [attempts]
  rw [List.countP_map, List.countP_map]
  rfl

theorem mem_dfProbes {cycle : Cycle} {entry : Attempt × Nat} :
    entry ∈ cycle.dfProbes target ↔ cycle.attempts[entry.2]? = some entry.1 ∧
      entry.1.kind = .df ∧ entry.1.targetIndex = target := by
  obtain ⟨attempt, k⟩ := entry
  rw [Cycle.dfProbes, List.mem_filter, List.mk_mem_zipIdx_iff_getElem?, decide_eq_true_eq]

/-- A target has one DF probe before the confirmations. -/
theorem length_dfProbes_initial (valid : input.ValidFrame)
    (initial : initialPhase input first = .ok middle) (below : target < input.targets.length) :
    (middle.dfProbes target).length = 1 := by
  rw [length_dfProbes, initialPhase_tasks initial]
  exact valid.df_once target below

/-- The confirmation set names the unanswered DF probes. -/
theorem mem_unansweredDfTargets (reach : CycleReach input
    (Cycle.start input.targets.length first) middle) {socket : Nat}
    (mem : (target, socket) ∈ unansweredDfTargets input.network middle) :
    ∃ probe ∈ middle.dfProbes target, probe.1.outcome = .sent ∧ ¬ middle.Answered probe := by
  have conserved := CycleReach.conserved reach
  rw [unansweredDfTargets, (input.network.order_perm _).mem_iff] at mem
  obtain ⟨⟨sequence, item⟩, memItem, eq⟩ := List.mem_map.mp mem
  obtain ⟨pending, isDf⟩ := List.mem_filter.mp memItem
  have sent := conserved.pending_sent sequence item pending
  refine ⟨(_, item.attempt), mem_dfProbes.mpr ⟨sent, ?_, ?_⟩, rfl, ?_⟩
  · exact of_decide_eq_true isDf
  · exact congrArg Prod.fst eq
  · exact conserved.pending_fresh _ pending

theorem exists_mem_unansweredDfTargets (reach : CycleReach input
    (Cycle.start input.targets.length first) middle) (room : middle.attempts.length ≤ 2 ^ 64)
    {probe : Attempt × Nat} (mem : probe ∈ middle.dfProbes target)
    (sent : probe.1.outcome = .sent) (unanswered : ¬ middle.Answered probe) :
    ∃ socket, (target, socket) ∈ unansweredDfTargets input.network middle := by
  obtain ⟨atK, isDf, named⟩ := mem_dfProbes.mp mem
  obtain ⟨item, pending, number⟩ := (CycleReach.numbered reach room).pending atK sent unanswered
  have own := (CycleReach.conserved reach).pending_sent _ item pending
  rw [number, atK] at own
  have same := Option.some.inj own
  refine ⟨item.socketIndex, ?_⟩
  rw [unansweredDfTargets, (input.network.order_perm _).mem_iff]
  refine List.mem_map.mpr ⟨(_, item), List.mem_filter.mpr ⟨pending, ?_⟩, ?_⟩
  · rw [same] at isDf
    exact decide_eq_true isDf
  · rw [same] at named
    exact congrArg (·, item.socketIndex) named

/-- A target is in the confirmation set at most once. -/
theorem countP_unansweredDfTargets_le (valid : input.ValidFrame)
    (initial : initialPhase input first = .ok middle) (below : target < input.targets.length) :
    (unansweredDfTargets input.network middle).countP (fun unit => unit.1 = target) ≤ 1 := by
  have reach := initialPhase_reach initial
  have conserved := CycleReach.conserved reach
  rw [unansweredDfTargets, (input.network.order_perm _).countP_eq, List.countP_map,
    List.countP_filter, List.countP_eq_length_filter]
  -- Two entries would be of the same send and so have the same key.
  obtain ⟨only, onlyEq⟩ := List.length_eq_one_iff.mp (length_dfProbes_initial valid initial below)
  have key : ∀ entry ∈ middle.pending, entry.2.kind = .df → entry.2.targetIndex = target →
      entry.1 = only.1.sequence := by
    intro entry mem isDf named
    have sent := conserved.pending_sent entry.1 entry.2 mem
    have member : ((⟨entry.2.kind, entry.2.targetIndex, entry.2.socketIndex, entry.1, .sent⟩ :
        Attempt), entry.2.attempt) ∈ middle.dfProbes target :=
      mem_dfProbes.mpr ⟨sent, isDf, named⟩
    rw [onlyEq, List.mem_singleton] at member
    rw [← member]
  set entries := middle.pending.filter _ with entriesEq
  have distinct : (entries.map Prod.fst).Nodup :=
    (CycleReach.distinctKeys reach).sublist (List.filter_sublist.map Prod.fst)
  have same : ∀ sequence ∈ entries.map Prod.fst, sequence = only.1.sequence := by
    intro sequence mem
    obtain ⟨entry, memEntry, rfl⟩ := List.mem_map.mp mem
    rw [entriesEq, List.mem_filter] at memEntry
    obtain ⟨pending, test⟩ := memEntry
    simp only [Function.comp_apply, Bool.and_eq_true, decide_eq_true_eq] at test
    exact key entry pending test.2 test.1
  rw [← List.length_map (f := Prod.fst)]
  rw [List.eq_replicate_of_mem same] at distinct ⊢
  rw [List.length_replicate]
  exact List.nodup_replicate.mp distinct

/-- A target has its initial DF probe and fifteen more when it is in the confirmation set. -/
theorem length_dfProbes_last (valid : input.ValidFrame)
    (initial : initialPhase input first = .ok middle)
    (confirmed : confirmationPhase input middle = .ok last) (below : target < input.targets.length) :
    (last.dfProbes target).length = 1 + dfConfirmationProbes *
      (unansweredDfTargets input.network middle).countP fun unit => unit.1 = target := by
  rw [length_dfProbes, confirmationPhase_tasks confirmed, List.countP_append, ← length_dfProbes,
    length_dfProbes_initial valid initial below, List.countP_flatten, List.map_replicate,
    List.sum_replicate_nat, confirmations, List.countP_map]
  congr 2
  apply List.countP_congr
  intro unit _
  simp

/-- The probes of the initial phase are those with the first numbers. -/
theorem mem_dfProbes_middle (extends_ : middle.Extends last) {probe : Attempt × Nat}
    (mem : probe ∈ last.dfProbes target) (early : probe.2 < middle.attempts.length) :
    probe ∈ middle.dfProbes target := by
  obtain ⟨atK, isDf, named⟩ := mem_dfProbes.mp mem
  obtain ⟨more, eq⟩ := extends_.attempts
  rw [← eq, List.getElem?_append_left early] at atK
  exact mem_dfProbes.mpr ⟨atK, isDf, named⟩

theorem lostProbes_eq_countP (cycle : Cycle) (target : Nat) : cycle.lostProbes .df target =
    (cycle.dfProbes target).countP fun entry =>
      Cycle.Offered entry ∧ entry.2 ∉ cycle.removedAttempts := by
  rw [Cycle.lostProbes_eq, Cycle.dfProbes, List.countP_filter]
  apply List.countP_congr
  intro entry _
  simp only [decide_eq_true_eq, Bool.and_eq_true]
  unfold Cycle.Offered
  tauto

/-- Of a target's probes none counts as received when none was answered. -/
theorem countedReplies_eq_zero {cycle : Cycle} (sent : cycle.RemovedSent)
    (unanswered : ∀ probe ∈ cycle.dfProbes target, ¬ cycle.Answered probe) :
    cycle.countedReplies .df target = 0 := by
  rw [Cycle.countedReplies, List.countP_eq_zero]
  intro removal mem
  obtain ⟨sequence, atK⟩ := sent removal mem
  rw [decide_eq_true_eq]
  intro counted
  exact unanswered (_, removal.1.attempt) (mem_dfProbes.mpr ⟨atK, counted.1, counted.2.1⟩)
    (List.mem_map.mpr ⟨removal, mem, rfl⟩)

/-- Sixteen lost probes are the initial one and all confirmations. -/
theorem confirmedLoss_iff (valid : input.ValidFrame)
    (initial : initialPhase input first = .ok middle)
    (confirmed : confirmationPhase input middle = .ok last) (below : target < input.targets.length) :
    Cycle.ConfirmedLoss middle last target ↔
      minConfirmedDfProbes ≤ last.lostProbes .df target ∧ last.countedReplies .df target = 0 := by
  have reach := initialPhase_reach initial
  have lastReach : CycleReach input (Cycle.start input.targets.length first) last :=
    reach.trans (confirmationPhase_reach confirmed)
  have later : middle.Extends last := (confirmationPhase_reach confirmed).extends
  have count := length_dfProbes_last valid initial confirmed below
  have once := countP_unansweredDfTargets_le valid initial below
  have room : middle.attempts.length ≤ 2 ^ 64 := by
    have tasks := congrArg List.length (initialPhase_tasks initial)
    rw [Cycle.tasks, List.length_map] at tasks
    rw [tasks]
    exact valid.queue_length.le
  refine ⟨?_, ?_⟩
  · intro loss
    obtain ⟨probe, mem, sent, fresh⟩ := loss.initial
    obtain ⟨socket, member⟩ := exists_mem_unansweredDfTargets reach room mem sent fresh
    have present : 0 < (unansweredDfTargets input.network middle).countP fun unit =>
        unit.1 = target := List.countP_pos_iff.mpr ⟨_, member, by simp⟩
    have sixteen : (last.dfProbes target).length = minConfirmedDfProbes := by
      rw [count, Nat.le_antisymm once present]
      rfl
    have all : ∀ entry ∈ last.dfProbes target, Cycle.Offered entry ∧
        entry.2 ∉ last.removedAttempts := by
      intro entry memEntry
      refine ⟨?_, loss.unanswered entry memEntry⟩
      by_cases early : entry.2 < middle.attempts.length
      · -- the only early probe is the initial one
        obtain ⟨only, onlyEq⟩ :=
          List.length_eq_one_iff.mp (length_dfProbes_initial valid initial below)
        have own := mem_dfProbes_middle later memEntry early
        rw [onlyEq, List.mem_singleton] at own mem
        rw [own, ← mem]
        exact .inl sent
      · exact loss.confirmations entry memEntry (Nat.le_of_not_lt early)
    refine ⟨?_, countedReplies_eq_zero lastReach.removedSent loss.unanswered⟩
    rw [lostProbes_eq_countP, List.countP_eq_length.mpr, sixteen]
    intro entry memEntry
    exact decide_eq_true (all entry memEntry)
  · intro given
    rcases given with ⟨lost, _⟩
    rw [lostProbes_eq_countP] at lost
    have bound := List.countP_le_length (p := fun entry : Attempt × Nat => decide
      (Cycle.Offered entry ∧ entry.2 ∉ last.removedAttempts)) (l := last.dfProbes target)
    have sixteen : minConfirmedDfProbes = 1 + dfConfirmationProbes * 1 := rfl
    have present : 0 < (unansweredDfTargets input.network middle).countP fun unit =>
        unit.1 = target := by
      by_contra absent
      rw [Nat.eq_zero_of_not_pos absent] at count
      simp only [minConfirmedDfProbes] at lost
      omega
    rw [Nat.le_antisymm once present] at count
    have all := List.countP_eq_length.mp (Nat.le_antisymm bound (by omega))
    obtain ⟨⟨_, socket⟩, member, named⟩ := List.countP_pos_iff.mp present
    have same := of_decide_eq_true named
    dsimp only at same
    subst same
    refine ⟨mem_unansweredDfTargets reach member, ?_, ?_⟩
    · intro probe mem _
      exact (of_decide_eq_true (all probe mem)).1
    · intro probe mem
      exact (of_decide_eq_true (all probe mem)).2

/-- The reply that counted for a probe. -/
theorem removal_of_answered {cycle : Cycle} (sent : cycle.RemovedSent) {removal : Pending × Bool}
    (mem : removal ∈ cycle.removed) {probe : Attempt × Nat} (own : probe ∈ cycle.dfProbes target)
    (number : removal.1.attempt = probe.2) :
    removal.1.kind = .df ∧ removal.1.targetIndex = target ∧ probe.1.outcome = .sent := by
  obtain ⟨atK, isDf, named⟩ := mem_dfProbes.mp own
  obtain ⟨sequence, sentAt⟩ := sent removal mem
  rw [number, atK] at sentAt
  have same := Option.some.inj sentAt
  rw [same] at isDf named
  exact ⟨isDf, named, by rw [same]⟩

theorem countedReplies_pos {cycle : Cycle} (sent : cycle.RemovedSent) {probe : Attempt × Nat}
    (own : probe ∈ cycle.dfProbes target) (counted : cycle.CountedReply probe) :
    0 < cycle.countedReplies .df target := by
  obtain ⟨removal, mem, number, flag⟩ := counted
  obtain ⟨isDf, named, -⟩ := removal_of_answered sent mem own number
  rw [Cycle.countedReplies, List.countP_pos_iff]
  exact ⟨removal, mem, decide_eq_true ⟨isDf, named, flag⟩⟩

/-- Every reply that counted belongs to another probe of its target. -/
theorem countedReplies_le {cycle : Cycle} (sent : cycle.RemovedSent)
    (distinct : cycle.removedAttempts.Nodup) :
    cycle.countedReplies .df target ≤ (cycle.dfProbes target).countP cycle.CountedReply := by
  rw [Cycle.countedReplies, List.countP_eq_length_filter, List.countP_eq_length_filter,
    ← List.length_map (f := fun removal : Pending × Bool => removal.1.attempt),
    ← @List.length_map _ _ ((cycle.dfProbes target).filter _) Prod.snd]
  refine (List.subperm_of_subset ?_ ?_).length_le
  · exact distinct.sublist (List.filter_sublist.map _)
  · intro number mem
    obtain ⟨removal, memRemoval, rfl⟩ := List.mem_map.mp mem
    obtain ⟨memRemoved, counted⟩ := List.mem_filter.mp memRemoval
    obtain ⟨isDf, named, flag⟩ := of_decide_eq_true counted
    obtain ⟨sequence, atK⟩ := sent removal memRemoved
    refine List.mem_map.mpr ⟨(_, removal.1.attempt), List.mem_filter.mpr
      ⟨mem_dfProbes.mpr ⟨atK, isDf, named⟩, decide_eq_true ?_⟩, rfl⟩
    exact ⟨removal, memRemoved, rfl, flag⟩

/-- The probes that count as sent are at most those without a local error. -/
theorem validSent_lt_of_localError (valid : input.ValidFrame)
    (initial : initialPhase input first = .ok middle)
    (confirmed : confirmationPhase input middle = .ok last) (below : target < input.targets.length)
    {probe : Attempt × Nat} (mem : probe ∈ last.dfProbes target) (error : last.LocalError probe) :
    validSent (last.statsAt .df target) < minConfirmedDfProbes := by
  have lastReach : CycleReach input (Cycle.start input.targets.length first) last :=
    (initialPhase_reach initial).trans (confirmationPhase_reach confirmed)
  have conserved := CycleReach.conserved lastReach
  have sent := lastReach.removedSent
  have count := length_dfProbes_last valid initial confirmed below
  have once := countP_unansweredDfTargets_le valid initial below
  have counted := @countedReplies_le target last sent conserved.removed_nodup
  have balance := conserved.balance .df target
  rw [conserved.received_eq, lostProbes_eq_countP] at balance
  -- An answered probe is not lost, and the spoilt one is neither.
  have apart : ∀ entry ∈ last.dfProbes target, last.CountedReply entry →
      ¬ (Cycle.Offered entry ∧ entry.2 ∉ last.removedAttempts) := by
    intro entry _ counted lost
    obtain ⟨removal, memRemoved, number, -⟩ := counted
    exact lost.2 (List.mem_map.mpr ⟨removal, memRemoved, number⟩)
  have spoilt : ¬ last.CountedReply probe ∧
      ¬ (Cycle.Offered probe ∧ probe.2 ∉ last.removedAttempts) := by
    refine ⟨?_, ?_⟩
    · intro given
      rcases given with ⟨removal, memRemoved, number, flag⟩
      have outcome := (removal_of_answered sent memRemoved mem number).2.2
      rcases error with oversize | transient | ⟨other, memOther, otherNumber, otherFlag⟩
      · rw [oversize] at outcome
        cases outcome
      · rw [transient] at outcome
        cases outcome
      · have same := List.inj_on_of_nodup_map conserved.removed_nodup memRemoved memOther
          (number.trans otherNumber.symm)
        rw [same, otherFlag] at flag
        cases flag
    · intro given
      rcases given with ⟨offered, fresh⟩
      rcases error with oversize | transient | ⟨other, memOther, otherNumber, -⟩
      · rcases offered with sent | path
        · rw [oversize] at sent
          cases sent
        · rw [oversize] at path
          cases path
      · rcases offered with sent | path
        · rw [transient] at sent
          cases sent
        · rw [transient] at path
          cases path
      · exact fresh (List.mem_map.mpr ⟨other, memOther, otherNumber⟩)
  have both : (last.dfProbes target).countP (fun entry => last.CountedReply entry) +
      (last.dfProbes target).countP (fun entry =>
        Cycle.Offered entry ∧ entry.2 ∉ last.removedAttempts) <
      (last.dfProbes target).length := by
    rw [Counting.countP_add_countP, List.countP_lt_length_iff]
    · exact ⟨probe, mem, by simp [spoilt.1, decide_eq_false spoilt.2]⟩
    · intro entry memEntry counted
      exact decide_eq_false (apart entry memEntry (of_decide_eq_true counted))
  have sixteen : minConfirmedDfProbes = 1 + dfConfirmationProbes * 1 := rfl
  have few := Nat.mul_le_mul_left dfConfirmationProbes once
  rw [validSent]
  omega

end Confirmation

/-! ## The rows of a cycle -/

theorem sampleInput_validFrame : sampleInput.ValidFrame where
  queue := sampleInput_validQueue
  df_once := by decide +kernel
  queue_length := by decide

end NetOpsBench
