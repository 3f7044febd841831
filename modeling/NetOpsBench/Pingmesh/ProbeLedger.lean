import Mathlib.Data.List.GetD
import Mathlib.Data.List.Nodup
import NetOpsBench.Pingmesh.ProbeCycle

/-!
# The ledger of a probe cycle

`Cycle.Conserved` is the invariant of a cycle: the counters of a target balance with
its attempts, every pending item belongs to a send of this cycle, and no item is taken
out of the pending map twice. One lemma says what a send does (`sendProbe_inv`) and
one what a datagram does (`receive_inv`); both keep the invariant.
-/

namespace NetOpsBench

open Fallible

/-! ## The header -/

/-- A packet with the magic number and the version is decoded by its two words. -/
theorem decodeHeader_layout {magic sequence processing tail : List UInt8}
    (magicEq : BigEndian.decode magic = probeMagic.toNat) (magicLength : magic.length = 4)
    (sequenceLength : sequence.length = 8) (processingLength : processing.length = 8) :
    decodeHeader (magic ++ [probeVersion, 0, 0, 0] ++ sequence ++ processing ++ tail) =
      some (UInt64.ofNat (BigEndian.decode sequence), UInt64.ofNat (BigEndian.decode processing)) := by
  have long : ¬ (magic ++ [probeVersion, 0, 0, 0] ++ sequence ++ processing ++ tail).length < 24 := by
    simp only [List.length_append, List.length_cons, List.length_nil]
    omega
  have first : (magic ++ [probeVersion, 0, 0, 0] ++ sequence ++ processing ++ tail).take 4 =
      magic := by
    simp only [List.append_assoc]
    exact List.take_left' magicLength
  have version : (magic ++ [probeVersion, 0, 0, 0] ++ sequence ++ processing ++ tail)[4]? =
      some probeVersion := by
    simp only [List.append_assoc]
    rw [List.getElem?_append_right (by omega), magicLength]
    rfl
  have second : (magic ++ [probeVersion, 0, 0, 0] ++ sequence ++ processing ++ tail).drop 8 =
      sequence ++ (processing ++ tail) := by
    rw [List.append_assoc _ processing, List.append_assoc _ sequence]
    exact List.drop_left' (by simp [magicLength])
  have third : (magic ++ [probeVersion, 0, 0, 0] ++ sequence ++ processing ++ tail).drop 16 =
      processing ++ tail := by
    rw [List.append_assoc _ processing]
    exact List.drop_left' (by simp [magicLength, sequenceLength])
  rw [decodeHeader, headerSize, first, version, second, third, List.take_left' sequenceLength,
    List.take_left' processingLength, magicEq, if_neg]
  simpa using long

/-- What a header was encoded with is read back from it. -/
theorem decodeHeader_encodeHeader {buffer encoded : List UInt8} {sequence processingNs : UInt64}
    (done : encodeHeader buffer sequence processingNs = .ok encoded) :
    decodeHeader encoded = some (sequence, processingNs) := by
  simp only [encodeHeader, bind_eq_ok, reject_eq_ok, pure_eq_ok] at done
  obtain ⟨_, -, rfl⟩ := done
  rw [decodeHeader_layout (by decide +kernel) (by simp) (by simp) (by simp),
    BigEndian.decode_encode sequence.toNat_lt, BigEndian.decode_encode processingNs.toNat_lt]
  simp

/-! ## What the record says -/

/-- A list without duplicates loses one count when one of its counted entries is left out. -/
theorem countP_without {α : Type} [DecidableEq α] {xs : List α} (nodup : xs.Nodup) {x : α}
    (mem : x ∈ xs) {p : α → Bool} (counted : p x = true) :
    xs.countP p = xs.countP (fun y => p y && decide (y ≠ x)) + 1 := by
  have split := List.perm_cons_erase mem
  rw [split.countP_eq p, split.countP_eq fun y => p y && decide (y ≠ x),
    List.countP_cons_of_pos counted, List.countP_cons_of_neg (by simp)]
  congr 1
  apply List.countP_congr
  intro y memErase
  have ne : y ≠ x := fun eq => (List.Nodup.not_mem_erase nodup) (eq ▸ memErase)
  simp [ne]

namespace Cycle

variable (cycle : Cycle) (kind : ProbeKind) (target : Nat)

/-- The attempts whose pending item was taken out. -/
def removedAttempts : List Nat := cycle.removed.map fun entry => entry.1.attempt

/-- The replies that counted for a target. -/
def countedReplies : Nat :=
  cycle.removed.countP fun entry =>
    entry.1.kind = kind ∧ entry.1.targetIndex = target ∧ entry.2 = true

/-- The probes of a target that the agent itself invalidated: too big for the local
interface, or answered without a kernel timestamp. -/
def invalidProbes : Nat :=
  (cycle.attempts.countP fun attempt =>
    attempt.kind = kind ∧ attempt.targetIndex = target ∧ attempt.outcome = .oversize) +
  cycle.removed.countP fun entry =>
    entry.1.kind = kind ∧ entry.1.targetIndex = target ∧ entry.2 = false

/-- An attempt that was handed to the network and has not been invalidated since. -/
def ValidlySent (entry : Attempt × Nat) : Prop :=
  (entry.1.outcome = .sent ∨ entry.1.outcome = .pathError) ∧
    ¬ ∃ removal ∈ cycle.removed, removal.1.attempt = entry.2 ∧ removal.2 = false

instance (entry : Attempt × Nat) : Decidable (cycle.ValidlySent entry) :=
  inferInstanceAs (Decidable (_ ∧ ¬ ∃ removal ∈ cycle.removed, _))

/-- An attempt whose reply counted. -/
def CountedReply (entry : Attempt × Nat) : Prop :=
  ∃ removal ∈ cycle.removed, removal.1.attempt = entry.2 ∧ removal.2 = true

instance (entry : Attempt × Nat) : Decidable (cycle.CountedReply entry) :=
  inferInstanceAs (Decidable (∃ removal ∈ cycle.removed, _))

/-- The validly sent probes of a target without a counted reply. -/
def lostProbes : Nat :=
  cycle.attempts.zipIdx.countP fun entry =>
    entry.1.kind = kind ∧ entry.1.targetIndex = target ∧ cycle.ValidlySent entry ∧
      ¬ cycle.CountedReply entry

theorem lostProbes_eq : cycle.lostProbes kind target =
    cycle.attempts.zipIdx.countP fun entry =>
      entry.1.kind = kind ∧ entry.1.targetIndex = target ∧
        (entry.1.outcome = .sent ∨ entry.1.outcome = .pathError) ∧
        entry.2 ∉ cycle.removedAttempts := by
  apply List.countP_congr
  intro entry _
  have both : (¬ ∃ removal ∈ cycle.removed, removal.1.attempt = entry.2 ∧ removal.2 = false) ∧
      ¬ cycle.CountedReply entry ↔ entry.2 ∉ cycle.removedAttempts := by
    simp only [CountedReply, removedAttempts, List.mem_map, not_exists, not_and]
    constructor
    · rintro ⟨untimed, counted⟩ removal mem eq
      rcases flag : removal.2 with _ | _
      · exact untimed removal mem eq flag
      · exact counted removal mem eq flag
    · intro absent
      exact ⟨fun removal mem eq => (absent removal mem eq).elim,
        fun removal mem eq => (absent removal mem eq).elim⟩
  simp only [ValidlySent, decide_eq_true_eq, ← both, and_assoc]

/-! ## The two operations, once for all cases -/

@[simp] theorem statsAt_modifyStats (cycle : Cycle) (kind kind' : ProbeKind) {target target' : Nat}
    (f : ProbeStats → ProbeStats) (below : target < (cycle.stats kind).length) :
    (cycle.modifyStats kind target f).statsAt kind' target' =
      if kind' = kind ∧ target' = target then f (cycle.statsAt kind' target')
      else cycle.statsAt kind' target' := by
  have modified : ∀ stats : List ProbeStats, target < stats.length →
      (stats.modify target f).getD target' {} =
        if target' = target then f (stats.getD target' {}) else stats.getD target' {} := by
    intro stats below
    by_cases same : target' = target
    · subst same
      simp [List.getD_eq_getElem?_getD, below]
    · simp [List.getD_eq_getElem?_getD, same, Ne.symm same]
  cases kind <;> cases kind' <;>
    simp only [statsAt, stats, modifyStats, reduceCtorEq, false_and, true_and, if_false]
  · exact modified _ below
  · exact modified _ below

@[simp] theorem length_stats_modifyStats (cycle : Cycle) (kind kind' : ProbeKind) (target : Nat)
    (f : ProbeStats → ProbeStats) :
    ((cycle.modifyStats kind target f).stats kind').length = (cycle.stats kind').length := by
  cases kind <;> cases kind' <;> simp [stats, modifyStats]

@[simp] theorem attempts_modifyStats (cycle : Cycle) (kind : ProbeKind) (target : Nat)
    (f : ProbeStats → ProbeStats) :
    (cycle.modifyStats kind target f).attempts = cycle.attempts := by cases kind <;> rfl

@[simp] theorem removed_modifyStats (cycle : Cycle) (kind : ProbeKind) (target : Nat)
    (f : ProbeStats → ProbeStats) :
    (cycle.modifyStats kind target f).removed = cycle.removed := by cases kind <;> rfl

@[simp] theorem pending_modifyStats (cycle : Cycle) (kind : ProbeKind) (target : Nat)
    (f : ProbeStats → ProbeStats) :
    (cycle.modifyStats kind target f).pending = cycle.pending := by cases kind <;> rfl

@[simp] theorem sequence_modifyStats (cycle : Cycle) (kind : ProbeKind) (target : Nat)
    (f : ProbeStats → ProbeStats) :
    (cycle.modifyStats kind target f).sequence = cycle.sequence := by cases kind <;> rfl

end Cycle

/-- The counters of a target after a send. -/
def ProbeStats.afterSend (stats : ProbeStats) : SendOutcome → ProbeStats
  | .sent | .pathError => { stats with sent := stats.sent + 1 }
  | .oversize =>
      { stats with
        sent := stats.sent + 1
        mtuDrops := stats.mtuDrops + 1
        invalidSent := stats.invalidSent + 1
        localErrors := stats.localErrors + 1 }
  | .transient => { stats with localErrors := stats.localErrors + 1 }

/-- The cycle after a send; only a sent probe becomes pending. -/
def Cycle.afterSend (cycle : Cycle) (kind : ProbeKind) (target socket sentNs : Nat)
    (outcome : SendOutcome) : Cycle :=
  let counted := cycle.modifyStats kind target fun stats => stats.afterSend outcome
  let registered :=
    if outcome = .sent then
      counted.insertPending cycle.sequence ⟨kind, target, socket, sentNs, cycle.attempts.length⟩
    else counted
  registered.finishSend kind target socket outcome

/-- The outcome that `send_probe` makes of an answer of the kernel; none is fatal. -/
def sendOutcome : Except Errno Nat → Option SendOutcome
  | .ok _ => some .sent
  | .error code =>
      if code = .emsgsize then some .oversize
      else if code.isTransientLocalSendError then some .transient
      else if code.isPathSendError then some .pathError
      else none

theorem settleSend_eq (cycle : Cycle) (kind : ProbeKind) (target socket : Nat)
    (answer : Except Errno Nat) :
    cycle.settleSend kind target socket answer =
      match sendOutcome answer with
      | some outcome =>
          .ok (cycle.afterSend kind target socket (answer.toOption.getD 0) outcome)
      | none => .error "send Pingmesh probe" := by
  rcases answer with code | sentNs
  · simp only [Cycle.settleSend, sendOutcome]
    split
    · rfl
    · split
      · rfl
      · split <;> rfl
  · rfl

/-- A send in range does what the kernel's answer says. -/
theorem sendProbe_eq {input : CycleInput} {target socket : Nat} (cycle : Cycle) (kind : ProbeKind)
    (inRange : target < input.targets.length) (socketInRange : socket < input.sockets) :
    ∃ payload, encodeHeader (List.replicate (payloadSize input.dfPayloadSize kind) 0)
        cycle.sequence 0 = .ok payload ∧
      sendProbe input kind target socket cycle = cycle.settleSend kind target socket
        (input.network.sendTo cycle.attempts.length socket input.targets[target].client.dataIp
          payload) := by
  have fits : ¬ (List.replicate (payloadSize input.dfPayloadSize kind) (0 : UInt8)).length <
      headerSize := by
    rw [List.length_replicate]
    unfold payloadSize
    omega
  have socketOk : ¬ input.sockets ≤ socket := by omega
  unfold sendProbe
  rw [List.getElem?_eq_getElem inRange]
  simp only [reject, if_neg socketOk, encodeHeader, if_neg fits, ok_bind]
  exact ⟨_, rfl, rfl⟩

theorem sendProbe_inv {input : CycleInput} {kind : ProbeKind} {target socket : Nat}
    {cycle next : Cycle} (done : sendProbe input kind target socket cycle = .ok next) :
    target < input.targets.length ∧ socket < input.sockets ∧
      ∃ sentNs outcome, next = cycle.afterSend kind target socket sentNs outcome := by
  have inRange : target < input.targets.length := by
    by_contra above
    unfold sendProbe at done
    rw [List.getElem?_eq_none (Nat.le_of_not_lt above)] at done
    cases done
  have socketInRange : socket < input.sockets := by
    by_contra above
    unfold sendProbe at done
    rw [List.getElem?_eq_getElem inRange] at done
    simp only [bind_eq_ok, reject_eq_ok] at done
    obtain ⟨_, below, _⟩ := done
    omega
  obtain ⟨payload, -, eq⟩ := sendProbe_eq cycle kind inRange socketInRange
  rw [eq, settleSend_eq] at done
  split at done
  · rename_i outcome _
    exact ⟨inRange, socketInRange, _, outcome, (Except.ok.inj done).symm⟩
  · cases done

/-- The counters of a target after a reply to one of its pending probes. -/
def ProbeStats.AfterReply (counted : Bool) (before after : ProbeStats) : Prop :=
  after.sent = before.sent ∧
    after.received = before.received + (if counted then 1 else 0) ∧
    after.invalidSent = before.invalidSent + (if counted then 0 else 1)

/-- A datagram either changes nothing or takes one pending item out. -/
theorem receive_inv (cycle : Cycle) (packet : Datagram) :
    cycle.receive packet = cycle ∨
      ∃ sequence item counted f, (sequence, item) ∈ cycle.pending ∧
        (decodeHeader packet.bytes).map Prod.fst = some sequence ∧
        (∀ stats, ProbeStats.AfterReply counted stats (f stats)) ∧
        cycle.receive packet =
          (cycle.removePending sequence item counted).modifyStats item.kind item.targetIndex f := by
  unfold Cycle.receive
  split
  · exact .inl rfl
  · rename_i sequence processing decoded
    split
    · exact .inl rfl
    · rename_i item found
      obtain ⟨before, after, split, -⟩ := List.lookup_eq_some_iff.mp found
      have mem : (sequence, item) ∈ cycle.pending := by simp [split]
      split
      · refine .inr ⟨sequence, item, false, _, mem, by simp [decoded], ?_, rfl⟩
        exact fun _ => ⟨rfl, rfl, rfl⟩
      · refine .inr ⟨sequence, item, true, _, mem, by simp [decoded], ?_, rfl⟩
        exact fun _ => ⟨rfl, rfl, rfl⟩

/-! ## The invariant -/

/-- The invariant of a cycle with so many targets and sockets. -/
structure Cycle.Conserved (input : CycleInput) (cycle : Cycle) : Prop where
  stats_length : ∀ kind, (cycle.stats kind).length = input.targets.length
  in_range : ∀ attempt ∈ cycle.attempts,
    attempt.targetIndex < input.targets.length ∧ attempt.socketIndex < input.sockets
  pending_sent : ∀ sequence item, (sequence, item) ∈ cycle.pending →
    cycle.attempts[item.attempt]? =
      some ⟨item.kind, item.targetIndex, item.socketIndex, sequence, .sent⟩
  pending_fresh : ∀ entry ∈ cycle.pending, entry.2.attempt ∉ cycle.removedAttempts
  removed_lt : ∀ i ∈ cycle.removedAttempts, i < cycle.attempts.length
  removed_nodup : cycle.removedAttempts.Nodup
  received_eq : ∀ kind target,
    (cycle.statsAt kind target).received = cycle.countedReplies kind target
  invalid_eq : ∀ kind target,
    (cycle.statsAt kind target).invalidSent = cycle.invalidProbes kind target
  balance : ∀ kind target, (cycle.statsAt kind target).sent =
    (cycle.statsAt kind target).invalidSent + (cycle.statsAt kind target).received +
      cycle.lostProbes kind target

namespace Cycle.Conserved

variable {input : CycleInput} {cycle : Cycle}

theorem start (sequence : UInt64) :
    (Cycle.start input.targets.length sequence).Conserved input where
  stats_length kind := by cases kind <;> exact List.length_replicate
  in_range _ mem := by cases mem
  pending_sent _ _ mem := by cases mem
  pending_fresh _ mem := by cases mem
  removed_lt _ mem := by cases mem
  removed_nodup := List.nodup_nil
  received_eq kind target := by
    cases kind <;> simp [Cycle.statsAt, Cycle.stats, Cycle.start, Cycle.countedReplies]
  invalid_eq kind target := by
    cases kind <;> simp [Cycle.statsAt, Cycle.stats, Cycle.start, Cycle.invalidProbes]
  balance kind target := by
    cases kind <;> simp [Cycle.statsAt, Cycle.stats, Cycle.start, Cycle.lostProbes]

section Send

variable {kind : ProbeKind} {target socket sentNs : Nat} {outcome : SendOutcome}

@[simp] theorem attempts_afterSend :
    (cycle.afterSend kind target socket sentNs outcome).attempts =
      cycle.attempts ++ [⟨kind, target, socket, cycle.sequence, outcome⟩] := by
  unfold Cycle.afterSend
  split <;> simp [Cycle.finishSend, Cycle.insertPending]

@[simp] theorem removed_afterSend :
    (cycle.afterSend kind target socket sentNs outcome).removed = cycle.removed := by
  unfold Cycle.afterSend
  split <;> simp [Cycle.finishSend, Cycle.insertPending]

@[simp] theorem stats_afterSend (kind' : ProbeKind) :
    (cycle.afterSend kind target socket sentNs outcome).stats kind' =
      (cycle.modifyStats kind target fun stats => stats.afterSend outcome).stats kind' := by
  unfold Cycle.afterSend
  split <;> cases kind' <;> rfl

theorem statsAt_afterSend (below : target < (cycle.stats kind).length) (kind' : ProbeKind)
    (target' : Nat) :
    (cycle.afterSend kind target socket sentNs outcome).statsAt kind' target' =
      if kind' = kind ∧ target' = target then (cycle.statsAt kind' target').afterSend outcome
      else cycle.statsAt kind' target' := by
  rw [Cycle.statsAt, stats_afterSend]
  exact Cycle.statsAt_modifyStats cycle kind kind' _ below

/-- Only the sent probe of this send is a new pending item. -/
theorem mem_pending_afterSend {sequence : UInt64} {item : Pending}
    (mem : (sequence, item) ∈ (cycle.afterSend kind target socket sentNs outcome).pending) :
    (sequence, item) ∈ cycle.pending ∨
      (outcome = .sent ∧ sequence = cycle.sequence ∧
        item = ⟨kind, target, socket, sentNs, cycle.attempts.length⟩) := by
  unfold Cycle.afterSend at mem
  split at mem
  · rename_i sent
    simp only [Cycle.finishSend, Cycle.insertPending, Cycle.pending_modifyStats, List.mem_cons,
      Prod.mk.injEq, List.mem_filter] at mem
    rcases mem with ⟨rfl, rfl⟩ | ⟨old, -⟩
    · exact .inr ⟨sent, rfl, rfl⟩
    · exact .inl old
  · simp only [Cycle.finishSend, Cycle.pending_modifyStats] at mem
    exact .inl mem

theorem lostProbes_afterSend (conserved : cycle.Conserved input) (kind' : ProbeKind)
    (target' : Nat) :
    (cycle.afterSend kind target socket sentNs outcome).lostProbes kind' target' =
      cycle.lostProbes kind' target' +
        if kind' = kind ∧ target' = target ∧ (outcome = .sent ∨ outcome = .pathError) then 1
        else 0 := by
  have fresh : cycle.attempts.length ∉ cycle.removedAttempts := fun mem =>
    Nat.lt_irrefl _ (conserved.removed_lt _ mem)
  have removed : (cycle.afterSend kind target socket sentNs outcome).removedAttempts =
      cycle.removedAttempts := by simp [Cycle.removedAttempts]
  simp only [Cycle.lostProbes_eq, attempts_afterSend, removed, List.zipIdx_append,
    List.countP_append, List.zipIdx_singleton, List.countP_singleton, Nat.zero_add, fresh,
    not_false_eq_true, and_true, decide_eq_true_eq]
  congr 2
  exact propext ⟨fun ⟨k, t, o⟩ => ⟨k.symm, t.symm, o⟩, fun ⟨k, t, o⟩ => ⟨k.symm, t.symm, o⟩⟩

theorem invalidProbes_afterSend (kind' : ProbeKind) (target' : Nat) :
    (cycle.afterSend kind target socket sentNs outcome).invalidProbes kind' target' =
      cycle.invalidProbes kind' target' +
        if kind' = kind ∧ target' = target ∧ outcome = .oversize then 1 else 0 := by
  simp only [Cycle.invalidProbes, attempts_afterSend, removed_afterSend, List.countP_append,
    List.countP_singleton, decide_eq_true_eq]
  rw [Nat.add_right_comm]
  congr 2
  exact propext ⟨fun ⟨k, t, o⟩ => ⟨k.symm, t.symm, o⟩, fun ⟨k, t, o⟩ => ⟨k.symm, t.symm, o⟩⟩

/-- A send in range keeps the balance, whatever becomes of it. -/
theorem afterSend (conserved : cycle.Conserved input) (inRange : target < input.targets.length)
    (socketInRange : socket < input.sockets) :
    (cycle.afterSend kind target socket sentNs outcome).Conserved input := by
  have below : target < (cycle.stats kind).length := conserved.stats_length kind ▸ inRange
  have removed : (cycle.afterSend kind target socket sentNs outcome).removedAttempts =
      cycle.removedAttempts := by simp [Cycle.removedAttempts]
  refine ⟨?_, ?_, ?_, ?_, ?_, ?_, ?_, ?_, ?_⟩
  · intro kind'
    rw [stats_afterSend, Cycle.length_stats_modifyStats, conserved.stats_length]
  · intro attempt mem
    rw [attempts_afterSend, List.mem_append, List.mem_singleton] at mem
    rcases mem with old | rfl
    · exact conserved.in_range attempt old
    · exact ⟨inRange, socketInRange⟩
  · intro sequence item mem
    rw [attempts_afterSend]
    rcases mem_pending_afterSend mem with old | ⟨rfl, rfl, rfl⟩
    · have sent := conserved.pending_sent sequence item old
      rw [List.getElem?_append_left (List.getElem?_eq_some_iff.mp sent).1, sent]
    · simp
  · rintro ⟨sequence, item⟩ mem
    rw [removed]
    rcases mem_pending_afterSend mem with old | ⟨rfl, rfl, rfl⟩
    · exact conserved.pending_fresh _ old
    · exact fun mem => Nat.lt_irrefl _ (conserved.removed_lt _ mem)
  · intro i mem
    rw [removed] at mem
    have := conserved.removed_lt i mem
    simp only [attempts_afterSend, List.length_append, List.length_singleton]
    omega
  · rw [removed]
    exact conserved.removed_nodup
  · intro kind' target'
    rw [statsAt_afterSend below, Cycle.countedReplies, removed_afterSend]
    have same := conserved.received_eq kind' target'
    split
    · cases outcome <;> exact same
    · exact same
  · intro kind' target'
    rw [statsAt_afterSend below, invalidProbes_afterSend, ← conserved.invalid_eq]
    by_cases here : kind' = kind ∧ target' = target
    · cases outcome <;> simp [here, ProbeStats.afterSend]
    · rw [if_neg here, if_neg fun all => here ⟨all.1, all.2.1⟩, Nat.add_zero]
  · intro kind' target'
    have balance := conserved.balance kind' target'
    rw [statsAt_afterSend below, conserved.lostProbes_afterSend]
    by_cases here : kind' = kind ∧ target' = target
    · cases outcome <;> simp only [here, ProbeStats.afterSend] at balance ⊢ <;> simp <;> omega
    · rw [if_neg here, if_neg fun all => here ⟨all.1, all.2.1⟩, Nat.add_zero]
      exact balance

end Send

section Receive

variable {sequence : UInt64} {item : Pending}

/-- The one loss that a reply repairs is that of its own probe. -/
theorem lostProbes_removePending (conserved : cycle.Conserved input)
    (mem : (sequence, item) ∈ cycle.pending) (counted : Bool) (kind : ProbeKind) (target : Nat) :
    cycle.lostProbes kind target =
      (cycle.removePending sequence item counted).lostProbes kind target +
        if kind = item.kind ∧ target = item.targetIndex then 1 else 0 := by
  have sent := conserved.pending_sent sequence item mem
  have fresh := conserved.pending_fresh _ mem
  have removed : (cycle.removePending sequence item counted).removedAttempts =
      cycle.removedAttempts ++ [item.attempt] := by
    simp [Cycle.removedAttempts, Cycle.removePending]
  have indexed := List.mk_mem_zipIdx_iff_getElem?.mpr sent
  have nodup : cycle.attempts.zipIdx.Nodup := by
    apply List.Nodup.of_map Prod.snd
    rw [List.zipIdx_map_snd]
    exact List.nodup_range'
  rw [Cycle.lostProbes_eq, Cycle.lostProbes_eq, removed]
  simp only [List.mem_append, List.mem_singleton, not_or]
  by_cases here : kind = item.kind ∧ target = item.targetIndex
  · obtain ⟨rfl, rfl⟩ := here
    rw [countP_without nodup indexed (by simpa using fresh), if_pos ⟨rfl, rfl⟩]
    congr 1
    apply List.countP_congr
    rintro ⟨attempt, i⟩ memEntry
    -- An entry is this probe exactly when it has its number.
    have sameEntry : (attempt, i) ≠ (⟨item.kind, item.targetIndex, item.socketIndex, sequence,
        .sent⟩, item.attempt) ↔ i ≠ item.attempt := by
      refine not_congr ⟨fun eq => (Prod.mk.inj eq).2, ?_⟩
      rintro rfl
      have here := List.mk_mem_zipIdx_iff_getElem?.mp memEntry
      rw [Option.some.inj (here.symm.trans sent)]
    simp only [Bool.and_eq_true, decide_eq_true_eq, sameEntry]
    tauto
  · rw [if_neg here, Nat.add_zero]
    apply List.countP_congr
    rintro ⟨attempt, i⟩ memEntry
    simp only [decide_eq_true_eq]
    constructor
    · rintro ⟨rfl, rfl, out, absent⟩
      refine ⟨rfl, rfl, out, absent, ?_⟩
      rintro rfl
      have same := Option.some.inj ((List.mk_mem_zipIdx_iff_getElem?.mp memEntry).symm.trans sent)
      exact here (by simp [same])
    · rintro ⟨k, t, out, absent, -⟩
      exact ⟨k, t, out, absent⟩

variable {counted : Bool} {f : ProbeStats → ProbeStats}

/-- A reply keeps the balance: its probe is no longer lost but received or invalid. -/
theorem removePending (conserved : cycle.Conserved input) (mem : (sequence, item) ∈ cycle.pending)
    (after : ∀ stats, ProbeStats.AfterReply counted stats (f stats)) :
    ((cycle.removePending sequence item counted).modifyStats item.kind item.targetIndex f).Conserved
      input := by
  have sent := conserved.pending_sent sequence item mem
  have fresh := conserved.pending_fresh _ mem
  have inRange := (conserved.in_range _ (List.mem_of_getElem? sent)).1
  have below : item.targetIndex <
      ((cycle.removePending sequence item counted).stats item.kind).length := by
    rw [show (cycle.removePending sequence item counted).stats item.kind = cycle.stats item.kind by
      cases item.kind <;> rfl, conserved.stats_length]
    exact inRange
  have removed : ((cycle.removePending sequence item counted).modifyStats item.kind
      item.targetIndex f).removedAttempts = cycle.removedAttempts ++ [item.attempt] := by
    simp [Cycle.removedAttempts, Cycle.removePending]
  have statsAt : ∀ kind target, (cycle.removePending sequence item counted).statsAt kind target =
      cycle.statsAt kind target := by
    intro kind target
    cases kind <;> rfl
  have others : ∀ sequence' item', (sequence', item') ∈
      ((cycle.removePending sequence item counted).modifyStats item.kind item.targetIndex
        f).pending → (sequence', item') ∈ cycle.pending ∧ sequence' ≠ sequence := by
    intro sequence' item' mem'
    simpa [Cycle.removePending] using mem'
  refine ⟨?_, ?_, ?_, ?_, ?_, ?_, ?_, ?_, ?_⟩
  · intro kind
    rw [Cycle.length_stats_modifyStats, ← conserved.stats_length kind]
    cases kind <;> rfl
  · intro attempt memAttempt
    rw [Cycle.attempts_modifyStats] at memAttempt
    exact conserved.in_range attempt memAttempt
  · intro sequence' item' mem'
    rw [Cycle.attempts_modifyStats]
    exact conserved.pending_sent sequence' item' (others _ _ mem').1
  · rintro ⟨sequence', item'⟩ mem'
    obtain ⟨old, ne⟩ := others _ _ mem'
    rw [removed, List.mem_append, List.mem_singleton, not_or]
    refine ⟨conserved.pending_fresh _ old, ?_⟩
    -- A send has one sequence number.
    intro same
    have sent' := conserved.pending_sent sequence' item' old
    simp only at same
    rw [same] at sent'
    have := Option.some.inj (sent'.symm.trans sent)
    simp only [Attempt.mk.injEq] at this
    exact ne this.2.2.2.1
  · intro i memI
    rw [removed, List.mem_append, List.mem_singleton] at memI
    rw [Cycle.attempts_modifyStats]
    rcases memI with old | rfl
    · exact conserved.removed_lt i old
    · exact (List.getElem?_eq_some_iff.mp sent).1
  · rw [removed, List.nodup_append']
    refine ⟨conserved.removed_nodup, List.nodup_singleton _, ?_⟩
    simpa using fresh
  · intro kind target
    rw [Cycle.statsAt_modifyStats _ _ _ _ below, statsAt, Cycle.countedReplies,
      Cycle.removed_modifyStats]
    simp only [Cycle.removePending, List.countP_append, List.countP_singleton, decide_eq_true_eq]
    rw [← Cycle.countedReplies, ← conserved.received_eq]
    by_cases here : kind = item.kind ∧ target = item.targetIndex
    · obtain ⟨rfl, rfl⟩ := here
      simp [(after _).2.1]
    · rw [if_neg here, if_neg fun all => here ⟨all.1.symm, all.2.1.symm⟩, Nat.add_zero]
  · intro kind target
    rw [Cycle.statsAt_modifyStats _ _ _ _ below, statsAt, Cycle.invalidProbes,
      Cycle.removed_modifyStats, Cycle.attempts_modifyStats]
    simp only [Cycle.removePending, List.countP_append, List.countP_singleton, decide_eq_true_eq]
    rw [← Nat.add_assoc, ← Cycle.invalidProbes, ← conserved.invalid_eq]
    by_cases here : kind = item.kind ∧ target = item.targetIndex
    · obtain ⟨rfl, rfl⟩ := here
      cases counted <;> simp [(after _).2.2]
    · rw [if_neg here, if_neg fun all => here ⟨all.1.symm, all.2.1.symm⟩, Nat.add_zero]
  · intro kind target
    have balance := conserved.balance kind target
    rw [conserved.lostProbes_removePending mem counted kind target] at balance
    have lost : ((cycle.removePending sequence item counted).modifyStats item.kind item.targetIndex
        f).lostProbes kind target =
        (cycle.removePending sequence item counted).lostProbes kind target := by
      simp only [Cycle.lostProbes_eq, Cycle.removedAttempts, Cycle.attempts_modifyStats,
        Cycle.removed_modifyStats]
      rfl
    rw [Cycle.statsAt_modifyStats _ _ _ _ below, statsAt, lost]
    by_cases here : kind = item.kind ∧ target = item.targetIndex
    · rw [if_pos here] at balance ⊢
      obtain ⟨sentEq, receivedEq, invalidEq⟩ := after (cycle.statsAt kind target)
      rw [sentEq, receivedEq, invalidEq]
      cases counted <;> simp <;> omega
    · rw [if_neg here] at balance ⊢
      omega

theorem receive (conserved : cycle.Conserved input) (packet : Datagram) :
    (cycle.receive packet).Conserved input := by
  rcases receive_inv cycle packet with same | ⟨sequence, item, counted, f, mem, -, after, eq⟩
  · rwa [same]
  · rw [eq]
    exact conserved.removePending mem after

end Receive

end Cycle.Conserved

end NetOpsBench
