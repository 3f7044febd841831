import NetOpsBench.Pingmesh.Expectations
import NetOpsBench.Pingmesh.IngestionFrames

/-!
# Soundness of the ingestion audit

A window that the audit calls ready is closed (`WindowClosed`): the progress log of every
client reaches over both boundaries, has exactly the planned targets in every cycle from
the last one before the window to the first one after it, and the snapshot holds the
records that the log has inside the window, no more and no less. The cycles of a source
grow with its times, so a record inside the window lies between the boundary cycles.
-/

namespace NetOpsBench

open Fallible

/-- A relation between neighbours of a list, when transitive, holds along it. -/
theorem pairwise_of_consecutive {α : Type} {R : α → α → Prop} [IsTrans α R] {xs : List α}
    (consecutive : ∀ pair ∈ xs.zip xs.tail, R pair.1 pair.2) : xs.Pairwise R := by
  rw [← List.isChain_iff_pairwise]
  induction xs with
  | nil => exact .nil
  | cons x xs ih =>
      cases xs with
      | nil => exact .singleton x
      | cons y ys =>
          refine .cons_cons (consecutive (x, y) (by simp)) (ih ?_)
          intro pair mem
          exact consecutive pair (List.mem_cons_of_mem _ mem)

namespace Detector

variable {d : Detector} {lib : PyLibrary}

/-- The progress log has a complete row of these coordinates at a time. -/
def Observed (lib : PyLibrary) (rows : List Row) (source : String) (cycle : Nat)
    (destination : String) (time : Int) : Prop :=
  ∃ row ∈ rows, row.complete progressFields = true ∧
    ∃ timestamp, row.key = .ok (source, cycle, destination, timestamp) ∧
      lib.time timestamp = .ok time

/-- The closed window, for one client: the greatest cycle before it, the least after it, and
the planned targets in all of them. -/
structure SourceClosed (d : Detector) (lib : PyLibrary) (progress : List Row) (start stop : Int)
    (source : String) (left right : Nat) : Prop where
  preceding : ∃ destination time, time < start ∧ Observed lib progress source left destination time
  greatest : ∀ cycle destination time, Observed lib progress source cycle destination time →
    time < start → cycle ≤ left
  following : ∃ destination time, stop ≤ time ∧ Observed lib progress source right destination time
  least : ∀ cycle destination time, Observed lib progress source cycle destination time →
    stop ≤ time → right ≤ cycle
  complete : ∀ cycle, left ≤ cycle → cycle ≤ right →
    ∃ client frame, d.plan.FrameAt source cycle client frame ∧
      ∀ destination, (∃ time, Observed lib progress source cycle destination time) ↔
        destination ∈ frameTargets client frame
  between : ∀ cycle destination time, Observed lib progress source cycle destination time →
    start ≤ time → time < stop → left ≤ cycle ∧ cycle ≤ right

/-- The closed window, for all clients and with the records of the snapshot. -/
structure WindowClosed (d : Detector) (lib : PyLibrary) (progress snapshot : List Row)
    (start stop : Int) : Prop where
  sources : ∀ source ∈ d.clients, ∃ left right,
    SourceClosed d lib progress start stop source left right
  records : ∀ key : RecordKey, (∃ row ∈ snapshot, row.key = .ok key) ↔
    ∃ row ∈ progress, row.key = .ok key ∧
      ∃ time, lib.time key.2.2.2 = .ok time ∧ start ≤ time ∧ time < stop

/-! ## One source -/

section Source

variable {rows : List Row} {frames : Frames} {stamps : List Stamp} {start stop : Int}

/-- The rows of the audit's frames: the complete rows of the progress log. -/
def completeRows (rows : List Row) : List Row := rows.filter fun row => row.complete progressFields

theorem observed_iff (framesOf : FramesOf (completeRows rows) frames) {source destination : String}
    {cycle : Nat} {time : Int} :
    Observed lib rows source cycle destination time ↔
      ∃ row, (frames.targets source cycle).get destination = some row ∧ row.stamp lib = .ok time := by
  constructor
  · intro ⟨row, mem, complete, timestamp, key, timed⟩
    obtain ⟨kept, found, keptKey⟩ :=
      framesOf.complete (List.mem_filter.mpr ⟨mem, complete⟩) key
    exact ⟨kept, found, Row.stamp_eq_ok.mpr ⟨timestamp, (Row.key_eq_ok.mp keptKey).2.2.2, timed⟩⟩
  · intro ⟨row, found, stamped⟩
    obtain ⟨mem, timestamp, key⟩ := framesOf.sound found
    obtain ⟨text, textEq, timed⟩ := Row.stamp_eq_ok.mp stamped
    obtain rfl := Option.some.inj (textEq.symm.trans (Row.key_eq_ok.mp key).2.2.2)
    exact ⟨row, (List.mem_filter.mp mem).1, (List.mem_filter.mp mem).2, text, key, timed⟩

theorem mem_ordered_iff (framesOf : FramesOf (completeRows rows) frames)
    (stamped : frameStamps lib frames = .ok stamps) {source : String} {time : Int} {cycle : Nat} :
    (time, cycle) ∈ orderedStamps stamps source ↔
      ∃ destination, Observed lib rows source cycle destination time := by
  rw [mem_orderedStamps, mem_frameStamps stamped]
  simp only [observed_iff framesOf]

/-- Every row of a cycle has its key in the window exactly when its time is. -/
theorem mem_windowKey {row : Row} {keys : List RecordKey} {key : RecordKey}
    (done : windowKey lib start stop row = .ok keys) :
    key ∈ keys ↔ row.key = .ok key ∧ ∃ time, row.stamp lib = .ok time ∧ start ≤ time ∧ time < stop := by
  simp only [windowKey, inWindow, bind_eq_ok, pure_eq_ok] at done
  obtain ⟨inside, ⟨time, stamped, insideEq⟩, rest⟩ := done
  subst insideEq
  by_cases within : start ≤ time ∧ time < stop
  · rw [if_pos (decide_eq_true within), bind_eq_ok] at rest
    obtain ⟨own, ownEq, keysEq⟩ := rest
    rw [pure_eq_ok] at keysEq
    subst keysEq
    rw [List.mem_singleton, ownEq, Except.ok.injEq]
    exact ⟨fun eq => ⟨eq.symm, time, stamped, within⟩, fun both => both.1.symm⟩
  · rw [if_neg (by simpa using within), pure_eq_ok] at rest
    subst rest
    refine ⟨fun mem => (List.not_mem_nil mem).elim, ?_⟩
    intro inWindow
    obtain ⟨_, other, otherStamped, otherWithin⟩ := inWindow
    obtain rfl := Except.ok.inj (stamped.symm.trans otherStamped)
    exact (within otherWithin).elim

theorem sameSet_iff {α : Type} [DecidableEq α] {a b : List α} :
    sameSet a b = true ↔ ∀ x, x ∈ a ↔ x ∈ b := by
  rw [sameSet, decide_eq_true_eq]
  exact ⟨fun both x => ⟨fun mem => both.1 mem, fun mem => both.2 mem⟩,
    fun same => ⟨fun x mem => (same x).mp mem, fun x mem => (same x).mpr mem⟩⟩

/-- The findings of one cycle: nothing is pending when the targets are those expected, and
the expected records are the ones of its rows inside the window. -/
theorem auditCycle_inv {source : String} {cycle : Nat} {findings : Findings}
    (done : auditCycle d lib frames start stop source cycle = .ok findings) :
    ∃ expected, d.frameOf source cycle = some expected ∧
      (findings.pending = [] → ∀ destination, (∃ row,
        (frames.targets source cycle).get destination = some row) ↔ destination ∈ expected.names) ∧
      ∀ key, key ∈ findings.expectedRows ↔
        ∃ destination row, (frames.targets source cycle).get destination = some row ∧
          row.key = .ok key ∧ ∃ time, row.stamp lib = .ok time ∧ start ≤ time ∧ time < stop := by
  unfold auditCycle at done
  split at done
  · cases done
  · rename_i expected found
    simp only [bind_eq_ok, pure_eq_ok] at done
    obtain ⟨keys, keysDone, findingsEq⟩ := done
    subst findingsEq
    refine ⟨expected, found, ?_, ?_⟩
    · intro settled destination
      dsimp only at settled
      split at settled
      · rename_i same
        rw [← sameSet_iff.mp same destination, Dict.mem_keys]
      · cases settled
    · intro key
      simp only [List.mem_flatten, mem_of_mapM keysDone, Dict.mem_values]
      constructor
      · intro ⟨part, ⟨row, ⟨destination, got⟩, partDone⟩, mem⟩
        exact ⟨destination, row, got, (mem_windowKey partDone).mp mem⟩
      · intro ⟨destination, row, got, inside⟩
        obtain ⟨part, memPart, partDone⟩ := exists_of_mapM keysDone (Dict.mem_values.mpr ⟨_, got⟩)
        exact ⟨part, ⟨row, ⟨destination, got⟩, partDone⟩, (mem_windowKey partDone).mpr inside⟩

/-- Without an order conflict, a later time of a source has no smaller cycle. -/
theorem cycles_monotone {source : String}
    (noConflict : ¬ ((orderedStamps stamps source).zip (orderedStamps stamps source).tail).any
      (fun (before, after) => after.2 < before.2) = true)
    {a b : Int × Nat} (memA : a ∈ orderedStamps stamps source)
    (memB : b ∈ orderedStamps stamps source) (earlier : a.1 < b.1) : a.2 ≤ b.2 := by
  have trans : IsTrans (Int × Nat) fun a b => a.2 ≤ b.2 := ⟨fun _ _ _ => Nat.le_trans⟩
  have cycles : (orderedStamps stamps source).Pairwise fun a b => a.2 ≤ b.2 := by
    apply pairwise_of_consecutive
    intro pair mem
    by_contra above
    exact noConflict (List.any_eq_true.mpr ⟨pair, mem, by simpa using above⟩)
  have along := (orderedStamps_pairwise stamps source).and cycles
  have both : (orderedStamps stamps source).Pairwise fun a b =>
      (a.1 < b.1 → a.2 ≤ b.2) ∧ (b.1 < a.1 → b.2 ≤ a.2) := by
    refine along.imp ?_
    intro a b ⟨le, cycle⟩
    simp only [stampLe, decide_eq_true_eq] at le
    omega
  have symmetric : Std.Symm fun a b : Int × Nat =>
      (a.1 < b.1 → a.2 ≤ b.2) ∧ (b.1 < a.1 → b.2 ≤ a.2) := ⟨fun _ _ pair => ⟨pair.2, pair.1⟩⟩
  exact (both.forall_of_forall (fun _ _ => ⟨fun _ => le_rfl, fun _ => le_rfl⟩) memA memB).1 earlier

/-- A cycle that some stamp on one side of a boundary has. -/
theorem mem_boundary (side : Int → Bool) {source : String} {cycle : Nat} :
    cycle ∈ ((orderedStamps stamps source).filter fun stamp => side stamp.1).map Prod.snd ↔
      ∃ time, side time = true ∧ (time, cycle) ∈ orderedStamps stamps source := by
  simp only [List.mem_map, List.mem_filter, Prod.exists, exists_eq_right]
  exact ⟨fun ⟨time, mem, on⟩ => ⟨time, on, mem⟩, fun ⟨time, on, mem⟩ => ⟨time, mem, on⟩⟩

/-- The expected frames of a compiled plan are its frames. -/
def ExpectsPlan (d : Detector) : Prop :=
  ∀ source cycle expected, d.frameOf source cycle = some expected →
    ∃ client frame, d.plan.FrameAt source cycle client frame ∧ expected = expectedFrame client frame

/-- A row of the frames that lies in the window, with its key. -/
def WindowRow (lib : PyLibrary) (frames : Frames) (start stop : Int) (source : String)
    (key : RecordKey) : Prop :=
  ∃ cycle destination row, (frames.targets source cycle).get destination = some row ∧
    row.key = .ok key ∧ ∃ time, row.stamp lib = .ok time ∧ start ≤ time ∧ time < stop

/-- A client without a finding is closed, and its expected records are all its records in
the window. -/
theorem auditSource_inv (expects : ExpectsPlan d) (framesOf : FramesOf (completeRows rows) frames)
    (stamped : frameStamps lib frames = .ok stamps) {source : String} {findings : Findings}
    (done : auditSource d lib frames stamps start stop source = .ok findings)
    (settled : findings.pending = []) :
    (∃ left right, SourceClosed d lib rows start stop source left right) ∧
      ∀ key, key ∈ findings.expectedRows ↔ WindowRow lib frames start stop source key := by
  simp only [auditSource, bind_eq_ok, reject_eq_ok] at done
  obtain ⟨_, noConflict, rest⟩ := done
  split at rest
  · rw [pure_eq_ok] at rest
    subst rest
    cases settled
  · rw [pure_eq_ok] at rest
    subst rest
    cases settled
  · rename_i left right leftEq rightEq
    simp only [bind_eq_ok, pure_eq_ok] at rest
    obtain ⟨parts, partsDone, rfl⟩ := rest
    rw [List.max?_eq_some_iff] at leftEq
    rw [List.min?_eq_some_iff] at rightEq
    have ordered : ∀ {time : Int} {cycle : Nat}, (time, cycle) ∈ orderedStamps stamps source ↔
        ∃ destination, Observed lib rows source cycle destination time :=
      mem_ordered_iff framesOf stamped
    obtain ⟨leftTime, leftBefore, leftMem⟩ :=
      (mem_boundary fun time => decide (time < start)).mp leftEq.1
    obtain ⟨rightTime, rightAfter, rightMem⟩ :=
      (mem_boundary fun time => decide (stop ≤ time)).mp rightEq.1
    rw [decide_eq_true_eq] at leftBefore rightAfter
    have between : ∀ cycle destination time,
        Observed lib rows source cycle destination time → start ≤ time → time < stop →
          left ≤ cycle ∧ cycle ≤ right := by
      intro cycle destination time observed after before
      have mem := ordered.mpr ⟨destination, observed⟩
      exact ⟨cycles_monotone noConflict leftMem mem (by simp; omega),
        cycles_monotone noConflict mem rightMem (by simp; omega)⟩
    have cycleDone : ∀ cycle, left ≤ cycle → cycle ≤ right → ∃ part ∈ parts,
        auditCycle d lib frames start stop source cycle = .ok part := by
      intro cycle above below
      exact exists_of_mapM partsDone (List.mem_range'_1.mpr ⟨above, by omega⟩)
    have partSettled : ∀ part ∈ parts, part.pending = [] := by
      intro part mem
      exact (List.flatMap_eq_nil_iff.mp settled) part mem
    constructor
    · refine ⟨left, right, ⟨?_, ?_, ?_, ?_, ?_, between⟩⟩
      · obtain ⟨destination, observed⟩ := ordered.mp leftMem
        exact ⟨destination, leftTime, leftBefore, observed⟩
      · intro cycle destination time observed before
        exact leftEq.2 cycle ((mem_boundary fun time => decide (time < start)).mpr
          ⟨time, decide_eq_true before, ordered.mpr ⟨destination, observed⟩⟩)
      · obtain ⟨destination, observed⟩ := ordered.mp rightMem
        exact ⟨destination, rightTime, rightAfter, observed⟩
      · intro cycle destination time observed after
        exact rightEq.2 cycle ((mem_boundary fun time => decide (stop ≤ time)).mpr
          ⟨time, decide_eq_true after, ordered.mpr ⟨destination, observed⟩⟩)
      · intro cycle above below
        obtain ⟨part, memPart, partDone⟩ := cycleDone cycle above below
        obtain ⟨expected, found, targets, -⟩ := auditCycle_inv partDone
        obtain ⟨client, frame, at_, rfl⟩ := expects source cycle expected found
        refine ⟨client, frame, at_, fun destination => ?_⟩
        rw [show frameTargets client frame = (expectedFrame client frame).names from rfl,
          ← targets (partSettled part memPart) destination]
        simp only [observed_iff framesOf]
        constructor
        · intro ⟨_, row, got, _⟩
          exact ⟨row, got⟩
        · intro ⟨row, got⟩
          obtain ⟨time, stamp⟩ := frameStamps_total stamped got
          exact ⟨time, row, got, stamp⟩
    · intro key
      simp only [Findings.join, List.mem_flatMap]
      constructor
      · intro ⟨part, memPart, mem⟩
        obtain ⟨cycle, -, partDone⟩ := (mem_of_mapM partsDone).mp memPart
        obtain ⟨_, _, _, keys⟩ := auditCycle_inv partDone
        obtain ⟨destination, row, got, inside⟩ := (keys key).mp mem
        exact ⟨cycle, destination, row, got, inside⟩
      · intro ⟨cycle, destination, row, got, keyEq, time, stamp, after, before⟩
        obtain ⟨above, below⟩ := between cycle destination time
          ((observed_iff framesOf).mpr ⟨row, got, stamp⟩) after before
        obtain ⟨part, memPart, partDone⟩ := cycleDone cycle above below
        obtain ⟨_, _, _, keys⟩ := auditCycle_inv partDone
        exact ⟨part, memPart, (keys key).mpr
          ⟨destination, row, got, keyEq, time, stamp, after, before⟩⟩

end Source

/-! ## The snapshot -/

/-- A run of the snapshot loop that leaves nothing pending has met complete rows only, and
knows their keys. -/
theorem addSnapshot_run {rows : List Row} {state final : SnapshotState}
    (done : rows.foldlM addSnapshot state = .ok final) (settled : final.pending = []) :
    state.pending = [] ∧ ∀ key, (∃ row, final.actual.get key = some row) ↔
      (∃ row, state.actual.get key = some row) ∨ ∃ row ∈ rows, row.key = .ok key := by
  induction rows generalizing state with
  | nil =>
      rw [List.foldlM_nil, pure_eq_ok] at done
      subst done
      exact ⟨settled, fun key => by simp⟩
  | cons row rows ih =>
      rw [List.foldlM_cons, bind_eq_ok] at done
      obtain ⟨next, first, rest⟩ := done
      obtain ⟨nextSettled, keys⟩ := ih rest
      unfold addSnapshot at first
      split at first
      · rw [pure_eq_ok] at first
        subst first
        simp at nextSettled
      · simp only [bind_eq_ok, reject_eq_ok, pure_eq_ok] at first
        obtain ⟨_, -, own, ownKey, _, -, rfl⟩ := first
        refine ⟨nextSettled, fun key => ?_⟩
        rw [keys, List.exists_mem_cons_iff, ownKey, Except.ok.injEq]
        simp only [Dict.get_set]
        by_cases same : key = own
        · simp [same]
        · simp [same, Ne.symm same]

/-! ## The audit -/

theorem expectsPlan_ofPlan {manifest : TopologyManifest} {peers : Peers} {plan : PingmeshPlan}
    (compiled : Compiled manifest peers plan) : ExpectsPlan (ofPlan manifest plan) :=
  fun _ _ _ found => compiled.frameOf_eq_some.mp found

/-- The audited clients are those of the plan. -/
theorem mem_clients_of_frameOf {manifest : TopologyManifest} {peers : Peers} {plan : PingmeshPlan}
    (compiled : Compiled manifest peers plan) {source : String} {cycle : Nat}
    {expected : ExpectedFrame}
    (found : (ofPlan manifest plan).frameOf source cycle = some expected) :
    source ∈ (ofPlan manifest plan).clients := by
  obtain ⟨client, frame, ⟨mem, named, -⟩, -⟩ := compiled.frameOf_eq_some.mp found
  have listed := List.mem_map_of_mem (f := ClientProbePlan.name) mem
  rw [compiled.map_name, named] at listed
  exact listed

/-- A body of the audit that leaves nothing pending has closed the window. -/
theorem auditBody_closed {manifest : TopologyManifest} {peers : Peers} {plan : PingmeshPlan}
    (compiled : Compiled manifest peers plan) {progress snapshot : List Row} {start stop : Int}
    {expectedRows : List RecordKey} {actual : Dict RecordKey Row}
    (done : auditBody (ofPlan manifest plan) lib progress snapshot start stop =
      .ok ([], expectedRows, actual)) :
    WindowClosed (ofPlan manifest plan) lib progress snapshot start stop := by
  simp only [auditBody, bind_eq_ok, pure_eq_ok, Prod.mk.injEq] at done
  obtain ⟨missing, searched, frames, framesDone, stamps, stamped, parts, partsDone, final,
    snapshotDone, _, -, settled, -, -⟩ := done
  obtain ⟨accepted, framesOf⟩ := progressFrames_spec framesDone
  have same : sameSet final.actual.keys
      (Findings.join (⟨if missing then ["progress: missing required fields"] else [], []⟩ ::
        parts)).expectedRows = true := by
    by_contra differ
    rw [if_neg differ] at settled
    simp at settled
  rw [if_pos same] at settled
  obtain ⟨auditedSettled, actualKeys⟩ := addSnapshot_run snapshotDone settled
  have partSettled : ∀ part ∈ parts, part.pending = [] := fun part mem =>
    (List.flatMap_eq_nil_iff.mp auditedSettled) part (by simp [mem])
  have noMissing : missing = false := by
    have first := (List.flatMap_eq_nil_iff.mp auditedSettled) _ List.mem_cons_self
    cases missing with
    | false => rfl
    | true => cases first
  rw [noMissing, anyM_eq_false] at searched
  have sourceDone : ∀ source ∈ (ofPlan manifest plan).clients, ∃ part ∈ parts,
      (∃ left right, SourceClosed (ofPlan manifest plan) lib progress start stop source left right) ∧
        ∀ key, key ∈ part.expectedRows ↔ WindowRow lib frames start stop source key := by
    intro source mem
    obtain ⟨part, memPart, partDone⟩ := exists_of_mapM partsDone mem
    exact ⟨part, memPart, auditSource_inv (expectsPlan_ofPlan compiled) framesOf stamped partDone
      (partSettled part memPart)⟩
  refine ⟨fun source mem => ?_, fun key => ?_⟩
  · obtain ⟨_, _, closed, -⟩ := sourceDone source mem
    exact closed
  · have ofSnapshot := actualKeys key
    simp only [Dict.get_empty, reduceCtorEq, exists_false, false_or] at ofSnapshot
    rw [← ofSnapshot, ← Dict.mem_keys, sameSet_iff.mp same key]
    simp only [Findings.join, List.mem_flatMap, List.mem_cons, exists_eq_or_imp, List.not_mem_nil,
      false_or]
    constructor
    · intro ⟨part, memPart, mem⟩
      obtain ⟨source, memSource, partDone⟩ := (mem_of_mapM partsDone).mp memPart
      obtain ⟨-, keys⟩ := auditSource_inv (expectsPlan_ofPlan compiled) framesOf stamped partDone
        (partSettled part memPart)
      obtain ⟨cycle, destination, row, got, keyEq, time, stamp, within⟩ := (keys key).mp mem
      obtain ⟨text, textEq, timed⟩ := Row.stamp_eq_ok.mp stamp
      have memRow := (List.mem_filter.mp (framesOf.sound got).1).1
      have timeEq := (Row.key_eq_ok.mp keyEq).2.2.2
      obtain rfl := Option.some.inj (textEq.symm.trans timeEq)
      exact ⟨row, memRow, keyEq, time, timed, within⟩
    · intro ⟨row, memRow, keyEq, time, timed, after, before⟩
      have textEq := (Row.key_eq_ok.mp keyEq).2.2.2
      have stamp : row.stamp lib = .ok time := Row.stamp_eq_ok.mpr ⟨_, textEq, timed⟩
      have complete : row.complete progressFields = true := by
        -- An incomplete row is outside the window.
        by_contra incomplete
        have outside := searched row memRow
        rw [if_neg incomplete] at outside
        simp only [inWindow, stamp, ok_bind, pure_eq_ok, decide_eq_false_iff_not] at outside
        exact outside ⟨after, before⟩
      have memComplete : row ∈ completeRows progress := List.mem_filter.mpr ⟨memRow, complete⟩
      obtain ⟨source, cycle, destination, timestamp⟩ := key
      obtain ⟨source', cycle', destination', timestamp', accepts⟩ := accepted row memComplete
      have sameKey := Except.ok.inj (keyEq.symm.trans accepts.key)
      simp only [Prod.mk.injEq] at sameKey
      obtain ⟨rfl, rfl, rfl, rfl⟩ := sameKey
      obtain ⟨-, expected, found, -⟩ := checkIdentity_eq_ok.mp accepts.identity
      obtain ⟨part, memPart, -, keys⟩ := sourceDone source (mem_clients_of_frameOf compiled found)
      obtain ⟨kept, got, keptKey⟩ := framesOf.complete memComplete keyEq
      refine ⟨part, memPart, (keys _).mpr ⟨cycle, destination, kept, got, keptKey, time, ?_,
        after, before⟩⟩
      exact Row.stamp_eq_ok.mpr ⟨_, (Row.key_eq_ok.mp keptKey).2.2.2, timed⟩

/-- An audit of a window whose boundaries are timestamps always reports. -/
theorem auditIngestion_total {d : Detector} {startTime endTime : String} {start stop : Int}
    (startEq : lib.time startTime = .ok start) (stopEq : lib.time endTime = .ok stop)
    (progress snapshot : List Row) :
    ∃ audit, auditIngestion d lib progress snapshot startTime endTime = .ok audit := by
  rw [auditIngestion, startEq, ok_bind, stopEq, ok_bind]
  split
  · exact ⟨_, rfl⟩
  · exact ⟨_, rfl⟩

/-- A ready audit has found nothing pending. -/
theorem auditBody_of_ready {d : Detector} {progress snapshot : List Row} {startTime endTime : String}
    {start stop : Int} (startEq : lib.time startTime = .ok start)
    (stopEq : lib.time endTime = .ok stop) {audit : Audit}
    (done : auditIngestion d lib progress snapshot startTime endTime = .ok audit)
    (ready : audit.isReady = true) :
    ∃ expectedRows actual,
      auditBody d lib progress snapshot start stop = .ok ([], expectedRows, actual) := by
  rw [auditIngestion, startEq, ok_bind, stopEq, ok_bind] at done
  split at done
  · rw [pure_eq_ok] at done
    subst done
    cases ready
  · rename_i pending expectedRows actual body
    rw [pure_eq_ok] at done
    subst done
    cases pending with
    | nil => exact ⟨expectedRows, actual, body⟩
    | cons reason reasons => cases ready

end Detector

end NetOpsBench
