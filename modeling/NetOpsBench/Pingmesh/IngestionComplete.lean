import NetOpsBench.Pingmesh.IngestionSound

/-!
# Completeness of the ingestion audit

Rows whose times grow with their cycles (`Emission`) close every window that the progress
log reaches over: the boundary cycles of a source lie in the logged range, so every frame
between them is whole, and the sorted stamps never step back.
-/

namespace NetOpsBench

open Fallible

theorem consecutive_of_pairwise {α : Type} {R : α → α → Prop} {xs : List α}
    (pairwise : xs.Pairwise R) : ∀ pair ∈ xs.zip xs.tail, R pair.1 pair.2 := by
  induction xs with
  | nil => simp
  | cons x xs ih =>
      cases xs with
      | nil => simp
      | cons y ys =>
          obtain ⟨head, rest⟩ := List.pairwise_cons.mp pairwise
          intro pair mem
          rcases List.mem_cons.mp mem with here | later
          · subst here
            exact head y List.mem_cons_self
          · exact ih rest pair later

namespace Detector

/-- The plan has the destination among the active targets of a source in a cycle. -/
def Active (d : Detector) (source : String) (cycle : Nat) (destination : String) : Prop :=
  ∃ expected, d.frameOf source cycle = some expected ∧ destination ∈ expected.names

/-- The timestamp of every row that the agents emit; a later cycle of a source has later
times than an earlier one, within a cycle they come in any order. -/
structure Emission (d : Detector) : Type where
  stamp : String → Nat → String → String
  time : String → Nat → String → Int
  increasing : ∀ source earlier later left right, d.Active source earlier left →
    d.Active source later right → earlier < later →
      time source earlier left < time source later right

variable {d : Detector} {lib : PyLibrary} {source destination : String} {cycle : Nat} {row : Row}

theorem Accepts.active {timestamp : String}
    (accepts : d.Accepts lib row source cycle destination timestamp) :
    d.Active source cycle destination := by
  obtain ⟨-, expected, found, target, -⟩ := checkIdentity_eq_ok.mp accepts.identity
  exact ⟨expected, found, target⟩

namespace Emission

variable (emission : Emission d)

/-- A row that the agents emitted and that the audit accepts. -/
structure Emitted (lib : PyLibrary) (row : Row) (source : String) (cycle : Nat)
    (destination : String) : Prop where
  accepts : d.Accepts lib row source cycle destination (emission.stamp source cycle destination)
  timed : lib.time (emission.stamp source cycle destination) =
    .ok (emission.time source cycle destination)

/-- A progress log of emitted rows, with every row of a range of cycles of each client; the
range has a frame before the window and one after it. -/
structure Logs (lib : PyLibrary) (progress : List Row) (start stop : Int) : Prop where
  emitted : ∀ row ∈ progress, row.complete progressFields = true ∧
    ∃ source cycle destination, emission.Emitted lib row source cycle destination
  planned : ∀ source ∈ d.clients, ∀ cycle, ∃ expected, d.frameOf source cycle = some expected
  range : ∀ source ∈ d.clients, ∃ first last,
    (∀ cycle, first ≤ cycle → cycle ≤ last → ∀ destination, d.Active source cycle destination →
      ∃ row ∈ progress,
        row.key = .ok (source, cycle, destination, emission.stamp source cycle destination)) ∧
    (∃ cycle, first ≤ cycle ∧ cycle ≤ last ∧ (∃ destination, d.Active source cycle destination) ∧
      ∀ destination, d.Active source cycle destination →
        emission.time source cycle destination < start) ∧
    ∃ cycle, first ≤ cycle ∧ cycle ≤ last ∧ (∃ destination, d.Active source cycle destination) ∧
      ∀ destination, d.Active source cycle destination →
        stop ≤ emission.time source cycle destination

/-- A snapshot of exactly the emitted rows inside the window. -/
structure Snapshots (lib : PyLibrary) (snapshot : List Row) (start stop : Int) : Prop where
  emitted : ∀ row ∈ snapshot, row.complete snapshotFields = true ∧
    (∀ field value, row.field field = some value → isFinite value = true) ∧
    ∃ source ∈ d.clients, ∃ cycle destination, emission.Emitted lib row source cycle destination ∧
      start ≤ emission.time source cycle destination ∧
      emission.time source cycle destination < stop
  all : ∀ source ∈ d.clients, ∀ cycle destination, d.Active source cycle destination →
    start ≤ emission.time source cycle destination →
      emission.time source cycle destination < stop → ∃ row ∈ snapshot,
        row.key = .ok (source, cycle, destination, emission.stamp source cycle destination)
  single : ∀ a ∈ snapshot, ∀ b ∈ snapshot, a.key = b.key → a = b

variable {emission}

theorem Emitted.key (emitted : emission.Emitted lib row source cycle destination) :
    row.key = .ok (source, cycle, destination, emission.stamp source cycle destination) :=
  emitted.accepts.key

theorem Emitted.active (emitted : emission.Emitted lib row source cycle destination) :
    d.Active source cycle destination :=
  emitted.accepts.active

theorem Emitted.stamp_eq (emitted : emission.Emitted lib row source cycle destination) :
    row.stamp lib = .ok (emission.time source cycle destination) :=
  Row.stamp_eq_ok.mpr ⟨_, (Row.key_eq_ok.mp emitted.key).2.2.2, emitted.timed⟩

/-- Earlier times of a source belong to no later cycle. -/
theorem cycle_le {left right : String} {a b : Nat} (activeA : d.Active source a left)
    (activeB : d.Active source b right)
    (earlier : emission.time source a left < emission.time source b right) : a ≤ b := by
  by_contra above
  have := emission.increasing source b a right left activeB activeA (by omega)
  omega

/-- Emitted rows pass the checks of `_progress_frames`. -/
theorem progressFrames_ok {rows : List Row}
    (emitted : ∀ row ∈ rows, ∃ source cycle destination,
      emission.Emitted lib row source cycle destination) :
    ∃ frames, d.progressFrames lib rows = .ok frames := by
  refine progressFrames_total (fun row mem => ?_) ?_
  · obtain ⟨source, cycle, destination, done⟩ := emitted row mem
    exact ⟨source, cycle, destination, _, done.accepts⟩
  · intro a memA b memB source cycle destination t t' keyA keyB
    have stamped : ∀ row ∈ rows, ∀ t, row.key = .ok (source, cycle, destination, t) →
        t = emission.stamp source cycle destination := by
      intro row mem t key
      obtain ⟨source', cycle', destination', done⟩ := emitted row mem
      have same := Except.ok.inj (key.symm.trans done.key)
      simp only [Prod.mk.injEq] at same
      obtain ⟨rfl, rfl, rfl, rfl⟩ := same
      rfl
    exact (stamped a memA t keyA).trans (stamped b memB t' keyB).symm

/-! ## One source -/

section Source

variable {progress : List Row} {frames : Frames} {stamps : List Stamp} {start stop : Int}

/-- A row of the frames is an emitted one of its coordinates. -/
theorem Logs.emitted_of_found (logs : emission.Logs lib progress start stop)
    (framesOf : FramesOf (completeRows progress) frames)
    (found : (frames.targets source cycle).get destination = some row) :
    emission.Emitted lib row source cycle destination := by
  obtain ⟨mem, timestamp, key⟩ := framesOf.sound found
  obtain ⟨-, source', cycle', destination', emitted⟩ :=
    logs.emitted row (List.mem_filter.mp mem).1
  have same := Except.ok.inj (key.symm.trans emitted.key)
  simp only [Prod.mk.injEq] at same
  obtain ⟨rfl, rfl, rfl, -⟩ := same
  exact emitted

/-- A logged row of some coordinates is in the frames under them. -/
theorem Logs.found_of_logged (logs : emission.Logs lib progress start stop)
    (framesOf : FramesOf (completeRows progress) frames)
    (logged : ∃ row ∈ progress,
      row.key = .ok (source, cycle, destination, emission.stamp source cycle destination)) :
    ∃ kept, (frames.targets source cycle).get destination = some kept ∧
      kept.key = .ok (source, cycle, destination, emission.stamp source cycle destination) := by
  obtain ⟨row, mem, key⟩ := logged
  exact framesOf.complete (List.mem_filter.mpr ⟨mem, (logs.emitted row mem).1⟩) key

theorem Logs.mem_ordered (logs : emission.Logs lib progress start stop)
    (framesOf : FramesOf (completeRows progress) frames)
    (stamped : frameStamps lib frames = .ok stamps) {time : Int} :
    (time, cycle) ∈ orderedStamps stamps source ↔ ∃ destination row,
      (frames.targets source cycle).get destination = some row ∧
        time = emission.time source cycle destination := by
  rw [mem_orderedStamps, mem_frameStamps stamped]
  constructor
  · intro ⟨destination, row, found, stamp⟩
    have emitted := logs.emitted_of_found framesOf found
    exact ⟨destination, row, found, Except.ok.inj (stamp.symm.trans emitted.stamp_eq)⟩
  · intro ⟨destination, row, found, timeEq⟩
    subst timeEq
    exact ⟨destination, row, found, (logs.emitted_of_found framesOf found).stamp_eq⟩

/-- The sorted stamps of a source never step back to an earlier cycle. -/
theorem Logs.no_conflict (logs : emission.Logs lib progress start stop)
    (framesOf : FramesOf (completeRows progress) frames)
    (stamped : frameStamps lib frames = .ok stamps) (source : String) :
    ¬ ((orderedStamps stamps source).zip (orderedStamps stamps source).tail).any
      (fun (before, after) => after.2 < before.2) = true := by
  intro conflict
  obtain ⟨⟨⟨t, c⟩, ⟨t', c'⟩⟩, mem, back⟩ := List.any_eq_true.mp conflict
  have inOrder := consecutive_of_pairwise (orderedStamps_pairwise stamps source) _ mem
  obtain ⟨memLeft, memTail⟩ := List.of_mem_zip mem
  obtain ⟨n, row, found, rfl⟩ := (logs.mem_ordered framesOf stamped).mp memLeft
  obtain ⟨n', row', found', rfl⟩ :=
    (logs.mem_ordered framesOf stamped).mp (List.mem_of_mem_tail memTail)
  simp only [stampLe, decide_eq_true_eq] at inOrder back
  have active := (logs.emitted_of_found framesOf found).active
  have active' := (logs.emitted_of_found framesOf found').active
  have later := emission.increasing source c' c n' n active' active back
  omega

/-- A frame of the logged range has exactly its active targets. -/
theorem Logs.auditCycle_settled (logs : emission.Logs lib progress start stop)
    (framesOf : FramesOf (completeRows progress) frames) (mem : source ∈ d.clients)
    (logged : ∀ destination, d.Active source cycle destination → ∃ row ∈ progress,
      row.key = .ok (source, cycle, destination, emission.stamp source cycle destination)) :
    ∃ findings, auditCycle d lib frames start stop source cycle = .ok findings ∧
      findings.pending = [] := by
  obtain ⟨expected, planned⟩ := logs.planned source mem cycle
  have whole : sameSet (frames.targets source cycle).keys expected.names = true := by
    rw [sameSet_iff]
    intro destination
    rw [Dict.mem_keys]
    constructor
    · intro ⟨row, found⟩
      obtain ⟨expected', planned', target⟩ := (logs.emitted_of_found framesOf found).active
      obtain rfl := Option.some.inj (planned.symm.trans planned')
      exact target
    · intro target
      obtain ⟨kept, found, -⟩ := logs.found_of_logged framesOf
        (logged destination ⟨expected, planned, target⟩)
      exact ⟨kept, found⟩
  obtain ⟨keys, keysDone⟩ : ∃ keys,
      (frames.targets source cycle).values.mapM (windowKey lib start stop) = .ok keys := by
    refine mapM_total fun row memRow => ?_
    obtain ⟨destination, found⟩ := Dict.mem_values.mp memRow
    have emitted := logs.emitted_of_found framesOf found
    simp only [windowKey, inWindow, emitted.stamp_eq, ok_bind, emitted.key, pure_bind]
    split
    · exact ⟨_, rfl⟩
    · exact ⟨_, rfl⟩
  refine ⟨⟨[], keys.flatten⟩, ?_, rfl⟩
  unfold auditCycle
  rw [planned]
  simp only [keysDone, ok_bind, whole, if_true]
  rfl

/-- Nothing is pending for a client whose log reaches over the window. -/
theorem Logs.auditSource_settled (logs : emission.Logs lib progress start stop)
    (framesOf : FramesOf (completeRows progress) frames)
    (stamped : frameStamps lib frames = .ok stamps) (mem : source ∈ d.clients) :
    ∃ findings, auditSource d lib frames stamps start stop source = .ok findings ∧
      findings.pending = [] := by
  obtain ⟨first, last, logged, ⟨b, bAbove, bBelow, ⟨n, bActive⟩, bBefore⟩,
    ⟨a, aAbove, aBelow, ⟨m, aActive⟩, aAfter⟩⟩ := logs.range source mem
  obtain ⟨bRow, bFound, -⟩ := logs.found_of_logged framesOf (logged b bAbove bBelow n bActive)
  obtain ⟨aRow, aFound, -⟩ := logs.found_of_logged framesOf (logged a aAbove aBelow m aActive)
  have bOrdered := (logs.mem_ordered framesOf stamped).mpr ⟨n, bRow, bFound, rfl⟩
  have aOrdered := (logs.mem_ordered framesOf stamped).mpr ⟨m, aRow, aFound, rfl⟩
  have before := (mem_boundary fun time => decide (time < start)).mpr
    ⟨_, decide_eq_true (bBefore n bActive), bOrdered⟩
  have after := (mem_boundary fun time => decide (stop ≤ time)).mpr
    ⟨_, decide_eq_true (aAfter m aActive), aOrdered⟩
  have inOrder : ∀ e : String, reject (((orderedStamps stamps source).zip
      (orderedStamps stamps source).tail).any (fun (before, after) => after.2 < before.2) = true) e =
        .ok () := fun e => reject_eq_ok.mpr (logs.no_conflict framesOf stamped source)
  simp only [auditSource, inOrder, ok_bind]
  split
  · rename_i none
    rw [List.max?_eq_none_iff.mp none] at before
    cases before
  · rename_i none
    rw [List.min?_eq_none_iff.mp none] at after
    cases after
  · rename_i left right leftEq rightEq
    have leftAbove := (List.max?_eq_some_iff.mp leftEq).2 b before
    have rightBelow := (List.min?_eq_some_iff.mp rightEq).2 a after
    have settled : ∀ cycle ∈ List.range' left (right + 1 - left), ∃ findings,
        auditCycle d lib frames start stop source cycle = .ok findings ∧
          findings.pending = [] := by
      intro cycle inRange
      have bounds := List.mem_range'_1.mp inRange
      exact logs.auditCycle_settled framesOf mem (logged cycle (by omega) (by omega))
    obtain ⟨parts, partsDone⟩ := mapM_total fun cycle inRange =>
      (settled cycle inRange).imp fun _ both => both.1
    refine ⟨Findings.join parts, by rw [partsDone]; rfl, ?_⟩
    refine List.flatMap_eq_nil_iff.mpr fun part memPart => ?_
    obtain ⟨cycle, inRange, partDone⟩ := (mem_of_mapM partsDone).mp memPart
    obtain ⟨findings, done, pending⟩ := settled cycle inRange
    rw [Except.ok.inj (partDone.symm.trans done)]
    exact pending

end Source

/-! ## The snapshot -/

section Snapshot

variable {progress snapshot : List Row} {start stop : Int}

theorem complete_iff {fields : List SnapshotField} {row : Row} (complete : row.complete fields = true)
    {field : SnapshotField} (mem : field ∈ fields) : ∃ value, row.field field = some value := by
  simp only [Row.complete, decide_eq_true_eq] at complete
  exact Option.isSome_iff_exists.mp (complete.2.2.2.2 field mem)

/-- The snapshot loop takes every row of an exact snapshot. -/
theorem Snapshots.addSnapshot_total (snapshots : emission.Snapshots lib snapshot start stop)
    (pending : List String) :
    ∃ final, snapshot.foldlM addSnapshot ⟨pending, .empty⟩ = .ok final ∧
      final.pending = pending ∧
        ∀ key row, final.actual.get key = some row → row ∈ snapshot ∧ row.key = .ok key := by
  apply foldlM_total
  · intro state row mem ⟨samePending, known⟩
    obtain ⟨complete, finite, source, -, cycle, destination, emitted, -⟩ := snapshots.emitted row mem
    have noBad : ∀ e : String, reject ((snapshotFields.any fun field =>
        (row.field field).any fun value => ¬ isFinite value) = true) e = .ok () := by
      intro e
      apply reject_eq_ok.mpr
      intro bad
      obtain ⟨field, -, isBad⟩ := List.any_eq_true.mp bad
      obtain ⟨value, valueEq⟩ := complete_iff complete (mem_snapshotFields field)
      simp [valueEq, finite field value valueEq] at isBad
    have noConflict : ∀ e : String, reject ((state.actual.get
        (source, cycle, destination, emission.stamp source cycle destination)).any
          (fun known => known ≠ row) = true) e = .ok () := by
      intro e
      apply reject_eq_ok.mpr
      intro conflict
      rcases found : state.actual.get
        (source, cycle, destination, emission.stamp source cycle destination) with _ | other
      · simp [found] at conflict
      · obtain ⟨memOther, keyOther⟩ := known _ other found
        have same := snapshots.single other memOther row mem (keyOther.trans emitted.key.symm)
        simp [found, same] at conflict
    refine ⟨⟨state.pending, state.actual.set
      (source, cycle, destination, emission.stamp source cycle destination) row⟩, ?_, samePending, ?_⟩
    · rw [addSnapshot, if_neg (not_not.mpr complete)]
      simp only [noBad, ok_bind, emitted.key, noConflict]
      rfl
    · intro key other found
      rw [Dict.get_set] at found
      split at found
      · rename_i same
        obtain rfl := Option.some.inj found
        exact ⟨mem, same ▸ emitted.key⟩
      · exact known key other found
  · exact ⟨rfl, fun _ _ found => by simp at found⟩

/-- The records that a closed log expects are those of an exact snapshot. -/
theorem expected_iff (logs : emission.Logs lib progress start stop)
    (snapshots : emission.Snapshots lib snapshot start stop) {frames : Frames}
    (framesOf : FramesOf (completeRows progress) frames) {key : RecordKey} :
    (∃ row ∈ snapshot, row.key = .ok key) ↔
      ∃ source ∈ d.clients, WindowRow lib frames start stop source key := by
  constructor
  · intro ⟨row, mem, key'⟩
    obtain ⟨-, -, source, memSource, cycle, destination, emitted, after, before⟩ :=
      snapshots.emitted row mem
    obtain rfl := Except.ok.inj (key'.symm.trans emitted.key)
    obtain ⟨first, last, logged, ⟨b, bAbove, -, ⟨n, bActive⟩, bBefore⟩,
      ⟨a, -, aBelow, ⟨m, aActive⟩, aAfter⟩⟩ := logs.range source memSource
    -- A row inside the window lies between the two boundary frames.
    have above : b ≤ cycle :=
      cycle_le bActive emitted.active (Int.lt_of_lt_of_le (bBefore n bActive) after)
    have below : cycle ≤ a :=
      cycle_le emitted.active aActive (Int.lt_of_lt_of_le before (aAfter m aActive))
    obtain ⟨kept, found, keptKey⟩ := logs.found_of_logged framesOf
      (logged cycle (by omega) (by omega) destination emitted.active)
    exact ⟨source, memSource, cycle, destination, kept, found, keptKey, _,
      (logs.emitted_of_found framesOf found).stamp_eq, after, before⟩
  · intro ⟨source, memSource, cycle, destination, row, found, key', time, stamp, within⟩
    have emitted := logs.emitted_of_found framesOf found
    obtain rfl := Except.ok.inj (key'.symm.trans emitted.key)
    obtain rfl := Except.ok.inj (stamp.symm.trans emitted.stamp_eq)
    exact snapshots.all source memSource cycle destination emitted.active within.1 within.2

/-- The audit of a log that reaches over the window and of an exact snapshot finds nothing. -/
theorem auditBody_ready (expects : ExpectsPlan d) (logs : emission.Logs lib progress start stop)
    (snapshots : emission.Snapshots lib snapshot start stop) :
    ∃ expectedRows actual,
      auditBody d lib progress snapshot start stop = .ok ([], expectedRows, actual) := by
  have allComplete : completeRows progress = progress :=
    List.filter_eq_self.mpr fun row mem => (logs.emitted row mem).1
  have searched : progress.anyM (fun row =>
      if row.complete progressFields then pure false else inWindow lib start stop row) =
        .ok false := by
    refine anyM_eq_false.mpr fun row mem => ?_
    rw [if_pos (logs.emitted row mem).1]
    rfl
  obtain ⟨frames, framesDone⟩ := progressFrames_ok fun row mem => (logs.emitted row mem).2
  have framesOf : FramesOf (completeRows progress) frames :=
    allComplete.symm ▸ (progressFrames_spec framesDone).2
  obtain ⟨stamps, stamped⟩ : ∃ stamps, frameStamps lib frames = .ok stamps := by
    refine mapM_total fun entry mem => ?_
    obtain ⟨source, cycle, row⟩ := entry
    obtain ⟨destination, found⟩ := mem_frameRows.mp mem
    refine ⟨⟨source, emission.time source cycle destination, cycle⟩, ?_⟩
    simp only [(logs.emitted_of_found framesOf found).stamp_eq, ok_bind]
    rfl
  obtain ⟨parts, partsDone⟩ := mapM_total fun source mem =>
    (logs.auditSource_settled framesOf stamped mem).imp fun _ both => both.1
  have partsSettled : ∀ part ∈ parts, part.pending = [] := by
    intro part memPart
    obtain ⟨source, mem, partDone⟩ := (mem_of_mapM partsDone).mp memPart
    obtain ⟨findings, done, settled⟩ := logs.auditSource_settled framesOf stamped mem
    rw [Except.ok.inj (partDone.symm.trans done)]
    exact settled
  have noPending : (Findings.join (⟨[], []⟩ :: parts)).pending = [] := by
    rw [Findings.join, List.flatMap_eq_nil_iff, List.forall_mem_cons]
    exact ⟨rfl, partsSettled⟩
  obtain ⟨final, snapshotDone, finalPending, finalKnown⟩ :=
    snapshots.addSnapshot_total (Findings.join (⟨[], []⟩ :: parts)).pending
  have actualKeys := (addSnapshot_run snapshotDone (finalPending.trans noPending)).2
  have same : sameSet final.actual.keys (Findings.join (⟨[], []⟩ :: parts)).expectedRows = true := by
    refine sameSet_iff.mpr fun key => ?_
    have ofSnapshot := actualKeys key
    simp only [Dict.get_empty, reduceCtorEq, exists_false, false_or] at ofSnapshot
    rw [Dict.mem_keys, ofSnapshot, expected_iff logs snapshots framesOf]
    simp only [Findings.join, List.mem_flatMap, List.mem_cons, exists_eq_or_imp, List.not_mem_nil,
      false_or]
    constructor
    · intro owed
      obtain ⟨source, mem, windowRow⟩ := owed
      obtain ⟨part, memPart, partDone⟩ := exists_of_mapM partsDone mem
      exact ⟨part, memPart, ((auditSource_inv expects framesOf stamped partDone
        (partsSettled part memPart)).2 key).mpr windowRow⟩
    · intro found
      obtain ⟨part, memPart, memKey⟩ := found
      obtain ⟨source, mem, partDone⟩ := (mem_of_mapM partsDone).mp memPart
      exact ⟨source, mem, ((auditSource_inv expects framesOf stamped partDone
        (partsSettled part memPart)).2 key).mp memKey⟩
  have valuesEmitted : ∀ row ∈ final.actual.values, ∃ source cycle destination,
      emission.Emitted lib row source cycle destination := by
    intro row mem
    obtain ⟨key, found⟩ := Dict.mem_values.mp mem
    obtain ⟨-, -, source, -, cycle, destination, emitted, -⟩ :=
      snapshots.emitted row (finalKnown key row found).1
    exact ⟨source, cycle, destination, emitted⟩
  obtain ⟨again, againDone⟩ := progressFrames_ok valuesEmitted
  refine ⟨(Findings.join (⟨[], []⟩ :: parts)).expectedRows, final.actual, ?_⟩
  have framesDone' : d.progressFrames lib (progress.filter fun row => row.complete progressFields) =
      .ok frames := (congrArg (d.progressFrames lib) allComplete).trans framesDone
  rw [noPending] at snapshotDone finalPending
  simp only [auditBody, searched, ok_bind, framesDone', stamped, partsDone, Bool.false_eq_true,
    if_false, snapshotDone, same, if_true, againDone, finalPending, noPending]
  rfl

end Snapshot

end Emission

/-- The audit of a log that reaches over the window and of an exact snapshot is ready. -/
theorem auditIngestion_ready {emission : Emission d} {progress snapshot : List Row}
    {startTime endTime : String} {start stop : Int} (expects : ExpectsPlan d)
    (startEq : lib.time startTime = .ok start) (stopEq : lib.time endTime = .ok stop)
    (logs : emission.Logs lib progress start stop) (snapshots : emission.Snapshots lib snapshot start stop) :
    ∃ audit, auditIngestion d lib progress snapshot startTime endTime = .ok audit ∧
      audit.isReady = true := by
  obtain ⟨expectedRows, actual, body⟩ := Emission.auditBody_ready expects logs snapshots
  exact ⟨_, by rw [auditIngestion, startEq, ok_bind, stopEq, ok_bind, body]; rfl, rfl⟩

end Detector

end NetOpsBench
