import NetOpsBench.Lib.Alike
import NetOpsBench.Pingmesh.IngestionComplete

/-!
# The order of the audited rows

The audit sees which rows there are, not in what order or how often, but for the search for an
incomplete progress row in the window: it ends at the first one, and before that at the first
incomplete row without a time that can be read (`audit_order_immaterial_iff`).
-/

namespace NetOpsBench

open Fallible

namespace Detector

variable {d : Detector} {lib : PyLibrary}

/-! ## Frames -/

/-- Two rows have the same key. -/
def SameRecord (row row' : Row) : Prop := ∃ key, row.key = .ok key ∧ row'.key = .ok key

theorem SameRecord.stamp {row row' : Row} (same : SameRecord row row') :
    row.stamp lib = row'.stamp lib := by
  obtain ⟨⟨source, cycle, destination, timestamp⟩, isKey, isKey'⟩ := same
  have time := (Row.key_eq_ok.mp isKey).2.2.2
  have time' := (Row.key_eq_ok.mp isKey').2.2.2
  unfold Row.stamp
  rw [time, time']

theorem SameRecord.windowKey {row row' : Row} (same : SameRecord row row') (start stop : Int) :
    windowKey lib start stop row = windowKey lib start stop row' := by
  unfold Detector.windowKey inWindow
  obtain ⟨key, isKey, isKey'⟩ := same
  rw [SameRecord.stamp ⟨key, isKey, isKey'⟩, isKey, isKey']

/-- Two families of frames have rows of the same records in the same places. -/
structure SameFrames (frames frames' : Frames) : Prop where
  there : ∀ {source cycle destination row},
    (frames.targets source cycle).get destination = some row →
      ∃ row', (frames'.targets source cycle).get destination = some row' ∧ SameRecord row row'
  back : ∀ {source cycle destination row'},
    (frames'.targets source cycle).get destination = some row' →
      ∃ row, (frames.targets source cycle).get destination = some row ∧ SameRecord row row'

theorem sameFrames_of {rows rows' : List Row} {frames frames' : Frames}
    (same : ∀ row, row ∈ rows ↔ row ∈ rows') (framesOf : FramesOf rows frames)
    (framesOf' : FramesOf rows' frames') : SameFrames frames frames' where
  there := by
    intro source cycle destination row found
    obtain ⟨mem, timestamp, isKey⟩ := framesOf.sound found
    obtain ⟨kept, found', isKey'⟩ := framesOf'.complete ((same row).mp mem) isKey
    exact ⟨kept, found', _, isKey, isKey'⟩
  back := by
    intro source cycle destination row found
    obtain ⟨mem, timestamp, isKey⟩ := framesOf'.sound found
    obtain ⟨kept, found', isKey'⟩ := framesOf.complete ((same row).mpr mem) isKey
    exact ⟨kept, found', _, isKey', isKey⟩

/-- A progress log that passes does so with its rows in any order. -/
theorem progressFrames_of_mem {rows rows' : List Row} (same : ∀ row, row ∈ rows ↔ row ∈ rows')
    {frames : Frames} (done : d.progressFrames lib rows = .ok frames) :
    ∃ frames', d.progressFrames lib rows' = .ok frames' := by
  obtain ⟨accepted, framesOf⟩ := progressFrames_spec done
  apply progressFrames_total
  · exact fun row mem => accepted row ((same row).mpr mem)
  · intro a isA b isB source cycle destination t t' keyA keyB
    obtain ⟨kept, found, keptKey⟩ := framesOf.complete ((same a).mpr isA) keyA
    obtain ⟨kept', found', keptKey'⟩ := framesOf.complete ((same b).mpr isB) keyB
    obtain rfl := Option.some.inj (found.symm.trans found')
    exact congrArg (fun key : RecordKey => key.2.2.2) (Except.ok.inj (keptKey.symm.trans keptKey'))

theorem progressFrames_alike {rows rows' : List Row} (same : ∀ row, row ∈ rows ↔ row ∈ rows') :
    Alike SameFrames (d.progressFrames lib rows) (d.progressFrames lib rows') := by
  apply Alike.of_ok
  · intro frames done
    obtain ⟨frames', done'⟩ := progressFrames_of_mem same done
    exact ⟨frames', done', sameFrames_of same (progressFrames_spec done).2
      (progressFrames_spec done').2⟩
  · intro frames' done'
    exact progressFrames_of_mem (fun row => (same row).symm) done'

section Frames

variable {frames frames' : Frames} (same : SameFrames frames frames')

include same

theorem SameFrames.keys (source : String) (cycle : Nat) (destination : String) :
    destination ∈ (frames.targets source cycle).keys ↔
      destination ∈ (frames'.targets source cycle).keys := by
  rw [Dict.mem_keys, Dict.mem_keys]
  constructor
  · rintro ⟨row, found⟩
    obtain ⟨row', found', -⟩ := same.there found
    exact ⟨row', found'⟩
  · rintro ⟨row', found'⟩
    obtain ⟨row, found, -⟩ := same.back found'
    exact ⟨row, found⟩

theorem SameFrames.values (source : String) (cycle : Nat) :
    Matched SameRecord (frames.targets source cycle).values
      (frames'.targets source cycle).values where
  there row mem := by
    obtain ⟨destination, found⟩ := Dict.mem_values.mp mem
    obtain ⟨row', found', record⟩ := same.there found
    exact ⟨row', Dict.mem_values.mpr ⟨destination, found'⟩, record⟩
  back row' mem := by
    obtain ⟨destination, found'⟩ := Dict.mem_values.mp mem
    obtain ⟨row, found, record⟩ := same.back found'
    exact ⟨row, Dict.mem_values.mpr ⟨destination, found⟩, record⟩

theorem frameStamps_alike :
    Alike (Matched (· = ·)) (frameStamps lib frames) (frameStamps lib frames') := by
  unfold frameStamps
  apply Alike.mapM
  constructor
  · rintro ⟨source, cycle, row⟩ mem
    obtain ⟨destination, found⟩ := mem_frameRows.mp mem
    obtain ⟨row', found', record⟩ := same.there found
    refine ⟨(source, cycle, row'), mem_frameRows.mpr ⟨destination, found'⟩, ?_⟩
    dsimp only
    rw [record.stamp]
    exact .of_eq rfl
  · rintro ⟨source, cycle, row'⟩ mem
    obtain ⟨destination, found'⟩ := mem_frameRows.mp mem
    obtain ⟨row, found, record⟩ := same.back found'
    refine ⟨(source, cycle, row), mem_frameRows.mpr ⟨destination, found⟩, ?_⟩
    dsimp only
    rw [record.stamp]
    exact .of_eq rfl

end Frames

/-! ## One source -/

/-- Two findings settle the same, and expect the same records. -/
structure Findings.Same (findings findings' : Findings) : Prop where
  pending : findings.pending = [] ↔ findings'.pending = []
  expected : ∀ key, key ∈ findings.expectedRows ↔ key ∈ findings'.expectedRows

theorem Findings.Same.join {parts parts' : List Findings}
    (matched : Matched Findings.Same parts parts') :
    Findings.Same (Findings.join parts) (Findings.join parts') where
  pending := by
    unfold Findings.join
    rw [List.flatMap_eq_nil_iff, List.flatMap_eq_nil_iff]
    constructor
    · intro settled part' mem
      obtain ⟨part, isPart, same⟩ := matched.back part' mem
      exact same.pending.mp (settled part isPart)
    · intro settled part mem
      obtain ⟨part', isPart', same⟩ := matched.there part mem
      exact same.pending.mpr (settled part' isPart')
  expected key := by
    unfold Findings.join
    rw [List.mem_flatMap, List.mem_flatMap]
    constructor
    · rintro ⟨part, isPart, mem⟩
      obtain ⟨part', isPart', same⟩ := matched.there part isPart
      exact ⟨part', isPart', (same.expected key).mp mem⟩
    · rintro ⟨part', isPart', mem⟩
      obtain ⟨part, isPart, same⟩ := matched.back part' isPart'
      exact ⟨part, isPart, (same.expected key).mpr mem⟩

theorem auditCycle_alike {frames frames' : Frames} (same : SameFrames frames frames')
    (start stop : Int) (source : String) (cycle : Nat) :
    Alike Findings.Same (auditCycle d lib frames start stop source cycle)
      (auditCycle d lib frames' start stop source cycle) := by
  unfold auditCycle
  cases d.frameOf source cycle with
  | none => exact .fail
  | some expected =>
      dsimp only
      have windowKeys : Alike (Matched (· = ·))
          ((frames.targets source cycle).values.mapM (windowKey lib start stop))
          ((frames'.targets source cycle).values.mapM (windowKey lib start stop)) := by
        apply Alike.mapM
        constructor
        · intro row mem
          obtain ⟨row', mem', record⟩ := (same.values source cycle).there row mem
          exact ⟨row', mem', .of_eq (record.windowKey start stop)⟩
        · intro row' mem'
          obtain ⟨row, mem, record⟩ := (same.values source cycle).back row' mem'
          exact ⟨row, mem, .of_eq (record.windowKey start stop)⟩
      refine windowKeys.bind fun keys keys' matched => .done ⟨?_, ?_⟩
      · have targets : sameSet (frames.targets source cycle).keys expected.names =
            sameSet (frames'.targets source cycle).keys expected.names := by
          apply Bool.eq_iff_iff.mpr
          rw [sameSet_iff, sameSet_iff]
          exact forall_congr' fun destination => by rw [same.keys]
        dsimp only
        rw [targets]
      · intro key
        simp only [List.mem_flatten, matched.mem_iff]

theorem max?_congr {xs ys : List Nat} (same : ∀ x, x ∈ xs ↔ x ∈ ys) : xs.max? = ys.max? := by
  apply Option.ext
  intro x
  rw [List.max?_eq_some_iff, List.max?_eq_some_iff]
  simp only [same]

theorem min?_congr {xs ys : List Nat} (same : ∀ x, x ∈ xs ↔ x ∈ ys) : xs.min? = ys.min? := by
  apply Option.ext
  intro x
  rw [List.min?_eq_some_iff, List.min?_eq_some_iff]
  simp only [same]

/-- The stamps of a source are in conflict if a later time has a smaller cycle. -/
theorem conflict_iff {stamps : List Stamp} {source : String} :
    ((orderedStamps stamps source).zip (orderedStamps stamps source).tail).any
        (fun (before, after) => after.2 < before.2) = true ↔
      ∃ a ∈ orderedStamps stamps source, ∃ b ∈ orderedStamps stamps source,
        a.1 < b.1 ∧ b.2 < a.2 := by
  constructor
  · intro conflict
    by_contra none_
    have ascending : (orderedStamps stamps source).Pairwise fun a b => a.2 ≤ b.2 := by
      refine (orderedStamps_pairwise stamps source).imp_of_mem ?_
      intro a b isA isB ordered
      rw [stampLe, decide_eq_true_eq] at ordered
      rcases ordered with earlier | ⟨-, le⟩
      · by_contra above
        exact none_ ⟨a, isA, b, isB, earlier, not_le.mp above⟩
      · exact le
    obtain ⟨pair, mem, above⟩ := List.any_eq_true.mp conflict
    have le := consecutive_of_pairwise ascending pair mem
    exact absurd (of_decide_eq_true above) (not_lt.mpr le)
  · rintro ⟨a, isA, b, isB, earlier, above⟩
    by_contra noConflict
    exact absurd (cycles_monotone noConflict isA isB earlier) (not_le.mpr above)

theorem auditSource_alike {frames frames' : Frames} (same : SameFrames frames frames')
    {stamps stamps' : List Stamp} (matched : Matched (· = ·) stamps stamps') (start stop : Int)
    (source : String) :
    Alike Findings.Same (auditSource d lib frames stamps start stop source)
      (auditSource d lib frames' stamps' start stop source) := by
  have ordered (stamp : Int × Nat) :
      stamp ∈ orderedStamps stamps source ↔ stamp ∈ orderedStamps stamps' source := by
    obtain ⟨time, cycle⟩ := stamp
    rw [mem_orderedStamps, mem_orderedStamps, matched.mem_iff]
  have boundary (side : Int → Bool) (cycle : Nat) :
      cycle ∈ ((orderedStamps stamps source).filter fun stamp => side stamp.1).map Prod.snd ↔
        cycle ∈ ((orderedStamps stamps' source).filter fun stamp => side stamp.1).map Prod.snd := by
    simp only [mem_boundary side, ordered]
  unfold auditSource
  dsimp only
  refine (Alike.reject ?_).bind fun _ _ _ => ?_
  · rw [conflict_iff, conflict_iff]
    simp only [ordered]
  · rw [max?_congr (boundary fun time => decide (time < start)),
      min?_congr (boundary fun time => decide (stop ≤ time))]
    split
    · exact .done ⟨Iff.rfl, fun _ => Iff.rfl⟩
    · exact .done ⟨Iff.rfl, fun _ => Iff.rfl⟩
    · rename_i left right _ _
      refine (Alike.mapM (S := Findings.Same) ?_).bind fun parts parts' matched =>
        .done (.join matched)
      constructor
      · exact fun cycle mem => ⟨cycle, mem, auditCycle_alike same start stop source cycle⟩
      · exact fun cycle mem => ⟨cycle, mem, auditCycle_alike same start stop source cycle⟩

/-! ## The snapshot -/

/-- A complete row that the snapshot loop takes. -/
def Taken (row : Row) : Prop :=
  ¬ (snapshotFields.any fun field => (row.field field).any fun value => ¬ isFinite value) = true ∧
    ∃ key, row.key = .ok key

/-- What the snapshot loop knows after some rows. -/
structure SnapshotOf (rows : List Row) (before after : SnapshotState) : Prop where
  taken : ∀ row ∈ rows, row.complete snapshotFields = true →
    Taken row ∧ ∀ key, row.key = .ok key → after.actual.get key = some row
  known : ∀ key row, after.actual.get key = some row →
    row ∈ rows ∧ row.complete snapshotFields = true ∧ row.key = .ok key
  settled : after.pending = [] ↔
    before.pending = [] ∧ ∀ row ∈ rows, row.complete snapshotFields = true

theorem foldlM_snoc (rows : List Row) (row : Row) (state : SnapshotState) :
    (rows ++ [row]).foldlM addSnapshot state =
      (rows.foldlM addSnapshot state >>= fun next => addSnapshot next row) := by
  rw [List.foldlM_append]
  congr 1
  funext next
  rw [List.foldlM_cons]
  rcases addSnapshot next row with _ | _ <;> rfl

theorem snapshot_spec {rows : List Row} {before after : SnapshotState}
    (empty : before.actual = .empty) (done : rows.foldlM addSnapshot before = .ok after) :
    SnapshotOf rows before after := by
  induction rows using List.reverseRecOn generalizing after with
  | nil =>
      rw [List.foldlM_nil, pure_eq_ok] at done
      subst done
      refine ⟨fun _ mem => absurd mem List.not_mem_nil, fun key row found => ?_, ?_⟩
      · rw [empty] at found
        cases found
      · exact ⟨fun settled => ⟨settled, fun _ mem => absurd mem List.not_mem_nil⟩, And.left⟩
  | append_singleton rows row ih =>
      rw [foldlM_snoc, bind_eq_ok] at done
      obtain ⟨next, first, last⟩ := done
      have spec := ih first
      unfold addSnapshot at last
      split at last
      · rename_i incomplete
        rw [pure_eq_ok] at last
        subst last
        refine ⟨fun other mem complete => ?_, fun key other found => ?_, ?_⟩
        · rcases List.mem_append.mp mem with old | new
          · exact spec.taken other old complete
          · rw [List.mem_singleton.mp new] at complete
            exact absurd complete incomplete
        · obtain ⟨mem, rest⟩ := spec.known key other found
          exact ⟨List.mem_append_left _ mem, rest⟩
        · constructor
          · intro settled
            exact absurd settled (List.append_ne_nil_of_right_ne_nil _ (List.cons_ne_nil _ _))
          · intro both
            exact absurd (both.2 row (List.mem_append_right _ (List.mem_singleton_self _))) incomplete
      · rename_i complete
        have complete : row.complete snapshotFields = true := not_not.mp complete
        simp only [bind_eq_ok, reject_eq_ok, pure_eq_ok] at last
        obtain ⟨_, finite, key, isKey, _, agrees, rfl⟩ := last
        have agrees (known : Row) (found : next.actual.get key = some known) : known = row := by
          by_contra differs
          apply agrees
          rw [found]
          exact decide_eq_true differs
        refine ⟨fun other mem isComplete => ?_, fun key' other found => ?_, ?_⟩
        · rcases List.mem_append.mp mem with old | new
          · obtain ⟨isTaken, kept⟩ := spec.taken other old isComplete
            refine ⟨isTaken, fun key' isKey' => ?_⟩
            change (next.actual.set key row).get key' = some other
            rw [Dict.get_set]
            split
            · rename_i same
              rw [same] at isKey'
              rw [agrees other (kept key isKey')]
            · exact kept key' isKey'
          · obtain rfl := List.mem_singleton.mp new
            refine ⟨⟨finite, key, isKey⟩, fun key' isKey' => ?_⟩
            obtain rfl := Except.ok.inj (isKey.symm.trans isKey')
            change (next.actual.set key other).get key = some other
            rw [Dict.get_set, if_pos rfl]
        · change (next.actual.set key row).get key' = some other at found
          rw [Dict.get_set] at found
          split at found
          · rename_i same
            obtain rfl := Option.some.inj found
            exact ⟨List.mem_append_right _ (List.mem_singleton_self _), complete, same ▸ isKey⟩
          · obtain ⟨mem, rest⟩ := spec.known key' other found
            exact ⟨List.mem_append_left _ mem, rest⟩
        · change next.pending = [] ↔ _
          rw [spec.settled]
          constructor
          · rintro ⟨settled, all⟩
            refine ⟨settled, fun other mem => ?_⟩
            rcases List.mem_append.mp mem with old | new
            · exact all other old
            · rw [List.mem_singleton.mp new]
              exact complete
          · rintro ⟨settled, all⟩
            exact ⟨settled, fun other mem => all other (List.mem_append_left _ mem)⟩

/-- The loop runs through rows that it takes, no two of which differ under one key. -/
theorem snapshot_total {rows : List Row} {before : SnapshotState} (empty : before.actual = .empty)
    (taken : ∀ row ∈ rows, row.complete snapshotFields = true → Taken row)
    (agree : ∀ a ∈ rows, ∀ b ∈ rows, a.complete snapshotFields = true →
      b.complete snapshotFields = true → ∀ key, a.key = .ok key → b.key = .ok key → a = b) :
    ∃ after, rows.foldlM addSnapshot before = .ok after := by
  induction rows using List.reverseRecOn with
  | nil => exact ⟨before, rfl⟩
  | append_singleton rows row ih =>
      obtain ⟨next, first⟩ := ih (fun other mem => taken other (List.mem_append_left _ mem))
        fun a isA b isB => agree a (List.mem_append_left _ isA) b (List.mem_append_left _ isB)
      rw [foldlM_snoc, first, ok_bind]
      unfold addSnapshot
      have last : row ∈ rows ++ [row] := List.mem_append_right _ (List.mem_singleton_self _)
      split
      · exact ⟨_, rfl⟩
      · rename_i complete
        have complete : row.complete snapshotFields = true := not_not.mp complete
        obtain ⟨finite, key, isKey⟩ := taken row last complete
        simp only [bind_eq_ok, reject_eq_ok, pure_eq_ok]
        refine ⟨_, (), finite, key, isKey, (), ?_, rfl⟩
        cases found : next.actual.get key with
        | none => exact nofun
        | some known =>
            obtain ⟨mem, isComplete, isKnown⟩ := (snapshot_spec empty first).known key known found
            have same := agree known (List.mem_append_left _ mem) row last isComplete complete key
              isKnown isKey
            rw [same]
            exact fun differs => of_decide_eq_true differs rfl

/-- Two snapshots hold the same records, and settle the same if they start the same. -/
structure SameSnapshot (start : Prop) (state state' : SnapshotState) : Prop where
  pending : start → (state.pending = [] ↔ state'.pending = [])
  actual : ∀ key, state.actual.get key = state'.actual.get key

theorem snapshot_alike {rows rows' : List Row} (same : ∀ row, row ∈ rows ↔ row ∈ rows')
    {before before' : SnapshotState} (empty : before.actual = .empty)
    (empty' : before'.actual = .empty) :
    Alike (SameSnapshot (before.pending = [] ↔ before'.pending = [])) (rows.foldlM addSnapshot before) (rows'.foldlM addSnapshot before') := by
  have total {rows rows' : List Row} (same : ∀ row, row ∈ rows ↔ row ∈ rows')
      {before before' after : SnapshotState} (empty : before.actual = .empty)
      (empty' : before'.actual = .empty) (done : rows.foldlM addSnapshot before = .ok after) :
      ∃ after', rows'.foldlM addSnapshot before' = .ok after' := by
    have spec := snapshot_spec empty done
    apply snapshot_total empty'
    · exact fun row mem complete => (spec.taken row ((same row).mpr mem) complete).1
    · intro a isA b isB completeA completeB key keyA keyB
      have foundA := (spec.taken a ((same a).mpr isA) completeA).2 key keyA
      have foundB := (spec.taken b ((same b).mpr isB) completeB).2 key keyB
      exact Option.some.inj (foundA.symm.trans foundB)
  apply Alike.of_ok
  · intro after done
    obtain ⟨after', done'⟩ := total same empty empty' done
    have spec := snapshot_spec empty done
    have spec' := snapshot_spec empty' done'
    refine ⟨after', done', fun pending => ?_, fun key => Option.ext fun row => ?_⟩
    · rw [spec.settled, spec'.settled, pending]
      simp only [same]
    · constructor
      · intro found
        obtain ⟨mem, complete, isKey⟩ := spec.known key row found
        exact (spec'.taken row ((same row).mp mem) complete).2 key isKey
      · intro found
        obtain ⟨mem, complete, isKey⟩ := spec'.known key row found
        exact (spec.taken row ((same row).mpr mem) complete).2 key isKey
  · intro after' done'
    exact total (fun row => (same row).symm) empty' empty done'

/-! ## The audit -/

/-- The audit after the search for an incomplete progress row. -/
def auditRest (d : Detector) (lib : PyLibrary) (complete snapshotRows : List Row)
    (start stop : Int) (missing : Bool) :
    Except String (List String × List RecordKey × Dict RecordKey Row) := do
  let pending := if missing then ["progress: missing required fields"] else []
  let frames ← d.progressFrames lib complete
  let stamps ← frameStamps lib frames
  let sources ← d.clients.mapM (auditSource d lib frames stamps start stop)
  let audited := Findings.join (⟨pending, []⟩ :: sources)
  let snapshot ← snapshotRows.foldlM addSnapshot ⟨audited.pending, .empty⟩
  let pending :=
    if sameSet snapshot.actual.keys audited.expectedRows then snapshot.pending
    else snapshot.pending ++ ["snapshot and frame records do not match"]
  let _ ← d.progressFrames lib snapshot.actual.values
  pure (pending, audited.expectedRows, snapshot.actual)

/-- The search: an incomplete row in the window. -/
def incompleteInWindow (lib : PyLibrary) (start stop : Int) (row : Row) : Except String Bool :=
  if row.complete progressFields then pure false else inWindow lib start stop row

theorem auditBody_eq (progress snapshot : List Row) (start stop : Int) :
    auditBody d lib progress snapshot start stop =
      (progress.anyM (incompleteInWindow lib start stop) >>=
        auditRest d lib (completeRows progress) snapshot start stop) := rfl

/-- Two results of the audit settle the same if their searches end the same, and count and hold the
same records. -/
structure SameAudit (start : Prop)
    (result result' : List String × List RecordKey × Dict RecordKey Row) : Prop where
  pending : start → (result.1 = [] ↔ result'.1 = [])
  expected : ∀ key, key ∈ result.2.1 ↔ key ∈ result'.2.1
  actual : ∀ key, result.2.2.get key = result'.2.2.get key

theorem keys_of_get {actual actual' : Dict RecordKey Row}
    (same : ∀ key, actual.get key = actual'.get key) (key : RecordKey) :
    key ∈ actual.keys ↔ key ∈ actual'.keys := by
  rw [Dict.mem_keys, Dict.mem_keys, same]

theorem auditRest_alike {complete complete' snapshot snapshot' : List Row}
    (sameComplete : ∀ row, row ∈ complete ↔ row ∈ complete')
    (sameSnapshot : ∀ row, row ∈ snapshot ↔ row ∈ snapshot') (start stop : Int)
    (missing missing' : Bool) :
    Alike (SameAudit (missing = missing'))
      (auditRest d lib complete snapshot start stop missing)
      (auditRest d lib complete' snapshot' start stop missing') := by
  unfold auditRest
  dsimp only
  refine (progressFrames_alike sameComplete).bind fun frames frames' same => ?_
  refine (frameStamps_alike same).bind fun stamps stamps' matched => ?_
  have sources : Alike (Matched Findings.Same)
      (d.clients.mapM (auditSource d lib frames stamps start stop))
      (d.clients.mapM (auditSource d lib frames' stamps' start stop)) := by
    apply Alike.mapM
    constructor
    · exact fun source mem => ⟨source, mem, auditSource_alike same matched start stop source⟩
    · exact fun source mem => ⟨source, mem, auditSource_alike same matched start stop source⟩
  refine sources.bind fun parts parts' matched => ?_
  have joined := Findings.Same.join matched
  refine (snapshot_alike sameSnapshot rfl rfl).bind fun state state' held => ?_
  have sets : sameSet state.actual.keys (Findings.join parts).expectedRows =
      sameSet state'.actual.keys (Findings.join parts').expectedRows := by
    apply Bool.eq_iff_iff.mpr
    rw [sameSet_iff, sameSet_iff]
    exact forall_congr' fun key => by rw [keys_of_get held.actual, joined.expected]
  have values (row : Row) : row ∈ state.actual.values ↔ row ∈ state'.actual.values := by
    simp only [Dict.mem_values, held.actual]
  refine (progressFrames_alike values).bind fun _ _ _ => .done ⟨fun start => ?_, ?_, held.actual⟩
  · have pending := held.pending ?_
    · change (if sameSet state.actual.keys (Findings.join parts).expectedRows = true then _ else _) = [] ↔
        (if sameSet state'.actual.keys (Findings.join parts').expectedRows = true then _ else _) = []
      rw [sets]
      split
      · exact pending
      · constructor
        · intro settled
          exact absurd settled (List.append_ne_nil_of_right_ne_nil _ (List.cons_ne_nil _ _))
        · intro settled
          exact absurd settled (List.append_ne_nil_of_right_ne_nil _ (List.cons_ne_nil _ _))
    · subst start
      change _ ++ (Findings.join parts).pending = [] ↔ _ ++ (Findings.join parts').pending = []
      rw [List.append_eq_nil_iff, List.append_eq_nil_iff, joined.pending]
  · exact joined.expected

theorem keyLe_trans (a b c : RecordKey) (first : keyLe a b = true) (second : keyLe b c = true) :
    keyLe a c = true :=
  decide_eq_true (Sorting.lex_trans String.lt_trans (Sorting.lex_trans Nat.lt_trans
    (Sorting.lex_trans String.lt_trans String.le_trans)) (of_decide_eq_true first)
      (of_decide_eq_true second))

theorem keyLe_total (a b : RecordKey) : keyLe a b = true ∨ keyLe b a = true := by
  have total := Sorting.lex_total (Sorting.string_cases a.1 b.1)
    (Sorting.lex_total (Nat.lt_trichotomy a.2.1 b.2.1)
      (Sorting.lex_total (Sorting.string_cases a.2.2.1 b.2.2.1) (String.le_total a.2.2.2 b.2.2.2)))
  exact total.imp decide_eq_true decide_eq_true

theorem keyLe_antisymm {a b : RecordKey} (first : keyLe a b = true) (second : keyLe b a = true) :
    a = b := by
  obtain ⟨source, first, second⟩ := Sorting.lex_antisymm String.lt_trans String.lt_irrefl
    (of_decide_eq_true first) (of_decide_eq_true second)
  obtain ⟨cycle, first, second⟩ :=
    Sorting.lex_antisymm Nat.lt_trans Nat.lt_irrefl first second
  obtain ⟨destination, first, second⟩ :=
    Sorting.lex_antisymm String.lt_trans String.lt_irrefl first second
  exact Prod.ext source (Prod.ext cycle (Prod.ext destination (String.le_antisymm first second)))

/-! ## The reported outcome -/

/-- What a consumer reads of an audit besides its texts: nothing if it is invalid, else whether it
is ready, the counts and the digest. -/
def outcomeOf (lib : PyLibrary)
    (result : Except String (List String × List RecordKey × Dict RecordKey Row)) :
    Option (Bool × Nat × Nat × Option String) :=
  match result with
  | .error _ => none
  | .ok (pending, expectedRows, actual) =>
      some (pending = [], expectedRows.dedup.length, actual.keys.length,
        if pending = [] then some (recordsSha256 lib actual) else none)

theorem recordsSha256_congr {actual actual' : Dict RecordKey Row}
    (same : ∀ key, actual.get key = actual'.get key) :
    recordsSha256 lib actual = recordsSha256 lib actual' := by
  have keys : actual.keys.Perm actual'.keys :=
    (List.perm_ext_iff_of_nodup actual.nodup actual'.nodup).mpr (keys_of_get same)
  have sorted := Sorting.sorted_eq_of_perm keys keyLe_trans keyLe_total
    fun _ _ _ _ => keyLe_antisymm
  unfold recordsSha256
  simp only [same, sorted]

theorem outcomeOf_congr {start : Prop} (holds : start)
    {result result' : Except String (List String × List RecordKey × Dict RecordKey Row)}
    (alike : Alike (SameAudit start) result result') :
    outcomeOf lib result = outcomeOf lib result' := by
  cases alike with
  | fail => rfl
  | @done result result' same =>
      obtain ⟨pending, expectedRows, actual⟩ := result
      obtain ⟨pending', expectedRows', actual'⟩ := result'
      have expected : expectedRows.dedup.length = expectedRows'.dedup.length := by
        apply List.Perm.length_eq
        rw [List.perm_ext_iff_of_nodup (List.nodup_dedup _) (List.nodup_dedup _)]
        intro key
        rw [List.mem_dedup, List.mem_dedup]
        exact same.expected key
      have observed : actual.keys.length = actual'.keys.length :=
        ((List.perm_ext_iff_of_nodup actual.nodup actual'.nodup).mpr
          (keys_of_get same.actual)).length_eq
      have settled : pending = [] ↔ pending' = [] := same.pending holds
      unfold outcomeOf
      dsimp only
      rw [expected, observed, recordsSha256_congr same.actual]
      simp only [settled]

/-- What a consumer reads of a report besides its texts. -/
def Audit.outcome : Audit → Option (Bool × Nat × Nat × Option String)
  | .invalid _ => none
  | .closed ready expectedRecords observedRecords _ recordsSha256 =>
      some (ready, expectedRecords, observedRecords, recordsSha256)

theorem outcome_auditIngestion {progress snapshot : List Row} {startTime endTime : String}
    {start stop : Int} (isStart : lib.time startTime = .ok start)
    (isStop : lib.time endTime = .ok stop) :
    (auditIngestion d lib progress snapshot startTime endTime).map Audit.outcome =
      .ok (outcomeOf lib (auditBody d lib progress snapshot start stop)) := by
  unfold auditIngestion
  rw [isStart, ok_bind, isStop, ok_bind]
  cases auditBody d lib progress snapshot start stop with
  | error e => rfl
  | ok result => rfl

/-! ## Rearranged rows -/

/-- The rows in another order, and some of them repeated. -/
def Rearranged (rows rows' : List Row) : Prop :=
  ∃ copies, copies ⊆ rows ∧ rows'.Perm (rows ++ copies)

theorem Rearranged.mem_iff {rows rows' : List Row} (rearranged : Rearranged rows rows')
    (row : Row) : row ∈ rows ↔ row ∈ rows' := by
  obtain ⟨copies, inside, perm⟩ := rearranged
  rw [perm.mem_iff, List.mem_append]
  exact ⟨.inl, fun mem => mem.elim id fun copy => inside copy⟩

theorem Rearranged.refl (rows : List Row) : Rearranged rows rows :=
  ⟨[], List.nil_subset _, (List.append_nil rows).symm ▸ .refl _⟩

theorem rearranged_of_perm {rows rows' : List Row} (perm : rows'.Perm rows) :
    Rearranged rows rows' :=
  ⟨[], List.nil_subset _, (List.append_nil rows).symm ▸ perm⟩

theorem completeRows_mem_iff {rows rows' : List Row} (same : ∀ row, row ∈ rows ↔ row ∈ rows')
    (row : Row) : row ∈ completeRows rows ↔ row ∈ completeRows rows' := by
  unfold completeRows
  rw [List.mem_filter, List.mem_filter, same]

/-- There is an incomplete progress row in the window, and one whose time cannot be read. -/
def MixedProgress (lib : PyLibrary) (start stop : Int) (progress : List Row) : Prop :=
  (∃ row ∈ progress, row.complete progressFields = false ∧
    inWindow lib start stop row = .ok true) ∧
  ∃ row ∈ progress, row.complete progressFields = false ∧ ∃ e, row.stamp lib = .error e

section Mixed

variable {start stop : Int} {row : Row} {progress progress' snapshot snapshot' : List Row}

theorem incompleteInWindow_true : incompleteInWindow lib start stop row = .ok true ↔
    row.complete progressFields = false ∧ inWindow lib start stop row = .ok true := by
  unfold incompleteInWindow
  cases row.complete progressFields with
  | true => exact ⟨nofun, fun both => nomatch both.1⟩
  | false => exact ⟨fun hit => ⟨rfl, hit⟩, And.right⟩

theorem incompleteInWindow_error : (∃ e, incompleteInWindow lib start stop row = .error e) ↔
    row.complete progressFields = false ∧ ∃ e, row.stamp lib = .error e := by
  unfold incompleteInWindow inWindow
  cases row.complete progressFields with
  | true => exact ⟨nofun, fun both => nomatch both.1⟩
  | false =>
      cases row.stamp lib with
      | error e => exact ⟨fun _ => ⟨rfl, e, rfl⟩, fun _ => ⟨e, rfl⟩⟩
      | ok time => exact ⟨nofun, fun both => nomatch both.2⟩

theorem mixedProgress_iff : MixedProgress lib start stop progress ↔
    (∃ row ∈ progress, incompleteInWindow lib start stop row = .ok true) ∧
      ∃ row ∈ progress, ∃ e, incompleteInWindow lib start stop row = .error e := by
  unfold MixedProgress
  simp only [incompleteInWindow_true, incompleteInWindow_error]

/-- The audit of the complete rows alone is the rest of the audit. -/
theorem auditBody_completeRows :
    auditBody d lib (completeRows progress) snapshot start stop =
      auditRest d lib (completeRows progress) snapshot start stop false := by
  have search : (completeRows progress).anyM (incompleteInWindow lib start stop) = .ok false := by
    rw [anyM_eq_false]
    intro row mem
    unfold incompleteInWindow
    rw [if_pos (List.mem_filter.mp mem).2]
    rfl
  have idempotent : completeRows (completeRows progress) = completeRows progress := by
    unfold completeRows
    rw [List.filter_filter]
    exact List.filter_congr fun row _ => Bool.and_self _
  rw [auditBody_eq, search, ok_bind, idempotent]

/-- Rearranged rows without a mixture audit alike. -/
theorem outcome_of_unmixed (same : ∀ row, row ∈ progress ↔ row ∈ progress')
    (sameSnapshot : ∀ row, row ∈ snapshot ↔ row ∈ snapshot')
    (unmixed : ¬ MixedProgress lib start stop progress) :
    outcomeOf lib (auditBody d lib progress snapshot start stop) =
      outcomeOf lib (auditBody d lib progress' snapshot' start stop) := by
  rw [mixedProgress_iff] at unmixed
  refine @outcomeOf_congr lib True trivial _ _ ?_
  rw [auditBody_eq, auditBody_eq]
  refine (Alike.anyM same unmixed).bind ?_
  rintro missing _ rfl
  exact (auditRest_alike (completeRows_mem_iff same) sameSnapshot start stop missing missing).mono
    fun _ _ held => ⟨fun _ => held.pending rfl, held.expected, held.actual⟩

/-- Where the audit of the complete rows fails, so does every audit of the rows rearranged. -/
theorem outcome_of_failed (same : ∀ row, row ∈ progress ↔ row ∈ progress')
    (sameSnapshot : ∀ row, row ∈ snapshot ↔ row ∈ snapshot')
    (failed : ∃ e, auditBody d lib (completeRows progress) snapshot start stop = .error e) :
    outcomeOf lib (auditBody d lib progress' snapshot' start stop) = none := by
  obtain ⟨e, failed⟩ := failed
  rw [auditBody_completeRows] at failed
  rw [auditBody_eq]
  cases search : progress'.anyM (incompleteInWindow lib start stop) with
  | error e' => rfl
  | ok missing =>
      obtain ⟨e', failed'⟩ := (auditRest_alike (completeRows_mem_iff same) sameSnapshot start stop
        false missing).error_there failed
      rw [ok_bind, failed']
      rfl

/-- A row in the window that comes first is found, and one without a time that comes first fails. -/
theorem outcome_of_mixed (mixed : MixedProgress lib start stop progress)
    {result : List String × List RecordKey × Dict RecordKey Row}
    (done : auditBody d lib (completeRows progress) snapshot start stop = .ok result) :
    ∃ found failed, found.Perm progress ∧ failed.Perm progress ∧
      outcomeOf lib (auditBody d lib found snapshot start stop) ≠ none ∧
      outcomeOf lib (auditBody d lib failed snapshot start stop) = none := by
  obtain ⟨⟨hit, isHit, hits⟩, ⟨miss, isMiss, e, fails⟩⟩ := mixedProgress_iff.mp mixed
  have foundPerm : (hit :: progress.erase hit).Perm progress := (List.perm_cons_erase isHit).symm
  have failedPerm : (miss :: progress.erase miss).Perm progress :=
    (List.perm_cons_erase isMiss).symm
  refine ⟨_, _, foundPerm, failedPerm, ?_, ?_⟩
  · have search : (hit :: progress.erase hit).anyM (incompleteInWindow lib start stop) =
        .ok true := by
      rw [List.anyM_cons, hits]
      rfl
    rw [auditBody_completeRows] at done
    have same (row : Row) : row ∈ progress ↔ row ∈ hit :: progress.erase hit :=
      foundPerm.mem_iff.symm
    obtain ⟨other, done', -⟩ := (auditRest_alike (completeRows_mem_iff same) (fun _ => Iff.rfl)
      start stop false true).ok_there done
    rw [auditBody_eq, search, ok_bind, done']
    exact nofun
  · rw [auditBody_eq, List.anyM_cons, fails]
    rfl

end Mixed

/-- Without complete rows every client misses its boundary, and the audit goes through. -/
theorem auditRest_empty (start stop : Int) (missing : Bool) :
    ∃ result, auditRest d lib [] [] start stop missing = .ok result := by
  have stamps : frameStamps lib .empty = .ok [] := rfl
  obtain ⟨parts, sources⟩ := @mapM_total String String Findings
    (auditSource d lib .empty [] start stop) d.clients fun source _ => ⟨_, rfl⟩
  unfold auditRest
  dsimp only
  have frames : d.progressFrames lib [] = .ok .empty := rfl
  rw [frames, ok_bind, stamps, ok_bind, sources, ok_bind]
  exact ⟨_, rfl⟩

/-- A library for the times of two rows. -/
def twoTimesLibrary : PyLibrary where
  time text :=
    if text = "2026-01-01T00:00:00Z" then .ok 0
    else if text = "2026-01-01T00:00:05Z" then .ok 5000000
    else if text = "2026-01-01T00:00:10Z" then .ok 10000000
    else .error ("Invalid isoformat string: '" ++ text ++ "'")
  reprFloat _ := "0.0"

/-- A progress row without a source. -/
def namelessRow (time : String) : Row where
  time := some time
  srcName := none
  dstName := some "client2"
  srcIp := none
  dstIp := none
  planId := none
  field _ := none

/-- The audit of two progress rows in a window, with an empty snapshot. -/
def auditTwo (d : Detector) (first second : Row) : Except String Audit :=
  auditIngestion d twoTimesLibrary [first, second] [] "2026-01-01T00:00:00Z" "2026-01-01T00:00:10Z"

/-- With a row in the window before one without a time that can be read, the audit is pending or
ready; with the two rows in the other order it is invalid. -/
theorem auditTwo_differs (d : Detector) :
    (auditTwo d (namelessRow "2026-01-01T00:00:05Z") (namelessRow "yesterday")).map Audit.outcome ≠
      (auditTwo d (namelessRow "yesterday") (namelessRow "2026-01-01T00:00:05Z")).map
        Audit.outcome := by
  unfold auditTwo
  have isStart : twoTimesLibrary.time "2026-01-01T00:00:00Z" = .ok 0 := by decide +kernel
  have isStop : twoTimesLibrary.time "2026-01-01T00:00:10Z" = .ok 10000000 := by decide +kernel
  rw [outcome_auditIngestion isStart isStop, outcome_auditIngestion isStart isStop, auditBody_eq,
    auditBody_eq]
  have found : [namelessRow "2026-01-01T00:00:05Z", namelessRow "yesterday"].anyM
      (incompleteInWindow twoTimesLibrary 0 10000000) = .ok true := by decide +kernel
  obtain ⟨e, failed⟩ : ∃ e, [namelessRow "yesterday", namelessRow "2026-01-01T00:00:05Z"].anyM
      (incompleteInWindow twoTimesLibrary 0 10000000) = .error e := ⟨_, rfl⟩
  obtain ⟨result, done⟩ := @auditRest_empty d twoTimesLibrary 0 10000000 true
  rw [found, failed, ok_bind]
  change Except.ok (outcomeOf twoTimesLibrary (auditRest d twoTimesLibrary [] [] 0 10000000 true)) ≠ _
  rw [done]
  exact nofun

end Detector

end NetOpsBench
