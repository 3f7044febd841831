import NetOpsBench.Pingmesh.Ingestion

/-!
# The frames of a progress log

What `progressFrames` makes of a list of rows (`FramesOf`): a row for every key of the
log and no other. It succeeds exactly when every row is accepted and no key comes with
two timestamps. The stamps by which a source is ordered are those of its rows.
-/

namespace NetOpsBench

open Fallible

theorem require_eq_ok {α : Type} {key : String} {value : Option α} {a : α} :
    require key value = .ok a ↔ value = some a := by
  cases value with
  | none => simp [require]
  | some b => simp [require]

theorem Row.key_eq_ok {row : Row} {source destination timestamp : String} {cycle : Nat} :
    row.key = .ok (source, cycle, destination, timestamp) ↔
      row.srcName = some source ∧ row.integer .probeCycle = .ok cycle ∧
        row.dstName = some destination ∧ row.time = some timestamp := by
  simp only [Row.key, bind_eq_ok, require_eq_ok, pure_eq_ok, Prod.mk.injEq]
  constructor
  · intro parts
    obtain ⟨_, srcName, _, integer, _, dstName, _, time, s, c, d, t⟩ := parts
    exact ⟨s ▸ srcName, c ▸ integer, d ▸ dstName, t ▸ time⟩
  · intro parts
    obtain ⟨srcName, integer, dstName, time⟩ := parts
    exact ⟨source, srcName, cycle, integer, destination, dstName, timestamp, time, rfl, rfl, rfl,
      rfl⟩

theorem Row.stamp_eq_ok {row : Row} {lib : PyLibrary} {time : Int} :
    row.stamp lib = .ok time ↔ ∃ text, row.time = some text ∧ lib.time text = .ok time := by
  simp only [Row.stamp, bind_eq_ok, require_eq_ok]

namespace Detector

variable {d : Detector} {lib : PyLibrary}

/-- The checks of `_progress_frames` that concern one row alone. -/
structure Accepts (d : Detector) (lib : PyLibrary) (row : Row) (source : String) (cycle : Nat)
    (destination timestamp : String) : Prop where
  key : row.key = .ok (source, cycle, destination, timestamp)
  time : ∃ time, lib.time timestamp = .ok time
  identity : d.checkIdentity row source cycle destination = .ok ()
  addresses : ¬ (d.addressMismatch row.srcName row.srcIp ∨ d.addressMismatch row.dstName row.dstIp)

/-- The identity test, as the code spells it out. -/
theorem checkIdentity_eq_ok {row : Row} {source destination : String} {cycle : Nat} :
    d.checkIdentity row source cycle destination = .ok () ↔
      row.planId = some d.planId ∧ ∃ expected, d.frameOf source cycle = some expected ∧
        destination ∈ expected.names ∧
        row.integer .destinationBatchIndex = .ok expected.destinationBatchIndex ∧
        row.integer .portBatchIndex = .ok expected.portBatchIndex := by
  simp only [checkIdentity, bind_eq_ok, reject_eq_ok, not_not, ne_eq]
  constructor
  · intro ⟨_, planId, rest⟩
    refine ⟨planId, ?_⟩
    rcases found : d.frameOf source cycle with _ | expected
    · rw [found] at rest
      cases rest
    · rw [found] at rest
      simp only [bind_eq_ok, reject_eq_ok, not_not] at rest
      obtain ⟨_, mem, destinationBatch, readDestination, _, destinationEq, portBatch, readPort,
        portEq⟩ := rest
      exact ⟨expected, rfl, mem, destinationEq ▸ readDestination, portEq ▸ readPort⟩
  · intro ⟨planId, expected, found, mem, readDestination, readPort⟩
    refine ⟨(), planId, ?_⟩
    rw [found]
    simp only [bind_eq_ok, reject_eq_ok, not_not]
    exact ⟨(), mem, _, readDestination, (), rfl, _, readPort, rfl⟩

/-- The key of a row that is repeated under another timestamp. -/
def Conflict (frames : Frames) (source : String) (cycle : Nat) (destination timestamp : String) :
    Prop :=
  ∃ previous, (frames.targets source cycle).get destination = some previous ∧
    previous.time ≠ some timestamp

theorem addProgress_eq_ok {frames next : Frames} {row : Row} :
    d.addProgress lib frames row = .ok next ↔
      ∃ source cycle destination timestamp, d.Accepts lib row source cycle destination timestamp ∧
        ¬ Conflict frames source cycle destination timestamp ∧
        next = frames.set (source, cycle) ((frames.targets source cycle).set destination row) := by
  simp only [addProgress, bind_eq_ok, reject_eq_ok, pure_eq_ok, Prod.exists]
  constructor
  · intro ⟨source, cycle, destination, timestamp, key, _, time, _, identity, _, addresses, _,
      conflict, eq⟩
    refine ⟨source, cycle, destination, timestamp, ⟨key, ⟨_, time⟩, identity, addresses⟩, ?_, eq.symm⟩
    intro ⟨previous, found, other⟩
    exact conflict (by simp [found, other])
  · intro ⟨source, cycle, destination, timestamp, accepts, conflict, eq⟩
    obtain ⟨time, timed⟩ := accepts.time
    refine ⟨source, cycle, destination, timestamp, accepts.key, time, timed, (), accepts.identity,
      (), accepts.addresses, (), ?_, eq.symm⟩
    intro other
    rcases found : (frames.targets source cycle).get destination with _ | previous
    · simp [found] at other
    · exact conflict ⟨previous, found, by simpa [found] using other⟩

/-- What the frames of a list of rows hold. -/
structure FramesOf (rows : List Row) (frames : Frames) : Prop where
  sound : ∀ {source cycle destination row},
    (frames.targets source cycle).get destination = some row →
      row ∈ rows ∧ ∃ timestamp, row.key = .ok (source, cycle, destination, timestamp)
  complete : ∀ {source cycle destination timestamp row}, row ∈ rows →
    row.key = .ok (source, cycle, destination, timestamp) →
      ∃ kept, (frames.targets source cycle).get destination = some kept ∧
        kept.key = .ok (source, cycle, destination, timestamp)

theorem targets_set (frames : Frames) (source source' : String) (cycle cycle' : Nat)
    (targets : Dict String Row) :
    Frames.targets (frames.set (source, cycle) targets) source' cycle' =
      if source' = source ∧ cycle' = cycle then targets else frames.targets source' cycle' := by
  rw [Frames.targets, Dict.get_set, Frames.targets]
  by_cases same : source' = source ∧ cycle' = cycle
  · simp [same]
  · rw [if_neg same, if_neg fun eq => same (Prod.mk.inj eq)]

/-- Adding an accepted row keeps the frames in step with the rows. -/
theorem FramesOf.add {rows : List Row} {frames : Frames} (framesOf : FramesOf rows frames)
    {row : Row} {source destination timestamp : String} {cycle : Nat}
    (key : row.key = .ok (source, cycle, destination, timestamp))
    (conflict : ¬ Conflict frames source cycle destination timestamp) :
    FramesOf (rows ++ [row])
      (frames.set (source, cycle) ((frames.targets source cycle).set destination row)) where
  sound := by
    intro source' cycle' destination' row' found
    rw [targets_set] at found
    split at found
    · rename_i same
      obtain ⟨rfl, rfl⟩ := same
      rw [Dict.get_set] at found
      split at found
      · rename_i same
        subst same
        obtain rfl := Option.some.inj found
        exact ⟨by simp, timestamp, key⟩
      · obtain ⟨mem, known⟩ := framesOf.sound found
        exact ⟨by simp [mem], known⟩
    · obtain ⟨mem, known⟩ := framesOf.sound found
      exact ⟨by simp [mem], known⟩
  complete := by
    intro source' cycle' destination' timestamp' row' mem key'
    rw [targets_set]
    by_cases here : source' = source ∧ cycle' = cycle
    · obtain ⟨rfl, rfl⟩ := here
      rw [if_pos ⟨rfl, rfl⟩, Dict.get_set]
      by_cases same : destination' = destination
      · subst same
        rw [if_pos rfl]
        refine ⟨row, rfl, ?_⟩
        rcases List.mem_append.mp mem with old | new
        · -- The earlier row of this key had the same timestamp.
          obtain ⟨kept, found, keptKey⟩ := framesOf.complete old key'
          have keptTime := (Row.key_eq_ok.mp keptKey).2.2.2
          have sameTime : timestamp' = timestamp := by
            by_contra ne
            exact conflict ⟨kept, found, fun eq => ne (Option.some.inj (keptTime.symm.trans eq))⟩
          rw [sameTime]
          exact key
        · rw [List.mem_singleton.mp new] at key'
          exact key'
      · rw [if_neg same]
        rcases List.mem_append.mp mem with old | new
        · exact framesOf.complete old key'
        · rw [List.mem_singleton.mp new] at key'
          have := Except.ok.inj (key'.symm.trans key)
          simp only [Prod.mk.injEq] at this
          exact (same this.2.2.1).elim
    · rw [if_neg here]
      rcases List.mem_append.mp mem with old | new
      · exact framesOf.complete old key'
      · rw [List.mem_singleton.mp new] at key'
        have := Except.ok.inj (key'.symm.trans key)
        simp only [Prod.mk.injEq] at this
        exact (here ⟨this.1, this.2.1⟩).elim

theorem progressFrames_append (rows : List Row) (row : Row) :
    d.progressFrames lib (rows ++ [row]) =
      (d.progressFrames lib rows >>= fun frames => d.addProgress lib frames row) := by
  rw [progressFrames, List.foldlM_append]
  congr 1
  funext frames
  rw [List.foldlM_cons]
  rcases d.addProgress lib frames row with _ | _ <;> rfl

/-- A progress log that passes has accepted every row. -/
theorem progressFrames_spec {rows : List Row} {frames : Frames}
    (done : d.progressFrames lib rows = .ok frames) :
    (∀ row ∈ rows, ∃ source cycle destination timestamp,
        d.Accepts lib row source cycle destination timestamp) ∧ FramesOf rows frames := by
  induction rows using List.reverseRecOn generalizing frames with
  | nil =>
      rw [progressFrames, List.foldlM_nil, pure_eq_ok] at done
      subst done
      refine ⟨fun _ mem => (List.not_mem_nil mem).elim, ?_, ?_⟩
      · intro _ _ _ _ found
        cases found
      · intro _ _ _ _ _ mem
        cases mem
  | append_singleton rows row ih =>
      rw [progressFrames_append, bind_eq_ok] at done
      obtain ⟨before, first, last⟩ := done
      obtain ⟨accepted, framesOf⟩ := ih first
      obtain ⟨source, cycle, destination, timestamp, accepts, conflict, rfl⟩ :=
        addProgress_eq_ok.mp last
      refine ⟨?_, framesOf.add accepts.key conflict⟩
      intro other mem
      rcases List.mem_append.mp mem with old | new
      · exact accepted other old
      · rw [List.mem_singleton.mp new]
        exact ⟨source, cycle, destination, timestamp, accepts⟩

/-- A progress log passes when every row is accepted and every key has one timestamp. -/
theorem progressFrames_total {rows : List Row}
    (accepted : ∀ row ∈ rows, ∃ source cycle destination timestamp,
      d.Accepts lib row source cycle destination timestamp)
    (consistent : ∀ a ∈ rows, ∀ b ∈ rows, ∀ source cycle destination t t',
      a.key = .ok (source, cycle, destination, t) → b.key = .ok (source, cycle, destination, t') →
        t = t') : ∃ frames, d.progressFrames lib rows = .ok frames := by
  induction rows using List.reverseRecOn with
  | nil => exact ⟨_, rfl⟩
  | append_singleton rows row ih =>
      obtain ⟨before, first⟩ := ih (fun other mem => accepted other (by simp [mem]))
        fun a memA b memB => consistent a (by simp [memA]) b (by simp [memB])
      obtain ⟨source, cycle, destination, timestamp, accepts⟩ := accepted row (by simp)
      have conflict : ¬ Conflict before source cycle destination timestamp := by
        intro ⟨previous, found, other⟩
        obtain ⟨mem, timestamp', key⟩ := (progressFrames_spec first).2.sound found
        have same := consistent previous (by simp [mem]) row (by simp) _ _ _ _ _ key accepts.key
        exact other (same ▸ (Row.key_eq_ok.mp key).2.2.2)
      rw [progressFrames_append, first, ok_bind]
      exact ⟨_, addProgress_eq_ok.mpr
        ⟨source, cycle, destination, timestamp, accepts, conflict, rfl⟩⟩

/-! ## Stamps -/

theorem mem_frameRows {frames : Frames} {source : String} {cycle : Nat} {row : Row} :
    (source, cycle, row) ∈ frameRows frames ↔
      ∃ destination, (frames.targets source cycle).get destination = some row := by
  simp only [frameRows, List.mem_flatMap, Prod.exists, Dict.mem_entries, List.mem_map,
    Dict.mem_values, Prod.mk.injEq, Frames.targets]
  constructor
  · intro listed
    obtain ⟨_, _, targets, found, _, ⟨destination, got⟩, eqSource, eqCycle, eqRow⟩ := listed
    subst eqSource eqCycle eqRow
    exact ⟨destination, by rw [found]; exact got⟩
  · intro known
    obtain ⟨destination, got⟩ := known
    rcases found : frames.get (source, cycle) with _ | targets
    · rw [found] at got
      cases got
    · rw [found] at got
      exact ⟨source, cycle, targets, found, row, ⟨destination, got⟩, rfl, rfl, rfl⟩

theorem mem_frameStamps {frames : Frames} {stamps : List Stamp}
    (done : frameStamps lib frames = .ok stamps) {source : String} {time : Int} {cycle : Nat} :
    ⟨source, time, cycle⟩ ∈ stamps ↔
      ∃ destination row, (frames.targets source cycle).get destination = some row ∧
        row.stamp lib = .ok time := by
  rw [mem_of_mapM done]
  simp only [Prod.exists, bind_eq_ok, pure_eq_ok, Stamp.mk.injEq]
  constructor
  · intro ⟨_, _, row, mem, _, stamped, eqSource, eqTime, eqCycle⟩
    subst eqSource eqTime eqCycle
    obtain ⟨destination, found⟩ := mem_frameRows.mp mem
    exact ⟨destination, row, found, stamped⟩
  · intro ⟨destination, row, found, stamped⟩
    exact ⟨source, cycle, row, mem_frameRows.mpr ⟨destination, found⟩, time, stamped, rfl, rfl, rfl⟩

/-- Every row of the frames has been stamped. -/
theorem frameStamps_total {frames : Frames} {stamps : List Stamp}
    (done : frameStamps lib frames = .ok stamps) {source destination : String} {cycle : Nat}
    {row : Row} (found : (frames.targets source cycle).get destination = some row) :
    ∃ time, row.stamp lib = .ok time := by
  obtain ⟨stamp, -, stampDone⟩ :=
    exists_of_mapM done (mem_frameRows.mpr ⟨destination, found⟩)
  obtain ⟨time, stamped, -⟩ := bind_eq_ok.mp stampDone
  exact ⟨time, stamped⟩

theorem mem_orderedStamps {stamps : List Stamp} {source : String} {time : Int} {cycle : Nat} :
    (time, cycle) ∈ orderedStamps stamps source ↔ ⟨source, time, cycle⟩ ∈ stamps := by
  rw [orderedStamps, (Sorting.sorted_perm _ _).mem_iff]
  simp only [List.mem_map, List.mem_filter, decide_eq_true_eq, Prod.mk.injEq]
  constructor
  · intro ⟨stamp, ⟨mem, eqSource⟩, eqTime, eqCycle⟩
    subst eqSource eqTime eqCycle
    exact mem
  · intro mem
    exact ⟨_, ⟨mem, rfl⟩, rfl, rfl⟩

/-- The stamps come in the order of their times, and of their cycles at one time. -/
theorem orderedStamps_pairwise (stamps : List Stamp) (source : String) :
    (orderedStamps stamps source).Pairwise fun a b => stampLe a b = true := by
  apply Sorting.pairwise_sorted
  · intro a b c ab bc
    simp only [stampLe, decide_eq_true_eq] at ab bc ⊢
    omega
  · intro a b
    simp only [stampLe, decide_eq_true_eq]
    omega

end Detector

end NetOpsBench
