import NetOpsBench.Observability.SegmentTags

/-!
# Deleting ingested segments

`_query_ingested_segments` and `_delete_ingested_segments` of
`netopsbench/platform/observability/bgp_collector.py`, beside the writes of the spool and an
ingestion that takes the lines of each file in order. The database keeps what was ingested when
the file is gone. A segment is deleted for its identity alone, so that a deletion is right as long
as no segment is sealed under the identity of one that was deleted.
-/

namespace NetOpsBench

def SealedSegment.name (segment : SealedSegment) : Nat × Nat := (segment.timestamp, segment.sequence)

/-- `_query_ingested_segments`: the identities of the markers that are stored in the range of the
query, at no time before their own timestamp. -/
def queryIngestedSegments (topologyId : String) (start stop : Nat) (database : List String) :
    List String :=
  if topologyId = "" then []
  else database.filterMap fun line => do
    let id ← segmentTag line
    let ingestedAt ← lineTimestamp line
    let timestamp ← segmentTime id
    if start ≤ ingestedAt ∧ ingestedAt < stop ∧ timestamp ≤ ingestedAt then some id else none

/-- What the query reports was stored. -/
theorem stored_of_reported {topologyId : String} {start stop : Nat} {database : List String}
    {id : String} (mem : id ∈ queryIngestedSegments topologyId start stop database) :
    ∃ line ∈ database, segmentTag line = some id := by
  unfold queryIngestedSegments at mem
  split at mem
  · cases mem
  · obtain ⟨line, isStored, reported⟩ := List.mem_filterMap.mp mem
    cases tagged : segmentTag line with
    | none => simp [tagged] at reported
    | some tag =>
        refine ⟨line, isStored, ?_⟩
        cases stamped : lineTimestamp line with
        | none => simp [tagged, stamped] at reported
        | some ingestedAt =>
            cases timed : segmentTime tag with
            | none => simp [tagged, stamped, timed] at reported
            | some timestamp =>
                simp [tagged, stamped, timed] at reported
                rw [tagged, reported.2]

/-! ## The steps -/

/-- The spool, how many lines of each file were ingested, the lines in the database, the answer of
the last query, and the names of the segments that were deleted. -/
structure SegmentWorld : Type where
  spool : BgpSpool := {}
  activeRead : Nat := 0
  sealedRead : Nat × Nat → Nat := fun _ => 0
  database : List String := []
  answer : List String := []
  deleted : List (Nat × Nat) := []

inductive SegmentStep : Type where
  | write (points : List BgpPoint)
  | rotate
  /-- The next line of the active file. -/
  | ingestActive
  /-- The next line of a sealed segment. -/
  | ingestSealed (name : Nat × Nat)
  /-- A query of a range of time; one that fails reports nothing, as an empty range does. -/
  | query (start stop : Nat)
  | delete

namespace SegmentWorld

/-- The spool after a write. A segment that it seals is the active file, with the lines of it that
were ingested. -/
def settle (after : BgpSpool) (world : SegmentWorld) : SegmentWorld :=
  match after.sealedSegments.drop world.spool.sealedSegments.length with
  | [] => { world with spool := after }
  | segment :: _ =>
      { world with
        spool := after
        activeRead := 0
        sealedRead := Function.update world.sealedRead segment.name world.activeRead }

def ingestActive (world : SegmentWorld) : SegmentWorld :=
  match world.spool.active[world.activeRead]? with
  | none => world
  | some line =>
      { world with
        activeRead := world.activeRead + 1
        database := world.database ++ [line] }

def ingestSealed (name : Nat × Nat) (world : SegmentWorld) : SegmentWorld :=
  match world.spool.sealedSegments.find? fun segment => segment.name = name with
  | none => world
  | some segment =>
      match segment.lines[world.sealedRead name]? with
      | none => world
      | some line =>
          { world with
            sealedRead := Function.update world.sealedRead name (world.sealedRead name + 1)
            database := world.database ++ [line] }

/-- `_delete_ingested_segments` -/
def delete (world : SegmentWorld) : SegmentWorld :=
  { world with
    spool := world.spool.deleteIngested world.answer
    deleted := world.deleted ++
      (world.spool.sealedSegments.filter fun segment => world.answer.contains segment.id).map
        SealedSegment.name }

def step (config : SpoolConfig) (world : SegmentWorld) : SegmentStep → SegmentWorld
  | .write points =>
      world.settle (world.spool.writeSegmentedLines config
        (points.map (·.line config.topologyId)) {}).2
  | .rotate =>
      world.settle (if world.spool.active = [] then world.spool else
        (world.spool.rotate config {}).2)
  | .ingestActive => world.ingestActive
  | .ingestSealed name => world.ingestSealed name
  | .query start stop =>
      { world with
        answer := queryIngestedSegments config.topologyId start stop world.database }
  | .delete => world.delete

def run (config : SpoolConfig) (world : SegmentWorld) (steps : List SegmentStep) : SegmentWorld :=
  steps.foldl (step config) world

/-- Every line of a segment, its marker among them, was ingested. -/
def Ingested (world : SegmentWorld) (segment : SealedSegment) : Prop :=
  segment.lines.length ≤ world.sealedRead segment.name

/-- A deletion removes no segment before its marker, and with it every line, was ingested. -/
def DeletesIngested (config : SpoolConfig) (world : SegmentWorld) : Prop :=
  ∀ segment ∈ world.spool.sealedSegments, segment ∉ world.delete.spool.sealedSegments →
    segment.lines.getLast? =
        some (segmentMarker config.topologyId segment.timestamp segment.sequence) ∧
      world.Ingested segment

/-- A step seals no segment under the name of one that was deleted. -/
def Fresh (config : SpoolConfig) (world : SegmentWorld) (step : SegmentStep) : Prop :=
  ∀ name ∈ (world.step config step).spool.names, name ∈ world.spool.names ∨ name ∉ world.deleted

/-- Every step of a run is fresh. -/
def FreshRun (config : SpoolConfig) : SegmentWorld → List SegmentStep → Prop
  | _, [] => True
  | world, step :: steps =>
      world.Fresh config step ∧ FreshRun config (world.step config step) steps

/-! ## What a write does to the spool -/

/-- The spool with its active file sealed, and lines in the new one. -/
def sealing (config : SpoolConfig) (timestamp : Nat) (lines : List String) (spool : BgpSpool) :
    BgpSpool where
  active := lines
  sealedSegments := spool.sealedSegments ++
    [{ timestamp
       sequence := spool.nextSequence timestamp
       lines := spool.active ++ [spool.marker config timestamp] }]

/-- What a write may do to a spool, with lines that carry no tag of a segment. -/
inductive Changes (config : SpoolConfig) (spool : BgpSpool) : BgpSpool → Prop where
  | nothing : Changes config spool spool
  | adds (lines : List String) (plain : ∀ line ∈ lines, segmentTag line = none) :
      Changes config spool { spool with active := spool.active ++ lines }
  | seals (timestamp : Nat) (lines : List String) (plain : ∀ line ∈ lines, segmentTag line = none) :
      Changes config spool (sealing config timestamp lines spool)

variable {config : SpoolConfig} {world : SegmentWorld} {spool after : BgpSpool} {id : String}

theorem changes_write (points : List BgpPoint) :
    Changes config spool
      (spool.writeSegmentedLines config (points.map (·.line config.topologyId)) {}).2 := by
  have plain : ∀ line ∈ BgpSpool.rendered (points.map (·.line config.topologyId)),
      segmentTag line = none := by
    intro line mem
    unfold BgpSpool.rendered at mem
    split at mem
    · cases mem
    · obtain ⟨point, -, rfl⟩ := List.mem_map.mp mem
      exact segmentTag_line config.topologyId point
  rcases spool.write_cases config (points.map (·.line config.topologyId)) with
    ⟨-, error, raises⟩ | ⟨-, -, adds⟩ | ⟨timestamp, -, sealed⟩
  · rw [raises]
    exact .nothing
  · rw [adds]
    exact .adds _ plain
  · rw [sealed]
    exact .seals timestamp _ plain

theorem changes_rotate :
    Changes config spool
      (if spool.active = [] then spool else (spool.rotate config {}).2) := by
  split
  · exact .nothing
  · unfold BgpSpool.rotate
    split
    · exact .nothing
    · rename_i timestamp _
      dsimp only
      split
      · exact .nothing
      · have none : ∀ line ∈ ([] : List String), segmentTag line = none := nofun
        exact .seals timestamp [] none

/-! ## What a run keeps -/

/-- An identity belongs to a segment that was deleted, or to one that was ingested. -/
def Accounted (world : SegmentWorld) (id : String) : Prop :=
  (∃ name ∈ world.deleted, id = segmentId name.1 name.2) ∨
    ∃ segment ∈ world.spool.sealedSegments, segment.id = id ∧ world.Ingested segment

structure Sound (config : SpoolConfig) (world : SegmentWorld) : Prop where
  names : world.spool.names.Nodup
  fresh : ∀ name ∈ world.spool.names, name ∉ world.deleted
  marked : ∀ segment ∈ world.spool.sealedSegments, ∃ data,
    segment.lines = data ++
        [segmentMarker config.topologyId segment.timestamp segment.sequence] ∧
      ∀ line ∈ data, segmentTag line = none
  active : ∀ line ∈ world.spool.active, segmentTag line = none
  stored : ∀ line ∈ world.database, ∀ id, segmentTag line = some id → world.Accounted id
  answered : ∀ id ∈ world.answer, world.Accounted id

theorem Accounted.mono {world' : SegmentWorld} (accounted : world.Accounted id)
    (deleted : ∀ name ∈ world.deleted, name ∈ world'.deleted)
    (kept : ∀ segment ∈ world.spool.sealedSegments, world.Ingested segment →
      segment.name ∈ world'.deleted ∨
        segment ∈ world'.spool.sealedSegments ∧ world'.Ingested segment) :
    world'.Accounted id := by
  obtain ⟨name, isDeleted, same⟩ | ⟨segment, mem, same, ingested⟩ := accounted
  · exact .inl ⟨name, deleted name isDeleted, same⟩
  · obtain removed | ⟨there, still⟩ := kept segment mem ingested
    · exact .inl ⟨segment.name, removed, same.symm⟩
    · exact .inr ⟨segment, there, same, still⟩

theorem spool_settle : (world.settle after).spool = after := by
  unfold settle
  split <;> rfl

/-- The segments are those of before. -/
theorem settle_of_kept (kept : after.sealedSegments = world.spool.sealedSegments) :
    world.settle after = { world with spool := after } := by
  unfold settle
  rw [kept, List.drop_length]

theorem settle_of_sealed {segment : SealedSegment}
    (sealed : after.sealedSegments = world.spool.sealedSegments ++ [segment]) :
    world.settle after =
      { world with
        spool := after
        activeRead := 0
        sealedRead := Function.update world.sealedRead segment.name world.activeRead } := by
  unfold settle
  rw [sealed, List.drop_left]

theorem mem_names {segment : SealedSegment} (mem : segment ∈ spool.sealedSegments) :
    segment.name ∈ spool.names := List.mem_map_of_mem mem

/-- Segments with one name are one. -/
theorem Sound.name_inj (sound : world.Sound config) {first second : SealedSegment}
    (isFirst : first ∈ world.spool.sealedSegments)
    (isSecond : second ∈ world.spool.sealedSegments) (same : first.name = second.name) :
    first = second :=
  List.inj_on_of_nodup_map sound.names isFirst isSecond same

theorem Sound.id_inj (sound : world.Sound config) {first second : SealedSegment}
    (isFirst : first ∈ world.spool.sealedSegments)
    (isSecond : second ∈ world.spool.sealedSegments) (same : first.id = second.id) :
    first = second := by
  obtain ⟨stamps, numbers⟩ := segmentId_inj same
  exact sound.name_inj isFirst isSecond (Prod.ext stamps numbers)

theorem Sound.settle (sound : world.Sound config) (changes : Changes config world.spool after)
    (fresh : ∀ name ∈ after.names, name ∈ world.spool.names ∨ name ∉ world.deleted) :
    (world.settle after).Sound config := by
  have unused : ∀ name ∈ after.names, name ∉ world.deleted := by
    intro name mem
    obtain old | new := fresh name mem
    · exact sound.fresh name old
    · exact new
  cases changes with
  | nothing =>
      rw [settle_of_kept rfl]
      exact sound
  | adds lines plain =>
      have same := @settle_of_kept world
        { world.spool with active := world.spool.active ++ lines } rfl
      rw [same]
      refine ⟨sound.names, sound.fresh, sound.marked, ?_, sound.stored, sound.answered⟩
      intro line mem
      rcases List.mem_append.mp mem with old | new
      · exact sound.active line old
      · exact plain line new
  | seals timestamp lines plain =>
      let segment : SealedSegment :=
        { timestamp
          sequence := world.spool.nextSequence timestamp
          lines := world.spool.active ++ [world.spool.marker config timestamp] }
      have same : world.settle (sealing config timestamp lines world.spool) =
          { world with
            spool := sealing config timestamp lines world.spool
            activeRead := 0
            sealedRead := Function.update world.sealedRead segment.name world.activeRead } :=
        settle_of_sealed rfl
      have free : segment.name ∉ world.spool.names := world.spool.nextSequence_free timestamp
      have kept : ∀ id, world.Accounted id →
          (world.settle (sealing config timestamp lines world.spool)).Accounted id := by
        intro id accounted
        apply accounted.mono
        · rw [same]
          exact fun name mem => mem
        · intro other mem ingested
          refine .inr ⟨?_, ?_⟩
          · rw [same]
            exact List.mem_append_left _ mem
          · have apart : other.name ≠ segment.name := by
              intro equal
              exact free (equal ▸ mem_names mem)
            rw [same]
            unfold Ingested
            dsimp only
            rw [Function.update_of_ne apart]
            exact ingested
      rw [same] at kept ⊢
      refine ⟨?_, unused, ?_, plain, ?_, ?_⟩
      · change ((world.spool.sealedSegments ++ [segment]).map SealedSegment.name).Nodup
        rw [List.map_append, List.nodup_append']
        refine ⟨sound.names, List.nodup_singleton _, ?_⟩
        intro name earlier new
        rw [List.map_singleton, List.mem_singleton] at new
        exact free (new ▸ earlier)
      · intro other mem
        rcases List.mem_append.mp mem with old | new
        · exact sound.marked other old
        · rw [List.mem_singleton.mp new]
          exact ⟨world.spool.active, rfl, sound.active⟩
      · intro line mem id tagged
        exact kept id (sound.stored line mem id tagged)
      · intro id mem
        exact kept id (sound.answered id mem)

theorem Sound.ingestActive (sound : world.Sound config) : world.ingestActive.Sound config := by
  unfold SegmentWorld.ingestActive
  split
  · exact sound
  · rename_i line atRead
    refine ⟨sound.names, sound.fresh, sound.marked, sound.active, ?_, sound.answered⟩
    intro stored mem id tagged
    rcases List.mem_append.mp mem with old | new
    · exact sound.stored stored old id tagged
    · rw [List.mem_singleton.mp new, sound.active line (List.mem_of_getElem? atRead)] at tagged
      cases tagged

theorem Sound.ingestSealed (sound : world.Sound config) (name : Nat × Nat) :
    (world.ingestSealed name).Sound config := by
  unfold SegmentWorld.ingestSealed
  split
  · exact sound
  · rename_i segment found
    have isSegment := List.mem_of_find?_eq_some found
    have isName : segment.name = name := by simpa using List.find?_some found
    subst isName
    split
    · exact sound
    · rename_i line atRead
      have kept : ∀ id, world.Accounted id →
          ({ world with
              sealedRead := Function.update world.sealedRead segment.name
                (world.sealedRead segment.name + 1)
              database := world.database ++ [line] } : SegmentWorld).Accounted id := by
        intro id accounted
        refine accounted.mono ?_ ?_
        · exact fun name mem => mem
        intro other mem ingested
        refine .inr ⟨mem, ?_⟩
        unfold Ingested at ingested ⊢
        dsimp only
        by_cases same : other.name = segment.name
        · rw [same] at ingested ⊢
          rw [Function.update_self]
          omega
        · rw [Function.update_of_ne same]
          exact ingested
      refine ⟨sound.names, sound.fresh, sound.marked, sound.active, ?_,
        fun id mem => kept id (sound.answered id mem)⟩
      intro stored mem id tagged
      rcases List.mem_append.mp mem with old | new
      · exact kept id (sound.stored stored old id tagged)
      · -- only the marker carries a tag, and it is the last line
        rw [List.mem_singleton.mp new] at tagged
        obtain ⟨data, isLines, plain⟩ := sound.marked segment isSegment
        rw [isLines] at atRead
        rcases Nat.lt_trichotomy (world.sealedRead segment.name) data.length with inside | last | after
        · rw [List.getElem?_append_left inside] at atRead
          rw [plain line (List.mem_of_getElem? atRead)] at tagged
          cases tagged
        · rw [last, List.getElem?_append_right (Nat.le_refl _), Nat.sub_self] at atRead
          cases atRead
          rw [segmentTag_marker] at tagged
          refine .inr ⟨segment, isSegment, Option.some.inj tagged, ?_⟩
          unfold Ingested
          dsimp only
          rw [Function.update_self, isLines, List.length_append, List.length_singleton]
          omega
        · rw [List.getElem?_eq_none (by
            rw [List.length_append, List.length_singleton]
            omega)] at atRead
          cases atRead

theorem Sound.delete (sound : world.Sound config) : world.delete.Sound config := by
  have mem_deleted : ∀ segment ∈ world.spool.sealedSegments, world.answer.contains segment.id = true →
      segment.name ∈ world.delete.deleted := by
    intro segment mem reported
    exact List.mem_append_right _ (List.mem_map_of_mem (List.mem_filter.mpr ⟨mem, reported⟩))
  have kept : ∀ id, world.Accounted id → world.delete.Accounted id := by
    intro id accounted
    refine accounted.mono ?_ ?_
    · exact fun name mem => List.mem_append_left _ mem
    intro segment mem ingested
    cases reported : world.answer.contains segment.id with
    | true => exact .inl (mem_deleted segment mem reported)
    | false =>
        refine .inr ⟨List.mem_filter.mpr ⟨mem, ?_⟩, ingested⟩
        rw [reported]
        rfl
  refine ⟨?_, ?_, ?_, sound.active, ?_, ?_⟩
  · exact sound.names.sublist (List.filter_sublist.map _)
  · intro name mem isDeleted
    obtain ⟨segment, isLeft, rfl⟩ := List.mem_map.mp mem
    obtain ⟨there, left⟩ := List.mem_filter.mp isLeft
    rcases List.mem_append.mp isDeleted with earlier | now
    · exact sound.fresh _ (mem_names there) earlier
    · obtain ⟨other, isOther, same⟩ := List.mem_map.mp now
      obtain ⟨otherThere, reported⟩ := List.mem_filter.mp isOther
      rw [sound.name_inj otherThere there same] at reported
      rw [reported] at left
      cases left
  · intro segment mem
    exact sound.marked segment (List.mem_filter.mp mem).1
  · intro line mem id tagged
    exact kept id (sound.stored line mem id tagged)
  · intro id mem
    exact kept id (sound.answered id mem)

theorem Sound.step (sound : world.Sound config) {step : SegmentStep}
    (fresh : world.Fresh config step) : (world.step config step).Sound config := by
  unfold Fresh at fresh
  cases step with
  | write points =>
      unfold SegmentWorld.step at fresh ⊢
      rw [spool_settle] at fresh
      exact sound.settle (changes_write points) fresh
  | rotate =>
      unfold SegmentWorld.step at fresh ⊢
      rw [spool_settle] at fresh
      exact sound.settle changes_rotate fresh
  | ingestActive => exact sound.ingestActive
  | ingestSealed name => exact sound.ingestSealed name
  | query start stop =>
      refine ⟨sound.names, sound.fresh, sound.marked, sound.active, sound.stored, ?_⟩
      intro id mem
      obtain ⟨line, isStored, tagged⟩ := stored_of_reported mem
      exact sound.stored line isStored id tagged
  | delete => exact sound.delete

theorem sound_new : Sound config {} where
  names := List.nodup_nil
  fresh := nofun
  marked := nofun
  active := nofun
  stored := nofun
  answered := nofun

theorem Sound.run {steps : List SegmentStep} (sound : world.Sound config)
    (fresh : FreshRun config world steps) : (world.run config steps).Sound config := by
  induction steps generalizing world with
  | nil => exact sound
  | cons step steps ih => exact ih (sound.step fresh.1) fresh.2

/-- In a sound world, a segment is deleted only after it was ingested. -/
theorem Sound.deletesIngested (sound : world.Sound config) : world.DeletesIngested config := by
  intro segment mem removed
  have reported : segment.id ∈ world.answer := by
    by_cases reported : world.answer.contains segment.id = true
    · exact List.contains_iff_mem.mp reported
    · refine absurd (List.mem_filter.mpr ⟨mem, ?_⟩) removed
      rw [Bool.not_eq_true] at reported
      rw [reported]
      rfl
  obtain ⟨data, isLines, -⟩ := sound.marked segment mem
  refine ⟨?_, ?_⟩
  · rw [isLines, List.getLast?_concat]
  · obtain ⟨name, isDeleted, same⟩ | ⟨other, there, same, ingested⟩ := sound.answered _ reported
    · obtain ⟨stamps, numbers⟩ := segmentId_inj same
      exact absurd ((Prod.ext stamps numbers : segment.name = name) ▸ isDeleted)
        (sound.fresh _ (mem_names mem))
    · rw [← sound.id_inj there mem same]
      exact ingested

theorem FreshRun.take {steps earlier : List SegmentStep} (fresh : FreshRun config world steps)
    (start : earlier <+: steps) : FreshRun config world earlier := by
  induction earlier generalizing world steps with
  | nil => trivial
  | cons step earlier ih =>
      obtain ⟨later, rfl⟩ := start
      exact ⟨fresh.1, ih fresh.2 (List.prefix_append _ _)⟩

/-- In a run that seals no segment under the name of a deleted one, whatever the order of writes,
rotations, ingestion, queries and deletions, no segment is deleted before it was ingested. -/
theorem segments_deleted_ingested {steps : List SegmentStep} (fresh : FreshRun config {} steps)
    {earlier : List SegmentStep} (start : earlier <+: steps) :
    (run config {} earlier).DeletesIngested config :=
  (sound_new.run (fresh.take start)).deletesIngested

/-! ## A repeated timestamp -/

/-- A spool without limits, which no write seals. -/
def plainConfig : SpoolConfig where
  maxBytes := 0
  segmentBytes := 0
  topologyId := "runtime-xs"

def heartbeatPoint : BgpPoint := .index ⟨"leaf1", true, 100⟩

def heartbeatLine : String := heartbeatPoint.line "runtime-xs"

/-- The segment of one heartbeat. -/
def heartbeatSegment : SealedSegment where
  timestamp := 100
  sequence := 0
  lines := [heartbeatLine, segmentMarker "runtime-xs" 100 0]

/-- A heartbeat is written, sealed and ingested, and its segment is reported. -/
def ingestSteps : List SegmentStep :=
  [.write [heartbeatPoint], .rotate, .ingestSealed (100, 0), .ingestSealed (100, 0), .query 0 1000]

/-- The segment is deleted, and a heartbeat of the same time is sealed. -/
def reuseSteps : List SegmentStep := [.delete, .write [heartbeatPoint], .rotate]

theorem run_append (first second : List SegmentStep) :
    run config world (first ++ second) = run config (run config world first) second :=
  List.foldl_append

theorem step_write_heartbeat (empty : world.spool.active = []) :
    world.step plainConfig (.write [heartbeatPoint]) =
      { world with spool := { world.spool with active := [heartbeatLine] } } := by
  have written : (world.spool.writeSegmentedLines plainConfig [heartbeatLine] {}).2 =
      { world.spool with active := [heartbeatLine] } := by
    have some : heartbeatLine ≠ "" := by
      simp [heartbeatLine, heartbeatPoint, BgpPoint.line, lineText]
    simp [BgpSpool.writeSegmentedLines, BgpSpool.append, BgpSpool.rendered, overLimit, plainConfig,
      empty, some]
  change world.settle (world.spool.writeSegmentedLines plainConfig [heartbeatLine] {}).2 = _
  rw [written]
  exact settle_of_kept rfl

theorem step_rotate_heartbeat (only : world.spool = { active := [heartbeatLine] }) :
    world.step plainConfig .rotate =
      { world with
        spool := { sealedSegments := [heartbeatSegment] }
        activeRead := 0
        sealedRead := Function.update world.sealedRead (100, 0) world.activeRead } := by
  have stamped : fileMaxTimestamp [heartbeatLine] = some 100 := by
    have stamp : lineTimestamp heartbeatLine = some 100 := lineTimestamp_concat _ 100
    simp [fileMaxTimestamp, stamp]
  have rotated : (world.spool.rotate plainConfig {}).2 = { sealedSegments := [heartbeatSegment] } := by
    simp [BgpSpool.rotate, only, stamped, overLimit, plainConfig, BgpSpool.freeSequence,
      heartbeatSegment]
  have nonempty : world.spool.active ≠ [] := by simp [only]
  have sealed : ({ sealedSegments := [heartbeatSegment] } : BgpSpool).sealedSegments =
      world.spool.sealedSegments ++ [heartbeatSegment] := by
    rw [only]
    rfl
  change world.settle (if world.spool.active = [] then world.spool else
    (world.spool.rotate plainConfig {}).2) = _
  rw [if_neg nonempty, rotated, settle_of_sealed sealed]
  rfl

/-- What the steps leave: the segment, ingested, and its identity as the answer. -/
theorem run_ingestSteps : run plainConfig {} ingestSteps =
    { spool := { sealedSegments := [heartbeatSegment] }
      sealedRead := Function.update (fun _ => 0) (100, 0) 2
      database := heartbeatSegment.lines
      answer := [segmentId 100 0] } := by
  have reported : queryIngestedSegments "runtime-xs" 0 1000 heartbeatSegment.lines =
      [segmentId 100 0] := by
    have untagged : segmentTag heartbeatLine = none := segmentTag_line "runtime-xs" heartbeatPoint
    simp [queryIngestedSegments, heartbeatSegment, untagged, segmentTag_marker,
      lineTimestamp_marker, segmentTime_segmentId]
  unfold run ingestSteps
  rw [List.foldl_cons, step_write_heartbeat rfl, List.foldl_cons, step_rotate_heartbeat rfl]
  have found : [heartbeatSegment].find? (fun segment => segment.name = (100, 0)) =
      some heartbeatSegment := rfl
  have first : heartbeatSegment.lines[0]? = some heartbeatLine := rfl
  have second : heartbeatSegment.lines[1]? = some (segmentMarker "runtime-xs" 100 0) := rfl
  simp only [List.foldl_cons, List.foldl_nil, step, ingestSealed, found, Function.update_self,
    Function.update_idem, first, second, Nat.zero_add]
  congr 1

/-- A deletion that removes a segment of which no line was ingested. -/
theorem segment_deleted_unread :
    ¬ (run plainConfig {} (ingestSteps ++ reuseSteps)).DeletesIngested plainConfig := by
  have left : run plainConfig {} (ingestSteps ++ reuseSteps) =
      { spool := { sealedSegments := [heartbeatSegment] }
        sealedRead := Function.update (Function.update (fun _ => 0) (100, 0) 2) (100, 0) 0
        database := heartbeatSegment.lines
        answer := [segmentId 100 0]
        deleted := [(100, 0)] } := by
    rw [run_append, run_ingestSteps]
    unfold run reuseSteps
    rw [List.foldl_cons, List.foldl_cons]
    have deleted : step plainConfig
        { spool := { sealedSegments := [heartbeatSegment] }
          sealedRead := Function.update (fun _ => 0) (100, 0) 2
          database := heartbeatSegment.lines
          answer := [segmentId 100 0] } .delete =
        { sealedRead := Function.update (fun _ => 0) (100, 0) 2
          database := heartbeatSegment.lines
          answer := [segmentId 100 0]
          deleted := [(100, 0)] } := by
      have isReported : [segmentId 100 0].contains heartbeatSegment.id = true := by
        simp [SealedSegment.id, heartbeatSegment]
      simp only [step, delete, BgpSpool.deleteIngested, List.filter_cons, isReported,
        List.filter_nil]
      rfl
    rw [deleted, step_write_heartbeat rfl, List.foldl_cons, step_rotate_heartbeat rfl]
    rfl
  rw [left]
  intro deletes
  have ingested := (deletes heartbeatSegment (List.mem_singleton_self _) (by
    simp [delete, BgpSpool.deleteIngested, SealedSegment.id, heartbeatSegment])).2
  simp [Ingested, heartbeatSegment, SealedSegment.name] at ingested

theorem deleted_step {step : SegmentStep} (other : step ≠ .delete) :
    (world.step config step).deleted = world.deleted := by
  have settled : ∀ after, (world.settle after).deleted = world.deleted := by
    intro after
    unfold settle
    split <;> rfl
  cases step with
  | write points => exact settled _
  | rotate => exact settled _
  | ingestActive =>
      change world.ingestActive.deleted = _
      unfold ingestActive
      split <;> rfl
  | ingestSealed name =>
      change (world.ingestSealed name).deleted = _
      unfold ingestSealed
      split
      · rfl
      · split <;> rfl
  | query start stop => rfl
  | delete => exact absurd rfl other

/-- Where nothing was deleted yet, every name is new. -/
theorem freshRun_of_no_delete {steps : List SegmentStep} (none : ∀ step ∈ steps, step ≠ .delete)
    (empty : world.deleted = []) : FreshRun config world steps := by
  induction steps generalizing world with
  | nil => trivial
  | cons step steps ih =>
      constructor
      · intro name _
        rw [empty]
        exact .inr List.not_mem_nil
      · apply ih
        · intro later mem
          exact none later (List.mem_cons_of_mem _ mem)
        · rw [deleted_step (none step List.mem_cons_self), empty]

/-- The segment of a heartbeat is deleted, and it was ingested. -/
theorem segments_deleted_ingested_once :
    (run plainConfig {} ingestSteps).delete.spool.sealedSegments = [] ∧
      (run plainConfig {} ingestSteps).DeletesIngested plainConfig := by
  constructor
  · rw [run_ingestSteps]
    simp [delete, BgpSpool.deleteIngested, SealedSegment.id, heartbeatSegment]
  · have fresh : FreshRun plainConfig {} ingestSteps := by
      apply freshRun_of_no_delete
      · simp [ingestSteps]
      · rfl
    exact segments_deleted_ingested fresh (List.prefix_refl ingestSteps)

end SegmentWorld

end NetOpsBench
