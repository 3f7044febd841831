import Mathlib
import NetOpsBench.Observability.BgpSpool

/-!
# What a segmented spool keeps

Runs of `_write_segmented_lines` where the operating system fails no write. Every line of a call that
does not raise is kept, in order, in a segment or in the active file. The limit of the spool is kept
as long as a call that seals the active file has room for its lines beside the marker: the first
check of the call does not count the marker, and the check of the marker does not count the lines.
-/

namespace NetOpsBench

namespace BgpSpool

/-! ## One call -/

/-- The active file is full, by the size that it would have with the lines. -/
def rotating (config : SpoolConfig) (lines : List String) (spool : BgpSpool) : Bool :=
  decide (spool.active ≠ []) &&
    overLimit config.segmentBytes (fileBytes spool.active + fileBytes (rendered lines))

/-- The sequence number of the next segment with a timestamp. -/
def nextSequence (spool : BgpSpool) (timestamp : Nat) : Nat :=
  spool.freeSequence timestamp 0 spool.sealedSegments.length

/-- The marker that seals the active file. -/
def marker (config : SpoolConfig) (timestamp : Nat) (spool : BgpSpool) : String :=
  segmentMarker config.topologyId timestamp (spool.nextSequence timestamp)

/-- A call passes both checks of the limit and seals the active file. -/
structure Seals (config : SpoolConfig) (lines : List String) (spool : BgpSpool)
    (timestamp : Nat) : Prop where
  fits : overLimit config.maxBytes (spool.size + fileBytes (rendered lines)) = false
  full : spool.rotating config lines = true
  stamped : fileMaxTimestamp spool.active = some timestamp
  room : overLimit config.maxBytes (spool.size + fileBytes [spool.marker config timestamp]) = false

/-- A call that seals the active file has room for its lines and for the marker. -/
def LeavesRoom (config : SpoolConfig) (lines : List String) (spool : BgpSpool) : Prop :=
  ∀ timestamp, spool.Seals config lines timestamp →
    ((spool.size + fileBytes [spool.marker config timestamp] + fileBytes (rendered lines) : Nat) :
      Int) ≤ config.maxBytes

/-- The spool after a call that seals the active file. -/
def sealedWith (config : SpoolConfig) (lines : List String) (timestamp : Nat) (spool : BgpSpool) :
    BgpSpool where
  active := rendered lines
  sealedSegments :=
    spool.sealedSegments ++
      [{ timestamp
         sequence := spool.nextSequence timestamp
         lines := spool.active ++ [spool.marker config timestamp] }]

/-- A call raises and leaves the spool as it is, or adds its lines to the active file, which it may
have sealed first. -/
theorem write_cases (config : SpoolConfig) (lines : List String) (spool : BgpSpool) :
    ((∀ timestamp, ¬spool.Seals config lines timestamp) ∧
        ∃ error, spool.writeSegmentedLines config lines {} = (.error error, spool)) ∨
      (overLimit config.maxBytes (spool.size + fileBytes (rendered lines)) = false ∧
        spool.rotating config lines = false ∧
        spool.writeSegmentedLines config lines {} =
          (.ok (), { spool with active := spool.active ++ rendered lines })) ∨
      ∃ timestamp, spool.Seals config lines timestamp ∧
        spool.writeSegmentedLines config lines {} =
          (.ok (), spool.sealedWith config lines timestamp) := by
  unfold writeSegmentedLines
  dsimp only
  rw [if_neg Bool.false_ne_true]
  rcases fits : overLimit config.maxBytes (spool.size + fileBytes (rendered lines)) with _ | _
  · rw [if_neg Bool.false_ne_true]
    rcases full : spool.rotating config lines with _ | _
    · unfold rotating at full
      rw [full, if_neg Bool.false_ne_true]
      exact .inr (.inl ⟨rfl, rfl, rfl⟩)
    · have full' := full
      unfold rotating at full'
      rw [full', if_pos rfl]
      unfold rotate
      rcases stamped : fileMaxTimestamp spool.active with _ | timestamp
      · refine .inl ⟨fun timestamp sealed => ?_, _, rfl⟩
        cases stamped.symm.trans sealed.stamped
      · dsimp only
        rcases room : overLimit config.maxBytes
            (spool.size + fileBytes [spool.marker config timestamp]) with _ | _
        · have room' := room
          unfold marker nextSequence at room'
          rw [room', if_neg Bool.false_ne_true, if_neg Bool.false_ne_true]
          exact .inr (.inr ⟨timestamp, ⟨fits, full, stamped, room⟩, rfl⟩)
        · have room' := room
          unfold marker nextSequence at room'
          rw [room', if_pos rfl]
          refine .inl ⟨fun other sealed => ?_, _, rfl⟩
          cases stamped.symm.trans sealed.stamped
          cases room.symm.trans sealed.room
  · rw [if_pos rfl]
    refine .inl ⟨fun timestamp sealed => ?_, _, rfl⟩
    cases fits.symm.trans sealed.fits

/-- A call that seals the active file does not raise. -/
theorem write_of_seals {config : SpoolConfig} {lines : List String} {spool : BgpSpool}
    {timestamp : Nat} (sealed : spool.Seals config lines timestamp) :
    spool.writeSegmentedLines config lines {} =
      (.ok (), spool.sealedWith config lines timestamp) := by
  rcases spool.write_cases config lines with ⟨unsealed, -⟩ | ⟨-, waiting, -⟩ |
    ⟨other, otherSealed, sealing⟩
  · exact absurd sealed (unsealed timestamp)
  · cases sealed.full.symm.trans waiting
  · cases sealed.stamped.symm.trans otherSealed.stamped
    exact sealing

/-! ### Sizes -/

theorem fileBytes_append (first second : List String) :
    fileBytes (first ++ second) = fileBytes first + fileBytes second := by
  unfold fileBytes
  rw [List.map_append, List.sum_append]

theorem size_append (spool : BgpSpool) (lines : List String) :
    ({ spool with active := spool.active ++ lines } : BgpSpool).size =
      spool.size + fileBytes lines := by
  unfold size
  rw [fileBytes_append]
  dsimp only
  omega

theorem size_sealedWith (config : SpoolConfig) (lines : List String) (timestamp : Nat)
    (spool : BgpSpool) :
    (spool.sealedWith config lines timestamp).size =
      spool.size + fileBytes [spool.marker config timestamp] + fileBytes (rendered lines) := by
  unfold size sealedWith
  dsimp only
  rw [List.map_append, List.sum_append, List.map_singleton, List.sum_singleton, fileBytes_append]
  omega

theorem overLimit_eq_false {limit : Int} {bytes : Nat} (positive : 0 < limit) :
    overLimit limit bytes = false ↔ (bytes : Int) ≤ limit := by
  unfold overLimit
  rw [decide_eq_true positive, Bool.true_and, decide_eq_false_iff_not]
  omega

/-! ### Names of segments -/

/-- The names of the sealed segments. -/
def names (spool : BgpSpool) : List (Nat × Nat) :=
  spool.sealedSegments.map fun segment => (segment.timestamp, segment.sequence)

/-- All sequence numbers before the one that is found are taken, and it is free unless the fuel has
run out. -/
theorem freeSequence_cases (spool : BgpSpool) (timestamp sequence fuel : Nat) :
    (∀ earlier, sequence ≤ earlier → earlier < spool.freeSequence timestamp sequence fuel →
        (timestamp, earlier) ∈ spool.names) ∧
      ((timestamp, spool.freeSequence timestamp sequence fuel) ∉ spool.names ∨
        spool.freeSequence timestamp sequence fuel = sequence + fuel) := by
  induction fuel generalizing sequence with
  | zero =>
      refine ⟨fun earlier from_ before => ?_, .inr rfl⟩
      simp only [freeSequence] at before
      omega
  | succ fuel ih =>
      rw [freeSequence]
      split
      · rename_i taken
        obtain ⟨segment, mem, same⟩ := List.any_eq_true.mp taken
        rw [Bool.and_eq_true, decide_eq_true_eq, decide_eq_true_eq] at same
        have isTaken : (timestamp, sequence) ∈ spool.names :=
          List.mem_map.mpr ⟨segment, mem, Prod.ext same.1 same.2⟩
        obtain ⟨before, free⟩ := ih (sequence + 1)
        constructor
        · intro earlier from_ below
          rcases Nat.eq_or_lt_of_le from_ with rfl | later
          · exact isTaken
          · exact before earlier later below
        · rcases free with free | ended
          · exact .inl free
          · exact .inr (by omega)
      · rename_i untaken
        refine ⟨fun earlier from_ before => by omega, .inl fun mem => untaken ?_⟩
        obtain ⟨segment, inside, same⟩ := List.mem_map.mp mem
        refine List.any_eq_true.mpr ⟨segment, inside, ?_⟩
        rw [Bool.and_eq_true, decide_eq_true_eq, decide_eq_true_eq]
        exact ⟨congrArg Prod.fst same, congrArg Prod.snd same⟩

/-- The next segment has a name of its own. -/
theorem nextSequence_free (spool : BgpSpool) (timestamp : Nat) :
    (timestamp, spool.nextSequence timestamp) ∉ spool.names := by
  intro mem
  obtain ⟨taken, free⟩ :=
    spool.freeSequence_cases timestamp 0 spool.sealedSegments.length
  rcases free with free | ended
  · exact free mem
  · -- one more name than there are segments
    have all : (List.range (spool.sealedSegments.length + 1)).map (Prod.mk timestamp) ⊆
        spool.names := by
      intro name isName
      obtain ⟨earlier, inRange, rfl⟩ := List.mem_map.mp isName
      rw [List.mem_range] at inRange
      rcases Nat.lt_or_ge earlier spool.sealedSegments.length with below | last
      · exact taken earlier (Nat.zero_le _) (by omega)
      · have isLast : earlier = spool.nextSequence timestamp := by
          unfold nextSequence
          omega
        rw [isLast]
        exact mem
    have distinct : ((List.range (spool.sealedSegments.length + 1)).map
        (Prod.mk timestamp)).Nodup :=
      List.nodup_range.map (Prod.mk_right_injective timestamp)
    have few := (List.subperm_of_subset distinct all).length_le
    rw [List.length_map, List.length_range, names, List.length_map] at few
    omega

/-- The lines of the sealed segments without their markers, and those of the active file. -/
def contents (spool : BgpSpool) : List String :=
  (spool.sealedSegments.flatMap fun segment => segment.lines.dropLast) ++ spool.active

/-- The last line of a segment is its marker. -/
def Marked (config : SpoolConfig) (spool : BgpSpool) : Prop :=
  ∀ segment ∈ spool.sealedSegments, segment.lines.getLast? =
    some (segmentMarker config.topologyId segment.timestamp segment.sequence)

end BgpSpool

/-! ## Runs -/

/-- A spool, and the calls that have not raised. -/
structure SpoolRun : Type where
  spool : BgpSpool := {}
  written : List (List String) := []

def SpoolRun.write (config : SpoolConfig) (run : SpoolRun) (lines : List String) : SpoolRun :=
  match run.spool.writeSegmentedLines config lines {} with
  | (.ok _, spool) => { spool, written := run.written ++ [lines] }
  | (.error _, spool) => { run with spool }

def spoolRun (config : SpoolConfig) (calls : List (List String)) : SpoolRun :=
  calls.foldl (SpoolRun.write config) {}

/-- The lines have timestamps. -/
def Stamped (lines : List String) : Prop := ∀ line ∈ lines, (lineTimestamp line).isSome = true

/-- The sealed segments have names of their own and end with their markers, and no line of a call
that has not raised is lost. -/
structure SpoolRun.Kept (config : SpoolConfig) (run : SpoolRun) : Prop where
  names : run.spool.names.Nodup
  marked : run.spool.Marked config
  contents : run.spool.contents = run.written.flatten

section Runs

variable {config : SpoolConfig} {run : SpoolRun} {lines : List String}

theorem spoolRun_concat (config : SpoolConfig) (calls : List (List String))
    (lines : List String) :
    spoolRun config (calls ++ [lines]) = (spoolRun config calls).write config lines := by
  simp [spoolRun]

theorem rendered_of_stamped (stamped : Stamped lines) : BgpSpool.rendered lines = lines := by
  unfold BgpSpool.rendered
  split
  · rename_i blank
    subst blank
    have isSome := stamped "" (List.mem_singleton_self _)
    exact absurd isSome (by decide +kernel)
  · rfl

theorem write_of_error {error : SpoolError} {spool : BgpSpool}
    (raises : run.spool.writeSegmentedLines config lines {} = (.error error, spool)) :
    run.write config lines = { run with spool } := by
  unfold SpoolRun.write
  rw [raises]

theorem write_of_ok {spool : BgpSpool}
    (passes : run.spool.writeSegmentedLines config lines {} = (.ok (), spool)) :
    run.write config lines = { spool, written := run.written ++ [lines] } := by
  unfold SpoolRun.write
  rw [passes]

theorem SpoolRun.Kept.write (kept : run.Kept config) (stamped : Stamped lines) :
    (run.write config lines).Kept config := by
  have isRendered := rendered_of_stamped stamped
  rcases run.spool.write_cases config lines with ⟨-, error, raises⟩ | ⟨-, -, adds⟩ |
    ⟨timestamp, -, sealing⟩
  · rw [write_of_error raises]
    exact ⟨kept.names, kept.marked, kept.contents⟩
  · rw [write_of_ok adds]
    refine ⟨kept.names, kept.marked, ?_⟩
    unfold BgpSpool.contents
    dsimp only
    rw [← List.append_assoc, List.flatten_append, List.flatten_singleton, isRendered]
    exact congrArg (· ++ lines) kept.contents
  · rw [write_of_ok sealing]
    refine ⟨?_, ?_, ?_⟩
    · unfold BgpSpool.names BgpSpool.sealedWith
      dsimp only
      rw [List.map_append, List.map_singleton]
      refine List.nodup_append'.mpr ⟨kept.names, List.nodup_singleton _, ?_⟩
      intro name earlier new
      rw [List.mem_singleton.mp new] at earlier
      exact run.spool.nextSequence_free timestamp earlier
    · intro segment mem
      rcases List.mem_append.mp mem with earlier | new
      · exact kept.marked segment earlier
      · cases List.mem_singleton.mp new
        exact List.getLast?_concat
    · unfold BgpSpool.contents BgpSpool.sealedWith
      dsimp only
      rw [List.flatMap_append, List.flatMap_singleton, List.dropLast_concat, List.flatten_append,
        List.flatten_singleton, isRendered]
      exact congrArg (· ++ lines) kept.contents

theorem kept_spoolRun {calls : List (List String)} (stamped : ∀ lines ∈ calls, Stamped lines) :
    (spoolRun config calls).Kept config := by
  induction calls using List.reverseRecOn with
  | nil => exact ⟨List.nodup_nil, fun _ mem => absurd mem List.not_mem_nil, rfl⟩
  | append_singleton calls lines ih =>
      rw [spoolRun_concat]
      have earlier := ih fun lines mem => stamped lines (List.mem_append_left _ mem)
      exact earlier.write (stamped lines (List.mem_append_right _ (List.mem_singleton_self _)))

/-- A call keeps the limit when it leaves room. -/
theorem bounded_write_iff (positive : 0 < config.maxBytes)
    (bounded : (run.spool.size : Int) ≤ config.maxBytes) :
    ((run.write config lines).spool.size : Int) ≤ config.maxBytes ↔
      run.spool.LeavesRoom config lines := by
  rcases run.spool.write_cases config lines with ⟨unsealed, error, raises⟩ | ⟨fits, waiting, adds⟩ |
    ⟨timestamp, sealed, sealing⟩
  · rw [write_of_error raises]
    exact ⟨fun _ timestamp sealed => absurd sealed (unsealed timestamp), fun _ => bounded⟩
  · rw [write_of_ok adds]
    have isBound := (BgpSpool.overLimit_eq_false positive).mp fits
    refine ⟨fun _ timestamp sealed => ?_, fun _ => ?_⟩
    · rw [sealed.full] at waiting
      cases waiting
    · dsimp only
      rw [BgpSpool.size_append]
      exact isBound
  · rw [write_of_ok sealing]
    dsimp only
    rw [BgpSpool.size_sealedWith]
    constructor
    · intro isBound other otherSealed
      cases sealed.stamped.symm.trans otherSealed.stamped
      exact isBound
    · exact fun leaves => leaves timestamp sealed

theorem unchanged_of_raises {error : SpoolError}
    (raises : (run.spool.writeSegmentedLines config lines {}).1 = .error error) :
    (run.write config lines).spool = run.spool := by
  rcases run.spool.write_cases config lines with ⟨-, other, isError⟩ | ⟨-, -, adds⟩ |
    ⟨timestamp, -, sealing⟩
  · rw [write_of_error isError]
  · rw [adds] at raises
    cases raises
  · rw [sealing] at raises
    cases raises

end Runs

/-- At every moment of a run the spool is within its limit, a call that raises leaves it as it is,
and it holds the lines of all other calls. -/
structure SpoolSound (config : SpoolConfig) (calls : List (List String)) : Prop where
  bounded : ∀ earlier, earlier <+: calls →
    ((spoolRun config earlier).spool.size : Int) ≤ config.maxBytes
  unchanged : ∀ earlier lines, earlier ++ [lines] <+: calls → ∀ error,
    ((spoolRun config earlier).spool.writeSegmentedLines config lines {}).1 = .error error →
      (spoolRun config (earlier ++ [lines])).spool = (spoolRun config earlier).spool
  kept : ∀ earlier, earlier <+: calls → (spoolRun config earlier).Kept config

/-- A run of calls is sound exactly when each call that seals the active file leaves room for its
lines beside the marker. -/
theorem spool_sound_iff (config : SpoolConfig) (positive : 0 < config.maxBytes)
    (calls : List (List String)) (stamped : ∀ lines ∈ calls, Stamped lines) :
    SpoolSound config calls ↔
      ∀ earlier lines, earlier ++ [lines] <+: calls →
        (spoolRun config earlier).spool.LeavesRoom config lines := by
  constructor
  · intro sound earlier lines start
    have before := sound.bounded earlier ((List.prefix_append earlier [lines]).trans start)
    have after := sound.bounded (earlier ++ [lines]) start
    rw [spoolRun_concat] at after
    exact (bounded_write_iff positive before).mp after
  · intro leaves
    refine ⟨?_, ?_, ?_⟩
    · intro earlier
      induction earlier using List.reverseRecOn with
      | nil =>
          intro _
          change ((0 : Nat) : Int) ≤ config.maxBytes
          omega
      | append_singleton earlier lines ih =>
          intro start
          rw [spoolRun_concat]
          have before := ih ((List.prefix_append earlier [lines]).trans start)
          exact (bounded_write_iff positive before).mpr (leaves earlier lines start)
    · intro earlier lines _ error raises
      rw [spoolRun_concat]
      exact unchanged_of_raises raises
    · intro earlier start
      exact kept_spoolRun fun lines mem => stamped lines (start.subset mem)

/-! ### Two lines -/

/-- The timestamp of a line is its last word. -/
theorem lineTimestamp_concat (text : String) (timestamp : Nat) :
    lineTimestamp (text ++ " " ++ toString timestamp) = some timestamp := by
  have digits : ∀ c ∈ (toString timestamp).toList.reverse, c.isDigit = true :=
    fun c mem => Text.isDigit_of_mem_toString (List.mem_reverse.mp mem)
  have nonempty : (toString timestamp).toList.reverse ≠ [] := by
    simp
  have whole : (text ++ " " ++ toString timestamp).toList.reverse =
      (toString timestamp).toList.reverse ++ ' ' :: text.toList.reverse := by
    simp
  have solid : ((toString timestamp).toList.reverse ++ ' ' :: text.toList.reverse).dropWhile
      Text.isSpace = (toString timestamp).toList.reverse ++ ' ' :: text.toList.reverse := by
    obtain ⟨c, rest, isCons⟩ := List.exists_cons_of_ne_nil nonempty
    rw [isCons, List.cons_append]
    apply List.dropWhile_cons_of_neg
    rw [Bool.not_eq_true]
    exact Text.isSpace_of_isDigit (digits c (isCons ▸ List.mem_cons_self ..))
  have run : ((toString timestamp).toList.reverse ++ ' ' :: text.toList.reverse).takeWhile
      Char.isDigit = (toString timestamp).toList.reverse := by
    rw [List.takeWhile_append_of_pos digits, List.takeWhile_cons_of_neg (by decide),
      List.append_nil]
  unfold lineTimestamp
  dsimp only
  rw [whole, solid, run, List.drop_left]
  dsimp only
  have plain : ((toString timestamp).toList.reverse.isEmpty || !Text.isSpace ' ') = false := by
    rw [List.isEmpty_eq_false_iff.mpr nonempty]
    decide
  rw [plain, if_neg Bool.false_ne_true, List.reverse_reverse, String.ofList_toList]
  exact Nat.toNat?_repr timestamp

def indexLine (timestamp : Nat) : String :=
  "bgp_event_index,source=leaf1 schema_version=1i" ++ " " ++ toString timestamp

/-- The calls of two polls. -/
def twoPolls : List (List String) := [[indexLine 100], [indexLine 200]]

def indexSpool (maxBytes : Int) : SpoolConfig where
  maxBytes
  segmentBytes := 64
  topologyId := "runtime-xs"

theorem stamped_indexLine (timestamp : Nat) : Stamped [indexLine timestamp] := by
  intro line mem
  rw [List.mem_singleton.mp mem]
  unfold indexLine
  rw [lineTimestamp_concat, Option.isSome_some]

theorem stamped_twoPolls : ∀ lines ∈ twoPolls, Stamped lines := by
  intro lines mem
  rcases List.mem_cons.mp mem with isFirst | mem
  · rw [isFirst]
    exact stamped_indexLine 100
  · rw [List.mem_singleton.mp mem]
    exact stamped_indexLine 200

/-- The spool after the first poll. -/
def firstSpool : BgpSpool where
  active := [indexLine 100]

theorem fileMaxTimestamp_indexLine (timestamp : Nat) :
    fileMaxTimestamp [indexLine timestamp] = some timestamp := by
  unfold fileMaxTimestamp indexLine
  rw [List.filterMap_cons, lineTimestamp_concat]
  rfl

/-- The second poll seals the first segment, where the limit allows its lines and the marker. -/
theorem seals_second {maxBytes : Int}
    (fits : overLimit maxBytes
      (firstSpool.size + fileBytes (BgpSpool.rendered [indexLine 200])) = false)
    (room : overLimit maxBytes
      (firstSpool.size + fileBytes [firstSpool.marker (indexSpool maxBytes) 100]) = false) :
    firstSpool.Seals (indexSpool maxBytes) [indexLine 200] 100 where
  fits := fits
  full := by
    change decide ([indexLine 100] ≠ []) && overLimit 64
      (fileBytes [indexLine 100] + fileBytes (BgpSpool.rendered [indexLine 200])) = true
    decide +kernel
  stamped := fileMaxTimestamp_indexLine 100
  room := room

/-- The second call passes both checks of the limit of 190 bytes, and leaves 199. -/
theorem spool_exceeds_limit :
    (∀ lines ∈ twoPolls, Stamped lines) ∧ ¬SpoolSound (indexSpool 190) twoPolls := by
  refine ⟨stamped_twoPolls, fun sound => ?_⟩
  have bounded := sound.bounded twoPolls (List.prefix_refl _)
  have first : (spoolRun (indexSpool 190) [[indexLine 100]]).spool = firstSpool := by
    decide +kernel
  have sealed : firstSpool.Seals (indexSpool 190) [indexLine 200] 100 :=
    seals_second (by decide +kernel) (by decide +kernel)
  have second : (spoolRun (indexSpool 190) twoPolls).spool =
      firstSpool.sealedWith (indexSpool 190) [indexLine 200] 100 := by
    change (spoolRun (indexSpool 190) ([[indexLine 100]] ++ [[indexLine 200]])).spool = _
    rw [spoolRun_concat, write_of_ok (by rw [first]; exact BgpSpool.write_of_seals sealed)]
  rw [second] at bounded
  exact absurd bounded (by decide +kernel)

theorem spool_sound_two_polls : SpoolSound (indexSpool 200) twoPolls := by
  apply (spool_sound_iff (indexSpool 200) (by decide) twoPolls stamped_twoPolls).mpr
  intro earlier lines start timestamp sealed
  obtain ⟨rest, whole⟩ := start
  rcases earlier with _ | ⟨first, _ | ⟨second, more⟩⟩
  · -- there is nothing to seal yet
    exact absurd sealed.full (by simp [BgpSpool.rotating, spoolRun])
  · obtain ⟨rfl, isSecond⟩ := List.cons.inj whole
    obtain ⟨rfl, -⟩ := List.cons.inj isSecond
    have isFirst : (spoolRun (indexSpool 200) [[indexLine 100]]).spool = firstSpool := by
      decide +kernel
    rw [isFirst] at sealed ⊢
    cases (fileMaxTimestamp_indexLine 100).symm.trans sealed.stamped
    decide +kernel
  · have lengths := congrArg List.length whole
    simp only [twoPolls, List.length_append, List.length_cons, List.length_nil] at lengths
    omega

end NetOpsBench
