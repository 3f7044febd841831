import NetOpsBench.Pingmesh.Coverage

/-!
# What the coverage audit says of the rows

Every row that the audit has counted is unexpected, valid or invalid, and the lists of the audit hold
nothing else. `Planned`, `Sent` and `Succeeded` say what the plan asks of a row, without the tests of
the audit.
-/

namespace NetOpsBench

open Fallible

/-! ## Rows of the plan -/

namespace Detector

variable {d : Detector} {row : Row} {frame other : ExpectedFrame}

/-- The row is one of a frame of the plan. -/
structure Planned (d : Detector) (row : Row) (frame : ExpectedFrame) : Prop where
  planId : row.planId = some d.planId
  scheduled : ∃ (source : String) (cycle : Nat), row.srcName = some source ∧
    row.fieldInt .probeCycle = .ok (some (cycle : Int)) ∧ d.frameOf source cycle = some frame
  destinationBatch : row.fieldInt .destinationBatchIndex =
    .ok (some (frame.destinationBatchIndex : Int))
  portBatch : row.fieldInt .portBatchIndex = .ok (some (frame.portBatchIndex : Int))
  target : ∃ destination ∈ frame.names, row.dstName = some destination

/-- The row has the sockets of the port batch of its frame. -/
structure Sent (d : Detector) (row : Row) (frame : ExpectedFrame) : Prop where
  batch : frame.portBatchIndex < d.plan.settings.portBatches.length
  total : row.fieldInt .rttPortsTotal =
    .ok (some (d.plan.settings.sourcePorts.length : Int))
  active : row.fieldInt .rttPortsActive =
    .ok (some ((d.plan.settings.portBatches.getD frame.portBatchIndex []).length : Int))

/-- The row has the sockets of its frame and no local error. -/
structure Succeeded (d : Detector) (row : Row) (frame : ExpectedFrame) : Prop extends
    Sent d row frame where
  clean : row.fieldInt .localProbeErrors = .ok (some 0)

/-- `(src_name, dst_name, port_batch_index)` -/
def rowTask (row : Row) (frame : ExpectedFrame) : String × String × Nat :=
  (row.srcName.getD "", row.dstName.getD "", frame.portBatchIndex)

/-- A row has one frame at most. -/
theorem Planned.unique (first : Planned d row frame) (second : Planned d row other) :
    frame = other := by
  obtain ⟨source, cycle, isSource, isCycle, found⟩ := first.scheduled
  obtain ⟨source', cycle', isSource', isCycle', found'⟩ := second.scheduled
  rw [isSource] at isSource'
  rw [isCycle] at isCycle'
  cases isSource'
  injection isCycle' with isCycle'
  injection isCycle' with isCycle'
  have same : cycle = cycle' := by omega
  subst same
  rw [found] at found'
  exact Option.some.inj found'

/-! ## The tests of the audit -/

/-- The identity tests -/
theorem planned_of_identify {cycle : Option Int} (isCycle : row.fieldInt .probeCycle = .ok cycle)
    (found : d.identify row cycle = .ok (some frame)) : Planned d row frame := by
  unfold identify at found
  split at found
  · cases found
  · rename_i planId
    split at found
    · cases found
    · rename_i here isFrame
      obtain ⟨destinationBatch, isDestination, found⟩ := bind_eq_ok.mp found
      split at found
      · cases found
      · rename_i sameDestination
        obtain ⟨portBatch, isPort, found⟩ := bind_eq_ok.mp found
        split at found
        · cases found
        · rename_i samePort
          rw [pure_eq_ok] at found
          split at found
          · rename_i target
            cases found
            rw [not_not] at planId sameDestination samePort
            refine ⟨planId, ?_, isDestination.trans (by rw [sameDestination]),
              isPort.trans (by rw [samePort]), ?_⟩
            · unfold frameOfRow at isFrame
              split at isFrame
              · rename_i source number isSource
                split at isFrame
                · rename_i natural
                  refine ⟨source, number.toNat, isSource, ?_, isFrame⟩
                  rw [isCycle, Int.toNat_of_nonneg natural]
                · cases isFrame
              · cases isFrame
            · rw [Option.any_eq_true] at target
              obtain ⟨destination, isTarget, mem⟩ := target
              exact ⟨destination, of_decide_eq_true mem, isTarget⟩
          · cases found

/-- `_has_expected_socket_batch`, for a row of the plan -/
theorem Planned.hasExpectedSocketBatch_iff (planned : Planned d row frame) {expected : Bool}
    (checked : hasExpectedSocketBatch d.plan.settings row = .ok expected) :
    expected = true ↔ Sent d row frame := by
  unfold hasExpectedSocketBatch at checked
  rw [planned.portBatch, ok_bind] at checked
  dsimp only at checked
  split at checked
  · rename_i outside
    cases checked
    refine ⟨nofun, fun sent => absurd ?_ outside⟩
    exact ⟨Int.natCast_nonneg _, Int.ofNat_lt.mpr sent.batch⟩
  · rename_i inside
    rw [not_not] at inside
    obtain ⟨total, isTotal, checked⟩ := bind_eq_ok.mp checked
    split at checked
    · rename_i otherTotal
      cases checked
      refine ⟨nofun, fun sent => absurd ?_ otherTotal⟩
      exact Except.ok.inj (isTotal.symm.trans sent.total)
    · rename_i sameTotal
      rw [not_not] at sameTotal
      obtain ⟨active, isActive, checked⟩ := bind_eq_ok.mp checked
      rw [pure_eq_ok] at checked
      rw [← checked, decide_eq_true_iff]
      constructor
      · intro same
        exact ⟨Int.ofNat_lt.mp inside.2, isTotal.trans (by rw [sameTotal]),
          isActive.trans (by rw [same]; rfl)⟩
      · intro sent
        exact Except.ok.inj (isActive.symm.trans sent.active)

/-- `_has_valid_socket_batch`, for a row of the plan -/
theorem Planned.hasValidSocketBatch_iff (planned : Planned d row frame) {valid : Bool}
    (checked : hasValidSocketBatch d.plan.settings row = .ok valid) :
    valid = true ↔ Succeeded d row frame := by
  unfold hasValidSocketBatch at checked
  obtain ⟨expected, isExpected, checked⟩ := bind_eq_ok.mp checked
  have sent := planned.hasExpectedSocketBatch_iff isExpected
  split at checked
  · rename_i same
    obtain ⟨errors, isErrors, checked⟩ := bind_eq_ok.mp checked
    rw [pure_eq_ok] at checked
    rw [← checked, decide_eq_true_iff]
    constructor
    · intro clean
      exact ⟨sent.mp same, isErrors.trans (by rw [clean])⟩
    · intro succeeded
      exact Except.ok.inj (isErrors.symm.trans succeeded.clean)
  · rename_i other
    cases checked
    exact ⟨nofun, fun succeeded => absurd (sent.mpr succeeded.toSent) other⟩

/-! ## The row loop -/

/-- What an entry of `invalid_rows` says of its row. -/
structure Describes (d : Detector) (row : Row) (frame : ExpectedFrame) (entry : InvalidRow) :
    Prop where
  task : (entry.src, entry.dst, entry.portBatchIndex) = rowTask row frame
  time : entry.time = row.timeText
  errors : row.fieldInt .localProbeErrors = .ok entry.localProbeErrors
  batch : entry.socketBatchValid = true ↔ Sent d row frame

/-- What the accumulators say of the rows before a turn. -/
structure Audited (d : Detector) (rows : List Row) (scan : CoverageScan) : Prop where
  counted : ∀ row ∈ rows, 0 < scan.unexpectedRows ∨ ∃ frame, Planned d row frame ∧
    ((Succeeded d row frame ∧ ∃ v ∈ scan.valid, v.task = rowTask row frame) ∨
      (¬ Succeeded d row frame ∧ ∃ entry ∈ scan.invalidRows, Describes d row frame entry))
  valid : ∀ v ∈ scan.valid, ∃ row ∈ rows, ∃ frame, Planned d row frame ∧
    Succeeded d row frame ∧ v.task = rowTask row frame
  invalid : ∀ entry ∈ scan.invalidRows, ∃ row ∈ rows, ∃ frame, Planned d row frame ∧
    ¬ Succeeded d row frame ∧ Describes d row frame entry

/-- How a turn changes the accumulators. -/
structure Grows (d : Detector) (row : Row) (scan after : CoverageScan) : Prop where
  outcome : scan.unexpectedRows < after.unexpectedRows ∧ after.valid = scan.valid ∧
      after.invalidRows = scan.invalidRows ∨
    after.unexpectedRows = scan.unexpectedRows ∧ ∃ frame, Planned d row frame ∧
      ((Succeeded d row frame ∧ after.invalidRows = scan.invalidRows ∧
          ∃ v, after.valid = scan.valid ++ [v] ∧ v.task = rowTask row frame) ∨
        (¬ Succeeded d row frame ∧ after.valid = scan.valid ∧
          ∃ entry, after.invalidRows = scan.invalidRows ++ [entry] ∧
            Describes d row frame entry))

/-- The audit counts what is incomplete apart from the rest. -/
theorem grows_of_scanRow {scan after : CoverageScan} (scanned : d.scanRow scan row = .ok after) :
    Grows d row scan after := by
  unfold scanRow at scanned
  dsimp only at scanned
  obtain ⟨cycle, isCycle, scanned⟩ := bind_eq_ok.mp scanned
  obtain ⟨found, isFound, scanned⟩ := bind_eq_ok.mp scanned
  generalize isStart : (if row.recordComplete = true then scan
    else { scan with incompleteRecordRows := scan.incompleteRecordRows + 1 }) = start at scanned
  have kept : start.unexpectedRows = scan.unexpectedRows ∧ start.valid = scan.valid ∧
      start.invalidRows = scan.invalidRows := by
    rw [← isStart]
    split
    · exact ⟨rfl, rfl, rfl⟩
    · exact ⟨rfl, rfl, rfl⟩
  obtain ⟨unexpected, valid, invalid⟩ := kept
  rcases found with _ | frame
  · cases scanned
    refine ⟨.inl ⟨?_, valid, invalid⟩⟩
    dsimp only
    omega
  · have planned := planned_of_identify isCycle isFound
    obtain ⟨isValid, checked, scanned⟩ := bind_eq_ok.mp scanned
    have succeeded := planned.hasValidSocketBatch_iff checked
    split at scanned
    · rename_i passed
      cases scanned
      exact ⟨.inr ⟨unexpected, frame, planned, .inl ⟨succeeded.mp passed, invalid, _,
        congrArg (· ++ _) valid, rfl⟩⟩⟩
    · rename_i failed
      obtain ⟨errors, isErrors, scanned⟩ := bind_eq_ok.mp scanned
      obtain ⟨batch, isBatch, scanned⟩ := bind_eq_ok.mp scanned
      cases scanned
      exact ⟨.inr ⟨unexpected, frame, planned, .inr ⟨fun sound => failed (succeeded.mpr sound),
        valid, _, congrArg (· ++ _) invalid, rfl, rfl, isErrors,
        planned.hasExpectedSocketBatch_iff isBatch⟩⟩⟩

theorem audited_nil : Audited d [] {} where
  counted _ mem := absurd mem List.not_mem_nil
  valid _ mem := absurd mem List.not_mem_nil
  invalid _ mem := absurd mem List.not_mem_nil

theorem Grows.mono {scan after : CoverageScan} (grows : Grows d row scan after) :
    scan.unexpectedRows ≤ after.unexpectedRows ∧ scan.valid ⊆ after.valid ∧
      scan.invalidRows ⊆ after.invalidRows := by
  obtain ⟨more, valid, invalid⟩ | ⟨unexpected, frame, -, ⟨-, invalid, v, valid, -⟩ |
    ⟨-, valid, entry, invalid, -⟩⟩ := grows.outcome
  · exact ⟨Nat.le_of_lt more, valid ▸ List.Subset.refl _, invalid ▸ List.Subset.refl _⟩
  · exact ⟨Nat.le_of_eq unexpected.symm, valid ▸ List.subset_append_left _ _,
      invalid ▸ List.Subset.refl _⟩
  · exact ⟨Nat.le_of_eq unexpected.symm, valid ▸ List.Subset.refl _,
      invalid ▸ List.subset_append_left _ _⟩

/-- One more row. -/
theorem Audited.concat {rows : List Row} {scan after : CoverageScan} (audited : Audited d rows scan)
    (grows : Grows d row scan after) : Audited d (rows ++ [row]) after := by
  obtain ⟨more, validKept, invalidKept⟩ := grows.mono
  have here : row ∈ rows ++ [row] := List.mem_concat_self
  have before : ∀ {other}, other ∈ rows → other ∈ rows ++ [row] := List.mem_append_left _
  refine ⟨fun other mem => ?_, fun v mem => ?_, fun entry mem => ?_⟩
  · rcases List.mem_append.mp mem with mem | mem
    · rcases audited.counted other mem with unexpected | ⟨frame, planned, kind⟩
      · exact .inl (Nat.lt_of_lt_of_le unexpected more)
      · refine .inr ⟨frame, planned, ?_⟩
        rcases kind with ⟨succeeded, v, memV, same⟩ | ⟨failed, entry, memEntry, described⟩
        · exact .inl ⟨succeeded, v, validKept memV, same⟩
        · exact .inr ⟨failed, entry, invalidKept memEntry, described⟩
    · cases List.mem_singleton.mp mem
      rcases grows.outcome with ⟨unexpected, -, -⟩ | ⟨-, frame, planned, kind⟩
      · exact .inl (Nat.zero_lt_of_lt unexpected)
      · refine .inr ⟨frame, planned, ?_⟩
        rcases kind with ⟨succeeded, -, v, valid, same⟩ | ⟨failed, -, entry, invalid, described⟩
        · exact .inl ⟨succeeded, v, valid ▸ List.mem_concat_self, same⟩
        · exact .inr ⟨failed, entry, invalid ▸ List.mem_concat_self, described⟩
  · have old : v ∈ scan.valid → ∃ other ∈ rows ++ [row], ∃ frame, Planned d other frame ∧
        Succeeded d other frame ∧ v.task = rowTask other frame := by
      intro memOld
      obtain ⟨other, memOther, rest⟩ := audited.valid v memOld
      exact ⟨other, before memOther, rest⟩
    obtain ⟨-, valid, -⟩ | ⟨-, frame, planned, ⟨succeeded, -, w, valid, same⟩ | ⟨-, valid, -⟩⟩ :=
      grows.outcome
    · exact old (valid ▸ mem)
    · rw [valid] at mem
      rcases List.mem_append.mp mem with mem | mem
      · exact old mem
      · cases List.mem_singleton.mp mem
        exact ⟨row, here, frame, planned, succeeded, same⟩
    · exact old (valid ▸ mem)
  · have old : entry ∈ scan.invalidRows → ∃ other ∈ rows ++ [row], ∃ frame, Planned d other frame ∧
        ¬ Succeeded d other frame ∧ Describes d other frame entry := by
      intro memOld
      obtain ⟨other, memOther, rest⟩ := audited.invalid entry memOld
      exact ⟨other, before memOther, rest⟩
    obtain ⟨-, -, invalid⟩ | ⟨-, frame, planned, ⟨-, invalid, -⟩ |
      ⟨failed, -, added, invalid, described⟩⟩ := grows.outcome
    · exact old (invalid ▸ mem)
    · exact old (invalid ▸ mem)
    · rw [invalid] at mem
      rcases List.mem_append.mp mem with mem | mem
      · exact old mem
      · cases List.mem_singleton.mp mem
        exact ⟨row, here, frame, planned, failed, described⟩

theorem audited_of_foldlM {done rows : List Row} {scan after : CoverageScan}
    (audited : Audited d done scan) (scanned : rows.foldlM d.scanRow scan = .ok after) :
    Audited d (done ++ rows) after := by
  induction rows generalizing done scan with
  | nil =>
      cases scanned
      rw [List.append_nil]
      exact audited
  | cons row rest ih =>
      rw [List.foldlM_cons, bind_eq_ok] at scanned
      obtain ⟨next, first, rest⟩ := scanned
      rw [List.append_cons]
      exact ih (audited.concat (grows_of_scanRow first)) rest

end Detector

end NetOpsBench
