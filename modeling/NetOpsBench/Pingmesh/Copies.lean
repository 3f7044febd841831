import NetOpsBench.Lib.DictEntries
import NetOpsBench.Pingmesh.CoverageRows
import NetOpsBench.Pingmesh.Duplicates
import NetOpsBench.Pingmesh.IngestionOrder

/-!
# Copies of rows

What the audits and the analysis make of a snapshot to which copies of its rows are appended. The
ingestion audit keeps one row for each key and the coverage audit asks only which rows there are, so
that both say the same; the analysis has the same paths, each with the same rows.
-/

namespace Dict

variable {κ ν : Type} [DecidableEq κ]

/-- What is there already may be assigned again. -/
theorem set_of_get {d : Dict κ ν} {k : κ} {v : ν} (found : d.get k = some v) : d.set k v = d := by
  obtain ⟨entries, nodup⟩ := d
  change entries.lookup k = some v at found
  have same : setEntries entries k v = entries := by
    clear nodup
    induction entries with
    | nil => cases found
    | cons entry rest ih =>
        obtain ⟨key, value⟩ := entry
        rw [lookup_cons] at found
        by_cases here : key = k
        · rw [if_pos here.symm] at found
          rw [setEntries, if_pos here, Option.some.inj found]
        · rw [if_neg (Ne.symm here)] at found
          rw [setEntries, if_neg here, ih found]
  unfold set
  congr

end Dict

namespace NetOpsBench

open Fallible

/-! ## The ingestion audit -/

namespace Detector

variable {d : Detector} {lib : PyLibrary} {rows copies : List Row} {row : Row}

/-- A complete row that is in the snapshot already changes nothing. -/
theorem addSnapshot_copy {before after : SnapshotState} (of : SnapshotOf rows before after)
    (mem : row ∈ rows) (complete : row.complete snapshotFields = true) :
    addSnapshot after row = .ok after := by
  obtain ⟨⟨finite, key, isKey⟩, kept⟩ := of.taken row mem complete
  have known := kept key isKey
  unfold addSnapshot
  rw [if_neg (not_not.mpr complete)]
  simp only [bind_eq_ok, reject_eq_ok, pure_eq_ok]
  refine ⟨(), finite, key, isKey, (), ?_, ?_⟩
  · rw [known]
    simp
  · rw [Dict.set_of_get known]

theorem foldlM_copies {before after : SnapshotState} (of : SnapshotOf rows before after)
    (settled : after.pending = []) (isCopy : ∀ row ∈ copies, row ∈ rows) :
    copies.foldlM addSnapshot after = .ok after := by
  induction copies with
  | nil => rfl
  | cons copy copies ih =>
      have complete := (of.settled.mp settled).2 copy (isCopy copy List.mem_cons_self)
      rw [List.foldlM_cons, addSnapshot_copy of (isCopy copy List.mem_cons_self) complete, ok_bind]
      exact ih fun row mem => isCopy row (List.mem_cons_of_mem _ mem)

theorem auditBody_copies {progress : List Row} {start stop : Int} {expected : List RecordKey}
    {actual : Dict RecordKey Row}
    (done : auditBody d lib progress rows start stop = .ok ([], expected, actual))
    (isCopy : ∀ row ∈ copies, row ∈ rows) :
    auditBody d lib progress (rows ++ copies) start stop = .ok ([], expected, actual) := by
  unfold auditBody at done ⊢
  dsimp only at done ⊢
  obtain ⟨missing, searched, done⟩ := bind_eq_ok.mp done
  obtain ⟨frames, isFrames, done⟩ := bind_eq_ok.mp done
  obtain ⟨stamps, isStamps, done⟩ := bind_eq_ok.mp done
  obtain ⟨sources, isSources, done⟩ := bind_eq_ok.mp done
  obtain ⟨snapshot, isSnapshot, done⟩ := bind_eq_ok.mp done
  obtain ⟨again, isAgain, done⟩ := bind_eq_ok.mp done
  rw [searched, ok_bind, isFrames, ok_bind, isStamps, ok_bind, isSources, ok_bind]
  generalize Findings.join
    (⟨if missing = true then ["progress: missing required fields"] else [], []⟩ :: sources) =
      audited at isSnapshot done ⊢
  have settled : snapshot.pending = [] := by
    have none_ := congrArg Prod.fst (Except.ok.inj done)
    change (if sameSet snapshot.actual.keys audited.expectedRows = true then snapshot.pending
      else snapshot.pending ++ ["snapshot and frame records do not match"]) = [] at none_
    split at none_
    · exact none_
    · exact (List.append_eq_nil_iff.mp none_).1
  have more : (rows ++ copies).foldlM addSnapshot ⟨audited.pending, .empty⟩ = .ok snapshot := by
    rw [List.foldlM_append, isSnapshot, ok_bind]
    exact foldlM_copies (snapshot_spec rfl isSnapshot) settled isCopy
  rw [more, ok_bind, isAgain, ok_bind]
  exact done

/-- Copies of rows leave the audit of a ready window as it is. -/
theorem auditIngestion_copies {progress : List Row} {startTime endTime : String} {audit : Audit}
    (done : auditIngestion d lib progress rows startTime endTime = .ok audit)
    (ready : audit.isReady = true) (isCopy : ∀ row ∈ copies, row ∈ rows) :
    auditIngestion d lib progress (rows ++ copies) startTime endTime = .ok audit := by
  unfold auditIngestion at done ⊢
  obtain ⟨start, isStart, done⟩ := bind_eq_ok.mp done
  obtain ⟨stop, isStop, done⟩ := bind_eq_ok.mp done
  rw [isStart, ok_bind, isStop, ok_bind]
  cases body : auditBody d lib progress rows start stop with
  | error e =>
      rw [body] at done
      cases done
      cases ready
  | ok result =>
      obtain ⟨pending, expected, actual⟩ := result
      rw [body] at done
      cases done
      have none_ : pending = [] := by
        by_contra some_
        rw [decide_eq_false some_] at ready
        cases ready
      subst none_
      rw [auditBody_copies body isCopy]
      rfl

/-! ## The coverage audit -/

/-- What a row adds to the accumulators of the coverage audit that decide on its status. -/
structure Adds (one scan after : CoverageScan) : Prop where
  valid : after.valid = scan.valid ++ one.valid
  unexpected : after.unexpectedRows = scan.unexpectedRows + one.unexpectedRows
  invalid : after.invalidSocketRows = scan.invalidSocketRows + one.invalidSocketRows

/-- A row adds the same to all accumulators. -/
theorem scanRow_adds {scan after : CoverageScan} (scanned : d.scanRow scan row = .ok after)
    (scan' : CoverageScan) : ∃ one after', d.scanRow {} row = .ok one ∧ Adds one scan after ∧
      d.scanRow scan' row = .ok after' ∧ Adds one scan' after' := by
  have start (scan : CoverageScan) :
      (if row.recordComplete = true then scan
        else { scan with incompleteRecordRows := scan.incompleteRecordRows + 1 }).valid =
          scan.valid ∧
      (if row.recordComplete = true then scan
        else { scan with incompleteRecordRows := scan.incompleteRecordRows + 1 }).unexpectedRows =
          scan.unexpectedRows ∧
      (if row.recordComplete = true then scan
        else { scan with incompleteRecordRows := scan.incompleteRecordRows + 1 }).invalidSocketRows =
          scan.invalidSocketRows := by
    split
    · exact ⟨rfl, rfl, rfl⟩
    · exact ⟨rfl, rfl, rfl⟩
  unfold scanRow at scanned ⊢
  dsimp only at scanned ⊢
  obtain ⟨cycle, isCycle, scanned⟩ := bind_eq_ok.mp scanned
  obtain ⟨found, isFound, scanned⟩ := bind_eq_ok.mp scanned
  rw [isCycle, ok_bind, ok_bind, isFound, ok_bind, ok_bind]
  obtain ⟨validEmpty, unexpectedEmpty, invalidEmpty⟩ := start {}
  obtain ⟨valid, unexpected, invalid⟩ := start scan
  obtain ⟨valid', unexpected', invalid'⟩ := start scan'
  cases found with
  | none =>
      cases scanned
      refine ⟨_, _, rfl, ?_, rfl, ?_⟩
      · constructor <;> simp [valid, validEmpty, unexpected, unexpectedEmpty, invalid, invalidEmpty]
      · constructor <;> simp [valid', validEmpty, unexpected', unexpectedEmpty, invalid', invalidEmpty]
  | some frame =>
      obtain ⟨isValid, checked, scanned⟩ := bind_eq_ok.mp scanned
      dsimp only at scanned ⊢
      rw [checked, ok_bind, ok_bind]
      cases isValid with
      | true =>
          cases scanned
          refine ⟨_, _, rfl, ?_, rfl, ?_⟩
          · constructor <;> simp [valid, validEmpty, unexpected, unexpectedEmpty, invalid, invalidEmpty]
          · constructor <;>
              simp [valid', validEmpty, unexpected', unexpectedEmpty, invalid', invalidEmpty]
      | false =>
          obtain ⟨errors, isErrors, scanned⟩ := bind_eq_ok.mp scanned
          obtain ⟨batch, isBatch, scanned⟩ := bind_eq_ok.mp scanned
          cases scanned
          simp only [Bool.false_eq_true, if_false, isErrors, isBatch, ok_bind]
          refine ⟨_, _, rfl, ?_, rfl, ?_⟩
          · constructor <;> simp [valid, validEmpty, unexpected, unexpectedEmpty, invalid, invalidEmpty]
          · constructor <;>
              simp [valid', validEmpty, unexpected', unexpectedEmpty, invalid', invalidEmpty]

/-- What the accumulators say of all rows. -/
structure Covers (d : Detector) (rows : List Row) (scan after : CoverageScan) : Prop where
  scanned : ∀ row ∈ rows, ∃ one, d.scanRow {} row = .ok one
  valid : ∀ v, v ∈ after.valid ↔ v ∈ scan.valid ∨
    ∃ row ∈ rows, ∃ one, d.scanRow {} row = .ok one ∧ v ∈ one.valid
  unexpected : after.unexpectedRows = 0 ↔ scan.unexpectedRows = 0 ∧
    ∀ row ∈ rows, ∀ one, d.scanRow {} row = .ok one → one.unexpectedRows = 0
  invalid : after.invalidSocketRows = 0 ↔ scan.invalidSocketRows = 0 ∧
    ∀ row ∈ rows, ∀ one, d.scanRow {} row = .ok one → one.invalidSocketRows = 0

theorem covers_of_foldlM {scan after : CoverageScan}
    (done : rows.foldlM d.scanRow scan = .ok after) : Covers d rows scan after := by
  induction rows generalizing scan with
  | nil =>
      cases done
      exact ⟨by simp, by simp, by simp, by simp⟩
  | cons row rows ih =>
      rw [List.foldlM_cons, bind_eq_ok] at done
      obtain ⟨next, first, rest⟩ := done
      obtain ⟨one, -, single, adds, -⟩ := scanRow_adds first {}
      have covers := ih rest
      have only (other : CoverageScan) (found : d.scanRow {} row = .ok other) : other = one :=
        Except.ok.inj (found.symm.trans single)
      constructor
      · intro other mem
        rcases List.mem_cons.mp mem with rfl | later
        · exact ⟨one, single⟩
        · exact covers.scanned other later
      · intro v
        rw [covers.valid, adds.valid, List.mem_append, or_assoc]
        simp only [List.mem_cons, exists_eq_or_imp]
        apply or_congr_right
        apply or_congr_left
        constructor
        · intro mem
          exact ⟨one, single, mem⟩
        · intro found
          obtain ⟨other, isOther, mem⟩ := found
          exact only other isOther ▸ mem
      · rw [covers.unexpected, adds.unexpected, Nat.add_eq_zero_iff, List.forall_mem_cons, and_assoc]
        apply and_congr_right
        intro _
        apply and_congr_left
        intro _
        exact ⟨fun zero other isOther => only other isOther ▸ zero, fun all => all one single⟩
      · rw [covers.invalid, adds.invalid, Nat.add_eq_zero_iff, List.forall_mem_cons, and_assoc]
        apply and_congr_right
        intro _
        apply and_congr_left
        intro _
        exact ⟨fun zero other isOther => only other isOther ▸ zero, fun all => all one single⟩

theorem foldlM_total (all : ∀ row ∈ rows, ∃ one, d.scanRow {} row = .ok one) (scan : CoverageScan) :
    ∃ after, rows.foldlM d.scanRow scan = .ok after := by
  induction rows generalizing scan with
  | nil => exact ⟨scan, rfl⟩
  | cons row rows ih =>
      obtain ⟨one, single⟩ := all row List.mem_cons_self
      obtain ⟨-, next, -, -, first, -⟩ := scanRow_adds single scan
      obtain ⟨after, rest⟩ := ih (fun other mem => all other (List.mem_cons_of_mem _ mem)) next
      exact ⟨after, by rw [List.foldlM_cons, first, ok_bind, rest]⟩

/-- The status depends on which rows there are. -/
theorem complete_congr {rows' : List Row} {scan scan' : CoverageScan} (covers : Covers d rows {} scan)
    (covers' : Covers d rows' {} scan') (same : ∀ row, row ∈ rows ↔ row ∈ rows') :
    (d.coverageOf scan).complete = (d.coverageOf scan').complete := by
  have valid : ∀ v, v ∈ scan.valid ↔ v ∈ scan'.valid := by
    intro v
    rw [covers.valid, covers'.valid]
    simp only [same]
  have tasks : ∀ task, task ∈ scan.valid.map ValidRow.task ↔ task ∈ scan'.valid.map ValidRow.task := by
    intro task
    rw [List.mem_map, List.mem_map]
    simp only [valid]
  have unexpected : scan.unexpectedRows = 0 ↔ scan'.unexpectedRows = 0 := by
    rw [covers.unexpected, covers'.unexpected]
    simp only [same]
  have invalid : scan.invalidSocketRows = 0 ↔ scan'.invalidSocketRows = 0 := by
    rw [covers.invalid, covers'.invalid]
    simp only [same]
  unfold coverageOf
  simp only [List.mem_dedup, tasks, unexpected, invalid]

/-- Copies of rows leave the status of the coverage as it is. -/
theorem summarizeCoverage_copies (isCopy : ∀ row ∈ copies, row ∈ rows) :
    (d.summarizeCoverage (rows ++ copies)).map Coverage.complete =
      (d.summarizeCoverage rows).map Coverage.complete := by
  unfold summarizeCoverage
  cases done : rows.foldlM d.scanRow {} with
  | error e =>
      rw [List.foldlM_append, done]
      rfl
  | ok scan =>
      have covers := covers_of_foldlM done
      obtain ⟨scan', more⟩ := foldlM_total (fun row mem => covers.scanned row (isCopy row mem)) scan
      have all : (rows ++ copies).foldlM d.scanRow {} = .ok scan' := by
        rw [List.foldlM_append, done, ok_bind, more]
      rw [all, ok_bind, ok_bind]
      refine congrArg Except.ok (complete_congr (covers_of_foldlM all) covers ?_)
      intro row
      rw [List.mem_append]
      exact ⟨fun mem => mem.elim id (isCopy row), .inl⟩

end Detector

end NetOpsBench
