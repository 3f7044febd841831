import Mathlib.Algebra.Order.BigOperators.Group.List
import Mathlib.Tactic.Linarith
import Mathlib.Tactic.Ring
import NetOpsBench.Pingmesh.AbsoluteHealth

/-!
# Repeated rows in the analysis

The audit counts a repeated row once, and the analysis sums over all rows. A verdict of the analysis
is the same for every number of repetitions where the rows agree on it one by one: where each row
alone is below a limit, so is every sum over them.
-/

namespace NetOpsBench

/-! ## Sums and medians -/

section Sums

variable {α : Type} {f : α → Rat} {xs : List α}

theorem sum_map_nonpos (all : ∀ x ∈ xs, f x ≤ 0) : (xs.map f).sum ≤ 0 := by
  have bound := List.sum_le_sum (f := f) (g := fun _ => (0 : Rat)) all
  simpa using bound

theorem sum_map_neg (all : ∀ x ∈ xs, f x ≤ 0) (some_ : ∃ x ∈ xs, f x < 0) :
    (xs.map f).sum < 0 := by
  have bound := List.sum_lt_sum f (fun _ => (0 : Rat)) all some_
  simpa using bound

theorem sum_map_nonneg (all : ∀ x ∈ xs, 0 ≤ f x) : 0 ≤ (xs.map f).sum := by
  have bound := List.sum_le_sum (f := fun _ => (0 : Rat)) (g := f) all
  simpa using bound

theorem sum_map_pos (all : ∀ x ∈ xs, 0 ≤ f x) (some_ : ∃ x ∈ xs, 0 < f x) :
    0 < (xs.map f).sum := by
  have bound := List.sum_lt_sum (fun _ => (0 : Rat)) f all some_
  simpa using bound

end Sums

/-- The median lies among the values. -/
theorem exists_median_le {values : List Rat} (some_ : values ≠ []) :
    (∃ value ∈ values, median values ≤ value) ∧ ∃ value ∈ values, value ≤ median values := by
  have length : (Sorting.sorted (fun a b => decide (a ≤ b)) values).length = values.length :=
    (Sorting.sorted_perm _ values).length_eq
  have positive : 0 < values.length := List.length_pos_iff.mpr some_
  have among {index : Nat} (below : index < values.length) :
      (Sorting.sorted (fun a b => decide (a ≤ b)) values).getD index 0 ∈ values := by
    rw [List.getD_eq_getElem _ _ (by omega)]
    exact Sorting.mem_sorted.mp (List.getElem_mem _)
  unfold median
  dsimp only
  rw [length]
  split
  · have inside := among (show values.length / 2 < values.length by omega)
    exact ⟨⟨_, inside, le_refl _⟩, ⟨_, inside, le_refl _⟩⟩
  · have first := among (show values.length / 2 - 1 < values.length by omega)
    have second := among (show values.length / 2 < values.length by omega)
    generalize (Sorting.sorted (fun a b => decide (a ≤ b)) values).getD (values.length / 2 - 1) 0 =
      a at first ⊢
    generalize (Sorting.sorted (fun a b => decide (a ≤ b)) values).getD (values.length / 2) 0 =
      b at second ⊢
    rcases le_total a b with ordered | ordered
    · exact ⟨⟨b, second, by linarith⟩, ⟨a, first, by linarith⟩⟩
    · exact ⟨⟨a, first, by linarith⟩, ⟨b, second, by linarith⟩⟩

/-! ## Rows that agree -/

/-- The lost probes of a row in hundredths, less those that a percentage of its probes allows. -/
def Row.excess (df : Bool) (pct : Rat) (row : Row) : Rat :=
  100 * row.asFloat (lostField df) - pct * row.asFloat (sentField df)

/-- The loss of a row alone, in per cent. -/
def Row.lossPct (df : Bool) (row : Row) : Rat :=
  row.asFloat (lostField df) / row.asFloat (sentField df) * 100

/-- However often the rows are repeated, they lose less than a percentage. -/
def StaysBelow (df : Bool) (pct : Rat) (rows : List Row) : Prop :=
  (∀ row ∈ counted df rows, row.excess df pct ≤ 0) ∧ ∃ row ∈ counted df rows, row.excess df pct < 0

/-- However often the rows are repeated, they lose a percentage or more. -/
def StaysAtLeast (df : Bool) (pct : Rat) (rows : List Row) : Prop :=
  ∀ row ∈ counted df rows, 0 ≤ row.excess df pct

/-- However often the rows are repeated, the current ones lose less than the others and a margin. -/
def StaysWithin (df : Bool) (margin : Rat) (baseline current : List Row) : Prop :=
  (∀ other ∈ counted df baseline, ∀ row ∈ counted df current,
    row.lossPct df ≤ other.lossPct df + margin) ∧
  ∃ other ∈ counted df baseline, ∃ row ∈ counted df current,
    row.lossPct df < other.lossPct df + margin

/-- No row has lost a probe. -/
def Lossless (rows : List Row) : Prop := ∀ row ∈ counted false rows, row.asFloat .packetsLost ≤ 0

/-- No row has lost less than nothing, and one has lost a probe. -/
def Lossy (rows : List Row) : Prop :=
  (∀ row ∈ counted false rows, 0 ≤ row.asFloat .packetsLost) ∧
    ∃ row ∈ counted false rows, 0 < row.asFloat .packetsLost

/-- No row has dropped less than nothing, and one has dropped a packet. -/
def Dropping (rows : List Row) : Prop :=
  (∀ row ∈ rows, 0 ≤ row.asFloat .dfMtuDrops) ∧ ∃ row ∈ rows, 0 < row.asFloat .dfMtuDrops

variable {df : Bool} {pct margin : Rat} {rows rows' baseline baseline' current current' : List Row}
  {row : Row} {stats base : LossStats} {thresholds : DetectorThresholds}

theorem mem_counted : row ∈ counted df rows ↔ row ∈ rows ∧ 0 < row.asFloat (sentField df) := by
  unfold counted
  rw [List.mem_filter, decide_eq_true_eq]

/-- Rows are counted alike in lists with the same rows. -/
theorem mem_counted_iff (same : ∀ row, row ∈ rows ↔ row ∈ rows') :
    row ∈ counted df rows ↔ row ∈ counted df rows' := by
  rw [mem_counted, mem_counted, same]

theorem counted_eq_nil (same : ∀ row, row ∈ rows ↔ row ∈ rows') :
    counted df rows = [] ↔ counted df rows' = [] := by
  rw [List.eq_nil_iff_forall_not_mem, List.eq_nil_iff_forall_not_mem]
  exact forall_congr' fun row => not_congr (mem_counted_iff same)

/-- A row alone against a percentage. -/
theorem excess_nonpos (mem : row ∈ counted df rows) :
    row.excess df pct ≤ 0 ↔ row.lossPct df ≤ pct := by
  have positive := (mem_counted.mp mem).2
  unfold Row.excess Row.lossPct
  rw [div_mul_eq_mul_div, div_le_iff₀ positive, sub_nonpos, mul_comm 100]

theorem excess_neg (mem : row ∈ counted df rows) :
    row.excess df pct < 0 ↔ row.lossPct df < pct := by
  have positive := (mem_counted.mp mem).2
  unfold Row.excess Row.lossPct
  rw [div_mul_eq_mul_div, div_lt_iff₀ positive, sub_neg, mul_comm 100]

namespace LossStats

/-- What the statistics of rows are. -/
structure Of (df : Bool) (rows : List Row) (stats : LossStats) : Prop where
  some_ : counted df rows ≠ []
  sent : stats.sent = ((counted df rows).map fun row => row.asFloat (sentField df)).sum
  lost : stats.lost = ((counted df rows).map fun row => row.asFloat (lostField df)).sum
  lossPct : stats.lossPct = stats.lost / stats.sent * 100
  mtuDrops : stats.mtuDrops =
    if df then (rows.map fun row => row.asFloat .dfMtuDrops).sum else 0

theorem of_lossStats (found : lossStats df rows = some stats) : stats.Of df rows := by
  unfold lossStats at found
  dsimp only at found
  split at found
  · cases found
  · rename_i some_
    cases found
    exact ⟨some_, rfl, rfl, rfl, rfl⟩

namespace Of

variable (of : stats.Of df rows)
include of

theorem sent_pos : 0 < stats.sent := by
  rw [of.sent]
  obtain ⟨row, mem⟩ := List.exists_mem_of_ne_nil _ of.some_
  exact sum_map_pos (fun row mem => le_of_lt (mem_counted.mp mem).2)
    ⟨row, mem, (mem_counted.mp mem).2⟩

/-- The sum of what the rows lose too much. -/
theorem excess (pct : Rat) :
    ((counted df rows).map (Row.excess df pct)).sum = 100 * stats.lost - pct * stats.sent := by
  rw [of.lost, of.sent]
  induction counted df rows with
  | nil => simp
  | cons row rest ih =>
      rw [List.map_cons, List.sum_cons, ih, List.map_cons, List.sum_cons, List.map_cons,
        List.sum_cons]
      unfold Row.excess
      ring

theorem lossPct_lt : stats.lossPct < pct ↔ 100 * stats.lost - pct * stats.sent < 0 := by
  rw [of.lossPct, div_mul_eq_mul_div, div_lt_iff₀ of.sent_pos, sub_neg, mul_comm 100]

theorem le_lossPct : pct ≤ stats.lossPct ↔ 0 ≤ 100 * stats.lost - pct * stats.sent := by
  rw [of.lossPct, div_mul_eq_mul_div, le_div_iff₀ of.sent_pos, sub_nonneg, mul_comm 100]

theorem lossPct_lt_of (below : StaysBelow df pct rows) : stats.lossPct < pct := by
  rw [of.lossPct_lt, ← of.excess]
  exact sum_map_neg below.1 below.2

theorem le_lossPct_of (above : StaysAtLeast df pct rows) : pct ≤ stats.lossPct := by
  rw [of.le_lossPct, ← of.excess]
  exact sum_map_nonneg above

/-- All probes are lost at a hundred per cent. -/
theorem sent_le_lost : stats.sent ≤ stats.lost ↔ 100 ≤ stats.lossPct := by
  rw [of.le_lossPct]
  constructor
  · intro all
    linarith
  · intro all
    linarith

theorem lost_nonpos (lossless : Lossless rows) (regular : df = false) : stats.lost ≤ 0 := by
  subst regular
  rw [of.lost]
  exact sum_map_nonpos lossless

theorem lost_pos (lossy : Lossy rows) (regular : df = false) : 0 < stats.lost := by
  subst regular
  rw [of.lost]
  exact sum_map_pos lossy.1 lossy.2

theorem mtuDrops_pos (dropping : Dropping rows) (isDf : df = true) : 0 < stats.mtuDrops := by
  subst isDf
  rw [of.mtuDrops, if_pos rfl]
  exact sum_map_pos dropping.1 dropping.2

theorem lt_lossPct_of (above : StaysAtLeast df pct rows)
    (some_ : ∃ row ∈ counted df rows, 0 < row.excess df pct) : pct < stats.lossPct := by
  have positive := sum_map_pos above some_
  rw [of.excess] at positive
  rw [of.lossPct, div_mul_eq_mul_div, lt_div_iff₀ of.sent_pos]
  linarith

/-- The mean of the others and the margin bounds the mean of the rows. -/
theorem lossPct_lt_within {stats' : LossStats} (of' : stats'.Of df rows')
    (within : StaysWithin df margin rows rows') : stats'.lossPct < stats.lossPct + margin := by
  have above (row : Row) (isRow : row ∈ counted df rows') :
      StaysAtLeast df (row.lossPct df - margin) rows := by
    intro other isOther
    rw [← not_lt, excess_neg isOther, not_lt]
    have bound := within.1 other isOther row isRow
    linarith
  obtain ⟨other, isOther, row, isRow, strict⟩ := within.2
  apply of'.lossPct_lt_of
  constructor
  · intro row isRow
    have bound := of.le_lossPct_of (above row isRow)
    rw [excess_nonpos isRow]
    linarith
  · have bound := of.lt_lossPct_of (above row isRow) ⟨other, isOther, by
      rw [← not_le, excess_nonpos isOther]
      linarith⟩
    refine ⟨row, isRow, ?_⟩
    rw [excess_neg isRow]
    linarith

end Of

end LossStats

/-! ## Nothing to report -/

/-- However often the rows are repeated, the latency of a path is no anomaly. -/
def QuietLatency (baseline current : List Row) : Prop :=
  ∀ row ∈ current, 0 < row.asFloat .rttAvg → ∀ other ∈ baseline, 0 < other.asFloat .rttAvg →
    row.asFloat .rttAvg < other.asFloat .rttAvg + minLatencyDeltaMs

/-- However often the rows are repeated, the loss of a path is no anomaly. -/
def QuietLoss (thresholds : DetectorThresholds) (baseline current : List Row) : Prop :=
  counted false baseline = [] ∨ counted false current = [] ∨
    StaysBelow false 100 current ∧
      (Lossless current ∨ StaysBelow false thresholds.lossPctThreshold current ∨
        StaysWithin false thresholds.lossPctDelta baseline current)

/-- However often the rows are repeated, a port batch is not suspect. -/
def QuietDf (baseline current : List Row) : Prop :=
  counted true baseline = [] ∨ counted true current = [] ∨ counted false baseline = [] ∨
    counted false current = [] ∨ Lossy current ∨ Dropping current ∨ StaysBelow true 100 current ∨
    StaysWithin true 15 baseline current

theorem latency_none (quiet : QuietLatency baseline current) :
    latencyAnomaly baseline current = none := by
  unfold latencyAnomaly
  dsimp only
  split
  · rfl
  · rename_i both
    rw [not_or] at both
    obtain ⟨value, isValue, above⟩ := (exists_median_le both.1).1
    obtain ⟨other, isOther, below⟩ := (exists_median_le both.2).2
    obtain ⟨isRow, positive⟩ := List.mem_filter.mp isValue
    obtain ⟨isRow', positive'⟩ := List.mem_filter.mp isOther
    obtain ⟨row, mem, rfl⟩ := List.mem_map.mp isRow
    obtain ⟨row', mem', rfl⟩ := List.mem_map.mp isRow'
    have bound := quiet row mem (of_decide_eq_true positive) row' mem' (of_decide_eq_true positive')
    rw [if_pos (by linarith)]

theorem loss_none (quiet : QuietLoss thresholds baseline current) :
    (thresholds.lossAnomaly baseline current).1 = none := by
  unfold DetectorThresholds.lossAnomaly
  split
  · rfl
  rename_i stats found
  have of := LossStats.of_lossStats found
  split
  · rfl
  split
  · rfl
  rename_i base known
  have ofBase := LossStats.of_lossStats known
  rcases quiet with none_ | none_ | ⟨below, rest⟩
  · exact absurd none_ ofBase.some_
  · exact absurd none_ of.some_
  have partial_ : ¬ stats.sent ≤ stats.lost := by
    rw [of.sent_le_lost, not_le]
    exact of.lossPct_lt_of below
  dsimp only
  rw [if_neg partial_]
  split
  · rename_i reported
    exfalso
    have high : thresholds.lossPctThreshold ≤ stats.lossPct :=
      (le_max_left _ _).trans reported.1
    have relative : base.lossPct + thresholds.lossPctDelta ≤ stats.lossPct :=
      (le_max_right _ _).trans reported.1
    rcases rest with lossless | small | within
    · have few := of.lost_nonpos lossless rfl
      have enough := reported.2
      unfold minPathLostProbes at enough
      linarith
    · exact absurd high (not_le.mpr (of.lossPct_lt_of small))
    · exact absurd relative (not_le.mpr (ofBase.lossPct_lt_within of within))
  · rfl

theorem df_none (quiet : QuietDf baseline current) : thresholds.dfAnomaly baseline current = none := by
  unfold DetectorThresholds.dfAnomaly
  split
  · rename_i baseDf currentDf baseRtt currentRtt isBaseDf isDf isBaseRtt isRtt
    have ofBaseDf := LossStats.of_lossStats isBaseDf
    have ofDf := LossStats.of_lossStats isDf
    have ofBaseRtt := LossStats.of_lossStats isBaseRtt
    have ofRtt := LossStats.of_lossStats isRtt
    apply if_neg
    unfold DetectorThresholds.dfSuspect
    dsimp only
    rw [decide_eq_true_eq]
    rintro ⟨⟨-, -, lossless⟩, ⟨-, all, rise⟩, few⟩
    rcases quiet with none_ | none_ | none_ | none_ | lossy | dropping | below | within
    · exact ofBaseDf.some_ none_
    · exact ofDf.some_ none_
    · exact ofBaseRtt.some_ none_
    · exact ofRtt.some_ none_
    · have positive := ofRtt.lost_pos lossy rfl
      rw [lossless] at positive
      exact lt_irrefl _ positive
    · exact few (ofDf.mtuDrops_pos dropping rfl)
    · exact absurd (ofDf.sent_le_lost.mp all) (not_le.mpr (ofDf.lossPct_lt_of below))
    · have bound := ofBaseDf.lossPct_lt_within ofDf within
      linarith
  · rfl

/-! ## Lists with the same rows -/

section Same

variable (same : ∀ row, row ∈ rows ↔ row ∈ rows')
include same

theorem StaysBelow.congr (below : StaysBelow df pct rows) : StaysBelow df pct rows' := by
  refine ⟨fun row mem => below.1 row ((mem_counted_iff same).mpr mem), ?_⟩
  obtain ⟨row, mem, less⟩ := below.2
  exact ⟨row, (mem_counted_iff same).mp mem, less⟩

theorem StaysAtLeast.congr (above : StaysAtLeast df pct rows) : StaysAtLeast df pct rows' :=
  fun row mem => above row ((mem_counted_iff same).mpr mem)

theorem Lossless.congr (lossless : Lossless rows) : Lossless rows' :=
  fun row mem => lossless row ((mem_counted_iff same).mpr mem)

theorem Lossy.congr (lossy : Lossy rows) : Lossy rows' := by
  refine ⟨fun row mem => lossy.1 row ((mem_counted_iff same).mpr mem), ?_⟩
  obtain ⟨row, mem, lost⟩ := lossy.2
  exact ⟨row, (mem_counted_iff same).mp mem, lost⟩

theorem Dropping.congr (dropping : Dropping rows) : Dropping rows' := by
  refine ⟨fun row mem => dropping.1 row ((same row).mpr mem), ?_⟩
  obtain ⟨row, mem, dropped⟩ := dropping.2
  exact ⟨row, (same row).mp mem, dropped⟩

end Same

section SamePair

variable (sameBaseline : ∀ row, row ∈ baseline ↔ row ∈ baseline')
  (sameCurrent : ∀ row, row ∈ current ↔ row ∈ current')
include sameBaseline sameCurrent

theorem StaysWithin.congr (within : StaysWithin df margin baseline current) :
    StaysWithin df margin baseline' current' := by
  constructor
  · intro other isOther row isRow
    exact within.1 other ((mem_counted_iff sameBaseline).mpr isOther) row
      ((mem_counted_iff sameCurrent).mpr isRow)
  · obtain ⟨other, isOther, row, isRow, less⟩ := within.2
    exact ⟨other, (mem_counted_iff sameBaseline).mp isOther, row,
      (mem_counted_iff sameCurrent).mp isRow, less⟩

theorem QuietLatency.congr (quiet : QuietLatency baseline current) :
    QuietLatency baseline' current' :=
  fun row mem positive other isOther => quiet row ((sameCurrent row).mpr mem) positive other
    ((sameBaseline other).mpr isOther)

theorem QuietLoss.congr (quiet : QuietLoss thresholds baseline current) :
    QuietLoss thresholds baseline' current' := by
  rcases quiet with none_ | none_ | ⟨below, rest⟩
  · exact .inl ((counted_eq_nil sameBaseline).mp none_)
  · exact .inr (.inl ((counted_eq_nil sameCurrent).mp none_))
  · refine .inr (.inr ⟨below.congr sameCurrent, ?_⟩)
    rcases rest with lossless | small | within
    · exact .inl (lossless.congr sameCurrent)
    · exact .inr (.inl (small.congr sameCurrent))
    · exact .inr (.inr (within.congr sameBaseline sameCurrent))

theorem QuietDf.congr (quiet : QuietDf baseline current) : QuietDf baseline' current' := by
  rcases quiet with none_ | none_ | none_ | none_ | lossy | dropping | below | within
  · exact .inl ((counted_eq_nil sameBaseline).mp none_)
  · exact .inr (.inl ((counted_eq_nil sameCurrent).mp none_))
  · exact .inr (.inr (.inl ((counted_eq_nil sameBaseline).mp none_)))
  · exact .inr (.inr (.inr (.inl ((counted_eq_nil sameCurrent).mp none_))))
  · exact .inr (.inr (.inr (.inr (.inl (lossy.congr sameCurrent)))))
  · exact .inr (.inr (.inr (.inr (.inr (.inl (dropping.congr sameCurrent))))))
  · exact .inr (.inr (.inr (.inr (.inr (.inr (.inl (below.congr sameCurrent)))))))
  · exact .inr (.inr (.inr (.inr (.inr (.inr (.inr (within.congr sameBaseline sameCurrent)))))))

end SamePair

end NetOpsBench
