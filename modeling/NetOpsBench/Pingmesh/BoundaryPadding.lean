import NetOpsBench.Lib.CyclicRuns
import NetOpsBench.Pingmesh.Expectations

/-!
# The padding of an ingestion window

`_boundary_padding_seconds` of `netopsbench/platform/pingmesh/_detector_ingestion.py`: how far
past both ends of a window the rows are read, so that every client has probed something there.
-/

namespace NetOpsBench

open CyclicRuns (walk IsLongest isLongest_walk walk_eq_max)

/-- `not frame.target_indices` -/
def ProbeFrame.isEmpty (frame : ProbeFrame) : Bool := frame.targetIndices.isEmpty

/-- The longest run of empty frames, as the loop over the clients counts it. -/
def PingmeshPlan.longestEmptyRun (plan : PingmeshPlan) : Nat :=
  plan.clients.foldl
    (fun longest client =>
      (walk ProbeFrame.isEmpty client.frames.length longest (client.frames ++ client.frames)).2) 0

/-- `_boundary_padding_seconds` -/
def PingmeshPlan.boundaryPaddingSeconds (plan : PingmeshPlan) : Nat :=
  (plan.longestEmptyRun + 2) * plan.settings.cycleIntervalSeconds

/-- The client's longest run of empty frames, from the last frame on to the first included. -/
def ClientProbePlan.IsLongestEmptyRun (client : ClientProbePlan) (k : Nat) : Prop :=
  IsLongest ProbeFrame.isEmpty client.frames k

/-- The greatest of what is known before and the clients' own longest runs. -/
theorem foldl_longest_isGreatest (clients : List ClientProbePlan) (before : Nat) :
    IsGreatest {k | k = before ∨ ∃ client ∈ clients, client.IsLongestEmptyRun k}
      (clients.foldl
        (fun longest client =>
          (walk ProbeFrame.isEmpty client.frames.length longest
            (client.frames ++ client.frames)).2) before) := by
  induction clients generalizing before with
  | nil => simp [IsGreatest, upperBounds]
  | cons client clients ih =>
    rw [List.foldl_cons, walk_eq_max]
    have own : client.IsLongestEmptyRun _ := isLongest_walk client.frames
    obtain ⟨attained, bounds⟩ :=
      ih (max before (walk ProbeFrame.isEmpty client.frames.length 0
        (client.frames ++ client.frames)).2)
    constructor
    · rcases attained with known | ⟨other, mem, longest⟩
      · rw [known]
        rcases Nat.le_total before (walk ProbeFrame.isEmpty client.frames.length 0
          (client.frames ++ client.frames)).2 with le | le
        · rw [Nat.max_eq_right le]
          exact .inr ⟨client, List.mem_cons_self, own⟩
        · rw [Nat.max_eq_left le]
          exact .inl rfl
      · exact .inr ⟨other, List.mem_cons_of_mem _ mem, longest⟩
    · intro k found
      have atLeast := bounds (.inl rfl)
      rcases found with rfl | ⟨other, mem, longest⟩
      · exact (Nat.le_max_left _ _).trans atLeast
      · rcases List.mem_cons.mp mem with rfl | inside
        · rw [IsGreatest.unique longest own]
          exact (Nat.le_max_right _ _).trans atLeast
        · exact bounds (.inr ⟨other, inside, longest⟩)

namespace Compiled

variable {manifest : TopologyManifest} {peers : Peers} {plan : PingmeshPlan}

/-- Every client of the plan probes some target. -/
theorem exists_nonempty (compiled : Compiled manifest peers plan) {client : ClientProbePlan}
    (mem : client ∈ plan.clients) : ∃ frame ∈ client.frames, frame.isEmpty = false := by
  obtain ⟨frame, memFrame, active⟩ := compiled.exists_first_target mem
  refine ⟨frame, memFrame, ?_⟩
  rw [ProbeFrame.isEmpty, List.isEmpty_eq_false_iff]
  exact List.ne_nil_of_mem active

theorem longestEmptyRun_isGreatest (compiled : Compiled manifest peers plan) :
    IsGreatest {k | ∃ client ∈ plan.clients, client.IsLongestEmptyRun k}
      plan.longestEmptyRun := by
  obtain ⟨attained, bounds⟩ := foldl_longest_isGreatest plan.clients 0
  constructor
  · rcases attained with zero | found
    · have clients : 0 < plan.clients.length := by
        have two := compiled.two_clients
        rw [compiled.clients_eq]
        simp only [List.length_map]
        omega
      have mem := List.getElem_mem clients
      have own : plan.clients[0].IsLongestEmptyRun _ := isLongest_walk plan.clients[0].frames
      have none := bounds (.inr ⟨_, mem, own⟩)
      rw [zero, Nat.le_zero] at none
      rw [none] at own
      exact ⟨_, mem, by rwa [PingmeshPlan.longestEmptyRun, zero]⟩
    · exact found
  · intro k found
    exact bounds (.inr found)

/-- One more cycle than the longest run of empty frames shows a probed target. -/
theorem exists_probed (compiled : Compiled manifest peers plan) {client : ClientProbePlan}
    (mem : client ∈ plan.clients) (first : Nat) :
    ∃ cycle, first ≤ cycle ∧ cycle ≤ first + plan.longestEmptyRun ∧
      ∃ frame, plan.FrameAt client.name cycle client frame ∧ frame.targetIndices ≠ [] := by
  have own : client.IsLongestEmptyRun _ := isLongest_walk client.frames
  have le := compiled.longestEmptyRun_isGreatest.2 ⟨client, mem, own⟩
  obtain ⟨i, iLe, frame, atI, probed⟩ := own.exists_unmarked (compiled.exists_nonempty mem) first
  refine ⟨first + i, Nat.le_add_right first i, by omega, frame, ⟨mem, rfl, atI⟩, ?_⟩
  rwa [ProbeFrame.isEmpty, List.isEmpty_eq_false_iff] at probed

theorem cycleInterval_pos (compiled : Compiled manifest peers plan) :
    0 < plan.settings.cycleIntervalSeconds := by
  rw [compiled.settings_eq]
  exact manifest.pingmesh.cycleIntervalSeconds_pos

theorem boundaryPadding_cycles (compiled : Compiled manifest peers plan) :
    plan.boundaryPaddingSeconds / plan.settings.cycleIntervalSeconds - 1 =
      plan.longestEmptyRun + 1 := by
  rw [PingmeshPlan.boundaryPaddingSeconds, Nat.mul_div_cancel _ compiled.cycleInterval_pos]
  omega

end Compiled

/-- The padding of a compiled plan is sufficient and no longer than the clients need: the run
it counts is the greatest of the clients' longest runs of empty frames around the epoch, and
every client, which all have a frame with targets, probes some target within any cycles in a
row that are one fewer than the padding. -/
theorem boundaryPadding_sufficient (manifest : TopologyManifest) (plan : PingmeshPlan)
    (done : compilePingmeshPlan manifest = .ok plan) :
    (∀ client ∈ plan.clients, ∃ k, client.IsLongestEmptyRun k ∧ k ≤ plan.longestEmptyRun) ∧
    IsGreatest {k | ∃ client ∈ plan.clients, client.IsLongestEmptyRun k} plan.longestEmptyRun ∧
    ∀ client ∈ plan.clients, (∃ frame ∈ client.frames, frame.targetIndices ≠ []) ∧
      ∀ first, ∃ cycle, first ≤ cycle ∧
        cycle < first +
          (plan.boundaryPaddingSeconds / plan.settings.cycleIntervalSeconds - 1) ∧
        ∃ frame, plan.FrameAt client.name cycle client frame ∧ frame.targetIndices ≠ [] := by
  obtain ⟨peers, compiled⟩ := compiled_of_ok done
  have greatest := compiled.longestEmptyRun_isGreatest
  refine ⟨?_, greatest, ?_⟩
  · intro client mem
    have own : client.IsLongestEmptyRun _ := isLongest_walk client.frames
    exact ⟨_, own, greatest.2 ⟨client, mem, own⟩⟩
  · intro client mem
    constructor
    · obtain ⟨frame, memFrame, probed⟩ := compiled.exists_nonempty mem
      rw [ProbeFrame.isEmpty, List.isEmpty_eq_false_iff] at probed
      exact ⟨frame, memFrame, probed⟩
    · intro first
      obtain ⟨cycle, after, before, shown⟩ := compiled.exists_probed mem first
      rw [compiled.boundaryPadding_cycles]
      exact ⟨cycle, after, by omega, shown⟩

theorem smallClos_boundaryPadding :
    ∃ plan, compilePingmeshPlan smallClos = .ok plan ∧
      IsGreatest {k | ∃ client ∈ plan.clients, client.IsLongestEmptyRun k}
        plan.longestEmptyRun := by
  obtain ⟨plan, done⟩ := smallClos_compiles
  exact ⟨plan, done, (boundaryPadding_sufficient smallClos plan done).2.1⟩

end NetOpsBench
