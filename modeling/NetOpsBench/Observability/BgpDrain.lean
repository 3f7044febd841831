import NetOpsBench.Observability.BgpLog

/-!
# Draining a full spool

The cleanup of an iteration stands behind its writes: an iteration removes the segments that the
query reports exactly when every result of its round could be written, or none of them is there. A
spool that has reached its limit takes no result, so that it keeps its segments for ever.
-/

namespace NetOpsBench

open Program

/-! ## One iteration -/

/-- No segment on disk is one that the query reports. -/
def BgpSpool.Drained (spool : BgpSpool) (ingested : List String) : Prop :=
  ∀ segment ∈ spool.sealedSegments, segment.id ∉ ingested

def CollectorStep.inRound : CollectorStep → Bool
  | launch _ => true
  | deliver _ _ => true
  | finish _ => false

/-- The result that the step takes can be written. -/
def CollectorWorld.Delivers (config : SpoolConfig) (world : CollectorWorld) :
    CollectorStep → Prop
  | .launch _ => True
  | .deliver device faults =>
      ∀ item, world.pending.find? (fun item => item.poll.device = device) = some item →
        ¬ world.Fails config item faults
  | .finish _ => True

/-- Every result that the round takes can be written. -/
def CollectorWorld.DeliversAll (config : SpoolConfig) (world : CollectorWorld)
    (round : List CollectorStep) : Prop :=
  History.Audited (fun earlier step => (world.run config earlier).Delivers config step) round

section Iteration

variable {config : SpoolConfig} {world : CollectorWorld} {round : List CollectorStep}

theorem drained_deleteIngested (spool : BgpSpool) (ingested : List String) :
    (spool.deleteIngested ingested).Drained ingested := by
  intro segment mem reported
  have kept := (List.mem_filter.mp mem).2
  rw [List.contains_iff_mem.mpr reported] at kept
  cases kept

theorem deliver_raised (config : SpoolConfig) (item : PendingPoll) (faults : SpoolFaults)
    (start : world.raised = false) :
    (world.deliver config item faults).raised = true ↔ world.Fails config item faults := by
  unfold CollectorWorld.deliver CollectorWorld.Fails
  rcases isPoints : item.answer with error | points
  · exact ⟨fun _ points same => (nomatch same), fun _ => rfl⟩
  · dsimp only
    unfold CollectorWorld.write
    rcases written : world.spool.writeSegmentedLines config
      (points.map (·.line config.topologyId)) faults with ⟨answer, spool⟩
    rw [written]
    rcases answer with error | _
    · refine ⟨fun _ other same => ⟨error, ?_⟩, fun _ => rfl⟩
      cases same
      rw [written]
    · refine ⟨fun raised => absurd (start.symm.trans raised) (by decide), fun fails => ?_⟩
      rcases fails points rfl with ⟨error, failed⟩
      rw [written] at failed
      cases failed

/-- A step of a round raises when it takes a result that cannot be written. -/
theorem step_raised {step : CollectorStep} (start : world.raised = false)
    (inRound : step.inRound = true) :
    (world.step config step).raised = false ↔ world.Delivers config step := by
  cases step with
  | launch poll =>
      refine ⟨fun _ => trivial, fun _ => ?_⟩
      unfold CollectorWorld.step
      dsimp only
      split
      · exact start
      · exact start
  | deliver device faults =>
      unfold CollectorWorld.step CollectorWorld.Delivers
      dsimp only
      rcases found : world.pending.find? (fun item => item.poll.device = device) with _ | item
      · simp only [found]
        exact ⟨fun _ item same => (nomatch same), fun _ => start⟩
      · simp only [found]
        rw [if_neg (by simp [start])]
        have raised := deliver_raised config item faults start
        constructor
        · intro calm other same fails
          cases same
          rw [raised.mpr fails] at calm
          cases calm
        · intro delivers
          rw [← Bool.not_eq_true]
          exact fun isRaised => delivers item rfl (raised.mp isRaised)
  | finish ingested => cases inRound

theorem step_of_raised {step : CollectorStep} (raised : world.raised = true)
    (inRound : step.inRound = true) : (world.step config step).raised = true := by
  cases step with
  | launch poll =>
      unfold CollectorWorld.step
      simp [raised]
  | deliver device faults =>
      unfold CollectorWorld.step
      dsimp only
      split
      · exact raised
      · rw [if_pos raised]
        exact raised
  | finish ingested => cases inRound

/-- A round raises unless every result that it takes can be written. -/
theorem run_raised (start : world.raised = false) (inRound : ∀ step ∈ round, step.inRound = true) :
    (world.run config round).raised = false ↔ world.DeliversAll config round := by
  induction round using List.reverseRecOn with
  | nil => exact ⟨fun _ => History.audited_nil, fun _ => start⟩
  | append_singleton round step ih =>
      have before := ih fun place mem => inRound place (List.mem_append_left _ mem)
      have last : step.inRound = true := inRound step (by simp)
      rw [run_concat]
      constructor
      · intro calm
        have earlier : (world.run config round).raised = false := by
          rw [← Bool.not_eq_true]
          intro raised
          rw [step_of_raised raised last] at calm
          cases calm
        exact (before.mp earlier).concat ((step_raised earlier last).mp calm)
      · intro delivers
        exact (step_raised (before.mpr (History.Audited.init delivers)) last).mpr
          (History.Audited.last delivers)

/-- An iteration leaves no reported segment exactly when every result of its round could be written,
or no reported segment was there. -/
theorem iteration_drains_iff (start : world.raised = false)
    (inRound : ∀ step ∈ round, step.inRound = true)
    (complete : (world.run config round).raised = true ∨ (world.run config round).pending = [])
    (ingested : List String) :
    (world.run config (round ++ [.finish (some ingested)])).spool.Drained ingested ↔
      world.DeliversAll config round ∨ (world.run config round).spool.Drained ingested := by
  rw [run_concat, ← run_raised start inRound]
  unfold CollectorWorld.step
  dsimp only
  cases raised : (world.run config round).raised with
  | true => simp
  | false =>
      have none := complete.resolve_left (by simp [raised])
      rw [if_neg (by simp), if_pos (by simp [none])]
      simp [CollectorWorld.cleanup, drained_deleteIngested]

end Iteration

/-! ## A full spool -/

/-- The spool has reached its limit. -/
structure BgpSpool.Full (spool : BgpSpool) (config : SpoolConfig) : Prop where
  limited : 0 < config.maxBytes
  reached : config.maxBytes ≤ spool.size

theorem lineText_ne_empty (measurement : String) (tags : List (String × String))
    (fields : List String) (timestamp : Nat) : lineText measurement tags fields timestamp ≠ "" := by
  intro empty
  have length := congrArg String.length empty
  simp [lineText, String.length_append] at length

theorem line_ne_empty (topologyId : String) (point : BgpPoint) : point.line topologyId ≠ "" := by
  cases point <;> exact lineText_ne_empty _ _ _ _

theorem fileBytes_rendered_pos (topologyId : String) {points : List BgpPoint} (some : points ≠ []) :
    0 < fileBytes (BgpSpool.rendered (points.map (·.line topologyId))) := by
  rcases points with _ | ⟨point, points⟩
  · exact absurd rfl some
  · unfold BgpSpool.rendered
    rw [if_neg]
    · simp [fileBytes]
    · intro blank
      exact line_ne_empty topologyId point (List.cons.inj blank).1

/-- A full spool takes no result. -/
theorem write_full {config : SpoolConfig} {spool : BgpSpool} (full : spool.Full config)
    {points : List BgpPoint} (some : points ≠ []) (faults : SpoolFaults) :
    ∃ error, spool.writeSegmentedLines config (points.map (·.line config.topologyId)) faults =
      (.error error, spool) := by
  have exceeded : overLimit config.maxBytes
      (spool.size + fileBytes (BgpSpool.rendered (points.map (·.line config.topologyId)))) =
        true := by
    have limited := full.limited
    have reached := full.reached
    have more := fileBytes_rendered_pos config.topologyId some
    simp only [overLimit, Bool.and_eq_true, decide_eq_true_eq]
    omega
  unfold BgpSpool.writeSegmentedLines
  dsimp only
  split
  · exact ⟨_, rfl⟩
  · exact ⟨_, rfl⟩

/-- A poll that returns has a line. -/
theorem collectDeviceBgp_ne_nil {poll : BgpPoll} {tracker after : BgpTransitionTracker}
    {points : List BgpPoint}
    (ended : outcome (collectDeviceBgp poll) tracker = (.ok points, after)) : points ≠ [] := by
  unfold collectDeviceBgp at ended
  rw [outcome_bind, outcome_ofExcept] at ended
  rcases built : buildBgpLines poll.device poll.timestamp poll.snapshotRows with error | snapshot
  · rw [built] at ended
    cases ended
  · rw [built] at ended
    dsimp only at ended
    rw [outcome_bind_pure] at ended
    rcases processed : outcome (process poll.device poll.rows poll.timestamp poll.collectionOk)
      tracker with ⟨answer, last⟩
    rw [processed] at ended
    rcases answer with error | tracked
    · cases ended
    · cases ended
      simp

/-- An iteration that polls one device. -/
def pollIteration (poll : BgpPoll) (faults : SpoolFaults) (ingested : List String) :
    List CollectorStep :=
  [.launch poll, .deliver poll.device faults, .finish (some ingested)]

/-- The collector between two iterations. -/
structure CollectorWorld.Idle (world : CollectorWorld) : Prop where
  raised : world.raised = false
  pending : world.pending = []

theorem pollIteration_full {config : SpoolConfig} {world : CollectorWorld}
    (full : world.spool.Full config) (idle : world.Idle) (poll : BgpPoll) (faults : SpoolFaults)
    (ingested : List String) :
    (world.run config (pollIteration poll faults ingested)).spool = world.spool ∧
      (world.run config (pollIteration poll faults ingested)).Idle := by
  have launched : world.step config (.launch poll) = world.launch poll := by
    unfold CollectorWorld.step
    simp [idle.raised, idle.pending]
  rcases ended : outcome (collectDeviceBgp poll) world.tracker with ⟨answer, after⟩
  have isPending : (world.launch poll).pending = [{ poll, answer }] := by
    unfold CollectorWorld.launch
    rw [idle.pending, ended]
    rfl
  have delivered : (world.launch poll).step config (.deliver poll.device faults) =
      (world.launch poll).deliver config { poll, answer } faults := by
    unfold CollectorWorld.step
    dsimp only
    rw [isPending]
    have calm : (world.launch poll).raised = false := idle.raised
    simp [calm]
  have raised : ((world.launch poll).deliver config { poll, answer } faults).raised = true ∧
      ((world.launch poll).deliver config { poll, answer } faults).pending = [] ∧
      ((world.launch poll).deliver config { poll, answer } faults).spool = world.spool := by
    unfold CollectorWorld.deliver
    rcases answer with error | points
    · exact ⟨rfl, rfl, rfl⟩
    · rcases write_full full (collectDeviceBgp_ne_nil ended) faults with ⟨error, failed⟩
      have same : (world.launch poll).spool = world.spool := rfl
      dsimp only
      unfold CollectorWorld.write
      rw [same, failed]
      exact ⟨rfl, rfl, rfl⟩
  have run : world.run config (pollIteration poll faults ingested) =
      (((world.launch poll).deliver config { poll, answer } faults).step config
        (.finish (some ingested))) := by
    rw [← delivered, ← launched]
    rfl
  rw [run]
  unfold CollectorWorld.step
  dsimp only
  rw [if_pos raised.1]
  exact ⟨raised.2.2, rfl, raised.2.1⟩

/-- However often the query reports its segments, a full spool stays as it is. -/
theorem full_spool_stays {config : SpoolConfig} {world : CollectorWorld}
    (full : world.spool.Full config) (idle : world.Idle)
    (iterations : List (BgpPoll × SpoolFaults × List String)) :
    (world.run config (iterations.flatMap fun iteration =>
      pollIteration iteration.1 iteration.2.1 iteration.2.2)).spool = world.spool := by
  induction iterations generalizing world with
  | nil => rfl
  | cons iteration later ih =>
      rcases pollIteration_full full idle iteration.1 iteration.2.1 iteration.2.2
        with ⟨same, idle⟩
      rw [List.flatMap_cons]
      unfold CollectorWorld.run
      rw [List.foldl_append]
      have rest := ih (same ▸ full) idle
      exact rest.trans same

/-- A spool of 10 bytes with one segment. -/
def smallSpool : SpoolConfig where
  maxBytes := 10
  segmentBytes := 0
  topologyId := "t"

def fullSpool : BgpSpool where
  sealedSegments := [{ timestamp := 1, sequence := 0, lines := ["bgp_event_index x=1i 1"] }]

theorem full_spool_not_drained :
    ¬ (CollectorWorld.run smallSpool { spool := fullSpool }
      (pollIteration (leafPoll 2 "Established") {} ["1-0"])).spool.Drained ["1-0"] := by
  have full : fullSpool.Full smallSpool := ⟨by decide, by decide +kernel⟩
  have idle : CollectorWorld.Idle { spool := fullSpool } := ⟨rfl, rfl⟩
  rw [(pollIteration_full full idle _ _ _).1]
  intro drained
  refine drained { timestamp := 1, sequence := 0, lines := ["bgp_event_index x=1i 1"] }
    List.mem_cons_self ?_
  have isId : segmentId 1 0 = "1-0" := by decide +kernel
  exact List.mem_singleton.mpr isId

theorem iteration_drains_iff_full :
    (CollectorWorld.run smallSpool { spool := fullSpool }
      ([.launch (leafPoll 2 "Established"), .deliver "leaf1" {}] ++
        [.finish (some ["1-0"])])).spool.Drained ["1-0"] ↔
      CollectorWorld.DeliversAll smallSpool { spool := fullSpool }
          [.launch (leafPoll 2 "Established"), .deliver "leaf1" {}] ∨
        (CollectorWorld.run smallSpool { spool := fullSpool }
          [.launch (leafPoll 2 "Established"), .deliver "leaf1" {}]).spool.Drained ["1-0"] := by
  refine iteration_drains_iff rfl ?_ (.inl (by decide +kernel)) ["1-0"]
  intro step mem
  simp only [List.mem_cons, List.not_mem_nil, or_false] at mem
  rcases mem with rfl | rfl <;> rfl

end NetOpsBench
