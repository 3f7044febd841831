import NetOpsBench.Observability.BgpSpool
import NetOpsBench.Observability.TransitionChain

/-!
# The log between two heartbeats

When no poll that carries a session event is lost on its way into the spool, the session events
between two heartbeats of a device lead from the states at the first to those at the second.
`LogSound` relates what the tracker remembers to the log and to the results that are pending.
-/

namespace NetOpsBench

open Program

/-! ## The property -/

/-- The state of a neighbor at a successful poll. -/
def BgpPoll.observed (poll : BgpPoll) (neighbor : String) : String :=
  (poll.stateIn neighbor).getD "MISSING"

/-- The heartbeat of a successful poll of the device has come into the spool. -/
structure LoggedPoll.Heartbeat (logged : LoggedPoll) (device : String) : Prop where
  own : logged.poll.device = device
  success : logged.poll.collectionOk = true
  written : .index { source := device, collectionOk := true, timestamp := logged.poll.timestamp } ∈
    logged.points

/-- The session events of the polls, in the order of the log. -/
def loggedEvents (device neighbor : String) (log : List LoggedPoll) : List SessionEvent :=
  log.flatMap fun logged => sessionEventsOf device neighbor logged.points

/-- From the poll of one heartbeat to that of a later one, the events lead from state to state. -/
def LogComplete (log : List LoggedPoll) : Prop :=
  ∀ earlier first between second later,
    log = earlier ++ first :: (between ++ second :: later) →
    ∀ device, first.Heartbeat device → second.Heartbeat device →
    ∀ neighbor state, first.poll.stateIn neighbor = some state →
      EventChain state (loggedEvents device neighbor (between ++ [second]))
        (second.poll.observed neighbor)

/-! ## The condition -/

/-- No session event is among the points. -/
def Eventless (points : List BgpPoint) : Prop := ∀ event, .session event ∉ points

/-- The write of a result raises. -/
def CollectorWorld.Fails (config : SpoolConfig) (world : CollectorWorld) (item : PendingPoll)
    (faults : SpoolFaults) : Prop :=
  ∀ points, item.answer = .ok points →
    ∃ error, (world.spool.writeSegmentedLines config (points.map (·.line config.topologyId))
      faults).1 = .error error

/-- The step loses no session event: a poll that reaches the tracker has events that fit into lines,
and a write that raises does so while no pending result has an event. -/
def CollectorWorld.Lossless (config : SpoolConfig) (world : CollectorWorld) : CollectorStep → Prop
  | .launch poll =>
      ∀ points, buildBgpLines poll.device poll.timestamp poll.snapshotRows = .ok points →
        poll.Renders world.tracker
  | .deliver device faults =>
      ∀ item ∈ world.pending, item.poll.device = device → world.Fails config item faults →
        ∀ other ∈ world.pending, ∀ points, other.answer = .ok points → Eventless points
  | .finish _ => True

/-- Every step of the run loses no session event. -/
def CollectorWorld.LosslessRun (config : SpoolConfig) (world : CollectorWorld)
    (steps : List CollectorStep) : Prop :=
  History.Audited (fun earlier step => (world.run config earlier).Lossless config step) steps

/-! ## One poll -/

section Poll

variable {poll : BgpPoll} {tracker after : BgpTransitionTracker} {points : List BgpPoint}

theorem sessionEventsOf_buildBgpLines {device : String} {timestamp : Nat} {rows : List BgpRow}
    (built : buildBgpLines device timestamp rows = .ok points) (d n : String) :
    sessionEventsOf d n points = [] := by
  induction rows generalizing points with
  | nil =>
      cases built
      rfl
  | cons row rest ih =>
      unfold buildBgpLines at built
      split at built
      · exact ih built
      · rcases asn : asnField row.asn with error | value
        · rw [asn] at built
          cases built
        · rcases later : buildBgpLines device timestamp rest with error | others
          · rw [asn, later] at built
            cases built
          · rw [asn, later] at built
            cases built
            have none := ih later
            exact none

/-- A poll whose lines cannot be built has not reached the tracker. -/
theorem collectDeviceBgp_error
    (renders : ∀ points, buildBgpLines poll.device poll.timestamp poll.snapshotRows = .ok points →
      poll.Renders tracker) {error : BgpError}
    (ended : outcome (collectDeviceBgp poll) tracker = (.error error, after)) : after = tracker := by
  unfold collectDeviceBgp at ended
  rw [outcome_bind, outcome_ofExcept] at ended
  rcases built : buildBgpLines poll.device poll.timestamp poll.snapshotRows with failed | snapshot
  · rw [built] at ended
    cases ended
    rfl
  · rw [built] at ended
    dsimp only at ended
    rw [outcome_bind_pure] at ended
    have returns : ∃ tracked last,
        outcome (process poll.device poll.rows poll.timestamp poll.collectionOk) tracker =
          (.ok tracked, last) := by
      cases answered : poll.collectionOk with
      | true => exact exists_process poll.timestamp (renders snapshot built answered)
      | false =>
          have failed := process_failed answered tracker
          rw [answered] at failed
          exact ⟨_, _, failed⟩
    rcases returns with ⟨tracked, last, processed⟩
    rw [processed] at ended
    cases ended

/-- What a poll that returns does to the tracker, and its events. -/
theorem collectDeviceBgp_ok
    (renders : ∀ points, buildBgpLines poll.device poll.timestamp poll.snapshotRows = .ok points →
      poll.Renders tracker)
    (ended : outcome (collectDeviceBgp poll) tracker = (.ok points, after)) (d n : String) :
    (after.get (d, n) =
      if d = poll.device ∧ poll.collectionOk = true then
        nextRow (tracker.get (d, n)) ((currentRows poll.rows).get n)
      else tracker.get (d, n)) ∧
    sessionEventsOf d n points =
      if d = poll.device ∧ poll.collectionOk = true then
        stepEvents d n poll.timestamp (tracker.get (d, n)) ((currentRows poll.rows).get n)
      else [] := by
  unfold collectDeviceBgp at ended
  rw [outcome_bind, outcome_ofExcept] at ended
  rcases built : buildBgpLines poll.device poll.timestamp poll.snapshotRows with failed | snapshot
  · rw [built] at ended
    cases ended
  · have started : poll.Renders ({ tracker } : TrackerRun).tracker := renders snapshot built
    have spec := feed_spec started d n
    rw [built] at ended
    dsimp only at ended
    rw [outcome_bind_pure] at ended
    unfold TrackerRun.feed at spec
    rcases processed : outcome (process poll.device poll.rows poll.timestamp poll.collectionOk)
      tracker with ⟨answer, last⟩
    rw [processed] at ended
    rcases answer with error | tracked
    · cases ended
    · cases ended
      simp only [processed, List.nil_append, sessionEventsOf_nil] at spec
      refine ⟨spec.1, ?_⟩
      have collection : ∀ sample, sessionEventsOf d n [.collection sample] = [] := fun _ => rfl
      rw [sessionEventsOf_append, sessionEventsOf_append, sessionEventsOf_buildBgpLines built,
        collection, List.nil_append, List.append_nil]
      exact spec.2

theorem sessionEventsOf_eventless (eventless : Eventless points) (d n : String) :
    sessionEventsOf d n points = [] := by
  unfold sessionEventsOf
  rw [List.filterMap_eq_nil_iff]
  intro point mem
  cases point with
  | session event => exact absurd mem (eventless event)
  | neighbor sample => rfl
  | prefixCount event => rfl
  | index heartbeat => rfl
  | collection sample => rfl

end Poll

/-! ## The invariant -/

/-- The session events of the results that are pending. -/
def pendingEvents (device neighbor : String) (pending : List PendingPoll) : List SessionEvent :=
  (pending.filter fun item => item.poll.device = device).flatMap fun item =>
    sessionEventsOf device neighbor (item.answer.toOption.getD [])

/-- The tracker remembers the states of the poll. -/
structure BgpPoll.Current (poll : BgpPoll) (tracker : BgpTransitionTracker) : Prop where
  known : ∀ n state, poll.stateIn n = some state → ∃ row, tracker.get (poll.device, n) = some row
  observed : ∀ n row, tracker.get (poll.device, n) = some row →
    row.sessionState = poll.observed n

structure LogSound (world : CollectorWorld) : Prop where
  distinct : (world.pending.map (·.poll.device)).Nodup
  own : ∀ item ∈ world.pending, ∀ points, item.answer = .ok points → ∀ d n,
    d ≠ item.poll.device → sessionEventsOf d n points = []
  current : ∀ item ∈ world.pending, ∀ points, item.answer = .ok points →
    item.poll.collectionOk = true → item.poll.Current world.tracker
  chains : ∀ earlier first later, world.log = earlier ++ first :: later →
    ∀ device, first.Heartbeat device → ∀ n state, first.poll.stateIn n = some state →
      ∃ row, world.tracker.get (device, n) = some row ∧
        EventChain state (loggedEvents device n later ++ pendingEvents device n world.pending)
          row.sessionState
  complete : LogComplete world.log

section Invariant

variable {config : SpoolConfig} {world : CollectorWorld} {item : PendingPoll}

theorem loggedEvents_append (device neighbor : String) (first second : List LoggedPoll) :
    loggedEvents device neighbor (first ++ second) =
      loggedEvents device neighbor first ++ loggedEvents device neighbor second :=
  List.flatMap_append

theorem pendingEvents_append (device neighbor : String) (first second : List PendingPoll) :
    pendingEvents device neighbor (first ++ second) =
      pendingEvents device neighbor first ++ pendingEvents device neighbor second := by
  unfold pendingEvents
  rw [List.filter_append, List.flatMap_append]

theorem pendingEvents_absent {device : String} {pending : List PendingPoll}
    (absent : ∀ item ∈ pending, item.poll.device ≠ device) (n : String) :
    pendingEvents device n pending = [] := by
  unfold pendingEvents
  rw [List.filter_eq_nil_iff.mpr]
  · rfl
  · intro item mem
    simpa using absent item mem

/-- The one pending result of a device has its pending events. -/
theorem pendingEvents_of_mem (distinct : (world.pending.map (·.poll.device)).Nodup)
    (mem : item ∈ world.pending) (n : String) :
    pendingEvents item.poll.device n world.pending =
      sessionEventsOf item.poll.device n (item.answer.toOption.getD []) := by
  rcases List.append_of_mem mem with ⟨before, after, split⟩
  have apart : ∀ other ∈ before ++ after, other.poll.device ≠ item.poll.device := by
    intro other inside same
    rw [split, List.map_append, List.map_cons, List.nodup_middle, List.nodup_cons,
      ← List.map_append] at distinct
    exact distinct.1 (same ▸ List.mem_map_of_mem inside)
  rw [split, pendingEvents_append, ← List.singleton_append, pendingEvents_append,
    pendingEvents_absent fun other inside => apart other (List.mem_append_left _ inside),
    pendingEvents_absent fun other inside => apart other (List.mem_append_right _ inside)]
  simp [pendingEvents]

theorem pendingEvents_others_self (device n : String) (world : CollectorWorld) :
    pendingEvents device n (world.others device) = [] := by
  refine pendingEvents_absent ?_ n
  intro item mem
  simpa using (List.mem_filter.mp mem).2

theorem pendingEvents_others {device other : String} (apart : device ≠ other) (n : String)
    (world : CollectorWorld) :
    pendingEvents device n (world.others other) = pendingEvents device n world.pending := by
  unfold pendingEvents CollectorWorld.others
  rw [List.filter_filter]
  congr 1
  refine List.filter_congr fun item _ => ?_
  by_cases own : item.poll.device = device
  · simp [own, apart]
  · simp [own]

/-- A session of another device is not changed by a poll. -/
theorem get_of_other {poll : BgpPoll} {tracker after : BgpTransitionTracker}
    {answer : Except BgpError (List BgpPoint)}
    (renders : ∀ points, buildBgpLines poll.device poll.timestamp poll.snapshotRows = .ok points →
      poll.Renders tracker)
    (ended : outcome (collectDeviceBgp poll) tracker = (answer, after)) {d : String}
    (other : d ≠ poll.device) (n : String) : after.get (d, n) = tracker.get (d, n) := by
  rcases answer with error | points
  · rw [collectDeviceBgp_error renders ended]
  · rw [(collectDeviceBgp_ok renders ended d n).1, if_neg fun same => other same.1]

/-- After a successful poll the tracker remembers its states. -/
theorem current_of_collected {poll : BgpPoll} {tracker after : BgpTransitionTracker}
    {points : List BgpPoint}
    (renders : ∀ points, buildBgpLines poll.device poll.timestamp poll.snapshotRows = .ok points →
      poll.Renders tracker)
    (ended : outcome (collectDeviceBgp poll) tracker = (.ok points, after))
    (success : poll.collectionOk = true) : poll.Current after := by
  have get : ∀ n, after.get (poll.device, n) =
      nextRow (tracker.get (poll.device, n)) ((currentRows poll.rows).get n) := by
    intro n
    rw [(collectDeviceBgp_ok renders ended poll.device n).1, if_pos ⟨rfl, success⟩]
  constructor
  · intro n state isState
    rw [get]
    rcases Option.map_eq_some_iff.mp isState with ⟨row, isRow, -⟩
    rw [isRow]
    rcases tracker.get (poll.device, n) with _ | previous
    · exact ⟨row, rfl⟩
    · exact ⟨row, rfl⟩
  · intro n row isRow
    rw [get] at isRow
    unfold BgpPoll.observed BgpPoll.stateIn
    rcases before : tracker.get (poll.device, n) with _ | previous
    · rw [before] at isRow
      change (currentRows poll.rows).get n = some row at isRow
      rw [isRow]
      rfl
    · have next := nextRow_sessionState previous ((currentRows poll.rows).get n)
      rw [← before, isRow, Option.map_some, Option.some.injEq] at next
      rw [next]
      unfold BgpRow.target
      rcases (currentRows poll.rows).get n with _ | current
      · exact missing_sessionState previous
      · rfl

/-- The events of a poll extend the chain of a session. -/
theorem chain_of_collected {poll : BgpPoll} {tracker after : BgpTransitionTracker}
    {points : List BgpPoint}
    (renders : ∀ points, buildBgpLines poll.device poll.timestamp poll.snapshotRows = .ok points →
      poll.Renders tracker)
    (ended : outcome (collectDeviceBgp poll) tracker = (.ok points, after)) {n : String}
    {previous : BgpRow} (before : tracker.get (poll.device, n) = some previous) :
    ∃ row, after.get (poll.device, n) = some row ∧
      EventChain previous.sessionState (sessionEventsOf poll.device n points) row.sessionState := by
  rcases collectDeviceBgp_ok renders ended poll.device n with ⟨get, events⟩
  have reaches : ∃ snapshot,
      buildBgpLines poll.device poll.timestamp poll.snapshotRows = .ok snapshot := by
    rcases built : buildBgpLines poll.device poll.timestamp poll.snapshotRows with error | snapshot
    · unfold collectDeviceBgp at ended
      rw [outcome_bind, outcome_ofExcept, built] at ended
      cases ended
    · exact ⟨snapshot, rfl⟩
  rcases reaches with ⟨snapshot, built⟩
  rw [get, events, before]
  by_cases success : poll.collectionOk = true
  · rw [if_pos ⟨rfl, success⟩, if_pos ⟨rfl, success⟩]
    have next := nextRow_sessionState previous ((currentRows poll.rows).get n)
    rcases isNext : nextRow (some previous) ((currentRows poll.rows).get n) with _ | row
    · rw [isNext] at next
      cases next
    · rw [isNext, Option.map_some, Option.some.injEq] at next
      refine ⟨row, rfl, ?_⟩
      rw [next]
      exact chain_changeEvents _ n _ (renders snapshot built success n previous before)
  · rw [if_neg fun answered => success answered.2, if_neg fun answered => success answered.2]
    exact ⟨previous, rfl, rfl⟩

theorem BgpPoll.Current.congr {poll : BgpPoll} {tracker after : BgpTransitionTracker}
    (current : poll.Current tracker)
    (same : ∀ n, after.get (poll.device, n) = tracker.get (poll.device, n)) :
    poll.Current after where
  known n state isState := by
    rw [same]
    exact current.known n state isState
  observed n row isRow := current.observed n row (same n ▸ isRow)

/-- A poll is submitted. -/
theorem LogSound.launch (sound : LogSound world) {poll : BgpPoll}
    (renders : ∀ points, buildBgpLines poll.device poll.timestamp poll.snapshotRows = .ok points →
      poll.Renders world.tracker)
    (idle : ∀ item ∈ world.pending, item.poll.device ≠ poll.device) :
    LogSound (world.launch poll) := by
  unfold CollectorWorld.launch
  rcases ended : outcome (collectDeviceBgp poll) world.tracker with ⟨answer, after⟩
  refine ⟨?_, ?_, ?_, ?_, sound.complete⟩
  · rw [List.map_append]
    refine List.nodup_append'.mpr ⟨sound.distinct, List.nodup_singleton _, ?_⟩
    intro device before isNew
    rcases List.mem_map.mp before with ⟨item, mem, same⟩
    exact idle item mem (same.trans (List.mem_singleton.mp isNew))
  · intro item mem points isPoints d n other
    rcases List.mem_append.mp mem with before | isNew
    · exact sound.own item before points isPoints d n other
    · cases List.mem_singleton.mp isNew
      dsimp only at isPoints other
      rw [isPoints] at ended
      rw [(collectDeviceBgp_ok renders ended d n).2, if_neg fun same => other same.1]
  · intro item mem points isPoints success
    rcases List.mem_append.mp mem with before | isNew
    · refine (sound.current item before points isPoints success).congr fun n => ?_
      exact get_of_other renders ended (idle item before) n
    · cases List.mem_singleton.mp isNew
      dsimp only at isPoints
      rw [isPoints] at ended
      exact current_of_collected renders ended success
  · intro earlier first later split device heartbeat n state isState
    rcases sound.chains earlier first later split device heartbeat n state isState
      with ⟨previous, before, chain⟩
    dsimp only
    rw [pendingEvents_append]
    by_cases own : device = poll.device
    · subst own
      rw [pendingEvents_absent idle n, List.append_nil] at chain
      rw [pendingEvents_absent idle n, List.nil_append]
      have new : pendingEvents poll.device n [{ poll, answer }] =
          sessionEventsOf poll.device n (answer.toOption.getD []) := by
        simp [pendingEvents]
      rw [new]
      rcases answer with error | points
      · rw [collectDeviceBgp_error renders ended]
        refine ⟨previous, before, ?_⟩
        change EventChain state (loggedEvents poll.device n later ++ []) _
        rw [List.append_nil]
        exact chain
      · rcases chain_of_collected renders ended before with ⟨row, isRow, next⟩
        exact ⟨row, isRow, chain.append next⟩
    · have new : pendingEvents device n [{ poll, answer }] = [] := by
        refine pendingEvents_absent ?_ n
        intro item mem
        cases List.mem_singleton.mp mem
        exact fun same => own same.symm
      rw [new, List.append_nil, get_of_other renders ended own]
      exact ⟨previous, before, chain⟩

/-- What is known of a result that is about to be taken: its events and those that stay pending are
all the pending events of a session. -/
theorem LogSound.pending_split (sound : LogSound world) (mem : item ∈ world.pending)
    {points : List BgpPoint} (isPoints : item.answer = .ok points) (device n : String) :
    sessionEventsOf device n points ++ pendingEvents device n (world.others item.poll.device) =
      pendingEvents device n world.pending := by
  by_cases own : device = item.poll.device
  · subst own
    rw [pendingEvents_others_self, pendingEvents_of_mem sound.distinct mem, isPoints,
      List.append_nil]
    rfl
  · rw [sound.own item mem points isPoints device n own, pendingEvents_others own,
      List.nil_append]

/-- The log goes on by a part of a result, with the events that it has. -/
theorem LogSound.extend (sound : LogSound world) (mem : item ∈ world.pending)
    {points kept : List BgpPoint} (isPoints : item.answer = .ok points)
    {rest : List PendingPoll} (sublist : rest.Sublist world.pending)
    (removed : ∀ other ∈ rest, other.poll.device ≠ item.poll.device)
    (events : ∀ device n, sessionEventsOf device n kept ++ pendingEvents device n rest =
      pendingEvents device n world.pending)
    {after : CollectorWorld} (tracker : after.tracker = world.tracker)
    (pending : after.pending = rest)
    (log : after.log = world.log ++ [{ poll := item.poll, points := kept }]) :
    LogSound after := by
  have current : ∀ device n row, LoggedPoll.Heartbeat { poll := item.poll, points := kept } device →
      world.tracker.get (device, n) = some row → row.sessionState = item.poll.observed n := by
    intro device n row heartbeat isRow
    have found := sound.current item mem points isPoints heartbeat.success
    exact found.observed n row (heartbeat.own ▸ isRow)
  refine ⟨?_, ?_, ?_, ?_, ?_⟩
  · rw [pending]
    exact sound.distinct.sublist (sublist.map _)
  · intro other inside
    exact sound.own other (sublist.subset (pending ▸ inside))
  · intro other inside
    rw [tracker]
    exact sound.current other (sublist.subset (pending ▸ inside))
  · intro earlier first later split device heartbeat n state isState
    rw [log] at split
    rw [tracker, pending]
    rcases History.split_concat split with ⟨-, rfl, rfl⟩ | ⟨between, within, rfl⟩
    · rcases (sound.current item mem points isPoints heartbeat.success).known n state isState
        with ⟨row, isRow⟩
      have isRow' : world.tracker.get (device, n) = some row := by
        rw [← heartbeat.own]
        exact isRow
      refine ⟨row, isRow', ?_⟩
      have gone : pendingEvents device n rest = [] :=
        pendingEvents_absent (fun other inside => heartbeat.own ▸ removed other inside) n
      have observed := current device n row heartbeat isRow'
      unfold BgpPoll.observed at observed
      rw [gone, observed, isState]
      rfl
    · rcases sound.chains earlier first between within device heartbeat n state isState
        with ⟨row, isRow, chain⟩
      refine ⟨row, isRow, ?_⟩
      rw [loggedEvents_append, List.append_assoc]
      have new : loggedEvents device n [{ poll := item.poll, points := kept }] =
          sessionEventsOf device n kept := by simp [loggedEvents]
      rw [new, events]
      exact chain
  · intro earlier first between second later split device firstBeat secondBeat n state isState
    have regrouped : world.log ++ [{ poll := item.poll, points := kept }] =
        (earlier ++ first :: between) ++ second :: later := by
      rw [← log, split]
      simp
    rcases History.split_concat regrouped with ⟨isLog, rfl, -⟩ | ⟨others, within, -⟩
    · rcases sound.chains earlier first between isLog.symm device firstBeat n state isState
        with ⟨row, isRow, chain⟩
      have gone : pendingEvents device n rest = [] :=
        pendingEvents_absent (fun other inside => secondBeat.own ▸ removed other inside) n
      have all := events device n
      rw [gone, List.append_nil] at all
      have new : loggedEvents device n [{ poll := item.poll, points := kept }] =
          sessionEventsOf device n kept := by simp [loggedEvents]
      rw [loggedEvents_append, new, all, ← current device n row secondBeat isRow]
      exact chain
    · refine sound.complete earlier first between second others ?_ device firstBeat secondBeat n
        state isState
      rw [within]
      simp

/-- The result of a poll is taken. -/
theorem LogSound.deliver (sound : LogSound world) {faults : SpoolFaults}
    (mem : item ∈ world.pending)
    (lossless : world.Fails config item faults →
      ∀ other ∈ world.pending, ∀ points, other.answer = .ok points → Eventless points) :
    LogSound (world.deliver config item faults) := by
  have silent : world.Fails config item faults → ∀ device n,
      pendingEvents device n world.pending = [] := by
    intro fails device n
    unfold pendingEvents
    rw [List.flatMap_eq_nil_iff]
    intro other inside
    rcases isAnswer : other.answer with error | points
    · rfl
    · exact sessionEventsOf_eventless
        (lossless fails other (List.mem_of_mem_filter inside) points isAnswer) device n
  unfold CollectorWorld.deliver
  rcases isPoints : item.answer with error | points
  · have fails : world.Fails config item faults := fun points same =>
      absurd (isPoints.symm.trans same) (by simp)
    refine ⟨List.nodup_nil, fun _ inside => absurd inside List.not_mem_nil,
      fun _ inside => absurd inside List.not_mem_nil, ?_, sound.complete⟩
    intro earlier first later split device heartbeat n state isState
    have chain := sound.chains earlier first later split device heartbeat n state isState
    rw [silent fails device n] at chain
    exact chain
  · dsimp only
    unfold CollectorWorld.write
    rcases written : world.spool.writeSegmentedLines config
      (points.map (·.line config.topologyId)) faults with ⟨answer, spool⟩
    rw [written]
    rcases answer with error | _
    · have fails : world.Fails config item faults := by
        intro other same
        rw [isPoints, Except.ok.injEq] at same
        exact ⟨error, by rw [← same, written]⟩
      have eventless : ∀ device n, sessionEventsOf device n (points.take error.kept) = [] := by
        intro device n
        refine sessionEventsOf_eventless (fun event inside => ?_) device n
        exact lossless fails item mem points isPoints event (List.mem_of_mem_take inside)
      refine sound.extend mem isPoints (List.nil_sublist _)
        (fun _ inside => absurd inside List.not_mem_nil) ?_ rfl rfl rfl
      intro device n
      rw [eventless, silent fails]
      rfl
    · refine sound.extend mem isPoints List.filter_sublist ?_ (sound.pending_split mem isPoints)
        rfl rfl rfl
      intro other inside
      simpa using (List.mem_filter.mp inside).2

/-- A step that loses no session event. -/
theorem LogSound.step (sound : LogSound world) {step : CollectorStep}
    (lossless : world.Lossless config step) : LogSound (world.step config step) := by
  cases step with
  | launch poll =>
      unfold CollectorWorld.step
      dsimp only
      split
      · exact sound
      · rename_i idle
        rw [Bool.or_eq_true, not_or, List.any_eq_true, not_exists] at idle
        refine sound.launch lossless fun item mem same => idle.2 item ⟨mem, ?_⟩
        exact decide_eq_true same
  | deliver device faults =>
      unfold CollectorWorld.step
      dsimp only
      split
      · exact sound
      · rename_i item found
        split
        · exact sound
        · have mem := List.mem_of_find?_eq_some found
          have own : item.poll.device = device := by
            have := List.find?_some found
            exact of_decide_eq_true this
          exact sound.deliver mem (lossless item mem own)
  | finish ingested =>
      unfold CollectorWorld.step
      dsimp only
      split
      · exact ⟨sound.distinct, sound.own, sound.current, sound.chains, sound.complete⟩
      · split
        · cases ingested with
          | none => exact sound
          | some ingested =>
              exact ⟨sound.distinct, sound.own, sound.current, sound.chains, sound.complete⟩
        · exact sound

end Invariant

/-! ## Runs -/

theorem run_concat (config : SpoolConfig) (world : CollectorWorld) (steps : List CollectorStep)
    (step : CollectorStep) :
    world.run config (steps ++ [step]) = (world.run config steps).step config step := by
  unfold CollectorWorld.run
  rw [List.foldl_append]
  rfl

theorem logSound_new (spool : BgpSpool) : LogSound { spool } where
  distinct := List.nodup_nil
  own _ mem := absurd mem List.not_mem_nil
  current _ mem := absurd mem List.not_mem_nil
  chains _ _ _ split := by simp at split
  complete _ _ _ _ _ split := by simp at split

theorem logSound_run {config : SpoolConfig} {spool : BgpSpool} {steps : List CollectorStep}
    (lossless : CollectorWorld.LosslessRun config { spool } steps) :
    LogSound (CollectorWorld.run config { spool } steps) := by
  induction steps using List.reverseRecOn with
  | nil => exact logSound_new spool
  | append_singleton steps step ih =>
      rw [run_concat]
      exact (ih (History.Audited.init lossless)).step (History.Audited.last lossless)

/-- The log of a collector that loses no session event on its way into the spool. -/
theorem spool_log_complete {config : SpoolConfig} {spool : BgpSpool} {steps : List CollectorStep}
    (lossless : CollectorWorld.LosslessRun config { spool } steps) :
    LogComplete (CollectorWorld.run config { spool } steps).log :=
  (logSound_run lossless).complete

/-! ### A write that fails -/

def unlimitedSpool : SpoolConfig where
  maxBytes := 0
  segmentBytes := 0
  topologyId := "t"

/-- A poll of `leaf1` with one neighbor. -/
def leafPoll (timestamp : Nat) (state : String) : BgpPoll where
  device := "leaf1"
  timestamp := timestamp
  answer := .ok [{ neighbor := "10.0.0.1", state := some state }]

/-- Three rounds, the write of the second of which fails. -/
def failedWriteSteps : List CollectorStep :=
  [.launch (leafPoll 1 "Established"), .deliver "leaf1" {}, .finish none,
    .launch (leafPoll 2 "Idle"), .deliver "leaf1" { before := true }, .finish none,
    .launch (leafPoll 3 "Idle"), .deliver "leaf1" {}, .finish none]

theorem spool_log_gap : ¬ LogComplete (CollectorWorld.run unlimitedSpool {} failedWriteSteps).log := by
  have beat : ∀ timestamp state, LoggedPoll.Heartbeat
      { poll := leafPoll timestamp state,
        points := [.neighbor ⟨"leaf1", "10.0.0.1", normalizeBgpState (some state), none, none,
            timestamp⟩, .index ⟨"leaf1", true, timestamp⟩,
          .collection ⟨"leaf1", true, "", timestamp⟩] } "leaf1" :=
    fun timestamp state => ⟨rfl, rfl, by simp [leafPoll]⟩
  have split : (CollectorWorld.run unlimitedSpool {} failedWriteSteps).log =
      [] ++ { poll := leafPoll 1 "Established",
              points := [.neighbor ⟨"leaf1", "10.0.0.1", normalizeBgpState (some "Established"),
                  none, none, 1⟩, .index ⟨"leaf1", true, 1⟩,
                .collection ⟨"leaf1", true, "", 1⟩] } ::
        ([{ poll := leafPoll 2 "Idle", points := [] }] ++
          { poll := leafPoll 3 "Idle",
            points := [.neighbor ⟨"leaf1", "10.0.0.1", normalizeBgpState (some "Idle"), none, none,
                3⟩, .index ⟨"leaf1", true, 3⟩, .collection ⟨"leaf1", true, "", 3⟩] } :: []) := by
    decide +kernel
  intro complete
  have chain := complete _ _ _ _ _ split "leaf1" (beat 1 "Established") (beat 3 "Idle") "10.0.0.1"
    "ESTABLISHED" (by decide +kernel)
  have same : "ESTABLISHED" = (leafPoll 3 "Idle").observed "10.0.0.1" := chain
  have differ : "ESTABLISHED" ≠ (leafPoll 3 "Idle").observed "10.0.0.1" := by decide +kernel
  exact differ same

/-! ### A run without losses -/

theorem renders_of_asn_none {poll : BgpPoll} {tracker : BgpTransitionTracker}
    (kept : tracker.entries.all (fun entry => entry.2.asn.isNone) = true)
    (rows : poll.rows.all (fun row => row.asn.isNone) = true) : poll.Renders tracker := by
  intro _ n previous isPrevious
  refine .inr fun asn isAsn => ?_
  have before : previous.asn = none :=
    Option.isNone_iff_eq_none.mp (List.all_eq_true.mp kept _ (Dict.mem_entries.mpr isPrevious))
  unfold transitionAsn BgpRow.target at isAsn
  rcases found : (currentRows poll.rows).get n with _ | current
  · rw [found] at isAsn
    change previous.asn.or previous.asn = some asn at isAsn
    rw [Option.or_self, before] at isAsn
    cases isAsn
  · rw [found] at isAsn
    rcases List.mem_map.mp (Dict.mem_of_get_ofEntries found) with ⟨row, inside, isEntry⟩
    cases isEntry
    have own : current.asn = none := Option.isNone_iff_eq_none.mp
      (List.all_eq_true.mp rows _ (List.mem_of_mem_filter inside))
    change current.asn.or previous.asn = some asn at isAsn
    rw [own, before] at isAsn
    cases isAsn

/-- A write into a spool without limits succeeds. -/
theorem lossless_unlimited {world : CollectorWorld} (device : String)
    (answered : world.pending.all (fun item => item.answer.toOption.isSome) = true) :
    world.Lossless unlimitedSpool (.deliver device {}) := by
  intro item mem _ fails
  have isOk := List.all_eq_true.mp answered item mem
  rcases isPoints : item.answer with error | points
  · simp [isPoints, Except.toOption] at isOk
  · rcases fails points isPoints with ⟨error, failed⟩
    simp [BgpSpool.writeSegmentedLines, BgpSpool.append, overLimit, unlimitedSpool] at failed

theorem spool_log_complete_flap :
    LogComplete (CollectorWorld.run unlimitedSpool {}
      [.launch (leafPoll 1 "Established"), .deliver "leaf1" {}, .launch (leafPoll 2 "Idle"),
        .deliver "leaf1" {}]).log := by
  refine spool_log_complete ?_
  have first : History.Audited (fun earlier step =>
      (CollectorWorld.run unlimitedSpool {} earlier).Lossless unlimitedSpool step)
      ([] ++ [.launch (leafPoll 1 "Established")]) :=
    History.audited_nil.concat fun _ _ => renders_of_asn_none rfl rfl
  have second := first.concat (lossless_unlimited "leaf1" (by decide +kernel))
  have renders : (leafPoll 2 "Idle").Renders (CollectorWorld.run unlimitedSpool {}
      ([] ++ [.launch (leafPoll 1 "Established")] ++ [.deliver "leaf1" {}])).tracker :=
    renders_of_asn_none (by decide +kernel) rfl
  have launched : (CollectorWorld.run unlimitedSpool {}
      ([] ++ [.launch (leafPoll 1 "Established")] ++ [.deliver "leaf1" {}])).Lossless
        unlimitedSpool (.launch (leafPoll 2 "Idle")) := fun _ _ => renders
  have third := second.concat launched
  exact third.concat (lossless_unlimited "leaf1" (by decide +kernel))

end NetOpsBench
