import NetOpsBench.Lib.History
import NetOpsBench.Observability.BgpCollector

/-!
# The chain of session events

The events that one tracker emits for a session form a chain from the state in which the neighbor
first appears to its state in the last successful poll. `process` is described session by session:
`nextRow` is what the tracker remembers after a poll and `stepEvents` what the poll emits.
-/

namespace NetOpsBench

open Program

/-! ## One session in one poll -/

/-- An AS number that a line can hold. -/
def Asn.rendered : Asn → Bool
  | number _ => true
  | text value => value = ""

/-- The row that a poll finds for a neighbor that is remembered. -/
def BgpRow.target (previous : BgpRow) (row : Option BgpRow) : BgpRow := row.getD previous.missing

/-- What is remembered of a session after a successful poll. -/
def nextRow (before row : Option BgpRow) : Option BgpRow :=
  match before with
  | none => row
  | some previous =>
      match row with
      | some current => some current
      | none => if previous.sessionState = "MISSING" then some previous else some previous.missing

/-- The event of a change of state, if a line can hold it. -/
def changeEvents (device neighbor : String) (timestamp : Nat) (previous current : BgpRow) :
    List SessionEvent :=
  if previous.sessionState = current.sessionState then []
  else (buildBgpTransitionLine device neighbor previous current timestamp).toOption.toList

/-- The events of a session in a successful poll. -/
def stepEvents (device neighbor : String) (timestamp : Nat) (before row : Option BgpRow) :
    List SessionEvent :=
  match before with
  | none => []
  | some previous => changeEvents device neighbor timestamp previous (previous.target row)

/-- The event of a point, if it is one of the session. -/
def BgpPoint.sessionOf (device neighbor : String) : BgpPoint → Option SessionEvent
  | .session event =>
      if event.source = device ∧ event.neighborAddress = neighbor then some event else none
  | .neighbor _ => none
  | .prefixCount _ => none
  | .index _ => none
  | .collection _ => none

def sessionEventsOf (device neighbor : String) (points : List BgpPoint) : List SessionEvent :=
  points.filterMap (·.sessionOf device neighbor)

@[simp] theorem sessionEventsOf_nil (device neighbor : String) :
    sessionEventsOf device neighbor [] = [] := rfl

@[simp] theorem sessionEventsOf_append (device neighbor : String) (first second : List BgpPoint) :
    sessionEventsOf device neighbor (first ++ second) =
      sessionEventsOf device neighbor first ++ sessionEventsOf device neighbor second :=
  List.filterMap_append

theorem sessionEventsOf_cons (device neighbor : String) (point : BgpPoint)
    (points : List BgpPoint) :
    sessionEventsOf device neighbor (point :: points) =
      sessionEventsOf device neighbor [point] ++ sessionEventsOf device neighbor points :=
  sessionEventsOf_append device neighbor [point] points

theorem missing_sessionState (previous : BgpRow) : previous.missing.sessionState = "MISSING" := by
  change normalizeBgpState (some "MISSING") = "MISSING"
  decide +kernel

theorem nextRow_sessionState (previous : BgpRow) (row : Option BgpRow) :
    (nextRow (some previous) row).map (·.sessionState) =
      some (previous.target row).sessionState := by
  rcases row with _ | current
  · simp only [nextRow, BgpRow.target, Option.getD_none, missing_sessionState]
    split
    · rename_i missing
      simp [missing]
    · simp [missing_sessionState]
  · rfl

/-! ## One poll -/

section Poll

variable {device neighbor other : String} {timestamp : Nat} {previous current : BgpRow}
  {tracker after : BgpTransitionTracker} {points : List BgpPoint} {event : SessionEvent}

theorem buildBgpTransitionLine_eq_ok
    (built : buildBgpTransitionLine device neighbor previous current timestamp = .ok event) :
    event.source = device ∧ event.neighborAddress = neighbor ∧
      event.previousState = previous.sessionState ∧ event.latestState = current.sessionState ∧
      event.eventType = sessionEventType previous.sessionState current.sessionState ∧
      event.timestamp = timestamp := by
  unfold buildBgpTransitionLine at built
  rcases asn : asnField (transitionAsn previous current) with error | value
  · rw [asn] at built
    cases built
  · rw [asn] at built
    cases built
    exact ⟨rfl, rfl, rfl, rfl, rfl, rfl⟩

/-- A line can be built when its AS number is one that a line can hold. -/
theorem exists_buildBgpTransitionLine (device neighbor : String) (timestamp : Nat)
    (rendered : ∀ asn, transitionAsn previous current = some asn → asn.rendered = true) :
    ∃ event, buildBgpTransitionLine device neighbor previous current timestamp = .ok event := by
  unfold buildBgpTransitionLine
  rcases isAsn : transitionAsn previous current with _ | asn
  · exact ⟨_, rfl⟩
  · have fits := rendered asn isAsn
    cases asn with
    | number value => exact ⟨_, rfl⟩
    | text value =>
        have blank : value = "" := of_decide_eq_true fits
        subst blank
        exact ⟨_, rfl⟩

theorem sessionOf_built
    (built : buildBgpTransitionLine device neighbor previous current timestamp = .ok event)
    (d n : String) :
    sessionEventsOf d n [.session event] =
      if d = device ∧ n = neighbor then [event] else [] := by
  rcases buildBgpTransitionLine_eq_ok built with ⟨source, address, -⟩
  by_cases same : d = device ∧ n = neighbor
  · simp [sessionEventsOf, BgpPoint.sessionOf, source, address, same]
  · have apart : ¬ (device = d ∧ neighbor = n) := fun eq => same ⟨eq.1.symm, eq.2.symm⟩
    simp [sessionEventsOf, BgpPoint.sessionOf, source, address, same, apart]

theorem sessionEventsOf_prefixPoints (before : Option BgpRow) (d n : String) :
    sessionEventsOf d n (prefixPoints device neighbor before current timestamp) = [] := by
  unfold prefixPoints
  split
  · split <;> rfl
  · rfl
  · rfl
  · rfl

/-- The points of a row that is processed. -/
theorem sessionEventsOf_transitionPoints {before : Option BgpRow}
    (ended : transitionPoints device neighbor before current timestamp = .ok points)
    (d n : String) :
    sessionEventsOf d n points =
      if d = device ∧ n = neighbor then stepEvents device neighbor timestamp before (some current)
      else [] := by
  unfold transitionPoints at ended
  rcases before with _ | previous
  · cases ended
    split <;> rfl
  · dsimp only at ended
    split at ended
    · rename_i same
      cases ended
      simp [stepEvents, changeEvents, BgpRow.target, same]
    · rename_i differ
      rcases built : buildBgpTransitionLine device neighbor previous current timestamp
        with error | event
      · rw [built] at ended
        cases ended
      · rw [built] at ended
        cases ended
        rw [sessionOf_built built]
        simp [stepEvents, changeEvents, BgpRow.target, differ, built, Except.toOption]

theorem processRow_spec
    (ended : outcome (processRow device timestamp neighbor current) tracker = (.ok points, after)) :
    after = tracker.set (device, neighbor) current ∧
      ∀ d n, sessionEventsOf d n points =
        if d = device ∧ n = neighbor then
          stepEvents device neighbor timestamp (tracker.get (device, neighbor)) (some current)
        else [] := by
  unfold processRow at ended
  rw [outcome_bind_ok (outcome_get tracker), outcome_bind, outcome_ofExcept] at ended
  rcases transition : transitionPoints device neighbor (tracker.get (device, neighbor)) current
    timestamp with error | changed
  · rw [transition] at ended
    cases ended
  · rw [transition] at ended
    cases ended
    refine ⟨rfl, fun d n => ?_⟩
    rw [sessionEventsOf_append, sessionEventsOf_prefixPoints, List.append_nil]
    exact sessionEventsOf_transitionPoints transition d n

theorem get_set_session (tracker : BgpTransitionTracker) (row : BgpRow) (d n : String) :
    (tracker.set (device, neighbor) row).get (d, n) =
      if d = device ∧ n = neighbor then some row else tracker.get (d, n) := by
  rw [Dict.get_set]
  simp only [Prod.mk.injEq]

/-- The rows of a poll, each of which is remembered. -/
theorem processRows_spec {entries : List (String × BgpRow)}
    (nodup : (entries.map Prod.fst).Nodup)
    (ended : outcome (processRows device timestamp entries) tracker = (.ok points, after))
    (d n : String) :
    (after.get (d, n) =
      if d = device then (entries.lookup n).or (tracker.get (d, n)) else tracker.get (d, n)) ∧
    sessionEventsOf d n points =
      if d = device then
        (entries.lookup n).elim []
          fun current => stepEvents device n timestamp (tracker.get (device, n)) (some current)
      else [] := by
  induction entries generalizing tracker points with
  | nil =>
      cases ended
      constructor <;> split <;> rfl
  | cons entry rest ih =>
      rcases entry with ⟨neighbor, current⟩
      rw [List.map_cons, List.nodup_cons] at nodup
      unfold processRows at ended
      rw [outcome_bind] at ended
      rcases first : outcome (processRow device timestamp neighbor current) tracker
        with ⟨answer, between⟩
      rw [first] at ended
      rcases answer with error | changed
      · cases ended
      · dsimp only at ended
        rw [outcome_bind_pure] at ended
        rcases second : outcome (processRows device timestamp rest) between with ⟨answer, last⟩
        rw [second] at ended
        rcases answer with error | later
        · cases ended
        · cases ended
          rcases processRow_spec first with ⟨isBetween, firstEvents⟩
          rcases ih nodup.2 second with ⟨get, laterEvents⟩
          rw [get, sessionEventsOf_append, firstEvents, laterEvents, isBetween, get_set_session,
            Dict.lookup_cons]
          by_cases own : d = device
          · subst own
            by_cases here : n = neighbor
            · subst here
              simp [Dict.lookup_eq_none nodup.1]
            · simp [here, get_set_session]
          · simp [own]

/-- The neighbors that have disappeared. -/
theorem processMissing_spec {entries : List (String × BgpRow)}
    (nodup : (entries.map Prod.fst).Nodup)
    (ended : outcome (processMissing device timestamp entries) tracker = (.ok points, after))
    (d n : String) :
    (after.get (d, n) =
      if d = device then
        (entries.lookup n).elim (tracker.get (d, n)) fun previous =>
          if previous.sessionState = "MISSING" then tracker.get (d, n) else some previous.missing
      else tracker.get (d, n)) ∧
    sessionEventsOf d n points =
      if d = device then
        (entries.lookup n).elim [] fun previous =>
          changeEvents device n timestamp previous previous.missing
      else [] := by
  induction entries generalizing tracker points with
  | nil =>
      cases ended
      constructor <;> split <;> rfl
  | cons entry rest ih =>
      rcases entry with ⟨neighbor, previous⟩
      rw [List.map_cons, List.nodup_cons] at nodup
      have absent : n = neighbor → rest.lookup n = none := by
        intro here
        exact Dict.lookup_eq_none (here ▸ nodup.1)
      unfold processMissing at ended
      split at ended
      · rename_i missing
        rcases ih nodup.2 ended with ⟨get, events⟩
        rw [get, events, Dict.lookup_cons]
        by_cases here : n = neighbor
        · simp [here ▸ absent here, here, changeEvents, missing, missing_sessionState]
        · simp [here]
      · rename_i present
        rw [outcome_bind, outcome_ofExcept] at ended
        rcases built : buildBgpTransitionLine device neighbor previous previous.missing timestamp
          with error | event
        · rw [built] at ended
          cases ended
        · rw [built] at ended
          dsimp only at ended
          rw [outcome_bind_ok (outcome_modify _ _), outcome_bind_pure] at ended
          rcases second : outcome (processMissing device timestamp rest)
            (tracker.set (device, neighbor) previous.missing) with ⟨answer, last⟩
          rw [second] at ended
          rcases answer with error | later
          · cases ended
          · cases ended
            rcases ih nodup.2 second with ⟨get, laterEvents⟩
            rw [get, sessionEventsOf_cons, sessionOf_built built, laterEvents, get_set_session,
              Dict.lookup_cons]
            by_cases own : d = device
            · subst own
              by_cases here : n = neighbor
              · subst here
                simp [absent rfl, present, changeEvents, missing_sessionState, built,
                  Except.toOption]
              · simp [here]
            · simp [own]

/-! ### The whole poll -/

theorem nodup_missingNeighbors (device : String) (rows : Dict String BgpRow)
    (tracker : BgpTransitionTracker) :
    ((missingNeighbors device rows tracker).map Prod.fst).Nodup := by
  unfold missingNeighbors
  rw [List.map_map]
  refine List.Nodup.map_on ?_ (List.Nodup.filter _ (List.Nodup.of_map Prod.fst tracker.nodup))
  intro first firstMem second secondMem same
  have firstOwn := (List.mem_filter.mp firstMem).2
  have secondOwn := (List.mem_filter.mp secondMem).2
  simp only [Bool.and_eq_true, decide_eq_true_eq] at firstOwn secondOwn
  have key : first.1 = second.1 := Prod.ext (firstOwn.1.trans secondOwn.1.symm) same
  exact List.inj_on_of_nodup_map tracker.nodup (List.mem_filter.mp firstMem).1
    (List.mem_filter.mp secondMem).1 key

theorem lookup_missingNeighbors (device : String) (rows : Dict String BgpRow)
    (tracker : BgpTransitionTracker) (n : String) :
    (missingNeighbors device rows tracker).lookup n =
      if rows.get n = none then tracker.get (device, n) else none := by
  have found : ∀ row, (missingNeighbors device rows tracker).lookup n = some row ↔
      (n, row) ∈ missingNeighbors device rows tracker := fun row =>
    (Dict.mem_entries (d := ⟨_, nodup_missingNeighbors device rows tracker⟩)).symm
  have keys : rows.keys.contains n = false ↔ rows.get n = none := by
    rw [← Bool.not_eq_true, List.contains_iff_mem, Dict.mem_keys]
    rcases rows.get n with _ | row <;> simp
  refine Option.ext fun row => ?_
  rw [found]
  unfold missingNeighbors
  constructor
  · intro mem
    rcases List.mem_map.mp mem with ⟨⟨⟨d, name⟩, value⟩, inside, isEntry⟩
    cases isEntry
    rcases List.mem_filter.mp inside with ⟨entry, own⟩
    simp only [Bool.and_eq_true, decide_eq_true_eq, Bool.not_eq_true'] at own
    rcases own with ⟨rfl, absent⟩
    rw [if_pos (keys.mp absent)]
    exact Dict.mem_entries.mp entry
  · intro isRow
    split at isRow
    · rename_i absent
      refine List.mem_map.mpr ⟨((device, n), row), List.mem_filter.mpr ⟨?_, ?_⟩, rfl⟩
      · exact Dict.mem_entries.mpr isRow
      · rw [keys.mpr absent, decide_eq_true rfl]
        rfl
    · cases isRow

/-- A neighbor is remembered by its row, or as missing. -/
theorem nextRow_phases (before row : Option BgpRow) :
    ((if row = none then row.or before else none).elim (row.or before) fun previous =>
      if previous.sessionState = "MISSING" then row.or before else some previous.missing) =
      nextRow before row := by
  rcases row with _ | current
  · rcases before with _ | previous
    · rfl
    · simp [nextRow]
  · rcases before with _ | previous
    · rfl
    · rfl

theorem stepEvents_phases (device n : String) (timestamp : Nat) (before row : Option BgpRow) :
    (row.elim [] fun current => stepEvents device n timestamp before (some current)) ++
      ((if row = none then row.or before else none).elim [] fun previous =>
        changeEvents device n timestamp previous previous.missing) =
      stepEvents device n timestamp before row := by
  rcases row with _ | current
  · rcases before with _ | previous
    · rfl
    · simp [stepEvents, BgpRow.target]
  · simp

/-- What a poll that answers does to every session. -/
theorem process_spec {rows : List BgpRow}
    (ended : outcome (process device rows timestamp true) tracker = (.ok points, after))
    (d n : String) :
    (after.get (d, n) =
      if d = device then nextRow (tracker.get (device, n)) ((currentRows rows).get n)
      else tracker.get (d, n)) ∧
    sessionEventsOf d n points =
      if d = device then
        stepEvents device n timestamp (tracker.get (device, n)) ((currentRows rows).get n)
      else [] := by
  unfold process at ended
  rw [if_pos rfl, outcome_bind] at ended
  rcases first : outcome (processRows device timestamp (currentRows rows).entries) tracker
    with ⟨answer, between⟩
  rw [first] at ended
  rcases answer with error | changed
  · cases ended
  · dsimp only at ended
    rw [outcome_bind_ok (outcome_get between), outcome_bind_pure] at ended
    rcases second : outcome (processMissing device timestamp
      (missingNeighbors device (currentRows rows) between)) between with ⟨answer, last⟩
    rw [second] at ended
    rcases answer with error | missing
    · cases ended
    · cases ended
      have changedSpec := processRows_spec (currentRows rows).nodup first
      have missingSpec :=
        processMissing_spec (nodup_missingNeighbors device (currentRows rows) between) second d n
      have middle : between.get (device, n) =
          ((currentRows rows).get n).or (tracker.get (device, n)) := by
        rw [(changedSpec device n).1, if_pos rfl]
        rfl
      have index : ∀ rest : List BgpPoint, sessionEventsOf d n
          (.index { source := device, collectionOk := true, timestamp } :: rest) =
            sessionEventsOf d n rest := fun rest => rfl
      rw [index, sessionEventsOf_append, (changedSpec d n).2, missingSpec.2, missingSpec.1,
        lookup_missingNeighbors, middle]
      by_cases own : d = device
      · subst own
        rw [if_pos rfl, if_pos rfl, if_pos rfl, if_pos rfl, if_pos rfl, middle]
        exact ⟨nextRow_phases _ _, stepEvents_phases d n timestamp _ _⟩
      · simp only [if_neg own, List.append_nil, and_true]
        rw [(changedSpec d n).1, if_neg own]

/-- The event of a change of state fits into a line. -/
def BgpRow.Renders (previous current : BgpRow) : Prop :=
  previous.sessionState = current.sessionState ∨
    ∀ asn, transitionAsn previous current = some asn → asn.rendered = true

theorem exists_transitionPoints (device neighbor : String) (timestamp : Nat)
    (before : Option BgpRow)
    (renders : ∀ previous, before = some previous → previous.Renders current) :
    ∃ points, transitionPoints device neighbor before current timestamp = .ok points := by
  unfold transitionPoints
  rcases before with _ | previous
  · exact ⟨_, rfl⟩
  · dsimp only
    split
    · exact ⟨_, rfl⟩
    · rename_i differ
      have rendered := (renders previous rfl).resolve_left differ
      rcases exists_buildBgpTransitionLine device neighbor timestamp rendered with ⟨event, built⟩
      rw [built]
      exact ⟨_, rfl⟩

theorem exists_processRows (device : String) (timestamp : Nat) {entries : List (String × BgpRow)}
    (nodup : (entries.map Prod.fst).Nodup)
    (renders : ∀ entry ∈ entries, ∀ previous, tracker.get (device, entry.1) = some previous →
      previous.Renders entry.2) :
    ∃ points after, outcome (processRows device timestamp entries) tracker = (.ok points, after) := by
  induction entries generalizing tracker with
  | nil => exact ⟨_, _, rfl⟩
  | cons entry rest ih =>
      rcases entry with ⟨neighbor, current⟩
      rw [List.map_cons, List.nodup_cons] at nodup
      have fits : ∀ previous, tracker.get (device, neighbor) = some previous →
          previous.Renders current := renders _ List.mem_cons_self
      rcases exists_transitionPoints device neighbor timestamp _ fits with ⟨changed, transition⟩
      have first : outcome (processRow device timestamp neighbor current) tracker =
          (.ok (changed ++ prefixPoints device neighbor (tracker.get (device, neighbor)) current
            timestamp), tracker.set (device, neighbor) current) := by
        unfold processRow
        rw [outcome_bind_ok (outcome_get tracker)]
        dsimp only
        rw [transition]
        rfl
      have others : ∀ entry ∈ rest, ∀ previous,
          (tracker.set (device, neighbor) current).get (device, entry.1) = some previous →
          previous.Renders entry.2 := by
        intro entry mem previous isPrevious
        rw [get_set_session, if_neg] at isPrevious
        · exact renders entry (List.mem_cons_of_mem _ mem) previous isPrevious
        · exact fun same => nodup.1 (List.mem_map.mpr ⟨entry, mem, same.2⟩)
      rcases ih nodup.2 others with ⟨later, last, second⟩
      refine ⟨(changed ++ prefixPoints device neighbor (tracker.get (device, neighbor)) current
        timestamp) ++ later, last, ?_⟩
      unfold processRows
      rw [outcome_bind_ok first, outcome_bind_ok second]
      rfl

theorem exists_processMissing (device : String) (timestamp : Nat) {entries : List (String × BgpRow)}
    (tracker : BgpTransitionTracker)
    (renders : ∀ entry ∈ entries, entry.2.Renders entry.2.missing) :
    ∃ points after, outcome (processMissing device timestamp entries) tracker =
      (.ok points, after) := by
  induction entries generalizing tracker with
  | nil => exact ⟨_, _, rfl⟩
  | cons entry rest ih =>
      rcases entry with ⟨neighbor, previous⟩
      have others : ∀ entry ∈ rest, entry.2.Renders entry.2.missing := fun entry mem =>
        renders entry (List.mem_cons_of_mem _ mem)
      unfold processMissing
      split
      · exact ih tracker others
      · rename_i present
        have differ : previous.sessionState ≠ previous.missing.sessionState := by
          rw [missing_sessionState]
          exact present
        have fits : previous.Renders previous.missing := renders _ List.mem_cons_self
        rcases exists_buildBgpTransitionLine device neighbor timestamp (fits.resolve_left differ)
          with ⟨event, built⟩
        rcases ih (tracker.set (device, neighbor) previous.missing) others
          with ⟨later, last, second⟩
        refine ⟨.session event :: later, last, ?_⟩
        rw [built]
        change outcome (processMissing device timestamp rest >>= _)
          (tracker.set (device, neighbor) previous.missing) = _
        rw [outcome_bind_ok second]
        rfl

/-- A poll whose events fit into lines is processed. -/
theorem exists_process (timestamp : Nat) {rows : List BgpRow}
    (renders : ∀ n previous, tracker.get (device, n) = some previous →
      previous.Renders (previous.target ((currentRows rows).get n))) :
    ∃ points after, outcome (process device rows timestamp true) tracker = (.ok points, after) := by
  have current : ∀ entry ∈ (currentRows rows).entries, ∀ previous,
      tracker.get (device, entry.1) = some previous → previous.Renders entry.2 := by
    intro entry mem previous isPrevious
    have isRow : (currentRows rows).get entry.1 = some entry.2 := Dict.mem_entries.mp mem
    have fits := renders entry.1 previous isPrevious
    rw [isRow] at fits
    exact fits
  rcases exists_processRows device timestamp (currentRows rows).nodup current
    with ⟨changed, between, first⟩
  have missing : ∀ entry ∈ missingNeighbors device (currentRows rows) between,
      entry.2.Renders entry.2.missing := by
    intro entry mem
    have found : (missingNeighbors device (currentRows rows) between).lookup entry.1 =
        some entry.2 :=
      Dict.mem_entries (d := ⟨_, nodup_missingNeighbors device (currentRows rows) between⟩).mp mem
    rw [lookup_missingNeighbors] at found
    split at found
    · rename_i absent
      rw [(processRows_spec (currentRows rows).nodup first device entry.1).1, if_pos rfl] at found
      change ((currentRows rows).get entry.1).or _ = _ at found
      rw [absent, Option.none_or] at found
      have fits := renders entry.1 entry.2 found
      rw [absent] at fits
      exact fits
    · cases found
  rcases exists_processMissing device timestamp between missing with ⟨gone, last, second⟩
  refine ⟨.index { source := device, collectionOk := true, timestamp } :: (changed ++ gone), last,
    ?_⟩
  unfold process
  rw [if_pos rfl, outcome_bind_ok first, outcome_bind_ok (outcome_get between),
    outcome_bind_ok second]
  rfl

end Poll

/-! ## Chains -/

/-- An event between two states that differ, under the name that they call for. -/
structure SessionEvent.Right (event : SessionEvent) : Prop where
  differ : event.previousState ≠ event.latestState
  down : event.eventType = .sessionDown ↔
    event.previousState = "ESTABLISHED" ∧ event.latestState ≠ "ESTABLISHED"
  recovered : event.eventType = .sessionRecovered ↔
    event.previousState ≠ "ESTABLISHED" ∧ event.latestState = "ESTABLISHED"
  changed : event.eventType = .sessionStateChanged ↔
    event.previousState ≠ "ESTABLISHED" ∧ event.latestState ≠ "ESTABLISHED"

/-- The events lead from one state to another, each from the state that the one before leaves. -/
def EventChain : String → List SessionEvent → String → Prop
  | state, [], last => state = last
  | state, event :: later, last =>
      event.previousState = state ∧ event.Right ∧ EventChain event.latestState later last

theorem EventChain.append {first middle last : String} {events later : List SessionEvent}
    (chain : EventChain first events middle) (next : EventChain middle later last) :
    EventChain first (events ++ later) last := by
  induction events generalizing first with
  | nil =>
      have same : first = middle := chain
      exact same ▸ next
  | cons event events ih => exact ⟨chain.1, chain.2.1, ih chain.2.2⟩

theorem right_of_built {device neighbor : String} {previous current : BgpRow} {timestamp : Nat}
    {event : SessionEvent}
    (built : buildBgpTransitionLine device neighbor previous current timestamp = .ok event)
    (differ : previous.sessionState ≠ current.sessionState) : event.Right := by
  rcases buildBgpTransitionLine_eq_ok built with ⟨-, -, before, latest, type, -⟩
  rw [← before, ← latest] at differ type
  unfold sessionEventType at type
  refine ⟨differ, ?_, ?_, ?_⟩
  all_goals
    rw [type]
    split
    · rename_i down
      simp [down]
    · rename_i notDown
      split
      · rename_i recovered
        simp [recovered]
      · grind

theorem chain_changeEvents (device neighbor : String) (timestamp : Nat) {previous current : BgpRow}
    (renders : previous.Renders current) :
    EventChain previous.sessionState (changeEvents device neighbor timestamp previous current)
      current.sessionState := by
  unfold changeEvents
  split
  · rename_i same
    exact same
  · rename_i differ
    rcases exists_buildBgpTransitionLine device neighbor timestamp (renders.resolve_left differ)
      with ⟨event, built⟩
    rw [built]
    rcases buildBgpTransitionLine_eq_ok built with ⟨-, -, before, latest, -, -⟩
    exact ⟨before, right_of_built built differ, latest⟩

/-! ## Runs of a tracker -/

/-- What a tracker remembers, and what it has emitted. -/
structure TrackerRun : Type where
  tracker : BgpTransitionTracker := .empty
  points : List BgpPoint := []

/-- The next call of `process`; a call that raises emits nothing. -/
def TrackerRun.feed (run : TrackerRun) (poll : BgpPoll) : TrackerRun :=
  match outcome (process poll.device poll.rows poll.timestamp poll.collectionOk) run.tracker with
  | (.ok points, tracker) => { tracker, points := run.points ++ points }
  | (.error _, tracker) => { run with tracker }

/-- The polls in their order, from a new tracker. -/
def trackerRun (polls : List BgpPoll) : TrackerRun := polls.foldl TrackerRun.feed {}

/-- Every event of the poll fits into a line. -/
def BgpPoll.Renders (poll : BgpPoll) (tracker : BgpTransitionTracker) : Prop :=
  poll.collectionOk = true → ∀ n previous, tracker.get (poll.device, n) = some previous →
    previous.Renders (previous.target ((currentRows poll.rows).get n))

/-- Whenever a poll comes, its events fit into lines. -/
def RunRenders (polls : List BgpPoll) : Prop :=
  History.Audited (fun earlier poll => poll.Renders (trackerRun earlier).tracker) polls

/-- The state of a neighbor in a poll. -/
def BgpPoll.stateIn (poll : BgpPoll) (neighbor : String) : Option String :=
  ((currentRows poll.rows).get neighbor).map (·.sessionState)

/-- The successful polls of a device. -/
def successfulPolls (device : String) (polls : List BgpPoll) : List BgpPoll :=
  polls.filter fun poll => poll.device = device && poll.collectionOk

/-- The state in which a neighbor first appears. -/
def firstState (device neighbor : String) (polls : List BgpPoll) : Option String :=
  (successfulPolls device polls).findSome? (·.stateIn neighbor)

/-- The state in the last successful poll of the device. -/
def lastState (device neighbor : String) (polls : List BgpPoll) : String :=
  ((successfulPolls device polls).getLast?.bind (·.stateIn neighbor)).getD "MISSING"

/-- The events lead from the state in which the neighbor first appears to its last state. -/
def SessionChain (device neighbor : String) (polls : List BgpPoll) (events : List SessionEvent) :
    Prop :=
  match firstState device neighbor polls with
  | none => events = []
  | some state => EventChain state events (lastState device neighbor polls)

section Runs

variable {poll : BgpPoll} {polls : List BgpPoll} {run : TrackerRun}

theorem trackerRun_concat (polls : List BgpPoll) (poll : BgpPoll) :
    trackerRun (polls ++ [poll]) = (trackerRun polls).feed poll := by
  unfold trackerRun
  rw [List.foldl_append]
  rfl

/-- A poll that fails emits the heartbeat alone and changes nothing. -/
theorem process_failed (failed : poll.collectionOk = false) (tracker : BgpTransitionTracker) :
    outcome (process poll.device poll.rows poll.timestamp poll.collectionOk) tracker =
      (.ok [.index { source := poll.device, collectionOk := false, timestamp := poll.timestamp }],
        tracker) := by
  rw [failed]
  rfl

/-- What the next poll does to every session. -/
theorem feed_spec (renders : poll.Renders run.tracker) (d n : String) :
    ((run.feed poll).tracker.get (d, n) =
      if d = poll.device ∧ poll.collectionOk = true then
        nextRow (run.tracker.get (d, n)) ((currentRows poll.rows).get n)
      else run.tracker.get (d, n)) ∧
    sessionEventsOf d n (run.feed poll).points =
      sessionEventsOf d n run.points ++
        if d = poll.device ∧ poll.collectionOk = true then
          stepEvents d n poll.timestamp (run.tracker.get (d, n)) ((currentRows poll.rows).get n)
        else [] := by
  unfold TrackerRun.feed
  cases answered : poll.collectionOk with
  | false =>
      have failed := process_failed answered run.tracker
      rw [answered] at failed
      rw [failed]
      have index : ∀ heartbeat, sessionEventsOf d n [.index heartbeat] = [] := fun _ => rfl
      simp [index]
  | true =>
      rcases exists_process poll.timestamp (renders answered) with ⟨points, after, ended⟩
      rw [ended]
      rcases process_spec ended d n with ⟨get, events⟩
      rw [sessionEventsOf_append, events, get]
      by_cases own : d = poll.device
      · subst own
        simp
      · simp [own]

theorem successfulPolls_concat (device : String) (polls : List BgpPoll) (poll : BgpPoll) :
    successfulPolls device (polls ++ [poll]) =
      successfulPolls device polls ++
        if device = poll.device ∧ poll.collectionOk = true then [poll] else [] := by
  unfold successfulPolls
  rw [List.filter_append]
  congr 1
  by_cases own : device = poll.device ∧ poll.collectionOk = true
  · simp [own]
  · have other : (poll.device = device && poll.collectionOk) = false := by
      rw [← Bool.not_eq_true, Bool.and_eq_true, decide_eq_true_eq]
      exact fun same => own ⟨same.1.symm, same.2⟩
    simp [own, other]

/-- What the tracker remembers of a session, against what the polls have shown of it. -/
def Remembers (device neighbor : String) (polls : List BgpPoll) (run : TrackerRun) : Prop :=
  match run.tracker.get (device, neighbor) with
  | none => firstState device neighbor polls = none ∧
      sessionEventsOf device neighbor run.points = []
  | some row => row.sessionState = lastState device neighbor polls ∧
      ∃ state, firstState device neighbor polls = some state ∧
        EventChain state (sessionEventsOf device neighbor run.points) row.sessionState

theorem Remembers.chain {device neighbor : String} (remembers : Remembers device neighbor polls run) :
    SessionChain device neighbor polls (sessionEventsOf device neighbor run.points) := by
  unfold Remembers at remembers
  unfold SessionChain
  split at remembers
  · rw [remembers.1]
    exact remembers.2
  · rcases remembers with ⟨last, state, first, chain⟩
    rw [first, ← last]
    exact chain

/-- The step of the induction: the polls go on by one. -/
theorem Remembers.feed {device neighbor : String} (remembers : Remembers device neighbor polls run)
    (renders : poll.Renders run.tracker) :
    Remembers device neighbor (polls ++ [poll]) (run.feed poll) := by
  rcases feed_spec renders device neighbor with ⟨get, events⟩
  have successful := successfulPolls_concat device polls poll
  by_cases own : device = poll.device ∧ poll.collectionOk = true
  · rw [if_pos own] at get events successful
    have first : firstState device neighbor (polls ++ [poll]) =
        (firstState device neighbor polls).or (poll.stateIn neighbor) := by
      unfold firstState
      rw [successful, List.findSome?_append]
      simp
    have last : lastState device neighbor (polls ++ [poll]) =
        (poll.stateIn neighbor).getD "MISSING" := by
      unfold lastState
      rw [successful, List.getLast?_concat, Option.bind_some]
    unfold Remembers at remembers ⊢
    rw [get, events, first, last]
    rcases before : run.tracker.get (device, neighbor) with _ | previous
    · simp only [before] at remembers
      rw [remembers.1, remembers.2]
      unfold BgpPoll.stateIn
      rcases (currentRows poll.rows).get neighbor with _ | current
      · exact ⟨rfl, rfl⟩
      · exact ⟨rfl, current.sessionState, rfl, rfl⟩
    · simp only [before] at remembers
      rcases remembers with ⟨-, state, isFirst, chain⟩
      have fits := renders own.2 neighbor previous (own.1 ▸ before)
      have state' := nextRow_sessionState previous ((currentRows poll.rows).get neighbor)
      rcases isNext : nextRow (some previous) ((currentRows poll.rows).get neighbor)
        with _ | next
      · rw [isNext] at state'
        cases state'
      · rw [isNext, Option.map_some, Option.some.injEq] at state'
        refine ⟨?_, state, by rw [isFirst]; rfl, ?_⟩
        · rw [state']
          unfold BgpPoll.stateIn BgpRow.target
          rcases (currentRows poll.rows).get neighbor with _ | current
          · exact missing_sessionState previous
          · rfl
        · rw [state']
          exact chain.append (chain_changeEvents device neighbor poll.timestamp fits)
  · rw [if_neg own] at get events successful
    rw [List.append_nil] at events successful
    unfold Remembers firstState lastState
    rw [get, events, successful]
    exact remembers

theorem remembers_trackerRun (device neighbor : String) {polls : List BgpPoll}
    (renders : RunRenders polls) : Remembers device neighbor polls (trackerRun polls) := by
  induction polls using List.reverseRecOn with
  | nil => exact ⟨rfl, rfl⟩
  | append_singleton polls poll ih =>
      rw [trackerRun_concat]
      exact (ih (History.Audited.init renders)).feed (History.Audited.last renders)

/-- Only what is remembered of its own device matters to a poll. -/
theorem BgpPoll.Renders.congr {tracker after : BgpTransitionTracker} (renders : poll.Renders tracker)
    (same : ∀ n, after.get (poll.device, n) = tracker.get (poll.device, n)) :
    poll.Renders after := by
  intro answered n previous isPrevious
  exact renders answered n previous (same n ▸ isPrevious)

/-- The polls of other devices change nothing for a device. -/
theorem trackerRun_filter (device : String) {polls : List BgpPoll} (renders : RunRenders polls)
    (n : String) :
    (trackerRun (polls.filter fun poll => poll.device = device)).tracker.get (device, n) =
        (trackerRun polls).tracker.get (device, n) ∧
      sessionEventsOf device n (trackerRun (polls.filter fun poll => poll.device = device)).points =
        sessionEventsOf device n (trackerRun polls).points := by
  induction polls using List.reverseRecOn generalizing n with
  | nil => exact ⟨rfl, rfl⟩
  | append_singleton polls poll ih =>
      have before := ih (History.Audited.init renders)
      rcases feed_spec (History.Audited.last renders) device n with ⟨get, events⟩
      rw [trackerRun_concat, get, events, List.filter_append]
      by_cases own : poll.device = device
      · have kept : [poll].filter (fun poll => decide (poll.device = device)) = [poll] := by
          simp [own]
        have fits : poll.Renders
            (trackerRun (polls.filter fun poll => poll.device = device)).tracker :=
          (History.Audited.last renders).congr fun n => own ▸ (before n).1
        rcases feed_spec fits device n with ⟨get', events'⟩
        rw [kept, trackerRun_concat, get', events', (before n).1, (before n).2]
        exact ⟨rfl, rfl⟩
      · have dropped : [poll].filter (fun poll => decide (poll.device = device)) = [] := by
          simp [own]
        have other : ¬ (device = poll.device ∧ poll.collectionOk = true) := fun same =>
          own same.1.symm
        rw [dropped, List.append_nil, if_neg other, if_neg other, List.append_nil]
        exact before n

/-- Polls whose AS numbers are numbers have events that fit into lines. -/
theorem runRenders_of_rendered {polls : List BgpPoll}
    (rendered : ∀ poll ∈ polls, ∀ row ∈ poll.rows, row.neighbor ≠ "" →
      ∀ asn, row.asn = some asn → asn.rendered = true) : RunRenders polls := by
  have row : ∀ poll ∈ polls, ∀ n row, (currentRows poll.rows).get n = some row →
      ∀ asn, row.asn = some asn → asn.rendered = true := by
    intro poll mem n row found
    rcases List.mem_map.mp (Dict.mem_of_get_ofEntries found) with ⟨origin, inside, isEntry⟩
    rcases List.mem_filter.mp inside with ⟨given, named⟩
    cases isEntry
    exact rendered poll mem _ given (of_decide_eq_true named)
  have renders : ∀ poll ∈ polls, ∀ tracker : BgpTransitionTracker,
      (∀ key row, tracker.get key = some row → ∀ asn, row.asn = some asn → asn.rendered = true) →
      poll.Renders tracker := by
    intro poll mem tracker kept _ n previous isPrevious
    refine .inr fun asn isAsn => ?_
    unfold transitionAsn BgpRow.target at isAsn
    have before := kept _ previous isPrevious
    rcases found : (currentRows poll.rows).get n with _ | current
    · rw [found] at isAsn
      change previous.asn.or previous.asn = some asn at isAsn
      rw [Option.or_self] at isAsn
      exact before asn isAsn
    · rw [found] at isAsn
      rcases Option.or_eq_some_iff.mp isAsn with own | ⟨-, old⟩
      · exact row poll mem n current found asn own
      · exact before asn old
  have kept : ∀ first, first <+: polls → ∀ key row, (trackerRun first).tracker.get key = some row →
      ∀ asn, row.asn = some asn → asn.rendered = true := by
    intro first isPrefix
    induction first using List.reverseRecOn with
    | nil =>
        intro key row found
        cases found
    | append_singleton first poll ih =>
        have mem : poll ∈ polls := isPrefix.subset (by simp)
        have before := ih ((List.prefix_append first [poll]).trans isPrefix)
        intro key value found
        rcases key with ⟨d, n⟩
        rw [trackerRun_concat, (feed_spec (renders poll mem _ before) d n).1] at found
        split at found
        · unfold nextRow at found
          rcases isPrevious : (trackerRun first).tracker.get (d, n) with _ | previous
          · rw [isPrevious] at found
            exact row poll mem n value found
          · rw [isPrevious] at found
            have old := before _ previous isPrevious
            rcases isRow : (currentRows poll.rows).get n with _ | current
            · simp only [isRow] at found
              split at found
              · cases found
                exact old
              · cases found
                exact old
            · simp only [isRow] at found
              cases found
              exact row poll mem n _ isRow
        · exact before _ value found
  intro earlier poll later split
  have isPrefix : earlier <+: polls := ⟨poll :: later, split.symm⟩
  exact renders poll (split ▸ by simp) _ (kept earlier isPrefix)

/-- The session events of a run in which every event fits into a line. -/
theorem session_events_chain {polls : List BgpPoll} (renders : RunRenders polls)
    (device neighbor : String) :
    SessionChain device neighbor polls
        (sessionEventsOf device neighbor (trackerRun polls).points) ∧
      (∀ (run : TrackerRun) (poll : BgpPoll), poll.collectionOk = false →
        sessionEventsOf device neighbor (run.feed poll).points =
          sessionEventsOf device neighbor run.points) ∧
      sessionEventsOf device neighbor
          (trackerRun (polls.filter fun poll => poll.device = device)).points =
        sessionEventsOf device neighbor (trackerRun polls).points := by
  refine ⟨(remembers_trackerRun device neighbor renders).chain, ?_,
    (trackerRun_filter device renders neighbor).2⟩
  intro run poll failed
  have fits : poll.Renders run.tracker := fun answered => by simp [failed] at answered
  rw [(feed_spec fits device neighbor).2, if_neg (by simp [failed]), List.append_nil]

end Runs

/-! ### A poll whose line cannot be built -/

/-- Two polls of a device; one of its AS numbers is written with a dot. -/
def dottedAsnPolls : List BgpPoll :=
  [{ device := "leaf1"
     timestamp := 1
     answer := .ok
      [{ neighbor := "10.0.0.1", state := some "Idle", asn := some (.number 65100) },
        { neighbor := "10.0.0.2", state := some "Active", asn := some (.text "1.10") }] },
   { device := "leaf1"
     timestamp := 2
     answer := .ok
      [{ neighbor := "10.0.0.1", state := some "Established", asn := some (.number 65100) },
        { neighbor := "10.0.0.2", state := some "Established", asn := some (.text "1.10") }] }]

theorem session_event_lost :
    ¬ SessionChain "leaf1" "10.0.0.1" dottedAsnPolls
      (sessionEventsOf "leaf1" "10.0.0.1" (trackerRun dottedAsnPolls).points) := by
  have none : sessionEventsOf "leaf1" "10.0.0.1" (trackerRun dottedAsnPolls).points = [] := by
    decide +kernel
  have first : firstState "leaf1" "10.0.0.1" dottedAsnPolls = some "IDLE" := by decide +kernel
  have last : lastState "leaf1" "10.0.0.1" dottedAsnPolls = "ESTABLISHED" := by decide +kernel
  unfold SessionChain
  rw [none, first, last]
  intro same
  have differ : ¬ ("IDLE" = "ESTABLISHED") := by decide
  exact differ same

/-- The polls of the device without the neighbor whose AS number has a dot. -/
theorem session_events_chain_recovery :
    SessionChain "leaf1" "10.0.0.1"
      [{ device := "leaf1", timestamp := 1,
         answer := .ok [{ neighbor := "10.0.0.1", state := some "Idle" }] },
       { device := "leaf1", timestamp := 2,
         answer := .ok [{ neighbor := "10.0.0.1", state := some "Established" }] }]
      (sessionEventsOf "leaf1" "10.0.0.1" (trackerRun
        [{ device := "leaf1", timestamp := 1,
           answer := .ok [{ neighbor := "10.0.0.1", state := some "Idle" }] },
         { device := "leaf1", timestamp := 2,
           answer := .ok [{ neighbor := "10.0.0.1", state := some "Established" }] }]).points) := by
  refine (session_events_chain (runRenders_of_rendered ?_) "leaf1" "10.0.0.1").1
  intro poll mem row inside
  simp only [List.mem_cons, List.not_mem_nil, or_false] at mem
  rcases mem with rfl | rfl
  all_goals
    simp only [BgpPoll.rows, List.mem_singleton] at inside
    rw [inside]
    intro _ asn isAsn
    cases isAsn

end NetOpsBench
