import NetOpsBench.Simulator.Slots

/-!
# The moves of the service, seen from one environment

`SimulatorService.view` is the view of an environment; whatever a thread does next is a few steps of
the view of every environment (`SimulatorService.steps_advance`).
-/

namespace NetOpsBench

open Relation

/-! ## The views of the service -/

namespace SimulatorService

variable {service : SimulatorService} {thread environment : Nat}

def view (service : SimulatorService) (environment : Nat) : SlotView where
  slot := service.slots environment
  role := fun thread => (service.calls thread).role environment
  listed := ∃ id, service.environments.get id = some environment
  obtained := environment < service.obtained
  log := service.log environment

theorem view_goto (thread : Nat) (call : ServiceCall) (environment : Nat) :
    (service.goto thread call).view environment =
      (service.view environment).goto thread (call.role environment) := by
  unfold view goto SlotView.goto
  congr 1
  funext other
  by_cases same : other = thread
  · subst same
    rw [Function.update_self]
    exact congrArg (ServiceCall.role environment) (Function.update_self ..)
  · rw [Function.update_of_ne same]
    exact congrArg (ServiceCall.role environment) (Function.update_of_ne same ..)

theorem goto_self {view : SlotView} {role : SlotRole} (same : view.role thread = role) :
    view.goto thread role = view := by
  subst same
  unfold SlotView.goto
  rw [Function.update_eq_self]

theorem view_note (environment : Nat) (event : EnvironmentEvent) :
    (service.note environment event).view environment = (service.view environment).note event :=
  congrArg (fun log => { service.view environment with log })
    (Function.update_self environment _ service.log)

theorem view_note_ne {other : Nat} (differs : other ≠ environment) (event : EnvironmentEvent) :
    (service.note environment event).view other = service.view other :=
  congrArg (fun log => { service.view other with log })
    (Function.update_of_ne differs _ service.log)

theorem view_modifySlot {slot : EnvironmentSlot} (at_ : service.slots environment = some slot)
    (f : EnvironmentSlot → EnvironmentSlot) :
    (service.modifySlot environment f).view environment =
      { service.view environment with slot := some (f slot) } := by
  refine congrArg (fun slot => { service.view environment with slot })
    ((Function.update_self environment _ service.slots).trans ?_)
  rw [at_]
  rfl

theorem view_modifySlot_ne {other : Nat} (differs : other ≠ environment)
    (f : EnvironmentSlot → EnvironmentSlot) :
    (service.modifySlot environment f).view other = service.view other :=
  congrArg (fun slot => { service.view other with slot })
    (Function.update_of_ne differs _ service.slots)

/-! ### Pruning -/

theorem get_popAll (entries : List (String × Nat)) (id : String) :
    (service.popAll entries).environments.get id =
      if id ∈ entries.map Prod.fst then none else service.environments.get id := by
  unfold popAll
  dsimp only
  generalize service.environments = table
  induction entries generalizing table with
  | nil => rw [List.map_nil, if_neg List.not_mem_nil, List.foldl_nil]
  | cons entry entries ih =>
      rw [List.foldl_cons, ih, Dict.get_erase]
      by_cases first : id = entry.1
      · have mem : id ∈ (entry :: entries).map Prod.fst := by
          rw [first]
          exact List.mem_cons_self ..
        rw [if_pos first, ite_self, if_pos mem]
      · have same : id ∈ entries.map Prod.fst ↔ id ∈ (entry :: entries).map Prod.fst := by
          rw [List.map_cons, List.mem_cons, or_iff_right first]
        rw [if_neg first]
        exact if_congr same rfl rfl

/-- What is popped under a test of the slots has a slot that passes it. -/
theorem get_popAll_tested {entries : List (String × Nat)} (test : EnvironmentSlot → Bool)
    (tested : ∀ entry ∈ entries, entry ∈ service.environments.entries ∧
      service.slotTest test entry = true) {id : String} {number : Nat}
    (found : service.environments.get id = some number) :
    (service.popAll entries).environments.get id = some number ∨
      ∃ slot, service.slots number = some slot ∧ test slot = true := by
  rw [get_popAll]
  by_cases popped : id ∈ entries.map Prod.fst
  · obtain ⟨entry, mem, rfl⟩ := List.mem_map.mp popped
    obtain ⟨isEntry, passes⟩ := tested entry mem
    have same : entry.2 = number :=
      Option.some.inj ((Dict.mem_entries.mp isEntry).symm.trans found)
    rw [slotTest, same] at passes
    cases at_ : service.slots number with
    | none =>
        rw [at_] at passes
        cases passes
    | some slot =>
        rw [at_] at passes
        exact .inr ⟨slot, rfl, passes⟩
  · rw [if_neg popped]
    exact .inl found

theorem expired_tombstone {now : Rat} {slot : EnvironmentSlot} (expired : slot.expired now = true) :
    slot.tombstone = true :=
  (Bool.and_eq_true_iff.mp expired).1

theorem mem_terminalIds {entry : String × Nat} (mem : entry ∈ service.terminalIds) :
    entry ∈ service.environments.entries ∧
      service.slotTest EnvironmentSlot.tombstone entry = true := by
  obtain ⟨mem, passes⟩ := List.mem_filter.mp mem
  exact ⟨Sorting.mem_sorted.mp mem, passes⟩

/-- Pruning removes nothing but tombstones. -/
theorem get_prune (now : Rat) {id : String} {number : Nat}
    (found : service.environments.get id = some number) :
    (service.pruneTerminalEnvironments now).environments.get id = some number ∨
      ∃ slot, service.slots number = some slot ∧ slot.tombstone = true := by
  unfold pruneTerminalEnvironments
  dsimp only
  rcases get_popAll_tested (EnvironmentSlot.expired now) (fun entry mem =>
    List.mem_filter.mp mem) found with kept | ⟨slot, at_, expired⟩
  · rcases get_popAll_tested EnvironmentSlot.tombstone (fun entry mem =>
      mem_terminalIds (List.mem_of_mem_take mem)) kept with kept | gone
    · exact .inl kept
    · exact .inr gone
  · exact .inr ⟨slot, at_, expired_tombstone expired⟩

theorem get_of_get_popAll {entries : List (String × Nat)} {id : String} {number : Nat}
    (found : (service.popAll entries).environments.get id = some number) :
    service.environments.get id = some number := by
  rw [get_popAll] at found
  split at found
  · cases found
  · exact found

theorem get_of_get_prune {now : Rat} {id : String} {number : Nat}
    (found : (service.pruneTerminalEnvironments now).environments.get id = some number) :
    service.environments.get id = some number :=
  get_of_get_popAll (get_of_get_popAll found)

theorem view_popAll (entries : List (String × Nat)) (environment : Nat) :
    (service.popAll entries).view environment =
      { service.view environment with
        listed := ((service.popAll entries).view environment).listed } := rfl

theorem view_prune_eq (now : Rat) (environment : Nat) :
    (service.pruneTerminalEnvironments now).view environment =
      { service.view environment with
        listed := ((service.pruneTerminalEnvironments now).view environment).listed } := by
  unfold pruneTerminalEnvironments
  dsimp only
  rw [view_popAll, @view_popAll service]

/-- Pruning takes an environment off the table or leaves its view alone. -/
theorem view_prune (thread : Nat) (now : Rat) (environment : Nat) :
    SlotView.Steps environment thread (service.view environment)
      ((service.pruneTerminalEnvironments now).view environment) := by
  have same (listed : ((service.pruneTerminalEnvironments now).view environment).listed =
      (service.view environment).listed) :
      (service.pruneTerminalEnvironments now).view environment = service.view environment := by
    rw [view_prune_eq, listed]
  by_cases kept : ((service.pruneTerminalEnvironments now).view environment).listed
  · have before : (service.view environment).listed := by
      obtain ⟨id, found⟩ := kept
      exact ⟨id, get_of_get_prune found⟩
    rw [same (propext ⟨fun _ => before, fun _ => kept⟩)]
    exact .refl
  · by_cases before : (service.view environment).listed
    · obtain ⟨id, found⟩ := before
      rcases get_prune now found with still | ⟨slot, at_, gone⟩
      · exact absurd ⟨id, still⟩ kept
      · have unlisted : (service.pruneTerminalEnvironments now).view environment =
            { service.view environment with listed := False } := by
          rw [view_prune_eq, eq_false kept]
        rw [unlisted]
        exact .single (.unlist at_ gone)
    · rw [same (propext ⟨fun listed => absurd listed kept, fun listed => absurd listed before⟩)]
      exact .refl

/-! ### Moves -/

theorem at_self {role otherwise : SlotRole} :
    ServiceCall.at_ environment environment role otherwise = role := if_pos rfl

theorem at_ne {slot : Nat} (differs : slot ≠ environment) {role otherwise : SlotRole} :
    ServiceCall.at_ slot environment role otherwise = otherwise := if_neg differs

theorem among_cons_ne {slot : Nat} {rest : List Nat} (differs : slot ≠ environment) :
    ServiceCall.among (slot :: rest) environment = ServiceCall.among rest environment := by
  unfold ServiceCall.among
  simp only [List.mem_cons, differs.symm, false_or]

theorem among_eq (rest : List Nat) (environment : Nat) :
    ServiceCall.among rest environment =
      if decide (environment ∈ rest) then .pending else .none := by
  unfold ServiceCall.among
  simp only [decide_eq_true_eq]

/-- A call with the same role leaves the view alone. -/
theorem view_goto_same {call : ServiceCall}
    (same : (service.calls thread).role environment = call.role environment) :
    (service.goto thread call).view environment = service.view environment := by
  rw [view_goto]
  exact goto_self same

/-- The names that `create` has taken for environments are its own. -/
def ticket : ServiceCall → Option String
  | .resetting _ _ id => some id
  | .refused _ _ id => some id
  | .placing _ _ id _ => some id
  | _ => none

/-- Ids are given once, and an action acts on the environment of its slot. -/
structure Coherent (service : SimulatorService) : Prop where
  keys : ∀ id number, service.environments.get id = some number → id ∈ service.issued
  tickets : ∀ thread id, ticket (service.calls thread) = some id →
    id ∈ service.issued ∧ service.environments.get id = none
  apart : ∀ first second id, ticket (service.calls first) = some id →
    ticket (service.calls second) = some id → first = second
  acting : ∀ thread slot number, service.calls thread = .acting slot number → number = slot
  ended : ∀ thread slot number, service.calls thread = .ended slot number → number = slot

theorem steps_create (idle : service.calls thread = .idle) (caseId id : String)
    (environment : Nat) :
    SlotView.Steps environment thread (service.view environment)
      ((service.create thread caseId id).view environment) := by
  unfold create
  split
  · rw [view_goto]
    by_cases new : service.obtained = environment
    · subst new
      have grown : ({ service with obtained := service.obtained + 1
                                   issued := id :: service.issued } : SimulatorService).view
          service.obtained = { service.view service.obtained with obtained := True } :=
        congrArg (fun obtained => { service.view service.obtained with obtained })
          (eq_true (Nat.lt_succ_self service.obtained))
      rw [grown]
      change SlotView.Steps _ _ _ (SlotView.goto _ _ (ServiceCall.at_ ..))
      rw [at_self]
      exact .single (.obtain (Nat.lt_irrefl _))
    · have same : ({ service with obtained := service.obtained + 1
                                  issued := id :: service.issued } : SimulatorService).view
          environment = service.view environment :=
        congrArg (fun obtained => { service.view environment with obtained })
          (propext ⟨fun lt => Nat.lt_of_le_of_ne (Nat.le_of_lt_succ lt) (Ne.symm new),
            fun lt => Nat.lt_succ_of_lt lt⟩)
      rw [same, goto_self]
      · exact .refl
      · change (service.calls thread).role environment = ServiceCall.at_ ..
        rw [idle, at_ne new]
        rfl
  · exact .refl

theorem steps_lookUp (idle : service.calls thread = .idle) (id : String) (now : Rat)
    (environment : Nat) :
    SlotView.Steps environment thread (service.view environment)
      ((service.lookUp thread id now).view environment) := by
  unfold lookUp
  dsimp only
  have pruned := service.view_prune thread now environment
  cases found : (service.pruneTerminalEnvironments now).environments.get id with
  | none => exact pruned
  | some slot =>
      dsimp only
      by_cases touched : slot = environment
      · subst touched
        rw [view_goto]
        change SlotView.Steps _ _ _ (SlotView.goto _ _ (ServiceCall.at_ ..))
        rw [at_self]
        refine pruned.tail (.wait ⟨id, found⟩ ?_)
        change (service.calls thread).role slot = .none
        rw [idle]
        rfl
      · rw [view_goto_same]
        · exact pruned
        · change (service.calls thread).role environment = ServiceCall.at_ ..
          rw [idle, at_ne touched]
          rfl

theorem steps_delete (idle : service.calls thread = .idle) (id : String) (environment : Nat) :
    SlotView.Steps environment thread (service.view environment)
      ((service.delete thread id).view environment) := by
  unfold delete
  cases found : service.environments.get id with
  | none => exact .refl
  | some slot =>
      dsimp only
      rw [view_goto]
      change SlotView.Steps _ _ _ (SlotView.goto _ _ (ServiceCall.among ..))
      by_cases touched : slot = environment
      · subst touched
        have pending : ServiceCall.among [slot] slot = .pending := if_pos (List.mem_singleton_self _)
        rw [pending]
        refine .single (.pop _ ⟨id, found⟩ ?_)
        change (service.calls thread).role slot = .none
        rw [idle]
        rfl
      · have same : ({ service with environments := service.environments.erase id } :
            SimulatorService).view environment = service.view environment := by
          refine congrArg (fun listed => { service.view environment with listed }) (propext ?_)
          constructor
          · rintro ⟨other, still⟩
            rw [Dict.get_erase] at still
            split at still
            · cases still
            · exact ⟨other, still⟩
          · rintro ⟨other, still⟩
            refine ⟨other, ?_⟩
            rw [Dict.get_erase, if_neg]
            · exact still
            · rintro rfl
              exact touched (Option.some.inj (found.symm.trans still))
        have none_ : ServiceCall.among [slot] environment = .none :=
          if_neg fun mem => touched (List.mem_singleton.mp mem).symm
        rw [same, none_, goto_self]
        · exact .refl
        · change (service.calls thread).role environment = .none
          rw [idle]
          rfl

theorem steps_close (idle : service.calls thread = .idle) (environment : Nat) :
    SlotView.Steps environment thread (service.view environment)
      ((service.close thread).view environment) := by
  have isIdle : (service.view environment).role thread = .none := by
    change (service.calls thread).role environment = .none
    rw [idle]
    rfl
  unfold close
  rw [view_goto]
  change SlotView.Steps _ _ _ (SlotView.goto _ _ (ServiceCall.among ..))
  by_cases listed : (service.view environment).listed
  · have pending : ServiceCall.among service.environments.values environment = .pending :=
      if_pos (Dict.mem_values.mpr listed)
    rw [pending]
    exact .single (.pop _ listed isIdle)
  · have none_ : ServiceCall.among service.environments.values environment = .none :=
      if_neg fun mem => listed (Dict.mem_values.mp mem)
    have same : ({ service with environments := .empty } : SimulatorService).view environment =
        service.view environment := by
      refine congrArg (fun listed => { service.view environment with listed }) (propext ?_)
      exact ⟨fun found => found.elim fun _ => nofun, fun found => absurd found listed⟩
    rw [none_, same, goto_self isIdle]
    exact .refl

/-- The slot that `create` puts into the table. -/
def placedSlot (environment : Nat) (caseId : String) (terminal : Bool) (terminalAt : Option Rat) :
    EnvironmentSlot :=
  { environment := if terminal then none else some environment, caseId, terminal, terminalAt }

/-- The table with a new slot. -/
def insert (service : SimulatorService) (id : String) (number : Nat) (slot : EnvironmentSlot) :
    SimulatorService :=
  { service with
    environments := service.environments.set id number
    slots := Function.update service.slots number (some slot) }

theorem place_eq (number : Nat) (caseId id : String) (terminal : Bool) (now : Nat → Rat) :
    service.place number caseId id terminal now =
      (((service.pruneTerminalEnvironments (now 0)).insert id number
        (placedSlot number caseId terminal (if terminal then some (now 1) else none)))
          ).pruneTerminalEnvironments (now 2) := rfl

theorem view_insert (id : String) (slot : EnvironmentSlot) :
    (service.insert id environment slot).view environment =
      { service.view environment with slot := some slot, listed := True } := by
  have listed : (∃ other, (service.environments.set id environment).get other =
      some environment) = True :=
    eq_true ⟨id, by rw [Dict.get_set, if_pos rfl]⟩
  have at_ : Function.update service.slots environment (some slot) environment = some slot :=
    Function.update_self ..
  change ({ slot := Function.update service.slots environment (some slot) environment
            role := _
            listed := ∃ other, (service.environments.set id environment).get other = some environment
            obtained := _
            log := _ } : SlotView) = _
  rw [listed, at_]
  rfl

theorem view_insert_ne {number : Nat} (differs : number ≠ environment) {id : String}
    (new : service.environments.get id = none) (slot : EnvironmentSlot) :
    (service.insert id number slot).view environment = service.view environment := by
  have listed : (∃ other, (service.environments.set id number).get other = some environment) =
      ∃ other, service.environments.get other = some environment := by
    apply propext
    constructor
    · rintro ⟨other, found⟩
      rw [Dict.get_set] at found
      split at found
      · exact absurd (Option.some.inj found) differs
      · exact ⟨other, found⟩
    · rintro ⟨other, found⟩
      refine ⟨other, ?_⟩
      rw [Dict.get_set, if_neg]
      · exact found
      · rintro rfl
        cases new.symm.trans found
  have at_ : Function.update service.slots number (some slot) environment =
      service.slots environment := Function.update_of_ne differs.symm ..
  change ({ slot := Function.update service.slots number (some slot) environment
            role := _
            listed := ∃ other, (service.environments.set id number).get other = some environment
            obtained := _
            log := _ } : SlotView) = _
  rw [listed, at_]
  rfl

theorem get_prune_none {id : String} (new : service.environments.get id = none) (now : Rat) :
    (service.pruneTerminalEnvironments now).environments.get id = none := by
  cases found : (service.pruneTerminalEnvironments now).environments.get id with
  | none => rfl
  | some number => exact nomatch new.symm.trans (get_of_get_prune found)

theorem popAll_goto (call : ServiceCall) (entries : List (String × Nat)) :
    (service.goto thread call).popAll entries = (service.popAll entries).goto thread call := rfl

theorem terminalIds_goto (call : ServiceCall) :
    (service.goto thread call).terminalIds = service.terminalIds := rfl

theorem prune_goto (call : ServiceCall) (now : Rat) :
    (service.goto thread call).pruneTerminalEnvironments now =
      (service.pruneTerminalEnvironments now).goto thread call := by
  unfold pruneTerminalEnvironments
  dsimp only
  rw [popAll_goto, terminalIds_goto, popAll_goto]
  rfl

theorem steps_place {number : Nat} {caseId id : String} {terminal : Bool}
    (isCall : service.calls thread = .placing number caseId id terminal)
    (new : service.environments.get id = none) (now : Nat → Rat) (environment : Nat) :
    SlotView.Steps environment thread (service.view environment)
      (((service.place number caseId id terminal now).goto thread .idle).view environment) := by
  rw [place_eq, ← prune_goto]
  have first := service.view_prune thread (now 0) environment
  refine ReflTransGen.trans (first.trans ?_) (view_prune thread (now 2) environment)
  rw [view_goto]
  by_cases touched : number = environment
  · subst touched
    rw [view_insert]
    refine .single (.place ?_)
    change (service.calls thread).role number = _
    rw [isCall]
    exact at_self
  · rw [view_insert_ne touched (get_prune_none new _), goto_self]
    change (service.calls thread).role environment = .none
    rw [isCall]
    exact at_ne touched

/-- An environment in a slot whose lock is free has the number of the slot. -/
theorem own {slot : Nat} (sound : (service.view slot).Sound slot) {state : EnvironmentSlot}
    (at_ : service.slots slot = some state) (free : state.lock = none) {number : Nat}
    (some_ : state.environment = some number) : number = slot := by
  rcases sound.phase_free at_ free with ⟨present, -⟩ | gone
  · exact Option.some.inj (some_.symm.trans present.1)
  · exact nomatch gone.1.symm.trans some_

/-- A move at one slot leaves the views of the other environments alone. -/
theorem steps_at (slot : Nat) {after : SimulatorService} (call : ServiceCall)
    (others : ∀ other, other ≠ slot → after.view other = service.view other)
    (same : ∀ other, other ≠ slot → (service.view other).role thread = call.role other)
    (here : SlotView.Steps slot thread (service.view slot)
      ((after.view slot).goto thread (call.role slot))) (environment : Nat) :
    SlotView.Steps environment thread (service.view environment)
      ((after.goto thread call).view environment) := by
  rw [view_goto]
  by_cases touched : environment = slot
  · subst touched
    exact here
  · rw [others environment touched, goto_self]
    · exact .refl
    · exact same environment touched

/-- The role of a thread that stands at one slot, for that slot and for the others. -/
theorem role_at {slot : Nat} {role : SlotRole} {otherwise : Nat → SlotRole}
    (isRole : ∀ other, (service.calls thread).role other =
      ServiceCall.at_ slot other role (otherwise other)) :
    (service.view slot).role thread = role ∧
      ∀ other, other ≠ slot → (service.view other).role thread = otherwise other :=
  ⟨(isRole slot).trans at_self,
    fun other differs => (isRole other).trans (at_ne (Ne.symm differs))⟩

theorem steps_act {slot : Nat} (isCall : service.calls thread = .waiting slot)
    (sound : (service.view slot).Sound slot) (environment : Nat) :
    SlotView.Steps environment thread (service.view environment)
      ((service.act thread slot).view environment) := by
  obtain ⟨here, others⟩ :=
    @role_at service thread slot .waiting (fun _ => .none) (by rw [isCall]; exact fun _ => rfl)
  have leaves := steps_at slot .idle (fun _ _ => rfl) others (.single (.leave here)) environment
  unfold act
  cases at_ : service.slots slot with
  | none => exact .refl
  | some state =>
      dsimp only
      by_cases locked : state.lock ≠ none
      · rw [if_pos locked]
        exact .refl
      · rw [if_neg locked]
        split
        · exact leaves
        · cases some_ : state.environment with
          | none => exact leaves
          | some number =>
              have free := not_not.mp locked
              obtain rfl := own sound at_ free some_
              refine steps_at number (.acting number number) (fun other differs => ?_)
                (fun other differs => ?_) ?_ environment
              · rw [view_note_ne differs, view_modifySlot_ne differs]
              · rw [others other differs]
                exact (at_ne (Ne.symm differs)).symm
              · rw [view_note, view_modifySlot at_]
                change SlotView.Steps _ _ _ (SlotView.goto _ _ (ServiceCall.at_ ..))
                rw [at_self]
                exact .single (.start here at_ free some_)

theorem steps_conclude {slot number : Nat} (isCall : service.calls thread = .acting slot number)
    (isOwn : number = slot) (sound : (service.view slot).Sound slot) (outcome : ActionOutcome)
    (environment : Nat) :
    SlotView.Steps environment thread (service.view environment)
      ((service.conclude thread slot number outcome).view environment) := by
  subst isOwn
  obtain ⟨here, others⟩ :=
    @role_at service thread number .acting (fun _ => .none)
      (by rw [isCall]; exact fun _ => rfl)
  obtain ⟨state, at_⟩ := sound.slot_of_role here nofun rfl
  change service.slots number = some state at at_
  cases outcome with
  | raised =>
      refine steps_at number .idle (fun other differs => ?_) others ?_ environment
      · rw [unlock, view_modifySlot_ne differs]
      · rw [unlock, view_modifySlot at_]
        exact .single (.keep state.terminal here at_ (.inl rfl))
  | continued =>
      have changed : (service.modifySlot number fun state =>
          { state with terminal := false }).slots number = some { state with terminal := false } :=
        (Function.update_self ..).trans (by rw [at_]; rfl)
      refine steps_at number .idle (fun other differs => ?_) others ?_ environment
      · rw [unlock, view_modifySlot_ne differs, view_modifySlot_ne differs]
      · rw [unlock, view_modifySlot changed, view_modifySlot at_]
        exact .single (@SlotView.Step.keep _ _ (service.view number) state false here at_
          (.inr rfl))
  | terminal =>
      refine steps_at number (.ended number number) (fun other differs => ?_)
        (fun other differs => ?_) ?_ environment
      · rw [view_note_ne differs, view_modifySlot_ne differs]
      · rw [others other differs]
        exact (at_ne (Ne.symm differs)).symm
      · rw [view_note, view_modifySlot at_]
        change SlotView.Steps _ _ _ (SlotView.goto _ _ (ServiceCall.at_ ..))
        rw [at_self]
        exact .single (.conclude here at_)

theorem steps_take {slot : Nat} {rest : List Nat}
    (isCall : service.calls thread = .sweeping (slot :: rest)) (environment : Nat) :
    SlotView.Steps environment thread (service.view environment)
      ((service.take thread slot rest).view environment) := by
  have isRole (other : Nat) : (service.view other).role thread =
      ServiceCall.among (slot :: rest) other := by
    change (service.calls thread).role other = _
    rw [isCall]
    rfl
  unfold take
  cases at_ : service.slots slot with
  | none => exact .refl
  | some state =>
      dsimp only
      by_cases locked : state.lock ≠ none
      · rw [if_pos locked]
        exact .refl
      · rw [if_neg locked]
        refine steps_at slot (.taken slot rest) (fun other differs => ?_)
          (fun other differs => ?_) ?_ environment
        · rw [view_note_ne differs, view_modifySlot_ne differs]
        · rw [isRole, among_cons_ne (Ne.symm differs)]
          exact (at_ne (Ne.symm differs)).symm
        · rw [view_note, view_modifySlot at_]
          change SlotView.Steps _ _ _ (SlotView.goto _ _ (ServiceCall.at_ ..))
          rw [at_self]
          exact .single (.take ((isRole slot).trans (if_pos (List.mem_cons_self ..))) at_
            (not_not.mp locked))

theorem steps_sweep {slot : Nat} {rest : List Nat} (isCall : service.calls thread = .taken slot rest)
    (sound : (service.view slot).Sound slot) (environment : Nat) :
    SlotView.Steps environment thread (service.view environment)
      ((service.sweep thread slot rest).view environment) := by
  obtain ⟨here, others⟩ :=
    @role_at service thread slot .taken (ServiceCall.among rest) (by rw [isCall]; exact fun _ => rfl)
  obtain ⟨state, at_⟩ := sound.slot_of_role here nofun rfl
  change service.slots slot = some state at at_
  unfold sweep
  rw [at_, Option.bind_some]
  cases some_ : state.environment with
  | none =>
      refine steps_at slot (.sweeping rest) (fun other differs => ?_) others ?_ environment
      · rw [unlock, view_modifySlot_ne differs]
      · rw [unlock, view_modifySlot at_]
        change SlotView.Steps _ _ _ (SlotView.goto _ _ (ServiceCall.among ..))
        rw [among_eq]
        exact .single (.skip _ here at_ some_)
  | some number =>
      have isOwn : number = slot := by
        rcases sound.phase_of at_ here rfl with ⟨present, -⟩ | gone
        · exact Option.some.inj (some_.symm.trans present.1)
        · exact nomatch gone.1.symm.trans some_
      subst isOwn
      refine steps_at number (.swept number rest) (fun other differs => ?_)
        (fun other differs => ?_) ?_ environment
      · rw [view_note_ne differs]
      · rw [others other differs]
        exact (at_ne (Ne.symm differs)).symm
      · rw [view_note]
        change SlotView.Steps _ _ _ (SlotView.goto _ _ (ServiceCall.at_ ..))
        rw [at_self]
        exact .single (.sweep here at_ some_)

/-- A move at one slot that changes the state of the slot. -/
theorem steps_modify {slot : Nat} (call : ServiceCall) (before after : SlotRole)
    (otherwise : Nat → SlotRole)
    (isBefore : ∀ other, (service.calls thread).role other =
      ServiceCall.at_ slot other before (otherwise other))
    (isAfter : ∀ other, other ≠ slot → call.role other = otherwise other)
    (here_ : call.role slot = after) (busy : before ≠ .none) (notMaking : before.making = false)
    (sound : (service.view slot).Sound slot) (f : EnvironmentSlot → EnvironmentSlot)
    (step : ∀ state, service.slots slot = some state → (service.view slot).role thread = before →
      SlotView.Step slot thread (service.view slot)
        ({ service.view slot with slot := some (f state) }.goto thread after)) (environment : Nat) :
    SlotView.Steps environment thread (service.view environment)
      (((service.modifySlot slot f).goto thread call).view environment) := by
  obtain ⟨here, others⟩ := role_at isBefore
  obtain ⟨state, at_⟩ := sound.slot_of_role here busy notMaking
  refine steps_at slot call (fun other differs => view_modifySlot_ne differs f)
    (fun other differs => (others other differs).trans (isAfter other differs).symm) ?_ environment
  rw [view_modifySlot at_, here_]
  exact .single (step state at_ here)

theorem steps_proceed (coherent : service.Coherent)
    (sound : ∀ environment, (service.view environment).Sound environment)
    (answer : ServiceAnswer) (environment : Nat) :
    SlotView.Steps environment thread (service.view environment)
      ((service.proceed thread answer).view environment) := by
  unfold proceed
  cases isCall : service.calls thread with
  | idle => exact .refl
  | resetting number caseId id =>
      obtain ⟨here, others⟩ := @role_at service thread number .resetting (fun _ => .none)
        (by rw [isCall]; exact fun _ => rfl)
      dsimp only
      split
      · refine steps_at number (.placing number caseId id false) (fun _ _ => rfl)
          (fun other differs => (others other differs).trans (at_ne (Ne.symm differs)).symm) ?_
          environment
        change SlotView.Steps _ _ _ (SlotView.goto _ _ (ServiceCall.at_ ..))
        rw [at_self]
        exact .single (.valid here)
      · refine steps_at number (.refused number caseId id) (fun _ differs => view_note_ne differs _)
          (fun other differs => (others other differs).trans (at_ne (Ne.symm differs)).symm) ?_
          environment
        rw [view_note]
        change SlotView.Steps _ _ _ (SlotView.goto _ _ (ServiceCall.at_ ..))
        rw [at_self]
        exact .single (.invalid here)
  | refused number caseId id =>
      obtain ⟨here, others⟩ := @role_at service thread number .refused (fun _ => .none)
        (by rw [isCall]; exact fun _ => rfl)
      refine steps_at number (.placing number caseId id true)
        (fun _ differs => view_note_ne differs _)
        (fun other differs => (others other differs).trans (at_ne (Ne.symm differs)).symm) ?_
        environment
      rw [view_note]
      change SlotView.Steps _ _ _ (SlotView.goto _ _ (ServiceCall.at_ ..))
      rw [at_self]
      exact .single (.refuse here)
  | placing number caseId id terminal =>
      have new := (coherent.tickets thread id (by rw [isCall]; rfl)).2
      exact steps_place isCall new answer.now environment
  | waiting slot => exact steps_act isCall (sound slot) environment
  | acting slot number =>
      exact steps_conclude isCall (coherent.acting thread slot number isCall) (sound slot)
        answer.outcome environment
  | ended slot number =>
      obtain rfl := coherent.ended thread slot number isCall
      obtain ⟨here, others⟩ := @role_at service thread number .ended (fun _ => .none)
        (by rw [isCall]; exact fun _ => rfl)
      refine steps_at number (.closed number) (fun _ differs => view_note_ne differs _)
        (fun other differs => (others other differs).trans (at_ne (Ne.symm differs)).symm) ?_
        environment
      rw [view_note]
      change SlotView.Steps _ _ _ (SlotView.goto _ _ (ServiceCall.at_ ..))
      rw [at_self]
      exact .single (.close here)
  | closed slot =>
      exact steps_modify (.cleared slot) .closed (.cleared) (fun _ => .none) (by rw [isCall]; exact fun _ => rfl)
        (fun other differs => at_ne (Ne.symm differs)) at_self nofun rfl (sound slot) _
        (fun state at_ here => .clear here at_) environment
  | cleared slot =>
      exact steps_modify (.stamped slot) .cleared (.stamped) (fun _ => .none) (by rw [isCall]; exact fun _ => rfl)
        (fun other differs => at_ne (Ne.symm differs)) at_self nofun rfl (sound slot) _
        (fun state at_ here => .stamp here at_) environment
  | stamped slot =>
      have isStamped : (service.pruneTerminalEnvironments (answer.now 0)).calls thread =
          .stamped slot := isCall
      obtain ⟨here, others⟩ := @role_at (service.pruneTerminalEnvironments (answer.now 0)) thread slot
        .stamped (fun _ => .none) (by rw [isStamped]; exact fun _ => rfl)
      refine (service.view_prune thread (answer.now 0) environment).trans
        (steps_at slot (.pruned slot) (fun _ _ => rfl)
          (fun other differs => (others other differs).trans (at_ne (Ne.symm differs)).symm) ?_
          environment)
      change SlotView.Steps _ _ _ (SlotView.goto _ _ (ServiceCall.at_ ..))
      rw [at_self]
      exact .single (.prune here)
  | pruned slot =>
      exact steps_modify (.idle) .pruned (.none) (fun _ => .none) (by rw [isCall]; exact fun _ => rfl) (fun _ _ => rfl) rfl nofun rfl
        (sound slot) _ (fun state at_ here => .finish here at_) environment
  | sweeping rest =>
      cases rest with
      | nil =>
          dsimp only
          rw [view_goto_same (by rw [isCall]; rfl)]
          exact .refl
      | cons slot rest => exact steps_take isCall environment
  | taken slot rest => exact steps_sweep isCall (sound slot) environment
  | swept slot rest =>
      exact steps_modify (.emptied slot rest) .swept (.emptied) (ServiceCall.among rest) (by rw [isCall]; exact fun _ => rfl)
        (fun other differs => at_ne (Ne.symm differs)) at_self nofun rfl (sound slot) _
        (fun state at_ here => .empty here at_) environment
  | emptied slot rest =>
      exact steps_modify (.sweeping rest) .emptied (_) (ServiceCall.among rest) (by rw [isCall]; exact fun _ => rfl) (fun _ _ => rfl) (among_eq rest slot)
        nofun rfl (sound slot) _ (fun state at_ here => .release _ here at_) environment

theorem steps_advance (coherent : service.Coherent)
    (sound : ∀ environment, (service.view environment).Sound environment) (move : ServiceMove)
    (environment : Nat) :
    SlotView.Steps environment thread (service.view environment)
      ((service.advance thread move).view environment) := by
  cases move with
  | create caseId id =>
      unfold advance
      dsimp only
      split
      · exact steps_create ‹_› caseId id environment
      · exact .refl
  | step id now =>
      unfold advance
      dsimp only
      split
      · exact steps_lookUp ‹_› id now environment
      · exact .refl
  | delete id =>
      unfold advance
      dsimp only
      split
      · exact steps_delete ‹_› id environment
      · exact .refl
  | close =>
      unfold advance
      dsimp only
      split
      · exact steps_close ‹_› environment
      · exact .refl
  | proceed answer => exact steps_proceed coherent sound answer environment

end SimulatorService

end NetOpsBench
