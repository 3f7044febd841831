import NetOpsBench.Simulator.SlotMoves

/-!
# Runs of the simulator service

Every reachable state of the service has sound views, gives each id once, and holds no more
tombstones than it may once those threads have pruned that have made one (`service_slots`).
-/

namespace NetOpsBench

namespace SimulatorService

variable {service : SimulatorService} {thread : Nat}

/-! ## Ids -/

/-- The call is not in the hands of `create`, and no environment acts or has ended for it. -/
def isPlain : ServiceCall → Bool
  | .resetting .. => false
  | .refused .. => false
  | .placing .. => false
  | .acting .. => false
  | .ended .. => false
  | _ => true

namespace Coherent

theorem note (coherent : service.Coherent) (environment : Nat) (event : EnvironmentEvent) :
    (service.note environment event).Coherent :=
  ⟨coherent.keys, coherent.tickets, coherent.apart, coherent.acting, coherent.ended⟩

theorem modifySlot (coherent : service.Coherent) (slot : Nat)
    (f : EnvironmentSlot → EnvironmentSlot) : (service.modifySlot slot f).Coherent :=
  ⟨coherent.keys, coherent.tickets, coherent.apart, coherent.acting, coherent.ended⟩

/-- The table may lose entries. -/
theorem shrink (coherent : service.Coherent) {environments : Dict String Nat}
    (fewer : ∀ id number, environments.get id = some number →
      service.environments.get id = some number) :
    ({ service with environments } : SimulatorService).Coherent := by
  refine ⟨fun id number found => coherent.keys id number (fewer id number found),
    fun thread id isTicket => ?_, coherent.apart, coherent.acting, coherent.ended⟩
  obtain ⟨issued, new⟩ := coherent.tickets thread id isTicket
  refine ⟨issued, ?_⟩
  cases found : environments.get id with
  | none => rfl
  | some number => exact nomatch new.symm.trans (fewer id number found)

theorem popAll (coherent : service.Coherent) (entries : List (String × Nat)) :
    (service.popAll entries).Coherent :=
  coherent.shrink fun _ _ => get_of_get_popAll

theorem prune (coherent : service.Coherent) (now : Rat) :
    (service.pruneTerminalEnvironments now).Coherent :=
  (coherent.popAll _).popAll _

/-- A thread goes on with the id that it has, or without one. -/
theorem goto (coherent : service.Coherent) {call : ServiceCall}
    (keeps : ticket call = none ∨ ticket call = ticket (service.calls thread))
    (acting : ∀ slot number, call = .acting slot number → number = slot)
    (ended : ∀ slot number, call = .ended slot number → number = slot) :
    (service.goto thread call).Coherent := by
  have kept (other : Nat) (id : String)
      (isTicket : ticket (Function.update service.calls thread call other) = some id) :
      ticket (service.calls other) = some id := by
    by_cases same : other = thread
    · subst same
      rw [Function.update_self] at isTicket
      rcases keeps with none | old
      · exact nomatch none.symm.trans isTicket
      · exact old.symm.trans isTicket
    · rw [Function.update_of_ne same] at isTicket
      exact isTicket
  refine ⟨coherent.keys, fun other id isTicket => coherent.tickets other id (kept other id isTicket),
    fun first second id isFirst isSecond =>
      coherent.apart first second id (kept first id isFirst) (kept second id isSecond), ?_, ?_⟩
  · intro other slot number isCall
    by_cases same : other = thread
    · subst same
      exact acting slot number ((Function.update_self ..).symm.trans isCall)
    · exact coherent.acting other slot number ((Function.update_of_ne same ..).symm.trans isCall)
  · intro other slot number isCall
    by_cases same : other = thread
    · subst same
      exact ended slot number ((Function.update_self ..).symm.trans isCall)
    · exact coherent.ended other slot number ((Function.update_of_ne same ..).symm.trans isCall)

/-- A call that has no ticket and holds no environment. -/
theorem stroll (coherent : service.Coherent) {call : ServiceCall} (plain : isPlain call = true) :
    (service.goto thread call).Coherent := by
  apply coherent.goto
  · left
    cases call <;> first | rfl | cases plain
  · rintro slot number rfl
    cases plain
  · rintro slot number rfl
    cases plain

theorem create (coherent : service.Coherent) (idle : service.calls thread = .idle)
    (caseId id : String) : (service.create thread caseId id).Coherent := by
  unfold SimulatorService.create
  split
  · rename_i known
    have new : id ∉ service.issued := known.2
    have ticketOf (other : Nat) (name : String)
        (isTicket : ticket (Function.update service.calls thread
          (.resetting service.obtained caseId id) other) = some name) :
        other = thread ∧ name = id ∨ ticket (service.calls other) = some name := by
      by_cases same : other = thread
      · subst same
        rw [Function.update_self] at isTicket
        exact .inl ⟨rfl, (Option.some.inj isTicket).symm⟩
      · rw [Function.update_of_ne same] at isTicket
        exact .inr isTicket
    refine ⟨fun name number found => List.mem_cons_of_mem _ (coherent.keys name number found),
      fun other name isTicket => ?_, fun first second name isFirst isSecond => ?_, ?_, ?_⟩
    · rcases ticketOf other name isTicket with ⟨rfl, rfl⟩ | old
      · refine ⟨List.mem_cons_self .., ?_⟩
        cases found : service.environments.get name with
        | none => exact found
        | some number => exact absurd (coherent.keys name number found) new
      · obtain ⟨issued, absent⟩ := coherent.tickets other name old
        exact ⟨List.mem_cons_of_mem _ issued, absent⟩
    · rcases ticketOf first name isFirst with ⟨rfl, rfl⟩ | old
      · rcases ticketOf second name isSecond with ⟨rfl, -⟩ | old
        · rfl
        · exact absurd (coherent.tickets second name old).1 new
      · rcases ticketOf second name isSecond with ⟨rfl, rfl⟩ | old'
        · exact absurd (coherent.tickets first name old).1 new
        · exact coherent.apart first second name old old'
    · intro other slot number isCall
      by_cases same : other = thread
      · subst same
        cases (Function.update_self ..).symm.trans isCall
      · exact coherent.acting other slot number ((Function.update_of_ne same ..).symm.trans isCall)
    · intro other slot number isCall
      by_cases same : other = thread
      · subst same
        cases (Function.update_self ..).symm.trans isCall
      · exact coherent.ended other slot number ((Function.update_of_ne same ..).symm.trans isCall)
  · exact coherent

/-- `create` uses its id up. -/
theorem insert (coherent : service.Coherent) {number : Nat} {id : String}
    (isTicket : ticket (service.calls thread) = some id) (slot : EnvironmentSlot) :
    ((service.insert id number slot).goto thread .idle).Coherent := by
  have others (other : Nat) (name : String)
      (isOther : ticket (Function.update service.calls thread .idle other) = some name) :
      other ≠ thread ∧ ticket (service.calls other) = some name := by
    by_cases same : other = thread
    · subst same
      rw [Function.update_self] at isOther
      cases isOther
    · rw [Function.update_of_ne same] at isOther
      exact ⟨same, isOther⟩
  refine ⟨fun name found_ found => ?_, fun other name isOther => ?_,
    fun first second name isFirst isSecond => coherent.apart first second name
      (others first name isFirst).2 (others second name isSecond).2, ?_, ?_⟩
  · change (service.environments.set id number).get name = _ at found
    rw [Dict.get_set] at found
    split at found
    · rename_i same
      rw [same]
      exact (coherent.tickets thread id isTicket).1
    · exact coherent.keys name found_ found
  · obtain ⟨differs, old⟩ := others other name isOther
    obtain ⟨issued, absent⟩ := coherent.tickets other name old
    refine ⟨issued, ?_⟩
    change (service.environments.set id number).get name = none
    rw [Dict.get_set, if_neg]
    · exact absent
    · rintro rfl
      exact differs (coherent.apart other thread name old isTicket)
  · intro other slot number isCall
    by_cases same : other = thread
    · subst same
      cases (Function.update_self ..).symm.trans isCall
    · exact coherent.acting other slot number ((Function.update_of_ne same ..).symm.trans isCall)
  · intro other slot number isCall
    by_cases same : other = thread
    · subst same
      cases (Function.update_self ..).symm.trans isCall
    · exact coherent.ended other slot number ((Function.update_of_ne same ..).symm.trans isCall)

theorem place (coherent : service.Coherent) {number : Nat} {caseId id : String} {terminal : Bool}
    (isCall : service.calls thread = .placing number caseId id terminal) (now : Nat → Rat) :
    ((service.place number caseId id terminal now).goto thread .idle).Coherent := by
  have isTicket : ticket ((service.pruneTerminalEnvironments (now 0)).calls thread) = some id := by
    change ticket (service.calls thread) = some id
    rw [isCall]
    rfl
  rw [place_eq, ← prune_goto]
  exact ((coherent.prune _).insert isTicket _).prune _

theorem proceed (coherent : service.Coherent)
    (sound : ∀ environment, (service.view environment).Sound environment)
    (answer : ServiceAnswer) : (service.proceed thread answer).Coherent := by
  unfold SimulatorService.proceed
  cases isCall : service.calls thread with
  | idle => exact coherent
  | resetting number caseId id =>
      have keeps : ticket (service.calls thread) = some id := by rw [isCall]; rfl
      dsimp only
      split
      · exact coherent.goto (.inr keeps.symm) nofun nofun
      · exact (coherent.note _ _).goto (.inr keeps.symm) nofun nofun
  | refused number caseId id =>
      have keeps : ticket (service.calls thread) = some id := by rw [isCall]; rfl
      exact (coherent.note _ _).goto (.inr keeps.symm) nofun nofun
  | placing number caseId id terminal => exact coherent.place isCall answer.now
  | waiting slot =>
      have leaves : (service.goto thread .idle).Coherent := coherent.stroll rfl
      dsimp only
      unfold act
      cases at_ : service.slots slot with
      | none => exact coherent
      | some state =>
          dsimp only
          by_cases locked : state.lock ≠ none
          · rw [if_pos locked]
            exact coherent
          · rw [if_neg locked]
            split
            · exact leaves
            · cases some_ : state.environment with
              | none => exact leaves
              | some number =>
                  obtain rfl := own (sound slot) at_ (not_not.mp locked) some_
                  refine ((coherent.modifySlot _ _).note _ _).goto (.inl rfl) ?_ nofun
                  rintro _ _ ⟨⟩
                  rfl
  | acting slot number =>
      obtain rfl := coherent.acting thread slot number isCall
      cases answer.outcome with
      | raised => exact (coherent.modifySlot _ _).stroll rfl
      | continued =>
          exact ((coherent.modifySlot _ _).modifySlot _ _).stroll rfl
      | terminal =>
          refine ((coherent.modifySlot _ _).note _ _).goto (.inl rfl) nofun ?_
          rintro _ _ ⟨⟩
          rfl
  | ended slot number => exact (coherent.note _ _).stroll rfl
  | closed slot => exact (coherent.modifySlot _ _).stroll rfl
  | cleared slot => exact (coherent.modifySlot _ _).stroll rfl
  | stamped slot => exact (coherent.prune _).stroll rfl
  | pruned slot => exact (coherent.modifySlot _ _).stroll rfl
  | sweeping rest =>
      cases rest with
      | nil => exact coherent.stroll rfl
      | cons slot rest =>
          dsimp only
          unfold take
          split
          · exact coherent
          · split
            · exact coherent
            · exact ((coherent.modifySlot _ _).note _ _).stroll rfl
  | taken slot rest =>
      dsimp only
      unfold sweep
      split
      · exact (coherent.modifySlot _ _).stroll rfl
      · exact (coherent.note _ _).stroll rfl
  | swept slot rest => exact (coherent.modifySlot _ _).stroll rfl
  | emptied slot rest => exact (coherent.modifySlot _ _).stroll rfl

theorem advance (coherent : service.Coherent)
    (sound : ∀ environment, (service.view environment).Sound environment) (move : ServiceMove) :
    (service.advance thread move).Coherent := by
  cases move with
  | create caseId id =>
      unfold SimulatorService.advance
      dsimp only
      split
      · exact coherent.create ‹_› caseId id
      · exact coherent
  | step id now =>
      unfold SimulatorService.advance lookUp
      dsimp only
      split
      · split
        · exact coherent.prune now
        · exact (coherent.prune now).stroll rfl
      · exact coherent
  | delete id =>
      unfold SimulatorService.advance SimulatorService.delete
      dsimp only
      split
      · split
        · exact coherent
        · refine (coherent.shrink fun name number found => ?_).stroll rfl
          rw [Dict.get_erase] at found
          split at found
          · cases found
          · exact found
      · exact coherent
  | close =>
      unfold SimulatorService.advance SimulatorService.close
      dsimp only
      split
      · have cleared : ({ service with environments := .empty } : SimulatorService).Coherent :=
          coherent.shrink fun _ _ found => absurd found (Option.some_ne_none _).symm
        exact cleared.stroll rfl
      · exact coherent
  | proceed answer => exact coherent.proceed sound answer

end Coherent

/-! ## Tombstones -/

/-- The thread has made a tombstone and is still to prune. -/
def unpruned : ServiceCall → Bool
  | .cleared _ => true
  | .stamped _ => true
  | _ => false

/-- The table does not hold too many tombstones once every thread has pruned. -/
def Bounded (service : SimulatorService) : Prop :=
  (∀ thread, unpruned (service.calls thread) = false) →
    service.tombstones.length ≤ maxTerminalTombstones

theorem mem_popAll {entries : List (String × Nat)} {entry : String × Nat} :
    entry ∈ (service.popAll entries).environments.entries ↔
      entry ∈ service.environments.entries ∧ entry.1 ∉ entries.map Prod.fst := by
  obtain ⟨id, number⟩ := entry
  rw [Dict.mem_entries, get_popAll, Dict.mem_entries]
  by_cases popped : id ∈ entries.map Prod.fst
  · rw [if_pos popped]
    exact ⟨nofun, fun both => absurd popped both.2⟩
  · rw [if_neg popped]
    exact ⟨fun found => ⟨found, popped⟩, And.left⟩

theorem nodup_tombstones (service : SimulatorService) : service.tombstones.Nodup :=
  (List.Nodup.of_map _ service.environments.nodup).filter _

/-- After pruning the table does not hold too many tombstones. -/
theorem length_tombstones_prune (service : SimulatorService) (now : Rat) :
    (service.pruneTerminalEnvironments now).tombstones.length ≤ maxTerminalTombstones := by
  unfold pruneTerminalEnvironments
  dsimp only
  generalize service.popAll
    (service.environments.entries.filter (service.slotTest (EnvironmentSlot.expired now))) = kept
  generalize excess : kept.terminalIds.length - maxTerminalTombstones = n
  have subset : (kept.popAll (kept.terminalIds.take n)).tombstones ⊆ kept.terminalIds.drop n := by
    intro entry mem
    obtain ⟨mem, isTombstone⟩ := List.mem_filter.mp mem
    obtain ⟨isEntry, spared⟩ := mem_popAll.mp mem
    have isId : entry ∈ kept.terminalIds :=
      List.mem_filter.mpr ⟨Sorting.mem_sorted.mpr isEntry, isTombstone⟩
    rw [← List.take_append_drop n kept.terminalIds, List.mem_append] at isId
    rcases isId with dropped | stays
    · exact absurd (List.mem_map_of_mem dropped) spared
    · exact stays
  have short := (List.subperm_of_subset (nodup_tombstones _) subset).length_le
  rw [List.length_drop] at short
  omega

/-- A thread that has pruned, and makes no tombstone, keeps the bound. -/
theorem Bounded.moved {after : SimulatorService} (bounded : service.Bounded) (call : ServiceCall)
    (done : unpruned (service.calls thread) = false) (calls : after.calls = service.calls)
    (fewer : after.tombstones ⊆ service.tombstones) : (after.goto thread call).Bounded := by
  intro pruned
  have before (other : Nat) : unpruned (service.calls other) = false := by
    by_cases same : other = thread
    · rw [same]
      exact done
    · have here := pruned other
      change unpruned (Function.update after.calls thread call other) = false at here
      rw [Function.update_of_ne same, calls] at here
      exact here
  have short := (List.subperm_of_subset (nodup_tombstones after) fewer).length_le
  exact short.trans (bounded before)

theorem tombstones_goto (call : ServiceCall) :
    (service.goto thread call).tombstones = service.tombstones := rfl

/-- A thread that is still to prune may make a tombstone. -/
theorem bounded_of_unpruned {call : ServiceCall} (still : unpruned call = true) :
    (service.goto thread call).Bounded := by
  intro pruned
  have here := pruned thread
  change unpruned (Function.update service.calls thread call thread) = false at here
  rw [Function.update_self, still] at here
  cases here

theorem bounded_prune (now : Rat) : (service.pruneTerminalEnvironments now).Bounded :=
  fun _ => length_tombstones_prune service now

theorem bounded_prune_goto (now : Rat) (call : ServiceCall) :
    ((service.pruneTerminalEnvironments now).goto thread call).Bounded := by
  intro _
  rw [tombstones_goto]
  exact length_tombstones_prune service now

/-- A slot that becomes no tombstone adds none. -/
theorem tombstones_modifySlot {slot : Nat} {f : EnvironmentSlot → EnvironmentSlot}
    (none_ : ∀ state, service.slots slot = some state → (f state).tombstone = true →
      state.tombstone = true) : (service.modifySlot slot f).tombstones ⊆ service.tombstones := by
  intro entry mem
  obtain ⟨isEntry, isTombstone⟩ := List.mem_filter.mp mem
  refine List.mem_filter.mpr ⟨isEntry, ?_⟩
  change (Function.update service.slots slot ((service.slots slot).map f) entry.2).any _ = true
    at isTombstone
  change (service.slots entry.2).any _ = true
  by_cases same : entry.2 = slot
  · rw [same, Function.update_self] at isTombstone
    rw [same]
    cases at_ : service.slots slot with
    | none =>
        rw [at_] at isTombstone
        cases isTombstone
    | some state =>
        rw [at_] at isTombstone
        exact none_ state at_ isTombstone
  · rw [Function.update_of_ne same] at isTombstone
    exact isTombstone

theorem tombstones_unlock (slot : Nat) : (service.unlock slot).tombstones ⊆ service.tombstones :=
  tombstones_modifySlot fun _ _ => id

theorem tombstones_shrink {environments : Dict String Nat}
    (fewer : environments.entries ⊆ service.environments.entries) :
    ({ service with environments } : SimulatorService).tombstones ⊆ service.tombstones := by
  intro entry mem
  obtain ⟨isEntry, isTombstone⟩ := List.mem_filter.mp mem
  exact List.mem_filter.mpr ⟨fewer isEntry, isTombstone⟩

namespace Bounded

theorem conclude (bounded : service.Bounded) {slot number : Nat}
    (isCall : service.calls thread = .acting slot number)
    (sound : (service.view slot).Sound slot) (outcome : ActionOutcome) :
    (service.conclude thread slot number outcome).Bounded := by
  have done : unpruned (service.calls thread) = false := by rw [isCall]; rfl
  cases outcome with
  | raised => exact bounded.moved .idle done rfl (tombstones_unlock slot)
  | continued =>
      refine bounded.moved .idle done rfl (List.Subset.trans (tombstones_unlock slot) ?_)
      exact tombstones_modifySlot fun _ _ => nofun
  | terminal =>
      refine bounded.moved _ done rfl (tombstones_modifySlot fun state at_ gone => ?_)
      -- the environment that acts is in the slot
      have isRole : (service.view slot).role thread = .acting := by
        change (service.calls thread).role slot = _
        rw [isCall]
        exact at_self
      obtain ⟨present, -⟩ := sound.phase_of at_ isRole rfl
      have cleared := (Bool.and_eq_true_iff.mp gone).2
      exact nomatch (Option.isNone_iff_eq_none.mp cleared).symm.trans present.1

theorem proceed (bounded : service.Bounded)
    (sound : ∀ environment, (service.view environment).Sound environment)
    (answer : ServiceAnswer) : (service.proceed thread answer).Bounded := by
  unfold SimulatorService.proceed
  cases isCall : service.calls thread with
  | idle => exact bounded
  | resetting number caseId id =>
      have done : unpruned (service.calls thread) = false := by rw [isCall]; rfl
      dsimp only
      split
      · exact bounded.moved _ done rfl (List.Subset.refl _)
      · exact bounded.moved _ done rfl (List.Subset.refl _)
  | refused number caseId id =>
      exact bounded.moved _ (by rw [isCall]; rfl) rfl (List.Subset.refl _)
  | placing number caseId id terminal =>
      dsimp only
      rw [place_eq]
      exact bounded_prune_goto _ .idle
  | waiting slot =>
      have done : unpruned (service.calls thread) = false := by rw [isCall]; rfl
      have leaves : (service.goto thread .idle).Bounded := bounded.moved _ done rfl (List.Subset.refl _)
      dsimp only
      unfold act
      split
      · exact bounded
      · split
        · exact bounded
        · split
          · exact leaves
          · split
            · exact leaves
            · refine bounded.moved _ done rfl ?_
              exact tombstones_modifySlot fun _ _ => id
  | acting slot number => exact bounded.conclude isCall (sound slot) answer.outcome
  | ended slot number => exact bounded.moved _ (by rw [isCall]; rfl) rfl (List.Subset.refl _)
  | closed slot => exact bounded_of_unpruned rfl
  | cleared slot => exact bounded_of_unpruned rfl
  | stamped slot => exact bounded_prune_goto _ _
  | pruned slot => exact bounded.moved _ (by rw [isCall]; rfl) rfl (tombstones_unlock slot)
  | sweeping rest =>
      have done : unpruned (service.calls thread) = false := by rw [isCall]; rfl
      cases rest with
      | nil => exact bounded.moved _ done rfl (List.Subset.refl _)
      | cons slot rest =>
          dsimp only
          unfold take
          split
          · exact bounded
          · split
            · exact bounded
            · refine bounded.moved _ done rfl ?_
              exact tombstones_modifySlot fun _ _ => id
  | taken slot rest =>
      have done : unpruned (service.calls thread) = false := by rw [isCall]; rfl
      dsimp only
      unfold sweep
      split
      · exact bounded.moved _ done rfl (tombstones_unlock slot)
      · exact bounded.moved _ done rfl (List.Subset.refl _)
  | swept slot rest =>
      refine bounded.moved _ (by rw [isCall]; rfl) rfl (tombstones_modifySlot fun state at_ gone => ?_)
      -- `delete` and `close` empty slots that are not terminal
      have isRole : (service.view slot).role thread = .swept := by
        change (service.calls thread).role slot = _
        rw [isCall]
        exact at_self
      obtain ⟨-, -, running⟩ := (sound slot).phase_of at_ isRole rfl
      exact nomatch running.symm.trans (Bool.and_eq_true_iff.mp gone).1
  | emptied slot rest => exact bounded.moved _ (by rw [isCall]; rfl) rfl (tombstones_unlock slot)

theorem advance (bounded : service.Bounded)
    (sound : ∀ environment, (service.view environment).Sound environment) (move : ServiceMove) :
    (service.advance thread move).Bounded := by
  have idle (isIdle : service.calls thread = .idle) : unpruned (service.calls thread) = false := by
    rw [isIdle]
    rfl
  unfold SimulatorService.advance
  cases move with
  | create caseId id =>
      dsimp only
      split
      · rename_i isIdle
        unfold SimulatorService.create
        split
        · exact bounded.moved _ (idle isIdle) rfl (List.Subset.refl _)
        · exact bounded
      · exact bounded
  | step id now =>
      dsimp only
      split
      · unfold lookUp
        dsimp only
        split
        · exact bounded_prune now
        · exact bounded_prune_goto now _
      · exact bounded
  | delete id =>
      dsimp only
      split
      · rename_i isIdle
        unfold SimulatorService.delete
        split
        · exact bounded
        · refine bounded.moved _ (idle isIdle) rfl (tombstones_shrink ?_)
          exact List.filter_subset_self ..
      · exact bounded
  | close =>
      dsimp only
      split
      · rename_i isIdle
        refine bounded.moved _ (idle isIdle) rfl (tombstones_shrink ?_)
        exact List.nil_subset _
      · exact bounded
  | proceed answer => exact bounded.proceed sound answer

end Bounded

/-! ## Runs -/

/-- What holds between any two moves. -/
structure Invariant (service : SimulatorService) : Prop where
  sound : ∀ environment, (service.view environment).Sound environment
  coherent : service.Coherent
  bounded : service.Bounded

theorem invariant_start (scenarios : List String) :
    ({ scenarios } : SimulatorService).Invariant where
  sound environment := by
    have unknown : ¬ (({ scenarios } : SimulatorService).view environment).obtained :=
      Nat.not_lt_zero environment
    refine ⟨fun _ => ⟨rfl, rfl, fun _ => rfl⟩, fun known => absurd known unknown, fun _ => nofun,
      fun listed => ?_, fun _ => nofun, fun _ => nofun, fun _ => nofun, SlotView.ordered_nil⟩
    obtain ⟨_, found⟩ := listed
    cases found
  coherent := ⟨fun _ _ => nofun, fun _ _ => nofun, fun _ _ _ => nofun, fun _ _ _ => nofun,
    fun _ _ _ => nofun⟩
  bounded _ := Nat.zero_le _

namespace Invariant

theorem advance (invariant : service.Invariant) (thread : Nat) (move : ServiceMove) :
    (service.advance thread move).Invariant where
  sound environment :=
    (steps_advance invariant.coherent invariant.sound move environment).sound
      (invariant.sound environment)
  coherent := invariant.coherent.advance invariant.sound move
  bounded := invariant.bounded.advance invariant.sound move

theorem run (invariant : service.Invariant) (moves : List (Nat × ServiceMove)) :
    (service.run moves).Invariant := by
  unfold SimulatorService.run
  induction moves generalizing service with
  | nil => exact invariant
  | cons move moves ih => exact ih (invariant.advance move.1 move.2)

end Invariant

/-- No call is in progress on an environment. -/
def Quiet (service : SimulatorService) (environment : Nat) : Prop :=
  ∀ thread, (service.calls thread).role environment = .none

/-- A slot of the table refers to an environment. -/
def Referenced (service : SimulatorService) (environment : Nat) : Prop :=
  ∃ id number slot, service.environments.get id = some number ∧
    service.slots number = some slot ∧ slot.environment = some environment

theorem referenced_or_closed {environment : Nat}
    (sound : (service.view environment).Sound environment) (known : environment < service.obtained)
    (quiet : service.Quiet environment) :
    service.Referenced environment ∨ .closed ∈ service.log environment := by
  cases at_ : service.slots environment with
  | none =>
      obtain ⟨thread, making⟩ := sound.made known at_
      change ((service.calls thread).role environment).making = true at making
      rw [quiet thread] at making
      cases making
  | some slot =>
      have free : slot.lock = none := by
        cases locked : slot.lock with
        | none => rfl
        | some thread =>
            have holds := (sound.lock slot at_ thread).mp locked
            change ((service.calls thread).role environment).holds = true at holds
            rw [quiet thread] at holds
            cases holds
      rcases sound.phase_free at_ free with ⟨⟨present, -⟩, -⟩ | ⟨-, once⟩
      · left
        rcases sound.placed slot at_ (by rw [present]; exact nofun) with ⟨id, found⟩ | ⟨thread, sweeps⟩
        · exact ⟨id, environment, slot, found, at_, present⟩
        · change ((service.calls thread).role environment).sweeps = true at sweeps
          rw [quiet thread] at sweeps
          cases sweeps
      · right
        apply List.count_pos_iff.mp
        exact once.symm ▸ Nat.zero_lt_one

end SimulatorService

namespace SlotView

theorem Made.closed_once {log : List EnvironmentEvent} {role : SlotRole} (made : Made log role) :
    log.count .closed ≤ 1 := by
  unfold Made at made
  split at made
  all_goals
    rw [made]
    decide

theorem Phase.closed_once {environment : Nat} {slot : EnvironmentSlot}
    {log : List EnvironmentEvent} {role : SlotRole} (phase : Phase environment slot log role) :
    log.count .closed ≤ 1 := by
  cases role with
  | none =>
      rcases phase with ⟨present, -⟩ | gone
      · exact present.2.le.trans (Nat.zero_le 1)
      · exact gone.2.le
  | acting => exact phase.1.2.le.trans (Nat.zero_le 1)
  | ended => exact phase.2.le.trans (Nat.zero_le 1)
  | taken =>
      rcases phase with ⟨present, -⟩ | gone
      · exact present.2.le.trans (Nat.zero_le 1)
      · exact gone.2.le
  | swept => exact phase.2.1.le
  | closed | cleared | stamped | pruned | emptied => exact phase.2.le
  | resetting | refused | placing | waiting | pending => exact phase.elim

theorem Sound.closed_once {environment : Nat} {view : SlotView} (sound : view.Sound environment) :
    view.log.count .closed ≤ 1 := by
  cases at_ : view.slot with
  | some slot => exact (sound.phase slot at_).closed_once
  | none =>
      by_cases known : view.obtained
      · obtain ⟨thread, making⟩ := sound.made known at_
        exact (sound.making thread making).2.1.closed_once
      · rw [(sound.fresh known).2.1]
        exact Nat.zero_le _

end SlotView

/-- Whatever the threads of the service do, and in whatever order: an environment on which no call
is in progress is in the table or closed, no action starts on one that has ended or been taken, none
is closed twice, pruning spares the slots that have one, and an idle service does not hold too many
tombstones. -/
theorem service_slots (scenarios : List String) (moves : List (Nat × ServiceMove)) :
    let service := ({ scenarios } : SimulatorService).run moves
    (∀ environment < service.obtained, service.Quiet environment →
      service.Referenced environment ∨ .closed ∈ service.log environment) ∧
    (∀ environment before after,
      service.log environment = before ++ EnvironmentEvent.started :: after →
      .ended ∉ before ∧ .taken ∉ before ∧ .closed ∉ before) ∧
    (∀ environment, (service.log environment).count .closed ≤ 1) ∧
    (∀ (pruning : SimulatorService) now id number slot,
      pruning.environments.get id = some number → pruning.slots number = some slot →
      slot.environment ≠ none →
      (pruning.pruneTerminalEnvironments now).environments.get id = some number) ∧
    ((∀ thread, service.calls thread = .idle) →
      service.tombstones.length ≤ maxTerminalTombstones) := by
  intro service
  have invariant : service.Invariant := (SimulatorService.invariant_start scenarios).run moves
  refine ⟨fun environment known quiet => ?_, fun environment before after cut => ?_,
    fun environment => (invariant.sound environment).closed_once, ?_, fun idle => ?_⟩
  · exact SimulatorService.referenced_or_closed (invariant.sound environment) known quiet
  · have clean := (invariant.sound environment).ordered before after cut
    have only (event : EnvironmentEvent) (other : event ≠ .started) : event ∉ before :=
      fun mem => other (clean event mem)
    exact ⟨only .ended nofun, only .taken nofun, only .closed nofun⟩
  · intro pruning now id number slot found at_ some_
    rcases SimulatorService.get_prune now found with kept | ⟨other, isOther, gone⟩
    · exact kept
    · obtain rfl := Option.some.inj (at_.symm.trans isOther)
      have cleared := (Bool.and_eq_true_iff.mp gone).2
      exact absurd (Option.isNone_iff_eq_none.mp cleared) some_
  · apply invariant.bounded
    intro thread
    rw [idle thread]
    rfl

end NetOpsBench
