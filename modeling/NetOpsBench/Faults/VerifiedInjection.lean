import NetOpsBench.Faults.StaticRoutes

/-!
# Injections that end verified or tracked

However the commands answer, an injection that returns leaves its fault in place and tracked, or
nothing of it and nothing tracked, or a residual fault in the tracker. What is in place and what is
gone is what the last readback shows. The containers are their answers: any function of the commands
that were run before.
-/

namespace NetOpsBench

open Program InjectionWorld

/-! ## Answers -/

/-- A command that was run, with its answer. -/
structure CommandRun : Type where
  container : String
  args : List String
  result : CommandResult

/-- What the containers answer to a command, after the commands that were run before. -/
abbrev Answers : Type := List CommandRun → String → List String → CommandResult

/-- The containers that give these answers. The lab is what was run in them. -/
def Shell.answering (answers : Answers) : Shell (List CommandRun) where
  exec container args runs :=
    (.ok (answers runs container args), runs ++ [⟨container, args, answers runs container args⟩])

/-- The handlers with the containers that give these answers. -/
def answering (services : HandlerServices (List CommandRun)) (answers : Answers) :
    HandlerServices (List CommandRun) :=
  { services with shell := .answering answers }

@[simp] theorem ctx_answering (services : HandlerServices (List CommandRun)) (answers : Answers) :
    (answering services answers).ctx = services.ctx := rfl

section Ends

variable {δ α : Type}

/-- The last that was done in the lab is a readback, and what it read holds. -/
def ReadsBack (readback : Program δ Raised α) (holds : α → Prop) (lab : δ) : Prop :=
  ∃ earlier value, readback.outcome earlier = (.ok value, lab) ∧ holds value

/-! ## The property -/

/-- The fault is tracked, and nothing else changed. -/
def Tracked (before after : InjectionWorld δ) (fault : HandlerFault) : Prop :=
  after.tracker.activeFaults = before.tracker.activeFaults ++ [fault]

/-- Every fault that is tracked was tracked before. -/
def TracksNothing (before after : InjectionWorld δ) : Prop :=
  after.tracker.activeFaults.Sublist before.tracker.activeFaults

/-- How an injection that returned `fault` left the lab and the tracker. -/
def VerifiedOrTracked (before after : InjectionWorld δ) (fault : HandlerFault)
    (shown restored : δ → Prop) : Prop :=
  ExactlyOne (fault.success = true ∧ Tracked before after fault ∧ shown after.lab)
    (fault.success = false ∧ TracksNothing before after ∧ restored after.lab)
    (fault.success = false ∧ Tracked before after { fault with residualMutation := true })

/-- However the injection returns, it leaves the lab and the tracker so. -/
def InjectsVerifiedOrTracked (injection : Injecting δ HandlerFault) (before : InjectionWorld δ)
    (shown restored : δ → Prop) : Prop :=
  ∀ fault after, injection.outcome before = (.ok fault, after) →
    VerifiedOrTracked before after fault shown restored

namespace VerifiedOrTracked

variable {before after : InjectionWorld δ} {fault : HandlerFault} {shown restored : δ → Prop}

theorem not_untracked_of_tracked {entry : HandlerFault} (tracked : Tracked before after entry) :
    ¬ TracksNothing before after := by
  intro untracked
  have shorter := untracked.length_le
  rw [tracked, List.length_append, List.length_singleton] at shorter
  omega

/-- The readbacks may be weakened. -/
theorem mono {shown' restored' : δ → Prop}
    (property : VerifiedOrTracked before after fault shown restored)
    (isShown : shown after.lab → shown' after.lab)
    (isRestored : restored after.lab → restored' after.lab) :
    VerifiedOrTracked before after fault shown' restored' := by
  obtain ⟨ends, -⟩ := property
  have outside : ∀ entry, Tracked before after entry → ¬ TracksNothing before after :=
    fun entry tracked => not_untracked_of_tracked tracked
  refine ⟨?_, ?_, ?_, ?_⟩
  · rcases ends with ⟨success, tracked, seen⟩ | ⟨failed, untracked, seen⟩ | residual
    · exact .inl ⟨success, tracked, isShown seen⟩
    · exact .inr (.inl ⟨failed, untracked, isRestored seen⟩)
    · exact .inr (.inr residual)
  · intro both
    exact outside _ both.1.2.1 both.2.2.1
  · intro both
    have same := both.1.1.symm.trans both.2.1
    cases same
  · intro both
    exact outside _ both.2.2 both.1.2.1

theorem verified_iff (success : fault.success = true) (tracked : Tracked before after fault) :
    VerifiedOrTracked before after fault shown restored ↔ shown after.lab := by
  simp [VerifiedOrTracked, ExactlyOne, success, tracked]

theorem compensated_iff (failed : fault.success = false) (untracked : TracksNothing before after) :
    VerifiedOrTracked before after fault shown restored ↔ restored after.lab := by
  have unrecorded : ∀ entry, ¬ Tracked before after entry := by
    intro entry tracked
    exact not_untracked_of_tracked tracked untracked
  simp [VerifiedOrTracked, ExactlyOne, failed, untracked, unrecorded]

theorem residual (failed : fault.success = false)
    (tracked : Tracked before after { fault with residualMutation := true }) :
    VerifiedOrTracked before after fault shown restored := by
  have recorded := not_untracked_of_tracked tracked
  have unverified : ¬ fault.success = true := by simp [failed]
  exact ⟨.inr (.inr ⟨failed, tracked⟩), fun both => unverified both.1.1,
    fun both => unverified both.1.1, fun both => recorded both.1.2.1⟩

end VerifiedOrTracked

/-! ## The ends of an injection -/

variable {before world after : InjectionWorld δ} {fault returned : HandlerFault}
  {shown restored : δ → Prop} {compensated : Bool} {detail : String}

/-- A verified injection meets the property when its readback shows the fault. -/
theorem leaveVerified_iff (success : fault.success = true) (kept : world.tracker = before.tracker)
    (ended : (leaveVerified fault).outcome world = (.ok returned, after)) :
    VerifiedOrTracked before after returned shown restored ↔ shown world.lab := by
  have left : (leaveVerified fault).outcome world =
      (.ok fault, { world with tracker := world.tracker.track fault }) := rfl
  rw [left] at ended
  cases ended
  apply VerifiedOrTracked.verified_iff success
  simp [Tracked, kept]

/-- A failed injection meets the property when its compensation is not accepted, or its readback
shows the state before. -/
theorem leaveFailed_iff (failed : fault.success = false)
    (kept : world.tracker.activeFaults.Sublist before.tracker.activeFaults)
    (unchanged : compensated = false → world.tracker = before.tracker)
    (ended : (leaveFailed fault compensated detail).outcome world = (.ok returned, after)) :
    VerifiedOrTracked before after returned shown restored ↔
      (compensated = true → restored world.lab) := by
  cases compensated with
  | true =>
      have left : (leaveFailed fault true detail).outcome world = (.ok fault, world) := rfl
      rw [left] at ended
      cases ended
      rw [VerifiedOrTracked.compensated_iff failed kept]
      simp
  | false =>
      have same := unchanged rfl
      have left : (leaveFailed fault false detail).outcome world =
          (.ok { fault with error := some (joinErrors [fault.error.getD "", detail]) },
            { world with
              tracker := world.tracker.trackResidual
                { fault with error := some (joinErrors [fault.error.getD "", detail]) }
                (joinErrors [fault.error.getD "", detail]) }) := rfl
      generalize joinErrors [fault.error.getD "", detail] = error at left
      have isFailed : { fault with error := some error }.success = false := failed
      rw [left] at ended
      cases ended
      apply iff_of_true
      · apply VerifiedOrTracked.residual isFailed
        simp [Tracked, same, failed]
      · intro is
        cases is

/-- Commands that returned changed the lab only. -/
theorem perform_eq_ok {commands : Program δ Raised α} {a : α}
    (ended : (perform commands).outcome world = (.ok a, after)) :
    commands.outcome world.lab = (.ok a, after.lab) ∧ after.tracker = world.tracker := by
  rw [outcome_perform] at ended
  obtain ⟨answer, left⟩ := Prod.mk.inj ended
  rw [← left]
  exact ⟨Prod.ext answer rfl, rfl⟩

end Ends

/-! ## netem -/

namespace ImpairmentHandler

variable {δ : Type} {services : HandlerServices δ} {container linuxIf : String} {rule : NetemRule}
  {value : Rat} {lab lab' : δ} {before after : InjectionWorld δ} {device interface : String}

/-- The last readback shows the rule. -/
def NetemShown (services : HandlerServices δ) (device interface : String) (rule : NetemRule)
    (value : Rat) (lab : δ) : Prop :=
  ∃ container, containerOf services.ctx device = .ok container ∧
    ReadsBack (qdiscMatches services container (services.ctx.resolveLinux interface)
      rule.impairment value rule.unit) (· = true) lab

/-- The last readback shows no rule. -/
def NetemGone (services : HandlerServices δ) (device interface : String) (lab : δ) : Prop :=
  ∃ container, containerOf services.ctx device = .ok container ∧
    ReadsBack (hasNetemQdisc services container (services.ctx.resolveLinux interface))
      (· = some false) lab

theorem installNetem_readsBack {installed : CommandResult × Bool}
    (ended : (installNetem services container linuxIf rule value).outcome lab =
      (.ok installed, lab')) (observed : installed.2 = true) :
    ReadsBack (qdiscMatches services container linuxIf rule.impairment value rule.unit) (· = true)
      lab' := by
  obtain ⟨result, middle, -, rest⟩ := outcome_bind_eq_ok.mp ended
  split at rest
  · obtain ⟨seen, last, read, rest⟩ := outcome_bind_eq_ok.mp rest
    cases rest
    exact ⟨middle, seen, read, observed⟩
  · cases rest
    cases observed

theorem removeNetem_readsBack {removed : CommandResult × Bool}
    (ended : (removeNetem services container linuxIf).outcome lab = (.ok removed, lab'))
    (gone : removed.2 = true) :
    ReadsBack (hasNetemQdisc services container linuxIf) (· = some false) lab' := by
  obtain ⟨result, middle, -, rest⟩ := outcome_bind_eq_ok.mp ended
  split at rest
  · obtain ⟨seen, last, read, rest⟩ := outcome_bind_eq_ok.mp rest
    cases rest
    exact ⟨middle, seen, read, of_decide_eq_true gone⟩
  · cases rest
    cases gone

theorem injectNetem_verified (services : HandlerServices δ) (rule : NetemRule)
    (device interface : String) (value : Rat) (before : InjectionWorld δ) :
    InjectsVerifiedOrTracked (injectNetem services rule device interface value) before
      (NetemShown services device interface rule value) (NetemGone services device interface) := by
  intro fault after ended
  obtain ⟨container, world, known, ended⟩ := outcome_bind_eq_ok.mp ended
  rw [outcome_ofExcept] at known
  obtain ⟨isContainer, rfl⟩ := Prod.mk.inj known
  obtain ⟨_, guarded, checked, ended⟩ := outcome_bind_eq_ok.mp ended
  obtain ⟨-, keptGuard⟩ := perform_eq_ok checked
  obtain ⟨installed, changed, installs, ended⟩ := outcome_bind_eq_ok.mp ended
  obtain ⟨installs, keptInstall⟩ := perform_eq_ok installs
  have kept : changed.tracker = before.tracker := keptInstall.trans keptGuard
  unfold finishNetemInjection at ended
  split at ended
  · rename_i success
    rw [leaveVerified_iff success kept ended]
    exact ⟨container, isContainer, installNetem_readsBack installs success⟩
  · rename_i failed
    obtain ⟨removed, last, removes, ended⟩ := outcome_bind_eq_ok.mp ended
    obtain ⟨removes, keptLast⟩ := perform_eq_ok removes
    have same := keptLast.trans kept
    rw [leaveFailed_iff (Bool.not_eq_true _ ▸ failed) (same ▸ List.Sublist.refl _) (fun _ => same)
      ended]
    intro gone
    exact ⟨container, isContainer, removeNetem_readsBack removes gone⟩

end ImpairmentHandler

/-! ## Routes -/

namespace StaticRouteHandler

variable {δ : Type} {services : HandlerServices δ} {device statement : String}
  {readback : Program δ Raised Bool} {lab lab' : δ} {before world after : InjectionWorld δ}

theorem configureVerified_readsBack {configured : CommandResult × Bool}
    (ended : (configureVerified services device statement readback).outcome lab =
      (.ok configured, lab')) (verified : configured.2 = true) :
    ReadsBack readback (· = true) lab' := by
  obtain ⟨result, middle, -, rest⟩ := outcome_bind_eq_ok.mp ended
  split at rest
  · obtain ⟨seen, last, read, rest⟩ := outcome_bind_eq_ok.mp rest
    cases rest
    exact ⟨middle, seen, read, verified⟩
  · cases rest
    cases verified

/-- How a recovery that returns leaves the lab and the tracker. -/
theorem recoverRoute_ended {type remained : String} {owns : HandlerFault → Bool}
    {recovery : HandlerRecovery}
    (ended : (recoverRoute services type device statement readback owns remained).outcome world =
      (.ok recovery, after)) :
    after.tracker.activeFaults.Sublist world.tracker.activeFaults ∧
      (recovery.recovered = false → after.tracker = world.tracker) ∧
      (recovery.recovered = true → ReadsBack readback (· = true) after.lab) := by
  obtain ⟨removed, middle, removes, ended⟩ := outcome_bind_eq_ok.mp ended
  obtain ⟨removes, kept⟩ := perform_eq_ok removes
  obtain ⟨_, last, recorded, ended⟩ := outcome_bind_eq_ok.mp ended
  rw [outcome_record] at recorded
  cases recorded
  cases ended
  dsimp only
  rw [← kept]
  split
  · rename_i gone
    refine ⟨List.filter_sublist, ?_, ?_⟩
    · intro failed
      rw [gone] at failed
      cases failed
    · intro _
      exact configureVerified_readsBack removes gone
  · rename_i failed
    exact ⟨List.Sublist.refl _, fun _ => rfl, fun gone => absurd gone failed⟩

/-- An injection that changes a route, reads it back, and recovers. -/
theorem changeRoute_verified (fault : CommandResult × Bool → HandlerFault)
    {recover : Injecting δ HandlerRecovery} {shown restored : Program δ Raised Bool}
    (success : ∀ configured, (fault configured).success = configured.2)
    (recovers : ∀ world recovery after, recover.outcome world = (.ok recovery, after) →
      after.tracker.activeFaults.Sublist world.tracker.activeFaults ∧
        (recovery.recovered = false → after.tracker = world.tracker) ∧
        (recovery.recovered = true → ReadsBack restored (· = true) after.lab))
    (kept : world.tracker = before.tracker) {returned : HandlerFault}
    (ended : (do
      let configured ← perform (configureVerified services device statement shown)
      if (fault configured).success = true then leaveVerified (fault configured)
      else do
        let rollback ← recover
        endFailed (fault configured) rollback : Injecting δ HandlerFault).outcome world =
          (.ok returned, after)) :
    VerifiedOrTracked before after returned (ReadsBack shown (· = true))
      (ReadsBack restored (· = true)) := by
  obtain ⟨configured, changed, changes, ended⟩ := outcome_bind_eq_ok.mp ended
  obtain ⟨changes, keptChange⟩ := perform_eq_ok changes
  have same := keptChange.trans kept
  split at ended
  · rename_i verified
    rw [leaveVerified_iff verified same ended]
    rw [success] at verified
    exact configureVerified_readsBack changes verified
  · rename_i failed
    obtain ⟨rollback, last, rolls, ended⟩ := outcome_bind_eq_ok.mp ended
    obtain ⟨fewer, unchanged, gone⟩ := recovers _ _ _ rolls
    rw [same] at fewer unchanged
    exact (leaveFailed_iff (Bool.not_eq_true _ ▸ failed) fewer unchanged ended).mpr gone

theorem recoverBlackholeRoute_ended {targetPrefix : String} (world : InjectionWorld δ)
    (recovery : HandlerRecovery) (after : InjectionWorld δ)
    (ended : (recoverBlackholeRoute services device targetPrefix).outcome world =
      (.ok recovery, after)) :
    after.tracker.activeFaults.Sublist world.tracker.activeFaults ∧
      (recovery.recovered = false → after.tracker = world.tracker) ∧
      (recovery.recovered = true →
        ReadsBack (blackholeShown services false device targetPrefix) (· = true) after.lab) := by
  obtain ⟨_, middle, known, ended⟩ := outcome_bind_eq_ok.mp ended
  rw [outcome_ofExcept] at known
  obtain ⟨-, rfl⟩ := Prod.mk.inj known
  exact recoverRoute_ended ended

theorem injectBlackholeRoute_verified (services : HandlerServices δ) (device targetPrefix : String)
    (before : InjectionWorld δ) :
    InjectsVerifiedOrTracked (injectBlackholeRoute services device targetPrefix) before
      (ReadsBack (blackholeShown services true device targetPrefix) (· = true))
      (ReadsBack (blackholeShown services false device targetPrefix) (· = true)) := by
  intro fault after ended
  obtain ⟨_, world, known, ended⟩ := outcome_bind_eq_ok.mp ended
  rw [outcome_ofExcept] at known
  obtain ⟨-, rfl⟩ := Prod.mk.inj known
  obtain ⟨_, guarded, checked, ended⟩ := outcome_bind_eq_ok.mp ended
  obtain ⟨-, kept⟩ := perform_eq_ok checked
  exact changeRoute_verified (blackholeFault device targetPrefix) (fun _ => rfl)
    recoverBlackholeRoute_ended kept ended

/-- The readbacks of a wrong route. -/
def misconfigShown (services : HandlerServices δ) (device target nexthop : String) :
    Program δ Raised Bool :=
  bothShow true (runningConfigContains services device ("ip route " ++ target ++ " " ++ nexthop))
    (operationalNexthopPresent services device target nexthop)

def misconfigGone (services : HandlerServices δ) (device target nexthop : String) :
    Program δ Raised Bool :=
  bothShow false (runningConfigHasRoute services device target)
    (operationalNexthopPresent services device target nexthop)

/-- The target and the next hop that an injection works with. -/
def MisconfigReads (services : HandlerServices δ) (device : String)
    (targetIp wrongNexthop : Option String)
    (readback : String → String → Program δ Raised Bool) (lab : δ) : Prop :=
  ∃ target nexthop owner,
    resolveMisconfig services device targetIp wrongNexthop = .ok (target, nexthop, owner) ∧
      ReadsBack (readback target nexthop) (· = true) lab

theorem recoverStaticRouteMisconfig_ended {target nexthop : String} (solid : nexthop ≠ "")
    (world : InjectionWorld δ) (recovery : HandlerRecovery) (after : InjectionWorld δ)
    (ended : (recoverStaticRouteMisconfig services device target (some nexthop)).outcome world =
      (.ok recovery, after)) :
    after.tracker.activeFaults.Sublist world.tracker.activeFaults ∧
      (recovery.recovered = false → after.tracker = world.tracker) ∧
      (recovery.recovered = true →
        ReadsBack (misconfigGone services device target nexthop) (· = true) after.lab) := by
  obtain ⟨_, middle, known, ended⟩ := outcome_bind_eq_ok.mp ended
  rw [outcome_ofExcept] at known
  obtain ⟨-, rfl⟩ := Prod.mk.inj known
  have named : (some nexthop).bind Text.nonempty = some nexthop := if_neg solid
  rw [named] at ended
  exact recoverRoute_ended ended

theorem ne_empty_of_nonempty {text solid : String} (found : Text.nonempty text = some solid) :
    solid ≠ "" := by
  unfold Text.nonempty at found
  split at found
  · cases found
  · rename_i some_
    exact Option.some.inj found ▸ some_

theorem pickReachable_solid {target nexthop : String}
    (picked : pickReachableWrongNexthop services device target = some nexthop) : nexthop ≠ "" := by
  unfold pickReachableWrongNexthop at picked
  dsimp only at picked
  split at picked
  · cases picked
  · obtain ⟨_, -, found⟩ := Option.bind_eq_some_iff.mp picked
    exact ne_empty_of_nonempty found

theorem resolveWrongNexthop_solid {target nexthop : String} {wrongNexthop : Option String}
    (resolved : resolveWrongNexthop services device target wrongNexthop = .ok nexthop) :
    nexthop ≠ "" := by
  have picked (raised : resolveWrongNexthop.orRaise device target
      (pickReachableWrongNexthop services device target) = .ok nexthop) : nexthop ≠ "" := by
    unfold resolveWrongNexthop.orRaise at raised
    split at raised
    · rename_i found
      exact pickReachable_solid (Except.ok.inj raised ▸ found)
    · cases raised
  unfold resolveWrongNexthop at resolved
  split at resolved
  · rename_i asked
    obtain ⟨_, -, found⟩ := Option.bind_eq_some_iff.mp asked
    split at resolved
    · exact Except.ok.inj resolved ▸ ne_empty_of_nonempty found
    · exact picked resolved
  · exact picked resolved

theorem resolveMisconfig_solid {targetIp wrongNexthop : Option String} {target nexthop : String}
    {owner : Device}
    (resolved : resolveMisconfig services device targetIp wrongNexthop =
      .ok (target, nexthop, owner)) : nexthop ≠ "" := by
  unfold resolveMisconfig at resolved
  split at resolved
  · cases resolved
  · obtain ⟨found, isNexthop, resolved⟩ := Fallible.bind_eq_ok.mp resolved
    split at resolved
    · cases resolved
    · cases resolved
      exact resolveWrongNexthop_solid isNexthop

theorem injectStaticRouteMisconfig_verified (services : HandlerServices δ) (device : String)
    (targetIp wrongNexthop : Option String) (before : InjectionWorld δ) :
    InjectsVerifiedOrTracked (injectStaticRouteMisconfig services device targetIp wrongNexthop)
      before (MisconfigReads services device targetIp wrongNexthop (misconfigShown services device))
      (MisconfigReads services device targetIp wrongNexthop (misconfigGone services device)) := by
  intro fault after ended
  obtain ⟨_, world, known, ended⟩ := outcome_bind_eq_ok.mp ended
  rw [outcome_ofExcept] at known
  obtain ⟨-, rfl⟩ := Prod.mk.inj known
  obtain ⟨⟨target, nexthop, owner⟩, world, found, ended⟩ := outcome_bind_eq_ok.mp ended
  rw [outcome_ofExcept] at found
  obtain ⟨resolved, rfl⟩ := Prod.mk.inj found
  obtain ⟨_, idle, forwards, ended⟩ := outcome_bind_eq_ok.mp ended
  obtain ⟨-, keptIdle⟩ := perform_eq_ok forwards
  obtain ⟨_, guarded, checked, ended⟩ := outcome_bind_eq_ok.mp ended
  obtain ⟨-, keptGuard⟩ := perform_eq_ok checked
  have verified := changeRoute_verified (misconfigFault device target nexthop) (fun _ => rfl)
    (recoverStaticRouteMisconfig_ended (resolveMisconfig_solid resolved))
    (keptGuard.trans keptIdle) ended
  exact verified.mono (fun shown => ⟨target, nexthop, owner, resolved, shown⟩)
    fun gone => ⟨target, nexthop, owner, resolved, gone⟩

end StaticRouteHandler

/-- However the containers answer, the netem and the route injections end verified or tracked. -/
theorem injections_verified_or_tracked (services : HandlerServices (List CommandRun))
    (answers : Answers) (before : InjectionWorld (List CommandRun)) (device : String) :
    (∀ interface value,
      InjectsVerifiedOrTracked
          (ImpairmentHandler.injectPacketCorruption (answering services answers) device interface
            value) before
          (ImpairmentHandler.NetemShown (answering services answers) device interface
            ImpairmentHandler.corruptionRule value)
          (ImpairmentHandler.NetemGone (answering services answers) device interface) ∧
        InjectsVerifiedOrTracked
          (ImpairmentHandler.injectPacketLoss (answering services answers) device interface value)
          before
          (ImpairmentHandler.NetemShown (answering services answers) device interface
            ImpairmentHandler.lossRule value)
          (ImpairmentHandler.NetemGone (answering services answers) device interface) ∧
        InjectsVerifiedOrTracked
          (ImpairmentHandler.injectHighLatency (answering services answers) device interface value)
          before
          (ImpairmentHandler.NetemShown (answering services answers) device interface
            ImpairmentHandler.delayRule value)
          (ImpairmentHandler.NetemGone (answering services answers) device interface)) ∧
      (∀ targetPrefix,
        InjectsVerifiedOrTracked
          (StaticRouteHandler.injectBlackholeRoute (answering services answers) device targetPrefix)
          before
          (ReadsBack (StaticRouteHandler.blackholeShown (answering services answers) true device
            targetPrefix) (· = true))
          (ReadsBack (StaticRouteHandler.blackholeShown (answering services answers) false device
            targetPrefix) (· = true))) ∧
      ∀ targetIp wrongNexthop,
        InjectsVerifiedOrTracked
          (StaticRouteHandler.injectStaticRouteMisconfig (answering services answers) device targetIp
            wrongNexthop) before
          (StaticRouteHandler.MisconfigReads (answering services answers) device targetIp wrongNexthop
            (StaticRouteHandler.misconfigShown (answering services answers) device))
          (StaticRouteHandler.MisconfigReads (answering services answers) device targetIp wrongNexthop
            (StaticRouteHandler.misconfigGone (answering services answers) device)) := by
  refine ⟨?_, ?_, ?_⟩
  · intro interface value
    exact ⟨ImpairmentHandler.injectNetem_verified _ _ _ _ _ _,
      ImpairmentHandler.injectNetem_verified _ _ _ _ _ _,
      ImpairmentHandler.injectNetem_verified _ _ _ _ _ _⟩
  · intro targetPrefix
    exact StaticRouteHandler.injectBlackholeRoute_verified _ _ _ _
  · intro targetIp wrongNexthop
    exact StaticRouteHandler.injectStaticRouteMisconfig_verified _ _ _ _ _

end NetOpsBench
