import NetOpsBench.Faults.LinkRecovery
import NetOpsBench.Faults.Transaction
import NetOpsBench.Faults.VerifiedInjection
import NetOpsBench.Utils.InterfaceNames

/-!
# No netem rule without a tracked fault

Runs of the impairment and the route handlers with `recover_all`
(`netopsbench/platform/faults/injector.py`). A command of `tc` may fail, or take effect although it
reports failure; what `tc qdisc show` reports with success is so. In every state that a run reaches,
an interface with a netem rule has a fault in the tracker (`netem_accounted`).
-/

namespace NetOpsBench

open Program InjectionWorld

/-! ## The calls of an injector -/

namespace FaultInjector

variable {δ : Type} (services : HandlerServices δ)

/-- `recover_active_fault` of the specification of a type, if it has one. -/
def recoverActiveFault (fault : HandlerFault) : Injecting δ HandlerRecovery :=
  if fault.type = "mtu_mismatch" then do
    let device ← Program.ofExcept (LinkHandler.requireKey "device" fault.device)
    let interface ← Program.ofExcept (LinkHandler.requireKey "interface" fault.interface)
    ImpairmentHandler.recoverMtuMismatch services device interface fault.metadata.originalMtu
  else if fault.type ∈ ["packet_corruption", "packet_loss", "high_latency"] then do
    let device ← Program.ofExcept (LinkHandler.requireKey "device" fault.device)
    ImpairmentHandler.recoverTcRules services device (fault.interface.getD "Ethernet0")
  else if fault.type = "blackhole_route" then do
    let device ← Program.ofExcept (LinkHandler.requireKey "device" fault.device)
    let targetPrefix ← Program.ofExcept
      (LinkHandler.requireKey "prefix" fault.metadata.targetPrefix)
    StaticRouteHandler.recoverBlackholeRoute services device targetPrefix
  else if fault.type = "static_route_misconfig" then do
    let device ← Program.ofExcept (LinkHandler.requireKey "device" fault.device)
    let targetIp ← Program.ofExcept (LinkHandler.requireKey "target_ip" fault.metadata.targetIp)
    StaticRouteHandler.recoverStaticRouteMisconfig services device targetIp
      fault.metadata.wrongNexthop
  else
    pure { type := some fault.type, recovered := false, error := some "Unknown fault type" }

/-- One turn of the loop of `recover_all`. -/
def recoverTracked (fault : HandlerFault) : Injecting δ HandlerRecovery :=
  tryCatch (recoverActiveFault services fault) fun error =>
    pure { type := some fault.type, recovered := false, error := some error.message }

/-- The loop of `recover_all`: the results, and the faults that remain. -/
def recoverEach : List HandlerFault → Injecting δ (List HandlerRecovery × List HandlerFault)
  | [] => pure ([], [])
  | fault :: faults => do
      let result ← recoverTracked services fault
      let (results, remaining) ← recoverEach faults
      pure (result :: results, if result.recovered = true then remaining else fault :: remaining)

/-- `recover_all` -/
def recoverAll : Injecting δ (List HandlerRecovery) := do
  let world ← get
  let (results, remaining) ← recoverEach services world.tracker.activeFaults
  record fun tracker => { tracker with activeFaults := remaining }
  pure results

/-- The calls of an injector, as far as these handlers serve them. -/
inductive Call : Type where
  | packetCorruption (device interface : String) (corruptionPct : Rat)
  | packetLoss (device interface : String) (lossPct : Rat)
  | highLatency (device interface : String) (latencyMs : Rat)
  | mtuMismatch (device interface : String) (mtu : Int)
  | blackholeRoute (device targetPrefix : String)
  | staticRouteMisconfig (device : String) (targetIp wrongNexthop : Option String)
  | recoverTcRules (device interface : String)
  | recoverMtuMismatch (device interface : String) (originalMtu : Option Int)
  | recoverBlackholeRoute (device targetPrefix : String)
  | recoverStaticRouteMisconfig (device targetIp : String) (wrongNexthop : Option String)
  | recoverAll

def Call.perform (call : Call) : Injecting δ PUnit :=
  match call with
  | .packetCorruption device interface value => do
      let _ ← ImpairmentHandler.injectPacketCorruption services device interface value
  | .packetLoss device interface value => do
      let _ ← ImpairmentHandler.injectPacketLoss services device interface value
  | .highLatency device interface value => do
      let _ ← ImpairmentHandler.injectHighLatency services device interface value
  | .mtuMismatch device interface mtu => do
      let _ ← ImpairmentHandler.injectMtuMismatch services device interface mtu
  | .blackholeRoute device targetPrefix => do
      let _ ← StaticRouteHandler.injectBlackholeRoute services device targetPrefix
  | .staticRouteMisconfig device targetIp wrongNexthop => do
      let _ ← StaticRouteHandler.injectStaticRouteMisconfig services device targetIp wrongNexthop
  | .recoverTcRules device interface => do
      let _ ← ImpairmentHandler.recoverTcRules services device interface
  | .recoverMtuMismatch device interface originalMtu => do
      let _ ← ImpairmentHandler.recoverMtuMismatch services device interface originalMtu
  | .recoverBlackholeRoute device targetPrefix => do
      let _ ← StaticRouteHandler.recoverBlackholeRoute services device targetPrefix
  | .recoverStaticRouteMisconfig device targetIp wrongNexthop => do
      let _ ← StaticRouteHandler.recoverStaticRouteMisconfig services device targetIp wrongNexthop
  | .recoverAll => do
      let _ ← FaultInjector.recoverAll services

/-- The world after a run of calls, whatever they return or raise. -/
def runCalls (calls : List Call) (world : InjectionWorld δ) : InjectionWorld δ :=
  calls.foldl (fun world call => ((call.perform services).outcome world).2) world

end FaultInjector

/-! ## Interfaces with rules -/

/-- The types of netem faults. -/
def netemTypes : List String := ["packet_corruption", "packet_loss", "high_latency"]

/-- The command installs a rule on an interface. -/
def InstallsNetem (args : List String) (linuxIf : String) : Prop :=
  ∃ rest, args = "tc" :: "qdisc" :: "replace" :: "dev" :: linuxIf :: rest

section Runs

variable {δ α β : Type} {services : HandlerServices δ} {carries : δ → String → String → Prop}

/-- Containers whose commands answer, whose `tc qdisc show` tells what is so, and in which only
`tc qdisc replace` installs a netem rule. -/
structure HonestTc (services : HandlerServices δ) (carries : δ → String → String → Prop) :
    Prop where
  answers : ∀ container args lab, ∃ result lab',
    services.shell.exec container args lab = (.ok result, lab')
  shown : ∀ container linuxIf lab result lab',
    services.shell.exec container ["tc", "qdisc", "show", "dev", linuxIf] lab = (.ok result, lab') →
      result.returncode = 0 → carries lab container linuxIf →
        Text.occursIn "netem" (services.lower result.stdout) = true
  kept : ∀ container args lab result lab' other linuxIf,
    services.shell.exec container args lab = (.ok result, lab') →
      ¬ (other = container ∧ InstallsNetem args linuxIf) →
        carries lab' other linuxIf → carries lab other linuxIf

/-- The fault is one of netem on the interface of a container. -/
structure CoversNetem (services : HandlerServices δ) (container linuxIf : String)
    (fault : HandlerFault) : Prop where
  type : fault.type ∈ netemTypes
  interface : fault.interface = some linuxIf
  resolved : services.ctx.resolveLinux linuxIf = linuxIf
  device : ∃ device, fault.device = some device ∧ containerOf services.ctx device = .ok container

/-- The tracker has a fault for an interface. -/
def Covered (services : HandlerServices δ) (world : InjectionWorld δ) (container linuxIf : String) :
    Prop :=
  ∃ fault ∈ world.tracker.activeFaults, CoversNetem services container linuxIf fault

/-- Every interface with a rule is covered. -/
def NetemAccounted (services : HandlerServices δ) (carries : δ → String → String → Prop)
    (world : InjectionWorld δ) : Prop :=
  ∀ container linuxIf, carries world.lab container linuxIf → Covered services world container linuxIf

/-- Every interface with a rule is covered, one interface apart. -/
def AccountedBut (services : HandlerServices δ) (carries : δ → String → String → Prop)
    (container linuxIf : String) (world : InjectionWorld δ) : Prop :=
  ∀ other otherIf, ¬ (other = container ∧ otherIf = linuxIf) → carries world.lab other otherIf →
    Covered services world other otherIf

/-! ## Commands that install nothing -/

/-- However it ends, the program installs no rule. -/
def Quiet (carries : δ → String → String → Prop) (program : Program δ Raised α) : Prop :=
  ∀ lab container linuxIf, carries (program.outcome lab).2 container linuxIf →
    carries lab container linuxIf

namespace Quiet

theorem pure (a : α) : Quiet carries (Pure.pure a : Program δ Raised α) := fun _ _ _ holds => holds

theorem throw (error : Raised) : Quiet carries (throw error : Program δ Raised α) :=
  fun _ _ _ holds => holds

theorem ofExcept (answer : Except Raised α) : Quiet carries (Program.ofExcept answer) := by
  intro lab container linuxIf holds
  rwa [outcome_ofExcept] at holds

theorem bind {program : Program δ Raised α} {rest : α → Program δ Raised β}
    (first : Quiet carries program) (second : ∀ a, Quiet carries (rest a)) :
    Quiet carries (program >>= rest) := by
  intro lab container linuxIf holds
  rcases ended : program.outcome lab with ⟨answer, middle⟩
  have before := first lab container linuxIf
  rw [ended] at before
  cases answer with
  | ok a =>
      rw [outcome_bind_ok ended] at holds
      exact before (second a middle container linuxIf holds)
  | error e =>
      rw [outcome_bind_error ended] at holds
      exact before holds

theorem ite {c : Prop} [Decidable c] {first second : Program δ Raised α}
    (yes : Quiet carries first) (no : Quiet carries second) :
    Quiet carries (if c then first else second) := by
  split
  · exact yes
  · exact no

end Quiet

variable (honest : HonestTc services carries)
include honest

theorem dockerExec_ends (container : String) (args : List String) (lab : δ) :
    ∃ result lab', (dockerExec services.shell container args).outcome lab = (.ok result, lab') ∧
      services.shell.exec container args lab = (.ok result, lab') := by
  obtain ⟨result, lab', ran⟩ := honest.answers container args lab
  exact ⟨result, lab', ran, ran⟩

/-- A command that is not `tc qdisc replace`. -/
theorem dockerExec_quiet (container : String) {args : List String}
    (harmless : ∀ linuxIf, ¬ InstallsNetem args linuxIf) :
    Quiet carries (dockerExec services.shell container args) := by
  intro lab other linuxIf holds
  obtain ⟨result, lab', ended, ran⟩ := dockerExec_ends honest container args lab
  rw [ended] at holds
  exact honest.kept container args lab result lab' other linuxIf ran
    (fun both => harmless linuxIf both.2) holds

theorem vtysh_quiet (device : String) (commands : List String) :
    Quiet carries (vtysh services.shell services.ctx device commands) := by
  refine Quiet.bind (Quiet.ofExcept _) ?_
  intro container
  apply Quiet.bind (dockerExec_quiet honest container (by simp [InstallsNetem]))
  intro result
  apply Quiet.ite
  · apply Quiet.bind (dockerExec_quiet honest container (by simp [InstallsNetem]))
    intro readable
    exact Quiet.ite (Quiet.pure _) (Quiet.pure _)
  · exact Quiet.pure _

theorem portMtus_quiet (container : String) (keys : List String) :
    Quiet carries (InterfaceRuntime.portMtus services.reader services.shell container keys) := by
  induction keys with
  | nil => exact Quiet.pure []
  | cons key keys ih =>
      apply Quiet.bind (dockerExec_quiet honest container (by simp [InstallsNetem]))
      intro result
      apply Quiet.bind ih
      intro values
      exact Quiet.pure _

theorem getCommonPortMtu_quiet (device excludeInterface : String) :
    Quiet carries (InterfaceRuntime.getCommonPortMtu services.reader services.shell services.ctx
      device excludeInterface) := by
  refine Quiet.bind (Quiet.ofExcept _) ?_
  intro container
  apply Quiet.bind (dockerExec_quiet honest container (by simp [InstallsNetem]))
  intro result
  apply Quiet.ite
  · apply Quiet.bind (portMtus_quiet honest container _)
    intro values
    exact Quiet.pure _
  · exact Quiet.pure _

theorem getInterfaceMtu_quiet (device sonicIf : String) :
    Quiet carries (ImpairmentHandler.getInterfaceMtu services device sonicIf) := by
  refine Quiet.bind (Quiet.ofExcept _) ?_
  intro container
  apply Quiet.bind (dockerExec_quiet honest container (by simp [InstallsNetem]))
  intro result
  split
  · exact Quiet.pure _
  · apply Quiet.bind (dockerExec_quiet honest container (by simp [InstallsNetem]))
    intro configured
    split
    · exact Quiet.pure _
    · exact getCommonPortMtu_quiet honest device sonicIf

theorem applyMtu_quiet (device container sonicIf linuxIf : String) (target : Int) :
    Quiet carries
      (ImpairmentHandler.applyMtu services device container sonicIf linuxIf target) := by
  have config : Quiet carries (ImpairmentHandler.configCmd services device
      ["interface", "mtu", sonicIf, toString target]) := by
    refine Quiet.bind (Quiet.ofExcept _) ?_
    intro container
    exact dockerExec_quiet honest container (by simp [InstallsNetem])
  apply Quiet.bind config
  intro result
  apply Quiet.bind (getInterfaceMtu_quiet honest device sonicIf)
  intro effective
  apply Quiet.ite
  · apply Quiet.bind (dockerExec_quiet honest container (by simp [InstallsNetem]))
    intro again
    apply Quiet.bind (getInterfaceMtu_quiet honest device sonicIf)
    intro effective
    exact Quiet.pure _
  · exact Quiet.pure _

theorem resolveRecoveryMtu_quiet (device sonicIf : String) (originalMtu : Option Int) :
    Quiet carries (ImpairmentHandler.resolveRecoveryMtu services device sonicIf originalMtu) := by
  unfold ImpairmentHandler.resolveRecoveryMtu
  split
  · exact Quiet.ite (Quiet.pure _) (getCommonPortMtu_quiet honest device sonicIf)
  · exact getCommonPortMtu_quiet honest device sonicIf

theorem hasNetemQdisc_quiet (container linuxIf : String) :
    Quiet carries (ImpairmentHandler.hasNetemQdisc services container linuxIf) := by
  apply Quiet.bind (dockerExec_quiet honest container (by simp [InstallsNetem]))
  intro result
  exact Quiet.ite (Quiet.pure _) (Quiet.pure _)

theorem removeNetem_quiet (container linuxIf : String) :
    Quiet carries (ImpairmentHandler.removeNetem services container linuxIf) := by
  apply Quiet.bind (dockerExec_quiet honest container (by simp [InstallsNetem]))
  intro rollback
  apply Quiet.ite
  · apply Quiet.bind (hasNetemQdisc_quiet honest container linuxIf)
    intro present
    exact Quiet.pure _
  · exact Quiet.pure _

theorem requireDefaultQdisc_quiet (container linuxIf : String) :
    Quiet carries (ImpairmentHandler.requireDefaultQdisc services container linuxIf) := by
  apply Quiet.bind (dockerExec_quiet honest container (by simp [InstallsNetem]))
  intro result
  apply Quiet.ite
  · exact Quiet.throw _
  · refine Quiet.bind (Quiet.ofExcept _) ?_
    intro kinds
    exact Quiet.ite (Quiet.throw _) (Quiet.pure _)

theorem runningConfig_quiet (device : String) :
    Quiet carries (StaticRouteHandler.runningConfig services device) := by
  apply Quiet.bind (vtysh_quiet honest device _)
  intro result
  exact Quiet.ite (Quiet.pure _) (Quiet.pure _)

theorem operationalRoute_quiet (device target : String) :
    Quiet carries (StaticRouteHandler.operationalRoute services device target) := by
  apply Quiet.bind (vtysh_quiet honest device _)
  intro result
  exact Quiet.ite (Quiet.pure _) (Quiet.pure _)

omit honest in
theorem bothShow_quiet {expected : Bool} {first second : Program δ Raised (Option Bool)}
    (quietFirst : Quiet carries first) (quietSecond : Quiet carries second) :
    Quiet carries (StaticRouteHandler.bothShow expected first second) := by
  apply Quiet.bind quietFirst
  intro configured
  apply Quiet.ite
  · apply Quiet.bind quietSecond
    intro operational
    exact Quiet.pure _
  · exact Quiet.pure _

theorem configureVerified_quiet {device statement : String} {readback : Program δ Raised Bool}
    (quiet : Quiet carries readback) :
    Quiet carries (StaticRouteHandler.configureVerified services device statement readback) := by
  apply Quiet.bind (vtysh_quiet honest device _)
  intro result
  apply Quiet.ite
  · apply Quiet.bind quiet
    intro verified
    exact Quiet.pure _
  · exact Quiet.pure _

theorem runningConfigContains_quiet (device statement : String) :
    Quiet carries (StaticRouteHandler.runningConfigContains services device statement) := by
  apply Quiet.bind (runningConfig_quiet honest device)
  intro config
  exact Quiet.pure _

theorem runningConfigHasRoute_quiet (device target : String) :
    Quiet carries (StaticRouteHandler.runningConfigHasRoute services device target) := by
  apply Quiet.bind (runningConfig_quiet honest device)
  intro config
  exact Quiet.pure _

theorem operationalNexthopPresent_quiet (device target nexthop : String) :
    Quiet carries (StaticRouteHandler.operationalNexthopPresent services device target nexthop) := by
  apply Quiet.bind (operationalRoute_quiet honest device target)
  intro output
  exact Quiet.pure _

theorem blackholeShown_quiet (expected : Bool) (device targetPrefix : String) :
    Quiet carries (StaticRouteHandler.blackholeShown services expected device targetPrefix) := by
  apply bothShow_quiet (runningConfigContains_quiet honest device _)
  apply Quiet.bind (operationalRoute_quiet honest device targetPrefix)
  intro output
  exact Quiet.pure _

theorem requireNoRoute_quiet (device target : String) :
    Quiet carries (StaticRouteHandler.requireNoRoute services device target) := by
  apply Quiet.bind (runningConfigHasRoute_quiet honest device target)
  intro present
  exact Quiet.ite (Quiet.pure _) (Quiet.throw _)

theorem requireNoForwarding_quiet (client : Device) :
    Quiet carries (StaticRouteHandler.requireNoForwarding services client) := by
  refine Quiet.bind (Quiet.ofExcept _) ?_
  intro container
  apply Quiet.bind (dockerExec_quiet honest container (by simp [InstallsNetem]))
  intro forwarding
  exact Quiet.ite (Quiet.throw _) (Quiet.pure _)

end Runs

/-! ## What a call keeps -/

section Keeps

variable {δ α : Type} {services : HandlerServices δ} {carries : δ → String → String → Prop}
  {P : InjectionWorld δ → Prop}

/-- A property that is kept when fewer interfaces have rules, and when no netem fault is lost. -/
structure NetemStable (carries : δ → String → String → Prop) (P : InjectionWorld δ → Prop) : Prop where
  lab : ∀ world lab, (∀ container linuxIf, carries lab container linuxIf →
    carries world.lab container linuxIf) → P world → P { world with lab := lab }
  tracker : ∀ world tracker, (∀ fault ∈ world.tracker.activeFaults, fault.type ∈ netemTypes →
    fault ∈ tracker.activeFaults) → P world → P { world with tracker := tracker }

theorem Covered.tracker {world : InjectionWorld δ} {tracker : FaultTracker HandlerMetadata}
    {container linuxIf : String} (covered : Covered services world container linuxIf)
    (kept : ∀ fault ∈ world.tracker.activeFaults, fault.type ∈ netemTypes →
      fault ∈ tracker.activeFaults) :
    Covered services { world with tracker := tracker } container linuxIf := by
  obtain ⟨fault, mem, covers⟩ := covered
  exact ⟨fault, kept fault mem covers.type, covers⟩

theorem stable_accountedBut (container linuxIf : String) :
    NetemStable carries (AccountedBut services carries container linuxIf) where
  lab _ _ fewer accounted other otherIf apart holds :=
    accounted other otherIf apart (fewer other otherIf holds)
  tracker _ _ kept accounted other otherIf apart holds :=
    (accounted other otherIf apart holds).tracker kept

theorem stable_accounted : NetemStable carries (NetemAccounted services carries) where
  lab _ _ fewer accounted other otherIf holds := accounted other otherIf (fewer other otherIf holds)
  tracker _ _ kept accounted other otherIf holds := (accounted other otherIf holds).tracker kept

/-- No interface has a rule that had none. -/
theorem stable_fewer (lab : δ) : NetemStable carries fun world : InjectionWorld δ =>
    ∀ container linuxIf, carries world.lab container linuxIf → carries lab container linuxIf where
  lab _ _ fewer holds container linuxIf carried :=
    holds container linuxIf (fewer container linuxIf carried)
  tracker _ _ _ holds := holds

variable (stable : NetemStable carries P)
include stable

theorem perform_keeps {commands : Program δ Raised α} (quiet : Quiet carries commands) :
    Keeps (InjectionWorld.perform commands) P := by
  intro world holds
  rw [outcome_perform]
  have after := stable.lab world (commands.outcome world.lab).2 (quiet world.lab) holds
  cases (commands.outcome world.lab).1 with
  | ok a => exact after
  | error e => exact after

theorem record_keeps {f : FaultTracker HandlerMetadata → FaultTracker HandlerMetadata}
    (kept : ∀ tracker : FaultTracker HandlerMetadata, ∀ fault ∈ tracker.activeFaults,
      fault.type ∈ netemTypes → fault ∈ (f tracker).activeFaults) : Keeps (record f) P :=
  Keeps.modify fun world holds => stable.tracker world _ (kept world.tracker) holds

theorem leaveVerified_keeps (fault : HandlerFault) : Keeps (leaveVerified (δ := δ) fault) P := by
  apply Keeps.bind (record_keeps stable ?_)
  · intro _
    exact Keeps.pure fault
  · intro tracker other mem _
    exact List.mem_append_left _ mem

theorem leaveFailed_keeps (fault : HandlerFault) (compensated : Bool) (detail : String) :
    Keeps (leaveFailed (δ := δ) fault compensated detail) P := by
  unfold leaveFailed
  split
  · exact Keeps.pure fault
  · apply Keeps.bind (record_keeps stable ?_)
    · intro _
      exact Keeps.pure _
    · intro tracker other mem _
      exact List.mem_append_left _ mem

/-- A recovery of another type removes no netem fault. -/
theorem removeFaults_keeps (removed : Bool) {owns : HandlerFault → Bool}
    (other : ∀ fault, fault.type ∈ netemTypes → owns fault = false) :
    Keeps (record fun tracker => if removed = true then tracker.removeFaults owns else tracker) P := by
  apply record_keeps stable
  intro tracker fault mem isNetem
  split
  · exact List.mem_filter.mpr ⟨mem, by rw [other fault isNetem]; rfl⟩
  · exact mem

variable (honest : HonestTc services carries)
include honest

theorem injectMtuMismatch_keeps (device interface : String) (mtu : Int) :
    Keeps (ImpairmentHandler.injectMtuMismatch services device interface mtu) P := by
  apply Keeps.bind (Keeps.ofExcept _)
  intro container
  apply Keeps.bind (perform_keeps stable (getInterfaceMtu_quiet honest device _))
  intro original
  apply Keeps.bind (perform_keeps stable (applyMtu_quiet honest device container _ _ mtu))
  intro applied
  dsimp only
  split
  · exact leaveVerified_keeps stable _
  · apply Keeps.bind (perform_keeps stable (applyMtu_quiet honest device container _ _ original))
    intro restored
    exact leaveFailed_keeps stable _ _ _

theorem recoverMtuMismatch_keeps (device interface : String) (originalMtu : Option Int) :
    Keeps (ImpairmentHandler.recoverMtuMismatch services device interface originalMtu) P := by
  apply Keeps.bind (Keeps.ofExcept _)
  intro container
  apply Keeps.bind (perform_keeps stable (resolveRecoveryMtu_quiet honest device _ originalMtu))
  intro target
  apply Keeps.bind (perform_keeps stable (applyMtu_quiet honest device container _ _ target))
  intro applied
  dsimp only
  apply Keeps.bind (removeFaults_keeps stable _ ?_)
  · intro _
    exact Keeps.pure _
  · intro fault isNetem
    apply decide_eq_false
    intro owned
    rw [owned.1] at isNetem
    exact absurd isNetem (by decide)

theorem recoverRoute_keeps {type device statement remained : String}
    {readback : Program δ Raised Bool} {owns : HandlerFault → Bool}
    (quiet : Quiet carries readback)
    (other : ∀ fault, fault.type ∈ netemTypes → owns fault = false) :
    Keeps (StaticRouteHandler.recoverRoute services type device statement readback owns remained)
      P := by
  apply Keeps.bind (perform_keeps stable (configureVerified_quiet honest quiet))
  intro removed
  apply Keeps.bind (removeFaults_keeps stable removed.2 other)
  intro _
  exact Keeps.pure _

theorem recoverBlackholeRoute_keeps (device targetPrefix : String) :
    Keeps (StaticRouteHandler.recoverBlackholeRoute services device targetPrefix) P := by
  apply Keeps.bind (Keeps.ofExcept _)
  intro _
  apply recoverRoute_keeps stable honest (blackholeShown_quiet honest false device targetPrefix)
  intro fault isNetem
  apply decide_eq_false
  intro owned
  rw [owned.1] at isNetem
  exact absurd isNetem (by decide)

theorem recoverStaticRouteMisconfig_keeps (device targetIp : String)
    (wrongNexthop : Option String) :
    Keeps (StaticRouteHandler.recoverStaticRouteMisconfig services device targetIp wrongNexthop)
      P := by
  apply Keeps.bind (Keeps.ofExcept _)
  intro _
  split
  · exact Keeps.throw _
  · apply recoverRoute_keeps stable honest
    · exact bothShow_quiet (runningConfigHasRoute_quiet honest device targetIp)
        (operationalNexthopPresent_quiet honest device targetIp _)
    · intro fault isNetem
      apply decide_eq_false
      intro owned
      rw [owned.1] at isNetem
      exact absurd isNetem (by decide)

theorem injectBlackholeRoute_keeps (device targetPrefix : String) :
    Keeps (StaticRouteHandler.injectBlackholeRoute services device targetPrefix) P := by
  apply Keeps.bind (Keeps.ofExcept _)
  intro _
  apply Keeps.bind (perform_keeps stable (requireNoRoute_quiet honest device targetPrefix))
  intro _
  apply Keeps.bind (perform_keeps stable (configureVerified_quiet honest
    (blackholeShown_quiet honest true device targetPrefix)))
  intro configured
  dsimp only
  split
  · exact leaveVerified_keeps stable _
  · apply Keeps.bind (recoverBlackholeRoute_keeps stable honest device targetPrefix)
    intro rollback
    exact leaveFailed_keeps stable _ _ _

theorem injectStaticRouteMisconfig_keeps (device : String) (targetIp wrongNexthop : Option String) :
    Keeps (StaticRouteHandler.injectStaticRouteMisconfig services device targetIp wrongNexthop)
      P := by
  apply Keeps.bind (Keeps.ofExcept _)
  intro _
  apply Keeps.bind (Keeps.ofExcept _)
  intro resolved
  obtain ⟨target, nexthop, owner⟩ := resolved
  dsimp only
  apply Keeps.bind (perform_keeps stable (requireNoForwarding_quiet honest owner))
  intro _
  apply Keeps.bind (perform_keeps stable (requireNoRoute_quiet honest device target))
  intro _
  apply Keeps.bind (perform_keeps stable (configureVerified_quiet honest (bothShow_quiet
    (runningConfigContains_quiet honest device _)
    (operationalNexthopPresent_quiet honest device target nexthop))))
  intro configured
  split
  · exact leaveVerified_keeps stable _
  · apply Keeps.bind (recoverStaticRouteMisconfig_keeps stable honest device target (some nexthop))
    intro rollback
    exact leaveFailed_keeps stable _ _ _

end Keeps

/-! ## netem rules come and go -/

section Netem

variable {δ : Type} {services : HandlerServices δ} {carries : δ → String → String → Prop}
  {container linuxIf : String} {world : InjectionWorld δ}

/-- What covers the interface that was left out covers all. -/
theorem AccountedBut.covered (accounted : AccountedBut services carries container linuxIf world)
    (covered : Covered services world container linuxIf) : NetemAccounted services carries world := by
  intro other otherIf carried
  by_cases here : other = container ∧ otherIf = linuxIf
  · obtain ⟨rfl, rfl⟩ := here
    exact covered
  · exact accounted other otherIf here carried

/-- An interface without a rule needs no cover. -/
theorem AccountedBut.bare (accounted : AccountedBut services carries container linuxIf world)
    (bare : ¬ carries world.lab container linuxIf) : NetemAccounted services carries world := by
  intro other otherIf carried
  apply accounted other otherIf _ carried
  intro here
  obtain ⟨rfl, rfl⟩ := here
  exact bare carried

variable (honest : HonestTc services carries)
include honest

/-- What is read as gone is gone, and a removal ends. -/
theorem removeNetem_bare (container linuxIf : String) (lab : δ) :
    ∃ removed lab', (ImpairmentHandler.removeNetem services container linuxIf).outcome lab =
        (.ok removed, lab') ∧ (removed.2 = true → ¬ carries lab' container linuxIf) := by
  obtain ⟨rollback, middle, deleted, -⟩ := dockerExec_ends honest container
    ["tc", "qdisc", "del", "dev", linuxIf, "root"] lab
  unfold ImpairmentHandler.removeNetem
  rw [outcome_bind_ok deleted]
  split
  · obtain ⟨shown, last, asked, ran⟩ := dockerExec_ends honest container
      ["tc", "qdisc", "show", "dev", linuxIf] middle
    unfold ImpairmentHandler.hasNetemQdisc
    rw [bind_assoc, outcome_bind_ok asked]
    split
    · exact ⟨(rollback, false), last, rfl, by simp⟩
    · rename_i ok
      refine ⟨_, last, rfl, ?_⟩
      intro gone carried
      have before := honest.kept _ _ _ _ _ container linuxIf ran (by simp [InstallsNetem]) carried
      have seen := honest.shown container linuxIf middle shown last ran (not_not.mp ok) before
      rw [seen] at gone
      exact absurd gone (by simp)
  · exact ⟨(rollback, false), middle, rfl, by simp⟩

/-- An installation changes one interface, and it ends. -/
theorem installNetem_apart (container linuxIf : String) (rule : ImpairmentHandler.NetemRule)
    (value : Rat) (lab : δ) :
    ∃ installed lab', (ImpairmentHandler.installNetem services container linuxIf rule value).outcome
        lab = (.ok installed, lab') ∧ ∀ other otherIf, ¬ (other = container ∧ otherIf = linuxIf) →
          carries lab' other otherIf → carries lab other otherIf := by
  obtain ⟨result, middle, replaced, ran⟩ := dockerExec_ends honest container
    ["tc", "qdisc", "replace", "dev", linuxIf, "root", "netem", rule.impairment,
      services.number value ++ rule.unit] lab
  have kept : ∀ other otherIf, ¬ (other = container ∧ otherIf = linuxIf) →
      carries middle other otherIf → carries lab other otherIf := by
    intro other otherIf apart carried
    apply honest.kept _ _ _ _ _ other otherIf ran _ carried
    intro both
    obtain ⟨same, rest, args⟩ := both
    simp only [List.cons.injEq, true_and] at args
    exact apart ⟨same, args.1.symm⟩
  unfold ImpairmentHandler.installNetem
  rw [outcome_bind_ok replaced]
  split
  · obtain ⟨shown, last, asked, ran'⟩ := dockerExec_ends honest container
      ["tc", "qdisc", "show", "dev", linuxIf] middle
    unfold ImpairmentHandler.qdiscMatches
    rw [bind_assoc, outcome_bind_ok asked]
    refine ⟨_, last, rfl, ?_⟩
    intro other otherIf apart carried
    exact kept other otherIf apart
      (honest.kept _ _ _ _ _ other otherIf ran' (by simp [InstallsNetem]) carried)
  · exact ⟨_, middle, rfl, kept⟩

/-- The names of interfaces are those of `to_linux_interface`. -/
def ResolvesAgain (services : HandlerServices δ) : Prop :=
  ∀ name, services.ctx.resolveLinux (services.ctx.resolveLinux name) =
    services.ctx.resolveLinux name

variable (names : ResolvesAgain services)

omit honest in
theorem leaveFailed_residual (fault : HandlerFault) (detail : String) (world : InjectionWorld δ) :
    ∃ error, (leaveFailed fault false detail).outcome world =
      (.ok { fault with error := some error },
        { world with
          tracker := world.tracker.trackResidual { fault with error := some error } error }) :=
  ⟨_, rfl⟩

/-- The end of a netem injection accounts for its interface. -/
theorem finishNetemInjection_accounts {fault : HandlerFault}
    (covers : ∀ success error residualMutation, CoversNetem services container linuxIf
      { fault with success := success, error := error, residualMutation := residualMutation }) :
    Meets (ImpairmentHandler.finishNetemInjection services container linuxIf fault)
      (AccountedBut services carries container linuxIf)
      (fun _ => NetemAccounted services carries) fun _ => NetemAccounted services carries := by
  unfold ImpairmentHandler.finishNetemInjection
  split
  · intro world accounted
    have kept := leaveVerified_keeps (stable_accountedBut container linuxIf) fault world accounted
    refine AccountedBut.covered kept ⟨fault, ?_, covers _ _ _⟩
    exact List.mem_append_right _ (List.mem_singleton_self fault)
  · intro world accounted
    obtain ⟨removed, lab, ended, gone⟩ := removeNetem_bare honest container linuxIf world.lab
    have performed := outcome_perform
      (ImpairmentHandler.removeNetem services container linuxIf) world
    rw [ended] at performed
    rw [outcome_bind_ok performed]
    have fewer := removeNetem_quiet honest container linuxIf world.lab
    rw [ended] at fewer
    have kept : AccountedBut services carries container linuxIf { world with lab := lab } :=
      (stable_accountedBut container linuxIf).lab world lab fewer accounted
    by_cases compensated : removed.2 = true
    · rw [compensated]
      exact kept.bare (gone compensated)
    · rw [Bool.eq_false_of_not_eq_true compensated]
      obtain ⟨error, left⟩ := leaveFailed_residual fault
        (Text.either removed.1.stderr (Text.either removed.1.stdout "netem compensation failed"))
        { world with lab := lab }
      rw [left]
      refine AccountedBut.covered ((stable_accountedBut container linuxIf).tracker _
        (FaultTracker.trackResidual _ _ _) ?_ kept)
          ⟨{ fault with success := false, error := some error, residualMutation := true }, ?_,
            covers _ _ _⟩
      · intro other mem _
        exact List.mem_append_left _ mem
      · exact List.mem_append_right _ (List.mem_singleton_self _)

include names in
theorem injectNetem_accounts {rule : ImpairmentHandler.NetemRule} (isNetem : rule.type ∈ netemTypes)
    (device interface : String) (value : Rat) :
    Keeps (ImpairmentHandler.injectNetem services rule device interface value)
      (NetemAccounted services carries) := by
  apply Meets.bind (Q := fun container world => NetemAccounted services carries world ∧
    containerOf services.ctx device = .ok container)
  · exact Meets.ofExcept (fun container known world accounted => ⟨accounted, known⟩)
      fun _ _ _ accounted => accounted
  intro container
  apply Meets.bind (Q := fun _ world => NetemAccounted services carries world ∧
    containerOf services.ctx device = .ok container)
  · intro world both
    have kept := perform_keeps stable_accounted (requireDefaultQdisc_quiet honest container
      (services.ctx.resolveLinux interface)) world both.1
    revert kept
    cases ((InjectionWorld.perform (ImpairmentHandler.requireDefaultQdisc services container
      (services.ctx.resolveLinux interface))).outcome world) with
    | mk answer after =>
        cases answer with
        | ok _ => exact fun kept => ⟨kept, both.2⟩
        | error _ => exact id
  intro _
  apply Meets.bind (Q := fun _ world =>
    AccountedBut services carries container (services.ctx.resolveLinux interface) world ∧
      containerOf services.ctx device = .ok container)
  · intro world both
    obtain ⟨installed, lab, ended, apart⟩ := installNetem_apart honest container
      (services.ctx.resolveLinux interface) rule value world.lab
    have performed := outcome_perform (ImpairmentHandler.installNetem services container
      (services.ctx.resolveLinux interface) rule value) world
    rw [ended] at performed
    rw [performed]
    refine ⟨?_, both.2⟩
    intro other otherIf elsewhere carried
    exact both.1 other otherIf (apart other otherIf elsewhere carried)
  intro installed world both
  have covers (success : Bool) (error : Option String) (residualMutation : Bool) :
      CoversNetem services container (services.ctx.resolveLinux interface)
        { ImpairmentHandler.netemFault rule device (services.ctx.resolveLinux interface) value
            installed with
          success := success, error := error, residualMutation := residualMutation } :=
    ⟨isNetem, rfl, names interface, device, rfl, both.2⟩
  exact finishNetemInjection_accounts honest covers world both.1

/-- A recovery removes the faults of an interface that has no rule. -/
theorem recoverTcRules_accounts (device interface : String) :
    Keeps (ImpairmentHandler.recoverTcRules services device interface)
      (NetemAccounted services carries) := by
  apply Meets.bind (Q := fun container world => NetemAccounted services carries world ∧
    containerOf services.ctx device = .ok container)
  · exact Meets.ofExcept (fun container known world accounted => ⟨accounted, known⟩)
      fun _ _ _ accounted => accounted
  intro container world both
  obtain ⟨removed, lab, ended, gone⟩ := removeNetem_bare honest container
    (services.ctx.resolveLinux interface) world.lab
  have performed := outcome_perform (ImpairmentHandler.removeNetem services container
    (services.ctx.resolveLinux interface)) world
  rw [ended] at performed
  dsimp only
  rw [outcome_bind_ok performed]
  have fewer := removeNetem_quiet honest container (services.ctx.resolveLinux interface) world.lab
  rw [ended] at fewer
  have kept := (@stable_accounted _ services carries).lab world lab fewer both.1
  intro other otherIf carried
  obtain ⟨fault, mem, covers⟩ := kept other otherIf carried
  refine ⟨fault, ?_, covers⟩
  change fault ∈ (if removed.2 = true then _ else _ : FaultTracker HandlerMetadata).activeFaults
  split
  · rename_i recovered
    refine List.mem_filter.mpr ⟨mem, ?_⟩
    rw [Bool.not_eq_true', decide_eq_false_iff_not]
    intro owned
    obtain ⟨isDevice, isInterface, -⟩ := owned
    obtain ⟨owner, known, isContainer⟩ := covers.device
    rw [isDevice] at known
    cases Option.some.inj known
    have here := Except.ok.inj (isContainer.symm.trans both.2)
    have there := Option.some.inj (covers.interface.symm.trans isInterface)
    rw [here, there] at carried
    exact gone recovered carried
  · exact mem

/-! ## `recover_all` -/

omit honest in
theorem keeps_fewer {α : Type} {program : Injecting δ α}
    (keeps : ∀ lab, Keeps program fun world : InjectionWorld δ =>
      ∀ container linuxIf, carries world.lab container linuxIf → carries lab container linuxIf)
    (world : InjectionWorld δ) (container linuxIf : String)
    (carried : carries (program.outcome world).2.lab container linuxIf) :
    carries world.lab container linuxIf :=
  (keeps world.lab).outcome (fun _ _ holds => holds) container linuxIf carried

/-- A recovery of netem leaves no new rule, and none on an interface that it reports. -/
theorem recoverTcRules_bare (device interface : String) (world : InjectionWorld δ) :
    (∀ container linuxIf,
      carries ((ImpairmentHandler.recoverTcRules services device interface).outcome
        world).2.lab container linuxIf → carries world.lab container linuxIf) ∧
      ∀ recovery after, (ImpairmentHandler.recoverTcRules services device interface).outcome world =
        (.ok recovery, after) → recovery.recovered = true → ∀ container,
          containerOf services.ctx device = .ok container →
            ¬ carries after.lab container (services.ctx.resolveLinux interface) := by
  cases known : containerOf services.ctx device with
  | error e =>
      have raised : (ImpairmentHandler.recoverTcRules services device interface).outcome world =
          (.error e, world) := by
        unfold ImpairmentHandler.recoverTcRules
        rw [known, outcome_bind_error (outcome_ofExcept _ _)]
      rw [raised]
      exact ⟨fun _ _ carried => carried, fun _ _ ended => by cases ended⟩
  | ok container =>
      obtain ⟨removed, lab, ended, gone⟩ := removeNetem_bare honest container
        (services.ctx.resolveLinux interface) world.lab
      have fewer := removeNetem_quiet honest container (services.ctx.resolveLinux interface) world.lab
      rw [ended] at fewer
      have performed := outcome_perform (ImpairmentHandler.removeNetem services container
        (services.ctx.resolveLinux interface)) world
      rw [ended] at performed
      have returned : ∃ recovery after,
          (ImpairmentHandler.recoverTcRules services device interface).outcome world =
            (.ok recovery, after) ∧ recovery.recovered = removed.2 ∧ after.lab = lab := by
        unfold ImpairmentHandler.recoverTcRules
        rw [known, outcome_bind_ok (outcome_ofExcept _ _)]
        dsimp only
        rw [outcome_bind_ok performed]
        exact ⟨_, _, rfl, rfl, rfl⟩
      obtain ⟨recovery, after, returned, reported, rfl⟩ := returned
      rw [returned]
      refine ⟨fewer, ?_⟩
      intro recovery' after' same recovered container' known'
      cases same
      cases known'
      exact gone (reported ▸ recovered)

/-- A recovery of a tracked fault leaves no new rule, and none that the fault covers when it is
reported. -/
theorem recoverTracked_bare (fault : HandlerFault) (world : InjectionWorld δ) :
    ∃ result after, (FaultInjector.recoverTracked services fault).outcome world =
        (.ok result, after) ∧
      (∀ container linuxIf, carries after.lab container linuxIf →
        carries world.lab container linuxIf) ∧
      (result.recovered = true → ∀ container linuxIf, CoversNetem services container linuxIf fault →
        ¬ carries after.lab container linuxIf) := by
  have body : (∀ container linuxIf,
      carries ((FaultInjector.recoverActiveFault services fault).outcome world).2.lab container
        linuxIf → carries world.lab container linuxIf) ∧
      ∀ result after, (FaultInjector.recoverActiveFault services fault).outcome world =
        (.ok result, after) → result.recovered = true → ∀ container linuxIf,
          CoversNetem services container linuxIf fault → ¬ carries after.lab container linuxIf := by
    have others (apart : fault.type ∉ netemTypes)
        (keeps : ∀ lab, Keeps (FaultInjector.recoverActiveFault services fault)
          fun world : InjectionWorld δ => ∀ container linuxIf,
            carries world.lab container linuxIf → carries lab container linuxIf) :
        (∀ container linuxIf,
          carries ((FaultInjector.recoverActiveFault services fault).outcome world).2.lab container
            linuxIf → carries world.lab container linuxIf) ∧
        ∀ result after, (FaultInjector.recoverActiveFault services fault).outcome world =
          (.ok result, after) → result.recovered = true → ∀ container linuxIf,
            CoversNetem services container linuxIf fault →
              ¬ carries after.lab container linuxIf :=
      ⟨keeps_fewer keeps world, fun _ _ _ _ _ _ covers => absurd covers.type apart⟩
    unfold FaultInjector.recoverActiveFault at others ⊢
    by_cases mtu : fault.type = "mtu_mismatch"
    · rw [if_pos mtu] at others ⊢
      apply others (by rw [mtu]; decide)
      intro lab
      apply Keeps.bind (Keeps.ofExcept _)
      intro device
      apply Keeps.bind (Keeps.ofExcept _)
      intro interface
      exact recoverMtuMismatch_keeps (stable_fewer lab) honest device interface _
    rw [if_neg mtu] at others ⊢
    by_cases netem : fault.type ∈ netemTypes
    · have listed : fault.type ∈ ["packet_corruption", "packet_loss", "high_latency"] := netem
      rw [if_pos listed]
      cases isDevice : fault.device with
      | none => exact ⟨fun _ _ carried => carried, fun _ _ ended => by cases ended⟩
      | some device =>
          obtain ⟨fewer, gone⟩ := recoverTcRules_bare honest device
            (fault.interface.getD "Ethernet0") world
          refine ⟨fewer, ?_⟩
          intro result after ended recovered container linuxIf covers
          obtain ⟨owner, isOwner, known⟩ := covers.device
          rw [isDevice] at isOwner
          cases Option.some.inj isOwner
          have bare := gone result after ended recovered container known
          rw [covers.interface, Option.getD_some, covers.resolved] at bare
          exact bare
    have unlisted : fault.type ∉ ["packet_corruption", "packet_loss", "high_latency"] := netem
    rw [if_neg unlisted] at others ⊢
    by_cases blackhole : fault.type = "blackhole_route"
    · rw [if_pos blackhole] at others ⊢
      apply others netem
      intro lab
      apply Keeps.bind (Keeps.ofExcept _)
      intro device
      apply Keeps.bind (Keeps.ofExcept _)
      intro targetPrefix
      exact recoverBlackholeRoute_keeps (stable_fewer lab) honest device targetPrefix
    rw [if_neg blackhole] at others ⊢
    by_cases misconfig : fault.type = "static_route_misconfig"
    · rw [if_pos misconfig] at others ⊢
      apply others netem
      intro lab
      apply Keeps.bind (Keeps.ofExcept _)
      intro device
      apply Keeps.bind (Keeps.ofExcept _)
      intro targetIp
      exact recoverStaticRouteMisconfig_keeps (stable_fewer lab) honest device targetIp _
    rw [if_neg misconfig] at others ⊢
    exact others netem fun lab => Keeps.pure _
  obtain ⟨fewer, gone⟩ := body
  unfold FaultInjector.recoverTracked
  rw [outcome_tryCatch]
  rcases ended : (FaultInjector.recoverActiveFault services fault).outcome world with ⟨answer, after⟩
  rw [ended] at fewer
  cases answer with
  | ok result => exact ⟨result, after, rfl, fewer, gone result after ended⟩
  | error e => exact ⟨_, after, rfl, fewer, fun recovered => by cases recovered⟩

/-- After the loop, the faults of the interfaces with rules remain. -/
theorem recoverEach_bare (faults : List HandlerFault) (world : InjectionWorld δ) :
    ∃ results remaining after, (FaultInjector.recoverEach services faults).outcome world =
        (.ok (results, remaining), after) ∧
      (∀ container linuxIf, carries after.lab container linuxIf →
        carries world.lab container linuxIf) ∧
      ∀ fault ∈ faults, ∀ container linuxIf, CoversNetem services container linuxIf fault →
        carries after.lab container linuxIf → fault ∈ remaining := by
  induction faults generalizing world with
  | nil => exact ⟨[], [], world, rfl, fun _ _ carried => carried, by simp⟩
  | cons fault faults ih =>
      obtain ⟨result, middle, first, fewer, gone⟩ := recoverTracked_bare honest fault world
      obtain ⟨results, remaining, after, rest, fewer', kept⟩ := ih middle
      refine ⟨result :: results,
        if result.recovered = true then remaining else fault :: remaining, after, ?_, ?_, ?_⟩
      · unfold FaultInjector.recoverEach
        rw [outcome_bind_ok first, outcome_bind_ok rest]
        rfl
      · intro container linuxIf carried
        exact fewer container linuxIf (fewer' container linuxIf carried)
      · intro other mem container linuxIf covers carried
        rcases List.mem_cons.mp mem with rfl | later
        · split
          · rename_i recovered
            exact absurd (fewer' container linuxIf carried)
              (gone recovered container linuxIf covers)
          · exact List.mem_cons_self
        · have remains := kept other later container linuxIf covers carried
          split
          · exact remains
          · exact List.mem_cons_of_mem _ remains

theorem recoverAll_accounts :
    Keeps (FaultInjector.recoverAll services) (NetemAccounted services carries) := by
  intro world accounted
  obtain ⟨results, remaining, after, looped, fewer, kept⟩ :=
    recoverEach_bare honest world.tracker.activeFaults world
  have ended : (FaultInjector.recoverAll services).outcome world =
      (.ok results, { after with tracker := { after.tracker with activeFaults := remaining } }) := by
    unfold FaultInjector.recoverAll
    rw [outcome_bind_ok (outcome_get world), outcome_bind_ok looped]
    rfl
  rw [ended]
  intro container linuxIf carried
  obtain ⟨fault, mem, covers⟩ := accounted container linuxIf (fewer container linuxIf carried)
  exact ⟨fault, kept fault mem container linuxIf covers carried, covers⟩

include names in
/-- One call. -/
theorem call_accounts (call : FaultInjector.Call) :
    Keeps (call.perform services) (NetemAccounted services carries) := by
  cases call with
  | packetCorruption device interface value =>
      exact Keeps.bind (injectNetem_accounts honest names (by decide) device interface value)
        fun _ => Keeps.pure _
  | packetLoss device interface value =>
      exact Keeps.bind (injectNetem_accounts honest names (by decide) device interface value)
        fun _ => Keeps.pure _
  | highLatency device interface value =>
      exact Keeps.bind (injectNetem_accounts honest names (by decide) device interface value)
        fun _ => Keeps.pure _
  | mtuMismatch device interface mtu =>
      exact Keeps.bind (injectMtuMismatch_keeps stable_accounted honest device interface mtu)
        fun _ => Keeps.pure _
  | blackholeRoute device targetPrefix =>
      exact Keeps.bind (injectBlackholeRoute_keeps stable_accounted honest device targetPrefix)
        fun _ => Keeps.pure _
  | staticRouteMisconfig device targetIp wrongNexthop =>
      exact Keeps.bind
        (injectStaticRouteMisconfig_keeps stable_accounted honest device targetIp wrongNexthop)
        fun _ => Keeps.pure _
  | recoverTcRules device interface =>
      exact Keeps.bind (recoverTcRules_accounts honest device interface) fun _ => Keeps.pure _
  | recoverMtuMismatch device interface originalMtu =>
      exact Keeps.bind
        (recoverMtuMismatch_keeps stable_accounted honest device interface originalMtu)
        fun _ => Keeps.pure _
  | recoverBlackholeRoute device targetPrefix =>
      exact Keeps.bind (recoverBlackholeRoute_keeps stable_accounted honest device targetPrefix)
        fun _ => Keeps.pure _
  | recoverStaticRouteMisconfig device targetIp wrongNexthop =>
      exact Keeps.bind
        (recoverStaticRouteMisconfig_keeps stable_accounted honest device targetIp wrongNexthop)
        fun _ => Keeps.pure _
  | recoverAll => exact Keeps.bind (recoverAll_accounts honest) fun _ => Keeps.pure _

end Netem

/-- In every state that a run reaches from a lab without rules, an interface with a netem rule has a
fault in the tracker. -/
theorem netem_accounted {δ : Type} (services : HandlerServices δ)
    (carries : δ → String → String → Prop) (tables : NameTables)
    (names : services.ctx.resolveLinux = fun name => toLinuxInterface tables (some name))
    (honest : HonestTc services carries) (world : InjectionWorld δ)
    (clean : ∀ container linuxIf, ¬ carries world.lab container linuxIf)
    (calls : List FaultInjector.Call) :
    NetemAccounted services carries (FaultInjector.runCalls services calls world) := by
  have again : ResolvesAgain services := by
    intro name
    rw [names]
    exact toLinuxInterface_idempotent name
  have start : NetemAccounted services carries world :=
    fun container linuxIf carried => absurd carried (clean container linuxIf)
  clear clean
  unfold FaultInjector.runCalls
  induction calls generalizing world with
  | nil => exact start
  | cons call calls ih => exact ih _ ((call_accounts honest again call).outcome start)

/-! ## A device that obeys -/

/-- A device whose state is the interfaces with a rule. -/
def obedientTc : Shell (List (String × String)) where
  exec container args rules :=
    match args with
    | ["tc", "qdisc", "show", "dev", linuxIf] =>
        (.ok
          { returncode := 0
            stdout :=
              if rules.any fun rule => decide (rule = (container, linuxIf)) then
                "qdisc netem 8001: root"
              else "qdisc noqueue 0: root" }, rules)
    | ["tc", "qdisc", "del", "dev", linuxIf, "root"] =>
        (.ok { returncode := 0 }, rules.filter fun rule => rule ≠ (container, linuxIf))
    | "tc" :: "qdisc" :: "replace" :: "dev" :: linuxIf :: _ =>
        (.ok { returncode := 0 }, (container, linuxIf) :: rules)
    | _ => (.ok { returncode := 0 }, rules)

def obedientServices : HandlerServices (List (String × String)) where
  shell := obedientTc
  ctx := { smallContext with
    resolveLinux := fun name => toLinuxInterface NameTables.ascii (some name) }
  reader := ⟨fun text => (Text.nonempty text).map fun text => Text.numeralValue text, fun n => by
    have some_ : toString n ≠ "" := by
      intro empty
      have chars := congrArg String.toList empty
      rw [Text.toList_toString] at chars
      exact Nat.toDigits_ne_nil chars
    rw [Text.nonempty, if_neg some_, Option.map_some, Text.numeralValue_toString]⟩
  loadQdiscs _ := .ok []
  lower := Text.lower
  number _ := "30"
  isWord := Char.isAlphanum

theorem obedientServices_honest :
    HonestTc obedientServices fun rules container linuxIf => (container, linuxIf) ∈ rules where
  answers container args rules := by
    change ∃ result rules', obedientTc.exec container args rules = (.ok result, rules')
    unfold obedientTc
    dsimp only
    split <;> exact ⟨_, _, rfl⟩
  shown container linuxIf rules result rules' ran _ carried := by
    have shows_ : obedientServices.shell.exec container ["tc", "qdisc", "show", "dev", linuxIf] rules =
        (.ok
          { returncode := 0
            stdout :=
              if rules.any fun rule => decide (rule = (container, linuxIf)) then
                "qdisc netem 8001: root"
              else "qdisc noqueue 0: root" }, rules) := rfl
    have there : (rules.any fun rule => decide (rule = (container, linuxIf))) = true :=
      List.any_eq_true.mpr ⟨_, carried, decide_eq_true rfl⟩
    rw [shows_, if_pos there] at ran
    cases ran
    rfl
  kept container args rules result rules' other linuxIf ran apart carried := by
    change obedientTc.exec container args rules = _ at ran
    unfold obedientTc at ran
    dsimp only at ran
    split at ran
    · cases ran
      exact carried
    · cases ran
      exact (List.mem_filter.mp carried).1
    · cases ran
      rcases List.mem_cons.mp carried with same | before
      · cases same
        exact absurd ⟨rfl, _, rfl⟩ apart
      · exact before
    · cases ran
      exact carried

/-- Two injections and a recovery. -/
def obedientCalls : List FaultInjector.Call :=
  [.packetLoss "leaf1" "Ethernet0" 30, .highLatency "leaf1" "Ethernet4" 30, .recoverAll]

theorem obedientServices_names : obedientServices.ctx.resolveLinux =
    fun name => toLinuxInterface NameTables.ascii (some name) := by
  simp only [obedientServices]

theorem netem_accounted_obedient :
    NetemAccounted obedientServices (fun rules container linuxIf => (container, linuxIf) ∈ rules)
      (FaultInjector.runCalls obedientServices obedientCalls { lab := [] }) := by
  apply netem_accounted obedientServices (fun rules container linuxIf => (container, linuxIf) ∈ rules)
    NameTables.ascii obedientServices_names obedientServices_honest
  intro container linuxIf mem
  exact List.not_mem_nil mem

end NetOpsBench
