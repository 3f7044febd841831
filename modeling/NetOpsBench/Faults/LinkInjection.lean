import NetOpsBench.Faults.LinkTransaction

/-!
# The transaction law of the link injections

`inject_link_down` and `inject_link_flapping` on a healthy link: afterwards the link is as
before or tracked, exactly when the script spares it and, for flapping, the intervals of the
controller are positive.
-/

namespace NetOpsBench

open Program LinkHandler Fallible

variable {ctx : FaultRuntimeContext}

/-- A link that is up at both ends, with port names as Linux allows them, and that no tracked
fault is about. -/
structure LinkWorld.Healthy (world : LinkWorld) (target peer : Endpoint ctx) : Prop where
  apart : target.port ≠ peer.port
  targetName : ':' ∉ target.linuxIf.toList
  peerName : ':' ∉ peer.linuxIf.toList
  targetUp : (world.port target.port).adminUp = true
  peerUp : (world.port peer.port).adminUp = true
  untracked : ∀ fault ∈ world.tracker.activeFaults,
    ¬ (fault.device = some target.device ∧ fault.interface = some target.sonicIf)

/-- The routes of an endpoint that an injection owes back. -/
def LinkWorld.clientRoutes (world : LinkWorld) (endpoint : Endpoint ctx) : List Route :=
  if (ctx.manifest.device endpoint.device).map Device.role = some .client then
    (world.port endpoint.port).configured
  else []

/-- Both endpoints are up with the client routes that they had before. -/
def LinkWorld.SameLink (before after : LinkWorld) (target peer : Endpoint ctx) : Prop :=
  (after.port target.port).Holds (before.clientRoutes target) ∧
    (after.port peer.port).Holds (before.clientRoutes peer)

/-- The law: the link is as before, or the tracker holds a fault that names it. -/
def LinkWorld.Accounted (before after : LinkWorld) (type : String) (target peer : Endpoint ctx) :
    Prop :=
  before.SameLink after target peer ∨ ∃ fault ∈ after.tracker.activeFaults,
    fault.type = type ∧ fault.device = some target.device ∧ fault.interface = some target.sonicIf

namespace LinkScript

variable (script : LinkScript) (target peer : Endpoint ctx)

/-- The read of the routes of a client succeeds. -/
def Readable (read : RouteRead) (endpoint : Endpoint ctx) : Prop :=
  (ctx.manifest.device endpoint.device).map Device.role = some .client → read = .shown

/-- The reads before the first change let it begin. -/
structure Begins : Prop where
  healthy : (healthyLinkState (target, peer) script.targetHealth script.peerHealth).2.success =
    true
  targetRoutes : Readable script.targetRoutes target
  peerRoutes : Readable script.peerRoutes peer

/-- The injection begins and its commands and waits spare the link. -/
def Spares (world : LinkWorld) : Prop :=
  script.Begins target peer →
    Spared script.target script.peer (world.clientRoutes target) (world.clientRoutes peer)
      (world.port target.port) (world.port peer.port)

end LinkScript

namespace LinkHandler

variable {script : LinkScript} {target peer : Endpoint ctx} {world : LinkWorld}

/-- The first endpoint is on the device that was asked for. -/
theorem device_of_linkEndpoints {device interface : String}
    (found : linkEndpoints ctx device interface = .ok (target, peer)) : target.device = device := by
  unfold linkEndpoints at found
  split at found
  · cases found
  · rw [bind_eq_ok] at found
    obtain ⟨target', targetFound, rest⟩ := found
    rw [bind_eq_ok] at rest
    obtain ⟨peer', -, both⟩ := rest
    rw [pure_eq_ok, Prod.mk.injEq] at both
    rw [← both.1]
    unfold endpoint at targetFound
    split at targetFound
    · cases targetFound
    · exact congrArg Endpoint.device (Except.ok.inj targetFound).symm

theorem key_ne (healthy : world.Healthy target peer) : target.key ≠ peer.key := by
  intro same
  have lists : target.device.toList ++ ':' :: target.linuxIf.toList =
      peer.device.toList ++ ':' :: peer.linuxIf.toList := by
    have asLists := congrArg String.toList same
    simpa [Endpoint.key, String.toList_append] using asLists
  obtain ⟨devices, interfaces⟩ :=
    Text.append_inj_of_notMem healthy.targetName healthy.peerName lists
  refine healthy.apart ?_
  rw [Endpoint.port, Endpoint.port, String.toList_inj.mp devices, String.toList_inj.mp interfaces]

/-- A snapshot changes nothing, and it succeeds where the routes can be read. -/
theorem snapshotClientRoutes_outcome (read : RouteRead) (endpoint : Endpoint ctx)
    (world : LinkWorld) :
    ∃ answer, (snapshotClientRoutes read endpoint).outcome world = (answer, world) ∧
      (LinkScript.Readable read endpoint → answer = .ok (world.clientRoutes endpoint)) ∧
      (¬ LinkScript.Readable read endpoint → ∃ error, answer = .error error) := by
  unfold snapshotClientRoutes LinkScript.Readable LinkWorld.clientRoutes
  by_cases client : (ctx.manifest.device endpoint.device).map Device.role = some .client
  · rw [if_neg (not_not.mpr client), if_pos client]
    cases read with
    | shown => exact ⟨_, rfl, fun _ => rfl, fun unread => (unread fun _ => rfl).elim⟩
    | failed result nonzero =>
        exact ⟨_, rfl, fun readable => absurd (readable client) nofun, fun _ => ⟨_, rfl⟩⟩
    | invalid message =>
        exact ⟨_, rfl, fun readable => absurd (readable client) nofun, fun _ => ⟨_, rfl⟩⟩
  · rw [if_pos client, if_neg client]
    exact ⟨_, rfl, fun _ => rfl, fun unread => (unread fun is => (client is).elim).elim⟩

theorem snapshotRoutes_outcome (script : LinkScript) (healthy : world.Healthy target peer) :
    ∃ answer, (snapshotRoutes script target peer).outcome world = (answer, world) ∧
      (LinkScript.Readable script.targetRoutes target →
        LinkScript.Readable script.peerRoutes peer → ∃ snapshots, answer = .ok snapshots ∧
          snapshotOf (some snapshots) target = world.clientRoutes target ∧
          snapshotOf (some snapshots) peer = world.clientRoutes peer) ∧
      (¬ (LinkScript.Readable script.targetRoutes target ∧
        LinkScript.Readable script.peerRoutes peer) → ∃ error, answer = .error error) := by
  obtain ⟨targetAnswer, targetDone, targetRead, targetUnread⟩ :=
    snapshotClientRoutes_outcome script.targetRoutes target world
  obtain ⟨peerAnswer, peerDone, peerRead, peerUnread⟩ :=
    snapshotClientRoutes_outcome script.peerRoutes peer world
  unfold snapshotRoutes
  by_cases targetReadable : LinkScript.Readable script.targetRoutes target
  · rw [targetRead targetReadable] at targetDone
    rw [outcome_bind_ok targetDone]
    by_cases peerReadable : LinkScript.Readable script.peerRoutes peer
    · rw [peerRead peerReadable] at peerDone
      rw [outcome_bind_ok peerDone]
      refine ⟨_, rfl, fun _ _ => ⟨_, rfl, ?_, ?_⟩, fun unread =>
        (unread ⟨targetReadable, peerReadable⟩).elim⟩
      · simp [snapshotOf, Dict.ofEntries, Dict.get_set, key_ne healthy]
      · simp [snapshotOf, Dict.ofEntries, Dict.get_set]
    · obtain ⟨error, raised⟩ := peerUnread peerReadable
      rw [raised] at peerDone
      exact ⟨_, outcome_bind_error peerDone, fun _ readable => (peerReadable readable).elim,
        fun _ => ⟨error, rfl⟩⟩
  · obtain ⟨error, raised⟩ := targetUnread targetReadable
    rw [raised] at targetDone
    exact ⟨_, outcome_bind_error targetDone, fun readable => (targetReadable readable).elim,
      fun _ => ⟨error, rfl⟩⟩

theorem holds_clientRoutes {endpoint : Endpoint ctx}
    (up : (world.port endpoint.port).adminUp = true) :
    (world.port endpoint.port).Holds (world.clientRoutes endpoint) := by
  unfold LinkWorld.clientRoutes
  split
  · exact PortState.holds_configured up
  · exact ⟨up, nofun⟩

theorem sameLink_self (healthy : world.Healthy target peer) :
    world.SameLink world target peer :=
  ⟨holds_clientRoutes healthy.targetUp, holds_clientRoutes healthy.peerUp⟩

/-- Without a new entry in the tracker, only the link counts. -/
theorem accounted_of_tracker {type : String} {after : LinkWorld}
    (healthy : world.Healthy target peer) (same : after.tracker = world.tracker) :
    world.Accounted after type target peer ↔ world.SameLink after target peer := by
  refine ⟨?_, .inl⟩
  intro accounted
  rcases accounted with link | ⟨fault, mem, -, device, interface⟩
  · exact link
  · rw [same] at mem
    exact (healthy.untracked fault mem ⟨device, interface⟩).elim

theorem accounted_of_tracked {type : String} {after : LinkWorld} {fault : ActiveFault LinkMetadata}
    (mem : fault ∈ after.tracker.activeFaults) (typeEq : fault.type = type)
    (deviceEq : fault.device = some target.device)
    (interfaceEq : fault.interface = some target.sonicIf) :
    world.Accounted after type target peer :=
  .inr ⟨fault, mem, typeEq, deviceEq, interfaceEq⟩

/-- How a change of a link that has begun ends, in terms of the routes of its clients. -/
structure Changed (script : LinkScript) (target peer : Endpoint ctx) (before after : LinkWorld)
    (result : PhysicalResult) : Prop where
  spares : script.Spares target peer before
  settled : result.success = false → result.residualMutation = false →
    before.SameLink after target peer
  confirmed : result.success = true ↔
    script.target.shutdown.ending false = .confirmed ∧
      script.peer.shutdown.ending false = .confirmed
  down : result.success = true → (after.port target.port).adminUp = false

/-- A change either does not begin, or ends in a result, or a sleep raises. -/
theorem change_outcome {α : Type} (script : LinkScript) (healthy : world.Healthy target peer)
    (up : (healthyLinkState (target, peer) script.targetHealth script.peerHealth).2.success = true)
    (rest : Snapshots → PhysicalResult → Program LinkWorld Raised α) :
    let run := (do
      let snapshots ← snapshotRoutes script target peer
      let result ← setPhysicalLink [(target, script.target), (peer, script.peer)] false
        (some snapshots)
      rest snapshots result : Program LinkWorld Raised α).outcome world
    (¬ script.Begins target peer ∧ run.2 = world) ∨
      script.Begins target peer ∧ ((∃ snapshots result after,
        run = (rest snapshots result).outcome after ∧ after.tracker = world.tracker ∧
          Changed script target peer world after result) ∨
        (run.2.tracker = world.tracker ∧
          ¬ (script.target.shutdown.ending false = .confirmed ∧
            script.peer.shutdown.ending false = .confirmed) ∧
          (script.Spares target peer world ↔ world.SameLink run.2 target peer))) := by
  intro run
  obtain ⟨answer, done, readable, unreadable⟩ := snapshotRoutes_outcome script healthy
  by_cases reads : LinkScript.Readable script.targetRoutes target ∧
      LinkScript.Readable script.peerRoutes peer
  · have begins : script.Begins target peer := ⟨up, reads.1, reads.2⟩
    obtain ⟨snapshots, answerEq, targetRoutes, peerRoutes⟩ := readable reads.1 reads.2
    rw [answerEq] at done
    have settled := settles script.target script.peer (some snapshots) healthy.apart
      (peerRoutes ▸ holds_clientRoutes healthy.peerUp)
    have spared : SparedLink target peer script.target script.peer (some snapshots) world ↔
        script.Spares target peer world := by
      unfold SparedLink LinkScript.Spares
      rw [targetRoutes, peerRoutes]
      exact ⟨fun spared _ => spared, fun spares => spares begins⟩
    have restored : ∀ after, Restored target peer (some snapshots) after ↔
        world.SameLink after target peer := by
      intro after
      rw [Restored, targetRoutes, peerRoutes]
      rfl
    rcases ended : (setPhysicalLink [(target, script.target), (peer, script.peer)] false
      (some snapshots)).outcome world with ⟨answer, after⟩
    rw [ended] at settled
    obtain ⟨tracker, shape⟩ := settled
    refine .inr ⟨begins, ?_⟩
    cases answer with
    | ok result =>
        obtain ⟨spares, settledBack, confirmed, down⟩ := shape
        refine .inl ⟨snapshots, result, after, ?_, tracker, spared.mp spares, ?_, confirmed, down⟩
        · exact (outcome_bind_ok done).trans (outcome_bind_ok ended)
        · intro failure residue
          exact (restored after).mp (settledBack failure residue)
    | error raised =>
        have run_eq : run = (.error raised, after) :=
          (outcome_bind_ok done).trans (outcome_bind_error ended)
        rw [run_eq]
        exact .inr ⟨tracker, shape.1, spared.symm.trans (shape.2.trans (restored after))⟩
  · obtain ⟨error, raised⟩ := unreadable reads
    rw [raised] at done
    refine .inl ⟨fun begins => reads ⟨begins.targetRoutes, begins.peerRoutes⟩, ?_⟩
    exact congrArg Prod.snd (outcome_bind_error done)

/-- `inject_link_down` accounts for a healthy link exactly when its script spares the link. -/
theorem injectLinkDown_accounted {device interface : String}
    (found : linkEndpoints ctx device interface = .ok (target, peer))
    (healthy : world.Healthy target peer) :
    world.Accounted ((injectLinkDown ctx script device interface).outcome world).2 "link_down"
      target peer ↔ script.Spares target peer world := by
  have located : (Program.ofExcept (linkEndpoints ctx device interface) :
      Program LinkWorld Raised (Endpoint ctx × Endpoint ctx)).outcome world =
      (.ok (target, peer), world) := by
    rw [outcome_ofExcept, found]
  unfold injectLinkDown
  rw [outcome_bind_ok located]
  dsimp only
  by_cases up : (healthyLinkState (target, peer) script.targetHealth script.peerHealth).2.success =
    true
  · rw [if_pos up]
    rcases change_outcome script healthy up _ with ⟨still, same⟩ | ⟨begins, changed | raised⟩
    · rw [same]
      exact ⟨fun _ begins => (still begins).elim, fun _ => .inl (sameLink_self healthy)⟩
    · obtain ⟨snapshots, result, after, ended, tracker, changed⟩ := changed
      rw [ended]
      refine ⟨fun _ => changed.spares, fun _ => ?_⟩
      have deviceEq := device_of_linkEndpoints found
      by_cases success : result.success = true
      · rw [if_pos success]
        refine accounted_of_tracked (List.mem_append_right _ (List.mem_singleton_self _)) rfl ?_ rfl
        rw [deviceEq]
      · rw [if_neg success]
        by_cases residue : result.residualMutation = true
        · rw [if_pos residue]
          refine accounted_of_tracked (List.mem_append_right _ (List.mem_singleton_self _)) rfl ?_
            rfl
          rw [deviceEq]
        · rw [if_neg residue]
          exact .inl (changed.settled (by simpa using success) (by simpa using residue))
    · exact (accounted_of_tracker healthy raised.1).trans raised.2.2.symm
  · rw [if_neg up]
    have vacuous : script.Spares target peer world := fun begins => (up begins.healthy).elim
    exact ⟨fun _ => vacuous, fun _ => .inl (sameLink_self healthy)⟩

/-- `inject_link_flapping` accounts for a healthy link exactly when its script spares the link
and the controller that a link taken down is handed to can be built. -/
theorem injectLinkFlapping_accounted {device interface : String} {downTime upTime : Option Int}
    (found : linkEndpoints ctx device interface = .ok (target, peer))
    (healthy : world.Healthy target peer) :
    world.Accounted ((injectLinkFlapping ctx script device interface downTime upTime).outcome
        world).2 "link_flapping" target peer ↔
      script.Spares target peer world ∧
        (script.Begins target peer → script.target.shutdown.ending false = .confirmed →
          script.peer.shutdown.ending false = .confirmed →
          0 < downTime.getD ctx.flappingDownSeconds ∧ 0 < upTime.getD ctx.flappingUpSeconds) := by
  have located : (Program.ofExcept (linkEndpoints ctx device interface) :
      Program LinkWorld Raised (Endpoint ctx × Endpoint ctx)).outcome world =
      (.ok (target, peer), world) := by
    rw [outcome_ofExcept, found]
  unfold injectLinkFlapping
  dsimp only
  rw [outcome_bind_ok located]
  dsimp only
  by_cases up : (healthyLinkState (target, peer) script.targetHealth script.peerHealth).2.success =
    true
  · rw [if_pos up]
    rcases change_outcome script healthy up _ with ⟨still, same⟩ | ⟨begins, changed | raised⟩
    · rw [same]
      exact ⟨fun _ => ⟨fun begins => (still begins).elim, fun begins => (still begins).elim⟩,
        fun _ => .inl (sameLink_self healthy)⟩
    · obtain ⟨snapshots, result, after, ended, tracker, changed⟩ := changed
      rw [ended]
      have deviceEq := device_of_linkEndpoints found
      by_cases success : result.success = true
      · rw [if_pos success]
        by_cases positive : min (downTime.getD ctx.flappingDownSeconds)
            (upTime.getD ctx.flappingUpSeconds) ≤ 0
        · -- the controller is refused when the link is already down
          have refused : (Program.ofExcept (periodicController
              (downTime.getD ctx.flappingDownSeconds) (upTime.getD ctx.flappingUpSeconds)) :
              Program LinkWorld Raised BackgroundControl).outcome after =
              (.error (.valueError "Periodic fault intervals must be positive"), after) := by
            rw [outcome_ofExcept, periodicController, if_pos positive]
          rw [outcome_bind_error refused, accounted_of_tracker healthy tracker]
          refine ⟨?_, ?_⟩
          · intro same
            have still := same.1.1
            rw [changed.down success] at still
            cases still
          · intro both
            have above := both.2 begins (changed.confirmed.mp success).1
              (changed.confirmed.mp success).2
            omega
        · have built : (Program.ofExcept (periodicController
              (downTime.getD ctx.flappingDownSeconds) (upTime.getD ctx.flappingUpSeconds)) :
              Program LinkWorld Raised BackgroundControl).outcome after =
              (.ok ⟨false, downTime.getD ctx.flappingDownSeconds,
                upTime.getD ctx.flappingUpSeconds⟩, after) := by
            rw [outcome_ofExcept, periodicController, if_neg positive]
          rw [outcome_bind_ok built]
          refine ⟨fun _ => ⟨changed.spares, fun _ _ _ => by omega⟩, fun _ => ?_⟩
          refine accounted_of_tracked (List.mem_append_right _ (List.mem_singleton_self _)) rfl ?_
            rfl
          rw [deviceEq]
      · rw [if_neg success]
        have unconfirmed : script.target.shutdown.ending false = .confirmed →
            script.peer.shutdown.ending false ≠ .confirmed := fun target peer =>
          success (changed.confirmed.mpr ⟨target, peer⟩)
        refine ⟨fun _ => ⟨changed.spares, fun _ target peer =>
          (unconfirmed target peer).elim⟩, fun _ => ?_⟩
        by_cases residue : result.residualMutation = true
        · rw [if_pos residue]
          refine accounted_of_tracked (List.mem_append_right _ (List.mem_singleton_self _)) rfl ?_
            rfl
          rw [deviceEq]
        · rw [if_neg residue]
          exact .inl (changed.settled (by simpa using success) (by simpa using residue))
    · rw [accounted_of_tracker healthy raised.1, ← raised.2.2]
      exact ⟨fun spares => ⟨spares, fun _ target peer => (raised.2.1 ⟨target, peer⟩).elim⟩,
        fun both => both.1⟩
  · rw [if_neg up]
    exact ⟨fun _ => ⟨fun begins => (up begins.healthy).elim, fun begins => (up begins.healthy).elim⟩,
      fun _ => .inl (sameLink_self healthy)⟩

end LinkHandler

end NetOpsBench
