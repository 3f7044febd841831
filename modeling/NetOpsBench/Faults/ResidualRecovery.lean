import NetOpsBench.Faults.LinkRecovery

/-!
# Recoveries of residual link faults

An injection whose compensation fails leaves a residual fault in the tracker. That of
`inject_link_down` carries the routes of the clients, that of `inject_link_flapping` does not:
`recover_all` puts back the routes of the one where nothing stands in their way
(`PortState.Regains`), and of the other it only keeps those that are still there.
-/

namespace NetOpsBench

open Program

/-! ## Routes -/

namespace Route

/-- What a route is to the kernel, however it was set. -/
def entry (route : Route) : (String × String × String × String) × Option Nat :=
  (route.identity, route.metric)

/-- The place of a route, which `ip route replace` fills. -/
def slot (route : Route) : String × Option Nat := (route.destination, route.metric)

theorem slot_of_entry {route other : Route} (same : route.entry = other.entry) :
    route.slot = other.slot := by
  obtain ⟨identity, metric⟩ := Prod.mk.inj same
  have destination : route.destination = other.destination := congrArg Prod.fst identity
  rw [slot, slot, destination, metric]

theorem mem_replaceIn {wanted route : Route} {routes : List Route} :
    wanted.entry ∈ (route.replaceIn routes).map entry ↔
      route.entry = wanted.entry ∨ wanted.entry ∈ routes.map entry ∧ route.slot ≠ wanted.slot := by
  unfold replaceIn
  rw [List.map_append, List.mem_append, List.map_singleton, List.mem_singleton, or_comm]
  apply or_congr
  · exact eq_comm
  · constructor
    · intro mem
      obtain ⟨other, kept, same⟩ := List.mem_map.mp mem
      obtain ⟨isRoute, apart⟩ := List.mem_filter.mp kept
      refine ⟨same ▸ List.mem_map_of_mem isRoute, ?_⟩
      rw [← slot_of_entry same]
      intro clash
      obtain ⟨destination, metric⟩ := Prod.mk.inj clash
      exact of_decide_eq_true apart ⟨destination.symm, metric.symm⟩
    · rintro ⟨mem, apart⟩
      obtain ⟨other, isRoute, same⟩ := List.mem_map.mp mem
      rw [← slot_of_entry same] at apart
      refine List.mem_map.mpr ⟨other, List.mem_filter.mpr ⟨isRoute, decide_eq_true ?_⟩, same⟩
      rintro ⟨destination, metric⟩
      exact apart (Prod.ext destination.symm metric.symm)

/-- After one `replace` each, a place holds the last route that was put there. -/
theorem mem_foldl_replaceIn {wanted : Route} {added routes : List Route} :
    wanted.entry ∈ (added.foldl (fun routes route => route.replaceIn routes) routes).map entry ↔
      ((added.filter fun route => route.slot = wanted.slot).getLast?).elim
        (wanted.entry ∈ routes.map entry) fun route => route.entry = wanted.entry := by
  induction added generalizing routes with
  | nil => exact Iff.rfl
  | cons route added ih =>
      rw [List.foldl_cons, ih]
      by_cases here : route.slot = wanted.slot
      · have counts : (route :: added).filter (fun route => route.slot = wanted.slot) =
            route :: added.filter fun route => route.slot = wanted.slot :=
          List.filter_cons_of_pos (decide_eq_true here)
        rw [counts, List.getLast?_cons]
        cases later : (added.filter fun route => route.slot = wanted.slot).getLast? with
        | some last => exact Iff.rfl
        | none =>
            refine mem_replaceIn.trans ?_
            exact or_iff_left fun both => both.2 here
      · have skips : (route :: added).filter (fun route => route.slot = wanted.slot) =
            added.filter fun route => route.slot = wanted.slot :=
          List.filter_cons_of_neg fun same => here (of_decide_eq_true same)
        rw [skips]
        cases later : (added.filter fun route => route.slot = wanted.slot).getLast? with
        | some last => exact Iff.rfl
        | none =>
            refine mem_replaceIn.trans ?_
            constructor
            · rintro (same | both)
              · exact absurd (slot_of_entry same) here
              · exact both.1
            · intro mem
              exact .inr ⟨mem, here⟩

end Route

namespace PortState

/-- The port has the routes. -/
def Shows (state : PortState) (routes : List Route) : Prop :=
  ∀ route ∈ routes, route.entry ∈ state.routes.map Route.entry

/-- Of the routes that the port does not show by their identity, the last of a place is the one
wanted there; in other places the wanted one is there. -/
def Regains (state : PortState) (routes : List Route) : Prop :=
  ∀ route ∈ routes,
    (((state.missing routes).filter fun other => other.slot = route.slot).getLast?).elim
      (route.entry ∈ state.routes.map Route.entry) fun other => other.entry = route.entry

theorem adminUp_raised (routes : List Route) (state : PortState) :
    (state.raised routes).adminUp = true :=
  adminUp_setAdmin true state

theorem shows_raised {routes : List Route} {state : PortState} :
    (state.raised routes).Shows routes ↔ (state.setAdmin true).Regains routes :=
  forall₂_congr fun _ _ => Route.mem_foldl_replaceIn

/-- Where routes have places of their own, and nothing else has their identity, a port regains
them. -/
theorem regains_of_distinct {state : PortState} {routes : List Route}
    (places : ∀ route ∈ routes, ∀ other ∈ routes, route.slot = other.slot → route = other)
    (known : ∀ route ∈ routes, route.identity ∈ state.routes.map Route.identity →
      route.entry ∈ state.routes.map Route.entry) : state.Regains routes := by
  intro route mem
  cases last : ((state.missing routes).filter fun other => other.slot = route.slot).getLast? with
  | some other =>
      have isOther := List.mem_filter.mp (List.mem_of_getLast? last)
      have inRoutes := (List.mem_filter.mp isOther.1).1
      rw [Option.elim_some, places other inRoutes route mem (of_decide_eq_true isOther.2)]
  | none =>
      rw [Option.elim_none]
      apply known route mem
      by_contra absent
      have unlisted :
          route ∈ (state.missing routes).filter fun other => other.slot = route.slot := by
        refine List.mem_filter.mpr ⟨List.mem_filter.mpr ⟨mem, ?_⟩, decide_eq_true rfl⟩
        rw [List.contains_eq_mem, decide_eq_false absent]
        rfl
      rw [List.getLast?_eq_none_iff.mp last] at unlisted
      cases unlisted

end PortState

/-! ## Names -/

/-- The names are those of `InterfaceRuntime`, and both ends of every link are ports. -/
structure PortNames (tables : NameTables) (ctx : FaultRuntimeContext) : Prop where
  sonic : ∀ name, ctx.resolveSonic name = toSonicInterface tables (some name)
  linux : ∀ name, ctx.resolveLinux name = toLinuxInterface tables (some name)
  ends : ∀ link ∈ ctx.manifest.links,
    (∃ n, Spells tables link.endpoints.1.interface n) ∧
      ∃ n, Spells tables link.endpoints.2.interface n

theorem PortNames.linux_sonic {tables : NameTables} {ctx : FaultRuntimeContext}
    (names : PortNames tables ctx) {name : String} {n : Nat} (port : Spells tables name n) :
    ctx.resolveLinux (ctx.resolveSonic name) = ctx.resolveLinux name := by
  rw [names.sonic, names.linux, names.linux, port.toSonic, port.toLinux,
    (spells_sonicName port.positive).toLinux]

namespace LinkHandler

variable {ctx : FaultRuntimeContext} {target peer : Endpoint ctx} {device interface : String}

theorem endpoint_fields {found : Endpoint ctx} (isEndpoint : endpoint ctx device interface =
    .ok found) : found.device = device ∧ found.sonicIf = ctx.resolveSonic interface ∧
      found.linuxIf = ctx.resolveLinux interface := by
  unfold endpoint at isEndpoint
  split at isEndpoint
  · cases isEndpoint
  · rw [← Except.ok.inj isEndpoint]
    exact ⟨rfl, rfl, rfl⟩

/-- The endpoints that are found are the ends of a link. -/
theorem linkEndpoints_ends (found : linkEndpoints ctx device interface = .ok (target, peer)) :
    ∃ link ∈ ctx.manifest.links, ∃ own other,
      (link.endpoints = (own, other) ∨ link.endpoints = (other, own)) ∧
      ctx.resolveLinux own.interface = ctx.resolveLinux interface ∧
      (target.sonicIf = ctx.resolveSonic own.interface ∧
        target.linuxIf = ctx.resolveLinux own.interface) ∧
      peer.sonicIf = ctx.resolveSonic other.interface ∧
        peer.linuxIf = ctx.resolveLinux other.interface := by
  unfold linkEndpoints at found
  split at found
  · cases found
  · rename_i own other isLink
    obtain ⟨target', targetFound, found⟩ := Fallible.bind_eq_ok.mp found
    obtain ⟨peer', peerFound, found⟩ := Fallible.bind_eq_ok.mp found
    obtain ⟨rfl, rfl⟩ := Prod.mk.inj (Except.ok.inj found)
    obtain ⟨link, mem, oriented⟩ := List.exists_of_findSome?_eq_some isLink
    refine ⟨link, mem, own, other, ?_⟩
    obtain ⟨-, targetFields⟩ := endpoint_fields targetFound
    obtain ⟨-, peerFields⟩ := endpoint_fields peerFound
    unfold orientLink at oriented
    dsimp only at oriented
    split at oriented
    · rename_i named
      have ends := Option.some.inj oriented
      rw [ends] at named
      exact ⟨.inl ends, named.2, targetFields, peerFields⟩
    · split at oriented
      · rename_i named
        obtain ⟨ownEnd, otherEnd⟩ := Prod.mk.inj (Option.some.inj oriented)
        rw [ownEnd] at named
        exact ⟨.inr (Prod.ext otherEnd ownEnd), named.2, targetFields, peerFields⟩
      · cases oriented

/-- A link is found by any name of the interface. -/
theorem linkEndpoints_congr {other : String}
    (same : ctx.resolveLinux other = ctx.resolveLinux interface)
    (found : linkEndpoints ctx device interface = .ok (target, peer)) :
    linkEndpoints ctx device other = .ok (target, peer) := by
  have oriented : orientLink ctx device other = orientLink ctx device interface := by
    funext link
    unfold orientLink
    rw [same]
  unfold linkEndpoints at found ⊢
  rw [oriented]
  split at found
  · cases found
  · exact found

/-- The SONiC names that a fault records lead back to its link. -/
theorem located_again {tables : NameTables} (names : PortNames tables ctx)
    (found : linkEndpoints ctx device interface = .ok (target, peer)) :
    linkEndpoints ctx device target.sonicIf = .ok (target, peer) ∧
      ctx.resolveLinux peer.sonicIf = peer.linuxIf := by
  obtain ⟨link, mem, own, other, ends, same, ⟨targetSonic, targetLinux⟩, peerSonic, peerLinux⟩ :=
    linkEndpoints_ends found
  have ports : (∃ n, Spells tables own.interface n) ∧ ∃ n, Spells tables other.interface n := by
    have both := names.ends link mem
    rcases ends with isLink | isLink
    · rw [isLink] at both
      exact both
    · rw [isLink] at both
      exact both.symm
  obtain ⟨⟨m, ownPort⟩, n, otherPort⟩ := ports
  constructor
  · apply linkEndpoints_congr _ found
    rw [targetSonic, names.linux_sonic ownPort, same]
  · rw [peerSonic, peerLinux, names.linux_sonic otherPort]

/-- The peer that a recovery works on is the port that the injection worked on. -/
theorem recoveryPeer_recorded (named : ctx.resolveLinux peer.sonicIf = peer.linuxIf) :
    ∃ again : Endpoint ctx,
      recoveryPeer ctx peer (some peer.device) (some peer.sonicIf) = .ok again ∧
        again.port = peer.port ∧ again.key = peer.key := by
  unfold recoveryPeer
  split
  · rename_i device interface isDevice isInterface
    have deviceEq : peer.device = device := by
      have texts := isDevice
      rw [Option.bind_some] at texts
      unfold Text.nonempty at texts
      split at texts
      · cases texts
      · exact Option.some.inj texts
    have interfaceEq : peer.sonicIf = interface := by
      have texts := isInterface
      rw [Option.bind_some] at texts
      unfold Text.nonempty at texts
      split at texts
      · cases texts
      · exact Option.some.inj texts
    subst deviceEq interfaceEq
    refine ⟨_, endpoint_of_known peer.known peer.sonicIf, ?_, ?_⟩
    · rw [Endpoint.port, Endpoint.port, named]
    · rw [Endpoint.key, Endpoint.key, named]
  · exact ⟨peer, rfl, rfl, rfl⟩

/-! ## The recovery of one link -/

section Recovery

variable {tables : NameTables} {script : RecoveryScript}
  {others : ActiveFault LinkMetadata → Program LinkWorld Raised Recovery}

/-- The ports after a recovery of a link with the routes of a snapshot. -/
def PortsRaised (target peer : Endpoint ctx) (snapshots : Option Snapshots)
    (before after : LinkWorld) : Prop :=
  after.port = ((before.setPort target.port
    (PortState.raised (snapshotOf snapshots target))).setPort peer.port
      (PortState.raised (snapshotOf snapshots peer))).port

/-- A recovery that starts from the recorded names puts up the ports of the link. -/
theorem recoverLink_raised (names : PortNames tables ctx)
    (found : linkEndpoints ctx device interface = .ok (target, peer)) (obeys : script.Obeys)
    (type : String) {peerDevice peerInterface : Option String}
    (recorded : peerDevice = none ∨ peerDevice = some peer.device ∧
      peerInterface = some peer.sonicIf) (snapshots : Option Snapshots) (world : LinkWorld) :
    ∃ recovery after, (recoverLink ctx type script device target.sonicIf peerDevice peerInterface
        snapshots).outcome world = (.ok recovery, after) ∧
      PortsRaised target peer snapshots world after := by
  obtain ⟨again, named⟩ := located_again names found
  have peerAgain : ∃ same : Endpoint ctx,
      recoveryPeer ctx peer peerDevice peerInterface = .ok same ∧
        same.port = peer.port ∧ same.key = peer.key := by
    rcases recorded with rfl | ⟨rfl, rfl⟩
    · exact ⟨peer, rfl, rfl, rfl⟩
    · exact recoveryPeer_recorded named
  obtain ⟨same, isPeer, samePort, sameKey⟩ := peerAgain
  have located : (Program.ofExcept (linkEndpoints ctx device target.sonicIf) :
      Program LinkWorld Raised (Endpoint ctx × Endpoint ctx)).outcome world =
      (.ok (target, peer), world) := by
    rw [outcome_ofExcept, again]
  have chosen : (Program.ofExcept (recoveryPeer ctx peer peerDevice peerInterface) :
      Program LinkWorld Raised (Endpoint ctx)).outcome world = (.ok same, world) := by
    rw [outcome_ofExcept, isPeer]
  obtain ⟨result, raised⟩ := setPhysicalLink_obeys snapshots target same obeys world
  have sameSnapshot : snapshotOf snapshots same = snapshotOf snapshots peer := by
    unfold snapshotOf
    rw [sameKey]
  rw [samePort, sameSnapshot] at raised
  unfold recoverLink
  rw [outcome_bind_ok located]
  dsimp only
  rw [outcome_bind_ok chosen, outcome_bind_ok raised]
  split
  · exact ⟨_, _, rfl, rfl⟩
  · exact ⟨_, _, rfl, rfl⟩

/-- What a residual fault records of its link. -/
structure Records (fault : ActiveFault LinkMetadata) (type : String) (target peer : Endpoint ctx)
    (snapshots : Option Snapshots) : Prop where
  type : fault.type = type
  device : fault.device = some target.device
  interface : fault.interface = some target.sonicIf
  peer : fault.metadata.peerDevice = none ∨ fault.metadata.peerDevice = some peer.device ∧
    fault.metadata.peerInterface = some peer.sonicIf
  snapshots : fault.metadata.routeSnapshots = snapshots
  taskId : fault.metadata.taskId = none

/-- The turn of `recover_all` for a residual fault puts up the ports of its link. -/
theorem recoverTracked_raised (names : PortNames tables ctx)
    (found : linkEndpoints ctx device interface = .ok (target, peer)) (obeys : script.Obeys)
    {fault : ActiveFault LinkMetadata} {type : String} {snapshots : Option Snapshots}
    (records : Records fault type target peer snapshots)
    (isLink : type = "link_down" ∨ type = "link_flapping") (world : LinkWorld) :
    PortsRaised target peer snapshots world
      ((recoverTracked ctx others script fault).outcome world).2 := by
  have deviceEq := device_of_linkEndpoints found
  obtain ⟨recovery, after, recovered, raised⟩ := recoverLink_raised names found obeys type
    records.peer snapshots world
  have device : (Program.ofExcept (requireKey "device" fault.device) :
      Program LinkWorld Raised String).outcome world = (.ok device, world) := by
    rw [outcome_ofExcept, records.device, deviceEq]
    rfl
  have interface : (Program.ofExcept (requireKey "interface" fault.interface) :
      Program LinkWorld Raised String).outcome world = (.ok target.sonicIf, world) := by
    rw [outcome_ofExcept, records.interface]
    rfl
  have runs : (recoverActiveFault ctx others script fault).outcome world =
      (.ok recovery, after) := by
    unfold recoverActiveFault
    rw [records.type]
    rcases isLink with rfl | rfl
    · rw [if_pos rfl, recoverLinkDownFault, outcome_bind_ok device, outcome_bind_ok interface,
        records.snapshots]
      exact recovered
    · have differs : ¬ "link_flapping" = "link_down" := by decide +kernel
      rw [if_neg differs, if_pos rfl, recoverLinkFlappingFault, outcome_bind_ok device,
        outcome_bind_ok interface, records.snapshots, records.taskId]
      exact recovered
  unfold recoverTracked
  rw [outcome_tryCatch, runs]
  exact raised

variable (others)

/-- No turn of `recover_all` raises. -/
theorem recoverTracked_ok (script : RecoveryScript) (fault : ActiveFault LinkMetadata)
    (world : LinkWorld) :
    ∃ recovery after, (recoverTracked ctx others script fault).outcome world =
      (.ok recovery, after) := by
  unfold recoverTracked
  rw [outcome_tryCatch]
  rcases (recoverActiveFault ctx others script fault).outcome world with ⟨answer, after⟩
  cases answer with
  | ok recovery => exact ⟨recovery, after, rfl⟩
  | error error => exact ⟨_, after, rfl⟩

variable {others}

theorem recoverEach_cons {scripts : Nat → RecoveryScript} {index : Nat}
    {fault : ActiveFault LinkMetadata} {faults remaining : List (ActiveFault LinkMetadata)}
    {recovery : Recovery} {results : List Recovery} {world after last : LinkWorld}
    (turn : (recoverTracked ctx others (scripts index) fault).outcome world =
      (.ok recovery, after))
    (rest : (recoverEach ctx others scripts (index + 1) faults).outcome after =
      (.ok (results, remaining), last)) :
    (recoverEach ctx others scripts index (fault :: faults)).outcome world =
      (.ok (recovery :: results,
        if recovery.recovered then remaining else fault :: remaining), last) := by
  rw [recoverEach]
  exact (outcome_bind_ok turn).trans ((outcome_bind_ok rest).trans rfl)

/-- The last turn of `recover_all` starts where the earlier ones end. -/
theorem recoverEach_concat (scripts : Nat → RecoveryScript) (index : Nat)
    (faults : List (ActiveFault LinkMetadata)) (fault : ActiveFault LinkMetadata)
    (world : LinkWorld) :
    ∃ answer, (recoverEach ctx others scripts index (faults ++ [fault])).outcome world =
      (.ok answer, ((recoverTracked ctx others (scripts (index + faults.length)) fault).outcome
        ((recoverEach ctx others scripts index faults).outcome world).2).2) := by
  induction faults generalizing index world with
  | nil =>
      obtain ⟨recovery, after, turn⟩ := recoverTracked_ok others (scripts index) fault world
      have ends : (recoverEach ctx others scripts (index + 1) []).outcome after =
          (.ok ([], []), after) := rfl
      have whole := recoverEach_cons turn ends
      change ∃ answer, _ = (_, ((recoverTracked ctx others (scripts index) fault).outcome world).2)
      rw [turn]
      exact ⟨_, whole⟩
  | cons first faults ih =>
      obtain ⟨recovery, after, turn⟩ := recoverTracked_ok others (scripts index) first world
      obtain ⟨⟨results, remaining⟩, rest⟩ := ih (index + 1) after
      have counts : index + (first :: faults).length = index + 1 + faults.length := by
        rw [List.length_cons]
        omega
      have earlier : ((recoverEach ctx others scripts index (first :: faults)).outcome world).2 =
          ((recoverEach ctx others scripts (index + 1) faults).outcome after).2 := by
        rw [recoverEach, outcome_bind_ok turn, outcome_bind]
        rcases (recoverEach ctx others scripts (index + 1) faults).outcome after with
          ⟨answer, last⟩
        cases answer with
        | ok both => rfl
        | error error => rfl
      rw [counts, earlier]
      exact ⟨_, recoverEach_cons turn rest⟩

/-- The ports after `recover_all` are those after its last turn. -/
theorem recoverAll_ports {scripts : Nat → RecoveryScript} {world : LinkWorld}
    {faults : List (ActiveFault LinkMetadata)} {fault : ActiveFault LinkMetadata}
    (tracked : world.tracker.activeFaults = faults ++ [fault]) :
    ((recoverAll ctx others scripts).outcome world).2.port =
      ((recoverTracked ctx others (scripts faults.length) fault).outcome
        ((recoverEach ctx others scripts 0 faults).outcome world).2).2.port := by
  obtain ⟨⟨results, remaining⟩, turns⟩ := recoverEach_concat scripts 0 faults fault world
  rw [Nat.zero_add] at turns
  unfold recoverAll
  rw [outcome_bind_ok (outcome_get world), tracked, outcome_bind_ok turns]
  rfl

end Recovery

/-! ## The residual faults of the injections -/

section Injection

variable {script : LinkScript} {world : LinkWorld}

/-- A change of a link leaves the tracker to what follows it, which has the routes of the
clients. -/
theorem change_cases {α : Type} (script : LinkScript) (healthy : world.Healthy target peer)
    (rest : Snapshots → PhysicalResult → Program LinkWorld Raised α) :
    let run := (do
      let snapshots ← snapshotRoutes script target peer
      let result ← setPhysicalLink [(target, script.target), (peer, script.peer)] false
        (some snapshots)
      rest snapshots result : Program LinkWorld Raised α).outcome world
    run.2.tracker = world.tracker ∨ ∃ snapshots result after,
      run = (rest snapshots result).outcome after ∧ after.tracker = world.tracker ∧
        snapshotOf (some snapshots) target = world.clientRoutes target ∧
        snapshotOf (some snapshots) peer = world.clientRoutes peer := by
  intro run
  obtain ⟨answer, done, readable, unreadable⟩ := snapshotRoutes_outcome script healthy
  by_cases reads : LinkScript.Readable script.targetRoutes target ∧
      LinkScript.Readable script.peerRoutes peer
  · obtain ⟨snapshots, answerEq, targetRoutes, peerRoutes⟩ := readable reads.1 reads.2
    rw [answerEq] at done
    have settled := settles script.target script.peer (some snapshots) healthy.apart
      (peerRoutes ▸ holds_clientRoutes healthy.peerUp)
    rcases ended : (setPhysicalLink [(target, script.target), (peer, script.peer)] false
      (some snapshots)).outcome world with ⟨answer, after⟩
    rw [ended] at settled
    cases answer with
    | ok result =>
        refine .inr ⟨snapshots, result, after, ?_, settled.1, targetRoutes, peerRoutes⟩
        exact (outcome_bind_ok done).trans (outcome_bind_ok ended)
    | error raised =>
        have run_eq : run = (.error raised, after) :=
          (outcome_bind_ok done).trans (outcome_bind_error ended)
        rw [run_eq]
        exact .inl settled.1
  · obtain ⟨error, raised⟩ := unreadable reads
    rw [raised] at done
    have run_eq : run = (.error error, world) := outcome_bind_error done
    rw [run_eq]
    exact .inl rfl

/-- A tracker that has one more fault is not the same. -/
theorem not_tracked {faults : List (ActiveFault LinkMetadata)} {fault : ActiveFault LinkMetadata}
    (tracked : faults = faults ++ [fault]) : False := by
  have lengths := congrArg List.length tracked
  rw [List.length_append, List.length_singleton] at lengths
  omega

theorem injectLinkDown_residual
    (found : linkEndpoints ctx device interface = .ok (target, peer))
    (healthy : world.Healthy target peer) {fault : ActiveFault LinkMetadata}
    (tracked : ((injectLinkDown ctx script device interface).outcome world).2.tracker.activeFaults =
      world.tracker.activeFaults ++ [fault]) (residual : fault.residualMutation = true) :
    ∃ snapshots, Records fault "link_down" target peer (some snapshots) ∧
      snapshotOf (some snapshots) target = world.clientRoutes target ∧
      snapshotOf (some snapshots) peer = world.clientRoutes peer := by
  have deviceEq := device_of_linkEndpoints found
  have located : (Program.ofExcept (linkEndpoints ctx device interface) :
      Program LinkWorld Raised (Endpoint ctx × Endpoint ctx)).outcome world =
      (.ok (target, peer), world) := by
    rw [outcome_ofExcept, found]
  unfold injectLinkDown at tracked
  rw [outcome_bind_ok located] at tracked
  dsimp only at tracked
  split at tracked
  · rcases change_cases script healthy _ with same | ⟨snapshots, result, after, ended, same, routes⟩
    · rw [same] at tracked
      exact (not_tracked tracked).elim
    · rw [ended] at tracked
      by_cases success : result.success = true
      · rw [if_pos success] at tracked
        change after.tracker.activeFaults ++ [_] = _ at tracked
        rw [same] at tracked
        obtain rfl := (List.cons.inj (List.append_cancel_left tracked)).1
        cases residual
      · rw [if_neg success] at tracked
        by_cases residue : result.residualMutation = true
        · rw [if_pos residue] at tracked
          change after.tracker.activeFaults ++ [_] = _ at tracked
          rw [same] at tracked
          obtain rfl := (List.cons.inj (List.append_cancel_left tracked)).1
          exact ⟨snapshots,
            ⟨rfl, congrArg some deviceEq.symm, rfl, .inr ⟨rfl, rfl⟩, rfl, rfl⟩, routes⟩
        · rw [if_neg residue] at tracked
          change after.tracker.activeFaults = _ at tracked
          rw [same] at tracked
          exact (not_tracked tracked).elim
  · exact (not_tracked tracked).elim

theorem injectLinkFlapping_residual {downTime upTime : Option Int}
    (found : linkEndpoints ctx device interface = .ok (target, peer))
    (healthy : world.Healthy target peer) {fault : ActiveFault LinkMetadata}
    (tracked : ((injectLinkFlapping ctx script device interface downTime
      upTime).outcome world).2.tracker.activeFaults = world.tracker.activeFaults ++ [fault])
    (residual : fault.residualMutation = true) :
    Records fault "link_flapping" target peer none := by
  have deviceEq := device_of_linkEndpoints found
  have located : (Program.ofExcept (linkEndpoints ctx device interface) :
      Program LinkWorld Raised (Endpoint ctx × Endpoint ctx)).outcome world =
      (.ok (target, peer), world) := by
    rw [outcome_ofExcept, found]
  unfold injectLinkFlapping at tracked
  dsimp only at tracked
  rw [outcome_bind_ok located] at tracked
  dsimp only at tracked
  split at tracked
  · rcases change_cases script healthy _ with same | ⟨snapshots, result, after, ended, same, -⟩
    · rw [same] at tracked
      exact (not_tracked tracked).elim
    · rw [ended] at tracked
      by_cases success : result.success = true
      · rw [if_pos success] at tracked
        rcases built : periodicController (downTime.getD ctx.flappingDownSeconds)
          (upTime.getD ctx.flappingUpSeconds) with error | controller
        · have refused : (Program.ofExcept (periodicController
              (downTime.getD ctx.flappingDownSeconds) (upTime.getD ctx.flappingUpSeconds)) :
              Program LinkWorld Raised BackgroundControl).outcome after =
              (.error error, after) := by
            rw [outcome_ofExcept, built]
          rw [outcome_bind_error refused, same] at tracked
          exact (not_tracked tracked).elim
        · have started : (Program.ofExcept (periodicController
              (downTime.getD ctx.flappingDownSeconds) (upTime.getD ctx.flappingUpSeconds)) :
              Program LinkWorld Raised BackgroundControl).outcome after =
              (.ok controller, after) := by
            rw [outcome_ofExcept, built]
          rw [outcome_bind_ok started] at tracked
          change after.tracker.activeFaults ++ [_] = _ at tracked
          rw [same] at tracked
          obtain rfl := (List.cons.inj (List.append_cancel_left tracked)).1
          cases residual
      · rw [if_neg success] at tracked
        by_cases residue : result.residualMutation = true
        · rw [if_pos residue] at tracked
          change after.tracker.activeFaults ++ [_] = _ at tracked
          rw [same] at tracked
          obtain rfl := (List.cons.inj (List.append_cancel_left tracked)).1
          exact ⟨rfl, congrArg some deviceEq.symm, rfl, .inl rfl, rfl, rfl⟩
        · rw [if_neg residue] at tracked
          change after.tracker.activeFaults = _ at tracked
          rw [same] at tracked
          exact (not_tracked tracked).elim
  · exact (not_tracked tracked).elim

end Injection

end LinkHandler

/-! ## Full recovery -/

/-- Both endpoints are up, and each client has the routes that it had before. -/
structure LinkWorld.Recovered {ctx : FaultRuntimeContext} (before after : LinkWorld)
    (target peer : Endpoint ctx) : Prop where
  targetUp : (after.port target.port).adminUp = true
  peerUp : (after.port peer.port).adminUp = true
  targetRoutes : (after.port target.port).Shows (before.clientRoutes target)
  peerRoutes : (after.port peer.port).Shows (before.clientRoutes peer)

/-- The tracker has one more fault, a residual one. -/
def LeavesResidual (before after : LinkWorld) (fault : ActiveFault LinkMetadata) : Prop :=
  after.tracker.activeFaults = before.tracker.activeFaults ++ [fault] ∧
    fault.residualMutation = true

namespace LinkHandler

variable {ctx : FaultRuntimeContext} {target peer : Endpoint ctx} {device interface : String}

/-- Where both ports were raised, what counts are their routes. -/
theorem recovered_raised (apart : target.port ≠ peer.port) {snapshots : Option Snapshots}
    {world before after : LinkWorld} (raised : PortsRaised target peer snapshots before after) :
    world.Recovered after target peer ↔
      ((before.port target.port).raised (snapshotOf snapshots target)).Shows
          (world.clientRoutes target) ∧
        ((before.port peer.port).raised (snapshotOf snapshots peer)).Shows
          (world.clientRoutes peer) := by
  have targetPort : after.port target.port =
      (before.port target.port).raised (snapshotOf snapshots target) := by
    rw [raised, LinkWorld.port_setPort_of_ne _ apart, LinkWorld.port_setPort_same]
  have peerPort : after.port peer.port =
      (before.port peer.port).raised (snapshotOf snapshots peer) := by
    rw [raised, LinkWorld.port_setPort_same, LinkWorld.port_setPort_of_ne _ apart.symm]
  constructor
  · intro recovered
    rw [← targetPort, ← peerPort]
    exact ⟨recovered.targetRoutes, recovered.peerRoutes⟩
  · rintro ⟨targetRoutes, peerRoutes⟩
    refine ⟨?_, ?_, ?_, ?_⟩
    · rw [targetPort]
      exact PortState.adminUp_raised _ _
    · rw [peerPort]
      exact PortState.adminUp_raised _ _
    · rw [targetPort]
      exact targetRoutes
    · rw [peerPort]
      exact peerRoutes

end LinkHandler

/-! ## The access link of a client -/

open LinkHandler

/-- The small fabric with the names of `InterfaceRuntime`. -/
def portContext : FaultRuntimeContext :=
  { smallContext with
    resolveSonic := fun name => toSonicInterface .ascii (some name)
    resolveLinux := fun name => toLinuxInterface .ascii (some name) }

def leafPort : Endpoint portContext :=
  ⟨"leaf1", "clab-small-leaf1", "Ethernet4", "eth2", by decide +kernel⟩

def clientPort : Endpoint portContext :=
  ⟨"client1", "clab-small-client1", "Ethernet0", "eth1", by decide +kernel⟩

/-- Every end of a link of the small fabric is a port. -/
theorem smallClos_ends : ∀ link ∈ smallClos.links,
    (∃ n, Spells .ascii link.endpoints.1.interface n) ∧
      ∃ n, Spells .ascii link.endpoints.2.interface n := by
  have named : (smallClos.links.all fun link => [1, 2, 3].any fun m => [1, 2, 3].any fun n =>
      decide (link.endpoints.1.interface = ethName m) &&
        decide (link.endpoints.2.interface = ethName n)) = true := by decide +kernel
  have positive : ∀ k ∈ [1, 2, 3], 1 ≤ k := by decide
  intro link mem
  obtain ⟨m, isFirst, both⟩ := List.any_eq_true.mp (List.all_eq_true.mp named link mem)
  obtain ⟨n, isSecond, both⟩ := List.any_eq_true.mp both
  rw [Bool.and_eq_true, decide_eq_true_eq, decide_eq_true_eq] at both
  rw [both.1, both.2]
  exact ⟨⟨m, spells_ethName (positive m isFirst)⟩, n, spells_ethName (positive n isSecond)⟩

theorem portContext_names : PortNames .ascii portContext where
  sonic name := by simp only [portContext]
  linux name := by simp only [portContext]
  ends := smallClos_ends

theorem portLink_found :
    linkEndpoints portContext "leaf1" "eth2" = .ok (leafPort, clientPort) := by
  have link : portContext.manifest.links.findSome? (orientLink portContext "leaf1" "eth2") =
      some (⟨"leaf1", "eth2"⟩, ⟨"client1", "eth1"⟩) := by decide +kernel
  have leafNames : portContext.resolveSonic "eth2" = "Ethernet4" ∧
      portContext.resolveLinux "eth2" = "eth2" := by decide +kernel
  have clientNames : portContext.resolveSonic "eth1" = "Ethernet0" ∧
      portContext.resolveLinux "eth1" = "eth1" := by decide +kernel
  have leafKnown : portContext.containerName "leaf1" = some "clab-small-leaf1" := leafPort.known
  have clientKnown : portContext.containerName "client1" = some "clab-small-client1" :=
    clientPort.known
  have leaf : endpoint portContext "leaf1" "eth2" = .ok leafPort := by
    rw [endpoint_of_known leafKnown "eth2"]
    simp only [leafNames.1, leafNames.2]
    rfl
  have client : endpoint portContext "client1" "eth1" = .ok clientPort := by
    rw [endpoint_of_known clientKnown "eth1"]
    simp only [clientNames.1, clientNames.2]
    rfl
  unfold linkEndpoints
  rw [link]
  dsimp only
  rw [leaf, client]
  rfl

theorem upWorld_ports : upWorld.Healthy leafPort clientPort where
  apart := by decide +kernel
  targetName := by decide +kernel
  peerName := by decide +kernel
  targetUp := by decide +kernel
  peerUp := by decide +kernel
  untracked := fun _ mem => (List.not_mem_nil mem).elim

/-- A command that fails without an effect. -/
def refused : Mutation := ⟨{ returncode := 1 }, false, fun ok => absurd ok (by decide)⟩

/-- The client goes down unseen, and no command puts it up again. -/
def stranded : EndpointScript :=
  { obedient with
    shutdown := ⟨done, done, [{ shown := { returncode := 1 }, delayLeft := false }]⟩
    startup := ⟨refused, refused, []⟩ }

theorem obedient_obeys : obedient.Obeys where
  startup := by decide +kernel
  current := rfl
  replace _ := rfl
  verify := rfl

def obedientRecovery : RecoveryScript := ⟨obedient, obedient, true⟩

theorem obedientRecovery_obeys : obedientRecovery.Obeys := ⟨obedient_obeys, obedient_obeys⟩

/-- No fault of another type is tracked. -/
def unknownFault (fault : ActiveFault LinkMetadata) : Program LinkWorld Raised Recovery :=
  pure { type := fault.type, recovered := false, error := some "Unknown fault type" }

/-- The world that a failed injection into the access link leaves. -/
def strandedDown : LinkWorld :=
  ((injectLinkDown portContext (accessScript obedient stranded) "leaf1" "eth2").outcome upWorld).2

def strandedFlapping : LinkWorld :=
  ((injectLinkFlapping portContext (accessScript obedient stranded) "leaf1" "eth2" none
    none).outcome upWorld).2

/-- A list of one more fault, a residual one, is what `LeavesResidual` says. -/
theorem leavesResidual_of_map {after : LinkWorld}
    (flags : after.tracker.activeFaults.map ActiveFault.residualMutation = [true]) :
    ∃ fault, LeavesResidual upWorld after fault := by
  obtain ⟨fault, one, residual⟩ := List.map_eq_singleton_iff.mp flags
  exact ⟨fault, one, residual⟩

end NetOpsBench
