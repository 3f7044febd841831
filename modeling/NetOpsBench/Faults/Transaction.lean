import NetOpsBench.Faults.LinkInjection
import NetOpsBench.Faults.System
import NetOpsBench.Pingmesh.PlannerFrames

/-!
# The transaction law of the link and device faults

After `inject_link_down`, `inject_link_flapping` and `inject_device_down` the healthy state
is back or the tracker has the fault, exactly under the conditions of `LinkScript.Spares` and
`StopScript.Spares`; an injection into a link of the small fabric breaks it.
-/

namespace NetOpsBench

open Program LinkHandler SystemHandler

/-- When the injections account for what they have changed. -/
theorem inject_accounted (ctx : FaultRuntimeContext) :
    (∀ (script : LinkScript) (device interface : String) (target peer : Endpoint ctx)
        (world : LinkWorld), linkEndpoints ctx device interface = .ok (target, peer) →
      world.Healthy target peer →
        (world.Accounted ((injectLinkDown ctx script device interface).outcome world).2
            "link_down" target peer ↔ script.Spares target peer world) ∧
        ∀ downTime upTime : Option Int,
          (world.Accounted ((injectLinkFlapping ctx script device interface downTime
              upTime).outcome world).2 "link_flapping" target peer ↔
            script.Spares target peer world ∧
              (script.Begins target peer → script.target.shutdown.ending false = .confirmed →
                script.peer.shutdown.ending false = .confirmed →
                0 < downTime.getD ctx.flappingDownSeconds ∧
                  0 < upTime.getD ctx.flappingUpSeconds))) ∧
    ∀ (script : ∀ container, StopScript container) (device container : String)
        (world : SystemWorld), ctx.containerName device = some container →
      world.Healthy device container →
        (SystemWorld.Accounted ((injectDeviceDown ctx device script).outcome world).2 device
          container ↔ (script container).Spares) := by
  refine ⟨?_, ?_⟩
  · intro script device interface target peer world found healthy
    refine ⟨injectLinkDown_accounted found healthy, ?_⟩
    intro downTime upTime
    exact injectLinkFlapping_accounted found healthy
  · intro script device container world known healthy
    exact injectDeviceDown_accounted known healthy

/-! ## The access link of a client -/

/-- The context of the small fabric, whose interfaces go by their Linux names. -/
def smallContext : FaultRuntimeContext := ⟨smallClos, id, id, 10, 10, by decide, by decide⟩

def leafEndpoint : Endpoint smallContext :=
  ⟨"leaf1", "clab-small-leaf1", "eth2", "eth2", by decide +kernel⟩

def clientEndpoint : Endpoint smallContext :=
  ⟨"client1", "clab-small-client1", "eth1", "eth1", by decide +kernel⟩

theorem endpoint_of_known {ctx : FaultRuntimeContext} {device container : String}
    (known : ctx.containerName device = some container) (interface : String) :
    endpoint ctx device interface =
      .ok ⟨device, container, ctx.resolveSonic interface, ctx.resolveLinux interface, known⟩ := by
  unfold endpoint
  split
  · rename_i unknown
    rw [known] at unknown
    cases unknown
  · rename_i other found
    have same : container = other := Option.some.inj (known.symm.trans found)
    subst same
    rfl

theorem accessLink_found :
    linkEndpoints smallContext "leaf1" "eth2" = .ok (leafEndpoint, clientEndpoint) := by
  have link : smallContext.manifest.links.findSome? (orientLink smallContext "leaf1" "eth2") =
      some (⟨"leaf1", "eth2"⟩, ⟨"client1", "eth1"⟩) := by decide +kernel
  have leaf : endpoint smallContext "leaf1" "eth2" = .ok leafEndpoint :=
    endpoint_of_known leafEndpoint.known "eth2"
  have client : endpoint smallContext "client1" "eth1" = .ok clientEndpoint :=
    endpoint_of_known clientEndpoint.known "eth1"
  unfold linkEndpoints
  rw [link]
  dsimp only
  rw [leaf, client]
  rfl

/-- Every port is up, and the client has a default route. -/
def upWorld : LinkWorld :=
  { port := fun port => ⟨true, if port = clientEndpoint.port then
      [{ dst := some "default", gateway := some "10.0.1.2" }] else [], []⟩
    tracker := {} }

theorem upWorld_healthy : upWorld.Healthy leafEndpoint clientEndpoint where
  apart := by decide +kernel
  targetName := by decide +kernel
  peerName := by decide +kernel
  targetUp := by decide +kernel
  peerUp := by decide +kernel
  untracked := fun _ mem => (List.not_mem_nil mem).elim

/-- A command that succeeds. -/
def done : Mutation := ⟨{ returncode := 0 }, true, fun _ => rfl⟩

/-- What `ip link show` prints of a port. -/
def linkShown (up : Bool) : CommandResult :=
  { returncode := 0, stdout := if up then "7: eth1: <BROADCAST,UP> mtu 9100" else
      "7: eth1: <BROADCAST> mtu 9100" }

/-- An admin command that succeeds and is confirmed at once. -/
def confirmed (up : Bool) : AdminScript := ⟨done, done, [{ shown := linkShown up }]⟩

/-- An admin command that succeeds but cannot be read back before the wait is interrupted. -/
def unseen : AdminScript :=
  ⟨done, done, [{ shown := { returncode := 1 }, interruption := some .timeout }]⟩

def obedient : EndpointScript :=
  ⟨confirmed false, confirmed true, ⟨.shown, fun _ => done, .shown⟩⟩

/-- Both endpoints are healthy and their routes can be read. -/
def accessScript (target peer : EndpointScript) : LinkScript :=
  ⟨linkShown true, linkShown true, .shown, .shown, target, peer, 0⟩

theorem access_healthy :
    (healthyLinkState (leafEndpoint, clientEndpoint) (linkShown true) (linkShown true)).2.success =
      true := by decide +kernel

theorem accessScript_begins (target peer : EndpointScript) :
    (accessScript target peer).Begins leafEndpoint clientEndpoint where
  healthy := access_healthy
  targetRoutes := fun _ => rfl
  peerRoutes := fun _ => rfl

theorem obedient_confirmed : obedient.shutdown.ending false = .confirmed := by decide +kernel

/-- Both endpoints go down as they are told. -/
theorem obedient_spares :
    (accessScript obedient obedient).Spares leafEndpoint clientEndpoint upWorld := by
  intro _
  refine ⟨?_, ?_, ?_, ?_, ?_⟩
  · intro interruption ends
    cases obedient_confirmed.symm.trans ends
  · intro _ interruption ends
    cases obedient_confirmed.symm.trans ends
  · intro ends
    cases obedient_confirmed.symm.trans ends
  · intro _ ends
    cases obedient_confirmed.symm.trans ends
  · intro _ ends
    cases obedient_confirmed.symm.trans ends

/-! ## A node of the small fabric -/

/-- Every node runs with its interfaces in place. -/
def runningWorld : SystemWorld := ⟨fun _ => ⟨true, false⟩, {}⟩

def inspected : RunningRead where
  shown running := { returncode := 0, stdout := if running then "true" else "false" }
  faithful := by decide +kernel

def namespaceRead (container : String) : ParkingRead container where
  shown _ := { returncode := 1 }
  faithful := fun _ => nofun

/-- The stop succeeds, but the namespaces cannot be listed. -/
def stopped (container : String) : StopScript container :=
  { original := inspected
    stop := ⟨{ returncode := 0 }, ⟨false, true⟩, fun _ => rfl⟩
    polls := []
    last := ⟨inspected, namespaceRead container, { returncode := 1 }, none⟩ }

theorem stopped_spares (container : String) : (stopped container).Spares := by
  intro _ interruption settled
  cases settled

theorem runningWorld_healthy (device container : String) :
    runningWorld.Healthy device container where
  running := rfl
  untracked := fun _ mem => (List.not_mem_nil mem).elim

/-- The injections into the access link of the client and into its leaf are accounted for. -/
theorem inject_accounted_accessLink :
    upWorld.Accounted ((injectLinkDown smallContext (accessScript obedient obedient) "leaf1"
        "eth2").outcome upWorld).2 "link_down" leafEndpoint clientEndpoint ∧
      upWorld.Accounted ((injectLinkFlapping smallContext (accessScript obedient obedient) "leaf1"
        "eth2" none none).outcome upWorld).2 "link_flapping" leafEndpoint clientEndpoint ∧
      SystemWorld.Accounted ((injectDeviceDown smallContext "leaf1" stopped).outcome
        runningWorld).2 "leaf1" "clab-small-leaf1" := by
  obtain ⟨links, devices⟩ := inject_accounted smallContext
  obtain ⟨down, flapping⟩ := links (accessScript obedient obedient) "leaf1" "eth2" leafEndpoint
    clientEndpoint upWorld accessLink_found upWorld_healthy
  refine ⟨down.mpr obedient_spares, ?_, ?_⟩
  · refine (flapping none none).mpr ⟨obedient_spares, ?_⟩
    intro _ _ _
    exact ⟨by decide, by decide⟩
  · exact (devices stopped "leaf1" "clab-small-leaf1" runningWorld leafEndpoint.known
      (runningWorld_healthy "leaf1" "clab-small-leaf1")).mpr (stopped_spares _)

/-- The leaf goes down, and the wait for the confirmation runs into its deadline. -/
def overdue : EndpointScript := { obedient with shutdown := unseen }

/-- The link of a leaf whose wait runs into its deadline stays down and untracked, and so does
one that is to flap without a time to be down. -/
theorem accessLink_unaccounted :
    upWorld.Healthy leafEndpoint clientEndpoint ∧
      ¬ upWorld.Accounted ((injectLinkDown smallContext (accessScript overdue obedient) "leaf1"
        "eth2").outcome upWorld).2 "link_down" leafEndpoint clientEndpoint ∧
      ¬ upWorld.Accounted ((injectLinkFlapping smallContext (accessScript obedient obedient)
        "leaf1" "eth2" (some 0) none).outcome upWorld).2 "link_flapping" leafEndpoint
        clientEndpoint := by
  have interrupted : overdue.shutdown.ending false = .interrupted .timeout := by decide +kernel
  refine ⟨upWorld_healthy, ?_, ?_⟩
  · intro accounted
    have spares := (injectLinkDown_accounted accessLink_found upWorld_healthy).mp accounted
    exact (spares (accessScript_begins overdue obedient)).targetShutdown .timeout interrupted
  · intro accounted
    have both := (injectLinkFlapping_accounted accessLink_found upWorld_healthy).mp accounted
    have positive := both.2 (accessScript_begins obedient obedient) obedient_confirmed
      obedient_confirmed
    exact absurd positive.1 (by decide)

end NetOpsBench
