import NetOpsBench.Pingmesh.Coverage
import NetOpsBench.Pingmesh.PlannerFrames

/-!
# What the detector expects of a compiled plan

The tables of `_compile_coverage_expectations`, read back in terms of the plan: the
expected frame of a source and a cycle is the frame that the client runs in that cycle
(`frameOf_eq_some`), and the expected combinations are those of all its frames.
-/

namespace NetOpsBench

open Fallible

/-- The frame that a client runs in a cycle. -/
def PingmeshPlan.FrameAt (plan : PingmeshPlan) (source : String) (cycle : Nat)
    (client : ClientProbePlan) (frame : ProbeFrame) : Prop :=
  client ∈ plan.clients ∧ client.name = source ∧
    client.frames[cycle % client.frames.length]? = some frame

namespace Compiled

variable {manifest : TopologyManifest} {peers : Peers} {plan : PingmeshPlan}

theorem clientNames_nodup (compiled : Compiled manifest peers plan) :
    (plan.clients.map ClientProbePlan.name).Nodup := by
  rw [compiled.map_name]
  exact manifest.clientNames_nodup

/-- A client is found by its name. -/
theorem client_unique (compiled : Compiled manifest peers plan) {a b : ClientProbePlan}
    (memA : a ∈ plan.clients) (memB : b ∈ plan.clients) (same : a.name = b.name) : a = b :=
  List.inj_on_of_nodup_map compiled.clientNames_nodup memA memB same

theorem mem_frameEntries {source : String} {k : Nat} {expected : ExpectedFrame} :
    ((source, k), expected) ∈ Detector.frameEntries plan ↔
      ∃ client ∈ plan.clients, client.name = source ∧
        ∃ frame, client.frames[k]? = some frame ∧ expected = expectedFrame client frame := by
  simp only [Detector.frameEntries, List.mem_flatMap, List.mem_map, Prod.exists, Prod.mk.injEq,
    List.mk_mem_zipIdx_iff_getElem?]
  constructor
  · intro ⟨client, mem, frame, _, atK, ⟨named, sameK⟩, eq⟩
    exact ⟨client, mem, named, frame, sameK ▸ atK, eq.symm⟩
  · intro ⟨client, mem, named, frame, atK, eq⟩
    exact ⟨client, mem, frame, k, atK, ⟨named, rfl⟩, eq.symm⟩

theorem frameKeys_nodup (compiled : Compiled manifest peers plan) :
    ((Detector.frameEntries plan).map Prod.fst).Nodup := by
  rw [Detector.frameEntries, List.map_flatMap, List.nodup_flatMap]
  constructor
  · intro client _
    rw [List.map_map]
    apply List.Nodup.of_map Prod.snd
    rw [List.map_map]
    have indices : (client.frames.zipIdx.map Prod.snd).Nodup := by
      rw [List.zipIdx_map_snd]
      exact List.nodup_range'
    exact indices
  · have apart := List.pairwise_map.mp compiled.clientNames_nodup
    refine apart.imp ?_
    intro a b ne key memA memB
    simp only [List.map_map, List.mem_map, Function.comp_apply, Prod.exists] at memA memB
    obtain ⟨_, _, _, rfl⟩ := memA
    obtain ⟨_, _, _, eq⟩ := memB
    exact ne (Prod.mk.inj eq).1.symm

/-- Every client probes its first target in some frame. -/
theorem exists_first_target (compiled : Compiled manifest peers plan) {client : ClientProbePlan}
    (mem : client ∈ plan.clients) : ∃ frame ∈ client.frames, 0 ∈ frame.targetIndices := by
  obtain ⟨name, memName, rfl⟩ := compiled.mem_clients.mp mem
  have targets := List.length_pos_iff.mpr (compiled.probed name memName)
  rw [← (targets_perm (manifest.clients.map Device.name) name).length_eq] at targets
  have ports : 0 < plan.settings.portBatches.length := by
    rw [compiled.settings_eq]
    simp only [planSettings, PingmeshPolicy.portBatches, Batches.length_batches]
    exact Batches.batchCount_pos manifest.pingmesh.rttPortsPerCycle_pos
      manifest.pingmesh.rttPortPoolSize_pos
  obtain ⟨k, ⟨frame, atK, -, active⟩, -⟩ := compiled.frame_unique mem targets ports
  exact ⟨frame, List.mem_of_getElem? atK, active⟩

theorem epoch_pos (compiled : Compiled manifest peers plan) {client : ClientProbePlan}
    (mem : client ∈ plan.clients) : 0 < client.frames.length := by
  obtain ⟨frame, memFrame, -⟩ := compiled.exists_first_target mem
  exact List.length_pos_of_mem memFrame

/-- The detector expects in every cycle the frame that the client then runs. -/
theorem frameOf_eq_some (compiled : Compiled manifest peers plan) {source : String} {cycle : Nat}
    {expected : ExpectedFrame} :
    (Detector.ofPlan manifest plan).frameOf source cycle = some expected ↔
      ∃ client frame, plan.FrameAt source cycle client frame ∧
        expected = expectedFrame client frame := by
  have got := Dict.get_ofEntries compiled.frameKeys_nodup
    (k := (source, cycle % plan.settings.coverageEpochCycles)) (v := expected)
  refine (show _ ↔ _ from got).trans (mem_frameEntries.trans ?_)
  constructor
  · intro ⟨client, mem, named, frame, atK, eq⟩
    exact ⟨client, frame, ⟨mem, named, by rwa [compiled.frames_length_eq mem]⟩, eq⟩
  · intro ⟨client, frame, ⟨mem, named, atK⟩, eq⟩
    exact ⟨client, mem, named, frame, by rwa [compiled.frames_length_eq mem] at atK, eq⟩

/-- Every client of the plan runs some frame in every cycle. -/
theorem exists_frameAt (compiled : Compiled manifest peers plan) {source : String}
    (mem : source ∈ manifest.clients.map Device.name) (cycle : Nat) :
    ∃ client frame, plan.FrameAt source cycle client frame := by
  rw [← compiled.map_name] at mem
  obtain ⟨client, memClient, named⟩ := List.mem_map.mp mem
  have below := Nat.mod_lt cycle (compiled.epoch_pos memClient)
  exact ⟨client, client.frames[cycle % client.frames.length], memClient, named,
    List.getElem?_eq_getElem below⟩

end Compiled

end NetOpsBench
