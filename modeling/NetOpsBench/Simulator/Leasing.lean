import Mathlib.Data.List.Perm.Subperm
import NetOpsBench.Simulator.Runtime

/-!
# Exclusive leases

What a step of the pool or of a backend does to the records (`LeaseWorld.Settles`), and the
invariant over every interleaving of the steps (`LeaseWorld.Sound`): a record has one holder
at most, a quarantined record is never handed out, and the pool has no more records than the
configuration allows, those with a failed teardown included (`leasing_exclusive`).
-/

namespace NetOpsBench

open Fallible Program

/-! ## What a quarantine does -/

namespace LeaseWorld

/-- Some records have been quarantined, and some of them torn down and dropped. -/
structure Settles (before after : LeaseWorld) : Prop where
  backends : after.backends = before.backends
  handedOut : after.handedOut = before.handedOut
  length : after.heap.length = before.heap.length
  records : ∀ (record : Nat) (state : WarmRuntime), before.heap[record]? = some state →
    ∃ state' : WarmRuntime, after.heap[record]? = some state' ∧
      (state' = state ∨ state'.quarantined = true)
  pooled : after.pooled.Subperm before.pooled
  accounted : ∀ record ∈ before.pooled, record ∈ after.pooled ∨ record ∈ after.tornDown
  tornDown : before.tornDown ⊆ after.tornDown

theorem Settles.refl (world : LeaseWorld) : world.Settles world :=
  ⟨rfl, rfl, rfl, fun _ state at_ => ⟨state, at_, .inl rfl⟩, List.Subperm.refl _,
    fun _ => .inl, List.Subset.refl _⟩

/-- The records of the pool after an assignment. -/
theorem pooled_set (world : LeaseWorld) (scale : String) (records : List Nat) :
    ∃ rest, world.pooled.Perm ((world.runtimes.get scale).getD [] ++ rest) ∧
      ((world.runtimes.set scale records).values.flatten).Perm (records ++ rest) := by
  obtain ⟨rest, before, after⟩ := world.runtimes.perm_values_set scale records
  refine ⟨rest.flatten, ?_, ?_⟩
  · refine before.flatten.trans ?_
    rw [List.flatten_append]
    cases world.runtimes.get scale with
    | none => exact .refl _
    | some old => simp
  · exact after.flatten

theorem runtimeCount_eq (world : LeaseWorld) : world.runtimeCount = world.pooled.length :=
  List.length_flatten.symm

end LeaseWorld

namespace RuntimeLeasePool

variable {before : LeaseWorld}

/-- The first assignments of `quarantine`. -/
theorem settles_quarantined {world : LeaseWorld} (settles : before.Settles world) (record : Nat)
    {f : WarmRuntime → WarmRuntime} (quarantined : ∀ state, (f state).quarantined = true) :
    before.Settles { world with heap := world.heap.modify record f } := by
  refine { settles with length := ?_, records := ?_ }
  · exact (List.length_modify _ _ _).trans settles.length
  · intro other state at_
    obtain ⟨middle, atMiddle, kept⟩ := settles.records other state at_
    dsimp only
    rw [List.getElem?_modify, atMiddle]
    refine ⟨if record = other then f middle else middle, rfl, ?_⟩
    split
    · exact .inr (quarantined middle)
    · exact kept

theorem settles_remove {world : LeaseWorld} (settles : before.Settles world) {record : Nat}
    (tornDown : record ∈ world.tornDown) (scale : String) {records : List Nat}
    (found : world.runtimes.get scale = some records) :
    before.Settles
      { world with runtimes := world.runtimes.set scale (records.erase record) } := by
  obtain ⟨rest, was, is⟩ := world.pooled_set scale (records.erase record)
  rw [found, Option.getD_some] at was
  refine { settles with pooled := ?_, accounted := ?_ }
  · refine List.Subperm.trans ?_ settles.pooled
    refine (is.subperm_right.mpr ?_).trans was.symm.subperm
    exact (List.erase_sublist.append_right rest).subperm
  · intro other mem
    rcases settles.accounted other mem with inPool | gone
    · by_cases same : other = record
      · exact .inr (same ▸ tornDown)
      · refine .inl (is.mem_iff.mpr ?_)
        rcases List.mem_append.mp (was.mem_iff.mp inPool) with here | there
        · exact List.mem_append.mpr (.inl ((List.mem_erase_of_ne same).mpr here))
        · exact List.mem_append.mpr (.inr there)
    · exact .inr gone

/-- Torn down or not, the record is quarantined, and it leaves the pool only if it is torn down. -/
theorem keeps_quarantine (record : Nat) (script : TeardownScript) :
    Keeps (quarantine record script) before.Settles := by
  unfold quarantine
  refine Keeps.bind (Keeps.modify fun world settles =>
    settles_quarantined settles record fun _ => rfl) fun _ => ?_
  refine Keeps.bind (Keeps.tryCatch (Keeps.ofExcept _) fun _ => Keeps.pure _) fun _ => ?_
  refine Keeps.bind (Keeps.ofExcept _) fun _ => ?_
  refine Meets.bind (Q := fun _ world => before.Settles world ∧ record ∈ world.tornDown) ?_ ?_
  · refine Meets.modify fun world settles => ⟨?_, List.mem_append_right _ List.mem_cons_self⟩
    refine { settles with accounted := ?_, tornDown := ?_ }
    · intro other mem
      exact (settles.accounted other mem).imp_right (List.mem_append_left _)
    · exact List.Subset.trans settles.tornDown (List.subset_append_left _ _)
  · intro _
    refine Meets.modify fun world both => ?_
    rcases both with ⟨settles, tornDown⟩
    split
    · exact settles
    · split
      · exact settles
      · rename_i records found
        exact settles_remove settles tornDown _ found

theorem keeps_drainAll (script : Nat → TeardownScript) (records : List Nat) :
    Keeps (drainAll script records) before.Settles := by
  induction records with
  | nil => exact Keeps.pure _
  | cons record records ih =>
      refine Keeps.get_bind fun world _ => ?_
      refine Keeps.bind ?_ fun failures => ih.bind fun rest => Keeps.pure _
      refine Keeps.tryCatch ?_ fun _ => Keeps.pure _
      exact (keeps_quarantine record (script record)).bind fun _ => Keeps.pure _

theorem keeps_drain (scales : Option (List String)) (script : Nat → TeardownScript) :
    Keeps (drain scales script) before.Settles :=
  Keeps.get_bind fun _ _ => (keeps_drainAll script _).bind fun _ => Keeps.ofExcept _

theorem keeps_quarantineAll (script : Nat → TeardownScript) (records : List Nat) :
    Keeps (quarantineAll script records) before.Settles := by
  induction records with
  | nil => exact Keeps.pure _
  | cons record records ih =>
      refine Keeps.bind ?_ fun _ => ih
      exact Keeps.tryCatch (keeps_quarantine record (script record)) fun _ => Keeps.pure _

theorem keeps_reapOrphans (now : Rat) (script : Nat → TeardownScript) :
    Keeps (reapOrphans now script) before.Settles :=
  Keeps.get_bind fun _ _ => keeps_quarantineAll script _

theorem keeps_evict (config : SimulatorConfig) (script : Nat → TeardownScript)
    (records : List Nat) : Keeps (evict config script records) before.Settles := by
  induction records with
  | nil => exact Keeps.pure _
  | cons record records ih =>
      refine Keeps.bind ?_ fun done => Keeps.get_bind fun world _ => ?_
      · refine Keeps.tryCatch ?_ fun _ => Keeps.pure _
        exact (keeps_quarantine record (script record)).bind fun _ => Keeps.pure _
      · split
        · exact Keeps.pure _
        · exact ih

theorem keeps_makeCapacityFor (config : SimulatorConfig) (scale : String)
    (script : Nat → TeardownScript) :
    Keeps (makeCapacityFor config scale script) before.Settles := by
  refine Keeps.get_bind fun world _ => ?_
  split
  · exact Keeps.pure _
  · exact keeps_evict config script _

end RuntimeLeasePool

/-! ## The invariant -/

/-- The record that a backend holds, or that one of its methods is about to give back. -/
def RuntimeEpisodeBackend.held (backend : RuntimeEpisodeBackend) : Option Nat :=
  match backend.stage with
  | .ending ending => some ending.record
  | .idle => backend.record
  | .acquiring _ _ => backend.record
  | .preparing => backend.record

namespace LeaseWorld

/-- What holds after every step. The records of `frozen` are quarantined, and have been handed
out so many times. -/
structure Sound (config : SimulatorConfig) (frozen : Nat → Option Nat) (world : LeaseWorld) :
    Prop where
  pooled_nodup : world.pooled.Nodup
  pooled_lt : ∀ record ∈ world.pooled, record < world.heap.length
  count_le : world.pooled.length ≤ config.maxActiveRuntimes
  exclusive : ∀ (i j : Nat) (first second : RuntimeEpisodeBackend) (record : Nat),
    world.backends[i]? = some first → world.backends[j]? = some second →
      first.held = some record → second.held = some record → i = j
  taken : ∀ (i : Nat) (backend : RuntimeEpisodeBackend) (record : Nat),
    world.backends[i]? = some backend → backend.held = some record →
      ∃ state : WarmRuntime, world.heap[record]? = some state ∧
        (state.inUse = true ∨ state.quarantined = true)
  gaveUp : ∀ (i : Nat) (backend : RuntimeEpisodeBackend) (ending : LeaseEnding),
    world.backends[i]? = some backend → backend.stage = .ending ending → backend.record = none
  accounted : ∀ record < world.heap.length, record ∈ world.pooled ∨ record ∈ world.tornDown
  frozen : ∀ record count : Nat, frozen record = some count →
    ∃ state : WarmRuntime, world.heap[record]? = some state ∧ state.quarantined = true ∧
      world.handedOut.count record = count

variable {config : SimulatorConfig} {frozen : Nat → Option Nat} {world after : LeaseWorld}

theorem Sound.settles (sound : world.Sound config frozen) (settles : world.Settles after) :
    after.Sound config frozen where
  pooled_nodup := by
    obtain ⟨kept, perm, sublist⟩ := settles.pooled
    exact perm.nodup_iff.mp (sound.pooled_nodup.sublist sublist)
  pooled_lt := by
    intro record mem
    rw [settles.length]
    exact sound.pooled_lt record (settles.pooled.subset mem)
  count_le := settles.pooled.length_le.trans sound.count_le
  exclusive := settles.backends ▸ sound.exclusive
  taken := by
    intro i backend record at_ held
    obtain ⟨state, found, busy⟩ := sound.taken i backend record (settles.backends ▸ at_) held
    obtain ⟨state', found', kept⟩ := settles.records record state found
    refine ⟨state', found', ?_⟩
    rcases kept with same | quarantined
    · rw [same]
      exact busy
    · exact .inr quarantined
  gaveUp := settles.backends ▸ sound.gaveUp
  accounted := by
    intro record below
    rw [settles.length] at below
    rcases sound.accounted record below with inPool | gone
    · exact settles.accounted record inPool
    · exact .inr (settles.tornDown gone)
  frozen := by
    intro record count isFrozen
    obtain ⟨state, found, quarantined, counted⟩ := sound.frozen record count isFrozen
    obtain ⟨state', found', kept⟩ := settles.records record state found
    refine ⟨state', found', ?_, settles.handedOut ▸ counted⟩
    rcases kept with same | now
    · rw [same]
      exact quarantined
    · exact now

/-- Nobody holds a record that can be handed out. -/
theorem Sound.not_held (sound : world.Sound config frozen) {record : Nat}
    (available : world.Available record) {i : Nat} {backend : RuntimeEpisodeBackend}
    (at_ : world.backends[i]? = some backend) : backend.held ≠ some record := by
  intro held
  obtain ⟨state, found, busy⟩ := sound.taken i backend record at_ held
  obtain ⟨state', found', idle, clean⟩ := available
  obtain rfl := Option.some.inj (found.symm.trans found')
  rcases busy with inUse | quarantined
  · rw [idle] at inUse
    cases inUse
  · rw [clean] at quarantined
    cases quarantined

/-- A change of one record that keeps it quarantined, and in use if a backend holds it. -/
theorem Sound.modifyRecord (sound : world.Sound config frozen) (record : Nat)
    {f : WarmRuntime → WarmRuntime}
    (inUse : ∀ (i : Nat) (backend : RuntimeEpisodeBackend), world.backends[i]? = some backend →
      backend.held = some record → ∀ state, state.inUse = true → (f state).inUse = true)
    (quarantined : ∀ state, (f state).quarantined = state.quarantined) :
    ({ world with heap := world.heap.modify record f } : LeaseWorld).Sound config frozen := by
  have at_ : ∀ {other : Nat} {state : WarmRuntime}, world.heap[other]? = some state →
      (world.heap.modify record f)[other]? = some (if record = other then f state else state) := by
    intro other state found
    rw [List.getElem?_modify, found]
    rfl
  refine { sound with pooled_lt := ?_, taken := ?_, accounted := ?_, frozen := ?_ }
  · intro other mem
    dsimp only
    rw [List.length_modify]
    exact sound.pooled_lt other mem
  · intro i backend other found held
    obtain ⟨state, heldAt, busy⟩ := sound.taken i backend other found held
    refine ⟨_, at_ heldAt, ?_⟩
    split
    · rename_i same
      rw [quarantined]
      exact busy.imp_left (inUse i backend found (same ▸ held) state)
    · exact busy
  · intro other below
    dsimp only at below
    rw [List.length_modify] at below
    exact sound.accounted other below
  · intro other count isFrozen
    obtain ⟨state, found, isQuarantined, counted⟩ := sound.frozen other count isFrozen
    refine ⟨_, at_ found, ?_, counted⟩
    split
    · rw [quarantined]
      exact isQuarantined
    · exact isQuarantined

/-- A backend with a record holds it. -/
theorem Sound.held_record (sound : world.Sound config frozen) {i : Nat}
    {backend : RuntimeEpisodeBackend} (at_ : world.backends[i]? = some backend) {record : Nat}
    (has : backend.record = some record) : backend.held = some record := by
  cases stage : backend.stage with
  | ending ending =>
      rw [sound.gaveUp i backend ending at_ stage] at has
      cases has
  | _ => rwa [RuntimeEpisodeBackend.held, stage]

/-- A record that has been taken, and that no backend has yet. -/
def Granted (world : LeaseWorld) (record : Nat) : Prop :=
  (∃ state : WarmRuntime, world.heap[record]? = some state ∧ state.inUse = true) ∧
    ∀ (i : Nat) (backend : RuntimeEpisodeBackend), world.backends[i]? = some backend →
      backend.held ≠ some record

/-- A backend that is changed holds what it held before, or a record that was granted. -/
theorem Sound.modifyBackend (sound : world.Sound config frozen) (i : Nat)
    {f : RuntimeEpisodeBackend → RuntimeEpisodeBackend}
    (held : ∀ (backend : RuntimeEpisodeBackend) (record : Nat),
      world.backends[i]? = some backend → (f backend).held = some record →
        backend.held = some record ∨ world.Granted record)
    (gaveUp : ∀ (backend : RuntimeEpisodeBackend) (ending : LeaseEnding),
      world.backends[i]? = some backend → (f backend).stage = .ending ending →
        (f backend).record = none) :
    ({ world with backends := world.backends.modify i f } : LeaseWorld).Sound config frozen := by
  have original : ∀ {j : Nat} {changed : RuntimeEpisodeBackend},
      (world.backends.modify i f)[j]? = some changed →
        ∃ backend : RuntimeEpisodeBackend, world.backends[j]? = some backend ∧
          changed = if i = j then f backend else backend := by
    intro j changed at_
    rw [List.getElem?_modify] at at_
    obtain ⟨backend, found, eq⟩ := Option.map_eq_some_iff.mp at_
    exact ⟨backend, found, eq.symm⟩
  -- who holds a record now held it before, or is the changed backend and was granted it
  have holds : ∀ {j : Nat} {changed : RuntimeEpisodeBackend} {record : Nat},
      (world.backends.modify i f)[j]? = some changed → changed.held = some record →
        (∃ backend : RuntimeEpisodeBackend, world.backends[j]? = some backend ∧
          backend.held = some record) ∨ (i = j ∧ world.Granted record) := by
    intro j changed record at_ heldNow
    obtain ⟨backend, found, eq⟩ := original at_
    rw [eq] at heldNow
    split at heldNow
    · rename_i same
      subst same
      exact (held backend record found heldNow).imp (fun kept => ⟨backend, found, kept⟩)
        fun granted => ⟨rfl, granted⟩
    · exact .inl ⟨backend, found, heldNow⟩
  refine { sound with exclusive := ?_, taken := ?_, gaveUp := ?_ }
  · intro j k first second record atJ atK heldJ heldK
    rcases holds atJ heldJ with ⟨first', foundJ, heldJ'⟩ | ⟨isJ, grantedJ⟩
    · rcases holds atK heldK with ⟨second', foundK, heldK'⟩ | ⟨isK, grantedK⟩
      · exact sound.exclusive j k first' second' record foundJ foundK heldJ' heldK'
      · exact absurd heldJ' (grantedK.2 j first' foundJ)
    · rcases holds atK heldK with ⟨second', foundK, heldK'⟩ | ⟨isK, grantedK⟩
      · exact absurd heldK' (grantedJ.2 k second' foundK)
      · exact isJ.symm.trans isK
  · intro j backend record at_ heldNow
    rcases holds at_ heldNow with ⟨backend', found, held'⟩ | ⟨-, ⟨state, found, inUse⟩, -⟩
    · exact sound.taken j backend' record found held'
    · exact ⟨state, found, .inl inUse⟩
  · intro j backend ending at_ stage
    obtain ⟨backend', found, eq⟩ := original at_
    rw [eq] at stage ⊢
    split at stage
    · rename_i same
      subst same
      rw [if_pos rfl]
      exact gaveUp backend' ending found stage
    · rename_i other
      rw [if_neg other]
      exact sound.gaveUp j backend' ending found stage

end LeaseWorld

/-! ## Handing out -/

namespace RuntimeLeasePool

variable {config : SimulatorConfig} {frozen : Nat → Option Nat}

/-- What only quarantines and drops keeps the invariant. -/
theorem keeps_sound {α : Type} {program : LeaseProgram α}
    (settles : ∀ before : LeaseWorld, Keeps program before.Settles) :
    Keeps program (LeaseWorld.Sound config frozen) := by
  refine Meets.of_outcome fun world sound => ⟨?_, ?_⟩
  · intro a after ended
    exact sound.settles ((settles world).of_ok (.refl world) ended)
  · intro thrown after ended
    exact sound.settles ((settles world).of_error (.refl world) ended)

/-- The records of a scale are those of the pool, and it has a list from now on. -/
theorem meets_setdefault (scale : String) :
    Meets (setdefault scale) (LeaseWorld.Sound config frozen)
      (fun records world => world.Sound config frozen ∧ world.runtimes.get scale = some records)
      fun _ => LeaseWorld.Sound config frozen := by
  refine Meets.get_bind fun world sound => ?_
  split
  · rename_i records found
    exact Meets.pure fun after same => by rw [same]; exact ⟨sound, found⟩
  · rename_i absent
    obtain ⟨rest, was, is⟩ := world.pooled_set scale []
    rw [absent, Option.getD_none] at was
    have perm : (world.runtimes.set scale []).values.flatten.Perm world.pooled :=
      is.trans was.symm
    refine Meets.bind (Q := fun _ after => after.Sound config frozen ∧
      after.runtimes.get scale = some []) ?_ fun _ => Meets.pure fun after both => both
    refine Meets.modify fun after same => ?_
    subst same
    refine ⟨sound.settles ?_, by rw [Dict.get_set, if_pos rfl]⟩
    exact
      { LeaseWorld.Settles.refl after with
        pooled := perm.subperm
        accounted := fun record mem => .inl (perm.mem_iff.mpr mem) }

/-- The invariant with a new record in a pool that has room for it. -/
theorem sound_provisioned {world : LeaseWorld} (sound : world.Sound config frozen)
    (room : world.pooled.length < config.maxActiveRuntimes) (name scale : String) :
    ({ world with
      heap := world.heap ++ [{ name, scale }]
      runtimes := world.runtimes.set scale
        ((world.runtimes.get scale).getD [] ++ [world.heap.length]) } :
      LeaseWorld).Sound config frozen := by
  obtain ⟨rest, was, is⟩ :=
    world.pooled_set scale ((world.runtimes.get scale).getD [] ++ [world.heap.length])
  have perm : (world.runtimes.set scale
      ((world.runtimes.get scale).getD [] ++ [world.heap.length])).values.flatten.Perm
        (world.heap.length :: world.pooled) := by
    refine is.trans ?_
    rw [List.append_assoc]
    exact List.perm_middle.trans (was.symm.cons _)
  have old : ∀ {record : Nat} {state : WarmRuntime}, world.heap[record]? = some state →
      (world.heap ++ [({ name, scale } : WarmRuntime)])[record]? = some state := by
    intro record state found
    exact (List.getElem?_append_left (List.getElem?_eq_some_iff.mp found).1).trans found
  refine { sound with
    pooled_nodup := ?_, pooled_lt := ?_, count_le := ?_, taken := ?_, accounted := ?_
    frozen := ?_ }
  · refine perm.nodup_iff.mpr (List.nodup_cons.mpr ⟨?_, sound.pooled_nodup⟩)
    intro mem
    exact Nat.lt_irrefl _ (sound.pooled_lt _ mem)
  · intro record mem
    dsimp only
    rw [List.length_append]
    rcases List.mem_cons.mp (perm.mem_iff.mp mem) with new | inPool
    · rw [new]
      exact Nat.lt_succ_self _
    · exact Nat.lt_succ_of_lt (sound.pooled_lt record inPool)
  · exact perm.length_eq ▸ room
  · intro i backend record at_ held
    obtain ⟨state, found, busy⟩ := sound.taken i backend record at_ held
    exact ⟨state, old found, busy⟩
  · intro record below
    dsimp only at below
    rw [List.length_append, List.length_singleton] at below
    by_cases new : record = world.heap.length
    · exact .inl (perm.mem_iff.mpr (List.mem_cons.mpr (.inl new)))
    · refine (sound.accounted record (by omega)).imp_left fun inPool => ?_
      exact perm.mem_iff.mpr (List.mem_cons_of_mem _ inPool)
  · intro record count isFrozen
    obtain ⟨state, found, quarantined, counted⟩ := sound.frozen record count isFrozen
    exact ⟨state, old found, quarantined, counted⟩

/-- A new record is available, and the pool has room for it. -/
theorem meets_provision (scale : String) (answer : Except Thrown String) :
    Meets (provision scale answer)
      (fun world => world.Sound config frozen ∧ world.pooled.length < config.maxActiveRuntimes)
      (fun record world => world.Sound config frozen ∧ world.Available record)
      fun _ => LeaseWorld.Sound config frozen := by
  unfold provision
  refine Meets.bind (Q := fun _ world => world.Sound config frozen ∧
    world.pooled.length < config.maxActiveRuntimes) ?_ fun name => ?_
  · exact Meets.ofExcept (fun _ _ _ both => both) fun _ _ _ both => both.1
  · refine Meets.get_bind fun world both => ?_
    rcases both with ⟨sound, room⟩
    refine Meets.bind (Q := fun _ after => after.Sound config frozen ∧
      after.Available world.heap.length) ?_ fun _ => Meets.pure fun _ both => both
    refine Meets.modify fun after same => ?_
    subst same
    refine ⟨sound_provisioned sound room name scale, { name, scale }, ?_, rfl, rfl⟩
    exact List.getElem?_concat_length

theorem meets_findRecord (scale : String) (script : AcquireScript) :
    Meets (findRecord config scale script) (LeaseWorld.Sound config frozen)
      (fun found world => world.Sound config frozen ∧
        ∀ record, found = some record → world.Available record)
      fun _ => LeaseWorld.Sound config frozen := by
  unfold findRecord
  refine (meets_setdefault scale).bind fun records => Meets.get_bind fun world both => ?_
  rcases both with ⟨sound, -⟩
  split
  · rename_i record found
    refine Meets.pure fun after same => ?_
    subst same
    refine ⟨sound, fun other same => ?_⟩
    obtain rfl := Option.some.inj same
    have passed := List.find?_some found
    exact of_decide_eq_true passed
  · refine Meets.bind (Q := fun _ => LeaseWorld.Sound config frozen) ?_ fun _ => ?_
    · refine (keeps_sound fun before => keeps_makeCapacityFor config scale script.evicted).mono
        (fun after same => same ▸ sound) (fun _ _ => id) fun _ _ => id
    · refine (meets_setdefault scale).bind fun _ => Meets.get_bind fun after both => ?_
      rcases both with ⟨soundAfter, -⟩
      split
      · rename_i room
        rw [LeaseWorld.runtimeCount_eq] at room
        refine Meets.bind ((meets_provision scale script.provisioned).mono
          (fun last same => same ▸ ⟨soundAfter, room⟩) (fun _ _ => id) fun _ _ => id) fun record => ?_
        refine Meets.pure fun last both => ⟨both.1, fun other same => ?_⟩
        exact Option.some.inj same ▸ both.2
      · exact Meets.pure fun last same => ⟨same ▸ soundAfter, nofun⟩

/-- A turn of `acquire` gives out a record that nobody has. -/
theorem meets_acquireTurn (scale : String) (deadline : Rat) (script : AcquireScript) :
    Meets (acquireTurn config scale deadline script) (LeaseWorld.Sound config frozen)
      (fun found world => world.Sound config frozen ∧
        ∀ record, found = some record → world.Granted record)
      fun _ => LeaseWorld.Sound config frozen := by
  unfold acquireTurn
  refine Meets.bind (keeps_sound fun before =>
    keeps_reapOrphans script.reapNow script.reaped) fun _ => ?_
  refine (meets_findRecord scale script).bind fun found => ?_
  cases found with
  | none =>
      refine Meets.bind (Q := fun _ => LeaseWorld.Sound config frozen) ?_ fun _ =>
        Meets.pure fun _ sound => ⟨sound, nofun⟩
      exact Meets.ofExcept (fun _ _ _ both => both.1) fun _ _ _ both => both.1
  | some record =>
      refine Meets.bind (Q := fun _ world => world.Sound config frozen ∧ world.Granted record ∧
        frozen record = none) ?_ fun _ => ?_
      · refine Meets.modify fun world both => ?_
        rcases both with ⟨sound, found⟩
        have available := found record rfl
        obtain ⟨state, at_, -, clean⟩ := available
        refine ⟨sound.modifyRecord record (fun _ _ _ _ _ _ => rfl) fun _ => rfl,
          ⟨⟨{ state with
              inUse := true
              leaseDeadline := script.leaseNow + config.orphanLeaseTtlSeconds }, ?_, rfl⟩, ?_⟩, ?_⟩
        · dsimp only
          rw [List.getElem?_modify, at_]
          simp
        · intro i backend isBackend
          exact sound.not_held (found record rfl) isBackend
        · cases isFrozen : frozen record with
          | none => rfl
          | some count =>
              obtain ⟨state', at', quarantined, -⟩ := sound.frozen record count isFrozen
              obtain rfl := Option.some.inj (at_.symm.trans at')
              rw [clean] at quarantined
              cases quarantined
      · refine Meets.bind (Q := fun _ world => world.Sound config frozen ∧
          world.Granted record) ?_ fun _ => ?_
        · refine Meets.modify fun world given => ?_
          rcases given with ⟨sound, granted, free⟩
          refine ⟨{ sound with frozen := ?_ }, granted⟩
          intro other count isFrozen
          obtain ⟨state, at_, quarantined, counted⟩ := sound.frozen other count isFrozen
          refine ⟨state, at_, quarantined, ?_⟩
          have differs : record ≠ other := by
            intro same
            rw [← same, free] at isFrozen
            cases isFrozen
          dsimp only
          rw [List.count_append, counted, List.count_singleton, if_neg (by simpa using differs)]
          rfl
        · refine Meets.pure fun world both => ⟨both.1, fun other same => ?_⟩
          exact Option.some.inj same ▸ both.2

end RuntimeLeasePool

/-! ## The steps of a backend -/

namespace RuntimeEpisodeBackend

open RuntimeLeasePool

variable {config : SimulatorConfig} {frozen : Nat → Option Nat}

theorem keeps_current {α : Type} {backend : Nat} {rest : RuntimeEpisodeBackend → LeaseProgram α}
    {P : LeaseWorld → Prop}
    (keeps : ∀ world, P world →
      Meets (rest (world.backends[backend]?.getD {})) (fun after => after = world)
        (fun _ => P) fun _ => P) : Keeps (current backend >>= rest) P := by
  intro world holds
  unfold current
  rw [bind_assoc, outcome_bind_ok (outcome_get world), pure_bind]
  exact keeps world holds world rfl

theorem held_eq_record {backend : RuntimeEpisodeBackend}
    (stage : ∀ ending, backend.stage ≠ .ending ending) : backend.held = backend.record := by
  unfold held
  cases reached : backend.stage with
  | ending ending => exact absurd reached (stage ending)
  | _ => rfl

/-- A backend that keeps its record may go on to any stage but the last one. -/
theorem keeps_stage (backend : Nat) {f : RuntimeEpisodeBackend → RuntimeEpisodeBackend}
    (record : ∀ state, (f state).record = state.record)
    (stage : ∀ state ending, (f state).stage ≠ .ending ending) :
    Keeps (modifyBackend backend f) (LeaseWorld.Sound config frozen) := by
  refine Keeps.modify fun world sound => sound.modifyBackend backend ?_ ?_
  · intro state held at_ holds
    rw [held_eq_record (stage state), record] at holds
    exact .inl (sound.held_record at_ holds)
  · intro state ending _ reached
    exact absurd reached (stage state ending)

/-- A backend that gives its record up is about to give it back. -/
theorem meets_ending {world : LeaseWorld} (sound : world.Sound config frozen) {backend : Nat}
    {ending : LeaseEnding}
    (has : (world.backends[backend]?.getD {}).record = some ending.record)
    {f : RuntimeEpisodeBackend → RuntimeEpisodeBackend}
    (record : ∀ state, (f state).record = none)
    (stage : ∀ state, (f state).stage = .ending ending) :
    Meets (modifyBackend backend f) (fun after => after = world)
      (fun _ => LeaseWorld.Sound config frozen) fun _ => LeaseWorld.Sound config frozen := by
  refine Meets.modify fun after same => ?_
  subst same
  refine sound.modifyBackend backend ?_ fun state _ _ _ => record state
  intro state held at_ holds
  rw [at_, Option.getD_some] at has
  rw [RuntimeEpisodeBackend.held, stage] at holds
  exact .inl (sound.held_record at_ (has.trans holds))

/-- A method that goes on from the state that was read keeps the invariant. -/
theorem meets_of_keeps {α : Type} {program : LeaseProgram α} {world : LeaseWorld}
    (sound : world.Sound config frozen)
    (keeps : Keeps program (LeaseWorld.Sound config frozen)) :
    Meets program (fun after => after = world) (fun _ => LeaseWorld.Sound config frozen)
      fun _ => LeaseWorld.Sound config frozen :=
  keeps.mono (fun _ same => same ▸ sound) (fun _ _ => id) fun _ _ => id

theorem keeps_beginPrepare (backend : Nat) (scale : String) (now : Rat) :
    Keeps (beginPrepare backend scale now) (LeaseWorld.Sound config frozen) := by
  refine keeps_current fun world sound => meets_of_keeps sound ?_
  split
  · exact keeps_stage backend (fun _ => rfl) nofun
  · exact Keeps.pure _

theorem keeps_acquire (backend : Nat) (script : AcquireScript) :
    Keeps (acquire config backend script) (LeaseWorld.Sound config frozen) := by
  refine keeps_current fun world sound => meets_of_keeps sound ?_
  split
  · rename_i scale deadline stage
    refine Keeps.tryCatch ?_ fun thrown => ?_
    · refine Meets.bind (meets_acquireTurn scale deadline script) fun found => ?_
      cases found with
      | none => exact Meets.pure fun _ both => both.1
      | some record =>
          refine Meets.modify fun after both => ?_
          rcases both with ⟨soundAfter, granted⟩
          refine soundAfter.modifyBackend backend ?_ fun state ending _ => nofun
          intro state held _ holds
          exact .inr (Option.some.inj holds ▸ granted record rfl)
    · refine Keeps.bind (keeps_stage backend (fun _ => rfl) nofun) fun _ => Keeps.throw _
  · exact Keeps.pure _

theorem keeps_giveUp (backend : Nat) (broken : Bool) (delegate : Except Thrown Unit)
    (otherwise : Option Thrown) :
    Keeps (giveUp backend broken delegate otherwise) (LeaseWorld.Sound config frozen) := by
  refine keeps_current fun world sound => ?_
  split
  · refine meets_of_keeps sound (Keeps.bind ?_ fun _ => ?_)
    · exact keeps_stage backend (fun _ => rfl) nofun
    · split
      · exact Keeps.throw _
      · exact Keeps.pure _
  · rename_i record has
    exact meets_ending sound has (fun _ => rfl) fun _ => rfl

theorem keeps_finish (backend : Nat) (broken : Bool) (delegate : Except Thrown Unit) :
    Keeps (finish backend broken delegate) (LeaseWorld.Sound config frozen) := by
  refine keeps_current fun world sound => meets_of_keeps sound ?_
  split
  · exact keeps_giveUp backend broken delegate none
  · exact Keeps.pure _

theorem keeps_endPrepare (backend : Nat) (preparation : Preparation) :
    Keeps (endPrepare backend preparation) (LeaseWorld.Sound config frozen) := by
  refine keeps_current fun world sound => ?_
  split
  · cases preparation with
    | ready => exact meets_of_keeps sound (keeps_stage backend (fun _ => rfl) nofun)
    | topologyInvalid thrown =>
        dsimp only
        split
        · exact meets_of_keeps sound (Keeps.pure _)
        · rename_i record has
          refine meets_ending sound ?_ (fun _ => rfl) fun _ => rfl
          exact has
    | baselineNotReady thrown delegate =>
        exact meets_of_keeps sound (keeps_giveUp backend false delegate (some thrown))
    | failed thrown delegate =>
        refine meets_of_keeps sound (Keeps.bind ?_ fun _ => Keeps.throw _)
        exact keeps_stage backend (fun _ => rfl) nofun
  · exact meets_of_keeps sound (Keeps.pure _)

/-- Between giving its record up and giving it back, a backend is its only holder. -/
theorem meets_settled {world : LeaseWorld} (sound : world.Sound config frozen) {backend : Nat}
    {ending : LeaseEnding}
    (stage : (world.backends[backend]?.getD {}).stage = .ending ending) :
    Meets (modifyBackend backend fun state => { state with stage := .idle })
      (fun after => after = world)
      (fun _ after => after.Sound config frozen ∧
        ∀ (i : Nat) (state : RuntimeEpisodeBackend), after.backends[i]? = some state →
          state.held ≠ some ending.record)
      fun _ => LeaseWorld.Sound config frozen := by
  refine Meets.modify fun after same => ?_
  subst same
  have kept : Keeps (modifyBackend backend fun state => { state with stage := .idle })
      (LeaseWorld.Sound config frozen) := keeps_stage backend (fun _ => rfl) nofun
  refine ⟨kept.of_ok sound rfl, ?_⟩
  intro i state at_ holds
  rw [List.getElem?_modify] at at_
  obtain ⟨state', found, eq⟩ := Option.map_eq_some_iff.mp at_
  by_cases same : backend = i
  · subst same
    rw [found, Option.getD_some] at stage
    rw [if_pos rfl] at eq
    have gone := sound.gaveUp backend state' ending found stage
    rw [← eq] at holds
    exact nomatch gone.symm.trans holds
  · rw [if_neg same] at eq
    obtain rfl := eq
    cases isBackend : after.backends[backend]? with
    | none =>
        rw [isBackend] at stage
        cases stage
    | some owner =>
        rw [isBackend, Option.getD_some] at stage
        have owns : owner.held = some ending.record := by rw [held, stage]
        exact same (sound.exclusive backend i owner state' ending.record isBackend found owns holds)

/-- A former holder may give its record back late: nobody else holds it then. -/
theorem keeps_settle (backend : Nat) (script : TeardownScript) :
    Keeps (settle backend script) (LeaseWorld.Sound config frozen) := by
  refine keeps_current fun world sound => ?_
  split
  · rename_i ending stage
    refine (meets_settled sound stage).bind fun _ => ?_
    refine Meets.bind (Q := fun _ => LeaseWorld.Sound config frozen) ?_ fun _ => ?_
    · unfold giveBack
      split
      · refine (keeps_sound fun before => keeps_quarantine ending.record script).mono ?_
          (fun _ _ => id) fun _ _ => id
        exact fun _ both => both.1
      · refine Meets.modify fun after both => ?_
        rcases both with ⟨soundAfter, unheld⟩
        refine soundAfter.modifyRecord ending.record ?_ fun _ => rfl
        intro i state at_ holds
        exact absurd holds (unheld i state at_)
    · split
      · exact Keeps.throw _
      · exact Keeps.pure _
  · exact meets_of_keeps sound (Keeps.pure _)

theorem keeps_refresh (backend : Nat) (minSeconds now : Rat) :
    Keeps (refresh config backend minSeconds now) (LeaseWorld.Sound config frozen) := by
  refine keeps_current fun world sound => meets_of_keeps sound ?_
  split
  · exact Keeps.pure _
  · rename_i record has
    refine Keeps.modify fun after soundAfter => soundAfter.modifyRecord record ?_ ?_
    · intro i holder _ _ state inUse
      split
      · exact inUse
      · exact inUse
    · intro state
      split
      · rfl
      · rfl

end RuntimeEpisodeBackend

/-! ## Runs -/

/-- A step of the pool or of a backend, with what its surroundings answer. -/
inductive LeaseEvent : Type where
  | beginPrepare (backend : Nat) (scale : String) (now : Rat)
  | acquire (backend : Nat) (script : RuntimeLeasePool.AcquireScript)
  | endPrepare (backend : Nat) (preparation : RuntimeEpisodeBackend.Preparation)
  | finish (backend : Nat) (broken : Bool) (delegate : Except Thrown Unit)
  | settle (backend : Nat) (script : TeardownScript)
  | refresh (backend : Nat) (minSeconds now : Rat)
  | quarantine (record : Nat) (script : TeardownScript)
  | drain (scales : Option (List String)) (script : Nat → TeardownScript)
  | reapOrphans (now : Rat) (script : Nat → TeardownScript)

namespace LeaseEvent

def perform (config : SimulatorConfig) : LeaseEvent → LeaseProgram Unit
  | beginPrepare backend scale now => RuntimeEpisodeBackend.beginPrepare backend scale now
  | acquire backend script => RuntimeEpisodeBackend.acquire config backend script
  | endPrepare backend preparation => RuntimeEpisodeBackend.endPrepare backend preparation
  | finish backend broken delegate => RuntimeEpisodeBackend.finish backend broken delegate
  | settle backend script => RuntimeEpisodeBackend.settle backend script
  | refresh backend minSeconds now => RuntimeEpisodeBackend.refresh config backend minSeconds now
  | quarantine record script => do
      let world ← get
      if record < world.heap.length then RuntimeLeasePool.quarantine record script else pure ()
  | drain scales script => RuntimeLeasePool.drain scales script
  | reapOrphans now script => RuntimeLeasePool.reapOrphans now script

variable {config : SimulatorConfig} {frozen : Nat → Option Nat}

theorem keeps_perform (event : LeaseEvent) :
    Keeps (event.perform config) (LeaseWorld.Sound config frozen) := by
  cases event with
  | beginPrepare backend scale now =>
      exact RuntimeEpisodeBackend.keeps_beginPrepare backend scale now
  | acquire backend script => exact RuntimeEpisodeBackend.keeps_acquire backend script
  | endPrepare backend preparation =>
      exact RuntimeEpisodeBackend.keeps_endPrepare backend preparation
  | finish backend broken delegate =>
      exact RuntimeEpisodeBackend.keeps_finish backend broken delegate
  | settle backend script => exact RuntimeEpisodeBackend.keeps_settle backend script
  | refresh backend minSeconds now =>
      exact RuntimeEpisodeBackend.keeps_refresh backend minSeconds now
  | quarantine record script =>
      refine Keeps.get_bind fun world _ => ?_
      split
      · exact RuntimeLeasePool.keeps_sound fun _ =>
          RuntimeLeasePool.keeps_quarantine record script
      · exact Keeps.pure _
  | drain scales script =>
      exact RuntimeLeasePool.keeps_sound fun _ => RuntimeLeasePool.keeps_drain scales script
  | reapOrphans now script =>
      exact RuntimeLeasePool.keeps_sound fun _ => RuntimeLeasePool.keeps_reapOrphans now script

end LeaseEvent

namespace LeaseWorld

/-- A new pool, and backends that have not been prepared. -/
def fresh (backends : Nat) : LeaseWorld := { backends := List.replicate backends {} }

def run (config : SimulatorConfig) (world : LeaseWorld) (events : List LeaseEvent) : LeaseWorld :=
  events.foldl (fun world event => (outcome (event.perform config) world).2) world

variable {config : SimulatorConfig} {frozen : Nat → Option Nat} {world : LeaseWorld}

theorem Sound.run (sound : world.Sound config frozen) (events : List LeaseEvent) :
    (world.run config events).Sound config frozen := by
  induction events generalizing world with
  | nil => exact sound
  | cons event events ih => exact ih (event.keeps_perform.outcome sound)

theorem sound_fresh (backends : Nat) : (fresh backends).Sound config fun _ => none := by
  have idle : ∀ {i : Nat} {backend : RuntimeEpisodeBackend},
      (fresh backends).backends[i]? = some backend → backend = {} := by
    intro i backend at_
    exact List.eq_of_mem_replicate (List.mem_of_getElem? at_)
  exact
    { pooled_nodup := List.nodup_nil
      pooled_lt := nofun
      count_le := Nat.zero_le _
      exclusive := by
        intro i j first second record at_ _ held
        rw [idle at_] at held
        cases held
      taken := by
        intro i backend record at_ held
        rw [idle at_] at held
        cases held
      gaveUp := by
        intro i backend ending at_ stage
        rw [idle at_] at stage
        cases stage
      accounted := nofun
      frozen := nofun }

/-- The count of a record that is quarantined cannot change any more. -/
theorem Sound.freeze (sound : world.Sound config frozen) {record : Nat} {state : WarmRuntime}
    (at_ : world.heap[record]? = some state) (quarantined : state.quarantined = true) :
    world.Sound config fun other =>
      if other = record then some (world.handedOut.count record) else none := by
  refine { sound with frozen := ?_ }
  intro other count isFrozen
  by_cases same : other = record
  · rw [if_pos same] at isFrozen
    subst same
    exact ⟨state, at_, quarantined, Option.some.inj isFrozen⟩
  · rw [if_neg same] at isFrozen
    cases isFrozen

end LeaseWorld

/-- Whatever steps of any number of backends interleave: no record has two holders; the pool has
as many records at most as the configuration allows; a record that is quarantined is handed out
no more, whatever comes then; a record is counted until it is torn down. -/
theorem leasing_exclusive (config : SimulatorConfig) (backends : Nat) (events : List LeaseEvent) :
    let world := (LeaseWorld.fresh backends).run config events
    (∀ (i j : Nat) (first second : RuntimeEpisodeBackend) (record : Nat),
      world.backends[i]? = some first → world.backends[j]? = some second →
        first.held = some record → second.held = some record → i = j) ∧
    world.runtimeCount ≤ config.maxActiveRuntimes ∧
    (∀ (record : Nat) (state : WarmRuntime), world.heap[record]? = some state →
      state.quarantined = true → ∀ later : List LeaseEvent,
        (world.run config later).handedOut.count record = world.handedOut.count record) ∧
    ∀ record < world.heap.length, record ∉ world.tornDown → record ∈ world.pooled := by
  intro world
  have sound : world.Sound config fun _ => none := (LeaseWorld.sound_fresh backends).run events
  refine ⟨sound.exclusive, ?_, ?_, ?_⟩
  · rw [LeaseWorld.runtimeCount_eq]
    exact sound.count_le
  · intro record state at_ quarantined later
    obtain ⟨-, -, -, counted⟩ :=
      ((sound.freeze at_ quarantined).run later).frozen record _ (if_pos rfl)
    exact counted
  · intro record below kept
    exact (sound.accounted record below).resolve_right kept

end NetOpsBench
