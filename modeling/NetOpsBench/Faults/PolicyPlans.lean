import NetOpsBench.Faults.PolicyCommands

/-!
# Plans of scoped policies

The operations of some attachments, applied one after the other and restored in reverse.
-/

namespace NetOpsBench

/-- The name of the route-map of an attachment. -/
def policyName (token : PolicyToken) (index : Nat) : String := token.text ++ toString index

/-- The policy that the code takes for the one attached to a slot. -/
def readOriginal (config : List ConfigLine) (direction : Direction) : PolicySlot → Option String
  | .peer address => firstAttachment config address direction
  | .network routeMap => routeMap.bind Text.nonempty

/-- Two names of one place. -/
def PolicySlot.same : PolicySlot → PolicySlot → Bool
  | .peer first, .peer second => first == second
  | .network _, .network _ => true
  | _, _ => false

section Slots

variable {Net : Type} [DecidableEq Net] {network : Net} {direction : Direction}
  {state : FrrState Net} {slot slot' : PolicySlot} {map : Option String}

theorem slotNow_setSlot :
    slotNow network direction (setSlot network direction state slot map) slot' =
      if slot.same slot' = true then some map else slotNow network direction state slot' := by
  cases slot with
  | peer address =>
      cases slot' with
      | peer address' =>
          by_cases same : address = address'
          · subst same
            simp [slotNow, setSlot, FrrState.attach, PolicySlot.same]
          · simp [slotNow, setSlot, FrrState.attach, PolicySlot.same, same, Function.update_of_ne (Ne.symm same)]
      | network statement' => simp [slotNow, setSlot, FrrState.attach, PolicySlot.same]
  | network statement =>
      cases slot' with
      | peer address' => simp [slotNow, setSlot, FrrState.setNetwork, PolicySlot.same]
      | network statement' => simp [slotNow, setSlot, FrrState.setNetwork, PolicySlot.same]

/-- The attachments outside the direction and the other networks. -/
def slotsElsewhere (network : Net) (direction : Direction) (state : FrrState Net) :
    (String → Direction → Option (Option String)) × (Net → Option (Option String)) :=
  (fun peer way => if way = direction then none else some (state.attached peer way),
    fun other => if other = network then none else state.networks other)

theorem slotsElsewhere_setSlot :
    slotsElsewhere network direction (setSlot network direction state slot map) =
      slotsElsewhere network direction state := by
  unfold slotsElsewhere
  cases slot with
  | peer address =>
      simp only [setSlot, FrrState.attach, Prod.mk.injEq, and_true]
      funext peer way
      split
      · rfl
      · rename_i other
        by_cases same : peer = address
        · subst same
          simp [Function.update_of_ne other]
        · simp [Function.update_of_ne same]
  | network statement =>
      simp only [setSlot, FrrState.setNetwork, Prod.mk.injEq, true_and]
      funext other
      split
      · rfl
      · rename_i differs
        simp [Function.update_of_ne differs]

/-- A state is given by its slots and the rest. -/
theorem frrState_ext {state state' : FrrState Net} (asn : state.asn = state'.asn)
    (peers : state.peers = state'.peers) (maps : state.maps = state'.maps)
    (lists : state.lists = state'.lists)
    (slots : ∀ slot, slotNow network direction state slot = slotNow network direction state' slot)
    (elsewhere : slotsElsewhere network direction state = slotsElsewhere network direction state') :
    state = state' := by
  have attached : state.attached = state'.attached := by
    funext peer way
    by_cases same : way = direction
    · subst same
      simpa [slotNow] using slots (.peer peer)
    · have other := congrFun (congrFun (congrArg Prod.fst elsewhere) peer) way
      simpa [slotsElsewhere, same] using other
  have networks : state.networks = state'.networks := by
    funext other
    by_cases same : other = network
    · subst same
      exact slots (.network none)
    · have there := congrFun (congrArg Prod.snd elsewhere) other
      simpa [slotsElsewhere, same] using there
  cases state
  cases state'
  simp_all

end Slots

/-! ## Plans -/

/-- What the operations of a call have in common. -/
structure PolicyPlan (Net : Type) : Type where
  token : PolicyToken
  config : List ConfigLine
  target : String
  network : Net
  direction : Direction

namespace PolicyPlan

variable {Net Route : Type} [DecidableEq Net]

def name (plan : PolicyPlan Net) (index : Nat) : String := policyName plan.token index

def original (plan : PolicyPlan Net) (slot : PolicySlot) : Option String :=
  readOriginal plan.config plan.direction slot

def now (plan : PolicyPlan Net) (state : FrrState Net) (slot : PolicySlot) : Option (Option String) :=
  slotNow plan.network plan.direction state slot

def install (plan : PolicyPlan Net) (state : FrrState Net) (attachment : PolicySlot × Nat) :
    FrrState Net :=
  installed plan.network plan.direction plan.target (plan.name attachment.2)
    (clonedTerms plan.config (plan.original attachment.1)) attachment.1 state

def remove (plan : PolicyPlan Net) (state : FrrState Net) (attachment : PolicySlot × Nat) :
    FrrState Net :=
  removed plan.network plan.direction (plan.name attachment.2) (plan.original attachment.1)
    attachment.1 state

/-- The operation of an attachment. -/
def Builds (plan : PolicyPlan Net) (asn : Nat) (attachment : PolicySlot × Nat)
    (operation : PolicyOperation) : Prop :=
  ∃ cloned,
    clonePolicy (plan.config.map ConfigLine.text) (plan.original attachment.1)
      (plan.name attachment.2) = .ok cloned ∧
    operation = buildOperation plan.target (plan.name attachment.2) asn plan.direction attachment.1
      (plan.original attachment.1) cloned

variable {plan : PolicyPlan Net} {state : FrrState Net} {attachment : PolicySlot × Nat}
  {slot : PolicySlot} {name : String}

theorem maps_install : (plan.install state attachment).maps name =
    if name = plan.name attachment.2 then
      guardTerm (plan.name attachment.2 ++ "L") :: clonedTerms plan.config (plan.original attachment.1)
    else state.maps name := by
  obtain ⟨slot, index⟩ := attachment
  cases slot <;> exact Function.update_apply ..

theorem lists_install : (plan.install state attachment).lists name =
    if name = plan.name attachment.2 ++ "L" then [onlyEntry plan.target] else state.lists name := by
  obtain ⟨slot, index⟩ := attachment
  cases slot <;> exact Function.update_apply ..

theorem now_install : plan.now (plan.install state attachment) slot =
    if attachment.1.same slot = true then some (some (plan.name attachment.2))
    else plan.now state slot := by
  unfold now install installed
  rw [slotNow_setSlot]
  cases slot <;> rfl

theorem asn_install : (plan.install state attachment).asn = state.asn := by
  obtain ⟨slot, index⟩ := attachment
  cases slot <;> rfl

theorem peers_install : (plan.install state attachment).peers = state.peers := by
  obtain ⟨slot, index⟩ := attachment
  cases slot <;> rfl

theorem elsewhere_install :
    slotsElsewhere plan.network plan.direction (plan.install state attachment) =
      slotsElsewhere plan.network plan.direction state := slotsElsewhere_setSlot

theorem maps_remove : (plan.remove state attachment).maps name =
    if name = plan.name attachment.2 then [] else state.maps name := by
  obtain ⟨slot, index⟩ := attachment
  cases slot <;> exact Function.update_apply ..

theorem lists_remove : (plan.remove state attachment).lists name =
    if name = plan.name attachment.2 ++ "L" then [] else state.lists name := by
  obtain ⟨slot, index⟩ := attachment
  cases slot <;> exact Function.update_apply ..

theorem now_remove : plan.now (plan.remove state attachment) slot =
    if attachment.1.same slot = true then some (plan.original attachment.1)
    else plan.now state slot := by
  have same : plan.now (plan.remove state attachment) slot = slotNow plan.network plan.direction
      (setSlot plan.network plan.direction state attachment.1 (plan.original attachment.1)) slot := by
    cases slot <;> rfl
  rw [same, slotNow_setSlot]
  rfl

theorem asn_remove : (plan.remove state attachment).asn = state.asn := by
  obtain ⟨slot, index⟩ := attachment
  cases slot <;> rfl

theorem peers_remove : (plan.remove state attachment).peers = state.peers := by
  obtain ⟨slot, index⟩ := attachment
  cases slot <;> rfl

theorem elsewhere_remove :
    slotsElsewhere plan.network plan.direction (plan.remove state attachment) =
      slotsElsewhere plan.network plan.direction state := by
  have same := @slotsElsewhere_setSlot _ _ plan.network plan.direction state attachment.1
    (plan.original attachment.1)
  exact same

/-! ## All the attachments -/

def installAll (plan : PolicyPlan Net) (state : FrrState Net)
    (attachments : List (PolicySlot × Nat)) : FrrState Net :=
  attachments.foldl plan.install state

def removeAll (plan : PolicyPlan Net) (state : FrrState Net)
    (attachments : List (PolicySlot × Nat)) : FrrState Net :=
  attachments.foldl plan.remove state

omit [DecidableEq Net] in
theorem name_inj {index index' : Nat} (same : plan.name index = plan.name index') :
    index = index' := by
  unfold name policyName at same
  have digits := congrArg String.toList same
  rw [String.toList_append, String.toList_append, List.append_cancel_left_eq,
    String.toList_inj] at digits
  rw [← Text.numeralValue_toString index, digits, Text.numeralValue_toString]

omit [DecidableEq Net] in
theorem listName_inj {index index' : Nat} (same : plan.name index ++ "L" = plan.name index' ++ "L") :
    index = index' := by
  have chars := congrArg String.toList same
  rw [String.toList_append, String.toList_append, List.append_cancel_right_eq,
    String.toList_inj] at chars
  exact name_inj chars

variable {attachments : List (PolicySlot × Nat)}

/-- An installation keeps what has another name. -/
theorem keeps_installAll :
    ((∀ a ∈ attachments, name ≠ plan.name a.2) →
      (plan.installAll state attachments).maps name = state.maps name) ∧
    ((∀ a ∈ attachments, name ≠ plan.name a.2 ++ "L") →
      (plan.installAll state attachments).lists name = state.lists name) := by
  unfold installAll
  induction attachments generalizing state with
  | nil => simp
  | cons first rest ih =>
      rw [List.foldl_cons, List.forall_mem_cons, List.forall_mem_cons]
      constructor
      · intro others
        rw [(ih.1 others.2), maps_install, if_neg others.1]
      · intro others
        rw [(ih.2 others.2), lists_install, if_neg others.1]

theorem keeps_removeAll :
    ((∀ a ∈ attachments, name ≠ plan.name a.2) →
      (plan.removeAll state attachments).maps name = state.maps name) ∧
    ((∀ a ∈ attachments, name ≠ plan.name a.2 ++ "L") →
      (plan.removeAll state attachments).lists name = state.lists name) := by
  unfold removeAll
  induction attachments generalizing state with
  | nil => simp
  | cons first rest ih =>
      rw [List.foldl_cons, List.forall_mem_cons, List.forall_mem_cons]
      constructor
      · intro others
        rw [(ih.1 others.2), maps_remove, if_neg others.1]
      · intro others
        rw [(ih.2 others.2), lists_remove, if_neg others.1]

/-- Every attachment of an installation has its route-map and its list. -/
theorem made_installAll (distinct : (attachments.map Prod.snd).Nodup)
    (mem : attachment ∈ attachments) :
    (plan.installAll state attachments).maps (plan.name attachment.2) =
        guardTerm (plan.name attachment.2 ++ "L") ::
          clonedTerms plan.config (plan.original attachment.1) ∧
      (plan.installAll state attachments).lists (plan.name attachment.2 ++ "L") =
        [onlyEntry plan.target] := by
  induction attachments generalizing state with
  | nil => cases mem
  | cons first rest ih =>
      rw [List.map_cons, List.nodup_cons] at distinct
      rcases List.mem_cons.mp mem with rfl | later
      · have others : ∀ a ∈ rest, a.2 ≠ attachment.2 := by
          intro a isRest same
          exact distinct.1 (same ▸ List.mem_map_of_mem isRest)
        constructor
        · have kept := (@keeps_installAll _ _ plan (plan.install state attachment)
            (plan.name attachment.2) rest).1 fun a isRest same => others a isRest (name_inj same).symm
          exact kept.trans (by rw [maps_install, if_pos rfl])
        · have kept := (@keeps_installAll _ _ plan (plan.install state attachment)
            (plan.name attachment.2 ++ "L") rest).2
              fun a isRest same => others a isRest (listName_inj same).symm
          exact kept.trans (by rw [lists_install, if_pos rfl])
      · exact ih distinct.2 later

/-- Every attachment of a removal has lost its route-map and its list. -/
theorem gone_removeAll (mem : attachment ∈ attachments) :
    (plan.removeAll state attachments).maps (plan.name attachment.2) = [] ∧
      (plan.removeAll state attachments).lists (plan.name attachment.2 ++ "L") = [] := by
  unfold removeAll
  induction attachments using List.reverseRecOn with
  | nil => cases mem
  | append_singleton rest last ih =>
      rw [List.foldl_append, List.foldl_cons, List.foldl_nil, maps_remove, lists_remove]
      rcases List.mem_append.mp mem with earlier | isLast
      · rw [(ih earlier).1, (ih earlier).2]
        simp
      · rw [List.mem_singleton.mp isLast, if_pos rfl, if_pos rfl]
        exact ⟨rfl, rfl⟩

theorem same_self (slot : PolicySlot) : slot.same slot = true := by
  cases slot <;> simp [PolicySlot.same]

/-- A slot of an installation has the route-map of one of its attachments. -/
theorem now_installAll (only : ∀ a ∈ attachments, a.1.same slot = true → a.1 = slot)
    (mem : slot ∈ attachments.map Prod.fst) :
    ∃ index, (slot, index) ∈ attachments ∧
      plan.now (plan.installAll state attachments) slot = some (some (plan.name index)) := by
  unfold installAll
  induction attachments using List.reverseRecOn with
  | nil => cases mem
  | append_singleton rest last ih =>
      rw [List.foldl_append, List.foldl_cons, List.foldl_nil, now_install]
      split
      · rename_i same
        have isSlot := only last (by simp) same
        refine ⟨last.2, ?_, rfl⟩
        rw [← isSlot]
        simp
      · rename_i differs
        rw [List.map_append, List.mem_append] at mem
        rcases mem with earlier | isLast
        · obtain ⟨index, here, isNow⟩ := ih (fun a isRest => only a (List.mem_append_left _ isRest)) earlier
          exact ⟨index, List.mem_append_left _ here, isNow⟩
        · rw [List.map_singleton, List.mem_singleton] at isLast
          rw [isLast, same_self] at differs
          exact (differs rfl).elim

theorem there_installAll (there : plan.now state slot ≠ none) :
    plan.now (plan.installAll state attachments) slot ≠ none := by
  unfold installAll
  induction attachments generalizing state with
  | nil => exact there
  | cons first rest ih =>
      rw [List.foldl_cons]
      apply ih
      rw [now_install]
      split
      · nofun
      · exact there

/-- After a removal, its slots have what was read for them. -/
theorem now_removeAll (only : ∀ a ∈ attachments, a.1.same slot = true → a.1 = slot) :
    plan.now (plan.removeAll state attachments) slot =
      if slot ∈ attachments.map Prod.fst then some (plan.original slot) else plan.now state slot := by
  unfold removeAll
  induction attachments using List.reverseRecOn with
  | nil => simp
  | append_singleton rest last ih =>
      rw [List.foldl_append, List.foldl_cons, List.foldl_nil, now_remove,
        ih fun a isRest => only a (List.mem_append_left _ isRest)]
      by_cases same : last.1.same slot = true
      · have isSlot := only last (by simp) same
        rw [if_pos same, isSlot, if_pos (by simp [← isSlot])]
      · have differs : slot ≠ last.1 := by
          intro isLast
          rw [isLast, same_self] at same
          exact same rfl
        have shorter : slot ∈ (rest ++ [last]).map Prod.fst ↔ slot ∈ rest.map Prod.fst := by
          rw [List.map_append, List.mem_append, List.map_singleton, List.mem_singleton]
          exact or_iff_left differs
        rw [if_neg same]
        simp only [shorter]

theorem rest_installAll : (plan.installAll state attachments).asn = state.asn ∧
    (plan.installAll state attachments).peers = state.peers ∧
    slotsElsewhere plan.network plan.direction (plan.installAll state attachments) =
      slotsElsewhere plan.network plan.direction state := by
  unfold installAll
  induction attachments generalizing state with
  | nil => simp
  | cons first rest ih =>
      rw [List.foldl_cons]
      obtain ⟨asn, peers, elsewhere⟩ := @ih (plan.install state first)
      exact ⟨asn.trans asn_install, peers.trans peers_install, elsewhere.trans elsewhere_install⟩

theorem rest_removeAll : (plan.removeAll state attachments).asn = state.asn ∧
    (plan.removeAll state attachments).peers = state.peers ∧
    slotsElsewhere plan.network plan.direction (plan.removeAll state attachments) =
      slotsElsewhere plan.network plan.direction state := by
  unfold removeAll
  induction attachments generalizing state with
  | nil => simp
  | cons first rest ih =>
      rw [List.foldl_cons]
      obtain ⟨asn, peers, elsewhere⟩ := @ih (plan.remove state first)
      exact ⟨asn.trans asn_remove, peers.trans peers_remove, elsewhere.trans elsewhere_remove⟩

/-! ## Runs of the operations -/

omit [DecidableEq Net] in
theorem solid_name (plan : PolicyPlan Net) (index : Nat) : Text.Solid (plan.name index) := by
  have isToken : Text.Solid plan.token.text := by
    constructor
    · intro empty
      have chars := congrArg String.toList empty
      simp [PolicyToken.text] at chars
    · intro c mem
      have hex : ('P' :: "0123456789ABCDEF".toList).all (fun c => !Text.isSpace c) = true := by rfl
      have visible : ∀ c ∈ 'P' :: "0123456789ABCDEF".toList, Text.isSpace c = false := by
        intro c mem
        simpa using List.all_eq_true.mp hex c mem
      apply visible
      simp only [PolicyToken.text, String.toList_append, String.toList_ofList] at mem
      rcases List.mem_append.mp mem with isP | isDigit
      · exact List.mem_cons.mpr (.inl (by simpa using isP))
      · exact List.mem_cons_of_mem _ (plan.token.hex c isDigit)
  exact isToken.append (Text.Solid.toString index)

omit [DecidableEq Net] in
theorem capital_name (plan : PolicyPlan Net) (index : Nat) :
    (plan.name index).toList.any Char.isUpper = true := by
  simp [name, policyName, PolicyToken.text]

variable {shell : Vtysh Net Route} {before : FrrState Net} {asn : Nat}
  {operation : PolicyOperation} {operations : List PolicyOperation}

/-- The plan is about the router that runs the configuration. -/
structure Fits (plan : PolicyPlan Net) (shell : Vtysh Net Route) (before : FrrState Net) : Prop where
  running : Running shell plan.config before
  target : Text.Solid plan.target
  reads : shell.readNetwork plan.target = some plan.network

/-- A peer of the slot is the router's, and what is read for the slot is one word. -/
structure Proper (plan : PolicyPlan Net) (state : FrrState Net) (slot : PolicySlot) : Prop where
  known : SlotKnown state slot
  word : ∀ name ∈ plan.original slot, Text.Solid name

omit [DecidableEq Net] in
theorem Proper.of_peers {state' : FrrState Net} (proper : plan.Proper state slot)
    (peers : state'.peers = state.peers) : plan.Proper state' slot where
  known := by
    cases slot with
    | peer address => exact ⟨peers ▸ proper.known.1, proper.known.2⟩
    | network statement => trivial
  word := proper.word

theorem call_install (fits : plan.Fits shell before) (proper : plan.Proper state attachment.1)
    (read : ¬ Ambiguous (plan.original attachment.1))
    (builds : plan.Builds state.asn attachment operation)
    (newMap : state.maps (plan.name attachment.2) = [])
    (newList : state.lists (plan.name attachment.2 ++ "L") = [])
    (there : plan.now state attachment.1 ≠ none) :
    shell.call state operation.apply = some (plan.install state attachment) := by
  obtain ⟨cloned, isCloned, rfl⟩ := builds
  exact call_apply fits.running (solid_name plan _) fits.target fits.reads proper.word read isCloned
    newMap newList proper.known there

theorem call_remove (fits : plan.Fits shell before) (proper : plan.Proper state attachment.1)
    (builds : plan.Builds state.asn attachment operation)
    (there : plan.now state attachment.1 ≠ none)
    (isMade : state.maps (plan.name attachment.2) ≠ [])
    (isListed : state.lists (plan.name attachment.2 ++ "L") ≠ []) :
    shell.call state operation.restore = some (plan.remove state attachment) := by
  obtain ⟨cloned, isCloned, rfl⟩ := builds
  exact call_restore (solid_name plan _) fits.target fits.reads proper.word proper.known there isMade
    isListed

/-- Every attachment is there, and its names are new. -/
structure Ready (plan : PolicyPlan Net) (state : FrrState Net)
    (attachments : List (PolicySlot × Nat)) : Prop where
  proper : ∀ a ∈ attachments, plan.Proper state a.1
  there : ∀ a ∈ attachments, plan.now state a.1 ≠ none
  newMap : ∀ a ∈ attachments, state.maps (plan.name a.2) = []
  newList : ∀ a ∈ attachments, state.lists (plan.name a.2 ++ "L") = []
  distinct : (attachments.map Prod.snd).Nodup

theorem Ready.rest {first : PolicySlot × Nat} (ready : plan.Ready state (first :: attachments)) :
    plan.Ready (plan.install state first) attachments := by
  have distinct := ready.distinct
  rw [List.map_cons, List.nodup_cons] at distinct
  have others : ∀ a ∈ attachments, a.2 ≠ first.2 := by
    intro a isRest same
    exact distinct.1 (same ▸ List.mem_map_of_mem isRest)
  refine ⟨fun a mem => ?_, fun a mem => ?_, fun a mem => ?_, fun a mem => ?_, distinct.2⟩
  · exact (ready.proper a (List.mem_cons_of_mem first mem)).of_peers peers_install
  · rw [now_install]
    split
    · nofun
    · exact ready.there a (List.mem_cons_of_mem first mem)
  · rw [maps_install, if_neg fun same => others a mem (name_inj same)]
    exact ready.newMap a (List.mem_cons_of_mem first mem)
  · rw [lists_install, if_neg fun same => others a mem (listName_inj same)]
    exact ready.newList a (List.mem_cons_of_mem first mem)

/-- The operations of attachments that are ready install them all. -/
theorem calls_install (fits : plan.Fits shell before)
    (builds : List.Forall₂ (plan.Builds state.asn) attachments operations)
    (ready : plan.Ready state attachments)
    (read : ∀ a ∈ attachments, ¬ Ambiguous (plan.original a.1)) :
    shell.calls state (operations.map PolicyOperation.apply) =
      some (plan.installAll state attachments) := by
  induction attachments generalizing state operations with
  | nil =>
      cases builds
      rfl
  | cons first rest ih =>
      cases builds with
      | cons head tail =>
          have isFirst := List.mem_cons_self (a := first) (l := rest)
          rw [List.map_cons, Vtysh.calls, call_install fits (ready.proper first isFirst)
            (read first isFirst) head (ready.newMap first isFirst) (ready.newList first isFirst)
            (ready.there first isFirst)]
          rw [← @asn_install _ _ plan state first] at tail
          exact ih tail ready.rest fun a mem => read a (List.mem_cons_of_mem first mem)

/-- Every attachment is there with its route-map and its list. -/
structure Placed (plan : PolicyPlan Net) (state : FrrState Net)
    (attachments : List (PolicySlot × Nat)) : Prop where
  proper : ∀ a ∈ attachments, plan.Proper state a.1
  there : ∀ a ∈ attachments, plan.now state a.1 ≠ none
  isMade : ∀ a ∈ attachments, state.maps (plan.name a.2) ≠ []
  isListed : ∀ a ∈ attachments, state.lists (plan.name a.2 ++ "L") ≠ []
  distinct : (attachments.map Prod.snd).Nodup

theorem Placed.rest {first : PolicySlot × Nat} (placed : plan.Placed state (first :: attachments)) :
    plan.Placed (plan.remove state first) attachments := by
  have distinct := placed.distinct
  rw [List.map_cons, List.nodup_cons] at distinct
  have others : ∀ a ∈ attachments, a.2 ≠ first.2 := by
    intro a isRest same
    exact distinct.1 (same ▸ List.mem_map_of_mem isRest)
  refine ⟨fun a mem => ?_, fun a mem => ?_, fun a mem => ?_, fun a mem => ?_, distinct.2⟩
  · exact (placed.proper a (List.mem_cons_of_mem first mem)).of_peers peers_remove
  · rw [now_remove]
    split
    · nofun
    · exact placed.there a (List.mem_cons_of_mem first mem)
  · rw [maps_remove, if_neg fun same => others a mem (name_inj same)]
    exact placed.isMade a (List.mem_cons_of_mem first mem)
  · rw [lists_remove, if_neg fun same => others a mem (listName_inj same)]
    exact placed.isListed a (List.mem_cons_of_mem first mem)

/-- The operations of attachments that are placed remove them all. -/
theorem calls_remove (fits : plan.Fits shell before)
    (builds : List.Forall₂ (plan.Builds state.asn) attachments operations)
    (placed : plan.Placed state attachments) :
    shell.calls state (operations.map PolicyOperation.restore) =
      some (plan.removeAll state attachments) := by
  induction attachments generalizing state operations with
  | nil =>
      cases builds
      rfl
  | cons first rest ih =>
      cases builds with
      | cons head tail =>
          have isFirst := List.mem_cons_self (a := first) (l := rest)
          rw [List.map_cons, Vtysh.calls, call_remove fits (placed.proper first isFirst) head
            (placed.there first isFirst) (placed.isMade first isFirst)
            (placed.isListed first isFirst)]
          rw [← @asn_remove _ _ plan state first] at tail
          exact ih tail placed.rest

/-- What is installed is placed, in any order. -/
theorem Ready.placed (ready : plan.Ready state attachments)
    {others : List (PolicySlot × Nat)} (perm : others.Perm attachments) :
    plan.Placed (plan.installAll state attachments) others := by
  refine ⟨fun a mem => ?_, fun a mem => ?_, fun a mem => ?_, fun a mem => ?_, ?_⟩
  · exact (ready.proper a (perm.mem_iff.mp mem)).of_peers rest_installAll.2.1
  · exact there_installAll (ready.there a (perm.mem_iff.mp mem))
  · rw [(made_installAll ready.distinct (perm.mem_iff.mp mem)).1]
    exact List.cons_ne_nil _ _
  · rw [(made_installAll ready.distinct (perm.mem_iff.mp mem)).2]
    exact List.cons_ne_nil _ _
  · exact (perm.map Prod.snd).nodup_iff.mpr ready.distinct

end PolicyPlan

/-! ## What the policies let through -/

/-- Nothing of the router has a name made of the token, and no clause mentions one. -/
structure FreshToken {Net : Type} (token : PolicyToken) (state : FrrState Net) : Prop where
  maps : ∀ index, state.maps (policyName token index) = []
  lists : ∀ index, state.lists (policyName token index ++ "L") = []
  unmentioned : ∀ index owner, ∀ term ∈ state.maps owner, ∀ clause ∈ term.clauses,
    policyName token index ∉ clause ∧ policyName token index ++ "L" ∉ clause

/-- No route-map and no prefix list of the router is changed. -/
def KeepsPolicies {Net : Type} (before after : FrrState Net) : Prop :=
  ∀ name, (before.maps name ≠ [] → after.maps name = before.maps name) ∧
    (before.lists name ≠ [] → after.lists name = before.lists name)

namespace PolicyPlan

variable {Net Route : Type} [DecidableEq Net] {plan : PolicyPlan Net} {shell : Vtysh Net Route}
  {before : FrrState Net} {attachments : List (PolicySlot × Nat)} {attachment : PolicySlot × Nat}

theorem extends_installAll (fresh : FreshToken plan.token before) :
    before.Extends (plan.installAll before attachments) := by
  refine ⟨fun name there => ?_, fun name there => ?_, fun name differs => ?_⟩
  · exact keeps_installAll.1 fun a _ same => there (same ▸ fresh.maps a.2)
  · exact keeps_installAll.2 fun a _ same => there (same ▸ fresh.lists a.2)
  · intro owner term mem clause isClause
    rcases differs with newMap | newList
    · obtain ⟨a, isNew⟩ := not_forall.mp fun others => newMap (keeps_installAll.1 others).symm
      obtain ⟨_, same⟩ := not_forall.mp isNew
      rw [not_not.mp same]
      exact (fresh.unmentioned a.2 owner term mem clause isClause).1
    · obtain ⟨a, isNew⟩ := not_forall.mp fun others => newList (keeps_installAll.2 others).symm
      obtain ⟨_, same⟩ := not_forall.mp isNew
      rw [not_not.mp same]
      exact (fresh.unmentioned a.2 owner term mem clause isClause).2

/-- The clone decides as the original did. -/
theorem verdict_clonedTerms (fits : plan.Fits shell before) (fresh : FreshToken plan.token before)
    (original : Option String) (route : Route) :
    FirstMatch.verdict (shell.judgeTerm (plan.installAll before attachments)) RouteTerm.permits
        (clonedTerms plan.config original) route = shell.policy before original route := by
  cases original with
  | none =>
      have permits : shell.judgeTerm (plan.installAll before attachments) ⟨100, .permit, []⟩ route =
          some route := shell.judge_nil _ route
      exact FirstMatch.verdict_cons_some permits
  | some name =>
      unfold clonedTerms Vtysh.policy
      dsimp only
      rw [← fits.running.maps]
      exact FirstMatch.verdict_congr fun term mem =>
        shell.judge_extends route (extends_installAll fresh) mem

/-- The new policy denies the target alone. -/
theorem policy_installAll (fits : plan.Fits shell before) (fresh : FreshToken plan.token before)
    (distinct : (attachments.map Prod.snd).Nodup) (mem : attachment ∈ attachments) (route : Route) :
    shell.policy (plan.installAll before attachments) (some (plan.name attachment.2)) route =
      if shell.destination route = plan.network then none
      else shell.policy before (plan.original attachment.1) route := by
  obtain ⟨isMade, isListed⟩ := @made_installAll _ _ plan before attachment attachments distinct mem
  have guards : shell.judgeTerm (plan.installAll before attachments)
      (guardTerm (plan.name attachment.2 ++ "L")) route =
        if shell.destination route = plan.network then some route else none :=
    shell.judge_list route isListed fits.reads
  have opened : shell.policy (plan.installAll before attachments) (some (plan.name attachment.2)) route =
      FirstMatch.verdict (shell.judgeTerm (plan.installAll before attachments)) RouteTerm.permits
        (guardTerm (plan.name attachment.2 ++ "L") ::
          clonedTerms plan.config (plan.original attachment.1)) route := by
    unfold Vtysh.policy
    dsimp only
    rw [isMade]
  rw [opened]
  split
  · rename_i isTarget
    rw [if_pos isTarget] at guards
    exact FirstMatch.verdict_cons_some guards
  · rename_i other
    rw [if_neg other] at guards
    rw [FirstMatch.verdict_cons_none guards]
    exact verdict_clonedTerms fits fresh (plan.original attachment.1) route

theorem keepsPolicies_installAll (fresh : FreshToken plan.token before) :
    KeepsPolicies before (plan.installAll before attachments) := fun name =>
  ⟨(extends_installAll fresh).maps name, (extends_installAll fresh).lists name⟩

theorem keepsPolicies_removeAll {state : FrrState Net} (fresh : FreshToken plan.token before)
    (keeps : KeepsPolicies before state) :
    KeepsPolicies before (plan.removeAll state attachments) := by
  intro name
  constructor
  · intro there
    have others : ∀ a ∈ attachments, name ≠ plan.name a.2 :=
      fun a _ same => there (same ▸ fresh.maps a.2)
    exact (keeps_removeAll.1 others).trans ((keeps name).1 there)
  · intro there
    have others : ∀ a ∈ attachments, name ≠ plan.name a.2 ++ "L" :=
      fun a _ same => there (same ▸ fresh.lists a.2)
    exact (keeps_removeAll.2 others).trans ((keeps name).2 there)

/-! ## The built operations -/

omit [DecidableEq Net] in
theorem original_word {config : List ConfigLine} {direction : Direction} {slot : PolicySlot}
    (parsed : ∀ routeMap, slot = .network (some routeMap) → Text.Solid routeMap) {name : String}
    (isName : readOriginal config direction slot = some name) : Text.Solid name := by
  cases slot with
  | peer address => exact solid_firstAttachment isName
  | network routeMap =>
      cases routeMap with
      | none => cases isName
      | some routeMap =>
          have isWord := parsed routeMap rfl
          have same : routeMap = name := by
            simpa [readOriginal, Text.nonempty, isWord.nonempty] using isName
          exact same ▸ isWord

omit [DecidableEq Net] in
theorem bind_nonempty {original : Option String} (isWord : ∀ name ∈ original, Text.Solid name) :
    original.bind Text.nonempty = original := by
  cases original with
  | none => rfl
  | some name => simp [Text.nonempty, (isWord name rfl).nonempty]

/-- What the code reads for a slot. -/
theorem slotOriginal_eq_ok {config : List ConfigLine} {direction : Direction} {slot : PolicySlot}
    {original : Option String} :
    slotOriginal (parseBgpConfig (config.map ConfigLine.text)) direction slot = .ok original ↔
      original = readOriginal config direction slot ∧ ∀ address, slot = .peer address →
        (parseBgpConfig (config.map ConfigLine.text)).neighbor address ≠ none := by
  unfold slotOriginal readOriginal
  cases slot with
  | peer address =>
      dsimp only
      cases known : (parseBgpConfig (config.map ConfigLine.text)).neighbor address with
      | none => simp [known]
      | some neighbor =>
          have policy := @policy_parseBgpConfig config address direction neighbor known
          have same := @bind_nonempty (firstAttachment config address direction)
            fun name isName => solid_firstAttachment isName
          simp [known, policy, same, eq_comm]
  | network routeMap => simp [eq_comm]

omit [DecidableEq Net] in
theorem builds_policyOperation {asn : Nat} {operation : PolicyOperation}
    (isOperation : policyOperation plan.token (plan.config.map ConfigLine.text) asn plan.target
      plan.direction attachment = .ok operation) : plan.Builds asn attachment operation := by
  unfold policyOperation at isOperation
  obtain ⟨original, isOriginal, later⟩ := Fallible.bind_eq_ok.mp isOperation
  obtain ⟨cloned, isCloned, last⟩ := Fallible.bind_eq_ok.mp later
  obtain ⟨rfl, _⟩ := slotOriginal_eq_ok.mp isOriginal
  cases last
  exact ⟨cloned, isCloned, rfl⟩

/-! ## Applying and restoring -/

variable {state : FrrState Net} {slot : PolicySlot} {operations : List PolicyOperation}

/-- Different slots of a call are different places. -/
def Coherent (attachments : List (PolicySlot × Nat)) : Prop :=
  ∀ a ∈ attachments, ∀ b ∈ attachments, a.1.same b.1 = true → a.1 = b.1

omit [DecidableEq Net] in
theorem now_congr {slot' : PolicySlot} (same : slot.same slot' = true) :
    plan.now state slot = plan.now state slot' := by
  cases slot <;> cases slot' <;> simp_all [PolicySlot.same, now, slotNow]

theorem now_installAll_others (others : ∀ a ∈ attachments, a.1.same slot = false) :
    plan.now (plan.installAll state attachments) slot = plan.now state slot := by
  unfold installAll
  induction attachments generalizing state with
  | nil => rfl
  | cons first rest ih =>
      rw [List.foldl_cons, ih fun a mem => others a (List.mem_cons_of_mem first mem), now_install,
        if_neg (by simp [others first (List.mem_cons_self ..)])]

/-- Restoring what was applied gives the router back, if what was read was attached. -/
theorem removeAll_installAll (fresh : FreshToken plan.token before) (coherent : Coherent attachments)
    (current : ∀ a ∈ attachments, plan.now before a.1 = some (plan.original a.1)) :
    plan.removeAll (plan.installAll before attachments) attachments.reverse = before := by
  obtain ⟨asn, peers, elsewhere⟩ := @rest_removeAll _ _ plan (plan.installAll before attachments)
    attachments.reverse
  obtain ⟨asn', peers', elsewhere'⟩ := @rest_installAll _ _ plan before attachments
  refine frrState_ext (asn.trans asn') (peers.trans peers') ?_ ?_ (fun slot => ?_)
    (elsewhere.trans elsewhere')
  · funext name
    by_cases others : ∀ a ∈ attachments, name ≠ plan.name a.2
    · rw [keeps_removeAll.1 fun a mem => others a (List.mem_reverse.mp mem),
        keeps_installAll.1 others]
    · obtain ⟨a, isNew⟩ := not_forall.mp others
      obtain ⟨mem, same⟩ := not_forall.mp isNew
      rw [not_not.mp same, (gone_removeAll (List.mem_reverse.mpr mem)).1]
      exact (fresh.maps a.2).symm
  · funext name
    by_cases others : ∀ a ∈ attachments, name ≠ plan.name a.2 ++ "L"
    · rw [keeps_removeAll.2 fun a mem => others a (List.mem_reverse.mp mem),
        keeps_installAll.2 others]
    · obtain ⟨a, isNew⟩ := not_forall.mp others
      obtain ⟨mem, same⟩ := not_forall.mp isNew
      rw [not_not.mp same, (gone_removeAll (List.mem_reverse.mpr mem)).2]
      exact (fresh.lists a.2).symm
  · change plan.now _ slot = plan.now before slot
    by_cases others : ∀ a ∈ attachments, a.1.same slot = false
    · have kept : ∀ a ∈ attachments.reverse, a.1.same slot = true → a.1 = slot := by
        intro a mem same
        rw [others a (List.mem_reverse.mp mem)] at same
        cases same
      have absent : slot ∉ attachments.reverse.map Prod.fst := by
        intro mem
        obtain ⟨a, isA, rfl⟩ := List.mem_map.mp mem
        have self := others a (List.mem_reverse.mp isA)
        rw [same_self] at self
        cases self
      rw [now_removeAll kept, if_neg absent, now_installAll_others others]
    · obtain ⟨a, isSame⟩ := not_forall.mp others
      obtain ⟨mem, same⟩ := not_forall.mp isSame
      rw [Bool.not_eq_false] at same
      have only : ∀ b ∈ attachments.reverse, b.1.same a.1 = true → b.1 = a.1 :=
        fun b isB => coherent b (List.mem_reverse.mp isB) a mem
      have listed : a.1 ∈ attachments.reverse.map Prod.fst :=
        List.mem_map_of_mem (List.mem_reverse.mpr mem)
      rw [← now_congr same, now_removeAll only, if_pos listed, ← current a mem, now_congr same]

end PolicyPlan

/-- The operations deny the target in the slots and nothing else, they never change what is there,
and their restores give the router back. -/
structure ScopesSlots {Net Route : Type} [DecidableEq Net] (shell : Vtysh Net Route)
    (before : FrrState Net) (network : Net) (direction : Direction) (slots : List PolicySlot)
    (operations : List PolicyOperation) (applied : FrrState Net) : Prop where
  applies : shell.calls before (operations.map PolicyOperation.apply) = some applied
  denies : ∀ slot ∈ slots, ∃ name previous,
    slotNow network direction applied slot = some (some name) ∧
      slotNow network direction before slot = some previous ∧
      ∀ route, shell.policy applied (some name) route =
        if shell.destination route = network then none else shell.policy before previous route
  others : ∀ slot, (∀ target ∈ slots, target.same slot = false) →
    slotNow network direction applied slot = slotNow network direction before slot
  elsewhere : slotsElsewhere network direction applied = slotsElsewhere network direction before
  keepsApplying : ∀ count middle,
    shell.calls before ((operations.take count).map PolicyOperation.apply) = some middle →
      KeepsPolicies before middle
  keepsRestoring : ∀ count middle,
    shell.calls applied ((operations.reverse.take count).map PolicyOperation.restore) =
      some middle → KeepsPolicies before middle
  restores : shell.calls applied (operations.reverse.map PolicyOperation.restore) = some before

namespace PolicyPlan

variable {Net Route : Type} [DecidableEq Net] {plan : PolicyPlan Net} {shell : Vtysh Net Route}
  {before : FrrState Net} {attachments : List (PolicySlot × Nat)}
  {operations : List PolicyOperation}

omit [DecidableEq Net] in
theorem Ready.take (ready : plan.Ready before attachments) (count : Nat) :
    plan.Ready before (attachments.take count) where
  proper a mem := ready.proper a (List.mem_of_mem_take mem)
  there a mem := ready.there a (List.mem_of_mem_take mem)
  newMap a mem := ready.newMap a (List.mem_of_mem_take mem)
  newList a mem := ready.newList a (List.mem_of_mem_take mem)
  distinct := ready.distinct.sublist ((List.take_sublist count attachments).map Prod.snd)

omit [DecidableEq Net] in
theorem Placed.take {state : FrrState Net} (placed : plan.Placed state attachments) (count : Nat) :
    plan.Placed state (attachments.take count) where
  proper a mem := placed.proper a (List.mem_of_mem_take mem)
  there a mem := placed.there a (List.mem_of_mem_take mem)
  isMade a mem := placed.isMade a (List.mem_of_mem_take mem)
  isListed a mem := placed.isListed a (List.mem_of_mem_take mem)
  distinct := placed.distinct.sublist ((List.take_sublist count attachments).map Prod.snd)

/-- The restores after all the operations. -/
theorem calls_restores (fits : plan.Fits shell before)
    (builds : List.Forall₂ (plan.Builds before.asn) attachments operations)
    (ready : plan.Ready before attachments) (count : Nat) :
    shell.calls (plan.installAll before attachments)
        ((operations.reverse.take count).map PolicyOperation.restore) =
      some (plan.removeAll (plan.installAll before attachments)
        (attachments.reverse.take count)) := by
  have placed := ready.placed attachments.reverse_perm
  have reversed := List.forall₂_take count (List.rel_reverse builds)
  rw [← rest_installAll.1] at reversed
  exact calls_remove fits reversed (placed.take count)

theorem scopesSlots (fits : plan.Fits shell before) (fresh : FreshToken plan.token before)
    (builds : List.Forall₂ (plan.Builds before.asn) attachments operations)
    (ready : plan.Ready before attachments)
    (read : ∀ a ∈ attachments, ¬ Ambiguous (plan.original a.1)) (coherent : Coherent attachments)
    (current : ∀ a ∈ attachments, plan.now before a.1 = some (plan.original a.1)) :
    ScopesSlots shell before plan.network plan.direction (attachments.map Prod.fst) operations
      (plan.installAll before attachments) where
  applies := calls_install fits builds ready read
  denies slot mem := by
    obtain ⟨a, isA, rfl⟩ := List.mem_map.mp mem
    obtain ⟨index, here, isNow⟩ := @now_installAll _ _ plan before a.1 attachments
      (fun b isB same => coherent b isB a isA same) mem
    refine ⟨plan.name index, plan.original a.1, isNow, current a isA, fun route => ?_⟩
    exact policy_installAll fits fresh ready.distinct here route
  others slot differs := now_installAll_others fun a mem => differs a.1 (List.mem_map_of_mem mem)
  elsewhere := rest_installAll.2.2
  keepsApplying count middle runs := by
    rw [calls_install fits (List.forall₂_take count builds) (ready.take count)
      fun a mem => read a (List.mem_of_mem_take mem)] at runs
    cases runs
    exact keepsPolicies_installAll fresh
  keepsRestoring count middle runs := by
    rw [calls_restores fits builds ready count] at runs
    cases runs
    exact keepsPolicies_removeAll fresh (keepsPolicies_installAll fresh)
  restores := by
    have all := calls_restores fits builds ready operations.length
    rw [List.take_of_length_le (by simp), List.take_of_length_le (by simp [builds.length_eq]),
      removeAll_installAll fresh coherent current] at all
    exact all

/-- An operation that no router takes makes all the calls fail. -/
theorem calls_eq_none {operation : PolicyOperation} (mem : operation ∈ operations)
    (rejected : ∀ state, shell.call state operation.apply = none) :
    shell.calls before (operations.map PolicyOperation.apply) = none := by
  obtain ⟨first, last, rfl⟩ := List.append_of_mem mem
  rw [List.map_append, Vtysh.calls_append]
  cases shell.calls before (first.map PolicyOperation.apply) with
  | none => rfl
  | some middle =>
      change shell.calls middle (operation.apply :: last.map PolicyOperation.apply) = none
      rw [Vtysh.calls, rejected]

end PolicyPlan

end NetOpsBench
