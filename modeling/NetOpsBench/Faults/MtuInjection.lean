import NetOpsBench.Faults.Transaction
import NetOpsBench.Faults.VerifiedInjection

/-!
# The MTU that an injection restores

`inject_mtu_mismatch` restores the MTU that it read before its change, and `get_interface_mtu`
answers with that of another source where the interface cannot be read. However the later commands
answer, the injection ends verified or tracked if and only if what it read before is the MTU that
the interface had (`mtu_verified_iff`).
-/

namespace NetOpsBench

open Program InjectionWorld

/-! ## Runs that are repeated -/

/-- Answers that agree with others after fewer than a number of commands. -/
def AgreeBelow (count : Nat) (answers later : Answers) : Prop :=
  ∀ runs container args, runs.length < count → later runs container args = answers runs container args

/-- A program whose run depends on the answers to its own commands only. -/
def Replays {α : Type} (program : Shell (List CommandRun) → Program (List CommandRun) Raised α) :
    Prop :=
  ∀ answers runs, runs.length ≤ ((program (.answering answers)).outcome runs).2.length ∧
    ∀ later, AgreeBelow ((program (.answering answers)).outcome runs).2.length answers later →
      (program (.answering later)).outcome runs = (program (.answering answers)).outcome runs

namespace Replays

variable {α β : Type}

theorem pure (a : α) : Replays fun _ => (Pure.pure a : Program (List CommandRun) Raised α) :=
  fun _ _ => ⟨Nat.le_refl _, fun _ _ => rfl⟩

theorem ofExcept (answer : Except Raised α) :
    Replays fun _ => (Program.ofExcept answer : Program (List CommandRun) Raised α) := by
  intro answers runs
  dsimp only
  rw [outcome_ofExcept]
  exact ⟨Nat.le_refl _, fun _ _ => rfl⟩

theorem dockerExec (container : String) (args : List String) :
    Replays fun shell => NetOpsBench.dockerExec shell container args := by
  intro answers runs
  constructor
  · change runs.length ≤ (runs ++ [_]).length
    rw [List.length_append]
    exact Nat.le_add_right _ _
  · intro later agree
    have here : later runs container args = answers runs container args := by
      apply agree
      change runs.length < (runs ++ [_]).length
      rw [List.length_append]
      exact Nat.lt_add_one _
    change (Except.ok (later runs container args), runs ++ [⟨container, args, _⟩]) = _
    rw [here]
    rfl

theorem bind {program : Shell (List CommandRun) → Program (List CommandRun) Raised α}
    {rest : Shell (List CommandRun) → α → Program (List CommandRun) Raised β}
    (first : Replays program) (second : ∀ a, Replays fun shell => rest shell a) :
    Replays fun shell => program shell >>= rest shell := by
  intro answers runs
  dsimp only
  obtain ⟨longer, again⟩ := first answers runs
  rcases ended : (program (.answering answers)).outcome runs with ⟨answer, middle⟩
  rw [ended] at longer again
  cases answer with
  | error e =>
      rw [outcome_bind_error ended]
      refine ⟨longer, fun later agree => ?_⟩
      rw [outcome_bind_error (again later agree)]
  | ok a =>
      rw [outcome_bind_ok ended]
      obtain ⟨longer', again'⟩ := second a answers middle
      refine ⟨longer.trans longer', fun later agree => ?_⟩
      rw [outcome_bind_ok (again later fun runs c args below =>
        agree runs c args (below.trans_le longer'))]
      exact again' later agree

end Replays

/-! ## Reading the MTU -/

namespace InterfaceRuntime

variable {reader : IntReader} {ctx : FaultRuntimeContext}

theorem portMtus_replays (container : String) (keys : List String) :
    Replays fun shell => portMtus reader shell container keys := by
  induction keys with
  | nil => exact Replays.pure []
  | cons key keys ih =>
      apply Replays.bind (Replays.dockerExec container _)
      intro result
      apply Replays.bind ih
      intro values
      exact Replays.pure _

theorem getCommonPortMtu_replays (device excludeInterface : String) :
    Replays fun shell => getCommonPortMtu reader shell ctx device excludeInterface := by
  apply Replays.bind (Replays.ofExcept _)
  intro container
  apply Replays.bind (Replays.dockerExec container _)
  intro result
  by_cases ok : result.returncode = 0
  · simp only [if_pos ok]
    apply Replays.bind (portMtus_replays container _)
    intro values
    exact Replays.pure _
  · simp only [if_neg ok]
    exact Replays.pure _

theorem configuredMtu_replays (container device sonicInterface : String) :
    Replays fun shell => configuredMtu reader shell ctx container device sonicInterface := by
  apply Replays.bind (Replays.dockerExec container _)
  intro result
  cases validMtu reader (Text.strip result.stdout) with
  | some mtu => exact Replays.pure mtu
  | none => exact getCommonPortMtu_replays device sonicInterface

theorem getInterfaceMtu_replays (device sonicInterface : String) :
    Replays fun shell => getInterfaceMtu reader shell ctx device sonicInterface := by
  apply Replays.bind (Replays.ofExcept _)
  intro container
  apply Replays.bind (Replays.dockerExec container _)
  intro result
  cases parseLinkMtu reader (if result.returncode = 0 then Text.tokens result.stdout else []) with
  | some mtu => exact Replays.pure mtu
  | none => exact configuredMtu_replays container device sonicInterface

section Range

variable {δ : Type} {shell : Shell δ} {lab lab' : δ}

theorem inRange_of_portMtus {container : String} {keys : List String} {values : List Int}
    (read : (portMtus reader shell container keys).outcome lab = (.ok values, lab')) :
    ∀ value ∈ values, InRange value := by
  induction keys generalizing lab values with
  | nil =>
      cases read
      simp
  | cons key keys ih =>
      obtain ⟨result, middle, -, read⟩ := outcome_bind_eq_ok.mp read
      obtain ⟨later, last, rest, read⟩ := outcome_bind_eq_ok.mp read
      cases read
      intro value mem
      rcases List.mem_append.mp mem with here | there
      · exact inRange_of_validMtu (Option.mem_toList.mp here)
      · exact ih rest value there

theorem inRange_of_getInterfaceMtu {device sonicInterface : String} {mtu : Int}
    (read : (getInterfaceMtu reader shell ctx device sonicInterface).outcome lab =
      (.ok mtu, lab')) : InRange mtu := by
  obtain ⟨container, _, -, read⟩ := outcome_bind_eq_ok.mp read
  obtain ⟨result, _, -, read⟩ := outcome_bind_eq_ok.mp read
  split at read
  · rename_i parsed
    cases read
    exact inRange_of_parseLinkMtu parsed
  · obtain ⟨result, _, -, read⟩ := outcome_bind_eq_ok.mp read
    split at read
    · rename_i valid
      cases read
      exact inRange_of_validMtu valid
    · obtain ⟨_, _, -, read⟩ := outcome_bind_eq_ok.mp read
      obtain ⟨result, _, -, read⟩ := outcome_bind_eq_ok.mp read
      split at read
      · obtain ⟨values, _, listed, read⟩ := outcome_bind_eq_ok.mp read
        cases read
        cases most : mostCommon values with
        | none => exact of_decide_eq_true rfl
        | some value => exact inRange_of_portMtus listed value (mem_of_mostCommon most)
      · cases read
        exact of_decide_eq_true rfl

end Range

/-! ## The last command of a reading -/

/-- The last command was one of `sonic-db-cli`. -/
def EndsInDatabase (runs : List CommandRun) : Prop :=
  ∃ earlier run rest, runs = earlier ++ [run] ∧ run.args = "sonic-db-cli" :: rest

variable {answers : Answers} {runs runs' : List CommandRun}

/-- One command. -/
theorem dockerExec_eq_ok {container : String} {args : List String} {result : CommandResult}
    (ran : (dockerExec (.answering answers) container args).outcome runs = (.ok result, runs')) :
    result = answers runs container args ∧ runs' = runs ++ [⟨container, args, result⟩] := by
  cases ran
  exact ⟨rfl, rfl⟩

theorem portMtus_ends {container : String} {keys : List String} {values : List Int}
    (ends : EndsInDatabase runs)
    (read : (portMtus reader (.answering answers) container keys).outcome runs =
      (.ok values, runs')) : EndsInDatabase runs' := by
  induction keys generalizing runs values with
  | nil =>
      cases read
      exact ends
  | cons key keys ih =>
      obtain ⟨result, middle, ran, read⟩ := outcome_bind_eq_ok.mp read
      obtain ⟨later, last, rest, read⟩ := outcome_bind_eq_ok.mp read
      cases read
      obtain ⟨-, rfl⟩ := dockerExec_eq_ok ran
      exact ih ⟨_, _, _, rfl, rfl⟩ rest

/-- A reading is one command that shows the interface, or ends in the database. -/
theorem getInterfaceMtu_ends {device sonicInterface : String} {mtu : Int}
    (read : (getInterfaceMtu reader (.answering answers) ctx device sonicInterface).outcome runs =
      (.ok mtu, runs')) :
    EndsInDatabase runs' ∨ ∃ run, runs' = runs ++ [run] ∧
      parseLinkMtu reader
        (if run.result.returncode = 0 then Text.tokens run.result.stdout else []) = some mtu := by
  obtain ⟨container, start, known, read⟩ := outcome_bind_eq_ok.mp read
  rw [outcome_ofExcept] at known
  obtain ⟨-, rfl⟩ := Prod.mk.inj known
  obtain ⟨result, _, ran, read⟩ := outcome_bind_eq_ok.mp read
  obtain ⟨-, rfl⟩ := dockerExec_eq_ok ran
  split at read
  · rename_i parsed
    cases read
    exact .inr ⟨_, rfl, parsed⟩
  · left
    obtain ⟨result, _, ran, read⟩ := outcome_bind_eq_ok.mp read
    obtain ⟨-, rfl⟩ := dockerExec_eq_ok ran
    split at read
    · cases read
      exact ⟨_, _, _, rfl, rfl⟩
    · obtain ⟨_, _, known, read⟩ := outcome_bind_eq_ok.mp read
      rw [outcome_ofExcept] at known
      obtain ⟨-, rfl⟩ := Prod.mk.inj known
      obtain ⟨result, _, ran, read⟩ := outcome_bind_eq_ok.mp read
      obtain ⟨-, rfl⟩ := dockerExec_eq_ok ran
      split at read
      · obtain ⟨values, _, listed, read⟩ := outcome_bind_eq_ok.mp read
        cases read
        exact portMtus_ends ⟨_, _, _, rfl, rfl⟩ listed
      · cases read
        exact ⟨_, _, _, rfl, rfl⟩

end InterfaceRuntime

/-! ## An interface that answers with the value read before -/

/-- `ip -o link show` of an interface with an MTU, as far as it is read. -/
def shownMtu (mtu : Int) : CommandResult where
  returncode := 0
  stdout := "mtu " ++ toString mtu.toNat

theorem parse_shownMtu {reader : IntReader} {mtu : Int} (inRange : InterfaceRuntime.InRange mtu) :
    InterfaceRuntime.parseLinkMtu reader (Text.tokens (shownMtu mtu).stdout) = some mtu := by
  obtain ⟨n, rfl⟩ : ∃ n : Nat, mtu = n := by
    have low := inRange.1
    unfold InterfaceRuntime.sonicMinInterfaceMtu at low
    exact ⟨mtu.toNat, by omega⟩
  have solid : ∀ c ∈ (toString n).toList, Text.isSpace c = false :=
    fun c mem => Text.isSpace_of_isDigit (Text.isDigit_of_mem_toString mem)
  have some_ : toString n ≠ "" := by
    intro empty
    have digits := congrArg String.toList empty
    rw [Text.toList_toString] at digits
    exact Nat.toDigits_ne_nil digits
  have words : Text.tokens ("mtu " ++ toString n) = ["mtu", toString n] := by
    unfold Text.tokens
    have chars : ("mtu " ++ toString n).toList = "mtu".toList ++ ' ' :: (toString n).toList := by
      rw [String.toList_append]
      rfl
    have word : ∀ c ∈ "mtu".toList, Text.isSpace c = false := by
      intro c mem
      have letters : c ∈ ['m', 't', 'u'] := mem
      simp only [List.mem_cons, List.not_mem_nil, or_false] at letters
      rcases letters with rfl | rfl | rfl <;> rfl
    rw [chars, List.splitOnP_append_cons_of_forall_mem word ' ' rfl,
      List.splitOnP_eq_singleton solid]
    simp only [List.map_cons, List.map_nil, String.ofList_toList]
    rw [List.filter_cons_of_pos (by decide)]
    exact congrArg ("mtu" :: ·) (List.filter_cons_of_pos (decide_eq_true some_))
  change InterfaceRuntime.parseLinkMtu reader (Text.tokens ("mtu " ++ toString n)) = _
  rw [words]
  change (if "mtu" = "mtu" then InterfaceRuntime.validMtu reader (toString n) else _) = _
  rw [if_pos rfl]
  unfold InterfaceRuntime.validMtu
  rw [reader.int_toString]
  exact Option.filter_some_pos (decide_eq_true inRange)

namespace ImpairmentHandler

variable {services : HandlerServices (List CommandRun)} {answers : Answers} {device interface : String}
  {before : InjectionWorld (List CommandRun)} {runs : List CommandRun} {read mtu realMtu : Int}

/-- After a number of commands, the first and the third command fail, and the interface shows an
MTU. -/
def stubborn (count : Nat) (mtu : Int) (answers : Answers) : Answers := fun runs container args =>
  if runs.length < count then answers runs container args
  else if runs.length = count ∨ runs.length = count + 2 then { returncode := 1 }
  else shownMtu mtu

/-- The last reading showed an MTU. -/
def MtuReads (services : HandlerServices (List CommandRun)) (device interface : String) (mtu : Int)
    (runs : List CommandRun) : Prop :=
  ReadsBack (getInterfaceMtu services device (services.ctx.resolveSonic interface)) (· = mtu) runs

theorem applyMtu_readsBack {δ : Type} {services : HandlerServices δ} {lab lab' : δ}
    {container sonicIf linuxIf : String} {target : Int} {applied : CommandResult × Int}
    (ended : (applyMtu services device container sonicIf linuxIf target).outcome lab =
      (.ok applied, lab')) :
    ReadsBack (getInterfaceMtu services device sonicIf) (· = applied.2) lab' := by
  obtain ⟨result, _, -, ended⟩ := outcome_bind_eq_ok.mp ended
  obtain ⟨effective, middle, reads, ended⟩ := outcome_bind_eq_ok.mp ended
  split at ended
  · obtain ⟨result, start, -, ended⟩ := outcome_bind_eq_ok.mp ended
    obtain ⟨again, last, reads, ended⟩ := outcome_bind_eq_ok.mp ended
    cases ended
    exact ⟨start, again, reads, rfl⟩
  · cases ended
    exact ⟨_, effective, reads, rfl⟩

/-- An injection that had read the interface's own MTU ends verified or tracked. -/
theorem injectMtuMismatch_verified {δ : Type} {services : HandlerServices δ}
    {before : InjectionWorld δ} {lab : δ}
    (reads : (getInterfaceMtu services device (services.ctx.resolveSonic interface)).outcome
      before.lab = (.ok read, lab)) :
    InjectsVerifiedOrTracked (injectMtuMismatch services device interface mtu) before
      (ReadsBack (getInterfaceMtu services device (services.ctx.resolveSonic interface)) (· = mtu))
      (ReadsBack (getInterfaceMtu services device (services.ctx.resolveSonic interface))
        (· = read)) := by
  intro fault after ended
  obtain ⟨container, world, known, ended⟩ := outcome_bind_eq_ok.mp ended
  rw [outcome_ofExcept] at known
  obtain ⟨-, rfl⟩ := Prod.mk.inj known
  obtain ⟨original, first, readsFirst, ended⟩ := outcome_bind_eq_ok.mp ended
  obtain ⟨readsFirst, keptFirst⟩ := perform_eq_ok readsFirst
  rw [reads] at readsFirst
  obtain ⟨same, -⟩ := Prod.mk.inj readsFirst
  cases Except.ok.inj same
  obtain ⟨applied, changed, changes, ended⟩ := outcome_bind_eq_ok.mp ended
  obtain ⟨changes, keptChange⟩ := perform_eq_ok changes
  have kept := keptChange.trans keptFirst
  dsimp only at ended
  split at ended
  · rename_i success
    rw [leaveVerified_iff success kept ended]
    have effective : applied.2 = mtu := (of_decide_eq_true success).2
    rw [← effective]
    exact applyMtu_readsBack changes
  · rename_i failed
    obtain ⟨restored, last, restores, ended⟩ := outcome_bind_eq_ok.mp ended
    obtain ⟨restores, keptLast⟩ := perform_eq_ok restores
    have same := keptLast.trans kept
    rw [leaveFailed_iff (Bool.not_eq_true _ ▸ failed) (same ▸ List.Sublist.refl _) (fun _ => same)
      ended]
    intro compensated
    have effective : restored.2 = read := (of_decide_eq_true compensated).2
    rw [← effective]
    exact applyMtu_readsBack restores

/-- A reading of the stubborn interface. -/
theorem getInterfaceMtu_stubborn {container sonicIf : String} {later : List CommandRun}
    (known : containerOf services.ctx device = .ok container)
    (inRange : InterfaceRuntime.InRange read) {count : Nat}
    (place : later.length = count + 1 ∨ later.length = count + 3 ∨ later.length = count + 5) :
    (getInterfaceMtu (answering services (stubborn count read answers)) device sonicIf).outcome later =
      (.ok read, later ++
        [⟨container, ["ip", "-o", "link", "show", "dev", sonicIf], shownMtu read⟩]) := by
  have answer : stubborn count read answers later container
      ["ip", "-o", "link", "show", "dev", sonicIf] = shownMtu read := by
    unfold stubborn
    rw [if_neg (by omega), if_neg (by omega)]
  have ran : (dockerExec (answering services (stubborn count read answers)).shell container
      ["ip", "-o", "link", "show", "dev", sonicIf]).outcome later =
        (.ok (shownMtu read), later ++
          [⟨container, ["ip", "-o", "link", "show", "dev", sonicIf], shownMtu read⟩]) := by
    rw [← answer]
    rfl
  have named : (Program.ofExcept (containerOf (answering services (stubborn count read answers)).ctx
      device) : Program (List CommandRun) Raised String).outcome later = (.ok container, later) := by
    rw [outcome_ofExcept]
    exact congrArg (·, later) known
  unfold getInterfaceMtu InterfaceRuntime.getInterfaceMtu
  rw [outcome_bind_ok named, outcome_bind_ok ran]
  rw [if_pos (show (shownMtu read).returncode = 0 from rfl), parse_shownMtu inRange]
  rfl

/-- A command that the stubborn interface refuses. -/
theorem dockerExec_stubborn {container : String} {args : List String} {later : List CommandRun}
    {count : Nat} (place : later.length = count ∨ later.length = count + 2) :
    (dockerExec (answering services (stubborn count read answers)).shell container args).outcome
      later = (.ok { returncode := 1 }, later ++ [⟨container, args, { returncode := 1 }⟩]) := by
  have answer : stubborn count read answers later container args = { returncode := 1 } := by
    unfold stubborn
    rw [if_neg (by omega), if_pos place]
  rw [← answer]
  rfl

/-- The fifth command is accepted. -/
theorem dockerExec_yields {container : String} {args : List String} {later : List CommandRun}
    {count : Nat} (place : later.length = count + 4) :
    (dockerExec (answering services (stubborn count read answers)).shell container args).outcome
      later = (.ok (shownMtu read), later ++ [⟨container, args, shownMtu read⟩]) := by
  have answer : stubborn count read answers later container args = shownMtu read := by
    unfold stubborn
    rw [if_neg (by omega), if_neg (by omega)]
  rw [← answer]
  rfl

theorem configCmd_eq {container : String} (known : containerOf services.ctx device = .ok container)
    (args : List String) (runs : List CommandRun) (answers : Answers) :
    (configCmd (answering services answers) device args).outcome runs =
      (dockerExec (answering services answers).shell container ("config" :: args)).outcome runs := by
  have named : (Program.ofExcept (containerOf (answering services answers).ctx device) :
      Program (List CommandRun) Raised String).outcome runs = (.ok container, runs) := by
    rw [outcome_ofExcept]
    exact congrArg (·, runs) known
  unfold configCmd
  rw [outcome_bind_ok named]

/-- The change fails, and the MTU is the one that was read. -/
theorem applyMtu_refused {container sonicIf linuxIf : String} {target : Int}
    (known : containerOf services.ctx device = .ok container)
    (inRange : InterfaceRuntime.InRange read) :
    ∃ later, (applyMtu (answering services (stubborn runs.length read answers)) device container
        sonicIf linuxIf target).outcome runs = (.ok ({ returncode := 1 }, read), later) ∧
      later.length = runs.length + 4 := by
  unfold applyMtu
  rw [outcome_bind_ok ((configCmd_eq known _ runs _).trans (dockerExec_stubborn (.inl rfl))),
    outcome_bind_ok (getInterfaceMtu_stubborn known inRange (.inl (by simp))),
    if_pos (.inl (by decide)), outcome_bind_ok (dockerExec_stubborn (.inr (by simp))),
    outcome_bind_ok (getInterfaceMtu_stubborn known inRange (.inr (.inl (by simp))))]
  exact ⟨_, rfl, by simp⟩

/-- The compensation is accepted, and the MTU is the one that was read. -/
theorem applyMtu_accepted {container sonicIf linuxIf : String} {later : List CommandRun}
    (known : containerOf services.ctx device = .ok container)
    (inRange : InterfaceRuntime.InRange read) (place : later.length = runs.length + 4) :
    ∃ last, (applyMtu (answering services (stubborn runs.length read answers)) device container
        sonicIf linuxIf read).outcome later = (.ok (shownMtu read, read), last ++
          [⟨container, ["ip", "-o", "link", "show", "dev", sonicIf], shownMtu read⟩]) := by
  unfold applyMtu
  rw [outcome_bind_ok ((configCmd_eq known _ later _).trans (dockerExec_yields place)),
    outcome_bind_ok (getInterfaceMtu_stubborn known inRange (.inr (.inr (by simp [place])))),
    if_neg (by simp [shownMtu])]
  exact ⟨_, rfl⟩

/-- Where the last command shows an MTU, a reading that ends there has read it. -/
theorem read_of_mtuReads {container sonicIf : String} {last : List CommandRun}
    (inRange : InterfaceRuntime.InRange read)
    (shows_ : MtuReads (answering services answers) device interface realMtu
      (last ++ [⟨container, ["ip", "-o", "link", "show", "dev", sonicIf], shownMtu read⟩])) :
    read = realMtu := by
  obtain ⟨earlier, value, reads, rfl⟩ := shows_
  rcases InterfaceRuntime.getInterfaceMtu_ends reads with database | ⟨run, same, parsed⟩
  · obtain ⟨_, run, rest, same, args⟩ := database
    obtain ⟨-, sameRun⟩ := List.append_inj' same rfl
    rw [← List.singleton_inj.mp sameRun] at args
    exact absurd (List.cons.inj args).1 (by decide)
  · obtain ⟨-, sameRun⟩ := List.append_inj' same rfl
    rw [← List.singleton_inj.mp sameRun, if_pos (show (shownMtu read).returncode = 0 from rfl),
      parse_shownMtu inRange] at parsed
    exact Option.some.inj parsed

/-- The stubborn interface: the injection fails and is compensated, to what it had read. -/
theorem injectMtuMismatch_stubborn
    (reads : (getInterfaceMtu (answering services answers) device
      (services.ctx.resolveSonic interface)).outcome before.lab = (.ok read, runs))
    (property : InjectsVerifiedOrTracked
      (injectMtuMismatch (answering services (stubborn runs.length read answers)) device interface
        mtu) before
      (MtuReads (answering services (stubborn runs.length read answers)) device interface mtu)
      (MtuReads (answering services (stubborn runs.length read answers)) device interface
        realMtu)) : read = realMtu := by
  have inRange := InterfaceRuntime.inRange_of_getInterfaceMtu reads
  obtain ⟨container, _, named, -⟩ := outcome_bind_eq_ok.mp reads
  rw [outcome_ofExcept] at named
  have known : containerOf services.ctx device = .ok container := congrArg Prod.fst named
  have again : (getInterfaceMtu (answering services (stubborn runs.length read answers)) device
      (services.ctx.resolveSonic interface)).outcome before.lab = (.ok read, runs) := by
    rw [← reads]
    have replays := (@InterfaceRuntime.getInterfaceMtu_replays services.reader services.ctx device
      (services.ctx.resolveSonic interface) answers before.lab).2
      (stubborn runs.length read answers)
    apply replays
    intro earlier container args below
    have shorter : earlier.length < runs.length := by
      have ended : ((InterfaceRuntime.getInterfaceMtu services.reader (.answering answers)
          services.ctx device (services.ctx.resolveSonic interface)).outcome before.lab).2 = runs :=
        congrArg Prod.snd reads
      rw [ended] at below
      exact below
    exact if_pos shorter
  obtain ⟨later, refused, place⟩ := @applyMtu_refused services answers device runs read container
    (services.ctx.resolveSonic interface) (services.ctx.resolveLinux interface) mtu known inRange
  obtain ⟨last, accepted⟩ := @applyMtu_accepted services answers device runs read container
    (services.ctx.resolveSonic interface) (services.ctx.resolveLinux interface) later known inRange
    place
  have ran : (injectMtuMismatch (answering services (stubborn runs.length read answers)) device
      interface mtu).outcome before =
        (.ok (mtuFault device (services.ctx.resolveSonic interface)
          (services.ctx.resolveLinux interface) mtu read ({ returncode := 1 }, read)),
          { before with
            lab := last ++ [⟨container, ["ip", "-o", "link", "show", "dev",
              services.ctx.resolveSonic interface], shownMtu read⟩] }) := by
    have named' : (Program.ofExcept (containerOf (answering services
        (stubborn runs.length read answers)).ctx device) :
          Injecting (List CommandRun) String).outcome before = (.ok container, before) := by
      rw [outcome_ofExcept]
      exact congrArg (·, before) known
    have first := outcome_perform (getInterfaceMtu
      (answering services (stubborn runs.length read answers)) device
      (services.ctx.resolveSonic interface)) before
    rw [again] at first
    have second := outcome_perform (applyMtu
      (answering services (stubborn runs.length read answers)) device container
      (services.ctx.resolveSonic interface) (services.ctx.resolveLinux interface) mtu)
      { before with lab := runs }
    rw [refused] at second
    have third := outcome_perform (applyMtu
      (answering services (stubborn runs.length read answers)) device container
      (services.ctx.resolveSonic interface) (services.ctx.resolveLinux interface) read)
      { before with lab := later }
    rw [accepted] at third
    unfold injectMtuMismatch
    rw [outcome_bind_ok named']
    dsimp only [ctx_answering]
    rw [outcome_bind_ok first, outcome_bind_ok second]
    rw [if_neg (show ¬ (mtuFault device _ _ mtu read ({ returncode := 1 }, read)).success = true by
      simp [mtuFault]), outcome_bind_ok third]
    simp [leaveFailed, shownMtu]
  have ends := property _ _ ran
  have failed : (mtuFault device (services.ctx.resolveSonic interface)
      (services.ctx.resolveLinux interface) mtu read ({ returncode := 1 }, read)).success = false := by
    simp [mtuFault]
  refine read_of_mtuReads inRange ((VerifiedOrTracked.compensated_iff failed ?_).mp ends)
  exact List.Sublist.refl _

/-- However the later commands answer, the injection ends verified or tracked, if and only if the
MTU that was read before it is the interface's. -/
theorem mtu_verified_iff (services : HandlerServices (List CommandRun)) (answers : Answers)
    (device interface : String) (mtu realMtu : Int) (before : InjectionWorld (List CommandRun))
    (read : Int) (runs : List CommandRun)
    (reads : (getInterfaceMtu (answering services answers) device
      (services.ctx.resolveSonic interface)).outcome before.lab = (.ok read, runs)) :
    (∀ later, AgreeBelow runs.length answers later →
      InjectsVerifiedOrTracked (injectMtuMismatch (answering services later) device interface mtu)
        before (MtuReads (answering services later) device interface mtu)
        (MtuReads (answering services later) device interface realMtu)) ↔ read = realMtu := by
  constructor
  · intro all
    apply injectMtuMismatch_stubborn reads
    apply all
    intro earlier container args below
    exact if_pos below
  · rintro rfl later agree
    apply injectMtuMismatch_verified
    rw [← reads]
    have replays := (@InterfaceRuntime.getInterfaceMtu_replays services.reader services.ctx device
      (services.ctx.resolveSonic interface) answers before.lab).2 later
    apply replays
    have ended : ((InterfaceRuntime.getInterfaceMtu services.reader (.answering answers)
        services.ctx device (services.ctx.resolveSonic interface)).outcome before.lab).2 = runs :=
      congrArg Prod.snd reads
    rw [ended]
    exact agree

end ImpairmentHandler

/-- Decimal digits. -/
def decimalReader : IntReader where
  int text :=
    if text.toList.all Char.isDigit = true ∧ text ≠ "" then some (Text.numeralValue text) else none
  int_toString n := by
    have digits : (toString n).toList.all Char.isDigit = true :=
      List.all_eq_true.mpr fun c mem => Text.isDigit_of_mem_toString mem
    have some_ : toString n ≠ "" := by
      intro empty
      have chars := congrArg String.toList empty
      rw [Text.toList_toString] at chars
      exact Nat.toDigits_ne_nil chars
    rw [if_pos ⟨digits, some_⟩, Text.numeralValue_toString]

/-- The handler of a small fabric. -/
def smallServices : HandlerServices (List CommandRun) where
  shell := .answering fun _ _ _ => { returncode := 124 }
  ctx := smallContext
  reader := decimalReader
  loadQdiscs _ := .ok []
  lower := Text.lower
  number _ := "0"
  isWord := Char.isAlphanum

/-- An interface that does not answer in time has the default MTU, as it is read, and so the injection
does not always end verified or tracked where its MTU is another one. -/
theorem mtu_verified_unreadable :
    (∀ later, AgreeBelow 3 (fun _ _ _ => { returncode := 124 }) later →
      InjectsVerifiedOrTracked
        (ImpairmentHandler.injectMtuMismatch (answering smallServices later)
          "leaf1" "Ethernet0" 1400) { lab := [] }
        (ImpairmentHandler.MtuReads (answering smallServices later) "leaf1"
          "Ethernet0" 1400)
        (ImpairmentHandler.MtuReads (answering smallServices later) "leaf1"
          "Ethernet0" 1500)) ↔ (9100 : Int) = 1500 :=
  ImpairmentHandler.mtu_verified_iff smallServices (fun _ _ _ => { returncode := 124 }) "leaf1"
    "Ethernet0" 1400 1500 { lab := [] } 9100 _ rfl

end NetOpsBench
