import NetOpsBench.Session.Acceptance

/-!
# Campaigns of acceptance processes

What a process leaves of a campaign, for one agent: its record grows, no case is run that the file
told to be completed, and at most one case that was begun is missing in the file (`Owing`). From
this, what any number of processes leave (`campaign_resumes`), and what a process that returns has
completed (`acceptance_passed`).
-/

namespace NetOpsBench

namespace Acceptance

open Fallible Program ExecutionControl

variable {Evaluation : Type}

/-! ## What is told of an agent -/

/-- The reports of an agent. -/
def casesOf (agents : Agents) (backend : String) : List CaseReport :=
  ((agents.get backend).map (·.cases)).getD []

/-- The cases of an agent that are completed, with an entry for every report. -/
def completedOf (agents : Agents) (backend : String) : List String :=
  (casesOf agents backend).flatMap (·.completed)

def reportsOf (agents : Agents) (backend : String) : Nat := (casesOf agents backend).length

/-- The agents of the file. -/
def Campaign.saved (s : Campaign) : Agents := s.disk.getD .empty

/-- How often a case of the agent was begun. -/
def runsOf (ran : List (String × String)) (backend : String) : Nat :=
  ran.countP fun run => decide (run.1 = backend)

/-- A later record of the same agent. -/
structure AgentRecord.Extends (old new : AgentRecord) : Prop where
  identity : new.identity = old.identity
  cases : old.cases <+: new.cases
  selected : ∀ ids, old.selectedCases = some ids → new.selectedCases = some ids
  hashes : ∀ hashes, old.scenarioSha256 = some hashes → new.scenarioSha256 = some hashes

def Grown (backend : String) (old new : Agents) : Prop :=
  ∀ record, old.get backend = some record →
    ∃ record', new.get backend = some record' ∧ record.Extends record'

theorem AgentRecord.Extends.refl (record : AgentRecord) : record.Extends record :=
  ⟨rfl, List.prefix_refl _, fun _ h => h, fun _ h => h⟩

theorem AgentRecord.Extends.trans {first second third : AgentRecord} (one : first.Extends second)
    (two : second.Extends third) : first.Extends third :=
  ⟨two.identity.trans one.identity, one.cases.trans two.cases,
    fun ids h => two.selected ids (one.selected ids h),
    fun hashes h => two.hashes hashes (one.hashes hashes h)⟩

section Grown

variable {backend : String} {old middle new : Agents}

theorem Grown.refl (agents : Agents) : Grown backend agents agents :=
  fun record found => ⟨record, found, .refl record⟩

theorem Grown.trans (one : Grown backend old middle) (two : Grown backend middle new) :
    Grown backend old new := by
  intro record found
  obtain ⟨record', found', first⟩ := one record found
  obtain ⟨record'', found'', second⟩ := two record' found'
  exact ⟨record'', found'', first.trans second⟩

theorem Grown.cases (grown : Grown backend old new) :
    casesOf old backend <+: casesOf new backend := by
  unfold casesOf
  cases found : old.get backend with
  | none => exact List.nil_prefix
  | some record =>
      obtain ⟨record', found', extends_⟩ := grown record found
      rw [found']
      exact extends_.cases

theorem Grown.completed (grown : Grown backend old new) :
    completedOf old backend <+: completedOf new backend := by
  obtain ⟨more, cases⟩ := grown.cases
  rw [completedOf, completedOf, ← cases, List.flatMap_append]
  exact List.prefix_append _ _

end Grown

theorem runsOf_append (ran new : List (String × String)) (backend : String) :
    runsOf (ran ++ new) backend = runsOf ran backend + runsOf new backend :=
  List.countP_append

theorem runsOf_singleton (backend observed id : String) :
    runsOf [(backend, id)] observed = if backend = observed then 1 else 0 := by
  simp [runsOf, List.countP_cons]

/-! ## Frozen records -/

theorem nodup_of_length {files : List CaseFile}
    (distinct : (Dict.ofEntries (files.map fun file => (file.spec.id, file.sha256))).keys.length =
      files.length) : (files.map fun file => file.spec.id).Nodup := by
  have inside : (Dict.ofEntries (files.map fun file => (file.spec.id, file.sha256))).keys ⊆
      files.map fun file => file.spec.id := by
    intro id mem
    obtain ⟨sha, found⟩ := Dict.mem_keys.mp mem
    obtain ⟨file, isFile, same⟩ := List.mem_map.mp (Dict.mem_of_get_ofEntries found)
    cases same
    exact List.mem_map.mpr ⟨file, isFile, rfl⟩
  refine (Counting.perm_of_nodup_of_length (Dict.nodup _) inside ?_).nodup_iff.mp (Dict.nodup _)
  rw [List.length_map]
  exact distinct.ge

structure Frozen (record : AgentRecord) (files : List CaseFile) (frozen : AgentRecord) : Prop where
  extends_ : record.Extends frozen
  cases : frozen.cases = record.cases
  distinct : (files.map fun file => file.spec.id).Nodup

theorem frozen_of_freezeCases {record frozen : AgentRecord} {files : List CaseFile}
    (done : freezeCases record files = .ok frozen) : Frozen record files frozen := by
  unfold freezeCases at done
  obtain ⟨_, unique, done⟩ := bind_eq_ok.mp done
  obtain ⟨-, -, done⟩ := bind_eq_ok.mp done
  obtain ⟨-, -, done⟩ := bind_eq_ok.mp done
  obtain rfl := (pure_eq_ok _ _).mp done
  refine ⟨⟨rfl, List.prefix_refl _, ?_, ?_⟩, rfl, ?_⟩
  · intro ids selected
    change some (record.selectedCases.getD _) = _
    rw [selected]
    rfl
  · intro hashes known
    change some (record.scenarioSha256.getD _) = _
    rw [known]
    rfl
  · exact nodup_of_length (not_not.mp (reject_eq_ok.mp unique))

/-! ## Reports of cases -/

theorem completed_report (effects : Bool) (case : CaseRun Evaluation) (summary : ScenarioSummary) :
    (case.report effects summary).completed <+: [summary.scenarioId] := by
  unfold CaseReport.completed
  change ([summary].filter _).map _ <+: _
  rw [List.filter_cons]
  split
  · exact List.prefix_refl _
  · exact List.nil_prefix

/-- A case with the status `completed` is one that its report completes. -/
theorem completed_of_status {effects : Bool} {case : CaseRun Evaluation} {result : ScenarioResult}
    {worker : RuntimeIdentity} {scenario : ScenarioSpec} {path : String}
    (ran : (case.script effects).run = .ok result)
    (status : (caseSummary worker scenario path result).status = .completed) :
    (case.report effects (caseSummary worker scenario path result)).completed = [scenario.id] := by
  have succeeded := succeeded_of_status.mp status
  obtain ⟨both, cleanup⟩ := Bool.and_eq_true_iff.mp succeeded
  obtain ⟨valid, success⟩ := Bool.and_eq_true_iff.mp both
  have complete : effects = false → case.diagnosisComplete effects = true := by
    intro diagnosing
    unfold CaseRun.diagnosisComplete
    change case.ending.map _ = _ at ran
    cases ending : case.ending with
    | error error =>
        rw [ending] at ran
        cases ran
    | ok ended =>
        rw [ending] at ran
        cases ran
        rw [diagnosing] at success ⊢
        cases ended with
        | broken => exact absurd success Bool.false_ne_true
        | raised valid => exact absurd success Bool.false_ne_true
        | ended submitted => simpa [CaseEnd.result, CaseEnd.diagnosisComplete, succeedsWith] using success
  have counts : (case.report effects (caseSummary worker scenario path result)).counts
      (caseSummary worker scenario path result) = true := by
    unfold CaseReport.counts CaseRun.report
    rw [status]
    cases effects with
    | true => simp [caseSummary, valid, cleanup]
    | false => simp [caseSummary, valid, complete]
  unfold CaseReport.completed
  change ([caseSummary worker scenario path result].filter _).map _ = _
  rw [List.filter_cons_of_pos counts]
  rfl

/-! ## The invariants of a process -/

section Invariants

/-- What a process that starts from `base` and from the runs of `log` keeps of an agent. -/
structure Kept (backend : String) (base : Agents) (log : List (String × String)) (s : Campaign) :
    Prop where
  saved : Grown backend base s.saved
  behind : Grown backend s.saved s.agents
  once : (completedOf s.agents backend).Nodup
  ran : ∃ new, s.ran = log ++ new ∧ ∀ id, (backend, id) ∈ new → id ∉ completedOf base backend

/-- The cases that the process has begun, against the reports that it has added. -/
def Ahead (backend : String) (base : Agents) (log : List (String × String)) (k : Nat)
    (s : Campaign) : Prop :=
  runsOf s.ran backend + reportsOf base backend =
    runsOf log backend + reportsOf s.agents backend + k

/-- At most one case that the process has begun has no report in the file. -/
def Owed (backend : String) (base : Agents) (log : List (String × String)) (s : Campaign) : Prop :=
  runsOf s.ran backend + reportsOf base backend ≤
    runsOf log backend + reportsOf s.saved backend + 1

structure Owing (backend : String) (base : Agents) (log : List (String × String)) (s : Campaign) :
    Prop where
  kept : Kept backend base log s
  owed : Owed backend base log s

/-- Between two cases: every case that was begun is reported, here and in the file. The cases of
`done` are completed. -/
structure Going (backend : String) (base : Agents) (log : List (String × String))
    (done : List String) (s : Campaign) : Prop where
  kept : Kept backend base log s
  even : Ahead backend base log 0 s
  same : reportsOf s.saved backend = reportsOf s.agents backend
  done : ∀ id ∈ done, id ∈ completedOf s.agents backend

/-- With a report that may be missing in the file. -/
structure Due (backend : String) (base : Agents) (log : List (String × String))
    (done : List String) (s : Campaign) : Prop where
  owing : Owing backend base log s
  even : Ahead backend base log 0 s
  done : ∀ id ∈ done, id ∈ completedOf s.agents backend

variable {observed : String} {base : Agents} {log : List (String × String)} {done : List String}
  {s : Campaign}

theorem Going.due (going : Going observed base log done s) : Due observed base log done s := by
  refine ⟨⟨going.kept, ?_⟩, going.even, going.done⟩
  have even := going.even
  have same := going.same
  unfold Ahead at even
  unfold Owed
  omega

theorem Going.holds (going : Going observed base log done s) {ids : List String}
    (complete : ∀ id ∈ ids, id ∈ completedOf s.agents observed) :
    Going observed base log ids s :=
  ⟨going.kept, going.even, going.same, complete⟩

theorem get_put (backend : String) (record : AgentRecord) :
    (s.put backend record).agents.get observed =
      if observed = backend then some record else s.agents.get observed :=
  Dict.get_set _ _ _ _

/-- A record that extends the one that was there. -/
theorem grown_put (backend identity : String) {record : AgentRecord}
    (extends_ : (s.record backend identity).Extends record) :
    Grown observed s.agents (s.put backend record).agents := by
  intro old found
  rw [get_put]
  split
  · rename_i same
    refine ⟨record, rfl, ?_⟩
    rw [Campaign.record, ← same, found] at extends_
    exact extends_
  · exact ⟨old, found, .refl old⟩

theorem casesOf_put (backend identity : String) {record : AgentRecord} {more : List CaseReport}
    (cases : record.cases = (s.record backend identity).cases ++ more) :
    casesOf (s.put backend record).agents observed =
      casesOf s.agents observed ++ if backend = observed then more else [] := by
  unfold casesOf
  rw [get_put]
  by_cases same : observed = backend
  · rw [if_pos same, if_pos same.symm, Option.map_some, Option.getD_some, cases, Campaign.record,
      same]
    cases s.agents.get backend <;> rfl
  · rw [if_neg same, if_neg fun other => same other.symm, List.append_nil]

theorem Kept.put (kept : Kept observed base log s) (backend identity : String)
    {record : AgentRecord} (extends_ : (s.record backend identity).Extends record)
    (once : (completedOf (s.put backend record).agents observed).Nodup) :
    Kept observed base log (s.put backend record) :=
  ⟨kept.saved, kept.behind.trans (grown_put backend identity extends_), once, kept.ran⟩

/-- Freezing changes no report. -/
theorem Going.frozen (going : Going observed base log done s) {backend identity : String}
    {files : List CaseFile} {record : AgentRecord}
    (frozen : Frozen (s.record backend identity) files record) :
    Going observed base log done (s.put backend record) := by
  have same : casesOf (s.put backend record).agents observed = casesOf s.agents observed := by
    have cases : record.cases = (s.record backend identity).cases ++ [] := by
      rw [frozen.cases, List.append_nil]
    rw [casesOf_put backend identity cases, ite_self, List.append_nil]
  refine ⟨going.kept.put backend identity frozen.extends_ ?_, ?_, ?_, ?_⟩
  · rw [completedOf, same]
    exact going.kept.once
  · rw [Ahead, reportsOf, reportsOf, same]
    exact going.even
  · rw [reportsOf, reportsOf, same]
    exact going.same
  · rw [completedOf, same]
    exact going.done

theorem Kept.written (kept : Kept observed base log s) (replaced : Bool) :
    Kept observed base log (s.written replaced) := by
  cases replaced with
  | false => exact ⟨kept.saved, kept.behind, kept.once, kept.ran⟩
  | true => exact ⟨kept.saved.trans kept.behind, .refl _, kept.once, kept.ran⟩

theorem Owing.written (owing : Owing observed base log s) (replaced : Bool) :
    Owing observed base log (s.written replaced) := by
  refine ⟨owing.kept.written replaced, ?_⟩
  cases replaced with
  | false => exact owing.owed
  | true =>
      have owed := owing.owed
      have grown : reportsOf s.saved observed ≤ reportsOf s.agents observed :=
        owing.kept.behind.cases.length_le
      unfold Owed at owed ⊢
      change _ ≤ runsOf log observed + reportsOf s.agents observed + 1
      change runsOf s.ran observed + _ ≤ _
      omega

theorem Due.returned (due : Due observed base log done s) :
    Going observed base log done (s.written true) :=
  ⟨due.owing.kept.written true, due.even, rfl, due.done⟩

end Invariants

/-! ## The steps of a process -/

/-- From the agents of `P`, a process comes to those of `Q`, or ends with what it owes. What is
completed before stays completed. -/
def Advances {α : Type} (observed : String) (base : Agents) (log : List (String × String))
    (P : Agents → Prop) (program : CampaignProgram α) (Q : α → Agents → Prop) : Prop :=
  ∀ done, Meets program (fun s => Going observed base log done s ∧ P s.agents)
    (fun a s => Going observed base log done s ∧ Q a s.agents) fun _ => Owing observed base log

section Steps

variable {observed : String} {base : Agents} {log : List (String × String)} {α β : Type}
  {P P' : Agents → Prop} {Q : α → Agents → Prop} {Q' : β → Agents → Prop}

namespace Advances

theorem pure {a : α} (holds : ∀ agents, P agents → Q a agents) :
    Advances observed base log P (Pure.pure a) Q :=
  fun _ => Meets.pure fun s both => ⟨both.1, holds s.agents both.2⟩

theorem throw (error : AcceptanceError) :
    Advances observed base log P (MonadExcept.throw error) Q :=
  fun _ => Meets.throw fun _ both => both.1.due.owing

theorem bind {program : CampaignProgram α} {rest : α → CampaignProgram β}
    (first : Advances observed base log P program Q)
    (second : ∀ a, Advances observed base log (Q a) (rest a) Q') :
    Advances observed base log P (program >>= rest) Q' :=
  fun done => Meets.bind (first done) fun a => second a done

theorem mono {program : CampaignProgram α} {Q'' : α → Agents → Prop}
    (advances : Advances observed base log P program Q) (before : ∀ agents, P' agents → P agents)
    (after : ∀ a agents, Q a agents → Q'' a agents) :
    Advances observed base log P' program Q'' :=
  fun done => (advances done).mono (fun s both => ⟨both.1, before s.agents both.2⟩)
    (fun a s both => ⟨both.1, after a s.agents both.2⟩) fun _ _ owing => owing

/-- An answer changes nothing. -/
theorem answer (answer : Except AcceptanceError α) :
    Advances observed base log P (Program.ofExcept answer) fun _ => P :=
  fun _ => Meets.ofExcept (fun _ _ _ both => both) fun _ _ _ both => both.1.due.owing

theorem read_bind {rest : Campaign → CampaignProgram β}
    (second : ∀ s, Advances observed base log P (rest s) Q') :
    Advances observed base log P (get >>= rest) Q' :=
  fun done => Meets.read_bind fun s _ => second s done

theorem of_agents {program : CampaignProgram α}
    (each : ∀ known, P known → Advances observed base log (fun agents => agents = known) program Q) :
    Advances observed base log P program Q := by
  intro done
  refine Meets.of_start fun s both => ?_
  refine (each s.agents both.2 done).mono (fun s' isState => ?_) (fun _ _ holds => holds)
    fun _ _ owing => owing
  rw [isState]
  exact ⟨both.1, rfl⟩

/-- Cases that are completed stay so. -/
theorem hold {program : CampaignProgram α} (advances : Advances observed base log P program Q)
    (ids : List String) :
    Advances observed base log (fun agents => P agents ∧ ids ⊆ completedOf agents observed) program
      (fun a agents => Q a agents ∧ ids ⊆ completedOf agents observed) := by
  intro done
  refine (advances (ids ++ done)).mono (fun s both => ?_) (fun a s both => ?_) fun _ _ owing => owing
  · rcases both with ⟨going, holds, complete⟩
    refine ⟨going.holds fun id mem => ?_, holds⟩
    exact (List.mem_append.mp mem).elim (fun new => complete new) (going.done id)
  · rcases both with ⟨going, holds⟩
    refine ⟨going.holds fun id mem => ?_, holds, fun id mem => ?_⟩
    · exact going.done id (List.mem_append_right _ mem)
    · exact going.done id (List.mem_append_left _ mem)

/-- In particular those of the agents from which it starts. -/
theorem keeping {program : CampaignProgram α} (advances : Advances observed base log P program Q)
    {known : Agents} (start : P known) :
    Advances observed base log (fun agents => agents = known) program
      (fun a agents => Q a agents ∧ completedOf known observed ⊆ completedOf agents observed) := by
  refine (advances.hold (completedOf known observed)).mono (fun agents same => ?_)
    fun _ _ holds => holds
  rw [same]
  exact ⟨start, List.Subset.refl _⟩

end Advances

variable (process : Process Evaluation) {done : List String}

theorem meets_write {P Q R : Campaign → Prop} (returns : ∀ s, P s → Q (s.written true))
    (raises : ∀ s replaced, P s → R (s.written replaced)) :
    Meets (checkpoint process) P (fun _ => Q) (fun _ => R) := by
  refine Meets.get_bind fun s holds => ?_
  cases process.write s.writes with
  | returns =>
      refine Meets.modify fun s' isState => ?_
      rw [isState]
      exact returns s holds
  | raises replaced error =>
      refine Meets.bind (Meets.modify fun s' isState => ?_) fun _ => Meets.throw fun _ left => left
      rw [isState]
      exact raises s replaced holds

theorem keeps_checkpoint : Keeps (checkpoint process) (Owing observed base log) :=
  meets_write process (fun _ owing => owing.written true) fun _ replaced owing =>
    owing.written replaced

/-- A write that returns puts the agents into the file. -/
theorem meets_save (C : Agents → Prop) :
    Meets (checkpoint process) (fun s => Going observed base log done s ∧ C s.agents)
      (fun _ s => (Going observed base log done s ∧ C s.agents) ∧ s.saved = s.agents)
      (fun _ => Owing observed base log) :=
  meets_write process (fun _ both => ⟨⟨both.1.due.returned, both.2⟩, rfl⟩) fun _ replaced both =>
    both.1.due.owing.written replaced

theorem advances_checkpoint (C : Agents → Prop) :
    Advances observed base log C (checkpoint process) fun _ => C :=
  fun _ => (meets_save process C).mono (fun _ both => both) (fun _ _ both => both.1)
    fun _ _ owing => owing

theorem advances_freezeAgent (backend identity : String) (files : List CaseFile) :
    Advances observed base log (fun _ => True) (freezeAgent backend identity files)
      fun record agents => agents.get backend = some record ∧
        (files.map fun file => file.spec.id).Nodup := by
  intro done
  refine Meets.get_bind fun s both => ?_
  have going := both.1
  refine Meets.bind (Q := fun record s' => s' = s ∧
      Frozen (s.record backend identity) files record) ?_ fun record => ?_
  · refine Meets.ofExcept (fun record isRecord s' isState => ?_) fun _ _ s' isState => ?_
    · exact ⟨isState, frozen_of_freezeCases isRecord⟩
    · rw [isState]
      exact going.due.owing
  · refine Meets.bind (Q := fun _ s' => Going observed base log done s' ∧
        s'.agents.get backend = some record ∧ (files.map fun file => file.spec.id).Nodup)
      (Meets.modify fun s' both => ?_) fun _ => Meets.pure fun _ holds => holds
    rcases both with ⟨isState, frozen⟩
    rw [isState]
    refine ⟨going.frozen frozen, ?_, frozen.distinct⟩
    rw [get_put, if_pos rfl]

theorem advances_freezeAgents (identities : String → String) (files : List CaseFile)
    (backends : List String) :
    Advances observed base log (fun _ => True) (freezeAgents identities files backends)
      fun _ _ => True := by
  induction backends with
  | nil => exact Advances.pure fun _ holds => holds
  | cons backend later ih =>
      refine Advances.bind (advances_freezeAgent backend (identities backend) files) fun record => ?_
      exact ih.mono (fun _ _ => trivial) fun _ _ holds => holds

theorem meets_dispatched (answer : Except DispatchError α) {P R : Campaign → Prop}
    (raises : ∀ s, P s → R s) :
    Meets (dispatched answer) P (fun a s => P s ∧ answer = .ok a) (fun _ => R) := by
  refine Meets.ofExcept (fun a isOk s holds => ⟨holds, ?_⟩) fun _ _ s holds => raises s holds
  cases answer with
  | ok a' =>
      cases isOk
      rfl
  | error error => cases isOk

/-- A case has been begun, and the cases of `known` are completed. -/
structure Begun (observed : String) (base : Agents) (log : List (String × String))
    (done : List String) (backend id : String) (known : List String) (s : Campaign) : Prop where
  owing : Owing observed base log s
  ahead : Ahead observed base log (if backend = observed then 1 else 0) s
  done : ∀ id ∈ done, id ∈ known
  isKnown : completedOf s.agents observed = known
  fresh : backend = observed → id ∉ known

theorem Kept.base_completed {s : Campaign} (kept : Kept observed base log s) {id : String}
    (mem : id ∈ completedOf base observed) : id ∈ completedOf s.agents observed :=
  (kept.saved.trans kept.behind).completed.subset mem

theorem Going.start {s : Campaign} (going : Going observed base log done s) {backend : String}
    {scenario : ScenarioSpec}
    (fresh : backend = observed → scenario.id ∉ completedOf s.agents observed) :
    Begun observed base log done backend scenario.id (completedOf s.agents observed)
      (s.start backend scenario) := by
  have even := going.even
  have same := going.same
  unfold Ahead at even
  have runs : runsOf (s.start backend scenario).ran observed =
      runsOf s.ran observed + if backend = observed then 1 else 0 := by
    rw [← runsOf_singleton backend observed scenario.id]
    exact runsOf_append _ _ _
  have one : (if backend = observed then 1 else 0) ≤ 1 := by split <;> omega
  refine ⟨⟨⟨going.kept.saved, going.kept.behind, going.kept.once, ?_⟩, ?_⟩, ?_, going.done, rfl, fresh⟩
  · obtain ⟨new, isNew, unknown⟩ := going.kept.ran
    refine ⟨new ++ [(backend, scenario.id)], ?_, fun id mem known => ?_⟩
    · change s.ran ++ _ = _
      rw [isNew, List.append_assoc]
    · rcases List.mem_append.mp mem with old | this
      · exact unknown id old known
      · cases List.mem_singleton.mp this
        exact fresh rfl (going.kept.base_completed known)
  · unfold Owed
    rw [runs]
    change _ ≤ _ + reportsOf s.saved observed + 1
    omega
  · unfold Ahead
    rw [runs]
    change _ = _ + reportsOf s.agents observed + _
    omega

/-- The report of the case that was begun. -/
theorem Begun.report {s : Campaign} {backend id : String} {known : List String}
    (begun : Begun observed base log done backend id known s) (identity : String)
    {report : CaseReport}
    (own : report.completed <+: [id]) :
    Due observed base log done (s.report backend identity report) ∧
      completedOf (s.report backend identity report).agents observed =
        known ++ if backend = observed then report.completed else [] := by
  have cases : casesOf (s.report backend identity report).agents observed =
      casesOf s.agents observed ++ if backend = observed then [report] else [] :=
    casesOf_put backend identity rfl
  have completed : completedOf (s.report backend identity report).agents observed =
      known ++ if backend = observed then report.completed else [] := by
    rw [completedOf, cases, List.flatMap_append, ← begun.isKnown, apply_ite (List.flatMap _),
      List.flatMap_singleton, List.flatMap_nil]
    rfl
  have reports : reportsOf (s.report backend identity report).agents observed =
      reportsOf s.agents observed + if backend = observed then 1 else 0 := by
    rw [reportsOf, cases, List.length_append, apply_ite List.length]
    rfl
  have once : (known ++ if backend = observed then report.completed else []).Nodup := by
    have old := begun.owing.kept.once
    rw [begun.isKnown] at old
    split
    · rename_i same
      refine List.nodup_append'.mpr ⟨old, own.sublist.nodup (List.nodup_singleton _), ?_⟩
      intro other mem new
      cases List.mem_singleton.mp (own.subset new)
      exact begun.fresh same mem
    · rw [List.append_nil]
      exact old
  refine ⟨⟨⟨begun.owing.kept.put backend identity ?_ ?_, begun.owing.owed⟩, ?_, ?_⟩, completed⟩
  · exact ⟨rfl, List.prefix_append _ _, fun _ h => h, fun _ h => h⟩
  · rw [← Campaign.report, completed]
    exact once
  · have ahead := begun.ahead
    unfold Ahead at ahead ⊢
    rw [reports]
    change runsOf s.ran observed + _ = _
    omega
  · intro other mem
    rw [completed]
    exact List.mem_append_left _ (begun.done other mem)

theorem meets_onCase (backend : String) (case : CaseRun Evaluation) (summary : ScenarioSummary)
    (known : List String) :
    Meets (onCase process backend case summary)
      (Begun observed base log done backend summary.scenarioId known)
      (fun _ s => Going observed base log done s ∧ completedOf s.agents observed =
        known ++ if backend = observed then (case.report process.effects summary).completed else [])
      (fun _ => Owing observed base log) := by
  refine Meets.bind (meets_dispatched case.aggregate fun _ begun => begun.owing) fun _ => ?_
  refine Meets.of_start fun s both => ?_
  obtain ⟨due, completed⟩ := both.1.report (process.identities backend)
    (completed_report process.effects case summary)
  refine Meets.bind (Q := fun _ s' => s' = s.report backend (process.identities backend)
    (case.report process.effects summary)) (Meets.modify fun s' isState => ?_) fun _ => ?_
  · rw [isState]
  · refine meets_write process (fun s' isState => ?_) fun s' replaced isState => ?_
    · rw [isState]
      exact ⟨due.returned, completed⟩
    · rw [isState]
      exact due.owing.written replaced

end Steps

/-! ## The cases of an agent -/

/-- The scenarios are different, and none of them is completed. -/
structure Fresh (known : List String) (scenarios : List ScenarioSpec) : Prop where
  distinct : (scenarios.map (·.id)).Nodup
  unknown : ∀ scenario ∈ scenarios, scenario.id ∉ known

/-- What the loop over `scenarios` has told when it returns: a run that was not cancelled and in
which every case has the status `completed` has completed them all. -/
def Told (script : AgentScript Evaluation) (progress final : WorkerProgress Evaluation)
    (scenarios : List ScenarioSpec) (known : List String) : Prop :=
  ∃ added, final.summaries = progress.summaries ++ added ∧
    (script.cancelled = true ∨ (∃ summary ∈ added, summary.status ≠ .completed) ∨
      ∀ scenario ∈ scenarios, scenario.id ∈ known)

theorem told_cons {script : AgentScript Evaluation} {progress final : WorkerProgress Evaluation}
    {scenario : ScenarioSpec} {later : List ScenarioSpec} {known : List String}
    {ran : ScenarioResult × String × List Evaluation}
    (rest : Told script (progress.add script.worker scenario ran) final later known)
    (first : (caseSummary script.worker scenario ran.2.1 ran.1).status = .completed →
      scenario.id ∈ known) : Told script progress final (scenario :: later) known := by
  obtain ⟨added, isFinal, told⟩ := rest
  refine ⟨caseSummary script.worker scenario ran.2.1 ran.1 :: added, ?_, ?_⟩
  · rw [isFinal]
    exact List.append_assoc _ _ _
  · by_cases completed : (caseSummary script.worker scenario ran.2.1 ran.1).status = .completed
    · rcases told with cancelled | other | all
      · exact .inl cancelled
      · obtain ⟨summary, mem, failed⟩ := other
        exact .inr (.inl ⟨summary, List.mem_cons_of_mem _ mem, failed⟩)
      · exact .inr (.inr (List.forall_mem_cons.mpr ⟨first completed, all⟩))
    · exact .inr (.inl ⟨_, List.mem_cons_self, completed⟩)

theorem fresh_later {known : List String} {scenario : ScenarioSpec} {later : List ScenarioSpec}
    (fresh : Fresh known (scenario :: later)) {ids : List String} (own : ids <+: [scenario.id]) :
    Fresh (known ++ ids) later := by
  have distinct := fresh.distinct
  rw [List.map_cons, List.nodup_cons] at distinct
  refine ⟨distinct.2, fun other mem known' => ?_⟩
  rcases List.mem_append.mp known' with old | new
  · exact fresh.unknown other (List.mem_cons_of_mem _ mem) old
  · refine distinct.1 ?_
    rw [← List.mem_singleton.mp (own.subset new)]
    exact List.mem_map_of_mem mem

section Cases

variable (process : Process Evaluation) {observed : String} {base : Agents}
  {log : List (String × String)}

/-- One case: its report is all that is new. -/
theorem advances_runScenario (backend : String) (script : AgentScript Evaluation) (index : Nat)
    (scenario : ScenarioSpec) (known : List String) :
    Advances observed base log (fun agents => completedOf agents observed = known ∧
        (backend = observed → scenario.id ∉ known))
      (runScenario process backend script index scenario)
      fun ran agents => ((script.cases index).script process.effects).run = .ok ran.1 ∧
        completedOf agents observed = known ++ if backend = observed then
          ((script.cases index).report process.effects
            (caseSummary script.worker scenario ran.2.1 ran.1)).completed else [] := by
  intro done
  refine Meets.bind (Q := fun _ => Begun observed base log done backend scenario.id known)
    (Meets.modify fun s both => ?_) fun _ => ?_
  · rcases both with ⟨going, isKnown, fresh⟩
    rw [← isKnown] at fresh ⊢
    exact going.start fresh
  refine Meets.bind (meets_dispatched _ fun _ begun => begun.owing) fun ran => ?_
  refine Meets.bind (Q := fun _ s => Begun observed base log done backend scenario.id known s ∧
    runCase (some (control process)) ((script.cases index).script process.effects) = .ok ran)
    ?_ fun _ => ?_
  · unfold markQuarantined
    split
    · exact Meets.pure fun _ holds => holds
    · exact (meets_dispatched _ fun _ holds => holds.1.owing).mono (fun _ holds => holds)
        (fun _ _ holds => holds.1) fun _ _ owing => owing
  refine Meets.of_start fun s begun => ?_
  refine Meets.bind (Q := fun _ s' => Going observed base log done s' ∧
    completedOf s'.agents observed = known ++ if backend = observed then
      ((script.cases index).report process.effects
        (caseSummary script.worker scenario ran.2.1 ran.1)).completed else [])
    ((meets_onCase process backend (script.cases index) _ known).mono (fun s' isState => ?_)
      (fun _ _ holds => holds) fun _ _ owing => owing) fun _ => Meets.pure fun s' holds => ?_
  · rw [isState]
    exact begun.1
  · exact ⟨holds.1, run_of_runCase begun.2, holds.2⟩

theorem advances_runPending (backend : String) (script : AgentScript Evaluation)
    (scenarios : List ScenarioSpec) (index : Nat) (progress : WorkerProgress Evaluation) :
    Advances observed base log
      (fun agents => backend = observed → Fresh (completedOf agents observed) scenarios)
      (runPending process backend script index progress scenarios)
      fun final agents => backend = observed →
        Told script progress final scenarios (completedOf agents observed) := by
  induction scenarios generalizing index progress with
  | nil =>
      refine Advances.pure fun agents _ => ?_
      exact fun _ => ⟨[], (List.append_nil _).symm, .inr (.inr (List.forall_mem_nil _))⟩
  | cons scenario later ih =>
      rw [runPending]
      split
      · rename_i cancelled
        refine Advances.pure fun agents _ => ?_
        exact fun _ => ⟨[], (List.append_nil _).symm, .inl (script.stays index cancelled)⟩
      refine Advances.of_agents fun before fresh => ?_
      refine Advances.bind ((advances_runScenario process backend script index scenario
        (completedOf before observed)).mono (fun _ same => ?_) fun _ _ holds => holds) fun ran => ?_
      · rw [same]
        exact ⟨rfl, fun own => (fresh own).unknown _ List.mem_cons_self⟩
      dsimp only
      by_cases stop : stops (some (control process)) ran.1 = true
      · rw [if_pos stop]
        refine Advances.pure fun agents _ => ?_
        refine fun _ => ⟨_, List.append_assoc _ _ _, .inr (.inl ⟨_, List.mem_cons_self, ?_⟩)⟩
        intro completed
        have not := not_succeeded_of_stops stop
        rw [succeeded_of_status.mp completed] at not
        cases not
      rw [if_neg stop]
      refine Advances.of_agents fun after told => ?_
      rcases told with ⟨isRun, known⟩
      have later_fresh : backend = observed → Fresh (completedOf after observed) later := by
        intro own
        rw [known, if_pos own]
        exact fresh_later (fresh own) (completed_report _ _ _)
      refine ((ih (index + 1) (progress.add script.worker scenario ran)).keeping later_fresh).mono
        (fun _ same => same) fun final agents ended => ?_
      · intro own
        refine told_cons (ended.1 own) fun completed => ended.2 ?_
        rw [known, if_pos own, completed_of_status isRun completed]
        exact List.mem_append_right _ (List.mem_singleton_self _)

/-- The selected cases of an agent are completed. -/
def Complete (script : AgentScript Evaluation) (agents : Agents) (backend : String) : Prop :=
  ∀ file ∈ script.files, file.spec.id ∈ completedOf agents backend

/-- An agent that is not interrupted has completed its cases. -/
theorem advances_runCases (backend : String) (script : AgentScript Evaluation) :
    Advances observed base log (fun _ => True) (runCases process backend script)
      fun _ agents => backend = observed → Complete script agents observed := by
  refine Advances.read_bind fun s => ?_
  refine Advances.bind (Advances.answer _) fun _ => ?_
  refine Advances.bind (advances_freezeAgent backend _ script.files) fun record => ?_
  refine Advances.of_agents fun before holds => ?_
  rcases holds with ⟨found, distinct⟩
  have known : backend = observed → completedOf before observed = completedCaseIds record := by
    intro same
    rw [completedOf, casesOf, ← same, found]
    rfl
  have all : ∀ agents, completedOf before observed ⊆ completedOf agents observed →
      (backend = observed → ∀ scenario ∈ pendingCases record script.files,
        scenario.id ∈ completedOf agents observed) →
        backend = observed → Complete script agents observed := by
    intro agents old new same file mem
    by_cases complete : file.spec.id ∈ completedCaseIds record
    · refine old ?_
      rw [known same]
      exact complete
    · refine new same file.spec (List.mem_filter.mpr ⟨List.mem_map_of_mem mem, ?_⟩)
      exact decide_eq_true complete
  split
  · rename_i nothing
    refine Advances.pure fun agents isAgents => all agents ?_ fun _ scenario mem => ?_
    · rw [isAgents]
      exact List.Subset.refl _
    · rw [nothing] at mem
      exact absurd mem List.not_mem_nil
  refine Advances.bind (Advances.answer _) fun _ => ?_
  have fresh : backend = observed →
      Fresh (completedOf before observed) (pendingCases record script.files) := by
    refine fun same => ⟨(List.filter_sublist.map _).nodup ?_, fun scenario mem => ?_⟩
    · rw [List.map_map]
      exact distinct
    · rw [known same]
      exact of_decide_eq_true (List.mem_filter.mp mem).2
  refine Advances.bind ((advances_runPending process backend script
    (pendingCases record script.files) 0 {}).keeping fresh) fun report => ?_
  refine Advances.bind (Advances.answer _) fun _ => ?_
  refine Advances.bind (advances_checkpoint process _) fun _ => ?_
  split
  · exact Advances.throw _
  rename_i clean
  refine Advances.pure fun agents holds => all agents holds.2 fun same scenario mem => ?_
  obtain ⟨added, isReport, told⟩ := holds.1 same
  rcases told with cancelled | failed | complete
  · exact absurd (.inl cancelled) clean
  · obtain ⟨summary, inAdded, status⟩ := failed
    refine absurd (.inr ⟨summary, ?_, status⟩) clean
    rw [isReport]
    exact List.mem_append_right _ inAdded
  · exact complete scenario mem

/-- The agents from one of them on. -/
theorem advances_runBackends (backends : List String) :
    Advances observed base log (fun _ => True) (runBackends process backends)
      fun _ agents => observed ∈ backends → Complete (process.agents observed) agents observed := by
  induction backends with
  | nil =>
      refine Advances.pure fun agents _ => ?_
      exact fun mem => absurd mem List.not_mem_nil
  | cons backend later ih =>
      refine Advances.bind (Advances.answer _) fun _ => ?_
      refine Advances.bind (advances_runCases process backend (process.agents backend)) fun ran => ?_
      refine Advances.bind (Q := fun _ agents => backend = observed →
        Complete (process.agents backend) agents observed) ?_ fun _ => ?_
      · unfold requireHealth
        split
        · exact Advances.answer _
        · exact Advances.pure fun _ holds => holds
      refine Advances.of_agents fun before complete => ?_
      refine (ih.keeping trivial).mono (fun _ same => same) fun _ agents ended mem => ?_
      rcases List.mem_cons.mp mem with same | inLater
      · intro file isFile
        rw [same] at isFile
        exact ended.2 (complete same.symm file isFile)
      · exact ended.1 inLater

end Cases

/-! ## A process, from its start to its end -/

section Process

variable (process : Process Evaluation) {observed : String} {base : Agents}
  {log : List (String × String)} {done : List String}

/-- What follows, however the body ends. -/
theorem meets_ensuring {body after : CampaignProgram Unit} {P Q Q' : Campaign → Prop}
    (first : Meets body P (fun _ => Q) (fun _ => Owing observed base log))
    (closes : Meets after Q (fun _ => Q') (fun _ => Owing observed base log))
    (fails : Keeps after (Owing observed base log)) :
    Meets (ensuring body after) P (fun _ => Q') (fun _ => Owing observed base log) := by
  refine Meets.bind (Q := fun _ => Q) (Meets.tryCatch first fun error => ?_) fun _ => closes
  exact Meets.bind fails fun _ => Meets.throw fun _ owing => owing

theorem advances_prepare (resumed : Bool) :
    Advances observed base log (fun _ => True) (prepare process resumed) fun _ _ => True := by
  refine Advances.bind (Advances.answer _) fun _ => ?_
  refine Advances.bind (Q := fun _ _ => True) ?_ fun _ =>
    Advances.read_bind fun s => Advances.answer _
  cases resumed with
  | false => exact Advances.pure fun _ holds => holds
  | true =>
      refine Advances.read_bind fun s => ?_
      exact Advances.bind (Advances.answer _) fun _ => advances_freezeAgents _ _ _

/-- The selected cases of an agent of the process are completed. -/
def Passed (observed : String) (agents : Agents) : Prop :=
  observed ∈ process.backends → Complete (process.agents observed) agents observed

theorem advances_runBody (resumed : Bool) :
    Advances observed base log (fun _ => True) (runBody process resumed)
      fun _ => Passed process observed := by
  have deployed : Advances observed base log (fun _ => True) (runDeployed process)
      fun _ => Passed process observed := by
    refine Advances.bind (Advances.answer _) fun _ => ?_
    refine Advances.bind (advances_checkpoint process _) fun _ => ?_
    refine Advances.bind (advances_runBackends process process.backends) fun _ => ?_
    exact Advances.answer _
  have closes : Advances observed base log (Passed process observed)
      (do checkpoint process; Program.ofExcept process.release; checkpoint process)
      fun _ => Passed process observed := by
    refine Advances.bind (advances_checkpoint process _) fun _ => ?_
    exact Advances.bind (Advances.answer _) fun _ => advances_checkpoint process _
  refine Advances.bind (advances_prepare process resumed) fun _ => ?_
  refine Advances.bind (advances_checkpoint process _) fun _ => ?_
  refine Advances.bind (advances_freezeAgents _ _ _) fun _ => ?_
  refine Advances.bind (advances_checkpoint process _) fun _ => ?_
  intro done
  refine meets_ensuring (deployed done) (closes done) ?_
  refine Keeps.bind (keeps_checkpoint process) fun _ => ?_
  exact Keeps.bind (Keeps.ofExcept _) fun _ => keeps_checkpoint process

end Process

/-! ## Campaigns -/

/-- What `count` processes leave of a campaign, for one agent. -/
structure Resumes (agent : String) (before after : Campaign) (count : Nat) : Prop where
  /-- The record grows: its identity, its selected cases and their hashes stay. -/
  grown : Grown agent before.saved after.saved
  /-- No case is completed twice. -/
  once : (completedOf after.saved agent).Nodup
  /-- No case is run that the file told to be completed. -/
  ran : ∃ new, after.ran = before.ran ++ new ∧
    ∀ id, (agent, id) ∈ new → id ∉ completedOf before.saved agent
  /-- Each process has begun at most one case without a report in the file. -/
  owed : runsOf after.ran agent + reportsOf before.saved agent ≤
    runsOf before.ran agent + reportsOf after.saved agent + count

section Campaigns

variable {agent : String} {first middle last : Campaign}

theorem Resumes.refl (once : (completedOf first.saved agent).Nodup) :
    Resumes agent first first 0 :=
  ⟨.refl _, once, ⟨[], (List.append_nil _).symm, fun _ mem => absurd mem List.not_mem_nil⟩, le_refl _⟩

theorem Resumes.trans {m n : Nat} (one : Resumes agent first middle m)
    (two : Resumes agent middle last n) : Resumes agent first last (m + n) := by
  refine ⟨one.grown.trans two.grown, two.once, ?_, ?_⟩
  · obtain ⟨new, isNew, unknown⟩ := one.ran
    obtain ⟨newer, isNewer, unknown'⟩ := two.ran
    refine ⟨new ++ newer, ?_, fun id mem known => ?_⟩
    · rw [isNewer, isNew, List.append_assoc]
    · rcases List.mem_append.mp mem with earlier | later
      · exact unknown id earlier known
      · exact unknown' id later (one.grown.completed.subset known)
  · have owed := one.owed
    have owed' := two.owed
    omega

theorem Owing.resumes {s : Campaign} {log : List (String × String)} {before : Campaign}
    (isLog : log = before.ran) (owing : Owing agent before.saved log s) :
    Resumes agent before s 1 := by
  subst isLog
  refine ⟨owing.kept.saved, ?_, owing.kept.ran, owing.owed⟩
  exact owing.kept.behind.completed.sublist.nodup owing.kept.once

/-- The state in which a process starts. -/
theorem going_start (s : Campaign) (once : (completedOf s.saved agent).Nodup) :
    Going agent s.saved s.ran [] { s with agents := s.saved, writes := 0 } := by
  refine ⟨⟨.refl _, .refl _, once, [], (List.append_nil _).symm, ?_⟩, rfl, rfl, ?_⟩
  · intro _ mem
    exact absurd mem List.not_mem_nil
  · intro _ mem
    exact absurd mem List.not_mem_nil

/-- A process leaves what it owes, and one that returns has completed its cases. -/
theorem resumes_runAcceptance (process : Process Evaluation) (resumed : Bool) (s : Campaign)
    (start : resumed = false → s.disk = none) (once : (completedOf s.saved agent).Nodup) :
    Resumes agent s (runAcceptance process resumed s).2 1 ∧
      ((runAcceptance process resumed s).1 = .ok () →
        Passed process agent (runAcceptance process resumed s).2.saved) := by
  have whole : Meets (ensuring (runBody process resumed) (checkpoint process))
      (fun s' => Going agent s.saved s.ran [] s' ∧ True)
      (fun _ s' => (Going agent s.saved s.ran [] s' ∧ Passed process agent s'.agents) ∧
        s'.saved = s'.agents) (fun _ => Owing agent s.saved s.ran) :=
    meets_ensuring (advances_runBody process resumed []) (meets_save process (Passed process agent))
      (keeps_checkpoint process)
  have ran : ∀ answer after, outcome (ensuring (runBody process resumed) (checkpoint process))
      { s with agents := s.saved, writes := 0 } = (answer, after) →
      Resumes agent s after 1 ∧ (answer = .ok () → Passed process agent after.saved) := by
    intro answer after ended
    cases answer with
    | ok _ =>
        have done := whole.of_ok ⟨going_start s once, trivial⟩ ended
        refine ⟨done.1.1.due.owing.resumes rfl, fun _ => ?_⟩
        rw [done.2]
        exact done.1.2
    | error error =>
        refine ⟨Owing.resumes rfl (whole.of_error ⟨going_start s once, trivial⟩ ended), ?_⟩
        intro impossible
        cases impossible
  have idle : ∀ error : AcceptanceError, Resumes agent s s 1 ∧
      ((.error error : Except AcceptanceError Unit) = .ok () → Passed process agent s.saved) := by
    intro error
    refine ⟨⟨.refl _, once, (Resumes.refl once).ran, Nat.le_succ _⟩, fun impossible => ?_⟩
    cases impossible
  unfold runAcceptance
  cases process.gate with
  | error error => exact idle error
  | ok _ =>
      cases resumed with
      | true =>
          cases disk : s.disk with
          | none => exact idle .fileNotFound
          | some agents =>
              have same : s.saved = agents := by rw [Campaign.saved, disk]; rfl
              rw [same, disk] at ran
              exact ran _ _ rfl
      | false =>
          have same : s.saved = .empty := by rw [Campaign.saved, start rfl]; rfl
          rw [same] at ran
          exact ran _ _ rfl

/-- Any number of processes that resume a campaign. -/
theorem resumes_campaign (later : List (Process Evaluation)) (s : Campaign)
    (once : (completedOf s.saved agent).Nodup) :
    Resumes agent s (later.foldl (fun s process => (runAcceptance process true s).2) s)
      later.length := by
  induction later generalizing s with
  | nil => exact .refl once
  | cons process later ih =>
      have one := (resumes_runAcceptance process true s (fun impossible => nomatch impossible) once).1
      rw [List.foldl_cons, List.length_cons, Nat.add_comm]
      exact one.trans (ih _ one.once)

theorem campaign_append (first : Process Evaluation) (earlier later : List (Process Evaluation)) :
    campaign first (earlier ++ later) =
      later.foldl (fun s process => (runAcceptance process true s).2) (campaign first earlier) :=
  List.foldl_append

theorem resumes_first (process : Process Evaluation) (later : List (Process Evaluation)) :
    Resumes agent ⟨.empty, none, [], 0⟩ (campaign process later) (1 + later.length) := by
  have one : Resumes agent ⟨.empty, none, [], 0⟩
      (runAcceptance process false ⟨.empty, none, [], 0⟩).2 1 :=
    (resumes_runAcceptance process false ⟨.empty, none, [], 0⟩ (fun _ => rfl) List.nodup_nil).1
  exact one.trans (resumes_campaign later _ one.once)

/-- Whatever its processes meet and wherever they end, a campaign goes on from what it has
completed: later processes keep every record that is in the file, run none of its completed cases
and complete none of them again, and no more cases are begun than the file reports, but for one in
every process. -/
theorem campaign_resumes (process : Process Evaluation) (earlier later : List (Process Evaluation))
    (agent : String) :
    Resumes agent (campaign process earlier) (campaign process (earlier ++ later)) later.length ∧
      runsOf (campaign process (earlier ++ later)).ran agent ≤
        reportsOf (campaign process (earlier ++ later)).saved agent +
          (1 + (earlier ++ later).length) := by
  have before : Resumes agent ⟨.empty, none, [], 0⟩ (campaign process earlier) (1 + earlier.length) :=
    resumes_first process earlier
  refine ⟨?_, ?_⟩
  · rw [campaign_append]
    exact resumes_campaign later _ before.once
  · have whole : Resumes agent ⟨.empty, none, [], 0⟩ (campaign process (earlier ++ later))
        (1 + (earlier ++ later).length) := resumes_first process (earlier ++ later)
    have owed := whole.owed
    change runsOf _ agent + 0 ≤ 0 + _ + _ at owed
    omega

/-- Where a process starts: the first one without a file, a later one from what others left. -/
inductive Starts (Evaluation : Type) : Bool → Campaign → Prop where
  | first : Starts Evaluation false ⟨.empty, none, [], 0⟩
  | later (process : Process Evaluation) (earlier : List (Process Evaluation)) :
      Starts Evaluation true (campaign process earlier)

theorem Starts.once {resumed : Bool} {s : Campaign} (starts : Starts Evaluation resumed s) :
    (completedOf s.saved agent).Nodup := by
  cases starts with
  | first => exact List.nodup_nil
  | later process earlier => exact (resumes_first process earlier).once

/-- A process of a campaign that returns leaves a file that tells every selected case of every
agent to be completed. -/
theorem acceptance_passed {resumed : Bool} {s : Campaign} (starts : Starts Evaluation resumed s)
    (process : Process Evaluation) (passed : (runAcceptance process resumed s).1 = .ok ()) :
    ∀ agent ∈ process.backends, ∀ file ∈ (process.agents agent).files,
      file.spec.id ∈ completedOf (runAcceptance process resumed s).2.saved agent := by
  intro agent mem
  have noFile : resumed = false → s.disk = none := by
    intro isFirst
    cases starts with
    | first => rfl
    | later => cases isFirst
  exact (resumes_runAcceptance process resumed s noFile starts.once).2 passed mem

/-! ## A campaign that is resumed -/

def campaignFiles : List CaseFile := [⟨⟨"bgp", "xs"⟩, "b1"⟩, ⟨⟨"mtu", "xs"⟩, "m1"⟩]

def submittedCase : CaseRun Unit where
  ending := .ok (.ended true)
  persist := .ok "raw.json"

def killedCase : CaseRun Unit where
  ending := .error (.raised "killed")
  persist := .ok "raw.json"

/-- An agent whose second case may end the process. -/
def campaignScript (killed : Bool) : AgentScript Unit where
  files := campaignFiles
  worker := poolWorker 1 "worker"
  cases index := if killed && decide (index = 1) then killedCase else submittedCase
  stays index cancelled := by
    split at cancelled <;> exact cancelled

def campaignProcess (killed : Bool) : Process Unit where
  backends := ["codex"]
  identities _ := "model"
  recorded := campaignFiles
  selected := campaignFiles
  agents _ := campaignScript killed
  write index := if killed && decide (3 < index) then .raises false "killed" else .returns

theorem acceptance_passed_resumed :
    (∀ agent ∈ ["codex"], ∀ file ∈ campaignFiles, file.spec.id ∈
      completedOf (runAcceptance (campaignProcess false) true
        (campaign (campaignProcess true) [])).2.saved agent) ∧
      (runAcceptance (campaignProcess false) true (campaign (campaignProcess true) [])).2.ran =
        [("codex", "bgp"), ("codex", "mtu"), ("codex", "mtu")] :=
  ⟨acceptance_passed (.later (campaignProcess true) []) (campaignProcess false) (by rfl), by rfl⟩

end Campaigns

end Acceptance

end NetOpsBench
