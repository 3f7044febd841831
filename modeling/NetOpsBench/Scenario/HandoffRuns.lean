import NetOpsBench.Scenario.Baseline

/-!
# Runs of the baseline handoff

The calls of `BaselineHandoff` in any order, with any readings of the two clocks. A `HandoffRun`
keeps beside the handoff which call has published the window that it holds, and which publications
`take` has returned; no operation reads either.
-/

namespace NetOpsBench

namespace BaselineHandoff

/-- What must hold for a window to be taken. -/
structure Takes (handoff : BaselineHandoff) (scope : Option RuntimeScope) (minimumSeconds : Int)
    (monotonic : Rat) (now : Int) (window : BaselineWindow) : Prop where
  held : handoff.window = some window
  present : scope.isSome = true
  unchanged : sameScope scope handoff.scope = true
  current : handoff.current monotonic = true
  valid : validWindow window minimumSeconds now = true

variable {handoff : BaselineHandoff} {scope : Option RuntimeScope} {minimumSeconds : Int}
  {monotonic : Rat} {now : Int} {window : BaselineWindow} {source : String}

theorem take_eq_some (taken : (handoff.take scope minimumSeconds monotonic now).1 = some window) :
    handoff.Takes scope minimumSeconds monotonic now window := by
  unfold take at taken
  rcases isWindow : handoff.window with _ | held
  · simp [isWindow] at taken
  · simp only [isWindow] at taken
    split at taken
    · cases taken
    · rename_i sameOne
      rw [Bool.or_eq_true, not_or, Option.isNone_iff_eq_none, Bool.not_eq_true',
        Bool.not_eq_false] at sameOne
      split at taken
      · cases taken
      · rename_i current
        split at taken
        · cases taken
        · rename_i valid
          cases taken
          exact
            { held := isWindow
              present := Option.isSome_iff_ne_none.mpr sameOne.1
              unchanged := sameOne.2
              current := by simpa using current
              valid := by simpa using valid }

/-- Whatever comes of it, the handoff has no window afterwards. -/
theorem take_window (handoff : BaselineHandoff) (scope : Option RuntimeScope)
    (minimumSeconds : Int) (monotonic : Rat) (now : Int) :
    (handoff.take scope minimumSeconds monotonic now).2.2.window = none := by
  unfold take
  dsimp only
  split
  · rfl
  · split
    · rfl
    · split
      · rfl
      · split <;> rfl

theorem take_epoch (handoff : BaselineHandoff) (scope : Option RuntimeScope)
    (minimumSeconds : Int) (monotonic : Rat) (now : Int) :
    (handoff.take scope minimumSeconds monotonic now).2.2.epoch = handoff.epoch := by
  unfold take
  dsimp only
  split
  · rfl
  · split
    · rfl
    · split
      · rfl
      · split <;> rfl

theorem publish_epoch (handoff : BaselineHandoff) (window : BaselineWindow)
    (scope : Option RuntimeScope) (source : String) (minimumSeconds now : Int) :
    (handoff.publish window scope source minimumSeconds now).2.epoch = handoff.epoch := by
  unfold publish
  split <;> rfl

/-- A publication that fails leaves no window; one that succeeds leaves its own, in an epoch. -/
theorem publish_cases (handoff : BaselineHandoff) (window : BaselineWindow)
    (scope : Option RuntimeScope) (source : String) (minimumSeconds now : Int) :
    ((handoff.publish window scope source minimumSeconds now).1 = false ∧
        (handoff.publish window scope source minimumSeconds now).2.window = none) ∨
      ((handoff.publish window scope source minimumSeconds now).1 = true ∧
        (handoff.publish window scope source minimumSeconds now).2.window = some window ∧
        (handoff.publish window scope source minimumSeconds now).2.scope = scope ∧
        ∃ published epoch, scope = some published ∧ handoff.epoch = some epoch) := by
  unfold publish
  split
  · exact .inl ⟨rfl, rfl⟩
  · rename_i passes
    simp only [Bool.or_eq_true, not_or, Option.isNone_iff_eq_none] at passes
    obtain ⟨published, isScope⟩ := Option.ne_none_iff_exists'.mp passes.1.1
    obtain ⟨epoch, isEpoch⟩ := Option.ne_none_iff_exists'.mp passes.1.2
    exact .inr ⟨rfl, rfl, rfl, published, epoch, isScope, isEpoch⟩

/-- An epoch that is current is at most `RECALIBRATE_SECONDS` old. -/
theorem age_of_current (current : handoff.current monotonic = true) :
    ∃ epoch, handoff.epoch = some epoch ∧ 0 ≤ monotonic - epoch ∧ monotonic - epoch ≤ 600 := by
  unfold BaselineHandoff.current at current
  rcases isEpoch : handoff.epoch with _ | epoch
  · simp [isEpoch] at current
  · simp only [isEpoch, Bool.and_eq_true, decide_eq_true_eq] at current
    exact ⟨epoch, rfl, current.1, current.2⟩

end BaselineHandoff

/-- A window that ended at most two minutes before `now`, and is long enough. -/
structure BaselineWindow.FreshAndLong (window : BaselineWindow) (minimumSeconds now : Int)
    (start ended : Moment) (duration : Int) : Prop where
  startTime : window.startTime = some start
  endTime : window.endTime = some ended
  durationSeconds : window.durationSeconds = some duration
  aware : start.aware = true ∧ ended.aware = true
  spans : minimumSeconds * 1000000 ≤ ended.micros - start.micros
  lasts : minimumSeconds ≤ duration
  past : ended.micros ≤ now
  recent : now ≤ ended.micros + 120 * 1000000

theorem freshAndLong_of_valid {window : BaselineWindow} {minimumSeconds now : Int}
    (valid : validWindow window minimumSeconds now = true) :
    ∃ start ended duration, window.FreshAndLong minimumSeconds now start ended duration := by
  unfold validWindow at valid
  split at valid
  · rename_i start ended duration isStart isEnded isDuration
    unfold maxWindowAgeSeconds at valid
    simp only [Bool.and_eq_true, decide_eq_true_eq] at valid
    obtain ⟨⟨⟨⟨aware, spans⟩, lasts⟩, past⟩, recent⟩ := valid
    refine ⟨start, ended, duration, isStart, isEnded, isDuration, aware, spans, lasts, ?_, ?_⟩
    · omega
    · omega
  · cases valid

/-! ## The calls -/

inductive HandoffCall : Type where
  | clear
  | freshEpoch (monotonic : Rat)
  | publish (window : BaselineWindow) (scope : Option RuntimeScope) (source : String)
      (minimumSeconds now : Int)
  /-- A `publish` of a window at whose fields `valid_window` raises what it does not catch. -/
  | publishUnreadable (scope : Option RuntimeScope)
  | take (scope : Option RuntimeScope) (minimumSeconds : Int) (monotonic : Rat) (now : Int)

namespace HandoffCall

def isTake : HandoffCall → Bool
  | clear => false
  | freshEpoch _ => false
  | publish _ _ _ _ _ => false
  | publishUnreadable _ => false
  | take _ _ _ _ => true

/-- A `fresh_epoch` or a `clear` -/
def isReset : HandoffCall → Bool
  | clear => true
  | freshEpoch _ => true
  | publish _ _ _ _ _ => false
  | publishUnreadable _ => false
  | take _ _ _ _ => false

end HandoffCall

structure HandoffRun : Type where
  handoff : BaselineHandoff := {}
  calls : List HandoffCall := []
  /-- The place of the call that has published the window of the handoff. -/
  publication : Option Nat := none
  /-- The publications that `take` has returned. -/
  returned : List Nat := []

namespace HandoffRun

def next (run : HandoffRun) (call : HandoffCall) : HandoffRun :=
  let calls := run.calls ++ [call]
  match call with
  | .clear => { run with handoff := run.handoff.clear, calls, publication := none }
  | .freshEpoch monotonic =>
      { run with handoff := run.handoff.freshEpoch monotonic, calls, publication := none }
  | .publish window scope source minimumSeconds now =>
      let published := run.handoff.publish window scope source minimumSeconds now
      { run with
        handoff := published.2
        calls
        publication := if published.1 then some run.calls.length else none }
  | .publishUnreadable scope =>
      if scope.isNone || run.handoff.epoch.isNone then
        { run with handoff := { run.handoff with window := none }, calls, publication := none }
      else { run with calls }
  | .take scope minimumSeconds monotonic now =>
      let taken := run.handoff.take scope minimumSeconds monotonic now
      { run with
        handoff := taken.2.2
        calls
        publication := none
        returned := if taken.1.isSome then run.returned ++ run.publication.toList else run.returned }

end HandoffRun

def handoffRun (calls : List HandoffCall) : HandoffRun := calls.foldl HandoffRun.next {}

theorem handoffRun_concat (calls : List HandoffCall) (call : HandoffCall) :
    handoffRun (calls ++ [call]) = (handoffRun calls).next call := by
  simp [handoffRun]

theorem calls_handoffRun (calls : List HandoffCall) : (handoffRun calls).calls = calls := by
  induction calls using List.reverseRecOn with
  | nil => rfl
  | append_singleton calls call ih =>
      rw [handoffRun_concat]
      cases call with
      | publishUnreadable scope =>
          simp only [HandoffRun.next]
          split <;> simp [ih]
      | clear => simp [HandoffRun.next, ih]
      | freshEpoch monotonic => simp [HandoffRun.next, ih]
      | publish window scope source minimumSeconds now => simp [HandoffRun.next, ih]
      | take scope minimumSeconds monotonic now => simp [HandoffRun.next, ih]

/-! ## What the calls say of a window -/

/-- The call at `epochPlace` began the epoch that has lasted since. -/
structure EpochAt (calls : List HandoffCall) (epoch : Rat) (epochPlace : Nat) : Prop where
  call : calls[epochPlace]? = some (.freshEpoch epoch)
  since : ∀ later call, epochPlace < later → calls[later]? = some call → call.isReset = false

/-- The call at `place` published the window in that epoch, and no call has taken one since. -/
structure PublishedAt (calls : List HandoffCall) (window : BaselineWindow) (scope : RuntimeScope)
    (epoch : Rat) (place epochPlace : Nat) : Prop where
  epochAt : EpochAt calls epoch epochPlace
  inEpoch : epochPlace < place
  call : ∃ source minimumSeconds now,
    calls[place]? = some (.publish window (some scope) source minimumSeconds now) ∧
      ((handoffRun (calls.take place)).handoff.publish window (some scope) source minimumSeconds
        now).1 = true
  untaken : ∀ later call, place < later → calls[later]? = some call → call.isTake = false

/-- A place after the end of the calls is not one of them. -/
theorem lt_of_getElem? {calls : List HandoffCall} {place : Nat} {call : HandoffCall}
    (at_ : calls[place]? = some call) : place < calls.length :=
  (List.getElem?_eq_some_iff.mp at_).1

theorem getElem?_grown {calls : List HandoffCall} {place : Nat} {call : HandoffCall}
    (at_ : calls[place]? = some call) (added : HandoffCall) :
    (calls ++ [added])[place]? = some call := by
  rw [List.getElem?_append_left (lt_of_getElem? at_)]
  exact at_

/-- What holds of every later call still holds when one is added that it holds of. -/
theorem since_grown {P : HandoffCall → Prop} {calls : List HandoffCall} {place : Nat}
    {added : HandoffCall}
    (since : ∀ later call, place < later → calls[later]? = some call → P call) (new : P added) :
    ∀ later call, place < later → (calls ++ [added])[later]? = some call → P call := by
  intro later call after at_
  rcases Nat.lt_trichotomy later calls.length with within | last | beyond
  · rw [List.getElem?_append_left within] at at_
    exact since later call after at_
  · subst last
    rw [List.getElem?_concat_length] at at_
    cases at_
    exact new
  · have bound := lt_of_getElem? at_
    rw [List.length_append, List.length_singleton] at bound
    omega

theorem EpochAt.concat {calls : List HandoffCall} {epoch : Rat} {epochPlace : Nat}
    (epochAt : EpochAt calls epoch epochPlace) {added : HandoffCall}
    (keeps : added.isReset = false) : EpochAt (calls ++ [added]) epoch epochPlace where
  call := getElem?_grown epochAt.call added
  since := since_grown epochAt.since keeps

/-- An epoch that begins with the last call. -/
theorem epochAt_concat (calls : List HandoffCall) (epoch : Rat) :
    EpochAt (calls ++ [.freshEpoch epoch]) epoch calls.length where
  call := List.getElem?_concat_length
  since := by
    intro later call after at_
    have bound := lt_of_getElem? at_
    rw [List.length_append, List.length_singleton] at bound
    omega

theorem PublishedAt.concat {calls : List HandoffCall} {window : BaselineWindow}
    {scope : RuntimeScope} {epoch : Rat} {place epochPlace : Nat}
    (published : PublishedAt calls window scope epoch place epochPlace) {added : HandoffCall}
    (keeps : added.isReset = false) (untaken : added.isTake = false) :
    PublishedAt (calls ++ [added]) window scope epoch place epochPlace where
  epochAt := published.epochAt.concat keeps
  inEpoch := published.inEpoch
  call := by
    obtain ⟨source, minimumSeconds, now, at_, succeeded⟩ := published.call
    have bound := lt_of_getElem? at_
    refine ⟨source, minimumSeconds, now, getElem?_grown at_ added, ?_⟩
    rw [List.take_append_of_le_length (by omega)]
    exact succeeded
  untaken := since_grown published.untaken untaken

/-! ## The invariant of a run -/

/-- The window of the handoff is that of a publication which no `take` has returned. -/
structure HandoffRun.Holds (run : HandoffRun) (window : BaselineWindow) (place epochPlace : Nat)
    (scope : RuntimeScope) (epoch : Rat) : Prop where
  publication : run.publication = some place
  fresh : place ∉ run.returned
  isScope : run.handoff.scope = some scope
  isEpoch : run.handoff.epoch = some epoch
  published : PublishedAt run.calls window scope epoch place epochPlace

structure HandoffRun.Sound (run : HandoffRun) : Prop where
  holds : ∀ window, run.handoff.window = some window →
    ∃ place epochPlace scope epoch, run.Holds window place epochPlace scope epoch
  epochs : ∀ epoch, run.handoff.epoch = some epoch →
    ∃ epochPlace, EpochAt run.calls epoch epochPlace
  publication : ∀ place, run.publication = some place → place < run.calls.length
  returned : ∀ place ∈ run.returned, place < run.calls.length

namespace HandoffRun

variable {run : HandoffRun}

theorem sound_start : Sound {} where
  holds _ held := nomatch held
  epochs _ began := nomatch began
  publication _ published := nomatch published
  returned _ mem := absurd mem List.not_mem_nil

/-- The calls grow by one. -/
theorem calls_next (run : HandoffRun) (call : HandoffCall) :
    (run.next call).calls = run.calls ++ [call] := by
  cases call with
  | publishUnreadable scope =>
      simp only [next]
      split <;> rfl
  | clear => rfl
  | freshEpoch monotonic => rfl
  | publish window scope source minimumSeconds now => rfl
  | take scope minimumSeconds monotonic now => rfl

theorem Holds.congr {after : HandoffRun} {added : HandoffCall} {window : BaselineWindow}
    {place epochPlace : Nat} {scope : RuntimeScope} {epoch : Rat}
    (holds : run.Holds window place epochPlace scope epoch)
    (calls : after.calls = run.calls ++ [added]) (keeps : added.isReset = false)
    (untaken : added.isTake = false) (publication : after.publication = run.publication)
    (returned : after.returned = run.returned) (handoff : after.handoff = run.handoff) :
    after.Holds window place epochPlace scope epoch where
  publication := publication.trans holds.publication
  fresh := returned ▸ holds.fresh
  isScope := handoff ▸ holds.isScope
  isEpoch := handoff ▸ holds.isEpoch
  published := calls ▸ holds.published.concat keeps untaken

/-- An epoch goes on where a call neither begins nor ends one. -/
theorem Sound.epochs_next (sound : run.Sound) {after : HandoffRun} {added : HandoffCall}
    (calls : after.calls = run.calls ++ [added]) (keeps : added.isReset = false)
    (same : after.handoff.epoch = run.handoff.epoch) (epoch : Rat)
    (began : after.handoff.epoch = some epoch) :
    ∃ epochPlace, EpochAt after.calls epoch epochPlace := by
  obtain ⟨epochPlace, epochAt⟩ := sound.epochs epoch (same ▸ began)
  exact ⟨epochPlace, calls ▸ epochAt.concat keeps⟩

/-- The places of the publications that have been returned stay those of calls. -/
theorem Sound.returned_next (sound : run.Sound) {after : HandoffRun} {added : HandoffCall}
    (calls : after.calls = run.calls ++ [added]) (same : after.returned = run.returned) :
    ∀ place ∈ after.returned, place < after.calls.length := by
  intro place mem
  have earlier := sound.returned place (same ▸ mem)
  rw [calls, List.length_append, List.length_singleton]
  omega

theorem Sound.clear (sound : run.Sound) : (run.next .clear).Sound where
  holds _ held := nomatch held
  epochs _ began := nomatch began
  publication _ published := nomatch published
  returned := sound.returned_next rfl rfl

theorem Sound.freshEpoch (sound : run.Sound) (monotonic : Rat) :
    (run.next (.freshEpoch monotonic)).Sound where
  holds _ held := nomatch held
  epochs epoch began := by
    cases began
    exact ⟨run.calls.length, epochAt_concat run.calls monotonic⟩
  publication _ published := nomatch published
  returned := sound.returned_next rfl rfl

theorem Sound.take (sound : run.Sound) (scope : Option RuntimeScope) (minimumSeconds : Int)
    (monotonic : Rat) (now : Int) : (run.next (.take scope minimumSeconds monotonic now)).Sound where
  holds window held := by
    have none := run.handoff.take_window scope minimumSeconds monotonic now
    exact nomatch none.symm.trans held
  epochs := sound.epochs_next rfl rfl (run.handoff.take_epoch scope minimumSeconds monotonic now)
  publication _ published := nomatch published
  returned := by
    intro place mem
    rw [calls_next, List.length_append, List.length_singleton]
    simp only [next] at mem
    split at mem
    · rcases List.mem_append.mp mem with earlier | new
      · have bound := sound.returned place earlier
        omega
      · have bound := sound.publication place (Option.mem_toList.mp new)
        omega
    · have bound := sound.returned place mem
      omega

/-- A publication that succeeds is the last call, in the epoch that it finds. -/
theorem Sound.publish (sound : run.Sound) (calls : run = handoffRun run.calls)
    (window : BaselineWindow) (scope : Option RuntimeScope) (source : String)
    (minimumSeconds now : Int) :
    (run.next (.publish window scope source minimumSeconds now)).Sound where
  holds held isHeld := by
    rcases run.handoff.publish_cases window scope source minimumSeconds now with
      ⟨-, noWindow⟩ | ⟨succeeded, isWindow, isScope, published, epoch, rfl, began⟩
    · exact nomatch noWindow.symm.trans isHeld
    · cases isWindow.symm.trans isHeld
      obtain ⟨epochPlace, epochAt⟩ := sound.epochs epoch began
      have inside := lt_of_getElem? epochAt.call
      refine ⟨run.calls.length, epochPlace, published, epoch, ?_, ?_, isScope, ?_, ?_⟩
      · exact if_pos succeeded
      · exact fun mem => Nat.lt_irrefl _ (sound.returned _ mem)
      · exact (run.handoff.publish_epoch window (some published) source minimumSeconds now).trans
          began
      · refine ⟨calls_next run _ ▸ epochAt.concat rfl, inside, ?_, ?_⟩
        · refine ⟨source, minimumSeconds, now, List.getElem?_concat_length, ?_⟩
          change ((handoffRun ((run.calls ++ [_]).take run.calls.length)).handoff.publish _ _ _ _
            _).1 = true
          rw [List.take_left, ← calls]
          exact succeeded
        · intro later call after at_
          have bound := lt_of_getElem? at_
          rw [calls_next, List.length_append, List.length_singleton] at bound
          omega
  epochs := sound.epochs_next rfl rfl
    (run.handoff.publish_epoch window scope source minimumSeconds now)
  publication := by
    intro place published
    rw [calls_next, List.length_append, List.length_singleton]
    simp only [next] at published
    split at published
    · cases published
      omega
    · cases published
  returned := sound.returned_next rfl rfl

/-- A publication that raises changes nothing, or has found no scope or no epoch. -/
theorem Sound.publishUnreadable (sound : run.Sound) (scope : Option RuntimeScope) :
    (run.next (.publishUnreadable scope)).Sound := by
  have calls := run.calls_next (.publishUnreadable scope)
  simp only [next] at calls ⊢
  split
  · exact
      { holds := fun _ held => nomatch held
        epochs := sound.epochs_next rfl rfl rfl
        publication := fun _ published => nomatch published
        returned := sound.returned_next rfl rfl }
  · refine ⟨?_, sound.epochs_next rfl rfl rfl, ?_, sound.returned_next rfl rfl⟩
    · intro window held
      obtain ⟨place, epochPlace, published, epoch, holds⟩ := sound.holds window held
      exact ⟨place, epochPlace, published, epoch, holds.congr rfl rfl rfl rfl rfl rfl⟩
    · intro place published
      have earlier := sound.publication place published
      simp only [List.length_append, List.length_singleton]
      omega

theorem Sound.next (sound : run.Sound) (calls : run = handoffRun run.calls) (call : HandoffCall) :
    (run.next call).Sound := by
  cases call with
  | clear => exact sound.clear
  | freshEpoch monotonic => exact sound.freshEpoch monotonic
  | publish window scope source minimumSeconds now =>
      exact sound.publish calls window scope source minimumSeconds now
  | publishUnreadable scope => exact sound.publishUnreadable scope
  | take scope minimumSeconds monotonic now => exact sound.take scope minimumSeconds monotonic now

end HandoffRun

theorem sound_handoffRun (calls : List HandoffCall) : (handoffRun calls).Sound := by
  induction calls using List.reverseRecOn with
  | nil => exact HandoffRun.sound_start
  | append_singleton calls call ih =>
      rw [handoffRun_concat]
      exact ih.next (by rw [calls_handoffRun]) call

/-- A window that is taken after any calls is that of a publication in the last epoch, returned by
no earlier `take`, under an equal scope, and both clocks allow it. -/
theorem taken_baseline_published (calls : List HandoffCall) (scope : Option RuntimeScope)
    (minimumSeconds : Int) (monotonic : Rat) (now : Int) (window : BaselineWindow)
    (taken : ((handoffRun calls).handoff.take scope minimumSeconds monotonic now).1 =
      some window) :
    ∃ place epochPlace published epoch,
      (handoffRun calls).publication = some place ∧ place ∉ (handoffRun calls).returned ∧
        PublishedAt calls window published epoch place epochPlace ∧
        sameScope scope (some published) = true ∧
        0 ≤ monotonic - epoch ∧ monotonic - epoch ≤ 600 ∧
        ∃ start ended duration, window.FreshAndLong minimumSeconds now start ended duration := by
  have takes := BaselineHandoff.take_eq_some taken
  obtain ⟨place, epochPlace, published, epoch, holds⟩ :=
    (sound_handoffRun calls).holds window takes.held
  obtain ⟨current, began, past, recent⟩ := BaselineHandoff.age_of_current takes.current
  cases holds.isEpoch.symm.trans began
  have publishedAt := holds.published
  rw [calls_handoffRun] at publishedAt
  have unchanged := takes.unchanged
  rw [holds.isScope] at unchanged
  exact ⟨place, epochPlace, published, epoch, holds.publication, holds.fresh, publishedAt, unchanged,
    past, recent, freshAndLong_of_valid takes.valid⟩

/-! ### Two cases on one runtime -/

def steadyScope : RuntimeScope where
  identity :=
    { runtime := "r", worker := "w", topology := "t", pingmeshPlanId := "p", bucket := "b",
      scale := "s", trafficProfile := "light", generation := 1, plans := .empty }
  configs := .empty
  containers := .empty

/-- A window of one minute that ends at an instant. -/
def minuteWindow (number : Nat) (ended : Int) : BaselineWindow where
  number
  startTime := some { micros := ended - 60000000, aware := true }
  endTime := some { micros := ended, aware := true }
  durationSeconds := some 60

/-- The first window is taken, and so is a second one, which is published in its place. -/
def twoHandoffs : List HandoffCall :=
  [.clear, .freshEpoch 100,
    .publish (minuteWindow 0 200000000) (some steadyScope) "first" 60 201000000,
    .take (some steadyScope) 60 110 210000000,
    .publish (minuteWindow 1 300000000) (some steadyScope) "second" 60 301000000]

theorem taken_baseline_published_twice :
    ∃ place epochPlace published epoch,
      place ∉ (handoffRun twoHandoffs).returned ∧
        PublishedAt twoHandoffs (minuteWindow 1 300000000) published epoch place epochPlace := by
  have taken : ((handoffRun twoHandoffs).handoff.take (some steadyScope) 60 700 420000000).1 =
      some (minuteWindow 1 300000000) := by decide +kernel
  obtain ⟨place, epochPlace, published, epoch, -, fresh, publishedAt, -⟩ :=
    taken_baseline_published twoHandoffs (some steadyScope) 60 700 420000000 _ taken
  exact ⟨place, epochPlace, published, epoch, fresh, publishedAt⟩

end NetOpsBench
