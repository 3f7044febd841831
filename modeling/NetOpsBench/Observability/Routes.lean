import NetOpsBench.Lib.Dict
import NetOpsBench.Lib.Sorting
import NetOpsBench.Lib.Text

/-!
# FibEntry recovery

`next_hops` and `verify_route_recovery` of `netopsbench/platform/observability/routes.py`. The
check folds the entries of a FIB into a dictionary by destination, in which the last entry of a
destination stands for all of them. `verified_iff` says what it therefore accepts, and
`verify_exact_iff` when that is what a recovery is.
-/

namespace NetOpsBench

structure Hop : Type where
  gateway : Option String := none
  dev : Option String := none
  deriving DecidableEq, Repr

/-- What the check reads of an entry of a FIB; `kind` is its `type`. -/
structure FibEntry : Type where
  dst : Option String
  protocol : Option String := none
  kind : Option String := none
  gateway : Option String := none
  dev : Option String := none
  nexthops : Option (List Hop) := none
  deriving DecidableEq, Repr

/-- A field that is there and not empty. -/
def given (value : Option String) : Bool := value.isSome && decide (value ≠ some "")

/-- `next_hops` -/
def nextHops (route : FibEntry) : List Hop :=
  let hops := route.nexthops.getD []
  if hops.isEmpty then
    if given route.gateway || given route.dev then [{ gateway := route.gateway, dev := route.dev }]
    else []
  else hops

namespace FibEntry

def isBgp (route : FibEntry) : Bool := decide (route.protocol = some "bgp")

/-- A static or drop route -/
def isResidual (route : FibEntry) : Bool :=
  decide (route.protocol = some "static") || decide (route.kind = some "blackhole") ||
    decide (route.kind = some "unreachable") || decide (route.kind = some "prohibit")

/-- The next hops of two routes are one set. -/
def sameHops (first second : FibEntry) : Bool :=
  (nextHops first).all (nextHops second).contains && (nextHops second).all (nextHops first).contains

end FibEntry

/-- What a static or drop route is recognized by. -/
structure FibIdentity : Type where
  dst : Option String
  protocol : Option String
  kind : String
  hops : List (String × String)
  deriving DecidableEq, Repr

def Hop.texts (hop : Hop) : String × String := (hop.gateway.getD "", hop.dev.getD "")

def FibEntry.identity (route : FibEntry) : FibIdentity where
  dst := route.dst
  protocol := route.protocol
  kind := route.kind.getD "unicast"
  hops := Sorting.sorted
    (fun first second =>
      decide (first.1 < second.1 ∨ first.1 = second.1 ∧ first.2 ≤ second.2))
    ((nextHops route).map Hop.texts)

structure NodeSnapshot : Type where
  error : Option String := none
  fib : Option (List FibEntry) := none
  deriving DecidableEq, Repr

namespace NodeSnapshot

/-- `fib`, or no entries -/
def routes (node : NodeSnapshot) : List FibEntry := node.fib.getD []

/-- The FIB, when it has been collected without an error. -/
def collected (node : NodeSnapshot) : Option (List FibEntry) :=
  if given node.error then none else node.fib

end NodeSnapshot

structure RouteSnapshot : Type where
  nodes : Dict String NodeSnapshot

def RouteSnapshot.node (snapshot : RouteSnapshot) (device : String) : NodeSnapshot :=
  (snapshot.nodes.get device).getD {}

/-- `{r.get("dst"): r for r in routes}` -/
def byDst (routes : List FibEntry) : Dict (Option String) FibEntry :=
  routes.foldl (fun table route => table.set route.dst route) .empty

/-- The entry that stands for a destination is the BGP route that it had. -/
def restoredAs (current : Dict (Option String) FibEntry)
    (entry : Option String × FibEntry) : Bool :=
  match current.get entry.1 with
  | none => false
  | some restored => restored.isBgp && restored.sameHops entry.2

/-- The errors of a node whose FIB has been collected. -/
def fibErrors (device : String) (before fib : List FibEntry) : List String :=
  let old := byDst (before.filter FibEntry.isBgp)
  let beforeStatic := (before.filter FibEntry.isResidual).map FibEntry.identity
  ((fib.filter fun route =>
      route.isResidual && !beforeStatic.contains route.identity && (old.get route.dst).isNone).map
    fun route =>
      device ++ "/" ++ route.dst.getD "None" ++ ": unexpected residual static/drop route") ++
    (old.entries.filter fun entry => !restoredAs (byDst fib) entry).map
      fun entry => device ++ "/" ++ entry.1.getD "None" ++ ": forwarding not restored"

/-- The errors of a node. -/
def nodeErrors (device : String) (before after : NodeSnapshot) : List String :=
  match after.collected with
  | none => [device ++ ": missing recovery FIB"]
  | some fib => fibErrors device before.routes fib

/-- `verify_route_recovery` -/
def verifyRouteRecovery (baseline : Option RouteSnapshot) (recovery : RouteSnapshot) :
    List String :=
  match baseline with
  | none => []
  | some baseline =>
      baseline.nodes.entries.flatMap fun entry =>
        nodeErrors entry.1 entry.2 (recovery.node entry.1)

/-! ## What a recovery is -/

/-- A destination has at most one BGP entry. -/
def OneBgpEach (routes : List FibEntry) : Prop :=
  routes.Pairwise fun first second =>
    first.isBgp = true → second.isBgp = true → first.dst ≠ second.dst

def RouteSnapshot.OneBgp (snapshot : RouteSnapshot) : Prop :=
  ∀ device node, (device, node) ∈ snapshot.nodes.entries → OneBgpEach node.routes

/-- The destination has a BGP entry. -/
def BgpDst (routes : List FibEntry) (dst : Option String) : Prop :=
  ∃ route ∈ routes, route.isBgp = true ∧ route.dst = dst

/-- Every BGP prefix has a BGP entry with the same next hops. -/
def BgpRestored (before fib : List FibEntry) : Prop :=
  ∀ route ∈ before, route.isBgp = true →
    ∃ restored ∈ fib, restored.isBgp = true ∧ restored.dst = route.dst ∧
      restored.sameHops route = true

/-- The route was there before. -/
def Known (before : List FibEntry) (route : FibEntry) : Prop :=
  ∃ known ∈ before, known.identity = route.identity

/-- Static and drop routes were there before, where no BGP route was. -/
def OtherStaticKnown (before fib : List FibEntry) : Prop :=
  ∀ route ∈ fib, route.isResidual = true → ¬BgpDst before route.dst → Known before route

/-- Static and drop routes were there before, where a BGP route was. -/
def SharedStaticKnown (before fib : List FibEntry) : Prop :=
  ∀ route ∈ fib, route.isResidual = true → BgpDst before route.dst → Known before route

/-- The last entry of the destination of a BGP route is a BGP entry. -/
def BgpLast (before fib : List FibEntry) : Prop :=
  ∀ route ∈ before, route.isBgp = true →
    ∃ last, (fib.filter fun entry => decide (entry.dst = route.dst)).getLast? = some last ∧
      last.isBgp = true

/-- Every node of the baseline has been collected again. -/
def Collected (baseline recovery : RouteSnapshot) : Prop :=
  ∀ device before, (device, before) ∈ baseline.nodes.entries →
    ∃ fib, (recovery.node device).collected = some fib

/-- A property of the FIB of every node before, and after. -/
def AtNodes (P : List FibEntry → List FibEntry → Prop) (baseline recovery : RouteSnapshot) : Prop :=
  ∀ device before fib, (device, before) ∈ baseline.nodes.entries →
    (recovery.node device).collected = some fib → P before.routes fib

/-- Every node is collected, its BGP prefixes are restored, and it has no static or drop route that
was not there before. -/
def RoutesRecovered (baseline recovery : RouteSnapshot) : Prop :=
  ∀ device before, (device, before) ∈ baseline.nodes.entries →
    ∃ fib, (recovery.node device).collected = some fib ∧ BgpRestored before.routes fib ∧
      ∀ route ∈ fib, route.isResidual = true → Known before.routes route

/-! ## The dictionary by destination -/

theorem get_byDst (routes : List FibEntry) (dst : Option String) :
    (byDst routes).get dst = (routes.filter fun route => decide (route.dst = dst)).getLast? := by
  induction routes using List.reverseRecOn with
  | nil => rfl
  | append_singleton routes route ih =>
      have unfolded : byDst (routes ++ [route]) = (byDst routes).set route.dst route := by
        simp [byDst]
      rw [unfolded, Dict.get_set, List.filter_append, ih]
      by_cases same : dst = route.dst
      · rw [if_pos same, List.filter_singleton, decide_eq_true same.symm]
        simp
      · rw [if_neg same, List.filter_singleton, decide_eq_false (Ne.symm same)]
        simp

theorem eq_of_oneBgp {routes : List FibEntry} (one : OneBgpEach routes) {first second : FibEntry}
    (isFirst : first ∈ routes) (isSecond : second ∈ routes) (firstBgp : first.isBgp = true)
    (secondBgp : second.isBgp = true) (same : first.dst = second.dst) : first = second := by
  induction one with
  | nil => cases isFirst
  | cons apart _ ih =>
      rcases List.mem_cons.mp isFirst with rfl | laterFirst
      · rcases List.mem_cons.mp isSecond with rfl | laterSecond
        · rfl
        · exact absurd same (apart second laterSecond firstBgp secondBgp)
      · rcases List.mem_cons.mp isSecond with rfl | laterSecond
        · exact absurd same.symm (apart first laterFirst secondBgp firstBgp)
        · exact ih laterFirst laterSecond

/-- An entry that stands for its destination is one of those of the destination. -/
theorem mem_of_get_byDst {routes : List FibEntry} {dst : Option String} {route : FibEntry}
    (found : (byDst routes).get dst = some route) : route ∈ routes ∧ route.dst = dst := by
  rw [get_byDst] at found
  have mem := List.mem_filter.mp (List.mem_of_getLast? found)
  exact ⟨mem.1, of_decide_eq_true mem.2⟩

theorem isSome_get_byDst {routes : List FibEntry} {dst : Option String} {route : FibEntry}
    (mem : route ∈ routes) (same : route.dst = dst) : ((byDst routes).get dst).isSome = true := by
  rw [get_byDst, List.getLast?_isSome]
  exact List.ne_nil_of_mem (List.mem_filter.mpr ⟨mem, decide_eq_true same⟩)

/-- A destination is in the dictionary of the BGP routes when it has one. -/
theorem get_bgp_isNone {before : List FibEntry} {dst : Option String} :
    ((byDst (before.filter FibEntry.isBgp)).get dst).isNone = true ↔ ¬BgpDst before dst := by
  constructor
  · intro absent found
    obtain ⟨route, mem, isBgp, same⟩ := found
    have present := isSome_get_byDst (List.mem_filter.mpr ⟨mem, isBgp⟩) same
    rw [Option.isNone_iff_eq_none] at absent
    rw [absent] at present
    cases present
  · intro absent
    rcases found : (byDst (before.filter FibEntry.isBgp)).get dst with _ | route
    · rfl
    · obtain ⟨mem, same⟩ := mem_of_get_byDst found
      have inside := List.mem_filter.mp mem
      exact absurd ⟨route, inside.1, inside.2, same⟩ absent

/-- With one BGP route for each destination, the dictionary holds exactly the BGP routes. -/
theorem mem_bgp_entries {before : List FibEntry} (one : OneBgpEach before) {dst : Option String}
    {route : FibEntry} :
    (dst, route) ∈ (byDst (before.filter FibEntry.isBgp)).entries ↔
      route ∈ before ∧ route.isBgp = true ∧ route.dst = dst := by
  rw [Dict.mem_entries]
  constructor
  · intro found
    obtain ⟨mem, same⟩ := mem_of_get_byDst found
    have inside := List.mem_filter.mp mem
    exact ⟨inside.1, inside.2, same⟩
  · intro found
    obtain ⟨mem, isBgp, same⟩ := found
    have present := isSome_get_byDst (List.mem_filter.mpr ⟨mem, isBgp⟩) same
    obtain ⟨other, isOther⟩ := Option.isSome_iff_exists.mp present
    obtain ⟨otherMem, otherSame⟩ := mem_of_get_byDst isOther
    have inside := List.mem_filter.mp otherMem
    rw [isOther, eq_of_oneBgp one inside.1 mem inside.2 isBgp (otherSame.trans same.symm)]

/-! ## What the check accepts -/

theorem isResidual_of_identity {first second : FibEntry} (same : first.identity = second.identity)
    (residual : second.isResidual = true) : first.isResidual = true := by
  have protocols : first.protocol = second.protocol := congrArg FibIdentity.protocol same
  have kinds : first.kind.getD "unicast" = second.kind.getD "unicast" :=
    congrArg FibIdentity.kind same
  have drops : ∀ drop, drop ≠ "unicast" → second.kind = some drop → first.kind = some drop := by
    intro drop special isDrop
    rw [isDrop, Option.getD_some] at kinds
    rcases isKind : first.kind with _ | kind
    · rw [isKind] at kinds
      exact absurd kinds.symm special
    · rw [isKind, Option.getD_some] at kinds
      rw [kinds]
  simp only [FibEntry.isResidual, Bool.or_eq_true, decide_eq_true_eq] at residual ⊢
  rw [protocols]
  rcases residual with ((isStatic | blackhole) | unreachable) | prohibit
  · exact .inl (.inl (.inl isStatic))
  · exact .inl (.inl (.inr (drops "blackhole" (by decide +kernel) blackhole)))
  · exact .inl (.inr (drops "unreachable" (by decide +kernel) unreachable))
  · exact .inr (drops "prohibit" (by decide +kernel) prohibit)

theorem contains_identity {before : List FibEntry} {route : FibEntry}
    (residual : route.isResidual = true) :
    ((before.filter FibEntry.isResidual).map FibEntry.identity).contains route.identity = true ↔
      Known before route := by
  rw [List.contains_iff_mem, List.mem_map]
  constructor
  · intro found
    obtain ⟨known, mem, same⟩ := found
    exact ⟨known, (List.mem_filter.mp mem).1, same⟩
  · intro found
    obtain ⟨known, mem, same⟩ := found
    exact ⟨known, List.mem_filter.mpr ⟨mem, isResidual_of_identity same residual⟩, same⟩

/-- The entry that stands for a destination is restored. -/
theorem restoredAs_eq_true {fib : List FibEntry} {dst : Option String} {route : FibEntry} :
    restoredAs (byDst fib) (dst, route) = true ↔
      ∃ last, (fib.filter fun entry => decide (entry.dst = dst)).getLast? = some last ∧
        last.isBgp = true ∧ last.sameHops route = true := by
  unfold restoredAs
  dsimp only
  rw [get_byDst]
  split
  · rename_i absent
    simp [absent]
  · rename_i last isLast
    rw [Bool.and_eq_true]
    constructor
    · exact fun fine => ⟨last, isLast, fine⟩
    · intro found
      obtain ⟨other, isOther, fine⟩ := found
      cases isLast.symm.trans isOther
      exact fine

theorem residual_errors_nil (before fib : List FibEntry) :
    (fib.filter fun route =>
        route.isResidual &&
          !((before.filter FibEntry.isResidual).map FibEntry.identity).contains route.identity &&
          ((byDst (before.filter FibEntry.isBgp)).get route.dst).isNone) = [] ↔
      OtherStaticKnown before fib := by
  rw [List.filter_eq_nil_iff]
  unfold OtherStaticKnown
  apply forall₂_congr
  intro route _
  rw [Bool.and_eq_true, Bool.and_eq_true, get_bgp_isNone, Bool.not_eq_true']
  constructor
  · intro noError residual apart
    by_contra unknown
    rw [← contains_identity residual, Bool.not_eq_true] at unknown
    exact noError ⟨⟨residual, unknown⟩, apart⟩
  · intro known error
    obtain ⟨⟨residual, unknown⟩, apart⟩ := error
    rw [(contains_identity residual).mpr (known residual apart)] at unknown
    cases unknown

theorem forwarding_errors_nil {before fib : List FibEntry} (oneBefore : OneBgpEach before)
    (oneFib : OneBgpEach fib) :
    ((byDst (before.filter FibEntry.isBgp)).entries.filter fun entry =>
        !restoredAs (byDst fib) entry) = [] ↔
      BgpRestored before fib ∧ BgpLast before fib := by
  rw [List.filter_eq_nil_iff]
  constructor
  · intro noError
    have restored : ∀ route ∈ before, route.isBgp = true →
        ∃ last, (fib.filter fun entry => decide (entry.dst = route.dst)).getLast? = some last ∧
          last.isBgp = true ∧ last.sameHops route = true := by
      intro route mem isBgp
      have fine := noError (route.dst, route) ((mem_bgp_entries oneBefore).mpr ⟨mem, isBgp, rfl⟩)
      rw [Bool.not_eq_true', Bool.not_eq_false] at fine
      exact restoredAs_eq_true.mp fine
    constructor
    · intro route mem isBgp
      obtain ⟨last, isLast, lastBgp, sameHops⟩ := restored route mem isBgp
      have inside := List.mem_filter.mp (List.mem_of_getLast? isLast)
      exact ⟨last, inside.1, lastBgp, of_decide_eq_true inside.2, sameHops⟩
    · intro route mem isBgp
      obtain ⟨last, isLast, lastBgp, -⟩ := restored route mem isBgp
      exact ⟨last, isLast, lastBgp⟩
  · intro fine entry mem
    obtain ⟨restored, lasts⟩ := fine
    obtain ⟨dst, route⟩ := entry
    obtain ⟨isRoute, isBgp, rfl⟩ := (mem_bgp_entries oneBefore).mp mem
    obtain ⟨last, isLast, lastBgp⟩ := lasts route isRoute isBgp
    obtain ⟨other, otherMem, otherBgp, otherDst, sameHops⟩ := restored route isRoute isBgp
    have inside := List.mem_filter.mp (List.mem_of_getLast? isLast)
    have same := eq_of_oneBgp oneFib inside.1 otherMem lastBgp otherBgp
      ((of_decide_eq_true inside.2).trans otherDst.symm)
    rw [Bool.not_eq_true', Bool.not_eq_false]
    exact restoredAs_eq_true.mpr ⟨last, isLast, lastBgp, same ▸ sameHops⟩

theorem fibErrors_eq_nil (device : String) {before fib : List FibEntry}
    (oneBefore : OneBgpEach before) (oneFib : OneBgpEach fib) :
    fibErrors device before fib = [] ↔
      OtherStaticKnown before fib ∧ BgpRestored before fib ∧ BgpLast before fib := by
  unfold fibErrors
  dsimp only
  rw [List.append_eq_nil_iff, List.map_eq_nil_iff, List.map_eq_nil_iff, residual_errors_nil,
    forwarding_errors_nil oneBefore oneFib]

theorem nodeErrors_eq_nil (device : String) {before after : NodeSnapshot}
    (oneBefore : OneBgpEach before.routes) (oneAfter : OneBgpEach after.routes) :
    nodeErrors device before after = [] ↔
      ∃ fib, after.collected = some fib ∧ OtherStaticKnown before.routes fib ∧
        BgpRestored before.routes fib ∧ BgpLast before.routes fib := by
  unfold nodeErrors
  split
  · rename_i missing
    simp [missing]
  · rename_i fib isFib
    have oneFib : OneBgpEach fib := by
      unfold NodeSnapshot.collected at isFib
      split at isFib
      · cases isFib
      · unfold NodeSnapshot.routes at oneAfter
        rw [isFib] at oneAfter
        exact oneAfter
    rw [fibErrors_eq_nil device oneBefore oneFib]
    constructor
    · exact fun fine => ⟨fib, isFib, fine⟩
    · intro found
      obtain ⟨other, isOther, fine⟩ := found
      cases isFib.symm.trans isOther
      exact fine

/-- The node of a device has one BGP entry for a destination, also when it is missing. -/
theorem oneBgp_node {snapshot : RouteSnapshot} (one : snapshot.OneBgp) (device : String) :
    OneBgpEach (snapshot.node device).routes := by
  unfold RouteSnapshot.node
  rcases found : snapshot.nodes.get device with _ | node
  · exact List.Pairwise.nil
  · exact one device node (Dict.mem_entries.mpr found)

section Exact

variable {baseline recovery : RouteSnapshot}

/-- The check accepts a recovery whose static and drop routes are known where no BGP route was, and
in which every BGP route is restored and stands for its destination. -/
theorem verified_iff (oneBaseline : baseline.OneBgp) (oneRecovery : recovery.OneBgp) :
    verifyRouteRecovery (some baseline) recovery = [] ↔
      Collected baseline recovery ∧ AtNodes OtherStaticKnown baseline recovery ∧
        AtNodes BgpRestored baseline recovery ∧ AtNodes BgpLast baseline recovery := by
  have nodes : verifyRouteRecovery (some baseline) recovery = [] ↔
      ∀ device before, (device, before) ∈ baseline.nodes.entries →
        ∃ fib, (recovery.node device).collected = some fib ∧
          OtherStaticKnown before.routes fib ∧ BgpRestored before.routes fib ∧
            BgpLast before.routes fib := by
    unfold verifyRouteRecovery
    dsimp only
    rw [List.flatMap_eq_nil_iff]
    constructor
    · intro noError device before mem
      exact (nodeErrors_eq_nil device (oneBaseline device before mem)
        (oneBgp_node oneRecovery device)).mp (noError (device, before) mem)
    · intro fine entry mem
      exact (nodeErrors_eq_nil entry.1 (oneBaseline entry.1 entry.2 mem)
        (oneBgp_node oneRecovery entry.1)).mpr (fine entry.1 entry.2 mem)
  rw [nodes]
  constructor
  · intro fine
    refine ⟨?_, ?_, ?_, ?_⟩
    · intro device before mem
      obtain ⟨fib, isFib, -⟩ := fine device before mem
      exact ⟨fib, isFib⟩
    · intro device before fib mem isFib
      obtain ⟨other, isOther, known, -⟩ := fine device before mem
      cases isFib.symm.trans isOther
      exact known
    · intro device before fib mem isFib
      obtain ⟨other, isOther, -, restored, -⟩ := fine device before mem
      cases isFib.symm.trans isOther
      exact restored
    · intro device before fib mem isFib
      obtain ⟨other, isOther, -, -, last⟩ := fine device before mem
      cases isFib.symm.trans isOther
      exact last
  · intro fine device before mem
    obtain ⟨collected, known, restored, last⟩ := fine
    obtain ⟨fib, isFib⟩ := collected device before mem
    exact ⟨fib, isFib, known device before fib mem isFib, restored device before fib mem isFib,
      last device before fib mem isFib⟩

theorem recovered_iff :
    RoutesRecovered baseline recovery ↔
      Collected baseline recovery ∧ AtNodes OtherStaticKnown baseline recovery ∧
        AtNodes BgpRestored baseline recovery ∧ AtNodes SharedStaticKnown baseline recovery := by
  constructor
  · intro recovered
    refine ⟨?_, ?_, ?_, ?_⟩
    · intro device before mem
      obtain ⟨fib, isFib, -⟩ := recovered device before mem
      exact ⟨fib, isFib⟩
    · intro device before fib mem isFib route inFib residual _
      obtain ⟨other, isOther, -, known⟩ := recovered device before mem
      cases isFib.symm.trans isOther
      exact known route inFib residual
    · intro device before fib mem isFib
      obtain ⟨other, isOther, restored, -⟩ := recovered device before mem
      cases isFib.symm.trans isOther
      exact restored
    · intro device before fib mem isFib route inFib residual _
      obtain ⟨other, isOther, -, known⟩ := recovered device before mem
      cases isFib.symm.trans isOther
      exact known route inFib residual
  · intro fine device before mem
    obtain ⟨collected, other, restored, shared⟩ := fine
    obtain ⟨fib, isFib⟩ := collected device before mem
    refine ⟨fib, isFib, restored device before fib mem isFib, ?_⟩
    intro route inFib residual
    by_cases isBgpDst : BgpDst before.routes route.dst
    · exact shared device before fib mem isFib route inFib residual isBgpDst
    · exact other device before fib mem isFib route inFib residual isBgpDst

/-- The check is right about a recovery whose nodes are collected, whose BGP routes are restored and
whose other static and drop routes are known exactly when the last entries of the BGP destinations
are BGP entries just in case no static or drop route is new on one of them. It is right about all
other recoveries. -/
theorem verify_exact_iff (oneBaseline : baseline.OneBgp) (oneRecovery : recovery.OneBgp) :
    (verifyRouteRecovery (some baseline) recovery = [] ↔ RoutesRecovered baseline recovery) ↔
      (Collected baseline recovery → AtNodes OtherStaticKnown baseline recovery →
        AtNodes BgpRestored baseline recovery →
          (AtNodes BgpLast baseline recovery ↔ AtNodes SharedStaticKnown baseline recovery)) := by
  rw [verified_iff oneBaseline oneRecovery, recovered_iff]
  constructor
  · intro same collected other restored
    constructor
    · exact fun last => (same.mp ⟨collected, other, restored, last⟩).2.2.2
    · exact fun shared => (same.mpr ⟨collected, other, restored, shared⟩).2.2.2
  · intro same
    constructor
    · intro fine
      obtain ⟨collected, other, restored, last⟩ := fine
      exact ⟨collected, other, restored, (same collected other restored).mp last⟩
    · intro fine
      obtain ⟨collected, other, restored, shared⟩ := fine
      exact ⟨collected, other, restored, (same collected other restored).mpr shared⟩

end Exact

/-- A snapshot is accepted as its own recovery when the last entry of every BGP destination is a
BGP entry. -/
theorem verified_self_iff {snapshot : RouteSnapshot} (one : snapshot.OneBgp)
    (collected : Collected snapshot snapshot) :
    verifyRouteRecovery (some snapshot) snapshot = [] ↔ AtNodes BgpLast snapshot snapshot := by
  have itself : ∀ device before fib, (device, before) ∈ snapshot.nodes.entries →
      (snapshot.node device).collected = some fib → before.routes = fib := by
    intro device before fib mem isFib
    unfold RouteSnapshot.node at isFib
    rw [Dict.mem_entries.mp mem, Option.getD_some] at isFib
    unfold NodeSnapshot.collected at isFib
    split at isFib
    · cases isFib
    · unfold NodeSnapshot.routes
      rw [isFib, Option.getD_some]
  rw [verified_iff one one]
  constructor
  · exact fun fine => fine.2.2.2
  · intro last
    refine ⟨collected, ?_, ?_, last⟩
    · intro device before fib mem isFib route inFib _ _
      exact ⟨route, itself device before fib mem isFib ▸ inFib, rfl⟩
    · intro device before fib mem isFib route inFib isBgp
      refine ⟨route, itself device before fib mem isFib ▸ inFib, isBgp, rfl, ?_⟩
      simp [FibEntry.sameHops]

/-! ### One leaf -/

def leafSnapshot (fib : List FibEntry) : RouteSnapshot where
  nodes := Dict.empty.set "leaf1" { fib := some fib }

def leafBgp : FibEntry where
  dst := some "192.168.2.0/30"
  protocol := some "bgp"
  gateway := some "10.0.0.1"
  dev := some "Ethernet0"

/-- A static route to the destination of the BGP route. -/
def leafStatic : FibEntry where
  dst := some "192.168.2.0/30"
  protocol := some "static"
  gateway := some "10.0.0.9"
  dev := some "Ethernet4"

/-- A residual static route before the BGP entry of its destination is accepted, and a snapshot in
which it comes after that entry is not accepted as its own recovery. -/
theorem shared_destination_misjudged :
    (verifyRouteRecovery (some (leafSnapshot [leafBgp])) (leafSnapshot [leafStatic, leafBgp]) = [] ∧
        ¬Known [leafBgp] leafStatic) ∧
      verifyRouteRecovery (some (leafSnapshot [leafBgp, leafStatic]))
          (leafSnapshot [leafBgp, leafStatic]) =
        ["leaf1/192.168.2.0/30: forwarding not restored"] := by
  refine ⟨⟨by decide +kernel, ?_⟩, by decide +kernel⟩
  intro known
  obtain ⟨route, mem, same⟩ := known
  cases List.mem_singleton.mp mem
  have protocols : leafBgp.protocol = leafStatic.protocol := congrArg FibIdentity.protocol same
  exact absurd protocols (by decide +kernel)

theorem oneBgp_leaf {fib : List FibEntry} (one : OneBgpEach fib) : (leafSnapshot fib).OneBgp := by
  intro device node mem
  cases List.mem_singleton.mp mem
  exact one

/-- The condition does not hold of that recovery. -/
theorem verify_exact_iff_leaf :
    ¬(Collected (leafSnapshot [leafBgp]) (leafSnapshot [leafStatic, leafBgp]) →
      AtNodes OtherStaticKnown (leafSnapshot [leafBgp]) (leafSnapshot [leafStatic, leafBgp]) →
        AtNodes BgpRestored (leafSnapshot [leafBgp]) (leafSnapshot [leafStatic, leafBgp]) →
          (AtNodes BgpLast (leafSnapshot [leafBgp]) (leafSnapshot [leafStatic, leafBgp]) ↔
            AtNodes SharedStaticKnown (leafSnapshot [leafBgp])
              (leafSnapshot [leafStatic, leafBgp]))) := by
  have oneBaseline : (leafSnapshot [leafBgp]).OneBgp :=
    oneBgp_leaf (List.pairwise_singleton _ _)
  have oneRecovery : (leafSnapshot [leafStatic, leafBgp]).OneBgp := by
    apply oneBgp_leaf
    refine List.pairwise_pair.mpr ?_
    intro isBgp
    cases isBgp
  rw [← verify_exact_iff oneBaseline oneRecovery]
  intro same
  have accepted : verifyRouteRecovery (some (leafSnapshot [leafBgp]))
      (leafSnapshot [leafStatic, leafBgp]) = [] := by decide +kernel
  obtain ⟨fib, isFib, -, known⟩ :=
    same.mp accepted "leaf1" { fib := some [leafBgp] } (List.mem_singleton_self _)
  cases isFib
  obtain ⟨route, mem, identity⟩ := known leafStatic (List.mem_cons_self ..) (by decide +kernel)
  cases List.mem_singleton.mp mem
  have protocols : leafBgp.protocol = leafStatic.protocol :=
    congrArg FibIdentity.protocol identity
  exact absurd protocols (by decide +kernel)

end NetOpsBench
