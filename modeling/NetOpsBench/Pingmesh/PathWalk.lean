import NetOpsBench.Pingmesh.PlannerFrames
import NetOpsBench.Scenario.Candidates

/-!
# The predecessor walk

The coverage of a plan measures distances as candidate paths do (`measure_eq_distance`). From a
destination rack, its walk over the predecessors comes to the nodes on shortest walks from the
source rack, each once, so it counts a link for every predecessor there (`walk_witnesses`).
-/

namespace NetOpsBench

open Fallible

/-! ## The graph -/

/-- The neighbors of a node, one entry for each link of the list between two of the names. -/
def linkedTo (names : List String) (links : List Link) (node : String) : List String :=
  links.flatMap fun link =>
    let a := link.endpoints.1.device
    let b := link.endpoints.2.device
    if a ∈ names ∧ b ∈ names then
      (if a = node then [b] else []) ++ if b = node then [a] else []
    else []

theorem switchGraph_eq (t : Topology) :
    switchGraph t = linkedTo (t.switches.map Device.name) t.links := by
  funext node
  unfold switchGraph linkedTo
  dsimp only
  generalize t.switches.map Device.name = names
  induction t.links using List.reverseRecOn with
  | nil => rfl
  | append_singleton links link ih =>
      rw [List.foldl_append, List.flatMap_append, List.flatMap_singleton, ← ih, List.foldl_cons,
        List.foldl_nil]
      generalize links.foldl _ _ = graph
      split
      · by_cases first : link.endpoints.1.device = node
        · subst first
          by_cases second : link.endpoints.2.device = link.endpoints.1.device
          · simp [Function.update, second]
          · simp [Function.update, second, Ne.symm second]
        · by_cases second : link.endpoints.2.device = node
          · subst second
            simp [Function.update, first, Ne.symm first]
          · simp [Function.update, first, second, Ne.symm first, Ne.symm second]
      · rw [List.append_nil]

namespace CandidatePaths

variable {paths : CandidatePaths}

/-- A device of a manifest is a switch or a client. -/
theorem mem_switches_iff {name : String} (known : name ∈ paths.manifest.devices.map Device.name) :
    name ∈ paths.manifest.switches.map Device.name ↔ paths.isClient name = false := by
  obtain ⟨device, isDevice, rfl⟩ := List.mem_map.mp known
  have unique : ∀ other ∈ paths.manifest.devices, other.name = device.name → other = device :=
    fun other isOther same =>
      List.inj_on_of_nodup_map paths.manifest.deviceNames_nodup isOther isDevice same
  constructor
  · intro switch
    obtain ⟨other, isSwitch, same⟩ := List.mem_map.mp switch
    obtain ⟨isOther, role⟩ := List.mem_filter.mp isSwitch
    rw [unique other isOther same] at role
    apply decide_eq_false
    intro client
    obtain ⟨third, isClient, sameName⟩ := List.mem_map.mp client
    obtain ⟨isThird, clientRole⟩ := List.mem_filter.mp isClient
    rw [unique third isThird sameName] at clientRole
    exact of_decide_eq_true role (of_decide_eq_true clientRole)
  · intro noClient
    refine List.mem_map.mpr ⟨device, List.mem_filter.mpr ⟨isDevice, decide_eq_true ?_⟩, rfl⟩
    intro client
    have isClient : paths.isClient device.name = true := decide_eq_true
      (List.mem_map_of_mem (List.mem_filter.mpr ⟨isDevice, decide_eq_true client⟩))
    rw [isClient] at noClient
    cases noClient

theorem ends_known {link : Link} (isLink : link ∈ paths.manifest.links) :
    link.endpoints.1.device ∈ paths.manifest.devices.map Device.name ∧
      link.endpoints.2.device ∈ paths.manifest.devices.map Device.name := by
  have checked := forM_eq_ok.mp (paths.manifest.checks_passed.2.1 link isLink)
  have known : ∀ endpoint ∈ link.endpointList,
      endpoint.device ∈ paths.manifest.devices.map Device.name := by
    intro endpoint mem
    have passes := checked endpoint mem
    rw [reject_eq_ok, not_not] at passes
    exact passes
  exact ⟨known _ List.mem_cons_self, known _ (List.mem_cons_of_mem _ List.mem_cons_self)⟩

/-- The planner's graph is that of the candidate paths. -/
theorem switchGraph_eq_adj : switchGraph paths.manifest.toTopology = paths.adj := by
  funext node
  rw [switchGraph_eq]
  unfold linkedTo adj
  apply List.flatMap_congr
  intro link isLink
  dsimp only
  obtain ⟨firstKnown, secondKnown⟩ := ends_known isLink
  simp only [mem_switches_iff firstKnown, mem_switches_iff secondKnown]
  cases first : paths.isClient link.endpoints.1.device <;>
    cases second : paths.isClient link.endpoints.2.device <;> rfl

theorem adj_switch (u v : String) (mem : v ∈ paths.adj u) :
    v ∈ paths.manifest.switches.map Device.name := by
  obtain ⟨link, isLink, first, second, ends⟩ := mem_adj.mp mem
  obtain ⟨firstKnown, secondKnown⟩ := ends_known isLink
  rcases ends with forth | back
  · rw [← (Prod.mk.inj forth).2]
    exact (mem_switches_iff secondKnown).mpr second
  · rw [← (Prod.mk.inj back).2]
    exact (mem_switches_iff firstKnown).mpr first

/-! ## Distances -/

/-- The planner's loop over neighbors is a visit for each of them. -/
theorem visitNeighbors_eq (distance : Nat) (neighbors queue : List String) {d : Distances}
    {known : Dict String Nat} (same : ∀ v, known.get v = d v) :
    ∃ after, neighbors.foldl (BreadthFirst.visit (distance + 1)) ⟨known, queue⟩ =
        ⟨after, (visitNeighbors distance neighbors (d, queue)).2⟩ ∧
      ∀ v, after.get v = (visitNeighbors distance neighbors (d, queue)).1 v := by
  unfold visitNeighbors
  induction neighbors generalizing queue d known with
  | nil => exact ⟨known, rfl, same⟩
  | cons neighbor rest ih =>
      rw [List.foldl_cons, List.foldl_cons]
      cases found : d neighbor with
      | some n =>
          have isKnown : neighbor ∈ known.keys :=
            Dict.mem_keys.mpr ⟨n, (same neighbor).trans found⟩
          rw [BreadthFirst.visit, if_pos isKnown]
          dsimp only
          rw [found, Option.isSome_some, if_pos rfl]
          exact ih queue same
      | none =>
          have isNew : neighbor ∉ known.keys := by
            intro isKnown
            obtain ⟨n, present⟩ := Dict.mem_keys.mp isKnown
            rw [same, found] at present
            cases present
          rw [BreadthFirst.visit, if_neg isNew]
          dsimp only
          rw [found, Option.isSome_none, if_neg Bool.false_ne_true]
          apply ih
          intro v
          rw [Dict.get_set]
          by_cases here : v = neighbor
          · rw [if_pos here, here, Function.update_self]
          · rw [if_neg here, Function.update_of_ne here]
            exact same v

theorem measure_eq_search {graph : String → List String} {fuel : Nat} {d : Distances}
    {known : Dict String Nat} {queue : List String} (same : ∀ v, known.get v = d v) (v : String) :
    (BreadthFirst.search graph fuel ⟨known, queue⟩).get v = measure graph fuel d queue v := by
  induction fuel generalizing d known queue with
  | zero => exact same v
  | succ fuel ih =>
      cases queue with
      | nil => exact same v
      | cons node queue =>
          rw [measure, BreadthFirst.search]
          dsimp only
          obtain ⟨after, isAfter, sameAfter⟩ :=
            visitNeighbors_eq ((d node).getD 0) (graph node) queue same
          rw [BreadthFirst.expand, same, isAfter]
          exact ih sameAfter

/-- The distances of the planner's loop are those of the candidate paths. -/
theorem measure_eq_distance {source : String}
    (switch : source ∈ paths.manifest.switches.map Device.name) (v : String) :
    measure paths.adj paths.manifest.switches.length
      (Function.update (fun _ => none) source (some 0)) [source] v =
      (paths.distance source).get v := by
  have start : ∀ v, (Dict.empty.set source 0 : Dict String Nat).get v =
      Function.update (fun _ => none) source (some 0) v := by
    intro v
    rw [Dict.get_set, Dict.get_empty, Function.update_apply]
  rw [← measure_eq_search start]
  apply Option.ext
  intro n
  rw [get_distance]
  exact BreadthFirst.get_search adj_switch adj_symm switch (le_of_eq (List.length_map ..))

/-! ## The walk -/

section Walk

variable (paths) (source target : String) (count : Nat)

/-- How often a link is counted when the walk comes to its far end. -/
def multiplicity (d : Distances) (u v : String) : Nat :=
  if (d u).map (· + 1) = d v then (paths.adj v).count u else 0

/-- What holds whenever the walk takes a node. The nodes come to are between the racks; of those
that were taken, every predecessor was come to, and its links were counted once. -/
structure Walking (d : Distances) (before : String × String → Nat) (walk : PredecessorWalk) :
    Prop where
  start : target ∈ walk.visited
  between : ∀ v ∈ walk.visited, paths.Through source target v
  inside : ∀ v ∈ walk.visited, v ∈ paths.manifest.switches.map Device.name
  pending : ∀ v ∈ walk.pending, v ∈ walk.visited
  once : walk.pending.Nodup
  distinct : walk.visited.Nodup
  closed : ∀ v ∈ walk.visited, v ∉ walk.pending → ∀ u ∈ paths.adj v,
    (d u).map (· + 1) = d v → u ∈ walk.visited
  tally : ∀ u v, walk.witnesses (u, v) = before (u, v) +
    if v ∈ walk.visited ∧ v ∉ walk.pending then count * paths.multiplicity d u v else 0

end Walk

/-- What the loop over the predecessors of a node adds. -/
structure Pushed (d : Distances) (count : Nat) (node : String) (predecessors new : List String)
    (walk after : PredecessorWalk) : Prop where
  visited : after.visited = new ++ walk.visited
  pending : after.pending = new ++ walk.pending
  distinct : new.Nodup
  fresh : ∀ u ∈ new, u ∈ predecessors ∧ (d u).map (· + 1) = d node ∧ u ∉ walk.visited
  covers : ∀ u ∈ predecessors, (d u).map (· + 1) = d node → u ∈ after.visited
  tally : ∀ u v, after.witnesses (u, v) = walk.witnesses (u, v) +
    if v = node ∧ (d u).map (· + 1) = d node then count * predecessors.count u else 0

theorem foldl_pushed (d : Distances) (count : Nat) (node : String) (predecessors : List String)
    (walk : PredecessorWalk) :
    ∃ new, Pushed d count node predecessors new walk
      (predecessors.foldl (fun walk predecessor =>
        if (d predecessor).map (· + 1) = d node then
          let witnesses := Function.update walk.witnesses (predecessor, node)
            (walk.witnesses (predecessor, node) + count)
          if predecessor ∈ walk.visited then { walk with witnesses }
          else
            { witnesses
              visited := predecessor :: walk.visited
              pending := predecessor :: walk.pending }
        else walk) walk) := by
  induction predecessors using List.reverseRecOn with
  | nil => exact ⟨[], rfl, rfl, List.nodup_nil, by simp, by simp, by simp⟩
  | append_singleton predecessors predecessor ih =>
      obtain ⟨new, pushed⟩ := ih
      rw [List.foldl_append, List.foldl_cons, List.foldl_nil]
      generalize predecessors.foldl _ walk = after at pushed
      dsimp only
      by_cases before : (d predecessor).map (· + 1) = d node
      · rw [if_pos before]
        have counted : ∀ u v, Function.update after.witnesses (predecessor, node)
            (after.witnesses (predecessor, node) + count) (u, v) = walk.witnesses (u, v) +
              if v = node ∧ (d u).map (· + 1) = d node then
                count * (predecessors ++ [predecessor]).count u else 0 := by
          intro u v
          rw [Function.update_apply, List.count_append, List.count_singleton]
          by_cases here : (u, v) = (predecessor, node)
          · obtain ⟨rfl, rfl⟩ := Prod.mk.inj here
            rw [if_pos rfl, pushed.tally, if_pos ⟨rfl, before⟩, if_pos ⟨rfl, before⟩,
              if_pos (beq_self_eq_true _), Nat.mul_add, Nat.mul_one, Nat.add_assoc]
          · rw [if_neg here, pushed.tally]
            split
            · rename_i counts
              have apart : (predecessor == u) = false := by
                rw [beq_eq_false_iff_ne]
                rintro rfl
                exact here (Prod.ext rfl counts.1)
              rw [apart, if_neg Bool.false_ne_true, Nat.add_zero]
            · rfl
        by_cases known : predecessor ∈ after.visited
        · rw [if_pos known]
          refine ⟨new, pushed.visited, pushed.pending, pushed.distinct, ?_, ?_, counted⟩
          · intro u mem
            obtain ⟨inside, rest⟩ := pushed.fresh u mem
            exact ⟨List.mem_append_left _ inside, rest⟩
          · intro u mem isBefore
            rcases List.mem_append.mp mem with earlier | here
            · exact pushed.covers u earlier isBefore
            · rw [List.mem_singleton.mp here]
              exact known
        · rw [if_neg known]
          have unknown : predecessor ∉ new ∧ predecessor ∉ walk.visited := by
            rw [pushed.visited, List.mem_append, not_or] at known
            exact known
          refine ⟨predecessor :: new, ?_, ?_, List.nodup_cons.mpr ⟨unknown.1, pushed.distinct⟩, ?_,
            ?_, counted⟩
          · rw [pushed.visited, List.cons_append]
          · rw [pushed.pending, List.cons_append]
          · intro u mem
            rcases List.mem_cons.mp mem with rfl | later
            · exact ⟨List.mem_append_right _ (List.mem_singleton_self _), before, unknown.2⟩
            · obtain ⟨inside, rest⟩ := pushed.fresh u later
              exact ⟨List.mem_append_left _ inside, rest⟩
          · intro u mem isBefore
            rcases List.mem_append.mp mem with earlier | here
            · exact List.mem_cons_of_mem _ (pushed.covers u earlier isBefore)
            · rw [List.mem_singleton.mp here]
              exact List.mem_cons_self
      · rw [if_neg before]
        refine ⟨new, pushed.visited, pushed.pending, pushed.distinct, ?_, ?_, ?_⟩
        · intro u mem
          obtain ⟨inside, rest⟩ := pushed.fresh u mem
          exact ⟨List.mem_append_left _ inside, rest⟩
        · intro u mem isBefore
          rcases List.mem_append.mp mem with earlier | here
          · exact pushed.covers u earlier isBefore
          · rw [List.mem_singleton.mp here] at isBefore
            exact absurd isBefore before
        · intro u v
          rw [pushed.tally, List.count_append, List.count_singleton]
          split
          · rename_i counts
            have apart : (predecessor == u) = false := by
              rw [beq_eq_false_iff_ne]
              rintro rfl
              exact before counts.2
            rw [apart, if_neg Bool.false_ne_true, Nat.add_zero]
          · rfl

/-- A predecessor of a node between the racks reaches it over a link of a shortest walk. -/
theorem across_of_predecessor {source target u v : String} (through : paths.Through source target v)
    (before : ((paths.distance source).get u).map (· + 1) = (paths.distance source).get v) :
    paths.Across source target u v := by
  obtain ⟨i, j, n, there, back, whole, sum⟩ := through
  rw [there] at before
  obtain ⟨k, isBefore, next⟩ := Option.map_eq_some_iff.mp before
  exact ⟨k, j, n, isBefore, back, whole, by omega⟩

theorem edge_of_adj {u v : String} (neighbor : v ∈ paths.adj u) (apart : u ≠ v) :
    paths.fabric.Adj u v := (SimpleGraph.fromRel_adj _ _ _).mpr ⟨apart, .inl neighbor⟩

variable {source target : String} {count : Nat} {before : String × String → Nat}

/-- Taking a node keeps the invariant. -/
theorem Walking.visit {node : String} {rest : List String} {walk : PredecessorWalk}
    (inv : Walking paths source target count (paths.distance source).get before walk)
    (next : walk.pending = node :: rest) :
    Walking paths source target count (paths.distance source).get before
      (visitPredecessors paths.adj (paths.distance source).get count node
        { walk with pending := rest }) := by
  obtain ⟨new, pushed⟩ := foldl_pushed (paths.distance source).get count node
    (paths.adj node) { walk with pending := rest }
  change Pushed _ count node (paths.adj node) new { walk with pending := rest }
    (visitPredecessors paths.adj _ count node { walk with pending := rest }) at pushed
  generalize visitPredecessors paths.adj _ count node { walk with pending := rest } = after
    at pushed
  have visited : after.visited = new ++ walk.visited := pushed.visited
  have pending : after.pending = new ++ rest := pushed.pending
  have known : node ∈ walk.visited := inv.pending node (next ▸ List.mem_cons_self)
  have distinct : node ∉ rest ∧ rest.Nodup := List.nodup_cons.mp (next ▸ inv.once)
  have fresh : ∀ u ∈ new, u ∉ walk.visited := fun u mem => (pushed.fresh u mem).2.2
  have knownRest : ∀ v ∈ rest, v ∈ walk.visited := fun v mem =>
    inv.pending v (next ▸ List.mem_cons_of_mem _ mem)
  refine ⟨?_, ?_, ?_, ?_, ?_, ?_, ?_, ?_⟩
  · rw [visited]
    exact List.mem_append_right _ inv.start
  · intro v mem
    rw [visited] at mem
    rcases List.mem_append.mp mem with isNew | old
    · obtain ⟨neighbor, isBefore, unseen⟩ := pushed.fresh v isNew
      have apart : v ≠ node := by
        rintro rfl
        exact unseen known
      exact ((across_of_predecessor (inv.between node known) isBefore).through
        (edge_of_adj (adj_symm _ _ neighbor) apart)).1
    · exact inv.between v old
  · intro v mem
    rw [visited] at mem
    rcases List.mem_append.mp mem with isNew | old
    · exact adj_switch node v (pushed.fresh v isNew).1
    · exact inv.inside v old
  · intro v mem
    rw [pending] at mem
    rw [visited]
    rcases List.mem_append.mp mem with isNew | old
    · exact List.mem_append_left _ isNew
    · exact List.mem_append_right _ (knownRest v old)
  · rw [pending]
    refine List.nodup_append'.mpr ⟨pushed.distinct, distinct.2, ?_⟩
    intro v isNew old
    exact fresh v isNew (knownRest v old)
  · rw [visited]
    exact List.nodup_append'.mpr
      ⟨pushed.distinct, inv.distinct, fun v isNew old => fresh v isNew old⟩
  · intro v mem taken u neighbor isBefore
    rw [visited] at mem
    rw [pending, List.mem_append, not_or] at taken
    rcases List.mem_append.mp mem with isNew | old
    · exact absurd isNew taken.1
    · by_cases here : v = node
      · subst here
        exact pushed.covers u neighbor isBefore
      · have earlier : v ∉ walk.pending := by
          rw [next, List.mem_cons, not_or]
          exact ⟨here, taken.2⟩
        rw [visited]
        exact List.mem_append_right _ (inv.closed v old earlier u neighbor isBefore)
  · intro u v
    have tally := pushed.tally u v
    change after.witnesses (u, v) = walk.witnesses (u, v) + _ at tally
    rw [tally, inv.tally, visited, pending, next, Nat.add_assoc]
    congr 1
    by_cases here : v = node
    · subst here
      have waiting : ¬ (v ∈ walk.visited ∧ v ∉ v :: rest) := fun both => both.2 List.mem_cons_self
      have taken : v ∈ new ++ walk.visited ∧ v ∉ new ++ rest := by
        rw [List.mem_append, List.mem_append, not_or]
        exact ⟨.inr known, fun isNew => fresh v isNew known, distinct.1⟩
      rw [if_neg waiting, if_pos taken, Nat.zero_add, multiplicity]
      by_cases isBefore : ((paths.distance source).get u).map (· + 1) =
          (paths.distance source).get v
      · rw [if_pos ⟨rfl, isBefore⟩, if_pos isBefore]
      · rw [if_neg fun both => isBefore both.2, if_neg isBefore, Nat.mul_zero]
    · have skipped : ¬ (v = node ∧ ((paths.distance source).get u).map (· + 1) =
          (paths.distance source).get node) := fun both => here both.1
      rw [if_neg skipped, Nat.add_zero]
      have same : (v ∈ walk.visited ∧ v ∉ node :: rest) ↔
          v ∈ new ++ walk.visited ∧ v ∉ new ++ rest := by
        rw [List.mem_append, List.mem_append, List.mem_cons, not_or, not_or]
        constructor
        · rintro ⟨old, -, away⟩
          exact ⟨.inr old, fun isNew => fresh v isNew old, away⟩
        · rintro ⟨isNew | old, notNew, away⟩
          · exact absurd isNew notNew
          · exact ⟨old, here, away⟩
      exact if_congr same rfl rfl

/-- With fuel for every switch, the walk takes all nodes that it comes to. -/
theorem Walking.walk (fuel : Nat) {walk : PredecessorWalk}
    (inv : Walking paths source target count (paths.distance source).get before walk)
    (enough : paths.manifest.switches.length - walk.visited.length + walk.pending.length ≤ fuel) :
    Walking paths source target count (paths.distance source).get before
        (walkPredecessors paths.adj (paths.distance source).get count fuel walk) ∧
      (walkPredecessors paths.adj (paths.distance source).get count fuel
        walk).pending = [] := by
  induction fuel generalizing walk with
  | zero =>
      have empty : walk.pending = [] := List.eq_nil_of_length_eq_zero (by omega)
      exact ⟨inv, empty⟩
  | succ fuel ih =>
      rw [walkPredecessors]
      cases next : walk.pending with
      | nil => exact ⟨inv, next⟩
      | cons node rest =>
          obtain ⟨new, pushed⟩ := foldl_pushed (paths.distance source).get count node
            (paths.adj node) { walk with pending := rest }
          have visited := congrArg List.length pushed.visited
          have pending := congrArg List.length pushed.pending
          rw [List.length_append] at visited pending
          have after := inv.visit next
          have few : (visitPredecessors paths.adj (paths.distance source).get count
              node { walk with pending := rest }).visited.length ≤
              paths.manifest.switches.length := by
            rw [← List.length_map Device.name]
            exact (List.subperm_of_subset after.distinct after.inside).length_le
          apply ih after
          rw [next, List.length_cons] at enough
          change (visitPredecessors paths.adj _ count node
            { walk with pending := rest }).visited.length =
              new.length + walk.visited.length at visited
          change (visitPredecessors paths.adj _ count node
            { walk with pending := rest }).pending.length = new.length + rest.length at pending
          omega

/-- A node between the racks that is not the target has a next one on a shortest walk. -/
theorem Through.next {v : String} (through : paths.Through source target v) (apart : v ≠ target) :
    ∃ w, v ∈ paths.adj w ∧ paths.Through source target w ∧
      ((paths.distance source).get v).map (· + 1) = (paths.distance source).get w ∧
      ∃ j, (paths.distance target).get v = some (j + 1) ∧
        (paths.distance target).get w = some j := by
  obtain ⟨i, j, n, there, back, whole, sum⟩ := through
  have onward := get_distance.mp ((get_distance_comm v target).trans back)
  obtain ⟨q, shortest⟩ := onward.1.exists_walk_length_eq_dist
  cases q with
  | nil => exact absurd rfl apart
  | @cons _ w _ edge q =>
      rw [SimpleGraph.Walk.length_cons, onward.2] at shortest
      -- the walk from the source over the edge to `w` cannot be longer than its distance
      have reachV := get_distance.mp there
      have reachT := get_distance.mp whole
      have reachW : paths.fabric.Reachable source w := reachV.1.trans edge.reachable
      have upper : paths.fabric.dist source w ≤ paths.fabric.dist source v + 1 := by
        have triangle := reachV.1.dist_triangle_left w
        have one : paths.fabric.dist v w = 1 := SimpleGraph.dist_eq_one_iff_adj.mpr edge
        omega
      have rest := SimpleGraph.dist_le q
      have triangle := reachW.dist_triangle_left target
      have tight : paths.fabric.dist v target ≤ 1 + paths.fabric.dist w target := by
        have more := edge.reachable.dist_triangle_left target
        have one : paths.fabric.dist v w = 1 := SimpleGraph.dist_eq_one_iff_adj.mpr edge
        omega
      have distV := reachV.2
      have distT := reachT.2
      have distJ := onward.2
      have isW : (paths.distance source).get w = some (i + 1) :=
        get_distance.mpr ⟨reachW, by omega⟩
      have backW : (paths.distance target).get w = some q.length :=
        (get_distance_comm target w).trans (get_distance.mpr ⟨⟨q⟩, by omega⟩)
      have neighbor : v ∈ paths.adj w := by
        rcases ((SimpleGraph.fromRel_adj _ _ _).mp edge).2 with forth | opposite
        · exact adj_symm _ _ forth
        · exact opposite
      refine ⟨w, neighbor, ⟨i + 1, q.length, n, isW, backW, whole, by omega⟩, ?_, q.length, ?_,
        backW⟩
      · rw [there, isW]
        rfl
      · rw [back]
        congr 1
        omega

/-- A walk that has taken all its nodes has come to every node between the racks. -/
theorem Walking.complete {walk : PredecessorWalk}
    (inv : Walking paths source target count (paths.distance source).get before walk)
    (done : walk.pending = []) {v : String} (through : paths.Through source target v) :
    v ∈ walk.visited := by
  obtain ⟨i, j, n, there, back, whole, sum⟩ := through
  have through : paths.Through source target v := ⟨i, j, n, there, back, whole, sum⟩
  clear there whole sum
  induction j generalizing v with
  | zero =>
      have here := (get_distance.mp back)
      have same : target = v := here.1.dist_eq_zero_iff.mp here.2
      exact same ▸ inv.start
  | succ j ih =>
      have apart : v ≠ target := by
        rintro rfl
        have here := (get_distance.mp back).2
        rw [SimpleGraph.dist_self] at here
        cases here
      obtain ⟨w, neighbor, throughW, isBefore, k, isV, isW⟩ := through.next apart
      have same : j = k := by
        have both := Option.some.inj (back.symm.trans isV)
        omega
      subst same
      exact inv.closed w (ih isW throughW) (done ▸ List.not_mem_nil) v neighbor isBefore

/-- `Across`, computed. -/
def crosses (paths : CandidatePaths) (source target u v : String) : Bool :=
  match (paths.distance source).get u, (paths.distance target).get v,
    (paths.distance source).get target with
  | some i, some j, some n => i + 1 + j = n
  | _, _, _ => false

theorem crosses_iff {u v : String} :
    paths.crosses source target u v = true ↔ paths.Across source target u v := by
  unfold crosses Across
  constructor
  · intro computed
    split at computed
    · rename_i i j n there back whole
      exact ⟨i, j, n, there, back, whole, of_decide_eq_true computed⟩
    · cases computed
  · rintro ⟨i, j, n, there, back, whole, sum⟩
    rw [there, back, whole]
    exact decide_eq_true sum

/-- No shortest walk crosses a link from a node to itself. -/
theorem not_across_self {u : String} : ¬ paths.Across source target u u := by
  rintro ⟨i, j, n, there, back, whole, sum⟩
  obtain ⟨reach, rfl⟩ := get_distance.mp there
  obtain ⟨-, rfl⟩ := get_distance.mp ((get_distance_comm u target).trans back)
  obtain ⟨-, rfl⟩ := get_distance.mp whole
  have triangle := reach.dist_triangle_left target
  omega

/-- A link is on a shortest walk where its far end is, and its near end is one before that. -/
theorem across_iff_predecessor {u v : String} (edge : paths.fabric.Adj u v) :
    paths.Across source target u v ↔ paths.Through source target v ∧
      ((paths.distance source).get u).map (· + 1) = (paths.distance source).get v := by
  constructor
  · intro across
    have through := (across.through edge).2
    refine ⟨through, ?_⟩
    obtain ⟨i, j, n, there, back, whole, sum⟩ := across
    obtain ⟨i', j', n', there', back', whole', sum'⟩ := through
    obtain rfl := Option.some.inj (back.symm.trans back')
    obtain rfl := Option.some.inj (whole.symm.trans whole')
    rw [there, there', Option.map_some, Option.some.injEq]
    omega
  · rintro ⟨through, isBefore⟩
    exact across_of_predecessor through isBefore

/-- The walk from a target that can be reached counts a link once, where a shortest walk crosses
it. -/
theorem walk_witnesses (isTarget : paths.Through source target target)
    (switch : target ∈ paths.manifest.switches.map Device.name) {u v : String}
    (single : u ≠ v → (paths.adj v).count u ≤ 1) :
    (walkPredecessors paths.adj (paths.distance source).get count
        paths.manifest.switches.length ⟨before, [target], [target]⟩).witnesses (u, v) =
      before (u, v) +
        if u ∈ paths.adj v ∧ paths.crosses source target u v = true then count else 0 := by
  have start : Walking paths source target count (paths.distance source).get before
      ⟨before, [target], [target]⟩ := by
    refine ⟨List.mem_singleton_self _, ?_, ?_, fun _ mem => mem, List.nodup_singleton _,
      List.nodup_singleton _, fun _ mem away => absurd mem away, ?_⟩
    · intro w mem
      exact List.mem_singleton.mp mem ▸ isTarget
    · intro w mem
      exact List.mem_singleton.mp mem ▸ switch
    · intro w x
      rw [if_neg fun both => both.2 both.1, Nat.add_zero]
  have positive : 0 < paths.manifest.switches.length := by
    rw [← List.length_map Device.name]
    exact List.length_pos_of_mem switch
  have enough : paths.manifest.switches.length - 1 + 1 ≤ paths.manifest.switches.length := by omega
  obtain ⟨inv, done⟩ := start.walk paths.manifest.switches.length enough
  rw [inv.tally, done]
  congr 1
  by_cases counts : u ∈ paths.adj v ∧ paths.crosses source target u v = true
  · obtain ⟨neighbor, crossed⟩ := counts
    have apart : u ≠ v := by
      rintro rfl
      exact not_across_self (crosses_iff.mp crossed)
    have edge : paths.fabric.Adj u v := edge_of_adj (adj_symm _ _ neighbor) apart
    have once : (paths.adj v).count u = 1 :=
      Nat.le_antisymm (single apart) (List.count_pos_iff.mpr neighbor)
    obtain ⟨through, isBefore⟩ := (across_iff_predecessor edge).mp (crosses_iff.mp crossed)
    rw [if_pos ⟨inv.complete done through, List.not_mem_nil⟩, if_pos ⟨neighbor, crossed⟩,
      multiplicity, if_pos isBefore, once, Nat.mul_one]
  · rw [if_neg counts]
    split
    · rename_i taken
      -- a node that was taken counts its predecessors only, and they are before it
      by_cases neighbor : u ∈ paths.adj v
      · have later : ¬ ((paths.distance source).get u).map (· + 1) =
            (paths.distance source).get v := fun isBefore =>
          counts ⟨neighbor,
            crosses_iff.mpr (across_of_predecessor (inv.between v taken.1) isBefore)⟩
        rw [multiplicity, if_neg later, Nat.mul_zero]
      · rw [multiplicity, List.count_eq_zero.mpr neighbor, ite_self, Nat.mul_zero]
    · rfl

end CandidatePaths

end NetOpsBench
