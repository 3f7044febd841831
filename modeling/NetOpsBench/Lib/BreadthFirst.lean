import NetOpsBench.Lib.Dict
import Mathlib.Combinatorics.SimpleGraph.Metric

/-!
# Breadth-first search

The search from a root over lists of neighbors, with a queue and a dictionary of distances. Over
symmetric lists it finds the distances of the graph (`get_distances`), so they are symmetric too.
-/

namespace BreadthFirst

open SimpleGraph

variable {κ : Type} [DecidableEq κ] (adj : κ → List κ)

structure State (κ : Type) : Type where
  distances : Dict κ Nat
  queue : List κ

/-- A neighbor that is not known yet is put at the end of the queue. -/
def visit (distance : Nat) (state : State κ) (neighbor : κ) : State κ :=
  if neighbor ∈ state.distances.keys then state
  else ⟨state.distances.set neighbor distance, state.queue ++ [neighbor]⟩

/-- A node off the queue has its neighbors visited. -/
def expand (distances : Dict κ Nat) (node : κ) (queue : List κ) : State κ :=
  (adj node).foldl (visit ((distances.get node).getD 0 + 1)) ⟨distances, queue⟩

def search : Nat → State κ → Dict κ Nat
  | 0, state => state.distances
  | fuel + 1, state =>
      match state.queue with
      | [] => state.distances
      | node :: queue => search fuel (expand adj state.distances node queue)

/-- The distances from a root, for neighbors that are among `nodes`. -/
def distances (nodes : List κ) (root : κ) : Dict κ Nat :=
  search adj (nodes.length + 1) ⟨Dict.empty.set root 0, [root]⟩

/-! ## One node -/

/-- What visiting neighbors at a distance does: the new ones are queued. -/
structure Visited (distance : Nat) (neighbors new : List κ) (before after : State κ) : Prop where
  queue : after.queue = before.queue ++ new
  get : ∀ v, after.distances.get v = if v ∈ new then some distance else before.distances.get v
  fresh : ∀ v ∈ new, v ∈ neighbors ∧ before.distances.get v = none
  covers : ∀ v ∈ neighbors, v ∈ new ∨ ∃ n, before.distances.get v = some n
  count : after.distances.keys.length = before.distances.keys.length + new.length

theorem get_eq_none {d : Dict κ Nat} {v : κ} (absent : v ∉ d.keys) : d.get v = none := by
  cases found : d.get v with
  | none => rfl
  | some n => exact absurd (Dict.mem_keys.mpr ⟨n, found⟩) absent

theorem visit_visited (distance : Nat) (state : State κ) (neighbor : κ) :
    ∃ new, Visited distance [neighbor] new state (visit distance state neighbor) := by
  unfold visit
  split
  · rename_i known
    obtain ⟨n, found⟩ := Dict.mem_keys.mp known
    refine ⟨[], by simp, by simp, by simp, ?_, rfl⟩
    intro v mem
    rw [List.mem_singleton.mp mem]
    exact .inr ⟨n, found⟩
  · rename_i unknown
    refine ⟨[neighbor], rfl, ?_, ?_, ?_, ?_⟩
    · intro v
      rw [Dict.get_set]
      simp
    · intro v mem
      rw [List.mem_singleton.mp mem]
      exact ⟨List.mem_singleton_self _, get_eq_none unknown⟩
    · exact fun v mem => .inl mem
    · have entries : (state.distances.set neighbor distance).entries =
          state.distances.entries ++ [(neighbor, distance)] := Dict.entries_set_new unknown _
      simp [Dict.keys, entries]

theorem Visited.trans {distance : Nat} {first second new new' : List κ} {s t u : State κ}
    (one : Visited distance first new s t) (two : Visited distance second new' t u) :
    Visited distance (first ++ second) (new ++ new') s u := by
  have apart : ∀ v ∈ new', v ∉ new ∧ s.distances.get v = none := by
    intro v mem
    have unknown := (two.fresh v mem).2
    rw [one.get] at unknown
    split at unknown
    · cases unknown
    · rename_i old
      exact ⟨old, unknown⟩
  refine ⟨?_, ?_, ?_, ?_, ?_⟩
  · rw [two.queue, one.queue, List.append_assoc]
  · intro v
    rw [two.get, one.get]
    by_cases later : v ∈ new'
    · rw [if_pos later, if_pos (List.mem_append_right _ later)]
    · by_cases earlier : v ∈ new
      · rw [if_neg later, if_pos earlier, if_pos (List.mem_append_left _ earlier)]
      · rw [if_neg later, if_neg earlier, if_neg]
        simp [later, earlier]
  · intro v mem
    rcases List.mem_append.mp mem with earlier | later
    · obtain ⟨inFirst, unknown⟩ := one.fresh v earlier
      exact ⟨List.mem_append_left _ inFirst, unknown⟩
    · exact ⟨List.mem_append_right _ (two.fresh v later).1, (apart v later).2⟩
  · intro v mem
    rcases List.mem_append.mp mem with inFirst | inSecond
    · rcases one.covers v inFirst with isNew | known
      · exact .inl (List.mem_append_left _ isNew)
      · exact .inr known
    · rcases two.covers v inSecond with isNew | ⟨n, known⟩
      · exact .inl (List.mem_append_right _ isNew)
      · rw [one.get] at known
        split at known
        · rename_i isNew
          exact .inl (List.mem_append_left _ isNew)
        · exact .inr ⟨n, known⟩
  · rw [two.count, one.count, List.length_append, Nat.add_assoc]

theorem foldl_visited (distance : Nat) (neighbors : List κ) (state : State κ) :
    ∃ new, Visited distance neighbors new state (neighbors.foldl (visit distance) state) := by
  induction neighbors generalizing state with
  | nil => exact ⟨[], by simp, by simp, by simp, by simp, rfl⟩
  | cons neighbor rest ih =>
      obtain ⟨first, one⟩ := visit_visited distance state neighbor
      obtain ⟨later, two⟩ := ih (visit distance state neighbor)
      exact ⟨first ++ later, one.trans two⟩

/-! ## The whole search -/

/-- The graph of the neighbor lists. -/
abbrev graph : SimpleGraph κ := SimpleGraph.fromRel fun a b => b ∈ adj a

/-- What holds whenever a node is taken off the queue. Known distances are those of walks; along
the queue they grow, and none is more than one above its head's; and where a node has left the
queue, its neighbors are known at one more at most. -/
structure Searching (root : κ) (state : State κ) : Prop where
  start : state.distances.get root = some 0
  reached : ∀ v n, state.distances.get v = some n → ∃ p : (graph adj).Walk root v, p.length = n
  queued : ∀ q ∈ state.queue, ∃ n, state.distances.get q = some n
  ordered : state.queue.Pairwise fun a b =>
    ∀ m n, state.distances.get a = some m → state.distances.get b = some n → m ≤ n
  close : ∀ v m, state.distances.get v = some m → ∀ q ∈ state.queue, ∀ n,
    state.distances.get q = some n → m ≤ n + 1
  expanded : ∀ u m, state.distances.get u = some m → u ∉ state.queue → ∀ v ∈ adj u,
    ∃ n, state.distances.get v = some n ∧ n ≤ m + 1

theorem searching_start (root : κ) : Searching adj root ⟨Dict.empty.set root 0, [root]⟩ where
  start := (Dict.get_set ..).trans (if_pos rfl)
  reached v n found := by
    rw [Dict.get_set] at found
    split at found
    · rename_i same
      subst same
      exact ⟨.nil, Option.some.inj found⟩
    · cases found
  queued q mem := by
    rw [List.mem_singleton.mp mem]
    exact ⟨0, (Dict.get_set ..).trans (if_pos rfl)⟩
  ordered := List.pairwise_singleton _ _
  close v m found q _ n _ := by
    rw [Dict.get_set] at found
    split at found
    · have zero : 0 = m := Option.some.inj found
      omega
    · cases found
  expanded u m found away := by
    rw [Dict.get_set] at found
    split at found
    · rename_i same
      exact absurd (List.mem_singleton.mpr same) away
    · cases found

variable {adj}

theorem Searching.expand {root node : κ} {d : Dict κ Nat} {queue : List κ}
    (inv : Searching adj root ⟨d, node :: queue⟩) :
    Searching adj root (expand adj d node queue) := by
  obtain ⟨k, depth⟩ := inv.queued node List.mem_cons_self
  obtain ⟨new, visited⟩ := foldl_visited (k + 1) (adj node) ⟨d, queue⟩
  have isExpand : BreadthFirst.expand adj d node queue =
      (adj node).foldl (visit (k + 1)) ⟨d, queue⟩ := by
    rw [BreadthFirst.expand, depth]
    rfl
  rw [← isExpand] at visited
  generalize BreadthFirst.expand adj d node queue = after at visited
  have queueAfter : after.queue = queue ++ new := visited.queue
  have get : ∀ v, after.distances.get v = if v ∈ new then some (k + 1) else d.get v := visited.get
  have isNew : ∀ v ∈ new, after.distances.get v = some (k + 1) := by
    intro v mem
    rw [get, if_pos mem]
  have keeps : ∀ v n, d.get v = some n → after.distances.get v = some n := by
    intro v n known
    have old : v ∉ new := by
      intro mem
      rw [(visited.fresh v mem).2] at known
      cases known
    rw [get, if_neg old, known]
  have cases : ∀ v n, after.distances.get v = some n → v ∈ new ∧ n = k + 1 ∨ d.get v = some n := by
    intro v n found
    rw [get] at found
    split at found
    · rename_i mem
      exact .inl ⟨mem, (Option.some.inj found).symm⟩
    · exact .inr found
  have later : ∀ q ∈ queue, ∃ n, d.get q = some n ∧ k ≤ n := by
    intro q mem
    obtain ⟨n, known⟩ := inv.queued q (List.mem_cons_of_mem _ mem)
    exact ⟨n, known, (List.pairwise_cons.mp inv.ordered).1 q mem k n depth known⟩
  have below : ∀ v m, d.get v = some m → m ≤ k + 1 := fun v m known =>
    inv.close v m known node List.mem_cons_self k depth
  refine ⟨keeps root 0 inv.start, ?_, ?_, ?_, ?_, ?_⟩
  · intro v n found
    rcases cases v n found with ⟨mem, rfl⟩ | known
    · obtain ⟨isNeighbor, unknown⟩ := visited.fresh v mem
      obtain ⟨p, length⟩ := inv.reached node k depth
      have apart : node ≠ v := by
        rintro rfl
        rw [depth] at unknown
        cases unknown
      have edge : (graph adj).Adj node v :=
        (SimpleGraph.fromRel_adj _ _ _).mpr ⟨apart, .inl isNeighbor⟩
      exact ⟨p.concat edge, by rw [Walk.length_concat, length]⟩
    · exact inv.reached v n known
  · intro q mem
    rw [queueAfter] at mem
    rcases List.mem_append.mp mem with old | added
    · obtain ⟨n, known, -⟩ := later q old
      exact ⟨n, keeps q n known⟩
    · exact ⟨k + 1, isNew q added⟩
  · rw [queueAfter, List.pairwise_append]
    refine ⟨?_, ?_, ?_⟩
    · apply (List.pairwise_cons.mp inv.ordered).2.imp_of_mem
      intro a b memA memB ordered m n foundA foundB
      obtain ⟨m', knownA, -⟩ := later a memA
      obtain ⟨n', knownB, -⟩ := later b memB
      rw [keeps a m' knownA] at foundA
      rw [keeps b n' knownB] at foundB
      rw [← Option.some.inj foundA, ← Option.some.inj foundB]
      exact ordered m' n' knownA knownB
    · apply List.pairwise_of_forall_mem_list
      intro a memA b memB m n foundA foundB
      rw [isNew a memA] at foundA
      rw [isNew b memB] at foundB
      rw [← Option.some.inj foundA, ← Option.some.inj foundB]
    · intro a memA b memB m n foundA foundB
      obtain ⟨m', knownA, -⟩ := later a memA
      rw [keeps a m' knownA] at foundA
      rw [isNew b memB] at foundB
      rw [← Option.some.inj foundA, ← Option.some.inj foundB]
      exact below a m' knownA
  · intro v m found q mem n foundQ
    rw [queueAfter] at mem
    rcases List.mem_append.mp mem with old | added
    · obtain ⟨n', known, above⟩ := later q old
      rw [keeps q n' known] at foundQ
      obtain rfl := Option.some.inj foundQ
      rcases cases v m found with ⟨-, rfl⟩ | knownV
      · omega
      · exact inv.close v m knownV q (List.mem_cons_of_mem _ old) n' known
    · rw [isNew q added] at foundQ
      obtain rfl := Option.some.inj foundQ
      rcases cases v m found with ⟨-, rfl⟩ | knownV
      · omega
      · have bound := below v m knownV
        omega
  · intro u m found away v isNeighbor
    rw [queueAfter, List.mem_append, not_or] at away
    rcases cases u m found with ⟨mem, -⟩ | known
    · exact absurd mem away.2
    · by_cases same : u = node
      · subst same
        obtain rfl := Option.some.inj (depth.symm.trans known)
        rcases visited.covers v isNeighbor with mem | ⟨n, knownV⟩
        · exact ⟨k + 1, isNew v mem, le_refl _⟩
        · exact ⟨n, keeps v n knownV, below v n knownV⟩
      · have off : u ∉ node :: queue := fun mem => (List.mem_cons.mp mem).elim same away.1
        obtain ⟨n, knownV, bound⟩ := inv.expanded u m known off v isNeighbor
        exact ⟨n, keeps v n knownV, bound⟩

/-- With enough fuel the search ends with an empty queue. -/
theorem Searching.search {root : κ} {nodes : List κ} (inside : ∀ u, ∀ v ∈ adj u, v ∈ nodes) :
    ∀ {fuel : Nat} {state : State κ}, Searching adj root state →
      (∀ v ∈ state.distances.keys, v ∈ nodes) →
      state.queue.length + (nodes.length - state.distances.keys.length) ≤ fuel →
      Searching adj root ⟨BreadthFirst.search adj fuel state, []⟩ := by
  intro fuel
  induction fuel with
  | zero =>
      rintro ⟨d, queue⟩ inv _ enough
      have empty : queue = [] := by
        apply List.eq_nil_of_length_eq_zero
        change queue.length + _ ≤ 0 at enough
        omega
      subst empty
      exact inv
  | succ fuel ih =>
      rintro ⟨d, queue⟩ inv known enough
      cases queue with
      | nil => exact inv
      | cons node queue =>
          obtain ⟨new, visited⟩ := foldl_visited ((d.get node).getD 0 + 1) (adj node) ⟨d, queue⟩
          change Visited _ (adj node) new ⟨d, queue⟩
            (BreadthFirst.expand adj d node queue) at visited
          have knownAfter : ∀ v ∈ (BreadthFirst.expand adj d node queue).distances.keys,
              v ∈ nodes := by
            intro v mem
            obtain ⟨n, found⟩ := Dict.mem_keys.mp mem
            rw [visited.get] at found
            split at found
            · rename_i isNew
              exact inside node v (visited.fresh v isNew).1
            · exact known v (Dict.mem_keys.mpr ⟨n, found⟩)
          apply ih inv.expand knownAfter
          have count : (BreadthFirst.expand adj d node queue).distances.keys.length =
              d.keys.length + new.length := visited.count
          have few : (BreadthFirst.expand adj d node queue).distances.keys.length ≤ nodes.length :=
            List.Subperm.length_le
              (List.Nodup.subperm (BreadthFirst.expand adj d node queue).distances.nodup knownAfter)
          change (node :: queue).length + (nodes.length - d.keys.length) ≤ fuel + 1 at enough
          rw [List.length_cons] at enough
          rw [visited.queue, List.length_append]
          change queue.length + new.length + _ ≤ fuel
          omega

/-- At the end, a walk bounds the distance of its last node. -/
theorem Searching.le_length {root : κ} {d : Dict κ Nat} (inv : Searching adj root ⟨d, []⟩)
    (symm : ∀ u, ∀ v ∈ adj u, u ∈ adj v) {u v : κ} (p : (graph adj).Walk u v) {m : Nat}
    (known : d.get u = some m) : ∃ n, d.get v = some n ∧ n ≤ m + p.length := by
  induction p generalizing m with
  | nil => exact ⟨m, known, Nat.le_add_right ..⟩
  | @cons u w v edge p ih =>
      have isNeighbor : w ∈ adj u := by
        rcases ((SimpleGraph.fromRel_adj _ _ _).mp edge).2 with forth | back
        · exact forth
        · exact symm w u back
      obtain ⟨k, knownW, step⟩ := inv.expanded u m known List.not_mem_nil w isNeighbor
      obtain ⟨n, knownV, bound⟩ := ih knownW
      refine ⟨n, knownV, ?_⟩
      rw [Walk.length_cons]
      omega

/-- With fuel for every node, the search finds the distance of each node that can be reached, and
no others. -/
theorem get_search {nodes : List κ} (inside : ∀ u, ∀ v ∈ adj u, v ∈ nodes)
    (symm : ∀ u, ∀ v ∈ adj u, u ∈ adj v) {root v : κ} {n fuel : Nat} (isNode : root ∈ nodes)
    (enough : nodes.length ≤ fuel) :
    (search adj fuel ⟨Dict.empty.set root 0, [root]⟩).get v = some n ↔
      (graph adj).Reachable root v ∧ (graph adj).dist root v = n := by
  have start : ∀ v ∈ (Dict.empty.set root 0 : Dict κ Nat).keys, v ∈ nodes := by
    intro v mem
    obtain ⟨m, found⟩ := Dict.mem_keys.mp mem
    rw [Dict.get_set] at found
    split at found
    · rename_i same
      exact same ▸ isNode
    · cases found
  have one : (Dict.empty.set root 0 : Dict κ Nat).keys.length = 1 := rfl
  have positive : 0 < nodes.length := List.length_pos_of_mem isNode
  have inv : Searching adj root ⟨search adj fuel ⟨Dict.empty.set root 0, [root]⟩, []⟩ := by
    apply (searching_start adj root).search inside start
    change 1 + (nodes.length - (Dict.empty.set root 0 : Dict κ Nat).keys.length) ≤ _
    rw [one]
    omega
  constructor
  · intro found
    obtain ⟨p, length⟩ := inv.reached v n found
    have reachable : (graph adj).Reachable root v := ⟨p⟩
    refine ⟨reachable, Nat.le_antisymm (length ▸ SimpleGraph.dist_le p) ?_⟩
    obtain ⟨q, shortest⟩ := reachable.exists_walk_length_eq_dist
    obtain ⟨m, known, bound⟩ := inv.le_length symm q inv.start
    obtain rfl := Option.some.inj (found.symm.trans known)
    omega
  · rintro ⟨reachable, rfl⟩
    obtain ⟨q, shortest⟩ := reachable.exists_walk_length_eq_dist
    obtain ⟨m, known, bound⟩ := inv.le_length symm q inv.start
    obtain ⟨p, length⟩ := inv.reached v m known
    have least := SimpleGraph.dist_le p
    have same : (graph adj).dist root v = m := by omega
    rw [same]
    exact known

theorem get_distances {nodes : List κ} (inside : ∀ u, ∀ v ∈ adj u, v ∈ nodes)
    (symm : ∀ u, ∀ v ∈ adj u, u ∈ adj v) {root v : κ} {n : Nat} :
    (distances adj nodes root).get v = some n ↔
      (graph adj).Reachable root v ∧ (graph adj).dist root v = n :=
  get_search (fun u v mem => List.mem_cons_of_mem _ (inside u v mem)) symm List.mem_cons_self le_rfl

/-- Distances are symmetric, and known from both ends. -/
theorem get_distances_comm {nodes : List κ} (inside : ∀ u, ∀ v ∈ adj u, v ∈ nodes)
    (symm : ∀ u, ∀ v ∈ adj u, u ∈ adj v) (u v : κ) :
    (distances adj nodes u).get v = (distances adj nodes v).get u := by
  apply Option.ext
  intro n
  rw [get_distances inside symm, get_distances inside symm, SimpleGraph.reachable_comm,
    SimpleGraph.dist_comm]

/-! ## Shortest walks -/

/-- A node is on a shortest walk exactly where the distances to it and from it add up. -/
theorem dist_add_dist_iff {V : Type} {G : SimpleGraph V} {s r t : V} (there : G.Reachable s r)
    (back : G.Reachable r t) : G.dist s r + G.dist r t = G.dist s t ↔
      ∃ p : G.Walk s t, p.length = G.dist s t ∧ r ∈ p.support := by
  constructor
  · intro sum
    obtain ⟨p, shortestP⟩ := there.exists_walk_length_eq_dist
    obtain ⟨q, shortestQ⟩ := back.exists_walk_length_eq_dist
    refine ⟨p.append q, ?_, ?_⟩
    · rw [Walk.length_append, shortestP, shortestQ, sum]
    · rw [Walk.mem_support_append_iff]
      exact .inl p.end_mem_support
  · rintro ⟨p, shortest, through⟩
    classical
    obtain ⟨q, q', rfl⟩ := Walk.mem_support_iff_exists_append.mp through
    have first := SimpleGraph.dist_le q
    have second := SimpleGraph.dist_le q'
    have triangle := there.dist_triangle_left t
    rw [Walk.length_append] at shortest
    omega

/-- An edge is crossed by a shortest walk exactly where the distances around it add up. -/
theorem dist_add_one_add_dist_iff {V : Type} {G : SimpleGraph V} {s r q t : V}
    (there : G.Reachable s r) (edge : G.Adj r q) (back : G.Reachable q t) :
    G.dist s r + 1 + G.dist q t = G.dist s t ↔
      ∃ (w : G.Walk s r) (w' : G.Walk q t), (w.append (.cons edge w')).length = G.dist s t := by
  constructor
  · intro sum
    obtain ⟨w, shortest⟩ := there.exists_walk_length_eq_dist
    obtain ⟨w', shortest'⟩ := back.exists_walk_length_eq_dist
    refine ⟨w, w', ?_⟩
    rw [Walk.length_append, Walk.length_cons]
    omega
  · rintro ⟨w, w', shortest⟩
    have first := SimpleGraph.dist_le w
    have second := SimpleGraph.dist_le w'
    have triangle : G.dist s t ≤ G.dist s r + G.dist r t := there.dist_triangle_left t
    have across : G.dist r t ≤ G.dist r q + G.dist q t := edge.reachable.dist_triangle_left t
    have one : G.dist r q = 1 := SimpleGraph.dist_eq_one_iff_adj.mpr edge
    rw [Walk.length_append, Walk.length_cons] at shortest
    omega

end BreadthFirst
