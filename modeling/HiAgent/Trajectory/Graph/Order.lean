/-
  Trajectory/Graph/Order.lean --- order, levels and critical path.

  `topological_sort` and `get_parallel_groups` count the edges of `_edges` and release those
  listed under a node; `has_cycle` follows the latter.
-/
import HiAgent.Trajectory.Graph

namespace HiAgent.Trajectory

open Foundation List

namespace TrajectoryGraph

/-- A call of `add_node` or `add_edge`. -/
def Call.Builds : Call → Prop
  | .addNode _ => True
  | .addEdge _ => True
  | _ => False

/-- Whether `topological_sort` follows an edge. -/
def isForward (edge : TrajEdge) : Bool := decide (edge.edgeType ≠ .backtrack)

/-- Whether `get_parallel_groups` follows an edge. -/
def isLevel (edge : TrajEdge) : Bool := decide (IsLevelEdge edge)

/-- The two ends of the edges that pass `p`. -/
def arcs (graph : TrajectoryGraph) (p : TrajEdge → Bool) : List (String × String) :=
  (graph.edges.filter p).map fun edge => (edge.source, edge.target)

variable {graph : TrajectoryGraph} {p : TrajEdge → Bool}

/-! ## One relation -/

theorem nodup_nodeIds (graph : TrajectoryGraph) : graph.nodeIds.Nodup := graph.nodes.keysNodup

theorem linked_arcs_iff {x y : String} : Search.Linked (graph.arcs p) x y ↔
    ∃ edge ∈ graph.edges, p edge = true ∧ edge.source = x ∧ edge.target = y := by
  simp only [Search.Linked, arcs, mem_map, mem_filter, Prod.mk.injEq, and_assoc]

theorem map_snd_arcs (graph : TrajectoryGraph) (p : TrajEdge → Bool) :
    (graph.arcs p).map Prod.snd = (graph.edges.filter p).map TrajEdge.target := by
  rw [arcs, map_map]
  rfl

theorem Copies.ends_arcs (h : graph.Copies) {arc : String × String} (harc : arc ∈ graph.arcs p) :
    arc.1 ∈ graph.nodeIds ∧ arc.2 ∈ graph.nodeIds := by
  obtain ⟨edge, hedge, rfl⟩ := mem_map.mp harc
  exact h.endpoints edge (mem_filter.mp hedge).1

theorem Copies.targets_arcs (h : graph.Copies) (p : TrajEdge → Bool) (nodeId : String) :
    Search.targets (graph.arcs p) nodeId =
      ((graph.getOutgoing nodeId).filter p).map TrajEdge.target := by
  rw [h.outgoing nodeId, Search.targets, arcs, filter_map, map_map, filter_filter, filter_filter]
  refine congrArg (List.map TrajEdge.target) (filter_congr fun edge _ => ?_)
  exact Bool.and_comm _ _

theorem Copies.mem_followed_iff (h : graph.Copies) {x y : String} :
    y ∈ graph.followed true x ↔ Search.Linked (graph.arcs isForward) x y := by
  rw [← Search.mem_targets_iff, h.targets_arcs, followed]
  simp [isForward]

theorem Copies.hasCycle_iff (h : graph.Copies) : graph.hasCycle = true ↔
    ∃ x, Relation.TransGen (Search.Linked (graph.arcs isForward)) x x := by
  have hrelation : Search.Edge (graph.followed true) = Search.Linked (graph.arcs isForward) := by
    funext x y
    exact propext h.mem_followed_iff
  rw [hasCycle, Search.findsCycle_iff, hrelation]
  · intro x hx
    rw [eq_nil_iff_forall_not_mem]
    intro y hy
    exact hx (h.ends_arcs (h.mem_followed_iff.mp hy)).1
  · intro x _ y hy
    exact (h.ends_arcs (h.mem_followed_iff.mp hy)).2
  · intro x
    rw [Search.Colours.of, Dict.getD_foldl_set]
    split <;> rfl

/-! ## The counts -/

/-- `dict.fromkeys(self._nodes, 0)`, and one more for the target of each edge. -/
def inDegrees (graph : TrajectoryGraph) (p : TrajEdge → Bool) : Dict String Int :=
  (graph.edges.filter p).foldl
    (fun counts edge => counts.set edge.target (counts.getD edge.target 0 + 1))
    (graph.nodeIds.foldl (fun (counts : Dict String Int) nodeId => counts.set nodeId 0) Dict.empty)

theorem inDegrees_eq (graph : TrajectoryGraph) (p : TrajEdge → Bool) : graph.inDegrees p =
      Search.inDegrees graph.nodeIds ((graph.arcs p).map Prod.snd) := by
  rw [map_snd_arcs, Search.inDegrees, foldl_map]
  rfl

theorem Copies.keys_inDegrees (h : graph.Copies) (p : TrajEdge → Bool) :
    (graph.inDegrees p).keys = graph.nodeIds := by
  rw [inDegrees_eq, Search.keys_inDegrees graph.nodup_nodeIds fun arc harc => (h.ends_arcs harc).2]

def sources (graph : TrajectoryGraph) (p : TrajEdge → Bool) : List String :=
  sorted ((graph.inDegrees p).keys.filter fun nodeId =>
    decide ((graph.inDegrees p).getD nodeId 0 = 0))

theorem nodup_sorted (items : List String) : (sorted items).Nodup := by
  rw [sorted, (perm_insertionSort _ _).nodup_iff]
  exact items.nodup_dedup

theorem sorted_perm {items : List String} (h : items.Nodup) : (sorted items).Perm items := by
  rw [sorted, h.dedup]
  exact perm_insertionSort _ items

theorem Copies.sorting_start (h : graph.Copies) (p : TrajEdge → Bool) :
    Search.Sorting (graph.arcs p) graph.nodeIds (graph.inDegrees p) (graph.sources p) [] := by
  refine Search.sorting_start (fun nodeId => ?_) (nodup_sorted _) fun nodeId => ?_
  · rw [inDegrees_eq, Search.getD_inDegrees]
  · rw [sources, mem_sorted, mem_filter, h.keys_inDegrees, decide_eq_true_eq]

/-! ## Order -/

theorem foldl_releaseTarget (edges : List TrajEdge) (progress : Dict String Int × List String) :
    edges.foldl releaseTarget progress =
      (edges.map TrajEdge.target).foldl Search.release progress := by
  rw [foldl_map]
  rfl

/-- The targets that `topological_sort` releases when it takes a node. -/
def releasedBy (graph : TrajectoryGraph) (nodeId : String) : List String :=
  (((graph.getOutgoing nodeId).insertionSort fun edge other => edge.target ≤ other.target).filter
    isForward).map TrajEdge.target

theorem sortLoop_eq (passes : Nat) (inDegree : Dict String Int) (queue result : List String) :
    graph.sortLoop passes inDegree queue result = Search.orderLoop graph.releasedBy
      (fun items => items.insertionSort (· ≤ ·)) passes inDegree queue result := by
  induction passes generalizing inDegree queue result with
  | zero => rfl
  | succ passes ih =>
    cases queue with
    | nil => rfl
    | cons current queue =>
      rw [sortLoop, foldl_releaseTarget]
      exact ih _ _ _

theorem Copies.sortLoop_spec (h : graph.Copies) (passes : Nat) {inDegree : Dict String Int}
    {queue result : List String}
    (hsorting : Search.Sorting (graph.arcs isForward) graph.nodeIds inDegree queue result)
    (hpasses : graph.nodeIds.length ≤ passes + result.length) :
    ∃ counts, Search.Sorting (graph.arcs isForward) graph.nodeIds counts []
      (graph.sortLoop passes inDegree queue result) := by
  rw [sortLoop_eq]
  refine hsorting.orderLoop passes (fun _ harc => (h.ends_arcs harc).2) (fun nodeId => ?_)
    (fun _ _ => perm_insertionSort _ _) hpasses
  rw [h.targets_arcs]
  exact ((perm_insertionSort _ _).filter _).map _

theorem topologicalSort_eq (graph : TrajectoryGraph) : graph.topologicalSort =
      (let result := graph.sortLoop (graph.inDegrees isForward).keys.length
        (graph.inDegrees isForward) (graph.sources isForward) []
      if result.length ≠ graph.nodeIds.length then
        .error (.valueError "Graph contains a cycle (excluding backtrack edges)")
      else .ok result) := rfl

theorem Copies.topologicalSort_spec (h : graph.Copies) :
    ((¬ ∃ x, Relation.TransGen (Search.Linked (graph.arcs isForward)) x x) →
      ∃ order, graph.topologicalSort = .ok order ∧ order.Perm graph.nodeIds ∧
        Search.InOrder (graph.arcs isForward) [] order) ∧
    ((∃ x, Relation.TransGen (Search.Linked (graph.arcs isForward)) x x) → graph.topologicalSort =
        .error (.valueError "Graph contains a cycle (excluding backtrack edges)")) := by
  obtain ⟨counts, hsorted⟩ := h.sortLoop_spec (graph.inDegrees isForward).keys.length
    (h.sorting_start isForward) (by rw [h.keys_inDegrees]; simp)
  rw [topologicalSort_eq]
  set result := graph.sortLoop _ _ _ _ with hresult
  have hperm := hsorted.perm_iff graph.nodup_nodeIds fun _ harc => h.ends_arcs harc
  constructor
  · intro hnone
    have hall := hperm.mpr hnone
    exact ⟨result, if_neg (by simp [hall.length_eq]), hall, hsorted.ordered⟩
  · intro hcycle
    have hshort : result.length ≠ graph.nodeIds.length := fun heq =>
      hperm.mp (hsorted.perm_of_length heq) hcycle
    exact if_pos hshort

/-! ## Levels -/

def Leveled (graph : TrajectoryGraph) (groups : List (List String)) : Prop :=
  ∀ level group, groups[level]? = some group →
    ∀ nodeId ∈ group, Search.AtLevel (graph.arcs isLevel) level nodeId

theorem groupLoop_eq (passes : Nat) (inDegree : Dict String Int) (currentLevel : List String)
    (groups : List (List String)) : graph.groupLoop passes inDegree currentLevel groups =
      Search.levelLoop (fun nodeId =>
        ((graph.getOutgoing nodeId).filter isLevel).map TrajEdge.target)
        sorted passes inDegree currentLevel groups := by
  induction passes generalizing inDegree currentLevel groups with
  | zero => rfl
  | succ passes ih =>
    cases currentLevel with
    | nil => rfl
    | cons nodeId rest =>
      rw [groupLoop, foldl_releaseTarget, map_flatMap]
      exact ih _ _ _

theorem Copies.getParallelGroups_spec (h : graph.Copies)
    (hacyclic : ¬ ∃ x, Relation.TransGen (Search.Linked (graph.arcs isForward)) x x) :
    graph.getParallelGroups.flatten.Perm graph.nodeIds ∧ graph.Leveled graph.getParallelGroups := by
  have hlevel : ¬ ∃ x, Relation.TransGen (Search.Linked (graph.arcs isLevel)) x x := by
    rintro ⟨x, hcycle⟩
    refine hacyclic ⟨x, Relation.TransGen.mono (fun y z hedge => ?_) x x hcycle⟩
    obtain ⟨edge, hmem, hedge, hends⟩ := linked_arcs_iff.mp hedge
    refine linked_arcs_iff.mpr ⟨edge, hmem, ?_, hends⟩
    have hlevel : IsLevelEdge edge := of_decide_eq_true hedge
    rcases hlevel with hlevel | hlevel <;> simp [isForward, hlevel]
  rw [getParallelGroups]
  split
  · rename_i hnil
    rw [hnil]
    exact ⟨by simp, by simp [Leveled]⟩
  · obtain ⟨⟨counts, hsorted⟩, hleveled⟩ := Search.Sorting.levelLoop
      (graph.inDegrees isLevel).keys.length [] (h.sorting_start isLevel)
      (fun _ harc => h.ends_arcs harc) (fun nodeId => by rw [h.targets_arcs])
      (fun _ hnodup => sorted_perm hnodup) (by simp [Search.Shallow, Search.walkTo_zero])
      (by simp [Search.Leveled]) (by rw [h.keys_inDegrees]; simp)
    rw [← groupLoop_eq] at hsorted hleveled
    exact ⟨(hsorted.perm_iff graph.nodup_nodeIds fun _ harc => h.ends_arcs harc).mpr hlevel,
      hleveled⟩

/-! ## Graphs that are built -/

theorem indexed_of_builds (graphId : String) {calls : List Call}
    (hbuilds : ∀ call ∈ calls, call.Builds) : (exec step (new graphId) calls).Indexed := by
  refine exec_invariant (fun _ _ h => h.step) (indexed_new graphId)
    (along_of_forall fun call hcall graph => ?_)
  have hbuild := hbuilds call hcall
  cases call with
  | removeEdge source target => exact hbuild.elim
  | _ => trivial

/-- A graph that is built has an order exactly where `has_cycle` finds none. Then the order
holds every node once with no edge but BACKTRACK going back, and the groups hold every node
once, at the level that is the length of the longest path of SEQUENCE and BRANCH edges to it. -/
theorem order_and_levels_agree (graphId : String) (calls : List Call)
    (hbuilds : ∀ call ∈ calls, call.Builds) : let graph := exec step (new graphId) calls
    ((∃ message, graph.topologicalSort = .error (.valueError message)) ↔ graph.hasCycle = true) ∧
    (graph.hasCycle = false →
      (∃ order, graph.topologicalSort = .ok order ∧ order.Perm graph.nodeIds ∧
        ∀ edge ∈ graph.edges, edge.edgeType ≠ .backtrack →
          order.idxOf edge.source < order.idxOf edge.target) ∧
      graph.getParallelGroups.flatten.Perm graph.nodeIds ∧
      ∀ level group, graph.getParallelGroups[level]? = some group → ∀ nodeId ∈ group,
        Search.AtLevel (graph.arcs isLevel) level nodeId) := by
  intro graph
  have h : graph.Copies := (indexed_of_builds graphId hbuilds).toCopies
  obtain ⟨hsorted, hraised⟩ := h.topologicalSort_spec
  refine ⟨?_, fun hnone => ?_⟩
  · rw [h.hasCycle_iff]
    constructor
    · rintro ⟨message, herror⟩
      by_contra hnone
      obtain ⟨order, horder, -⟩ := hsorted hnone
      rw [horder] at herror
      cases herror
    · intro hcycle
      exact ⟨_, hraised hcycle⟩
  · have hacyclic : ¬ ∃ x, Relation.TransGen (Search.Linked (graph.arcs isForward)) x x := by
      rw [← h.hasCycle_iff]
      simp [hnone]
    obtain ⟨order, horder, hperm, hordered⟩ := hsorted hacyclic
    refine ⟨⟨order, horder, hperm, fun edge hedge hforward => ?_⟩,
      h.getParallelGroups_spec hacyclic⟩
    exact hordered.idxOf_lt [] (hperm.nodup_iff.mpr graph.nodup_nodeIds)
      (linked_arcs_iff.mpr ⟨edge, hedge, by simpa [isForward] using hforward, rfl, rfl⟩)
      (hperm.mem_iff.mpr (h.endpoints edge hedge).2)

/-- Two edges from a draft to its review, and one back. -/
def twiceForthAndBack : List Call :=
  [.addNode { nodeId := "review" }, .addNode { nodeId := "draft" },
    .addEdge { source := "draft", target := "review" },
    .addEdge { source := "draft", target := "review", edgeType := .conditional },
    .addEdge { source := "review", target := "draft", edgeType := .backtrack }]

theorem order_and_levels_agree_twiceForthAndBack :
    let graph := exec step (new "plan") twiceForthAndBack
    ∃ order, graph.topologicalSort = .ok order ∧ order.Perm graph.nodeIds ∧
      ∀ edge ∈ graph.edges, edge.edgeType ≠ .backtrack →
        order.idxOf edge.source < order.idxOf edge.target :=
  ((order_and_levels_agree "plan" twiceForthAndBack (by simp [twiceForthAndBack, Call.Builds])).2
    (by decide)).1

end TrajectoryGraph

namespace TrajectoryGraph

variable (graph : TrajectoryGraph)

def Follows (source target : String) : Prop :=
  ∃ edge ∈ graph.edges, edge.edgeType ≠ .backtrack ∧ edge.Links source target

/-- A path through the graph. -/
structure IsPath (path : List String) : Prop where
  nodes : ∀ nodeId ∈ path, nodeId ∈ graph.nodeIds
  chain : path.IsChain graph.Follows

def bestEdgeCost (source target : String) : Rat :=
  ((graph.forwardEdges.filter fun edge => decide (edge.Links source target)).map
    graph.edgeCost).max?.getD 0

def costOf : List String → Rat
  | source :: target :: rest => graph.bestEdgeCost source target + costOf (target :: rest)
  | _ => 0

variable {graph}

/-! ## The edges -/

theorem linked_iff_follows {x y : String} :
    Search.Linked (graph.arcs isForward) x y ↔ graph.Follows x y := by
  simp [linked_arcs_iff, Follows, isForward, TrajEdge.Links]

theorem Copies.hasCycle_iff_follows (h : graph.Copies) :
    graph.hasCycle = true ↔ ∃ x, Relation.TransGen graph.Follows x x := by
  have hrelation : graph.Follows = Search.Linked (graph.arcs isForward) := by
    funext x y
    exact propext linked_iff_follows.symm
  rw [h.hasCycle_iff, hrelation]

theorem Copies.leads_iff (h : graph.Copies) {x y : String} :
    Search.Leads graph.pricedTargets x y ↔ graph.Follows x y := by
  rw [Search.Leads, Follows, pricedTargets, h.outgoing]
  simp only [mem_map, mem_filter, decide_eq_true_eq, Prod.mk.injEq, TrajEdge.Links]
  constructor
  · rintro ⟨cost, edge, ⟨⟨hedge, hsource⟩, hforward⟩, htarget, -⟩
    exact ⟨edge, hedge, hforward, hsource, htarget⟩
  · rintro ⟨edge, hedge, hforward, hsource, htarget⟩
    exact ⟨graph.edgeCost edge, edge, ⟨⟨hedge, hsource⟩, hforward⟩, htarget, rfl⟩

theorem Copies.bestCost_eq (h : graph.Copies) (x y : String) :
    Search.bestCost graph.pricedTargets x y = graph.bestEdgeCost x y := by
  rw [Search.bestCost, bestEdgeCost, pricedTargets, h.outgoing, forwardEdges, filter_map,
    map_map, filter_filter, filter_filter, filter_filter]
  refine congrArg (fun edges : List TrajEdge => (edges.map graph.edgeCost).max?.getD 0)
    (filter_congr fun edge _ => ?_)
  rw [Bool.eq_iff_iff]
  simp only [Function.comp_apply, Bool.and_eq_true, decide_eq_true_eq]
  rw [TrajEdge.Links]
  tauto

theorem Copies.pathCost_eq (h : graph.Copies) (path : List String) :
    Search.pathCost graph.pricedTargets path = graph.costOf path := by
  induction path with
  | nil => simp [Search.pathCost, costOf]
  | cons x rest ih =>
    cases rest with
    | nil => simp [Search.pathCost, costOf]
    | cons y rest => rw [Search.pathCost, costOf, h.bestCost_eq, ih]

/-! ## The path -/

/-- `dist` and `prev` before any edge is relaxed. -/
def startLengths (graph : TrajectoryGraph) : Search.Lengths String Rat where
  dist := graph.nodeIds.foldl (fun (dist : Dict String Rat) nodeId => dist.set nodeId 0) Dict.empty
  prev := graph.nodeIds.foldl
    (fun (prev : Dict String (Option String)) nodeId => prev.set nodeId none) Dict.empty

theorem lengthOf_startLengths (graph : TrajectoryGraph) (nodeId : String) :
    graph.startLengths.lengthOf nodeId = 0 := by
  rw [Search.Lengths.lengthOf, startLengths, Dict.getD_foldl_set]
  simp [Dict.getD]

theorem reachedFrom_startLengths (graph : TrajectoryGraph) (nodeId : String) :
    graph.startLengths.reachedFrom nodeId = none := by
  rw [Search.Lengths.reachedFrom, startLengths, Dict.getD_foldl_set]
  simp [Dict.getD]

theorem relaxed_startLengths (graph : TrajectoryGraph) :
    Search.Relaxed graph.pricedTargets [] graph.startLengths where
  nonneg nodeId := by rw [lengthOf_startLengths]
  bound _ h := by simp at h
  root nodeId _ := lengthOf_startLengths graph nodeId
  link _ _ h := by simp [reachedFrom_startLengths] at h

theorem isPath_of_chain (h : graph.Copies) {front : List String} {last : String}
    (hlast : last ∈ graph.nodeIds) (hchain : (front ++ [last]).IsChain graph.Follows) :
    graph.IsPath (front ++ [last]) := by
  refine ⟨?_, hchain⟩
  induction front with
  | nil => simpa using hlast
  | cons first rest ih =>
    have hfirst : first ∈ graph.nodeIds := by
      cases rest with
      | _ =>
        obtain ⟨edge, hedge, -, hlink⟩ := (isChain_cons_cons.mp hchain).1
        exact hlink.1 ▸ (h.endpoints edge hedge).1
    intro nodeId hnode
    rcases mem_cons.mp hnode with rfl | hnode
    · exact hfirst
    · exact ih hchain.of_cons nodeId hnode

theorem getCriticalPath_of_order {order : List String}
    (horder : graph.topologicalSort = .ok order) (hne : order ≠ []) : graph.getCriticalPath =
      (let lengths := Search.Lengths.relaxAll graph.pricedTargets graph.startLengths order
      (lengths.walkBack graph.nodeIds.length
        (lengths.dist.keys.argmax lengths.lengthOf)).reverse) := by
  rw [getCriticalPath, horder]
  cases order with
  | nil => exact absurd rfl hne
  | cons first rest => rfl

theorem Copies.getCriticalPath_spec (h : graph.Copies) (hne : graph.nodeIds ≠ [])
    (hacyclic : ¬ ∃ x, Relation.TransGen graph.Follows x x) :
    graph.getCriticalPath ≠ [] ∧ graph.IsPath graph.getCriticalPath ∧
      ∀ path, graph.IsPath path → graph.costOf path ≤ graph.costOf graph.getCriticalPath := by
  obtain ⟨order, horder, hperm, hordered⟩ := h.topologicalSort_spec.1
    (by rwa [← h.hasCycle_iff, h.hasCycle_iff_follows])
  have hnodup : order.Nodup := hperm.nodup_iff.mpr graph.nodup_nodeIds
  have hlinked (x y : String) (hlead : Search.Leads graph.pricedTargets x y) :
      Search.Linked (graph.arcs isForward) x y := linked_iff_follows.mpr (h.leads_iff.mp hlead)
  have hends (x y : String) (hlead : Search.Leads graph.pricedTargets x y) :
      x ∈ order ∧ y ∈ order := by
    obtain ⟨hx, hy⟩ := h.ends_arcs (hlinked x y hlead)
    exact ⟨hperm.mem_iff.mpr hx, hperm.mem_iff.mpr hy⟩
  have hlater (x y : String) (hlead : Search.Leads graph.pricedTargets x y) :=
    Search.idxOf_lt_of_leads hlinked hordered hnodup hends hlead
  set lengths := Search.Lengths.relaxAll graph.pricedTargets graph.startLengths order with hlengths
  have hrelaxed : Search.Relaxed graph.pricedTargets order lengths :=
    Search.Relaxed.foldl hlinked hordered hnodup hends rfl graph.relaxed_startLengths
  have hkeys : lengths.dist.keys = graph.nodeIds :=
    Search.Lengths.keys_relaxAll (fun x y hlead => hperm.mem_iff.mp (hends x y hlead).2)
      (Dict.keys_foldl_set (d := Dict.empty) graph.nodup_nodeIds 0)
  have horderNe : order ≠ [] := by
    rintro rfl
    exact hne hperm.symm.eq_nil
  rw [getCriticalPath_of_order horder horderNe]
  dsimp only
  rw [← hlengths, hkeys]
  cases hlast : graph.nodeIds.argmax lengths.lengthOf with
  | none => exact absurd (argmax_eq_none.mp hlast) hne
  | some last =>
    have hmem : last ∈ graph.nodeIds := argmax_mem hlast
    have hbound : order.idxOf last < graph.nodeIds.length := by
      rw [← hperm.length_eq]
      exact idxOf_lt_length_of_mem (hperm.mem_iff.mpr hmem)
    obtain ⟨front, hback, hchain, hcost⟩ := hrelaxed.walkBack_spec hlater hbound
    rw [h.pathCost_eq] at hcost
    rw [hback]
    refine ⟨by simp, isPath_of_chain h hmem (hchain.imp fun _ _ => h.leads_iff.mp), ?_⟩
    intro path hpath
    rw [hcost]
    cases hend : path.getLast? with
    | none =>
      obtain rfl := getLast?_eq_none_iff.mp hend
      exact hrelaxed.nonneg last
    | some nodeId =>
      rw [← h.pathCost_eq]
      refine le_trans (hrelaxed.pathCost_le (fun x y hlead => (hends x y hlead).1)
        (hpath.chain.imp fun _ _ => h.leads_iff.mpr) hend) ?_
      exact le_of_mem_argmax (hpath.nodes nodeId (mem_of_getLast? hend)) hlast

/-- In a graph that is built, is not empty and has no cycle but by BACKTRACK edges, the
critical path is a path, and none costs more. -/
theorem critical_path_costs_most (graphId : String) (calls : List Call)
    (hbuilds : ∀ call ∈ calls, call.Builds) : let graph := exec step (new graphId) calls
    graph.nodeIds ≠ [] → (¬ ∃ x, Relation.TransGen graph.Follows x x) →
      graph.getCriticalPath ≠ [] ∧ graph.IsPath graph.getCriticalPath ∧
        ∀ path, graph.IsPath path → graph.costOf path ≤ graph.costOf graph.getCriticalPath := by
  intro graph hne hacyclic
  exact (indexed_of_builds graphId hbuilds).toCopies.getCriticalPath_spec hne hacyclic

/-- Two ways to a report, one of them with edges of negative weight. -/
def twoWays : List Call :=
  [.addNode { nodeId := "ask" }, .addNode { nodeId := "search", costEstimate := 3 },
    .addNode { nodeId := "report" },
    .addEdge { source := "ask", target := "search", weight := 1 / 2 },
    .addEdge { source := "ask", target := "report", weight := 2 },
    .addEdge { source := "search", target := "report", weight := -1 },
    .addEdge { source := "search", target := "report", edgeType := .branch, weight := -1 / 2 }]

theorem critical_path_costs_most_twoWays : let graph := exec step (new "plan") twoWays
    graph.IsPath graph.getCriticalPath ∧
      ∀ path, graph.IsPath path → graph.costOf path ≤ graph.costOf graph.getCriticalPath := by
  intro graph
  have hacyclic : ¬ ∃ x, Relation.TransGen graph.Follows x x := by
    have hbuilds : ∀ call ∈ twoWays, call.Builds := by simp [twoWays, Call.Builds]
    rw [← (indexed_of_builds "plan" hbuilds).toCopies.hasCycle_iff_follows]
    decide
  exact (critical_path_costs_most "plan" twoWays (by simp [twoWays, Call.Builds])
    (by decide) hacyclic).2

end TrajectoryGraph

end HiAgent.Trajectory
