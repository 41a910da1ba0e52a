/-
  Trajectory/Graph.lean --- the trajectory graph and its indexes.

  `hi_agent/trajectory/graph.py`: `TrajectoryGraph` with the calls that change it.

  `remove_edge` takes the first edge between two nodes out of `_edges` and all of them out of the
  two indexes.
-/
import HiAgent.Foundation.Machine
import HiAgent.Foundation.PyValue
import HiAgent.Foundation.Search.Colours
import HiAgent.Foundation.Search.Longest
import HiAgent.Trajectory.StageGraph
import Mathlib.Algebra.Order.Ring.Rat

namespace HiAgent.Trajectory

open Foundation

inductive NodeState where
  | pending
  | ready
  | running
  | completed
  | failed
  | skipped
  | blocked
  deriving DecidableEq

inductive EdgeType where
  | sequence
  | branch
  | conditional
  | backtrack
  deriving DecidableEq

structure TrajNode where
  nodeId : String
  nodeType : String := "task"
  state : NodeState := .pending
  payload : PyDict := []
  priority : Int := 5
  costEstimate : Rat := 0
  retryCount : Nat := 0
  maxRetries : Nat := 2
  result : PyValue := .none
  failureReason : Option String := none

/-- What `_build_graph_state` says of one node. -/
structure NodeView where
  state : NodeState
  result : PyValue
  retryCount : Nat

/-- `_build_graph_state`. -/
structure GraphState where
  nodes : List (String × NodeView)
  graphId : String

structure TrajEdge where
  source : String
  target : String
  edgeType : EdgeType := .sequence
  condition : Option (GraphState → Bool) := none
  conditionDesc : String := ""
  weight : Rat := 1
  label : String := ""

namespace TrajEdge

/-- Whether the edge goes from `source` to `target`. -/
def Links (source target : String) (edge : TrajEdge) : Prop :=
  edge.source = source ∧ edge.target = target

instance (source target : String) (edge : TrajEdge) : Decidable (edge.Links source target) :=
  inferInstanceAs (Decidable (_ ∧ _))

def Touches (nodeId : String) (edge : TrajEdge) : Prop :=
  edge.source = nodeId ∨ edge.target = nodeId

instance (nodeId : String) (edge : TrajEdge) : Decidable (edge.Touches nodeId) :=
  inferInstanceAs (Decidable (_ ∨ _))

end TrajEdge

/-- What a call of the graph raises. -/
inductive GraphError where
  | valueError (message : String)
  | keyError (message : String)

abbrev EdgeIndex := Dict String (List TrajEdge)

namespace EdgeIndex

variable (index : EdgeIndex)

/-- `index.get(node_id, [])`. -/
def edgesAt (nodeId : String) : List TrajEdge := index.getD nodeId []

/-- `index.setdefault(node_id, [])`. -/
def setdefault (nodeId : String) : EdgeIndex :=
  if (index.get? nodeId).isSome then index else index.set nodeId []

/-- `index.setdefault(node_id, []).append(edge)`. -/
def append (nodeId : String) (edge : TrajEdge) : EdgeIndex :=
  index.set nodeId (index.edgesAt nodeId ++ [edge])

/-- Each list of `nodeIds` without the edges that fail `keep`. -/
def restrict (nodeIds : List String) (keep : TrajEdge → Bool) : EdgeIndex :=
  nodeIds.foldl (fun index nodeId => index.set nodeId ((index.edgesAt nodeId).filter keep)) index

theorem edgesAt_set (nodeId other : String) (edges : List TrajEdge) :
    edgesAt (index.set nodeId edges) other =
      if other = nodeId then edges else index.edgesAt other :=
  Dict.getD_set index nodeId other edges []

theorem edgesAt_pop (nodeId other : String) : edgesAt (index.pop nodeId) other =
      if other = nodeId then [] else index.edgesAt other :=
  Dict.getD_pop index nodeId other []

@[simp] theorem edgesAt_setdefault (nodeId other : String) :
    (index.setdefault nodeId).edgesAt other = index.edgesAt other := by
  rw [setdefault]
  split
  · rfl
  · rename_i habsent
    rw [edgesAt_set]
    split
    · rename_i heq
      rw [Option.not_isSome_iff_eq_none] at habsent
      rw [heq, edgesAt, Dict.getD, habsent]
      rfl
    · rfl

theorem edgesAt_append (nodeId other : String) (edge : TrajEdge) :
    (index.append nodeId edge).edgesAt other =
      if other = nodeId then index.edgesAt nodeId ++ [edge] else index.edgesAt other :=
  index.edgesAt_set nodeId other _

theorem edgesAt_restrict (nodeIds : List String) (keep : TrajEdge → Bool) (other : String) :
    (index.restrict nodeIds keep).edgesAt other =
      if other ∈ nodeIds then (index.edgesAt other).filter keep else index.edgesAt other := by
  induction nodeIds generalizing index with
  | nil => rfl
  | cons nodeId rest ih =>
    rw [restrict, List.foldl_cons, ← restrict, ih, edgesAt_set]
    by_cases heq : other = nodeId
    · simp [heq]
    · simp [heq]

end EdgeIndex

structure TrajectoryGraph where
  graphId : String
  nodes : Table TrajNode.nodeId
  edges : List TrajEdge
  forward : EdgeIndex
  backward : EdgeIndex
  entryNodes : List String
  terminalNodes : List String

namespace TrajectoryGraph

/-- `TrajectoryGraph(graph_id)`. -/
def new (graphId : String) : TrajectoryGraph where
  graphId := graphId
  nodes := Table.empty
  edges := []
  forward := Dict.empty
  backward := Dict.empty
  entryNodes := []
  terminalNodes := []

variable (graph : TrajectoryGraph)

/-- The keys of `_nodes`. -/
def nodeIds : List String := graph.nodes.rows.map TrajNode.nodeId

def getNode (nodeId : String) : Option TrajNode := graph.nodes.lookup nodeId

def getOutgoing (nodeId : String) : List TrajEdge := graph.forward.edgesAt nodeId

def getIncoming (nodeId : String) : List TrajEdge := graph.backward.edgesAt nodeId

/-- The edges `_rebuild_entry_terminal` and `topological_sort` look at. -/
def forwardEdges : List TrajEdge :=
  graph.edges.filter fun edge => decide (edge.edgeType ≠ .backtrack)

def rebuildEntryTerminal : TrajectoryGraph :=
  let hasIncoming := graph.forwardEdges.map TrajEdge.target
  let hasOutgoing := graph.forwardEdges.map TrajEdge.source
  { graph with
    entryNodes := sorted (graph.nodeIds.filter fun nodeId => decide (nodeId ∉ hasIncoming))
    terminalNodes := sorted (graph.nodeIds.filter fun nodeId => decide (nodeId ∉ hasOutgoing)) }

def addNode (node : TrajNode) : Except GraphError TrajectoryGraph :=
  if node.nodeId ∈ graph.nodeIds then
    .error (.valueError s!"Node '{node.nodeId}' already exists")
  else
    .ok { graph with
      nodes := graph.nodes.insertOrReplace node
      forward := graph.forward.setdefault node.nodeId
      backward := graph.backward.setdefault node.nodeId }.rebuildEntryTerminal

def removeNode (nodeId : String) : Except GraphError TrajectoryGraph :=
  if nodeId ∉ graph.nodeIds then
    .error (.keyError s!"Node '{nodeId}' not found")
  else
    let nodes := graph.nodes.deleteAt nodeId fun _ => true
    let others := nodes.rows.map TrajNode.nodeId
    .ok { graph with
      nodes := nodes
      edges := graph.edges.filter fun edge => decide (¬ edge.Touches nodeId)
      forward := EdgeIndex.restrict (graph.forward.pop nodeId) others
        fun edge => decide (edge.target ≠ nodeId)
      backward := EdgeIndex.restrict (graph.backward.pop nodeId) others
        fun edge => decide (edge.source ≠ nodeId) }.rebuildEntryTerminal

def addEdge (edge : TrajEdge) : Except GraphError TrajectoryGraph :=
  if edge.source ∉ graph.nodeIds then
    .error (.valueError s!"Source node '{edge.source}' not found")
  else if edge.target ∉ graph.nodeIds then
    .error (.valueError s!"Target node '{edge.target}' not found")
  else
    .ok { graph with
      edges := graph.edges ++ [edge]
      forward := graph.forward.append edge.source edge
      backward := graph.backward.append edge.target edge }.rebuildEntryTerminal

def addSequence (source target : String) (label : String := "") :
    Except GraphError TrajectoryGraph :=
  graph.addEdge { source := source, target := target, edgeType := .sequence, label := label }

/-- `add_branch`: the graph it leaves, and what it raises. The edges added before
the one that raises stay. -/
def addBranch (source : String) :
    TrajectoryGraph → List String → TrajectoryGraph × Option GraphError
  | graph, [] => (graph, none)
  | graph, target :: targets =>
    match graph.addEdge { source := source, target := target, edgeType := .branch } with
    | .ok next => addBranch source next targets
    | .error error => (graph, some error)

def removeEdge (source target : String) : Except GraphError TrajectoryGraph :=
  match graph.edges.findIdx? fun edge => decide (edge.Links source target) with
  | none => .error (.keyError s!"Edge '{source}' -> '{target}' not found")
  | some position =>
    let others (edge : TrajEdge) : Bool := decide (¬ edge.Links source target)
    .ok { graph with
      edges := graph.edges.eraseIdx position
      forward := graph.forward.set source ((graph.forward.edgesAt source).filter others)
      backward := graph.backward.set target
        ((graph.backward.edgesAt target).filter others) }.rebuildEntryTerminal

/-- One edge of a node that `topological_sort` has taken. -/
def releaseTarget (progress : Dict String Int × List String) (edge : TrajEdge) :
    Dict String Int × List String :=
  let count := progress.1.getD edge.target 0 - 1
  (progress.1.set edge.target count, if count = 0 then progress.2 ++ [edge.target] else progress.2)

/-- The loop of `topological_sort`. A pass takes one node, and a node enters the queue
at most once, so as many passes as there are nodes empty it. -/
def sortLoop : Nat → Dict String Int → List String → List String → List String
  | 0, _, _, result => result
  | _ + 1, _, [], result => result
  | passes + 1, inDegree, current :: queue, result =>
    let outgoing := ((graph.getOutgoing current).insertionSort
      fun edge other => edge.target ≤ other.target).filter
        fun edge => decide (edge.edgeType ≠ .backtrack)
    let progress := outgoing.foldl releaseTarget (inDegree, queue)
    sortLoop passes progress.1 (progress.2.insertionSort (· ≤ ·)) (result ++ [current])

def topologicalSort : Except GraphError (List String) :=
  let zero := graph.nodeIds.foldl (fun (counts : Dict String Int) nodeId => counts.set nodeId 0)
    Dict.empty
  let inDegree := graph.forwardEdges.foldl
    (fun counts edge => counts.set edge.target (counts.getD edge.target 0 + 1)) zero
  let queue := sorted (inDegree.keys.filter fun nodeId => decide (inDegree.getD nodeId 0 = 0))
  let result := graph.sortLoop inDegree.keys.length inDegree queue []
  if result.length ≠ graph.nodeIds.length then
    .error (.valueError "Graph contains a cycle (excluding backtrack edges)")
  else .ok result

/-- The nodes `has_cycle` goes on to from a node. -/
def followed (excludeBacktrack : Bool) (nodeId : String) : List String :=
  ((graph.getOutgoing nodeId).filter fun edge =>
    decide ¬(excludeBacktrack = true ∧ edge.edgeType = .backtrack)).map TrajEdge.target

/-- `has_cycle`, without a limit on the depth of its recursion. -/
def hasCycle (excludeBacktrack : Bool := true) : Bool :=
  let color := graph.nodeIds.foldl
    (fun (color : Search.Colours String) nodeId => color.set nodeId .white) Dict.empty
  Search.findsCycle (graph.followed excludeBacktrack) graph.nodeIds.length color graph.nodeIds

/-- The edges `get_parallel_groups` looks at. -/
def IsLevelEdge (edge : TrajEdge) : Prop := edge.edgeType = .sequence ∨ edge.edgeType = .branch

instance (edge : TrajEdge) : Decidable (IsLevelEdge edge) :=
  inferInstanceAs (Decidable (_ ∨ _))

/-- The loop of `get_parallel_groups`. A pass lists the nodes of one level, and a node is
listed at most once, so as many passes as there are nodes empty it. -/
def groupLoop : Nat → Dict String Int → List String → List (List String) → List (List String)
  | 0, _, _, groups => groups
  | _ + 1, _, [], groups => groups
  | passes + 1, inDegree, nodeId :: rest, groups =>
    let currentLevel := nodeId :: rest
    let outgoing := currentLevel.flatMap fun nodeId =>
      (graph.getOutgoing nodeId).filter fun edge => decide (IsLevelEdge edge)
    let progress := outgoing.foldl releaseTarget (inDegree, [])
    groupLoop passes progress.1 (sorted progress.2) (groups ++ [currentLevel])

def getParallelGroups : List (List String) :=
  if graph.nodeIds = [] then []
  else
    let zero := graph.nodeIds.foldl (fun (counts : Dict String Int) nodeId => counts.set nodeId 0)
      Dict.empty
    let inDegree := (graph.edges.filter fun edge => decide (IsLevelEdge edge)).foldl
      (fun counts edge => counts.set edge.target (counts.getD edge.target 0 + 1)) zero
    let currentLevel :=
      sorted (inDegree.keys.filter fun nodeId => decide (inDegree.getD nodeId 0 = 0))
    graph.groupLoop inDegree.keys.length inDegree currentLevel []

/-- `max(e.weight, target_cost if target_cost > 0 else e.weight)`. -/
def edgeCost (edge : TrajEdge) : Rat :=
  let targetCost := ((graph.getNode edge.target).map TrajNode.costEstimate).getD 0
  max edge.weight (if 0 < targetCost then targetCost else edge.weight)

/-- Where the edges lead that `get_critical_path` looks at, and what they cost. -/
def pricedTargets (nodeId : String) : List (String × Rat) :=
  ((graph.getOutgoing nodeId).filter fun edge => decide (edge.edgeType ≠ .backtrack)).map
    fun edge => (edge.target, graph.edgeCost edge)

/-- `get_critical_path`; the way back from the last node visits no node twice. -/
def getCriticalPath : List String :=
  match graph.topologicalSort with
  | .error _ => []
  | .ok [] => []
  | .ok order =>
    let start : Search.Lengths String Rat := {
      dist := graph.nodeIds.foldl (fun (dist : Dict String Rat) nodeId => dist.set nodeId 0)
        Dict.empty
      prev := graph.nodeIds.foldl
        (fun (prev : Dict String (Option String)) nodeId => prev.set nodeId none) Dict.empty }
    let lengths := Search.Lengths.relaxAll graph.pricedTargets start order
    let endNode := lengths.dist.keys.argmax lengths.lengthOf
    (lengths.walkBack graph.nodeIds.length endNode).reverse

end TrajectoryGraph

open List

namespace TrajectoryGraph

/-- A call that changes the graph. -/
inductive Call where
  | addNode (node : TrajNode)
  | removeNode (nodeId : String)
  | addEdge (edge : TrajEdge)
  | addBranch (source : String) (targets : List String)
  | removeEdge (source target : String)

def orUnchanged (graph : TrajectoryGraph) :
    Except GraphError TrajectoryGraph → TrajectoryGraph × Option GraphError
  | .ok next => (next, none)
  | .error error => (graph, some error)

/-- The graph a call leaves, and what it raises. -/
def perform (graph : TrajectoryGraph) : Call → TrajectoryGraph × Option GraphError
  | .addNode node => graph.orUnchanged (graph.addNode node)
  | .removeNode nodeId => graph.orUnchanged (graph.removeNode nodeId)
  | .addEdge edge => graph.orUnchanged (graph.addEdge edge)
  | .addBranch source targets => graph.addBranch source targets
  | .removeEdge source target => graph.orUnchanged (graph.removeEdge source target)

def step (graph : TrajectoryGraph) (call : Call) : TrajectoryGraph := (graph.perform call).1

/-- The indexes say what `_edges` says. -/
structure IndexLaw (graph : TrajectoryGraph) : Prop where
  outgoing : ∀ nodeId ∈ graph.nodeIds,
    graph.getOutgoing nodeId = graph.edges.filter fun edge => decide (edge.source = nodeId)
  incoming : ∀ nodeId ∈ graph.nodeIds,
    graph.getIncoming nodeId = graph.edges.filter fun edge => decide (edge.target = nodeId)
  endpoints : ∀ edge ∈ graph.edges, edge.source ∈ graph.nodeIds ∧ edge.target ∈ graph.nodeIds
  entry : ∀ nodeId, nodeId ∈ graph.entryNodes ↔ nodeId ∈ graph.nodeIds ∧
    ∀ edge ∈ graph.edges, edge.edgeType ≠ .backtrack → edge.target ≠ nodeId
  terminal : ∀ nodeId, nodeId ∈ graph.terminalNodes ↔ nodeId ∈ graph.nodeIds ∧
    ∀ edge ∈ graph.edges, edge.edgeType ≠ .backtrack → edge.source ≠ nodeId

def RemovesNoParallel (graph : TrajectoryGraph) : Call → Prop
  | .removeEdge source target => graph.edges.countP (·.Links source target) ≤ 1
  | _ => True

/-! ## The invariant -/

/-- The three copies of the edges agree. -/
structure Copies (graph : TrajectoryGraph) : Prop where
  outgoing : ∀ nodeId,
    graph.getOutgoing nodeId = graph.edges.filter fun edge => decide (edge.source = nodeId)
  incoming : ∀ nodeId,
    graph.getIncoming nodeId = graph.edges.filter fun edge => decide (edge.target = nodeId)
  endpoints : ∀ edge ∈ graph.edges, edge.source ∈ graph.nodeIds ∧ edge.target ∈ graph.nodeIds

/-- The copies agree and the two node lists are up to date. -/
structure Indexed (graph : TrajectoryGraph) : Prop extends Copies graph where
  rebuilt : graph.rebuildEntryTerminal = graph

variable {graph next : TrajectoryGraph}

theorem Copies.rebuild (h : graph.Copies) : graph.rebuildEntryTerminal.Indexed :=
  { h with
    rebuilt := rfl }

theorem not_mem_ends_iff (ends : TrajEdge → String) (nodeId : String) :
    nodeId ∉ graph.forwardEdges.map ends ↔
      ∀ edge ∈ graph.edges, edge.edgeType ≠ .backtrack → ends edge ≠ nodeId := by
  simp only [forwardEdges, mem_map, mem_filter, decide_eq_true_eq, not_exists, not_and]
  constructor
  · intro h edge hedge hforward
    exact h edge ⟨hedge, hforward⟩
  · intro h edge hedge
    exact h edge hedge.1 hedge.2

theorem Indexed.law (h : graph.Indexed) : graph.IndexLaw where
  outgoing nodeId _ := h.outgoing nodeId
  incoming nodeId _ := h.incoming nodeId
  endpoints := h.endpoints
  entry nodeId := by
    rw [← h.rebuilt]
    simp only [rebuildEntryTerminal, mem_sorted, mem_filter, decide_eq_true_eq]
    exact and_congr Iff.rfl (not_mem_ends_iff TrajEdge.target nodeId)
  terminal nodeId := by
    rw [← h.rebuilt]
    simp only [rebuildEntryTerminal, mem_sorted, mem_filter, decide_eq_true_eq]
    exact and_congr Iff.rfl (not_mem_ends_iff TrajEdge.source nodeId)

theorem indexed_new (graphId : String) : (new graphId).Indexed where
  outgoing _ := rfl
  incoming _ := rfl
  endpoints _ hedge := absurd hedge not_mem_nil
  rebuilt := rfl

theorem filter_ends_eq_nil (ends : TrajEdge → String)
    (hends : ∀ edge ∈ graph.edges, ends edge ∈ graph.nodeIds) {nodeId : String}
    (hnode : nodeId ∉ graph.nodeIds) :
    (graph.edges.filter fun edge => decide (ends edge = nodeId)) = [] := by
  rw [filter_eq_nil_iff]
  intro edge hedge heq
  rw [decide_eq_true_eq] at heq
  exact hnode (heq ▸ hends edge hedge)

/-! ## One call -/

/-- The graph with one more node. -/
def withNode (graph : TrajectoryGraph) (node : TrajNode) : TrajectoryGraph :=
  { graph with
    nodes := graph.nodes.insertOrReplace node
    forward := graph.forward.setdefault node.nodeId
    backward := graph.backward.setdefault node.nodeId }

/-- The graph with one more edge. -/
def withEdge (graph : TrajectoryGraph) (edge : TrajEdge) : TrajectoryGraph :=
  { graph with
    edges := graph.edges ++ [edge]
    forward := graph.forward.append edge.source edge
    backward := graph.backward.append edge.target edge }

theorem rows_withNode (graph : TrajectoryGraph) {node : TrajNode}
    (hnew : node.nodeId ∉ graph.nodeIds) :
    (graph.withNode node).nodes.rows = graph.nodes.rows ++ [node] := by
  refine Table.rows_insertOrReplace (Table.lookup_eq_none_iff.mpr fun row hrow heq => ?_)
  exact hnew (heq ▸ mem_map_of_mem hrow)

theorem Copies.withNode (h : graph.Copies) {node : TrajNode} (hnew : node.nodeId ∉ graph.nodeIds) :
    (graph.withNode node).Copies := by
  have hids : (graph.withNode node).nodeIds = graph.nodeIds ++ [node.nodeId] := by
    rw [nodeIds, graph.rows_withNode hnew, map_append]
    rfl
  constructor
  · intro nodeId
    exact (EdgeIndex.edgesAt_setdefault _ _ _).trans (h.outgoing nodeId)
  · intro nodeId
    exact (EdgeIndex.edgesAt_setdefault _ _ _).trans (h.incoming nodeId)
  · intro edge hedge
    obtain ⟨hsource, htarget⟩ := h.endpoints edge hedge
    rw [hids]
    exact ⟨mem_append_left _ hsource, mem_append_left _ htarget⟩

theorem Copies.withEdge (h : graph.Copies) {edge : TrajEdge} (hsource : edge.source ∈ graph.nodeIds)
    (htarget : edge.target ∈ graph.nodeIds) : (graph.withEdge edge).Copies := by
  have happend (index : EdgeIndex) (ends : TrajEdge → String)
      (hindex : ∀ nodeId, index.edgesAt nodeId =
        graph.edges.filter fun edge => decide (ends edge = nodeId)) (nodeId : String) :
      (index.append (ends edge) edge).edgesAt nodeId =
        (graph.edges ++ [edge]).filter fun edge => decide (ends edge = nodeId) := by
    rw [EdgeIndex.edgesAt_append, filter_append, hindex, hindex]
    by_cases heq : ends edge = nodeId
    · subst heq
      simp
    · have hother : nodeId ≠ ends edge := Ne.symm heq
      simp [heq, hother]
  constructor
  · exact happend graph.forward TrajEdge.source h.outgoing
  · exact happend graph.backward TrajEdge.target h.incoming
  · intro other hother
    rcases mem_append.mp hother with hold | hnew
    · exact h.endpoints other hold
    · obtain rfl := mem_singleton.mp hnew
      exact ⟨hsource, htarget⟩

theorem Indexed.addNode (h : graph.Indexed) {node : TrajNode}
    (hcall : graph.addNode node = .ok next) : next.Indexed := by
  rw [TrajectoryGraph.addNode] at hcall
  split at hcall
  · cases hcall
  · rename_i hnew
    obtain rfl := Except.ok.inj hcall
    exact (h.toCopies.withNode hnew).rebuild

theorem Indexed.addEdge (h : graph.Indexed) {edge : TrajEdge}
    (hcall : graph.addEdge edge = .ok next) : next.Indexed := by
  rw [TrajectoryGraph.addEdge] at hcall
  split at hcall
  · cases hcall
  · rename_i hsource
    split at hcall
    · cases hcall
    · rename_i htarget
      obtain rfl := Except.ok.inj hcall
      rw [not_not] at hsource htarget
      exact (h.toCopies.withEdge hsource htarget).rebuild

theorem edgesAt_restrict_pop {index : EdgeIndex} {ends farEnd : TrajEdge → String}
    {nodeId : String} {others : List String}
    (hothers : ∀ other, other ∈ others ↔ other ∈ graph.nodeIds ∧ other ≠ nodeId)
    (htouches : ∀ edge : TrajEdge, edge.Touches nodeId ↔ ends edge = nodeId ∨ farEnd edge = nodeId)
    (hends : ∀ edge ∈ graph.edges, ends edge ∈ graph.nodeIds)
    (hindex : ∀ other, index.edgesAt other =
      graph.edges.filter fun edge => decide (ends edge = other)) (other : String) :
    EdgeIndex.edgesAt (EdgeIndex.restrict (index.pop nodeId) others
        fun edge => decide (farEnd edge ≠ nodeId)) other =
      (graph.edges.filter fun edge => decide (¬ edge.Touches nodeId)).filter
        fun edge => decide (ends edge = other) := by
  rw [EdgeIndex.edgesAt_restrict, EdgeIndex.edgesAt_pop, hindex, filter_filter]
  by_cases heq : other = nodeId
  · have hgone : other ∉ others := fun hin => ((hothers other).mp hin).2 heq
    rw [if_neg hgone, if_pos heq, eq_comm, filter_eq_nil_iff]
    intro edge _ hkept
    simp only [Bool.and_eq_true, decide_eq_true_eq, htouches, not_or] at hkept
    exact hkept.2.1 (hkept.1.trans heq)
  · rw [if_neg heq]
    by_cases hin : other ∈ graph.nodeIds
    · rw [if_pos ((hothers other).mpr ⟨hin, heq⟩), filter_filter]
      refine filter_congr fun edge _ => ?_
      by_cases hedge : ends edge = other
      · have hne : ends edge ≠ nodeId := hedge ▸ heq
        simp [htouches, hedge, heq]
      · simp [hedge]
    · have hout : other ∉ others := fun h => hin ((hothers other).mp h).1
      rw [if_neg hout, filter_ends_eq_nil ends hends hin, eq_comm, filter_eq_nil_iff]
      intro edge hedge hkept
      simp only [Bool.and_eq_true, decide_eq_true_eq] at hkept
      exact hin (hkept.1 ▸ hends edge hedge)

theorem mem_deleteNode (graph : TrajectoryGraph) (nodeId other : String) :
    other ∈ (graph.nodes.deleteAt nodeId fun _ => true).rows.map TrajNode.nodeId ↔
      other ∈ graph.nodeIds ∧ other ≠ nodeId := by
  simp only [Table.deleteAt, Table.delete, Bool.and_true, mem_map,
    mem_filter, Bool.not_eq_true', decide_eq_false_iff_not, nodeIds]
  constructor
  · rintro ⟨node, ⟨hnode, hne⟩, rfl⟩
    exact ⟨⟨node, hnode, rfl⟩, hne⟩
  · rintro ⟨⟨node, hnode, rfl⟩, hne⟩
    exact ⟨node, ⟨hnode, hne⟩, rfl⟩

theorem Indexed.removeNode (h : graph.Indexed) {nodeId : String}
    (hcall : graph.removeNode nodeId = .ok next) : next.Indexed := by
  rw [TrajectoryGraph.removeNode] at hcall
  split at hcall
  · cases hcall
  · obtain rfl := Except.ok.inj hcall
    set others := (graph.nodes.deleteAt nodeId fun _ => true).rows.map TrajNode.nodeId with hothers
    have hmem : ∀ other, other ∈ others ↔ other ∈ graph.nodeIds ∧ other ≠ nodeId :=
      graph.mem_deleteNode nodeId
    apply Copies.rebuild
    constructor
    · exact edgesAt_restrict_pop hmem (fun _ => Iff.rfl)
        (fun edge hedge => (h.endpoints edge hedge).1) h.outgoing
    · exact edgesAt_restrict_pop hmem (fun _ => or_comm)
        (fun edge hedge => (h.endpoints edge hedge).2) h.incoming
    · intro edge hedge
      rw [mem_filter, decide_eq_true_eq] at hedge
      obtain ⟨hold, hkept⟩ := hedge
      rw [TrajEdge.Touches, not_or] at hkept
      obtain ⟨hsource, htarget⟩ := h.endpoints edge hold
      exact ⟨(hmem _).mpr ⟨hsource, hkept.1⟩, (hmem _).mpr ⟨htarget, hkept.2⟩⟩

theorem Indexed.addBranch {source : String} {targets : List String} (h : graph.Indexed) :
    (graph.addBranch source targets).1.Indexed := by
  induction targets generalizing graph with
  | nil => exact h
  | cons target targets ih =>
    rw [TrajectoryGraph.addBranch]
    cases hadd : graph.addEdge { source := source, target := target, edgeType := .branch } with
    | ok next => exact ih (h.addEdge hadd)
    | error error => exact h

theorem eraseIdx_eq_filter {α : Type} {p : α → Bool} {items : List α} {position : Nat}
    (hfind : items.findIdx? p = some position) (hone : items.countP p ≤ 1) :
    items.eraseIdx position = items.filter fun item => !p item := by
  induction items generalizing position with
  | nil => cases hfind
  | cons item rest ih =>
    rw [findIdx?_cons] at hfind
    split at hfind
    · rename_i hp
      obtain rfl := Option.some.inj hfind
      rw [countP_cons_of_pos hp] at hone
      have hnone : ∀ other ∈ rest, ¬ p other = true :=
        countP_eq_zero.mp (by omega)
      rw [filter_cons_of_neg (by simp [hp]), eraseIdx_zero, tail_cons, eq_comm, filter_eq_self]
      intro other hother
      simpa using hnone other hother
    · rename_i hp
      obtain ⟨before, hbefore, rfl⟩ := Option.map_eq_some_iff.mp hfind
      rw [countP_cons_of_neg hp] at hone
      rw [eraseIdx_cons_succ, ih hbefore hone, filter_cons_of_pos (by simpa using hp)]

theorem Indexed.removeEdge (h : graph.Indexed) {source target : String}
    (hone : graph.edges.countP (·.Links source target) ≤ 1)
    (hcall : graph.removeEdge source target = .ok next) : next.Indexed := by
  rw [TrajectoryGraph.removeEdge] at hcall
  split at hcall
  · cases hcall
  · rename_i position hfind
    obtain rfl := Except.ok.inj hcall
    have herase := eraseIdx_eq_filter hfind hone
    have hremove (index : EdgeIndex) (ends : TrajEdge → String) (nodeId : String)
        (hlinks : ∀ edge : TrajEdge, edge.Links source target → ends edge = nodeId)
        (hindex : ∀ other, index.edgesAt other =
          graph.edges.filter fun edge => decide (ends edge = other)) (other : String) :
        EdgeIndex.edgesAt (index.set nodeId ((index.edgesAt nodeId).filter
            fun edge => decide (¬ edge.Links source target))) other =
          (graph.edges.eraseIdx position).filter fun edge => decide (ends edge = other) := by
      rw [EdgeIndex.edgesAt_set, hindex, hindex, herase, filter_filter, filter_filter]
      split
      · rename_i heq
        subst heq
        refine filter_congr fun edge _ => ?_
        simp [Bool.and_comm]
      · rename_i hne
        refine filter_congr fun edge _ => ?_
        by_cases hedge : ends edge = other
        · have hother : ¬ edge.Links source target := fun hlink =>
            hne (hedge.symm.trans (hlinks edge hlink))
          simp [hedge, hother]
        · simp [hedge]
    apply Copies.rebuild
    constructor
    · exact hremove graph.forward TrajEdge.source source (fun _ hlink => hlink.1) h.outgoing
    · exact hremove graph.backward TrajEdge.target target (fun _ hlink => hlink.2) h.incoming
    · intro edge hedge
      exact h.endpoints edge (mem_of_mem_eraseIdx hedge)

theorem Indexed.removeEdge_only (h : graph.Indexed) {source target : String}
    (hcall : graph.removeEdge source target = .ok next) (hlaw : next.IndexLaw) :
    graph.edges.countP (·.Links source target) ≤ 1 := by
  rw [TrajectoryGraph.removeEdge] at hcall
  split at hcall
  · cases hcall
  · rename_i position hfind
    obtain rfl := Except.ok.inj hcall
    obtain ⟨hbound, hlink, -⟩ := findIdx?_eq_some_iff_getElem.mp hfind
    have hcount := Roster.countP_advance (getElem?_eq_getElem hbound)
      (fun edge => decide (edge.Links source target)) none
    rw [countP_singleton, if_pos hlink] at hcount
    by_contra hmany
    have hleft : 0 < (graph.edges.eraseIdx position).countP
        fun edge => decide (edge.Links source target) := by
      have hnil : (none : Option TrajEdge).toList.countP
          (fun edge => decide (edge.Links source target)) = 0 := rfl
      rw [Roster.advance] at hcount
      omega
    obtain ⟨edge, hedge, hparallel⟩ := countP_pos_iff.mp hleft
    rw [decide_eq_true_eq] at hparallel
    have hsource := (h.endpoints edge (mem_of_mem_eraseIdx hedge)).1
    have hlisted : EdgeIndex.edgesAt (graph.forward.set source _) edge.source =
        (graph.edges.eraseIdx position).filter
          fun other => decide (other.source = edge.source) :=
      hlaw.outgoing edge.source hsource
    have hin : edge ∈ (graph.edges.eraseIdx position).filter
        fun other => decide (other.source = edge.source) :=
      mem_filter.mpr ⟨hedge, by simp⟩
    rw [← hlisted, EdgeIndex.edgesAt_set, if_pos hparallel.1, mem_filter] at hin
    simp [hparallel] at hin

/-! ## Runs -/

theorem Indexed.orUnchanged (h : graph.Indexed) {result : Except GraphError TrajectoryGraph}
    (hresult : ∀ next, result = .ok next → next.Indexed) :
    (graph.orUnchanged result).1.Indexed := by
  cases result with
  | ok next => exact hresult next rfl
  | error error => exact h

/-- A call that meets the condition keeps both indexes. -/
theorem Indexed.step (h : graph.Indexed) {call : Call} (hcall : graph.RemovesNoParallel call) :
    (graph.step call).Indexed := by
  cases call with
  | addNode node => exact h.orUnchanged fun _ => h.addNode
  | removeNode nodeId => exact h.orUnchanged fun _ => h.removeNode
  | addEdge edge => exact h.orUnchanged fun _ => h.addEdge
  | addBranch source targets => exact h.addBranch
  | removeEdge source target => exact h.orUnchanged fun _ => h.removeEdge hcall

theorem Indexed.removesNoParallel (h : graph.Indexed) {call : Call}
    (hlaw : (graph.step call).IndexLaw) : graph.RemovesNoParallel call := by
  cases call with
  | addNode node => trivial
  | removeNode nodeId => trivial
  | addEdge edge => trivial
  | addBranch source targets => trivial
  | removeEdge source target =>
    rw [TrajectoryGraph.step, perform] at hlaw
    cases hcall : graph.removeEdge source target with
    | ok next =>
      rw [hcall] at hlaw
      exact h.removeEdge_only hcall hlaw
    | error error =>
      have hnone : graph.edges.countP (·.Links source target) = 0 := by
        rw [TrajectoryGraph.removeEdge] at hcall
        split at hcall
        · rename_i hfind
          rw [findIdx?_eq_none_iff] at hfind
          rw [countP_eq_zero]
          intro edge hedge
          simp [hfind edge hedge]
        · cases hcall
      rw [RemovesNoParallel, hnone]
      exact Nat.zero_le 1

/-- The indexes of a graph agree with its edges in every state a run reaches exactly
when no call of the run removes an edge that has a parallel one. -/
theorem indexLaw_iff_removesNoParallel (graphId : String) (calls : List Call) :
    Always step IndexLaw (new graphId) calls ↔
      Along step RemovesNoParallel (new graphId) calls := by
  have hinit : Indexed (new graphId) := indexed_new graphId
  refine always_iff_along ?_ ?_ ?_ hinit calls
  · intro graph call h hcall
    exact h.step hcall
  · intro graph h
    exact h.law
  · intro graph call h hlaw
    exact h.removesNoParallel hlaw

/-- A sequence and a conditional edge between the same two nodes, and one call to
remove an edge between them. -/
def parallelRemoval : List Call :=
  [.addNode { nodeId := "draft" }, .addNode { nodeId := "review" },
    .addEdge { source := "draft", target := "review" },
    .addEdge { source := "draft", target := "review", edgeType := .conditional },
    .removeEdge "draft" "review"]

/-- The conditional edge stays in `_edges` and is listed under neither node. -/
theorem not_indexLaw_parallelRemoval :
    ¬ ∀ (graphId : String) (calls : List Call), Always step IndexLaw (new graphId) calls := by
  intro h
  have hlaw := (h "default" parallelRemoval).last
  have hlength := congrArg List.length (hlaw.outgoing "draft" (by decide))
  revert hlength
  decide

end TrajectoryGraph

end HiAgent.Trajectory
