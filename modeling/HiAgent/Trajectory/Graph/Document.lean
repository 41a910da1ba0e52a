/-
  Trajectory/Graph/Document.lean --- the document a graph is stored as.

  `hi_agent/trajectory/graph.py`: `to_json` and `from_json`, and the operations that a
  graph has been through when it is stored: those of `Call`, `update_node_state`, `step`,
  `run_to_completion`, `prune_node` and `get_subgraph`.
-/
import HiAgent.Trajectory.Superstep

namespace HiAgent.Trajectory

open Foundation List

/-! ## Documents -/

/-- A value of a document; the numbers are those of weights and cost estimates. -/
inductive DocValue where
  | plain (value : PyValue)
  | number (value : Rat)
  | list (items : List DocValue)
  | dict (fields : List (String × DocValue))

namespace DocValue

def text (value : String) : DocValue := .plain (.str value)

/-- A text or `None`. -/
def optionalText : Option String → DocValue
  | some text => .plain (.str text)
  | none => .plain .none

def count (value : Nat) : DocValue := .plain (.int value)

/-- `data[key]`, and `data.get(key)`. -/
def get? (key : String) : DocValue → Option DocValue
  | dict fields => fields.lookup key
  | _ => none

def toText : DocValue → Option String
  | plain (.str text) => some text
  | _ => none

def toOptionalText : DocValue → Option (Option String)
  | plain (.str text) => some (some text)
  | plain .none => some none
  | _ => none

def toInt : DocValue → Option Int
  | plain (.int value) => some value
  | _ => none

def toCount : DocValue → Option Nat
  | plain (.int (.ofNat value)) => some value
  | _ => none

def toNumber : DocValue → Option Rat
  | number value => some value
  | _ => none

def toPyDict : DocValue → Option PyDict
  | plain (.dict fields) => some fields
  | _ => none

def toPyValue : DocValue → Option PyValue
  | plain value => some value
  | _ => none

def toList : DocValue → Option (List DocValue)
  | list items => some items
  | _ => none

end DocValue

/-- What `from_json` raises. A document with a value of another type than the field has is
not one that `to_json` writes; what becomes of it is left open. -/
inductive DocumentError where
  | keyError (key : String)
  | valueError (message : String)
  | graph (error : GraphError)
  | otherType (key : String)

def NodeState.value : NodeState → String
  | .pending => "pending"
  | .ready => "ready"
  | .running => "running"
  | .completed => "completed"
  | .failed => "failed"
  | .skipped => "skipped"
  | .blocked => "blocked"

/-- `NodeState(value)`. -/
def NodeState.ofValue (value : String) : Except DocumentError NodeState :=
  match [NodeState.pending, .ready, .running, .completed, .failed, .skipped, .blocked].find?
    fun state => decide (state.value = value) with
  | some state => .ok state
  | none => .error (.valueError s!"'{value}' is not a valid NodeState")

def EdgeType.value : EdgeType → String
  | .sequence => "sequence"
  | .branch => "branch"
  | .conditional => "conditional"
  | .backtrack => "backtrack"

/-- `EdgeType(value)`. -/
def EdgeType.ofValue (value : String) : Except DocumentError EdgeType :=
  match [EdgeType.sequence, .branch, .conditional, .backtrack].find?
    fun edgeType => decide (edgeType.value = value) with
  | some edgeType => .ok edgeType
  | none => .error (.valueError s!"'{value}' is not a valid EdgeType")

namespace DocValue

variable {α : Type}

/-- `data[key]`, as a value of its type. -/
def require (data : DocValue) (key : String) (read : DocValue → Option α) :
    Except DocumentError α :=
  match data.get? key with
  | none => .error (.keyError key)
  | some value => (read value).elim (.error (.otherType key)) .ok

/-- `data.get(key, default)`, as a value of its type. -/
def getOr (data : DocValue) (key : String) (read : DocValue → Option α) (default : α) :
    Except DocumentError α :=
  match data.get? key with
  | none => .ok default
  | some value => (read value).elim (.error (.otherType key)) .ok

end DocValue

namespace TrajNode

/-- A node in `to_json`. -/
def toJson (node : TrajNode) : DocValue :=
  .dict [("node_id", .text node.nodeId), ("node_type", .text node.nodeType),
    ("state", .text node.state.value), ("payload", .plain (.dict node.payload)),
    ("priority", .plain (.int node.priority)), ("cost_estimate", .number node.costEstimate),
    ("retry_count", .count node.retryCount), ("max_retries", .count node.maxRetries),
    ("result", .plain node.result), ("failure_reason", .optionalText node.failureReason)]

/-- A node in `from_json`. -/
def fromJson (nd : DocValue) : Except DocumentError TrajNode := do
  let nodeId ← nd.require "node_id" DocValue.toText
  let nodeType ← nd.getOr "node_type" DocValue.toText "task"
  let state ← NodeState.ofValue (← nd.getOr "state" DocValue.toText "pending")
  let payload ← nd.getOr "payload" DocValue.toPyDict []
  let priority ← nd.getOr "priority" DocValue.toInt 5
  let costEstimate ← nd.getOr "cost_estimate" DocValue.toNumber 0
  let retryCount ← nd.getOr "retry_count" DocValue.toCount 0
  let maxRetries ← nd.getOr "max_retries" DocValue.toCount 2
  let result ← nd.getOr "result" DocValue.toPyValue .none
  let failureReason ← nd.getOr "failure_reason" DocValue.toOptionalText none
  return {
    nodeId := nodeId
    nodeType := nodeType
    state := state
    payload := payload
    priority := priority
    costEstimate := costEstimate
    retryCount := retryCount
    maxRetries := maxRetries
    result := result
    failureReason := failureReason }

end TrajNode

namespace TrajEdge

/-- An edge in `to_json`. -/
def toJson (edge : TrajEdge) : DocValue :=
  .dict [("source", .text edge.source), ("target", .text edge.target),
    ("edge_type", .text edge.edgeType.value), ("condition_desc", .text edge.conditionDesc),
    ("weight", .number edge.weight), ("label", .text edge.label)]

/-- An edge in `from_json`; no condition is restored. -/
def fromJson (ed : DocValue) : Except DocumentError TrajEdge := do
  let source ← ed.require "source" DocValue.toText
  let target ← ed.require "target" DocValue.toText
  let edgeType ← EdgeType.ofValue (← ed.getOr "edge_type" DocValue.toText "sequence")
  let conditionDesc ← ed.getOr "condition_desc" DocValue.toText ""
  let weight ← ed.getOr "weight" DocValue.toNumber 1
  let label ← ed.getOr "label" DocValue.toText ""
  return {
    source := source
    target := target
    edgeType := edgeType
    condition := none
    conditionDesc := conditionDesc
    weight := weight
    label := label }

end TrajEdge

namespace TrajectoryGraph

def toJson (graph : TrajectoryGraph) : DocValue :=
  .dict [("graph_id", .text graph.graphId), ("nodes", .list (graph.nodes.rows.map TrajNode.toJson)),
    ("edges", .list (graph.edges.map TrajEdge.toJson))]

/-- The first loop of `from_json`. -/
def addNodes : TrajectoryGraph → List DocValue → Except DocumentError TrajectoryGraph
  | graph, [] => .ok graph
  | graph, nd :: rest => do
      let node ← TrajNode.fromJson nd
      addNodes (← (graph.addNode node).mapError .graph) rest

/-- The second loop of `from_json`. -/
def addEdges : TrajectoryGraph → List DocValue → Except DocumentError TrajectoryGraph
  | graph, [] => .ok graph
  | graph, ed :: rest => do
      let edge ← TrajEdge.fromJson ed
      addEdges (← (graph.addEdge edge).mapError .graph) rest

def fromJson (data : DocValue) : Except DocumentError TrajectoryGraph := do
  let graphId ← data.getOr "graph_id" DocValue.toText "default"
  let withNodes ← addNodes (new graphId) (← data.getOr "nodes" DocValue.toList [])
  addEdges withNodes (← data.getOr "edges" DocValue.toList [])

end TrajectoryGraph

/-! ## Operations -/

/-- The order in which a set is iterated. -/
structure SetOrder where
  arrange : List String → List String
  perm : ∀ items, (arrange items).Perm items

namespace TrajectoryGraph

variable (graph : TrajectoryGraph)

def assemble (graphId : String) (nodes : List TrajNode) (edges : List TrajEdge) : TrajectoryGraph :=
  (edges.foldl withEdge (nodes.foldl withNode (new graphId))).rebuildEntryTerminal

def updateNodeState (nodeId : String) (state : NodeState) (result : PyValue := .none)
    (failureReason : Option String := none) : Except GraphError TrajectoryGraph :=
  if nodeId ∉ graph.nodeIds then .error (.keyError s!"Node '{nodeId}' not found")
  else
    .ok (graph.write nodeId
      { set node := { node with
          state := state
          result := match result, node.result with
            | .none, kept => kept
            | result, _ => result
          failureReason := failureReason <|> node.failureReason }
        keeps _ := rfl })

/-- The loop of `get_subgraph`. A node is collected at most once, so the frontier gets at
most one entry for each root and each edge. -/
def collect (depth : Int) : Nat → List (String × Nat) → List String → List String
  | 0, _, collected => collected
  | _ + 1, [], collected => collected
  | entries + 1, (nodeId, d) :: frontier, collected =>
    if nodeId ∈ collected ∨ nodeId ∉ graph.nodeIds ∨ (0 ≤ depth ∧ depth < d) then
      collect depth entries frontier collected
    else
      let further := (graph.getOutgoing nodeId).filter fun edge =>
        decide (edge.target ∉ collected ++ [nodeId])
      collect depth entries (frontier ++ further.map fun edge => (edge.target, d + 1))
        (collected ++ [nodeId])

/-- `get_subgraph`; the nodes are cloned in the order in which the set of them is iterated. -/
def getSubgraph (rootIds : List String) (depth : Int) (order : SetOrder) : TrajectoryGraph :=
  let entries := rootIds.length +
    (graph.nodeIds.map fun nodeId => (graph.getOutgoing nodeId).length).sum
  let collected := graph.collect depth entries (rootIds.map fun rootId => (rootId, 0)) []
  let nodes := (order.arrange collected).filterMap graph.getNode
  let edges := graph.edges.filter fun edge =>
    decide (edge.source ∈ collected ∧ edge.target ∈ collected)
  assemble s!"{graph.graphId}_sub" nodes edges

/-- What changes a graph, or takes another one from it. -/
inductive Operation where
  | change (call : Call)
  | updateNodeState (nodeId : String) (state : NodeState) (result : PyValue)
      (failureReason : Option String)
  | superstep (executeFn : Option ExecuteFn)
  | runToCompletion (executeFn : Option ExecuteFn) (maxSteps : Nat)
  | pruneNode (root reason : String)
  | getSubgraph (rootIds : List String) (depth : Int) (order : SetOrder)

/-- The graph after an operation, successful or raising. -/
def operate : Operation → TrajectoryGraph
  | .change call => graph.step call
  | .updateNodeState nodeId state result failureReason =>
    (graph.orUnchanged (graph.updateNodeState nodeId state result failureReason)).1
  | .superstep executeFn => (Progress.step executeFn { graph := graph, log := [] }).graph
  | .runToCompletion executeFn maxSteps => (graph.runToCompletion executeFn maxSteps).1.graph
  | .pruneNode root reason => (graph.orUnchanged (graph.pruneNode root reason)).1
  | .getSubgraph rootIds depth order => graph.getSubgraph rootIds depth order

def Keeps : Operation → Prop
  | .change call => graph.RemovesNoParallel call
  | _ => True

def Unconditional : Prop := ∀ edge ∈ graph.edges, edge.condition = none

/-- Another graph with the same nodes, edges, indexes and ready nodes. -/
structure SameAs (other : TrajectoryGraph) : Prop where
  graphId : other.graphId = graph.graphId
  nodes : other.nodes.rows = graph.nodes.rows
  edges : other.edges = graph.edges
  outgoing : ∀ nodeId, other.getOutgoing nodeId = graph.getOutgoing nodeId
  incoming : ∀ nodeId, other.getIncoming nodeId = graph.getIncoming nodeId
  entry : other.entryNodes = graph.entryNodes
  terminal : other.terminalNodes = graph.terminalNodes
  ready : other.getReadyNodes = graph.getReadyNodes

/-- `from_json(to_json(graph))` is the graph. -/
def RoundTrips : Prop := ∃ restored, fromJson graph.toJson = .ok restored ∧ graph.SameAs restored

end TrajectoryGraph

/-! ## Reading what was written -/

@[simp] theorem TrajNode.fromJson_toJson (node : TrajNode) :
    TrajNode.fromJson node.toJson = .ok node := by
  obtain ⟨nodeId, nodeType, state, payload, priority, costEstimate, retryCount, maxRetries,
    result, failureReason⟩ := node
  cases state <;> cases failureReason <;> rfl

theorem TrajEdge.fromJson_toJson {edge : TrajEdge} (h : edge.condition = none) :
    TrajEdge.fromJson edge.toJson = .ok edge := by
  obtain ⟨source, target, edgeType, condition, conditionDesc, weight, label⟩ := edge
  obtain rfl : condition = none := h
  cases edgeType <;> rfl

namespace TrajectoryGraph

variable {graph next : TrajectoryGraph}

theorem Copies.withNodes (h : graph.Copies) (nodes : List TrajNode)
    (hnew : (graph.nodeIds ++ nodes.map TrajNode.nodeId).Nodup) :
    (nodes.foldl TrajectoryGraph.withNode graph).Copies ∧
      (nodes.foldl TrajectoryGraph.withNode graph).graphId = graph.graphId ∧
      (nodes.foldl TrajectoryGraph.withNode graph).nodes.rows = graph.nodes.rows ++ nodes ∧
      (nodes.foldl TrajectoryGraph.withNode graph).edges = graph.edges := by
  induction nodes generalizing graph with
  | nil => exact ⟨h, by simp⟩
  | cons node rest ih =>
    have hfresh : node.nodeId ∉ graph.nodeIds := fun hmem =>
      (List.nodup_append.mp hnew).2.2 _ hmem _ mem_cons_self rfl
    have hrows := graph.rows_withNode hfresh
    obtain ⟨hcopies, hid, hnodes, hedges⟩ := ih (h.withNode hfresh) (by
      rw [nodeIds, hrows]
      simpa [nodeIds] using hnew)
    refine ⟨hcopies, hid, ?_, hedges⟩
    rw [foldl_cons, hnodes, hrows, append_assoc, singleton_append]

theorem Copies.withEdges (h : graph.Copies) (edges : List TrajEdge)
    (hends : ∀ edge ∈ edges, edge.source ∈ graph.nodeIds ∧ edge.target ∈ graph.nodeIds) :
    (edges.foldl TrajectoryGraph.withEdge graph).Copies ∧
      (edges.foldl TrajectoryGraph.withEdge graph).graphId = graph.graphId ∧
      (edges.foldl TrajectoryGraph.withEdge graph).nodes = graph.nodes ∧
      (edges.foldl TrajectoryGraph.withEdge graph).edges = graph.edges ++ edges := by
  induction edges generalizing graph with
  | nil => exact ⟨h, by simp⟩
  | cons edge rest ih =>
    obtain ⟨⟨hsource, htarget⟩, hrest⟩ := forall_mem_cons.mp hends
    obtain ⟨hcopies, hid, hnodes, hedges⟩ := ih (h.withEdge hsource htarget) hrest
    refine ⟨hcopies, hid, hnodes, ?_⟩
    rw [foldl_cons, hedges, TrajectoryGraph.withEdge, append_assoc, singleton_append]

theorem assembled (graphId : String) {nodes : List TrajNode} {edges : List TrajEdge}
    (hnodup : (nodes.map TrajNode.nodeId).Nodup)
    (hends : ∀ edge ∈ edges, edge.source ∈ nodes.map TrajNode.nodeId ∧
      edge.target ∈ nodes.map TrajNode.nodeId) : (assemble graphId nodes edges).Indexed ∧
      (assemble graphId nodes edges).graphId = graphId ∧
      (assemble graphId nodes edges).nodes.rows = nodes ∧
      (assemble graphId nodes edges).edges = edges := by
  obtain ⟨hcopies, hid, hrows, hnone⟩ :=
    (indexed_new graphId).toCopies.withNodes nodes hnodup
  obtain ⟨hdone, hid', hnodes, hedges⟩ := hcopies.withEdges edges (by
    rw [nodeIds, hrows]
    exact hends)
  refine ⟨hdone.rebuild, hid'.trans hid, ?_, ?_⟩
  · exact (congrArg Table.rows hnodes).trans hrows
  · exact hedges.trans (congrArg (· ++ edges) hnone)

theorem addNodes_toJson (graph : TrajectoryGraph) {nodes : List TrajNode}
    (hnew : (graph.nodeIds ++ nodes.map TrajNode.nodeId).Nodup) :
    graph.rebuildEntryTerminal.addNodes (nodes.map TrajNode.toJson) =
      .ok (nodes.foldl withNode graph).rebuildEntryTerminal := by
  induction nodes generalizing graph with
  | nil => rfl
  | cons node rest ih =>
    have hfresh : node.nodeId ∉ graph.nodeIds := fun hmem =>
      (List.nodup_append.mp hnew).2.2 _ hmem _ mem_cons_self rfl
    have hadd : graph.rebuildEntryTerminal.addNode node =
        .ok (graph.withNode node).rebuildEntryTerminal := if_neg hfresh
    rw [map_cons, addNodes, TrajNode.fromJson_toJson]
    change ((graph.rebuildEntryTerminal.addNode node).mapError DocumentError.graph).bind
      (fun next => next.addNodes (rest.map TrajNode.toJson)) = _
    rw [hadd]
    refine ih (graph.withNode node) ?_
    rw [nodeIds, graph.rows_withNode hfresh]
    simpa [nodeIds] using hnew

theorem addEdges_toJson {edges : List TrajEdge} (hplain : ∀ edge ∈ edges, edge.condition = none)
    (hends : ∀ edge ∈ edges, edge.source ∈ graph.nodeIds ∧ edge.target ∈ graph.nodeIds) :
    graph.rebuildEntryTerminal.addEdges (edges.map TrajEdge.toJson) =
      .ok (edges.foldl withEdge graph).rebuildEntryTerminal := by
  induction edges generalizing graph with
  | nil => rfl
  | cons edge rest ih =>
    obtain ⟨⟨hsource, htarget⟩, hrest⟩ := forall_mem_cons.mp hends
    obtain ⟨hedge, hothers⟩ := forall_mem_cons.mp hplain
    have hadd : graph.rebuildEntryTerminal.addEdge edge =
        .ok (graph.withEdge edge).rebuildEntryTerminal :=
      (if_neg (not_not.mpr hsource)).trans (if_neg (not_not.mpr htarget))
    rw [map_cons, addEdges, TrajEdge.fromJson_toJson hedge]
    change ((graph.rebuildEntryTerminal.addEdge edge).mapError DocumentError.graph).bind
      (fun next => next.addEdges (rest.map TrajEdge.toJson)) = _
    rw [hadd]
    exact ih hothers hrest

theorem fromJson_toJson (hplain : graph.Unconditional)
    (hends : ∀ edge ∈ graph.edges, edge.source ∈ graph.nodeIds ∧ edge.target ∈ graph.nodeIds) :
    fromJson graph.toJson = .ok (assemble graph.graphId graph.nodes.rows graph.edges) := by
  have hnodup : (graph.nodes.rows.map TrajNode.nodeId).Nodup := graph.nodes.keysNodup
  obtain ⟨-, -, hrows, -⟩ :=
    (indexed_new graph.graphId).toCopies.withNodes graph.nodes.rows hnodup
  change ((new graph.graphId).rebuildEntryTerminal.addNodes
    (graph.nodes.rows.map TrajNode.toJson)).bind
      (fun next => next.addEdges (graph.edges.map TrajEdge.toJson)) = _
  rw [addNodes_toJson (new graph.graphId) hnodup]
  refine addEdges_toJson hplain ?_
  rw [nodeIds, hrows]
  exact hends

theorem getReadyNodes_congr {other : TrajectoryGraph} (hid : other.graphId = graph.graphId)
    (hnodes : other.nodes = graph.nodes)
    (hincoming : ∀ nodeId, other.getIncoming nodeId = graph.getIncoming nodeId) :
    other.getReadyNodes = graph.getReadyNodes := by
  have hbuilt : other.buildGraphState = graph.buildGraphState := by
    rw [buildGraphState, buildGraphState, hid, hnodes]
  have hholds (edge : TrajEdge) : other.holds edge = graph.holds edge := by
    rw [holds, holds, hbuilt]
  have hstate (nodeId : String) : other.stateOf nodeId = graph.stateOf nodeId := by
    rw [stateOf, stateOf, getNode, getNode, hnodes]
  have hready : other.isReady = graph.isReady := by
    funext node
    simp only [isReady, dependencies, conditionsMet, hholds, hstate, hincoming]
  rw [getReadyNodes, getReadyNodes, hready, hnodes]

theorem rebuildEntryTerminal_congr (other : TrajectoryGraph)
    (hids : other.nodeIds = graph.nodeIds) (hedges : other.edges = graph.edges) :
    other.rebuildEntryTerminal.entryNodes = graph.rebuildEntryTerminal.entryNodes ∧
      other.rebuildEntryTerminal.terminalNodes = graph.rebuildEntryTerminal.terminalNodes := by
  have hforward : other.forwardEdges = graph.forwardEdges := by
    rw [forwardEdges, forwardEdges, hedges]
  rw [rebuildEntryTerminal, rebuildEntryTerminal, hids, hforward]
  exact ⟨rfl, rfl⟩

theorem Indexed.roundTrips (h : graph.Indexed) (hplain : graph.Unconditional) :
    graph.RoundTrips := by
  obtain ⟨hdone, hid, hrows, hedges⟩ :=
    assembled graph.graphId graph.nodes.keysNodup h.endpoints
  have hnodes := Table.ext_rows hrows
  have hincoming (nodeId : String) :
      (assemble graph.graphId graph.nodes.rows graph.edges).getIncoming nodeId =
        graph.getIncoming nodeId := by
    rw [h.incoming, hdone.incoming, hedges]
  obtain ⟨hentry, hover⟩ :=
    rebuildEntryTerminal_congr _ (congrArg (List.map TrajNode.nodeId) hrows) hedges
  rw [h.rebuilt, hdone.rebuilt] at hentry hover
  refine ⟨_, fromJson_toJson hplain h.endpoints, hid, hrows, hedges, fun nodeId => ?_, hincoming,
    hentry, hover, getReadyNodes_congr hid hnodes hincoming⟩
  rw [h.outgoing, hdone.outgoing, hedges]

theorem RoundTrips.indexLaw (h : graph.RoundTrips) (hplain : graph.Unconditional)
    (hends : ∀ edge ∈ graph.edges, edge.source ∈ graph.nodeIds ∧ edge.target ∈ graph.nodeIds) :
    graph.IndexLaw := by
  obtain ⟨restored, hrestored, hsame⟩ := h
  rw [fromJson_toJson hplain hends] at hrestored
  obtain rfl := Except.ok.inj hrestored
  have hids : (assemble graph.graphId graph.nodes.rows graph.edges).nodeIds = graph.nodeIds :=
    congrArg (List.map TrajNode.nodeId) hsame.nodes
  have hlaw := (assembled graph.graphId graph.nodes.keysNodup hends).1.law
  constructor
  · intro nodeId hnode
    rw [← hsame.outgoing, hlaw.outgoing nodeId (hids ▸ hnode), hsame.edges]
  · intro nodeId hnode
    rw [← hsame.incoming, hlaw.incoming nodeId (hids ▸ hnode), hsame.edges]
  · exact hends
  · intro nodeId
    rw [← hsame.entry, hlaw.entry, hids, hsame.edges]
  · intro nodeId
    rw [← hsame.terminal, hlaw.terminal, hids, hsame.edges]

/-! ## Runs -/

theorem Indexed.withRows (h : graph.Indexed) {nodes : Table TrajNode.nodeId}
    (hids : nodes.rows.map TrajNode.nodeId = graph.nodeIds) :
    Indexed { graph with nodes := nodes } where
  outgoing := h.outgoing
  incoming := h.incoming
  endpoints edge hedge := by
    rw [nodeIds, hids]
    exact h.endpoints edge hedge
  rebuilt := by
    obtain ⟨hentry, hover⟩ :=
      rebuildEntryTerminal_congr { graph with nodes := nodes } hids rfl
    rw [h.rebuilt] at hentry hover
    exact congrArg₂ (fun entry terminal => { graph with
      nodes := nodes, entryNodes := entry, terminalNodes := terminal }) hentry hover

theorem Indexed.write (h : graph.Indexed) (nodeId : String) (row : Assignment TrajNode.nodeId) :
    (graph.write nodeId row).Indexed :=
  h.withRows (graph.nodeIds_write nodeId row)

theorem Indexed.moves {executeFn : Option ExecuteFn} {progress next : Progress}
    (h : progress.graph.Indexed) (hmoves : Progress.Moves executeFn progress next) :
    next.graph.Indexed := by
  refine hmoves.invariant (P := fun progress => progress.graph.Indexed) ?_ h
  intro progress next ih hmove
  cases hmove with
  | execute node => exact ih.write node.nodeId _
  | reset edge => exact ih.write edge.target _

theorem Indexed.pruneNode (h : graph.Indexed) {root reason : String}
    (hcall : graph.pruneNode root reason = .ok next) : next.Indexed := by
  rw [TrajectoryGraph.pruneNode] at hcall
  split at hcall
  · cases hcall
  · obtain rfl := Except.ok.inj hcall
    refine h.withRows ?_
    rw [Table.update, nodeIds, map_map]
    refine map_congr_left fun node _ => ?_
    rw [Function.comp_apply]
    split
    · exact (skip root reason).keeps node
    · rfl

theorem Indexed.updateNodeState (h : graph.Indexed) {nodeId : String} {state : NodeState}
    {result : PyValue} {failureReason : Option String}
    (hcall : graph.updateNodeState nodeId state result failureReason = .ok next) :
    next.Indexed := by
  rw [TrajectoryGraph.updateNodeState] at hcall
  split at hcall
  · cases hcall
  · obtain rfl := Except.ok.inj hcall
    exact h.write nodeId _

theorem collected (depth : Int) (entries : Nat) (frontier : List (String × Nat))
    {found : List String} (hnodup : found.Nodup)
    (hfound : ∀ nodeId ∈ found, nodeId ∈ graph.nodeIds) :
    (graph.collect depth entries frontier found).Nodup ∧
      ∀ nodeId ∈ graph.collect depth entries frontier found, nodeId ∈ graph.nodeIds := by
  induction entries generalizing frontier found with
  | zero => exact ⟨hnodup, hfound⟩
  | succ entries ih =>
    cases frontier with
    | nil => exact ⟨hnodup, hfound⟩
    | cons entry frontier =>
      rw [collect]
      split
      · exact ih frontier hnodup hfound
      · rename_i htake
        rw [not_or, not_or, not_not] at htake
        obtain ⟨hnew, hnode, -⟩ := htake
        refine ih _ (by simpa using hnodup.concat hnew) fun other hother => ?_
        rcases mem_append.mp hother with hold | hlast
        · exact hfound other hold
        · exact mem_singleton.mp hlast ▸ hnode

theorem nodeIds_filterMap {nodeIds : List String} (h : ∀ nodeId ∈ nodeIds, nodeId ∈ graph.nodeIds) :
    (nodeIds.filterMap graph.getNode).map TrajNode.nodeId = nodeIds := by
  induction nodeIds with
  | nil => rfl
  | cons nodeId rest ih =>
    obtain ⟨hnode, hrest⟩ := forall_mem_cons.mp h
    obtain ⟨node, hget⟩ := graph.mem_nodeIds_iff.mp hnode
    rw [filterMap_cons_some hget, map_cons, ih hrest, Table.key_of_lookup hget]

theorem indexed_getSubgraph (rootIds : List String) (depth : Int) (order : SetOrder) :
    (graph.getSubgraph rootIds depth order).Indexed := by
  set entries := rootIds.length +
    (graph.nodeIds.map fun nodeId => (graph.getOutgoing nodeId).length).sum
  set found := graph.collect depth entries (rootIds.map fun rootId => (rootId, 0)) [] with hfound
  obtain ⟨hnodup, hnodes⟩ := graph.collected depth entries
    (rootIds.map fun rootId => (rootId, 0)) nodup_nil (by simp)
  have hids : ((order.arrange found).filterMap graph.getNode).map TrajNode.nodeId =
      order.arrange found :=
    graph.nodeIds_filterMap fun nodeId hnode => hnodes nodeId ((order.perm found).mem_iff.mp hnode)
  refine (assembled _ ?_ fun edge hedge => ?_).1
  · rw [hids]
    exact (order.perm found).nodup_iff.mpr hnodup
  · rw [hids, (order.perm found).mem_iff, (order.perm found).mem_iff]
    simpa using (mem_filter.mp hedge).2

theorem Indexed.operate (h : graph.Indexed) {operation : Operation}
    (hkeeps : graph.Keeps operation) : (graph.operate operation).Indexed := by
  cases operation with
  | change call => exact h.step hkeeps
  | updateNodeState => exact h.orUnchanged fun _ => h.updateNodeState
  | superstep => exact h.moves (Progress.moves_step _)
  | runToCompletion => exact h.moves (Progress.moves_loop _ _)
  | pruneNode => exact h.orUnchanged fun _ => h.pruneNode
  | getSubgraph rootIds depth order => exact indexed_getSubgraph rootIds depth order

theorem endpoints_removeEdge {source target : String}
    (hends : ∀ edge ∈ graph.edges, edge.source ∈ graph.nodeIds ∧ edge.target ∈ graph.nodeIds) :
    ∀ edge ∈ (graph.step (.removeEdge source target)).edges,
      edge.source ∈ (graph.step (.removeEdge source target)).nodeIds ∧
        edge.target ∈ (graph.step (.removeEdge source target)).nodeIds := by
  rw [step, perform, removeEdge]
  split
  · exact hends
  · intro edge hedge
    exact hends edge (mem_of_mem_eraseIdx hedge)

theorem Indexed.keeps (h : graph.Indexed) {operation : Operation}
    (hplain : (graph.operate operation).Unconditional)
    (htrips : (graph.operate operation).RoundTrips) : graph.Keeps operation := by
  cases operation with
  | change call =>
    cases call with
    | removeEdge source target =>
      exact h.removesNoParallel (htrips.indexLaw hplain (endpoints_removeEdge h.endpoints))
    | _ => trivial
  | _ => trivial

/-- A graph without conditions comes back from its document in every state of a run whose
operations remove no edge that has a parallel one. A run whose graphs have no conditions
and all come back is such a run. -/
theorem round_trips_without_parallel_removals (graphId : String) (operations : List Operation) :
    (Along operate Keeps (new graphId) operations →
      Always operate (fun graph => graph.Unconditional → graph.RoundTrips) (new graphId)
        operations) ∧
    (Always operate (fun graph => graph.Unconditional ∧ graph.RoundTrips) (new graphId)
        operations → Along operate Keeps (new graphId) operations) := by
  have hkeeps (graph : TrajectoryGraph) (operation : Operation) (h : graph.Indexed)
      (hop : graph.Keeps operation) : (graph.operate operation).Indexed :=
    h.operate hop
  constructor
  · intro hguard
    refine always_of_invariant hkeeps ?_ (indexed_new graphId) hguard
    intro graph h hplain
    exact h.roundTrips hplain
  · intro h
    refine along_of_always hkeeps ?_ (indexed_new graphId) h
    intro graph operation hindexed hnext
    exact hindexed.keeps hnext.1 hnext.2

/-- The edge that stays is written, and read back into the indexes it was missing from. -/
theorem not_round_trips_parallelRemoval : ¬ ∀ (graphId : String) (operations : List Operation),
      Always operate (fun graph => graph.Unconditional → graph.RoundTrips) (new graphId)
        operations := by
  intro h
  have hlast := (h "default" (parallelRemoval.map .change)).last
  have hedges : (exec operate (new "default") (parallelRemoval.map .change)).edges =
      [{ source := "draft", target := "review", edgeType := .conditional }] := rfl
  have hplain : (exec operate (new "default") (parallelRemoval.map .change)).Unconditional := by
    intro edge hedge
    rw [hedges, mem_singleton] at hedge
    rw [hedge]
  have hlaw := (hlast hplain).indexLaw hplain (by
    intro edge hedge
    rw [hedges, mem_singleton] at hedge
    rw [hedge]
    decide)
  have hlength := congrArg List.length (hlaw.outgoing "draft" (by decide))
  revert hlength
  decide

end TrajectoryGraph

end HiAgent.Trajectory
