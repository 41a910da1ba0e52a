/-
  Trajectory/Superstep.lean --- running a trajectory graph step by step.

  `hi_agent/trajectory/graph.py`: `get_ready_nodes`, `step`, `run_to_completion`
  and `prune_node`. A run is a chain of moves: a ready node is executed or a back-edge resets
  its target.
-/
import HiAgent.Trajectory.Graph

namespace HiAgent.Trajectory

open Foundation

/-- `execute_fn`: whether its `n`-th call returns a value or raises. -/
abbrev ExecuteFn := Nat → TrajNode → Except String PyValue

/-- `state in (COMPLETED, SKIPPED, FAILED)`. -/
def NodeState.isDone : NodeState → Bool
  | .completed | .skipped | .failed => true
  | _ => false

namespace TrajNode

/-- What an execution writes to its node. -/
def settle : Option (Except String PyValue) → Assignment TrajNode.nodeId
  | none => ⟨fun node => { node with state := .completed }, fun _ => rfl⟩
  | some (.ok result) =>
    ⟨fun node => { node with state := .completed, result := result }, fun _ => rfl⟩
  | some (.error reason) =>
    ⟨fun node => { node with state := .failed, failureReason := some reason }, fun _ => rfl⟩

def retry : Assignment TrajNode.nodeId :=
  ⟨fun node => { node with state := .pending, retryCount := node.retryCount + 1 }, fun _ => rfl⟩

end TrajNode

namespace TrajectoryGraph

variable (graph : TrajectoryGraph)

def stateOf (nodeId : String) : Option NodeState := (graph.getNode nodeId).map TrajNode.state

def write (nodeId : String) (row : Assignment TrajNode.nodeId) : TrajectoryGraph :=
  { graph with nodes := graph.nodes.updateAt nodeId (fun _ => true) row }

def buildGraphState : GraphState where
  nodes := graph.nodes.rows.map fun node =>
    (node.nodeId, { state := node.state, result := node.result, retryCount := node.retryCount })
  graphId := graph.graphId

/-- Whether the condition of an edge holds; an edge without one always passes. -/
def holds (edge : TrajEdge) : Bool :=
  match edge.condition with
  | none => true
  | some condition => condition graph.buildGraphState

/-- `_get_dependencies`. -/
def dependencies (nodeId : String) : List String :=
  ((graph.getIncoming nodeId).filter fun edge =>
    decide (edge.edgeType = .sequence ∨ edge.edgeType = .branch)).map TrajEdge.source

/-- Whether no conditional edge leads to the node or one of them is met. -/
def conditionsMet (nodeId : String) : Bool :=
  let conditional := (graph.getIncoming nodeId).filter fun edge =>
    decide (edge.edgeType = .conditional)
  conditional.isEmpty || conditional.any fun edge =>
    graph.holds edge && decide (graph.stateOf edge.source = some .completed)

/-- Whether `get_ready_nodes` takes the node. -/
def isReady (node : TrajNode) : Bool :=
  decide (node.state = .pending) && (graph.dependencies node.nodeId).all
      (fun nodeId => decide (graph.stateOf nodeId = some .completed)) &&
    graph.conditionsMet node.nodeId

def getReadyNodes : List TrajNode := graph.nodes.rows.filter graph.isReady

def allDone (nodeIds : List String) : Bool :=
  nodeIds.all fun nodeId => (graph.stateOf nodeId).all NodeState.isDone

/-- The final check of `run_to_completion`. -/
def finished : Bool :=
  if graph.terminalNodes = [] then graph.allDone graph.nodeIds
  else graph.allDone graph.terminalNodes

def retriesLeft (nodeId : String) : Bool :=
  (graph.getNode nodeId).any fun node => decide (node.retryCount < node.maxRetries)

/-! ## What a write changes -/

theorem getNode_write (nodeId other : String) (row : Assignment TrajNode.nodeId) :
    (graph.write nodeId row).getNode other =
      if other = nodeId then (graph.getNode nodeId).map row.set else graph.getNode other := by
  rw [getNode, write, Table.lookup_updateAt]
  rfl

theorem stateOf_write (nodeId other : String) (row : Assignment TrajNode.nodeId) :
    (graph.write nodeId row).stateOf other =
      if other = nodeId then (graph.getNode nodeId).map fun node => (row.set node).state
      else graph.stateOf other := by
  rw [stateOf, getNode_write]
  split
  · exact Option.map_map ..
  · rfl

theorem retriesLeft_write (nodeId other : String) (row : Assignment TrajNode.nodeId) :
    (graph.write nodeId row).retriesLeft other =
      if other = nodeId then (graph.getNode nodeId).any fun node =>
        decide ((row.set node).retryCount < (row.set node).maxRetries)
      else graph.retriesLeft other := by
  rw [retriesLeft, getNode_write]
  split
  · exact Option.any_map ..
  · rfl

theorem mem_nodeIds_iff {nodeId : String} :
    nodeId ∈ graph.nodeIds ↔ ∃ node, graph.getNode nodeId = some node := by
  rw [← not_iff_not, not_exists, ← Option.eq_none_iff_forall_ne_some, getNode,
    Table.lookup_eq_none_iff, nodeIds, List.mem_map]
  constructor
  · intro h row hrow hkey
    exact h ⟨row, hrow, hkey⟩
  · rintro h ⟨row, hrow, hkey⟩
    exact h row hrow hkey

@[simp] theorem nodeIds_write (nodeId : String) (row : Assignment TrajNode.nodeId) :
    (graph.write nodeId row).nodeIds = graph.nodeIds := by
  rw [nodeIds, write, Table.updateAt, Table.update, List.map_map]
  refine List.map_congr_left fun node _ => ?_
  rw [Function.comp_apply]
  split
  · exact row.keeps node
  · rfl

end TrajectoryGraph

/-- What happened in a run, with the graph it happened in. -/
inductive Entry where
  | executed (graph : TrajectoryGraph) (nodeId : String) (returned : Bool)
  | reset (graph : TrajectoryGraph) (edge : TrajEdge)

/-- A run between two calls of `execute_fn`. -/
structure Progress where
  graph : TrajectoryGraph
  log : List Entry

def Entry.isExecution : Entry → Bool
  | .executed .. => true
  | .reset .. => false

def Entry.succeeded : Option (Except String PyValue) → Bool
  | some (.error _) => false
  | _ => true

namespace Progress

variable (executeFn : Option ExecuteFn)

/-- What `execute_fn`, if there is one, answers for a node. -/
def answer (progress : Progress) (node : TrajNode) : Option (Except String PyValue) :=
  executeFn.map fun call =>
    call (progress.log.countP Entry.isExecution) { node with state := .running }

def execute (progress : Progress) (node : TrajNode) : Progress where
  graph := progress.graph.write node.nodeId (TrajNode.settle (progress.answer executeFn node))
  log := progress.log ++
    [.executed progress.graph node.nodeId (Entry.succeeded (progress.answer executeFn node))]

/-- One edge of a node that is FAILED. -/
def followEdge (progress : Progress) (edge : TrajEdge) : Progress :=
  if edge.edgeType = .backtrack ∧ progress.graph.retriesLeft edge.target = true ∧
      progress.graph.holds edge = true then
    { graph := progress.graph.write edge.target TrajNode.retry
      log := progress.log ++ [.reset progress.graph edge] }
  else progress

def backtrack (progress : Progress) (nodeId : String) : Progress :=
  if progress.graph.stateOf nodeId = some .failed then
    (progress.graph.getOutgoing nodeId).foldl followEdge progress
  else progress

def step (progress : Progress) : Progress :=
  let executed := progress.graph.getReadyNodes.foldl (execute executeFn) progress
  executed.graph.nodeIds.foldl backtrack executed

/-- The loop of `run_to_completion`: where it ends and what it returns. -/
def loop : Nat → Progress → Progress × Bool
  | 0, progress => (progress, progress.graph.finished)
  | steps + 1, progress =>
    let next := progress.step executeFn
    if progress.graph.getReadyNodes = [] then (next, next.graph.finished)
    else if next.graph.terminalNodes ≠ [] ∧
        next.graph.allDone next.graph.terminalNodes = true then (next, true)
    else loop steps next

end Progress

namespace TrajectoryGraph

def runToCompletion (graph : TrajectoryGraph) (executeFn : Option ExecuteFn)
    (maxSteps : Nat := 100) : Progress × Bool :=
  Progress.loop executeFn maxSteps { graph := graph, log := [] }

/-- The nodes `prune_node` goes on to from a node. -/
def downstream (graph : TrajectoryGraph) (root nodeId : String) : List String :=
  if nodeId = root ∨ (graph.stateOf nodeId).any fun state => decide (state ≠ .completed) then
    ((graph.getOutgoing nodeId).filter fun edge => decide (edge.edgeType ≠ .backtrack)).map
      TrajEdge.target
  else []

/-- What `prune_node` writes to the nodes it reaches. -/
def skip (root reason : String) : Assignment TrajNode.nodeId where
  set node := { node with
    state := .skipped
    failureReason :=
      some (if node.nodeId = root then reason else s!"upstream {root} {reason}") }
  keeps _ := rfl

def pruneNode (graph : TrajectoryGraph) (root : String) (reason : String := "pruned") :
    Except GraphError TrajectoryGraph :=
  if root ∉ graph.nodeIds then .error (.keyError s!"Node '{root}' not found")
  else
    let next := graph.downstream root
    let reached := Search.explore next (1 + Search.weight next graph.nodeIds []) [root] []
    .ok { graph with
      nodes := graph.nodes.update
        (fun node => decide (node.nodeId = root ∨ node.nodeId ∈ reached ∧ node.state ≠ .completed))
        (skip root reason) }

end TrajectoryGraph

open List

def Entry.Executes (nodeId : String) : Entry → Bool
  | .executed _ other _ => decide (other = nodeId)
  | .reset _ _ => false

def executions (log : List Entry) (nodeId : String) : Nat := log.countP (Entry.Executes nodeId)

/-- What follows an execution of `source` has an execution of `target` and, where
that one succeeds, a later one of `source`. -/
def Reexecuted (target source : String) (after : List Entry) : Prop :=
  ∃ between moment returned rest, after = between ++ .executed moment target returned :: rest ∧
    (returned = true → source = target ∨ 0 < executions rest source)

def TrajEdge.Unconditional (edge : TrajEdge) : Prop :=
  edge.edgeType = .backtrack ∧ edge.condition.isNone = true

instance (edge : TrajEdge) : Decidable edge.Unconditional :=
  inferInstanceAs (Decidable (_ ∧ _))

/-- What the runs of a graph are to obey. -/
structure SuperstepLaw (graph : TrajectoryGraph) (run : Progress × Bool) : Prop where
  afterDependencies : ∀ moment nodeId returned, .executed moment nodeId returned ∈ run.1.log →
      ∀ dependency ∈ moment.dependencies nodeId, moment.stateOf dependency = some .completed
  boundedRetries : ∀ nodeId node, graph.getNode nodeId = some node →
    executions run.1.log nodeId ≤ 1 + node.maxRetries
  notPruned : ∀ nodeId, graph.stateOf nodeId = some .skipped → executions run.1.log nodeId = 0
  reexecuted : run.2 = true → ∀ before moment nodeId after,
    run.1.log = before ++ .executed moment nodeId false :: after →
      ∀ edge ∈ moment.getOutgoing nodeId, edge.Unconditional →
        moment.retriesLeft edge.target = true → Reexecuted edge.target nodeId after

namespace TrajectoryGraph

/-- `target` waits for `source`, and is not done. -/
def Awaits (graph : TrajectoryGraph) (source target : String) : Prop :=
  source ∈ graph.dependencies target ∧ (graph.stateOf target).all NodeState.isDone = false

/-- A node that ends the graph is this one or waits for it, at once or by way of others. -/
def Awaited (graph : TrajectoryGraph) (nodeId : String) : Prop :=
  ∃ terminal ∈ graph.terminalNodes, Relation.ReflTransGen graph.Awaits nodeId terminal

end TrajectoryGraph

/-- A back-edge is followed to a node that was not pruned only; a node that fails has
no unconditional back-edge that it could follow, apart from one to itself where the end of
the graph awaits the node. -/
def Entry.Safe : Entry → Prop
  | .executed moment nodeId returned => returned = true ∨
      ∀ edge ∈ moment.getOutgoing nodeId, edge.Unconditional →
        moment.retriesLeft edge.target = true → edge.target = nodeId ∧ moment.Awaited nodeId
  | .reset moment edge => moment.stateOf edge.target ≠ some .skipped

/-! ## Pruning -/

namespace TrajectoryGraph

theorem downstream_eq_nil {graph : TrajectoryGraph} {root nodeId : String}
    (hroot : root ∈ graph.nodeIds) (hnode : nodeId ∉ graph.nodeIds) :
    graph.downstream root nodeId = [] := by
  have hne : nodeId ≠ root := fun heq => hnode (heq ▸ hroot)
  have hnone : graph.stateOf nodeId = none := by
    rw [mem_nodeIds_iff, not_exists, ← Option.eq_none_iff_forall_ne_some] at hnode
    rw [stateOf, hnode]
    rfl
  rw [downstream, if_neg]
  rw [hnone]
  rintro (heq | hany)
  · exact hne heq
  · cases hany

/-- `prune_node` skips the node and those it reaches along forward edges, stopping at the ones that
have completed and leaving these as they are; and no other node. -/
theorem stateOf_pruneNode {graph pruned : TrajectoryGraph} {root reason : String}
    (hcall : graph.pruneNode root reason = .ok pruned) (nodeId : String) :
    pruned.stateOf nodeId = some .skipped ↔
      graph.stateOf nodeId = some .skipped ∨ (nodeId ∈ graph.nodeIds ∧ (nodeId = root ∨
          Relation.ReflTransGen (Search.Edge (graph.downstream root)) root nodeId ∧
            graph.stateOf nodeId ≠ some .completed)) := by
  rw [pruneNode] at hcall
  split at hcall
  · cases hcall
  · rename_i hroot
    rw [not_not] at hroot
    obtain rfl := Except.ok.inj hcall
    dsimp only [stateOf, getNode]
    rw [Table.lookup_update, mem_nodeIds_iff, getNode]
    have hreach : nodeId ∈ Search.explore (graph.downstream root)
        (1 + Search.weight (graph.downstream root) graph.nodeIds []) [root] [] ↔
          Relation.ReflTransGen (Search.Edge (graph.downstream root)) root nodeId :=
      Search.mem_explore_iff (fun _ => downstream_eq_nil hroot) (Nat.le_refl _)
    cases hnode : graph.nodes.lookup nodeId with
    | none => simp
    | some node =>
      have hkey : node.nodeId = nodeId := Table.key_of_lookup hnode
      have hskipped : ((skip root reason).set node).state = .skipped := rfl
      rw [← hreach]
      simp only [Option.map_some, hkey, decide_eq_true_eq]
      split
      · rename_i hmark
        simp [hskipped, hmark]
      · rename_i hkeep
        simp [hkeep]

/-- A cycle of three stages, the way back from it, and a completed stage beside it with one
more behind. -/
def drafting : TrajectoryGraph :=
  exec step (.new "g")
    (["plan", "draft", "review", "publish", "archive"].map (fun nodeId => .addNode { nodeId }) ++
      .addNode { nodeId := "figures", state := .completed } ::
      .addEdge { source := "review", target := "plan", edgeType := .backtrack } ::
      [("plan", "draft"), ("draft", "review"), ("review", "publish"), ("publish", "draft"),
        ("draft", "figures"), ("figures", "archive")].map fun edge =>
          .addEdge { source := edge.1, target := edge.2 })

/-- The cycle is skipped; the stage before it, the completed one and the one behind that stay. -/
theorem stateOf_pruneNode_drafting : ∃ pruned, drafting.pruneNode "draft" "late" = .ok pruned ∧
    pruned.stateOf "publish" = some .skipped ∧
    ¬ Relation.ReflTransGen (Search.Edge (drafting.downstream "draft")) "draft" "plan" ∧
    ¬ Relation.ReflTransGen (Search.Edge (drafting.downstream "draft")) "draft" "archive" := by
  have hcall : drafting.pruneNode "draft" "late" = .ok _ := rfl
  have hreview : "review" ∈ drafting.downstream "draft" "draft" := by decide
  have hpublish : "publish" ∈ drafting.downstream "draft" "review" := by decide
  have hreach := (Relation.ReflTransGen.single (r := Search.Edge (drafting.downstream "draft"))
    hreview).tail hpublish
  refine ⟨_, hcall, (stateOf_pruneNode hcall "publish").mpr
    (.inr ⟨by decide, .inr ⟨hreach, by decide⟩⟩), fun hplan => ?_, fun harchive => ?_⟩
  · exact absurd ((stateOf_pruneNode hcall "plan").mpr
      (.inr ⟨by decide, .inr ⟨hplan, by decide⟩⟩)) (by decide)
  · exact absurd ((stateOf_pruneNode hcall "archive").mpr
      (.inr ⟨by decide, .inr ⟨harchive, by decide⟩⟩)) (by decide)

end TrajectoryGraph

namespace TrajNode

@[simp] theorem retryCount_settle (outcome : Option (Except String PyValue)) (node : TrajNode) :
    ((settle outcome).set node).retryCount = node.retryCount := by
  rcases outcome with _ | _ | _ <;> rfl

@[simp] theorem maxRetries_settle (outcome : Option (Except String PyValue)) (node : TrajNode) :
    ((settle outcome).set node).maxRetries = node.maxRetries := by
  rcases outcome with _ | _ | _ <;> rfl

theorem state_settle (outcome : Option (Except String PyValue)) (node : TrajNode) :
    ((settle outcome).set node).state =
      if Entry.succeeded outcome = true then .completed else .failed := by
  rcases outcome with _ | _ | _ <;> rfl

end TrajNode

/-! ## Moves -/

namespace Progress

/-- A node is executed or a back-edge is followed. -/
inductive Move (executeFn : Option ExecuteFn) : Progress → Progress → Prop
  | execute {progress : Progress} (node : TrajNode)
      (hnode : progress.graph.getNode node.nodeId = some node)
      (hpending : node.state = .pending)
      (hdone : ∀ dependency ∈ progress.graph.dependencies node.nodeId,
        progress.graph.stateOf dependency = some .completed) :
      Move executeFn progress (progress.execute executeFn node)
  | reset {progress : Progress} (edge : TrajEdge)
      (hleft : progress.graph.retriesLeft edge.target = true) :
      Move executeFn progress
        { graph := progress.graph.write edge.target TrajNode.retry
          log := progress.log ++ [.reset progress.graph edge] }

abbrev Moves (executeFn : Option ExecuteFn) : Progress → Progress → Prop :=
  Relation.ReflTransGen (Move executeFn)

variable {executeFn : Option ExecuteFn} {progress next : Progress}

theorem Moves.invariant {P : Progress → Prop} (h : Moves executeFn progress next)
    (keeps : ∀ {progress next}, P progress → Move executeFn progress next → P next)
    (hinit : P progress) : P next := by
  induction h with
  | refl => exact hinit
  | tail _ hmove ih => exact keeps ih hmove

theorem moves_foldl {α : Type} {act : Progress → α → Progress}
    (hact : ∀ progress item, Moves executeFn progress (act progress item)) (items : List α)
    (progress : Progress) : Moves executeFn progress (items.foldl act progress) := by
  induction items generalizing progress with
  | nil => exact .refl
  | cons item rest ih => exact (hact progress item).trans (ih (act progress item))

theorem moves_followEdge (progress : Progress) (edge : TrajEdge) :
    Moves executeFn progress (progress.followEdge edge) := by
  rw [followEdge]
  split
  · rename_i hfollow
    exact .single (.reset edge hfollow.2.1)
  · exact .refl

theorem moves_backtrack (progress : Progress) (nodeId : String) :
    Moves executeFn progress (progress.backtrack nodeId) := by
  rw [backtrack]
  split
  · exact moves_foldl moves_followEdge _ _
  · exact .refl

/-- The nodes of a list wait for their execution, whichever of them comes first. -/
def AllReady (progress : Progress) (nodes : List TrajNode) : Prop :=
  ∀ node ∈ nodes, progress.graph.getNode node.nodeId = some node ∧ node.state = .pending ∧
    ∀ dependency ∈ progress.graph.dependencies node.nodeId,
      progress.graph.stateOf dependency = some .completed

theorem allReady_getReadyNodes (progress : Progress) :
    progress.AllReady progress.graph.getReadyNodes := by
  intro node hnode
  rw [TrajectoryGraph.getReadyNodes, mem_filter, TrajectoryGraph.isReady, Bool.and_eq_true,
    Bool.and_eq_true, decide_eq_true_eq, all_eq_true] at hnode
  obtain ⟨hrow, ⟨hpending, hdone⟩, -⟩ := hnode
  refine ⟨Table.mem_rows_iff.mp hrow, hpending, fun dependency hdep => ?_⟩
  exact of_decide_eq_true (hdone dependency hdep)

theorem AllReady.execute {node : TrajNode} {rest : List TrajNode}
    (h : progress.AllReady (node :: rest)) (hnew : node.nodeId ∉ rest.map TrajNode.nodeId) :
    (progress.execute executeFn node).AllReady rest := by
  obtain ⟨hnode, hpending, -⟩ := h node mem_cons_self
  intro other hother
  obtain ⟨hlookup, hstate, hdone⟩ := h other (mem_cons_of_mem node hother)
  have hne : other.nodeId ≠ node.nodeId := by
    intro heq
    exact hnew (heq ▸ mem_map_of_mem hother)
  refine ⟨?_, hstate, fun dependency hdep => ?_⟩
  · rw [Progress.execute, TrajectoryGraph.getNode_write, if_neg hne]
    exact hlookup
  · have hcompleted := hdone dependency hdep
    have hdistinct : dependency ≠ node.nodeId := by
      rintro rfl
      rw [TrajectoryGraph.stateOf, hnode, Option.map_some, hpending] at hcompleted
      cases hcompleted
    rw [Progress.execute, TrajectoryGraph.stateOf_write, if_neg hdistinct]
    exact hcompleted

theorem moves_execute {nodes : List TrajNode} (hready : progress.AllReady nodes)
    (hnodup : (nodes.map TrajNode.nodeId).Nodup) :
    Moves executeFn progress (nodes.foldl (execute executeFn) progress) := by
  induction nodes generalizing progress with
  | nil => exact .refl
  | cons node rest ih =>
    rw [map_cons, nodup_cons] at hnodup
    obtain ⟨hnode, hpending, hdone⟩ := hready node mem_cons_self
    exact (Relation.ReflTransGen.single (Move.execute node hnode hpending hdone)).trans
      (ih (hready.execute hnodup.1) hnodup.2)

theorem moves_getReadyNodes (progress : Progress) : Moves executeFn progress
      (progress.graph.getReadyNodes.foldl (execute executeFn) progress) :=
  moves_execute progress.allReady_getReadyNodes
    (progress.graph.nodes.keysNodup.sublist (filter_sublist.map TrajNode.nodeId))

theorem moves_step (progress : Progress) : Moves executeFn progress (progress.step executeFn) :=
  (moves_getReadyNodes progress).trans (moves_foldl moves_backtrack _ _)

theorem moves_loop (steps : Nat) (progress : Progress) :
    Moves executeFn progress (loop executeFn steps progress).1 := by
  induction steps generalizing progress with
  | zero => exact .refl
  | succ steps ih =>
    rw [loop]
    split
    · exact moves_step progress
    · split
      · exact moves_step progress
      · exact (moves_step progress).trans (ih (progress.step executeFn))

/-! ## The two laws of every run -/

theorem executions_append (log more : List Entry) (nodeId : String) :
    executions (log ++ more) nodeId = executions log nodeId + executions more nodeId :=
  countP_append

@[simp] theorem executions_executed (moment : TrajectoryGraph) (other nodeId : String)
    (returned : Bool) : executions [.executed moment other returned] nodeId =
      if other = nodeId then 1 else 0 := by
  rw [executions, countP_singleton, Entry.Executes]
  simp only [decide_eq_true_eq]

@[simp] theorem executions_reset (moment : TrajectoryGraph) (edge : TrajEdge) (nodeId : String) :
    executions [.reset moment edge] nodeId = 0 := rfl

variable {nodeId : String}

theorem Moves.afterDependencies (h : Moves executeFn progress next)
    (hinit : progress.log = []) {moment : TrajectoryGraph} {returned : Bool}
    (hentry : .executed moment nodeId returned ∈ next.log) :
    ∀ dependency ∈ moment.dependencies nodeId, moment.stateOf dependency = some .completed := by
  revert moment nodeId returned
  refine h.invariant (P := fun progress => ∀ {moment nodeId returned},
    .executed moment nodeId returned ∈ progress.log →
      ∀ dependency ∈ moment.dependencies nodeId, moment.stateOf dependency = some .completed) ?_ ?_
  · intro progress next ih hmove moment nodeId returned hentry
    cases hmove with
    | execute _ _ _ hdone =>
      rcases mem_append.mp hentry with hold | hnew
      · exact ih hold
      · cases mem_singleton.mp hnew
        exact hdone
    | reset _ _ =>
      rcases mem_append.mp hentry with hold | hnew
      · exact ih hold
      · cases mem_singleton.mp hnew
  · intro moment nodeId returned hentry
    rw [hinit] at hentry
    cases hentry

def waiting (node : TrajNode) : Nat := if node.state = .pending then 1 else 0

/-- The executions of a node, one it still waits for included, are one more than its
retries at most, and those stay under the bound. -/
def WithinRetries (first : TrajNode) (progress : Progress) : Prop :=
  ∃ node, progress.graph.getNode first.nodeId = some node ∧ node.maxRetries = first.maxRetries ∧
    executions progress.log first.nodeId + waiting node + first.retryCount ≤ 1 + node.retryCount ∧
    node.retryCount ≤ max first.retryCount first.maxRetries

theorem WithinRetries.move {first : TrajNode} (h : progress.WithinRetries first)
    (hmove : Move executeFn progress next) : next.WithinRetries first := by
  obtain ⟨node, hnode, hmax, hcount, hretries⟩ := h
  cases hmove with
  | execute other hother hpending _ =>
    rw [WithinRetries, execute, TrajectoryGraph.getNode_write, executions_append,
      executions_executed]
    by_cases heq : first.nodeId = other.nodeId
    · obtain rfl : node = other := Option.some.inj (hnode.symm.trans (heq ▸ hother))
      refine ⟨(TrajNode.settle (progress.answer executeFn node)).set node,
        by rw [if_pos heq, hother]; rfl, ?_⟩
      rw [TrajNode.maxRetries_settle, TrajNode.retryCount_settle]
      rw [waiting, if_pos hpending] at hcount
      rw [waiting, TrajNode.state_settle, if_pos heq.symm, if_neg (by split <;> simp)]
      exact ⟨hmax, by omega, hretries⟩
    · refine ⟨node, by rw [if_neg heq]; exact hnode, hmax, ?_, hretries⟩
      rw [if_neg (Ne.symm heq)]
      omega
  | reset edge hleft =>
    rw [WithinRetries, TrajectoryGraph.getNode_write, executions_append, executions_reset]
    by_cases heq : first.nodeId = edge.target
    · rw [TrajectoryGraph.retriesLeft, ← heq, hnode, Option.any_some, decide_eq_true_eq] at hleft
      refine ⟨TrajNode.retry.set node, by rw [if_pos heq, ← heq, hnode]; rfl, hmax, ?_, ?_⟩
      · have hwaiting : waiting (TrajNode.retry.set node) = 1 := rfl
        have hretry : (TrajNode.retry.set node).retryCount = node.retryCount + 1 := rfl
        omega
      · have hretry : (TrajNode.retry.set node).retryCount = node.retryCount + 1 := rfl
        omega
    · exact ⟨node, by rw [if_neg heq]; exact hnode, hmax, by omega, hretries⟩

theorem Moves.boundedRetries (h : Moves executeFn progress next) (hinit : progress.log = [])
    {node : TrajNode} (hnode : progress.graph.getNode node.nodeId = some node) :
    executions next.log node.nodeId ≤ 1 + node.maxRetries := by
  have hfirst : progress.WithinRetries node := by
    refine ⟨node, hnode, rfl, ?_, le_max_left _ _⟩
    rw [hinit, waiting]
    have hnone : executions [] node.nodeId = 0 := rfl
    split <;> omega
  obtain ⟨last, -, -, hcount, hretries⟩ := h.invariant (fun h => h.move) hfirst
  omega

/-! ## The two laws of the safe runs -/

def SafeLog (log : List Entry) : Prop := ∀ entry ∈ log, entry.Safe

theorem SafeLog.init {log : List Entry} {entry : Entry} (h : SafeLog (log ++ [entry])) :
    SafeLog log := fun other hother => h other (mem_append_left _ hother)

theorem SafeLog.last {log : List Entry} {entry : Entry} (h : SafeLog (log ++ [entry])) :
    entry.Safe := h entry (mem_append_right _ (mem_singleton_self entry))

theorem Moves.notPruned (h : Moves executeFn progress next) (hinit : progress.log = [])
    (hsafe : SafeLog next.log) (hskipped : progress.graph.stateOf nodeId = some .skipped) :
    executions next.log nodeId = 0 := by
  have hinv := h.invariant (P := fun progress => SafeLog progress.log →
    progress.graph.stateOf nodeId = some .skipped ∧ executions progress.log nodeId = 0) ?_ ?_
  · exact (hinv hsafe).2
  · intro progress next ih hmove hsafe
    cases hmove with
    | execute node hnode hpending _ =>
      obtain ⟨hstate, hnone⟩ := ih hsafe.init
      have hne : nodeId ≠ node.nodeId := by
        rintro rfl
        rw [TrajectoryGraph.stateOf, hnode, Option.map_some, hpending] at hstate
        cases hstate
      rw [execute, TrajectoryGraph.stateOf_write, if_neg hne, executions_append,
        executions_executed, if_neg (Ne.symm hne), hnone]
      exact ⟨hstate, rfl⟩
    | reset edge _ =>
      obtain ⟨hstate, hnone⟩ := ih hsafe.init
      have hne : nodeId ≠ edge.target := by
        rintro rfl
        exact hsafe.last hstate
      rw [TrajectoryGraph.stateOf_write, if_neg hne, executions_append, executions_reset, hnone]
      exact ⟨hstate, rfl⟩
  · intro _
    rw [hinit]
    exact ⟨hskipped, rfl⟩

/-- A node that failed with a back-edge to follow and was not executed since. -/
def Owed (log : List Entry) (nodeId : String) : Prop :=
  ∃ before moment after, log = before ++ .executed moment nodeId false :: after ∧
    executions after nodeId = 0 ∧
    ∃ edge ∈ moment.getOutgoing nodeId, edge.Unconditional ∧ moment.retriesLeft edge.target = true

theorem Owed.of_append {log : List Entry} {entry : Entry}
    (h : Owed (log ++ [entry]) nodeId) : (Owed log nodeId ∧ executions [entry] nodeId = 0) ∨
      ∃ moment, entry = .executed moment nodeId false ∧
        ∃ edge ∈ moment.getOutgoing nodeId, edge.Unconditional ∧
          moment.retriesLeft edge.target = true := by
  obtain ⟨before, moment, after, hlog, hnone, hedge⟩ := h
  rcases eq_nil_or_concat after with rfl | ⟨rest, last, rfl⟩
  · obtain ⟨-, hentry⟩ := append_inj' hlog rfl
    exact .inr ⟨moment, singleton_inj.mp hentry, hedge⟩
  · rw [concat_eq_append] at hlog hnone
    rw [← cons_append, ← append_assoc] at hlog
    obtain ⟨hlog, hentry⟩ := append_inj' hlog rfl
    rw [executions_append, ← hentry] at hnone
    exact .inl ⟨⟨before, moment, rest, hlog, by omega, hedge⟩, by omega⟩

/-- The node is reset already, or its own back-edge resets it when it is visited. -/
def Due (graph : TrajectoryGraph) (nodeId : String) : Prop :=
  graph.stateOf nodeId = some .pending ∨
    (graph.stateOf nodeId = some .failed ∧ graph.retriesLeft nodeId = true ∧
      ∃ edge ∈ graph.getOutgoing nodeId, edge.Unconditional ∧ edge.target = nodeId)

def OwedAreDue (progress : Progress) : Prop :=
  SafeLog progress.log → ∀ nodeId, Owed progress.log nodeId →
    progress.graph.Awaited nodeId ∧ Due progress.graph nodeId

variable {graph : TrajectoryGraph}

theorem Due.ne_completed (h : Due graph nodeId) : graph.stateOf nodeId ≠ some .completed := by
  rcases h with hstate | ⟨hstate, -⟩ <;> rw [hstate] <;> simp

/-- What awaits a node that has not completed is not ready, and goes on awaiting it. -/
theorem awaited_write {other : String} {row : Assignment TrajNode.nodeId} (h : graph.Awaited nodeId)
    (hopen : graph.stateOf nodeId ≠ some .completed)
    (hrow : (∀ dependency ∈ graph.dependencies other, graph.stateOf dependency = some .completed) ∨
      ∀ node, (row.set node).state = .pending) : (graph.write other row).Awaited nodeId := by
  obtain ⟨terminal, hover, hpath⟩ := h
  refine ⟨terminal, hover, ?_⟩
  clear hover
  suffices hboth : Relation.ReflTransGen (graph.write other row).Awaits nodeId terminal ∧
      graph.stateOf terminal ≠ some .completed from hboth.1
  induction hpath with
  | refl => exact ⟨.refl, hopen⟩
  | @tail source target _ hawaits ih =>
    obtain ⟨hwaits, hstate⟩ := hawaits
    refine ⟨ih.1.tail ⟨hwaits, ?_⟩, fun hcompleted => ?_⟩
    · rw [TrajectoryGraph.stateOf_write]
      split
      · rename_i heq
        rcases hrow with hdone | hpending
        · exact absurd (hdone source (heq ▸ hwaits)) ih.2
        · rw [TrajectoryGraph.stateOf, heq] at hstate
          cases hnode : graph.getNode other with
          | none => simp [hnode] at hstate
          | some node => simp [hpending node, NodeState.isDone]
      · exact hstate
    · rw [hcompleted] at hstate
      cases hstate

theorem Due.retry {nodeId target : String} (h : Due graph nodeId) :
    Due (graph.write target TrajNode.retry) nodeId := by
  by_cases heq : nodeId = target
  · subst heq
    refine .inl ?_
    rw [TrajectoryGraph.stateOf_write, if_pos rfl]
    have hnode : ∃ node, graph.getNode nodeId = some node := by
      rcases h with h | ⟨h, -⟩
      · obtain ⟨node, hnode, -⟩ := Option.map_eq_some_iff.mp h
        exact ⟨node, hnode⟩
      · obtain ⟨node, hnode, -⟩ := Option.map_eq_some_iff.mp h
        exact ⟨node, hnode⟩
    obtain ⟨node, hnode⟩ := hnode
    rw [hnode]
    rfl
  · rw [Due, TrajectoryGraph.stateOf_write, TrajectoryGraph.retriesLeft_write, if_neg heq,
      if_neg heq]
    exact h

theorem OwedAreDue.move (h : progress.OwedAreDue) (hmove : Move executeFn progress next) :
    next.OwedAreDue := by
  intro hsafe nodeId howed
  cases hmove with
  | execute node hnode hpending hdone =>
    rcases howed.of_append with ⟨howed, hother⟩ | ⟨moment, hentry, edge, hedge, hback, hleft⟩
    · have hne : nodeId ≠ node.nodeId := by
        rintro rfl
        rw [executions_executed, if_pos rfl] at hother
        cases hother
      obtain ⟨hawaited, hdue⟩ := h hsafe.init nodeId howed
      refine ⟨awaited_write hawaited hdue.ne_completed (.inl hdone), ?_⟩
      rw [execute, Due, TrajectoryGraph.stateOf_write, TrajectoryGraph.retriesLeft_write,
        if_neg hne, if_neg hne]
      exact hdue
    · have hsafeEntry := hsafe.last
      rw [hentry] at hsafeEntry
      injection hentry with hmoment hid hreturned
      subst hmoment hid
      obtain ⟨htarget, hawaited⟩ :=
        (hsafeEntry.resolve_left Bool.false_ne_true) edge hedge hback hleft
      have hopen : progress.graph.stateOf node.nodeId ≠ some .completed := by
        rw [TrajectoryGraph.stateOf, hnode, Option.map_some, hpending]
        simp
      refine ⟨awaited_write hawaited hopen (.inl hdone), .inr ⟨?_, ?_, edge, hedge, hback, htarget⟩⟩
      · rw [execute, TrajectoryGraph.stateOf_write, if_pos rfl, hnode, Option.map_some,
          TrajNode.state_settle, hreturned]
        rfl
      · rw [execute, TrajectoryGraph.retriesLeft_write, if_pos rfl, hnode, Option.any_some,
          TrajNode.retryCount_settle, TrajNode.maxRetries_settle]
        rw [htarget, TrajectoryGraph.retriesLeft, hnode, Option.any_some] at hleft
        exact hleft
  | reset edge _ =>
    rcases howed.of_append with ⟨howed, -⟩ | ⟨moment, hentry, -⟩
    · obtain ⟨hawaited, hdue⟩ := h hsafe.init nodeId howed
      exact ⟨awaited_write hawaited hdue.ne_completed (.inr fun _ => rfl), hdue.retry⟩
    · cases hentry

/-! ## The end of a superstep -/

theorem Moves.getOutgoing (h : Moves executeFn progress next) (nodeId : String) :
    next.graph.getOutgoing nodeId = progress.graph.getOutgoing nodeId := by
  refine h.invariant (P := fun next =>
    next.graph.getOutgoing nodeId = progress.graph.getOutgoing nodeId) ?_ rfl
  intro before after ih hmove
  cases hmove with
  | execute _ _ _ _ => exact ih
  | reset _ _ => exact ih

theorem Due.followEdge (h : Due progress.graph nodeId) (edge : TrajEdge) :
    Due (progress.followEdge edge).graph nodeId := by
  rw [Progress.followEdge]
  split
  · exact h.retry
  · exact h

theorem pending_followEdge (h : progress.graph.stateOf nodeId = some .pending) (edge : TrajEdge) :
    (progress.followEdge edge).graph.stateOf nodeId = some .pending := by
  rw [Progress.followEdge]
  split
  · rw [TrajectoryGraph.stateOf_write]
    split
    · rename_i heq
      obtain ⟨node, hnode, -⟩ := Option.map_eq_some_iff.mp h
      rw [← heq, hnode]
      rfl
    · exact h
  · exact h

theorem pending_foldl {α : Type} {act : Progress → α → Progress}
    (hact : ∀ progress item, progress.graph.stateOf nodeId = some .pending →
      (act progress item).graph.stateOf nodeId = some .pending) (items : List α)
    (h : progress.graph.stateOf nodeId = some .pending) :
    (items.foldl act progress).graph.stateOf nodeId = some .pending := by
  induction items generalizing progress with
  | nil => exact h
  | cons item rest ih => exact ih (hact progress item h)

theorem pending_backtrack {nodeId visited : String}
    (h : progress.graph.stateOf nodeId = some .pending) :
    (progress.backtrack visited).graph.stateOf nodeId = some .pending := by
  rw [backtrack]
  split
  · exact pending_foldl (fun _ edge h => pending_followEdge h edge) _ h
  · exact h

theorem pending_or_unchanged_followEdge (progress : Progress) (edge : TrajEdge) (nodeId : String) :
    (progress.followEdge edge).graph.stateOf nodeId = some .pending ∨
      (progress.followEdge edge).graph.getNode nodeId = progress.graph.getNode nodeId := by
  rw [followEdge]
  split
  · rw [TrajectoryGraph.stateOf_write, TrajectoryGraph.getNode_write]
    by_cases heq : nodeId = edge.target
    · rw [if_pos heq, if_pos heq, heq]
      cases progress.graph.getNode edge.target with
      | none => exact .inr rfl
      | some node => exact .inl rfl
    · rw [if_neg heq, if_neg heq]
      exact .inr rfl
  · exact .inr rfl

theorem pending_or_unchanged_foldl {α : Type} {act : Progress → α → Progress}
    (hact : ∀ progress item, (act progress item).graph.stateOf nodeId = some .pending ∨
      (act progress item).graph.getNode nodeId = progress.graph.getNode nodeId)
    (items : List α) (progress : Progress) :
    (items.foldl act progress).graph.stateOf nodeId = some .pending ∨
      (items.foldl act progress).graph.getNode nodeId = progress.graph.getNode nodeId := by
  induction items generalizing progress with
  | nil => exact .inr rfl
  | cons item rest ih =>
    rw [foldl_cons]
    rcases ih (act progress item) with hpending | hsame
    · exact .inl hpending
    · rcases hact progress item with hpending | hfirst
      · rw [TrajectoryGraph.stateOf, hsame]
        exact .inl hpending
      · exact .inr (hsame.trans hfirst)

theorem pending_or_unchanged_backtrack (progress : Progress) (visited nodeId : String) :
    (progress.backtrack visited).graph.stateOf nodeId = some .pending ∨
      (progress.backtrack visited).graph.getNode nodeId = progress.graph.getNode nodeId := by
  rw [backtrack]
  split
  · exact pending_or_unchanged_foldl
      (fun progress edge => pending_or_unchanged_followEdge progress edge nodeId) _ _
  · exact .inr rfl

theorem Due.pending_edges {edges : List TrajEdge} (h : Due progress.graph nodeId)
    (hself : ∃ edge ∈ edges, edge.Unconditional ∧ edge.target = nodeId) :
    (edges.foldl Progress.followEdge progress).graph.stateOf nodeId = some .pending := by
  induction edges generalizing progress with
  | nil =>
    obtain ⟨edge, hedge, -⟩ := hself
    cases hedge
  | cons edge rest ih =>
    rw [foldl_cons]
    obtain ⟨self, hmem, hback, htarget⟩ := hself
    rcases mem_cons.mp hmem with rfl | hrest
    · refine pending_foldl (fun _ edge h => pending_followEdge h edge) _ ?_
      rcases h with hpending | ⟨hfailed, hleft, -⟩
      · exact pending_followEdge hpending self
      · have hholds : progress.graph.holds self = true := by
          rw [TrajectoryGraph.holds, Option.isNone_iff_eq_none.mp hback.2]
        rw [Progress.followEdge, if_pos ⟨hback.1, htarget ▸ hleft, hholds⟩,
          TrajectoryGraph.stateOf_write, if_pos htarget.symm, htarget]
        obtain ⟨node, hnode, -⟩ := Option.map_eq_some_iff.mp hfailed
        rw [hnode]
        rfl
    · exact ih (h.followEdge edge) ⟨self, hrest, hback, htarget⟩

theorem Due.backtrack (h : Due progress.graph nodeId) (visited : String) :
    Due (progress.backtrack visited).graph nodeId := by
  have hedges : ∀ (edges : List TrajEdge) {progress : Progress}, Due progress.graph nodeId →
      Due (edges.foldl Progress.followEdge progress).graph nodeId := by
    intro edges
    induction edges with
    | nil => exact fun h => h
    | cons edge rest ih => exact fun h => ih (h.followEdge edge)
  rw [Progress.backtrack]
  split
  · exact hedges _ h
  · exact h

theorem Due.pending_backtrack {visited : List String}
    (h : Due progress.graph nodeId) (hvisited : nodeId ∈ visited) :
    (visited.foldl Progress.backtrack progress).graph.stateOf nodeId = some .pending := by
  induction visited generalizing progress with
  | nil => cases hvisited
  | cons first rest ih =>
    rw [foldl_cons]
    rcases mem_cons.mp hvisited with rfl | hrest
    · refine pending_foldl (fun _ _ h => Progress.pending_backtrack h) _ ?_
      rcases h with hpending | ⟨hfailed, hleft, hself⟩
      · exact Progress.pending_backtrack hpending
      · rw [Progress.backtrack, if_pos hfailed]
        exact Due.pending_edges (.inr ⟨hfailed, hleft, hself⟩) hself
    · exact ih (h.backtrack first) hrest

def OwedArePending (progress : Progress) : Prop :=
  SafeLog progress.log → ∀ nodeId, Owed progress.log nodeId →
    progress.graph.Awaited nodeId ∧ progress.graph.stateOf nodeId = some .pending

theorem OwedArePending.due (h : progress.OwedArePending) : progress.OwedAreDue := by
  intro hsafe nodeId howed
  obtain ⟨hawaited, hpending⟩ := h hsafe nodeId howed
  exact ⟨hawaited, .inl hpending⟩

theorem OwedAreDue.moves (h : progress.OwedAreDue) (hmoves : Moves executeFn progress next) :
    next.OwedAreDue :=
  hmoves.invariant (fun h => h.move) h

theorem OwedArePending.step (h : progress.OwedArePending) :
    (progress.step executeFn).OwedArePending := by
  intro hsafe nodeId howed
  obtain ⟨hawaited, hdue⟩ := h.due.moves (moves_step progress) hsafe nodeId howed
  refine ⟨hawaited, ?_⟩
  rw [Progress.step] at hdue ⊢
  generalize progress.graph.getReadyNodes.foldl (execute executeFn) progress = executed at hdue ⊢
  have hbacktracked : Moves executeFn executed (executed.graph.nodeIds.foldl backtrack executed) :=
    moves_foldl moves_backtrack _ _
  rcases hdue with hpending | ⟨hfailed, hleft, hself⟩
  · exact hpending
  · rcases pending_or_unchanged_foldl
      (fun progress visited => pending_or_unchanged_backtrack progress visited nodeId)
      executed.graph.nodeIds executed with hpending | hsame
    · exact hpending
    · rw [TrajectoryGraph.stateOf, hsame] at hfailed
      rw [TrajectoryGraph.retriesLeft, hsame] at hleft
      rw [hbacktracked.getOutgoing] at hself
      obtain ⟨node, hnode, -⟩ := Option.map_eq_some_iff.mp hfailed
      exact Due.pending_backtrack (.inr ⟨hfailed, hleft, hself⟩)
        (executed.graph.mem_nodeIds_iff.mpr ⟨node, hnode⟩)

theorem OwedArePending.loop (h : progress.OwedArePending) (steps : Nat) :
    (Progress.loop executeFn steps progress).1.OwedArePending := by
  induction steps generalizing progress with
  | zero => exact h
  | succ steps ih =>
    rw [Progress.loop]
    split
    · exact h.step
    · split
      · exact h.step
      · exact ih h.step

/-! ## Whole runs -/

theorem allDone_of_finished (h : graph.finished = true) :
    graph.allDone graph.terminalNodes = true := by
  rw [TrajectoryGraph.finished] at h
  split at h
  · rename_i hnone
    rw [hnone]
    rfl
  · exact h

theorem allDone_of_loop {steps : Nat} (h : (loop executeFn steps progress).2 = true) :
    (loop executeFn steps progress).1.graph.allDone
      (loop executeFn steps progress).1.graph.terminalNodes = true := by
  induction steps generalizing progress with
  | zero => exact allDone_of_finished h
  | succ steps ih =>
    rw [loop] at h ⊢
    split at h
    · rename_i hnone
      rw [if_pos hnone]
      exact allDone_of_finished h
    · rename_i hsome
      rw [if_neg hsome]
      split at h
      · rename_i hdone
        rw [if_pos hdone]
        exact hdone.2
      · rename_i hmore
        rw [if_neg hmore]
        exact ih h

theorem executions_pos_of_finished (hpending : progress.OwedArePending)
    (hsafe : SafeLog progress.log)
    (hdone : progress.graph.allDone progress.graph.terminalNodes = true)
    {before after : List Entry} {moment : TrajectoryGraph} {edge : TrajEdge}
    (hlog : progress.log = before ++ .executed moment nodeId false :: after)
    (hedge : edge ∈ moment.getOutgoing nodeId) (hback : edge.Unconditional)
    (hleft : moment.retriesLeft edge.target = true) : 0 < executions after nodeId := by
  rw [Nat.pos_iff_ne_zero]
  intro hnone
  obtain ⟨⟨terminal, hover, hpath⟩, hstate⟩ := hpending hsafe nodeId
    ⟨before, moment, after, hlog, hnone, edge, hedge, hback, hleft⟩
  have hnode := all_eq_true.mp hdone terminal hover
  rcases Relation.ReflTransGen.cases_tail hpath with rfl | ⟨_, -, -, hopen⟩
  · rw [hstate] at hnode
    cases hnode
  · exact Bool.false_ne_true (hopen.symm.trans hnode)

theorem reexecuted_of_pos {after : List Entry}
    (h : 0 < executions after nodeId) : Reexecuted nodeId nodeId after := by
  obtain ⟨entry, hmem, hentry⟩ := countP_pos_iff.mp h
  obtain ⟨between, rest, hsplit⟩ := append_of_mem hmem
  cases entry with
  | executed moment other returned =>
    obtain rfl : other = nodeId := of_decide_eq_true hentry
    exact ⟨between, moment, returned, rest, hsplit, fun _ => .inl rfl⟩
  | reset moment edge => cases hentry

end Progress

namespace TrajectoryGraph

open Progress

/-- A run whose back-edges lead to no pruned node, and in which a node that fails has
no unconditional back-edge to follow but one to itself, with the end of the graph awaiting
it, obeys the law of supersteps. -/
theorem superstepLaw_of_safe (graph : TrajectoryGraph) (executeFn : Option ExecuteFn)
    (maxSteps : Nat) (hsafe : SafeLog (graph.runToCompletion executeFn maxSteps).1.log) :
    SuperstepLaw graph (graph.runToCompletion executeFn maxSteps) := by
  have hmoves : Moves executeFn { graph := graph, log := [] }
      (graph.runToCompletion executeFn maxSteps).1 := moves_loop maxSteps _
  have hpending : (graph.runToCompletion executeFn maxSteps).1.OwedArePending := by
    refine OwedArePending.loop ?_ maxSteps
    intro _ nodeId howed
    obtain ⟨before, moment, after, hlog, -⟩ := howed
    cases before <;> cases hlog
  constructor
  · intro moment nodeId returned hentry
    exact hmoves.afterDependencies rfl hentry
  · intro nodeId node hnode
    obtain rfl := Table.key_of_lookup hnode
    exact hmoves.boundedRetries rfl hnode
  · intro nodeId hskipped
    exact hmoves.notPruned rfl hsafe hskipped
  · intro hreturned before moment nodeId after hlog edge hedge hback hleft
    have hentry : Entry.Safe (.executed moment nodeId false) :=
      hsafe _ (hlog ▸ mem_append_right _ mem_cons_self)
    obtain ⟨htarget, -⟩ := (hentry.resolve_left Bool.false_ne_true) edge hedge hback hleft
    rw [htarget]
    exact reexecuted_of_pos (executions_pos_of_finished hpending hsafe
      (allDone_of_loop hreturned) hlog hedge hback hleft)

/-- A draft that is retried, a review that waits for it and one that was pruned. -/
def retriedDraft : TrajectoryGraph :=
  exec step (new "default")
    [.addNode { nodeId := "draft" }, .addNode { nodeId := "review" },
      .addNode { nodeId := "old", state := .skipped },
      .addEdge { source := "draft", target := "review" },
      .addEdge { source := "draft", target := "draft", edgeType := .backtrack }]

def raisesOnce : ExecuteFn := fun call _ => if call = 0 then .error "rejected" else .ok .none

/-- The draft is executed twice and then reviewed. -/
theorem superstepLaw_retriedDraft : executions
      (retriedDraft.runToCompletion (some raisesOnce)).1.log "draft" = 2 ∧
    SuperstepLaw retriedDraft (retriedDraft.runToCompletion (some raisesOnce)) := by
  refine ⟨by decide, superstepLaw_of_safe retriedDraft (some raisesOnce) 100 fun entry hentry => ?_⟩
  have hlog : (retriedDraft.runToCompletion (some raisesOnce)).1.log =
      [.executed retriedDraft "draft" false, .reset _ _, .executed _ "draft" true,
        .executed _ "review" true] := rfl
  rw [hlog] at hentry
  simp only [mem_cons, not_mem_nil, or_false] at hentry
  rcases hentry with rfl | rfl | rfl | rfl
  · have hawaits : retriedDraft.Awaits "draft" "review" := by
      unfold TrajectoryGraph.Awaits
      decide
    refine .inr fun edge hedge hback _ => ⟨?_, "review", by decide, .single hawaits⟩
    revert hback
    revert edge
    decide
  · intro hskipped
    cases hskipped
  · exact .inl rfl
  · exact .inl rfl

/-- A draft, a review of it and the way back from the review. -/
def draftAndReview : TrajectoryGraph :=
  exec step (new "default")
    [.addNode { nodeId := "draft" }, .addNode { nodeId := "review" },
      .addEdge { source := "draft", target := "review" },
      .addEdge { source := "review", target := "draft", edgeType := .backtrack }]

def reviewRaises : ExecuteFn := fun _ node =>
  if node.nodeId = "review" then .error "rejected" else .ok .none

/-- The review fails, the draft is reset, and the run returns True at once: the review
ends the graph, and FAILED counts as done. -/
theorem not_superstepLaw_draftAndReview :
    ¬ ∀ (graph : TrajectoryGraph) (executeFn : Option ExecuteFn) (maxSteps : Nat),
      SuperstepLaw graph (graph.runToCompletion executeFn maxSteps) := by
  intro h
  have hlaw := h draftAndReview (some reviewRaises) 100
  have hsplit : ∃ before moment after, (draftAndReview.runToCompletion (some reviewRaises)).1.log =
        before ++ .executed moment "review" false :: after ∧
      executions after "draft" = 0 ∧
      ∃ edge ∈ moment.getOutgoing "review", edge.Unconditional ∧
        moment.retriesLeft edge.target = true ∧ edge.target = "draft" :=
    ⟨[_], _, [_], rfl, rfl, { source := "review", target := "draft", edgeType := .backtrack },
      mem_cons_self, ⟨rfl, rfl⟩, rfl, rfl⟩
  obtain ⟨before, moment, after, hlog, hnone, edge, hedge, hback, hleft, htarget⟩ := hsplit
  obtain ⟨between, later, returned, rest, hafter, -⟩ :=
    hlaw.reexecuted (by decide) before moment "review" after hlog edge hedge hback hleft
  rw [hafter, executions_append, htarget] at hnone
  simp [executions, Entry.Executes] at hnone

end TrajectoryGraph

end HiAgent.Trajectory
