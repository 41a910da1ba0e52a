/-
  TaskDecomposition/Dag.lean --- the task graph of `hi_agent/task_decomposition/dag.py`.

  Nodes in the order in which they were added, each with the ids it depends on, and the edges
  once more as a map, which only the cycle check reads.
-/
import HiAgent.Foundation.Dict
import HiAgent.Foundation.PyValue

namespace HiAgent.TaskDecomposition

open Foundation

inductive TaskNodeState where
  | pending | ready | running | completed | failed | rolledBack | skipped
  deriving DecidableEq

def TaskNodeState.value : TaskNodeState → String
  | pending => "pending"
  | ready => "ready"
  | running => "running"
  | completed => "completed"
  | failed => "failed"
  | rolledBack => "rolled_back"
  | skipped => "skipped"

/-- The values of `rollback_policy`; a text that the executor does not know is `other`. -/
inductive RollbackPolicy where
  | none | compensate | cascade
  | other (name : String)
  deriving DecidableEq

structure TaskNode where
  nodeId : String
  rollbackPolicy : RollbackPolicy := .compensate
  state : TaskNodeState := .pending
  dependencies : List String := []
  dependents : List String := []
  result : Option PyDict := Option.none
  failureReason : Option String := Option.none

namespace TaskNode

/-- `node.state = state`. -/
def toState (state : TaskNodeState) : Assignment nodeId where
  set node := { node with state }
  keeps _ := rfl

/-- What `mark_completed` writes. -/
def toCompleted (result : PyDict) : Assignment nodeId where
  set node := { node with state := .completed, result := some result }
  keeps _ := rfl

/-- What `mark_failed` writes. -/
def toFailed (reason : String) : Assignment nodeId where
  set node := { node with state := .failed, failureReason := some reason }
  keeps _ := rfl

/-- `if to_id not in dependents: dependents.append(to_id)`. -/
def addDependent (toId : String) : Assignment nodeId where
  set node := { node with
    dependents := if toId ∈ node.dependents then node.dependents else node.dependents ++ [toId] }
  keeps _ := rfl

/-- `if from_id not in dependencies: dependencies.append(from_id)`. -/
def addDependency (fromId : String) : Assignment nodeId where
  set node := { node with
    dependencies :=
      if fromId ∈ node.dependencies then node.dependencies else node.dependencies ++ [fromId] }
  keeps _ := rfl

end TaskNode

/-- What the methods of a `TaskDAG` raise. -/
inductive DagError where
  | keyError (message : String)
  | valueError (message : String)

/-- `str(exc)`; a `KeyError` prints its argument in quotes. -/
def DagError.text : DagError → String
  | keyError message => "\"" ++ message ++ "\""
  | valueError message => message

structure TaskDag where
  nodes : Table TaskNode.nodeId
  edges : Dict String (List String)

/-! ## Cycles -/

/-- The colors of the depth-first search. -/
inductive Color where
  | white | gray | black

/-- The loop over the targets of a node; `descend` is the search at a white one. -/
def visit (descend : String → Dict String Color → Bool × Dict String Color) :
    List String → Dict String Color → Bool × Dict String Color
  | [], color => (false, color)
  | target :: rest, color =>
    match color.get? target with
    | some .gray => (true, color)
    | some .white =>
      match descend target color with
      | (true, color) => (true, color)
      | (false, color) => visit descend rest color
    | _ => visit descend rest color

/-- `_dfs`. The nodes on the way down are gray, so no way is longer than the fuel when there
is one for each node. -/
def dfs (edges : Dict String (List String)) :
    Nat → String → Dict String Color → Bool × Dict String Color
  | 0, _, color => (false, color)
  | fuel + 1, nid, color =>
    match visit (dfs edges fuel) (edges.getD nid []) (color.set nid .gray) with
    | (true, color) => (true, color)
    | (false, color) => (false, color.set nid .black)

namespace TaskDag

variable (dag : TaskDag)

def empty : TaskDag := ⟨.empty, .empty⟩

def nodeIds : List String := dag.nodes.rows.map TaskNode.nodeId

def hasCycle : Bool :=
  let color := dag.nodeIds.foldl (fun color nid => color.set nid .white)
    (Dict.empty : Dict String Color)
  (visit (dfs dag.edges dag.nodeIds.length) dag.nodeIds color).1

/-! ## Building -/

def addNode (node : TaskNode) : Except DagError TaskDag :=
  if (dag.nodes.lookup node.nodeId).isSome then
    .error (.valueError ("Node '" ++ node.nodeId ++ "' already exists in DAG"))
  else
    .ok ⟨dag.nodes.insertOrReplace node,
      if (dag.edges.get? node.nodeId).isSome then dag.edges else dag.edges.set node.nodeId []⟩

/-- `_nodes[node_id]` is written. -/
def write (nodeId : String) (f : Assignment TaskNode.nodeId) : TaskDag :=
  { dag with nodes := dag.nodes.updateAt nodeId (fun _ => true) f }

def addEdge (fromId toId : String) : Except DagError TaskDag :=
  if (dag.nodes.lookup fromId).isNone then
    .error (.valueError ("Source node '" ++ fromId ++ "' not in DAG"))
  else if (dag.nodes.lookup toId).isNone then
    .error (.valueError ("Target node '" ++ toId ++ "' not in DAG"))
  else
    let targets := dag.edges.getD fromId []
    let added := if toId ∈ targets then targets else targets ++ [toId]
    let tentative : TaskDag := { dag with edges := dag.edges.set fromId added }
    if tentative.hasCycle then
      .error (.valueError ("Edge '" ++ fromId ++ "' -> '" ++ toId ++ "' would create a cycle"))
    else
      .ok ((tentative.write fromId (TaskNode.addDependent toId)).write toId
        (TaskNode.addDependency fromId))

/-- A call that builds a graph. -/
inductive BuildCall where
  | addNode (nodeId : String) (rollbackPolicy : RollbackPolicy)
  | addEdge (fromId toId : String)

/-- One such call; one that raises leaves the graph as it is. -/
def build (call : BuildCall) : TaskDag :=
  let result :=
    match call with
    | .addNode nodeId rollbackPolicy => dag.addNode { nodeId, rollbackPolicy }
    | .addEdge fromId toId => dag.addEdge fromId toId
  match result with
  | .ok built => built
  | .error _ => dag

/-! ## Nodes and their states -/

def getNode (nodeId : String) : Except DagError TaskNode :=
  match dag.nodes.lookup nodeId with
  | some node => .ok node
  | none => .error (.keyError ("Node '" ++ nodeId ++ "' not found in DAG"))

def stateOf (nodeId : String) : Option TaskNodeState := (dag.nodes.lookup nodeId).map TaskNode.state

/-- Whether all dependencies of a node are `COMPLETED`. -/
def allDepsDone (node : TaskNode) : Bool :=
  node.dependencies.all fun depId => dag.stateOf depId == some .completed

def getReadyNodes : List TaskNode :=
  dag.nodes.rows.filter fun node => node.state == .pending && dag.allDepsDone node

/-- A node is marked, from one of the given states. -/
def mark (nodeId goal : String) (allowed : List TaskNodeState) (f : Assignment TaskNode.nodeId) :
    Except DagError TaskDag :=
  (dag.getNode nodeId).bind fun node =>
    if node.state ∈ allowed then .ok (dag.write nodeId f)
    else .error (.valueError ("Cannot mark '" ++ nodeId ++ "' as " ++ goal ++ " from state " ++
      node.state.value))

def markRunning (nodeId : String) : Except DagError TaskDag :=
  dag.mark nodeId "running" [.pending, .ready] (TaskNode.toState .running)

def markCompleted (nodeId : String) (result : PyDict) : Except DagError TaskDag :=
  dag.mark nodeId "completed" [.running] (TaskNode.toCompleted result)

def markFailed (nodeId reason : String) : Except DagError TaskDag :=
  dag.mark nodeId "failed" [.running] (TaskNode.toFailed reason)

def isComplete : Bool :=
  dag.nodes.rows.all fun node => decide (node.state = .completed ∨ node.state = .skipped)

def isFailed : Bool := dag.nodes.rows.any fun node => node.state == .failed

end TaskDag

end HiAgent.TaskDecomposition
