/-
  TaskDecomposition/Executor.lean --- `DAGExecutor` of `hi_agent/task_decomposition/executor.py`.

  The execute function sees the calls made before and the node it is called for; it returns or
  raises, and does not touch the graph.
-/
import HiAgent.TaskDecomposition.Dag
import Mathlib.Logic.Relation

namespace HiAgent.TaskDecomposition

open Foundation List

/-- `execute_fn`: what it returns, or the text of what it raises, after the calls for the
given nodes. -/
abbrev ExecuteFn := List String → String → Except String PyDict

/-- A call of the execute function: the node, and the graph as the call finds it. -/
structure NodeCall where
  node : TaskNode
  dag : TaskDag

/-- `DAGExecutor`, with the calls that it has made. -/
structure DagExecutor where
  dag : TaskDag
  rolledBack : List String
  calls : List NodeCall

structure DagStepResult where
  dispatched : List String := []
  completed : List String := []
  failed : List String := []
  isTerminal : Bool := false

structure DagResult where
  success : Bool
  completedNodes : List String
  failedNodes : List String
  rolledBackNodes : List String
  totalSteps : Nat

/-! ## Rollback -/

namespace TaskDag

def unvisited (dag : TaskDag) (visited : List String) : List String :=
  dag.nodeIds.filter fun nodeId => decide (nodeId ∉ visited)

theorem nodeIds_write (dag : TaskDag) (nodeId : String) (f : Assignment TaskNode.nodeId) :
    (dag.write nodeId f).nodeIds = dag.nodeIds := by
  rw [nodeIds, nodeIds, write, Table.updateAt, Table.update, map_map]
  refine map_congr_left fun node _ => ?_
  rw [Function.comp_apply]
  split
  · exact f.keeps node
  · rfl

/-- A node goes to `ROLLED_BACK` when it is `COMPLETED`. -/
def rollBackNode (dag : TaskDag) (node : TaskNode) : TaskDag :=
  if node.state = .completed then dag.write node.nodeId (TaskNode.toState .rolledBack) else dag

theorem nodeIds_rollBackNode (dag : TaskDag) (node : TaskNode) :
    (dag.rollBackNode node).nodeIds = dag.nodeIds := by
  rw [rollBackNode]
  split
  · exact nodeIds_write ..
  · rfl

def rolledNow (node : TaskNode) : List String :=
  if node.state = .completed then [node.nodeId] else []

/-- `rollback` of direct dependencies. -/
def compensate (dag : TaskDag) (rolledBack : List String) :
    List String → Except DagError (List String × TaskDag)
  | [] => .ok (rolledBack, dag)
  | depId :: rest =>
    match dag.getNode depId with
    | .error error => .error error
    | .ok dep => compensate (dag.rollBackNode dep) (rolledBack ++ rolledNow dep) rest

theorem length_unvisited_lt {dag : TaskDag} {visited : List String} {nodeId : String}
    (hnode : nodeId ∈ dag.nodeIds) (hnew : nodeId ∉ visited) :
    (dag.unvisited (visited ++ [nodeId])).length < (dag.unvisited visited).length := by
  have hsub : dag.unvisited (visited ++ [nodeId]) =
      (dag.unvisited visited).filter fun other => decide (other ≠ nodeId) := by
    rw [unvisited, unvisited, filter_filter]
    refine filter_congr fun other _ => ?_
    simp [not_or, Bool.and_comm]
  rw [hsub]
  refine length_filter_lt_length_iff_exists.mpr ⟨nodeId, ?_, by simp⟩
  exact mem_filter.mpr ⟨hnode, decide_eq_true hnew⟩

/-- The walk of `rollback` over all transitive dependencies. -/
def cascade (dag : TaskDag) (visited rolledBack : List String) :
    List String → Except DagError (List String × TaskDag)
  | [] => .ok (rolledBack, dag)
  | nid :: frontier =>
    if _hseen : nid ∈ visited then cascade dag visited rolledBack frontier
    else
      match _hnode : dag.nodes.lookup nid with
      | none => .error (.keyError ("Node '" ++ nid ++ "' not found in DAG"))
      | some node =>
        cascade (dag.rollBackNode node) (visited ++ [nid]) (rolledBack ++ rolledNow node)
          (frontier ++ node.dependencies)
termination_by frontier => ((dag.unvisited visited).length, frontier.length)
decreasing_by
  · exact Prod.Lex.right _ (Nat.lt_succ_self _)
  · refine Prod.Lex.left _ _ ?_
    rw [unvisited, nodeIds_rollBackNode, ← unvisited]
    obtain ⟨hmem, hid⟩ := Table.lookup_eq_some_iff.mp _hnode
    exact length_unvisited_lt (mem_map.mpr ⟨node, hmem, hid⟩) _hseen

def rollback (dag : TaskDag) (failedNodeId : String) : Except DagError (List String × TaskDag) :=
  (dag.getNode failedNodeId).bind fun failedNode =>
    match failedNode.rollbackPolicy with
    | .none => .ok ([], dag)
    | .compensate => dag.compensate [] failedNode.dependencies
    | _ => dag.cascade [] [] failedNode.dependencies

end TaskDag

/-! ## Steps -/

namespace DagExecutor

variable (execute : ExecuteFn)

def new (dag : TaskDag) : DagExecutor := ⟨dag, [], []⟩

def history (executor : DagExecutor) : List String :=
  executor.calls.map fun call => call.node.nodeId

/-- The `except` branch: the node fails, and what its policy asks for is rolled back. -/
def failNode (executor : DagExecutor) (node : TaskNode) (reason : String) :
    Except DagError DagExecutor :=
  (executor.dag.markFailed node.nodeId reason).bind fun dag =>
    match node.rollbackPolicy with
    | .compensate | .cascade =>
      (dag.rollback node.nodeId).map fun (rolledBack, dag) =>
        { executor with dag, rolledBack := executor.rolledBack ++ rolledBack }
    | _ => .ok { executor with dag }

/-- The body of the loop over the ready nodes; the flag tells whether the node completed. -/
def executeNode (executor : DagExecutor) (node : TaskNode) : Except DagError (Bool × DagExecutor) :=
  (executor.dag.markRunning node.nodeId).bind fun dag =>
    let called : DagExecutor :=
      { executor with dag, calls := executor.calls ++ [⟨node, dag⟩] }
    match execute executor.history node.nodeId with
    | .ok result =>
      match dag.markCompleted node.nodeId result with
      | .ok dag => .ok (true, { called with dag })
      | .error error => (called.failNode node error.text).map fun executor => (false, executor)
    | .error reason => (called.failNode node reason).map fun executor => (false, executor)

/-- The loop over the ready nodes. -/
def executeNodes (executor : DagExecutor) (result : DagStepResult) :
    List TaskNode → Except DagError (DagStepResult × DagExecutor)
  | [] => .ok (result, executor)
  | node :: rest =>
    match executor.executeNode execute node with
    | .error error => .error error
    | .ok (true, executor) =>
      executeNodes executor { result with
        dispatched := result.dispatched ++ [node.nodeId]
        completed := result.completed ++ [node.nodeId] } rest
    | .ok (false, executor) =>
      executeNodes executor { result with
        dispatched := result.dispatched ++ [node.nodeId]
        failed := result.failed ++ [node.nodeId] } rest

def hasRunning (executor : DagExecutor) : Bool :=
  executor.dag.nodes.rows.any fun node => node.state == .running

def step (executor : DagExecutor) : Except DagError (DagStepResult × DagExecutor) :=
  let ready := executor.dag.getReadyNodes
  if ready.isEmpty ∧ executor.hasRunning = false then
    .ok ({ isTerminal := true }, executor)
  else
    (executor.executeNodes execute {} ready).map fun (result, executor) =>
      ({ result with
        isTerminal := executor.dag.isComplete ||
          (executor.dag.isFailed && executor.dag.getReadyNodes.isEmpty) }, executor)

def idsIn (executor : DagExecutor) (state : TaskNodeState) : List String :=
  (executor.dag.nodes.rows.filter fun node => node.state == state).map TaskNode.nodeId

/-- What `run_to_completion` returns at the end. -/
def result (executor : DagExecutor) (totalSteps : Nat) : DagResult where
  success := executor.dag.isComplete
  completedNodes := executor.idsIn .completed
  failedNodes := executor.idsIn .failed
  rolledBackNodes := executor.rolledBack
  totalSteps := totalSteps

/-- `run_to_completion`, for at most so many steps: `none` when they were not enough. -/
def runToCompletion : Nat → Nat → DagExecutor → Option (Except DagError (DagResult × DagExecutor))
  | 0, _, _ => none
  | fuel + 1, totalSteps, executor =>
    match executor.step execute with
    | .error error => some (.error error)
    | .ok (stepResult, executor) =>
      if stepResult.isTerminal then
        some (.ok (executor.result (totalSteps + 1), executor))
      else runToCompletion fuel (totalSteps + 1) executor

end DagExecutor

end HiAgent.TaskDecomposition

namespace HiAgent.TaskDecomposition.TaskDag

open Foundation List

variable {dag dag' between : TaskDag} {node : TaskNode} {k nodeId : String}

/-! ## States -/

theorem lookup_write (dag : TaskDag) (nodeId : String)
    (f : Assignment TaskNode.nodeId) (k : String) :
    (dag.write nodeId f).nodes.lookup k =
      if k = nodeId then (dag.nodes.lookup nodeId).map f.set else dag.nodes.lookup k := by
  rw [write, Table.lookup_updateAt]
  simp only [if_true]

theorem stateOf_of_lookup (h : dag.nodes.lookup k = some node) :
    dag.stateOf k = some node.state := by
  rw [stateOf, h, Option.map_some]

theorem mem_nodeIds_iff : k ∈ dag.nodeIds ↔ ∃ node, dag.nodes.lookup k = some node := by
  rw [nodeIds, mem_map]
  constructor
  · rintro ⟨node, hmem, rfl⟩
    exact ⟨node, Table.mem_rows_iff.mp hmem⟩
  · rintro ⟨node, hnode⟩
    obtain ⟨hmem, hid⟩ := Table.lookup_eq_some_iff.mp hnode
    exact ⟨node, hmem, hid⟩

/-- The nodes of `dag` have their ids, dependencies and policies in `dag'`. -/
structure Keeps (dag dag' : TaskDag) : Prop where
  nodeIds : dag'.nodeIds = dag.nodeIds
  dependencies : ∀ k, (dag'.nodes.lookup k).map TaskNode.dependencies =
    (dag.nodes.lookup k).map TaskNode.dependencies
  rollbackPolicy : ∀ k, (dag'.nodes.lookup k).map TaskNode.rollbackPolicy =
    (dag.nodes.lookup k).map TaskNode.rollbackPolicy

theorem Keeps.refl (dag : TaskDag) : Keeps dag dag := ⟨rfl, fun _ => rfl, fun _ => rfl⟩

theorem Keeps.trans (h : Keeps dag between) (h' : Keeps between dag') : Keeps dag dag' :=
  ⟨h'.nodeIds.trans h.nodeIds, fun k => (h'.dependencies k).trans (h.dependencies k),
    fun k => (h'.rollbackPolicy k).trans (h.rollbackPolicy k)⟩

theorem keeps_write {f : Assignment TaskNode.nodeId}
    (hdeps : ∀ node, (f.set node).dependencies = node.dependencies)
    (hpolicy : ∀ node, (f.set node).rollbackPolicy = node.rollbackPolicy) (nodeId : String) :
    Keeps dag (dag.write nodeId f) := by
  refine ⟨nodeIds_write .., fun k => ?_, fun k => ?_⟩
  · rw [lookup_write]
    split
    · rename_i hk
      rw [hk, Option.map_map]
      exact congrArg (Option.map · _) (funext hdeps)
    · rfl
  · rw [lookup_write]
    split
    · rename_i hk
      rw [hk, Option.map_map]
      exact congrArg (Option.map · _) (funext hpolicy)
    · rfl

def DependsOn (dag : TaskDag) (k d : String) : Prop :=
  ∃ node, dag.nodes.lookup k = some node ∧ d ∈ node.dependencies

def Closed (dag : TaskDag) : Prop := ∀ k d, dag.DependsOn k d → d ∈ dag.nodeIds

section

variable (h : Keeps dag dag')
include h

theorem Keeps.exists_lookup (hnode : dag.nodes.lookup k = some node) :
    ∃ node', dag'.nodes.lookup k = some node' ∧ node'.dependencies = node.dependencies ∧
      node'.rollbackPolicy = node.rollbackPolicy := by
  have hdeps := h.dependencies k
  have hpolicy := h.rollbackPolicy k
  rw [hnode, Option.map_some, Option.map_eq_some_iff] at hdeps hpolicy
  obtain ⟨node', hnode', hsame⟩ := hdeps
  obtain ⟨node'', hnode'', hpolicy⟩ := hpolicy
  obtain rfl := Option.some.inj (hnode'.symm.trans hnode'')
  exact ⟨node', hnode', hsame, hpolicy⟩

theorem Keeps.symm : Keeps dag' dag :=
  ⟨h.nodeIds.symm, fun k => (h.dependencies k).symm, fun k => (h.rollbackPolicy k).symm⟩

theorem Keeps.dependsOn {k d : String} (hdepends : dag.DependsOn k d) : dag'.DependsOn k d := by
  obtain ⟨node, hnode, hd⟩ := hdepends
  obtain ⟨node', hnode', hsame, -⟩ := h.exists_lookup hnode
  exact ⟨node', hnode', hsame ▸ hd⟩

theorem Keeps.dependsOn_eq : dag'.DependsOn = dag.DependsOn :=
  funext fun _ => funext fun _ => propext ⟨h.symm.dependsOn, h.dependsOn⟩

theorem Keeps.closed (hclosed : dag.Closed) : dag'.Closed := by
  intro k d hdepends
  rw [h.nodeIds]
  exact hclosed k d (h.symm.dependsOn hdepends)

end

/-! ## Taking nodes back -/

/-- `dag'` is `dag` with some nodes in `ROLLED_BACK`. -/
structure TakesBack (dag dag' : TaskDag) (ids : List String) : Prop where
  keeps : Keeps dag dag'
  completed : ∀ k ∈ ids, dag.stateOf k = some .completed
  states : ∀ k, dag'.stateOf k = if k ∈ ids then some .rolledBack else dag.stateOf k
  nodup : ids.Nodup

theorem takesBack_nil (dag : TaskDag) : TakesBack dag dag [] :=
  ⟨.refl dag, fun _ h => (not_mem_nil h).elim, fun _ => (if_neg not_mem_nil).symm, nodup_nil⟩

theorem TakesBack.append {first second : List String} (h : TakesBack dag between first)
    (h' : TakesBack between dag' second) : TakesBack dag dag' (first ++ second) := by
  have hapart : ∀ k ∈ second, k ∉ first := by
    intro k hsecond hfirst
    have hstate := h'.completed k hsecond
    rw [h.states, if_pos hfirst] at hstate
    cases hstate
  refine ⟨h.keeps.trans h'.keeps, fun k hk => ?_, fun k => ?_, ?_⟩
  · rcases mem_append.mp hk with hfirst | hsecond
    · exact h.completed k hfirst
    · have hstate := h'.completed k hsecond
      rwa [h.states, if_neg (hapart k hsecond)] at hstate
  · rw [h'.states, h.states]
    by_cases hsecond : k ∈ second
    · simp [hsecond]
    · by_cases hfirst : k ∈ first
      · simp [hsecond, hfirst]
      · simp [hsecond, hfirst]
  · exact List.nodup_append.mpr ⟨h.nodup, h'.nodup,
      fun a hfirst b hsecond hab => hapart b hsecond (hab ▸ hfirst)⟩

theorem TakesBack.stateOf_iff {ids : List String} (h : TakesBack dag dag' ids) (k : String) :
    dag'.stateOf k = some .completed ↔ k ∉ ids ∧ dag.stateOf k = some .completed := by
  rw [h.states]
  by_cases hk : k ∈ ids
  · simp [hk]
  · simp [hk]

theorem mem_rolledNow_iff (hnode : dag.nodes.lookup k = some node) {other : String} :
    other ∈ rolledNow node ↔ other = k ∧ dag.stateOf other = some .completed := by
  have hid : node.nodeId = k := Table.key_of_lookup hnode
  rw [rolledNow]
  split
  · rename_i hstate
    rw [mem_singleton, hid]
    refine ⟨fun h => ⟨h, ?_⟩, fun h => h.1⟩
    rw [h, stateOf_of_lookup hnode, hstate]
  · rename_i hstate
    refine iff_of_false not_mem_nil fun h => hstate ?_
    rw [h.1, stateOf_of_lookup hnode] at h
    exact Option.some.inj h.2

theorem takesBack_rollBackNode (hnode : dag.nodes.lookup k = some node) :
    TakesBack dag (dag.rollBackNode node) (rolledNow node) := by
  have hid : node.nodeId = k := Table.key_of_lookup hnode
  rw [rollBackNode, rolledNow]
  split
  · rename_i hstate
    refine ⟨keeps_write (fun _ => rfl) (fun _ => rfl) _, fun other hother => ?_, fun other => ?_,
      nodup_singleton _⟩
    · rw [mem_singleton.mp hother, hid, stateOf_of_lookup hnode, hstate]
    · rw [stateOf, lookup_write, hid, hnode]
      by_cases hother : other = k
      · simp [hother, TaskNode.toState]
      · simp [hother, stateOf]
  · exact takesBack_nil dag

theorem exists_getNode (h : k ∈ dag.nodeIds) :
    ∃ node, dag.nodes.lookup k = some node ∧ dag.getNode k = .ok node := by
  obtain ⟨node, hnode⟩ := mem_nodeIds_iff.mp h
  exact ⟨node, hnode, by rw [getNode, hnode]⟩

theorem compensate_spec {depIds : List String} (hnodes : ∀ d ∈ depIds, d ∈ dag.nodeIds)
    (rolledBack : List String) :
    ∃ ids dag', dag.compensate rolledBack depIds = .ok (rolledBack ++ ids, dag') ∧
      TakesBack dag dag' ids ∧ ∀ k, k ∈ ids ↔ k ∈ depIds ∧ dag.stateOf k = some .completed := by
  induction depIds generalizing dag rolledBack with
  | nil =>
    refine ⟨[], dag, by rw [compensate, append_nil], takesBack_nil dag, fun k => ?_⟩
    exact iff_of_false not_mem_nil fun h => not_mem_nil h.1
  | cons depId rest ih =>
    obtain ⟨dep, hlookup, hget⟩ := exists_getNode (hnodes depId mem_cons_self)
    have hfirst := takesBack_rollBackNode hlookup
    have hrestNodes : ∀ d ∈ rest, d ∈ (dag.rollBackNode dep).nodeIds := by
      intro d hd
      rw [nodeIds_rollBackNode]
      exact hnodes d (mem_cons_of_mem _ hd)
    obtain ⟨ids, dag', hrest, htakes, hmem⟩ := ih hrestNodes (rolledBack ++ rolledNow dep)
    refine ⟨rolledNow dep ++ ids, dag', ?_, hfirst.append htakes, fun k => ?_⟩
    · rw [compensate, hget]
      dsimp only
      rw [hrest, append_assoc]
    · rw [mem_append, hmem, hfirst.stateOf_iff, mem_cons, mem_rolledNow_iff hlookup]
      tauto

theorem exists_exit {visited frontier : List String} {x : String}
    (hpending : ∀ x ∈ visited, ∀ d, dag.DependsOn x d → d ∈ visited ∨ d ∈ frontier)
    (hway : Relation.ReflTransGen dag.DependsOn x k) (hx : x ∈ visited) (hk : k ∉ visited) :
    ∃ f ∈ frontier, Relation.ReflTransGen dag.DependsOn f k := by
  induction hway using Relation.ReflTransGen.head_induction_on with
  | refl => exact absurd hx hk
  | head hstep hrest ih =>
    rcases hpending _ hx _ hstep with hvisited | hedge
    · exact ih hvisited
    · exact ⟨_, hedge, hrest⟩

theorem cascade_spec {visited frontier : List String} (rolledBack : List String)
    (hclosed : dag.Closed) (hnodes : ∀ d ∈ frontier, d ∈ dag.nodeIds)
    (hpending : ∀ x ∈ visited, ∀ d, dag.DependsOn x d → d ∈ visited ∨ d ∈ frontier) :
    ∃ ids dag', dag.cascade visited rolledBack frontier = .ok (rolledBack ++ ids, dag') ∧
      TakesBack dag dag' ids ∧ ∀ k, k ∈ ids ↔ k ∉ visited ∧ dag.stateOf k = some .completed ∧
          ∃ f ∈ frontier, Relation.ReflTransGen dag.DependsOn f k := by
  induction dag, visited, rolledBack, frontier using cascade.induct with
  | case1 dag visited rolledBack =>
    refine ⟨[], dag, by rw [cascade, append_nil], takesBack_nil dag, fun k => ?_⟩
    exact iff_of_false not_mem_nil fun ⟨_, _, _, hf, _⟩ => not_mem_nil hf
  | case2 dag visited rolledBack nid frontier hseen ih =>
    have hlater : ∀ x ∈ visited, ∀ d, dag.DependsOn x d → d ∈ visited ∨ d ∈ frontier := by
      intro x hx d hd
      rcases hpending x hx d hd with hvisited | hedge
      · exact .inl hvisited
      · rcases mem_cons.mp hedge with rfl | hedge
        · exact .inl hseen
        · exact .inr hedge
    obtain ⟨ids, dag', hrest, htakes, hmem⟩ :=
      ih hclosed (fun d hd => hnodes d (mem_cons_of_mem _ hd)) hlater
    refine ⟨ids, dag', by rw [cascade, dif_pos hseen, hrest], htakes, fun k => ?_⟩
    rw [hmem]
    refine and_congr_right fun hk => and_congr_right fun _ => ⟨?_, ?_⟩
    · rintro ⟨f, hf, hway⟩
      exact ⟨f, mem_cons_of_mem _ hf, hway⟩
    · rintro ⟨f, hf, hway⟩
      rcases mem_cons.mp hf with rfl | hf
      · exact exists_exit hlater hway hseen hk
      · exact ⟨f, hf, hway⟩
  | case3 dag visited rolledBack nid frontier hnew hnone =>
    obtain ⟨node, hnode⟩ := mem_nodeIds_iff.mp (hnodes nid mem_cons_self)
    rw [hnone] at hnode
    cases hnode
  | case4 dag visited rolledBack nid frontier hnew node hnode ih =>
    have hfirst := takesBack_rollBackNode hnode
    have hnext : ∀ d ∈ frontier ++ node.dependencies, d ∈ (dag.rollBackNode node).nodeIds := by
      intro d hd
      rw [nodeIds_rollBackNode]
      rcases mem_append.mp hd with hedge | hdependency
      · exact hnodes d (mem_cons_of_mem _ hedge)
      · exact hclosed nid d ⟨node, hnode, hdependency⟩
    have hlater : ∀ x ∈ visited ++ [nid], ∀ d, (dag.rollBackNode node).DependsOn x d →
        d ∈ visited ++ [nid] ∨ d ∈ frontier ++ node.dependencies := by
      intro x hx d hd
      rw [hfirst.keeps.dependsOn_eq] at hd
      rcases mem_append.mp hx with hvisited | hnid
      · rcases hpending x hvisited d hd with hd | hd
        · exact .inl (mem_append_left _ hd)
        · rcases mem_cons.mp hd with rfl | hd
          · exact .inl (mem_append_right _ mem_cons_self)
          · exact .inr (mem_append_left _ hd)
      · obtain rfl := mem_singleton.mp hnid
        obtain ⟨found, hfound, hd⟩ := hd
        obtain rfl := Option.some.inj (hnode.symm.trans hfound)
        exact .inr (mem_append_right _ hd)
    obtain ⟨ids, dag', hrest, htakes, hmem⟩ := ih (hfirst.keeps.closed hclosed) hnext hlater
    refine ⟨rolledNow node ++ ids, dag', ?_, hfirst.append htakes, fun k => ?_⟩
    · rw [cascade, dif_neg hnew]
      split
      · rename_i hnone
        rw [hnode] at hnone
        cases hnone
      · rename_i found hfound
        obtain rfl := Option.some.inj (hnode.symm.trans hfound)
        rw [hrest, append_assoc]
    · rw [mem_append, hmem, hfirst.stateOf_iff, mem_rolledNow_iff hnode,
        hfirst.keeps.dependsOn_eq, mem_append, mem_singleton]
      constructor
      · rintro (⟨rfl, hstate⟩ | ⟨hk, ⟨-, hstate⟩, f, hf, hway⟩)
        · exact ⟨hnew, hstate, k, mem_cons_self, .refl⟩
        · refine ⟨fun h => hk (.inl h), hstate, ?_⟩
          rcases mem_append.mp hf with hedge | hdependency
          · exact ⟨f, mem_cons_of_mem _ hedge, hway⟩
          · exact ⟨nid, mem_cons_self, .head ⟨node, hnode, hdependency⟩ hway⟩
      · rintro ⟨hk, hstate, f, hf, hway⟩
        by_cases hnid : k = nid
        · exact .inl ⟨hnid, hstate⟩
        · refine .inr ⟨fun h => h.elim hk hnid, ⟨fun h => hnid h.1, hstate⟩, ?_⟩
          rcases mem_cons.mp hf with rfl | hedge
          · rcases hway.cases_head with rfl | ⟨d, ⟨found, hfound, hd⟩, hway⟩
            · exact absurd rfl hnid
            · obtain rfl := Option.some.inj (hnode.symm.trans hfound)
              exact ⟨d, mem_append_right _ hd, hway⟩
          · exact ⟨f, mem_append_left _ hedge, hway⟩

/-- What the policy of a failed node takes back when it is completed: direct dependencies, or
all that they depend on. -/
def InScope (dag : TaskDag) (node : TaskNode) (k : String) : Prop :=
  match node.rollbackPolicy with
  | .compensate => k ∈ node.dependencies
  | .cascade => ∃ d ∈ node.dependencies, Relation.ReflTransGen dag.DependsOn d k
  | _ => False

theorem Keeps.inScope_iff (h : Keeps dag dag') : dag'.InScope node k ↔ dag.InScope node k := by
  rw [InScope, InScope, h.dependsOn_eq]

theorem rollback_spec (hclosed : dag.Closed) (hnode : dag.nodes.lookup nodeId = some node)
    (hpolicy : node.rollbackPolicy = .compensate ∨ node.rollbackPolicy = .cascade) :
    ∃ ids dag', dag.rollback nodeId = .ok (ids, dag') ∧ TakesBack dag dag' ids ∧
      ∀ k, k ∈ ids ↔ dag.InScope node k ∧ dag.stateOf k = some .completed := by
  have hget : dag.getNode nodeId = .ok node := by rw [getNode, hnode]
  have hnodes : ∀ d ∈ node.dependencies, d ∈ dag.nodeIds :=
    fun d hd => hclosed nodeId d ⟨node, hnode, hd⟩
  rw [rollback, hget]
  simp only [Except.bind, InScope]
  rcases hpolicy with hpolicy | hpolicy
  · rw [hpolicy]
    exact compensate_spec hnodes []
  · rw [hpolicy]
    have hpending : ∀ x ∈ ([] : List String), ∀ d, dag.DependsOn x d →
        d ∈ ([] : List String) ∨ d ∈ node.dependencies :=
      fun x hx => (not_mem_nil hx).elim
    obtain ⟨ids, dag', hwalk, htakes, hmem⟩ := cascade_spec [] hclosed hnodes hpending
    refine ⟨ids, dag', hwalk, htakes, fun k => ?_⟩
    rw [hmem, and_comm (a := dag.stateOf k = _)]
    exact and_iff_right not_mem_nil

end HiAgent.TaskDecomposition.TaskDag
