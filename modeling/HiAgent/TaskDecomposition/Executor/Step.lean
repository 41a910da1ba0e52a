/-
  TaskDecomposition/Executor/Step.lean --- one step of the executor.

  A step lists the ready nodes once and executes them one after the other. A node that fails
  takes back dependencies, which a later node of the list may share.
-/
import HiAgent.Foundation.Machine
import HiAgent.TaskDecomposition.Executor

namespace HiAgent.TaskDecomposition

open Foundation TaskDag List

namespace DagExecutor

variable {execute : ExecuteFn} {executor executor' : DagExecutor} {node : TaskNode} {k : String}

def Satisfied (executor : DagExecutor) : Prop :=
  ∀ call ∈ executor.calls, ∀ d ∈ call.node.dependencies, call.dag.stateOf d = some .completed

/-- What holds between two calls. -/
structure Inv (executor : DagExecutor) : Prop where
  closed : executor.dag.Closed
  states : ∀ k state, executor.dag.stateOf k = some state →
    state = .pending ∨ state = .completed ∨ state = .failed ∨ state = .rolledBack
  called : ∀ k, k ∈ executor.history ↔
    ∃ state, executor.dag.stateOf k = some state ∧ state ≠ .pending
  once : executor.history.Nodup
  rolledBack : ∀ k, k ∈ executor.rolledBack ↔ executor.dag.stateOf k = some .rolledBack
  rolledBackOnce : executor.rolledBack.Nodup

/-- The call for a node fails, and takes `k` back when it is completed. -/
def RollsBack (execute : ExecuteFn) (dag : TaskDag) (history : List String) (node : TaskNode)
    (k : String) : Prop :=
  (∃ reason, execute history node.nodeId = .error reason) ∧ dag.InScope node k

/-! ## One call -/

/-- `dag'` is `dag` with one node in another state. -/
structure Marks (dag dag' : TaskDag) (nodeId : String) (state : TaskNodeState) : Prop where
  keeps : Keeps dag dag'
  states : ∀ k, dag'.stateOf k = if k = nodeId then some state else dag.stateOf k

section Marks

variable {dag dag' : TaskDag} {nodeId : String} {state : TaskNodeState}

theorem exists_marks {goal : String} {allowed : List TaskNodeState}
    {f : Assignment TaskNode.nodeId} {old : TaskNodeState} (hold : dag.stateOf nodeId = some old)
    (hallowed : old ∈ allowed) (hset : ∀ node, (f.set node).state = state)
    (hdeps : ∀ node, (f.set node).dependencies = node.dependencies)
    (hpolicy : ∀ node, (f.set node).rollbackPolicy = node.rollbackPolicy) :
    ∃ dag', dag.mark nodeId goal allowed f = .ok dag' ∧ Marks dag dag' nodeId state := by
  obtain ⟨node, hnode, rfl⟩ := Option.map_eq_some_iff.mp hold
  refine ⟨dag.write nodeId f, ?_, keeps_write hdeps hpolicy nodeId, fun k => ?_⟩
  · rw [mark, getNode, hnode]
    exact if_pos hallowed
  · rw [stateOf, lookup_write, hnode]
    split
    · rw [Option.map_some, Option.map_some, hset]
    · rfl

theorem Marks.self (h : Marks dag dag' nodeId state) : dag'.stateOf nodeId = some state := by
  rw [h.states, if_pos rfl]

theorem Marks.completed_iff (h : Marks dag dag' nodeId state) (hnew : state ≠ .completed)
    (hold : dag.stateOf nodeId ≠ some .completed) (k : String) :
    dag'.stateOf k = some .completed ↔ dag.stateOf k = some .completed := by
  rw [h.states]
  split
  · rename_i hk
    rw [hk]
    exact iff_of_false (fun hsame => hnew (Option.some.inj hsame)) hold
  · rfl

end Marks

theorem inScope_congr {dag : TaskDag} {listed : TaskNode}
    (hdeps : node.dependencies = listed.dependencies)
    (hpolicy : node.rollbackPolicy = listed.rollbackPolicy) :
    dag.InScope node k ↔ dag.InScope listed k := by
  rw [InScope, InScope, hdeps, hpolicy]

/-- A node of the list of ready nodes, as it is when its turn comes. -/
structure Turn (dag : TaskDag) (node : TaskNode) : Prop where
  listed : ∃ now, dag.nodes.lookup node.nodeId = some now ∧
    now.dependencies = node.dependencies ∧ now.rollbackPolicy = node.rollbackPolicy
  pending : dag.stateOf node.nodeId = some .pending

theorem Keeps.listed {dag dag' : TaskDag} (h : Keeps dag dag')
    (hlisted : ∃ now, dag.nodes.lookup node.nodeId = some now ∧
      now.dependencies = node.dependencies ∧ now.rollbackPolicy = node.rollbackPolicy) :
    ∃ now, dag'.nodes.lookup node.nodeId = some now ∧
      now.dependencies = node.dependencies ∧ now.rollbackPolicy = node.rollbackPolicy := by
  obtain ⟨now, hnow, hdeps, hpolicy⟩ := hlisted
  obtain ⟨later, hlater, hsame, hsamePolicy⟩ := h.exists_lookup hnow
  exact ⟨later, hlater, hsame.trans hdeps, hsamePolicy.trans hpolicy⟩

/-- What the `except` branch leaves of a running node, and what it takes back. -/
structure FailSpec (called : DagExecutor) (node : TaskNode) (ids : List String)
    (failed : DagExecutor) : Prop where
  calls : failed.calls = called.calls
  rolledBack : failed.rolledBack = called.rolledBack ++ ids
  keeps : Keeps called.dag failed.dag
  nodup : ids.Nodup
  mem_ids : ∀ k, k ∈ ids ↔ called.dag.InScope node k ∧ called.dag.stateOf k = some .completed
  states : ∀ k, failed.dag.stateOf k = if k = node.nodeId then some .failed
    else if k ∈ ids then some .rolledBack else called.dag.stateOf k

section Fail

variable {called : DagExecutor} {dag : TaskDag}

theorem failSpec_of_asks (hclosed : called.dag.Closed)
    (hmarks : Marks called.dag dag node.nodeId .failed)
    (hlisted : ∃ now, dag.nodes.lookup node.nodeId = some now ∧
      now.dependencies = node.dependencies ∧ now.rollbackPolicy = node.rollbackPolicy)
    (hrunning : called.dag.stateOf node.nodeId = some .running)
    (hasks : node.rollbackPolicy = .compensate ∨ node.rollbackPolicy = .cascade) :
    ∃ ids dag', dag.rollback node.nodeId = .ok (ids, dag') ∧
      FailSpec called node ids ⟨dag', called.rolledBack ++ ids, called.calls⟩ := by
  have hother : called.dag.stateOf node.nodeId ≠ some .completed := by
    rw [hrunning]
    simp
  obtain ⟨now, hnow, hdeps, hpolicy⟩ := hlisted
  obtain ⟨ids, dag', hundo, htakes, hids⟩ :=
    rollback_spec (hmarks.keeps.closed hclosed) hnow (by rwa [hpolicy])
  have hscope : ∀ k, k ∈ ids ↔
      called.dag.InScope node k ∧ called.dag.stateOf k = some .completed := by
    intro k
    rw [hids, hmarks.completed_iff (by decide) hother, hmarks.keeps.inScope_iff,
      inScope_congr hdeps hpolicy]
  refine ⟨ids, dag', hundo, rfl, rfl, hmarks.keeps.trans htakes.keeps, htakes.nodup, hscope,
    fun k => ?_⟩
  dsimp only
  rw [htakes.states, hmarks.states]
  by_cases hk : k = node.nodeId
  · have hnot : k ∉ ids := fun hin => hother (hk ▸ ((hscope k).mp hin).2)
    rw [if_neg hnot, if_pos hk, if_pos hk]
  · rw [if_neg hk, if_neg hk]

theorem failSpec_of_not_asks (hmarks : Marks called.dag dag node.nodeId .failed)
    (hasks : ¬ (node.rollbackPolicy = .compensate ∨ node.rollbackPolicy = .cascade)) :
    FailSpec called node [] { called with dag } where
  calls := rfl
  rolledBack := (append_nil _).symm
  keeps := hmarks.keeps
  nodup := nodup_nil
  mem_ids k := by
    refine iff_of_false not_mem_nil fun h => ?_
    have hscope := h.1
    rw [InScope] at hscope
    split at hscope
    · exact hasks (.inl ‹_›)
    · exact hasks (.inr ‹_›)
    · exact hscope
  states k := by
    rw [if_neg not_mem_nil]
    exact hmarks.states k

theorem failNode_spec (called : DagExecutor) (hclosed : called.dag.Closed)
    (hlisted : ∃ now, called.dag.nodes.lookup node.nodeId = some now ∧
      now.dependencies = node.dependencies ∧ now.rollbackPolicy = node.rollbackPolicy)
    (hrunning : called.dag.stateOf node.nodeId = some .running) (reason : String) :
    ∃ failed ids, called.failNode node reason = .ok failed ∧ FailSpec called node ids failed := by
  obtain ⟨dag, hmarked, hmarks⟩ : ∃ dag, called.dag.markFailed node.nodeId reason = .ok dag ∧
      Marks called.dag dag node.nodeId .failed :=
    exists_marks hrunning (by simp) (fun _ => rfl) (fun _ => rfl) (fun _ => rfl)
  rw [failNode, hmarked]
  simp only [Except.bind]
  by_cases hasks : node.rollbackPolicy = .compensate ∨ node.rollbackPolicy = .cascade
  · obtain ⟨ids, dag', hundo, hspec⟩ :=
      failSpec_of_asks hclosed hmarks (Keeps.listed hmarks.keeps hlisted) hrunning hasks
    refine ⟨_, ids, ?_, hspec⟩
    rcases hasks with hpolicy | hpolicy
    · rw [hpolicy, hundo]
      rfl
    · rw [hpolicy, hundo]
      rfl
  · refine ⟨_, [], ?_, failSpec_of_not_asks hmarks hasks⟩
    split
    · exact absurd (.inl ‹_›) hasks
    · exact absurd (.inr ‹_›) hasks
    · rfl

end Fail

/-- What a call for a node leaves: the outcome, and what was taken back. -/
structure NodeSpec (execute : ExecuteFn) (executor : DagExecutor) (node : TaskNode)
    (outcome : TaskNodeState) (ids : List String) (executor' : DagExecutor) : Prop where
  keeps : Keeps executor.dag executor'.dag
  settled : outcome = .completed ∨ outcome = .failed
  states : ∀ k, executor'.dag.stateOf k = if k = node.nodeId then some outcome
    else if k ∈ ids then some .rolledBack else executor.dag.stateOf k
  mem_ids : ∀ k, k ∈ ids ↔ RollsBack execute executor.dag executor.history node k ∧
    executor.dag.stateOf k = some .completed
  nodup : ids.Nodup
  rolledBack : executor'.rolledBack = executor.rolledBack ++ ids
  calls : ∃ dag, executor'.calls = executor.calls ++ [⟨node, dag⟩] ∧
    ∀ d, dag.stateOf d = some .completed ↔ executor.dag.stateOf d = some .completed

theorem executeNode_spec (hclosed : executor.dag.Closed) (hturn : Turn executor.dag node) :
    ∃ done executor' outcome ids, executor.executeNode execute node = .ok (done, executor') ∧
      NodeSpec execute executor node outcome ids executor' := by
  -- the node is running
  obtain ⟨running, hmarked, hrunning⟩ : ∃ running,
      executor.dag.markRunning node.nodeId = .ok running ∧
        Marks executor.dag running node.nodeId .running :=
    exists_marks hturn.pending (by simp) (fun _ => rfl) (fun _ => rfl) (fun _ => rfl)
  have hcalls : ∀ d, running.stateOf d = some .completed ↔
      executor.dag.stateOf d = some .completed := by
    refine hrunning.completed_iff (by decide) ?_
    rw [hturn.pending]
    simp
  rw [executeNode, hmarked]
  simp only [Except.bind]
  cases houtcome : execute executor.history node.nodeId with
  | ok result =>
    obtain ⟨dag, hcompleted, hmarks⟩ : ∃ dag, running.markCompleted node.nodeId result = .ok dag ∧
          Marks running dag node.nodeId .completed :=
      exists_marks hrunning.self (by simp) (fun _ => rfl) (fun _ => rfl) (fun _ => rfl)
    dsimp only
    rw [hcompleted]
    refine ⟨_, _, .completed, [], rfl, ⟨hrunning.keeps.trans hmarks.keeps, .inl rfl, fun k => ?_,
      fun k => ?_, nodup_nil, (append_nil _).symm, running, rfl, hcalls⟩⟩
    · dsimp only
      rw [hmarks.states, hrunning.states]
      by_cases hk : k = node.nodeId
      · rw [if_pos hk, if_pos hk]
      · rw [if_neg hk, if_neg hk, if_neg hk, if_neg not_mem_nil]
    · refine iff_of_false not_mem_nil fun ⟨⟨⟨reason, hreason⟩, _⟩, _⟩ => ?_
      rw [houtcome] at hreason
      cases hreason
  | error reason =>
    let called : DagExecutor :=
      { executor with dag := running, calls := executor.calls ++ [⟨node, running⟩] }
    have hcalled : called.dag = running := rfl
    obtain ⟨failed, ids, hfailed, hspec⟩ := failNode_spec called
      (hrunning.keeps.closed hclosed)
      (Keeps.listed hrunning.keeps hturn.listed) hrunning.self reason
    refine ⟨false, failed, .failed, ids, ?_, ⟨hrunning.keeps.trans hspec.keeps, .inr rfl,
      fun k => ?_, fun k => ?_, hspec.nodup, hspec.rolledBack, running, hspec.calls, hcalls⟩⟩
    · dsimp only
      rw [hfailed]
      rfl
    · rw [hspec.states, hcalled, hrunning.states]
      by_cases hk : k = node.nodeId
      · rw [if_pos hk, if_pos hk]
      · rw [if_neg hk, if_neg hk, if_neg hk]
    · rw [hspec.mem_ids, hcalled, hcalls, hrunning.keeps.inScope_iff, RollsBack]
      exact ⟨fun h => ⟨⟨⟨reason, houtcome⟩, h.1⟩, h.2⟩, fun h => ⟨h.1.2, h.2⟩⟩

/-! ## One step -/

variable {outcome : TaskNodeState} {ids : List String}

theorem NodeSpec.history_eq (h : NodeSpec execute executor node outcome ids executor') :
    executor'.history = executor.history ++ [node.nodeId] := by
  obtain ⟨dag, hcalls, -⟩ := h.calls
  rw [history, hcalls, map_append]
  rfl

theorem NodeSpec.inv (h : NodeSpec execute executor node outcome ids executor')
    (hinv : executor.Inv) (hpending : executor.dag.stateOf node.nodeId = some .pending) :
    executor'.Inv := by
  have hcompleted : ∀ k ∈ ids, executor.dag.stateOf k = some .completed :=
    fun k hk => ((h.mem_ids k).mp hk).2
  have hself : node.nodeId ∉ ids := by
    intro hin
    have hstate := hcompleted _ hin
    rw [hpending] at hstate
    cases hstate
  have houtcome : outcome ≠ .pending ∧ outcome ≠ .rolledBack := by
    rcases h.settled with rfl | rfl
    · exact ⟨by decide, by decide⟩
    · exact ⟨by decide, by decide⟩
  refine ⟨h.keeps.closed hinv.closed, fun k state hstate => ?_, fun k => ?_, ?_, fun k => ?_, ?_⟩
  · rw [h.states] at hstate
    split at hstate
    · cases hstate
      exact .inr (h.settled.imp id .inl)
    · split at hstate
      · cases hstate
        exact .inr (.inr (.inr rfl))
      · exact hinv.states k state hstate
  · rw [h.history_eq, mem_append, hinv.called, h.states, mem_singleton]
    by_cases hk : k = node.nodeId
    · simp [hk, houtcome.1]
    · by_cases hin : k ∈ ids
      · simp [hk, hin, hcompleted k hin]
      · simp [hk, hin]
  · rw [h.history_eq, List.nodup_append]
    refine ⟨hinv.once, nodup_singleton _, fun a ha b hb hab => ?_⟩
    obtain ⟨state, hstate, hnot⟩ := (hinv.called a).mp ha
    rw [hab, mem_singleton.mp hb, hpending] at hstate
    exact hnot (Option.some.inj hstate).symm
  · rw [h.rolledBack, mem_append, hinv.rolledBack, h.states]
    by_cases hk : k = node.nodeId
    · simp [hk, houtcome.2, hself, hpending]
    · by_cases hin : k ∈ ids
      · simp [hk, hin]
      · simp [hk, hin]
  · rw [h.rolledBack, List.nodup_append]
    refine ⟨hinv.rolledBackOnce, h.nodup, fun a ha b hb hab => ?_⟩
    have hstate := (hinv.rolledBack a).mp ha
    rw [hab, hcompleted b hb] at hstate
    cases hstate

/-- One of the nodes fails when its turn comes, and takes `k` back. -/
def TakenBack (execute : ExecuteFn) (dag : TaskDag) : List String → List TaskNode → String → Prop
  | _, [], _ => False
  | history, node :: rest, k =>
    RollsBack execute dag history node k ∨ TakenBack execute dag (history ++ [node.nodeId]) rest k

theorem takenBack_append {dag : TaskDag} {history : List String} {first : List TaskNode} :
    TakenBack execute dag history (first ++ [node]) k ↔ TakenBack execute dag history first k ∨
        RollsBack execute dag (history ++ first.map TaskNode.nodeId) node k := by
  induction first generalizing history with
  | nil => simp [TakenBack]
  | cons earlier rest ih => simp [TakenBack, ih, or_assoc]

def Undisturbed (execute : ExecuteFn) (executor : DagExecutor) : Prop :=
  ∀ front node back, executor.dag.getReadyNodes = front ++ node :: back →
    ∀ d ∈ node.dependencies, ¬ TakenBack execute executor.dag executor.history front d

/-- The step after the nodes of `front`, from `begun` on. -/
structure Midway (execute : ExecuteFn) (begun : DagExecutor) (front rest : List TaskNode)
    (executor : DagExecutor) : Prop where
  inv : executor.Inv
  keeps : Keeps begun.dag executor.dag
  history : executor.history = begun.history ++ front.map TaskNode.nodeId
  completed : ∀ d, begun.dag.stateOf d = some .completed →
    (executor.dag.stateOf d = some .completed ↔ ¬ TakenBack execute begun.dag begun.history front d)
  turns : ∀ node ∈ rest, Turn executor.dag node
  waiting : ∀ node ∈ rest, begun.dag.stateOf node.nodeId = some .pending
  ready : ∀ node ∈ rest, ∀ d ∈ node.dependencies, begun.dag.stateOf d = some .completed
  distinct : (rest.map TaskNode.nodeId).Nodup

theorem RollsBack.iff_of_keeps {dag dag' : TaskDag} {history : List String} (h : Keeps dag dag') :
    RollsBack execute dag' history node k ↔ RollsBack execute dag history node k := by
  rw [RollsBack, RollsBack, h.inScope_iff]

variable {front rest : List TaskNode} {begun : DagExecutor}

theorem Midway.next (h : Midway execute begun front (node :: rest) executor)
    (hspec : NodeSpec execute executor node outcome ids executor') :
    Midway execute begun (front ++ [node]) rest executor' := by
  have hturn := h.turns node mem_cons_self
  obtain ⟨hnew, hdistinct⟩ := nodup_cons.mp h.distinct
  refine ⟨hspec.inv h.inv hturn.pending, h.keeps.trans hspec.keeps, ?_, fun d hd => ?_,
    fun other hother => ?_, fun other hother => h.waiting other (mem_cons_of_mem _ hother),
    fun other hother => h.ready other (mem_cons_of_mem _ hother), hdistinct⟩
  · rw [hspec.history_eq, h.history, map_append, append_assoc]
    rfl
  · have hne : d ≠ node.nodeId := by
      rintro rfl
      rw [h.waiting node mem_cons_self] at hd
      cases hd
    rw [takenBack_append, hspec.states, if_neg hne, ← h.history, not_or, ← h.completed d hd,
      ← RollsBack.iff_of_keeps h.keeps]
    by_cases hin : d ∈ ids
    · have hboth := (hspec.mem_ids d).mp hin
      simp [hin, hboth.1]
    · rw [if_neg hin]
      refine ⟨fun hstate => ⟨hstate, fun hrolls => hin ((hspec.mem_ids d).mpr ⟨hrolls, hstate⟩)⟩,
        fun hstate => hstate.1⟩
  · have hlater := h.turns other (mem_cons_of_mem _ hother)
    obtain ⟨now, hnow, hdeps, hpolicy⟩ := hlater.listed
    obtain ⟨then', hthen, hsame, hsamePolicy⟩ := hspec.keeps.exists_lookup hnow
    refine ⟨⟨then', hthen, hsame.trans hdeps, hsamePolicy.trans hpolicy⟩, ?_⟩
    have hne : other.nodeId ≠ node.nodeId :=
      fun heq => hnew (heq ▸ mem_map_of_mem hother)
    have hnot : other.nodeId ∉ ids := by
      intro hin
      have hstate := ((hspec.mem_ids _).mp hin).2
      rw [hlater.pending] at hstate
      cases hstate
    rw [hspec.states, if_neg hne, if_neg hnot, hlater.pending]

theorem Midway.satisfied_next (h : Midway execute begun front (node :: rest) executor)
    (hspec : NodeSpec execute executor node outcome ids executor') :
    executor'.Satisfied ↔ executor.Satisfied ∧
      ∀ d ∈ node.dependencies, ¬ TakenBack execute begun.dag begun.history front d := by
  obtain ⟨dag, hcalls, hstates⟩ := hspec.calls
  rw [Satisfied, Satisfied, hcalls, forall_mem_append, forall_mem_singleton]
  refine and_congr_right fun _ => forall₂_congr fun d hd => ?_
  rw [hstates, h.completed d (h.ready node mem_cons_self d hd)]

def pendingIds (executor : DagExecutor) : List String :=
  executor.dag.nodeIds.filter fun k => executor.dag.stateOf k == some .pending

theorem mem_pendingIds_iff : k ∈ executor.pendingIds ↔ executor.dag.stateOf k = some .pending := by
  rw [pendingIds, mem_filter, beq_iff_eq]
  refine ⟨fun h => h.2, fun h => ⟨?_, h⟩⟩
  obtain ⟨node, hnode, -⟩ := Option.map_eq_some_iff.mp h
  exact mem_nodeIds_iff.mpr ⟨node, hnode⟩

theorem NodeSpec.pending_of (h : NodeSpec execute executor node outcome ids executor')
    (hpending : executor'.dag.stateOf k = some .pending) :
    executor.dag.stateOf k = some .pending ∧ k ≠ node.nodeId := by
  rw [h.states] at hpending
  split at hpending
  · rcases h.settled with rfl | rfl
    · cases hpending
    · cases hpending
  · split at hpending
    · cases hpending
    · exact ⟨hpending, ‹_›⟩

theorem executeNodes_spec (h : Midway execute begun front rest executor) (result : DagStepResult) :
    ∃ result' executor', executor.executeNodes execute result rest = .ok (result', executor') ∧
      executor'.Inv ∧ Keeps begun.dag executor'.dag ∧
        (executor'.Satisfied ↔ executor.Satisfied ∧
          ∀ before node back, rest = before ++ node :: back → ∀ d ∈ node.dependencies,
            ¬ TakenBack execute begun.dag begun.history (front ++ before) d) ∧
          ∀ k, executor'.dag.stateOf k = some .pending →
            executor.dag.stateOf k = some .pending ∧ k ∉ rest.map TaskNode.nodeId := by
  induction rest generalizing front executor result with
  | nil =>
    refine ⟨result, executor, rfl, h.inv, h.keeps, ?_, fun k hk => ⟨hk, not_mem_nil⟩⟩
    exact (and_iff_left fun before node back hsplit => by simp at hsplit).symm
  | cons node rest ih =>
    obtain ⟨done, executor₁, outcome, ids, hcall, hspec⟩ :=
      executeNode_spec h.inv.closed (h.turns node mem_cons_self)
    have hnext := h.next hspec
    have hloop : ∃ result₁, executor.executeNodes execute result (node :: rest) =
        executor₁.executeNodes execute result₁ rest := by
      cases done with
      | _ => exact ⟨_, by rw [executeNodes, hcall]⟩
    obtain ⟨result₁, hloop⟩ := hloop
    obtain ⟨result', executor', hrest, hinv, hkeeps, hmet, hpending⟩ := ih hnext result₁
    refine ⟨result', executor', hloop.trans hrest, hinv, hkeeps, ?_, fun k hk => ?_⟩
    · rw [hmet, h.satisfied_next hspec, and_assoc]
      refine and_congr_right fun _ => ⟨fun hboth before other back hsplit => ?_, fun hall => ?_⟩
      · cases before with
        | nil =>
          obtain ⟨rfl, rfl⟩ := List.cons.inj hsplit
          rw [append_nil]
          exact hboth.1
        | cons first before =>
          obtain ⟨rfl, htail⟩ := List.cons.inj hsplit
          have hlater := hboth.2 before other back htail
          rwa [append_assoc] at hlater
      · refine ⟨?_, fun before other back hsplit => ?_⟩
        · have hfirst := hall [] node rest rfl
          rwa [append_nil] at hfirst
        · rw [append_assoc]
          exact hall (node :: before) other back (by rw [hsplit]; rfl)
    · obtain ⟨hold, hnot⟩ := hpending k hk
      obtain ⟨hold, hne⟩ := hspec.pending_of hold
      rw [map_cons, mem_cons, not_or]
      exact ⟨hold, hne, hnot⟩

theorem mem_getReadyNodes_iff {dag : TaskDag} :
    node ∈ dag.getReadyNodes ↔ dag.nodes.lookup node.nodeId = some node ∧ node.state = .pending ∧
      ∀ d ∈ node.dependencies, dag.stateOf d = some .completed := by
  rw [getReadyNodes, mem_filter, Table.mem_rows_iff, Bool.and_eq_true, beq_iff_eq, allDepsDone,
    all_eq_true]
  simp only [beq_iff_eq]

theorem Inv.midway (execute : ExecuteFn) (h : executor.Inv) :
    Midway execute executor [] executor.dag.getReadyNodes executor := by
  have hready : ∀ node ∈ executor.dag.getReadyNodes,
      executor.dag.nodes.lookup node.nodeId = some node ∧ node.state = .pending ∧
        ∀ d ∈ node.dependencies, executor.dag.stateOf d = some .completed :=
    fun node hnode => mem_getReadyNodes_iff.mp hnode
  have hpending : ∀ node ∈ executor.dag.getReadyNodes,
      executor.dag.stateOf node.nodeId = some .pending := by
    intro node hnode
    obtain ⟨hlookup, hstate, -⟩ := hready node hnode
    rw [stateOf_of_lookup hlookup, hstate]
  refine ⟨h, .refl _, (append_nil _).symm, fun d hd => ?_, fun node hnode => ?_, hpending,
    fun node hnode => (hready node hnode).2.2, ?_⟩
  · exact iff_of_true hd id
  · exact ⟨⟨node, (hready node hnode).1, rfl, rfl⟩, hpending node hnode⟩
  · exact executor.dag.nodes.keysNodup.sublist (filter_sublist.map _)

theorem Inv.hasRunning_eq (h : executor.Inv) : executor.hasRunning = false := by
  rw [hasRunning, any_eq_false]
  intro node hnode hrunning
  rw [beq_iff_eq] at hrunning
  have hstate := stateOf_of_lookup (Table.mem_rows_iff.mp hnode)
  rw [hrunning] at hstate
  rcases h.states _ _ hstate with hstate | hstate | hstate | hstate <;> cases hstate

theorem step_spec (execute : ExecuteFn) (h : executor.Inv) :
    ∃ result executor', executor.step execute = .ok (result, executor') ∧ executor'.Inv ∧
      (executor'.Satisfied ↔ executor.Satisfied ∧ Undisturbed execute executor) ∧
        (result.isTerminal = false → executor'.pendingIds.length < executor.pendingIds.length) := by
  rw [step]
  by_cases hnone : executor.dag.getReadyNodes = []
  · rw [if_pos ⟨by rw [hnone]; rfl, h.hasRunning_eq⟩]
    refine ⟨_, executor, rfl, h, (and_iff_left ?_).symm, fun hgo => nomatch hgo⟩
    intro front node back hsplit
    rw [hnone] at hsplit
    simp at hsplit
  · have hnonempty : ¬ (executor.dag.getReadyNodes.isEmpty = true ∧ executor.hasRunning = false) :=
      fun hempty => hnone (List.isEmpty_iff.mp hempty.1)
    rw [if_neg hnonempty]
    obtain ⟨result', executor', hloop, hinv, hkeeps, hmet, hpending⟩ :=
      executeNodes_spec (h.midway execute) {}
    refine ⟨_, executor', by rw [hloop]; rfl, hinv, hmet, fun _ => ?_⟩
    -- the first ready node has had its turn
    obtain ⟨first, others, hfirst⟩ := exists_cons_of_ne_nil hnone
    have hwaiting : executor.dag.stateOf first.nodeId = some .pending :=
      (h.midway execute).waiting first (by rw [hfirst]; exact mem_cons_self)
    have hsub : executor'.pendingIds.Sublist executor.pendingIds := by
      rw [pendingIds, pendingIds, hkeeps.nodeIds]
      refine monotone_filter_right _ fun k hk => ?_
      exact beq_iff_eq.mpr (hpending k (beq_iff_eq.mp hk)).1
    refine lt_of_le_of_ne hsub.length_le fun hlength => ?_
    have hsame := hsub.eq_of_length hlength
    have hstill : first.nodeId ∈ executor'.pendingIds := by
      rw [hsame]
      exact mem_pendingIds_iff.mpr hwaiting
    refine (hpending _ (mem_pendingIds_iff.mp hstill)).2 ?_
    rw [hfirst]
    exact mem_cons_self

end DagExecutor

namespace DagExecutor

variable {execute : ExecuteFn} {executor executor' : DagExecutor} {k : String}

/-! ## Whole runs -/

def Continues (execute : ExecuteFn) (executor executor' : DagExecutor) : Prop :=
  ∃ result, executor.step execute = .ok (result, executor') ∧ result.isTerminal = false

def Reaches (execute : ExecuteFn) : DagExecutor → DagExecutor → Prop :=
  Relation.ReflTransGen (Continues execute)

theorem runToCompletion_spec (execute : ExecuteFn) {fuel : Nat} (h : executor.Inv)
    (hfuel : executor.pendingIds.length < fuel) (totalSteps : Nat) :
    ∃ steps final, executor.runToCompletion execute fuel totalSteps =
        some (.ok (final.result steps, final)) ∧ final.Inv ∧ (final.Satisfied ↔ executor.Satisfied ∧
        ∀ later, Reaches execute executor later → Undisturbed execute later) := by
  induction fuel generalizing executor totalSteps with
  | zero => exact absurd hfuel (Nat.not_lt_zero _)
  | succ fuel ih =>
    obtain ⟨result, executor', hstep, hinv, hmet, hfewer⟩ := step_spec execute h
    rw [runToCompletion, hstep]
    dsimp only
    cases hover : result.isTerminal with
    | true =>
      rw [if_pos rfl]
      refine ⟨_, executor', rfl, hinv, hmet.trans (and_congr_right fun _ => ?_)⟩
      refine ⟨fun hnow later hlater => ?_, fun hall => hall executor .refl⟩
      rcases hlater.cases_head with rfl | ⟨next, ⟨result', hstep', hgo⟩, -⟩
      · exact hnow
      · rw [hstep] at hstep'
        cases hstep'
        rw [hover] at hgo
        cases hgo
    | false =>
      rw [if_neg Bool.false_ne_true]
      obtain ⟨steps, final, hrun, hfinal, hall⟩ :=
        ih hinv (by have := hfewer hover; omega) (totalSteps + 1)
      refine ⟨steps, final, hrun, hfinal, ?_⟩
      rw [hall, hmet, and_assoc]
      refine and_congr_right fun _ => ⟨fun hboth later hlater => ?_, fun hlaters => ?_⟩
      · rcases hlater.cases_head with rfl | ⟨next, ⟨result', hstep', -⟩, hrest⟩
        · exact hboth.1
        · rw [hstep] at hstep'
          cases hstep'
          exact hboth.2 later hrest
      · exact ⟨hlaters executor .refl,
          fun later hlater => hlaters later (.head ⟨result, hstep, hover⟩ hlater)⟩

/-- What is promised of a run: each node is executed at most once and with its dependencies
completed, success is completion of all nodes, and the three lists share no node. -/
structure Lawful (result : DagResult) (final : DagExecutor) : Prop where
  once : final.history.Nodup
  satisfied : final.Satisfied
  success : result.success = true ↔ ∀ node ∈ final.dag.nodes.rows, node.state = .completed
  completedOnce : result.completedNodes.Nodup
  failedOnce : result.failedNodes.Nodup
  rolledBackOnce : result.rolledBackNodes.Nodup
  completed_failed : result.completedNodes.Disjoint result.failedNodes
  completed_rolledBack : result.completedNodes.Disjoint result.rolledBackNodes
  failed_rolledBack : result.failedNodes.Disjoint result.rolledBackNodes

theorem mem_idsIn_iff {state : TaskNodeState} :
    k ∈ executor.idsIn state ↔ executor.dag.stateOf k = some state := by
  rw [idsIn, mem_map, stateOf, Option.map_eq_some_iff]
  constructor
  · rintro ⟨node, hnode, rfl⟩
    obtain ⟨hmem, hstate⟩ := mem_filter.mp hnode
    exact ⟨node, Table.mem_rows_iff.mp hmem, beq_iff_eq.mp hstate⟩
  · rintro ⟨node, hlookup, hstate⟩
    obtain ⟨hmem, hid⟩ := Table.lookup_eq_some_iff.mp hlookup
    exact ⟨node, mem_filter.mpr ⟨hmem, beq_iff_eq.mpr hstate⟩, hid⟩

theorem nodup_idsIn (executor : DagExecutor) (state : TaskNodeState) :
    (executor.idsIn state).Nodup :=
  executor.dag.nodes.keysNodup.sublist (filter_sublist.map _)

theorem Inv.isComplete_iff (h : executor.Inv) :
    executor.dag.isComplete = true ↔ ∀ node ∈ executor.dag.nodes.rows, node.state = .completed := by
  rw [isComplete, all_eq_true]
  refine forall₂_congr fun node hnode => ?_
  have hstate := h.states _ _ (stateOf_of_lookup (Table.mem_rows_iff.mp hnode))
  rw [decide_eq_true_eq]
  refine ⟨fun hdone => hdone.resolve_right fun hskipped => ?_, .inl⟩
  rw [hskipped] at hstate
  rcases hstate with hstate | hstate | hstate | hstate <;> cases hstate

theorem Inv.lawful_iff (h : executor.Inv) (steps : Nat) :
    Lawful (executor.result steps) executor ↔ executor.Satisfied := by
  have hapart : ∀ {first second : TaskNodeState} {ids : List String}, first ≠ second →
      (∀ k, k ∈ ids ↔ executor.dag.stateOf k = some second) →
      (executor.idsIn first).Disjoint ids := by
    intro first second ids hne hids k hfirst hsecond
    have hstate := (mem_idsIn_iff.mp hfirst).symm.trans ((hids k).mp hsecond)
    exact hne (Option.some.inj hstate)
  refine ⟨fun hlaw => hlaw.satisfied, fun hmet => ⟨h.once, hmet, h.isComplete_iff,
    nodup_idsIn _ _, nodup_idsIn _ _, h.rolledBackOnce, ?_, ?_, ?_⟩⟩
  · exact hapart (by simp) fun _ => mem_idsIn_iff
  · exact hapart (by simp) h.rolledBack
  · exact hapart (by simp) h.rolledBack

/-- A run comes to its end, with one step more than there are nodes, and keeps its promises. -/
def RunsByLaw (execute : ExecuteFn) (dag : TaskDag) : Prop :=
  ∃ result final, (new dag).runToCompletion execute (dag.nodeIds.length + 1) 0 =
    some (.ok (result, final)) ∧ Lawful result final

end DagExecutor

/-! ## Graphs that were built -/

namespace TaskDag

variable {dag : TaskDag}

/-- All nodes wait, and depend on nodes. -/
structure Fresh (dag : TaskDag) : Prop where
  pending : ∀ k state, dag.stateOf k = some state → state = .pending
  closed : dag.Closed

theorem fresh_empty : empty.Fresh := by
  refine ⟨fun k state hstate => ?_, fun k d hdepends => ?_⟩
  · cases hstate
  · obtain ⟨node, hnode, -⟩ := hdepends
    cases hnode

theorem Fresh.addNode {built : TaskDag} (h : dag.Fresh) {nodeId : String}
    {rollbackPolicy : RollbackPolicy}
    (hbuilt : dag.addNode { nodeId, rollbackPolicy } = .ok built) : built.Fresh := by
  rw [TaskDag.addNode] at hbuilt
  split at hbuilt
  · cases hbuilt
  · cases hbuilt
    refine ⟨fun k state hstate => ?_, fun k d hdepends => ?_⟩
    · rw [stateOf, Table.lookup_insertOrReplace] at hstate
      split at hstate
      · cases hstate
        rfl
      · exact h.pending k state hstate
    · obtain ⟨node, hnode, hd⟩ := hdepends
      rw [Table.lookup_insertOrReplace] at hnode
      split at hnode
      · cases hnode
        exact (not_mem_nil hd).elim
      · obtain ⟨found, hfound⟩ := mem_nodeIds_iff.mp (h.closed k d ⟨node, hnode, hd⟩)
        refine mem_nodeIds_iff.mpr ?_
        rw [Table.lookup_insertOrReplace]
        split
        · exact ⟨_, rfl⟩
        · exact ⟨found, hfound⟩

theorem Fresh.write (h : dag.Fresh) {nodeId : String} {f : Assignment TaskNode.nodeId}
    (hstate : ∀ node, (f.set node).state = node.state)
    (hdeps : ∀ node d, d ∈ (f.set node).dependencies →
      d ∈ node.dependencies ∨ d ∈ dag.nodeIds) : (dag.write nodeId f).Fresh := by
  refine ⟨fun k state hk => ?_, fun k d hdepends => ?_⟩
  · rw [stateOf, lookup_write] at hk
    split at hk
    · rw [Option.map_map, Option.map_eq_some_iff] at hk
      obtain ⟨node, hnode, rfl⟩ := hk
      rw [Function.comp_apply, hstate]
      exact h.pending nodeId _ (stateOf_of_lookup hnode)
    · exact h.pending k state hk
  · obtain ⟨node, hnode, hd⟩ := hdepends
    rw [nodeIds_write]
    rw [lookup_write] at hnode
    split at hnode
    · obtain ⟨old, hold, rfl⟩ := Option.map_eq_some_iff.mp hnode
      rcases hdeps old d hd with hd | hd
      · exact h.closed nodeId d ⟨old, hold, hd⟩
      · exact hd
    · exact h.closed k d ⟨node, hnode, hd⟩

theorem Fresh.addEdge {built : TaskDag} (h : dag.Fresh) {fromId toId : String}
    (hbuilt : dag.addEdge fromId toId = .ok built) : built.Fresh := by
  rw [TaskDag.addEdge] at hbuilt
  split at hbuilt
  · cases hbuilt
  · rename_i hfrom
    split at hbuilt
    · cases hbuilt
    · have hsource : fromId ∈ dag.nodeIds := by
        refine mem_nodeIds_iff.mpr (Option.isSome_iff_exists.mp ?_)
        rwa [Option.isNone_iff_eq_none, ← ne_eq, Option.ne_none_iff_isSome] at hfrom
      have hwritten : ∀ edges, Fresh (({ dag with edges : TaskDag }.write fromId
          (TaskNode.addDependent toId)).write toId (TaskNode.addDependency fromId)) := by
        intro edges
        have hedges : Fresh { dag with edges } := ⟨h.pending, h.closed⟩
        refine (hedges.write (fun _ => rfl) fun _ _ hd => .inl hd).write (fun _ => rfl)
          fun node d hd => ?_
        rw [nodeIds_write]
        simp only [TaskNode.addDependency] at hd
        split at hd
        · exact .inl hd
        · rcases mem_append.mp hd with hd | hd
          · exact .inl hd
          · exact .inr (mem_singleton.mp hd ▸ hsource)
      dsimp only at hbuilt
      split at hbuilt
      · split at hbuilt
        · cases hbuilt
        · exact Except.ok.inj hbuilt ▸ hwritten _
      · split at hbuilt
        · cases hbuilt
        · exact Except.ok.inj hbuilt ▸ hwritten _

theorem Fresh.build (h : dag.Fresh) (call : BuildCall) : (dag.build call).Fresh := by
  unfold TaskDag.build
  cases call with
  | addNode nodeId rollbackPolicy =>
    dsimp only
    split
    · exact h.addNode ‹_›
    · exact h
  | addEdge fromId toId =>
    dsimp only
    split
    · exact h.addEdge ‹_›
    · exact h

def built (calls : List BuildCall) : TaskDag := exec build empty calls

theorem fresh_built (calls : List BuildCall) : (built calls).Fresh :=
  let anything : TaskDag → BuildCall → Prop := fun _ _ => True
  have hcalls : Along build anything empty calls := along_of_forall fun _ _ _ => trivial
  exec_invariant (fun _ call h _ => h.build call) fresh_empty hcalls

end TaskDag

namespace DagExecutor

variable {execute : ExecuteFn}

theorem inv_new {dag : TaskDag} (h : dag.Fresh) : (new dag).Inv := by
  refine ⟨h.closed, fun k state hstate => .inl (h.pending k state hstate), fun k => ?_, nodup_nil,
    fun k => ?_, nodup_nil⟩
  · exact iff_of_false not_mem_nil fun ⟨state, hstate, hne⟩ => hne (h.pending k state hstate)
  · refine iff_of_false not_mem_nil fun hstate => ?_
    cases h.pending k _ hstate

/-- The runs that keep their promises are those in which no ready node depends on what an
earlier node of the same step takes back when it fails. -/
theorem runsByLaw_iff (calls : List BuildCall) (execute : ExecuteFn) :
    RunsByLaw execute (built calls) ↔
      ∀ executor, Reaches execute (new (built calls)) executor → Undisturbed execute executor := by
  have hinv := inv_new (fresh_built calls)
  have hfuel : (new (built calls)).pendingIds.length < (built calls).nodeIds.length + 1 :=
    Nat.lt_succ_of_le (length_filter_le _ _)
  obtain ⟨steps, final, hrun, hfinal, hmet⟩ :=
    runToCompletion_spec execute hinv hfuel 0
  have hstart : (new (built calls)).Satisfied := fun _ hcall => (not_mem_nil hcall).elim
  rw [RunsByLaw]
  constructor
  · rintro ⟨result, final', hrun', hlaw⟩
    rw [hrun] at hrun'
    cases hrun'
    exact (hmet.mp hlaw.satisfied).2
  · intro hall
    exact ⟨_, final, hrun, (hfinal.lawful_iff steps).mpr (hmet.mpr ⟨hstart, hall⟩)⟩

def fork : List BuildCall :=
  [.addNode "a" .compensate, .addNode "b" .compensate, .addNode "c" .compensate,
    .addEdge "a" "b", .addEdge "a" "c"]

def failsAtB : ExecuteFn := fun _ nodeId => if nodeId = "b" then .error "boom" else .ok []

def found (executor : DagExecutor) : List (String × List (Option TaskNodeState)) :=
  executor.calls.map fun call => (call.node.nodeId, call.node.dependencies.map call.dag.stateOf)

/-- The second is executed after its dependency was taken back. -/
theorem not_runsByLaw_fork : ¬ RunsByLaw failsAtB (built fork) := by
  rintro ⟨result, final, hrun, hlaw⟩
  have hfound : ((new (built fork)).runToCompletion failsAtB
    ((built fork).nodeIds.length + 1) 0).map
      (fun outcome => outcome.map fun (_, final) => final.found) =
        some (.ok [("a", []), ("b", [some .completed]), ("c", [some .rolledBack])]) := by
    rfl
  rw [hrun] at hfound
  have hcalls : final.found = [("a", []), ("b", [some .completed]), ("c", [some .rolledBack])] :=
    Except.ok.inj (Option.some.inj hfound)
  have hlast : ("c", [some TaskNodeState.rolledBack]) ∈ final.found := by
    rw [hcalls]
    simp
  obtain ⟨call, hcall, hsame⟩ := mem_map.mp hlast
  have hstate : some TaskNodeState.rolledBack ∈ call.node.dependencies.map call.dag.stateOf := by
    rw [(Prod.mk.inj hsame).2]
    exact mem_cons_self
  obtain ⟨d, hd, hrolledBack⟩ := mem_map.mp hstate
  have hcompleted := hlaw.satisfied call hcall d hd
  rw [hrolledBack] at hcompleted
  cases hcompleted

end DagExecutor

end HiAgent.TaskDecomposition
