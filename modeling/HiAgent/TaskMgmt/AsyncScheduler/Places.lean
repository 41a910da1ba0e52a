/-
  TaskMgmt/AsyncScheduler/Places.lean --- where the nodes of a run are.

  Every node is queued, held by a worker, settled, lost or blocked by a source that has
  not completed, and `_in_flight` counts the queued nodes, the workers and the workers that
  a handler factory has ended.
-/
import HiAgent.TaskMgmt.AsyncScheduler

namespace HiAgent.TaskMgmt

open Foundation Trajectory List

namespace AsyncTaskScheduler

/-! ## The invariant -/

def Closed (graph : TrajectoryGraph) : Prop :=
  ∀ target, ∀ source ∈ sources graph target, source ∈ graph.nodeIds ∧ target ∈ graph.nodeIds

def Joins (scheduler : AsyncTaskScheduler) : Event → Prop
  | .addNode _ node dependsOn => node.nodeId ∉ scheduler.graph.nodeIds →
      ∀ dep ∈ dependsOn, dep ∈ scheduler.graph.nodeIds
  | _ => True

variable (scheduler : AsyncTaskScheduler)

/-- `_pending_count.get(node_id, 0)`. -/
def pending (nodeId : String) : Int := scheduler.pendingCount.getD nodeId 0

def places (nodeId : String) : Nat :=
  scheduler.readyQueue.count nodeId +
    scheduler.workers.countP (fun task => decide (task.nodeId = nodeId)) +
    scheduler.completed.count nodeId + scheduler.failed.count nodeId

def blockers (nodeId : String) : Nat :=
  (sources scheduler.graph nodeId).countP fun source => decide (source ∉ scheduler.completed)

def raisedBy : Event → List String
  | .handlerRaised worker =>
    ((scheduler.workerIn worker .makingHandler).map Worker.nodeId).toList
  | _ => []

/-- The node whose turn ends with an exception that is no `Exception`. -/
def interruptedBy : Event → List String
  | .turnEnded worker .interrupted =>
    ((scheduler.workerIn worker .executing).map Worker.nodeId).toList
  | _ => []

/-- What holds between two events, where the handler factories of the nodes in `raised`
have raised and the turns of those in `interrupted` were interrupted. -/
structure Kept (raised interrupted : List String) (scheduler : AsyncTaskScheduler) : Prop where
  closed : Closed scheduler.graph
  counted : scheduler.inFlight =
    scheduler.readyQueue.length + scheduler.workers.length + raised.length
  done : scheduler.done = true ↔ scheduler.inFlight = 0
  placed : ∀ nodeId ∈ scheduler.graph.nodeIds,
    scheduler.places nodeId + raised.count nodeId + interrupted.count nodeId +
      (if 0 < scheduler.blockers nodeId then 1 else 0) = 1
  absent : ∀ nodeId ∉ scheduler.graph.nodeIds,
    scheduler.places nodeId + raised.count nodeId + interrupted.count nodeId = 0
  pending : ∀ nodeId ∈ scheduler.graph.nodeIds, scheduler.pending nodeId = scheduler.blockers nodeId
  waiting : ∀ source ∉ scheduler.completed, ∀ nodeId,
    (scheduler.waiters.getD source []).count nodeId = (sources scheduler.graph nodeId).count source
  states : ∀ nodeId ∈ scheduler.completed, scheduler.graph.stateOf nodeId = some .completed
  result : ∀ result, scheduler.result = some result → scheduler.done = true ∧
    ∀ schedule, result = .ok schedule → schedule.success = true → scheduler.failed = []

variable {scheduler} {raised interrupted : List String}

/-! ### The waiters -/

theorem getD_awaitAll (waiters : Dict String (List String)) (nodeId : String)
    (deps : List String) (source : String) :
    (awaitAll waiters nodeId deps).getD source [] =
      waiters.getD source [] ++ List.replicate (deps.count source) nodeId := by
  induction deps generalizing waiters with
  | nil => simp [awaitAll]
  | cons dep rest ih =>
    rw [awaitAll, foldl_cons, ← awaitAll, ih, Dict.getD_set]
    by_cases heq : source = dep
    · subst heq
      simp [replicate_succ]
    · have hne : dep ≠ source := Ne.symm heq
      simp [heq, hne]

theorem count_awaitAll (waiters : Dict String (List String)) (nodeId : String)
    (deps : List String) (source other : String) :
    ((awaitAll waiters nodeId deps).getD source []).count other =
      (waiters.getD source []).count other + if other = nodeId then deps.count source else 0 := by
  rw [getD_awaitAll, count_append, count_replicate]
  by_cases heq : nodeId = other
  · simp [heq]
  · have hne : other ≠ nodeId := Ne.symm heq
    simp [heq, hne]

theorem count_awaitNodes (graph : TrajectoryGraph) {nodeIds : List String} (h : nodeIds.Nodup)
    (waiters : Dict String (List String)) (source other : String) :
    ((nodeIds.foldl (fun waiters nodeId => awaitAll waiters nodeId (sources graph nodeId))
        waiters).getD source []).count other =
      (waiters.getD source []).count other +
        if other ∈ nodeIds then (sources graph other).count source else 0 := by
  induction nodeIds generalizing waiters with
  | nil => simp
  | cons nodeId rest ih =>
    rw [nodup_cons] at h
    rw [foldl_cons, ih h.2, count_awaitAll]
    by_cases heq : other = nodeId
    · subst heq
      simp [h.1]
    · simp [heq]

theorem getD_countNodes (graph : TrajectoryGraph) (nodeIds : List String)
    (counts : Dict String Int) (other : String) :
    (nodeIds.foldl (fun (counts : Dict String Int) nodeId =>
        counts.set nodeId (sources graph nodeId).length) counts).getD other 0 =
      if other ∈ nodeIds then ((sources graph other).length : Int) else counts.getD other 0 := by
  induction nodeIds generalizing counts with
  | nil => rfl
  | cons nodeId rest ih =>
    rw [foldl_cons, ih, Dict.getD_set]
    by_cases heq : other = nodeId
    · simp [heq]
    · simp [heq]

/-- What `_unblock_waiters` makes of the counts and of the queue: a waiter whose last
source has completed is queued, once. -/
structure Unblocked (waiters : List String) (before after : AsyncTaskScheduler) : Prop where
  pending : ∀ nodeId, after.pending nodeId = before.pending nodeId - waiters.count nodeId
  queued : ∀ nodeId, after.readyQueue.count nodeId = before.readyQueue.count nodeId +
    if 0 < waiters.count nodeId ∧ before.pending nodeId = waiters.count nodeId then 1 else 0
  inFlight : after.inFlight - after.readyQueue.length = before.inFlight - before.readyQueue.length

theorem unblockOne_eq (scheduler : AsyncTaskScheduler) (waiter : String) :
    scheduler.unblockOne waiter = { scheduler with
      pendingCount := scheduler.pendingCount.set waiter (scheduler.pending waiter - 1)
      inFlight := scheduler.inFlight + if scheduler.pending waiter = 1 then 1 else 0
      readyQueue := scheduler.readyQueue ++
        if scheduler.pending waiter = 1 then [waiter] else [] } := by
  rw [unblockOne]
  by_cases hone : scheduler.pending waiter = 1
  · have hzero : scheduler.pendingCount.getD waiter 0 - 1 = 0 := by
      rw [pending] at hone
      omega
    rw [if_pos hzero, if_pos hone, if_pos hone]
    rfl
  · have hzero : ¬ scheduler.pendingCount.getD waiter 0 - 1 = 0 := by
      rw [pending] at hone
      omega
    rw [if_neg hzero, if_neg hone, if_neg hone, append_nil, Int.add_zero]
    rfl

theorem exists_unblock_eq (waiters : List String) (scheduler : AsyncTaskScheduler) :
    ∃ counts inFlight queue, waiters.foldl unblockOne scheduler = { scheduler with
      pendingCount := counts, inFlight := inFlight, readyQueue := queue } := by
  induction waiters generalizing scheduler with
  | nil => exact ⟨_, _, _, rfl⟩
  | cons waiter rest ih =>
    obtain ⟨counts, inFlight, queue, hrest⟩ := ih (scheduler.unblockOne waiter)
    rw [foldl_cons, hrest, unblockOne_eq]
    exact ⟨counts, inFlight, queue, rfl⟩

theorem exists_settleNode_eq (scheduler : AsyncTaskScheduler) (nodeId : String)
    (result : PyValue) : ∃ counts inFlight queue,
      scheduler.settleNode nodeId (.returned result) = { scheduler with
        graph := scheduler.graph.write nodeId (nodeUpdate .completed result)
        completed := scheduler.completed ++ [nodeId]
        pendingCount := counts
        inFlight := inFlight
        readyQueue := queue } :=
  exists_unblock_eq (scheduler.waiters.getD nodeId []) _

theorem pending_unblockOne (scheduler : AsyncTaskScheduler) (waiter nodeId : String) :
    (scheduler.unblockOne waiter).pending nodeId =
      scheduler.pending nodeId - if nodeId = waiter then 1 else 0 := by
  rw [unblockOne_eq, pending, Dict.getD_set]
  split
  · rename_i heq
    rw [heq]
  · exact (Int.sub_zero _).symm

theorem count_queue (queue : List String) (free : Prop) [Decidable free] (added nodeId : String) :
    (queue ++ if free then [added] else []).count nodeId =
      queue.count nodeId + if nodeId = added ∧ free then 1 else 0 := by
  rw [count_append]
  by_cases hfree : free
  · by_cases hadded : nodeId = added
    · simp [hfree, hadded]
    · have hne : added ≠ nodeId := Ne.symm hadded
      simp [hfree, hadded, hne]
  · simp [hfree]

theorem length_queue (queue : List String) (free : Prop) [Decidable free] (added : String) :
    (queue ++ if free then [added] else []).length = queue.length + if free then 1 else 0 := by
  rw [length_append]
  by_cases hfree : free
  · rw [if_pos hfree, if_pos hfree, length_singleton]
  · rw [if_neg hfree, if_neg hfree, length_nil]

theorem unblocked_foldl (waiters : List String) (scheduler : AsyncTaskScheduler)
    (h : ∀ nodeId ∈ waiters, (waiters.count nodeId : Int) ≤ scheduler.pending nodeId) :
    Unblocked waiters scheduler (waiters.foldl unblockOne scheduler) := by
  induction waiters generalizing scheduler with
  | nil => exact ⟨by simp, by simp, rfl⟩
  | cons waiter rest ih =>
    have hcount (nodeId : String) : ((waiter :: rest).count nodeId : Int) =
        rest.count nodeId + if nodeId = waiter then 1 else 0 := by
      rw [count_cons]
      by_cases heq : nodeId = waiter
      · simp [heq]
      · have hne : waiter ≠ nodeId := Ne.symm heq
        simp [heq, hne]
    have hrest := ih (scheduler.unblockOne waiter) fun nodeId hmem => by
      have hnode := h nodeId (mem_cons_of_mem waiter hmem)
      rw [hcount] at hnode
      rw [pending_unblockOne]
      omega
    rw [foldl_cons]
    refine ⟨?_, ?_, ?_⟩
    · intro nodeId
      rw [hrest.pending, pending_unblockOne, hcount]
      omega
    · intro nodeId
      have hnode := h waiter mem_cons_self
      rw [hcount] at hnode
      have hpos : 0 < (waiter :: rest).count nodeId ↔
          0 < rest.count nodeId ∨ nodeId = waiter := by
        have hsum := hcount nodeId
        split at hsum
        · rename_i heq
          exact iff_of_true (by omega) (.inr heq)
        · rename_i hne
          rw [or_iff_left hne]
          omega
      have hqueue : (scheduler.unblockOne waiter).readyQueue.count nodeId =
          scheduler.readyQueue.count nodeId +
            if nodeId = waiter ∧ scheduler.pending waiter = 1 then 1 else 0 := by
        rw [unblockOne_eq]
        exact count_queue scheduler.readyQueue (scheduler.pending waiter = 1) waiter nodeId
      rw [hrest.queued, hqueue, pending_unblockOne, hcount]
      by_cases heq : nodeId = waiter
      · subst heq
        simp only [true_and, or_true, iff_true, if_true] at hnode hpos ⊢
        split <;> split <;> split <;> omega
      · simp only [heq, false_and, if_false, or_false] at hpos ⊢
        split <;> split <;> omega
    · have hinFlight := hrest.inFlight
      rw [unblockOne_eq] at hinFlight ⊢
      dsimp only at hinFlight
      rw [hinFlight, length_queue]
      split
      · omega
      · omega

/-! ### The first state -/

section Start

variable (gatePendingExc : Option String) (maxConcurrency : Nat) {graph : TrajectoryGraph}

theorem readyQueue_start : (start gatePendingExc maxConcurrency graph).readyQueue =
    graph.nodeIds.filter fun nodeId => decide ((sources graph nodeId).length = 0) := by
  rw [start]
  refine filter_congr fun nodeId hnode => ?_
  rw [getD_countNodes, if_pos hnode]
  exact decide_eq_decide.mpr Int.natCast_eq_zero

theorem blockers_start (nodeId : String) :
    (start gatePendingExc maxConcurrency graph).blockers nodeId = (sources graph nodeId).length :=
  countP_eq_length.mpr fun _ _ => decide_eq_true not_mem_nil

theorem places_start (nodeId : String) : (start gatePendingExc maxConcurrency graph).places nodeId =
      if nodeId ∈ graph.nodeIds ∧ (sources graph nodeId).length = 0 then 1 else 0 := by
  have hnodup : (start gatePendingExc maxConcurrency graph).readyQueue.Nodup := by
    rw [readyQueue_start]
    exact graph.nodes.keysNodup.filter _
  have hplaces : (start gatePendingExc maxConcurrency graph).places nodeId =
      (start gatePendingExc maxConcurrency graph).readyQueue.count nodeId := rfl
  rw [hplaces, hnodup.count, readyQueue_start]
  simp only [mem_filter, decide_eq_true_eq]

/-- A closed graph is loaded with every free node queued once. -/
theorem kept_start (hclosed : Closed graph) :
    Kept [] [] (start gatePendingExc maxConcurrency graph) := by
  constructor
  case closed => exact hclosed
  case counted => simp [start]
  case done => exact isEmpty_iff_length_eq_zero.trans Int.natCast_eq_zero.symm
  case placed =>
    intro nodeId hnode
    have hmem : nodeId ∈ graph.nodeIds := hnode
    rw [places_start, blockers_start, count_nil]
    by_cases hnone : (sources graph nodeId).length = 0
    · rw [if_pos ⟨hmem, hnone⟩, if_neg (by omega)]
    · rw [if_neg fun h => hnone h.2, if_pos (by omega)]
  case absent =>
    intro nodeId hnode
    rw [places_start, if_neg fun h => hnode h.1, count_nil]
  case pending =>
    intro nodeId hnode
    rw [blockers_start]
    exact (getD_countNodes graph graph.nodeIds Dict.empty nodeId).trans (if_pos hnode)
  case waiting =>
    intro source _ nodeId
    have hwait := count_awaitNodes graph graph.nodes.keysNodup Dict.empty source nodeId
    refine hwait.trans ?_
    split
    · exact Nat.zero_add _
    · rename_i hnode
      have hnone : (sources graph nodeId).count source = 0 :=
        count_eq_zero.mpr fun hsource => hnode (hclosed nodeId source hsource).2
      exact hnone.symm
  case states =>
    intro nodeId hnode
    cases hnode
  case result =>
    intro result hresult
    rw [start] at hresult ⊢
    dsimp only at hresult ⊢
    split at hresult
    · rename_i hempty
      exact ⟨hempty, fun _ _ _ => rfl⟩
    · cases hresult

end Start

/-! ### Events that settle no node -/

variable {task : Worker} {worker : Nat}

theorem workerIn_eq_some {phase : Phase} (h : scheduler.workerIn worker phase = some task) :
    scheduler.workers[worker]? = some task :=
  (Option.filter_eq_some_iff.mp h).1

theorem places_moveWorker
    (h : scheduler.workers[worker]? = some task) (next : Option Worker) (nodeId : String) :
    (scheduler.moveWorker worker next).places nodeId + (if task.nodeId = nodeId then 1 else 0) =
      scheduler.places nodeId + next.toList.countP
        (fun other => decide (other.nodeId = nodeId)) := by
  have hcount := Roster.countP_advance h (fun other => decide (other.nodeId = nodeId)) next
  rw [countP_singleton] at hcount
  simp only [decide_eq_true_eq] at hcount
  simp only [places, moveWorker]
  omega

theorem Kept.held (h : Kept raised interrupted scheduler)
    (htask : scheduler.workers[worker]? = some task) :
    task.nodeId ∈ scheduler.graph.nodeIds ∧ task.nodeId ∉ scheduler.completed ∧
      scheduler.blockers task.nodeId = 0 := by
  have hheld : 0 < scheduler.workers.countP fun other => decide (other.nodeId = task.nodeId) :=
    countP_pos_iff.mpr ⟨task, mem_of_getElem? htask, decide_eq_true rfl⟩
  have hmem : task.nodeId ∈ scheduler.graph.nodeIds := by
    by_contra hnode
    have hnone := h.absent task.nodeId hnode
    rw [places] at hnone
    omega
  have hplaced := h.placed task.nodeId hmem
  rw [places] at hplaced
  refine ⟨hmem, ?_, ?_⟩
  · rw [← count_eq_zero]
    omega
  · split at hplaced <;> omega

/-- An event that settles no node: what is counted stays, wherever it is. -/
structure Quiet (raised next : List String) (before after : AsyncTaskScheduler) : Prop where
  frame : ∃ graph queue workers permits, after = { before with
    graph := graph, readyQueue := queue, workers := workers, permits := permits }
  nodeIds : after.graph.nodeIds = before.graph.nodeIds
  sources : sources after.graph = sources before.graph
  places : ∀ nodeId, after.places nodeId + next.count nodeId =
    before.places nodeId + raised.count nodeId
  length : after.readyQueue.length + after.workers.length + next.length =
    before.readyQueue.length + before.workers.length + raised.length
  states : ∀ nodeId ∈ before.completed, after.graph.stateOf nodeId = before.graph.stateOf nodeId

/-- An event that settles no node keeps the invariant. -/
theorem Quiet.kept {next : List String} {after : AsyncTaskScheduler}
    (hquiet : Quiet raised next scheduler after) (h : Kept raised interrupted scheduler) :
    Kept next interrupted after := by
  obtain ⟨⟨graph, queue, workers, permits, rfl⟩, hids, hsources, hplaces, hlength, hstates⟩ :=
    hquiet
  have hblock (nodeId : String) : blockers { scheduler with
      graph := graph, readyQueue := queue, workers := workers, permits := permits } nodeId =
      scheduler.blockers nodeId := by
    rw [blockers, hsources]
    rfl
  constructor
  case closed =>
    intro target source hsource
    rw [hsources] at hsource
    rw [hids]
    exact h.closed target source hsource
  case counted =>
    have hcounted := h.counted
    dsimp only at hlength ⊢
    omega
  case done => exact h.done
  case placed =>
    intro nodeId hnode
    have hplaced := h.placed nodeId (hids ▸ hnode)
    have hsame := hplaces nodeId
    rw [hblock]
    omega
  case absent =>
    intro nodeId hnode
    have habsent := h.absent nodeId (hids ▸ hnode)
    have hsame := hplaces nodeId
    omega
  case pending =>
    intro nodeId hnode
    rw [hblock]
    exact h.pending nodeId (hids ▸ hnode)
  case waiting =>
    intro source hsource nodeId
    rw [hsources]
    exact h.waiting source hsource nodeId
  case states =>
    intro nodeId hnode
    rw [hstates nodeId hnode]
    exact h.states nodeId hnode
  case result => exact h.result

theorem quiet_moveWorker
    (htask : scheduler.workers[worker]? = some task) (phase : Phase) (permits : Nat) :
    Quiet raised raised scheduler
      { scheduler.moveWorker worker (some { task with phase := phase }) with
        permits := permits } where
  frame := ⟨_, _, _, _, rfl⟩
  nodeIds := rfl
  sources := rfl
  places nodeId := by
    have hmove := places_moveWorker htask (some { task with phase := phase }) nodeId
    simp only [Option.toList_some, countP_singleton, decide_eq_true_eq] at hmove
    simp only [places, moveWorker] at hmove ⊢
    omega
  length := by
    have hlength := Roster.length_advance htask (some { task with phase := phase })
    simp only [Option.toList_some, length_singleton] at hlength
    simp only [moveWorker]
    omega
  states _ _ := rfl

theorem quiet_handlerRaised (htask : scheduler.workers[worker]? = some task) :
    Quiet raised (raised ++ [task.nodeId]) scheduler (scheduler.moveWorker worker none) where
  frame := ⟨_, _, _, _, rfl⟩
  nodeIds := rfl
  sources := rfl
  places nodeId := by
    have hmove := places_moveWorker htask none nodeId
    simp only [Option.toList_none, countP_nil] at hmove
    simp only [count_append, count_singleton, beq_iff_eq]
    omega
  length := by
    have hlength := Roster.length_advance htask none
    simp only [Option.toList_none, length_nil] at hlength
    simp only [moveWorker, length_append, length_singleton]
    omega
  states _ _ := rfl

theorem quiet_begun (h : Kept raised interrupted scheduler)
    (htask : scheduler.workers[worker]? = some task) (row : Assignment TrajNode.nodeId) :
    Quiet raised raised scheduler
      { scheduler with graph := scheduler.graph.write task.nodeId row } where
  frame := ⟨_, _, _, _, rfl⟩
  nodeIds := TrajectoryGraph.nodeIds_write ..
  sources := rfl
  places _ := rfl
  length := rfl
  states nodeId hnode := by
    have hne : nodeId ≠ task.nodeId := fun heq => (h.held htask).2.1 (heq ▸ hnode)
    rw [TrajectoryGraph.stateOf_write, if_neg hne]

theorem quiet_dispatch {nodeId : String} {rest : List String}
    (hqueue : scheduler.readyQueue = nodeId :: rest) :
    Quiet raised raised scheduler { scheduler with
      readyQueue := rest
      workers := scheduler.workers ++ [{ nodeId := nodeId, phase := .created }] } where
  frame := ⟨_, _, _, _, rfl⟩
  nodeIds := rfl
  sources := rfl
  places other := by
    simp only [places, hqueue, countP_append, countP_singleton, count_cons,
      decide_eq_true_eq, beq_iff_eq]
    omega
  length := by
    simp only [hqueue, length_append, length_cons, length_nil]
    omega
  states _ _ := rfl

/-! ### A node that settles -/

/-- What the end of a turn leaves, before the `finally` clause: one node has left its
worker, and `_in_flight` still counts it. -/
structure Settled (raised interrupted : List String) (before after : AsyncTaskScheduler) :
    Prop where
  nodeIds : after.graph.nodeIds = before.graph.nodeIds
  sources : sources after.graph = sources before.graph
  done : after.done = before.done
  result : after.result = before.result
  counted : after.inFlight = after.readyQueue.length + after.workers.length + raised.length + 1
  placed : ∀ nodeId ∈ before.graph.nodeIds,
    after.places nodeId + raised.count nodeId + interrupted.count nodeId +
      (if 0 < after.blockers nodeId then 1 else 0) = 1
  absent : ∀ nodeId ∉ before.graph.nodeIds,
    after.places nodeId + raised.count nodeId + interrupted.count nodeId = 0
  pending : ∀ nodeId ∈ before.graph.nodeIds, after.pending nodeId = after.blockers nodeId
  waiting : ∀ source ∉ after.completed, ∀ nodeId, (after.waiters.getD source []).count nodeId =
      (AsyncTaskScheduler.sources before.graph nodeId).count source
  states : ∀ nodeId ∈ after.completed, after.graph.stateOf nodeId = some .completed

/-- One that settles a node keeps it as well, once the `finally` clause has run. -/
theorem Settled.kept {before gone : List String} {after : AsyncTaskScheduler}
    (hsettled : Settled raised gone scheduler after) (h : Kept raised before scheduler)
    (hbusy : scheduler.workers ≠ []) : Kept raised gone after.finishNode := by
  have hflight : scheduler.inFlight ≠ 0 := by
    have hlength := length_pos_iff.mpr hbusy
    have hcounted := h.counted
    omega
  have hdone : after.done = false := by
    rw [hsettled.done, Bool.eq_false_iff]
    exact fun hdone => hflight (h.done.mp hdone)
  constructor
  · intro target source hsource
    have hgraph : after.finishNode.graph = after.graph := rfl
    rw [hgraph, hsettled.sources] at hsource
    rw [hgraph, hsettled.nodeIds]
    exact h.closed target source hsource
  · have hcounted := hsettled.counted
    simp only [finishNode]
    omega
  · simp only [finishNode, hdone, Bool.false_or, decide_eq_true_eq]
  · intro nodeId hnode
    exact hsettled.placed nodeId (hsettled.nodeIds ▸ hnode)
  · intro nodeId hnode
    exact hsettled.absent nodeId (hsettled.nodeIds ▸ hnode)
  · intro nodeId hnode
    exact hsettled.pending nodeId (hsettled.nodeIds ▸ hnode)
  · intro source hsource nodeId
    refine (hsettled.waiting source hsource nodeId).trans ?_
    have hgraph : after.finishNode.graph = after.graph := rfl
    rw [hgraph, hsettled.sources]
  · exact hsettled.states
  · intro result hresult
    have hkept : after.result = some result := hresult
    rw [hsettled.result] at hkept
    exact absurd (h.done.mp (h.result result hkept).1) hflight

section Turn

variable {worker : Nat} {task : Worker}

theorem settled_left (h : Kept raised interrupted scheduler)
    (htask : scheduler.workers[worker]? = some task) (gatePendingExc : Option String)
    {graph : TrajectoryGraph} {failed gone : List String}
    (hids : graph.nodeIds = scheduler.graph.nodeIds)
    (hsources : sources graph = sources scheduler.graph)
    (hstates : ∀ nodeId ≠ task.nodeId, graph.stateOf nodeId = scheduler.graph.stateOf nodeId)
    (hgone : ∀ nodeId, failed.count nodeId + gone.count nodeId =
      scheduler.failed.count nodeId + interrupted.count nodeId +
        if task.nodeId = nodeId then 1 else 0) :
    Settled raised gone scheduler { scheduler.moveWorker worker none with
      graph := graph, failed := failed, gatePendingExc := gatePendingExc } := by
  set after : AsyncTaskScheduler := { scheduler.moveWorker worker none with
    graph := graph, failed := failed, gatePendingExc := gatePendingExc } with hafter
  have hplaces (nodeId : String) : after.places nodeId + gone.count nodeId =
      scheduler.places nodeId + interrupted.count nodeId := by
    have hmove := places_moveWorker htask none nodeId
    have hcount := hgone nodeId
    simp only [Option.toList_none, countP_nil, places, moveWorker] at hmove
    simp only [hafter, places, moveWorker]
    omega
  have hblock (nodeId : String) : after.blockers nodeId = scheduler.blockers nodeId := by
    rw [blockers, blockers, hsources]
    rfl
  constructor
  case nodeIds => exact hids
  case sources => exact hsources
  case done => rfl
  case result => rfl
  case counted =>
    have hlength := Roster.length_advance htask none
    have hcounted := h.counted
    rw [Option.toList_none, length_nil] at hlength
    simp only [hafter, moveWorker]
    omega
  case placed =>
    intro nodeId hnode
    have hplaced := h.placed nodeId hnode
    have hsame := hplaces nodeId
    rw [hblock]
    omega
  case absent =>
    intro nodeId hnode
    have habsent := h.absent nodeId hnode
    have hsame := hplaces nodeId
    omega
  case pending =>
    intro nodeId hnode
    rw [hblock]
    exact h.pending nodeId hnode
  case waiting => exact h.waiting
  case states =>
    intro nodeId hnode
    have hne : nodeId ≠ task.nodeId := fun heq => (h.held htask).2.1 (heq ▸ hnode)
    exact (hstates nodeId hne).trans (h.states nodeId hnode)

theorem blockers_complete (graph : TrajectoryGraph) {completed : List String} {source : String}
    (hsource : source ∉ completed) (nodeId : String) :
    (sources graph nodeId).countP (fun other => decide (other ∉ completed)) =
      (sources graph nodeId).countP (fun other => decide (other ∉ completed ++ [source])) +
        (sources graph nodeId).count source := by
  induction sources graph nodeId with
  | nil => rfl
  | cons other rest ih =>
    rw [countP_cons, countP_cons, count_cons, ih]
    by_cases heq : other = source
    · subst heq
      simp [hsource]
      omega
    · by_cases hdone : other ∈ completed
      · simp [hdone, heq]
      · simp [hdone, heq]
        omega

section

variable (h : Kept raised interrupted scheduler)
include h

theorem Kept.mem_of_waiter {source nodeId : String} (hopen : source ∉ scheduler.completed)
    (hwaiter : nodeId ∈ scheduler.waiters.getD source []) : nodeId ∈ scheduler.graph.nodeIds := by
  have hpos := count_pos_iff.mpr hwaiter
  rw [h.waiting source hopen] at hpos
  exact (h.closed nodeId source (count_pos_iff.mp hpos)).2

theorem Kept.mem_of_completed {nodeId : String}
    (hdone : nodeId ∈ scheduler.completed) : nodeId ∈ scheduler.graph.nodeIds := by
  by_contra hout
  have hplaces := h.absent nodeId hout
  have hcount := count_pos_iff.mpr hdone
  rw [places] at hplaces
  omega

/-- A completed node frees the nodes that waited for it alone. -/
theorem settled_completed (htask : scheduler.workers[worker]? = some task) (result : PyValue) :
    Settled raised interrupted scheduler
      ((scheduler.moveWorker worker none).settleNode task.nodeId (.returned result)) := by
  obtain ⟨hmem, hnew, hfree⟩ := h.held htask
  set moved : AsyncTaskScheduler := { scheduler.moveWorker worker none with
    graph := scheduler.graph.write task.nodeId (nodeUpdate .completed result)
    completed := scheduler.completed ++ [task.nodeId] } with hmoved
  have hwaiting := h.waiting task.nodeId hnew
  have hcount (nodeId : String) : (scheduler.blockers nodeId : Int) = moved.blockers nodeId +
        (scheduler.waiters.getD task.nodeId []).count nodeId := by
    rw [hwaiting]
    exact_mod_cast blockers_complete scheduler.graph hnew nodeId
  have hunblocked := unblocked_foldl (scheduler.waiters.getD task.nodeId []) moved
    fun nodeId hwaiter => by
      have hpending : moved.pending nodeId = scheduler.blockers nodeId :=
        h.pending nodeId (h.mem_of_waiter hnew hwaiter)
      have hsum := hcount nodeId
      omega
  have hunblock : (scheduler.moveWorker worker none).settleNode task.nodeId (.returned result) =
      (scheduler.waiters.getD task.nodeId []).foldl unblockOne moved := rfl
  rw [hunblock]
  obtain ⟨counts, inFlight, queue, hframe⟩ :=
    exists_unblock_eq (scheduler.waiters.getD task.nodeId []) moved
  rw [hframe] at hunblocked ⊢
  obtain ⟨hpending, hqueued, hinFlight⟩ := hunblocked
  -- The node has left its worker; the others are where they were, or are queued now.
  have hplaces (nodeId : String) : AsyncTaskScheduler.places { moved with
          pendingCount := counts, inFlight := inFlight, readyQueue := queue } nodeId =
        scheduler.places nodeId + if 0 < (scheduler.waiters.getD task.nodeId []).count nodeId ∧
            moved.pending nodeId = (scheduler.waiters.getD task.nodeId []).count nodeId
          then 1 else 0 := by
    have hmove := places_moveWorker htask none nodeId
    have hqueue := hqueued nodeId
    have hlist : [task.nodeId].count nodeId = if task.nodeId = nodeId then 1 else 0 := by
      simp [count_singleton]
    simp only [Option.toList_none, countP_nil, places, moveWorker] at hmove
    simp only [hmoved, places, moveWorker, count_append, hlist] at hqueue ⊢
    omega
  have hblock (nodeId : String) : AsyncTaskScheduler.blockers { moved with
      pendingCount := counts, inFlight := inFlight, readyQueue := queue } nodeId =
    moved.blockers nodeId := rfl
  constructor
  case nodeIds => exact TrajectoryGraph.nodeIds_write ..
  case sources => rfl
  case done => rfl
  case result => rfl
  case counted =>
    have hlength := Roster.length_advance htask none
    have hcounted := h.counted
    rw [Option.toList_none, length_nil] at hlength
    simp only [hmoved, moveWorker] at hinFlight ⊢
    omega
  case placed =>
    intro nodeId hnode
    have hold := h.placed nodeId hnode
    have hsum := hcount nodeId
    have hwas : moved.pending nodeId = scheduler.blockers nodeId := h.pending nodeId hnode
    rw [hplaces, hblock]
    split at hold <;> split <;> split <;> omega
  case absent =>
    intro nodeId hnode
    have hnone : (scheduler.waiters.getD task.nodeId []).count nodeId = 0 :=
      count_eq_zero.mpr fun hwaiter => hnode (h.mem_of_waiter hnew hwaiter)
    have habsent := h.absent nodeId hnode
    rw [hplaces, if_neg (by omega)]
    exact habsent
  case pending =>
    intro nodeId hnode
    have hwas : moved.pending nodeId = scheduler.blockers nodeId := h.pending nodeId hnode
    have hsum := hcount nodeId
    rw [hpending, hblock]
    omega
  case waiting =>
    intro source hsource nodeId
    exact h.waiting source (fun hdone => hsource (mem_append_left _ hdone)) nodeId
  case states =>
    intro nodeId hnode
    have hstate : (scheduler.graph.write task.nodeId
      (nodeUpdate .completed result)).stateOf nodeId =
        some .completed := by
      rw [TrajectoryGraph.stateOf_write]
      split
      · obtain ⟨node, hnode⟩ := scheduler.graph.mem_nodeIds_iff.mp hmem
        rw [hnode]
        rfl
      · rename_i hne
        rcases mem_append.mp hnode with hdone | heq
        · exact h.states nodeId hdone
        · exact absurd (mem_singleton.mp heq) hne
    exact hstate

end

end Turn

/-! ### A node that is added -/

/-- What an added node leaves of the graph. -/
structure Grown (node : TrajNode) (deps : List String) (before after : TrajectoryGraph) : Prop where
  fresh : node.nodeId ∉ before.nodeIds
  nodeIds : after.nodeIds = before.nodeIds ++ [node.nodeId]
  sources : ∀ target, sources after target =
    sources before target ++ if target = node.nodeId then deps else []
  states : ∀ nodeId ∈ before.nodeIds, after.stateOf nodeId = before.stateOf nodeId

variable {deps : List String} {graph next : TrajectoryGraph} {node : TrajNode}

theorem grown_addNode (h : graph.addNode node = .ok next) : Grown node [] graph next := by
  rw [TrajectoryGraph.addNode] at h
  split at h
  · cases h
  · rename_i hnew
    obtain rfl := Except.ok.inj h
    have hfresh : graph.nodes.lookup node.nodeId = none := by
      rw [Table.lookup_eq_none_iff]
      intro row hrow heq
      exact hnew (heq ▸ mem_map_of_mem hrow)
    constructor
    · exact hnew
    · have hrows : (graph.nodes.insertOrReplace node).rows.map TrajNode.nodeId =
          graph.nodeIds ++ [node.nodeId] := by
        rw [Table.rows_insertOrReplace hfresh, map_append]
        rfl
      exact hrows
    · intro target
      have hsame := congrArg (List.map TrajEdge.source)
        (EdgeIndex.edgesAt_setdefault graph.backward node.nodeId target)
      rw [ite_self, append_nil]
      exact hsame
    · intro nodeId hnode
      have hne : nodeId ≠ node.nodeId := fun heq => hnew (heq ▸ hnode)
      have hlookup := Table.lookup_insertOrReplace graph.nodes node nodeId
      rw [if_neg hne] at hlookup
      exact congrArg (Option.map TrajNode.state) hlookup

variable {graph : TrajectoryGraph}

theorem addSequence_of_mem {source target : String}
    (hsource : source ∈ graph.nodeIds) (htarget : target ∈ graph.nodeIds) :
    ∃ next, graph.addSequence source target = .ok next ∧ next.nodes = graph.nodes ∧
      ∀ other, sources next other =
        sources graph other ++ if other = target then [source] else [] := by
  have hnot : ¬ source ∉ graph.nodeIds := not_not.mpr hsource
  have hnot' : ¬ target ∉ graph.nodeIds := not_not.mpr htarget
  rw [TrajectoryGraph.addSequence, TrajectoryGraph.addEdge, if_neg hnot, if_neg hnot']
  refine ⟨_, rfl, rfl, fun other => ?_⟩
  have happend := congrArg (List.map TrajEdge.source)
    (EdgeIndex.edgesAt_append graph.backward target other
      { source := source, target := target, edgeType := .sequence })
  refine happend.trans ?_
  split
  · rename_i heq
    subst heq
    rw [map_append]
    rfl
  · exact (append_nil _).symm

theorem addSequences_of_mem {target : String}
    (hdeps : ∀ dep ∈ deps, dep ∈ graph.nodeIds) (htarget : target ∈ graph.nodeIds) :
    (addSequences target graph deps).2 = false ∧
      (addSequences target graph deps).1.nodes = graph.nodes ∧
      ∀ other, sources (addSequences target graph deps).1 other =
        sources graph other ++ if other = target then deps else [] := by
  induction deps generalizing graph with
  | nil => exact ⟨rfl, rfl, fun _ => by rw [ite_self, append_nil]; rfl⟩
  | cons dep rest ih =>
    obtain ⟨next, hadd, hnodes, hsources⟩ :=
      addSequence_of_mem (hdeps dep mem_cons_self) htarget
    have hids : next.nodeIds = graph.nodeIds := by
      rw [TrajectoryGraph.nodeIds, hnodes]
      rfl
    rw [addSequences, hadd]
    have hrestIn : ∀ other ∈ rest, other ∈ next.nodeIds := fun other hother =>
      hids ▸ hdeps other (mem_cons_of_mem dep hother)
    obtain ⟨hraised, hrest, hall⟩ := ih hrestIn (hids ▸ htarget)
    refine ⟨hraised, hrest.trans hnodes, fun other => ?_⟩
    rw [hall, hsources]
    split
    · rw [append_assoc]
      rfl
    · rw [append_nil]

theorem Grown.closed
    (hgrown : Grown node deps graph next) (hdeps : ∀ dep ∈ deps, dep ∈ graph.nodeIds)
    (hclosed : Closed graph) : Closed next := by
  intro target source hsource
  rw [hgrown.sources, mem_append] at hsource
  rw [hgrown.nodeIds]
  rcases hsource with hold | hnew
  · obtain ⟨hsource, htarget⟩ := hclosed target source hold
    exact ⟨mem_append_left _ hsource, mem_append_left _ htarget⟩
  · split at hnew
    · rename_i htarget
      exact ⟨mem_append_left _ (hdeps source hnew), mem_append_right _ (mem_singleton.mpr htarget)⟩
    · cases hnew

theorem Grown.sources_fresh (hgrown : Grown node deps graph next) (hclosed : Closed graph) :
    AsyncTaskScheduler.sources graph node.nodeId = [] := by
  rw [eq_nil_iff_forall_not_mem]
  exact fun source hsource => hgrown.fresh (hclosed node.nodeId source hsource).2

theorem Grown.sources_eq (hgrown : Grown node deps graph next) (hclosed : Closed graph)
    (nodeId : String) : AsyncTaskScheduler.sources next nodeId =
      if nodeId = node.nodeId then deps else AsyncTaskScheduler.sources graph nodeId := by
  rw [hgrown.sources]
  split
  · rename_i hnew
    rw [hnew, hgrown.sources_fresh hclosed, nil_append]
  · rw [append_nil]

theorem addNode_eq (hadd : scheduler.graph.addNode node = .ok graph)
    (hdeps : ∀ dep ∈ deps, dep ∈ scheduler.graph.nodeIds) :
    ∃ next, Grown node deps scheduler.graph next ∧ scheduler.addNode node deps = { scheduler with
        graph := next
        pendingCount := scheduler.pendingCount.set node.nodeId
          (deps.filter fun dep => decide (dep ∉ scheduler.completed)).length
        waiters := awaitAll scheduler.waiters node.nodeId
          (deps.filter fun dep => decide (dep ∉ scheduler.completed))
        inFlight := scheduler.inFlight +
          if (deps.filter fun dep => decide (dep ∉ scheduler.completed)).length = 0 then 1 else 0
        readyQueue := scheduler.readyQueue ++
          if (deps.filter fun dep => decide (dep ∉ scheduler.completed)).length = 0
          then [node.nodeId] else [] } := by
  have hgrown := grown_addNode hadd
  have hdepsIn : ∀ dep ∈ deps, dep ∈ graph.nodeIds := fun dep hdep =>
    hgrown.nodeIds ▸ mem_append_left _ (hdeps dep hdep)
  have hnodeIn : node.nodeId ∈ graph.nodeIds :=
    hgrown.nodeIds ▸ mem_append_right _ (mem_singleton_self _)
  obtain ⟨hraised, hnodes, hsources⟩ := addSequences_of_mem hdepsIn hnodeIn
  refine ⟨(addSequences node.nodeId graph deps).1, ⟨hgrown.fresh, ?_, ?_, ?_⟩, ?_⟩
  · have hids : (addSequences node.nodeId graph deps).1.nodeIds = graph.nodeIds := by
      rw [TrajectoryGraph.nodeIds, hnodes]
      rfl
    rw [hids, hgrown.nodeIds]
  · intro target
    rw [hsources, hgrown.sources, ite_self, append_nil]
  · intro nodeId hnode
    rw [← hgrown.states nodeId hnode, TrajectoryGraph.stateOf, TrajectoryGraph.getNode, hnodes]
    rfl
  · rw [AsyncTaskScheduler.addNode, hadd]
    dsimp only
    rw [hraised, if_neg Bool.false_ne_true]
    split
    · rfl
    · rw [append_nil, Int.add_zero]

theorem places_queue (added nodeId : String) (free : Prop) [Decidable free] :
    AsyncTaskScheduler.places { scheduler with
        readyQueue := scheduler.readyQueue ++ if free then [added] else [] } nodeId =
      scheduler.places nodeId + if nodeId = added ∧ free then 1 else 0 := by
  have hqueue := count_queue scheduler.readyQueue free added nodeId
  simp only [places]
  omega

/-- A node added by a handler gets one place. -/
theorem Kept.addNode (h : Kept raised interrupted scheduler) (hbusy : scheduler.workers ≠ [])
    (hdeps : node.nodeId ∉ scheduler.graph.nodeIds → ∀ dep ∈ deps, dep ∈ scheduler.graph.nodeIds) :
    Kept raised interrupted (scheduler.addNode node deps) := by
  cases hadd : scheduler.graph.addNode node with
  | error error =>
    rw [AsyncTaskScheduler.addNode, hadd]
    exact h
  | ok graph =>
    have hfresh := (grown_addNode hadd).fresh
    obtain ⟨next, hgrown, heq⟩ := addNode_eq hadd (hdeps hfresh)
    have hsources := hgrown.sources_eq h.closed
    have hopen (source : String) (hsource : source ∉ scheduler.completed) :
        (deps.filter fun dep => decide (dep ∉ scheduler.completed)).count source =
          deps.count source :=
      count_filter (decide_eq_true hsource)
    have hblocked : (deps.filter fun dep => decide (dep ∉ scheduler.completed)).length =
        deps.countP fun dep => decide (dep ∉ scheduler.completed) :=
      countP_eq_length_filter.symm
    have hlength := length_pos_iff.mpr hbusy
    have hcounted := h.counted
    rw [heq]
    generalize (deps.filter fun dep => decide (dep ∉ scheduler.completed)) = blocking at *
    have hplaces (nodeId : String) : AsyncTaskScheduler.places { scheduler with
          readyQueue := scheduler.readyQueue ++
            if blocking.length = 0 then [node.nodeId] else [] } nodeId =
        scheduler.places nodeId + if nodeId = node.nodeId ∧ blocking.length = 0 then 1 else 0 :=
      places_queue ..
    have hblock (nodeId : String) :
        (sources next nodeId).countP (fun source => decide (source ∉ scheduler.completed)) =
          if nodeId = node.nodeId then blocking.length else scheduler.blockers nodeId := by
      rw [hsources]
      split
      · exact hblocked.symm
      · rfl
    constructor
    case closed => exact hgrown.closed (hdeps hfresh) h.closed
    case counted =>
      dsimp only
      rw [hcounted, length_queue]
      split
      · omega
      · omega
    case done =>
      -- a worker is busy, so the run is not done before and not done after
      dsimp only
      rw [h.done]
      split
      · omega
      · omega
    case placed =>
      intro nodeId hnode
      refine (congrArg₂ (fun placed (blocked : Nat) => placed + raised.count nodeId +
        interrupted.count nodeId + if 0 < blocked then 1 else 0)
        (hplaces nodeId) (hblock nodeId)).trans ?_
      rw [hgrown.nodeIds, mem_append, mem_singleton] at hnode
      by_cases hnew : nodeId = node.nodeId
      · subst hnew
        have habsent := h.absent node.nodeId hfresh
        simp only [true_and, if_true]
        split <;> split <;> omega
      · have hplaced := h.placed nodeId (hnode.resolve_right hnew)
        simp only [hnew, false_and, if_false]
        exact hplaced
    case absent =>
      intro nodeId hnode
      rw [hgrown.nodeIds, mem_append, mem_singleton, not_or] at hnode
      refine (congrArg (· + raised.count nodeId + interrupted.count nodeId)
        (hplaces nodeId)).trans ?_
      have habsent := h.absent nodeId hnode.1
      simp only [hnode.2, false_and, if_false]
      exact habsent
    case pending =>
      intro nodeId hnode
      have hset : (scheduler.pendingCount.set node.nodeId (blocking.length : Int)).getD nodeId 0 =
          if nodeId = node.nodeId then (blocking.length : Int) else scheduler.pending nodeId :=
        Dict.getD_set ..
      have hcast := congrArg (fun count : Nat => (count : Int)) (hblock nodeId)
      refine hset.trans (Eq.trans ?_ hcast.symm)
      dsimp only at hnode ⊢
      rw [hgrown.nodeIds, mem_append, mem_singleton] at hnode
      split
      · rfl
      · rename_i hnew
        exact h.pending nodeId (hnode.resolve_right hnew)
    case waiting =>
      intro source hsource nodeId
      have hwaiting := h.waiting source hsource nodeId
      refine (count_awaitAll scheduler.waiters node.nodeId blocking source nodeId).trans ?_
      dsimp only
      rw [hwaiting, hsources]
      split
      · rename_i hnew
        rw [hnew, hgrown.sources_fresh h.closed, count_nil, Nat.zero_add]
        exact hopen source hsource
      · exact Nat.add_zero _
    case states =>
      intro nodeId hnode
      exact (hgrown.states nodeId (h.mem_of_completed hnode)).trans (h.states nodeId hnode)
    case result =>
      intro result hresult
      have hzero := h.done.mp (h.result result hresult).1
      omega

/-! ## Graphs that calls build -/

section Calls

variable {graph next : TrajectoryGraph}

theorem Closed.of_incoming (h : ∀ target, ∀ edge ∈ next.getIncoming target,
      edge.source ∈ next.nodeIds ∧ target ∈ next.nodeIds) : Closed next := by
  intro target source hsource
  obtain ⟨edge, hedge, rfl⟩ := mem_map.mp hsource
  exact h target edge hedge

section

variable (h : Closed graph)
include h

theorem Closed.incoming {target : String} {edge : TrajEdge}
    (hedge : edge ∈ graph.getIncoming target) :
    edge.source ∈ graph.nodeIds ∧ target ∈ graph.nodeIds :=
  h target edge.source (mem_map_of_mem hedge)

theorem Closed.addNode {node : TrajNode} (hadd : graph.addNode node = .ok next) : Closed next := by
  have hgrown := grown_addNode hadd
  exact hgrown.closed (fun _ hdep => absurd hdep not_mem_nil) h

theorem Closed.addEdge {edge : TrajEdge} (hadd : graph.addEdge edge = .ok next) : Closed next := by
  rw [TrajectoryGraph.addEdge] at hadd
  split at hadd
  · cases hadd
  · rename_i hsource
    split at hadd
    · cases hadd
    · rename_i htarget
      obtain rfl := Except.ok.inj hadd
      apply Closed.of_incoming
      intro target other hother
      have hmem : other ∈ (graph.backward.append edge.target edge).edgesAt target := hother
      rw [EdgeIndex.edgesAt_append] at hmem
      split at hmem
      · rename_i heq
        subst heq
        rcases mem_append.mp hmem with hold | hnew
        · exact h.incoming hold
        · rw [mem_singleton.mp hnew]
          exact ⟨not_not.mp hsource, not_not.mp htarget⟩
      · exact h.incoming hmem

theorem Closed.addBranch {source : String} {targets : List String} :
    Closed (TrajectoryGraph.addBranch source graph targets).1 := by
  induction targets generalizing graph with
  | nil => exact h
  | cons target rest ih =>
    rw [TrajectoryGraph.addBranch]
    split
    · rename_i hadd
      exact ih (h.addEdge hadd)
    · exact h

theorem Closed.removeNode {nodeId : String}
    (hremove : graph.removeNode nodeId = .ok next) : Closed next := by
  rw [TrajectoryGraph.removeNode] at hremove
  split at hremove
  · cases hremove
  · obtain rfl := Except.ok.inj hremove
    apply Closed.of_incoming
    intro target edge hedge
    have hstays (other : String) (hother : other ∈ graph.nodeIds) (hne : other ≠ nodeId) :
        other ∈ (graph.nodes.deleteAt nodeId fun _ => true).rows.map TrajNode.nodeId :=
      (graph.mem_deleteNode nodeId other).mpr ⟨hother, hne⟩
    have hleft : edge ∈ (EdgeIndex.restrict (graph.backward.pop nodeId)
        ((graph.nodes.deleteAt nodeId fun _ => true).rows.map TrajNode.nodeId)
        fun edge => decide (edge.source ≠ nodeId)).edgesAt target := hedge
    rw [EdgeIndex.edgesAt_restrict, EdgeIndex.edgesAt_pop] at hleft
    by_cases htarget : target = nodeId
    · rw [if_pos htarget, filter_nil, ite_self] at hleft
      cases hleft
    · rw [if_neg htarget] at hleft
      split at hleft
      · obtain ⟨hedge, hsource⟩ := mem_filter.mp hleft
        have hold := h.incoming hedge
        exact ⟨hstays edge.source hold.1 (of_decide_eq_true hsource), hstays target hold.2 htarget⟩
      · rename_i hout
        exact absurd (hstays target (h.incoming hleft).2 htarget) hout

theorem Closed.removeEdge {source target : String}
    (hremove : graph.removeEdge source target = .ok next) : Closed next := by
  rw [TrajectoryGraph.removeEdge] at hremove
  split at hremove
  · cases hremove
  · obtain rfl := Except.ok.inj hremove
    apply Closed.of_incoming
    intro other edge hedge
    have hleft : edge ∈ EdgeIndex.edgesAt (graph.backward.set target
        ((graph.backward.edgesAt target).filter
          fun edge => decide (¬ edge.Links source target))) other := hedge
    rw [EdgeIndex.edgesAt_set] at hleft
    split at hleft
    · rename_i heq
      subst heq
      exact h.incoming (mem_of_mem_filter hleft)
    · exact h.incoming hleft

theorem Closed.orUnchanged {answer : Except GraphError TrajectoryGraph}
    (hanswer : ∀ next, answer = .ok next → Closed next) : Closed (graph.orUnchanged answer).1 := by
  cases answer with
  | ok next => exact hanswer next rfl
  | error error => exact h

theorem Closed.step (call : TrajectoryGraph.Call) : Closed (graph.step call) := by
  cases call with
  | addNode node => exact h.orUnchanged fun _ => h.addNode
  | removeNode nodeId => exact h.orUnchanged fun _ => h.removeNode
  | addEdge edge => exact h.orUnchanged fun _ => h.addEdge
  | addBranch source targets => exact h.addBranch
  | removeEdge source target => exact h.orUnchanged fun _ => h.removeEdge

end

/-- Every graph that calls can build is closed. -/
theorem closed_exec (graphId : String) (calls : List TrajectoryGraph.Call) :
    Closed (exec TrajectoryGraph.step (.new graphId) calls) := by
  have hrun : ∀ graph, Closed graph → Closed (exec TrajectoryGraph.step graph calls) := by
    induction calls with
    | nil => exact fun _ h => h
    | cons call rest ih => exact fun graph h => ih (graph.step call) (h.step call)
  apply hrun
  intro target source hsource
  cases hsource

end Calls

/-! ## Runs -/

theorem Kept.resume (h : Kept raised interrupted scheduler) (hdone : scheduler.done = true) :
    Kept raised interrupted { scheduler with result := some scheduler.outcome } :=
  { h with
    result := by
      intro result hresult
      refine ⟨hdone, fun schedule hschedule hsuccess => ?_⟩
      obtain rfl := Option.some.inj hresult
      rw [outcome] at hschedule
      split at hschedule
      · cases hschedule
      · obtain rfl := Except.ok.inj hschedule
        exact List.isEmpty_iff.mp hsuccess }

/-- A step keeps the places of the nodes. -/
theorem Kept.step {event : Event} (h : Kept raised interrupted scheduler)
    (hjoins : Joins scheduler event) :
    Kept (raised ++ scheduler.raisedBy event) (interrupted ++ scheduler.interruptedBy event)
      (scheduler.step event) := by
  have hbusy {worker : Nat} {task : Worker} (htask : scheduler.workers[worker]? = some task) :
      scheduler.workers ≠ [] := ne_nil_of_mem (mem_of_getElem? htask)
  cases event with
  | dispatch =>
    simp only [raisedBy, interruptedBy, append_nil, AsyncTaskScheduler.step]
    split
    · exact h
    · rename_i nodeId rest hqueue
      exact (quiet_dispatch hqueue).kept h
  | begun worker =>
    simp only [raisedBy, interruptedBy, append_nil, AsyncTaskScheduler.step]
    split
    · exact h
    · rename_i task hin
      have htask := workerIn_eq_some hin
      have hbegun := (quiet_begun h htask (nodeUpdate .running)).kept h
      refine (quiet_moveWorker ?_ .makingHandler scheduler.permits).kept hbegun
      exact htask
  | handlerMade worker =>
    simp only [raisedBy, interruptedBy, append_nil, AsyncTaskScheduler.step]
    split
    · exact h
    · rename_i task hin
      exact (quiet_moveWorker (workerIn_eq_some hin) .waiting scheduler.permits).kept h
  | handlerRaised worker =>
    simp only [raisedBy, interruptedBy, append_nil, AsyncTaskScheduler.step]
    split
    · rename_i hin
      simpa [hin] using h
    · rename_i task hin
      rw [hin]
      exact (quiet_handlerRaised (workerIn_eq_some hin)).kept h
  | acquire worker =>
    simp only [raisedBy, interruptedBy, append_nil, AsyncTaskScheduler.step]
    split
    · exact h
    · rename_i task hin
      split
      · exact h
      · exact (quiet_moveWorker (workerIn_eq_some hin) .executing (scheduler.permits - 1)).kept h
  | turnEnded worker outcome =>
    simp only [raisedBy, append_nil, AsyncTaskScheduler.step]
    cases hin : scheduler.workerIn worker .executing with
    | none =>
      cases outcome with
      | interrupted => simpa [interruptedBy, hin] using h
      | _ => simpa [interruptedBy] using h
    | some task =>
      have htask := workerIn_eq_some hin
      have hfailed (nodeId : String) :
          (scheduler.failed ++ [task.nodeId]).count nodeId + interrupted.count nodeId =
            scheduler.failed.count nodeId + interrupted.count nodeId +
              if task.nodeId = nodeId then 1 else 0 := by
        simp only [count_append, count_singleton, beq_iff_eq]
        omega
      have hstates (row : Assignment TrajNode.nodeId) (nodeId : String)
          (hne : nodeId ≠ task.nodeId) :
          (scheduler.graph.write task.nodeId row).stateOf nodeId =
            scheduler.graph.stateOf nodeId := by
        rw [TrajectoryGraph.stateOf_write, if_neg hne]
      have hids (row : Assignment TrajNode.nodeId) :
          (scheduler.graph.write task.nodeId row).nodeIds = scheduler.graph.nodeIds :=
        TrajectoryGraph.nodeIds_write ..
      cases outcome with
      | returned result =>
        simp only [interruptedBy, append_nil]
        exact (settled_completed h htask result).kept h (hbusy htask)
      | interrupted =>
        have hgone (nodeId : String) :
            scheduler.failed.count nodeId + (interrupted ++ [task.nodeId]).count nodeId =
              scheduler.failed.count nodeId + interrupted.count nodeId +
                if task.nodeId = nodeId then 1 else 0 := by
          simp only [count_append, count_singleton, beq_iff_eq]
          omega
        simp only [interruptedBy, hin]
        exact (settled_left h htask scheduler.gatePendingExc rfl rfl (fun _ _ => rfl) hgone).kept h
          (hbusy htask)
      | _ =>
        simp only [interruptedBy, append_nil]
        exact (settled_left h htask _ (hids _) rfl (hstates _) hfailed).kept h (hbusy htask)
  | addNode worker node deps =>
    simp only [raisedBy, interruptedBy, append_nil, AsyncTaskScheduler.step]
    split
    · rename_i hcaller
      have hworkers : scheduler.workers ≠ [] := by
        rcases hcaller with hin | hin
        · obtain ⟨task, htask⟩ := Option.isSome_iff_exists.mp hin
          exact hbusy (workerIn_eq_some htask)
        · obtain ⟨task, htask⟩ := Option.isSome_iff_exists.mp hin
          exact hbusy (workerIn_eq_some htask)
      exact h.addNode hworkers hjoins
    · exact h
  | resume =>
    simp only [raisedBy, interruptedBy, append_nil, AsyncTaskScheduler.step]
    split
    · rename_i hready
      exact h.resume hready.1
    · exact h

end AsyncTaskScheduler

end HiAgent.TaskMgmt
