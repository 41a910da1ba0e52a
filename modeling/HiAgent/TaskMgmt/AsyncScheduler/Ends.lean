/-
  TaskMgmt/AsyncScheduler/Ends.lean --- when a run ends and what its result says.

  `_in_flight` counts the queued and the executing nodes as long as no handler
  factory raises. The nodes for which `execute_turn` was called are recorded beside the
  scheduler.
-/
import HiAgent.TaskMgmt.AsyncScheduler.Places

namespace HiAgent.TaskMgmt

open Foundation Trajectory List

namespace AsyncTaskScheduler

/-! ## Graphs that can be scheduled -/

def Waits (graph : TrajectoryGraph) (source target : String) : Prop :=
  source ∈ sources graph target

def Acyclic (graph : TrajectoryGraph) : Prop :=
  ∀ nodeId, ¬ Relation.TransGen (Waits graph) nodeId nodeId

/-- What the runs are to obey: `_done_event` is set once no node is queued or held by a
worker, and success is reported only where every node has completed. -/
structure Law (scheduler : AsyncTaskScheduler) : Prop where
  ends : scheduler.readyQueue = [] → scheduler.workers = [] → scheduler.done = true
  honest : ∀ result, scheduler.result = some (.ok result) → result.success = true →
    ∀ nodeId ∈ scheduler.graph.nodeIds, scheduler.graph.stateOf nodeId = some .completed

/-- No handler factory raises, a turn that raises raises an `Exception`, and a node is
added behind nodes of the graph. -/
def Meets (scheduler : AsyncTaskScheduler) : Event → Prop
  | .handlerRaised _ => False
  | .turnEnded _ .interrupted => False
  | .addNode _ node dependsOn => node.nodeId ∉ scheduler.graph.nodeIds →
      ∀ dep ∈ dependsOn, dep ∈ scheduler.graph.nodeIds
  | _ => True

/-- What holds between two events. -/
structure Inv (scheduler : AsyncTaskScheduler) : Prop where
  closed : Closed scheduler.graph
  acyclic : Acyclic scheduler.graph
  counted : scheduler.inFlight = scheduler.readyQueue.length + scheduler.workers.length
  done : scheduler.done = true ↔ scheduler.inFlight = 0
  placed : ∀ nodeId ∈ scheduler.graph.nodeIds,
    scheduler.places nodeId + (if 0 < scheduler.blockers nodeId then 1 else 0) = 1
  absent : ∀ nodeId ∉ scheduler.graph.nodeIds, scheduler.places nodeId = 0
  pending : ∀ nodeId ∈ scheduler.graph.nodeIds, scheduler.pending nodeId = scheduler.blockers nodeId
  waiting : ∀ source ∉ scheduler.completed, ∀ nodeId,
    (scheduler.waiters.getD source []).count nodeId = (sources scheduler.graph nodeId).count source
  states : ∀ nodeId ∈ scheduler.completed, scheduler.graph.stateOf nodeId = some .completed
  result : ∀ result, scheduler.result = some result → scheduler.done = true ∧
    ∀ schedule, result = .ok schedule → schedule.success = true → scheduler.failed = []

variable {scheduler : AsyncTaskScheduler}

theorem Inv.kept (h : Inv scheduler) : Kept [] [] scheduler :=
  { h with
    counted := by simpa using h.counted
    placed := by simpa using h.placed
    absent := by simpa using h.absent }

theorem Kept.inv (h : Kept [] [] scheduler) (hacyclic : Acyclic scheduler.graph) : Inv scheduler :=
  { h with
    acyclic := hacyclic
    counted := by simpa using h.counted
    placed := by simpa using h.placed
    absent := by simpa using h.absent }

/-! ### Graphs without cycles -/

theorem Acyclic.eq_empty {graph : TrajectoryGraph} (hacyclic : Acyclic graph) (left : String → Prop)
    (hsource : ∀ nodeId ∈ graph.nodeIds, left nodeId →
      ∃ source ∈ graph.nodeIds, Waits graph source nodeId ∧ left source) :
    ∀ nodeId ∈ graph.nodeIds, ¬ left nodeId := by
  have htrans : IsTrans {nodeId // nodeId ∈ graph.nodeIds}
      fun source target => Relation.TransGen (Waits graph) source.1 target.1 :=
    ⟨fun _ _ _ => Relation.TransGen.trans⟩
  have hirrefl : Std.Irrefl (α := {nodeId // nodeId ∈ graph.nodeIds})
      fun source target => Relation.TransGen (Waits graph) source.1 target.1 :=
    ⟨fun node => hacyclic node.1⟩
  have hwf : WellFounded fun source target : {nodeId // nodeId ∈ graph.nodeIds} =>
      Relation.TransGen (Waits graph) source.1 target.1 :=
    Finite.wellFounded_of_trans_of_irrefl _
  intro nodeId hnode
  refine hwf.induction (C := fun node => ¬ left node.1) ⟨nodeId, hnode⟩ ?_
  intro node ih hleft
  obtain ⟨source, hmem, hwaits, hrest⟩ := hsource node.1 node.2 hleft
  exact ih ⟨source, hmem⟩ (.single hwaits) hrest

variable {graph next : TrajectoryGraph}

theorem Acyclic.extend {added : String} (hacyclic : Acyclic graph)
    (hwaits : ∀ source target, Waits next source target →
      source ≠ added ∧ (target ≠ added → Waits graph source target)) : Acyclic next := by
  have hpath : ∀ {source target : String}, Relation.TransGen (Waits next) source target →
      target ≠ added → Relation.TransGen (Waits graph) source target := by
    intro source target hpath hne
    induction hpath with
    | single hstep => exact .single ((hwaits _ _ hstep).2 hne)
    | tail _ hstep ih => exact (ih (hwaits _ _ hstep).1).tail ((hwaits _ _ hstep).2 hne)
  intro nodeId hcycle
  obtain ⟨target, hstep, -⟩ := Relation.TransGen.head'_iff.mp hcycle
  exact hacyclic nodeId (hpath hcycle (hwaits _ _ hstep).1)

theorem Grown.acyclic {node : TrajNode} {deps : List String}
    (hgrown : Grown node deps graph next) (hdeps : ∀ dep ∈ deps, dep ∈ graph.nodeIds)
    (hclosed : Closed graph) (hacyclic : Acyclic graph) : Acyclic next := by
  refine Acyclic.extend (hacyclic : Acyclic graph) (fun source target hwaits => ?_ :
    ∀ source target, Waits next source target →
      source ≠ node.nodeId ∧ (target ≠ node.nodeId → Waits graph source target))
  rw [Waits, hgrown.sources, mem_append] at hwaits
  rcases hwaits with hold | hnew
  · refine ⟨?_, fun _ => hold⟩
    rintro rfl
    exact hgrown.fresh (hclosed target node.nodeId hold).1
  · split at hnew
    · rename_i htarget
      refine ⟨?_, fun hne => absurd htarget hne⟩
      rintro rfl
      exact hgrown.fresh (hdeps node.nodeId hnew)
    · cases hnew

/-- A node added by a handler closes no cycle. -/
theorem Acyclic.addNode (hacyclic : Acyclic scheduler.graph) (hclosed : Closed scheduler.graph)
    {node : TrajNode} {deps : List String} (hdeps : node.nodeId ∉ scheduler.graph.nodeIds →
      ∀ dep ∈ deps, dep ∈ scheduler.graph.nodeIds) :
    Acyclic (scheduler.addNode node deps).graph := by
  cases hadd : scheduler.graph.addNode node with
  | error error =>
    rw [AsyncTaskScheduler.addNode, hadd]
    exact hacyclic
  | ok graph =>
    have hin := hdeps (grown_addNode hadd).fresh
    obtain ⟨next, hgrown, heq⟩ := addNode_eq hadd hin
    rw [heq]
    exact hgrown.acyclic hin hclosed hacyclic

theorem Acyclic.of_sources (hacyclic : Acyclic graph)
    (hsources : sources next = sources graph) : Acyclic next := by
  have hwaits : Waits next = Waits graph := by
    unfold Waits
    rw [hsources]
  intro nodeId hcycle
  rw [hwaits] at hcycle
  exact hacyclic nodeId hcycle

theorem sources_settleNode (nodeId : String) (outcome : TurnOutcome) :
    sources (scheduler.settleNode nodeId outcome).graph = sources scheduler.graph := by
  cases outcome with
  | returned result =>
    obtain ⟨counts, inFlight, queue, hframe⟩ := exists_settleNode_eq scheduler nodeId result
    rw [hframe]
    rfl
  | raised reason => rfl
  | gatePending gateId => rfl
  | interrupted => rfl

variable {event : Event}

/-- A step whose new nodes join nodes of the graph closes no cycle. -/
theorem Acyclic.step (hacyclic : Acyclic scheduler.graph)
    (hclosed : Closed scheduler.graph) (hjoins : Joins scheduler event) :
    Acyclic (scheduler.step event).graph := by
  cases event with
  | addNode worker node deps =>
    rw [AsyncTaskScheduler.step]
    split
    · exact hacyclic.addNode hclosed hjoins
    · exact hacyclic
  | turnEnded worker outcome =>
    rw [AsyncTaskScheduler.step]
    split
    · exact hacyclic
    · exact hacyclic.of_sources (sources_settleNode ..)
  | acquire worker =>
    rw [AsyncTaskScheduler.step]
    split
    · exact hacyclic
    · split
      · exact hacyclic
      · exact hacyclic
  | handlerRaised worker =>
    exact hacyclic.of_sources (by rw [AsyncTaskScheduler.step]; split <;> rfl)
  | _ => exact hacyclic.of_sources (by rw [AsyncTaskScheduler.step]; split <;> rfl)

/-! ## Runs -/

theorem Meets.joins (hmeets : Meets scheduler event) : Joins scheduler event := by
  cases event with
  | addNode worker node deps => exact hmeets
  | _ => trivial

theorem Meets.raisedBy_eq (hmeets : Meets scheduler event) : scheduler.raisedBy event = [] := by
  cases event with
  | handlerRaised worker => exact hmeets.elim
  | _ => rfl

theorem Meets.interruptedBy_eq (hmeets : Meets scheduler event) :
    scheduler.interruptedBy event = [] := by
  cases event with
  | turnEnded worker outcome =>
    cases outcome with
    | interrupted => exact hmeets.elim
    | _ => rfl
  | _ => rfl

/-- The invariant is kept by a step that meets the condition. -/
theorem Inv.step (h : Inv scheduler) (hmeets : Meets scheduler event) :
    Inv (scheduler.step event) := by
  have hkept := h.kept.step hmeets.joins
  rw [hmeets.raisedBy_eq, hmeets.interruptedBy_eq] at hkept
  exact hkept.inv (h.acyclic.step h.closed hmeets.joins)

/-- With nothing queued and nothing running the invariant gives the law. -/
theorem Inv.law (h : Inv scheduler) : Law scheduler where
  ends hqueue hworkers := by
    rw [h.done, h.counted, hqueue, hworkers]
    rfl
  honest result hresult hsuccess := by
    obtain ⟨hdone, hfailed⟩ := h.result (.ok result) hresult
    have hnone := hfailed result rfl hsuccess
    have hcounted := h.counted
    rw [h.done.mp hdone] at hcounted
    have hqueue : scheduler.readyQueue = [] := length_eq_zero_iff.mp (by omega)
    have hworkers : scheduler.workers = [] := length_eq_zero_iff.mp (by omega)
    have hleft := h.acyclic.eq_empty (· ∉ scheduler.completed) fun nodeId hnode hopen => by
      have hplaced := h.placed nodeId hnode
      have hzero : scheduler.completed.count nodeId = 0 := count_eq_zero.mpr hopen
      rw [places, hqueue, hworkers, hnone, hzero] at hplaced
      have hblocked : 0 < scheduler.blockers nodeId := by
        by_contra hfree
        rw [if_neg hfree] at hplaced
        cases hplaced
      obtain ⟨source, hsource, hwaits⟩ := countP_pos_iff.mp hblocked
      exact ⟨source, (h.closed nodeId source hsource).1, hsource, of_decide_eq_true hwaits⟩
    intro nodeId hnode
    exact h.states nodeId (not_not.mp (hleft nodeId hnode))

/-- A run over a graph without cycles, in which no handler factory raises, ends when
nothing is left to do, and reports success only where every node has completed. -/
theorem law_of_meets (gatePendingExc : Option String) (maxConcurrency : Nat)
    (graph : TrajectoryGraph) (events : List Event) (hclosed : Closed graph)
    (hacyclic : Acyclic graph)
    (hmeets : Along step Meets (start gatePendingExc maxConcurrency graph) events) :
    Always step Law (start gatePendingExc maxConcurrency graph) events := by
  have hinit : Inv (start gatePendingExc maxConcurrency graph) :=
    (kept_start gatePendingExc maxConcurrency hclosed).inv hacyclic
  refine always_of_invariant ?_ ?_ hinit hmeets
  · intro scheduler event h hmeets
    exact h.step hmeets
  · intro scheduler h
    exact h.law

def draftThenReview : TrajectoryGraph :=
  exec TrajectoryGraph.step (.new "g")
    [.addNode { nodeId := "draft" }, .addNode { nodeId := "review" },
      .addEdge { source := "draft", target := "review" }]

theorem waits_draftThenReview {source target : String}
    (h : Waits draftThenReview source target) : source = "draft" ∧ target = "review" := by
  obtain ⟨edge, hedge, rfl⟩ := mem_map.mp h
  have hindex : draftThenReview.backward = EdgeIndex.append
      (EdgeIndex.setdefault (EdgeIndex.setdefault Dict.empty "draft") "review") "review"
      { source := "draft", target := "review" } := rfl
  rw [TrajectoryGraph.getIncoming, hindex, EdgeIndex.edgesAt_append] at hedge
  split at hedge
  · rename_i heq
    exact ⟨congrArg TrajEdge.source (mem_singleton.mp hedge), heq⟩
  · rw [EdgeIndex.edgesAt_setdefault, EdgeIndex.edgesAt_setdefault] at hedge
    cases hedge

theorem acyclic_draftThenReview : Acyclic draftThenReview := by
  intro nodeId hcycle
  obtain ⟨next, hstep, -⟩ := Relation.TransGen.head'_iff.mp hcycle
  obtain ⟨before, -, hlast⟩ := Relation.TransGen.tail'_iff.mp hcycle
  have hdraft := (waits_draftThenReview hstep).1
  have hreview := (waits_draftThenReview hlast).2
  exact absurd (hdraft.symm.trans hreview) (by decide)

/-- The draft adds a summary of itself, and all three nodes complete. -/
def draftedAndReviewed : List Event :=
  [.dispatch, .begun 0, .handlerMade 0, .acquire 0,
    .addNode 0 { nodeId := "summary" } ["draft"], .turnEnded 0 (.returned .none),
    .dispatch, .dispatch, .begun 0, .begun 1, .handlerMade 1, .handlerMade 0,
    .acquire 1, .acquire 0, .turnEnded 1 (.returned .none), .turnEnded 0 (.returned .none),
    .resume]

theorem law_draftedAndReviewed :
    Always step Law (start none 64 draftThenReview) draftedAndReviewed := by
  refine law_of_meets none 64 draftThenReview draftedAndReviewed
    (closed_exec "g" _) acyclic_draftThenReview ?_
  refine ⟨trivial, trivial, trivial, trivial, ?_, trivial, trivial, trivial, trivial, trivial,
    trivial, trivial, trivial, trivial, trivial, trivial, trivial, trivial⟩
  intro _ dep hdep
  rw [mem_singleton.mp hdep]
  exact mem_cons_self

def draftAndBack : TrajectoryGraph :=
  exec TrajectoryGraph.step draftThenReview
    [.addEdge { source := "review", target := "draft", edgeType := .backtrack }]

/-- Each of the two nodes waits for the other, so none is queued, and the run reports
success before it has executed a node. -/
theorem not_law_draftAndBack :
    ¬ ∀ (gatePendingExc : Option String) (maxConcurrency : Nat) (graph : TrajectoryGraph)
      (events : List Event), Always step Law
      (start gatePendingExc maxConcurrency graph) events := by
  intro h
  have hlaw : Law (start none 64 draftAndBack) := h none 64 draftAndBack []
  have hcompleted := hlaw.honest { success := true } rfl rfl "draft" mem_cons_self
  exact absurd hcompleted (by decide)

/-- A handler factory that raises leaves `_in_flight` at one, so a run of one node waits
for ever. -/
example : ¬ Law (exec step
    (start none 64 (exec TrajectoryGraph.step (.new "g") [.addNode { nodeId := "draft" }]))
    [.dispatch, .begun 0, .handlerRaised 0]) := by
  intro hlaw
  exact absurd (hlaw.ends rfl rfl) (by decide)

end AsyncTaskScheduler

namespace AsyncTaskScheduler

variable (scheduler : AsyncTaskScheduler)

/-! ## The turns of a run -/

/-- The node for which an event calls `execute_turn`. -/
def executedBy : Event → List String
  | .acquire worker =>
    if scheduler.permits = 0 then []
    else ((scheduler.workerIn worker .waiting).map Worker.nodeId).toList
  | _ => []

def executing (nodeId : String) : Nat :=
  scheduler.workers.countP fun task => decide (task.nodeId = nodeId ∧ task.phase = .executing)

def turns (nodeId : String) : Nat :=
  scheduler.executing nodeId + scheduler.completed.count nodeId + scheduler.failed.count nodeId

end AsyncTaskScheduler

/-- A run, and the nodes for which it has called `execute_turn`, in order. -/
structure TurnLog where
  scheduler : AsyncTaskScheduler
  executed : List String := []

namespace TurnLog

open AsyncTaskScheduler

def step (log : TurnLog) (event : Event) : TurnLog where
  scheduler := log.scheduler.step event
  executed := log.executed ++ log.scheduler.executedBy event

/-- `execute_turn` is called once for a node at most, with every dependency COMPLETED, and
has been called for each node whose dependencies have completed when `run` returns. -/
structure InOrder (log : TurnLog) : Prop where
  once : log.executed.Nodup
  afterDependencies : ∀ nodeId ∈ log.executed, ∀ source ∈ sources log.scheduler.graph nodeId,
    log.scheduler.graph.stateOf source = some .completed
  all : log.scheduler.result.isSome = true → ∀ nodeId ∈ log.scheduler.graph.nodeIds,
    (∀ source ∈ sources log.scheduler.graph nodeId, source ∈ log.scheduler.completed) →
    nodeId ∈ log.executed

end TurnLog

namespace AsyncTaskScheduler

variable {scheduler : AsyncTaskScheduler} {raised interrupted : List String}

theorem workerIn_phase {worker : Nat} {phase : Phase} {task : Worker}
    (h : scheduler.workerIn worker phase = some task) : task.phase = phase :=
  of_decide_eq_true (Option.filter_eq_some_iff.mp h).2

/-- A node under way or ended is in some place of the scheduler. -/
theorem executing_le_places (nodeId : String) :
    scheduler.executing nodeId + scheduler.completed.count nodeId +
      scheduler.failed.count nodeId ≤ scheduler.places nodeId := by
  have hheld : scheduler.executing nodeId ≤
      scheduler.workers.countP fun task => decide (task.nodeId = nodeId) := by
    apply countP_mono_left
    intro task _ hexecuting
    exact decide_eq_true (of_decide_eq_true hexecuting).1
  rw [places]
  omega

theorem executing_moveWorker {worker : Nat} {phase : Phase} {task : Worker}
    (hin : scheduler.workerIn worker phase = some task) (next : Option Worker) (nodeId : String) :
    (scheduler.moveWorker worker next).executing nodeId +
        (if task.nodeId = nodeId ∧ phase = .executing then 1 else 0) =
      scheduler.executing nodeId + next.toList.countP fun other =>
        decide (other.nodeId = nodeId ∧ other.phase = .executing) := by
  have hcount := Roster.countP_advance (workerIn_eq_some hin)
    (fun other => decide (other.nodeId = nodeId ∧ other.phase = .executing)) next
  rw [countP_singleton, workerIn_phase hin] at hcount
  simpa [executing, moveWorker] using hcount

theorem exists_addNode_eq (scheduler : AsyncTaskScheduler) (node : TrajNode)
    (deps : List String) : ∃ graph counts waiters inFlight queue,
      scheduler.addNode node deps = { scheduler with
        graph := graph
        pendingCount := counts
        waiters := waiters
        inFlight := inFlight
        readyQueue := queue } := by
  rw [AsyncTaskScheduler.addNode]
  split
  · exact ⟨_, _, _, _, _, rfl⟩
  · dsimp only
    split
    · exact ⟨_, _, _, _, _, rfl⟩
    · split
      · exact ⟨_, _, _, _, _, rfl⟩
      · exact ⟨_, _, _, _, _, rfl⟩

/-- Executions begin turns, interruptions take them away. -/
theorem turns_step (scheduler : AsyncTaskScheduler) (event : Event) (nodeId : String) :
    (scheduler.step event).turns nodeId + (scheduler.interruptedBy event).count nodeId =
      scheduler.turns nodeId + (scheduler.executedBy event).count nodeId := by
  cases event with
  | dispatch =>
    rw [AsyncTaskScheduler.step]
    split
    · simp [interruptedBy, executedBy]
    · simp [interruptedBy, executedBy, turns, executing]
  | begun worker =>
    rw [AsyncTaskScheduler.step]
    split
    · simp [interruptedBy, executedBy]
    · rename_i task hin
      have hmove := executing_moveWorker hin (some { task with phase := .makingHandler }) nodeId
      simpa [interruptedBy, executedBy, turns, executing, moveWorker] using hmove
  | handlerMade worker =>
    rw [AsyncTaskScheduler.step]
    split
    · simp [interruptedBy, executedBy]
    · rename_i task hin
      have hmove := executing_moveWorker hin (some { task with phase := .waiting }) nodeId
      simpa [interruptedBy, executedBy, turns, executing, moveWorker] using hmove
  | handlerRaised worker =>
    rw [AsyncTaskScheduler.step]
    split
    · simp [interruptedBy, executedBy]
    · rename_i task hin
      have hmove := executing_moveWorker hin none nodeId
      simpa [interruptedBy, executedBy, turns, executing, moveWorker] using hmove
  | acquire worker =>
    rw [AsyncTaskScheduler.step]
    cases hin : scheduler.workerIn worker .waiting with
    | none => simp [interruptedBy, executedBy, hin]
    | some task =>
      by_cases hfull : scheduler.permits = 0
      · simp [interruptedBy, executedBy, hfull]
      · have hmove := executing_moveWorker hin (some { task with phase := .executing }) nodeId
        simp [executing, moveWorker, countP_singleton] at hmove
        simp [interruptedBy, executedBy, hfull, hin, turns, executing, moveWorker, count_singleton]
        omega
  | turnEnded worker outcome =>
    rw [AsyncTaskScheduler.step]
    cases hin : scheduler.workerIn worker .executing with
    | none => cases outcome <;> simp [interruptedBy, executedBy, hin]
    | some task =>
      have hmove := executing_moveWorker hin none nodeId
      simp [executing, moveWorker] at hmove
      cases outcome with
      | returned result =>
        obtain ⟨counts, inFlight, queue, hsettled⟩ :=
          exists_settleNode_eq (scheduler.moveWorker worker none) task.nodeId result
        dsimp only
        rw [hsettled]
        simp [finishNode, interruptedBy, executedBy, turns, executing, moveWorker, count_singleton]
        omega
      | interrupted =>
        simp [settleNode, finishNode, interruptedBy, executedBy, turns, executing, moveWorker,
          hin, count_singleton]
        omega
      | _ =>
        simp [settleNode, finishNode, interruptedBy, executedBy, turns, executing, moveWorker,
          count_singleton]
        omega
  | addNode worker node deps =>
    rw [AsyncTaskScheduler.step]
    split
    · obtain ⟨graph, counts, waiters, inFlight, queue, hadded⟩ :=
        exists_addNode_eq scheduler node deps
      simp [hadded, interruptedBy, executedBy, turns, executing]
    · simp [interruptedBy, executedBy]
  | resume =>
    rw [AsyncTaskScheduler.step]
    split
    · simp [interruptedBy, executedBy, turns, executing]
    · simp [interruptedBy, executedBy]

end AsyncTaskScheduler

namespace TurnLog

open AsyncTaskScheduler

/-! ## The invariant -/

variable {log : TurnLog} {raised interrupted : List String}

/-- The turns that were begun are those that go on, those that have settled their node and
those that were interrupted. -/
structure Logged (raised interrupted : List String) (log : TurnLog) : Prop where
  kept : Kept raised interrupted log.scheduler
  counted : ∀ nodeId, log.executed.count nodeId =
    log.scheduler.turns nodeId + interrupted.count nodeId

def Traced (log : TurnLog) : Prop := ∃ raised interrupted, Logged raised interrupted log

/-- The log keeps step with the scheduler. -/
theorem Logged.step {event : Event} (h : Logged raised interrupted log)
    (hjoins : Joins log.scheduler event) :
    Logged (raised ++ log.scheduler.raisedBy event)
      (interrupted ++ log.scheduler.interruptedBy event) (log.step event) where
  kept := h.kept.step hjoins
  counted nodeId := by
    have hcounted := h.counted nodeId
    have hturns := turns_step log.scheduler event nodeId
    simp only [TurnLog.step, count_append]
    omega

theorem Logged.count_le (h : Logged raised interrupted log) (nodeId : String) :
    log.executed.count nodeId +
      (if nodeId ∈ log.scheduler.graph.nodeIds ∧ log.scheduler.blockers nodeId = 0
        then 0 else 1) ≤ 1 := by
  have hcounted := h.counted nodeId
  have hturns := @executing_le_places log.scheduler nodeId
  rw [turns] at hcounted
  by_cases hnode : nodeId ∈ log.scheduler.graph.nodeIds
  · have hplaced := h.kept.placed nodeId hnode
    simp only [hnode, true_and]
    split at hplaced <;> split <;> omega
  · have habsent := h.kept.absent nodeId hnode
    simp only [hnode, false_and, if_false]
    omega

theorem Logged.inOrder (h : Logged raised interrupted log) : InOrder log where
  once := by
    rw [nodup_iff_count_le_one]
    intro nodeId
    have hcount := h.count_le nodeId
    omega
  afterDependencies nodeId hran source hsource := by
    have hcount := h.count_le nodeId
    have hpos := count_pos_iff.mpr hran
    split at hcount
    · rename_i hfree
      have hdone := countP_eq_zero.mp hfree.2 source hsource
      exact h.kept.states source (by simpa using hdone)
    · omega
  all hback nodeId hnode hsources := by
    obtain ⟨result, hresult⟩ := Option.isSome_iff_exists.mp hback
    have hzero := h.kept.done.mp (h.kept.result result hresult).1
    -- nothing is queued or held, and no handler factory has raised
    have hcounted := h.kept.counted
    rw [hzero] at hcounted
    have hqueue : log.scheduler.readyQueue = [] := length_eq_zero_iff.mp (by omega)
    have hworkers : log.scheduler.workers = [] := length_eq_zero_iff.mp (by omega)
    have hraised : raised = [] := length_eq_zero_iff.mp (by omega)
    have hfree : log.scheduler.blockers nodeId = 0 := by
      rw [blockers, countP_eq_zero]
      intro source hsource
      simp [hsources source hsource]
    have hplaced := h.kept.placed nodeId hnode
    simp only [places, hqueue, hworkers, hraised, hfree, count_nil, countP_nil,
      Nat.lt_irrefl, if_false] at hplaced
    have hran := h.counted nodeId
    rw [turns] at hran
    apply count_pos_iff.mp
    omega

/-- The order of a run: over any graph whose edges join its nodes, in any interleaving of
the workers, and whatever running handlers add behind nodes of the graph. -/
theorem always_inOrder (gatePendingExc : Option String) (maxConcurrency : Nat)
    (graph : TrajectoryGraph) (events : List Event) (hclosed : Closed graph)
    (hjoins : Along step (fun log event => Joins log.scheduler event)
      { scheduler := start gatePendingExc maxConcurrency graph } events) :
    Always step InOrder { scheduler := start gatePendingExc maxConcurrency graph } events := by
  have hinit : Traced { scheduler := start gatePendingExc maxConcurrency graph } :=
    ⟨[], [], kept_start gatePendingExc maxConcurrency hclosed, fun _ => rfl⟩
  refine always_of_invariant ?_ ?_ hinit hjoins
  · intro log event ⟨raised, interrupted, h⟩ hjoins
    exact ⟨_, _, h.step hjoins⟩
  · intro log ⟨raised, interrupted, h⟩
    exact h.inOrder

/-- The draft adds a summary behind itself while the review waits for it. -/
theorem inOrder_draftedAndReviewed :
    Always step InOrder { scheduler := start none 64 draftThenReview } draftedAndReviewed := by
  refine always_inOrder none 64 draftThenReview draftedAndReviewed (closed_exec "g" _) ?_
  refine ⟨trivial, trivial, trivial, trivial, ?_, trivial, trivial, trivial, trivial, trivial,
    trivial, trivial, trivial, trivial, trivial, trivial, trivial, trivial⟩
  intro _ dep hdep
  rw [mem_singleton.mp hdep]
  exact mem_cons_self

end TurnLog

end HiAgent.TaskMgmt
