/-
  TaskMgmt/AsyncScheduler.lean --- the asynchronous graph scheduler.

  `hi_agent/task_mgmt/async_scheduler.py`: `AsyncTaskScheduler`.
-/
import HiAgent.Trajectory.Superstep

namespace HiAgent.TaskMgmt

open Foundation Trajectory

/-- `ScheduleResult` of `AsyncTaskScheduler`. -/
structure AsyncScheduleResult where
  success : Bool
  completedNodes : List String := []
  failedNodes : List String := []

/-- Where `_execute_node` is. -/
inductive Phase where
  /-- The task was created. -/
  | created
  /-- `await self._make_handler(node_id)` -/
  | makingHandler
  /-- `async with self._semaphore` -/
  | waiting
  /-- `await asyncio.wait_for(self._kernel.execute_turn(...))` -/
  | executing
  deriving DecidableEq

/-- A task that runs `_execute_node`. -/
structure Worker where
  nodeId : String
  phase : Phase

/-- How `wait_for(execute_turn(...))` ends. -/
inductive TurnOutcome where
  | returned (result : PyValue)
  /-- An `Exception`, a `TimeoutError` included. -/
  | raised (reason : String)
  | gatePending (gateId : String)
  /-- An exception that is not an `Exception`, such as `CancelledError`. -/
  | interrupted

/-- `AsyncTaskScheduler` during one `run`. -/
structure AsyncTaskScheduler where
  graph : TrajectoryGraph
  pendingCount : Dict String Int
  waiters : Dict String (List String)
  readyQueue : List String
  completed : List String
  failed : List String
  inFlight : Int
  /-- Whether `_done_event` is set. -/
  done : Bool
  gatePendingExc : Option String
  /-- The value of `_semaphore`. -/
  permits : Nat
  workers : List Worker
  /-- What `run` has returned, or the gate it has raised. -/
  result : Option (Except String AsyncScheduleResult)

/-- `update_node_state`, with a result, a failure reason or neither. No node leaves
the graph during a run, so the node is there. -/
def nodeUpdate (state : NodeState) (result : PyValue := .none)
    (failureReason : Option String := none) : Assignment TrajNode.nodeId where
  set node := { node with
    state := state
    result := match result with
      | .none => node.result
      | result => result
    failureReason := failureReason <|> node.failureReason }
  keeps _ := rfl

namespace AsyncTaskScheduler

def sources (graph : TrajectoryGraph) (nodeId : String) : List String :=
  (graph.getIncoming nodeId).map TrajEdge.source

/-- `self._waiters.setdefault(dep, []).append(node_id)` for each of `deps`. -/
def awaitAll (waiters : Dict String (List String)) (nodeId : String) (deps : List String) :
    Dict String (List String) :=
  deps.foldl (fun waiters dep => waiters.set dep (waiters.getD dep [] ++ [nodeId])) waiters

/-- `self._in_flight += 1` and `self._ready_queue.put_nowait(node_id)`. -/
def enqueue (scheduler : AsyncTaskScheduler) (nodeId : String) : AsyncTaskScheduler :=
  { scheduler with
    inFlight := scheduler.inFlight + 1
    readyQueue := scheduler.readyQueue ++ [nodeId] }

/-- `run` up to its first await. Only `_gate_pending_exc` is left from earlier runs. -/
def start (gatePendingExc : Option String) (maxConcurrency : Nat) (graph : TrajectoryGraph) :
    AsyncTaskScheduler :=
  let pendingCount := graph.nodeIds.foldl
    (fun (counts : Dict String Int) nodeId => counts.set nodeId (sources graph nodeId).length)
    Dict.empty
  let ready := graph.nodeIds.filter fun nodeId => decide (pendingCount.getD nodeId 0 = 0)
  { graph := graph
    pendingCount := pendingCount
    waiters := graph.nodeIds.foldl
      (fun waiters nodeId => awaitAll waiters nodeId (sources graph nodeId)) Dict.empty
    readyQueue := ready
    completed := []
    failed := []
    inFlight := ready.length
    done := ready.isEmpty
    gatePendingExc := gatePendingExc
    permits := maxConcurrency
    workers := []
    result := if ready.isEmpty then some (.ok { success := true }) else none }

/-- One waiter of `_unblock_waiters`. -/
def unblockOne (scheduler : AsyncTaskScheduler) (waiterId : String) : AsyncTaskScheduler :=
  let count := scheduler.pendingCount.getD waiterId 0 - 1
  let scheduler := { scheduler with pendingCount := scheduler.pendingCount.set waiterId count }
  if count = 0 then scheduler.enqueue waiterId else scheduler

def unblockWaiters (scheduler : AsyncTaskScheduler) (completedNodeId : String) :
    AsyncTaskScheduler :=
  (scheduler.waiters.getD completedNodeId []).foldl unblockOne scheduler

/-- `_execute_node` from the end of the turn to the `finally` clause. -/
def settleNode (scheduler : AsyncTaskScheduler) (nodeId : String) : TurnOutcome → AsyncTaskScheduler
  | .returned result =>
    let scheduler := { scheduler with
      graph := scheduler.graph.write nodeId (nodeUpdate .completed result)
      completed := scheduler.completed ++ [nodeId] }
    scheduler.unblockWaiters nodeId
  | .raised reason => { scheduler with
      graph := scheduler.graph.write nodeId (nodeUpdate .failed .none (some reason))
      failed := scheduler.failed ++ [nodeId] }
  | .gatePending gateId => { scheduler with
      graph := scheduler.graph.write nodeId
        (nodeUpdate .failed .none (some s!"gate_pending:{gateId}"))
      failed := scheduler.failed ++ [nodeId]
      gatePendingExc := some gateId }
  | .interrupted => scheduler

/-- The `finally` clause and the end of `async with self._semaphore`. -/
def finishNode (scheduler : AsyncTaskScheduler) : AsyncTaskScheduler :=
  { scheduler with
    inFlight := scheduler.inFlight - 1
    done := scheduler.done || decide (scheduler.inFlight - 1 = 0)
    permits := scheduler.permits + 1 }

/-- The edges of `add_node`: the graph with those added before one raises, and
whether one did. -/
def addSequences (nodeId : String) : TrajectoryGraph → List String → TrajectoryGraph × Bool
  | graph, [] => (graph, false)
  | graph, dep :: deps =>
    match graph.addSequence dep nodeId with
    | .ok next => addSequences nodeId next deps
    | .error _ => (graph, true)

/-- `add_node`. A node whose edges raise stays in the graph and is not scheduled. -/
def addNode (scheduler : AsyncTaskScheduler) (node : TrajNode) (dependsOn : List String) :
    AsyncTaskScheduler :=
  match scheduler.graph.addNode node with
  | .error _ => scheduler
  | .ok graph =>
    let added := addSequences node.nodeId graph dependsOn
    if added.2 = true then { scheduler with graph := added.1 }
    else
      let blockers := dependsOn.filter fun dep => decide (dep ∉ scheduler.completed)
      let scheduler := { scheduler with
        graph := added.1
        pendingCount := scheduler.pendingCount.set node.nodeId blockers.length
        waiters := awaitAll scheduler.waiters node.nodeId blockers }
      if blockers.length = 0 then scheduler.enqueue node.nodeId else scheduler

/-- What happens between two awaits. A number is the position of a worker. -/
inductive Event where
  /-- `_dispatch` takes a node from the queue and creates a worker for it. -/
  | dispatch
  /-- A worker runs up to `await self._make_handler(node_id)`. -/
  | begun (worker : Nat)
  | handlerMade (worker : Nat)
  /-- `make_handler` raises: the worker ends, outside its `try` statement. -/
  | handlerRaised (worker : Nat)
  /-- A worker gets the semaphore and calls `execute_turn`. -/
  | acquire (worker : Nat)
  | turnEnded (worker : Nat) (outcome : TurnOutcome)
  /-- A handler, while it is made or runs, calls `add_node`. -/
  | addNode (worker : Nat) (node : TrajNode) (dependsOn : List String)
  /-- `run` wakes up and returns. -/
  | resume

def workerIn (scheduler : AsyncTaskScheduler) (worker : Nat) (phase : Phase) : Option Worker :=
  (scheduler.workers[worker]?).filter fun task => decide (task.phase = phase)

def moveWorker (scheduler : AsyncTaskScheduler) (worker : Nat) (next : Option Worker) :
    AsyncTaskScheduler :=
  { scheduler with workers := Roster.advance scheduler.workers worker next }

/-- What `run` returns once `_done_event` is set. -/
def outcome (scheduler : AsyncTaskScheduler) : Except String AsyncScheduleResult :=
  match scheduler.gatePendingExc with
  | some gateId => .error gateId
  | none => .ok {
      success := scheduler.failed.isEmpty
      completedNodes := scheduler.completed
      failedNodes := scheduler.failed }

/-- One event. An event for which nothing waits changes nothing. -/
def step (scheduler : AsyncTaskScheduler) : Event → AsyncTaskScheduler
  | .dispatch =>
    match scheduler.readyQueue with
    | [] => scheduler
    | nodeId :: rest => { scheduler with
        readyQueue := rest
        workers := scheduler.workers ++ [{ nodeId := nodeId, phase := .created }] }
  | .begun worker =>
    match scheduler.workerIn worker .created with
    | none => scheduler
    | some task =>
      { scheduler with graph := scheduler.graph.write task.nodeId (nodeUpdate .running) }.moveWorker
        worker (some { task with phase := .makingHandler })
  | .handlerMade worker =>
    match scheduler.workerIn worker .makingHandler with
    | none => scheduler
    | some task => scheduler.moveWorker worker (some { task with phase := .waiting })
  | .handlerRaised worker =>
    match scheduler.workerIn worker .makingHandler with
    | none => scheduler
    | some _ => scheduler.moveWorker worker none
  | .acquire worker =>
    match scheduler.workerIn worker .waiting with
    | none => scheduler
    | some task =>
      if scheduler.permits = 0 then scheduler
      else { scheduler with permits := scheduler.permits - 1 }.moveWorker worker
        (some { task with phase := .executing })
  | .turnEnded worker outcome =>
    match scheduler.workerIn worker .executing with
    | none => scheduler
    | some task =>
      ((scheduler.moveWorker worker none).settleNode task.nodeId outcome).finishNode
  | .addNode worker node dependsOn =>
    if (scheduler.workerIn worker .makingHandler).isSome ∨
        (scheduler.workerIn worker .executing).isSome then
      scheduler.addNode node dependsOn
    else scheduler
  | .resume =>
    if scheduler.done = true ∧ scheduler.result.isNone = true then
      { scheduler with result := some scheduler.outcome }
    else scheduler

end AsyncTaskScheduler

end HiAgent.TaskMgmt
