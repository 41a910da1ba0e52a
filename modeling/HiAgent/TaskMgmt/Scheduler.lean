/-
  TaskMgmt/Scheduler.lean --- the superstep scheduler with yield and resume.

  `hi_agent/task_mgmt/scheduler.py`: `TaskScheduler`, with `TaskHandle` of
  `hi_agent/task_mgmt/handle.py`.
-/
import HiAgent.Trajectory.Graph

namespace HiAgent.TaskMgmt

open Foundation Trajectory

inductive TaskStatus where
  | pending | ready | running | blocked | yielded | completed | failed | cancelled
  deriving DecidableEq

structure TaskHandle where
  taskId : String
  status : TaskStatus := .pending
  dependencies : List String := []
  dependents : List String := []
  blockedBy : List String := []
  result : PyValue := .none
  error : Option String := none
  retryCount : Nat := 0
  maxRetries : Nat := 2
  sessionSnapshot : Option PyDict := none
  yieldReason : String := ""

namespace TaskHandle

def isTerminal (task : TaskHandle) : Bool :=
  decide (task.status = .completed ∨ task.status = .failed ∨ task.status = .cancelled)

/-- `src not in dependencies: dependencies.append(src)`. -/
def addDependency (source : String) : Assignment taskId where
  set task := if source ∈ task.dependencies then task
    else { task with dependencies := task.dependencies ++ [source] }
  keeps task := by
    split
    · rfl
    · rfl

/-- `tgt not in dependents: dependents.append(tgt)`. -/
def addDependent (target : String) : Assignment taskId where
  set task := if target ∈ task.dependents then task
    else { task with dependents := task.dependents ++ [target] }
  keeps task := by
    split
    · rfl
    · rfl

/-- What `_dispatch_task` writes. -/
def start : Assignment taskId :=
  ⟨fun task => { task with status := .running }, fun _ => rfl⟩

/-- What `yield_task` writes. -/
def yield (blockedBy : List String) (sessionSnapshot : Option PyDict) (reason : String) :
    Assignment taskId :=
  ⟨fun task => { task with
    status := .yielded
    sessionSnapshot := sessionSnapshot
    yieldReason := reason
    blockedBy := blockedBy }, fun _ => rfl⟩

/-- What `resume_task` writes; an empty dict of results is not stored. -/
def resume (dependencyResults : Option PyDict) : Assignment taskId :=
  ⟨fun task => { task with
    status := .ready
    blockedBy := []
    sessionSnapshot :=
      match dependencyResults, task.sessionSnapshot with
      | some (first :: rest), some snapshot =>
        some (PyDict.set snapshot "dependency_results" (.dict (first :: rest)))
      | _, snapshot => snapshot }, fun _ => rfl⟩

/-- What `cancel_task` writes. -/
def cancel (reason : String) : Assignment taskId :=
  ⟨fun task => { task with status := .cancelled, error := some reason }, fun _ => rfl⟩

/-- What `_on_task_done` writes, whatever the status is. -/
def finish : Except String PyValue → Assignment taskId
  | .ok result =>
    ⟨fun task => { task with status := .completed, result := result }, fun _ => rfl⟩
  | .error error =>
    ⟨fun task =>
      if task.retryCount < task.maxRetries then
        { task with retryCount := task.retryCount + 1, status := .pending, error := none }
      else { task with status := .failed, error := some error },
     fun task => by
      split
      · rfl
      · rfl⟩

/-- What `_check_unblock` writes to a task that waits for `completed`. -/
def dropBlocker (completed : String) : Assignment taskId :=
  ⟨fun task => { task with
    blockedBy := task.blockedBy.filter fun blocker => decide (blocker ≠ completed) },
   fun _ => rfl⟩

end TaskHandle

/-- Where a task that was submitted to the pool is. -/
inductive FuturePhase where
  | submitted
  | running
  | done (outcome : Except String PyValue)

/-- A `Future` of the superstep. -/
structure Future where
  taskId : String
  phase : FuturePhase := .submitted

namespace Future

def isRunning (future : Future) : Bool :=
  match future.phase with
  | .running => true
  | _ => false

def isSubmitted (future : Future) : Bool :=
  match future.phase with
  | .submitted => true
  | _ => false

def outcome (future : Future) : Option (Except String PyValue) :=
  match future.phase with
  | .done outcome => some outcome
  | _ => none

end Future

/-- Where `schedule` is, with the supersteps that `max_steps` leaves. -/
inductive SchedulePoint where
  /-- No call is going on. -/
  | idle
  /-- At the head of the loop. -/
  | looping (steps : Nat)
  /-- Behind `get_ready_tasks`, with the tasks that are not dispatched yet. -/
  | dispatching (steps : Nat) (ready : List String)
  /-- In the loop over `as_completed(futures)`. -/
  | collecting (steps : Nat)
  deriving DecidableEq

/-- `ScheduleResult`, without the tokens and the time. -/
structure ScheduleResult where
  success : Bool
  totalSteps : Nat
  completedTasks : List String
  failedTasks : List String
  yieldedTasks : List String
  cancelledTasks : List String

/-- `TaskScheduler`, without subscribers to its notifications. -/
structure TaskScheduler where
  tasks : Table TaskHandle.taskId
  maxWorkers : Nat
  /-- Whether there is an execute function. -/
  configured : Bool
  stepCount : Nat := 0
  futures : List Future := []
  point : SchedulePoint := .idle
  /-- What the last `schedule` returned. -/
  result : Option ScheduleResult := none

/-- A call that the lock makes atomic. -/
inductive TaskCall where
  | yieldTask (taskId : String) (blockedBy : List String) (sessionSnapshot : Option PyDict)
      (reason : String)
  | resumeTask (taskId : String) (dependencyResults : Option PyDict)
  | cancelTask (taskId : String) (reason : String)

namespace TaskScheduler

/-! ## Loading a graph -/

/-- The handles of `load_graph`, in topological order. -/
def loadTasks (graph : TrajectoryGraph) (tasks : Table TaskHandle.taskId) :
    List String → Table TaskHandle.taskId
  | [] => tasks
  | nodeId :: rest =>
    match graph.getNode nodeId with
    | none => loadTasks graph tasks rest
    | some node => loadTasks graph
        (tasks.insertOrReplace { taskId := nodeId, maxRetries := node.maxRetries }) rest

/-- One edge of `load_graph`. -/
def loadEdge (tasks : Table TaskHandle.taskId) (edge : TrajEdge) : Table TaskHandle.taskId :=
  if edge.edgeType ≠ .sequence ∧ edge.edgeType ≠ .branch then tasks
  else if (tasks.lookup edge.target).isSome ∧ (tasks.lookup edge.source).isSome then
    (tasks.updateAt edge.target (fun _ => true) (TaskHandle.addDependency edge.source)).updateAt
      edge.source (fun _ => true) (TaskHandle.addDependent edge.target)
  else tasks

/-- `TaskScheduler(max_workers)` and `load_graph(graph, execute_fn)`. -/
def loadGraph (maxWorkers : Nat) (graph : TrajectoryGraph) (configured : Bool) :
    Except GraphError TaskScheduler :=
  (graph.topologicalSort).map fun order =>
    { tasks := graph.edges.foldl loadEdge (loadTasks graph Table.empty order)
      maxWorkers := maxWorkers
      configured := configured }

variable (scheduler : TaskScheduler)

/-! ## Tasks -/

/-- `self._tasks.get(task_id)`. -/
def getTask (taskId : String) : Option TaskHandle := scheduler.tasks.lookup taskId

def statusOf (taskId : String) : Option TaskStatus :=
  (scheduler.getTask taskId).map TaskHandle.status

def write (taskId : String) (row : Assignment TaskHandle.taskId) : TaskScheduler :=
  { scheduler with tasks := scheduler.tasks.updateAt taskId (fun _ => true) row }

def yieldTask (taskId : String) (blockedBy : List String) (sessionSnapshot : Option PyDict)
    (reason : String) : TaskScheduler :=
  scheduler.write taskId (TaskHandle.yield blockedBy sessionSnapshot reason)

def resumeTask (taskId : String) (dependencyResults : Option PyDict) : TaskScheduler :=
  if scheduler.statusOf taskId = some .yielded then
    scheduler.write taskId (TaskHandle.resume dependencyResults)
  else scheduler

def cancelTask (taskId : String) (reason : String) : TaskScheduler :=
  match scheduler.getTask taskId with
  | none => scheduler
  | some task =>
    if task.isTerminal = true then scheduler
    else scheduler.write taskId (TaskHandle.cancel reason)

/-- The tasks after a call. -/
def perform : TaskCall → TaskScheduler
  | .yieldTask taskId blockedBy sessionSnapshot reason =>
    scheduler.yieldTask taskId blockedBy sessionSnapshot reason
  | .resumeTask taskId dependencyResults => scheduler.resumeTask taskId dependencyResults
  | .cancelTask taskId reason => scheduler.cancelTask taskId reason

/-- Whether `get_ready_tasks` takes the task. -/
def isReady (task : TaskHandle) : Bool :=
  decide (task.status = .pending ∨ task.status = .ready) && task.dependencies.all fun dep =>
      decide (scheduler.getTask dep = none ∨ scheduler.statusOf dep = some .completed)

def getReadyTasks : List String :=
  (scheduler.tasks.rows.filter scheduler.isReady).map TaskHandle.taskId

def allTerminal : Bool := scheduler.tasks.rows.all TaskHandle.isTerminal

def withStatus (status : TaskStatus) : List String :=
  (scheduler.tasks.rows.filter fun task => decide (task.status = status)).map TaskHandle.taskId

/-- `_build_result`, without the tokens and the time. -/
def buildResult : ScheduleResult where
  success := (scheduler.withStatus .failed).isEmpty && !(scheduler.withStatus .completed).isEmpty
  totalSteps := scheduler.stepCount
  completedTasks := scheduler.withStatus .completed
  failedTasks := scheduler.withStatus .failed
  yieldedTasks := scheduler.withStatus .yielded
  cancelledTasks := scheduler.withStatus .cancelled

/-! ## The unblock scan -/

/-- Whether a task is yielded and waits for `completed`. -/
def waitsFor (completed : String) (task : TaskHandle) : Bool :=
  decide (task.status = .yielded ∧ completed ∈ task.blockedBy)

/-- Whether a task that waits for `completed` waits for nothing else. -/
def waitsOnlyFor (completed : String) (task : TaskHandle) : Bool :=
  waitsFor completed task && ((TaskHandle.dropBlocker completed).set task).blockedBy.isEmpty

/-- `_check_unblock`: the tasks it leaves, and those it returns. -/
def checkUnblock (completed : String) : TaskScheduler × List String :=
  ({ scheduler with tasks :=
      scheduler.tasks.update (waitsFor completed) (TaskHandle.dropBlocker completed) },
    (scheduler.tasks.rows.filter (waitsOnlyFor completed)).map TaskHandle.taskId)

/-- One task of the scan in `schedule`. -/
def unblockFrom (taskId : String) : TaskScheduler :=
  if scheduler.statusOf taskId = some .completed then
    let unblocked := scheduler.checkUnblock taskId
    unblocked.2.foldl (fun scheduler resumed => scheduler.resumeTask resumed none) unblocked.1
  else scheduler

def unblockAll : TaskScheduler :=
  (scheduler.tasks.rows.map TaskHandle.taskId).foldl unblockFrom scheduler

/-! ## Events -/

/-- What one thread does while it holds the lock. -/
inductive Event where
  /-- `schedule(max_steps)` is called. -/
  | schedule (maxSteps : Nat)
  /-- The head of the loop, with `get_ready_tasks`. -/
  | superstep
  /-- `_dispatch_task` of the next ready task, or the end of the loop over them. -/
  | dispatch
  /-- The pool takes the task it holds longest. -/
  | start
  /-- A call of a running function, or one made while no `schedule` is going on. -/
  | call (call : TaskCall)
  /-- A running function returns or raises. -/
  | ended (future : Nat) (outcome : Except String PyValue)
  /-- `as_completed` yields a future: `_on_task_done`. -/
  | collect (future : Nat)
  /-- The unblock scan and the end of the superstep. -/
  | unblock

/-- The end of `schedule`. -/
def finish : TaskScheduler :=
  { scheduler with point := .idle, result := some scheduler.buildResult }

/-- One event. An event for which nothing waits changes nothing. -/
def step : Event → TaskScheduler
  | .schedule maxSteps =>
    if scheduler.point = .idle then
      -- Without an execute function `schedule` raises.
      if scheduler.tasks.rows ≠ [] ∧ scheduler.configured = false then scheduler
      else { scheduler with point := .looping maxSteps }
    else scheduler
  | .superstep =>
    match scheduler.point with
    | .looping 0 => scheduler.finish
    | .looping (steps + 1) =>
      let scheduler := { scheduler with stepCount := scheduler.stepCount + 1 }
      match scheduler.getReadyTasks with
      | [] => scheduler.finish
      | ready => { scheduler with point := .dispatching steps ready }
    | _ => scheduler
  | .dispatch =>
    match scheduler.point with
    | .dispatching steps [] => { scheduler with point := .collecting steps }
    | .dispatching steps (taskId :: ready) =>
      { scheduler.write taskId TaskHandle.start with
        futures := scheduler.futures ++ [{ taskId := taskId }]
        point := .dispatching steps ready }
    | _ => scheduler
  | .start =>
    if scheduler.futures.countP Future.isRunning < scheduler.maxWorkers then
      match scheduler.futures.findIdx? Future.isSubmitted with
      | none => scheduler
      | some index => { scheduler with
          futures := scheduler.futures.modify index fun future =>
            { future with phase := .running } }
    else scheduler
  | .call call =>
    if scheduler.point = .idle ∨ scheduler.futures.any Future.isRunning = true then
      scheduler.perform call
    else scheduler
  | .ended index outcome =>
    match scheduler.futures[index]? with
    | none => scheduler
    | some future =>
      if future.isRunning = true then
        { scheduler with futures :=
            Roster.advance scheduler.futures index (some { future with phase := .done outcome }) }
      else scheduler
  | .collect index =>
    match scheduler.point, scheduler.futures[index]? with
    | .collecting _, some future =>
      match future.outcome with
      | none => scheduler
      | some outcome =>
        { scheduler.write future.taskId (TaskHandle.finish outcome) with
          futures := Roster.advance scheduler.futures index none }
    | _, _ => scheduler
  | .unblock =>
    match scheduler.point, scheduler.futures with
    | .collecting steps, [] =>
      let scheduler := scheduler.unblockAll
      if scheduler.allTerminal = true then scheduler.finish
      else { scheduler with point := .looping steps }
    | _, _ => scheduler

end TaskScheduler

end HiAgent.TaskMgmt
