/-
  Kernel/TaskManager.lean --- tasks, their attempts and the log of both.

  `agent_kernel/kernel/task_manager`: the contracts, `TaskRegistry` and
  `InMemoryTaskEventLog`. Heartbeats and the index of runs, which neither the log
  nor the replay sees, are left out.
-/
import HiAgent.Foundation.Dict
import HiAgent.Foundation.PyValue

namespace HiAgent.Kernel

open Foundation

/-! ## Contracts -/

inductive TaskLifecycleState where
  | pending | running | completed | failed | restarting | reflecting | escalated | aborted
  deriving DecidableEq

inductive ExhaustedPolicy where
  | reflect | escalate | abort
  deriving DecidableEq

structure TaskRestartPolicy where
  maxAttempts : Int := 3
  backoffBaseMs : Int := 2000
  maxBackoffMs : Int := 30000
  onExhausted : ExhaustedPolicy := .reflect
  heartbeatTimeoutMs : Int := 300000

/-- The `task_kind` of a descriptor. -/
inductive TaskKind where
  | root | planStep | parallelBranch | speculativeCandidate

structure TaskDescriptor where
  taskId : String
  sessionId : String
  taskKind : TaskKind
  goalDescription : String
  parentTaskId : Option String := none
  dependencyTaskIds : List String := []
  restartPolicy : TaskRestartPolicy := {}
  metadata : PyDict := []

/-- The `outcome` of an attempt that has ended. -/
inductive AttemptOutcome where
  | completed | failed | cancelled
  deriving DecidableEq

structure TaskAttempt where
  attemptId : String
  taskId : String
  runId : String
  attemptSeq : Int
  startedAt : String
  completedAt : Option String := none
  outcome : Option AttemptOutcome := none
  failure : PyValue := .none
  reflectionOutput : Option String := none

/-! ## The event log -/

/-- The `restart_policy` of a `task.registered` payload. -/
structure PolicyPayload where
  maxAttempts : Int
  backoffBaseMs : Int
  onExhausted : ExhaustedPolicy
  heartbeatTimeoutMs : Int

/-- The payload of `task.registered`. -/
structure RegisteredPayload where
  taskId : String
  sessionId : String
  taskKind : TaskKind
  goalDescription : String
  parentTaskId : Option String
  dependencyTaskIds : List String
  metadata : PyDict
  restartPolicy : PolicyPayload

/-- The payload of `task.attempt_started`. -/
structure AttemptStartedPayload where
  attemptId : String
  taskId : String
  runId : String
  attemptSeq : Int
  startedAt : String

/-- An event of the log. The `state` in the payload of one of the last five says the same
as its type. -/
inductive TaskEvent where
  | registered (payload : RegisteredPayload)
  | attemptStarted (payload : AttemptStartedPayload)
  | attemptCompleted (taskId runId : String) (outcome : AttemptOutcome)
  | attemptFailed (taskId runId : String) (outcome : AttemptOutcome)
  | restarting (taskId : String)
  | reflecting (taskId : String)
  | completed (taskId : String)
  | escalated (taskId : String)
  | aborted (taskId : String)

/-- `InMemoryTaskEventLog`. -/
structure TaskEventLog where
  events : List TaskEvent
  maxEvents : Nat

/-- `append_task_event`. -/
def TaskEventLog.append (log : TaskEventLog) (event : TaskEvent) : TaskEventLog :=
  { log with
    events := (if log.maxEvents ≤ log.events.length then
      log.events.drop (max 1 (log.maxEvents / 4)) else log.events) ++ [event] }

/-- The payload that `register` emits. -/
def TaskDescriptor.payload (descriptor : TaskDescriptor) : RegisteredPayload where
  taskId := descriptor.taskId
  sessionId := descriptor.sessionId
  taskKind := descriptor.taskKind
  goalDescription := descriptor.goalDescription
  parentTaskId := descriptor.parentTaskId
  dependencyTaskIds := descriptor.dependencyTaskIds
  metadata := descriptor.metadata
  restartPolicy := {
    maxAttempts := descriptor.restartPolicy.maxAttempts
    backoffBaseMs := descriptor.restartPolicy.backoffBaseMs
    onExhausted := descriptor.restartPolicy.onExhausted
    heartbeatTimeoutMs := descriptor.restartPolicy.heartbeatTimeoutMs }

/-- `TaskRestartPolicy(**policy_data)`. -/
def PolicyPayload.policy (payload : PolicyPayload) : TaskRestartPolicy where
  maxAttempts := payload.maxAttempts
  backoffBaseMs := payload.backoffBaseMs
  onExhausted := payload.onExhausted
  heartbeatTimeoutMs := payload.heartbeatTimeoutMs

/-- `TaskDescriptor(**payload, ...)`. -/
def RegisteredPayload.descriptor (payload : RegisteredPayload) : TaskDescriptor where
  taskId := payload.taskId
  sessionId := payload.sessionId
  taskKind := payload.taskKind
  goalDescription := payload.goalDescription
  parentTaskId := payload.parentTaskId
  dependencyTaskIds := payload.dependencyTaskIds
  restartPolicy := payload.restartPolicy.policy
  metadata := payload.metadata

/-- The payload that `start_attempt` emits. -/
def TaskAttempt.payload (attempt : TaskAttempt) : AttemptStartedPayload where
  attemptId := attempt.attemptId
  taskId := attempt.taskId
  runId := attempt.runId
  attemptSeq := attempt.attemptSeq
  startedAt := attempt.startedAt

/-- `TaskAttempt(**payload)`. -/
def AttemptStartedPayload.attempt (payload : AttemptStartedPayload) : TaskAttempt where
  attemptId := payload.attemptId
  taskId := payload.taskId
  runId := payload.runId
  attemptSeq := payload.attemptSeq
  startedAt := payload.startedAt

/-- `state_event_map`: most states have no event. -/
def stateEvent (taskId : String) : TaskLifecycleState → Option TaskEvent
  | .restarting => some (.restarting taskId)
  | .reflecting => some (.reflecting taskId)
  | .completed => some (.completed taskId)
  | .escalated => some (.escalated taskId)
  | .aborted => some (.aborted taskId)
  | .pending | .running | .failed => none

/-! ## The registry -/

structure TaskEntry where
  descriptor : TaskDescriptor
  lifecycleState : TaskLifecycleState := .pending
  attempts : List TaskAttempt := []

namespace TaskEntry

/-- The key of `_tasks`. -/
def taskId (entry : TaskEntry) : String := entry.descriptor.taskId

/-- What `start_attempt` writes. -/
def start (attempt : TaskAttempt) : Assignment taskId :=
  ⟨fun entry => { entry with
    attempts := entry.attempts ++ [attempt]
    lifecycleState := .running }, fun _ => rfl⟩

/-- What `update_state` writes. -/
def update (state : TaskLifecycleState) : Assignment taskId :=
  ⟨fun entry => { entry with lifecycleState := state }, fun _ => rfl⟩

/-- Whether an attempt is the one that `complete_attempt` is for. -/
def active (runId : String) (attempt : TaskAttempt) : Bool :=
  decide (attempt.runId = runId ∧ attempt.outcome = none)

/-- What `complete_attempt` writes. -/
def complete (runId : String) (outcome : AttemptOutcome) (failure : PyValue) (now : String) :
    Assignment taskId :=
  ⟨fun entry => { entry with
    attempts := entry.attempts.map fun attempt =>
      if active runId attempt then
        { attempt with
          outcome := some outcome
          completedAt := some now
          failure := if outcome = .completed then .none else failure }
      else attempt
    lifecycleState := if outcome = .completed then .completed else .failed }, fun _ => rfl⟩

end TaskEntry

structure TaskRegistry where
  tasks : Table TaskEntry.taskId
  sessionIndex : Dict String (List String)
  maxTasks : Nat

/-- What a call of the registry raises. -/
inductive RegistryError where
  | valueError (message : String)
  | keyError (taskId : String)

namespace TaskRegistry

/-- `TaskRegistry(max_tasks)`. -/
def new (maxTasks : Nat) : TaskRegistry := ⟨.empty, .empty, maxTasks⟩

variable (registry : TaskRegistry)

/-- The eviction of one task. -/
def evict (taskId : String) : TaskRegistry :=
  match registry.tasks.lookup taskId with
  | none => registry
  | some entry =>
    let sessionId := entry.descriptor.sessionId
    { registry with
      tasks := registry.tasks.deleteAt taskId fun _ => true
      sessionIndex :=
        match registry.sessionIndex.get? sessionId with
        | none => registry.sessionIndex
        | some taskIds => registry.sessionIndex.set sessionId
            (taskIds.filter fun other => decide (other ≠ taskId)) }

def evictIfNeeded : TaskRegistry :=
  if registry.tasks.rows.length < registry.maxTasks then registry
  else
    let terminal := (registry.tasks.rows.filter fun entry => decide
      (entry.lifecycleState = .completed ∨ entry.lifecycleState = .aborted ∨
        entry.lifecycleState = .escalated)).map TaskEntry.taskId
    (terminal.take (max 1 (terminal.length / 2))).foldl evict registry

/-- `register`, with the event it emits. -/
def register (descriptor : TaskDescriptor) : Except RegistryError (TaskRegistry × TaskEvent) :=
  if (registry.tasks.lookup descriptor.taskId).isSome then
    .error (.valueError (s!"Task '{descriptor.taskId}' is already registered. " ++
      "Use a different task_id or call update_state() instead."))
  else
    let registry := registry.evictIfNeeded
    .ok ({ registry with
      tasks := registry.tasks.insertOrReplace { descriptor := descriptor }
      sessionIndex := registry.sessionIndex.set descriptor.sessionId
        (registry.sessionIndex.getD descriptor.sessionId [] ++ [descriptor.taskId]) },
      .registered descriptor.payload)

/-- `start_attempt`, with the event it emits. -/
def startAttempt (attempt : TaskAttempt) : Except RegistryError (TaskRegistry × TaskEvent) :=
  match registry.tasks.lookup attempt.taskId with
  | none => .error (.keyError attempt.taskId)
  | some _ =>
    .ok ({ registry with
      tasks := registry.tasks.updateAt attempt.taskId (fun _ => true) (TaskEntry.start attempt) },
      .attemptStarted attempt.payload)

/-- `complete_attempt`, with the event it emits. -/
def completeAttempt (taskId runId : String) (outcome : AttemptOutcome) (failure : PyValue)
    (now : String) : TaskRegistry × Option TaskEvent :=
  match registry.tasks.lookup taskId with
  | none => (registry, none)
  | some entry =>
    if entry.attempts.any (TaskEntry.active runId) then
      ({ registry with
          tasks := registry.tasks.updateAt taskId (fun _ => true)
            (TaskEntry.complete runId outcome failure now) },
        some (if outcome = .completed then .attemptCompleted taskId runId outcome
          else .attemptFailed taskId runId outcome))
    else (registry, none)

/-- `update_state`, with the event it emits. -/
def updateState (taskId : String) (state : TaskLifecycleState) : TaskRegistry × Option TaskEvent :=
  match registry.tasks.lookup taskId with
  | none => (registry, none)
  | some _ =>
    ({ registry with
      tasks := registry.tasks.updateAt taskId (fun _ => true) (TaskEntry.update state) },
      stateEvent taskId state)

def getAttempts (taskId : String) : List TaskAttempt :=
  ((registry.tasks.lookup taskId).map TaskEntry.attempts).getD []

/-! ## Replay -/

def isReplayed (attempt other : TaskAttempt) : Bool :=
  decide (other.attemptId = attempt.attemptId ∨
    other.runId = attempt.runId ∧ other.attemptSeq = attempt.attemptSeq)

/-- One event of `replay_into_registry`, at the time `now`. -/
def replayEvent (now : String) (registry : TaskRegistry) : TaskEvent → TaskRegistry
  | .registered payload =>
    match registry.register payload.descriptor with
    | .ok (next, _) => next
    | .error _ => registry
  | .attemptStarted payload =>
    let attempt := payload.attempt
    if (registry.getAttempts attempt.taskId).any (isReplayed attempt) then registry
    else
      match registry.startAttempt attempt with
      | .ok (next, _) => next
      | .error _ => registry
  | .attemptCompleted taskId runId outcome | .attemptFailed taskId runId outcome =>
    (registry.completeAttempt taskId runId outcome .none now).1
  | .restarting taskId => (registry.updateState taskId .restarting).1
  | .reflecting taskId => (registry.updateState taskId .reflecting).1
  | .completed taskId => (registry.updateState taskId .completed).1
  | .escalated taskId => (registry.updateState taskId .escalated).1
  | .aborted taskId => (registry.updateState taskId .aborted).1

/-- `replay_into_registry`, with the number of events it returns. No event of the log is
malformed, so each of them counts. -/
def replayIntoRegistry (log : TaskEventLog) (now : String) : TaskRegistry × Nat :=
  (log.events.foldl (replayEvent now) registry, log.events.length)

end TaskRegistry

/-! ## Runs -/

/-- A call of the registry. -/
inductive RegistryCall where
  | register (descriptor : TaskDescriptor)
  | startAttempt (attempt : TaskAttempt)
  | completeAttempt (taskId runId : String) (outcome : AttemptOutcome) (failure : PyValue)
      (now : String)
  | updateState (taskId : String) (state : TaskLifecycleState)

/-- The registry after a call, with the event it emits. A call that raises changes nothing. -/
def TaskRegistry.perform (registry : TaskRegistry) : RegistryCall → TaskRegistry × Option TaskEvent
  | .register descriptor =>
    match registry.register descriptor with
    | .ok (next, event) => (next, some event)
    | .error _ => (registry, none)
  | .startAttempt attempt =>
    match registry.startAttempt attempt with
    | .ok (next, event) => (next, some event)
    | .error _ => (registry, none)
  | .completeAttempt taskId runId outcome failure now =>
    registry.completeAttempt taskId runId outcome failure now
  | .updateState taskId state => registry.updateState taskId state

/-- A registry whose appender is an `InMemoryTaskEventLog`. -/
structure LoggedRegistry where
  registry : TaskRegistry
  log : TaskEventLog

namespace LoggedRegistry

def new (maxTasks maxEvents : Nat) : LoggedRegistry := ⟨.new maxTasks, ⟨[], maxEvents⟩⟩

/-- One call. -/
def step (live : LoggedRegistry) (call : RegistryCall) : LoggedRegistry where
  registry := (live.registry.perform call).1
  log :=
    match (live.registry.perform call).2 with
    | none => live.log
    | some event => live.log.append event

end LoggedRegistry

end HiAgent.Kernel
