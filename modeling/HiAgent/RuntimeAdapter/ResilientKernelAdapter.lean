/-
  RuntimeAdapter/ResilientKernelAdapter.lean --- the adapter that survives its kernel.

  `hi_agent/runtime_adapter/resilient_kernel_adapter.py`: a call is retried, refused while
  the circuit is open, and when it is a write that has failed for good it is put in an
  `EventBuffer` and in a journal. `health.py` decides whether the circuit is open,
  `consistency.py` is the journal and `reconciler.py` repairs from it.
-/
import HiAgent.Foundation.PyValue
import HiAgent.RuntimeAdapter.EventBuffer

namespace HiAgent.RuntimeAdapter

open Foundation

/-! ## Health -/

structure CallRecord where
  timestamp : Int
  success : Bool

structure AdapterHealthMonitor where
  windowSeconds : Int
  /-- `1.0 - successes / total >= unhealthy_error_rate`. -/
  tooManyErrors : Nat → Nat → Bool
  records : List CallRecord

namespace AdapterHealthMonitor

variable (monitor : AdapterHealthMonitor)

def evictOld (now : Int) : AdapterHealthMonitor :=
  let cutoff := now - monitor.windowSeconds
  { monitor with records := monitor.records.dropWhile fun record => record.timestamp < cutoff }

def recordCall (success : Bool) (now : Int) : AdapterHealthMonitor :=
  evictOld { monitor with records := monitor.records ++ [⟨now, success⟩] } now

/-- `get_health`, as far as the status is `unhealthy`. -/
def isUnhealthy (now : Int) : Bool × AdapterHealthMonitor :=
  let monitor := monitor.evictOld now
  let total := monitor.records.length
  if total = 0 then (false, monitor)
  else
    let successes := monitor.records.countP fun record => record.success
    (monitor.tooManyErrors successes total, monitor)

end AdapterHealthMonitor

/-! ## The journal and the reconciler -/

structure ConsistencyIssue where
  operation : String
  context : PyDict
  error : String

/-- What a status says of its issue. -/
inductive IssueDetail where
  | malformed (text : String)
  | unknownOperation
  | hookUnavailable
  /-- The class of the exception and its text. -/
  | raised (className message : String)

/-- `ConsistencyIssueStatus.status`. -/
inductive ReconcileStatus where
  | applied
  | failed
  | skipped
  deriving DecidableEq

structure ConsistencyIssueStatus where
  operation : String
  status : ReconcileStatus
  detail : Option IssueDetail

/-- `StageState`, by value. -/
def stageStates : List String := ["pending", "active", "blocked", "completed", "failed"]

/-- What the backend makes of a hook. -/
inductive HookAnswer where
  | unavailable
  | returned
  | raised (className message : String)

/-- A call of a method of the inner adapter. -/
structure KernelCall where
  method : String
  args : List PyValue
  kwargs : PyDict

/-- `ConsistencyReconciler._invoke`: the status, and the call that was accepted. -/
def invoke (operation : String) (args : List PyValue) (hook : HookAnswer) :
    ConsistencyIssueStatus × Option KernelCall :=
  match hook with
  | .unavailable => (⟨operation, .skipped, some .hookUnavailable⟩, none)
  | .raised className message => (⟨operation, .failed, some (.raised className message)⟩, none)
  | .returned => (⟨operation, .applied, none⟩, some ⟨operation, args, []⟩)

def reconcileIssue (issue : ConsistencyIssue) (hook : HookAnswer) :
    ConsistencyIssueStatus × Option KernelCall :=
  let malformed (text : String) : ConsistencyIssueStatus × Option KernelCall :=
    (⟨issue.operation, .failed, some (.malformed text)⟩, none)
  if issue.operation = "open_stage" then
    match issue.context.get "stage_id" .none with
    | .str stageId => invoke issue.operation [.str stageId] hook
    | _ => malformed "stage_id must be str"
  else if issue.operation = "mark_stage_state" then
    match issue.context.get "stage_id" .none, issue.context.get "target_state" .none with
    | .str stageId, .str targetState =>
      if targetState ∈ stageStates then
        invoke issue.operation [.str stageId, .str targetState] hook
      else malformed ("unsupported target_state=" ++ targetState)
    | _, _ => malformed "stage_id/target_state must be str"
  else if issue.operation = "record_task_view" then
    match issue.context.get "task_view_id" .none with
    | .str taskViewId =>
      let content := issue.context.without "task_view_id"
      invoke issue.operation [.str taskViewId, .dict content] hook
    | _ => malformed "task_view_id must be str"
  else (⟨issue.operation, .skipped, some .unknownOperation⟩, none)

structure ConsistencyReconcileReport where
  total : Nat
  applied : Nat
  failed : Nat
  skipped : Nat
  issueStatuses : List ConsistencyIssueStatus

/-- `reconcile`: the report, and for each issue the call that was accepted. -/
def reconcile (issues : List ConsistencyIssue) (hooks : Nat → HookAnswer) :
    ConsistencyReconcileReport × List (Option KernelCall) :=
  let results := issues.zipIdx.map fun issue => reconcileIssue issue.1 (hooks issue.2)
  let issueStatuses := results.map Prod.fst
  let count (status : ReconcileStatus) : Nat :=
    issueStatuses.countP fun issueStatus => issueStatus.status == status
  ({ total := issueStatuses.length
     applied := count .applied
     failed := count .failed
     skipped := issueStatuses.length - count .applied - count .failed
     issueStatuses := issueStatuses }, results.map Prod.snd)

/-! ## The adapter -/

def writeMethods : List String :=
  ["open_stage", "mark_stage_state", "record_task_view", "bind_task_view_to_decision",
    "start_run", "cancel_run", "resume_run", "signal_run", "open_branch", "mark_branch_state",
    "open_human_gate", "submit_approval", "spawn_child_run", "spawn_child_run_async"]

/-- An item of the buffer. The number tells which write of the adapter it is; the code
does not look at it. -/
structure BufferedWrite where
  number : Nat
  method : String
  payload : PyDict

structure ResilientKernelAdapter where
  maxRetries : Nat
  buffer : EventBuffer BufferedWrite
  health : AdapterHealthMonitor
  journal : List ConsistencyIssue

/-- The answer to one attempt: its error, if it raises, and when that is recorded. -/
structure AttemptAnswer where
  error : Option String
  recordedAt : Int

/-- How a call ends. -/
inductive CallOutcome where
  | returned
  | circuitOpen
  /-- All retries are exhausted; the text of the last exception. -/
  | exhausted (error : String)

namespace ResilientKernelAdapter

variable (adapter : ResilientKernelAdapter)

/-- The attempts of `_call` from a given one on. -/
def attempts (answers : Nat → AttemptAnswer) :
    Nat → Nat → AdapterHealthMonitor → Except String Unit × AdapterHealthMonitor
  | retries, attempt, health =>
    let answer := answers attempt
    let health := health.recordCall answer.error.isNone answer.recordedAt
    match answer.error, retries with
    | none, _ => (.ok (), health)
    | some error, 0 => (.error error, health)
    | some _, retries + 1 => attempts answers retries (attempt + 1) health

def payloadOf (call : KernelCall) : PyDict :=
  [("args", .list call.args), ("kwargs", .dict call.kwargs)]

/-- `_call`, for the write of that number. -/
def call (number : Nat) (call : KernelCall) (checkedAt : Int) (answers : Nat → AttemptAnswer) :
    CallOutcome × ResilientKernelAdapter :=
  let health := adapter.health.isUnhealthy checkedAt
  if health.1 then (.circuitOpen, { adapter with health := health.2 })
  else
    match attempts answers adapter.maxRetries 0 health.2 with
    | (.ok _, health) => (.returned, { adapter with health := health })
    | (.error error, health) =>
      if call.method ∈ writeMethods then
        (.exhausted error, { adapter with
            health := health
            buffer := adapter.buffer.append ⟨number, call.method, payloadOf call⟩
            journal := adapter.journal ++ [⟨call.method, payloadOf call, error⟩] })
      else (.exhausted error, { adapter with health := health })

/-- `_dispatch`, inside `replay_buffered`: the call that is made of an item. -/
def dispatched (item : BufferedWrite) : Option KernelCall :=
  match item.payload.get "args" (.list []), item.payload.get "kwargs" (.dict []) with
  | .list args, .dict kwargs => some ⟨item.method, args, kwargs⟩
  | _, _ => none

/-- `replay_buffered`: the items the inner adapter accepts. -/
def replayBuffered (accepts : Nat → Bool) : List BufferedWrite × ResilientKernelAdapter :=
  let flushed := adapter.buffer.flush accepts
  (flushed.1, { adapter with buffer := flushed.2 })

theorem dispatched_payloadOf (number : Nat) (call : KernelCall) :
    dispatched ⟨number, call.method, payloadOf call⟩ = some call := rfl

end ResilientKernelAdapter

end HiAgent.RuntimeAdapter
