/-
  Server/RunStateTransitions.lean --- the state graph of a managed run.

  `hi_agent/contracts/run.py`: `RunState`.
  `hi_agent/server/run_state_transitions.py`: `transition`, the one place that
  writes `run.state`.
  `hi_agent/server/run_store.py`: one table, keyed by run id. The `mark_*` methods are one
  `UPDATE` each behind one scope check.
-/
import HiAgent.Foundation.PyValue
import HiAgent.Server.RunQueue

namespace HiAgent.Server

inductive RunState where
  | created
  | active
  | waiting
  | recovering
  | completed
  | failed
  | aborted
  | running
  | cancelled
  | queueTimeout
  | queueFull
  deriving DecidableEq

namespace RunState

/-- The value of an enumeration member. -/
def value : RunState → String
  | created => "created"
  | active => "active"
  | waiting => "waiting"
  | recovering => "recovering"
  | completed => "completed"
  | failed => "failed"
  | aborted => "aborted"
  | running => "running"
  | cancelled => "cancelled"
  | queueTimeout => "queue_timeout"
  | queueFull => "queue_full"

def all : List RunState :=
  [created, active, waiting, recovering, completed, failed, aborted, running,
    cancelled, queueTimeout, queueFull]

/-- `status in _VALID_RESULT_STATES`, with the member it then is. -/
def ofValue (status : String) : Option RunState :=
  all.find? fun state => state.value == status

/-- `_LEGAL_TRANSITIONS`, in the order `sorted` prints. -/
def legalTransitions : RunState → List RunState
  | created => [cancelled, failed, running]
  | running =>
    [aborted, active, cancelled, completed, failed, queueFull, queueTimeout, recovering, waiting]
  | active => [cancelled, completed, failed]
  | waiting => [cancelled, completed, failed]
  | recovering => [cancelled, completed, failed]
  | completed => []
  | failed => []
  | cancelled => []
  | aborted => []
  | queueTimeout => []
  | queueFull => []

def isTerminal : RunState → Bool
  | completed => true
  | failed => true
  | cancelled => true
  | aborted => true
  | queueTimeout => true
  | queueFull => true
  | _ => false

def quoted (text : String) : String := "'" ++ text ++ "'"

/-- `transition`: the state after it, or the message of the `ValueError`. -/
def transition (runId : String) (currentState targetState : RunState) : Except String RunState :=
  if currentState = targetState then .ok currentState
  else if currentState.isTerminal && targetState.isTerminal then .ok currentState
  else if targetState ∈ currentState.legalTransitions then .ok targetState
  else .error ("Illegal state transition " ++ quoted currentState.value ++ " -> " ++
    quoted targetState.value ++ " for run " ++ quoted runId ++ ". Allowed from " ++
    quoted currentState.value ++ ": [" ++ ", ".intercalate
      (currentState.legalTransitions.map fun state => quoted state.value) ++ "]")

section Graph

variable {runId : String} {current target next : RunState}

theorem legalTransitions_of_isTerminal (h : current.isTerminal = true) :
    current.legalTransitions = [] := by
  cases current <;> first | rfl | cases h

theorem eq_of_transition_of_isTerminal (hover : current.isTerminal = true)
    (h : transition runId current target = .ok next) : next = current := by
  unfold transition at h
  rw [legalTransitions_of_isTerminal hover] at h
  split at h
  · exact (Except.ok.inj h).symm
  · split at h
    · exact (Except.ok.inj h).symm
    · split at h
      · rename_i hlegal
        cases hlegal
      · cases h

theorem transition_failed (runId : String) (current : RunState) : transition runId current .failed =
      .ok (if current.isTerminal then current else .failed) := by
  cases current <;> rfl

theorem transition_running (h : current = .created ∨ current = .running) :
    transition runId current .running = .ok .running := by
  rcases h with rfl | rfl <;> rfl

theorem of_transition_running (h : transition runId current .running = .ok next) :
    (current = .created ∨ current = .running) ∧ next = .running := by
  cases current with
  | created => exact ⟨.inl rfl, (Except.ok.inj h).symm⟩
  | running => exact ⟨.inr rfl, (Except.ok.inj h).symm⟩
  | active => cases h
  | waiting => cases h
  | recovering => cases h
  | completed => cases h
  | failed => cases h
  | aborted => cases h
  | cancelled => cases h
  | queueTimeout => cases h
  | queueFull => cases h

end Graph

end RunState

open Foundation

/-! ## Records -/

/-- The values of `run_records.status`. -/
inductive RunStatus where
  | queued
  | running
  | completed
  | failed
  | cancelled

/-- A row of `run_records`. -/
structure RunRow where
  runId : String
  tenantId : String
  userId : String
  sessionId : String
  taskContractJson : String
  status : RunStatus
  priority : Int
  attemptCount : Nat
  cancellationFlag : Bool
  resultSummary : String
  errorSummary : String
  createdAt : Int
  updatedAt : Int
  projectId : String
  finishedAt : Int
  parentRunId : String
  attemptId : String
  phaseId : String

/-- `RunRecord`: tenant and project are the values of the request, which nothing
has checked to be text. -/
structure RunRecord where
  runId : String
  tenantId : PyValue
  taskContractJson : String
  status : RunStatus
  priority : Int
  attemptCount : Nat
  cancellationFlag : Bool
  resultSummary : String
  errorSummary : String
  createdAt : Int
  updatedAt : Int
  userId : String
  sessionId : String
  projectId : PyValue
  finishedAt : Int
  parentRunId : String
  attemptId : String
  phaseId : String

/-- The spine fields of `RunRecord.__post_init__` that are empty. -/
def RunRecord.missing (record : RunRecord) : List String :=
  (if record.runId = "" then ["run_id"] else []) ++
    (if record.tenantId.truthy then [] else ["tenant_id"])

/-- The fields of the `RunExecutionContext` that `upsert` reads. -/
structure RunStoreContext where
  tenantId : PyValue
  userId : String
  sessionId : String
  projectId : PyValue
  runId : String

def ownerOr (fromContext owner : String) : String :=
  if owner = "" ∨ owner = "__legacy__" then
    if fromContext ≠ "" then fromContext else owner
  else owner

/-- The record after the context has filled its gaps. -/
def RunRecord.resolved (record : RunRecord) (execCtx : Option RunStoreContext) : RunRecord :=
  match execCtx with
  | none => record
  | some ctx => { record with
      tenantId := if record.tenantId.truthy then record.tenantId else ctx.tenantId
      userId := ownerOr ctx.userId record.userId
      sessionId := ownerOr ctx.sessionId record.sessionId
      projectId := if record.projectId.truthy then record.projectId else ctx.projectId
      runId := if record.runId = "" then ctx.runId else record.runId }

/-- The row that `INSERT OR REPLACE` writes for a record: all parameters are
bound before a constraint is looked at. -/
def RunRecord.row (record : RunRecord) : Except Raised RunRow :=
  (PyValue.textColumn record.tenantId).bind fun tenantId =>
    (PyValue.integerColumn record.priority).bind fun priority =>
      (PyValue.textColumn record.projectId).bind fun projectId =>
        (PyValue.notNull tenantId).bind fun tenantId =>
          (PyValue.notNull projectId).map fun projectId =>
            { tenantId, priority, projectId
              runId := record.runId
              userId := record.userId
              sessionId := record.sessionId
              taskContractJson := record.taskContractJson
              status := record.status
              attemptCount := record.attemptCount
              cancellationFlag := record.cancellationFlag
              resultSummary := record.resultSummary
              errorSummary := record.errorSummary
              createdAt := record.createdAt
              updatedAt := record.updatedAt
              finishedAt := record.finishedAt
              parentRunId := record.parentRunId
              attemptId := record.attemptId
              phaseId := record.phaseId }

/-! ## Tenant scope -/

/-- The exceptions of a scope check of the store. -/
inductive RunStoreError where
  /-- The `ValueError` of `Posture.from_env`. -/
  | posture (message : String)
  /-- `TenantScopeError`. -/
  | tenantScope (message : String)

def checkRunStoreTenantScope (posture : Except String Posture)
    (workspace : Option String) (method : String) :
    Except RunStoreError (Option String) :=
  if Text.strip (workspace.getD "") ≠ "" then .ok workspace
  else
    match posture with
    | .error message => .error (.posture message)
    | .ok posture =>
      if posture.isStrict then .error (.tenantScope
        ("SQLiteRunStore." ++ method ++ " requires workspace (tenant_id) under " ++
          "posture=" ++ posture.value ++ ". Pass workspace=<tenant_id> to scope " ++
          "the mutation; defense-in-depth (W34+ D.2 mirror)."))
      else .ok none

/-! ## Methods -/

/-- The database behind a `SQLiteRunStore`. -/
abbrev RunStore := Table RunRow.runId

namespace RunStore

/-- `SET status = 'running'`. -/
def toRunning (now : Int) : Assignment RunRow.runId where
  set row := { row with status := .running, updatedAt := now }
  keeps _ := rfl

/-- `SET status = 'completed'`. -/
def toCompleted (now : Int) (resultSummary : String) : Assignment RunRow.runId where
  set row := { row with
    status := .completed
    resultSummary
    updatedAt := now
    finishedAt := now }
  keeps _ := rfl

/-- `SET status = 'failed'`. -/
def toFailed (now : Int) (errorSummary : String) : Assignment RunRow.runId where
  set row := { row with
    status := .failed
    errorSummary
    updatedAt := now
    finishedAt := now }
  keeps _ := rfl

/-- `SET status = 'cancelled'`. -/
def toCancelled (now : Int) : Assignment RunRow.runId where
  set row := { row with
    status := .cancelled
    cancellationFlag := true
    updatedAt := now
    finishedAt := now }
  keeps _ := rfl

/-- The body that the `mark_*` methods share. -/
def mark (store : RunStore) (posture : Except String Posture)
    (workspace : Option String) (method runId : String)
    (f : Assignment RunRow.runId) : Except RunStoreError RunStore :=
  (checkRunStoreTenantScope posture workspace method).map fun scope =>
    store.updateAt runId (fun row => covers scope row.tenantId) f

def markRunning (store : RunStore) (posture : Except String Posture) (now : Int)
    (runId : String) (workspace : Option String) : Except RunStoreError RunStore :=
  store.mark posture workspace "mark_running" runId (toRunning now)

def markComplete (store : RunStore) (posture : Except String Posture) (now : Int)
    (runId resultSummary : String) (workspace : Option String) :
    Except RunStoreError RunStore :=
  store.mark posture workspace "mark_complete" runId (toCompleted now resultSummary)

def markFailed (store : RunStore) (posture : Except String Posture) (now : Int)
    (runId errorSummary : String) (workspace : Option String) :
    Except RunStoreError RunStore :=
  store.mark posture workspace "mark_failed" runId (toFailed now errorSummary)

def markCancelled (store : RunStore) (posture : Except String Posture) (now : Int)
    (runId : String) (workspace : Option String) : Except RunStoreError RunStore :=
  store.mark posture workspace "mark_cancelled" runId (toCancelled now)

theorem mark_none (store : RunStore) (posture : Except String Posture)
    (method runId : String) (f : Assignment RunRow.runId) :
    (∃ after, store.mark posture none method runId f = .ok after) ↔
      ∃ p, posture = .ok p ∧ p.isStrict = false := by
  unfold mark checkRunStoreTenantScope
  rw [Option.getD_none, if_neg (by simp)]
  cases posture with
  | error message => simp [Except.map]
  | ok posture =>
    cases hstrict : posture.isStrict with
    | _ => simp [Except.map, hstrict]

end RunStore

end HiAgent.Server
