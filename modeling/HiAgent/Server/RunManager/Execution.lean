/-
  Server/RunManager/Execution.lean --- what an execution thread does to its run.

  `_execute_run` and `_execute_run_durable` of `hi_agent/server/run_manager.py`
  share the writes to the `ManagedRun` and the end of their `finally` blocks.
  Each write is made under the lock of the manager and is one function of the
  run; the end is one function of the stores, of which every step may raise.
-/
import HiAgent.Server.RunManager

namespace HiAgent.Server

open Foundation

/-! ## The images of a final state -/

def runStateToTerminal (state : String) : String :=
  if state = "completed" ∨ state = "succeeded" then "succeeded"
  else if state = "cancelled" then "cancelled"
  else if state = "timed_out" ∨ state = "queue_timeout" then "timed_out"
  else "failed"

/-- `_run_state_to_status_code`: the default code of the terminal state. -/
def runStateToStatusCode (state : String) : Int :=
  defaultStatusCodeFor (statusOfTerminalState (runStateToTerminal state))

/-! ## Writes to a run -/

/-- The state that an executor asks for: `result.status`, where no status counts
as success and an unknown one as failure. -/
def resultState (status : PyValue) : Except String RunState :=
  match status with
  | .none => .ok .completed
  | .str status => .ok ((RunState.ofValue status).getD .failed)
  | .list _ => .error "unhashable type: 'list'"
  | .dict _ => .error "unhashable type: 'dict'"
  | _ => .ok .failed

namespace ManagedRun

def begin (run : ManagedRun) (now : Int) : Except String ManagedRun :=
  (RunState.transition run.runId run.state .running).map fun state =>
    { run with state, updatedAt := now, startedAt := some now }

/-- The transition after an executor has returned. -/
def conclude (run : ManagedRun) (status error : PyValue) (now : Int) : Except String ManagedRun :=
  (resultState status).bind fun target =>
    (RunState.transition run.runId run.state target).map fun state =>
      let succeeded := status.eq .none || status.eq (.str "completed")
      { run with
        state
        updatedAt := now
        error := if succeeded then run.error
          else if error.truthy then error else status }

/-- The transition to `failed`, with its reason: the handler of an exception, a
lost lease, a full queue, no slot in time. -/
def failWith (run : ManagedRun) (message : String) (now : Int) : ManagedRun :=
  match RunState.transition run.runId run.state .failed with
  | .ok state => { run with state, error := .str message, updatedAt := now }
  | .error _ => run

/-- The transition of `cancel_run`, which leaves other states alone. -/
def cancel (run : ManagedRun) (now : Int) : ManagedRun :=
  if run.state = .created ∨ run.state = .running then
    match RunState.transition run.runId run.state .cancelled with
    | .ok state => { run with state, updatedAt := now }
    | .error _ => run
  else run

/-- `finished_at` is set once. -/
def finish (run : ManagedRun) (now : Int) : ManagedRun :=
  { run with finishedAt := some (run.finishedAt.getD now) }

/-- A write to a run. -/
inductive Write where
  | begin
  | conclude (status error : PyValue)
  | failWith (message : String)
  | cancel
  | finish

/-- The run after a write; a transition that raises writes nothing. -/
def write (run : ManagedRun) : Int × Write → ManagedRun
  | (now, .begin) => (run.begin now).toOption.getD run
  | (now, .conclude status error) => (run.conclude status error now).toOption.getD run
  | (now, .failWith message) => run.failWith message now
  | (now, .cancel) => run.cancel now
  | (now, .finish) => run.finish now

/-- What no write changes. -/
structure SameRun (run other : ManagedRun) : Prop where
  runId : other.runId = run.runId
  tenantId : other.tenantId = run.tenantId
  idempotencyKey : other.idempotencyKey = run.idempotencyKey

theorem sameRun_write (run : ManagedRun) (entry : Int × Write) : SameRun run (run.write entry) := by
  obtain ⟨now, entry⟩ := entry
  cases entry with
  | begin =>
    simp only [write, begin]
    cases RunState.transition run.runId run.state .running with
    | _ => exact ⟨rfl, rfl, rfl⟩
  | conclude status error =>
    simp only [write, conclude]
    cases resultState status with
    | error message => exact ⟨rfl, rfl, rfl⟩
    | ok target =>
      simp only [Except.bind]
      cases RunState.transition run.runId run.state target with
      | _ => exact ⟨rfl, rfl, rfl⟩
  | failWith message =>
    simp only [write, failWith]
    split
    · exact ⟨rfl, rfl, rfl⟩
    · exact ⟨rfl, rfl, rfl⟩
  | cancel =>
    simp only [write, cancel]
    split
    · split
      · exact ⟨rfl, rfl, rfl⟩
      · exact ⟨rfl, rfl, rfl⟩
    · exact ⟨rfl, rfl, rfl⟩
  | finish => exact ⟨rfl, rfl, rfl⟩

theorem sameRun_exec (run : ManagedRun) (writes : List (Int × Write)) :
    SameRun run (exec write run writes) := by
  induction writes generalizing run with
  | nil => exact ⟨rfl, rfl, rfl⟩
  | cons entry rest ih =>
    have hstep := sameRun_write run entry
    have hrest := ih (run.write entry)
    exact ⟨hrest.runId.trans hstep.runId, hrest.tenantId.trans hstep.tenantId,
      hrest.idempotencyKey.trans hstep.idempotencyKey⟩

theorem state_write_of_isTerminal (run : ManagedRun) (entry : Int × Write)
    (h : run.state.isTerminal = true) : (run.write entry).state = run.state := by
  obtain ⟨now, entry⟩ := entry
  cases entry with
  | begin =>
    simp only [write, begin]
    cases hstate : RunState.transition run.runId run.state .running with
    | error message => rfl
    | ok state => exact RunState.eq_of_transition_of_isTerminal h hstate
  | conclude status error =>
    simp only [write, conclude]
    cases resultState status with
    | error message => rfl
    | ok target =>
      simp only [Except.bind]
      cases hstate : RunState.transition run.runId run.state target with
      | error message => rfl
      | ok state => exact RunState.eq_of_transition_of_isTerminal h hstate
  | failWith message =>
    simp only [write, failWith, RunState.transition_failed, h, if_true]
  | cancel =>
    simp only [write, cancel]
    split
    · split
      · rename_i state hstate
        exact RunState.eq_of_transition_of_isTerminal h hstate
      · rfl
    · rfl
  | finish => rfl

end ManagedRun

/-! ## The stores of a thread -/

/-- What a thread reads from its surroundings when it writes to the stores. -/
structure FinishEnv where
  posture : Except String Posture
  syncedAt : Int
  completedAt : Int
  /-- `datetime.isoformat`. -/
  isoformat : Int → String
  /-- `(run.result and str(run.result)) or ""`. -/
  resultSummary : Except Raised String
  /-- `json.dumps(self.to_dict(run))`. -/
  response : Except Raised JsonText
  /-- An event store is wired; its own failures are caught. -/
  eventStore : Bool
  syncFault : Option WriteFault
  completeFault : Option WriteFault

/-- The exceptions of a thread outside the executor. -/
inductive FinishError where
  | runStore (error : RunStoreError)
  | valueError (message : String)
  | raised (error : Raised)

/-- `run.error or ""`. -/
def ManagedRun.errorText (run : ManagedRun) : PyValue :=
  if run.error.truthy then run.error else .str ""

/-- The part of `_publish_run_event` that may raise: the payload is written as
JSON, and a strict posture asks for the spine of the event. -/
def publishRunEvent (fin : FinishEnv) (run : ManagedRun) (payload : PyDict) :
    Except FinishError Unit :=
  if fin.eventStore then
    match PyValue.dumps false (.dict payload), fin.posture with
    | .error error, _ => .error (.raised error)
    | .ok _, .error message => .error (.valueError message)
    | .ok _, .ok posture =>
      let missing := ManagedRun.missing run.runId (.str run.tenantId)
      if missing ≠ [] ∧ posture.isStrict then
        .error (.valueError (spineMessage posture "StoredEvent" missing
          "Populate the fields at the construction site (Rule 12)."))
      else .ok ()
  else .ok ()

/-- The payloads of `run_started`, of `run_finalized` and of the terminal event
after it. -/
def startedPayload (fin : FinishEnv) (run : ManagedRun) : PyDict :=
  [("state", .str "running"), ("started_at", .str (fin.isoformat run.updatedAt))]

def finalizedPayload (fin : FinishEnv) (run : ManagedRun) : PyDict :=
  [("state", .str run.state.value),
    ("finished_at", run.finishedAt.elim .none fun moment => .str (fin.isoformat moment))]

def terminalPayload (fin : FinishEnv) (run : ManagedRun) : PyDict :=
  [("state", .str run.state.value), ("error", run.errorText),
    ("finished_at", run.finishedAt.elim .none fun moment => .str (fin.isoformat moment))]

/-- The call of `mark_complete`, `mark_cancelled` or `mark_failed`, by the final
state; none of them is told the tenant. -/
def markTerminal (fin : FinishEnv) (store : RunStore) (run : ManagedRun) :
    Except FinishError RunStore :=
  if run.state = .completed then
    fin.resultSummary.mapError .raised |>.bind fun summary =>
      (store.markComplete fin.posture fin.syncedAt run.runId summary none).mapError
        .runStore
  else
    fin.resultSummary.mapError .raised |>.bind fun _ =>
      if run.state = .cancelled then
        (store.markCancelled fin.posture fin.syncedAt run.runId none).mapError .runStore
      else
        -- the scope check comes first, then the error text is bound
        (store.markFailed fin.posture fin.syncedAt run.runId "" none).mapError
            .runStore |>.bind fun _ =>
          ((PyValue.textColumn run.errorText).bind PyValue.notNull).mapError
              .raised |>.bind fun text =>
            (store.markFailed fin.posture fin.syncedAt run.runId text none).mapError
              .runStore

namespace RunManager

/-- `mark_running`, which is not told the tenant. -/
def markRunning (manager : RunManager) (fin : FinishEnv) (run : ManagedRun) :
    Except FinishError Unit × RunManager :=
  match manager.runStore with
  | none => (.ok (), manager)
  | some store =>
    match store.markRunning fin.posture fin.syncedAt run.runId none with
    | .error error => (.error (.runStore error), manager)
    | .ok marked =>
      let (answer, written) := attempt fin.syncFault store marked
      (answer.mapError .raised, { manager with runStore := some written })

/-- The start of `_execute_run` between its first transition and the `try`. -/
def announce (manager : RunManager) (fin : FinishEnv) (run : ManagedRun) :
    Except FinishError Unit × RunManager :=
  match manager.markRunning fin run with
  | (.error error, manager) => (.error error, manager)
  | (.ok _, manager) => (publishRunEvent fin run (startedPayload fin run), manager)

/-- "Sync terminal state to run_store." -/
def syncRunStore (manager : RunManager) (fin : FinishEnv) (run : ManagedRun) :
    Except FinishError Unit × RunManager :=
  match manager.runStore with
  | none => (.ok (), manager)
  | some store =>
    match markTerminal fin store run with
    | .error error => (.error error, manager)
    | .ok marked =>
      let (answer, written) := attempt fin.syncFault store marked
      (answer.mapError .raised, { manager with runStore := some written })

/-- The call of `mark_complete` that closes the idempotency record: a key that is
`NULL` in the statement matches no row. -/
def closeRecord (manager : RunManager) (fin : FinishEnv) (run : ManagedRun) :
    Except FinishError Unit × RunManager :=
  match manager.idempotencyStore, run.idempotencyKey with
  | some store, some key =>
    match fin.response, PyValue.textColumn key with
    | .error error, _ => (.error (.raised error), manager)
    | .ok _, .error error => (.error (.raised error), manager)
    | .ok _, .ok none => (.ok (), manager)
    | .ok response, .ok (some key) =>
      let (answer, written) := attempt fin.completeFault store
        (store.markComplete fin.completedAt run.tenantId key response
          (runStateToTerminal run.state.value)
          (some (runStateToStatusCode run.state.value)))
      (answer.mapError .raised, { manager with idempotencyStore := some written })
  | _, _ => (.ok (), manager)

/-- The end of a thread after it has released its slot: the events, then the
idempotency record. -/
def closeRun (manager : RunManager) (fin : FinishEnv) (run : ManagedRun) :
    Except FinishError Unit × RunManager :=
  match (publishRunEvent fin run (finalizedPayload fin run)).bind fun _ =>
      publishRunEvent fin run (terminalPayload fin run) with
  | .error error => (.error error, manager)
  | .ok _ => manager.closeRecord fin run

/-- The end of `_execute_run` and of `_execute_run_durable`, from the run record
to the idempotency record. -/
def finalize (manager : RunManager) (fin : FinishEnv) (run : ManagedRun) :
    Except FinishError Unit × RunManager :=
  match manager.syncRunStore fin run with
  | (.error error, manager) => (.error error, manager)
  | (.ok _, manager) => manager.closeRun fin run

end RunManager

end HiAgent.Server
