/-
  Server/RunManager/Durable.lean --- one execution of a run from the durable queue.

  `_execute_run_durable` of `hi_agent/server/run_manager.py` for a run that the worker has
  claimed: its thread, the heartbeat thread it starts, `cancel_run` from anywhere, and whatever
  else calls the queue.
-/
import HiAgent.Server.RunManager.Slots

namespace HiAgent.Server

open Foundation

/-! ## The queue behind the manager -/

/-- What a call of the queue reads from its surroundings: `fault` is an exception
of `sqlite3`, and `faultText` its text. -/
structure QueueEnv where
  call : Call
  fault : Option WriteFault
  faultText : String

namespace RunManager

def workerId : String := "run_manager"

/-- A call of a method of the queue: its answer, or the text of its exception. -/
def onQueue {α : Type} (manager : RunManager) (env : QueueEnv) (absent : α)
    (method : RunQueue → Except TenantScopeError (α × RunQueue)) :
    Except String α × RunManager :=
  match manager.runQueue with
  | none => (.ok absent, manager)
  | some queue =>
    match method queue with
    | .error error => (.error error.message, manager)
    | .ok (result, after) =>
      let (answer, written) := attempt env.fault queue after
      ((answer.map fun _ => result).mapError fun _ => env.faultText,
        { manager with runQueue := some written })

/-- The report after an executor has returned: `complete` or `fail`, by the state
that the run is in by then. -/
def report (manager : RunManager) (env : QueueEnv) (run : ManagedRun) :
    Except String Unit × RunManager :=
  manager.onQueue env () fun queue =>
    if run.state = .completed then
      (queue.complete env.call run.runId workerId (some run.tenantId)).map ((), ·)
    else (queue.fail env.call run.runId workerId (some run.tenantId)).map ((), ·)

def reportFailure (manager : RunManager) (env : QueueEnv) (run : ManagedRun) :
    Except String Unit × RunManager :=
  manager.onQueue env () fun queue =>
    (queue.fail env.call run.runId workerId (some run.tenantId)).map ((), ·)

/-- `heartbeat`, with its answer. -/
def renew (manager : RunManager) (env : QueueEnv) (run : ManagedRun) :
    Except String Bool × RunManager :=
  manager.onQueue env false fun queue =>
    queue.heartbeat env.call run.runId workerId (some run.tenantId)

/-- `dead_letter`, when a renewal has been denied. -/
def deadLetterLost (manager : RunManager) (env : QueueEnv) (run : ManagedRun) :
    Except String Unit × RunManager :=
  manager.onQueue env () fun queue =>
    (queue.deadLetter env.call run.runId "lease_lost" "running"
      (some run.tenantId)).map ((), ·)

/-- `cancel`, in `cancel_run`. -/
def cancelInQueue (manager : RunManager) (env : QueueEnv) (run : ManagedRun) :
    Except String Unit × RunManager :=
  manager.onQueue env () fun queue =>
    (queue.cancel env.call run.runId (some run.tenantId)).map ((), ·)

end RunManager

/-- The payload of `lease_acquired`. -/
def leasePayload : PyDict :=
  [("worker_id", .str RunManager.workerId), ("state", .str "running")]

/-- The two events before the `try`. -/
def publishLease (fin : FinishEnv) (run : ManagedRun) : Except FinishError Unit :=
  (publishRunEvent fin run leasePayload).bind fun _ =>
    publishRunEvent fin run (startedPayload fin run)

/-! ## Parties -/

/-- How far `_execute_run_durable` is. -/
inductive DurablePhase where
  | dispatched
  /-- The run is `running`. -/
  | begun
  /-- The run store knows, and the heartbeat is started. -/
  | leased
  | executing
  /-- The state of the result is written, and the queue is not told yet. -/
  | concluded
  /-- In the handler of an exception, with its text. -/
  | caught (message : String)
  /-- In the handler, and the queue is not told yet. -/
  | failing
  /-- At the top of the `finally` block. -/
  | finishing
  | retired
  | ended

/-- Where the heartbeat thread is. -/
inductive Heartbeat where
  | unstarted
  | waiting
  | renewing
  /-- The renewal was denied. -/
  | denied
  /-- The run has been failed for it. -/
  | lost
  | stopped

/-- A step of the thread. -/
inductive DurableMove where
  | begin (now : Int)
  | markRunning (fin : FinishEnv)
  | publish (fin : FinishEnv)
  /-- The executor returns a result. -/
  | returns (now : Int) (status error : PyValue)
  /-- It raises an `Exception`. -/
  | raises (message : String)
  /-- It raises something else, or the handler raises in its turn. -/
  | escapes
  | report (env : QueueEnv)
  | handle (now : Int)
  | reportFailure (env : QueueEnv)
  | retire (now : Int)
  | finalize (fin : FinishEnv)

/-- A step of the heartbeat thread. -/
inductive Beat where
  /-- The wait ends: the interval is over, or the thread is told to stop. -/
  | wake
  | renew (env : QueueEnv)
  | failRun
  | deadLetter (env : QueueEnv)
  /-- An exception in the body of the loop, which is caught there. -/
  | interrupt

/-- An execution of a run, with everything around it. -/
structure Execution where
  manager : RunManager
  runId : String
  phase : DurablePhase
  heartbeat : Heartbeat
  /-- `_heartbeat_stop`. -/
  stopping : Bool

namespace Execution

/-- The `ManagedRun` of the execution. -/
def run (execution : Execution) : Option ManagedRun :=
  execution.manager.runs.lookup execution.runId

def row (execution : Execution) : Option QueueRow :=
  execution.manager.queueRow execution.runId

def write (execution : Execution) (phase : DurablePhase)
    (entry : Int × ManagedRun.Write) : Execution :=
  { execution with manager := execution.manager.writeRun execution.runId entry, phase }

/-- The execution after the thread has moved. A step that does not come next in
its phase is none. -/
def move (execution : Execution) (run : ManagedRun) (next : DurableMove) : Execution :=
  match execution.phase, next with
  | .dispatched, .begin now =>
    match run.begin now with
    -- raised before the `try`
    | .error _ => { execution with phase := .ended }
    | .ok _ => execution.write .begun (now, .begin)
  | .begun, .markRunning fin =>
    match execution.manager.markRunning fin run with
    | (.error _, manager) => { execution with manager, phase := .ended }
    | (.ok _, manager) =>
      { execution with manager, phase := .leased, heartbeat := .waiting }
  | .leased, .publish fin =>
    match publishLease fin run with
    -- raised before the `try`, and the heartbeat goes on
    | .error _ => { execution with phase := .ended }
    | .ok _ => { execution with phase := .executing }
  | .executing, .returns now status error =>
    match run.conclude status error now with
    | .error message => { execution with phase := .caught message }
    | .ok _ => execution.write .concluded (now, .conclude status error)
  | .executing, .raises message => { execution with phase := .caught message }
  | .executing, .escapes => { execution with phase := .finishing }
  | .concluded, .report env =>
    match execution.manager.report env run with
    | (.error message, manager) =>
      { execution with manager, phase := .caught message }
    | (.ok _, manager) => { execution with manager, phase := .finishing }
  | .caught _, .escapes => { execution with phase := .finishing }
  | .caught message, .handle now => execution.write .failing (now, .failWith message)
  | .failing, .reportFailure env =>
    -- whether it raises or not, the `finally` block is next
    { execution with
      manager := (execution.manager.reportFailure env run).2
      phase := .finishing }
  | .finishing, .retire now =>
    { execution.write .retired (now, .finish) with stopping := true }
  | .retired, .finalize fin =>
    { execution with
      manager := (execution.manager.finalize fin run).2
      phase := .ended }
  | _, _ => execution

/-- The execution after the heartbeat thread has moved. -/
def beat (execution : Execution) (run : ManagedRun) (next : Beat) : Execution :=
  match execution.heartbeat, next with
  | .waiting, .wake =>
    { execution with
      heartbeat := if execution.stopping then .stopped else .renewing }
  | .renewing, .renew env =>
    match execution.manager.renew env run with
    | (.error _, manager) => { execution with manager, heartbeat := .waiting }
    | (.ok true, manager) => { execution with manager, heartbeat := .waiting }
    | (.ok false, manager) => { execution with manager, heartbeat := .denied }
  | .denied, .failRun =>
    let execution := { execution with heartbeat := .lost }
    if run.state = .running then
      -- `updated_at` is left as it is
      execution.write execution.phase
        (run.updatedAt, .failWith "lease_lost: heartbeat renewal denied")
    else execution
  | .lost, .deadLetter env =>
    { execution with
      manager := (execution.manager.deadLetterLost env run).2
      heartbeat := .stopped
      stopping := true }
  | .renewing, .interrupt => { execution with heartbeat := .waiting }
  | .lost, .interrupt => { execution with heartbeat := .waiting }
  | _, _ => execution

/-- An event of the execution. -/
inductive Event where
  | thread (next : DurableMove)
  | heartbeat (next : Beat)
  /-- `cancel_run` under the lock. -/
  | cancel (now : Int) (workspace : Option TenantContext)
  /-- `cancel_run`: the queue. -/
  | cancelInQueue (env : QueueEnv)
  /-- `cancel_run`: the run store. -/
  | cancelInStore (posture : Except String Posture) (now : Int)
      (fault : Option WriteFault)
  /-- Any other call of the queue. -/
  | queue (call : Call) (op : RunQueue.Op)

/-- The execution after an event. -/
def step (execution : Execution) (event : Event) : Execution :=
  match execution.run, event with
  | none, _ => execution
  | some run, .thread next => execution.move run next
  | some run, .heartbeat next => execution.beat run next
  | some _, .cancel now workspace =>
    { execution with
      manager := (execution.manager.cancelRun now execution.runId workspace).2 }
  | some run, .cancelInQueue env =>
    { execution with manager := (execution.manager.cancelInQueue env run).2 }
  | some _, .cancelInStore posture now fault =>
    { execution with
      manager :=
        execution.manager.cancelInStore posture now execution.runId fault }
  | some _, .queue call op =>
    { execution with
      manager :=
        { execution.manager with
          runQueue := execution.manager.runQueue.map fun queue =>
            queue.perform (call, op) } }

end Execution

/-! ## Calls of the queue and one row -/

def QueueStatus.settled (status : QueueStatus) : Prop :=
  status = .completed ∨ status = .failed

def QueueRow.Guarded (row : QueueRow) : Prop :=
  row.heldBy RunManager.workerId = true ∨ row.status.settled

/-- A call of a method executes its statement, and the statement finds the row. -/
def Reaches (env : QueueEnv) (tenantId method : String) (row : QueueRow) : Prop :=
  env.fault ≠ some .execute ∧
    ∃ scope, checkTenantScope env.call.posture (some tenantId) method = .ok scope ∧
      covers scope row.tenantId = true

def Raises (env : QueueEnv) (tenantId method : String) : Prop :=
  env.fault ≠ none ∨ ∀ scope, checkTenantScope env.call.posture (some tenantId) method ≠ .ok scope

def QueueRow.Exhausted (row : QueueRow) : Prop :=
  row.attemptCount + 1 ≥ row.maxAttempts

/-- A method with a tenant scope writes `f` to the row of a run where `p` holds. -/
def Updates {α : Type} (env : QueueEnv) (runId tenantId name : String)
    (method : RunQueue → Except TenantScopeError (α × RunQueue))
    (p : Option String → QueueRow → Bool) (f : Assignment QueueRow.runId) : Prop :=
  ∀ queue, (∃ error, checkTenantScope env.call.posture (some tenantId) name =
      .error error ∧ method queue = .error error) ∨
    ∃ scope result after, checkTenantScope env.call.posture (some tenantId) name = .ok scope ∧
        method queue = .ok (result, after) ∧
          after.row runId = RunQueue.amend (p scope) f (queue.row runId)

/-- The rows that `complete` and `fail` write to. -/
def reported (scope : Option String) (row : QueueRow) : Bool :=
  row.heldBy RunManager.workerId && covers scope row.tenantId

/-- The rows that `heartbeat` writes to. -/
def renewable (now : Int) (scope : Option String) (row : QueueRow) : Bool :=
  row.heldBy RunManager.workerId && row.status == .leased && row.leaseFrom now &&
    covers scope row.tenantId

section Updates

variable (env : QueueEnv) (runId tenantId : String)

theorem updates_complete : Updates env runId tenantId "complete"
    (fun queue => (queue.complete env.call runId RunManager.workerId
      (some tenantId)).map ((), ·)) reported (QueueRow.toCompleted env.call.now) := by
  intro queue
  unfold RunQueue.complete
  cases checkTenantScope env.call.posture (some tenantId) "complete" with
  | error error => exact .inl ⟨error, rfl, rfl⟩
  | ok scope =>
    refine .inr ⟨scope, (), _, rfl, rfl, ?_⟩
    exact (queue.row_completeRows env.call scope runId RunManager.workerId runId).trans (if_pos rfl)

theorem updates_fail : Updates env runId tenantId "fail"
    (fun queue => (queue.fail env.call runId RunManager.workerId
      (some tenantId)).map ((), ·)) reported (QueueRow.toAttempted env.call.now) := by
  intro queue
  unfold RunQueue.fail
  cases checkTenantScope env.call.posture (some tenantId) "fail" with
  | error error => exact .inl ⟨error, rfl, rfl⟩
  | ok scope =>
    refine .inr ⟨scope, (), _, rfl, rfl, ?_⟩
    exact (queue.row_failRows env.call scope runId RunManager.workerId runId).trans (if_pos rfl)

theorem updates_heartbeat : Updates env runId tenantId "heartbeat"
    (fun queue => queue.heartbeat env.call runId RunManager.workerId (some tenantId))
    (renewable env.call.now)
    (QueueRow.toRenewed env.call.now (env.call.now + env.call.leaseTimeout)) := by
  intro queue
  unfold RunQueue.heartbeat
  cases checkTenantScope env.call.posture (some tenantId) "heartbeat" with
  | error error => exact .inl ⟨error, rfl, rfl⟩
  | ok scope =>
    refine .inr ⟨scope, _, _, rfl, rfl, ?_⟩
    exact (queue.row_heartbeatRows env.call scope runId RunManager.workerId runId).trans
      (if_pos rfl)

theorem updates_deadLetter (reason originalState : String) :
    Updates env runId tenantId "dead_letter"
      (fun queue => (queue.deadLetter env.call runId reason originalState
        (some tenantId)).map ((), ·))
      (fun scope row => covers scope row.tenantId) (QueueRow.toFailed env.call.now) := by
  intro queue
  unfold RunQueue.deadLetter
  cases checkTenantScope env.call.posture (some tenantId) "dead_letter" with
  | error error => exact .inl ⟨error, rfl, rfl⟩
  | ok scope =>
    refine .inr ⟨scope, (), _, rfl, rfl, ?_⟩
    exact (queue.row_deadLetterRows env.call scope runId runId reason
      originalState).trans (if_pos rfl)

theorem updates_cancel : Updates env runId tenantId "cancel"
    (fun queue => (queue.cancel env.call runId (some tenantId)).map ((), ·))
    (fun scope row => covers scope row.tenantId) (QueueRow.toFlagged env.call.now) := by
  intro queue
  unfold RunQueue.cancel
  cases checkTenantScope env.call.posture (some tenantId) "cancel" with
  | error error => exact .inl ⟨error, rfl, rfl⟩
  | ok scope =>
    refine .inr ⟨scope, (), _, rfl, rfl, ?_⟩
    exact (queue.row_cancelRows env.call scope runId runId).trans (if_pos rfl)

end Updates

namespace RunManager

section Calls

variable {manager : RunManager} {env : QueueEnv} {runId tenantId name : String}
variable {row : QueueRow} {α : Type} {absent : α}
variable {method : RunQueue → Except TenantScopeError (α × RunQueue)}
variable {p : Option String → QueueRow → Bool} {f : Assignment QueueRow.runId}

theorem queueRow_onQueue (h : Updates env runId tenantId name method p f)
    (hrow : manager.queueRow runId = some row) :
    (((manager.onQueue env absent method).2.queueRow runId = some row ∧
        ∀ scope, checkTenantScope env.call.posture (some tenantId) name = .ok scope →
          env.fault ≠ some .execute → p scope row = false) ∨
      ∃ scope, checkTenantScope env.call.posture (some tenantId) name = .ok scope ∧
        env.fault ≠ some .execute ∧ p scope row = true ∧
          (manager.onQueue env absent method).2.queueRow runId = some (f.set row)) ∧
      (Succeeds (manager.onQueue env absent method).1 → ¬ Raises env tenantId name) := by
  obtain ⟨queue, hqueue, hfound⟩ := Option.bind_eq_some_iff.mp hrow
  unfold onQueue Raises
  rw [hqueue]
  simp only
  rcases h queue with ⟨error, hscope, hmethod⟩ | ⟨scope, result, after, hscope, hmethod, hafter⟩
  · simp only [hmethod, hscope]
    refine ⟨.inl ⟨hrow, fun scope h => by cases h⟩, fun h => ?_⟩
    exact absurd h (not_succeeds_error _)
  · have hbefore : queue.row runId = some row := hfound
    rw [hbefore, RunQueue.amend_some] at hafter
    simp only [hmethod, hscope, queueRow, attempt_snd, Option.bind_some]
    constructor
    · split
      · rename_i hfault
        exact .inl ⟨hfound, fun _ _ h => absurd hfault h⟩
      · rename_i hfault
        cases hp : p scope row with
        | false =>
          rw [hp] at hafter
          refine .inl ⟨hafter, fun other hother _ => ?_⟩
          obtain rfl := Except.ok.inj hother
          exact hp
        | true =>
          rw [hp] at hafter
          exact .inr ⟨scope, rfl, hfault, hp, hafter⟩
    · intro h
      rw [succeeds_mapError_iff, succeeds_map_iff, attempt_succeeds_iff] at h
      rintro (hfault | hraises)
      · exact hfault h
      · exact hraises scope rfl

theorem keeps_onQueue (h : Updates env runId tenantId name method p f)
    {P : QueueRow → Prop} (hkeeps : P row → P (f.set row))
    (hrow : manager.queueRow runId = some row) (hP : P row) :
    ∃ after, (manager.onQueue env absent method).2.queueRow runId = some after ∧ P after := by
  rcases (queueRow_onQueue h hrow).1 with ⟨hsame, _⟩ | ⟨_, _, _, _, hset⟩
  · exact ⟨row, hsame, hP⟩
  · exact ⟨f.set row, hset, hkeeps hP⟩

theorem queueRow_onQueue_held (h : Updates env runId tenantId name method reported f)
    (hrow : manager.queueRow runId = some row) :
    ((manager.onQueue env absent method).2.queueRow runId = some row ∧
        ¬ (row.heldBy workerId = true ∧ Reaches env tenantId name row)) ∨
      ((manager.onQueue env absent method).2.queueRow runId = some (f.set row) ∧
        row.heldBy workerId = true ∧ Reaches env tenantId name row) := by
  rcases (queueRow_onQueue h hrow).1 with ⟨hsame, hnot⟩ | ⟨scope, hscope, hfault, hp, hset⟩
  · refine .inl ⟨hsame, ?_⟩
    rintro ⟨hheld, hfault, scope, hscope, hcovers⟩
    have hp := hnot scope hscope hfault
    rw [reported, hheld, hcovers] at hp
    cases hp
  · obtain ⟨hheld, hcovers⟩ := Bool.and_eq_true_iff.mp hp
    exact .inr ⟨hset, hheld, hfault, scope, hscope, hcovers⟩

end Calls

def reportMethod (run : ManagedRun) : String :=
  if run.state = .completed then "complete" else "fail"

section Reports

variable {manager : RunManager} {env : QueueEnv} {run : ManagedRun} {row : QueueRow}

section

variable (hrow : manager.queueRow run.runId = some row)
include hrow

theorem queueRow_report :
    ((manager.report env run).2.queueRow run.runId = some row ∧ ¬ (row.heldBy workerId = true ∧
          Reaches env run.tenantId (reportMethod run) row)) ∨
      ((manager.report env run).2.queueRow run.runId =
          some ((if run.state = .completed then QueueRow.toCompleted env.call.now
            else QueueRow.toAttempted env.call.now).set row) ∧ row.heldBy workerId = true ∧
          Reaches env run.tenantId (reportMethod run) row) := by
  unfold report reportMethod
  split
  · exact queueRow_onQueue_held (updates_complete env run.runId run.tenantId) hrow
  · exact queueRow_onQueue_held (updates_fail env run.runId run.tenantId) hrow

theorem queueRow_reportFailure :
    ((manager.reportFailure env run).2.queueRow run.runId = some row ∧
        ¬ (row.heldBy workerId = true ∧ Reaches env run.tenantId "fail" row)) ∨
      ((manager.reportFailure env run).2.queueRow run.runId =
          some ((QueueRow.toAttempted env.call.now).set row) ∧
        row.heldBy workerId = true ∧ Reaches env run.tenantId "fail" row) :=
  queueRow_onQueue_held (updates_fail env run.runId run.tenantId) hrow

theorem not_raises_of_report
    (h : Succeeds (manager.report env run).1) : ¬ Raises env run.tenantId (reportMethod run) := by
  unfold report at h
  unfold reportMethod
  split at h
  · rename_i hcompleted
    rw [if_pos hcompleted]
    exact (queueRow_onQueue (updates_complete env run.runId run.tenantId) hrow).2 h
  · rename_i hfailed
    rw [if_neg hfailed]
    exact (queueRow_onQueue (updates_fail env run.runId run.tenantId) hrow).2 h

end

end Reports

/-! ## What leaves the queue alone -/

section Frames

variable {manager : RunManager} {fin : FinishEnv} {run : ManagedRun}

theorem markRunning_runQueue : (manager.markRunning fin run).2.runQueue = manager.runQueue := by
  unfold markRunning
  split
  · rfl
  · split
    · rfl
    · rfl

theorem finalize_runQueue : (manager.finalize fin run).2.runQueue = manager.runQueue := by
  have hsync : (manager.syncRunStore fin run).2.runQueue = manager.runQueue := by
    unfold syncRunStore
    split
    · rfl
    · split
      · rfl
      · rfl
  unfold finalize
  split
  · rename_i hfailed
    rw [hfailed] at hsync
    exact hsync
  · rename_i synced hsynced
    rw [hsynced] at hsync
    have hclose : (synced.closeRecord fin run).2.runQueue = synced.runQueue := by
      unfold closeRecord
      split
      · split
        · rfl
        · rfl
        · rfl
        · rfl
      · rfl
    unfold closeRun
    split
    · exact hsync
    · exact hclose.trans hsync

theorem cancelRun_runQueue (now : Int) (runId : String) (workspace : Option TenantContext) :
    (manager.cancelRun now runId workspace).2.runQueue = manager.runQueue := by
  unfold cancelRun
  split
  · rfl
  · split
    · rfl
    · rfl

theorem cancelInStore_runQueue (posture : Except String Posture) (now : Int)
    (runId : String) (fault : Option WriteFault) :
    (manager.cancelInStore posture now runId fault).runQueue = manager.runQueue := by
  unfold cancelInStore
  split
  · rfl
  · split
    · rfl
    · rfl

end Frames

end RunManager

/-! ## Executions -/

/-- The queue has been told about the run, or will not be. -/
def DurablePhase.past : DurablePhase → Bool
  | .finishing => true
  | .retired => true
  | .ended => true
  | _ => false

namespace Execution

/-- An execution at its start: the worker has claimed the run, and its thread has
not moved. -/
structure Starts (execution : Execution) : Prop where
  claimed : ∃ (queue : RunQueue) (call : Call) (claim : RunQueue.Claim)
      (after : RunQueue),
    queue.claimNext call RunManager.workerId = (some claim, after) ∧
      claim.runId = execution.runId ∧ execution.manager.runQueue = some after
  phase : execution.phase = .dispatched
  heartbeat : execution.heartbeat = .unstarted

/-- Once the thread has ended with its run in a terminal state, the row of the run
is settled and no worker is handed the run again. -/
def Agrees (execution : Execution) : Prop :=
  execution.phase = .ended → ∀ run, execution.run = some run → run.state.isTerminal = true →
      (∃ row, execution.row = some row ∧ row.status.settled) ∧
        ∀ (queue : RunQueue) (call : Call) (workerId : String)
          (claim : RunQueue.Claim), execution.manager.runQueue = some queue →
          (queue.claimNext call workerId).1 = some claim → claim.runId ≠ execution.runId

/-- The report after the executor, on a row that the worker still holds: where it
reaches the row, it completes it or is the last failure that the queue allows;
where it does not, it raises, or the row has been dead-lettered. -/
def Settles (env : QueueEnv) (run : ManagedRun) (row : QueueRow) : Prop :=
  (Reaches env run.tenantId (RunManager.reportMethod run) row →
    run.state = .completed ∨ row.Exhausted) ∧
  (¬ Reaches env run.tenantId (RunManager.reportMethod run) row →
    Raises env run.tenantId (RunManager.reportMethod run) ∨ row.status = .failed)

def SettlesFailure (env : QueueEnv) (run : ManagedRun) (row : QueueRow) : Prop :=
  (Reaches env run.tenantId "fail" row → row.Exhausted) ∧
  (¬ Reaches env run.tenantId "fail" row → row.status = .failed)

/-- The condition on an event of the thread. -/
def ReportsMove (execution : Execution) : DurableMove → Prop
  | .begin _ => execution.phase = .dispatched → ∀ run, execution.run = some run →
      run.state = .created ∨ run.state = .running
  | .markRunning fin => execution.phase = .begun → execution.manager.MarksRunning fin
  | .publish fin => execution.phase = .leased → ∀ run, execution.run = some run →
      RunManager.FindsSpine fin run
  | .escapes =>
    (execution.phase = .executing ∨ ∃ message, execution.phase = .caught message) →
      ∀ row, execution.row = some row → row.heldBy RunManager.workerId = true → row.status = .failed
  | .report env => execution.phase = .concluded →
      ∀ run row, execution.run = some run → execution.row = some row →
        row.heldBy RunManager.workerId = true → Settles env run row
  | .reportFailure env => execution.phase = .failing →
      ∀ run row, execution.run = some run → execution.row = some row →
        row.heldBy RunManager.workerId = true → SettlesFailure env run row
  | _ => True

/-- The condition on an event: the thread reports as it should, and any other call
of the queue leaves the row of the run alone. -/
def Reports (execution : Execution) : Event → Prop
  | .thread next => execution.ReportsMove next
  | .queue call op => ∀ queue, execution.manager.runQueue = some queue →
      (queue.perform (call, op)).row execution.runId = queue.row execution.runId
  | _ => True

/-- The row is the worker's or settled, and settled once the queue has been told. -/
def Sound (execution : Execution) : Prop :=
  ∃ row, execution.row = some row ∧ row.Guarded ∧ (execution.phase.past = true → row.status.settled)

section Step

variable {execution : Execution}

theorem sound_of_frame {after : Execution} (h : execution.Sound)
    (hqueue : after.manager.runQueue = execution.manager.runQueue)
    (hid : after.runId = execution.runId)
    (hphase : after.phase.past = true → execution.phase.past = true) : after.Sound := by
  have hrow : after.row = execution.row := by
    unfold row RunManager.queueRow
    rw [hqueue, hid]
  obtain ⟨row, hfound, hguarded, hpast⟩ := h
  exact ⟨row, hrow.trans hfound, hguarded, fun hafter => hpast (hphase hafter)⟩

theorem sound_of_keeps {after : Execution} {env : QueueEnv}
    {runId tenantId name : String} {α : Type} {absent : α}
    {method : RunQueue → Except TenantScopeError (α × RunQueue)}
    {p : Option String → QueueRow → Bool} {f : Assignment QueueRow.runId}
    (h : execution.Sound) (hid : runId = execution.runId)
    (hupdates : Updates env runId tenantId name method p f)
    (hkeeps : ∀ row : QueueRow, (row.Guarded → (f.set row).Guarded) ∧
      (row.status.settled → (f.set row).status.settled))
    (hmanager : after.manager = (execution.manager.onQueue env absent method).2)
    (hafter : after.runId = execution.runId)
    (hphase : after.phase = execution.phase) : after.Sound := by
  obtain ⟨row, hfound, hguarded, hpast⟩ := h
  obtain ⟨found, hrow, hkept, hsettled⟩ : ∃ found,
      (execution.manager.onQueue env absent method).2.queueRow runId = some found ∧
      (found.Guarded ∧ (execution.phase.past = true → found.status.settled)) :=
    RunManager.keeps_onQueue hupdates
      (fun hbefore => ⟨(hkeeps row).1 hbefore.1,
        fun hthen => (hkeeps row).2 (hbefore.2 hthen)⟩) (hid ▸ hfound)
      ⟨hguarded, hpast⟩
  refine ⟨found, ?_, hkept, fun hthen => hsettled (hphase ▸ hthen)⟩
  unfold Execution.row
  rw [hmanager, hafter, ← hid]
  exact hrow

end Step

/-! ## Reports -/

section Report

variable {manager : RunManager} {env : QueueEnv} {run : ManagedRun} {row : QueueRow}

theorem settled_toAttempted (now : Int) (h : row.Exhausted) :
    ((QueueRow.toAttempted now).set row).status.settled := by
  refine .inr ?_
  simp only [QueueRow.toAttempted]
  exact if_pos h

theorem settled_of_report (hrow : manager.queueRow run.runId = some row) (hguarded : row.Guarded)
    (hsettles : row.heldBy RunManager.workerId = true → Settles env run row) :
    ∃ after, (manager.report env run).2.queueRow run.runId = some after ∧ after.Guarded ∧
        (Succeeds (manager.report env run).1 → after.status.settled) := by
  rcases RunManager.queueRow_report hrow with ⟨hsame, hnot⟩ | ⟨hset, hheld, hreaches⟩
  · refine ⟨row, hsame, hguarded, fun hreturns => ?_⟩
    rcases hguarded with hheld | hsettled
    · have hmisses := (hsettles hheld).2 fun hreaches => hnot ⟨hheld, hreaches⟩
      rcases hmisses with hraises | hfailed
      · exact absurd hraises (RunManager.not_raises_of_report hrow hreturns)
      · exact .inr hfailed
    · exact hsettled
  · have hsettled : ((if run.state = .completed then QueueRow.toCompleted env.call.now
        else QueueRow.toAttempted env.call.now).set row).status.settled := by
      split
      · exact .inl rfl
      · rename_i hfailed
        rcases (hsettles hheld).1 hreaches with hcompleted | hspent
        · exact absurd hcompleted hfailed
        · exact settled_toAttempted env.call.now hspent
    exact ⟨_, hset, .inr hsettled, fun _ => hsettled⟩

theorem settled_of_reportFailure (hrow : manager.queueRow run.runId = some row)
    (hguarded : row.Guarded)
    (hsettles : row.heldBy RunManager.workerId = true → SettlesFailure env run row) :
    ∃ after, (manager.reportFailure env run).2.queueRow run.runId = some after ∧
      after.status.settled := by
  rcases RunManager.queueRow_reportFailure hrow with ⟨hsame, hnot⟩ | ⟨hset, hheld, hreaches⟩
  · refine ⟨row, hsame, ?_⟩
    rcases hguarded with hheld | hsettled
    · exact .inr ((hsettles hheld).2 fun hreaches => hnot ⟨hheld, hreaches⟩)
    · exact hsettled
  · exact ⟨_, hset, settled_toAttempted env.call.now ((hsettles hheld).1 hreaches)⟩

end Report

/-! ## Steps -/

theorem publishLease_succeeds_iff {fin : FinishEnv} {run : ManagedRun} :
    Succeeds (publishLease fin run) ↔ RunManager.FindsSpine fin run := by
  have hlease : Succeeds (publishRunEvent fin run leasePayload) ↔
      RunManager.FindsSpine fin run := by
    refine RunManager.publish_texts_succeeds_iff fun field hfield => ?_
    rcases List.mem_cons.mp hfield with rfl | hfield
    · exact ⟨_, rfl⟩
    · obtain rfl := List.mem_singleton.mp hfield
      exact ⟨_, rfl⟩
  unfold publishLease
  rw [succeeds_bind_iff]
  constructor
  · rintro ⟨done, hdone, _⟩
    exact hlease.mp ⟨done, hdone⟩
  · intro h
    obtain ⟨done, hdone⟩ := hlease.mpr h
    exact ⟨done, hdone, (RunManager.publish_texts_succeeds_iff
      RunManager.startedPayload_texts).mpr h⟩

section Step

variable {execution : Execution} {run : ManagedRun}

section

variable (h : execution.Sound)
include h

theorem sound_escape (hfailed : ∀ row, execution.row = some row →
      row.heldBy RunManager.workerId = true → row.status = .failed) :
    { execution with phase := .finishing }.Sound := by
  obtain ⟨row, hrow, hguarded, _⟩ := h
  refine ⟨row, hrow, hguarded, fun _ => ?_⟩
  rcases hguarded with hheld | hsettled
  · exact .inr (hfailed row hrow hheld)
  · exact hsettled

section

variable (hrun : execution.run = some run)
include hrun

theorem sound_report {env : QueueEnv} (hphase : execution.phase = .concluded)
    (hreports : execution.ReportsMove (.report env)) :
    (execution.move run (.report env)).Sound := by
  have hid : run.runId = execution.runId := Table.key_of_lookup hrun
  obtain ⟨row, hrow, hguarded, _⟩ := h
  have hfound : execution.manager.queueRow run.runId = some row := hid ▸ hrow
  obtain ⟨after, hafter, hkept, hsettled⟩ := settled_of_report hfound
    hguarded (hreports hphase run row hrun hrow)
  rw [hid] at hafter
  simp only [move, hphase]
  split
  · rename_i hraised
    rw [hraised] at hafter
    exact ⟨after, hafter, hkept, fun hpast => by cases hpast⟩
  · rename_i done _ hback
    rw [hback] at hafter hsettled
    exact ⟨after, hafter, hkept, fun _ => hsettled (succeeds_ok done)⟩

theorem sound_reportFailure {env : QueueEnv} (hphase : execution.phase = .failing)
    (hreports : execution.ReportsMove (.reportFailure env)) :
    (execution.move run (.reportFailure env)).Sound := by
  have hid : run.runId = execution.runId := Table.key_of_lookup hrun
  obtain ⟨row, hrow, hguarded, _⟩ := h
  have hfound : execution.manager.queueRow run.runId = some row := hid ▸ hrow
  obtain ⟨after, hafter, hsettled⟩ := settled_of_reportFailure hfound
    hguarded (hreports hphase run row hrun hrow)
  rw [hid] at hafter
  simp only [move, hphase]
  exact ⟨after, hafter, .inr hsettled, fun _ => hsettled⟩

theorem sound_move {next : DurableMove} (hreports : execution.ReportsMove next) :
    (execution.move run next).Sound := by
  unfold move
  split
  · rename_i now hphase
    have hbegin := hreports hphase run hrun
    rw [ManagedRun.begin, RunState.transition_running hbegin]
    exact sound_of_frame h rfl rfl (fun hpast => by cases hpast)
  · rename_i fin hphase
    have hmarks : Succeeds (execution.manager.markRunning fin run).1 :=
      RunManager.markRunning_succeeds_iff.mpr (hreports hphase)
    have hqueue : (execution.manager.markRunning fin run).2.runQueue = _ :=
      RunManager.markRunning_runQueue
    split
    · rename_i hfailed
      rw [hfailed] at hmarks
      exact absurd hmarks (not_succeeds_error _)
    · rename_i manager hmarked
      rw [hmarked] at hqueue
      exact sound_of_frame h hqueue rfl (fun hpast => by cases hpast)
  · rename_i fin hphase
    have hpublishes := publishLease_succeeds_iff.mpr (hreports hphase run hrun)
    split
    · rename_i hfailed
      rw [hfailed] at hpublishes
      exact absurd hpublishes (not_succeeds_error _)
    · exact sound_of_frame h rfl rfl (fun hpast => by cases hpast)
  · split
    · exact sound_of_frame h rfl rfl (fun hpast => by cases hpast)
    · exact sound_of_frame h rfl rfl (fun hpast => by cases hpast)
  · exact sound_of_frame h rfl rfl (fun hpast => by cases hpast)
  · rename_i hphase
    exact sound_escape h (hreports (.inl hphase))
  · rename_i env hphase
    have hreport := sound_report h hrun hphase hreports
    simp only [move, hphase] at hreport
    exact hreport
  · rename_i message hphase
    exact sound_escape h (hreports (.inr ⟨message, hphase⟩))
  · exact sound_of_frame h rfl rfl (fun hpast => by cases hpast)
  · rename_i env hphase
    have hreport := sound_reportFailure h hrun hphase hreports
    simp only [move, hphase] at hreport
    exact hreport
  · rename_i now hphase
    refine sound_of_frame h rfl rfl fun _ => ?_
    rw [hphase]
    rfl
  · rename_i fin hphase
    refine sound_of_frame h RunManager.finalize_runQueue rfl fun _ => ?_
    rw [hphase]
    rfl
  · exact h

theorem sound_beat (next : Beat) : (execution.beat run next).Sound := by
  have hid : run.runId = execution.runId := Table.key_of_lookup hrun
  unfold beat
  split
  · exact sound_of_frame h rfl rfl id
  · rename_i env hrenewing
    have hrenewed : ∀ heartbeat, { execution with
          manager := (execution.manager.renew env run).2
          heartbeat }.Sound := fun heartbeat =>
      sound_of_keeps h hid (updates_heartbeat env run.runId run.tenantId)
        (fun row => ⟨id, id⟩) rfl rfl rfl
    split
    · rename_i hanswer
      rw [hanswer] at hrenewed
      exact hrenewed .waiting
    · rename_i hanswer
      rw [hanswer] at hrenewed
      exact hrenewed .waiting
    · rename_i hanswer
      rw [hanswer] at hrenewed
      exact hrenewed .denied
  · simp only
    split
    · exact sound_of_frame h rfl rfl id
    · exact sound_of_frame h rfl rfl id
  · rename_i env hlost
    exact sound_of_keeps h hid
      (updates_deadLetter env run.runId run.tenantId "lease_lost" "running")
      (fun row => ⟨fun _ => .inr (.inr rfl), fun _ => .inr rfl⟩) rfl rfl rfl
  · exact sound_of_frame h rfl rfl id
  · exact sound_of_frame h rfl rfl id
  · exact h

end

end

theorem sound_step (event : Event) (h : execution.Sound)
    (hreports : execution.Reports event) : (execution.step event).Sound := by
  unfold step
  split
  · exact h
  · rename_i run next hrun
    exact sound_move h hrun hreports
  · rename_i run next hrun
    exact sound_beat h hrun next
  · rename_i now workspace _
    exact sound_of_frame h (RunManager.cancelRun_runQueue now _ workspace) rfl id
  · rename_i run env hrun
    exact sound_of_keeps h (Table.key_of_lookup hrun)
      (updates_cancel env run.runId run.tenantId) (fun row => ⟨id, id⟩) rfl rfl rfl
  · rename_i posture now fault _
    exact sound_of_frame h (RunManager.cancelInStore_runQueue posture now _ fault) rfl id
  · rename_i call op _
    obtain ⟨row, hrow, hguarded, hpast⟩ := h
    obtain ⟨queue, hqueue, hfound⟩ := Option.bind_eq_some_iff.mp hrow
    refine ⟨row, ?_, hguarded, hpast⟩
    unfold Execution.row RunManager.queueRow
    rw [hqueue]
    exact (hreports queue hqueue).trans hfound

end Step

/-! ## Runs of an execution -/

theorem sound_of_starts {start : Execution} (h : start.Starts) : start.Sound := by
  obtain ⟨queue, call, claim, after, hclaim, hid, hqueue⟩ := h.claimed
  have hclaimed : (queue.claimNext call RunManager.workerId).1 = some claim := by
    rw [hclaim]
  rw [RunQueue.claimNext_fst] at hclaimed
  obtain ⟨found, hfound, rfl⟩ := Option.map_eq_some_iff.mp hclaimed
  have hrow := queue.row_claimNext call RunManager.workerId start.runId
  rw [hclaim, hfound] at hrow
  have hleased := hrow.trans (if_pos hid.symm)
  refine ⟨(QueueRow.toLeased call.now (call.now + call.leaseTimeout)
    RunManager.workerId).set found, ?_, .inl ?_, fun hpast => ?_⟩
  · unfold Execution.row RunManager.queueRow
    rw [hqueue]
    exact hleased
  · exact beq_self_eq_true _
  · rw [h.phase] at hpast
    cases hpast

theorem claimNext_ne_of_settled {queue : RunQueue} {call : Call} {workerId : String}
    {claim : RunQueue.Claim} {row : QueueRow} {runId : String}
    (hrow : queue.row runId = some row) (hsettled : row.status.settled)
    (h : (queue.claimNext call workerId).1 = some claim) : claim.runId ≠ runId := by
  rw [RunQueue.claimNext_fst] at h
  obtain ⟨found, hfound, rfl⟩ := Option.map_eq_some_iff.mp h
  rintro rfl
  obtain ⟨hthere, hqueued, _⟩ := RunQueue.of_nextClaimable hfound
  obtain rfl := Option.some.inj (hrow.symm.trans hthere)
  rcases hsettled with hcompleted | hfailed
  · rw [hqueued] at hcompleted
    cases hcompleted
  · rw [hqueued] at hfailed
    cases hfailed

/-- In a run in which the thread reports as it should, the queue agrees with the
run once the thread has ended. -/
theorem agrees_exec {start : Execution} (hstarts : start.Starts) (events : List Event)
    (hreports : Along step Reports start events) : (exec step start events).Agrees := by
  have hsound := exec_invariant (fun _ event => sound_step event)
    (sound_of_starts hstarts) hreports
  intro hended run hrun hover
  obtain ⟨row, hrow, _, hpast⟩ := hsound
  have hsettled := hpast (by rw [hended]; rfl)
  refine ⟨⟨row, hrow, hsettled⟩, fun queue call workerId claim hqueue hclaim => ?_⟩
  obtain ⟨found, hfound, hthere⟩ := Option.bind_eq_some_iff.mp hrow
  obtain rfl := Option.some.inj (hqueue.symm.trans hfound)
  exact claimNext_ne_of_settled hthere hsettled hclaim

/-! ## A run that fails at its first attempt -/

def reporting : QueueEnv :=
  ⟨{ now := 102, posture := .ok .dev, leaseTimeout := 300 }, none, ""⟩

def queued : RunManager :=
  (RunManager.idle.createRun RunManager.submission [("goal", .str "summarise")]
    (some RunManager.owner)).2

/-- The worker has claimed the run. -/
def claimed : Execution where
  manager :=
    { queued with
      runQueue := queued.runQueue.map fun queue =>
        (queue.claimNext reporting.call RunManager.workerId).2 }
  runId := "run-1"
  phase := .dispatched
  heartbeat := .unstarted
  stopping := false

theorem starts_claimed : claimed.Starts where
  claimed := ⟨queued.runQueue.getD .empty, reporting.call, _, _, rfl, rfl, rfl⟩
  phase := rfl
  heartbeat := rfl

def executing : List Event :=
  [.thread (.begin 101), .thread (.markRunning RunManager.ending),
    .thread (.publish RunManager.ending)]

/-- The `finally` block. -/
def closing : List Event :=
  [.thread (.retire 103), .thread (.finalize RunManager.ending)]

def failedOnce : List Event :=
  executing ++ [.thread (.raises "boom"), .thread (.handle 102),
    .thread (.reportFailure reporting)] ++ closing

def succeededOnce : List Event :=
  executing ++ [.thread (.returns 102 .none .none), .thread (.report reporting)] ++ closing

/-- The run has failed for good, and the queue hands it out again. -/
theorem not_agrees_failedOnce : claimed.Starts ∧ ¬ (exec step claimed failedOnce).Agrees := by
  refine ⟨starts_claimed, fun hagrees => ?_⟩
  obtain ⟨⟨row, hrow, hsettled⟩, _⟩ := hagrees rfl _ rfl rfl
  have hqueued : (exec step claimed failedOnce).row.map (·.status) = some .queued := by
    decide
  rw [hrow, Option.map_some] at hqueued
  rcases hsettled with hcompleted | hfailed
  · rw [hcompleted] at hqueued
    revert hqueued
    decide
  · rw [hfailed] at hqueued
    revert hqueued
    decide

theorem agrees_succeededOnce : (exec step claimed succeededOnce).Agrees := by
  refine agrees_exec starts_claimed succeededOnce
    ⟨fun _ run hrun => ?_, fun _ _ => ⟨⟨.dev, rfl, rfl⟩, rfl⟩,
      fun _ run hrun _ => ⟨.dev, rfl, fun h => by cases h⟩, trivial,
      fun _ run row hrun hrow _ => ?_, trivial, trivial, trivial⟩
  · have hcreated : claimed.run.map (·.state) = some .created := by decide
    rw [hrun] at hcreated
    exact .inl (Option.some.inj hcreated)
  · set concluded := exec step claimed (executing ++ [.thread (.returns 102 .none .none)])
    have hcompleted : concluded.run.map (fun run => (run.state, run.tenantId)) =
        some (.completed, "tenant-1") := by decide
    have howner : concluded.row.map (·.tenantId) = some "tenant-1" := by decide
    have hthis : concluded.run = some run := hrun
    have hthere : concluded.row = some row := hrow
    rw [hthis, Option.map_some] at hcompleted
    rw [hthere, Option.map_some] at howner
    obtain ⟨hstate, htenant⟩ := Prod.mk.inj (Option.some.inj hcompleted)
    refine ⟨fun _ => .inl hstate, fun hmisses => absurd ?_ hmisses⟩
    refine ⟨fun hfault => (by cases hfault), some "tenant-1", ?_, ?_⟩
    · rw [htenant]
      exact checkTenantScope_of_ne (by decide) _ _
    · rw [Option.some.inj howner]
      rfl

end Execution

end HiAgent.Server
