/-
  Server/RunManager/Worker.lean --- the in-memory queue of the run manager.

  `start_run`, `_queue_worker` and `_execute_run` of `hi_agent/server/run_manager.py` without a
  durable queue. Callers of `start_run`, the one worker and the threads it dispatches move one at
  a time.
-/
import Mathlib.Data.Finset.Basic
import HiAgent.Server.RunManager.Execution

namespace HiAgent.Server

open Foundation

/-! ## Runs in the manager -/

namespace RunManager

/-- A write to a run, under the lock. -/
def writeRun (manager : RunManager) (runId : String)
    (entry : Int × ManagedRun.Write) : RunManager :=
  { manager with
    runs := manager.runs.updateAt runId (fun _ => true)
      ⟨fun run => run.write entry, fun run => (ManagedRun.sameRun_write run entry).runId⟩ }

def getRun (manager : RunManager) (runId : String)
    (workspace : Option TenantContext) : Option ManagedRun :=
  (manager.runs.lookup runId).filter fun run => workspace.all fun ctx => owns run ctx

/-- `cancel_run` under the lock, with whether it goes on. -/
def cancelRun (manager : RunManager) (now : Int) (runId : String)
    (workspace : Option TenantContext) : Bool × RunManager :=
  match manager.getRun runId workspace with
  | none => (false, manager)
  | some run =>
    if run.state = .created ∨ run.state = .running then
      (true, manager.writeRun runId (now, .cancel))
    else (false, manager)

/-- The call of `mark_cancelled` in `cancel_run`, whose exceptions are caught. -/
def cancelInStore (manager : RunManager) (posture : Except String Posture) (now : Int)
    (runId : String) (fault : Option WriteFault) : RunManager :=
  match manager.runStore with
  | none => manager
  | some store =>
    match store.markCancelled posture now runId none with
    | .error _ => manager
    | .ok marked => { manager with runStore := some (attempt fault store marked).2 }

/-- `start_run` finds a run that has not been begun. -/
def startable (manager : RunManager) (runId : String) : Bool :=
  (manager.runs.lookup runId).any fun run => run.state == .created

/-- `int(run.task_contract.get("priority", 5))`. -/
def queuePriority (manager : RunManager) (runId : String) : Except Raised Int :=
  match manager.runs.lookup runId with
  | none => .ok 5
  | some run => (run.taskContract.get "priority" (.int 5)).toInt

end RunManager

/-! ## Parties -/

/-- An entry of the priority queue; the sequence number breaks ties. -/
structure QueueItem where
  priority : Int
  seq : Nat
  runId : String

def QueueItem.precedes (left right : QueueItem) : Prop :=
  left.priority < right.priority ∨ (left.priority = right.priority ∧ left.seq ≤ right.seq)

instance (left right : QueueItem) : Decidable (left.precedes right) :=
  inferInstanceAs (Decidable (_ ∨ _))

/-- A call of `start_run` that is under way. -/
inductive Submission where
  /-- The run was found in the state `created`. -/
  | checked (runId : String)
  /-- The sequence number is drawn. -/
  | numbered (item : QueueItem)
  /-- `put_nowait` has raised `queue.Full`. -/
  | refused (runId : String)

/-- What the worker has in its hands. -/
inductive Worker where
  | idle
  /-- It waits for a slot. -/
  | holding (item : QueueItem)
  /-- It has a slot. -/
  | acquired (item : QueueItem)
  /-- The wait has ended without one. -/
  | timedOut (item : QueueItem)

/-- How far `_execute_run` is. -/
inductive Phase where
  | dispatched
  /-- The run is `running`, and the `try` has not been entered. -/
  | begun
  | executing
  /-- In the handler of an exception, with its text. -/
  | caught (message : String)
  /-- At the top of the `finally` block. -/
  | finishing
  /-- Out of the counters of the manager. -/
  | retired
  /-- The run record is written. -/
  | synced
  /-- The slot is given back. -/
  | released
  deriving DecidableEq

/-- A thread of `_execute_run`. -/
structure Thread where
  runId : String
  phase : Phase

/-- The semaphore, `_active_count` and `_active_run_ids`. -/
structure Slots where
  permits : Nat
  activeCount : Int
  activeRunIds : Finset String

namespace Slots

def enter (slots : Slots) (runId : String) : Slots :=
  { slots with
    activeCount := slots.activeCount + 1
    activeRunIds := insert runId slots.activeRunIds }

/-- The first writes of its `finally` block. -/
def leave (slots : Slots) (runId : String) : Slots :=
  { slots with
    activeCount := slots.activeCount - 1
    activeRunIds := slots.activeRunIds.erase runId }

end Slots

/-! ## Threads -/

/-- A step of a thread. -/
inductive ThreadMove where
  | begin (now : Int)
  | announce (fin : FinishEnv)
  /-- The executor returns a result. -/
  | returns (now : Int) (status error : PyValue)
  /-- It raises an `Exception`. -/
  | raises (message : String)
  /-- It raises something else, or the handler raises in its turn. -/
  | escapes
  | handle (now : Int)
  | retire (now : Int)
  | sync (fin : FinishEnv)
  | release
  | close (fin : FinishEnv)

/-- A step of `_execute_run`: where it takes the thread, or that the thread has
ended, and what it does to the manager and the slots. A step that does not come
next in the phase of the thread is none. -/
def Thread.move (thread : Thread) (manager : RunManager) (slots : Slots)
    (next : ThreadMove) : Option Phase × RunManager × Slots :=
  match manager.runs.lookup thread.runId with
  | none => (some thread.phase, manager, slots)
  | some run =>
    match thread.phase, next with
    | .dispatched, .begin now =>
      match run.begin now with
      -- raised under the lock, after the counters, before the `try`
      | .error _ => (none, manager, slots.enter thread.runId)
      | .ok _ => (some .begun, manager.writeRun thread.runId (now, .begin),
          slots.enter thread.runId)
    | .begun, .announce fin =>
      match manager.announce fin run with
      | (.error _, manager) => (none, manager, slots)
      | (.ok _, manager) => (some .executing, manager, slots)
    | .executing, .returns now status error =>
      match run.conclude status error now with
      | .error message => (some (.caught message), manager, slots)
      | .ok _ => (some .finishing,
          manager.writeRun thread.runId (now, .conclude status error), slots)
    | .executing, .raises message => (some (.caught message), manager, slots)
    | .executing, .escapes => (some .finishing, manager, slots)
    | .caught _, .escapes => (some .finishing, manager, slots)
    | .caught message, .handle now =>
      (some .finishing, manager.writeRun thread.runId (now, .failWith message), slots)
    | .finishing, .retire now =>
      (some .retired, manager.writeRun thread.runId (now, .finish), slots.leave thread.runId)
    | .retired, .sync fin =>
      match manager.syncRunStore fin run with
      -- raised in the `finally` block, before the slot is given back
      | (.error _, manager) => (none, manager, slots)
      | (.ok _, manager) => (some .synced, manager, slots)
    | .synced, .release =>
      (some .released, manager, { slots with permits := slots.permits + 1 })
    | .released, .close fin => (none, (manager.closeRun fin run).2, slots)
    | phase, _ => (some phase, manager, slots)

/-! ## The pool -/

/-- A manager with its in-memory queue and everything that moves around it. -/
structure Pool where
  manager : RunManager
  slots : Slots
  /-- `queue_size`: no bound unless it is positive. -/
  queueSize : Int
  queue : List QueueItem
  queueSeq : Nat
  submissions : List Submission
  worker : Worker
  threads : List Thread

/-- A step of a call of `start_run` after its first critical section. -/
inductive SubmitMove where
  /-- The priority is read and a sequence number drawn. -/
  | number
  /-- `put_nowait`. -/
  | put
  /-- The handler of `queue.Full`. -/
  | refuse (now : Int)

/-- A step of the worker. -/
inductive WorkerMove where
  /-- It takes the first entry of the queue. -/
  | get
  /-- It gets a slot. -/
  | acquire
  /-- It does not get one in time. -/
  | timeout
  /-- It fails the run it got no slot for. -/
  | expire (now : Int)
  /-- It starts a thread, or `Thread.start` raises and the worker ends. -/
  | dispatch (started : Bool)

namespace Pool

/-- `put_nowait` raises. -/
def full (pool : Pool) : Bool :=
  decide (0 < pool.queueSize ∧ pool.queueSize ≤ pool.queue.length)

/-- The pool after a caller of `start_run` has moved. -/
def submit (pool : Pool) (index : Nat) (next : SubmitMove) : Pool :=
  match pool.submissions[index]?, next with
  | some (.checked runId), .number =>
    match pool.manager.queuePriority runId with
    | .error _ =>
      { pool with submissions := Roster.advance pool.submissions index none }
    | .ok priority =>
      { pool with
        queueSeq := pool.queueSeq + 1
        submissions := Roster.advance pool.submissions index
          (some (.numbered ⟨priority, pool.queueSeq, runId⟩)) }
  | some (.numbered item), .put =>
    if pool.full then
      { pool with
        submissions :=
          Roster.advance pool.submissions index (some (.refused item.runId)) }
    else
      { pool with
        queue := pool.queue.orderedInsert QueueItem.precedes item
        submissions := Roster.advance pool.submissions index none }
  | some (.refused runId), .refuse now =>
    { pool with
      manager := pool.manager.writeRun runId (now, .failWith "queue_full")
      submissions := Roster.advance pool.submissions index none }
  | _, _ => pool

/-- The pool after the worker has moved. -/
def work (pool : Pool) (next : WorkerMove) : Pool :=
  match pool.worker, next with
  | .idle, .get =>
    match pool.queue with
    | [] => pool
    | item :: queue => { pool with worker := .holding item, queue }
  | .holding item, .acquire =>
    match pool.slots.permits with
    | 0 => pool
    | permits + 1 =>
      { pool with
        worker := .acquired item
        slots := { pool.slots with permits } }
  | .holding item, .timeout =>
    if pool.slots.permits = 0 then { pool with worker := .timedOut item } else pool
  | .timedOut item, .expire now =>
    { pool with
      manager := pool.manager.writeRun item.runId (now, .failWith "queue_timeout")
      worker := .idle }
  | .acquired item, .dispatch started =>
    { pool with
      worker := .idle
      threads :=
        if started then pool.threads ++ [⟨item.runId, .dispatched⟩]
        else pool.threads }
  | _, _ => pool

/-- The pool after a thread has moved. -/
def run (pool : Pool) (index : Nat) (next : ThreadMove) : Pool :=
  match pool.threads[index]? with
  | none => pool
  | some thread =>
    let moved := thread.move pool.manager pool.slots next
    { pool with
      manager := moved.2.1
      slots := moved.2.2
      threads := Roster.advance pool.threads index
        (moved.1.map fun phase => { thread with phase }) }

/-- An event of the pool. -/
inductive Event where
  /-- `create_run`. -/
  | create (env : CreateEnv) (contract : PyDict) (workspace : Option TenantContext)
  /-- `start_run`, up to the end of its first critical section. -/
  | start (runId : String)
  /-- A call of `start_run` goes on. -/
  | submit (index : Nat) (next : SubmitMove)
  /-- `cancel_run` under the lock. -/
  | cancel (now : Int) (runId : String) (workspace : Option TenantContext)
  /-- `cancel_run`: the run store. -/
  | cancelInStore (posture : Except String Posture) (now : Int) (runId : String)
      (fault : Option WriteFault)
  | worker (next : WorkerMove)
  | thread (index : Nat) (next : ThreadMove)

/-- The pool after an event. `uuid4` does not return an id that is taken. -/
def step (pool : Pool) : Event → Pool
  | .create env contract workspace =>
    if (pool.manager.runs.lookup env.runId).isSome then pool
    else
      { pool with manager := (pool.manager.createRun env contract workspace).2 }
  | .start runId =>
    if pool.manager.startable runId then
      { pool with submissions := pool.submissions ++ [.checked runId] }
    else pool
  | .submit index next => pool.submit index next
  | .cancel now runId workspace =>
    { pool with manager := (pool.manager.cancelRun now runId workspace).2 }
  | .cancelInStore posture now runId fault =>
    { pool with manager := pool.manager.cancelInStore posture now runId fault }
  | .worker next => pool.work next
  | .thread index next => pool.run index next

end Pool

end HiAgent.Server
