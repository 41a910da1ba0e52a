/-
  Server/RunQueue.lean --- the lease queue of `hi_agent/server/run_queue.py`.

  The two tables of the database and every method that writes to them. A method is one
  transaction under the instance's lock, so it is one function of the database.
-/
import HiAgent.Foundation.Table
import HiAgent.Server.Environment

namespace HiAgent.Server

open Foundation

/-! ## Rows -/

/-- The values of `run_queue.status`. -/
inductive QueueStatus where
  | queued
  | leased
  | completed
  | failed
  deriving DecidableEq

/-- A row of `run_queue`. -/
structure QueueRow where
  runId : String
  status : QueueStatus
  priority : Int
  attemptCount : Nat
  maxAttempts : Nat
  workerId : Option String
  leaseExpiresAt : Option Int
  cancellationFlag : Bool
  payloadJson : String
  enqueuedAt : Int
  updatedAt : Int
  tenantId : String
  userId : String
  sessionId : String
  projectId : String
  adoptionToken : Option String

/-- A row of `dead_lettered_runs`. The two time stamps are ISO texts of clock
readings in the source. -/
structure DeadLetter where
  runId : String
  reason : String
  originalState : String
  deadLetteredAt : Int
  tenantId : String
  requeueCount : Nat
  lastRequeueAt : Option Int
  attemptsCount : Nat

/-- The database behind a `RunQueue`. -/
structure RunQueue where
  runQueue : Table QueueRow.runId
  deadLetteredRuns : Table DeadLetter.runId

/-- What a method reads besides its arguments: the clock, the posture, and the
lease time of the instance it is called on. -/
structure Call where
  now : Int
  posture : Except String Posture
  leaseTimeout : Int

/-! ## Tenant scope -/

structure TenantScopeError where
  message : String

def checkTenantScope (posture : Except String Posture) (tenantId : Option String)
    (method : String) : Except TenantScopeError (Option String) :=
  let value := Text.strip (tenantId.getD "")
  if value ≠ "" then .ok (some value)
  else
    match posture with
    | .error _ => .error ⟨"RunQueue." ++ method ++
        ": tenant_id is required but posture resolution failed."⟩
    | .ok posture =>
      if posture.isStrict then .error ⟨"RunQueue." ++ method ++
        ": tenant_id is required under research/prod posture but was empty " ++
        "or missing."⟩
      else .ok none

/-- The `AND tenant_id = ?` clause, present only when there is a scope. -/
def covers (scope : Option String) (tenantId : String) : Bool :=
  match scope with
  | none => true
  | some tenant => tenantId == tenant

@[simp] theorem covers_none (tenantId : String) : covers none tenantId = true := rfl

@[simp] theorem covers_some (tenant tenantId : String) :
    covers (some tenant) tenantId = (tenantId == tenant) := rfl

theorem checkTenantScope_of_ne {tenantId : String}
    (h : Text.strip tenantId ≠ "") (posture : Except String Posture) (method : String) :
    checkTenantScope posture (some tenantId) method = .ok (some (Text.strip tenantId)) := by
  simp [checkTenantScope, h]

/-! ## Assignments -/

namespace QueueRow

/-- `SET status = 'queued', worker_id = NULL, lease_expires_at = NULL`. -/
def toQueued (now : Int) : Assignment QueueRow.runId where
  set row := { row with
    status := .queued
    workerId := none
    leaseExpiresAt := none
    updatedAt := now }
  keeps _ := rfl

/-- `toQueued` with `adoption_token = NULL`. -/
def toReenqueued (now : Int) : Assignment QueueRow.runId where
  set row := { (toQueued now).set row with adoptionToken := none }
  keeps _ := rfl

/-- `SET status = 'leased', worker_id = ?, lease_expires_at = ?`. -/
def toLeased (now leaseExpiresAt : Int) (workerId : String) :
    Assignment QueueRow.runId where
  set row := { row with
    status := .leased
    workerId := some workerId
    leaseExpiresAt := some leaseExpiresAt
    updatedAt := now }
  keeps _ := rfl

/-- `SET lease_expires_at = ?`. -/
def toRenewed (now leaseExpiresAt : Int) : Assignment QueueRow.runId where
  set row := { row with leaseExpiresAt := some leaseExpiresAt, updatedAt := now }
  keeps _ := rfl

/-- `SET status = 'completed', worker_id = NULL, lease_expires_at = NULL`. -/
def toCompleted (now : Int) : Assignment QueueRow.runId where
  set row := { row with
    status := .completed
    workerId := none
    leaseExpiresAt := none
    updatedAt := now }
  keeps _ := rfl

/-- The assignment of `fail`: one more attempt, and either the budget is used up
or the run goes back to the queue. -/
def toAttempted (now : Int) : Assignment QueueRow.runId where
  set row := { row with
    status := if row.attemptCount + 1 ≥ row.maxAttempts then .failed else .queued
    attemptCount := row.attemptCount + 1
    workerId := none
    leaseExpiresAt := none
    updatedAt := now }
  keeps _ := rfl

/-- `SET cancellation_flag = 1`. -/
def toFlagged (now : Int) : Assignment QueueRow.runId where
  set row := { row with cancellationFlag := true, updatedAt := now }
  keeps _ := rfl

/-- The assignment of `dead_letter`: the status alone. -/
def toFailed (now : Int) : Assignment QueueRow.runId where
  set row := { row with status := .failed, updatedAt := now }
  keeps _ := rfl

/-- `SET adoption_token = ?`. -/
def toAdopted (now : Int) (token : String) : Assignment QueueRow.runId where
  set row := { row with adoptionToken := some token, updatedAt := now }
  keeps _ := rfl

/-- `WHERE worker_id = ?`; a `NULL` column matches nothing. -/
def heldBy (workerId : String) (row : QueueRow) : Bool :=
  row.workerId == some workerId

/-- `lease_expires_at < ?`; a `NULL` column matches nothing. -/
def leaseBefore (now : Int) (row : QueueRow) : Bool :=
  row.leaseExpiresAt.any fun expiresAt => decide (expiresAt < now)

/-- `lease_expires_at >= ?`; a `NULL` column matches nothing. -/
def leaseFrom (now : Int) (row : QueueRow) : Bool :=
  row.leaseExpiresAt.any fun expiresAt => decide (now ≤ expiresAt)

/-- `ORDER BY priority ASC, enqueued_at ASC`. -/
def before (left right : QueueRow) : Bool :=
  decide (left.priority < right.priority) ||
    (left.priority == right.priority && decide (left.enqueuedAt < right.enqueuedAt))

end QueueRow

/-- `SET requeue_count = requeue_count + 1, last_requeue_at = ?`. -/
def DeadLetter.toCounted (now : Int) : Assignment DeadLetter.runId where
  set record := { record with
    requeueCount := record.requeueCount + 1
    lastRequeueAt := some now }
  keeps _ := rfl

/-! ## Methods -/

namespace RunQueue

def empty : RunQueue := ⟨.empty, .empty⟩

def enqueue (db : RunQueue) (call : Call) (runId : String) (priority : Int)
    (payloadJson tenantId userId sessionId projectId : String) : RunQueue :=
  { db with
    runQueue := db.runQueue.insertOrIgnore
      { runId, priority, payloadJson, tenantId, userId, sessionId, projectId,
        status := .queued
        attemptCount := 0
        maxAttempts := 3
        workerId := none
        leaseExpiresAt := none
        cancellationFlag := false
        enqueuedAt := call.now
        updatedAt := call.now
        adoptionToken := none } }

/-- The statement of `reenqueue`, with its `rowcount > 0`. -/
def reenqueueRows (db : RunQueue) (call : Call) (scope : Option String)
    (runId : String) : Bool × RunQueue :=
  let mine (row : QueueRow) := covers scope row.tenantId
  (db.runQueue.hitsAt runId mine,
    { db with
      runQueue :=
        db.runQueue.updateAt runId mine (QueueRow.toReenqueued call.now) })

def reenqueue (db : RunQueue) (call : Call) (runId : String)
    (tenantId : Option String) : Except TenantScopeError (Bool × RunQueue) :=
  (checkTenantScope call.posture tenantId "reenqueue").map fun scope =>
    db.reenqueueRows call scope runId

/-- What `claim_next` hands to the worker. -/
structure Claim where
  runId : String
  payloadJson : String

/-- The row `claim_next` selects. -/
def nextClaimable (db : RunQueue) : Option QueueRow :=
  db.runQueue.selectFirst
    (fun row => row.status == .queued && !row.cancellationFlag) QueueRow.before

def claimNext (db : RunQueue) (call : Call) (workerId : String) :
    Option Claim × RunQueue :=
  let leaseExpiresAt := call.now + call.leaseTimeout
  match db.nextClaimable with
  | none => (none, db)
  | some row =>
    let queued (row : QueueRow) := row.status == .queued
    let db' := { db with
      runQueue := db.runQueue.updateAt row.runId queued
        (QueueRow.toLeased call.now leaseExpiresAt workerId) }
    -- the guard on the status: another worker may have raced this one
    if db.runQueue.hitsAt row.runId queued then
      (some ⟨row.runId, row.payloadJson⟩, db')
    else (none, db')

/-- The statement of `heartbeat`, with its `rowcount > 0`. -/
def heartbeatRows (db : RunQueue) (call : Call) (scope : Option String)
    (runId workerId : String) : Bool × RunQueue :=
  let mine (row : QueueRow) := row.heldBy workerId && row.status == .leased &&
    row.leaseFrom call.now && covers scope row.tenantId
  (db.runQueue.hitsAt runId mine,
    { db with
      runQueue := db.runQueue.updateAt runId mine
        (QueueRow.toRenewed call.now (call.now + call.leaseTimeout)) })

def heartbeat (db : RunQueue) (call : Call) (runId workerId : String)
    (tenantId : Option String) : Except TenantScopeError (Bool × RunQueue) :=
  (checkTenantScope call.posture tenantId "heartbeat").map fun scope =>
    db.heartbeatRows call scope runId workerId

/-- `RunQueue.release_lease`, with its `rowcount > 0`. -/
def releaseLease (db : RunQueue) (call : Call) (runId workerId : String) :
    Bool × RunQueue :=
  let mine (row : QueueRow) := row.heldBy workerId && row.status == .leased
  (db.runQueue.hitsAt runId mine,
    { db with
      runQueue :=
        db.runQueue.updateAt runId mine (QueueRow.toQueued call.now) })

/-- The statement of `complete`. -/
def completeRows (db : RunQueue) (call : Call) (scope : Option String)
    (runId workerId : String) : RunQueue :=
  let mine (row : QueueRow) := row.heldBy workerId && covers scope row.tenantId
  { db with
    runQueue :=
      db.runQueue.updateAt runId mine (QueueRow.toCompleted call.now) }

def complete (db : RunQueue) (call : Call) (runId workerId : String)
    (tenantId : Option String) : Except TenantScopeError RunQueue :=
  (checkTenantScope call.posture tenantId "complete").map fun scope =>
    db.completeRows call scope runId workerId

/-- The record that `INSERT OR REPLACE INTO dead_lettered_runs` writes: the
requeue columns of the record that was there are carried over. -/
def deadLetterRecord (db : RunQueue) (call : Call)
    (runId reason originalState tenantId : String) (attemptsCount : Nat) :
    DeadLetter :=
  let old := db.deadLetteredRuns.lookup runId
  { runId, reason, originalState, tenantId, attemptsCount,
    deadLetteredAt := call.now
    requeueCount := (old.map (·.requeueCount)).getD 0
    lastRequeueAt := old.bind (·.lastRequeueAt) }

/-- `INSERT OR REPLACE INTO dead_lettered_runs`. -/
def insertDeadLetter (db : RunQueue) (call : Call)
    (runId reason originalState tenantId : String) (attemptsCount : Nat) :
    RunQueue :=
  { db with
    deadLetteredRuns := db.deadLetteredRuns.insertOrReplace
      (db.deadLetterRecord call runId reason originalState tenantId
        attemptsCount) }

/-- The statements of `fail`: the read of the attempt columns, the update, and,
once the attempts are used up, the dead-letter record under the row's tenant.
The `error` text is not stored. -/
def failRows (db : RunQueue) (call : Call) (scope : Option String)
    (runId workerId : String) : RunQueue :=
  let mine (row : QueueRow) := row.heldBy workerId && covers scope row.tenantId
  match (db.runQueue.lookup runId).filter mine with
  | none => db
  | some row =>
    let db' := { db with
      runQueue := db.runQueue.updateAt runId
        (fun row => covers scope row.tenantId) (QueueRow.toAttempted call.now) }
    if row.attemptCount + 1 ≥ row.maxAttempts then
      let tenantId := ((db'.runQueue.lookup runId).map (·.tenantId)).getD
        "__unknown__"
      db'.insertDeadLetter call runId "max_attempts_exceeded" "leased" tenantId
        (row.attemptCount + 1)
    else db'

def fail (db : RunQueue) (call : Call) (runId workerId : String)
    (tenantId : Option String) : Except TenantScopeError RunQueue :=
  (checkTenantScope call.posture tenantId "fail").map fun scope =>
    db.failRows call scope runId workerId

/-- The statement of `cancel`. -/
def cancelRows (db : RunQueue) (call : Call) (scope : Option String)
    (runId : String) : RunQueue :=
  { db with
    runQueue := db.runQueue.updateAt runId
      (fun row => covers scope row.tenantId) (QueueRow.toFlagged call.now) }

def cancel (db : RunQueue) (call : Call) (runId : String)
    (tenantId : Option String) : Except TenantScopeError RunQueue :=
  (checkTenantScope call.posture tenantId "cancel").map fun scope =>
    db.cancelRows call scope runId

/-- `WHERE status = 'leased' AND lease_expires_at < ?`. -/
def expired (now : Int) (row : QueueRow) : Bool :=
  row.status == .leased && row.leaseBefore now

/-- `RunQueue.release_expired_leases`, with its `rowcount`. -/
def releaseExpiredLeases (db : RunQueue) (call : Call) : Nat × RunQueue :=
  ((db.runQueue.select (expired call.now)).length,
    { db with
      runQueue :=
        db.runQueue.update (expired call.now) (QueueRow.toQueued call.now) })

/-- An entry of the list `expire_stale_leases` returns. The lease age is
rounded to milliseconds and the expiry is printed as text in the source. -/
structure StaleLease where
  runId : String
  tenantId : String
  expiredAt : Option Int
  leaseAge : Int

/-- `RunQueue.expire_stale_leases`: a read only. -/
def expireStaleLeases (db : RunQueue) (call : Call) : List StaleLease :=
  (db.runQueue.select (expired call.now)).map fun row =>
    { runId := row.runId
      tenantId := row.tenantId
      expiredAt := row.leaseExpiresAt
      -- `lease_expires_at if lease_expires_at else now`: zero counts as absent
      leaseAge := call.now -
        ((row.leaseExpiresAt.filter (· != 0)).getD call.now) }

/-- `RunQueue.claim_with_adoption_token`, with its `rowcount > 0`. -/
def claimWithAdoptionToken (db : RunQueue) (call : Call)
    (runId adoptionToken : String) : Bool × RunQueue :=
  let free (row : QueueRow) := row.adoptionToken.isNone
  (db.runQueue.hitsAt runId free,
    { db with
      runQueue := db.runQueue.updateAt runId free
        (QueueRow.toAdopted call.now adoptionToken) })

/-- The statement of `dequeue_unclaimed`. -/
def dequeueUnclaimedRows (db : RunQueue) (scope : Option String)
    (runId : String) : RunQueue :=
  { db with
    runQueue := db.runQueue.deleteAt runId fun row =>
      row.status == .queued && covers scope row.tenantId }

def dequeueUnclaimed (db : RunQueue) (call : Call) (runId : String)
    (tenantId : Option String) : Except TenantScopeError RunQueue :=
  (checkTenantScope call.posture tenantId "dequeue_unclaimed").map fun scope =>
    db.dequeueUnclaimedRows scope runId

/-- The statements of `dead_letter`: the read of the attempts and the update are
scope, the insert between them is not. -/
def deadLetterRows (db : RunQueue) (call : Call) (scope : Option String)
    (runId reason originalState : String) : RunQueue :=
  let mine (row : QueueRow) := covers scope row.tenantId
  let attemptsCount :=
    (((db.runQueue.lookup runId).filter mine).map (·.attemptCount)).getD 0
  let db' := db.insertDeadLetter call runId reason originalState
    (scope.getD "") attemptsCount
  { db' with
    runQueue :=
      db'.runQueue.updateAt runId mine (QueueRow.toFailed call.now) }

def deadLetter (db : RunQueue) (call : Call)
    (runId reason originalState : String) (tenantId : Option String) :
    Except TenantScopeError RunQueue :=
  (checkTenantScope call.posture tenantId "dead_letter").map fun scope =>
    db.deadLetterRows call scope runId reason originalState

/-- The statements of `requeue_from_dlq`. The requeue count is raised on the
record that the next statement deletes. -/
def requeueFromDlqRows (db : RunQueue) (call : Call) (scope : Option String)
    (runId : String) : Bool × RunQueue :=
  let mine (record : DeadLetter) := covers scope record.tenantId
  if db.deadLetteredRuns.hitsAt runId mine then
    (true,
      { deadLetteredRuns :=
          (db.deadLetteredRuns.updateAt runId mine (DeadLetter.toCounted call.now)).deleteAt
            runId mine
        runQueue := db.runQueue.updateAt runId
          (fun row => covers scope row.tenantId) (QueueRow.toQueued call.now) })
  else (false, db)

def requeueFromDlq (db : RunQueue) (call : Call) (runId : String)
    (tenantId : Option String) : Except TenantScopeError (Bool × RunQueue) :=
  (checkTenantScope call.posture tenantId "requeue_from_dlq").map fun scope =>
    db.requeueFromDlqRows call scope runId

/-! ## Histories -/

/-- A call of a method that writes to the database. -/
inductive Op where
  | enqueue (runId : String) (priority : Int)
      (payloadJson tenantId userId sessionId projectId : String)
  | claimNext (workerId : String)
  | heartbeat (runId workerId : String) (tenantId : Option String)
  | releaseLease (runId workerId : String)
  | complete (runId workerId : String) (tenantId : Option String)
  | fail (runId workerId : String) (tenantId : Option String)
  | cancel (runId : String) (tenantId : Option String)
  | releaseExpiredLeases
  | reenqueue (runId : String) (tenantId : Option String)
  | dequeueUnclaimed (runId : String) (tenantId : Option String)
  | deadLetter (runId reason originalState : String) (tenantId : Option String)
  | requeueFromDlq (runId : String) (tenantId : Option String)

def after {α : Type} (db : RunQueue) (state : α → RunQueue) :
    Except TenantScopeError α → RunQueue
  | .ok result => state result
  | .error _ => db

/-- The database after one call. -/
def perform (db : RunQueue) : Call × Op → RunQueue
  | (call, .enqueue runId priority payloadJson tenantId userId sessionId projectId) =>
    db.enqueue call runId priority payloadJson tenantId userId sessionId projectId
  | (call, .claimNext workerId) => (db.claimNext call workerId).2
  | (call, .heartbeat runId workerId tenantId) =>
    db.after (·.2) (db.heartbeat call runId workerId tenantId)
  | (call, .releaseLease runId workerId) => (db.releaseLease call runId workerId).2
  | (call, .complete runId workerId tenantId) =>
    db.after id (db.complete call runId workerId tenantId)
  | (call, .fail runId workerId tenantId) =>
    db.after id (db.fail call runId workerId tenantId)
  | (call, .cancel runId tenantId) => db.after id (db.cancel call runId tenantId)
  | (call, .releaseExpiredLeases) => (db.releaseExpiredLeases call).2
  | (call, .reenqueue runId tenantId) =>
    db.after (·.2) (db.reenqueue call runId tenantId)
  | (call, .dequeueUnclaimed runId tenantId) =>
    db.after id (db.dequeueUnclaimed call runId tenantId)
  | (call, .deadLetter runId reason originalState tenantId) =>
    db.after id (db.deadLetter call runId reason originalState tenantId)
  | (call, .requeueFromDlq runId tenantId) =>
    db.after (·.2) (db.requeueFromDlq call runId tenantId)

def row (db : RunQueue) (runId : String) : Option QueueRow :=
  db.runQueue.lookup runId

def record (db : RunQueue) (runId : String) : Option DeadLetter :=
  db.deadLetteredRuns.lookup runId

/-- `SET f WHERE p`, on the row a statement may find. -/
def amend (p : QueueRow → Bool) (f : Assignment QueueRow.runId) :
    Option QueueRow → Option QueueRow :=
  Option.map fun row => if p row then f.set row else row

@[simp] theorem amend_none (p : QueueRow → Bool) (f : Assignment QueueRow.runId) :
    amend p f none = none := rfl

@[simp] theorem amend_some (p : QueueRow → Bool) (f : Assignment QueueRow.runId) (row : QueueRow) :
    amend p f (some row) = some (if p row then f.set row else row) := rfl

theorem of_amend_eq_some {P : QueueRow → Prop} {p : QueueRow → Bool}
    {f : Assignment QueueRow.runId} {old : Option QueueRow} {row : QueueRow}
    (h : amend p f old = some row) (hold : ∀ row, old = some row → P row)
    (hset : ∀ row, old = some row → p row = true → P (f.set row)) : P row := by
  cases old with
  | none => simp at h
  | some found =>
    rw [amend_some] at h
    obtain rfl := Option.some.inj h
    split
    · rename_i hp
      exact hset found rfl hp
    · exact hold found rfl

@[simp] theorem row_empty (runId : String) : empty.row runId = none := rfl

@[simp] theorem record_empty (runId : String) : empty.record runId = none := rfl

theorem runId_of_row {db : RunQueue} {runId : String} {found : QueueRow}
    (h : db.row runId = some found) : found.runId = runId :=
  Table.key_of_lookup h

section Rows

variable (db : RunQueue) (call : Call) (scope : Option String) (runId workerId k : String)

/-! ## The row of a run -/

theorem row_enqueue (priority : Int) (payloadJson tenantId userId sessionId projectId : String) :
    (db.enqueue call runId priority payloadJson tenantId userId sessionId projectId).row k =
      if k = runId then some ((db.row k).getD
        { runId, priority, payloadJson, tenantId, userId, sessionId, projectId, status := .queued
          attemptCount := 0
          maxAttempts := 3
          workerId := none
          leaseExpiresAt := none
          cancellationFlag := false
          enqueuedAt := call.now
          updatedAt := call.now
          adoptionToken := none })
      else db.row k :=
  Table.lookup_insertOrIgnore db.runQueue _ k

theorem row_reenqueueRows : (db.reenqueueRows call scope runId).2.row k =
      if k = runId then amend (fun row => covers scope row.tenantId)
        (QueueRow.toReenqueued call.now) (db.row runId) else db.row k := by
  apply Table.lookup_updateAt

theorem row_heartbeatRows : (db.heartbeatRows call scope runId workerId).2.row k =
      if k = runId then amend (fun row => row.heldBy workerId &&
          row.status == .leased && row.leaseFrom call.now && covers scope row.tenantId)
        (QueueRow.toRenewed call.now (call.now + call.leaseTimeout)) (db.row runId)
      else db.row k := by
  apply Table.lookup_updateAt

theorem row_releaseLease : (db.releaseLease call runId workerId).2.row k =
      if k = runId then amend (fun row => row.heldBy workerId &&
          row.status == .leased) (QueueRow.toQueued call.now) (db.row runId) else db.row k := by
  apply Table.lookup_updateAt

theorem row_completeRows : (db.completeRows call scope runId workerId).row k =
      if k = runId then amend (fun row => row.heldBy workerId &&
          covers scope row.tenantId) (QueueRow.toCompleted call.now) (db.row runId)
      else db.row k := by
  apply Table.lookup_updateAt

theorem row_cancelRows : (db.cancelRows call scope runId).row k =
      if k = runId then amend (fun row => covers scope row.tenantId)
        (QueueRow.toFlagged call.now) (db.row runId) else db.row k := by
  apply Table.lookup_updateAt

theorem row_releaseExpiredLeases : (db.releaseExpiredLeases call).2.row k =
      amend (expired call.now) (QueueRow.toQueued call.now) (db.row k) := by
  apply Table.lookup_update

theorem row_claimWithAdoptionToken (adoptionToken : String) :
    (db.claimWithAdoptionToken call runId adoptionToken).2.row k =
      if k = runId then amend (fun row => row.adoptionToken.isNone)
        (QueueRow.toAdopted call.now adoptionToken) (db.row runId) else db.row k := by
  apply Table.lookup_updateAt

theorem row_dequeueUnclaimedRows : (db.dequeueUnclaimedRows scope runId).row k =
      if k = runId then (db.row runId).filter fun row =>
        !(row.status == .queued && covers scope row.tenantId) else db.row k :=
  Table.lookup_deleteAt _ _ _ k

theorem row_deadLetterRows (reason originalState : String) :
    (db.deadLetterRows call scope runId reason originalState).row k =
      if k = runId then amend (fun row => covers scope row.tenantId)
        (QueueRow.toFailed call.now) (db.row runId) else db.row k := by
  apply Table.lookup_updateAt

theorem row_requeueFromDlqRows : (db.requeueFromDlqRows call scope runId).2.row k =
      if k = runId ∧ (db.record runId).any (covers scope ·.tenantId) then
        amend (fun row => covers scope row.tenantId) (QueueRow.toQueued call.now) (db.row runId)
      else db.row k := by
  simp only [requeueFromDlqRows, Table.hitsAt]
  change _ = if k = runId ∧ (db.deadLetteredRuns.lookup runId).any _ then _ else _
  by_cases hfound : ((db.deadLetteredRuns.lookup runId).any
      fun record => covers scope record.tenantId) = true
  · simp only [hfound, if_true, and_true]
    apply Table.lookup_updateAt
  · simp only [hfound, and_false, if_false, Bool.false_eq_true]

theorem of_nextClaimable {db : RunQueue} {found : QueueRow} (h : db.nextClaimable = some found) :
    db.row found.runId = some found ∧ found.status = .queued ∧ found.cancellationFlag = false := by
  obtain ⟨hrow, hqueued⟩ := Table.lookup_of_selectFirst h
  simp only [Bool.and_eq_true, beq_iff_eq, Bool.not_eq_true'] at hqueued
  exact ⟨hrow, hqueued⟩

theorem row_claimNext : (db.claimNext call workerId).2.row k = match db.nextClaimable with
      | none => db.row k
      | some found =>
        if k = found.runId then
          some ((QueueRow.toLeased call.now (call.now + call.leaseTimeout)
            workerId).set found)
        else db.row k := by
  unfold claimNext
  cases hnext : db.nextClaimable with
  | none => rfl
  | some found =>
    obtain ⟨hrow, hqueued, _⟩ := of_nextClaimable hnext
    have hrow' : db.runQueue.lookup found.runId = some found := hrow
    simp only [row, apply_ite Prod.snd, ite_self]
    rw [Table.lookup_updateAt, hrow', Option.map_some, hqueued]
    simp only [beq_self_eq_true, if_true]

theorem claimNext_fst : (db.claimNext call workerId).1 =
      db.nextClaimable.map fun found => ⟨found.runId, found.payloadJson⟩ := by
  unfold claimNext
  cases hnext : db.nextClaimable with
  | none => rfl
  | some found =>
    obtain ⟨hrow, hqueued, _⟩ := of_nextClaimable hnext
    have hhits : db.runQueue.hitsAt found.runId
        (fun row => row.status == .queued) = true := by
      change (db.row found.runId).any _ = true
      simp [hrow, hqueued]
    simp only [hhits, if_true, Option.map_some]

theorem heartbeatRows_fst : (db.heartbeatRows call scope runId workerId).1 =
      (db.row runId).any fun row => row.heldBy workerId &&
        row.status == .leased && row.leaseFrom call.now && covers scope row.tenantId := rfl

theorem row_failRows : (db.failRows call scope runId workerId).row k =
      if k = runId then amend (fun row => row.heldBy workerId &&
          covers scope row.tenantId) (QueueRow.toAttempted call.now) (db.row runId)
      else db.row k := by
  unfold failRows
  simp only [row]
  cases hrow : db.runQueue.lookup runId with
  | none =>
    simp only [Option.filter_none, amend_none]
    split
    · rename_i hk
      rw [hk, hrow]
    · rfl
  | some found =>
    by_cases hmine : (found.heldBy workerId && covers scope found.tenantId) = true
    · have hcovers : covers scope found.tenantId = true :=
        (Bool.and_eq_true_iff.mp hmine).2
      simp only [Option.filter_some, hmine, if_true, amend_some,
        apply_ite RunQueue.runQueue, insertDeadLetter, ite_self]
      simp only [Table.lookup_updateAt, hrow, Option.map_some, hcovers, if_true]
    · simp only [Option.filter_some, hmine, if_false, amend_some, Bool.false_eq_true]
      split
      · rename_i hk
        rw [hk, hrow]
      · rfl

/-! ## The record of a run -/

theorem record_enqueue (priority : Int) (payloadJson tenantId userId sessionId projectId : String) :
    (db.enqueue call runId priority payloadJson tenantId userId sessionId
      projectId).record k = db.record k := rfl

theorem record_reenqueueRows : (db.reenqueueRows call scope runId).2.record k = db.record k := rfl

theorem record_heartbeatRows :
    (db.heartbeatRows call scope runId workerId).2.record k = db.record k := rfl

theorem record_releaseLease : (db.releaseLease call runId workerId).2.record k = db.record k := rfl

theorem record_completeRows :
    (db.completeRows call scope runId workerId).record k = db.record k := rfl

theorem record_cancelRows : (db.cancelRows call scope runId).record k = db.record k := rfl

theorem record_releaseExpiredLeases : (db.releaseExpiredLeases call).2.record k = db.record k := rfl

theorem record_dequeueUnclaimedRows :
    (db.dequeueUnclaimedRows scope runId).record k = db.record k := rfl

theorem record_claimNext : (db.claimNext call workerId).2.record k = db.record k := by
  unfold claimNext
  cases db.nextClaimable with
  | none => rfl
  | some found =>
    simp only [record, apply_ite Prod.snd, ite_self]

theorem record_deadLetterRows (reason originalState : String) :
    (db.deadLetterRows call scope runId reason originalState).record k =
      if k = runId then some (db.deadLetterRecord call runId reason originalState
        (scope.getD "") ((((db.row runId).filter
          fun row => covers scope row.tenantId).map (·.attemptCount)).getD 0)) else db.record k :=
  Table.lookup_insertOrReplace _ _ k

theorem record_failRows : (db.failRows call scope runId workerId).record k =
      match (db.row runId).filter fun row => row.heldBy workerId && covers scope row.tenantId with
      | none => db.record k
      | some found =>
        if k = runId ∧ found.attemptCount + 1 ≥ found.maxAttempts then
          some (db.deadLetterRecord call runId "max_attempts_exceeded" "leased"
            found.tenantId (found.attemptCount + 1))
        else db.record k := by
  unfold failRows
  simp only [row]
  cases hrow : db.runQueue.lookup runId with
  | none => rfl
  | some found =>
    by_cases hmine : (found.heldBy workerId && covers scope found.tenantId) = true
    · simp only [Option.filter_some, hmine, if_true]
      by_cases hlast : found.attemptCount + 1 ≥ found.maxAttempts
      · have hupdated : ((db.runQueue.updateAt runId
            (fun row => covers scope row.tenantId)
            (QueueRow.toAttempted call.now)).lookup runId).map (·.tenantId) =
              some found.tenantId := by
          rw [Table.lookup_updateAt, if_pos rfl, hrow]
          simp only [Option.map_some]
          split <;> rfl
        simp only [hlast, if_true, and_true, hupdated, Option.getD_some]
        exact Table.lookup_insertOrReplace _ _ k
      · simp only [hlast, if_false, and_false]
        rfl
    · simp only [Option.filter_some, hmine, if_false, Bool.false_eq_true]

theorem record_requeueFromDlqRows : (db.requeueFromDlqRows call scope runId).2.record k =
      if k = runId then (db.record runId).filter fun record => !covers scope record.tenantId
      else db.record k := by
  have hhits : db.deadLetteredRuns.hitsAt runId
      (fun record => covers scope record.tenantId) =
        (db.record runId).any (covers scope ·.tenantId) := rfl
  have hsame : k = runId → db.record k = db.record runId := by
    rintro rfl
    rfl
  simp only [requeueFromDlqRows, hhits]
  cases hrecord : db.record runId with
  | none =>
    simp only [Option.any_none, Bool.false_eq_true, if_false, Option.filter_none]
    split
    · rename_i hk
      rw [hsame hk, hrecord]
    · rfl
  | some found =>
    cases hmine : covers scope found.tenantId with
    | true =>
      have hcounted : covers scope
          ((DeadLetter.toCounted call.now).set found).tenantId = true := hmine
      have hlookup : db.deadLetteredRuns.lookup runId = some found := hrecord
      simp only [Option.any_some, hmine, if_true, record,
        Table.lookup_deleteAt, Table.lookup_updateAt, hlookup,
        Option.map_some, Option.filter_some, hcounted, Bool.not_true,
        Bool.false_eq_true, if_false]
      split
      · rfl
      · rfl
    | false =>
      simp only [Option.any_some, hmine, Bool.false_eq_true, if_false,
        Option.filter_some, Bool.not_false, if_true]
      split
      · rename_i hk
        rw [hsame hk, hrecord]
      · rfl

end Rows

/-! ## Raising -/

theorem after_map {α β : Type} (db : RunQueue) (state : β → RunQueue)
    (run : α → β) (check : Except TenantScopeError α) : db.after state (check.map run) =
      match check with
      | .error _ => db
      | .ok scope => state (run scope) := by
  cases check with
  | error error => rfl
  | ok scope => rfl

theorem invariant_after {P : RunQueue → Prop} {α β : Type} {db : RunQueue}
    {state : β → RunQueue} {run : α → β} {check : Except TenantScopeError α}
    (hdb : P db) (hrun : ∀ scope, check = .ok scope → P (state (run scope))) :
    P (db.after state (check.map run)) := by
  rw [after_map]
  split
  · exact hdb
  · exact hrun _ rfl

end RunQueue

end HiAgent.Server
