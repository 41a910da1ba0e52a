/-
  Server/Recovery.lean --- recovery passes over a shared run queue.

  `hi_agent/server/recovery.py` decides what happens to a run whose lease has expired, and
  `_rehydrate_runs` of `hi_agent/server/app.py` carries the decision out: it lists the stale
  leases once, and then, run by run, sets the adoption token with a compare-and-swap and puts the
  run back into the queue.
-/
import HiAgent.Foundation.Machine
import HiAgent.Server.RunQueue
import Mathlib.Logic.Function.Basic

namespace HiAgent.Server

open Foundation

/-! ## The decision -/

inductive RecoveryState where
  | queued
  | leased
  | running
  | leaseExpired
  | requeued
  | adopted
  | failedTerminal
  deriving DecidableEq

/-- The text of a `RecoveryState`. -/
def RecoveryState.value : RecoveryState → String
  | .queued => "queued"
  | .leased => "leased"
  | .running => "running"
  | .leaseExpired => "lease_expired"
  | .requeued => "requeued"
  | .adopted => "adopted"
  | .failedTerminal => "failed_terminal"

structure RecoveryDecision where
  runId : String
  tenantId : String
  fromState : RecoveryState
  toState : RecoveryState
  shouldRequeue : Bool
  reason : String

def decideRecoveryAction (runId tenantId : String) (currentState : RecoveryState)
    (posture : Posture) : RecoveryDecision :=
  if currentState ≠ .leaseExpired then
    { runId, tenantId, fromState := currentState
      toState := currentState
      shouldRequeue := false
      reason := "state " ++ currentState.value ++ " does not require recovery" }
  else if posture.isStrict then
    { runId, tenantId, fromState := .leaseExpired
      toState := .requeued
      shouldRequeue := true
      reason := "research/prod default: re-enqueue lease-expired run" }
  else
    { runId, tenantId, fromState := .leaseExpired
      toState := .leaseExpired
      shouldRequeue := false
      reason := "dev posture: warn-only, no re-enqueue" }

/-! ## Passes and workers over one queue -/

/-- A pass of `_rehydrate_runs`: the entries it has still to look at, and the run
it has adopted and not yet put back. -/
structure RecoveryPass where
  posture : Posture
  optOut : Bool
  pending : List RunQueue.StaleLease
  adopted : Option RunQueue.StaleLease

def RecoveryPass.idle : RecoveryPass := ⟨.dev, false, [], none⟩

def RecoveryPass.effectiveRequeue (pass : RecoveryPass) (entry : RunQueue.StaleLease) : Bool :=
  (decideRecoveryAction entry.runId entry.tenantId .leaseExpired
    pass.posture).shouldRequeue && !pass.optOut

/-- The queue, the clock, the passes under way, and a ledger the code does not
keep: until when the last worker that claimed a run holds it. -/
structure Fleet where
  db : RunQueue
  clock : Int
  passes : Nat → RecoveryPass
  held : String → Option Int

/-- The caller of a method: how long ago it read the clock when its transaction
gets the lock, the posture it sees and the lease time of its instance. -/
structure Caller where
  lag : Nat
  posture : Except String Posture
  leaseTimeout : Int

/-- The methods that workers and submitters call. -/
def RunQueue.Op.isWorkerOp : RunQueue.Op → Bool
  | .enqueue .. => true
  | .claimNext _ => true
  | .heartbeat .. => true
  | .releaseLease .. => true
  | .complete .. => true
  | .fail .. => true
  | .cancel .. => true
  | .releaseExpiredLeases => true
  | _ => false

/-- One transaction, or time passing. -/
inductive FleetEvent where
  | tick (elapsed : Nat)
  | queue (caller : Caller) (op : RunQueue.Op) (worker : op.isWorkerOp = true)
  /-- `_rehydrate_runs` starts and lists the stale leases. -/
  | scan (pass : Nat) (caller : Caller) (posture : Posture) (optOut : Bool)
  /-- The pass decides on its next entry and tries to adopt it. -/
  | adopt (pass : Nat) (caller : Caller) (token : String)
  /-- The pass puts the run it adopted back into the queue. -/
  | reenqueue (pass : Nat) (caller : Caller)
  /-- The process of the pass ends. -/
  | crash (pass : Nat)

namespace Fleet

def call (s : Fleet) (caller : Caller) : Call where
  now := s.clock - caller.lag
  posture := caller.posture
  leaseTimeout := caller.leaseTimeout

/-- The answer `True` of `heartbeat`. -/
def renewed : Except TenantScopeError (Bool × RunQueue) → Bool
  | .ok result => result.1
  | .error _ => false

def surrenders (db db' : RunQueue) (runId workerId : String) : Bool :=
  (db.row runId).any (·.heldBy workerId) && !(db'.row runId).any (·.heldBy workerId)

/-- The ledger after a worker's call: a claim opens an entry, a granted heartbeat
extends it, and the worker's own `complete`, `fail` or `release_lease` closes it.
Nothing else touches it. -/
def heldAfter (s : Fleet) (call : Call) (op : RunQueue.Op) : String → Option Int :=
  let db' := s.db.perform (call, op)
  match op with
  | .claimNext workerId =>
    (s.db.claimNext call workerId).1.elim s.held fun claim =>
      Function.update s.held claim.runId (some (call.now + call.leaseTimeout))
  | .heartbeat runId workerId tenantId =>
    if renewed (s.db.heartbeat call runId workerId tenantId) then
      Function.update s.held runId (some (call.now + call.leaseTimeout))
    else s.held
  | .complete runId workerId _ | .fail runId workerId _
  | .releaseLease runId workerId =>
    if surrenders s.db db' runId workerId then
      Function.update s.held runId none
    else s.held
  | _ => s.held

/-- One event. -/
def step (s : Fleet) : FleetEvent → Fleet
  | .tick elapsed => { s with clock := s.clock + elapsed }
  | .queue caller op _ => { s with
      db := s.db.perform (s.call caller, op)
      held := s.heldAfter (s.call caller) op }
  | .scan pass caller posture optOut =>
    match (s.passes pass).pending, (s.passes pass).adopted with
    | [], none => { s with
        passes := Function.update s.passes pass
          { posture, optOut, pending := s.db.expireStaleLeases (s.call caller)
            adopted := none } }
    | _, _ => s
  | .adopt pass caller token =>
    match (s.passes pass).pending, (s.passes pass).adopted with
    | entry :: rest, none =>
      if (s.passes pass).effectiveRequeue entry then
        let (claimed, db) := s.db.claimWithAdoptionToken (s.call caller)
          entry.runId token
        { s with
          db
          passes := Function.update s.passes pass { s.passes pass with
            pending := rest
            adopted := if claimed then some entry else none } }
      else { s with
        passes := Function.update s.passes pass
          { s.passes pass with pending := rest } }
    | _, _ => s
  | .reenqueue pass caller =>
    match (s.passes pass).adopted with
    | some entry => { s with
        -- an exception is logged, and the pass goes on with its next entry
        db := s.db.after (·.2) (s.db.reenqueue (s.call caller) entry.runId
          (some entry.tenantId))
        passes := Function.update s.passes pass
          { s.passes pass with adopted := none } }
    | none => s
  | .crash pass =>
    { s with passes := Function.update s.passes pass .idle }

/-- A fresh queue, with no pass under way and no lease held. -/
def fresh (start : Int) : Fleet where
  db := .empty
  clock := start
  passes := fun _ => .idle
  held := fun _ => none

end Fleet

open RunQueue

def QueueRow.live (now : Int) (row : QueueRow) : Bool :=
  row.status == .leased && row.leaseFrom now

theorem QueueRow.live_iff {now : Int} {row : QueueRow} : row.live now = true ↔
      row.status = .leased ∧ ∃ e, row.leaseExpiresAt = some e ∧ now ≤ e := by
  unfold live leaseFrom
  cases row.leaseExpiresAt <;> simp

theorem QueueRow.live_of_le {now later : Int} {row : QueueRow}
    (hle : now ≤ later) (h : row.live later = true) : row.live now = true := by
  obtain ⟨hleased, e, he, hlater⟩ := live_iff.mp h
  exact live_iff.mpr ⟨hleased, e, he, Int.le_trans hle hlater⟩

namespace Fleet

/-! ## The property and its condition -/

def Adopted (s : Fleet) (runId : String) : Prop :=
  ∃ pass entry, (s.passes pass).adopted = some entry ∧ entry.runId = runId

def KeepsLive (s : Fleet) (event : FleetEvent) : Prop :=
  ∀ runId row row', s.db.row runId = some row → row.live s.clock = true →
    (s.step event).db.row runId = some row' → row'.status ≠ .queued

/-- A recovery pass puts no row under a running lease back to `queued`, and
`claim_next` hands out no run that an earlier holder still holds. -/
def Exclusive (s : Fleet) : FleetEvent → Prop
  | .queue caller (.claimNext workerId) _ =>
    ∀ claim, (s.db.claimNext (s.call caller) workerId).1 = some claim →
      ∀ e, s.held claim.runId = some e → e < s.clock
  | .tick _ => True
  | .queue .. => True
  | event => KeepsLive s event

/-- The condition: the run a pass wins the adoption token of is not under a
running lease, `claim_next` takes no adopted run, and no heartbeat for an adopted
run relies on a reading of the clock from before the lease ran out. -/
def Ordered (s : Fleet) : FleetEvent → Prop
  | .adopt pass _ _ =>
    ∀ entry, (s.passes pass).pending.head? = some entry → (s.passes pass).adopted = none →
      (s.passes pass).effectiveRequeue entry = true →
        ∀ row, s.db.row entry.runId = some row → row.adoptionToken = none → row.live s.clock = false
  | .queue _ (.claimNext _) _ =>
    ∀ row, s.db.nextClaimable = some row → ¬ s.Adopted row.runId
  | .queue caller (.heartbeat runId _ _) _ =>
    s.Adopted runId → ∀ row, s.db.row runId = some row → row.live (s.call caller).now = false
  | _ => True

/-! ## The invariant -/

/-- The ledger is backed by the rows, and adopted rows are not live. -/
structure Inv (s : Fleet) : Prop where
  held : ∀ runId e, s.held runId = some e → s.clock ≤ e →
    ∃ row, s.db.row runId = some row ∧ row.status = .leased ∧ row.leaseExpiresAt = some e
  adopted : ∀ runId row, s.Adopted runId → s.db.row runId = some row → row.live s.clock = false

theorem inv_fresh (start : Int) : (fresh start).Inv where
  held runId e h := by cases h
  adopted runId row h := by
    obtain ⟨pass, entry, hentry, _⟩ := h
    cases hentry

/-! ## What a worker's call does to one run -/

section Worker

variable (s : Fleet) (caller : Caller) (op : Op) (runId : String)

abbrev dbAfter : RunQueue := s.db.perform (s.call caller, op)

/-- The three things a worker's call may do to a run: it leaves status, expiry
and ledger as they are (a row it inserts is queued); it takes a row out of its
lease, on behalf of the holder or after the lease ran out; or it writes a lease
to the row it claims or renews, and the ledger with it. -/
inductive RowChange : Prop where
  | quiet
      (ledger : s.heldAfter (s.call caller) op runId = s.held runId)
      (same : ∀ row, s.db.row runId = some row →
        ∃ row', (s.dbAfter caller op).row runId = some row' ∧
          row'.status = row.status ∧ row'.leaseExpiresAt = row.leaseExpiresAt)
      (inserted : s.db.row runId = none → ∀ row', (s.dbAfter caller op).row runId = some row' →
          row'.status = .queued)
  | ended
      (ledger : s.heldAfter (s.call caller) op runId = none ∨
        s.heldAfter (s.call caller) op runId = s.held runId ∧
          ∀ row, s.db.row runId = some row → row.live s.clock = false)
      (notLeased : ∀ row', (s.dbAfter caller op).row runId = some row' → row'.status ≠ .leased)
  | granted (e : Int) (row row' : QueueRow)
      (ledger : s.heldAfter (s.call caller) op runId = some e)
      (old : s.db.row runId = some row)
      (new : (s.dbAfter caller op).row runId = some row')
      (leased : row'.status = .leased)
      (expiry : row'.leaseExpiresAt = some e)
      (source : (∃ workerId, op = .claimNext workerId ∧ s.db.nextClaimable = some row) ∨
        ∃ workerId tenantId, op = .heartbeat runId workerId tenantId ∧
          row.live (s.call caller).now = true)

variable {s caller op runId}

theorem RowChange.of_same (hrow : (s.dbAfter caller op).row runId = s.db.row runId)
    (hledger : s.heldAfter (s.call caller) op runId = s.held runId) : RowChange s caller op runId :=
  .quiet hledger (fun row h => ⟨row, hrow.trans h, rfl, rfl⟩)
    (fun h row' h' => by rw [hrow, h] at h'; cases h')

theorem RowChange.of_unchanged {workerId target : String} (hdb : s.dbAfter caller op = s.db)
    (hledger : s.heldAfter (s.call caller) op =
      if surrenders s.db (s.dbAfter caller op) target workerId then
        Function.update s.held target none else s.held) : RowChange s caller op runId := by
  refine .of_same (congrArg (row · runId) hdb) ?_
  rw [hledger, if_neg]
  rw [hdb, surrenders, Bool.and_not_self]
  exact Bool.false_ne_true

theorem rowChange_of_surrender {target workerId : String} {p : QueueRow → Bool}
    {f : Assignment QueueRow.runId} (hrow : ∀ k, (s.dbAfter caller op).row k =
      if k = target then amend p f (s.db.row target) else s.db.row k)
    (hledger : s.heldAfter (s.call caller) op =
      if surrenders s.db (s.dbAfter caller op) target workerId then
        Function.update s.held target none else s.held)
    (hp : ∀ row, p row = true → row.heldBy workerId = true)
    (hworker : ∀ row, (f.set row).workerId = none) (hstatus : ∀ row, (f.set row).status ≠ .leased) :
    RowChange s caller op runId := by
  by_cases hk : runId = target
  · subst hk
    have hnew := hrow runId
    rw [if_pos rfl] at hnew
    cases hold : s.db.row runId with
    | none =>
      rw [hold, amend_none] at hnew
      refine .of_same (hnew.trans hold.symm) ?_
      rw [hledger, if_neg]
      simp [surrenders, hold]
    | some row =>
      rw [hold, amend_some] at hnew
      by_cases hmine : p row = true
      · rw [if_pos hmine] at hnew
        have hsurrenders : surrenders s.db (s.dbAfter caller op) runId
            workerId = true := by
          have hheld := hp row hmine
          simp only [QueueRow.heldBy, beq_iff_eq] at hheld
          simp [surrenders, hold, hnew, QueueRow.heldBy, hworker row, hheld]
        refine .ended (.inl ?_) ?_
        · rw [hledger, if_pos hsurrenders, Function.update_self]
        · intro row' hrow'
          rw [hnew] at hrow'
          obtain rfl := Option.some.inj hrow'
          exact hstatus row
      · rw [if_neg hmine] at hnew
        refine .of_same (hnew.trans hold.symm) ?_
        rw [hledger, if_neg]
        simp [surrenders, hold, hnew]
  · have hnew := hrow runId
    rw [if_neg hk] at hnew
    refine .of_same hnew ?_
    rw [hledger]
    split
    · exact Function.update_of_ne hk _ _
    · rfl

theorem rowChange_enqueue (target : String) (priority : Int)
    (payloadJson tenantId userId sessionId projectId : String) :
    RowChange s caller (.enqueue target priority payloadJson tenantId userId
      sessionId projectId) runId := by
  have hrow := row_enqueue s.db (s.call caller) target runId priority payloadJson
    tenantId userId sessionId projectId
  refine .quiet rfl ?_ ?_
  · intro row hold
    refine ⟨row, ?_, rfl, rfl⟩
    refine hrow.trans ?_
    split
    · rw [hold, Option.getD_some]
    · exact hold
  · intro hnone row' hnew
    have heq := hrow.symm.trans hnew
    rw [hnone] at heq
    split at heq
    · obtain rfl := Option.some.inj heq
      rfl
    · cases heq

theorem rowChange_claimNext (workerId : String) :
    RowChange s caller (.claimNext workerId) runId := by
  have hrow := row_claimNext s.db (s.call caller) workerId runId
  have hledger : s.heldAfter (s.call caller) (.claimNext workerId) =
      (s.db.claimNext (s.call caller) workerId).1.elim s.held fun claim =>
        Function.update s.held claim.runId
          (some ((s.call caller).now + (s.call caller).leaseTimeout)) := rfl
  rw [claimNext_fst] at hledger
  cases hnext : s.db.nextClaimable with
  | none =>
    rw [hnext] at hrow hledger
    exact .of_same hrow (congrFun hledger runId)
  | some found =>
    rw [hnext] at hrow hledger
    simp only at hrow
    by_cases hk : runId = found.runId
    · subst hk
      rw [if_pos rfl] at hrow
      refine .granted _ found _ ?_ (of_nextClaimable hnext).1 hrow rfl rfl
        (.inl ⟨workerId, rfl, hnext⟩)
      rw [hledger]
      exact Function.update_self ..
    · rw [if_neg hk] at hrow
      refine .of_same hrow ?_
      rw [hledger]
      exact Function.update_of_ne hk _ _

theorem rowChange_heartbeat (target workerId : String) (tenantId : Option String) :
    RowChange s caller (.heartbeat target workerId tenantId) runId := by
  have hledger : s.heldAfter (s.call caller) (.heartbeat target workerId tenantId) =
      if renewed (s.db.heartbeat (s.call caller) target workerId tenantId) then
        Function.update s.held target
          (some ((s.call caller).now + (s.call caller).leaseTimeout))
      else s.held := rfl
  have hdb : s.dbAfter caller (.heartbeat target workerId tenantId) =
      s.db.after (·.2) (s.db.heartbeat (s.call caller) target workerId tenantId) :=
    rfl
  rw [heartbeat] at hledger hdb
  cases hcheck : checkTenantScope (s.call caller).posture tenantId "heartbeat" with
  | error err =>
    rw [hcheck] at hledger hdb
    exact .of_same (congrArg (row · runId) hdb) (congrFun hledger runId)
  | ok scope =>
    rw [hcheck] at hledger hdb
    have hrenewed : renewed (Except.map (fun scope =>
        s.db.heartbeatRows (s.call caller) scope target workerId) (.ok scope)) =
          (s.db.heartbeatRows (s.call caller) scope target workerId).1 := rfl
    rw [hrenewed, heartbeatRows_fst] at hledger
    have hrow := row_heartbeatRows s.db (s.call caller) scope target workerId
      runId
    have hnew : (s.dbAfter caller (.heartbeat target workerId tenantId)).row
        runId = (s.db.heartbeatRows (s.call caller) scope target workerId).2.row
          runId := congrArg (row · runId) hdb
    rw [hrow] at hnew
    by_cases hk : runId = target
    · subst hk
      rw [if_pos rfl] at hnew
      cases hold : s.db.row runId with
      | none =>
        rw [hold, amend_none] at hnew
        rw [hold, Option.any_none, if_neg Bool.false_ne_true] at hledger
        exact .of_same (hnew.trans hold.symm) (congrFun hledger runId)
      | some found =>
        rw [hold, amend_some] at hnew
        rw [hold, Option.any_some] at hledger
        split at hnew
        · rename_i hmine
          rw [if_pos hmine] at hledger
          have hlive : found.live (s.call caller).now = true := by
            simp only [Bool.and_eq_true, beq_iff_eq] at hmine
            simp [QueueRow.live, hmine.1.1.2, hmine.1.2]
          refine .granted ((s.call caller).now + (s.call caller).leaseTimeout) found _ ?_
            hold hnew (QueueRow.live_iff.mp hlive).1 rfl
            (.inr ⟨workerId, tenantId, rfl, hlive⟩)
          rw [hledger]
          exact Function.update_self ..
        · rename_i hmiss
          rw [if_neg hmiss] at hledger
          exact .of_same (hnew.trans hold.symm) (congrFun hledger runId)
    · rw [if_neg hk] at hnew
      refine .of_same hnew ?_
      rw [hledger]
      split
      · exact Function.update_of_ne hk _ _
      · rfl

theorem rowChange_complete (target workerId : String) (tenantId : Option String) :
    RowChange s caller (.complete target workerId tenantId) runId := by
  have hdb : s.dbAfter caller (.complete target workerId tenantId) =
      s.db.after id (s.db.complete (s.call caller) target workerId tenantId) := rfl
  rw [complete, after_map] at hdb
  cases hcheck : checkTenantScope (s.call caller).posture tenantId "complete" with
  | error err =>
    rw [hcheck] at hdb
    exact .of_unchanged hdb rfl
  | ok scope =>
    rw [hcheck] at hdb
    refine rowChange_of_surrender (fun k => (congrArg (row · k) hdb).trans
      (row_completeRows s.db (s.call caller) scope target workerId k)) rfl ?_
      (fun _ => rfl) (fun _ => by simp [QueueRow.toCompleted])
    intro row hmine
    exact (Bool.and_eq_true_iff.mp hmine).1

theorem rowChange_fail (target workerId : String) (tenantId : Option String) :
    RowChange s caller (.fail target workerId tenantId) runId := by
  have hdb : s.dbAfter caller (.fail target workerId tenantId) =
      s.db.after id (s.db.fail (s.call caller) target workerId tenantId) := rfl
  rw [fail, after_map] at hdb
  cases hcheck : checkTenantScope (s.call caller).posture tenantId "fail" with
  | error err =>
    rw [hcheck] at hdb
    exact .of_unchanged hdb rfl
  | ok scope =>
    rw [hcheck] at hdb
    refine rowChange_of_surrender (fun k => (congrArg (row · k) hdb).trans
      (row_failRows s.db (s.call caller) scope target workerId k)) rfl ?_
      (fun _ => rfl) ?_
    · intro row hmine
      exact (Bool.and_eq_true_iff.mp hmine).1
    · intro row
      simp only [QueueRow.toAttempted]
      split <;> simp

theorem rowChange_releaseLease (target workerId : String) :
    RowChange s caller (.releaseLease target workerId) runId := by
  refine rowChange_of_surrender
    (row_releaseLease s.db (s.call caller) target workerId) rfl ?_ (fun _ => rfl)
    (fun _ => by simp [QueueRow.toQueued])
  intro row hmine
  exact (Bool.and_eq_true_iff.mp hmine).1

theorem rowChange_cancel (target : String) (tenantId : Option String) :
    RowChange s caller (.cancel target tenantId) runId := by
  have hdb : s.dbAfter caller (.cancel target tenantId) =
      s.db.after id (s.db.cancel (s.call caller) target tenantId) := rfl
  rw [cancel, after_map] at hdb
  cases hcheck : checkTenantScope (s.call caller).posture tenantId "cancel" with
  | error err =>
    rw [hcheck] at hdb
    exact .of_same (congrArg (row · runId) hdb) rfl
  | ok scope =>
    rw [hcheck] at hdb
    have hrow := (congrArg (row · runId) hdb).trans
      (row_cancelRows s.db (s.call caller) scope target runId)
    split at hrow
    · rename_i hk
      subst hk
      refine .quiet rfl ?_ ?_
      · intro row hold
        rw [hold, amend_some] at hrow
        refine ⟨_, hrow, ?_, ?_⟩ <;> split <;> rfl
      · intro hnone row' hnew
        rw [hnone, amend_none] at hrow
        rw [hrow] at hnew
        cases hnew
    · exact .of_same hrow rfl

theorem rowChange_releaseExpiredLeases : RowChange s caller .releaseExpiredLeases runId := by
  have hrow := row_releaseExpiredLeases s.db (s.call caller) runId
  cases hold : s.db.row runId with
  | none =>
    rw [hold, amend_none] at hrow
    exact .of_same (hrow.trans hold.symm) rfl
  | some found =>
    rw [hold, amend_some] at hrow
    by_cases hexpired : expired (s.call caller).now found = true
    · rw [if_pos hexpired] at hrow
      refine .ended (.inr ⟨rfl, ?_⟩) ?_
      · intro row hfound
        obtain rfl := Option.some.inj (hold.symm.trans hfound)
        by_contra hlive
        rw [Bool.not_eq_false] at hlive
        obtain ⟨_, e, he, hrunning⟩ := QueueRow.live_iff.mp hlive
        simp only [expired, QueueRow.leaseBefore, he, Option.any_some,
          Bool.and_eq_true, Fleet.call] at hexpired
        have hbefore : e < s.clock - caller.lag := of_decide_eq_true hexpired.2
        omega
      · intro row' hrow'
        obtain rfl := Option.some.inj (hrow.symm.trans hrow')
        simp [QueueRow.toQueued]
    · rw [if_neg hexpired] at hrow
      exact .of_same (hrow.trans hold.symm) rfl

theorem rowChange (s : Fleet) (caller : Caller) (runId : String)
    (hworker : op.isWorkerOp = true) : RowChange s caller op runId := by
  cases op with
  | enqueue target priority payloadJson tenantId userId sessionId projectId =>
    exact rowChange_enqueue target priority payloadJson tenantId userId
      sessionId projectId
  | claimNext workerId => exact rowChange_claimNext workerId
  | heartbeat target workerId tenantId =>
    exact rowChange_heartbeat target workerId tenantId
  | releaseLease target workerId => exact rowChange_releaseLease target workerId
  | complete target workerId tenantId =>
    exact rowChange_complete target workerId tenantId
  | fail target workerId tenantId => exact rowChange_fail target workerId tenantId
  | cancel target tenantId => exact rowChange_cancel target tenantId
  | releaseExpiredLeases => exact rowChange_releaseExpiredLeases
  | reenqueue | dequeueUnclaimed | deadLetter | requeueFromDlq => cases hworker

end Worker

/-! ## One step -/

variable {s : Fleet} {caller : Caller}

theorem inv_queue {op : Op} {hworker : op.isWorkerOp = true} (hinv : s.Inv)
    (hordered : s.Ordered (.queue caller op hworker)) :
    (s.step (.queue caller op hworker)).Inv where
  held runId e hheld hrunning := by
    have hledger : s.heldAfter (s.call caller) op runId = some e := hheld
    cases rowChange s caller runId hworker with
    | quiet ledger same _ =>
      obtain ⟨row, hrow, hleased, he⟩ :=
        hinv.held runId e (ledger.symm.trans hledger) hrunning
      obtain ⟨row', hrow', hstatus, hexpiry⟩ := same row hrow
      exact ⟨row', hrow', hstatus.trans hleased, hexpiry.trans he⟩
    | ended ledger _ =>
      rcases ledger with hnone | ⟨hkept, hdead⟩
      · rw [hnone] at hledger
        cases hledger
      · obtain ⟨row, hrow, hleased, he⟩ :=
          hinv.held runId e (hkept.symm.trans hledger) hrunning
        have hlive : row.live s.clock = true :=
          QueueRow.live_iff.mpr ⟨hleased, e, he, hrunning⟩
        rw [hdead row hrow] at hlive
        cases hlive
    | granted e' row row' ledger old new leased expiry =>
      obtain rfl := Option.some.inj (ledger.symm.trans hledger)
      exact ⟨row', new, leased, expiry⟩
  adopted runId row' hadopted hrow' := by
    have hadopted' : s.Adopted runId := hadopted
    have hnew : (s.dbAfter caller op).row runId = some row' := hrow'
    change row'.live s.clock = false
    cases rowChange s caller runId hworker with
    | quiet _ same inserted =>
      cases hold : s.db.row runId with
      | none => simp [QueueRow.live, inserted hold row' hnew]
      | some row =>
        obtain ⟨other, hother, hstatus, hexpiry⟩ := same row hold
        obtain rfl := Option.some.inj (hother.symm.trans hnew)
        have hdead := hinv.adopted runId row hadopted' hold
        simpa only [QueueRow.live, QueueRow.leaseFrom, hstatus, hexpiry]
          using hdead
    | ended _ notLeased => simp [QueueRow.live, notLeased row' hnew]
    | granted e row _ _ old _ _ _ source =>
      rcases source with ⟨workerId, rfl, hnext⟩ | ⟨workerId, tenantId, rfl, hlive⟩
      · have hid := runId_of_row old
        exact absurd (hid ▸ hadopted') (hordered row hnext)
      · rw [hordered hadopted' row old] at hlive
        cases hlive

theorem inv_of_same_leases {s t : Fleet} (hinv : s.Inv) (hclock : t.clock = s.clock)
    (hheld : t.held = s.held) (hrows : ∀ runId row, s.db.row runId = some row → ∃ row',
      t.db.row runId = some row' ∧ row'.status = row.status ∧
        row'.leaseExpiresAt = row.leaseExpiresAt)
    (hadopted : ∀ runId row', t.Adopted runId → t.db.row runId = some row' →
      row'.live s.clock = false) : t.Inv where
  held runId e h hrunning := by
    rw [hheld] at h
    rw [hclock] at hrunning
    obtain ⟨row, hrow, hleased, he⟩ := hinv.held runId e h hrunning
    obtain ⟨row', hrow', hstatus, hexpiry⟩ := hrows runId row hrow
    exact ⟨row', hrow', hstatus.trans hleased, hexpiry.trans he⟩
  adopted runId row' h hrow' := by
    rw [hclock]
    exact hadopted runId row' h hrow'

theorem adopted_of_update {s t : Fleet} {pass : Nat} {next : RecoveryPass}
    (hpasses : t.passes = Function.update s.passes pass next) {runId : String}
    (h : t.Adopted runId) :
    s.Adopted runId ∨ ∃ entry, next.adopted = some entry ∧ entry.runId = runId := by
  obtain ⟨other, entry, hentry, hid⟩ := h
  rw [hpasses] at hentry
  by_cases hsame : other = pass
  · subst hsame
    rw [Function.update_self] at hentry
    exact .inr ⟨entry, hentry, hid⟩
  · rw [Function.update_of_ne hsame] at hentry
    exact .inl ⟨other, entry, hentry, hid⟩

theorem inv_of_passes {pass : Nat} {next : RecoveryPass} (hinv : s.Inv)
    (hnext : ∀ entry, next.adopted = some entry → s.Adopted entry.runId) :
    Inv { s with passes := Function.update s.passes pass next } := by
  refine inv_of_same_leases hinv rfl rfl (fun runId row h => ⟨row, h, rfl, rfl⟩) ?_
  intro runId row hadopted hrow
  rcases adopted_of_update rfl hadopted with hold | ⟨entry, hentry, rfl⟩
  · exact hinv.adopted runId row hold hrow
  · exact hinv.adopted _ row (hnext entry hentry) hrow

theorem row_of_claimWithAdoptionToken {target token runId : String} {row' : QueueRow}
    (h : (s.db.claimWithAdoptionToken (s.call caller) target token).2.row runId = some row') :
    ∃ row, s.db.row runId = some row ∧ row'.live s.clock = row.live s.clock := by
  rw [row_claimWithAdoptionToken] at h
  split at h
  · rename_i hk
    subst hk
    cases hold : s.db.row runId with
    | none =>
      rw [hold] at h
      cases h
    | some row =>
      rw [hold, amend_some] at h
      obtain rfl := Option.some.inj h
      refine ⟨row, rfl, ?_⟩
      split <;> rfl
  · exact ⟨row', h, rfl⟩

theorem inv_adopt {pass : Nat} {token : String}
    (hinv : s.Inv) (hordered : s.Ordered (.adopt pass caller token)) :
    (s.step (.adopt pass caller token)).Inv := by
  simp only [step]
  cases hpending : (s.passes pass).pending with
  | nil => exact hinv
  | cons entry rest =>
    cases hadopted : (s.passes pass).adopted with
    | some _ => exact hinv
    | none =>
      simp only
      split
      · rename_i heffective
        have hcan := hordered entry (by rw [hpending]; rfl) hadopted heffective
        refine inv_of_same_leases hinv rfl rfl ?_ ?_
        · intro runId row hold
          rw [row_claimWithAdoptionToken]
          split
          · rename_i hk
            subst hk
            rw [hold, amend_some]
            refine ⟨_, rfl, ?_, ?_⟩ <;> split <;> rfl
          · exact ⟨row, hold, rfl, rfl⟩
        · intro runId row' hnow hnew
          obtain ⟨row, hold, hlive⟩ := row_of_claimWithAdoptionToken hnew
          rw [hlive]
          rcases adopted_of_update rfl hnow with hbefore | ⟨other, hother, rfl⟩
          · exact hinv.adopted runId row hbefore hold
          · -- the swap succeeded, so the token was free
            simp only at hother
            split at hother
            · rename_i hclaimed
              obtain rfl := Option.some.inj hother
              have hfree : (s.db.row entry.runId).any
                (fun row => row.adoptionToken.isNone) = true := hclaimed
              rw [hold, Option.any_some, Option.isNone_iff_eq_none] at hfree
              exact hcan row hold hfree
            · cases hother
      · apply inv_of_passes hinv
        intro _ h
        cases h

theorem inv_reenqueue {pass : Nat} (hinv : s.Inv) : (s.step (.reenqueue pass caller)).Inv := by
  simp only [step]
  cases hadopted : (s.passes pass).adopted with
  | none => exact hinv
  | some entry =>
    have hentry : s.Adopted entry.runId := ⟨pass, entry, hadopted, rfl⟩
    simp only [RunQueue.reenqueue, after_map]
    cases hcheck : checkTenantScope (s.call caller).posture
        (some entry.tenantId) "reenqueue" with
    | error err =>
      apply inv_of_passes hinv
      intro _ h
      cases h
    | ok scope =>
      have hrow := row_reenqueueRows s.db (s.call caller) scope entry.runId
      refine ⟨?_, ?_⟩
      · intro runId e hheld hrunning
        obtain ⟨row, hold, hleased, he⟩ := hinv.held runId e hheld hrunning
        refine ⟨row, ?_, hleased, he⟩
        refine (hrow runId).trans ?_
        rw [if_neg, hold]
        rintro rfl
        have hlive : row.live s.clock = true :=
          QueueRow.live_iff.mpr ⟨hleased, e, he, hrunning⟩
        rw [hinv.adopted _ row hentry hold] at hlive
        cases hlive
      · intro runId row' hnow hnew
        replace hnew := (hrow runId).symm.trans hnew
        have hbefore : s.Adopted runId := by
          rcases adopted_of_update rfl hnow with hbefore | ⟨_, hnone, _⟩
          · exact hbefore
          · cases hnone
        change row'.live s.clock = false
        split at hnew
        · rename_i hk
          subst hk
          refine of_amend_eq_some (P := fun row => row.live s.clock = false)
            hnew (fun row hold => hinv.adopted _ row hbefore hold) ?_
          intro row _ _
          rfl
        · exact hinv.adopted runId row' hbefore hnew

theorem inv_step (s : Fleet) (event : FleetEvent) (hinv : s.Inv)
    (hordered : s.Ordered event) : (s.step event).Inv := by
  cases event with
  | tick elapsed =>
    refine ⟨?_, ?_⟩
    · intro runId e hheld hrunning
      have hlater : s.clock + elapsed ≤ e := hrunning
      exact hinv.held runId e hheld (by omega)
    · intro runId row hadopted hrow
      have hdead := hinv.adopted runId row hadopted hrow
      by_contra hlive
      rw [Bool.not_eq_false] at hlive
      have hlater : s.clock ≤ s.clock + elapsed := by omega
      have hsooner := QueueRow.live_of_le hlater hlive
      rw [hdead] at hsooner
      cases hsooner
  | queue caller op hworker => exact inv_queue hinv hordered
  | scan pass caller posture optOut =>
    simp only [step]
    split
    · apply inv_of_passes hinv
      intro _ h
      cases h
    · exact hinv
  | adopt pass caller token => exact inv_adopt hinv hordered
  | reenqueue pass caller => exact inv_reenqueue hinv
  | crash pass =>
    apply inv_of_passes hinv
    intro _ h
    cases h

/-! ## Runs -/

theorem keepsLive_of_db {event : FleetEvent}
    (hdb : (s.step event).db = s.db) : s.KeepsLive event := by
  intro runId row row' hrow hlive hrow'
  rw [hdb, hrow] at hrow'
  obtain rfl := Option.some.inj hrow'
  simp [(QueueRow.live_iff.mp hlive).1]

theorem exclusive_claimNext {workerId : String}
    {hworker : (Op.claimNext workerId).isWorkerOp = true} (hinv : s.Inv) :
    s.Exclusive (.queue caller (.claimNext workerId) hworker) := by
  intro claim hclaim e hheld
  rw [claimNext_fst, Option.map_eq_some_iff] at hclaim
  obtain ⟨found, hnext, rfl⟩ := hclaim
  obtain ⟨hfound, hqueued, _⟩ := of_nextClaimable hnext
  by_contra hrunning
  obtain ⟨row, hrow, hleased, _⟩ := hinv.held _ e hheld (Int.not_lt.mp hrunning)
  obtain rfl := Option.some.inj (hfound.symm.trans hrow)
  rw [hqueued] at hleased
  cases hleased

theorem exclusive_step (s : Fleet) (event : FleetEvent) (hinv : s.Inv) : s.Exclusive event := by
  cases event with
  | tick elapsed => trivial
  | queue caller op hworker =>
    cases op with
    | claimNext workerId => exact exclusive_claimNext hinv
    | _ => trivial
  | scan pass caller posture optOut =>
    apply keepsLive_of_db
    simp only [step]
    split <;> rfl
  | crash pass => exact keepsLive_of_db rfl
  | adopt pass caller token =>
    simp only [Exclusive]
    cases hpending : (s.passes pass).pending with
    | nil => exact keepsLive_of_db (by simp only [step, hpending])
    | cons entry rest =>
      cases hadopted : (s.passes pass).adopted with
      | some _ => exact keepsLive_of_db (by simp only [step, hpending, hadopted])
      | none =>
        by_cases heffective : (s.passes pass).effectiveRequeue entry = true
        · intro runId row row' hrow hlive hrow'
          simp only [step, hpending, hadopted, heffective, if_true] at hrow'
          obtain ⟨old, hold, hsame⟩ := row_of_claimWithAdoptionToken hrow'
          obtain rfl := Option.some.inj (hold.symm.trans hrow)
          have hlive' := hsame.trans hlive
          simp [(QueueRow.live_iff.mp hlive').1]
        · exact keepsLive_of_db
            (by simp only [step, hpending, hadopted, heffective]; rfl)
  | reenqueue pass caller =>
    intro runId row row' hrow hlive hrow'
    simp only [step] at hrow'
    cases hadopted : (s.passes pass).adopted with
    | none =>
      simp only [hadopted] at hrow'
      obtain rfl := Option.some.inj (hrow.symm.trans hrow')
      simp [(QueueRow.live_iff.mp hlive).1]
    | some entry =>
      simp only [hadopted, RunQueue.reenqueue, after_map] at hrow'
      split at hrow'
      · obtain rfl := Option.some.inj (hrow.symm.trans hrow')
        simp [(QueueRow.live_iff.mp hlive).1]
      · rw [row_reenqueueRows, if_neg, hrow] at hrow'
        · obtain rfl := Option.some.inj hrow'
          simp [(QueueRow.live_iff.mp hlive).1]
        · rintro rfl
          rw [hinv.adopted _ row ⟨pass, entry, hadopted, rfl⟩ hrow] at hlive
          cases hlive

/-- In every run whose steps are all ordered, recovery puts no running lease back
into the queue and no run is claimed while an earlier holder still holds it. -/
theorem along_exclusive (start : Int) (events : List FleetEvent)
    (hordered : Along step Ordered (fresh start) events) :
    Along step Exclusive (fresh start) events :=
  along_of_invariant inv_step (fun s event hinv _ => exclusive_step s event hinv)
    (inv_fresh start) hordered

/-! ## Two passes -/

def prodCaller : Caller := { lag := 0, posture := .ok .prod, leaseTimeout := 300 }

def deadWorker : List FleetEvent :=
  [.queue prodCaller (.enqueue "run" 5 "" "tenant" "" "" "") rfl,
    .queue prodCaller (.claimNext "first") rfl,
    .tick 301]

/-- One pass lists the run, adopts it and puts it back, and a worker takes it. -/
def onePass : List FleetEvent :=
  deadWorker ++ [.scan 0 prodCaller .prod false, .adopt 0 prodCaller "token",
      .reenqueue 0 prodCaller,
      .queue prodCaller (.claimNext "second") rfl]

/-- Two passes list the run; the second comes to it after a worker has taken it
from the first. -/
def twoPasses : List FleetEvent :=
  deadWorker ++ [.scan 0 prodCaller .prod false, .scan 1 prodCaller .prod false,
      .adopt 0 prodCaller "token",
      .reenqueue 0 prodCaller,
      .queue prodCaller (.claimNext "second") rfl,
      .adopt 1 prodCaller "other token",
      .reenqueue 1 prodCaller,
      .queue prodCaller (.claimNext "third") rfl]

/-- A single pass over the queue is a run of ordered steps. -/
theorem along_exclusive_onePass : Along step Exclusive (fresh 0) onePass := by
  refine along_exclusive 0 onePass ⟨trivial, ?_, trivial, trivial, ?_, trivial, ?_, trivial⟩
  · rintro row _ ⟨pass, entry, hentry, _⟩
    cases hentry
  · intro entry hentry _ _ row hrow _
    cases hentry
    cases hrow
    rfl
  · rintro row _ ⟨pass, entry, hentry, _⟩
    by_cases hpass : pass = 0
    · subst hpass
      cases hentry
    · change (Function.update (β := fun _ => RecoveryPass) (Function.update
        (Function.update (fun _ => .idle) 0 _) 0 _) 0 _ pass).adopted = some entry at hentry
      rw [Function.update_of_ne hpass, Function.update_of_ne hpass,
        Function.update_of_ne hpass] at hentry
      cases hentry

/-- The second pass puts the run back while the second worker holds it, and a
third worker claims it. -/
theorem not_along_exclusive : ¬ ∀ events, Along step Exclusive (fresh 0) events := by
  intro h
  obtain ⟨_, _, _, _, _, _, _, _, _, hrequeued, _⟩ := h twoPasses
  exact hrequeued "run" _ _ rfl (by decide) rfl rfl

end Fleet

end HiAgent.Server
