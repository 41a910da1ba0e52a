/-
  Server/RunQueue/Fencing.lean --- calls for a claim that is over or for one tenant.

  Every `RunManager` claims under the worker id `"run_manager"`, so the database cannot tell two
  claims of one run apart; the ghost state here numbers them. A call is stale when it is made for
  a claim whose lease has run out and after which the run was claimed again.
-/
import HiAgent.Foundation.Machine
import HiAgent.Server.RunQueue

namespace HiAgent.Server.RunQueue

open Foundation

/-- The worker id of `RunManager`. -/
def runManager : String := "run_manager"

/-- What the thread that executes a claimed run asks of the queue. -/
inductive HolderCall where
  | heartbeat (tenantId : Option String)
  | complete (tenantId : Option String)
  | fail (tenantId : Option String)
  | releaseLease

/-- The method behind a holder's call, under the worker id of `RunManager`. -/
def HolderCall.op (runId : String) : HolderCall → Op
  | .heartbeat tenantId => .heartbeat runId runManager tenantId
  | .complete tenantId => .complete runId runManager tenantId
  | .fail tenantId => .fail runId runManager tenantId
  | .releaseLease => .releaseLease runId runManager

def Op.isClaim : Op → Bool
  | .claimNext _ => true
  | _ => false

/-- A database together with the history of its claims. -/
structure ClaimedQueue where
  db : RunQueue
  /-- How often a run has been claimed. -/
  claims : String → Nat
  /-- The expiry a claim of a run last had while it was the current claim. -/
  leaseEnd : String → Nat → Option Int

/-- A claim, a call on behalf of the claim with the given number, or any other
call. -/
inductive QueueEvent where
  | claim (call : Call)
  | onBehalf (call : Call) (runId : String) (claim : Nat) (what : HolderCall)
  | other (call : Call) (op : Op) (notClaim : op.isClaim = false)

namespace ClaimedQueue

/-- Reads the expiries of the current claims off the leased rows. -/
def observe (s : ClaimedQueue) : ClaimedQueue :=
  { s with
    leaseEnd := fun runId claim =>
      match s.db.row runId with
      | some row =>
        if claim = s.claims runId ∧ row.status = .leased then row.leaseExpiresAt
        else s.leaseEnd runId claim
      | none => s.leaseEnd runId claim }

/-- The database and its history after one event. -/
def step (s : ClaimedQueue) : QueueEvent → ClaimedQueue
  | .claim call =>
    let (claimed, db) := s.db.claimNext call runManager
    match claimed with
    | none => observe { s with db }
    | some claim => observe { s with
        db
        claims := fun runId =>
          s.claims runId + if runId = claim.runId then 1 else 0 }
  | .onBehalf call runId _ what =>
    observe { s with db := s.db.perform (call, what.op runId) }
  | .other call op _ => observe { s with db := s.db.perform (call, op) }

def Stale (s : ClaimedQueue) (now : Int) (runId : String) (claim : Nat) : Prop :=
  claim < s.claims runId ∧ ∃ expiresAt, s.leaseEnd runId claim = some expiresAt ∧ expiresAt < now

def Fenced (s : ClaimedQueue) : QueueEvent → Prop
  | .onBehalf call runId claim what => s.Stale call.now runId claim →
      (s.db.perform (call, what.op runId)).row runId = s.db.row runId
  | _ => True

end ClaimedQueue

/-! ## When a holder's call does nothing -/

/-- The row is under the id of `RunManager` and in the scope of the call. -/
def Exposed (scope : Option String) (row : QueueRow) : Prop :=
  row.workerId = some runManager ∧ covers scope row.tenantId = true

/-- A holder's call finds nothing to write: its scope check raises, or the row is
not under the id of `RunManager` any more or outside the scope. A heartbeat also
asks for a lease that is still running, and repeats what is there when it falls
on the very instant of the last renewal; `release_lease` has no scope and asks
for the status. -/
def Misses (db : RunQueue) (call : Call) (runId : String) : HolderCall → Prop
  | .heartbeat tenantId =>
    ∀ scope, checkTenantScope call.posture tenantId "heartbeat" = .ok scope →
      ∀ row, db.row runId = some row → Exposed scope row →
        row.status = .leased → row.leaseFrom call.now = true →
          row.leaseExpiresAt = some (call.now + call.leaseTimeout) ∧ row.updatedAt = call.now
  | .complete tenantId =>
    ∀ scope, checkTenantScope call.posture tenantId "complete" = .ok scope →
      ∀ row, db.row runId = some row → ¬ Exposed scope row
  | .fail tenantId =>
    ∀ scope, checkTenantScope call.posture tenantId "fail" = .ok scope →
      ∀ row, db.row runId = some row → ¬ Exposed scope row
  | .releaseLease =>
    ∀ row, db.row runId = some row → row.workerId = some runManager → row.status ≠ .leased

variable {f : Assignment QueueRow.runId}

theorem amend_eq_self_iff {p : QueueRow → Bool} {old : Option QueueRow} : amend p f old = old ↔
      ∀ row, old = some row → p row = true → f.set row = row := by
  cases old with
  | none => simp
  | some found =>
    rw [amend_some, Option.some.injEq]
    constructor
    · rintro h row hrow hp
      obtain rfl := Option.some.inj hrow
      rwa [if_pos hp] at h
    · intro h
      split
      · rename_i hp
        exact h found rfl hp
      · rfl

theorem toRenewed_eq_self_iff (now leaseExpiresAt : Int) (row : QueueRow) :
    (QueueRow.toRenewed now leaseExpiresAt).set row = row ↔
      row.leaseExpiresAt = some leaseExpiresAt ∧ row.updatedAt = now := by
  cases row
  simp only [QueueRow.toRenewed, QueueRow.mk.injEq, true_and, and_true]
  exact ⟨fun h => ⟨h.1.symm, h.2.symm⟩, fun h => ⟨h.1.symm, h.2.symm⟩⟩

theorem set_ne_of_workerId {row : QueueRow}
    {workerId : String} (hworker : row.workerId = some workerId)
    (hclear : (f.set row).workerId = none) : f.set row ≠ row := by
  intro h
  rw [h, hworker] at hclear
  cases hclear

theorem amend_held_eq_self_iff {scope : Option String}
    (hclears : ∀ row, (f.set row).workerId = none) {old : Option QueueRow} :
    amend (fun row => row.heldBy runManager && covers scope row.tenantId) f old = old ↔
      ∀ row, old = some row → ¬ Exposed scope row := by
  rw [amend_eq_self_iff]
  constructor
  · intro h row hrow hexposed
    refine set_ne_of_workerId hexposed.1 (hclears row) (h row hrow ?_)
    simp [QueueRow.heldBy, hexposed.1, hexposed.2]
  · intro h row hrow hmine
    simp only [QueueRow.heldBy, Bool.and_eq_true, beq_iff_eq] at hmine
    exact absurd ⟨hmine.1, hmine.2⟩ (h row hrow)

theorem perform_holderCall_row_iff (db : RunQueue) (call : Call) (runId : String)
    (what : HolderCall) : (db.perform (call, what.op runId)).row runId = db.row runId ↔
      Misses db call runId what := by
  cases what with
  | heartbeat tenantId =>
    rw [HolderCall.op, perform, heartbeat, after_map]
    cases hcheck : checkTenantScope call.posture tenantId "heartbeat" with
    | error err => exact iff_of_true rfl fun scope h => by simp [hcheck] at h
    | ok scope =>
      simp only [row_heartbeatRows, if_true, amend_eq_self_iff, toRenewed_eq_self_iff]
      constructor
      · intro h scope' hscope row hrow hexposed hleased hlease
        rw [hcheck] at hscope
        obtain rfl := Except.ok.inj hscope
        apply h row hrow
        simp [QueueRow.heldBy, hexposed.1, hexposed.2, hleased, hlease]
      · intro h row hrow hmine
        simp only [QueueRow.heldBy, Bool.and_eq_true, beq_iff_eq] at hmine
        exact h scope hcheck row hrow ⟨hmine.1.1.1, hmine.2⟩ hmine.1.1.2
          hmine.1.2
  | complete tenantId =>
    rw [HolderCall.op, perform, complete, after_map]
    cases hcheck : checkTenantScope call.posture tenantId "complete" with
    | error err => exact iff_of_true rfl fun scope h => by simp [hcheck] at h
    | ok scope =>
      simp only [id, row_completeRows, if_true, Misses, hcheck, Except.ok.injEq, forall_eq']
      exact amend_held_eq_self_iff fun _ => rfl
  | fail tenantId =>
    rw [HolderCall.op, perform, fail, after_map]
    cases hcheck : checkTenantScope call.posture tenantId "fail" with
    | error err => exact iff_of_true rfl fun scope h => by simp [hcheck] at h
    | ok scope =>
      simp only [id, row_failRows, if_true, Misses, hcheck, Except.ok.injEq, forall_eq']
      exact amend_held_eq_self_iff fun _ => rfl
  | releaseLease =>
    simp only [HolderCall.op, perform, row_releaseLease, if_true, amend_eq_self_iff]
    constructor
    · intro h row hrow hworker hleased
      refine set_ne_of_workerId hworker rfl (h row hrow ?_)
      simp [QueueRow.heldBy, hworker, hleased]
    · intro h row hrow hmine
      simp only [QueueRow.heldBy, Bool.and_eq_true, beq_iff_eq] at hmine
      exact absurd hmine.2 (h row hrow hmine.1)

/-! ## Histories -/

def StaleMisses (s : ClaimedQueue) : QueueEvent → Prop
  | .onBehalf call runId claim what => s.Stale call.now runId claim → Misses s.db call runId what
  | _ => True

/-- The histories in which every stale call is fenced off are those in which
every stale call finds the later claim out of its reach. -/
theorem along_fenced_iff (s : ClaimedQueue) (events : List QueueEvent) :
    Along ClaimedQueue.step ClaimedQueue.Fenced s events ↔
      Along ClaimedQueue.step StaleMisses s events := by
  refine along_congr ?_ s events
  intro s event
  cases event with
  | onBehalf call runId claim what =>
    exact imp_congr_right fun _ =>
      perform_holderCall_row_iff s.db call runId what
  | claim | other => exact Iff.rfl

def ClaimedQueue.fresh : ClaimedQueue :=
  { db := empty, claims := fun _ => 0, leaseEnd := fun _ _ => none }

/-- The lease of the first claim runs out, the run is released and claimed
again, and the thread of the first claim reports its result. -/
def lateCompletion : List QueueEvent :=
  let at_ (now : Int) : Call := { now, posture := .ok .dev, leaseTimeout := 300 }
  [.other (at_ 0) (.enqueue "run" 5 "" "tenant" "" "" "") rfl, .claim (at_ 0),
    .other (at_ 301) .releaseExpiredLeases rfl,
    .claim (at_ 301),
    .onBehalf (at_ 302) "run" 1 (.complete (some "tenant"))]

/-- The late report completes the row of the second claim. -/
theorem not_along_fenced :
    ¬ ∀ events, Along ClaimedQueue.step ClaimedQueue.Fenced .fresh events := by
  intro h
  obtain ⟨_, _, _, _, hlast, _⟩ := h lateCompletion
  have hsame := hlast ⟨by decide, 300, rfl, by decide⟩
  have hstatus := congrArg (Option.map QueueRow.status) hsame
  revert hstatus
  decide

/-- The `tenant_id` argument of the methods that have one. -/
def Op.scopeArg : Op → Option String
  | .heartbeat _ _ tenantId => tenantId
  | .complete _ _ tenantId => tenantId
  | .fail _ _ tenantId => tenantId
  | .cancel _ tenantId => tenantId
  | .reenqueue _ tenantId => tenantId
  | .dequeueUnclaimed _ tenantId => tenantId
  | .deadLetter _ _ _ tenantId => tenantId
  | .requeueFromDlq _ tenantId => tenantId
  | _ => none

/-- Nothing of another tenant changes: its rows and its dead-letter records are
what they were, and none of its runs enters the dead-letter table. -/
structure TenantFrame (tenant : String) (db db' : RunQueue) : Prop where
  rows : ∀ runId row, db.row runId = some row → row.tenantId ≠ tenant → db'.row runId = some row
  records : ∀ runId record, db.record runId = some record →
    record.tenantId ≠ tenant → db'.record runId = some record
  noRecord : ∀ runId row, db.row runId = some row → row.tenantId ≠ tenant →
    db.record runId = none → db'.record runId = none

/-- What keeps the two unfiltered inserts inside the tenant: `dead_letter` finds
a record of the tenant, or no record and no row of another tenant; the last
attempt of `fail` does not find a record of another tenant. -/
def Contained (tenant : String) (db : RunQueue) : Op → Prop
  | .deadLetter runId .. =>
    (∀ record, db.record runId = some record → record.tenantId = tenant) ∧ (db.record runId = none →
        ∀ row, db.row runId = some row → row.tenantId = tenant)
  | .fail runId workerId _ =>
    ∀ row record, db.row runId = some row → row.heldBy workerId = true →
      row.tenantId = tenant → row.attemptCount + 1 ≥ row.maxAttempts →
        db.record runId = some record → record.tenantId = tenant
  | _ => True

/-! ## Filtered statements -/

theorem tenantFrame_of_amend {tenant runId : String} {db db' : RunQueue}
    {p : QueueRow → Bool} (hrow : ∀ k, db'.row k =
      if k = runId then amend p f (db.row runId) else db.row k)
    (hrecord : ∀ k, db'.record k = db.record k) (hp : ∀ row, p row = true → row.tenantId = tenant) :
    TenantFrame tenant db db' where
  rows k row hfound hother := by
    rw [hrow]
    split
    · rename_i hk
      subst k
      have hmiss : ¬ p row = true := fun h => hother (hp row h)
      rw [hfound, amend_some, if_neg hmiss]
    · exact hfound
  records k record hfound _ := by rw [hrecord, hfound]
  noRecord k row _ _ hnone := by rw [hrecord, hnone]

theorem tenantFrame_dequeueUnclaimedRows (db : RunQueue) (tenant runId : String) :
    TenantFrame tenant db (db.dequeueUnclaimedRows (some tenant) runId) where
  rows k row hfound hother := by
    rw [row_dequeueUnclaimedRows]
    split
    · rename_i hk
      subst k
      simp [hfound, Option.filter, hother]
    · exact hfound
  records k record hfound _ := by rw [record_dequeueUnclaimedRows, hfound]
  noRecord k row _ _ hnone := by rw [record_dequeueUnclaimedRows, hnone]

theorem tenantFrame_requeueFromDlqRows (db : RunQueue) (call : Call) (tenant runId : String) :
    TenantFrame tenant db (db.requeueFromDlqRows call (some tenant) runId).2 where
  rows k row hfound hother := by
    rw [row_requeueFromDlqRows]
    split
    · rename_i hk
      obtain ⟨rfl, _⟩ := hk
      simp [hfound, hother]
    · exact hfound
  records k record hfound hother := by
    rw [record_requeueFromDlqRows]
    split
    · rename_i hk
      subst k
      simp [hfound, Option.filter, hother]
    · exact hfound
  noRecord k row _ _ hnone := by
    rw [record_requeueFromDlqRows]
    split
    · rename_i hk
      subst k
      rw [hnone, Option.filter_none]
    · exact hnone

/-! ## The two inserts -/

theorem tenantFrame_deadLetterRows_iff (db : RunQueue) (call : Call)
    (tenant runId reason originalState : String) (tenantId : Option String) : TenantFrame tenant db
        (db.deadLetterRows call (some tenant) runId reason originalState) ↔
      Contained tenant db (.deadLetter runId reason originalState tenantId) := by
  have hwritten := record_deadLetterRows db call (some tenant) runId runId reason
    originalState
  rw [if_pos rfl] at hwritten
  constructor
  · intro hframe
    constructor
    · intro record hfound
      by_contra hother
      have hkept := hframe.records runId record hfound hother
      rw [hwritten] at hkept
      exact hother (Option.some.inj hkept ▸ rfl)
    · intro hnone row hfound
      by_contra hother
      have hkept := hframe.noRecord runId row hfound hother hnone
      rw [hwritten] at hkept
      cases hkept
  · rintro ⟨hrecords, hrows⟩
    refine ⟨?_, ?_, ?_⟩
    · intro k row hfound hother
      rw [row_deadLetterRows]
      split
      · rename_i hk
        subst k
        simp [hfound, hother]
      · exact hfound
    · intro k record hfound hother
      rw [record_deadLetterRows, if_neg, hfound]
      rintro rfl
      exact hother (hrecords record hfound)
    · intro k row hfound hother hnone
      rw [record_deadLetterRows, if_neg, hnone]
      rintro rfl
      exact hother (hrows hnone row hfound)

theorem tenantFrame_failRows_iff (db : RunQueue) (call : Call)
    (tenant runId workerId : String) (tenantId : Option String) :
    TenantFrame tenant db (db.failRows call (some tenant) runId workerId) ↔
      Contained tenant db (.fail runId workerId tenantId) := by
  have hrecords := record_failRows db call (some tenant) runId workerId
  constructor
  · intro hframe row record hfound hheld htenant hlast hrecord
    by_contra hother
    have hkept := hframe.records runId record hrecord hother
    have hmine : (row.heldBy workerId && covers (some tenant) row.tenantId) = true := by
      simp [hheld, htenant]
    rw [hrecords, hfound, Option.filter_some, if_pos hmine] at hkept
    simp only [hlast, and_self, if_true] at hkept
    exact hother (Option.some.inj hkept ▸ htenant)
  · intro hcontained
    refine ⟨?_, ?_, ?_⟩
    · intro k row hfound hother
      rw [row_failRows]
      split
      · rename_i hk
        subst k
        simp [hfound, hother]
      · exact hfound
    · intro k record hfound hother
      rw [hrecords]
      split
      · exact hfound
      · rename_i row hmine
        obtain ⟨hrow, hheld⟩ := Option.filter_eq_some_iff.mp hmine
        simp only [covers_some, Bool.and_eq_true, beq_iff_eq] at hheld
        rw [if_neg, hfound]
        rintro ⟨rfl, hlast⟩
        exact hother (hcontained row record hrow hheld.1 hheld.2 hlast hfound)
    · intro k row hfound hother hnone
      rw [hrecords]
      split
      · exact hnone
      · rename_i own hmine
        obtain ⟨hrow, hheld⟩ := Option.filter_eq_some_iff.mp hmine
        simp only [covers_some, Bool.and_eq_true, beq_iff_eq] at hheld
        rw [if_neg, hnone]
        rintro ⟨rfl, _⟩
        rw [hfound] at hrow
        obtain rfl := Option.some.inj hrow
        exact hother hheld.2

/-! ## Scoped calls -/

/-- A call scoped to a tenant leaves everything of the other tenants as it was
exactly when its insert, if it makes one, is contained in the tenant. -/
theorem tenantFrame_perform_iff (db : RunQueue) (call : Call) (op : Op)
    (tenantId : String) (hscope : op.scopeArg = some tenantId) (hne : Text.strip tenantId ≠ "") :
    TenantFrame (Text.strip tenantId) db (db.perform (call, op)) ↔
      Contained (Text.strip tenantId) db op := by
  have hcheck := checkTenantScope_of_ne hne call.posture
  cases op with
  | heartbeat runId workerId scopeArg =>
    cases hscope
    rw [perform, heartbeat, after_map, hcheck]
    refine iff_of_true (tenantFrame_of_amend (row_heartbeatRows db call _ runId workerId)
      (record_heartbeatRows db call _ runId workerId) ?_) trivial
    intro row hmine
    simp only [covers_some, Bool.and_eq_true, beq_iff_eq] at hmine
    exact hmine.2
  | complete runId workerId scopeArg =>
    cases hscope
    rw [perform, complete, after_map, hcheck]
    refine iff_of_true (tenantFrame_of_amend (row_completeRows db call _ runId workerId)
      (record_completeRows db call _ runId workerId) ?_) trivial
    intro row hmine
    simp only [covers_some, Bool.and_eq_true, beq_iff_eq] at hmine
    exact hmine.2
  | cancel runId scopeArg =>
    cases hscope
    rw [perform, cancel, after_map, hcheck]
    exact iff_of_true (tenantFrame_of_amend (row_cancelRows db call _ runId)
      (record_cancelRows db call _ runId) fun row hmine => by simpa using hmine)
      trivial
  | reenqueue runId scopeArg =>
    cases hscope
    rw [perform, reenqueue, after_map, hcheck]
    exact iff_of_true (tenantFrame_of_amend (row_reenqueueRows db call _ runId)
      (record_reenqueueRows db call _ runId)
      fun row hmine => by simpa using hmine) trivial
  | dequeueUnclaimed runId scopeArg =>
    cases hscope
    rw [perform, dequeueUnclaimed, after_map, hcheck]
    exact iff_of_true (tenantFrame_dequeueUnclaimedRows db _ runId) trivial
  | requeueFromDlq runId scopeArg =>
    cases hscope
    rw [perform, requeueFromDlq, after_map, hcheck]
    exact iff_of_true (tenantFrame_requeueFromDlqRows db call _ runId) trivial
  | deadLetter runId reason originalState scopeArg =>
    cases hscope
    rw [perform, deadLetter, after_map, hcheck]
    exact tenantFrame_deadLetterRows_iff db call _ runId reason originalState _
  | fail runId workerId scopeArg =>
    cases hscope
    rw [perform, fail, after_map, hcheck]
    exact tenantFrame_failRows_iff db call _ runId workerId _
  | _ => cases hscope

/-- Runs of two tenants, one of them dead-lettered. -/
def twoTenants : RunQueue :=
  let call := { now := 0, posture := .ok .prod, leaseTimeout := 300 }
  exec perform empty
    [(call, .enqueue "run" 5 "" "victim" "" "" ""), (call, .enqueue "job" 5 "" "rival" "" "" ""),
      (call, .enqueue "other" 1 "" "rival" "" "" ""), (call, .claimNext "worker"),
      (call, .deadLetter "job" "poison" "queued" (some "rival"))]

/-- The case of a run that belongs to the tenant. -/
theorem tenantFrame_twoTenants : TenantFrame "victim" twoTenants
      (twoTenants.perform ({ now := 1, posture := .ok .prod, leaseTimeout := 300 },
        .deadLetter "run" "poison" "queued" (some " victim"))) := by
  refine (tenantFrame_perform_iff twoTenants _ _ " victim" rfl (by decide)).mpr ?_
  refine ⟨?_, ?_⟩
  · intro record hfound
    cases hfound
  · intro _ row hfound
    cases hfound
    rfl

/-- Another tenant dead-letters the run: a record appears for it. -/
theorem not_tenantFrame_deadLetter :
    ¬ ∀ (events : List (Call × Op)) (call : Call) (op : Op) (tenantId : String),
      op.scopeArg = some tenantId → Text.strip tenantId ≠ "" →
        TenantFrame (Text.strip tenantId) (exec perform empty events)
          ((exec perform empty events).perform (call, op)) := by
  intro h
  have hframe := h
    [({ now := 0, posture := .ok .prod, leaseTimeout := 300 },
      .enqueue "run" 5 "" "victim" "" "" "")]
    { now := 1, posture := .ok .prod, leaseTimeout := 300 }
    (.deadLetter "run" "poison" "queued" (some "intruder")) "intruder" rfl
    (by decide)
  have hnone := hframe.noRecord "run" _ rfl (by decide) rfl
  cases hnone

end HiAgent.Server.RunQueue
