/-
  Server/RunQueue/RowInvariant.lean --- what the two tables say about one run.

  A row names a worker and an expiry while it is leased and at no other time, and
  a run that is in both tables is a failed one. `Sound` is what the arguments of
  `dead_letter`, `reenqueue` and `enqueue` must satisfy for that.
-/
import HiAgent.Foundation.Machine
import HiAgent.Server.RunQueue

namespace HiAgent.Server.RunQueue

open Foundation

/-! ## The invariant -/

/-- The columns of a row and the presence of a record fit together. -/
structure Consistent (row : QueueRow) (record : Option DeadLetter) : Prop where
  worker : row.workerId.isSome ↔ row.status = .leased
  lease : row.leaseExpiresAt.isSome ↔ row.status = .leased
  deadLetter : record.isSome → row.status = .failed

def AllConsistent (db : RunQueue) : Prop :=
  ∀ runId row, db.row runId = some row → Consistent row (db.record runId)

/-- The row invariant: worker and expiry are both set exactly in leased rows, and
a run in both tables has a record exactly when it is failed. -/
structure RowInvariant (db : RunQueue) : Prop where
  lease : ∀ runId row, db.row runId = some row →
    ((row.workerId.isSome ∧ row.leaseExpiresAt.isSome) ↔ row.status = .leased)
  deadLetter : ∀ runId row record, db.row runId = some row →
    db.record runId = some record → row.status = .failed

/-- The invariant read strictly: a row that is not leased has neither column, and
every failed row has its record. -/
structure StrictRowInvariant (db : RunQueue) : Prop where
  consistent : AllConsistent db
  recorded : ∀ runId row, db.row runId = some row → row.status = .failed → (db.record runId).isSome

theorem AllConsistent.rowInvariant {db : RunQueue} (h : AllConsistent db) : RowInvariant db where
  lease runId row hrow := by
    have hrowOk := h runId row hrow
    rw [hrowOk.worker, hrowOk.lease, and_self]
  deadLetter runId row record hrow hrecord :=
    (h runId row hrow).deadLetter (by rw [hrecord]; rfl)

theorem allConsistent_empty : AllConsistent empty := by
  intro runId row hrow
  simp at hrow

/-! ## What a call must satisfy -/

/-- The condition on a call of one of the three methods: `enqueue` is not for a
run that only has a dead-letter record, `reenqueue` is not for a dead-lettered
run, and `dead_letter` finds a row in its scope that is not leased, or one
outside its scope that has failed already. -/
def Sound (db : RunQueue) : Call × Op → Prop
  | (_, .enqueue runId ..) => db.row runId = none → db.record runId = none
  | (call, .reenqueue runId tenantId) =>
    ∀ scope, checkTenantScope call.posture tenantId "reenqueue" = .ok scope →
      ∀ row, db.row runId = some row → covers scope row.tenantId = true → db.record runId = none
  | (call, .deadLetter runId _ _ tenantId) =>
    ∀ scope, checkTenantScope call.posture tenantId "dead_letter" = .ok scope →
      ∀ row, db.row runId = some row → if covers scope row.tenantId then row.status ≠ .leased
        else row.status = .failed
  | _ => True

/-- The condition that keeps failed rows recorded: `requeue_from_dlq` does not
drop the record of a row it cannot reach. -/
def Reaches (db : RunQueue) : Call × Op → Prop
  | (call, .requeueFromDlq runId tenantId) =>
    ∀ scope, checkTenantScope call.posture tenantId "requeue_from_dlq" = .ok scope →
      ∀ row record, db.row runId = some row → db.record runId = some record →
        covers scope record.tenantId = true → covers scope row.tenantId = true
  | _ => True

/-! ## Sound calls keep the rows consistent -/

variable {runId : String}

theorem allConsistent_of_amend {db db' : RunQueue}
    {p : QueueRow → Bool} {f : Assignment QueueRow.runId} (hinv : AllConsistent db)
    (hrow : ∀ k, db'.row k = if k = runId then amend p f (db.row runId) else db.row k)
    (hrecord : ∀ k, db'.record k = db.record k)
    (hset : ∀ row, db.row runId = some row → p row = true → Consistent row (db.record runId) →
        Consistent (f.set row) (db.record runId)) : AllConsistent db' := by
  intro k row' hrow'
  rw [hrow] at hrow'
  rw [hrecord]
  split at hrow'
  · rename_i hk
    subst k
    exact of_amend_eq_some hrow' (hinv runId)
      fun row hfound hp => hset row hfound hp (hinv runId row hfound)
  · exact hinv k row' hrow'

variable {record : Option DeadLetter}

theorem consistent_toQueued (row : QueueRow) (now : Int) (hrecord : record = none) :
    Consistent ((QueueRow.toQueued now).set row) record where
  worker := by simp [QueueRow.toQueued]
  lease := by simp [QueueRow.toQueued]
  deadLetter := by simp [hrecord]

theorem Consistent.record_eq_none {row : QueueRow}
    (h : Consistent row record) (hstatus : row.status ≠ .failed) : record = none := by
  cases record with
  | none => rfl
  | some found => exact absurd (h.deadLetter rfl) hstatus

theorem Consistent.leased_of_heldBy {row : QueueRow} {workerId : String} (h : Consistent row record)
    (hheld : row.heldBy workerId = true) : row.status = .leased := by
  rw [← h.worker]
  simp only [QueueRow.heldBy, beq_iff_eq] at hheld
  rw [hheld]
  rfl

section Keeps

variable {db : RunQueue} {call : Call} {scope : Option String} {runId workerId : String}

section

variable (hinv : AllConsistent db)
include hinv

theorem allConsistent_enqueue {priority : Int}
    {payloadJson tenantId userId sessionId projectId : String}
    (hsound : db.row runId = none → db.record runId = none) :
    AllConsistent (db.enqueue call runId priority payloadJson tenantId userId
      sessionId projectId) := by
  intro k row hrow
  rw [row_enqueue] at hrow
  rw [record_enqueue]
  split at hrow
  · rename_i hk
    subst k
    cases hold : db.row runId with
    | none =>
      rw [hold] at hrow
      obtain rfl := Option.some.inj hrow
      exact ⟨by simp, by simp, by simp [hsound hold]⟩
    | some found =>
      rw [hold] at hrow
      obtain rfl := Option.some.inj hrow
      exact hinv runId found hold
  · exact hinv k row hrow

theorem allConsistent_reenqueueRows (hsound : ∀ row, db.row runId = some row →
      covers scope row.tenantId = true → db.record runId = none) :
    AllConsistent (db.reenqueueRows call scope runId).2 := by
  refine allConsistent_of_amend hinv (row_reenqueueRows db call scope runId)
    (record_reenqueueRows db call scope runId) ?_
  intro row hfound hcovers _
  obtain ⟨hworker, hlease, hrecord⟩ :=
    consistent_toQueued row call.now (hsound row hfound hcovers)
  exact ⟨hworker, hlease, hrecord⟩

theorem allConsistent_claimNext : AllConsistent (db.claimNext call workerId).2 := by
  intro k row hrow
  rw [row_claimNext] at hrow
  rw [record_claimNext]
  cases hnext : db.nextClaimable with
  | none =>
    rw [hnext] at hrow
    exact hinv k row hrow
  | some found =>
    rw [hnext] at hrow
    obtain ⟨hfound, hqueued, _⟩ := of_nextClaimable hnext
    have hnone : db.record found.runId = none :=
      (hinv _ _ hfound).record_eq_none (by simp [hqueued])
    simp only at hrow
    split at hrow
    · rename_i hk
      subst k
      obtain rfl := Option.some.inj hrow
      exact ⟨by simp [QueueRow.toLeased], by simp [QueueRow.toLeased], by simp [hnone]⟩
    · exact hinv k row hrow

theorem allConsistent_heartbeatRows :
    AllConsistent (db.heartbeatRows call scope runId workerId).2 := by
  refine allConsistent_of_amend hinv (row_heartbeatRows db call scope runId workerId)
    (record_heartbeatRows db call scope runId workerId) ?_
  intro row _ hmine hrowOk
  have hleased : row.status = .leased := by
    simp only [Bool.and_eq_true, beq_iff_eq] at hmine
    exact hmine.1.1.2
  exact ⟨hrowOk.worker, by simp [QueueRow.toRenewed, hleased], hrowOk.deadLetter⟩

theorem allConsistent_releaseLease : AllConsistent (db.releaseLease call runId workerId).2 := by
  refine allConsistent_of_amend hinv (row_releaseLease db call runId workerId)
    (record_releaseLease db call runId workerId) ?_
  intro row _ hmine hrowOk
  have hleased : row.status = .leased := by
    simp only [Bool.and_eq_true, beq_iff_eq] at hmine
    exact hmine.2
  exact consistent_toQueued _ call.now (hrowOk.record_eq_none (by simp [hleased]))

theorem allConsistent_completeRows : AllConsistent (db.completeRows call scope runId workerId) := by
  refine allConsistent_of_amend hinv (row_completeRows db call scope runId workerId)
    (record_completeRows db call scope runId workerId) ?_
  intro row _ hmine hrowOk
  have hleased := hrowOk.leased_of_heldBy (Bool.and_eq_true_iff.mp hmine).1
  have hnone := hrowOk.record_eq_none (by simp [hleased])
  exact ⟨by simp [QueueRow.toCompleted], by simp [QueueRow.toCompleted], by simp [hnone]⟩

theorem allConsistent_failRows : AllConsistent (db.failRows call scope runId workerId) := by
  intro k row hrow
  rw [row_failRows] at hrow
  rw [record_failRows]
  by_cases hk : k = runId
  · subst k
    rw [if_pos rfl] at hrow
    cases hold : db.row runId with
    | none =>
      rw [hold] at hrow
      simp at hrow
    | some found =>
      have hfoundOk := hinv runId found hold
      rw [hold, amend_some] at hrow
      obtain rfl := Option.some.inj hrow
      cases hmine : found.heldBy workerId && covers scope found.tenantId with
      | false =>
        simp only [Option.filter_some, hmine, Bool.false_eq_true, if_false]
        exact hfoundOk
      | true =>
        have hleased :=
          hfoundOk.leased_of_heldBy (Bool.and_eq_true_iff.mp hmine).1
        have hnone := hfoundOk.record_eq_none (by simp [hleased])
        by_cases hlast : found.attemptCount + 1 ≥ found.maxAttempts
        · simp only [Option.filter_some, hmine, if_true, hlast, and_self]
          exact ⟨by simp [QueueRow.toAttempted, hlast], by simp [QueueRow.toAttempted, hlast],
            by simp [QueueRow.toAttempted, hlast]⟩
        · simp only [Option.filter_some, hmine, if_true, hlast, and_false, if_false]
          exact ⟨by simp [QueueRow.toAttempted, hlast],
            by simp [QueueRow.toAttempted, hlast], by simp [hnone]⟩
  · rw [if_neg hk] at hrow
    have hrowOk := hinv k row hrow
    split
    · exact hrowOk
    · rw [if_neg (fun h => hk h.1)]
      exact hrowOk

theorem allConsistent_cancelRows : AllConsistent (db.cancelRows call scope runId) := by
  refine allConsistent_of_amend hinv (row_cancelRows db call scope runId)
    (record_cancelRows db call scope runId) ?_
  intro row _ _ hrowOk
  exact ⟨hrowOk.worker, hrowOk.lease, hrowOk.deadLetter⟩

theorem allConsistent_releaseExpiredLeases : AllConsistent (db.releaseExpiredLeases call).2 := by
  intro k row hrow
  rw [row_releaseExpiredLeases] at hrow
  rw [record_releaseExpiredLeases]
  refine of_amend_eq_some hrow (hinv k) ?_
  intro found hfound hexpired
  have hleased : found.status = .leased := by
    simp only [expired, Bool.and_eq_true, beq_iff_eq] at hexpired
    exact hexpired.1
  exact consistent_toQueued _ call.now ((hinv k found hfound).record_eq_none (by simp [hleased]))

theorem allConsistent_dequeueUnclaimedRows :
    AllConsistent (db.dequeueUnclaimedRows scope runId) := by
  intro k row hrow
  rw [row_dequeueUnclaimedRows] at hrow
  rw [record_dequeueUnclaimedRows]
  split at hrow
  · rename_i hk
    subst k
    exact hinv runId row (Option.filter_eq_some_iff.mp hrow).1
  · exact hinv k row hrow

theorem allConsistent_deadLetterRows {reason originalState : String}
    (hsound : ∀ row, db.row runId = some row →
      if covers scope row.tenantId then row.status ≠ .leased else row.status = .failed) :
    AllConsistent (db.deadLetterRows call scope runId reason originalState) := by
  intro k row hrow
  rw [row_deadLetterRows] at hrow
  rw [record_deadLetterRows]
  by_cases hk : k = runId
  · subst k
    rw [if_pos rfl] at hrow
    rw [if_pos rfl]
    cases hold : db.row runId with
    | none =>
      rw [hold] at hrow
      simp at hrow
    | some found =>
      have hfoundOk := hinv runId found hold
      have hfound := hsound found hold
      rw [hold, amend_some] at hrow
      obtain rfl := Option.some.inj hrow
      split
      · rename_i hcovers
        rw [if_pos hcovers] at hfound
        have hworker := mt hfoundOk.worker.mp hfound
        have hlease := mt hfoundOk.lease.mp hfound
        exact ⟨by simpa [QueueRow.toFailed] using hworker,
          by simpa [QueueRow.toFailed] using hlease, fun _ => rfl⟩
      · rename_i hcovers
        rw [if_neg hcovers] at hfound
        exact ⟨hfoundOk.worker, hfoundOk.lease, fun _ => hfound⟩
  · rw [if_neg hk] at hrow
    rw [if_neg hk]
    exact hinv k row hrow

theorem allConsistent_requeueFromDlqRows :
    AllConsistent (db.requeueFromDlqRows call scope runId).2 := by
  intro k row hrow
  rw [row_requeueFromDlqRows] at hrow
  rw [record_requeueFromDlqRows]
  by_cases hk : k = runId
  · subst k
    rw [if_pos rfl]
    split at hrow
    · rename_i hfound
      have hnone : (db.record runId).filter
          (fun record => !covers scope record.tenantId) = none := by
        cases hrecord : db.record runId with
        | none => rfl
        | some record =>
          rw [hrecord, Option.any_some] at hfound
          simp [Option.filter, hfound.2]
      rw [hnone]
      refine of_amend_eq_some (P := fun row => Consistent row none) hrow ?_
        fun found _ _ => consistent_toQueued _ call.now rfl
      intro found hfound
      have hfoundOk := hinv runId found hfound
      exact ⟨hfoundOk.worker, hfoundOk.lease, by simp⟩
    · have hrowOk := hinv runId row hrow
      refine ⟨hrowOk.worker, hrowOk.lease, ?_⟩
      intro hsome
      apply hrowOk.deadLetter
      cases hrecord : db.record runId with
      | none => simp [hrecord] at hsome
      | some record => rfl
  · rw [if_neg (fun h => hk h.1)] at hrow
    rw [if_neg hk]
    exact hinv k row hrow

end

end Keeps

variable {db : RunQueue} {scope : Option String} {call : Call} {event : Call × Op}

theorem allConsistent_perform
    (hinv : AllConsistent db) (hsound : Sound db event) : AllConsistent (db.perform event) := by
  obtain ⟨call, op⟩ := event
  cases op with
  | enqueue => exact allConsistent_enqueue hinv hsound
  | claimNext => exact allConsistent_claimNext hinv
  | releaseLease => exact allConsistent_releaseLease hinv
  | releaseExpiredLeases => exact allConsistent_releaseExpiredLeases hinv
  | heartbeat =>
    rw [perform]
    exact invariant_after hinv fun _ _ => allConsistent_heartbeatRows hinv
  | complete =>
    rw [perform]
    exact invariant_after hinv fun _ _ => allConsistent_completeRows hinv
  | fail =>
    rw [perform]
    exact invariant_after hinv fun _ _ => allConsistent_failRows hinv
  | cancel =>
    rw [perform]
    exact invariant_after hinv fun _ _ => allConsistent_cancelRows hinv
  | reenqueue =>
    rw [perform]
    exact invariant_after hinv fun scope hscope =>
      allConsistent_reenqueueRows hinv (hsound scope hscope)
  | dequeueUnclaimed =>
    rw [perform]
    exact invariant_after hinv fun _ _ => allConsistent_dequeueUnclaimedRows hinv
  | deadLetter =>
    rw [perform]
    exact invariant_after hinv fun scope hscope =>
      allConsistent_deadLetterRows hinv (hsound scope hscope)
  | requeueFromDlq =>
    rw [perform]
    exact invariant_after hinv fun _ _ => allConsistent_requeueFromDlqRows hinv

/-! ## Calls that are not sound break the invariant -/

theorem sound_of_rowInvariant
    (hinv : AllConsistent db) (hafter : RowInvariant (db.perform event)) : Sound db event := by
  obtain ⟨call, op⟩ := event
  cases op with
  | enqueue runId priority payloadJson tenantId userId sessionId projectId =>
    intro hnone
    cases hrecord : db.record runId with
    | none => rfl
    | some record =>
      have hrow := row_enqueue db call runId runId priority payloadJson
        tenantId userId sessionId projectId
      rw [if_pos rfl, hnone] at hrow
      cases hafter.deadLetter runId _ record hrow hrecord
  | reenqueue runId tenantId =>
    intro scope hscope row hfound hcovers
    rw [perform, reenqueue, after_map, hscope] at hafter
    cases hrecord : db.record runId with
    | none => rfl
    | some record =>
      have hrow := row_reenqueueRows db call scope runId runId
      rw [if_pos rfl, hfound, amend_some, if_pos hcovers] at hrow
      cases hafter.deadLetter runId _ record hrow hrecord
  | deadLetter runId reason originalState tenantId =>
    intro scope hscope row hfound
    rw [perform, deadLetter, after_map, hscope] at hafter
    have hrow := row_deadLetterRows db call scope runId runId reason originalState
    have hrecord :=
      record_deadLetterRows db call scope runId runId reason originalState
    rw [if_pos rfl, hfound, amend_some] at hrow
    rw [if_pos rfl] at hrecord
    split
    · rename_i hcovers
      rw [if_pos hcovers] at hrow
      -- the columns survive the change of status
      intro hleased
      have hold := hinv runId row hfound
      cases (hafter.lease runId _ hrow).mp
        ⟨hold.worker.mpr hleased, hold.lease.mpr hleased⟩
    · rename_i hcovers
      rw [if_neg hcovers] at hrow
      exact hafter.deadLetter runId row _ hrow hrecord
  | _ => trivial

/-! ## Failed rows and their records -/

def AllRecorded (db : RunQueue) : Prop :=
  ∀ runId row, db.row runId = some row → row.status = .failed → (db.record runId).isSome

theorem allRecorded_empty : AllRecorded empty := by
  intro runId row hrow
  simp at hrow

theorem allRecorded_of_amend {db db' : RunQueue}
    {p : QueueRow → Bool} {f : Assignment QueueRow.runId} (hinv : AllRecorded db)
    (hrow : ∀ k, db'.row k = if k = runId then amend p f (db.row runId) else db.row k)
    (hrecord : ∀ k, db'.record k = db.record k)
    (hset : ∀ row, p row = true → (f.set row).status = .failed →
      row.status = .failed) : AllRecorded db' := by
  intro k row' hrow'
  rw [hrow] at hrow'
  rw [hrecord]
  split at hrow'
  · rename_i hk
    subst k
    exact of_amend_eq_some (P := fun row => row.status = .failed → (db.record runId).isSome) hrow'
      (hinv runId)
      fun row hfound hp hfailed => hinv runId row hfound (hset row hp hfailed)
  · exact hinv k row' hrow'

theorem allRecorded_failRows {runId workerId : String} (hinv : AllRecorded db) :
    AllRecorded (db.failRows call scope runId workerId) := by
  intro k row hrow hfailed
  rw [row_failRows] at hrow
  rw [record_failRows]
  by_cases hk : k = runId
  · subst k
    rw [if_pos rfl] at hrow
    cases hold : db.row runId with
    | none =>
      rw [hold] at hrow
      simp at hrow
    | some found =>
      rw [hold, amend_some] at hrow
      obtain rfl := Option.some.inj hrow
      cases hmine : found.heldBy workerId && covers scope found.tenantId with
      | false =>
        simp only [hmine, Bool.false_eq_true, if_false] at hfailed
        simp only [Option.filter_some, hmine, Bool.false_eq_true, if_false]
        exact hinv runId found hold hfailed
      | true =>
        simp only [hmine, if_true] at hfailed
        have hlast : found.attemptCount + 1 ≥ found.maxAttempts := by
          by_contra hmore
          simp [QueueRow.toAttempted, hmore] at hfailed
        simp only [Option.filter_some, hmine, if_true, hlast, and_self, Option.isSome_some]
  · rw [if_neg hk] at hrow
    have hnoted := hinv k row hrow hfailed
    split
    · exact hnoted
    · rw [if_neg (fun h => hk h.1)]
      exact hnoted

theorem allRecorded_deadLetterRows {runId reason originalState : String} (hinv : AllRecorded db) :
    AllRecorded (db.deadLetterRows call scope runId reason originalState) := by
  intro k row hrow hfailed
  rw [row_deadLetterRows] at hrow
  rw [record_deadLetterRows]
  split
  · rfl
  · rename_i hk
    rw [if_neg hk] at hrow
    exact hinv k row hrow hfailed

theorem allRecorded_claimNext {workerId : String}
    (hinv : AllRecorded db) : AllRecorded (db.claimNext call workerId).2 := by
  intro k row hrow hfailed
  rw [row_claimNext] at hrow
  rw [record_claimNext]
  cases hnext : db.nextClaimable with
  | none =>
    rw [hnext] at hrow
    exact hinv k row hrow hfailed
  | some found =>
    rw [hnext] at hrow
    simp only at hrow
    split at hrow
    · obtain rfl := Option.some.inj hrow
      cases hfailed
    · exact hinv k row hrow hfailed

theorem allRecorded_requeueFromDlqRows (hinv : AllRecorded db)
    (hreaches : ∀ row record, db.row runId = some row →
      db.record runId = some record → covers scope record.tenantId = true →
        covers scope row.tenantId = true) :
    AllRecorded (db.requeueFromDlqRows call scope runId).2 := by
  intro k row hrow hfailed
  rw [row_requeueFromDlqRows] at hrow
  rw [record_requeueFromDlqRows]
  by_cases hk : k = runId
  · subst k
    rw [if_pos rfl]
    cases hrecord : db.record runId with
    | none =>
      simp only [hrecord, Option.any_none, Bool.false_eq_true, and_false, if_false] at hrow
      have hsome := hinv runId row hrow hfailed
      simp [hrecord] at hsome
    | some record =>
      rw [hrecord, Option.any_some] at hrow
      cases hcovers : covers scope record.tenantId with
      | false => simp [Option.filter, hcovers]
      | true =>
        rw [if_pos ⟨rfl, hcovers⟩] at hrow
        cases hold : db.row runId with
        | none =>
          rw [hold] at hrow
          simp at hrow
        | some found =>
          have hfound := hreaches found record hold hrecord hcovers
          rw [hold, amend_some, if_pos hfound] at hrow
          obtain rfl := Option.some.inj hrow
          cases hfailed
  · rw [if_neg (fun h => hk h.1)] at hrow
    rw [if_neg hk]
    exact hinv k row hrow hfailed

theorem allRecorded_enqueue
    {priority : Int} {payloadJson tenantId userId sessionId projectId : String}
    (hinv : AllRecorded db) :
    AllRecorded (db.enqueue call runId priority payloadJson tenantId userId sessionId
      projectId) := by
  intro k row hrow hfailed
  rw [row_enqueue] at hrow
  rw [record_enqueue]
  split at hrow
  · rename_i hk
    subst k
    cases hold : db.row runId with
    | none =>
      rw [hold] at hrow
      obtain rfl := Option.some.inj hrow
      cases hfailed
    | some found =>
      rw [hold] at hrow
      obtain rfl := Option.some.inj hrow
      exact hinv runId found hold hfailed
  · exact hinv k row hrow hfailed

theorem allRecorded_releaseExpiredLeases
    (hinv : AllRecorded db) : AllRecorded (db.releaseExpiredLeases call).2 := by
  intro k row hrow
  rw [row_releaseExpiredLeases] at hrow
  rw [record_releaseExpiredLeases]
  refine of_amend_eq_some
    (P := fun row => row.status = .failed → (db.record k).isSome) hrow (hinv k) ?_
  intro found _ _ hfailed
  cases hfailed

theorem allRecorded_dequeueUnclaimedRows (hinv : AllRecorded db) :
    AllRecorded (db.dequeueUnclaimedRows scope runId) := by
  intro k row hrow
  rw [row_dequeueUnclaimedRows] at hrow
  rw [record_dequeueUnclaimedRows]
  split at hrow
  · rename_i hk
    subst k
    exact hinv runId row (Option.filter_eq_some_iff.mp hrow).1
  · exact hinv k row hrow

theorem allRecorded_perform
    (hinv : AllRecorded db) (hreaches : Reaches db event) : AllRecorded (db.perform event) := by
  obtain ⟨call, op⟩ := event
  cases op with
  | enqueue => exact allRecorded_enqueue hinv
  | claimNext => exact allRecorded_claimNext hinv
  | releaseLease runId workerId =>
    refine allRecorded_of_amend hinv (row_releaseLease db call runId workerId)
      (record_releaseLease db call runId workerId) ?_
    intro row _ hfailed
    cases hfailed
  | releaseExpiredLeases => exact allRecorded_releaseExpiredLeases hinv
  | heartbeat runId workerId =>
    rw [perform]
    refine invariant_after hinv fun scope _ => ?_
    exact allRecorded_of_amend hinv (row_heartbeatRows db call scope runId workerId)
      (record_heartbeatRows db call scope runId workerId)
      fun row _ hfailed => hfailed
  | complete runId workerId =>
    rw [perform]
    refine invariant_after hinv fun scope _ => ?_
    refine allRecorded_of_amend hinv (row_completeRows db call scope runId workerId)
      (record_completeRows db call scope runId workerId) ?_
    intro row _ hfailed
    cases hfailed
  | fail =>
    rw [perform]
    exact invariant_after hinv fun _ _ => allRecorded_failRows hinv
  | cancel runId =>
    rw [perform]
    refine invariant_after hinv fun scope _ => ?_
    exact allRecorded_of_amend hinv (row_cancelRows db call scope runId)
      (record_cancelRows db call scope runId) fun row _ hfailed => hfailed
  | reenqueue runId =>
    rw [perform]
    refine invariant_after hinv fun scope _ => ?_
    refine allRecorded_of_amend hinv (row_reenqueueRows db call scope runId)
      (record_reenqueueRows db call scope runId) ?_
    intro row _ hfailed
    cases hfailed
  | dequeueUnclaimed =>
    rw [perform]
    exact invariant_after hinv fun _ _ => allRecorded_dequeueUnclaimedRows hinv
  | deadLetter =>
    rw [perform]
    exact invariant_after hinv fun _ _ => allRecorded_deadLetterRows hinv
  | requeueFromDlq =>
    rw [perform]
    exact invariant_after hinv fun scope hscope =>
      allRecorded_requeueFromDlqRows hinv (hreaches scope hscope)

theorem reaches_of_allRecorded
    (hinv : AllConsistent db) (hafter : AllRecorded (db.perform event)) : Reaches db event := by
  obtain ⟨call, op⟩ := event
  cases op with
  | requeueFromDlq runId tenantId =>
    intro scope hscope row record hfound hrecord hcovers
    rw [perform, requeueFromDlq, after_map, hscope] at hafter
    by_contra hmissed
    have hfailed := (hinv runId row hfound).deadLetter (by rw [hrecord]; rfl)
    have hrow := row_requeueFromDlqRows db call scope runId runId
    have hgone := record_requeueFromDlqRows db call scope runId runId
    rw [hrecord, Option.any_some, if_pos ⟨rfl, hcovers⟩, hfound, amend_some, if_neg hmissed] at hrow
    rw [if_pos rfl, hrecord] at hgone
    have hsome := hafter runId row hrow hfailed
    simp only at hsome
    rw [hgone] at hsome
    simp [Option.filter, hcovers] at hsome
  | _ => trivial

/-! ## Histories -/

theorem StrictRowInvariant.rowInvariant
    (h : StrictRowInvariant db) : RowInvariant db := h.consistent.rowInvariant

/-- From the empty database, the histories along which every state has the row
invariant are exactly those in which every call is sound; under the strict
reading every `requeue_from_dlq` must also reach the row of the record it
drops. -/
theorem always_rowInvariant_iff (events : List (Call × Op)) :
    (Always perform RowInvariant empty events ↔ Along perform Sound empty events) ∧
      (Always perform StrictRowInvariant empty events ↔
        Along perform (fun db event => Sound db event ∧ Reaches db event) empty events) := by
  have hkeeps : ∀ db event, AllConsistent db → Sound db event → AllConsistent (db.perform event) :=
    fun _ _ hinv hsound => allConsistent_perform hinv hsound
  have hstrict : ∀ db event, StrictRowInvariant db →
      Sound db event ∧ Reaches db event → StrictRowInvariant (db.perform event) :=
    fun _ _ hinv hguard => ⟨allConsistent_perform hinv.consistent hguard.1,
      allRecorded_perform hinv.recorded hguard.2⟩
  constructor
  · refine always_iff_along hkeeps ?_ ?_ allConsistent_empty events
    · exact fun _ hinv => hinv.rowInvariant
    · exact fun _ _ hinv hafter => sound_of_rowInvariant hinv hafter
  · refine always_iff_along hstrict (fun _ hinv => hinv) ?_
      ⟨allConsistent_empty, allRecorded_empty⟩ events
    intro _ _ hinv hafter
    exact ⟨sound_of_rowInvariant hinv.consistent hafter.rowInvariant,
      reaches_of_allRecorded hinv.consistent hafter.recorded⟩

/-- A worker claims a run and the run is dead-lettered under the worker, as the
heartbeat loop does when it is denied. -/
def leasedThenDeadLettered : List (Call × Op) :=
  let call : Call := { now := 0, posture := .ok .dev, leaseTimeout := 300 }
  [(call, .enqueue "run" 5 "" "tenant" "" "" ""), (call, .claimNext "run_manager"),
    (call, .deadLetter "run" "lease_lost" "running" (some "tenant"))]

/-- The failed row keeps the worker and the expiry of the lease. -/
theorem not_always_rowInvariant : ¬ ∀ events, Always perform RowInvariant empty events := by
  intro h
  have hlast := (h leasedThenDeadLettered).last
  have hcolumns := hlast.lease "run" _ rfl
  revert hcolumns
  decide

/-- The run for which a call of `requeue_from_dlq` returns `True`. -/
def requeuedRun (db : RunQueue) : Call × Op → Option String
  | (call, .requeueFromDlq runId tenantId) =>
    match db.requeueFromDlq call runId tenantId with
    | .ok (true, _) => some runId
    | _ => none
  | _ => none

/-- The call writes a dead-letter record for the run: `dead_letter` whenever it gets past
the scope check, `fail` on the last attempt of a run that the worker holds. -/
def DeadLetters (db : RunQueue) : Call × Op → String → Prop
  | (call, .deadLetter target _ _ tenantId), runId =>
    target = runId ∧ ∃ scope, checkTenantScope call.posture tenantId "dead_letter" = .ok scope
  | (call, .fail target workerId tenantId), runId =>
    target = runId ∧ ∃ scope, checkTenantScope call.posture tenantId "fail" = .ok scope ∧
        ∃ row, db.row target = some row ∧ row.heldBy workerId = true ∧
          covers scope row.tenantId = true ∧ row.attemptCount + 1 ≥ row.maxAttempts
  | _, _ => False

/-- The database, and of every run the calls that have requeued it. -/
structure Requeues where
  db : RunQueue
  returned : String → Nat

namespace Requeues

def start : Requeues := ⟨.empty, fun _ => 0⟩

def step (s : Requeues) (event : Call × Op) : Requeues where
  db := s.db.perform event
  returned runId := s.returned runId + if s.db.requeuedRun event = some runId then 1 else 0

def Counted (s : Requeues) : Prop :=
  ∀ runId record, s.db.record runId = some record → record.requeueCount = s.returned runId

def Meets (s : Requeues) (event : Call × Op) : Prop :=
  ∀ runId, s.db.DeadLetters event runId → s.returned runId = 0

end Requeues

/-! ## One call -/

/-- What a call does to the record of a run. -/
inductive RecordStep (db : RunQueue) (event : Call × Op) (runId : String) : Prop
  | written (hwrites : db.DeadLetters event runId) (hback : db.requeuedRun event = none)
      (record : DeadLetter) (hrecord : (db.perform event).record runId = some record)
      (hcount : record.requeueCount = ((db.record runId).map (·.requeueCount)).getD 0)
  | requeued (hwrites : ¬ db.DeadLetters event runId)
      (hback : db.requeuedRun event = some runId)
      (hrecord : (db.perform event).record runId = none)
  | kept (hwrites : ¬ db.DeadLetters event runId) (hback : db.requeuedRun event ≠ some runId)
      (hrecord : (db.perform event).record runId = db.record runId)

variable (db : RunQueue) (call : Call) (runId : String)

theorem recordStep_fail (target workerId : String) (tenantId : Option String) :
    RecordStep db (call, .fail target workerId tenantId) runId := by
  cases hcheck : checkTenantScope call.posture tenantId "fail" with
  | error error =>
    refine .kept (fun h => ?_) (fun h => nomatch h) ?_
    · obtain ⟨-, scope, hscope, -⟩ := h
      rw [hcheck] at hscope
      cases hscope
    · rw [perform, fail, after_map, hcheck]
  | ok scope =>
    have hrecord : (db.perform (call, .fail target workerId tenantId)).record runId =
        (db.failRows call scope target workerId).record runId := by
      rw [perform, fail, after_map, hcheck]
      rfl
    rw [record_failRows] at hrecord
    by_cases hlast : runId = target ∧ ∃ row, db.row target = some row ∧
        row.heldBy workerId = true ∧ covers scope row.tenantId = true ∧
          row.attemptCount + 1 ≥ row.maxAttempts
    · obtain ⟨rfl, row, hrow, hheld, hcovers, htries⟩ := hlast
      have hmine : (row.heldBy workerId && covers scope row.tenantId) = true := by
        rw [hheld, hcovers, Bool.and_true]
      rw [hrow, Option.filter_some, if_pos hmine] at hrecord
      simp only [true_and, if_pos htries] at hrecord
      exact .written ⟨rfl, scope, hcheck, row, hrow, hheld, hcovers, htries⟩ rfl _ hrecord rfl
    · refine .kept (fun h => hlast ?_) (fun h => nomatch h) ?_
      · obtain ⟨htarget, scope', hscope, hrow⟩ := h
        rw [hcheck] at hscope
        cases hscope
        exact ⟨htarget.symm, hrow⟩
      · rw [hrecord]
        cases hrow : db.row target with
        | none => rfl
        | some row =>
          rw [Option.filter_some]
          split
          · rfl
          · rename_i found hfound
            split at hfound
            · rename_i hmine
              obtain ⟨hheld, hcovers⟩ := Bool.and_eq_true_iff.mp hmine
              obtain rfl := Option.some.inj hfound
              rw [if_neg fun h => hlast ⟨h.1, row, hrow, hheld, hcovers, h.2⟩]
            · cases hfound

theorem recordStep_deadLetter (target reason originalState : String) (tenantId : Option String) :
    RecordStep db (call, .deadLetter target reason originalState tenantId) runId := by
  cases hcheck : checkTenantScope call.posture tenantId "dead_letter" with
  | error error =>
    refine .kept (fun h => ?_) (fun h => nomatch h) ?_
    · obtain ⟨-, scope, hscope⟩ := h
      rw [hcheck] at hscope
      cases hscope
    · rw [perform, deadLetter, after_map, hcheck]
  | ok scope =>
    have hrecord : (db.perform (call, .deadLetter target reason originalState tenantId)).record
        runId = (db.deadLetterRows call scope target reason originalState).record runId := by
      rw [perform, deadLetter, after_map, hcheck]
      rfl
    rw [record_deadLetterRows] at hrecord
    by_cases htarget : runId = target
    · subst htarget
      rw [if_pos rfl] at hrecord
      exact .written ⟨rfl, scope, hcheck⟩ rfl _ hrecord rfl
    · rw [if_neg htarget] at hrecord
      exact .kept (fun h => htarget h.1.symm) (fun h => nomatch h) hrecord

theorem recordStep_requeueFromDlq (target : String) (tenantId : Option String) :
    RecordStep db (call, .requeueFromDlq target tenantId) runId := by
  cases hcheck : checkTenantScope call.posture tenantId "requeue_from_dlq" with
  | error error =>
    refine .kept (fun h => h.elim) ?_ ?_
    · simp [requeuedRun, requeueFromDlq, hcheck, Except.map]
    · rw [perform, requeueFromDlq, after_map, hcheck]
  | ok scope =>
    have hrecord : (db.perform (call, .requeueFromDlq target tenantId)).record runId =
        (db.requeueFromDlqRows call scope target).2.record runId := by
      rw [perform, requeueFromDlq, after_map, hcheck]
    have hback : db.requeuedRun (call, .requeueFromDlq target tenantId) =
        if (db.record target).any (covers scope ·.tenantId) = true then some target else none := by
      simp only [requeuedRun, requeueFromDlq, hcheck, Except.map, requeueFromDlqRows]
      rw [show db.deadLetteredRuns.hitsAt target (fun record => covers scope record.tenantId) =
        (db.record target).any (covers scope ·.tenantId) from rfl]
      cases (db.record target).any (covers scope ·.tenantId) <;> rfl
    rw [record_requeueFromDlqRows] at hrecord
    by_cases htarget : runId = target
    · subst htarget
      rw [if_pos rfl] at hrecord
      cases hold : db.record runId with
      | none =>
        rw [hold] at hrecord hback
        exact .kept (fun h => h.elim) (by rw [hback]; simp) (hrecord.trans hold.symm)
      | some record =>
        rw [hold] at hrecord hback
        cases hcovers : covers scope record.tenantId with
        | true =>
          exact .requeued (fun h => h.elim) (by rw [hback]; simp [hcovers])
            (by rw [hrecord]; simp [Option.filter, hcovers])
        | false =>
          exact .kept (fun h => h.elim) (by rw [hback]; simp [hcovers])
            (by rw [hrecord, hold]; simp [Option.filter, hcovers])
    · rw [if_neg htarget] at hrecord
      refine .kept (fun h => h.elim) ?_ hrecord
      rw [hback]
      split
      · exact fun h => htarget (Option.some.inj h).symm
      · exact fun h => (Option.some_ne_none _ h.symm).elim

theorem recordStep (event : Call × Op) : RecordStep db event runId := by
  have hkept : ∀ {α : Type} {check : Except TenantScopeError (Option String)}
      {run : Option String → α} {state : α → RunQueue},
      (∀ scope, (state (run scope)).record runId = db.record runId) →
        (db.after state (check.map run)).record runId = db.record runId :=
    fun hrun => invariant_after (P := fun db' => db'.record runId = db.record runId) rfl
      fun scope _ => hrun scope
  obtain ⟨call, op⟩ := event
  cases op with
  | enqueue => exact .kept (fun h => h.elim) (fun h => nomatch h) rfl
  | claimNext workerId =>
    exact .kept (fun h => h.elim) (fun h => nomatch h) (record_claimNext ..)
  | releaseLease => exact .kept (fun h => h.elim) (fun h => nomatch h) rfl
  | fail target workerId tenantId => exact recordStep_fail db call runId target workerId tenantId
  | releaseExpiredLeases => exact .kept (fun h => h.elim) (fun h => nomatch h) rfl
  | deadLetter target reason originalState tenantId =>
    exact recordStep_deadLetter db call runId target reason originalState tenantId
  | requeueFromDlq target tenantId => exact recordStep_requeueFromDlq db call runId target tenantId
  | _ => exact .kept (fun h => h.elim) (fun h => nomatch h) (hkept fun _ => rfl)

/-! ## Whole histories -/

namespace Requeues

variable {s : Requeues} {event : Call × Op}

/-- No record has ever counted a requeue, and no run on record has been requeued. -/
structure Inv (s : Requeues) : Prop where
  zero : ∀ runId record, s.db.record runId = some record → record.requeueCount = 0
  fresh : ∀ runId record, s.db.record runId = some record → s.returned runId = 0

theorem inv_start : start.Inv :=
  ⟨fun _ _ h => (Option.some_ne_none _ h.symm).elim,
    fun _ _ h => (Option.some_ne_none _ h.symm).elim⟩

theorem Inv.counted (h : s.Inv) : s.Counted :=
  fun runId record hrecord => (h.zero runId record hrecord).trans
    (h.fresh runId record hrecord).symm

theorem Inv.carried (h : s.Inv) (runId : String) :
    ((s.db.record runId).map (·.requeueCount)).getD 0 = 0 := by
  cases hold : s.db.record runId with
  | none => rfl
  | some old => exact h.zero runId old hold

/-- No event that meets the condition returns a recorded run. -/
theorem Inv.step (h : s.Inv) (hmeets : s.Meets event) : (s.step event).Inv := by
  constructor
  · intro runId record hrecord
    cases recordStep s.db runId event with
    | written _ _ new hnew hcount =>
      obtain rfl := Option.some.inj (hnew.symm.trans hrecord)
      exact hcount.trans (h.carried runId)
    | requeued _ _ hnone => exact (Option.some_ne_none record (hrecord.symm.trans hnone)).elim
    | kept _ _ hsame => exact h.zero runId record (hsame.symm.trans hrecord)
  · intro runId record hrecord
    cases recordStep s.db runId event with
    | written hwrites hback =>
      simp only [Requeues.step, hback]
      simpa using hmeets runId hwrites
    | requeued _ _ hnone => exact (Option.some_ne_none record (hrecord.symm.trans hnone)).elim
    | kept _ hback hsame =>
      simp only [Requeues.step, if_neg hback]
      exact h.fresh runId record (hsame.symm.trans hrecord)

theorem Inv.meets (h : s.Inv) (hcounted : (s.step event).Counted) : s.Meets event := by
  intro runId hwrites
  cases recordStep s.db runId event with
  | written _ hback record hrecord hcount =>
    have hsame := hcounted runId record hrecord
    rw [hcount, h.carried] at hsame
    simpa [Requeues.step, hback] using hsame.symm
  | requeued hnot | kept hnot => exact (hnot hwrites).elim

/-- The histories in which the records always count the requeues are those that dead-letter
no run again after it was requeued. -/
theorem always_counted_iff (events : List (Call × Op)) :
    Always step Counted start events ↔ Along step Meets start events :=
  always_iff_along (fun _ _ h hmeets => h.step hmeets) (fun _ h => h.counted)
    (fun _ _ h hcounted => h.meets hcounted) inv_start events

/-- A run of which every other dead-lettering follows a requeue. -/
def cycle : List (Call × Op) :=
  let call : Call := ⟨0, .ok .dev, 300⟩
  [(call, .enqueue "r" 0 "{}" "north" "" "" ""),
    (call, .deadLetter "r" "poison" "failed" (some "north")),
    (call, .requeueFromDlq "r" (some "north")),
    (call, .deadLetter "r" "poison" "failed" (some "north"))]

/-- The record of the second dead-lettering does not know of the requeue. -/
theorem not_always_counted_cycle : ¬ Always step Counted start cycle := by
  intro halways
  have hlast := Always.last halways
  have hcount : ((exec step start cycle).db.record "r").map (·.requeueCount) = some 0 := by decide
  have hback : (exec step start cycle).returned "r" = 1 := by decide
  obtain ⟨record, hrecord, hzero⟩ := Option.map_eq_some_iff.mp hcount
  have hsame := hlast "r" record hrecord
  rw [hzero, hback] at hsame
  cases hsame

end Requeues

end HiAgent.Server.RunQueue
