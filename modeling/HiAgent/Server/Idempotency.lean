/-
  Server/Idempotency.lean --- the store of `hi_agent/server/idempotency.py`.

  One table of records, unique by tenant and idempotency key. Every method holds the lock of the
  store from its first statement to its last, so each is one function of the table.
-/
import HiAgent.Foundation.Json
import HiAgent.Foundation.Machine
import HiAgent.Foundation.Table
import HiAgent.Server.Environment

namespace HiAgent.Server

open Foundation

/-! ## Records -/

/-- The values of `idempotency_records.status`. -/
inductive IdempotencyStatus where
  | pending
  | succeeded
  | failed
  | cancelled
  | timedOut
  deriving DecidableEq

structure IdempotencyRecord where
  tenantId : String
  idempotencyKey : String
  requestHash : String
  runId : String
  status : IdempotencyStatus
  responseSnapshot : JsonText
  createdAt : Int
  updatedAt : Int
  expiresAt : Int
  projectId : String
  userId : String
  sessionId : String
  statusCode : Int

/-- The columns of the `UNIQUE` constraint. -/
def IdempotencyRecord.slot (record : IdempotencyRecord) : String × String :=
  (record.tenantId, record.idempotencyKey)

/-- The exceptions a method of the store may raise. -/
inductive IdempotencyError where
  /-- The `ValueError` of `Posture.from_env`. -/
  | posture (message : String)
  /-- `SpineCompletenessError`. -/
  | spineCompleteness (message : String)

/-- The spine fields of `IdempotencyRecord.__post_init__` that are empty. -/
def IdempotencyRecord.missing (record : IdempotencyRecord) : List String :=
  (if record.tenantId = "" then ["tenant_id"] else []) ++
    (if record.idempotencyKey = "" then ["idempotency_key"] else []) ++
      (if record.runId = "" then ["run_id"] else [])

def printNames (names : List String) : String :=
  "[" ++ ", ".intercalate (names.map fun name => "'" ++ name ++ "'") ++ "]"

/-- `IdempotencyRecord.__post_init__`: the posture is resolved first, and then a
strict one asks for all three spine fields. -/
def IdempotencyRecord.validate (posture : Except String Posture)
    (record : IdempotencyRecord) : Except IdempotencyError IdempotencyRecord :=
  match posture with
  | .error message => .error (.posture message)
  | .ok posture =>
    if record.missing ≠ [] ∧ posture.isStrict then
      .error (.spineCompleteness
        ("IdempotencyRecord constructed without required spine fields " ++
          "under posture=" ++ posture.value ++ ": missing=" ++
          printNames record.missing ++ ". " ++
          "Populate at the construction site (Rule 12)."))
    else .ok record

/-- The fields of a `RunExecutionContext` that the store reads. -/
structure RunExecutionContext where
  tenantId : String
  userId : String
  sessionId : String
  projectId : String

/-- The arguments of `reserve_or_replay`. -/
structure Reservation where
  tenantId : String
  idempotencyKey : String
  requestHash : String
  runId : String
  ttlSeconds : Int
  projectId : String
  userId : String
  sessionId : String
  execCtx : Option RunExecutionContext

def overriding (fromContext argument : String) : String :=
  if fromContext ≠ "" then fromContext else argument

/-- The arguments after the context has been applied. -/
def Reservation.resolved (args : Reservation) : Reservation :=
  match args.execCtx with
  | none => args
  | some ctx => { args with
      tenantId := overriding ctx.tenantId args.tenantId
      userId := overriding ctx.userId args.userId
      sessionId := overriding ctx.sessionId args.sessionId
      projectId := overriding ctx.projectId args.projectId }

def Reservation.slot (args : Reservation) : String × String :=
  (args.resolved.tenantId, args.idempotencyKey)

/-- The row that `INSERT` writes; `status_code` has its column default. -/
def Reservation.record (args : Reservation) (now : Int) : IdempotencyRecord where
  tenantId := args.resolved.tenantId
  idempotencyKey := args.idempotencyKey
  requestHash := args.requestHash
  runId := args.runId
  status := .pending
  responseSnapshot := .empty
  createdAt := now
  updatedAt := now
  expiresAt := now + args.ttlSeconds
  projectId := args.resolved.projectId
  userId := args.resolved.userId
  sessionId := args.resolved.sessionId
  statusCode := 200

@[simp] theorem Reservation.slot_record (args : Reservation) (now : Int) :
    (args.record now).slot = args.slot := rfl

/-- The first component of what `reserve_or_replay` returns. -/
inductive Outcome where
  | created
  | replayed
  | conflict

/-! ## Completion -/

def identityFieldsStrippedOnReplay : List String :=
  ["request_id", "trace_id", "x_request_id", "_response_timestamp"]

def normalizeResponseForReplay : JsonText → JsonText
  | .document (.object fields) =>
    .document (.object (fields.filter fun field =>
      !identityFieldsStrippedOnReplay.contains field.1))
  | text => text

/-- The status that `mark_complete` stores for a `terminal_state`. -/
def statusOfTerminalState (terminalState : String) : IdempotencyStatus :=
  if terminalState = "failed" then .failed
  else if terminalState = "cancelled" then .cancelled
  else if terminalState = "timed_out" then .timedOut
  else .succeeded

/-- `default_status_code_for`, on the stored statuses. -/
def defaultStatusCodeFor : IdempotencyStatus → Int
  | .succeeded => 200
  | .failed => 500
  | .cancelled => 499
  | .timedOut => 504
  | .pending => 500

/-- The assignment of `mark_complete`. -/
def IdempotencyRecord.toCompleted (now : Int) (responseJson : JsonText)
    (terminalState : String) (statusCode : Option Int) :
    Assignment IdempotencyRecord.slot where
  set record := { record with
    status := statusOfTerminalState terminalState
    responseSnapshot := normalizeResponseForReplay responseJson
    updatedAt := now
    statusCode := statusCode.getD
      (defaultStatusCodeFor (statusOfTerminalState terminalState)) }
  keeps _ := rfl

/-- The assignment of `mark_failed`. -/
def IdempotencyRecord.toFailed (now statusCode : Int) : Assignment IdempotencyRecord.slot where
  set record := { record with
    status := .failed
    updatedAt := now
    statusCode }
  keeps _ := rfl

/-! ## Methods -/

/-- The database behind an `IdempotencyStore`. -/
abbrev IdempotencyStore := Table IdempotencyRecord.slot

namespace IdempotencyStore

/-- `expires_at < ?`. -/
def expiredBy (now : Int) (record : IdempotencyRecord) : Bool :=
  decide (record.expiresAt < now)

/-- `reserve_or_replay`. The `INSERT` fails exactly when the slot is taken after
the lazy purge, and the row is then there to be read back. -/
def reserveOrReplay (store : IdempotencyStore) (posture : Except String Posture)
    (now : Int) (args : Reservation) :
    Except IdempotencyError (Outcome × IdempotencyRecord) × IdempotencyStore :=
  let purged := store.deleteAt args.slot (expiredBy now)
  match purged.lookup args.slot with
  | none =>
    (((args.record now).validate posture).map (Outcome.created, ·),
      purged.insertOrIgnore (args.record now))
  | some existing =>
    ((existing.validate posture).map fun record =>
      (if record.requestHash = args.requestHash then .replayed else .conflict, record),
      purged)

def markComplete (store : IdempotencyStore) (now : Int)
    (tenantId idempotencyKey : String) (responseJson : JsonText)
    (terminalState : String) (statusCode : Option Int) : IdempotencyStore :=
  store.updateAt (tenantId, idempotencyKey) (fun _ => true)
    (IdempotencyRecord.toCompleted now responseJson terminalState statusCode)

def markFailed (store : IdempotencyStore) (now : Int)
    (tenantId idempotencyKey : String) (statusCode : Int) : IdempotencyStore :=
  store.updateAt (tenantId, idempotencyKey) (fun _ => true)
    (IdempotencyRecord.toFailed now statusCode)

def release (store : IdempotencyStore) (tenantId idempotencyKey : String) : IdempotencyStore :=
  store.deleteAt (tenantId, idempotencyKey) fun record => record.status == .pending

/-- `purge_expired`, with the number of rows it deletes. -/
def purgeExpired (store : IdempotencyStore) (now : Int) (cutoff : Option Int) :
    Nat × IdempotencyStore :=
  let expired := expiredBy (cutoff.getD now)
  ((store.select expired).length, store.delete expired)

/-! ## Histories -/

/-- A call of a method of the store. -/
inductive Op where
  | reserve (args : Reservation)
  | markComplete (tenantId idempotencyKey : String) (responseJson : JsonText)
      (terminalState : String) (statusCode : Option Int)
  | markFailed (tenantId idempotencyKey : String) (statusCode : Int)
  | release (tenantId idempotencyKey : String)
  | purge (cutoff : Option Int)

/-- A call and the reading of the clock it makes. -/
structure Call where
  now : Int
  op : Op

/-- The moment a call acts at: `purge_expired` may be given one. -/
def Call.moment (call : Call) : Int :=
  match call.op with
  | .purge cutoff => cutoff.getD call.now
  | _ => call.now

/-- The store after one call. -/
def perform (posture : Except String Posture) (store : IdempotencyStore)
    (call : Call) : IdempotencyStore :=
  match call.op with
  | .reserve args => (store.reserveOrReplay posture call.now args).2
  | .markComplete tenantId idempotencyKey responseJson terminalState statusCode =>
    store.markComplete call.now tenantId idempotencyKey responseJson terminalState
      statusCode
  | .markFailed tenantId idempotencyKey statusCode =>
    store.markFailed call.now tenantId idempotencyKey statusCode
  | .release tenantId idempotencyKey => store.release tenantId idempotencyKey
  | .purge cutoff => (store.purgeExpired call.now cutoff).2

/-- The answer to a reservation of a slot: `none` for every other call. -/
def answer (posture : Except String Posture) (store : IdempotencyStore)
    (slot : String × String) (call : Call) :
    Option (Except IdempotencyError (Outcome × IdempotencyRecord)) :=
  match call.op with
  | .reserve args =>
    if args.slot = slot then some (store.reserveOrReplay posture call.now args).1
    else none
  | _ => none

/-- A call takes the slot away from the winner: it releases the record while that
is pending, or it acts after the expiry. -/
def Ends (slot : String × String) (expiresAt : Int) (store : IdempotencyStore)
    (call : Call) : Prop :=
  (∃ tenantId idempotencyKey, call.op = .release tenantId idempotencyKey ∧
      (tenantId, idempotencyKey) = slot ∧
      (store.lookup slot).any (·.status == .pending) = true) ∨
    expiresAt < call.moment

def WellFormed (posture : Except String Posture) (call : Call) : Prop :=
  ∀ args, call.op = .reserve args → ∃ record, (args.record call.now).validate posture = .ok record

/-- The reservations of the slot are answered with the run of the winner:
`replayed` under its request hash, `conflict` under another one. -/
def AnswersWith (posture : Except String Posture) (slot : String × String)
    (winner : IdempotencyRecord) (store : IdempotencyStore) (call : Call) : Prop :=
  ∀ args, call.op = .reserve args → args.slot = slot → ∃ record, store.answer posture slot call =
        some (.ok (if args.requestHash = winner.requestHash then .replayed
          else .conflict, record)) ∧
      record.runId = winner.runId

/-- The call is answered `created` for the slot. -/
def Creates (posture : Except String Posture) (slot : String × String)
    (store : IdempotencyStore) (call : Call) : Prop :=
  ∃ record, store.answer posture slot call = some (.ok (.created, record))

/-- The record is the winner's, whatever has become of its status. -/
structure Continues (winner record : IdempotencyRecord) : Prop where
  runId : record.runId = winner.runId
  requestHash : record.requestHash = winner.requestHash
  expiresAt : record.expiresAt = winner.expiresAt

def Holds (slot : String × String) (winner : IdempotencyRecord) (store : IdempotencyStore) : Prop :=
  ∃ record, store.lookup slot = some record ∧ Continues winner record

def OnlyWinner (slot : String × String) (winner : IdempotencyRecord)
    (store : IdempotencyStore) : Prop :=
  ∀ record, store.lookup slot = some record → Continues winner record

/-! ## One call -/

section Validation

variable {posture : Except String Posture} {record other : IdempotencyRecord}

theorem eq_of_validate (h : record.validate posture = .ok other) : other = record := by
  unfold IdempotencyRecord.validate at h
  cases posture with
  | error message => cases h
  | ok posture =>
    simp only at h
    split at h
    · cases h
    · exact (Except.ok.inj h).symm

theorem validate_of_same (htenant : other.tenantId = record.tenantId)
    (hkey : other.idempotencyKey = record.idempotencyKey) (hrun : other.runId = record.runId)
    (h : record.validate posture = .ok record) : other.validate posture = .ok other := by
  have hmissing : other.missing = record.missing := by
    unfold IdempotencyRecord.missing
    rw [htenant, hkey, hrun]
  unfold IdempotencyRecord.validate at h ⊢
  cases posture with
  | error message => cases h
  | ok posture =>
    simp only [hmissing] at h ⊢
    split at h
    · cases h
    · rename_i hfull
      rw [if_neg hfull]

end Validation

section Reserve

variable {posture : Except String Posture} {store : IdempotencyStore} {now : Int}
variable {args : Reservation}

theorem reserveOrReplay_of_fresh {existing : IdempotencyRecord}
    (hlookup : store.lookup args.slot = some existing) (hfresh : now ≤ existing.expiresAt) :
    store.reserveOrReplay posture now args = ((existing.validate posture).map fun record =>
        (if record.requestHash = args.requestHash then .replayed else .conflict,
          record), store) := by
  have hkept : store.deleteAt args.slot (expiredBy now) = store := by
    apply Table.deleteAt_eq_self
    intro row hrow
    obtain rfl := Option.some.inj (hlookup.symm.trans hrow)
    exact decide_eq_false (Int.not_lt.mpr hfresh)
  unfold reserveOrReplay
  simp only [hkept, hlookup]

theorem reserveOrReplay_ne_created {existing : IdempotencyRecord}
    (hlookup : store.lookup args.slot = some existing)
    (hfresh : now ≤ existing.expiresAt) (record : IdempotencyRecord) :
    (store.reserveOrReplay posture now args).1 ≠ .ok (.created, record) := by
  rw [reserveOrReplay_of_fresh hlookup hfresh]
  intro h
  cases hvalid : existing.validate posture with
  | error err =>
    rw [hvalid] at h
    cases h
  | ok found =>
    rw [hvalid] at h
    simp only [Except.map, Except.ok.injEq, Prod.mk.injEq] at h
    have houtcome := h.1
    split at houtcome <;> cases houtcome

theorem lookup_purged {slot : String × String}
    (hfree : ∀ existing, store.lookup slot = some existing → existing.expiresAt < now) :
    (store.deleteAt slot (expiredBy now)).lookup slot = none := by
  rw [Table.lookup_deleteAt, if_pos rfl]
  cases hlookup : store.lookup slot with
  | none => rfl
  | some existing =>
    have hexpired : expiredBy now existing = true :=
      decide_eq_true (hfree existing hlookup)
    simp [Option.filter, hexpired]

theorem reserveOrReplay_of_free (hfree : ∀ existing, store.lookup args.slot = some existing →
      existing.expiresAt < now) : store.reserveOrReplay posture now args =
      (((args.record now).validate posture).map (Outcome.created, ·),
        (store.deleteAt args.slot (expiredBy now)).insertOrIgnore (args.record now)) := by
  unfold reserveOrReplay
  simp only [lookup_purged hfree]

theorem fresh_or_free (store : IdempotencyStore) (slot : String × String) (now : Int) :
    (∃ existing, store.lookup slot = some existing ∧ now ≤ existing.expiresAt) ∨
      ∀ existing, store.lookup slot = some existing → existing.expiresAt < now := by
  cases hlookup : store.lookup slot with
  | none => exact .inr fun existing h => by cases h
  | some record =>
    rcases Int.lt_or_le record.expiresAt now with hexpired | hfresh
    · refine .inr ?_
      intro existing h
      obtain rfl := Option.some.inj h
      exact hexpired
    · exact .inl ⟨record, rfl, hfresh⟩

theorem lookup_reserveOrReplay_of_ne {slot : String × String} (hne : slot ≠ args.slot) :
    (store.reserveOrReplay posture now args).2.lookup slot = store.lookup slot := by
  rcases fresh_or_free store args.slot now with ⟨existing, hlookup, hfresh⟩ | hfree
  · rw [reserveOrReplay_of_fresh hlookup hfresh]
  · rw [reserveOrReplay_of_free hfree, Table.lookup_insertOrIgnore, if_neg,
      Table.lookup_deleteAt, if_neg hne]
    exact hne

end Reserve

/-! ## One call and the winner -/

section Step

variable {posture : Except String Posture} {slot : String × String}
variable {store : IdempotencyStore} {call : Call} {winner : IdempotencyRecord}

theorem of_created (h : store.answer posture slot call = some (.ok (.created, winner))) :
    winner.validate posture = .ok winner ∧ winner.slot = slot ∧
      (store.perform posture call).lookup slot = some winner := by
  unfold answer at h
  cases hop : call.op with
  | reserve args =>
    simp only [hop] at h
    split at h
    · rename_i hslot
      subst hslot
      have hanswer := Option.some.inj h
      rcases fresh_or_free store args.slot call.now with
        ⟨existing, hlookup, hfresh⟩ | hfree
      · exact absurd hanswer (reserveOrReplay_ne_created hlookup hfresh winner)
      · have hperform : store.perform posture call =
            (store.reserveOrReplay posture call.now args).2 := by
          simp only [perform, hop]
        rw [reserveOrReplay_of_free hfree] at hanswer hperform
        cases hvalid : (args.record call.now).validate posture with
        | error err => rw [hvalid] at hanswer; cases hanswer
        | ok record =>
          rw [hvalid] at hanswer
          simp only [Except.map, Except.ok.injEq, Prod.mk.injEq, true_and] at hanswer
          subst hanswer
          obtain rfl := eq_of_validate hvalid
          refine ⟨hvalid, rfl, ?_⟩
          rw [hperform, Table.lookup_insertOrIgnore,
            Reservation.slot_record, if_pos rfl, lookup_purged hfree]
          rfl
    · cases h
  | _ => simp only [hop] at h; cases h

variable {record : IdempotencyRecord}

theorem perform_of_not_created {outcome : Outcome}
    (h : store.answer posture slot call = some (.ok (outcome, record)))
    (hne : outcome ≠ .created) : store.perform posture call = store := by
  unfold answer at h
  cases hop : call.op with
  | reserve args =>
    simp only [hop] at h
    split at h
    · have hanswer := Option.some.inj h
      simp only [perform, hop]
      rcases fresh_or_free store args.slot call.now with
        ⟨existing, hlookup, hfresh⟩ | hfree
      · rw [reserveOrReplay_of_fresh hlookup hfresh]
      · rw [reserveOrReplay_of_free hfree] at hanswer
        cases hvalid : (args.record call.now).validate posture with
        | error err => rw [hvalid] at hanswer; cases hanswer
        | ok made =>
          rw [hvalid] at hanswer
          simp only [Except.map, Except.ok.injEq, Prod.mk.injEq] at hanswer
          exact absurd hanswer.1.symm hne
    · cases h
  | _ => simp only [hop] at h; cases h

theorem continues_toCompleted (now : Int)
    (responseJson : JsonText) (terminalState : String) (statusCode : Option Int)
    (h : Continues winner record) :
    Continues winner ((IdempotencyRecord.toCompleted now responseJson terminalState
      statusCode).set record) := ⟨h.runId, h.requestHash, h.expiresAt⟩

theorem continues_toFailed (now statusCode : Int) (h : Continues winner record) :
    Continues winner ((IdempotencyRecord.toFailed now statusCode).set record) :=
  ⟨h.runId, h.requestHash, h.expiresAt⟩

variable {p : IdempotencyRecord → Bool}

theorem holds_updateAt {k : String × String} {f : Assignment IdempotencyRecord.slot}
    (hkeeps : ∀ record, Continues winner record → Continues winner (f.set record))
    (hholds : Holds slot winner store) : Holds slot winner (store.updateAt k p f) := by
  obtain ⟨record, hlookup, hsame⟩ := hholds
  have hafter := Table.lookup_updateAt store k p f slot
  split at hafter
  · rename_i hk
    subst hk
    rw [hlookup, Option.map_some] at hafter
    refine ⟨_, hafter, ?_⟩
    split
    · exact hkeeps record hsame
    · exact hsame
  · exact ⟨record, hafter.trans hlookup, hsame⟩

theorem holds_perform (hholds : Holds slot winner store)
    (hstays : ¬ Ends slot winner.expiresAt store call) :
    Holds slot winner (store.perform posture call) := by
  rw [Ends, not_or] at hstays
  obtain ⟨hfreed, hmoment⟩ := hstays
  rw [Int.not_lt, Call.moment] at hmoment
  obtain ⟨record, hlookup, hsame⟩ := id hholds
  cases hop : call.op with
  | reserve args =>
    simp only [perform, hop] at hmoment ⊢
    by_cases hslot : slot = args.slot
    · subst hslot
      rw [reserveOrReplay_of_fresh hlookup (hsame.expiresAt ▸ hmoment)]
      exact hholds
    · exact ⟨record, (lookup_reserveOrReplay_of_ne hslot).trans hlookup, hsame⟩
  | markComplete tenantId idempotencyKey responseJson terminalState statusCode =>
    simp only [perform, hop]
    exact holds_updateAt (fun _ h => continues_toCompleted _ _ _ _ h) hholds
  | markFailed tenantId idempotencyKey statusCode =>
    simp only [perform, hop]
    exact holds_updateAt (fun _ h => continues_toFailed _ _ h) hholds
  | release tenantId idempotencyKey =>
    simp only [perform, hop, release]
    refine ⟨record, ?_, hsame⟩
    rw [Table.lookup_deleteAt]
    split
    · rename_i hslot
      subst hslot
      have hdone : (record.status == .pending) = false := by
        by_contra hpending
        rw [Bool.not_eq_false] at hpending
        refine hfreed ⟨tenantId, idempotencyKey, hop, rfl, ?_⟩
        rw [hlookup, Option.any_some, hpending]
      simp [hlookup, Option.filter, hdone]
    · exact hlookup
  | purge cutoff =>
    simp only [perform, hop, purgeExpired] at hmoment ⊢
    refine ⟨record, ?_, hsame⟩
    have hfresh : expiredBy (cutoff.getD call.now) record = false :=
      decide_eq_false (Int.not_lt.mpr (hsame.expiresAt ▸ hmoment))
    rw [Table.lookup_delete, hlookup]
    simp [Option.filter, hfresh]

theorem slot_of_lookup (h : store.lookup slot = some record) : record.slot = slot :=
  Table.key_of_lookup h

theorem answer_of_holds {args : Reservation}
    (hop : call.op = .reserve args) (hvalid : winner.validate posture = .ok winner)
    (hslot : winner.slot = args.slot) (hlookup : store.lookup args.slot = some record)
    (hsame : Continues winner record) (hfresh : call.now ≤ record.expiresAt) :
    store.answer posture args.slot call =
      some (.ok (if args.requestHash = winner.requestHash then .replayed
        else .conflict, record)) := by
  have hrecord := (slot_of_lookup hlookup).trans hslot.symm
  have hvalid' : record.validate posture = .ok record :=
    validate_of_same (congrArg Prod.fst hrecord) (congrArg Prod.snd hrecord)
      hsame.runId hvalid
  simp only [answer, hop, if_true]
  rw [reserveOrReplay_of_fresh hlookup hfresh, hvalid']
  simp only [Except.map, hsame.requestHash, eq_comm]

theorem creates_of_free {args : Reservation} (hop : call.op = .reserve args)
    (hwell : WellFormed posture call) (hfree : ∀ existing, store.lookup args.slot = some existing →
      existing.expiresAt < call.now) : Creates posture args.slot store call := by
  obtain ⟨record, hrecord⟩ := hwell args hop
  refine ⟨record, ?_⟩
  simp only [answer, hop, if_true]
  rw [reserveOrReplay_of_free hfree, hrecord]
  rfl

theorem onlyWinner_of_filter {after : IdempotencyStore} (hstate : OnlyWinner slot winner store)
    (hafter : after.lookup slot = store.lookup slot ∨
      after.lookup slot = (store.lookup slot).filter p) : OnlyWinner slot winner after := by
  intro record hrecord
  rcases hafter with hsame | hfilter
  · exact hstate record (hsame.symm.trans hrecord)
  · rw [hfilter, Option.filter_eq_some_iff] at hrecord
    exact hstate record hrecord.1

theorem onlyWinner_updateAt {k : String × String} {f : Assignment IdempotencyRecord.slot}
    (hkeeps : ∀ record, Continues winner record → Continues winner (f.set record))
    (hstate : OnlyWinner slot winner store) : OnlyWinner slot winner (store.updateAt k p f) := by
  intro record hrecord
  rw [Table.lookup_updateAt] at hrecord
  split at hrecord
  · rename_i hk
    subst hk
    obtain ⟨old, hold, rfl⟩ := Option.map_eq_some_iff.mp hrecord
    split
    · exact hkeeps old (hstate old hold)
    · exact hstate old hold
  · exact hstate record hrecord

theorem answersWith_of_not_reserve (h : ∀ args, call.op ≠ .reserve args) :
    AnswersWith posture slot winner store call :=
  fun args hop => absurd hop (h args)

theorem not_creates_of_holds (hholds : Holds slot winner store)
    (hstays : ¬ Ends slot winner.expiresAt store call) : ¬ Creates posture slot store call := by
  obtain ⟨record, hlookup, hsame⟩ := hholds
  rw [Ends, not_or] at hstays
  have hmoment := Int.not_lt.mp hstays.2
  rintro ⟨made, h⟩
  unfold answer at h
  cases hop : call.op with
  | reserve args =>
    simp only [hop] at h
    simp only [Call.moment, hop, ← hsame.expiresAt] at hmoment
    split at h
    · rename_i hslot
      subst hslot
      exact reserveOrReplay_ne_created hlookup hmoment made (Option.some.inj h)
    · cases h
  | _ => simp only [hop] at h; cases h

theorem onlyWinner_perform (hvalid : winner.validate posture = .ok winner)
    (hslot : winner.slot = slot) (hstate : OnlyWinner slot winner store)
    (hwell : WellFormed posture call) (hquiet : ¬ Creates posture slot store call) :
    AnswersWith posture slot winner store call ∧
      OnlyWinner slot winner (store.perform posture call) := by
  cases hop : call.op with
  | reserve args =>
    by_cases hargs : args.slot = slot
    · subst hargs
      rcases fresh_or_free store args.slot call.now with
        ⟨existing, hlookup, hfresh⟩ | hfree
      · have hsame := hstate existing hlookup
        refine ⟨?_, ?_⟩
        · intro args' hop' _
          obtain rfl := Op.reserve.inj (hop.symm.trans hop')
          exact ⟨existing, answer_of_holds hop hvalid hslot hlookup hsame hfresh, hsame.runId⟩
        · simp only [perform, hop]
          rw [reserveOrReplay_of_fresh hlookup hfresh]
          exact hstate
      · exact absurd (creates_of_free hop hwell hfree) hquiet
    · refine ⟨?_, ?_⟩
      · intro args' hop' hargs'
        obtain rfl := Op.reserve.inj (hop.symm.trans hop')
        exact absurd hargs' hargs
      · intro record hrecord
        simp only [perform, hop] at hrecord
        rw [lookup_reserveOrReplay_of_ne (fun h => hargs h.symm)] at hrecord
        exact hstate record hrecord
  | markComplete tenantId idempotencyKey responseJson terminalState statusCode =>
    refine ⟨answersWith_of_not_reserve (by simp [hop]), ?_⟩
    simp only [perform, hop]
    exact onlyWinner_updateAt (fun _ h => continues_toCompleted _ _ _ _ h) hstate
  | markFailed tenantId idempotencyKey statusCode =>
    refine ⟨answersWith_of_not_reserve (by simp [hop]), ?_⟩
    simp only [perform, hop]
    exact onlyWinner_updateAt (fun _ h => continues_toFailed _ _ h) hstate
  | release tenantId idempotencyKey =>
    refine ⟨answersWith_of_not_reserve (by simp [hop]), ?_⟩
    simp only [perform, hop, release]
    refine onlyWinner_of_filter (p := fun record => !(record.status == .pending))
      hstate ?_
    rw [Table.lookup_deleteAt]
    split
    · rename_i hk
      rw [hk]
      exact .inr rfl
    · exact .inl rfl
  | purge cutoff =>
    refine ⟨answersWith_of_not_reserve (by simp [hop]), ?_⟩
    simp only [perform, hop, purgeExpired]
    exact onlyWinner_of_filter hstate (.inr (Table.lookup_delete _ _ _))

end Step

/-! ## Windows -/

/-- After `first` wins the slot: if `second` wins it too, then some call in
between, or `second` itself, released the pending record or acted after its
expiry; as long as no other call wins the slot, every reservation of it is
answered with the run of the first; and an answer that is not `created`, to
whatever slot, leaves every record as it was. -/
theorem one_winner_per_window (posture : Except String Posture)
    (store : IdempotencyStore) (slot : String × String) (first : Call) (winner : IdempotencyRecord)
    (hfirst : store.answer posture slot first = some (.ok (.created, winner)))
    (between : List Call) : (∀ second, Creates posture slot
        (exec (perform posture) (store.perform posture first) between) second →
      Sometime (perform posture) (Ends slot winner.expiresAt)
        (store.perform posture first) (between ++ [second])) ∧
    (Along (perform posture) (fun store call => WellFormed posture call ∧
        ¬ Creates posture slot store call) (store.perform posture first) between →
      Along (perform posture) (AnswersWith posture slot winner)
        (store.perform posture first) between) ∧
    (∀ (store : IdempotencyStore) (slot : String × String) (call : Call)
        (outcome : Outcome) (record : IdempotencyRecord),
      store.answer posture slot call = some (.ok (outcome, record)) →
        outcome ≠ .created → store.perform posture call = store) := by
  obtain ⟨hvalid, hslot, hstored⟩ := of_created hfirst
  refine ⟨?_, ?_, fun _ _ _ _ _ => perform_of_not_created⟩
  · intro second hsecond
    by_contra hnever
    obtain ⟨hbetween, hlast, _⟩ :=
      (along_append _ _ _).mp (along_of_not_sometime hnever)
    have hholds : Holds slot winner
        (exec (perform posture) (store.perform posture first) between) :=
      exec_invariant (fun _ _ hinv hstays => holds_perform hinv hstays)
        ⟨winner, hstored, rfl, rfl, rfl⟩ hbetween
    exact not_creates_of_holds hholds hlast hsecond
  · intro hguard
    have honly : OnlyWinner slot winner (store.perform posture first) := by
      intro record hrecord
      obtain rfl := Option.some.inj (hstored.symm.trans hrecord)
      exact ⟨rfl, rfl, rfl⟩
    refine along_of_invariant ?_ ?_ honly hguard
    · intro _ _ hinv hcall
      exact (onlyWinner_perform hvalid hslot hinv hcall.1 hcall.2).2
    · intro _ _ hinv hcall
      exact (onlyWinner_perform hvalid hslot hinv hcall.1 hcall.2).1

/-- A request of one tenant under one key, with a window of ten ticks. -/
def submission (now : Int) (requestHash runId : String) : Call where
  now := now
  op := .reserve
    { tenantId := "tenant", idempotencyKey := "key", requestHash, runId,
      ttlSeconds := 10, projectId := "", userId := "", sessionId := ""
      execCtx := none }

/-- A retry and a different request within the window, and a request after it. -/
theorem one_winner_per_window_submission :
    Sometime (perform (.ok .prod)) (Ends ("tenant", "key") 10)
        (perform (.ok .prod) Table.empty (submission 0 "hash" "first"))
        ([submission 5 "hash" "second", submission 10 "other" "third"] ++
          [submission 11 "hash" "fourth"]) ∧ Along (perform (.ok .prod))
        (fun store call => ∃ outcome record, store.answer (.ok .prod) ("tenant", "key") call =
            some (.ok (outcome, record)) ∧ record.runId = "first")
        (perform (.ok .prod) Table.empty (submission 0 "hash" "first"))
        [submission 5 "hash" "second", submission 10 "other" "third"] := by
  obtain ⟨hsecond, hanswers, _⟩ :=
    one_winner_per_window (.ok .prod) Table.empty ("tenant", "key")
      (submission 0 "hash" "first") _ rfl
      [submission 5 "hash" "second", submission 10 "other" "third"]
  have hwell : ∀ now requestHash runId, runId ≠ "" →
      WellFormed (.ok .prod) (submission now requestHash runId) := by
    intro now requestHash runId hrun args hargs
    cases hargs
    exact ⟨_, by simp [IdempotencyRecord.validate, IdempotencyRecord.missing,
      Reservation.record, Reservation.resolved, hrun]; rfl⟩
  refine ⟨hsecond (submission 11 "hash" "fourth") ⟨_, rfl⟩, ?_⟩
  obtain ⟨hretry, hother, _⟩ := hanswers
    ⟨⟨hwell 5 "hash" "second" (by decide), by rintro ⟨_, h⟩; cases h⟩,
      ⟨hwell 10 "other" "third" (by decide), by rintro ⟨_, h⟩; cases h⟩, trivial⟩
  obtain ⟨retried, hretried, hrun⟩ := hretry _ rfl rfl
  obtain ⟨refused, hrefused, hrun'⟩ := hother _ rfl rfl
  exact ⟨⟨_, retried, hretried, hrun⟩, ⟨_, refused, hrefused, hrun'⟩, trivial⟩

end IdempotencyStore

end HiAgent.Server
