/-
  Kernel/DedupeStore/Backends.lean --- the ledger in a database.

  `SQLiteDedupeStore` (`agent_kernel/kernel/persistence/sqlite_dedupe_store.py`),
  `_SharedConnectionDedupeStore` (`sqlite_colocated_bundle.py`) and `PostgresDedupeStore`
  (`pg_dedupe_store.py`). Every call is one transaction. The two stores in SQLite look a
  record up and then insert or update; the one in Postgres inserts with
  `ON CONFLICT DO NOTHING` and looks up what it has hit.
-/
import HiAgent.Foundation.Machine
import HiAgent.Foundation.Transaction
import HiAgent.Kernel.DedupeStore

namespace HiAgent.Kernel

open Foundation List

/-- The right-hand sides of the `UPDATE` of a store. -/
def DedupeStore.overwrite (state : DedupeState) (peerOperationId externalAckRef : Option String) :
    Assignment DedupeRecord.dispatchIdempotencyKey where
  set record := { record with
    state := state
    peerOperationId := peerOperationId
    externalAckRef := externalAckRef }
  keeps _ := rfl

abbrev StoreSession (α : Type) := Session StoreError DedupeStore α

/-! ## SQLite -/

namespace SqlDedupeStore

open Session

/-- `BEGIN` inside a transaction, or its end outside of one. -/
def misuse : StoreError := .sqlite .operationalError

/-- The `SELECT` by key. -/
def select (key : String) : StoreSession (Option DedupeRecord) := do
  return (← get).contents.lookup key

/-- The `INSERT`, with its primary key. -/
def insert (record : DedupeRecord) : StoreSession Unit := do
  match PyValue.integerColumn record.attemptSeq with
  | .error error => throw (.sqlite error)
  | .ok _ =>
    let connection ← get
    if connection.contents.Taken record.dispatchIdempotencyKey then
      throw (.sqlite .integrityError)
    else
      set { connection with contents := connection.contents.insertOrReplace record }

/-- The `UPDATE`, and its `rowcount`. -/
def update (key : String) (state : DedupeState)
    (peerOperationId externalAckRef : Option String) : StoreSession Nat := do
  let connection ← get
  set { connection with
    contents := connection.contents.updateAt key (fun _ => true)
      (DedupeStore.overwrite state peerOperationId externalAckRef) }
  return if connection.contents.Taken key then 1 else 0

/-- The part of `reserve` and `reserve_and_dispatch` inside the `try`. -/
def claimBody (envelope : IdempotencyEnvelope) (state : DedupeState)
    (peerOperationId : Option String) : StoreSession StoreAnswer := do
  match ← select envelope.dispatchIdempotencyKey with
  | some existing =>
    rollback misuse
    return .reservation (.duplicate existing)
  | none =>
    insert (.of envelope state peerOperationId)
    commit misuse
    return .reservation .accepted

def getRequiredRecord (key : String) : StoreSession DedupeRecord := do
  match ← select key with
  | none => throw (.unknownKey key)
  | some record => return record

def updateState (key : String) (state : DedupeState)
    (peerOperationId externalAckRef : Option String) : StoreSession Unit := do
  let rowcount ← update key state peerOperationId externalAckRef
  if rowcount ≠ 1 then throw (.lostUpdate key)

/-- The part of a `mark_*` method inside the `try`, after its `BEGIN`. -/
def transitionBody (allowed : List DedupeState) (state : DedupeState)
    (peerOperationId externalAckRef : Option String) (key : String) :
    StoreSession StoreAnswer := do
  let record ← getRequiredRecord key
  if record.state ∈ allowed then
    updateState key state (orText peerOperationId record.peerOperationId)
      (orText externalAckRef record.externalAckRef)
    commit misuse
    return .done
  else throw (.refused record.state state)

def reserve (envelope : IdempotencyEnvelope) : StoreSession StoreAnswer := do
  start misuse
  rollingBack misuse (claimBody envelope .reserved envelope.peerOperationId)

def reserveAndDispatch (envelope : IdempotencyEnvelope) (peerOperationId : Option String) :
    StoreSession StoreAnswer := do
  start misuse
  rollingBackQuietly misuse
    (claimBody envelope .dispatched (orText peerOperationId envelope.peerOperationId))

/-- A `mark_*` method, its `BEGIN` inside the `try`. -/
def transition (allowed : List DedupeState) (state : DedupeState)
    (peerOperationId externalAckRef : Option String) (key : String) :
    StoreSession StoreAnswer :=
  rollingBackQuietly misuse do
    start misuse
    transitionBody allowed state peerOperationId externalAckRef key

/-- `get`. -/
def read (key : String) : StoreSession StoreAnswer := do
  return .record (← select key)

/-- A call of a store in SQLite. -/
def perform : StoreRequest → StoreSession StoreAnswer
  | .reserve envelope => reserve envelope
  | .reserveAndDispatch envelope peerOperationId =>
    reserveAndDispatch envelope peerOperationId
  | .markDispatched key peerOperationId =>
    transition [.reserved, .dispatched] .dispatched peerOperationId none key
  | .markAcknowledged key externalAckRef =>
    transition [.dispatched, .acknowledged] .acknowledged none externalAckRef key
  | .markSucceeded key externalAckRef =>
    transition [.acknowledged, .succeeded] .succeeded none externalAckRef key
  | .markUnknownEffect key =>
    transition [.dispatched, .unknownEffect] .unknownEffect none none key
  | .get key => read key

end SqlDedupeStore

/-- `SQLiteDedupeStore`, on the table `dedupe_store`. -/
def SQLiteDedupeStore.perform := SqlDedupeStore.perform

/-- `_SharedConnectionDedupeStore`, on the table `colocated_dedupe_store`. -/
def SharedConnectionDedupeStore.perform := SqlDedupeStore.perform

/-! ## Postgres -/

def WithoutNul (text : String) : Prop := (text.toList.all fun c => c.toNat != 0) = true

instance (text : String) : Decidable (WithoutNul text) :=
  inferInstanceAs (Decidable (_ = true))

namespace PostgresDedupeStore

open Session

def bindText (text : String) : StoreSession Unit :=
  if WithoutNul text then pure () else throw .postgres

def bindTexts (texts : List String) : StoreSession Unit :=
  texts.forM bindText

/-- A number bound to a `BIGINT`. -/
def bindInteger (value : Int) : StoreSession Unit :=
  match PyValue.integerColumn value with
  | .ok _ => pure ()
  | .error _ => throw .postgres

/-- The `INSERT ... ON CONFLICT DO NOTHING RETURNING`. -/
def insert (record : DedupeRecord) : StoreSession (Option String) := do
  bindInteger record.attemptSeq
  bindTexts ([record.dispatchIdempotencyKey, record.operationFingerprint] ++
    record.peerOperationId.toList)
  let connection ← get
  if connection.contents.Taken record.dispatchIdempotencyKey then return none
  else
    set { connection with contents := connection.contents.insertOrReplace record }
    return some record.dispatchIdempotencyKey

def getRow (key : String) : StoreSession (Option DedupeRecord) := do
  bindText key
  return (← get).contents.lookup key

/-- The `UPDATE`. -/
def update (key : String) (state : DedupeState)
    (peerOperationId externalAckRef : Option String) : StoreSession Unit := do
  bindTexts (peerOperationId.toList ++ externalAckRef.toList ++ [key])
  let connection ← get
  set { connection with
    contents := connection.contents.updateAt key (fun _ => true)
      (DedupeStore.overwrite state peerOperationId externalAckRef) }

/-- `_reserve_impl` and `_reserve_and_dispatch_impl`, inside the transaction. -/
def claimBody (envelope : IdempotencyEnvelope) (state : DedupeState)
    (peerOperationId : Option String) : StoreSession StoreAnswer := do
  match ← insert (.of envelope state peerOperationId) with
  | some _ => return .reservation .accepted
  | none =>
    match ← getRow envelope.dispatchIdempotencyKey with
    | some existing => return .reservation (.duplicate existing)
    | none => throw .noRow

/-- `_transition_impl`, inside the transaction. -/
def transitionBody (allowed : List DedupeState) (targetState : DedupeState)
    (peerOperationId externalAckRef : Option String) (key : String) :
    StoreSession StoreAnswer := do
  match ← getRow key with
  | none => throw (.unknownKey key)
  | some row =>
    if row.state ∈ allowed then
      update key targetState (orText peerOperationId row.peerOperationId)
        (orText externalAckRef row.externalAckRef)
      return .done
    else throw (.refused row.state targetState)

/-- `_transition_impl`. -/
def transition (allowed : List DedupeState) (targetState : DedupeState)
    (peerOperationId externalAckRef : Option String) (key : String) :
    StoreSession StoreAnswer :=
  Session.transaction .postgres
    (transitionBody allowed targetState peerOperationId externalAckRef key)

/-- A call of `PostgresDedupeStore`. -/
def perform : StoreRequest → StoreSession StoreAnswer
  | .reserve envelope =>
    Session.transaction .postgres (claimBody envelope .reserved envelope.peerOperationId)
  | .reserveAndDispatch envelope peerOperationId =>
    Session.transaction .postgres
      (claimBody envelope .dispatched (orText peerOperationId envelope.peerOperationId))
  | .markDispatched key peerOperationId =>
    transition [.reserved, .dispatched] .dispatched peerOperationId none key
  | .markAcknowledged key externalAckRef =>
    transition [.dispatched, .acknowledged] .acknowledged none externalAckRef key
  | .markSucceeded key externalAckRef =>
    transition [.acknowledged, .succeeded] .succeeded none externalAckRef key
  | .markUnknownEffect key =>
    transition [.dispatched, .unknownEffect] .unknownEffect none none key
  | .get key => do return .record (← getRow key)

end PostgresDedupeStore

/-! ## Calls -/

/-- A call on a connection: what it answers, and the connection it leaves. -/
def StoreSession.call (session : StoreSession StoreAnswer) (connection : Connection DedupeStore) :
    Except StoreError StoreAnswer × Connection DedupeStore :=
  match session.run connection with
  | .ok answer after => (.ok answer, after)
  | .error error after => (.error error, after)

def StoreRequest.FitsColumn : StoreRequest → Prop
  | .reserve envelope => Succeeds (PyValue.integerColumn envelope.attemptSeq)
  | .reserveAndDispatch envelope _ => Succeeds (PyValue.integerColumn envelope.attemptSeq)
  | _ => True

/-- The texts of the call that go to a database. -/
def StoreRequest.texts : StoreRequest → List String
  | .reserve envelope =>
    [envelope.dispatchIdempotencyKey, envelope.operationFingerprint] ++
      envelope.peerOperationId.toList
  | .reserveAndDispatch envelope peerOperationId =>
    [envelope.dispatchIdempotencyKey, envelope.operationFingerprint] ++
      (orText peerOperationId envelope.peerOperationId).toList
  | .markDispatched key peerOperationId => key :: peerOperationId.toList
  | .markAcknowledged key externalAckRef => key :: externalAckRef.toList
  | .markSucceeded key externalAckRef => key :: externalAckRef.toList
  | .markUnknownEffect key => [key]
  | .get key => [key]

/-! ## SQLite, call by call -/

namespace SqlDedupeStore

open Session

@[simp] theorem run_select (key : String) (connection : Connection DedupeStore) :
    (select key).run connection = .ok (connection.contents.lookup key) connection := rfl

variable (store : DedupeStore)

theorem run_insert (record : DedupeRecord)
    (hfree : store.lookup record.dispatchIdempotencyKey = none) :
    (insert record).run ⟨store, some store⟩ = match PyValue.integerColumn record.attemptSeq with
      | .ok _ => .ok () ⟨store.insertOrReplace record, some store⟩
      | .error error => .error (.sqlite error) ⟨store, some store⟩ := by
  unfold insert
  cases PyValue.integerColumn record.attemptSeq with
  | error error => rfl
  | ok value =>
    dsimp only
    rw [EStateM.run_bind, EStateM.run_get]
    dsimp only
    rw [if_neg (DedupeStore.not_taken_iff.mpr hfree)]
    rfl

theorem run_claimBody (envelope : IdempotencyEnvelope) (state : DedupeState)
    (peer : Option String) : (claimBody envelope state peer).run ⟨store, some store⟩ =
      match store.lookup envelope.dispatchIdempotencyKey with
      | some existing => .ok (.reservation (.duplicate existing)) (.idle store)
      | none =>
        match PyValue.integerColumn envelope.attemptSeq with
        | .ok _ => .ok (.reservation .accepted)
            (.idle (store.insertOrReplace (.of envelope state peer)))
        | .error error => .error (.sqlite error) ⟨store, some store⟩ := by
  unfold claimBody
  rw [EStateM.run_bind, run_select]
  dsimp only
  cases hlookup : store.lookup envelope.dispatchIdempotencyKey with
  | some existing => rfl
  | none =>
    have hattempt : (DedupeRecord.of envelope state peer).attemptSeq = envelope.attemptSeq := rfl
    dsimp only
    rw [EStateM.run_bind, run_insert store _ hlookup, hattempt]
    cases PyValue.integerColumn envelope.attemptSeq <;> rfl

end SqlDedupeStore

/-- A call does what the store in memory does, or has an excuse to raise and does
nothing. -/
def Follows (request : StoreRequest) (store : DedupeStore) (excuse : Prop)
    (outcome : Except StoreError StoreAnswer × Connection DedupeStore) : Prop :=
  outcome = ((InMemoryDedupeStore.perform request store).1,
      .idle (InMemoryDedupeStore.perform request store).2) ∨
    excuse ∧ ∃ error, outcome = (.error error, .idle store)

namespace SqlDedupeStore

open Session

theorem call_claim {guarded : StoreSession StoreAnswer} {envelope : IdempotencyEnvelope}
    {state : DedupeState} {peer : Option String} (store : DedupeStore) (hok : ∀ answer after,
      (claimBody envelope state peer).run ⟨store, some store⟩ = .ok answer after →
        guarded.run ⟨store, some store⟩ = .ok answer after)
    (herror : ∀ error, (claimBody envelope state peer).run ⟨store, some store⟩ =
      .error error ⟨store, some store⟩ →
        guarded.run ⟨store, some store⟩ = .error error (.idle store)) :
    StoreSession.call (do start misuse; guarded) (.idle store) =
        ((InMemoryDedupeStore.claim envelope state peer store).1,
          .idle (InMemoryDedupeStore.claim envelope state peer store).2) ∨
      ¬ Succeeds (PyValue.integerColumn envelope.attemptSeq) ∧
        ∃ error, StoreSession.call (do start misuse; guarded) (.idle store) =
          (.error error, .idle store) := by
  have hbody := run_claimBody store envelope state peer
  unfold StoreSession.call InMemoryDedupeStore.claim
  rw [EStateM.run_bind, run_start_idle]
  dsimp only
  cases hlookup : store.lookup envelope.dispatchIdempotencyKey with
  | some existing =>
    rw [hlookup] at hbody
    rw [hok _ _ hbody]
    exact .inl rfl
  | none =>
    cases hattempt : PyValue.integerColumn envelope.attemptSeq with
    | ok value =>
      rw [hlookup, hattempt] at hbody
      rw [hok _ _ hbody]
      exact .inl rfl
    | error error =>
      rw [hlookup, hattempt] at hbody
      rw [herror _ hbody]
      exact .inr ⟨not_succeeds_error error, _, rfl⟩

theorem call_reserve (envelope : IdempotencyEnvelope) (store : DedupeStore) :
    Follows (.reserve envelope) store (¬ (StoreRequest.reserve envelope).FitsColumn)
      (StoreSession.call (reserve envelope) (.idle store)) :=
  call_claim store (fun _ _ => run_rollingBack_of_ok) fun _ => run_rollingBack_of_error

theorem call_reserveAndDispatch (envelope : IdempotencyEnvelope) (peer : Option String)
    (store : DedupeStore) : Follows (.reserveAndDispatch envelope peer) store
      (¬ (StoreRequest.reserveAndDispatch envelope peer).FitsColumn)
      (StoreSession.call (reserveAndDispatch envelope peer) (.idle store)) :=
  call_claim store (fun _ _ => run_rollingBackQuietly_of_ok)
    fun _ => run_rollingBackQuietly_of_error

variable {store : DedupeStore} {key : String} {record : DedupeRecord}

theorem run_updateState (state : DedupeState) (peer ack : Option String)
    (hlookup : store.lookup key = some record) :
    (updateState key state peer ack).run ⟨store, some store⟩ =
      .ok () ⟨store.updateAt key (fun _ => true) (DedupeStore.overwrite state peer ack),
        some store⟩ := by
  have htaken : store.Taken key := DedupeStore.taken_iff.mpr ⟨record, hlookup⟩
  have hupdate : (update key state peer ack).run ⟨store, some store⟩ =
      .ok 1 ⟨store.updateAt key (fun _ => true) (DedupeStore.overwrite state peer ack),
        some store⟩ := by
    unfold update
    rw [EStateM.run_bind, EStateM.run_get]
    dsimp only
    rw [if_pos htaken]
    rfl
  rw [updateState, EStateM.run_bind, hupdate]
  rfl

/-- With the old texts put in for nulls it is the move in memory. -/
theorem updateAt_overwrite (state : DedupeState) (peer ack : Option String)
    (hlookup : store.lookup key = some record) :
    store.updateAt key (fun _ => true) (DedupeStore.overwrite state
        (orText peer record.peerOperationId) (orText ack record.externalAckRef)) =
      store.updateAt key (fun _ => true) (DedupeStore.move state peer ack) := by
  refine Table.updateAt_congr fun row hrow => ?_
  obtain rfl := Option.some.inj (hlookup.symm.trans hrow)
  rfl

theorem call_transition (allowed : List DedupeState) (state : DedupeState)
    (peer ack : Option String) (key : String) (store : DedupeStore) :
    StoreSession.call (transition allowed state peer ack key) (.idle store) =
      ((InMemoryDedupeStore.transition allowed state peer ack key store).1,
        .idle (InMemoryDedupeStore.transition allowed state peer ack key store).2) := by
  -- how the `try` ends is how the method ends
  have hbody : ∀ result, (transitionBody allowed state peer ack key).run
      ⟨store, some store⟩ = result → (do start misuse; transitionBody allowed state peer ack key :
          StoreSession StoreAnswer).run (.idle store) = result := by
    rintro _ rfl
    rfl
  unfold StoreSession.call transition InMemoryDedupeStore.transition
  cases hlookup : store.lookup key with
  | none =>
    have hraises : (transitionBody allowed state peer ack key).run ⟨store, some store⟩ =
        .error (.unknownKey key) ⟨store, some store⟩ := by
      rw [transitionBody, EStateM.run_bind, getRequiredRecord, EStateM.run_bind, run_select]
      dsimp only
      rw [hlookup]
      rfl
    rw [run_rollingBackQuietly_of_error (hbody _ hraises)]
  | some record =>
    have hrecord : (getRequiredRecord key).run ⟨store, some store⟩ =
        .ok record ⟨store, some store⟩ := by
      rw [getRequiredRecord, EStateM.run_bind, run_select]
      dsimp only
      rw [hlookup]
      rfl
    dsimp only
    by_cases hallowed : record.state ∈ allowed
    · have hreturns : (transitionBody allowed state peer ack key).run ⟨store, some store⟩ =
          .ok .done (.idle (store.updateAt key (fun _ => true)
            (DedupeStore.move state peer ack))) := by
        rw [transitionBody, EStateM.run_bind, hrecord]
        dsimp only
        rw [if_pos hallowed, EStateM.run_bind, run_updateState _ _ _ hlookup,
          updateAt_overwrite _ _ _ hlookup]
        rfl
      rw [run_rollingBackQuietly_of_ok (hbody _ hreturns), if_pos hallowed]
    · have hraises : (transitionBody allowed state peer ack key).run ⟨store, some store⟩ =
          .error (.refused record.state state) ⟨store, some store⟩ := by
        rw [transitionBody, EStateM.run_bind, hrecord]
        dsimp only
        rw [if_neg hallowed]
        rfl
      rw [run_rollingBackQuietly_of_error (hbody _ hraises), if_neg hallowed]

theorem call_perform (request : StoreRequest) (store : DedupeStore) :
    Follows request store (¬ request.FitsColumn)
      (StoreSession.call (perform request) (.idle store)) := by
  cases request with
  | reserve envelope => exact call_reserve envelope store
  | reserveAndDispatch envelope peer => exact call_reserveAndDispatch envelope peer store
  | markDispatched key peer => exact .inl (call_transition _ _ _ _ key store)
  | markAcknowledged key ack => exact .inl (call_transition _ _ _ _ key store)
  | markSucceeded key ack => exact .inl (call_transition _ _ _ _ key store)
  | markUnknownEffect key => exact .inl (call_transition _ _ _ _ key store)
  | get key => exact .inl rfl

end SqlDedupeStore

/-! ## Postgres, call by call -/

def Clean (store : DedupeStore) : Prop :=
  ∀ key record, store.lookup key = some record →
    ∀ text ∈ record.peerOperationId.toList ++ record.externalAckRef.toList, WithoutNul text

def StoreRequest.Plain (request : StoreRequest) : Prop :=
  request.FitsColumn ∧ ∀ text ∈ request.texts, WithoutNul text

namespace PostgresDedupeStore

open Session

variable {connection : Connection DedupeStore}

theorem run_bindText (text : String) : (bindText text).run connection =
      if WithoutNul text then .ok () connection else .error .postgres connection := by
  unfold bindText
  split <;> rfl

theorem run_bindTexts (texts : List String) : (bindTexts texts).run connection =
      if ∀ text ∈ texts, WithoutNul text then .ok () connection
      else .error .postgres connection := by
  induction texts with
  | nil => exact (if_pos (forall_mem_nil _)).symm
  | cons text rest ih =>
    change (do bindText text; bindTexts rest : StoreSession Unit).run connection = _
    rw [EStateM.run_bind, run_bindText]
    by_cases htext : WithoutNul text
    · rw [if_pos htext]
      dsimp only
      rw [ih]
      simp [htext]
    · rw [if_neg htext, if_neg fun h => htext (h text mem_cons_self)]

theorem run_bindInteger (value : Int) : (bindInteger value).run connection =
      if Succeeds (PyValue.integerColumn value) then .ok () connection
      else .error .postgres connection := by
  unfold bindInteger
  cases hvalue : PyValue.integerColumn value with
  | ok column => rw [if_pos ⟨column, rfl⟩]; rfl
  | error error => rw [if_neg (not_succeeds_error error)]; rfl

def Bindable (record : DedupeRecord) : Prop :=
  Succeeds (PyValue.integerColumn record.attemptSeq) ∧
    ∀ text ∈ [record.dispatchIdempotencyKey, record.operationFingerprint] ++
      record.peerOperationId.toList, WithoutNul text

variable {record : DedupeRecord}

theorem run_insert_of_not_bindable (h : ¬ Bindable record) :
    (insert record).run connection = .error .postgres connection := by
  rw [insert, EStateM.run_bind, run_bindInteger]
  by_cases hattempt : Succeeds (PyValue.integerColumn record.attemptSeq)
  · rw [if_pos hattempt]
    dsimp only
    rw [EStateM.run_bind, run_bindTexts, if_neg fun htexts => h ⟨hattempt, htexts⟩]
  · rw [if_neg hattempt]

theorem run_insert (h : Bindable record) (store : DedupeStore) :
    (insert record).run ⟨store, some store⟩ =
      if store.Taken record.dispatchIdempotencyKey then .ok none ⟨store, some store⟩
      else .ok (some record.dispatchIdempotencyKey) ⟨store.insertOrReplace record, some store⟩ := by
  rw [insert, EStateM.run_bind, run_bindInteger, if_pos h.1]
  dsimp only
  rw [EStateM.run_bind, run_bindTexts, if_pos h.2]
  dsimp only
  rw [EStateM.run_bind, EStateM.run_get]
  dsimp only
  split <;> rfl

theorem run_getRow {key : String} (h : WithoutNul key) :
    (getRow key).run connection = .ok (connection.contents.lookup key) connection := by
  rw [getRow, EStateM.run_bind, run_bindText, if_pos h]
  rfl

theorem run_getRow_of_nul {key : String} (h : ¬ WithoutNul key) :
    (getRow key).run connection = .error .postgres connection := by
  rw [getRow, EStateM.run_bind, run_bindText, if_neg h]

theorem call_claim (envelope : IdempotencyEnvelope) (state : DedupeState)
    (peer : Option String) (store : DedupeStore) :
    StoreSession.call (transaction .postgres (claimBody envelope state peer)) (.idle store) =
        ((InMemoryDedupeStore.claim envelope state peer store).1,
          .idle (InMemoryDedupeStore.claim envelope state peer store).2) ∨
      ¬ Bindable (.of envelope state peer) ∧ ∃ error,
        StoreSession.call (transaction .postgres (claimBody envelope state peer))
          (.idle store) = (.error error, .idle store) := by
  unfold StoreSession.call InMemoryDedupeStore.claim
  by_cases hbind : Bindable (.of envelope state peer)
  · refine .inl ?_
    have hkey : WithoutNul envelope.dispatchIdempotencyKey :=
      hbind.2 envelope.dispatchIdempotencyKey (mem_append_left _ mem_cons_self)
    have hinsert := run_insert hbind store
    have hrecord : (DedupeRecord.of envelope state peer).dispatchIdempotencyKey =
        envelope.dispatchIdempotencyKey := rfl
    rw [hrecord] at hinsert
    cases hlookup : store.lookup envelope.dispatchIdempotencyKey with
    | some existing =>
      have hbody : (claimBody envelope state peer).run ⟨store, some store⟩ =
          .ok (.reservation (.duplicate existing)) ⟨store, some store⟩ := by
        rw [claimBody, EStateM.run_bind, hinsert,
          if_pos (DedupeStore.taken_iff.mpr ⟨existing, hlookup⟩)]
        dsimp only
        rw [EStateM.run_bind, run_getRow hkey]
        dsimp only
        rw [hlookup]
        rfl
      rw [run_transaction_of_ok hbody]
    | none =>
      have hbody : (claimBody envelope state peer).run ⟨store, some store⟩ =
          .ok (.reservation .accepted)
            ⟨store.insertOrReplace (.of envelope state peer), some store⟩ := by
        rw [claimBody, EStateM.run_bind, hinsert, if_neg (DedupeStore.not_taken_iff.mpr hlookup)]
        rfl
      rw [run_transaction_of_ok hbody]
  · refine .inr ⟨hbind, .postgres, ?_⟩
    have hbody : (claimBody envelope state peer).run ⟨store, some store⟩ =
        .error .postgres ⟨store, some store⟩ := by
      rw [claimBody, EStateM.run_bind, run_insert_of_not_bindable hbind]
    rw [run_transaction_of_error hbody]

theorem mem_orText {first second : Option String} {text : String}
    (h : text ∈ (orText first second).toList) : text ∈ first.toList ++ second.toList := by
  unfold orText at h
  rw [mem_append]
  cases first with
  | none => exact .inr h
  | some given =>
    dsimp only at h
    split at h
    · exact .inr h
    · exact .inl h

theorem run_update (key : String) (state : DedupeState) (peer ack : Option String)
    (store : DedupeStore) : (update key state peer ack).run ⟨store, some store⟩ =
      if ∀ text ∈ peer.toList ++ ack.toList ++ [key], WithoutNul text then
        .ok () ⟨store.updateAt key (fun _ => true) (DedupeStore.overwrite state peer ack),
          some store⟩ else .error .postgres ⟨store, some store⟩ := by
  rw [update, EStateM.run_bind, run_bindTexts]
  by_cases htexts : ∀ text ∈ peer.toList ++ ack.toList ++ [key], WithoutNul text
  · rw [if_pos htexts, if_pos htexts]
    rfl
  · rw [if_neg htexts, if_neg htexts]

def bound (peer ack : Option String) (key : String) (record : DedupeRecord) : List String :=
  (orText peer record.peerOperationId).toList ++ (orText ack record.externalAckRef).toList ++ [key]

theorem withoutNul_of_mem_bound {peer ack : Option String} {key text : String}
    {store : DedupeStore} (hlookup : store.lookup key = some record)
    (hclean : Clean store) (hgiven : ∀ text ∈ key :: (peer.toList ++ ack.toList), WithoutNul text)
    (htext : text ∈ bound peer ack key record) : WithoutNul text := by
  have hstored := hclean key record hlookup
  simp only [mem_cons, mem_append] at hgiven hstored
  rcases mem_append.mp htext with href | hself
  · rcases mem_append.mp href with hpeer | hack
    · rcases mem_append.mp (mem_orText hpeer) with h | h
      · exact hgiven text (.inr (.inl h))
      · exact hstored text (.inl h)
    · rcases mem_append.mp (mem_orText hack) with h | h
      · exact hgiven text (.inr (.inr h))
      · exact hstored text (.inr h)
  · exact hgiven text (.inl (mem_singleton.mp hself))

theorem run_transitionBody (allowed : List DedupeState) (state : DedupeState)
    (peer ack : Option String) {key : String} (hkey : WithoutNul key) (store : DedupeStore) :
    (transitionBody allowed state peer ack key).run ⟨store, some store⟩ =
      match store.lookup key with
      | none => .error (.unknownKey key) ⟨store, some store⟩
      | some record =>
        if record.state ∈ allowed then
          if ∀ text ∈ bound peer ack key record, WithoutNul text then
            .ok .done ⟨store.updateAt key (fun _ => true)
              (DedupeStore.move state peer ack), some store⟩
          else .error .postgres ⟨store, some store⟩
        else .error (.refused record.state state) ⟨store, some store⟩ := by
  rw [transitionBody, EStateM.run_bind, run_getRow hkey]
  dsimp only
  cases hlookup : store.lookup key with
  | none => rfl
  | some record =>
    dsimp only
    split
    · rw [EStateM.run_bind, run_update, SqlDedupeStore.updateAt_overwrite _ _ _ hlookup]
      unfold bound
      by_cases htexts : ∀ text ∈ (orText peer record.peerOperationId).toList ++
          (orText ack record.externalAckRef).toList ++ [key], WithoutNul text
      · rw [if_pos htexts, if_pos htexts]
        rfl
      · rw [if_neg htexts, if_neg htexts]
    · rfl

theorem call_transition (allowed : List DedupeState) (state : DedupeState)
    (peer ack : Option String) (key : String) (store : DedupeStore) :
    StoreSession.call (transition allowed state peer ack key) (.idle store) =
        ((InMemoryDedupeStore.transition allowed state peer ack key store).1,
          .idle (InMemoryDedupeStore.transition allowed state peer ack key store).2) ∨
      ¬ ((∀ text ∈ key :: (peer.toList ++ ack.toList), WithoutNul text) ∧ Clean store) ∧
        ∃ error, StoreSession.call (transition allowed state peer ack key) (.idle store) =
          (.error error, .idle store) := by
  unfold StoreSession.call InMemoryDedupeStore.transition transition
  by_cases hkey : WithoutNul key
  · have hbody := run_transitionBody allowed state peer ack hkey store
    cases hlookup : store.lookup key with
    | none =>
      rw [hlookup] at hbody
      rw [run_transaction_of_error hbody]
      exact .inl rfl
    | some record =>
      rw [hlookup] at hbody
      dsimp only at hbody ⊢
      by_cases hallowed : record.state ∈ allowed
      · rw [if_pos hallowed] at hbody ⊢
        by_cases htexts : ∀ text ∈ bound peer ack key record, WithoutNul text
        · rw [if_pos htexts] at hbody
          rw [run_transaction_of_ok hbody]
          exact .inl rfl
        · rw [if_neg htexts] at hbody
          rw [run_transaction_of_error hbody]
          refine .inr ⟨fun hplain => htexts fun text htext => ?_, _, rfl⟩
          exact withoutNul_of_mem_bound hlookup hplain.2 hplain.1 htext
      · rw [if_neg hallowed] at hbody ⊢
        rw [run_transaction_of_error hbody]
        exact .inl rfl
  · have hbody : (transitionBody allowed state peer ack key).run ⟨store, some store⟩ =
        .error .postgres ⟨store, some store⟩ := by
      rw [transitionBody, EStateM.run_bind, run_getRow_of_nul hkey]
    rw [run_transaction_of_error hbody]
    exact .inr ⟨fun hplain => hkey (hplain.1 key mem_cons_self), _, rfl⟩

theorem follows_transition {request : StoreRequest} (allowed : List DedupeState)
    (state : DedupeState) (peer ack : Option String) (key : String) (store : DedupeStore)
    (htexts : request.texts = key :: (peer.toList ++ ack.toList)) :
    StoreSession.call (transition allowed state peer ack key) (.idle store) =
        ((InMemoryDedupeStore.transition allowed state peer ack key store).1,
          .idle (InMemoryDedupeStore.transition allowed state peer ack key store).2) ∨
      ¬ (request.Plain ∧ Clean store) ∧
        ∃ error, StoreSession.call (transition allowed state peer ack key) (.idle store) =
          (.error error, .idle store) := by
  refine (call_transition allowed state peer ack key store).imp id fun h => ⟨?_, h.2⟩
  rintro ⟨hplain, hclean⟩
  exact h.1 ⟨htexts ▸ hplain.2, hclean⟩

theorem call_perform (request : StoreRequest) (store : DedupeStore) :
    Follows request store (¬ (request.Plain ∧ Clean store))
      (StoreSession.call (perform request) (.idle store)) := by
  have hclaim : ∀ envelope state peer, request.Plain → request.FitsColumn =
      Succeeds (PyValue.integerColumn envelope.attemptSeq) →
        request.texts = [envelope.dispatchIdempotencyKey, envelope.operationFingerprint] ++
          Option.toList peer → Bindable (.of envelope state peer) := by
    intro envelope state peer hplain hfits htexts
    exact ⟨hfits ▸ hplain.1, htexts ▸ hplain.2⟩
  cases request with
  | reserve envelope | reserveAndDispatch envelope _ =>
    refine (call_claim envelope _ _ store).imp id fun h => ⟨fun hand => h.1 ?_, h.2⟩
    exact hclaim envelope _ _ hand.1 rfl rfl
  | markDispatched key peer =>
    exact follows_transition _ _ _ _ key store (congrArg (key :: ·) (append_nil peer.toList).symm)
  | markAcknowledged key ack => exact follows_transition _ _ _ _ key store rfl
  | markSucceeded key ack => exact follows_transition _ _ _ _ key store rfl
  | markUnknownEffect key => exact follows_transition _ _ _ _ key store rfl
  | get key =>
    by_cases hkey : WithoutNul key
    · refine .inl ?_
      unfold StoreSession.call perform
      rw [EStateM.run_bind, run_getRow hkey]
      rfl
    · refine .inr ⟨fun hand => hkey (hand.1.2 key mem_cons_self), .postgres, ?_⟩
      unfold StoreSession.call perform
      rw [EStateM.run_bind, run_getRow_of_nul hkey]

end PostgresDedupeStore

end HiAgent.Kernel
