/-
  Kernel/DedupeStore.lean --- the ledger of dispatches.

  `InMemoryDedupeStore` of `agent_kernel/kernel/dedupe_store.py`: records keyed by the
  idempotency key of a dispatch, with the operation of a peer and the acknowledgement of a
  service. The SQLite store (`persistence/sqlite_dedupe_store.py`, one `BEGIN IMMEDIATE`
  transaction a call) agrees on the methods `TurnEngine` calls. A call either answers or
  raises `DedupeStoreStateError`.
-/
import HiAgent.Foundation.PyValue
import HiAgent.Foundation.Table

namespace HiAgent.Kernel

open Foundation

/-! ## Records -/

inductive DedupeState where
  | reserved
  | dispatched
  | acknowledged
  | succeeded
  | unknownEffect
  deriving DecidableEq

namespace DedupeState

/-- The text of a state. -/
def value : DedupeState → String
  | reserved => "reserved"
  | dispatched => "dispatched"
  | acknowledged => "acknowledged"
  | succeeded => "succeeded"
  | unknownEffect => "unknown_effect"

end DedupeState

inductive HostKind where
  | localProcess
  | localCli
  | cliProcess
  | inProcessPython
  | remoteService
  deriving DecidableEq

structure IdempotencyEnvelope where
  dispatchIdempotencyKey : String
  operationFingerprint : String
  attemptSeq : Int
  effectScope : String
  capabilitySnapshotHash : String
  hostKind : HostKind
  peerOperationId : Option String
  policySnapshotRef : Option String
  ruleBundleHash : Option String

structure DedupeRecord where
  dispatchIdempotencyKey : String
  operationFingerprint : String
  attemptSeq : Int
  state : DedupeState
  peerOperationId : Option String
  externalAckRef : Option String
  deriving DecidableEq

/-- `DedupeReservation`: accepted, or a duplicate of the record it carries. -/
inductive DedupeReservation where
  | accepted
  | duplicate (existing : DedupeRecord)
  deriving DecidableEq

abbrev DedupeStore := Table DedupeRecord.dispatchIdempotencyKey

/-- `first or second`, for texts that may be missing. -/
def orText (first second : Option String) : Option String :=
  match first with
  | some text => if text = "" then second else some text
  | none => second

namespace DedupeStore

/-! ## Methods -/

def Taken (store : DedupeStore) (key : String) : Prop :=
  (store.lookup key).isSome = true

instance (store : DedupeStore) (key : String) : Decidable (store.Taken key) :=
  inferInstanceAs (Decidable (_ = true))

def get (key : String) (store : DedupeStore) : Except String (Option DedupeRecord) × DedupeStore :=
  (.ok (store.lookup key), store)

def reserveAndDispatch (envelope : IdempotencyEnvelope)
    (peerOperationId : Option String) (store : DedupeStore) :
    Except String DedupeReservation × DedupeStore :=
  match store.lookup envelope.dispatchIdempotencyKey with
  | some existing => (.ok (.duplicate existing), store)
  | none =>
    (.ok .accepted, store.insertOrReplace {
      dispatchIdempotencyKey := envelope.dispatchIdempotencyKey
      operationFingerprint := envelope.operationFingerprint
      attemptSeq := envelope.attemptSeq
      state := .dispatched
      peerOperationId := orText peerOperationId envelope.peerOperationId
      externalAckRef := none })

def enter (state : DedupeState) : Assignment DedupeRecord.dispatchIdempotencyKey where
  set record := { record with state := state }
  keeps _ := rfl

/-- A `mark_*` method: the record must exist and be in one of the states `from_`. -/
def mark (from_ : List DedupeState) (state : DedupeState) (key : String)
    (store : DedupeStore) : Except String Unit × DedupeStore :=
  match store.lookup key with
  | none => (.error ("Unknown dispatch_idempotency_key: " ++ key ++ "."), store)
  | some record =>
    if record.state ∈ from_ then
      (.ok (), store.updateAt key (fun _ => true) (enter state))
    else
      (.error ("Cannot transition " ++ record.state.value ++ " -> " ++ state.value ++ "."), store)

/-- `mark_acknowledged`, without an acknowledgement reference. -/
def markAcknowledged : String → DedupeStore → Except String Unit × DedupeStore :=
  mark [.dispatched, .acknowledged] .acknowledged

def markUnknownEffect : String → DedupeStore → Except String Unit × DedupeStore :=
  mark [.dispatched, .unknownEffect] .unknownEffect

/-! ## Which keys are taken -/

variable {store : DedupeStore} {key : String}

theorem taken_iff : store.Taken key ↔ ∃ record, store.lookup key = some record :=
  Option.isSome_iff_exists

theorem not_taken_iff : ¬ store.Taken key ↔ store.lookup key = none := by
  simp [Taken]

variable {envelope : IdempotencyEnvelope}

theorem reserveAndDispatch_of_free {peer : Option String}
    (h : ¬ store.Taken envelope.dispatchIdempotencyKey) :
    (reserveAndDispatch envelope peer store).1 = .ok .accepted := by
  simp [reserveAndDispatch, not_taken_iff.mp h]

theorem reserveAndDispatch_of_taken (peer : Option String)
    (h : store.Taken envelope.dispatchIdempotencyKey) :
    ∃ existing, reserveAndDispatch envelope peer store = (.ok (.duplicate existing), store) := by
  obtain ⟨existing, hthere⟩ := taken_iff.mp h
  exact ⟨existing, by simp [reserveAndDispatch, hthere]⟩

theorem taken_reserveAndDispatch_iff {peer : Option String} :
    (reserveAndDispatch envelope peer store).2.Taken key ↔
      store.Taken key ∨ key = envelope.dispatchIdempotencyKey := by
  unfold reserveAndDispatch
  cases hlookup : store.lookup envelope.dispatchIdempotencyKey with
  | some existing =>
    refine ⟨Or.inl, ?_⟩
    rintro (h | rfl)
    · exact h
    · exact taken_iff.mpr ⟨existing, hlookup⟩
  | none =>
    rw [Taken, Table.lookup_insertOrReplace]
    split
    · rename_i hkey
      exact iff_of_true rfl (Or.inr hkey)
    · rename_i hkey
      exact ⟨Or.inl, fun h => h.resolve_right hkey⟩

theorem taken_mark_iff {from_ : List DedupeState} {state : DedupeState} {marked key : String} :
    (mark from_ state marked store).2.Taken key ↔ store.Taken key := by
  unfold mark
  cases hlookup : store.lookup marked with
  | none => exact Iff.rfl
  | some record =>
    dsimp only
    by_cases hstate : record.state ∈ from_
    · rw [if_pos hstate, Taken, Table.lookup_updateAt]
      split
      · rename_i hkey
        subst hkey
        simp [Taken, hlookup]
      · exact Iff.rfl
    · rw [if_neg hstate]

/-! ## The state of a record -/

def state (store : DedupeStore) (key : String) : Option DedupeState :=
  (store.lookup key).map DedupeRecord.state

theorem state_eq_none_iff : store.state key = none ↔ ¬ store.Taken key := by
  rw [state, Option.map_eq_none_iff, not_taken_iff]

theorem state_reserveAndDispatch (store : DedupeStore) (envelope : IdempotencyEnvelope)
    (peer : Option String) (key : String) : (reserveAndDispatch envelope peer store).2.state key =
      if key = envelope.dispatchIdempotencyKey ∧ store.state key = none then some .dispatched
      else store.state key := by
  unfold reserveAndDispatch
  cases hlookup : store.lookup envelope.dispatchIdempotencyKey with
  | some existing =>
    dsimp only
    rw [if_neg]
    rintro ⟨rfl, hnone⟩
    rw [state, hlookup] at hnone
    cases hnone
  | none =>
    dsimp only
    rw [state, Table.lookup_insertOrReplace]
    by_cases hkey : key = envelope.dispatchIdempotencyKey
    · subst hkey
      rw [if_pos rfl, if_pos ⟨rfl, by rw [state, hlookup]; rfl⟩]
      rfl
    · rw [if_neg hkey, if_neg fun h => hkey h.1]
      rfl

/-- A mark moves its own record alone. -/
theorem state_mark (from_ : List DedupeState) (next : DedupeState) (store : DedupeStore)
    (marked key : String) : (mark from_ next marked store).2.state key =
      if key = marked ∧ (store.state key).any (· ∈ from_) = true then some next
      else store.state key := by
  unfold mark
  cases hlookup : store.lookup marked with
  | none =>
    dsimp only
    rw [if_neg]
    rintro ⟨rfl, hany⟩
    rw [state, hlookup] at hany
    cases hany
  | some record =>
    dsimp only
    have hstate : store.state marked = some record.state := by
      rw [state, hlookup]
      rfl
    by_cases hfrom : record.state ∈ from_
    · rw [if_pos hfrom, state, Table.lookup_updateAt]
      by_cases hkey : key = marked
      · subst hkey
        rw [if_pos rfl, hlookup, if_pos ⟨rfl, by simp [hstate, hfrom]⟩]
        rfl
      · rw [if_neg hkey, if_neg fun h => hkey h.1]
        rfl
    · rw [if_neg hfrom, if_neg]
      rintro ⟨rfl, hany⟩
      rw [hstate] at hany
      exact hfrom (by simpa using hany)

theorem mark_fst_iff {from_ : List DedupeState} {next : DedupeState}
    {marked : String} : (mark from_ next marked store).1 = .ok () ↔
      (store.state marked).any (· ∈ from_) = true := by
  unfold mark
  cases hlookup : store.lookup marked with
  | none => simp [state, hlookup]
  | some record =>
    dsimp only
    by_cases hfrom : record.state ∈ from_
    · simp [state, hlookup, hfrom]
    · simp [state, hlookup, hfrom]

end DedupeStore

/-! ## Calls -/

/-- How a call of the store ends: as the method says, or with an exception, before
or after the method has had its effect. -/
inductive StoreCall where
  | returns
  | raises (error : String) (applied : Bool)
  deriving DecidableEq

namespace StoreCall

def applies : StoreCall → Bool
  | returns => true
  | raises _ applied => applied

/-- What a caller gets from a method, and the store it leaves. -/
def perform {α : Type} (call : StoreCall)
    (method : DedupeStore → Except String α × DedupeStore) (store : DedupeStore) :
    Except String α × DedupeStore :=
  match call with
  | returns => method store
  | raises error applied =>
    (.error error, if applied then (method store).2 else store)

@[simp] theorem perform_returns {α : Type}
    (method : DedupeStore → Except String α × DedupeStore) (store : DedupeStore) :
    returns.perform method store = method store := rfl

theorem perform_snd {α : Type} (call : StoreCall)
    (method : DedupeStore → Except String α × DedupeStore) (store : DedupeStore) :
    (call.perform method store).2 = if call.applies then (method store).2 else store := by
  cases call with
  | returns => rfl
  | raises error applied => rfl

theorem taken_perform {α : Type} {call : StoreCall}
    {method : DedupeStore → Except String α × DedupeStore} {store : DedupeStore}
    {key : String} (hmethod : store.Taken key → (method store).2.Taken key)
    (h : store.Taken key) : (call.perform method store).2.Taken key := by
  cases call with
  | returns => exact hmethod h
  | raises error applied =>
    cases applied with
    | true => exact hmethod h
    | false => exact h

end StoreCall

open List

/-! ## Calls and answers -/

/-- What a method of a store raises. -/
inductive StoreError where
  /-- `DedupeStoreStateError` of a key without a record. -/
  | unknownKey (key : String)
  /-- `DedupeStoreStateError` of a transition that is not allowed. -/
  | refused (current target : DedupeState)
  /-- `DedupeStoreStateError` of an update that finds no row. -/
  | lostUpdate (key : String)
  /-- An exception of `sqlite3`, or of the binding of a parameter. -/
  | sqlite (error : Raised)
  /-- `asyncpg.DataError`, and what the server makes of a text it does not store. -/
  | postgres
  /-- An attribute of a row that is not there. -/
  | noRow
  deriving DecidableEq

namespace StoreError

/-- The exception is a `DedupeStoreStateError`. -/
def isStateError : StoreError → Bool
  | unknownKey _ => true
  | refused _ _ => true
  | lostUpdate _ => true
  | _ => false

/-- The text of the two exceptions the store in memory raises. -/
def message : StoreError → String
  | unknownKey key => "Unknown dispatch_idempotency_key: " ++ key ++ "."
  | refused current target =>
    "Cannot transition " ++ current.value ++ " -> " ++ target.value ++ "."
  | _ => ""

end StoreError

/-- A call of a store. -/
inductive StoreRequest where
  | reserve (envelope : IdempotencyEnvelope)
  | reserveAndDispatch (envelope : IdempotencyEnvelope) (peerOperationId : Option String)
  | markDispatched (key : String) (peerOperationId : Option String)
  | markAcknowledged (key : String) (externalAckRef : Option String)
  | markSucceeded (key : String) (externalAckRef : Option String)
  | markUnknownEffect (key : String)
  | get (key : String)

/-- What a call of a store returns. -/
inductive StoreAnswer where
  | reservation (reservation : DedupeReservation)
  | done
  | record (record : Option DedupeRecord)
  deriving DecidableEq

/-- The record a reservation makes. -/
def DedupeRecord.of (envelope : IdempotencyEnvelope) (state : DedupeState)
    (peerOperationId : Option String) : DedupeRecord where
  dispatchIdempotencyKey := envelope.dispatchIdempotencyKey
  operationFingerprint := envelope.operationFingerprint
  attemptSeq := envelope.attemptSeq
  state := state
  peerOperationId := peerOperationId
  externalAckRef := none

/-- The record with what a transition writes. -/
def DedupeRecord.moved (state : DedupeState) (peerOperationId externalAckRef : Option String)
    (record : DedupeRecord) : DedupeRecord :=
  { record with
    state := state
    peerOperationId := orText peerOperationId record.peerOperationId
    externalAckRef := orText externalAckRef record.externalAckRef }

/-- `moved`, as the right-hand sides of an update. -/
def DedupeStore.move (state : DedupeState) (peerOperationId externalAckRef : Option String) :
    Assignment DedupeRecord.dispatchIdempotencyKey :=
  ⟨DedupeRecord.moved state peerOperationId externalAckRef, fun _ => rfl⟩

/-! ## The store in memory -/

namespace InMemoryDedupeStore

/-- `reserve` and `reserve_and_dispatch`: a new record, if the key has none. -/
def claim (envelope : IdempotencyEnvelope) (state : DedupeState)
    (peerOperationId : Option String) (store : DedupeStore) :
    Except StoreError StoreAnswer × DedupeStore :=
  match store.lookup envelope.dispatchIdempotencyKey with
  | some existing => (.ok (.reservation (.duplicate existing)), store)
  | none =>
    (.ok (.reservation .accepted), store.insertOrReplace (.of envelope state peerOperationId))

/-- A `mark_*` method. -/
def transition (allowed : List DedupeState) (state : DedupeState)
    (peerOperationId externalAckRef : Option String) (key : String) (store : DedupeStore) :
    Except StoreError StoreAnswer × DedupeStore :=
  match store.lookup key with
  | none => (.error (.unknownKey key), store)
  | some record =>
    if record.state ∈ allowed then
      (.ok .done, store.updateAt key (fun _ => true)
        (DedupeStore.move state peerOperationId externalAckRef))
    else (.error (.refused record.state state), store)

def reserve (envelope : IdempotencyEnvelope) :=
  claim envelope .reserved envelope.peerOperationId

def reserveAndDispatch (envelope : IdempotencyEnvelope) (peerOperationId : Option String) :=
  claim envelope .dispatched (orText peerOperationId envelope.peerOperationId)

def markDispatched (key : String) (peerOperationId : Option String) :=
  transition [.reserved, .dispatched] .dispatched peerOperationId none key

def markAcknowledged (key : String) (externalAckRef : Option String) :=
  transition [.dispatched, .acknowledged] .acknowledged none externalAckRef key

def markSucceeded (key : String) (externalAckRef : Option String) :=
  transition [.acknowledged, .succeeded] .succeeded none externalAckRef key

def markUnknownEffect (key : String) :=
  transition [.dispatched, .unknownEffect] .unknownEffect none none key

def get (key : String) (store : DedupeStore) : Except StoreError StoreAnswer × DedupeStore :=
  (.ok (.record (store.lookup key)), store)

/-- A call of the store. -/
def perform : StoreRequest → DedupeStore → Except StoreError StoreAnswer × DedupeStore
  | .reserve envelope => reserve envelope
  | .reserveAndDispatch envelope peerOperationId =>
    reserveAndDispatch envelope peerOperationId
  | .markDispatched key peerOperationId => markDispatched key peerOperationId
  | .markAcknowledged key externalAckRef => markAcknowledged key externalAckRef
  | .markSucceeded key externalAckRef => markSucceeded key externalAckRef
  | .markUnknownEffect key => markUnknownEffect key
  | .get key => get key

/-! ## The methods the turn engine calls -/

variable (store : DedupeStore) (key : String)

theorem mark_eq (allowed : List DedupeState) (state : DedupeState) :
    DedupeStore.mark allowed state key store =
      (((transition allowed state none none key store).1.map fun _ => ()).mapError
        StoreError.message, (transition allowed state none none key store).2) := by
  unfold DedupeStore.mark transition
  cases store.lookup key with
  | none => rfl
  | some record =>
    dsimp only
    split
    · exact Prod.ext rfl rfl
    · rfl

theorem taken_transition_iff (allowed : List DedupeState) (state : DedupeState) (marked : String) :
    (transition allowed state none none marked store).2.Taken key ↔ store.Taken key := by
  have hmark := congrArg Prod.snd (mark_eq store marked allowed state)
  rw [← hmark]
  exact DedupeStore.taken_mark_iff

def Marked (key : String) (state : DedupeState) (store after : DedupeStore) : Prop :=
  ∀ other, after.state other = if other = key then some state else store.state other

theorem Marked.taken_iff {marked : String} {state : DedupeState} {store after : DedupeStore}
    (h : Marked marked state store after) (key : String) :
    after.Taken key ↔ store.Taken key ∨ key = marked := by
  rw [← not_iff_not, not_or, ← DedupeStore.state_eq_none_iff, ← DedupeStore.state_eq_none_iff,
    h key]
  split
  · rename_i hkey
    simp [hkey]
  · rename_i hkey
    simp [hkey]

theorem claim_of_free (envelope : IdempotencyEnvelope) (state : DedupeState)
    (peer : Option String) (h : ¬ store.Taken envelope.dispatchIdempotencyKey) :
    ∃ after, claim envelope state peer store = (.ok (.reservation .accepted), after) ∧
      Marked envelope.dispatchIdempotencyKey state store after := by
  refine ⟨store.insertOrReplace (.of envelope state peer), ?_, fun other => ?_⟩
  · rw [claim, DedupeStore.not_taken_iff.mp h]
  · rw [DedupeStore.state, Table.lookup_insertOrReplace]
    by_cases hother : other = envelope.dispatchIdempotencyKey
    · exact (congrArg (Option.map DedupeRecord.state) (if_pos hother)).trans
        (if_pos hother).symm
    · exact (congrArg (Option.map DedupeRecord.state) (if_neg hother)).trans
        (if_neg hother).symm

theorem claim_of_taken (envelope : IdempotencyEnvelope) (state : DedupeState)
    (peer : Option String) (h : store.Taken envelope.dispatchIdempotencyKey) :
    ∃ existing, claim envelope state peer store =
      (.ok (.reservation (.duplicate existing)), store) := by
  obtain ⟨existing, hthere⟩ := DedupeStore.taken_iff.mp h
  exact ⟨existing, by rw [claim, hthere]⟩

theorem transition_of_state {allowed : List DedupeState} (state : DedupeState)
    {current : DedupeState} (hcurrent : store.state key = some current)
    (hallowed : current ∈ allowed) :
    ∃ after, transition allowed state none none key store = (.ok .done, after) ∧
      Marked key state store after := by
  obtain ⟨record, hrecord, rfl⟩ := Option.map_eq_some_iff.mp hcurrent
  refine ⟨store.updateAt key (fun _ => true) (DedupeStore.move state none none), ?_,
    fun other => ?_⟩
  · rw [transition, hrecord]
    exact if_pos hallowed
  · rw [DedupeStore.state, Table.lookup_updateAt]
    split
    · rw [hrecord]
      rfl
    · rfl

end InMemoryDedupeStore

/-! ## What a call keeps -/

/-- The edges of the transition graph. -/
inductive DedupeState.Moves : DedupeState → DedupeState → Prop where
  | dispatch : Moves .reserved .dispatched
  | acknowledge : Moves .dispatched .acknowledged
  | succeed : Moves .acknowledged .succeeded
  | lose : Moves .dispatched .unknownEffect

/-- A record moves by one edge at most, and loses nothing it has. -/
structure DedupeRecord.Advances (before after : DedupeRecord) : Prop where
  operationFingerprint : after.operationFingerprint = before.operationFingerprint
  attemptSeq : after.attemptSeq = before.attemptSeq
  state : after.state = before.state ∨ before.state.Moves after.state
  peerOperationId : before.peerOperationId.isSome → after.peerOperationId.isSome
  externalAckRef : before.externalAckRef.isSome → after.externalAckRef.isSome

/-- What may become of a key's record. -/
inductive SlotAdvances : Option DedupeRecord → Option DedupeRecord → Prop where
  | stays (slot : Option DedupeRecord) : SlotAdvances slot slot
  | made {record : DedupeRecord} (h : record.state = .reserved ∨ record.state = .dispatched) :
      SlotAdvances none (some record)
  | moved {before after : DedupeRecord} (h : before.Advances after) :
      SlotAdvances (some before) (some after)

def Rejected : Except StoreError StoreAnswer → Prop
  | .error _ => True
  | .ok (.reservation (.duplicate _)) => True
  | .ok _ => False

/-- A rejected call changes no record, and any other moves records on. -/
structure Keeps (answer : Except StoreError StoreAnswer) (before after : DedupeStore) : Prop where
  rejected : Rejected answer → after = before
  advances : ∀ key, SlotAdvances (before.lookup key) (after.lookup key)

theorem isSome_orText (first : Option String) {second : Option String} (h : second.isSome) :
    (orText first second).isSome := by
  unfold orText
  split
  · split
    · exact h
    · rfl
  · exact h

theorem keeps_refl (answer : Except StoreError StoreAnswer) (store : DedupeStore) :
    Keeps answer store store :=
  ⟨fun _ => rfl, fun _ => .stays _⟩

namespace InMemoryDedupeStore

theorem keeps_claim (envelope : IdempotencyEnvelope) {state : DedupeState}
    (peer : Option String) (store : DedupeStore)
    (hstate : state = .reserved ∨ state = .dispatched) :
    Keeps (claim envelope state peer store).1 store (claim envelope state peer store).2 := by
  unfold claim
  cases hlookup : store.lookup envelope.dispatchIdempotencyKey with
  | some existing => exact keeps_refl _ _
  | none =>
    refine ⟨False.elim, fun key => ?_⟩
    rw [Table.lookup_insertOrReplace]
    split
    · rename_i hkey
      rw [hkey]
      change SlotAdvances (store.lookup envelope.dispatchIdempotencyKey) _
      rw [hlookup]
      exact .made hstate
    · exact .stays _

theorem keeps_transition {allowed : List DedupeState} {state : DedupeState}
    (peer ack : Option String) (key : String) (store : DedupeStore)
    (hmoves : ∀ current ∈ allowed, state = current ∨ current.Moves state) :
    Keeps (transition allowed state peer ack key store).1 store
      (transition allowed state peer ack key store).2 := by
  unfold transition
  cases hlookup : store.lookup key with
  | none => exact keeps_refl _ _
  | some record =>
    dsimp only
    by_cases hallowed : record.state ∈ allowed
    · rw [if_pos hallowed]
      refine ⟨False.elim, fun other => ?_⟩
      rw [Table.lookup_updateAt]
      split
      · rename_i hkey
        rw [hkey, hlookup]
        exact .moved ⟨rfl, rfl, hmoves _ hallowed, isSome_orText _, isSome_orText _⟩
      · exact .stays _
    · rw [if_neg hallowed]
      exact keeps_refl _ _

/-- Every call keeps what it has to. -/
theorem keeps_perform (request : StoreRequest) (store : DedupeStore) :
    Keeps (perform request store).1 store (perform request store).2 := by
  cases request with
  | reserve envelope => exact keeps_claim _ _ _ (.inl rfl)
  | reserveAndDispatch envelope peer => exact keeps_claim _ _ _ (.inr rfl)
  | get key => exact keeps_refl _ _
  | markDispatched key peer =>
    refine keeps_transition _ _ _ _ (forall_mem_cons.mpr ⟨.inr .dispatch, ?_⟩)
    exact forall_mem_singleton.mpr (.inl rfl)
  | markAcknowledged key ack =>
    refine keeps_transition _ _ _ _ (forall_mem_cons.mpr ⟨.inr .acknowledge, ?_⟩)
    exact forall_mem_singleton.mpr (.inl rfl)
  | markSucceeded key ack =>
    refine keeps_transition _ _ _ _ (forall_mem_cons.mpr ⟨.inr .succeed, ?_⟩)
    exact forall_mem_singleton.mpr (.inl rfl)
  | markUnknownEffect key =>
    refine keeps_transition _ _ _ _ (forall_mem_cons.mpr ⟨.inr .lose, ?_⟩)
    exact forall_mem_singleton.mpr (.inl rfl)

end InMemoryDedupeStore

end HiAgent.Kernel
