/-
  Kernel/DedupeStore/Interchange.lean --- one ledger, four stores.

  As long as the numbers of the calls fit their columns, and for Postgres the texts have
  no NUL, the four stores give the same answers to any sequence of calls.
-/
import HiAgent.Kernel.DedupeStore.Backends

namespace HiAgent.Kernel

open Foundation List

/-- A store, as its callers see it. -/
structure StoreBackend where
  State : Type
  initial : State
  perform : StoreRequest → State → Except StoreError StoreAnswer × State
  /-- What is stored. -/
  records : State → DedupeStore

namespace StoreBackend

/-- `InMemoryDedupeStore`. -/
def inMemory : StoreBackend where
  State := DedupeStore
  initial := .empty
  perform := InMemoryDedupeStore.perform
  records := id

/-- A store in a database. -/
def ofSession (perform : StoreRequest → StoreSession StoreAnswer) : StoreBackend where
  State := Connection DedupeStore
  initial := .idle .empty
  perform request := (perform request).call
  records := Connection.committed

/-- `SQLiteDedupeStore`. -/
def sqlite : StoreBackend := ofSession SQLiteDedupeStore.perform

/-- `_SharedConnectionDedupeStore`. -/
def colocated : StoreBackend := ofSession SharedConnectionDedupeStore.perform

/-- `PostgresDedupeStore`. -/
def postgres : StoreBackend := ofSession PostgresDedupeStore.perform

variable (backend : StoreBackend)

def step (state : backend.State) (request : StoreRequest) : backend.State :=
  (backend.perform request state).2

def answersFrom : backend.State → List StoreRequest → List (Except StoreError StoreAnswer)
  | _, [] => []
  | state, request :: rest =>
    (backend.perform request state).1 :: answersFrom (backend.step state request) rest

def answers (requests : List StoreRequest) : List (Except StoreError StoreAnswer) :=
  backend.answersFrom backend.initial requests

def KeepsAt (state : backend.State) (request : StoreRequest) : Prop :=
  Keeps (backend.perform request state).1 (backend.records state)
    (backend.records (backend.step state request))

end StoreBackend

/-! ## A store in a database -/

section Sessions

variable {perform : StoreRequest → StoreSession StoreAnswer}
  {excuse : StoreRequest → DedupeStore → Prop}

def Idle (connection : Connection DedupeStore) : Prop := connection.saved = none

theorem eq_idle {connection : Connection DedupeStore} (h : Idle connection) :
    connection = .idle connection.contents := by
  obtain ⟨contents, saved⟩ := connection
  cases h
  rfl

variable {store : DedupeStore}

theorem Follows.idle {request : StoreRequest} {excuse : Prop}
    {outcome : Except StoreError StoreAnswer × Connection DedupeStore}
    (h : Follows request store excuse outcome) : Idle outcome.2 := by
  rcases h with rfl | ⟨_, error, rfl⟩ <;> rfl

theorem Follows.keeps {request : StoreRequest} {excuse : Prop}
    {outcome : Except StoreError StoreAnswer × Connection DedupeStore}
    (h : Follows request store excuse outcome) : Keeps outcome.1 store outcome.2.committed := by
  rcases h with rfl | ⟨_, error, rfl⟩
  · exact InMemoryDedupeStore.keeps_perform request store
  · exact keeps_refl _ _

theorem along_keepsAt (hfollows : ∀ request store,
    Follows request store (excuse request store) ((perform request).call (.idle store)))
    (requests : List StoreRequest) :
    Along (StoreBackend.ofSession perform).step (StoreBackend.ofSession perform).KeepsAt
      (StoreBackend.ofSession perform).initial requests := by
  have hcall : ∀ (connection : Connection DedupeStore) request, Idle connection →
      Follows request connection.contents (excuse request connection.contents)
        ((perform request).call connection) := by
    intro connection request hidle
    rw [eq_idle hidle]
    exact hfollows request connection.contents
  have hidle : ∀ (connection : Connection DedupeStore) request, Idle connection → True →
      Idle ((StoreBackend.ofSession perform).step connection request) :=
    fun connection request hidle _ => (hcall connection request hidle).idle
  have hkeeps : ∀ (connection : Connection DedupeStore) request, Idle connection → True →
      (StoreBackend.ofSession perform).KeepsAt connection request := by
    intro connection request hidle _
    have hkeeps := (hcall connection request hidle).keeps
    have hfirm : connection.committed = connection.contents := by
      rw [eq_idle hidle]
      rfl
    rw [← hfirm] at hkeeps
    exact hkeeps
  have hinitial : Idle (.idle .empty) := rfl
  exact along_of_invariant hidle hkeeps hinitial (along_of_forall fun _ _ _ => trivial)

theorem answersFrom_ofSession {Inv : DedupeStore → Prop} {Admissible : StoreRequest → Prop}
    (hfollows : ∀ request store,
      Follows request store (excuse request store) ((perform request).call (.idle store)))
    (hadmissible : ∀ request store, Inv store → Admissible request →
      ¬ excuse request store ∧ Inv (InMemoryDedupeStore.perform request store).2)
    {requests : List StoreRequest} (hall : ∀ request ∈ requests, Admissible request)
    (hinv : Inv store) :
    (StoreBackend.ofSession perform).answersFrom (Connection.idle store) requests =
      StoreBackend.inMemory.answersFrom store requests := by
  induction requests generalizing store with
  | nil => rfl
  | cons request rest ih =>
    obtain ⟨hexcuse, hnext⟩ := hadmissible request store hinv (hall request mem_cons_self)
    have hcall := (hfollows request store).resolve_right fun h => hexcuse h.1
    have hrest := ih (fun other hother => hall other (mem_cons_of_mem _ hother)) hnext
    change ((perform request).call (.idle store)).1 ::
        (StoreBackend.ofSession perform).answersFrom
          ((perform request).call (.idle store)).2 rest = _
    rw [hcall]
    exact congrArg _ hrest

end Sessions

/-! ## The references a store can bind again -/

theorem clean_empty : Clean .empty := by
  intro key record hlookup
  cases hlookup

variable {store : DedupeStore}

theorem clean_claim {envelope : IdempotencyEnvelope} {state : DedupeState}
    {peer : Option String} (h : Clean store) (hpeer : ∀ text ∈ peer.toList, WithoutNul text) :
    Clean (InMemoryDedupeStore.claim envelope state peer store).2 := by
  unfold InMemoryDedupeStore.claim
  cases hlookup : store.lookup envelope.dispatchIdempotencyKey with
  | some existing => exact h
  | none =>
    intro key record hrecord
    rw [Table.lookup_insertOrReplace] at hrecord
    split at hrecord
    · obtain rfl := Option.some.inj hrecord
      intro text htext
      exact hpeer text ((append_nil peer.toList) ▸ htext)
    · exact h key record hrecord

theorem clean_transition {allowed : List DedupeState} {state : DedupeState}
    {peer ack : Option String} {key : String} (h : Clean store)
    (hpeer : ∀ text ∈ peer.toList, WithoutNul text) (hack : ∀ text ∈ ack.toList, WithoutNul text) :
    Clean (InMemoryDedupeStore.transition allowed state peer ack key store).2 := by
  unfold InMemoryDedupeStore.transition
  cases hlookup : store.lookup key with
  | none => exact h
  | some record =>
    dsimp only
    split
    · intro other moved hmoved
      rw [Table.lookup_updateAt] at hmoved
      split at hmoved
      · rw [hlookup] at hmoved
        obtain rfl := Option.some.inj hmoved
        have hstored := h key record hlookup
        simp only [mem_append] at hstored
        intro text htext
        rcases mem_append.mp htext with href | href
        · rcases mem_append.mp (PostgresDedupeStore.mem_orText href) with hnew | hold
          · exact hpeer text hnew
          · exact hstored text (.inl hold)
        · rcases mem_append.mp (PostgresDedupeStore.mem_orText href) with hnew | hold
          · exact hack text hnew
          · exact hstored text (.inr hold)
      · exact h other moved hmoved
    · exact h

theorem clean_perform {request : StoreRequest} (h : Clean store)
    (htexts : ∀ text ∈ request.texts, WithoutNul text) :
    Clean (InMemoryDedupeStore.perform request store).2 := by
  have hnone : ∀ text ∈ (none : Option String).toList, WithoutNul text :=
    forall_mem_nil _
  cases request with
  | reserve _ | reserveAndDispatch _ _ =>
    exact clean_claim h fun text htext => htexts text (mem_append_right _ htext)
  | markDispatched key peer =>
    exact clean_transition h (fun text htext => htexts text (mem_cons_of_mem _ htext))
      hnone
  | markUnknownEffect key => exact clean_transition h hnone hnone
  | get key => exact h
  | _ =>
    exact clean_transition h hnone
      fun text htext => htexts text (mem_cons_of_mem _ htext)

/-! ## The four stores -/

/-- The stores give the same answers to calls whose parameters they can bind; and a call
keeps what it is to keep in each of them. -/
theorem stores_interchange (requests : List StoreRequest) :
    ((∀ request ∈ requests, request.FitsColumn) →
      StoreBackend.sqlite.answers requests = StoreBackend.inMemory.answers requests ∧
        StoreBackend.colocated.answers requests = StoreBackend.inMemory.answers requests) ∧
      ((∀ request ∈ requests, request.Plain) →
        StoreBackend.postgres.answers requests = StoreBackend.inMemory.answers requests) ∧
      ∀ backend ∈ [StoreBackend.inMemory, .sqlite, .colocated, .postgres],
        Along backend.step backend.KeepsAt backend.initial requests := by
  have hsql : (∀ request ∈ requests, request.FitsColumn) →
      StoreBackend.sqlite.answers requests = StoreBackend.inMemory.answers requests := by
    have hadmissible : ∀ (request : StoreRequest) (store : DedupeStore), True →
        request.FitsColumn → ¬ ¬ request.FitsColumn ∧ True :=
      fun request store _ hfits => ⟨not_not_intro hfits, trivial⟩
    exact fun hfits =>
      answersFrom_ofSession SqlDedupeStore.call_perform hadmissible hfits trivial
  refine ⟨fun hfits => ⟨hsql hfits, hsql hfits⟩, fun hplain => ?_, ?_⟩
  · refine answersFrom_ofSession PostgresDedupeStore.call_perform
      (fun request store hclean hplain => ⟨not_not_intro ⟨hplain, hclean⟩, ?_⟩) hplain
        clean_empty
    exact clean_perform hclean hplain.2
  · intro backend hbackend
    simp only [mem_cons, not_mem_nil, or_false] at hbackend
    rcases hbackend with rfl | rfl | rfl | rfl
    · exact along_of_forall fun request _ store =>
        InMemoryDedupeStore.keeps_perform request store
    · exact along_keepsAt SqlDedupeStore.call_perform requests
    · exact along_keepsAt SqlDedupeStore.call_perform requests
    · exact along_keepsAt PostgresDedupeStore.call_perform requests

/-- The envelope of one dispatch. -/
def anEnvelope (attemptSeq : Int) : IdempotencyEnvelope where
  dispatchIdempotencyKey := "dispatch:run-1:1"
  operationFingerprint := "fingerprint"
  attemptSeq := attemptSeq
  effectScope := "idempotent_write"
  capabilitySnapshotHash := ""
  hostKind := .localProcess
  peerOperationId := none
  policySnapshotRef := none
  ruleBundleHash := none

/-- A dispatch with a peer, which is acknowledged and then marked too late. -/
theorem stores_interchange_dispatch : let requests : List StoreRequest :=
      [.reserve (anEnvelope 1), .markDispatched "dispatch:run-1:1" (some "peer"),
        .markAcknowledged "dispatch:run-1:1" none, .markUnknownEffect "dispatch:run-1:1",
        .get "dispatch:run-1:1"]
    StoreBackend.postgres.answers requests = StoreBackend.inMemory.answers requests := by
  refine (stores_interchange _).2.1 fun request hrequest => ?_
  simp only [mem_cons, not_mem_nil, or_false] at hrequest
  rcases hrequest with rfl | rfl | rfl | rfl | rfl
  · exact ⟨⟨1, rfl⟩, by decide⟩
  · exact ⟨trivial, by decide⟩
  · exact ⟨trivial, by decide⟩
  · exact ⟨trivial, by decide⟩
  · exact ⟨trivial, by decide⟩

/-- An attempt number that does not fit a column. -/
theorem not_stores_interchange_attempt : ¬ ∀ requests : List StoreRequest,
      StoreBackend.sqlite.answers requests = StoreBackend.inMemory.answers requests := by
  intro h
  have hanswers := h [.reserve (anEnvelope (2 ^ 63))]
  revert hanswers
  decide

end HiAgent.Kernel
