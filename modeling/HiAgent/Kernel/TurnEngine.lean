/-
  Kernel/TurnEngine.lean --- one turn of `agent_kernel/kernel/turn_engine.py`.

  `prepare` is `run_turn` up to the dispatch policy: it touches no shared state, and what its
  services answer is part of the call. From there on a turn is a sequence of single calls, to the
  dedupe store and to the executor: `Position` says which one comes next, `Turn.step` what it
  does and where it leads.
-/
import HiAgent.Kernel.DispatchPolicy

namespace HiAgent.Kernel

open Foundation

/-! ## The phases before the store -/

/-- An exception of the snapshot phase: one that ends the turn as a noop
(`CapabilitySnapshotBuildError`, `ValueError`), or another one. -/
inductive SnapshotFault where
  | noop
  | other (error : String)

/-- What the engines of one deployment compute alike. -/
structure Engine where
  /-- The SHA-256 digest of the canonical JSON text of a payload. -/
  digest : ContentPayload → Except SnapshotFault String
  /-- `str()`. -/
  str : PyValue → String
  lower : Text.StrLower

/-- What admission answers. -/
structure Admission where
  admitted : Bool
  idempotencyEnvelope : EnvelopePayload

inductive TurnOutcomeKind where
  | noop
  | blocked
  | dispatched
  | recoveryPending
  deriving DecidableEq

/-- The arguments of `run_turn` and what the services before the store answer. -/
structure TurnRequest where
  input : TurnInput
  action : Option Action
  /-- The reasoning loop, when there is one: the actions it derives. -/
  reasoning : Option (Except String (List Action))
  /-- The hash of the snapshot that is built for the action. -/
  snapshotHash : Except SnapshotFault String
  admission : Except String Admission

/-- A turn that has passed the dispatch policy. -/
structure Turn where
  input : TurnInput
  action : Action
  contentHash : String
  snapshotHash : String
  /-- `dispatch_policy.host_kind`. -/
  hostKind : HostKind
  /-- The envelope of the admission result, when it carries a valid one. -/
  admitted : Option IdempotencyEnvelope

namespace Turn

def identity (turn : Turn) : TurnIdentity :=
  buildTurnIdentity turn.input turn.action (some turn.contentHash)

/-- `dispatch_dedupe_key`. -/
def key (turn : Turn) : String := turn.identity.dispatchDedupeKey

def legacyKey (turn : Turn) : String :=
  legacyDispatchDedupeKey turn.input.runId turn.action.actionId
    turn.input.basedOnOffset

def envelope (turn : Turn) : IdempotencyEnvelope :=
  resolveIdempotencyEnvelope turn.admitted turn.identity turn.action
    turn.snapshotHash turn.hostKind

def legacyEnvelope (turn : Turn) : IdempotencyEnvelope :=
  { turn.envelope with dispatchIdempotencyKey := turn.legacyKey }

@[simp] theorem envelope_key (turn : Turn) : turn.envelope.dispatchIdempotencyKey = turn.key :=
  resolveIdempotencyEnvelope_key _ _ _ _ _

@[simp] theorem legacyEnvelope_key (turn : Turn) :
    turn.legacyEnvelope.dispatchIdempotencyKey = turn.legacyKey := rfl

end Turn

/-- Where the phases before the store lead. -/
inductive Prepared where
  | raised (error : String)
  | ended (outcome : TurnOutcomeKind)
  | ready (turn : Turn)

/-- `_phase_noop_or_reasoning`: the action of the turn, if it has one. -/
def TurnRequest.resolveAction (request : TurnRequest) : Option Action :=
  match request.action, request.reasoning with
  | some action, _ => some action
  | none, some (.ok actions) => actions.head?
  -- no loop, or one that has failed: `completed_noop`
  | none, _ => none

/-- `_phase_noop_or_reasoning`, `_phase_snapshot`, `_phase_admission` and
`_phase_dispatch_policy`. -/
def prepare (engine : Engine) (request : TurnRequest) : Prepared :=
  match request.resolveAction with
  | none => .ended .noop
  | some action =>
    let hashes := request.snapshotHash.bind fun snapshotHash =>
      (engine.digest (contentPayload action snapshotHash)).map
        fun contentHash => (snapshotHash, contentHash)
    match hashes with
    | .error .noop => .ended .noop
    | .error (.other error) => .raised error
    | .ok (snapshotHash, contentHash) =>
      match request.admission with
      | .error error => .raised error
      | .ok admission =>
        if admission.admitted = false ∨
            (resolveDispatchPolicy engine.lower action).shouldBlock = true then
          .ended .blocked
        else .ready {
          input := request.input
          action := action
          contentHash := contentHash
          snapshotHash := snapshotHash
          hostKind := (resolveDispatchPolicy engine.lower action).hostKind
          admitted := parseIdempotencyEnvelope engine.lower engine.str
            admission.idempotencyEnvelope snapshotHash }

/-! ## The store and the executor -/

/-- How the executor ends; the time limit of the phase may end it as well. -/
inductive Execution where
  | returns (result : PyValue)
  | raises (error : String)
  | cancelled

/-- How a turn whose executor has been called is going to end. -/
inductive Ending where
  | raised (error : String)
  | acknowledged
  | unacknowledged
  deriving DecidableEq

/-- The end of `run_turn`. -/
def Ending.result : Ending → Except String TurnOutcomeKind
  | raised error => .error error
  | acknowledged => .ok .dispatched
  | unacknowledged => .ok .recoveryPending

/-- Which call of a turn comes next. -/
inductive Position where
  /-- `get(legacy_key)`. -/
  | lookup
  /-- `reserve_and_dispatch(envelope)`. -/
  | reserve
  /-- `reserve_and_dispatch(legacy_envelope)`. -/
  | mirror
  /-- The executor, with `dedupe_available` and whether there is a
  `legacy_alias_key`. -/
  | execute (dedupeAvailable aliased : Bool)
  /-- The `mark_*` of the dispatch key. -/
  | settle (ending : Ending) (aliased : Bool)
  /-- The `mark_*` of the legacy key. -/
  | settleAlias (ending : Ending)
  | finished (invoked : Bool) (result : Except String TurnOutcomeKind)
  deriving DecidableEq

namespace Position

/-- Whether the executor has been called. -/
def invoked : Position → Bool
  | settle _ _ => true
  | settleAlias _ => true
  | finished invoked _ => invoked
  | _ => false

/-- Whether the executor has been called or nothing keeps it from being called. -/
def committed : Position → Bool
  | mirror => true
  | execute _ _ => true
  | position => position.invoked

theorem committed_of_invoked {position : Position} (h : position.invoked = true) :
    position.committed = true := by
  cases position with
  | lookup => cases h
  | reserve => cases h
  | mirror => rfl
  | execute _ _ => rfl
  | settle _ _ => rfl
  | settleAlias _ => rfl
  | finished invoked _ => exact h

end Position

namespace Turn

/-- The first call of `_phase_dedupe`: the legacy key is not looked up when it is
the dispatch key. -/
def start (turn : Turn) : Position :=
  if turn.legacyKey = turn.key then .reserve else .lookup

def looked : Except String (Option DedupeRecord) → Position
  | .ok (some _) => .finished false (.ok .blocked)
  | _ => .reserve

/-- Where the reservation of the dispatch key leads: `_reserve_with_degradation`. -/
def reserved (turn : Turn) : Except String DedupeReservation → Position
  | .ok .accepted =>
    if turn.legacyKey = turn.key then .execute true false else .mirror
  | .ok (.duplicate _) => .finished false (.ok .blocked)
  | .error error =>
    if turn.action.effectClass = .idempotentWrite then .execute false false
    else .finished false (.error error)

/-- Where the reservation of the legacy key leads: a refusal is ignored, and an
exception is suppressed. -/
def mirrored : Except String DedupeReservation → Position
  | .ok .accepted => .execute true true
  | _ => .execute true false

/-- `_phase_execute` after the executor has ended. -/
def conclude (dedupeAvailable aliased : Bool) : Execution → Position
  | .cancelled => .finished true (.error "TimeoutError")
  | .raises error => after (.raised error)
  | .returns (.dict fields) =>
    if (PyDict.get fields "acknowledged" (.bool false)).truthy then
      after .acknowledged
    else after .unacknowledged
  | .returns _ => .finished true (.error "AttributeError")
where
  /-- Without a reservation there is nothing to mark. -/
  after (ending : Ending) : Position :=
    if dedupeAvailable then .settle ending aliased
    else .finished true ending.result

/-- The `mark_*` method that goes with an ending. -/
def markMethod (ending : Ending) (key : String) : DedupeStore → Except String Unit × DedupeStore :=
  match ending with
  | .acknowledged => DedupeStore.markAcknowledged key
  | _ => DedupeStore.markUnknownEffect key

/-- Where the `mark_*` of the dispatch key leads: an exception of its own ends the
turn, unless the executor has raised before. -/
def settled (aliased : Bool) (ending : Ending) : Except String Unit → Position
  | .error error =>
    match ending with
    | .raised _ => further
    | _ => .finished true (.error error)
  | .ok _ => further
where
  further : Position :=
    if aliased then .settleAlias ending else .finished true ending.result

/-- The next call of `_phase_dedupe` or `_phase_execute`. -/
def step (turn : Turn) (call : StoreCall) (execution : Execution)
    (position : Position) (store : DedupeStore) : Position × DedupeStore :=
  match position with
  | .lookup =>
    let answer := call.perform (DedupeStore.get turn.legacyKey) store
    (looked answer.1, answer.2)
  | .reserve =>
    let answer :=
      call.perform (DedupeStore.reserveAndDispatch turn.envelope none) store
    (turn.reserved answer.1, answer.2)
  | .mirror =>
    let answer := call.perform (DedupeStore.reserveAndDispatch
      turn.legacyEnvelope turn.envelope.peerOperationId) store
    (mirrored answer.1, answer.2)
  | .execute dedupeAvailable aliased =>
    (conclude dedupeAvailable aliased execution, store)
  | .settle ending aliased =>
    let answer := call.perform (markMethod ending turn.key) store
    (settled aliased ending answer.1, answer.2)
  | .settleAlias ending =>
    (.finished true ending.result, (call.perform (markMethod ending turn.legacyKey) store).2)
  | .finished invoked result => (.finished invoked result, store)

end Turn

/-! ## A turn on its own -/

/-- How the calls of one turn end. -/
structure TurnCalls where
  lookup : StoreCall
  reserve : StoreCall
  mirror : StoreCall
  execution : Execution
  settle : StoreCall
  settleAlias : StoreCall

/-- How the call at a position ends. -/
def TurnCalls.at (calls : TurnCalls) : Position → StoreCall
  | .lookup => calls.lookup
  | .reserve => calls.reserve
  | .mirror => calls.mirror
  | .settleAlias _ => calls.settleAlias
  | _ => calls.settle

namespace Turn

/-- The calls of a turn, up to a number of them, with no other turn in between. -/
def drive (turn : Turn) (calls : TurnCalls) : Nat → Position × DedupeStore → Position × DedupeStore
  | 0, point => point
  | n + 1, point =>
    turn.drive calls n
      (turn.step (calls.at point.1) calls.execution point.1 point.2)

/-- `_phase_dedupe` and `_phase_execute`. -/
def run (turn : Turn) (calls : TurnCalls) (store : DedupeStore) : Position × DedupeStore :=
  turn.drive calls 6 (turn.start, store)

end Turn

/-! ## Stores that agree on some keys -/

def DedupeStore.AgreeOn (keys : String → Prop) (a b : DedupeStore) : Prop :=
  ∀ key, keys key → a.lookup key = b.lookup key

/-- A method answers alike on stores that agree, and leaves stores that agree. -/
def Respects {α : Type} (keys : String → Prop)
    (method : DedupeStore → Except String α × DedupeStore) : Prop :=
  ∀ a b : DedupeStore, DedupeStore.AgreeOn keys a b →
    (method a).1 = (method b).1 ∧ DedupeStore.AgreeOn keys (method a).2 (method b).2

def Confined {α : Type} (keys : String → Prop)
    (method : DedupeStore → Except String α × DedupeStore) : Prop :=
  ∀ (store : DedupeStore) (key : String), ¬ keys key →
    (method store).2.lookup key = store.lookup key

section Methods

variable {keys : String → Prop}

theorem respects_get {key : String} (hkey : keys key) : Respects keys (DedupeStore.get key) := by
  intro a b h
  exact ⟨congrArg Except.ok (h key hkey), h⟩

theorem respects_reserveAndDispatch {envelope : IdempotencyEnvelope} (peer : Option String)
    (hkey : keys envelope.dispatchIdempotencyKey) :
    Respects keys (DedupeStore.reserveAndDispatch envelope peer) := by
  intro a b h
  unfold DedupeStore.reserveAndDispatch
  rw [h _ hkey]
  cases b.lookup envelope.dispatchIdempotencyKey with
  | some existing => exact ⟨rfl, h⟩
  | none =>
    refine ⟨rfl, fun key hmem => ?_⟩
    rw [Table.lookup_insertOrReplace, Table.lookup_insertOrReplace, h key hmem]

theorem respects_mark (from_ : List DedupeState) (state : DedupeState) {marked : String}
    (hkey : keys marked) : Respects keys (DedupeStore.mark from_ state marked) := by
  intro a b h
  unfold DedupeStore.mark
  rw [h _ hkey]
  cases b.lookup marked with
  | none => exact ⟨rfl, h⟩
  | some record =>
    dsimp only
    split
    · refine ⟨rfl, fun key hmem => ?_⟩
      rw [Table.lookup_updateAt, Table.lookup_updateAt, h key hmem, h marked hkey]
    · exact ⟨rfl, h⟩

theorem Respects.perform {α : Type} {method : DedupeStore → Except String α × DedupeStore}
    (h : Respects keys method) (call : StoreCall) : Respects keys (call.perform method) := by
  intro a b hagree
  cases call with
  | returns => exact h a b hagree
  | raises error applied =>
    cases applied with
    | true => exact ⟨rfl, (h a b hagree).2⟩
    | false => exact ⟨rfl, hagree⟩

theorem confined_get (key : String) : Confined keys (DedupeStore.get key) :=
  fun _ _ _ => rfl

theorem confined_reserveAndDispatch {envelope : IdempotencyEnvelope} (peer : Option String)
    (hkey : keys envelope.dispatchIdempotencyKey) :
    Confined keys (DedupeStore.reserveAndDispatch envelope peer) := by
  intro store key hother
  have hne : key ≠ envelope.dispatchIdempotencyKey := fun heq => hother (heq ▸ hkey)
  unfold DedupeStore.reserveAndDispatch
  cases store.lookup envelope.dispatchIdempotencyKey with
  | some existing => rfl
  | none =>
    dsimp only
    rw [Table.lookup_insertOrReplace, if_neg hne]

theorem confined_mark (from_ : List DedupeState) (state : DedupeState) {marked : String}
    (hkey : keys marked) : Confined keys (DedupeStore.mark from_ state marked) := by
  intro store key hother
  have hne : key ≠ marked := fun heq => hother (heq ▸ hkey)
  unfold DedupeStore.mark
  cases store.lookup marked with
  | none => rfl
  | some record =>
    dsimp only
    split
    · rw [Table.lookup_updateAt, if_neg hne]
    · rfl

theorem Confined.perform {α : Type} {method : DedupeStore → Except String α × DedupeStore}
    (h : Confined keys method) (call : StoreCall) : Confined keys (call.perform method) := by
  intro store key hother
  rw [StoreCall.perform_snd]
  split
  · exact h store key hother
  · rfl

end Methods

/-! ## The keys of a turn -/

namespace Turn

def Uses (turn : Turn) (key : String) : Prop := key = turn.key ∨ key = turn.legacyKey

variable {turn : Turn}

theorem respects_markMethod (ending : Ending) {marked : String} (h : turn.Uses marked) :
    Respects turn.Uses (markMethod ending marked) := by
  cases ending with
  | _ => exact respects_mark _ _ h

theorem confined_markMethod (ending : Ending) {marked : String} (h : turn.Uses marked) :
    Confined turn.Uses (markMethod ending marked) := by
  cases ending with
  | _ => exact confined_mark _ _ h

theorem uses_envelope (turn : Turn) : turn.Uses turn.envelope.dispatchIdempotencyKey :=
  .inl turn.envelope_key

/-- A step reads the keys of its turn alone. -/
theorem step_respects (turn : Turn) (call : StoreCall) (execution : Execution)
    (position : Position) {a b : DedupeStore} (h : DedupeStore.AgreeOn turn.Uses a b) :
    (turn.step call execution position a).1 = (turn.step call execution position b).1 ∧
      DedupeStore.AgreeOn turn.Uses (turn.step call execution position a).2
        (turn.step call execution position b).2 := by
  cases position with
  | lookup =>
    obtain ⟨hanswer, hafter⟩ := (respects_get (.inr rfl)).perform call a b h
    exact ⟨congrArg looked hanswer, hafter⟩
  | reserve =>
    obtain ⟨hanswer, hafter⟩ :=
      (respects_reserveAndDispatch none turn.uses_envelope).perform call a b h
    exact ⟨congrArg turn.reserved hanswer, hafter⟩
  | mirror =>
    obtain ⟨hanswer, hafter⟩ := (respects_reserveAndDispatch turn.envelope.peerOperationId
      (show turn.Uses turn.legacyEnvelope.dispatchIdempotencyKey from .inr rfl)).perform
        call a b h
    exact ⟨congrArg mirrored hanswer, hafter⟩
  | settle ending aliased =>
    obtain ⟨hanswer, hafter⟩ := (respects_markMethod ending (.inl rfl)).perform call a b h
    exact ⟨congrArg (settled aliased ending) hanswer, hafter⟩
  | settleAlias ending =>
    exact ⟨rfl, ((respects_markMethod ending (.inr rfl)).perform call a b h).2⟩
  | _ => exact ⟨rfl, h⟩

/-- And it writes to these alone. -/
theorem lookup_step (turn : Turn) (call : StoreCall) (execution : Execution)
    (position : Position) (store : DedupeStore) {key : String} (h : ¬ turn.Uses key) :
    (turn.step call execution position store).2.lookup key = store.lookup key := by
  cases position with
  | lookup => exact (confined_get turn.legacyKey).perform call store key h
  | reserve =>
    exact (confined_reserveAndDispatch none turn.uses_envelope).perform call store key h
  | mirror =>
    exact (confined_reserveAndDispatch turn.envelope.peerOperationId
      (show turn.Uses turn.legacyEnvelope.dispatchIdempotencyKey from .inr rfl)).perform
        call store key h
  | execute dedupeAvailable aliased => rfl
  | settle ending aliased =>
    exact (confined_markMethod ending (.inl rfl)).perform call store key h
  | settleAlias ending =>
    exact (confined_markMethod ending (.inr rfl)).perform call store key h
  | finished invoked result => rfl

theorem drive_respects (turn : Turn) (calls : TurnCalls) (n : Nat) (position : Position)
    {a b : DedupeStore} (h : DedupeStore.AgreeOn turn.Uses a b) :
    (turn.drive calls n (position, a)).1 = (turn.drive calls n (position, b)).1 := by
  induction n generalizing position a b with
  | zero => rfl
  | succ n ih =>
    obtain ⟨hpoint, hafter⟩ := turn.step_respects (calls.at position) calls.execution
      position h
    have hpair : turn.step (calls.at position) calls.execution position a =
        ((turn.step (calls.at position) calls.execution position b).1,
          (turn.step (calls.at position) calls.execution position a).2) :=
      Prod.ext hpoint rfl
    rw [drive, drive, hpair]
    exact ih _ hafter

theorem lookup_drive (turn : Turn) (calls : TurnCalls) (n : Nat)
    (point : Position × DedupeStore) {key : String} (h : ¬ turn.Uses key) :
    (turn.drive calls n point).2.lookup key = point.2.lookup key := by
  induction n generalizing point with
  | zero => rfl
  | succ n ih =>
    rw [drive, ih]
    exact turn.lookup_step _ _ _ _ h

end Turn

end HiAgent.Kernel
