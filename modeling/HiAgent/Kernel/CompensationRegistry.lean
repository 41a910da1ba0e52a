/-
  Kernel/CompensationRegistry.lean --- `CompensationRegistry` of
  `agent_kernel/kernel/recovery/compensation_registry.py`, and the calls of `execute`.

  The key of a compensation names the effect class and the id of the action, and no run. A call
  takes its key for good, so the call for an action of another run is skipped when the two keys
  are one text.
-/
import HiAgent.Foundation.Dict
import HiAgent.Foundation.Machine
import HiAgent.Kernel.IdempotencyKeyPolicy

namespace HiAgent.Kernel

open Foundation

/-! ## Actions and handlers -/

/-- The failed `Action`, as far as it is identified. -/
structure FailedAction where
  runId : String
  actionId : String
  effectClass : String
  deriving DecidableEq

namespace FailedAction

/-- `idempotency_key`. -/
def compensationKey (action : FailedAction) : String :=
  IdempotencyKeyPolicy.generateCompensationKey action.effectClass action.actionId

/-- The envelope `execute` reserves. -/
def envelope (action : FailedAction) : IdempotencyEnvelope where
  dispatchIdempotencyKey := action.compensationKey
  operationFingerprint := action.compensationKey
  attemptSeq := 1
  effectScope := action.effectClass
  capabilitySnapshotHash := "compensation"
  hostKind := .localProcess
  peerOperationId := none
  policySnapshotRef := none
  ruleBundleHash := none

end FailedAction

/-- `CompensationEntry`, as far as `execute` reads it; what the callable does is said by
events. -/
structure CompensationEntry where
  timeoutMs : Int := 30000
  maxAttempts : Int := 2
  deriving DecidableEq

structure CompensationRegistry where
  entries : Dict String CompensationEntry

namespace CompensationRegistry

def register (registry : CompensationRegistry) (effectClass : String)
    (entry : CompensationEntry) : CompensationRegistry :=
  ⟨registry.entries.set effectClass entry⟩

def lookup (registry : CompensationRegistry) (effectClass : String) : Option CompensationEntry :=
  registry.entries.get? effectClass

def hasHandler (registry : CompensationRegistry) (effectClass : String) : Bool :=
  (registry.lookup effectClass).isSome

theorem hasHandler_register {registry : CompensationRegistry} {effectClass : String}
    (registered : String) (entry : CompensationEntry) (h : registry.hasHandler effectClass = true) :
    (registry.register registered entry).hasHandler effectClass = true := by
  rw [hasHandler, lookup, register, Dict.get?_set]
  split
  · rfl
  · exact h

end CompensationRegistry

/-! ## One call -/

/-- `last_error`. -/
inductive CompensationFailure where
  /-- `CompensationTimeoutError`. -/
  | timeout (timeoutMs : Int)
  /-- `TransientCompensationError`. -/
  | transient (error : String)
  /-- Any other `Exception`. -/
  | raised (error : String)
  deriving DecidableEq

/-- How `execute` ends. -/
inductive CompensationEnd where
  /-- There is no handler. -/
  | noHandler
  /-- The reservation is refused. -/
  | skipped
  /-- The handler has completed. -/
  | executed
  /-- `CompensationExhaustedError`, or what is returned in its place. -/
  | exhausted (message : String) (cause : Option CompensationFailure)
  /-- An exception of the store. -/
  | raised (error : StoreError)
  /-- The delay before the next attempt has no float. -/
  | overflowed
  /-- A `BaseException`. -/
  | cancelled
  deriving DecidableEq

/-- What the caller of `execute` gets. -/
inductive CompensationAnswer where
  | returned (compensated : Bool)
  | raised
  | cancelled

namespace CompensationEnd

/-- What the caller gets, depending on `raise_on_failure`. -/
def answer (raiseOnFailure : Bool) : CompensationEnd → CompensationAnswer
  | noHandler => .returned false
  | skipped => .returned true
  | executed => .returned true
  | exhausted _ _ => if raiseOnFailure then .raised else .returned false
  | raised _ => .raised
  | overflowed => .raised
  | cancelled => .cancelled

def isExhausted : CompensationEnd → Bool
  | exhausted _ _ => true
  | _ => false

end CompensationEnd

/-- How the await of a handler ends. -/
inductive HandlerOutcome where
  | completed
  | timedOut
  | transient (error : String)
  | raised (error : String)
  | cancelled
  deriving DecidableEq

/-- How a pause ends. -/
inductive PauseOutcome where
  | woke
  | overflowed
  | cancelled

/-- The await a call is suspended at. -/
inductive CompensationPoint where
  | attempting
  | pausing
  deriving DecidableEq

/-- A call of `execute` with its local variables. -/
structure CompensationCall where
  action : FailedAction
  entry : CompensationEntry
  /-- There is none where the call is given no store. -/
  idempotencyKey : Option String
  raiseOnFailure : Bool
  attempt : Nat
  lastError : Option CompensationFailure
  point : CompensationPoint
  deriving DecidableEq

/-- What a call has come to. -/
inductive CompensationTurn where
  | ended (how : CompensationEnd)
  | suspended (call : CompensationCall)
  deriving DecidableEq

namespace CompensationTurn

def next : CompensationTurn → Option CompensationCall
  | ended _ => none
  | suspended call => some call

def how : CompensationTurn → Option CompensationEnd
  | ended how => some how
  | suspended _ => none

end CompensationTurn

namespace CompensationCall

variable (call : CompensationCall) (store : DedupeStore)

/-- `execute`, behind the loop. -/
def giveUp : CompensationTurn × DedupeStore :=
  (.ended (.exhausted ("compensation attempts exhausted effect_class=" ++ call.action.effectClass ++
        " action_id=" ++ call.action.actionId ++ " attempts=" ++
        toString call.entry.maxAttempts)
      call.lastError),
    match call.idempotencyKey with
    | none => store
    | some key => (InMemoryDedupeStore.markUnknownEffect key store).2)

def loop : CompensationTurn × DedupeStore :=
  if (call.attempt : Int) < max call.entry.maxAttempts 1 then
    (.suspended { call with attempt := call.attempt + 1, point := .attempting }, store)
  else call.giveUp store

/-- The call with another `last_error`. -/
def failed (failure : CompensationFailure) : CompensationCall :=
  { call with lastError := some failure }

def retry (failure : CompensationFailure) : CompensationTurn × DedupeStore :=
  if call.entry.maxAttempts ≤ call.attempt then (call.failed failure).giveUp store
  else (.suspended { call.failed failure with point := .pausing }, store)

/-- `execute`, from the end of an attempt. -/
def attempted : HandlerOutcome → CompensationTurn × DedupeStore
  | .completed =>
    match call.idempotencyKey with
    | none => (.ended .executed, store)
    | some key =>
      match InMemoryDedupeStore.markAcknowledged key none store with
      | (.ok _, after) => (.ended .executed, after)
      -- the transition is made inside the `try`
      | (.error error, after) => (call.failed (.raised error.message)).giveUp after
  | .timedOut => call.retry store (.timeout call.entry.timeoutMs)
  | .transient error => call.retry store (.transient error)
  | .raised error => (call.failed (.raised error)).giveUp store
  | .cancelled => (.ended .cancelled, store)

/-- `execute`, from the end of a pause. -/
def paused : PauseOutcome → CompensationTurn × DedupeStore
  | .woke => call.loop store
  | .overflowed => (.ended .overflowed, store)
  | .cancelled => (.ended .cancelled, store)

end CompensationCall

/-- `execute` up to its first await; `dedupe` says whether it is given the store. -/
def CompensationRegistry.execute (registry : CompensationRegistry) (action : FailedAction)
    (dedupe raiseOnFailure : Bool) (store : DedupeStore) : CompensationTurn × DedupeStore :=
  match registry.lookup action.effectClass with
  | none => (.ended .noHandler, store)
  | some entry =>
    let call (key : Option String) : CompensationCall :=
      ⟨action, entry, key, raiseOnFailure, 0, none, .attempting⟩
    if dedupe then
      match InMemoryDedupeStore.reserve action.envelope store with
      | (.error error, after) => (.ended (.raised error), after)
      | (.ok (.reservation .accepted), reserved) =>
        match InMemoryDedupeStore.markDispatched action.compensationKey none reserved with
        | (.error error, after) => (.ended (.raised error), after)
        | (.ok _, dispatched) => (call (some action.compensationKey)).loop dispatched
      | (.ok _, after) => (.ended .skipped, after)
    else (call none).loop store

/-! ## What a call does between two awaits -/

section Turns

variable {registry : CompensationRegistry} {action : FailedAction} {store : DedupeStore}

open InMemoryDedupeStore (Marked)

theorem CompensationCall.loop_first {call : CompensationCall} (h : call.attempt = 0)
    (store : DedupeStore) : call.loop store =
      (.suspended { call with attempt := call.attempt + 1, point := .attempting }, store) := by
  have hfirst : (call.attempt : Int) < max call.entry.maxAttempts 1 := by omega
  rw [loop, if_pos hfirst]

namespace CompensationRegistry

theorem execute_of_noHandler (dedupe raiseOnFailure : Bool)
    (h : registry.hasHandler action.effectClass = false) :
    registry.execute action dedupe raiseOnFailure store = (.ended .noHandler, store) := by
  have hnone : registry.lookup action.effectClass = none :=
    Option.not_isSome_iff_eq_none.mp (ne_true_of_eq_false h)
  rw [execute, hnone]

theorem execute_of_taken (raiseOnFailure : Bool) (h : registry.hasHandler action.effectClass = true)
    (htaken : store.Taken action.compensationKey) :
    registry.execute action true raiseOnFailure store = (.ended .skipped, store) := by
  obtain ⟨entry, hentry⟩ := Option.isSome_iff_exists.mp h
  obtain ⟨existing, hthere⟩ := InMemoryDedupeStore.claim_of_taken store action.envelope
    .reserved action.envelope.peerOperationId htaken
  rw [execute, hentry]
  simp only [InMemoryDedupeStore.reserve, hthere, if_true]

theorem execute_of_free (raiseOnFailure : Bool) (h : registry.hasHandler action.effectClass = true)
    (hfree : ¬ store.Taken action.compensationKey) :
    ∃ call after, registry.execute action true raiseOnFailure store = (.suspended call, after) ∧
      call.action = action ∧ call.idempotencyKey = some action.compensationKey ∧
      Marked action.compensationKey .dispatched store after := by
  obtain ⟨entry, hentry⟩ := Option.isSome_iff_exists.mp h
  obtain ⟨reserved, hreserve, hheld⟩ := InMemoryDedupeStore.claim_of_free store
    action.envelope .reserved action.envelope.peerOperationId hfree
  have hstate : reserved.state action.compensationKey = some .reserved :=
    (hheld action.compensationKey).trans (if_pos rfl)
  have hallowed : DedupeState.reserved ∈ [DedupeState.reserved, .dispatched] :=
    List.mem_cons_self
  obtain ⟨after, hmark, hafter⟩ := InMemoryDedupeStore.transition_of_state reserved
    action.compensationKey .dispatched hstate hallowed
  refine ⟨⟨action, entry, some action.compensationKey, raiseOnFailure, 1, none, .attempting⟩,
    after, ?_, rfl, rfl, ?_⟩
  · rw [execute, hentry]
    simp only [InMemoryDedupeStore.reserve, InMemoryDedupeStore.markDispatched, hreserve, hmark,
      if_true]
    exact CompensationCall.loop_first rfl after
  · intro other
    rw [hafter, hheld]
    split
    · rfl
    · rename_i hother
      exact if_neg hother

theorem execute_unshared (raiseOnFailure : Bool)
    (h : registry.hasHandler action.effectClass = true) :
    ∃ call, registry.execute action false raiseOnFailure store = (.suspended call, store) := by
  obtain ⟨entry, hentry⟩ := Option.isSome_iff_exists.mp h
  rw [execute, hentry]
  exact ⟨_, CompensationCall.loop_first rfl store⟩

end CompensationRegistry

/-- What comes of a call that has taken its key. The mark says that its handler has
completed. -/
inductive CompensationCall.Progress (call : CompensationCall) (store : DedupeStore) :
    Bool → CompensationTurn × DedupeStore → Prop where
  | completed {after : DedupeStore}
      (h : Marked call.action.compensationKey .acknowledged store after) :
      Progress call store true (.ended .executed, after)
  | exhausted {after : DedupeStore} (message : String) (cause : Option CompensationFailure)
      (h : Marked call.action.compensationKey .unknownEffect store after) :
      Progress call store false (.ended (.exhausted message cause), after)
  | goesOn {next : CompensationCall} (haction : next.action = call.action)
      (hkey : next.idempotencyKey = call.idempotencyKey) :
      Progress call store false (.suspended next, store)
  | left {how : CompensationEnd} (h : how = .overflowed ∨ how = .cancelled) :
      Progress call store false (.ended how, store)

namespace CompensationCall

variable {call : CompensationCall}
  (hkey : call.idempotencyKey = some call.action.compensationKey)
  (hstate : store.state call.action.compensationKey = some .dispatched)

include hkey hstate

theorem progress_giveUp (lastError : Option CompensationFailure) :
    call.Progress store false (giveUp { call with lastError := lastError } store) := by
  have hallowed : DedupeState.dispatched ∈ [DedupeState.dispatched, .unknownEffect] :=
    List.mem_cons_self
  obtain ⟨after, hmark, hafter⟩ := InMemoryDedupeStore.transition_of_state store
    call.action.compensationKey .unknownEffect hstate hallowed
  rw [giveUp, hkey]
  simp only [InMemoryDedupeStore.markUnknownEffect, hmark]
  exact .exhausted _ _ hafter

theorem progress_retry (failure : CompensationFailure) :
    call.Progress store false (call.retry store failure) := by
  unfold retry
  split
  · exact progress_giveUp hkey hstate (some failure)
  · exact .goesOn rfl rfl

theorem progress_attempted (outcome : HandlerOutcome) :
    call.Progress store (outcome = .completed) (call.attempted store outcome) := by
  cases outcome with
  | completed =>
    have hallowed : DedupeState.dispatched ∈ [DedupeState.dispatched, .acknowledged] :=
      List.mem_cons_self
    obtain ⟨after, hmark, hafter⟩ := InMemoryDedupeStore.transition_of_state store
      call.action.compensationKey .acknowledged hstate hallowed
    rw [attempted, hkey]
    simp only [InMemoryDedupeStore.markAcknowledged, hmark]
    exact .completed hafter
  | raised error => exact progress_giveUp hkey hstate (some (.raised error))
  | cancelled => exact .left (.inr rfl)
  | _ => exact progress_retry hkey hstate _

theorem progress_paused (outcome : PauseOutcome) :
    call.Progress store false (call.paused store outcome) := by
  cases outcome with
  | woke =>
    rw [paused, loop]
    split
    · exact .goesOn rfl rfl
    · exact progress_giveUp hkey hstate call.lastError
  | overflowed => exact .left (.inl rfl)
  | cancelled => exact .left (.inr rfl)

end CompensationCall

end Turns

/-! ## Calls that share a store -/

/-- A registry with a store and the calls that are suspended. -/
structure Compensations where
  registry : CompensationRegistry
  store : DedupeStore
  calls : List CompensationCall

/-- What happens between two awaits. A number is the position of a call. -/
inductive CompensationEvent where
  | register (effectClass : String) (entry : CompensationEntry)
  | execute (action : FailedAction) (dedupe raiseOnFailure : Bool)
  | attempted (call : Nat) (outcome : HandlerOutcome)
  | paused (call : Nat) (outcome : PauseOutcome)

/-- A call that has ended. -/
structure EndedCompensation where
  action : FailedAction
  raiseOnFailure : Bool
  how : CompensationEnd
  deriving DecidableEq

def EndedCompensation.answer (ended : EndedCompensation) : CompensationAnswer :=
  ended.how.answer ended.raiseOnFailure

namespace Compensations

variable (system : Compensations)

def callAt (index : Nat) (point : CompensationPoint) : Option CompensationCall :=
  system.calls[index]?.filter fun call => call.point = point

def resume (index : Nat) (call : CompensationCall)
    (turn : CompensationTurn × DedupeStore) : Option EndedCompensation × Compensations :=
  (turn.1.how.map (⟨call.action, call.raiseOnFailure, ·⟩),
    { system with store := turn.2, calls := Roster.advance system.calls index turn.1.next })

/-- One event, with the call it ends. An event for which nothing waits changes nothing. -/
def step : CompensationEvent → Option EndedCompensation × Compensations
  | .register effectClass entry =>
    (none, { system with registry := system.registry.register effectClass entry })
  | .execute action dedupe raiseOnFailure =>
    let turn := system.registry.execute action dedupe raiseOnFailure system.store
    (turn.1.how.map (⟨action, raiseOnFailure, ·⟩),
      { system with store := turn.2, calls := system.calls ++ turn.1.next.toList })
  | .attempted index outcome =>
    match system.callAt index .attempting with
    | none => (none, system)
    | some call => system.resume index call (call.attempted system.store outcome)
  | .paused index outcome =>
    match system.callAt index .pausing with
    | none => (none, system)
    | some call => system.resume index call (call.paused system.store outcome)

def after (event : CompensationEvent) : Compensations := (system.step event).2

/-- The action whose call takes its key in an event. -/
def taking : CompensationEvent → Option FailedAction
  | .execute action dedupe _ =>
    if dedupe = true ∧ system.registry.hasHandler action.effectClass = true ∧
        ¬ system.store.Taken action.compensationKey then some action
    else none
  | _ => none

end Compensations

/-! ## Keys -/

namespace FailedAction

/-- The effect class and the id of two actions are the same, or come to one text with a
colon between them. -/
def Collides (first second : FailedAction) : Prop :=
  (first.effectClass = second.effectClass ∧ first.actionId = second.actionId) ∨
    Joined.ColonRecut first.effectClass first.actionId second.effectClass second.actionId ∨
    Joined.ColonRecut second.effectClass second.actionId first.effectClass first.actionId

theorem compensationKey_eq_iff {first second : FailedAction} :
    first.compensationKey = second.compensationKey ↔ first.Collides second := by
  rw [Collides, ← Joined.colon_eq_iff]
  simp only [compensationKey, IdempotencyKeyPolicy.generateCompensationKey, String.append_assoc,
    String.append_right_inj]

theorem collides_iff_of_solid {first second : FailedAction}
    (hfirst : Joined.Solid first.effectClass) (hsecond : Joined.Solid second.effectClass) :
    first.Collides second ↔
      first.effectClass = second.effectClass ∧ first.actionId = second.actionId := by
  rw [Collides, ← Joined.colon_eq_iff, Joined.colon_first_eq_iff hfirst hsecond]

end FailedAction

namespace CompensationEvent

def isRegistration : CompensationEvent → Bool
  | register _ _ => true
  | _ => false

def OfOthers (runId : String) : CompensationEvent → Prop
  | execute action _ _ => action.runId ≠ runId
  | _ => True

end CompensationEvent

namespace Compensations

/-! ## The law -/

def Skips (system : Compensations) (action : FailedAction) : Prop :=
  (system.registry.execute action true true system.store).1 = .ended .skipped

instance (system : Compensations) (action : FailedAction) : Decidable (system.Skips action) :=
  inferInstanceAs (Decidable (_ = _))

/-- A call that is skipped behind some events is skipped as well behind the registrations
among them. -/
def Independent (system : Compensations) (events : List CompensationEvent)
    (action : FailedAction) : Prop :=
  (exec after system events).Skips action →
    (exec after system (events.filter CompensationEvent.isRegistration)).Skips action

def Apart (action : FailedAction) (system : Compensations) (event : CompensationEvent) : Prop :=
  ∀ taker ∈ system.taking event, taker.runId ≠ action.runId → ¬ taker.Collides action

/-! ## Which keys are taken -/

section Taken

variable {system : Compensations} {action : FailedAction}

theorem skips_iff : system.Skips action ↔ system.registry.hasHandler action.effectClass = true ∧
        system.store.Taken action.compensationKey := by
  cases hhandler : system.registry.hasHandler action.effectClass with
  | false =>
    rw [Skips, CompensationRegistry.execute_of_noHandler true true hhandler]
    simp
  | true =>
    by_cases htaken : system.store.Taken action.compensationKey
    · rw [Skips, CompensationRegistry.execute_of_taken true hhandler htaken]
      exact iff_of_true rfl ⟨rfl, htaken⟩
    · obtain ⟨call, store, hexecute, -⟩ :=
        CompensationRegistry.execute_of_free true hhandler htaken
      rw [Skips, hexecute]
      exact iff_of_false (fun h => CompensationTurn.noConfusion h) fun h => htaken h.2

variable {key : String} {call : CompensationCall} {store : DedupeStore}

theorem taken_giveUp_iff : (call.giveUp store).2.Taken key ↔ store.Taken key := by
  unfold CompensationCall.giveUp
  split
  · exact Iff.rfl
  · exact InMemoryDedupeStore.taken_transition_iff store key _ _ _

theorem taken_retry_iff
    (failure : CompensationFailure) : (call.retry store failure).2.Taken key ↔ store.Taken key := by
  unfold CompensationCall.retry
  split
  · exact taken_giveUp_iff
  · exact Iff.rfl

theorem taken_attempted_iff
    (outcome : HandlerOutcome) : (call.attempted store outcome).2.Taken key ↔ store.Taken key := by
  cases outcome with
  | completed =>
    rw [CompensationCall.attempted]
    split
    · exact Iff.rfl
    · rename_i marked _
      have hmark := InMemoryDedupeStore.taken_transition_iff store key
        [.dispatched, .acknowledged] .acknowledged marked
      rw [← InMemoryDedupeStore.markAcknowledged] at hmark
      split
      · rename_i hacknowledge
        rwa [hacknowledge] at hmark
      · rename_i hacknowledge
        rw [hacknowledge] at hmark
        exact taken_giveUp_iff.trans hmark
  | raised error => exact taken_giveUp_iff
  | cancelled => exact Iff.rfl
  | _ => exact taken_retry_iff _

theorem taken_paused_iff
    (outcome : PauseOutcome) : (call.paused store outcome).2.Taken key ↔ store.Taken key := by
  cases outcome with
  | woke =>
    rw [CompensationCall.paused, CompensationCall.loop]
    split
    · exact Iff.rfl
    · exact taken_giveUp_iff
  | _ => exact Iff.rfl

theorem taking_execute {dedupe raiseOnFailure : Bool} {taker : FailedAction}
    (h : system.taking (.execute action dedupe raiseOnFailure) = some taker) :
    ¬ system.store.Taken action.compensationKey ∧ action = taker := by
  obtain ⟨⟨-, -, hfree⟩, hsame⟩ := Option.ite_none_right_eq_some.mp h
  exact ⟨hfree, Option.some.inj hsame⟩

theorem taken_after_iff (event : CompensationEvent) (key : String) :
    (system.after event).store.Taken key ↔
      system.store.Taken key ∨ ∃ taker ∈ system.taking event, taker.compensationKey = key := by
  have hnone : ∀ store : DedupeStore, (store.Taken key ↔ system.store.Taken key) →
      system.taking event = none →
      (store.Taken key ↔ system.store.Taken key ∨
        ∃ taker ∈ system.taking event, taker.compensationKey = key) := by
    intro store hstore htaking
    rw [htaking, hstore]
    simp
  cases event with
  | register effectClass entry => exact hnone _ Iff.rfl rfl
  | execute action dedupe raiseOnFailure =>
    change (system.registry.execute action dedupe raiseOnFailure
      system.store).2.Taken key ↔ _
    cases hhandler : system.registry.hasHandler action.effectClass with
    | false =>
      rw [CompensationRegistry.execute_of_noHandler dedupe raiseOnFailure hhandler]
      exact hnone _ Iff.rfl (by simp [taking, hhandler])
    | true =>
      cases dedupe with
      | false =>
        obtain ⟨call, hexecute⟩ := CompensationRegistry.execute_unshared
          raiseOnFailure hhandler
        rw [hexecute]
        exact hnone _ Iff.rfl rfl
      | true =>
        by_cases htaken : system.store.Taken action.compensationKey
        · rw [CompensationRegistry.execute_of_taken raiseOnFailure hhandler htaken]
          exact hnone _ Iff.rfl (by simp [taking, htaken])
        · obtain ⟨call, store, hexecute, -, -, hmarked⟩ :=
            CompensationRegistry.execute_of_free raiseOnFailure hhandler htaken
          rw [hexecute, hmarked.taken_iff key]
          simp [taking, hhandler, htaken, eq_comm]
  | attempted index outcome =>
    rw [after, step]
    split
    · exact hnone _ Iff.rfl rfl
    · exact hnone _ (taken_attempted_iff outcome) rfl
  | paused index outcome =>
    rw [after, step]
    split
    · exact hnone _ Iff.rfl rfl
    · exact hnone _ (taken_paused_iff outcome) rfl

/-! ## Runs -/

theorem registry_after (event : CompensationEvent)
    (h : event.isRegistration = false) : (system.after event).registry = system.registry := by
  cases event with
  | register effectClass entry => cases h
  | execute action dedupe raiseOnFailure => rfl
  | _ =>
    rw [after, step]
    split <;> rfl

theorem registry_exec (events : List CompensationEvent) {other : Compensations}
    (h : system.registry = other.registry) : (exec after system events).registry =
      (exec after other (events.filter CompensationEvent.isRegistration)).registry := by
  induction events generalizing system other with
  | nil => exact h
  | cons event rest ih =>
    cases hregistration : event.isRegistration with
    | true =>
      rw [List.filter_cons_of_pos hregistration, exec_cons, exec_cons]
      apply ih
      cases event with
      | register effectClass entry =>
        exact congrArg (fun registry => registry.register effectClass entry) h
      | _ => cases hregistration
    | false =>
      rw [List.filter_cons_of_neg (ne_true_of_eq_false hregistration), exec_cons]
      exact ih ((registry_after event hregistration).trans h)

theorem store_exec_registrations (events : List CompensationEvent) :
    (exec after system (events.filter CompensationEvent.isRegistration)).store = system.store := by
  induction events generalizing system with
  | nil => rfl
  | cons event rest ih =>
    cases event with
    | register effectClass entry => exact ih
    | execute action dedupe raiseOnFailure => exact ih
    | attempted index outcome => exact ih
    | paused index outcome => exact ih

def Free (key : String) (system : Compensations) : Prop := ¬ system.store.Taken key

def Takes (key : String) (system : Compensations) (event : CompensationEvent) : Prop :=
  ∃ taker ∈ system.taking event, taker.compensationKey = key

theorem free_after_iff (event : CompensationEvent) :
    (system.after event).Free key ↔ system.Free key ∧ ¬ system.Takes key event := by
  rw [Free, taken_after_iff, not_or]
  exact Iff.rfl

theorem not_takes_of_taken (h : ¬ system.Free key) (event : CompensationEvent) :
    ¬ system.Takes key event := by
  rintro ⟨taker, htaker, rfl⟩
  cases event with
  | execute action dedupe raiseOnFailure =>
    obtain ⟨hfree, rfl⟩ := taking_execute htaker
    exact h hfree
  | register effectClass entry => cases htaker
  | attempted index outcome => cases htaker
  | paused index outcome => cases htaker

theorem free_exec_iff (events : List CompensationEvent) : (exec after system events).Free key ↔
      system.Free key ∧ Along after (fun system event => ¬ system.Takes key event) system
        events := by
  induction events generalizing system with
  | nil => exact (and_iff_left trivial).symm
  | cons event rest ih => rw [exec_cons, along_cons, ih, free_after_iff, and_assoc]

theorem along_of_not_free (h : ¬ system.Free key) (events : List CompensationEvent) :
    Along after (fun system event => ¬ system.Takes key event) system events := by
  have hkeeps : ∀ (s : Compensations) (event : CompensationEvent), ¬ s.Free key → True →
      ¬ (s.after event).Free key :=
    fun s event hs _ hfree => hs ((free_after_iff event).mp hfree).1
  exact along_of_invariant hkeeps (fun s event hs _ => not_takes_of_taken hs event) h
    (along_of_forall fun _ _ _ => trivial)

theorem apart_iff {event : CompensationEvent} (hothers : event.OfOthers action.runId) :
    system.Apart action event ↔ ¬ system.Takes action.compensationKey event := by
  have hrun : ∀ taker ∈ system.taking event, taker.runId ≠ action.runId := by
    intro taker htaker
    cases event with
    | execute executed dedupe raiseOnFailure =>
      obtain ⟨-, rfl⟩ := taking_execute htaker
      exact hothers
    | register effectClass entry => cases htaker
    | attempted index outcome => cases htaker
    | paused index outcome => cases htaker
  constructor
  · rintro hapart ⟨taker, htaker, hkey⟩
    exact hapart taker htaker (hrun taker htaker) (FailedAction.compensationKey_eq_iff.mp hkey)
  · intro htakes taker htaker _ hcollides
    exact htakes ⟨taker, htaker, FailedAction.compensationKey_eq_iff.mpr hcollides⟩

/-- The calls of other runs make no call for an action skipped, exactly if its class has no
handler or none of them takes a key that comes to the same text. -/
theorem independent_iff {events : List CompensationEvent}
    (hothers : ∀ event ∈ events, event.OfOthers action.runId) : system.Independent events action ↔
      ((exec after system events).registry.hasHandler action.effectClass = true →
        Along after (Apart action) system events) := by
  have hapart : Along after (Apart action) system events ↔
      Along after (fun system event => ¬ system.Takes action.compensationKey event) system
        events :=
    along_congr_of_mem (fun event hevent _ => apart_iff (hothers event hevent)) system
  have hfree : (exec after system events).Free action.compensationKey ↔ _ :=
    free_exec_iff events
  rw [Independent, skips_iff, skips_iff, ← registry_exec events rfl, store_exec_registrations,
    hapart]
  constructor
  · intro hindependent hhandler
    by_cases hbefore : system.Free action.compensationKey
    · by_contra htakes
      have htaken : ¬ (exec after system events).Free action.compensationKey :=
        fun hafter => htakes (hfree.mp hafter).2
      exact hbefore (hindependent ⟨hhandler, not_not.mp htaken⟩).2
    · exact along_of_not_free hbefore events
  · rintro halong ⟨hhandler, htaken⟩
    refine ⟨hhandler, ?_⟩
    by_contra hbefore
    exact hfree.mpr ⟨hbefore, halong hhandler⟩ htaken

end Taken

/-- A registry with a handler of `compensatable_write` and nothing called. -/
def fresh : Compensations :=
  ⟨CompensationRegistry.register ⟨.empty⟩ "compensatable_write" {}, .empty, []⟩

/-- A compensation of another run with another action id. -/
theorem independent_of_otherId :
    fresh.Independent [.execute ⟨"run-1", "act-1", "compensatable_write"⟩ true true]
      ⟨"run-2", "act-2", "compensatable_write"⟩ :=
  (independent_iff (by simp [CompensationEvent.OfOthers])).mpr fun _ => by
    refine ⟨fun taker htaker _ hcollides => ?_, trivial⟩
    obtain ⟨-, rfl⟩ := taking_execute htaker
    have hids := ((FailedAction.collides_iff_of_solid (by decide) (by decide)).mp hcollides).2
    exact absurd hids (by decide)

/-- Two runs whose models have chosen one action id. -/
theorem not_independent_of_sameId :
    ¬ fresh.Independent [.execute ⟨"run-1", "act-1", "compensatable_write"⟩ true true]
      ⟨"run-2", "act-1", "compensatable_write"⟩ := by
  intro hindependent
  have hskips := hindependent (by decide)
  exact absurd hskips (by decide)

end Compensations

end HiAgent.Kernel
