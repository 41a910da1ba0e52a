/-
  Kernel/RunActorWorkflow.lean --- one action commit in the decision chain of a run.

  `RunActorWorkflow.process_action_commit` of
  `agent_kernel/substrate/temporal/run_actor_workflow.py`: the projection is caught up,
  the decision is deduplicated by its fingerprint, the turn engine runs one turn, and
  the outcome of the turn is appended to the event log.
-/
import HiAgent.Kernel.ProjectionService
import HiAgent.Kernel.AtMostOnce

namespace HiAgent.Kernel

open Foundation

/-! ## The result of a turn -/

/-- `TurnResult`, as far as the workflow reads it. -/
structure TurnResult where
  outcomeKind : TurnOutcomeKind
  decisionRef : String
  decisionFingerprint : String
  dispatchDedupeKey : Option String
  intentCommitRef : Option String

/-- The text of an outcome kind. -/
def TurnOutcomeKind.value : TurnOutcomeKind → String
  | noop => "noop"
  | blocked => "blocked"
  | dispatched => "dispatched"
  | recoveryPending => "recovery_pending"

/-- `ctx.turn_identity`: without a snapshot, the one of the legacy key. -/
def TurnRequest.turnIdentity (engine : Engine) (request : TurnRequest) : Option TurnIdentity :=
  request.resolveAction.map fun action =>
    let contentHash := request.snapshotHash.bind fun snapshotHash =>
      engine.digest (contentPayload action snapshotHash)
    buildTurnIdentity request.input action contentHash.toOption

/-- The result that goes with an outcome. -/
def TurnRequest.result (engine : Engine) (request : TurnRequest) (kind : TurnOutcomeKind) :
    TurnResult :=
  match request.turnIdentity engine with
  | some identity => {
      outcomeKind := kind
      decisionRef := identity.decisionRef
      decisionFingerprint := identity.decisionFingerprint
      dispatchDedupeKey := some identity.dispatchDedupeKey
      intentCommitRef := some identity.intentCommitRef }
  | none => {
      outcomeKind := kind
      decisionRef := "decision:" ++ request.input.runId ++ ":" ++
        toString request.input.basedOnOffset
      decisionFingerprint := request.input.runId ++ ":" ++ request.input.triggerType ++
        ":noop:" ++ toString request.input.basedOnOffset
      dispatchDedupeKey := none
      intentCommitRef := none }

/-- What `run_turn` comes to at the end of its phases. -/
def Position.result : Position → Except String TurnOutcomeKind
  | .finished _ result => result
  | _ => .error "RuntimeError"

/-- `run_turn`: what it returns or raises, and the store it leaves. -/
def TurnRequest.runTurn (engine : Engine) (request : TurnRequest) (calls : TurnCalls)
    (store : DedupeStore) : Except String TurnResult × DedupeStore :=
  match prepare engine request with
  | .raised error => (.error error, store)
  | .ended kind => (.ok (request.result engine kind), store)
  | .ready turn =>
    let point := turn.run calls store
    (point.1.result.map (request.result engine), point.2)

/-! ## Appends to the event log -/

/-- An append to the event log, which may raise before or after it has had its effect. -/
def StoreCall.append (call : StoreCall) (commit : ActionCommit) (log : InMemoryEventLog) :
    Except String Unit × InMemoryEventLog :=
  match call with
  | returns => ((log.appendActionCommit commit).1.map (fun _ => ()) |>.mapError
      fun _ => "ValueError", (log.appendActionCommit commit).2)
  | raises error applied =>
    (.error error, if applied then (log.appendActionCommit commit).2 else log)

def turnOutcomeEventType : TurnOutcomeKind → String
  | .dispatched => "run.dispatching"
  | .recoveryPending => "run.recovering"
  | .blocked => "run.ready"
  | .noop => "run.ready"

/-- The text of a recovery mode. -/
def RecoveryMode.value : RecoveryMode → String
  | staticCompensation => "static_compensation"
  | humanEscalation => "human_escalation"
  | abort => "abort"
  | reflectAndRetry => "reflect_and_retry"

def recoveryEventType : RecoveryMode → String
  | .abort => "run.recovery_aborted"
  | .humanEscalation => "run.waiting_external"
  | _ => "run.recovering"

/-- `RecoveryDecision`, as far as the workflow reads it. -/
structure RecoveryDecision where
  mode : RecoveryMode
  reason : String
  compensationActionId : Option String
  escalationChannelRef : Option String

def optionalText : Option String → PyValue
  | some text => .str text
  | none => .none

/-- The commit of `_append_turn_outcome_commit`. -/
def turnOutcomeCommit (runId now : String) (payload : PyDict) (offset : Int)
    (result : TurnResult) : ActionCommit where
  runId := runId
  commitId := "turn:" ++ result.outcomeKind.value ++ ":" ++ toString offset
  events := [{
    runId := runId
    eventId := "evt-turn-" ++ result.outcomeKind.value ++ "-" ++ toString offset
    commitOffset := offset
    eventType := turnOutcomeEventType result.outcomeKind
    eventClass := .fact
    eventAuthority := .authoritativeFact
    orderingKey := runId
    wakePolicy := .wakeActor
    createdAt := now
    idempotencyKey := some result.decisionFingerprint
    payloadRef := none
    payloadJson := some payload
    schemaVersion := "1" }]
  createdAt := now
  action := none

/-- The commit of `_append_recovery_event`. -/
def recoveryCommit (runId now : String) (offset : Int) (decision : RecoveryDecision) :
    ActionCommit where
  runId := runId
  commitId := "recovery:" ++ recoveryEventType decision.mode ++ ":" ++ toString offset
  events := [{
      runId := runId
      eventId := "evt-recovery-plan-" ++ toString offset
      commitOffset := offset
      eventType := "recovery.plan_selected"
      eventClass := .derived
      eventAuthority := .derivedDiagnostic
      orderingKey := runId
      wakePolicy := .projectionOnly
      createdAt := now
      idempotencyKey := none
      payloadRef := none
      payloadJson := some [
        ("planned_mode", .str decision.mode.value),
        ("reason", .str decision.reason),
        ("compensation_action_id", optionalText decision.compensationActionId),
        ("escalation_channel_ref", optionalText decision.escalationChannelRef)]
      schemaVersion := "1" },
    { runId := runId
      eventId := "evt-recovery-" ++ toString offset
      commitOffset := offset + 1
      eventType := recoveryEventType decision.mode
      eventClass := .fact
      eventAuthority := .authoritativeFact
      orderingKey := runId
      wakePolicy := .wakeActor
      createdAt := now
      idempotencyKey := none
      payloadRef := none
      payloadJson := some [
        ("mode", .str decision.mode.value),
        ("reason", .str decision.reason)]
      schemaVersion := "1" }]
  createdAt := now
  action := none

/-! ## The workflow -/

/-- What a workflow works on. -/
structure Workflow where
  log : InMemoryEventLog
  projection : ProjectionService
  /-- The fingerprints its deduper has seen. -/
  seenFingerprints : List String
  dedupeStore : DedupeStore

/-- A call of the recovery gate and the append of what it decides. -/
structure RecoveryRound where
  decision : Except String RecoveryDecision
  append : StoreCall

/-- What the services answer one commit. -/
structure ProcessEnv where
  now : String
  /-- Up to the store, of the turn. -/
  snapshotHash : Except SnapshotFault String
  admission : Except String Admission
  calls : TurnCalls
  /-- `_build_turn_outcome_payload`. -/
  payload : TurnResult → PyDict
  /-- The exception of the turn intent log, if any. -/
  writeIntent : Option String
  append : StoreCall
  /-- The `mark_unknown_effect` after a failed append. -/
  rollback : StoreCall
  /-- After a turn whose effect is unknown. -/
  pending : RecoveryRound
  /-- After an exception. -/
  failure : RecoveryRound

namespace Workflow

/-- The recovery gate decides, and its decision is appended. -/
def recover (w : Workflow) (now : String) (round : RecoveryRound) (runId : String)
    (offset : Int) : Except String Unit × Workflow :=
  match round.decision with
  | .error error => (.error error, w)
  | .ok decision =>
    let appended := round.append.append (recoveryCommit runId now offset decision) w.log
    (appended.1, { w with log := appended.2 })

def appendTurnOutcomeCommit (w : Workflow) (env : ProcessEnv) (runId : String)
    (offset : Int) (result : TurnResult) : Except String Unit × Workflow :=
  match env.writeIntent, result.intentCommitRef with
  | some error, some _ => (.error error, w)
  | _, _ =>
    let appended := env.append.append
      (turnOutcomeCommit runId env.now (env.payload result) offset result) w.log
    (appended.1, { w with log := appended.2 })

/-- The rollback of the dispatch key: an exception is suppressed. -/
def rollBack (w : Workflow) (call : StoreCall) (result : TurnResult) : Workflow :=
  match result.dispatchDedupeKey with
  | none => w
  | some key =>
    { w with
      dedupeStore := (call.perform (DedupeStore.markUnknownEffect key) w.dedupeStore).2 }

/-- The turn of an action. -/
def turnRequest (env : ProcessEnv) (runId : String) (offset : Int) (action : Action) :
    TurnRequest where
  input := ⟨runId, offset, offset, "signal"⟩
  action := some action
  reasoning := none
  snapshotHash := env.snapshotHash
  admission := env.admission

/-- The `try` of `process_action_commit`. -/
def decide (w : Workflow) (engine : Engine) (env : ProcessEnv) (runId : String)
    (offset : Int) (action : Action) : Except String Unit × Workflow :=
  let turn := (turnRequest env runId offset action).runTurn engine env.calls w.dedupeStore
  let w := { w with dedupeStore := turn.2 }
  match turn.1 with
  | .error error => (.error error, w)
  | .ok result =>
    let appended := w.appendTurnOutcomeCommit env runId (offset + 1) result
    match appended.1 with
    | .error error => (.error error, appended.2.rollBack env.rollback result)
    | .ok _ =>
      if result.outcomeKind = .recoveryPending then
        appended.2.recover env.now env.pending runId (offset + 2)
      else (.ok (), appended.2)

/-- How the part of `process_action_commit` before the turn ends. -/
inductive Admitted where
  | ended (result : Except String Unit)
  | turn (offset : Int) (action : Action)

/-- `process_action_commit` up to the turn. -/
def enter (w : Workflow) (commit : ActionCommit) : Admitted × Workflow :=
  if commit.events.any (·.eventAuthority == .derivedDiagnostic) then
    (.ended (.error "ValueError"), w)
  else
    match commit.events.getLast? with
    | none => (.ended (.error "IndexError"), w)
    | some last =>
      let caughtUp := w.projection.catchUp w.log commit.runId last.commitOffset
      let ready := caughtUp.2.readiness w.log commit.runId last.commitOffset
      let w := { w with projection := ready.2 }
      if ready.1 = false then (.ended (.ok ()), w)
      else
        let fingerprint := commit.runId ++ ":" ++ commit.commitId ++ ":" ++
          toString last.commitOffset
        if fingerprint ∈ w.seenFingerprints then (.ended (.ok ()), w)
        else
          let w := { w with seenFingerprints := fingerprint :: w.seenFingerprints }
          match commit.action with
          | none => (.ended (.ok ()), w)
          | some action => (.turn last.commitOffset action, w)

def processActionCommit (engine : Engine) (env : ProcessEnv) (commit : ActionCommit)
    (w : Workflow) : Except String Unit × Workflow :=
  let admitted := w.enter commit
  match admitted.1 with
  | .ended result => (result, admitted.2)
  | .turn offset action =>
    let decided := admitted.2.decide engine env commit.runId offset action
    match decided.1 with
    | .ok _ => decided
    | .error error =>
      let answered := decided.2.recover env.now env.failure commit.runId (offset + 1)
      (answered.1.bind fun _ => .error error, answered.2)

end Workflow

/-! ## The dispatch key of a turn that has returned -/

namespace Turn

variable {turn : Turn} {calls : TurnCalls} {opening store : DedupeStore}

def reservedState (turn : Turn) (calls : TurnCalls) (opening : DedupeStore) : Option DedupeState :=
  if calls.reserve.applies = true ∧ opening.state turn.key = none then some .dispatched
  else opening.state turn.key

/-- The state of the dispatch key when `run_turn` returns. -/
def returnedState (turn : Turn) (calls : TurnCalls) (opening : DedupeStore) : Option DedupeState :=
  if calls.reserve = .returns then some calls.execution.effect
  else turn.reservedState calls opening

/-- What is known of the dispatch key at a position of a turn. -/
def KeyAt (turn : Turn) (calls : TurnCalls) (opening : DedupeStore) : Position → DedupeStore → Prop
  | .lookup, store => store.state turn.key = opening.state turn.key
  | .reserve, store => store.state turn.key = opening.state turn.key
  | .mirror, store =>
    turn.legacyKey ≠ turn.key ∧ calls.reserve = .returns ∧ store.state turn.key = some .dispatched
  | .execute true aliased, store =>
    (aliased = true → turn.legacyKey ≠ turn.key) ∧ calls.reserve = .returns ∧
      store.state turn.key = some .dispatched
  | .execute false _, store =>
    calls.reserve ≠ .returns ∧ store.state turn.key = turn.reservedState calls opening
  | .settle ending aliased, store =>
    (aliased = true → turn.legacyKey ≠ turn.key) ∧ calls.reserve = .returns ∧
      store.state turn.key = some .dispatched ∧ ending.state = calls.execution.effect
  | .settleAlias ending, store =>
    turn.legacyKey ≠ turn.key ∧ calls.execution.answers = true ∧
      (store.state turn.key = turn.returnedState calls opening ∨ ∃ error, ending = .raised error)
  | .finished invoked result, store =>
    invoked = true → ∀ kind, result = .ok kind → calls.execution.answers = true ∧
        store.state turn.key = turn.returnedState calls opening

theorem state_of_conclude {available aliased : Bool} {execution : Execution}
    {position : Position} (h : conclude available aliased execution = position) :
    (∃ ending, ending.state = execution.effect ∧
      position = conclude.after available aliased ending) ∨
        ∃ error, position = .finished true (.error error) := by
  subst h
  cases execution with
  | cancelled => exact .inr ⟨_, rfl⟩
  | raises error => exact .inl ⟨.raised error, rfl, rfl⟩
  | returns result =>
    cases result with
    | dict fields =>
      unfold conclude Execution.effect Execution.acknowledges
      dsimp only
      split
      · exact .inl ⟨.acknowledged, rfl, rfl⟩
      · exact .inl ⟨.unacknowledged, rfl, rfl⟩
    | _ => exact .inr ⟨_, rfl⟩

theorem answers_of_state {ending : Ending} {execution : Execution}
    (h : ending.state = execution.effect) : execution.answers = true := by
  rw [← Execution.effect_settled_iff, ← h]
  cases ending with
  | acknowledged => exact .inl rfl
  | _ => exact .inr rfl

theorem state_markMethod_of_ne (ending : Ending) {marked key : String} (h : key ≠ marked) :
    (markMethod ending marked store).2.state key = store.state key := by
  have hmark : ∀ from_ next,
      (DedupeStore.mark from_ next marked store).2.state key = store.state key := by
    intro from_ next
    rw [DedupeStore.state_mark, if_neg fun hand => h hand.1]
  cases ending with
  | _ => exact hmark _ _

theorem state_perform_reserve (call : StoreCall) (h : store.state turn.key =
    opening.state turn.key) :
    (call.perform (DedupeStore.reserveAndDispatch turn.envelope none) store).2.state turn.key =
      if call.applies = true ∧ opening.state turn.key = none then some .dispatched
      else opening.state turn.key := by
  rw [StoreCall.perform_snd]
  cases happlies : call.applies with
  | true =>
    rw [if_pos rfl, DedupeStore.state_reserveAndDispatch, envelope_key, h]
    simp
  | false => simp [h]

section Steps

variable (turn calls opening)

theorem keyAt_finished_false (result : Except String TurnOutcomeKind) (after : DedupeStore) :
    turn.KeyAt calls opening (.finished false result) after := by
  intro hinvoked
  cases hinvoked

theorem keyAt_finished_error (invoked : Bool) (error : String) (after : DedupeStore) :
    turn.KeyAt calls opening (.finished invoked (.error error)) after := by
  intro _ kind hkind
  cases hkind

theorem keyAt_lookup (h : turn.KeyAt calls opening .lookup store) :
    turn.KeyAt calls opening (turn.step calls.lookup calls.execution .lookup store).1
      (turn.step calls.lookup calls.execution .lookup store).2 := by
  have hstore : (calls.lookup.perform (DedupeStore.get turn.legacyKey) store).2 = store := by
    rw [StoreCall.perform_snd]
    exact ite_self _
  unfold step
  dsimp only
  rw [hstore]
  unfold looked
  split
  · exact keyAt_finished_false turn calls opening _ _
  · exact h

theorem keyAt_reserve (h : turn.KeyAt calls opening .reserve store) :
    turn.KeyAt calls opening (turn.step calls.reserve calls.execution .reserve store).1
      (turn.step calls.reserve calls.execution .reserve store).2 := by
  have hstate := state_perform_reserve calls.reserve h
  unfold step
  dsimp only
  cases hcall : calls.reserve with
  | returns =>
    rw [hcall, StoreCall.perform_returns] at hstate
    rw [StoreCall.perform_returns]
    by_cases htaken : store.Taken turn.key
    · rw [← envelope_key] at htaken
      obtain ⟨existing, hthere⟩ := DedupeStore.reserveAndDispatch_of_taken none htaken
      rw [hthere]
      exact keyAt_finished_false turn calls opening _ _
    · have hfree : opening.state turn.key = none :=
        h.symm.trans (DedupeStore.state_eq_none_iff.mpr htaken)
      rw [if_pos ⟨rfl, hfree⟩] at hstate
      rw [DedupeStore.reserveAndDispatch_of_free (by rw [envelope_key]; exact htaken),
        Turn.reserved]
      split
      · rename_i hsame
        exact ⟨fun haliased => absurd haliased Bool.false_ne_true, hcall, hstate⟩
      · rename_i hne
        exact ⟨hne, hcall, hstate⟩
  | raises error applied =>
    rw [hcall] at hstate
    change turn.KeyAt calls opening (turn.reserved (.error error)) _
    unfold Turn.reserved
    dsimp only
    split
    · refine ⟨fun hreturns => ?_, ?_⟩
      · cases hcall.symm.trans hreturns
      · rw [reservedState, hcall]
        exact hstate
    · exact keyAt_finished_false turn calls opening _ _

theorem keyAt_mirror (h : turn.KeyAt calls opening .mirror store) :
    turn.KeyAt calls opening (turn.step calls.mirror calls.execution .mirror store).1
      (turn.step calls.mirror calls.execution .mirror store).2 := by
  obtain ⟨hne, hcall, hkey⟩ := h
  have hstate : (calls.mirror.perform (DedupeStore.reserveAndDispatch turn.legacyEnvelope
      turn.envelope.peerOperationId) store).2.state turn.key = some .dispatched := by
    rw [StoreCall.perform_snd]
    split
    · rw [DedupeStore.state_reserveAndDispatch, legacyEnvelope_key,
        if_neg fun hand => hne hand.1.symm, hkey]
    · exact hkey
  unfold step
  dsimp only
  unfold mirrored
  split
  · exact ⟨fun _ => hne, hcall, hstate⟩
  · exact ⟨fun haliased => absurd haliased Bool.false_ne_true, hcall, hstate⟩

theorem keyAt_execute {available aliased : Bool}
    (h : turn.KeyAt calls opening (.execute available aliased) store) :
    turn.KeyAt calls opening (conclude available aliased calls.execution) store := by
  rcases state_of_conclude (rfl : conclude available aliased calls.execution = _) with
    ⟨ending, hending, hpoint⟩ | ⟨error, hpoint⟩
  · rw [hpoint, conclude.after]
    cases available with
    | true => exact ⟨h.1, h.2.1, h.2.2, hending⟩
    | false =>
      intro _ kind _
      rw [returnedState, if_neg h.1]
      exact ⟨answers_of_state hending, h.2⟩
  · rw [hpoint]
    exact keyAt_finished_error turn calls opening _ _ _

theorem keyAt_settle {ending : Ending} {aliased : Bool}
    (h : turn.KeyAt calls opening (.settle ending aliased) store) : turn.KeyAt calls opening
      (turn.step calls.settle calls.execution (.settle ending aliased) store).1
      (turn.step calls.settle calls.execution (.settle ending aliased) store).2 := by
  obtain ⟨hne, hcall, hkey, hending⟩ := h
  -- the call has returned, or its exception is suppressed
  have hfurther : ∀ after : DedupeStore, (after.state turn.key = turn.returnedState calls opening ∨
      ∃ error, ending = .raised error) →
        turn.KeyAt calls opening (settled.further aliased ending) after := by
    intro after hafter
    unfold settled.further
    cases haliased : aliased with
    | true => exact ⟨hne haliased, answers_of_state hending, hafter⟩
    | false =>
      intro _ kind hkind
      rcases hafter with hstate | ⟨error, rfl⟩
      · exact ⟨answers_of_state hending, hstate⟩
      · cases hkind
  have hback : turn.returnedState calls opening = some ending.state := by
    rw [returnedState, if_pos hcall, hending]
  unfold step
  dsimp only
  cases hsettle : calls.settle with
  | returns =>
    rw [StoreCall.perform_returns, markMethod_fst ending hkey, settled]
    refine hfurther _ (.inl ?_)
    rw [state_markMethod ending hkey, if_pos rfl, hback]
  | raises error applied =>
    change turn.KeyAt calls opening (settled aliased ending (.error error)) _
    cases ending with
    | raised raised => exact hfurther _ (.inr ⟨raised, rfl⟩)
    | _ => exact keyAt_finished_error turn calls opening _ _ _

theorem keyAt_settleAlias {ending : Ending}
    (h : turn.KeyAt calls opening (.settleAlias ending) store) : turn.KeyAt calls opening
      (turn.step calls.settleAlias calls.execution (.settleAlias ending) store).1
      (turn.step calls.settleAlias calls.execution (.settleAlias ending) store).2 := by
  obtain ⟨hne, hanswers, hstate⟩ := h
  intro _ kind hkind
  rcases hstate with hstate | ⟨error, rfl⟩
  · refine ⟨hanswers, ?_⟩
    change (calls.settleAlias.perform _ store).2.state turn.key = _
    rw [StoreCall.perform_snd]
    split
    · rw [state_markMethod_of_ne ending (Ne.symm hne), hstate]
    · exact hstate
  · cases hkind

theorem keyAt_step {position : Position} (h : turn.KeyAt calls opening position store) :
    turn.KeyAt calls opening (turn.step (calls.at position) calls.execution position store).1
      (turn.step (calls.at position) calls.execution position store).2 := by
  cases position with
  | lookup => exact keyAt_lookup turn calls opening h
  | reserve => exact keyAt_reserve turn calls opening h
  | mirror => exact keyAt_mirror turn calls opening h
  | execute available aliased => exact keyAt_execute turn calls opening h
  | settle ending aliased => exact keyAt_settle turn calls opening h
  | settleAlias ending => exact keyAt_settleAlias turn calls opening h
  | finished invoked result => exact h

theorem keyAt_drive (n : Nat) (point : Position × DedupeStore)
    (h : turn.KeyAt calls opening point.1 point.2) :
    turn.KeyAt calls opening (turn.drive calls n point).1 (turn.drive calls n point).2 := by
  induction n generalizing point with
  | zero => exact h
  | succ n ih => exact ih _ (keyAt_step turn calls opening h)

theorem state_run {kind : TurnOutcomeKind}
    (h : (turn.run calls opening).1 = .finished true (.ok kind)) : calls.execution.answers = true ∧
      (turn.run calls opening).2.state turn.key = turn.returnedState calls opening := by
  have hstart : turn.KeyAt calls opening turn.start opening := by
    unfold start
    split <;> rfl
  have hend := keyAt_drive turn calls opening 6 (turn.start, opening) hstart
  rw [← run, h] at hend
  exact hend rfl kind rfl

end Steps

end Turn

/-! ## An outcome that cannot be appended -/

/-- The workflow comes to the append of the outcome of a turn whose executor has been
called, and the append raises. -/
structure OutcomeLost (engine : Engine) (env : ProcessEnv) (commit : ActionCommit)
    (w : Workflow) (turn : Turn) : Prop where
  admitted : ∃ offset action, (w.enter commit).1 = .turn offset action ∧
    prepare engine (Workflow.turnRequest env commit.runId offset action) = .ready turn
  returned : ∃ kind, (turn.run env.calls w.dedupeStore).1 = .finished true (.ok kind)
  intent : env.writeIntent = none
  raises : env.append ≠ .returns

/-- Whether a failed append is surfaced: the executor has not acknowledged; or, for an
action that is dispatched without a reservation, the record that is there all the same is
of unknown effect, or is dispatched and the rollback takes effect. -/
def Surfaces (turn : Turn) (env : ProcessEnv) (store : DedupeStore) : Prop :=
  if env.calls.reserve = .returns then env.calls.execution.acknowledges = false
  else
    turn.reservedState env.calls store = some .unknownEffect ∨
      turn.reservedState env.calls store = some .dispatched ∧ env.rollback.applies = true

instance (turn : Turn) (env : ProcessEnv) (store : DedupeStore) :
    Decidable (Surfaces turn env store) := by
  unfold Surfaces
  infer_instance

section Lost

variable {engine : Engine} {env : ProcessEnv} {commit : ActionCommit} {w : Workflow}
  {turn : Turn}

theorem of_prepare {request : TurnRequest} (h : prepare engine request = .ready turn) :
    request.resolveAction = some turn.action ∧ request.input = turn.input ∧
      request.snapshotHash = .ok turn.snapshotHash ∧
        engine.digest (contentPayload turn.action turn.snapshotHash) = .ok turn.contentHash := by
  unfold prepare at h
  split at h
  · cases h
  · rename_i action haction
    dsimp only at h
    split at h
    · cases h
    · cases h
    · rename_i snapshotHash contentHash hhashes
      obtain ⟨snapshot, hshot, hdigest⟩ := bind_eq_ok_iff.mp hhashes
      obtain ⟨content, hcontent, hpair⟩ := map_eq_ok_iff.mp hdigest
      obtain ⟨rfl, rfl⟩ := Prod.mk.inj hpair
      split at h
      · cases h
      · split at h
        · cases h
        · obtain rfl := Prepared.ready.inj h
          exact ⟨haction, rfl, hshot, hcontent⟩

theorem dispatchDedupeKey_of_ready {request : TurnRequest}
    (h : prepare engine request = .ready turn) (kind : TurnOutcomeKind) :
    (request.result engine kind).dispatchDedupeKey = some turn.key := by
  obtain ⟨haction, hinput, hshot, hdigest⟩ := of_prepare h
  have hidentity : request.turnIdentity engine = some turn.identity := by
    rw [TurnRequest.turnIdentity, haction, hinput, hshot]
    change some (buildTurnIdentity _ _ (Except.toOption (engine.digest _))) = _
    rw [hdigest]
    rfl
  rw [TurnRequest.result, hidentity]
  rfl

theorem enter_dedupeStore (w : Workflow) (commit : ActionCommit) :
    (w.enter commit).2.dedupeStore = w.dedupeStore := by
  unfold Workflow.enter
  split
  · rfl
  · split
    · rfl
    · dsimp only
      split
      · rfl
      · split
        · rfl
        · cases commit.action with
          | none => rfl
          | some action => rfl

theorem recover_dedupeStore (w : Workflow) (now : String) (round : RecoveryRound)
    (runId : String) (offset : Int) :
    (w.recover now round runId offset).2.dedupeStore = w.dedupeStore := by
  unfold Workflow.recover
  split <;> rfl

theorem state_markUnknownEffect (store : DedupeStore) (key : String) :
    (DedupeStore.markUnknownEffect key store).2.state key =
      if store.state key = some .dispatched then some .unknownEffect else store.state key := by
  rw [DedupeStore.markUnknownEffect, DedupeStore.state_mark]
  cases hstate : store.state key with
  | none => simp
  | some state => cases state <;> simp

theorem dedupeStore_of_lost (h : OutcomeLost engine env commit w turn) :
    (w.processActionCommit engine env commit).2.dedupeStore =
      (env.rollback.perform (DedupeStore.markUnknownEffect turn.key)
        (turn.run env.calls w.dedupeStore).2).2 := by
  obtain ⟨⟨offset, action, henter, hready⟩, ⟨kind, hback⟩, hintent, hraises⟩ := h
  have hstore : (w.enter commit).2.dedupeStore = w.dedupeStore := enter_dedupeStore w commit
  generalize hbefore : (w.enter commit).2 = before at hstore
  have hturn : (Workflow.turnRequest env commit.runId offset action).runTurn engine env.calls
      before.dedupeStore =
        (.ok ((Workflow.turnRequest env commit.runId offset action).result engine kind),
          (turn.run env.calls w.dedupeStore).2) := by
    rw [TurnRequest.runTurn, hready, hstore]
    dsimp only
    rw [hback]
    rfl
  have hkey := dispatchDedupeKey_of_ready hready kind
  generalize hresult : (Workflow.turnRequest env commit.runId offset action).result engine kind =
    result at hturn hkey
  -- the append raises, and the exception leads to the rollback
  have hdecide : ∃ error, ((before.decide engine env commit.runId offset action).1 = .error error) ∧
      (before.decide engine env commit.runId offset action).2.dedupeStore =
        (env.rollback.perform (DedupeStore.markUnknownEffect turn.key)
          (turn.run env.calls w.dedupeStore).2).2 := by
    cases happend : env.append with
    | returns => exact absurd happend hraises
    | raises error applied =>
      refine ⟨error, ?_⟩
      unfold Workflow.decide
      rw [hturn]
      dsimp only
      unfold Workflow.appendTurnOutcomeCommit
      rw [hintent, happend]
      dsimp only [StoreCall.append, Workflow.rollBack]
      rw [hkey]
      exact ⟨rfl, rfl⟩
  obtain ⟨error, hfst, hsnd⟩ := hdecide
  unfold Workflow.processActionCommit
  dsimp only
  rw [henter, hbefore]
  dsimp only
  rw [hfst]
  exact (recover_dedupeStore ..).trans hsnd

/-- A failed append leaves the dispatch key in `unknown_effect` when it surfaces. -/
theorem outcome_surfaces_iff (h : OutcomeLost engine env commit w turn) :
    (w.processActionCommit engine env commit).2.dedupeStore.state turn.key = some .unknownEffect ↔
      Surfaces turn env w.dedupeStore := by
  obtain ⟨kind, hback⟩ := h.returned
  obtain ⟨hanswers, hstate⟩ := Turn.state_run turn env.calls w.dedupeStore hback
  have hafter : (w.processActionCommit engine env commit).2.dedupeStore.state turn.key =
      if env.rollback.applies = true ∧
          turn.returnedState env.calls w.dedupeStore = some .dispatched then
        some .unknownEffect
      else turn.returnedState env.calls w.dedupeStore := by
    rw [dedupeStore_of_lost h, StoreCall.perform_snd, ← hstate]
    cases env.rollback.applies with
    | true =>
      refine (state_markUnknownEffect _ _).trans ?_
      simp
    | false => simp
  rw [hafter, Surfaces, Turn.returnedState]
  split
  · -- the reservation was made: the record stands as the executor has answered
    cases hack : env.calls.execution.acknowledges with
    | true => simp [Execution.effect, hack]
    | false => simp [Execution.effect, hack, hanswers]
  · -- the turn went on without a reservation
    generalize turn.reservedState env.calls w.dedupeStore = reserved
    by_cases hsent : env.rollback.applies = true ∧ reserved = some .dispatched
    · rw [if_pos hsent]
      exact iff_of_true rfl (.inr ⟨hsent.2, hsent.1⟩)
    · rw [if_neg hsent]
      exact ⟨.inl, fun h => h.resolve_right fun hand => hsent ⟨hand.2, hand.1⟩⟩

end Lost

namespace Workflow

/-- A commit that asks for an action. -/
def delivered : ActionCommit where
  runId := "run-1"
  commitId := "commit-1"
  events := [{ RuntimeEvent.plain "run.ready" .authoritativeFact with commitOffset := 1 }]
  createdAt := ""
  action := some Ledger.submit

/-- The commit is in the log, and nothing has been dispatched. -/
def opened : Workflow where
  log := (InMemoryEventLog.empty.appendActionCommit delivered).2
  projection := .fresh
  seenFingerprints := []
  dedupeStore := .empty

/-- The executor returns a dictionary, and the outcome cannot be appended. -/
def losing (result : PyDict) : ProcessEnv where
  now := ""
  snapshotHash := .ok Ledger.firstSnapshot
  admission := .ok ⟨true, .value .none⟩
  calls := .steady (.returns (.dict result))
  payload _ := []
  writeIntent := none
  append := .raises "database is locked" false
  rollback := .returns
  pending := ⟨.error "unused", .returns⟩
  failure := ⟨.ok ⟨.abort, "operationalerror", none, none⟩, .returns⟩

/-- The turn of the commit. -/
def deliveredTurn : Turn where
  input := ⟨"run-1", 1, 1, "signal"⟩
  action := Ledger.submit
  contentHash := "a9c2412e802958862b6466efa63950b171e9e6846884c1f22bac4300bb50e064"
  snapshotHash := Ledger.firstSnapshot
  hostKind := .localCli
  admitted := none

/-- An executor that does not acknowledge leaves a record of unknown effect. -/
theorem outcome_surfaces_unacknowledged :
    (opened.processActionCommit Ledger.digests (losing []) delivered).2.dedupeStore.state
      deliveredTurn.key = some .unknownEffect := by
  have hlost : OutcomeLost Ledger.digests (losing []) delivered opened deliveredTurn :=
    ⟨⟨1, Ledger.submit, rfl, rfl⟩, ⟨.recoveryPending, by decide⟩, rfl, nofun⟩
  exact (outcome_surfaces_iff hlost).mpr (by decide)

/-- The executor has acknowledged, and the record stays acknowledged. -/
theorem not_outcome_surfaces_acknowledged :
    ¬ ∀ (engine : Engine) (env : ProcessEnv) (commit : ActionCommit) (w : Workflow)
        (turn : Turn), OutcomeLost engine env commit w turn →
      (w.processActionCommit engine env commit).2.dedupeStore.state turn.key =
        some .unknownEffect := by
  intro h
  have hstate := h Ledger.digests (losing [("acknowledged", .bool true)]) delivered opened
    deliveredTurn ⟨⟨1, Ledger.submit, rfl, rfl⟩, ⟨.dispatched, by decide⟩, rfl, nofun⟩
  revert hstate
  decide

end Workflow

end HiAgent.Kernel
