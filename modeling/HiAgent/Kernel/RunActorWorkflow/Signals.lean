/-
  Kernel/RunActorWorkflow/Signals.lean --- how a run takes its signals in.

  `run`, `signal`, `_handle_signal` and `_trigger_continue_as_new` of
  `agent_kernel/substrate/temporal/run_actor_workflow.py`. A delivery is suspended three times,
  while the projection is read, while its commit is appended and while the commit is processed,
  and other deliveries go on meanwhile.
-/
import HiAgent.Foundation.Machine
import HiAgent.Kernel.Projection

namespace HiAgent.Kernel

open Foundation

/-! ## Signals -/

/-- `ActorSignal`, without the token that only its serialization reads. -/
structure ActorSignal where
  signalType : String
  signalPayload : Option PyDict
  causedBy : Option String
  fromPeerRunId : Option String

def ActorSignal.cause (signal : ActorSignal) : Option String :=
  signal.causedBy.filter (· ≠ "")

/-- `signal_token`. -/
def ActorSignal.token (signal : ActorSignal) : Option String :=
  signal.cause.map fun cause => signal.signalType ++ ":" ++ cause

def signalEventTypeMap : List (String × String) :=
  [("resume_from_snapshot", "run.resume_requested"), ("cancel_requested", "run.cancel_requested"),
    ("hard_failure", "run.recovery_aborted"),
    ("timeout", "run.waiting_external"),
    ("recovery_succeeded", "run.recovery_succeeded"),
    ("recovery_aborted", "run.recovery_aborted"),
    ("plan_submitted", "run.plan_submitted"),
    ("approval_submitted", "run.approval_submitted"),
    ("speculation_committed", "run.speculation_committed"),
    ("child_run_completed", "run.child_run_completed")]

def signalEventType (signalType : String) : String :=
  (signalEventTypeMap.lookup signalType).getD ("signal." ++ signalType)

/-- `d.setdefault(key, value)`. -/
def setDefault (payload : PyDict) (key value : String) : PyDict :=
  if (payload.lookup key).isSome then payload else payload ++ [(key, .str value)]

def normalizeSignalPayload (signalType : String) (signalPayload : Option PyDict) : Option PyDict :=
  let payload := signalPayload.getD []
  let normalized :=
    if signalType = "cancel_requested" then setDefault payload "reason" "cancel_requested"
    else if signalType = "hard_failure" then
      setDefault (setDefault payload "mode" "abort") "reason" "hard_failure"
    else if signalType = "timeout" then
      setDefault (setDefault payload "mode" "human_escalation") "reason" "timeout"
    else payload
  if normalized.isEmpty then none else some normalized

/-- The commit of a signal. -/
def signalCommit (runId : String) (signal : ActorSignal) (sequence : Nat) (offset : Int)
    (now : String) : ActionCommit where
  runId := runId
  commitId := "signal:" ++ signal.signalType ++ ":" ++
    signal.cause.getD ("seq-" ++ toString sequence)
  events := [{
    runId := runId
    eventId := "evt-signal-" ++ toString sequence
    commitOffset := offset
    eventType := signalEventType signal.signalType
    eventClass := .fact
    eventAuthority := .authoritativeFact
    orderingKey := runId
    wakePolicy := .wakeActor
    createdAt := now
    idempotencyKey := none
    payloadRef := none
    payloadJson := normalizeSignalPayload signal.signalType signal.signalPayload
    schemaVersion := "1" }]
  createdAt := now
  action := none

/-! ## The workflow object -/

/-- `RunInput`, as far as `run` and `continue_as_new` use it. -/
structure RunInput where
  runId : String
  sessionId : Option String
  parentRunId : Option String
  pendingSignals : List ActorSignal
  /-- `policy_versions` is given; the event that pins them is no signal event. -/
  pinsPolicyVersions : Bool

/-- The await a delivery is suspended at. -/
inductive SignalPoint where
  /-- `_projection.get`. -/
  | projecting
  /-- `append_action_commit`, before the log has taken the commit. -/
  | appending (commit : ActionCommit)
  /-- `append_action_commit`, after that. -/
  | appended (commit : ActionCommit)
  /-- `process_action_commit`. -/
  | processing

/-- A delivery that is suspended, and the buffered signals that `run` handles after it. -/
structure SignalCall where
  signal : ActorSignal
  point : SignalPoint
  behind : List ActorSignal

/-- The await `run` is suspended at before it handles a signal. -/
inductive RunPoint where
  /-- The workflow has been started with an input, and `run` has not been called. -/
  | called (input : RunInput)
  /-- `_projection.get`. -/
  | projecting (input : RunInput)
  /-- The append of the policy versions. -/
  | pinning (input : RunInput)
  /-- The loop over the buffered signals, or behind it. -/
  | handling

/-- `RunActorWorkflow`, with the deliveries it has suspended. -/
structure RunActor where
  /-- `_is_temporal_workflow_context`. -/
  inTemporal : Bool
  /-- `history_event_threshold`. -/
  historyEventThreshold : Int
  /-- The empty text before `run`. -/
  runId : String
  sessionId : Option String
  parentRunId : Option String
  lastProjection : Option RunProjection
  pendingSignals : List ActorSignal
  signalSequence : Nat
  seenSignalTokens : List String
  historyEventCount : Int
  point : RunPoint
  calls : List SignalCall

namespace RunActor

/-- A workflow object that is to run an input. -/
def new (inTemporal : Bool) (historyEventThreshold : Int) (input : RunInput) : RunActor where
  inTemporal := inTemporal
  historyEventThreshold := historyEventThreshold
  runId := ""
  sessionId := none
  parentRunId := none
  lastProjection := none
  pendingSignals := []
  signalSequence := 0
  seenSignalTokens := []
  historyEventCount := 0
  point := .called input
  calls := []

variable (actor : RunActor)

/-- The peer check of `_handle_signal`; the attribute `_last_snapshot` is never set. -/
def authorized (signal : ActorSignal) : Bool :=
  signal.fromPeerRunId.all fun peer =>
    (actor.lastProjection.any fun projection => projection.activeChildRuns.contains peer)

/-- `_handle_signal` gets past its two checks. -/
def accepts (signal : ActorSignal) : Bool :=
  actor.authorized signal && !(signal.token.any fun token => actor.seenSignalTokens.contains token)

/-- Signals are handled one after the other, up to the first await. -/
def handleSignals : List ActorSignal → RunActor
  | [] => actor
  | signal :: behind =>
    if actor.accepts signal then
      { actor with
        signalSequence := actor.signalSequence + 1
        calls := actor.calls ++ [⟨signal, .projecting, behind⟩] }
    else handleSignals behind

/-- `signal`. -/
def deliver (signal : ActorSignal) : RunActor :=
  if actor.runId = "" then
    { actor with pendingSignals := actor.pendingSignals ++ [signal] }
  else actor.handleSignals [signal]

/-- `run` up to its first await. -/
def run (input : RunInput) : RunActor :=
  { actor with
    runId := input.runId
    sessionId := input.sessionId
    parentRunId := input.parentRunId
    point := .projecting input }

/-- `run`, where the buffered signals have been taken out. -/
def emptied : RunActor := { actor with pendingSignals := [], point := .handling }

/-- The signals that `run` handles; without a run id the first of them raises. -/
def buffered (input : RunInput) : List ActorSignal :=
  if actor.runId = "" then [] else actor.pendingSignals ++ input.pendingSignals

/-- `run`, where it restores and handles the buffered signals. -/
def restore (input : RunInput) : RunActor :=
  actor.emptied.handleSignals (actor.buffered input)

def shouldContinueAsNew : Bool :=
  actor.inTemporal && decide (actor.historyEventThreshold ≤ actor.historyEventCount) &&
    actor.pendingSignals.isEmpty &&
    actor.lastProjection.any fun projection =>
      projection.lifecycleState ≠ .completed && projection.lifecycleState ≠ .aborted

/-- `_trigger_continue_as_new`: the workflow object that comes next. -/
def continueAsNew : RunActor :=
  new actor.inTemporal actor.historyEventThreshold
    { runId := actor.runId
      sessionId := actor.sessionId
      parentRunId := actor.parentRunId
      pendingSignals := actor.pendingSignals
      pinsPolicyVersions := false }

def counted : RunActor := { actor with historyEventCount := actor.historyEventCount + 1 }

def moveCall (index : Nat) (next : Option SignalCall) : RunActor :=
  { actor with calls := Roster.advance actor.calls index next }

def remember (signal : ActorSignal) : RunActor :=
  { actor with
    seenSignalTokens := actor.seenSignalTokens ++ signal.token.toList }

end RunActor

/-! ## A run and its log -/

/-- What the log has taken for a signal, and which workflow object appended it. -/
structure SignalRecord where
  signal : ActorSignal
  commit : ActionCommit
  instanceNumber : Nat

/-- The current workflow object of a run, and what the runtime log has taken for the
signals of the run. -/
structure SignalledRun where
  actor : RunActor
  log : List SignalRecord
  /-- How often the workflow has continued as new. -/
  instanceNumber : Nat

/-- What happens between two awaits. A number is the position of a delivery. -/
inductive SignalEvent where
  /-- `run` is called on a new workflow object. -/
  | run
  /-- The read of the projection in `run` ends: `none` when it raises. -/
  | started (projection : Option RunProjection)
  | pinned (raised : Bool)
  | signal (signal : ActorSignal)
  /-- The read of the projection for a delivery ends: `none` when it raises. -/
  | projected (call : Nat) (projection : Option RunProjection) (now : String)
  /-- The log takes the commit of a delivery. -/
  | logged (call : Nat)
  /-- The append of a delivery returns, or raises. -/
  | appended (call : Nat) (raised : Bool)
  /-- The processing of a commit refreshes the projection. -/
  | refreshed (projection : RunProjection)
  /-- The processing of a commit returns, or raises. -/
  | processed (call : Nat) (raised : Bool)

namespace SignalledRun

variable (run : SignalledRun)

def start (inTemporal : Bool) (historyEventThreshold : Int) (input : RunInput) : SignalledRun :=
  ⟨.new inTemporal historyEventThreshold input, [], 0⟩

def withActor (actor : RunActor) : SignalledRun := { run with actor := actor }

def append (signal : ActorSignal) (commit : ActionCommit) : SignalledRun :=
  { run with log := run.log ++ [⟨signal, commit, run.instanceNumber⟩] }

/-- The end of a delivery whose commit has been processed. -/
def finish (index : Nat) (behind : List ActorSignal) : SignalledRun :=
  let counted := (run.actor.moveCall index none).counted
  if counted.shouldContinueAsNew then
    { run with actor := counted.continueAsNew, instanceNumber := run.instanceNumber + 1 }
  else run.withActor (counted.handleSignals behind)

/-- One event. An event for which nothing waits changes nothing. -/
def step : SignalEvent → SignalledRun
  | .run =>
    match run.actor.point with
    | .called input => run.withActor (run.actor.run input)
    | _ => run
  | .started projection =>
    match run.actor.point, projection with
    | .projecting _, none => run.withActor { run.actor with point := .handling }
    | .projecting input, some projection =>
      let refreshed := { run.actor with lastProjection := some projection }
      if input.pinsPolicyVersions then
        run.withActor { refreshed with point := .pinning input }
      else run.withActor (refreshed.restore input)
    | _, _ => run
  | .pinned raised =>
    match run.actor.point with
    | .pinning input =>
      if raised then run.withActor { run.actor with point := .handling }
      else run.withActor (run.actor.restore input)
    | _ => run
  | .signal signal => run.withActor (run.actor.deliver signal)
  | .projected index projection now =>
    match run.actor.calls[index]?, projection with
    | some ⟨_, .projecting, _⟩, none => run.withActor (run.actor.moveCall index none)
    | some ⟨signal, .projecting, behind⟩, some projection =>
      let commit := signalCommit run.actor.runId signal run.actor.signalSequence
        (projection.projectedOffset + 1) now
      run.withActor (run.actor.moveCall index (some ⟨signal, .appending commit, behind⟩))
    | _, _ => run
  | .logged index =>
    match run.actor.calls[index]? with
    | some ⟨signal, .appending commit, behind⟩ =>
      (run.withActor (run.actor.moveCall index
        (some ⟨signal, .appended commit, behind⟩))).append signal commit
    | _ => run
  | .appended index raised =>
    match run.actor.calls[index]? with
    | some ⟨_, .appending _, _⟩ =>
      -- it cannot return before the log has taken the commit
      if raised then run.withActor (run.actor.moveCall index none) else run
    | some ⟨signal, .appended _, behind⟩ =>
      if raised then run.withActor (run.actor.moveCall index none)
      else
        run.withActor ((run.actor.remember signal).moveCall index
          (some ⟨signal, .processing, behind⟩))
    | _ => run
  | .refreshed projection =>
    run.withActor { run.actor with lastProjection := some projection }
  | .processed index raised =>
    match run.actor.calls[index]? with
    | some ⟨_, .processing, behind⟩ =>
      if raised then run.withActor (run.actor.moveCall index none)
      else run.finish index behind
    | _ => run

end SignalledRun

open List

/-! ## Signals under way -/

/-- What is still to be logged of a delivery: its own signal, up to the append, and the
signals behind it. -/
def SignalCall.remaining (call : SignalCall) : List ActorSignal :=
  match call.point with
  | .projecting => call.signal :: call.behind
  | .appending _ => call.signal :: call.behind
  | _ => call.behind

/-- The signals that an input of `run` still carries. -/
def RunPoint.carried : RunPoint → List ActorSignal
  | called input => input.pendingSignals
  | projecting input => input.pendingSignals
  | pinning input => input.pendingSignals
  | handling => []

def RunActor.underWay (actor : RunActor) : List ActorSignal :=
  actor.pendingSignals ++ actor.point.carried ++ actor.calls.flatMap SignalCall.remaining

namespace SignalledRun

variable (run : SignalledRun)

def handedOver : SignalEvent → List ActorSignal
  | .signal signal => [signal]
  | _ => []

def skipped (actor : RunActor) (signals : List ActorSignal) : List ActorSignal :=
  signals.takeWhile fun signal => !actor.accepts signal

/-- The signals that `run` passes over, or has none of when it has no run id. -/
def skippedByRun (actor : RunActor) (input : RunInput) : List ActorSignal :=
  if actor.runId = "" then actor.pendingSignals ++ input.pendingSignals
  else skipped actor.emptied (actor.pendingSignals ++ input.pendingSignals)

/-- The signals that an event gives up: they are not under way any more, and the log
has not taken them. -/
def givenUp : SignalEvent → List ActorSignal
  | .started projection =>
    match run.actor.point, projection with
    | .projecting input, none => input.pendingSignals
    | .projecting input, some projection =>
      if input.pinsPolicyVersions then []
      else skippedByRun { run.actor with lastProjection := some projection } input
    | _, _ => []
  | .pinned raised =>
    match run.actor.point with
    | .pinning input =>
      if raised then input.pendingSignals else skippedByRun run.actor input
    | _ => []
  | .signal signal => if run.actor.runId = "" then [] else skipped run.actor [signal]
  | .projected index none _ =>
    match run.actor.calls[index]? with
    | some ⟨signal, .projecting, behind⟩ => signal :: behind
    | _ => []
  | .appended index true =>
    match run.actor.calls[index]? with
    | some ⟨signal, .appending _, behind⟩ => signal :: behind
    | some ⟨_, .appended _, behind⟩ => behind
    | _ => []
  | .processed index raised =>
    match run.actor.calls[index]? with
    | some ⟨_, .processing, behind⟩ =>
      let counted := (run.actor.moveCall index none).counted
      if raised then behind
      -- the new object takes the buffer along and nothing else
      else if counted.shouldContinueAsNew then
        counted.point.carried ++ behind ++ counted.calls.flatMap SignalCall.remaining
      else skipped counted behind
    | _ => []
  | _ => []

def kept (p : ActorSignal → Bool) : Nat :=
  run.actor.underWay.countP p + run.log.countP fun record => p record.signal

/-- What an event gives up is no longer kept, and what it hands over is. -/
def Balanced (p : ActorSignal → Bool) (event : SignalEvent) : Prop :=
  (run.step event).kept p + (run.givenUp event).countP p =
    run.kept p + (handedOver event).countP p

/-! ## One event -/

section Steps

variable {run : SignalledRun} {actor : RunActor} {p : ActorSignal → Bool}

theorem underWay_handleSignals (actor : RunActor) (signals : List ActorSignal) :
    (actor.handleSignals signals).underWay.countP p + (skipped actor signals).countP p =
      actor.underWay.countP p + signals.countP p := by
  induction signals with
  | nil => rfl
  | cons signal behind ih =>
    rw [RunActor.handleSignals, skipped, takeWhile_cons]
    cases haccepts : actor.accepts signal with
    | true =>
      simp only [if_true, Bool.not_true, Bool.false_eq_true, if_false, countP_nil,
        Nat.add_zero, RunActor.underWay, flatMap_append, flatMap_cons,
        flatMap_nil, append_nil, countP_append, SignalCall.remaining]
      omega
    | false =>
      rw [skipped] at ih
      simp only [Bool.false_eq_true, if_false, Bool.not_false, if_true, countP_cons]
      omega

theorem underWay_moveCall {index : Nat} {call : SignalCall}
    (h : actor.calls[index]? = some call) (next : Option SignalCall) :
    (actor.moveCall index next).underWay.countP p + call.remaining.countP p =
      actor.underWay.countP p + (next.toList.flatMap SignalCall.remaining).countP p := by
  have hcalls := Roster.countP_flatMap_advance h SignalCall.remaining p next
  simp only [RunActor.underWay, RunActor.moveCall, countP_append]
  omega

theorem underWay_restore {input : RunInput}
    (hcarried : actor.point.carried = input.pendingSignals) :
    (actor.restore input).underWay.countP p + (skippedByRun actor input).countP p =
      actor.underWay.countP p := by
  have hemptied : actor.emptied.underWay.countP p +
      (actor.pendingSignals ++ input.pendingSignals).countP p = actor.underWay.countP p := by
    have hcalls : actor.emptied.underWay = actor.calls.flatMap SignalCall.remaining := rfl
    rw [hcalls, RunActor.underWay, hcarried]
    simp only [countP_append]
    omega
  rw [RunActor.restore, RunActor.buffered, skippedByRun]
  by_cases hnamed : actor.runId = ""
  · rw [if_pos hnamed, if_pos hnamed]
    exact hemptied
  · rw [if_neg hnamed, if_neg hnamed]
    have hloop := underWay_handleSignals (p := p) actor.emptied
      (actor.pendingSignals ++ input.pendingSignals)
    omega

variable {event : SignalEvent}

attribute [local simp] Balanced step givenUp handedOver

theorem kept_of_actor (actor : RunActor) (hstep : run.step event = run.withActor actor)
    (hbalance : actor.underWay.countP p + (run.givenUp event).countP p =
      run.actor.underWay.countP p + (handedOver event).countP p) : run.Balanced p event := by
  rw [Balanced, hstep, kept, kept]
  simp only [withActor]
  omega

theorem kept_of_idle (hstep : run.step event = run)
    (hgivenUp : run.givenUp event = []) (hhanded : handedOver event = []) :
    run.Balanced p event := by
  rw [Balanced, hstep, hgivenUp, hhanded]

theorem underWay_failed {input : RunInput} (hcarried : actor.point.carried = input.pendingSignals) :
    (RunActor.underWay { actor with point := .handling }).countP p +
        input.pendingSignals.countP p = actor.underWay.countP p := by
  have hfailed : RunActor.underWay { actor with point := .handling } =
      actor.pendingSignals ++ [] ++ actor.calls.flatMap SignalCall.remaining := rfl
  rw [hfailed, RunActor.underWay, hcarried]
  simp only [countP_append, append_nil]
  omega

theorem kept_started (projection : Option RunProjection) :
    run.Balanced p (.started projection) := by
  cases hpoint : run.actor.point with
  | projecting input =>
    have hcarried : run.actor.point.carried = input.pendingSignals := by
      rw [hpoint]
      rfl
    cases projection with
    | none =>
      apply kept_of_actor { run.actor with point := .handling }
      · simp only [step, hpoint]
      · simp only [givenUp, hpoint]
        exact underWay_failed hcarried
    | some projection =>
      cases hpins : input.pinsPolicyVersions with
      | true =>
        apply kept_of_actor
          { run.actor with lastProjection := some projection, point := .pinning input }
        · simp only [step, hpoint, hpins, if_true]
        · simp only [givenUp, hpoint, hpins, if_true]
          rw [RunActor.underWay, RunActor.underWay, hcarried]
          rfl
      | false =>
        apply kept_of_actor
          (RunActor.restore { run.actor with lastProjection := some projection } input)
        · simp only [step, hpoint, hpins, Bool.false_eq_true, if_false]
        · simp only [givenUp, hpoint, hpins, Bool.false_eq_true, if_false]
          refine (underWay_restore rfl).trans ?_
          rw [RunActor.underWay, RunActor.underWay, hpoint]
          rfl
  | _ =>
    apply kept_of_idle _ _ rfl
    · simp only [step, hpoint]
    · simp only [givenUp, hpoint]

theorem kept_pinned (raised : Bool) : run.Balanced p (.pinned raised) := by
  cases hpoint : run.actor.point with
  | pinning input =>
    have hcarried : run.actor.point.carried = input.pendingSignals := by
      rw [hpoint]
      rfl
    cases raised with
    | true =>
      apply kept_of_actor { run.actor with point := .handling }
      · simp only [step, hpoint, if_true]
      · simp only [givenUp, hpoint, if_true]
        exact underWay_failed hcarried
    | false =>
      apply kept_of_actor (run.actor.restore input)
      · simp only [step, hpoint, Bool.false_eq_true, if_false]
      · simp only [givenUp, hpoint, Bool.false_eq_true, if_false]
        exact underWay_restore hcarried
  | _ =>
    apply kept_of_idle _ _ rfl
    · simp only [step, hpoint]
    · simp only [givenUp, hpoint]

theorem kept_signal (signal : ActorSignal) : run.Balanced p (.signal signal) := by
  apply kept_of_actor (run.actor.deliver signal) rfl
  rw [givenUp, handedOver, RunActor.deliver]
  split
  · simp only [RunActor.underWay, countP_append, countP_nil]
    omega
  · exact underWay_handleSignals run.actor [signal]

theorem kept_moveCall {index : Nat} {call : SignalCall}
    {n : Option SignalCall} (hcall : run.actor.calls[index]? = some call)
    (hstep : run.step event = run.withActor (run.actor.moveCall index n))
    (hhanded : handedOver event = [])
    (hremains : (run.givenUp event) ++ n.toList.flatMap SignalCall.remaining = call.remaining) :
    run.Balanced p event := by
  apply kept_of_actor _ hstep
  have hmove := underWay_moveCall (p := p) hcall n
  rw [← hremains, countP_append] at hmove
  rw [hhanded, countP_nil]
  omega

theorem kept_projected (index : Nat) (projection : Option RunProjection) (now : String) :
    run.Balanced p (.projected index projection now) := by
  cases hcall : run.actor.calls[index]? with
  | none => cases projection <;> simp [hcall]
  | some call =>
    obtain ⟨signal, point, behind⟩ := call
    cases point with
    | projecting =>
      cases projection with
      | none =>
        apply kept_moveCall (n := none) hcall _ rfl
        · simp only [givenUp, hcall]
          exact append_nil _
        · simp only [step, hcall]
      | some projection =>
        have hstep : run.step (.projected index (some projection) now) =
            run.withActor (run.actor.moveCall index (some ⟨signal,
              .appending (signalCommit run.actor.runId signal run.actor.signalSequence
                (projection.projectedOffset + 1) now), behind⟩)) := by
          simp only [step, hcall]
        apply kept_moveCall hcall hstep rfl
        simp only [givenUp]
        exact append_nil _
    | _ => cases projection <;> simp [hcall]

theorem kept_logged (index : Nat) : run.Balanced p (.logged index) := by
  cases hcall : run.actor.calls[index]? with
  | none => simp [hcall]
  | some call =>
    obtain ⟨signal, point, behind⟩ := call
    cases point with
    | appending commit =>
      have hmove := underWay_moveCall (p := p) hcall
        (some ⟨signal, .appended commit, behind⟩)
      simp only [Balanced, step, givenUp, handedOver, hcall, kept, append, withActor, countP_append,
        countP_singleton, countP_nil]
      simp only [SignalCall.remaining, Option.toList_some, flatMap_cons,
        flatMap_nil, append_nil, countP_cons] at hmove
      omega
    | _ => simp [hcall]

theorem kept_appended (index : Nat) (raised : Bool) : run.Balanced p (.appended index raised) := by
  cases hcall : run.actor.calls[index]? with
  | none => cases raised <;> simp [hcall]
  | some call =>
    obtain ⟨signal, point, behind⟩ := call
    cases point with
    | appending commit =>
      cases raised with
      | true =>
        apply kept_moveCall (n := none) hcall _ rfl
        · simp only [givenUp, hcall]
          exact append_nil _
        · simp only [step, hcall, if_true]
      | false => simp [hcall]
    | appended commit =>
      cases raised with
      | true =>
        apply kept_moveCall (n := none) hcall _ rfl
        · simp only [givenUp, hcall]
          exact append_nil _
        · simp only [step, hcall, if_true]
      | false =>
        have hcalls : (run.actor.remember signal).calls[index]? =
          some ⟨signal, .appended commit, behind⟩ := hcall
        have hmove := underWay_moveCall (p := p) hcalls
          (some ⟨signal, .processing, behind⟩)
        have hstep : run.step (.appended index false) =
            run.withActor ((run.actor.remember signal).moveCall index
              (some ⟨signal, .processing, behind⟩)) := by
          simp only [step, hcall, Bool.false_eq_true, if_false]
        apply kept_of_actor _ hstep
        simp only [SignalCall.remaining, Option.toList_some, flatMap_cons,
          flatMap_nil, append_nil] at hmove
        exact Nat.add_right_cancel hmove
    | _ => cases raised <;> simp [hcall]

theorem kept_processed (index : Nat) (raised : Bool) :
    run.Balanced p (.processed index raised) := by
  cases hcall : run.actor.calls[index]? with
  | none => simp [hcall]
  | some call =>
    obtain ⟨signal, point, behind⟩ := call
    cases point with
    | processing =>
      have hmove := underWay_moveCall (p := p) hcall none
      simp only [SignalCall.remaining, Option.toList_none, flatMap_nil,
        countP_nil, Nat.add_zero] at hmove
      cases raised with
      | true =>
        apply kept_moveCall (n := none) hcall _ rfl
        · simp only [givenUp, hcall, if_true]
          exact append_nil _
        · simp only [step, hcall, if_true]
      | false =>
        have hcounted : (run.actor.moveCall index none).counted.underWay =
          (run.actor.moveCall index none).underWay := rfl
        cases hgoes : (run.actor.moveCall index none).counted.shouldContinueAsNew with
        | true =>
          -- the new object starts with the buffer of the old one
          have hnew : (run.actor.moveCall index none).counted.continueAsNew.underWay =
              run.actor.pendingSignals ++ [] := rfl
          have hold : (run.actor.moveCall index none).underWay = run.actor.pendingSignals ++
                (run.actor.moveCall index none).counted.point.carried ++
                (run.actor.moveCall index none).counted.calls.flatMap
                  SignalCall.remaining := rfl
          rw [hold] at hmove
          simp only [Balanced, step, hcall, Bool.false_eq_true, if_false, finish, hgoes,
            if_true, givenUp, handedOver, kept, hnew]
          simp only [countP_append, append_nil, countP_nil] at hmove ⊢
          omega
        | false =>
          have hstep : run.step (.processed index false) = run.withActor
              ((run.actor.moveCall index none).counted.handleSignals behind) := by
            simp only [step, hcall, Bool.false_eq_true, if_false, finish, hgoes]
          apply kept_of_actor _ hstep
          have hloop := underWay_handleSignals (p := p)
            (run.actor.moveCall index none).counted behind
          simp only [givenUp, hcall, Bool.false_eq_true, if_false, hgoes]
          rw [hloop, hcounted, hmove]
          rfl
    | _ => simp [hcall]

theorem kept_step (event : SignalEvent) : (run.step event).kept p + (run.givenUp event).countP p =
      run.kept p + (handedOver event).countP p := by
  cases event with
  | run =>
    cases hpoint : run.actor.point with
    | called input =>
      apply kept_of_actor (run.actor.run input)
      · simp only [step, hpoint]
      · rw [RunActor.underWay, RunActor.underWay, hpoint]
        rfl
    | _ => exact kept_of_idle (by simp only [step, hpoint]) rfl rfl
  | started projection => exact kept_started projection
  | pinned raised => exact kept_pinned raised
  | signal signal => exact kept_signal signal
  | projected index projection now => exact kept_projected index projection now
  | logged index => exact kept_logged index
  | appended index raised => exact kept_appended index raised
  | refreshed projection =>
    exact kept_of_actor { run.actor with lastProjection := some projection } rfl rfl
  | processed index raised => exact kept_processed index raised

end Steps

/-! ## Any number of events -/

/-- What the events give up, one after the other. -/
def givenUpOver (run : SignalledRun) : List SignalEvent → List ActorSignal
  | [] => []
  | event :: rest => run.givenUp event ++ (run.step event).givenUpOver rest

theorem kept_exec (run : SignalledRun) (events : List SignalEvent) (p : ActorSignal → Bool) :
    (exec step run events).kept p + (run.givenUpOver events).countP p =
      run.kept p + (events.flatMap handedOver).countP p := by
  induction events generalizing run with
  | nil => rfl
  | cons event rest ih =>
    have hstep := run.kept_step (p := p) event
    have hrest := ih (run.step event)
    rw [exec_cons, givenUpOver, flatMap_cons, countP_append, countP_append]
    omega

/-! ## What the log has of a signal -/

/-- The commit has one event, of the type and with the payload of the signal, and its id names
the cause. -/
structure Writes (signal : ActorSignal) (commit : ActionCommit) : Prop where
  event : commit.events.map (fun event => (event.eventType, event.payloadJson)) =
    [(signalEventType signal.signalType,
      normalizeSignalPayload signal.signalType signal.signalPayload)]
  commitId : ∃ sequence : Nat, commit.commitId = "signal:" ++ signal.signalType ++ ":" ++
    signal.cause.getD ("seq-" ++ toString sequence)

/-- What is appended for a signal, and what the log has taken for it, is its commit. -/
structure Faithful (run : SignalledRun) : Prop where
  calls : ∀ call ∈ run.actor.calls, ∀ commit, call.point = .appending commit →
    Writes call.signal commit
  log : ∀ record ∈ run.log, Writes record.signal record.commit

theorem faithful_start (inTemporal : Bool) (historyEventThreshold : Int) (input : RunInput) :
    (start inTemporal historyEventThreshold input).Faithful where
  calls _ hcall := absurd hcall not_mem_nil
  log _ hrecord := absurd hrecord not_mem_nil

theorem mem_calls_handleSignals {actor : RunActor} {signals : List ActorSignal}
    {call : SignalCall} (h : call ∈ (actor.handleSignals signals).calls) :
    call ∈ actor.calls ∨ call.point = .projecting := by
  induction signals with
  | nil => exact .inl h
  | cons signal behind ih =>
    rw [RunActor.handleSignals] at h
    split at h
    · rcases mem_append.mp h with hold | hnew
      · exact .inl hold
      · obtain rfl := mem_singleton.mp hnew
        exact .inr rfl
    · exact ih h

section

variable {run : SignalledRun} (h : run.Faithful)
include h

theorem Faithful.withActor {actor : RunActor}
    (hcalls : ∀ call ∈ actor.calls, call ∈ run.actor.calls ∨
      ∀ commit, call.point = .appending commit → Writes call.signal commit) :
    (run.withActor actor).Faithful where
  calls call hcall := (hcalls call hcall).elim (h.calls call) id
  log := h.log

theorem Faithful.moveCall {actor : RunActor} {index : Nat} {next : Option SignalCall}
    (hcalls : actor.calls = run.actor.calls) (hnext : ∀ call ∈ next, ∀ commit,
      call.point = .appending commit → Writes call.signal commit) :
    (run.withActor (actor.moveCall index next)).Faithful :=
  h.withActor fun _ hcall => (Roster.mem_advance hcall).imp (fun hold => hcalls ▸ hold)
    fun hnew => hnext _ hnew

theorem Faithful.dropCall (index : Nat) :
    (run.withActor (run.actor.moveCall index none)).Faithful :=
  h.moveCall rfl fun _ hnone => nomatch hnone

theorem Faithful.handleSignals {actor : RunActor} (signals : List ActorSignal)
    (hcalls : ∀ call ∈ actor.calls, call ∈ run.actor.calls) :
    (run.withActor (actor.handleSignals signals)).Faithful :=
  h.withActor fun call hcall => (mem_calls_handleSignals hcall).imp (hcalls call)
    fun hpoint _ happending => nomatch hpoint.symm.trans happending

theorem Faithful.finish (index : Nat) (behind : List ActorSignal) :
    (run.finish index behind).Faithful := by
  unfold SignalledRun.finish
  dsimp only
  split
  · exact ⟨fun _ hcall => absurd hcall not_mem_nil, h.log⟩
  · exact h.handleSignals behind fun _ hcall => mem_of_mem_eraseIdx hcall

theorem Faithful.projected (index : Nat) (projection : Option RunProjection) (now : String) :
    (run.step (.projected index projection now)).Faithful := by
  unfold step
  dsimp only
  split
  · exact h.dropCall index
  · refine h.moveCall rfl fun call hcall commit hpoint => ?_
    obtain rfl := Option.some.inj hcall
    obtain rfl := SignalPoint.appending.inj hpoint
    exact ⟨rfl, _, rfl⟩
  · exact h

theorem Faithful.logged (index : Nat) : (run.step (.logged index)).Faithful := by
  rw [step]
  split
  · rename_i signal commit behind hcall
    have hmoved : (run.withActor (run.actor.moveCall index
        (some ⟨signal, .appended commit, behind⟩))).Faithful := by
      refine h.moveCall rfl fun call hnext _ hpoint => ?_
      obtain rfl := Option.some.inj hnext
      cases hpoint
    refine ⟨hmoved.calls, fun record hrecord => ?_⟩
    rcases mem_append.mp hrecord with hold | hnew
    · exact h.log record hold
    · obtain rfl := mem_singleton.mp hnew
      exact h.calls _ (mem_of_getElem? hcall) commit rfl
  · exact h

theorem Faithful.appended (index : Nat) (raised : Bool) :
    (run.step (.appended index raised)).Faithful := by
  rw [step]
  split
  · split
    · exact h.dropCall index
    · exact h
  · split
    · exact h.dropCall index
    · refine h.moveCall rfl fun call hnext _ hpoint => ?_
      obtain rfl := Option.some.inj hnext
      cases hpoint
  · exact h

/-- No event appends for a signal anything but its commit. -/
theorem Faithful.step (event : SignalEvent) : (run.step event).Faithful := by
  have hsame : ∀ actor : RunActor, actor.calls = run.actor.calls →
      (run.withActor actor).Faithful :=
    fun _ hcalls => h.withActor fun _ hcall => .inl (hcalls ▸ hcall)
  cases event with
  | run =>
    rw [SignalledRun.step]
    split
    · exact hsame _ rfl
    · exact h
  | started projection =>
    unfold SignalledRun.step
    dsimp only
    split
    · exact hsame _ rfl
    · split
      · exact hsame _ rfl
      · exact h.handleSignals _ fun _ hcall => hcall
    · exact h
  | pinned raised =>
    rw [SignalledRun.step]
    split
    · split
      · exact hsame _ rfl
      · exact h.handleSignals _ fun _ hcall => hcall
    · exact h
  | signal signal =>
    rw [SignalledRun.step, RunActor.deliver]
    split
    · exact hsame _ rfl
    · exact h.handleSignals _ fun _ hcall => hcall
  | projected index projection now => exact h.projected index projection now
  | logged index => exact h.logged index
  | appended index raised => exact h.appended index raised
  | refreshed projection => exact hsame _ rfl
  | processed index raised =>
    rw [SignalledRun.step]
    split
    · split
      · exact h.dropCall index
      · exact h.finish index _
    · exact h

end

theorem faithful_exec {run : SignalledRun} (h : run.Faithful) (events : List SignalEvent) :
    (exec step run events).Faithful := by
  induction events generalizing run with
  | nil => exact h
  | cons event rest ih => exact ih (h.step event)

/-- No signal is lost or doubled: the signals of the input and those that were handed over, at
any time, are under way, in the log or given up, each as often as it was there. What the log
has for a signal is the commit of its event. -/
theorem signals_accounted (inTemporal : Bool) (historyEventThreshold : Int) (input : RunInput)
    (events : List SignalEvent) :
    let run := start inTemporal historyEventThreshold input
    let later := exec step run events
    (later.actor.underWay ++ later.log.map (·.signal) ++ run.givenUpOver events).Perm
        (input.pendingSignals ++ events.flatMap handedOver) ∧
      ∀ record ∈ later.log, Writes record.signal record.commit := by
  classical
  intro run later
  refine ⟨perm_iff_count.mpr fun signal => ?_, (faithful_exec (faithful_start ..) events).log⟩
  have hkept := run.kept_exec events (· == signal)
  have hunderWay : run.actor.underWay = input.pendingSignals := append_nil _
  have hlog : run.log = [] := rfl
  simp only [kept, hunderWay, hlog, countP_nil] at hkept
  simp only [count, countP_append, countP_map]
  exact hkept

end SignalledRun

end HiAgent.Kernel
