/-
  Kernel/RecoveryGate.lean --- `PlannedRecoveryGateService` of
  `agent_kernel/kernel/recovery/gate.py`, with the planner and the circuit breaker.
-/
import HiAgent.Foundation.Dict
import HiAgent.Kernel.RunActorWorkflow

namespace HiAgent.Kernel

open Foundation

/-! ## Circuits -/

structure CircuitBreakerPolicy where
  threshold : Int
  halfOpenAfterMs : Int

/-- A row of `circuit_breaker_state`. -/
structure CircuitRow where
  effectClass : String
  failureCount : Nat
  lastFailureTs : Int

/-- The assignment of the upsert of `record_failure`. -/
def CircuitRow.failed (now : Int) : Assignment CircuitRow.effectClass where
  set row := { row with failureCount := row.failureCount + 1, lastFailureTs := now }
  keeps _ := rfl

/-- Where the gate keeps its circuits. -/
inductive Circuits where
  /-- `_circuit_failures` and `_circuit_last_failure_mono`. -/
  | inMemory (failures : Dict String Nat) (lastFailureMono : Dict String Int)
  /-- `SQLiteCircuitBreakerStore`. -/
  | stored (rows : Table CircuitRow.effectClass)

namespace Circuits

/-- The failure count and the time of the last failure, as `_is_circuit_open` reads
them. -/
def getState (circuits : Circuits) (effectClass : String) : Nat × Int :=
  match circuits with
  | inMemory failures lastFailureMono =>
    (failures.getD effectClass 0, lastFailureMono.getD effectClass 0)
  | stored rows =>
    (rows.lookup effectClass).elim (0, 0) fun row => (row.failureCount, row.lastFailureTs)

/-- `record_failure`, and what `_record_circuit_failure` does without a store. -/
def recordFailure (circuits : Circuits) (now : Int) (effectClass : String) : Circuits :=
  match circuits with
  | inMemory failures lastFailureMono =>
    inMemory (failures.set effectClass (failures.getD effectClass 0 + 1))
      (lastFailureMono.set effectClass now)
  | stored rows =>
    match rows.lookup effectClass with
    | none => stored (rows.insertOrIgnore ⟨effectClass, 1, now⟩)
    | some _ => stored (rows.updateAt effectClass (fun _ => true) (CircuitRow.failed now))

/-- `reset`, and what `on_action_success` does without a store. -/
def reset (circuits : Circuits) (effectClass : String) : Circuits :=
  match circuits with
  | inMemory failures lastFailureMono =>
    inMemory (failures.pop effectClass) (lastFailureMono.pop effectClass)
  | stored rows => stored (rows.deleteAt effectClass fun _ => true)

theorem getState_recordFailure (circuits : Circuits) (now : Int) (effectClass other : String) :
    (circuits.recordFailure now effectClass).getState other =
      if other = effectClass then ((circuits.getState effectClass).1 + 1, now)
      else circuits.getState other := by
  cases circuits with
  | inMemory failures lastFailureMono =>
    simp only [recordFailure, getState, Dict.getD_set]
    split <;> rfl
  | stored rows =>
    by_cases heq : other = effectClass
    · subst heq
      rw [if_pos rfl, recordFailure]
      cases hrow : rows.lookup other with
      | none => simp [getState, hrow, Table.lookup_insertOrIgnore]
      | some row => simp [getState, hrow, Table.lookup_updateAt, CircuitRow.failed]
    · rw [if_neg heq, recordFailure]
      cases rows.lookup effectClass with
      | none => simp [getState, heq, Table.lookup_insertOrIgnore]
      | some row => simp [getState, heq, Table.lookup_updateAt]

theorem getState_reset (circuits : Circuits) (effectClass other : String) :
    (circuits.reset effectClass).getState other =
      if other = effectClass then (0, 0) else circuits.getState other := by
  cases circuits with
  | inMemory failures lastFailureMono =>
    simp only [reset, getState, Dict.getD_pop]
    split <;> rfl
  | stored rows =>
    simp only [reset, getState, Table.lookup_deleteAt]
    split
    · simp
    · rfl

end Circuits

/-! ## The planner -/

/-- `RecoveryInput`, without the snapshot that only the reasoning loop reads, and the
attribute `failing_action` that the gate asks for. -/
structure RecoveryInput where
  runId : String
  reasonCode : String
  lifecycleState : LifecycleState
  projection : RunProjection
  failedActionId : Option String
  reflectionRound : Int
  failedEffectClass : Option String
  failingAction : Option Action

structure RecoveryPlan where
  runId : String
  action : String
  reason : String
  compensationActionId : Option String
  escalationChannelRef : Option String

inductive ReasonClassification where
  | transient
  | fatal
  | human
  | unknown

structure PlannerHeuristicPolicy where
  reasonPrefix : String := "recovery"
  defaultEscalationChannelRef : String := "human://operator"
  humanReasonPrefixes : List String :=
    ["human_", "manual_", "requires_human", "waiting_external", "external_"]
  transientReasonPrefixes : List String :=
    ["transient_", "executor_transient", "retryable_"]
  fatalReasonPrefixes : List String :=
    ["fatal", "non_recoverable", "permission_denied", "policy_denied"]
  abortReasonPrefixes : List String := []
  transientAction : String := "schedule_compensation"
  fatalAction : String := "abort_run"
  humanAction : String := "notify_human_operator"
  unknownAction : String := "schedule_compensation"

namespace PlannerHeuristicPolicy

def hasPrefix (value : String) (starts : List String) : Bool :=
  starts.any fun start => Text.startsWith start value

def classifyReason (lower : Text.StrLower) (policy : PlannerHeuristicPolicy) (reasonCode : String) :
    ReasonClassification :=
  let normalizedReason := lower.apply (Text.strip reasonCode)
  if hasPrefix normalizedReason policy.humanReasonPrefixes then .human
  else if hasPrefix normalizedReason
      (policy.fatalReasonPrefixes ++ policy.abortReasonPrefixes) then .fatal
  else if hasPrefix normalizedReason policy.transientReasonPrefixes then .transient
  else .unknown

def actionForClassification (policy : PlannerHeuristicPolicy) : ReasonClassification → String
  | .human => policy.humanAction
  | .fatal => policy.fatalAction
  | .transient => policy.transientAction
  | .unknown => policy.unknownAction

end PlannerHeuristicPolicy

/-- The first text that is given and not empty, else the second: `left or right`. -/
def orElseText (left right : Option String) : Option String :=
  (left.filter (· ≠ "")).or right

def buildPlanFromInput (lower : Text.StrLower) (policy : PlannerHeuristicPolicy)
    (input : RecoveryInput) : Except String RecoveryPlan :=
  if input.runId ≠ input.projection.runId then
    .error "recovery input run_id must match projection run_id."
  else
    let compensationActionId :=
      orElseText input.failedActionId input.projection.currentActionId
    let plan (action : String) (compensation escalation : Option String) :
        Except String RecoveryPlan :=
      .ok ⟨input.runId, action, policy.reasonPrefix ++ ":" ++ input.reasonCode,
        compensation, escalation⟩
    let notify := plan "notify_human_operator" none
      (some policy.defaultEscalationChannelRef)
    match input.projection.recoveryMode with
    | some .humanEscalation => notify
    | some .staticCompensation => plan "schedule_compensation" compensationActionId none
    | some .abort => plan "abort_run" none none
    | _ =>
      if input.lifecycleState = .waitingExternal then notify
      else
        let action := policy.actionForClassification
          (policy.classifyReason lower (lower.apply (Text.strip input.reasonCode)))
        if action = "notify_human_operator" then notify
        else if action = "schedule_compensation" then
          match compensationActionId with
          | some _ => plan "schedule_compensation" compensationActionId none
          | none => plan "abort_run" none none
        else plan action none none

def builtinMappings : List (String × RecoveryMode) :=
  [("schedule_compensation", .staticCompensation), ("notify_human_operator", .humanEscalation),
    ("abort_run", .abort)]

/-! ## Decisions -/

/-- The `RecoveryDecision` of the gate, with the fields the workflow does not read. -/
structure GateDecision extends RecoveryDecision where
  runId : String
  correctedAction : Option Action
  retryAfterMs : Option Int
  failureCount : Nat

def computeRetryAfterMs (mode : RecoveryMode) (failureCount : Nat) : Option Int :=
  if mode = .staticCompensation ∨ mode = .reflectAndRetry then
    some (min (500 * 2 ^ min (failureCount - 1) 16) 30000)
  else none

/-- `ReflectionPolicy`, as far as the gate reads it. -/
structure ReflectionPolicy where
  maxRounds : Int
  reflectableFailureKinds : List String
  nonReflectableFailureKinds : List String
  escalateOnExhaustion : Bool

def ReflectionPolicy.isReflectable (policy : ReflectionPolicy) (failureKind : String) : Bool :=
  !policy.nonReflectableFailureKinds.contains failureKind &&
    policy.reflectableFailureKinds.contains failureKind

def extractEffectClass (lower : Text.StrLower) (input : RecoveryInput) : Option String :=
  let reason := (lower.apply input.reasonCode).toList
  if reason.contains ':' then some (String.ofList (reason.takeWhile (· ≠ ':'))) else none

/-- The plan and the decision fields that are tracked beside it. -/
structure Draft where
  plan : RecoveryPlan
  mode : RecoveryMode
  reason : String
  compensationActionId : Option String
  escalationChannelRef : Option String

/-- How the await of a compensation ends. -/
inductive CompensationOutcome where
  | returned
  | raised
  | cancelled
  deriving DecidableEq

/-- What a compensation that raised leaves of a draft. -/
def Draft.compensated (draft : Draft) : CompensationOutcome → Draft
  | .raised => { draft with
      mode := .humanEscalation
      reason := draft.plan.reason ++ ":compensation_exhausted"
      compensationActionId := none }
  | _ => draft

/-- How the await of the reasoning loop ends. -/
inductive ReasoningOutcome where
  | actions (actions : List Action)
  | raised
  | cancelled

/-- What `decide` builds before it awaits the reasoning loop. -/
structure Preparation where
  /-- `reflection_builder.build`. -/
  context : Except String Unit
  /-- The capability snapshot, where the input carries none. -/
  snapshot : Except String Unit

/-- Nothing that `decide` builds for the reasoning loop raises. -/
def prepared : Preparation := ⟨.ok (), .ok ()⟩

/-- The two readings of the clock that a call makes between its start and its first
await. -/
structure DecideClock where
  checked : Int
  recorded : Int

/-! ## The gate -/

/-- The await a call is suspended at. -/
inductive DecidePoint where
  | compensating
  | reasoning
  deriving DecidableEq

/-- A call of `decide` that is suspended. -/
structure DecideCall where
  input : RecoveryInput
  draft : Draft
  failureCount : Nat
  point : DecidePoint
  /-- The circuit had tripped and its cooldown was over when the call passed the
  check. The code keeps no such mark. -/
  afterCooldown : Bool

structure PlannedRecoveryGateService where
  lower : Text.StrLower
  planner : RecoveryInput → Except String RecoveryPlan
  /-- `KERNEL_RECOVERY_MODE_REGISTRY`. -/
  modeRegistry : List (String × RecoveryMode)
  /-- `has_handler` of the registry. -/
  compensationRegistry : Option (String → Bool)
  reflectionPolicy : Option ReflectionPolicy
  hasReasoningLoop : Bool
  hasReflectionBuilder : Bool
  hasInferenceConfig : Bool
  circuitBreakerPolicy : Option CircuitBreakerPolicy
  failureCounts : Dict String Nat
  circuits : Circuits
  calls : List DecideCall

/-- What becomes of a call of `decide`. -/
inductive DecideAnswer where
  /-- A decision with the reason `circuit_open`. -/
  | rejected (decision : GateDecision)
  /-- A decision of the planner, after `_record_circuit_failure`. -/
  | settled (decision : GateDecision)
  /-- A decision of `_decide_reflect_and_retry`. -/
  | reflected (decision : GateDecision)
  | raised (error : String)
  | cancelled
  | suspended

/-- What happens between two awaits. A number is the position of a call. -/
inductive GateEvent where
  | decide (input : RecoveryInput) (clock : DecideClock) (preparation : Preparation)
  | compensated (call : Nat) (outcome : CompensationOutcome) (now : Int)
      (preparation : Preparation)
  | reasoned (call : Nat) (outcome : ReasoningOutcome)
  | onActionSuccess (effectClass : String)

namespace PlannedRecoveryGateService

variable (gate : PlannedRecoveryGateService)

/-- The failure count of a class has reached the threshold. -/
def tripped : Option String → Bool
  | none => false
  | some effectClass =>
    gate.circuitBreakerPolicy.any fun policy =>
      policy.threshold ≤ ((gate.circuits.getState effectClass).1 : Int)

def isCircuitOpen (effectClass : Option String) (now : Int) : Bool :=
  match gate.circuitBreakerPolicy, effectClass with
  | some policy, some effectClass =>
    let state := gate.circuits.getState effectClass
    if (state.1 : Int) < policy.threshold then false
    else decide (now - state.2 < policy.halfOpenAfterMs)
  | _, _ => false

def recordCircuitFailure (effectClass : Option String) (now : Int) : PlannedRecoveryGateService :=
  match gate.circuitBreakerPolicy, effectClass with
  | some _, some effectClass =>
    { gate with circuits := gate.circuits.recordFailure now effectClass }
  | _, _ => gate

/-- `decide`, from the planner to the await of a compensation; the second component
says whether there is one. -/
def draft (input : RecoveryInput) : Except String (Draft × Bool) :=
  match gate.planner input with
  | .error error => .error error
  | .ok plan =>
    match gate.modeRegistry.lookup plan.action with
    | none => .error ("unsupported recovery plan action: " ++ plan.action)
    | some mode =>
      let drafted : Draft := ⟨plan, mode, plan.reason, plan.compensationActionId,
        plan.escalationChannelRef⟩
      match gate.compensationRegistry, extractEffectClass gate.lower input with
      | some hasHandler, some effectClass =>
        if mode ≠ .staticCompensation then .ok (drafted, false)
        else if hasHandler effectClass then .ok (drafted, input.failingAction.isSome)
        else .ok (⟨plan, .abort, plan.reason ++ ":no_compensation_handler", none, none⟩, false)
      | _, _ => .ok (drafted, false)

def shouldReflect (input : RecoveryInput) (mode : RecoveryMode) : Bool :=
  match gate.reflectionPolicy with
  | none => false
  | some policy =>
    gate.hasReasoningLoop && gate.hasReflectionBuilder &&
      (mode == .staticCompensation || mode == .abort) &&
      policy.isReflectable input.reasonCode &&
      decide (input.reflectionRound < policy.maxRounds)

/-- The decision `decide` returns without a reflection. -/
def plannedDecision (call : DecideCall) : GateDecision where
  runId := call.draft.plan.runId
  mode := call.draft.mode
  reason := call.draft.reason
  compensationActionId := call.draft.compensationActionId
  escalationChannelRef := call.draft.escalationChannelRef
  correctedAction := none
  retryAfterMs := computeRetryAfterMs call.draft.mode call.failureCount
  failureCount := call.failureCount

/-- The decision of `_decide_reflect_and_retry`, with its backoff. -/
def reflectedDecision (call : DecideCall) (outcome : ReasoningOutcome) : GateDecision :=
  let decision (mode : RecoveryMode) (suffix : String) (corrected : Option Action) : GateDecision :=
    { runId := call.input.runId
      mode := mode
      reason := call.draft.reason ++ suffix
      compensationActionId := none
      escalationChannelRef := none
      correctedAction := corrected
      retryAfterMs := computeRetryAfterMs mode call.failureCount
      failureCount := call.failureCount }
  match outcome with
  | .actions (corrected :: _) =>
    decision .reflectAndRetry
      (":reflect_and_retry:round=" ++ toString (call.input.reflectionRound + 1))
      (some corrected)
  | _ =>
    -- `_fallback_decision`
    if gate.reflectionPolicy.any ReflectionPolicy.escalateOnExhaustion then
      decision .humanEscalation ":reflect_exhausted:escalated" none
    else decision .abort ":reflect_exhausted:aborted" none

def suspend (call : DecideCall) (point : DecidePoint) : DecideAnswer × PlannedRecoveryGateService :=
  (.suspended, { gate with calls := gate.calls ++ [{ call with point := point }] })

/-- `_decide_reflect_and_retry` up to the await of the reasoning loop. -/
def reflect (call : DecideCall) (preparation : Preparation) :
    DecideAnswer × PlannedRecoveryGateService :=
  match preparation.context with
  | .error error => (.raised error, gate)
  | .ok _ =>
    if gate.hasInferenceConfig then
      match preparation.snapshot with
      | .error error => (.raised error, gate)
      | .ok _ => gate.suspend call .reasoning
    else
      (.raised ("PlannedRecoveryGateService._default_inference_config is None" ++
        " — platform layer must inject InferenceConfig via constructor" ++
        " before recovery"), gate)

/-- `decide`, after the compensation. -/
def goOn (call : DecideCall) (now : Int) (preparation : Preparation) :
    DecideAnswer × PlannedRecoveryGateService :=
  if gate.shouldReflect call.input call.draft.mode then gate.reflect call preparation
  else
    (.settled (plannedDecision call), gate.recordCircuitFailure call.input.failedEffectClass now)

def countFailure (runId : String) : PlannedRecoveryGateService :=
  { gate with
    failureCounts := gate.failureCounts.set runId (gate.failureCounts.getD runId 0 + 1) }

/-- `decide` up to its first await. -/
def startDecide (input : RecoveryInput) (clock : DecideClock) (preparation : Preparation) :
    DecideAnswer × PlannedRecoveryGateService :=
  let failureCount := gate.failureCounts.getD input.runId 0 + 1
  let counted := gate.countFailure input.runId
  if counted.isCircuitOpen input.failedEffectClass clock.checked then
    (.rejected {
      runId := input.runId
      mode := .abort
      reason := input.reasonCode ++ ":circuit_open"
      compensationActionId := none
      escalationChannelRef := none
      correctedAction := none
      retryAfterMs := none
      failureCount := failureCount }, counted)
  else
    match counted.draft input with
    | .error error => (.raised error, counted)
    | .ok (draft, executes) =>
      let call : DecideCall := ⟨input, draft, failureCount, .compensating,
        counted.tripped input.failedEffectClass⟩
      if executes then counted.suspend call .compensating
      else counted.goOn call clock.recorded preparation

def callAt (index : Nat) (point : DecidePoint) : Option DecideCall :=
  (gate.calls[index]?).filter fun call => decide (call.point = point)

def resumeCall (index : Nat) : PlannedRecoveryGateService :=
  { gate with calls := Roster.advance gate.calls index none }

/-- One event, with what becomes of the call it is about. An event for which nothing
waits changes nothing. -/
def step : GateEvent → Option DecideAnswer × PlannedRecoveryGateService
  | .decide input clock preparation =>
    (gate.startDecide input clock preparation).map some id
  | .compensated index outcome now preparation =>
    match gate.callAt index .compensating with
    | none => (none, gate)
    | some call =>
      if outcome = .cancelled then (some .cancelled, gate.resumeCall index)
      else
        ((gate.resumeCall index).goOn
          { call with draft := call.draft.compensated outcome } now preparation).map
            some id
  | .reasoned index outcome =>
    match gate.callAt index .reasoning with
    | none => (none, gate)
    | some call =>
      match outcome with
      | .cancelled => (some .cancelled, gate.resumeCall index)
      | outcome =>
        (some (.reflected (gate.reflectedDecision call outcome)), gate.resumeCall index)
  | .onActionSuccess effectClass =>
    (none, { gate with circuits := gate.circuits.reset effectClass })

end PlannedRecoveryGateService

end HiAgent.Kernel
