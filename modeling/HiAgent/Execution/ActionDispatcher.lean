/-
  Execution/ActionDispatcher.lean --- an action and its attempts.

  `hi_agent/execution/action_dispatcher.py`: `ActionDispatcher`.
  `hi_agent/middleware/hooks.py`: `ExecutionHookManager.wrap_tool_call`.

  An attempt makes a second invocation when the chain of hooks took the first one and anything
  but a result came back from it in time.
-/
import HiAgent.Execution.StageOrchestrator
import HiAgent.Foundation.PyValue

namespace HiAgent.Execution

open Foundation

/-! ## Capabilities -/

/-- What comes back from a capability: the answer of the invoker, or of the harness
an action with its state and its output. -/
inductive Reply where
  | invoker (result : PyValue)
  | harness (succeeded : Bool) (output : PyValue)

/-- The result an answer is turned into. The output of an action comes behind the
fields the harness path sets, so it may replace them. -/
def Reply.value : Reply → PyValue
  | .invoker result => result
  | .harness succeeded (.dict output) => .dict (output ++ [("success", .bool succeeded)])
  | .harness succeeded _ => .dict [("success", .bool succeeded)]

abbrev Call := Except Raise PyValue

/-- `bool(result.get("success", False))`, of a value that may have no `get`. -/
def reportsSuccess : PyValue → Except Raise Bool
  | .dict fields => .ok (PyDict.get fields "success" (.bool false)).truthy
  | _ => .error (.other "object has no attribute 'get'")

/-- The invocation reported success. -/
def Call.succeeded : Call → Bool
  | .ok value => match reportsSuccess value with
    | .ok success => success
    | .error _ => false
  | .error _ => false

def Call.gate : Call → Option String
  | .error (.gatePending gateId) => some gateId
  | _ => none

/-! ## Hooks -/

/-- A hook of a chain. -/
inductive HookCall where
  | returns (seconds : Nat)
  /-- The chain logs the exception and goes on with the next hook. -/
  | raises (seconds : Nat)
  | hangs

/-- `run_pre_tool` and `run_post_tool`: how long the chain takes, if it ends. -/
def chainTime : List HookCall → Option Nat
  | [] => some 0
  | .returns seconds :: rest => (chainTime rest).map (seconds + ·)
  | .raises seconds :: rest => (chainTime rest).map (seconds + ·)
  | .hangs :: _ => none

def hookTimeout : Nat := 120

/-- What the callables answer in one attempt. -/
structure AttemptAnswers where
  /-- `record_event_fn("ActionPlanned", ...)`. -/
  planned : Option Raise
  /-- `record_event_fn("tool_call", ...)`. -/
  toolCall : Option Raise
  /-- What stops the chain before it is scheduled: the import of the hooks, the
  context of the call, the bridge to the event loop. -/
  bridge : Option String
  preTool : List HookCall
  postTool : List HookCall
  /-- The capability, invoked inside the chain. -/
  hooked : Except Raise Reply
  hookedSeconds : Nat
  /-- The capability, invoked directly. -/
  direct : Except Raise Reply
  /-- `record_event_fn("ActionExecuted", ...)`. -/
  executed : Option Raise
  /-- `emit_observability_fn("action_executed", ...)`. -/
  observed : Option Raise
  /-- `nudge_check_fn`. -/
  nudged : Option Raise
  /-- `record_event_fn("ActionExecutionFailed", ...)`. -/
  failureRecorded : Option Raise
  /-- `emit_observability_fn`, behind a failure. -/
  failureObserved : Option Raise

namespace AttemptAnswers

def hookedCall (answers : AttemptAnswers) : Call := answers.hooked.map Reply.value

def directCall (answers : AttemptAnswers) : Call := answers.direct.map Reply.value

def inTime (answers : AttemptAnswers) : Bool :=
  match chainTime answers.preTool, chainTime answers.postTool with
  | some before, some after => before + answers.hookedSeconds + after ≤ hookTimeout
  | _, _ => false

/-- `wrap_tool_call` under the time limit: the invocation it makes, at once or after
the wait for it was given up, and what the wait ends with. -/
def wrapToolCall (answers : AttemptAnswers) : Option Call × Except Raise PyValue :=
  match chainTime answers.preTool with
  | none => (none, .error (.other "TimeoutError"))
  | some _ =>
    let call := answers.hookedCall
    if answers.inTime then
      (some call, call.bind fun value => (reportsSuccess value).map fun _ => value)
    else (some call, .error (.other "TimeoutError"))

end AttemptAnswers

/-! ## Attempts -/

/-- Who raised what leaves the dispatcher. -/
inductive Origin where
  | capability
  | callback

/-- How `_execute_action_with_retry` ends. -/
inductive DispatchOutcome where
  | returns (success : Bool) (result : Option PyValue) (attempt : Int)
  | raises (origin : Origin) (raise : Raise)

/-- `ActionDispatchContext`. -/
structure ActionDispatcher where
  /-- A hook manager is there. -/
  hookManager : Bool
  actionMaxRetries : Int

/-- The loop over the attempts: those begun so far, the invocations made in each, and
the end of the loop. -/
structure Attempts where
  attempt : Nat
  calls : List (List Call)
  outcome : Option DispatchOutcome

namespace ActionDispatcher

variable (ctx : ActionDispatcher)

def maxAttempts : Int := ctx.actionMaxRetries + 1

/-- `_invoke_capability_via_hooks`: the invocations, and what it returns or raises.
Whatever is not a gate error leads to a direct invocation. -/
def invokeCapabilityViaHooks (answers : AttemptAnswers) : List Call × Call :=
  if ctx.hookManager then
    match answers.bridge with
    | some _ => ([answers.directCall], answers.directCall)
    | none =>
      match answers.wrapToolCall with
      | (call, .ok value) => (call.toList, .ok value)
      | (call, .error (.gatePending gateId)) =>
        (call.toList, .error (.gatePending gateId))
      | (call, .error _) => (call.toList ++ [answers.directCall], answers.directCall)
  else ([answers.directCall], answers.directCall)

/-- The `except Exception` of an attempt. -/
def fail (answers : AttemptAnswers) (attempt : Nat) : Option DispatchOutcome :=
  match answers.failureRecorded.or answers.failureObserved with
  | some raise => some (.raises .callback raise)
  | none => if attempt = ctx.maxAttempts then some (.returns false none attempt) else none

/-- What an attempt makes of the result of its invocation. -/
def conclude (answers : AttemptAnswers) (attempt : Nat) (result : Call) : Option DispatchOutcome :=
  match result with
  | .error _ => ctx.fail answers attempt
  | .ok value =>
    match reportsSuccess value with
    | .error _ => ctx.fail answers attempt
    | .ok success =>
      match (answers.executed.or answers.observed).or answers.nudged with
      | some _ => ctx.fail answers attempt
      | none =>
        if success then some (.returns true (some value) attempt)
        else if attempt = ctx.maxAttempts then
          some (.returns false (some value) attempt)
        else none

/-- What leaves an attempt before its invocation: the second event is recorded in the
first attempt only. -/
def announce (answers : AttemptAnswers) (attempt : Nat) : Option Raise :=
  answers.planned.or (if attempt = 1 then answers.toolCall else none)

/-- One attempt. -/
def attempt (loop : Attempts) (answers : AttemptAnswers) : Attempts :=
  match loop.outcome with
  | some _ => loop
  | none =>
    let attempt := loop.attempt + 1
    match announce answers attempt with
    | some raise =>
      { attempt
        calls := loop.calls ++ [[]]
        outcome := some (.raises .callback raise) }
    | none =>
      let invoked := ctx.invokeCapabilityViaHooks answers
      { attempt
        calls := loop.calls ++ [invoked.1]
        outcome := ctx.conclude answers attempt invoked.2 }

def start : Attempts where
  attempt := 0
  calls := []
  outcome := none

def allAnswers (answers : Nat → AttemptAnswers) : List AttemptAnswers :=
  (List.range ctx.maxAttempts.toNat).map answers

/-- `_execute_action_with_retry`: the invocations made in each attempt, and the end. -/
def executeActionWithRetry (answers : Nat → AttemptAnswers) : List (List Call) × DispatchOutcome :=
  let loop := exec ctx.attempt start (ctx.allAnswers answers)
  (loop.calls, loop.outcome.getD (.returns false none ctx.maxAttempts))

end ActionDispatcher

open List

def DispatchOutcome.succeeded : DispatchOutcome → Bool
  | .returns success _ _ => success
  | .raises _ _ => false

/-- An attempt runs the capability once: at most one invocation an attempt, none
behind one that reported success, success exactly when one was reported, and a gate
that the capability asks for leaves as it is. -/
structure Once (calls : List (List Call)) (outcome : DispatchOutcome) : Prop where
  single : ∀ attempt ∈ calls, attempt.length ≤ 1
  last : ∀ before call after, calls.flatten = before ++ call :: after →
    Call.succeeded call = true → after = []
  success : outcome.succeeded = true ↔ ∃ call ∈ calls.flatten, Call.succeeded call = true
  gate : ∀ call ∈ calls.flatten, ∀ gateId ∈ Call.gate call,
    outcome = .raises .capability (.gatePending gateId)

namespace ActionDispatcher

def chained (ctx : ActionDispatcher) (answers : AttemptAnswers) : Bool :=
  ctx.hookManager && answers.bridge.isNone && (chainTime answers.preTool).isSome

def firstCall (ctx : ActionDispatcher) (answers : AttemptAnswers) : Call :=
  if ctx.chained answers then answers.hookedCall else answers.directCall

/-- A chain that takes the capability ends in time with a result, no gate is asked
for, and behind a success no callback raises. -/
structure CleanAttempt (ctx : ActionDispatcher) (answers : AttemptAnswers) : Prop where
  chain : ctx.chained answers = true →
    answers.inTime = true ∧ ∃ fields, answers.hookedCall = .ok (.dict fields)
  direct : ctx.chained answers = false → Call.gate answers.directCall = none
  quiet : Call.succeeded (ctx.firstCall answers) = true →
    answers.executed = none ∧ answers.observed = none ∧ answers.nudged = none

/-- The attempt, where it is made and gets as far as its invocation, is clean. -/
def Clean (ctx : ActionDispatcher) (loop : Attempts) (answers : AttemptAnswers) : Prop :=
  loop.outcome = none → announce answers (loop.attempt + 1) = none → CleanAttempt ctx answers

variable {ctx : ActionDispatcher} {answers : AttemptAnswers}

/-! ## The invocations of an attempt -/

theorem invoke_of_not_chained (h : ctx.chained answers = false) :
    ctx.invokeCapabilityViaHooks answers = ([answers.directCall], answers.directCall) := by
  unfold invokeCapabilityViaHooks
  unfold chained at h
  split
  · rename_i hmanager
    split
    · rfl
    · rename_i hbridge
      rw [hmanager, hbridge, Option.isNone_none, Bool.and_true, Bool.true_and,
        Option.isSome_eq_false_iff, Option.isNone_iff_eq_none] at h
      unfold AttemptAnswers.wrapToolCall
      rw [h]
      rfl
  · rfl

theorem invoke_of_chained (h : ctx.chained answers = true) :
    (∃ fields, answers.inTime = true ∧ answers.hookedCall = .ok (.dict fields) ∧
      ctx.invokeCapabilityViaHooks answers = ([answers.hookedCall], answers.hookedCall)) ∨
    (∃ gateId, answers.inTime = true ∧ answers.hookedCall = .error (.gatePending gateId) ∧
      ctx.invokeCapabilityViaHooks answers = ([answers.hookedCall], answers.hookedCall)) ∨
    ((answers.inTime = true → ∀ fields, answers.hookedCall ≠ .ok (.dict fields)) ∧
      ctx.invokeCapabilityViaHooks answers =
        ([answers.hookedCall, answers.directCall], answers.directCall)) := by
  unfold chained at h
  rw [Bool.and_eq_true, Bool.and_eq_true, Option.isNone_iff_eq_none, Option.isSome_iff_exists] at h
  obtain ⟨⟨hmanager, hbridge⟩, seconds, hpre⟩ := h
  unfold invokeCapabilityViaHooks AttemptAnswers.wrapToolCall
  rw [if_pos hmanager, hbridge, hpre]
  dsimp only
  by_cases htime : answers.inTime = true
  · rw [if_pos htime]
    cases hcall : answers.hookedCall with
    | error raise =>
      cases raise with
      | gatePending gateId => exact .inr (.inl ⟨gateId, htime, rfl, rfl⟩)
      | _ => exact .inr (.inr ⟨fun _ => nofun, rfl⟩)
    | ok value =>
      cases value with
      | dict fields => exact .inl ⟨fields, htime, rfl, rfl⟩
      | none | bool _ | int _ | float _ | str _ | list _ | other _ _ =>
        exact .inr (.inr ⟨fun _ => nofun, rfl⟩)
  · rw [if_neg htime]
    exact .inr (.inr ⟨fun h => absurd h htime, rfl⟩)

/-! ## The end of an attempt -/

def outcomeOf (ctx : ActionDispatcher) (outcome : Option DispatchOutcome) : DispatchOutcome :=
  outcome.getD (.returns false none ctx.maxAttempts)

def Fails (outcome : DispatchOutcome) : Prop :=
  outcome.succeeded = false ∧ ∀ raise, outcome ≠ .raises .capability raise

theorem fails_none : Fails (ctx.outcomeOf none) := ⟨rfl, nofun⟩

theorem fails_fail (attempt : Nat) : Fails (ctx.outcomeOf (ctx.fail answers attempt)) := by
  unfold fail
  split
  · exact ⟨rfl, nofun⟩
  · split
    · exact ⟨rfl, nofun⟩
    · exact fails_none

theorem conclude_spec (ctx : ActionDispatcher) (answers : AttemptAnswers)
    (attempt : Nat) (call : Call) : (Call.succeeded call = true ∧
        (answers.executed = none ∧ answers.observed = none ∧ answers.nudged = none) ∧
        (ctx.outcomeOf (ctx.conclude answers attempt call)).succeeded = true) ∨
      (¬ (Call.succeeded call = true ∧
          answers.executed = none ∧ answers.observed = none ∧ answers.nudged = none) ∧
        Fails (ctx.outcomeOf (ctx.conclude answers attempt call))) := by
  have hcallbacks : (answers.executed.or answers.observed).or answers.nudged = none ↔
      answers.executed = none ∧ answers.observed = none ∧ answers.nudged = none := by
    rw [Option.or_eq_none_iff, Option.or_eq_none_iff, and_assoc]
  unfold conclude
  cases call with
  | error raise => exact .inr ⟨fun h => Bool.false_ne_true h.1, fails_fail attempt⟩
  | ok value =>
    unfold Call.succeeded
    dsimp only
    cases hreports : reportsSuccess value with
    | error raise => exact .inr ⟨fun h => Bool.false_ne_true h.1, fails_fail attempt⟩
    | ok success =>
      dsimp only
      cases hraised : (answers.executed.or answers.observed).or answers.nudged with
      | some raise =>
        refine .inr ⟨fun h => ?_, fails_fail attempt⟩
        rw [hcallbacks.mpr h.2] at hraised
        cases hraised
      | none =>
        cases success with
        | true => exact .inl ⟨rfl, hcallbacks.mp hraised, rfl⟩
        | false =>
          refine .inr ⟨fun h => Bool.false_ne_true h.1, ?_⟩
          dsimp only
          rw [if_neg Bool.false_ne_true]
          split
          · exact ⟨rfl, nofun⟩
          · exact fails_none

/-! ## One attempt -/

theorem gate_eq_none_of_succeeded {call : Call} (h : Call.succeeded call = true) :
    Call.gate call = none := by
  cases call with
  | error raise => cases h
  | ok value => rfl

variable {outcome : DispatchOutcome}

theorem once_one {call : Call} (hgate : Call.gate call = none)
    (hsuccess : outcome.succeeded = Call.succeeded call) : Once [[call]] outcome where
  single attempt hmem := by rw [mem_singleton.mp hmem, length_singleton]
  last before other after hsplit _ := by
    have hlength := congrArg List.length hsplit
    simp only [flatten_cons, flatten_nil, append_nil, length_append,
      length_cons, length_nil] at hlength
    exact eq_nil_of_length_eq_zero (by omega)
  success := by
    rw [hsuccess]
    simp only [flatten_cons, flatten_nil, append_nil, mem_singleton, exists_eq_left]
  gate other hmem gateId hasks := by
    rw [mem_singleton.mp hmem, hgate] at hasks
    cases hasks

theorem once_single_iff (answers : AttemptAnswers) (attempt : Nat) (call : Call) :
    Once [[call]] (ctx.outcomeOf (ctx.conclude answers attempt call)) ↔
      Call.gate call = none ∧ (Call.succeeded call = true →
        answers.executed = none ∧ answers.observed = none ∧ answers.nudged = none) := by
  have hmem : call ∈ [[call]].flatten := mem_singleton_self call
  rcases conclude_spec ctx answers attempt call with
    ⟨hcall, hquiet, houtcome⟩ | ⟨hnot, hfails⟩
  · have hgate := gate_eq_none_of_succeeded hcall
    refine iff_of_true (once_one hgate ?_) ⟨hgate, fun _ => hquiet⟩
    rw [houtcome, hcall]
  · constructor
    · intro h
      constructor
      · rw [Option.eq_none_iff_forall_not_mem]
        intro gateId hasks
        exact hfails.2 _ (h.gate call hmem gateId hasks)
      · intro hcall
        have houtcome := h.success.mpr ⟨call, hmem, hcall⟩
        rw [hfails.1] at houtcome
        cases houtcome
    · rintro ⟨hgate, hquiet⟩
      apply once_one hgate
      rw [hfails.1, eq_comm, Bool.eq_false_iff]
      exact fun hcall => hnot ⟨hcall, hquiet hcall⟩

theorem once_attempt_iff (answers : AttemptAnswers) (attempt : Nat) :
    Once [(ctx.invokeCapabilityViaHooks answers).1] (ctx.outcomeOf (ctx.conclude answers attempt
          (ctx.invokeCapabilityViaHooks answers).2)) ↔ CleanAttempt ctx answers := by
  cases hchained : ctx.chained answers with
  | false =>
    have hfirst : ctx.firstCall answers = answers.directCall := by
      rw [firstCall, hchained, if_neg Bool.false_ne_true]
    rw [invoke_of_not_chained hchained, once_single_iff]
    constructor
    · rintro ⟨hgate, hquiet⟩
      refine ⟨fun h => ?_, fun _ => hgate, fun h => hquiet (hfirst ▸ h)⟩
      rw [hchained] at h
      cases h
    · intro h
      exact ⟨h.direct hchained, fun hcall => h.quiet (hfirst ▸ hcall)⟩
  | true =>
    have hfirst : ctx.firstCall answers = answers.hookedCall := by
      rw [firstCall, hchained, if_pos rfl]
    rcases invoke_of_chained hchained with
      ⟨fields, htime, hcall, hinvoke⟩ | ⟨gateId, _, hcall, hinvoke⟩ | ⟨hnot, hinvoke⟩
    · rw [hinvoke, once_single_iff]
      constructor
      · rintro ⟨_, hquiet⟩
        refine ⟨fun _ => ⟨htime, fields, hcall⟩, fun h => ?_, fun h => hquiet (hfirst ▸ h)⟩
        rw [hchained] at h
        cases h
      · intro h
        refine ⟨?_, fun hgood => h.quiet (hfirst ▸ hgood)⟩
        rw [hcall]
        rfl
    · rw [hinvoke, once_single_iff, hcall]
      refine iff_of_false (fun h => nomatch h.1) fun h => ?_
      obtain ⟨_, fields, hdict⟩ := h.chain hchained
      rw [hcall] at hdict
      cases hdict
    · rw [hinvoke]
      refine iff_of_false (fun h => ?_) fun h => ?_
      · have hlength : 2 ≤ 1 := h.single _ (mem_singleton_self _)
        omega
      · obtain ⟨htime, fields, hdict⟩ := h.chain hchained
        exact hnot htime fields hdict

/-! ## The loop -/

theorem once_append_iff {calls : List (List Call)} {new : List Call}
    (hsingle : ∀ attempt ∈ calls, attempt.length ≤ 1)
    (hno : ∀ call ∈ calls.flatten, Call.succeeded call = false ∧ Call.gate call = none) :
    Once (calls ++ [new]) outcome ↔ Once [new] outcome := by
  have hnew : [new].flatten = new := by simp
  have hall : (calls ++ [new]).flatten = calls.flatten ++ new := by simp
  constructor
  · intro h
    refine ⟨fun attempt hmem => h.single attempt (mem_append_right _ hmem),
      fun before call after hsplit => ?_, ?_, fun call hmem => ?_⟩
    · refine h.last (calls.flatten ++ before) call after ?_
      rw [hall, ← hnew, hsplit, append_assoc]
    · rw [h.success, hall, hnew]
      constructor
      · rintro ⟨call, hmem, hcall⟩
        rcases mem_append.mp hmem with hold | hmem
        · rw [(hno call hold).1] at hcall
          cases hcall
        · exact ⟨call, hmem, hcall⟩
      · rintro ⟨call, hmem, hcall⟩
        exact ⟨call, mem_append_right _ hmem, hcall⟩
    · apply h.gate call
      rw [hall]
      exact mem_append_right _ (hnew ▸ hmem)
  · intro h
    refine ⟨fun attempt hmem => ?_, fun before call after hsplit hcall => ?_, ?_,
      fun call hmem => ?_⟩
    · rcases mem_append.mp hmem with hold | hmem
      · exact hsingle attempt hold
      · exact h.single attempt hmem
    · rw [hall] at hsplit
      rcases append_eq_append_iff.mp hsplit with
        ⟨middle, hbefore, hmiddle⟩ | ⟨middle, hold, hmiddle⟩
      · exact h.last middle call after (hnew.trans hmiddle) hcall
      · cases middle with
        | nil => exact h.last [] call after (hnew.trans hmiddle.symm) hcall
        | cons other middle =>
          rw [cons_append, List.cons.injEq] at hmiddle
          have hmem : call ∈ calls.flatten := by
            rw [hold, hmiddle.1]
            exact mem_append_right _ mem_cons_self
          rw [(hno call hmem).1] at hcall
          cases hcall
    · rw [h.success, hall, hnew]
      constructor
      · rintro ⟨call, hmem, hcall⟩
        exact ⟨call, mem_append_right _ hmem, hcall⟩
      · rintro ⟨call, hmem, hcall⟩
        rcases mem_append.mp hmem with hold | hmem
        · rw [(hno call hold).1] at hcall
          cases hcall
        · exact ⟨call, hmem, hcall⟩
    · rw [hall] at hmem
      rcases mem_append.mp hmem with hold | hmem
      · intro gateId hasks
        rw [(hno call hold).2] at hasks
        cases hasks
      · exact h.gate call (hnew.symm ▸ hmem)

def Good (ctx : ActionDispatcher) (loop : Attempts) : Prop :=
  Once loop.calls (ctx.outcomeOf loop.outcome)

theorem good_start : Good ctx start where
  single := nofun
  last before call after hsplit := by
    have hlength := congrArg List.length hsplit
    simp [start] at hlength
  success := iff_of_false Bool.false_ne_true (by simp [start])
  gate := nofun

variable {loop : Attempts}

theorem none_of_good (h : Good ctx loop) (hgoes : loop.outcome = none)
    (call : Call) (hmem : call ∈ loop.calls.flatten) :
    Call.succeeded call = false ∧ Call.gate call = none := by
  unfold Good at h
  rw [hgoes] at h
  constructor
  · rw [Bool.eq_false_iff]
    intro hcall
    exact Bool.false_ne_true (h.success.mpr ⟨call, hmem, hcall⟩)
  · rw [Option.eq_none_iff_forall_not_mem]
    intro gateId hasks
    cases h.gate call hmem gateId hasks

theorem attempt_cases (ctx : ActionDispatcher) (loop : Attempts)
    (answers : AttemptAnswers) (hgoes : loop.outcome = none) :
    (∃ raise, announce answers (loop.attempt + 1) = some raise ∧
        ctx.attempt loop answers = ⟨loop.attempt + 1, loop.calls ++ [[]],
          some (.raises .callback raise)⟩) ∨ (announce answers (loop.attempt + 1) = none ∧
        ctx.attempt loop answers = ⟨loop.attempt + 1,
          loop.calls ++ [(ctx.invokeCapabilityViaHooks answers).1],
          ctx.conclude answers (loop.attempt + 1) (ctx.invokeCapabilityViaHooks answers).2⟩) := by
  unfold attempt
  rw [hgoes]
  dsimp only
  cases htell : announce answers (loop.attempt + 1) with
  | some raise => exact .inl ⟨raise, rfl, rfl⟩
  | none => exact .inr ⟨rfl, rfl⟩

theorem attempt_of_ended (h : loop.outcome = some outcome) : ctx.attempt loop answers = loop := by
  unfold attempt
  rw [h]

theorem good_attempt_iff (h : Good ctx loop) (answers : AttemptAnswers) :
    Good ctx (ctx.attempt loop answers) ↔ Clean ctx loop answers := by
  cases hgoes : loop.outcome with
  | some outcome =>
    rw [attempt_of_ended hgoes]
    refine iff_of_true h fun hnone => ?_
    rw [hgoes] at hnone
    cases hnone
  | none =>
    have happend : ∀ {new outcome}, Once (loop.calls ++ [new]) outcome ↔
        Once [new] outcome := once_append_iff h.single (none_of_good h hgoes)
    unfold Clean
    rcases attempt_cases ctx loop answers hgoes with
      ⟨raise, htell, hattempt⟩ | ⟨htell, hattempt⟩
    · rw [hattempt, Good, happend, htell]
      refine iff_of_true ⟨by simp, by simp, ?_, by simp⟩ nofun
      exact iff_of_false Bool.false_ne_true (by simp)
    · rw [hattempt, Good, happend, once_attempt_iff]
      exact ⟨fun hclean _ _ => hclean, fun hclean => hclean hgoes htell⟩

theorem invoke_ne_nil : (ctx.invokeCapabilityViaHooks answers).1 ≠ [] := by
  cases hchained : ctx.chained answers with
  | false =>
    rw [invoke_of_not_chained hchained]
    nofun
  | true =>
    rcases invoke_of_chained hchained with
      ⟨_, _, _, hinvoke⟩ | ⟨_, _, _, hinvoke⟩ | ⟨_, hinvoke⟩
    all_goals
      rw [hinvoke]
      nofun

theorem good_of_attempt {answers : AttemptAnswers}
    (h : Good ctx (ctx.attempt loop answers)) : Good ctx loop := by
  cases hgoes : loop.outcome with
  | some outcome => rwa [attempt_of_ended hgoes] at h
  | none =>
    have hadds : ∃ new outcome, Once (loop.calls ++ [new]) outcome ∧
        (new = [] → outcome.succeeded = false) ∧
        ∀ raise, outcome ≠ .raises .capability raise := by
      rcases attempt_cases ctx loop answers hgoes with
        ⟨raise, _, hattempt⟩ | ⟨_, hattempt⟩
      · rw [hattempt] at h
        exact ⟨_, _, h, fun _ => rfl, nofun⟩
      · rw [hattempt] at h
        refine ⟨_, _, h, fun hnil => absurd hnil invoke_ne_nil, fun raise hraises => ?_⟩
        dsimp only at hraises
        rcases conclude_spec ctx answers (loop.attempt + 1)
          (ctx.invokeCapabilityViaHooks answers).2 with ⟨_, _, hgood⟩ | ⟨_, hfails⟩
        · rw [hraises] at hgood
          cases hgood
        · exact hfails.2 raise hraises
    obtain ⟨new, outcome, honce, hempty, hcallback⟩ := hadds
    have hall : (loop.calls ++ [new]).flatten = loop.calls.flatten ++ new := by simp
    have hno : ∀ call ∈ loop.calls.flatten, Call.succeeded call = false := by
      intro call hmem
      rw [Bool.eq_false_iff]
      intro hcall
      obtain ⟨before, after, hsplit⟩ := append_of_mem hmem
      have hnil := honce.last before call (after ++ new)
        (by rw [hall, hsplit, append_assoc, cons_append]) hcall
      have houtcome := honce.success.mpr
        ⟨call, by rw [hall]; exact mem_append_left _ hmem, hcall⟩
      rw [hempty (append_eq_nil_iff.mp hnil).2] at houtcome
      cases houtcome
    unfold Good
    rw [hgoes]
    refine ⟨fun attempt hmem => honce.single attempt (mem_append_left _ hmem),
      fun before call after hsplit hcall => ?_, ?_, fun call hmem gateId hasks => ?_⟩
    · have hmem : call ∈ loop.calls.flatten := by
        rw [hsplit]
        exact mem_append_right _ mem_cons_self
      rw [hno call hmem] at hcall
      cases hcall
    · refine iff_of_false Bool.false_ne_true fun ⟨call, hmem, hcall⟩ => ?_
      rw [hno call hmem] at hcall
      cases hcall
    · have hmem : call ∈ (loop.calls ++ [new]).flatten := by
        rw [hall]
        exact mem_append_left _ hmem
      exact absurd (honce.gate call hmem gateId hasks) (hcallback _)

/-! ## Whole actions -/

/-- The capability asks for a gate. -/
def asksForGate : AttemptAnswers where
  planned := none
  toolCall := none
  bridge := none
  preTool := []
  postTool := []
  hooked := .error (.gatePending "final_approval")
  hookedSeconds := 1
  direct := .error (.gatePending "final_approval")
  executed := none
  observed := none
  nudged := none
  failureRecorded := none
  failureObserved := none

end ActionDispatcher

end HiAgent.Execution
