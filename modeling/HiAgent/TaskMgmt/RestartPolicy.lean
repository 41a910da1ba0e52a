/-
  TaskMgmt/RestartPolicy.lean --- what is done about a failed task.

  `hi_agent/task_mgmt/restart_policy.py`: `RestartPolicyEngine`, for one task, with
  collaborators that keep the attempts in a list. A call numbers its attempt after the
  attempts it has read before it sleeps and launches.
-/
import HiAgent.Foundation.Machine
import HiAgent.Kernel.TaskManager

namespace HiAgent.TaskMgmt

open Foundation Kernel

inductive RestartAction where
  | retry | reflect | escalate | abort
  deriving DecidableEq

structure RestartDecision where
  taskId : String
  action : RestartAction
  nextAttemptSeq : Option Nat
  reason : String
  reflectionPrompt : Option String := none

/-- What is read of a failure; an attribute that is absent is `none`. -/
structure Failure where
  retryability : Option String := none
  failureCode : Option String := none
  reason : Option String := none

def exhaustedAction : ExhaustedPolicy → RestartAction
  | .reflect => .reflect
  | .escalate => .escalate
  | .abort => .abort

def exhaustedText : ExhaustedPolicy → String
  | .reflect => "reflect"
  | .escalate => "escalate"
  | .abort => "abort"

def firstText : List (Option String) → String
  | [] => "unknown"
  | none :: rest => firstText rest
  | some text :: rest => if text = "" then firstText rest else text

/-- `_decide`. -/
def decideForStage (policy : TaskRestartPolicy) (taskId : String) (attemptSeq : Nat)
    (failure : Option Failure) (stageId : String) : RestartDecision :=
  if (failure.bind Failure.retryability).getD "unknown" = "non_retryable" then
    { taskId := taskId
      action := exhaustedAction policy.onExhausted
      nextAttemptSeq := none
      reason := "failure marked non_retryable: " ++
        (failure.bind Failure.failureCode).getD "unknown" }
  else
    let failureReason := firstText [failure.bind Failure.failureCode, failure.bind Failure.reason]
    let stage := if stageId = "" then "unknown" else stageId
    if (attemptSeq : Int) < policy.maxAttempts then
      if policy.onExhausted = .reflect then
        { taskId := taskId
          action := .reflect
          nextAttemptSeq := some (attemptSeq + 1)
          reason := s!"attempt {attemptSeq}/{policy.maxAttempts} failed; reflecting"
          reflectionPrompt := some (s!"Attempt {attemptSeq} failed: {failureReason}. " ++
            ("Stage: " ++ stage ++ ". ") ++
            "Identify what went wrong and correct it in the next attempt.") }
      else
        { taskId := taskId
          action := .retry
          nextAttemptSeq := some (attemptSeq + 1)
          reason := s!"attempt {attemptSeq}/{policy.maxAttempts} failed; retrying" }
    else
      { taskId := taskId
        action := exhaustedAction policy.onExhausted
        nextAttemptSeq := none
        reason := s!"retry budget exhausted ({attemptSeq}/{policy.maxAttempts}); " ++
          s!"on_exhausted={exhaustedText policy.onExhausted}"
        reflectionPrompt :=
          if policy.onExhausted = .reflect then
            some (s!"Previous attempt {attemptSeq} failed: {failureReason}. " ++
              ("Stage: " ++ stage ++ ". ") ++
              "Identify what went wrong and how to correct it in the next attempt.")
          else none }

/-- `_decide`, as `handle_failure` calls it: without a stage. -/
def decide_ (policy : TaskRestartPolicy) (taskId : String) (attemptSeq : Nat)
    (failure : Option Failure) : RestartDecision :=
  decideForStage policy taskId attemptSeq failure ""

/-- The backoff of `_launch_retry`; the exponent is cut off at zero. -/
def backoffMs (policy : TaskRestartPolicy) (nextSeq : Nat) : Int :=
  min (policy.backoffBaseMs * 2 ^ (nextSeq - 2)) policy.maxBackoffMs

/-- Where a call of `handle_failure` is suspended. -/
inductive FailurePoint where
  /-- `await asyncio.sleep(delay_ms / 1000.0)` -/
  | sleeping
  /-- `await self._retry_launcher(task_id, next_seq)` -/
  | launching
  /-- `await self._reflection_handler(...)` -/
  | reflecting
  deriving DecidableEq

/-- A suspended call, with the number of attempts it has read. -/
structure FailureCall where
  attemptSeq : Nat
  decision : RestartDecision
  point : FailurePoint

/-- What the launcher does, with the identifier and the time of the attempt it starts. -/
inductive LaunchOutcome where
  | started (runId attemptId startedAt : String)
  /-- `None` is returned. -/
  | noRun
  /-- An `Exception` is raised. -/
  | raised

/-- `RestartPolicyEngine`, the attempts of the task and the calls that are going on. -/
structure RestartPolicyEngine where
  taskId : String
  policy : Option TaskRestartPolicy
  hasLauncher : Bool
  hasReflectionHandler : Bool
  /-- The attempts that others had recorded before. -/
  given : List TaskAttempt
  /-- The attempts that the engine has recorded. -/
  recorded : List TaskAttempt := []
  /-- The states that were set. -/
  states : List TaskLifecycleState := []
  /-- The backoffs that were slept, in milliseconds. -/
  slept : List Int := []
  calls : List FailureCall := []
  /-- What the calls have returned. -/
  returned : List RestartDecision := []

namespace RestartPolicyEngine

variable (engine : RestartPolicyEngine)

/-- `self._get_attempts(task_id)`. -/
def getAttempts : List TaskAttempt := engine.given ++ engine.recorded

/-- `self._update_state(task_id, state)`. -/
def updateState (state : TaskLifecycleState) : RestartPolicyEngine :=
  { engine with states := engine.states ++ [state] }

/-- What `handle_failure` returns: the decision without its prompt. -/
def answer (decision : RestartDecision) : RestartPolicyEngine :=
  { engine with returned := engine.returned ++ [{ decision with reflectionPrompt := none }] }

def suspend (call : FailureCall) : RestartPolicyEngine :=
  { engine with calls := engine.calls ++ [call] }

/-- `_launch_retry` has returned False. -/
def launchFailed (decision : RestartDecision) : RestartPolicyEngine :=
  (engine.updateState .aborted).answer { decision with
    action := .abort
    nextAttemptSeq := none
    reason := s!"{decision.reason}; retry launch failed and task moved to aborted" }

/-- `_launch_retry` up to its first await. -/
def launchRetry (policy : TaskRestartPolicy) (attemptSeq : Nat) (decision : RestartDecision) :
    RestartPolicyEngine :=
  if engine.hasLauncher = false then engine.launchFailed decision
  else if 0 < backoffMs policy (attemptSeq + 1) then
    { engine with slept := engine.slept ++ [backoffMs policy (attemptSeq + 1)] }.suspend
      ⟨attemptSeq, decision, .sleeping⟩
  else engine.suspend ⟨attemptSeq, decision, .launching⟩

/-- `handle_failure` up to its first await; `hasContext` says whether there is a
`reflection_run_context`. -/
def handleFailure (failure : Option Failure) (hasContext : Bool) : RestartPolicyEngine :=
  match engine.policy with
  | none => engine.answer {
      taskId := engine.taskId
      action := .abort
      nextAttemptSeq := none
      reason := "task_id not found or no restart policy" }
  | some policy =>
    let attemptSeq := engine.getAttempts.length
    let decision := decide_ policy engine.taskId attemptSeq failure
    match decision.action with
    | .retry => (engine.updateState .restarting).launchRetry policy attemptSeq decision
    | .reflect =>
      if engine.hasReflectionHandler = true ∧ hasContext = true then
        (engine.updateState .reflecting).suspend ⟨attemptSeq, decision, .reflecting⟩
      else (engine.updateState .reflecting).answer decision
    | .escalate => (engine.updateState .escalated).answer decision
    | .abort => (engine.updateState .aborted).answer decision

/-- The attempt that a launch starts. -/
def newAttempt (call : FailureCall) (runId attemptId startedAt : String) : TaskAttempt where
  attemptId := attemptId
  taskId := engine.taskId
  runId := runId
  attemptSeq := call.attemptSeq + 1
  startedAt := startedAt

/-- `handle_failure` from the end of the launch. -/
def launched (call : FailureCall) : LaunchOutcome → RestartPolicyEngine
  | .started runId attemptId startedAt =>
    ({ engine with
      recorded := engine.recorded ++
        [engine.newAttempt call runId attemptId startedAt] }.updateState
        .restarting).answer call.decision
  | .noRun | .raised => engine.launchFailed call.decision

/-- What happens between two awaits. A number is the position of a call. -/
inductive Event where
  /-- `handle_failure` is called. -/
  | handleFailure (failure : Option Failure) (hasContext : Bool)
  /-- The backoff sleep of a call ends. -/
  | woken (call : Nat)
  | launched (call : Nat) (outcome : LaunchOutcome)
  /-- The reflection handler returns, or raises an `Exception`. -/
  | reflected (call : Nat)
  /-- A suspended call is cancelled. -/
  | cancelled (call : Nat)

def callAt (index : Nat) (point : FailurePoint) : Option FailureCall :=
  (engine.calls[index]?).filter fun call => decide (call.point = point)

def moveCall (index : Nat) (next : Option FailureCall) : RestartPolicyEngine :=
  { engine with calls := Roster.advance engine.calls index next }

/-- One event. An event for which nothing waits changes nothing. -/
def step : Event → RestartPolicyEngine
  | .handleFailure failure hasContext => engine.handleFailure failure hasContext
  | .woken index =>
    match engine.callAt index .sleeping with
    | none => engine
    | some call => engine.moveCall index (some { call with point := .launching })
  | .launched index outcome =>
    match engine.callAt index .launching with
    | none => engine
    | some call => (engine.moveCall index none).launched call outcome
  | .reflected index =>
    match engine.callAt index .reflecting with
    | none => engine
    | some call => (engine.moveCall index none).answer call.decision
  | .cancelled index =>
    match engine.calls[index]? with
    | none => engine
    | some _ => engine.moveCall index none

end RestartPolicyEngine

open List

namespace RestartPolicyEngine

/-- The attempts that the engine has recorded are numbered one after the other, behind
those it was given, and no further than the policy allows; no backoff exceeds the cap. -/
structure Law (engine : RestartPolicyEngine) : Prop where
  consecutive : engine.recorded.map TaskAttempt.attemptSeq =
    (List.range engine.recorded.length).map fun place : Nat =>
      (engine.given.length + 1 + place : Int)
  bounded : ∀ policy, engine.policy = some policy →
    ∀ attempt ∈ engine.recorded, attempt.attemptSeq ≤ policy.maxAttempts
  slept : ∀ policy, engine.policy = some policy →
    ∀ backoff ∈ engine.slept, backoff ≤ policy.maxBackoffMs

/-- When the launch of a call succeeds, no other call has recorded an attempt since this
one has read them. -/
def NotOvertaken (engine : RestartPolicyEngine) : Event → Prop
  | .launched index (.started ..) => ∀ call ∈ engine.callAt index .launching,
      engine.getAttempts.length = call.attemptSeq
  | _ => True

/-! ## The invariant -/

def Sound (policy : Option TaskRestartPolicy) (call : FailureCall) : Prop :=
  call.point ≠ .reflecting → ∀ allowed, policy = some allowed →
    (call.attemptSeq : Int) < allowed.maxAttempts

/-- What holds between two events. -/
structure Inv (engine : RestartPolicyEngine) : Prop extends Law engine where
  calls : ∀ call ∈ engine.calls, Sound engine.policy call

variable {engine before after : RestartPolicyEngine}

/-- A move that keeps the policy and sleeps within it keeps the invariant. -/
theorem Inv.frame (h : Inv before) (hpolicy : after.policy = before.policy)
    (hgiven : after.given = before.given) (hnoted : after.recorded = before.recorded)
    (hslept : ∀ backoff ∈ after.slept, backoff ∈ before.slept ∨
      ∀ policy, before.policy = some policy → backoff ≤ policy.maxBackoffMs)
    (hcalls : ∀ call ∈ after.calls, call ∈ before.calls ∨ Sound before.policy call) :
    Inv after := by
  refine ⟨⟨?_, ?_, ?_⟩, ?_⟩
  · rw [hnoted, hgiven]
    exact h.consecutive
  · rw [hpolicy, hnoted]
    exact h.bounded
  · intro policy hsome backoff hbackoff
    rw [hpolicy] at hsome
    rcases hslept backoff hbackoff with hold | hnew
    · exact h.slept policy hsome backoff hold
    · exact hnew policy hsome
  · intro call hcall
    rw [hpolicy]
    rcases hcalls call hcall with hold | hnew
    · exact h.calls call hold
    · exact hnew

theorem Inv.updateState (h : Inv engine) (state : TaskLifecycleState) :
    Inv (engine.updateState state) :=
  h.frame rfl rfl rfl (fun _ => .inl) fun _ => .inl

theorem Inv.answer (h : Inv engine) (decision : RestartDecision) : Inv (engine.answer decision) :=
  h.frame rfl rfl rfl (fun _ => .inl) fun _ => .inl

theorem Inv.launchFailed (h : Inv engine) (decision : RestartDecision) :
    Inv (engine.launchFailed decision) :=
  (h.updateState .aborted).answer _

variable {call : FailureCall}

theorem Inv.suspend (h : Inv engine) (hsound : Sound engine.policy call) :
    Inv (engine.suspend call) := by
  refine h.frame rfl rfl rfl (fun _ => .inl) fun other hother => ?_
  rcases mem_append.mp hother with hold | hnew
  · exact .inl hold
  · rw [mem_singleton.mp hnew]
    exact .inr hsound

theorem Inv.moveCall (h : Inv engine) {index : Nat}
    (hcall : engine.calls[index]? = some call) {next : Option FailureCall}
    (hnext : ∀ other ∈ next, Sound engine.policy other) : Inv (engine.moveCall index next) := by
  obtain ⟨front, behind, hsplit, hadvance⟩ := Roster.exists_split hcall
  refine h.frame rfl rfl rfl (fun _ => .inl) fun other hother => ?_
  have hmem : other ∈ front ++ next.toList ++ behind := hadvance next ▸ hother
  rw [hsplit]
  simp only [mem_append, Option.mem_toList, mem_cons] at hmem ⊢
  rcases hmem with (hfront | hsome) | hbehind
  · exact .inl (.inl hfront)
  · exact .inr (hnext other hsome)
  · exact .inl (.inr (.inr hbehind))

/-! ## What `handle_failure` decides -/

theorem exhaustedAction_ne_retry (policy : ExhaustedPolicy) : exhaustedAction policy ≠ .retry := by
  cases policy with
  | reflect => decide
  | escalate => decide
  | abort => decide

theorem lt_of_retry {policy : TaskRestartPolicy} {taskId : String} {attemptSeq : Nat}
    {failure : Option Failure}
    (hretry : (decide_ policy taskId attemptSeq failure).action = .retry) :
    (attemptSeq : Int) < policy.maxAttempts := by
  rw [decide_, decideForStage] at hretry
  split at hretry
  · exact absurd hretry (exhaustedAction_ne_retry policy.onExhausted)
  · dsimp only at hretry
    split at hretry
    · rename_i hleft
      exact hleft
    · exact absurd hretry (exhaustedAction_ne_retry policy.onExhausted)

theorem backoffMs_le (policy : TaskRestartPolicy) (nextSeq : Nat) :
    backoffMs policy nextSeq ≤ policy.maxBackoffMs := min_le_right _ _

theorem Inv.launchRetry (h : Inv engine) {policy : TaskRestartPolicy}
    (hpolicy : engine.policy = some policy) {attemptSeq : Nat}
    (hleft : (attemptSeq : Int) < policy.maxAttempts) (decision : RestartDecision) :
    Inv (engine.launchRetry policy attemptSeq decision) := by
  have hsound (point : FailurePoint) : Sound engine.policy ⟨attemptSeq, decision, point⟩ := by
    intro _ allowed hallowed
    obtain rfl := Option.some.inj (hpolicy.symm.trans hallowed)
    exact hleft
  rw [RestartPolicyEngine.launchRetry]
  split
  · exact h.launchFailed decision
  · split
    · have hslept : Inv { engine with
          slept := engine.slept ++ [backoffMs policy (attemptSeq + 1)] } := by
        refine h.frame rfl rfl rfl (fun backoff hbackoff => ?_) fun _ => .inl
        rcases mem_append.mp hbackoff with hold | hnew
        · exact .inl hold
        · refine .inr fun allowed hallowed => ?_
          obtain rfl := Option.some.inj (hpolicy.symm.trans hallowed)
          rw [mem_singleton.mp hnew]
          exact backoffMs_le policy (attemptSeq + 1)
      exact hslept.suspend (hsound .sleeping)
    · exact h.suspend (hsound .launching)

theorem Inv.handleFailure (h : Inv engine) (failure : Option Failure) (hasContext : Bool) :
    Inv (engine.handleFailure failure hasContext) := by
  rw [RestartPolicyEngine.handleFailure]
  split
  · exact h.answer _
  · rename_i policy hpolicy
    dsimp only
    split
    · rename_i hretry
      exact (h.updateState .restarting).launchRetry hpolicy (lt_of_retry hretry) _
    · split
      · exact (h.updateState .reflecting).suspend fun hpoint => absurd rfl hpoint
      · exact (h.updateState .reflecting).answer _
    · exact (h.updateState .escalated).answer _
    · exact (h.updateState .aborted).answer _

/-! ## What a launch records -/

def record (engine : RestartPolicyEngine) (attempt : TaskAttempt) : RestartPolicyEngine :=
  { engine with recorded := engine.recorded ++ [attempt] }

theorem consecutive_record_iff (h : Law engine) (attempt : TaskAttempt) :
    (engine.record attempt).recorded.map TaskAttempt.attemptSeq =
        (List.range (engine.record attempt).recorded.length).map
          (fun place : Nat => (engine.given.length + 1 + place : Int)) ↔
      attempt.attemptSeq = engine.getAttempts.length + 1 := by
  rw [record, getAttempts]
  dsimp only
  rw [length_append, length_singleton, range_succ, map_append,
    map_append, h.consecutive, append_cancel_left_eq, map_singleton,
    map_singleton, singleton_inj, length_append]
  omega

theorem Inv.record (h : Inv engine) {attempt : TaskAttempt}
    (hnext : attempt.attemptSeq = engine.getAttempts.length + 1)
    (hbound : ∀ policy, engine.policy = some policy → attempt.attemptSeq ≤ policy.maxAttempts) :
    Inv (engine.record attempt) := by
  refine ⟨⟨(consecutive_record_iff h.toLaw attempt).mpr hnext, ?_, h.slept⟩, h.calls⟩
  intro policy hpolicy other hother
  rcases mem_append.mp hother with hold | hnew
  · exact h.bounded policy hpolicy other hold
  · rw [mem_singleton.mp hnew]
    exact hbound policy hpolicy

theorem callAt_eq_some {index : Nat} {point : FailurePoint}
    (h : engine.callAt index point = some call) :
    engine.calls[index]? = some call ∧ call.point = point := by
  obtain ⟨hcall, hpoint⟩ := Option.filter_eq_some_iff.mp h
  exact ⟨hcall, of_decide_eq_true hpoint⟩

/-! ## Runs -/

/-- A step that is not overtaken keeps the invariant. -/
theorem Inv.step (h : Inv engine) {event : Event} (hfirst : NotOvertaken engine event) :
    Inv (engine.step event) := by
  cases event with
  | handleFailure failure hasContext => exact h.handleFailure failure hasContext
  | woken index =>
    rw [RestartPolicyEngine.step]
    split
    · exact h
    · rename_i call hat
      obtain ⟨hcall, hpoint⟩ := callAt_eq_some hat
      refine h.moveCall hcall fun other hother => ?_
      obtain rfl := Option.mem_some.mp hother
      intro _
      exact h.calls call (mem_of_getElem? hcall) (by rw [hpoint]; decide)
  | launched index outcome =>
    rw [RestartPolicyEngine.step]
    split
    · exact h
    · rename_i call hat
      obtain ⟨hcall, hpoint⟩ := callAt_eq_some hat
      have hmoved : Inv (engine.moveCall index none) := h.moveCall hcall fun _ hother => by
        cases hother
      cases outcome with
      | started runId attemptId startedAt =>
        have hlength := hfirst call hat
        have hleft := h.calls call (mem_of_getElem? hcall) (by rw [hpoint]; decide)
        refine ((hmoved.record ?_ ?_).updateState .restarting).answer call.decision
        · change (call.attemptSeq : Int) + 1 = engine.getAttempts.length + 1
          rw [hlength]
        · intro policy hpolicy
          exact hleft policy hpolicy
      | _ => exact hmoved.launchFailed call.decision
  | reflected index =>
    rw [RestartPolicyEngine.step]
    split
    · exact h
    · rename_i call hat
      obtain ⟨hcall, -⟩ := callAt_eq_some hat
      exact (h.moveCall hcall fun _ hother => by cases hother).answer call.decision
  | cancelled index =>
    rw [RestartPolicyEngine.step]
    split
    · exact h
    · rename_i call hcall
      exact h.moveCall hcall fun _ hother => by cases hother

theorem Inv.notOvertaken (h : Inv engine) {event : Event} (hlaw : Law (engine.step event)) :
    NotOvertaken engine event := by
  cases event with
  | launched index outcome =>
    cases outcome with
    | started runId attemptId startedAt =>
      intro call hat
      have hconsecutive := hlaw.consecutive
      have hstep : engine.step (.launched index (.started runId attemptId startedAt)) =
          (engine.moveCall index none).launched call (.started runId attemptId startedAt) := by
        have hsome : engine.callAt index .launching = some call := hat
        rw [RestartPolicyEngine.step, hsome]
      rw [hstep] at hconsecutive
      have hnext := (consecutive_record_iff h.toLaw
        (engine.newAttempt call runId attemptId startedAt)).mp hconsecutive
      have hnumber : ((call.attemptSeq : Int) + 1) = engine.getAttempts.length + 1 := hnext
      omega
    | noRun => trivial
    | raised => trivial
  | handleFailure failure hasContext => trivial
  | woken index => trivial
  | reflected index => trivial
  | cancelled index => trivial

/-- The engine of a task before its first failure. -/
def start (taskId : String) (policy : Option TaskRestartPolicy)
    (hasLauncher hasReflectionHandler : Bool) (given : List TaskAttempt) :
    RestartPolicyEngine where
  taskId := taskId
  policy := policy
  hasLauncher := hasLauncher
  hasReflectionHandler := hasReflectionHandler
  given := given

/-- The attempts are counted once in every state of a run exactly when no successful
launch of the run was overtaken. -/
theorem law_iff_notOvertaken (taskId : String) (policy : Option TaskRestartPolicy)
    (hasLauncher hasReflectionHandler : Bool) (given : List TaskAttempt) (events : List Event) :
    Always step Law (start taskId policy hasLauncher hasReflectionHandler given) events ↔
      Along step NotOvertaken (start taskId policy hasLauncher hasReflectionHandler given)
        events := by
  have hinit : Inv (start taskId policy hasLauncher hasReflectionHandler given) := by
    refine ⟨⟨rfl, ?_, ?_⟩, ?_⟩
    · intro _ _ attempt hattempt
      cases hattempt
    · intro _ _ backoff hbackoff
      cases hbackoff
    · intro call hcall
      cases hcall
  refine always_iff_along ?_ ?_ ?_ hinit events
  · intro engine event h hfirst
    exact h.step hfirst
  · intro engine h
    exact h.toLaw
  · intro engine event h hlaw
    exact h.notOvertaken hlaw

/-- The watchdog and the run report the same failure; both calls read one attempt. -/
def reportedTwice : List Event :=
  [.handleFailure none false, .handleFailure none false,
    .launched 0 (.started "run-2" "attempt-a" "09:00"),
    .launched 0 (.started "run-3" "attempt-b" "09:00")]

/-- Both launches succeed, and two attempts get the number two. -/
theorem not_law_reportedTwice : ¬ ∀ (taskId : String) (policy : Option TaskRestartPolicy)
      (hasLauncher hasReflectionHandler : Bool) (given : List TaskAttempt) (events : List Event),
      Always step Law (start taskId policy hasLauncher hasReflectionHandler given) events := by
  intro h
  have hlaw := h "review"
    (some { maxAttempts := 3, backoffBaseMs := 0, onExhausted := .escalate }) true false
    [⟨"attempt-1", "review", "run-1", 1, "08:00", none, none, .none, none⟩] reportedTwice
  exact absurd hlaw.last.consecutive (by decide)

end RestartPolicyEngine

end HiAgent.TaskMgmt
