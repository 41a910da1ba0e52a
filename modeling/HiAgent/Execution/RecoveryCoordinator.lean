/-
  Execution/RecoveryCoordinator.lean --- `_handle_stage_failure` of
  `hi_agent/execution/recovery_coordinator.py`.

  The callbacks of the restart policy engine return. Of what the reflect branch does only the
  event and the call of the orchestrator are kept.
-/
import HiAgent.TaskMgmt.RestartPolicy

namespace HiAgent.Execution.RecoveryCoordinator

open Foundation Kernel TaskMgmt

/-- What a re-execution of the stage ends in. -/
inductive StageOutcome where
  | returns (result : Option String)
  /-- `GatePendingError`. -/
  | gatePending (gateId : String)
  /-- Another `Exception`. -/
  | raises (error : String)

def StageOutcome.failed : StageOutcome → Bool
  | .returns result => result == some "failed"
  | .gatePending _ => false
  | .raises _ => true

/-- A re-execution: the attempt it follows, whether it was reflected upon, how it ended. -/
structure Reexecution where
  attempt : Nat
  reflected : Bool
  outcome : StageOutcome

/-- What the coordinator asks others to do. -/
inductive Effect where
  /-- `_record_attempt`, of a `_StageFail`. -/
  | attempt (attempt : TaskAttempt) (failure : Failure)
  /-- `_record_event`. -/
  | event (name : String) (payload : List (String × String))
  /-- `reflect_and_infer`. -/
  | reflectAndInfer
  /-- `_execute_stage`. -/
  | executeStage (execution : Reexecution)

/-- How a call ends. -/
inductive Answer where
  | returned (result : Option String)
  | gatePending (gateId : String)

/-- `RecoveryContext`; of the engine, what `_get_policy` returns for the task. -/
structure RecoveryContext where
  runId : String
  taskId : String
  runTerminated : Bool
  restartPolicy : Option (Option TaskRestartPolicy)
  hasReflectionOrchestrator : Bool

/-- The counters of the stages, and what has been asked for in this call. -/
structure Recovery where
  stageAttempt : Dict String Nat
  log : List Effect := []

/-- What a round of the loop comes to. -/
inductive Verdict where
  /-- `continue`, with another `stage_result`. -/
  | again (stageResult : String)
  | ends (answer : Answer)

/-- What the stage that was executed again means for the loop. -/
def StageOutcome.verdict : StageOutcome → Verdict
  | .returns result =>
    if result ≠ some "failed" then .ends (.returned result) else .again "failed"
  | .gatePending gateId => .ends (.gatePending gateId)
  | .raises _ => .ends (.returned (some "failed"))

/-- The `_StageFail` of a result. -/
def stageFail (stageResult : String) : Failure where
  retryability := some "unknown"
  failureCode := some stageResult

namespace RecoveryContext

variable (ctx : RecoveryContext) (policy : Option TaskRestartPolicy) (stageId : String)
  (maxRetries : Int) (outcome : Nat → StageOutcome) (startedAt : Nat → String)

/-- The attempt that a round records; `TaskAttempt` has no field for the stage. -/
def taskAttempt (guard attempt : Nat) : TaskAttempt where
  attemptId := ctx.runId ++ "/" ++ stageId ++ "/" ++ toString attempt
  taskId := ctx.taskId
  runId := ctx.runId
  attemptSeq := attempt
  startedAt := startedAt guard
  outcome := some .failed
  failure := .other attempt true

/-- The decision about an attempt. -/
def decision (attempt : Nat) (stageResult : String) : RestartDecision :=
  match policy with
  | none => {
      taskId := ctx.taskId
      action := .abort
      nextAttemptSeq := none
      reason := "no restart policy configured" }
  | some policy => decideForStage policy ctx.taskId attempt (some (stageFail stageResult)) stageId

/-- The effects of the reflect branch before the stage is executed again. -/
def reflection (decision : RestartDecision) : List Effect :=
  (match decision.reflectionPrompt with
    | none => []
    | some prompt => [.event "ReflectionPrompt"
        [("stage_id", stageId), ("run_id", ctx.runId), ("reflection_prompt", prompt)]]) ++
    if ctx.hasReflectionOrchestrator = true then [.reflectAndInfer] else []

/-- A round of the loop. -/
def round (guard : Nat) (stageResult : String) (recovery : Recovery) : Recovery × Verdict :=
  let attempt := recovery.stageAttempt.getD stageId 0 + 1
  let stageAttempt := recovery.stageAttempt.set stageId attempt
  let log := recovery.log ++
    [.attempt (ctx.taskAttempt stageId startedAt guard attempt) (stageFail stageResult)]
  let decision := ctx.decision policy stageId attempt stageResult
  match decision.action with
  | .retry =>
    if (attempt : Int) ≤ maxRetries then
      (⟨stageAttempt, log ++ [.executeStage ⟨attempt, false, outcome guard⟩]⟩,
        (outcome guard).verdict)
    else (⟨stageAttempt, log⟩, .ends (.returned (some "failed")))
  | .reflect =>
    let log := log ++ ctx.reflection stageId decision
    if decision.nextAttemptSeq.isSome = true then
      (⟨stageAttempt, log ++ [.executeStage ⟨attempt, true, outcome guard⟩]⟩,
        (outcome guard).verdict)
    else (⟨stageAttempt, log⟩, .ends (.returned (some "reflected")))
  | .escalate =>
    (⟨stageAttempt, log ++ [.event "StageEscalated"
      [("stage_id", stageId), ("run_id", ctx.runId), ("reason", decision.reason)]]⟩,
      .ends (.returned (some "failed")))
  | .abort => (⟨stageAttempt, log⟩, .ends (.returned (some "failed")))

/-- `for _loop_guard in range(_max_total_attempts)`, with so many rounds left. -/
def loop : Nat → Nat → String → Recovery → Recovery × Answer
  | 0, _, _, recovery => (recovery, .returned (some "failed"))
  | rounds + 1, guard, stageResult, recovery =>
    match ctx.round policy stageId maxRetries outcome startedAt guard stageResult recovery with
    | (recovery, .again stageResult) => loop rounds (guard + 1) stageResult recovery
    | (recovery, .ends answer) => (recovery, answer)

/-- `_handle_stage_failure`: re-executions of the stage end in turn in the given outcomes. -/
def handleStageFailure (stageResult : String) (stageAttempt : Dict String Nat) :
    Recovery × Answer :=
  if ctx.runTerminated = true then ({ stageAttempt }, .returned (some "failed"))
  else
    match ctx.restartPolicy with
    | none => ({ stageAttempt }, .returned (some "failed"))
    | some policy =>
      ctx.loop policy stageId maxRetries outcome startedAt (maxRetries * 2 + 1).toNat 0
        stageResult { stageAttempt }

end RecoveryContext

/-! ## What is counted -/

namespace Recovery

def attempts (recovery : Recovery) : List TaskAttempt :=
  recovery.log.filterMap fun
    | .attempt attempt _ => some attempt
    | _ => none

def executions (recovery : Recovery) : List Reexecution :=
  recovery.log.filterMap fun
    | .executeStage execution => some execution
    | _ => none

end Recovery

/-- The account of a call for a stage that has been attempted `earlier` times: how often the
stage is executed, what is recorded of it, and what is returned. -/
structure Accounted (policy : Option TaskRestartPolicy) (maxRetries : Int) (earlier : Nat)
    (recovery : Recovery) (answer : Answer) : Prop where
  bounded : (recovery.executions.length : Int) ≤ 2 * maxRetries + 1
  retried : ∀ execution ∈ recovery.executions, execution.reflected = false →
    (execution.attempt : Int) ≤ maxRetries
  recorded : recovery.attempts.map TaskAttempt.attemptSeq =
    (List.range (1 + recovery.executions.countP (·.outcome.failed))).map
      fun place : Nat => (earlier + 1 + place : Int)
  answered : ∀ result, answer = .returned result → result ≠ some "failed" →
    (∃ execution, recovery.executions.getLast? = some execution ∧
      execution.outcome = .returns result) ∨
    (result = some "reflected" ∧ ∃ allowed, policy = some allowed ∧ allowed.onExhausted = .reflect ∧
      allowed.maxAttempts ≤ (earlier + recovery.attempts.length : Int))
  pending : ∀ execution ∈ recovery.executions, ∀ gateId,
    execution.outcome = .gatePending gateId → answer = .gatePending gateId

open List

/-! ## The condition -/

/-- How often the policy has the stage executed again, when every execution fails. -/
def granted (policy : Option TaskRestartPolicy) (maxRetries : Int) (earlier : Nat) : Nat :=
  match policy with
  | none => 0
  | some policy =>
    if policy.onExhausted = .reflect then (policy.maxAttempts - 1 - earlier).toNat
    else (min (policy.maxAttempts - 1) maxRetries - earlier).toNat

/-- The first executions all return `"failed"`. -/
def FailsUpTo (outcome : Nat → StageOutcome) (count : Nat) : Prop :=
  ∀ i, i < count → outcome i = .returns (some "failed")

/-- What the account needs: the number of retries is one, the first execution that does not
return `"failed"` does not raise, and the ceiling is not used up. -/
structure Meets (policy : Option TaskRestartPolicy) (maxRetries : Int) (earlier : Nat)
    (outcome : Nat → StageOutcome) : Prop where
  nonneg : 0 ≤ maxRetries
  returns : ∀ i, i < granted policy maxRetries earlier → (i : Int) < maxRetries * 2 + 1 →
    FailsUpTo outcome i → ∀ error, outcome i ≠ .raises error
  below : maxRetries * 2 + 1 ≤ (granted policy maxRetries earlier : Int) →
    ¬ FailsUpTo outcome (maxRetries * 2 + 1).toNat

/-! ## One round -/

variable {policy : Option TaskRestartPolicy} {maxRetries : Int} {earlier : Nat}
  {outcome : Nat → StageOutcome} {stageId : String}

section Decision

variable (allowed : TaskRestartPolicy) (taskId stageResult : String) (attempt : Nat)

theorem action_decideForStage :
    (decideForStage allowed taskId attempt (some (stageFail stageResult)) stageId).action =
      if (attempt : Int) < allowed.maxAttempts then
        if allowed.onExhausted = .reflect then .reflect else .retry
      else exhaustedAction allowed.onExhausted := by
  rw [decideForStage, if_neg (by simp [stageFail])]
  by_cases hmax : (attempt : Int) < allowed.maxAttempts
  · by_cases hreflect : allowed.onExhausted = .reflect
    · simp only [if_pos hmax, if_pos hreflect]
    · simp only [if_pos hmax, if_neg hreflect]
  · simp only [if_neg hmax]

theorem nextAttemptSeq_decideForStage :
    (decideForStage allowed taskId attempt (some (stageFail stageResult)) stageId).nextAttemptSeq =
      if (attempt : Int) < allowed.maxAttempts then some (attempt + 1) else none := by
  rw [decideForStage, if_neg (by simp [stageFail])]
  by_cases hmax : (attempt : Int) < allowed.maxAttempts
  · by_cases hreflect : allowed.onExhausted = .reflect
    · simp only [if_pos hmax, if_pos hreflect]
    · simp only [if_pos hmax, if_neg hreflect]
  · simp only [if_neg hmax]

end Decision

def reflects (policy : Option TaskRestartPolicy) : Bool :=
  policy.any fun allowed => decide (allowed.onExhausted = .reflect)

/-- The `i`-th execution. -/
def reexecution (policy : Option TaskRestartPolicy) (earlier : Nat) (outcome : Nat → StageOutcome)
    (i : Nat) : Reexecution :=
  ⟨earlier + 1 + i, reflects policy, outcome i⟩

/-- So many attempts have been recorded and so many executions made. -/
structure Holds (policy : Option TaskRestartPolicy) (earlier : Nat)
    (outcome : Nat → StageOutcome) (recovery : Recovery) (attempts executions : Nat) : Prop where
  attempts : recovery.attempts.map TaskAttempt.attemptSeq =
    (List.range attempts).map fun place : Nat => (earlier + 1 + place : Int)
  executions : recovery.executions =
    (List.range executions).map (reexecution policy earlier outcome)

def Stops (policy : Option TaskRestartPolicy) (attempt : Nat) (answer : Answer) : Prop :=
  answer = .returned (some "failed") ∨
    (answer = .returned (some "reflected") ∧ ∃ allowed, policy = some allowed ∧
      allowed.onExhausted = .reflect ∧ allowed.maxAttempts ≤ (attempt : Int))

namespace RecoveryContext

variable {ctx : RecoveryContext} {startedAt : Nat → String} {recovery : Recovery} {guard : Nat}

theorem filterMap_reflection {α : Type} (f : Effect → Option α)
    (hevent : ∀ name payload, f (.event name payload) = none) (hreflect : f .reflectAndInfer = none)
    (decision : RestartDecision) : (ctx.reflection stageId decision).filterMap f = [] := by
  rw [reflection, filterMap_append]
  cases decision.reflectionPrompt <;> cases ctx.hasReflectionOrchestrator <;>
    simp [hevent, hreflect]

section

variable (h : Holds policy earlier outcome recovery guard guard)
include h

theorem Holds.attempts_succ :
    recovery.attempts.map TaskAttempt.attemptSeq ++ [((earlier + guard + 1 : Nat) : Int)] =
      (List.range (guard + 1)).map fun place : Nat => (earlier + 1 + place : Int) := by
  rw [h.attempts, range_succ, map_append, map_singleton]
  congr 2
  push_cast
  omega

theorem Holds.execute {stageAttempt : Dict String Nat} {log : List Effect}
    (htries : (Recovery.attempts ⟨stageAttempt, log⟩).map TaskAttempt.attemptSeq =
      recovery.attempts.map TaskAttempt.attemptSeq ++ [((earlier + guard + 1 : Nat) : Int)])
    (hruns : Recovery.executions ⟨stageAttempt, log⟩ =
      recovery.executions ++ [reexecution policy earlier outcome guard]) :
    Holds policy earlier outcome ⟨stageAttempt, log⟩ (guard + 1) (guard + 1) where
  attempts := htries.trans (attempts_succ h)
  executions := by
    rw [hruns, h.executions, range_succ, map_append]
    rfl

theorem Holds.stop {stageAttempt : Dict String Nat} {log : List Effect}
    (htries : (Recovery.attempts ⟨stageAttempt, log⟩).map TaskAttempt.attemptSeq =
      recovery.attempts.map TaskAttempt.attemptSeq ++ [((earlier + guard + 1 : Nat) : Int)])
    (hruns : Recovery.executions ⟨stageAttempt, log⟩ = recovery.executions) :
    Holds policy earlier outcome ⟨stageAttempt, log⟩ (guard + 1) guard where
  attempts := htries.trans (attempts_succ h)
  executions := hruns.trans h.executions

end

variable (ctx startedAt) in
theorem round_granted (h : Holds policy earlier outcome recovery guard guard)
    (hcount : recovery.stageAttempt.getD stageId 0 = earlier + guard)
    (hgranted : guard < granted policy maxRetries earlier) (stageResult : String) :
    ∃ next, ctx.round policy stageId maxRetries outcome startedAt guard stageResult recovery =
        (next, (outcome guard).verdict) ∧
      Holds policy earlier outcome next (guard + 1) (guard + 1) ∧
      next.stageAttempt.getD stageId 0 = earlier + (guard + 1) := by
  cases policy with
  | none => exact (Nat.not_lt_zero _ hgranted).elim
  | some allowed =>
    by_cases hreflect : allowed.onExhausted = .reflect
    · have hmax : ((earlier + guard + 1 : Nat) : Int) < allowed.maxAttempts := by
        rw [granted, if_pos hreflect] at hgranted
        omega
      simp only [round, hcount, decision, action_decideForStage, nextAttemptSeq_decideForStage,
        if_pos hmax, if_pos hreflect, Option.isSome_some, if_true]
      refine ⟨_, rfl, Holds.execute h ?_ ?_, ?_⟩
      · simp [Recovery.attempts, taskAttempt, filterMap_reflection]
      · simp [Recovery.executions, reexecution, reflects, hreflect, Nat.add_right_comm,
          filterMap_reflection]
      · simp [Nat.add_assoc]
    · have hmax : ((earlier + guard + 1 : Nat) : Int) < allowed.maxAttempts := by
        rw [granted, if_neg hreflect] at hgranted
        omega
      have hretries : ((earlier + guard + 1 : Nat) : Int) ≤ maxRetries := by
        rw [granted, if_neg hreflect] at hgranted
        omega
      simp only [round, hcount, decision, action_decideForStage, if_pos hmax, if_neg hreflect,
        if_pos hretries]
      refine ⟨_, rfl, Holds.execute h ?_ ?_, ?_⟩
      · simp [Recovery.attempts, taskAttempt]
      · simp [Recovery.executions, reexecution, reflects, hreflect, Nat.add_right_comm]
      · simp [Nat.add_assoc]

variable (ctx startedAt) in
theorem round_stops (h : Holds policy earlier outcome recovery guard guard)
    (hcount : recovery.stageAttempt.getD stageId 0 = earlier + guard)
    (hgranted : guard = granted policy maxRetries earlier) (stageResult : String) : ∃ next answer,
      ctx.round policy stageId maxRetries outcome startedAt guard stageResult recovery =
        (next, .ends answer) ∧ Holds policy earlier outcome next (guard + 1) guard ∧
      Stops policy (earlier + (guard + 1)) answer := by
  cases policy with
  | none =>
    simp only [round, hcount, decision]
    refine ⟨_, _, rfl, Holds.stop h ?_ ?_, .inl rfl⟩
    · simp [Recovery.attempts, taskAttempt]
    · simp [Recovery.executions]
  | some allowed =>
    by_cases hmax : ((earlier + guard + 1 : Nat) : Int) < allowed.maxAttempts
    · have hreflect : allowed.onExhausted ≠ .reflect := by
        intro hreflect
        rw [granted, if_pos hreflect] at hgranted
        omega
      have hretries : ¬ ((earlier + guard + 1 : Nat) : Int) ≤ maxRetries := by
        rw [granted, if_neg hreflect] at hgranted
        omega
      simp only [round, hcount, decision, action_decideForStage, if_pos hmax, if_neg hreflect,
        if_neg hretries]
      refine ⟨_, _, rfl, Holds.stop h ?_ ?_, .inl rfl⟩
      · simp [Recovery.attempts, taskAttempt]
      · simp [Recovery.executions]
    · simp only [round, hcount, decision, action_decideForStage, nextAttemptSeq_decideForStage,
        if_neg hmax]
      cases hspent : allowed.onExhausted with
      | reflect =>
        refine ⟨_, _, rfl, Holds.stop h ?_ ?_, .inr ⟨rfl, allowed, rfl, hspent, ?_⟩⟩
        · simp [Recovery.attempts, taskAttempt, filterMap_reflection]
        · simp [Recovery.executions, filterMap_reflection]
        · omega
      | _ =>
        refine ⟨_, _, rfl, Holds.stop h ?_ ?_, .inl rfl⟩
        · simp [Recovery.attempts, taskAttempt]
        · simp [Recovery.executions]

end RecoveryContext

/-! ## The loop -/

/-- How a call ends: the policy stops, an execution does not return `"failed"`, or the last
round that the ceiling allows has executed the stage in vain. -/
inductive Ending (policy : Option TaskRestartPolicy) (maxRetries : Int) (earlier : Nat)
    (outcome : Nat → StageOutcome) (ceiling : Nat) (recovery : Recovery) (answer : Answer) : Prop
  | stopped (count : Nat) (hgranted : count = granted policy maxRetries earlier)
      (hceiling : count < ceiling) (hfails : FailsUpTo outcome count)
      (hholds : Holds policy earlier outcome recovery (count + 1) count)
      (hstops : Stops policy (earlier + (count + 1)) answer)
  | ended (count : Nat) (hgranted : count < granted policy maxRetries earlier)
      (hceiling : count < ceiling) (hfails : FailsUpTo outcome count)
      (hholds : Holds policy earlier outcome recovery (count + 1) (count + 1))
      (hends : (outcome count).verdict = .ends answer)
  | exceeded (hgranted : ceiling ≤ granted policy maxRetries earlier)
      (hfails : FailsUpTo outcome ceiling)
      (hholds : Holds policy earlier outcome recovery ceiling ceiling)

theorem StageOutcome.eq_of_again {outcome : StageOutcome} {stageResult : String}
    (h : outcome.verdict = .again stageResult) : outcome = .returns (some "failed") := by
  cases outcome with
  | returns result =>
    rw [StageOutcome.verdict] at h
    split at h
    · cases h
    · rename_i hfailed
      rw [not_not.mp hfailed]
  | gatePending gateId => cases h
  | raises error => cases h

theorem FailsUpTo.succ {count : Nat} (h : FailsUpTo outcome count)
    (hlast : outcome count = .returns (some "failed")) : FailsUpTo outcome (count + 1) := by
  intro i hi
  obtain hlt | rfl := Nat.lt_succ_iff_lt_or_eq.mp hi
  · exact h i hlt
  · exact hlast

section Loop

variable (ctx : RecoveryContext) (startedAt : Nat → String)

theorem loop_ending (outcome : Nat → StageOutcome) {ceiling : Nat} (rounds : Nat) :
    ∀ (guard : Nat) (stageResult : String) (recovery : Recovery),
      Holds policy earlier outcome recovery guard guard →
      recovery.stageAttempt.getD stageId 0 = earlier + guard →
      guard ≤ granted policy maxRetries earlier → FailsUpTo outcome guard →
      rounds + guard = ceiling → Ending policy maxRetries earlier outcome ceiling
        (ctx.loop policy stageId maxRetries outcome startedAt rounds guard stageResult recovery).1
        (ctx.loop policy stageId maxRetries outcome startedAt rounds guard stageResult
          recovery).2 := by
  induction rounds with
  | zero =>
    intro guard stageResult recovery hholds hcount hgranted hfails hceiling
    obtain rfl : guard = ceiling := by omega
    exact .exceeded hgranted hfails hholds
  | succ rounds ih =>
    intro guard stageResult recovery hholds hcount hgranted hfails hceiling
    obtain hlt | heq := Nat.lt_or_eq_of_le hgranted
    · obtain ⟨next, hround, hnext, hcount'⟩ := RecoveryContext.round_granted ctx startedAt
        hholds hcount hlt stageResult
      rw [RecoveryContext.loop, hround]
      cases hverdict : (outcome guard).verdict with
      | again stageResult' =>
        exact ih (guard + 1) stageResult' next hnext hcount' hlt
          (hfails.succ (StageOutcome.eq_of_again hverdict)) (by omega)
      | ends answer => exact .ended guard hlt (by omega) hfails hnext hverdict
    · obtain ⟨next, answer, hround, hnext, hstops⟩ := RecoveryContext.round_stops ctx startedAt
        hholds hcount heq stageResult
      rw [RecoveryContext.loop, hround]
      exact .stopped guard heq (by omega) hfails hnext hstops

end Loop

/-! ## The account -/

section Account

variable {recovery : Recovery} {answer : Answer} {attempts executions : Nat}

theorem Holds.length_executions (h : Holds policy earlier outcome recovery attempts executions) :
    recovery.executions.length = executions := by
  rw [h.executions, length_map, length_range]

theorem Holds.length_attempts (h : Holds policy earlier outcome recovery attempts executions) :
    recovery.attempts.length = attempts := by
  simpa using congrArg List.length h.attempts

theorem FailsUpTo.countP_failed (hfails : FailsUpTo outcome executions) :
    ((List.range executions).map (reexecution policy earlier outcome)).countP
      (·.outcome.failed) = executions := by
  have hall := countP_eq_length (p := fun e : Reexecution => e.outcome.failed)
    (l := (List.range executions).map (reexecution policy earlier outcome))
  rw [length_map, length_range] at hall
  refine hall.mpr fun execution hmem => ?_
  obtain ⟨i, hi, rfl⟩ := mem_map.mp hmem
  rw [reexecution, hfails i (mem_range.mp hi)]
  rfl

theorem Holds.countP_failed (h : Holds policy earlier outcome recovery attempts executions)
    (hfails : FailsUpTo outcome executions) :
    recovery.executions.countP (·.outcome.failed) = executions := by
  rw [h.executions]
  exact hfails.countP_failed

theorem attempt_le_of_granted {i : Nat} (hgranted : i < granted policy maxRetries earlier)
    (hmirror : reflects policy = false) : ((earlier + 1 + i : Nat) : Int) ≤ maxRetries := by
  cases policy with
  | none => exact (Nat.not_lt_zero i hgranted).elim
  | some allowed =>
    have hreflect : allowed.onExhausted ≠ .reflect := by simpa [reflects] using hmirror
    rw [granted, if_neg hreflect] at hgranted
    omega

theorem Holds.retried (h : Holds policy earlier outcome recovery attempts executions)
    (hgranted : executions ≤ granted policy maxRetries earlier) (execution : Reexecution)
    (hmem : execution ∈ recovery.executions) (hreflected : execution.reflected = false) :
    (execution.attempt : Int) ≤ maxRetries := by
  rw [h.executions] at hmem
  obtain ⟨i, hi, rfl⟩ := mem_map.mp hmem
  exact attempt_le_of_granted (Nat.lt_of_lt_of_le (mem_range.mp hi) hgranted) hreflected

theorem Holds.not_pending (h : Holds policy earlier outcome recovery attempts executions)
    (hfails : FailsUpTo outcome executions) (execution : Reexecution)
    (hmem : execution ∈ recovery.executions) (gateId : String) :
    execution.outcome ≠ .gatePending gateId := by
  rw [h.executions] at hmem
  obtain ⟨i, hi, rfl⟩ := mem_map.mp hmem
  rw [reexecution, hfails i (mem_range.mp hi)]
  exact fun h => nomatch h

theorem Holds.countP_ended {count : Nat}
    (h : Holds policy earlier outcome recovery attempts (count + 1))
    (hfails : FailsUpTo outcome count) : recovery.executions.countP (·.outcome.failed) =
      count + if (outcome count).failed = true then 1 else 0 := by
  rw [h.executions, range_succ, map_append, countP_append, hfails.countP_failed,
    map_singleton, countP_singleton]
  rfl

theorem accounted_of_stopped {count : Nat}
    (hholds : Holds policy earlier outcome recovery (count + 1) count)
    (hfails : FailsUpTo outcome count) (hgranted : count ≤ granted policy maxRetries earlier)
    (hceiling : count < (maxRetries * 2 + 1).toNat)
    (hstops : Stops policy (earlier + (count + 1)) answer) :
    Accounted policy maxRetries earlier recovery answer where
  bounded := by
    rw [hholds.length_executions]
    omega
  retried := hholds.retried hgranted
  recorded := by
    rw [hholds.countP_failed hfails, Nat.add_comm 1 count]
    exact hholds.attempts
  answered result hanswer hresult := by
    obtain rfl | ⟨rfl, allowed, hpolicy, hreflect, hmax⟩ := hstops
    · exact (hresult (Answer.returned.inj hanswer).symm).elim
    · refine .inr ⟨(Answer.returned.inj hanswer).symm, allowed, hpolicy, hreflect, ?_⟩
      rw [hholds.length_attempts]
      exact_mod_cast hmax
  pending execution hmem gateId hpending :=
    (hholds.not_pending hfails execution hmem gateId hpending).elim

theorem accounted_of_ended {count : Nat}
    (hholds : Holds policy earlier outcome recovery (count + 1) (count + 1))
    (hfails : FailsUpTo outcome count) (hgranted : count < granted policy maxRetries earlier)
    (hceiling : count < (maxRetries * 2 + 1).toNat) (hends : (outcome count).verdict = .ends answer)
    (hraises : ∀ error, outcome count ≠ .raises error) :
    Accounted policy maxRetries earlier recovery answer where
  bounded := by
    rw [hholds.length_executions]
    omega
  retried := hholds.retried hgranted
  recorded := by
    have hfailed : (outcome count).failed = false := by
      cases houtcome : outcome count with
      | returns result =>
        rw [houtcome, StageOutcome.verdict] at hends
        split at hends
        · rename_i hresult
          simpa [StageOutcome.failed] using hresult
        · cases hends
      | gatePending gateId => rfl
      | raises error => exact (hraises error houtcome).elim
    rw [hholds.countP_ended hfails, hfailed, if_neg Bool.false_ne_true, Nat.add_comm 1]
    exact hholds.attempts
  answered result hanswer hresult := by
    refine .inl ⟨reexecution policy earlier outcome count, ?_, ?_⟩
    · rw [hholds.executions, range_succ, map_append, map_singleton, getLast?_concat]
    · rw [hanswer] at hends
      change outcome count = .returns result
      cases houtcome : outcome count with
      | returns value =>
        rw [houtcome, StageOutcome.verdict] at hends
        split at hends
        · injection hends with hback
          rw [Answer.returned.inj hback]
        · cases hends
      | gatePending gateId => rw [houtcome] at hends; cases hends
      | raises error => exact (hraises error houtcome).elim
  pending execution hmem gateId hpending := by
    rw [hholds.executions] at hmem
    obtain ⟨i, hi, rfl⟩ := mem_map.mp hmem
    change outcome i = .gatePending gateId at hpending
    obtain hlt | rfl := Nat.lt_succ_iff_lt_or_eq.mp (mem_range.mp hi)
    · rw [hfails i hlt] at hpending
      cases hpending
    · rw [hpending] at hends
      injection hends with hanswer
      exact hanswer.symm

theorem Ending.accounted_iff
    (h : Ending policy maxRetries earlier outcome (maxRetries * 2 + 1).toNat recovery answer) :
    Accounted policy maxRetries earlier recovery answer ↔
      Meets policy maxRetries earlier outcome := by
  cases h with
  | stopped count hgranted hceiling hfails hholds hstops =>
    refine iff_of_true (accounted_of_stopped hholds hfails hgranted.le hceiling hstops)
      ⟨by omega, fun i hi _ _ error hraises => ?_, fun hbelow => by omega⟩
    rw [hfails i (by omega)] at hraises
    cases hraises
  | ended count hgranted hceiling hfails hholds hends =>
    constructor
    · intro hsums
      refine ⟨by omega, fun i hi hlt hfails' error hraises => ?_, fun hbelow hall => ?_⟩
      · -- The first execution that does not return `"failed"` is the one that ends the call.
        have hi : i = count := by
          obtain hlt | heq | hgt := Nat.lt_trichotomy i count
          · rw [hfails i hlt] at hraises
            cases hraises
          · exact heq
          · rw [hfails' count hgt] at hends
            cases hends
        subst hi
        have hlength := congrArg List.length hsums.recorded
        rw [hholds.countP_ended hfails, hraises, length_map, hholds.length_attempts,
          length_map, length_range] at hlength
        simp only [StageOutcome.failed, if_true] at hlength
        omega
      · rw [hall count hceiling] at hends
        cases hends
    · intro hmeets
      exact accounted_of_ended hholds hfails hgranted hceiling hends
        (hmeets.returns count hgranted (by omega) hfails)
  | exceeded hgranted hfails hholds =>
    refine iff_of_false (fun hsums => ?_) fun hmeets => ?_
    · have hbounded := hsums.bounded
      have hlength := congrArg List.length hsums.recorded
      rw [hholds.countP_failed hfails, length_map, hholds.length_attempts,
        length_map, length_range] at hlength
      omega
    · have hnonneg := hmeets.nonneg
      exact hmeets.below (by omega) hfails

end Account

/-- Of a run that goes on, under an engine: a call accounts for every execution of the stage
exactly when `max_retries` is not negative, the first of the executions granted
that does not return `"failed"` does not raise, and they do not all fail up to the ceiling. -/
theorem failures_accounted_iff (ctx : RecoveryContext) (policy : Option TaskRestartPolicy)
    (hrunning : ctx.runTerminated = false) (hengine : ctx.restartPolicy = some policy)
    (stageId stageResult : String) (maxRetries : Int) (outcome : Nat → StageOutcome)
    (startedAt : Nat → String) (stageAttempt : Dict String Nat) :
    Accounted policy maxRetries (stageAttempt.getD stageId 0)
      (ctx.handleStageFailure stageId maxRetries outcome startedAt stageResult stageAttempt).1
      (ctx.handleStageFailure stageId maxRetries outcome startedAt stageResult stageAttempt).2 ↔
    Meets policy maxRetries (stageAttempt.getD stageId 0) outcome := by
  have hbegin : Holds policy (stageAttempt.getD stageId 0) outcome { stageAttempt } 0 0 :=
    ⟨rfl, rfl⟩
  have hending := loop_ending ctx startedAt outcome (maxRetries * 2 + 1).toNat 0 stageResult
    { stageAttempt } hbegin rfl (Nat.zero_le (granted policy maxRetries _))
    (fun i hi => (Nat.not_lt_zero i hi).elim) rfl
  rw [RecoveryContext.handleStageFailure, hrunning, if_neg Bool.false_ne_true, hengine]
  exact hending.accounted_iff

/-- A run under a policy that reflects as long as there are attempts left. -/
def recovering (maxAttempts : Int) : RecoveryContext where
  runId := "run"
  taskId := "task"
  runTerminated := false
  restartPolicy := some (some { maxAttempts })
  hasReflectionOrchestrator := true

/-- A stage that fails once more and then completes. -/
theorem accounted_recovered : Accounted (some { maxAttempts := 10 }) 3 0
      ((recovering 10).handleStageFailure "plan" 3
        (fun i => if i = 0 then .returns (some "failed") else .returns none) (fun _ => "")
        "failed" .empty).1 ((recovering 10).handleStageFailure "plan" 3
        (fun i => if i = 0 then .returns (some "failed") else .returns none) (fun _ => "")
        "failed" .empty).2 := by
  refine (failures_accounted_iff (recovering 10) _ rfl rfl "plan" "failed" 3 _
    (fun _ => "") .empty).mpr
    ⟨by decide, fun i _ _ _ error hraises => ?_, fun _ hfails => ?_⟩
  · split at hraises <;> cases hraises
  · have hsecond := hfails 1 (by decide)
    cases hsecond

/-- A stage that keeps failing: the seventh re-execution is the last, and its failure is the
eighth of which seven are recorded. -/
theorem not_accounted_ceiling : ¬ Accounted (some { maxAttempts := 10 }) 3 0
      ((recovering 10).handleStageFailure "plan" 3 (fun _ => .returns (some "failed"))
        (fun _ => "") "failed" .empty).1
      ((recovering 10).handleStageFailure "plan" 3 (fun _ => .returns (some "failed"))
        (fun _ => "") "failed" .empty).2 := by
  intro hsums
  have hlength := congrArg List.length hsums.recorded
  revert hlength
  decide

end HiAgent.Execution.RecoveryCoordinator
