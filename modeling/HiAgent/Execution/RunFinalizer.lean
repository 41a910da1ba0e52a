/-
  Execution/RunFinalizer.lean --- the end of a run.

  `hi_agent/execution/run_finalizer.py`: `RunFinalizer.finalize`.
  `hi_agent/runner_lifecycle.py`: `RunLifecycle.finalize_run`.
  `hi_agent/failures`: the failure taxonomy and the collector.

  The lifecycle is told before the acceptance criteria are looked at, and knows two
  outcomes only.
-/
import HiAgent.Foundation.PyValue
import HiAgent.Server.Environment

namespace HiAgent.Execution

open Foundation Server

/-! ## Failures -/

/-- `TraceFailureCode`, under the name `hi_agent` gives it. -/
inductive FailureCode where
  | missingEvidence
  | invalidContext
  | harnessDenied
  | modelOutputInvalid
  | modelRefusal
  | callbackTimeout
  | noProgress
  | contradictoryEvidence
  | unsafeActionBlocked
  | explorationBudgetExhausted
  | executionBudgetExhausted

namespace FailureCode

/-- The value of an enumeration member. -/
def value : FailureCode → String
  | missingEvidence => "missing_evidence"
  | invalidContext => "invalid_context"
  | harnessDenied => "harness_denied"
  | modelOutputInvalid => "model_output_invalid"
  | modelRefusal => "model_refusal"
  | callbackTimeout => "callback_timeout"
  | noProgress => "no_progress"
  | contradictoryEvidence => "contradictory_evidence"
  | unsafeActionBlocked => "unsafe_action_blocked"
  | explorationBudgetExhausted => "exploration_budget_exhausted"
  | executionBudgetExhausted => "execution_budget_exhausted"

/-- `FAILURE_RECOVERY_MAP`. -/
def recovery : FailureCode → String
  | missingEvidence => "task_view_degradation"
  | invalidContext => "pre_call_abort"
  | harnessDenied => "approval_escalation"
  | modelOutputInvalid => "retry_or_downgrade_model"
  | modelRefusal => "alternate_model_or_human"
  | callbackTimeout => "recovery_path"
  | noProgress => "watchdog_handling"
  | contradictoryEvidence => "human_gate_c"
  | unsafeActionBlocked => "human_gate_approval"
  | explorationBudgetExhausted => "cts_termination_or_gate_b"
  | executionBudgetExhausted => "cts_termination_or_gate_b"

def isRetryable (code : FailureCode) : Bool :=
  code.recovery ∈ ["retry_or_downgrade_model", "recovery_path",
    "task_view_degradation", "watchdog_handling"]

end FailureCode

structure FailureRecord where
  failureCode : FailureCode
  message : String
  stageId : String
  resolved : Bool

/-- `FailureCollector`: the records, oldest first. -/
structure FailureCollector where
  records : List FailureRecord

namespace FailureCollector

def getUnresolved (collector : FailureCollector) : List FailureRecord :=
  collector.records.filter fun record => !record.resolved

/-- The record a failure is attributed to: the last unresolved one, else the last. -/
def lastFailure (collector : FailureCollector) : Option FailureRecord :=
  collector.getUnresolved.getLast?.or collector.records.getLast?

end FailureCollector

/-! ## The run that ends -/

/-- `StageSummary`, and for the attributes read with a default whether there is one. -/
structure StageSummary where
  stageName : Option String
  outcome : Option String
  findings : List String
  decisions : List String
  artifactIds : List String

/-- What `RunLifecycle` is wired to. -/
structure Lifecycle where
  evolveEngine : Bool
  evolveMode : String
  /-- `build_postmortem` returns. -/
  postmortemBuilds : Bool
  /-- An episode builder and an episodic store are there. -/
  episodes : Bool
  /-- `episode_builder.build` and `episodic_store.store` return. -/
  episodeStores : Bool

/-- `RunFinalizerContext`, with the surroundings of the call. -/
structure FinalizerContext where
  runId : String
  /-- `contract.acceptance_criteria`. -/
  acceptanceCriteria : List PyValue
  lifecycle : Lifecycle
  stageSummaries : List (String × StageSummary)
  currentStage : Option String
  failureCollector : Option FailureCollector
  /-- A restart policy is wired. -/
  restartPolicy : Bool
  lastExceptionMsg : Option String
  lastExceptionType : Option String
  skillIdsUsed : List String
  /-- The skill recorder, as the skills it raises for. -/
  skillRecorder : Option (List String)
  /-- What `persist_snapshot` raises. -/
  snapshotRaises : Option String
  /-- A team space is there and `share_to_team` is set. -/
  sharesToTeam : Bool
  hiAgentPosture : Option String
  hiAgentEnv : Option String
  /-- `repr()` of a text or of `None`. -/
  repr : Option String → String

/-- What is told about the outcome of a run. -/
inductive Notice where
  /-- `persist_snapshot(stage_id=..., result=...)`. -/
  | snapshot (stageId : Option String) (result : String)
  /-- `emit_observability(name, {"run_id": ..., "stage_id": ...})`. -/
  | event (name runId : String) (stageId : Option String)
  /-- The outcome of the `RunRetrospective` the evolve engine gets. -/
  | postmortem (outcome : String)
  /-- `skill_recorder.record_usage(skill_id=..., success=...)`. -/
  | skill (skillId : String) (success : Bool)
  /-- The outcome of the stored episode. -/
  | episode (outcome : String)
  /-- The outcome of the summary published to the team. -/
  | teamSummary (outcome : String)

/-- One entry of `RunResult.stages`. -/
structure StageDict where
  stageId : String
  stageName : String
  outcome : String
  findings : List String
  decisions : List String
  artifactIds : List String

structure RunResult where
  runId : String
  status : String
  stages : List StageDict
  artifacts : List String
  error : Option String
  failureCode : Option String
  failedStageId : Option String
  isRetryable : Bool

/-! ## `RunLifecycle.finalize_run` -/

namespace FinalizerContext

variable (ctx : FinalizerContext)

/-- `resolve_evolve_effective`: whether the evolve engine is used. -/
def resolveEvolveEffective (mode runtimeMode : String) : Bool :=
  if mode = "on" then true
  else if mode = "off" then false
  else runtimeMode = "dev-smoke"

def runtimeMode : String :=
  if resolveRuntimeMode ctx.hiAgentPosture ctx.hiAgentEnv = "dev" then "dev-smoke"
  else "prod-real"

/-- The postmortem, when the engine is there and used. -/
def tellEvolve (outcome : String) : List Notice :=
  if ctx.lifecycle.evolveEngine &&
      resolveEvolveEffective ctx.lifecycle.evolveMode ctx.runtimeMode &&
      ctx.lifecycle.postmortemBuilds then [.postmortem outcome]
  else []

/-- `finalize_skill_outcomes`: the skills in order, up to the first one the recorder
raises for. -/
def finalizeSkillOutcomes (outcome : String) : List Notice :=
  match ctx.skillRecorder with
  | none => []
  | some raisesFor =>
    (ctx.skillIdsUsed.takeWhile fun skillId => skillId ∉ raisesFor).map
      fun skillId => .skill skillId (outcome = "completed")

def buildAndStoreEpisode (outcome : String) : List Notice :=
  if ctx.lifecycle.episodes && ctx.lifecycle.episodeStores then [.episode outcome]
  else []

/-- `RunLifecycle.finalize_run`: what is told, and the outcome or what was raised. -/
def finalizeRun (outcome : String) : List Notice × Except String String :=
  let rest := ctx.tellEvolve outcome ++ ctx.finalizeSkillOutcomes outcome ++
    ctx.buildAndStoreEpisode outcome
  if outcome = "failed" then
    (.event "run_failed" ctx.runId ctx.currentStage :: rest, .ok outcome)
  else
    match ctx.snapshotRaises with
    | some error => ([], .error error)
    | none =>
      (.snapshot ctx.currentStage "completed" ::
        .event "run_completed" ctx.runId ctx.currentStage :: rest, .ok outcome)

/-! ## `RunFinalizer.finalize` -/

/-- The stages of the result as the summaries have them. -/
def stageDicts : List StageDict :=
  ctx.stageSummaries.map fun stage =>
    { stageId := stage.1
      stageName := stage.2.stageName.getD stage.1
      outcome := stage.2.outcome.getD "unknown"
      findings := stage.2.findings
      decisions := stage.2.decisions
      artifactIds := stage.2.artifactIds }

def allArtifactIds : List String :=
  ctx.stageSummaries.flatMap fun stage => stage.2.artifactIds

/-- What is known about the failure of a run. -/
structure Attribution where
  errorDetail : Option String
  failureCode : Option String
  failedStageId : Option String
  isRetryable : Bool

/-- `outcome_to_failure_code.get(outcome, outcome)`. -/
def outcomeToFailureCode (outcome : String) : String :=
  if outcome = "failed" then "no_progress"
  else if outcome = "aborted" then "exploration_budget_exhausted"
  else if outcome = "timeout" then "callback_timeout"
  else if outcome = "unsafe" then "unsafe_action_blocked"
  else outcome

/-- The error text before a record enriches it: the message of the exception, else
the outcome of the failed stage, else its name. -/
def fallbackError : String :=
  let stage := ctx.repr ctx.currentStage
  let general := "Run failed at stage " ++ stage
  match ctx.lastExceptionMsg with
  | some message => if message = "" then fromStage stage general else message
  | none => fromStage stage general
where
  fromStage (stage general : String) : String :=
    match ctx.stageSummaries.lookup (ctx.currentStage.getD "") with
    | none => general
    | some summary =>
      let outcome := summary.outcome.getD ""
      if outcome ≠ "" ∧ outcome ≠ "succeeded" then
        "Stage " ++ stage ++ " outcome: " ++ outcome
      else general

/-- The attribution of a run that did not complete. -/
def attributeFailure (outcome : String) : Attribution :=
  match ctx.failureCollector.bind FailureCollector.lastFailure with
  | none =>
    { errorDetail := some ctx.fallbackError
      failureCode := some (outcomeToFailureCode outcome)
      failedStageId := ctx.currentStage
      isRetryable := ctx.restartPolicy }
  | some record =>
    { errorDetail :=
        some (if record.message = "" then ctx.fallbackError else record.message)
      failureCode := some record.failureCode.value
      failedStageId :=
        if record.stageId = "" then ctx.currentStage else some record.stageId
      isRetryable := record.failureCode.isRetryable || ctx.restartPolicy }

/-- The failed stage is not listed with an outcome that says otherwise. -/
def crossValidate (failedStageId : Option String) (stages : List StageDict) : List StageDict :=
  stages.map fun stage =>
    if some stage.stageId = failedStageId ∧ stage.outcome ∈ ["succeeded", "active", "unknown"] then
      { stage with outcome := "failed" }
    else stage

/-- A criterion that is not met. A value that is not a text and a text of another
form count as met. -/
def criterionFails : PyValue → Option String
  | .str criterion =>
    match Text.afterPrefix "required_stage:" criterion with
    | some stageId =>
      if ∃ stage ∈ ctx.stageDicts, stage.stageId = stageId ∧ stage.outcome = "succeeded" then none
      else some criterion
    | none =>
      match Text.afterPrefix "required_artifact:" criterion with
      | some artifactId =>
        if artifactId ∈ ctx.allArtifactIds then none else some criterion
      | none => none
  | _ => none

def criteriaFailures : List String :=
  ctx.acceptanceCriteria.filterMap ctx.criterionFails

/-- `str(criteria_failures)`. -/
def printTexts (texts : List String) : String :=
  "[" ++ String.intercalate ", " (texts.map fun text => ctx.repr (some text)) ++ "]"

def excTypeToFailureCode (excType : String) : Option String :=
  if excType ∈ ["TimeoutError", "asyncio.TimeoutError",
      "concurrent.futures.TimeoutError"] then some "callback_timeout"
  else if excType ∈ ["MemoryError", "RecursionError"] then
    some "execution_budget_exhausted"
  else if excType = "PermissionError" then some "harness_denied"
  else if excType ∈ ["KeyError", "ValueError", "TypeError"] then some "invalid_context"
  else none

/-- The failure code, refined by the type of the exception where it is still the
default one. -/
def refineFailureCode (failureCode : Option String) : Option String :=
  if failureCode = some "no_progress" then
    match ctx.lastExceptionType.bind excTypeToFailureCode with
    | some mapped => some mapped
    | none => failureCode
  else failureCode

/-- The result of a run that ends with an outcome. -/
def result (outcome : String) : RunResult :=
  if outcome = "completed" then
    if ctx.criteriaFailures = [] then
      { runId := ctx.runId
        status := outcome
        stages := ctx.stageDicts
        artifacts := ctx.allArtifactIds
        error := none
        failureCode := none
        failedStageId := none
        isRetryable := false }
    else
      { runId := ctx.runId
        status := "failed"
        stages := ctx.stageDicts
        artifacts := ctx.allArtifactIds
        error := some ("Acceptance criteria not met: " ++ ctx.printTexts ctx.criteriaFailures)
        failureCode := ctx.refineFailureCode (some "invalid_context")
        failedStageId := none
        isRetryable := false }
  else
    let attribution := ctx.attributeFailure outcome
    { runId := ctx.runId
      status := outcome
      stages := crossValidate attribution.failedStageId ctx.stageDicts
      artifacts := ctx.allArtifactIds
      error := attribution.errorDetail
      failureCode := ctx.refineFailureCode attribution.failureCode
      failedStageId := attribution.failedStageId
      isRetryable := attribution.isRetryable }

/-- `_validate_spine("RunResult", {"tenant_id": "", "run_id": ...})`: the result is
built without a tenant, which the strict postures refuse. -/
def validateSpine : Except String Unit :=
  (Posture.fromEnv ctx.hiAgentPosture).bind fun posture =>
    if posture.isStrict then
      .error ("RunResult constructed without required spine fields under posture=" ++
        posture.value ++ ": missing=" ++
        ctx.printTexts ("tenant_id" :: if ctx.runId = "" then ["run_id"] else []) ++
        ". Populate at the construction site (Rule 12).")
    else .ok ()

def tellTeam (status : String) : List Notice :=
  if ctx.sharesToTeam then [.teamSummary status] else []

/-- `RunFinalizer.finalize`: what is told, and the result or what was raised. -/
def finalize (outcome : String) : List Notice × Except String RunResult :=
  match ctx.finalizeRun outcome with
  | (notices, .error error) => (notices, .error error)
  | (notices, .ok _) =>
    let result := ctx.result outcome
    match ctx.validateSpine with
    | .error error => (notices, .error error)
    | .ok () => (notices ++ ctx.tellTeam result.status, .ok result)

end FinalizerContext

open List

/-- The notice says that the run ended with this status. -/
def Notice.Agrees (status : String) : Notice → Prop
  | snapshot _ result => result = status
  | event name _ _ => name = "run_" ++ status
  | postmortem outcome => outcome = status
  | skill _ success => success = decide (status = "completed")
  | episode outcome => outcome = status
  | teamSummary outcome => outcome = status

/-- The result accounts for a failure. -/
structure RunResult.Accounts (result : RunResult) : Prop where
  failureCode : ∃ code, result.failureCode = some code ∧ code ≠ ""
  error : ∃ error, result.error = some error ∧ error ≠ ""
  failedStage : ∀ stage ∈ result.stages, some stage.stageId = result.failedStageId →
    stage.outcome ≠ "succeeded"

namespace FinalizerContext

/-- The acceptance criteria hold of the summaries of the stages. -/
structure CriteriaMet (ctx : FinalizerContext) : Prop where
  stages : ∀ stageId, .str ("required_stage:" ++ stageId) ∈ ctx.acceptanceCriteria →
    ∃ stage ∈ ctx.stageSummaries, stage.1 = stageId ∧ stage.2.outcome = some "succeeded"
  artifacts : ∀ artifactId, .str ("required_artifact:" ++ artifactId) ∈ ctx.acceptanceCriteria →
    ∃ stage ∈ ctx.stageSummaries, artifactId ∈ stage.2.artifactIds

/-- The result shows that the acceptance criteria hold. -/
structure Satisfied (ctx : FinalizerContext) (result : RunResult) : Prop where
  stages : ∀ stageId, .str ("required_stage:" ++ stageId) ∈ ctx.acceptanceCriteria →
    ∃ stage ∈ result.stages, stage.stageId = stageId ∧ stage.outcome = "succeeded"
  artifacts : ∀ artifactId, .str ("required_artifact:" ++ artifactId) ∈ ctx.acceptanceCriteria →
    artifactId ∈ result.artifacts

/-- The run has one outcome: the one the lifecycle is handed, the one everybody is
told and the one of the result, which bears it out. -/
structure OneOutcome (ctx : FinalizerContext) (outcome : String)
    (notices : List Notice) (result : RunResult) : Prop where
  handed : outcome = result.status
  told : ∀ notice ∈ notices, notice.Agrees result.status
  completed : result.status = "completed" → ctx.Satisfied result ∧ result.failureCode = none
  otherwise : result.status ≠ "completed" → result.Accounts

variable {ctx : FinalizerContext}

/-! ## Acceptance criteria -/

theorem exists_succeeded_iff (stageId : String) :
    (∃ stage ∈ ctx.stageDicts, stage.stageId = stageId ∧ stage.outcome = "succeeded") ↔
      ∃ stage ∈ ctx.stageSummaries, stage.1 = stageId ∧ stage.2.outcome = some "succeeded" := by
  unfold stageDicts
  constructor
  · rintro ⟨_, hdict, hid, houtcome⟩
    obtain ⟨stage, hmem, rfl⟩ := mem_map.mp hdict
    refine ⟨stage, hmem, hid, ?_⟩
    dsimp only at houtcome
    cases h : stage.2.outcome with
    | none =>
      rw [h] at houtcome
      exact absurd houtcome (by decide)
    | some outcome =>
      rw [h] at houtcome
      exact congrArg some houtcome
  · rintro ⟨stage, hmem, hid, houtcome⟩
    exact ⟨_, mem_map_of_mem hmem, hid, by rw [houtcome, Option.getD_some]⟩

theorem mem_allArtifactIds_iff (artifactId : String) : artifactId ∈ ctx.allArtifactIds ↔
      ∃ stage ∈ ctx.stageSummaries, artifactId ∈ stage.2.artifactIds :=
  mem_flatMap

theorem not_both_prefixes {stageId artifactId : String} :
    "required_stage:" ++ stageId ≠ "required_artifact:" ++ artifactId := by
  intro h
  have hchar := congrArg (fun s => s.toList[9]?) h
  simp at hchar

theorem criterionFails_eq_none_iff (criterion : PyValue) : ctx.criterionFails criterion = none ↔
      (∀ stageId, criterion = .str ("required_stage:" ++ stageId) → ∃ stage ∈ ctx.stageDicts,
          stage.stageId = stageId ∧ stage.outcome = "succeeded") ∧
      ∀ artifactId, criterion = .str ("required_artifact:" ++ artifactId) →
        artifactId ∈ ctx.allArtifactIds := by
  cases criterion with
  | str text =>
    simp only [criterionFails, PyValue.str.injEq]
    cases hstage : Text.afterPrefix "required_stage:" text with
    | some stageId =>
      obtain rfl := Text.afterPrefix_eq_some_iff.mp hstage
      simp only [ite_eq_left_iff, reduceCtorEq, imp_false, not_not]
      constructor
      · intro h
        refine ⟨fun other hother => ?_, fun artifactId hartifact =>
          absurd hartifact not_both_prefixes⟩
        rwa [← (String.append_right_inj _).mp hother]
      · intro h
        exact h.1 stageId rfl
    | none =>
      have hno : ∀ stageId, text ≠ "required_stage:" ++ stageId := by
        intro stageId h
        rw [Text.afterPrefix_eq_some_iff.mpr h] at hstage
        cases hstage
      cases hartifact : Text.afterPrefix "required_artifact:" text with
      | some artifactId =>
        obtain rfl := Text.afterPrefix_eq_some_iff.mp hartifact
        simp only [ite_eq_left_iff, reduceCtorEq, imp_false, not_not]
        constructor
        · intro h
          refine ⟨fun stageId hstage => absurd hstage (hno stageId), fun other hother => ?_⟩
          rwa [← (String.append_right_inj _).mp hother]
        · intro h
          exact h.2 artifactId rfl
      | none =>
        refine iff_of_true rfl ⟨fun stageId h => absurd h (hno stageId), fun artifactId h => ?_⟩
        rw [Text.afterPrefix_eq_some_iff.mpr h] at hartifact
        cases hartifact
  | none | bool _ | int _ | float _ | list _ | dict _ | other _ _ =>
    simp [criterionFails]

theorem criteriaFailures_eq_nil_iff : ctx.criteriaFailures = [] ↔ ctx.CriteriaMet := by
  unfold criteriaFailures
  rw [filterMap_eq_nil_iff]
  constructor
  · intro h
    constructor
    · intro stageId hmem
      rw [← exists_succeeded_iff]
      exact ((criterionFails_eq_none_iff _).mp (h _ hmem)).1 stageId rfl
    · intro artifactId hmem
      rw [← mem_allArtifactIds_iff]
      exact ((criterionFails_eq_none_iff _).mp (h _ hmem)).2 artifactId rfl
  · intro h criterion hmem
    rw [criterionFails_eq_none_iff]
    constructor
    · rintro stageId rfl
      exact (exists_succeeded_iff stageId).mpr (h.stages stageId hmem)
    · rintro artifactId rfl
      exact (mem_allArtifactIds_iff artifactId).mpr (h.artifacts artifactId hmem)

/-! ## The result -/

theorem append_ne_empty {start : String} (h : start ≠ "") (rest : String) : start ++ rest ≠ "" := by
  intro happend
  exact h (String.append_eq_empty_iff.mp happend).1

theorem fallbackError_ne_empty : ctx.fallbackError ≠ "" := by
  have hgeneral : ∀ stage : String, "Run failed at stage " ++ stage ≠ "" :=
    append_ne_empty (by decide)
  have hstage : ∀ stage, fallbackError.fromStage ctx stage
      ("Run failed at stage " ++ stage) ≠ "" := by
    intro stage
    unfold fallbackError.fromStage
    split
    · exact hgeneral stage
    · dsimp only
      split
      · exact append_ne_empty (append_ne_empty (append_ne_empty (by decide) _) _) _
      · exact hgeneral stage
  unfold fallbackError
  dsimp only
  split
  · split
    · exact hstage _
    · assumption
  · exact hstage _

theorem value_ne_empty (code : FailureCode) : code.value ≠ "" := by
  cases code <;> decide

variable {outcome : String}

theorem outcomeToFailureCode_ne_empty (h : outcome ≠ "") : outcomeToFailureCode outcome ≠ "" := by
  unfold outcomeToFailureCode
  split_ifs
  all_goals first
    | exact h
    | decide

theorem attributeFailure_spec (ctx : FinalizerContext) (h : outcome ≠ "") :
    (∃ error, (ctx.attributeFailure outcome).errorDetail = some error ∧ error ≠ "") ∧
      ∃ code, (ctx.attributeFailure outcome).failureCode = some code ∧ code ≠ "" := by
  unfold attributeFailure
  split
  · exact ⟨⟨_, rfl, fallbackError_ne_empty⟩, ⟨_, rfl, outcomeToFailureCode_ne_empty h⟩⟩
  · rename_i record _
    refine ⟨⟨_, rfl, ?_⟩, ⟨_, rfl, value_ne_empty _⟩⟩
    split
    · exact fallbackError_ne_empty
    · assumption

theorem excTypeToFailureCode_ne_empty {excType code : String}
    (h : excTypeToFailureCode excType = some code) : code ≠ "" := by
  unfold excTypeToFailureCode at h
  split_ifs at h
  all_goals
    cases h
    decide

theorem refineFailureCode_spec {code : String} (h : code ≠ "") :
    ∃ refined, ctx.refineFailureCode (some code) = some refined ∧ refined ≠ "" := by
  unfold refineFailureCode
  split
  · cases hmapped : ctx.lastExceptionType.bind excTypeToFailureCode with
    | none => exact ⟨code, rfl, h⟩
    | some mapped =>
      obtain ⟨excType, _, hexc⟩ := Option.bind_eq_some_iff.mp hmapped
      exact ⟨mapped, rfl, excTypeToFailureCode_ne_empty hexc⟩
  · exact ⟨code, rfl, h⟩

theorem crossValidate_ne_succeeded {failedStageId : Option String}
    {stages : List StageDict} {stage : StageDict}
    (hmem : stage ∈ crossValidate failedStageId stages)
    (hfailed : some stage.stageId = failedStageId) : stage.outcome ≠ "succeeded" := by
  obtain ⟨listed, _, hstage⟩ := mem_map.mp hmem
  split at hstage
  · rw [← hstage]
    have hne : "failed" ≠ "succeeded" := by decide
    exact hne
  · rename_i hlisted
    rw [← hstage] at hfailed ⊢
    intro h
    exact hlisted ⟨hfailed, by rw [h]; decide⟩

theorem satisfied_result (h : (ctx.result outcome).status = "completed") :
    ctx.Satisfied (ctx.result outcome) ∧ (ctx.result outcome).failureCode = none := by
  unfold result at h ⊢
  split at h
  · rename_i houtcome
    rw [if_pos houtcome]
    split at h
    · rename_i htests
      have hmet := criteriaFailures_eq_nil_iff.mp htests
      rw [if_pos htests]
      refine ⟨⟨fun stageId hmem => ?_, fun artifactId hmem => ?_⟩, rfl⟩
      · exact (exists_succeeded_iff stageId).mpr (hmet.stages stageId hmem)
      · exact (mem_allArtifactIds_iff artifactId).mpr (hmet.artifacts artifactId hmem)
    · have hstatus : "failed" = "completed" := h
      exact absurd hstatus (by decide)
  · rename_i houtcome
    exact absurd h houtcome

theorem accounts_result (hempty : outcome ≠ "")
    (h : (ctx.result outcome).status ≠ "completed") : (ctx.result outcome).Accounts := by
  unfold result at h ⊢
  split at h
  · rename_i houtcome
    rw [if_pos houtcome]
    split at h
    · exact absurd houtcome h
    · rename_i htests
      rw [if_neg htests]
      have hcode : "invalid_context" ≠ "" := by decide
      have htext : "Acceptance criteria not met: " ≠ "" := by decide
      refine ⟨ctx.refineFailureCode_spec hcode, ⟨_, rfl, append_ne_empty htext _⟩,
        fun stage _ hfailed => ?_⟩
      cases hfailed
  · rename_i houtcome
    rw [if_neg houtcome]
    obtain ⟨herror, code, hcode, hne⟩ := attributeFailure_spec ctx hempty
    refine ⟨?_, herror, fun stage hmem hfailed => crossValidate_ne_succeeded hmem hfailed⟩
    dsimp only
    rw [hcode]
    exact refineFailureCode_spec hne

/-! ## What is told -/

theorem agrees_passed_on {notice : Notice}
    (h : notice ∈ ctx.tellEvolve outcome ++ ctx.finalizeSkillOutcomes outcome ++
      ctx.buildAndStoreEpisode outcome) : notice.Agrees outcome := by
  rw [mem_append, mem_append] at h
  rcases h with (hevolve | hskills) | hepisode
  · unfold tellEvolve at hevolve
    split at hevolve
    · obtain rfl := mem_singleton.mp hevolve
      rfl
    · cases hevolve
  · unfold finalizeSkillOutcomes at hskills
    split at hskills
    · cases hskills
    · obtain ⟨skillId, _, rfl⟩ := mem_map.mp hskills
      rfl
  · unfold buildAndStoreEpisode at hepisode
    split at hepisode
    · obtain rfl := mem_singleton.mp hepisode
      rfl
    · cases hepisode

variable {notices : List Notice}

theorem agrees_finalizeRun_iff {outcome returned : String}
    (h : ctx.finalizeRun outcome = (notices, .ok returned)) :
    (∀ notice ∈ notices, notice.Agrees outcome) ↔ outcome = "failed" ∨ outcome = "completed" := by
  unfold finalizeRun at h
  dsimp only at h
  split at h
  · rename_i hfailed
    cases h
    refine iff_of_true (fun notice hmem => ?_) (.inl hfailed)
    rcases mem_cons.mp hmem with rfl | hrest
    · rw [hfailed]
      rfl
    · exact agrees_passed_on hrest
  · rename_i hfailed
    split at h
    · cases h
    · cases h
      constructor
      · intro hall
        have hshot : "completed" = outcome := hall _ mem_cons_self
        exact .inr hshot.symm
      · rintro (hfailed' | rfl)
        · exact absurd hfailed' hfailed
        · intro notice hmem
          rcases mem_cons.mp hmem with rfl | hrest
          · rfl
          rcases mem_cons.mp hrest with rfl | hrest
          · rfl
          · exact agrees_passed_on hrest

theorem status_result_iff : outcome = (ctx.result outcome).status ↔
      (outcome = "completed" → ctx.CriteriaMet) := by
  unfold result
  split
  · rename_i houtcome
    split
    · rename_i htests
      exact iff_of_true rfl fun _ => criteriaFailures_eq_nil_iff.mp htests
    · rename_i htests
      refine iff_of_false ?_ fun h => htests (criteriaFailures_eq_nil_iff.mpr (h houtcome))
      subst houtcome
      have hne : "completed" ≠ "failed" := by decide
      exact hne
  · rename_i houtcome
    exact iff_of_true rfl fun h => absurd h houtcome

theorem finalize_eq_ok {result : RunResult} (h : ctx.finalize outcome = (notices, .ok result)) :
    ∃ told returned, ctx.finalizeRun outcome = (told, .ok returned) ∧
      result = ctx.result outcome ∧ notices = told ++ ctx.tellTeam result.status := by
  unfold finalize at h
  split at h
  · cases h
  · rename_i told returned hrun
    dsimp only at h
    split at h
    · cases h
    · cases h
      exact ⟨told, returned, hrun, rfl, rfl⟩

theorem agrees_tellTeam {status : String} {notice : Notice}
    (h : notice ∈ ctx.tellTeam status) : notice.Agrees status := by
  unfold tellTeam at h
  split at h
  · obtain rfl := mem_singleton.mp h
    rfl
  · cases h

/-- A run has one outcome exactly when it failed before, or completed and meets the
acceptance criteria. -/
theorem oneOutcome_iff {outcome : String} {result : RunResult}
    (h : ctx.finalize outcome = (notices, .ok result)) : ctx.OneOutcome outcome notices result ↔
      outcome = "failed" ∨ outcome = "completed" ∧ ctx.CriteriaMet := by
  obtain ⟨told, returned, hrun, rfl, rfl⟩ := finalize_eq_ok h
  have hagrees := agrees_finalizeRun_iff hrun
  constructor
  · intro hone
    have hstatus := status_result_iff.mp hone.handed
    have htold : ∀ notice ∈ told, notice.Agrees outcome := by
      intro notice hmem
      rw [hone.handed]
      exact hone.told notice (mem_append_left _ hmem)
    rcases hagrees.mp htold with hfailed | hdone
    · exact .inl hfailed
    · exact .inr ⟨hdone, hstatus hdone⟩
  · intro hcond
    have hstatus : outcome = (ctx.result outcome).status := by
      rw [status_result_iff]
      rintro rfl
      rcases hcond with hfailed | ⟨_, hmet⟩
      · exact absurd hfailed (by decide)
      · exact hmet
    have hempty : outcome ≠ "" := by
      rintro rfl
      exact absurd hcond (by simp)
    refine ⟨hstatus, fun notice hmem => ?_, satisfied_result, accounts_result hempty⟩
    rcases mem_append.mp hmem with htold | hteam
    · rw [← hstatus]
      exact hagrees.mpr (hcond.imp_right And.left) notice htold
    · exact agrees_tellTeam hteam

/-- A run of one stage that must have produced an artifact. -/
def reportRun (artifactIds : List String) : FinalizerContext where
  runId := "run-1"
  acceptanceCriteria := [.str "required_artifact:report"]
  lifecycle := ⟨true, "on", true, true, true⟩
  stageSummaries := [("S1", ⟨some "S1", some "succeeded", [], [], artifactIds⟩)]
  currentStage := some "S1"
  failureCollector := some ⟨[]⟩
  restartPolicy := true
  lastExceptionMsg := none
  lastExceptionType := none
  skillIdsUsed := ["search"]
  skillRecorder := some []
  snapshotRaises := none
  sharesToTeam := false
  hiAgentPosture := some "dev"
  hiAgentEnv := none
  repr := fun text => text.elim "None" fun text => "'" ++ text ++ "'"

theorem oneOutcome_iff_report : (reportRun ["report"]).OneOutcome "completed"
      [.snapshot (some "S1") "completed", .event "run_completed" "run-1" (some "S1"),
        .postmortem "completed", .skill "search" true, .episode "completed"]
      ((reportRun ["report"]).result "completed") := by
  refine (oneOutcome_iff rfl).mpr (.inr ⟨rfl, criteriaFailures_eq_nil_iff.mp ?_⟩)
  decide

/-- The snapshot, the event, the postmortem, the skills and the episode of a run that
lacks its artifact say `completed`, its result says `failed`. -/
theorem not_oneOutcome_missing_artifact :
    ¬ ∀ (ctx : FinalizerContext) (outcome : String) (notices : List Notice)
      (result : RunResult), ctx.finalize outcome = (notices, .ok result) →
      ctx.OneOutcome outcome notices result := by
  intro h
  have hone := h (reportRun []) "completed"
    [.snapshot (some "S1") "completed", .event "run_completed" "run-1" (some "S1"),
      .postmortem "completed", .skill "search" true, .episode "completed"]
    ((reportRun []).result "completed") rfl
  have hhanded : "completed" = "failed" := hone.handed
  exact absurd hhanded (by decide)

end FinalizerContext

end HiAgent.Execution
