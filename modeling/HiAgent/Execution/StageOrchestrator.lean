/-
  Execution/StageOrchestrator.lean --- the loops that drive the stages of a run.

  `hi_agent/execution/stage_orchestrator.py`: `run_linear`, `run_resume` and
  `run_graph`, with `_run_loop` around them.
  `hi_agent/execution/gate_coordinator.py`: the loop of `continue_from_gate_graph`.
  `hi_agent/contracts/directives.py`: `StageDirective`.

  `run_linear` and `run_resume` are one loop with two interpreters of directives.
-/
import HiAgent.Foundation.Machine
import HiAgent.Server.Environment
import HiAgent.Trajectory.StageGraph

namespace HiAgent.Execution

open Foundation Server Trajectory

/-! ## Directives -/

structure InsertSpec where
  targetStageId : String
  newStage : String

/-- `StageDirective`, each action with the fields it reads. -/
inductive StageDirective where
  | continue
  | skip (targetStageId : String)
  | repeat (targetStageId : String)
  | insert (specs : List InsertSpec)
  | skipTo (stageId : String)

/-- An exception. -/
inductive Raise where
  /-- `GatePendingError`. -/
  | gatePending (gateId : String)
  /-- `StageDirectiveError`. -/
  | directive (text : String)
  /-- Any other `Exception`. -/
  | other (text : String)
  deriving DecidableEq

/-- What the replan hook answers. -/
inductive HookAnswer where
  | directive (directive : StageDirective)
  /-- `None`, or a value that is no directive. -/
  | other
  | raises (raise : Raise)

/-- The result of a stage or of a failure handler: `"failed"` or anything else. -/
inductive StageResult where
  | failed
  | passed
  deriving DecidableEq

/-- What the callables answer in one turn of a loop. -/
structure Answers where
  /-- `execute_stage_fn`. -/
  result : Except Raise StageResult
  /-- `handle_stage_failure_fn`. -/
  handled : Except Raise StageResult
  /-- `replan_hook`; without a hook, `other`. -/
  hook : HookAnswer
  /-- `route_engine.select_stage`, where there is one and it does not raise. -/
  select : List String → Option String

abbrev Turn := String → Answers

/-! ## Executions -/

/-- How an execution of a stage ended. -/
inductive Fate where
  | passed
  /-- It failed and the handler turned the failure into another result. -/
  | handled
  | failed
  /-- It failed and its backtrack edge was taken. -/
  | backtracked (target : String)
  | raised
  deriving DecidableEq

namespace Fate

def ok : Fate → Bool
  | passed => true
  | handled => true
  | _ => false

end Fate

/-- An execution of a stage. -/
structure StageRun where
  stageId : String
  fate : Fate
  deriving DecidableEq

/-- What the run is finalized as. -/
inductive Outcome where
  | completed
  | failed
  deriving DecidableEq

/-- Where a loop stands. -/
inductive Status where
  | running
  | finalized (outcome : Outcome)
  /-- The exception leaves the orchestrator. -/
  | raised (raise : Raise)
  deriving DecidableEq

/-- `_run_loop`: gate and directive errors propagate, any other exception fails the
run. -/
def Status.ofRaise : Raise → Status
  | .other _ => .finalized .failed
  | raise => .raised raise

/-- `StageOrchestratorContext`. -/
structure Orchestrator where
  stageGraph : StageGraph
  hiAgentPosture : Option String
  /-- `repr()` of a text. -/
  repr : String → String

namespace Orchestrator

variable (ctx : Orchestrator)

/-! ## Following a directive -/

/-- `items.insert(items.index(anchor) + 1, new)`. -/
def insertAfter (anchor new : String) : List String → List String
  | [] => []
  | stageId :: rest =>
    if stageId = anchor then stageId :: new :: rest
    else stageId :: insertAfter anchor new rest

/-- The specifications of an insert, in order. Without its anchor a stage goes to
the end, or raises under a strict posture. -/
def insertSpecs (posture : Posture) (notFound : String → String) :
    List InsertSpec → List String → Except String (List String)
  | [], remaining => .ok remaining
  | spec :: specs, remaining =>
    if spec.targetStageId ∈ remaining then
      insertSpecs posture notFound specs
        (insertAfter spec.targetStageId spec.newStage remaining)
    else if posture.isStrict then .error (notFound spec.targetStageId)
    else insertSpecs posture notFound specs (remaining ++ [spec.newStage])

/-- The stages from the target on. An unknown target is ignored, or raises under a
strict posture. -/
def jumpTo (posture : Posture) (notFound : String → String) (target : String)
    (remaining : List String) : Except String (List String) :=
  if target ∈ remaining then .ok (remaining.dropWhile (· ≠ target))
  else if posture.isStrict then .error (notFound target)
  else .ok remaining

/-- The stages that remain after a directive in `run_linear`, or the text of the
`StageDirectiveError`. A posture that does not resolve is swallowed with the hook. -/
def followLinear (stageId : String) (remaining : List String) :
    StageDirective → Except String (List String)
  | .continue => .ok remaining
  | .skip target =>
    .ok (if target = "" then remaining else remaining.filter (· ≠ target))
  | .repeat _ => .ok (stageId :: remaining)
  | .insert specs =>
    match Posture.fromEnv ctx.hiAgentPosture with
    | .error _ => .ok remaining
    | .ok posture =>
      insertSpecs posture (fun target => "insert anchor target_stage_id=" ++
        ctx.repr target ++ " not found in remaining stages") specs remaining
  | .skipTo target =>
    match Posture.fromEnv ctx.hiAgentPosture with
    | .error _ => .ok remaining
    | .ok posture =>
      jumpTo posture (fun target => "skip_to target " ++ ctx.repr target ++
        " not in remaining stages") target remaining

/-- The stages that remain after a directive in `run_resume`, which has no branch
for `skip` and `repeat`. -/
def followResume (remaining : List String) : StageDirective → Except String (List String)
  | .continue => .ok remaining
  | .skip _ => .ok remaining
  | .repeat _ => .ok remaining
  | .insert specs =>
    match Posture.fromEnv ctx.hiAgentPosture with
    | .error _ => .ok remaining
    | .ok posture =>
      insertSpecs posture (fun target => "insert anchor target_stage_id=" ++
        ctx.repr target ++ " not found in resume stages") specs remaining
  | .skipTo target =>
    match Posture.fromEnv ctx.hiAgentPosture with
    | .error _ => .ok remaining
    | .ok posture =>
      jumpTo posture (fun target => "skip_to " ++ ctx.repr target ++
        " not in resume stages") target remaining

/-! ## `run_linear` and `run_resume` -/

/-- The variables of the loop over the remaining stages. -/
structure LinearLoop where
  remaining : List String
  executed : List StageRun
  status : Status

/-- What the hook's answer does to the remaining stages. -/
def consult (follow : StageDirective → Except String (List String))
    (executed : List StageRun) (remaining : List String) : HookAnswer → LinearLoop
  | .other => { remaining, executed, status := .running }
  | .raises (.directive text) =>
    { remaining, executed, status := .raised (.directive text) }
  | .raises _ => { remaining, executed, status := .running }
  | .directive directive =>
    match follow directive with
    | .ok remaining => { remaining, executed, status := .running }
    | .error text => { remaining, executed, status := .raised (.directive text) }

/-- One turn over a stage, with the way to follow a directive. -/
def turnOver (follow : StageDirective → Except String (List String))
    (executed : List StageRun) (stageId : String) (rest : List String)
    (answers : Answers) : LinearLoop :=
  match answers.result with
  | .error raise =>
    { remaining := rest
      executed := executed ++ [⟨stageId, .raised⟩]
      status := .ofRaise raise }
  | .ok .passed => consult follow (executed ++ [⟨stageId, .passed⟩]) rest answers.hook
  | .ok .failed =>
    match answers.handled with
    | .error raise =>
      { remaining := rest
        executed := executed ++ [⟨stageId, .raised⟩]
        status := .ofRaise raise }
    | .ok .failed =>
      { remaining := rest
        executed := executed ++ [⟨stageId, .failed⟩]
        status := .finalized .failed }
    | .ok .passed =>
      consult follow (executed ++ [⟨stageId, .handled⟩]) rest answers.hook

/-- One turn of the loop over the remaining stages. -/
def linearTurn (follow : String → List String → StageDirective →
    Except String (List String)) (loop : LinearLoop) (turn : Turn) : LinearLoop :=
  match loop.status with
  | .running =>
    match loop.remaining with
    | [] => { loop with status := .finalized .completed }
    | stageId :: rest =>
      turnOver (follow stageId rest) loop.executed stageId rest (turn stageId)
  | _ => loop

/-- A turn of `run_linear`. -/
def runLinear : LinearLoop → Turn → LinearLoop := linearTurn ctx.followLinear

/-- A turn of `run_resume`. -/
def runResume : LinearLoop → Turn → LinearLoop :=
  linearTurn fun _ => ctx.followResume

/-- `run_linear` before its first turn. -/
def startLinear : LinearLoop where
  remaining := ctx.stageGraph.traceOrder
  executed := []
  status := .running

/-- The stages `run_resume` takes for completed: by the states of the session, or
without a session by the outcomes of the summaries. -/
def completedStages (session : Option (List (String × String)))
    (stageSummaries : List (String × String)) : List String :=
  match session with
  | some stageStates =>
    (stageStates.filter fun stage => stage.2 = "completed").map Prod.fst
  | none =>
    (stageSummaries.filter fun stage => stage.2 ∈ ["completed", "success"]).map
      Prod.fst

/-- `run_resume` before its first turn. -/
def startResume (completed : List String) : LinearLoop where
  remaining := ctx.stageGraph.traceOrder.filter (· ∉ completed)
  executed := []
  status := .running

end Orchestrator

/-- The variables of a loop over the graph. -/
structure GraphLoop where
  currentStage : Option String
  completedStages : List String
  steps : Nat
  executed : List StageRun
  /-- The loop ended because its steps were used up. -/
  outOfSteps : Bool
  status : Status

namespace Orchestrator

variable (ctx : Orchestrator)

def maxSteps : Nat := ctx.stageGraph.transitions.length * 2

/-- `successors(stage) - completed_stages`. -/
def candidates (stageId : String) (completed : List String) : List String :=
  (ctx.stageGraph.successors stageId).filter (· ∉ completed)

/-- `_select_next_stage`, of a set that is not empty. -/
def selectNextStage (select : List String → Option String) (candidates : List String) :
    Option String :=
  (select candidates).or candidates.head?

def backtrackFrom (stageId : String) (completed : List String) : Option String :=
  (ctx.stageGraph.getBacktrack stageId).filter fun target =>
    target ≠ "" ∧ target ∉ completed

/-- From a completed stage to the next one, or out of the loop. -/
def goOn (select : List String → Option String) (loop : GraphLoop) (stageId : String) : GraphLoop :=
  match ctx.candidates stageId loop.completedStages with
  | [] => { loop with status := .finalized .completed }
  | [next] => { loop with currentStage := some next }
  | candidates => { loop with currentStage := selectNextStage select candidates }

/-- What a directive does in `run_graph`. Inserts are only announced, and there is
no branch for `repeat`. -/
def followGraph (select : List String → Option String) (loop : GraphLoop)
    (stageId : String) : StageDirective → GraphLoop
  | .skipTo target =>
    match Posture.fromEnv ctx.hiAgentPosture with
    | .error _ => ctx.goOn select loop stageId
    | .ok posture =>
      if target ∈ ctx.stageGraph.stages then
        { loop with currentStage := some target }
      else if posture.isStrict then
        { loop with
          status := .raised (.directive
            ("skip_to " ++ ctx.repr target ++ " not in graph nodes")) }
      else ctx.goOn select loop stageId
  | .skip _ =>
    match ctx.candidates stageId loop.completedStages with
    | [] => ctx.goOn select loop stageId
    | [next] =>
      ctx.goOn select
        { loop with completedStages := loop.completedStages ++ [next] } stageId
    | candidates =>
      ctx.goOn select
        { loop with
          completedStages := loop.completedStages ++
            (selectNextStage select candidates).toList } stageId
  | _ => ctx.goOn select loop stageId

/-- The end of a turn of `run_graph`, after the stage completed. -/
def consultGraph (answers : Answers) (loop : GraphLoop) (stageId : String) : GraphLoop :=
  match answers.hook with
  | .directive directive => ctx.followGraph answers.select loop stageId directive
  | .raises (.directive text) => { loop with status := .raised (.directive text) }
  | _ => ctx.goOn answers.select loop stageId

/-- An execution of a stage and what is done about a failure: the loop afterwards, and
whether the stage completed. -/
def executeIn (ofRaise : Raise → Status) (answers : Answers) (loop : GraphLoop)
    (stageId : String) : GraphLoop × Bool :=
  let ran (fate : Fate) : GraphLoop :=
    { loop with
      steps := loop.steps + 1
      executed := loop.executed ++ [⟨stageId, fate⟩] }
  let finish (fate : Fate) : GraphLoop :=
    { ran fate with completedStages := loop.completedStages ++ [stageId] }
  match answers.result with
  | .error raise => ({ ran .raised with status := ofRaise raise }, false)
  | .ok .passed => (finish .passed, true)
  | .ok .failed =>
    match ctx.backtrackFrom stageId loop.completedStages with
    | some target =>
      ({ ran (.backtracked target) with currentStage := some target }, false)
    | none =>
      match answers.handled with
      | .error raise => ({ ran .raised with status := ofRaise raise }, false)
      | .ok .failed => ({ ran .failed with status := .finalized .failed }, false)
      | .ok .passed => (finish .handled, true)

/-- A turn of `run_graph`. -/
def runGraph (loop : GraphLoop) (turn : Turn) : GraphLoop :=
  match loop.status with
  | .running =>
    match loop.currentStage with
    | none => { loop with status := .finalized .completed }
    | some stageId =>
      if loop.steps < ctx.maxSteps then
        match ctx.executeIn .ofRaise (turn stageId) loop stageId with
        | (after, false) => after
        | (after, true) => ctx.consultGraph (turn stageId) after stageId
      else { loop with outOfSteps := true, status := .finalized .completed }
  | _ => loop

/-- `run_graph` before its first turn. -/
def startGraph : GraphLoop where
  currentStage := ctx.stageGraph.startStage
  completedStages := []
  steps := 0
  executed := []
  outOfSteps := false
  status := .running

/-! ## `continue_from_gate_graph` -/

def gateStatus : Raise → Status
  | .gatePending gateId => .raised (.gatePending gateId)
  | _ => .finalized .failed

/-- `_select_next_stage(candidates) if candidates else None`. -/
def selectAny (select : List String → Option String) : List String → Option String
  | [] => none
  | candidates => selectNextStage select candidates

/-- A turn of the loop of `continue_from_gate_graph`. -/
def continueGraph (loop : GraphLoop) (turn : Turn) : GraphLoop :=
  match loop.status with
  | .running =>
    match loop.currentStage with
    | none => { loop with status := .finalized .completed }
    | some stageId =>
      if loop.steps < ctx.maxSteps then
        if stageId ∈ loop.completedStages then
          { loop with
            steps := loop.steps + 1
            currentStage := selectAny (turn stageId).select
              (ctx.candidates stageId loop.completedStages) }
        else
          match ctx.executeIn gateStatus (turn stageId) loop stageId with
          | (after, false) => after
          | (after, true) => ctx.goOn (turn stageId).select after stageId
      else { loop with outOfSteps := true, status := .finalized .completed }
  | _ => loop

/-- The stage `continue_from_gate_graph` begins with, given the stage it starts from. -/
def firstStage (select : List String → Option String) (startStage : Option String)
    (completed : List String) : Option String :=
  match startStage with
  | none => none
  | some stageId =>
    if stageId ∈ completed then selectAny select (ctx.candidates stageId completed)
    else some stageId

/-- `continue_from_gate_graph` before its first turn. The stage it starts from is the
last one or else the current one, where they are not empty. -/
def startContinue (decision : String) (lastStage currentStage : Option String)
    (completed : List String) (select : List String → Option String) : GraphLoop where
  currentStage := ctx.firstStage select
    ((lastStage.filter (· ≠ "")).or (currentStage.filter (· ≠ ""))) completed
  completedStages := completed
  steps := 0
  executed := []
  outOfSteps := false
  status := if decision = "backtrack" then .finalized .failed else .running

open List

/-! ## Where the interpreters agree -/

/-- Every specification finds its anchor, among the stages known so far or those the
earlier specifications brought in. -/
def Anchored : List String → List InsertSpec → Prop
  | _, [] => True
  | known, spec :: specs =>
    spec.targetStageId ∈ known ∧ Anchored (spec.newStage :: known) specs

/-- The directive means the same to both loops. -/
def Common (ctx : Orchestrator) (rest : List String) : StageDirective → Prop
  | .continue => True
  | .skip target => target = "" ∨ target ∉ rest
  | .repeat _ => False
  | .insert specs =>
    ∀ posture ∈ (Posture.fromEnv ctx.hiAgentPosture).toOption,
      posture.isStrict = true → Anchored rest specs
  | .skipTo target =>
    ∀ posture ∈ (Posture.fromEnv ctx.hiAgentPosture).toOption,
      posture.isStrict = true → target ∈ rest

instance decidableAnchored : ∀ known specs, Decidable (Anchored known specs)
  | _, [] => isTrue trivial
  | known, spec :: specs =>
    have := decidableAnchored (spec.newStage :: known) specs
    inferInstanceAs (Decidable (_ ∧ _))

instance decidableCommon (ctx : Orchestrator) (rest : List String) :
    ∀ directive, Decidable (Common ctx rest directive)
  | .continue => isTrue trivial
  | .skip _ => inferInstanceAs (Decidable (_ ∨ _))
  | .repeat _ => isFalse id
  | .insert _ => inferInstanceAs (Decidable (∀ _ ∈ Except.toOption _, _))
  | .skipTo _ => inferInstanceAs (Decidable (∀ _ ∈ Except.toOption _, _))

theorem mem_insertAfter_iff {anchor new stageId : String} {stages : List String}
    (h : anchor ∈ stages) :
    stageId ∈ insertAfter anchor new stages ↔ stageId = new ∨ stageId ∈ stages := by
  induction stages with
  | nil => cases h
  | cons other rest ih =>
    rw [insertAfter]
    split
    · rw [mem_cons, mem_cons, mem_cons]
      exact or_left_comm
    · rename_i hother
      have hrest := (mem_cons.mp h).resolve_left (Ne.symm hother)
      rw [mem_cons, ih hrest, mem_cons]
      exact or_left_comm

theorem anchored_congr {known others : List String}
    (h : ∀ stageId, stageId ∈ known ↔ stageId ∈ others) (specs : List InsertSpec) :
    Anchored known specs ↔ Anchored others specs := by
  induction specs generalizing known others with
  | nil => exact Iff.rfl
  | cons spec specs ih =>
    refine and_congr (h _) (ih fun stageId => ?_)
    rw [mem_cons, mem_cons, h]

theorem insertSpecs_eq_iff {posture : Posture} {text other : String → String}
    (htext : ∀ target, text target ≠ other target) (specs : List InsertSpec)
    (remaining : List String) :
    insertSpecs posture text specs remaining = insertSpecs posture other specs remaining ↔
      (posture.isStrict = true → Anchored remaining specs) := by
  induction specs generalizing remaining with
  | nil => exact iff_of_true rfl fun _ => trivial
  | cons spec specs ih =>
    rw [insertSpecs, insertSpecs, Anchored]
    by_cases hanchor : spec.targetStageId ∈ remaining
    · have hknown : ∀ stageId, stageId ∈ insertAfter spec.targetStageId spec.newStage remaining ↔
            stageId ∈ spec.newStage :: remaining := fun stageId => by
        rw [mem_insertAfter_iff hanchor, mem_cons]
      rw [if_pos hanchor, if_pos hanchor, ih, anchored_congr hknown]
      simp only [hanchor, true_and]
    · rw [if_neg hanchor, if_neg hanchor]
      by_cases hstrict : posture.isStrict = true
      · rw [if_pos hstrict, if_pos hstrict]
        refine iff_of_false (fun h => ?_) fun h => hanchor (h hstrict).1
        exact htext _ (Except.error.inj h)
      · rw [if_neg hstrict, if_neg hstrict]
        refine iff_of_true ((ih _).mpr fun h => absurd h hstrict) fun h =>
          absurd h hstrict

theorem jumpTo_eq_iff {posture : Posture} {text other : String → String}
    (htext : ∀ target, text target ≠ other target) (target : String) (remaining : List String) :
    jumpTo posture text target remaining = jumpTo posture other target remaining ↔
      (posture.isStrict = true → target ∈ remaining) := by
  unfold jumpTo
  by_cases hmem : target ∈ remaining
  · rw [if_pos hmem, if_pos hmem]
    exact iff_of_true rfl fun _ => hmem
  · rw [if_neg hmem, if_neg hmem]
    by_cases hstrict : posture.isStrict = true
    · rw [if_pos hstrict, if_pos hstrict]
      exact iff_of_false (fun h => htext _ (Except.error.inj h)) fun h => hmem (h hstrict)
    · rw [if_neg hstrict, if_neg hstrict]
      exact iff_of_true rfl fun h => absurd h hstrict

variable {rest : List String}

theorem filter_ne_eq_self_iff {target : String} :
    rest.filter (· ≠ target) = rest ↔ target ∉ rest := by
  rw [filter_eq_self]
  constructor
  · intro h hmem
    exact of_decide_eq_true (h target hmem) rfl
  · intro h stageId hmem
    exact decide_eq_true fun heq => h (heq ▸ hmem)

variable {ctx : Orchestrator}

theorem follow_eq_iff {stageId : String} (directive : StageDirective) :
    ctx.followLinear stageId rest directive = ctx.followResume rest directive ↔
      Common ctx rest directive := by
  cases directive with
  | «continue» => exact iff_of_true rfl trivial
  | skip target =>
    unfold followLinear followResume Common
    rw [Except.ok.injEq]
    by_cases htarget : target = ""
    · simp [htarget]
    · rw [if_neg htarget, filter_ne_eq_self_iff]
      simp [htarget]
  | «repeat» target =>
    unfold followLinear followResume Common
    rw [Except.ok.injEq]
    exact iff_false_intro (cons_ne_self stageId rest)
  | insert specs =>
    unfold followLinear followResume Common
    cases hposture : Posture.fromEnv ctx.hiAgentPosture with
    | error text => simp [Except.toOption]
    | ok posture =>
      simp only [Except.toOption, Option.mem_def, Option.some.injEq, forall_eq']
      refine insertSpecs_eq_iff (fun target h => ?_) specs rest
      have hend := (String.append_right_inj _).mp h
      exact absurd hend (by decide)
  | skipTo target =>
    unfold followLinear followResume Common
    cases hposture : Posture.fromEnv ctx.hiAgentPosture with
    | error text => simp [Except.toOption]
    | ok posture =>
      simp only [Except.toOption, Option.mem_def, Option.some.injEq, forall_eq']
      refine jumpTo_eq_iff (fun target h => ?_) target rest
      have hlength := congrArg String.length h
      simp only [String.length_append] at hlength
      have hstart : "skip_to target ".length = "skip_to ".length + 7 := by decide
      have hend : " not in remaining stages".length =
          " not in resume stages".length + 3 := by decide
      omega

/-! ## Two loops in step -/

def AsksHook (answers : Answers) : Prop :=
  answers.result = .ok .passed ∨ (answers.result = .ok .failed ∧ answers.handled = .ok .passed)

instance : DecidablePred AsksHook := fun _ => inferInstanceAs (Decidable (_ ∨ _))

def given : HookAnswer → Option StageDirective
  | .directive directive => some directive
  | _ => none

def Agreed (ctx : Orchestrator) (loop : LinearLoop) (turn : Turn) : Prop :=
  loop.status = .running → ∀ stageId ∈ loop.remaining.head?,
    AsksHook (turn stageId) → ∀ directive ∈ given (turn stageId).hook,
      Common ctx loop.remaining.tail directive

instance decidableAgreed (ctx : Orchestrator) (loop : LinearLoop) (turn : Turn) :
    Decidable (Agreed ctx loop turn) :=
  inferInstanceAs (Decidable (loop.status = .running →
    ∀ stageId ∈ loop.remaining.head?, AsksHook (turn stageId) →
      ∀ directive ∈ given (turn stageId).hook, Common ctx loop.remaining.tail directive))

/-- The resumed loop stands where the other one does: the same stages executed since
the interruption, the same stages to come and the same end. -/
structure SamePlan (before : List StageRun) (pair : LinearLoop × LinearLoop) : Prop where
  executed : pair.1.executed = before ++ pair.2.executed
  remaining : pair.2.remaining = pair.1.remaining
  status : pair.2.status = pair.1.status

def bothTurns (ctx : Orchestrator) : LinearLoop × LinearLoop → Turn → LinearLoop × LinearLoop :=
  lockstep ctx.runLinear ctx.runResume

section Turns

variable {ctx : Orchestrator} {before executed : List StageRun}
variable {follow other : StageDirective → Except String (List String)}

theorem samePlan_consult_iff (rest : List String) (answer : HookAnswer) :
    SamePlan before (consult follow (before ++ executed) rest answer,
        consult other executed rest answer) ↔
      ∀ directive ∈ given answer, follow directive = other directive := by
  cases answer with
  | other => exact iff_of_true ⟨rfl, rfl, rfl⟩ nofun
  | raises raise =>
    cases raise with
    | _ => exact iff_of_true ⟨rfl, rfl, rfl⟩ nofun
  | directive directive =>
    simp only [given, Option.mem_def, Option.some.injEq, forall_eq', consult]
    cases follow directive with
    | ok stages =>
      cases other directive with
      | ok others =>
        constructor
        · intro h
          have hleft : others = stages := h.remaining
          rw [hleft]
        · intro h
          cases h
          exact ⟨rfl, rfl, rfl⟩
      | error text =>
        exact iff_of_false (fun h => nomatch h.status) nofun
    | error text =>
      cases other directive with
      | ok others => exact iff_of_false (fun h => nomatch h.status) nofun
      | error otherText =>
        constructor
        · intro h
          have hstatus : Status.raised (.directive otherText) =
              .raised (.directive text) := h.status
          cases hstatus
          rfl
        · intro h
          cases h
          exact ⟨rfl, rfl, rfl⟩

theorem samePlan_turnOver_iff (stageId : String) (rest : List String) (answers : Answers) :
    SamePlan before (turnOver follow (before ++ executed) stageId rest answers,
        turnOver other executed stageId rest answers) ↔
      (AsksHook answers → ∀ directive ∈ given answers.hook,
        follow directive = other directive) := by
  unfold turnOver AsksHook
  cases hresult : answers.result with
  | error raise =>
    exact iff_of_true ⟨append_assoc _ _ _, rfl, rfl⟩ fun h => by simp at h
  | ok result =>
    cases result with
    | passed =>
      simp only [append_assoc, samePlan_consult_iff, true_or, true_implies]
    | failed =>
      cases hhandled : answers.handled with
      | error raise =>
        exact iff_of_true ⟨append_assoc _ _ _, rfl, rfl⟩ fun h => by simp at h
      | ok handled =>
        cases handled with
        | failed =>
          exact iff_of_true ⟨append_assoc _ _ _, rfl, rfl⟩
            fun h => by simp at h
        | passed =>
          simp only [append_assoc, samePlan_consult_iff, and_self, or_true, true_implies]

theorem samePlan_bothTurns_iff {pair : LinearLoop × LinearLoop}
    (h : SamePlan before pair) (turn : Turn) :
    SamePlan before (bothTurns ctx pair turn) ↔ Agreed ctx pair.1 turn := by
  obtain ⟨⟨remaining, executed, status⟩, resumed⟩ := pair
  obtain ⟨hran, hleft, hstatus⟩ := h
  obtain ⟨resumedRemaining, resumedExecuted, resumedStatus⟩ := resumed
  dsimp only at hran hleft hstatus
  subst hran hleft hstatus
  unfold bothTurns lockstep runLinear runResume linearTurn Agreed
  cases resumedStatus with
  | running =>
    cases resumedRemaining with
    | nil => exact iff_of_true ⟨rfl, rfl, rfl⟩ fun _ => nofun
    | cons stageId rest =>
      dsimp only
      rw [samePlan_turnOver_iff]
      simp only [head?_cons, Option.mem_def, Option.some.injEq, forall_eq',
        tail_cons, true_implies, follow_eq_iff]
  | _ => exact iff_of_true ⟨rfl, rfl, rfl⟩ nofun

end Turns

/-! ## The interruption -/

/-- The hook answers `continue`, or nothing. -/
def Quiet (turn : Turn) : Prop :=
  ∀ stageId, ∀ directive ∈ given (turn stageId).hook, directive = .continue

def stagesOf (executed : List StageRun) : List String := executed.map StageRun.stageId

theorem quiet_consult {follow : StageDirective → Except String (List String)}
    {executed : List StageRun} {answer : HookAnswer}
    (hquiet : ∀ directive ∈ given answer, directive = .continue)
    (hcontinue : follow .continue = .ok rest)
    (hrunning : (consult follow executed rest answer).status = .running) :
    consult follow executed rest answer = ⟨rest, executed, .running⟩ := by
  cases answer with
  | other => rfl
  | raises raise =>
    cases raise with
    | directive text => cases hrunning
    | gatePending gateId => rfl
    | other text => rfl
  | directive directive =>
    obtain rfl := hquiet directive rfl
    unfold consult
    dsimp only
    rw [hcontinue]

theorem quiet_runLinear {loop : LinearLoop} {turn : Turn}
    (hquiet : Quiet turn) (hrunning : (ctx.runLinear loop turn).status = .running) :
    loop.status = .running ∧
      stagesOf (ctx.runLinear loop turn).executed ++ (ctx.runLinear loop turn).remaining =
        stagesOf loop.executed ++ loop.remaining := by
  obtain ⟨remaining, executed, status⟩ := loop
  cases status with
  | running =>
    refine ⟨rfl, ?_⟩
    cases remaining with
    | nil => cases hrunning
    | cons stageId rest =>
      have hhook := hquiet stageId
      have hstop : ∀ raise, Status.ofRaise raise ≠ .running := by
        intro raise
        cases raise <;> nofun
      unfold runLinear linearTurn turnOver at hrunning ⊢
      dsimp only at hrunning ⊢
      cases hresult : (turn stageId).result with
      | error raise =>
        rw [hresult] at hrunning
        exact absurd hrunning (hstop raise)
      | ok result =>
        rw [hresult] at hrunning
        cases result with
        | passed =>
          dsimp only at hrunning ⊢
          rw [quiet_consult hhook rfl hrunning]
          simp [stagesOf]
        | failed =>
          dsimp only at hrunning ⊢
          cases hhandled : (turn stageId).handled with
          | error raise =>
            rw [hhandled] at hrunning
            exact absurd hrunning (hstop raise)
          | ok handled =>
            rw [hhandled] at hrunning
            cases handled with
            | failed => cases hrunning
            | passed =>
              dsimp only at hrunning ⊢
              rw [quiet_consult hhook rfl hrunning]
              simp [stagesOf]
  | _ => cases hrunning

theorem quiet_exec {turns : List Turn} {loop : LinearLoop} (hquiet : ∀ turn ∈ turns, Quiet turn)
    (hrunning : (exec ctx.runLinear loop turns).status = .running) : loop.status = .running ∧
      stagesOf (exec ctx.runLinear loop turns).executed ++
          (exec ctx.runLinear loop turns).remaining = stagesOf loop.executed ++ loop.remaining := by
  induction turns generalizing loop with
  | nil => exact ⟨hrunning, rfl⟩
  | cons turn rest ih =>
    obtain ⟨hstep, hrest⟩ := ih
      (fun other hother => hquiet other (mem_cons_of_mem turn hother)) hrunning
    obtain ⟨hloop, hturn⟩ := quiet_runLinear (hquiet turn mem_cons_self) hstep
    exact ⟨hloop, hrest.trans hturn⟩

theorem filter_not_mem_eq {done rest completed : List String} (hnodup : (done ++ rest).Nodup)
    (h : ∀ stageId ∈ done ++ rest, stageId ∈ completed ↔ stageId ∈ done) :
    (done ++ rest).filter (· ∉ completed) = rest := by
  have hdisjoint := disjoint_of_nodup_append hnodup
  have hdone : done.filter (· ∉ completed) = [] := by
    rw [filter_eq_nil_iff]
    intro stageId hmem hnot
    exact of_decide_eq_true hnot ((h stageId (mem_append_left _ hmem)).mpr hmem)
  have hrest : rest.filter (· ∉ completed) = rest := by
    rw [filter_eq_self]
    intro stageId hmem
    refine decide_eq_true fun hcompleted => ?_
    exact hdisjoint ((h stageId (mem_append_right _ hmem)).mp hcompleted) hmem
  rw [filter_append, hdone, hrest, nil_append]

/-- A run interrupted after some quiet turns and resumed with the stages executed so
far recorded as completed keeps to the plan exactly as long as the hook's answers
mean the same to both loops. -/
theorem resume_samePlan_iff (ctx : Orchestrator) (first second : List Turn)
    (stageStates stageSummaries : List (String × String)) (hquiet : ∀ turn ∈ first, Quiet turn)
    (hcut : (exec ctx.runLinear ctx.startLinear first).status = .running)
    (hnoted : ∀ stageId ∈ ctx.stageGraph.traceOrder,
      stageId ∈ completedStages (some stageStates) stageSummaries ↔
        stageId ∈ stagesOf (exec ctx.runLinear ctx.startLinear first).executed) :
    Always (bothTurns ctx) (SamePlan (exec ctx.runLinear ctx.startLinear first).executed)
        (exec ctx.runLinear ctx.startLinear first,
          ctx.startResume (completedStages (some stageStates) stageSummaries)) second ↔
      Along ctx.runLinear (Agreed ctx) (exec ctx.runLinear ctx.startLinear first) second := by
  have hplan : _ = ctx.stageGraph.traceOrder := (quiet_exec hquiet hcut).2
  generalize exec ctx.runLinear ctx.startLinear first = cut at hcut hnoted hplan ⊢
  have hstart : SamePlan cut.executed
      (cut, ctx.startResume (completedStages (some stageStates) stageSummaries)) := by
    refine ⟨(append_nil _).symm, ?_, hcut.symm⟩
    unfold startResume
    dsimp only
    rw [← hplan]
    refine filter_not_mem_eq (hplan ▸ StageGraph.nodup_traceOrder) fun stageId hmem => ?_
    exact hnoted stageId (hplan ▸ hmem)
  rw [← along_lockstep_fst ctx.runLinear ctx.runResume (Agreed ctx)
    (cut, ctx.startResume (completedStages (some stageStates) stageSummaries))]
  exact always_iff_along (Q := SamePlan cut.executed)
    (fun _ turn hsame hagreed => (samePlan_bothTurns_iff hsame turn).mpr hagreed)
    (fun _ hsame => hsame)
    (fun _ turn hsame hnext => (samePlan_bothTurns_iff hsame turn).mp hnext)
    hstart second

def threeStages : Orchestrator where
  stageGraph := ⟨[("S1", ["S2"]), ("S2", ["S3"]), ("S3", [])], []⟩
  hiAgentPosture := some "dev"
  repr := fun text => "'" ++ text ++ "'"

/-- Every stage passes, and the hook answers alike about each. -/
def passing (hook : HookAnswer) : Turn := fun _ =>
  { result := .ok .passed
    handled := .ok .failed
    hook
    select := fun _ => none }

theorem resume_samePlan_insert : Always (bothTurns threeStages) (SamePlan [⟨"S1", .passed⟩])
      (exec threeStages.runLinear threeStages.startLinear [passing .other],
        threeStages.startResume ["S1"])
      [passing (.directive (.insert [⟨"S3", "S4"⟩])), passing .other] :=
  (resume_samePlan_iff threeStages [passing .other]
    [passing (.directive (.insert [⟨"S3", "S4"⟩])), passing .other]
    [("S1", "completed"), ("S2", "active")] [] (by
      rintro turn hturn stageId directive horder
      rw [mem_singleton.mp hturn] at horder
      cases horder) (by decide) (by decide)).mpr (by decide)

/-- A hook that skips `S3` while `S2` runs keeps it from a run that goes on, and not
from one that is resumed behind `S1`. -/
theorem not_resume_skip : ¬ ∀ (ctx : Orchestrator) (first second : List Turn)
      (stageStates stageSummaries : List (String × String)), (∀ turn ∈ first, Quiet turn) →
      (exec ctx.runLinear ctx.startLinear first).status = .running →
      (∀ stageId ∈ ctx.stageGraph.traceOrder,
        stageId ∈ completedStages (some stageStates) stageSummaries ↔
          stageId ∈ stagesOf (exec ctx.runLinear ctx.startLinear first).executed) →
      (exec ctx.runLinear (exec ctx.runLinear ctx.startLinear first) second).executed =
        (exec ctx.runLinear ctx.startLinear first).executed ++ (exec ctx.runResume (ctx.startResume
            (completedStages (some stageStates) stageSummaries)) second).executed := by
  intro h
  have hsame := h threeStages [passing .other]
    [passing (.directive (.skip "S3")), passing .other]
    [("S1", "completed")] [] (by
      rintro turn hturn stageId directive horder
      rw [mem_singleton.mp hturn] at horder
      cases horder) (by decide) (by decide)
  exact absurd hsame (by decide)

end Orchestrator

end HiAgent.Execution
