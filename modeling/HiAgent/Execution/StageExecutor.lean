/-
  Execution/StageExecutor.lean --- the actions of a stage and its verdict.

  `hi_agent/runner_stage.py`: `StageExecutor.execute_stage`.
  `hi_agent/trajectory/dead_end.py`: `detect_dead_end`.
  `hi_agent/runner_lifecycle.py`: `check_budget_exceeded`.
-/
import HiAgent.Foundation.Dict
import HiAgent.Foundation.Machine

namespace HiAgent.Execution.RunnerStage

open Foundation

inductive NodeState where
  | open | expanded | pruned | succeeded | failed
  deriving DecidableEq

inductive BranchState where
  | proposed | active | waiting | pruned | succeeded | failed
  deriving DecidableEq

/-- What a node's id is made of. -/
structure NodeId where
  stageId : String
  branchId : String
  actionSeq : Nat
  deriving DecidableEq

structure TrajectoryNode where
  nodeId : NodeId
  stageId : String
  branchId : String
  description : String
  state : NodeState := .open

structure BranchProposal where
  branchId : String
  rationale : String
  actionKind : String

/-- What an action comes to. -/
inductive Course where
  /-- `_execute_action_with_retry` answers False. -/
  | denied
  /-- The action succeeds, and the policy does not accept it. -/
  | rejected
  | accepted
  /-- `_execute_action_with_retry` raises. -/
  | dispatchRaises (error : String)
  /-- The action succeeds, and its acceptance or the record of its task view raises. -/
  | acceptanceRaises (error : String)
  deriving DecidableEq

namespace Course

/-- The state in which the node is left. -/
def nodeState : Course → NodeState
  | .denied => .failed
  | .rejected => .failed
  | .accepted => .succeeded
  | .dispatchRaises _ => .open
  | .acceptanceRaises _ => .succeeded

/-- The state in which the branch is left: an exception comes before its mark. -/
def branchState : Course → BranchState
  | .denied => .failed
  | .rejected => .failed
  | .accepted => .succeeded
  | .dispatchRaises _ => .active
  | .acceptanceRaises _ => .active

/-- The exception that goes through `execute_stage`. -/
def error : Course → Option String
  | .dispatchRaises error => some error
  | .acceptanceRaises error => some error
  | _ => none

end Course

/-- A proposal, and what its action comes to. -/
structure Action where
  proposal : BranchProposal
  course : Course

/-- A branch in the kernel. -/
structure Branch where
  stageId : String
  branchId : String
  state : BranchState

/-- The limits of the task budget, where there is one, and of the exploration budget. -/
structure Limits where
  maxActions : Option Int
  maxActiveBranchesPerStage : Int
  maxTotalBranchesPerRun : Int

/-- What an executor carries from one stage to the next, and the branches of the kernel. -/
structure StageExecutor where
  dag : Dict NodeId TrajectoryNode
  actionSeq : Nat
  stageActiveBranches : Dict String Nat
  totalBranchesOpened : Nat
  branches : List Branch

inductive FailureCode where
  | executionBudgetExhausted
  | explorationBudgetExhausted

def detectDeadEnd (stageId : String) (dag : Dict NodeId TrajectoryNode) : Bool :=
  let stageNodes := (dag.rows.map Prod.snd).filter fun node => node.stageId == stageId
  if stageNodes.isEmpty then false
  else
    let allTerminal := stageNodes.all fun node =>
      node.state == .pruned || node.state == .failed || node.state == .succeeded
    let anySucceeded := stageNodes.any fun node => node.state == .succeeded
    allTerminal && !anySucceeded

namespace StageExecutor

variable (limits : Limits) (stageId : String) (executor : StageExecutor)

def new : StageExecutor := ⟨.empty, 0, .empty, 0, []⟩

def checkBudgetExceeded : Option FailureCode :=
  if limits.maxActions.any fun maxActions => decide ((executor.actionSeq : Int) ≥ maxActions) then
    some .executionBudgetExhausted
  else if (executor.stageActiveBranches.getD stageId 0 : Int) ≥
      limits.maxActiveBranchesPerStage then
    some .explorationBudgetExhausted
  else if (executor.totalBranchesOpened : Int) ≥ limits.maxTotalBranchesPerRun then
    some .explorationBudgetExhausted
  else none

/-- The node of an action. -/
def node (action : Action) : TrajectoryNode where
  nodeId := ⟨stageId, action.proposal.branchId, executor.actionSeq⟩
  stageId := stageId
  branchId := action.proposal.branchId
  description := action.proposal.rationale
  state := action.course.nodeState

/-- An action that the limits let through: its branch is opened, its node made, and both are
left as the action ends; `finally` counts the action. -/
def act (action : Action) : StageExecutor where
  dag := executor.dag.set (executor.node stageId action).nodeId (executor.node stageId action)
  actionSeq := executor.actionSeq + 1
  stageActiveBranches :=
    executor.stageActiveBranches.set stageId (executor.stageActiveBranches.getD stageId 0 + 1)
  totalBranchesOpened := executor.totalBranchesOpened + 1
  branches := executor.branches ++ [⟨stageId, action.proposal.branchId, action.course.branchState⟩]

end StageExecutor

/-- What ends the loop over the proposals early. -/
inductive Stop where
  | budget (code : FailureCode)
  | raised (error : String)

/-- The loop over the proposals: the executor, whether an action was accepted in this call,
and what has ended the loop. -/
structure Proposing where
  executor : StageExecutor
  accepted : Bool
  stop : Option Stop

namespace Proposing

variable (limits : Limits) (stageId : String)

def start (executor : StageExecutor) : Proposing := ⟨executor, false, none⟩

/-- One proposal. -/
def step (loop : Proposing) (action : Action) : Proposing :=
  match loop.stop with
  | some _ => loop
  | none =>
    match loop.executor.checkBudgetExceeded limits stageId with
    | some code => { loop with stop := some (.budget code) }
    | none => {
        executor := loop.executor.act stageId action
        accepted := loop.accepted || decide (action.course = .accepted)
        stop := action.course.error.map .raised }

end Proposing

/-- A call of `execute_stage`: whether the budget guard skips the stage, what the route engine
proposes, and whether the evaluation asks for a retry or an escalation on a low score. -/
structure StageCall where
  stageId : String
  skipped : Bool
  actions : List Action
  evaluationFails : Bool

def StageCall.proposed (call : StageCall) : List Action :=
  if call.skipped = true then [] else call.actions

/-- How `execute_stage` ends. -/
inductive StageResult where
  | returned (result : Option String)
  | raised (error : String)
  deriving DecidableEq

namespace StageExecutor

variable (limits : Limits) (executor : StageExecutor) (call : StageCall)

def proposing : Proposing :=
  exec (Proposing.step limits call.stageId) (Proposing.start executor) call.actions

def executeStage : StageExecutor × StageResult :=
  if call.skipped = true then (executor, .returned none)
  else
    let loop := executor.proposing limits call
    match loop.stop with
    | some (.raised error) => (loop.executor, .raised error)
    | _ =>
      if call.evaluationFails = true then (loop.executor, .returned (some "failed"))
      else if detectDeadEnd call.stageId loop.executor.dag = true then
        (loop.executor, .returned (some "failed"))
      else (loop.executor, .returned none)

def after : StageExecutor := (executor.executeStage limits call).1

/-! ## The two laws -/

/-- A call for which something is proposed and in which no action is both successful and
accepted returns `"failed"`, if it returns. -/
def Completes : Prop :=
  call.proposed ≠ [] → (executor.proposing limits call).accepted = false →
    ∀ result, (executor.executeStage limits call).2 = .returned result → result = some "failed"

def unmarked (stageId : String) : Nat :=
  executor.branches.countP fun branch =>
    decide (branch.stageId = stageId ∧ branch.state = .active)

def Counts : Prop :=
  ∀ stageId, executor.stageActiveBranches.getD stageId 0 = executor.unmarked stageId

/-- Whenever the count is compared in a call, and after the last proposal, it is that number. -/
def CountsThroughout : Prop :=
  Always (Proposing.step limits call.stageId) (fun loop => loop.executor.Counts)
    (Proposing.start executor) call.proposed

end StageExecutor

open List

/-! ## The conditions -/

namespace StageExecutor

/-- How many more actions of a stage the limits let through. -/
def room (limits : Limits) (stageId : String) (executor : StageExecutor) : Nat :=
  let branches := min
    (limits.maxActiveBranchesPerStage - executor.stageActiveBranches.getD stageId 0).toNat
    (limits.maxTotalBranchesPerRun - executor.totalBranchesOpened).toNat
  match limits.maxActions with
  | none => branches
  | some maxActions => min branches (maxActions - executor.actionSeq).toNat

/-- The proposals of a call that the limits let through, when none of their actions raises. -/
def letThrough (limits : Limits) (executor : StageExecutor) (call : StageCall) : List Action :=
  call.proposed.take (executor.room limits call.stageId)

def stageNodes (executor : StageExecutor) (stageId : String) : List TrajectoryNode :=
  (executor.dag.rows.map Prod.snd).filter fun node => node.stageId == stageId

def Failed (executor : StageExecutor) (stageId : String) : Prop :=
  ∀ node ∈ executor.stageNodes stageId, node.state = .pruned ∨ node.state = .failed

/-- What the verdict on a call needs: nothing is proposed, the evaluation fails the stage, an
action that is let through raises or is accepted, or no earlier execution of the stage has left
a node that is not pruned or failed, and there is a node at all. -/
def Concludes (limits : Limits) (executor : StageExecutor) (call : StageCall) : Prop :=
  call.proposed = [] ∨ call.evaluationFails = true ∨
    (∃ action ∈ executor.letThrough limits call, action.course.error.isSome = true) ∨
    (∃ action ∈ executor.letThrough limits call, action.course = .accepted) ∨
    (executor.Failed call.stageId ∧
      (executor.stageNodes call.stageId ≠ [] ∨ executor.letThrough limits call ≠ []))

/-- What the count needs of a call: the first action that is let through, if any, raises before
its branch is marked. -/
def Unmarked (limits : Limits) (executor : StageExecutor) (call : StageCall) : Prop :=
  ∀ action ∈ (executor.letThrough limits call).head?, action.course.error.isSome = true

end StageExecutor

/-! ## The limits -/

section Room

variable {limits : Limits} {stageId : String} {executor : StageExecutor}

theorem checkBudgetExceeded_eq_none_iff :
    executor.checkBudgetExceeded limits stageId = none ↔ 0 < executor.room limits stageId := by
  rw [StageExecutor.checkBudgetExceeded, StageExecutor.room]
  cases hactions : limits.maxActions with
  | none =>
    simp only [Option.any_none, Bool.false_eq_true, if_false]
    split
    · simp; omega
    · split
      · simp; omega
      · simp; omega
  | some maxActions =>
    simp only [Option.any_some, decide_eq_true_eq]
    split
    · simp; omega
    · split
      · simp; omega
      · split
        · simp; omega
        · simp; omega

theorem room_act (action : Action) :
    (executor.act stageId action).room limits stageId = executor.room limits stageId - 1 := by
  have hactive : (executor.act stageId action).stageActiveBranches.getD stageId 0 =
      executor.stageActiveBranches.getD stageId 0 + 1 := by
    simp [StageExecutor.act]
  rw [StageExecutor.room, StageExecutor.room, hactive]
  cases limits.maxActions with
  | _ => simp only [StageExecutor.act]; omega

end Room

/-! ## The loop -/

namespace Proposing

variable {limits : Limits} {stageId : String} {executor : StageExecutor} {accepted : Bool}
  {action : Action} {actions : List Action}

theorem step_of_stop {loop : Proposing} (h : loop.stop.isSome = true) (action : Action) :
    loop.step limits stageId action = loop := by
  obtain ⟨stop, hstop⟩ := Option.isSome_iff_exists.mp h
  rw [step, hstop]

theorem exec_of_stop {loop : Proposing} (h : loop.stop.isSome = true) (actions : List Action) :
    exec (step limits stageId) loop actions = loop := by
  induction actions with
  | nil => rfl
  | cons action rest ih => rw [exec_cons, step_of_stop h, ih]

theorem step_of_room (h : 0 < executor.room limits stageId) :
    step limits stageId ⟨executor, accepted, none⟩ action =
      ⟨executor.act stageId action, accepted || decide (action.course = .accepted),
        action.course.error.map .raised⟩ := by
  rw [step]
  simp only [checkBudgetExceeded_eq_none_iff.mpr h]

theorem step_of_no_room (accepted : Bool) (action : Action) (h : executor.room limits stageId = 0) :
    ∃ code, step limits stageId ⟨executor, accepted, none⟩ action =
      ⟨executor, accepted, some (.budget code)⟩ := by
  have hsome : executor.checkBudgetExceeded limits stageId ≠ none := by
    rw [Ne, checkBudgetExceeded_eq_none_iff]
    omega
  obtain ⟨code, hcode⟩ := Option.ne_none_iff_exists'.mp hsome
  refine ⟨code, ?_⟩
  rw [step]
  simp only [hcode]

def acts (stageId : String) (executor : StageExecutor) (actions : List Action) : StageExecutor :=
  actions.foldl (fun executor action => executor.act stageId action) executor

theorem exec_of_returns (accepted : Bool)
    (h : ∀ action ∈ actions.take (executor.room limits stageId), action.course.error = none) :
    ∃ stop, exec (step limits stageId) ⟨executor, accepted, none⟩ actions =
        ⟨acts stageId executor (actions.take (executor.room limits stageId)),
          accepted || (actions.take (executor.room limits stageId)).any
            (fun action => decide (action.course = .accepted)), stop⟩ ∧
      ∀ error, stop ≠ some (.raised error) := by
  induction actions generalizing executor accepted with
  | nil => exact ⟨none, by simp [acts], fun error h => nomatch h⟩
  | cons action rest ih =>
    obtain hroom | hroom := Nat.eq_zero_or_pos (executor.room limits stageId)
    · obtain ⟨code, hcode⟩ := step_of_no_room accepted action hroom
      refine ⟨some (.budget code), ?_, fun error h => by cases h⟩
      rw [exec_cons, hcode, exec_of_stop rfl, hroom]
      simp [acts]
    · obtain ⟨room, hsucc⟩ := Nat.exists_eq_succ_of_ne_zero (Nat.pos_iff_ne_zero.mp hroom)
      have hrest : (executor.act stageId action).room limits stageId = room := by
        rw [room_act, hsucc, Nat.succ_sub_one]
      rw [hsucc, take_succ_cons] at h ⊢
      obtain ⟨stop, hexec, hstop⟩ := @ih (executor.act stageId action)
        (accepted || decide (action.course = .accepted))
        (by rw [hrest]; exact fun other hother => h other (mem_cons_of_mem _ hother))
      refine ⟨stop, ?_, hstop⟩
      rw [exec_cons, step_of_room hroom, h action mem_cons_self]
      refine hexec.trans ?_
      rw [hrest, any_cons, Bool.or_assoc]
      rfl

theorem exec_of_raises (accepted : Bool)
    (h : ∃ action ∈ actions.take (executor.room limits stageId),
      action.course.error.isSome = true) :
    ∃ error, (exec (step limits stageId) ⟨executor, accepted, none⟩ actions).stop =
      some (.raised error) := by
  induction actions generalizing executor accepted with
  | nil => simp at h
  | cons action rest ih =>
    obtain hroom | hroom := Nat.eq_zero_or_pos (executor.room limits stageId)
    · rw [hroom] at h
      simp at h
    · obtain ⟨room, hsucc⟩ := Nat.exists_eq_succ_of_ne_zero (Nat.pos_iff_ne_zero.mp hroom)
      have hrest : (executor.act stageId action).room limits stageId = room := by
        rw [room_act, hsucc, Nat.succ_sub_one]
      rw [exec_cons, step_of_room hroom]
      cases herror : action.course.error with
      | some error =>
        refine ⟨error, ?_⟩
        rw [Option.map_some, exec_of_stop rfl]
      | none =>
        refine ih _ ?_
        rw [hrest]
        rw [hsucc, take_succ_cons] at h
        obtain ⟨other, hmem, hother⟩ := h
        obtain rfl | hmem := mem_cons.mp hmem
        · rw [herror] at hother
          cases hother
        · exact ⟨other, hmem, hother⟩

end Proposing

/-! ## The nodes -/

namespace StageExecutor

variable {limits : Limits} {stageId : String} {executor : StageExecutor} {call : StageCall}
  {action : Action} {actions : List Action}

def Numbered (executor : StageExecutor) : Prop :=
  ∀ nodeId, (executor.dag.get? nodeId).isSome = true → nodeId.actionSeq < executor.actionSeq

theorem Numbered.act (h : executor.Numbered) (stageId : String) (action : Action) :
    (executor.act stageId action).Numbered := by
  intro nodeId hsome
  simp only [StageExecutor.act, Dict.get?_set] at hsome ⊢
  split at hsome
  · rename_i heq
    rw [heq]
    exact Nat.lt_succ_self _
  · exact Nat.lt_succ_of_lt (h nodeId hsome)

theorem Numbered.stageNodes_act (h : executor.Numbered) (stageId : String) (action : Action) :
    (executor.act stageId action).stageNodes stageId =
      executor.stageNodes stageId ++ [executor.node stageId action] := by
  have hfresh : executor.dag.get? (executor.node stageId action).nodeId = none := by
    rw [Option.eq_none_iff_forall_ne_some]
    intro node hnode
    have hlt := h (executor.node stageId action).nodeId (by rw [hnode]; rfl)
    exact Nat.lt_irrefl _ hlt
  rw [stageNodes, StageExecutor.act, Dict.rows_set_of_none hfresh, map_append, filter_append]
  simp [stageNodes, node]

theorem Numbered.failed_acts (h : executor.Numbered) (stageId : String)
    (hfail : ∀ action ∈ actions, action.course.nodeState = .failed) :
    ((Proposing.acts stageId executor actions).Failed stageId ↔ executor.Failed stageId) ∧
      ((Proposing.acts stageId executor actions).stageNodes stageId ≠ [] ↔
        executor.stageNodes stageId ≠ [] ∨ actions ≠ []) := by
  induction actions generalizing executor with
  | nil => simp [Proposing.acts]
  | cons action rest ih =>
    obtain ⟨hfailed, hnodes⟩ := ih (h.act stageId action)
      fun other hother => hfail other (mem_cons_of_mem _ hother)
    have hstate : (executor.node stageId action).state = .failed :=
      hfail action mem_cons_self
    have hact := h.stageNodes_act stageId action
    constructor
    · refine hfailed.trans ?_
      rw [Failed, hact, forall_mem_append, Failed]
      simp [hstate]
    · refine hnodes.trans ?_
      rw [hact]
      simp

theorem detectDeadEnd_iff : detectDeadEnd stageId executor.dag = true ↔
      executor.stageNodes stageId ≠ [] ∧ executor.Failed stageId := by
  rw [detectDeadEnd, Failed, stageNodes]
  generalize (executor.dag.rows.map Prod.snd).filter (fun node => node.stageId == stageId) = nodes
  cases nodes with
  | nil => simp
  | cons node rest =>
    simp only [isEmpty_cons, Bool.false_eq_true, if_false, Bool.and_eq_true,
      all_eq_true, Bool.not_eq_true', any_eq_false, Bool.or_eq_true, beq_iff_eq, ne_eq,
      reduceCtorEq, not_false_eq_true, true_and]
    constructor
    · rintro ⟨hover, hgood⟩ other hother
      exact (hover other hother).resolve_right (hgood other hother)
    · intro hfailed
      refine ⟨fun other hother => .inl (hfailed other hother), fun other hother hgood => ?_⟩
      obtain hpruned | hstate := hfailed other hother
      · exact NodeState.noConfusion (hpruned.symm.trans hgood)
      · exact NodeState.noConfusion (hstate.symm.trans hgood)

/-! ## The verdict -/

theorem letThrough_of_proposed (h : call.skipped = false) :
    executor.letThrough limits call = call.actions.take (executor.room limits call.stageId) := by
  rw [letThrough, StageCall.proposed, h, if_neg Bool.false_ne_true]

theorem result_of_loop (hskipped : call.skipped = false)
    (hstop : ∀ error, (executor.proposing limits call).stop ≠ some (.raised error)) :
    (executor.executeStage limits call).2 = .returned (if call.evaluationFails = true ∨
          detectDeadEnd call.stageId (executor.proposing limits call).executor.dag = true
        then some "failed" else none) := by
  have hverdict : (executor.executeStage limits call).2 =
      if call.evaluationFails = true then .returned (some "failed")
      else if detectDeadEnd call.stageId (executor.proposing limits call).executor.dag = true then
        .returned (some "failed")
      else .returned none := by
    rw [executeStage, hskipped, if_neg Bool.false_ne_true]
    cases hend : (executor.proposing limits call).stop with
    | none => simp only [hend, apply_ite Prod.snd]
    | some stop =>
      cases stop with
      | budget code => simp only [hend, apply_ite Prod.snd]
      | raised error => exact (hstop error hend).elim
  rw [hverdict]
  cases call.evaluationFails <;> cases detectDeadEnd call.stageId _ <;> rfl

theorem completes_iff (h : executor.Numbered) :
    executor.Completes limits call ↔ executor.Concludes limits call := by
  by_cases hnone : call.proposed = []
  · exact iff_of_true (fun hsome => (hsome hnone).elim) (.inl hnone)
  have hskipped : call.skipped = false := by
    cases hskip : call.skipped with
    | false => rfl
    | true => exact (hnone (by rw [StageCall.proposed, if_pos hskip])).elim
  have hthrough : executor.letThrough limits call =
      call.actions.take (executor.room limits call.stageId) := letThrough_of_proposed hskipped
  by_cases hraises : ∃ action ∈ executor.letThrough limits call, action.course.error.isSome = true
  · refine iff_of_true (fun _ _ result hresult => ?_) (.inr (.inr (.inl hraises)))
    rw [hthrough] at hraises
    obtain ⟨error, hstop⟩ := Proposing.exec_of_raises false hraises
    rw [executeStage, hskipped, if_neg Bool.false_ne_true] at hresult
    simp only [proposing, Proposing.start, hstop] at hresult
    cases hresult
  have hreturns : ∀ action ∈ executor.letThrough limits call, action.course.error = none :=
    fun action hmem => Option.not_isSome_iff_eq_none.mp fun hsome => hraises ⟨action, hmem, hsome⟩
  rw [hthrough] at hreturns
  obtain ⟨stop, hexec, hstop⟩ := Proposing.exec_of_returns false hreturns
  have hloop : executor.proposing limits call = _ := hexec
  rw [← hthrough] at hloop hreturns
  by_cases htook : ∃ action ∈ executor.letThrough limits call, action.course = .accepted
  · refine iff_of_true (fun _ hnot => ?_) (.inr (.inr (.inr (.inl htook))))
    rw [hloop] at hnot
    simp only [Bool.false_or, any_eq_false, decide_eq_true_eq] at hnot
    obtain ⟨action, hmem, hcourse⟩ := htook
    exact (hnot action hmem hcourse).elim
  have hfail : ∀ action ∈ executor.letThrough limits call, action.course.nodeState = .failed := by
    intro action hmem
    have herror := hreturns action hmem
    have hcourse : action.course ≠ .accepted := fun heq => htook ⟨action, hmem, heq⟩
    cases hcase : action.course with
    | denied => rfl
    | rejected => rfl
    | accepted => exact (hcourse hcase).elim
    | _ => rw [hcase] at herror; cases herror
  obtain ⟨hfailed, hnodes⟩ := h.failed_acts call.stageId hfail
  have hnot : (executor.proposing limits call).accepted = false := by
    rw [hloop]
    simpa using fun action hmem hcourse => htook ⟨action, hmem, hcourse⟩
  have hends : ∀ error, (executor.proposing limits call).stop ≠ some (.raised error) := by
    rw [hloop]
    exact hstop
  have hresult := result_of_loop hskipped hends
  have hdead : detectDeadEnd call.stageId (executor.proposing limits call).executor.dag = true ↔
      executor.Failed call.stageId ∧
        (executor.stageNodes call.stageId ≠ [] ∨ executor.letThrough limits call ≠ []) := by
    rw [hloop, detectDeadEnd_iff, hfailed, hnodes, and_comm]
  have hconcludes : executor.Concludes limits call ↔ call.evaluationFails = true ∨
      detectDeadEnd call.stageId (executor.proposing limits call).executor.dag = true := by
    rw [hdead, Concludes, or_iff_right hnone]
    refine or_congr_right ?_
    rw [or_iff_right hraises, or_iff_right htook]
  rw [hconcludes]
  constructor
  · intro hcompletes
    have hsome := hcompletes hnone hnot _ hresult
    split at hsome
    · assumption
    · cases hsome
  · intro hfails _ _ result hback
    rw [hresult, if_pos hfails] at hback
    exact (StageResult.returned.inj hback).symm

/-! ## The count -/

theorem Counts.act_iff (h : executor.Counts) :
    (executor.act stageId action).Counts ↔ action.course.error.isSome = true := by
  have hactive : action.course.branchState = .active ↔ action.course.error.isSome = true := by
    cases action.course <;> simp [Course.branchState, Course.error]
  have hunmarked : ∀ other, (executor.act stageId action).unmarked other = executor.unmarked other +
        if stageId = other ∧ action.course.branchState = .active then 1 else 0 := by
    intro other
    simp [unmarked, StageExecutor.act, countP_append, countP_singleton]
  have hcount : ∀ other, (executor.act stageId action).stageActiveBranches.getD other 0 =
      executor.stageActiveBranches.getD other 0 + if stageId = other then 1 else 0 := by
    intro other
    simp only [StageExecutor.act, Dict.getD_set, eq_comm (a := other)]
    split
    · rename_i heq
      rw [heq]
    · rfl
  rw [← hactive]
  constructor
  · intro hcounts
    have hsame := hcounts stageId
    rw [hcount, hunmarked, h stageId] at hsame
    by_contra hmarked
    simp [hmarked] at hsame
  · intro hmarked other
    rw [hcount, hunmarked, h other]
    simp [hmarked]

theorem always_of_stop {P : Proposing → Prop} {loop : Proposing} (h : loop.stop.isSome = true)
    (hloop : P loop) (actions : List Action) :
    Always (Proposing.step limits stageId) P loop actions := by
  induction actions with
  | nil => exact hloop
  | cons action rest ih =>
    refine ⟨hloop, ?_⟩
    rw [Proposing.step_of_stop h]
    exact ih

theorem Counts.always_iff (h : executor.Counts) (actions : List Action) :
    Always (Proposing.step limits stageId) (fun loop => loop.executor.Counts)
        (Proposing.start executor) actions ↔
      ∀ action ∈ (actions.take (executor.room limits stageId)).head?,
        action.course.error.isSome = true := by
  cases actions with
  | nil => simpa [Proposing.start] using h
  | cons action rest =>
    rw [always_cons]
    obtain hroom | hroom := Nat.eq_zero_or_pos (executor.room limits stageId)
    · obtain ⟨code, hcode⟩ := Proposing.step_of_no_room false action hroom
      rw [Proposing.start, hcode, hroom]
      exact iff_of_true ⟨h, always_of_stop rfl h rest⟩ (by simp)
    · obtain ⟨room, hsucc⟩ :=
        Nat.exists_eq_succ_of_ne_zero (Nat.pos_iff_ne_zero.mp hroom)
      rw [Proposing.start, Proposing.step_of_room hroom, hsucc, take_succ_cons]
      simp only [head?_cons, Option.mem_some_iff, forall_eq']
      constructor
      · rintro ⟨-, hrest⟩
        exact h.act_iff.mp hrest.first
      · intro hraises
        refine ⟨h, always_of_stop ?_ (h.act_iff.mpr hraises) rest⟩
        rw [Option.isSome_map]
        exact hraises

/-! ## Histories -/

theorem after_eq : executor.after limits call =
    (exec (Proposing.step limits call.stageId)
    (Proposing.start executor) call.proposed).executor := by
  rw [after, executeStage, StageCall.proposed]
  cases call.skipped with
  | true => rfl
  | false =>
    simp only [Bool.false_eq_true, if_false]
    split
    · rfl
    · split
      · rfl
      · split
        · rfl
        · rfl

theorem Numbered.after (h : executor.Numbered) : (executor.after limits call).Numbered := by
  rw [after_eq]
  have hstep : ∀ (loop : Proposing) (action : Action), loop.executor.Numbered → True →
      (loop.step limits call.stageId action).executor.Numbered := by
    intro loop action hloop _
    rw [Proposing.step]
    split
    · exact hloop
    · split
      · exact hloop
      · exact hloop.act call.stageId action
  exact exec_invariant hstep h (along_of_forall fun _ _ _ => trivial)

theorem numbered_new : new.Numbered := by
  intro nodeId hsome
  cases hsome

theorem counts_new : new.Counts :=
  fun _ => rfl

/-- In every history of calls: the verdicts are right exactly when every call has what its
verdict needs, and the count of the branches is right exactly when no branch is ever marked. -/
theorem histories_iff (limits : Limits) (history : List StageCall) :
    (Along (after limits) (fun executor call => executor.Completes limits call) new history ↔
      Along (after limits) (fun executor call => executor.Concludes limits call) new history) ∧
    (Along (after limits) (fun executor call => executor.CountsThroughout limits call) new history ↔
      Along (after limits) (fun executor call => executor.Unmarked limits call) new history) := by
  constructor
  · have hkeeps : ∀ (executor : StageExecutor) (call : StageCall), executor.Numbered →
        executor.Concludes limits call → (executor.after limits call).Numbered :=
      fun _ _ h _ => h.after
    exact along_iff_along hkeeps (fun _ _ h => completes_iff h) numbered_new history
  · refine along_iff_along (fun executor call h hunmarked => ?_) (fun executor call h => ?_)
      counts_new history
    · rw [after_eq]
      exact ((h.always_iff call.proposed).mpr hunmarked).last
    · exact h.always_iff call.proposed

def defaultLimits : Limits := ⟨some 50, 3, 20⟩

/-- A stage that completes, and is executed once more: this time its only action is denied. -/
def repeated : List StageCall :=
  [⟨"build", false, [⟨⟨"b1", "", "act"⟩, .accepted⟩], false⟩,
    ⟨"build", false, [⟨⟨"b2", "", "act"⟩, .denied⟩], false⟩]

/-- The second execution returns as if it had completed the stage, on the node of the first;
and the count is two although no branch is open. -/
theorem not_completes_repeated :
    ¬ (Along (after defaultLimits) (fun executor call => executor.Completes defaultLimits call)
        new repeated ∧
      Along (after defaultLimits) (fun executor call =>
        executor.CountsThroughout defaultLimits call)
        new repeated) := by
  rintro ⟨⟨-, hsecond, -⟩, -⟩
  have hresult := hsecond (cons_ne_nil _ _) (by decide) none (by decide)
  cases hresult

end StageExecutor

end HiAgent.Execution.RunnerStage
