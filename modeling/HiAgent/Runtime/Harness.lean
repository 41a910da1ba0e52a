/-
  Runtime/Harness.lean --- `GovernanceEngine` and `HarnessExecutor`.

  An action passes the permission gate, then the governance engine, and is then handed to the
  capability invoker, as often as its retry policy says. What the invoker and the collection of
  the evidence do at each attempt is an input of the call.
-/
import HiAgent.Runtime.PermissionRules

namespace HiAgent.Runtime

open Foundation

/-! ## Contracts -/

inductive EffectClass where
  | readOnly
  | idempotentWrite
  | compensatableWrite
  | irreversibleWrite
  | dangerous
  deriving DecidableEq

inductive SideEffectClass where
  | readOnly
  | localWrite
  | externalWrite
  | irreversibleSubmit
  deriving DecidableEq

/-- The value of a side effect class. -/
def SideEffectClass.value : SideEffectClass → String
  | .readOnly => "read_only"
  | .localWrite => "local_write"
  | .externalWrite => "external_write"
  | .irreversibleSubmit => "irreversible_submit"

def SideEffectClass.isExternal (c : SideEffectClass) : Bool :=
  c == .externalWrite || c == .irreversibleSubmit

/-- `ActionState`, of the states an execution leaves. -/
inductive ActionState where
  | approvalPending
  | succeeded
  | failed

/-- `ActionSpec`; the run identifier is the one in its metadata. -/
structure ActionSpec where
  actionId : String
  actionType : String
  capabilityName : String
  payload : PyDict
  effectClass : EffectClass
  sideEffectClass : SideEffectClass
  approvalRequired : Bool
  idempotencyKey : String
  maxRetries : Int
  runId : String
  submitterId : String

structure ActionResult where
  actionId : String
  state : ActionState
  output : PyValue
  evidenceRef : Option String
  errorCode : Option String
  errorMessage : Option String
  attempt : Int
  artifactIds : List String

/-- The result of an action that is stopped before it is dispatched, or failed. -/
def ActionResult.stopped (actionId : String) (state : ActionState) (code message : String)
    (attempt : Int) : ActionResult :=
  ⟨actionId, state, .none, none, some code, some message, attempt, []⟩

/-! ## Governance -/

structure RetryPolicy where
  maxRetries : Int
  retryable : Bool

/-- `GovernanceEngine`: the action types with a compensation handler, the queue, the
approved set, the rejected actions with their reasons. -/
structure GovernanceEngine where
  compensationHandlers : List String
  approvalQueue : List ActionSpec
  approved : List String
  rejected : Dict String String

namespace GovernanceEngine

variable (text : PyText) (governance : GovernanceEngine) (spec : ActionSpec)

def new (compensationHandlers : List String) : GovernanceEngine :=
  ⟨compensationHandlers, [], [], .empty⟩

def validate : List String :=
  (if spec.effectClass = .irreversibleWrite ∧ !spec.approvalRequired then
    ["IRREVERSIBLE_WRITE effect_class requires approval_required=True"] else []) ++
  (if spec.sideEffectClass = .irreversibleSubmit ∧ !spec.approvalRequired then
    ["IRREVERSIBLE_SUBMIT side_effect_class requires approval_required=True"] else []) ++
  (if spec.sideEffectClass.isExternal ∧ spec.idempotencyKey = "" then
    [s!"{spec.sideEffectClass.value} requires a non-empty idempotency_key"] else []) ++
  (if spec.effectClass = .compensatableWrite ∧
      spec.actionType ∉ governance.compensationHandlers then
    ["COMPENSATABLE_WRITE requires a registered compensation " ++
      s!"handler for action_type {text.repr spec.actionType}"] else [])

/-- `can_execute`: the reason the action may not proceed, if there is one. -/
def canExecute : Option String :=
  let violations := governance.validate text spec
  if violations ≠ [] then some (String.intercalate "; " violations)
  else if spec.approvalRequired ∧ spec.actionId ∉ governance.approved then
    match governance.rejected.get? spec.actionId with
    | some reason => some s!"Action was rejected: {reason}"
    | none => some "Action requires approval but has not been approved"
  else none

def requestApproval : GovernanceEngine :=
  { governance with approvalQueue := governance.approvalQueue ++ [spec] }

def dequeued (actionId : String) : List ActionSpec :=
  governance.approvalQueue.filter fun spec => spec.actionId != actionId

/-- The submitter that `approve` compares the approver with. -/
def queuedSubmitter (actionId : String) : String :=
  match governance.approvalQueue.find? fun spec => spec.actionId == actionId with
  | some spec => spec.submitterId
  | none => ""

/-- `approve`; it raises where approver and submitter are given and the same. -/
def approve (actionId approverId : String) : Except String GovernanceEngine :=
  let submitterId := governance.queuedSubmitter actionId
  if submitterId ≠ "" ∧ approverId ≠ "" ∧ submitterId = approverId then
    .error "submitter and approver must be different principals"
  else
    .ok { governance with
      approved := governance.approved.insert actionId
      approvalQueue := governance.dequeued actionId }

def reject (actionId reason : String) : GovernanceEngine :=
  { governance with
    rejected := governance.rejected.set actionId reason
    approvalQueue := governance.dequeued actionId }

def getRetryPolicy : RetryPolicy :=
  if spec.effectClass = .irreversibleWrite ∨ spec.sideEffectClass = .irreversibleSubmit then
    ⟨0, false⟩
  else if spec.effectClass = .compensatableWrite then ⟨min spec.maxRetries 2, true⟩
  else ⟨spec.maxRetries, decide (0 < spec.maxRetries)⟩

end GovernanceEngine

/-! ## The executor -/

structure HarnessExecutor where
  governance : GovernanceEngine
  hasInvoker : Bool
  permissionGate : Option PermissionGate
  actionStates : Dict String ActionState
  actionResults : Dict String ActionResult

/-- What an attempt meets: the answer of the invoker or the text of what it raises, then
the evidence and the artifacts of the output. -/
structure Attempt where
  invoked : Except String PyValue
  collected : Except String (String × List String)

/-- What an execution meets. -/
structure Circumstances where
  now : String
  hex : String
  attempts : Nat → Attempt

/-- A call of the invoker. -/
structure Invocation where
  capabilityName : String
  payload : PyDict

/-- What the attempts come to: the calls made, and the result of the one that succeeded
or the last error. -/
structure Dispatched where
  invocations : List Invocation
  outcome : Except (Option String) (Nat × PyValue × String × List String)

/-- What an execution leaves. -/
structure Execution where
  executor : HarnessExecutor
  spec : ActionSpec
  result : ActionResult
  invocations : List Invocation

namespace HarnessExecutor

variable (text : PyText) (executor : HarnessExecutor) (spec : ActionSpec)

/-- The gate after its check, and the code and the message of an action it stops. -/
def checkGate (now : String) : Option PermissionGate × Option (String × String) :=
  match executor.permissionGate with
  | none => (none, none)
  | some gate =>
    match gate.check text spec.runId spec.capabilityName now spec.payload with
    | .error error =>
      (some gate, some ("permission_gate_error", s!"Permission gate internal error: {error}"))
    | .ok (gate, decision) =>
      if decision.permissionDecision.action = .deny then
        (some gate, some ("permission_denied", decision.permissionDecision.reason))
      else (some gate, none)

def withKey (hex : String) : ActionSpec :=
  if spec.idempotencyKey = "" ∧ spec.sideEffectClass.isExternal then
    { spec with idempotencyKey := s!"idem-{spec.actionId}-{hex}" }
  else spec

def maxAttempts (policy : RetryPolicy) : Int :=
  if policy.retryable then policy.maxRetries + 1 else 1

/-- `_dispatch` and `_collect_evidence`, attempt after attempt. -/
def dispatch (hasInvoker : Bool) (attempts : Nat → Attempt) : Nat → Nat → Option String → Dispatched
  | 0, _, lastError => ⟨[], .error lastError⟩
  | left + 1, attempt, _ =>
    if hasInvoker then
      let again (error : String) : Dispatched :=
        let rest := dispatch hasInvoker attempts left (attempt + 1) (some error)
        { rest with
          invocations := ⟨spec.capabilityName, spec.payload⟩ :: rest.invocations }
      match (attempts attempt).invoked, (attempts attempt).collected with
      | .error error, _ => again error
      | .ok _, .error error => again error
      | .ok output, .ok (evidenceRef, artifactIds) =>
        ⟨[⟨spec.capabilityName, spec.payload⟩], .ok (attempt, output, evidenceRef, artifactIds)⟩
    else
      dispatch hasInvoker attempts left (attempt + 1) (some "No capability invoker configured")

/-- The result of the attempts. -/
def resultOf (attempts : Int) (dispatched : Dispatched) : ActionResult :=
  match dispatched.outcome with
  | .ok (attempt, output, evidenceRef, artifactIds) =>
    ⟨spec.actionId, .succeeded, output, some evidenceRef, none, none, attempt, artifactIds⟩
  | .error lastError =>
    .stopped spec.actionId .failed "harness_execution_failed"
      (lastError.getD "Unknown error") attempts

def record (result : ActionResult) : HarnessExecutor :=
  { executor with
    actionStates := executor.actionStates.set result.actionId result.state
    actionResults := executor.actionResults.set result.actionId result }

def execute (circumstances : Circumstances) : Execution :=
  let checked := executor.checkGate text spec circumstances.now
  let executor := { executor with permissionGate := checked.1 }
  match checked.2 with
  | some (code, message) =>
    let result := ActionResult.stopped spec.actionId .failed code message 1
    ⟨executor.record result, spec, result, []⟩
  | none =>
    match executor.governance.canExecute text spec with
    | some reason =>
      if spec.approvalRequired ∧ "not been approved".toList <:+: reason.toList then
        let result :=
          ActionResult.stopped spec.actionId .approvalPending "approval_pending" reason 1
        let executor :=
          { executor with governance := executor.governance.requestApproval spec }
        ⟨executor.record result, spec, result, []⟩
      else
        let result :=
          ActionResult.stopped spec.actionId .failed "governance_violation" reason 1
        ⟨executor.record result, spec, result, []⟩
    | none =>
      let spec := withKey spec circumstances.hex
      let attempts := maxAttempts (GovernanceEngine.getRetryPolicy spec)
      let dispatched :=
        dispatch spec executor.hasInvoker circumstances.attempts attempts.toNat 1 none
      let result := resultOf spec attempts dispatched
      ⟨executor.record result, spec, result, dispatched.invocations⟩

end HarnessExecutor

open List

/-! ## One execution -/

namespace GovernanceEngine

variable {text : PyText} {governance : GovernanceEngine} {spec : ActionSpec}

theorem canExecute_eq_none_iff : governance.canExecute text spec = none ↔
      governance.validate text spec = [] ∧
        (spec.approvalRequired = true → spec.actionId ∈ governance.approved) := by
  rw [canExecute]
  split
  · rename_i hwrong
    exact iff_of_false (Option.some_ne_none _) fun h => hwrong h.1
  · rename_i hwrong
    rw [ne_eq, not_not] at hwrong
    split
    · rename_i hmissing
      refine iff_of_false ?_ fun h => hmissing.2 (h.2 hmissing.1)
      split
      · exact Option.some_ne_none _
      · exact Option.some_ne_none _
    · rename_i hpass
      rw [not_and, not_not] at hpass
      exact iff_of_true rfl ⟨hwrong, hpass⟩

theorem withKey_of_canExecute (h : governance.canExecute text spec = none) (hex : String) :
    HarnessExecutor.withKey spec hex = spec := by
  have hvalid := (canExecute_eq_none_iff.mp h).1
  rw [validate, append_eq_nil_iff, append_eq_nil_iff] at hvalid
  rw [HarnessExecutor.withKey, if_neg]
  rintro ⟨hkey, hexternal⟩
  have hnokey := hvalid.1.2
  rw [if_pos ⟨hexternal, hkey⟩] at hnokey
  exact absurd hnokey (cons_ne_nil _ _)

theorem approve_eq_ok {actionId approverId : String} {next : GovernanceEngine}
    (h : governance.approve actionId approverId = .ok next) :
    ¬ (governance.queuedSubmitter actionId ≠ "" ∧ approverId ≠ "" ∧
        governance.queuedSubmitter actionId = approverId) ∧
      next.approved = governance.approved.insert actionId := by
  rw [approve] at h
  split at h
  · cases h
  · rename_i hother
    exact ⟨hother, by rw [← Except.ok.inj h]⟩

end GovernanceEngine

namespace HarnessExecutor

variable {text : PyText} {executor : HarnessExecutor} {spec : ActionSpec}

/-- What the executor has checked of an action it dispatches. -/
structure Passes (text : PyText) (executor : HarnessExecutor) (spec : ActionSpec) (now : String) :
    Prop where
  gate : ∀ gate ∈ executor.permissionGate, ∃ next decision,
    gate.check text spec.runId spec.capabilityName now spec.payload = .ok (next, decision) ∧
      decision.permissionDecision.action ≠ .deny
  governance : executor.governance.canExecute text spec = none

theorem checkGate_eq_none {now : String} (h : (executor.checkGate text spec now).2 = none) :
    ∀ gate ∈ executor.permissionGate, ∃ next decision,
      gate.check text spec.runId spec.capabilityName now spec.payload = .ok (next, decision) ∧
        decision.permissionDecision.action ≠ .deny := by
  intro gate hgate
  rw [checkGate, Option.mem_def.mp hgate] at h
  dsimp only at h
  split at h
  · cases h
  · rename_i next decision hcheck
    split at h
    · cases h
    · rename_i hother
      exact ⟨next, decision, hcheck, hother⟩

theorem rules_checkGate (now : String) :
    (executor.checkGate text spec now).1.map PermissionGate.rules =
      executor.permissionGate.map PermissionGate.rules := by
  rw [checkGate]
  cases executor.permissionGate with
  | none => rfl
  | some gate =>
    dsimp only
    rw [PermissionGate.check]
    cases evaluate text spec.capabilityName spec.payload gate.rules with
    | error error => rfl
    | ok decision =>
      rw [Except.map]
      dsimp only
      split
      · exact congrArg some (gate.rules_settle _ _ _ _)
      · exact congrArg some (gate.rules_settle _ _ _ _)

theorem passes_of_invocations {circumstances : Circumstances}
    (h : (executor.execute text spec circumstances).invocations ≠ []) :
    Passes text executor spec circumstances.now := by
  rw [execute] at h
  dsimp only at h
  split at h
  · exact absurd rfl h
  · rename_i hgate
    split at h
    · split at h <;> exact absurd rfl h
    · rename_i hgov
      exact ⟨checkGate_eq_none hgate, hgov⟩

theorem approved_execute (circumstances : Circumstances) :
    (executor.execute text spec circumstances).executor.governance.approved =
      executor.governance.approved := by
  rw [execute]
  dsimp only
  split
  · rfl
  · split
    · split <;> rfl
    · rfl

theorem rules_execute (circumstances : Circumstances) :
    (executor.execute text spec circumstances).executor.permissionGate.map PermissionGate.rules =
      executor.permissionGate.map PermissionGate.rules := by
  have hgate : (executor.execute text spec circumstances).executor.permissionGate =
      (executor.checkGate text spec circumstances.now).1 := by
    rw [execute]
    dsimp only
    split
    · rfl
    · split
      · split <;> rfl
      · rfl
  rw [hgate]
  exact rules_checkGate circumstances.now

theorem length_dispatch_le (hasInvoker : Bool) (attempts : Nat → Attempt) (left attempt : Nat)
    (lastError : Option String) :
    (dispatch spec hasInvoker attempts left attempt lastError).invocations.length ≤ left := by
  induction left generalizing attempt lastError with
  | zero => exact Nat.le_refl 0
  | succ left ih =>
    rw [dispatch]
    split
    · dsimp only
      split
      · exact Nat.succ_le_succ (ih _ _)
      · exact Nat.succ_le_succ (ih _ _)
      · exact Nat.succ_le_succ (Nat.zero_le left)
    · exact (ih _ _).trans (Nat.le_succ left)

theorem length_invocations_le_one (circumstances : Circumstances)
    (h : spec.effectClass = .irreversibleWrite ∨ spec.sideEffectClass = .irreversibleSubmit) :
    (executor.execute text spec circumstances).invocations.length ≤ 1 := by
  rw [execute]
  dsimp only
  split
  · exact Nat.zero_le 1
  · split
    · split <;> exact Nat.zero_le 1
    · rename_i hgov
      dsimp only
      rw [GovernanceEngine.withKey_of_canExecute hgov, GovernanceEngine.getRetryPolicy,
        if_pos h]
      exact length_dispatch_le _ _ 1 1 none

end HarnessExecutor

/-! ## Histories of calls -/

/-- A decision about an action. -/
inductive Verdict where
  | approved (approver : String)
  | rejected

/-- An executor and the decisions recorded so far, the latest first. -/
structure HarnessDesk where
  executor : HarnessExecutor
  verdicts : List (String × Verdict)

/-- A call. -/
inductive HarnessEvent where
  | execute (spec : ActionSpec) (circumstances : Circumstances)
  | approve (actionId approverId : String)
  | reject (actionId reason : String)
  | requestApproval (spec : ActionSpec)

namespace HarnessDesk

variable (text : PyText) (submitterOf : String → String) (desk : HarnessDesk)

def start (compensationHandlers : List String) (hasInvoker : Bool) (gate : Option PermissionGate) :
    HarnessDesk :=
  ⟨⟨.new compensationHandlers, hasInvoker, gate, .empty, .empty⟩, []⟩

def govern (governance : GovernanceEngine) : HarnessDesk :=
  { desk with executor := { desk.executor with governance := governance } }

/-- One call. -/
def step (desk : HarnessDesk) : HarnessEvent → HarnessDesk
  | .execute spec circumstances =>
    { desk with executor := (desk.executor.execute text spec circumstances).executor }
  | .approve actionId approverId =>
    match desk.executor.governance.approve actionId approverId with
    | .error _ => desk
    | .ok governance =>
      { desk.govern governance with
        verdicts := (actionId, .approved approverId) :: desk.verdicts }
  | .reject actionId reason =>
    { desk.govern (desk.executor.governance.reject actionId reason) with
      verdicts := (actionId, .rejected) :: desk.verdicts }
  | .requestApproval spec => desk.govern (desk.executor.governance.requestApproval spec)

/-- An action that reaches the invoker is allowed by the gate in that call, violates no
rule, and, where it has to be approved, was last approved by another than its submitter. -/
def Gated : HarnessEvent → Prop
  | .execute spec circumstances =>
    (desk.executor.execute text spec circumstances).invocations ≠ [] →
      (∀ gate ∈ desk.executor.permissionGate, ∃ next decision,
        gate.check text spec.runId spec.capabilityName circumstances.now spec.payload =
            .ok (next, decision) ∧
          decision.permissionDecision.action = .allow) ∧
      desk.executor.governance.validate text spec = [] ∧
      (spec.approvalRequired = true → ∃ approver,
        desk.verdicts.lookup spec.actionId = some (.approved approver) ∧
          approver ≠ spec.submitterId)
  | _ => True

/-- What governance lets through, no rule wants asked about, and the specifications of an
action have one submitter. Nobody approves an action under its submitter's name, except
where the engine refuses it: the action is queued for that submitter, who has a name.
No approved action is rejected. -/
def Meets : HarnessEvent → Prop
  | .execute spec _ =>
    spec.submitterId = submitterOf spec.actionId ∧
      (desk.executor.governance.canExecute text spec = none →
        ∀ gate ∈ desk.executor.permissionGate, ∀ decision,
          evaluate text spec.capabilityName spec.payload gate.rules = .ok decision →
            decision.action ≠ .ask)
  | .approve actionId approverId =>
    approverId = submitterOf actionId →
      approverId ≠ "" ∧ desk.executor.governance.queuedSubmitter actionId = approverId
  | .reject actionId _ => actionId ∉ desk.executor.governance.approved
  | .requestApproval _ => True

theorem rules_step (desk : HarnessDesk) (event : HarnessEvent) :
    (desk.step text event).executor.permissionGate.map PermissionGate.rules =
      desk.executor.permissionGate.map PermissionGate.rules := by
  cases event with
  | execute spec circumstances => exact HarnessExecutor.rules_execute circumstances
  | approve actionId approverId =>
    rw [step]
    split <;> rfl
  | reject actionId reason => rfl
  | requestApproval spec => rfl

/-! ## The invariant -/

/-- What is in the approved set was last approved, by another than the submitter. -/
def Inv : Prop :=
  ∀ actionId ∈ desk.executor.governance.approved, ∃ approver,
    desk.verdicts.lookup actionId = some (.approved approver) ∧ approver ≠ submitterOf actionId

variable {text submitterOf desk}

theorem Inv.approve (h : desk.Inv submitterOf) {actionId approverId : String}
    (hmeets : desk.Meets text submitterOf (.approve actionId approverId)) :
    (desk.step text (.approve actionId approverId)).Inv submitterOf := by
  rw [step]
  split
  · exact h
  · rename_i governance htook
    obtain ⟨hother, hpass⟩ := GovernanceEngine.approve_eq_ok htook
    have hne : approverId ≠ submitterOf actionId := by
      intro hsame
      obtain ⟨hnamed, hqueued⟩ := hmeets hsame
      exact hother ⟨by rwa [hqueued], hnamed, hqueued⟩
    intro approved hmem
    change approved ∈ governance.approved at hmem
    change ∃ approver, ((actionId, Verdict.approved approverId) :: desk.verdicts).lookup approved =
      some (.approved approver) ∧ approver ≠ submitterOf approved
    rw [hpass] at hmem
    by_cases hid : approved = actionId
    · exact ⟨approverId, by rw [hid, lookup_cons_self], by rwa [hid]⟩
    · rcases mem_insert_iff.mp hmem with hsame | hold
      · exact absurd hsame hid
      · obtain ⟨approver, hlast, hapart⟩ := h approved hold
        refine ⟨approver, ?_, hapart⟩
        rw [List.lookup_cons, beq_false_of_ne hid]
        exact hlast

theorem Inv.reject (h : desk.Inv submitterOf) {actionId reason : String}
    (hmeets : desk.Meets text submitterOf (.reject actionId reason)) :
    (desk.step text (.reject actionId reason)).Inv submitterOf := by
  intro approved hmem
  obtain ⟨approver, hlast, hapart⟩ := h approved hmem
  have hid : approved ≠ actionId := fun hsame => hmeets (hsame ▸ hmem)
  refine ⟨approver, ?_, hapart⟩
  change ((actionId, Verdict.rejected) :: desk.verdicts).lookup approved = some (.approved approver)
  rw [List.lookup_cons, beq_false_of_ne hid]
  exact hlast

/-- A step that meets the condition has another than the submitter approve. -/
theorem Inv.step (h : desk.Inv submitterOf) {event : HarnessEvent}
    (hmeets : desk.Meets text submitterOf event) : (desk.step text event).Inv submitterOf := by
  cases event with
  | execute spec circumstances =>
    intro actionId hmem
    change actionId ∈ (desk.executor.execute text spec circumstances).executor.governance.approved
      at hmem
    rw [HarnessExecutor.approved_execute] at hmem
    exact h actionId hmem
  | approve actionId approverId => exact h.approve hmeets
  | reject actionId reason => exact h.reject hmeets
  | requestApproval spec => exact h

theorem evaluate_of_check {gate next : PermissionGate} {decision : PermissionGateDecision}
    {runId toolName now : String} {toolInput : PyDict}
    (hcheck : gate.check text runId toolName now toolInput = .ok (next, decision)) :
    evaluate text toolName toolInput gate.rules = .ok decision.permissionDecision := by
  rw [PermissionGate.check] at hcheck
  cases hanswer : evaluate text toolName toolInput gate.rules with
  | error error =>
    rw [hanswer] at hcheck
    cases hcheck
  | ok answer =>
    rw [hanswer] at hcheck
    have hsettled : gate.settle runId toolName now answer = (next, decision) :=
      Except.ok.inj hcheck
    rw [← gate.permissionDecision_settle runId toolName now answer, hsettled]

theorem Inv.gated (h : desk.Inv submitterOf) {event : HarnessEvent}
    (hmeets : desk.Meets text submitterOf event) : desk.Gated text event := by
  cases event with
  | execute spec circumstances =>
    intro hinvoked
    have hpasses := HarnessExecutor.passes_of_invocations hinvoked
    obtain ⟨hvalid, hpass⟩ :=
      GovernanceEngine.canExecute_eq_none_iff.mp hpasses.governance
    refine ⟨fun gate hgate => ?_, hvalid, fun hrequired => ?_⟩
    · obtain ⟨next, decision, hcheck, hdeny⟩ := hpasses.gate gate hgate
      refine ⟨next, decision, hcheck, ?_⟩
      have hask := hmeets.2 hpasses.governance gate hgate _ (evaluate_of_check hcheck)
      cases haction : decision.permissionDecision.action with
      | allow => rfl
      | deny => exact absurd haction hdeny
      | ask => exact absurd haction hask
    · rw [hmeets.1]
      exact h spec.actionId (hpass hrequired)
  | approve actionId approverId => trivial
  | reject actionId reason => trivial
  | requestApproval spec => trivial

/-- In every history whose calls meet the condition, only what the gate allows, governance
accepts and another than the submitter approved last reaches the invoker. -/
theorem along_gated (compensationHandlers : List String) (hasInvoker : Bool)
    (gate : Option PermissionGate) {events : List HarnessEvent}
    (hmeets : Along (step text) (Meets text submitterOf)
      (start compensationHandlers hasInvoker gate) events) :
    Along (step text) (Gated text) (start compensationHandlers hasInvoker gate) events := by
  have hinit : (start compensationHandlers hasInvoker gate).Inv submitterOf :=
    fun _ hmem => absurd hmem not_mem_nil
  exact along_of_invariant (fun _ _ hinv hmeets => hinv.step hmeets)
    (fun _ _ hinv hmeets => hinv.gated hmeets) hinit hmeets

/-- Texts of ASCII without quotes, and payloads of texts. -/
def plainText : PyText where
  lower := Text.lower
  repr text := s!"'{text}'"
  str
    | .str value => .ok value
    | _ => .error "not a text"

def gateOf (rules : List ToolPermissionRule) : PermissionGate :=
  ⟨rules, ⟨5, 10, .empty, .empty⟩⟩

/-- A report is submitted for good, by alice. -/
def submitReport : ActionSpec where
  actionId := "act-1"
  actionType := "submit"
  capabilityName := "send_report"
  payload := [("path", .str "/tmp/report")]
  effectClass := .irreversibleWrite
  sideEffectClass := .irreversibleSubmit
  approvalRequired := true
  idempotencyKey := "key-1"
  maxRetries := 3
  runId := "run-1"
  submitterId := "alice"

def calmly : Circumstances :=
  ⟨"2026-01-01T00:00:00Z", "00000000", fun _ => ⟨.ok (.str "sent"), .ok ("ev-1", [])⟩⟩

def allowReport : ToolPermissionRule :=
  ⟨"allow-report", some "Send_Report", some "path", some "/tmp/*", .allow, ""⟩

/-- The action waits, another than its submitter approves it, and it is executed. -/
def approvedFirst : List HarnessEvent :=
  [.execute submitReport calmly, .approve "act-1" "bob", .execute submitReport calmly]

theorem along_gated_approvedFirst :
    Along (step plainText) (Gated plainText) (start [] true (some (gateOf [allowReport])))
      approvedFirst := by
  have hallowed : ∀ decision,
      evaluate plainText "send_report" [("path", .str "/tmp/report")] [allowReport] = .ok decision →
        decision.action ≠ .ask := by
    intro decision hruled
    have hrule : evaluate plainText "send_report" [("path", .str "/tmp/report")] [allowReport] =
        .ok (allowReport.decision "send_report") := by decide +kernel
    rw [hrule] at hruled
    rw [← Except.ok.inj hruled]
    decide
  have hmeets : Along (step plainText) (Meets plainText fun _ => "alice")
      (start [] true (some (gateOf [allowReport]))) approvedFirst →
        Along (step plainText) (Gated plainText) (start [] true (some (gateOf [allowReport])))
          approvedFirst := along_gated [] true _
  refine hmeets ⟨⟨rfl, ?_⟩, ?_, ⟨rfl, ?_⟩, trivial⟩
  · intro _ gate hgate decision hruled
    obtain rfl := Option.some.inj hgate
    exact hallowed decision hruled
  · exact fun hsame => absurd hsame (by decide)
  · intro _ gate hgate decision hruled
    have hrules := rules_step plainText (step plainText
      (start [] true (some (gateOf [allowReport]))) (.execute submitReport calmly))
      (.approve "act-1" "bob")
    rw [Option.mem_def.mp hgate, rules_step] at hrules
    rw [show gate.rules = [allowReport] from Option.some.inj hrules] at hruled
    exact hallowed decision hruled

/-- A search that only reads. -/
def search : ActionSpec where
  actionId := "act-2"
  actionType := "read"
  capabilityName := "web_search"
  payload := [("query", .str "lean")]
  effectClass := .readOnly
  sideEffectClass := .readOnly
  approvalRequired := false
  idempotencyKey := ""
  maxRetries := 0
  runId := "run-1"
  submitterId := "alice"

def rejectedLate : List HarnessEvent :=
  [.requestApproval submitReport, .approve "act-1" "bob", .reject "act-1" "withdrawn",
    .execute submitReport calmly]

/-- Under the default rules a search is to be asked about, and reaches the invoker; so does
an action that was rejected after its approval. -/
theorem not_along_gated :
    ¬ Along (step plainText) (Gated plainText) (start [] true (some (gateOf defaultSafeRules)))
        [.execute search calmly] ∧
      ¬ Along (step plainText) (Gated plainText) (start [] true (some (gateOf [allowReport])))
        rejectedLate := by
  constructor
  · rintro ⟨hgated, -⟩
    obtain ⟨hgate, -, -⟩ := hgated (by decide +kernel)
    obtain ⟨next, decision, hcheck, hallow⟩ := hgate _ rfl
    exact absurd hallow (evaluate_defaultSafeRules_ne_allow (evaluate_of_check hcheck))
  · rintro ⟨-, -, -, hgated, -⟩
    obtain ⟨-, -, hlast⟩ := hgated (by decide +kernel)
    obtain ⟨approver, hlookup, -⟩ := hlast rfl
    cases hlookup

end HarnessDesk

open List

/-! ## Bookkeeping -/

/-- What the bookkeeping after an invocation meets: the answer of the evidence store, whether
there is an artifact registry and the descriptor of the capability requires provenance, and
the artifacts that are stored before the adapter or the registry raises, if one does. -/
structure Bookkeeping where
  evidenceRef : String
  stored : Except String Unit
  hasRegistry : Bool
  provenanceRequired : Bool
  artifactIds : List String

/-- `output_dict.get("provenance")`, where the output is a dictionary. -/
def carriesProvenance : PyValue → Bool
  | .dict fields => (PyDict.get fields "provenance" .none).truthy
  | _ => false

/-- The descriptor requires a provenance that the output of the capability lacks. -/
def Bookkeeping.violatesPolicy (books : Bookkeeping) (capabilityName : String)
    (output : PyValue) : Bool :=
  books.hasRegistry && capabilityName != "" && books.provenanceRequired && match output with
    | .none => false
    | output => !carriesProvenance output

def Bookkeeping.artifactsOf (books : Bookkeeping) : PyValue → List String
  | .none => []
  | _ => if books.hasRegistry then books.artifactIds else []

def collectEvidence (capabilityName : String) (output : PyValue) (books : Bookkeeping) :
    Except String (String × List String) :=
  match books.stored with
  | .error error => .error error
  | .ok () =>
    if books.violatesPolicy capabilityName output then
      .error (s!"capability '{capabilityName}' requires provenance but output carries no " ++
        "provenance dict. Set provenance_required=False or include 'provenance' in the output.")
    else
      .ok (books.evidenceRef, books.artifactsOf output)

/-- What a call meets: at each attempt the answer of the invoker, and the bookkeeping. -/
structure HarnessCall where
  now : String
  hex : String
  invoked : Nat → Except String PyValue
  books : Nat → Bookkeeping

namespace HarnessCall

variable (call : HarnessCall) (spec : ActionSpec)

def circumstances : Circumstances where
  now := call.now
  hex := call.hex
  attempts attempt :=
    { invoked := call.invoked attempt
      collected := (call.invoked attempt).bind fun output =>
        collectEvidence spec.capabilityName output (call.books attempt) }

def Returns (attempt : Nat) : Prop := Succeeds (call.invoked attempt)

def Books (attempt : Nat) : Prop :=
  ∀ output, call.invoked attempt = .ok output → Succeeds (call.books attempt).stored ∧
    (call.books attempt).violatesPolicy spec.capabilityName output = false

theorem succeeds_collectEvidence_iff {capabilityName : String} {output : PyValue}
    {books : Bookkeeping} : Succeeds (collectEvidence capabilityName output books) ↔
      Succeeds books.stored ∧ books.violatesPolicy capabilityName output = false := by
  rw [collectEvidence]
  cases books.stored with
  | error error => simp
  | ok answer => cases books.violatesPolicy capabilityName output <;> simp

theorem books_iff {attempt : Nat} : call.Books spec attempt ↔
    (call.Returns attempt → Succeeds ((call.circumstances spec).attempts attempt).collected) := by
  rw [Books, Returns, circumstances]
  dsimp only
  cases call.invoked attempt with
  | error error => simp
  | ok output => simp [succeeds_bind_iff, succeeds_collectEvidence_iff]

end HarnessCall

/-! ## Attempt after attempt -/

namespace HarnessExecutor

variable {text : PyText} {executor : HarnessExecutor} {spec : ActionSpec} {call : HarnessCall}

/-- The attempts from one on: an invocation follows one that raised, and where one has
returned the action has succeeded. -/
def Once (attempts : Nat → Attempt) (first : Nat) (dispatched : Dispatched) : Prop :=
  (∀ n, first ≤ n → n + 1 < first + dispatched.invocations.length →
    ¬ Succeeds (attempts n).invoked) ∧
  ((∃ n, first ≤ n ∧ n < first + dispatched.invocations.length ∧ Succeeds (attempts n).invoked) →
    Succeeds dispatched.outcome)

theorem invocations_dispatch_ne_nil (attempts : Nat → Attempt) (left attempt : Nat)
    (lastError : Option String) :
    (dispatch spec true attempts (left + 1) attempt lastError).invocations ≠ [] := by
  rw [dispatch, if_pos rfl]
  dsimp only
  split <;> simp

theorem once_dispatch_iff (attempts : Nat → Attempt) (left attempt : Nat)
    (lastError : Option String) :
    Once attempts attempt (dispatch spec true attempts left attempt lastError) ↔
      ∀ n, attempt ≤ n → n < attempt + left →
        (∀ m, attempt ≤ m → m < n → ¬ Succeeds (attempts m).invoked) →
          Succeeds (attempts n).invoked → Succeeds (attempts n).collected := by
  induction left generalizing attempt lastError with
  | zero =>
    simp only [Once, dispatch, length_nil]
    grind
  | succ left ih =>
    have hlater : ∀ error, ¬ Succeeds (attempts attempt).invoked → (Once attempts attempt
          { dispatch spec true attempts left (attempt + 1) (some error) with
            invocations := ⟨spec.capabilityName, spec.payload⟩ ::
              (dispatch spec true attempts left (attempt + 1) (some error)).invocations } ↔
          Once attempts (attempt + 1)
            (dispatch spec true attempts left (attempt + 1) (some error))) := by
      intro error hraises
      simp only [Once, length_cons]
      grind
    rw [dispatch, if_pos rfl]
    dsimp only
    split
    · rename_i error hinvoked
      have hraises : ¬ Succeeds (attempts attempt).invoked := by simp [hinvoked]
      rw [hlater error hraises, ih]
      grind
    · rename_i output error hinvoked hcollected
      have hreturns : Succeeds (attempts attempt).invoked := by simp [hinvoked]
      have hlost : ¬ Succeeds (attempts attempt).collected := by simp [hcollected]
      refine iff_of_false ?_ fun h => hlost (h attempt (by omega) (by omega) (by omega) hreturns)
      rintro ⟨hagain, hfailed⟩
      dsimp only [length_cons] at hagain hfailed
      cases left with
      | zero => exact not_succeeds_error _ (hfailed ⟨attempt, by omega, by omega, hreturns⟩)
      | succ left =>
        have hmore := length_pos_iff.mpr
          (@invocations_dispatch_ne_nil spec attempts left (attempt + 1) (some error))
        exact hagain attempt (by omega) (by omega) hreturns
    · rename_i output answer hinvoked hcollected
      have hreturns : Succeeds (attempts attempt).invoked := by simp [hinvoked]
      have hbooked : Succeeds (attempts attempt).collected := by simp [hcollected]
      refine iff_of_true ⟨by simp only [length_cons, length_nil]; omega, fun _ => succeeds_ok _⟩ ?_
      intro n hle _ hraise _
      rcases hle.eq_or_lt with rfl | hlt
      · exact hbooked
      · exact absurd hreturns (hraise attempt (by omega) hlt)

theorem errorCode_resultOf_ne_iff (attempts : Int) (dispatched : Dispatched) :
    (resultOf spec attempts dispatched).errorCode ≠ some "harness_execution_failed" ↔
      Succeeds dispatched.outcome := by
  rw [resultOf]
  split
  · rename_i h
    simp [h]
  · rename_i h
    simp [h, ActionResult.stopped]

/-! ## One call -/

/-- The call hands the action to the invoker again only after an invocation that raised; where
one has returned, the action is not reported as not executed; and what is irreversible is
handed over once at most. -/
structure NoRepeat (text : PyText) (executor : HarnessExecutor) (spec : ActionSpec)
    (call : HarnessCall) : Prop where
  again : ∀ n, 1 ≤ n →
    n + 1 < 1 + (executor.execute text spec (call.circumstances spec)).invocations.length →
      ¬ call.Returns n
  reported : (∃ n, 1 ≤ n ∧
      n < 1 + (executor.execute text spec (call.circumstances spec)).invocations.length ∧
        call.Returns n) →
    (executor.execute text spec (call.circumstances spec)).result.errorCode ≠
      some "harness_execution_failed"
  irreversible :
    spec.effectClass = .irreversibleWrite ∨ spec.sideEffectClass = .irreversibleSubmit →
      (executor.execute text spec (call.circumstances spec)).invocations.length ≤ 1

/-- The gate and the governance engine let the action through, and there is an invoker. -/
def Dispatches (text : PyText) (executor : HarnessExecutor) (spec : ActionSpec)
    (call : HarnessCall) : Prop :=
  (executor.checkGate text spec call.now).2 = none ∧
    executor.governance.canExecute text spec = none ∧ executor.hasInvoker = true

theorem execute_of_dispatches (h : Dispatches text executor spec call) :
    let attempts := maxAttempts (GovernanceEngine.getRetryPolicy spec)
    let dispatched :=
      dispatch spec true (call.circumstances spec).attempts attempts.toNat 1 none
    (executor.execute text spec (call.circumstances spec)).invocations = dispatched.invocations ∧
      (executor.execute text spec (call.circumstances spec)).result =
        resultOf spec attempts dispatched := by
  obtain ⟨hgate, hgov, hinvoker⟩ := h
  rw [execute]
  simp only [show (call.circumstances spec).now = call.now from rfl, hgate, hgov, hinvoker,
    GovernanceEngine.withKey_of_canExecute hgov, and_self]

theorem invocations_of_not_dispatches (h : ¬ Dispatches text executor spec call) :
    (executor.execute text spec (call.circumstances spec)).invocations = [] := by
  have hidle : ∀ left attempt lastError, (dispatch spec false (call.circumstances spec).attempts
      left attempt lastError).invocations = [] := by
    intro left
    induction left with
    | zero => exact fun _ _ => rfl
    | succ left ih => exact fun attempt _ => ih (attempt + 1) _
  rw [execute]
  dsimp only
  split
  · rfl
  · rename_i hgate
    split
    · split <;> rfl
    · rename_i hgov
      have hinvoker : executor.hasInvoker = false := by
        have hmissing : ¬ executor.hasInvoker = true :=
          fun hinvoker => h ⟨hgate, hgov, hinvoker⟩
        simpa using hmissing
      simp only [hinvoker, GovernanceEngine.withKey_of_canExecute hgov, hidle]

theorem noRepeat_iff (text : PyText) (executor : HarnessExecutor) (spec : ActionSpec)
    (call : HarnessCall) : NoRepeat text executor spec call ↔
      (Dispatches text executor spec call → ∀ n, 1 ≤ n →
        n ≤ (maxAttempts (GovernanceEngine.getRetryPolicy spec)).toNat →
          (∀ m, 1 ≤ m → m < n → ¬ call.Returns m) → call.Books spec n) := by
  by_cases hsends : Dispatches text executor spec call
  · obtain ⟨hinvocations, hresult⟩ := execute_of_dispatches hsends
    have honce := @once_dispatch_iff spec (call.circumstances spec).attempts
      (maxAttempts (GovernanceEngine.getRetryPolicy spec)).toNat 1 none
    have hirreversible := @length_invocations_le_one text executor
      spec (call.circumstances spec)
    have hbooks : ∀ n, call.Books spec n ↔
      (Succeeds ((call.circumstances spec).attempts n).invoked →
        Succeeds ((call.circumstances spec).attempts n).collected) :=
      fun n => call.books_iff spec
    simp only [hsends, true_implies, hbooks]
    constructor
    · intro h n hone hle hraise
      have hagain := h.again
      have hreported := h.reported
      rw [hinvocations] at hagain hreported
      rw [hresult, errorCode_resultOf_ne_iff] at hreported
      exact honce.mp ⟨hagain, hreported⟩ n hone (by omega) hraise
    · intro h
      obtain ⟨hagain, hreported⟩ := honce.mpr fun n hone hlt => h n hone (by omega)
      refine ⟨?_, ?_, hirreversible⟩
      · rw [hinvocations]
        exact hagain
      · rw [hinvocations, hresult, errorCode_resultOf_ne_iff]
        exact hreported
  · refine iff_of_true ⟨?_, ?_, ?_⟩ fun h => absurd h hsends <;>
      rw [invocations_of_not_dispatches hsends]
    · simp only [length_nil]
      omega
    · simp only [length_nil]
      omega
    · simp

/-- The store of the evidence is locked at the first attempt, and the action may be retried. -/
def lockedOnce : HarnessCall where
  now := "2026-01-01T00:00:00Z"
  hex := "00000000"
  invoked _ := .ok (.str "sent")
  books attempt :=
    ⟨"ev-1", if attempt = 1 then .error "database is locked" else .ok (), false, false, []⟩

theorem not_noRepeat_lockedOnce :
    ¬ NoRepeat HarnessDesk.plainText (HarnessDesk.start [] true none).executor
        { HarnessDesk.search with maxRetries := 1 } lockedOnce := by
  intro h
  exact h.again 1 (Nat.le_refl 1) (by decide +kernel) (succeeds_ok _)

end HarnessExecutor

end HiAgent.Runtime
