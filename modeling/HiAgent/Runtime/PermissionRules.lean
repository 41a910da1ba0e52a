/-
  Runtime/PermissionRules.lean --- `ToolPermissionRules`, `DenialCounter`, `PermissionGate`.

  The rules are asked in their order and the first that matches decides; where none matches the
  answer is to ask.
-/
import HiAgent.Foundation.Dict
import HiAgent.Foundation.Like
import HiAgent.Foundation.Machine
import HiAgent.Foundation.PyValue

namespace HiAgent.Runtime

open Foundation List

/-- What Python makes of texts and of values that are no JSON: `str.lower`, `repr` of a
text, `str()` of a value or the text of what it raises. -/
structure PyText where
  lower : String → String
  repr : String → String
  str : PyValue → Except String String

inductive PermissionAction where
  | allow
  | deny
  | ask
  deriving DecidableEq

structure PermissionDecision where
  action : PermissionAction
  ruleName : Option String
  reason : String
  toolName : String
  matchedInputField : Option String
  matchedPattern : Option String
  deriving DecidableEq

structure ToolPermissionRule where
  name : String
  toolName : Option String
  inputField : Option String
  globPattern : Option String
  action : PermissionAction
  reason : String

namespace ToolPermissionRule

variable (text : PyText) (rule : ToolPermissionRule)

def matchesTool (toolName : String) : Bool :=
  match rule.toolName with
  | none => true
  | some name => text.lower name == text.lower toolName

def matchesInput (toolInput : PyDict) : Except String Bool :=
  match rule.inputField with
  | none => .ok true
  | some field =>
    match toolInput.get field .none, rule.globPattern with
    | .none, _ => .ok false
    | _, none => .ok true
    | value, some pattern => (text.str value).map fun value => fnmatch value pattern

end ToolPermissionRule

/-- What a rule that matches decides. -/
def ToolPermissionRule.decision (rule : ToolPermissionRule) (toolName : String) :
    PermissionDecision where
  action := rule.action
  ruleName := some rule.name
  reason := if rule.reason = "" then s!"Matched rule '{rule.name}'" else rule.reason
  toolName := toolName
  matchedInputField := rule.inputField
  matchedPattern := rule.globPattern

/-- What is decided where no rule matches. -/
def PermissionDecision.unmatched (toolName : String) : PermissionDecision where
  action := .ask
  ruleName := none
  reason := "No permission rule matched; defaulting to human review."
  toolName := toolName
  matchedInputField := none
  matchedPattern := none

def evaluate (text : PyText) (toolName : String) (toolInput : PyDict) :
    List ToolPermissionRule → Except String PermissionDecision
  | [] => .ok (.unmatched toolName)
  | rule :: rest =>
    if rule.matchesTool text toolName then
      match rule.matchesInput text toolInput with
      | .error error => .error error
      | .ok true => .ok (rule.decision toolName)
      | .ok false => evaluate text toolName toolInput rest
    else evaluate text toolName toolInput rest

theorem evaluate_eq_ok {text : PyText} {toolName : String} {toolInput : PyDict}
    {rules : List ToolPermissionRule} {decision : PermissionDecision}
    (h : evaluate text toolName toolInput rules = .ok decision) :
    (∃ rule ∈ rules, decision = rule.decision toolName) ∨ decision = .unmatched toolName := by
  induction rules with
  | nil => exact .inr (Except.ok.inj h).symm
  | cons rule rest ih =>
    have hrest : evaluate text toolName toolInput rest = .ok decision →
        (∃ other ∈ rule :: rest, decision = other.decision toolName) ∨
          decision = .unmatched toolName := by
      intro hrest
      rcases ih hrest with ⟨other, hother, hruled⟩ | hunmatched
      · exact .inl ⟨other, List.mem_cons_of_mem rule hother, hruled⟩
      · exact .inr hunmatched
    rw [evaluate] at h
    split at h
    · split at h
      · cases h
      · exact .inl ⟨rule, List.mem_cons_self, (Except.ok.inj h).symm⟩
      · exact hrest h
    · exact hrest h

/-- A rule of `default_safe_rules`. -/
def denyRule (name toolName inputField globPattern reason : String) : ToolPermissionRule :=
  ⟨name, some toolName, some inputField, some globPattern, .deny, reason⟩

def defaultSafeRules : List ToolPermissionRule :=
  [denyRule "deny-bash-rm-rf" "bash" "command" "rm -rf *"
      "Recursive force-delete commands are not permitted.",
    denyRule "deny-bash-rm-rf-slash" "bash" "command" "rm -rf /*"
      "Recursive force-delete of root path is blocked.",
    denyRule "deny-bash-rm-r" "bash" "command" "rm -r *"
      "Recursive delete commands require human approval.",
    denyRule "deny-file-write-etc" "file_write" "path" "/etc/*"
      "Writing to /etc/ is not permitted.",
    denyRule "deny-file-write-boot" "file_write" "path" "/boot/*"
      "Writing to /boot/ is not permitted.",
    denyRule "deny-file-write-sys" "file_write" "path" "/sys/*"
      "Writing to /sys/ is not permitted.",
    denyRule "deny-file-write-proc" "file_write" "path" "/proc/*"
      "Writing to /proc/ is not permitted.",
    denyRule "deny-file-write-ssh" "file_write" "path" "*/.ssh/*"
      "Writing to SSH configuration directories is not permitted."]

theorem evaluate_defaultSafeRules_ne_allow {text : PyText} {toolName : String}
    {toolInput : PyDict} {decision : PermissionDecision}
    (h : evaluate text toolName toolInput defaultSafeRules = .ok decision) :
    decision.action ≠ .allow := by
  rcases evaluate_eq_ok h with ⟨rule, hrule, rfl⟩ | rfl
  · have hdeny : ∀ rule ∈ defaultSafeRules, rule.action = .deny := by decide
    change rule.action ≠ .allow
    rw [hdeny rule hrule]
    decide
  · change PermissionAction.ask ≠ .allow
    decide

/-! ## The counter of denials -/

structure DenialRecord where
  toolName : String
  decision : PermissionDecision
  deniedAt : String
  runId : String

structure DenialCounter where
  escalationThreshold : Int
  windowSize : Nat
  denials : Dict String (List DenialRecord)
  consecutive : Dict String Int

namespace DenialCounter

variable (counter : DenialCounter)

def getDenialCount (runId : String) : Int := counter.consecutive.getD runId 0

def shouldEscalate (runId : String) : Bool :=
  decide (counter.escalationThreshold ≤ counter.getDenialCount runId)

/-- `record_denial`. A window of size zero cuts nothing off: `history[-0:]` is all of it. -/
def recordDenial (runId toolName : String) (decision : PermissionDecision) (now : String) :
    DenialCounter :=
  let history := counter.denials.getD runId [] ++ [⟨toolName, decision, now, runId⟩]
  let kept :=
    if counter.windowSize = 0 then history else history.drop (history.length - counter.windowSize)
  { counter with
    denials := counter.denials.set runId kept
    consecutive := counter.consecutive.set runId (counter.getDenialCount runId + 1) }

def recordApproval (runId : String) : DenialCounter :=
  { counter with consecutive := counter.consecutive.set runId 0 }

end DenialCounter

/-! ## The gate -/

structure PermissionGateDecision where
  escalated : Bool
  permissionDecision : PermissionDecision
  denialCount : Int
  escalationReason : Option String

structure PermissionGate where
  rules : List ToolPermissionRule
  counter : DenialCounter

namespace PermissionGate

variable (text : PyText) (gate : PermissionGate)

/-- What `check` makes of a decision. -/
def settle (runId toolName now : String) (decision : PermissionDecision) :
    PermissionGate × PermissionGateDecision :=
  if decision.action = .deny then
    let counter := gate.counter.recordDenial runId toolName decision now
    let count := counter.getDenialCount runId
    let reason := s!"Consecutive denial count ({count}) reached " ++
      "escalation threshold; routing to Gate D (final_approval)."
    ({ gate with counter := counter },
      { escalated := counter.shouldEscalate runId
        permissionDecision := decision
        denialCount := count
        escalationReason := if counter.shouldEscalate runId then some reason else none })
  else
    let counter := gate.counter.recordApproval runId
    ({ gate with counter := counter },
      { escalated := false
        permissionDecision := decision
        denialCount := counter.getDenialCount runId
        escalationReason := none })

def check (runId toolName now : String) (toolInput : PyDict) :
    Except String (PermissionGate × PermissionGateDecision) :=
  (evaluate text toolName toolInput gate.rules).map (gate.settle runId toolName now)

@[simp] theorem permissionDecision_settle (runId toolName now : String)
    (decision : PermissionDecision) :
    (gate.settle runId toolName now decision).2.permissionDecision = decision := by
  rw [settle]
  split <;> rfl

@[simp] theorem rules_settle (runId toolName now : String) (decision : PermissionDecision) :
    (gate.settle runId toolName now decision).1.rules = gate.rules := by
  rw [settle]
  split <;> rfl

/-! ## Any number of checks -/

/-- A call of `check`. -/
structure Check where
  runId : String
  toolName : String
  now : String
  toolInput : PyDict

/-- The gate behind a check. One that raises leaves it as it is. -/
def after (check : Check) : PermissionGate :=
  match gate.check text check.runId check.toolName check.now check.toolInput with
  | .ok (next, _) => next
  | .error _ => gate

/-- Whether the checks of a run decided to deny, but for those that raised. -/
def denied (rules : List ToolPermissionRule) (runId : String) (checks : List Check) : List Bool :=
  checks.filterMap fun check =>
    if check.runId = runId then
      (evaluate text check.toolName check.toolInput rules).toOption.map fun decision =>
        decide (decision.action = .deny)
    else none

/-- How many denials of the run stand at the end. -/
def streak (rules : List ToolPermissionRule) (runId : String) (checks : List Check) : Nat :=
  ((denied text rules runId checks).reverse.takeWhile id).length

/-- The counter of the gate stands where the checks put it. -/
structure Counts (rules : List ToolPermissionRule) (threshold : Int) (checks : List Check) :
    Prop where
  rules_eq : gate.rules = rules
  threshold_eq : gate.counter.escalationThreshold = threshold
  count_eq : ∀ runId, gate.counter.consecutive.getD runId 0 = streak text rules runId checks

variable {text gate} {rules : List ToolPermissionRule} {threshold : Int} {checks : List Check}

theorem streak_concat (check : Check) (runId : String) :
    streak text rules runId (checks ++ [check]) =
      match evaluate text check.toolName check.toolInput rules with
      | .error _ => streak text rules runId checks
      | .ok decision => if check.runId ≠ runId then streak text rules runId checks
        else if decision.action = .deny then streak text rules runId checks + 1 else 0 := by
  cases hruled : evaluate text check.toolName check.toolInput rules with
  | error error => simp [streak, denied, hruled, Except.toOption, filterMap_append]
  | ok decision =>
    by_cases hrun : check.runId = runId
    · by_cases hdeny : decision.action = .deny
      · simp [streak, denied, hruled, Except.toOption, filterMap_append, hrun, hdeny]
      · simp [streak, denied, hruled, Except.toOption, filterMap_append, hrun, hdeny]
    · simp [streak, denied, filterMap_append, hrun]

theorem Counts.after (h : gate.Counts text rules threshold checks) (check : Check) :
    (gate.after text check).Counts text rules threshold (checks ++ [check]) := by
  rw [PermissionGate.after, PermissionGate.check, h.rules_eq]
  cases hruled : evaluate text check.toolName check.toolInput rules with
  | error error =>
    refine ⟨h.rules_eq, h.threshold_eq, fun runId => ?_⟩
    simp only [streak_concat, hruled]
    exact h.count_eq runId
  | ok decision =>
    simp only [Except.map, settle]
    split
    · refine ⟨h.rules_eq, h.threshold_eq, fun runId => ?_⟩
      simp only [streak_concat, hruled, DenialCounter.recordDenial,
        DenialCounter.getDenialCount, Dict.getD_set]
      grind [h.count_eq]
    · refine ⟨h.rules_eq, h.threshold_eq, fun runId => ?_⟩
      simp only [streak_concat, hruled, DenialCounter.recordApproval, Dict.getD_set]
      grind [h.count_eq]

theorem counts_exec (text : PyText) (rules : List ToolPermissionRule) (threshold : Int)
    (windowSize : Nat) (checks : List Check) :
    (exec (PermissionGate.after text) ⟨rules, threshold, windowSize, .empty, .empty⟩ checks).Counts
      text rules threshold checks := by
  induction checks using List.reverseRecOn with
  | nil => exact ⟨rfl, rfl, fun _ => rfl⟩
  | append_singleton checks check ih =>
    rw [exec, foldl_concat]
    exact ih.after check

/-- However the checks of the runs come, the count of a run is the number of its denials since it
was last not denied, and a check escalates where it denies and that makes the threshold. -/
theorem denials_counted (text : PyText) (rules : List ToolPermissionRule) (threshold : Int)
    (windowSize : Nat) (checks : List Check) :
    let gate := exec (PermissionGate.after text)
      ⟨rules, threshold, windowSize, .empty, .empty⟩ checks
    (∀ runId, gate.counter.getDenialCount runId = streak text rules runId checks) ∧
    ∀ runId toolName now toolInput next answer,
      gate.check text runId toolName now toolInput = .ok (next, answer) →
      (answer.escalated = true ↔ answer.permissionDecision.action = .deny ∧
        threshold ≤ streak text rules runId checks + 1) := by
  intro gate
  have h : gate.Counts text rules threshold checks :=
    counts_exec text rules threshold windowSize checks
  refine ⟨h.count_eq, fun runId toolName now toolInput next answer hcheck => ?_⟩
  rw [PermissionGate.check, h.rules_eq] at hcheck
  obtain ⟨decision, -, hsettle⟩ := map_eq_ok_iff.mp hcheck
  obtain rfl : (gate.settle runId toolName now decision).2 = answer := by rw [hsettle]
  rw [permissionDecision_settle, PermissionGate.settle]
  split
  · rename_i hdeny
    simp [hdeny, DenialCounter.shouldEscalate, DenialCounter.getDenialCount,
      DenialCounter.recordDenial, h.threshold_eq, h.count_eq]
  · rename_i hdeny
    simp [hdeny]

end PermissionGate

end HiAgent.Runtime
