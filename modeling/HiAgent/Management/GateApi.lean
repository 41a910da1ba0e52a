/-
  Management/GateApi.lean --- human gates in memory.

  `hi_agent/management/gate_context.py`, `gate_timeout.py` and `gate_api.py`: the
  record of a gate, its timeout policy and `InMemoryGateAPI`.
-/
import HiAgent.Foundation.Dict
import HiAgent.Foundation.PyValue
import HiAgent.Server.Environment

namespace HiAgent.Management

open Foundation Server List

/-! ## Records -/

structure GateContext (μ : Type) where
  gateRef : String
  runId : String
  stageId : String
  branchId : String
  submitter : String
  decisionRef : Option String
  rationale : Option String
  openedAt : Int
  metadata : μ
  tenantId : String
  userId : String
  sessionId : String
  projectId : String
  deriving DecidableEq

inductive GateAction where
  | approve
  | reject
  | backtrack
  | remediate
  deriving DecidableEq

inductive GateStatus where
  | pending
  | approved
  | rejected
  | escalated
  | backtracked
  | remediated
  deriving DecidableEq

inductive GateTimeoutPolicy where
  | approve
  | reject
  | escalate
  deriving DecidableEq

/-- The text of a status. -/
def GateStatus.value : GateStatus → String
  | pending => "pending"
  | approved => "approved"
  | rejected => "rejected"
  | escalated => "escalated"
  | backtracked => "backtracked"
  | remediated => "remediated"

structure GateRecord (μ : Type) where
  context : GateContext μ
  status : GateStatus
  timeoutSeconds : Int
  timeoutPolicy : GateTimeoutPolicy
  resolutionBy : Option String
  resolutionComment : Option String
  resolutionReason : Option String
  resolvedAt : Option Int
  escalationTarget : Option String
  projectId : String
  deriving DecidableEq

/-- The exceptions of the gate backends. -/
inductive GateError where
  | valueError (message : String)
  | permissionError (message : String)
  /-- Raised by `sqlite3` or by a conversion. -/
  | raised (error : Raised)

/-- The type of an exception. -/
def GateError.typeName : GateError → String
  | valueError _ => "ValueError"
  | permissionError _ => "PermissionError"
  | raised .typeError => "TypeError"
  | raised .valueError => "ValueError"
  | raised .overflowError => "OverflowError"
  | raised .bindingError => "ProgrammingError"
  | raised .integrityError => "IntegrityError"
  | raised .operationalError => "OperationalError"

/-- Nothing but a `ValueError` is raised. -/
def RaisesValueError {α : Type} (x : Except GateError α) : Prop :=
  ∀ error, x = .error error → error.typeName = "ValueError"

/-- `text.strip() if text and text.strip() else None`. -/
def stripped (text : Option String) : Option String :=
  (text.map Text.strip).filter (· ≠ "")

/-- `left or right`. -/
def orElse (left right : String) : String := if left = "" then right else left

/-! ## Timeouts -/

/-- The outcome of a timeout. -/
structure GateTimeoutResult where
  action : GateTimeoutPolicy
  reason : String
  resolvedAt : Int
  escalationTarget : Option String

/-- `escalation_target.strip() if escalation_target else None`. -/
def escalationOf (escalationTarget : Option String) : Option String :=
  (escalationTarget.filter (· ≠ "")).map Text.strip

/-- `resolve_gate_timeout`: nothing for a gate that is within its budget. -/
def resolveGateTimeout (openedAt timeoutSeconds : Int) (policy : GateTimeoutPolicy)
    (now : Int) (escalationTarget : Option String) :
    Except GateError (Option GateTimeoutResult) :=
  if timeoutSeconds ≤ 0 then .error (.valueError "timeout_seconds must be > 0")
  else if openedAt < 0 then .error (.valueError "opened_at must be non-negative")
  else if now < openedAt then .error (.valueError "now must be >= opened_at")
  else if now - openedAt < timeoutSeconds then .ok none
  else
    match policy with
    | .approve => .ok (some ⟨.approve, "timeout_auto_approve", now, none⟩)
    | .reject => .ok (some ⟨.reject, "timeout_auto_reject", now, none⟩)
    | .escalate => .ok (some ⟨.escalate, "timeout_escalated", now, escalationOf escalationTarget⟩)

namespace GateRecord

variable {μ : Type} (record : GateRecord μ)

/-- The record after its timeout. -/
def timedOut (result : GateTimeoutResult) : GateRecord μ :=
  match result.action with
  | .approve =>
    { record with
      status := .approved
      resolutionBy := some "system:timeout"
      resolutionReason := some result.reason
      resolvedAt := some result.resolvedAt }
  | .reject =>
    { record with
      status := .rejected
      resolutionBy := some "system:timeout"
      resolutionReason := some result.reason
      resolvedAt := some result.resolvedAt }
  | .escalate =>
    { record with
      status := .escalated
      resolutionBy := some "system:timeout"
      resolutionReason := some result.reason
      resolvedAt := some result.resolvedAt
      escalationTarget := result.escalationTarget }

/-- What `apply_timeouts` does with one gate: the record it becomes, if its time is up. -/
def expire (now : Int) : Except GateError (Option (GateRecord μ)) :=
  (resolveGateTimeout record.context.openedAt record.timeoutSeconds record.timeoutPolicy now
    record.escalationTarget).map fun result => result.map record.timedOut

/-- What becomes of the gates whose time is up, from the reading of the clock with number
`reading` on. -/
def expireAll (clock : Nat → Int) : Nat → List (GateRecord μ) →
    Except GateError (List (GateRecord μ))
  | _, [] => .ok []
  | reading, record :: rest =>
    (record.expire (clock reading)).bind fun updated =>
      (expireAll clock (reading + 1) rest).map (updated.toList ++ ·)

/-- The order of `list_pending`. -/
def ListedBefore (left right : GateRecord μ) : Prop :=
  left.context.openedAt < right.context.openedAt ∨ (left.context.openedAt = right.context.openedAt ∧
      left.context.gateRef ≤ right.context.gateRef)

instance : DecidableRel (ListedBefore (μ := μ)) := fun left right =>
  inferInstanceAs (Decidable (left.context.openedAt < right.context.openedAt ∨
    (left.context.openedAt = right.context.openedAt ∧
      left.context.gateRef ≤ right.context.gateRef)))

end GateRecord

/-! ## Requests -/

/-- The spine a caller names, or `exec_ctx.to_spine_kwargs()`. -/
structure SpineKwargs where
  tenantId : String
  userId : String
  sessionId : String
  projectId : String

/-- The arguments of `create_gate`. -/
structure GateRequest (μ : Type) where
  context : GateContext μ
  timeoutSeconds : Int
  timeoutPolicy : GateTimeoutPolicy
  escalationTarget : Option String
  execCtx : Option SpineKwargs
  spine : SpineKwargs

/-- The arguments of `resolve`. -/
structure GateResolution where
  gateRef : String
  action : String
  approver : String
  comment : Option String
  reason : Option String

/-- What a backend reads from its surroundings: `str.lower`, `repr` of a text, and what
`json.loads` reads from `json.dumps(metadata)`. -/
structure GateEnv (μ : Type) where
  lower : String → String
  repr : String → String
  json : μ → Except Raised μ

namespace GateRequest

variable {μ : Type} (request : GateRequest μ)

/-- The spine of the request: that of `exec_ctx` first. -/
def kwargs : SpineKwargs :=
  match request.execCtx with
  | none => request.spine
  | some execCtx =>
    { tenantId := orElse execCtx.tenantId request.spine.tenantId
      userId := orElse execCtx.userId request.spine.userId
      sessionId := orElse execCtx.sessionId request.spine.sessionId
      projectId := orElse execCtx.projectId request.spine.projectId }

/-- The context with its spine filled in. -/
def ctx : GateContext μ :=
  { request.context with
    tenantId := orElse request.context.tenantId request.kwargs.tenantId
    userId := orElse request.context.userId request.kwargs.userId
    sessionId := orElse request.context.sessionId request.kwargs.sessionId
    projectId := orElse request.context.projectId request.kwargs.projectId }

/-- The record of a new gate, under the project that the backend writes. -/
def record (projectId : String) : GateRecord μ where
  context := request.ctx
  status := .pending
  timeoutSeconds := request.timeoutSeconds
  timeoutPolicy := request.timeoutPolicy
  resolutionBy := none
  resolutionComment := none
  resolutionReason := none
  resolvedAt := none
  escalationTarget := escalationOf request.escalationTarget
  projectId := projectId

end GateRequest

/-- `_check_unscoped_gate_read` and `_warn_unscoped_gate_read`, which are the same. -/
def checkUnscopedRead (posture : Except String Posture) (repr : String → String)
    (method : String) (gateRef : Option String) (internalUnscoped : Bool) :
    Except GateError Unit :=
  if internalUnscoped then .ok ()
  else
    match posture with
    | .error message => .error (.valueError message)
    | .ok posture =>
      if posture.isStrict then
        .error (.valueError ("Gate read " ++ repr method ++
          " called without tenant_id under strict posture (gate_ref=" ++
          gateRef.elim "None" repr ++ "). Pass tenant_id= or use internal_unscoped=True " ++
          "(only for process-internal callers)."))
      else .ok ()

/-- The action of a normalised text. -/
def GateAction.ofText (text : String) : Option GateAction :=
  if text = "approve" then some .approve
  else if text = "reject" then some .reject
  else if text = "backtrack" then some .backtrack
  else if text = "remediate" then some .remediate
  else none

def GateAction.targetStatus : GateAction → GateStatus
  | approve => .approved
  | reject => .rejected
  | backtrack => .backtracked
  | remediate => .remediated

/-! ## What a timeout leaves -/

namespace GateRecord

variable {μ : Type}

section TimedOut

variable (record : GateRecord μ) (result : GateTimeoutResult)

@[simp] theorem context_timedOut : (record.timedOut result).context = record.context := by
  rw [timedOut]
  split <;> rfl

@[simp] theorem projectId_timedOut : (record.timedOut result).projectId = record.projectId := by
  rw [timedOut]
  split <;> rfl

theorem status_timedOut_ne : (record.timedOut result).status ≠ .pending := by
  rw [timedOut]
  split
  · exact GateStatus.noConfusion
  · exact GateStatus.noConfusion
  · exact GateStatus.noConfusion

end TimedOut

theorem of_expire {record updated : GateRecord μ} {now : Int}
    (h : record.expire now = .ok (some updated)) :
    ∃ outcome, updated = record.timedOut outcome := by
  obtain ⟨outcome, -, hupdated⟩ := map_eq_ok_iff.mp h
  obtain ⟨result, -, rfl⟩ := Option.map_eq_some_iff.mp hupdated
  exact ⟨result, rfl⟩

theorem of_expireAll {clock : Nat → Int} {reading : Nat} {records updates : List (GateRecord μ)}
    (h : expireAll clock reading records = .ok updates) :
    ∀ updated ∈ updates, ∃ record ∈ records, ∃ outcome, updated = record.timedOut outcome := by
  induction records generalizing reading updates with
  | nil =>
    obtain rfl := Except.ok.inj h
    intro updated hupdated
    cases hupdated
  | cons first rest ih =>
    obtain ⟨changed, hfirst, hrest⟩ := bind_eq_ok_iff.mp h
    obtain ⟨others, hothers, rfl⟩ := map_eq_ok_iff.mp hrest
    intro updated hupdated
    rcases mem_append.mp hupdated with hnew | hold
    · rw [Option.mem_toList] at hnew
      rw [Option.mem_def.mp hnew] at hfirst
      exact ⟨first, mem_cons_self, of_expire hfirst⟩
    · obtain ⟨record, hrecord, houtcome⟩ := ih hothers updated hold
      exact ⟨record, mem_cons_of_mem first hrecord, houtcome⟩

/-- No gate raises behind one whose time is up. -/
def Unbroken (clock : Nat → Int) : Nat → List (GateRecord μ) → Prop
  | _, [] => True
  | reading, record :: rest =>
    match record.expire (clock reading) with
    | .error _ => True
    | .ok none => Unbroken clock (reading + 1) rest
    | .ok (some _) =>
      ∀ (index : Nat) (later : GateRecord μ), rest[index]? = some later →
        Succeeds (later.expire (clock (reading + 1 + index)))

theorem succeeds_expireAll {clock : Nat → Int} {reading : Nat} {records : List (GateRecord μ)}
    (h : ∀ (index : Nat) (record : GateRecord μ), records[index]? = some record →
      Succeeds (record.expire (clock (reading + index)))) :
    Succeeds (expireAll clock reading records) := by
  induction records generalizing reading with
  | nil => exact ⟨[], rfl⟩
  | cons record rest ih =>
    obtain ⟨updated, hupdated⟩ := h 0 record rfl
    have hrest : Succeeds (expireAll clock (reading + 1) rest) := by
      refine ih fun index later hlater => ?_
      rw [Nat.add_assoc, Nat.add_comm 1 index]
      exact h (index + 1) later hlater
    obtain ⟨updates, hupdates⟩ := hrest
    refine ⟨updated.toList ++ updates, ?_⟩
    rw [Nat.add_zero] at hupdated
    rw [expireAll, hupdated, hupdates]
    rfl

end GateRecord

theorem GateAction.targetStatus_ne (action : GateAction) : action.targetStatus ≠ .pending := by
  cases action with
  | _ => exact GateStatus.noConfusion

/-! ## `InMemoryGateAPI` -/

structure InMemoryGateApi (μ : Type) where
  records : Dict String (GateRecord μ)
  enforceSoc : Bool

namespace InMemoryGateApi

variable {μ : Type} (env : GateEnv μ) (api : InMemoryGateApi μ)

/-- `__init__`. -/
def new (enforceSoc : Bool) : InMemoryGateApi μ := ⟨Dict.empty, enforceSoc⟩

/-- `_records[gate_ref] = record`. -/
def put (gateRef : String) (record : GateRecord μ) : InMemoryGateApi μ :=
  { api with records := api.records.set gateRef record }

def createGate (request : GateRequest μ) : Except GateError (GateRecord μ) × InMemoryGateApi μ :=
  if request.timeoutSeconds ≤ 0 then (.error (.valueError "timeout_seconds must be > 0"), api)
  else if (api.records.get? request.context.gateRef).isSome then
    (.error (.valueError ("gate " ++ request.context.gateRef ++ " already exists")), api)
  else
    let record := request.record request.ctx.projectId
    (.ok record, api.put record.context.gateRef record)

def values : List (GateRecord μ) := api.records.rows.map Prod.snd

/-- The pending gates of a tenant, or of all of them, in the order of their insertion. -/
def waiting (tenantId : Option String) : List (GateRecord μ) :=
  api.values.filter fun record =>
    record.status == .pending && tenantId.all (record.context.tenantId == ·)

def pending (tenantId : Option String) : List (GateRecord μ) :=
  (api.waiting tenantId).insertionSort GateRecord.ListedBefore

def listPending (posture : Except String Posture) (tenantId : Option String)
    (internalUnscoped : Bool) : Except GateError (List (GateRecord μ)) :=
  match tenantId with
  | none =>
    (checkUnscopedRead posture env.repr "list_pending" none internalUnscoped).map fun _ =>
      api.pending none
  | some tenantId => .ok (api.pending (some tenantId))

def getGate (posture : Except String Posture) (gateRef : String) (tenantId : Option String)
    (internalUnscoped : Bool) : Except GateError (GateRecord μ) :=
  let normalized := Text.strip gateRef
  if normalized = "" then .error (.valueError "gate_ref must be a non-empty string")
  else
    (if tenantId.isNone then
      checkUnscopedRead posture env.repr "get_gate" (some normalized) internalUnscoped
    else .ok ()).bind fun _ =>
      match api.records.get? normalized with
      | none => .error (.valueError ("gate " ++ normalized ++ " not found"))
      | some record =>
        if tenantId.all (record.context.tenantId == ·) then .ok record
        else .error (.valueError ("gate " ++ normalized ++ " not found"))

/-- The checks of `resolve` on its own arguments: the approver and the action. -/
def checkResolution (resolution : GateResolution) : Except GateError (String × GateAction) :=
  let approver := Text.strip resolution.approver
  if approver = "" then .error (.valueError "approver must be a non-empty string")
  else
    match GateAction.ofText (env.lower (Text.strip resolution.action)) with
    | none => .error (.valueError
        "action must be one of ['approve', 'backtrack', 'reject', 'remediate']")
    | some action => .ok (approver, action)

/-- The record after its resolution. -/
def resolved (record : GateRecord μ) (resolution : GateResolution) (approver : String)
    (action : GateAction) (now : Int) : GateRecord μ :=
  { record with
    status := action.targetStatus
    resolutionBy := some approver
    resolutionComment := stripped resolution.comment
    resolutionReason := stripped resolution.reason
    resolvedAt := some now }

/-- `resolve`, on the record that it has found. -/
def judge (record : GateRecord μ) (resolution : GateResolution) (approver : String)
    (action : GateAction) (now : Int) : Except GateError (GateRecord μ) :=
  if record.status ≠ .pending then
    .error (.valueError ("gate " ++ record.context.gateRef ++ " already resolved as " ++
      record.status.value))
  else if api.enforceSoc && action == .approve && approver == record.context.submitter then
    .error (.permissionError "submitter cannot approve gate when SoC is enforced")
  else .ok (resolved record resolution approver action now)

def resolve (resolution : GateResolution) (now : Int) :
    Except GateError (GateRecord μ) × InMemoryGateApi μ :=
  match checkResolution env resolution with
  | .error error => (.error error, api)
  | .ok (approver, action) =>
    match (api.getGate env (.ok .dev) resolution.gateRef none true).bind fun record =>
        api.judge record resolution approver action now with
    | .error error => (.error error, api)
    | .ok record => (.ok record, api.put record.context.gateRef record)

/-- The loop of `apply_timeouts` over the gates that are pending, from the reading of
the clock with number `reading` on. No other call writes a record in between. -/
def sweep (clock : Nat → Int) : Nat → List (GateRecord μ) → InMemoryGateApi μ →
    List (GateRecord μ) → Except GateError (List (GateRecord μ)) × InMemoryGateApi μ
  | _, [], api, changed => (.ok changed, api)
  | reading, record :: rest, api, changed =>
    match record.expire (clock reading) with
    | .error error => (.error error, api)
    | .ok none => sweep clock (reading + 1) rest api changed
    | .ok (some updated) =>
      sweep clock (reading + 1) rest (api.put record.context.gateRef updated)
        (changed ++ [updated])

def applyTimeouts (clock : Nat → Int) :
    Except GateError (List (GateRecord μ)) × InMemoryGateApi μ :=
  sweep clock 0 (api.pending none) api []

/-! ## What the operations do -/

variable {env api} {posture : Except String Posture} {record : GateRecord μ}

theorem of_getGate {gateRef : String} {tenantId : Option String} {internalUnscoped : Bool}
    (h : api.getGate env posture gateRef tenantId internalUnscoped = .ok record) :
    Text.strip gateRef ≠ "" ∧ api.records.get? (Text.strip gateRef) = some record := by
  unfold getGate at h
  dsimp only at h
  split at h
  · cases h
  · rename_i hne
    obtain ⟨-, -, hfound⟩ := bind_eq_ok_iff.mp h
    split at hfound
    · cases hfound
    · rename_i found hget
      split at hfound
      · rw [hget, Except.ok.inj hfound]
        exact ⟨hne, rfl⟩
      · cases hfound

theorem getGate_of_stored {gateRef : String} (hne : Text.strip gateRef ≠ "")
    (hget : api.records.get? (Text.strip gateRef) = some record) :
    api.getGate env posture gateRef none true = .ok record := by
  unfold getGate
  dsimp only
  rw [if_neg hne, hget]
  rfl

theorem raises_getGate (gateRef : String) :
    RaisesValueError (api.getGate env posture gateRef none true) := by
  intro error h
  unfold getGate at h
  dsimp only at h
  split at h
  · rw [← Except.error.inj h]
    rfl
  · have hchecked : checkUnscopedRead posture env.repr "get_gate"
        (some (Text.strip gateRef)) true = .ok () := rfl
    rw [if_pos Option.isNone_none, hchecked] at h
    simp only [Except.bind] at h
    split at h
    · rw [← Except.error.inj h]
      rfl
    · cases h

theorem raises_checkResolution (env : GateEnv μ) (resolution : GateResolution) :
    RaisesValueError (checkResolution env resolution) := by
  intro error h
  unfold checkResolution at h
  dsimp only at h
  split at h
  · rw [← Except.error.inj h]
    rfl
  · split at h
    · rw [← Except.error.inj h]
      rfl
    · cases h

theorem approver_of_check {env : GateEnv μ} {resolution : GateResolution} {approver : String}
    {action : GateAction} (h : checkResolution env resolution = .ok (approver, action)) :
    approver = Text.strip resolution.approver := by
  unfold checkResolution at h
  dsimp only at h
  split at h
  · cases h
  · split at h
    · cases h
    · exact (congrArg Prod.fst (Except.ok.inj h)).symm

theorem of_resolve {resolution : GateResolution} {now : Int}
    (h : (api.resolve env resolution now).1 = .ok record) :
    ∃ approver action old, checkResolution env resolution = .ok (approver, action) ∧
      Text.strip resolution.gateRef ≠ "" ∧
        api.records.get? (Text.strip resolution.gateRef) = some old ∧ old.status = .pending ∧
          record = resolved old resolution approver action now := by
  unfold resolve at h
  cases hcheck : checkResolution env resolution with
  | error error =>
    rw [hcheck] at h
    cases h
  | ok checked =>
    obtain ⟨approver, action⟩ := checked
    simp only [hcheck] at h
    split at h
    · cases h
    · rename_i found hjudge
      obtain ⟨old, hold, hjudged⟩ := bind_eq_ok_iff.mp hjudge
      obtain ⟨hne, hget⟩ := of_getGate hold
      unfold judge at hjudged
      split at hjudged
      · cases hjudged
      · rename_i hpending
        split at hjudged
        · cases hjudged
        · exact ⟨approver, action, old, rfl, hne, hget, not_not.mp hpending,
            (Except.ok.inj h).symm.trans (Except.ok.inj hjudged).symm⟩

section Resolve

variable {resolution : GateResolution} {approver : String} {action : GateAction}

theorem resolve_of_pending (hcheck : checkResolution env resolution = .ok (approver, action))
    (hne : Text.strip resolution.gateRef ≠ "") {old : GateRecord μ}
    (hget : api.records.get? (Text.strip resolution.gateRef) = some old)
    (hpending : old.status = .pending)
    (hsoc : api.enforceSoc = true → action = .approve → approver ≠ old.context.submitter)
    (now : Int) : api.resolve env resolution now =
      (.ok (resolved old resolution approver action now),
        api.put old.context.gateRef (resolved old resolution approver action now)) := by
  have hjudge : api.judge old resolution approver action now =
      .ok (resolved old resolution approver action now) := by
    rw [judge, if_neg (not_not.mpr hpending), if_neg]
    simp only [Bool.and_eq_true, beq_iff_eq, not_and, and_imp]
    exact hsoc
  unfold resolve
  simp only [hcheck]
  rw [getGate_of_stored hne hget]
  simp only [Except.bind, hjudge]
  rfl

theorem raises_resolve {now : Int}
    (hsoc : ∀ approver action old, checkResolution env resolution = .ok (approver, action) →
      Text.strip resolution.gateRef ≠ "" →
        api.records.get? (Text.strip resolution.gateRef) = some old → old.status = .pending →
          api.enforceSoc = true → action = .approve → approver ≠ old.context.submitter) :
    RaisesValueError (api.resolve env resolution now).1 := by
  intro error h
  unfold resolve at h
  cases hcheck : checkResolution env resolution with
  | error raised =>
    simp only [hcheck] at h
    exact raises_checkResolution env resolution error (Except.error.inj h ▸ hcheck)
  | ok checked =>
    obtain ⟨approver, action⟩ := checked
    simp only [hcheck] at h
    split at h
    · rename_i raised hraised
      obtain rfl := Except.error.inj h
      cases hget : api.getGate env (.ok .dev) resolution.gateRef none true with
      | error raised' =>
        rw [hget] at hraised
        obtain rfl := Except.error.inj hraised
        exact raises_getGate resolution.gateRef raised' hget
      | ok old =>
        obtain ⟨hne, hstored⟩ := of_getGate hget
        rw [hget] at hraised
        have hraised : api.judge old resolution approver action now = .error raised := hraised
        rw [judge] at hraised
        split at hraised
        · rw [← Except.error.inj hraised]
          rfl
        · rename_i hpending
          rw [if_neg] at hraised
          · cases hraised
          · simp only [Bool.and_eq_true, beq_iff_eq, not_and, and_imp]
            exact hsoc approver action old hcheck hne hstored (not_not.mp hpending)
    · cases h

theorem resolve_snd_of_error {now : Int} {error : GateError}
    (h : (api.resolve env resolution now).1 = .error error) :
    (api.resolve env resolution now).2 = api := by
  unfold resolve at h ⊢
  cases hcheck : checkResolution env resolution with
  | error raised => simp only
  | ok checked =>
    obtain ⟨approver, action⟩ := checked
    simp only [hcheck] at h ⊢
    split at h
    · rfl
    · cases h

end Resolve

theorem sweep_fst (clock : Nat → Int) (reading : Nat) (records changed : List (GateRecord μ))
    (api : InMemoryGateApi μ) : (sweep clock reading records api changed).1 =
      (GateRecord.expireAll clock reading records).map (changed ++ ·) := by
  induction records generalizing reading api changed with
  | nil => rw [sweep, GateRecord.expireAll, Except.map, append_nil]
  | cons record rest ih =>
    rw [sweep, GateRecord.expireAll]
    cases record.expire (clock reading) with
    | error error => rfl
    | ok updated =>
      cases updated with
      | none =>
        dsimp only
        rw [ih]
        cases GateRecord.expireAll clock (reading + 1) rest <;> rfl
      | some updated =>
        dsimp only
        rw [ih]
        cases GateRecord.expireAll clock (reading + 1) rest with
        | error error => rfl
        | ok updates => exact congrArg Except.ok (append_assoc changed [updated] updates)

theorem sweep_snd {clock : Nat → Int} {reading : Nat} {records updates : List (GateRecord μ)}
    (h : GateRecord.expireAll clock reading records = .ok updates) (api : InMemoryGateApi μ)
    (changed : List (GateRecord μ)) : (sweep clock reading records api changed).2 =
      updates.foldl (fun api record => api.put record.context.gateRef record) api := by
  induction records generalizing reading api changed updates with
  | nil =>
    obtain rfl := Except.ok.inj h
    rfl
  | cons record rest ih =>
    obtain ⟨updated, hexpire, hrest⟩ := bind_eq_ok_iff.mp h
    obtain ⟨others, hothers, rfl⟩ := map_eq_ok_iff.mp hrest
    rw [sweep, hexpire]
    cases updated with
    | none => exact ih hothers api changed
    | some updated =>
      obtain ⟨outcome, rfl⟩ := GateRecord.of_expire hexpire
      have hrecord := ih hothers (api.put record.context.gateRef (record.timedOut outcome))
        (changed ++ [record.timedOut outcome])
      rw [Option.toList_some, singleton_append, foldl_cons, GateRecord.context_timedOut]
      exact hrecord

theorem sweep_snd_of_error {clock : Nat → Int} {reading : Nat} {records : List (GateRecord μ)}
    (hunbroken : GateRecord.Unbroken clock reading records) {error : GateError}
    (h : GateRecord.expireAll clock reading records = .error error) (api : InMemoryGateApi μ)
    (changed : List (GateRecord μ)) : (sweep clock reading records api changed).2 = api := by
  induction records generalizing reading with
  | nil => cases h
  | cons record rest ih =>
    rw [GateRecord.Unbroken] at hunbroken
    rw [GateRecord.expireAll] at h
    rw [sweep]
    split at hunbroken
    · rfl
    · rename_i hnone
      rw [hnone] at h
      refine ih hunbroken ?_
      cases hrest : GateRecord.expireAll clock (reading + 1) rest with
      | error raised =>
        rw [hrest] at h
        exact h
      | ok updates =>
        rw [hrest] at h
        cases h
    · rename_i updated hupdated
      obtain ⟨updates, hrest⟩ := GateRecord.succeeds_expireAll hunbroken
      rw [hupdated, hrest] at h
      cases h

end InMemoryGateApi

end HiAgent.Management
