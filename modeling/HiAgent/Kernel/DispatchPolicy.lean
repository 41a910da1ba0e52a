/-
  Kernel/DispatchPolicy.lean --- what `agent_kernel/kernel/turn_engine.py` derives
  from an action before it is dispatched.

  The host and whether a remote contract lets it (`_resolve_dispatch_policy`,
  `remote_service_policy.py`), the keys (`_build_turn_identity`, `idempotency_key_policy.py`) and
  the envelope (`_resolve_idempotency_envelope`), and `StaticDispatchAdmissionService` of
  `agent_kernel/kernel/minimal_runtime.py`.
-/
import HiAgent.Kernel.DedupeStore

namespace HiAgent.Kernel

open Foundation

/-! ## Actions -/

inductive EffectClass where
  | readOnly
  | idempotentWrite
  | compensatableWrite
  | irreversibleWrite
  deriving DecidableEq

/-- The text of an effect class. -/
def EffectClass.value : EffectClass → String
  | readOnly => "read_only"
  | idempotentWrite => "idempotent_write"
  | compensatableWrite => "compensatable_write"
  | irreversibleWrite => "irreversible_write"

inductive ExternalIdempotencyLevel where
  | guaranteed
  | bestEffort
  | unknown
  deriving DecidableEq

/-- `Action`, as far as a turn reads it. -/
structure Action where
  actionId : String
  actionType : String
  effectClass : EffectClass
  externalIdempotencyLevel : Option ExternalIdempotencyLevel
  inputJson : Option PyDict
  policyTags : List String

/-- `TurnInput`, without the history that only a reasoning loop reads. -/
structure TurnInput where
  runId : String
  throughOffset : Int
  basedOnOffset : Int
  triggerType : String

/-! ## Hosts -/

variable (lower : Text.StrLower)

def normalizeHostKind : PyValue → Option HostKind
  | .str value =>
    let normalized := lower.apply (Text.strip value)
    if normalized = "local_cli" then some .localCli
    else if normalized = "local_process" then some .localProcess
    else if normalized = "remote_service" then some .remoteService
    else if normalized = "cli_process" then some .cliProcess
    else if normalized = "in_process_python" then some .inProcessPython
    else none
  | _ => none

/-- What follows `lead` in a text that starts with it. -/
def textAfter (lead text : String) : Option String :=
  if lead.toList.isPrefixOf text.toList then
    some (String.ofList (text.toList.drop lead.toList.length))
  else none

def extractHostKindFromPolicyTags (policyTags : List String) : Option HostKind :=
  policyTags.findSome? fun tag =>
    ["host:", "host_kind:", "dispatch_host:", "dispatch_host_kind:"].findSome?
      fun lead => (textAfter lead (lower.apply (Text.strip tag))).bind
        fun value => normalizeHostKind lower (.str value)

def hostKindField (payload : PyDict) : Option HostKind :=
  ["host_kind", "dispatch_host_kind", "host", "dispatch_host"].findSome?
    fun key => normalizeHostKind lower (payload.get key .none)

def extractHostKindFromPayload (payload : PyDict) : Option HostKind :=
  (hostKindField lower payload).or <|
    match payload.get "dispatch" .none with
    | .dict dispatch => hostKindField lower dispatch
    | _ => none

def resolveDispatchHostKind (action : Action) : HostKind :=
  let explicit := (extractHostKindFromPolicyTags lower action.policyTags).or
    (extractHostKindFromPayload lower (action.inputJson.getD []))
  match explicit with
  | some hostKind => hostKind
  | none =>
    if action.effectClass ≠ .readOnly ∧ action.externalIdempotencyLevel.isSome then
      .remoteService
    else .localCli

/-! ## Remote contracts -/

/-- `RemoteServiceIdempotencyContract`; the retry model of the peer decides
nothing here. -/
structure RemoteServiceIdempotencyContract where
  acceptsDispatchIdempotencyKey : Bool
  returnsStableAck : Bool
  peerRetryModel : String
  defaultRetryPolicy : String

def parseRemoteServiceContract (payload : PyValue) : Option RemoteServiceIdempotencyContract :=
  match payload with
  | .dict fields =>
    match PyDict.get fields "accepts_dispatch_idempotency_key" .none,
        PyDict.get fields "returns_stable_ack" .none,
        PyDict.get fields "peer_retry_model" .none,
        PyDict.get fields "default_retry_policy" .none with
    | .bool accepts, .bool stable, .str model, .str policy =>
      if model ∈ ["unknown", "at_most_once", "at_least_once", "exactly_once_claimed"] ∧
          policy ∈ ["no_auto_retry", "bounded_retry"] then
        some ⟨accepts, stable, model, policy⟩
      else none
    | _, _, _, _ => none
  | _ => none

def extractRemoteServiceContract (inputJson : Option PyDict) :
    Option RemoteServiceIdempotencyContract :=
  inputJson.bind fun payload =>
    let candidates :=
      [payload.get "remote_service_idempotency_contract" .none,
        payload.get "remote_idempotency_contract" .none,
        payload.get "idempotency_contract" .none] ++
      match payload.get "remote_service" .none with
      | .dict remote =>
        [PyDict.get remote "idempotency_contract" .none, PyDict.get remote "contract" .none]
      | _ => []
    candidates.findSome? parseRemoteServiceContract

structure RemoteDispatchPolicyDecision where
  effectiveIdempotencyLevel : ExternalIdempotencyLevel
  defaultRetryPolicy : String
  autoRetryEnabled : Bool
  canClaimGuaranteed : Bool
  reason : String

def evaluateRemoteServicePolicy (externalLevel : Option ExternalIdempotencyLevel)
    (contract : Option RemoteServiceIdempotencyContract) :
    RemoteDispatchPolicyDecision :=
  let level := externalLevel.getD .unknown
  let capped := if level = .guaranteed then .bestEffort else level
  match contract with
  | none => {
      effectiveIdempotencyLevel := capped
      defaultRetryPolicy := "no_auto_retry"
      autoRetryEnabled := false
      canClaimGuaranteed := false
      reason := "missing_remote_idempotency_contract" }
  | some contract =>
    let claims := decide (level = .guaranteed) &&
      contract.acceptsDispatchIdempotencyKey && contract.returnsStableAck
    { effectiveIdempotencyLevel := if claims then .guaranteed else capped
      defaultRetryPolicy := contract.defaultRetryPolicy
      autoRetryEnabled := decide (contract.defaultRetryPolicy = "bounded_retry")
      canClaimGuaranteed := claims
      reason :=
        if claims then "validated_remote_contract"
        else "remote_contract_constrained" }

structure DispatchPolicy where
  hostKind : HostKind
  shouldBlock : Bool
  blockReason : Option String
  remotePolicyDecision : Option RemoteDispatchPolicyDecision

def resolveDispatchPolicy (action : Action) : DispatchPolicy :=
  let hostKind := resolveDispatchHostKind lower action
  if hostKind ≠ .remoteService ∨ action.effectClass = .readOnly then
    ⟨hostKind, false, none, none⟩
  else
    let decision := evaluateRemoteServicePolicy action.externalIdempotencyLevel
      (extractRemoteServiceContract action.inputJson)
    if action.externalIdempotencyLevel = some .guaranteed ∧ decision.canClaimGuaranteed = false then
      ⟨hostKind, true, some "idempotency_contract_insufficient", some decision⟩
    else ⟨hostKind, false, none, some decision⟩

/-! ## Keys -/

/-- What the content hash of an action is taken of. -/
structure ContentPayload where
  actionType : String
  inputJson : PyDict
  policyTags : List String
  effectClass : String
  snapshotHash : String

/-- The payload of `IdempotencyKeyPolicy._content_hash`. -/
def contentPayload (action : Action) (snapshotHash : String) : ContentPayload where
  actionType := action.actionType
  inputJson := action.inputJson.getD []
  policyTags := action.policyTags
  effectClass := action.effectClass.value
  snapshotHash := snapshotHash

/-- `IdempotencyKeyPolicy.generate`, in the namespace of dispatches, for the
content hash of the action. -/
def dispatchKey (runId actionId contentHash : String) : String :=
  "dispatch:" ++ runId ++ ":" ++ actionId ++ ":" ++ contentHash

def legacyDispatchDedupeKey (runId actionId : String) (basedOnOffset : Int) : String :=
  runId ++ ":" ++ actionId ++ ":" ++ toString basedOnOffset

structure TurnIdentity where
  decisionRef : String
  decisionFingerprint : String
  intentCommitRef : String
  dispatchDedupeKey : String

/-- `_build_turn_identity`; without a content hash the key is the legacy one. -/
def buildTurnIdentity (input : TurnInput) (action : Action)
    (contentHash : Option String) : TurnIdentity where
  decisionRef := "decision:" ++ input.runId ++ ":" ++ toString input.basedOnOffset
  decisionFingerprint :=
    input.runId ++ ":" ++ input.triggerType ++ ":" ++ action.actionId ++ ":" ++
      toString input.basedOnOffset
  intentCommitRef :=
    "intent:" ++ action.actionId ++ ":" ++ toString input.throughOffset
  dispatchDedupeKey :=
    match contentHash with
    | some hash => dispatchKey input.runId action.actionId hash
    | none =>
      legacyDispatchDedupeKey input.runId action.actionId input.basedOnOffset

/-! ## Envelopes -/

/-- What an admission result carries under `idempotency_envelope`. -/
inductive EnvelopePayload where
  | envelope (value : IdempotencyEnvelope)
  | value (payload : PyValue)

def readOptionalString (payload : PyDict) (key : String) : Option String :=
  match payload.get key .none with
  | .str value =>
    let normalized := Text.strip value
    if normalized = "" then none else some normalized
  | _ => none

/-- The number an `isinstance(value, int)` lets through: a `bool` is one. -/
def intValue : PyValue → Option Int
  | .int value => some value
  | .bool value => some (if value then 1 else 0)
  | _ => none

def textValue : PyValue → Option String
  | .str value => if value = "" then none else some value
  | _ => none

/-- `_parse_idempotency_envelope`; `str_` is `str()` of a snapshot hash that the
payload carries. -/
def parseIdempotencyEnvelope (str_ : PyValue → String) (payload : EnvelopePayload)
    (capabilitySnapshotHash : String) : Option IdempotencyEnvelope :=
  match payload with
  | .envelope value => some value
  | .value (.dict fields) =>
    match textValue (PyDict.get fields "dispatch_idempotency_key" .none),
        textValue (PyDict.get fields "operation_fingerprint" .none),
        intValue (PyDict.get fields "attempt_seq" .none),
        textValue (PyDict.get fields "effect_scope" .none),
        normalizeHostKind lower (PyDict.get fields "host_kind" .none) with
    | some key, some fingerprint, some attemptSeq, some effectScope, some hostKind =>
        if attemptSeq ≤ 0 then none
        else some {
          dispatchIdempotencyKey := key
          operationFingerprint := fingerprint
          attemptSeq := attemptSeq
          effectScope := effectScope
          capabilitySnapshotHash := str_
            (PyDict.get fields "capability_snapshot_hash" (.str capabilitySnapshotHash))
          hostKind := hostKind
          peerOperationId := readOptionalString fields "peer_operation_id"
          policySnapshotRef := readOptionalString fields "policy_snapshot_ref"
          ruleBundleHash := readOptionalString fields "rule_bundle_hash" }
    | _, _, _, _, _ => none
  | _ => none

/-- `_resolve_idempotency_envelope`: the key and the fingerprint are those of the
turn whatever the admission result carries. -/
def resolveIdempotencyEnvelope (parsed : Option IdempotencyEnvelope)
    (identity : TurnIdentity) (action : Action) (snapshotHash : String)
    (hostKind : HostKind) : IdempotencyEnvelope :=
  match parsed with
  | some envelope =>
    { envelope with
      dispatchIdempotencyKey := identity.dispatchDedupeKey
      operationFingerprint := identity.decisionFingerprint }
  | none => {
      dispatchIdempotencyKey := identity.dispatchDedupeKey
      operationFingerprint := identity.decisionFingerprint
      attemptSeq := 1
      effectScope := action.effectClass.value
      capabilitySnapshotHash := snapshotHash
      hostKind := hostKind
      peerOperationId := none
      policySnapshotRef := none
      ruleBundleHash := none }

@[simp] theorem resolveIdempotencyEnvelope_key (parsed : Option IdempotencyEnvelope)
    (identity : TurnIdentity) (action : Action) (snapshotHash : String) (hostKind : HostKind) :
    (resolveIdempotencyEnvelope parsed identity action snapshotHash
      hostKind).dispatchIdempotencyKey = identity.dispatchDedupeKey := by
  cases parsed <;> rfl

open List

/-- The text of a host kind. -/
def HostKind.value : HostKind → String
  | localProcess => "local_process"
  | localCli => "local_cli"
  | cliProcess => "cli_process"
  | inProcessPython => "in_process_python"
  | remoteService => "remote_service"

/-- `Action`, as far as admission reads it. -/
structure AdmissionRequest extends Action where
  runId : String
  timeoutMs : Option Int

structure SandboxGrant where
  grantRef : String
  hostKind : HostKind
  sandboxProfileRef : String
  allowedMounts : List String
  deniedMounts : List String
  networkPolicy : String
  allowedHosts : List String

/-- `AdmissionResult`, without the fields that are never set. -/
structure AdmissionResult where
  admitted : Bool
  reasonCode : String
  grantRef : Option String := none
  sandboxGrant : Option SandboxGrant := none
  idempotencyEnvelope : Option PyDict := none

namespace StaticDispatchAdmissionService

/-- `_normalize_host_kind`, which knows three of the kinds. -/
def normalizeHostKind (value : PyValue) : Option HostKind :=
  (Kernel.normalizeHostKind lower value).filter fun hostKind =>
    decide (hostKind ∈ [HostKind.localCli, .localProcess, .remoteService])

def extractHostKindFromPolicyTags (policyTags : List String) : Option HostKind :=
  policyTags.findSome? fun tag =>
    ["host:", "host_kind:", "dispatch_host:", "dispatch_host_kind:"].findSome?
      fun lead => (textAfter lead (lower.apply (Text.strip tag))).bind
        fun value => normalizeHostKind lower (.str value)

def hostKindField (payload : PyDict) : Option HostKind :=
  ["host_kind", "dispatch_host_kind", "host", "dispatch_host"].findSome?
    fun key => normalizeHostKind lower (payload.get key .none)

def extractHostKindFromPayload (payload : PyDict) : Option HostKind :=
  (hostKindField lower payload).or <|
    match payload.get "dispatch" .none with
    | .dict dispatch => hostKindField lower dispatch
    | _ => none

def defaultHostKind (action : Action) : HostKind :=
  if action.effectClass ≠ .readOnly ∧ action.externalIdempotencyLevel.isSome then .remoteService
  else .localCli

def resolveDispatchHostKind (action : Action) : HostKind :=
  ((extractHostKindFromPolicyTags lower action.policyTags).or
    (extractHostKindFromPayload lower (action.inputJson.getD []))).getD (defaultHostKind action)

def requiresRemoteIdempotencyContractBlock (action : Action) : Bool :=
  decide (action.effectClass ≠ .readOnly) &&
    decide (action.externalIdempotencyLevel = some .guaranteed) &&
    decide (resolveDispatchHostKind lower action = .remoteService) &&
    !(evaluateRemoteServicePolicy action.externalIdempotencyLevel
      (extractRemoteServiceContract action.inputJson)).canClaimGuaranteed

def extractMaxCostFromPolicyTags (float : String → Option PyFloat) (policyTags : List String) :
    Option Rat :=
  policyTags.findSome? fun tag =>
    (textAfter "max_cost:" tag).bind fun rawValue =>
      (float (Text.strip rawValue)).bind PyFloat.value

def extractEstimatedCost (inputJson : Option PyDict) : Option Rat :=
  inputJson.bind fun payload =>
    match payload.get "estimated_cost" .none with
    | .int value => some value
    | .float value => value.value
    | _ => none

/-- `_evaluate_action_policy_denies`: the reason code. -/
def evaluateActionPolicyDenies (float : String → Option PyFloat) (action : AdmissionRequest) :
    Option String :=
  if "requires_human_review" ∈ action.policyTags then some "policy_denied"
  else if action.timeoutMs.any fun timeoutMs => decide (0 < timeoutMs ∧ 300000 < timeoutMs) then
    some "policy_denied"
  else if (extractMaxCostFromPolicyTags float action.policyTags).any fun maxCost =>
      (extractEstimatedCost action.inputJson).any fun estimatedCost =>
        decide (maxCost < estimatedCost) then some "quota_exceeded"
  else if requiresRemoteIdempotencyContractBlock lower action.toAction then
    some "idempotency_contract_insufficient"
  else none

/-- The tags `_resolve_sandbox_host_kind` looks for, in its order. -/
def sandboxTags : List (String × HostKind) :=
  [("host:local_process", .localProcess), ("host:local_cli", .localCli),
    ("host:remote_service", .remoteService), ("host_kind:local_process", .localProcess),
    ("host_kind:local_cli", .localCli), ("host_kind:remote_service", .remoteService)]

def normalizedTags (policyTags : List String) : List String :=
  policyTags.map fun tag => lower.apply (Text.strip tag)

def resolveSandboxHostKind (action : Action) : HostKind :=
  match sandboxTags.find? fun tag => decide (tag.1 ∈ normalizedTags lower action.policyTags) with
  | some tag => tag.2
  | none => defaultHostKind action

def buildAdmittedResult (action : AdmissionRequest) : AdmissionResult :=
  let hostKind := resolveSandboxHostKind lower action.toAction
  let grantRef := "grant:" ++ action.actionId
  { admitted := true
    reasonCode := "ok"
    grantRef := some grantRef
    sandboxGrant := some {
      grantRef := grantRef
      hostKind := hostKind
      sandboxProfileRef := "sandbox:" ++ hostKind.value ++ ":default"
      allowedMounts := ["workspace:/"]
      deniedMounts := []
      networkPolicy := if hostKind ≠ .remoteService then "deny_all" else "allow_list"
      allowedHosts := [] }
    idempotencyEnvelope := some
      [("dispatch_idempotency_key", .str ("dispatch:" ++ action.runId ++ ":" ++ action.actionId)),
        ("operation_fingerprint", .str (action.runId ++ ":" ++ action.actionId)),
        ("attempt_seq", .int 1), ("effect_scope", .str action.effectClass.value),
        ("host_kind", .str hostKind.value)] }

/-- `admit` of the service. -/
def admitAction (float : String → Option PyFloat) (action : AdmissionRequest) : AdmissionResult :=
  match evaluateActionPolicyDenies lower float action with
  | some reasonCode => { admitted := false, reasonCode := reasonCode }
  | none => buildAdmittedResult lower action

/-! ## One host kind -/

variable (float : String → Option PyFloat) (request : AdmissionRequest) (action : Action)

/-- The grant and the envelope name the host that a turn dispatches to. -/
def OneHostKind : Prop :=
  ∃ grant envelope, (admitAction lower float request).sandboxGrant = some grant ∧
    (admitAction lower float request).idempotencyEnvelope = some envelope ∧
    grant.hostKind = (resolveDispatchPolicy lower request.toAction).hostKind ∧
    envelope.get "host_kind" .none = .str
      (resolveDispatchPolicy lower request.toAction).hostKind.value

def FirstTagNames (hostKind : HostKind) : Prop :=
  ∃ before tag after, action.policyTags = before ++ tag :: after ∧
    Kernel.extractHostKindFromPolicyTags lower [tag] = some hostKind ∧
    ∀ other ∈ before, Kernel.extractHostKindFromPolicyTags lower [other] = none

/-- The first of the tags of the sandbox that the action has is one for this host. -/
def SandboxTagNames (hostKind : HostKind) : Prop :=
  ∃ before tag after, sandboxTags = before ++ (tag, hostKind) :: after ∧
    tag ∈ normalizedTags lower action.policyTags ∧
    ∀ other ∈ before, other.1 ∉ normalizedTags lower action.policyTags

/-- What names a host to a turn names the one of the sandbox: the first tag, where the
action has a tag of the sandbox, else the tags or the payload, if they name one. -/
def HostsAgree : Prop :=
  (∃ hostKind, SandboxTagNames lower action hostKind ∧ FirstTagNames lower action hostKind) ∨
  (∀ tag ∈ sandboxTags, tag.1 ∉ normalizedTags lower action.policyTags) ∧
    (∀ hostKind, FirstTagNames lower action hostKind → hostKind = defaultHostKind action) ∧
    ((∀ tag ∈ action.policyTags, Kernel.extractHostKindFromPolicyTags lower [tag] = none) →
      ∀ hostKind, Kernel.extractHostKindFromPayload lower (action.inputJson.getD []) =
        some hostKind → hostKind = defaultHostKind action)

variable {lower float request action}

theorem hostKind_resolveDispatchPolicy (lower : Text.StrLower) (action : Action) :
    (resolveDispatchPolicy lower action).hostKind =
      Kernel.resolveDispatchHostKind lower action := by
  rw [resolveDispatchPolicy]
  dsimp only
  split
  · rfl
  · split <;> rfl

theorem resolveDispatchHostKind_eq (lower : Text.StrLower) (action : Action) :
    Kernel.resolveDispatchHostKind lower action =
      ((Kernel.extractHostKindFromPolicyTags lower action.policyTags).or
        (Kernel.extractHostKindFromPayload lower (action.inputJson.getD []))).getD
          (defaultHostKind action) := by
  rw [Kernel.resolveDispatchHostKind]
  split
  · rename_i hostKind hexplicit
    rw [hexplicit, Option.getD_some]
  · rename_i hnone
    rw [hnone, Option.getD_none, defaultHostKind]

theorem extractHostKindFromPolicyTags_singleton (tag : String) :
    Kernel.extractHostKindFromPolicyTags lower [tag] =
      ["host:", "host_kind:", "dispatch_host:", "dispatch_host_kind:"].findSome?
        fun lead => (textAfter lead (lower.apply (Text.strip tag))).bind
          fun value => Kernel.normalizeHostKind lower (.str value) := by
  rw [Kernel.extractHostKindFromPolicyTags, findSome?_cons]
  split
  · rename_i hfound
    exact hfound.symm
  · rename_i hnone
    rw [hnone]
    rfl

theorem firstTagNames_iff {hostKind : HostKind} : FirstTagNames lower action hostKind ↔
      Kernel.extractHostKindFromPolicyTags lower action.policyTags = some hostKind := by
  simp only [FirstTagNames, extractHostKindFromPolicyTags_singleton]
  rw [Kernel.extractHostKindFromPolicyTags, findSome?_eq_some_iff]

theorem noTagNames_iff :
    (∀ tag ∈ action.policyTags, Kernel.extractHostKindFromPolicyTags lower [tag] = none) ↔
      Kernel.extractHostKindFromPolicyTags lower action.policyTags = none := by
  simp only [extractHostKindFromPolicyTags_singleton]
  rw [Kernel.extractHostKindFromPolicyTags, findSome?_eq_none_iff]

theorem sandboxTagNames_iff {hostKind : HostKind} :
    SandboxTagNames lower action hostKind ↔ ∃ tag, sandboxTags.find?
      (fun tag => decide (tag.1 ∈ normalizedTags lower action.policyTags)) =
        some (tag, hostKind) := by
  constructor
  · rintro ⟨before, tag, after, hsplit, hmem, hbefore⟩
    refine ⟨tag, find?_eq_some_iff_append.mpr ⟨by simpa using hmem, before, after, hsplit, ?_⟩⟩
    intro other hother
    simpa using hbefore other hother
  · rintro ⟨tag, hfind⟩
    obtain ⟨hmem, before, after, hsplit, hbefore⟩ := find?_eq_some_iff_append.mp hfind
    refine ⟨before, tag, after, hsplit, by simpa using hmem, fun other hother => ?_⟩
    simpa using hbefore other hother

theorem exists_firstTagNames {tag : String × HostKind} (htag : tag ∈ sandboxTags)
    (hmem : tag.1 ∈ normalizedTags lower action.policyTags) :
    ∃ hostKind, FirstTagNames lower action hostKind := by
  have hvalues : ∀ tag ∈ sandboxTags, ∃ lead ∈ ["host:", "host_kind:", "dispatch_host:",
      "dispatch_host_kind:"], (textAfter lead tag.1).any fun value =>
        (Text.strip value).toList.all (·.toNat < 128) &&
          (Kernel.normalizeHostKind .ascii (.str value)).isSome := by decide +kernel
  have hsome : (["host:", "host_kind:", "dispatch_host:",
      "dispatch_host_kind:"].findSome? fun lead => (textAfter lead tag.1).bind
        fun value => Kernel.normalizeHostKind lower (.str value)).isSome = true := by
    obtain ⟨lead, hlead, hvalue⟩ := hvalues tag htag
    obtain ⟨value, hafter, hnamed⟩ := (Option.any_eq_true _ _).mp hvalue
    rw [Bool.and_eq_true] at hnamed
    -- The value is lowered a second time, which a text in ASCII survives.
    have hsame : Kernel.normalizeHostKind lower (.str value) =
        Kernel.normalizeHostKind .ascii (.str value) := by
      rw [Kernel.normalizeHostKind, lower.apply_ascii _ hnamed.1]
      rfl
    exact findSome?_isSome_iff.mpr ⟨lead, hlead, by rw [hafter, Option.bind_some, hsame, hnamed.2]⟩
  obtain ⟨policyTag, hpolicyTag, hnormalized⟩ := mem_map.mp hmem
  rw [← hnormalized, ← extractHostKindFromPolicyTags_singleton] at hsome
  simp only [firstTagNames_iff]
  rw [← Option.ne_none_iff_exists']
  intro hnone
  rw [noTagNames_iff.mpr hnone policyTag hpolicyTag] at hsome
  cases hsome

theorem hosts_eq_iff (lower : Text.StrLower) (action : Action) :
    resolveSandboxHostKind lower action = Kernel.resolveDispatchHostKind lower action ↔
      HostsAgree lower action := by
  rw [resolveDispatchHostKind_eq, resolveSandboxHostKind]
  split
  · rename_i tag hfind
    obtain ⟨tag, hostKind⟩ := tag
    have hmem : tag ∈ normalizedTags lower action.policyTags := by simpa using find?_some hfind
    obtain ⟨named, hnamed⟩ := exists_firstTagNames (mem_of_find?_eq_some hfind) hmem
    have hsandbox : ∀ other, SandboxTagNames lower action other ↔ hostKind = other := by
      intro other
      rw [sandboxTagNames_iff, hfind]
      simp
    have hfirst := firstTagNames_iff.mp hnamed
    rw [hfirst, Option.some_or, Option.getD_some]
    constructor
    · intro heq
      obtain rfl : hostKind = named := heq
      exact .inl ⟨hostKind, (hsandbox hostKind).mpr rfl, hnamed⟩
    · rintro (⟨other, hother, hfirstOther⟩ | ⟨hnone, -⟩)
      · rw [firstTagNames_iff, hfirst] at hfirstOther
        exact ((hsandbox other).mp hother).trans (Option.some.inj hfirstOther).symm
      · exact absurd hmem (hnone _ (mem_of_find?_eq_some hfind))
  · rename_i hfind
    have hnone : ∀ tag ∈ sandboxTags, tag.1 ∉ normalizedTags lower action.policyTags := by
      simpa using find?_eq_none.mp hfind
    have hsandbox : ¬ ∃ hostKind, SandboxTagNames lower action hostKind ∧
        FirstTagNames lower action hostKind := by
      simp [sandboxTagNames_iff, hfind]
    rw [HostsAgree, or_iff_right hsandbox, and_iff_right hnone, noTagNames_iff]
    simp only [firstTagNames_iff]
    cases Kernel.extractHostKindFromPolicyTags lower action.policyTags with
    | some hostKind => simp [eq_comm]
    | none =>
      cases Kernel.extractHostKindFromPayload lower (action.inputJson.getD []) with
      | some hostKind => simp [eq_comm]
      | none => simp

/-- The grant and the envelope of an admitted action name the host it is dispatched to
exactly where its tags and its payload agree on it. -/
theorem oneHostKind_iff (lower : Text.StrLower) (float : String → Option PyFloat)
    (request : AdmissionRequest) :
    ((admitAction lower float request).admitted = true → OneHostKind lower float request) ↔
      ((admitAction lower float request).admitted = true → HostsAgree lower request.toAction) := by
  refine imp_congr_right fun hlet => ?_
  have hadmit : admitAction lower float request = buildAdmittedResult lower request := by
    rw [admitAction] at hlet ⊢
    split at hlet
    · cases hlet
    · rfl
  rw [OneHostKind, hadmit, hostKind_resolveDispatchPolicy, ← hosts_eq_iff]
  constructor
  · rintro ⟨grant, envelope, hgrant, -, hhost, -⟩
    obtain rfl := Option.some.inj hgrant
    exact hhost
  · intro heq
    exact ⟨_, _, rfl, rfl, heq, heq ▸ rfl⟩

/-- A search whose payload names a remote host. -/
def remoteSearch : AdmissionRequest where
  actionId := "a-1"
  actionType := "search"
  effectClass := .readOnly
  externalIdempotencyLevel := none
  inputJson := some [("host_kind", .str "remote_service")]
  policyTags := []
  runId := "r-1"
  timeoutMs := none

/-- It is dispatched to the remote host with a grant for a local one. -/
theorem not_oneHostKind_remoteSearch :
    ¬ ∀ (lower : Text.StrLower) (float : String → Option PyFloat) (request : AdmissionRequest),
      (admitAction lower float request).admitted = true → OneHostKind lower float request := by
  intro h
  obtain ⟨grant, _, hgrant, -, hhost, -⟩ := h .ascii (fun _ => none) remoteSearch (by decide)
  have hlocal : (admitAction .ascii (fun _ => none) remoteSearch).sandboxGrant.map
      SandboxGrant.hostKind = some .localCli := by decide
  have hremote : (resolveDispatchPolicy .ascii remoteSearch.toAction).hostKind =
      .remoteService := by
    decide
  rw [hgrant, Option.map_some, hhost, hremote] at hlocal
  cases hlocal

end StaticDispatchAdmissionService

end HiAgent.Kernel
