/-
  Kernel/CapabilitySnapshot.lean --- snapshots of capabilities, and their hash.

  `agent_kernel/kernel/capability_snapshot.py`. The hash is taken over the JSON text of
  sixteen fields, the lists among them as sorted sets of non-empty texts; the binding of
  the context is not one of the sixteen. `hashlib.sha256(...).hexdigest()` of a text is
  a parameter, and so is the clock.
-/
import HiAgent.Foundation.PyValue.Dumps
import Mathlib.Data.List.Dedup

namespace HiAgent.Kernel

open Foundation List

/-! ## Inputs and snapshots -/

structure DeclarativeBundleDigest where
  bundleRef : String
  semanticsVersion : String
  contentHash : String
  compileHash : String

structure CapabilitySnapshotInput where
  runId : String
  basedOnOffset : Int
  tenantPolicyRef : String
  permissionMode : String
  toolBindings : List String := []
  mcpBindings : List String := []
  skillBindings : List String := []
  featureFlags : List String := []
  contextBindingRef : Option String := none
  contextContentHash : Option String := none
  budgetRef : Option String := none
  quotaRef : Option String := none
  sessionMode : Option String := none
  approvalState : Option String := none
  declarativeBundleDigest : Option DeclarativeBundleDigest := none
  peerRunBindings : List String := []

structure CapabilitySnapshot where
  snapshotRef : String
  snapshotHash : String
  runId : String
  basedOnOffset : Int
  tenantPolicyRef : String
  permissionMode : String
  toolBindings : List String
  mcpBindings : List String
  skillBindings : List String
  featureFlags : List String
  contextBindingRef : Option String
  contextContentHash : Option String
  budgetRef : Option String
  quotaRef : Option String
  sessionMode : Option String
  approvalState : Option String
  declarativeBundleDigest : Option DeclarativeBundleDigest
  createdAt : String
  snapshotSchemaVersion : String
  peerRunBindings : List String

/-- What `build` raises. -/
inductive SnapshotBuildError where
  /-- `CapabilitySnapshotBuildError`. -/
  | invalid (message : String)
  | raised (error : Raised)

def currentSnapshotSchemaVersion : String := "1"

/-! ## Normal forms -/

def normalizeStringList (values : List String) : List String :=
  (values.filter (· ≠ "")).dedup.insertionSort (· ≤ ·)

/-- `None`, or a text. -/
def textOrNone : Option String → PyValue
  | none => .none
  | some text => .str text

def normalizeBundleDigest : Option DeclarativeBundleDigest → PyValue
  | none => .none
  | some digest =>
    .dict [("bundle_ref", .str digest.bundleRef),
      ("semantics_version", .str digest.semanticsVersion),
      ("content_hash", .str digest.contentHash),
      ("compile_hash", .str digest.compileHash)]

def textList (values : List String) : PyValue := .list (values.map .str)

theorem floatsPrinted_textList (values : List String) :
    PyValue.FloatsPrinted (textList values) := by
  rw [textList, PyValue.FloatsPrinted]
  induction values with
  | nil => trivial
  | cons value values ih => exact ⟨trivial, ih⟩

def buildStableSha256 (sha256 : String → String) (payload : PyDict) : Except Raised String :=
  (PyValue.dumpsAs (PyValue.layout PyValue.unicode []) true (.dict payload)).map sha256

namespace CapabilitySnapshotBuilder

def validateInput (input : CapabilitySnapshotInput) : Except SnapshotBuildError Unit :=
  if input.runId = "" then .error (.invalid "run_id is required.")
  else if input.basedOnOffset < 0 then .error (.invalid "based_on_offset must be >= 0.")
  else if input.tenantPolicyRef = "" then .error (.invalid "tenant_policy_ref is required.")
  else if input.permissionMode = "" then .error (.invalid "permission_mode is required.")
  else if input.contextBindingRef.getD "" ≠ "" ∧ input.contextContentHash.getD "" = "" then
    .error (.invalid "context_content_hash is required when context_binding_ref is set.")
  else .ok ()

def canonicalPayload (input : CapabilitySnapshotInput) : PyDict :=
  [("snapshot_schema_version", .str currentSnapshotSchemaVersion), ("run_id", .str input.runId),
    ("based_on_offset", .int input.basedOnOffset),
    ("tenant_policy_ref", .str input.tenantPolicyRef),
    ("permission_mode", .str input.permissionMode),
    ("tool_bindings", textList (normalizeStringList input.toolBindings)),
    ("mcp_bindings", textList (normalizeStringList input.mcpBindings)),
    ("skill_bindings", textList (normalizeStringList input.skillBindings)),
    ("feature_flags", textList (normalizeStringList input.featureFlags)),
    ("context_content_hash", textOrNone input.contextContentHash),
    ("budget_ref", textOrNone input.budgetRef),
    ("quota_ref", textOrNone input.quotaRef),
    ("session_mode", textOrNone input.sessionMode),
    ("approval_state", textOrNone input.approvalState),
    ("declarative_bundle_digest", normalizeBundleDigest input.declarativeBundleDigest),
    ("peer_run_bindings", textList (normalizeStringList input.peerRunBindings))]

/-- The snapshot of an input whose payload has this hash. -/
def snapshotOf (now : String) (input : CapabilitySnapshotInput) (snapshotHash : String) :
    CapabilitySnapshot where
  snapshotRef := "snapshot:" ++ input.runId ++ ":" ++ toString input.basedOnOffset ++ ":" ++
    Text.slice snapshotHash 12
  snapshotHash := snapshotHash
  runId := input.runId
  basedOnOffset := input.basedOnOffset
  tenantPolicyRef := input.tenantPolicyRef
  permissionMode := input.permissionMode
  toolBindings := normalizeStringList input.toolBindings
  mcpBindings := normalizeStringList input.mcpBindings
  skillBindings := normalizeStringList input.skillBindings
  featureFlags := normalizeStringList input.featureFlags
  contextBindingRef := input.contextBindingRef
  contextContentHash := input.contextContentHash
  budgetRef := input.budgetRef
  quotaRef := input.quotaRef
  sessionMode := input.sessionMode
  approvalState := input.approvalState
  declarativeBundleDigest := input.declarativeBundleDigest
  createdAt := now
  snapshotSchemaVersion := currentSnapshotSchemaVersion
  peerRunBindings := normalizeStringList input.peerRunBindings

def build (sha256 : String → String) (now : String) (input : CapabilitySnapshotInput) :
    Except SnapshotBuildError CapabilitySnapshot :=
  (validateInput input).bind fun _ =>
    ((buildStableSha256 sha256 (canonicalPayload input)).mapError .raised).map
      (snapshotOf now input)

end CapabilitySnapshotBuilder

/-- The input that has the normalised fields of a snapshot. -/
def CapabilitySnapshot.input (snapshot : CapabilitySnapshot) : CapabilitySnapshotInput where
  runId := snapshot.runId
  basedOnOffset := snapshot.basedOnOffset
  tenantPolicyRef := snapshot.tenantPolicyRef
  permissionMode := snapshot.permissionMode
  toolBindings := snapshot.toolBindings
  mcpBindings := snapshot.mcpBindings
  skillBindings := snapshot.skillBindings
  featureFlags := snapshot.featureFlags
  contextBindingRef := snapshot.contextBindingRef
  contextContentHash := snapshot.contextContentHash
  budgetRef := snapshot.budgetRef
  quotaRef := snapshot.quotaRef
  sessionMode := snapshot.sessionMode
  approvalState := snapshot.approvalState
  declarativeBundleDigest := snapshot.declarativeBundleDigest
  peerRunBindings := snapshot.peerRunBindings

/-! ## Lists as sets -/

section Lists

variable {values others : List String} {value : String}

@[simp] theorem mem_normalizeStringList :
    value ∈ normalizeStringList values ↔ value ∈ values ∧ value ≠ "" := by
  simp [normalizeStringList]

theorem nodup_normalizeStringList (values : List String) : (normalizeStringList values).Nodup := by
  apply (perm_insertionSort _ _).nodup_iff.mpr
  apply nodup_dedup

theorem normalizeStringList_eq_iff : normalizeStringList values = normalizeStringList others ↔
      ∀ value, value ≠ "" → (value ∈ values ↔ value ∈ others) := by
  constructor
  · intro h value hne
    have hmem := congrArg (value ∈ ·) h
    simpa [hne] using hmem
  · intro h
    apply List.Perm.eq_of_pairwise' (r := (· ≤ ·))
    · exact pairwise_insertionSort _ _
    · exact pairwise_insertionSort _ _
    · rw [perm_ext_iff_of_nodup (nodup_normalizeStringList values)
        (nodup_normalizeStringList others)]
      intro value
      rw [mem_normalizeStringList, mem_normalizeStringList]
      exact and_congr_left fun hne => h value hne

@[simp] theorem normalizeStringList_idem (values : List String) :
    normalizeStringList (normalizeStringList values) = normalizeStringList values := by
  rw [normalizeStringList_eq_iff]
  intro value hne
  simp [hne]

end Lists

/-! ## What is built -/

namespace CapabilitySnapshotBuilder

variable {sha256 : String → String} {now : String} {input : CapabilitySnapshotInput}
  {snapshot : CapabilitySnapshot}

theorem build_eq_ok_iff : build sha256 now input = .ok snapshot ↔ validateInput input = .ok () ∧
        ∃ text, PyValue.dumpsAs (PyValue.layout PyValue.unicode []) true
            (.dict (canonicalPayload input)) = .ok text ∧
          snapshotOf now input (sha256 text) = snapshot := by
  unfold build buildStableSha256
  rw [bind_eq_ok_iff]
  constructor
  · rintro ⟨⟨⟩, hvalid, hbuilt⟩
    rw [map_eq_ok_iff] at hbuilt
    obtain ⟨hash, hhash, rfl⟩ := hbuilt
    rw [mapError_eq_ok_iff, map_eq_ok_iff] at hhash
    obtain ⟨text, htext, rfl⟩ := hhash
    exact ⟨hvalid, text, htext, rfl⟩
  · rintro ⟨hvalid, text, htext, rfl⟩
    refine ⟨(), hvalid, ?_⟩
    rw [map_eq_ok_iff]
    refine ⟨sha256 text, ?_, rfl⟩
    rw [mapError_eq_ok_iff, map_eq_ok_iff]
    exact ⟨text, htext, rfl⟩

/-! ## Payloads -/

/-- The keys of a payload. -/
def payloadKeys : List String :=
  ["snapshot_schema_version", "run_id", "based_on_offset", "tenant_policy_ref",
    "permission_mode", "tool_bindings", "mcp_bindings", "skill_bindings", "feature_flags",
    "context_content_hash", "budget_ref", "quota_ref", "session_mode", "approval_state",
    "declarative_bundle_digest", "peer_run_bindings"]

theorem nodup_payloadKeys : payloadKeys.Nodup := by decide

theorem map_fst_canonicalPayload (input : CapabilitySnapshotInput) :
    (canonicalPayload input).map Prod.fst = payloadKeys := rfl

theorem floatsPrinted_canonicalPayload :
    PyValue.FloatsPrinted (.dict (canonicalPayload input)) := by
  have hoption : ∀ text : Option String, PyValue.FloatsPrinted (textOrNone text) := by
    intro text
    cases text with
    | none => trivial
    | some text => trivial
  have hdigest : ∀ digest, PyValue.FloatsPrinted (normalizeBundleDigest digest) := by
    intro digest
    cases digest with
    | none => trivial
    | some digest => exact ⟨trivial, trivial, trivial, trivial, trivial⟩
  exact ⟨trivial, trivial, trivial, trivial, trivial, floatsPrinted_textList _,
    floatsPrinted_textList _, floatsPrinted_textList _, floatsPrinted_textList _,
    hoption _, hoption _, hoption _, hoption _, hoption _, hdigest _,
      floatsPrinted_textList _, trivial⟩

end CapabilitySnapshotBuilder

/-! ## What the texts of a field determine -/

section Fields

variable {first second : String}

theorem str_inj (h : PyValue.toJson true (.str first) = PyValue.toJson true (.str second)) :
    first = second := by
  cases h
  rfl

theorem textOrNone_inj {text other : Option String}
    (h : PyValue.toJson true (textOrNone text) = PyValue.toJson true (textOrNone other)) :
    text = other := by
  cases text with
  | none =>
    cases other with
    | none => rfl
    | some other => cases h
  | some text =>
    cases other with
    | none => cases h
    | some other =>
      cases h
      rfl

theorem toJson_textList (values : List String) :
    PyValue.toJson true (textList values) = .ok (.array (values.map .string)) := by
  have hitems : PyValue.toJsonItems true (values.map .str) = .ok (values.map .string) := by
    induction values with
    | nil => rfl
    | cons value values ih =>
      rw [map_cons, PyValue.toJsonItems, ih]
      rfl
  rw [textList, PyValue.toJson, hitems]
  rfl

theorem textList_inj {values others : List String}
    (h : PyValue.toJson true (textList values) = PyValue.toJson true (textList others)) :
    values = others := by
  rw [toJson_textList, toJson_textList] at h
  apply map_injective_iff.mpr _ (Json.array.inj (Except.ok.inj h))
  intro value other heq
  exact Json.string.inj heq

theorem int_inj {value other : Int} {document : Json}
    (hvalue : PyValue.toJson true (.int value) = .ok document)
    (hother : PyValue.toJson true (.int other) = .ok document) : value = other := by
  have hprint : ∀ {n : Int}, PyValue.toJson true (.int n) = .ok document →
      document = .number (toString n) := by
    intro n hn
    rw [PyValue.toJson, map_eq_ok_iff] at hn
    obtain ⟨text, htext, rfl⟩ := hn
    unfold PyValue.printInt at htext
    split at htext
    · rw [Except.ok.inj htext]
    · cases htext
  apply toString_inj
  exact Json.number.inj ((hprint hvalue).symm.trans (hprint hother))

theorem normalizeBundleDigest_inj {digest other : Option DeclarativeBundleDigest}
    (h : PyValue.toJson true (normalizeBundleDigest digest) =
      PyValue.toJson true (normalizeBundleDigest other)) : digest = other := by
  cases digest with
  | none =>
    cases other with
    | none => rfl
    | some other => cases h
  | some digest =>
    cases other with
    | none => cases h
    | some other =>
      have hkeys : ["bundle_ref", "semantics_version", "content_hash",
          "compile_hash"].Nodup := by decide
      obtain ⟨document, hdoc⟩ : ∃ document, PyValue.toJson true
          (normalizeBundleDigest (some other)) = .ok document := ⟨_, rfl⟩
      have hfields := PyValue.forall₂_of_toJson_dict hkeys rfl rfl (h.trans hdoc)
        hdoc
      simp only [List.forall₂_cons] at hfields
      obtain ⟨href, hversion, hcontent, hcompile, -⟩ := hfields
      obtain ⟨bundleRef, semanticsVersion, contentHash, compileHash⟩ := digest
      obtain rfl : bundleRef = _ := str_inj href
      obtain rfl : semanticsVersion = _ := str_inj hversion
      obtain rfl : contentHash = _ := str_inj hcontent
      obtain rfl : compileHash = _ := str_inj hcompile
      rfl

end Fields

/-! ## The hash -/

/-- The inputs agree in the fields that the hash is to tell apart, and their lists are the
same sets of non-empty texts. -/
structure CapabilitySnapshotInput.Agrees (a b : CapabilitySnapshotInput) : Prop where
  runId : a.runId = b.runId
  basedOnOffset : a.basedOnOffset = b.basedOnOffset
  tenantPolicyRef : a.tenantPolicyRef = b.tenantPolicyRef
  permissionMode : a.permissionMode = b.permissionMode
  contextContentHash : a.contextContentHash = b.contextContentHash
  budgetRef : a.budgetRef = b.budgetRef
  quotaRef : a.quotaRef = b.quotaRef
  sessionMode : a.sessionMode = b.sessionMode
  approvalState : a.approvalState = b.approvalState
  declarativeBundleDigest : a.declarativeBundleDigest = b.declarativeBundleDigest
  toolBindings : ∀ value, value ≠ "" → (value ∈ a.toolBindings ↔ value ∈ b.toolBindings)
  mcpBindings : ∀ value, value ≠ "" → (value ∈ a.mcpBindings ↔ value ∈ b.mcpBindings)
  skillBindings : ∀ value, value ≠ "" → (value ∈ a.skillBindings ↔ value ∈ b.skillBindings)
  featureFlags : ∀ value, value ≠ "" → (value ∈ a.featureFlags ↔ value ∈ b.featureFlags)
  peerRunBindings : ∀ value, value ≠ "" → (value ∈ a.peerRunBindings ↔ value ∈ b.peerRunBindings)

namespace CapabilitySnapshotBuilder

variable {a b : CapabilitySnapshotInput}

theorem canonicalPayload_eq (h : a.Agrees b) : canonicalPayload a = canonicalPayload b := by
  unfold canonicalPayload
  rw [h.runId, h.basedOnOffset, h.tenantPolicyRef, h.permissionMode, h.contextContentHash,
    h.budgetRef, h.quotaRef, h.sessionMode, h.approvalState, h.declarativeBundleDigest,
    normalizeStringList_eq_iff.mpr h.toolBindings, normalizeStringList_eq_iff.mpr h.mcpBindings,
    normalizeStringList_eq_iff.mpr h.skillBindings,
    normalizeStringList_eq_iff.mpr h.featureFlags,
    normalizeStringList_eq_iff.mpr h.peerRunBindings]

theorem agrees_of_text {text : String}
    (ha : PyValue.dumpsAs (PyValue.layout PyValue.unicode []) true
      (.dict (canonicalPayload a)) = .ok text)
    (hb : PyValue.dumpsAs (PyValue.layout PyValue.unicode []) true
      (.dict (canonicalPayload b)) = .ok text) : a.Agrees b := by
  have hjson := PyValue.toJson_eq_of_dumpsAs_eq floatsPrinted_canonicalPayload
    floatsPrinted_canonicalPayload ha hb
  rw [PyValue.dumpsAs, map_eq_ok_iff] at hb
  obtain ⟨document, hdoc, -⟩ := hb
  have hfields := PyValue.forall₂_of_toJson_dict nodup_payloadKeys
    (map_fst_canonicalPayload a) (map_fst_canonicalPayload b) (hjson.trans hdoc) hdoc
  rw [PyValue.toJson, map_eq_ok_iff] at hdoc
  obtain ⟨documents, hdocs, -⟩ := hdoc
  obtain ⟨offset, hprinted⟩ := PyValue.succeeds_toJsonFields_iff.mp ⟨documents, hdocs⟩
    ("based_on_offset", .int b.basedOnOffset) (by simp [canonicalPayload])
  simp only [canonicalPayload, List.forall₂_cons] at hfields
  obtain ⟨-, hrun, hoffset, htenant, hmode, htools, hmcp, hskills, hflags, hcontext, hbudget,
    hquota, hsession, happroval, hdigest, hpeers, -⟩ := hfields
  exact
    { runId := str_inj hrun
      basedOnOffset := int_inj (hoffset.trans hprinted) hprinted
      tenantPolicyRef := str_inj htenant
      permissionMode := str_inj hmode
      contextContentHash := textOrNone_inj hcontext
      budgetRef := textOrNone_inj hbudget
      quotaRef := textOrNone_inj hquota
      sessionMode := textOrNone_inj hsession
      approvalState := textOrNone_inj happroval
      declarativeBundleDigest := normalizeBundleDigest_inj hdigest
      toolBindings := normalizeStringList_eq_iff.mp (textList_inj htools)
      mcpBindings := normalizeStringList_eq_iff.mp (textList_inj hmcp)
      skillBindings := normalizeStringList_eq_iff.mp (textList_inj hskills)
      featureFlags := normalizeStringList_eq_iff.mp (textList_inj hflags)
      peerRunBindings := normalizeStringList_eq_iff.mp (textList_inj hpeers) }

theorem succeeds_build {sha256 : String → String} {now : String}
    {input : CapabilitySnapshotInput} (hvalid : validateInput input = .ok ())
    (hoffset : input.basedOnOffset.natAbs < 10 ^ PyValue.maxStrDigits) :
    Succeeds (build sha256 now input) := by
  have htexts : ∀ values, Succeeds (PyValue.toJson true (textList values)) :=
    fun values => ⟨_, toJson_textList values⟩
  have hoption : ∀ text, Succeeds (PyValue.toJson true (textOrNone text)) := by
    intro text
    cases text with
    | _ => exact ⟨_, rfl⟩
  have hdigest : ∀ digest, Succeeds (PyValue.toJson true (normalizeBundleDigest digest)) := by
    intro digest
    cases digest with
    | _ => exact ⟨_, rfl⟩
  have hint : Succeeds (PyValue.toJson true (.int input.basedOnOffset)) := by
    rw [PyValue.toJson, PyValue.printInt, if_pos hoffset]
    exact ⟨_, rfl⟩
  have hprinted : Succeeds (PyValue.dumpsAs (PyValue.layout PyValue.unicode []) true
      (.dict (canonicalPayload input))) := by
    rw [PyValue.succeeds_dumpsAs_dict_iff]
    simp only [canonicalPayload, forall_mem_cons]
    exact ⟨⟨_, rfl⟩, ⟨_, rfl⟩, hint, ⟨_, rfl⟩, ⟨_, rfl⟩, htexts _, htexts _, htexts _, htexts _,
      hoption _, hoption _, hoption _, hoption _, hoption _, hdigest _, htexts _, nofun⟩
  obtain ⟨text, htext⟩ := hprinted
  exact ⟨_, build_eq_ok_iff.mpr ⟨hvalid, text, htext, rfl⟩⟩

theorem agrees_input (now hash : String) (input : CapabilitySnapshotInput) :
    (snapshotOf now input hash).input.Agrees input := by
  constructor
  all_goals first
    | rfl
    | exact normalizeStringList_eq_iff.mp (normalizeStringList_idem _)

end CapabilitySnapshotBuilder

open CapabilitySnapshotBuilder in
/-- With a digest that tells texts apart: snapshots have one hash, if and only if they are
built of inputs that agree, and the normalised fields of a snapshot give its hash again. -/
theorem snapshotHash_canonical (sha256 : String → String) (hsha256 : Function.Injective sha256) :
    (∀ a b now later first second, build sha256 now a = .ok first →
      build sha256 later b = .ok second → (first.snapshotHash = second.snapshotHash ↔ a.Agrees b)) ∧
    ∀ a now later snapshot, build sha256 now a = .ok snapshot →
      ∃ again, build sha256 later snapshot.input = .ok again ∧
        again.snapshotHash = snapshot.snapshotHash := by
  constructor
  · intro a b now later first second hfirst hsecond
    obtain ⟨-, text, htext, rfl⟩ := build_eq_ok_iff.mp hfirst
    obtain ⟨-, other, hother, rfl⟩ := build_eq_ok_iff.mp hsecond
    change sha256 text = sha256 other ↔ _
    constructor
    · intro hhash
      obtain rfl := hsha256 hhash
      exact agrees_of_text htext hother
    · intro hagrees
      rw [canonicalPayload_eq hagrees, hother] at htext
      rw [Except.ok.inj htext]
  · intro a now later snapshot hshot
    obtain ⟨hvalid, text, htext, rfl⟩ := build_eq_ok_iff.mp hshot
    refine ⟨snapshotOf later (snapshotOf now a (sha256 text)).input (sha256 text), ?_, rfl⟩
    rw [build_eq_ok_iff]
    refine ⟨hvalid, text, ?_, rfl⟩
    rw [canonicalPayload_eq (agrees_input now (sha256 text) a)]
    exact htext

/-! ## Two orders of the same tools -/

/-- An input that binds some tools. -/
def bindingTools (toolBindings : List String) : CapabilitySnapshotInput where
  runId := "run-1"
  basedOnOffset := 3
  tenantPolicyRef := "policy:default"
  permissionMode := "strict"
  toolBindings := toolBindings

/-- The text that is hashed for `ls` and `grep`. -/
def toolsText : Except Raised String :=
  PyValue.dumpsAs (PyValue.layout PyValue.unicode []) true
    (.dict (CapabilitySnapshotBuilder.canonicalPayload (bindingTools ["ls", "grep"])))

def toolsSha256 (text : String) : String :=
  if toolsText = .ok text then
    "1c6eff72e6755a7e091458316f13dbfbf0db2b4ebefcc98900af3650e5603a33"
  else "?" ++ text

theorem toolsSha256_injective : Function.Injective toolsSha256 := by
  have hmark : ∀ text, "1c6eff72e6755a7e091458316f13dbfbf0db2b4ebefcc98900af3650e5603a33" ≠
      "?" ++ text := by
    intro text h
    have hchars := congrArg String.toList h
    rw [String.toList_append] at hchars
    exact absurd (List.cons.inj hchars).1 (by decide)
  intro text other h
  unfold toolsSha256 at h
  split at h
  · rename_i htext
    split at h
    · rename_i hother
      exact Except.ok.inj (htext.symm.trans hother)
    · exact absurd h (hmark other)
  · split at h
    · exact absurd h.symm (hmark text)
    · exact String.append_right_inj "?" |>.mp h

theorem offset_printed : (3 : Int).natAbs < 10 ^ PyValue.maxStrDigits := by
  have hdigits : 10 ^ 1 ≤ 10 ^ PyValue.maxStrDigits :=
    Nat.pow_le_pow_right (by decide) (by decide)
  have hsmall : (3 : Int).natAbs < 10 ^ 1 := by decide
  omega

/-- The order of the tools and an empty name among them make no difference to the hash. -/
theorem snapshotHash_canonical_reordered : ∃ first second,
      CapabilitySnapshotBuilder.build toolsSha256 "2026-05-01T00:00:00Z"
        (bindingTools ["ls", "grep"]) = .ok first ∧
      CapabilitySnapshotBuilder.build toolsSha256 "2026-05-02T00:00:00Z"
        (bindingTools ["grep", "", "ls", "grep"]) = .ok second ∧
      first.snapshotHash = second.snapshotHash := by
  obtain ⟨first, hfirst⟩ : Succeeds (CapabilitySnapshotBuilder.build toolsSha256
      "2026-05-01T00:00:00Z" (bindingTools ["ls", "grep"])) :=
    CapabilitySnapshotBuilder.succeeds_build rfl offset_printed
  obtain ⟨second, hsecond⟩ : Succeeds (CapabilitySnapshotBuilder.build toolsSha256
      "2026-05-02T00:00:00Z" (bindingTools ["grep", "", "ls", "grep"])) :=
    CapabilitySnapshotBuilder.succeeds_build rfl offset_printed
  refine ⟨first, second, hfirst, hsecond, ?_⟩
  apply ((snapshotHash_canonical toolsSha256 toolsSha256_injective).1 _ _ _ _ _ _ hfirst
    hsecond).mpr
  constructor
  case toolBindings =>
    intro value hne
    simp [bindingTools, hne, or_comm]
  all_goals first
    | rfl
    | exact fun _ _ => Iff.rfl

end HiAgent.Kernel
