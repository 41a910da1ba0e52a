/-
  Kernel/IdempotencyKeyPolicy.lean --- the keys that identify a dispatch.

  `agent_kernel/kernel/idempotency_key_policy.py`, and the legacy keys of `turn_engine.py`. A key
  joins texts with colons that may hold colons themselves, and the hash of what the action is
  about.
-/
import HiAgent.Kernel.CapabilitySnapshot
import HiAgent.Kernel.DispatchPolicy

namespace HiAgent.Kernel

open Foundation

/-! ## The policy -/

namespace IdempotencyKeyPolicy

section Canonical

variable (repr : Nat → Bool → String)

mutual

def canonicalizeJson : PyValue → PyValue
  | .list items => .list (canonicalizeItems items)
  | .dict fields => .dict (canonicalizeFields fields)
  | .other identity truth => .str (repr identity truth)
  | .none => .none
  | .bool value => .bool value
  | .int value => .int value
  | .float value => .float value
  | .str value => .str value

def canonicalizeItems : List PyValue → List PyValue
  | [] => []
  | item :: items => canonicalizeJson item :: canonicalizeItems items

def canonicalizeFields : PyDict → PyDict
  | [] => []
  | (key, value) :: fields => (key, canonicalizeJson value) :: canonicalizeFields fields

end

/-- The dictionary that is hashed. -/
def payload (content : ContentPayload) : PyDict :=
  [("action_type", .str content.actionType),
    ("input_json", canonicalizeJson repr (.dict content.inputJson)),
    ("policy_tags", textList content.policyTags),
    ("effect_class", .str content.effectClass),
    ("snapshot_hash", .str content.snapshotHash)]

end Canonical

section Hash

variable (sha256 : String → String) (repr : Nat → Bool → String)

def contentHash (action : Action) (snapshotHash : String) : Except Raised String :=
  (PyValue.dumpsAs (PyValue.layout PyValue.ascii []) true
    (.dict (payload repr (contentPayload action snapshotHash)))).map sha256

/-- `generate`, in the namespace of dispatches. -/
def generate (runId : String) (action : Action) (snapshotHash : String) : Except Raised String :=
  (contentHash sha256 repr action snapshotHash).map (dispatchKey runId action.actionId)

end Hash

def generateCompensationKey (effectClass actionId : String) : String :=
  "compensation:" ++ effectClass ++ ":" ++ actionId

/-! ## What the content hash tells apart -/

/-- The input of an action, as far as the hash is concerned: the JSON document of the
canonical input, its keys in order. -/
def canonicalInput (repr : Nat → Bool → String) (action : Action) : Except Raised Json :=
  PyValue.toJson true (canonicalizeJson repr (.dict (action.inputJson.getD [])))

/-- Two actions with their snapshots are about the same. -/
structure SameContent (repr : Nat → Bool → String) (action other : Action)
    (snapshotHash otherHash : String) : Prop where
  actionType : action.actionType = other.actionType
  input : canonicalInput repr action = canonicalInput repr other
  policyTags : action.policyTags = other.policyTags
  effectClass : action.effectClass = other.effectClass
  snapshotHash : snapshotHash = otherHash

def NumbersPrinted (action : Action) : Prop :=
  PyValue.FloatsPrintedFields (action.inputJson.getD [])

section Content

variable {sha256 : String → String} {repr : Nat → Bool → String} {action other : Action}
  {snapshotHash otherHash : String}

mutual

theorem floatsPrinted_canonicalizeJson (value : PyValue) (h : PyValue.FloatsPrinted value) :
    PyValue.FloatsPrinted (canonicalizeJson repr value) := by
  cases value with
  | list items => exact floatsPrinted_canonicalizeItems items h
  | dict fields => exact floatsPrinted_canonicalizeFields fields h
  | float value => exact h
  | none => trivial
  | bool value => trivial
  | int value => trivial
  | str value => trivial
  | other identity truth => trivial
termination_by structural value

theorem floatsPrinted_canonicalizeItems (items : List PyValue)
    (h : PyValue.FloatsPrintedItems items) :
    PyValue.FloatsPrintedItems (canonicalizeItems repr items) := by
  cases items with
  | nil => trivial
  | cons item items =>
    exact ⟨floatsPrinted_canonicalizeJson item h.1, floatsPrinted_canonicalizeItems items h.2⟩
termination_by structural items

theorem floatsPrinted_canonicalizeFields (fields : PyDict)
    (h : PyValue.FloatsPrintedFields fields) :
    PyValue.FloatsPrintedFields (canonicalizeFields repr fields) := by
  cases fields with
  | nil => trivial
  | cons field fields =>
    exact ⟨floatsPrinted_canonicalizeJson field.2 h.1, floatsPrinted_canonicalizeFields fields h.2⟩
termination_by structural fields

end

theorem floatsPrinted_payload (h : NumbersPrinted action) :
    PyValue.FloatsPrinted (.dict (payload repr (contentPayload action snapshotHash))) :=
  ⟨trivial, floatsPrinted_canonicalizeJson (.dict (action.inputJson.getD [])) h,
    floatsPrinted_textList _, trivial, trivial, trivial⟩

theorem effectClass_value_inj {first second : EffectClass} (h : first.value = second.value) :
    first = second := by
  revert h
  cases first <;> cases second <;> decide

theorem toJson_payload_eq_iff {document : Json} (hdoc : PyValue.toJson true
      (.dict (payload repr (contentPayload action snapshotHash))) = .ok document) :
    PyValue.toJson true (.dict (payload repr (contentPayload other otherHash))) = .ok document ↔
      SameContent repr action other snapshotHash otherHash := by
  have hkeys : ["action_type", "input_json", "policy_tags", "effect_class",
      "snapshot_hash"].Nodup := by decide
  constructor
  · intro h
    have hfields := PyValue.forall₂_of_toJson_dict hkeys rfl rfl hdoc h
    simp only [payload, List.forall₂_cons] at hfields
    obtain ⟨htype, hinput, htags, hclass, hshot, -⟩ := hfields
    exact ⟨str_inj htype, hinput, textList_inj htags, effectClass_value_inj (str_inj hclass),
      str_inj hshot⟩
  · intro h
    have hfields : PyValue.toJsonFields true (payload repr (contentPayload other otherHash)) =
        PyValue.toJsonFields true (payload repr (contentPayload action snapshotHash)) := by
      have hinput : PyValue.toJson true
          (canonicalizeJson repr (.dict (contentPayload other otherHash).inputJson)) =
          PyValue.toJson true
            (canonicalizeJson repr (.dict (contentPayload action snapshotHash).inputJson)) :=
        h.input.symm
      simp only [payload, PyValue.toJsonFields, hinput]
      simp only [contentPayload, h.actionType, h.policyTags, h.effectClass, h.snapshotHash]
    rwa [PyValue.toJson, hfields]

/-- Equal hashes are those of equal payloads. -/
theorem contentHash_eq_iff (hinj : Function.Injective sha256)
    (haction : NumbersPrinted action) (hother : NumbersPrinted other) {hash hash' : String}
    (hhash : contentHash sha256 repr action snapshotHash = .ok hash)
    (hhash' : contentHash sha256 repr other otherHash = .ok hash') :
    hash = hash' ↔ SameContent repr action other snapshotHash otherHash := by
  rw [contentHash, map_eq_ok_iff] at hhash hhash'
  obtain ⟨text, htext, rfl⟩ := hhash
  obtain ⟨text', htext', rfl⟩ := hhash'
  rw [hinj.eq_iff]
  obtain ⟨document, hdoc, hprinted⟩ := map_eq_ok_iff.mp htext
  rw [← toJson_payload_eq_iff hdoc]
  constructor
  · rintro rfl
    rw [← hdoc]
    exact PyValue.toJson_eq_of_dumpsAs_eq (floatsPrinted_payload hother)
      (floatsPrinted_payload haction) htext' htext
  · intro hsame
    rw [PyValue.dumpsAs, hsame] at htext'
    rw [← hprinted]
    exact Except.ok.inj htext'

end Content

/-! ## What the keys tell apart -/

section Keys

variable {runId actionId otherRun otherAction : String}

theorem solid_toString (value : Int) : Joined.Solid (toString value) := by
  intro hmem
  rcases mem_toString hmem with hdigit | hsign
  · exact absurd hdigit (by decide)
  · exact absurd hsign (by decide)

theorem dispatchKey_eq_iff {hash otherHash : String} (hhash : Joined.Solid hash)
    (hother : Joined.Solid otherHash) :
    dispatchKey runId actionId hash = dispatchKey otherRun otherAction otherHash ↔
      runId ++ ":" ++ actionId = otherRun ++ ":" ++ otherAction ∧ hash = otherHash := by
  rw [dispatchKey, dispatchKey, Joined.colon_last_eq_iff hhash hother]
  simp only [String.append_assoc, String.append_right_inj]

theorem legacyDispatchDedupeKey_eq_iff {offset otherOffset : Int} :
    legacyDispatchDedupeKey runId actionId offset =
        legacyDispatchDedupeKey otherRun otherAction otherOffset ↔
      runId ++ ":" ++ actionId = otherRun ++ ":" ++ otherAction ∧ offset = otherOffset := by
  rw [legacyDispatchDedupeKey, legacyDispatchDedupeKey,
    Joined.colon_last_eq_iff (solid_toString offset) (solid_toString otherOffset)]
  exact and_congr_right fun _ => ⟨toString_inj, congrArg toString⟩

theorem legacyDispatchDedupeKey_eq_dispatchKey_iff {offset : Int} {hash : String}
    (hhash : Joined.Solid hash) : legacyDispatchDedupeKey runId actionId offset =
        dispatchKey otherRun otherAction hash ↔
      runId ++ ":" ++ actionId = "dispatch:" ++ otherRun ++ ":" ++ otherAction ∧
        toString offset = hash := by
  rw [legacyDispatchDedupeKey, dispatchKey, Joined.colon_last_eq_iff (solid_toString offset) hhash]

end Keys

end IdempotencyKeyPolicy

end HiAgent.Kernel
