/-
  Artifacts/Ledger.lean --- the artifact ledger.

  `hi_agent/artifacts/contracts.py`: `Artifact`, `derive_artifact_id`.
  `hi_agent/artifacts/ledger.py`: `ArtifactLedger`, on a file.
-/
import HiAgent.Foundation.InvertedIndex
import HiAgent.Foundation.PyValue
import HiAgent.Server.Idempotency

namespace HiAgent.Artifacts

open Foundation Server

/-! ## Artifacts -/

structure Artifact where
  artifactId : String
  artifactType : String := "base"
  producerActionId : String := ""
  sourceRefs : List String := []
  metadata : PyDict := []
  provenance : PyDict := []
  upstreamArtifactIds : List String := []
  content : PyValue := .none
  projectId : String := ""
  tenantId : String := ""
  contentHash : String := ""
  runId : String := ""
  /-- The fields that a subclass adds. -/
  subclass : Option PyDict := none

/-- What is raised. -/
inductive ArtifactError where
  | integrityError (artifactType stored expected : String)
  | conflictError (artifactId existing new : String)
  | spineCompletenessError (text : String)
  /-- What `json.dumps` raises. -/
  | raised (error : Raised)
  /-- What the file system raises. -/
  | osError

/-- `str()` of the values of other classes, and the SHA-256 digest of `json.dumps(content)`. -/
structure Builtins where
  str : Nat → String
  sha256 : PyValue → String
  sha256_ne : ∀ content, sha256 content ≠ ""

def contentAddressableTypes : List String := ["document", "resource", "structured_data", "evidence"]

def deriveArtifactId (contentHash : String) : String := "art_" ++ Text.slice contentHash 24

namespace Artifact

def missing (artifact : Artifact) : List String :=
  (if artifact.tenantId = "" then ["tenant_id"] else []) ++
    (if artifact.runId = "" then ["run_id"] else []) ++
    if artifact.projectId = "" then ["project_id"] else []

/-- `is_content_addressable`, and there is a hash to derive the identity from. -/
def isDerived (artifact : Artifact) : Bool :=
  decide (artifact.artifactType ∈ contentAddressableTypes) && artifact.contentHash != ""

/-- The hash of the content, in `__post_init__`. -/
def withHash (builtins : Builtins) (artifact : Artifact) : Artifact :=
  if artifact.content.truthy = true ∧ artifact.contentHash = "" then
    { artifact with contentHash := builtins.sha256 artifact.content }
  else artifact

def postInit (builtins : Builtins) (posture : Posture) (artifact : Artifact) :
    Except ArtifactError Artifact :=
  let artifact := artifact.withHash builtins
  if artifact.missing ≠ [] ∧ posture.isStrict = true then
    .error (.spineCompletenessError
      ("Artifact constructed without required spine fields under posture=" ++ posture.value ++
        ": missing=" ++ printNames artifact.missing ++
        ". Populate at the construction site (Rule 12)."))
  else .ok artifact

def fromDict (builtins : Builtins) (posture : Posture) (data : Artifact) :
    Except ArtifactError Artifact :=
  (data.postInit builtins posture).bind fun artifact =>
    if artifact.isDerived = true ∧ artifact.artifactId ≠ deriveArtifactId artifact.contentHash ∧
        posture.isStrict = true then
      .error (.integrityError artifact.artifactType artifact.artifactId
        (deriveArtifactId artifact.contentHash))
    else .ok artifact

/-- The artifact under the identity that `register` gives it. -/
def identified (artifact : Artifact) : Artifact :=
  if artifact.isDerived = true then
    { artifact with artifactId := deriveArtifactId artifact.contentHash }
  else artifact

/-- What `json.loads` reads from `json.dumps(artifact.to_dict(), default=str)`, less the keys
that `from_dict` passes over. -/
def copied (builtins : Builtins) (artifact : Artifact) : Except Raised Artifact :=
  (PyValue.copiedFields builtins.str artifact.metadata).bind fun metadata =>
    (PyValue.copiedFields builtins.str artifact.provenance).bind fun provenance =>
      (PyValue.copied builtins.str artifact.content).bind fun content =>
        (PyValue.copiedFields builtins.str (artifact.subclass.getD [])).map fun _ =>
          { artifact with metadata, provenance, content, subclass := none }

end Artifact

/-! ## The ledger in memory -/

/-- The fields of an `ArtifactLedger`. -/
structure ArtifactLedger where
  store : Dict String Artifact
  sourceRefIndex : InvertedIndex String String
  upstreamIndex : InvertedIndex String String

namespace ArtifactLedger

def empty : ArtifactLedger := ⟨.empty, .empty, .empty⟩

/-- `_store[artifact.artifact_id] = artifact` and `_index_artifact`. -/
def absorb (ledger : ArtifactLedger) (artifact : Artifact) : ArtifactLedger where
  store := ledger.store.set artifact.artifactId artifact
  sourceRefIndex := ledger.sourceRefIndex.file artifact.sourceRefs artifact.artifactId
  upstreamIndex := ledger.upstreamIndex.file artifact.upstreamArtifactIds artifact.artifactId

/-- The checks of `register`, and the artifact that is stored. -/
def accept (ledger : ArtifactLedger) (posture : Posture) (artifact : Artifact) :
    Except ArtifactError Artifact :=
  let expected := deriveArtifactId artifact.contentHash
  if artifact.isDerived = true ∧ artifact.artifactId ≠ expected ∧ posture.isStrict = true then
    .error (.integrityError artifact.artifactType artifact.artifactId expected)
  else
    let artifact := artifact.identified
    match ledger.store.get? artifact.artifactId with
    | some existing =>
      if existing.contentHash ≠ "" ∧ artifact.contentHash ≠ "" ∧
          existing.contentHash ≠ artifact.contentHash then
        .error (.conflictError artifact.artifactId existing.contentHash artifact.contentHash)
      else .ok artifact
    | none => .ok artifact

/-- `_tenant_visible`, and `_allow_legacy`. -/
def tenantVisible (posture : Posture) (artifact : Artifact) (tenantId : String) : Bool :=
  if artifact.tenantId = "" then !posture.isStrict else artifact.tenantId == tenantId

def shows (posture : Posture) (tenantId : Option String) (artifact : Artifact) : Bool :=
  match tenantId with
  | none => true
  | some tenantId => tenantId == "" || tenantVisible posture artifact tenantId

variable (ledger : ArtifactLedger) (posture : Posture)

def get (artifactId : String) (tenantId : Option String) : Option Artifact :=
  (ledger.store.get? artifactId).filter (shows posture tenantId)

def query (artifactType producerActionId tenantId : Option String) : List Artifact :=
  ((ledger.store.values.filter (shows posture tenantId)).filter fun artifact =>
    artifactType.all (· == artifact.artifactType)).filter fun artifact =>
      producerActionId.all (· == artifact.producerActionId)

def queryBySourceRef (sourceRef : String) (tenantId : Option String) : List Artifact :=
  ((ledger.sourceRefIndex.under sourceRef).filterMap ledger.store.get?).filter
    (shows posture tenantId)

def queryByUpstream (upstreamId : String) (tenantId : Option String) : List Artifact :=
  ((ledger.upstreamIndex.under upstreamId).filterMap ledger.store.get?).filter
    (shows posture tenantId)

end ArtifactLedger

/-! ## The file -/

/-- What a JSON reader makes of a line. -/
inductive LedgerLine where
  | record (data : Artifact)
  | corrupt

/-- The lines that have an end, and what is behind the last of them. -/
structure LedgerFile where
  lines : List LedgerLine := []
  rest : Option LedgerLine := none

/-- How an append of a line goes. -/
inductive AppendOutcome where
  | written
  /-- The line is in the file, and `os.fsync` raises. -/
  | notSynced
  /-- All but the line end is in the file. -/
  | unended
  /-- Some of the text is in the file. -/
  | torn
  /-- Nothing is in the file. -/
  | refused
  deriving DecidableEq

namespace LedgerFile

def glued (file : LedgerFile) (line : LedgerLine) : LedgerLine :=
  if file.rest.isSome then .corrupt else line

/-- `f.write(line + "\n")`, `f.flush()` and `os.fsync`. -/
def append (file : LedgerFile) (line : LedgerLine) : AppendOutcome → LedgerFile
  | .written | .notSynced => { lines := file.lines ++ [file.glued line] }
  | .unended => { file with rest := some (file.glued line) }
  | .torn => { file with rest := some .corrupt }
  | .refused => file

end LedgerFile

namespace ArtifactLedger

/-- One line of the file, in `_load`. -/
def loadLine (builtins : Builtins) (posture : Posture) (ledger : ArtifactLedger) :
    LedgerLine → ArtifactLedger
  | .corrupt => ledger
  | .record data =>
    match data.fromDict builtins posture with
    | .ok artifact => ledger.absorb artifact
    | .error _ => ledger

def load (builtins : Builtins) (posture : Posture) (lines : List LedgerLine) : ArtifactLedger :=
  lines.foldl (loadLine builtins posture) empty

end ArtifactLedger

/-! ## Runs -/

/-- A ledger and its file. -/
structure Registry where
  live : ArtifactLedger
  file : LedgerFile

/-- A call of `register`. -/
structure Register where
  posture : Posture
  artifact : Artifact
  append : AppendOutcome

namespace Registry

def start : Registry := ⟨.empty, {}⟩

variable (builtins : Builtins)

def register (s : Registry) (call : Register) : Except ArtifactError Unit × Registry :=
  match s.live.accept call.posture call.artifact with
  | .error error => (.error error, s)
  | .ok artifact =>
    match artifact.copied builtins with
    | .error error => (.error (.raised error), { s with live := s.live.absorb artifact })
    | .ok data =>
      (if call.append = .written then .ok () else .error .osError,
        ⟨s.live.absorb artifact, s.file.append (.record data) call.append⟩)

def step (s : Registry) (call : Register) : Registry := (s.register builtins call).2

def reopened (posture : Posture) (s : Registry) : ArtifactLedger :=
  .load builtins posture (s.file.lines ++ s.file.rest.toList)

end Registry

/-! ## The law -/

namespace ArtifactLedger

/-- Two ledgers answer alike for a tenant, or for none. -/
structure Alike (posture : Posture) (tenantId : Option String) (left right : ArtifactLedger) :
    Prop where
  get : ∀ artifactId, left.get posture artifactId tenantId = right.get posture artifactId tenantId
  query : ∀ artifactType producerActionId,
    left.query posture artifactType producerActionId tenantId =
      right.query posture artifactType producerActionId tenantId
  bySourceRef : ∀ sourceRef, left.queryBySourceRef posture sourceRef tenantId =
      right.queryBySourceRef posture sourceRef tenantId
  byUpstream : ∀ upstreamId, left.queryByUpstream posture upstreamId tenantId =
      right.queryByUpstream posture upstreamId tenantId

def Current (ledger : ArtifactLedger) (artifact : Artifact) : Prop :=
  ledger.store.get? artifact.artifactId = some artifact

/-- An artifact is in an answer exactly when it is current, is shown and matches. -/
structure Exact (posture : Posture) (ledger : ArtifactLedger) : Prop where
  get : ∀ artifactId tenantId artifact, ledger.get posture artifactId tenantId = some artifact ↔
    (ledger.Current artifact ∧ shows posture tenantId artifact = true) ∧
      artifact.artifactId = artifactId
  query : ∀ artifactType producerActionId tenantId artifact,
    artifact ∈ ledger.query posture artifactType producerActionId tenantId ↔
      (ledger.Current artifact ∧ shows posture tenantId artifact = true) ∧
        (∀ type, artifactType = some type → artifact.artifactType = type) ∧
          ∀ producer, producerActionId = some producer → artifact.producerActionId = producer
  bySourceRef : ∀ sourceRef tenantId artifact,
    artifact ∈ ledger.queryBySourceRef posture sourceRef tenantId ↔
      (ledger.Current artifact ∧ shows posture tenantId artifact = true) ∧
        sourceRef ∈ artifact.sourceRefs
  byUpstream : ∀ upstreamId tenantId artifact,
    artifact ∈ ledger.queryByUpstream posture upstreamId tenantId ↔
      (ledger.Current artifact ∧ shows posture tenantId artifact = true) ∧
        upstreamId ∈ artifact.upstreamArtifactIds

end ArtifactLedger

/-- What the law asks of a call, of a ledger that is read and opened again under a posture. -/
structure Lawful (builtins : Builtins) (posture : Posture) (s : Registry) (call : Register) :
    Prop where
  /-- The file gives the ledger. -/
  reopened : ∀ tenantId, (s.step builtins call).live.Alike posture tenantId
    ((s.step builtins call).reopened builtins posture)
  exact : (s.step builtins call).live.Exact posture
  /-- A call that raises changes no answer. -/
  atomic : ∀ error, (s.register builtins call).1 = .error error →
    ∀ tenantId, s.live.Alike posture tenantId (s.step builtins call).live
  /-- A call of another tenant changes no answer of a tenant. -/
  isolated : ∀ tenantId, tenantId ≠ "" → call.artifact.tenantId ≠ "" →
    call.artifact.tenantId ≠ tenantId →
      s.live.Alike posture (some tenantId) (s.step builtins call).live

open List

variable {builtins : Builtins} {posture : Posture}

/-! ## Lines -/

namespace Artifact

/-- The artifact reads back from its line: it is of no subclass, what it carries is plain, its
content is hashed, and it passes what a strict posture asks of it. -/
structure Durable (posture : Posture) (artifact : Artifact) : Prop where
  metadata : PyValue.PlainFields artifact.metadata
  provenance : PyValue.PlainFields artifact.provenance
  content : PyValue.Plain artifact.content
  subclass : artifact.subclass = none
  hashed : artifact.content.truthy = true → artifact.contentHash ≠ ""
  spine : posture.isStrict = true → artifact.missing = []
  derived : posture.isStrict = true → artifact.isDerived = true →
    artifact.artifactId = deriveArtifactId artifact.contentHash

variable {artifact data : Artifact}

theorem Durable.copied (h : artifact.Durable posture) :
    artifact.copied builtins = .ok artifact := by
  rw [Artifact.copied, (PyValue.copiedFields_eq_iff _ _).mpr h.metadata,
    (PyValue.copiedFields_eq_iff _ _).mpr h.provenance, (PyValue.copied_eq_iff _ _).mpr h.content,
    h.subclass]
  obtain ⟨⟩ := artifact
  cases h.subclass
  rfl

theorem Durable.fromDict (h : artifact.Durable posture) :
    artifact.fromDict builtins posture = .ok artifact := by
  have hhash : artifact.withHash builtins = artifact :=
    if_neg fun hempty => h.hashed hempty.1 hempty.2
  have hspine : ¬ (artifact.missing ≠ [] ∧ posture.isStrict = true) :=
    fun hmissing => hmissing.1 (h.spine hmissing.2)
  rw [Artifact.fromDict, postInit, hhash, if_neg hspine]
  refine if_neg fun hderived => ?_
  exact hderived.2.1 (h.derived hderived.2.2 hderived.1)

theorem fromDict_eq_ok (h : data.fromDict builtins posture = .ok artifact) :
    (∃ hash, artifact = { data with contentHash := hash }) ∧
      (artifact.content.truthy = true → artifact.contentHash ≠ "") ∧
        (posture.isStrict = true → artifact.missing = []) ∧
          (posture.isStrict = true → artifact.isDerived = true →
            artifact.artifactId = deriveArtifactId artifact.contentHash) := by
  rw [Artifact.fromDict, bind_eq_ok_iff] at h
  obtain ⟨made, hmade, hchecked⟩ := h
  split at hchecked
  · cases hchecked
  rename_i hderived
  obtain rfl := Except.ok.inj hchecked
  rw [postInit] at hmade
  split at hmade
  · cases hmade
  rename_i hspine
  obtain rfl := Except.ok.inj hmade
  refine ⟨?_, ?_, fun hstrict => ?_, fun hstrict hisDerived => ?_⟩
  · unfold withHash
    split
    · exact ⟨_, rfl⟩
    · exact ⟨_, rfl⟩
  · unfold withHash
    split
    · exact fun _ => builtins.sha256_ne _
    · rename_i hhash
      exact fun htruthy hempty => hhash ⟨htruthy, hempty⟩
  · exact not_not.mp fun hmissing => hspine ⟨hmissing, hstrict⟩
  · exact not_not.mp fun hdiffers => hderived ⟨hisDerived, hdiffers, hstrict⟩

theorem durable_of_fromDict (hcopied : artifact.copied builtins = .ok data)
    (hread : data.fromDict builtins posture = .ok artifact) : artifact.Durable posture := by
  rw [Artifact.copied] at hcopied
  simp only [bind_eq_ok_iff, map_eq_ok_iff] at hcopied
  obtain ⟨metadata, hmetadata, provenance, hprovenance, content, hcontent, -, -, rfl⟩ := hcopied
  obtain ⟨⟨hash, hsame⟩, hhashed, hspine, hderived⟩ := fromDict_eq_ok hread
  have hmetadata' : artifact.metadata = metadata := congrArg Artifact.metadata hsame
  have hprovenance' : artifact.provenance = provenance := congrArg Artifact.provenance hsame
  have hcontent' : artifact.content = content := congrArg Artifact.content hsame
  exact {
    metadata := (PyValue.copiedFields_eq_iff builtins.str _).mp
      (hmetadata.trans (congrArg Except.ok hmetadata'.symm))
    provenance := (PyValue.copiedFields_eq_iff builtins.str _).mp
      (hprovenance.trans (congrArg Except.ok hprovenance'.symm))
    content := (PyValue.copied_eq_iff builtins.str _).mp
      (hcontent.trans (congrArg Except.ok hcontent'.symm))
    subclass := congrArg Artifact.subclass hsame
    hashed := hhashed
    spine := hspine
    derived := hderived }

end Artifact

/-! ## Indexes -/

namespace ArtifactLedger

/-- An identifier is filed under a key exactly when its current record has it. -/
def Indexes (store : Dict String Artifact) (index : InvertedIndex String String)
    (keys : Artifact → List String) : Prop :=
  ∀ key artifactId, artifactId ∈ index.under key ↔
    ∃ artifact, store.get? artifactId = some artifact ∧ key ∈ keys artifact

section Indexes

variable {store : Dict String Artifact} {index : InvertedIndex String String}
  {keys : Artifact → List String} {artifact : Artifact} {artifactId : String}

theorem Indexes.set (h : Indexes store index keys)
    (hcovers : ∀ old, store.get? artifactId = some old → keys old ⊆ keys artifact) :
    Indexes (store.set artifactId artifact) (index.file (keys artifact) artifactId) keys := by
  intro key other
  rw [InvertedIndex.mem_under_file, h key other, Dict.get?_set]
  by_cases hother : other = artifactId
  · subst hother
    simp only [if_pos, true_and, Option.some.injEq, exists_eq_left']
    refine or_iff_right_of_imp ?_
    rintro ⟨old, hold, hkey⟩
    exact hcovers old hold hkey
  · rw [if_neg hother, or_iff_left fun hsame => hother hsame.1]

theorem Indexes.file_eq_self (h : Indexes store index keys)
    (hcurrent : store.get? artifactId = some artifact) :
    index.file (keys artifact) artifactId = index :=
  InvertedIndex.file_eq_self fun key hkey => (h key artifactId).mpr ⟨artifact, hcurrent, hkey⟩

theorem Indexes.mem_answer (h : Indexes store index keys)
    (hkeyed : ∀ artifactId artifact, store.get? artifactId = some artifact →
      artifact.artifactId = artifactId) (p : Artifact → Bool) (key : String) :
    artifact ∈ ((index.under key).filterMap store.get?).filter p ↔
      (store.get? artifact.artifactId = some artifact ∧ p artifact = true) ∧
        key ∈ keys artifact := by
  rw [mem_filter, mem_filterMap, and_right_comm]
  refine and_congr_left fun _ => ⟨?_, ?_⟩
  · rintro ⟨artifactId, hmem, hfound⟩
    obtain rfl := hkeyed artifactId artifact hfound
    obtain ⟨same, hsame, hkey⟩ := (h key artifact.artifactId).mp hmem
    obtain rfl := Option.some.inj (hfound.symm.trans hsame)
    exact ⟨hfound, hkey⟩
  · rintro ⟨hfound, hkey⟩
    exact ⟨artifact.artifactId, (h key _).mpr ⟨artifact, hfound, hkey⟩, hfound⟩

theorem answer_set {p : Artifact → Bool} (hnew : p artifact = false)
    (hold : ∀ old, store.get? artifactId = some old → p old = false)
    (values : List String) (key : String) : (((index.file values artifactId).under key).filterMap
        (store.set artifactId artifact).get?).filter p =
      ((index.under key).filterMap store.get?).filter p := by
  have hread : (fun other => ((store.set artifactId artifact).get? other).filter p) =
      fun other => (store.get? other).filter p := by
    funext other
    rw [Dict.get?_set]
    split
    · rename_i hother
      subst hother
      rw [Option.filter_some, hnew, if_neg Bool.false_ne_true]
      cases hfound : store.get? other with
      | none => rfl
      | some old => rw [Option.filter_some, hold old hfound, if_neg Bool.false_ne_true]
    · rfl
  have hnone : (store.get? artifactId).filter p = none := by
    cases hfound : store.get? artifactId with
    | none => rfl
    | some old => rw [Option.filter_some, hold old hfound, if_neg Bool.false_ne_true]
  rw [filter_filterMap, filter_filterMap, hread]
  exact InvertedIndex.filterMap_under_file (fun other => (store.get? other).filter p) hnone key

end Indexes

/-! ## Ledgers -/

/-- Every record is under its own identifier, and the indexes are exact. -/
structure Sound (ledger : ArtifactLedger) : Prop where
  keyed : ∀ artifactId artifact, ledger.store.get? artifactId = some artifact →
    artifact.artifactId = artifactId
  sources : Indexes ledger.store ledger.sourceRefIndex Artifact.sourceRefs
  upstreams : Indexes ledger.store ledger.upstreamIndex Artifact.upstreamArtifactIds

def Covers (ledger : ArtifactLedger) (artifact : Artifact) : Prop :=
  ∀ old, ledger.store.get? artifact.artifactId = some old → old.sourceRefs ⊆ artifact.sourceRefs ∧
      old.upstreamArtifactIds ⊆ artifact.upstreamArtifactIds

variable {ledger : ArtifactLedger} {artifact : Artifact}

theorem sound_empty : empty.Sound where
  keyed _ _ h := (Option.some_ne_none _ h.symm).elim
  sources _ _ := iff_of_false not_mem_nil fun ⟨_, h, _⟩ => (Option.some_ne_none _ h.symm).elim
  upstreams _ _ :=
    iff_of_false not_mem_nil fun ⟨_, h, _⟩ => (Option.some_ne_none _ h.symm).elim

theorem current_absorb (ledger : ArtifactLedger) (artifact : Artifact) :
    (ledger.absorb artifact).Current artifact := by
  rw [Current, absorb, Dict.get?_set, if_pos rfl]

theorem Sound.absorb (h : ledger.Sound) (hcovers : ledger.Covers artifact) :
    (ledger.absorb artifact).Sound where
  keyed artifactId other hother := by
    rw [ArtifactLedger.absorb, Dict.get?_set] at hother
    split at hother
    · rename_i hid
      rw [← Option.some.inj hother, hid]
    · exact h.keyed artifactId other hother
  sources := h.sources.set fun old hold => (hcovers old hold).1
  upstreams := h.upstreams.set fun old hold => (hcovers old hold).2

theorem Sound.absorb_eq_self (h : ledger.Sound) (hcurrent : ledger.Current artifact) :
    ledger.absorb artifact = ledger := by
  rw [ArtifactLedger.absorb, Dict.set_eq_self hcurrent, h.sources.file_eq_self hcurrent,
    h.upstreams.file_eq_self hcurrent]

/-! ## Answers -/

theorem Alike.refl (tenantId : Option String) (ledger : ArtifactLedger) :
    ledger.Alike posture tenantId ledger :=
  ⟨fun _ => rfl, fun _ _ => rfl, fun _ => rfl, fun _ => rfl⟩

theorem get_none (ledger : ArtifactLedger) (artifactId : String) :
    ledger.get posture artifactId none = ledger.store.get? artifactId := by
  rw [get]
  cases ledger.store.get? artifactId <;> rfl

theorem Alike.current {other : ArtifactLedger} (h : ledger.Alike posture none other) :
    ledger.Current artifact ↔ other.Current artifact := by
  have hget := h.get artifact.artifactId
  rw [get_none, get_none] at hget
  rw [Current, Current, hget]

theorem all_beq_iff {asked : Option String} {value : String} :
    asked.all (· == value) = true ↔ ∀ other, asked = some other → value = other := by
  cases asked with
  | none => simp
  | some other => simp [eq_comm (a := other)]

theorem Sound.exact (h : ledger.Sound) : ledger.Exact posture where
  get artifactId tenantId artifact := by
    rw [ArtifactLedger.get, Option.filter_eq_some_iff]
    constructor
    · rintro ⟨hfound, hshows⟩
      obtain rfl := h.keyed artifactId artifact hfound
      exact ⟨⟨hfound, hshows⟩, rfl⟩
    · rintro ⟨⟨hfound, hshows⟩, rfl⟩
      exact ⟨hfound, hshows⟩
  query artifactType producerActionId tenantId artifact := by
    have hvalue : artifact ∈ ledger.store.values ↔ ledger.Current artifact := by
      rw [Dict.mem_values_iff]
      refine ⟨fun ⟨key, hkey⟩ => ?_, fun hcurrent => ⟨_, hcurrent⟩⟩
      obtain rfl := h.keyed key artifact hkey
      exact hkey
    rw [ArtifactLedger.query, mem_filter, mem_filter, mem_filter, hvalue, and_assoc]
    refine and_congr_right fun _ => and_congr ?_ ?_
    · exact all_beq_iff
    · exact all_beq_iff
  bySourceRef sourceRef tenantId artifact := h.sources.mem_answer h.keyed _ sourceRef
  byUpstream upstreamId tenantId artifact := h.upstreams.mem_answer h.keyed _ upstreamId

theorem Sound.covers_of_exact (h : ledger.Sound) (hexact : (ledger.absorb artifact).Exact posture) :
    ledger.Covers artifact := by
  intro old hold
  have hcurrent := current_absorb ledger artifact
  constructor
  · intro sourceRef href
    refine ((hexact.bySourceRef sourceRef none artifact).mp ?_).2
    refine mem_filter.mpr ⟨mem_filterMap.mpr ⟨artifact.artifactId, ?_, hcurrent⟩, rfl⟩
    exact InvertedIndex.mem_under_file.mpr (.inl ((h.sources sourceRef _).mpr ⟨old, hold, href⟩))
  · intro upstreamId href
    refine ((hexact.byUpstream upstreamId none artifact).mp ?_).2
    refine mem_filter.mpr ⟨mem_filterMap.mpr ⟨artifact.artifactId, ?_, hcurrent⟩, rfl⟩
    exact InvertedIndex.mem_under_file.mpr (.inl ((h.upstreams upstreamId _).mpr ⟨old, hold, href⟩))

theorem alike_absorb {tenantId : Option String} (hnew : shows posture tenantId artifact = false)
    (hold : ∀ old, ledger.store.get? artifact.artifactId = some old →
      shows posture tenantId old = false) :
    ledger.Alike posture tenantId (ledger.absorb artifact) where
  get artifactId := by
    rw [get, get, absorb, Dict.get?_set]
    split
    · rename_i hid
      rw [Option.filter_some, hnew, if_neg Bool.false_ne_true, hid]
      cases hfound : ledger.store.get? artifact.artifactId with
      | none => rfl
      | some old => rw [Option.filter_some, hold old hfound, if_neg Bool.false_ne_true]
    · rfl
  query artifactType producerActionId := by
    rw [query, query, absorb, Dict.filter_values_set hnew hold]
  bySourceRef sourceRef := (answer_set hnew hold artifact.sourceRefs sourceRef).symm
  byUpstream upstreamId := (answer_set hnew hold artifact.upstreamArtifactIds upstreamId).symm

end ArtifactLedger

/-! ## Calls -/

open ArtifactLedger

/-- What a call has to meet that passes the checks: the artifact is the current record, or the
append goes through on a file whose last line has an end and the artifact is durable; it has
the references of the record it replaces, and it replaces no record that another tenant sees. -/
def Meets (posture : Posture) (s : Registry) (call : Register) : Prop :=
  ∀ artifact, s.live.accept call.posture call.artifact = .ok artifact → (s.live.Current artifact ∨
      call.append = .written ∧ s.file.rest = none ∧ artifact.Durable posture) ∧
    s.live.Covers artifact ∧
    (artifact.tenantId ≠ "" → ∀ old, s.live.store.get? artifact.artifactId = some old →
      old.tenantId = artifact.tenantId ∨ old.tenantId = "" ∧ posture.isStrict = true)

namespace Registry

/-- What holds between the calls. -/
structure Inv (builtins : Builtins) (posture : Posture) (s : Registry) : Prop where
  sound : s.live.Sound
  durable : ∀ artifact, s.live.Current artifact → artifact.Durable posture
  loaded : load builtins posture s.file.lines = s.live
  rest : ∀ line ∈ s.file.rest, loadLine builtins posture s.live line = s.live

theorem inv_start : start.Inv builtins posture where
  sound := sound_empty
  durable _ h := (Option.some_ne_none _ h.symm).elim
  loaded := rfl
  rest _ h := (Option.some_ne_none _ h.symm).elim

variable {s : Registry} {call : Register} {artifact : Artifact}

theorem Inv.reopened (h : s.Inv builtins posture) : s.reopened builtins posture = s.live := by
  have hlines := h.loaded
  rw [load] at hlines
  rw [Registry.reopened, load, foldl_append, hlines]
  cases hrest : s.file.rest with
  | none => rfl
  | some line => exact h.rest line hrest

theorem loadLine_durable (ledger : ArtifactLedger) (h : artifact.Durable posture) :
    loadLine builtins posture ledger (.record artifact) = ledger.absorb artifact := by
  rw [loadLine, h.fromDict]

theorem Inv.loadLine_current (h : s.Inv builtins posture) (hcurrent : s.live.Current artifact) :
    loadLine builtins posture s.live (s.file.glued (.record artifact)) = s.live := by
  rw [LedgerFile.glued]
  split
  · rfl
  · rw [loadLine_durable s.live (h.durable artifact hcurrent), h.sound.absorb_eq_self hcurrent]

theorem step_eq (haccept : s.live.accept call.posture call.artifact = .ok artifact)
    (hdurable : artifact.Durable posture) : s.step builtins call =
      ⟨s.live.absorb artifact, s.file.append (.record artifact) call.append⟩ := by
  rw [step, register, haccept]
  simp only [hdurable.copied]

theorem Inv.append (h : s.Inv builtins posture) (hcurrent : s.live.Current artifact)
    (append : AppendOutcome) :
    Inv builtins posture ⟨s.live, s.file.append (.record artifact) append⟩ := by
  have hloaded := h.loaded
  have hline := h.loadLine_current hcurrent
  rw [load] at hloaded
  have hended : load builtins posture (s.file.lines ++ [s.file.glued (.record artifact)]) =
      s.live := by
    rw [load, foldl_append, hloaded]
    exact hline
  have hnothing : ∀ line ∈ (none : Option LedgerLine),
      loadLine builtins posture s.live line = s.live :=
    fun _ hnone => (Option.some_ne_none _ hnone.symm).elim
  cases append with
  | unended => exact ⟨h.sound, h.durable, h.loaded, fun line hsome => Option.some.inj hsome ▸ hline⟩
  | torn => exact ⟨h.sound, h.durable, h.loaded, fun line hsome => Option.some.inj hsome ▸ rfl⟩
  | refused => exact h
  | _ => exact ⟨h.sound, h.durable, hended, hnothing⟩

/-- A registration that meets the condition keeps the file and the registry the same. -/
theorem Inv.step (h : s.Inv builtins posture) (hmeets : Meets posture s call) :
    (s.step builtins call).Inv builtins posture := by
  cases haccept : s.live.accept call.posture call.artifact with
  | error error =>
    rw [Registry.step, register, haccept]
    exact h
  | ok artifact =>
    obtain ⟨hkept, hcovers, -⟩ := hmeets artifact haccept
    rcases hkept with hcurrent | ⟨hwritten, hrest, hdurable⟩
    · rw [step_eq haccept (h.durable artifact hcurrent), h.sound.absorb_eq_self hcurrent]
      exact h.append hcurrent call.append
    · rw [step_eq haccept hdurable, hwritten]
      have hglued : s.file.glued (.record artifact) = .record artifact := by
        rw [LedgerFile.glued, hrest, Option.isSome_none, if_neg Bool.false_ne_true]
      have hloaded := h.loaded
      rw [load] at hloaded
      refine ⟨h.sound.absorb hcovers, fun other hother => ?_, ?_, fun _ hnone => ?_⟩
      · rw [Current, absorb, Dict.get?_set] at hother
        split at hother
        · exact Option.some.inj hother ▸ hdurable
        · exact h.durable other hother
      · rw [LedgerFile.append, hglued, load, foldl_append, hloaded]
        exact loadLine_durable s.live hdurable
      · exact (Option.some_ne_none _ hnone.symm).elim

/-! ## The law -/

theorem tenantId_accept {ledger : ArtifactLedger} {posture : Posture} {given : Artifact}
    (h : ledger.accept posture given = .ok artifact) : artifact.tenantId = given.tenantId := by
  have hlet : artifact = given.identified := by
    rw [accept] at h
    split at h
    · cases h
    · dsimp only at h
      split at h
      · split at h
        · cases h
        · exact (Except.ok.inj h).symm
      · exact (Except.ok.inj h).symm
  rw [hlet, Artifact.identified]
  split <;> rfl

theorem shows_eq_false {tenantId : String} (hne : tenantId ≠ "") (h : artifact.tenantId ≠ tenantId)
    (hstrict : artifact.tenantId = "" → posture.isStrict = true) :
    shows posture (some tenantId) artifact = false := by
  rw [shows, tenantVisible, Bool.or_eq_false_iff, beq_eq_false_iff_ne]
  refine ⟨hne, ?_⟩
  split
  · rename_i hempty
    rw [hstrict hempty]
    rfl
  · exact beq_eq_false_iff_ne.mpr h

theorem not_alike_absorb {tenantId : String} {old : Artifact}
    (hold : s.live.store.get? artifact.artifactId = some old)
    (hseen : shows posture (some tenantId) old = true)
    (hgone : shows posture (some tenantId) artifact = false) :
    ¬ s.live.Alike posture (some tenantId) (s.live.absorb artifact) := by
  intro halike
  have hget := halike.get artifact.artifactId
  rw [ArtifactLedger.get, ArtifactLedger.get, hold, current_absorb s.live artifact,
    Option.filter_some, Option.filter_some, if_pos hseen, hgone, if_neg Bool.false_ne_true] at hget
  cases hget

theorem owned_of_lawful (h : Lawful builtins posture s call)
    (haccept : s.live.accept call.posture call.artifact = .ok artifact)
    (hlive : (s.step builtins call).live = s.live.absorb artifact) (hne : artifact.tenantId ≠ "")
    {old : Artifact} (hold : s.live.store.get? artifact.artifactId = some old) :
    old.tenantId = artifact.tenantId ∨ old.tenantId = "" ∧ posture.isStrict = true := by
  have htenant := tenantId_accept haccept
  have hisolated : ∀ tenantId, tenantId ≠ "" → artifact.tenantId ≠ tenantId →
      s.live.Alike posture (some tenantId) (s.live.absorb artifact) := by
    intro tenantId hsome hother
    rw [← hlive]
    exact h.isolated tenantId hsome (htenant ▸ hne) (htenant ▸ hother)
  have hgone : ∀ tenantId, tenantId ≠ "" → artifact.tenantId ≠ tenantId →
      shows posture (some tenantId) artifact = false :=
    fun tenantId hsome hother => shows_eq_false hsome hother fun hempty => (hne hempty).elim
  by_cases hempty : old.tenantId = ""
  · refine .inr ⟨hempty, ?_⟩
    by_contra hdev
    -- any tenant but the new one saw the record that had none
    have hother : artifact.tenantId ≠ artifact.tenantId ++ "'" := by
      intro heq
      have hlength := congrArg String.length heq
      simp at hlength
    have hsome : artifact.tenantId ++ "'" ≠ "" := by simp
    refine not_alike_absorb hold ?_ (hgone _ hsome hother) (hisolated _ hsome hother)
    rw [shows, tenantVisible, if_pos hempty, eq_false_of_ne_true hdev]
    exact Bool.or_true _
  · refine .inl (not_not.mp fun hdiffers => ?_)
    refine not_alike_absorb hold ?_ (hgone _ hempty (Ne.symm hdiffers))
      (hisolated _ hempty (Ne.symm hdiffers))
    rw [shows, tenantVisible, if_neg hempty, beq_self_eq_true]
    exact Bool.or_true _

theorem live_step (haccept : s.live.accept call.posture call.artifact = .ok artifact) :
    (s.step builtins call).live = s.live.absorb artifact := by
  rw [Registry.step, register, haccept]
  dsimp only
  split <;> rfl

theorem durable_of_lawful (h : Lawful builtins posture s call) (hinv : s.Inv builtins posture)
    (haccept : s.live.accept call.posture call.artifact = .ok artifact)
    (hnew : ¬ s.live.Current artifact) :
    call.append = .written ∧ s.file.rest = none ∧ artifact.Durable posture := by
  have hlive : (s.step builtins call).live = s.live.absorb artifact := live_step haccept
  have hreturns : ∀ error, (s.register builtins call).1 ≠ .error error := by
    intro error herror
    have halike := h.atomic error herror none
    rw [hlive] at halike
    exact hnew (halike.current.mpr (current_absorb s.live artifact))
  cases hcopied : artifact.copied builtins with
  | error error =>
    refine (hreturns (.raised error) ?_).elim
    rw [register, haccept]
    simp only [hcopied]
  | ok data =>
    have hregister : s.register builtins call =
        (if call.append = .written then .ok () else .error .osError,
          ⟨s.live.absorb artifact, s.file.append (.record data) call.append⟩) := by
      rw [register, haccept]
      simp only [hcopied]
    have hwritten : call.append = .written := by
      by_contra hstopped
      refine hreturns .osError ?_
      rw [hregister, if_neg hstopped]
    have hloaded := hinv.loaded
    rw [load] at hloaded
    have hcurrent : (loadLine builtins posture s.live (s.file.glued (.record data))).Current
        artifact := by
      have halike := h.reopened none
      rw [Registry.reopened, Registry.step, hregister, hwritten, LedgerFile.append,
        Option.toList_none, append_nil, load, foldl_append, hloaded] at halike
      exact halike.current.mp (current_absorb s.live artifact)
    refine ⟨hwritten, ?_⟩
    cases hrest : s.file.rest with
    | some line =>
      rw [LedgerFile.glued, hrest, Option.isSome_some, if_pos rfl] at hcurrent
      exact (hnew hcurrent).elim
    | none =>
      rw [LedgerFile.glued, hrest, Option.isSome_none, if_neg Bool.false_ne_true,
        loadLine] at hcurrent
      refine ⟨rfl, ?_⟩
      cases hread : data.fromDict builtins posture with
      | error error =>
        rw [hread] at hcurrent
        exact (hnew hcurrent).elim
      | ok other =>
        rw [hread] at hcurrent
        change (s.live.store.set other.artifactId other).get? artifact.artifactId =
          some artifact at hcurrent
        rw [Dict.get?_set] at hcurrent
        split at hcurrent
        · exact Artifact.durable_of_fromDict hcopied
            (hread.trans (congrArg Except.ok (Option.some.inj hcurrent)))
        · exact (hnew hcurrent).elim

theorem lawful_iff_meets (h : s.Inv builtins posture) :
    Lawful builtins posture s call ↔ Meets posture s call := by
  constructor
  · intro hlawful artifact haccept
    have hlive : (s.step builtins call).live = s.live.absorb artifact := live_step haccept
    refine ⟨?_, ?_, fun hne old hold => owned_of_lawful hlawful haccept hlive hne hold⟩
    · by_cases hcurrent : s.live.Current artifact
      · exact .inl hcurrent
      · exact .inr (durable_of_lawful hlawful h haccept hcurrent)
    · have hexact := hlawful.exact
      rw [hlive] at hexact
      exact h.sound.covers_of_exact hexact
  · intro hmeets
    have hnext := h.step hmeets
    refine ⟨fun tenantId => ?_, hnext.sound.exact, fun error herror tenantId => ?_,
      fun tenantId hsome hne hother => ?_⟩
    · rw [hnext.reopened]
      exact .refl tenantId _
    · cases haccept : s.live.accept call.posture call.artifact with
      | error error =>
        rw [Registry.step, register, haccept]
        exact .refl tenantId s.live
      | ok artifact =>
        rcases (hmeets artifact haccept).1 with hcurrent | ⟨hwritten, -, hdurable⟩
        · rw [live_step haccept, h.sound.absorb_eq_self hcurrent]
          exact .refl tenantId s.live
        · rw [register, haccept] at herror
          simp only [hdurable.copied, hwritten, if_pos] at herror
          cases herror
    · cases haccept : s.live.accept call.posture call.artifact with
      | error error =>
        rw [Registry.step, register, haccept]
        exact .refl (some tenantId) s.live
      | ok artifact =>
        have htenant := tenantId_accept haccept
        rw [← htenant] at hne hother
        rw [live_step haccept]
        refine alike_absorb (shows_eq_false hsome hother fun hempty => (hne hempty).elim)
          fun old hold => ?_
        rcases (hmeets artifact haccept).2.2 hne old hold with howned | ⟨hempty, hstrict⟩
        · exact shows_eq_false hsome (howned ▸ hother) fun hempty => (hne (howned ▸ hempty)).elim
        · exact shows_eq_false hsome (hempty ▸ hsome.symm) fun _ => hstrict

end Registry

/-- Of a new ledger that is read and opened again under any posture: a history of calls keeps
the law exactly when each of them meets the condition. -/
theorem along_lawful_iff_meets (builtins : Builtins) (posture : Posture) (calls : List Register) :
    Along (Registry.step builtins) (Lawful builtins posture) .start calls ↔
      Along (Registry.step builtins) (Meets posture) .start calls := by
  have hkeeps : ∀ s call, Registry.Inv builtins posture s → Meets posture s call →
      Registry.Inv builtins posture (s.step builtins call) := fun _ _ => Registry.Inv.step
  have hsame : ∀ s call, Registry.Inv builtins posture s →
      (Lawful builtins posture s call ↔ Meets posture s call) :=
    fun _ _ => Registry.lawful_iff_meets
  exact along_iff_along hkeeps hsame Registry.inv_start calls

theorem digest_ne_empty : "e3b0c44298fc1c149afbf4c8" ≠ "" := by decide

def sameDigest : Builtins where
  str _ := "object"
  sha256 _ := "e3b0c44298fc1c149afbf4c8"
  sha256_ne _ := digest_ne_empty

/-- A record of a finding that cites one source. -/
def finding (sourceRef : String) : Artifact where
  artifactId := "finding"
  sourceRefs := [sourceRef]
  projectId := "project"
  tenantId := "tenant"
  runId := "run"

/-- The record is registered again with another source, and is still found under the first. -/
theorem not_along_lawful_cited : ¬ Along (Registry.step sameDigest) (Lawful sameDigest .dev) .start
      [⟨.dev, finding "first", .written⟩, ⟨.dev, finding "second", .written⟩] := by
  rintro ⟨-, hsecond, -⟩
  have hanswer := (hsecond.exact.bySourceRef "first" none (finding "second")).mp
    (List.Mem.head [])
  exact absurd hanswer.2 (by decide)

end HiAgent.Artifacts
