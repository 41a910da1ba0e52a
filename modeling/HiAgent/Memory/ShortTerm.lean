/-
  Memory/ShortTerm.lean --- `ShortTermMemory` and `ShortTermMemoryStore`.

  The session store keeps one file a record, and beside them `_manifest.json`, a list of what
  there is. A session is saved under a file name in which the separators of its id are
  replaced, then entered in the manifest, then the oldest entries beyond the bound go.
-/
import HiAgent.Foundation.Dict
import HiAgent.Foundation.PyValue
import HiAgent.Server.Environment

namespace HiAgent.Memory

open Foundation

/-- What the stores raise. -/
inductive StoreError where
  | typeError
  | valueError
  | osError

/-- The order in which a set, or a directory, is gone through. -/
structure IterationOrder where
  order : {α : Type} → List α → List α
  perm : ∀ {α : Type} (items : List α), (order items).Perm items

def IterationOrder.byInsertion : IterationOrder := ⟨id, fun _ => .refl _⟩

/-- An entry of a manifest, but for the size of the file, which nothing reads. -/
structure ManifestEntry where
  id : String
  timestamp : String
  deriving DecidableEq

/-- What a file holds: the object of a record, or a list of entries. -/
inductive Document (α : Type) where
  | record (data : α)
  | manifest (entries : List ManifestEntry)
  deriving DecidableEq

abbrev Directory (α : Type) := Dict String (Document α)

/-- Where the names of files lead. A name without a separator stays in the directory, if a file
can have it (none has a NUL, nor more bytes than the file system takes); one with separators
leads to a file elsewhere, or, where a directory is missing, nowhere. -/
structure Places where
  locate : String → Option String
  locate_nul : ∀ name, '\x00' ∈ name.toList → locate name = none
  locate_plain : ∀ name place, '/' ∉ name.toList → locate name = some place → place = name
  locate_short : ∀ name, '/' ∉ name.toList → '\x00' ∉ name.toList → name.toList.length ≤ 63 →
    (locate name).isSome

def Places.flat : Places where
  locate name := if '/' ∈ name.toList ∨ '\x00' ∈ name.toList then none else some name
  locate_nul _ hnul := if_pos (.inr hnul)
  locate_plain name place _ hplace := by
    split at hplace
    · cases hplace
    · exact (Option.some.inj hplace).symm
  locate_short _ hplain hnul _ := by
    rw [if_neg (not_or.mpr ⟨hplain, hnul⟩)]
    rfl

/-- What `os.replace` raises where a name leads nowhere. -/
def Places.refusal (name : String) : StoreError :=
  if '\x00' ∈ name.toList then .valueError else .osError

def manifestName : String := "_manifest.json"

namespace Directory

variable {α : Type} (dir : Directory α)

/-- `_load_manifest`: a file that is no list counts as none. -/
def loadManifest : List ManifestEntry :=
  match dir.get? manifestName with
  | some (.manifest entries) => entries
  | _ => []

def saveManifest (entries : List ManifestEntry) : Directory α :=
  dir.set manifestName (.manifest entries)

/-- `glob("*.json")` without the manifest. -/
def files (scan : IterationOrder) : List (String × Document α) :=
  scan.order (dir.rows.filter fun file => file.1 != manifestName)

theorem mem_files_iff {scan : IterationOrder} {file : String × Document α} :
    file ∈ files dir scan ↔ dir.get? file.1 = some file.2 ∧ file.1 ≠ manifestName := by
  rw [files, (scan.perm _).mem_iff, List.mem_filter, bne_iff_ne, Dict.get?_eq_some_iff]

theorem nodup_files (scan : IterationOrder) : (files dir scan).Nodup := by
  rw [files, (scan.perm _).nodup_iff]
  exact (List.Nodup.of_map Prod.fst dir.keysNodup).sublist List.filter_sublist

@[simp] theorem loadManifest_saveManifest (entries : List ManifestEntry) :
    loadManifest (saveManifest dir entries) = entries := by
  rw [loadManifest, saveManifest, Dict.get?_set, if_pos rfl]

theorem get?_saveManifest {name : String} (hname : name ≠ manifestName)
    (entries : List ManifestEntry) : (saveManifest dir entries).get? name = dir.get? name := by
  rw [saveManifest, Dict.get?_set, if_neg hname]

theorem loadManifest_set {name : String} (hname : name ≠ manifestName) (document : Document α) :
    loadManifest (dir.set name document) = loadManifest dir := by
  rw [loadManifest, Dict.get?_set, if_neg hname.symm, loadManifest]

theorem get?_delete (p : String → Bool) (name : String) :
    Dict.get? (dir.delete fun file => p file.1) name = if p name then none else dir.get? name := by
  rw [Dict.get?, Table.lookup_delete, Dict.get?]
  cases hfile : dir.lookup name with
  | none =>
    rw [Option.filter_none, Option.map_none]
    split
    · rfl
    · rfl
  | some file =>
    obtain rfl : file.1 = name := Table.key_of_lookup hfile
    rw [Option.filter_some]
    cases p file.1 with
    | true => rfl
    | false => rfl

end Directory

open Server

/-! ## Sessions -/

theorem zero_ne : (some "0.0" : Option String) ≠ some "" := by decide

/-- `0.0`. -/
def zeroFloat : PyFloat := ⟨"0.0", some "0.0", zero_ne, some 0⟩

structure ShortTermMemory where
  sessionId : String
  runId : String
  taskGoal : String
  stagesCompleted : List String
  keyFindings : List String
  keyDecisions : List String
  toolsUsed : List String
  errorsEncountered : List String
  outcome : String
  durationSeconds : PyFloat
  totalTokensUsed : Int
  totalCostUsd : PyFloat
  createdAt : String
  tenantId : String
  deriving DecidableEq

/-- `__post_init__`. -/
def ShortTermMemory.checked (posture : Posture) (memory : ShortTermMemory) :
    Except StoreError ShortTermMemory :=
  if posture.isStrict ∧ memory.tenantId = "" then .error .valueError else .ok memory

/-- The fields that `_dict_to_short_term` reads; the tenant is not among them. -/
def ShortTermMemory.reread (data : ShortTermMemory) : ShortTermMemory :=
  { data with tenantId := "" }

/-- `if not memory.created_at: memory.created_at = now`. -/
def ShortTermMemory.stamped (memory : ShortTermMemory) (now : String) : ShortTermMemory :=
  { memory with createdAt := if memory.createdAt = "" then now else memory.createdAt }

@[simp] theorem ShortTermMemory.stamped_sessionId (memory : ShortTermMemory) (now : String) :
    (memory.stamped now).sessionId = memory.sessionId := rfl

/-- `_dict_to_short_term`; a list has no keys. -/
def dictToShortTerm (posture : Posture) : Document ShortTermMemory →
    Except StoreError ShortTermMemory
  | .record data => data.reread.checked posture
  | .manifest _ => .error .typeError

theorem dictToShortTerm_record (posture : Posture) (data : ShortTermMemory) :
    dictToShortTerm posture (.record data) =
      if posture.isStrict then .error .valueError else .ok data.reread := by
  rw [dictToShortTerm, ShortTermMemory.checked]
  exact if_congr (and_iff_left rfl) rfl rfl

/-- A memory with nothing but an id, a goal and a tenant. -/
def ShortTermMemory.note (sessionId taskGoal tenantId : String) : ShortTermMemory where
  sessionId := sessionId
  runId := "run"
  taskGoal := taskGoal
  stagesCompleted := []
  keyFindings := []
  keyDecisions := []
  toolsUsed := []
  errorsEncountered := []
  outcome := "completed"
  durationSeconds := zeroFloat
  totalTokensUsed := 0
  totalCostUsd := zeroFloat
  createdAt := "2026-01-01T10:00:00"
  tenantId := tenantId

/-! ## The store -/

/-- `ShortTermMemoryStore`, with its directory. -/
structure ShortTermMemoryStore where
  maxSessions : Int
  dir : Directory ShortTermMemory

/-- The entries of a manifest in the order of `entries.sort(key=timestamp, reverse=True)`. -/
def newestFirst (entries : List ManifestEntry) : List ManifestEntry :=
  entries.insertionSort fun first second => second.timestamp ≤ first.timestamp

namespace ShortTermMemoryStore

variable (posture : Posture) (scan : IterationOrder) (store : ShortTermMemoryStore)

def new (maxSessions : Int) : ShortTermMemoryStore := ⟨maxSessions, .empty⟩

/-- `session_id.replace("/", "__").replace("\\", "__")`. -/
def safeId (sessionId : String) : String :=
  String.ofList (sessionId.toList.flatMap fun c => if c = '/' ∨ c = '\\' then ['_', '_'] else [c])

def memoryPath (sessionId : String) : String := safeId sessionId ++ ".json"

def manifestUpsert (dir : Directory ShortTermMemory) (sessionId timestamp : String) :
    Directory ShortTermMemory :=
  Directory.saveManifest dir
    (newestFirst ((Directory.loadManifest dir).filter (fun entry => entry.id != sessionId) ++
        [⟨sessionId, timestamp⟩]))

def unlink (dir : Directory ShortTermMemory) (sessionIds : List String) :
    Directory ShortTermMemory :=
  sessionIds.foldl (fun dir sessionId => dir.pop (memoryPath sessionId)) dir

/-- The directory scan of `_evict_oldest`, where there is no manifest. -/
def evictScanned (dir : Directory ShortTermMemory) (keep : Nat) : Directory ShortTermMemory :=
  let entries := (Directory.files dir scan).filterMap fun file =>
    match file.2 with
    | .record data => some (data.createdAt, file.1)
    | .manifest _ => none
  if entries.length ≤ keep then dir
  else
    let oldestFirst := entries.mergeSort fun first second => first.1 ≤ second.1
    (oldestFirst.take (entries.length - keep)).foldl (fun dir file => dir.pop file.2) dir

def evictOldest (dir : Directory ShortTermMemory) (keep : Nat) : Directory ShortTermMemory :=
  let manifest := Directory.loadManifest dir
  if manifest = [] then evictScanned scan dir keep
  else if manifest.length ≤ keep then dir
  else
    -- an entry without an id has no file
    let evicted := ((manifest.drop keep).map ManifestEntry.id).filter (· != "")
    let dir := unlink dir evicted
    if evicted = [] then dir
    else
      Directory.saveManifest dir
        ((Directory.loadManifest dir).filter fun entry => entry.id ∉ evicted)

/-- `save` behind `os.replace`. -/
def written (memory : ShortTermMemory) (now : String) : ShortTermMemoryStore :=
  let memory := memory.stamped now
  let dir := store.dir.set (memoryPath memory.sessionId) (.record memory)
  let dir := manifestUpsert dir memory.sessionId memory.createdAt
  { store with
    dir := if 0 < store.maxSessions then evictOldest scan dir store.maxSessions.toNat else dir }

def save (places : Places) (memory : ShortTermMemory) (now : String) :
    Except StoreError ShortTermMemoryStore :=
  match places.locate (memoryPath memory.sessionId) with
  | none => .error (Places.refusal (memoryPath memory.sessionId))
  | some _ => .ok (store.written scan memory now)

def load (sessionId : String) : Except StoreError (Option ShortTermMemory) :=
  match store.dir.get? (memoryPath sessionId) with
  | none => .ok none
  | some document => (dictToShortTerm posture document).map some

def listRecent (limit : Int) : Except StoreError (List ShortTermMemory) :=
  let manifest := Directory.loadManifest store.dir
  if manifest = [] then
    ((Directory.files store.dir scan).mapM fun file => dictToShortTerm posture file.2).map
      fun memories =>
        Text.upTo limit (memories.mergeSort fun first second => second.createdAt ≤ first.createdAt)
  else
    (((Text.upTo limit manifest).filter fun entry => entry.id != "").mapM fun entry =>
      store.load posture entry.id).map fun memories => memories.filterMap id

def listByDate (date : String) : Except StoreError (List ShortTermMemory) :=
  ((Directory.files store.dir scan).mapM fun file => dictToShortTerm posture file.2).map
    fun memories =>
      (memories.filter fun memory => Text.startsWith date memory.createdAt).mergeSort
        fun first second => first.createdAt ≤ second.createdAt

end ShortTermMemoryStore

end HiAgent.Memory
