/-
  Memory/Survival.lean --- what of a memory survives its storage.

  A session, a summary or a graph is saved where nothing else is stored, and read again in
  every way there is. The writers take whole objects; the readers build new ones and leave
  the tenant to its default.
-/
import HiAgent.Memory.LongTerm.Index
import HiAgent.Memory.MidTerm

namespace HiAgent.Memory

open Foundation Server List

/-! ## One record in a directory -/

namespace Directory

variable {α : Type} {dir : Directory α} {name : String} {data : α} {entries : List ManifestEntry}

/-- Besides the manifest there is one record. -/
structure Single (dir : Directory α) (name : String) (data : α) (entries : List ManifestEntry) :
    Prop where
  manifest : loadManifest dir = entries
  file : ∀ other, other ≠ manifestName →
    dir.get? other = if other = name then some (.record data) else none

theorem Single.files_eq (h : Single dir name data entries) (hname : name ≠ manifestName)
    (scan : IterationOrder) : files dir scan = [(name, .record data)] := by
  refine perm_singleton.mp ((perm_ext_iff_of_nodup (nodup_files dir scan)
    (nodup_singleton _)).mpr fun file => ?_)
  rw [mem_files_iff, mem_singleton]
  constructor
  · rintro ⟨hget, hother⟩
    rw [h.file file.1 hother] at hget
    split at hget
    · rename_i hsame
      exact Prod.ext hsame (Option.some.inj hget).symm
    · cases hget
  · rintro rfl
    refine ⟨?_, hname⟩
    rw [h.file name hname, if_pos rfl]

theorem loadManifest_first (name : String) (data : α) :
    loadManifest ((Dict.empty : Directory α).set name (.record data)) = [] := by
  rw [loadManifest, Dict.get?_set]
  by_cases hname : manifestName = name
  · rw [if_pos hname]
  · rw [if_neg hname]
    rfl

theorem single_first (name : String) (data : α) (entries : List ManifestEntry) :
    Single (saveManifest ((Dict.empty : Directory α).set name (.record data)) entries) name data
      entries where
  manifest := loadManifest_saveManifest _ entries
  file other hother := by
    rw [get?_saveManifest _ hother, Dict.get?_set]
    rfl

theorem get?_manifest_saveManifest (dir : Directory α) (entries : List ManifestEntry) :
    (saveManifest dir entries).get? manifestName = some (.manifest entries) := by
  rw [saveManifest, Dict.get?_set, if_pos rfl]

end Directory

/-! ## Sessions -/

namespace ShortTermMemoryStore

variable {posture : Posture} {scan : IterationOrder}

theorem dictToShortTerm_eq_iff {data : ShortTermMemory} :
    dictToShortTerm posture (.record data) = .ok data ↔
      posture.isStrict = false ∧ data.tenantId = "" := by
  rw [dictToShortTerm_record]
  cases posture.isStrict with
  | true => simp
  | false =>
    rw [if_neg Bool.false_ne_true, Except.ok.injEq]
    constructor
    · intro hsame
      exact ⟨rfl, (congrArg ShortTermMemory.tenantId hsame).symm⟩
    · rintro ⟨-, htenant⟩
      rw [ShortTermMemory.reread, ← htenant]

variable {memory : ShortTermMemory} {now : String} {store : ShortTermMemoryStore}

theorem dir_written_of_empty (hempty : store.dir = Dict.empty) :
    (store.written scan memory now).dir = Directory.saveManifest
        ((Dict.empty : Directory ShortTermMemory).set (memoryPath memory.sessionId)
          (.record (memory.stamped now)))
        [⟨memory.sessionId, (memory.stamped now).createdAt⟩] := by
  have hupsert : manifestUpsert ((Dict.empty : Directory ShortTermMemory).set
      (memoryPath memory.sessionId) (.record (memory.stamped now))) memory.sessionId
        (memory.stamped now).createdAt =
      Directory.saveManifest ((Dict.empty : Directory ShortTermMemory).set
        (memoryPath memory.sessionId) (.record (memory.stamped now)))
        [⟨memory.sessionId, (memory.stamped now).createdAt⟩] := by
    rw [manifestUpsert, Directory.loadManifest_first, filter_nil, nil_append, newestFirst,
      insertionSort_cons, insertionSort_nil, orderedInsert_nil]
  rw [written]
  dsimp only
  rw [ShortTermMemory.stamped_sessionId, hempty, hupsert]
  split
  · rename_i hpos
    rw [evictOldest, Directory.loadManifest_saveManifest]
    dsimp only
    rw [if_neg (cons_ne_nil _ _), if_pos]
    rw [length_singleton]
    omega
  · rfl

theorem save_eq_ok_iff {places : Places} {saved : ShortTermMemoryStore} :
    store.save scan places memory now = .ok saved ↔
      (places.locate (memoryPath memory.sessionId)).isSome ∧
        store.written scan memory now = saved := by
  rw [save]
  cases places.locate (memoryPath memory.sessionId) with
  | none => simp
  | some place => simp

theorem load_manifest (hempty : store.dir = Dict.empty)
    (hpath : memoryPath memory.sessionId = manifestName) :
    (store.written scan memory now).load posture memory.sessionId = .error .typeError := by
  rw [load, dir_written_of_empty hempty, hpath, Directory.get?_manifest_saveManifest]
  rfl

theorem load_single (posture : Posture) (memory : ShortTermMemory)
    (hpath : memoryPath memory.sessionId ≠ manifestName) {entries : List ManifestEntry}
    (h : Directory.Single store.dir (memoryPath memory.sessionId) memory entries) :
    store.load posture memory.sessionId = (dictToShortTerm posture (.record memory)).map some := by
  rw [load, h.file _ hpath, if_pos rfl]

theorem listRecent_single (memory : ShortTermMemory)
    (hpath : memoryPath memory.sessionId ≠ manifestName) {time : String}
    (h : Directory.Single store.dir (memoryPath memory.sessionId) memory [⟨memory.sessionId, time⟩])
    {limit : Int} (hlimit : 1 ≤ limit) :
    store.listRecent posture scan limit = if memory.sessionId = "" then .ok []
      else (dictToShortTerm posture (.record memory)).map fun found => [found] := by
  rw [listRecent, h.manifest, if_neg (cons_ne_nil _ _), Text.upTo_singleton hlimit]
  by_cases hid : memory.sessionId = ""
  · rw [if_pos hid, filter_cons_of_neg (by simpa using hid)]
    rfl
  · rw [if_neg hid, filter_cons_of_pos (by simpa using hid), filter_nil,
      mapM_cons, load_single posture memory hpath h]
    cases dictToShortTerm posture (.record memory) with
    | error error => rfl
    | ok found => rfl

theorem listByDate_single (memory : ShortTermMemory)
    (hpath : memoryPath memory.sessionId ≠ manifestName) {entries : List ManifestEntry}
    (h : Directory.Single store.dir (memoryPath memory.sessionId) memory entries) (date : String) :
    store.listByDate posture scan date = (dictToShortTerm posture (.record memory)).map fun found =>
        if Text.startsWith date found.createdAt then [found] else [] := by
  rw [listByDate, h.files_eq hpath, mapM_cons]
  dsimp only
  cases dictToShortTerm posture (.record memory) with
  | error error => rfl
  | ok found =>
    simp only [Except.map, mapM_nil, bind, Except.bind, pure, Except.pure]
    by_cases hdate : Text.startsWith date found.createdAt = true
    · rw [if_pos hdate, filter_cons, if_pos hdate, filter_nil, mergeSort_singleton]
    · rw [if_neg hdate, filter_cons, if_neg hdate, filter_nil, mergeSort_nil]

end ShortTermMemoryStore

/-! ## Summaries -/

namespace MidTermMemoryStore

variable {posture : Posture} {scan : IterationOrder} {places : Places}
  {summary : DailySummary} {now cutoff place : String} {store : MidTermMemoryStore}

theorem dictToDailySummary_record (posture : Posture) (data : DailySummary) :
    dictToDailySummary posture (.record data) =
      if posture.isStrict then .error .valueError else .ok data.reread := by
  rw [dictToDailySummary, DailySummary.checked]
  exact if_congr (and_iff_left rfl) rfl rfl

theorem dictToDailySummary_eq_iff {data : DailySummary} :
    dictToDailySummary posture (.record data) = .ok data ↔
      posture.isStrict = false ∧ data.tenantId = "" := by
  rw [dictToDailySummary_record]
  cases posture.isStrict with
  | true => simp
  | false =>
    rw [if_neg Bool.false_ne_true, Except.ok.injEq]
    constructor
    · intro hsame
      exact ⟨rfl, (congrArg DailySummary.tenantId hsame).symm⟩
    · rintro ⟨-, htenant⟩
      rw [DailySummary.reread, ← htenant]

def remaining (maxDays : Int) (cutoff : String) (entry : ManifestEntry) : List ManifestEntry :=
  if 0 < maxDays ∧ ¬ cutoff ≤ entry.id then [] else [entry]

theorem loadManifest_evictOlderThan (dir : Directory DailySummary) (cutoff : String) :
    Directory.loadManifest (evictOlderThan dir cutoff) =
      (Directory.loadManifest dir).filter fun entry => decide (cutoff ≤ entry.id) := by
  rw [evictOlderThan, manifestRemoveBefore, Directory.loadManifest_saveManifest,
    Directory.loadManifest, Directory.get?_delete, outdated_manifest, if_neg Bool.false_ne_true,
    Directory.loadManifest]

theorem get?_evictOlderThan (dir : Directory DailySummary) (cutoff : String) {name : String}
    (hname : name ≠ manifestName) :
    (evictOlderThan dir cutoff).get? name =
      if outdated cutoff name then none else dir.get? name := by
  rw [evictOlderThan, manifestRemoveBefore, Directory.get?_saveManifest _ hname,
    Directory.get?_delete]

def firstDir (place : String) (summary : DailySummary) : Directory DailySummary :=
  Directory.saveManifest ((Dict.empty : Directory DailySummary).set place (.record summary))
    [⟨summary.date, summary.createdAt⟩]

theorem save_of_empty (hempty : store.dir = Dict.empty)
    (hplace : places.locate (summaryPath summary.date) = some place) :
    store.save places summary now cutoff = .ok
      { store with
        dir :=
          if 0 < store.maxDays then evictOlderThan (firstDir place (summary.stamped now)) cutoff
          else firstDir place (summary.stamped now) } := by
  have hplace' : places.locate (summaryPath (summary.stamped now).date) = some place := hplace
  have hupsert : manifestUpsert ((Dict.empty : Directory DailySummary).set place
      (.record (summary.stamped now))) (summary.stamped now).date (summary.stamped now).createdAt =
        firstDir place (summary.stamped now) := by
    rw [manifestUpsert, Directory.loadManifest_first, filter_nil, nil_append,
      mergeSort_singleton, firstDir]
  rw [save]
  dsimp only
  rw [hplace']
  dsimp only
  rw [hempty, hupsert]

theorem single_save (now : String) (hempty : store.dir = Dict.empty)
    (hplace : places.locate (summaryPath summary.date) = some place)
    (hrecent : 0 < store.maxDays → outdated cutoff place = false) :
    ∃ saved, store.save places summary now cutoff = .ok saved ∧
      Directory.Single saved.dir place (summary.stamped now)
        (remaining store.maxDays cutoff ⟨summary.date, (summary.stamped now).createdAt⟩) := by
  refine ⟨_, save_of_empty hempty hplace, ?_⟩
  have hfirst : Directory.Single (firstDir place (summary.stamped now)) place (summary.stamped now)
      [⟨summary.date, (summary.stamped now).createdAt⟩] := Directory.single_first _ _ _
  dsimp only
  split
  · rename_i hpos
    refine ⟨?_, fun other hother => ?_⟩
    · rw [loadManifest_evictOlderThan, hfirst.manifest, remaining]
      by_cases hkept : cutoff ≤ summary.date
      · rw [if_neg fun h => h.2 hkept, filter_cons_of_pos (by simpa using hkept), filter_nil]
      · rw [if_pos ⟨hpos, hkept⟩, filter_cons_of_neg (by simpa using hkept), filter_nil]
    · rw [get?_evictOlderThan _ _ hother, hfirst.file other hother]
      by_cases hsame : other = place
      · rw [hsame, hrecent hpos]
        rfl
      · rw [if_neg hsame, ite_self]
  · rename_i hall
    rw [remaining, if_neg fun h => hall h.1]
    exact hfirst

theorem load_save_manifest (hempty : store.dir = Dict.empty)
    (hplace : places.locate (summaryPath summary.date) = some manifestName)
    {saved : MidTermMemoryStore} (hsave : store.save places summary now cutoff = .ok saved) :
    saved.load posture places summary.date = .error .typeError := by
  rw [save_of_empty hempty hplace] at hsave
  obtain rfl := Except.ok.inj hsave
  have hget : ∃ entries, (if 0 < store.maxDays
      then evictOlderThan (firstDir manifestName (summary.stamped now)) cutoff
      else firstDir manifestName (summary.stamped now)).get? manifestName =
        some (.manifest entries) := by
    split
    · exact ⟨_, Directory.get?_manifest_saveManifest _ _⟩
    · exact ⟨_, Directory.get?_manifest_saveManifest _ _⟩
  obtain ⟨entries, hget⟩ := hget
  rw [load, hplace, Option.bind_some, hget]
  rfl

theorem load_save_outdated (hempty : store.dir = Dict.empty)
    (hplace : places.locate (summaryPath summary.date) = some place) (hname : place ≠ manifestName)
    (hpos : 0 < store.maxDays) (houtdated : outdated cutoff place = true)
    {saved : MidTermMemoryStore} (hsave : store.save places summary now cutoff = .ok saved) :
    saved.load posture places summary.date = .ok none := by
  rw [save_of_empty hempty hplace] at hsave
  obtain rfl := Except.ok.inj hsave
  rw [load, hplace, Option.bind_some]
  dsimp only
  rw [if_pos hpos, get?_evictOlderThan _ _ hname, if_pos houtdated]

theorem load_single (posture : Posture) (summary : DailySummary)
    (hplace : places.locate (summaryPath summary.date) = some place)
    (hname : place ≠ manifestName) {entries : List ManifestEntry}
    (h : Directory.Single store.dir place summary entries) :
    store.load posture places summary.date =
      (dictToDailySummary posture (.record summary)).map some := by
  rw [load, hplace, Option.bind_some, h.file _ hname, if_pos rfl]

/-- Whether `list_recent` comes upon a summary: over the manifest, which passes over a date that
is empty, or, where the eviction left no entries, over the files of the directory. -/
def Listed (maxDays : Int) (cutoff place date : String) : Prop :=
  if 0 < maxDays ∧ ¬ cutoff ≤ date then isHere place = true else date ≠ ""

theorem listRecent_single (summary : DailySummary)
    (hplace : places.locate (summaryPath summary.date) = some place)
    (hname : place ≠ manifestName) {maxDays : Int} {time : String}
    (h : Directory.Single store.dir place summary (remaining maxDays cutoff ⟨summary.date, time⟩))
    {days : Int} (hdays : 1 ≤ days) :
    (Listed maxDays cutoff place summary.date → store.listRecent posture scan places days =
      (dictToDailySummary posture (.record summary)).map fun found => [found]) ∧
    (¬ Listed maxDays cutoff place summary.date →
      store.listRecent posture scan places days = .ok []) := by
  rw [listRecent, h.manifest, remaining, Listed]
  by_cases hgone : 0 < maxDays ∧ ¬ cutoff ≤ summary.date
  · rw [if_pos hgone, if_pos hgone, if_pos rfl, h.files_eq hname]
    refine ⟨fun hhere => ?_, fun hhere => ?_⟩
    · rw [filter_cons, if_pos hhere, filter_nil, mapM_cons]
      cases dictToDailySummary posture (.record summary) with
      | error error => rfl
      | ok found =>
        simp only [Except.map, mapM_nil, bind, Except.bind, pure, Except.pure]
        rw [mergeSort_singleton, Text.upTo_singleton hdays]
    · rw [filter_cons, if_neg hhere, filter_nil]
      simp [Except.map, pure, Except.pure, Text.upTo]
  · rw [if_neg hgone, if_neg hgone, if_neg (cons_ne_nil _ _), Text.upTo_singleton hdays]
    refine ⟨fun hdate => ?_, fun hdate => ?_⟩
    · rw [filter_cons_of_pos (by simpa using hdate), filter_nil, mapM_cons,
        load_single posture summary hplace hname h]
      cases dictToDailySummary posture (.record summary) with
      | error error => rfl
      | ok found => rfl
    · rw [filter_cons_of_neg (by simpa using hdate)]
      rfl

end MidTermMemoryStore

/-! ## Graphs -/

theorem map_eq_self_iff {α : Type} {f : α → α} {items : List α} :
    items.map f = items ↔ ∀ item ∈ items, f item = item := by
  have hid : items.map f = items ↔ items.map f = items.map id := by rw [map_id]
  exact hid.trans map_inj_left

theorem MemoryNode.reread_eq_iff {node : MemoryNode} : node.reread = node ↔ node.tenantId = "" := by
  constructor
  · intro hsame
    exact (congrArg MemoryNode.tenantId hsame).symm
  · intro htenant
    rw [MemoryNode.reread, ← htenant]

theorem MemoryEdge.reread_eq_iff {edge : MemoryEdge} : edge.reread = edge ↔ edge.tenantId = "" := by
  constructor
  · intro hsame
    exact (congrArg MemoryEdge.tenantId hsame).symm
  · intro htenant
    rw [MemoryEdge.reread, ← htenant]

namespace LongTermMemoryGraph

variable {ρ β : Type} {text : GraphText ρ β} {posture : Posture} {graph : LongTermMemoryGraph ρ β}

def Untenanted (graph : LongTermMemoryGraph ρ β) : Prop :=
  (∀ row ∈ graph.nodes.rows, row.2.tenantId = "") ∧ ∀ edge ∈ graph.edges, edge.tenantId = ""

def Reloads (text : GraphText ρ β) (posture : Posture) (graph : LongTermMemoryGraph ρ β) : Prop :=
  ∃ loaded, ({ (new : LongTermMemoryGraph ρ β) with file := graph.save.file }).load text posture =
      (loaded, none) ∧
    loaded.nodes = graph.nodes ∧ loaded.edges = graph.edges

theorem mapValues_eq_self_iff {nodes : Dict String MemoryNode} :
    nodes.mapValues MemoryNode.reread = nodes ↔ ∀ row ∈ nodes.rows, row.2.tenantId = "" := by
  have hrows : (nodes.mapValues MemoryNode.reread).rows =
      nodes.rows.map fun row => (row.1, row.2.reread) := rfl
  constructor
  · intro hsame row hrow
    have hmap := congrArg Table.rows hsame
    rw [hrows, map_eq_self_iff] at hmap
    exact MemoryNode.reread_eq_iff.mp (congrArg Prod.snd (hmap row hrow))
  · intro htenant
    refine Table.ext_rows ?_
    rw [hrows, map_eq_self_iff]
    exact fun row hrow => Prod.ext rfl (MemoryNode.reread_eq_iff.mpr (htenant row hrow))

theorem edges_map_eq_self_iff {edges : List MemoryEdge} :
    edges.map MemoryEdge.reread = edges ↔ ∀ edge ∈ edges, edge.tenantId = "" :=
  map_eq_self_iff.trans (forall₂_congr fun _ _ => MemoryEdge.reread_eq_iff)

theorem reloads_iff_of_dev (hdev : posture.isStrict = false) :
    graph.Reloads text posture ↔ graph.Untenanted := by
  have hload := @load_eq _ _ text posture
    { (new : LongTermMemoryGraph ρ β) with file := graph.save.file } hdev
      ⟨graph.nodes, graph.edges⟩ rfl
  obtain ⟨adjacency, hload, -⟩ := hload
  rw [Reloads, hload, Untenanted, ← mapValues_eq_self_iff, ← edges_map_eq_self_iff]
  constructor
  · rintro ⟨loaded, heq, hsame⟩
    obtain rfl := (Prod.ext_iff.mp heq).1
    exact hsame
  · exact fun hsame => ⟨_, rfl, hsame⟩

theorem eq_nil_of_load (hstrict : posture.isStrict = true) (file : StoredGraph)
    (hfile : graph.file = some file) (hload : (graph.load text posture).2 = none) :
    file.nodes.rows = [] ∧ file.edges = [] := by
  rw [load, hfile] at hload
  dsimp only at hload
  cases hrows : file.nodes.rows with
  | cons row rest =>
    rw [hrows, loadNodes, MemoryNode.checked, if_pos ⟨hstrict, rfl⟩] at hload
    cases hload
  | nil =>
    cases hedges : file.edges with
    | nil => exact ⟨rfl, rfl⟩
    | cons edge rest =>
      rw [hrows, loadNodes] at hload
      dsimp only at hload
      rw [hedges, loadEdges, MemoryEdge.checked, if_pos ⟨hstrict, rfl⟩] at hload
      cases hload

theorem reloads_iff_of_strict (hstrict : posture.isStrict = true) :
    graph.Reloads text posture ↔ graph.nodes.rows = [] ∧ graph.edges = [] := by
  constructor
  · rintro ⟨loaded, hload, -⟩
    exact eq_nil_of_load hstrict ⟨graph.nodes, graph.edges⟩ rfl (congrArg Prod.snd hload)
  · rintro ⟨hrows, hedges⟩
    have hnodes : graph.nodes = Dict.empty := Table.ext_rows hrows
    refine ⟨{ (new : LongTermMemoryGraph ρ β) with
        index := rebuildIndex text Dict.empty
        file := graph.save.file }, ?_, hnodes.symm, hedges.symm⟩
    rw [save, hnodes, hedges]
    rfl

theorem reloads_iff (hnodes : ∀ row ∈ graph.nodes.rows, row.2.checked posture = .ok row.2)
    (hedges : ∀ edge ∈ graph.edges, edge.checked posture = .ok edge) :
    graph.Reloads text posture ↔ graph.Untenanted := by
  cases hstrict : posture.isStrict with
  | false => exact reloads_iff_of_dev hstrict
  | true =>
    rw [reloads_iff_of_strict hstrict]
    constructor
    · rintro ⟨hnone, hnil⟩
      rw [Untenanted, hnone, hnil]
      exact ⟨fun _ h => absurd h not_mem_nil, fun _ h => absurd h not_mem_nil⟩
    · rintro ⟨hnode, hedge⟩
      refine ⟨eq_nil_iff_forall_not_mem.mpr fun row hrow => ?_,
        eq_nil_iff_forall_not_mem.mpr fun edge hmem => ?_⟩
      · have hchecked := hnodes row hrow
        rw [MemoryNode.checked, if_pos ⟨hstrict, hnode row hrow⟩] at hchecked
        cases hchecked
      · have hchecked := hedges edge hmem
        rw [MemoryEdge.checked, if_pos ⟨hstrict, hedge edge hmem⟩] at hchecked
        cases hchecked

end LongTermMemoryGraph

/-! ## Every tier -/

/-- What is stored. -/
inductive StoredObject (ρ β : Type) where
  | session (memory : ShortTermMemory)
  | daily (summary : DailySummary)
  | longTerm (graph : LongTermMemoryGraph ρ β)

/-- The stores and what is around them: their bounds, where names lead, in what order a
directory is gone through, the time, and the date that many days ago. -/
structure Surroundings where
  maxSessions : Int
  maxDays : Int
  places : Places
  scan : IterationOrder
  now : String
  cutoff : String

namespace StoredObject

variable {ρ β : Type} (text : GraphText ρ β) (posture : Posture) (around : Surroundings)

/-- The checks of the constructors let it pass. -/
def Constructible : StoredObject ρ β → Prop
  | .session memory => memory.checked posture = .ok memory
  | .daily summary => summary.checked posture = .ok summary
  | .longTerm graph =>
    (∀ row ∈ graph.nodes.rows, row.2.checked posture = .ok row.2) ∧
      ∀ edge ∈ graph.edges, edge.checked posture = .ok edge

/-- Saved where nothing else is stored, the object is read back as it was saved, in every way
in which it can be read. -/
def RoundTrips : StoredObject ρ β → Prop
  | .session memory =>
    let saved := memory.stamped around.now
    ∃ store, (ShortTermMemoryStore.new around.maxSessions).save around.scan around.places memory
        around.now = .ok store ∧
      store.load posture memory.sessionId = .ok (some saved) ∧
      (∀ limit, 1 ≤ limit → store.listRecent posture around.scan limit = .ok [saved]) ∧
      ∀ date, Text.startsWith date saved.createdAt = true →
        store.listByDate posture around.scan date = .ok [saved]
  | .daily summary =>
    let saved := summary.stamped around.now
    ∃ store, (MidTermMemoryStore.new around.maxDays).save around.places summary around.now
        around.cutoff = .ok store ∧
      store.load posture around.places summary.date = .ok (some saved) ∧
      ∀ days, 1 ≤ days → store.listRecent posture around.scan around.places days = .ok [saved]
  | .longTerm graph => graph.Reloads text posture

/-- The object has no tenant. A session has an id, and a file can have its name, other than the
manifest's; a summary has a file of its own that is not outdated and that `list_recent` comes
upon. -/
def Survives : StoredObject ρ β → Prop
  | .session memory =>
    memory.tenantId = "" ∧ memory.sessionId ≠ "" ∧
      (around.places.locate (ShortTermMemoryStore.memoryPath memory.sessionId)).isSome ∧
      ShortTermMemoryStore.memoryPath memory.sessionId ≠ manifestName
  | .daily summary =>
    summary.tenantId = "" ∧
      ∃ place, around.places.locate (MidTermMemoryStore.summaryPath summary.date) = some place ∧
        place ≠ manifestName ∧
        (0 < around.maxDays → MidTermMemoryStore.outdated around.cutoff place = false) ∧
        MidTermMemoryStore.Listed around.maxDays around.cutoff place summary.date
  | .longTerm graph => graph.Untenanted

variable {text posture around}

theorem session_iff {memory : ShortTermMemory}
    (hbuilt : (StoredObject.session memory : StoredObject ρ β).Constructible posture) :
    (StoredObject.session memory : StoredObject ρ β).RoundTrips text posture around ↔
      (StoredObject.session memory : StoredObject ρ β).Survives around := by
  have hsingle : Directory.Single
      ((ShortTermMemoryStore.new around.maxSessions).written around.scan memory around.now).dir
      (ShortTermMemoryStore.memoryPath (memory.stamped around.now).sessionId)
      (memory.stamped around.now)
      [⟨(memory.stamped around.now).sessionId, (memory.stamped around.now).createdAt⟩] := by
    rw [ShortTermMemoryStore.dir_written_of_empty rfl]
    exact Directory.single_first _ _ _
  constructor
  · rintro ⟨store, hsave, hload, hlist, -⟩
    obtain ⟨hplace, rfl⟩ := ShortTermMemoryStore.save_eq_ok_iff.mp hsave
    by_cases hpath : ShortTermMemoryStore.memoryPath memory.sessionId = manifestName
    · rw [ShortTermMemoryStore.load_manifest rfl hpath] at hload
      cases hload
    · have hread := (ShortTermMemoryStore.load_single posture
        (memory.stamped around.now) hpath hsingle).symm.trans hload
      rw [map_eq_ok_iff] at hread
      obtain ⟨found, hread, hfound⟩ := hread
      obtain rfl := Option.some.inj hfound
      refine ⟨(ShortTermMemoryStore.dictToShortTerm_eq_iff.mp hread).2, fun hid => ?_, hplace,
        hpath⟩
      have hnone := hlist 1 (le_refl 1)
      rw [ShortTermMemoryStore.listRecent_single (memory.stamped around.now) hpath hsingle
        (le_refl 1), ShortTermMemory.stamped_sessionId, if_pos hid] at hnone
      cases hnone
  · rintro ⟨htenant, hid, hplace, hpath⟩
    have hdev : posture.isStrict = false := by
      cases hstrict : posture.isStrict with
      | false => rfl
      | true =>
        rw [Constructible, ShortTermMemory.checked, if_pos ⟨hstrict, htenant⟩] at hbuilt
        cases hbuilt
    have hread : dictToShortTerm posture (.record (memory.stamped around.now)) =
        .ok (memory.stamped around.now) :=
      ShortTermMemoryStore.dictToShortTerm_eq_iff.mpr ⟨hdev, htenant⟩
    refine ⟨_, ShortTermMemoryStore.save_eq_ok_iff.mpr ⟨hplace, rfl⟩, ?_, fun limit hlimit => ?_,
      fun date hdate => ?_⟩
    · refine (ShortTermMemoryStore.load_single posture (memory.stamped around.now) hpath
        hsingle).trans ?_
      rw [hread]
      rfl
    · rw [ShortTermMemoryStore.listRecent_single (memory.stamped around.now) hpath hsingle
        hlimit, ShortTermMemory.stamped_sessionId, if_neg hid, hread]
      rfl
    · rw [ShortTermMemoryStore.listByDate_single (memory.stamped around.now) hpath hsingle, hread]
      dsimp only [Except.map]
      rw [if_pos hdate]

theorem daily_iff {summary : DailySummary}
    (hbuilt : (StoredObject.daily summary : StoredObject ρ β).Constructible posture) :
    (StoredObject.daily summary : StoredObject ρ β).RoundTrips text posture around ↔
      (StoredObject.daily summary : StoredObject ρ β).Survives around := by
  have hempty : (MidTermMemoryStore.new around.maxDays).dir = Dict.empty := rfl
  constructor
  · rintro ⟨store, hsave, hload, hlist⟩
    cases hplace : around.places.locate (MidTermMemoryStore.summaryPath summary.date) with
    | none =>
      have hstamped : around.places.locate (MidTermMemoryStore.summaryPath
          (summary.stamped around.now).date) = none := hplace
      rw [MidTermMemoryStore.save, hstamped] at hsave
      cases hsave
    | some place =>
      have hname : place ≠ manifestName := by
        rintro rfl
        rw [MidTermMemoryStore.load_save_manifest hempty hplace hsave] at hload
        cases hload
      have hrecent : 0 < around.maxDays →
          MidTermMemoryStore.outdated around.cutoff place = false := by
        intro hpos
        by_contra houtdated
        rw [MidTermMemoryStore.load_save_outdated hempty hplace hname hpos
          (Bool.eq_true_of_not_eq_false houtdated) hsave] at hload
        cases hload
      obtain ⟨saved, hsaved, hsingle⟩ := MidTermMemoryStore.single_save around.now hempty hplace
        hrecent
      obtain rfl := Except.ok.inj (hsaved.symm.trans hsave)
      have hread := (MidTermMemoryStore.load_single posture
        (summary.stamped around.now) hplace hname hsingle).symm.trans hload
      rw [map_eq_ok_iff] at hread
      obtain ⟨found, hread, hfound⟩ := hread
      obtain rfl := Option.some.inj hfound
      refine ⟨(MidTermMemoryStore.dictToDailySummary_eq_iff.mp hread).2, place, hplace, hname,
        hrecent, ?_⟩
      by_contra hlisted
      have hnone := hlist 1 (le_refl 1)
      rw [(MidTermMemoryStore.listRecent_single (summary.stamped around.now) hplace
        hname hsingle (le_refl 1)).2 hlisted] at hnone
      cases hnone
  · rintro ⟨htenant, place, hplace, hname, hrecent, hlisted⟩
    have hdev : posture.isStrict = false := by
      cases hstrict : posture.isStrict with
      | false => rfl
      | true =>
        rw [Constructible, DailySummary.checked, if_pos ⟨hstrict, htenant⟩] at hbuilt
        cases hbuilt
    have hread : dictToDailySummary posture (.record (summary.stamped around.now)) =
        .ok (summary.stamped around.now) :=
      MidTermMemoryStore.dictToDailySummary_eq_iff.mpr ⟨hdev, htenant⟩
    obtain ⟨saved, hsaved, hsingle⟩ :=
      MidTermMemoryStore.single_save around.now hempty hplace hrecent
    refine ⟨saved, hsaved, ?_, fun days hdays => ?_⟩
    · refine (MidTermMemoryStore.load_single posture (summary.stamped around.now) hplace hname
        hsingle).trans ?_
      rw [hread]
      rfl
    · rw [(MidTermMemoryStore.listRecent_single (summary.stamped around.now) hplace
        hname hsingle hdays).1 hlisted, hread]
      rfl

/-- What could be built under a posture comes back as it was exactly if it survives. -/
theorem roundTrips_iff (text : GraphText ρ β) (around : Surroundings) {object : StoredObject ρ β}
    (hbuilt : object.Constructible posture) :
    object.RoundTrips text posture around ↔ object.Survives around := by
  cases object with
  | session memory => exact session_iff hbuilt
  | daily summary => exact daily_iff hbuilt
  | longTerm graph =>
    exact LongTermMemoryGraph.reloads_iff hbuilt.1 hbuilt.2

/-- Stores without bounds. -/
def unbounded : Surroundings where
  maxSessions := 0
  maxDays := 0
  places := .flat
  scan := .byInsertion
  now := "2026-01-02T00:00:00"
  cutoff := "2026-01-02"

theorem constructible_note :
    (StoredObject.session (.note "run-1" "plan" "") : StoredObject Nat Unit).Constructible .dev :=
  rfl

theorem constructible_tenant :
    (StoredObject.session (.note "run-1" "plan" "acme") : StoredObject Nat Unit).Constructible
      .research := rfl

theorem roundTrips_note :
    (StoredObject.session (.note "run-1" "plan" "") : StoredObject Nat Unit).RoundTrips
      LongTermMemoryGraph.oneWord .dev unbounded :=
  (roundTrips_iff LongTermMemoryGraph.oneWord unbounded constructible_note).mpr
    ⟨rfl, by decide, by decide, by decide⟩

/-- A session of a tenant, as the strict postures ask for, cannot be read back under them. -/
theorem not_roundTrips_tenant :
    (StoredObject.session (.note "run-1" "plan" "acme") : StoredObject Nat Unit).Constructible
        .research ∧
      ¬ (StoredObject.session (.note "run-1" "plan" "acme") : StoredObject Nat Unit).RoundTrips
        LongTermMemoryGraph.oneWord .research unbounded := by
  refine ⟨constructible_tenant, fun hround => ?_⟩
  have htenant : (ShortTermMemory.note "run-1" "plan" "acme").tenantId = "" :=
    ((session_iff constructible_tenant).mp hround).1
  revert htenant
  decide

end StoredObject

end HiAgent.Memory
