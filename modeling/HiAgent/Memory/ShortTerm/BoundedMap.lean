/-
  Memory/ShortTerm/BoundedMap.lean --- the session store as a bounded map.

  A history is a store with the memories that were saved in it. The promises hold as long as
  no two sessions meet in one file and the manifest keeps its own.
-/
import HiAgent.Foundation.Machine
import HiAgent.Memory.ShortTerm

namespace HiAgent.Memory

open Foundation Server List

/-- A store, and the memories that were saved in it, as they were stamped. -/
structure SessionHistory where
  store : ShortTermMemoryStore
  saved : List ShortTermMemory

/-- What is asked of the store; the time is the one a memory without its own is stamped with. -/
inductive SessionCall where
  | save (memory : ShortTermMemory) (now : String)
  | load (sessionId : String)
  | listRecent (limit : Nat)

namespace SessionHistory

open ShortTermMemoryStore

variable (posture : Posture) (scan : IterationOrder) (places : Places) (history : SessionHistory)

def start (maxSessions : Int) : SessionHistory := ⟨.new maxSessions, []⟩

def step (history : SessionHistory) : SessionCall → SessionHistory
  | .save memory now =>
    match history.store.save scan places memory now with
    | .ok store => ⟨store, history.saved ++ [memory.stamped now]⟩
    | .error _ => history
  | .load _ => history
  | .listRecent _ => history

def lastSaved (sessionId : String) : Option ShortTermMemory :=
  (history.saved.filter fun memory => memory.sessionId == sessionId).getLast?

def Stored (memory : ShortTermMemory) : Prop :=
  ∃ name, history.store.dir.get? name = some (.record memory)

/-- As many other sessions as the store holds were saved, none of them older. -/
def Displaced (memory : ShortTermMemory) : Prop :=
  0 < history.store.maxSessions ∧ ∃ others : List String, others.Nodup ∧
    history.store.maxSessions ≤ others.length ∧
    ∀ sessionId ∈ others, sessionId ≠ memory.sessionId ∧
      ∃ other ∈ history.saved, other.sessionId = sessionId ∧ memory.createdAt ≤ other.createdAt

/-- The most recent of the stored sessions, the newest first, each once. -/
structure MostRecent (limit : Nat) (recent : List ShortTermMemory) : Prop where
  atMost : recent.length ≤ limit
  bounded : 0 < history.store.maxSessions → recent.length ≤ history.store.maxSessions
  once : (recent.map ShortTermMemory.sessionId).Nodup
  descending : recent.Pairwise fun first second => second.createdAt ≤ first.createdAt
  stored : ∀ memory ∈ recent, history.Stored memory
  last : ∀ memory ∈ recent, history.lastSaved memory.sessionId = some memory
  rest : ∀ memory, history.Stored memory → memory ∈ recent ∨
    recent.length = limit ∧ ∀ other ∈ recent, memory.createdAt ≤ other.createdAt

/-- What a bounded map answers. -/
def Answers : SessionCall → Prop
  | .save _ _ => True
  | .load sessionId => ∃ found, history.store.load posture sessionId = .ok found ∧
      (∀ memory, found = some memory → history.lastSaved sessionId = some memory) ∧
      (found = none → ∀ memory, history.lastSaved sessionId = some memory →
        history.Displaced memory)
  | .listRecent limit => ∃ recent, history.store.listRecent posture scan limit = .ok recent ∧
      history.MostRecent limit recent

/-- No other stored session has the file of an id, and it is not the manifest's. -/
def Apart (sessionId : String) : Prop :=
  memoryPath sessionId ≠ manifestName ∧
    ∀ memory, history.Stored memory → memoryPath memory.sessionId = memoryPath sessionId →
      memory.sessionId = sessionId

def Readable (memory : ShortTermMemory) : Prop := posture.isStrict = false ∧ memory.tenantId = ""

/-- What keeps the store a map: sessions do not meet in a file, and what is read is readable
and has an id. -/
def Meets : SessionCall → Prop
  | .save memory _ => history.Apart memory.sessionId
  | .load sessionId => (history.saved ≠ [] → history.Apart sessionId) ∧
      ∀ memory, history.Stored memory → memory.sessionId = sessionId → Readable posture memory
  | .listRecent limit =>
    ∀ entry ∈ (Directory.loadManifest history.store.dir).take limit, entry.id ≠ "" ∧
      ∀ memory, history.Stored memory → memory.sessionId = entry.id → Readable posture memory

/-! ## The manifest and the files -/

def entries : List ManifestEntry := Directory.loadManifest history.store.dir

/-- An entry stands for a memory. -/
structure Held (entry : ManifestEntry) (memory : ShortTermMemory) : Prop where
  id : memory.sessionId = entry.id
  timestamp : memory.createdAt = entry.timestamp
  file : history.store.dir.get? (memoryPath entry.id) = some (.record memory)
  last : history.lastSaved entry.id = some memory

/-- The manifest is an index of the files. -/
structure Indexed : Prop where
  nodup : (history.entries.map ManifestEntry.id).Nodup
  sorted : history.entries.Pairwise fun first second => second.timestamp ≤ first.timestamp
  held : ∀ entry ∈ history.entries, ∃ memory, history.Held entry memory
  named : ∀ name document, name ≠ manifestName → history.store.dir.get? name = some document →
    ∃ entry ∈ history.entries, memoryPath entry.id = name
  index : ∀ memory, history.store.dir.get? manifestName ≠ some (.record memory)
  gone : ∀ sessionId memory, history.lastSaved sessionId = some memory →
    (∃ entry ∈ history.entries, entry.id = sessionId) ∨ history.Displaced memory
  fresh : history.saved = [] → ∀ name, history.store.dir.get? name = none

variable {posture scan places history} {memory : ShortTermMemory} {entry : ManifestEntry}

theorem Indexed.path_ne (h : history.Indexed) (hentry : entry ∈ history.entries) :
    memoryPath entry.id ≠ manifestName := by
  intro hpath
  obtain ⟨memory, hheld⟩ := h.held entry hentry
  exact h.index memory (hpath ▸ hheld.file)

theorem Held.unique {other : ShortTermMemory} (hheld : history.Held entry memory)
    (hother : history.Held entry other) : memory = other := by
  have hsame := hheld.file.symm.trans hother.file
  injection hsame with hsame
  injection hsame

theorem Indexed.stored_iff (h : history.Indexed) :
    history.Stored memory ↔ ∃ entry ∈ history.entries, history.Held entry memory := by
  constructor
  · rintro ⟨name, hfile⟩
    have hname : name ≠ manifestName := fun hname => h.index memory (hname ▸ hfile)
    obtain ⟨entry, hentry, rfl⟩ := h.named name _ hname hfile
    obtain ⟨other, hheld⟩ := h.held entry hentry
    have hsame := hheld.file.symm.trans hfile
    injection hsame with hsame
    injection hsame with hsame
    exact ⟨entry, hentry, hsame ▸ hheld⟩
  · rintro ⟨entry, -, hheld⟩
    exact ⟨_, hheld.file⟩

variable {sessionId : String}

theorem lastSaved_eq_some (h : history.lastSaved sessionId = some memory) :
    memory ∈ history.saved ∧ memory.sessionId = sessionId := by
  have hmem := mem_of_getLast? h
  rw [mem_filter, beq_iff_eq] at hmem
  exact hmem

/-! ## A memory is entered -/

/-- A memory is written and entered in the manifest. -/
def upsert (history : SessionHistory) (memory : ShortTermMemory) : SessionHistory where
  store :=
    { history.store with
      dir := manifestUpsert (history.store.dir.set (memoryPath memory.sessionId) (.record memory))
        memory.sessionId memory.createdAt }
  saved := history.saved ++ [memory]

theorem entries_upsert (hpath : memoryPath memory.sessionId ≠ manifestName) :
    (history.upsert memory).entries =
      newestFirst (history.entries.filter (fun entry => entry.id != memory.sessionId) ++
        [⟨memory.sessionId, memory.createdAt⟩]) := by
  rw [entries, upsert, manifestUpsert, Directory.loadManifest_saveManifest,
    Directory.loadManifest_set _ hpath]
  rfl

theorem mem_entries_upsert (hpath : memoryPath memory.sessionId ≠ manifestName) :
    entry ∈ (history.upsert memory).entries ↔
      (entry ∈ history.entries ∧ entry.id ≠ memory.sessionId) ∨
        entry = ⟨memory.sessionId, memory.createdAt⟩ := by
  rw [entries_upsert hpath, newestFirst, mem_insertionSort, mem_append, mem_filter,
    bne_iff_ne, mem_singleton]

theorem get?_upsert {name : String} (hname : name ≠ manifestName) :
    (history.upsert memory).store.dir.get? name =
      if memoryPath memory.sessionId = name then some (.record memory)
      else history.store.dir.get? name := by
  rw [upsert, manifestUpsert, Directory.get?_saveManifest _ hname, Dict.get?_set]
  exact if_congr eq_comm rfl rfl

theorem lastSaved_upsert (sessionId : String) : (history.upsert memory).lastSaved sessionId =
      if memory.sessionId = sessionId then some memory else history.lastSaved sessionId := by
  rw [lastSaved, upsert, filter_append]
  split
  · rename_i hsame
    rw [filter_cons_of_pos (by simpa using hsame), filter_nil, getLast?_concat]
  · rename_i hother
    rw [filter_cons_of_neg (by simpa using hother), filter_nil, append_nil]
    rfl

theorem Displaced.upsert (h : history.Displaced memory) (other : ShortTermMemory) :
    (history.upsert other).Displaced memory := by
  obtain ⟨hpos, others, hnodup, hlength, hothers⟩ := h
  refine ⟨hpos, others, hnodup, hlength, fun sessionId hmem => ?_⟩
  obtain ⟨hne, witness, hsaved, hrest⟩ := hothers sessionId hmem
  exact ⟨hne, witness, mem_append_left _ hsaved, hrest⟩

theorem pairwise_newestFirst (entries : List ManifestEntry) :
    (newestFirst entries).Pairwise fun first second => second.timestamp ≤ first.timestamp := by
  have htotal : Std.Total fun first second : ManifestEntry =>
      second.timestamp ≤ first.timestamp := ⟨fun _ _ => le_total _ _⟩
  have htrans : IsTrans ManifestEntry fun first second => second.timestamp ≤ first.timestamp :=
    ⟨fun _ _ _ hfirst hsecond => le_trans hsecond hfirst⟩
  exact pairwise_insertionSort _ entries

theorem Indexed.upsert (h : history.Indexed) (hapart : history.Apart memory.sessionId) :
    (history.upsert memory).Indexed := by
  obtain ⟨hpath, hother⟩ := hapart
  refine ⟨?_, ?_, fun entry hentry => ?_, fun name document hname hfile => ?_, fun other => ?_,
    fun sessionId last hlast => ?_, fun hnil => ?_⟩
  · rw [entries_upsert hpath, newestFirst,
      ((perm_insertionSort _ _).map ManifestEntry.id).nodup_iff, map_append,
      List.nodup_append]
    refine ⟨h.nodup.sublist (filter_sublist.map _), nodup_singleton _, ?_⟩
    intro sessionId hmem other hlast hsame
    obtain ⟨entry, hentry, rfl⟩ := mem_map.mp hmem
    rw [mem_filter, bne_iff_ne] at hentry
    exact hentry.2 (hsame.trans (mem_singleton.mp hlast))
  · rw [entries_upsert hpath]
    exact pairwise_newestFirst _
  · rcases (mem_entries_upsert hpath).mp hentry with ⟨hold, hne⟩ | rfl
    · obtain ⟨old, hheld⟩ := h.held entry hold
      have hfile : memoryPath memory.sessionId ≠ memoryPath entry.id := by
        intro hsame
        have hstored : history.Stored old := ⟨_, hheld.file⟩
        refine hne (hheld.id.symm.trans (hother old hstored ?_))
        rw [hheld.id, hsame]
      refine ⟨old, hheld.id, hheld.timestamp, ?_, ?_⟩
      · rw [get?_upsert (h.path_ne hold), if_neg hfile]
        exact hheld.file
      · rw [lastSaved_upsert, if_neg (Ne.symm hne)]
        exact hheld.last
    · refine ⟨memory, rfl, rfl, ?_, ?_⟩
      · rw [get?_upsert hpath, if_pos rfl]
      · rw [lastSaved_upsert, if_pos rfl]
  · rw [get?_upsert hname] at hfile
    split at hfile
    · rename_i hsame
      exact ⟨_, (mem_entries_upsert hpath).mpr (.inr rfl), hsame⟩
    · rename_i hne
      obtain ⟨entry, hentry, rfl⟩ := h.named name document hname hfile
      refine ⟨entry, (mem_entries_upsert hpath).mpr (.inl ⟨hentry, fun hid => ?_⟩), rfl⟩
      rw [hid] at hne
      exact hne rfl
  · rw [SessionHistory.upsert, manifestUpsert, Directory.saveManifest, Dict.get?_set, if_pos rfl]
    intro hsame
    injection hsame with hsame
    cases hsame
  · rw [lastSaved_upsert] at hlast
    split at hlast
    · rename_i hsame
      exact .inl ⟨_, (mem_entries_upsert hpath).mpr (.inr rfl), hsame⟩
    · rename_i hne
      rcases h.gone sessionId last hlast with ⟨entry, hentry, rfl⟩ | hdisplaced
      · exact .inl ⟨entry, (mem_entries_upsert hpath).mpr (.inl ⟨hentry, Ne.symm hne⟩), rfl⟩
      · exact .inr (hdisplaced.upsert memory)
  · exact absurd hnil (append_ne_nil_of_right_ne_nil _ (cons_ne_nil _ _))

/-! ## The oldest go -/

theorem get?_unlink (dir : Directory ShortTermMemory) (sessionIds : List String) (name : String) :
    (unlink dir sessionIds).get? name =
      if name ∈ sessionIds.map memoryPath then none else dir.get? name :=
  Dict.get?_foldl_pop memoryPath sessionIds dir name

def outgoing (history : SessionHistory) (keep : Nat) : List String :=
  ((history.entries.drop keep).map ManifestEntry.id).filter (· != "")

/-- The oldest sessions go. -/
def evict (scan : IterationOrder) (history : SessionHistory) : SessionHistory :=
  { history with
    store :=
      { history.store with
        dir := evictOldest scan history.store.dir history.store.maxSessions.toNat } }

theorem mem_outgoing {keep : Nat} : sessionId ∈ outgoing history keep ↔
      (∃ entry ∈ history.entries.drop keep, entry.id = sessionId) ∧ sessionId ≠ "" := by
  rw [outgoing, mem_filter, mem_map, bne_iff_ne]

theorem Indexed.displaced_of_outgoing (h : history.Indexed) (hpos : 0 < history.store.maxSessions)
    (hout : sessionId ∈ outgoing history history.store.maxSessions.toNat)
    (hlast : history.lastSaved sessionId = some memory) : history.Displaced memory := by
  obtain ⟨⟨entry, hentry, rfl⟩, -⟩ := mem_outgoing.mp hout
  obtain ⟨held, hheld⟩ := h.held entry (mem_of_mem_drop hentry)
  obtain rfl : held = memory := Option.some.inj (hheld.last.symm.trans hlast)
  have hsplit := take_append_drop history.store.maxSessions.toNat history.entries
  have hnodup := h.nodup
  have hsorted := h.sorted
  rw [← hsplit, map_append, List.nodup_append] at hnodup
  rw [← hsplit, pairwise_append] at hsorted
  refine ⟨hpos, (history.entries.take history.store.maxSessions.toNat).map ManifestEntry.id,
    hnodup.1, ?_, fun other hother => ⟨?_, ?_⟩⟩
  · have hlength : history.store.maxSessions.toNat < history.entries.length := by
      by_contra hshort
      rw [drop_of_length_le (Nat.le_of_not_lt hshort)] at hentry
      cases hentry
    rw [length_map, length_take, Nat.min_eq_left hlength.le]
    omega
  · rw [hheld.id]
    exact hnodup.2.2 other hother entry.id (mem_map_of_mem hentry)
  · obtain ⟨newer, hnewer, rfl⟩ := mem_map.mp hother
    obtain ⟨kept, hkept⟩ := h.held newer (mem_of_mem_take hnewer)
    refine ⟨kept, (lastSaved_eq_some hkept.last).1, hkept.id, ?_⟩
    rw [hheld.timestamp, hkept.timestamp]
    exact hsorted.2.2 newer hnewer entry hentry

theorem evictOldest_eq (hne : history.entries ≠ []) (keep : Nat) :
    evictOldest scan history.store.dir keep = if outgoing history keep = [] then history.store.dir
      else Directory.saveManifest (unlink history.store.dir (outgoing history keep))
          ((Directory.loadManifest (unlink history.store.dir (outgoing history keep))).filter
            fun entry => entry.id ∉ outgoing history keep) := by
  have hdef : outgoing history keep =
      (((Directory.loadManifest history.store.dir).drop keep).map ManifestEntry.id).filter
        (· != "") := rfl
  have hmanifest : Directory.loadManifest history.store.dir ≠ [] := hne
  simp only [evictOldest, if_neg hmanifest, ← hdef]
  split
  · rename_i hlength
    have hnil : outgoing history keep = [] := by
      rw [hdef, drop_of_length_le hlength]
      rfl
    rw [if_pos hnil]
  · split
    · rename_i hnil
      rw [hnil]
      rfl
    · rfl

theorem Indexed.entries_evict (h : history.Indexed) (scan : IterationOrder)
    (hne : history.entries ≠ []) :
    (history.evict scan).entries = history.entries.filter fun entry =>
        entry.id ∉ outgoing history history.store.maxSessions.toNat := by
  rw [entries, SessionHistory.evict, evictOldest_eq hne]
  split
  · rename_i hnil
    rw [hnil, filter_eq_self.mpr fun entry _ => decide_eq_true not_mem_nil]
    rfl
  · rw [Directory.loadManifest_saveManifest]
    congr 1
    have hname : manifestName ∉
        (outgoing history history.store.maxSessions.toNat).map memoryPath := by
      intro hmem
      obtain ⟨sessionId, hout, hpath⟩ := mem_map.mp hmem
      obtain ⟨⟨entry, hentry, rfl⟩, -⟩ := mem_outgoing.mp hout
      exact h.path_ne (mem_of_mem_drop hentry) hpath
    rw [Directory.loadManifest, get?_unlink, if_neg hname]
    rfl

theorem get?_evict (hne : history.entries ≠ []) {name : String} (hname : name ≠ manifestName) :
    (history.evict scan).store.dir.get? name =
      if name ∈ (outgoing history history.store.maxSessions.toNat).map memoryPath then none
      else history.store.dir.get? name := by
  rw [SessionHistory.evict, evictOldest_eq hne]
  split
  · rename_i hnil
    rw [hnil, map_nil, if_neg not_mem_nil]
  · rw [Directory.get?_saveManifest _ hname, get?_unlink]

theorem Indexed.index_evict (h : history.Indexed) (hne : history.entries ≠ []) :
    (history.evict scan).store.dir.get? manifestName ≠ some (.record memory) := by
  rw [SessionHistory.evict, evictOldest_eq hne]
  split
  · exact h.index memory
  · rw [Directory.saveManifest, Dict.get?_set, if_pos rfl]
    intro hsame
    injection hsame with hsame
    cases hsame

theorem Indexed.path_not_mem (h : history.Indexed) {keep : Nat} (hentry : entry ∈ history.entries)
    (hkept : entry.id ∉ outgoing history keep) :
    memoryPath entry.id ∉ (outgoing history keep).map memoryPath := by
  intro hmem
  obtain ⟨sessionId, hout, hpath⟩ := mem_map.mp hmem
  obtain ⟨⟨other, hother, rfl⟩, -⟩ := mem_outgoing.mp hout
  obtain ⟨memory, hheld⟩ := h.held entry hentry
  obtain ⟨gone, hgone⟩ := h.held other (mem_of_mem_drop hother)
  have hsame := (hpath ▸ hgone.file).symm.trans hheld.file
  injection hsame with hsame
  injection hsame with hsame
  rw [← hheld.id, ← hsame, hgone.id] at hkept
  exact hkept hout

theorem Indexed.evict (h : history.Indexed) (hne : history.entries ≠ [])
    (hpos : 0 < history.store.maxSessions) : (history.evict scan).Indexed := by
  have hentries := h.entries_evict scan hne
  have hmem : ∀ entry, entry ∈ (history.evict scan).entries ↔ entry ∈ history.entries ∧
      entry.id ∉ outgoing history history.store.maxSessions.toNat := by
    intro entry
    rw [hentries, mem_filter, decide_eq_true_iff]
  refine ⟨?_, ?_, fun entry hentry => ?_, fun name document hname hfile => ?_,
    fun memory => h.index_evict hne, fun sessionId last hlast => ?_, fun hnil => ?_⟩
  · rw [hentries]
    exact h.nodup.sublist (filter_sublist.map _)
  · rw [hentries]
    exact h.sorted.sublist filter_sublist
  · obtain ⟨hold, hkept⟩ := (hmem entry).mp hentry
    obtain ⟨memory, hheld⟩ := h.held entry hold
    refine ⟨memory, hheld.id, hheld.timestamp, ?_, hheld.last⟩
    rw [get?_evict hne (h.path_ne hold), if_neg (h.path_not_mem hold hkept)]
    exact hheld.file
  · rw [get?_evict hne hname] at hfile
    split at hfile
    · cases hfile
    · rename_i hstays
      obtain ⟨entry, hentry, rfl⟩ := h.named name document hname hfile
      refine ⟨entry, (hmem entry).mpr ⟨hentry, fun hout => ?_⟩, rfl⟩
      exact hstays (mem_map_of_mem hout)
  · rcases h.gone sessionId last hlast with ⟨entry, hentry, rfl⟩ | hdisplaced
    · by_cases hout : entry.id ∈ outgoing history history.store.maxSessions.toNat
      · exact .inr (h.displaced_of_outgoing hpos hout hlast)
      · exact .inl ⟨entry, (hmem entry).mpr ⟨hentry, hout⟩, rfl⟩
    · exact .inr hdisplaced
  · obtain ⟨entry, hentry⟩ := exists_mem_of_ne_nil _ hne
    obtain ⟨memory, hheld⟩ := h.held entry hentry
    exact absurd (h.fresh hnil (memoryPath entry.id)) (by rw [hheld.file]; simp)

/-! ## The invariant -/

/-- What holds of a history whose sessions were kept apart. -/
structure Inv (history : SessionHistory) : Prop extends history.Indexed where
  bounded : 0 < history.store.maxSessions →
    ((history.entries.map ManifestEntry.id).filter (· != "")).length ≤ history.store.maxSessions

theorem inv_start (maxSessions : Int) : (start maxSessions).Inv where
  nodup := nodup_nil
  sorted := .nil
  held entry hentry := by cases hentry
  named name document _ hfile := by cases hfile
  index memory hfile := by cases hfile
  gone sessionId memory hlast := by cases hlast
  fresh _ _ := rfl
  bounded hpos := hpos.le

theorem step_save_cases (memory : ShortTermMemory) (now : String) :
    history.step scan places (.save memory now) = history ∨
      history.step scan places (.save memory now) =
        if 0 < history.store.maxSessions then (history.upsert (memory.stamped now)).evict scan
        else history.upsert (memory.stamped now) := by
  rw [step, save]
  cases places.locate (memoryPath memory.sessionId) with
  | none => exact .inl rfl
  | some place =>
    refine .inr ?_
    dsimp only
    rw [written]
    split
    · rfl
    · rfl

theorem Indexed.bounded_evict (h : history.Indexed) (hne : history.entries ≠ [])
    (hpos : 0 < history.store.maxSessions) :
    (((history.evict scan).entries.map ManifestEntry.id).filter (· != "")).length ≤
      history.store.maxSessions := by
  rw [h.entries_evict scan hne, filter_map, length_map, filter_filter]
  have hrest : (history.entries.drop history.store.maxSessions.toNat).filter (fun entry =>
      ((· != "") ∘ ManifestEntry.id) entry &&
        decide (entry.id ∉ outgoing history history.store.maxSessions.toNat)) = [] := by
    rw [filter_eq_nil_iff]
    intro entry hentry hkept
    rw [Bool.and_eq_true, decide_eq_true_iff, Function.comp_apply, bne_iff_ne] at hkept
    exact hkept.2 (mem_outgoing.mpr ⟨⟨entry, hentry, rfl⟩, hkept.1⟩)
  rw [← take_append_drop history.store.maxSessions.toNat history.entries, filter_append,
    length_append, hrest, length_nil]
  have hfilter := length_filter_le (fun entry =>
    ((· != "") ∘ ManifestEntry.id) entry &&
      decide (entry.id ∉ outgoing history history.store.maxSessions.toNat))
    (history.entries.take history.store.maxSessions.toNat)
  have htake := length_take_le history.store.maxSessions.toNat history.entries
  omega

theorem Inv.save (h : history.Inv) {now : String} (hapart : history.Apart memory.sessionId) :
    (history.step scan places (.save memory now)).Inv := by
  rw [← ShortTermMemory.stamped_sessionId memory now] at hapart
  rcases step_save_cases memory now with hstep | hstep
  · rw [hstep]
    exact h
  rw [hstep]
  generalize memory.stamped now = memory at hapart
  have hupsert := h.toIndexed.upsert hapart
  have hne : (history.upsert memory).entries ≠ [] :=
    ne_nil_of_mem ((mem_entries_upsert hapart.1).mpr (.inr rfl))
  split
  · rename_i hpos
    exact ⟨hupsert.evict hne hpos, fun _ => hupsert.bounded_evict hne hpos⟩
  · rename_i hfree
    exact ⟨hupsert, fun hpos => absurd hpos hfree⟩

/-! ## Answers -/

theorem dictToShortTerm_of_readable (h : Readable posture memory) :
    dictToShortTerm posture (.record memory) = .ok memory := by
  have hsame : memory.reread = memory := by
    rw [ShortTermMemory.reread, ← h.2]
  rw [dictToShortTerm_record, h.1, if_neg Bool.false_ne_true, hsame]

theorem Held.load_eq (hheld : history.Held entry memory) (hreadable : Readable posture memory) :
    history.store.load posture entry.id = .ok (some memory) := by
  rw [load, hheld.file]
  change (dictToShortTerm posture (.record memory)).map some = _
  rw [dictToShortTerm_of_readable hreadable]
  rfl

theorem load_of_none (h : history.store.dir.get? (memoryPath sessionId) = none) :
    history.store.load posture sessionId = .ok none := by
  rw [load, h]

theorem Inv.answers_load (h : history.Inv) (hmeets : history.Meets posture (.load sessionId)) :
    history.Answers posture scan (.load sessionId) := by
  obtain ⟨hapart, hreadable⟩ := hmeets
  cases hfile : history.store.dir.get? (memoryPath sessionId) with
  | none =>
    refine ⟨none, load_of_none hfile, fun memory hnone => (nomatch hnone), fun _ memory hlast => ?_⟩
    rcases h.gone sessionId memory hlast with ⟨entry, hentry, rfl⟩ | hdisplaced
    · obtain ⟨held, hheld⟩ := h.held entry hentry
      cases hfile.symm.trans hheld.file
    · exact hdisplaced
  | some document =>
    have hsaved : history.saved ≠ [] := by
      intro hnil
      cases (h.fresh hnil _).symm.trans hfile
    obtain ⟨hname, hother⟩ := hapart hsaved
    obtain ⟨entry, hentry, hpath⟩ := h.named _ document hname hfile
    obtain ⟨memory, hheld⟩ := h.held entry hentry
    have hid : memory.sessionId = sessionId := by
      refine hother memory ⟨_, hheld.file⟩ ?_
      rw [hheld.id, hpath]
    obtain rfl : entry.id = sessionId := hheld.id.symm.trans hid
    refine ⟨some memory, hheld.load_eq (hreadable memory ⟨_, hheld.file⟩ hid), ?_,
      fun hnone => (nomatch hnone)⟩
    rintro _ ⟨⟩
    exact hheld.last

theorem Inv.mostRecent (h : history.Inv) {limit : Nat} {recent : List ShortTermMemory}
    (hnamed : ∀ entry ∈ history.entries.take limit, entry.id ≠ "")
    (hheld : List.Forall₂ history.Held (history.entries.take limit) recent) :
    history.MostRecent limit recent := by
  have hids : (history.entries.take limit).map ManifestEntry.id =
      recent.map ShortTermMemory.sessionId := by
    rw [← List.forall₂_eq_eq_eq, List.forall₂_map_left_iff, List.forall₂_map_right_iff]
    exact hheld.imp fun _ _ hheld => hheld.id.symm
  have htimes : (history.entries.take limit).map ManifestEntry.timestamp =
      recent.map ShortTermMemory.createdAt := by
    rw [← List.forall₂_eq_eq_eq, List.forall₂_map_left_iff, List.forall₂_map_right_iff]
    exact hheld.imp fun _ _ hheld => hheld.timestamp.symm
  have hlength := hheld.length_eq
  have hback : ∀ memory ∈ recent, ∃ entry ∈ history.entries.take limit, history.Held entry memory :=
    fun memory => exists_of_forall₂ hheld.flip
  have hsorted : (history.entries.take limit).Pairwise fun first second =>
      second.timestamp ≤ first.timestamp := h.sorted.sublist (take_sublist _ _)
  refine ⟨?_, fun hpos => ?_, ?_, ?_, fun memory hmem => ?_, fun memory hmem => ?_,
    fun memory hstored => ?_⟩
  · rw [← hlength]
    exact length_take_le _ _
  · have hfilter : ((history.entries.take limit).map ManifestEntry.id).filter (· != "") =
        (history.entries.take limit).map ManifestEntry.id := by
      refine filter_eq_self.mpr fun sessionId hmem => ?_
      obtain ⟨entry, hentry, rfl⟩ := mem_map.mp hmem
      rw [bne_iff_ne]
      exact hnamed entry hentry
    have hle := (((take_sublist limit history.entries).map ManifestEntry.id).filter
      (· != "")).length_le
    rw [hfilter, length_map, hlength] at hle
    have hbounded := h.bounded hpos
    omega
  · rw [← hids]
    exact h.nodup.sublist ((take_sublist _ _).map _)
  · have hpairwise : ((history.entries.take limit).map ManifestEntry.timestamp).Pairwise
        fun first second => second ≤ first := pairwise_map.mpr hsorted
    rw [htimes] at hpairwise
    exact pairwise_map.mp hpairwise
  · obtain ⟨entry, -, hheld⟩ := hback memory hmem
    exact ⟨_, hheld.file⟩
  · obtain ⟨entry, -, hheld⟩ := hback memory hmem
    rw [hheld.id]
    exact hheld.last
  · obtain ⟨entry, hentry, hmemory⟩ := h.stored_iff.mp hstored
    rw [← take_append_drop limit history.entries, mem_append] at hentry
    rcases hentry with hfront | hbehind
    · obtain ⟨other, hother, hsame⟩ := exists_of_forall₂ hheld hfront
      exact .inl (hmemory.unique hsame ▸ hother)
    · refine .inr ⟨?_, fun other hother => ?_⟩
      · rw [← hlength, length_take, Nat.min_eq_left]
        by_contra hshort
        rw [drop_of_length_le (by omega)] at hbehind
        cases hbehind
      · obtain ⟨front, hfront, hother⟩ := hback other hother
        have hall := h.sorted
        rw [← take_append_drop limit history.entries, pairwise_append] at hall
        rw [hmemory.timestamp, hother.timestamp]
        exact hall.2.2 front hfront entry hbehind

theorem Inv.answers_listRecent (h : history.Inv) {limit : Nat}
    (hmeets : history.Meets posture (.listRecent limit)) :
    history.Answers posture scan (.listRecent limit) := by
  by_cases hnil : history.entries = []
  · have hmanifest : Directory.loadManifest history.store.dir = [] := hnil
    have hfiles : Directory.files history.store.dir scan = [] := by
      refine eq_nil_iff_forall_not_mem.mpr fun file hfile => ?_
      obtain ⟨hget, hname⟩ := (Directory.mem_files_iff _).mp hfile
      obtain ⟨entry, hentry, -⟩ := h.named _ _ hname hget
      rw [hnil] at hentry
      cases hentry
    refine ⟨[], ?_, h.mostRecent (fun entry hentry => ?_) ?_⟩
    · rw [listRecent, if_pos hmanifest, hfiles]
      simp [Text.upTo, Except.map, pure, Except.pure]
    · rw [hnil, take_nil] at hentry
      cases hentry
    · rw [hnil, take_nil]
      exact .nil
  · have hmanifest : Directory.loadManifest history.store.dir ≠ [] := hnil
    have hnamed : ∀ entry ∈ history.entries.take limit, entry.id ≠ "" :=
      fun entry hentry => (hmeets entry hentry).1
    have hread : ∀ entry ∈ history.entries.take limit, ∃ memory,
        history.store.load posture entry.id = .ok (some memory) ∧ history.Held entry memory := by
      intro entry hentry
      obtain ⟨memory, hheld⟩ := h.held entry (mem_of_mem_take hentry)
      exact ⟨memory, hheld.load_eq ((hmeets entry hentry).2 memory ⟨_, hheld.file⟩ hheld.id), hheld⟩
    obtain ⟨recent, hrecent, hheld⟩ := exists_mapM_eq_ok (g := some) hread
    refine ⟨recent, ?_, h.mostRecent hnamed hheld⟩
    have hfront : (Text.upTo limit (Directory.loadManifest history.store.dir)).filter
        (fun entry => entry.id != "") = history.entries.take limit := by
      rw [Text.upTo, if_neg (by omega), Int.toNat_natCast]
      exact filter_eq_self.mpr fun entry hentry => bne_iff_ne.mpr (hnamed entry hentry)
    rw [listRecent, if_neg hmanifest, hfront, hrecent]
    simp [Except.map]

/-! ## Whole runs -/

theorem Inv.answers (h : history.Inv) {call : SessionCall} (hmeets : history.Meets posture call) :
    history.Answers posture scan call := by
  cases call with
  | save memory now => trivial
  | load sessionId => exact h.answers_load hmeets
  | listRecent limit => exact h.answers_listRecent hmeets

theorem Inv.step (h : history.Inv) {call : SessionCall} (hmeets : history.Meets posture call) :
    (history.step scan places call).Inv := by
  cases call with
  | save memory now => exact h.save hmeets
  | load sessionId => exact h
  | listRecent limit => exact h

/-- The memories in the files. -/
def records (history : SessionHistory) : List ShortTermMemory :=
  history.store.dir.rows.filterMap fun file =>
    match file.2 with
    | .record data => some data
    | .manifest _ => none

theorem stored_iff_mem : history.Stored memory ↔ memory ∈ history.records := by
  rw [Stored, records, mem_filterMap]
  constructor
  · rintro ⟨name, hfile⟩
    exact ⟨(name, .record memory), Dict.get?_eq_some_iff.mp hfile, rfl⟩
  · rintro ⟨⟨name, document⟩, hrow, hrecord⟩
    cases document with
    | record data =>
      obtain rfl := Option.some.inj hrecord
      exact ⟨name, Dict.get?_eq_some_iff.mpr hrow⟩
    | manifest entries => cases hrecord

instance Apart.decide (history : SessionHistory) (sessionId : String) :
    Decidable (history.Apart sessionId) :=
  decidable_of_iff (memoryPath sessionId ≠ manifestName ∧ ∀ memory ∈ history.records,
      memoryPath memory.sessionId = memoryPath sessionId → memory.sessionId = sessionId)
    (by simp only [Apart, stored_iff_mem])

instance Readable.decide (posture : Posture) (memory : ShortTermMemory) :
    Decidable (Readable posture memory) :=
  inferInstanceAs (Decidable (_ ∧ _))

instance Meets.decide (posture : Posture) (history : SessionHistory) :
    ∀ call, Decidable (history.Meets posture call)
  | .save memory _ => Apart.decide history memory.sessionId
  | .load sessionId =>
    decidable_of_iff ((history.saved ≠ [] → history.Apart sessionId) ∧
        ∀ memory ∈ history.records, memory.sessionId = sessionId → Readable posture memory)
      (by simp only [Meets, stored_iff_mem])
  | .listRecent limit =>
    decidable_of_iff (∀ entry ∈ (Directory.loadManifest history.store.dir).take limit,
        entry.id ≠ "" ∧
          ∀ memory ∈ history.records, memory.sessionId = entry.id → Readable posture memory)
      (by simp only [Meets, stored_iff_mem])

def noteAt (sessionId taskGoal createdAt : String) : ShortTermMemory :=
  { ShortTermMemory.note sessionId taskGoal "" with createdAt := createdAt }

/-- Of three sessions the oldest goes; one of the others is saved anew, and one is not saved. -/
def readBack : List SessionCall :=
  [.save (noteAt "a/b" "plan" "10:00") "", .save (noteAt "c" "draft" "11:00") "",
    .load "a/b", .save (noteAt "a\\d" "review" "12:00") "", .load "a/b", .load "a\\d",
    .save (noteAt "a\x00" "lost" "14:00") "", .load "a\x00",
    .save (noteAt "c" "redraft" "") "13:00", .load "c", .listRecent 1, .listRecent 5]

def sharedFile : List SessionCall :=
  [.save (.note "a/b" "plan" "") "", .save (.note "a__b" "review" "") "", .load "a/b"]

end SessionHistory

end HiAgent.Memory
