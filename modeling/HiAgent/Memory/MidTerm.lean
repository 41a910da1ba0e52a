/-
  Memory/MidTerm.lean --- `DailySummary`, `MidTermMemoryStore` and `DreamConsolidator`.

  A dream gathers the sessions that are stored for a date, builds the summary of the day from
  them and saves it over the one before.
-/
import HiAgent.Foundation.TermIndex
import HiAgent.Memory.ShortTerm
import Mathlib.Algebra.BigOperators.Group.List.Basic
import Mathlib.Data.List.Dedup

namespace HiAgent.Memory

open Foundation Server

/-! ## Summaries -/

structure DailySummary where
  date : String
  sessionsCount : Int
  tasksCompleted : List String
  tasksFailed : List String
  keyLearnings : List String
  patternsObserved : List String
  skillsUsed : List String
  totalTokens : Int
  totalCostUsd : PyFloat
  createdAt : String
  tenantId : String

/-- `__post_init__`. -/
def DailySummary.checked (posture : Posture) (summary : DailySummary) :
    Except StoreError DailySummary :=
  if posture.isStrict ∧ summary.tenantId = "" then .error .valueError else .ok summary

/-- The fields that `_dict_to_daily_summary` reads; the tenant is not among them. -/
def DailySummary.reread (data : DailySummary) : DailySummary := { data with tenantId := "" }

/-- `if not summary.created_at: summary.created_at = now`. -/
def DailySummary.stamped (summary : DailySummary) (now : String) : DailySummary :=
  { summary with createdAt := if summary.createdAt = "" then now else summary.createdAt }

/-- `_dict_to_daily_summary`; a list has no keys. -/
def dictToDailySummary (posture : Posture) : Document DailySummary → Except StoreError DailySummary
  | .record data => data.reread.checked posture
  | .manifest _ => .error .typeError

/-! ## The store -/

/-- `MidTermMemoryStore`, with its directory. -/
structure MidTermMemoryStore where
  maxDays : Int
  dir : Directory DailySummary

namespace MidTermMemoryStore

variable (posture : Posture) (scan : IterationOrder) (places : Places) (store : MidTermMemoryStore)

def new (maxDays : Int) : MidTermMemoryStore := ⟨maxDays, .empty⟩

def summaryPath (date : String) : String := date ++ ".json"

/-- `fpath.stem`: a name that starts with its only dot has no suffix. -/
def stem (name : String) : String :=
  if name = ".json" then name else String.ofList (name.toList.take (name.toList.length - 5))

def manifestUpsert (dir : Directory DailySummary) (date timestamp : String) :
    Directory DailySummary :=
  let entries := (Directory.loadManifest dir).filter (fun entry => entry.id != date) ++
    [ManifestEntry.mk date timestamp]
  Directory.saveManifest dir (entries.mergeSort fun first second => second.id ≤ first.id)

def manifestRemoveBefore (dir : Directory DailySummary) (cutoff : String) :
    Directory DailySummary :=
  Directory.saveManifest dir
    ((Directory.loadManifest dir).filter fun entry => decide (cutoff ≤ entry.id))

def isHere (name : String) : Bool := !name.toList.contains '/'

def outdated (cutoff name : String) : Bool :=
  isHere name && name != manifestName && (stem name).toList.length == 10 &&
    decide (stem name < cutoff)

theorem outdated_manifest (cutoff : String) : outdated cutoff manifestName = false := by
  rw [outdated, bne_self_eq_false, Bool.and_false]
  rfl

/-- `_evict_older_than`, with the date that many days ago. -/
def evictOlderThan (dir : Directory DailySummary) (cutoff : String) : Directory DailySummary :=
  manifestRemoveBefore (dir.delete fun file => outdated cutoff file.1) cutoff

def save (summary : DailySummary) (now cutoff : String) : Except StoreError MidTermMemoryStore :=
  let summary := summary.stamped now
  match places.locate (summaryPath summary.date) with
  | none => .error (Places.refusal (summaryPath summary.date))
  | some name =>
    let dir := store.dir.set name (.record summary)
    let dir := manifestUpsert dir summary.date summary.createdAt
    .ok { store with dir := if 0 < store.maxDays then evictOlderThan dir cutoff else dir }

def load (date : String) : Except StoreError (Option DailySummary) :=
  match (places.locate (summaryPath date)).bind store.dir.get? with
  | none => .ok none
  | some document => (dictToDailySummary posture document).map some

def listRecent (days : Int) : Except StoreError (List DailySummary) :=
  let manifest := Directory.loadManifest store.dir
  if manifest = [] then
    (((Directory.files store.dir scan).filter fun file => isHere file.1).mapM fun file =>
      dictToDailySummary posture file.2).map fun summaries =>
        Text.upTo days (summaries.mergeSort fun first second => second.date ≤ first.date)
  else
    (((Text.upTo days manifest).filter fun entry => entry.id != "").mapM fun entry =>
      store.load posture places entry.id).map fun summaries => summaries.filterMap id

end MidTermMemoryStore

/-! ## Dreams -/

namespace DreamConsolidator

variable (posture : Posture) (scan : IterationOrder) (places : Places) (lower : String → String)
  (add : PyFloat → PyFloat → PyFloat)

/-- `finding.strip().lower()`. -/
def normalised (finding : String) : String := lower (Text.strip finding)

/-- One finding of `_deduplicate_findings`: the findings kept, and their normal forms. -/
def keepFinding (kept : List String × List String) (finding : String) : List String × List String :=
  let norm := normalised lower finding
  if norm ∈ kept.2 then kept
  else
    match (scan.order kept.2).find? fun seen => Text.occurs norm seen || Text.occurs seen norm with
    | some seen =>
      if seen.toList.length < norm.toList.length then
        (kept.1.filter (fun other => normalised lower other != seen) ++ [finding],
          kept.2.filter (· != seen) ++ [norm])
      else kept
    | none => (kept.1 ++ [finding], kept.2 ++ [norm])

def deduplicateFindings (allFindings : List String) : List String :=
  (allFindings.foldl (keepFinding scan lower) ([], [])).1

def repeated (field : ShortTermMemory → List String) (label : String → Nat → String)
    (sessions : List ShortTermMemory) : List String :=
  ((Tally.up (sessions.flatMap field) .empty).rows.filter fun row => decide (2 ≤ row.2)).map
    fun row => label row.1 row.2

def extractPatterns (sessions : List ShortTermMemory) : List String :=
  let all := toString sessions.length
  if sessions.length < 2 then []
  else
    repeated ShortTermMemory.toolsUsed
        (fun tool count => "tool '" ++ tool ++ "' used in " ++ toString count ++ "/" ++ all ++
          " sessions") sessions ++
      repeated ShortTermMemory.errorsEncountered
        (fun err count => "error '" ++ err ++ "' in " ++ toString count ++ "/" ++ all ++
          " sessions") sessions ++
      repeated ShortTermMemory.stagesCompleted
        (fun stage count => "stage '" ++ stage ++ "' completed in " ++ toString count ++ "/" ++
          all ++ " sessions") sessions

/-- The summary that `consolidate` builds of some sessions. -/
def summarise (date : String) (sessions : List ShortTermMemory) : DailySummary where
  date := date
  sessionsCount := sessions.length
  tasksCompleted :=
    (sessions.filter fun session => session.outcome == "completed").map ShortTermMemory.taskGoal
  tasksFailed :=
    (sessions.filter fun session => session.outcome != "completed").map ShortTermMemory.taskGoal
  keyLearnings := deduplicateFindings scan lower (sessions.flatMap ShortTermMemory.keyFindings)
  patternsObserved := extractPatterns sessions
  skillsUsed := (sessions.flatMap ShortTermMemory.toolsUsed).dedup.mergeSort
  totalTokens := (sessions.map ShortTermMemory.totalTokensUsed).sum
  totalCostUsd :=
    sessions.foldl (fun total session => add total session.totalCostUsd) zeroFloat
  createdAt := ""
  tenantId := ""

/-- `consolidate`, into the store of summaries. -/
def consolidate (short : ShortTermMemoryStore) (mid : MidTermMemoryStore)
    (date now cutoff : String) :
    Except StoreError MidTermMemoryStore :=
  match short.listByDate posture scan date with
  | .error error => .error error
  | .ok sessions =>
    match (summarise scan lower add date sessions).checked posture with
    | .error error => .error error
    | .ok summary => mid.save places summary now cutoff

end DreamConsolidator

open DreamConsolidator List

/-! ## What is recorded -/

variable (lower : String → String)

/-- A summary says what some sessions did, and nothing else. -/
structure DailySummary.Records (summary : DailySummary)
    (sessions : List ShortTermMemory) : Prop where
  completed : ∀ goal, goal ∈ summary.tasksCompleted ↔
    ∃ session ∈ sessions, session.outcome = "completed" ∧ session.taskGoal = goal
  failed : ∀ goal, goal ∈ summary.tasksFailed ↔
    ∃ session ∈ sessions, session.outcome ≠ "completed" ∧ session.taskGoal = goal
  learnt : ∀ learning ∈ summary.keyLearnings, ∃ session ∈ sessions, learning ∈ session.keyFindings
  covered : ∀ session ∈ sessions, ∀ finding ∈ session.keyFindings,
    ∃ learning ∈ summary.keyLearnings,
      Text.occurs (normalised lower finding) (normalised lower learning) = true
  tools : ∀ tool, tool ∈ summary.skillsUsed ↔ ∃ session ∈ sessions, tool ∈ session.toolsUsed
  tokens : summary.totalTokens = (sessions.map ShortTermMemory.totalTokensUsed).sum

/-- Nothing that one summary records is missing in another; its tokens are those of the first
and of more sessions. -/
structure DailySummary.Extends (after before : DailySummary) : Prop where
  completed : ∀ goal ∈ before.tasksCompleted, goal ∈ after.tasksCompleted
  failed : ∀ goal ∈ before.tasksFailed, goal ∈ after.tasksFailed
  covered : ∀ learning ∈ before.keyLearnings, ∃ later ∈ after.keyLearnings,
    Text.occurs (normalised lower learning) (normalised lower later) = true
  tools : ∀ tool ∈ before.skillsUsed, tool ∈ after.skillsUsed
  tokens : ∃ more : List ShortTermMemory,
    after.totalTokens = before.totalTokens + (more.map ShortTermMemory.totalTokensUsed).sum

variable {lower} {summary before after : DailySummary} {sessions others : List ShortTermMemory}

theorem DailySummary.Records.perm (h : summary.Records lower sessions)
    (hperm : sessions.Perm others) : summary.Records lower others where
  completed goal := by
    rw [h.completed]
    exact exists_congr fun _ => and_congr_left fun _ => hperm.mem_iff
  failed goal := by
    rw [h.failed]
    exact exists_congr fun _ => and_congr_left fun _ => hperm.mem_iff
  learnt learning hlearnt := by
    obtain ⟨session, hsession, hfinding⟩ := h.learnt learning hlearnt
    exact ⟨session, hperm.mem_iff.mp hsession, hfinding⟩
  covered session hsession := h.covered session (hperm.mem_iff.mpr hsession)
  tools tool := by
    rw [h.tools]
    exact exists_congr fun _ => and_congr_left fun _ => hperm.mem_iff
  tokens := h.tokens.trans (hperm.map _).sum_eq

theorem exists_reread {p : ShortTermMemory → Prop} :
    (∃ session ∈ sessions.map ShortTermMemory.reread, p session) ↔
      ∃ session ∈ sessions, p session.reread := by
  constructor
  · rintro ⟨session, hsession, hp⟩
    obtain ⟨origin, horigin, rfl⟩ := mem_map.mp hsession
    exact ⟨origin, horigin, hp⟩
  · rintro ⟨session, hsession, hp⟩
    exact ⟨_, mem_map_of_mem hsession, hp⟩

theorem DailySummary.Records.of_reread
    (h : summary.Records lower (sessions.map ShortTermMemory.reread)) :
    summary.Records lower sessions where
  completed goal := by
    rw [h.completed, exists_reread]
    rfl
  failed goal := by
    rw [h.failed, exists_reread]
    rfl
  learnt learning hlearnt := by
    obtain ⟨session, hsession, hfinding⟩ := h.learnt learning hlearnt
    obtain ⟨origin, horigin, rfl⟩ := mem_map.mp hsession
    exact ⟨origin, horigin, hfinding⟩
  covered session hsession := h.covered session.reread (mem_map_of_mem hsession)
  tools tool := by
    rw [h.tools, exists_reread]
    rfl
  tokens := by
    rw [h.tokens, map_map]
    rfl

theorem DailySummary.Records.extends (hafter : after.Records lower others)
    (hbefore : before.Records lower sessions) (hnodup : sessions.Nodup)
    (hsubset : ∀ session ∈ sessions, session ∈ others) : after.Extends lower before where
  completed goal hgoal := by
    obtain ⟨session, hsession, hrest⟩ := (hbefore.completed goal).mp hgoal
    exact (hafter.completed goal).mpr ⟨session, hsubset session hsession, hrest⟩
  failed goal hgoal := by
    obtain ⟨session, hsession, hrest⟩ := (hbefore.failed goal).mp hgoal
    exact (hafter.failed goal).mpr ⟨session, hsubset session hsession, hrest⟩
  covered learning hlearnt := by
    obtain ⟨session, hsession, hfinding⟩ := hbefore.learnt learning hlearnt
    exact hafter.covered session (hsubset session hsession) learning hfinding
  tools tool htool := by
    obtain ⟨session, hsession, hused⟩ := (hbefore.tools tool).mp htool
    exact (hafter.tools tool).mpr ⟨session, hsubset session hsession, hused⟩
  tokens := by
    obtain ⟨same, hsame, hsublist⟩ := subperm_of_subset hnodup hsubset
    obtain ⟨more, hperm⟩ := hsublist.exists_perm_append
    refine ⟨more, ?_⟩
    rw [hafter.tokens, hbefore.tokens, (hperm.map _).sum_eq, map_append, sum_append,
      (hsame.map _).sum_eq]

/-! ## Findings -/

namespace DreamConsolidator

variable {findings : List String} {kept : List String × List String}

/-- What the loop of `_deduplicate_findings` keeps of the findings it has seen. -/
structure Kept (lower : String → String) (findings : List String)
    (kept : List String × List String) : Prop where
  given : ∀ finding ∈ kept.1, finding ∈ findings
  named : ∀ norm ∈ kept.2, ∃ finding ∈ kept.1, normalised lower finding = norm
  covered : ∀ finding ∈ findings, ∃ norm ∈ kept.2,
    Text.occurs (normalised lower finding) norm = true

section

variable (h : Kept lower findings kept)
include h

theorem Kept.pass {finding norm : String} (hnorm : norm ∈ kept.2)
    (hoccurs : Text.occurs (normalised lower finding) norm = true) :
    Kept lower (findings ++ [finding]) kept where
  given other hother := mem_append_left _ (h.given other hother)
  named := h.named
  covered other hother := by
    rcases mem_append.mp hother with hold | hnew
    · exact h.covered other hold
    · rw [mem_singleton.mp hnew]
      exact ⟨norm, hnorm, hoccurs⟩

theorem Kept.replace {finding seen : String}
    (hoccurs : Text.occurs seen (normalised lower finding) = true) :
    Kept lower (findings ++ [finding])
      (kept.1.filter (fun other => normalised lower other != seen) ++ [finding],
        kept.2.filter (· != seen) ++ [normalised lower finding]) where
  given other hother := by
    rcases mem_append.mp hother with hold | hnew
    · exact mem_append_left _ (h.given other (mem_of_mem_filter hold))
    · exact mem_append_right _ hnew
  named norm hnorm := by
    rcases mem_append.mp hnorm with hold | hnew
    · rw [mem_filter, bne_iff_ne] at hold
      obtain ⟨other, hother, rfl⟩ := h.named norm hold.1
      exact ⟨other, mem_append_left _ (mem_filter.mpr ⟨hother, bne_iff_ne.mpr hold.2⟩), rfl⟩
    · exact ⟨finding, mem_append_right _ mem_cons_self, (mem_singleton.mp hnew).symm⟩
  covered other hother := by
    rcases mem_append.mp hother with hold | hnew
    · obtain ⟨norm, hnorm, hcovers⟩ := h.covered other hold
      by_cases hseen : norm = seen
      · rw [hseen] at hcovers
        exact ⟨_, mem_append_right _ mem_cons_self, Text.occurs_trans hcovers hoccurs⟩
      · exact ⟨norm, mem_append_left _ (mem_filter.mpr ⟨hnorm, bne_iff_ne.mpr hseen⟩), hcovers⟩
    · rw [mem_singleton.mp hnew]
      exact ⟨_, mem_append_right _ mem_cons_self, Text.occurs_self _⟩

theorem Kept.add (finding : String) :
    Kept lower (findings ++ [finding])
      (kept.1 ++ [finding], kept.2 ++ [normalised lower finding]) where
  given other hother := by
    rcases mem_append.mp hother with hold | hnew
    · exact mem_append_left _ (h.given other hold)
    · exact mem_append_right _ hnew
  named norm hnorm := by
    rcases mem_append.mp hnorm with hold | hnew
    · obtain ⟨other, hother, hnamed⟩ := h.named norm hold
      exact ⟨other, mem_append_left _ hother, hnamed⟩
    · exact ⟨finding, mem_append_right _ mem_cons_self, (mem_singleton.mp hnew).symm⟩
  covered other hother := by
    rcases mem_append.mp hother with hold | hnew
    · obtain ⟨norm, hnorm, hcovers⟩ := h.covered other hold
      exact ⟨norm, mem_append_left _ hnorm, hcovers⟩
    · rw [mem_singleton.mp hnew]
      exact ⟨_, mem_append_right _ mem_cons_self, Text.occurs_self _⟩

theorem Kept.step (scan : IterationOrder) (finding : String) :
    Kept lower (findings ++ [finding]) (keepFinding scan lower kept finding) := by
  rw [keepFinding]
  split
  · rename_i hseen
    exact h.pass hseen (Text.occurs_self _)
  · split
    · rename_i seen hfind
      have hseen : seen ∈ kept.2 := (scan.perm _).mem_iff.mp (mem_of_find?_eq_some hfind)
      have hpart := find?_some hfind
      rw [Bool.or_eq_true] at hpart
      split
      · rename_i hlonger
        refine h.replace (hpart.resolve_left fun hoccurs => ?_)
        exact absurd (Text.occurs_iff.mp hoccurs).length_le (Nat.not_le_of_lt hlonger)
      · rename_i hshorter
        refine h.pass hseen ?_
        rcases hpart with hoccurs | hoccurs
        · exact hoccurs
        · rw [Text.eq_of_occurs hoccurs (Nat.le_of_not_lt hshorter)]
          exact Text.occurs_self _
    · exact h.add finding

end

theorem kept_deduplicate (scan : IterationOrder) (lower : String → String)
    (findings : List String) :
    Kept lower findings (findings.foldl (keepFinding scan lower) ([], [])) := by
  have hrun : ∀ (rest before : List String) (kept : List String × List String),
      Kept lower before kept →
        Kept lower (before ++ rest) (rest.foldl (keepFinding scan lower) kept) := by
    intro rest
    induction rest with
    | nil =>
      intro before kept h
      rw [append_nil]
      exact h
    | cons finding rest ih =>
      intro before kept h
      have hnext := ih (before ++ [finding]) _ (h.step scan finding)
      rw [append_assoc] at hnext
      exact hnext
  exact hrun findings [] ([], []) ⟨fun _ h => absurd h not_mem_nil, fun _ h => absurd h not_mem_nil,
      fun _ h => absurd h not_mem_nil⟩

theorem records_summarise (scan : IterationOrder) (lower : String → String)
    (add : PyFloat → PyFloat → PyFloat) (date : String) (sessions : List ShortTermMemory) :
    (summarise scan lower add date sessions).Records lower sessions where
  completed goal := by
    simp [summarise, and_assoc]
  failed goal := by
    simp [summarise, and_assoc]
  learnt learning hlearnt := by
    have hkept := kept_deduplicate scan lower (sessions.flatMap ShortTermMemory.keyFindings)
    exact mem_flatMap.mp (hkept.given learning hlearnt)
  covered session hsession finding hfinding := by
    have hkept := kept_deduplicate scan lower (sessions.flatMap ShortTermMemory.keyFindings)
    obtain ⟨norm, hnorm, hcovers⟩ := hkept.covered finding
      (mem_flatMap.mpr ⟨session, hsession, hfinding⟩)
    obtain ⟨learning, hlearnt, rfl⟩ := hkept.named norm hnorm
    exact ⟨learning, hlearnt, hcovers⟩
  tools tool := by
    simp [summarise]
  tokens := rfl

/-! ## Duplicates -/

section Duplicates

variable (scan : IterationOrder) (lower)

def Within (finding other : String) : Prop :=
  Text.occurs (normalised lower finding) (normalised lower other) = true

/-- A proper reduction of the findings: nothing in it is within anything else, every finding
is within an entry, every entry is given, and the order of the findings does not matter. -/
structure Reduced (findings : List String) : Prop where
  apart : (deduplicateFindings scan lower findings).Pairwise fun entry other =>
    ¬ Within lower entry other ∧ ¬ Within lower other entry
  covered : ∀ finding ∈ findings, ∃ entry ∈ deduplicateFindings scan lower findings,
    Within lower finding entry
  given : ∀ entry ∈ deduplicateFindings scan lower findings, entry ∈ findings
  anyOrder : ∀ scanned others, others ~ findings → ∀ norm,
    norm ∈ (deduplicateFindings scanned lower others).map (normalised lower) ↔
      norm ∈ (deduplicateFindings scan lower findings).map (normalised lower)

/-- Of two findings that a longer one contains, the one is within the other. -/
def Chained (findings : List String) : Prop :=
  ∀ finding ∈ findings, ∀ first ∈ findings, ∀ second ∈ findings,
    Within lower first finding → normalised lower first ≠ normalised lower finding →
    Within lower second finding → normalised lower second ≠ normalised lower finding →
      Within lower first second ∨ Within lower second first

/-- No normal form that is kept occurs in another. -/
structure Apart (kept : List String × List String) : Prop where
  norms : kept.1.map (normalised lower) = kept.2
  nodup : kept.2.Nodup
  apart : ∀ norm ∈ kept.2, ∀ other ∈ kept.2, Text.occurs norm other = true → norm = other

variable {lower} {scan : IterationOrder} {pool : List String}

theorem map_filter_norms (entries : List String) (seen : String) :
    (entries.filter fun other => normalised lower other != seen).map (normalised lower) =
      (entries.map (normalised lower)).filter (· != seen) := by
  rw [filter_map]
  rfl

theorem Apart.step (h : Apart lower kept) (hkept : Kept lower findings kept)
    (hchained : Chained lower pool) (hsubset : findings ⊆ pool) {finding : String}
    (hfinding : finding ∈ pool) : Apart lower (keepFinding scan lower kept finding) := by
  have hpool : ∀ norm ∈ kept.2, ∃ other ∈ pool, normalised lower other = norm := by
    intro norm hnorm
    obtain ⟨other, hother, hnamed⟩ := hkept.named norm hnorm
    exact ⟨other, hsubset (hkept.given other hother), hnamed⟩
  rw [keepFinding]
  split
  · exact h
  · rename_i hnew
    split
    · rename_i seen hfind
      have hseen : seen ∈ kept.2 := (scan.perm _).mem_iff.mp (mem_of_find?_eq_some hfind)
      have hpart := find?_some hfind
      rw [Bool.or_eq_true] at hpart
      split
      · rename_i hlonger
        have hinside : Text.occurs seen (normalised lower finding) = true :=
          hpart.resolve_left fun hoccurs =>
            absurd (Text.occurs_iff.mp hoccurs).length_le (Nat.not_le_of_lt hlonger)
        -- another one inside the finding would be within the one that is replaced
        have hothers : ∀ norm ∈ kept.2, norm ≠ seen →
            ¬ Text.occurs norm (normalised lower finding) = true ∧
              ¬ Text.occurs (normalised lower finding) norm = true := by
          intro norm hnorm hne
          constructor
          · intro hoccurs
            obtain ⟨first, hfirst, rfl⟩ := hpool norm hnorm
            obtain ⟨second, hsecond, rfl⟩ := hpool seen hseen
            rcases hchained finding hfinding first hfirst second hsecond hoccurs
              (fun heq => hnew (heq ▸ hnorm)) hinside (fun heq => hnew (heq ▸ hseen))
              with hwithin | hwithin
            · exact hne (h.apart _ hnorm _ hseen hwithin)
            · exact hne (h.apart _ hseen _ hnorm hwithin).symm
          · intro hoccurs
            exact hne (h.apart _ hseen _ hnorm (Text.occurs_trans hinside hoccurs)).symm
        refine ⟨by simp [map_filter_norms, h.norms], ?_, ?_⟩
        · simpa using h.nodup.filter _ |>.concat fun hmem => hnew (mem_of_mem_filter hmem)
        · have hapart := h.apart
          simp only [mem_append, mem_filter, bne_iff_ne, mem_singleton]
          grind
      · exact h
    · rename_i hnone
      have hothers : ∀ norm ∈ kept.2, ¬ Text.occurs (normalised lower finding) norm = true ∧
            ¬ Text.occurs norm (normalised lower finding) = true := by
        intro norm hnorm
        simpa using find?_eq_none.mp hnone norm ((scan.perm _).mem_iff.mpr hnorm)
      have hapart := h.apart
      refine ⟨by simp [h.norms], by simpa using h.nodup.concat hnew, ?_⟩
      simp only [mem_append, mem_singleton]
      grind

theorem apart_foldl (hchained : Chained lower findings) (scan : IterationOrder) :
    Apart lower (findings.foldl (keepFinding scan lower) ([], [])) := by
  have hrun : ∀ (rest before : List String) (kept : List String × List String),
      before ++ rest = findings → Kept lower before kept → Apart lower kept →
        Apart lower (rest.foldl (keepFinding scan lower) kept) := by
    intro rest
    induction rest with
    | nil => exact fun _ _ _ _ hapart => hapart
    | cons finding rest ih =>
      intro before kept hsplit hkept hapart
      refine ih (before ++ [finding]) _ (by simpa using hsplit) (hkept.step scan finding) ?_
      exact hapart.step hkept hchained (by simp [← hsplit]) (by simp [← hsplit])
  exact hrun findings [] ([], []) rfl (by constructor <;> simp) (by constructor <;> simp)

theorem mem_norms_iff (hchained : Chained lower findings) (scan : IterationOrder) (norm : String) :
    norm ∈ (deduplicateFindings scan lower findings).map (normalised lower) ↔
      norm ∈ findings.map (normalised lower) ∧ ∀ finding ∈ findings,
        Text.occurs norm (normalised lower finding) = true → norm = normalised lower finding := by
  have hkept := kept_deduplicate scan lower findings
  have hapart := apart_foldl hchained scan
  rw [deduplicateFindings, hapart.norms]
  constructor
  · intro hnorm
    constructor
    · obtain ⟨entry, hentry, rfl⟩ := hkept.named norm hnorm
      exact mem_map_of_mem (hkept.given entry hentry)
    · intro finding hfinding hoccurs
      obtain ⟨larger, hlarger, hcovers⟩ := hkept.covered finding hfinding
      have hsame := hapart.apart _ hnorm _ hlarger (Text.occurs_trans hoccurs hcovers)
      rw [← hsame] at hcovers
      exact Text.eq_of_occurs hoccurs (Text.occurs_iff.mp hcovers).length_le
  · rintro ⟨hmem, hmaximal⟩
    obtain ⟨finding, hfinding, rfl⟩ := mem_map.mp hmem
    obtain ⟨larger, hlarger, hcovers⟩ := hkept.covered finding hfinding
    obtain ⟨entry, hentry, rfl⟩ := hkept.named larger hlarger
    rwa [hmaximal entry (hkept.given entry hentry) hcovers]

theorem Chained.reduced (h : Chained lower findings) (scan : IterationOrder) :
    Reduced lower scan findings where
  apart := by
    have hapart := apart_foldl h scan
    have hnodup := hapart.norms ▸ hapart.nodup
    refine (pairwise_map.mp hnodup).imp_of_mem fun {entry other} hentry hother hne => ?_
    have hmem : ∀ entry ∈ deduplicateFindings scan lower findings, normalised lower entry ∈
        (findings.foldl (keepFinding scan lower) ([], [])).2 :=
      fun entry hentry => hapart.norms ▸ mem_map_of_mem hentry
    exact ⟨fun hwithin => hne (hapart.apart _ (hmem _ hentry) _ (hmem _ hother) hwithin),
      fun hwithin => hne (hapart.apart _ (hmem _ hother) _ (hmem _ hentry) hwithin).symm⟩
  covered finding hfinding := by
    have hkept := kept_deduplicate scan lower findings
    obtain ⟨norm, hnorm, hcovers⟩ := hkept.covered finding hfinding
    obtain ⟨entry, hentry, rfl⟩ := hkept.named norm hnorm
    exact ⟨entry, hentry, hcovers⟩
  given := (kept_deduplicate scan lower findings).given
  anyOrder scanned others hperm norm := by
    have hothers : Chained lower others := by simpa [Chained, hperm.mem_iff] using h
    rw [mem_norms_iff hothers, mem_norms_iff h]
    simp [hperm.mem_iff]

theorem length_lt_of_within {finding other : String} (hwithin : Within lower finding other)
    (hne : normalised lower finding ≠ normalised lower other) :
    (normalised lower finding).toList.length < (normalised lower other).toList.length :=
  Nat.lt_of_not_le fun hle => hne (Text.eq_of_occurs hwithin hle)

theorem not_reduced_of_both {finding first second : String} (hfirst : Within lower first finding)
    (hne : normalised lower first ≠ normalised lower finding)
    (hsecond : Within lower second finding)
    (hother : normalised lower second ≠ normalised lower finding)
    (hapart : ¬ Within lower first second ∧ ¬ Within lower second first) :
    ¬ Reduced lower scan [first, second, finding] := by
  intro h
  have hshorter := length_lt_of_within hfirst hne
  have hsmaller := length_lt_of_within hsecond hother
  have hempty : scan.order ([] : List String) = [] := (scan.perm _).eq_nil
  have hone : scan.order [normalised lower first] = [normalised lower first] :=
    perm_singleton.mp (scan.perm _)
  have hnorms : normalised lower second ≠ normalised lower first :=
    fun heq => hapart.1 (by rw [Within, heq]; exact Text.occurs_self _)
  have htwo : [first, second].foldl (keepFinding scan lower) ([], []) =
      ([first, second], [normalised lower first, normalised lower second]) := by
    rw [Within, Within] at hapart
    simp [keepFinding, hempty, hone, hapart, hnorms]
  have hkept := h.apart
  rw [deduplicateFindings, show [first, second, finding] = [first, second] ++ [finding] from rfl,
    foldl_append, htwo, foldl_cons, foldl_nil, keepFinding,
    if_neg (by simp [hne.symm, hother.symm])] at hkept
  cases hfind : (scan.order [normalised lower first, normalised lower second]).find? fun seen =>
      Text.occurs (normalised lower finding) seen ||
        Text.occurs seen (normalised lower finding) with
  | none =>
    have hmem := (scan.perm [normalised lower first, normalised lower second]).mem_iff.mpr
      mem_cons_self
    have hmissed := find?_eq_none.mp hfind _ hmem
    rw [Within] at hfirst
    simp [hfirst] at hmissed
  | some seen =>
    have hseen := (scan.perm _).mem_iff.mp (mem_of_find?_eq_some hfind)
    simp only [hfind] at hkept
    rcases mem_pair.mp hseen with rfl | rfl
    · simp [hshorter, hnorms, hsecond] at hkept
    · simp [hsmaller, hnorms.symm, hfirst] at hkept

/-- Every choice of the findings, in any order, is properly reduced if and only if no finding
contains two others neither of which is within the other. -/
theorem reduced_iff_chained (scan : IterationOrder) (lower : String → String)
    (findings : List String) :
    (∀ chosen, chosen <+~ findings → Reduced lower scan chosen) ↔ Chained lower findings := by
  constructor
  · intro h finding hfinding first hfirst second hsecond hinside hne hwithin hother
    by_contra hapart
    rw [not_or] at hapart
    refine not_reduced_of_both hinside hne hwithin hother hapart (h _ (subperm_of_subset ?_ ?_))
    · have hnorms : first ≠ second := fun heq => hapart.1 (heq ▸ Text.occurs_self _)
      simp [hnorms, ne_of_apply_ne _ hne, ne_of_apply_ne _ hother]
    · simp [hfinding, hfirst, hsecond]
  · intro h chosen hchosen
    have hsubset := hchosen.subset
    exact Chained.reduced (fun finding hfinding first hfirst second hsecond =>
      h finding (hsubset hfinding) first (hsubset hfirst) second (hsubset hsecond)) scan

/-- Of "foo" and "bar" the one stays beside "foo bar". -/
theorem not_reduced_fooBar : ¬ Reduced Text.lower .byInsertion ["foo", "bar", "foo bar"] := by
  intro h
  have hapart := h.apart
  revert hapart
  unfold Within
  decide +kernel

end Duplicates

end DreamConsolidator

/-! ## The sessions of a date -/

namespace ShortTermMemoryStore

variable {posture : Posture} {scan : IterationOrder} {store : ShortTermMemoryStore}
  {dir : Directory ShortTermMemory} {saved : List ShortTermMemory} {memory : ShortTermMemory}
  {name : String} {document : Document ShortTermMemory}

def Filed (dir : Directory ShortTermMemory) (saved : List ShortTermMemory) : Prop :=
  ∀ name document, name ≠ manifestName → dir.get? name = some document →
    ∃ memory ∈ saved, document = .record memory ∧ memoryPath memory.sessionId = name

theorem get?_of_foldl_pop {β : Type} (path : β → String) (items : List β)
    (h : (items.foldl (fun dir item => dir.pop (path item)) dir).get? name = some document) :
    dir.get? name = some document := by
  rw [Dict.get?_foldl_pop] at h
  split at h
  · cases h
  · exact h

theorem get?_of_evictScanned {keep : Nat}
    (h : (evictScanned scan dir keep).get? name = some document) :
    dir.get? name = some document := by
  rw [evictScanned] at h
  dsimp only at h
  split at h
  · exact h
  · exact get?_of_foldl_pop _ _ h

theorem get?_of_evictOldest {keep : Nat} (hname : name ≠ manifestName)
    (h : (evictOldest scan dir keep).get? name = some document) :
    dir.get? name = some document := by
  rw [evictOldest] at h
  dsimp only at h
  split at h
  · exact get?_of_evictScanned h
  · split at h
    · exact h
    · split at h
      · exact get?_of_foldl_pop _ _ h
      · rw [Directory.get?_saveManifest _ hname] at h
        exact get?_of_foldl_pop _ _ h

theorem Filed.written (h : Filed store.dir saved) (memory : ShortTermMemory) (now : String) :
    Filed (store.written scan memory now).dir (saved ++ [memory.stamped now]) := by
  intro name document hname hfile
  have hupsert : (manifestUpsert (store.dir.set (memoryPath (memory.stamped now).sessionId)
      (.record (memory.stamped now))) (memory.stamped now).sessionId
        (memory.stamped now).createdAt).get? name = some document := by
    rw [ShortTermMemoryStore.written] at hfile
    dsimp only at hfile
    split at hfile
    · exact get?_of_evictOldest hname hfile
    · exact hfile
  rw [manifestUpsert, Directory.get?_saveManifest _ hname, Dict.get?_set] at hupsert
  split at hupsert
  · rename_i hsame
    exact ⟨memory.stamped now, mem_append_right _ mem_cons_self,
      (Option.some.inj hupsert).symm, hsame.symm⟩
  · obtain ⟨old, hold, hrest⟩ := h name document hname hupsert
    exact ⟨old, mem_append_left _ hold, hrest⟩

theorem Filed.listByDate (h : Filed store.dir saved) (hdev : posture.isStrict = false)
    (scan : IterationOrder) (date : String) : ∃ listed, ∃ sessions : List ShortTermMemory,
      store.listByDate posture scan date = .ok listed ∧
      listed.Perm (sessions.map ShortTermMemory.reread) ∧ sessions.Nodup ∧
      ∀ memory, memory ∈ sessions ↔ (memoryPath memory.sessionId ≠ manifestName ∧
          store.dir.get? (memoryPath memory.sessionId) = some (.record memory)) ∧
        Text.startsWith date memory.createdAt = true := by
  have hread : ∀ file ∈ Directory.files store.dir scan, ∃ memory,
      dictToShortTerm posture file.2 = .ok (ShortTermMemory.reread memory) ∧
        file = (memoryPath memory.sessionId, .record memory) := by
    intro file hfile
    obtain ⟨hget, hname⟩ := (Directory.mem_files_iff _).mp hfile
    obtain ⟨memory, -, hrecord, hpath⟩ := h file.1 file.2 hname hget
    refine ⟨memory, ?_, Prod.ext hpath.symm hrecord⟩
    rw [hrecord, dictToShortTerm_record, hdev, if_neg Bool.false_ne_true]
  obtain ⟨memories, hmemories, hfiles⟩ := exists_mapM_eq_ok
    (f := fun file : String × Document ShortTermMemory => dictToShortTerm posture file.2)
    (g := ShortTermMemory.reread) hread
  have hsame : Directory.files store.dir scan =
      memories.map fun memory => (memoryPath memory.sessionId, .record memory) := by
    rw [← List.forall₂_eq_eq_eq, List.forall₂_map_right_iff]
    exact hfiles
  have hnodup : memories.Nodup := by
    have hfilesNodup := Directory.nodup_files store.dir scan
    rw [hsame] at hfilesNodup
    exact List.Nodup.of_map _ hfilesNodup
  have hlist : store.listByDate posture scan date =
      .ok (((memories.map ShortTermMemory.reread).filter fun memory =>
        Text.startsWith date memory.createdAt).mergeSort fun first second =>
          first.createdAt ≤ second.createdAt) := by
    rw [ShortTermMemoryStore.listByDate, hmemories]
    rfl
  refine ⟨_, memories.filter fun memory => Text.startsWith date memory.createdAt, hlist, ?_,
    hnodup.sublist filter_sublist, fun memory => ?_⟩
  · refine (mergeSort_perm _ _).trans ?_
    rw [filter_map]
    exact .refl _
  · rw [mem_filter]
    refine and_congr_left fun _ => ?_
    have hmem : memory ∈ memories ↔
        (memoryPath memory.sessionId, .record memory) ∈ Directory.files store.dir scan := by
      rw [hsame, mem_map]
      constructor
      · exact fun hmem => ⟨memory, hmem, rfl⟩
      · rintro ⟨other, hother, heq⟩
        injection heq with _ hrecord
        injection hrecord with hrecord
        exact hrecord ▸ hother
    rw [hmem, Directory.mem_files_iff]
    exact and_comm

end ShortTermMemoryStore

/-! ## A summary is saved -/

namespace MidTermMemoryStore

theorem summaryPath_injective {first second : String} (h : summaryPath first = summaryPath second) :
    first = second := by
  have hlists := congrArg String.toList h
  rw [summaryPath, summaryPath, String.toList_append, String.toList_append] at hlists
  exact String.toList_injective (append_cancel_right hlists)

theorem not_mem_summaryPath {c : Char} {date : String} (hdate : c ∉ date.toList)
    (hsuffix : c ∉ ".json".toList) : c ∉ (summaryPath date).toList := by
  rw [summaryPath, String.toList_append, mem_append]
  exact fun hmem => hmem.elim hdate hsuffix

theorem locate_summaryPath (places : Places) {date : String} (hplain : '/' ∉ date.toList)
    (hnul : '\x00' ∉ date.toList) (hshort : date.toList.length ≤ 58) :
    places.locate (summaryPath date) = some (summaryPath date) := by
  have hpath : '/' ∉ (summaryPath date).toList := not_mem_summaryPath hplain (by decide)
  have hsome : (places.locate (summaryPath date)).isSome := by
    refine places.locate_short _ hpath (not_mem_summaryPath hnul (by decide)) ?_
    rw [summaryPath, String.toList_append, length_append]
    exact Nat.add_le_add_right hshort 5
  obtain ⟨place, hplace⟩ := Option.isSome_iff_exists.mp hsome
  rw [hplace, places.locate_plain _ place hpath hplace]

theorem get?_save (places : Places) (store : MidTermMemoryStore) (summary : DailySummary)
    (now cutoff : String)
    (hplace : places.locate (summaryPath summary.date) = some (summaryPath summary.date)) :
    ∃ saved, store.save places summary now cutoff = .ok saved ∧
      ∀ name, name ≠ manifestName → (0 < store.maxDays → outdated cutoff name = false) →
        saved.dir.get? name =
          if name = summaryPath summary.date then some (.record (summary.stamped now))
          else store.dir.get? name := by
  have hplace : places.locate (summaryPath (summary.stamped now).date) =
      some (summaryPath summary.date) := hplace
  rw [MidTermMemoryStore.save]
  dsimp only
  rw [hplace]
  refine ⟨_, rfl, fun name hname hstays => ?_⟩
  dsimp only
  split
  · rename_i hpos
    rw [evictOlderThan, manifestRemoveBefore, Directory.get?_saveManifest _ hname,
      Directory.get?_delete, hstays hpos, if_neg Bool.false_ne_true, manifestUpsert,
      Directory.get?_saveManifest _ hname, Dict.get?_set]
  · rw [manifestUpsert, Directory.get?_saveManifest _ hname, Dict.get?_set]

end MidTermMemoryStore

end HiAgent.Memory
