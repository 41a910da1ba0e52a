/-
  Context/Manager/HistoryKept.lean --- where the entries of the history go.

  An entry below the compact offset was part of a text handed to the compressor, of the chain of
  summaries of now, or a snip has removed its text.
-/
import HiAgent.Foundation.Machine
import HiAgent.Context.Manager.Assembly

namespace HiAgent.Context

open Foundation ContextManager List

/-! ## Calls -/

/-- The lines a snip has removed, and the entries it has skipped. -/
structure Snip where
  removed : List String
  first : Nat
  skipped : List HistoryEntry

def Snip.Exact (snip : Snip) : Prop :=
  snip.removed = snip.skipped.flatMap fun entry => Text.splitLines entry.text

def PartOf (part text : String) : Prop := part.toList <:+: text.toList

instance (part text : String) : Decidable (PartOf part text) :=
  inferInstanceAs (Decidable (part.toList <:+: text.toList))

namespace ContextManager

variable (env : ContextEnv) (manager : ContextManager) (call : ContextCall)

def targetOf : Int := env.target (manager.assembled env call).manager.budget.effectiveWindow

def snipped : Assembled :=
  let assembled := manager.assembled env call
  if underPressure env assembled then snip env (manager.targetOf env call) assembled
  else assembled

/-- What the call snips. -/
def snipOf : Option Snip :=
  let assembled := manager.assembled env call
  if underPressure env assembled ∧ manager.targetOf env call < assembled.totalTokens then
    (assembled.manager.findSection assembled.sections "history").bind fun ref =>
      let history := assembled.manager.read ref
      let lines := linesOf history.content
      if lines = [] ∨ excessOf history ≤ 0 then none
      else
        let dropCount := dropCount env (excessOf history) 0 lines
        some
          { removed := lines.take dropCount
            first := manager.compactOffset
            skipped := manager.behindOffset.take dropCount }
  else none

/-- The text that is compacted. -/
def handedOf : Option String :=
  let assembled := manager.assembled env call
  let snipped := manager.snipped env call
  if underPressure env assembled ∧ assembled.manager.circuitBreakerOpen = false ∧
      manager.targetOf env call < snipped.totalTokens then
    call.compressor.bind fun compressor =>
      (snipped.manager.findSection snipped.sections "history").bind fun ref =>
        let content := (snipped.manager.read ref).content
        if content = "" then none else (summaryOf content compressor).map fun _ => content
  else none

def HistoryCurrent : Prop :=
  manager.sectionDirty .history = false → ∀ fingerprint ref,
    manager.sectionCache .history = some (fingerprint, ref) →
      manager.read ref = historySection env manager

/-- What the call snips, if anything, are entries of one line each and no summary. -/
def SnipsEntries : Prop :=
  (manager.snipOf env call).isSome → manager.compactSummary = "" ∧
    ∀ entry ∈ manager.behindOffset, '\n' ∉ entry.text.toList

end ContextManager

/-- A manager, the texts of its chain of summaries and its snips. -/
structure HistoryDesk where
  manager : ContextManager
  chain : List String
  snips : List Snip

/-- What happens next. -/
inductive HistoryEvent where
  | added (entry : HistoryEntry)
  | prepared (call : ContextCall)
  | reported

namespace HistoryDesk

variable (env : ContextEnv) (desk : HistoryDesk)

def start (budget : ContextBudget) : HistoryDesk := ⟨.new budget, [], []⟩

/-- The chain goes on where the text handed over has the summary of now in it. -/
def chained : Option String → List String
  | none => desk.chain
  | some text =>
    if PartOf desk.manager.compactSummary text then desk.chain ++ [text] else [text]

/-- One event. -/
def step : HistoryEvent → HistoryDesk
  | .added entry => { desk with manager := desk.manager.addHistoryEntry entry }
  | .prepared call =>
    { manager := (desk.manager.prepareContext env call).2
      chain := desk.chained (desk.manager.handedOf env call)
      snips := desk.snips ++ (desk.manager.snipOf env call).toList }
  | .reported => { desk with manager := desk.manager.getHealthReport env }

/-! ## The laws -/

/-- An entry is part of a text whose summary is in the chain, or an exact snip has
skipped it. -/
def Accounted : Prop :=
  ∀ index < desk.manager.compactOffset, ∀ entry ∈ desk.manager.historyEntries[index]?,
    (∃ text ∈ desk.chain, PartOf entry.text text) ∨
      ∃ snip ∈ desk.snips, snip.Exact ∧ snip.first ≤ index ∧
        snip.skipped[index - snip.first]? = some entry

def historyOf (call : ContextCall) : Option ContextSection :=
  let final := desk.manager.finished env call
  (final.manager.findSection final.sections "history").map final.manager.read

def LastShown (call : ContextCall) : Prop :=
  ∀ entry ∈ desk.manager.historyEntries.getLast?,
    env.countTokens entry.text ≤ desk.manager.budget.historyBudget →
      ∃ history ∈ desk.historyOf env call, PartOf entry.text history.content

/-- The last entry is compacted or snipped, or it is in the history section, if all entries
behind the offset fit and the section is not trimmed. -/
def LastKept (call : ContextCall) : Prop :=
  ∀ entry ∈ desk.manager.historyEntries.getLast?,
    (desk.manager.shownEntries env).1 = desk.manager.behindOffset.map HistoryEntry.text →
      (∀ ref ∈ desk.manager.trimmed env call,
        ((desk.manager.finished env call).manager.read ref).name ≠ "history") →
        (desk.manager.finished env call).manager.compactOffset =
            desk.manager.historyEntries.length ∨
          ∃ history ∈ desk.historyOf env call, PartOf entry.text history.content

/-- The history is assembled for the offset of now; a snip meets entries of one line each
and no summary; a compaction has all entries behind the offset before it. -/
structure Regular (call : ContextCall) : Prop where
  current : HistoryCurrent env desk.manager
  snipped : SnipsEntries env desk.manager call
  compacted : (desk.manager.handedOf env call).isSome →
    (desk.manager.shownEntries env).1 = desk.manager.behindOffset.map HistoryEntry.text

def Meets : HistoryEvent → Prop
  | .prepared call => desk.Regular env call
  | _ => True

end HistoryDesk

/-! ## The history among the sections -/

/-- The name of the section under a key. -/
def CacheKey.name : CacheKey → String
  | system => "system"
  | tools => "tools"
  | skills => "skills"
  | reflection => "reflection"
  | memory => "memory"
  | history => "history"

namespace ContextManager

variable {env : ContextEnv} {manager before after last : ContextManager} {call : ContextCall}

def Labelled (manager : ContextManager) : Prop :=
  ∀ key, Cached manager key fun _ found => found.name = key.name

/-- A step of the assembly that makes or finds a section of this name. -/
structure Places (key : CacheKey) (before : ContextManager) (made : Nat × ContextManager) :
    Prop where
  labelled : Labelled made.2
  makes : Makes [key] before made.2
  valid : made.1 < made.2.heap.length
  name : (made.2.read made.1).name = key.name

theorem Labelled.of_makes {key : CacheKey} (h : Labelled before) (hmakes : Makes [key] before after)
    (hkey : Cached after key fun _ found => found.name = key.name) : Labelled after := by
  intro other
  by_cases hsame : other = key
  · rw [hsame]
    exact hkey
  · exact (h other).makes hmakes fun hmem => hsame (mem_singleton.mp hmem)

theorem Labelled.keyed (h : Labelled manager) (key : CacheKey) (text : String)
    {made : ContextSection} (hname : made.name = key.name) :
    Places key manager (manager.keyed env key text made) := by
  have hcached : Cached (manager.keyed env key text made).2 key
      fun _ found => found.name = key.name :=
    cached_keyed key text made (fun _ _ => h key) fun _ => hname
  refine ⟨h.of_makes (makes_keyed key text made) hcached, makes_keyed key text made, ?_, ?_⟩
  all_goals
    rcases keyed_cases key text made with ⟨ref, hcache, hkeyed⟩ | ⟨-, hkeyed⟩
  · rw [hkeyed]
    exact (h key _ ref hcache).1
  · rw [hkeyed]
    exact lt_store key text made
  · rw [hkeyed]
    exact (h key _ ref hcache).2
  · rw [hkeyed, read_store]
    exact hname

theorem Labelled.rebuilt (h : Labelled manager) (key : CacheKey) {made : ContextSection}
    (hname : made.name = key.name) : Places key manager (manager.rebuilt env key made) := by
  have hcached : Cached (manager.rebuilt env key made).2 key
      fun _ found => found.name = key.name :=
    cached_rebuilt key made (fun _ => h key) hname
  refine ⟨h.of_makes (makes_rebuilt key made) hcached, makes_rebuilt key made, ?_, ?_⟩
  all_goals
    rcases rebuilt_cases key made with ⟨fingerprint, ref, -, hcache, hrebuilt⟩ | hrebuilt
  · rw [hrebuilt]
    exact (h key fingerprint ref hcache).1
  · rw [hrebuilt]
    exact lt_alloc made
  · rw [hrebuilt]
    exact (h key fingerprint ref hcache).2
  · rw [hrebuilt]
    exact (congrArg ContextSection.name (read_alloc made)).trans hname

/-- The references are valid, and the sections are not called `history`. -/
structure Others (state : List Nat × ContextManager) : Prop where
  valid : ∀ ref ∈ state.1, ref < state.2.heap.length
  name : ∀ ref ∈ state.1, (state.2.read ref).name ≠ "history"

variable {made : Nat × ContextManager} {keys : List CacheKey}

theorem Others.next {sections : List Nat}
    (h : Others (sections, before)) (hmakes : Makes keys before made.2)
    (hvalid : made.1 < made.2.heap.length) (hname : (made.2.read made.1).name ≠ "history") :
    Others (assembleNext sections made) := by
  constructor
  · intro ref hmem
    rcases mem_append.mp hmem with hold | hnew
    · exact Nat.lt_of_lt_of_le (h.valid ref hold) hmakes.heap.length_le
    · rw [mem_singleton.mp hnew]
      exact hvalid
  · intro ref hmem
    rcases mem_append.mp hmem with hold | hnew
    · change (made.2.read ref).name ≠ "history"
      rw [hmakes.read_of_lt (h.valid ref hold)]
      exact h.name ref hold
    · rw [mem_singleton.mp hnew]
      exact hname

theorem Others.place {sections : List Nat} {key : CacheKey}
    (h : Others (sections, before)) (hplaces : Places key before made)
    (hname : key.name ≠ "history") : Others (assembleNext sections made) :=
  h.next hplaces.makes hplaces.valid (hplaces.name ▸ hname)

theorem others_assembleStable (h : Labelled manager) (systemPrompt toolDefinitions : String) :
    Others (manager.assembleStable env systemPrompt toolDefinitions) ∧
      Labelled (manager.assembleStable env systemPrompt toolDefinitions).2 := by
  have hsystem : Places .system manager (manager.assembleSystem env systemPrompt) :=
    h.keyed .system systemPrompt rfl
  have htools : Places .tools _ (assembleTools env (afterSystem env manager systemPrompt)
      toolDefinitions) :=
    hsystem.labelled.keyed .tools toolDefinitions rfl
  have hskills : Places .skills _ (assembleSkills env
      (afterTools env manager systemPrompt toolDefinitions)) :=
    htools.labelled.keyed .skills _ (name_skillsSection _)
  have hthought : Places .reflection _ (assembleReflection env
      (afterSkills env manager systemPrompt toolDefinitions)) :=
    hskills.labelled.rebuilt .reflection rfl
  have hmemory : Places .memory _ (assembleMemory env
      (afterReflection env manager systemPrompt toolDefinitions)) :=
    hthought.labelled.rebuilt .memory (name_memorySection _)
  have hknow := makes_knowledge env manager systemPrompt toolDefinitions
  have hstart : Others ([], manager) :=
    ⟨fun _ hmem => absurd hmem not_mem_nil, fun _ hmem => absurd hmem not_mem_nil⟩
  have hfive := ((((hstart.place hsystem (by decide)).place htools (by decide)).place hskills
    (by decide)).place hthought (by decide)).place hmemory (by decide)
  have hname : ((afterKnowledge env manager systemPrompt toolDefinitions).read
      (assembleKnowledge env (afterMemory env manager systemPrompt toolDefinitions)).1).name ≠
        "history" := by
    have hread : (afterKnowledge env manager systemPrompt toolDefinitions).read
        (assembleKnowledge env (afterMemory env manager systemPrompt toolDefinitions)).1 =
          knowledgeSection env _ _ := read_alloc _
    rw [hread]
    exact (by decide : "knowledge" ≠ "history")
  refine ⟨hfive.next hknow (lt_alloc _) hname, fun key => ?_⟩
  exact (hmemory.labelled key).makes hknow not_mem_nil

/-- The history section of a call, among the others. -/
structure HistoryAt (assembled : Assembled) (ref : Nat) : Prop where
  valid : assembled.Valid
  split : ∃ before behind, assembled.sections = before ++ ref :: behind ∧
    ∀ other ∈ before, (assembled.manager.read other).name ≠ "history"
  name : (assembled.manager.read ref).name = "history"

variable {ref : Nat} {assembled : Assembled}

theorem HistoryAt.lt (h : HistoryAt assembled ref) : ref < assembled.manager.heap.length := by
  obtain ⟨before, behind, hsplit, -⟩ := h.split
  exact h.valid ref (hsplit ▸ mem_append_right before mem_cons_self)

theorem HistoryAt.find (h : HistoryAt assembled ref) :
    assembled.manager.findSection assembled.sections "history" = some ref := by
  obtain ⟨before, behind, hsplit, hbefore⟩ := h.split
  have hnone : before.find? (fun ref => decide ((assembled.manager.read ref).name = "history")) =
      none := by
    rw [find?_eq_none]
    intro other hother
    simpa using hbefore other hother
  rw [findSection, hsplit, find?_append, hnone, Option.none_or, find?_cons_of_pos]
  exact decide_eq_true h.name

theorem HistoryAt.replace (h : HistoryAt assembled ref) (hmakes : Shortens assembled.manager made.2)
    (hvalid : made.1 < made.2.heap.length) (hname : (made.2.read made.1).name = "history") :
    HistoryAt (assembled.replaceHistory ref made) made.1 := by
  obtain ⟨before, behind, hsplit, hbefore⟩ := h.split
  have hread : ∀ other ∈ before ++ ref :: behind,
      made.2.read other = assembled.manager.read other :=
    fun other hmem => hmakes.read_of_lt (h.valid other (hsplit ▸ hmem))
  have hswap : made.2.replaceSection made.1 (before ++ ref :: behind) =
      before ++ made.1 :: behind := by
    clear hsplit
    induction before with
    | nil =>
      rw [nil_append, nil_append, replaceSection, hread ref mem_cons_self, h.name,
        hname, if_pos rfl]
    | cons first rest ih =>
      have hfirst := hbefore first mem_cons_self
      rw [cons_append, cons_append, replaceSection, hread first mem_cons_self, hname, if_neg hfirst,
        ih (fun other hmem => hbefore other (mem_cons_of_mem first hmem))
          fun other hmem => hread other (mem_cons_of_mem first hmem)]
  have hsections : (assembled.replaceHistory ref made).sections = before ++ made.1 :: behind := by
    rw [← hswap, ← hsplit]
    rfl
  refine ⟨(shortened_replaceHistory hmakes hvalid).valid h.valid,
    ⟨before, behind, hsections, fun other hmem => ?_⟩, hname⟩
  change (made.2.read other).name ≠ "history"
  rw [hread other (mem_append_left _ hmem)]
  exact hbefore other hmem

/-- What a call does to the entries and the offset, it does by a snip or a compaction. -/
structure SameHistory (before after : ContextManager) : Prop where
  entries : after.historyEntries = before.historyEntries
  offset : after.compactOffset = before.compactOffset
  summary : after.compactSummary = before.compactSummary

theorem Makes.sameHistory (h : Makes keys before after) : SameHistory before after :=
  ⟨by rw [h.rest], by rw [h.rest], by rw [h.rest]⟩

theorem Makes.historySection (h : Makes keys before after) :
    historySection env after = historySection env before := by
  rw [h.rest]
  rfl

theorem prefix_assembleExtra (env : ContextEnv) (extras : List (String × String))
    (state : List Nat × ContextManager) :
    state.1 <+: (extras.foldl (assembleExtra env) state).1 := by
  induction extras generalizing state with
  | nil => exact prefix_rfl
  | cons extra rest ih =>
    exact (prefix_append state.1 _).trans (ih (assembleExtra env state extra))

/-- An assembled context shows the current history section. -/
theorem historyAt_assembled (h : Labelled manager) (call : ContextCall)
    (hcurrent : HistoryCurrent env manager) : ∃ ref, HistoryAt (manager.assembled env call) ref ∧
      (manager.assembled env call).manager.read ref = historySection env manager ∧
        SameHistory manager (manager.assembled env call).manager ∧
          Labelled (manager.assembled env call).manager := by
  let sp := call.systemPrompt
  let td := call.toolDefinitions
  have hprefix : Others (manager.assembleStable env sp td) ∧
      Labelled (manager.assembleStable env sp td).2 := others_assembleStable h sp td
  obtain ⟨hothers, hstable⟩ := hprefix
  have hmakes := (makes_toKnowledge env manager sp td).trans (makes_knowledge env manager sp td)
  have hhistory : Places .history _ (assembleHistory env (afterKnowledge env manager sp td)) :=
    hstable.rebuilt .history rfl
  have hextras : Makes [] (manager.assemble env sp td).2 (manager.assembled env call).manager :=
    makes_assembleExtra call.extraContext _
  have hread : (manager.assemble env sp td).2.read
      (assembleHistory env (afterKnowledge env manager sp td)).1 = historySection env manager := by
    have hhit : (afterKnowledge env manager sp td).sectionDirty .history = false →
        ∀ fingerprint ref,
          (afterKnowledge env manager sp td).sectionCache .history = some (fingerprint, ref) →
            ref < (afterKnowledge env manager sp td).heap.length ∧
              (afterKnowledge env manager sp td).read ref =
                historySection env (afterKnowledge env manager sp td) := by
      intro hclean fingerprint ref hcache
      rw [hmakes.dirty .history (by decide)] at hclean
      rw [hmakes.cache .history (by decide)] at hcache
      rw [hmakes.historySection]
      exact hmakes.found ⟨(h .history fingerprint ref hcache).1,
        hcurrent hclean fingerprint ref hcache⟩
    rw [← hmakes.historySection]
    exact (read_rebuilt _ _ hhit).2
  have hvalid : ∀ ref ∈ (manager.assemble env sp td).1,
      ref < (manager.assemble env sp td).2.heap.length := by
    intro ref hmem
    rcases mem_append.mp hmem with hold | hnew
    · exact Nat.lt_of_lt_of_le (hothers.valid ref hold) hhistory.makes.heap.length_le
    · rw [mem_singleton.mp hnew]
      exact hhistory.valid
  obtain ⟨behind, hbehind⟩ :=
    prefix_assembleExtra env call.extraContext (manager.assemble env sp td)
  refine ⟨(assembleHistory env (afterKnowledge env manager sp td)).1,
    ⟨valid_assembleExtra call.extraContext hvalid,
      ⟨(manager.assembleStable env sp td).1, behind, ?_, fun other hmem => ?_⟩, ?_⟩, ?_, ?_, ?_⟩
  · exact hbehind.symm.trans (append_assoc _ _ _)
  · have hassemble : Makes [.history] (manager.assembleStable env sp td).2
        (manager.assemble env sp td).2 := hhistory.makes
    rw [hextras.read_of_lt (Nat.lt_of_lt_of_le (hothers.valid other hmem)
      hassemble.heap.length_le), hassemble.read_of_lt (hothers.valid other hmem)]
    exact hothers.name other hmem
  · rw [hextras.read_of_lt hhistory.valid, hread]
    rfl
  · rw [hextras.read_of_lt hhistory.valid, hread]
  · exact ((hmakes.trans hhistory.makes).trans hextras).sameHistory
  · exact fun key => (hhistory.labelled key).makes hextras not_mem_nil

/-! ## A snip -/

theorem exists_fitting (env : ContextEnv) (budget used : Int) (entries : List HistoryEntry) :
    ∃ count ≤ entries.length,
      (fitting env budget used entries).1 = (entries.take count).map HistoryEntry.text := by
  induction entries generalizing used with
  | nil => exact ⟨0, Nat.le_refl 0, rfl⟩
  | cons entry rest ih =>
    rw [fitting]
    dsimp only
    split
    · exact ⟨0, Nat.zero_le _, rfl⟩
    · obtain ⟨count, hcount, hrest⟩ := ih (used + env.countTokens entry.text)
      exact ⟨count + 1, Nat.succ_le_succ hcount, congrArg (entry.text :: ·) hrest⟩

theorem length_shownEntries_le (env : ContextEnv) (manager : ContextManager) :
    (manager.shownEntries env).1.length ≤ manager.behindOffset.length := by
  obtain ⟨count, -, hshown⟩ : ∃ count ≤ manager.behindOffset.length,
      (manager.shownEntries env).1 = (manager.behindOffset.take count).map HistoryEntry.text :=
    exists_fitting env _ _ manager.behindOffset
  rw [hshown, length_map, length_take]
  exact Nat.min_le_right _ _

theorem dropCount_le (env : ContextEnv) (excess dropped : Int) (lines : List String) :
    dropCount env excess dropped lines ≤ lines.length := by
  induction lines generalizing dropped with
  | nil => exact Nat.le_refl 0
  | cons line rest ih =>
    rw [dropCount, length_cons]
    split
    · exact Nat.le_add_left 1 rest.length
    · exact Nat.succ_le_succ (ih (dropped + env.countTokens line))

theorem flatMap_splitLines {entries : List HistoryEntry}
    (h : ∀ entry ∈ entries, '\n' ∉ entry.text.toList) :
    entries.flatMap (fun entry => Text.splitLines entry.text) = entries.map HistoryEntry.text := by
  induction entries with
  | nil => rfl
  | cons entry rest ih =>
    have hsplit : Text.splitLines (Text.joinLines [entry.text]) = [entry.text] := by
      refine Text.splitLines_joinLines (cons_ne_nil _ _) fun line hline => ?_
      rw [mem_singleton.mp hline]
      exact h entry mem_cons_self
    rw [Text.joinLines, String.intercalate_singleton] at hsplit
    rw [flatMap_cons, hsplit, map_cons, ih fun other hmem => h other (mem_cons_of_mem entry hmem)]
    rfl

/-- What a call has snipped: `dropped` entries, which it has recorded. -/
structure SnippedBy (env : ContextEnv) (manager : ContextManager) (call : ContextCall)
    (dropped ref : Nat) : Prop where
  place : HistoryAt (manager.snipped env call) ref
  content : ((manager.snipped env call).manager.read ref).content =
    Text.joinLines (manager.summaryParts ++ (manager.shownEntries env).1.drop dropped)
  entries : (manager.snipped env call).manager.historyEntries = manager.historyEntries
  offset : (manager.snipped env call).manager.compactOffset = manager.compactOffset + dropped
  le : dropped ≤ manager.behindOffset.length
  record : (manager.snipOf env call = none ∧ dropped = 0) ∨ ∃ snip,
    manager.snipOf env call = some snip ∧ snip.Exact ∧ snip.first = manager.compactOffset ∧
      snip.skipped = manager.behindOffset.take dropped

theorem snippedBy_zero (hat : HistoryAt (manager.snipped env call) ref)
    (hcontent : ((manager.snipped env call).manager.read ref).content =
      (historySection env manager).content)
    (hsame : SameHistory manager (manager.snipped env call).manager)
    (hnone : manager.snipOf env call = none) : SnippedBy env manager call 0 ref :=
  ⟨hat, hcontent, hsame.entries, hsame.offset, Nat.zero_le _, .inl ⟨hnone, rfl⟩⟩

theorem linesOf_historySection (hsummary : manager.compactSummary = "")
    (hlines : ∀ entry ∈ manager.behindOffset, '\n' ∉ entry.text.toList)
    (hne : linesOf (historySection env manager).content ≠ []) :
    linesOf (historySection env manager).content = (manager.shownEntries env).1 := by
  have hparts : manager.summaryParts = [] := if_pos hsummary
  have hcontent : (historySection env manager).content =
      Text.joinLines (manager.shownEntries env).1 := by
    rw [historySection, hparts, nil_append]
  obtain ⟨count, -, hshown⟩ := exists_fitting env manager.budget.historyBudget
    (if manager.compactSummary = "" then 0 else env.countTokens manager.compactSummary)
    manager.behindOffset
  have hshown : (manager.shownEntries env).1 =
      (manager.behindOffset.take count).map HistoryEntry.text := hshown
  rw [hcontent] at hne ⊢
  have htext : Text.joinLines (manager.shownEntries env).1 ≠ "" := by
    intro hempty
    exact hne (by rw [linesOf, if_pos hempty])
  rw [linesOf, if_neg htext]
  refine Text.splitLines_joinLines ?_ ?_
  · intro hnil
    rw [hnil] at htext
    exact htext rfl
  · intro line hline
    rw [hshown] at hline
    obtain ⟨entry, hentry, rfl⟩ := mem_map.mp hline
    exact hlines entry (mem_of_mem_take hentry)

variable {dropped : Nat}

theorem exact_snip (hlines : ∀ entry ∈ manager.behindOffset, '\n' ∉ entry.text.toList)
    (hdropped : dropped ≤ (manager.shownEntries env).1.length) (first : Nat) :
    Snip.Exact
      { removed := (manager.shownEntries env).1.take dropped
        first := first
        skipped := manager.behindOffset.take dropped } := by
  obtain ⟨count, hcount, hshown⟩ : ∃ count ≤ manager.behindOffset.length,
      (manager.shownEntries env).1 = (manager.behindOffset.take count).map HistoryEntry.text :=
    exists_fitting env _ _ manager.behindOffset
  rw [hshown, length_map, length_take, Nat.min_eq_left hcount] at hdropped
  rw [Snip.Exact, flatMap_splitLines fun entry hentry => hlines entry (mem_of_mem_take hentry),
    hshown, ← map_take, take_take, Nat.min_eq_left hdropped]

theorem snipped_eq (hat : HistoryAt (manager.assembled env call) ref)
    (hsnips : underPressure env (manager.assembled env call) = true ∧
      manager.targetOf env call < (manager.assembled env call).totalTokens) :
    manager.snipped env call = (manager.assembled env call).replaceHistory ref
      ((manager.assembled env call).manager.snipHistory env ref) := by
  rw [ContextManager.snipped, if_pos hsnips.1, snip, hat.find]
  exact if_pos hsnips.2

theorem snippedBy_dropped (hat : HistoryAt (manager.assembled env call) ref)
    (hread : (manager.assembled env call).manager.read ref = historySection env manager)
    (hsame : SameHistory manager (manager.assembled env call).manager)
    (hsnips : underPressure env (manager.assembled env call) = true ∧
      manager.targetOf env call < (manager.assembled env call).totalTokens)
    (hgoes : ¬ (linesOf (historySection env manager).content = [] ∨
      excessOf (historySection env manager) ≤ 0)) (hlines : SnipsEntries env manager call) :
    ∃ dropped ref, SnippedBy env manager call dropped ref := by
  have hrecord : manager.snipOf env call = some
      { removed := (linesOf (historySection env manager).content).take
          (dropCount env (excessOf (historySection env manager)) 0
            (linesOf (historySection env manager).content))
        first := manager.compactOffset
        skipped := manager.behindOffset.take
          (dropCount env (excessOf (historySection env manager)) 0
            (linesOf (historySection env manager).content)) } := by
    rw [snipOf, if_pos hsnips, hat.find, Option.bind_some, hread]
    exact if_neg hgoes
  have hmade : (manager.assembled env call).manager.snipHistory env ref =
      (manager.assembled env call).manager.dropLines env (historySection env manager)
        (linesOf (historySection env manager).content)
        (dropCount env (excessOf (historySection env manager)) 0
          (linesOf (historySection env manager).content)) := by
    rw [snipHistory, hread]
    exact if_neg hgoes
  obtain ⟨hsummary, hsingle⟩ := hlines (by rw [hrecord]; rfl)
  rw [linesOf_historySection hsummary hsingle fun hnil => hgoes (.inl hnil)] at hrecord hmade
  generalize hdropped : dropCount env (excessOf (historySection env manager)) 0
    (manager.shownEntries env).1 = dropped at hrecord hmade
  have hle : dropped ≤ (manager.shownEntries env).1.length := hdropped ▸ dropCount_le env _ 0 _
  have hbehind : dropped ≤ manager.behindOffset.length :=
    Nat.le_trans hle (length_shownEntries_le env manager)
  have hoffset : (manager.assembled env call).manager.compactOffset + min dropped
      ((manager.assembled env call).manager.historyEntries.length -
        (manager.assembled env call).manager.compactOffset) = manager.compactOffset + dropped := by
    rw [hsame.offset, hsame.entries]
    rw [behindOffset, length_drop] at hbehind
    rw [Nat.min_eq_left hbehind]
  have hsnipped := snipped_eq hat hsnips
  rw [hmade] at hsnipped
  refine ⟨dropped, (manager.assembled env call).manager.heap.length, ?_, ?_, ?_, ?_,
    hbehind, .inr ⟨_, hrecord, exact_snip hsingle hle _, rfl, rfl⟩⟩
  · rw [hsnipped]
    exact hat.replace (shortens_dropLines _ _ _) (lt_alloc _)
      (congrArg ContextSection.name (read_alloc _))
  · have hparts : manager.summaryParts = [] := if_pos hsummary
    rw [hsnipped, hparts, nil_append]
    exact congrArg ContextSection.content (read_alloc _)
  · rw [hsnipped]
    exact hsame.entries
  · rw [hsnipped]
    exact hoffset

theorem snippedBy_call (h : Labelled manager) (call : ContextCall)
    (hcurrent : HistoryCurrent env manager) (hlines : SnipsEntries env manager call) :
    ∃ dropped ref, SnippedBy env manager call dropped ref := by
  have hcall : ∃ ref, HistoryAt (manager.assembled env call) ref ∧ _ :=
    historyAt_assembled h call hcurrent
  obtain ⟨ref, hat, hread, hsame, -⟩ := hcall
  have hcontent : ((manager.assembled env call).manager.read ref).content =
      (historySection env manager).content := by
    rw [hread]
  by_cases hsnips : underPressure env (manager.assembled env call) = true ∧
      manager.targetOf env call < (manager.assembled env call).totalTokens
  · by_cases hstays : linesOf (historySection env manager).content = [] ∨
        excessOf (historySection env manager) ≤ 0
    · -- the section stays, in its own place
      have hmade : (manager.assembled env call).manager.snipHistory env ref =
          (ref, (manager.assembled env call).manager) := by
        rw [snipHistory, hread]
        exact if_pos hstays
      have hnone : manager.snipOf env call = none := by
        rw [snipOf, if_pos hsnips, hat.find, Option.bind_some, hread]
        exact if_pos hstays
      have hsnipped := snipped_eq hat hsnips
      rw [hmade] at hsnipped
      refine ⟨0, ref, snippedBy_zero ?_ ?_ ?_ hnone⟩
      · rw [hsnipped]
        exact hat.replace (shortens_refl _) hat.lt hat.name
      · rw [hsnipped]
        exact hcontent
      · rw [hsnipped]
        exact hsame
    · exact snippedBy_dropped hat hread hsame hsnips hstays hlines
  · have hsnipped : manager.snipped env call = manager.assembled env call := by
      rw [ContextManager.snipped]
      split
      · rename_i hpress
        rw [snip, hat.find]
        exact if_neg fun htarget => hsnips ⟨hpress, htarget⟩
      · rfl
    refine ⟨0, ref, snippedBy_zero ?_ ?_ ?_ (if_neg hsnips)⟩
    · rw [hsnipped]
      exact hat
    · rw [hsnipped]
      exact hcontent
    · rw [hsnipped]
      exact hsame

/-! ## A compaction -/

/-- A call behind the chain but for its last step has compacted nothing, or all. -/
structure CompactedBy (env : ContextEnv) (manager : ContextManager) (call : ContextCall)
    (ref : Nat) (after : Assembled) : Prop where
  entries : after.manager.historyEntries = (manager.snipped env call).manager.historyEntries
  outcome : (manager.handedOf env call = none ∧
      SameHistory (manager.snipped env call).manager after.manager ∧
        ∃ ref', HistoryAt after ref' ∧ (after.manager.read ref').content =
          ((manager.snipped env call).manager.read ref).content) ∨
    (manager.handedOf env call = some ((manager.snipped env call).manager.read ref).content ∧
      after.manager.compactOffset = after.manager.historyEntries.length)

theorem compactedBy_self (hat : HistoryAt (manager.snipped env call) ref)
    (hnone : manager.handedOf env call = none) :
    CompactedBy env manager call ref (manager.snipped env call) :=
  ⟨rfl, .inl ⟨hnone, ⟨rfl, rfl, rfl⟩, ref, hat, rfl⟩⟩

/-- Compaction leaves an empty history and replaces any other by its summary. -/
theorem compactHistory_cases (env : ContextEnv) (compressor : Compressor)
    (manager : ContextManager) (ref : Nat) : ((manager.read ref).content = "" ∧
      manager.compactHistory env compressor ref = some (ref, manager)) ∨
    ((manager.read ref).content ≠ "" ∧ summaryOf (manager.read ref).content compressor = none ∧
      manager.compactHistory env compressor ref = none) ∨
    ((manager.read ref).content ≠ "" ∧ ∃ summary,
      summaryOf (manager.read ref).content compressor = some summary ∧
        manager.compactHistory env compressor ref =
          some (manager.withSummary env (manager.read ref) summary)) := by
  rw [compactHistory]
  by_cases hempty : (manager.read ref).content = ""
  · exact .inl ⟨hempty, if_pos hempty⟩
  · rw [if_neg hempty]
    cases hsummary : summaryOf (manager.read ref).content compressor with
    | none => exact .inr (.inl ⟨hempty, rfl, rfl⟩)
    | some summary => exact .inr (.inr ⟨hempty, summary, rfl, rfl⟩)

theorem compactedBy_shorten (hat : HistoryAt (manager.snipped env call) ref)
    (hpress : underPressure env (manager.assembled env call) = true) :
    CompactedBy env manager call ref
      (shorten env call.compressor (manager.assembled env call)) := by
  have hsnipped : snip env (manager.targetOf env call) (manager.assembled env call) =
      manager.snipped env call := by
    rw [ContextManager.snipped, if_pos hpress]
  change CompactedBy env manager call ref (compact env (manager.targetOf env call)
    (if (manager.assembled env call).manager.circuitBreakerOpen then none else call.compressor)
    (snip env (manager.targetOf env call) (manager.assembled env call)))
  rw [hsnipped]
  cases hopen : (manager.assembled env call).manager.circuitBreakerOpen with
  | true =>
    have hnone : manager.handedOf env call = none :=
      if_neg fun h => by rw [hopen] at h; exact Bool.noConfusion h.2.1
    exact compactedBy_self hat hnone
  | false =>
    cases hcompressor : call.compressor with
    | none =>
      have hnone : manager.handedOf env call = none := by
        rw [handedOf, hcompressor]
        split <;> rfl
      exact compactedBy_self hat hnone
    | some compressor =>
      change CompactedBy env manager call ref (compact env (manager.targetOf env call)
        (some compressor) (manager.snipped env call))
      by_cases htarget : manager.targetOf env call < (manager.snipped env call).totalTokens
      · have hhanded : manager.handedOf env call =
            if ((manager.snipped env call).manager.read ref).content = "" then none
            else (summaryOf ((manager.snipped env call).manager.read ref).content
                compressor).map fun _ =>
              ((manager.snipped env call).manager.read ref).content := by
          rw [handedOf, if_pos ⟨hpress, hopen, htarget⟩, hcompressor, hat.find]
          rfl
        have hcompact := compactHistory_cases env compressor
          (manager.snipped env call).manager ref
        rcases hcompact with ⟨hempty, hmade⟩ | ⟨hne, hsummary, hmade⟩ |
          ⟨hne, summary, hsummary, hmade⟩
        · -- there is nothing to compact
          have hstays : HistoryAt ((manager.snipped env call).replaceHistory ref
              (ref, (manager.snipped env call).manager)) ref :=
            hat.replace (shortens_refl _) hat.lt hat.name
          simp only [compact, hat.find, if_pos htarget, hmade]
          rw [if_pos hempty] at hhanded
          exact ⟨rfl, .inl ⟨hhanded, ⟨rfl, rfl, rfl⟩, ref,
            ⟨hstays.valid, hstays.split, hstays.name⟩, rfl⟩⟩
        · -- the compressor raises
          simp only [compact, hat.find, if_pos htarget, hmade]
          rw [if_neg hne, hsummary] at hhanded
          exact ⟨rfl, .inl ⟨hhanded, ⟨rfl, rfl, rfl⟩, ref, ⟨hat.valid, hat.split, hat.name⟩, rfl⟩⟩
        · simp only [compact, hat.find, if_pos htarget, hmade]
          rw [if_neg hne, hsummary] at hhanded
          exact ⟨rfl, .inr ⟨hhanded, rfl⟩⟩
      · have hnone : manager.handedOf env call = none := if_neg fun h => htarget h.2.2
        have hcompact : compact env (manager.targetOf env call) (some compressor)
            (manager.snipped env call) = manager.snipped env call := by
          simp only [compact, hat.find, if_neg htarget]
        rw [hcompact]
        exact compactedBy_self hat hnone

theorem compactedBy_call (hat : HistoryAt (manager.snipped env call) ref) :
    CompactedBy env manager call ref (manager.shortened env call) := by
  by_cases hpress : underPressure env (manager.assembled env call) = true
  · rw [shortened, if_pos hpress]
    exact compactedBy_shorten hat hpress
  · have hsnipped : manager.snipped env call = manager.assembled env call := if_neg hpress
    rw [shortened, if_neg hpress, ← hsnipped]
    exact compactedBy_self hat (if_neg fun h => hpress h.1)

/-! ## A call -/

theorem HistoryAt.edited {refs : List Nat} {assembled last : Assembled}
    (h : HistoryAt assembled ref) (hedits : Edits refs assembled.manager last.manager)
    (hsections : last.sections = assembled.sections) : HistoryAt last ref := by
  obtain ⟨before, behind, hsplit, hbefore⟩ := h.split
  refine ⟨fun other hmem => ?_, ⟨before, behind, hsections.trans hsplit, fun other hmem => ?_⟩, ?_⟩
  · rw [hsections] at hmem
    exact Nat.lt_of_lt_of_eq (h.valid other hmem) hedits.length.symm
  · rw [hedits.name]
    exact hbefore other hmem
  · rw [hedits.name]
    exact h.name

/-- What a call has done to the history: it has snipped `dropped` entries, and has compacted
nothing or all that is left. -/
structure CalledBy (env : ContextEnv) (manager : ContextManager) (call : ContextCall)
    (dropped : Nat) (text : String) : Prop where
  content : text =
    Text.joinLines (manager.summaryParts ++ (manager.shownEntries env).1.drop dropped)
  le : dropped ≤ manager.behindOffset.length
  record : (manager.snipOf env call = none ∧ dropped = 0) ∨ ∃ snip,
    manager.snipOf env call = some snip ∧ snip.Exact ∧ snip.first = manager.compactOffset ∧
      snip.skipped = manager.behindOffset.take dropped
  entries : (manager.finished env call).manager.historyEntries = manager.historyEntries
  outcome : (manager.handedOf env call = none ∧
      (manager.finished env call).manager.compactOffset = manager.compactOffset + dropped ∧
        ∃ ref, HistoryAt (manager.finished env call) ref ∧ (ref ∉ manager.trimmed env call →
          ((manager.finished env call).manager.read ref).content = text)) ∨
    (manager.handedOf env call = some text ∧
      (manager.finished env call).manager.compactOffset = manager.historyEntries.length)

theorem calledBy_call (h : Labelled manager) (call : ContextCall)
    (hcurrent : HistoryCurrent env manager) (hlines : SnipsEntries env manager call) :
    ∃ dropped text, CalledBy env manager call dropped text := by
  obtain ⟨dropped, ref, hsnipped⟩ : ∃ dropped ref, SnippedBy env manager call dropped ref :=
    snippedBy_call h call hcurrent hlines
  have hcompacted := compactedBy_call hsnipped.place
  obtain ⟨hedits, hsections⟩ := edits_finished env manager call
  have hentries : (manager.finished env call).manager.historyEntries = manager.historyEntries := by
    rw [hedits.rest]
    exact hcompacted.entries.trans hsnipped.entries
  refine ⟨dropped, _, hsnipped.content, hsnipped.le, hsnipped.record, hentries, ?_⟩
  rcases hcompacted.outcome with ⟨hnone, hsame, ref', hat, hcontent⟩ | ⟨hsome, hoffset⟩
  · refine .inl ⟨hnone, ?_, ref', hat.edited hedits hsections, fun hkept => ?_⟩
    · rw [hedits.rest]
      exact hsame.offset.trans hsnipped.offset
    · rw [hedits.read ref' hkept]
      exact hcontent
  · refine .inr ⟨hsome, ?_⟩
    rw [← hentries, hedits.rest]
    exact hoffset

theorem CalledBy.offset_le {text : String} (h : CalledBy env manager call dropped text)
    (hoffset : manager.compactOffset ≤ manager.historyEntries.length) :
    (manager.finished env call).manager.compactOffset ≤
      (manager.finished env call).manager.historyEntries.length := by
  have hle := h.le
  rw [behindOffset, length_drop] at hle
  rw [h.entries]
  rcases h.outcome with ⟨-, hmoved, -⟩ | ⟨-, hmoved⟩
  · omega
  · omega

theorem CalledBy.summary_partOf {text : String}
    (h : CalledBy env manager call dropped text) : PartOf manager.compactSummary text := by
  rw [h.content]
  by_cases hsummary : manager.compactSummary = ""
  · rw [hsummary]
    exact nil_infix
  · have hparts : manager.summaryParts = [summaryHeader ++ "\n" ++ manager.compactSummary] :=
      if_neg hsummary
    have hline : summaryHeader ++ "\n" ++ manager.compactSummary ∈
        manager.summaryParts ++ (manager.shownEntries env).1.drop dropped := by
      rw [hparts]
      exact mem_append_left _ mem_cons_self
    refine List.IsInfix.trans ?_ (Text.infix_joinLines hline)
    rw [String.toList_append]
    exact (suffix_append _ _).isInfix

theorem CalledBy.entry_partOf {text : String} (h : CalledBy env manager call dropped text)
    (hshown : (manager.shownEntries env).1 = manager.behindOffset.map HistoryEntry.text)
    {index : Nat} {entry : HistoryEntry} (hindex : manager.compactOffset + dropped ≤ index)
    (hentry : manager.historyEntries[index]? = some entry) : PartOf entry.text text := by
  rw [h.content, hshown, ← map_drop]
  refine Text.infix_joinLines (mem_append_right _ (mem_map_of_mem ?_))
  rw [behindOffset, drop_drop]
  apply mem_of_getElem? (i := index - (manager.compactOffset + dropped))
  rw [getElem?_drop, Nat.add_sub_cancel' hindex]
  exact hentry

/-- A call leaves every cached section under its own name. -/
theorem Labelled.finished (hat : (manager.assembled env call).Valid)
    (h : Labelled (manager.assembled env call).manager) :
    Labelled (manager.finished env call).manager := by
  have hends := (finishes_finished hat).1
  intro key fingerprint ref hcache
  rw [hends.cache] at hcache
  obtain ⟨hlt, hname⟩ := h key fingerprint ref hcache
  exact ⟨Nat.lt_of_lt_of_le hlt hends.length, (hends.name ref hlt).trans hname⟩

end ContextManager

/-! ## Runs -/

namespace HistoryDesk

variable {env : ContextEnv} {desk : HistoryDesk} {call : ContextCall}

/-- What regular runs keep. -/
structure Kept (desk : HistoryDesk) : Prop where
  labelled : Labelled desk.manager
  offset : desk.manager.compactOffset ≤ desk.manager.historyEntries.length
  accounted : desk.Accounted

theorem mem_chained {dropped : Nat} {text : String}
    (h : CalledBy env desk.manager call dropped text) {old : String} (hold : old ∈ desk.chain) :
    old ∈ desk.chained (desk.manager.handedOf env call) := by
  rcases h.outcome with ⟨hnone, -⟩ | ⟨hsome, -⟩
  · rw [hnone]
    exact hold
  · rw [hsome, chained, if_pos h.summary_partOf]
    exact mem_append_left _ hold

/-- A call compacts or snips from the oldest entry on, and the account goes on behind. -/
theorem Accounted.prepared (h : desk.Accounted) {dropped : Nat} {text : String}
    (hcall : CalledBy env desk.manager call dropped text) (hregular : desk.Regular env call) :
    (desk.step env (.prepared call)).Accounted := by
  intro index hindex entry hentry
  have hthere : desk.manager.historyEntries[index]? = some entry := hcall.entries ▸ hentry
  by_cases hold : index < desk.manager.compactOffset
  · rcases h index hold entry hthere with ⟨old, hmem, hpart⟩ | ⟨snip, hmem, hsnip⟩
    · exact .inl ⟨old, mem_chained hcall hmem, hpart⟩
    · exact .inr ⟨snip, mem_append_left _ hmem, hsnip⟩
  · by_cases hsnipped : index < desk.manager.compactOffset + dropped
    · -- the snip of this call has skipped it
      rcases hcall.record with ⟨-, hzero⟩ | ⟨snip, hrecord, hexact, hfirst, hskipped⟩
      · omega
      · refine .inr ⟨snip, ?_, hexact, by omega, ?_⟩
        · have hnew : snip ∈ (desk.manager.snipOf env call).toList :=
            Option.mem_toList.mpr hrecord
          exact mem_append_right _ hnew
        · rw [hskipped, hfirst, getElem?_take_of_lt (by omega), behindOffset,
            getElem?_drop, Nat.add_sub_cancel' (Nat.le_of_not_lt hold)]
          exact hthere
    · -- this call has compacted it
      rcases hcall.outcome with ⟨-, hoffset, -⟩ | ⟨hsome, -⟩
      · exact absurd (hoffset ▸ hindex) hsnipped
      · have hshown := hregular.compacted (Option.isSome_of_eq_some hsome)
        refine .inl ⟨text, ?_, hcall.entry_partOf hshown (Nat.le_of_not_lt hsnipped) hthere⟩
        change text ∈ desk.chained (desk.manager.handedOf env call)
        rw [hsome, chained, if_pos hcall.summary_partOf]
        exact mem_append_right _ mem_cons_self

/-- A regular call keeps the account. -/
theorem Kept.prepared (h : desk.Kept) (hregular : desk.Regular env call) :
    (desk.step env (.prepared call)).Kept := by
  obtain ⟨dropped, text, hcall⟩ :=
    calledBy_call h.labelled call hregular.current hregular.snipped
  obtain ⟨ref, hat, -, -, hlabelled⟩ := historyAt_assembled h.labelled call hregular.current
  exact ⟨hlabelled.finished hat.valid, hcall.offset_le h.offset,
    h.accounted.prepared hcall hregular⟩

/-- A new entry is the last of the account. -/
theorem Kept.added (h : desk.Kept) (entry : HistoryEntry) :
    (desk.step env (.added entry)).Kept where
  labelled := h.labelled
  offset := by
    change desk.manager.compactOffset ≤ (desk.manager.historyEntries ++ [entry]).length
    rw [length_append]
    exact Nat.le_add_right_of_le h.offset
  accounted := by
    intro index hindex other hother
    have hlt : index < desk.manager.historyEntries.length :=
      Nat.lt_of_lt_of_le hindex h.offset
    change (desk.manager.historyEntries ++ [entry])[index]? = some other at hother
    rw [getElem?_append_left hlt] at hother
    exact h.accounted index hindex other hother

theorem Kept.reported (h : desk.Kept) : (desk.step env .reported).Kept := by
  have hstable : Labelled (desk.manager.assembleStable env "" "").2 :=
    (others_assembleStable h.labelled "" "").2
  have hhistory : Places .history _ (assembleHistory env (afterKnowledge env desk.manager "" "")) :=
    hstable.rebuilt .history rfl
  have hsame : SameHistory desk.manager (desk.manager.getHealthReport env) :=
    (((makes_toKnowledge env desk.manager "" "").trans
      (makes_knowledge env desk.manager "" "")).trans hhistory.makes).sameHistory
  refine ⟨hhistory.labelled, ?_, fun index hindex entry hentry => ?_⟩
  · change (desk.manager.getHealthReport env).compactOffset ≤
      (desk.manager.getHealthReport env).historyEntries.length
    rw [hsame.offset, hsame.entries]
    exact h.offset
  · change index < (desk.manager.getHealthReport env).compactOffset at hindex
    change (desk.manager.getHealthReport env).historyEntries[index]? = some entry at hentry
    rw [hsame.offset] at hindex
    rw [hsame.entries] at hentry
    exact h.accounted index hindex entry hentry

/-- A step that meets the condition keeps the account. -/
theorem Kept.step (h : desk.Kept) {event : HistoryEvent} (hmeets : desk.Meets env event) :
    (desk.step env event).Kept := by
  cases event with
  | added entry => exact h.added entry
  | prepared call => exact h.prepared hmeets
  | reported => exact h.reported

theorem kept_start (budget : ContextBudget) : (start budget).Kept where
  labelled := fun _ _ _ hcache => by cases hcache
  offset := Nat.le_refl 0
  accounted := fun _ hindex => absurd hindex (Nat.not_lt_zero _)

/-- Under the account a regular call keeps the last entry. -/
theorem Kept.lastKept (h : desk.Kept) (hregular : desk.Regular env call) :
    desk.LastKept env call := by
  intro entry hlast hshown htrimmed
  obtain ⟨dropped, text, hcall⟩ :=
    calledBy_call h.labelled call hregular.current hregular.snipped
  rcases hcall.outcome with ⟨-, hoffset, ref, hat, hcontent⟩ | ⟨-, hoffset⟩
  · have hle := hcall.le
    rw [behindOffset, length_drop] at hle
    by_cases hall : desk.manager.compactOffset + dropped = desk.manager.historyEntries.length
    · exact .inl (hoffset.trans hall)
    · right
      have hkept : ref ∉ desk.manager.trimmed env call := fun hmem => htrimmed ref hmem hat.name
      have hfound : desk.historyOf env call =
          some ((desk.manager.finished env call).manager.read ref) := by
        rw [historyOf, hat.find]
        rfl
      refine ⟨_, hfound, ?_⟩
      have hthere : desk.manager.historyEntries[desk.manager.historyEntries.length - 1]? =
          some entry := getLast?_eq_getElem? ▸ hlast
      have hoffset := h.offset
      rw [hcontent hkept]
      exact hcall.entry_partOf hshown (by omega) hthere
  · exact .inl hoffset

/-- In a run of regular calls every entry below the offset is accounted for, and no call
loses the last one. -/
theorem accounted_of_meets (env : ContextEnv) (budget : ContextBudget)
    (events : List HistoryEvent) (hmeets : Along (step env) (Meets env) (start budget) events) :
    Along (step env) (fun desk event => (desk.step env event).Accounted ∧
        ∀ call, event = .prepared call → desk.LastKept env call) (start budget) events := by
  have hkeeps : ∀ (desk : HistoryDesk) event, desk.Kept → desk.Meets env event →
      (desk.step env event).Kept := fun _ _ h hmeets => h.step hmeets
  refine along_of_invariant hkeeps ?_ (kept_start budget) hmeets
  intro desk event h hmeets
  refine ⟨(hkeeps desk event h hmeets).accounted, ?_⟩
  rintro call rfl
  exact h.lastKept hmeets

/-- A character is a token. -/
def everyCharacter : ContextEnv where
  countTokens text := text.toList.length
  fingerprint := id
  reaches
    | .green, total, effective => decide (70 * effective ≤ 100 * total)
    | .yellow, total, effective => decide (85 * effective ≤ 100 * total)
    | .orange, total, effective => decide (95 * effective ≤ 100 * total)
  target effective := effective * 85 / 100
  maxCompressionFailures := 3
  skillLoader := none
  memoryRetriever := none

def allHistory : ContextBudget := ⟨100, 0, 0, 0, 0, 0, 0, 0⟩

/-- A call with an extra section of 45 tokens and a compressor that answers. -/
def pressedCall : ContextCall where
  purpose := "routing"
  systemPrompt := ""
  toolDefinitions := ""
  extraContext := [("note", "xxxxxxxxxxxxxxxxxxxxxxxxxxxxxxxxxxxxxxxxxxxxx")]
  compressor := some (.compressText fun _ => some "A")

def nightEntry : HistoryEntry := ⟨"user", "The backup of the archive failed at night."⟩

/-- An entry is compacted, and another one is shown behind the summary. -/
theorem accounted_pressed : Along (step everyCharacter)
      (fun desk event => (desk.step everyCharacter event).Accounted ∧
        ∀ call, event = .prepared call → desk.LastKept everyCharacter call) (start allHistory)
      [.added nightEntry, .prepared pressedCall, .added ⟨"user", "hi"⟩, .reported,
        .prepared { pressedCall with extraContext := [] }] := by
  apply accounted_of_meets
  refine ⟨trivial, ⟨?_, ?_, ?_⟩, trivial, trivial, ⟨?_, ?_, ?_⟩, trivial⟩
  · intro hclean
    cases hclean
  · intro hsnips
    exact absurd hsnips (by decide +kernel)
  · decide +kernel
  · intro _ fingerprint ref hcache
    cases hcache
    decide +kernel
  · intro hsnips
    exact absurd hsnips (by decide +kernel)
  · decide +kernel

/-- A compaction takes the place of an entry that fits the budget. -/
theorem not_forall_lastShown :
    ¬ ∀ (env : ContextEnv) (budget : ContextBudget) (events : List HistoryEvent), Along (step env)
        (fun desk event => (desk.step env event).Accounted ∧
          ∀ call, event = .prepared call → desk.LastShown env call) (start budget) events := by
  intro h
  obtain ⟨history, hmem, hpart⟩ :=
    (h everyCharacter allHistory [.added nightEntry, .prepared pressedCall]).2.1.2 pressedCall rfl
      nightEntry rfl (by decide +kernel)
  cases hmem
  exact absurd hpart (by decide +kernel)

end HistoryDesk

end HiAgent.Context
