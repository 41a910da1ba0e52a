/-
  Context/Manager.lean --- `ContextManager` of `hi_agent/context/manager.py`.

  A section is an object: the cache, the list a call works on and the snapshot it returns hold
  references to it, and trimming edits it where it is.
-/
import HiAgent.Foundation.Heap
import HiAgent.Foundation.Text
import Mathlib.Algebra.Ring.Int.Defs

namespace HiAgent.Context

open Foundation

/-! ## Data -/

inductive ContextHealth where
  | green
  | yellow
  | orange
  | red
  deriving DecidableEq

structure ContextBudget where
  totalWindow : Int
  outputReserve : Int
  systemPrompt : Int
  toolDefinitions : Int
  skillPrompts : Int
  memoryContext : Int
  knowledgeContext : Int
  reflectionContext : Int

namespace ContextBudget

variable (budget : ContextBudget)

def effectiveWindow : Int := budget.totalWindow - budget.outputReserve

def fixedOverhead : Int :=
  budget.systemPrompt + budget.toolDefinitions + budget.skillPrompts + budget.memoryContext +
    budget.reflectionContext + budget.knowledgeContext

def historyBudget : Int := max 0 (budget.effectiveWindow - budget.fixedOverhead)

/-- `setattr(budget, key, value)` where `hasattr(budget, key)`: nothing for another name, and
an `AttributeError` for a property. -/
def setattr (key : String) (value : Int) : Option ContextBudget :=
  if key = "total_window" then some { budget with totalWindow := value }
  else if key = "output_reserve" then some { budget with outputReserve := value }
  else if key = "system_prompt" then some { budget with systemPrompt := value }
  else if key = "tool_definitions" then some { budget with toolDefinitions := value }
  else if key = "skill_prompts" then some { budget with skillPrompts := value }
  else if key = "memory_context" then some { budget with memoryContext := value }
  else if key = "knowledge_context" then some { budget with knowledgeContext := value }
  else if key = "reflection_context" then some { budget with reflectionContext := value }
  else if key ∈ ["effective_window", "fixed_overhead", "history_budget"] then none
  else some budget

end ContextBudget

structure ContextSection where
  name : String
  content : String
  tokens : Int
  budget : Int
  source : String
  deriving DecidableEq, Repr, Inhabited

/-- `ContextSnapshot`, with references to its sections. -/
structure ContextSnapshot where
  sections : List Nat
  totalTokens : Int
  budgetTokens : Int
  health : ContextHealth
  compressionsApplied : Nat
  purpose : String

/-- The keys of the section cache. -/
inductive CacheKey where
  | system
  | tools
  | skills
  | reflection
  | memory
  | history
  deriving DecidableEq

/-- An entry of the history. -/
structure HistoryEntry where
  role : String
  content : String

def HistoryEntry.text (entry : HistoryEntry) : String :=
  "[" ++ entry.role ++ "] " ++ entry.content

/-- A threshold of the health levels. -/
inductive Threshold where
  | green
  | yellow
  | orange

/-- What a compressor offers, and what it answers to a text; it raises where there is no
answer. -/
inductive Compressor where
  | compressText (answer : String → Option String)
  /-- `compress_stage`, with its findings. -/
  | compressStage (answer : String → Option (List String))
  | neither

/-- What a manager is made from, and what it computes with. -/
structure ContextEnv where
  countTokens : String → Int
  /-- `_section_fingerprint`. -/
  fingerprint : String → String
  /-- `total_tokens / effective >= threshold`, for a positive window. -/
  reaches : Threshold → Int → Int → Bool
  /-- `int(effective_window * yellow_threshold)`. -/
  target : Int → Int
  maxCompressionFailures : Int
  /-- The text and the tokens of the prompt for a budget; it raises where there is none. -/
  skillLoader : Option (Int → Option (String × Int))
  /-- The text retrieved for a budget; it raises where there is none. -/
  memoryRetriever : Option (Int → Option String)

structure ContextManager where
  budget : ContextBudget
  compressionCount : Nat
  compressionFailures : Nat
  circuitBreakerOpen : Bool
  historyEntries : List HistoryEntry
  compactOffset : Nat
  compactSummary : String
  knowledgeContent : String
  reflectionContext : String
  /-- The fingerprint and the section under each key. -/
  sectionCache : CacheKey → Option (String × Nat)
  /-- The dynamic sections that are to be rebuilt. -/
  sectionDirty : CacheKey → Bool
  /-- The sections made so far. -/
  heap : Heap ContextSection

namespace ContextManager

variable (env : ContextEnv) (manager : ContextManager)

/-- `__init__`. -/
def new (budget : ContextBudget) : ContextManager where
  budget := budget
  compressionCount := 0
  compressionFailures := 0
  circuitBreakerOpen := false
  historyEntries := []
  compactOffset := 0
  compactSummary := ""
  knowledgeContent := ""
  reflectionContext := ""
  sectionCache := fun _ => none
  sectionDirty := fun _ => true
  heap := []

def read (ref : Nat) : ContextSection := Heap.read manager.heap ref

def alloc (made : ContextSection) : Nat × ContextManager :=
  (manager.heap.length, { manager with heap := (Heap.alloc manager.heap made).2 })

def write (ref : Nat) (edited : ContextSection) : ContextManager :=
  { manager with heap := Heap.write manager.heap ref edited }

/-- `_section_cache[key] = (fingerprint, section)`, of a new section. -/
def store (key : CacheKey) (text : String) (made : ContextSection) : Nat × ContextManager :=
  let (ref, manager) := manager.alloc made
  (ref, { manager with
    sectionCache := fun other =>
      if other = key then some (env.fingerprint text, ref) else manager.sectionCache other })

/-! ## Sections -/

/-- The section cached under the fingerprint of a text, or else a new one. -/
def keyed (key : CacheKey) (text : String) (made : ContextSection) : Nat × ContextManager :=
  match manager.sectionCache key with
  | some (fingerprint, ref) =>
    if fingerprint = env.fingerprint text then (ref, manager)
    else manager.store env key text made
  | none => manager.store env key text made

def rebuild (key : CacheKey) (made : ContextSection) : Nat × ContextManager :=
  let (ref, manager) := manager.store env key made.content made
  (ref, { manager with
    sectionDirty := fun other => if other = key then false else manager.sectionDirty other })

/-- The section of a key that is not dirty, or else a new one. -/
def rebuilt (key : CacheKey) (made : ContextSection) : Nat × ContextManager :=
  if manager.sectionDirty key then manager.rebuild env key made
  else
    match manager.sectionCache key with
    | some (_, ref) => (ref, manager)
    | none => manager.rebuild env key made

/-- `count_tokens(content) if content else 0`. -/
def tokensOf (content : String) : Int := if content = "" then 0 else env.countTokens content

/-- The content within a budget of tokens, and its tokens. -/
def truncated (content : String) (budget : Int) : String × Int :=
  if budget < tokensOf env content ∧ content ≠ "" then
    let content := Text.slice content (budget * 4)
    (content, env.countTokens content)
  else (content, tokensOf env content)

def truncatedSection (name content : String) (budget : Int) (source : String) : ContextSection :=
  let (content, tokens) := truncated env content budget
  ⟨name, content, tokens, budget, source⟩

def assembleSystem (systemPrompt : String) : Nat × ContextManager :=
  manager.keyed env .system systemPrompt
    (truncatedSection env "system" systemPrompt manager.budget.systemPrompt "system_prompt")

def assembleTools (toolDefinitions : String) : Nat × ContextManager :=
  manager.keyed env .tools toolDefinitions
    (truncatedSection env "tools" toolDefinitions manager.budget.toolDefinitions
      "tool_definitions")

/-- The skills section for a budget: empty without a loader, or when it raises. -/
def skillsSection (budget : Int) : ContextSection :=
  match env.skillLoader with
  | none => ⟨"skills", "", 0, budget, "none"⟩
  | some buildPrompt =>
    let (content, tokens) := (buildPrompt budget).getD ("", 0)
    ⟨"skills", content, tokens, budget, "skill_loader"⟩

def assembleSkills : Nat × ContextManager :=
  let made := skillsSection env manager.budget.skillPrompts
  manager.keyed env .skills made.content made

def reflectionSection (content : String) (budget : Int) : ContextSection :=
  ⟨"reflection", content, tokensOf env content, budget,
    if content = "" then "none" else "reflection_prompt"⟩

def assembleReflection : Nat × ContextManager :=
  manager.rebuilt env .reflection
    (reflectionSection env manager.reflectionContext manager.budget.reflectionContext)

/-- The memory section for a budget: empty without a retriever, or when it raises. -/
def memorySection (budget : Int) : ContextSection :=
  match env.memoryRetriever with
  | none => ⟨"memory", "", 0, budget, "none"⟩
  | some retrieve =>
    truncatedSection env "memory" ((retrieve budget).getD "") budget "memory_retriever"

def assembleMemory : Nat × ContextManager :=
  manager.rebuilt env .memory (memorySection env manager.budget.memoryContext)

def knowledgeSection (content : String) (budget : Int) : ContextSection :=
  truncatedSection env "knowledge" content budget
    (if content = "" then "none" else "retrieval_engine")

def assembleKnowledge : Nat × ContextManager :=
  manager.alloc (knowledgeSection env manager.knowledgeContent manager.budget.knowledgeContext)

def summaryHeader : String := "[Summary of earlier context]"

/-- The entries up to the first that does not fit, and the tokens used. -/
def fitting (budget : Int) : Int → List HistoryEntry → List String × Int
  | used, [] => ([], used)
  | used, entry :: rest =>
    let tokens := env.countTokens entry.text
    if budget < used + tokens then ([], used)
    else
      let (texts, total) := fitting budget (used + tokens) rest
      (entry.text :: texts, total)

def behindOffset : List HistoryEntry := manager.historyEntries.drop manager.compactOffset

/-- The texts of the entries that are shown, and the tokens with the summary. -/
def shownEntries : List String × Int :=
  fitting env manager.budget.historyBudget
    (if manager.compactSummary = "" then 0 else env.countTokens manager.compactSummary)
    manager.behindOffset

def summaryParts : List String :=
  if manager.compactSummary = "" then []
  else [summaryHeader ++ "\n" ++ manager.compactSummary]

def historySection : ContextSection :=
  ⟨"history", Text.joinLines (manager.summaryParts ++ (manager.shownEntries env).1),
    (manager.shownEntries env).2, manager.budget.historyBudget, "session_history"⟩

def assembleHistory : Nat × ContextManager :=
  manager.rebuilt env .history (historySection env manager)

/-! ## Compression -/

def checkHealth (totalTokens : Int) : ContextHealth :=
  let effective := manager.budget.effectiveWindow
  if effective ≤ 0 then .red
  else if env.reaches .orange totalTokens effective then .red
  else if env.reaches .yellow totalTokens effective then .orange
  else if env.reaches .green totalTokens effective then .yellow
  else .green

/-- `sum(s.tokens for s in sections)`. -/
def totalTokens (sections : List Nat) : Int :=
  (sections.map fun ref => (manager.read ref).tokens).sum

def findSection (sections : List Nat) (name : String) : Option Nat :=
  sections.find? fun ref => (manager.read ref).name = name

def replaceSection (replacement : Nat) : List Nat → List Nat
  | [] => []
  | ref :: rest =>
    if (manager.read ref).name = (manager.read replacement).name then replacement :: rest
    else ref :: replaceSection replacement rest

/-- How many lines go until the excess is shed. -/
def dropCount (excess : Int) : Int → List String → Nat
  | _, [] => 0
  | dropped, line :: rest =>
    let dropped := dropped + env.countTokens line
    if excess ≤ dropped then 1 else dropCount excess dropped rest + 1

def linesOf (content : String) : List String :=
  if content = "" then [] else Text.splitLines content

def excessOf (history : ContextSection) : Int := history.tokens - history.budget / 2

/-- The history section without its first lines, and an offset behind as many entries. -/
def dropLines (history : ContextSection) (lines : List String) (dropCount : Nat) :
    Nat × ContextManager :=
  let newContent := Text.joinLines (lines.drop dropCount)
  { manager with
    compactOffset := manager.compactOffset +
      min dropCount (manager.historyEntries.length - manager.compactOffset) }.alloc
    { history with
      name := "history"
      content := newContent
      tokens := tokensOf env newContent }

def snipHistory (ref : Nat) : Nat × ContextManager :=
  let history := manager.read ref
  let lines := linesOf history.content
  if lines = [] ∨ excessOf history ≤ 0 then (ref, manager)
  else manager.dropLines env history lines (dropCount env (excessOf history) 0 lines)

/-- What a compressor makes of a text. -/
def summaryOf (content : String) : Compressor → Option String
  | .compressText answer => answer content
  | .compressStage answer => (answer content).map fun findings =>
    if findings = [] then Text.slice content 200 else String.intercalate "; " findings
  | .neither =>
    some (if 200 < content.length then Text.slice content 200 ++ "..." else content)

/-- The summary in the place of the history, and the offset behind all entries. -/
def withSummary (history : ContextSection) (summary : String) : Nat × ContextManager :=
  let newContent := summaryHeader ++ "\n" ++ summary
  { manager with
    compactSummary := summary
    compactOffset := manager.historyEntries.length
    sectionDirty := fun other =>
      if other = CacheKey.history then true else manager.sectionDirty other }.alloc
    { history with
      name := "history"
      content := newContent
      tokens := env.countTokens newContent }

/-- `_compact_history`, where there is a compressor; it raises where there is no result. -/
def compactHistory (compressor : Compressor) (ref : Nat) : Option (Nat × ContextManager) :=
  let history := manager.read ref
  if history.content = "" then some (ref, manager)
  else (summaryOf history.content compressor).map (manager.withSummary env history)

/-- What the steps of the fallback chain work on. -/
structure Assembled where
  sections : List Nat
  totalTokens : Int
  manager : ContextManager

/-- The new history section takes the place of the old one. -/
def Assembled.replaceHistory (assembled : Assembled) (ref : Nat)
    (made : Nat × ContextManager) : Assembled :=
  let delta := (assembled.manager.read ref).tokens - (made.2.read made.1).tokens
  { sections := made.2.replaceSection made.1 assembled.sections
    totalTokens := assembled.totalTokens - delta
    manager := made.2 }

/-- The first step of the chain: the history is snipped. -/
def snip (target : Int) (assembled : Assembled) : Assembled :=
  match assembled.manager.findSection assembled.sections "history" with
  | none => assembled
  | some ref =>
    if target < assembled.totalTokens then
      assembled.replaceHistory ref (assembled.manager.snipHistory env ref)
    else assembled

/-- A compaction that has failed; enough of them open the circuit breaker. -/
def failed : ContextManager :=
  let failures := manager.compressionFailures + 1
  { manager with
    compressionFailures := failures
    circuitBreakerOpen :=
      manager.circuitBreakerOpen || decide (env.maxCompressionFailures ≤ failures) }

/-- The second step of the chain: the history is compacted. -/
def compact (target : Int) (compressor : Option Compressor) (assembled : Assembled) : Assembled :=
  match compressor, assembled.manager.findSection assembled.sections "history" with
  | some compressor, some ref =>
    if target < assembled.totalTokens then
      match assembled.manager.compactHistory env compressor ref with
      | some made =>
        let compacted := assembled.replaceHistory ref made
        { compacted with
          manager := { compacted.manager with
            compressionCount := compacted.manager.compressionCount + 1
            compressionFailures := 0 } }
      | none => { assembled with manager := assembled.manager.failed env }
    else assembled
  | _, _ => assembled

/-- `_trim_sections`, for one name, on the total that is left. -/
def trimSection (target : Int) (sections : List Nat) (state : Int × ContextManager)
    (name : String) : Int × ContextManager :=
  let (total, manager) := state
  if total ≤ target then state
  else
    match manager.findSection sections name with
    | none => state
    | some ref =>
      let trimmed := manager.read ref
      let excess := total - target
      if trimmed.tokens = 0 then state
      else if trimmed.tokens ≤ excess then
        (total - trimmed.tokens, manager.write ref
          { trimmed with
            content := ""
            tokens := 0 })
      else
        let content := Text.slice trimmed.content ((trimmed.tokens - excess) * 4)
        let tokens := env.countTokens content
        (total - (trimmed.tokens - tokens), manager.write ref
          { trimmed with
            content := content
            tokens := tokens })

def trimOrder : List String := ["knowledge", "memory", "skills", "history"]

def trimSections (target : Int) (sections : List Nat) : ContextManager :=
  (trimOrder.foldl (trimSection env target sections) (manager.totalTokens sections, manager)).2

/-- The last step of the chain: sections are trimmed. -/
def trim (target : Int) (assembled : Assembled) : Assembled :=
  if target < assembled.totalTokens then
    let manager := assembled.manager.trimSections env target assembled.sections
    { assembled with
      totalTokens := manager.totalTokens assembled.sections
      manager := manager }
  else assembled

/-- The fallback chain up to its last step; there is no compaction when the circuit breaker
is open. -/
def shorten (compressor : Option Compressor) (assembled : Assembled) : Assembled :=
  let target := env.target assembled.manager.budget.effectiveWindow
  compact env target (if assembled.manager.circuitBreakerOpen then none else compressor)
    (snip env target assembled)

/-- `_compress_if_needed`, and `_apply_snip_and_trim` when the circuit breaker is open. -/
def compressIfNeeded (compressor : Option Compressor) (assembled : Assembled) : Assembled :=
  trim env (env.target assembled.manager.budget.effectiveWindow)
    (shorten env compressor assembled)

/-! ## Calls -/

/-- The arguments of `prepare_context`, and the compressor as it is then. -/
structure ContextCall where
  purpose : String
  systemPrompt : String
  toolDefinitions : String
  extraContext : List (String × String)
  compressor : Option Compressor

def assembleNext (sections : List Nat) (made : Nat × ContextManager) : List Nat × ContextManager :=
  (sections ++ [made.1], made.2)

/-- The sections of a call without the history. -/
def assembleStable (systemPrompt toolDefinitions : String) : List Nat × ContextManager :=
  let (sections, manager) := assembleNext [] (manager.assembleSystem env systemPrompt)
  let (sections, manager) := assembleNext sections (manager.assembleTools env toolDefinitions)
  let (sections, manager) := assembleNext sections (manager.assembleSkills env)
  let (sections, manager) := assembleNext sections (manager.assembleReflection env)
  let (sections, manager) := assembleNext sections (manager.assembleMemory env)
  assembleNext sections (manager.assembleKnowledge env)

def assemble (systemPrompt toolDefinitions : String) : List Nat × ContextManager :=
  let (sections, manager) := manager.assembleStable env systemPrompt toolDefinitions
  assembleNext sections (manager.assembleHistory env)

def assembleExtra (state : List Nat × ContextManager) (extra : String × String) :
    List Nat × ContextManager :=
  let tokens := env.countTokens extra.2
  assembleNext state.1 (state.2.alloc ⟨extra.1, extra.2, tokens, tokens, "extra"⟩)

def assembleAll (call : ContextCall) : List Nat × ContextManager :=
  call.extraContext.foldl (assembleExtra env)
    (manager.assemble env call.systemPrompt call.toolDefinitions)

def assembled (call : ContextCall) : Assembled :=
  let (sections, manager) := manager.assembleAll env call
  ⟨sections, manager.totalTokens sections, manager⟩

def underPressure (assembled : Assembled) : Bool :=
  let health := assembled.manager.checkHealth env assembled.totalTokens
  health == .orange || health == .red

def finished (call : ContextCall) : Assembled :=
  let assembled := manager.assembled env call
  if underPressure env assembled then compressIfNeeded env call.compressor assembled
  else assembled

def prepareContext (call : ContextCall) : ContextSnapshot × ContextManager :=
  let final := manager.finished env call
  ({ sections := final.sections
     totalTokens := final.totalTokens
     budgetTokens := final.manager.budget.effectiveWindow
     health := final.manager.checkHealth env final.totalTokens
     compressionsApplied := if underPressure env (manager.assembled env call) then 1 else 0
     purpose := call.purpose },
    final.manager)

/-- `get_health_report`, as far as it changes the manager. -/
def getHealthReport : ContextManager := (manager.assemble env "" "").2

def addHistoryEntry (entry : HistoryEntry) : ContextManager :=
  { manager with
    historyEntries := manager.historyEntries ++ [entry]
    sectionDirty := fun other =>
      if other = CacheKey.history then true else manager.sectionDirty other }

def setKnowledgeContext (content : String) : ContextManager :=
  { manager with knowledgeContent := content }

def setReflectionContext (content : String) : ContextManager :=
  { manager with
    reflectionContext :=
      if manager.budget.reflectionContext < env.countTokens content then
        Text.slice content (manager.budget.reflectionContext * 4)
      else content
    sectionDirty := fun other =>
      if other = CacheKey.reflection then true else manager.sectionDirty other }

/-- `adjust_budget`: a name that cannot be set ends it. -/
def adjustBudget : List (String × Int) → ContextManager → ContextManager
  | [], manager => manager
  | (key, value) :: rest, manager =>
    match manager.budget.setattr key value with
    | none => manager
    | some budget => adjustBudget rest { manager with budget := budget }

def setModelContextWindow (totalTokens : Int) : ContextManager :=
  { manager with budget := { manager.budget with totalWindow := totalTokens } }

end ContextManager

end HiAgent.Context
