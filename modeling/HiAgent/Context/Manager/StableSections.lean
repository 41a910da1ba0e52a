/-
  Context/Manager/StableSections.lean --- pressure and the sections that stay.

  Trimming edits the very sections that the cache and earlier snapshots hold, and
  the cache is not asked for the budget.
-/
import HiAgent.Foundation.Machine
import HiAgent.Context.Manager.Assembly

namespace HiAgent.Context

open Foundation ContextManager List

/-! ## Calls -/

/-- A manager, what its callers have given it and what it has returned. -/
structure ContextDesk where
  manager : ContextManager
  systemText : String
  toolsText : String
  reflectionGiven : String
  returned : List (List Nat × List ContextSection)

/-- What happens next. -/
inductive ContextEvent where
  | prepared (call : ContextCall)
  | reported
  | adjusted (budgets : List (String × Int))
  | windowSet (totalTokens : Int)
  | historyAdded (entry : HistoryEntry)
  | knowledgeSet (content : String)
  | reflectionSet (content : String)

namespace ContextManager

variable (env : ContextEnv) (manager : ContextManager)

/-- The text behind the fingerprint of a key, once a section was asked for by `text`. -/
def textUnder (key : CacheKey) (old text : String) : String :=
  match manager.sectionCache key with
  | none => text
  | some (fingerprint, _) => if fingerprint = env.fingerprint text then old else text

def stableSections (systemPrompt toolDefinitions : String) : List ContextSection :=
  let (sections, manager) := manager.assembleStable env systemPrompt toolDefinitions
  sections.map manager.read

end ContextManager

namespace ContextDesk

variable (env : ContextEnv) (desk : ContextDesk)

def start (budget : ContextBudget) : ContextDesk := ⟨.new budget, "", "", "", []⟩

/-- The texts are those of an assembly, and the manager is the one behind it. -/
def assembling (systemPrompt toolDefinitions : String) (manager : ContextManager) : ContextDesk :=
  { desk with
    manager := manager
    systemText := desk.manager.textUnder env .system desk.systemText systemPrompt
    toolsText := desk.manager.textUnder env .tools desk.toolsText toolDefinitions }

def returning (sections : List Nat) : ContextDesk :=
  { desk with returned := desk.returned ++ [(sections, sections.map desk.manager.read)] }

/-- One event. -/
def step : ContextEvent → ContextDesk
  | .prepared call =>
    let (snapshot, manager) := desk.manager.prepareContext env call
    (desk.assembling env call.systemPrompt call.toolDefinitions manager).returning
      snapshot.sections
  | .reported => desk.assembling env "" "" (desk.manager.getHealthReport env)
  | .adjusted budgets => { desk with manager := desk.manager.adjustBudget budgets }
  | .windowSet totalTokens =>
    { desk with manager := desk.manager.setModelContextWindow totalTokens }
  | .historyAdded entry => { desk with manager := desk.manager.addHistoryEntry entry }
  | .knowledgeSet content => { desk with manager := desk.manager.setKnowledgeContext content }
  | .reflectionSet content =>
    { desk with
      manager := desk.manager.setReflectionContext env content
      reflectionGiven := content }

/-! ## The law -/

def fresh : ContextManager :=
  ((ContextManager.new desk.manager.budget).setKnowledgeContext
    desk.manager.knowledgeContent).setReflectionContext env desk.reflectionGiven

/-- A call assembles what a new manager would assemble, and no snapshot has changed. -/
structure Untraced (event : ContextEvent) : Prop where
  fresh : ∀ call, event = .prepared call →
    desk.manager.stableSections env call.systemPrompt call.toolDefinitions =
      (desk.fresh env).stableSections env call.systemPrompt call.toolDefinitions
  kept : ∀ snapshot ∈ (desk.step env event).returned,
    snapshot.1.map (desk.step env event).manager.read = snapshot.2

/-- What the call finds in the cache was made under the budget of now, and what it trims is
neither cached memory or skills nor in a snapshot that was returned. -/
structure Calm (call : ContextCall) : Prop where
  system : ∀ ref, desk.manager.sectionCache .system =
      some (env.fingerprint call.systemPrompt, ref) →
    desk.systemText = call.systemPrompt ∧
      (desk.manager.read ref).budget = desk.manager.budget.systemPrompt
  tools : ∀ ref, desk.manager.sectionCache .tools =
      some (env.fingerprint call.toolDefinitions, ref) →
    desk.toolsText = call.toolDefinitions ∧
      (desk.manager.read ref).budget = desk.manager.budget.toolDefinitions
  skills : ∀ ref, desk.manager.sectionCache .skills =
      some (env.fingerprint (skillsSection env desk.manager.budget.skillPrompts).content, ref) →
    (desk.manager.read ref).budget = desk.manager.budget.skillPrompts
  reflection : desk.manager.sectionDirty .reflection = false → ∀ fingerprint ref,
    desk.manager.sectionCache .reflection = some (fingerprint, ref) →
      (desk.manager.read ref).budget = desk.manager.budget.reflectionContext
  reflectionGiven : (desk.manager.setReflectionContext env desk.reflectionGiven).reflectionContext =
      desk.manager.reflectionContext
  memory : desk.manager.sectionDirty .memory = false → ∀ fingerprint ref,
    desk.manager.sectionCache .memory = some (fingerprint, ref) →
      (desk.manager.read ref).budget = desk.manager.budget.memoryContext
  trimmed : ∀ ref ∈ desk.manager.trimmed env call, (∀ snapshot ∈ desk.returned, ref ∉ snapshot.1) ∧
      ((desk.manager.finished env call).manager.read ref).name ∈ ["knowledge", "history"]

def Meets : ContextEvent → Prop
  | .prepared call => desk.Calm env call
  | _ => True

end ContextDesk

/-! ## What the cache holds -/

namespace ContextManager

variable {env : ContextEnv} {manager before after last : ContextManager}

/-- A section under each key is the one for its budget. -/
structure Faithful (env : ContextEnv) (systemText toolsText : String)
    (manager : ContextManager) : Prop where
  system : Cached manager .system fun fingerprint found =>
    fingerprint = env.fingerprint systemText ∧
      found = truncatedSection env "system" systemText found.budget "system_prompt"
  tools : Cached manager .tools fun fingerprint found =>
    fingerprint = env.fingerprint toolsText ∧
      found = truncatedSection env "tools" toolsText found.budget "tool_definitions"
  skills : Cached manager .skills fun fingerprint found =>
    fingerprint = env.fingerprint found.content ∧ found = skillsSection env found.budget
  reflection : manager.sectionDirty .reflection = false → Cached manager .reflection fun _ found =>
      found = reflectionSection env manager.reflectionContext found.budget
  memory : Cached manager .memory fun _ found => found = memorySection env found.budget
  history : Cached manager .history fun _ _ => True

variable {systemText toolsText : String}

theorem Faithful.makes
    (h : Faithful env systemText toolsText before) (hmakes : Makes [.history] before after)
    (hhistory : Cached after .history fun _ _ => True) :
    Faithful env systemText toolsText after := by
  refine ⟨h.system.makes hmakes (by decide), h.tools.makes hmakes (by decide),
    h.skills.makes hmakes (by decide), fun hclean => ?_, h.memory.makes hmakes (by decide),
    hhistory⟩
  have hthought : after.reflectionContext = before.reflectionContext := by rw [hmakes.rest]
  rw [hmakes.dirty _ (by decide)] at hclean
  rw [hthought]
  exact (h.reflection hclean).makes hmakes (by decide)

variable {key : CacheKey}

theorem Cached.same {P : String → ContextSection → Prop}
    (h : Cached before key P) (hheap : after.heap = before.heap)
    (hcache : after.sectionCache = before.sectionCache) : Cached after key P := by
  intro fingerprint ref hfound
  rw [hcache] at hfound
  rw [read, hheap]
  exact h fingerprint ref hfound

theorem Faithful.same
    (h : Faithful env systemText toolsText before) (hheap : after.heap = before.heap)
    (hcache : after.sectionCache = before.sectionCache)
    (hthought : after.sectionDirty .reflection = false →
      before.sectionDirty .reflection = false ∧
        after.reflectionContext = before.reflectionContext) :
    Faithful env systemText toolsText after := by
  refine ⟨h.system.same hheap hcache, h.tools.same hheap hcache, h.skills.same hheap hcache,
    fun hclean => ?_, h.memory.same hheap hcache, h.history.same hheap hcache⟩
  obtain ⟨hbefore, hsame⟩ := hthought hclean
  rw [hsame]
  exact (h.reflection hbefore).same hheap hcache

theorem Cached.finishes {P : String → ContextSection → Prop} {refs : List Nat}
    (h : Cached before key P) (hends : Finishes refs before after)
    (hrefs : ∀ ref ∈ refs, (after.read ref).name ∈ ["knowledge", "history"])
    (hname : ∀ fingerprint found, P fingerprint found →
      found.name ∉ ["knowledge", "history"]) : Cached after key P := by
  intro fingerprint ref hcache
  rw [hends.cache] at hcache
  obtain ⟨hvalid, hcached⟩ := h fingerprint ref hcache
  have hkept : ref ∉ refs := by
    intro hmem
    have hedited := hrefs ref hmem
    rw [hends.name ref hvalid] at hedited
    exact hname fingerprint _ hcached hedited
  rw [hends.read ref hvalid hkept]
  exact ⟨Nat.lt_of_lt_of_le hvalid hends.length, hcached⟩

theorem Faithful.finishes {refs : List Nat}
    (h : Faithful env systemText toolsText before) (hends : Finishes refs before after)
    (hrefs : ∀ ref ∈ refs, (after.read ref).name ∈ ["knowledge", "history"]) :
    Faithful env systemText toolsText after := by
  constructor
  case system =>
    refine h.system.finishes hends hrefs fun fingerprint found hfound => ?_
    rw [hfound.2, name_truncatedSection]
    decide
  case tools =>
    refine h.tools.finishes hends hrefs fun fingerprint found hfound => ?_
    rw [hfound.2, name_truncatedSection]
    decide
  case skills =>
    refine h.skills.finishes hends hrefs fun fingerprint found hfound => ?_
    rw [hfound.2, name_skillsSection]
    decide
  case reflection =>
    intro hclean
    rw [hends.dirty _ (by decide)] at hclean
    rw [hends.reflection]
    refine (h.reflection hclean).finishes hends hrefs fun fingerprint found hfound => ?_
    rw [hfound, name_reflectionSection]
    decide
  case memory =>
    refine h.memory.finishes hends hrefs fun fingerprint found hfound => ?_
    rw [hfound, name_memorySection]
    decide
  case history =>
    intro fingerprint ref hcache
    rw [hends.cache] at hcache
    exact ⟨Nat.lt_of_lt_of_le (h.history fingerprint ref hcache).1 hends.length, trivial⟩

theorem budget_skillsSection (budget : Int) : (skillsSection env budget).budget = budget := by
  rw [skillsSection]
  split <;> rfl

theorem budget_memorySection (budget : Int) : (memorySection env budget).budget = budget := by
  rw [memorySection]
  split <;> rfl

theorem textUnder_of_hit {text : String} {ref : Nat}
    (h : manager.sectionCache key = some (env.fingerprint text, ref)) (old : String) :
    manager.textUnder env key old text = old := by
  rw [textUnder, h]
  exact if_pos rfl

theorem textUnder_of_miss {text : String}
    (h : ∀ ref, manager.sectionCache key ≠ some (env.fingerprint text, ref)) (old : String) :
    manager.textUnder env key old text = text := by
  rw [textUnder]
  split
  · rfl
  · rename_i fingerprint ref hcache
    refine if_neg fun hsame => h ref ?_
    rw [hcache, hsame]

/-! ## The sections of a call -/

section Chain

variable (env manager) (systemPrompt toolDefinitions : String)

/-- The stable sections leave a faithful cache. -/
theorem faithful_afterKnowledge {systemText toolsText : String}
    (h : Faithful env systemText toolsText manager) :
    Faithful env (manager.textUnder env .system systemText systemPrompt)
      (manager.textUnder env .tools toolsText toolDefinitions)
      (manager.afterKnowledge env systemPrompt toolDefinitions) := by
  have hknow := makes_knowledge env manager systemPrompt toolDefinitions
  have hmemory := makes_memory env manager systemPrompt toolDefinitions
  have hthought := makes_reflection env manager systemPrompt toolDefinitions
  have hskills := makes_skills env manager systemPrompt toolDefinitions
  have htools := makes_tools env manager systemPrompt toolDefinitions
  constructor
  case system =>
    refine Cached.makes ?_ (htools.trans (hskills.trans (hthought.trans
      (hmemory.trans hknow)))) (by decide)
    refine cached_keyed _ _ _ (fun ref hhit => ?_) fun hmiss => ?_
    · rw [textUnder_of_hit hhit]
      exact h.system
    · rw [textUnder_of_miss hmiss]
      exact ⟨rfl, rfl⟩
  case tools =>
    refine Cached.makes ?_ (hskills.trans (hthought.trans (hmemory.trans hknow)))
      (by decide)
    have hbefore := makes_system env manager systemPrompt
    have hcache := hbefore.cache .tools (by decide)
    refine cached_keyed _ _ _ (fun ref hhit => ?_) fun hmiss => ?_
    · rw [hcache] at hhit
      rw [textUnder_of_hit hhit]
      exact h.tools.makes hbefore (by decide)
    · rw [hcache] at hmiss
      rw [textUnder_of_miss hmiss]
      exact ⟨rfl, rfl⟩
  case skills =>
    refine Cached.makes ?_ (hthought.trans (hmemory.trans hknow)) (by decide)
    have hbefore := makes_toSkills env manager systemPrompt toolDefinitions
    refine cached_keyed _ _ _ (fun _ _ => h.skills.makes hbefore (by decide)) fun _ => ?_
    exact ⟨rfl, by rw [budget_skillsSection]⟩
  case reflection =>
    intro _
    refine Cached.makes ?_ (hmemory.trans hknow) (by decide)
    have hbefore := makes_toReflection env manager systemPrompt toolDefinitions
    have hsame : (manager.afterKnowledge env systemPrompt toolDefinitions).reflectionContext =
        (manager.afterSkills env systemPrompt toolDefinitions).reflectionContext := by
      rw [(hthought.trans (hmemory.trans hknow)).rest]
    have hfirst : (manager.afterSkills env systemPrompt toolDefinitions).reflectionContext =
        manager.reflectionContext := by
      rw [hbefore.rest]
    refine cached_rebuilt _ _ (fun hclean => ?_) (by rw [hsame]; rfl)
    rw [hbefore.dirty _ (by decide)] at hclean
    rw [hsame, hfirst]
    exact (h.reflection hclean).makes hbefore (by decide)
  case memory =>
    refine Cached.makes ?_ hknow (by decide)
    have hbefore := makes_toMemory env manager systemPrompt toolDefinitions
    refine cached_rebuilt _ _ (fun _ => h.memory.makes hbefore (by decide)) ?_
    rw [budget_memorySection]
  case history =>
    exact h.history.makes ((makes_toKnowledge env manager systemPrompt toolDefinitions).trans
      hknow) (by decide)

/-- The sections of a call beside its history, made anew. -/
def plainSections : List ContextSection :=
  [truncatedSection env "system" systemPrompt manager.budget.systemPrompt "system_prompt",
    truncatedSection env "tools" toolDefinitions manager.budget.toolDefinitions
      "tool_definitions",
    skillsSection env manager.budget.skillPrompts,
    reflectionSection env manager.reflectionContext manager.budget.reflectionContext,
    memorySection env manager.budget.memoryContext,
    knowledgeSection env manager.knowledgeContent manager.budget.knowledgeContext]

/-- What a call finds in the cache are the sections it would make. -/
structure FindsPlain : Prop where
  system : ∀ ref, manager.sectionCache .system = some (env.fingerprint systemPrompt, ref) →
    ref < manager.heap.length ∧ manager.read ref =
      truncatedSection env "system" systemPrompt manager.budget.systemPrompt "system_prompt"
  tools : ∀ ref, manager.sectionCache .tools = some (env.fingerprint toolDefinitions, ref) →
    ref < manager.heap.length ∧ manager.read ref =
      truncatedSection env "tools" toolDefinitions manager.budget.toolDefinitions
        "tool_definitions"
  skills : ∀ ref, manager.sectionCache .skills =
      some (env.fingerprint (skillsSection env manager.budget.skillPrompts).content, ref) →
    ref < manager.heap.length ∧ manager.read ref = skillsSection env manager.budget.skillPrompts
  reflection : manager.sectionDirty .reflection = false → ∀ fingerprint ref,
    manager.sectionCache .reflection = some (fingerprint, ref) →
      ref < manager.heap.length ∧ manager.read ref =
        reflectionSection env manager.reflectionContext manager.budget.reflectionContext
  memory : manager.sectionDirty .memory = false → ∀ fingerprint ref,
    manager.sectionCache .memory = some (fingerprint, ref) →
      ref < manager.heap.length ∧ manager.read ref = memorySection env manager.budget.memoryContext

variable {env manager systemPrompt toolDefinitions}

/-- A manager that finds what is plain shows the plain sections. -/
theorem shows_assembleStable (h : FindsPlain env manager systemPrompt toolDefinitions) :
    Shows (manager.assembleStable env systemPrompt toolDefinitions)
      (plainSections env manager systemPrompt toolDefinitions) := by
  have hsystem := makes_system env manager systemPrompt
  have htools := makes_toSkills env manager systemPrompt toolDefinitions
  have hskills := makes_toReflection env manager systemPrompt toolDefinitions
  have hthought := makes_toMemory env manager systemPrompt toolDefinitions
  have hmemory := makes_toKnowledge env manager systemPrompt toolDefinitions
  have hstart : Shows ([], manager) [] := ⟨fun _ hmem => absurd hmem not_mem_nil, rfl⟩
  have hafterSystem := hstart.next hsystem (read_keyed _ _ _ h.system)
  have hafterTools := hafterSystem.next (makes_tools env manager systemPrompt toolDefinitions)
    (read_keyed _ _ _ fun ref hhit => by
      rw [hsystem.cache .tools (by decide)] at hhit
      rw [hsystem.budget]
      exact hsystem.found (h.tools ref hhit))
  have hafterSkills := hafterTools.next (makes_skills env manager systemPrompt toolDefinitions)
    (read_keyed _ _ _ fun ref hhit => by
      rw [htools.cache .skills (by decide), htools.budget] at hhit
      rw [htools.budget]
      exact htools.found (h.skills ref hhit))
  have hafterReflection := hafterSkills.next
    (makes_reflection env manager systemPrompt toolDefinitions)
    (read_rebuilt _ _ fun hclean fingerprint ref hcache => by
      have hcontent : (manager.afterSkills env systemPrompt toolDefinitions).reflectionContext =
          manager.reflectionContext := by
        rw [hskills.rest]
      rw [hskills.dirty .reflection (by decide)] at hclean
      rw [hskills.cache .reflection (by decide)] at hcache
      rw [hskills.budget, hcontent]
      exact hskills.found (h.reflection hclean fingerprint ref hcache))
  have hafterMemory := hafterReflection.next
    (makes_memory env manager systemPrompt toolDefinitions)
    (read_rebuilt _ _ fun hclean fingerprint ref hcache => by
      rw [hthought.dirty .memory (by decide)] at hclean
      rw [hthought.cache .memory (by decide)] at hcache
      rw [hthought.budget]
      exact hthought.found (h.memory hclean fingerprint ref hcache))
  have hall := hafterMemory.next (makes_knowledge env manager systemPrompt toolDefinitions)
    ⟨lt_alloc _, read_alloc _⟩
  have hreflected : (manager.afterSkills env systemPrompt toolDefinitions).reflectionContext =
      manager.reflectionContext := by
    rw [hskills.rest]
  have hknown : (manager.afterMemory env systemPrompt toolDefinitions).knowledgeContent =
      manager.knowledgeContent := by
    rw [hmemory.rest]
  rw [hsystem.budget, htools.budget, hskills.budget, hthought.budget, hmemory.budget,
    hreflected, hknown] at hall
  exact hall

end Chain

theorem cached_history_assemble {systemPrompt toolDefinitions : String}
    (h : Cached manager .history fun _ _ => True) :
    Cached (manager.assemble env systemPrompt toolDefinitions).2 .history fun _ _ => True := by
  have hmakes := (makes_toKnowledge env manager systemPrompt toolDefinitions).trans
    (makes_knowledge env manager systemPrompt toolDefinitions)
  exact cached_rebuilt _ _ (fun _ => h.makes hmakes (by decide)) trivial

theorem valid_assembled {call : ContextCall} (hhistory : Cached manager .history fun _ _ => True)
    (h : FindsPlain env manager call.systemPrompt call.toolDefinitions) :
    (manager.assembled env call).Valid := by
  have hmakes := (makes_toKnowledge env manager call.systemPrompt call.toolDefinitions).trans
    (makes_knowledge env manager call.systemPrompt call.toolDefinitions)
  have hvalid : (assembleHistory env
        (manager.afterKnowledge env call.systemPrompt call.toolDefinitions)).1 <
      (manager.assemble env call.systemPrompt call.toolDefinitions).2.heap.length :=
    lt_rebuilt _ _ (hhistory.makes hmakes (by decide))
  have hall := (shows_assembleStable h).next (makes_assemble env manager call.systemPrompt
    call.toolDefinitions) ⟨hvalid, rfl⟩
  exact valid_assembleExtra call.extraContext hall.valid

end ContextManager

/-! ## One event -/

namespace ContextDesk

variable {env : ContextEnv} {desk : ContextDesk}

/-- The cache is faithful, and the snapshots that were returned are as they were. -/
structure Kept (env : ContextEnv) (desk : ContextDesk) : Prop where
  faithful : Faithful env desk.systemText desk.toolsText desk.manager
  returned : ∀ snapshot ∈ desk.returned, Shows (snapshot.1, desk.manager) snapshot.2

variable {call : ContextCall}

theorem Kept.findsPlain (h : desk.Kept env) (hcalm : desk.Calm env call) :
    FindsPlain env desk.manager call.systemPrompt call.toolDefinitions := by
  constructor
  case system =>
    intro ref hcache
    obtain ⟨hvalid, -, hfound⟩ := h.faithful.system _ ref hcache
    obtain ⟨htext, hbudget⟩ := hcalm.system ref hcache
    rw [htext, hbudget] at hfound
    exact ⟨hvalid, hfound⟩
  case tools =>
    intro ref hcache
    obtain ⟨hvalid, -, hfound⟩ := h.faithful.tools _ ref hcache
    obtain ⟨htext, hbudget⟩ := hcalm.tools ref hcache
    rw [htext, hbudget] at hfound
    exact ⟨hvalid, hfound⟩
  case skills =>
    intro ref hcache
    obtain ⟨hvalid, -, hfound⟩ := h.faithful.skills _ ref hcache
    rw [hcalm.skills ref hcache] at hfound
    exact ⟨hvalid, hfound⟩
  case reflection =>
    intro hclean fingerprint ref hcache
    obtain ⟨hvalid, hfound⟩ := h.faithful.reflection hclean fingerprint ref hcache
    rw [hcalm.reflection hclean fingerprint ref hcache] at hfound
    exact ⟨hvalid, hfound⟩
  case memory =>
    intro hclean fingerprint ref hcache
    obtain ⟨hvalid, hfound⟩ := h.faithful.memory fingerprint ref hcache
    rw [hcalm.memory hclean fingerprint ref hcache] at hfound
    exact ⟨hvalid, hfound⟩

theorem findsPlain_fresh (systemPrompt toolDefinitions : String) :
    FindsPlain env (desk.fresh env) systemPrompt toolDefinitions where
  system := fun _ hcache => by cases hcache
  tools := fun _ hcache => by cases hcache
  skills := fun _ hcache => by cases hcache
  reflection := fun _ _ _ hcache => by cases hcache
  memory := fun _ _ _ hcache => by cases hcache

theorem Kept.fresh (h : desk.Kept env) (hcalm : desk.Calm env call) :
    desk.manager.stableSections env call.systemPrompt call.toolDefinitions =
      (desk.fresh env).stableSections env call.systemPrompt call.toolDefinitions := by
  have hhere := (shows_assembleStable (h.findsPlain hcalm)).reads
  have hthere : (desk.fresh env).stableSections env call.systemPrompt call.toolDefinitions =
      plainSections env (desk.fresh env) call.systemPrompt call.toolDefinitions :=
    (shows_assembleStable (findsPlain_fresh call.systemPrompt call.toolDefinitions)).reads
  have hthought : (desk.fresh env).reflectionContext = desk.manager.reflectionContext :=
    hcalm.reflectionGiven
  rw [hthere, plainSections, hthought]
  exact hhere

theorem shows_of_finishes {before after : ContextManager} {refs sections : List Nat}
    {shown : List ContextSection} (h : Shows (sections, before) shown)
    (hends : Finishes refs before after) (hkept : ∀ ref ∈ refs, ref ∉ sections) :
    Shows (sections, after) shown where
  valid ref hmem := Nat.lt_of_lt_of_le (h.valid ref hmem) hends.length
  reads := by
    rw [← h.reads]
    exact map_congr_left fun ref hmem =>
      hends.read ref (h.valid ref hmem) fun hedited => hkept ref hedited hmem

/-- A calm call keeps the cache faithful. -/
theorem Kept.prepared (h : desk.Kept env) (hcalm : desk.Calm env call) :
    (desk.step env (.prepared call)).Kept env := by
  have hplain := h.findsPlain hcalm
  obtain ⟨hends, hvalid⟩ := finishes_finished (valid_assembled h.faithful.history hplain)
  have hhistory : Cached (desk.manager.assembled env call).manager .history fun _ _ => True :=
    (cached_history_assemble h.faithful.history).makes
      (makes_assembleExtra call.extraContext _) (by decide)
  have hassembled := (faithful_afterKnowledge env desk.manager call.systemPrompt
    call.toolDefinitions h.faithful).makes (makes_assembled env desk.manager call) hhistory
  have hmakes := ((makes_toKnowledge env desk.manager call.systemPrompt
    call.toolDefinitions).trans (makes_knowledge env desk.manager call.systemPrompt
      call.toolDefinitions)).trans (makes_assembled env desk.manager call)
  refine ⟨hassembled.finishes hends fun ref hmem => (hcalm.trimmed ref hmem).2, ?_⟩
  intro snapshot hshot
  rcases mem_append.mp hshot with hold | hnew
  · exact shows_of_finishes ((h.returned snapshot hold).later hmakes) hends
      fun ref hmem => (hcalm.trimmed ref hmem).1 snapshot hold
  · rw [mem_singleton.mp hnew]
    exact ⟨hvalid, rfl⟩

theorem Kept.reported (h : desk.Kept env) : (desk.step env .reported).Kept env := by
  have hmakes := (makes_toKnowledge env desk.manager "" "").trans
    (makes_knowledge env desk.manager "" "")
  have hhistory := makes_assemble env desk.manager "" ""
  refine ⟨(faithful_afterKnowledge env desk.manager "" "" h.faithful).makes hhistory
    (cached_history_assemble h.faithful.history), fun snapshot hshot => ?_⟩
  exact (h.returned snapshot hshot).later (hmakes.trans hhistory)

theorem Kept.same (h : desk.Kept env) {after : ContextDesk}
    (hheap : after.manager.heap = desk.manager.heap)
    (hcache : after.manager.sectionCache = desk.manager.sectionCache)
    (htexts : after.systemText = desk.systemText ∧ after.toolsText = desk.toolsText)
    (hback : after.returned = desk.returned)
    (hthought : after.manager.sectionDirty .reflection = false →
      desk.manager.sectionDirty .reflection = false ∧
        after.manager.reflectionContext = desk.manager.reflectionContext) : after.Kept env := by
  constructor
  · rw [htexts.1, htexts.2]
    exact h.faithful.same hheap hcache hthought
  · rw [hback]
    intro snapshot hshot
    obtain ⟨hvalid, hreads⟩ := h.returned snapshot hshot
    have hread : after.manager.read = desk.manager.read := by
      funext ref
      exact congrArg (fun heap => Heap.read heap ref) hheap
    refine ⟨fun ref hmem => ?_, ?_⟩
    · dsimp only
      rw [hheap]
      exact hvalid ref hmem
    · dsimp only
      rw [hread]
      exact hreads

theorem adjustBudget_eq (budgets : List (String × Int)) (manager : ContextManager) :
    manager.adjustBudget budgets =
      { manager with budget := (manager.adjustBudget budgets).budget } := by
  induction budgets generalizing manager with
  | nil => rfl
  | cons entry rest ih =>
    obtain ⟨key, value⟩ := entry
    rw [adjustBudget]
    split
    · rfl
    · rename_i budget hset
      rw [ih]

/-- A step that meets the condition keeps the cache faithful. -/
theorem Kept.step (h : desk.Kept env) {event : ContextEvent} (hmeets : desk.Meets env event) :
    (desk.step env event).Kept env := by
  cases event with
  | prepared call => exact h.prepared hmeets
  | reported => exact h.reported
  | adjusted budgets =>
    have hadjusted := adjustBudget_eq budgets desk.manager
    refine h.same ?_ ?_ ⟨rfl, rfl⟩ rfl fun hclean => ?_
    · rw [ContextDesk.step, hadjusted]
    · rw [ContextDesk.step, hadjusted]
    · rw [ContextDesk.step, hadjusted] at hclean ⊢
      exact ⟨hclean, rfl⟩
  | reflectionSet content =>
    exact h.same rfl rfl ⟨rfl, rfl⟩ rfl fun hclean => by cases hclean
  | _ => exact h.same rfl rfl ⟨rfl, rfl⟩ rfl fun hclean => ⟨hclean, rfl⟩

/-! ## Runs -/

theorem kept_start (env : ContextEnv) (budget : ContextBudget) : (start budget).Kept env where
  faithful :=
    { system := fun _ _ hcache => by cases hcache
      tools := fun _ _ hcache => by cases hcache
      skills := fun _ _ hcache => by cases hcache
      reflection := fun _ _ _ hcache => by cases hcache
      memory := fun _ _ hcache => by cases hcache
      history := fun _ _ hcache => by cases hcache }
  returned := fun _ hshot => by cases hshot

/-- Pressure leaves no trace in a run whose calls find in the cache what was made under the
budget of now and trim nothing that is shared. -/
theorem untraced_of_meets (env : ContextEnv) (budget : ContextBudget)
    (events : List ContextEvent) (hmeets : Along (step env) (Meets env) (start budget) events) :
    Along (step env) (Untraced env) (start budget) events := by
  refine along_of_invariant (fun desk event h hmeets => h.step hmeets) ?_
    (kept_start env budget) hmeets
  intro desk event h hmeets
  refine ⟨?_, fun snapshot hshot => ((h.step hmeets).returned snapshot hshot).reads⟩
  rintro call rfl
  exact h.fresh hmeets

/-- Four characters are a token, and the memory answers with ten tokens. -/
def tenTokens : ContextEnv where
  countTokens text := max 1 (text.toList.length / 4 : Nat)
  fingerprint := id
  reaches
    | .green, total, effective => decide (70 * effective ≤ 100 * total)
    | .yellow, total, effective => decide (85 * effective ≤ 100 * total)
    | .orange, total, effective => decide (95 * effective ≤ 100 * total)
  target effective := effective * 85 / 100
  maxCompressionFailures := 3
  skillLoader := none
  memoryRetriever := some fun _ => some "mmmmmmmmmmmmmmmmmmmmmmmmmmmmmmmmmmmmmmmm"

def twentyTokens : ContextBudget := ⟨20, 0, 1, 1, 1, 10, 1, 1⟩

def calmCall : ContextCall := ⟨"routing", "", "", [], none⟩

/-- Two calls and an entry between them. -/
theorem untraced_calm : Along (step tenTokens) (Untraced tenTokens) (start twentyTokens)
      [.prepared calmCall, .historyAdded ⟨"user", "hi"⟩, .prepared calmCall] := by
  apply untraced_of_meets
  refine ⟨⟨?_, ?_, ?_, ?_, ?_, ?_, ?_⟩, trivial, ⟨?_, ?_, ?_, ?_, ?_, ?_, ?_⟩, trivial⟩
  · exact fun _ hcache => by cases hcache
  · exact fun _ hcache => by cases hcache
  · exact fun _ hcache => by cases hcache
  · exact fun _ _ _ hcache => by cases hcache
  · rfl
  · exact fun _ _ _ hcache => by cases hcache
  · decide
  · intro ref hcache
    cases hcache
    decide
  · intro ref hcache
    cases hcache
    decide
  · intro ref hcache
    cases hcache
    decide
  · intro _ fingerprint ref hcache
    cases hcache
    decide
  · rfl
  · intro _ fingerprint ref hcache
    cases hcache
    decide
  · decide

/-- A call that trims the memory is followed by one that has room for it. -/
theorem not_untraced_trimmed :
    ¬ ∀ (env : ContextEnv) (budget : ContextBudget) (events : List ContextEvent),
      Along (step env) (Untraced env) (start budget) events := by
  intro h
  have hfresh := (h tenTokens twentyTokens
    [.prepared { calmCall with extraContext := [("note", "xxxxxxxxxxxxxxxxxxxxxxxxxxxxxxxx")] },
      .prepared calmCall]).2.1.fresh calmCall rfl
  exact absurd hfresh (by decide)

end ContextDesk

end HiAgent.Context
