/-
  Context/Manager/Assembly.lean --- what the assembly of a call does to the heap.

  Assembling makes sections behind the others, or finds one in the cache; it touches the cache
  under one key at a time.
-/
import HiAgent.Context.Manager

namespace HiAgent.Context

open Foundation List

namespace ContextManager

variable {env : ContextEnv} {manager before after last : ContextManager}

/-! ## Sections are made -/

/-- Sections are made, and the cache changes under these keys at most. -/
structure Makes (keys : List CacheKey) (before after : ContextManager) : Prop where
  heap : before.heap <+: after.heap
  cache : ∀ other, other ∉ keys → after.sectionCache other = before.sectionCache other
  dirty : ∀ other, other ∉ keys → after.sectionDirty other = before.sectionDirty other
  rest : after = { before with
      heap := after.heap
      sectionCache := after.sectionCache
      sectionDirty := after.sectionDirty }

variable {keys : List CacheKey} {ref : Nat}

theorem Makes.read_of_lt (h : Makes keys before after)
    (hvalid : ref < before.heap.length) : after.read ref = before.read ref :=
  Heap.read_of_prefix h.heap hvalid

theorem Makes.budget (h : Makes keys before after) : after.budget = before.budget := by
  rw [h.rest]

theorem Makes.found (h : Makes keys before after)
    {x : ContextSection} (hfound : ref < before.heap.length ∧ before.read ref = x) :
    ref < after.heap.length ∧ after.read ref = x :=
  ⟨Nat.lt_of_lt_of_le hfound.1 h.heap.length_le, (h.read_of_lt hfound.1).trans hfound.2⟩

theorem makes_refl (keys : List CacheKey) (manager : ContextManager) : Makes keys manager manager :=
  ⟨prefix_rfl, fun _ _ => rfl, fun _ _ => rfl, rfl⟩

theorem Makes.trans {keys others : List CacheKey} (h : Makes keys before after)
    (h' : Makes others after last) : Makes (keys ++ others) before last where
  heap := h.heap.trans h'.heap
  cache := fun other hother => by
    rw [mem_append, not_or] at hother
    exact (h'.cache other hother.2).trans (h.cache other hother.1)
  dirty := fun other hother => by
    rw [mem_append, not_or] at hother
    exact (h'.dirty other hother.2).trans (h.dirty other hother.1)
  rest := by rw [h'.rest, h.rest]

theorem makes_alloc (made : ContextSection) : Makes [] manager (manager.alloc made).2 :=
  ⟨Heap.prefix_alloc manager.heap made, fun _ _ => rfl, fun _ _ => rfl, rfl⟩

@[simp] theorem read_alloc (made : ContextSection) :
    (manager.alloc made).2.read (manager.alloc made).1 = made :=
  Heap.read_alloc manager.heap made

theorem lt_alloc (made : ContextSection) :
    (manager.alloc made).1 < (manager.alloc made).2.heap.length := by
  change manager.heap.length < (manager.heap ++ [made]).length
  rw [length_append]
  exact Nat.lt_succ_self manager.heap.length

/-- What is cached under a key satisfies `P`, with its fingerprint. -/
def Cached (manager : ContextManager) (key : CacheKey) (P : String → ContextSection → Prop) :
    Prop := ∀ fingerprint ref, manager.sectionCache key = some (fingerprint, ref) →
  ref < manager.heap.length ∧ P fingerprint (manager.read ref)

theorem Cached.makes {key : CacheKey} {P : String → ContextSection → Prop} (h : Cached before key P)
    (hmakes : Makes keys before after) (hne : key ∉ keys) : Cached after key P := by
  intro fingerprint ref hcache
  rw [hmakes.cache key hne] at hcache
  obtain ⟨hvalid, hcached⟩ := h fingerprint ref hcache
  rw [hmakes.read_of_lt hvalid]
  exact ⟨Nat.lt_of_lt_of_le hvalid hmakes.heap.length_le, hcached⟩

section Store

variable (key : CacheKey) (text : String) (made : ContextSection)

theorem makes_store : Makes [key] manager (manager.store env key text made).2 where
  heap := Heap.prefix_alloc manager.heap made
  cache := fun _ hne => if_neg fun heq => hne (mem_singleton.mpr heq)
  dirty := fun _ _ => rfl
  rest := rfl

@[simp] theorem read_store :
    (manager.store env key text made).2.read (manager.store env key text made).1 = made :=
  Heap.read_alloc manager.heap made

theorem lt_store : (manager.store env key text made).1 <
    (manager.store env key text made).2.heap.length :=
  lt_alloc made

theorem cached_store {P : String → ContextSection → Prop} (h : P (env.fingerprint text) made) :
    Cached (manager.store env key text made).2 key P := by
  intro fingerprint ref hcache
  have hnew : some (env.fingerprint text, manager.heap.length) = some (fingerprint, ref) :=
    (if_pos rfl).symm.trans hcache
  obtain ⟨rfl, rfl⟩ := Prod.mk.inj (Option.some.inj hnew)
  refine ⟨lt_store key text made, ?_⟩
  have hread : (manager.store env key text made).2.read manager.heap.length = made :=
    read_store key text made
  rw [hread]
  exact h

/-! ## Stable sections -/

/-- A keyed section is the cached one of the same text, or is made. -/
theorem keyed_cases : (∃ ref, manager.sectionCache key = some (env.fingerprint text, ref) ∧
      manager.keyed env key text made = (ref, manager)) ∨
    ((∀ ref, manager.sectionCache key ≠ some (env.fingerprint text, ref)) ∧
      manager.keyed env key text made = manager.store env key text made) := by
  rw [keyed]
  split
  · rename_i fingerprint ref hcache
    split
    · rename_i hsame
      exact .inl ⟨ref, by rw [hcache, hsame], rfl⟩
    · rename_i hother
      refine .inr ⟨fun other hsome => hother ?_, rfl⟩
      rw [hcache] at hsome
      exact congrArg Prod.fst (Option.some.inj hsome)
  · rename_i hnone
    refine .inr ⟨fun other hsome => ?_, rfl⟩
    rw [hnone] at hsome
    cases hsome

/-- A keyed section goes behind the end of the heap and under its own key. -/
theorem makes_keyed : Makes [key] manager (manager.keyed env key text made).2 := by
  rcases keyed_cases key text made with ⟨ref, -, hkeyed⟩ | ⟨-, hkeyed⟩
  · rw [hkeyed]
    exact makes_refl _ manager
  · rw [hkeyed]
    exact makes_store key text made

theorem cached_keyed {P : String → ContextSection → Prop}
    (hhit : ∀ ref, manager.sectionCache key = some (env.fingerprint text, ref) →
      Cached manager key P)
    (hmiss : (∀ ref, manager.sectionCache key ≠ some (env.fingerprint text, ref)) →
      P (env.fingerprint text) made) : Cached (manager.keyed env key text made).2 key P := by
  rcases keyed_cases key text made with ⟨ref, hcache, hkeyed⟩ | ⟨hnone, hkeyed⟩
  · rw [hkeyed]
    exact hhit ref hcache
  · rw [hkeyed]
    exact cached_store key text made (hmiss hnone)

theorem read_keyed (hhit : ∀ ref, manager.sectionCache key = some (env.fingerprint text, ref) →
        ref < manager.heap.length ∧ manager.read ref = made) :
    (manager.keyed env key text made).1 < (manager.keyed env key text made).2.heap.length ∧
      (manager.keyed env key text made).2.read (manager.keyed env key text made).1 = made := by
  rcases keyed_cases key text made with ⟨ref, hcache, hkeyed⟩ | ⟨-, hkeyed⟩
  · rw [hkeyed]
    exact hhit ref hcache
  · rw [hkeyed]
    exact ⟨lt_store key text made, read_store key text made⟩

end Store

/-! ## Dynamic sections -/

section Dynamic

variable (key : CacheKey) (made : ContextSection)

/-- A clean section comes out of the cache, any other is made. -/
theorem rebuilt_cases : (∃ fingerprint ref, manager.sectionDirty key = false ∧
      manager.sectionCache key = some (fingerprint, ref) ∧
        manager.rebuilt env key made = (ref, manager)) ∨
    manager.rebuilt env key made = manager.rebuild env key made := by
  rw [rebuilt]
  split
  · exact .inr rfl
  · rename_i hclean
    split
    · rename_i fingerprint ref hcache
      exact .inl ⟨fingerprint, ref, Bool.not_eq_true _ ▸ hclean, hcache, rfl⟩
    · exact .inr rfl

theorem makes_rebuild : Makes [key] manager (manager.rebuild env key made).2 where
  heap := Heap.prefix_alloc manager.heap made
  cache := fun _ hne => if_neg fun heq => hne (mem_singleton.mpr heq)
  dirty := fun _ hne => if_neg fun heq => hne (mem_singleton.mpr heq)
  rest := rfl

theorem makes_rebuilt : Makes [key] manager (manager.rebuilt env key made).2 := by
  rcases rebuilt_cases key made with ⟨fingerprint, ref, -, -, hrebuilt⟩ | hrebuilt
  · rw [hrebuilt]
    exact makes_refl _ manager
  · rw [hrebuilt]
    exact makes_rebuild key made

theorem cached_rebuilt {P : String → ContextSection → Prop}
    (hhit : manager.sectionDirty key = false → Cached manager key P)
    (hmade : P (env.fingerprint made.content) made) :
    Cached (manager.rebuilt env key made).2 key P := by
  rcases rebuilt_cases key made with ⟨fingerprint, ref, hclean, -, hrebuilt⟩ | hrebuilt
  · rw [hrebuilt]
    exact hhit hclean
  · rw [hrebuilt]
    exact cached_store key made.content made hmade

theorem lt_rebuilt (h : Cached manager key fun _ _ => True) :
    (manager.rebuilt env key made).1 < (manager.rebuilt env key made).2.heap.length := by
  rcases rebuilt_cases key made with ⟨fingerprint, ref, -, hcache, hrebuilt⟩ | hrebuilt
  · rw [hrebuilt]
    exact (h fingerprint ref hcache).1
  · rw [hrebuilt]
    exact lt_alloc made

theorem read_rebuilt (hhit : manager.sectionDirty key = false → ∀ fingerprint ref,
      manager.sectionCache key = some (fingerprint, ref) →
        ref < manager.heap.length ∧ manager.read ref = made) :
    (manager.rebuilt env key made).1 < (manager.rebuilt env key made).2.heap.length ∧
      (manager.rebuilt env key made).2.read (manager.rebuilt env key made).1 = made := by
  rcases rebuilt_cases key made with ⟨fingerprint, ref, hclean, hcache, hrebuilt⟩ | hrebuilt
  · rw [hrebuilt]
    exact hhit hclean fingerprint ref hcache
  · rw [hrebuilt]
    exact ⟨lt_alloc made, read_alloc made⟩

end Dynamic

/-! ## The sections of a call -/

/-- The references are valid, and behind them are these sections. -/
structure Shows (state : List Nat × ContextManager) (shown : List ContextSection) : Prop where
  valid : ∀ ref ∈ state.1, ref < state.2.heap.length
  reads : state.1.map state.2.read = shown

variable {sections : List Nat}

theorem Shows.later {shown : List ContextSection} {keys : List CacheKey}
    (h : Shows (sections, before) shown) (hmakes : Makes keys before after) :
    Shows (sections, after) shown where
  valid ref hmem := Nat.lt_of_lt_of_le (h.valid ref hmem) hmakes.heap.length_le
  reads := by
    rw [← h.reads]
    exact map_congr_left fun ref hmem => hmakes.read_of_lt (h.valid ref hmem)

variable {made : Nat × ContextManager}

/-- One more section is shown behind the others. -/
theorem Shows.next {shown : List ContextSection} {keys : List CacheKey}
    {x : ContextSection} (h : Shows (sections, before) shown)
    (hmakes : Makes keys before made.2) (hmade : made.1 < made.2.heap.length ∧
      made.2.read made.1 = x) : Shows (assembleNext sections made) (shown ++ [x]) := by
  have hlater := h.later hmakes
  constructor
  · intro ref hmem
    rcases mem_append.mp hmem with hold | hnew
    · exact hlater.valid ref hold
    · rw [mem_singleton.mp hnew]
      exact hmade.1
  · change (sections ++ [made.1]).map made.2.read = shown ++ [x]
    rw [map_append, hlater.reads, map_singleton, hmade.2]

/-! ## One section after the other -/

theorem name_truncatedSection (name content : String) (budget : Int) (source : String) :
    (truncatedSection env name content budget source).name = name := rfl

theorem name_reflectionSection (content : String) (budget : Int) :
    (reflectionSection env content budget).name = "reflection" := rfl

theorem name_skillsSection (budget : Int) : (skillsSection env budget).name = "skills" := by
  rw [skillsSection]
  split <;> rfl

theorem name_memorySection (budget : Int) : (memorySection env budget).name = "memory" := by
  rw [memorySection]
  split <;> rfl

section Chain

variable (env manager) (systemPrompt toolDefinitions : String)

def afterSystem : ContextManager := (manager.assembleSystem env systemPrompt).2

def afterTools : ContextManager :=
  ((manager.afterSystem env systemPrompt).assembleTools env toolDefinitions).2

def afterSkills : ContextManager :=
  ((manager.afterTools env systemPrompt toolDefinitions).assembleSkills env).2

def afterReflection : ContextManager :=
  ((manager.afterSkills env systemPrompt toolDefinitions).assembleReflection env).2

def afterMemory : ContextManager :=
  ((manager.afterReflection env systemPrompt toolDefinitions).assembleMemory env).2

def afterKnowledge : ContextManager :=
  ((manager.afterMemory env systemPrompt toolDefinitions).assembleKnowledge env).2

theorem makes_system : Makes [.system] manager (manager.afterSystem env systemPrompt) :=
  makes_keyed _ _ _

theorem makes_tools : Makes [.tools] (manager.afterSystem env systemPrompt)
    (manager.afterTools env systemPrompt toolDefinitions) :=
  makes_keyed _ _ _

theorem makes_skills : Makes [.skills] (manager.afterTools env systemPrompt toolDefinitions)
    (manager.afterSkills env systemPrompt toolDefinitions) :=
  makes_keyed _ _ _

theorem makes_reflection :
    Makes [.reflection] (manager.afterSkills env systemPrompt toolDefinitions)
      (manager.afterReflection env systemPrompt toolDefinitions) :=
  makes_rebuilt _ _

theorem makes_memory : Makes [.memory] (manager.afterReflection env systemPrompt toolDefinitions)
      (manager.afterMemory env systemPrompt toolDefinitions) :=
  makes_rebuilt _ _

theorem makes_knowledge : Makes [] (manager.afterMemory env systemPrompt toolDefinitions)
    (manager.afterKnowledge env systemPrompt toolDefinitions) :=
  makes_alloc _

theorem makes_toSkills : Makes [.system, .tools] manager
    (manager.afterTools env systemPrompt toolDefinitions) :=
  (makes_system env manager systemPrompt).trans
    (makes_tools env manager systemPrompt toolDefinitions)

theorem makes_toReflection : Makes [.system, .tools, .skills] manager
    (manager.afterSkills env systemPrompt toolDefinitions) :=
  (makes_toSkills env manager systemPrompt toolDefinitions).trans
    (makes_skills env manager systemPrompt toolDefinitions)

theorem makes_toMemory : Makes [.system, .tools, .skills, .reflection] manager
    (manager.afterReflection env systemPrompt toolDefinitions) :=
  (makes_toReflection env manager systemPrompt toolDefinitions).trans
    (makes_reflection env manager systemPrompt toolDefinitions)

theorem makes_toKnowledge : Makes [.system, .tools, .skills, .reflection, .memory] manager
    (manager.afterMemory env systemPrompt toolDefinitions) :=
  (makes_toMemory env manager systemPrompt toolDefinitions).trans
    (makes_memory env manager systemPrompt toolDefinitions)

end Chain

theorem makes_assemble (env : ContextEnv) (manager : ContextManager)
    (systemPrompt toolDefinitions : String) :
    Makes [.history] (manager.afterKnowledge env systemPrompt toolDefinitions)
      (manager.assemble env systemPrompt toolDefinitions).2 :=
  makes_rebuilt _ _

theorem makes_assembleExtra (extras : List (String × String)) (state : List Nat × ContextManager) :
    Makes [] state.2 (extras.foldl (assembleExtra env) state).2 := by
  induction extras generalizing state with
  | nil => exact makes_refl [] state.2
  | cons extra rest ih => exact (makes_alloc _).trans (ih (assembleExtra env state extra))

theorem valid_assembleExtra (extras : List (String × String))
    {state : List Nat × ContextManager} (h : ∀ ref ∈ state.1, ref < state.2.heap.length) :
    ∀ ref ∈ (extras.foldl (assembleExtra env) state).1,
      ref < (extras.foldl (assembleExtra env) state).2.heap.length := by
  induction extras generalizing state with
  | nil => exact h
  | cons extra rest ih =>
    have hshows : Shows (state.1, state.2) (state.1.map state.2.read) := ⟨h, rfl⟩
    exact ih (hshows.next (makes_alloc _) ⟨lt_alloc _, read_alloc _⟩).valid

/-- Behind the knowledge section only the history is cached. -/
theorem makes_assembled (env : ContextEnv) (manager : ContextManager) (call : ContextCall) :
    Makes [.history] (manager.afterKnowledge env call.systemPrompt call.toolDefinitions)
      (manager.assembled env call).manager :=
  (makes_assemble env manager call.systemPrompt call.toolDefinitions).trans
    (makes_assembleExtra call.extraContext _)

/-! ## Compression makes sections too -/

/-- Sections are made; the cache stays, and no flag but that of the history changes. -/
structure Shortens (before after : ContextManager) : Prop where
  heap : before.heap <+: after.heap
  cache : after.sectionCache = before.sectionCache
  dirty : ∀ key, key ≠ CacheKey.history → after.sectionDirty key = before.sectionDirty key
  budget : after.budget = before.budget
  reflection : after.reflectionContext = before.reflectionContext

theorem shortens_refl (manager : ContextManager) : Shortens manager manager :=
  ⟨prefix_rfl, rfl, fun _ _ => rfl, rfl, rfl⟩

theorem Shortens.trans (h : Shortens before after) (h' : Shortens after last) :
    Shortens before last where
  heap := h.heap.trans h'.heap
  cache := h'.cache.trans h.cache
  dirty := fun key hne => (h'.dirty key hne).trans (h.dirty key hne)
  budget := h'.budget.trans h.budget
  reflection := h'.reflection.trans h.reflection

theorem Shortens.read_of_lt (h : Shortens before after)
    (hvalid : ref < before.heap.length) : after.read ref = before.read ref :=
  Heap.read_of_prefix h.heap hvalid

def Assembled.Valid (assembled : Assembled) : Prop :=
  ∀ ref ∈ assembled.sections, ref < assembled.manager.heap.length

theorem mem_replaceSection {replacement ref : Nat}
    (h : ref ∈ manager.replaceSection replacement sections) :
    ref ∈ sections ∨ ref = replacement := by
  induction sections with
  | nil => cases h
  | cons first rest ih =>
    rw [replaceSection] at h
    split at h
    · rcases mem_cons.mp h with hnew | hold
      · exact .inr hnew
      · exact .inl (mem_cons_of_mem first hold)
    · rcases mem_cons.mp h with hfirst | hrest
      · rw [hfirst]
        exact .inl mem_cons_self
      · exact (ih hrest).imp_left (mem_cons_of_mem first)

/-- A step of the chain makes at most a section in the place of another. -/
structure Shortened (before after : Assembled) : Prop where
  manager : Shortens before.manager after.manager
  valid : before.Valid → after.Valid

theorem shortened_refl (assembled : Assembled) : Shortened assembled assembled :=
  ⟨shortens_refl assembled.manager, id⟩

variable {assembled : Assembled}

theorem shortened_replaceHistory (hmade : Shortens assembled.manager made.2)
    (hvalid : made.1 < made.2.heap.length) :
    Shortened assembled (assembled.replaceHistory ref made) where
  manager := hmade
  valid := by
    intro hbefore other hother
    rcases mem_replaceSection hother with hold | hnew
    · exact Nat.lt_of_lt_of_le (hbefore other hold) hmade.heap.length_le
    · rw [hnew]
      exact hvalid

theorem shortens_dropLines (history : ContextSection) (lines : List String) (dropCount : Nat) :
    Shortens manager (manager.dropLines env history lines dropCount).2 :=
  ⟨Heap.prefix_alloc manager.heap _, rfl, fun _ _ => rfl, rfl, rfl⟩

theorem shortens_snipHistory (hvalid : ref < manager.heap.length) :
    Shortens manager (manager.snipHistory env ref).2 ∧
      (manager.snipHistory env ref).1 < (manager.snipHistory env ref).2.heap.length := by
  rw [snipHistory]
  split
  · exact ⟨shortens_refl manager, hvalid⟩
  · exact ⟨shortens_dropLines _ _ _, lt_alloc _⟩

theorem shortens_compactHistory {compressor : Compressor} (hvalid : ref < manager.heap.length)
    (h : manager.compactHistory env compressor ref = some made) :
    Shortens manager made.2 ∧ made.1 < made.2.heap.length := by
  rw [compactHistory] at h
  split at h
  · obtain rfl := Option.some.inj h
    exact ⟨shortens_refl manager, hvalid⟩
  · obtain ⟨summary, -, rfl⟩ := Option.map_eq_some_iff.mp h
    exact ⟨⟨Heap.prefix_alloc manager.heap _, rfl, fun _ hne => if_neg hne, rfl, rfl⟩, lt_alloc _⟩

theorem mem_of_findSection {name : String} (h : manager.findSection sections name = some ref) :
    ref ∈ sections ∧ (manager.read ref).name = name := by
  rw [findSection] at h
  have hname := find?_some h
  exact ⟨mem_of_find?_eq_some h, of_decide_eq_true hname⟩

/-- Snipping replaces the history section alone. -/
theorem shortened_snip (env : ContextEnv) (target : Int)
    (hvalid : assembled.Valid) : Shortened assembled (snip env target assembled) := by
  rw [snip]
  split
  · exact shortened_refl assembled
  · rename_i ref hfind
    split
    · obtain ⟨hmakes, hmade⟩ := shortens_snipHistory (hvalid ref (mem_of_findSection hfind).1)
      exact shortened_replaceHistory hmakes hmade
    · exact shortened_refl assembled

/-- Compacting replaces the history section alone. -/
theorem shortened_compact (env : ContextEnv) (target : Int)
    (compressor : Option Compressor) (hvalid : assembled.Valid) :
    Shortened assembled (compact env target compressor assembled) := by
  unfold compact
  split
  · rename_i compressor ref hfind
    split
    · split
      · rename_i made hmade
        obtain ⟨hmakes, hnew⟩ :=
          shortens_compactHistory (hvalid ref (mem_of_findSection hfind).1) hmade
        have hswap : Shortened assembled (assembled.replaceHistory ref made) :=
          shortened_replaceHistory hmakes hnew
        exact ⟨⟨hswap.manager.heap, hswap.manager.cache, hswap.manager.dirty,
          hswap.manager.budget, hswap.manager.reflection⟩, hswap.valid⟩
      · exact ⟨⟨prefix_rfl, rfl, fun _ _ => rfl, rfl, rfl⟩, id⟩
    · exact shortened_refl assembled
  · exact shortened_refl assembled

/-! ## Trimming edits -/

def editedBy (target : Int) (sections : List Nat) (state : Int × ContextManager)
    (name : String) : Option Nat :=
  if state.1 ≤ target then none
  else (state.2.findSection sections name).filter fun ref => (state.2.read ref).tokens ≠ 0

/-- The sections that trimming edits, name after name. -/
def edits (env : ContextEnv) (target : Int) (sections : List Nat) :
    Int × ContextManager → List String → List Nat
  | _, [] => []
  | state, name :: rest =>
    (editedBy target sections state name).toList ++
      edits env target sections (trimSection env target sections state name) rest

/-- Sections are edited where they are, and keep their names. -/
structure Edits (refs : List Nat) (before after : ContextManager) : Prop where
  read : ∀ ref, ref ∉ refs → after.read ref = before.read ref
  name : ∀ ref, (after.read ref).name = (before.read ref).name
  length : after.heap.length = before.heap.length
  rest : after = { before with heap := after.heap }

theorem edits_refl (refs : List Nat) (manager : ContextManager) : Edits refs manager manager :=
  ⟨fun _ _ => rfl, fun _ => rfl, rfl, rfl⟩

theorem Edits.trans {refs others : List Nat} (h : Edits refs before after)
    (h' : Edits others after last) : Edits (refs ++ others) before last where
  read := fun ref hmem => by
    rw [mem_append, not_or] at hmem
    exact (h'.read ref hmem.2).trans (h.read ref hmem.1)
  name := fun ref => (h'.name ref).trans (h.name ref)
  length := h'.length.trans h.length
  rest := by rw [h'.rest, h.rest]

theorem edits_write (ref : Nat) (edited : ContextSection)
    (hname : edited.name = (manager.read ref).name) :
    Edits [ref] manager (manager.write ref edited) where
  read := fun other hother => Heap.read_write_of_ne (by simpa using hother) edited
  name := by
    intro other
    by_cases hsame : other = ref
    · subst hsame
      by_cases hvalid : other < manager.heap.length
      · exact (congrArg ContextSection.name (Heap.read_write_self hvalid edited)).trans hname
      · have hsame : (manager.heap.set other edited) = manager.heap :=
          set_eq_of_length_le (Nat.le_of_not_lt hvalid)
        change (Heap.read (manager.heap.set other edited) other).name = _
        rw [hsame]
        rfl
    · exact congrArg ContextSection.name (Heap.read_write_of_ne hsame edited)
  length := Heap.length_write manager.heap ref edited
  rest := rfl

theorem edits_trimSection (env : ContextEnv) (target : Int) (sections : List Nat)
    (state : Int × ContextManager) (name : String) :
    Edits (editedBy target sections state name).toList state.2
      (trimSection env target sections state name).2 := by
  obtain ⟨total, manager⟩ := state
  rw [trimSection, editedBy]
  dsimp only
  split
  · exact edits_refl _ manager
  · split
    · exact edits_refl _ manager
    · rename_i ref hfind
      split
      · exact edits_refl _ manager
      · rename_i htokens
        rw [hfind, Option.filter_some_pos (by simpa using htokens)]
        split
        · exact edits_write ref _ rfl
        · exact edits_write ref _ rfl

/-- Trimming edits the sections it names alone. -/
theorem edits_trim (env : ContextEnv) (target : Int) (sections : List Nat)
    (state : Int × ContextManager) (names : List String) :
    Edits (edits env target sections state names) state.2
      (names.foldl (trimSection env target sections) state).2 := by
  induction names generalizing state with
  | nil => exact edits_refl _ state.2
  | cons name rest ih =>
    exact (edits_trimSection env target sections state name).trans
      (ih (trimSection env target sections state name))

/-- The sections that a call edits. -/
def trimmed (env : ContextEnv) (manager : ContextManager) (call : ContextCall) : List Nat :=
  let assembled := manager.assembled env call
  let target := env.target assembled.manager.budget.effectiveWindow
  let shortened := shorten env call.compressor assembled
  if underPressure env assembled ∧ target < shortened.totalTokens then
    edits env target shortened.sections
      (shortened.manager.totalTokens shortened.sections, shortened.manager) trimOrder
  else []

/-! ## A call -/

/-- What a call does behind its assembly. -/
structure Finishes (refs : List Nat) (before after : ContextManager) : Prop where
  length : before.heap.length ≤ after.heap.length
  cache : after.sectionCache = before.sectionCache
  dirty : ∀ key, key ≠ CacheKey.history → after.sectionDirty key = before.sectionDirty key
  reflection : after.reflectionContext = before.reflectionContext
  name : ∀ ref, ref < before.heap.length → (after.read ref).name = (before.read ref).name
  read : ∀ ref, ref < before.heap.length → ref ∉ refs → after.read ref = before.read ref

theorem Shortens.finishes {refs : List Nat} (h : Shortens before after)
    (h' : Edits refs after last) : Finishes refs before last where
  length := h'.length ▸ h.heap.length_le
  cache := by rw [h'.rest]; exact h.cache
  dirty := by rw [h'.rest]; exact h.dirty
  reflection := by rw [h'.rest]; exact h.reflection
  name := fun ref hvalid =>
    (h'.name ref).trans (congrArg ContextSection.name (h.read_of_lt hvalid))
  read := fun ref hvalid hmem => (h'.read ref hmem).trans (h.read_of_lt hvalid)

/-- Both ways of shortening replace the history section alone. -/
theorem shortened_shorten (env : ContextEnv) (compressor : Option Compressor)
    (hvalid : assembled.Valid) : Shortened assembled (shorten env compressor assembled) := by
  have hsnip :=
    shortened_snip env (env.target assembled.manager.budget.effectiveWindow) hvalid
  have hcompact := shortened_compact env (env.target assembled.manager.budget.effectiveWindow)
    (if assembled.manager.circuitBreakerOpen then none else compressor) (hsnip.valid hvalid)
  exact ⟨hsnip.manager.trans hcompact.manager, hcompact.valid ∘ hsnip.valid⟩

def shortened (env : ContextEnv) (manager : ContextManager) (call : ContextCall) : Assembled :=
  let assembled := manager.assembled env call
  if underPressure env assembled then shorten env call.compressor assembled else assembled

theorem shortened_assembled {call : ContextCall} (hvalid : (manager.assembled env call).Valid) :
    Shortened (manager.assembled env call) (manager.shortened env call) := by
  rw [shortened]
  split
  · exact shortened_shorten env call.compressor hvalid
  · exact shortened_refl _

theorem edits_finished (env : ContextEnv) (manager : ContextManager) (call : ContextCall) :
    Edits (manager.trimmed env call) (manager.shortened env call).manager
        (manager.finished env call).manager ∧
      (manager.finished env call).sections = (manager.shortened env call).sections := by
  rw [trimmed, finished, shortened]
  by_cases hpress : underPressure env (manager.assembled env call) = true
  · rw [if_pos hpress, if_pos hpress, compressIfNeeded, trim]
    by_cases htarget : env.target (manager.assembled env call).manager.budget.effectiveWindow <
        (shorten env call.compressor (manager.assembled env call)).totalTokens
    · rw [if_pos htarget, if_pos ⟨hpress, htarget⟩]
      exact ⟨edits_trim env _ _ (_, _) trimOrder, rfl⟩
    · rw [if_neg htarget, if_neg fun h => htarget h.2]
      exact ⟨edits_refl [] _, rfl⟩
  · rw [if_neg hpress, if_neg hpress, if_neg fun h => hpress h.1]
    exact ⟨edits_refl [] _, rfl⟩

theorem finishes_finished {call : ContextCall} (hvalid : (manager.assembled env call).Valid) :
    Finishes (manager.trimmed env call) (manager.assembled env call).manager
        (manager.finished env call).manager ∧ (manager.finished env call).Valid := by
  have hshortened := shortened_assembled hvalid
  obtain ⟨hedits, hparts⟩ := edits_finished env manager call
  refine ⟨hshortened.manager.finishes hedits, fun ref hmem => ?_⟩
  rw [hparts] at hmem
  exact Nat.lt_of_lt_of_eq (hshortened.valid hvalid ref hmem) hedits.length.symm

end ContextManager

end HiAgent.Context
