/-
  Context/TaskView.lean --- `hi_agent/task_view/builder.py` and `token_budget.py`.

  The layers are filled in the order of their priority, each with what its own limit and the
  layers before it leave.
-/
import HiAgent.Foundation.Bisect
import HiAgent.Foundation.Dict
import HiAgent.Foundation.Text
import Mathlib.Algebra.Order.Ring.Int

namespace HiAgent.Context

open Foundation List

/-! ## Tokens -/

abbrev TokenCounter := Option (String → Int)

def countTokens (counter : TokenCounter) (text : String) : Int :=
  match counter with
  | some count => count text
  | none => max 1 (text.toList.length / 4 : Nat)

def enforceLayerBudget (counter : TokenCounter) (content : String) (maxTokens : Int) : String :=
  if maxTokens ≤ 0 then ""
  else if countTokens counter content ≤ maxTokens then content
  else
    match counter with
    | none => Text.slice content (maxTokens * 4)
    | some count =>
      Text.slice content (bisect (fun mid => decide (count (Text.slice content mid) ≤ maxTokens))
        0 (content.toList.length + 1) 0)

/-! ## What the layers say -/

/-- The `run_index` argument. -/
inductive RunIndexArg where
  /-- `RunMemoryIndex`, with the ids and the outcomes of its stages. -/
  | memory (runId : String) (stages : List (String × String))
  /-- Another object, as `str` shows it. -/
  | other (text : String)

def formatRunIndex : RunIndexArg → String
  | .memory runId stages => Text.joinLines
      (("[Run " ++ runId ++ "]") :: stages.map fun sp => "  " ++ sp.1 ++ ": " ++ sp.2)
  | .other text => text

structure CompressedStageMemory where
  stageId : String
  findings : List String
  decisions : List String
  outcome : String
  contradictionRefs : List String
  keyEntities : List String

def formatStageSummary (summary : CompressedStageMemory) : String :=
  let listed (title : String) (items : List String) : List String :=
    if items = [] then [] else title :: items.map ("  - " ++ ·)
  let joined (title : String) (items : List String) : List String :=
    if items = [] then [] else [title ++ String.intercalate ", " items]
  Text.joinLines (("[Stage " ++ summary.stageId ++ "] outcome=" ++ summary.outcome) ::
    (listed "Findings:" summary.findings ++ listed "Decisions:" summary.decisions ++
      joined "Entities: " summary.keyEntities ++
      joined "Contradictions: " summary.contradictionRefs))

variable (counter : TokenCounter)

/-- The lines from the front that fit in, behind the tokens that are used. -/
def fitting (maxTokens used : Int) : List String → List String
  | [] => []
  | line :: rest =>
    if maxTokens < used + countTokens counter line then []
    else line :: fitting maxTokens (used + countTokens counter line) rest

/-- `format_episodes`, of episodes as `str` shows them. -/
def formatEpisodes (episodes : List String) (maxTokens : Int) : String :=
  if episodes = [] ∨ maxTokens ≤ 0 then ""
  else Text.joinLines (fitting counter maxTokens 0 episodes)

inductive KnowledgeRecord where
  /-- With a `content`, and perhaps a `key`. -/
  | keyed (key : Option String) (content : String)
  /-- Another object, as `str` shows it. -/
  | other (text : String)

def KnowledgeRecord.line : KnowledgeRecord → String
  | .keyed key content => "[" ++ key.getD "?" ++ "] " ++ content
  | .other text => text

/-- `format_knowledge`: the loop is that of the episodes. -/
def formatKnowledge (records : List KnowledgeRecord) (maxTokens : Int) : String :=
  formatEpisodes counter (records.map KnowledgeRecord.line) maxTokens

def sourceTypeLabels : List (String × String) :=
  [("short_term", "short_term"), ("mid_term", "mid_term"), ("long_term_text", "wiki"),
    ("long_term_graph", "graph")]

/-- The contents of a group, the last one perhaps cut. -/
def groupLines (contentBudget used : Int) : List String → List String
  | [] => []
  | content :: rest =>
    if contentBudget < used + countTokens counter content then
      let remainingChars := max 0 ((contentBudget - used) * 4)
      if 0 < remainingChars then [Text.slice content remainingChars] else []
    else content :: groupLines contentBudget (used + countTokens counter content) rest

def blocks (budgetTokens perGroupBudget totalUsed : Int) :
    List (String × List String) → List String
  | [] => []
  | (sourceType, contents) :: rest =>
    if budgetTokens ≤ totalUsed then []
    else
      let header := "[KNOWLEDGE: " ++ (sourceTypeLabels.lookup sourceType).getD sourceType ++ "]"
      let lines := groupLines counter
        (max 0 (perGroupBudget - countTokens counter header)) 0 contents
      if lines = [] then blocks budgetTokens perGroupBudget totalUsed rest
      else
        let whole := header ++ "\n" ++ String.intercalate "\n---\n" lines
        let block :=
          if budgetTokens < totalUsed + countTokens counter whole then
            Text.slice whole (max 0 ((budgetTokens - totalUsed) * 4))
          else whole
        if 0 < countTokens counter block then
          block :: blocks budgetTokens perGroupBudget (totalUsed + countTokens counter block) rest
        else blocks budgetTokens perGroupBudget totalUsed rest

/-- `format_retrieval_result`, of items with their source type and content. -/
def formatRetrievalResult (items : List (String × String)) (budgetTokens : Int) : String :=
  if items = [] ∨ budgetTokens ≤ 0 then ""
  else
    let groups := items.foldl (fun groups item =>
      groups.set item.1 (groups.getD item.1 [] ++ [item.2]))
        (Dict.empty : Dict String (List String))
    let perGroupBudget := max 1 (budgetTokens / max (max groups.rows.length 1) 4)
    String.intercalate "\n\n" (blocks counter budgetTokens perGroupBudget 0 groups.rows)

/-! ## The view -/

structure TaskViewSection where
  layer : String
  content : String
  tokenCount : Int

/-- `TaskView`, but for the quotient of the two. -/
structure TaskView where
  sections : List TaskViewSection
  totalTokens : Int
  budget : Int

/-- The arguments of `build_task_view` on its layered path. A list that is empty is as good as
none; `retrieve` is `retrieve_for_stage` at a budget. -/
structure TaskViewArgs where
  runIndex : Option RunIndexArg
  currentStageSummary : Option CompressedStageMemory
  previousStageSummary : Option CompressedStageMemory
  episodes : List String
  knowledgeRecords : List KnowledgeRecord
  retrievalResult : List (String × String)
  retrieve : Option (Int → List String)

structure Layer where
  name : String
  /-- Of `LAYER_BUDGETS`. -/
  limit : Int
  /-- The text at a number of tokens, where there is one. -/
  raw : Int → Option String

/-- `if raw:`. -/
def nonEmpty (raw : String) : Option String := if raw = "" then none else some raw

def TaskViewArgs.layers (args : TaskViewArgs) : List Layer :=
  [⟨"l2_index", 512, fun _ => args.runIndex.map formatRunIndex⟩,
    ⟨"l1_current_stage", 2048, fun _ => args.currentStageSummary.map formatStageSummary⟩,
    ⟨"l1_previous_stage", 2048, fun _ => args.previousStageSummary.map formatStageSummary⟩,
    ⟨"l3_episodic", 1024, fun layerMax => nonEmpty (formatEpisodes counter args.episodes layerMax)⟩,
    ⟨"knowledge", 1024,
      fun layerMax => nonEmpty (formatKnowledge counter args.knowledgeRecords layerMax)⟩,
    ⟨"retrieval_result", 1024,
      fun layerMax => nonEmpty (formatRetrievalResult counter args.retrievalResult layerMax)⟩,
    ⟨"episodic", 1024, fun layerMax => (args.retrieve.map (· layerMax)).bind fun snippets =>
      if snippets = [] then none else some (Text.joinLines snippets)⟩]

/-- The sections so far, and what remains for the others. -/
structure Filling where
  sections : List TaskViewSection
  remaining : Int

/-- One layer of `build_task_view`. -/
def Filling.add (filling : Filling) (layer : Layer) : Filling :=
  if 0 < filling.remaining then
    let layerMax := min layer.limit filling.remaining
    match layer.raw layerMax with
    | none => filling
    | some raw =>
      let content := enforceLayerBudget counter raw layerMax
      let tokens := countTokens counter content
      ⟨filling.sections ++ [⟨layer.name, content, tokens⟩], filling.remaining - tokens⟩
  else filling

/-- `min(LAYER_BUDGETS["system_reserved"], budget)`. -/
def systemReserved (budget : Int) : Int := min 512 budget

def buildTaskView (args : TaskViewArgs) (budget : Int) : Except String TaskView :=
  if budget < 0 then .error "budget must be non-negative"
  else
    let filling := (args.layers counter).foldl (Filling.add counter)
      ⟨[], max 0 (budget - systemReserved budget)⟩
    let total := (filling.sections.map (·.tokenCount)).sum + systemReserved budget
    .ok ⟨filling.sections, total, budget⟩

/-! ## What the cut keeps -/

variable {counter} {content : String} {maxTokens : Int}

theorem toList_slice {text : String} {stop : Int} (h : 0 ≤ stop) :
    (Text.slice text stop).toList = text.toList.take stop.toNat := by
  rw [Text.slice, if_neg h.not_gt, String.toList_ofList]

/-- How many characters of a text that is too long are kept. -/
def kept (counter : TokenCounter) (content : String) (maxTokens : Int) : Nat :=
  match counter with
  | none => (maxTokens * 4).toNat
  | some count => bisect (fun mid => decide (count (Text.slice content mid) ≤ maxTokens))
      0 (content.toList.length + 1) 0

theorem enforce_of_fits (hmax : 0 < maxTokens) (hfits : countTokens counter content ≤ maxTokens) :
    enforceLayerBudget counter content maxTokens = content := by
  unfold enforceLayerBudget
  rw [if_neg hmax.not_ge, if_pos hfits]

theorem toList_enforce (hmax : 0 < maxTokens) (hover : ¬ countTokens counter content ≤ maxTokens) :
    (enforceLayerBudget counter content maxTokens).toList =
      content.toList.take (kept counter content maxTokens) := by
  unfold enforceLayerBudget
  rw [if_neg hmax.not_ge, if_neg hover]
  cases counter with
  | none => exact toList_slice (by omega)
  | some count => exact toList_slice (Int.natCast_nonneg _)

theorem enforce_begins (counter : TokenCounter) (content : String) (maxTokens : Int) :
    (enforceLayerBudget counter content maxTokens).toList <+: content.toList := by
  by_cases hmax : 0 < maxTokens
  · by_cases hfits : countTokens counter content ≤ maxTokens
    · simp [enforce_of_fits hmax hfits]
    · rw [toList_enforce hmax hfits]
      exact take_prefix _ _
  · unfold enforceLayerBudget
    rw [if_pos (not_lt.mp hmax)]
    exact nil_prefix

theorem enforce_fits (hempty : countTokens counter "" ≤ maxTokens) (hmax : 0 < maxTokens) :
    countTokens counter (enforceLayerBudget counter content maxTokens) ≤ maxTokens := by
  by_cases hfits : countTokens counter content ≤ maxTokens
  · rwa [enforce_of_fits hmax hfits]
  · cases counter with
    | none =>
      rw [countTokens, toList_enforce hmax hfits, kept, length_take]
      omega
    | some count =>
      have hnothing : Text.slice content (0 : Nat) = "" := by simp [Text.slice]
      have hfound := @bisect_fits (fun mid => decide (count (Text.slice content mid) ≤ maxTokens))
        0 (content.toList.length + 1) 0 (decide_eq_true (hnothing ▸ hempty))
      unfold enforceLayerBudget
      rw [if_neg hmax.not_ge, if_neg hfits]
      exact of_decide_eq_true hfound

/-- A counter for which no text has fewer tokens than one that it begins with. -/
def Grows (count : String → Int) : Prop :=
  ∀ text longer : String, text.toList <+: longer.toList → count text ≤ count longer

theorem le_kept {count : String → Int} (hgrows : Grows count) (hover : ¬ count content ≤ maxTokens)
    {part : String} (hpart : part.toList <+: content.toList) (hfits : count part ≤ maxTokens) :
    part.toList.length ≤ kept (some count) content maxTokens := by
  have htake : ∀ n : Nat, (Text.slice content n).toList = content.toList.take n := fun n =>
    toList_slice (Int.natCast_nonneg n)
  refine le_bisect (fun m n hmn hn => ?_) (fun n hn => absurd hn (Nat.not_lt_zero n))
    (fun n hn => ?_) ?_
  · refine decide_eq_true ((hgrows _ _ ?_).trans (of_decide_eq_true hn))
    rw [htake, htake]
    exact take_prefix_take_left hmn
  · have hall : Text.slice content n = content := by
      rw [← String.toList_inj, htake, take_of_length_le (by omega)]
    rw [hall]
    exact decide_eq_false hover
  · have hsame : Text.slice content (part.toList.length : Nat) = part := by
      rw [← String.toList_inj, htake, ← prefix_iff_eq_take.mp hpart]
    rw [hsame]
    exact decide_eq_true hfits

/-- What is kept of a text is its beginning and fits, as long as the empty text does; of a counter
that grows it is the longest such beginning, and by default all but three characters of it. -/
theorem enforceLayerBudget_keeps (counter : TokenCounter) (content : String) (maxTokens : Int)
    (hmax : 0 < maxTokens) (hempty : countTokens counter "" ≤ maxTokens) :
    (enforceLayerBudget counter content maxTokens).toList <+: content.toList ∧
      countTokens counter (enforceLayerBudget counter content maxTokens) ≤ maxTokens ∧
      ∀ part : String, part.toList <+: content.toList → countTokens counter part ≤ maxTokens →
        match counter with
        | none => part.toList.length ≤
            (enforceLayerBudget none content maxTokens).toList.length + 3
        | some count => Grows count →
            part.toList <+: (enforceLayerBudget (some count) content maxTokens).toList := by
  refine ⟨enforce_begins counter content maxTokens, enforce_fits hempty hmax,
    fun part hpart hfits => ?_⟩
  by_cases hwhole : countTokens counter content ≤ maxTokens
  · have hbegins : part.toList <+: (enforceLayerBudget counter content maxTokens).toList := by
      rwa [enforce_of_fits hmax hwhole]
    cases counter with
    | none => exact Nat.le_add_right_of_le hbegins.length_le
    | some count => exact fun _ => hbegins
  · cases counter with
    | none =>
      have hlength := hpart.length_le
      rw [countTokens] at hfits
      simp only [toList_enforce hmax hwhole, kept, length_take]
      omega
    | some count =>
      intro hgrows
      rw [toList_enforce hmax hwhole]
      exact prefix_take_iff.mpr ⟨hpart, le_kept hgrows hwhole hpart hfits⟩

/-- A counter that grows: the spaces. -/
def spaces (text : String) : Int := text.toList.count ' '

theorem grows_spaces : Grows spaces :=
  fun _ _ h => Int.ofNat_le.mpr (h.sublist.count_le _)

theorem enforceLayerBudget_keeps_spaces :
    countTokens none (enforceLayerBudget none "twelve chars" 2) ≤ 2 ∧
      "one two".toList <+: (enforceLayerBudget (some spaces) "one two three" 1).toList :=
  ⟨(enforceLayerBudget_keeps none "twelve chars" 2 (by decide) (by decide)).2.1,
    (enforceLayerBudget_keeps (some spaces) "one two three" 1 (by decide) (by decide)).2.2
      "one two" (by decide) (by decide) grows_spaces⟩

/-! ## What the layers take -/

/-- What holds of the sections so far, of so many tokens for all of them. -/
structure Filling.Holds (counter : TokenCounter) (available : Int) (filling : Filling) : Prop where
  remaining : 0 ≤ filling.remaining
  sum : (filling.sections.map (·.tokenCount)).sum + filling.remaining = available
  counted : ∀ part ∈ filling.sections, part.tokenCount = countTokens counter part.content

theorem Filling.Holds.add {available : Int} {filling : Filling}
    (h : filling.Holds counter available)
    (hempty : countTokens counter "" ≤ 1) {layer : Layer} (hlimit : 0 < layer.limit) :
    (filling.add counter layer).Holds counter available := by
  rw [Filling.add]
  split
  · rename_i hroom
    dsimp only
    split
    · exact h
    · rename_i raw _
      have hmax : 0 < min layer.limit filling.remaining := lt_min hlimit hroom
      have hfits := @enforce_fits counter raw _ (hempty.trans hmax) hmax
      have hsum := h.sum
      constructor
      · have := min_le_right layer.limit filling.remaining
        dsimp only
        omega
      · simp only [map_append, map_cons, map_nil, sum_append, sum_singleton]
        omega
      · simpa [or_imp, forall_and] using h.counted
  · exact h

theorem Filling.Holds.foldl {available : Int} (hempty : countTokens counter "" ≤ 1)
    (layers : List Layer) (hlimits : ∀ layer ∈ layers, 0 < layer.limit) {filling : Filling}
    (h : filling.Holds counter available) :
    (layers.foldl (Filling.add counter) filling).Holds counter available := by
  induction layers generalizing filling with
  | nil => exact h
  | cons layer rest ih =>
    exact ih (fun other hother => hlimits other (mem_cons_of_mem layer hother))
      (h.add hempty (hlimits layer mem_cons_self))

/-- The view has the tokens of its sections and the reserved ones, and keeps to its budget. -/
def WithinBudget (counter : TokenCounter) (args : TaskViewArgs) (budget : Int) : Prop :=
  ∃ view, buildTaskView counter args budget = .ok view ∧
    view.totalTokens = (view.sections.map (·.tokenCount)).sum + systemReserved budget ∧
    view.totalTokens ≤ budget ∧
    ∀ part ∈ view.sections, part.tokenCount = countTokens counter part.content

theorem buildTaskView_withinBudget (hempty : countTokens counter "" ≤ 1) (args : TaskViewArgs)
    {budget : Int} (hbudget : 0 ≤ budget) : WithinBudget counter args budget := by
  have hheld : systemReserved budget ≤ budget := min_le_right 512 budget
  have hlimits : ∀ layer ∈ args.layers counter, 0 < layer.limit := by
    simp [TaskViewArgs.layers]
  have hstart : Filling.Holds counter (budget - systemReserved budget)
      ⟨[], max 0 (budget - systemReserved budget)⟩ := by
    refine ⟨le_max_left _ _, ?_, fun part hpart => by cases hpart⟩
    simpa using hheld
  have hholds := hstart.foldl hempty _ hlimits
  have hsum := hholds.sum
  have hleft := hholds.remaining
  refine ⟨_, by rw [buildTaskView, if_neg hbudget.not_gt], rfl, ?_, hholds.counted⟩
  dsimp only
  omega

def stageSummary : CompressedStageMemory := ⟨"S1", ["found"], [], "active", [], []⟩

def callArgs : TaskViewArgs := ⟨some (.memory "run" [("S1", "active")]), some stageSummary, none,
  ["first episode"], [.keyed none "fact"], [("long_term_text", "page")], some fun _ => ["snippet"]⟩

theorem buildTaskView_withinBudget_everyLayer : WithinBudget none callArgs 600 :=
  buildTaskView_withinBudget (by decide) callArgs (by decide)

/-! ## Priorities -/

theorem Filling.foldl_behind (layers : List Layer) (filling : Filling) : ∃ behind,
    (layers.foldl (Filling.add counter) filling).sections = filling.sections ++ behind ∧
      ∀ part ∈ behind, part.layer ∈ layers.map Layer.name := by
  induction layers generalizing filling with
  | nil => exact ⟨[], (append_nil _).symm, fun part hpart => by cases hpart⟩
  | cons layer rest ih =>
    obtain ⟨behind, hparts, hlayers⟩ := ih (filling.add counter layer)
    have hrest : ∀ part ∈ behind, part.layer ∈ (layer :: rest).map Layer.name :=
      fun part hpart => mem_cons_of_mem _ (hlayers part hpart)
    rw [foldl_cons, hparts, Filling.add]
    split
    · dsimp only
      split
      · exact ⟨behind, rfl, hrest⟩
      · exact ⟨_ :: behind, by rw [append_assoc, singleton_append],
          forall_mem_cons.mpr ⟨mem_cons_self, hrest⟩⟩
    · exact ⟨behind, rfl, hrest⟩

/-- The sections of the first so many layers come first and are the same for both calls. -/
def SameAbove (counter : TokenCounter) (n : Nat) (args other : TaskViewArgs)
    (budget : Int) : Prop :=
  ∃ view otherView common behind otherBehind, buildTaskView counter args budget = .ok view ∧
    buildTaskView counter other budget = .ok otherView ∧
    view.sections = common ++ behind ∧ otherView.sections = common ++ otherBehind ∧
    (∀ part ∈ behind, part.layer ∈ ((args.layers counter).drop n).map Layer.name) ∧
    ∀ part ∈ otherBehind, part.layer ∈ ((other.layers counter).drop n).map Layer.name

/-- What is given for the lower layers does not matter for the sections of the higher ones. -/
theorem buildTaskView_sameAbove {args other : TaskViewArgs} {n : Nat}
    (hsame : (args.layers counter).take n = (other.layers counter).take n) {budget : Int}
    (hbudget : 0 ≤ budget) : SameAbove counter n args other budget := by
  have hsplit : ∀ (given : TaskViewArgs) (start : Filling), ∃ behind,
      ((given.layers counter).foldl (Filling.add counter) start).sections =
        (((given.layers counter).take n).foldl (Filling.add counter) start).sections ++ behind ∧
      ∀ part ∈ behind, part.layer ∈ ((given.layers counter).drop n).map Layer.name := by
    intro given start
    have hbehind := @Filling.foldl_behind counter ((given.layers counter).drop n)
      (((given.layers counter).take n).foldl (Filling.add counter) start)
    rwa [← foldl_append, take_append_drop] at hbehind
  obtain ⟨behind, hparts, hlower⟩ := hsplit args ⟨[], max 0 (budget - systemReserved budget)⟩
  obtain ⟨otherBehind, hothers, hotherLower⟩ :=
    hsplit other ⟨[], max 0 (budget - systemReserved budget)⟩
  exact ⟨_, _, _, behind, otherBehind, if_neg hbudget.not_gt, if_neg hbudget.not_gt, hparts,
    hsame ▸ hothers, hlower, hotherLower⟩

theorem buildTaskView_sameAbove_stages :
    SameAbove none 3 callArgs { callArgs with episodes := [], retrieve := none } 600 := by
  apply buildTaskView_sameAbove
  · rfl
  · decide

end HiAgent.Context
