/-
  Trajectory/StageGraph.lean --- the stages of a run and the edges between them.

  `hi_agent/trajectory/stage_graph.py`: `StageGraph`.
-/
import HiAgent.Foundation.Search.Tree
import Mathlib.Data.List.Dedup
import Mathlib.Data.List.Sort
import Mathlib.Data.String.Basic

namespace HiAgent.Trajectory

open Foundation List

/-- `sorted(items)` of a set. -/
def sorted (items : List String) : List String := items.dedup.insertionSort (· ≤ ·)

@[simp] theorem mem_sorted {items : List String} {item : String} :
    item ∈ sorted items ↔ item ∈ items := by
  rw [sorted, mem_insertionSort, mem_dedup]

structure StageGraph where
  transitions : List (String × List String)
  backtrackEdges : List (String × String)

namespace StageGraph

variable (graph : StageGraph)

/-- The keys of `transitions`. -/
def stages : List String := graph.transitions.map Prod.fst

def successors (stageId : String) : List String :=
  sorted ((graph.transitions.lookup stageId).getD [])

def getBacktrack (stageId : String) : Option String :=
  graph.backtrackEdges.lookup stageId

def roots : List String :=
  sorted (graph.stages.filter fun stageId =>
    graph.transitions.all fun transition => stageId ∉ transition.2)

def startStage : Option String :=
  match graph.roots with
  | stageId :: _ => some stageId
  | [] => (sorted graph.stages).head?

def traceOrder : List String :=
  match graph.startStage with
  | none => []
  | some stageId =>
    Search.explore graph.successors
      (1 + Search.weight graph.successors graph.stages []) [stageId] []

variable {graph}

theorem successors_eq_nil {stageId : String} (h : stageId ∉ graph.stages) :
    graph.successors stageId = [] := by
  have hlookup : graph.transitions.lookup stageId = none := by
    rw [List.lookup_eq_none_iff]
    intro transition hmem
    rw [bne_iff_ne]
    rintro rfl
    exact h (mem_map_of_mem hmem)
  rw [successors, hlookup]
  rfl

theorem nodup_traceOrder : graph.traceOrder.Nodup := by
  unfold traceOrder
  split
  · exact nodup_nil
  · exact Search.nodup_explore nodup_nil

end StageGraph

abbrev Transitions := List (String × List String)

namespace Transitions

/-- `transitions.setdefault(stage_id, set())`. -/
def setdefault (transitions : Transitions) (stageId : String) : Transitions :=
  if stageId ∈ transitions.map Prod.fst then transitions else transitions ++ [(stageId, [])]

/-- `transitions.setdefault(source, set()).add(target)`. -/
def add (transitions : Transitions) (source target : String) : Transitions :=
  (transitions.setdefault source).map fun transition =>
    if transition.1 = source then (transition.1, transition.2.insert target) else transition

/-- `transitions.get(stage_id, set())`. -/
def targetsOf (transitions : Transitions) (stageId : String) : List String :=
  (transitions.lookup stageId).getD []

end Transitions

structure CTSBudget where
  l0RawTokens : Int
  l1SummaryTokens : Int
  l2IndexTokens : Int

def CTSBudget.totalTokens (budget : CTSBudget) : Int :=
  budget.l0RawTokens + budget.l1SummaryTokens + budget.l2IndexTokens

structure ValidationReport where
  isValid : Bool
  unreachableStages : List String := []
  deadEndStages : List String := []
  terminalUnreachableStages : List String := []
  incompleteGates : List String := []
  budgetViolations : List String := []

namespace StageGraph

/-- `StageGraph()`. -/
def new : StageGraph := ⟨[], []⟩

variable (graph : StageGraph)

def addEdge (source target : String) : StageGraph :=
  { graph with
    transitions := Transitions.setdefault (Transitions.add graph.transitions source target) target }

def validateReachabilityFrom (initialStage : String) : List String :=
  if graph.transitions = [] then []
  else if initialStage ∉ graph.stages then sorted graph.stages
  else
    let visited := Search.explore graph.successors
      (1 + Search.weight graph.successors graph.stages []) [initialStage] []
    sorted (graph.stages.filter fun stageId => decide (stageId ∉ visited))

/-- The reverse adjacency of `validate_terminal_reachability`. -/
def reverse : Transitions :=
  graph.transitions.foldl
    (fun reverse transition =>
      transition.2.foldl (fun reverse target =>
        Transitions.add reverse target transition.1) reverse)
    (graph.stages.map fun stageId => (stageId, []))

def validateTerminalReachability (terminalStages : List String) : List String :=
  if graph.transitions = [] then []
  else
    let queue := terminalStages.filter fun stageId => decide (stageId ∈ graph.stages)
    let predecessors := Transitions.targetsOf graph.reverse
    let canReachTerminal := Search.explore predecessors
      (queue.length + Search.weight predecessors (graph.reverse.map Prod.fst) []) queue []
    sorted (graph.stages.filter fun stageId => decide (stageId ∉ canReachTerminal))

/-- `validate_gate_completeness`, for the keys of `gate_stages`. -/
def validateGateCompleteness (gateStages : List String) : List String :=
  (sorted gateStages).filter fun stageId => decide ((graph.successors stageId).length < 2)

def validateCtsBudget (budget : CTSBudget) : List String :=
  let check (name : String) (tokens : Int) : List String :=
    if tokens ≤ 0 then [s!"{name} must be positive, got {tokens}"] else []
  check "l0_raw_tokens" budget.l0RawTokens ++ check "l1_summary_tokens" budget.l1SummaryTokens ++
    check "l2_index_tokens" budget.l2IndexTokens ++ check "total_tokens" budget.totalTokens

def validateNoDeadEnds (terminalStages : List String) : List String :=
  sorted ((graph.transitions.filter fun transition =>
    decide (transition.1 ∉ terminalStages ∧ transition.2 = [])).map Prod.fst)

/-- `validate_all`; without gates or a budget there is nothing to check of them. -/
def validateAll (initialStage : String) (terminalStages : List String)
    (gateStages : List String := []) (budget : Option CTSBudget := none) : ValidationReport :=
  let unreachable := graph.validateReachabilityFrom initialStage
  let deadEnds := graph.validateNoDeadEnds terminalStages
  let terminalUnreachable := graph.validateTerminalReachability terminalStages
  let incompleteGates := graph.validateGateCompleteness gateStages
  let budgetViolations := (budget.map validateCtsBudget).getD []
  { isValid := decide (unreachable = [] ∧ deadEnds = [] ∧ terminalUnreachable = [] ∧
      incompleteGates = [] ∧ budgetViolations = [])
    unreachableStages := unreachable
    deadEndStages := deadEnds
    terminalUnreachableStages := terminalUnreachable
    incompleteGates := incompleteGates
    budgetViolations := budgetViolations }

/-- `trace_order(start_stage)`. -/
def traceOrderFrom (startStage : String) : List String :=
  if startStage ∉ graph.stages then []
  else Search.explore graph.successors
    (1 + Search.weight graph.successors graph.stages []) [startStage] []

/-- The graph that calls of `add_edge` build. -/
def build (edges : List (String × String)) : StageGraph :=
  edges.foldl (fun graph edge => graph.addEdge edge.1 edge.2) new

end StageGraph

/-! ## Transitions -/

namespace Transitions

variable {transitions : Transitions} {source target stageId other : String}

def Keyed (transitions : Transitions) : Prop := (transitions.map Prod.fst).Nodup

theorem lookup_cons (name : String) (targets : List String) (rest : Transitions)
    (stageId : String) : List.lookup stageId ((name, targets) :: rest) =
      if stageId = name then some targets else List.lookup stageId rest := by
  rw [List.lookup_cons]
  by_cases heq : stageId = name
  · simp [heq]
  · simp [heq, beq_false_of_ne heq]

theorem lookup_isSome_iff (transitions : Transitions) (stageId : String) :
    (transitions.lookup stageId).isSome ↔ stageId ∈ transitions.map Prod.fst := by
  induction transitions with
  | nil => simp
  | cons transition rest ih =>
    obtain ⟨name, targets⟩ := transition
    rw [lookup_cons, map_cons, mem_cons, ← ih]
    by_cases heq : stageId = name
    · simp [heq]
    · simp [heq]

theorem lookup_eq_some_iff (h : transitions.Keyed) {targets : List String} :
    transitions.lookup stageId = some targets ↔ (stageId, targets) ∈ transitions := by
  induction transitions with
  | nil => simp
  | cons transition rest ih =>
    obtain ⟨name, others⟩ := transition
    obtain ⟨hnew, hrest⟩ := nodup_cons.mp h
    rw [lookup_cons, mem_cons, ← ih hrest, Prod.mk.injEq]
    by_cases heq : stageId = name
    · have hnone : ¬ (List.lookup stageId rest).isSome := by
        rwa [lookup_isSome_iff, heq]
      rw [Option.not_isSome_iff_eq_none] at hnone
      rw [if_pos heq, hnone, Option.some.injEq]
      simp [heq, eq_comm]
    · simp [heq]

theorem mem_targetsOf_iff (h : transitions.Keyed) : other ∈ transitions.targetsOf stageId ↔
    ∃ transition ∈ transitions, transition.1 = stageId ∧ other ∈ transition.2 := by
  rw [targetsOf]
  cases hlookup : transitions.lookup stageId with
  | some targets =>
    have hmem := (lookup_eq_some_iff h).mp hlookup
    constructor
    · intro hother
      exact ⟨_, hmem, rfl, hother⟩
    · rintro ⟨⟨stageId, others⟩, hothers, rfl, hother⟩
      have heq := (lookup_eq_some_iff h).mpr hothers
      rw [hlookup] at heq
      obtain rfl := Option.some.inj heq
      exact hother
  | none =>
    have hnew : stageId ∉ transitions.map Prod.fst := by
      rw [← lookup_isSome_iff, hlookup]
      simp
    refine iff_of_false (by simp) ?_
    rintro ⟨transition, hmem, rfl, -⟩
    exact hnew (mem_map_of_mem hmem)

theorem targetsOf_eq_nil (h : stageId ∉ transitions.map Prod.fst) :
    transitions.targetsOf stageId = [] := by
  rw [← lookup_isSome_iff, Option.not_isSome_iff_eq_none] at h
  rw [targetsOf, h, Option.getD_none]

theorem map_fst_setdefault (transitions : Transitions) (stageId : String) :
    (transitions.setdefault stageId).map Prod.fst =
      if stageId ∈ transitions.map Prod.fst then transitions.map Prod.fst
      else transitions.map Prod.fst ++ [stageId] := by
  rw [setdefault]
  split <;> simp

theorem mem_setdefault_iff : other ∈ (transitions.setdefault stageId).map Prod.fst ↔
    other ∈ transitions.map Prod.fst ∨ other = stageId := by
  rw [map_fst_setdefault]
  split
  · rename_i hmem
    exact ⟨.inl, fun h => h.elim id fun heq => heq ▸ hmem⟩
  · simp

theorem map_fst_add (transitions : Transitions) (source target : String) :
    (transitions.add source target).map Prod.fst =
      (transitions.setdefault source).map Prod.fst := by
  rw [add, map_map]
  refine map_congr_left fun transition _ => ?_
  simp only [Function.comp_apply]
  split <;> rfl

theorem Keyed.setdefault (h : transitions.Keyed) (stageId : String) :
    (transitions.setdefault stageId).Keyed := by
  rw [Keyed, map_fst_setdefault]
  split
  · exact h
  · rename_i hnew
    exact List.Nodup.append h (nodup_singleton stageId) (by simpa using hnew)

theorem Keyed.add (h : transitions.Keyed) (source target : String) :
    (transitions.add source target).Keyed := by
  rw [Keyed, map_fst_add]
  exact h.setdefault source

theorem targetsOf_setdefault (transitions : Transitions) (stageId other : String) :
    (transitions.setdefault stageId).targetsOf other = transitions.targetsOf other := by
  rw [setdefault]
  split
  · rfl
  · rw [targetsOf, targetsOf, lookup_append]
    cases transitions.lookup other with
    | some targets => simp
    | none =>
      by_cases heq : other = stageId
      · simp [heq]
      · simp [List.lookup_cons, beq_false_of_ne heq]

theorem mem_targetsOf_add : other ∈ (transitions.add source target).targetsOf stageId ↔
    other ∈ transitions.targetsOf stageId ∨ stageId = source ∧ other = target := by
  have hlookup (transitions : Transitions) : (transitions.map fun transition =>
        if transition.1 = source then (transition.1, transition.2.insert target)
        else transition).lookup stageId =
      (transitions.lookup stageId).map fun targets =>
        if stageId = source then targets.insert target else targets := by
    induction transitions with
    | nil => rfl
    | cons transition rest ih =>
      obtain ⟨name, targets⟩ := transition
      rw [map_cons, lookup_cons]
      by_cases hsource : name = source
      · rw [if_pos hsource, lookup_cons, ih]
        by_cases heq : stageId = name
        · simp [heq, hsource]
        · simp [heq]
      · rw [if_neg hsource, lookup_cons, ih]
        by_cases heq : stageId = name
        · simp [heq, hsource]
        · simp [heq]
  rw [← targetsOf_setdefault transitions source, targetsOf, targetsOf, add, hlookup]
  by_cases heq : stageId = source
  · have hsome : ((transitions.setdefault source).lookup stageId).isSome := by
      rw [lookup_isSome_iff, mem_setdefault_iff]
      exact .inr heq
    obtain ⟨targets, htargets⟩ := Option.isSome_iff_exists.mp hsome
    rw [htargets]
    simp [heq, or_comm]
  · simp [heq]

theorem mem_targetsOf_foldl_add (targets : List String) (transitions : Transitions)
    (source : String) :
    other ∈ (targets.foldl (fun reverse target => Transitions.add reverse target source)
      transitions).targetsOf stageId ↔
        other ∈ transitions.targetsOf stageId ∨ stageId ∈ targets ∧ other = source := by
  induction targets generalizing transitions with
  | nil => simp
  | cons target rest ih =>
    rw [foldl_cons, ih, mem_targetsOf_add, mem_cons]
    tauto

end Transitions

namespace StageGraph

variable {graph : StageGraph} {edges : List (String × String)} {stageId other : String}

/-! ## The graph that is built -/

theorem mem_successors_iff :
    other ∈ graph.successors stageId ↔ other ∈ Transitions.targetsOf graph.transitions stageId := by
  rw [successors, mem_sorted, Transitions.targetsOf]

/-- The graph has these edges. -/
structure HasEdges (edges : List (String × String)) (graph : StageGraph) : Prop where
  keyed : Transitions.Keyed graph.transitions
  stages : ∀ stageId, stageId ∈ graph.stages ↔ ∃ edge ∈ edges, stageId = edge.1 ∨ stageId = edge.2
  successors : ∀ stageId other, other ∈ graph.successors stageId ↔ Search.Linked edges stageId other

theorem HasEdges.addEdge (h : graph.HasEdges edges) (source target : String) :
    (graph.addEdge source target).HasEdges (edges ++ [(source, target)]) where
  keyed := (h.keyed.add source target).setdefault target
  stages name := by
    have hstages : name ∈ (graph.addEdge source target).stages ↔
        name ∈ graph.stages ∨ name = source ∨ name = target := by
      rw [StageGraph.stages, StageGraph.addEdge, Transitions.mem_setdefault_iff,
        Transitions.map_fst_add, Transitions.mem_setdefault_iff, or_assoc]
      rfl
    rw [hstages, h.stages]
    constructor
    · rintro (⟨edge, hedge, hname⟩ | hname)
      · exact ⟨edge, mem_append_left _ hedge, hname⟩
      · exact ⟨(source, target), by simp, hname⟩
    · rintro ⟨edge, hedge, hname⟩
      rcases mem_append.mp hedge with hedge | hedge
      · exact .inl ⟨edge, hedge, hname⟩
      · rw [mem_singleton] at hedge
        subst hedge
        exact .inr hname
  successors name other := by
    rw [mem_successors_iff, StageGraph.addEdge, Transitions.targetsOf_setdefault,
      Transitions.mem_targetsOf_add, ← mem_successors_iff, h.successors]
    simp [Search.Linked]

theorem hasEdges_build (edges : List (String × String)) : (build edges).HasEdges edges := by
  induction edges using List.reverseRecOn with
  | nil =>
    refine ⟨nodup_nil, by simp [build, new, stages], fun stageId other => ?_⟩
    simp [mem_successors_iff, build, new, Transitions.targetsOf, Search.Linked]
  | append_singleton edges edge ih =>
    rw [build, foldl_append]
    exact ih.addEdge edge.1 edge.2

section

variable (h : graph.HasEdges edges)
include h

theorem HasEdges.mem_stages (hedge : Search.Linked edges stageId other) :
    stageId ∈ graph.stages ∧ other ∈ graph.stages :=
  ⟨(h.stages stageId).mpr ⟨_, hedge, .inl rfl⟩, (h.stages other).mpr ⟨_, hedge, .inr rfl⟩⟩

theorem HasEdges.edge_eq : Search.Edge graph.successors = Search.Linked edges := by
  funext x y
  exact propext (h.successors x y)

theorem HasEdges.mem_of_reach (hreach : Relation.ReflTransGen (Search.Linked edges) stageId other)
    (hstage : stageId ∈ graph.stages) : other ∈ graph.stages := by
  induction hreach with
  | refl => exact hstage
  | tail _ hedge _ => exact (h.mem_stages hedge).2

theorem HasEdges.mem_reverse_iff :
    other ∈ Transitions.targetsOf graph.reverse stageId ↔ Search.Linked edges other stageId := by
  have hfold (transitions reverse : Transitions) : other ∈ Transitions.targetsOf (transitions.foldl
        (fun reverse transition => transition.2.foldl
          (fun reverse target => Transitions.add reverse target transition.1) reverse)
        reverse) stageId ↔
      other ∈ Transitions.targetsOf reverse stageId ∨
        ∃ transition ∈ transitions, transition.1 = other ∧ stageId ∈ transition.2 := by
    induction transitions generalizing reverse with
    | nil => simp
    | cons transition rest ih =>
      rw [foldl_cons, ih, Transitions.mem_targetsOf_foldl_add, exists_mem_cons_iff,
        or_assoc, eq_comm (a := other), and_comm]
  have hempty (stages : List String) :
      Transitions.targetsOf (stages.map fun stageId => (stageId, [])) stageId = [] := by
    induction stages with
    | nil => simp [Transitions.targetsOf]
    | cons name rest ih =>
      rw [Transitions.targetsOf, map_cons, Transitions.lookup_cons]
      split
      · rfl
      · exact ih
  rw [reverse, hfold, hempty, ← h.successors, mem_successors_iff,
    Transitions.mem_targetsOf_iff h.keyed]
  simp

end

/-! ## The reports -/

/-- Exactly the stages with `P`, in order. -/
def Lists (graph : StageGraph) (P : String → Prop) (reported : List String) : Prop :=
  reported.Pairwise (· < ·) ∧ ∀ stageId, stageId ∈ reported ↔ stageId ∈ graph.stages ∧ P stageId

theorem pairwise_sorted (items : List String) : (sorted items).Pairwise (· < ·) := by
  have hle : (sorted items).Pairwise (· ≤ ·) := pairwise_insertionSort _ _
  have hne : (sorted items).Nodup := by
    rw [sorted, (perm_insertionSort _ _).nodup_iff]
    exact items.nodup_dedup
  exact (hle.and hne).imp fun h => lt_of_le_of_ne h.1 h.2

theorem Lists.eq_nil_iff {P : String → Prop} {reported : List String}
    (h : graph.Lists P reported) : reported = [] ↔ ∀ stageId ∈ graph.stages, ¬ P stageId := by
  rw [eq_nil_iff_forall_not_mem]
  refine forall_congr' fun stageId => ?_
  rw [h.2, not_and]

section

variable (h : graph.HasEdges edges)
include h

theorem HasEdges.lists_unreachable {initialStage : String}
    (hinitial : initialStage ∈ graph.stages) :
    graph.Lists (fun stageId => ¬ Relation.ReflTransGen (Search.Linked edges) initialStage stageId)
      (graph.validateReachabilityFrom initialStage) := by
  have hne : graph.transitions ≠ [] := by
    intro hnil
    simp [StageGraph.stages, hnil] at hinitial
  rw [validateReachabilityFrom, if_neg hne, if_neg (not_not.mpr hinitial)]
  refine ⟨pairwise_sorted _, fun stageId => ?_⟩
  rw [mem_sorted, mem_filter, decide_eq_true_eq,
    Search.mem_explore_iff (fun _ hstage => successors_eq_nil hstage) (Nat.le_refl _), h.edge_eq]

theorem HasEdges.lists_terminalUnreachable (terminalStages : List String) : graph.Lists
      (fun stageId => ¬ ∃ terminal ∈ terminalStages, terminal ∈ graph.stages ∧
        Relation.ReflTransGen (Search.Linked edges) stageId terminal)
      (graph.validateTerminalReachability terminalStages) := by
  rw [validateTerminalReachability]
  split
  · rename_i hnil
    exact ⟨List.Pairwise.nil, by simp [StageGraph.stages, hnil]⟩
  · have hswap : Search.Edge (Transitions.targetsOf graph.reverse) =
        Function.swap (Search.Linked edges) := by
      funext x y
      exact propext h.mem_reverse_iff
    refine ⟨pairwise_sorted _, fun stageId => ?_⟩
    rw [mem_sorted, mem_filter, decide_eq_true_eq, Search.mem_explore_iff_exists
      (fun _ hstage => Transitions.targetsOf_eq_nil hstage) (Nat.le_refl _), hswap]
    simp only [mem_filter, decide_eq_true_eq, and_assoc, Relation.reflTransGen_swap]

theorem HasEdges.lists_deadEnds (terminalStages : List String) :
    graph.Lists
      (fun stageId => stageId ∉ terminalStages ∧ ∀ other, ¬ Search.Linked edges stageId other)
      (graph.validateNoDeadEnds terminalStages) := by
  refine ⟨pairwise_sorted _, fun stageId => ?_⟩
  rw [validateNoDeadEnds, mem_sorted]
  simp only [mem_map, mem_filter, decide_eq_true_eq]
  have hnone : (∀ other, ¬ Search.Linked edges stageId other) ↔
      Transitions.targetsOf graph.transitions stageId = [] := by
    rw [eq_nil_iff_forall_not_mem]
    refine forall_congr' fun other => ?_
    rw [← h.successors, mem_successors_iff]
  rw [hnone]
  constructor
  · rintro ⟨⟨name, targets⟩, ⟨hmem, hover, hnil⟩, rfl⟩
    have hlookup := (Transitions.lookup_eq_some_iff h.keyed).mpr hmem
    refine ⟨mem_map_of_mem hmem, hover, ?_⟩
    rw [Transitions.targetsOf, hlookup]
    exact hnil
  · rintro ⟨hstage, hover, hnil⟩
    obtain ⟨targets, htargets⟩ := Option.isSome_iff_exists.mp
      ((Transitions.lookup_isSome_iff graph.transitions stageId).mpr hstage)
    rw [Transitions.targetsOf, htargets] at hnil
    exact ⟨(stageId, targets),
      ⟨(Transitions.lookup_eq_some_iff h.keyed).mp htargets, hover, hnil⟩, rfl⟩

theorem HasEdges.mem_traceOrderFrom_iff (startStage : String) :
    stageId ∈ graph.traceOrderFrom startStage ↔
      stageId ∈ graph.stages ∧ Relation.ReflTransGen (Search.Linked edges) startStage stageId := by
  rw [traceOrderFrom]
  split
  · rename_i hstart
    refine iff_of_false not_mem_nil fun hreach => hstart ?_
    rcases Relation.ReflTransGen.cases_head hreach.2 with rfl | ⟨other, hedge, -⟩
    · exact hreach.1
    · exact (h.mem_stages hedge).1
  · rename_i hstart
    rw [Search.mem_explore_iff (fun _ hstage => successors_eq_nil hstage) (Nat.le_refl _),
      h.edge_eq]
    exact ⟨fun hreach => ⟨h.mem_of_reach hreach (not_not.mp hstart), hreach⟩,
      fun hreach => hreach.2⟩

theorem HasEdges.nearerFirst_traceOrderFrom (startStage : String) :
    (graph.traceOrderFrom startStage).Nodup ∧
      (graph.traceOrderFrom startStage).Pairwise fun x y => ∀ m n,
        Search.AtDistance (Search.Linked edges) startStage m x →
        Search.AtDistance (Search.Linked edges) startStage n y → m ≤ n := by
  rw [traceOrderFrom]
  split
  · exact ⟨nodup_nil, List.Pairwise.nil⟩
  · rw [← h.edge_eq]
    exact ⟨Search.nodup_explore nodup_nil, Search.nearerFirst_explore _ _ _⟩

end

/-- The report on a graph that is built: it is valid exactly where every stage is reached from
the initial one and reaches a terminal one, its lists are the stages that break a rule, and a
traversal lists what it reaches once, the nearer stages first. -/
theorem validation_is_exact (edges : List (String × String)) (initialStage : String)
    (terminalStages : List String) (hinitial : initialStage ∈ (build edges).stages) :
    let graph := build edges
    let report := graph.validateAll initialStage terminalStages
    let Reaches := Relation.ReflTransGen (Search.Linked edges)
    let ReachesTerminal (stageId : String) : Prop :=
      ∃ terminal ∈ terminalStages, terminal ∈ graph.stages ∧ Reaches stageId terminal
    (report.isValid = true ↔ (∀ stageId ∈ graph.stages, Reaches initialStage stageId) ∧
        ∀ stageId ∈ graph.stages, ReachesTerminal stageId) ∧
    graph.Lists (fun stageId => ¬ Reaches initialStage stageId) report.unreachableStages ∧
    graph.Lists (fun stageId => ¬ ReachesTerminal stageId) report.terminalUnreachableStages ∧
    graph.Lists (fun stageId => stageId ∉ terminalStages ∧
      ∀ other, ¬ Search.Linked edges stageId other) report.deadEndStages ∧
    report.incompleteGates = [] ∧ report.budgetViolations = [] ∧
    ∀ startStage, (graph.traceOrderFrom startStage).Nodup ∧
      (∀ stageId, stageId ∈ graph.traceOrderFrom startStage ↔
        stageId ∈ graph.stages ∧ Reaches startStage stageId) ∧
      (graph.traceOrderFrom startStage).Pairwise fun x y => ∀ m n,
        Search.AtDistance (Search.Linked edges) startStage m x →
        Search.AtDistance (Search.Linked edges) startStage n y → m ≤ n := by
  intro graph report Reaches ReachesTerminal
  have h : graph.HasEdges edges := hasEdges_build edges
  have hunreachable := h.lists_unreachable hinitial
  have hover := h.lists_terminalUnreachable terminalStages
  have hdead := h.lists_deadEnds terminalStages
  have hgates : graph.validateGateCompleteness [] = [] := by
    simp [validateGateCompleteness, sorted]
  refine ⟨?_, hunreachable, hover, hdead, hgates, rfl, fun startStage =>
    ⟨(h.nearerFirst_traceOrderFrom startStage).1, fun stageId =>
      h.mem_traceOrderFrom_iff startStage,
      (h.nearerFirst_traceOrderFrom startStage).2⟩⟩
  have hvalid : report.isValid = true ↔ graph.validateReachabilityFrom initialStage = [] ∧
      graph.validateNoDeadEnds terminalStages = [] ∧
        graph.validateTerminalReachability terminalStages = [] := by
    simp [report, validateAll, hgates]
  rw [hvalid, hunreachable.eq_nil_iff, hdead.eq_nil_iff, hover.eq_nil_iff]
  simp only [not_not]
  refine and_congr_right fun _ => ⟨fun hreport => hreport.2, fun hreaches => ⟨?_, hreaches⟩⟩
  rintro stageId hstage ⟨hnot, hnone⟩
  obtain ⟨terminal, hmem, -, hreach⟩ := hreaches stageId hstage
  rcases Relation.ReflTransGen.cases_head hreach with rfl | ⟨other, hedge, -⟩
  · exact hnot hmem
  · exact hnone other hedge

def cycleAndIsland : List (String × String) :=
  [("plan", "act"), ("act", "plan"), ("act", "done"), ("island", "done")]

theorem validation_is_exact_cycleAndIsland : (build cycleAndIsland).Lists
      (fun stageId => ¬ Relation.ReflTransGen (Search.Linked cycleAndIsland) "plan" stageId)
      ["island"] :=
  (validation_is_exact cycleAndIsland "plan" ["done", "absent"] (by decide)).2.1

end StageGraph

end HiAgent.Trajectory
