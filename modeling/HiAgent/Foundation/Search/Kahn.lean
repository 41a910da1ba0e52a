/-
  Foundation/Search/Kahn.lean --- sorting by the count of incoming edges.

  For every node the edges are counted that lead to it from nodes not yet taken. A node whose
  count falls to zero is free; taking free nodes lowers the counts of the nodes behind them.
-/
import HiAgent.Foundation.Search.Tree
import Mathlib.Data.Fintype.EquivFin
import Mathlib.Data.Fintype.Sets

namespace HiAgent.Foundation.Search

open List

variable {α : Type}

/-! ## Walks and orders -/

def WalkTo (edges : List (α × α)) (length : Nat) (node : α) : Prop :=
  ∃ start, Walk (Linked edges) start length node

def AtLevel (edges : List (α × α)) (level : Nat) (node : α) : Prop :=
  WalkTo edges level node ∧ ∀ length, WalkTo edges length node → length ≤ level

/-- Every node stands behind the nodes it has an edge from, `seen` in front. -/
def InOrder (edges : List (α × α)) : List α → List α → Prop
  | _, [] => True
  | seen, node :: rest => (∀ x, Linked edges x node → x ∈ seen) ∧
    InOrder edges (seen ++ [node]) rest

variable {edges : List (α × α)}

theorem walkTo_zero (node : α) : WalkTo edges 0 node := ⟨node, .start⟩

variable {node : α}

theorem walkTo_succ_iff {length : Nat} :
    WalkTo edges (length + 1) node ↔ ∃ x, Linked edges x node ∧ WalkTo edges length x := by
  constructor
  · rintro ⟨start, hwalk⟩
    cases hwalk with
    | step hwalk hedge => exact ⟨_, hedge, start, hwalk⟩
  · rintro ⟨x, hedge, start, hwalk⟩
    exact ⟨start, hwalk.step hedge⟩

theorem WalkTo.of_succ {length : Nat} (h : WalkTo edges (length + 1) node) :
    WalkTo edges length node := by
  induction length generalizing node with
  | zero => exact walkTo_zero node
  | succ length ih =>
    obtain ⟨x, hedge, hwalk⟩ := walkTo_succ_iff.mp h
    exact walkTo_succ_iff.mpr ⟨x, hedge, ih hwalk⟩

theorem WalkTo.of_le {length shorter : Nat} (h : WalkTo edges length node)
    (hle : shorter ≤ length) : WalkTo edges shorter node := by
  induction length, hle using Nat.le_induction with
  | base => exact h
  | succ length hle ih => exact ih h.of_succ

theorem atLevel_iff {level : Nat} :
    AtLevel edges level node ↔ WalkTo edges level node ∧ ¬ WalkTo edges (level + 1) node := by
  refine and_congr_right fun _ => ⟨fun h hlonger => ?_, fun h length hwalk => ?_⟩
  · exact Nat.not_succ_le_self level (h _ hlonger)
  · by_contra hlt
    exact h (hwalk.of_le (by omega))

theorem inOrder_append {seen first second : List α} : InOrder edges seen (first ++ second) ↔
      InOrder edges seen first ∧ InOrder edges (seen ++ first) second := by
  induction first generalizing seen with
  | nil => simp [InOrder]
  | cons node rest ih => simp [InOrder, ih, and_assoc]

theorem inOrder_of_forall {seen nodes : List α}
    (h : ∀ node ∈ nodes, ∀ x, Linked edges x node → x ∈ seen) : InOrder edges seen nodes := by
  induction nodes generalizing seen with
  | nil => trivial
  | cons node rest ih =>
    refine ⟨h node mem_cons_self, ih fun other hother x hedge => ?_⟩
    exact mem_append_left _ (h other (mem_cons_of_mem node hother) x hedge)

theorem exists_cycle {left : List α} (hne : left ≠ [])
    (hsource : ∀ y ∈ left, ∃ x ∈ left, Linked edges x y) :
    ∃ x, Relation.TransGen (Linked edges) x x := by
  classical
  by_contra hnone
  rw [not_exists] at hnone
  have htrans : IsTrans {node // node ∈ left}
      fun x y => Relation.TransGen (Linked edges) x.1 y.1 :=
    ⟨fun _ _ _ => Relation.TransGen.trans⟩
  have hirrefl : Std.Irrefl (α := {node // node ∈ left})
      fun x y => Relation.TransGen (Linked edges) x.1 y.1 := ⟨fun node => hnone node.1⟩
  have hwf : WellFounded fun x y : {node // node ∈ left} =>
      Relation.TransGen (Linked edges) x.1 y.1 := Finite.wellFounded_of_trans_of_irrefl _
  obtain ⟨node, hnode⟩ := exists_mem_of_ne_nil left hne
  refine hwf.induction (C := fun _ => False) ⟨node, hnode⟩ fun y ih => ?_
  obtain ⟨x, hx, hedge⟩ := hsource y.1 y.2
  exact ih ⟨x, hx⟩ (.single hedge)

/-! ## Counts -/

variable [DecidableEq α]

def targets (edges : List (α × α)) (node : α) : List α :=
  (edges.filter fun edge => decide (edge.1 = node)).map Prod.snd

def owed (edges : List (α × α)) (taken : List α) (node : α) : Nat :=
  edges.countP fun edge => decide (edge.2 = node ∧ edge.1 ∉ taken)

def release (progress : Dict α Int × List α) (target : α) : Dict α Int × List α :=
  let count := progress.1.getD target 0 - 1
  (progress.1.set target count, if count = 0 then progress.2 ++ [target] else progress.2)

def claim (counts : Dict α Int) (target : α) : Dict α Int :=
  counts.set target (counts.getD target 0 + 1)

theorem mem_targets_iff {x y : α} : y ∈ targets edges x ↔ Linked edges x y := by
  simp [targets, Linked]

theorem owed_eq_zero_iff {taken : List α} :
    owed edges taken node = 0 ↔ ∀ x, Linked edges x node → x ∈ taken := by
  rw [owed, countP_eq_zero]
  constructor
  · intro h x hedge
    simpa using h (x, node) hedge
  · rintro h ⟨x, y⟩ hedge
    simp only [decide_eq_true_eq, not_and, not_not]
    rintro rfl
    exact h x hedge

theorem getD_foldl_claim (claimed : List α) (counts : Dict α Int) (node : α) :
    (claimed.foldl claim counts).getD node 0 = counts.getD node 0 + claimed.count node := by
  induction claimed generalizing counts with
  | nil => simp
  | cons target rest ih =>
    rw [foldl_cons, ih, claim, Dict.getD_set, count_cons]
    by_cases heq : node = target
    · subst heq
      simp only [if_true, beq_self_eq_true]
      omega
    · simp [heq, Ne.symm heq]

theorem keys_foldl_claim {claimed : List α} {counts : Dict α Int}
    (h : ∀ node ∈ claimed, node ∈ counts.keys) :
    (claimed.foldl claim counts).keys = counts.keys := by
  induction claimed generalizing counts with
  | nil => simp
  | cons target rest ih =>
    have hkeys : (claim counts target).keys = counts.keys :=
      Dict.keys_set_of_mem (h target mem_cons_self) _
    rw [foldl_cons, ih fun node hnode => by
      rw [hkeys]
      exact h node (mem_cons_of_mem target hnode), hkeys]

theorem owed_nil (node : α) : owed edges [] node = (edges.map Prod.snd).count node := by
  rw [owed, List.count, countP_map]
  refine countP_congr fun edge _ => ?_
  simp

theorem owed_concat {taken : List α} (hnew : node ∉ taken) (other : α) :
    owed edges taken other =
      owed edges (taken ++ [node]) other + (targets edges node).count other := by
  rw [owed, owed, targets]
  induction edges with
  | nil => rfl
  | cons edge rest ih =>
    by_cases hsource : edge.1 = node
    · have hlater : edge.1 ∈ taken ++ [node] := by simp [hsource]
      have hbefore : edge.1 ∉ taken := by rwa [hsource]
      by_cases htarget : edge.2 = other
      · simp only [countP_cons, filter_cons, hsource, htarget, hnew, ih,
          decide_true, if_true, map_cons, count_cons, beq_self_eq_true,
          not_false_eq_true, and_self, mem_append, mem_singleton, or_true,
          not_true, and_false, decide_false, Bool.false_eq_true, if_false]
        omega
      · simp only [countP_cons, filter_cons, hsource, htarget, ih, decide_true,
          if_true, map_cons, count_cons, beq_iff_eq, false_and, decide_false,
          Bool.false_eq_true, if_false]
        omega
    · have hsame : edge.1 ∈ taken ++ [node] ↔ edge.1 ∈ taken := by simp [hsource]
      simp only [countP_cons, filter_cons, hsource, ih, decide_false,
        Bool.false_eq_true, if_false, hsame]
      omega

theorem owed_append {batch : List α} {taken : List α} (hnodup : (taken ++ batch).Nodup)
    (other : α) : owed edges taken other =
      owed edges (taken ++ batch) other + (batch.flatMap (targets edges)).count other := by
  induction batch generalizing taken with
  | nil => simp
  | cons node rest ih =>
    have hnew : node ∉ taken := by
      intro hmem
      exact (List.nodup_append.mp hnodup).2.2 node hmem node mem_cons_self rfl
    have hrest : ((taken ++ [node]) ++ rest).Nodup := by simpa using hnodup
    rw [owed_concat hnew, ih hrest, flatMap_cons, count_append]
    simp only [append_assoc, singleton_append]
    omega

/-- What the release of edges makes of the counts and of the list of free nodes. -/
structure Released (released : List α) (before after : Dict α Int × List α) : Prop where
  counts : ∀ node, after.1.getD node 0 = before.1.getD node 0 - released.count node
  freed : ∃ freed : List α, after.2 = before.2 ++ freed ∧ freed.Nodup ∧
    ∀ node, node ∈ freed ↔ node ∈ released ∧ before.1.getD node 0 = released.count node

theorem released_foldl (released : List α) (progress : Dict α Int × List α)
    (h : ∀ node ∈ released, (released.count node : Int) ≤ progress.1.getD node 0) :
    Released released progress (released.foldl release progress) := by
  induction released generalizing progress with
  | nil => exact ⟨by simp, [], by simp⟩
  | cons target rest ih =>
    have hcount (node : α) : ((target :: rest).count node : Int) =
        rest.count node + if node = target then 1 else 0 := by
      by_cases heq : node = target
      · simp [heq]
      · simp [heq, count_cons_of_ne (Ne.symm heq)]
    have hone (node : α) : (release progress target).1.getD node 0 =
        progress.1.getD node 0 - if node = target then 1 else 0 := by
      rw [release, Dict.getD_set]
      split
      · rename_i heq
        rw [heq]
      · omega
    obtain ⟨hcounts, freed, hfreed, hnodup, hmem⟩ := ih (release progress target)
      fun node hnode => by
        have hle := h node (mem_cons_of_mem target hnode)
        rw [hcount] at hle
        rw [hone]
        omega
    rw [foldl_cons]
    refine ⟨fun node => ?_, (if progress.1.getD target 0 - 1 = 0 then [target] else []) ++ freed,
      ?_, ?_, fun node => ?_⟩
    · rw [hcounts, hone, hcount]
      omega
    · rw [hfreed, release]
      split
      · simp
      · simp
    · split
      · rename_i hzero
        refine List.nodup_append.mpr ⟨by simp, hnodup, ?_⟩
        intro x hx y hy heq
        rw [mem_singleton] at hx
        subst hx
        obtain ⟨hrest, -⟩ := (hmem y).mp hy
        have hpos := count_pos_iff.mpr (heq ▸ hrest)
        have hle := h x mem_cons_self
        rw [hcount] at hle
        simp only [if_true] at hle
        omega
      · simpa using hnodup
    · have hle := h target mem_cons_self
      have hpos : node ∈ rest ↔ 0 < rest.count node := count_pos_iff.symm
      rw [hcount] at hle
      rw [mem_append, hmem, hone, hcount, mem_cons, hpos]
      by_cases heq : node = target
      · subst heq
        simp only [if_true, true_or, true_and] at hle ⊢
        split
        · exact iff_of_true (.inl (mem_singleton_self node)) (by omega)
        · simp only [not_mem_nil, false_or]
          omega
      · have hnot : node ∉ (if progress.1.getD target 0 - 1 = 0 then [target] else []) := by
          split <;> simp [heq]
        simp [heq, hnot]

/-! ## The order -/

theorem InOrder.idxOf_lt (seen : List α) {nodes : List α} (h : InOrder edges seen nodes)
    (hnodup : (seen ++ nodes).Nodup) {x y : α} (hedge : Linked edges x y) (hy : y ∈ nodes) :
    (seen ++ nodes).idxOf x < (seen ++ nodes).idxOf y := by
  induction nodes generalizing seen with
  | nil => simp at hy
  | cons node rest ih =>
    obtain ⟨hnode, hrest⟩ := h
    by_cases heq : y = node
    · subst heq
      have hx : x ∈ seen := hnode x hedge
      have hout : y ∉ seen := by
        intro hmem
        exact (List.nodup_append.mp hnodup).2.2 y hmem y mem_cons_self rfl
      rw [idxOf_append_of_mem hx, idxOf_append_of_notMem hout]
      have hlt := idxOf_lt_length_of_mem hx
      omega
    · have hmem := (mem_cons.mp hy).resolve_left heq
      have hlist : seen ++ node :: rest = (seen ++ [node]) ++ rest := by simp
      rw [hlist] at hnodup ⊢
      exact ih (seen ++ [node]) hrest hnodup hmem

/-- A graph in order has no cycle. -/
theorem InOrder.acyclic {nodes : List α} (h : InOrder edges [] nodes) (hnodup : nodes.Nodup)
    (hends : ∀ edge ∈ edges, edge.2 ∈ nodes) (x : α) : ¬ Relation.TransGen (Linked edges) x x := by
  have hlt {y z : α} (hpath : Relation.TransGen (Linked edges) y z) :
      nodes.idxOf y < nodes.idxOf z := by
    induction hpath with
    | single hedge => exact h.idxOf_lt [] hnodup hedge (hends _ hedge)
    | tail _ hedge ih =>
      exact Nat.lt_trans ih (h.idxOf_lt [] hnodup hedge (hends _ hedge))
  intro hcycle
  exact Nat.lt_irrefl _ (hlt hcycle)

/-! ## The invariant -/

/-- What holds while free nodes are taken from a queue. -/
structure Sorting (edges : List (α × α)) (nodes : List α) (counts : Dict α Int)
    (queue taken : List α) : Prop where
  counted : ∀ node, counts.getD node 0 = owed edges taken node
  nodup : (taken ++ queue).Nodup
  free : ∀ node, node ∈ taken ++ queue ↔ node ∈ nodes ∧ owed edges taken node = 0
  ordered : InOrder edges [] taken

section Invariant

variable {nodes queue taken : List α} {counts : Dict α Int}

theorem sorting_start (hcounted : ∀ node, counts.getD node 0 = owed edges [] node)
    (hnodup : queue.Nodup) (hqueue : ∀ node, node ∈ queue ↔ node ∈ nodes ∧ counts.getD node 0 = 0) :
    Sorting edges nodes counts queue [] where
  counted := hcounted
  nodup := hnodup
  free node := by
    rw [nil_append, hqueue, hcounted, Int.natCast_eq_zero]
  ordered := trivial

theorem Sorting.take (batch : List α) {released arranged : List α}
    (h : Sorting edges nodes counts (batch ++ queue) taken) (hends : ∀ edge ∈ edges, edge.2 ∈ nodes)
    (hreleased : released.Perm (batch.flatMap (targets edges)))
    (harranged : arranged.Perm (released.foldl release (counts, queue)).2) :
    Sorting edges nodes (released.foldl release (counts, queue)).1 arranged (taken ++ batch) := by
  have hnodup : (taken ++ batch).Nodup :=
    h.nodup.sublist (by rw [← append_assoc]; exact sublist_append_left _ _)
  have howed (node : α) : owed edges taken node =
      owed edges (taken ++ batch) node + released.count node := by
    rw [owed_append hnodup node, hreleased.count_eq]
  obtain ⟨hcounts, freed, hqueue, hfreed, hmem⟩ := released_foldl released (counts, queue)
    fun node _ => by
      have hsum := howed node
      have hcount := h.counted node
      dsimp only
      omega
  rw [hqueue] at harranged
  have hfree (node : α) : node ∈ freed ↔
      node ∈ released ∧ owed edges (taken ++ batch) node = 0 := by
    have hsum := howed node
    have hcount := h.counted node
    rw [hmem]
    refine and_congr_right fun _ => ?_
    dsimp only
    omega
  have hnode {node : α} (hnode : node ∈ released) : node ∈ nodes ∧ owed edges taken node ≠ 0 := by
    have hpos := count_pos_iff.mpr hnode
    have hsum := howed node
    obtain ⟨x, -, hedge⟩ := mem_flatMap.mp (hreleased.mem_iff.mp hnode)
    exact ⟨hends _ (mem_targets_iff.mp hedge), by omega⟩
  have hall (node : α) : node ∈ taken ++ batch ++ arranged ↔
      node ∈ taken ++ (batch ++ queue) ∨ node ∈ freed := by
    simp only [mem_append, harranged.mem_iff]
    tauto
  refine ⟨fun node => ?_, ?_, fun node => ?_, ?_⟩
  · have hsum := howed node
    have hcount := h.counted node
    rw [hcounts]
    dsimp only
    omega
  · have hperm : (taken ++ batch ++ arranged).Perm (taken ++ (batch ++ queue) ++ freed) := by
      simpa using harranged.append_left (taken ++ batch)
    rw [hperm.nodup_iff]
    refine List.nodup_append.mpr ⟨h.nodup, hfreed, fun x hx y hy heq => ?_⟩
    subst heq
    exact (hnode ((hfree x).mp hy).1).2 ((h.free x).mp hx).2
  · rw [hall, h.free, hfree]
    have hsum := howed node
    constructor
    · rintro (⟨hmem, hzero⟩ | ⟨hmem, hzero⟩)
      · exact ⟨hmem, by omega⟩
      · exact ⟨(hnode hmem).1, hzero⟩
    · rintro ⟨hmem, hzero⟩
      by_cases hbefore : owed edges taken node = 0
      · exact .inl ⟨hmem, hbefore⟩
      · exact .inr ⟨count_pos_iff.mp (by omega), hzero⟩
  · rw [inOrder_append]
    refine ⟨h.ordered, inOrder_of_forall fun node hnode x hedge => ?_⟩
    have hzero := ((h.free node).mp (by simp [hnode])).2
    exact owed_eq_zero_iff.mp hzero x hedge

theorem Sorting.subset (h : Sorting edges nodes counts queue taken) : taken ++ queue ⊆ nodes :=
  fun node hnode => ((h.free node).mp hnode).1

theorem Sorting.length_le (h : Sorting edges nodes counts queue taken) :
    taken.length + queue.length ≤ nodes.length := by
  rw [← length_append]
  exact (subperm_of_subset h.nodup h.subset).length_le

/-- The nodes are all taken, or there is a cycle. -/
theorem Sorting.perm_or_cycle (h : Sorting edges nodes counts [] taken) (hnodes : nodes.Nodup)
    (hends : ∀ edge ∈ edges, edge.1 ∈ nodes) :
    taken.Perm nodes ∨ ∃ x, Relation.TransGen (Linked edges) x x := by
  have hfree (node : α) : node ∈ taken ↔ node ∈ nodes ∧ owed edges taken node = 0 := by
    simpa using h.free node
  by_cases hleft : nodes.filter (fun node => decide (node ∉ taken)) = []
  · left
    have htaken : taken.Nodup := by simpa using h.nodup
    rw [perm_ext_iff_of_nodup htaken hnodes]
    intro node
    refine ⟨fun hnode => ((hfree node).mp hnode).1, fun hnode => ?_⟩
    simpa using filter_eq_nil_iff.mp hleft node hnode
  · right
    refine exists_cycle hleft fun y hy => ?_
    simp only [mem_filter, decide_eq_true_eq] at hy ⊢
    have howed : owed edges taken y ≠ 0 := fun hzero => hy.2 ((hfree y).mpr ⟨hy.1, hzero⟩)
    rw [Ne, owed_eq_zero_iff, not_forall] at howed
    obtain ⟨x, hx⟩ := howed
    rw [Classical.not_imp] at hx
    exact ⟨x, ⟨hends _ hx.1, hx.2⟩, hx.1⟩

theorem Sorting.perm_iff (h : Sorting edges nodes counts [] taken) (hnodes : nodes.Nodup)
    (hends : ∀ edge ∈ edges, edge.1 ∈ nodes ∧ edge.2 ∈ nodes) :
    taken.Perm nodes ↔ ¬ ∃ x, Relation.TransGen (Linked edges) x x := by
  constructor
  · rintro hperm ⟨x, hcycle⟩
    have htaken : taken.Nodup := hperm.nodup_iff.mpr hnodes
    exact h.ordered.acyclic htaken
      (fun edge hedge => hperm.mem_iff.mpr (hends edge hedge).2) x hcycle
  · intro hnone
    exact (h.perm_or_cycle hnodes fun edge hedge => (hends edge hedge).1).resolve_right hnone

end Invariant

/-! ## Levels -/

/-- What is taken when a round of levels is over: the nodes that no walk of so many edges
leads to. -/
def Shallow (edges : List (α × α)) (nodes : List α) (round : Nat) (taken : List α) : Prop :=
  ∀ node ∈ nodes, node ∈ taken ↔ ¬ WalkTo edges round node

section Levels

variable {nodes queue taken : List α} {counts : Dict α Int} {round : Nat}

theorem Sorting.mem_queue_iff (h : Sorting edges nodes counts queue taken)
    (hends : ∀ edge ∈ edges, edge.1 ∈ nodes) (hshallow : Shallow edges nodes round taken)
    {node : α} : node ∈ queue ↔ node ∈ nodes ∧ AtLevel edges round node := by
  have howed : owed edges taken node = 0 ↔ ¬ WalkTo edges (round + 1) node := by
    rw [owed_eq_zero_iff, walkTo_succ_iff, not_exists]
    refine forall_congr' fun x => ⟨fun hx hwalk => ?_, fun hx hedge => ?_⟩
    · exact (hshallow x (hends _ hwalk.1)).mp (hx hwalk.1) hwalk.2
    · exact (hshallow x (hends _ hedge)).mpr fun hwalk => hx ⟨hedge, hwalk⟩
  have hfree := h.free node
  rw [mem_append, howed] at hfree
  rw [atLevel_iff]
  constructor
  · intro hnode
    obtain ⟨hmem, hnot⟩ := hfree.mp (.inr hnode)
    refine ⟨hmem, not_not.mp fun hwalk => ?_, hnot⟩
    have htaken := (hshallow node hmem).mpr hwalk
    exact (List.nodup_append.mp h.nodup).2.2 node htaken node hnode rfl
  · rintro ⟨hmem, hwalk, hnot⟩
    refine (hfree.mpr ⟨hmem, hnot⟩).resolve_left fun htaken => ?_
    exact (hshallow node hmem).mp htaken hwalk

theorem Sorting.shallow (h : Sorting edges nodes counts queue taken)
    (hends : ∀ edge ∈ edges, edge.1 ∈ nodes) (hshallow : Shallow edges nodes round taken) :
    Shallow edges nodes (round + 1) (taken ++ queue) := by
  intro node hmem
  rw [mem_append, hshallow node hmem, h.mem_queue_iff hends hshallow, atLevel_iff]
  constructor
  · rintro (hnot | ⟨-, -, hnot⟩)
    · exact fun hwalk => hnot hwalk.of_succ
    · exact hnot
  · intro hnot
    by_cases hwalk : WalkTo edges round node
    · exact .inr ⟨hmem, hwalk, hnot⟩
    · exact .inl hwalk

end Levels

/-! ## The loops -/

/-- `dict.fromkeys(nodes, 0)`, and one more for each of the targets. -/
def inDegrees (nodes targets : List α) : Dict α Int :=
  targets.foldl claim (nodes.foldl (fun counts node => counts.set node 0) Dict.empty)

/-- The free node in front is taken, and the queue is arranged again. -/
def orderLoop (released : α → List α) (arrange : List α → List α) :
    Nat → Dict α Int → List α → List α → List α
  | 0, _, _, taken => taken
  | _ + 1, _, [], taken => taken
  | passes + 1, counts, node :: queue, taken =>
    let progress := (released node).foldl release (counts, queue)
    orderLoop released arrange passes progress.1 (arrange progress.2) (taken ++ [node])

/-- All free nodes are taken at once. -/
def levelLoop (released : α → List α) (arrange : List α → List α) :
    Nat → Dict α Int → List α → List (List α) → List (List α)
  | 0, _, _, levels => levels
  | _ + 1, _, [], levels => levels
  | passes + 1, counts, node :: rest, levels =>
    let progress := ((node :: rest).flatMap released).foldl release (counts, [])
    levelLoop released arrange passes progress.1 (arrange progress.2) (levels ++ [node :: rest])

def Leveled (edges : List (α × α)) (levels : List (List α)) : Prop :=
  ∀ level group, levels[level]? = some group → ∀ node ∈ group, AtLevel edges level node

theorem getD_inDegrees (nodes : List α) (node : α) :
    (inDegrees nodes (edges.map Prod.snd)).getD node 0 = owed edges [] node := by
  rw [inDegrees, getD_foldl_claim, owed_nil, Dict.getD_foldl_set]
  split
  · simp
  · simp [Dict.getD]

section Loops

variable {nodes queue taken : List α} {counts : Dict α Int} {released : α → List α}
  {arrange : List α → List α}

theorem keys_inDegrees (hnodup : nodes.Nodup) (hends : ∀ edge ∈ edges, edge.2 ∈ nodes) :
    (inDegrees nodes (edges.map Prod.snd)).keys = nodes := by
  have hzero := Dict.keys_foldl_set (d := (Dict.empty : Dict α Int)) hnodup 0
  rw [inDegrees, keys_foldl_claim, hzero]
  · rfl
  · intro node hnode
    obtain ⟨edge, hedge, rfl⟩ := mem_map.mp hnode
    rw [hzero]
    exact hends edge hedge

theorem Sorting.perm_of_length (h : Sorting edges nodes counts [] taken)
    (hlength : taken.length = nodes.length) : taken.Perm nodes := by
  have hsub := subperm_of_subset h.nodup h.subset
  rw [append_nil] at hsub
  exact hsub.perm_of_length_le (by omega)

theorem Sorting.orderLoop (passes : Nat) (h : Sorting edges nodes counts queue taken)
    (hends : ∀ edge ∈ edges, edge.2 ∈ nodes)
    (hreleased : ∀ node, (released node).Perm (targets edges node))
    (harrange : ∀ items, items.Nodup → (arrange items).Perm items)
    (hpasses : nodes.length ≤ passes + taken.length) :
    ∃ counts', Sorting edges nodes counts' []
      (orderLoop released arrange passes counts queue taken) := by
  induction passes generalizing counts queue taken with
  | zero =>
    have hlength := h.length_le
    obtain rfl : queue = [] := eq_nil_of_length_eq_zero (by omega)
    exact ⟨counts, h⟩
  | succ passes ih =>
    cases queue with
    | nil => exact ⟨counts, h⟩
    | cons node queue =>
      have htake {arranged : List α}
          (h' : arranged.Perm ((released node).foldl release (counts, queue)).2) :=
        h.take [node] hends (by simpa using hreleased node) h'
      have hnext := harrange _ (List.nodup_append.mp (htake (List.Perm.refl _)).nodup).2.1
      exact ih (htake hnext) (by simp; omega)

theorem Sorting.levelLoop (passes : Nat) (levels : List (List α))
    (h : Sorting edges nodes counts queue levels.flatten)
    (hends : ∀ edge ∈ edges, edge.1 ∈ nodes ∧ edge.2 ∈ nodes)
    (hreleased : ∀ node, (released node).Perm (targets edges node))
    (harrange : ∀ items, items.Nodup → (arrange items).Perm items)
    (hshallow : Shallow edges nodes levels.length levels.flatten) (hleveled : Leveled edges levels)
    (hpasses : nodes.length ≤ passes + levels.flatten.length) :
    (∃ counts', Sorting edges nodes counts' []
      (levelLoop released arrange passes counts queue levels).flatten) ∧
    Leveled edges (levelLoop released arrange passes counts queue levels) := by
  induction passes generalizing counts queue levels with
  | zero =>
    have hlength := h.length_le
    obtain rfl : queue = [] := eq_nil_of_length_eq_zero (by omega)
    exact ⟨⟨counts, h⟩, hleveled⟩
  | succ passes ih =>
    cases queue with
    | nil => exact ⟨⟨counts, h⟩, hleveled⟩
    | cons node rest =>
      have hbatch : Sorting edges nodes counts ((node :: rest) ++ []) levels.flatten := by
        simpa using h
      have htake {arranged : List α} (h' : arranged.Perm
          (((node :: rest).flatMap released).foldl release (counts, [])).2) :=
        hbatch.take (node :: rest) (fun edge hedge => (hends edge hedge).2)
          (Perm.flatMap_left _ fun node _ => hreleased node) h'
      -- the next level holds no node twice, so arranging it as a set loses none
      have hnext := harrange _ (List.nodup_append.mp (htake (List.Perm.refl _)).nodup).2.1
      have hflat : (levels ++ [node :: rest]).flatten = levels.flatten ++ node :: rest := by simp
      refine ih (levels ++ [node :: rest]) (by rw [hflat]; exact htake hnext) ?_ ?_ (by
        rw [hflat, length_append, length_cons]
        omega)
      · rw [hflat, length_append, length_singleton]
        exact h.shallow (fun edge hedge => (hends edge hedge).1) hshallow
      · intro level group hgroup other hother
        rcases Nat.lt_trichotomy level levels.length with hlt | heq | hgt
        · rw [getElem?_append_left hlt] at hgroup
          exact hleveled level group hgroup other hother
        · subst heq
          rw [getElem?_append_right (Nat.le_refl _), Nat.sub_self] at hgroup
          obtain rfl := Option.some.inj hgroup
          exact ((h.mem_queue_iff (fun edge hedge => (hends edge hedge).1) hshallow).mp hother).2
        · rw [getElem?_eq_none (by simp; omega)] at hgroup
          cases hgroup

end Loops

end HiAgent.Foundation.Search
