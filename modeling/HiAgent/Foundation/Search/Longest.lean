/-
  Foundation/Search/Longest.lean --- longest paths by relaxation in a given order.

  Every node starts with the length zero. The nodes are taken in an order in which all
  edges go forward, and an edge raises the length of its end where that makes a longer
  path.
-/
import HiAgent.Foundation.Search.Kahn
import Mathlib.Algebra.Order.Group.Defs
import Mathlib.Data.List.Chain
import Mathlib.Data.List.MinMax

namespace HiAgent.Foundation.Search

open List

variable {α R : Type} [DecidableEq α] [AddCommGroup R] [LinearOrder R]

/-- The length found for each node, and the node it was reached from. -/
structure Lengths (α R : Type) where
  dist : Dict α R
  prev : Dict α (Option α)

namespace Lengths

def lengthOf (lengths : Lengths α R) (node : α) : R := lengths.dist.getD node 0

def reachedFrom (lengths : Lengths α R) (node : α) : Option α := lengths.prev.getD node none

/-- One edge of a node: where it leads and what it costs. -/
def relax (node : α) (lengths : Lengths α R) (edge : α × R) : Lengths α R :=
  let newDist := lengths.lengthOf node + edge.2
  if lengths.lengthOf edge.1 < newDist then
    ⟨lengths.dist.set edge.1 newDist, lengths.prev.set edge.1 (some node)⟩
  else lengths

def relaxAll (next : α → List (α × R)) (lengths : Lengths α R) (order : List α) : Lengths α R :=
  order.foldl (fun lengths node => (next node).foldl (relax node) lengths) lengths

def walkBack (lengths : Lengths α R) : Nat → Option α → List α
  | _, none => []
  | 0, some _ => []
  | fuel + 1, some node => node :: walkBack lengths fuel (lengths.reachedFrom node)

end Lengths

def Leads (next : α → List (α × R)) (x y : α) : Prop := ∃ cost, (y, cost) ∈ next x

def bestCost (next : α → List (α × R)) (x y : α) : R :=
  ((((next x).filter fun edge => decide (edge.1 = y)).map Prod.snd).max?).getD 0

def pathCost (next : α → List (α × R)) : List α → R
  | x :: y :: rest => bestCost next x y + pathCost next (y :: rest)
  | _ => 0

/-! ## Costs -/

variable {next : α → List (α × R)}

omit [AddCommGroup R] in
theorem max?_costs_iff {x y : α} {cost : R} :
    (((next x).filter fun edge => decide (edge.1 = y)).map Prod.snd).max? = some cost ↔
      (y, cost) ∈ next x ∧ ∀ other, (y, other) ∈ next x → other ≤ cost := by
  rw [max?_eq_some_iff]
  simp

/-- Of parallel edges the longest counts. -/
theorem bestCost_spec {x y : α} (h : Leads next x y) :
    (y, bestCost next x y) ∈ next x ∧ ∀ other, (y, other) ∈ next x → other ≤ bestCost next x y := by
  obtain ⟨cost, hcost⟩ := h
  rw [← max?_costs_iff, bestCost]
  cases hmax : (((next x).filter fun edge => decide (edge.1 = y)).map Prod.snd).max? with
  | some best => rfl
  | none =>
    have hmem : cost ∈ ((next x).filter fun edge => decide (edge.1 = y)).map Prod.snd := by
      simpa using hcost
    rw [max?_eq_none_iff] at hmax
    rw [hmax] at hmem
    simp at hmem

theorem pathCost_concat {path : List α} {x y : α} :
    pathCost next (path ++ [x] ++ [y]) = pathCost next (path ++ [x]) + bestCost next x y := by
  induction path with
  | nil => simp [pathCost]
  | cons first rest ih =>
    cases rest with
    | nil => simp [pathCost]
    | cons second rest =>
      simp only [cons_append, pathCost] at ih ⊢
      rw [ih, add_assoc]

/-! ## One node -/

/-- What the edges of one node make of the lengths. -/
structure Raised (node : α) (edges : List (α × R)) (before after : Lengths α R) : Prop where
  source : after.lengthOf node = before.lengthOf node
  le : ∀ y, before.lengthOf y ≤ after.lengthOf y
  bound : ∀ edge ∈ edges, before.lengthOf node + edge.2 ≤ after.lengthOf edge.1
  cases : ∀ y, after.lengthOf y = before.lengthOf y ∧ after.reachedFrom y = before.reachedFrom y ∨
    after.reachedFrom y = some node ∧ ∃ cost, (y, cost) ∈ edges ∧
      after.lengthOf y = before.lengthOf node + cost

namespace Lengths

theorem lengthOf_relax (node : α) (lengths : Lengths α R) (edge : α × R) (other : α) :
    (relax node lengths edge).lengthOf other =
      if other = edge.1 then max (lengths.lengthOf other) (lengths.lengthOf node + edge.2)
      else lengths.lengthOf other := by
  rw [relax]
  split
  · rename_i hlt
    rw [lengthOf, Dict.getD_set]
    split
    · rename_i heq
      rw [heq, max_eq_right (le_of_lt hlt)]
    · rfl
  · rename_i hle
    split
    · rename_i heq
      rw [heq, max_eq_left (not_lt.mp hle)]
    · rfl

theorem reachedFrom_relax (node : α) (lengths : Lengths α R) (edge : α × R) (other : α) :
    (relax node lengths edge).reachedFrom other =
      if other = edge.1 ∧ lengths.lengthOf edge.1 < lengths.lengthOf node + edge.2 then some node
      else lengths.reachedFrom other := by
  rw [relax]
  split
  · rename_i hlt
    rw [reachedFrom, Dict.getD_set]
    split
    · rename_i heq
      rw [if_pos ⟨heq, hlt⟩]
    · rename_i hne
      rw [if_neg (fun h => hne h.1)]
      rfl
  · rename_i hle
    rw [if_neg (fun h => hle h.2)]

end Lengths

theorem Lengths.keys_relaxAll {keys : List α} (hends : ∀ x y, Leads next x y → y ∈ keys)
    {order : List α} {lengths : Lengths α R} (hkeys : lengths.dist.keys = keys) :
    (Lengths.relaxAll next lengths order).dist.keys = keys := by
  have hone (node : α) (edges : List (α × R)) (hedges : edges ⊆ next node)
      {lengths : Lengths α R} (hkeys : lengths.dist.keys = keys) :
      (edges.foldl (Lengths.relax node) lengths).dist.keys = keys := by
    induction edges generalizing lengths with
    | nil => exact hkeys
    | cons edge rest ih =>
      refine ih (fun other hother => hedges (mem_cons_of_mem edge hother)) ?_
      rw [Lengths.relax]
      split
      · rw [Dict.keys_set_of_mem, hkeys]
        rw [hkeys]
        exact hends node edge.1 ⟨edge.2, hedges mem_cons_self⟩
      · exact hkeys
  rw [Lengths.relaxAll]
  induction order generalizing lengths with
  | nil => exact hkeys
  | cons node rest ih => exact ih (hone node (next node) (fun _ hedge => hedge) hkeys)

theorem raised_foldl (node : α) (edges : List (α × R)) (lengths : Lengths α R)
    (hforward : ∀ edge ∈ edges, edge.1 ≠ node) :
    Raised node edges lengths (edges.foldl (Lengths.relax node) lengths) := by
  induction edges generalizing lengths with
  | nil => exact ⟨rfl, fun _ => le_refl _, by simp, fun _ => .inl ⟨rfl, rfl⟩⟩
  | cons edge rest ih =>
    have hne : node ≠ edge.1 := Ne.symm (hforward edge mem_cons_self)
    have hsame : (Lengths.relax node lengths edge).lengthOf node = lengths.lengthOf node := by
      rw [Lengths.lengthOf_relax, if_neg hne]
    obtain ⟨hsource, hle, hbound, hcases⟩ := ih (Lengths.relax node lengths edge)
      fun other hother => hforward other (mem_cons_of_mem edge hother)
    rw [foldl_cons]
    refine ⟨hsource.trans hsame, fun y => le_trans ?_ (hle y), fun other hother => ?_, fun y => ?_⟩
    · rw [Lengths.lengthOf_relax]
      split
      · exact le_max_left _ _
      · exact le_refl _
    · rcases mem_cons.mp hother with rfl | hother
      · refine le_trans ?_ (hle other.1)
        rw [Lengths.lengthOf_relax, if_pos rfl]
        exact le_max_right _ _
      · rw [← hsame]
        exact hbound other hother
    · rcases hcases y with ⟨hlen, hfrom⟩ | ⟨hfrom, cost, hmem, hlen⟩
      · rw [Lengths.lengthOf_relax] at hlen
        rw [Lengths.reachedFrom_relax] at hfrom
        by_cases hraised : y = edge.1 ∧ lengths.lengthOf edge.1 < lengths.lengthOf node + edge.2
        · right
          obtain ⟨rfl, hlt⟩ := hraised
          rw [if_pos rfl, max_eq_right (le_of_lt hlt)] at hlen
          rw [if_pos ⟨rfl, hlt⟩] at hfrom
          exact ⟨hfrom, edge.2, mem_cons_self, hlen⟩
        · left
          rw [if_neg hraised] at hfrom
          refine ⟨hlen.trans ?_, hfrom⟩
          split
          · rename_i heq
            exact max_eq_left (not_lt.mp fun hlt => hraised ⟨heq, heq ▸ hlt⟩)
          · rfl
      · right
        rw [hsame] at hlen
        exact ⟨hfrom, cost, mem_cons_of_mem edge hmem, hlen⟩

/-! ## All nodes -/

/-- What holds once the nodes of `done` are relaxed. -/
structure Relaxed (next : α → List (α × R)) (done : List α) (lengths : Lengths α R) : Prop where
  nonneg : ∀ x, 0 ≤ lengths.lengthOf x
  bound : ∀ x ∈ done, ∀ edge ∈ next x, lengths.lengthOf x + edge.2 ≤ lengths.lengthOf edge.1
  root : ∀ x, lengths.reachedFrom x = none → lengths.lengthOf x = 0
  link : ∀ x y, lengths.reachedFrom y = some x → x ∈ done ∧ ∃ cost, (y, cost) ∈ next x ∧
    lengths.lengthOf y = lengths.lengthOf x + cost

theorem Relaxed.relax {done : List α} {lengths : Lengths α R} (h : Relaxed next done lengths)
    {node : α} (hforward : ∀ edge ∈ next node, edge.1 ∉ done ++ [node]) :
    Relaxed next (done ++ [node]) ((next node).foldl (Lengths.relax node) lengths) := by
  obtain ⟨hsource, hle, hbound, hcases⟩ := raised_foldl node (next node) lengths
    fun edge hedge heq => hforward edge hedge (by simp [heq])
  -- no edge of the node leads back, so what is done keeps its length
  have hkept {x : α} (hx : x ∈ done ++ [node]) :
      ((next node).foldl (Lengths.relax node) lengths).lengthOf x = lengths.lengthOf x := by
    rcases hcases x with ⟨hlen, -⟩ | ⟨-, cost, hmem, -⟩
    · exact hlen
    · exact absurd hx (hforward (x, cost) hmem)
  refine ⟨fun x => le_trans (h.nonneg x) (hle x), fun x hx edge hedge => ?_, fun x hx => ?_,
    fun x y hy => ?_⟩
  · rw [hkept hx]
    rcases mem_append.mp hx with hdone | hnode
    · exact le_trans (h.bound x hdone edge hedge) (hle edge.1)
    · rw [mem_singleton] at hnode
      subst hnode
      exact hbound edge hedge
  · rcases hcases x with ⟨hlen, hfrom⟩ | ⟨hfrom, -⟩
    · rw [hlen]
      exact h.root x (hfrom.symm.trans hx)
    · rw [hfrom] at hx
      cases hx
  · rcases hcases y with ⟨hlen, hfrom⟩ | ⟨hfrom, cost, hmem, hlen⟩
    · obtain ⟨hdone, cost, hmem, hlength⟩ := h.link x y (hfrom.symm.trans hy)
      have hx : x ∈ done ++ [node] := mem_append_left _ hdone
      exact ⟨hx, cost, hmem, by rw [hlen, hkept hx, hlength]⟩
    · rw [hfrom, Option.some.injEq] at hy
      subst hy
      have hx : node ∈ done ++ [node] := by simp
      exact ⟨hx, cost, hmem, by rw [hlen, hkept hx]⟩

section Order

variable {edges : List (α × α)} {order : List α}
  (hedges : ∀ x y, Leads next x y → Linked edges x y)
  (hordered : InOrder edges [] order) (hnodup : order.Nodup)
  (hends : ∀ x y, Leads next x y → x ∈ order ∧ y ∈ order)

include hedges hordered hnodup hends

omit [AddCommGroup R] [LinearOrder R] in
theorem idxOf_lt_of_leads {x y : α} (h : Leads next x y) : order.idxOf x < order.idxOf y :=
  hordered.idxOf_lt [] hnodup (hedges x y h) (hends x y h).2

theorem Relaxed.foldl {done rest : List α} (horder : order = done ++ rest)
    {lengths : Lengths α R} (h : Relaxed next done lengths) :
    Relaxed next order (Lengths.relaxAll next lengths rest) := by
  induction rest generalizing done lengths with
  | nil => simpa [Lengths.relaxAll, horder] using h
  | cons node rest ih =>
    have hsplit : order = (done ++ [node]) ++ rest := by simp [horder]
    refine ih hsplit (h.relax fun edge hedge hmem => ?_)
    have hlt := idxOf_lt_of_leads hedges hordered hnodup hends ⟨edge.2, hedge⟩
    -- what is done stands in front of the node
    have hnode : order.idxOf node = done.length := by
      have hout : node ∉ done := by
        rw [horder] at hnodup
        intro hdone
        exact (List.nodup_append.mp hnodup).2.2 node hdone node mem_cons_self rfl
      rw [horder, idxOf_append_of_notMem hout, idxOf_cons_self, Nat.add_zero]
    have hfront : order.idxOf edge.1 ≤ done.length := by
      have hlist : order = (done ++ [node]) ++ rest := by simp [horder]
      rw [hlist, idxOf_append_of_mem hmem]
      have hlength := idxOf_lt_length_of_mem hmem
      rw [length_append, length_singleton] at hlength
      omega
    omega

end Order

section Optimal

variable [IsOrderedAddMonoid R] {edges : List (α × α)} {order : List α} {lengths : Lengths α R}

theorem Relaxed.pathCost_le (h : Relaxed next order lengths)
    (hends : ∀ x y, Leads next x y → x ∈ order) {path : List α}
    (hpath : path.IsChain (Leads next)) {last : α} (hlast : path.getLast? = some last) :
    pathCost next path ≤ lengths.lengthOf last := by
  -- by induction on the path, with the length of its first node added
  suffices hsum : ∀ first, path.head? = some first →
      lengths.lengthOf first + pathCost next path ≤ lengths.lengthOf last by
    cases path with
    | nil => simp at hlast
    | cons first rest =>
      exact le_trans (le_add_of_nonneg_left (h.nonneg first)) (hsum first rfl)
  induction path with
  | nil => simp
  | cons first rest ih =>
    intro x hx
    rw [head?_cons, Option.some.injEq] at hx
    subst hx
    cases rest with
    | nil =>
      simp only [getLast?_singleton, Option.some.injEq] at hlast
      simp [pathCost, hlast]
    | cons second rest =>
      rw [isChain_cons_cons] at hpath
      rw [getLast?_cons_cons] at hlast
      obtain ⟨hmem, -⟩ := bestCost_spec hpath.1
      have hstep := h.bound first (hends first second hpath.1) _ hmem
      have hrest := ih hpath.2 hlast second rfl
      calc lengths.lengthOf first + pathCost next (first :: second :: rest)
          = lengths.lengthOf first + bestCost next first second + pathCost next
              (second :: rest) := by
            rw [pathCost, add_assoc]
        _ ≤ lengths.lengthOf second + pathCost next (second :: rest) := by
            exact add_le_add_left hstep _
        _ ≤ lengths.lengthOf last := hrest

theorem Relaxed.walkBack_spec (h : Relaxed next order lengths)
    (hlater : ∀ x y, Leads next x y → order.idxOf x < order.idxOf y) {fuel : Nat} {node : α}
    (hfuel : order.idxOf node < fuel) :
    ∃ front, (lengths.walkBack fuel (some node)).reverse = front ++ [node] ∧
      (front ++ [node]).IsChain (Leads next) ∧
      pathCost next (front ++ [node]) = lengths.lengthOf node := by
  induction fuel generalizing node with
  | zero => exact absurd hfuel (Nat.not_lt_zero _)
  | succ fuel ih =>
    rw [Lengths.walkBack, reverse_cons]
    cases hfrom : lengths.reachedFrom node with
    | none =>
      refine ⟨[], ?_, by simp, ?_⟩
      · cases fuel <;> simp [Lengths.walkBack]
      · simp [pathCost, h.root node hfrom]
    | some x =>
      obtain ⟨hdone, cost, hmem, hlength⟩ := h.link x node hfrom
      have hlead : Leads next x node := ⟨cost, hmem⟩
      have hlt := hlater x node hlead
      obtain ⟨front, hback, hchain, hcost⟩ := ih (show order.idxOf x < fuel by omega)
      -- the recorded edge is the best one between the two nodes
      have hbest : bestCost next x node = cost := by
        obtain ⟨hbest, hmax⟩ := bestCost_spec hlead
        refine le_antisymm ?_ (hmax cost hmem)
        have hbound := h.bound x hdone _ hbest
        rw [hlength] at hbound
        exact le_of_add_le_add_left hbound
      refine ⟨front ++ [x], by rw [hback], ?_, ?_⟩
      · rw [isChain_append]
        refine ⟨hchain, by simp, fun y hy z hz => ?_⟩
        simp only [getLast?_append, getLast?_singleton, Option.some_or,
          Option.mem_def, Option.some.injEq, head?_cons] at hy hz
        subst hy
        subst hz
        exact hlead
      · rw [pathCost_concat, hcost, hbest, hlength]

end Optimal

end HiAgent.Foundation.Search
