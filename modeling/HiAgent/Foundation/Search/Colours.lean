/-
  Foundation/Search/Colours.lean --- depth-first search for a cycle.

  A node is white before the search comes to it, gray while the nodes behind it are
  searched and black afterwards. The gray nodes are those on the way to the current
  one, so an edge to one of them closes a cycle; the nodes behind a black one are
  black, so no cycle goes through it.
-/
import HiAgent.Foundation.Dict
import HiAgent.Foundation.Search

namespace HiAgent.Foundation.Search

open List

/-- The colour of a node. -/
inductive Colour where
  | white
  | gray
  | black
  deriving DecidableEq

abbrev Colours (α : Type) := Dict α Colour

variable {α : Type} [DecidableEq α]

def Colours.of (colours : Colours α) (node : α) : Colour := colours.getD node .white

/-- The nodes behind a gray one in their order, until a cycle is found. -/
def scan (visit : Colours α → α → Bool × Colours α) : Colours α → List α → Bool × Colours α
  | colours, [] => (false, colours)
  | colours, node :: rest =>
    match colours.of node with
    | .gray => (true, colours)
    | .black => scan visit colours rest
    | .white =>
      match visit colours node with
      | (true, after) => (true, after)
      | (false, after) => scan visit after rest

/-- The visit of a white node: whether it finds a cycle, and the colours it leaves. -/
def visit (next : α → List α) : Nat → Colours α → α → Bool × Colours α
  | 0, colours, _ => (false, colours)
  | depth + 1, colours, node =>
    match scan (visit next depth) (colours.set node .gray) (next node) with
    | (true, after) => (true, after)
    | (false, after) => (false, after.set node .black)

/-- The visits of all nodes that are still white. -/
def findsCycle (next : α → List α) (depth : Nat) : Colours α → List α → Bool
  | _, [] => false
  | colours, node :: rest =>
    if colours.of node = .white then
      match visit next depth colours node with
      | (true, _) => true
      | (false, after) => findsCycle next depth after rest
    else findsCycle next depth colours rest

/-! ## What is black -/

@[simp] theorem of_set (colours : Colours α) (node other : α) (colour : Colour) :
    Colours.of (colours.set node colour) other =
      if other = node then colour else colours.of other :=
  Dict.getD_set colours node other colour .white

/-- The nodes behind a black one are black, and none of them is behind itself. -/
structure Settled (next : α → List α) (colours : Colours α) : Prop where
  closed : ∀ x, colours.of x = .black → ∀ y ∈ next x, colours.of y = .black
  acyclic : ∀ x, colours.of x = .black → ¬ Relation.TransGen (Edge next) x x

/-- What a search that finds no cycle makes of the colours. -/
structure Explored (next : α → List α) (before after : Colours α) : Prop where
  settled : Settled next after
  black : ∀ x, before.of x = .black → after.of x = .black
  gray : ∀ x, after.of x = .gray ↔ before.of x = .gray

def whites (nodes : List α) (colours : Colours α) : Nat :=
  nodes.countP fun node => decide (colours.of node = .white)

variable {next : α → List α} {nodes : List α} {colours before after : Colours α}

theorem Settled.black_of_reach (h : Settled next colours) {x y : α}
    (hreach : Relation.TransGen (Edge next) x y) (hx : colours.of x = .black) :
    colours.of y = .black := by
  induction hreach with
  | single hedge => exact h.closed x hx _ hedge
  | tail _ hedge ih => exact h.closed _ ih _ hedge

theorem Explored.refl (h : Settled next colours) : Explored next colours colours :=
  ⟨h, fun _ hx => hx, fun _ => Iff.rfl⟩

theorem Explored.trans {middle : Colours α} (hfirst : Explored next before middle)
    (hsecond : Explored next middle after) : Explored next before after where
  settled := hsecond.settled
  black x hx := hsecond.black x (hfirst.black x hx)
  gray x := (hsecond.gray x).trans (hfirst.gray x)

theorem Explored.whites_le (h : Explored next before after) :
    whites nodes after ≤ whites nodes before := by
  apply countP_mono_left
  intro x _ hwhite
  simp only [decide_eq_true_eq] at hwhite ⊢
  cases hx : before.of x with
  | white => rfl
  | gray => simp [(h.gray x).mpr hx] at hwhite
  | black => simp [h.black x hx] at hwhite

theorem whites_set_gray {node : α} (hmem : node ∈ nodes) (hwhite : colours.of node = .white) :
    whites nodes (colours.set node .gray) < whites nodes colours := by
  have hle (others : List α) : whites others (colours.set node .gray) ≤ whites others colours := by
    apply countP_mono_left
    intro x _ hx
    rw [decide_eq_true_eq, of_set] at hx
    split at hx
    · cases hx
    · simpa using hx
  induction nodes with
  | nil => simp at hmem
  | cons other rest ih =>
    simp only [whites, countP_cons, of_set] at ih hle ⊢
    rcases mem_cons.mp hmem with rfl | hrest
    · have hrest := hle rest
      simp [hwhite]
      omega
    · have hlt := ih hrest
      by_cases hother : other = node
      · simp [hother, hwhite]
        omega
      · simp only [hother, if_false]
        omega

/-! ## One visit -/

/-- What a visit of a node is to do. -/
def VisitLaw (next : α → List α) (nodes : List α) (depth : Nat)
    (visit : Colours α → α → Bool × Colours α) : Prop :=
  ∀ colours node, Settled next colours → colours.of node = .white → node ∈ nodes →
    whites nodes colours ≤ depth →
    (∀ g, colours.of g = .gray → Relation.ReflTransGen (Edge next) g node) →
    ((visit colours node).1 = true → ∃ x, Relation.TransGen (Edge next) x x) ∧
      ((visit colours node).1 = false → Explored next colours (visit colours node).2 ∧
        (visit colours node).2.of node = .black)

theorem scan_spec {depth : Nat} {visit : Colours α → α → Bool × Colours α}
    (hvisit : VisitLaw next nodes depth visit) {targets : List α}
    (htargets : ∀ y ∈ targets, y ∈ nodes) (hsettled : Settled next colours)
    (hdepth : whites nodes colours ≤ depth)
    (hgray : ∀ y ∈ targets, ∀ g, colours.of g = .gray → Relation.TransGen (Edge next) g y) :
    ((scan visit colours targets).1 = true → ∃ x, Relation.TransGen (Edge next) x x) ∧
      ((scan visit colours targets).1 = false →
        Explored next colours (scan visit colours targets).2 ∧
          ∀ y ∈ targets, (scan visit colours targets).2.of y = .black) := by
  induction targets generalizing colours with
  | nil => simp [scan, Explored.refl hsettled]
  | cons target rest ih =>
    have hrest : ∀ y ∈ rest, y ∈ nodes := fun y hy => htargets y (mem_cons_of_mem target hy)
    have hlater : ∀ y ∈ rest, ∀ g, colours.of g = .gray → Relation.TransGen (Edge next) g y :=
      fun y hy => hgray y (mem_cons_of_mem target hy)
    cases hcolour : colours.of target with
    | gray =>
      simp only [scan, hcolour]
      exact ⟨fun _ => ⟨target, hgray target mem_cons_self target hcolour⟩, by simp⟩
    | black =>
      obtain ⟨hcycle, hclean⟩ := ih hrest hsettled hdepth hlater
      simp only [scan, hcolour]
      refine ⟨hcycle, fun hfalse => ?_⟩
      obtain ⟨hseen, hblack⟩ := hclean hfalse
      refine ⟨hseen, fun y hy => ?_⟩
      rcases mem_cons.mp hy with rfl | hy
      · exact hseen.black y hcolour
      · exact hblack y hy
    | white =>
      obtain ⟨hcycle, hclean⟩ := hvisit colours target hsettled hcolour
        (htargets target mem_cons_self) hdepth
        fun g hg => (hgray target mem_cons_self g hg).to_reflTransGen
      simp only [scan, hcolour]
      rcases hresult : visit colours target with ⟨found, after⟩
      rw [hresult] at hcycle hclean
      cases found with
      | true => exact ⟨fun _ => hcycle rfl, by simp⟩
      | false =>
        obtain ⟨hseen, htarget⟩ := hclean rfl
        obtain ⟨hcycle', hclean'⟩ := ih hrest hseen.settled
          (Nat.le_trans hseen.whites_le hdepth)
          fun y hy g hg => hlater y hy g ((hseen.gray g).mp hg)
        refine ⟨hcycle', fun hfalse => ?_⟩
        obtain ⟨hexplored', hblack⟩ := hclean' hfalse
        refine ⟨hseen.trans hexplored', fun y hy => ?_⟩
        rcases mem_cons.mp hy with rfl | hy
        · exact hexplored'.black y htarget
        · exact hblack y hy

theorem Explored.blacken {node : α} (hwhite : colours.of node = .white)
    (h : Explored next (colours.set node .gray) after)
    (hblack : ∀ y ∈ next node, after.of y = .black) :
    Explored next colours (after.set node .black) := by
  have hgray : after.of node = .gray := (h.gray node).mpr (by simp)
  refine ⟨⟨?_, ?_⟩, ?_, ?_⟩
  · intro x hx y hy
    rw [of_set]
    split
    · rfl
    · by_cases hnode : x = node
      · exact hblack y (hnode ▸ hy)
      · rw [of_set, if_neg hnode] at hx
        exact h.settled.closed x hx y hy
  · intro x hx hcycle
    by_cases hnode : x = node
    · -- a cycle through the node would lead from a black node to it while it is gray
      subst hnode
      obtain ⟨y, hedge, hback⟩ := Relation.TransGen.head'_iff.mp hcycle
      have hy : after.of y = .black := hblack y hedge
      rcases Relation.reflTransGen_iff_eq_or_transGen.mp hback with heq | hback
      · rw [heq, hy] at hgray
        cases hgray
      · rw [h.settled.black_of_reach hback hy] at hgray
        cases hgray
    · rw [of_set, if_neg hnode] at hx
      exact h.settled.acyclic x hx hcycle
  · intro x hx
    have hnode : x ≠ node := by
      rintro rfl
      rw [hwhite] at hx
      cases hx
    rw [of_set, if_neg hnode]
    exact h.black x (by rwa [of_set, if_neg hnode])
  · intro x
    by_cases hnode : x = node
    · simp [hnode, hwhite]
    · rw [of_set, if_neg hnode, h.gray x, of_set, if_neg hnode]

/-- A visit obeys its law at every depth. -/
theorem visit_spec (hclosed : ∀ x ∈ nodes, ∀ y ∈ next x, y ∈ nodes) (depth : Nat) :
    VisitLaw next nodes depth (visit next depth) := by
  induction depth with
  | zero =>
    intro colours node _ hwhite hmem hdepth _
    have hpos := whites_set_gray hmem hwhite
    omega
  | succ depth ih =>
    intro colours node hsettled hwhite hmem hdepth hgray
    have hsettled' : Settled next (colours.set node .gray) := by
      constructor
      · intro x hx y hy
        rw [of_set] at hx ⊢
        split at hx
        · cases hx
        · have hy' := hsettled.closed x hx y hy
          split
          · rename_i heq
            rw [heq, hwhite] at hy'
            cases hy'
          · exact hy'
      · intro x hx
        rw [of_set] at hx
        split at hx
        · cases hx
        · exact hsettled.acyclic x hx
    obtain ⟨hcycle, hclean⟩ := scan_spec ih (fun y hy => hclosed node hmem y hy) hsettled'
      (by have hlt := whites_set_gray hmem hwhite; omega) fun y hy g hg => by
        rw [of_set] at hg
        split at hg
        · rename_i heq
          rw [heq]
          exact .single hy
        · exact .tail' (hgray g hg) hy
    rw [visit]
    rcases hresult : scan (visit next depth) (colours.set node .gray) (next node) with
      ⟨found, after⟩
    rw [hresult] at hcycle hclean
    cases found with
    | true => exact ⟨fun _ => hcycle rfl, by simp⟩
    | false =>
      obtain ⟨hseen, hblack⟩ := hclean rfl
      exact ⟨by simp, fun _ => ⟨hseen.blacken hwhite hblack, by simp⟩⟩

/-! ## The search -/

theorem findsCycle_spec (hclosed : ∀ x ∈ nodes, ∀ y ∈ next x, y ∈ nodes) {depth : Nat}
    {rest : List α} (hrest : ∀ x ∈ rest, x ∈ nodes) (hsettled : Settled next colours)
    (hdepth : whites nodes colours ≤ depth) (hgray : ∀ x, colours.of x ≠ .gray) :
    (findsCycle next depth colours rest = true → ∃ x, Relation.TransGen (Edge next) x x) ∧
      (findsCycle next depth colours rest = false →
        ∀ x ∈ rest, ¬ Relation.TransGen (Edge next) x x) := by
  have hsplit (colours : Colours α) (node : α) (rest : List α) (hsettled : Settled next colours)
      (hblack : colours.of node = .black)
      (h : (findsCycle next depth colours rest = true → ∃ x, Relation.TransGen (Edge next) x x) ∧
        (findsCycle next depth colours rest = false →
          ∀ x ∈ rest, ¬ Relation.TransGen (Edge next) x x)) :
      (findsCycle next depth colours rest = true → ∃ x, Relation.TransGen (Edge next) x x) ∧
        (findsCycle next depth colours rest = false →
          ∀ x ∈ node :: rest, ¬ Relation.TransGen (Edge next) x x) := by
    refine ⟨h.1, fun hfalse x hx => ?_⟩
    rcases mem_cons.mp hx with rfl | hx
    · exact hsettled.acyclic x hblack
    · exact h.2 hfalse x hx
  induction rest generalizing colours with
  | nil => simp [findsCycle]
  | cons node rest ih =>
    have hmem : node ∈ nodes := hrest node mem_cons_self
    have hrest' : ∀ x ∈ rest, x ∈ nodes := fun x hx => hrest x (mem_cons_of_mem node hx)
    rw [findsCycle]
    cases hcolour : colours.of node with
    | gray => exact absurd hcolour (hgray node)
    | black =>
      simp only [reduceCtorEq, if_false]
      exact hsplit colours node rest hsettled hcolour (ih hrest' hsettled hdepth hgray)
    | white =>
      obtain ⟨hcycle, hclean⟩ := visit_spec hclosed depth colours node hsettled hcolour hmem
        hdepth fun g hg => absurd hg (hgray g)
      simp only [if_true]
      rcases hresult : visit next depth colours node with ⟨found, after⟩
      rw [hresult] at hcycle hclean
      cases found with
      | true => exact ⟨fun _ => hcycle rfl, by simp⟩
      | false =>
        obtain ⟨hseen, hblack⟩ := hclean rfl
        exact hsplit after node rest hseen.settled hblack
          (ih hrest' hseen.settled (Nat.le_trans hseen.whites_le hdepth)
            fun x hx => hgray x ((hseen.gray x).mp hx))

theorem mem_of_cycle (hnodes : ∀ x, x ∉ nodes → next x = []) {x : α}
    (h : Relation.TransGen (Edge next) x x) : x ∈ nodes := by
  by_contra hout
  obtain ⟨y, hedge, -⟩ := Relation.TransGen.head'_iff.mp h
  rw [Edge, hnodes x hout] at hedge
  simp at hedge

theorem settled_of_white (hwhite : ∀ x, colours.of x = .white) : Settled next colours := by
  constructor
  · intro x hx
    simp [hwhite x] at hx
  · intro x hx
    simp [hwhite x] at hx

/-- The three colours find a cycle if there is one. -/
theorem findsCycle_iff (hnodes : ∀ x, x ∉ nodes → next x = [])
    (hclosed : ∀ x ∈ nodes, ∀ y ∈ next x, y ∈ nodes) {colours : Colours α}
    (hwhite : ∀ x, colours.of x = .white) : findsCycle next nodes.length colours nodes = true ↔
      ∃ x, Relation.TransGen (Edge next) x x := by
  obtain ⟨hcycle, hclean⟩ := findsCycle_spec hclosed (fun _ hx => hx) (settled_of_white hwhite)
    countP_le_length fun x hx => by simp [hwhite x] at hx
  refine ⟨hcycle, ?_⟩
  rintro ⟨x, hx⟩
  by_contra hfalse
  exact hclean (by simpa using hfalse) x (mem_of_cycle hnodes hx) hx

end HiAgent.Foundation.Search
