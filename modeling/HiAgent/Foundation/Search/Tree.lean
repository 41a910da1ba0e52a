/-
  Foundation/Search/Tree.lean --- breadth-first search that remembers where it came from.

  A node that is found for the first time goes to the back of the queue, with the node it
  was found from and the edge it was found by.
-/
import HiAgent.Foundation.Dict
import HiAgent.Foundation.Search
import Mathlib.Data.List.Induction
import Mathlib.Data.List.Perm.Subperm

namespace HiAgent.Foundation.Search

open List

variable {α : Type}

/-! ## Paths -/

def Linked (edges : List (α × α)) (x y : α) : Prop := (x, y) ∈ edges

def IsPath (edges : List (α × α)) (start target : α) : List (α × α) → Prop
  | [] => start = target
  | edge :: rest => edge ∈ edges ∧ edge.1 = start ∧ IsPath edges edge.2 target rest

section Paths

variable {edges : List (α × α)} {start x y : α} {path : List (α × α)}

theorem IsPath.concat (h : IsPath edges start x path) (hedge : Linked edges x y) :
    IsPath edges start y (path ++ [(x, y)]) := by
  induction path generalizing start with
  | nil => exact ⟨hedge, h.symm, rfl⟩
  | cons edge rest ih => exact ⟨h.1, h.2.1, ih h.2.2⟩

theorem IsPath.walk_from {first : α} {n : Nat} (hwalk : Walk (Linked edges) first n start)
    (h : IsPath edges start y path) : Walk (Linked edges) first (n + path.length) y := by
  induction path generalizing start n with
  | nil =>
    obtain rfl : start = y := h
    exact hwalk
  | cons edge rest ih =>
    obtain ⟨hedge, rfl, hrest⟩ := h
    have hnext := ih (hwalk.step hedge) hrest
    rwa [length_cons, Nat.add_comm rest.length 1, ← Nat.add_assoc]

theorem IsPath.walk (h : IsPath edges start y path) : Walk (Linked edges) start path.length y := by
  have hwalk := h.walk_from (.start : Walk (Linked edges) start 0 start)
  rwa [Nat.zero_add] at hwalk

theorem exists_walk_iff :
    (∃ n, Walk (Linked edges) start n y) ↔ Relation.ReflTransGen (Linked edges) start y := by
  constructor
  · rintro ⟨n, hwalk⟩
    induction hwalk with
    | start => exact .refl
    | step hwalk hedge ih => exact ih.tail hedge
  · intro h
    induction h with
    | refl => exact ⟨0, .start⟩
    | tail hreach hedge ih =>
      obtain ⟨n, hwalk⟩ := ih
      exact ⟨n + 1, hwalk.step hedge⟩

theorem Walk.mem_ends {n : Nat} (h : Walk (Linked edges) start n y) :
    y ∈ start :: edges.map Prod.snd := by
  cases h with
  | start => exact mem_cons_self
  | step hwalk hedge => exact mem_cons_of_mem _ (mem_map_of_mem hedge)

theorem AtDistance.exists_nodup {n : Nat} (h : AtDistance (Linked edges) start n y) :
    ∃ nodes : List α, nodes.Nodup ∧ nodes.length = n + 1 ∧
      ∀ z ∈ nodes, ∃ m ≤ n, AtDistance (Linked edges) start m z := by
  induction n generalizing y with
  | zero =>
    refine ⟨[y], nodup_singleton y, rfl, fun z hz => ?_⟩
    rw [mem_singleton.mp hz]
    exact ⟨0, Nat.le_refl 0, h⟩
  | succ n ih =>
    obtain ⟨⟨x, hx, -⟩, -⟩ := atDistance_succ_iff.mp h
    obtain ⟨nodes, hnodup, hlength, hnodes⟩ := ih hx
    refine ⟨y :: nodes, nodup_cons.mpr ⟨?_, hnodup⟩, congrArg (· + 1) hlength, ?_⟩
    · intro hmem
      obtain ⟨m, hle, hm⟩ := hnodes y hmem
      have heq := hm.unique h
      omega
    · intro z hz
      rcases mem_cons.mp hz with rfl | hz
      · exact ⟨n + 1, Nat.le_refl _, h⟩
      · obtain ⟨m, hle, hm⟩ := hnodes z hz
        exact ⟨m, by omega, hm⟩

theorem AtDistance.le_length {n : Nat} (h : AtDistance (Linked edges) start n y) :
    n ≤ edges.length := by
  obtain ⟨nodes, hnodup, hlength, hnodes⟩ := h.exists_nodup
  have hsub : nodes ⊆ start :: edges.map Prod.snd := by
    intro z hz
    obtain ⟨m, -, hm⟩ := hnodes z hz
    exact hm.1.mem_ends
  have hle := (subperm_of_subset hnodup hsub).length_le
  simp only [length_cons, length_map] at hle
  omega

end Paths

/-! ## The search -/

variable [DecidableEq α]

/-- The nodes that wait, where each node was found from and by which edge. -/
structure Tree (α : Type) where
  queue : List α
  parent : Dict α (Option α)
  edgeTo : Dict α (α × α)

def plant (start : α) : Tree α := ⟨[start], Dict.empty.set start none, Dict.empty⟩

def look (current : α) (tree : Tree α) (edge : α × α) : Tree α :=
  if edge.1 ≠ current ∨ (tree.parent.get? edge.2).isSome = true then tree
  else ⟨tree.queue ++ [edge.2], tree.parent.set edge.2 (some current), tree.edgeTo.set edge.2 edge⟩

/-- The search, until the queue is empty or the target comes out of it. -/
def grow (edges : List (α × α)) (target : α) : Nat → Tree α → Option (Tree α)
  | 0, _ => none
  | fuel + 1, tree =>
    match tree.queue with
    | [] => some tree
    | current :: rest =>
      if current = target then some { tree with queue := rest }
      else grow edges target fuel (edges.foldl (look current) { tree with queue := rest })

/-- The way back from a node, with the edges behind it. -/
def walkBack (tree : Tree α) (start : α) : Nat → α → List (α × α) → Option (List (α × α))
  | 0, _, _ => none
  | fuel + 1, node, behind =>
    if node = start then some behind
    else
      match tree.edgeTo.get? node, tree.parent.get? node with
      | some edge, some (some next) => walkBack tree start fuel next (edge :: behind)
      | _, _ => none

/-- A path to the target: empty if there is none, and nothing if the fuel runs out. -/
def shortestPath (edges : List (α × α)) (start target : α) : Option (List (α × α)) :=
  (grow edges target (edges.length + 2) (plant start)).bind fun tree =>
    if (tree.parent.get? target).isNone then some []
    else walkBack tree start (edges.length + 1) target []

/-! ## A visit -/

def Tree.found (tree : Tree α) : List α := tree.parent.keys

/-- What the looks at some edges add to a tree while a node is visited. -/
structure Looked (edges : List (α × α)) (current : α) (before after : Tree α)
    (new : List α) : Prop where
  queue : after.queue = before.queue ++ new
  found : after.found = before.found ++ new
  linked : ∀ y ∈ new, Linked edges current y ∧
    after.parent.get? y = some (some current) ∧ after.edgeTo.get? y = some (current, y)
  all : ∀ y, Linked edges current y → y ∈ before.found ++ new
  kept : ∀ y ∈ before.found,
    after.parent.get? y = before.parent.get? y ∧ after.edgeTo.get? y = before.edgeTo.get? y

section Visit

variable {edges : List (α × α)} {current : α} {before after : Tree α} {new : List α}

theorem mem_found {tree : Tree α} {y : α} : y ∈ tree.found ↔ (tree.parent.get? y).isSome = true :=
  Dict.mem_keys_iff

omit [DecidableEq α] in
theorem nodup_found (tree : Tree α) : tree.found.Nodup := tree.parent.keysNodup

theorem found_set_of_not_mem {tree : Tree α} {y : α} (h : y ∉ tree.found)
    (value : Option α) : (tree.parent.set y value).keys = tree.found ++ [y] := by
  have hnone : tree.parent.get? y = none := by
    rwa [mem_found, Option.not_isSome_iff_eq_none] at h
  rw [Dict.keys, Dict.rows_set_of_none hnone, map_append]
  rfl

theorem Looked.look (h : Looked edges current before after new) (edge : α × α) :
    ∃ more, Looked (edges ++ [edge]) current before (look current after edge) more := by
  have hlinked : ∀ {y}, Linked (edges ++ [edge]) current y ↔
      Linked edges current y ∨ edge = (current, y) := by
    intro y
    simp [Linked, eq_comm]
  by_cases hskip : edge.1 ≠ current ∨ (after.parent.get? edge.2).isSome = true
  · refine ⟨new, ?_⟩
    rw [Search.look, if_pos hskip]
    refine ⟨h.queue, h.found, fun y hy => ?_, fun y hy => ?_, h.kept⟩
    · exact ⟨hlinked.mpr (.inl (h.linked y hy).1), (h.linked y hy).2⟩
    · rcases hlinked.mp hy with hearlier | rfl
      · exact h.all y hearlier
      · rcases hskip with hother | hfound
        · exact absurd rfl hother
        · rw [← h.found]
          exact mem_found.mpr hfound
  · rw [not_or, not_not, ← mem_found] at hskip
    obtain ⟨hcurrent, hnew⟩ := hskip
    have hedge : edge = (current, edge.2) := by rw [← hcurrent]
    refine ⟨new ++ [edge.2], ?_⟩
    rw [Search.look, if_neg (by rw [not_or, not_not, ← mem_found]; exact ⟨hcurrent, hnew⟩)]
    refine ⟨?_, ?_, ?_, ?_, ?_⟩
    · rw [h.queue, append_assoc]
    · rw [Tree.found, found_set_of_not_mem hnew, h.found, append_assoc]
    · intro y hy
      rw [Dict.get?_set, Dict.get?_set]
      rcases mem_append.mp hy with hearlier | hlast
      · have hne : y ≠ edge.2 := by
          rintro rfl
          exact hnew (h.found ▸ mem_append_right _ hearlier)
        rw [if_neg hne, if_neg hne]
        exact ⟨hlinked.mpr (.inl (h.linked y hearlier).1), (h.linked y hearlier).2⟩
      · rw [mem_singleton.mp hlast, if_pos rfl, if_pos rfl]
        exact ⟨hlinked.mpr (.inr hedge), rfl, congrArg some hedge⟩
    · intro y hy
      rw [← append_assoc]
      rcases hlinked.mp hy with hearlier | heq
      · exact mem_append_left _ (h.all y hearlier)
      · rw [heq]
        exact mem_append_right _ mem_cons_self
    · intro y hy
      have hne : y ≠ edge.2 := by
        rintro rfl
        exact hnew (h.found ▸ mem_append_left _ hy)
      rw [Dict.get?_set, Dict.get?_set, if_neg hne, if_neg hne]
      exact h.kept y hy

theorem exists_looked (edges : List (α × α)) (current : α) (tree : Tree α) :
    ∃ new, Looked edges current tree (edges.foldl (look current) tree) new := by
  induction edges using List.reverseRecOn with
  | nil =>
    refine ⟨[], by simp, by simp, by simp, ?_, fun y hy => ⟨rfl, rfl⟩⟩
    intro y hy
    cases hy
  | append_singleton earlier edge ih =>
    obtain ⟨new, hlooked⟩ := ih
    rw [foldl_append]
    exact hlooked.look edge

end Visit

/-! ## The invariant -/

section Invariant

variable {edges : List (α × α)} {start : α} {taken : List α} {tree : Tree α}

/-- Every node but the start was found from one that is one step nearer. -/
def Rooted (edges : List (α × α)) (start : α) (tree : Tree α) : Prop :=
  ∀ y ∈ tree.found, y ≠ start → ∃ x ∈ tree.found,
    tree.parent.get? y = some (some x) ∧ tree.edgeTo.get? y = some (x, y) ∧ Linked edges x y ∧
      ∀ n, AtDistance (Linked edges) start (n + 1) y → AtDistance (Linked edges) start n x

/-- The search after some nodes have been visited. -/
structure Grown (edges : List (α × α)) (start : α) (taken : List α) (tree : Tree α) : Prop where
  found : tree.found = taken ++ tree.queue
  root : start ∈ tree.found
  /-- What was found has a distance. -/
  exact : ∀ y ∈ tree.found, ∃ n, AtDistance (Linked edges) start n y
  rooted : Rooted edges start tree
  /-- The nearer ones come first. -/
  ordered : tree.found.Pairwise fun x y => ∀ m n,
    AtDistance (Linked edges) start m x → AtDistance (Linked edges) start n y → m ≤ n
  /-- The visited nodes have no neighbours but what was found. -/
  closed : ∀ x ∈ taken, ∀ y, Linked edges x y → y ∈ tree.found
  /-- What is not farther than the front of the queue was found, and of what is farther by
  more than one step nothing was. -/
  level : ∀ x rest n, tree.queue = x :: rest → AtDistance (Linked edges) start n x →
    (∀ m ≤ n, ∀ y, AtDistance (Linked edges) start m y → y ∈ tree.found) ∧
      ∀ m, ∀ y ∈ tree.found, AtDistance (Linked edges) start m y → m ≤ n + 1

theorem grown_plant (edges : List (α × α)) (start : α) : Grown edges start [] (plant start) := by
  have hfound : (plant start).found = [start] := rfl
  have hself : AtDistance (Linked edges) start 0 start := atDistance_zero_iff.mpr rfl
  refine ⟨rfl, ?_, ?_, ?_, ?_, ?_, ?_⟩
  · rw [hfound]
    exact mem_cons_self
  · intro y hy
    rw [hfound, mem_singleton] at hy
    exact ⟨0, hy ▸ hself⟩
  · intro y hy hne
    rw [hfound, mem_singleton] at hy
    exact absurd hy hne
  · rw [hfound]
    exact pairwise_singleton _ _
  · intro x hx
    cases hx
  · intro x rest n hqueue hn
    obtain ⟨rfl, -⟩ := List.cons.inj hqueue
    obtain rfl : n = 0 := hn.unique hself
    constructor
    · intro m hm y hy
      obtain rfl : m = 0 := Nat.le_zero.mp hm
      rw [hfound, atDistance_zero_iff.mp hy]
      exact mem_cons_self
    · intro m y hy hm
      rw [hfound, mem_singleton] at hy
      rw [hy] at hm
      rw [hm.unique hself]
      exact Nat.zero_le _

section

variable (h : Grown edges start taken tree)
include h

theorem Grown.atDistance_new {current y : α}
    {rest : List α} {n : Nat} (hqueue : tree.queue = current :: rest)
    (hn : AtDistance (Linked edges) start n current) (hedge : Linked edges current y)
    (hnew : y ∉ tree.found) : AtDistance (Linked edges) start (n + 1) y := by
  rw [atDistance_succ_iff]
  refine ⟨⟨current, hn, hedge⟩, fun m hm hy => ?_⟩
  exact hnew ((h.level current rest n hqueue hn).1 m hm y hy)

theorem Grown.front_le {current x z : α}
    {rest new later : List α} {m n : Nat} (hqueue : tree.queue = current :: rest)
    (hfront : rest ++ new = x :: later) (hz : z ∈ rest)
    (hm : AtDistance (Linked edges) start m x) (hn : AtDistance (Linked edges) start n z) :
    m ≤ n := by
  cases rest with
  | nil => cases hz
  | cons first rest =>
    obtain ⟨rfl, -⟩ := List.cons.inj hfront
    rcases mem_cons.mp hz with rfl | hz
    · exact (hm.unique hn).le
    · have hordered := h.ordered
      rw [h.found, hqueue, pairwise_append, pairwise_cons, pairwise_cons]
        at hordered
      exact hordered.2.1.2.1 z hz m n hm hn

/-- A visit looks along the edges of one node. -/
theorem Grown.visit {current : α} {rest : List α}
    (hqueue : tree.queue = current :: rest) : Grown edges start (taken ++ [current])
      (edges.foldl (look current) { tree with queue := rest }) := by
  obtain ⟨new, hlooked⟩ := exists_looked edges current { tree with queue := rest }
  generalize edges.foldl (look current) { tree with queue := rest } = after at hlooked ⊢
  have hbefore : tree.found = taken ++ current :: rest := by rw [h.found, hqueue]
  have hfound : after.found = tree.found ++ new := hlooked.found
  have hafterQueue : after.queue = rest ++ new := hlooked.queue
  have hcurrent : current ∈ tree.found := by
    rw [hbefore]
    exact mem_append_right _ mem_cons_self
  obtain ⟨n, hn⟩ := h.exact current hcurrent
  have hlevel := h.level current rest n hqueue hn
  have hfresh : ∀ y ∈ new, AtDistance (Linked edges) start (n + 1) y := by
    intro y hy
    apply h.atDistance_new hqueue hn (hlooked.linked y hy).1
    intro hold
    have hnodup := nodup_found after
    rw [hfound, List.nodup_append] at hnodup
    exact hnodup.2.2 y hold y hy rfl
  have hclosed : ∀ x ∈ taken ++ [current], ∀ y, Linked edges x y → y ∈ after.found := by
    intro x hx y hedge
    rw [hfound]
    rcases mem_append.mp hx with hearlier | hlast
    · exact mem_append_left _ (h.closed x hearlier y hedge)
    · rw [mem_singleton.mp hlast] at hedge
      exact hlooked.all y hedge
  refine ⟨?_, ?_, ?_, ?_, ?_, hclosed, ?_⟩
  · rw [hfound, hafterQueue, hbefore]
    simp
  · rw [hfound]
    exact mem_append_left _ h.root
  · intro y hy
    rw [hfound] at hy
    rcases mem_append.mp hy with hold | hnew
    · exact h.exact y hold
    · exact ⟨n + 1, hfresh y hnew⟩
  · intro y hy hne
    rw [hfound] at hy
    rcases mem_append.mp hy with hold | hnew
    · obtain ⟨x, hx, hparent, hedgeTo, hedge⟩ := h.rooted y hold hne
      refine ⟨x, hfound ▸ mem_append_left _ hx, ?_, ?_, hedge⟩
      · rw [(hlooked.kept y hold).1]
        exact hparent
      · rw [(hlooked.kept y hold).2]
        exact hedgeTo
    · obtain ⟨hedge, hparent, hedgeTo⟩ := hlooked.linked y hnew
      refine ⟨current, hfound ▸ mem_append_left _ hcurrent, hparent, hedgeTo, hedge, ?_⟩
      intro m hm
      obtain rfl : m = n := Nat.succ.inj (hm.unique (hfresh y hnew))
      exact hn
  · rw [hfound, pairwise_append]
    refine ⟨h.ordered, ?_, ?_⟩
    · apply pairwise_of_forall_mem_list
      intro x hx y hy m k hm hk
      rw [hm.unique (hfresh x hx), hk.unique (hfresh y hy)]
    · intro x hx y hy m k hm hk
      rw [hk.unique (hfresh y hy)]
      exact hlevel.2 m x hx hm
  · intro x later m hafter hm
    have hx : x ∈ rest ++ new := by
      rw [← hafterQueue, hafter]
      exact mem_cons_self
    -- the next front is at the distance of this one or one step farther
    have hbound : n ≤ m ∧ m ≤ n + 1 := by
      rcases mem_append.mp hx with hold | hnew
      · have hordered := h.ordered
        rw [hbefore, pairwise_append, pairwise_cons] at hordered
        have hmem : x ∈ tree.found := by
          rw [hbefore]
          exact mem_append_right _ (mem_cons_of_mem _ hold)
        exact ⟨hordered.2.1.1 x hold n m hn hm, hlevel.2 m x hmem hm⟩
      · rw [hm.unique (hfresh x hnew)]
        exact ⟨Nat.le_succ n, Nat.le_refl _⟩
    constructor
    · intro k hk y hy
      rcases Nat.lt_or_ge n k with hfar | hnear
      · obtain rfl : k = n + 1 := by omega
        obtain rfl : m = n + 1 := by omega
        obtain ⟨⟨z, hz, hedge⟩, -⟩ := atDistance_succ_iff.mp hy
        refine hclosed z ?_ y hedge
        have hmem := hlevel.1 n (Nat.le_refl n) z hz
        rw [hbefore, append_cons, mem_append] at hmem
        rcases hmem with hvisited | hwaiting
        · exact hvisited
        · exact absurd (h.front_le hqueue (hafterQueue ▸ hafter) hwaiting hm hz) (by omega)
      · rw [hfound]
        exact mem_append_left _ (hlevel.1 k hnear y hy)
    · intro k y hy hk
      rw [hfound] at hy
      rcases mem_append.mp hy with hold | hnew
      · have hle := hlevel.2 k y hold hk
        omega
      · have heq := hk.unique (hfresh y hnew)
        omega

theorem Grown.length_le : taken.length ≤ edges.length + 1 := by
  have hsub : tree.found ⊆ start :: edges.map Prod.snd := by
    intro y hy
    obtain ⟨n, hn⟩ := h.exact y hy
    exact hn.1.mem_ends
  have hle := (subperm_of_subset (nodup_found tree) hsub).length_le
  rw [h.found] at hle
  simp only [length_append, length_cons, length_map] at hle
  omega

theorem Grown.reaches {y : α} (hy : y ∈ tree.found) :
    Relation.ReflTransGen (Linked edges) start y := by
  obtain ⟨n, hn⟩ := h.exact y hy
  exact exists_walk_iff.mp ⟨n, hn.1⟩

/-- When the queue is empty all that can be reached is found. -/
theorem Grown.mem_found_of_nil (hqueue : tree.queue = [])
    {y : α} (hy : Relation.ReflTransGen (Linked edges) start y) : y ∈ tree.found := by
  obtain ⟨n, hwalk⟩ := exists_walk_iff.mpr hy
  refine hwalk.mem_of_closed h.root fun x z hx hedge => h.closed x ?_ z hedge
  rwa [h.found, hqueue, append_nil] at hx

theorem Grown.grow (target : α) {fuel : Nat} (hfuel : edges.length + 2 ≤ taken.length + fuel) :
    ∃ result, grow edges target fuel tree = some result ∧ Rooted edges start result ∧
      (target ∈ result.found ↔ Relation.ReflTransGen (Linked edges) start target) := by
  induction fuel generalizing taken tree with
  | zero =>
    have hle := h.length_le
    omega
  | succ fuel ih =>
    rw [Search.grow]
    split
    next hqueue => exact ⟨tree, rfl, h.rooted, h.reaches, h.mem_found_of_nil hqueue⟩
    next current rest hqueue =>
      have hcurrent : current ∈ tree.found := by
        rw [h.found, hqueue]
        exact mem_append_right _ mem_cons_self
      split
      next htarget =>
        rw [htarget] at hcurrent
        exact ⟨_, rfl, h.rooted, h.reaches, fun _ => hcurrent⟩
      next =>
        apply ih (h.visit hqueue)
        simp only [length_append, length_cons, length_nil]
        omega

end

theorem Rooted.walkBack (h : Rooted edges start tree) {n fuel : Nat} {y : α}
    (hy : y ∈ tree.found) (hn : AtDistance (Linked edges) start n y) (hfuel : n < fuel)
    (behind : List (α × α)) : ∃ path, walkBack tree start fuel y behind = some (path ++ behind) ∧
      IsPath edges start y path ∧ path.length = n := by
  induction n generalizing y fuel behind with
  | zero =>
    obtain ⟨fuel, rfl⟩ := Nat.exists_eq_add_one.mpr hfuel
    have hstart := atDistance_zero_iff.mp hn
    exact ⟨[], by rw [Search.walkBack, if_pos hstart]; rfl, hstart.symm, rfl⟩
  | succ n ih =>
    obtain ⟨fuel, rfl⟩ := Nat.exists_eq_add_one.mpr (Nat.zero_lt_of_lt hfuel)
    have hne : y ≠ start := by
      rintro rfl
      have heq := hn.unique (atDistance_zero_iff.mpr rfl)
      omega
    obtain ⟨x, hx, hparent, hedgeTo, hedge, hnearer⟩ := h y hy hne
    obtain ⟨path, hback, hpath, hlength⟩ :=
      ih hx (hnearer n hn) (Nat.lt_of_succ_lt_succ hfuel) ((x, y) :: behind)
    refine ⟨path ++ [(x, y)], ?_, hpath.concat hedge, ?_⟩
    · rw [Search.walkBack, if_neg hne, hedgeTo, hparent]
      simp [hback]
    · rw [length_append, hlength]
      rfl

end Invariant

theorem exists_shortestPath (edges : List (α × α)) {start target : α} (hne : start ≠ target) :
    ∃ path, shortestPath edges start target = some path ∧
      (path ≠ [] ↔ Relation.ReflTransGen (Linked edges) start target) ∧
      (path ≠ [] → IsPath edges start target path ∧
        ∀ other, IsPath edges start target other → path.length ≤ other.length) := by
  obtain ⟨tree, hgrow, hrooted, hreached⟩ :=
    (grown_plant edges start).grow target (Nat.le_add_left _ _)
  rw [shortestPath, hgrow, Option.bind_some]
  by_cases hfound : target ∈ tree.found
  · have hsome := mem_found.mp hfound
    obtain ⟨n, hwalk⟩ := exists_walk_iff.mpr (hreached.mp hfound)
    obtain ⟨least, -, hleast⟩ := hwalk.exists_atDistance
    obtain ⟨path, hback, hpath, hlength⟩ :=
      hrooted.walkBack hfound hleast (Nat.lt_succ_of_le hleast.le_length) []
    rw [append_nil] at hback
    have hedges : path ≠ [] := by
      rintro rfl
      exact hne hpath
    refine ⟨path, ?_, ⟨fun _ => hreached.mp hfound, fun _ => hedges⟩, fun _ => ⟨hpath, ?_⟩⟩
    · rw [Option.isNone_eq_false_iff.mpr hsome, if_neg Bool.false_ne_true]
      exact hback
    · intro other hother
      rw [hlength]
      exact Nat.not_lt.mp fun hlt => hleast.2 _ hlt hother.walk
  · have hnone : (tree.parent.get? target).isNone = true := by
      rwa [mem_found, Option.not_isSome_iff_eq_none, ← Option.isNone_iff_eq_none] at hfound
    refine ⟨[], by rw [if_pos hnone], ⟨?_, fun hreach => ?_⟩, ?_⟩
    · exact fun habsurd => absurd rfl habsurd
    · exact absurd (hreached.mpr hreach) hfound
    · exact fun habsurd => absurd rfl habsurd

end HiAgent.Foundation.Search
