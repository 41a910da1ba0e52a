/-
  Memory/GraphBackend/Distance.lean --- how far the two transitive queries go.

  The SQLite backend counts a node as visited when an edge to it is found, the graph when its
  own edges have been followed: of a depth `d` the first returns the nodes at distance one to
  `d`, the second those at distance one to `d - 1`.
-/
import HiAgent.Foundation.Search
import HiAgent.Memory.SqliteKgBackend

namespace HiAgent.Memory

open Foundation Foundation.Search List

/-! ## The graph -/

namespace LongTermMemoryGraph

variable {targets : String → List String} {start : String}

theorem mem_visitQueue_iff (queue visited nextQueue : List String) :
    (∀ y, y ∈ (visitQueue targets queue visited nextQueue).1 ↔ y ∈ visited ∨ y ∈ queue) ∧
      ∀ y, y ∈ (visitQueue targets queue visited nextQueue).2 ↔
        y ∈ nextQueue ∨ ∃ x ∈ queue, x ∉ visited ∧ y ∈ targets x := by
  induction queue generalizing visited nextQueue with
  | nil => exact ⟨fun y => by simp [visitQueue], fun y => by simp [visitQueue]⟩
  | cons nodeId queue ih =>
    rw [visitQueue]
    split
    · rename_i hmem
      obtain ⟨hvisited, hnext⟩ := ih visited nextQueue
      refine ⟨fun y => ?_, fun y => ?_⟩
      · rw [hvisited, mem_cons]
        constructor
        · exact fun h => h.imp_right .inr
        · rintro (hy | rfl | hy)
          · exact .inl hy
          · exact .inl hmem
          · exact .inr hy
      · rw [hnext]
        refine or_congr_right ⟨?_, ?_⟩
        · rintro ⟨x, hx, hrest⟩
          exact ⟨x, mem_cons_of_mem _ hx, hrest⟩
        · rintro ⟨x, hx, hnew, hy⟩
          rcases mem_cons.mp hx with rfl | hx
          · exact absurd hmem hnew
          · exact ⟨x, hx, hnew, hy⟩
    · rename_i hnew
      obtain ⟨hvisited, hnext⟩ := ih (visited ++ [nodeId]) (nextQueue ++ targets nodeId)
      refine ⟨fun y => ?_, fun y => ?_⟩
      · rw [hvisited, mem_append, mem_singleton, mem_cons, or_assoc]
      · rw [hnext, mem_append, or_assoc]
        refine or_congr_right ⟨?_, ?_⟩
        · rintro (hy | ⟨x, hx, hfresh, hy⟩)
          · exact ⟨nodeId, mem_cons_self, hnew, hy⟩
          · exact ⟨x, mem_cons_of_mem _ hx, fun hmem => hfresh (mem_append_left _ hmem), hy⟩
        · rintro ⟨x, hx, hfresh, hy⟩
          by_cases hsame : x = nodeId
          · exact .inl (hsame ▸ hy)
          · refine .inr ⟨x, (mem_cons.mp hx).resolve_left hsame, fun hmem => ?_, hy⟩
            rcases mem_append.mp hmem with hmem | hmem
            · exact hfresh hmem
            · exact hsame (mem_singleton.mp hmem)

/-- The queue holds the nodes at one distance, and those before are visited. -/
structure Layered (targets : String → List String) (start : String) (k : Nat)
    (queue visited : List String) : Prop where
  queue : ∀ y, y ∈ queue ↔ AtDistance (fun x y => y ∈ targets x) start k y
  visited : ∀ y, y ∈ visited ↔ ∃ n < k, AtDistance (fun x y => y ∈ targets x) start n y

theorem layered_start : Layered targets start 0 [start] [] := by
  refine ⟨fun y => ?_, fun y => ?_⟩
  · rw [mem_singleton, atDistance_zero_iff]
  · refine iff_of_false not_mem_nil ?_
    rintro ⟨n, hn, -⟩
    exact absurd hn (Nat.not_lt_zero n)

/-- A round takes the nodes of the next distance. -/
theorem Layered.next {k : Nat} {queue visited : List String}
    (h : Layered targets start k queue visited) : Layered targets start (k + 1)
      ((visitQueue targets queue visited []).2.filter (· ∉ (visitQueue targets queue visited []).1))
      (visitQueue targets queue visited []).1 := by
  obtain ⟨hvisited, hnext⟩ := @mem_visitQueue_iff targets queue visited []
  have hreached : ∀ y, y ∈ (visitQueue targets queue visited []).1 ↔
      ∃ n < k + 1, AtDistance (fun x y => y ∈ targets x) start n y := by
    intro y
    rw [hvisited, h.visited, h.queue]
    constructor
    · rintro (⟨n, hn, hy⟩ | hy)
      · exact ⟨n, Nat.lt_succ_of_lt hn, hy⟩
      · exact ⟨k, Nat.lt_succ_self k, hy⟩
    · rintro ⟨n, hn, hy⟩
      rcases Nat.lt_succ_iff_lt_or_eq.mp hn with hlt | rfl
      · exact .inl ⟨n, hlt, hy⟩
      · exact .inr hy
  refine ⟨fun y => ?_, hreached⟩
  rw [mem_filter, decide_eq_true_eq, hreached, hnext, atDistance_succ_iff]
  refine and_congr ?_ ?_
  · constructor
    · rintro (hy | ⟨x, hx, -, hy⟩)
      · exact absurd hy not_mem_nil
      · exact ⟨x, (h.queue x).mp hx, hy⟩
    · rintro ⟨x, hx, hy⟩
      refine .inr ⟨x, (h.queue x).mpr hx, fun hmem => ?_, hy⟩
      -- no node is at two distances
      obtain ⟨n, hn, hearlier⟩ := (h.visited x).mp hmem
      exact absurd (hearlier.unique hx) (Nat.ne_of_lt hn)
  · constructor
    · exact fun hnone m hm hy => hnone ⟨m, Nat.lt_succ_of_le hm, hy⟩
    · rintro hnone ⟨m, hm, hy⟩
      exact hnone m (Nat.le_of_lt_succ hm) hy

theorem mem_visitLayers_iff {k : Nat} {queue visited : List String}
    (h : Layered targets start k queue visited) (depth : Nat) (y : String) :
    y ∈ visitLayers targets depth queue visited ↔
      ∃ n < k + depth, AtDistance (fun x y => y ∈ targets x) start n y := by
  induction depth generalizing k queue visited with
  | zero => exact h.visited y
  | succ depth ih =>
    rw [visitLayers]
    split
    · rename_i hempty
      have hnone : ∀ y, ¬ AtDistance (fun x y => y ∈ targets x) start k y := by
        intro y hy
        have hmem := (h.queue y).mpr hy
        rw [hempty] at hmem
        exact not_mem_nil hmem
      rw [h.visited]
      constructor
      · rintro ⟨n, hn, hy⟩
        exact ⟨n, by omega, hy⟩
      · rintro ⟨n, -, hy⟩
        refine ⟨n, Nat.lt_of_not_le fun hle => ?_, hy⟩
        exact not_atDistance_of_le hnone hle y hy
    · rw [ih h.next, Nat.add_right_comm, Nat.add_assoc]

/-- The closure has the nodes nearer than the depth. -/
theorem mem_findTransitiveClosure_iff {ρ β : Type} (graph : LongTermMemoryGraph ρ β)
    (relationType : Option String) (maxDepth : Int) (y : String) :
    y ∈ graph.findTransitiveClosure start relationType maxDepth ↔
      y ≠ start ∧ ∃ n : Nat, n < maxDepth ∧
        AtDistance (fun x y => y ∈ graph.targets relationType x) start n y := by
  rw [findTransitiveClosure, mem_filter, mem_visitLayers_iff layered_start, bne_iff_ne,
    and_comm, Nat.zero_add]
  refine and_congr_right fun _ => exists_congr fun n => and_congr_left fun _ => ?_
  omega

theorem mem_targets_iff {ρ β : Type} {graph : LongTermMemoryGraph ρ β} {relation x y : String} :
    y ∈ graph.targets (some relation) x ↔
      ∃ edge ∈ graph.edges, edge.sourceId = x ∧ edge.targetId = y ∧
        edge.relationType = relation := by
  rw [targets, mem_map]
  constructor
  · rintro ⟨edge, hedge, rfl⟩
    simp only [mem_filter, Option.all_some, Bool.and_eq_true, beq_iff_eq] at hedge
    exact ⟨edge, hedge.1, hedge.2.1, rfl, hedge.2.2⟩
  · rintro ⟨edge, hmem, hsource, rfl, hrelation⟩
    refine ⟨edge, ?_, rfl⟩
    simp only [mem_filter, Option.all_some, Bool.and_eq_true, beq_iff_eq]
    exact ⟨hmem, hsource, hrelation⟩

end LongTermMemoryGraph

/-! ## The SQLite backend -/

namespace SqliteKnowledgeGraphBackend

variable {next : String → List Edge} {start : String}

/-- What the edges of one round add. -/
structure Reached (start : String) (edges : List Edge) (before after : Expansion) : Prop where
  visited : ∀ y, y ∈ after.visited ↔ y ∈ before.visited ∨ y ≠ start ∧ ∃ edge ∈ edges, edge.dst = y
  frontier : ∀ y, y ∈ after.frontier ↔
    y ∈ before.frontier ∨ y ≠ start ∧ y ∉ before.visited ∧ ∃ edge ∈ edges, edge.dst = y
  sound : ∀ path ∈ after.paths, path ∈ before.paths ∨
    ∃ edge ∈ edges, edge.dst ≠ start ∧ edge.dst ∉ before.visited ∧
      path = ⟨[start, edge.dst], [edge]⟩
  kept : before.paths ⊆ after.paths
  complete : ∀ edge ∈ edges, edge.dst ≠ start → edge.dst ∉ before.visited →
    ∃ path ∈ after.paths, path.nodes = [start, edge.dst]

theorem reached_nil (walk : Expansion) : Reached start [] walk walk := by
  constructor <;> simp

theorem reached_singleton (walk : Expansion) (edge : Edge) :
    Reached start [edge] walk (reach start walk edge) := by
  rw [reach]
  split
  · rename_i hnew
    obtain ⟨hfresh, hne⟩ := hnew
    constructor
    · intro y
      simp only [mem_cons, not_mem_nil, or_false, exists_eq_left]
      constructor
      · rintro (rfl | hy)
        · exact .inr ⟨hne, rfl⟩
        · exact .inl hy
      · rintro (hy | ⟨-, rfl⟩)
        · exact .inr hy
        · exact .inl rfl
    · intro y
      simp only [mem_append, mem_singleton, exists_eq_left]
      constructor
      · rintro (hy | rfl)
        · exact .inl hy
        · exact .inr ⟨hne, hfresh, rfl⟩
      · rintro (hy | ⟨-, -, rfl⟩)
        · exact .inl hy
        · exact .inr rfl
    · intro path hpath
      rcases mem_append.mp hpath with hpath | hpath
      · exact .inl hpath
      · exact .inr ⟨edge, mem_singleton_self edge, hne, hfresh, mem_singleton.mp hpath⟩
    · exact subset_append_left _ _
    · intro other hother _ _
      rw [mem_singleton.mp hother]
      exact ⟨_, mem_append_right _ (mem_singleton_self _), rfl⟩
  · rename_i hold
    have hseen : edge.dst ≠ start → edge.dst ∈ walk.visited := fun hne => by
      by_contra hfresh
      exact hold ⟨hfresh, hne⟩
    constructor
    · intro y
      simp only [mem_singleton, exists_eq_left]
      refine ⟨.inl, ?_⟩
      rintro (hy | ⟨hne, rfl⟩)
      · exact hy
      · exact hseen hne
    · intro y
      simp only [mem_singleton, exists_eq_left]
      refine ⟨.inl, ?_⟩
      rintro (hy | ⟨hne, hfresh, rfl⟩)
      · exact hy
      · exact absurd (hseen hne) hfresh
    · exact fun path hpath => .inl hpath
    · exact List.Subset.refl _
    · intro other hother hne hfresh
      rw [mem_singleton.mp hother] at hne hfresh
      exact absurd (hseen hne) hfresh

theorem Reached.trans {first second : List Edge} {before between after : Expansion}
    (hfirst : Reached start first before between) (hsecond : Reached start second between after) :
    Reached start (first ++ second) before after := by
  have heither : ∀ y, (∃ edge ∈ first ++ second, edge.dst = y) ↔
      (∃ edge ∈ first, edge.dst = y) ∨ ∃ edge ∈ second, edge.dst = y := by
    intro y
    simp only [mem_append, or_and_right, exists_or]
  constructor
  · intro y
    rw [hsecond.visited, hfirst.visited, heither, and_or_left, or_assoc]
  · intro y
    rw [hsecond.frontier, hfirst.frontier, hfirst.visited, heither]
    generalize (∃ edge ∈ first, edge.dst = y) = infirst
    generalize (∃ edge ∈ second, edge.dst = y) = insecond
    tauto
  · intro path hpath
    rcases hsecond.sound path hpath with hpath | ⟨edge, hedge, hne, hfresh, heq⟩
    · rcases hfirst.sound path hpath with hpath | ⟨edge, hedge, hrest⟩
      · exact .inl hpath
      · exact .inr ⟨edge, mem_append_left _ hedge, hrest⟩
    · have hnew : edge.dst ∉ before.visited :=
        fun hmem => hfresh ((hfirst.visited edge.dst).mpr (.inl hmem))
      exact .inr ⟨edge, mem_append_right _ hedge, hne, hnew, heq⟩
  · exact List.Subset.trans hfirst.kept hsecond.kept
  · have hearlier : ∀ edge ∈ first, edge.dst ≠ start → edge.dst ∉ before.visited →
        ∃ path ∈ after.paths, path.nodes = [start, edge.dst] := by
      intro edge hedge hne hfresh
      obtain ⟨path, hpath, hnodes⟩ := hfirst.complete edge hedge hne hfresh
      exact ⟨path, hsecond.kept hpath, hnodes⟩
    intro edge hedge hne hfresh
    rcases mem_append.mp hedge with hedge | hedge
    · exact hearlier edge hedge hne hfresh
    · by_cases hbetween : edge.dst ∈ between.visited
      · -- an edge of the first part has led there already
        obtain ⟨-, other, hother, hsame⟩ :=
          ((hfirst.visited edge.dst).mp hbetween).resolve_left hfresh
        rw [← hsame] at hne hfresh ⊢
        exact hearlier other hother hne hfresh
      · exact hsecond.complete edge hedge hne hbetween

theorem reached_foldl (edges : List Edge) (walk : Expansion) :
    Reached start edges walk (edges.foldl (reach start) walk) := by
  induction edges generalizing walk with
  | nil => exact reached_nil walk
  | cons edge rest ih => exact (reached_singleton walk edge).trans (ih _)

def Leads (next : String → List Edge) (x y : String) : Prop := ∃ edge ∈ next x, edge.dst = y

/-- What the rounds so far have found. -/
structure Expanded (next : String → List Edge) (start : String) (k : Nat) (walk : Expansion) :
    Prop where
  frontier : ∀ y, y ∈ walk.frontier ↔ AtDistance (Leads next) start k y
  visited : ∀ y, y ∈ walk.visited ↔ ∃ n, 1 ≤ n ∧ n ≤ k ∧ AtDistance (Leads next) start n y
  sound : ∀ path ∈ walk.paths, ∃ n < k, ∃ x, AtDistance (Leads next) start n x ∧
    ∃ edge ∈ next x, AtDistance (Leads next) start (n + 1) edge.dst ∧
      path = ⟨[start, edge.dst], [edge]⟩
  complete : ∀ n y, 1 ≤ n → n ≤ k → AtDistance (Leads next) start n y →
    ∃ path ∈ walk.paths, path.nodes = [start, y]

theorem expanded_start : Expanded next start 0 ⟨[], [start], []⟩ := by
  constructor
  · intro y
    rw [mem_singleton, atDistance_zero_iff]
  · intro y
    refine iff_of_false not_mem_nil ?_
    rintro ⟨n, hpos, hle, -⟩
    omega
  · exact fun path hpath => absurd hpath not_mem_nil
  · intro n y hpos hle
    omega

theorem Expanded.round {k : Nat} {walk : Expansion} (h : Expanded next start k walk) :
    Expanded next start (k + 1)
      ((walk.frontier.flatMap next).foldl (reach start) { walk with frontier := [] }) := by
  have hround : Reached start (walk.frontier.flatMap next) { walk with frontier := [] }
      ((walk.frontier.flatMap next).foldl (reach start) { walk with frontier := [] }) :=
    reached_foldl _ _
  have hleads : ∀ y, (∃ edge ∈ walk.frontier.flatMap next, edge.dst = y) ↔
      ∃ x, AtDistance (Leads next) start k x ∧ Leads next x y := by
    intro y
    constructor
    · rintro ⟨edge, hedge, hdst⟩
      obtain ⟨x, hx, hedge⟩ := mem_flatMap.mp hedge
      exact ⟨x, (h.frontier x).mp hx, edge, hedge, hdst⟩
    · rintro ⟨x, hx, edge, hedge, hdst⟩
      exact ⟨edge, mem_flatMap.mpr ⟨x, (h.frontier x).mpr hx, hedge⟩, hdst⟩
  -- new is what is at no smaller distance, the start included
  have hnew : ∀ y, (y ≠ start ∧ y ∉ walk.visited) ↔
      ∀ m ≤ k, ¬ AtDistance (Leads next) start m y := by
    intro y
    rw [h.visited]
    constructor
    · rintro ⟨hne, hfresh⟩ m hm hy
      rcases Nat.eq_zero_or_pos m with rfl | hpos
      · exact hne (atDistance_zero_iff.mp hy)
      · exact hfresh ⟨m, hpos, hm, hy⟩
    · intro hnone
      refine ⟨fun hstart => hnone 0 (Nat.zero_le k) (atDistance_zero_iff.mpr hstart), ?_⟩
      rintro ⟨m, -, hm, hy⟩
      exact hnone m hm hy
  have hlayer : ∀ y, (y ≠ start ∧ y ∉ walk.visited ∧
      ∃ edge ∈ walk.frontier.flatMap next, edge.dst = y) ↔
        AtDistance (Leads next) start (k + 1) y := by
    intro y
    rw [← and_assoc, hnew, hleads, atDistance_succ_iff, and_comm]
  constructor
  · intro y
    rw [hround.frontier, ← hlayer]
    exact or_iff_right not_mem_nil
  · intro y
    rw [hround.visited]
    constructor
    · rintro (hy | ⟨hne, hedge⟩)
      · obtain ⟨n, hpos, hn, hdist⟩ := (h.visited y).mp hy
        exact ⟨n, hpos, Nat.le_succ_of_le hn, hdist⟩
      · by_cases hy : y ∈ walk.visited
        · obtain ⟨n, hpos, hn, hdist⟩ := (h.visited y).mp hy
          exact ⟨n, hpos, Nat.le_succ_of_le hn, hdist⟩
        · exact ⟨k + 1, Nat.le_add_left 1 k, Nat.le_refl _, (hlayer y).mp ⟨hne, hy, hedge⟩⟩
    · rintro ⟨n, hpos, hn, hdist⟩
      rcases Nat.le_succ_iff.mp hn with hn | rfl
      · exact .inl ((h.visited y).mpr ⟨n, hpos, hn, hdist⟩)
      · obtain ⟨hne, -, hedge⟩ := (hlayer y).mpr hdist
        exact .inr ⟨hne, hedge⟩
  · intro path hpath
    rcases hround.sound path hpath with hpath | ⟨edge, hedge, hne, hfresh, heq⟩
    · obtain ⟨n, hn, hrest⟩ := h.sound path hpath
      exact ⟨n, Nat.lt_succ_of_lt hn, hrest⟩
    · have hdist := (hlayer edge.dst).mp ⟨hne, hfresh, edge, hedge, rfl⟩
      obtain ⟨x, hx, hedge⟩ := mem_flatMap.mp hedge
      exact ⟨k, Nat.lt_succ_self k, x, (h.frontier x).mp hx, edge, hedge, hdist, heq⟩
  · intro n y hpos hn hdist
    rcases Nat.le_succ_iff.mp hn with hn | rfl
    · obtain ⟨path, hpath, hnodes⟩ := h.complete n y hpos hn hdist
      exact ⟨path, hround.kept hpath, hnodes⟩
    · obtain ⟨hne, hfresh, edge, hedge, rfl⟩ := (hlayer y).mpr hdist
      exact hround.complete edge hedge hne hfresh

theorem expanded_rounds {k : Nat} {walk : Expansion} (h : Expanded next start k walk)
    (depth : Nat) : Expanded next start (k + depth) (rounds start next depth walk) := by
  induction depth generalizing k walk with
  | zero => exact h
  | succ depth ih =>
    have hnext := ih h.round
    rwa [Nat.add_right_comm, Nat.add_assoc] at hnext

theorem mem_rounds {depth : Nat} {path : GraphPath}
    (hpath : path ∈ (rounds start next depth ⟨[], [start], []⟩).paths) :
    ∃ n < depth, ∃ x, AtDistance (Leads next) start n x ∧
      ∃ edge ∈ next x, AtDistance (Leads next) start (n + 1) edge.dst ∧
        path = ⟨[start, edge.dst], [edge]⟩ := by
  have h := (expanded_rounds (@expanded_start next start) depth).sound path hpath
  rwa [Nat.zero_add] at h

theorem exists_rounds_iff (depth : Nat) (y : String) :
    (∃ path ∈ (rounds start next depth ⟨[], [start], []⟩).paths, path.nodes = [start, y]) ↔
      y ≠ start ∧ ∃ n, 1 ≤ n ∧ n ≤ depth ∧ AtDistance (Leads next) start n y := by
  have h := expanded_rounds (@expanded_start next start) depth
  rw [Nat.zero_add] at h
  constructor
  · rintro ⟨path, hpath, hnodes⟩
    obtain ⟨n, hn, x, hx, edge, hedge, hdist, rfl⟩ := h.sound path hpath
    obtain rfl : edge.dst = y := by simpa using hnodes
    refine ⟨fun hstart => ?_, n + 1, Nat.le_add_left 1 n, hn, hdist⟩
    have hzero := hdist.unique (atDistance_zero_iff.mpr hstart)
    omega
  · rintro ⟨-, n, hpos, hn, hdist⟩
    exact h.complete n y hpos hn hdist

end SqliteKnowledgeGraphBackend

end HiAgent.Memory
