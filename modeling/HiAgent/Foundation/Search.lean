/-
  Foundation/Search.lean --- breadth-first search with a queue.

  `explore` takes a node from the front of the queue, and when it is new appends it
  to what has been seen and its neighbours to the queue. One unit of fuel for each node in the
  queue and for each neighbour of a node not yet seen is enough.
-/
import Mathlib.Data.List.Nodup
import Mathlib.Logic.Relation
import Mathlib.Order.Nat

namespace HiAgent.Foundation.Search

open List

variable {α : Type*} [DecidableEq α] (next : α → List α)

/-- Take nodes from the queue, oldest first, and list the new ones behind `seen`. -/
def explore : Nat → List α → List α → List α
  | 0, _, seen => seen
  | _ + 1, [], seen => seen
  | fuel + 1, node :: queue, seen =>
    if node ∈ seen then explore fuel queue seen
    else explore fuel (queue ++ (next node).filter (· ∉ seen ++ [node]))
      (seen ++ [node])

/-- `y` is a neighbour of `x`. -/
def Edge (x y : α) : Prop := y ∈ next x

def weight : List α → List α → Nat
  | [], _ => 0
  | node :: nodes, seen =>
    (if node ∈ seen then 0 else (next node).length) + weight nodes seen

variable {next}

/-! ## What is seen -/

variable {queue seen : List α} {fuel : Nat}

theorem nodup_explore (h : seen.Nodup) : (explore next fuel queue seen).Nodup := by
  induction fuel, queue, seen using explore.induct next with
  | case1 => exact h
  | case2 => exact h
  | case3 fuel node queue seen hseen ih =>
    rw [explore, if_pos hseen]
    exact ih h
  | case4 fuel node queue seen hnew ih =>
    rw [explore, if_neg hnew]
    refine ih (List.Nodup.append h (nodup_singleton node) ?_)
    intro other hother hnode
    rw [mem_singleton] at hnode
    exact hnew (hnode ▸ hother)

theorem subset_explore : seen ⊆ explore next fuel queue seen := by
  induction fuel, queue, seen using explore.induct next with
  | case1 => exact List.Subset.refl _
  | case2 => exact List.Subset.refl _
  | case3 fuel node queue seen hseen ih =>
    rw [explore, if_pos hseen]
    exact ih
  | case4 fuel node queue seen hnew ih =>
    rw [explore, if_neg hnew]
    exact List.Subset.trans (subset_append_left _ _) ih

theorem reached_of_mem_explore {y : α} (h : y ∈ explore next fuel queue seen) :
    y ∈ seen ∨ ∃ x ∈ queue, Relation.ReflTransGen (Edge next) x y := by
  induction fuel, queue, seen using explore.induct next with
  | case1 => exact .inl h
  | case2 => exact .inl h
  | case3 fuel node queue seen hseen ih =>
    rw [explore, if_pos hseen] at h
    rcases ih h with hold | ⟨x, hx, hreach⟩
    · exact .inl hold
    · exact .inr ⟨x, mem_cons_of_mem node hx, hreach⟩
  | case4 fuel node queue seen hnew ih =>
    rw [explore, if_neg hnew] at h
    rcases ih h with hold | ⟨x, hx, hreach⟩
    · rcases mem_append.mp hold with hold | hnode
      · exact .inl hold
      · rw [mem_singleton] at hnode
        exact .inr ⟨node, mem_cons_self, hnode ▸ .refl⟩
    · rcases mem_append.mp hx with hqueue | hneighbour
      · exact .inr ⟨x, mem_cons_of_mem node hqueue, hreach⟩
      · exact .inr ⟨node, mem_cons_self, .head (mem_of_mem_filter hneighbour) hreach⟩

/-! ## Enough fuel -/

theorem weight_le (nodes seen : List α) (node : α) :
    weight next nodes (seen ++ [node]) ≤ weight next nodes seen := by
  induction nodes with
  | nil => exact Nat.le_refl _
  | cons other nodes ih =>
    rw [weight, weight]
    by_cases hseen : other ∈ seen
    · rw [if_pos hseen, if_pos (mem_append_left _ hseen)]
      omega
    · rw [if_neg hseen]
      split <;> omega

theorem weight_add_le {nodes seen : List α} {node : α} (hmem : node ∈ nodes) (hnew : node ∉ seen) :
    weight next nodes (seen ++ [node]) + (next node).length ≤ weight next nodes seen := by
  induction nodes with
  | nil => cases hmem
  | cons other nodes ih =>
    have hle : weight next nodes (seen ++ [node]) ≤ weight next nodes seen :=
      weight_le nodes seen node
    rw [weight, weight]
    by_cases hnode : other = node
    · subst hnode
      rw [if_neg hnew, if_pos (mem_append_right _ (mem_singleton_self other))]
      omega
    · have hrest := ih ((mem_cons.mp hmem).resolve_left (Ne.symm hnode))
      by_cases hseen : other ∈ seen
      · rw [if_pos hseen, if_pos (mem_append_left _ hseen)]
        omega
      · rw [if_neg hseen]
        split <;> omega

def Pending (next : α → List α) (queue seen : List α) : Prop :=
  ∀ x ∈ seen, ∀ y ∈ next x, y ∈ seen ∨ y ∈ queue

theorem closed_explore {nodes : List α} (hnodes : ∀ x, x ∉ nodes → next x = [])
    (hfuel : queue.length + weight next nodes seen ≤ fuel)
    (hpending : Pending next queue seen) : queue ⊆ explore next fuel queue seen ∧
      ∀ x ∈ explore next fuel queue seen, ∀ y ∈ next x, y ∈ explore next fuel queue seen := by
  induction fuel, queue, seen using explore.induct next with
  | case1 queue seen =>
    obtain rfl : queue = [] := eq_nil_of_length_eq_zero (by omega)
    exact ⟨nil_subset _, fun x hx y hy => (hpending x hx y hy).resolve_right
      not_mem_nil⟩
  | case2 fuel seen =>
    exact ⟨nil_subset _, fun x hx y hy => (hpending x hx y hy).resolve_right
      not_mem_nil⟩
  | case3 fuel node queue seen hseen ih =>
    rw [explore, if_pos hseen]
    rw [length_cons] at hfuel
    have hrest := ih (by omega) fun x hx y hy => by
      rcases hpending x hx y hy with hy | hy
      · exact .inl hy
      · rcases mem_cons.mp hy with rfl | hy
        · exact .inl hseen
        · exact .inr hy
    refine ⟨cons_subset.mpr ⟨subset_explore hseen, hrest.1⟩, hrest.2⟩
  | case4 fuel node queue seen hnew ih =>
    rw [explore, if_neg hnew]
    rw [length_cons] at hfuel
    have hweight : (next node).length + weight next nodes (seen ++ [node]) ≤
        weight next nodes seen := by
      by_cases hmem : node ∈ nodes
      · have hadd : weight next nodes (seen ++ [node]) + (next node).length ≤
            weight next nodes seen := weight_add_le hmem hnew
        omega
      · rw [hnodes node hmem, length_nil, Nat.zero_add]
        exact weight_le nodes seen node
    have hfilter := length_filter_le (· ∉ seen ++ [node]) (next node)
    have hrest := ih (by rw [length_append]; omega) fun x hx y hy => by
      by_cases hyseen : y ∈ seen ++ [node]
      · exact .inl hyseen
      · rcases mem_append.mp hx with hx | hx
        · rcases hpending x hx y hy with hy | hy
          · exact absurd (mem_append_left _ hy) hyseen
          · rcases mem_cons.mp hy with rfl | hy
            · exact absurd (mem_append_right _ (mem_singleton_self y)) hyseen
            · exact .inr (mem_append_left _ hy)
        · rw [mem_singleton] at hx
          subst hx
          exact .inr (mem_append_right _ (mem_filter.mpr ⟨hy, decide_eq_true hyseen⟩))
    refine ⟨cons_subset.mpr ⟨subset_explore (mem_append_right _
      (mem_singleton_self node)), fun x hx => hrest.1 (mem_append_left _ hx)⟩,
      hrest.2⟩

theorem mem_explore_iff_exists {nodes : List α} (hnodes : ∀ x, x ∉ nodes → next x = [])
    {starts : List α} {y : α} (hfuel : starts.length + weight next nodes [] ≤ fuel) :
    y ∈ explore next fuel starts [] ↔ ∃ x ∈ starts, Relation.ReflTransGen (Edge next) x y := by
  have hpending : Pending next starts [] := fun x hx => absurd hx not_mem_nil
  have hclosed := closed_explore hnodes hfuel hpending
  constructor
  · intro h
    exact (reached_of_mem_explore h).resolve_left not_mem_nil
  · rintro ⟨start, hstart, hreach⟩
    induction hreach with
    | refl => exact hclosed.1 hstart
    | tail _ hedge ih => exact hclosed.2 _ ih _ hedge

/-- With enough fuel all that can be reached is found. -/
theorem mem_explore_iff {nodes : List α} (hnodes : ∀ x, x ∉ nodes → next x = []) {start y : α}
    (hfuel : 1 + weight next nodes [] ≤ fuel) :
    y ∈ explore next fuel [start] [] ↔ Relation.ReflTransGen (Edge next) start y := by
  rw [mem_explore_iff_exists hnodes hfuel]
  simp

variable {α : Type*} (edge : α → α → Prop) (start : α)

/-- A walk of so many edges leads to a node. -/
inductive Walk : Nat → α → Prop
  | start : Walk 0 start
  | step {n : Nat} {x y : α} (hwalk : Walk n x) (hedge : edge x y) : Walk (n + 1) y

def AtDistance (n : Nat) (y : α) : Prop := Walk edge start n y ∧ ∀ m < n, ¬ Walk edge start m y

variable {edge start} {n : Nat}

theorem Walk.mono {other : α → α → Prop} (hmono : ∀ x y, edge x y → other x y) {y : α}
    (h : Walk edge start n y) : Walk other start n y := by
  induction h with
  | start => exact .start
  | step hwalk hedge ih => exact .step ih (hmono _ _ hedge)

theorem Walk.mem_of_closed {P : α → Prop} (hstart : P start)
    (hclosed : ∀ x y, P x → edge x y → P y) {y : α} (h : Walk edge start n y) : P y := by
  induction h with
  | start => exact hstart
  | step hwalk hedge ih => exact hclosed _ _ ih hedge

theorem atDistance_zero_iff {y : α} : AtDistance edge start 0 y ↔ y = start := by
  constructor
  · rintro ⟨hwalk, -⟩
    cases hwalk
    rfl
  · rintro rfl
    exact ⟨.start, fun m hm => absurd hm (Nat.not_lt_zero m)⟩

theorem AtDistance.unique {m n : Nat} {y : α} (hm : AtDistance edge start m y)
    (hn : AtDistance edge start n y) : m = n := by
  rcases Nat.lt_trichotomy m n with hlt | heq | hgt
  · exact absurd hm.1 (hn.2 m hlt)
  · exact heq
  · exact absurd hn.1 (hm.2 n hgt)

theorem Walk.exists_atDistance {y : α} (h : Walk edge start n y) :
    ∃ m ≤ n, AtDistance edge start m y := by
  induction n using Nat.strong_induction_on with
  | _ n ih =>
    by_cases hshortest : ∃ m < n, Walk edge start m y
    · obtain ⟨m, hlt, hwalk⟩ := hshortest
      obtain ⟨least, hle, hleast⟩ := ih m hlt hwalk
      exact ⟨least, hle.trans hlt.le, hleast⟩
    · exact ⟨n, Nat.le_refl n, h, fun m hlt hwalk => hshortest ⟨m, hlt, hwalk⟩⟩

theorem atDistance_succ_iff {y : α} : AtDistance edge start (n + 1) y ↔
      (∃ x, AtDistance edge start n x ∧ edge x y) ∧ ∀ m ≤ n, ¬ AtDistance edge start m y := by
  constructor
  · intro h
    refine ⟨?_, fun m hm hearlier => ?_⟩
    · obtain ⟨hwalk, hleast⟩ := h
      cases hwalk with
      | @step _ x _ hx hedge =>
        obtain ⟨m, hm, hdist⟩ := hx.exists_atDistance
        -- a shorter walk to the node before would be one to this node
        obtain rfl : m = n := by
          by_contra hne
          exact hleast (m + 1) (by omega) (.step hdist.1 hedge)
        exact ⟨x, hdist, hedge⟩
    · have hsame := hearlier.unique h
      omega
  · rintro ⟨⟨x, hx, hedge⟩, hnew⟩
    obtain ⟨m, hm, hdist⟩ := (Walk.step hx.1 hedge).exists_atDistance
    rcases Nat.lt_or_ge n m with hlt | hge
    · obtain rfl : m = n + 1 := by omega
      exact hdist
    · exact absurd hdist (hnew m hge)

theorem atDistance_one_iff {y : α} : AtDistance edge start 1 y ↔ edge start y ∧ y ≠ start := by
  rw [atDistance_succ_iff]
  constructor
  · rintro ⟨⟨x, hx, hedge⟩, hnew⟩
    rw [atDistance_zero_iff.mp hx] at hedge
    exact ⟨hedge, fun hstart => hnew 0 (Nat.le_refl 0) (atDistance_zero_iff.mpr hstart)⟩
  · rintro ⟨hedge, hne⟩
    refine ⟨⟨start, atDistance_zero_iff.mpr rfl, hedge⟩, fun m hm hy => hne ?_⟩
    rw [Nat.le_zero.mp hm] at hy
    exact atDistance_zero_iff.mp hy

theorem not_atDistance_of_le {k : Nat} (hnone : ∀ y, ¬ AtDistance edge start k y)
    (hle : k ≤ n) (y : α) : ¬ AtDistance edge start n y := by
  induction n, hle using Nat.le_induction generalizing y with
  | base => exact hnone y
  | succ n hle ih =>
    intro h
    obtain ⟨⟨x, hx, -⟩, -⟩ := atDistance_succ_iff.mp h
    exact ih x hx

end HiAgent.Foundation.Search

namespace HiAgent.Foundation.Search

variable {α : Type*} {next : α → List α} {start : α} {n : Nat} {near far seen : List α}

def NearerFirst (next : α → List α) (start : α) (nodes : List α) : Prop :=
  nodes.Pairwise fun x y => ∀ m k,
    AtDistance (Edge next) start m x → AtDistance (Edge next) start k y → m ≤ k

/-- What holds while nodes at distance `n` are taken: `near` is what is left of them in the
queue, `far` is behind. -/
structure Breadth (next : α → List α) (start : α) (n : Nat) (near far seen : List α) : Prop where
  walkNear : ∀ x ∈ near, Walk (Edge next) start n x
  walkFar : ∀ x ∈ far, Walk (Edge next) start (n + 1) x
  exact : ∀ x ∈ seen, ∃ m ≤ n, AtDistance (Edge next) start m x
  ordered : NearerFirst next start seen
  below : ∀ m < n, ∀ x, AtDistance (Edge next) start m x → x ∈ seen
  level : ∀ x, AtDistance (Edge next) start n x → x ∈ seen ∨ x ∈ near
  after : ∀ x ∈ seen, AtDistance (Edge next) start n x → ∀ y ∈ next x, y ∈ seen ∨ y ∈ far

theorem breadth_start (next : α → List α) (start : α) : Breadth next start 0 [start] [] [] where
  walkNear x hx := by
    rw [List.mem_singleton.mp hx]
    exact .start
  walkFar _ hx := absurd hx List.not_mem_nil
  exact _ hx := absurd hx List.not_mem_nil
  ordered := List.Pairwise.nil
  below m hm := absurd hm (Nat.not_lt_zero m)
  level x hx := by
    rw [atDistance_zero_iff.mp hx]
    simp
  after _ hx := absurd hx List.not_mem_nil

theorem Breadth.deeper (h : Breadth next start n [] far seen) :
    Breadth next start (n + 1) far [] seen where
  walkNear := h.walkFar
  walkFar _ hx := absurd hx List.not_mem_nil
  exact x hx := by
    obtain ⟨m, hm, hdist⟩ := h.exact x hx
    exact ⟨m, by omega, hdist⟩
  ordered := h.ordered
  below m hm x hx := by
    rcases Nat.lt_or_ge m n with hlt | hge
    · exact h.below m hlt x hx
    · obtain rfl : m = n := by omega
      exact (h.level x hx).resolve_right List.not_mem_nil
  level y hy := by
    obtain ⟨⟨x, hx, hedge⟩, -⟩ := atDistance_succ_iff.mp hy
    have hseen := (h.level x hx).resolve_right List.not_mem_nil
    exact h.after x hseen hx y hedge
  after x hx hdist := by
    obtain ⟨m, hm, hexact⟩ := h.exact x hx
    have hsame := hexact.unique hdist
    omega

theorem Breadth.skip {node : α} (h : Breadth next start n (node :: near) far seen)
    (hseen : node ∈ seen) : Breadth next start n near far seen :=
  { h with
    walkNear x hx := h.walkNear x (List.mem_cons_of_mem node hx)
    level x hx := by
      rcases h.level x hx with hx | hx
      · exact .inl hx
      · rcases List.mem_cons.mp hx with rfl | hx
        · exact .inl hseen
        · exact .inr hx }

theorem Breadth.take {node : α} [DecidableEq α]
    (h : Breadth next start n (node :: near) far seen) (hnew : node ∉ seen) :
    Breadth next start n near (far ++ (next node).filter (· ∉ seen ++ [node]))
      (seen ++ [node]) := by
  have hnode : AtDistance (Edge next) start n node := by
    obtain ⟨m, hm, hdist⟩ := (h.walkNear node List.mem_cons_self).exists_atDistance
    rcases Nat.lt_or_ge m n with hlt | hge
    · exact absurd (h.below m hlt node hdist) hnew
    · obtain rfl : m = n := by omega
      exact hdist
  constructor
  · intro x hx
    exact h.walkNear x (List.mem_cons_of_mem node hx)
  · intro x hx
    rcases List.mem_append.mp hx with hx | hx
    · exact h.walkFar x hx
    · exact .step hnode.1 (List.mem_of_mem_filter hx)
  · intro x hx
    rcases List.mem_append.mp hx with hx | hx
    · exact h.exact x hx
    · rw [List.mem_singleton.mp hx]
      exact ⟨n, Nat.le_refl n, hnode⟩
  · refine List.pairwise_append.mpr ⟨h.ordered, List.pairwise_singleton _ node, ?_⟩
    intro x hx y hy m k hm hk
    rw [List.mem_singleton.mp hy] at hk
    obtain ⟨l, hl, hexact⟩ := h.exact x hx
    rw [hm.unique hexact, hk.unique hnode]
    exact hl
  · intro m hm x hx
    exact List.mem_append_left _ (h.below m hm x hx)
  · intro x hx
    rcases h.level x hx with hx | hx
    · exact .inl (List.mem_append_left _ hx)
    · rcases List.mem_cons.mp hx with rfl | hx
      · exact .inl (by simp)
      · exact .inr hx
  · intro x hx hdist y hy
    by_cases hold : y ∈ seen ++ [node]
    · exact .inl hold
    · right
      rcases List.mem_append.mp hx with hx | hx
      · rcases h.after x hx hdist y hy with hseen | hfar
        · exact absurd (List.mem_append_left _ hseen) hold
        · exact List.mem_append_left _ hfar
      · rw [List.mem_singleton.mp hx] at hy
        exact List.mem_append_right _ (List.mem_filter.mpr ⟨hy, decide_eq_true hold⟩)

/-- The nearer nodes are found first. -/
theorem Breadth.explore [DecidableEq α] (h : Breadth next start n near far seen) (fuel : Nat) :
    NearerFirst next start (explore next fuel (near ++ far) seen) := by
  induction fuel generalizing n near far seen with
  | zero => exact h.ordered
  | succ fuel ih =>
    have htake {n : Nat} {node : α} {near far : List α}
        (h : Breadth next start n (node :: near) far seen) :
        NearerFirst next start
          (Search.explore next (fuel + 1) (node :: (near ++ far)) seen) := by
      rw [Search.explore]
      split
      · rename_i hseen
        exact ih (h.skip hseen)
      · rename_i hnew
        rw [List.append_assoc]
        exact ih (h.take hnew)
    cases near with
    | cons node near => exact htake h
    | nil =>
      cases far with
      | nil => exact h.ordered
      | cons node far =>
        have hdeeper := htake h.deeper
        rwa [List.append_nil] at hdeeper

theorem nearerFirst_explore [DecidableEq α] (next : α → List α) (start : α) (fuel : Nat) :
    NearerFirst next start (explore next fuel [start] []) :=
  (breadth_start next start).explore fuel

end HiAgent.Foundation.Search
