/-
  Memory/LongTerm/Index.lean --- what shadows the nodes and the edges of a graph.

  The index of terms and the cache of embeddings are kept when a node is added for the first time
  or removed, not when one is added again or updated.
-/
import HiAgent.Foundation.Machine
import HiAgent.Memory.LongTerm
import Mathlib.Data.List.Dedup

namespace HiAgent.Memory

open Foundation Server List

/-! ## Adjacency lists -/

namespace Adjacency

variable (adjacency : Adjacency)

@[simp] theorem of_set (id other : String) (neighbours : List String) :
    Adjacency.of (adjacency.set id neighbours) other =
      if other = id then neighbours else Adjacency.of adjacency other :=
  Dict.getD_set adjacency id other neighbours []

theorem of_append (id other node : String) : (Adjacency.append adjacency id other).of node =
      if node = id then Adjacency.of adjacency id ++ [other] else Adjacency.of adjacency node :=
  of_set adjacency id node _

theorem mem_link {source target first second : String} :
    second ∈ (Adjacency.link adjacency source target).of first ↔
      second ∈ Adjacency.of adjacency first ∨ first = source ∧ second = target ∨
        first = target ∧ second = source := by
  have happend : ∀ (adjacency : Adjacency) (id other : String),
      second ∈ (Adjacency.append adjacency id other).of first ↔
        second ∈ Adjacency.of adjacency first ∨ first = id ∧ second = other := by
    intro adjacency id other
    rw [of_append]
    split
    · rename_i hid
      rw [mem_append, mem_singleton, hid, and_iff_right rfl]
    · rename_i hid
      exact ⟨.inl, fun h => h.resolve_right fun hboth => hid hboth.1⟩
  rw [Adjacency.link, happend, happend, or_assoc]

theorem mem_dropAll {id other first second : String} :
    second ∈ (Adjacency.dropAll adjacency id other).of first ↔
      second ∈ Adjacency.of adjacency first ∧ ¬ (first = id ∧ second = other) := by
  rw [Adjacency.dropAll]
  split
  · rename_i hnone
    refine ⟨fun h => ⟨h, ?_⟩, fun h => h.1⟩
    rintro ⟨rfl, -⟩
    rw [Adjacency.of, Dict.getD, hnone] at h
    exact not_mem_nil h
  · rename_i neighbours hsome
    rw [of_set]
    split
    · rename_i hid
      rw [hid, Adjacency.of, Dict.getD, hsome, Option.getD_some, mem_filter, bne_iff_ne,
        ne_eq, and_iff_right rfl]
    · rename_i hid
      exact ⟨fun h => ⟨h, fun hboth => hid hboth.1⟩, fun h => h.1⟩

theorem count_dropFirst (id other first second : String) :
    ((Adjacency.dropFirst adjacency id other).of first).count second =
      (Adjacency.of adjacency first).count second -
        if first = id ∧ second = other then 1 else 0 := by
  rw [Adjacency.dropFirst]
  split
  · rename_i hnone
    split
    · rename_i hboth
      rw [hboth.1, Adjacency.of, Dict.getD, hnone]
      rfl
    · rfl
  · rename_i neighbours hsome
    have hof : Adjacency.of adjacency id = neighbours := by
      rw [Adjacency.of, Dict.getD, hsome, Option.getD_some]
    split
    · rw [of_set]
      split
      · rename_i hid
        rw [hid, hof, count_erase]
        refine congrArg (List.count second neighbours - ·) (if_congr ?_ rfl rfl)
        rw [beq_iff_eq, and_iff_right rfl, eq_comm]
      · rename_i hid
        rw [if_neg fun hboth => hid hboth.1, Nat.sub_zero]
    · rename_i hmem
      split
      · rename_i hboth
        rw [hboth.1, hboth.2, hof, count_eq_zero.mpr hmem]
      · rfl

end Adjacency

/-! ## Histories -/

/-- A call. -/
inductive GraphEvent where
  | addNode (node : MemoryNode) (now : String)
  | updateNode (id : String) (content : Option String) (tags : Option (List String)) (now : String)
  | upsertNode (id : String) (payload : NodePayload) (now : String)
  | removeNode (id : String)
  | addEdge (edge : MemoryEdge)
  | removeEdge (source target : String)
  | upsertEdge (src dst relation : String) (payload : PyDict)
  | search (query : String)
  | save
  | load

namespace LongTermMemoryGraph

variable {ρ β : Type} (text : GraphText ρ β) (posture : Posture)
  (graph : LongTermMemoryGraph ρ β)

/-- One call. -/
def step (graph : LongTermMemoryGraph ρ β) : GraphEvent → LongTermMemoryGraph ρ β
  | .addNode node now => graph.addNode text node now
  | .updateNode id content tags now => graph.updateNode id content tags now
  | .upsertNode id payload now => (graph.upsertNode text posture id payload now).1
  | .removeNode id => graph.removeNode id
  | .addEdge edge => graph.addEdge edge
  | .removeEdge source target => graph.removeEdge source target
  | .upsertEdge src dst relation payload =>
    (graph.upsertEdge text posture src dst relation payload).1
  | .search query => graph.search text query
  | .save => graph.save
  | .load => (graph.load text posture).1

def Embedded : Prop :=
  ∀ id vector, graph.embeddings.get? id = some vector →
    ∃ embed ∈ text.embeddingFn, ∃ node, graph.nodes.get? id = some node ∧
      vector = embed node.content

/-- The index is the one it would be rebuilt to, the cache is that of the nodes of now, and
the neighbours of a node are the nodes joined to it. -/
structure Law : Prop where
  index : graph.index.Same (rebuildIndex text graph.nodes)
  embedded : graph.Embedded text
  neighbours : ∀ id node, node ∈ graph.getNeighbors id none ↔
    ∃ other, graph.nodes.get? other = some node ∧ Joined graph.edges id other

def CachedAs (id content : String) : Prop :=
  ∀ vector ∈ graph.embeddings.get? id, ∀ embed ∈ text.embeddingFn, vector = embed content

/-- How often `upsert_edge` takes one node out of the list of the other. -/
def taken (src dst : String) : Nat := if src = dst then 2 else 1

/-- A node is added where there is none, or where the old one has no terms; an update keeps
the frequencies of the terms; either keeps the embedding, if it is cached. No edge points
the other way where one is removed. Where `upsert_edge` raises, another edge joins the two
nodes exactly if each has the other more often in its list than is taken out. -/
def Meets : GraphEvent → Prop
  | .addNode node _ =>
    ∀ old ∈ graph.nodes.get? node.nodeId,
      text.terms old.content = [] ∧ graph.CachedAs text node.nodeId node.content
  | .updateNode id content _ _ =>
    ∀ old ∈ graph.nodes.get? id, ∀ new ∈ content,
      (TermIndex.frequencies text.ratio (text.terms old.content)).get? =
          (TermIndex.frequencies text.ratio (text.terms new)).get? ∧
        graph.CachedAs text id new
  | .upsertNode id payload _ =>
    ∀ old ∈ graph.nodes.get? id, ∀ new ∈ payload.content,
      (TermIndex.frequencies text.ratio (text.terms old.content)).get? =
          (TermIndex.frequencies text.ratio (text.terms new)).get? ∧
        graph.CachedAs text id new
  | .removeEdge source target =>
    source = target ∨ ∀ edge ∈ graph.edges, ¬ (edge.sourceId = target ∧ edge.targetId = source)
  | .upsertEdge src dst relation payload =>
    (∃ raised, upsertedEdge text posture src dst relation payload = .error raised) →
      ∀ first second, first = src ∧ second = dst ∨ first = dst ∧ second = src →
        ((∃ edge ∈ graph.edges, edge.joins first second ∧
            ¬ (edge.sourceId = src ∧ edge.targetId = dst ∧ edge.relationType = relation)) ↔
          taken src dst < (Adjacency.of graph.adjacency first).count second)
  | _ => True

/-! ## The invariant -/

/-- What every call keeps: nodes are under their own names, edges between nodes, and so in
the file. -/
structure Shape : Prop where
  keyed : ∀ id node, graph.nodes.get? id = some node → node.nodeId = id
  ends : ∀ edge ∈ graph.edges,
    (graph.nodes.get? edge.sourceId).isSome ∧ (graph.nodes.get? edge.targetId).isSome
  fileKeyed : ∀ file ∈ graph.file, ∀ id node, file.nodes.get? id = some node → node.nodeId = id
  fileEnds : ∀ file ∈ graph.file, ∀ edge ∈ file.edges,
    (file.nodes.get? edge.sourceId).isSome ∧ (file.nodes.get? edge.targetId).isSome

/-- The shape, and what shadows the nodes and the edges. -/
structure Inv : Prop extends Shape graph where
  reflects : graph.index.Reflects text.ratio (fun node => text.terms node.content) graph.nodes
  embedded : graph.Embedded text
  adjacent : ∀ first second,
    second ∈ Adjacency.of graph.adjacency first ↔ Joined graph.edges first second

variable {text posture graph} {node : MemoryNode}

theorem mem_getNeighbors_iff (h : graph.Shape) {id other : String}
    (hnode : graph.nodes.get? other = some node) :
    node ∈ graph.getNeighbors id none ↔ other ∈ Adjacency.of graph.adjacency id := by
  rw [getNeighbors, Adjacency.of, Dict.getD]
  cases graph.adjacency.get? id with
  | none => exact iff_of_false not_mem_nil not_mem_nil
  | some neighbours =>
    rw [mem_filterMap, Option.getD_some]
    constructor
    · rintro ⟨neighbour, hmem, hget⟩
      have hsame : neighbour = other := by
        rw [← h.keyed neighbour node hget, h.keyed other node hnode]
      exact hsame ▸ mem_dedup.mp hmem
    · intro hmem
      exact ⟨other, mem_dedup.mpr hmem, hnode⟩

variable {id : String}

theorem exists_of_mem_getNeighbors (h : node ∈ graph.getNeighbors id none) :
    ∃ other ∈ Adjacency.of graph.adjacency id, graph.nodes.get? other = some node := by
  rw [getNeighbors] at h
  rw [Adjacency.of, Dict.getD]
  split at h
  · exact absurd h not_mem_nil
  · rename_i neighbours hneighbours
    obtain ⟨neighbour, hmem, hget⟩ := mem_filterMap.mp h
    rw [hneighbours]
    exact ⟨neighbour, mem_dedup.mp hmem, hget⟩

theorem rebuildIndex_eq {nodes : Dict String MemoryNode}
    (hkeyed : ∀ id node, nodes.get? id = some node → node.nodeId = id) :
    rebuildIndex text nodes =
      TermIndex.ofDocuments text.ratio (fun node : MemoryNode => text.terms node.content)
        nodes.rows := by
  have hrows : ∀ row ∈ nodes.rows, row.2.nodeId = row.1 :=
    fun row hrow => hkeyed row.1 row.2 (Dict.get?_eq_some_iff.mpr hrow)
  rw [rebuildIndex, TermIndex.ofDocuments]
  refine foldl_ext _ _ _ fun index row hrow => ?_
  rw [hrows row hrow]

theorem Shape.same_iff (h : graph.Shape) : graph.index.Same (rebuildIndex text graph.nodes) ↔
      graph.index.Reflects text.ratio (fun node => text.terms node.content) graph.nodes := by
  rw [rebuildIndex_eq h.keyed, TermIndex.reflects_iff_same]

variable {first second : String}

theorem Law.mem_of_iff (hlaw : graph.Law text) (h : graph.Shape)
    (hsecond : (graph.nodes.get? second).isSome) :
    second ∈ Adjacency.of graph.adjacency first ↔ Joined graph.edges first second := by
  obtain ⟨node, hnode⟩ := Option.isSome_iff_exists.mp hsecond
  rw [← mem_getNeighbors_iff h hnode, hlaw.neighbours]
  constructor
  · rintro ⟨other, hother, hjoined⟩
    rwa [← h.keyed second node hnode, h.keyed other node hother]
  · exact fun hjoined => ⟨second, hnode, hjoined⟩

/-- The invariant gives the law. -/
theorem Inv.law (h : graph.Inv text) : graph.Law text where
  index := h.same_iff.mpr h.reflects
  embedded := h.embedded
  neighbours id node := by
    constructor
    · intro hmem
      obtain ⟨other, hother, hnode⟩ := exists_of_mem_getNeighbors hmem
      exact ⟨other, hnode, (h.adjacent id other).mp hother⟩
    · rintro ⟨other, hnode, hjoined⟩
      exact (mem_getNeighbors_iff h.toShape hnode).mpr ((h.adjacent id other).mpr hjoined)

/-! ## Nodes -/

theorem isSome_set {nodes : Dict String MemoryNode} {id other : String}
    (h : (nodes.get? other).isSome) : ((nodes.set id node).get? other).isSome := by
  rw [Dict.get?_set]
  split
  · rfl
  · exact h

theorem Shape.set (h : graph.Shape) (hid : node.nodeId = id)
    (adjacency : Adjacency) (index : TermIndex String String ρ) :
    Shape
      { graph with
        nodes := graph.nodes.set id node
        adjacency := adjacency
        index := index } :=
  { h with
    keyed other found hfound := by
      rw [Dict.get?_set] at hfound
      split at hfound
      · rename_i hother
        rw [← Option.some.inj hfound, hid, hother]
      · exact h.keyed other found hfound
    ends edge hedge := ⟨isSome_set (h.ends edge hedge).1, isSome_set (h.ends edge hedge).2⟩ }

theorem of_addNode (adjacency : Adjacency) (id other : String) :
    Adjacency.of (if (adjacency.get? id).isSome then adjacency else adjacency.set id []) other =
      Adjacency.of adjacency other := by
  split
  · rfl
  · rename_i hnone
    rw [Adjacency.of_set]
    split
    · rename_i hother
      rw [hother, Adjacency.of, Dict.getD, Option.not_isSome_iff_eq_none.mp hnone]
      rfl
    · rfl

theorem Embedded.set (h : graph.Embedded text) (hcached : graph.CachedAs text id node.content) :
    ∀ other vector, graph.embeddings.get? other = some vector →
      ∃ embed ∈ text.embeddingFn, ∃ found, (graph.nodes.set id node).get? other = some found ∧
        vector = embed found.content := by
  intro other vector hvector
  obtain ⟨embed, hembed, found, hfound, hcontent⟩ := h other vector hvector
  rw [Dict.get?_set]
  split
  · rename_i hother
    subst hother
    exact ⟨embed, hembed, node, rfl, hcached vector hvector embed hembed⟩
  · exact ⟨embed, hembed, found, hfound, hcontent⟩

theorem CachedAs.of_set (h : ∀ other vector, graph.embeddings.get? other = some vector →
      ∃ embed ∈ text.embeddingFn, ∃ found, (graph.nodes.set id node).get? other = some found ∧
        vector = embed found.content) : graph.CachedAs text id node.content := by
  intro vector hvector embed hembed
  obtain ⟨other, hother, found, hfound, hcontent⟩ := h id vector hvector
  rw [Dict.get?_set, if_pos rfl] at hfound
  rw [hcontent, ← Option.some.inj hfound,
    Option.some.inj ((Option.mem_def.mp hother).symm.trans hembed)]

theorem Shape.addNode (h : graph.Shape) (node : MemoryNode) (now : String) :
    (graph.addNode text node now).Shape :=
  h.set rfl _ _

/-- A node that replaces none with terms keeps the invariant. -/
theorem Inv.addNode (h : graph.Inv text) {now : String}
    (hmeets : ∀ old ∈ graph.nodes.get? node.nodeId,
      text.terms old.content = [] ∧ graph.CachedAs text node.nodeId node.content) :
    (graph.addNode text node now).Inv text where
  toShape := h.toShape.addNode node now
  reflects := by
    cases hold : graph.nodes.get? node.nodeId with
    | none => exact h.reflects.add_new hold _
    | some old =>
      refine (TermIndex.reflects_add_set_iff h.reflects hold).mpr ?_
      exact (hmeets old hold).1
  embedded := by
    refine Embedded.set h.embedded ?_
    intro vector hvector embed hembed
    obtain ⟨-, -, old, hold, -⟩ := h.embedded _ vector hvector
    exact (hmeets old hold).2 vector hvector embed hembed
  adjacent first second := by
    change second ∈ Adjacency.of (if _ then _ else _) first ↔ _
    rw [of_addNode]
    exact h.adjacent first second

theorem Inv.meets_addNode (h : graph.Inv text) {now : String}
    (hlaw : (graph.addNode text node now).Law text) {old : MemoryNode}
    (hold : graph.nodes.get? node.nodeId = some old) :
    text.terms old.content = [] ∧ graph.CachedAs text node.nodeId node.content := by
  have hmirror := (h.toShape.addNode node now).same_iff.mp hlaw.index
  have hcached : graph.CachedAs text _ _ := CachedAs.of_set hlaw.embedded
  exact ⟨(TermIndex.reflects_add_set_iff h.reflects hold).mp hmirror, hcached⟩

section Update

variable {id : String} {old : MemoryNode} {content : Option String} {tags : Option (List String)}
  {now : String}

theorem Shape.update (h : graph.Shape) (hold : graph.nodes.get? id = some old) :
    Shape { graph with nodes := graph.nodes.set id (old.updated content tags now) } := by
  have hid : (old.updated content tags now).nodeId = id := h.keyed id old hold
  exact h.set hid graph.adjacency graph.index

/-- An update that keeps the terms, and so the index, keeps the invariant. -/
theorem Inv.update (h : graph.Inv text) (hold : graph.nodes.get? id = some old)
    (hterms : (TermIndex.frequencies text.ratio (text.terms old.content)).get? =
      (TermIndex.frequencies text.ratio (text.terms (content.getD old.content))).get?)
    (hcached : graph.CachedAs text id (content.getD old.content)) :
    Inv text { graph with nodes := graph.nodes.set id (old.updated content tags now) } where
  toShape := h.toShape.update hold
  reflects := (TermIndex.reflects_set_iff h.reflects hold).mpr hterms
  embedded := Embedded.set h.embedded hcached
  adjacent := h.adjacent

theorem Inv.meets_update (h : graph.Inv text) (hold : graph.nodes.get? id = some old)
    (hlaw : Law text { graph with nodes := graph.nodes.set id (old.updated content tags now) }) :
    (TermIndex.frequencies text.ratio (text.terms old.content)).get? =
        (TermIndex.frequencies text.ratio (text.terms (content.getD old.content))).get? ∧
      graph.CachedAs text id (content.getD old.content) := by
  have hmirror := (h.toShape.update hold).same_iff.mp hlaw.index
  have hcached : graph.CachedAs text _ _ := CachedAs.of_set hlaw.embedded
  exact ⟨(TermIndex.reflects_set_iff h.reflects hold).mp hmirror, hcached⟩

theorem Inv.cachedAs (h : graph.Inv text) (hold : graph.nodes.get? id = some old) :
    graph.CachedAs text id old.content := by
  intro vector hvector embed hembed
  obtain ⟨other, hother, found, hfound, hcontent⟩ := h.embedded id vector hvector
  rw [hcontent, ← Option.some.inj (hold.symm.trans hfound),
    Option.some.inj ((Option.mem_def.mp hother).symm.trans hembed)]

end Update

theorem Shape.removeNode (h : graph.Shape) (id : String) : (graph.removeNode id).Shape := by
  rw [LongTermMemoryGraph.removeNode]
  split
  · exact h
  · refine ⟨fun other node hnode => ?_, fun edge hedge => ?_, h.fileKeyed, h.fileEnds⟩
    · rw [Dict.get?_pop] at hnode
      split at hnode
      · cases hnode
      · exact h.keyed other node hnode
    · obtain ⟨hmem, hapart⟩ := mem_filter.mp hedge
      rw [Bool.and_eq_true, bne_iff_ne, bne_iff_ne] at hapart
      rw [Dict.get?_pop, Dict.get?_pop, if_neg hapart.1, if_neg hapart.2]
      exact h.ends edge hmem

/-- A node is removed with its edges and its terms. -/
theorem Inv.removeNode (h : graph.Inv text) (id : String) : (graph.removeNode id).Inv text := by
  have hshape := h.toShape.removeNode id
  rw [LongTermMemoryGraph.removeNode] at hshape ⊢
  split
  · exact h
  · rename_i old hold
    rw [hold] at hshape
    refine ⟨hshape, h.reflects.remove hold, fun other vector hvector => ?_, fun first second => ?_⟩
    · rw [Dict.get?_pop] at hvector ⊢
      split at hvector
      · cases hvector
      · rename_i hother
        rw [if_neg hother]
        exact h.embedded other vector hvector
    · have hof : second ∈ Adjacency.of ((graph.adjacency.pop id).mapValues fun neighbours =>
          neighbours.filter fun neighbour => neighbour != id) first ↔
          (first ≠ id ∧ second ≠ id) ∧ second ∈ Adjacency.of graph.adjacency first := by
        rw [Adjacency.of, Dict.getD, Dict.get?_mapValues, Dict.get?_pop]
        split
        · rename_i hfirst
          exact iff_of_false not_mem_nil fun hboth => hboth.1.1 hfirst
        · rename_i hfirst
          rw [Adjacency.of, Dict.getD]
          cases graph.adjacency.get? first with
          | none => exact iff_of_false not_mem_nil fun hboth => not_mem_nil hboth.2
          | some neighbours =>
            rw [Option.map_some, Option.getD_some, Option.getD_some, mem_filter,
              bne_iff_ne, and_comm, and_iff_right hfirst]
      rw [hof, h.adjacent]
      constructor
      · rintro ⟨⟨hfirst, hsecond⟩, edge, hedge, hjoins⟩
        refine ⟨edge, mem_filter.mpr ⟨hedge, ?_⟩, hjoins⟩
        rw [Bool.and_eq_true, bne_iff_ne, bne_iff_ne]
        rcases hjoins with ⟨rfl, rfl⟩ | ⟨rfl, rfl⟩
        · exact ⟨hfirst, hsecond⟩
        · exact ⟨hsecond, hfirst⟩
      · rintro ⟨edge, hedge, hjoins⟩
        obtain ⟨hmem, hapart⟩ := mem_filter.mp hedge
        rw [Bool.and_eq_true, bne_iff_ne, bne_iff_ne] at hapart
        refine ⟨?_, edge, hmem, hjoins⟩
        rcases hjoins with ⟨rfl, rfl⟩ | ⟨rfl, rfl⟩
        · exact hapart
        · exact hapart.symm

/-! ## Edges -/

def Pair (src dst first second : String) : Prop :=
  first = src ∧ second = dst ∨ first = dst ∧ second = src

variable {src dst relation : String} {edge : MemoryEdge}

theorem joins_iff_pair :
    edge.joins first second ↔ Pair edge.sourceId edge.targetId first second := by
  rw [MemoryEdge.joins, Pair]
  constructor
  · rintro (⟨rfl, rfl⟩ | ⟨rfl, rfl⟩)
    · exact .inl ⟨rfl, rfl⟩
    · exact .inr ⟨rfl, rfl⟩
  · rintro (⟨rfl, rfl⟩ | ⟨rfl, rfl⟩)
    · exact .inl ⟨rfl, rfl⟩
    · exact .inr ⟨rfl, rfl⟩

theorem joined_append {edges : List MemoryEdge} :
    Joined (edges ++ [edge]) first second ↔
      Joined edges first second ∨ Pair edge.sourceId edge.targetId first second := by
  constructor
  · rintro ⟨other, hother, hjoins⟩
    rcases mem_append.mp hother with hold | hnew
    · exact .inl ⟨other, hold, hjoins⟩
    · rw [mem_singleton.mp hnew] at hjoins
      exact .inr (joins_iff_pair.mp hjoins)
  · rintro (⟨other, hother, hjoins⟩ | hpair)
    · exact ⟨other, mem_append_left _ hother, hjoins⟩
    · exact ⟨edge, mem_append_right _ (mem_singleton_self edge), joins_iff_pair.mpr hpair⟩

/-- The edges and the neighbours change together. -/
theorem Inv.rewire (h : graph.Inv text) {edges : List MemoryEdge} {adjacency : Adjacency}
    (hends : ∀ edge ∈ edges,
      (graph.nodes.get? edge.sourceId).isSome ∧ (graph.nodes.get? edge.targetId).isSome)
    (hadjacent : ∀ first second,
      second ∈ Adjacency.of adjacency first ↔ Joined edges first second) :
    Inv text { graph with edges := edges, adjacency := adjacency } :=
  { h with
    ends := hends
    adjacent := hadjacent }

theorem Shape.addEdge (h : graph.Shape) (edge : MemoryEdge) : (graph.addEdge edge).Shape := by
  rw [LongTermMemoryGraph.addEdge]
  split
  · rename_i hends
    refine ⟨h.keyed, fun other hother => ?_, h.fileKeyed, h.fileEnds⟩
    rcases mem_append.mp hother with hold | hnew
    · exact h.ends other hold
    · rw [mem_singleton.mp hnew]
      exact hends
  · exact h

/-- A new edge joins its two ends. -/
theorem Inv.addEdge (h : graph.Inv text) (edge : MemoryEdge) : (graph.addEdge edge).Inv text := by
  have hshape := h.toShape.addEdge edge
  rw [LongTermMemoryGraph.addEdge] at hshape ⊢
  split at hshape
  · rename_i hends
    rw [if_pos hends]
    refine h.rewire hshape.ends fun first second => ?_
    rw [Adjacency.mem_link, joined_append, h.adjacent]
    exact Iff.rfl
  · rename_i hends
    rw [if_neg hends]
    exact h

variable {source target : String}

theorem mem_removeEdge : edge ∈ (graph.removeEdge source target).edges ↔
      edge ∈ graph.edges ∧ ¬ (edge.sourceId = source ∧ edge.targetId = target) := by
  rw [LongTermMemoryGraph.removeEdge, mem_filter, Bool.not_eq_true', ← Bool.not_eq_true,
    Bool.and_eq_true, beq_iff_eq, beq_iff_eq]

theorem Shape.removeEdge (h : graph.Shape) (source target : String) :
    (graph.removeEdge source target).Shape :=
  ⟨h.keyed, fun edge hedge => h.ends edge (mem_removeEdge.mp hedge).1, h.fileKeyed, h.fileEnds⟩

theorem mem_of_removeEdge {source target first second : String} :
    second ∈ Adjacency.of (graph.removeEdge source target).adjacency first ↔
      second ∈ Adjacency.of graph.adjacency first ∧ ¬ Pair source target first second := by
  rw [LongTermMemoryGraph.removeEdge, Adjacency.mem_dropAll, Adjacency.mem_dropAll, Pair, not_or,
    and_assoc]

/-- An edge is removed, with none against it, from the neighbours of both ends. -/
theorem Inv.removeEdge (h : graph.Inv text) (hmeets : source = target ∨
      ∀ edge ∈ graph.edges, ¬ (edge.sourceId = target ∧ edge.targetId = source)) :
    (graph.removeEdge source target).Inv text := by
  refine h.rewire (h.toShape.removeEdge source target).ends fun first second => ?_
  refine mem_of_removeEdge.trans ?_
  rw [h.adjacent]
  constructor
  · rintro ⟨⟨edge, hedge, hjoins⟩, hpair⟩
    refine ⟨edge, mem_removeEdge.mpr ⟨hedge, fun hremoved => hpair ?_⟩, hjoins⟩
    have hends := joins_iff_pair.mp hjoins
    rwa [hremoved.1, hremoved.2] at hends
  · rintro ⟨edge, hedge, hjoins⟩
    obtain ⟨hmem, hkept⟩ := mem_removeEdge.mp hedge
    refine ⟨⟨edge, hmem, hjoins⟩, fun hpair => ?_⟩
    have hback : edge.sourceId = target ∧ edge.targetId = source := by
      rcases hjoins with ⟨hsource, htarget⟩ | ⟨hsource, htarget⟩ <;>
        rcases hpair with ⟨hfirst, hsecond⟩ | ⟨hfirst, hsecond⟩
      · exact absurd ⟨hsource.trans hfirst, htarget.trans hsecond⟩ hkept
      · exact ⟨hsource.trans hfirst, htarget.trans hsecond⟩
      · exact ⟨hsource.trans hsecond, htarget.trans hfirst⟩
      · exact absurd ⟨hsource.trans hsecond, htarget.trans hfirst⟩ hkept
    rcases hmeets with rfl | hone
    · exact hkept hback
    · exact hone edge hmem hback

theorem Inv.meets_removeEdge (h : graph.Inv text)
    (hlaw : (graph.removeEdge source target).Law text) :
    source = target ∨
      ∀ edge ∈ graph.edges, ¬ (edge.sourceId = target ∧ edge.targetId = source) := by
  by_cases hne : source = target
  · exact .inl hne
  refine .inr ?_
  rintro edge hmem ⟨rfl, rfl⟩
  have hkept : edge ∈ (graph.removeEdge edge.targetId edge.sourceId).edges :=
    mem_removeEdge.mpr ⟨hmem, fun hsame => hne hsame.1.symm⟩
  have hshape := h.toShape.removeEdge edge.targetId edge.sourceId
  have hsome : ((graph.removeEdge edge.targetId edge.sourceId).nodes.get? edge.targetId).isSome :=
    (h.ends edge hmem).2
  have hjoined := (hlaw.mem_of_iff hshape hsome).mpr ⟨edge, hkept, .inl ⟨rfl, rfl⟩⟩
  exact (mem_of_removeEdge.mp hjoined).2 (.inr ⟨rfl, rfl⟩)

theorem mem_detach : edge ∈ (graph.detach src dst relation).edges ↔ edge ∈ graph.edges ∧
      ¬ (edge.sourceId = src ∧ edge.targetId = dst ∧ edge.relationType = relation) := by
  rw [detach, mem_filter, Bool.not_eq_true', ← Bool.not_eq_true, Bool.and_eq_true,
    Bool.and_eq_true, beq_iff_eq, beq_iff_eq, beq_iff_eq, and_assoc]

theorem Shape.detach (h : graph.Shape) (src dst relation : String) :
    (graph.detach src dst relation).Shape :=
  ⟨h.keyed, fun edge hedge => h.ends edge (mem_detach.mp hedge).1, h.fileKeyed, h.fileEnds⟩

variable {src dst relation first second : String}

theorem mem_of_detach :
    second ∈ Adjacency.of (graph.detach src dst relation).adjacency first ↔
      (Pair src dst first second →
        taken src dst < (Adjacency.of graph.adjacency first).count second) ∧
      second ∈ Adjacency.of graph.adjacency first := by
  rw [← count_pos_iff, ← count_pos_iff, LongTermMemoryGraph.detach,
    Adjacency.count_dropFirst, Adjacency.count_dropFirst, Pair, taken]
  by_cases hone : first = src ∧ second = dst <;> by_cases hother : first = dst ∧ second = src
  · have hsame : src = dst := hone.1.symm.trans hother.1
    rw [if_pos hone, if_pos hother, if_pos hsame]
    refine ⟨fun hpos => ⟨fun _ => by omega, by omega⟩, fun hboth => ?_⟩
    have hmore := hboth.1 (.inl hone)
    omega
  · have hne : src ≠ dst := fun hsame => hother ⟨hone.1.trans hsame, hone.2.trans hsame.symm⟩
    rw [if_pos hone, if_neg hother, if_neg hne]
    refine ⟨fun hpos => ⟨fun _ => by omega, by omega⟩, fun hboth => ?_⟩
    have hmore := hboth.1 (.inl hone)
    omega
  · have hne : src ≠ dst := fun hsame => hone ⟨hother.1.trans hsame.symm, hother.2.trans hsame⟩
    rw [if_neg hone, if_pos hother, if_neg hne]
    refine ⟨fun hpos => ⟨fun _ => by omega, by omega⟩, fun hboth => ?_⟩
    have hmore := hboth.1 (.inr hother)
    omega
  · rw [if_neg hone, if_neg hother, Nat.sub_zero, Nat.sub_zero]
    refine ⟨fun hpos => ⟨fun hpair => ?_, hpos⟩, fun hboth => hboth.2⟩
    exact absurd hpair (not_or.mpr ⟨hone, hother⟩)

theorem joined_detach (hpair : ¬ Pair src dst first second) :
    Joined (graph.detach src dst relation).edges first second ↔
      Joined graph.edges first second := by
  constructor
  · rintro ⟨edge, hedge, hjoins⟩
    exact ⟨edge, (mem_detach.mp hedge).1, hjoins⟩
  · rintro ⟨edge, hedge, hjoins⟩
    refine ⟨edge, mem_detach.mpr ⟨hedge, fun hswap => hpair ?_⟩, hjoins⟩
    have hends := joins_iff_pair.mp hjoins
    rwa [hswap.1, hswap.2.1] at hends

theorem joined_detach_iff :
    Joined (graph.detach src dst relation).edges first second ↔
      ∃ edge ∈ graph.edges, edge.joins first second ∧
        ¬ (edge.sourceId = src ∧ edge.targetId = dst ∧ edge.relationType = relation) := by
  constructor
  · rintro ⟨edge, hedge, hjoins⟩
    obtain ⟨hmem, hkept⟩ := mem_detach.mp hedge
    exact ⟨edge, hmem, hjoins, hkept⟩
  · rintro ⟨edge, hedge, hjoins, hkept⟩
    exact ⟨edge, mem_detach.mpr ⟨hedge, hkept⟩, hjoins⟩

/-- Where the count of a neighbour tells whether another edge is left, a relation is detached. -/
theorem Inv.detach (h : graph.Inv text) (hmeets : ∀ first second, Pair src dst first second →
      ((∃ edge ∈ graph.edges, edge.joins first second ∧
          ¬ (edge.sourceId = src ∧ edge.targetId = dst ∧ edge.relationType = relation)) ↔
        taken src dst < (Adjacency.of graph.adjacency first).count second)) :
    (graph.detach src dst relation).Inv text := by
  refine h.rewire (h.toShape.detach src dst relation).ends fun first second => ?_
  have hmem : second ∈ Adjacency.of (graph.detach src dst relation).adjacency first ↔ _ :=
    mem_of_detach
  refine hmem.trans ?_
  by_cases hpair : Pair src dst first second
  · refine Iff.trans ?_ ((hmeets first second hpair).symm.trans joined_detach_iff.symm)
    rw [← count_pos_iff]
    constructor
    · exact fun hboth => hboth.1 hpair
    · exact fun hmore => ⟨fun _ => hmore, by omega⟩
  · refine Iff.trans ?_ (joined_detach hpair).symm
    rw [h.adjacent]
    exact ⟨fun hboth => hboth.2, fun hjoined => ⟨fun hother => absurd hother hpair, hjoined⟩⟩

theorem Inv.meets_detach (h : graph.Inv text) (hlaw : (graph.detach src dst relation).Law text) :
    ∀ first second, Pair src dst first second → ((∃ edge ∈ graph.edges, edge.joins first second ∧
          ¬ (edge.sourceId = src ∧ edge.targetId = dst ∧ edge.relationType = relation)) ↔
        taken src dst < (Adjacency.of graph.adjacency first).count second) := by
  intro first second hpair
  have hshape := h.toShape.detach src dst relation
  have hof : second ∈ Adjacency.of (graph.detach src dst relation).adjacency first ↔
      taken src dst < (Adjacency.of graph.adjacency first).count second := by
    rw [mem_of_detach, ← count_pos_iff]
    constructor
    · exact fun hboth => hboth.1 hpair
    · exact fun hmore => ⟨fun _ => hmore, by omega⟩
  by_cases hsecond : ((graph.detach src dst relation).nodes.get? second).isSome
  · rw [← hof, hlaw.mem_of_iff hshape hsecond, joined_detach_iff]
  · have hnone : ¬ Joined graph.edges first second := by
      rintro ⟨edge, hedge, ⟨-, rfl⟩ | ⟨rfl, -⟩⟩
      · exact hsecond (h.ends edge hedge).2
      · exact hsecond (h.ends edge hedge).1
    rw [← hof, ← joined_detach_iff]
    refine iff_of_false (fun hjoined => hnone ?_) fun hmem => hnone ?_
    · obtain ⟨edge, hedge, hjoins⟩ := hjoined
      exact ⟨edge, (mem_detach.mp hedge).1, hjoins⟩
    · exact (h.adjacent first second).mp (mem_of_detach.mp hmem).2

theorem upsertedEdge_eq_ok {payload : PyDict}
    (h : upsertedEdge text posture src dst relation payload = .ok edge) :
    edge.sourceId = src ∧ edge.targetId = dst := by
  rw [upsertedEdge] at h
  split at h
  · cases h
  · rw [MemoryEdge.checked] at h
    split at h
    · cases h
    · rename_i checked hchecked
      split at hchecked
      · cases hchecked
      · rw [← Except.ok.inj h, ← Except.ok.inj hchecked]
        exact ⟨rfl, rfl⟩

theorem Inv.replaceEdge (h : graph.Inv text)
    (hsource : edge.sourceId = src) (htarget : edge.targetId = dst) :
    ((graph.detach src dst relation).addEdge edge).Inv text := by
  have hshape := (h.toShape.detach src dst relation).addEdge edge
  rw [LongTermMemoryGraph.addEdge] at hshape ⊢
  split at hshape
  · rename_i hends
    rw [if_pos hends]
    refine h.rewire hshape.ends fun first second => ?_
    rw [Adjacency.mem_link, joined_append]
    change _ ∨ Pair edge.sourceId edge.targetId first second ↔ _
    by_cases hpair : Pair edge.sourceId edge.targetId first second
    · exact iff_of_true (.inr hpair) (.inr hpair)
    · refine or_congr ?_ Iff.rfl
      rw [hsource, htarget] at hpair
      rw [joined_detach hpair, mem_of_detach, h.adjacent]
      exact ⟨fun hboth => hboth.2, fun hjoined => ⟨fun hother => absurd hother hpair, hjoined⟩⟩
  · rename_i hends
    rw [if_neg hends]
    rw [hsource, htarget] at hends
    refine h.detach fun first second hpair => ?_
    have hnone : ¬ Joined graph.edges first second := by
      rintro ⟨other, hother, hjoins⟩
      have hsome := h.ends other hother
      rcases hjoins with ⟨hfirst, hsecond⟩ | ⟨hsecond, hfirst⟩ <;>
        rcases hpair with ⟨rfl, rfl⟩ | ⟨rfl, rfl⟩
      · exact hends (by rwa [hfirst, hsecond] at hsome)
      · exact hends (by rwa [hfirst, hsecond, and_comm] at hsome)
      · exact hends (by rwa [hfirst, hsecond, and_comm] at hsome)
      · exact hends (by rwa [hfirst, hsecond] at hsome)
    refine iff_of_false ?_ ?_
    · rintro ⟨other, hother, hjoins, -⟩
      exact hnone ⟨other, hother, hjoins⟩
    · rw [← h.adjacent, ← count_eq_zero] at hnone
      omega

/-! ## Searching and storing -/

theorem cache_embedded {embed : String → β} (hembed : embed ∈ text.embeddingFn)
    {rows : List (String × MemoryNode)}
    (hrows : ∀ row ∈ rows, graph.nodes.get? row.2.nodeId = some row.2) {embeddings : Dict String β}
    (h : Embedded text { graph with embeddings := embeddings }) :
    Embedded text { graph with embeddings := cache embed rows embeddings } := by
  induction rows generalizing embeddings with
  | nil => exact h
  | cons row rest ih =>
    refine ih (fun other hother => hrows other (mem_cons_of_mem row hother)) ?_
    intro id vector hvector
    dsimp only at hvector ⊢
    split at hvector
    · exact h id vector hvector
    · rw [Dict.get?_set] at hvector
      split at hvector
      · rename_i hid
        rw [hid]
        exact ⟨embed, hembed, row.2, hrows row mem_cons_self, (Option.some.inj hvector).symm⟩
      · exact h id vector hvector

/-- A search writes to the cached embeddings alone. -/
theorem Inv.search (h : graph.Inv text) (query : String) : (graph.search text query).Inv text := by
  rw [LongTermMemoryGraph.search]
  split
  · exact h
  · rename_i embed hembed
    split
    · exact h
    · refine ⟨⟨h.keyed, h.ends, h.fileKeyed, h.fileEnds⟩, h.reflects, ?_, h.adjacent⟩
      refine cache_embedded hembed (fun row hrow => ?_) h.embedded
      have hnode := Dict.get?_eq_some_iff.mpr hrow
      rw [h.keyed row.1 row.2 hnode]
      exact hnode

theorem Shape.save (h : graph.Shape) : graph.save.Shape where
  keyed := h.keyed
  ends := h.ends
  fileKeyed := by
    rintro _ ⟨⟩
    exact h.keyed
  fileEnds := by
    rintro _ ⟨⟩
    exact h.ends

theorem loadNodes_eq (graph : LongTermMemoryGraph ρ β) (hdev : posture.isStrict = false)
    {rows : List (String × MemoryNode)} (hnew : (graph.nodes.keys ++ rows.map Prod.fst).Nodup) :
    ∃ nodes adjacency, loadNodes posture rows graph =
        ({ graph with nodes := nodes, adjacency := adjacency }, none) ∧
      nodes.rows = graph.nodes.rows ++ rows.map (fun row => (row.1, row.2.reread)) ∧
      ∀ id, Adjacency.of adjacency id = Adjacency.of graph.adjacency id := by
  induction rows generalizing graph with
  | nil => exact ⟨graph.nodes, graph.adjacency, rfl, (append_nil _).symm, fun _ => rfl⟩
  | cons row rest ih =>
    have hchecked : row.2.reread.checked posture = .ok row.2.reread := by
      rw [MemoryNode.checked, if_neg]
      rintro ⟨hstrict, -⟩
      rw [hdev] at hstrict
      cases hstrict
    have hfresh : graph.nodes.get? row.1 = none := by
      rw [← Option.not_isSome_iff_eq_none, ← Dict.mem_keys_iff]
      intro hmem
      exact (List.nodup_append.mp hnew).2.2 row.1 hmem row.1 mem_cons_self rfl
    have hrows := Dict.rows_set_of_none hfresh row.2.reread
    have hkeys : ((graph.nodes.set row.1 row.2.reread).keys ++ rest.map Prod.fst).Nodup := by
      rw [Dict.keys, hrows, map_append, append_assoc]
      exact hnew
    obtain ⟨nodes, adjacency, hload, hnodes, hof⟩ := ih
      { graph with
        nodes := graph.nodes.set row.1 row.2.reread
        adjacency := graph.adjacency.set row.1 (graph.adjacency.getD row.1 []) } hkeys
    refine ⟨nodes, adjacency, ?_, ?_, fun id => ?_⟩
    · rw [loadNodes, hchecked]
      exact hload
    · rw [hnodes, hrows, append_assoc]
      rfl
    · rw [hof, Adjacency.of_set]
      split
      · rename_i hid
        rw [hid]
        rfl
      · rfl

theorem loadEdges_eq (graph : LongTermMemoryGraph ρ β) (hdev : posture.isStrict = false)
    (edges : List MemoryEdge) :
    ∃ adjacency, loadEdges posture edges graph = ({ graph with
            edges := graph.edges ++ edges.map MemoryEdge.reread
            adjacency := adjacency }, none) ∧
      ∀ first second, second ∈ Adjacency.of adjacency first ↔
        second ∈ Adjacency.of graph.adjacency first ∨
          Joined (edges.map MemoryEdge.reread) first second := by
  induction edges generalizing graph with
  | nil =>
    refine ⟨graph.adjacency, ?_, fun first second => ?_⟩
    · rw [loadEdges, map_nil, append_nil]
    · refine ⟨.inl, fun h => h.resolve_right ?_⟩
      rintro ⟨edge, hedge, -⟩
      exact not_mem_nil hedge
  | cons edge rest ih =>
    have hchecked : edge.reread.checked posture = .ok edge.reread := by
      rw [MemoryEdge.checked, if_neg]
      rintro ⟨hstrict, -⟩
      rw [hdev] at hstrict
      cases hstrict
    obtain ⟨adjacency, hload, hof⟩ := ih
      { graph with
        edges := graph.edges ++ [edge.reread]
        adjacency := Adjacency.link graph.adjacency edge.reread.sourceId edge.reread.targetId }
    refine ⟨adjacency, ?_, fun first second => ?_⟩
    · rw [loadEdges, hchecked]
      refine hload.trans ?_
      rw [append_assoc]
      rfl
    · rw [hof, Adjacency.mem_link, or_assoc]
      refine or_congr Iff.rfl ?_
      change Pair edge.reread.sourceId edge.reread.targetId first second ∨ _ ↔ _
      rw [← joins_iff_pair, map_cons]
      constructor
      · rintro (hjoins | ⟨other, hother, hjoins⟩)
        · exact ⟨edge.reread, mem_cons_self, hjoins⟩
        · exact ⟨other, mem_cons_of_mem _ hother, hjoins⟩
      · rintro ⟨other, hother, hjoins⟩
        rcases mem_cons.mp hother with rfl | hmem
        · exact .inl hjoins
        · exact .inr ⟨other, hmem, hjoins⟩

/-- In dev posture a load takes over the nodes and edges of the file. -/
theorem load_eq (hdev : posture.isStrict = false) {file : StoredGraph}
    (hfile : graph.file = some file) :
    ∃ adjacency, graph.load text posture = ({ (new : LongTermMemoryGraph ρ β) with
            nodes := file.nodes.mapValues MemoryNode.reread
            edges := file.edges.map MemoryEdge.reread
            adjacency := adjacency
            index := rebuildIndex text (file.nodes.mapValues MemoryNode.reread)
            file := some file }, none) ∧
      ∀ first second, second ∈ Adjacency.of adjacency first ↔
        Joined (file.edges.map MemoryEdge.reread) first second := by
  have hkeys : (Dict.keys (Dict.empty : Dict String MemoryNode) ++
      file.nodes.rows.map Prod.fst).Nodup := file.nodes.keysNodup
  obtain ⟨nodes, adjacency, hnodes, hrows, hnone⟩ := loadNodes_eq
    { (new : LongTermMemoryGraph ρ β) with file := some file } hdev hkeys
  obtain rfl : nodes = file.nodes.mapValues MemoryNode.reread := Table.ext_rows hrows
  obtain ⟨linked, hedges, hof⟩ := loadEdges_eq
    { (new : LongTermMemoryGraph ρ β) with
      nodes := file.nodes.mapValues MemoryNode.reread
      adjacency := adjacency
      file := some file } hdev file.edges
  refine ⟨linked, ?_, fun first second => ?_⟩
  · rw [load, hfile]
    dsimp only
    rw [hnodes]
    dsimp only
    rw [hedges]
    rfl
  · refine (hof first second).trans ⟨fun h => h.resolve_left fun hmem => ?_, .inr⟩
    change second ∈ Adjacency.of adjacency first at hmem
    rw [hnone] at hmem
    exact not_mem_nil hmem

theorem load_strict (h : graph.Shape) (hstrict : posture.isStrict = true) {file : StoredGraph}
    (hfile : graph.file = some file) :
    (graph.load text posture).1 = { (new : LongTermMemoryGraph ρ β) with file := some file } := by
  rw [load, hfile]
  dsimp only
  cases hrows : file.nodes.rows with
  | cons row rest =>
    have hchecked : ∃ error, row.2.reread.checked posture = .error error :=
      ⟨_, by rw [MemoryNode.checked, if_pos ⟨hstrict, rfl⟩]⟩
    obtain ⟨error, herror⟩ := hchecked
    rw [loadNodes, herror]
  | nil =>
    have hedges : file.edges = [] := by
      rw [eq_nil_iff_forall_not_mem]
      intro edge hedge
      obtain ⟨node, hnode⟩ := Option.isSome_iff_exists.mp (h.fileEnds file hfile edge hedge).1
      have hmem := Dict.get?_eq_some_iff.mp hnode
      rw [hrows] at hmem
      exact not_mem_nil hmem
    rw [hedges]
    rfl

/-- A new graph, over a sound file or none. -/
theorem inv_new (file : Option StoredGraph)
    (hkeyed : ∀ file' ∈ file, ∀ id node, file'.nodes.get? id = some node → node.nodeId = id)
    (hends : ∀ file' ∈ file, ∀ edge ∈ file'.edges,
      (file'.nodes.get? edge.sourceId).isSome ∧ (file'.nodes.get? edge.targetId).isSome) :
    Inv text { (new : LongTermMemoryGraph ρ β) with file := file } where
  keyed _ _ hnode := by cases hnode
  ends _ hedge := absurd hedge not_mem_nil
  fileKeyed := hkeyed
  fileEnds := hends
  reflects := TermIndex.reflects_empty
  embedded _ _ hvector := by cases hvector
  adjacent first second := by
    refine iff_of_false not_mem_nil ?_
    rintro ⟨edge, hedge, -⟩
    exact not_mem_nil hedge

theorem Shape.load (h : graph.Shape) :
    (graph.load text posture).1.Inv text ∨ graph.file = none := by
  cases hfile : graph.file with
  | none => exact .inr rfl
  | some file =>
    refine .inl ?_
    cases hstrict : posture.isStrict with
    | true =>
      rw [load_strict h hstrict hfile]
      rw [← hfile]
      exact inv_new graph.file h.fileKeyed h.fileEnds
    | false =>
      have hload := @load_eq _ _ text posture graph hstrict file hfile
      obtain ⟨adjacency, hload, hof⟩ := hload
      have hkeyed : ∀ id node, (file.nodes.mapValues MemoryNode.reread).get? id = some node →
          node.nodeId = id := by
        intro id node hnode
        rw [Dict.get?_mapValues, Option.map_eq_some_iff] at hnode
        obtain ⟨data, hdata, rfl⟩ := hnode
        exact h.fileKeyed file hfile id data hdata
      rw [hload]
      refine ⟨⟨hkeyed, fun edge hedge => ?_, ?_, ?_⟩, ?_, fun _ _ hvector => ?_, hof⟩
      · obtain ⟨data, hdata, rfl⟩ := mem_map.mp hedge
        obtain ⟨hsource, htarget⟩ := h.fileEnds file hfile data hdata
        dsimp only
        rw [Dict.get?_mapValues, Dict.get?_mapValues, Option.isSome_map, Option.isSome_map]
        exact ⟨hsource, htarget⟩
      · rintro _ ⟨⟩
        exact h.fileKeyed file hfile
      · rintro _ ⟨⟩
        exact h.fileEnds file hfile
      · dsimp only
        rw [rebuildIndex_eq hkeyed]
        exact TermIndex.reflects_ofDocuments _
      · cases hvector

/-! ## Whole histories -/

theorem upsertNode_some {old : MemoryNode} (hold : graph.nodes.get? id = some old)
    (payload : NodePayload) (now : String) :
    (graph.upsertNode text posture id payload now).1 = { graph with
        nodes := graph.nodes.set id
          (old.updated (some (payload.content.getD old.content))
            (some (payload.tags.getD old.tags)) now) } := by
  rw [upsertNode, hold]
  dsimp only
  rw [updateNode, hold]

theorem upsertNode_none (hnone : graph.nodes.get? id = none)
    (payload : NodePayload) (now : String) :
    (graph.upsertNode text posture id payload now).1 = graph ∨ ∃ node, node.nodeId = id ∧
        (graph.upsertNode text posture id payload now).1 = graph.addNode text node now := by
  rw [upsertNode, hnone]
  dsimp only
  split
  · exact .inl rfl
  · rename_i node hchecked
    refine .inr ⟨node, ?_, rfl⟩
    rw [MemoryNode.checked] at hchecked
    split at hchecked
    · cases hchecked
    · rw [← Except.ok.inj hchecked]

/-- A step that meets the condition keeps the invariant. -/
theorem Inv.step (h : graph.Inv text) {event : GraphEvent}
    (hmeets : graph.Meets text posture event) : (graph.step text posture event).Inv text := by
  cases event with
  | addNode node now => exact h.addNode hmeets
  | updateNode id content tags now =>
    rw [LongTermMemoryGraph.step, updateNode]
    split
    · exact h
    · rename_i old hold
      cases content with
      | none => exact h.update hold rfl (h.cachedAs hold)
      | some new =>
        obtain ⟨hterms, hcached⟩ := hmeets old hold new rfl
        exact h.update hold hterms hcached
  | upsertNode id payload now =>
    change (graph.upsertNode text posture id payload now).1.Inv text
    cases hold : graph.nodes.get? id with
    | none =>
      rcases upsertNode_none hold payload now with hsame | ⟨node, rfl, hadd⟩
      · rw [hsame]
        exact h
      · rw [hadd]
        refine h.addNode fun old hother => ?_
        rw [hold] at hother
        cases hother
    | some old =>
      rw [upsertNode_some hold]
      cases hcontent : payload.content with
      | none => exact h.update hold rfl (h.cachedAs hold)
      | some new =>
        obtain ⟨hterms, hcached⟩ := hmeets old hold new hcontent
        exact h.update hold hterms hcached
  | removeNode id => exact h.removeNode id
  | addEdge edge => exact h.addEdge edge
  | removeEdge source target => exact h.removeEdge hmeets
  | upsertEdge src dst relation payload =>
    rw [LongTermMemoryGraph.step, upsertEdge]
    split
    · rename_i raised hraised
      exact h.detach (hmeets ⟨raised, hraised⟩)
    · rename_i edge hedge
      obtain ⟨hsource, htarget⟩ := upsertedEdge_eq_ok hedge
      exact h.replaceEdge hsource htarget
  | search query => exact h.search query
  | save => exact ⟨h.toShape.save, h.reflects, h.embedded, h.adjacent⟩
  | load =>
    change (graph.load text posture).1.Inv text
    have hload : (graph.load text posture).1.Inv text ∨ graph.file = none := h.toShape.load
    rcases hload with hinv | hnone
    · exact hinv
    · rw [LongTermMemoryGraph.load, hnone]
      exact h

theorem Inv.meets (h : graph.Inv text) {event : GraphEvent}
    (hlaw : (graph.step text posture event).Law text) : graph.Meets text posture event := by
  cases event with
  | addNode node now => exact fun old hold => h.meets_addNode hlaw hold
  | updateNode id content tags now =>
    intro old hold new hnew
    rw [LongTermMemoryGraph.step, updateNode, Option.mem_def.mp hold] at hlaw
    rw [Option.mem_def.mp hnew] at hlaw
    exact h.meets_update hold hlaw
  | upsertNode id payload now =>
    intro old hold new hnew
    rw [LongTermMemoryGraph.step, upsertNode_some hold] at hlaw
    rw [Option.mem_def.mp hnew] at hlaw
    exact h.meets_update hold hlaw
  | removeNode id => trivial
  | addEdge edge => trivial
  | removeEdge source target => exact h.meets_removeEdge hlaw
  | upsertEdge src dst relation payload =>
    rintro ⟨raised, hraised⟩
    rw [LongTermMemoryGraph.step, upsertEdge, hraised] at hlaw
    exact h.meets_detach hlaw
  | search query => trivial
  | save => trivial
  | load => trivial

/-- From a new graph, the histories in which index, cache and adjacency lists say what the
nodes and the edges say are those whose calls all meet the condition. -/
theorem always_shadowed_iff (events : List GraphEvent) :
    Always (step text posture) (Law text) (new : LongTermMemoryGraph ρ β) events ↔
      Along (step text posture) (Meets text posture) (new : LongTermMemoryGraph ρ β) events := by
  have hinit : Inv text (new : LongTermMemoryGraph ρ β) :=
    inv_new none (fun _ hfile => by cases hfile) fun _ hfile => by cases hfile
  exact always_iff_along (fun _ _ hinv hmeets => hinv.step hmeets) (fun _ hinv => hinv.law)
    (fun _ _ hinv hlaw => hinv.meets hlaw) hinit events

def oneWord : GraphText Nat Unit :=
  ⟨fun content => [content], fun count _ => count, none, fun _ => .error .typeError⟩

/-- A node as an agent makes one. -/
def fact (id content : String) : MemoryNode :=
  { nodeId := id
    content := content
    nodeType := "fact"
    tags := []
    sourceSessions := []
    confidence := oneFloat
    accessCount := 0
    createdAt := "t0"
    updatedAt := "t0"
    tenantId := "" }

/-- A node is updated: the index still has its old text. -/
theorem not_always_shadowed_updated :
    ¬ Always (step oneWord .dev) (Law oneWord) (new : LongTermMemoryGraph Nat Unit)
      [.addNode (fact "n" "paris") "t0", .updateNode "n" (some "rome") none "t1"] := by
  rintro ⟨-, -, hlaw⟩
  exact absurd (hlaw.index.df "paris") (by decide)

end LongTermMemoryGraph

end HiAgent.Memory
