/-
  Memory/GraphBackend/Agreement.lean --- where the two backends give the same answers.

  Both keep the last edge that was upserted under a name: the SQLite backend with its payload,
  the graph with the weight it reads from the payload, and only if it can read one and no
  tenant is asked for.
-/
import HiAgent.Memory.GraphBackend.Distance
import HiAgent.Memory.LongTerm.Index

namespace HiAgent.Memory

open Foundation Foundation.Search Server List

/-! ## The same answers -/

/-- `==` of two edges. -/
def Edge.Same (edge other : Edge) : Prop :=
  edge.src = other.src ∧ edge.dst = other.dst ∧ edge.relation = other.relation ∧
    PyValue.eq (.dict edge.payload) (.dict other.payload) = true

/-- `==` of two paths. -/
def GraphPath.Same (path other : GraphPath) : Prop :=
  path.nodes = other.nodes ∧ List.Forall₂ Edge.Same path.edges other.edges

def SameSet {α : Type} (same : α → α → Prop) (first second : List α) : Prop :=
  (∀ x ∈ first, ∃ y ∈ second, same x y) ∧ ∀ y ∈ second, ∃ x ∈ first, same x y

/-! ## Histories -/

/-- A call that both backends are given. -/
inductive UpsertEvent where
  | node (nodeId : String) (payload : PyDict) (now : String)
  | edge (src dst relation : String) (payload : PyDict)

def UpsertEvent.payload : UpsertEvent → PyDict
  | .node _ payload _ => payload
  | .edge _ _ _ payload => payload

def textOf : PyValue → Option String
  | .str text => some text
  | _ => none

def textsOf : PyValue → Option (List String)
  | .list items => some (items.filterMap textOf)
  | _ => none

def floatOf : PyValue → Option PyFloat
  | .float number => some number
  | _ => none

/-- The keys that `upsert_node` of the graph reads, where they hold what a node has there; no
answer about edges depends on the others. -/
def NodePayload.ofDict (payload : PyDict) : NodePayload where
  content := (payload.lookup "content").bind textOf
  nodeType := (payload.lookup "node_type").bind textOf
  tags := (payload.lookup "tags").bind textsOf
  confidence := (payload.lookup "confidence").bind floatOf

/-- The two backends. -/
structure BackendPair (ρ β : Type) where
  graph : LongTermMemoryGraph ρ β
  db : KgDatabase

/-- A question to both. -/
inductive KgQuery where
  | relation (nodeId relation direction : String)
  | conflict (claimA claimB : String)
  | transitive (start relation : String) (maxDepth : Int)

namespace UpsertEvent

variable (events : List UpsertEvent)

def Upserted (nodeId : String) : Prop := ∃ payload now, .node nodeId payload now ∈ events

def Linked (relation src dst : String) : Prop := ∃ payload, .edge src dst relation payload ∈ events

def Grounded : Prop :=
  ∀ past src dst relation payload, past ++ [.edge src dst relation payload] <+: events →
    Upserted past src ∧ Upserted past dst

def payloadOf (src dst relation : String) : UpsertEvent → Option PyDict
  | .node _ _ _ => none
  | .edge src' dst' relation' payload =>
    if src' = src ∧ dst' = dst ∧ relation' = relation then some payload else none

def latest (src dst relation : String) : Option PyDict :=
  (events.filterMap (payloadOf src dst relation)).getLast?

end UpsertEvent

namespace BackendPair

open UpsertEvent

variable {ρ β : Type} (text : GraphText ρ β) (posture : Posture) (plan : QueryPlan)
  (backend : SqliteKnowledgeGraphBackend)

def new : BackendPair ρ β := ⟨.new, .empty⟩

/-- One call on both. -/
def step (pair : BackendPair ρ β) : UpsertEvent → BackendPair ρ β
  | .node nodeId payload now =>
    ⟨(pair.graph.upsertNode text posture nodeId (.ofDict payload) now).1,
      (backend.upsertNode pair.db nodeId payload).1⟩
  | .edge src dst relation payload =>
    ⟨(pair.graph.upsertEdge text posture src dst relation payload).1,
      (backend.upsertEdge pair.db src dst relation payload).1⟩

/-- The nodes the paths lead to are those at distance one to a depth, along what was upserted. -/
def Destinations (events : List UpsertEvent) (start relation : String) (maxDepth : Int)
    (paths : List GraphPath) : Prop :=
  ∀ y, (∃ path ∈ paths, path.nodes = [start, y]) ↔
    y ≠ start ∧ ∃ n : Nat, 1 ≤ n ∧ n ≤ maxDepth ∧ AtDistance (Linked events relation) start n y

/-- Both give the same answer, and a transitive query the right one. -/
def Agrees (events : List UpsertEvent) (pair : BackendPair ρ β) : KgQuery → Prop
  | .relation nodeId relation direction =>
    SameSet Edge.Same (pair.graph.queryRelation nodeId relation direction)
      (backend.queryRelation plan pair.db nodeId relation direction)
  | .conflict claimA claimB =>
    pair.graph.detectConflict claimA claimB = backend.detectConflict pair.db claimA claimB
  | .transitive start relation maxDepth =>
    SameSet GraphPath.Same (pair.graph.transitiveQuery start relation maxDepth)
        (backend.transitiveQuery plan pair.db start relation maxDepth) ∧
      Destinations events start relation maxDepth
        (pair.graph.transitiveQuery start relation maxDepth) ∧
      Destinations events start relation maxDepth
        (backend.transitiveQuery plan pair.db start relation maxDepth)

/-- No tenant is asked for, and the payload has a weight that can be read, or none. -/
def Weighed (payload : PyDict) (weight : PyFloat) : Prop :=
  posture.isStrict = false ∧
    text.toFloat (PyDict.get payload "weight" (.float oneFloat)) = .ok weight

def Kept (events : List UpsertEvent) (src dst relation : String) : Prop :=
  ∃ payload ∈ latest events src dst relation, ∃ weight, Weighed text posture payload weight

/-- If the edge was upserted, then last with a payload that has a weight and nothing else. -/
def Mirrored (events : List UpsertEvent) (src dst relation : String) : Prop :=
  ∀ payload ∈ latest events src dst relation, ∃ weight, Weighed text posture payload weight ∧
    PyValue.eq (.dict [("weight", .float weight)]) (.dict payload) = true

def Asked (nodeId direction src dst : String) : Prop :=
  (direction = "out" ∨ direction = "both") ∧ src = nodeId ∨
    (direction = "in" ∨ direction = "both") ∧ dst = nodeId

/-- A query for relations is about edges whose payload is their weight. A conflict is reported
by an edge with a weight. A transitive query has no depth, or the start has no successor but
itself; or the depth is two at least, the edges to the successors have nothing but their weight
as payload, and no edge leads from them to another node. -/
def Meets (events : List UpsertEvent) : KgQuery → Prop
  | .relation nodeId relation direction => ∀ src dst, Asked nodeId direction src dst →
      Mirrored text posture events src dst relation
  | .conflict claimA claimB =>
    Linked events "contradicts" claimA claimB ∨ Linked events "contradicts" claimB claimA →
      Kept text posture events claimA claimB "contradicts" ∨
        Kept text posture events claimB claimA "contradicts"
  | .transitive start relation maxDepth =>
    maxDepth ≤ 0 ∨ (∀ y, Linked events relation start y → y = start) ∨ 2 ≤ maxDepth ∧
        (∀ y, y ≠ start → Mirrored text posture events start y relation) ∧
        ∀ x y, x ≠ start → Linked events relation start x → Linked events relation x y →
          y = start ∨ Linked events relation start y

/-! ## The edges of both -/

variable {text posture plan backend}

theorem Weighed.unique {payload : PyDict} {weight other : PyFloat}
    (h : Weighed text posture payload weight) (hother : Weighed text posture payload other) :
    weight = other := Except.ok.inj (h.2.symm.trans hother.2)

theorem upsertedEdge_eq_ok_iff {src dst relation : String} {payload : PyDict} {edge : MemoryEdge} :
    LongTermMemoryGraph.upsertedEdge text posture src dst relation payload = .ok edge ↔
      ∃ weight, Weighed text posture payload weight ∧ edge = ⟨src, dst, relation, weight, ""⟩ := by
  rw [LongTermMemoryGraph.upsertedEdge]
  cases hweight : text.toFloat (PyDict.get payload "weight" (.float oneFloat)) with
  | error raised =>
    refine iff_of_false (fun h => by cases h) ?_
    rintro ⟨weight, ⟨-, hread⟩, -⟩
    rw [hweight] at hread
    cases hread
  | ok weight =>
    dsimp only
    rw [MemoryEdge.checked]
    cases hstrict : posture.isStrict with
    | true =>
      refine iff_of_false (fun h => by cases h) ?_
      rintro ⟨other, ⟨hdev, -⟩, -⟩
      rw [hstrict] at hdev
      cases hdev
    | false =>
      constructor
      · intro h
        exact ⟨weight, ⟨hstrict, hweight⟩, (Except.ok.inj h).symm⟩
      · rintro ⟨other, ⟨-, hread⟩, rfl⟩
        obtain rfl : weight = other := Except.ok.inj (hweight.symm.trans hread)
        rfl

end BackendPair

namespace UpsertEvent

theorem latest_append (past : List UpsertEvent) (event : UpsertEvent) (src dst relation : String) :
    latest (past ++ [event]) src dst relation =
      (payloadOf src dst relation event).or (latest past src dst relation) := by
  rw [latest, filterMap_append, getLast?_append, ← latest.eq_1 past src dst relation]
  cases hpayload : payloadOf src dst relation event with
  | none => rw [filterMap_cons_none hpayload, filterMap_nil, getLast?_nil]
  | some payload =>
    rw [filterMap_cons_some hpayload, filterMap_nil, getLast?_singleton]

theorem linked_iff {events : List UpsertEvent} {src dst relation : String} :
    Linked events relation src dst ↔ ∃ payload, latest events src dst relation = some payload := by
  constructor
  · rintro ⟨payload, hmem⟩
    refine Option.ne_none_iff_exists'.mp fun hnone => ?_
    rw [latest, getLast?_eq_none_iff, filterMap_eq_nil_iff] at hnone
    have hfound := hnone _ hmem
    rw [payloadOf, if_pos ⟨rfl, rfl, rfl⟩] at hfound
    cases hfound
  · rintro ⟨payload, hlatest⟩
    obtain ⟨event, hmem, hpayload⟩ := mem_filterMap.mp (mem_of_getLast? hlatest)
    cases event with
    | node nodeId payload now => cases hpayload
    | edge src' dst' relation' payload' =>
      rw [payloadOf] at hpayload
      split at hpayload
      · rename_i hname
        obtain ⟨rfl, rfl, rfl⟩ := hname
        exact ⟨payload', hmem⟩
      · cases hpayload

theorem Grounded.past {past : List UpsertEvent} {event : UpsertEvent}
    (h : Grounded (past ++ [event])) : Grounded past :=
  fun earlier src dst relation payload hfront =>
    h earlier src dst relation payload (hfront.trans (prefix_append past [event]))

end UpsertEvent

namespace BackendPair

open UpsertEvent

variable {ρ β : Type} {text : GraphText ρ β} {posture : Posture} {plan : QueryPlan}
  {backend : SqliteKnowledgeGraphBackend} {events : List UpsertEvent} {pair : BackendPair ρ β}

def nameOf (edge : MemoryEdge) : String × String × String :=
  (edge.sourceId, edge.targetId, edge.relationType)

/-- Both hold the edges that were upserted last. -/
structure Inv (text : GraphText ρ β) (posture : Posture) (backend : SqliteKnowledgeGraphBackend)
    (events : List UpsertEvent) (pair : BackendPair ρ β) : Prop where
  nodes : posture.isStrict = false → ∀ nodeId, Upserted events nodeId →
    (pair.graph.nodes.get? nodeId).isSome
  edges : ∀ edge, edge ∈ pair.graph.edges ↔
    edge.tenantId = "" ∧ ∃ payload ∈ latest events edge.sourceId edge.targetId edge.relationType,
      Weighed text posture payload edge.weight
  names : (pair.graph.edges.map nameOf).Nodup
  rows : ∀ key row, pair.db.edges.get? key = some row ↔
    key.profileId = backend.profileId ∧ key.projectId = backend.projectId ∧
      row.tenantId = backend.tenantId ∧
        latest events key.src key.dst key.relation = some row.payload

theorem inv_new : Inv text posture backend [] (new : BackendPair ρ β) := by
  constructor
  · rintro - nodeId ⟨payload, now, hmem⟩
    cases hmem
  · intro edge
    refine iff_of_false not_mem_nil ?_
    rintro ⟨-, payload, hlatest, -⟩
    cases hlatest
  · exact nodup_nil
  · intro key row
    refine iff_of_false (fun h => by cases h) ?_
    rintro ⟨-, -, -, hlatest⟩
    cases hlatest

theorem upsertNode_frame (graph : LongTermMemoryGraph ρ β) (nodeId : String) (payload : NodePayload)
    (now : String) : (graph.upsertNode text posture nodeId payload now).1.edges = graph.edges ∧
      (posture.isStrict = false → ∀ other, other = nodeId ∨ (graph.nodes.get? other).isSome →
          ((graph.upsertNode text posture nodeId payload now).1.nodes.get? other).isSome) := by
  have hset : ∀ (node : MemoryNode) (other : String),
      other = nodeId ∨ (graph.nodes.get? other).isSome →
        ((graph.nodes.set nodeId node).get? other).isSome := by
    intro node other hother
    rw [Dict.get?_set]
    split
    · rfl
    · rename_i hne
      exact hother.resolve_left hne
  cases hold : graph.nodes.get? nodeId with
  | some old =>
    rw [LongTermMemoryGraph.upsertNode_some hold]
    exact ⟨rfl, fun _ => hset _⟩
  | none =>
    rw [LongTermMemoryGraph.upsertNode, hold]
    dsimp only
    rw [MemoryNode.checked]
    cases hstrict : posture.isStrict with
    | true => exact ⟨rfl, fun hdev => by cases hdev⟩
    | false => exact ⟨rfl, fun _ => hset _⟩

theorem upserted_append {event : UpsertEvent} {nodeId : String} :
    Upserted (events ++ [event]) nodeId ↔
      Upserted events nodeId ∨ ∃ payload now, event = .node nodeId payload now := by
  simp only [Upserted, mem_append, mem_singleton, exists_or]
  refine or_congr_right ?_
  simp only [eq_comm]

theorem Inv.stepNode (h : Inv text posture backend events pair) (nodeId : String)
    (payload : PyDict) (now : String) :
    Inv text posture backend (events ++ [.node nodeId payload now])
      (pair.step text posture backend (.node nodeId payload now)) := by
  obtain ⟨hedges, hnodes⟩ :=
    @upsertNode_frame ρ β text posture pair.graph nodeId (.ofDict payload) now
  have hlatest : ∀ src dst relation,
      latest (events ++ [.node nodeId payload now]) src dst relation =
        latest events src dst relation := by
    intro src dst relation
    rw [latest_append]
    rfl
  constructor
  · intro hdev other hother
    refine hnodes hdev other ?_
    rcases upserted_append.mp hother with hother | ⟨payload', now', heq⟩
    · exact .inr (h.nodes hdev other hother)
    · cases heq
      exact .inl rfl
  · intro edge
    rw [hlatest, ← h.edges]
    change edge ∈ (pair.graph.upsertNode text posture nodeId (.ofDict payload) now).1.edges ↔ _
    rw [hedges]
  · change ((pair.graph.upsertNode text posture nodeId (.ofDict payload) now).1.edges.map _).Nodup
    rw [hedges]
    exact h.names
  · intro key row
    rw [hlatest, ← h.rows]
    change (backend.upsertNode pair.db nodeId payload).1.edges.get? key = some row ↔ _
    rw [SqliteKnowledgeGraphBackend.upsertNode]
    split
    · exact Iff.rfl
    · exact Iff.rfl

variable {src dst relation : String}

section

variable (h : Inv text posture backend events pair)
include h

theorem Inv.mem_upsertEdge_iff (hsrc : Upserted events src) (hdst : Upserted events dst)
    (payload : PyDict) (edge : MemoryEdge) :
    edge ∈ (pair.graph.upsertEdge text posture src dst relation payload).1.edges ↔
      (edge ∈ pair.graph.edges ∧
          ¬ (edge.sourceId = src ∧ edge.targetId = dst ∧ edge.relationType = relation)) ∨
        LongTermMemoryGraph.upsertedEdge text posture src dst relation payload = .ok edge := by
  have hdetach : edge ∈ (pair.graph.detach src dst relation).edges ↔ edge ∈ pair.graph.edges ∧
        ¬ (edge.sourceId = src ∧ edge.targetId = dst ∧ edge.relationType = relation) := by
    rw [LongTermMemoryGraph.detach, mem_filter]
    refine and_congr_right fun _ => ?_
    rw [Bool.not_eq_true', Bool.eq_false_iff, ne_eq, Bool.and_eq_true, Bool.and_eq_true, beq_iff_eq,
      beq_iff_eq, beq_iff_eq, and_assoc]
  rw [LongTermMemoryGraph.upsertEdge]
  cases hedge : LongTermMemoryGraph.upsertedEdge text posture src dst relation payload with
  | error raised =>
    refine hdetach.trans ⟨.inl, fun hor => hor.resolve_right fun heq => ?_⟩
    cases heq
  | ok new =>
    obtain ⟨weight, hweighed, rfl⟩ := upsertedEdge_eq_ok_iff.mp hedge
    dsimp only
    rw [LongTermMemoryGraph.addEdge,
      if_pos ⟨h.nodes hweighed.1 src hsrc, h.nodes hweighed.1 dst hdst⟩]
    rw [mem_append, hdetach, mem_singleton]
    refine or_congr_right ⟨fun heq => ?_, fun heq => (Except.ok.inj heq).symm⟩
    rw [heq]

theorem Inv.nodup_upsertEdge (src dst relation : String) (payload : PyDict) :
    ((pair.graph.upsertEdge text posture src dst relation payload).1.edges.map nameOf).Nodup := by
  have hdetach : ((pair.graph.detach src dst relation).edges.map nameOf).Nodup :=
    h.names.sublist (filter_sublist.map nameOf)
  rw [LongTermMemoryGraph.upsertEdge]
  split
  · exact hdetach
  · rename_i edge hedge
    obtain ⟨weight, -, rfl⟩ := upsertedEdge_eq_ok_iff.mp hedge
    dsimp only
    rw [LongTermMemoryGraph.addEdge]
    split
    · rw [map_append, List.nodup_append]
      refine ⟨hdetach, nodup_singleton _, fun name hname other hother => ?_⟩
      obtain ⟨stored, hstored, rfl⟩ := mem_map.mp hname
      rw [mem_singleton.mp hother]
      rintro hsame
      obtain ⟨hsource, htarget, hrelation⟩ :
          stored.sourceId = src ∧ stored.targetId = dst ∧ stored.relationType = relation := by
        simpa [nameOf] using hsame
      have hkeeps := (mem_filter.mp hstored).2
      simp [hsource, htarget, hrelation] at hkeeps
    · exact hdetach

theorem Inv.stepEdge {payload : PyDict} (hsrc : Upserted events src) (hdst : Upserted events dst)
    (hpayload : PyValue.rereadFields false payload = .ok payload) :
    Inv text posture backend (events ++ [.edge src dst relation payload])
      (pair.step text posture backend (.edge src dst relation payload)) := by
  have hlatest : ∀ src' dst' relation',
      latest (events ++ [.edge src dst relation payload]) src' dst' relation' =
        if src = src' ∧ dst = dst' ∧ relation = relation' then some payload
        else latest events src' dst' relation' := by
    intro src' dst' relation'
    rw [latest_append, payloadOf]
    split
    · rfl
    · rfl
  constructor
  · intro hdev other hother
    have hbefore := (upserted_append.mp hother).resolve_right (by rintro ⟨_, _, heq⟩; cases heq)
    have hnode := h.nodes hdev other hbefore
    change ((pair.graph.upsertEdge text posture src dst relation payload).1.nodes.get? other).isSome
    rw [LongTermMemoryGraph.upsertEdge]
    split
    · exact hnode
    · dsimp only
      rw [LongTermMemoryGraph.addEdge]
      split
      · exact hnode
      · exact hnode
  · intro edge
    refine (h.mem_upsertEdge_iff hsrc hdst payload edge).trans ?_
    rw [h.edges, upsertedEdge_eq_ok_iff, hlatest]
    by_cases hname : src = edge.sourceId ∧ dst = edge.targetId ∧ relation = edge.relationType
    · rw [if_pos hname]
      obtain ⟨rfl, rfl, rfl⟩ := hname
      constructor
      · rintro (⟨-, hother⟩ | ⟨weight, hweighed, heq⟩)
        · exact absurd ⟨rfl, rfl, rfl⟩ hother
        · have hweight : edge.weight = weight := congrArg MemoryEdge.weight heq
          exact ⟨congrArg MemoryEdge.tenantId heq, payload, rfl, hweight ▸ hweighed⟩
      · rintro ⟨htenant, other, hother, hweighed⟩
        obtain rfl := Option.some.inj hother
        refine .inr ⟨edge.weight, hweighed, ?_⟩
        rw [← htenant]
    · rw [if_neg hname]
      constructor
      · rintro (⟨hold, -⟩ | ⟨weight, -, rfl⟩)
        · exact hold
        · exact absurd ⟨rfl, rfl, rfl⟩ hname
      · exact fun hold => .inl ⟨hold, fun hsame =>
        hname ⟨hsame.1.symm, hsame.2.1.symm, hsame.2.2.symm⟩⟩
  · exact h.nodup_upsertEdge src dst relation payload
  · intro key row
    change (backend.upsertEdge pair.db src dst relation payload).1.edges.get? key = some row ↔ _
    rw [SqliteKnowledgeGraphBackend.upsertEdge, hpayload]
    dsimp only
    rw [Dict.get?_set]
    by_cases hkey : key = backend.edgeKey src dst relation
    · have hnow : latest (events ++ [.edge src dst relation payload]) key.src key.dst key.relation =
          some payload := by
        rw [hlatest, hkey]
        exact if_pos ⟨rfl, rfl, rfl⟩
      rw [if_pos hkey, hnow, hkey]
      constructor
      · intro hrow
        rw [← Option.some.inj hrow]
        exact ⟨rfl, rfl, rfl, rfl⟩
      · rintro ⟨-, -, htenant, hrow⟩
        rw [← htenant, Option.some.inj hrow]
    · rw [if_neg hkey, h.rows, hlatest]
      refine and_congr_right fun hprofile => and_congr_right fun hproject => ?_
      rw [if_neg]
      rintro ⟨rfl, rfl, rfl⟩
      refine hkey ?_
      rw [SqliteKnowledgeGraphBackend.edgeKey, ← hprofile, ← hproject]

/-- An upsert leaves both backends the same edges. -/
theorem Inv.step {event : UpsertEvent} (hgrounded : Grounded (events ++ [event]))
    (hpayload : PyValue.rereadFields false event.payload = .ok event.payload) :
    Inv text posture backend (events ++ [event]) (pair.step text posture backend event) := by
  cases event with
  | node nodeId payload now => exact h.stepNode nodeId payload now
  | edge src dst relation payload =>
    obtain ⟨hsrc, hdst⟩ := hgrounded events src dst relation payload (prefix_refl _)
    exact h.stepEdge hsrc hdst hpayload

end

def after (text : GraphText ρ β) (posture : Posture) (backend : SqliteKnowledgeGraphBackend)
    (events : List UpsertEvent) : BackendPair ρ β := exec (step text posture backend) new events

theorem inv_after (hgrounded : Grounded events)
    (hlives : ∀ event ∈ events, PyValue.rereadFields false event.payload = .ok event.payload) :
    Inv text posture backend events (after text posture backend events) := by
  induction events using List.reverseRecOn with
  | nil => exact inv_new
  | append_singleton past event ih =>
    have hpast := ih hgrounded.past fun earlier hearlier =>
      hlives earlier (mem_append_left _ hearlier)
    rw [after, exec, foldl_append]
    exact hpast.step hgrounded (hlives event (mem_append_right _ (mem_singleton_self event)))

/-! ## Relations -/

section

variable (h : Inv text posture backend events pair)
include h

theorem Inv.mem_queryRelation_graph {nodeId relation direction : String} {edge : Edge} :
    edge ∈ pair.graph.queryRelation nodeId relation direction ↔
      edge.relation = relation ∧ Asked nodeId direction edge.src edge.dst ∧
        ∃ payload ∈ latest events edge.src edge.dst relation, ∃ weight,
          Weighed text posture payload weight ∧ edge.payload = [("weight", .float weight)] := by
  rw [LongTermMemoryGraph.queryRelation, mem_flatMap]
  constructor
  · rintro ⟨stored, hstored, hedge⟩
    obtain ⟨-, payload, hlatest, hweighed⟩ := (h.edges stored).mp hstored
    split at hedge
    · cases hedge
    · rename_i hrelation
      rw [ne_eq, not_not] at hrelation
      subst hrelation
      have hfound : edge = LongTermMemoryGraph.asEdge stored ∧
          Asked nodeId direction stored.sourceId stored.targetId := by
        rcases mem_append.mp hedge with hedge | hedge
        · split at hedge
          · rename_i hout
            exact ⟨mem_singleton.mp hedge, .inl hout⟩
          · cases hedge
        · split at hedge
          · rename_i hin
            exact ⟨mem_singleton.mp hedge, .inr hin⟩
          · cases hedge
      obtain ⟨rfl, hasked⟩ := hfound
      exact ⟨rfl, hasked, payload, hlatest, stored.weight, hweighed, rfl⟩
  · obtain ⟨src, dst, relation', payload'⟩ := edge
    rintro ⟨rfl, hasked, payload, hlatest, weight, hweighed, rfl⟩
    refine ⟨⟨src, dst, relation', weight, ""⟩,
      (h.edges _).mpr ⟨rfl, payload, hlatest, hweighed⟩, ?_⟩
    rw [if_neg (not_not.mpr rfl), mem_append]
    refine hasked.imp (fun hout => ?_) fun hin => ?_
    · rw [if_pos hout]
      exact mem_singleton_self _
    · rw [if_pos hin]
      exact mem_singleton_self _

theorem Inv.mem_edgeRows_iff {p : KgEdgeKey → Bool}
    {row : KgEdgeKey × KgRow} : row ∈ backend.edgeRows pair.db p ↔
      p row.1 = true ∧ row.1.profileId = backend.profileId ∧ row.1.projectId = backend.projectId ∧
        row.2.tenantId = backend.tenantId ∧
          latest events row.1.src row.1.dst row.1.relation = some row.2.payload := by
  rw [SqliteKnowledgeGraphBackend.edgeRows, Table.select, mem_filter, ← h.rows,
    Dict.get?_eq_some_iff, Bool.and_eq_true]
  constructor
  · rintro ⟨hmem, hp, -⟩
    exact ⟨hp, hmem⟩
  · rintro ⟨hp, hmem⟩
    obtain ⟨hprofile, hproject, htenant, -⟩ :=
      (h.rows row.1 row.2).mp (Dict.get?_eq_some_iff.mpr hmem)
    refine ⟨hmem, hp, ?_⟩
    rw [SqliteKnowledgeGraphBackend.seesEdge, hprofile, hproject, htenant, beq_self_eq_true,
      beq_self_eq_true, beq_self_eq_true]
    rfl

theorem Inv.mem_fetchEdges_iff {select : EdgeSelect}
    {edge : Edge} : edge ∈ backend.fetchEdges plan pair.db select ↔
      select.asks (backend.edgeKey edge.src edge.dst edge.relation) = true ∧
        latest events edge.src edge.dst edge.relation = some edge.payload := by
  rw [SqliteKnowledgeGraphBackend.fetchEdges, mem_map]
  constructor
  · rintro ⟨⟨⟨src, dst, relation, profile, project⟩, row⟩, hrow, rfl⟩
    obtain ⟨hasks, rfl, rfl, -, hlatest⟩ :=
      h.mem_edgeRows_iff.mp ((plan.edges_perm select _).mem_iff.mp hrow)
    exact ⟨hasks, hlatest⟩
  · rintro ⟨hasks, hlatest⟩
    refine ⟨(backend.edgeKey edge.src edge.dst edge.relation, ⟨backend.tenantId, edge.payload⟩),
      (plan.edges_perm select _).mem_iff.mpr (h.mem_edgeRows_iff.mpr ?_), rfl⟩
    exact ⟨hasks, rfl, rfl, rfl, hlatest⟩

theorem Inv.mem_queryRelation_backend {nodeId relation direction : String} {edge : Edge} :
    edge ∈ backend.queryRelation plan pair.db nodeId relation direction ↔
      edge.relation = relation ∧ Asked nodeId direction edge.src edge.dst ∧
        latest events edge.src edge.dst relation = some edge.payload := by
  have hpart : ∀ (P : Prop) [Decidable P] (edges : List Edge),
      edge ∈ (if P then edges else []) ↔ P ∧ edge ∈ edges := by
    intro P _ edges
    split
    · rename_i hP
      exact (and_iff_right hP).symm
    · rename_i hP
      exact iff_of_false not_mem_nil fun hboth => hP hboth.1
  rw [SqliteKnowledgeGraphBackend.queryRelation, mem_append, hpart, hpart,
    h.mem_fetchEdges_iff, h.mem_fetchEdges_iff, Asked]
  simp only [EdgeSelect.asks, SqliteKnowledgeGraphBackend.edgeKey, Bool.and_eq_true, beq_iff_eq]
  constructor
  · rintro (⟨hout, ⟨hsrc, rfl⟩, hlatest⟩ | ⟨hin, ⟨hdst, rfl⟩, hlatest⟩)
    · exact ⟨rfl, .inl ⟨hout, hsrc⟩, hlatest⟩
    · exact ⟨rfl, .inr ⟨hin, hdst⟩, hlatest⟩
  · rintro ⟨rfl, ⟨hout, hsrc⟩ | ⟨hin, hdst⟩, hlatest⟩
    · exact .inl ⟨hout, ⟨hsrc, rfl⟩, hlatest⟩
    · exact .inr ⟨hin, ⟨hdst, rfl⟩, hlatest⟩

theorem Inv.relation_iff (nodeId relation direction : String) :
    Agrees plan backend events pair (.relation nodeId relation direction) ↔
      Meets text posture events (.relation nodeId relation direction) := by
  constructor
  · rintro ⟨-, hback⟩ src dst hasked payload hlatest
    obtain ⟨edge, hedge, hsrc, hdst, -, hpayload⟩ := hback ⟨src, dst, relation, payload⟩
      (h.mem_queryRelation_backend.mpr ⟨rfl, hasked, hlatest⟩)
    obtain ⟨-, -, found, hfound, weight, hweighed, heq⟩ := h.mem_queryRelation_graph.mp hedge
    dsimp only at hsrc hdst
    rw [hsrc, hdst] at hfound
    obtain rfl : found = payload := Option.some.inj (hfound.symm.trans hlatest)
    rw [heq] at hpayload
    exact ⟨weight, hweighed, hpayload⟩
  · intro htwice
    constructor
    · rintro ⟨src, dst, _, _⟩ hedge
      obtain ⟨rfl, hasked, payload, hlatest, weight, hweighed, rfl⟩ :=
        h.mem_queryRelation_graph.mp hedge
      obtain ⟨other, hother, hsame⟩ := htwice src dst hasked payload hlatest
      obtain rfl := hweighed.unique hother
      exact ⟨⟨src, dst, _, payload⟩,
        h.mem_queryRelation_backend.mpr ⟨rfl, hasked, hlatest⟩, rfl, rfl,
        rfl, hsame⟩
    · rintro ⟨src, dst, _, payload⟩ hedge
      obtain ⟨rfl, hasked, hlatest⟩ := h.mem_queryRelation_backend.mp hedge
      obtain ⟨weight, hweighed, hsame⟩ := htwice src dst hasked payload hlatest
      refine ⟨⟨src, dst, _, [("weight", .float weight)]⟩,
        h.mem_queryRelation_graph.mpr ?_, rfl, rfl,
        rfl, hsame⟩
      exact ⟨rfl, hasked, payload, hlatest, weight, hweighed, rfl⟩

end

/-! ## Conflicts -/

theorem Kept.linked (h : Kept text posture events src dst relation) :
    Linked events relation src dst := by
  obtain ⟨payload, hlatest, -⟩ := h
  exact linked_iff.mpr ⟨payload, hlatest⟩

section

variable (h : Inv text posture backend events pair)
include h

theorem Inv.kept_iff :
    Kept text posture events src dst relation ↔ ∃ edge ∈ pair.graph.edges,
        edge.sourceId = src ∧ edge.targetId = dst ∧ edge.relationType = relation := by
  constructor
  · rintro ⟨payload, hlatest, weight, hweighed⟩
    exact ⟨⟨src, dst, relation, weight, ""⟩, (h.edges _).mpr ⟨rfl, payload, hlatest, hweighed⟩, rfl,
      rfl, rfl⟩
  · rintro ⟨edge, hedge, rfl, rfl, rfl⟩
    obtain ⟨-, payload, hlatest, hweighed⟩ := (h.edges edge).mp hedge
    exact ⟨payload, hlatest, edge.weight, hweighed⟩

theorem Inv.detectConflict_graph (claimA claimB : String) :
    (pair.graph.detectConflict claimA claimB = some (.contradicts claimA claimB) ∧
        (Kept text posture events claimA claimB "contradicts" ∨
          Kept text posture events claimB claimA "contradicts")) ∨
      pair.graph.detectConflict claimA claimB = none ∧
        ¬ (Kept text posture events claimA claimB "contradicts" ∨
          Kept text posture events claimB claimA "contradicts") := by
  rw [h.kept_iff, h.kept_iff, LongTermMemoryGraph.detectConflict]
  split
  · rename_i hany
    obtain ⟨edge, hedge, hfound⟩ := any_eq_true.mp hany
    simp only [Bool.and_eq_true, Bool.or_eq_true, beq_iff_eq] at hfound
    obtain ⟨hrelation, ⟨hsource, htarget⟩ | ⟨hsource, htarget⟩⟩ := hfound
    · exact .inl ⟨rfl, .inl ⟨edge, hedge, hsource, htarget, hrelation⟩⟩
    · exact .inl ⟨rfl, .inr ⟨edge, hedge, hsource, htarget, hrelation⟩⟩
  · rename_i hany
    refine .inr ⟨rfl, fun hfound => hany (any_eq_true.mpr ?_)⟩
    simp only [Bool.and_eq_true, Bool.or_eq_true, beq_iff_eq]
    rcases hfound with ⟨edge, hedge, hsource, htarget, hrelation⟩ |
      ⟨edge, hedge, hsource, htarget, hrelation⟩
    · exact ⟨edge, hedge, hrelation, .inl ⟨hsource, htarget⟩⟩
    · exact ⟨edge, hedge, hrelation, .inr ⟨hsource, htarget⟩⟩

theorem Inv.detectConflict_backend (claimA claimB : String) :
    (backend.detectConflict pair.db claimA claimB = some (.contradicts claimA claimB) ∧
        (Linked events "contradicts" claimA claimB ∨ Linked events "contradicts" claimB claimA)) ∨
      backend.detectConflict pair.db claimA claimB = none ∧
        ¬ (Linked events "contradicts" claimA claimB ∨
          Linked events "contradicts" claimB claimA) := by
  rw [linked_iff, linked_iff, SqliteKnowledgeGraphBackend.detectConflict]
  split
  · rename_i hempty
    rw [List.isEmpty_iff] at hempty
    refine .inr ⟨rfl, fun hfound => ?_⟩
    have hnone : ∀ row, row ∉ backend.edgeRows pair.db _ := eq_nil_iff_forall_not_mem.mp hempty
    rcases hfound with ⟨payload, hlatest⟩ | ⟨payload, hlatest⟩
    · refine hnone (backend.edgeKey claimA claimB "contradicts", ⟨backend.tenantId, payload⟩)
        (h.mem_edgeRows_iff.mpr ⟨?_, rfl, rfl, rfl, hlatest⟩)
      simp [SqliteKnowledgeGraphBackend.edgeKey]
    · refine hnone (backend.edgeKey claimB claimA "contradicts", ⟨backend.tenantId, payload⟩)
        (h.mem_edgeRows_iff.mpr ⟨?_, rfl, rfl, rfl, hlatest⟩)
      simp [SqliteKnowledgeGraphBackend.edgeKey]
  · rename_i hsome
    rw [List.isEmpty_iff] at hsome
    obtain ⟨row, hrow⟩ := exists_mem_of_ne_nil _ hsome
    obtain ⟨hasks, -, -, -, hlatest⟩ := h.mem_edgeRows_iff.mp hrow
    simp only [Bool.and_eq_true, Bool.or_eq_true, beq_iff_eq] at hasks
    obtain ⟨hrelation, ⟨hsrc, hdst⟩ | ⟨hsrc, hdst⟩⟩ := hasks
    · rw [hrelation, hsrc, hdst] at hlatest
      exact .inl ⟨rfl, .inl ⟨_, hlatest⟩⟩
    · rw [hrelation, hsrc, hdst] at hlatest
      exact .inl ⟨rfl, .inr ⟨_, hlatest⟩⟩

theorem Inv.conflict_iff (claimA claimB : String) :
    Agrees plan backend events pair (.conflict claimA claimB) ↔
      Meets text posture events (.conflict claimA claimB) := by
  rw [Agrees, Meets]
  rcases h.detectConflict_graph claimA claimB with ⟨hgraph, hkept⟩ | ⟨hgraph, hkept⟩
  · rcases h.detectConflict_backend claimA claimB with ⟨hback, -⟩ | ⟨hback, hlinked⟩
    · rw [hgraph, hback]
      exact iff_of_true rfl fun _ => hkept
    · exact absurd (hkept.imp Kept.linked Kept.linked) hlinked
  · rcases h.detectConflict_backend claimA claimB with ⟨hback, hlinked⟩ | ⟨hback, hlinked⟩
    · rw [hgraph, hback]
      exact iff_of_false (Option.some_ne_none _).symm fun himp => hkept (himp hlinked)
    · rw [hgraph, hback]
      exact iff_of_true rfl fun hl => absurd hl hlinked

end

/-! ## Transitive queries -/

section

variable (h : Inv text posture backend events pair)
include h

theorem Inv.targets_iff {relation x y : String} :
    y ∈ pair.graph.targets (some relation) x ↔ Kept text posture events x y relation := by
  rw [LongTermMemoryGraph.mem_targets_iff, h.kept_iff]

theorem Inv.leads_iff {relation x y : String} :
    SqliteKnowledgeGraphBackend.Leads
        (fun nodeId => backend.fetchEdges plan pair.db (.outgoing nodeId relation)) x y ↔
      Linked events relation x y := by
  rw [linked_iff]
  constructor
  · rintro ⟨edge, hedge, rfl⟩
    obtain ⟨hasks, hlatest⟩ := h.mem_fetchEdges_iff.mp hedge
    simp only [EdgeSelect.asks, SqliteKnowledgeGraphBackend.edgeKey, Bool.and_eq_true,
      beq_iff_eq] at hasks
    rw [hasks.1, hasks.2] at hlatest
    exact ⟨edge.payload, hlatest⟩
  · rintro ⟨payload, hlatest⟩
    refine ⟨⟨x, y, relation, payload⟩, h.mem_fetchEdges_iff.mpr ⟨?_, hlatest⟩, rfl⟩
    simp [EdgeSelect.asks, SqliteKnowledgeGraphBackend.edgeKey]

theorem Inv.destinations_backend
    (start relation : String) (maxDepth : Int) : Destinations events start relation maxDepth
      (backend.transitiveQuery plan pair.db start relation maxDepth) := by
  intro y
  have hsame : SqliteKnowledgeGraphBackend.Leads
      (fun nodeId => backend.fetchEdges plan pair.db (.outgoing nodeId relation)) =
        Linked events relation := by
    funext x y
    exact propext h.leads_iff
  rw [SqliteKnowledgeGraphBackend.transitiveQuery, SqliteKnowledgeGraphBackend.exists_rounds_iff,
    hsame]
  refine and_congr_right fun _ => exists_congr fun n => and_congr_right fun hpos => ?_
  refine and_congr_left fun _ => ?_
  omega

theorem Inv.path_backend {start relation : String} {maxDepth : Int} {path : GraphPath}
    (hpath : path ∈ backend.transitiveQuery plan pair.db start relation maxDepth) :
    ∃ edge : Edge, path = ⟨[start, edge.dst], [edge]⟩ ∧ edge.dst ≠ start ∧
      (Linked events relation start edge.dst → edge.src = start ∧ edge.relation = relation ∧
          latest events start edge.dst relation = some edge.payload) := by
  obtain ⟨n, -, x, hx, edge, hedge, hdist, rfl⟩ :=
    SqliteKnowledgeGraphBackend.mem_rounds hpath
  have hne : edge.dst ≠ start := by
    intro hstart
    have hzero := hdist.unique (atDistance_zero_iff.mpr hstart)
    omega
  refine ⟨edge, rfl, hne, fun hlinked => ?_⟩
  have hone := hdist.unique (atDistance_one_iff.mpr ⟨h.leads_iff.mpr hlinked, hne⟩)
  obtain rfl : n = 0 := by omega
  obtain ⟨hasks, hlatest⟩ := h.mem_fetchEdges_iff.mp hedge
  simp only [EdgeSelect.asks, SqliteKnowledgeGraphBackend.edgeKey, Bool.and_eq_true,
    beq_iff_eq] at hasks
  rw [hasks.1, hasks.2, atDistance_zero_iff.mp hx] at hlatest
  exact ⟨hasks.1.trans (atDistance_zero_iff.mp hx), hasks.2, hlatest⟩

end

theorem eq_singleton_of_nodup_map {α κ : Type} {name : α → κ} {items : List α} {item : α}
    (hnodup : (items.map name).Nodup) (hmem : item ∈ items)
    (hsame : ∀ other ∈ items, name other = name item) : items = [item] := by
  cases items with
  | nil => cases hmem
  | cons first rest =>
    rw [map_cons, nodup_cons] at hnodup
    cases rest with
    | nil => rw [mem_singleton.mp hmem]
    | cons second rest =>
      refine absurd (mem_map.mpr ⟨second, mem_cons_self, ?_⟩) hnodup.1
      rw [hsame second (by simp), hsame first mem_cons_self]

section

variable (h : Inv text posture backend events pair)
include h

theorem Inv.direct_eq {start dst relation : String} {payload : PyDict} {weight : PyFloat}
    (hlatest : latest events start dst relation = some payload)
    (hweighed : Weighed text posture payload weight) : (pair.graph.edges.filter fun edge =>
      edge.sourceId == start && edge.targetId == dst && edge.relationType == relation).map
        LongTermMemoryGraph.asEdge = [⟨start, dst, relation, [("weight", .float weight)]⟩] := by
  have hstored : (⟨start, dst, relation, weight, ""⟩ : MemoryEdge) ∈ pair.graph.edges :=
    (h.edges _).mpr ⟨rfl, payload, hlatest, hweighed⟩
  have hfilter : (pair.graph.edges.filter fun edge =>
      edge.sourceId == start && edge.targetId == dst && edge.relationType == relation) =
        [⟨start, dst, relation, weight, ""⟩] := by
    refine eq_singleton_of_nodup_map (h.names.sublist (filter_sublist.map nameOf))
      (mem_filter.mpr ⟨hstored, by simp⟩) fun other hother => ?_
    obtain ⟨-, hname⟩ := mem_filter.mp hother
    simp only [Bool.and_eq_true, beq_iff_eq] at hname
    rw [nameOf, hname.1.1, hname.1.2, hname.2]
    rfl
  rw [hfilter]
  rfl

theorem Inv.path_graph {start relation dst : String}
    {maxDepth : Int} {path : GraphPath} {edge : Edge}
    (hpath : path ∈ pair.graph.transitiveQuery start relation maxDepth)
    (hnodes : path.nodes = [start, dst]) (hedges : List.Forall₂ Edge.Same path.edges [edge]) :
    dst ∈ pair.graph.findTransitiveClosure start (some relation) maxDepth ∧
      ∃ payload ∈ latest events start dst relation, ∃ weight, Weighed text posture payload weight ∧
        PyValue.eq (.dict [("weight", .float weight)]) (.dict edge.payload) = true := by
  obtain ⟨target, htarget, rfl⟩ := mem_map.mp hpath
  obtain rfl : target = dst := by simpa using hnodes
  refine ⟨htarget, ?_⟩
  rcases hdirect : (pair.graph.edges.filter fun edge =>
      edge.sourceId == start && edge.targetId == target && edge.relationType == relation)
    with _ | ⟨stored, rest⟩
  · rw [hdirect] at hedges
    cases hedges
  · have hmem : stored ∈ stored :: rest := mem_cons_self
    rw [← hdirect, mem_filter] at hmem
    obtain ⟨hstored, hname⟩ := hmem
    simp only [Bool.and_eq_true, beq_iff_eq] at hname
    obtain ⟨⟨rfl, rfl⟩, rfl⟩ := hname
    obtain ⟨-, payload, hlatest, hweighed⟩ := (h.edges stored).mp hstored
    rw [hdirect] at hedges
    cases hedges with
    | cons hsame _ => exact ⟨payload, hlatest, stored.weight, hweighed, hsame.2.2.2⟩

theorem Inv.successor_of_agrees {start relation : String} {maxDepth : Int}
    (hagrees : Agrees plan backend events pair (.transitive start relation maxDepth))
    {y : String} {n : Nat} (hpos : 1 ≤ n) (hn : n ≤ maxDepth)
    (hdist : AtDistance (Linked events relation) start n y) (hne : y ≠ start) :
    Linked events relation start y ∧ 2 ≤ maxDepth ∧
      Mirrored text posture events start y relation := by
  obtain ⟨⟨-, hback⟩, -, -⟩ := hagrees
  obtain ⟨path, hpath, hnodes⟩ :=
    (h.destinations_backend start relation maxDepth y).mpr ⟨hne, n, hpos, hn, hdist⟩
  obtain ⟨edge, rfl, -, hedge⟩ := h.path_backend hpath
  obtain rfl : edge.dst = y := by simpa using hnodes
  obtain ⟨other, hother, hsame⟩ := hback _ hpath
  obtain ⟨hclosure, payload, hlatest, weight, hweighed, heq⟩ :=
    h.path_graph hother hsame.1 hsame.2
  have hlinked : Linked events relation start edge.dst := linked_iff.mpr ⟨payload, hlatest⟩
  refine ⟨hlinked, ?_, fun found hfound => ⟨weight, ?_⟩⟩
  · obtain ⟨-, m, hm, hwalk⟩ :=
      LongTermMemoryGraph.mem_findTransitiveClosure_iff _ _ _ _ |>.mp hclosure
    rcases Nat.eq_zero_or_pos m with rfl | hmpos
    · exact absurd (atDistance_zero_iff.mp hwalk) hne
    · omega
  · obtain rfl : payload = found := Option.some.inj (hlatest.symm.trans hfound)
    obtain ⟨-, -, hpayload⟩ := hedge hlinked
    obtain rfl : payload = edge.payload := Option.some.inj (hlatest.symm.trans hpayload)
    exact ⟨hweighed, heq⟩

theorem Inv.agrees_of_reach {start relation : String} {maxDepth : Int}
    (hclosure : ∀ y, y ∈ pair.graph.findTransitiveClosure start (some relation) maxDepth ↔
      y ≠ start ∧ ∃ n : Nat, 1 ≤ n ∧ n ≤ maxDepth ∧ AtDistance (Linked events relation) start n y)
    (hreach : ∀ y, y ≠ start → ∀ n : Nat, 1 ≤ n → n ≤ maxDepth →
      AtDistance (Linked events relation) start n y →
        Linked events relation start y ∧ Mirrored text posture events start y relation) :
    Agrees plan backend events pair (.transitive start relation maxDepth) := by
  have htargets : Destinations events start relation maxDepth
      (backend.transitiveQuery plan pair.db start relation maxDepth) :=
    h.destinations_backend start relation maxDepth
  have hgraph : ∀ y, (∃ path ∈ pair.graph.transitiveQuery start relation maxDepth,
      path.nodes = [start, y]) ↔
        y ∈ pair.graph.findTransitiveClosure start (some relation) maxDepth := by
    intro y
    constructor
    · rintro ⟨path, hpath, hnodes⟩
      obtain ⟨target, htarget, rfl⟩ := mem_map.mp hpath
      obtain rfl : target = y := by simpa using hnodes
      exact htarget
    · exact fun hy => ⟨_, mem_map.mpr ⟨y, hy, rfl⟩, rfl⟩
  -- the two paths to a node are the same
  have hsame : ∀ (edge : Edge) (path : GraphPath),
      edge.dst ∈ pair.graph.findTransitiveClosure start (some relation) maxDepth →
        ⟨[start, edge.dst], [edge]⟩ ∈ backend.transitiveQuery plan pair.db start relation maxDepth →
        path ∈ pair.graph.transitiveQuery start relation maxDepth →
        path.nodes = [start, edge.dst] → GraphPath.Same path ⟨[start, edge.dst], [edge]⟩ := by
    intro edge path hmem hback hpath hnodes
    obtain ⟨hne, n, hpos, hn, hdist⟩ := (hclosure edge.dst).mp hmem
    obtain ⟨hlinked, htwice⟩ := hreach edge.dst hne n hpos hn hdist
    obtain ⟨edge', heq, -, hedge⟩ := h.path_backend hback
    obtain rfl : edge' = edge := by
      injection heq with _ hedges
      exact (singleton_inj.mp hedges).symm
    obtain ⟨hsrc, hrelation, hlatest⟩ := hedge hlinked
    obtain ⟨weight, hweighed, hpayload⟩ := htwice _ hlatest
    obtain ⟨target, -, rfl⟩ := mem_map.mp hpath
    obtain rfl : target = edge'.dst := by simpa using hnodes
    refine ⟨rfl, ?_⟩
    rw [h.direct_eq hlatest hweighed]
    exact .cons ⟨hsrc.symm, rfl, hrelation.symm, hpayload⟩ .nil
  refine ⟨⟨fun path hpath => ?_, fun path hpath => ?_⟩, fun y => (hgraph y).trans (hclosure y),
    htargets⟩
  · obtain ⟨target, htarget, hnodes⟩ := mem_map.mp hpath
    obtain ⟨other, hother, hlast⟩ := (htargets target).mpr ((hclosure target).mp htarget)
    obtain ⟨edge, rfl, -, -⟩ := h.path_backend hother
    obtain rfl : edge.dst = target := by simpa using hlast
    exact ⟨_, hother, hsame edge path htarget hother hpath (by rw [← hnodes])⟩
  · obtain ⟨edge, rfl, -, -⟩ := h.path_backend hpath
    have hmem := (hclosure edge.dst).mpr ((htargets edge.dst).mp ⟨_, hpath, rfl⟩)
    obtain ⟨other, hother, hnodes⟩ := (hgraph edge.dst).mpr hmem
    exact ⟨other, hother, hsame edge other hmem hpath hother hnodes⟩

theorem Inv.transitive_iff (start relation : String)
    (maxDepth : Int) : Agrees plan backend events pair (.transitive start relation maxDepth) ↔
      Meets text posture events (.transitive start relation maxDepth) := by
  have hmem : ∀ y, y ∈ pair.graph.findTransitiveClosure start (some relation) maxDepth ↔
      y ≠ start ∧ ∃ n : Nat, n < maxDepth ∧
        AtDistance (fun x y => y ∈ pair.graph.targets (some relation) x) start n y :=
    LongTermMemoryGraph.mem_findTransitiveClosure_iff pair.graph (some relation) maxDepth
  have hkept : (fun x y => y ∈ pair.graph.targets (some relation) x) =
      fun x y => Kept text posture events x y relation := by
    funext x y
    exact propext h.targets_iff
  rw [hkept] at hmem
  have hmono : ∀ x y, Kept text posture events x y relation → Linked events relation x y :=
    fun _ _ => Kept.linked
  constructor
  · intro hagrees
    rcases lt_or_ge 0 maxDepth with hdepth | hdepth
    · refine .inr ?_
      by_cases hnone : ∀ y, Linked events relation start y → y = start
      · exact .inl hnone
      · obtain ⟨first, hfirst, hne⟩ : ∃ y, Linked events relation start y ∧ y ≠ start := by
          simpa using hnone
        have hone : ∀ y, Linked events relation start y → y ≠ start →
            2 ≤ maxDepth ∧ Mirrored text posture events start y relation := by
          intro y hlinked hother
          exact (h.successor_of_agrees hagrees (Nat.le_refl 1) (by omega)
            (atDistance_one_iff.mpr ⟨hlinked, hother⟩) hother).2
        refine .inr ⟨(hone first hfirst hne).1, fun y hother payload hlatest => ?_, ?_⟩
        · exact (hone y (linked_iff.mpr ⟨payload, hlatest⟩) hother).2 payload hlatest
        · intro x y hx hlinked hnext
          by_contra hneither
          rw [not_or] at hneither
          obtain ⟨hother, hnew⟩ := hneither
          -- the node is at distance two
          have htwo : AtDistance (Linked events relation) start 2 y := by
            refine atDistance_succ_iff.mpr
              ⟨⟨x, atDistance_one_iff.mpr ⟨hlinked, hx⟩, hnext⟩, fun m hm hy => ?_⟩
            obtain rfl | rfl : m = 0 ∨ m = 1 := by omega
            · exact hother (atDistance_zero_iff.mp hy)
            · exact hnew (atDistance_one_iff.mp hy).1
          have hdeep := (hone first hfirst hne).1
          exact hnew (h.successor_of_agrees hagrees (by omega) (by omega) htwo hother).1
    · exact .inl hdepth
  · intro hmeets
    rcases hmeets with hdepth | hnone | ⟨hdepth, htwice, hclosed⟩
    · refine h.agrees_of_reach (fun y => ?_) fun y hne n hpos hn => by omega
      rw [hmem]
      refine and_congr_right fun _ => iff_of_false ?_ ?_
      · rintro ⟨n, hn, -⟩
        omega
      · rintro ⟨n, hpos, hn, -⟩
        omega
    · have hstays : ∀ n y, Walk (Linked events relation) start n y → y = start := by
        intro n y hwalk
        refine hwalk.mem_of_closed (P := fun y => y = start) rfl fun x y hx hlinked => ?_
        rw [hx] at hlinked
        exact hnone y hlinked
      refine h.agrees_of_reach (fun y => ?_) fun y hne n hpos hn hdist =>
        absurd (hstays n y hdist.1) hne
      rw [hmem]
      refine and_congr_right fun hne => iff_of_false ?_ ?_
      · rintro ⟨n, -, hdist⟩
        exact hne (hstays n y (hdist.1.mono hmono))
      · rintro ⟨n, -, -, hdist⟩
        exact hne (hstays n y hdist.1)
    · have hreach : ∀ n y, Walk (Linked events relation) start n y → y ≠ start →
          Linked events relation start y := by
        intro n y hwalk hne
        refine (hwalk.mem_of_closed (P := fun y => y = start ∨ Linked events relation start y)
          (.inl rfl) fun x y hx hlinked => ?_).resolve_left hne
        by_cases hstart : x = start
        · exact .inr (hstart ▸ hlinked)
        · exact hclosed x y hstart (hx.resolve_left hstart) hlinked
      refine h.agrees_of_reach (fun y => ?_) fun y hne n _ _ hdist =>
        ⟨hreach n y hdist.1 hne, htwice y hne⟩
      rw [hmem]
      refine and_congr_right fun hne => ?_
      constructor
      · rintro ⟨n, -, hdist⟩
        have hlinked := hreach n y (hdist.1.mono hmono) hne
        exact ⟨1, Nat.le_refl 1, by omega, atDistance_one_iff.mpr ⟨hlinked, hne⟩⟩
      · rintro ⟨n, -, -, hdist⟩
        obtain ⟨payload, hlatest⟩ := linked_iff.mp (hreach n y hdist.1 hne)
        obtain ⟨weight, hweighed, -⟩ := htwice y hne payload hlatest
        exact ⟨1, by omega, atDistance_one_iff.mpr ⟨⟨payload, hlatest, weight, hweighed⟩, hne⟩⟩

end

/-- After every history of upserts, both backends agree on a query exactly if it meets the
condition. -/
theorem agrees_iff (text : GraphText ρ β) (posture : Posture) (plan : QueryPlan)
    (backend : SqliteKnowledgeGraphBackend) (hgrounded : Grounded events)
    (hlives : ∀ event ∈ events, PyValue.rereadFields false event.payload = .ok event.payload)
    (query : KgQuery) : Agrees plan backend events (after text posture backend events) query ↔
      Meets text posture events query := by
  have h : Inv text posture backend events (after text posture backend events) :=
    inv_after hgrounded hlives
  cases query with
  | relation nodeId relation direction => exact h.relation_iff nodeId relation direction
  | conflict claimA claimB => exact h.conflict_iff claimA claimB
  | transitive start relation maxDepth => exact h.transitive_iff start relation maxDepth

/-- One word for every text, no embeddings, and the weights that are numbers. -/
def numbered : GraphText Nat Unit where
  terms content := [content]
  ratio count _ := count
  embeddingFn := none
  toFloat
    | .float number => .ok number
    | _ => .error .typeError

def linkOnce : List UpsertEvent :=
  [.node "a" [("content", .str "paris")] "t0", .node "b" [("content", .str "france")] "t1",
    .edge "a" "b" "cites" [("weight", .float oneFloat)]]

theorem grounded_linkOnce : Grounded linkOnce := by
  rintro past src dst relation payload ⟨later, heq⟩
  rcases past with _ | ⟨first, _ | ⟨second, _ | ⟨third, rest⟩⟩⟩
  · cases heq
  · cases heq
  · cases heq
    exact ⟨⟨_, _, mem_cons_self⟩, ⟨_, _, mem_cons_of_mem _ mem_cons_self⟩⟩
  · have hlength := congrArg List.length heq
    simp [linkOnce] at hlength

theorem survives_linkOnce :
    ∀ event ∈ linkOnce, PyValue.rereadFields false event.payload = .ok event.payload := by
  intro event hevent
  simp only [linkOnce, mem_cons, not_mem_nil, or_false] at hevent
  rcases hevent with rfl | rfl | rfl
  · rfl
  · rfl
  · rfl

def acme : SqliteKnowledgeGraphBackend := ⟨"analyst", "", "acme", by decide⟩

theorem agrees_linkOnce : Agrees .byRowid acme linkOnce (after numbered .dev acme linkOnce)
      (.relation "a" "cites" "out") := by
  refine (agrees_iff numbered .dev .byRowid acme grounded_linkOnce survives_linkOnce
    (.relation "a" "cites" "out")).mpr ?_
  intro src dst hasked payload hlatest
  have hpayload : payload = [("weight", .float oneFloat)] := by
    obtain ⟨event, hmem, hevent⟩ := mem_filterMap.mp (mem_of_getLast? hlatest)
    simp only [linkOnce, mem_cons, not_mem_nil, or_false] at hmem
    rcases hmem with rfl | rfl | rfl
    · cases hevent
    · cases hevent
    · rw [payloadOf] at hevent
      split at hevent
      · exact (Option.some.inj hevent).symm
      · cases hevent
  rw [hpayload]
  exact ⟨oneFloat, ⟨rfl, rfl⟩, rfl⟩

/-- At depth one the graph finds nothing. -/
theorem not_agrees_firstHop : Grounded linkOnce ∧
      ¬ Agrees .byRowid acme linkOnce (after numbered .dev acme linkOnce)
        (.transitive "a" "cites" 1) := by
  refine ⟨grounded_linkOnce, ?_⟩
  rintro ⟨⟨-, hback⟩, -⟩
  have hpaths : acme.transitiveQuery .byRowid (after numbered .dev acme linkOnce).db "a" "cites" 1 =
      [⟨["a", "b"], [⟨"a", "b", "cites", [("weight", .float oneFloat)]⟩]⟩] := by
    rfl
  have hnone : (after numbered .dev acme linkOnce).graph.transitiveQuery "a" "cites" 1 = [] := by
    rfl
  rw [hpaths, hnone] at hback
  obtain ⟨path, hpath, -⟩ := hback _ mem_cons_self
  cases hpath

end BackendPair

end HiAgent.Memory
