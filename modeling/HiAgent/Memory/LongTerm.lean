/-
  Memory/LongTerm.lean --- `LongTermMemoryGraph`.

  Nodes and edges, and what shadows them: the adjacency lists, the index of terms, the
  cache of embeddings. The file holds every field of the nodes and the edges that were
  saved; what is loaded from it is built anew, field by field.
-/
import HiAgent.Foundation.PyValue
import HiAgent.Foundation.TermIndex
import HiAgent.Server.Environment

namespace HiAgent.Memory

open Foundation Server

/-! ## The protocol of graph backends -/

structure Edge where
  src : String
  dst : String
  relation : String
  payload : PyDict

/-- `Path`. -/
structure GraphPath where
  nodes : List String
  edges : List Edge

structure ConflictReport where
  claimA : String
  claimB : String
  conflictType : String
  description : String

/-- The report of a `contradicts` edge. -/
def ConflictReport.contradicts (claimA claimB : String) : ConflictReport where
  claimA := claimA
  claimB := claimB
  conflictType := "contradicts"
  description := "Edge with relation_type='contradicts' exists between " ++ claimA ++
    " and " ++ claimB

/-! ## Nodes and edges -/

/-- `1.0`. -/
def oneFloat : PyFloat := ⟨"1.0", some "1.0", by decide, some 1⟩

structure MemoryNode where
  nodeId : String
  content : String
  nodeType : String
  tags : List String
  sourceSessions : List String
  confidence : PyFloat
  accessCount : Int
  createdAt : String
  updatedAt : String
  tenantId : String

structure MemoryEdge where
  sourceId : String
  targetId : String
  relationType : String
  weight : PyFloat
  tenantId : String

/-- `__post_init__` of a node. -/
def MemoryNode.checked (posture : Posture) (node : MemoryNode) : Except String MemoryNode :=
  if posture.isStrict ∧ node.tenantId = "" then
    .error "MemoryNode.tenant_id required under research/prod posture"
  else .ok node

/-- `__post_init__` of an edge. -/
def MemoryEdge.checked (posture : Posture) (edge : MemoryEdge) : Except String MemoryEdge :=
  if posture.isStrict ∧ edge.tenantId = "" then
    .error "MemoryEdge.tenant_id required under research/prod posture"
  else .ok edge

/-- The fields of a node that `load` reads; the tenant is not among them. -/
def MemoryNode.reread (data : MemoryNode) : MemoryNode := { data with tenantId := "" }

/-- The fields of an edge that `load` reads; the tenant is not among them. -/
def MemoryEdge.reread (data : MemoryEdge) : MemoryEdge := { data with tenantId := "" }

/-- The assignments of `update_node`. -/
def MemoryNode.updated (node : MemoryNode) (content : Option String) (tags : Option (List String))
    (now : String) : MemoryNode :=
  { node with
    content := content.getD node.content
    tags := tags.getD node.tags
    updatedAt := now }

def MemoryEdge.joins (edge : MemoryEdge) (first second : String) : Prop :=
  edge.sourceId = first ∧ edge.targetId = second ∨ edge.sourceId = second ∧ edge.targetId = first

def Joined (edges : List MemoryEdge) (first second : String) : Prop :=
  ∃ edge ∈ edges, edge.joins first second

/-- The keys of a payload that `upsert_node` reads. -/
structure NodePayload where
  content : Option String
  nodeType : Option String
  tags : Option (List String)
  confidence : Option PyFloat

/-- What the graph makes of texts and values: `content.lower().split()`, the part that one
count is of another, the embedding function where there is one, `float`. -/
structure GraphText (ρ β : Type) where
  terms : String → List String
  ratio : Nat → Nat → ρ
  embeddingFn : Option (String → β)
  toFloat : PyValue → Except Raised PyFloat

/-! ## The graph -/

/-- The file of a graph. -/
structure StoredGraph where
  nodes : Dict String MemoryNode
  edges : List MemoryEdge

/-- `LongTermMemoryGraph`, with its file. -/
structure LongTermMemoryGraph (ρ β : Type) where
  nodes : Dict String MemoryNode
  edges : List MemoryEdge
  adjacency : Dict String (List String)
  index : TermIndex String String ρ
  embeddings : Dict String β
  file : Option StoredGraph

/-! ### Adjacency lists -/

abbrev Adjacency := Dict String (List String)

namespace Adjacency

variable (adjacency : Adjacency)

def of (id : String) : List String := adjacency.getD id []

/-- `adjacency.setdefault(id, []).append(other)`. -/
def append (id other : String) : Adjacency := adjacency.set id (adjacency.of id ++ [other])

def link (source target : String) : Adjacency :=
  (append adjacency source target).append target source

/-- Every entry for `other` in the list of a node. -/
def dropAll (id other : String) : Adjacency :=
  match adjacency.get? id with
  | none => adjacency
  | some neighbours => adjacency.set id (neighbours.filter fun neighbour => neighbour != other)

/-- The first entry for `other` in the list of a node. -/
def dropFirst (id other : String) : Adjacency :=
  match adjacency.get? id with
  | none => adjacency
  | some neighbours =>
    if other ∈ neighbours then adjacency.set id (neighbours.erase other) else adjacency

end Adjacency

namespace LongTermMemoryGraph

variable {ρ β : Type} (text : GraphText ρ β) (posture : Posture)
  (graph : LongTermMemoryGraph ρ β)

def new : LongTermMemoryGraph ρ β := ⟨.empty, [], .empty, .empty, .empty, none⟩

def rebuildIndex (nodes : Dict String MemoryNode) : TermIndex String String ρ :=
  nodes.rows.foldl
    (fun index row => index.add text.ratio row.2.nodeId (text.terms row.2.content)) .empty

def addNode (node : MemoryNode) (now : String) : LongTermMemoryGraph ρ β :=
  let node :=
    { node with
      createdAt := if node.createdAt = "" then now else node.createdAt
      updatedAt := if node.updatedAt = "" then now else node.updatedAt }
  { graph with
    nodes := graph.nodes.set node.nodeId node
    adjacency :=
      if (graph.adjacency.get? node.nodeId).isSome then graph.adjacency
      else graph.adjacency.set node.nodeId []
    index := graph.index.add text.ratio node.nodeId (text.terms node.content) }

/-- `update_node`; the index and the cache are left as they are. -/
def updateNode (id : String) (content : Option String) (tags : Option (List String))
    (now : String) : LongTermMemoryGraph ρ β :=
  match graph.nodes.get? id with
  | none => graph
  | some node => { graph with nodes := graph.nodes.set id (node.updated content tags now) }

def removeNode (id : String) : LongTermMemoryGraph ρ β :=
  match graph.nodes.get? id with
  | none => graph
  | some _ =>
    { graph with
      nodes := graph.nodes.pop id
      edges := graph.edges.filter fun edge => edge.sourceId != id && edge.targetId != id
      adjacency := (graph.adjacency.pop id).mapValues fun neighbours =>
        neighbours.filter fun neighbour => neighbour != id
      index := graph.index.remove id
      embeddings := graph.embeddings.pop id }

def addEdge (edge : MemoryEdge) : LongTermMemoryGraph ρ β :=
  if (graph.nodes.get? edge.sourceId).isSome ∧ (graph.nodes.get? edge.targetId).isSome then
    { graph with
      edges := graph.edges ++ [edge]
      adjacency := Adjacency.link graph.adjacency edge.sourceId edge.targetId }
  else graph

def removeEdge (source target : String) : LongTermMemoryGraph ρ β :=
  { graph with
    edges := graph.edges.filter fun edge => !(edge.sourceId == source && edge.targetId == target)
    adjacency :=
      Adjacency.dropAll (Adjacency.dropAll graph.adjacency source target) target source }

/-- The nodes whose embeddings a search caches. -/
def cache (embed : String → β) : List (String × MemoryNode) → Dict String β → Dict String β
  | [], embeddings => embeddings
  | row :: rest, embeddings =>
    cache embed rest
      (if (embeddings.get? row.2.nodeId).isSome then embeddings
        else embeddings.set row.2.nodeId (embed row.2.content))

/-- What `search` leaves behind; its ranking is left out. -/
def search (query : String) : LongTermMemoryGraph ρ β :=
  match text.embeddingFn with
  | none => graph
  | some embed =>
    if Text.strip query = "" then graph
    else { graph with embeddings := cache embed graph.nodes.rows graph.embeddings }

/-- `get_neighbors`, in some order. -/
def getNeighbors (id : String) (relationType : Option String) : List MemoryNode :=
  match graph.adjacency.get? id with
  | none => []
  | some neighbours =>
    let ids :=
      match relationType with
      | none => neighbours
      | some relationType =>
        graph.edges.filterMap fun (edge : MemoryEdge) =>
          if edge.relationType = relationType then
            if edge.sourceId = id then some edge.targetId
            else if edge.targetId = id then some edge.sourceId
            else none
          else none
    ids.dedup.filterMap fun neighbour => graph.nodes.get? neighbour

/-! ### Persistence -/

def save : LongTermMemoryGraph ρ β := { graph with file := some ⟨graph.nodes, graph.edges⟩ }

/-- The nodes of a file, until one of them raises. -/
def loadNodes : List (String × MemoryNode) → LongTermMemoryGraph ρ β →
    LongTermMemoryGraph ρ β × Option String
  | [], graph => (graph, none)
  | (id, data) :: rest, graph =>
    match data.reread.checked posture with
    | .error error => (graph, some error)
    | .ok node =>
      loadNodes rest
        { graph with
          nodes := graph.nodes.set id node
          adjacency := graph.adjacency.set id (graph.adjacency.getD id []) }

/-- The edges of a file, until one of them raises. -/
def loadEdges : List MemoryEdge → LongTermMemoryGraph ρ β → LongTermMemoryGraph ρ β × Option String
  | [], graph => (graph, none)
  | data :: rest, graph =>
    match data.reread.checked posture with
    | .error error => (graph, some error)
    | .ok edge =>
      loadEdges rest
        { graph with
          edges := graph.edges ++ [edge]
          adjacency := Adjacency.link graph.adjacency edge.sourceId edge.targetId }

/-- `load`, and the text of what it raises. -/
def load : LongTermMemoryGraph ρ β × Option String :=
  match graph.file with
  | none => (graph, none)
  | some file =>
    let (graph, raised) :=
      loadNodes posture file.nodes.rows { (new : LongTermMemoryGraph ρ β) with file := some file }
    match raised with
    | some error => (graph, some error)
    | none =>
      let (graph, raised) := loadEdges posture file.edges graph
      match raised with
      | some error => (graph, some error)
      | none => ({ graph with index := rebuildIndex text graph.nodes }, none)

/-! ### The protocol of the backends -/

/-- `upsert_node`, and the text of what it raises. -/
def upsertNode (id : String) (payload : NodePayload) (now : String) :
    LongTermMemoryGraph ρ β × Option String :=
  match graph.nodes.get? id with
  | some existing =>
    (graph.updateNode id (some (payload.content.getD existing.content))
      (some (payload.tags.getD existing.tags)) now, none)
  | none =>
    let node : MemoryNode :=
      { nodeId := id
        content := payload.content.getD ""
        nodeType := payload.nodeType.getD "fact"
        tags := payload.tags.getD []
        sourceSessions := []
        confidence := payload.confidence.getD oneFloat
        accessCount := 0
        createdAt := ""
        updatedAt := ""
        tenantId := "" }
    match node.checked posture with
    | .error error => (graph, some error)
    | .ok node => (graph.addNode text node now, none)

/-- The graph without the edges that `upsert_edge` replaces. -/
def detach (src dst relation : String) : LongTermMemoryGraph ρ β :=
  { graph with
    edges := graph.edges.filter fun edge =>
      !(edge.sourceId == src && edge.targetId == dst && edge.relationType == relation)
    adjacency := Adjacency.dropFirst (Adjacency.dropFirst graph.adjacency src dst) dst src }

/-- The edge that `upsert_edge` builds, or the exception it ends with. -/
def upsertedEdge (src dst relation : String) (payload : PyDict) : Except Raised MemoryEdge :=
  match text.toFloat (PyDict.get payload "weight" (.float oneFloat)) with
  | .error error => .error error
  | .ok weight =>
    match (MemoryEdge.mk src dst relation weight "").checked posture with
    | .error _ => .error .valueError
    | .ok edge => .ok edge

/-- `upsert_edge`, and what it raises. -/
def upsertEdge (src dst relation : String) (payload : PyDict) :
    LongTermMemoryGraph ρ β × Option Raised :=
  match upsertedEdge text posture src dst relation payload with
  | .error error => (graph.detach src dst relation, some error)
  | .ok edge => ((graph.detach src dst relation).addEdge edge, none)

def asEdge (edge : MemoryEdge) : Edge :=
  ⟨edge.sourceId, edge.targetId, edge.relationType, [("weight", .float edge.weight)]⟩

def queryRelation (nodeId relation direction : String) : List Edge :=
  graph.edges.flatMap fun edge =>
    if edge.relationType ≠ relation then []
    else
      (if (direction = "out" ∨ direction = "both") ∧ edge.sourceId = nodeId then [asEdge edge]
        else []) ++
        if (direction = "in" ∨ direction = "both") ∧ edge.targetId = nodeId then [asEdge edge]
        else []

def targets (relationType : Option String) (nodeId : String) : List String :=
  (graph.edges.filter fun edge =>
    edge.sourceId == nodeId && relationType.all fun wanted => edge.relationType == wanted).map
      MemoryEdge.targetId

/-- The loop over the queue in `find_transitive_closure`: what is visited, and the next queue. -/
def visitQueue (targets : String → List String) :
    List String → List String → List String → List String × List String
  | [], visited, nextQueue => (visited, nextQueue)
  | nodeId :: queue, visited, nextQueue =>
    if nodeId ∈ visited then visitQueue targets queue visited nextQueue
    else visitQueue targets queue (visited ++ [nodeId]) (nextQueue ++ targets nodeId)

/-- The loop over the depths: what is visited after so many more. -/
def visitLayers (targets : String → List String) : Nat → List String → List String → List String
  | 0, _, visited => visited
  | depth + 1, queue, visited =>
    if queue = [] then visited
    else
      let (visited, nextQueue) := visitQueue targets queue visited []
      visitLayers targets depth (nextQueue.filter (· ∉ visited)) visited

/-- `find_transitive_closure`, in some order. -/
def findTransitiveClosure (startId : String) (relationType : Option String) (maxDepth : Int) :
    List String :=
  (visitLayers (graph.targets relationType) maxDepth.toNat [startId] []).filter (· != startId)

def transitiveQuery (start relation : String) (maxDepth : Int) : List GraphPath :=
  (graph.findTransitiveClosure start (some relation) maxDepth).map fun dst =>
    ⟨[start, dst], (graph.edges.filter fun edge =>
        edge.sourceId == start && edge.targetId == dst && edge.relationType == relation).map asEdge⟩

def detectConflict (claimA claimB : String) : Option ConflictReport :=
  if graph.edges.any fun edge =>
      edge.relationType == "contradicts" && (edge.sourceId == claimA && edge.targetId == claimB ||
          edge.sourceId == claimB && edge.targetId == claimA)
  then some (.contradicts claimA claimB)
  else none

end LongTermMemoryGraph

end HiAgent.Memory
