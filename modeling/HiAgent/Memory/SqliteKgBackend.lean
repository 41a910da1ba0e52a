/-
  Memory/SqliteKgBackend.lean --- `SqliteKnowledgeGraphBackend`.

  Two tables are shared by every backend that opens the file. Their primary keys carry the
  profile and the project; the tenant is a column of the row, which an upsert assigns and
  every read filters by.
-/
import HiAgent.Foundation.Machine
import HiAgent.Memory.LongTerm

namespace HiAgent.Memory

open Foundation Server

/-! ## Tables -/

/-- The primary key of `kg_nodes`. -/
structure KgNodeKey where
  nodeId : String
  profileId : String
  projectId : String
  deriving DecidableEq

/-- The primary key of `kg_edges`. -/
structure KgEdgeKey where
  src : String
  dst : String
  relation : String
  profileId : String
  projectId : String
  deriving DecidableEq

/-- The other columns of a row; the payload is what `json.loads` makes of it. -/
structure KgRow where
  tenantId : String
  payload : PyDict

/-- `knowledge_graph.sqlite`. -/
structure KgDatabase where
  nodes : Dict KgNodeKey KgRow
  edges : Dict KgEdgeKey KgRow

def KgDatabase.empty : KgDatabase := ⟨.empty, .empty⟩

/-- The edges a statement asks for, but for their scope. -/
inductive EdgeSelect where
  /-- `WHERE src=? AND relation=?` -/
  | outgoing (src relation : String)
  /-- `WHERE dst=? AND relation=?` -/
  | incoming (dst relation : String)

def EdgeSelect.asks : EdgeSelect → KgEdgeKey → Bool
  | .outgoing src relation, key => key.src == src && key.relation == relation
  | .incoming dst relation, key => key.dst == dst && key.relation == relation

/-- The order in which a statement without `ORDER BY` returns the rows that match. -/
structure QueryPlan where
  edges : EdgeSelect → List (KgEdgeKey × KgRow) → List (KgEdgeKey × KgRow)
  nodes : List (KgNodeKey × KgRow) → List (KgNodeKey × KgRow)
  edges_perm : ∀ select rows, (edges select rows).Perm rows
  nodes_perm : ∀ rows, (nodes rows).Perm rows

def QueryPlan.byRowid : QueryPlan := ⟨fun _ rows => rows, id, fun _ _ => .refl _, fun _ => .refl _⟩

/-! ## The backend -/

def legacyTenantId : String := "__pre_w31_legacy__"

structure SqliteKnowledgeGraphBackend where
  profileId : String
  projectId : String
  tenantId : String
  tenantId_ne : tenantId ≠ ""

/-- What `search` makes of a row: the fields it gives to `MemoryNode`. -/
structure SearchHit where
  nodeId : String
  content : String
  nodeType : PyValue
  tags : PyValue
  confidence : PyValue

namespace SqliteKnowledgeGraphBackend

/-- `__init__`, up to the file. -/
def init (posture : Posture) (profileId projectId tenantId : String) :
    Except String SqliteKnowledgeGraphBackend :=
  if profileId = "" then
    .error ("SqliteKnowledgeGraphBackend requires profile_id; " ++
      "empty profile_id would create an unscoped store (Rule 6 / Rule 12).")
  else if h : tenantId = "" then
    if posture.isStrict then
      .error ("SqliteKnowledgeGraphBackend requires tenant_id under " ++ posture.value ++
        " posture; empty tenant_id would read across " ++
        "tenants (Rule 12 / W31 T-4'). Pass tenant_id= explicitly.")
    else .ok ⟨profileId, projectId, legacyTenantId, by decide⟩
  else .ok ⟨profileId, projectId, tenantId, h⟩

variable (plan : QueryPlan) (posture : Posture) (lower : String → String)
  (backend : SqliteKnowledgeGraphBackend) (db : KgDatabase)

/-- `_migrate_legacy_tenant_id`, when the file is opened. -/
def migrateLegacyTenantId (db : KgDatabase) : KgDatabase :=
  let migrated : KgRow → KgRow := fun row =>
    if row.tenantId = "" then { row with tenantId := legacyTenantId } else row
  ⟨db.nodes.mapValues migrated, db.edges.mapValues migrated⟩

def nodeKey (nodeId : String) : KgNodeKey := ⟨nodeId, backend.profileId, backend.projectId⟩

def edgeKey (src dst relation : String) : KgEdgeKey :=
  ⟨src, dst, relation, backend.profileId, backend.projectId⟩

/-- `upsert_node`, and what it raises. -/
def upsertNode (nodeId : String) (payload : PyDict) : KgDatabase × Option Raised :=
  match PyValue.rereadFields false payload with
  | .error raised => (db, some raised)
  | .ok payload =>
    ({ db with nodes := db.nodes.set (backend.nodeKey nodeId) ⟨backend.tenantId, payload⟩ }, none)

/-- `upsert_edge`, and what it raises. -/
def upsertEdge (src dst relation : String) (payload : PyDict) : KgDatabase × Option Raised :=
  match PyValue.rereadFields false payload with
  | .error raised => (db, some raised)
  | .ok payload =>
    ({ db with
        edges := db.edges.set (backend.edgeKey src dst relation) ⟨backend.tenantId, payload⟩ },
      none)

/-- The payload of a node in the form of `MemoryNode`. -/
def nodePayload (node : MemoryNode) : PyDict :=
  [("content", .str node.content), ("node_type", .str node.nodeType),
    ("tags", .list (node.tags.map .str)), ("confidence", .float node.confidence)]

def addNode (node : MemoryNode) : KgDatabase × Option Raised :=
  backend.upsertNode db node.nodeId (nodePayload node)

/-- The rows that `migrate_from_json` inserts for the nodes of a file. -/
def migratedNodes (file : StoredGraph) : List (KgNodeKey × KgRow) :=
  file.nodes.rows.map fun row =>
    (backend.nodeKey row.1, ⟨backend.tenantId, nodePayload row.2⟩)

/-- The rows that `migrate_from_json` inserts for the edges of a file. -/
def migratedEdges (file : StoredGraph) : List (KgEdgeKey × KgRow) :=
  file.edges.map fun edge =>
    (backend.edgeKey edge.sourceId edge.targetId edge.relationType,
      ⟨backend.tenantId, [("weight", .float edge.weight)]⟩)

/-- `migrate_from_json` of a file that `LongTermMemoryGraph.save` wrote, and the number of
rows that were inserted. -/
def migrateFromJson : Option StoredGraph → KgDatabase × Nat
  | none => (db, 0)
  | some file =>
    let migrated : KgDatabase :=
      ⟨db.nodes.setDefaults (backend.migratedNodes file),
        db.edges.setDefaults (backend.migratedEdges file)⟩
    (migrated, migrated.nodes.rows.length - db.nodes.rows.length +
      (migrated.edges.rows.length - db.edges.rows.length))

/-! ### Reads -/

/-- `AND profile_id=? AND project_id=? AND tenant_id=?`, for a node. -/
def seesNode (row : KgNodeKey × KgRow) : Bool :=
  row.1.profileId == backend.profileId && row.1.projectId == backend.projectId &&
    row.2.tenantId == backend.tenantId

/-- `AND profile_id=? AND project_id=? AND tenant_id=?`, for an edge. -/
def seesEdge (row : KgEdgeKey × KgRow) : Bool :=
  row.1.profileId == backend.profileId && row.1.projectId == backend.projectId &&
    row.2.tenantId == backend.tenantId

/-- The rows of a statement over `kg_edges`. -/
def edgeRows (p : KgEdgeKey → Bool) : List (KgEdgeKey × KgRow) :=
  db.edges.select fun row => p row.1 && backend.seesEdge row

def toEdge (row : KgEdgeKey × KgRow) : Edge :=
  ⟨row.1.src, row.1.dst, row.1.relation, row.2.payload⟩

/-- What a statement over `kg_edges` returns. -/
def fetchEdges (select : EdgeSelect) : List Edge :=
  (plan.edges select (backend.edgeRows db select.asks)).map toEdge

def queryRelation (nodeId relation direction : String) : List Edge :=
  (if direction = "out" ∨ direction = "both" then
      backend.fetchEdges plan db (.outgoing nodeId relation)
    else []) ++
    if direction = "in" ∨ direction = "both" then
      backend.fetchEdges plan db (.incoming nodeId relation)
    else []

/-- The variables of `transitive_query` while the frontier is expanded. -/
structure Expansion where
  visited : List String
  frontier : List String
  paths : List GraphPath

/-- One row of a node of the frontier. -/
def reach (start : String) (walk : Expansion) (edge : Edge) : Expansion :=
  if edge.dst ∉ walk.visited ∧ edge.dst ≠ start then
    ⟨edge.dst :: walk.visited, walk.frontier ++ [edge.dst],
      walk.paths ++ [⟨[start, edge.dst], [edge]⟩]⟩
  else walk

/-- The rounds of `transitive_query`. -/
def rounds (start : String) (next : String → List Edge) : Nat → Expansion → Expansion
  | 0, walk => walk
  | depth + 1, walk =>
    rounds start next depth
      ((walk.frontier.flatMap next).foldl (reach start) { walk with frontier := [] })

def transitiveQuery (start relation : String) (maxDepth : Int) : List GraphPath :=
  (rounds start (fun nodeId => backend.fetchEdges plan db (.outgoing nodeId relation))
    maxDepth.toNat ⟨[], [start], []⟩).paths

def detectConflict (claimA claimB : String) : Option ConflictReport :=
  if (backend.edgeRows db fun key => key.relation == "contradicts" &&
      (key.src == claimA && key.dst == claimB || key.src == claimB && key.dst == claimA)).isEmpty
  then none
  else some (.contradicts claimA claimB)

def nodeCount : Nat := (db.nodes.select backend.seesNode).length

def edgeCount : Nat := (db.edges.select backend.seesEdge).length

/-- An item of `" ".join(tags)`. -/
def tagText : PyValue → Except Raised String
  | .str text => .ok text
  | _ => .error .typeError

/-- `" ".join(tags)`. -/
def joinTags : PyValue → Except Raised String
  | .list tags => (tags.mapM tagText).map (String.intercalate " ")
  | .str text => .ok (String.intercalate " " (text.toList.map fun c => String.ofList [c]))
  | .dict fields => .ok (String.intercalate " " (fields.map Prod.fst))
  | _ => .error .typeError

/-- One row of `search`, with its hits. -/
def score (keywords : List String) (row : KgNodeKey × KgRow) :
    Except Raised (Option (Nat × SearchHit)) :=
  let payload := row.2.payload
  let tags := PyDict.get payload "tags" (.list [])
  match PyDict.get payload "content" (.str "") with
  | .str content =>
    match joinTags tags with
    | .error raised => .error raised
    | .ok joined =>
      let text := lower (content ++ " " ++ joined)
      let hits := keywords.countP fun keyword => Text.occurs keyword text
      if hits = 0 then .ok none
      -- the node that is built has no tenant
      else if posture.isStrict then .error .valueError
      else
        .ok (some (hits,
          { nodeId := row.1.nodeId
            content := content
            nodeType := PyDict.get payload "node_type" (.str "fact")
            tags := tags
            confidence := PyDict.get payload "confidence" (.float oneFloat) }))
  | _ => .error .typeError

def search (query : String) (limit : Int) : Except Raised (List SearchHit) :=
  if Text.strip query = "" then .ok []
  else
    let keywords := Text.words (lower query)
    ((plan.nodes (db.nodes.select backend.seesNode)).mapM (score posture lower keywords)).map
      fun scored =>
        (Text.upTo limit
          ((scored.filterMap id).mergeSort fun first second => second.1 ≤ first.1)).map Prod.snd

end SqliteKnowledgeGraphBackend

open List

/-- A call that may change the file. -/
inductive KgCall where
  | construct
  | upsertNode (nodeId : String) (payload : PyDict)
  | upsertEdge (src dst relation : String) (payload : PyDict)
  | addNode (node : MemoryNode)
  | migrateFromJson (file : Option StoredGraph)

/-- A call on one of the backends. -/
structure KgEvent where
  backend : SqliteKnowledgeGraphBackend
  call : KgCall

/-- What the reads of a backend return. -/
structure KgAnswers where
  queryRelation : String → String → String → List Edge
  transitiveQuery : String → String → Int → List GraphPath
  detectConflict : String → String → Option ConflictReport
  search : String → Int → Except Raised (List SearchHit)
  nodeCount : Nat
  edgeCount : Nat

namespace SqliteKnowledgeGraphBackend

variable (plan : QueryPlan) (posture : Posture) (lower : String → String)
  (backend : SqliteKnowledgeGraphBackend) (db : KgDatabase)

/-- All reads of a backend. -/
def answers : KgAnswers where
  queryRelation := backend.queryRelation plan db
  transitiveQuery := backend.transitiveQuery plan db
  detectConflict := backend.detectConflict db
  search := backend.search plan posture lower db
  nodeCount := backend.nodeCount db
  edgeCount := backend.edgeCount db

end SqliteKnowledgeGraphBackend

namespace KgDatabase

open SqliteKnowledgeGraphBackend

/-- One call. -/
def step (db : KgDatabase) (event : KgEvent) : KgDatabase :=
  match event.call with
  | .construct => migrateLegacyTenantId db
  | .upsertNode nodeId payload => (event.backend.upsertNode db nodeId payload).1
  | .upsertEdge src dst relation payload => (event.backend.upsertEdge db src dst relation payload).1
  | .addNode node => (event.backend.addNode db node).1
  | .migrateFromJson file => (event.backend.migrateFromJson db file).1

/-- The keys of `kg_nodes` a call writes to. -/
def nodeKeys (event : KgEvent) : List KgNodeKey :=
  match event.call with
  | .upsertNode nodeId payload =>
    if Succeeds (PyValue.rereadFields false payload) then [event.backend.nodeKey nodeId] else []
  | .addNode node => [event.backend.nodeKey node.nodeId]
  | .migrateFromJson (some file) => file.nodes.keys.map event.backend.nodeKey
  | _ => []

/-- The keys of `kg_edges` a call writes to. -/
def edgeKeys (event : KgEvent) : List KgEdgeKey :=
  match event.call with
  | .upsertEdge src dst relation payload =>
    if Succeeds (PyValue.rereadFields false payload) then
      [event.backend.edgeKey src dst relation]
    else []
  | .migrateFromJson (some file) =>
    file.edges.map fun edge =>
      event.backend.edgeKey edge.sourceId edge.targetId edge.relationType
  | _ => []

/-- No key the call writes to is held by a row of another tenant. -/
structure Unheld (db : KgDatabase) (event : KgEvent) : Prop where
  nodes : ∀ key ∈ nodeKeys event, db.nodes.FreeFor KgRow.tenantId event.backend.tenantId key
  edges : ∀ key ∈ edgeKeys event, db.edges.FreeFor KgRow.tenantId event.backend.tenantId key

def ownedBy (db : KgDatabase) (tenantId : String) : KgDatabase :=
  ⟨db.nodes.ownedBy KgRow.tenantId tenantId, db.edges.ownedBy KgRow.tenantId tenantId⟩

/-- Every row has a tenant. -/
structure Tenanted (db : KgDatabase) : Prop where
  nodes : ∀ key row, db.nodes.get? key = some row → row.tenantId ≠ ""
  edges : ∀ key row, db.edges.get? key = some row → row.tenantId ≠ ""

theorem tenanted_empty : KgDatabase.empty.Tenanted :=
  ⟨fun _ _ h => (Option.some_ne_none _ h.symm).elim, fun _ _ h =>
    (Option.some_ne_none _ h.symm).elim⟩

theorem Tenanted.ownedBy {db : KgDatabase} (h : db.Tenanted) (tenantId : String) :
    (db.ownedBy tenantId).Tenanted := by
  constructor
  · intro key row hrow
    rw [KgDatabase.ownedBy, Dict.get?_ownedBy, Option.filter_eq_some_iff] at hrow
    exact h.nodes key row hrow.1
  · intro key row hrow
    rw [KgDatabase.ownedBy, Dict.get?_ownedBy, Option.filter_eq_some_iff] at hrow
    exact h.edges key row hrow.1

theorem migrateLegacyTenantId_eq {db : KgDatabase} (h : db.Tenanted) :
    migrateLegacyTenantId db = db := by
  have hkeep : ∀ row : KgRow, row.tenantId ≠ "" →
      (if row.tenantId = "" then { row with tenantId := legacyTenantId } else row) = row :=
    fun row hrow => if_neg hrow
  obtain ⟨nodes, edges⟩ := db
  rw [migrateLegacyTenantId]
  refine congrArg₂ KgDatabase.mk (Table.ext_rows ?_) (Table.ext_rows ?_)
  · refine (map_congr_left fun row hrow => ?_).trans (map_id _)
    exact Prod.ext rfl (hkeep row.2 (h.nodes row.1 row.2 (Dict.get?_eq_some_iff.mpr hrow)))
  · refine (map_congr_left fun row hrow => ?_).trans (map_id _)
    exact Prod.ext rfl (hkeep row.2 (h.edges row.1 row.2 (Dict.get?_eq_some_iff.mpr hrow)))

/-! ## What a call writes -/

theorem rereadFields_nodePayload (node : MemoryNode) :
    PyValue.rereadFields false (nodePayload node) = .ok (nodePayload node) := by
  have hitems : ∀ tags : List String,
      PyValue.rereadItems false (tags.map .str) = .ok (tags.map .str) := by
    intro tags
    induction tags with
    | nil => rfl
    | cons tag rest ih =>
      rw [map_cons, PyValue.rereadItems, ih, PyValue.reread]
      rfl
  simp only [nodePayload, PyValue.rereadFields, PyValue.reread, hitems]
  rfl

/-- A call writes nothing, one row in the place of what is there, or rows where nothing is. -/
inductive Writes (event : KgEvent) : Prop
  | nothing (hstep : ∀ db : KgDatabase, db.Tenanted → db.step event = db)
      (hnodes : nodeKeys event = []) (hedges : edgeKeys event = [])
  | node (nodeId : String) (payload : PyDict)
      (hstep : ∀ db : KgDatabase, db.step event =
        ⟨db.nodes.set (event.backend.nodeKey nodeId) ⟨event.backend.tenantId, payload⟩, db.edges⟩)
      (hnodes : nodeKeys event = [event.backend.nodeKey nodeId]) (hedges : edgeKeys event = [])
  | edge (src dst relation : String) (payload : PyDict)
      (hstep : ∀ db : KgDatabase, db.step event = ⟨db.nodes,
          db.edges.set (event.backend.edgeKey src dst relation) ⟨event.backend.tenantId, payload⟩⟩)
      (hnodes : nodeKeys event = [])
      (hedges : edgeKeys event = [event.backend.edgeKey src dst relation])
  | rows (file : StoredGraph)
      (hstep : ∀ db : KgDatabase, db.step event =
        ⟨db.nodes.setDefaults (event.backend.migratedNodes file),
          db.edges.setDefaults (event.backend.migratedEdges file)⟩)
      (hnodes : nodeKeys event = (event.backend.migratedNodes file).map Prod.fst)
      (hedges : edgeKeys event = (event.backend.migratedEdges file).map Prod.fst)

theorem writes (event : KgEvent) : Writes event := by
  obtain ⟨backend, call⟩ := event
  cases call with
  | construct => exact .nothing (fun db h => migrateLegacyTenantId_eq h) rfl rfl
  | upsertNode nodeId payload =>
    cases hpayload : PyValue.rereadFields false payload with
    | error raised =>
      refine .nothing (fun db _ => ?_) (if_neg ?_) rfl
      · rw [step]
        dsimp only
        rw [upsertNode, hpayload]
      · rw [hpayload]
        exact not_succeeds_error raised
    | ok stored =>
      refine .node nodeId stored (fun db => ?_) (if_pos ?_) rfl
      · rw [step]
        dsimp only
        rw [upsertNode, hpayload]
      · rw [hpayload]
        exact succeeds_ok stored
  | upsertEdge src dst relation payload =>
    cases hpayload : PyValue.rereadFields false payload with
    | error raised =>
      refine .nothing (fun db _ => ?_) rfl (if_neg ?_)
      · rw [step]
        dsimp only
        rw [upsertEdge, hpayload]
      · rw [hpayload]
        exact not_succeeds_error raised
    | ok stored =>
      refine .edge src dst relation stored (fun db => ?_) rfl (if_pos ?_)
      · rw [step]
        dsimp only
        rw [upsertEdge, hpayload]
      · rw [hpayload]
        exact succeeds_ok stored
  | addNode node =>
    refine .node node.nodeId (nodePayload node) (fun db => ?_) rfl rfl
    rw [step]
    dsimp only
    rw [addNode, upsertNode, rereadFields_nodePayload]
  | migrateFromJson file =>
    cases file with
    | none => exact .nothing (fun db _ => rfl) rfl rfl
    | some file =>
      refine .rows file (fun db => rfl) ?_ ?_
      · change file.nodes.keys.map backend.nodeKey = (backend.migratedNodes file).map Prod.fst
        rw [migratedNodes, map_map, Dict.keys, map_map]
        rfl
      · change file.edges.map _ = (backend.migratedEdges file).map Prod.fst
        rw [migratedEdges, map_map]
        rfl

theorem migratedNodes_owner {backend : SqliteKnowledgeGraphBackend} {file : StoredGraph} :
    ∀ row ∈ backend.migratedNodes file, row.2.tenantId = backend.tenantId := by
  intro row hrow
  obtain ⟨node, -, rfl⟩ := mem_map.mp hrow
  rfl

theorem migratedEdges_owner {backend : SqliteKnowledgeGraphBackend} {file : StoredGraph} :
    ∀ row ∈ backend.migratedEdges file, row.2.tenantId = backend.tenantId := by
  intro row hrow
  obtain ⟨edge, -, rfl⟩ := mem_map.mp hrow
  rfl

/-! ## One step -/

variable {db : KgDatabase} {event : KgEvent}

theorem Tenanted.step (h : db.Tenanted) (event : KgEvent) : (db.step event).Tenanted := by
  have hset : ∀ {κ : Type} [DecidableEq κ] {d : Dict κ KgRow} (key : κ) (payload : PyDict),
      (∀ key row, d.get? key = some row → row.tenantId ≠ "") →
        ∀ other row, (d.set key ⟨event.backend.tenantId, payload⟩).get? other = some row →
          row.tenantId ≠ "" := by
    intro κ _ d key payload hd other row hrow
    rw [Dict.get?_set] at hrow
    split at hrow
    · rw [← Option.some.inj hrow]
      exact event.backend.tenantId_ne
    · exact hd other row hrow
  have hinsert : ∀ {κ : Type} [DecidableEq κ] {d : Dict κ KgRow} {rows : List (κ × KgRow)},
      (∀ key row, d.get? key = some row → row.tenantId ≠ "") →
        (∀ row ∈ rows, row.2.tenantId = event.backend.tenantId) →
          ∀ other row, (d.setDefaults rows).get? other = some row → row.tenantId ≠ "" := by
    intro κ _ d rows hd howner other row hrow
    rcases Dict.get?_setDefaults_cases hrow with hold | hnew
    · exact hd other row hold
    · rw [howner _ hnew]
      exact event.backend.tenantId_ne
  cases writes event with
  | nothing hstep hnodes hedges =>
    rw [hstep db h]
    exact h
  | node nodeId payload hstep hnodes hedges =>
    rw [hstep]
    exact ⟨hset _ payload h.nodes, h.edges⟩
  | edge src dst relation payload hstep hnodes hedges =>
    rw [hstep]
    exact ⟨h.nodes, hset _ payload h.edges⟩
  | rows file hstep hnodes hedges =>
    rw [hstep]
    exact ⟨hinsert h.nodes migratedNodes_owner, hinsert h.edges migratedEdges_owner⟩

theorem ownedBy_step_own (h : db.Tenanted) (hunheld : db.Unheld event) :
    (db.step event).ownedBy event.backend.tenantId =
      (db.ownedBy event.backend.tenantId).step event := by
  cases writes event with
  | nothing hstep hnodes hedges => rw [hstep db h, hstep _ (h.ownedBy _)]
  | node nodeId payload hstep hnodes hedges =>
    have hfree := hunheld.nodes _ (by rw [hnodes]; exact mem_cons_self)
    rw [hstep, hstep, KgDatabase.ownedBy, Dict.ownedBy_set_own rfl hfree]
    rfl
  | edge src dst relation payload hstep hnodes hedges =>
    have hfree := hunheld.edges _ (by rw [hedges]; exact mem_cons_self)
    rw [hstep, hstep, KgDatabase.ownedBy, Dict.ownedBy_set_own rfl hfree]
    rfl
  | rows file hstep hnodes hedges =>
    rw [hstep, hstep, KgDatabase.ownedBy,
      Dict.ownedBy_setDefaults_own migratedNodes_owner fun row hrow =>
        hunheld.nodes row.1 (by rw [hnodes]; exact mem_map_of_mem hrow),
      Dict.ownedBy_setDefaults_own migratedEdges_owner fun row hrow =>
        hunheld.edges row.1 (by rw [hedges]; exact mem_map_of_mem hrow)]
    rfl

theorem ownedBy_step_other (h : db.Tenanted) (hunheld : db.Unheld event) {tenantId : String}
    (hother : event.backend.tenantId ≠ tenantId) :
    (db.step event).ownedBy tenantId = db.ownedBy tenantId := by
  have hnot : ∀ {κ : Type} [DecidableEq κ] {d : Dict κ KgRow} {key : κ},
      d.FreeFor KgRow.tenantId event.backend.tenantId key →
        ∀ old ∈ d.get? key, old.tenantId ≠ tenantId :=
    fun hfree old hold hsame => hother ((hfree old hold).symm.trans hsame)
  cases writes event with
  | nothing hstep hnodes hedges => rw [hstep db h]
  | node nodeId payload hstep hnodes hedges =>
    have hfree := hunheld.nodes _ (by rw [hnodes]; exact mem_cons_self)
    have howner : KgRow.tenantId ⟨event.backend.tenantId, payload⟩ ≠ tenantId := hother
    rw [hstep, KgDatabase.ownedBy, Dict.ownedBy_set_other howner (hnot hfree)]
    rfl
  | edge src dst relation payload hstep hnodes hedges =>
    have hfree := hunheld.edges _ (by rw [hedges]; exact mem_cons_self)
    have howner : KgRow.tenantId ⟨event.backend.tenantId, payload⟩ ≠ tenantId := hother
    rw [hstep, KgDatabase.ownedBy, Dict.ownedBy_set_other howner (hnot hfree)]
    rfl
  | rows file hstep hnodes hedges =>
    rw [hstep, KgDatabase.ownedBy, Dict.ownedBy_setDefaults_other fun row hrow =>
        fun hsame => hother ((migratedNodes_owner row hrow).symm.trans hsame),
      Dict.ownedBy_setDefaults_other fun row hrow =>
        fun hsame => hother ((migratedEdges_owner row hrow).symm.trans hsame)]
    rfl

def callsOf (tenantId : String) (events : List KgEvent) : List KgEvent :=
  events.filter fun event => decide (event.backend.tenantId = tenantId)

theorem callsOf_own (event : KgEvent) (rest : List KgEvent) :
    callsOf event.backend.tenantId (event :: rest) = event :: callsOf event.backend.tenantId rest :=
  filter_cons_of_pos (decide_eq_true rfl)

theorem callsOf_other {tenantId : String} (hother : event.backend.tenantId ≠ tenantId)
    (rest : List KgEvent) : callsOf tenantId (event :: rest) = callsOf tenantId rest :=
  filter_cons_of_neg fun hsame => hother (of_decide_eq_true hsame)

theorem ownedBy_exec (h : db.Tenanted) {events : List KgEvent}
    (hunheld : Along step Unheld db events) (tenantId : String) :
    (exec step db events).ownedBy tenantId =
      exec step (db.ownedBy tenantId) (callsOf tenantId events) := by
  induction events generalizing db with
  | nil => rfl
  | cons event rest ih =>
    obtain ⟨hfirst, hrest⟩ := hunheld
    rw [exec_cons, ih (h.step event) hrest]
    by_cases hown : event.backend.tenantId = tenantId
    · subst hown
      rw [callsOf_own, exec_cons, ownedBy_step_own h hfirst]
    · rw [callsOf_other hown, ownedBy_step_other h hfirst hown]

/-! ## What is answered -/

variable (plan : QueryPlan) (posture : Posture) (lower : String → String)

theorem answers_ownedBy (backend : SqliteKnowledgeGraphBackend) (db : KgDatabase) :
    backend.answers plan posture lower (db.ownedBy backend.tenantId) =
      backend.answers plan posture lower db := by
  have hedges : ∀ p, backend.edgeRows (db.ownedBy backend.tenantId) p = backend.edgeRows db p := by
    intro p
    refine Dict.select_ownedBy db.edges fun row hrow => ?_
    rw [seesEdge, Bool.and_eq_true, Bool.and_eq_true, beq_iff_eq] at hrow
    exact hrow.2.2
  have hnodes : (db.ownedBy backend.tenantId).nodes.select backend.seesNode =
      db.nodes.select backend.seesNode := by
    refine Dict.select_ownedBy db.nodes fun row hrow => ?_
    rw [seesNode, Bool.and_eq_true, beq_iff_eq] at hrow
    exact hrow.2
  have hfetch : ∀ select, backend.fetchEdges plan (db.ownedBy backend.tenantId) select =
        backend.fetchEdges plan db select := by
    intro select
    rw [fetchEdges, fetchEdges, hedges]
  have hcount : (db.ownedBy backend.tenantId).edges.select backend.seesEdge =
      db.edges.select backend.seesEdge := hedges fun _ => true
  rw [answers, answers, KgAnswers.mk.injEq]
  refine ⟨?_, ?_, ?_, ?_, ?_, ?_⟩
  · funext nodeId relation direction
    rw [queryRelation, queryRelation, hfetch, hfetch]
  · funext start relation maxDepth
    rw [transitiveQuery, transitiveQuery, funext fun nodeId => hfetch (.outgoing nodeId relation)]
  · funext claimA claimB
    rw [detectConflict, detectConflict, hedges]
  · funext query limit
    rw [search, search, hnodes]
  · rw [nodeCount, nodeCount, hnodes]
  · rw [edgeCount, edgeCount, hcount]

theorem answers_exec (h : db.Tenanted) {events : List KgEvent}
    (hunheld : Along step Unheld db events) (backend : SqliteKnowledgeGraphBackend) :
    backend.answers plan posture lower (exec step db events) = backend.answers plan posture lower
        (exec step (db.ownedBy backend.tenantId) (callsOf backend.tenantId events)) := by
  rw [← ownedBy_exec h hunheld, answers_ownedBy]

variable {plan posture lower}

def inScopeOf (backend : SqliteKnowledgeGraphBackend) {tenantId : String} (hne : tenantId ≠ "") :
    SqliteKnowledgeGraphBackend := ⟨backend.profileId, backend.projectId, tenantId, hne⟩

theorem seesNode_nodeKey (backend : SqliteKnowledgeGraphBackend) (nodeId : String) {row : KgRow}
    (htenant : row.tenantId = backend.tenantId) :
    backend.seesNode (backend.nodeKey nodeId, row) = true := by
  simp [seesNode, nodeKey, htenant]

theorem seesEdge_edgeKey (backend : SqliteKnowledgeGraphBackend) (src dst relation : String)
    {row : KgRow} (htenant : row.tenantId = backend.tenantId) :
    backend.seesEdge (backend.edgeKey src dst relation, row) = true := by
  simp [seesEdge, edgeKey, htenant]

theorem unheld_of_answers (h : db.Tenanted) (hanswers : ∀ backend : SqliteKnowledgeGraphBackend,
      backend.answers plan posture lower (db.step event) = backend.answers plan posture lower
          (exec step (db.ownedBy backend.tenantId) (callsOf backend.tenantId [event]))) :
    db.Unheld event := by
  have hown : event.backend.answers plan posture lower
        ((db.step event).ownedBy event.backend.tenantId) =
      event.backend.answers plan posture lower
        ((db.ownedBy event.backend.tenantId).step event) := by
    rw [answers_ownedBy, hanswers, callsOf_own]
    rfl
  -- the owner of a row that is there, through a backend in the scope of the call
  have hother : ∀ {tenantId : String} (hne : tenantId ≠ ""), tenantId ≠ event.backend.tenantId →
      (inScopeOf event.backend hne).answers plan posture lower ((db.step event).ownedBy tenantId) =
        (inScopeOf event.backend hne).answers plan posture lower (db.ownedBy tenantId) := by
    intro tenantId hne hdifferent
    have hcall := hanswers (inScopeOf event.backend hne)
    have hskip : callsOf (inScopeOf event.backend hne).tenantId [event] = [] :=
      callsOf_other hdifferent.symm []
    rw [hskip] at hcall
    exact (answers_ownedBy plan posture lower (inScopeOf event.backend hne) _).trans hcall
  cases writes event with
  | nothing hstep hnodes hedges =>
    exact ⟨by rw [hnodes]; exact forall_mem_nil _, by rw [hedges]; exact forall_mem_nil _⟩
  | node nodeId payload hstep hnodes hedges =>
    refine ⟨?_, by rw [hedges]; exact forall_mem_nil _⟩
    rw [hnodes, forall_mem_singleton]
    have howner : KgRow.tenantId ⟨event.backend.tenantId, payload⟩ = event.backend.tenantId := rfl
    refine Dict.freeFor_of_length_set howner
      (p := fun tenantId row => row.1.profileId == event.backend.profileId &&
        row.1.projectId == event.backend.projectId && row.2.tenantId == tenantId)
      (fun old => by simp [nodeKey]) fun old hold hdifferent => ?_
    have hcount := congrArg KgAnswers.nodeCount (hother (h.nodes _ old hold) hdifferent)
    rw [hstep] at hcount
    exact hcount
  | edge src dst relation payload hstep hnodes hedges =>
    refine ⟨by rw [hnodes]; exact forall_mem_nil _, ?_⟩
    rw [hedges, forall_mem_singleton]
    have howner : KgRow.tenantId ⟨event.backend.tenantId, payload⟩ = event.backend.tenantId := rfl
    refine Dict.freeFor_of_length_set howner
      (p := fun tenantId row => row.1.profileId == event.backend.profileId &&
        row.1.projectId == event.backend.projectId && row.2.tenantId == tenantId)
      (fun old => by simp [edgeKey]) fun old hold hdifferent => ?_
    have hcount := congrArg KgAnswers.edgeCount (hother (h.edges _ old hold) hdifferent)
    rw [hstep] at hcount
    exact hcount
  | rows file hstep hnodes hedges =>
    rw [hstep, hstep] at hown
    constructor
    · rw [hnodes, forall_mem_map]
      refine Dict.freeFor_of_length_setDefaults migratedNodes_owner (p := event.backend.seesNode)
        ?_ (congrArg KgAnswers.nodeCount hown)
      intro row hrow value hvalue
      obtain ⟨node, -, rfl⟩ := mem_map.mp hrow
      exact seesNode_nodeKey event.backend node.1 hvalue
    · rw [hedges, forall_mem_map]
      refine Dict.freeFor_of_length_setDefaults migratedEdges_owner (p := event.backend.seesEdge)
        ?_ (congrArg KgAnswers.edgeCount hown)
      intro row hrow value hvalue
      obtain ⟨edge, -, rfl⟩ := mem_map.mp hrow
      exact seesEdge_edgeKey event.backend _ _ _ hvalue

/-! ## Whole histories -/

variable (plan posture lower)

/-- From a file without rows, the histories at every point of which every backend is answered
as if only its tenant had called are those whose calls write under keys that no other tenant
holds. -/
theorem isolated_iff (events : List KgEvent) :
    (∀ past, past <+: events → ∀ backend : SqliteKnowledgeGraphBackend,
      backend.answers plan posture lower (exec step .empty past) =
        backend.answers plan posture lower (exec step .empty (callsOf backend.tenantId past))) ↔
      Along step Unheld .empty events := by
  constructor
  · intro hall
    induction events using List.reverseRecOn with
    | nil => trivial
    | append_singleton past event ih =>
      have hpast := ih fun earlier hearlier =>
        hall earlier (hearlier.trans (prefix_append past [event]))
      rw [along_append]
      have htenanted : (exec step .empty past).Tenanted :=
        exec_invariant (fun _ event htenanted _ => htenanted.step event) tenanted_empty hpast
      have hanswers : ∀ backend : SqliteKnowledgeGraphBackend,
          backend.answers plan posture lower ((exec step .empty past).step event) =
            backend.answers plan posture lower
              (exec step ((exec step .empty past).ownedBy backend.tenantId)
                (callsOf backend.tenantId [event])) := by
        intro backend
        have hnow := hall (past ++ [event]) (prefix_refl _) backend
        rw [callsOf, filter_append, exec, foldl_append, exec, foldl_append] at hnow
        rw [ownedBy_exec tenanted_empty hpast]
        exact hnow
      exact ⟨hpast, unheld_of_answers htenanted hanswers, trivial⟩
  · intro halong past hpast backend
    obtain ⟨later, rfl⟩ := hpast
    exact answers_exec plan posture lower tenanted_empty ((along_append _ _ _).mp halong).1 backend

def shared (tenantId : String) (hne : tenantId ≠ "") : SqliteKnowledgeGraphBackend :=
  ⟨"analyst", "", tenantId, hne⟩

theorem acme_ne : "acme" ≠ "" := by decide

theorem globex_ne : "globex" ≠ "" := by decide

def takenOver : List KgEvent :=
  [⟨shared "acme" acme_ne, .upsertNode "n" [("content", .str "paris")]⟩,
    ⟨shared "globex" globex_ne, .upsertNode "n" [("content", .str "rome")]⟩]

/-- The node of the first tenant is gone. -/
theorem not_isolated_takenOver :
    ¬ ∀ past, past <+: takenOver → ∀ backend : SqliteKnowledgeGraphBackend,
      backend.answers .byRowid .dev Text.lower (exec step .empty past) =
        backend.answers .byRowid .dev Text.lower
          (exec step .empty (callsOf backend.tenantId past)) := by
  intro hall
  have hcount := congrArg KgAnswers.nodeCount
    (hall takenOver (prefix_refl _) (shared "acme" acme_ne))
  have hshared : (shared "acme" acme_ne).nodeCount (exec step .empty takenOver) = 0 := by
    decide
  have halone : (shared "acme" acme_ne).nodeCount
      (exec step .empty (callsOf "acme" takenOver)) = 1 := by
    decide
  have hnone : 0 = 1 := (hshared.symm.trans hcount).trans halone
  cases hnone

end KgDatabase

end HiAgent.Memory
