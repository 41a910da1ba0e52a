/-
  Server/EventStore.lean --- the events of a run, as they are stored.

  `hi_agent/server/event_store.py`: `StoredEvent` and of `SQLiteEventStore` the
  methods that the writers and the event stream call.

  `publish` has two halves. The first writes the event to the durable store, when
  there is one, and may raise; the second puts it into the queues of the subscribers
  of its run.
-/
import HiAgent.Server.RunManager

namespace HiAgent.Server

open Foundation List

structure StoredEvent where
  eventId : String
  runId : String
  sequence : Int
  eventType : String
  payloadJson : String
  tenantId : String
  userId : String
  sessionId : String
  createdAt : Int
  parentRunId : String
  attemptId : String
  phaseId : String
  deriving DecidableEq

/-- The exceptions of the event store and of what builds its rows. -/
inductive EventError where
  | valueError (message : String)
  | raised (error : Raised)

namespace StoredEvent

def missing (event : StoredEvent) : List String :=
  (if event.runId = "" then ["run_id"] else []) ++
    (if event.eventId = "" then ["event_id"] else []) ++
      (if event.tenantId = "" then ["tenant_id"] else [])

/-- `StoredEvent.__post_init__`: the event, when it may be built. -/
def construct (posture : Except String Posture) (event : StoredEvent) :
    Except EventError StoredEvent :=
  match posture with
  | .error message => .error (.valueError message)
  | .ok posture =>
    if event.missing ≠ [] ∧ posture.isStrict then
      .error (.valueError (spineMessage posture "StoredEvent" event.missing
        "Populate the fields at the construction site (Rule 12)."))
    else .ok event

theorem eq_of_construct {posture : Except String Posture} {event built : StoredEvent}
    (h : event.construct posture = .ok built) : built = event := by
  unfold construct at h
  cases posture with
  | error message => cases h
  | ok posture =>
    dsimp only at h
    split at h
    · cases h
    · exact (Except.ok.inj h).symm

end StoredEvent

/-- The rows of `run_events`, oldest first. -/
abbrev EventStore := Table StoredEvent.eventId

namespace EventStore

/-! ## Writing -/

/-- `append`: `INSERT OR IGNORE`, and its commit. -/
def append (store : EventStore) (fault : Option WriteFault) (event : StoredEvent) :
    Except EventError Unit × EventStore :=
  match PyValue.integerColumn event.sequence with
  | .error error => (.error (.raised error), store)
  | .ok _ =>
    let (answer, written) := attempt fault store (store.insertOrIgnore event)
    (answer.mapError .raised, written)

/-- The call of `append` adds a row. -/
def Adds (store : EventStore) (fault : Option WriteFault) (event : StoredEvent) : Prop :=
  Succeeds (PyValue.integerColumn event.sequence) ∧ fault ≠ some .execute ∧
    store.lookup event.eventId = none

instance (store : EventStore) (fault : Option WriteFault) (event : StoredEvent) :
    Decidable (store.Adds fault event) :=
  inferInstanceAs (Decidable (_ ∧ _ ∧ _))

variable {store : EventStore} {posture : Except String Posture}

theorem rows_insertOrIgnore {event : StoredEvent} (h : store.lookup event.eventId = none) :
    (store.insertOrIgnore event).rows = store.rows ++ [event] := by
  have hfresh : ∀ row ∈ store.rows, row.eventId ≠ event.eventId :=
    Table.lookup_eq_none_iff.mp h
  rw [Table.insertOrIgnore, h]
  change (store.rows.filter fun old => !decide (old.eventId = event.eventId)) ++ [event] = _
  rw [filter_eq_self.mpr fun row hrow => by simp [hfresh row hrow]]

/-- An append adds its event or nothing. -/
theorem rows_append (store : EventStore) (fault : Option WriteFault) (event : StoredEvent) :
    (store.append fault event).2.rows =
      if store.Adds fault event then store.rows ++ [event] else store.rows := by
  unfold append
  cases hbind : PyValue.integerColumn event.sequence with
  | error error => rw [if_neg fun h => by simp [Adds, hbind] at h]
  | ok value =>
    dsimp only
    cases hold : store.lookup event.eventId with
    | some old =>
      have hsame : store.insertOrIgnore event = store := by
        simp [Table.insertOrIgnore, hold]
      rw [if_neg fun h => by simp [Adds, hold] at h, hsame]
      rcases fault with _ | _ | _ <;> rfl
    | none =>
      have hadded := rows_insertOrIgnore hold
      have hfits : Succeeds (PyValue.integerColumn event.sequence) := ⟨value, hbind⟩
      rcases fault with _ | _ | _
      · rw [if_pos ⟨hfits, by simp, hold⟩]
        exact hadded
      · rw [if_neg fun h => h.2.1 rfl]
        rfl
      · rw [if_pos ⟨hfits, by simp, hold⟩]
        exact hadded

theorem mem_rows_append {fault : Option WriteFault} {event row : StoredEvent} :
    row ∈ (store.append fault event).2.rows ↔
      row ∈ store.rows ∨ (store.Adds fault event ∧ row = event) := by
  rw [rows_append]
  split
  · rename_i hadds
    rw [mem_append, mem_singleton, and_iff_right hadds]
  · rename_i hadds
    rw [or_iff_left fun h => hadds h.1]

/-! ## Reading -/

def sequences (store : EventStore) (runId : String) (tenantId : Option String) : List Int :=
  (store.select fun row =>
    decide (row.runId = runId) && tenantId.all (row.tenantId == ·)).map (·.sequence)

variable {runId : String}

theorem mem_sequences_iff {sequence : Int} :
    sequence ∈ store.sequences runId none ↔
      ∃ row ∈ store.rows, row.runId = runId ∧ row.sequence = sequence := by
  rw [sequences, mem_map]
  constructor
  · rintro ⟨row, hrow, hseq⟩
    obtain ⟨hmem, hrun⟩ := mem_filter.mp hrow
    exact ⟨row, hmem, by simpa using hrun, hseq⟩
  · rintro ⟨row, hmem, hrun, hseq⟩
    exact ⟨row, mem_filter.mpr ⟨hmem, by simpa using hrun⟩, hseq⟩

theorem sequences_append (store : EventStore) (fault : Option WriteFault)
    (event : StoredEvent) (runId : String) : (store.append fault event).2.sequences runId none =
      if store.Adds fault event ∧ event.runId = runId then
        store.sequences runId none ++ [event.sequence] else store.sequences runId none := by
  rw [sequences, Table.select, rows_append]
  by_cases hadds : store.Adds fault event
  · rw [if_pos hadds, filter_append, map_append]
    by_cases hrun : event.runId = runId
    · rw [if_pos ⟨hadds, hrun⟩, filter_singleton]
      simp [sequences, Table.select, hrun]
    · rw [if_neg fun h => hrun h.2, filter_singleton]
      simp [sequences, Table.select, hrun]
  · rw [if_neg hadds, if_neg fun h => hadds h.1]
    rfl

/-- `max_sequence`; `fault` is the failure of its query. -/
def maxSequence (store : EventStore) (posture : Except String Posture)
    (fault : Option Raised) (runId : String) (tenantId : Option String) :
    Except EventError Int :=
  let query (scope : Option String) : Except EventError Int :=
    match fault with
    | some error => .error (.raised error)
    | none => .ok ((store.sequences runId scope).max?.getD (-1))
  match tenantId.filter (fun tenant => Text.strip tenant ≠ "") with
  | some tenant => query (some tenant)
  | none =>
    match posture with
    | .error message => .error (.valueError message)
    | .ok posture =>
      if posture.isStrict then
        .error (.valueError ("SQLiteEventStore.max_sequence requires tenant_id " ++
          "under posture=" ++ posture.value ++ "; cross-tenant sequence reads are " ++
          "forbidden (W34+ defense-in-depth)."))
      else query none

variable {fault : Option Raised}

theorem le_maxSequence {highest : Int}
    (h : store.maxSequence posture fault runId none = .ok highest) {row : StoredEvent}
    (hrow : row ∈ store.rows) (hrun : row.runId = runId) : row.sequence ≤ highest := by
  have hmem : row.sequence ∈ store.sequences runId none :=
    mem_sequences_iff.mpr ⟨row, hrow, hrun, rfl⟩
  unfold maxSequence at h
  cases posture with
  | error message => cases h
  | ok posture =>
    cases hstrict : posture.isStrict with
    | true => simp [hstrict] at h
    | false =>
      cases fault with
      | some error => simp [hstrict] at h
      | none =>
        cases hmax : (store.sequences runId none).max? with
        | none =>
          rw [max?_eq_none_iff] at hmax
          rw [hmax] at hmem
          cases hmem
        | some value =>
          have hvalue : value = highest := by simpa [hstrict, hmax] using h
          have hle := (max?_eq_some_iff.mp hmax).2 row.sequence hmem
          omega

/-- The order of `ORDER BY sequence ASC`. -/
def bySequence (left right : StoredEvent) : Prop := left.sequence ≤ right.sequence

instance : DecidableRel bySequence := fun left right =>
  inferInstanceAs (Decidable (left.sequence ≤ right.sequence))

/-- The rows that `list_since` selects. -/
def selectsSince (runId : String) (sinceSequence : Int)
    (tenantId userId sessionId : Option String) (row : StoredEvent) : Bool :=
  decide (row.runId = runId) && decide (sinceSequence < row.sequence) &&
    tenantId.all (row.tenantId == ·) && userId.all (row.userId == ·) &&
      sessionId.all (row.sessionId == ·)

/-- `_row_to_event`, row by row. -/
def rowsToEvents (posture : Except String Posture) :
    List StoredEvent → Except EventError (List StoredEvent)
  | [] => .ok []
  | row :: rest =>
    (row.construct posture).bind fun event =>
      (rowsToEvents posture rest).map (event :: ·)

/-- `list_since`; `fault` is the failure of its query. -/
def listSince (store : EventStore) (posture : Except String Posture)
    (fault : Option Raised) (runId : String) (sinceSequence : Int)
    (tenantId userId sessionId : Option String) :
    Except EventError (List StoredEvent) :=
  match fault, PyValue.integerColumn sinceSequence with
  | some error, _ => .error (.raised error)
  | none, .error error => .error (.raised error)
  | none, .ok _ =>
    rowsToEvents posture ((store.select (selectsSince runId sinceSequence tenantId
      userId sessionId)).insertionSort bySequence)

theorem eq_of_rowsToEvents
    {rows events : List StoredEvent} (h : rowsToEvents posture rows = .ok events) :
    events = rows := by
  induction rows generalizing events with
  | nil => exact (Except.ok.inj h).symm
  | cons row rest ih =>
    obtain ⟨event, hevent, hrest⟩ := bind_eq_ok_iff.mp h
    obtain ⟨others, hothers, hcons⟩ := map_eq_ok_iff.mp hrest
    rw [← hcons, StoredEvent.eq_of_construct hevent, ih hothers]

theorem mem_listSince_iff {sinceSequence : Int}
    {tenantId userId sessionId : Option String} {events : List StoredEvent}
    (h : store.listSince posture fault runId sinceSequence tenantId userId sessionId =
      .ok events) (row : StoredEvent) : row ∈ events ↔ row ∈ store.rows ∧
      selectsSince runId sinceSequence tenantId userId sessionId row = true := by
  unfold listSince at h
  cases fault with
  | some error => cases h
  | none =>
    cases hbind : PyValue.integerColumn sinceSequence with
    | error error =>
      rw [hbind] at h
      cases h
    | ok value =>
      rw [hbind] at h
      rw [eq_of_rowsToEvents h, mem_insertionSort, Table.select, mem_filter]

theorem ordered_listSince {sinceSequence : Int}
    {tenantId userId sessionId : Option String} {events : List StoredEvent}
    (h : store.listSince posture fault runId sinceSequence tenantId userId sessionId =
      .ok events) : events.Pairwise bySequence ∧ events.Nodup := by
  unfold listSince at h
  cases fault with
  | some error => cases h
  | none =>
    cases hbind : PyValue.integerColumn sinceSequence with
    | error error =>
      rw [hbind] at h
      cases h
    | ok value =>
      rw [hbind] at h
      have htotal : Std.Total bySequence :=
        ⟨fun left right => Int.le_total left.sequence right.sequence⟩
      have htrans : IsTrans StoredEvent bySequence :=
        ⟨fun _ _ _ hleft hright => Int.le_trans hleft hright⟩
      rw [eq_of_rowsToEvents h]
      refine ⟨pairwise_insertionSort bySequence _, ?_⟩
      refine (perm_insertionSort bySequence _).nodup_iff.mpr ?_
      exact (List.Nodup.of_map _ store.keysNodup).filter _

end EventStore

/-- The fields of `RuntimeEvent` that the bus reads. -/
structure RuntimeEvent where
  runId : String
  eventId : String
  commitOffset : Option Int
  eventType : String
  payloadJson : PyValue

/-- What `publish` reads from its surroundings. -/
structure PublishEnv where
  posture : Except String Posture
  /-- `get_tenant_context()` of the publishing task. -/
  context : Option TenantContext
  /-- `uuid.uuid4()`, for an event without an id. -/
  uuid : String
  createdAt : Int
  appendFault : Option WriteFault

namespace EventBus

/-- `event.commit_offset or 0`. -/
def offset (event : RuntimeEvent) : Int := event.commitOffset.getD 0

/-- The text of the payload. -/
def payloadText (payload : PyValue) : Except EventError String :=
  match payload with
  | .none => .ok ""
  | .str text => .ok text
  | other => (PyValue.dumps false other).mapError .raised

/-- `event.event_id or str(uuid.uuid4())`. -/
def eventId (env : PublishEnv) (event : RuntimeEvent) : String :=
  if event.eventId = "" then env.uuid else event.eventId

/-- The row of an event: the spine is the tenant context of the publisher, and
empty where there is none. -/
def stored (env : PublishEnv) (event : RuntimeEvent) : Except EventError StoredEvent :=
  (payloadText event.payloadJson).bind fun payload =>
    StoredEvent.construct env.posture
      { eventId := eventId env event
        runId := event.runId
        sequence := offset event
        eventType := event.eventType
        payloadJson := payload
        tenantId := (env.context.map (·.tenantId)).getD ""
        userId := (env.context.map (·.userId)).getD ""
        sessionId := (env.context.map (·.sessionId)).getD ""
        createdAt := env.createdAt
        parentRunId := ""
        attemptId := ""
        phaseId := "" }

theorem eq_of_stored {env : PublishEnv} {event : RuntimeEvent} {row : StoredEvent}
    (h : stored env event = .ok row) : row.runId = event.runId ∧ row.sequence = offset event := by
  obtain ⟨payload, _, hrow⟩ := bind_eq_ok_iff.mp h
  rw [StoredEvent.eq_of_construct hrow]
  exact ⟨rfl, rfl⟩

/-- "Durable persistence (before fan-out)". -/
def persist (env : PublishEnv) (store : EventStore) (event : RuntimeEvent) :
    Except EventError Unit × EventStore :=
  match stored env event with
  | .error error => (.error error, store)
  | .ok row => store.append env.appendFault row

/-- `Queue.full`; a queue of size 0 or less has no bound. -/
def full {α : Type} (maxQueueSize : Int) (queue : List α) : Bool :=
  decide (0 < maxQueueSize ∧ maxQueueSize ≤ queue.length)

/-- `_put_nowait_in_loop`: a full queue gives up its oldest item. How many items
were dropped comes first. -/
def putNowait {α : Type} (maxQueueSize : Int) (queue : List α) (item : α) : Nat × List α :=
  if full maxQueueSize queue then (1, queue.tail ++ [item]) else (0, queue ++ [item])

theorem mem_putNowait_iff {α : Type} {maxQueueSize : Int} {queue : List α} {item : α}
    (h : (putNowait maxQueueSize queue item).1 = 0) (other : α) :
    other ∈ (putNowait maxQueueSize queue item).2 ↔ other ∈ queue ∨ other = item := by
  unfold putNowait at h ⊢
  cases hfull : full maxQueueSize queue with
  | true => simp [hfull] at h
  | false => simp

end EventBus

end HiAgent.Server
