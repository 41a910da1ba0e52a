/-
  Kernel/EventLog/RoundTrip.lean --- the runtime event log in SQLite.

  `SQLiteKernelRuntimeEventLog` of `agent_kernel/kernel/persistence/sqlite_event_log.py` and
  `_SharedConnectionEventLog` of `sqlite_colocated_bundle.py`. Both keep a row for each event,
  number the events of a run on from the greatest offset in its rows, and make one transaction of
  a commit.
-/
import HiAgent.Foundation.Machine
import HiAgent.Kernel.EventLog

namespace HiAgent.Kernel

open Foundation

/-! ## The tables -/

/-- A row of `runtime_events`, without its `id`. -/
structure EventRow where
  commitSequence : Nat
  eventIndex : Nat
  streamRunId : String
  eventRunId : String
  commitOffset : Int
  eventId : String
  eventType : String
  eventClass : EventClass
  eventAuthority : EventAuthority
  orderingKey : String
  wakePolicy : WakePolicy
  createdAt : String
  idempotencyKey : Option String
  payloadRef : Option String
  payloadJson : Option PyDict

/-- The tables of an event log. -/
structure EventTables where
  /-- `runtime_events`, in insertion order. -/
  rows : List EventRow
  /-- The last `commit_sequence` given out. -/
  commitSequence : Nat

/-- What the two logs do differently. -/
structure EventCodec where
  /-- `sort_keys`, of the payload's `json.dumps`. -/
  sortKeys : Bool
  /-- How a text that may be missing is read. -/
  optionalText : Option String → Option String

/-- What `json.loads` reads of a payload that `json.dumps` has written. -/
def rereadPayload (sortKeys : Bool) : Option PyDict → Except Raised (Option PyDict)
  | none => .ok none
  | some payload =>
    (PyValue.rereadFields sortKeys payload).map fun fields =>
      some (if sortKeys then
        fields.insertionSort fun left right => left.1 ≤ right.1
      else fields)

/-- The row of an event. -/
def EventRow.of (event : RuntimeEvent) (commitSequence eventIndex : Nat)
    (streamRunId : String) (commitOffset : Int) (payload : Option PyDict) : EventRow where
  commitSequence := commitSequence
  eventIndex := eventIndex
  streamRunId := streamRunId
  eventRunId := event.runId
  commitOffset := commitOffset
  eventId := event.eventId
  eventType := event.eventType
  eventClass := event.eventClass
  eventAuthority := event.eventAuthority
  orderingKey := event.orderingKey
  wakePolicy := event.wakePolicy
  createdAt := event.createdAt
  idempotencyKey := event.idempotencyKey
  payloadRef := event.payloadRef
  payloadJson := payload

/-- `_row_to_runtime_event`: the constructor is not given a `schema_version`. -/
def EventCodec.rowToRuntimeEvent (codec : EventCodec) (row : EventRow) : RuntimeEvent where
  runId := row.eventRunId
  eventId := row.eventId
  commitOffset := row.commitOffset
  eventType := row.eventType
  eventClass := row.eventClass
  eventAuthority := row.eventAuthority
  orderingKey := row.orderingKey
  wakePolicy := row.wakePolicy
  createdAt := row.createdAt
  idempotencyKey := codec.optionalText row.idempotencyKey
  payloadRef := codec.optionalText row.payloadRef
  payloadJson := row.payloadJson
  schemaVersion := "1"

namespace EventTables

def empty : EventTables := ⟨[], 0⟩

def rowsOf (tables : EventTables) (runId : String) : List EventRow :=
  tables.rows.filter (·.streamRunId == runId)

/-- `SELECT COALESCE(MAX(commit_offset), 0)`. -/
def maxOffset (tables : EventTables) (runId : String) : Int :=
  ((tables.rowsOf runId).map (·.commitOffset)).max?.getD 0

/-- An `INSERT`, with the two `UNIQUE` constraints of the table. -/
def insert (row : EventRow) (tables : EventTables) : Except Raised EventTables :=
  if tables.rows.any fun other =>
      (other.streamRunId == row.streamRunId && other.commitOffset == row.commitOffset) ||
        (other.commitSequence == row.commitSequence && other.eventIndex == row.eventIndex) then
    .error .integrityError
  else .ok { tables with rows := tables.rows ++ [row] }

/-- `_insert_event_rows`, from an index on. -/
def insertEventRows (codec : EventCodec) (streamRunId : String) (commitSequence : Nat)
    (startingOffset : Int) :
    Nat → List RuntimeEvent → EventTables → Except Raised EventTables
  | _, [], tables => .ok tables
  | index, event :: rest, tables =>
    (rereadPayload codec.sortKeys event.payloadJson).bind fun payload =>
      (tables.insert (.of event commitSequence index streamRunId (startingOffset + index)
        payload)).bind (insertEventRows codec streamRunId commitSequence startingOffset
          (index + 1) rest)

/-- `append_action_commit`: an exception rolls the transaction back. -/
def appendActionCommit (codec : EventCodec) (commit : ActionCommit) (tables : EventTables) :
    Except Raised String × EventTables :=
  if commit.events.isEmpty then (.error .valueError, tables)
  else
    let sequence := tables.commitSequence + 1
    match insertEventRows codec commit.runId sequence (tables.maxOffset commit.runId + 1) 0
        commit.events { tables with commitSequence := sequence } with
    | .ok written => (.ok ("commit-ref-" ++ toString sequence), written)
    | .error error => (.error error, tables)

/-- `load`: the offset is bound to a parameter of the query. -/
def load (codec : EventCodec) (tables : EventTables) (runId : String) (afterOffset : Int) :
    Except Raised (List RuntimeEvent) :=
  (PyValue.integerColumn afterOffset).map fun afterOffset =>
    (((tables.rowsOf runId).filter fun row => row.commitOffset > afterOffset).insertionSort
      fun row other => row.commitOffset ≤ other.commitOffset).map codec.rowToRuntimeEvent

end EventTables

namespace SQLiteEventLog

def asOptionalStr : Option String → Option String
  | none => none
  | some value => some value

def codec : EventCodec := ⟨true, asOptionalStr⟩

def appendActionCommit := EventTables.appendActionCommit codec

def load := EventTables.load codec

end SQLiteEventLog

namespace SharedConnectionEventLog

/-- `row[column] or None`. -/
def orNone : Option String → Option String
  | none => none
  | some value => if value = "" then none else some value

def codec : EventCodec := ⟨false, orNone⟩

def appendActionCommit := EventTables.appendActionCommit codec

def load := EventTables.load codec

end SharedConnectionEventLog

open List

/-! ## What is asked of a log -/

def exception {α : Type} : Except Raised α → Option Raised
  | .ok _ => none
  | .error error => some error

/-- A log, as its callers see it. -/
structure EventLogBackend where
  State : Type
  initial : State
  append : ActionCommit → State → Except Raised String × State
  load : State → String → Int → Except Raised (List RuntimeEvent)

namespace EventLogBackend

/-- `InMemoryKernelRuntimeEventLog`. -/
def inMemory : EventLogBackend where
  State := InMemoryEventLog
  initial := .empty
  append := InMemoryEventLog.appendActionCommit
  load log runId afterOffset := .ok (log.load runId afterOffset)

/-- A log of tables. -/
def ofCodec (codec : EventCodec) : EventLogBackend where
  State := EventTables
  initial := .empty
  append := EventTables.appendActionCommit codec
  load := EventTables.load codec

/-- `SQLiteKernelRuntimeEventLog`. -/
def sqlite : EventLogBackend := ofCodec SQLiteEventLog.codec

/-- `_SharedConnectionEventLog`. -/
def colocated : EventLogBackend := ofCodec SharedConnectionEventLog.codec

def after (backend : EventLogBackend) (commits : List ActionCommit) : backend.State :=
  exec (fun state commit => (backend.append commit state).2) backend.initial commits

/-- The exceptions of a sequence of commits. -/
def raisedFrom (backend : EventLogBackend) :
    backend.State → List ActionCommit → List (Option Raised)
  | _, [] => []
  | state, commit :: rest =>
    exception (backend.append commit state).1 ::
      backend.raisedFrom (backend.append commit state).2 rest

def raised (backend : EventLogBackend) (commits : List ActionCommit) : List (Option Raised) :=
  backend.raisedFrom backend.initial commits

end EventLogBackend

def renumbered (offset : Int) : List RuntimeEvent → List RuntimeEvent
  | [] => []
  | event :: rest => { event with commitOffset := offset } :: renumbered (offset + 1) rest

def eventsOf (runId : String) (commits : List ActionCommit) : List RuntimeEvent :=
  (commits.filter (·.runId == runId)).flatMap (·.events)

def appended (commits : List ActionCommit) (runId : String) (afterOffset : Int) :
    List RuntimeEvent :=
  (renumbered 1 (eventsOf runId commits)).filter fun event => event.commitOffset > afterOffset

/-- `==` of two payloads: the same dictionary, or one that equals it. -/
def SamePayload : Option PyDict → Option PyDict → Prop
  | none, none => True
  | some payload, some other =>
    payload = other ∨ PyValue.eq (.dict payload) (.dict other) = true
  | _, _ => False

/-- `==` of two events. -/
def SameEvent (event other : RuntimeEvent) : Prop :=
  other = { event with payloadJson := other.payloadJson } ∧
    SamePayload event.payloadJson other.payloadJson

/-- A payload survives `json.dumps` and `json.loads`. -/
def Survives (payload : Option PyDict) : Prop :=
  ∀ sortKeys, ∃ back, rereadPayload sortKeys payload = .ok back ∧ SamePayload payload back

def EventLogBackend.Returns (backend : EventLogBackend) (commits : List ActionCommit)
    (runId : String) (afterOffset : Int) : Prop :=
  ∃ events, backend.load (backend.after commits) runId afterOffset = .ok events ∧
    List.Forall₂ SameEvent (appended commits runId afterOffset) events

/-- The three logs return what was appended, and raise on the same commits. -/
structure AppendThenLoad (commits : List ActionCommit) (runId : String)
    (afterOffset : Int) : Prop where
  inMemory : EventLogBackend.inMemory.Returns commits runId afterOffset
  sqlite : EventLogBackend.sqlite.Returns commits runId afterOffset
  colocated : EventLogBackend.colocated.Returns commits runId afterOffset
  sqliteRaises : EventLogBackend.sqlite.raised commits = EventLogBackend.inMemory.raised commits
  colocatedRaises : EventLogBackend.colocated.raised commits =
    EventLogBackend.inMemory.raised commits

/-! ## Numbering -/

theorem renumbered_append (offset : Int) (events more : List RuntimeEvent) :
    renumbered offset (events ++ more) =
      renumbered offset events ++ renumbered (offset + events.length) more := by
  induction events generalizing offset with
  | nil => simp [renumbered]
  | cons event rest ih =>
    rw [cons_append, renumbered, ih, renumbered, cons_append, length_cons]
    congr 3
    push_cast
    omega

theorem eventsOf_append (runId : String) (commits more : List ActionCommit) :
    eventsOf runId (commits ++ more) = eventsOf runId commits ++ eventsOf runId more := by
  rw [eventsOf, filter_append, flatMap_append]
  rfl

theorem eventsOf_singleton (runId : String) (commit : ActionCommit) :
    eventsOf runId [commit] = if commit.runId = runId then commit.events else [] := by
  by_cases hrun : commit.runId = runId
  · simp [eventsOf, hrun]
  · simp [eventsOf, hrun]

theorem offsets_renumbered (offset : Int) (events : List RuntimeEvent) :
    (renumbered offset events).map (·.commitOffset) =
      (List.range events.length).map fun index : Nat => offset + index := by
  induction events generalizing offset with
  | nil => rfl
  | cons event rest ih =>
    rw [renumbered, map_cons, ih, length_cons, range_succ_eq_map, map_cons, map_map]
    congr 1
    · simp
    · refine map_congr_left fun index _ => ?_
      simp only [Function.comp_apply, Nat.succ_eq_add_one]
      push_cast
      omega

theorem numbered_eq (offset : Int) (events : List RuntimeEvent) : numbered offset events =
      (renumbered offset events).map fun event => { event with schemaVersion := "1" } := by
  induction events generalizing offset with
  | nil => rfl
  | cons event rest ih =>
    rw [numbered, ih, renumbered, map_cons]
    rfl

/-! ## Two lists, item by item -/

section Related

variable {α β γ : Type} {R S : α → β → Prop}

theorem map_eq_of_forall₂ {f : α → γ} {g : β → γ} (h : ∀ a b, R a b → f a = g b)
    {xs : List α} {ys : List β} (hrelated : List.Forall₂ R xs ys) : xs.map f = ys.map g := by
  induction hrelated with
  | nil => rfl
  | cons hab hrest ih => rw [map_cons, map_cons, h _ _ hab, ih]

theorem forall₂_iff_forall_mem {P : α → Prop} (h : ∀ a b, R a b → (S a b ↔ P a))
    {xs : List α} {ys : List β} (hrelated : List.Forall₂ R xs ys) :
    List.Forall₂ S xs ys ↔ ∀ a ∈ xs, P a := by
  induction hrelated with
  | nil => simp
  | cons hab hrest ih => rw [List.forall₂_cons, forall_mem_cons, h _ _ hab, ih]

end Related

/-! ## The log in memory -/

def NothingEvicted (commits : List ActionCommit) : Prop :=
  Along (fun log commit => (InMemoryEventLog.appendActionCommit commit log).2)
    (fun log commit => log.evicts commit = none) .empty commits

instance (commits : List ActionCommit) : Decidable (NothingEvicted commits) :=
  inferInstanceAs (Decidable (Along _ (fun log commit =>
    InMemoryEventLog.evicts log commit = none) _ _))

theorem RunHistory.extended_append (history : RunHistory) (events more : List RuntimeEvent) :
    history.extended (events ++ more) = (history.extended events).extended more := by
  simp only [RunHistory.extended, numbered_append, append_assoc, length_append]
  congr 1
  push_cast
  omega

theorem history_exec {commits : List ActionCommit} {log : InMemoryEventLog}
    (h : Along (fun log commit => (InMemoryEventLog.appendActionCommit commit log).2)
      (fun log commit => log.evicts commit = none) log commits) (runId : String) :
    (exec (fun log commit => (InMemoryEventLog.appendActionCommit commit log).2) log
      commits).history runId = (log.history runId).extended (eventsOf runId commits) := by
  induction commits generalizing log with
  | nil => exact (RunHistory.extended_nil _).symm
  | cons commit rest ih =>
    rw [exec_cons, ih h.2, InMemoryEventLog.history_appendActionCommit, h.1,
      if_neg (Option.some_ne_none runId).symm]
    change _ = (log.history runId).extended (eventsOf runId ([commit] ++ rest))
    rw [eventsOf_append, eventsOf_singleton, RunHistory.extended_append]
    by_cases hrun : runId = commit.runId
    · rw [if_pos hrun, if_pos hrun.symm]
    · rw [if_neg hrun, if_neg fun h => hrun h.symm, RunHistory.extended_nil]

theorem load_inMemory {commits : List ActionCommit} (h : NothingEvicted commits)
    (runId : String) (afterOffset : Int) :
    EventLogBackend.inMemory.load (EventLogBackend.inMemory.after commits) runId afterOffset =
      .ok ((appended commits runId afterOffset).map
        fun event => { event with schemaVersion := "1" }) := by
  have hevents := congrArg RunHistory.events (history_exec h runId)
  have hnumbered : (RunHistory.extended (InMemoryEventLog.empty.history runId)
      (eventsOf runId commits)).events = numbered 1 (eventsOf runId commits) :=
    nil_append _
  rw [hnumbered, numbered_eq] at hevents
  refine congrArg Except.ok ((congrArg (List.filter _) hevents).trans ?_)
  rw [filter_map]
  rfl

theorem exception_inMemory (commit : ActionCommit) (log : InMemoryEventLog) :
    exception (log.appendActionCommit commit).1 =
      if commit.events.isEmpty then some .valueError else none := by
  unfold InMemoryEventLog.appendActionCommit
  split <;> rfl

/-! ## The logs in SQLite -/

section Tables

variable {codec : EventCodec} {tables : EventTables} {runId : String}

/-- What is read of the row of an event. -/
def EventCodec.GivesBack (codec : EventCodec) (event back : RuntimeEvent) : Prop :=
  ∃ payload, SamePayload event.payloadJson payload ∧ back = { event with
      idempotencyKey := codec.optionalText event.idempotencyKey
      payloadRef := codec.optionalText event.payloadRef
      payloadJson := payload
      schemaVersion := "1" }

/-- The rows of the tables are those of the commits. -/
structure Holds (codec : EventCodec) (commits : List ActionCommit)
    (tables : EventTables) : Prop where
  rows : ∀ runId, List.Forall₂ codec.GivesBack (renumbered 1 (eventsOf runId commits))
    ((tables.rowsOf runId).map codec.rowToRuntimeEvent)
  sequence : ∀ row ∈ tables.rows, row.commitSequence ≤ tables.commitSequence

theorem insert_of_new {row : EventRow}
    (hoffset : ∀ other ∈ tables.rows, other.streamRunId = row.streamRunId →
      other.commitOffset ≠ row.commitOffset)
    (hindex : ∀ other ∈ tables.rows, other.commitSequence = row.commitSequence →
      other.eventIndex ≠ row.eventIndex) :
    tables.insert row = .ok { tables with rows := tables.rows ++ [row] } := by
  unfold EventTables.insert
  rw [if_neg]
  simp only [any_eq_true, Bool.or_eq_true, Bool.and_eq_true, beq_iff_eq, not_exists,
    not_and, not_or]
  exact fun other hother => ⟨hoffset other hother, hindex other hother⟩

variable (codec) in
theorem insertEventRows_of_new {sequence : Nat} {start : Int} {index : Nat}
    {events : List RuntimeEvent} (hlives : ∀ event ∈ events, Survives event.payloadJson)
    (hoffset : ∀ row ∈ tables.rows, row.streamRunId = runId → row.commitOffset < start + index)
    (hindex : ∀ row ∈ tables.rows, row.commitSequence = sequence → row.eventIndex < index) :
    ∃ rows, EventTables.insertEventRows codec runId sequence start index events tables =
        .ok { tables with rows := tables.rows ++ rows } ∧
      (∀ row ∈ rows, row.streamRunId = runId ∧ row.commitSequence = sequence) ∧
      List.Forall₂ codec.GivesBack (renumbered (start + index) events)
        (rows.map codec.rowToRuntimeEvent) := by
  induction events generalizing index tables with
  | nil => exact ⟨[], by simp [EventTables.insertEventRows], forall_mem_nil _, .nil⟩
  | cons event rest ih =>
    obtain ⟨payload, hpayload, hsame⟩ :=
      hlives event mem_cons_self codec.sortKeys
    let row := EventRow.of event sequence index runId (start + index) payload
    have hinsert : tables.insert row = .ok { tables with rows := tables.rows ++ [row] } := by
      refine insert_of_new (fun other hother hrun => ?_) (fun other hother hseq => ?_)
      · exact (hoffset other hother hrun).ne
      · exact (hindex other hother hseq).ne
    have hrest : ∀ event ∈ rest, Survives event.payloadJson :=
      fun event hevent => hlives event (mem_cons_of_mem _ hevent)
    let written : EventTables := { tables with rows := tables.rows ++ [row] }
    have hoffset' : ∀ other ∈ written.rows, other.streamRunId = runId →
        other.commitOffset < start + ((index + 1 : Nat) : Int) := by
      intro other hother hstream
      push_cast
      rcases mem_append.mp hother with hold | hnew
      · have hlt := hoffset other hold hstream
        omega
      · obtain rfl := mem_singleton.mp hnew
        change start + index < _
        omega
    have hindex' : ∀ other ∈ written.rows, other.commitSequence = sequence →
        other.eventIndex < index + 1 := by
      intro other hother hseq
      rcases mem_append.mp hother with hold | hnew
      · exact Nat.lt_succ_of_lt (hindex other hold hseq)
      · obtain rfl := mem_singleton.mp hnew
        exact Nat.lt_succ_self index
    obtain ⟨rows, hrows, hrun, hback⟩ := ih hrest hoffset' hindex'
    refine ⟨row :: rows, ?_, ?_, ?_⟩
    · rw [EventTables.insertEventRows, hpayload]
      change (tables.insert row).bind _ = _
      rw [hinsert]
      refine hrows.trans ?_
      rw [append_assoc]
      rfl
    · exact forall_mem_cons.mpr ⟨⟨rfl, rfl⟩, hrun⟩
    · rw [renumbered, map_cons]
      refine .cons ⟨payload, hsame, rfl⟩ ?_
      have hnext : start + ((index + 1 : Nat) : Int) = start + index + 1 := by
        push_cast
        omega
      rw [← hnext]
      exact hback

variable {commits : List ActionCommit}

theorem Holds.offsets (h : Holds codec commits tables)
    (runId : String) : (tables.rowsOf runId).map (·.commitOffset) =
      (List.range (eventsOf runId commits).length).map fun index : Nat => (1 : Int) + index := by
  have hsame : ∀ event back, codec.GivesBack event back →
      event.commitOffset = back.commitOffset := by
    rintro event _ ⟨payload, _, rfl⟩
    rfl
  rw [← offsets_renumbered, map_eq_of_forall₂ hsame (h.rows runId), map_map]
  rfl

theorem max_offsets (n : Nat) :
    (((List.range n).map fun index : Nat => (1 : Int) + index).max?).getD 0 = n := by
  cases n with
  | zero => rfl
  | succ n =>
    have hmax : ((List.range (n + 1)).map fun index : Nat => (1 : Int) + index).max? =
        some ((n + 1 : Nat) : Int) := by
      rw [max?_eq_some_iff]
      refine ⟨mem_map.mpr ⟨n, mem_range.mpr (Nat.lt_succ_self n), ?_⟩, ?_⟩
      · push_cast
        omega
      · intro offset hoffset
        obtain ⟨index, hindex, rfl⟩ := mem_map.mp hoffset
        have hlt := mem_range.mp hindex
        push_cast
        omega
    rw [hmax]
    rfl

theorem Holds.maxOffset (h : Holds codec commits tables)
    (runId : String) : tables.maxOffset runId = (eventsOf runId commits).length := by
  rw [EventTables.maxOffset, h.offsets, max_offsets]

theorem Holds.le_maxOffset (h : Holds codec commits tables)
    {row : EventRow} (hrow : row ∈ tables.rows) :
    row.commitOffset ≤ tables.maxOffset row.streamRunId := by
  have hmem : row.commitOffset ∈ (tables.rowsOf row.streamRunId).map (·.commitOffset) :=
    mem_map_of_mem (mem_filter.mpr ⟨hrow, by simp⟩)
  rw [h.offsets] at hmem
  obtain ⟨index, hindex, hoffset⟩ := mem_map.mp hmem
  have hlt := mem_range.mp hindex
  rw [h.maxOffset]
  omega

theorem Holds.append (h : Holds codec commits tables)
    {commit : ActionCommit} (hlives : ∀ event ∈ commit.events, Survives event.payloadJson) :
    exception (tables.appendActionCommit codec commit).1 =
        (if commit.events.isEmpty then some .valueError else none) ∧
      Holds codec (commits ++ [commit]) (tables.appendActionCommit codec commit).2 := by
  cases hempty : commit.events.isEmpty with
  | true =>
    have hnil := List.isEmpty_iff.mp hempty
    rw [EventTables.appendActionCommit, hempty]
    refine ⟨rfl, ⟨fun runId => ?_, h.sequence⟩⟩
    rw [eventsOf_append, eventsOf_singleton, hnil, ite_self, append_nil]
    exact h.rows runId
  | false =>
    let opened : EventTables := { tables with commitSequence := tables.commitSequence + 1 }
    have hmax := h.maxOffset commit.runId
    have hoffset : ∀ row ∈ opened.rows, row.streamRunId = commit.runId →
        row.commitOffset < tables.maxOffset commit.runId + 1 + ((0 : Nat) : Int) := by
      intro row hrow hrun
      have hle := h.le_maxOffset hrow
      rw [hrun] at hle
      push_cast
      omega
    have hindex : ∀ row ∈ opened.rows, row.commitSequence = tables.commitSequence + 1 →
        row.eventIndex < 0 := by
      intro row hrow hseq
      have hle := h.sequence row hrow
      omega
    obtain ⟨rows, hrows, hnew, hback⟩ :=
      insertEventRows_of_new codec hlives hoffset hindex
    rw [EventTables.appendActionCommit, hempty, if_neg Bool.false_ne_true]
    dsimp only
    change EventTables.insertEventRows _ _ _ _ _ _ opened = _ at hrows
    rw [hrows]
    refine ⟨rfl, ⟨fun runId => ?_, fun row hrow => ?_⟩⟩
    · rw [eventsOf_append, eventsOf_singleton]
      change List.Forall₂ _ _ (((tables.rows ++ rows).filter _).map _)
      rw [filter_append, map_append, renumbered_append]
      refine rel_append (h.rows runId) ?_
      by_cases hrun : commit.runId = runId
      · have hall : rows.filter (·.streamRunId == runId) = rows :=
          filter_eq_self.mpr fun row hrow => by simp [(hnew row hrow).1, hrun]
        rw [hall, if_pos hrun, ← hrun, ← hmax]
        have hstart : tables.maxOffset commit.runId + 1 + ((0 : Nat) : Int) =
            1 + tables.maxOffset commit.runId := by
          push_cast
          omega
        rw [hstart] at hback
        exact hback
      · have hnone : rows.filter (·.streamRunId == runId) = [] :=
          filter_eq_nil_iff.mpr fun row hrow => by simp [(hnew row hrow).1, hrun]
        rw [hnone, if_neg hrun]
        exact .nil
    · rcases mem_append.mp hrow with hold | hlate
      · exact Nat.le_succ_of_le (h.sequence row hold)
      · exact (hnew row hlate).2.le

theorem Holds.run {past commits : List ActionCommit} (h : Holds codec past tables)
    (hlives : ∀ commit ∈ commits, ∀ event ∈ commit.events, Survives event.payloadJson) :
    (EventLogBackend.ofCodec codec).raisedFrom tables commits = commits.map (fun commit =>
          if commit.events.isEmpty then some Raised.valueError else none) ∧
      Holds codec (past ++ commits)
        (exec (fun tables commit => (EventTables.appendActionCommit codec commit tables).2)
          tables commits) := by
  induction commits generalizing past tables with
  | nil =>
    rw [append_nil]
    exact ⟨rfl, h⟩
  | cons commit rest ih =>
    obtain ⟨hraised, hholds⟩ := h.append (hlives commit mem_cons_self)
    obtain ⟨hrest, hlast⟩ := ih hholds
      fun other hother => hlives other (mem_cons_of_mem _ hother)
    refine ⟨?_, ?_⟩
    · rw [map_cons, ← hraised, ← hrest]
      rfl
    · rw [append_assoc] at hlast
      exact hlast

theorem holds_empty (codec : EventCodec) : Holds codec [] .empty where
  rows _ := .nil
  sequence := forall_mem_nil _

theorem Holds.load (h : Holds codec commits tables)
    (runId : String) {afterOffset : Int} (hfits : Succeeds (PyValue.integerColumn afterOffset)) :
    ∃ events, EventTables.load codec tables runId afterOffset = .ok events ∧
      List.Forall₂ codec.GivesBack (appended commits runId afterOffset) events := by
  obtain ⟨offset, hoffset⟩ := hfits
  obtain rfl : offset = afterOffset := by
    unfold PyValue.integerColumn at hoffset
    split at hoffset
    · exact (Except.ok.inj hoffset).symm
    · cases hoffset
  refine ⟨_, by rw [EventTables.load, hoffset]; rfl, ?_⟩
  have hsorted : ((tables.rowsOf runId).filter fun row => row.commitOffset > offset).Pairwise
      fun row other => row.commitOffset ≤ other.commitOffset := by
    have hpairwise : ((tables.rowsOf runId).map (·.commitOffset)).Pairwise (· ≤ ·) := by
      rw [h.offsets, pairwise_map]
      refine pairwise_lt_range.imp fun hlt => ?_
      omega
    exact (pairwise_map.mp hpairwise).filter _
  dsimp only
  rw [hsorted.insertionSort_eq]
  have hfilter : ((tables.rowsOf runId).filter fun row => row.commitOffset > offset).map
      codec.rowToRuntimeEvent = ((tables.rowsOf runId).map codec.rowToRuntimeEvent).filter
          fun event => event.commitOffset > offset := by
    rw [filter_map]
    rfl
  rw [hfilter]
  refine rel_filter (fun event back hback => ?_) (h.rows runId)
  obtain ⟨payload, _, rfl⟩ := hback
  exact Iff.rfl

theorem sameEvent_iff_of_givesBack (event back : RuntimeEvent) (h : codec.GivesBack event back) :
    SameEvent event back ↔ event.schemaVersion = "1" ∧
      codec.optionalText event.idempotencyKey = event.idempotencyKey ∧
        codec.optionalText event.payloadRef = event.payloadRef := by
  obtain ⟨payload, hsame, rfl⟩ := h
  constructor
  · rintro ⟨heq, _⟩
    exact ⟨(congrArg RuntimeEvent.schemaVersion heq).symm,
      congrArg RuntimeEvent.idempotencyKey heq, congrArg RuntimeEvent.payloadRef heq⟩
  · rintro ⟨hversion, hkey, href⟩
    refine ⟨?_, hsame⟩
    rw [hkey, href, ← hversion]

theorem sameEvent_schemaVersion_iff (event : RuntimeEvent) :
    SameEvent event { event with schemaVersion := "1" } ↔ event.schemaVersion = "1" := by
  constructor
  · rintro ⟨heq, _⟩
    exact (congrArg RuntimeEvent.schemaVersion heq).symm
  · intro hversion
    refine ⟨by rw [← hversion], ?_⟩
    cases hpayload : event.payloadJson with
    | none => trivial
    | some payload => exact .inl rfl

end Tables

/-! ## What comes back -/

section Returns

variable {commits : List ActionCommit}

theorem returns_inMemory_iff (h : NothingEvicted commits) (runId : String) (afterOffset : Int) :
    EventLogBackend.inMemory.Returns commits runId afterOffset ↔
      ∀ event ∈ appended commits runId afterOffset, event.schemaVersion = "1" := by
  have hload := load_inMemory h runId afterOffset
  have hrelated : List.Forall₂ (fun event back : RuntimeEvent =>
      back = { event with schemaVersion := "1" }) (appended commits runId afterOffset)
      ((appended commits runId afterOffset).map fun event =>
        { event with schemaVersion := "1" }) := by
    rw [List.forall₂_map_right_iff, List.forall₂_same]
    exact fun _ _ => rfl
  rw [← forall₂_iff_forall_mem (S := SameEvent) _ hrelated]
  · constructor
    · rintro ⟨events, hevents, hsame⟩
      obtain rfl := Except.ok.inj (hload.symm.trans hevents)
      exact hsame
    · exact fun hsame => ⟨_, hload, hsame⟩
  · rintro event _ rfl
    exact sameEvent_schemaVersion_iff event

theorem returns_ofCodec_iff (codec : EventCodec)
    (hlives : ∀ commit ∈ commits, ∀ event ∈ commit.events, Survives event.payloadJson)
    (runId : String) (afterOffset : Int) :
    (EventLogBackend.ofCodec codec).Returns commits runId afterOffset ↔
      Succeeds (PyValue.integerColumn afterOffset) ∧
        ∀ event ∈ appended commits runId afterOffset, event.schemaVersion = "1" ∧
          codec.optionalText event.idempotencyKey = event.idempotencyKey ∧
            codec.optionalText event.payloadRef = event.payloadRef := by
  have hholds := ((holds_empty codec).run hlives).2
  rw [nil_append] at hholds
  by_cases hfits : Succeeds (PyValue.integerColumn afterOffset)
  · obtain ⟨events, hload, hback⟩ := hholds.load runId hfits
    rw [← forall₂_iff_forall_mem sameEvent_iff_of_givesBack hback]
    constructor
    · rintro ⟨others, hothers, hsame⟩
      obtain rfl := Except.ok.inj (hload.symm.trans hothers)
      exact ⟨hfits, hsame⟩
    · exact fun hsame => ⟨events, hload, hsame.2⟩
  · refine iff_of_false ?_ fun h => hfits h.1
    rintro ⟨events, hload, _⟩
    have hsucceeds : Succeeds ((PyValue.integerColumn afterOffset).map _) := ⟨events, hload⟩
    exact hfits (succeeds_map_iff.mp hsucceeds)

theorem raised_ofCodec (codec : EventCodec)
    (hlives : ∀ commit ∈ commits, ∀ event ∈ commit.events, Survives event.payloadJson) :
    (EventLogBackend.ofCodec codec).raised commits = EventLogBackend.inMemory.raised commits := by
  refine ((holds_empty codec).run hlives).1.trans ?_
  have hinMemory : ∀ (commits : List ActionCommit) (log : InMemoryEventLog),
      commits.map (fun commit =>
        if commit.events.isEmpty then some Raised.valueError else none) =
          EventLogBackend.inMemory.raisedFrom log commits := by
    intro commits
    induction commits with
    | nil => exact fun _ => rfl
    | cons commit rest ih =>
      intro log
      rw [map_cons, ih, ← exception_inMemory commit log]
      rfl
  exact hinMemory commits _

theorem orNone_eq_self_iff (text : Option String) :
    SharedConnectionEventLog.orNone text = text ↔ text ≠ some "" := by
  cases text with
  | none => exact iff_of_true rfl nofun
  | some value =>
    unfold SharedConnectionEventLog.orNone
    dsimp only
    split
    · rename_i hempty
      exact iff_of_false nofun fun h => h (congrArg some hempty)
    · rename_i hne
      exact iff_of_true rfl fun h => hne (Option.some.inj h)

theorem asOptionalStr_eq_self (text : Option String) :
    SQLiteEventLog.asOptionalStr text = text := by
  cases text <;> rfl

/-- Nothing of an event is lost. -/
structure RuntimeEvent.Lasting (event : RuntimeEvent) : Prop where
  schemaVersion : event.schemaVersion = "1"
  idempotencyKey : event.idempotencyKey ≠ some ""
  payloadRef : event.payloadRef ≠ some ""

/-- What is loaded is what was appended exactly when the offset fits a column and every
event is of the first schema version and without an empty text. -/
theorem appendThenLoad_iff
    (hlives : ∀ commit ∈ commits, ∀ event ∈ commit.events, Survives event.payloadJson)
    (hkept : NothingEvicted commits) (runId : String) (afterOffset : Int) :
    AppendThenLoad commits runId afterOffset ↔ Succeeds (PyValue.integerColumn afterOffset) ∧
        ∀ event ∈ appended commits runId afterOffset, event.Lasting := by
  have hmemory := returns_inMemory_iff hkept runId afterOffset
  have hsqlite := returns_ofCodec_iff SQLiteEventLog.codec hlives runId afterOffset
  have hcolocated :=
    returns_ofCodec_iff SharedConnectionEventLog.codec hlives runId afterOffset
  constructor
  · intro h
    obtain ⟨hfits, hback⟩ := hcolocated.mp h.colocated
    refine ⟨hfits, fun event hevent => ?_⟩
    obtain ⟨hversion, hkey, href⟩ := hback event hevent
    exact ⟨hversion, (orNone_eq_self_iff _).mp hkey, (orNone_eq_self_iff _).mp href⟩
  · rintro ⟨hfits, hlasting⟩
    refine ⟨?_, ?_, ?_, raised_ofCodec _ hlives, raised_ofCodec _ hlives⟩
    · exact hmemory.mpr fun event hevent => (hlasting event hevent).schemaVersion
    · exact hsqlite.mpr ⟨hfits, fun event hevent =>
        ⟨(hlasting event hevent).schemaVersion, asOptionalStr_eq_self _, asOptionalStr_eq_self _⟩⟩
    · exact hcolocated.mpr ⟨hfits, fun event hevent =>
        ⟨(hlasting event hevent).schemaVersion,
          (orNone_eq_self_iff _).mpr (hlasting event hevent).idempotencyKey,
          (orNone_eq_self_iff _).mpr (hlasting event hevent).payloadRef⟩⟩

/-- Three commits to two runs. -/
def interleaved : List ActionCommit :=
  let event := RuntimeEvent.plain "run.ready" .authoritativeFact
  [⟨"run-1", "commit-1", [{ event with payloadJson := some [("note", .str "a")] }, event], "",
      none⟩,
    ⟨"run-2", "commit-2", [event], "", none⟩,
    ⟨"run-1", "commit-3", [{ event with idempotencyKey := some "key" }], "", none⟩]

theorem survives_interleaved :
    ∀ commit ∈ interleaved, ∀ event ∈ commit.events, Survives event.payloadJson := by
  have hnone : Survives none := fun _ => ⟨none, rfl, trivial⟩
  have hnote : Survives (some [("note", .str "a")]) := by
    intro sortKeys
    cases sortKeys <;> exact ⟨_, rfl, .inl rfl⟩
  simp only [interleaved, forall_mem_cons, RuntimeEvent.plain]
  exact ⟨⟨hnote, hnone, forall_mem_nil _⟩, ⟨hnone, forall_mem_nil _⟩,
    ⟨hnone, forall_mem_nil _⟩, forall_mem_nil _⟩

theorem appendThenLoad_interleaved : AppendThenLoad interleaved "run-1" 1 := by
  refine (appendThenLoad_iff survives_interleaved (by decide) "run-1" 1).mpr
    ⟨by decide, fun event hevent => ?_⟩
  have hall : ∀ event ∈ appended interleaved "run-1" 1, event.schemaVersion = "1" ∧
      event.idempotencyKey ≠ some "" ∧ event.payloadRef ≠ some "" := by decide
  obtain ⟨hversion, hkey, href⟩ := hall event hevent
  exact ⟨hversion, hkey, href⟩

/-- An event of the second schema version comes back as one of the first. -/
theorem not_appendThenLoad_version :
    ¬ ∀ (commits : List ActionCommit) (runId : String) (afterOffset : Int),
      (∀ commit ∈ commits, ∀ event ∈ commit.events, Survives event.payloadJson) →
        NothingEvicted commits → AppendThenLoad commits runId afterOffset := by
  intro h
  let event := { RuntimeEvent.plain "run.ready" .authoritativeFact with schemaVersion := "2" }
  have hload := h [⟨"run-1", "commit-1", [event], "", none⟩] "run-1" 0
    (forall_mem_singleton.mpr (forall_mem_singleton.mpr
      fun _ => ⟨none, rfl, trivial⟩)) (by decide)
  obtain ⟨events, hevents, hsame⟩ := hload.inMemory
  obtain rfl := Except.ok.inj hevents
  have hversion := congrArg RuntimeEvent.schemaVersion (List.forall₂_cons.mp hsame).1.1
  revert hversion
  decide

end Returns

end HiAgent.Kernel
