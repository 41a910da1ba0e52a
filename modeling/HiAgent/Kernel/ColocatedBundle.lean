/-
  Kernel/ColocatedBundle.lean --- a reservation and a commit in one transaction.

  `ColocatedSQLiteBundle.atomic_dispatch_record` of
  `agent_kernel/kernel/persistence/sqlite_colocated_bundle.py`, statement by statement. A fault
  may make any of them raise, before or after its effect.
-/
import HiAgent.Kernel.DedupeStore.Backends
import HiAgent.Kernel.EventLog.RoundTrip

namespace HiAgent.Kernel

open Foundation

/-! ## The tables -/

/-- A row of `colocated_action_commits`. -/
structure CommitRow where
  commitSequence : Nat
  streamRunId : String
  commitId : String
  createdAt : String
  eventCount : Nat

/-- The tables of the bundle. -/
structure BundleTables where
  /-- `colocated_dedupe_store`. -/
  dedupe : DedupeStore
  /-- `colocated_action_commits`, in insertion order. -/
  commits : List CommitRow
  /-- `colocated_runtime_events`, and the last `commit_sequence` given out. -/
  events : EventTables

def BundleTables.empty : BundleTables := ⟨.empty, [], .empty⟩

/-- What a call of the bundle raises. -/
inductive BundleError where
  /-- An exception of the call itself. -/
  | raised (error : Raised)
  /-- An exception that befalls a statement. -/
  | failed (error : String)
  /-- A `BaseException` that is no `Exception`. -/
  | interrupted

/-- The exception is an `Exception`. -/
def BundleError.isException : BundleError → Bool
  | interrupted => false
  | _ => true

abbrev BundleSession (α : Type) := Session BundleError BundleTables α

/-- What befalls the statements of a call. -/
structure DispatchFaults where
  begin_ : Fault BundleError
  select : Fault BundleError
  /-- The `ROLLBACK` where the key is taken. -/
  duplicate : Fault BundleError
  reserve : Fault BundleError
  nextOffset : Fault BundleError
  commitRow : Fault BundleError
  /-- The `INSERT` of the event with an index. -/
  event : Nat → Fault BundleError
  commit : Fault BundleError
  /-- The `ROLLBACK` of the `except` clause. -/
  rollback : Fault BundleError

/-! ## Statements -/

namespace ColocatedBundle

/-- `BEGIN` inside a transaction, or its end outside of one. -/
def misuse : BundleError := .raised .operationalError

def onTables {α : Type} (f : BundleTables → Except Raised (α × BundleTables))
    (tables : BundleTables) : Except BundleError (α × BundleTables) :=
  (f tables).mapError .raised

def get (key : String) (tables : BundleTables) :
    Except Raised (Option DedupeRecord × BundleTables) :=
  .ok (tables.dedupe.lookup key, tables)

/-- The `INSERT` into `colocated_dedupe_store`. -/
def insertReservation (envelope : IdempotencyEnvelope) (tables : BundleTables) :
    Except Raised (Unit × BundleTables) :=
  (PyValue.integerColumn envelope.attemptSeq).bind fun _ =>
    if tables.dedupe.Taken envelope.dispatchIdempotencyKey then .error .integrityError
    else .ok ((), { tables with
      dedupe := tables.dedupe.insertOrReplace
        (.of envelope .reserved envelope.peerOperationId) })

def nextOffset (runId : String) (tables : BundleTables) : Except Raised (Int × BundleTables) :=
  .ok (tables.events.maxOffset runId + 1, tables)

def insertCommitRow (commit : ActionCommit) (tables : BundleTables) :
    Except Raised (Nat × BundleTables) :=
  let sequence := tables.events.commitSequence + 1
  .ok (sequence, { tables with
    commits := tables.commits ++
      [⟨sequence, commit.runId, commit.commitId, commit.createdAt, commit.events.length⟩]
    events := { tables.events with commitSequence := sequence } })

/-- The `INSERT` of one event. -/
def insertEventRow (runId : String) (sequence : Nat) (startOffset : Int) (index : Nat)
    (event : RuntimeEvent) (tables : BundleTables) : Except Raised (Unit × BundleTables) :=
  (rereadPayload SharedConnectionEventLog.codec.sortKeys event.payloadJson).bind fun payload =>
    (PyValue.integerColumn (startOffset + index)).bind fun _ =>
      (tables.events.insert (.of event sequence index runId (startOffset + index) payload)).map
        fun events => ((), { tables with events := events })

/-- `_insert_event_rows`, from an index on. -/
def insertEventRows (faults : Nat → Fault BundleError) (runId : String) (sequence : Nat)
    (startOffset : Int) : Nat → List RuntimeEvent → BundleSession Unit
  | _, [] => pure ()
  | index, event :: rest => do
      (faults index).perform
        (Session.statement (onTables (insertEventRow runId sequence startOffset index event)))
      insertEventRows faults runId sequence startOffset (index + 1) rest

/-- The part of `atomic_dispatch_record` inside the `try`. -/
def recordBody (faults : DispatchFaults) (commit : ActionCommit)
    (envelope : IdempotencyEnvelope) : BundleSession (String × DedupeReservation) := do
  match ← faults.select.perform
      (Session.statement (onTables (get envelope.dispatchIdempotencyKey))) with
  | some existing =>
    faults.duplicate.perform (Session.rollback misuse)
    return ("", .duplicate existing)
  | none =>
    faults.reserve.perform (Session.statement (onTables (insertReservation envelope)))
    let start ← faults.nextOffset.perform
      (Session.statement (onTables (nextOffset commit.runId)))
    let sequence ← faults.commitRow.perform
      (Session.statement (onTables (insertCommitRow commit)))
    insertEventRows faults.event commit.runId sequence start 0 commit.events
    faults.commit.perform (Session.commit misuse)
    return ("commit-ref-" ++ toString sequence, .accepted)

def atomicDispatchRecord (faults : DispatchFaults) (commit : ActionCommit)
    (envelope : IdempotencyEnvelope) : BundleSession (String × DedupeReservation) :=
  if commit.events.isEmpty then throw (.raised .valueError)
  else do
    faults.begin_.perform (Session.start misuse)
    tryCatch (recordBody faults commit envelope) fun error => do
      if error.isException then
        faults.rollback.perform (Session.rollback misuse)
      throw error

end ColocatedBundle

open List

/-! ## What a call records -/

/-- The row of an event of a run, with its sequence and index whatever they are. -/
def IsRowOf (runId : String) (event : RuntimeEvent) (offset : Int) (row : EventRow) : Prop :=
  ∃ payload, rereadPayload SharedConnectionEventLog.codec.sortKeys event.payloadJson = .ok payload ∧
    row = .of event row.commitSequence row.eventIndex runId offset payload

/-- The tables after a call have the key, the commit and its events at the next offsets. -/
structure Recorded (commit : ActionCommit) (envelope : IdempotencyEnvelope)
    (before after : BundleTables) : Prop where
  free : ¬ before.dedupe.Taken envelope.dispatchIdempotencyKey
  dedupe : after.dedupe = before.dedupe.insertOrReplace
    (.of envelope .reserved envelope.peerOperationId)
  commits : after.commits = before.commits ++
    [⟨before.events.commitSequence + 1, commit.runId, commit.commitId, commit.createdAt,
      commit.events.length⟩]
  events : ∃ rows, after.events = ⟨before.events.rows ++ rows, before.events.commitSequence + 1⟩ ∧
    List.Forall₂ (fun event row => IsRowOf commit.runId event.1
        (before.events.maxOffset commit.runId + 1 + (event.2 : Nat)) row ∧
        row.commitSequence = before.events.commitSequence + 1 ∧ row.eventIndex = event.2)
      commit.events.zipIdx rows

def AllOrNothing (commit : ActionCommit) (envelope : IdempotencyEnvelope)
    (before after : BundleTables) : Prop :=
  after = before ∨ Recorded commit envelope before after

namespace ColocatedBundle

open Session

section Call

variable {faults : DispatchFaults} {commit : ActionCommit} {envelope : IdempotencyEnvelope}
  {before : BundleTables}

theorem onTables_eq_ok {α : Type} {f : BundleTables → Except Raised (α × BundleTables)}
    {tables : BundleTables} {outcome : α × BundleTables} :
    onTables f tables = .ok outcome ↔ f tables = .ok outcome :=
  mapError_eq_ok_iff

def withRows (tables : BundleTables) (rows : List EventRow) : BundleTables :=
  { tables with events := { tables.events with rows := tables.events.rows ++ rows } }

def RowsOf (runId : String) (sequence : Nat) (start : Int)
    (events : List (RuntimeEvent × Nat)) (rows : List EventRow) : Prop :=
  List.Forall₂ (fun event row => IsRowOf runId event.1 (start + (event.2 : Nat)) row ∧
    row.commitSequence = sequence ∧ row.eventIndex = event.2) events rows

theorem insertEventRow_eq_ok {runId : String} {sequence : Nat} {start : Int} {index : Nat}
    {event : RuntimeEvent} {tables after : BundleTables} {result : Unit}
    (h : insertEventRow runId sequence start index event tables = .ok (result, after)) :
    ∃ row, after = withRows tables [row] ∧ IsRowOf runId event (start + index) row ∧
      row.commitSequence = sequence ∧ row.eventIndex = index := by
  rw [insertEventRow, bind_eq_ok_iff] at h
  obtain ⟨payload, hpayload, h⟩ := h
  rw [bind_eq_ok_iff] at h
  obtain ⟨-, -, h⟩ := h
  rw [map_eq_ok_iff] at h
  obtain ⟨events, hinsert, hafter⟩ := h
  unfold EventTables.insert at hinsert
  split at hinsert
  next => cases hinsert
  next =>
    obtain rfl := Except.ok.inj hinsert
    rw [Prod.mk.injEq] at hafter
    exact ⟨_, hafter.2.symm, ⟨payload, hpayload, rfl⟩, rfl, rfl⟩

def Written (runId : String) (sequence : Nat) (start : Int) (base : BundleTables)
    (done : List RuntimeEvent) (tables : BundleTables) : Prop :=
  ∃ rows, tables = withRows base rows ∧ RowsOf runId sequence start done.zipIdx rows

theorem written_nil {runId : String} {sequence : Nat} {start : Int}
    {base tables : BundleTables} (h : tables = base) :
    Written runId sequence start base [] tables := by
  refine ⟨[], ?_, .nil⟩
  rw [h, withRows, append_nil]

theorem ends_insertEventRows {runId : String} {sequence : Nat} {start : Int}
    {base : BundleTables} (done rest : List RuntimeEvent) :
    Ends (Open before (Written runId sequence start base done))
      (insertEventRows faults.event runId sequence start done.length rest)
      (fun _ => Open before (Written runId sequence start base (done ++ rest)))
      (Shows (· = before)) := by
  induction rest generalizing done with
  | nil =>
    rw [append_nil]
    exact ends_pure fun _ hopen => hopen
  | cons event rest ih =>
    have hinsert : ∀ tables (result : Unit) after, Written runId sequence start base done tables →
        onTables (insertEventRow runId sequence start done.length event) tables =
          .ok (result, after) →
        Written runId sequence start base (done ++ [event]) after := by
      rintro tables result after ⟨rows, rfl, hrows⟩ hinsert
      obtain ⟨row, rfl, hrow⟩ := insertEventRow_eq_ok (onTables_eq_ok.mp hinsert)
      refine ⟨rows ++ [row], ?_, ?_⟩
      · simp only [withRows, append_assoc]
      · rw [zipIdx_append, RowsOf]
        apply rel_append hrows
        rw [Nat.zero_add]
        exact .cons hrow .nil
    have hnext := ih (done ++ [event])
    rw [length_append] at hnext
    rw [insertEventRows, append_cons]
    exact (ends_open_perform (faults.event done.length) hinsert).bind fun _ => hnext

def withReservation (tables : BundleTables) (envelope : IdempotencyEnvelope) : BundleTables :=
  { tables with
    dedupe := tables.dedupe.insertOrReplace
      (.of envelope .reserved envelope.peerOperationId) }

/-- The tables with the row of a commit. -/
def withCommit (tables : BundleTables) (commit : ActionCommit) : BundleTables :=
  { tables with
    commits := tables.commits ++ [⟨tables.events.commitSequence + 1, commit.runId,
      commit.commitId, commit.createdAt, commit.events.length⟩]
    events := { tables.events with commitSequence := tables.events.commitSequence + 1 } }

theorem insertReservation_eq_ok {tables after : BundleTables} {result : Unit}
    (h : insertReservation envelope tables = .ok (result, after)) :
    after = withReservation tables envelope := by
  rw [insertReservation, bind_eq_ok_iff] at h
  obtain ⟨-, -, h⟩ := h
  split at h
  next => cases h
  next =>
    cases h
    rfl

/-- What the part inside the `try` shows when it returns. -/
def Answered (commit : ActionCommit) (envelope : IdempotencyEnvelope) (before : BundleTables)
    (answer : String × DedupeReservation) (after : BundleTables) : Prop :=
  match answer.2 with
  | .accepted => Recorded commit envelope before after
  | .duplicate existing => after = before ∧
      before.dedupe.lookup envelope.dispatchIdempotencyKey = some existing

theorem ends_recordBody : Ends (Open before (· = before)) (recordBody faults commit envelope)
      (fun answer => Shows (Answered commit envelope before answer))
      (Shows (AllOrNothing commit envelope before)) := by
  have hnothing : ∀ connection : Connection BundleTables, Shows (· = before) connection →
      Shows (AllOrNothing commit envelope before) connection := fun _ hshows => .inl hshows
  have hselect : ∀ (tables : BundleTables) result after, tables = before →
      onTables (get envelope.dispatchIdempotencyKey) tables = .ok (result, after) →
      result = before.dedupe.lookup envelope.dispatchIdempotencyKey ∧ after = before := by
    rintro tables result after rfl hget
    rw [onTables_eq_ok, get] at hget
    cases hget
    exact ⟨rfl, rfl⟩
  rw [recordBody]
  refine ((ends_open_perform faults.select hselect).mono (fun _ h => h) (fun _ _ h => h)
    hnothing).bind fun found => ?_
  apply Ends.of_entails (fun connection hopen => hopen.2.1)
  rintro rfl
  cases hfound : before.dedupe.lookup envelope.dispatchIdempotencyKey with
  | some existing =>
    have hundo : Ends (Shows (· = before))
        (faults.duplicate.perform (rollback misuse : BundleSession Unit))
        (fun _ => Shows (· = before)) (Shows (· = before)) :=
      ends_rollback.perform _ (fun _ h => h) (fun _ _ h => h) fun _ h => h
    refine (hundo.mono (fun _ hopen => hopen.shows) (fun _ _ h => h) hnothing).bind
      fun _ => ends_pure fun connection hshows => ⟨hshows, hfound⟩
  | none =>
    have hfree : ¬ before.dedupe.Taken envelope.dispatchIdempotencyKey :=
      DedupeStore.not_taken_iff.mpr hfound
    have hreserve : ∀ (tables : BundleTables) (result : Unit) after, tables = before →
        onTables (insertReservation envelope) tables = .ok (result, after) →
        after = withReservation before envelope := by
      rintro tables result after rfl hinsert
      exact insertReservation_eq_ok (onTables_eq_ok.mp hinsert)
    have hoffset : ∀ (tables : BundleTables) (result : Int) after,
        tables = withReservation before envelope →
        onTables (nextOffset commit.runId) tables = .ok (result, after) →
        result = before.events.maxOffset commit.runId + 1 ∧
          after = withReservation before envelope := by
      rintro tables result after rfl hnext
      cases onTables_eq_ok.mp hnext
      exact ⟨rfl, rfl⟩
    have hrow : ∀ (tables : BundleTables) (result : Nat) after,
        tables = withReservation before envelope →
        onTables (insertCommitRow commit) tables = .ok (result, after) →
        result = before.events.commitSequence + 1 ∧
          after = withCommit (withReservation before envelope) commit := by
      rintro tables result after rfl hinsert
      cases onTables_eq_ok.mp hinsert
      exact ⟨rfl, rfl⟩
    refine ((ends_open_perform faults.reserve (hreserve)).mono
      (fun _ hopen => ⟨hopen.1, hopen.2.2⟩) (fun _ _ h => h) hnothing).bind fun _ => ?_
    refine ((ends_open_perform faults.nextOffset hoffset).mono (fun _ h => h)
      (fun _ _ h => h) hnothing).bind fun start => ?_
    apply Ends.of_entails (fun connection hopen => hopen.2.1)
    rintro rfl
    refine ((ends_open_perform faults.commitRow hrow).mono
      (fun _ hopen => ⟨hopen.1, hopen.2.2⟩) (fun _ _ h => h) hnothing).bind fun sequence => ?_
    apply Ends.of_entails (fun connection hopen => hopen.2.1)
    rintro rfl
    refine ((ends_insertEventRows [] commit.events).mono
      (fun _ hopen => ⟨hopen.1, written_nil hopen.2.2⟩) (fun _ _ h => h) hnothing).bind
        fun _ => ?_
    have hcommit : Ends (Open before (Recorded commit envelope before))
        (faults.commit.perform (Session.commit misuse : BundleSession Unit))
        (fun _ => Shows (Recorded commit envelope before))
        (Shows (AllOrNothing commit envelope before)) :=
      (ends_commit.mono (fun _ h => h) (fun _ _ h => h) hnothing).perform _
        (fun _ hopen => hnothing _ hopen.shows) (fun _ _ hshows => .inr hshows)
        fun _ hopen => hnothing _ hopen.shows
    refine (hcommit.mono (fun connection hopen => ⟨hopen.1, ?_⟩) (fun _ _ h => h)
      (fun _ h => h)).bind fun _ => ends_pure fun _ hshows => hshows
    obtain ⟨rows, hrows, hevents⟩ := hopen.2
    rw [hrows]
    exact ⟨hfree, rfl, rfl, rows, rfl, hevents⟩

theorem ends_handler (error : BundleError)
    {Q : String × DedupeReservation → Connection BundleTables → Prop} :
    Ends (Shows (AllOrNothing commit envelope before)) (do
        if error.isException then
          faults.rollback.perform (rollback misuse)
        throw error : BundleSession (String × DedupeReservation))
      Q (Shows (AllOrNothing commit envelope before)) := by
  have hundo : Ends (Shows (AllOrNothing commit envelope before))
      (faults.rollback.perform (rollback misuse : BundleSession Unit))
      (fun _ => Shows (AllOrNothing commit envelope before))
      (Shows (AllOrNothing commit envelope before)) :=
    ends_rollback.perform _ (fun _ h => h) (fun _ _ h => h) fun _ h => h
  cases error.isException with
  | true => exact hundo.bind fun _ => ends_throw error fun _ h => h
  | false => exact ends_throw error fun _ h => h

theorem ends_atomicDispatchRecord :
    Ends (Shows (· = before)) (atomicDispatchRecord faults commit envelope)
      (fun answer => Shows (Answered commit envelope before answer))
      (Shows (AllOrNothing commit envelope before)) := by
  have hnothing : ∀ connection : Connection BundleTables, Shows (· = before) connection →
      Shows (AllOrNothing commit envelope before) connection := fun _ hshows => .inl hshows
  rw [atomicDispatchRecord]
  split
  next => exact ends_throw _ hnothing
  next =>
    have hbegin : Ends (Shows (· = before))
        (faults.begin_.perform (start misuse : BundleSession Unit))
        (fun _ => Open before (· = before)) (Shows (· = before)) :=
      ends_start.perform _ (fun _ h => h) (fun _ _ hopen => hopen.shows) fun _ h => h
    refine (hbegin.mono (fun _ h => h) (fun _ _ h => h) hnothing).bind fun _ => ?_
    exact ends_recordBody.tryCatch fun error => ends_handler error

end Call

end ColocatedBundle

/-! ## Calls after calls -/

/-- A call, which another process may make on a connection of its own. -/
structure DispatchCall where
  restarted : Bool
  faults : DispatchFaults
  commit : ActionCommit
  envelope : IdempotencyEnvelope

namespace DispatchCall

def key (call : DispatchCall) : String := call.envelope.dispatchIdempotencyKey

/-- The connection the call leaves. -/
def perform (connection : Connection BundleTables) (call : DispatchCall) :
    Connection BundleTables :=
  match (ColocatedBundle.atomicDispatchRecord call.faults call.commit call.envelope).run
      (if call.restarted then .idle connection.committed else connection) with
  | .ok _ after => after
  | .error _ after => after

theorem perform_allOrNothing (connection : Connection BundleTables) (call : DispatchCall) :
    AllOrNothing call.commit call.envelope connection.committed
      (call.perform connection).committed := by
  have hshows : Session.Shows (· = connection.committed)
      (if call.restarted then .idle connection.committed else connection) := by
    split
    · rfl
    · rfl
  have hcall : Session.Ends (Session.Shows (· = connection.committed))
      (ColocatedBundle.atomicDispatchRecord call.faults call.commit call.envelope) _ _ :=
    ColocatedBundle.ends_atomicDispatchRecord
  have hends := hcall _ hshows
  unfold perform
  split at hends
  next answer after hrun =>
    rw [hrun]
    obtain ⟨reference, reservation⟩ := answer
    cases reservation with
    | accepted => exact .inr hends
    | duplicate existing => exact .inl hends.1
  next error after hrun =>
    rw [hrun]
    exact hends

end DispatchCall

/-- The tables hold the keys, the commits and the events of some calls, one call behind the
other: one record for each key, one row for each commit, and the events of every run at
the offsets from 1 on. -/
structure Kept (recorded : List DispatchCall) (tables : BundleTables) : Prop where
  keys : tables.dedupe.rows.map (·.dispatchIdempotencyKey) = recorded.map DispatchCall.key
  commits : List.Forall₂ (fun call row => row.streamRunId = call.commit.runId ∧
      row.commitId = call.commit.commitId ∧ row.createdAt = call.commit.createdAt ∧
      row.eventCount = call.commit.events.length) recorded tables.commits
  events : ∀ runId, List.Forall₂ (fun event row => IsRowOf runId event.1 (event.2 : Nat) row)
    ((eventsOf runId (recorded.map (·.commit))).zipIdx 1) (tables.events.rowsOf runId)

section Kept

variable {recorded : List DispatchCall} {tables after : BundleTables} {call : DispatchCall}

theorem kept_empty : Kept [] .empty := ⟨rfl, .nil, fun _ => .nil⟩

theorem numbers_zipIdx (events : List RuntimeEvent) :
    ((events.zipIdx 1).map fun event => ((event.2 : Nat) : Int)) =
      (List.range events.length).map fun index : Nat => (1 : Int) + index := by
  have hnumbers : ((events.zipIdx 1).map fun event => ((event.2 : Nat) : Int)) =
      ((events.zipIdx 1).map Prod.snd).map Nat.cast := map_map.symm
  rw [hnumbers, zipIdx_map_snd, range'_eq_map_range, map_map]
  refine map_congr_left fun index _ => ?_
  simp

theorem Kept.maxOffset (h : Kept recorded tables) (runId : String) :
    tables.events.maxOffset runId = (eventsOf runId (recorded.map (·.commit))).length := by
  have hoffsets : (tables.events.rowsOf runId).map (·.commitOffset) =
      (List.range (eventsOf runId (recorded.map (·.commit))).length).map
        fun index : Nat => (1 : Int) + index := by
    have hsame : ∀ (event : RuntimeEvent × Nat) row,
        IsRowOf runId event.1 (event.2 : Nat) row → ((event.2 : Nat) : Int) = row.commitOffset := by
      rintro event row ⟨payload, -, hrow⟩
      rw [hrow]
      rfl
    rw [← map_eq_of_forall₂ hsame (h.events runId)]
    exact numbers_zipIdx _
  rw [EventTables.maxOffset, hoffsets, max_offsets]

theorem Kept.record (h : Kept recorded tables)
    (hnoted : Recorded call.commit call.envelope tables after) :
    Kept (recorded ++ [call]) after := by
  obtain ⟨rows, hevents, hrows⟩ := hnoted.events
  have hnone : tables.dedupe.lookup call.envelope.dispatchIdempotencyKey = none :=
    DedupeStore.not_taken_iff.mp hnoted.free
  refine ⟨?_, ?_, fun runId => ?_⟩
  · rw [hnoted.dedupe, Table.rows_insertOrReplace hnone, map_append, h.keys, map_append]
    rfl
  · rw [hnoted.commits]
    exact rel_append h.commits (.cons ⟨rfl, rfl, rfl, rfl⟩ .nil)
  · have hstream : ∀ row ∈ rows, row.streamRunId = call.commit.runId := by
      have hsame := map_eq_of_forall₂ (f := fun _ => call.commit.runId)
        (g := EventRow.streamRunId) (fun event row hrow => by rw [hrow.1.choose_spec.2]; rfl)
        hrows
      intro row hrow
      have hmem := mem_map_of_mem (f := EventRow.streamRunId) hrow
      rw [← hsame] at hmem
      obtain ⟨event, -, hevent⟩ := mem_map.mp hmem
      exact hevent.symm
    rw [EventTables.rowsOf, hevents, filter_append, map_append, eventsOf_append, zipIdx_append]
    refine rel_append (h.events runId) ?_
    rw [map_singleton, eventsOf_singleton]
    by_cases hrun : call.commit.runId = runId
    · have hall : rows.filter (·.streamRunId == runId) = rows :=
        filter_eq_self.mpr fun row hrow => by simp [hstream row hrow, hrun]
      rw [hall, if_pos hrun, zipIdx_eq_map_add, List.forall₂_map_left_iff]
      refine hrows.imp fun event row hevent => ?_
      have hoffset : tables.events.maxOffset call.commit.runId + 1 + ((event.2 : Nat) : Int) =
          ((1 + (eventsOf runId (recorded.map (·.commit))).length + event.2 : Nat) : Int) := by
        rw [hrun, h.maxOffset]
        push_cast
        omega
      have hrow := hevent.1
      rwa [hoffset, hrun] at hrow
    · have hnone : rows.filter (·.streamRunId == runId) = [] :=
        filter_eq_nil_iff.mpr fun row hrow => by simp [hstream row hrow, hrun]
      rw [hnone, if_neg hrun]
      exact .nil

theorem Kept.exec {connection : Connection BundleTables}
    (h : Kept recorded connection.committed) (calls : List DispatchCall) :
    ∃ more, more.Sublist calls ∧
      Kept (recorded ++ more) (exec DispatchCall.perform connection calls).committed := by
  induction calls generalizing recorded connection with
  | nil =>
    refine ⟨[], .slnil, ?_⟩
    rwa [append_nil]
  | cons call calls ih =>
    rw [exec_cons]
    rcases call.perform_allOrNothing connection with hsame | hnoted
    · obtain ⟨more, hmore, hkept⟩ := ih (hsame ▸ h)
      exact ⟨more, hmore.cons call, hkept⟩
    · obtain ⟨more, hmore, hkept⟩ := ih (h.record hnoted)
      refine ⟨call :: more, hmore.cons_cons call, ?_⟩
      rwa [append_assoc] at hkept

theorem Kept.nodup (h : Kept recorded tables) : (recorded.map DispatchCall.key).Nodup :=
  h.keys ▸ tables.dedupe.keysNodup

theorem Kept.taken_iff (h : Kept recorded tables) (key : String) :
    tables.dedupe.Taken key ↔ ∃ call ∈ recorded, call.key = key := by
  have hrow : tables.dedupe.Taken key ↔
      key ∈ tables.dedupe.rows.map (·.dispatchIdempotencyKey) := by
    rw [DedupeStore.taken_iff, mem_map]
    simp only [Table.lookup_eq_some_iff]
  rw [hrow, h.keys, mem_map]

end Kept

/-- Whatever befalls its statements, a call that is accepted has recorded its dispatch, a
call that finds its key taken has changed nothing, and one that raises has done all or
nothing. After any calls the tables hold the dispatches of some of them, one record for
each key, one row for each commit, and its events at consecutive offsets. -/
theorem atomicDispatchRecord_allOrNothing :
    (∀ (faults : DispatchFaults) (commit : ActionCommit) (envelope : IdempotencyEnvelope)
        (before : BundleTables),
      Session.Ends (Session.Shows (· = before))
        (ColocatedBundle.atomicDispatchRecord faults commit envelope)
        (fun answer => Session.Shows (ColocatedBundle.Answered commit envelope before answer))
        (Session.Shows (AllOrNothing commit envelope before))) ∧
    ∀ calls : List DispatchCall, ∃ recorded, recorded.Sublist calls ∧
      (recorded.map DispatchCall.key).Nodup ∧
      (∀ key, (exec DispatchCall.perform (.idle .empty) calls).committed.dedupe.Taken key ↔
        ∃ call ∈ recorded, call.key = key) ∧
      Kept recorded (exec DispatchCall.perform (.idle .empty) calls).committed := by
  constructor
  · intro faults commit envelope before
    exact ColocatedBundle.ends_atomicDispatchRecord
  · intro calls
    have hempty : Kept [] (Connection.idle BundleTables.empty).committed := kept_empty
    obtain ⟨recorded, hsublist, hkept⟩ := hempty.exec calls
    rw [nil_append] at hkept
    exact ⟨recorded, hsublist, hkept.nodup, hkept.taken_iff, hkept⟩

end HiAgent.Kernel
