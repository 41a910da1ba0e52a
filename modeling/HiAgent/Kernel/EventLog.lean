/-
  Kernel/EventLog.lean --- the runtime event log of one process.

  `InMemoryKernelRuntimeEventLog` of `agent_kernel/kernel/minimal_runtime.py`, over the contracts
  `RuntimeEvent` and `ActionCommit`. The log numbers the events of a run from 1 on, whatever
  offset they come with. It keeps the events and the number that comes next of
  `_MAX_RETAINED_RUNS` runs.
-/
import HiAgent.Kernel.DispatchPolicy

namespace HiAgent.Kernel

open Foundation List

/-! ## Events -/

inductive EventClass where
  | fact
  | derived

inductive EventAuthority where
  | authoritativeFact
  | derivedReplayable
  | derivedDiagnostic
  deriving DecidableEq

inductive WakePolicy where
  | wakeActor
  | projectionOnly

structure RuntimeEvent where
  runId : String
  eventId : String
  commitOffset : Int
  eventType : String
  eventClass : EventClass
  eventAuthority : EventAuthority
  orderingKey : String
  wakePolicy : WakePolicy
  createdAt : String
  idempotencyKey : Option String
  payloadRef : Option String
  payloadJson : Option PyDict
  schemaVersion : String

/-- An event with nothing but a type and an authority. -/
def RuntimeEvent.plain (eventType : String) (eventAuthority : EventAuthority) : RuntimeEvent where
  runId := "r"
  eventId := "e"
  commitOffset := 0
  eventType := eventType
  eventClass := .fact
  eventAuthority := eventAuthority
  orderingKey := "r"
  wakePolicy := .wakeActor
  createdAt := ""
  idempotencyKey := none
  payloadRef := none
  payloadJson := none
  schemaVersion := "1"

/-- `ActionCommit`, without `caused_by`. -/
structure ActionCommit where
  runId : String
  commitId : String
  events : List RuntimeEvent
  createdAt : String
  action : Option Action

/-- The copy the log keeps of an event: the constructor is not given a
`schema_version`. -/
def RuntimeEvent.normalized (event : RuntimeEvent) (offset : Int) : RuntimeEvent :=
  { event with commitOffset := offset, schemaVersion := "1" }

def numbered (offset : Int) : List RuntimeEvent → List RuntimeEvent
  | [] => []
  | event :: rest => event.normalized offset :: numbered (offset + 1) rest

theorem length_numbered (offset : Int) (events : List RuntimeEvent) :
    (numbered offset events).length = events.length := by
  induction events generalizing offset with
  | nil => rfl
  | cons event rest ih => exact congrArg (· + 1) (ih (offset + 1))

theorem numbered_append (offset : Int) (events more : List RuntimeEvent) :
    numbered offset (events ++ more) =
      numbered offset events ++ numbered (offset + events.length) more := by
  induction events generalizing offset with
  | nil => simp [numbered]
  | cons event rest ih =>
    rw [cons_append, numbered, ih, numbered, cons_append, length_cons]
    congr 3
    push_cast
    omega

theorem offset_mem_numbered {offset : Int} {events : List RuntimeEvent}
    {event : RuntimeEvent} (h : event ∈ numbered offset events) :
    offset ≤ event.commitOffset ∧ event.commitOffset < offset + events.length := by
  induction events generalizing offset with
  | nil => cases h
  | cons first rest ih =>
    rw [length_cons]
    rcases mem_cons.mp h with rfl | hrest
    · change offset ≤ offset ∧ offset < _
      omega
    · have hle := ih hrest
      omega

/-! ## The log -/

def maxRetainedRuns : Nat := 5000

/-- What the log keeps of a run: its entries of `_events_by_run` and of
`_next_offset_by_run`, which come and go together. -/
structure RunHistory where
  runId : String
  events : List RuntimeEvent
  nextOffset : Int

/-- `InMemoryKernelRuntimeEventLog`, the runs oldest first. -/
structure InMemoryEventLog where
  runs : Table RunHistory.runId
  commitSequence : Nat

def RunHistory.fresh (runId : String) : RunHistory := ⟨runId, [], 1⟩

def RunHistory.extended (history : RunHistory) (events : List RuntimeEvent) : RunHistory where
  runId := history.runId
  events := history.events ++ numbered history.nextOffset events
  nextOffset := history.nextOffset + events.length

theorem RunHistory.extended_nil (history : RunHistory) : history.extended [] = history := by
  simp [RunHistory.extended, numbered]

namespace InMemoryEventLog

def empty : InMemoryEventLog := ⟨.empty, 0⟩

def history (log : InMemoryEventLog) (runId : String) : RunHistory :=
  (log.runs.lookup runId).getD (.fresh runId)

def Retains (log : InMemoryEventLog) (runId : String) : Prop :=
  (log.runs.lookup runId).isSome = true

instance (log : InMemoryEventLog) (runId : String) : Decidable (log.Retains runId) :=
  inferInstanceAs (Decidable (_ = true))

/-- The runs after a commit, a new one behind the others. -/
def committed (log : InMemoryEventLog) (commit : ActionCommit) : Table RunHistory.runId :=
  if log.Retains commit.runId then
    log.runs.updateAt commit.runId (fun _ => true)
      ⟨(·.extended commit.events), fun _ => rfl⟩
  else log.runs.insertOrReplace ((RunHistory.fresh commit.runId).extended commit.events)

def oldest (runs : Table RunHistory.runId) : Option String :=
  if maxRetainedRuns < runs.rows.length then runs.rows.head?.map RunHistory.runId else none

def evicted (runs : Table RunHistory.runId) : Table RunHistory.runId :=
  match oldest runs with
  | some runId => runs.deleteAt runId fun _ => true
  | none => runs

/-- `append_action_commit`: its commit reference, or `ValueError`. -/
def appendActionCommit (commit : ActionCommit) (log : InMemoryEventLog) :
    Except Raised String × InMemoryEventLog :=
  if commit.events.isEmpty then (.error .valueError, log)
  else
    (.ok ("commit-ref-" ++ toString (log.commitSequence + 1)),
      { runs := evicted (log.committed commit)
        commitSequence := log.commitSequence + 1 })

def load (log : InMemoryEventLog) (runId : String) (afterOffset : Int) : List RuntimeEvent :=
  (log.history runId).events.filter fun event => event.commitOffset > afterOffset

def cleanupCompletedRun (runId : String) (log : InMemoryEventLog) : InMemoryEventLog :=
  { log with runs := log.runs.deleteAt runId fun _ => true }

/-! ## One commit -/

variable {log : InMemoryEventLog} {commit : ActionCommit} {runId : String}

def evicts (log : InMemoryEventLog) (commit : ActionCommit) : Option String :=
  if commit.events.isEmpty then none else oldest (log.committed commit)

theorem history_of_lookup {history : RunHistory}
    (h : log.runs.lookup runId = some history) : log.history runId = history := by
  rw [InMemoryEventLog.history, h]
  rfl

theorem history_of_not_retains (h : ¬ log.Retains runId) : log.history runId = .fresh runId := by
  have hnone : log.runs.lookup runId = none := by simpa [Retains] using h
  rw [history, hnone]
  rfl

theorem lookup_committed (log : InMemoryEventLog) (commit : ActionCommit) (runId : String) :
    (log.committed commit).lookup runId =
      if runId = commit.runId then some ((log.history commit.runId).extended commit.events)
      else log.runs.lookup runId := by
  unfold committed
  by_cases hretains : log.Retains commit.runId
  · obtain ⟨history, hhistory⟩ := Option.isSome_iff_exists.mp hretains
    rw [if_pos hretains, Table.lookup_updateAt, history_of_lookup hhistory, hhistory]
    simp
  · rw [if_neg hretains, Table.lookup_insertOrReplace, history_of_not_retains hretains]
    rfl

theorem lookup_evicted (runs : Table RunHistory.runId) (runId : String) :
    (evicted runs).lookup runId = if oldest runs = some runId then none else runs.lookup runId := by
  unfold evicted
  cases holdest : oldest runs with
  | none => rw [if_neg nofun]
  | some first =>
    dsimp only
    rw [Table.lookup_deleteAt]
    by_cases hrun : runId = first
    · rw [if_pos hrun, if_pos (congrArg some hrun.symm)]
      cases runs.lookup first <;> rfl
    · rw [if_neg hrun, if_neg fun h => hrun (Option.some.inj h).symm]

/-- A commit extends its run, and may evict another. -/
theorem history_appendActionCommit (log : InMemoryEventLog) (commit : ActionCommit)
    (runId : String) : (log.appendActionCommit commit).2.history runId =
      if log.evicts commit = some runId then .fresh runId
      else if runId = commit.runId then (log.history runId).extended commit.events
      else log.history runId := by
  unfold appendActionCommit evicts
  cases hempty : commit.events.isEmpty with
  | true =>
    rw [List.isEmpty_iff.mp hempty, RunHistory.extended_nil]
    simp only [if_true, reduceCtorEq, if_false]
    split
    · rename_i hrun
      rw [hrun]
    · rfl
  | false =>
    simp only [Bool.false_eq_true, if_false]
    rw [history, lookup_evicted, lookup_committed]
    split
    · rfl
    · split
      · rename_i hrun
        rw [hrun]
        rfl
      · rfl

end InMemoryEventLog

end HiAgent.Kernel
