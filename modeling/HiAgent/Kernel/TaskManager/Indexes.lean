/-
  Kernel/TaskManager/Indexes.lean --- the indexes of the registry, and what the watchdog sees.

  `_run_index`, the heartbeats and `get_stalled_tasks` of `TaskRegistry`. An eviction
  repairs the lists of the sessions only.
-/
import HiAgent.Kernel.TaskManager.Replay

namespace HiAgent.Kernel

open Foundation List

/-- The heartbeat of a `_TaskEntry`. -/
structure TaskPulse where
  lastHeartbeatMs : Option Int := none
  consecutiveMissedBeats : Nat := 0

structure TaskHealthStatus where
  taskId : String
  lifecycleState : TaskLifecycleState
  currentRunId : Option String
  attemptSeq : Nat
  maxAttempts : Int
  lastHeartbeatMs : Option Int
  consecutiveMissedBeats : Nat
  isStalled : Bool

/-- `TaskRegistry` with `_run_index` and the heartbeats. -/
structure IndexedRegistry where
  registry : TaskRegistry
  runIndex : Dict String String
  pulses : Dict String TaskPulse

/-- A call of the registry, with the reading of `_now_ms`. -/
inductive RegistryOperation where
  | call (call : RegistryCall) (nowMs : Int)
  | heartbeat (taskId : String) (nowMs : Int)
  | heartbeatForRun (runId : String) (nowMs : Int)
  | getStalledTasks (nowMs : Int)

/-- The run `start_attempt` is called with. -/
def RegistryOperation.startedRun : RegistryOperation → Option String
  | call (.startAttempt attempt) _ => some attempt.runId
  | _ => none

namespace IndexedRegistry

/-- `TaskRegistry(max_tasks)`. -/
def new (maxTasks : Nat) : IndexedRegistry := ⟨.new maxTasks, .empty, .empty⟩

variable (indexed : IndexedRegistry)

def pulse (taskId : String) : TaskPulse := indexed.pulses.getD taskId {}

/-- A call; one that raises, or finds nothing to complete, emits no event. -/
def perform (call : RegistryCall) (nowMs : Int) : IndexedRegistry :=
  let next := { indexed with registry := (indexed.registry.perform call).1 }
  match call, (indexed.registry.perform call).2 with
  | .register descriptor, some _ =>
    { next with pulses := indexed.pulses.set descriptor.taskId {} }
  | .startAttempt attempt, some _ =>
    { next with
      runIndex := indexed.runIndex.set attempt.runId attempt.taskId
      pulses := indexed.pulses.set attempt.taskId
        { indexed.pulse attempt.taskId with lastHeartbeatMs := some nowMs } }
  | .completeAttempt _ runId _ _ _, some _ => { next with runIndex := indexed.runIndex.pop runId }
  | _, _ => next

def heartbeat (taskId : String) (nowMs : Int) : IndexedRegistry :=
  match indexed.registry.tasks.lookup taskId with
  | none => indexed
  | some _ =>
    let now := (indexed.pulse taskId).lastHeartbeatMs.elim nowMs fun last => max nowMs (last + 1)
    { indexed with pulses := indexed.pulses.set taskId ⟨some now, 0⟩ }

def getTaskIdForRun (runId : String) : Option String := indexed.runIndex.get? runId

/-- Whether `get_stalled_tasks` lists the task. -/
def isStalled (nowMs : Int) (entry : TaskEntry) : Bool :=
  decide (entry.lifecycleState = .running ∨ entry.lifecycleState = .restarting) &&
    (indexed.pulse entry.taskId).lastHeartbeatMs.any fun last =>
      decide (entry.descriptor.restartPolicy.heartbeatTimeoutMs < nowMs - last)

/-- A task that is listed. -/
def stalledStatus (entry : TaskEntry) : TaskHealthStatus where
  taskId := entry.taskId
  lifecycleState := entry.lifecycleState
  currentRunId :=
    (entry.attempts.getLast?.filter fun attempt => decide (attempt.outcome = none)).map
      TaskAttempt.runId
  attemptSeq := entry.attempts.length
  maxAttempts := entry.descriptor.restartPolicy.maxAttempts
  lastHeartbeatMs := (indexed.pulse entry.taskId).lastHeartbeatMs
  consecutiveMissedBeats := (indexed.pulse entry.taskId).consecutiveMissedBeats + 1
  isStalled := true

def getStalledTasks (nowMs : Int) : List TaskHealthStatus × IndexedRegistry :=
  let stalled := (indexed.registry.tasks.rows.filter (indexed.isStalled nowMs)).map
    indexed.stalledStatus
  (stalled, { indexed with
    pulses := stalled.foldl (fun pulses status => pulses.set status.taskId
      ⟨status.lastHeartbeatMs, status.consecutiveMissedBeats⟩) indexed.pulses })

/-- The registry after a call. -/
def operate : RegistryOperation → IndexedRegistry
  | .call call nowMs => indexed.perform call nowMs
  | .heartbeat taskId nowMs => indexed.heartbeat taskId nowMs
  | .heartbeatForRun runId nowMs =>
    match indexed.getTaskIdForRun runId with
    | none => indexed
    | some taskId => indexed.heartbeat taskId nowMs
  | .getStalledTasks nowMs => (indexed.getStalledTasks nowMs).2

end IndexedRegistry

namespace TaskRegistry

variable (registry : TaskRegistry)

/-- The list of a session holds its tasks in the order of their registration. -/
def SessionsListed : Prop :=
  ∀ sessionId, registry.sessionIndex.getD sessionId [] = (registry.tasks.rows.filter fun entry =>
      decide (entry.descriptor.sessionId = sessionId)).map TaskEntry.taskId

def Runs (taskId runId : String) : Prop :=
  ∃ entry, registry.tasks.lookup taskId = some entry ∧
    entry.attempts.any (TaskEntry.active runId) = true

end TaskRegistry

namespace IndexedRegistry

variable (indexed : IndexedRegistry)

def RunsFound : Prop :=
  ∀ runId taskId, indexed.getTaskIdForRun runId = some taskId ↔ indexed.registry.Runs taskId runId

/-- A task that is gone after the call had ended. -/
def EvictsEnded (operation : RegistryOperation) : Prop :=
  ∀ entry ∈ indexed.registry.tasks.rows,
    (indexed.operate operation).registry.tasks.lookup entry.taskId = none →
    entry.lifecycleState = .completed ∨ entry.lifecycleState = .aborted ∨
      entry.lifecycleState = .escalated

/-- The law of the indexes. -/
structure IndexLaw (operations : List RegistryOperation) : Prop where
  sessions : Always operate (fun indexed => indexed.registry.SessionsListed) indexed operations
  runs : Always operate RunsFound indexed operations
  evictions : Along operate EvictsEnded indexed operations

/-- No task is evicted that has an open attempt, and an attempt is open when it starts. -/
def ClosedBefore : RegistryOperation → Prop
  | .call (.register descriptor) _ =>
    indexed.registry.tasks.lookup descriptor.taskId = none →
    ∀ entry ∈ indexed.registry.tasks.rows,
      indexed.registry.evictIfNeeded.tasks.lookup entry.taskId = none →
      ∀ attempt ∈ entry.attempts, attempt.outcome ≠ none
  | .call (.startAttempt attempt) _ =>
    indexed.registry.tasks.lookup attempt.taskId ≠ none → attempt.outcome = none
  | _ => True

end IndexedRegistry

/-! ## Evictions -/

namespace TaskRegistry

variable {registry : TaskRegistry}

theorem rows_evict (registry : TaskRegistry) (taskId : String) :
    (registry.evict taskId).tasks.rows =
      registry.tasks.rows.filter fun entry => decide (entry.taskId ≠ taskId) := by
  rw [evict]
  split
  · rename_i hnone
    rw [Table.lookup_eq_none_iff] at hnone
    exact (filter_eq_self.mpr fun entry hentry => by simpa using hnone entry hentry).symm
  · simp [Table.deleteAt, Table.delete]

theorem SessionsListed.evict (h : registry.SessionsListed) (taskId : String) :
    (registry.evict taskId).SessionsListed := by
  intro sessionId
  have hlisted : (registry.evict taskId).sessionIndex.getD sessionId [] =
      (registry.sessionIndex.getD sessionId []).filter fun other => decide (other ≠ taskId) := by
    rw [TaskRegistry.evict]
    cases hentry : registry.tasks.lookup taskId with
    | none =>
      refine (filter_eq_self.mpr fun other hother => ?_).symm
      rw [h sessionId] at hother
      obtain ⟨entry, hin, rfl⟩ := mem_map.mp hother
      have hne := Table.lookup_eq_none_iff.mp hentry entry (mem_filter.mp hin).1
      simpa using hne
    | some entry =>
      dsimp only
      by_cases hsession : sessionId = entry.descriptor.sessionId
      · subst hsession
        rw [Dict.getD]
        cases hlist : registry.sessionIndex.get? entry.descriptor.sessionId with
        | _ => simp [Dict.getD, hlist]
      · have hsame : (registry.sessionIndex.getD sessionId []).filter
            (fun other => decide (other ≠ taskId)) = registry.sessionIndex.getD sessionId [] := by
          refine filter_eq_self.mpr fun other hother => ?_
          rw [h sessionId] at hother
          obtain ⟨row, hin, rfl⟩ := mem_map.mp hother
          obtain ⟨hrow, hof⟩ := mem_filter.mp hin
          rw [decide_eq_true_eq] at hof ⊢
          rintro rfl
          rw [Table.mem_rows_iff.mp hrow] at hentry
          exact hsession (Option.some.inj hentry ▸ hof.symm)
        rw [hsame]
        cases registry.sessionIndex.get? entry.descriptor.sessionId with
        | none => rfl
        | some taskIds => rw [Dict.getD_set, if_neg hsession]
  rw [hlisted, h sessionId, rows_evict, filter_map, filter_comm]
  rfl

theorem evictIfNeeded_spec (h : registry.SessionsListed) :
    registry.evictIfNeeded.SessionsListed ∧ ∃ gone : List String,
      (∀ taskId ∈ gone, ∃ entry ∈ registry.tasks.rows, entry.taskId = taskId ∧
        (entry.lifecycleState = .completed ∨ entry.lifecycleState = .aborted ∨
          entry.lifecycleState = .escalated)) ∧ registry.evictIfNeeded.tasks.rows =
        registry.tasks.rows.filter fun entry => decide (entry.taskId ∉ gone) := by
  have hfold (gone : List String) : ∀ registry : TaskRegistry, registry.SessionsListed →
      (gone.foldl TaskRegistry.evict registry).SessionsListed ∧
        (gone.foldl TaskRegistry.evict registry).tasks.rows =
          registry.tasks.rows.filter fun entry => decide (entry.taskId ∉ gone) := by
    induction gone with
    | nil => simp
    | cons taskId rest ih =>
      intro registry h
      obtain ⟨hlisted, hrows⟩ := ih (registry.evict taskId) (h.evict taskId)
      refine ⟨hlisted, ?_⟩
      rw [foldl_cons, hrows, rows_evict, filter_filter]
      refine filter_congr fun entry _ => ?_
      simp [Bool.and_comm]
  rw [evictIfNeeded]
  split
  · exact ⟨h, [], by simp, by simp⟩
  · obtain ⟨hlisted, hrows⟩ := hfold _ registry h
    refine ⟨hlisted, _, fun taskId hgone => ?_, hrows⟩
    obtain ⟨entry, hentry, rfl⟩ := mem_map.mp (mem_of_mem_take hgone)
    obtain ⟨hin, hended⟩ := mem_filter.mp hentry
    exact ⟨entry, hin, rfl, of_decide_eq_true hended⟩

/-! ## Writes -/

theorem SessionsListed.write (h : registry.SessionsListed) {taskId : String}
    {row : Assignment TaskEntry.taskId}
    (hrow : ∀ entry, (row.set entry).descriptor = entry.descriptor) :
    (registry.write taskId row).SessionsListed := by
  intro sessionId
  have hkeeps (entry : TaskEntry) : (if (decide (entry.taskId = taskId) && true) = true
      then row.set entry else entry).descriptor = entry.descriptor := by
    split
    · exact hrow entry
    · rfl
  have hrows : (registry.write taskId row).tasks.rows = registry.tasks.rows.map fun entry =>
      if (decide (entry.taskId = taskId) && true) = true then row.set entry else entry := rfl
  rw [hrows, filter_map, map_map]
  refine (h sessionId).trans ?_
  have hfilter : (fun entry : TaskEntry => decide (entry.descriptor.sessionId = sessionId)) ∘
      (fun entry => if (decide (entry.taskId = taskId) && true) = true then row.set entry
        else entry) = fun entry => decide (entry.descriptor.sessionId = sessionId) := by
    funext entry
    rw [Function.comp_apply, hkeeps]
  rw [hfilter]
  refine map_congr_left fun entry _ => ?_
  exact congrArg TaskDescriptor.taskId (hkeeps entry).symm

theorem SessionsListed.add (h : registry.SessionsListed) {descriptor : TaskDescriptor}
    (hfresh : registry.tasks.lookup descriptor.taskId = none) :
    (registry.add descriptor).SessionsListed := by
  intro sessionId
  have hrows : (registry.add descriptor).tasks.rows =
      registry.tasks.rows ++ [{ descriptor := descriptor }] :=
    Table.rows_insertOrReplace hfresh
  rw [hrows, filter_append, map_append, ← h sessionId]
  refine (Dict.getD_set _ _ _ _ _).trans ?_
  by_cases hsession : sessionId = descriptor.sessionId
  · subst hsession
    simp [TaskEntry.taskId]
  · have hother : ¬ descriptor.sessionId = sessionId := fun heq => hsession heq.symm
    simp [hsession, hother]

theorem runs_write {taskId other runId : String} {row : Assignment TaskEntry.taskId} :
    (registry.write taskId row).Runs other runId ↔
      if other = taskId then ∃ entry, registry.tasks.lookup taskId = some entry ∧
        (row.set entry).attempts.any (TaskEntry.active runId) = true
      else registry.Runs other runId := by
  simp only [Runs, write, Table.lookup_updateAt]
  split
  · simp
  · exact Iff.rfl

end TaskRegistry

/-! ## One call -/

namespace IndexedRegistry

variable {indexed : IndexedRegistry}

/-- The two laws of a state. -/
structure Inv (indexed : IndexedRegistry) : Prop where
  sessions : indexed.registry.SessionsListed
  runs : indexed.RunsFound

def NewRun (indexed : IndexedRegistry) (operation : RegistryOperation) : Prop :=
  ∀ runId, operation.startedRun = some runId → indexed.getTaskIdForRun runId = none

theorem heartbeat_same (indexed : IndexedRegistry) (taskId : String) (nowMs : Int) :
    (indexed.heartbeat taskId nowMs).registry = indexed.registry ∧
      (indexed.heartbeat taskId nowMs).runIndex = indexed.runIndex := by
  rw [heartbeat]
  split
  · exact ⟨rfl, rfl⟩
  · exact ⟨rfl, rfl⟩

variable {operation : RegistryOperation}

theorem operate_same (h : ∀ call nowMs, operation ≠ .call call nowMs) :
    (indexed.operate operation).registry = indexed.registry ∧
      (indexed.operate operation).runIndex = indexed.runIndex := by
  cases operation with
  | call call nowMs => exact absurd rfl (h call nowMs)
  | heartbeat taskId nowMs => exact indexed.heartbeat_same taskId nowMs
  | heartbeatForRun runId nowMs =>
    rw [operate]
    split
    · exact ⟨rfl, rfl⟩
    · exact indexed.heartbeat_same _ nowMs
  | getStalledTasks nowMs => exact ⟨rfl, rfl⟩

theorem Inv.same (h : indexed.Inv) {next : IndexedRegistry}
    (hsame : next.registry = indexed.registry ∧ next.runIndex = indexed.runIndex) : next.Inv := by
  refine ⟨hsame.1 ▸ h.sessions, fun runId taskId => ?_⟩
  rw [getTaskIdForRun, hsame.1, hsame.2]
  exact h.runs runId taskId

theorem perform_none {call : RegistryCall}
    (h : indexed.registry.perform call = (indexed.registry, none)) (nowMs : Int) :
    (indexed.operate (.call call nowMs)).registry = indexed.registry ∧
      (indexed.operate (.call call nowMs)).runIndex = indexed.runIndex := by
  rw [operate, perform.eq_def, h]
  cases call with
  | register | startAttempt | completeAttempt | updateState => exact ⟨rfl, rfl⟩

variable {taskId runId : String} {outcome : AttemptOutcome} {failure : PyValue} {now : String}
  {nowMs : Int}

theorem complete_of_runs (hruns : indexed.registry.Runs taskId runId) :
    (indexed.operate (.call (.completeAttempt taskId runId outcome failure now) nowMs)).registry =
        indexed.registry.write taskId (TaskEntry.complete runId outcome failure now) ∧
      (indexed.operate (.call (.completeAttempt taskId runId outcome failure now)
        nowMs)).runIndex = indexed.runIndex.pop runId := by
  obtain ⟨entry, hentry, hactive⟩ := hruns
  rw [operate, perform.eq_def, TaskRegistry.perform, TaskRegistry.completeAttempt, hentry]
  simp only [hactive, if_true]
  exact ⟨rfl, trivial⟩

theorem complete_of_not_runs (hruns : ¬ indexed.registry.Runs taskId runId) :
    (indexed.operate (.call (.completeAttempt taskId runId outcome failure now) nowMs)).registry =
        indexed.registry ∧
      (indexed.operate (.call (.completeAttempt taskId runId outcome failure now)
        nowMs)).runIndex = indexed.runIndex := by
  refine perform_none ?_ nowMs
  rw [TaskRegistry.perform, TaskRegistry.completeAttempt]
  split
  · rfl
  · rename_i entry hentry
    rw [if_neg fun hactive => hruns ⟨entry, hentry, hactive⟩]

/-- What an operation changes, with its guard. -/
theorem operate_cases (indexed : IndexedRegistry) (operation : RegistryOperation) :
    (((indexed.operate operation).registry = indexed.registry ∧
      (indexed.operate operation).runIndex = indexed.runIndex) ∧ indexed.ClosedBefore operation) ∨
    (∃ descriptor nowMs, operation = .call (.register descriptor) nowMs ∧
      indexed.registry.tasks.lookup descriptor.taskId = none ∧
      (indexed.operate operation).registry = indexed.registry.evictIfNeeded.add descriptor ∧
      (indexed.operate operation).runIndex = indexed.runIndex) ∨
    (∃ attempt nowMs, operation = .call (.startAttempt attempt) nowMs ∧
      indexed.registry.tasks.lookup attempt.taskId ≠ none ∧ (indexed.operate operation).registry =
        indexed.registry.write attempt.taskId (TaskEntry.start attempt) ∧
      (indexed.operate operation).runIndex = indexed.runIndex.set attempt.runId attempt.taskId) ∨
    (∃ taskId runId outcome failure now nowMs,
      operation = .call (.completeAttempt taskId runId outcome failure now) nowMs ∧
      indexed.registry.Runs taskId runId ∧ (indexed.operate operation).registry =
        indexed.registry.write taskId (TaskEntry.complete runId outcome failure now) ∧
      (indexed.operate operation).runIndex = indexed.runIndex.pop runId) ∨
    ∃ taskId state nowMs, operation = .call (.updateState taskId state) nowMs ∧
      (indexed.operate operation).registry =
        indexed.registry.write taskId (TaskEntry.update state) ∧
      (indexed.operate operation).runIndex = indexed.runIndex := by
  by_cases hcall : ∃ call nowMs, operation = .call call nowMs
  · obtain ⟨call, nowMs, rfl⟩ := hcall
    cases call with
    | register descriptor =>
      cases hentry : indexed.registry.tasks.lookup descriptor.taskId with
      | some entry =>
        refine .inl ⟨perform_none (TaskRegistry.register_eq_error hentry) nowMs, fun hnone => ?_⟩
        rw [hentry] at hnone
        cases hnone
      | none =>
        refine .inr (.inl ⟨descriptor, nowMs, rfl, hentry, ?_⟩)
        have hperform : indexed.registry.perform (.register descriptor) =
            (indexed.registry.evictIfNeeded.add descriptor,
              some (.registered descriptor.payload)) := by
          rw [TaskRegistry.perform, TaskRegistry.register,
            if_neg (by rw [hentry]; exact Bool.false_ne_true)]
          rfl
        rw [operate, perform.eq_def, hperform]
        exact ⟨rfl, rfl⟩
    | startAttempt attempt =>
      cases hentry : indexed.registry.tasks.lookup attempt.taskId with
      | none =>
        refine .inl ⟨perform_none ?_ nowMs, fun hne => absurd hentry hne⟩
        rw [TaskRegistry.perform, TaskRegistry.startAttempt, hentry]
      | some entry =>
        refine .inr (.inr (.inl ⟨attempt, nowMs, rfl, by simp [hentry], ?_⟩))
        rw [operate, perform.eq_def, TaskRegistry.perform_startAttempt hentry]
        exact ⟨rfl, rfl⟩
    | completeAttempt taskId runId outcome failure now =>
      by_cases hruns : indexed.registry.Runs taskId runId
      · exact .inr (.inr (.inr (.inl ⟨taskId, runId, outcome, failure, now, nowMs, rfl, hruns,
          complete_of_runs hruns⟩)))
      · exact .inl ⟨complete_of_not_runs hruns, trivial⟩
    | updateState taskId state =>
      cases hentry : indexed.registry.tasks.lookup taskId with
      | none =>
        refine .inl ⟨perform_none ?_ nowMs, trivial⟩
        rw [TaskRegistry.perform, TaskRegistry.updateState, hentry]
      | some entry =>
        refine .inr (.inr (.inr (.inr ⟨taskId, state, nowMs, rfl, ?_⟩)))
        rw [operate, perform.eq_def, TaskRegistry.perform_updateState hentry]
        exact ⟨rfl, rfl⟩
  · refine .inl ⟨operate_same fun call nowMs heq => hcall ⟨call, nowMs, heq⟩, ?_⟩
    cases operation with
    | call call nowMs => exact absurd ⟨call, nowMs, rfl⟩ hcall
    | _ => trivial

variable {registry : TaskRegistry}

theorem lookup_evictIfNeeded (h : registry.SessionsListed) {taskId : String} {entry : TaskEntry}
    (hentry : registry.evictIfNeeded.tasks.lookup taskId = some entry) :
    registry.tasks.lookup taskId = some entry := by
  obtain ⟨-, gone, -, hrows⟩ := TaskRegistry.evictIfNeeded_spec h
  rw [Table.lookup_eq_some_iff, hrows] at hentry
  exact Table.lookup_eq_some_iff.mpr ⟨(mem_filter.mp hentry.1).1, hentry.2⟩

theorem lookup_evictIfNeeded_eq_none (h : registry.SessionsListed)
    {taskId : String} (hfresh : registry.tasks.lookup taskId = none) :
    registry.evictIfNeeded.tasks.lookup taskId = none := by
  by_contra hsome
  obtain ⟨entry, hentry⟩ := Option.ne_none_iff_exists'.mp hsome
  rw [lookup_evictIfNeeded h hentry] at hfresh
  cases hfresh

theorem runs_register (h : registry.SessionsListed)
    {descriptor : TaskDescriptor} (hfresh : registry.tasks.lookup descriptor.taskId = none)
    (taskId runId : String) : (registry.evictIfNeeded.add descriptor).Runs taskId runId ↔
      registry.evictIfNeeded.tasks.lookup taskId ≠ none ∧ registry.Runs taskId runId := by
  have hlookup : (registry.evictIfNeeded.add descriptor).tasks.lookup taskId =
      if taskId = descriptor.taskId then some { descriptor := descriptor }
      else registry.evictIfNeeded.tasks.lookup taskId :=
    Table.lookup_insertOrReplace _ _ _
  rw [TaskRegistry.Runs, hlookup]
  split
  · rename_i heq
    simp [heq, lookup_evictIfNeeded_eq_none h hfresh]
  · cases hentry : registry.evictIfNeeded.tasks.lookup taskId with
    | none => simp
    | some entry => simp [TaskRegistry.Runs, lookup_evictIfNeeded h hentry]

theorem sessions_operate (h : indexed.registry.SessionsListed) (operation : RegistryOperation) :
    (indexed.operate operation).registry.SessionsListed := by
  rcases indexed.operate_cases operation with hsame | ⟨_, _, _, hfresh, hregistry, _⟩ |
    ⟨_, _, _, _, hregistry, _⟩ | ⟨_, _, _, _, _, _, _, _, hregistry, _⟩ |
    ⟨_, _, _, _, hregistry, _⟩
  · rw [hsame.1.1]
    exact h
  · rw [hregistry]
    exact (TaskRegistry.evictIfNeeded_spec h).1.add (lookup_evictIfNeeded_eq_none h hfresh)
  · exact hregistry ▸ h.write fun _ => rfl
  · exact hregistry ▸ h.write fun _ => rfl
  · exact hregistry ▸ h.write fun _ => rfl

theorem active_iff {runId : String} {attempt : TaskAttempt} :
    TaskEntry.active runId attempt = true ↔ attempt.runId = runId ∧ attempt.outcome = none := by
  rw [TaskEntry.active, decide_eq_true_eq]

theorem runs_start {attempt : TaskAttempt}
    (hregistered : registry.tasks.lookup attempt.taskId ≠ none) (taskId runId : String) :
    (registry.write attempt.taskId (TaskEntry.start attempt)).Runs taskId runId ↔
      registry.Runs taskId runId ∨
        taskId = attempt.taskId ∧ attempt.runId = runId ∧ attempt.outcome = none := by
  rw [TaskRegistry.runs_write]
  split
  · rename_i heq
    subst heq
    obtain ⟨entry, hentry⟩ := Option.ne_none_iff_exists'.mp hregistered
    simp [TaskRegistry.Runs, hentry, TaskEntry.start, active_iff]
  · rename_i hne
    simp [hne]

theorem runs_complete {taskId runId : String}
    {outcome : AttemptOutcome} {failure : PyValue} {now : String} (other otherRun : String) :
    (registry.write taskId (TaskEntry.complete runId outcome failure now)).Runs other otherRun ↔
      registry.Runs other otherRun ∧ ¬ (other = taskId ∧ otherRun = runId) := by
  rw [TaskRegistry.runs_write]
  split
  · rename_i heq
    subst heq
    have hany (entry : TaskEntry) : ((TaskEntry.complete runId outcome failure now).set
        entry).attempts.any (TaskEntry.active otherRun) = true ↔
        entry.attempts.any (TaskEntry.active otherRun) = true ∧ otherRun ≠ runId := by
      simp only [TaskEntry.complete, any_map, any_eq_true, Function.comp_apply]
      constructor
      · rintro ⟨attempt, hattempt, hactive⟩
        split at hactive
        · simp [active_iff] at hactive
        · rename_i hother
          refine ⟨⟨attempt, hattempt, hactive⟩, fun heq => hother (heq ▸ hactive)⟩
      · rintro ⟨⟨attempt, hattempt, hactive⟩, hne⟩
        refine ⟨attempt, hattempt, ?_⟩
        rw [if_neg ?_]
        · exact hactive
        · intro hsame
          exact hne ((active_iff.mp hactive).1.symm.trans (active_iff.mp hsame).1)
    simp only [TaskRegistry.Runs, hany, true_and, ← and_assoc, exists_and_right, ne_eq]
  · rename_i hne
    simp [hne]

theorem Inv.operate (h : indexed.Inv)
    (hnew : indexed.NewRun operation) (hclosed : indexed.ClosedBefore operation) :
    (indexed.operate operation).Inv := by
  refine ⟨sessions_operate h.sessions operation, ?_⟩
  rcases indexed.operate_cases operation with hsame |
    ⟨descriptor, nowMs, rfl, hfresh, hregistry, hindex⟩ |
    ⟨attempt, nowMs, rfl, hregistered, hregistry, hindex⟩ |
    ⟨taskId, runId, outcome, failure, now, nowMs, rfl, hruns, hregistry, hindex⟩ |
    ⟨taskId, state, nowMs, rfl, hregistry, hindex⟩
  · exact (h.same hsame.1).runs
  · intro runId taskId
    rw [getTaskIdForRun, hregistry, hindex, runs_register h.sessions hfresh]
    refine (h.runs runId taskId).trans ⟨fun hopen => ⟨fun hgone => ?_, hopen⟩, And.right⟩
    obtain ⟨entry, hentry, hactive⟩ := hopen
    obtain ⟨attempt, hattempt, hactive⟩ := any_eq_true.mp hactive
    have hkey := Table.key_of_lookup hentry
    exact hclosed hfresh entry (Table.lookup_eq_some_iff.mp hentry).1 (hkey ▸ hgone) attempt
      hattempt (active_iff.mp hactive).2
  · intro runId taskId
    rw [getTaskIdForRun, hregistry, hindex, runs_start hregistered, Dict.get?_set, ← h.runs]
    have hnone := hnew attempt.runId rfl
    by_cases hrun : runId = attempt.runId
    · subst hrun
      simp [hnone, hclosed hregistered, eq_comm]
    · have hother : ¬ attempt.runId = runId := fun heq => hrun heq.symm
      simp [hrun, hother, getTaskIdForRun]
  · intro otherRun other
    have hindexed := (h.runs runId taskId).mpr hruns
    rw [getTaskIdForRun, hregistry, hindex, runs_complete, Dict.get?_pop, ← h.runs]
    by_cases hrun : otherRun = runId
    · subst hrun
      simp [hindexed, eq_comm]
    · simp [hrun, getTaskIdForRun]
  · intro runId other
    rw [getTaskIdForRun, hregistry, hindex, TaskRegistry.runs_write]
    refine (h.runs runId other).trans ?_
    split
    · rename_i heq
      rw [heq]
      exact Iff.rfl
    · exact Iff.rfl

theorem Inv.closedBefore (h : indexed.Inv)
    (hnew : indexed.NewRun operation) (hnext : (indexed.operate operation).RunsFound) :
    indexed.ClosedBefore operation := by
  rcases indexed.operate_cases operation with hsame |
    ⟨descriptor, nowMs, rfl, hfresh, hregistry, hindex⟩ |
    ⟨attempt, nowMs, rfl, hregistered, hregistry, hindex⟩ |
    ⟨taskId, runId, outcome, failure, now, nowMs, rfl, hruns, hregistry, hindex⟩ |
    ⟨taskId, state, nowMs, rfl, hregistry, hindex⟩
  · exact hsame.2
  · intro _ entry hentry hgone attempt hattempt hopen
    have hfound := (h.runs attempt.runId entry.taskId).mpr
      ⟨entry, Table.mem_rows_iff.mp hentry, any_eq_true.mpr
        ⟨attempt, hattempt, active_iff.mpr ⟨rfl, hopen⟩⟩⟩
    rw [getTaskIdForRun, ← hindex] at hfound
    have hruns := (hnext attempt.runId entry.taskId).mp hfound
    rw [hregistry, runs_register h.sessions hfresh] at hruns
    exact hruns.1 hgone
  · intro _
    have hfound : (indexed.operate (.call (.startAttempt attempt) nowMs)).getTaskIdForRun
        attempt.runId = some attempt.taskId := by
      rw [getTaskIdForRun, hindex, Dict.get?_set, if_pos rfl]
    have hruns := (hnext attempt.runId attempt.taskId).mp hfound
    rw [hregistry, runs_start hregistered] at hruns
    rcases hruns with hold | ⟨-, -, hopen⟩
    · have hindexed := (h.runs attempt.runId attempt.taskId).mpr hold
      rw [hnew attempt.runId rfl] at hindexed
      cases hindexed
    · exact hopen
  · trivial
  · trivial

theorem evictsEnded (h : indexed.registry.SessionsListed) (operation : RegistryOperation) :
    indexed.EvictsEnded operation := by
  intro entry hentry hgone
  have hlookup := Table.mem_rows_iff.mp hentry
  have hkept (taskId : String) (row : Assignment TaskEntry.taskId) :
      (indexed.registry.write taskId row).tasks.lookup entry.taskId ≠ none := by
    rw [TaskRegistry.write, Table.lookup_updateAt]
    split
    · rename_i heq
      simp [← heq, hlookup]
    · simp [hlookup]
  rcases indexed.operate_cases operation with hsame |
    ⟨descriptor, nowMs, rfl, hfresh, hregistry, hindex⟩ |
    ⟨attempt, nowMs, rfl, hregistered, hregistry, hindex⟩ |
    ⟨taskId, runId, outcome, failure, now, nowMs, rfl, hruns, hregistry, hindex⟩ |
    ⟨taskId, state, nowMs, rfl, hregistry, hindex⟩
  · rw [hsame.1.1, hlookup] at hgone
    cases hgone
  · obtain ⟨-, gone, hended, hrows⟩ := TaskRegistry.evictIfNeeded_spec h
    have hadded : (indexed.registry.evictIfNeeded.add descriptor).tasks.lookup entry.taskId =
        if entry.taskId = descriptor.taskId then some { descriptor := descriptor }
        else indexed.registry.evictIfNeeded.tasks.lookup entry.taskId :=
      Table.lookup_insertOrReplace _ _ _
    rw [hregistry, hadded] at hgone
    split at hgone
    · cases hgone
    · rw [Table.lookup_eq_none_iff, hrows] at hgone
      by_cases hmem : entry.taskId ∈ gone
      · obtain ⟨other, hother, hsame, hstate⟩ := hended _ hmem
        have heq := Table.mem_rows_iff.mp hother
        rw [hsame, hlookup] at heq
        exact Option.some.inj heq ▸ hstate
      · exact absurd rfl (hgone entry (mem_filter.mpr ⟨hentry, by simpa using hmem⟩))
  · exact absurd (hregistry ▸ hgone) (hkept _ _)
  · exact absurd (hregistry ▸ hgone) (hkept _ _)
  · exact absurd (hregistry ▸ hgone) (hkept _ _)

/-- With run ids never used twice every start is of a new run. -/
theorem along_newRun {operations : List RegistryOperation}
    (hnew : ∀ runId ∈ operations.filterMap RegistryOperation.startedRun,
      indexed.getTaskIdForRun runId = none)
    (hnodup : (operations.filterMap RegistryOperation.startedRun).Nodup) :
    Along operate NewRun indexed operations := by
  induction operations generalizing indexed with
  | nil => trivial
  | cons operation rest ih =>
    have hkeeps : ∀ runId, operation.startedRun ≠ some runId →
        indexed.getTaskIdForRun runId = none →
        (indexed.operate operation).getTaskIdForRun runId = none := by
      intro runId hother hnone
      rw [getTaskIdForRun] at hnone ⊢
      rcases indexed.operate_cases operation with hsame | ⟨_, _, rfl, _, _, hindex⟩ |
        ⟨attempt, _, rfl, _, _, hindex⟩ | ⟨_, _, _, _, _, _, rfl, _, _, hindex⟩ |
        ⟨_, _, _, rfl, _, hindex⟩
      · rw [hsame.1.2, hnone]
      · rw [hindex, hnone]
      · rw [hindex, Dict.get?_set, if_neg fun heq => hother (congrArg some heq.symm), hnone]
      · rw [hindex, Dict.get?_pop, hnone, ite_self]
      · rw [hindex, hnone]
    cases hstarted : operation.startedRun with
    | none =>
      rw [filterMap_cons_none hstarted] at hnew hnodup
      refine ⟨fun runId hrun => ?_, ih (fun runId hrun => ?_) hnodup⟩
      · rw [hstarted] at hrun
        cases hrun
      · exact hkeeps runId (by simp [hstarted]) (hnew runId hrun)
    | some started =>
      rw [filterMap_cons_some hstarted] at hnew hnodup
      obtain ⟨hfresh, hnodup⟩ := nodup_cons.mp hnodup
      refine ⟨fun runId hrun => ?_, ih (fun runId hrun => ?_) hnodup⟩
      · rw [hstarted] at hrun
        exact hnew runId (mem_cons.mpr (.inl (Option.some.inj hrun).symm))
      · refine hkeeps runId (fun heq => ?_) (hnew runId (mem_cons_of_mem _ hrun))
        rw [hstarted] at heq
        exact hfresh (Option.some.inj heq ▸ hrun)

theorem inv_new (maxTasks : Nat) : (new maxTasks).Inv where
  sessions _ := rfl
  runs runId taskId := by
    constructor
    · intro h
      cases h
    · rintro ⟨entry, hentry, -⟩
      cases hentry

theorem indexLaw_iff_closedBefore (maxTasks : Nat) (operations : List RegistryOperation)
    (hruns : (operations.filterMap RegistryOperation.startedRun).Nodup) :
    IndexLaw (new maxTasks) operations ↔ Along operate ClosedBefore (new maxTasks) operations := by
  have hdomain : Along operate NewRun (new maxTasks) operations :=
    along_newRun (fun _ _ => rfl) hruns
  have hiff : Always operate RunsFound (new maxTasks) operations ↔
      Along operate ClosedBefore (new maxTasks) operations :=
    always_iff_along_within (fun _ _ h hnew hclosed => h.operate hnew hclosed)
      (fun _ h => h.runs) (fun _ _ h hnew hnext => h.closedBefore hnew hnext)
      (inv_new maxTasks) hdomain
  have hevery : Along operate (fun _ _ => True) (new maxTasks) operations :=
    along_of_forall fun _ _ _ => trivial
  have hstart : (new maxTasks).registry.SessionsListed := (inv_new maxTasks).sessions
  have hkeeps (indexed : IndexedRegistry) (operation : RegistryOperation)
      (h : indexed.registry.SessionsListed) (_ : True) :
      (indexed.operate operation).registry.SessionsListed := sessions_operate h operation
  refine ⟨fun h => hiff.mp h.runs, fun h => ⟨?_, hiff.mpr h, ?_⟩⟩
  · exact always_of_invariant hkeeps (fun _ h => h) hstart hevery
  · exact along_of_invariant hkeeps (fun _ operation h _ => evictsEnded h operation) hstart hevery

/-- A registry with room for two tasks: the first ends and makes room for a third, while an
attempt of the second is open. -/
def endedAndEvicted : List RegistryOperation :=
  [.call (.register (LoggedRegistry.reviewTask {})) 0,
    .call (.register { LoggedRegistry.reviewTask {} with taskId := "draft" }) 1,
    .call (.startAttempt ⟨"attempt-1", "review", "run-1", 1, "09:00", none, none, .none, none⟩) 2,
    .call (.startAttempt ⟨"attempt-2", "draft", "run-2", 1, "09:00", none, none, .none, none⟩) 3,
    .call (.completeAttempt "review" "run-1" .completed .none "09:05") 4,
    .call (.register { LoggedRegistry.reviewTask {} with taskId := "publish" }) 5]

theorem indexLaw_endedAndEvicted : IndexLaw (new 2) endedAndEvicted := by
  refine (indexLaw_iff_closedBefore 2 endedAndEvicted (by decide)).mpr
    ⟨fun _ _ hentry => absurd hentry not_mem_nil, ?_, fun _ => rfl, fun _ => rfl, trivial, ?_,
      trivial⟩
  · intro _ entry hentry _ attempt hattempt
    obtain rfl := mem_singleton.mp hentry
    cases hattempt
  · intro _ entry hentry hgone attempt hattempt
    obtain rfl | hlast := mem_cons.mp hentry
    · obtain rfl := mem_singleton.mp hattempt
      decide
    · obtain rfl := mem_singleton.mp hlast
      cases hgone

/-- A registry with room for one task: the first is aborted while it runs, and evicted. -/
def abortedWhileRunning : List RegistryOperation :=
  [.call (.register (LoggedRegistry.reviewTask {})) 0,
    .call (.startAttempt ⟨"attempt-1", "review", "run-1", 1, "09:00", none, none, .none, none⟩) 1,
    .call (.updateState "review" .aborted) 2,
    .call (.register { LoggedRegistry.reviewTask {} with taskId := "publish" }) 3]

theorem not_indexLaw_abortedWhileRunning :
    ¬ ∀ (maxTasks : Nat) (operations : List RegistryOperation),
      (operations.filterMap RegistryOperation.startedRun).Nodup →
      IndexLaw (new maxTasks) operations := by
  intro h
  have hfound := (h 1 abortedWhileRunning (by decide)).runs.last "run-1" "review"
  obtain ⟨entry, hentry, -⟩ := hfound.mp (by decide)
  have hgone : ((exec operate (new 1) abortedWhileRunning).registry.tasks.lookup
      "review").isNone = true := by decide
  rw [hentry] at hgone
  cases hgone

/-! ## Late results -/

/-- The latest attempt of the task is running, and the run is that of an earlier one. -/
def IsLate (indexed : IndexedRegistry) (entry : TaskEntry) (taskId runId : String) : Prop :=
  indexed.registry.tasks.lookup taskId = some entry ∧
    (∃ latest, entry.attempts.getLast? = some latest ∧ latest.outcome = none) ∧
    ∃ earlier ∈ entry.attempts.dropLast, earlier.runId = runId

/-- A late result leaves the state of its task alone, and whether it is found stalled. -/
def LateResultKept (indexed : IndexedRegistry) : RegistryOperation → Prop
  | .call (.completeAttempt taskId runId outcome failure now) nowMs =>
    let next := indexed.operate (.call (.completeAttempt taskId runId outcome failure now) nowMs)
    ∀ entry, indexed.IsLate entry taskId runId →
      (next.registry.tasks.lookup taskId).map TaskEntry.lifecycleState = some entry.lifecycleState ∧
      ∀ laterMs, taskId ∈ (next.getStalledTasks laterMs).1.map TaskHealthStatus.taskId ↔
        taskId ∈ (indexed.getStalledTasks laterMs).1.map TaskHealthStatus.taskId
  | _ => True

/-- A late result is of an attempt that has ended before, or of the state its task is in. -/
def EndedBefore (indexed : IndexedRegistry) : RegistryOperation → Prop
  | .call (.completeAttempt taskId runId outcome _ _) _ =>
    ∀ entry, indexed.IsLate entry taskId runId →
      entry.attempts.any (TaskEntry.active runId) = true →
      entry.lifecycleState = if outcome = .completed then .completed else .failed
  | _ => True

theorem mem_getStalledTasks {taskId : String} {nowMs : Int} :
    taskId ∈ (indexed.getStalledTasks nowMs).1.map TaskHealthStatus.taskId ↔
      ∃ entry, indexed.registry.tasks.lookup taskId = some entry ∧
        indexed.isStalled nowMs entry = true := by
  simp only [getStalledTasks, map_map, mem_map, mem_filter,
    Table.lookup_eq_some_iff, Function.comp_apply]
  constructor
  · rintro ⟨entry, ⟨hentry, hstalled⟩, rfl⟩
    exact ⟨entry, ⟨hentry, rfl⟩, hstalled⟩
  · rintro ⟨entry, ⟨hentry, rfl⟩, hstalled⟩
    exact ⟨entry, ⟨hentry, hstalled⟩, rfl⟩

theorem pulse_completeAttempt (other : String) :
    (indexed.operate (.call (.completeAttempt taskId runId outcome failure now) nowMs)).pulse
      other = indexed.pulse other := by
  rw [operate, perform.eq_def]
  cases (indexed.registry.perform (.completeAttempt taskId runId outcome failure now)).2 with
  | none => rfl
  | some event => rfl

theorem lateResultKept_iff (indexed : IndexedRegistry) (operation : RegistryOperation) :
    indexed.LateResultKept operation ↔ indexed.EndedBefore operation := by
  cases operation with
  | heartbeat | heartbeatForRun | getStalledTasks => exact Iff.rfl
  | call call nowMs =>
    cases call with
    | register | startAttempt | updateState => exact Iff.rfl
    | completeAttempt taskId runId outcome failure now =>
      refine forall_congr' fun entry => forall_congr' fun hlate => ?_
      by_cases hruns : indexed.registry.Runs taskId runId
      · obtain ⟨other, hother, hactive⟩ := hruns
        obtain rfl := Option.some.inj (hlate.1.symm.trans hother)
        have hlookup := indexed.registry.lookup_write taskId
          (TaskEntry.complete runId outcome failure now)
        have hregistry : (indexed.operate (.call (.completeAttempt taskId runId outcome failure
            now) nowMs)).registry = _ := (complete_of_runs ⟨entry, hother, hactive⟩).1
        rw [hlate.1, Option.map_some, ← hregistry] at hlookup
        simp only [mem_getStalledTasks, hlookup, hlate.1, Option.map_some, Option.some.injEq,
          exists_eq_left', hactive, true_imp_iff]
        constructor
        · intro h
          exact h.1.symm
        · intro h
          refine ⟨h.symm, fun laterMs => ?_⟩
          have hsame : ((TaskEntry.complete runId outcome failure now).set
              entry).lifecycleState = entry.lifecycleState := h.symm
          rw [isStalled, isStalled, hsame, pulse_completeAttempt]
          exact Iff.rfl
      · have hactive : ¬ entry.attempts.any (TaskEntry.active runId) = true := fun hactive =>
          hruns ⟨entry, hlate.1, hactive⟩
        simp [mem_getStalledTasks, (complete_of_not_runs hruns).1, hlate.1, isStalled,
          pulse_completeAttempt, hactive]

theorem along_lateResultKept_iff (maxTasks : Nat) (operations : List RegistryOperation) :
    Along operate LateResultKept (new maxTasks) operations ↔
      Along operate EndedBefore (new maxTasks) operations :=
  along_congr lateResultKept_iff (new maxTasks) operations

/-- The first attempt fails when the second is already running. -/
def failedLate : List RegistryOperation :=
  [.call (.register (LoggedRegistry.reviewTask {})) 0,
    .call (.startAttempt ⟨"attempt-1", "review", "run-1", 1, "09:00", none, none, .none, none⟩) 1,
    .call (.updateState "review" .restarting) 2,
    .call (.startAttempt ⟨"attempt-2", "review", "run-2", 2, "09:01", none, none, .none, none⟩) 3,
    .call (.completeAttempt "review" "run-1" .failed .none "09:02") 4]

theorem not_lateResultKept_failedLate : ¬ ∀ (maxTasks : Nat) (operations : List RegistryOperation),
      Along operate LateResultKept (new maxTasks) operations := by
  intro h
  have hlast := (h 10 failedLate).2.2.2.2.1
  obtain ⟨hstate, -⟩ := hlast _ ⟨rfl, ⟨_, rfl, rfl⟩, _, mem_cons_self, rfl⟩
  revert hstate
  decide

end IndexedRegistry

end HiAgent.Kernel
