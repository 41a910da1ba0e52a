/-
  TaskMgmt/Scheduler/Reports.lean --- how often tasks are dispatched, and what success says.

  A dispatch takes a task that is PENDING or READY, and it is PENDING again after a failure
  that counts as a retry only, and READY after a resume only. `schedule` may end at the step
  bound, or with nothing ready, while tasks are left that have not ended.
-/
import HiAgent.TaskMgmt.Scheduler.Respect

namespace HiAgent.TaskMgmt

open Foundation Trajectory List

namespace TaskScheduler

variable (scheduler : TaskScheduler)

def taken : List String :=
  match scheduler.point with
  | .dispatching _ ready => ready
  | _ => []

def dispatchedBy : Event → List String
  | .dispatch => scheduler.nextReady.toList
  | _ => []

def resumedBy (event : Event) : List String :=
  (scheduler.withStatus .yielded).filter fun taskId =>
    decide ((scheduler.step event).statusOf taskId = some .ready)

/-- Whether the loop of `schedule` ends at its head: with no step left or no task ready. -/
def breaksOff : Bool :=
  match scheduler.point with
  | .looping 0 => true
  | .looping (_ + 1) => scheduler.getReadyTasks.isEmpty
  | _ => false

/-- A task that `get_ready_tasks` may take. -/
def Live (task : TaskHandle) : Prop := task.status = .pending ∨ task.status = .ready

instance (task : TaskHandle) : Decidable (Live task) := inferInstanceAs (Decidable (_ ∨ _))

/-- Nothing is left to do: no task is ready, YIELDED, BLOCKED or RUNNING, and none that is
PENDING or READY depends on a CANCELLED one. -/
def Settled : Prop :=
  scheduler.getReadyTasks = [] ∧
    (∀ status ∈ [TaskStatus.yielded, .blocked, .running], scheduler.withStatus status = []) ∧
    ∀ task ∈ scheduler.tasks.rows, Live task → ∀ dep ∈ task.dependencies,
      scheduler.statusOf dep ≠ some .cancelled

instance Settled.decide : Decidable scheduler.Settled :=
  inferInstanceAs (Decidable (_ ∧ (∀ status ∈ _, _) ∧ ∀ task ∈ scheduler.tasks.rows, _))

/-- The loop ends at its head where nothing is left to do or a task has FAILED, and no
COMPLETED task yields that a task which is to be dispatched depends on. -/
def Conclusive : Event → Prop
  | .superstep => scheduler.breaksOff = true →
      scheduler.Settled ∨ scheduler.withStatus .failed ≠ []
  | .call (.yieldTask taskId ..) => ∀ waiting ∈ scheduler.taken,
      ∀ task ∈ scheduler.getTask waiting, taskId ∈ task.dependencies →
        scheduler.statusOf taskId ≠ some .completed
  | _ => True

instance Conclusive.decide : ∀ event, Decidable (scheduler.Conclusive event)
  | .superstep => inferInstanceAs (Decidable (scheduler.breaksOff = true → _))
  | .call (.yieldTask ..) => inferInstanceAs (Decidable (∀ waiting ∈ scheduler.taken, _))
  | .call (.resumeTask ..) | .call (.cancelTask ..) => isTrue trivial
  | .schedule _ | .dispatch | .start | .ended .. | .collect _ | .unblock => isTrue trivial

end TaskScheduler

/-- A scheduler, with the tasks that were dispatched and those that were resumed. -/
structure DispatchLog where
  scheduler : TaskScheduler
  dispatched : List String := []
  resumed : List String := []

namespace DispatchLog

def step (log : DispatchLog) (event : TaskScheduler.Event) : DispatchLog where
  scheduler := log.scheduler.step event
  dispatched := log.dispatched ++ log.scheduler.dispatchedBy event
  resumed := log.resumed ++ log.scheduler.resumedBy event

/-- A task is dispatched behind its dependencies, and once for each retry, each resume and
the first attempt at most; success is reported where every task has completed or was
cancelled. -/
structure Law (log : DispatchLog) : Prop where
  afterDependencies : ∀ taskId ∈ log.scheduler.nextReady,
    ∀ task ∈ log.scheduler.getTask taskId, ∀ dep ∈ task.dependencies,
      log.scheduler.statusOf dep = some .completed
  bounded : ∀ taskId, ∀ task ∈ log.scheduler.getTask taskId,
    log.dispatched.count taskId ≤ 1 + task.maxRetries + log.resumed.count taskId
  honest : ∀ result ∈ log.scheduler.result, result.success = true →
    ∀ taskId, (log.scheduler.getTask taskId).isSome = true →
      taskId ∈ result.completedTasks ∨ taskId ∈ result.cancelledTasks

end DispatchLog

namespace TaskScheduler

variable {scheduler : TaskScheduler} {tasks next : Tasks}

/-! ## What an event makes of a task -/

/-- A task becomes PENDING by a retry only, and READY by a resume only. -/
def Moves (task next : TaskHandle) : Prop :=
  next.dependencies = task.dependencies ∧ next.maxRetries = task.maxRetries ∧
    (next.retryCount = task.retryCount ∧
        (Live next → Live task ∨ task.status = .yielded ∧ next.status = .ready) ∨
      task.retryCount < task.maxRetries ∧ next.retryCount = task.retryCount + 1)

def Tasks.Move (tasks next : Tasks) : Prop :=
  ∀ taskId, ∃ f : TaskHandle → TaskHandle, next.lookup taskId = (tasks.lookup taskId).map f ∧
    ∀ task ∈ tasks.lookup taskId, Moves task (f task)

theorem moves_refl (task : TaskHandle) : Moves task task :=
  ⟨rfl, rfl, .inl ⟨rfl, Or.inl⟩⟩

theorem moves_of_status {task next : TaskHandle} {status : TaskStatus}
    (hstatus : next.status = status) (hleft : status ≠ .pending ∧ status ≠ .ready)
    (hdeps : next.dependencies = task.dependencies) (hmax : next.maxRetries = task.maxRetries)
    (hretry : next.retryCount = task.retryCount) : Moves task next := by
  refine ⟨hdeps, hmax, .inl ⟨hretry, fun hlive => ?_⟩⟩
  rw [Live, hstatus] at hlive
  exact absurd hlive (not_or.mpr hleft)

theorem Tasks.Move.refl (tasks : Tasks) : tasks.Move tasks :=
  fun taskId => ⟨id, by simp, fun task _ => moves_refl task⟩

variable {taskId : String}

theorem Tasks.Move.write {row : Assignment TaskHandle.taskId}
    (hrow : ∀ task ∈ tasks.lookup taskId, Moves task (row.set task)) :
    tasks.Move (tasks.write taskId row) := by
  intro other
  by_cases heq : other = taskId
  · subst heq
    exact ⟨row.set, by rw [Tasks.lookup_write, if_pos rfl], hrow⟩
  · refine ⟨id, ?_, fun task _ => moves_refl task⟩
    rw [Tasks.lookup_write, if_neg heq, Option.map_id, id]

theorem moves_finish (outcome : Except String PyValue) (task : TaskHandle) :
    Moves task ((TaskHandle.finish outcome).set task) := by
  cases outcome with
  | ok result =>
    exact moves_of_status (rfl : _ = TaskStatus.completed) (by decide) rfl rfl rfl
  | error error =>
    simp only [TaskHandle.finish]
    split
    · rename_i hleft
      exact ⟨rfl, rfl, .inr ⟨hleft, rfl⟩⟩
    · exact moves_of_status (rfl : _ = TaskStatus.failed) (by decide) rfl rfl rfl

theorem move_resumeTask (scheduler : TaskScheduler) (taskId : String)
    (dependencyResults : Option PyDict) :
    Tasks.Move scheduler.tasks (scheduler.resumeTask taskId dependencyResults).tasks := by
  rw [resumeTask]
  split
  · rename_i hyielded
    obtain ⟨task, htask, hstatus⟩ := Tasks.statusOf_eq_some.mp hyielded
    refine .write fun other hother => ?_
    obtain rfl : task = other := Option.some.inj (htask.symm.trans hother)
    exact ⟨rfl, rfl, .inl ⟨rfl, fun _ => .inr ⟨hstatus, rfl⟩⟩⟩
  · exact .refl _

theorem move_perform (scheduler : TaskScheduler) (call : TaskCall) :
    Tasks.Move scheduler.tasks (scheduler.perform call).tasks := by
  cases call with
  | yieldTask taskId blockedBy sessionSnapshot reason =>
    exact .write fun task _ =>
      moves_of_status (rfl : _ = TaskStatus.yielded) (by decide) rfl rfl rfl
  | resumeTask taskId dependencyResults => exact move_resumeTask _ _ _
  | cancelTask taskId reason =>
    rw [perform, cancelTask]
    split
    · exact .refl _
    · split
      · exact .refl _
      · exact .write fun task _ =>
          moves_of_status (rfl : _ = TaskStatus.cancelled) (by decide) rfl rfl rfl

theorem move_unblockAll (scheduler : TaskScheduler) :
    Tasks.Move scheduler.tasks scheduler.unblockAll.tasks := by
  have hfreed (completed : String) (task : TaskHandle) :
      (released completed task).dependencies = task.dependencies ∧
        (released completed task).maxRetries = task.maxRetries ∧
        (released completed task).retryCount = task.retryCount := by
    rw [released]
    split
    · exact ⟨rfl, rfl, rfl⟩
    · split
      · exact ⟨rfl, rfl, rfl⟩
      · exact ⟨rfl, rfl, rfl⟩
  have hscan (taskId : String) (taskIds : List String) : ∀ scheduler : TaskScheduler,
      ∃ f : TaskHandle → TaskHandle, (taskIds.foldl unblockFrom scheduler).tasks.lookup taskId =
          (scheduler.tasks.lookup taskId).map f ∧
        ∀ task, (f task).dependencies = task.dependencies ∧
          (f task).maxRetries = task.maxRetries ∧ (f task).retryCount = task.retryCount ∧
          ((f task).status = task.status ∨ task.status = .yielded ∧ (f task).status = .ready) := by
    induction taskIds with
    | nil => exact fun _ => ⟨id, by simp, fun _ => ⟨rfl, rfl, rfl, .inl rfl⟩⟩
    | cons completed rest ih =>
      intro scheduler
      rw [foldl_cons]
      obtain ⟨f, hlookup, hf⟩ := ih (scheduler.unblockFrom completed)
      by_cases hcompleted : scheduler.statusOf completed = some .completed
      · rw [scheduler.lookup_unblockFrom hcompleted, Option.map_map] at hlookup
        refine ⟨f ∘ released completed, hlookup, fun task => ?_⟩
        have hfirst := hfreed completed task
        have hrest := hf (released completed task)
        have hstatus := status_released completed task
        simp only [Function.comp_apply]
        grind
      · have hsame : scheduler.unblockFrom completed = scheduler := if_neg hcompleted
        rw [hsame] at hlookup ⊢
        exact ⟨f, hlookup, hf⟩
  intro taskId
  obtain ⟨f, hlookup, hf⟩ := hscan taskId _ scheduler
  refine ⟨f, hlookup, fun task _ => ?_⟩
  obtain ⟨hdeps, hmax, hretry, hstatus⟩ := hf task
  refine ⟨hdeps, hmax, .inl ⟨hretry, fun hlive => ?_⟩⟩
  rcases hstatus with hsame | hresumed
  · exact .inl (by rwa [Live, hsame] at hlive)
  · exact .inr hresumed

/-- Every event moves the tasks as `Moves` says. -/
theorem move_step (scheduler : TaskScheduler) (event : Event) :
    Tasks.Move scheduler.tasks (scheduler.step event).tasks := by
  cases event with
  | dispatch =>
    rw [step]
    split
    · exact .refl _
    · exact .write fun task _ =>
        moves_of_status (rfl : _ = TaskStatus.running) (by decide) rfl rfl rfl
    · exact .refl _
  | call call =>
    rw [step]
    split
    · exact move_perform _ _
    · exact .refl _
  | collect index =>
    rw [step]
    split
    · split
      · exact .refl _
      · exact .write fun task _ => moves_finish _ task
    · exact .refl _
  | unblock =>
    rw [step]
    split
    · dsimp only
      split
      · exact move_unblockAll scheduler
      · exact move_unblockAll scheduler
    · exact .refl _
  | _ =>
    rw [show (scheduler.step _).tasks = scheduler.tasks by grind [step, finish]]
    exact .refl _

/-! ## Dependencies -/

def Tasks.Linked (tasks : Tasks) : Prop :=
  ∀ taskId, ∀ task ∈ tasks.lookup taskId, ∀ dep ∈ task.dependencies,
    (tasks.lookup dep).isSome = true

variable {task : TaskHandle}

theorem Tasks.Move.exists_of_mem (h : tasks.Move next)
    (htask : task ∈ next.lookup taskId) : ∃ old ∈ tasks.lookup taskId, Moves old task := by
  obtain ⟨f, hlookup, hmoves⟩ := h taskId
  rw [hlookup] at htask
  obtain ⟨old, hold, rfl⟩ := Option.map_eq_some_iff.mp htask
  exact ⟨old, hold, hmoves old hold⟩

theorem Tasks.Move.isSome (h : tasks.Move next) (taskId : String) :
    (next.lookup taskId).isSome = (tasks.lookup taskId).isSome := by
  obtain ⟨f, hlookup, -⟩ := h taskId
  rw [hlookup, Option.isSome_map]

theorem Tasks.Linked.move (h : tasks.Linked) (hmove : tasks.Move next) : next.Linked := by
  intro taskId task htask dep hdep
  obtain ⟨old, hold, hmoves⟩ := hmove.exists_of_mem htask
  rw [hmove.isSome]
  exact h taskId old hold dep (hmoves.1 ▸ hdep)

/-- No task depends on itself by way of others. -/
def Tasks.Ordered (tasks : Tasks) : Prop :=
  ∃ rank : String → Nat, ∀ task ∈ tasks.rows, ∀ dep ∈ task.dependencies,
    rank dep < rank task.taskId

theorem Tasks.Ordered.move (h : tasks.Ordered) (hmove : tasks.Move next) : next.Ordered := by
  obtain ⟨rank, hrank⟩ := h
  refine ⟨rank, fun task htask dep hdep => ?_⟩
  obtain ⟨old, hold, hmoves⟩ := hmove.exists_of_mem (Table.mem_rows_iff.mp htask)
  have hkey := Table.key_of_lookup hold
  rw [← hkey] at hold ⊢
  exact hrank old (Table.mem_rows_iff.mpr hold) dep (hmoves.1 ▸ hdep)

/-- What `load_graph` leaves. -/
structure Tasks.Loaded (tasks : Tasks) : Prop where
  linked : tasks.Linked
  fresh : ∀ taskId, ∀ task ∈ tasks.lookup taskId, task.retryCount = 0

theorem Tasks.Loaded.write (h : tasks.Loaded) {row : Assignment TaskHandle.taskId}
    (hdeps : ∀ task, ∀ dep ∈ (row.set task).dependencies,
      dep ∈ task.dependencies ∨ (tasks.lookup dep).isSome = true)
    (hretry : ∀ task, (row.set task).retryCount = task.retryCount) :
    (tasks.write taskId row).Loaded := by
  have hsome (other : String) :
      ((tasks.write taskId row).lookup other).isSome = (tasks.lookup other).isSome := by
    rw [Tasks.lookup_write]
    split
    · rename_i heq
      rw [heq, Option.isSome_map]
    · rfl
  constructor
  · intro other task htask dep hdep
    rw [hsome]
    rw [Tasks.lookup_write] at htask
    split at htask
    · obtain ⟨old, hold, rfl⟩ := Option.map_eq_some_iff.mp htask
      exact (hdeps old dep hdep).elim (h.linked taskId old hold dep) id
    · exact h.linked other task htask dep hdep
  · intro other task htask
    rw [Tasks.lookup_write] at htask
    split at htask
    · obtain ⟨old, hold, rfl⟩ := Option.map_eq_some_iff.mp htask
      exact (hretry old).trans (h.fresh taskId old hold)
    · exact h.fresh other task htask

theorem Tasks.Loaded.loadEdge (h : tasks.Loaded) (edge : TrajEdge) :
    Tasks.Loaded (loadEdge tasks edge) := by
  rw [TaskScheduler.loadEdge]
  split
  · exact h
  · split
    · rename_i hends
      have htarget : (Tasks.write tasks edge.target
          (TaskHandle.addDependency edge.source)).Loaded := by
        refine h.write (fun task dep hdep => ?_) fun task => ?_
        · simp only [TaskHandle.addDependency] at hdep
          split at hdep
          · exact .inl hdep
          · rcases mem_append.mp hdep with hold | hnew
            · exact .inl hold
            · exact .inr (mem_singleton.mp hnew ▸ hends.2)
        · simp only [TaskHandle.addDependency]
          split <;> rfl
      refine htarget.write (fun task dep hdep => .inl ?_) fun task => ?_
      · simp only [TaskHandle.addDependent] at hdep
        split at hdep <;> exact hdep
      · simp only [TaskHandle.addDependent]
        split <;> rfl
    · exact h

theorem loaded_loadTasks (graph : TrajectoryGraph) (order : List String) :
    Tasks.Loaded (loadTasks graph Table.empty order) := by
  have hnew : ∀ tasks : Tasks,
      (∀ taskId, ∀ task ∈ tasks.lookup taskId, task.dependencies = [] ∧ task.retryCount = 0) →
      Tasks.Loaded (loadTasks graph tasks order) := by
    induction order with
    | nil =>
      intro tasks h
      refine ⟨fun taskId task htask dep hdep => ?_, fun taskId task htask => (h _ _ htask).2⟩
      rw [(h taskId task htask).1] at hdep
      cases hdep
    | cons nodeId rest ih =>
      intro tasks h
      rw [loadTasks]
      split
      · exact ih tasks h
      · refine ih _ fun taskId task htask => ?_
        rw [Table.lookup_insertOrReplace] at htask
        split at htask
        · obtain rfl := Option.some.inj htask
          exact ⟨rfl, rfl⟩
        · exact h taskId task htask
  exact hnew Table.empty fun taskId task htask => by cases htask

/-- `load_graph` links every task to loaded ones, with no retry counted. -/
theorem loaded_loadGraph {maxWorkers : Nat} {graph : TrajectoryGraph} {configured : Bool}
    (hload : loadGraph maxWorkers graph configured = .ok scheduler) :
    Tasks.Loaded scheduler.tasks := by
  rw [loadGraph] at hload
  cases horder : graph.topologicalSort with
  | error error =>
    rw [horder] at hload
    cases hload
  | ok order =>
    rw [horder] at hload
    obtain rfl := Except.ok.inj hload
    have hedges (edges : List TrajEdge) : ∀ tasks : Tasks, tasks.Loaded →
        Tasks.Loaded (edges.foldl loadEdge tasks) := by
      induction edges with
      | nil => exact fun _ h => h
      | cons edge rest ih => exact fun tasks h => ih _ (h.loadEdge edge)
    exact hedges _ _ (loaded_loadTasks graph order)

/-! ## What an event makes of the superstep -/

theorem taken_perform (scheduler : TaskScheduler) (call : TaskCall) :
    (scheduler.perform call).taken = scheduler.taken := by
  cases call with
  | yieldTask taskId blockedBy sessionSnapshot reason => rfl
  | resumeTask taskId dependencyResults =>
    rw [perform, resumeTask]
    split <;> rfl
  | cancelTask taskId reason =>
    rw [perform, cancelTask]
    split
    · rfl
    · split <;> rfl

variable {event : Event}

/-- Only a superstep takes tasks, and only ready ones. -/
theorem taken_step (h : taskId ∈ (scheduler.step event).taken) :
    taskId ∈ scheduler.taken ∨ event = .superstep ∧ taskId ∈ scheduler.getReadyTasks := by
  have hready (steps : Nat) :
      getReadyTasks { scheduler with stepCount := steps } = scheduler.getReadyTasks := rfl
  cases event with
  | call call => grind [step, taken_perform]
  | _ => grind [step, taken, finish, write]

theorem nextReady_eq_some (h : scheduler.nextReady = some taskId) :
    ∃ steps ready, scheduler.point = .dispatching steps (taskId :: ready) := by
  rw [nextReady] at h
  split at h
  · rename_i steps first ready hpoint
    exact ⟨steps, ready, Option.some.inj h ▸ hpoint⟩
  · cases h

theorem mem_getReadyTasks (h : taskId ∈ scheduler.getReadyTasks) :
    ∃ task ∈ scheduler.tasks.lookup taskId, Live task ∧ ∀ dep ∈ task.dependencies,
      (scheduler.tasks.lookup dep).isSome = true → scheduler.statusOf dep = some .completed := by
  obtain ⟨task, hrow, rfl⟩ := mem_map.mp h
  obtain ⟨hmem, hready⟩ := mem_filter.mp hrow
  obtain ⟨hlive, hdeps⟩ := Bool.and_eq_true_iff.mp hready
  refine ⟨task, Table.mem_rows_iff.mp hmem, of_decide_eq_true hlive, fun dep hdep hsome => ?_⟩
  have hdone := of_decide_eq_true (all_eq_true.mp hdeps dep hdep)
  refine hdone.resolve_left fun hnone => ?_
  rw [getTask] at hnone
  rw [hnone] at hsome
  cases hsome

/-- A dispatch uses up a turn, which only a retry or a resume gives back. -/
theorem spent_step (horderly : Orderly scheduler)
    {task after : TaskHandle} (htask : scheduler.tasks.lookup taskId = some task)
    (hafter : (scheduler.step event).tasks.lookup taskId = some after) (hmoves : Moves task after) :
    (scheduler.dispatchedBy event).count taskId +
        (if taskId ∈ (scheduler.step event).taken ∨ Live after then 1 else 0) + task.retryCount ≤
      (if taskId ∈ scheduler.taken ∨ Live task then 1 else 0) + after.retryCount +
        (scheduler.resumedBy event).count taskId := by
  have hretry : task.retryCount ≤ after.retryCount := by
    rcases hmoves.2.2 with hsame | hmore
    · omega
    · omega
  by_cases hsent : taskId ∈ scheduler.dispatchedBy event
  · cases event with
    | dispatch =>
      obtain ⟨steps, ready, hpoint⟩ := nextReady_eq_some (Option.mem_toList.mp hsent)
      have hnodup := horderly.nodup
      simp only [outstanding, hpoint, cons_append, nodup_cons, mem_append, not_or] at hnodup
      have hcount : (scheduler.dispatchedBy .dispatch).count taskId = 1 := by
        rw [dispatchedBy, nextReady, hpoint]
        simp
      have htaken : taskId ∈ scheduler.taken := by
        rw [taken, hpoint]
        exact mem_cons_self
      have hstep : scheduler.step .dispatch = { scheduler.write taskId TaskHandle.start with
          futures := scheduler.futures ++ [{ taskId := taskId }]
          point := .dispatching steps ready } := by
        rw [step, hpoint]
      have hrunning : after.status = .running := by
        rw [hstep] at hafter
        have hrow := Tasks.lookup_write scheduler.tasks taskId taskId TaskHandle.start
        rw [if_pos rfl, htask] at hrow
        obtain rfl := Option.some.inj (hrow.symm.trans hafter)
        rfl
      have hgone : ¬ (taskId ∈ (scheduler.step .dispatch).taken ∨ Live after) := by
        rw [hstep, Live, hrunning]
        simp [taken, hnodup.1.1]
      rw [hcount, if_neg hgone, if_pos (.inl htaken)]
      omega
    | _ => exact absurd hsent not_mem_nil
  · rw [count_eq_zero.mpr hsent]
    rcases hmoves.2.2 with ⟨hsame, hlive⟩ | ⟨-, hmore⟩
    · by_cases hready : taskId ∈ (scheduler.step event).taken ∨ Live after
      · have hcause : (taskId ∈ scheduler.taken ∨ Live task) ∨
            0 < (scheduler.resumedBy event).count taskId := by
          rcases hready with htaken | hlive'
          · rcases taken_step htaken with hold | ⟨-, hmem⟩
            · exact .inl (.inl hold)
            · obtain ⟨other, hother, hlive, -⟩ := mem_getReadyTasks hmem
              obtain rfl : task = other := Option.some.inj (htask.symm.trans hother)
              exact .inl (.inr hlive)
          · rcases hlive hlive' with hold | ⟨hyielded, hresumed⟩
            · exact .inl (.inr hold)
            · refine .inr (count_pos_iff.mpr (mem_filter.mpr ⟨?_, ?_⟩))
              · obtain rfl := Table.key_of_lookup htask
                exact mem_map_of_mem (mem_filter.mpr
                  ⟨Table.mem_rows_iff.mpr htask, decide_eq_true hyielded⟩)
              · exact decide_eq_true (Tasks.statusOf_eq_some.mpr ⟨after, hafter, hresumed⟩)
        rw [if_pos hready]
        rcases hcause with hold | hresumed
        · rw [if_pos hold]
          omega
        · omega
      · rw [if_neg hready]
        omega
    · split <;> omega

/-- A completed task stays completed unless it is yielded. -/
theorem completed_step (horderly : Orderly scheduler)
    (hcompleted : scheduler.statusOf taskId = some .completed)
    (hevent : ∀ blockedBy snapshot reason,
      event ≠ .call (.yieldTask taskId blockedBy snapshot reason)) :
    (scheduler.step event).statusOf taskId = some .completed := by
  have hwrite {other : String} (hne : taskId ≠ other) (row : Assignment TaskHandle.taskId) :
      (scheduler.write other row).statusOf taskId = some .completed := by
    rw [statusOf_write, if_neg hne]
    exact hcompleted
  have hscan : ∀ (taskIds : List String) (scheduler : TaskScheduler),
      scheduler.statusOf taskId = some .completed →
      (taskIds.foldl unblockFrom scheduler).statusOf taskId = some .completed := by
    intro taskIds
    induction taskIds with
    | nil => exact fun _ h => h
    | cons other rest ih => exact fun _ h => ih _ ((completed_unblockFrom _ _ _).mpr h)
  have houtstanding {other : String} (hmem : other ∈ scheduler.outstanding) : taskId ≠ other := by
    rintro rfl
    exact horderly.unfinished taskId hmem hcompleted
  cases event with
  | dispatch =>
    rw [step]
    split
    · exact hcompleted
    · rename_i steps other ready hpoint
      refine hwrite (houtstanding ?_) TaskHandle.start
      simp [outstanding, hpoint]
    · exact hcompleted
  | collect index =>
    rw [step]
    split
    · rename_i steps future hpoint hfuture
      split
      · exact hcompleted
      · refine hwrite (houtstanding ?_) _
        simp only [outstanding, hpoint]
        exact mem_map_of_mem (mem_of_getElem? hfuture)
    · exact hcompleted
  | unblock =>
    have hall : scheduler.unblockAll.statusOf taskId = some .completed :=
      hscan _ scheduler hcompleted
    rw [step]
    split
    · dsimp only
      split
      · exact hall
      · exact hall
    · exact hcompleted
  | call call =>
    rw [step]
    split
    · cases call with
      | yieldTask other blockedBy snapshot reason =>
        exact hwrite (fun heq => hevent blockedBy snapshot reason (heq ▸ rfl)) _
      | resumeTask other results =>
        rw [perform, resumeTask]
        split
        · rename_i hyielded
          exact hwrite (fun heq => by simp [← heq, hcompleted] at hyielded) _
        · exact hcompleted
      | cancelTask other reason =>
        rw [perform, cancelTask]
        split
        · exact hcompleted
        · rename_i task htask
          split
          · exact hcompleted
          · rename_i hterminal
            refine hwrite ?_ _
            rintro rfl
            rw [statusOf, htask] at hcompleted
            exact hterminal (decide_eq_true (.inl (Option.some.inj hcompleted)))
    · exact hcompleted
  | _ =>
    have hsame (other : TaskScheduler) (htasks : other.tasks = scheduler.tasks) :
        other.statusOf taskId = some .completed := by
      rw [statusOf, getTask, htasks]
      exact hcompleted
    exact hsame _ (by grind [step, finish])

/-! ## Results -/

/-- A result is built at the end of a superstep, or when it breaks off. -/
theorem result_step (scheduler : TaskScheduler) (event : Event) :
    (scheduler.step event).result = scheduler.result ∨
      (scheduler.step event).result = some (scheduler.step event).buildResult ∧
        ((scheduler.step event).allTerminal = true ∨ event = .superstep ∧
          scheduler.breaksOff = true ∧ (scheduler.step event).tasks = scheduler.tasks) := by
  have hbuilt (other : TaskScheduler) : other.finish.buildResult = other.buildResult := rfl
  have hready (steps : Nat) :
      getReadyTasks { scheduler with stepCount := steps } = scheduler.getReadyTasks := rfl
  have hresume (scheduler : TaskScheduler) (taskId : String) :
      (scheduler.resumeTask taskId none).result = scheduler.result := by
    grind [resumeTask, write]
  have hresumes (taskIds : List String) : ∀ scheduler : TaskScheduler,
      (taskIds.foldl (fun scheduler resumed => scheduler.resumeTask resumed none)
        scheduler).result = scheduler.result := by
    induction taskIds with
    | nil => exact fun _ => rfl
    | cons first rest ih => exact fun scheduler => (ih _).trans (hresume scheduler first)
  have hscan (taskIds : List String) : ∀ scheduler : TaskScheduler,
      (taskIds.foldl unblockFrom scheduler).result = scheduler.result := by
    induction taskIds with
    | nil => exact fun _ => rfl
    | cons first rest ih =>
      intro scheduler
      refine (ih _).trans ?_
      rw [unblockFrom]
      split
      · exact hresumes _ _
      · rfl
  have hall : scheduler.unblockAll.result = scheduler.result := hscan _ scheduler
  cases event with
  | call call => cases call <;> grind [step, perform, yieldTask, resumeTask, cancelTask, write]
  | unblock => grind [step, finish, allTerminal]
  | superstep => grind [step, finish, breaksOff]
  | _ => grind [step, write]

theorem mem_withStatus {status : TaskStatus} :
    taskId ∈ scheduler.withStatus status ↔ scheduler.statusOf taskId = some status := by
  rw [withStatus, mem_map]
  constructor
  · rintro ⟨task, hmem, rfl⟩
    obtain ⟨hrow, hstatus⟩ := mem_filter.mp hmem
    exact Tasks.statusOf_eq_some.mpr ⟨task, Table.mem_rows_iff.mp hrow, of_decide_eq_true hstatus⟩
  · intro hstatus
    obtain ⟨task, htask, hsame⟩ := Tasks.statusOf_eq_some.mp hstatus
    obtain rfl := Table.key_of_lookup htask
    exact ⟨task, mem_filter.mpr ⟨Table.mem_rows_iff.mpr htask, decide_eq_true hsame⟩, rfl⟩

/-- Where nothing is left to do and nothing has failed, every task has completed or was
cancelled: of the others one of least rank would be ready. -/
theorem Settled.ended (h : scheduler.Settled) (hfailed : scheduler.withStatus .failed = [])
    (hordered : Tasks.Ordered scheduler.tasks) (hlinked : Tasks.Linked scheduler.tasks)
    (htask : scheduler.tasks.lookup taskId = some task) :
    task.status = .completed ∨ task.status = .cancelled := by
  obtain ⟨hready, hwaiting, hcancelled⟩ := h
  obtain ⟨rank, hrank⟩ := hordered
  have hnone {status : TaskStatus} (hnil : scheduler.withStatus status = []) {taskId : String}
      {task : TaskHandle} (htask : scheduler.tasks.lookup taskId = some task) :
      task.status ≠ status := by
    intro hstatus
    have hmem := mem_withStatus.mpr (Tasks.statusOf_eq_some.mpr ⟨task, htask, hstatus⟩)
    rw [hnil] at hmem
    cases hmem
  have hover {taskId : String} {task : TaskHandle}
      (htask : scheduler.tasks.lookup taskId = some task) (hlive : ¬ Live task) :
      task.status = .completed ∨ task.status = .cancelled := by
    have hyielded := hnone (hwaiting .yielded (by decide)) htask
    have hblocked := hnone (hwaiting .blocked (by decide)) htask
    have hrunning := hnone (hwaiting .running (by decide)) htask
    have hgood := hnone hfailed htask
    rw [Live] at hlive
    cases hstatus : task.status <;> simp_all
  refine hover htask ?_
  induction hn : rank task.taskId using Nat.strong_induction_on generalizing taskId task with
  | _ n ih =>
    intro hlive
    have hrow : task ∈ scheduler.tasks.rows :=
      Table.mem_rows_iff.mpr (Table.key_of_lookup htask ▸ htask)
    have hwaits : scheduler.isReady task = false := by
      by_contra htaken
      have hmem : task.taskId ∈ scheduler.getReadyTasks :=
        mem_map_of_mem (mem_filter.mpr ⟨hrow, Bool.eq_true_of_not_eq_false htaken⟩)
      rw [hready] at hmem
      cases hmem
    rw [Live] at hlive
    rw [isReady, decide_eq_true hlive, Bool.true_and, all_eq_false] at hwaits
    obtain ⟨dep, hdep, hopen⟩ := hwaits
    obtain ⟨other, hother⟩ := Option.isSome_iff_exists.mp (hlinked taskId task htask dep hdep)
    have hless : rank other.taskId < n := by
      rw [← hn, Table.key_of_lookup hother]
      exact hrank task hrow dep hdep
    have hdone := hover hother (ih _ hless hother rfl)
    rcases hdone with hcompleted | hstopped
    · exact hopen (decide_eq_true (.inr (Tasks.statusOf_eq_some.mpr ⟨other, hother, hcompleted⟩)))
    · exact hcancelled task hrow hlive dep hdep
        (Tasks.statusOf_eq_some.mpr ⟨other, hother, hstopped⟩)

/-- A result is honest where without a failure every task has ended. -/
theorem honest_buildResult (hended : scheduler.withStatus .failed = [] →
      ∀ task ∈ scheduler.tasks.lookup taskId, task.status = .completed ∨ task.status = .cancelled)
    (hsuccess : scheduler.buildResult.success = true)
    (htask : (scheduler.getTask taskId).isSome = true) :
    taskId ∈ scheduler.buildResult.completedTasks ∨
      taskId ∈ scheduler.buildResult.cancelledTasks := by
  simp only [buildResult, Bool.and_eq_true, List.isEmpty_iff] at hsuccess
  obtain ⟨task, htask⟩ := Option.isSome_iff_exists.mp htask
  exact (hended hsuccess.1 task htask).imp
    (fun hstatus => mem_withStatus.mpr (Tasks.statusOf_eq_some.mpr ⟨task, htask, hstatus⟩))
    fun hstatus => mem_withStatus.mpr (Tasks.statusOf_eq_some.mpr ⟨task, htask, hstatus⟩)

theorem ended_of_allTerminal (hterminal : scheduler.allTerminal = true)
    (hfailed : scheduler.withStatus .failed = [])
    (htask : scheduler.tasks.lookup taskId = some task) :
    task.status = .completed ∨ task.status = .cancelled := by
  have hrow := of_decide_eq_true
    (all_eq_true.mp hterminal task (Table.mem_rows_iff.mpr (Table.key_of_lookup htask ▸ htask)))
  rcases hrow with hcompleted | hstatus | hcancelled
  · exact .inl hcompleted
  · have hmem := mem_withStatus.mpr (Tasks.statusOf_eq_some.mpr ⟨task, htask, hstatus⟩)
    rw [hfailed] at hmem
    cases hmem
  · exact .inr hcancelled

/-! ## Runs -/

variable {log : DispatchLog}

/-- What holds between two events. -/
structure Reported (log : DispatchLog) : Prop where
  orderly : Orderly log.scheduler
  linked : Tasks.Linked log.scheduler.tasks
  ordered : Tasks.Ordered log.scheduler.tasks
  ready : ∀ taskId ∈ log.scheduler.taken, ∀ task ∈ log.scheduler.tasks.lookup taskId,
    ∀ dep ∈ task.dependencies, log.scheduler.statusOf dep = some .completed
  retries : ∀ taskId, ∀ task ∈ log.scheduler.tasks.lookup taskId, task.retryCount ≤ task.maxRetries
  spent : ∀ taskId, ∀ task ∈ log.scheduler.tasks.lookup taskId, log.dispatched.count taskId +
      (if taskId ∈ log.scheduler.taken ∨ Live task then 1 else 0) ≤
    1 + task.retryCount + log.resumed.count taskId
  honest : ∀ result ∈ log.scheduler.result, result.success = true →
    ∀ taskId, (log.scheduler.getTask taskId).isSome = true →
      taskId ∈ result.completedTasks ∨ taskId ∈ result.cancelledTasks

/-- The account is kept by a step that meets the condition. -/
theorem Reported.step (h : Reported log)
    (hconclusive : log.scheduler.Conclusive event) : Reported (log.step event) := by
  have hmove := move_step log.scheduler event
  constructor
  case orderly => exact h.orderly.step event
  case linked => exact h.linked.move hmove
  case ordered => exact h.ordered.move hmove
  case ready =>
    intro taskId htaken task htask dep hdep
    obtain ⟨old, hold, hmoves⟩ := hmove.exists_of_mem htask
    rw [hmoves.1] at hdep
    apply completed_step h.orderly
    · rcases taken_step htaken with hbefore | ⟨-, hready⟩
      · exact h.ready taskId hbefore old hold dep hdep
      · obtain ⟨other, hother, -, hdone⟩ := mem_getReadyTasks hready
        obtain rfl : old = other := Option.some.inj (hold.symm.trans hother)
        exact hdone dep hdep (h.linked taskId old hold dep hdep)
    · rintro blockedBy snapshot reason rfl
      rcases taken_step htaken with hbefore | ⟨heq, -⟩
      · exact hconclusive taskId hbefore old hold hdep (h.ready taskId hbefore old hold dep hdep)
      · cases heq
  case retries =>
    intro taskId task htask
    obtain ⟨old, hold, -, hmax, hretry⟩ := hmove.exists_of_mem htask
    have hbefore := h.retries taskId old hold
    rcases hretry with ⟨hsame, -⟩ | hmore <;> omega
  case spent =>
    intro taskId task htask
    obtain ⟨old, hold, hmoves⟩ := hmove.exists_of_mem htask
    have hbefore := h.spent taskId old hold
    have hstep := spent_step h.orderly hold htask hmoves
    change (log.dispatched ++ _).count taskId +
      (if taskId ∈ (log.scheduler.step event).taken ∨ Live task then 1 else 0) ≤
        1 + task.retryCount + (log.resumed ++ _).count taskId
    rw [count_append, count_append]
    omega
  case honest =>
    intro result hresult hsuccess taskId htask
    rcases result_step log.scheduler event with hsame | ⟨hbuilt, hended⟩
    · refine h.honest result (hsame ▸ hresult) hsuccess taskId ?_
      rw [getTask, ← hmove.isSome]
      exact htask
    · obtain rfl := Option.some.inj (hbuilt.symm.trans hresult)
      refine honest_buildResult (fun hfailed task htask => ?_) hsuccess htask
      rcases hended with hterminal | ⟨rfl, hbreaks, htasks⟩
      · exact ended_of_allTerminal hterminal hfailed htask
      · have hgood : log.scheduler.withStatus .failed = [] := by
          rw [withStatus, ← htasks]
          exact hfailed
        have hsettled := (hconclusive hbreaks).resolve_right (not_not.mpr hgood)
        exact hsettled.ended hgood h.ordered h.linked (htasks ▸ htask)

/-- The account gives the law. -/
theorem Reported.law (h : Reported log) : log.Law where
  afterDependencies taskId hnext := by
    obtain ⟨steps, ready, hpoint⟩ := nextReady_eq_some hnext
    apply h.ready
    rw [taken, hpoint]
    exact mem_cons_self
  bounded taskId task htask := by
    have hretries := h.retries taskId task htask
    have hspent := h.spent taskId task htask
    omega
  honest := h.honest

def brokenOff : List Event :=
  [.schedule 1, .superstep, .dispatch, .dispatch, .dispatch, .start, .start,
    .ended 0 (.ok .none), .collect 0, .ended 0 (.ok .none), .collect 0, .unblock, .superstep]

/-- `schedule` is called once more when all is done, and ends at the head of its loop. -/
def scheduledAgain : List Event := publishedLast ++ [.schedule 3, .superstep]

end TaskScheduler

end HiAgent.TaskMgmt
