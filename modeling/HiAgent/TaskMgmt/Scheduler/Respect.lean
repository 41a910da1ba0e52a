/-
  TaskMgmt/Scheduler/Respect.lean --- yielded and cancelled tasks are left alone.

  `_dispatch_task` and `_on_task_done` write the status of a task without a look at it.
-/
import HiAgent.TaskMgmt.Scheduler

namespace HiAgent.TaskMgmt

open Foundation Trajectory List

/-- A task that yielded, and the tasks it named then. -/
structure Wait where
  taskId : String
  blockers : List String

/-- A scheduler, with the tasks that were cancelled and the yields that still hold. -/
structure Watched where
  scheduler : TaskScheduler
  cancelled : List String := []
  waits : List Wait := []

def SchedulePoint.Between : SchedulePoint → Prop
  | .idle | .looping _ => True
  | _ => False

namespace TaskScheduler

variable (scheduler : TaskScheduler)

def isOver (wait : Wait) : Bool :=
  wait.blockers.all fun blocker => decide (scheduler.statusOf blocker = some .completed)

/-- The call that an event makes. -/
def callOf : Event → Option TaskCall
  | .call call =>
    if scheduler.point = .idle ∨ scheduler.futures.any Future.isRunning = true then some call
    else none
  | _ => none

/-- What a call cancels. -/
def cancels : TaskCall → List String
  | .cancelTask taskId _ =>
    match scheduler.getTask taskId with
    | some task => if task.isTerminal = true then [] else [taskId]
    | none => []
  | _ => []

/-- The yields that hold after a call: an explicit `resume_task` ends those of a task. -/
def waitsAfter (waits : List Wait) : TaskCall → List Wait
  | .yieldTask taskId blockedBy _ _ =>
    if (scheduler.getTask taskId).isSome = true ∧ blockedBy ≠ [] then
      waits ++ [{ taskId := taskId, blockers := blockedBy }]
    else waits
  | .resumeTask taskId _ =>
    if scheduler.statusOf taskId = some .yielded then
      waits.filter fun wait => decide (wait.taskId ≠ taskId)
    else waits
  | .cancelTask .. => waits

end TaskScheduler

namespace Watched

/-- One event. A yield no longer holds once every task it named is COMPLETED. -/
def step (watched : Watched) (event : TaskScheduler.Event) : Watched :=
  let next := watched.scheduler.step event
  let call := watched.scheduler.callOf event
  { scheduler := next
    cancelled := watched.cancelled ++ (call.map watched.scheduler.cancels).getD []
    waits := ((call.map (watched.scheduler.waitsAfter watched.waits)).getD watched.waits).filter
      fun wait => !next.isOver wait }

/-- A cancelled task is CANCELLED, so it is not dispatched again; a task that yielded and
waits has neither completed nor failed, nor is it dispatched. -/
structure Law (watched : Watched) : Prop where
  cancelled : ∀ taskId ∈ watched.cancelled, watched.scheduler.statusOf taskId = some .cancelled
  waiting : ∀ wait ∈ watched.waits, ∀ status, watched.scheduler.statusOf wait.taskId = some status →
    status ≠ .completed ∧ status ≠ .failed ∧ status ≠ .running

end Watched

namespace TaskScheduler

variable (scheduler : TaskScheduler)

/-- A task is not CANCELLED and, if it is YIELDED, waits for COMPLETED tasks only. -/
def Free (taskId : String) : Prop :=
  ∀ task ∈ scheduler.getTask taskId, task.status ≠ .cancelled ∧
    (task.status = .yielded → ∀ blocker ∈ task.blockedBy,
      scheduler.statusOf blocker = some .completed)

instance (taskId : String) : Decidable (scheduler.Free taskId) :=
  inferInstanceAs (Decidable (∀ task ∈ scheduler.getTask taskId, _))

/-- A task may yield when it has neither completed nor been cancelled, and a task that
waits already when it goes on waiting for what has not completed. -/
def MayYield (taskId : String) (blockedBy : List String) : Prop :=
  ∀ task ∈ scheduler.getTask taskId, task.status ≠ .cancelled ∧ task.status ≠ .completed ∧
    (task.status = .yielded → ∀ blocker ∈ task.blockedBy,
      scheduler.statusOf blocker = some .completed ∨ blocker ∈ blockedBy)

instance (taskId : String) (blockedBy : List String) :
    Decidable (scheduler.MayYield taskId blockedBy) :=
  inferInstanceAs (Decidable (∀ task ∈ scheduler.getTask taskId, _))

/-- The task that the next `_dispatch_task` is for. -/
def nextReady : Option String :=
  match scheduler.point with
  | .dispatching _ (taskId :: _) => some taskId
  | _ => none

/-- A task is free when it is dispatched and when its result is collected, and a task
that yields may do so. -/
def Undisturbed : Event → Prop
  | .dispatch => ∀ taskId ∈ scheduler.nextReady, scheduler.Free taskId
  | .collect index => ∀ future ∈ scheduler.futures[index]?, scheduler.Free future.taskId
  | .call (.yieldTask taskId blockedBy _ _) => scheduler.MayYield taskId blockedBy
  | _ => True

instance Undisturbed.decide : ∀ event, Decidable (scheduler.Undisturbed event)
  | .dispatch => inferInstanceAs (Decidable (∀ taskId ∈ scheduler.nextReady, _))
  | .collect index => inferInstanceAs (Decidable (∀ future ∈ scheduler.futures[index]?, _))
  | .call (.yieldTask taskId blockedBy _ _) =>
    inferInstanceAs (Decidable (scheduler.MayYield taskId blockedBy))
  | .call (.resumeTask ..) | .call (.cancelTask ..) => isTrue trivial
  | .schedule _ | .superstep | .start | .ended .. | .unblock => isTrue trivial

/-! ## The invariant -/

abbrev Tasks := Table TaskHandle.taskId

def Tasks.statusOf (tasks : Tasks) (taskId : String) : Option TaskStatus :=
  (tasks.lookup taskId).map TaskHandle.status

def Tasks.write (tasks : Tasks) (taskId : String) (row : Assignment TaskHandle.taskId) : Tasks :=
  tasks.updateAt taskId (fun _ => true) row

/-- The task of a yield was cancelled, or it is YIELDED and still names what has not
completed. -/
def Tasks.Holds (tasks : Tasks) (wait : Wait) : Prop :=
  ∃ task, tasks.lookup wait.taskId = some task ∧ (task.status = .cancelled ∨
    task.status = .yielded ∧ ∀ blocker ∈ wait.blockers,
      tasks.statusOf blocker = some .completed ∨ blocker ∈ task.blockedBy)

/-- What holds of the tasks. -/
structure Kept (tasks : Tasks) (cancelled : List String) (waits : List Wait) : Prop where
  cancelled : ∀ taskId ∈ cancelled, tasks.statusOf taskId = some .cancelled
  holds : ∀ wait ∈ waits, tasks.Holds wait

def outstanding : List String :=
  match scheduler.point with
  | .dispatching _ ready => ready ++ scheduler.futures.map Future.taskId
  | _ => scheduler.futures.map Future.taskId

/-- What holds of the superstep: no task of it has completed, and no task is in it twice. -/
structure Orderly (scheduler : TaskScheduler) : Prop where
  nodup : scheduler.outstanding.Nodup
  unfinished : ∀ taskId ∈ scheduler.outstanding, scheduler.statusOf taskId ≠ some .completed
  between : scheduler.point.Between → scheduler.futures = []

/-- What holds between two events. -/
structure Inv (watched : Watched) : Prop where
  kept : Kept watched.scheduler.tasks watched.cancelled watched.waits
  opened : ∀ wait ∈ watched.waits, watched.scheduler.isOver wait = false
  orderly : Orderly watched.scheduler

/-! ### Writes -/

variable {scheduler} {tasks : Tasks} {cancelled : List String} {waits : List Wait}

theorem Tasks.lookup_write (tasks : Tasks) (taskId other : String)
    (row : Assignment TaskHandle.taskId) : (tasks.write taskId row).lookup other =
      if other = taskId then (tasks.lookup taskId).map row.set else tasks.lookup other := by
  rw [Tasks.write, Table.lookup_updateAt]
  rfl

theorem Tasks.statusOf_write (tasks : Tasks) (taskId other : String)
    (row : Assignment TaskHandle.taskId) : (tasks.write taskId row).statusOf other =
      if other = taskId then (tasks.lookup taskId).map fun task => (row.set task).status
      else tasks.statusOf other := by
  rw [Tasks.statusOf, Tasks.lookup_write]
  split
  · exact Option.map_map ..
  · rfl

variable {taskId : String}

theorem Tasks.statusOf_eq_some {status : TaskStatus} : tasks.statusOf taskId = some status ↔
      ∃ task, tasks.lookup taskId = some task ∧ task.status = status := Option.map_eq_some_iff

theorem Kept.write (h : Kept tasks cancelled waits)
    {row : Assignment TaskHandle.taskId} (hopen : tasks.statusOf taskId ≠ some .completed)
    (hgone : taskId ∈ cancelled → (tasks.write taskId row).statusOf taskId = some .cancelled)
    (hholds : ∀ wait ∈ waits, wait.taskId = taskId → (tasks.write taskId row).Holds wait) :
    Kept (tasks.write taskId row) cancelled waits where
  cancelled other hother := by
    by_cases heq : other = taskId
    · subst heq
      exact hgone hother
    · rw [Tasks.statusOf_write, if_neg heq]
      exact h.cancelled other hother
  holds wait hwait := by
    by_cases heq : wait.taskId = taskId
    · exact hholds wait hwait heq
    · obtain ⟨task, htask, hstatus⟩ := h.holds wait hwait
      refine ⟨task, ?_, ?_⟩
      · rw [Tasks.lookup_write, if_neg heq]
        exact htask
      · apply hstatus.imp_right
        rintro ⟨hyielded, hblock⟩
        refine ⟨hyielded, fun blocker hblocker => (hblock blocker hblocker).imp_left ?_⟩
        intro hcompleted
        have hne : blocker ≠ taskId := by
          rintro rfl
          exact hopen hcompleted
        rw [Tasks.statusOf_write, if_neg hne]
        exact hcompleted

theorem Kept.free (h : Kept scheduler.tasks cancelled waits)
    (hopened : ∀ wait ∈ waits, scheduler.isOver wait = false) (hfree : scheduler.Free taskId) :
    taskId ∉ cancelled ∧ ∀ wait ∈ waits, wait.taskId ≠ taskId := by
  constructor
  · intro hmem
    obtain ⟨task, htask, hstatus⟩ := Tasks.statusOf_eq_some.mp (h.cancelled taskId hmem)
    exact (hfree task htask).1 hstatus
  · rintro wait hwait rfl
    obtain ⟨task, htask, hstatus⟩ := h.holds wait hwait
    obtain ⟨hnot, hblocked⟩ := hfree task htask
    rcases hstatus with hgone | ⟨hyielded, hblock⟩
    · exact hnot hgone
    · have hover : scheduler.isOver wait = true := by
        rw [isOver, all_eq_true]
        intro blocker hblocker
        apply decide_eq_true
        rcases hblock blocker hblocker with hcompleted | hnamed
        · exact hcompleted
        · exact hblocked hyielded blocker hnamed
      exact absurd (hopened wait hwait) (by rw [hover]; exact Bool.noConfusion)

theorem Kept.write_free (h : Kept scheduler.tasks cancelled waits)
    (hopened : ∀ wait ∈ waits, scheduler.isOver wait = false)
    (hfree : scheduler.Free taskId) (hopen : scheduler.statusOf taskId ≠ some .completed)
    (row : Assignment TaskHandle.taskId) :
    Kept (Tasks.write scheduler.tasks taskId row) cancelled waits := by
  obtain ⟨hgone, hwaits⟩ := h.free hopened hfree
  refine h.write hopen (fun hmem => absurd hmem hgone) fun wait hwait heq => ?_
  exact absurd heq (hwaits wait hwait)

theorem Kept.filter (h : Kept tasks cancelled waits) (p : Wait → Bool) :
    Kept tasks cancelled (waits.filter p) where
  cancelled := h.cancelled
  holds wait hwait := h.holds wait (mem_of_mem_filter hwait)

/-! ### Calls -/

section

variable (h : Kept scheduler.tasks cancelled waits)
include h

theorem Kept.yieldTask {blockedBy : List String} (hmay : scheduler.MayYield taskId blockedBy)
    (sessionSnapshot : Option PyDict) (reason : String) :
    Kept (scheduler.yieldTask taskId blockedBy sessionSnapshot reason).tasks cancelled
      (scheduler.waitsAfter waits (.yieldTask taskId blockedBy sessionSnapshot reason)) := by
  have hopen : Tasks.statusOf scheduler.tasks taskId ≠ some .completed := by
    intro hcompleted
    obtain ⟨task, htask, hstatus⟩ := Tasks.statusOf_eq_some.mp hcompleted
    exact (hmay task htask).2.1 hstatus
  -- A blocker that has completed is another task, and stays as it is.
  have hstays {blocker : String}
      (hcompleted : Tasks.statusOf scheduler.tasks blocker = some .completed) :
      (Tasks.write scheduler.tasks taskId
        (TaskHandle.yield blockedBy sessionSnapshot reason)).statusOf blocker =
          some .completed := by
    have hne : blocker ≠ taskId := by
      rintro rfl
      exact hopen hcompleted
    rw [Tasks.statusOf_write, if_neg hne]
    exact hcompleted
  have hrow {task : TaskHandle} (htask : scheduler.tasks.lookup taskId = some task) :
      (Tasks.write scheduler.tasks taskId
        (TaskHandle.yield blockedBy sessionSnapshot reason)).lookup taskId =
          some ((TaskHandle.yield blockedBy sessionSnapshot reason).set task) := by
    rw [Tasks.lookup_write, if_pos rfl, htask]
    rfl
  have hold : Kept (scheduler.yieldTask taskId blockedBy sessionSnapshot reason).tasks
      cancelled waits := by
    refine h.write hopen ?_ ?_
    · intro hmem
      obtain ⟨task, htask, hstatus⟩ := Tasks.statusOf_eq_some.mp (h.cancelled taskId hmem)
      exact absurd hstatus (hmay task htask).1
    · rintro wait hwait rfl
      obtain ⟨task, htask, hstatus⟩ := h.holds wait hwait
      refine ⟨_, hrow htask, .inr ⟨rfl, fun blocker hblocker => ?_⟩⟩
      rcases hstatus with hgone | ⟨hyielded, hblock⟩
      · exact absurd hgone (hmay task htask).1
      · rcases hblock blocker hblocker with hcompleted | hnamed
        · exact .inl (hstays hcompleted)
        · exact ((hmay task htask).2.2 hyielded blocker hnamed).imp_left hstays
  rw [waitsAfter]
  split
  · rename_i hnew
    refine ⟨hold.cancelled, fun wait hwait => ?_⟩
    rcases mem_append.mp hwait with hmem | hmem
    · exact hold.holds wait hmem
    · rw [mem_singleton] at hmem
      subst hmem
      obtain ⟨task, htask⟩ := Option.isSome_iff_exists.mp hnew.1
      exact ⟨_, hrow htask, .inr ⟨rfl, fun blocker hblocker => .inr hblocker⟩⟩
  · exact hold

theorem Kept.resumeTask (taskId : String) (dependencyResults : Option PyDict) :
    Kept (scheduler.resumeTask taskId dependencyResults).tasks cancelled
      (scheduler.waitsAfter waits (.resumeTask taskId dependencyResults)) := by
  rw [TaskScheduler.resumeTask, waitsAfter]
  split
  · rename_i hyielded
    have hstatus : Tasks.statusOf scheduler.tasks taskId = some .yielded := hyielded
    refine (h.filter _).write ?_ ?_ ?_
    · rw [hstatus]
      decide
    · intro hmem
      have hgone := h.cancelled taskId hmem
      rw [hstatus] at hgone
      cases hgone
    · intro wait hwait heq
      exact absurd heq (of_decide_eq_true (mem_filter.mp hwait).2)
  · exact h

theorem Kept.cancelTask (taskId reason : String) :
    Kept (scheduler.cancelTask taskId reason).tasks
      (cancelled ++ scheduler.cancels (.cancelTask taskId reason)) waits := by
  rw [TaskScheduler.cancelTask, cancels]
  cases htask : scheduler.getTask taskId with
  | none => exact (append_nil cancelled).symm ▸ h
  | some task =>
    dsimp only
    split
    · exact (append_nil cancelled).symm ▸ h
    · rename_i hterminal
      have hrow : (Tasks.write scheduler.tasks taskId (TaskHandle.cancel reason)).lookup taskId =
          some ((TaskHandle.cancel reason).set task) := by
        have hlookup : scheduler.tasks.lookup taskId = some task := htask
        rw [Tasks.lookup_write, if_pos rfl, hlookup]
        rfl
      have hgone : (Tasks.write scheduler.tasks taskId
          (TaskHandle.cancel reason)).statusOf taskId = some .cancelled :=
        Tasks.statusOf_eq_some.mpr ⟨_, hrow, rfl⟩
      have hold : Kept (Tasks.write scheduler.tasks taskId (TaskHandle.cancel reason))
          cancelled waits := by
        refine h.write ?_ (fun _ => hgone) ?_
        · intro hcompleted
          obtain ⟨other, hother, hstatus⟩ := Tasks.statusOf_eq_some.mp hcompleted
          obtain rfl : task = other := Option.some.inj (htask.symm.trans hother)
          exact hterminal (decide_eq_true (.inl hstatus))
        · rintro wait - rfl
          exact ⟨_, hrow, .inl rfl⟩
      refine ⟨fun other hother => ?_, hold.holds⟩
      rcases mem_append.mp hother with hmem | hmem
      · exact hold.cancelled other hmem
      · rw [mem_singleton.mp hmem]
        exact hgone

end

/-! ### The unblock scan -/

/-- What the scan of one COMPLETED task makes of a task. -/
def released (completed : String) (task : TaskHandle) : TaskHandle :=
  if waitsOnlyFor completed task then
    (TaskHandle.resume none).set ((TaskHandle.dropBlocker completed).set task)
  else if waitsFor completed task then (TaskHandle.dropBlocker completed).set task
  else task

theorem lookup_resumeTask (scheduler : TaskScheduler) (taskId other : String)
    (dependencyResults : Option PyDict) :
    (scheduler.resumeTask taskId dependencyResults).tasks.lookup other =
      (scheduler.tasks.lookup other).map fun task => if other = taskId ∧ task.status = .yielded then
          (TaskHandle.resume dependencyResults).set task else task := by
  rw [resumeTask]
  by_cases heq : other = taskId
  · subst heq
    have hstatus : scheduler.statusOf other =
        (scheduler.tasks.lookup other).map TaskHandle.status := rfl
    have hwrite := Tasks.lookup_write scheduler.tasks other other
      (TaskHandle.resume dependencyResults)
    rw [if_pos rfl] at hwrite
    cases htask : scheduler.tasks.lookup other with
    | none =>
      rw [htask] at hstatus
      have hnot : ¬ scheduler.statusOf other = some .yielded := by
        rw [hstatus]
        intro heq
        cases heq
      rw [if_neg hnot, htask]
      rfl
    | some task =>
      rw [htask] at hstatus hwrite
      by_cases hyielded : task.status = .yielded
      · rw [if_pos (hstatus.trans (congrArg some hyielded)), Option.map_some,
          if_pos ⟨rfl, hyielded⟩]
        exact hwrite
      · have hnot : ¬ scheduler.statusOf other = some .yielded := fun heq =>
          hyielded (Option.some.inj (hstatus.symm.trans heq))
        rw [if_neg hnot, Option.map_some, if_neg fun hboth => hyielded hboth.2, htask]
  · have hsame : (scheduler.tasks.lookup other).map (fun task =>
        if other = taskId ∧ task.status = .yielded then
          (TaskHandle.resume dependencyResults).set task
        else task) = scheduler.tasks.lookup other := by
      simp only [heq, false_and, if_false, Option.map_id']
    rw [hsame]
    split
    · have hwrite := Tasks.lookup_write scheduler.tasks taskId other
        (TaskHandle.resume dependencyResults)
      rw [if_neg heq] at hwrite
      exact hwrite
    · rfl

theorem lookup_resumeAll (taskIds : List String) (scheduler : TaskScheduler) (other : String) :
    (taskIds.foldl (fun scheduler resumed => scheduler.resumeTask resumed none)
        scheduler).tasks.lookup other = (scheduler.tasks.lookup other).map fun task =>
        if other ∈ taskIds ∧ task.status = .yielded then (TaskHandle.resume none).set task
        else task := by
  induction taskIds generalizing scheduler with
  | nil => simp
  | cons first rest ih =>
    rw [foldl_cons, ih, lookup_resumeTask, Option.map_map]
    refine congrArg (fun f => (scheduler.tasks.lookup other).map f) (funext fun task => ?_)
    rw [Function.comp_apply]
    by_cases hyielded : task.status = .yielded
    · by_cases hfirst : other = first
      · have hready : ((TaskHandle.resume none).set task).status ≠ .yielded := by
          intro heq
          cases heq
        have hmem : other ∈ first :: rest := mem_cons.mpr (.inl hfirst)
        have hinner : (if other = first ∧ task.status = .yielded then
            (TaskHandle.resume none).set task else task) = (TaskHandle.resume none).set task :=
          if_pos ⟨hfirst, hyielded⟩
        rw [hinner, if_neg fun hboth => hready hboth.2, if_pos ⟨hmem, hyielded⟩]
      · have hinner : (if other = first ∧ task.status = .yielded then
            (TaskHandle.resume none).set task else task) = task :=
          if_neg fun hboth => hfirst hboth.1
        rw [hinner]
        simp only [mem_cons, hfirst, false_or]
    · simp only [hyielded, and_false, if_false]

theorem lookup_unblockFrom (scheduler : TaskScheduler)
    (hcompleted : scheduler.statusOf taskId = some .completed) (other : String) :
    (scheduler.unblockFrom taskId).tasks.lookup other =
      (scheduler.tasks.lookup other).map (released taskId) := by
  rw [unblockFrom, if_pos hcompleted]
  dsimp only
  rw [lookup_resumeAll, checkUnblock]
  dsimp only
  rw [Table.lookup_update, Option.map_map]
  cases htask : scheduler.tasks.lookup other with
  | none => rfl
  | some task =>
    have hmem : other ∈ (scheduler.tasks.rows.filter (waitsOnlyFor taskId)).map
        TaskHandle.taskId ↔ waitsOnlyFor taskId task = true := by
      obtain rfl := Table.key_of_lookup htask
      constructor
      · intro hmem
        obtain ⟨row, hrow, hkey⟩ := mem_map.mp hmem
        obtain ⟨hin, honly⟩ := mem_filter.mp hrow
        have hlookup := Table.mem_rows_iff.mp hin
        rw [hkey, htask] at hlookup
        rw [Option.some.inj hlookup]
        exact honly
      · intro honly
        exact mem_map_of_mem (mem_filter.mpr ⟨Table.mem_rows_iff.mpr htask, honly⟩)
    rw [Option.map_some, Option.map_some, Function.comp_apply, released]
    by_cases honly : waitsOnlyFor taskId task = true
    · have hwaits : waitsFor taskId task = true := (Bool.and_eq_true_iff.mp honly).1
      have hyielded : ((TaskHandle.dropBlocker taskId).set task).status = .yielded :=
        (of_decide_eq_true hwaits).1
      rw [if_pos hwaits, if_pos ⟨hmem.mpr honly, hyielded⟩, if_pos honly]
    · rw [if_neg fun hboth => honly (hmem.mp hboth.1), if_neg honly]

theorem status_released (completed : String) (task : TaskHandle) :
    (released completed task).status = task.status ∨
      task.status = .yielded ∧ (released completed task).status = .ready := by
  rw [released]
  split
  · rename_i honly
    have hwaits : waitsFor completed task = true := (Bool.and_eq_true_iff.mp honly).1
    exact .inr ⟨(of_decide_eq_true hwaits).1, rfl⟩
  · split
    · exact .inl rfl
    · exact .inl rfl

theorem completed_unblockFrom (scheduler : TaskScheduler) (taskId other : String) :
    (scheduler.unblockFrom taskId).statusOf other = some .completed ↔
      scheduler.statusOf other = some .completed := by
  by_cases hcompleted : scheduler.statusOf taskId = some .completed
  · have hlookup := scheduler.lookup_unblockFrom hcompleted other
    rw [statusOf, getTask, hlookup, statusOf, getTask]
    cases scheduler.tasks.lookup other with
    | none => exact Iff.rfl
    | some task =>
      rw [Option.map_some, Option.map_some, Option.map_some, Option.some.injEq, Option.some.injEq]
      rcases status_released taskId task with hsame | ⟨hyielded, hready⟩
      · rw [hsame]
      · rw [hyielded, hready]
        exact iff_of_false (by decide) (by decide)
  · rw [unblockFrom, if_neg hcompleted]

theorem isOver_unblockFrom (scheduler : TaskScheduler) (taskId : String) (wait : Wait) :
    (scheduler.unblockFrom taskId).isOver wait = scheduler.isOver wait := by
  simp only [isOver, completed_unblockFrom]

theorem Kept.unblockFrom (h : Kept scheduler.tasks cancelled waits)
    (hopened : ∀ wait ∈ waits, scheduler.isOver wait = false) (taskId : String) :
    Kept (scheduler.unblockFrom taskId).tasks cancelled waits := by
  by_cases hcompleted : scheduler.statusOf taskId = some .completed
  · have hlookup := scheduler.lookup_unblockFrom hcompleted
    have hstays (other : String) (hother : Tasks.statusOf scheduler.tasks other = some .completed) :
        Tasks.statusOf (scheduler.unblockFrom taskId).tasks other = some .completed :=
      (scheduler.completed_unblockFrom taskId other).mpr hother
    constructor
    · intro other hother
      obtain ⟨task, htask, hstatus⟩ := Tasks.statusOf_eq_some.mp (h.cancelled other hother)
      refine Tasks.statusOf_eq_some.mpr ⟨released taskId task, ?_, ?_⟩
      · rw [hlookup, htask]
        rfl
      · rcases status_released taskId task with hsame | ⟨hyielded, -⟩
        · exact hsame.trans hstatus
        · rw [hstatus] at hyielded
          cases hyielded
    · intro wait hwait
      obtain ⟨task, htask, hstatus⟩ := h.holds wait hwait
      refine ⟨released taskId task, ?_, ?_⟩
      · rw [hlookup, htask]
        rfl
      · rcases hstatus with hgone | ⟨hyielded, hblock⟩
        · left
          rcases status_released taskId task with hsame | ⟨hyielded, -⟩
          · exact hsame.trans hgone
          · rw [hgone] at hyielded
            cases hyielded
        · right
          have hnotOnly : ¬ waitsOnlyFor taskId task = true := by
            intro honly
            have hover : scheduler.isOver wait = true := by
              rw [isOver, all_eq_true]
              intro blocker hblocker
              apply decide_eq_true
              rcases hblock blocker hblocker with hdone | hnamed
              · exact hdone
              · have hempty := List.isEmpty_iff.mp (Bool.and_eq_true_iff.mp honly).2
                have heq := filter_eq_nil_iff.mp hempty blocker hnamed
                rw [decide_eq_true_eq, not_not] at heq
                rw [heq]
                exact hcompleted
            rw [hopened wait hwait] at hover
            cases hover
          rw [released, if_neg hnotOnly]
          split
          · refine ⟨hyielded, fun blocker hblocker => ?_⟩
            by_cases heq : blocker = taskId
            · rw [heq]
              exact .inl (hstays taskId hcompleted)
            · refine (hblock blocker hblocker).imp (hstays blocker) fun hnamed => ?_
              exact mem_filter.mpr ⟨hnamed, decide_eq_true heq⟩
          · exact ⟨hyielded, fun blocker hblocker =>
              (hblock blocker hblocker).imp_left (hstays blocker)⟩
  · rw [TaskScheduler.unblockFrom, if_neg hcompleted]
    exact h

theorem Kept.unblockAll (h : Kept scheduler.tasks cancelled waits)
    (hopened : ∀ wait ∈ waits, scheduler.isOver wait = false) :
    Kept scheduler.unblockAll.tasks cancelled waits := by
  have hscan : ∀ (taskIds : List String) (scheduler : TaskScheduler),
      Kept scheduler.tasks cancelled waits → (∀ wait ∈ waits, scheduler.isOver wait = false) →
      Kept (taskIds.foldl TaskScheduler.unblockFrom scheduler).tasks cancelled waits := by
    intro taskIds
    induction taskIds with
    | nil => exact fun _ h _ => h
    | cons taskId rest ih =>
      intro scheduler h hopened
      refine ih (scheduler.unblockFrom taskId) (h.unblockFrom hopened taskId) ?_
      intro wait hwait
      rw [isOver_unblockFrom]
      exact hopened wait hwait
  exact hscan _ scheduler h hopened

/-! ### The superstep -/

theorem futures_unblockAll (scheduler : TaskScheduler) :
    scheduler.unblockAll.futures = scheduler.futures := by
  have hresume (scheduler : TaskScheduler) (taskId : String) :
      (scheduler.resumeTask taskId none).futures = scheduler.futures := by
    rw [resumeTask]
    split
    · rfl
    · rfl
  have hresumes (taskIds : List String) : ∀ scheduler : TaskScheduler,
      (taskIds.foldl (fun scheduler resumed => scheduler.resumeTask resumed none)
        scheduler).futures = scheduler.futures := by
    induction taskIds with
    | nil => exact fun _ => rfl
    | cons first rest ih => exact fun scheduler => (ih _).trans (hresume scheduler first)
  have hfrom (scheduler : TaskScheduler) (taskId : String) :
      (scheduler.unblockFrom taskId).futures = scheduler.futures := by
    rw [unblockFrom]
    split
    · exact hresumes _ _
    · rfl
  have hscan (taskIds : List String) : ∀ scheduler : TaskScheduler,
      (taskIds.foldl unblockFrom scheduler).futures = scheduler.futures := by
    induction taskIds with
    | nil => exact fun _ => rfl
    | cons first rest ih => exact fun scheduler => (ih _).trans (hfrom scheduler first)
  exact hscan _ scheduler

theorem statusOf_write (scheduler : TaskScheduler) (taskId other : String)
    (row : Assignment TaskHandle.taskId) : (scheduler.write taskId row).statusOf other =
      if other = taskId then (scheduler.getTask taskId).map fun task => (row.set task).status
      else scheduler.statusOf other :=
  Tasks.statusOf_write scheduler.tasks taskId other row

theorem completed_of_write {taskId other : String} {row : Assignment TaskHandle.taskId}
    (hrow : ∀ task, (row.set task).status ≠ .completed)
    (hcompleted : (scheduler.write taskId row).statusOf other = some .completed) :
    scheduler.statusOf other = some .completed := by
  rw [statusOf_write] at hcompleted
  split at hcompleted
  · obtain ⟨task, -, hstatus⟩ := Option.map_eq_some_iff.mp hcompleted
    exact absurd hstatus (hrow task)
  · exact hcompleted

theorem Orderly.perform (h : Orderly scheduler) (call : TaskCall) :
    Orderly (scheduler.perform call) := by
  have hwrite {taskId : String} {row : Assignment TaskHandle.taskId}
      (hrow : ∀ task, (row.set task).status ≠ .completed) :
      Orderly (scheduler.write taskId row) := by
    refine ⟨h.nodup, ?_, h.between⟩
    intro other hother hcompleted
    exact h.unfinished other hother (completed_of_write hrow hcompleted)
  cases call with
  | yieldTask taskId blockedBy sessionSnapshot reason =>
    exact hwrite fun task heq => by cases heq
  | resumeTask taskId dependencyResults =>
    rw [TaskScheduler.perform, resumeTask]
    split
    · exact hwrite fun task heq => by cases heq
    · exact h
  | cancelTask taskId reason =>
    rw [TaskScheduler.perform, cancelTask]
    split
    · exact h
    · split
      · exact h
      · exact hwrite fun task heq => by cases heq

theorem Orderly.relabel (h : Orderly scheduler) {futures : List Future}
    (hids : futures.map Future.taskId = scheduler.futures.map Future.taskId) :
    Orderly { scheduler with futures := futures } := by
  have hsame : outstanding { scheduler with futures := futures } = scheduler.outstanding := by
    unfold outstanding
    dsimp only
    rw [hids]
  refine ⟨hsame ▸ h.nodup, fun taskId htask => h.unfinished taskId (hsame ▸ htask), ?_⟩
  intro hbetween
  rw [h.between hbetween] at hids
  exact map_eq_nil_iff.mp hids

theorem map_taskId_modify (futures : List Future) (index : Nat) (phase : FuturePhase) :
    (futures.modify index fun future => { future with phase := phase }).map Future.taskId =
      futures.map Future.taskId := by
  induction futures generalizing index with
  | nil => rw [modify_nil]
  | cons first rest ih =>
    cases index with
    | zero => rfl
    | succ index =>
      rw [modify_succ_cons, map_cons, map_cons, ih]

theorem map_taskId_advance {futures : List Future} {index : Nat} {future : Future}
    (hfuture : futures[index]? = some future) (phase : FuturePhase) :
    (Roster.advance futures index (some { future with phase := phase })).map Future.taskId =
      futures.map Future.taskId := by
  obtain ⟨before, behind, hsplit, hadvance⟩ := Roster.exists_split hfuture
  rw [hadvance, hsplit]
  simp

theorem orderly_of_between (hbetween : scheduler.point.Between)
    (hnone : scheduler.futures = []) : Orderly scheduler := by
  have hout : scheduler.outstanding = [] := by
    rw [outstanding]
    split
    · rename_i hpoint
      rw [hpoint] at hbetween
      exact hbetween.elim
    · rw [hnone]
      rfl
  refine ⟨?_, ?_, fun _ => hnone⟩
  · rw [hout]
    exact nodup_nil
  · intro taskId htask
    rw [hout] at htask
    cases htask

theorem orderly_getReadyTasks (scheduler : TaskScheduler) (steps : Nat)
    (hnone : scheduler.futures = []) :
    Orderly { scheduler with point := .dispatching steps scheduler.getReadyTasks } := by
  have hout : outstanding { scheduler with
      point := .dispatching steps scheduler.getReadyTasks } = scheduler.getReadyTasks := by
    rw [outstanding]
    dsimp only
    rw [hnone]
    exact append_nil _
  refine ⟨?_, ?_, fun hbetween => hbetween.elim⟩
  · rw [hout]
    exact scheduler.tasks.keysNodup.sublist (filter_sublist.map TaskHandle.taskId)
  · intro taskId htask hcompleted
    rw [hout] at htask
    obtain ⟨task, hmem, rfl⟩ := mem_map.mp htask
    obtain ⟨hrow, hready⟩ := mem_filter.mp hmem
    have hlookup : scheduler.tasks.lookup task.taskId = some task := Table.mem_rows_iff.mp hrow
    obtain ⟨other, hother, hstatus⟩ := Tasks.statusOf_eq_some.mp hcompleted
    obtain rfl : task = other := Option.some.inj (hlookup.symm.trans hother)
    have hstart := of_decide_eq_true (Bool.and_eq_true_iff.mp hready).1
    rw [hstatus] at hstart
    rcases hstart with heq | heq
    · cases heq
    · cases heq

theorem Orderly.dispatch (h : Orderly scheduler) {steps : Nat}
    {ready : List String} (hpoint : scheduler.point = .dispatching steps (taskId :: ready)) :
    Orderly { scheduler.write taskId TaskHandle.start with
      futures := scheduler.futures ++ [{ taskId := taskId }]
      point := .dispatching steps ready } := by
  have hbefore : scheduler.outstanding =
      taskId :: ready ++ scheduler.futures.map Future.taskId := by
    rw [outstanding, hpoint]
  have hperm : (ready ++ (scheduler.futures ++ ([{ taskId := taskId }] : List Future)).map
      Future.taskId).Perm scheduler.outstanding := by
    rw [hbefore, map_append, ← append_assoc]
    exact perm_append_comm
  refine ⟨hperm.nodup_iff.mpr h.nodup, ?_, fun hbetween => hbetween.elim⟩
  intro other hother hcompleted
  refine h.unfinished other (hperm.mem_iff.mp hother) ?_
  exact completed_of_write (fun task heq => by cases heq) hcompleted

theorem Orderly.collect (h : Orderly scheduler) {steps index : Nat} {future : Future}
    (hpoint : scheduler.point = .collecting steps)
    (hfuture : scheduler.futures[index]? = some future) (row : Assignment TaskHandle.taskId) :
    Orderly { scheduler.write future.taskId row with
      futures := Roster.advance scheduler.futures index none } := by
  obtain ⟨before, behind, hsplit, hadvance⟩ := Roster.exists_split hfuture
  have hout : scheduler.outstanding =
      before.map Future.taskId ++ future.taskId :: behind.map Future.taskId := by
    rw [outstanding, hpoint]
    dsimp only
    rw [hsplit, map_append]
    rfl
  have hafter : outstanding { scheduler.write future.taskId row with
      futures := Roster.advance scheduler.futures index none } =
        before.map Future.taskId ++ behind.map Future.taskId := by
    have hsame : (scheduler.write future.taskId row).point = .collecting steps := hpoint
    rw [outstanding]
    dsimp only
    rw [hsame]
    dsimp only
    rw [hadvance, map_append]
    simp
  have hnodup := h.nodup
  rw [hout, nodup_middle, nodup_cons] at hnodup
  refine ⟨hafter ▸ hnodup.2, ?_, ?_⟩
  · intro other hother hcompleted
    rw [hafter] at hother
    have hne : other ≠ future.taskId := fun heq => hnodup.1 (heq ▸ hother)
    have hstatus : (scheduler.write future.taskId row).statusOf other =
      some .completed := hcompleted
    rw [statusOf_write, if_neg hne] at hstatus
    refine h.unfinished other ?_ hstatus
    rw [hout]
    rcases mem_append.mp hother with hmem | hmem
    · exact mem_append_left _ hmem
    · exact mem_append_right _ (mem_cons_of_mem _ hmem)
  · intro hbetween
    have hsame : (scheduler.write future.taskId row).point = .collecting steps := hpoint
    dsimp only at hbetween
    rw [hsame] at hbetween
    exact hbetween.elim

/-- Every event keeps a superstep orderly. -/
theorem Orderly.step (h : Orderly scheduler) (event : Event) : Orderly (scheduler.step event) := by
  have hnone {steps : Nat} (hpoint : scheduler.point = .looping steps) :
      scheduler.futures = [] := by
    apply h.between
    rw [hpoint]
    trivial
  cases event with
  | schedule maxSteps =>
    rw [TaskScheduler.step]
    split
    · rename_i hidle
      split
      · exact h
      · refine orderly_of_between trivial (h.between ?_)
        rw [hidle]
        trivial
    · exact h
  | superstep =>
    rw [TaskScheduler.step]
    split
    · rename_i hpoint
      exact orderly_of_between trivial (hnone hpoint)
    · rename_i steps hpoint
      dsimp only
      split
      · exact orderly_of_between trivial (hnone hpoint)
      · exact orderly_getReadyTasks
          { scheduler with stepCount := scheduler.stepCount + 1 } steps (hnone hpoint)
    · exact h
  | dispatch =>
    rw [TaskScheduler.step]
    split
    · rename_i steps hpoint
      refine ⟨?_, ?_, fun hbetween => hbetween.elim⟩
      · have hnodup := h.nodup
        rw [outstanding, hpoint] at hnodup
        exact hnodup
      · intro taskId htask
        apply h.unfinished taskId
        rw [outstanding, hpoint]
        exact htask
    · rename_i steps taskId ready hpoint
      exact h.dispatch hpoint
    · exact h
  | start =>
    rw [TaskScheduler.step]
    split
    · split
      · exact h
      · exact h.relabel (map_taskId_modify _ _ _)
    · exact h
  | call call =>
    rw [TaskScheduler.step]
    split
    · exact h.perform call
    · exact h
  | ended index outcome =>
    rw [TaskScheduler.step]
    split
    · exact h
    · rename_i future hfuture
      split
      · exact h.relabel (map_taskId_advance hfuture (.done outcome))
      · exact h
  | collect index =>
    rw [TaskScheduler.step]
    split
    · rename_i steps future hpoint hfuture
      split
      · exact h
      · exact h.collect hpoint hfuture _
    · exact h
  | unblock =>
    have hfutures := scheduler.futures_unblockAll
    rw [TaskScheduler.step]
    split
    · rename_i steps hpoint hempty
      dsimp only
      split
      · exact orderly_of_between trivial (hfutures.trans hempty)
      · exact orderly_of_between trivial (hfutures.trans hempty)
    · exact h

/-! ## Runs -/

variable {watched : Watched}

section

variable (h : Inv watched)
include h

/-- What keeps the tasks keeps the invariant. -/
theorem Inv.next {event : Event} (hkept : Kept (watched.scheduler.step event).tasks
      (watched.cancelled ++ ((watched.scheduler.callOf event).map
        watched.scheduler.cancels).getD [])
      (((watched.scheduler.callOf event).map
        (watched.scheduler.waitsAfter watched.waits)).getD watched.waits)) :
    Inv (watched.step event) where
  kept := hkept.filter _
  opened wait hwait := by
    have hopen := (mem_filter.mp hwait).2
    rwa [Bool.not_eq_true'] at hopen
  orderly := h.orderly.step event

/-- A step that is no call keeps the invariant if it keeps the tasks. -/
theorem Inv.quiet {event : Event} (hcall : watched.scheduler.callOf event = none)
    (hkept : Kept (watched.scheduler.step event).tasks watched.cancelled watched.waits) :
    Inv (watched.step event) := by
  apply h.next
  rw [hcall]
  exact (append_nil watched.cancelled).symm ▸ hkept

/-- A call that disturbs nothing keeps the invariant. -/
theorem Inv.call {call : TaskCall} (hcalm : watched.scheduler.Undisturbed (.call call)) :
    Inv (watched.step (.call call)) := by
  by_cases hmade : watched.scheduler.point = .idle ∨
      watched.scheduler.futures.any Future.isRunning = true
  · have hcall : watched.scheduler.callOf (.call call) = some call := if_pos hmade
    have hstep : watched.scheduler.step (.call call) = watched.scheduler.perform call :=
      if_pos hmade
    apply h.next
    rw [hcall, hstep]
    cases call with
    | yieldTask taskId blockedBy sessionSnapshot reason =>
      have hkept := h.kept.yieldTask hcalm sessionSnapshot reason
      exact (append_nil watched.cancelled).symm ▸ hkept
    | resumeTask taskId dependencyResults =>
      have hkept := h.kept.resumeTask taskId dependencyResults
      exact (append_nil watched.cancelled).symm ▸ hkept
    | cancelTask taskId reason => exact h.kept.cancelTask taskId reason
  · have hcall : watched.scheduler.callOf (.call call) = none := if_neg hmade
    have hstep : watched.scheduler.step (.call call) = watched.scheduler := if_neg hmade
    apply h.quiet hcall
    rw [hstep]
    exact h.kept

theorem Inv.superstep : Inv (watched.step .superstep) := by
  apply h.quiet rfl
  rw [TaskScheduler.step]
  split
  · exact h.kept
  · dsimp only
    split
    · exact h.kept
    · exact h.kept
  · exact h.kept

theorem Inv.dispatch (hfree : watched.scheduler.Undisturbed .dispatch) :
    Inv (watched.step .dispatch) := by
  apply h.quiet rfl
  rw [TaskScheduler.step]
  split
  · exact h.kept
  · rename_i steps taskId ready hpoint
    have hnext : watched.scheduler.nextReady = some taskId := by
      rw [nextReady, hpoint]
    refine h.kept.write_free h.opened (hfree taskId hnext) ?_ TaskHandle.start
    apply h.orderly.unfinished
    rw [outstanding, hpoint]
    exact mem_cons_self
  · exact h.kept

theorem Inv.collect {index : Nat} (hfree : watched.scheduler.Undisturbed (.collect index)) :
    Inv (watched.step (.collect index)) := by
  apply h.quiet rfl
  rw [TaskScheduler.step]
  split
  · rename_i steps future hpoint hfuture
    split
    · exact h.kept
    · rename_i outcome hdone
      refine h.kept.write_free h.opened (hfree future hfuture) ?_ (TaskHandle.finish outcome)
      apply h.orderly.unfinished
      rw [outstanding, hpoint]
      exact mem_map_of_mem (mem_of_getElem? hfuture)
  · exact h.kept

theorem Inv.unblock : Inv (watched.step .unblock) := by
  have hkept := h.kept.unblockAll h.opened
  apply h.quiet rfl
  rw [TaskScheduler.step]
  split
  · dsimp only
    split
    · exact hkept
    · exact hkept
  · exact h.kept

/-- A step that disturbs nothing keeps the invariant. -/
theorem Inv.step {event : Event}
    (hcalm : watched.scheduler.Undisturbed event) : Inv (watched.step event) := by
  cases event with
  | superstep => exact h.superstep
  | dispatch => exact h.dispatch hcalm
  | call call => exact h.call hcalm
  | ended index outcome =>
    apply h.quiet rfl
    rw [TaskScheduler.step]
    split
    · exact h.kept
    · split
      · exact h.kept
      · exact h.kept
  | collect index => exact h.collect hcalm
  | unblock => exact h.unblock
  | _ =>
    apply h.quiet rfl
    rw [TaskScheduler.step]
    split
    · split
      · exact h.kept
      · exact h.kept
    · exact h.kept

/-- The invariant gives the law. -/
theorem Inv.law : watched.Law where
  cancelled := h.kept.cancelled
  waiting wait hwait status hstatus := by
    obtain ⟨task, htask, hholds⟩ := h.kept.holds wait hwait
    obtain ⟨other, hother, hsame⟩ := Tasks.statusOf_eq_some.mp hstatus
    obtain rfl : task = other := Option.some.inj (htask.symm.trans hother)
    rcases hholds with hgone | ⟨hyielded, -⟩
    · rw [← hsame, hgone]
      decide
    · rw [← hsame, hyielded]
      decide

end

/-- A scheduler that has just been loaded has cancelled nothing. -/
theorem inv_loaded (scheduler : TaskScheduler) (hpoint : scheduler.point = .idle)
    (hfutures : scheduler.futures = []) : Inv { scheduler := scheduler } where
  kept := ⟨fun _ hmem => absurd hmem not_mem_nil, fun _ hmem => absurd hmem not_mem_nil⟩
  opened _ hmem := absurd hmem not_mem_nil
  orderly := by
    refine orderly_of_between ?_ hfutures
    rw [hpoint]
    trivial

theorem idle_loadGraph {maxWorkers : Nat} {graph : TrajectoryGraph} {configured : Bool}
    {scheduler : TaskScheduler} (hload : loadGraph maxWorkers graph configured = .ok scheduler) :
    scheduler.point = .idle ∧ scheduler.futures = [] ∧ scheduler.result = none := by
  rw [loadGraph] at hload
  cases horder : graph.topologicalSort with
  | error error =>
    rw [horder] at hload
    cases hload
  | ok order =>
    rw [horder] at hload
    obtain rfl := Except.ok.inj hload
    exact ⟨rfl, rfl, rfl⟩

/-- Where no task that was cancelled or waits is dispatched or collected, and no task
that has ended or waits yields anew, cancelled tasks and yielded tasks are left alone. -/
theorem law_of_undisturbed (maxWorkers : Nat) (graph : TrajectoryGraph) (configured : Bool)
    (scheduler : TaskScheduler) (events : List Event)
    (hload : loadGraph maxWorkers graph configured = .ok scheduler)
    (hcalm : Along Watched.step (fun watched => watched.scheduler.Undisturbed)
      { scheduler := scheduler } events) :
    Always Watched.step Watched.Law { scheduler := scheduler } events := by
  obtain ⟨hpoint, hfutures, -⟩ := idle_loadGraph hload
  have hinit : Inv { scheduler := scheduler } := inv_loaded scheduler hpoint hfutures
  refine always_of_invariant ?_ ?_ hinit hcalm
  · intro watched event h hevent
    exact h.step hevent
  · intro watched h
    exact h.law

def draftAndReview : TrajectoryGraph :=
  exec TrajectoryGraph.step (.new "g")
    [.addNode { nodeId := "draft" }, .addNode { nodeId := "publish" },
      .addNode { nodeId := "review" }, .addEdge { source := "draft", target := "publish" }]

def bothRunning : List Event :=
  [.schedule 100, .superstep, .dispatch, .dispatch, .dispatch, .start, .start]

/-- The draft lets the publication wait for the review, which fails once. -/
def publishedLast : List Event :=
  bothRunning ++ [.call (.yieldTask "publish" ["review"] none "not reviewed"),
    .ended 0 (.ok .none), .collect 0, .ended 0 (.error "rejected"), .collect 0, .unblock,
    .superstep, .dispatch, .dispatch, .start, .ended 0 (.ok .none), .collect 0, .unblock,
    .superstep, .dispatch, .dispatch, .start, .ended 0 (.ok .none), .collect 0, .unblock]

theorem law_publishedLast : ∃ scheduler, loadGraph 4 draftAndReview true = .ok scheduler ∧
      Always Watched.step Watched.Law { scheduler := scheduler } publishedLast := by
  have hload : loadGraph 4 draftAndReview true = .ok _ := rfl
  refine ⟨_, hload, law_of_undisturbed 4 draftAndReview true _ publishedLast hload ?_⟩
  decide

/-- The review finds that it needs the draft, yields and returns: it is COMPLETED while
the draft still runs. -/
theorem not_law_reviewYields : ¬ ∀ (maxWorkers : Nat) (graph : TrajectoryGraph) (configured : Bool)
      (scheduler : TaskScheduler) (events : List Event),
      loadGraph maxWorkers graph configured = .ok scheduler →
      Always Watched.step Watched.Law { scheduler := scheduler } events := by
  intro h
  have hload : loadGraph 4 draftAndReview true = .ok _ := rfl
  have hlaw := (h 4 draftAndReview true _
    (bothRunning ++ [.call (.yieldTask "review" ["draft"] none "needs the draft"),
      .ended 1 (.ok .none), .collect 1]) hload).last
  exact absurd rfl (hlaw.waiting { taskId := "review", blockers := ["draft"] } mem_cons_self
    .completed rfl).1

end TaskScheduler

end HiAgent.TaskMgmt
