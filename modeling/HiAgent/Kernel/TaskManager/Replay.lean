/-
  Kernel/TaskManager/Replay.lean --- what a replay of the log restores.

  A replay restores a registry as long as each change is one that the log records:
  the payload of a descriptor leaves out `max_backoff_ms`, that of an attempt its
  outcome, and three of the lifecycle states have no event.
-/
import HiAgent.Foundation.Machine
import HiAgent.Kernel.TaskManager

namespace HiAgent.Kernel

open Foundation List

/-- What is asked of an attempt. -/
structure AttemptView where
  taskId : String
  runId : String
  attemptSeq : Int
  outcome : Option AttemptOutcome

/-- What is asked of a task. -/
structure TaskView where
  descriptor : TaskDescriptor
  lifecycleState : TaskLifecycleState
  attempts : List AttemptView

def TaskAttempt.view (attempt : TaskAttempt) : AttemptView :=
  ⟨attempt.taskId, attempt.runId, attempt.attemptSeq, attempt.outcome⟩

def TaskEntry.view (entry : TaskEntry) : TaskView :=
  ⟨entry.descriptor, entry.lifecycleState, entry.attempts.map TaskAttempt.view⟩

def TaskRegistry.view (registry : TaskRegistry) : List TaskView × List (String × List String) :=
  (registry.tasks.rows.map TaskEntry.view, registry.sessionIndex.rows)

namespace LoggedRegistry

def replayed (live : LoggedRegistry) (maxTasks : Nat) (now : String) : TaskRegistry :=
  ((TaskRegistry.new maxTasks).replayIntoRegistry live.log now).1

/-- A replay at the time `now` gives what the live registry has. -/
def Faithful (maxTasks : Nat) (now : String) (live : LoggedRegistry) : Prop :=
  (live.replayed maxTasks now).view = live.registry.view

/-- A task is registered where both registries have room for it, and an event is
emitted where the log has room for it. -/
structure WithinCaps (maxTasks : Nat) (live : LoggedRegistry) (call : RegistryCall) : Prop where
  tasks : ∀ descriptor, call = .register descriptor →
    live.registry.tasks.lookup descriptor.taskId = none →
    live.registry.tasks.rows.length < live.registry.maxTasks ∧
      live.registry.tasks.rows.length < maxTasks
  events : (live.registry.perform call).2 ≠ none → live.log.events.length < live.log.maxEvents

/-- A call changes nothing that the log does not record. -/
def Recorded (live : LoggedRegistry) : RegistryCall → Prop
  | .register descriptor => live.registry.tasks.lookup descriptor.taskId = none →
      descriptor.restartPolicy.maxBackoffMs = 30000
  | .startAttempt attempt => (live.registry.tasks.lookup attempt.taskId).isSome = true →
      attempt.outcome = none ∧ ∀ other ∈ live.registry.getAttempts attempt.taskId,
          TaskRegistry.isReplayed attempt other = false
  | .completeAttempt .. => True
  | .updateState taskId state => ∀ entry ∈ live.registry.tasks.lookup taskId,
      stateEvent taskId state = none → entry.lifecycleState = state

end LoggedRegistry

/-! ## Registries that agree -/

def TaskAttempt.core (attempt : TaskAttempt) : TaskAttempt :=
  { attempt with completedAt := none, failure := .none, reflectionOutput := none }

def TaskEntry.core (entry : TaskEntry) : TaskEntry :=
  { entry with attempts := entry.attempts.map TaskAttempt.core }

theorem TaskEntry.of_core_eq {entry other : TaskEntry} (h : entry.core = other.core) :
    entry.descriptor = other.descriptor ∧ entry.lifecycleState = other.lifecycleState ∧
      entry.attempts.map TaskAttempt.core = other.attempts.map TaskAttempt.core := by
  rw [TaskEntry.core, TaskEntry.core, TaskEntry.mk.injEq] at h
  exact h

def Agree (live restored : Table TaskEntry.taskId) : Prop :=
  live.rows.map TaskEntry.core = restored.rows.map TaskEntry.core

namespace Agree

variable {live restored : Table TaskEntry.taskId}

section

variable (h : Agree live restored)
include h

theorem lookup (taskId : String) :
    (live.lookup taskId).map TaskEntry.core = (restored.lookup taskId).map TaskEntry.core := by
  have hfind (table : Table TaskEntry.taskId) : (table.lookup taskId).map TaskEntry.core =
      (table.rows.map TaskEntry.core).find? fun entry => decide (entry.taskId = taskId) := by
    rw [find?_map]
    rfl
  rw [hfind, hfind, h]

theorem exists_lookup {taskId : String} {entry : TaskEntry}
    (hentry : live.lookup taskId = some entry) :
    ∃ other, restored.lookup taskId = some other ∧ entry.core = other.core := by
  have hsame := h.lookup taskId
  rw [hentry, Option.map_some, eq_comm, Option.map_eq_some_iff] at hsame
  obtain ⟨other, hother, hcore⟩ := hsame
  exact ⟨other, hother, hcore.symm⟩

theorem lookup_eq_none {taskId : String}
    (hnone : live.lookup taskId = none) : restored.lookup taskId = none := by
  have hsame := h.lookup taskId
  rw [hnone, Option.map_none, eq_comm, Option.map_eq_none_iff] at hsame
  exact hsame

theorem length : live.rows.length = restored.rows.length := by
  have hlength := congrArg List.length h
  rwa [length_map, length_map] at hlength

theorem append {entry other : TaskEntry}
    (hfresh : live.lookup entry.taskId = none) (hcore : entry.core = other.core)
    (hkey : entry.taskId = other.taskId) :
    Agree (live.insertOrReplace entry) (restored.insertOrReplace other) := by
  have hother := h.lookup_eq_none hfresh
  rw [hkey] at hother
  rw [Agree, Table.rows_insertOrReplace hfresh, Table.rows_insertOrReplace hother,
    map_append, map_append, h, map_singleton, map_singleton, hcore]

end

theorem map_core {left right : List TaskEntry} {f g : TaskEntry → TaskEntry}
    (hlists : left.map TaskEntry.core = right.map TaskEntry.core)
    (hmaps : ∀ entry other : TaskEntry, entry.core = other.core → (f entry).core = (g other).core) :
    (left.map f).map TaskEntry.core = (right.map g).map TaskEntry.core := by
  induction left generalizing right with
  | nil =>
    cases right with
    | nil => rfl
    | cons other rest => cases hlists
  | cons entry left ih =>
    cases right with
    | nil => cases hlists
    | cons other right =>
      obtain ⟨hfirst, hrest⟩ := List.cons.inj hlists
      exact congrArg₂ List.cons (hmaps entry other hfirst) (ih hrest)

theorem updateAt (h : Agree live restored) (taskId : String)
    {row other : Assignment TaskEntry.taskId}
    (hrows : ∀ entry entry' : TaskEntry, entry.core = entry'.core →
      (row.set entry).core = (other.set entry').core) :
    Agree (live.updateAt taskId (fun _ => true) row)
      (restored.updateAt taskId (fun _ => true) other) := by
  refine map_core h fun entry entry' hcore => ?_
  have hkey : entry.core.taskId = entry'.core.taskId := congrArg TaskEntry.taskId hcore
  change entry.taskId = entry'.taskId at hkey
  by_cases heq : entry.taskId = taskId
  · simp only [heq, hkey ▸ heq, decide_true, Bool.and_self, if_true]
    exact hrows entry entry' hcore
  · simp only [heq, hkey ▸ heq, decide_false, Bool.false_and, Bool.false_eq_true, if_false]
    exact hcore

theorem view (h : Agree live restored) :
    live.rows.map TaskEntry.view = restored.rows.map TaskEntry.view := by
  have hview : TaskEntry.view = TaskEntry.view ∘ TaskEntry.core := by
    funext entry
    rw [Function.comp_apply, TaskEntry.view, TaskEntry.view, TaskEntry.core, map_map]
    rfl
  rw [hview, ← map_map, ← map_map, h]

end Agree

/-- Two registries that differ in what a replay does not restore. -/
structure Restores (live restored : TaskRegistry) : Prop where
  tasks : Agree live.tasks restored.tasks
  sessions : live.sessionIndex = restored.sessionIndex

namespace TaskRegistry

variable {registry live restored : TaskRegistry}

/-- The registry with one task more. -/
def add (registry : TaskRegistry) (descriptor : TaskDescriptor) : TaskRegistry :=
  { registry with
    tasks := registry.tasks.insertOrReplace { descriptor := descriptor }
    sessionIndex := registry.sessionIndex.set descriptor.sessionId
      (registry.sessionIndex.getD descriptor.sessionId [] ++ [descriptor.taskId]) }

variable {descriptor : TaskDescriptor} {entry : TaskEntry}

theorem register_eq_ok (hfresh : registry.tasks.lookup descriptor.taskId = none)
    (hroom : registry.tasks.rows.length < registry.maxTasks) : registry.register descriptor =
      .ok (registry.add descriptor, .registered descriptor.payload) := by
  rw [register, if_neg (by rw [hfresh]; exact Bool.false_ne_true), evictIfNeeded, if_pos hroom]
  rfl

theorem register_eq_error (hentry : registry.tasks.lookup descriptor.taskId = some entry) :
    registry.perform (.register descriptor) = (registry, none) := by
  rw [perform, register, if_pos (by rw [hentry]; rfl)]

theorem descriptor_payload (descriptor : TaskDescriptor) :
    descriptor.payload.descriptor = { descriptor with
      restartPolicy := { descriptor.restartPolicy with maxBackoffMs := 30000 } } := rfl

theorem add_restores (h : Restores live restored)
    (hfresh : live.tasks.lookup descriptor.taskId = none)
    (hbackoff : descriptor.restartPolicy.maxBackoffMs = 30000) :
    Restores (live.add descriptor) (restored.add descriptor.payload.descriptor) := by
  have hsame : descriptor.payload.descriptor = descriptor := by
    rw [descriptor_payload, ← hbackoff]
  rw [hsame]
  refine ⟨h.tasks.append hfresh rfl rfl, ?_⟩
  rw [add, add]
  dsimp only
  rw [h.sessions]

theorem any_core (attempts : List TaskAttempt) {p : TaskAttempt → Bool}
    (hp : ∀ attempt : TaskAttempt, p attempt.core = p attempt) :
    (attempts.map TaskAttempt.core).any p = attempts.any p := by
  rw [any_map]
  exact congrArg attempts.any (funext hp)

theorem any_of_core_eq {entry other : TaskEntry} (hcore : entry.core = other.core)
    {p : TaskAttempt → Bool} (hp : ∀ attempt : TaskAttempt, p attempt.core = p attempt) :
    entry.attempts.any p = other.attempts.any p := by
  obtain ⟨-, -, htries⟩ := TaskEntry.of_core_eq hcore
  rw [← any_core entry.attempts hp, htries, any_core other.attempts hp]

section

variable (h : Restores live restored)
include h

theorem any_getAttempts (taskId : String)
    {p : TaskAttempt → Bool} (hp : ∀ attempt : TaskAttempt, p attempt.core = p attempt) :
    (live.getAttempts taskId).any p = (restored.getAttempts taskId).any p := by
  rw [getAttempts, getAttempts]
  cases hentry : live.tasks.lookup taskId with
  | none => rw [h.tasks.lookup_eq_none hentry]
  | some entry =>
    obtain ⟨other, hother, hcore⟩ := h.tasks.exists_lookup hentry
    rw [hother]
    exact any_of_core_eq hcore hp

theorem start_restores {attempt : TaskAttempt} (hrunning : attempt.outcome = none) : Agree
      (live.tasks.updateAt attempt.taskId (fun _ => true) (TaskEntry.start attempt))
      (restored.tasks.updateAt attempt.taskId (fun _ => true)
        (TaskEntry.start attempt.payload.attempt)) := by
  apply h.tasks.updateAt
  intro entry other hcore
  obtain ⟨hdesc, -, htries⟩ := TaskEntry.of_core_eq hcore
  have hattempt : attempt.core = attempt.payload.attempt.core := by
    rw [TaskAttempt.core, hrunning]
    rfl
  rw [TaskEntry.core, TaskEntry.core]
  simp only [TaskEntry.start, map_append, map_singleton, htries, hdesc, hattempt]

theorem complete_restores (taskId runId : String)
    (outcome : AttemptOutcome) (failure : PyValue) (now later : String) : Agree
      (live.tasks.updateAt taskId (fun _ => true) (TaskEntry.complete runId outcome failure now))
      (restored.tasks.updateAt taskId (fun _ => true)
        (TaskEntry.complete runId outcome .none later)) := by
  apply h.tasks.updateAt
  intro entry other hcore
  obtain ⟨hdesc, -, htries⟩ := TaskEntry.of_core_eq hcore
  -- The completion of an attempt sees only what the replay restores.
  have hmap (attempts : List TaskAttempt) (failure : PyValue) (now : String) :
      (attempts.map fun attempt =>
        if TaskEntry.active runId attempt then
          { attempt with
            outcome := some outcome
            completedAt := some now
            failure := if outcome = .completed then .none else failure }
        else attempt).map TaskAttempt.core =
      (attempts.map TaskAttempt.core).map fun attempt =>
        if TaskEntry.active runId attempt then { attempt with outcome := some outcome }
        else attempt := by
    rw [map_map, map_map]
    refine map_congr_left fun attempt _ => ?_
    have hactive : TaskEntry.active runId attempt.core = TaskEntry.active runId attempt := rfl
    simp only [Function.comp_apply, hactive]
    split
    · rfl
    · rfl
  rw [TaskEntry.core, TaskEntry.core]
  simp only [TaskEntry.complete, hmap, htries, hdesc]

theorem update_restores (taskId : String) (state : TaskLifecycleState) :
    Agree (live.tasks.updateAt taskId (fun _ => true) (TaskEntry.update state))
      (restored.tasks.updateAt taskId (fun _ => true) (TaskEntry.update state)) := by
  apply h.tasks.updateAt
  intro entry other hcore
  obtain ⟨hdesc, -, htries⟩ := TaskEntry.of_core_eq hcore
  rw [TaskEntry.core, TaskEntry.core]
  simp only [TaskEntry.update, htries, hdesc]

end

/-! ### One call and its event -/

def follow (now : String) (restored : TaskRegistry) : Option TaskEvent → TaskRegistry
  | none => restored
  | some event => restored.replayEvent now event

theorem perform_register (hfresh : live.tasks.lookup descriptor.taskId = none)
    (hroom : live.tasks.rows.length < live.maxTasks) : live.perform (.register descriptor) =
      (live.add descriptor, some (.registered descriptor.payload)) := by
  rw [perform, register_eq_ok hfresh hroom]

theorem follow_registered (h : Restores live restored)
    (now : String) (hfresh : live.tasks.lookup descriptor.taskId = none)
    (hroom : live.tasks.rows.length < restored.maxTasks) :
    restored.follow now (some (.registered descriptor.payload)) =
      restored.add descriptor.payload.descriptor := by
  have hnone : restored.tasks.lookup descriptor.payload.descriptor.taskId = none :=
    h.tasks.lookup_eq_none hfresh
  rw [follow, replayEvent, register_eq_ok hnone (h.tasks.length ▸ hroom)]

def write (registry : TaskRegistry) (taskId : String) (row : Assignment TaskEntry.taskId) :
    TaskRegistry :=
  { registry with tasks := registry.tasks.updateAt taskId (fun _ => true) row }

theorem perform_startAttempt {attempt : TaskAttempt}
    (hentry : live.tasks.lookup attempt.taskId = some entry) :
    live.perform (.startAttempt attempt) = (live.write attempt.taskId (TaskEntry.start attempt),
        some (.attemptStarted attempt.payload)) := by
  rw [perform, startAttempt, hentry]
  rfl

theorem follow_attemptStarted (h : Restores live restored) {attempt : TaskAttempt} (now : String)
    (hentry : live.tasks.lookup attempt.taskId = some entry) :
    restored.follow now (some (.attemptStarted attempt.payload)) =
      if (live.getAttempts attempt.taskId).any (isReplayed attempt) then restored
      else restored.write attempt.taskId (TaskEntry.start attempt.payload.attempt) := by
  have hany : (live.getAttempts attempt.taskId).any (isReplayed attempt) =
      (restored.getAttempts attempt.taskId).any (isReplayed attempt.payload.attempt) :=
    any_getAttempts h attempt.taskId fun _ => rfl
  obtain ⟨other, hother, -⟩ := h.tasks.exists_lookup hentry
  have hstart : restored.startAttempt attempt.payload.attempt =
      .ok (restored.write attempt.taskId (TaskEntry.start attempt.payload.attempt),
        .attemptStarted attempt.payload.attempt.payload) := by
    have hfound : restored.tasks.lookup attempt.payload.attempt.taskId = some other := hother
    rw [startAttempt, hfound]
    rfl
  rw [follow, replayEvent, hany, hstart]
  rfl

variable {taskId : String}

theorem perform_updateState
    (hentry : live.tasks.lookup taskId = some entry) (state : TaskLifecycleState) :
    live.perform (.updateState taskId state) =
      (live.write taskId (TaskEntry.update state), stateEvent taskId state) := by
  rw [perform, updateState, hentry]
  rfl

theorem replayEvent_of_stateEvent {state : TaskLifecycleState}
    {event : TaskEvent} (hevent : stateEvent taskId state = some event) (now : String)
    (registry : TaskRegistry) :
    registry.replayEvent now event = (registry.updateState taskId state).1 := by
  cases state with
  | pending => cases hevent
  | running => cases hevent
  | failed => cases hevent
  | _ => cases hevent; rfl

theorem follow_stateEvent (h : Restores live restored)
    (now : String) (hentry : live.tasks.lookup taskId = some entry) (state : TaskLifecycleState) :
    restored.follow now (stateEvent taskId state) = if stateEvent taskId state = none then restored
      else restored.write taskId (TaskEntry.update state) := by
  obtain ⟨other, hother, -⟩ := h.tasks.exists_lookup hentry
  cases hevent : stateEvent taskId state with
  | none => rfl
  | some event =>
    rw [follow, replayEvent_of_stateEvent hevent, updateState, hother]
    rfl

theorem completeAttempt_restores (h : Restores live restored) (taskId runId : String)
    (outcome : AttemptOutcome) (failure : PyValue) (now later : String) :
    Restores (live.completeAttempt taskId runId outcome failure now).1
        (restored.follow later (live.completeAttempt taskId runId outcome failure now).2) ∧
      (restored.follow later (live.completeAttempt taskId runId outcome failure now).2).maxTasks =
        restored.maxTasks := by
  have hreplay : ∀ event, event = TaskEvent.attemptCompleted taskId runId outcome ∨
      event = TaskEvent.attemptFailed taskId runId outcome →
      restored.follow later (some event) =
        (restored.completeAttempt taskId runId outcome .none later).1 := by
    rintro event (rfl | rfl)
    · rfl
    · rfl
  cases hentry : live.tasks.lookup taskId with
  | none =>
    rw [completeAttempt, hentry]
    exact ⟨h, rfl⟩
  | some entry =>
    obtain ⟨other, hother, hcore⟩ := h.tasks.exists_lookup hentry
    have hany : entry.attempts.any (TaskEntry.active runId) =
        other.attempts.any (TaskEntry.active runId) := any_of_core_eq hcore fun _ => rfl
    rw [completeAttempt, hentry]
    dsimp only
    split
    · rename_i hmatched
      rw [hreplay _ (by split <;> simp), completeAttempt, hother]
      dsimp only
      rw [← hany, if_pos hmatched]
      exact ⟨⟨complete_restores h taskId runId outcome failure now later, h.sessions⟩, rfl⟩
    · exact ⟨h, rfl⟩

theorem lookup_write (registry : TaskRegistry) (taskId : String)
    (row : Assignment TaskEntry.taskId) : (registry.write taskId row).tasks.lookup taskId =
      (registry.tasks.lookup taskId).map row.set := by
  rw [write, Table.lookup_updateAt, if_pos rfl]
  rfl

theorem write_update_self {state : TaskLifecycleState}
    (hentry : registry.tasks.lookup taskId = some entry) (hstate : entry.lifecycleState = state) :
    registry.write taskId (TaskEntry.update state) = registry := by
  have hrows : registry.tasks.updateAt taskId (fun _ => true) (TaskEntry.update state) =
      registry.tasks := by
    apply Table.updateAt_eq_self
    intro row hrow
    obtain rfl : entry = row := Option.some.inj (hentry.symm.trans hrow)
    subst hstate
    rfl
  rw [write, hrows]

theorem lookup_add (registry : TaskRegistry) (descriptor : TaskDescriptor) :
    (registry.add descriptor).tasks.lookup descriptor.taskId =
      some { descriptor := descriptor } := by
  have hlookup := Table.lookup_insertOrReplace registry.tasks { descriptor := descriptor }
    descriptor.taskId
  exact hlookup.trans (if_pos rfl)

theorem lookup_view {other : TaskRegistry} (h : registry.view = other.view) (taskId : String) :
    (registry.tasks.lookup taskId).map TaskEntry.view =
      (other.tasks.lookup taskId).map TaskEntry.view := by
  have hfind (table : Table TaskEntry.taskId) : (table.lookup taskId).map TaskEntry.view =
      (table.rows.map TaskEntry.view).find? fun view =>
        decide (view.descriptor.taskId = taskId) := by
    rw [find?_map]
    rfl
  rw [hfind, hfind]
  exact congrArg (List.find? _) (congrArg Prod.fst h)

end TaskRegistry

namespace LoggedRegistry

open TaskRegistry

variable {maxTasks : Nat} {now : String} {live : LoggedRegistry}

/-- What holds after every recorded call. -/
structure Inv (maxTasks : Nat) (now : String) (live : LoggedRegistry) : Prop where
  restores : Restores live.registry (live.replayed maxTasks now)
  cap : (live.replayed maxTasks now).maxTasks = maxTasks

variable {call : RegistryCall}

theorem replayed_step (hcaps : WithinCaps maxTasks live call) :
    (live.step call).replayed maxTasks now =
      (live.replayed maxTasks now).follow now (live.registry.perform call).2 := by
  have hroom := hcaps.events
  rw [step, replayed]
  cases hevent : (live.registry.perform call).2 with
  | none => rfl
  | some event =>
    have hlength : ¬ live.log.maxEvents ≤ live.log.events.length := by
      apply Nat.not_le_of_lt
      apply hroom
      rw [hevent]
      exact Option.some_ne_none event
    have happend : (live.log.append event).events = live.log.events ++ [event] := by
      rw [TaskEventLog.append]
      dsimp only
      rw [if_neg hlength]
    dsimp only
    rw [replayIntoRegistry, happend, foldl_append]
    rfl

theorem Inv.faithful (h : Inv maxTasks now live) : Faithful maxTasks now live := by
  rw [Faithful, view, view, h.restores.tasks.view, h.restores.sessions]

/-- A call that meets the condition keeps the replay in step. -/
theorem Inv.step (h : Inv maxTasks now live)
    (hcaps : WithinCaps maxTasks live call) (hnoted : Recorded live call) :
    Inv maxTasks now (live.step call) := by
  have hagain : (live.step call).replayed maxTasks now =
      (live.replayed maxTasks now).follow now (live.registry.perform call).2 :=
    replayed_step hcaps
  have hcap := h.cap
  have hback := h.restores
  generalize live.replayed maxTasks now = restored at hagain hcap hback
  have hgoal : Restores (live.registry.perform call).1
      (restored.follow now (live.registry.perform call).2) ∧
        (restored.follow now (live.registry.perform call).2).maxTasks = maxTasks := by
    cases call with
    | register descriptor =>
      cases hentry : live.registry.tasks.lookup descriptor.taskId with
      | some entry =>
        rw [register_eq_error hentry]
        exact ⟨hback, hcap⟩
      | none =>
        obtain ⟨hroom, hroom'⟩ := hcaps.tasks descriptor rfl hentry
        rw [perform_register hentry hroom,
          follow_registered hback now hentry (hcap.symm ▸ hroom')]
        exact ⟨add_restores hback hentry (hnoted hentry), hcap⟩
    | startAttempt attempt =>
      cases hentry : live.registry.tasks.lookup attempt.taskId with
      | none =>
        rw [perform, startAttempt, hentry]
        exact ⟨hback, hcap⟩
      | some entry =>
        obtain ⟨hrunning, hnew⟩ := hnoted (Option.isSome_iff_exists.mpr ⟨entry, hentry⟩)
        have hnone : ¬ (live.registry.getAttempts attempt.taskId).any
            (isReplayed attempt) = true := by
          rw [Bool.not_eq_true, any_eq_false]
          intro other hother
          rw [hnew other hother]
          exact Bool.false_ne_true
        rw [perform_startAttempt hentry, follow_attemptStarted hback now hentry, if_neg hnone]
        exact ⟨⟨start_restores hback hrunning, hback.sessions⟩, hcap⟩
    | completeAttempt taskId runId outcome failure completedAt =>
      obtain ⟨hsame, hmax⟩ := completeAttempt_restores hback taskId runId outcome failure
        completedAt now
      exact ⟨hsame, hmax.trans hcap⟩
    | updateState taskId state =>
      cases hentry : live.registry.tasks.lookup taskId with
      | none =>
        rw [perform, updateState, hentry]
        exact ⟨hback, hcap⟩
      | some entry =>
        rw [perform_updateState hentry, follow_stateEvent hback now hentry]
        dsimp only
        split
        · rename_i hsilent
          have hsame := hnoted entry hentry hsilent
          rw [write_update_self hentry hsame]
          exact ⟨hback, hcap⟩
        · exact ⟨⟨update_restores hback taskId state, hback.sessions⟩, hcap⟩
  rw [← hagain] at hgoal
  exact ⟨hgoal.1, hgoal.2⟩

theorem Inv.recorded (h : Inv maxTasks now live) (hcaps : WithinCaps maxTasks live call)
    (hfair : Faithful maxTasks now (live.step call)) : Recorded live call := by
  have hagain : (live.step call).replayed maxTasks now =
      (live.replayed maxTasks now).follow now (live.registry.perform call).2 :=
    replayed_step hcaps
  rw [Faithful, hagain] at hfair
  have hcap := h.cap
  have hback := h.restores
  generalize live.replayed maxTasks now = restored at hfair hcap hback
  change (restored.follow now (live.registry.perform call).2).view =
    (live.registry.perform call).1.view at hfair
  cases call with
  | register descriptor =>
    intro hentry
    obtain ⟨hroom, hroom'⟩ := hcaps.tasks descriptor rfl hentry
    rw [perform_register hentry hroom,
      follow_registered hback now hentry (hcap.symm ▸ hroom')] at hfair
    have hview := lookup_view hfair descriptor.taskId
    have hadded := lookup_add restored descriptor.payload.descriptor
    change (restored.add descriptor.payload.descriptor).tasks.lookup descriptor.taskId = _ at hadded
    rw [lookup_add, hadded, Option.map_some, Option.map_some, Option.some.injEq] at hview
    have hdesc := congrArg TaskView.descriptor hview
    exact (congrArg (fun descriptor => descriptor.restartPolicy.maxBackoffMs) hdesc).symm
  | startAttempt attempt =>
    intro hsome
    obtain ⟨entry, hentry⟩ := Option.isSome_iff_exists.mp hsome
    obtain ⟨other, hother, hcore⟩ := hback.tasks.exists_lookup hentry
    obtain ⟨-, -, htries⟩ := TaskEntry.of_core_eq hcore
    rw [perform_startAttempt hentry, follow_attemptStarted hback now hentry] at hfair
    dsimp only at hfair
    split at hfair
    · -- The replay has skipped the attempt, so it has one less.
      have hskipped := lookup_view hfair attempt.taskId
      rw [lookup_write, hentry, hother, Option.map_some, Option.map_some, Option.map_some,
        Option.some.injEq] at hskipped
      have hlength := congrArg (fun view => view.attempts.length) hskipped
      have hsame := congrArg List.length htries
      simp only [TaskEntry.view, TaskEntry.start, length_map, length_append,
        length_singleton] at hlength hsame
      omega
    · rename_i hnew
      have hstarted := lookup_view hfair attempt.taskId
      rw [lookup_write, lookup_write, hentry, hother, Option.map_some, Option.map_some,
        Option.map_some, Option.map_some, Option.some.injEq] at hstarted
      have hlast := congrArg (fun view => view.attempts.getLast?) hstarted
      simp only [TaskEntry.view, TaskEntry.start, map_append, map_singleton,
        getLast?_append, getLast?_singleton, Option.some_or, Option.some.injEq] at hlast
      refine ⟨(congrArg AttemptView.outcome hlast).symm, ?_⟩
      rw [Bool.not_eq_true, any_eq_false] at hnew
      intro before hbefore
      exact Bool.eq_false_iff.mpr (hnew before hbefore)
  | completeAttempt taskId runId outcome failure completedAt => trivial
  | updateState taskId state =>
    intro entry hentry hsilent
    obtain ⟨other, hother, hcore⟩ := hback.tasks.exists_lookup hentry
    obtain ⟨-, hstate, -⟩ := TaskEntry.of_core_eq hcore
    rw [perform_updateState hentry, hsilent] at hfair
    have hview := lookup_view hfair taskId
    rw [lookup_write, hentry] at hview
    change (restored.tasks.lookup taskId).map TaskEntry.view = _ at hview
    rw [hother, Option.map_some, Option.map_some, Option.map_some, Option.some.injEq] at hview
    exact hstate.trans (congrArg TaskView.lifecycleState hview)

theorem inv_new (maxTasks liveTasks maxEvents : Nat) (now : String) :
    Inv maxTasks now (new liveTasks maxEvents) := ⟨⟨rfl, rfl⟩, rfl⟩

/-- Within the caps, a replay is faithful after every call of a run exactly when every
call of the run changes nothing that the log does not record. -/
theorem faithful_iff_recorded (maxTasks liveTasks maxEvents : Nat) (now : String)
    (calls : List RegistryCall)
    (hcaps : Along step (WithinCaps maxTasks) (new liveTasks maxEvents) calls) :
    Always step (Faithful maxTasks now) (new liveTasks maxEvents) calls ↔
      Along step Recorded (new liveTasks maxEvents) calls := by
  have hinit : Inv maxTasks now (new liveTasks maxEvents) :=
    inv_new maxTasks liveTasks maxEvents now
  refine always_iff_along_within ?_ ?_ ?_ hinit hcaps
  · intro live call h hcaps hnoted
    exact h.step hcaps hnoted
  · intro live h
    exact h.faithful
  · intro live call h hcaps hfair
    exact h.recorded hcaps hfair

/-- A task of one step of a plan. -/
def reviewTask (restartPolicy : TaskRestartPolicy) : TaskDescriptor where
  taskId := "review"
  sessionId := "session"
  taskKind := .planStep
  goalDescription := "review the draft"
  restartPolicy := restartPolicy

/-- A task whose first attempt fails and whose second completes. -/
def retriedTask : List RegistryCall :=
  [.register (reviewTask { maxAttempts := 2 }),
    .startAttempt ⟨"attempt-1", "review", "run-1", 1, "09:00", none, none, .none, none⟩,
    .completeAttempt "review" "run-1" .failed (.str "timeout") "09:05",
    .updateState "review" .restarting,
    .startAttempt ⟨"attempt-2", "review", "run-2", 2, "09:06", none, none, .none, none⟩,
    .completeAttempt "review" "run-2" .completed .none "09:10"]

theorem faithful_retriedTask :
    Always step (Faithful 10000 "10:00") (new 10000 100000) retriedTask := by
  have hcaps : Along step (WithinCaps 10000) (new 10000 100000) retriedTask := by
    refine ⟨⟨?_, fun _ => by decide⟩, ⟨?_, fun _ => by decide⟩, ⟨?_, fun _ => by decide⟩,
      ⟨?_, fun _ => by decide⟩, ⟨?_, fun _ => by decide⟩, ⟨?_, fun _ => by decide⟩, trivial⟩
    · intro descriptor _ _
      decide
    all_goals
      intro descriptor heq
      cases heq
  refine (faithful_iff_recorded 10000 10000 100000 "10:00" retriedTask hcaps).mpr ?_
  refine ⟨fun _ => rfl, fun _ => ⟨rfl, by decide⟩, trivial, ?_, fun _ => ⟨rfl, by decide⟩,
    trivial, trivial⟩
  intro entry _ hsilent
  cases hsilent

/-- The payload of a registration has no `max_backoff_ms`, so a policy without backoff
comes back with thirty seconds. -/
theorem not_faithful_withoutBackoff :
    ¬ ∀ (maxTasks liveTasks maxEvents : Nat) (now : String) (calls : List RegistryCall),
      Along step (WithinCaps maxTasks) (new liveTasks maxEvents) calls →
      Always step (Faithful maxTasks now) (new liveTasks maxEvents) calls := by
  intro h
  have hfair := h 10000 10000 100000 "10:00" [.register (reviewTask { maxBackoffMs := 0 })]
    ⟨⟨fun _ _ _ => by decide, fun _ => by decide⟩, trivial⟩
  have hview := congrArg
    (fun view => view.1.map fun task => task.descriptor.restartPolicy.maxBackoffMs)
    hfair.last
  exact absurd hview (by decide)

end LoggedRegistry

end HiAgent.Kernel
