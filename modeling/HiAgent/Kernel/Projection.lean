/-
  Kernel/Projection.lean --- what the events of a run make of it.

  `_apply_projection_event` of `agent_kernel/kernel/minimal_runtime.py` and what it calls: the
  lifecycle of a run, the flags that go with it and its children, one event at a time. Of the
  operational events the stronger class wins, `Cancel > HardFailure > Timeout >
  ExternalCallback`.
-/
import HiAgent.Foundation.Attendance
import HiAgent.Kernel.EventLog
import Mathlib.Data.List.Infix

namespace HiAgent.Kernel

open Foundation List

/-! ## Projections -/

/-- `RunLifecycleState`. -/
inductive LifecycleState where
  | created
  | ready
  | dispatching
  | waitingResult
  | waitingExternal
  | recovering
  | completed
  | failed
  | aborted
  deriving DecidableEq

inductive RecoveryMode where
  | staticCompensation
  | humanEscalation
  | abort
  | reflectAndRetry
  deriving DecidableEq

/-- `RunProjection`, without the two fields that replay never sets. -/
structure RunProjection where
  runId : String
  lifecycleState : LifecycleState
  projectedOffset : Int
  waitingExternal : Bool
  readyForDispatch : Bool
  currentActionId : Option String
  recoveryMode : Option RecoveryMode
  recoveryReason : Option String
  activeChildRuns : List String

def defaultProjection (runId : String) : RunProjection where
  runId := runId
  lifecycleState := .created
  projectedOffset := 0
  waitingExternal := false
  readyForDispatch := false
  currentActionId := none
  recoveryMode := none
  recoveryReason := none
  activeChildRuns := []

/-- The transition of one event. -/
structure Transition where
  lifecycleState : LifecycleState
  waitingExternal : Bool
  readyForDispatch : Bool
  recoveryMode : Option RecoveryMode
  recoveryReason : Option String

/-! ## Operational classes -/

/-- The classes of `_OPERATIONAL_PRIORITY_RANK`. -/
inductive OperationalClass where
  | externalCallback
  | timeout
  | hardFailure
  | cancel
  deriving DecidableEq

/-- `_OPERATIONAL_PRIORITY_RANK`. -/
def OperationalClass.rank : OperationalClass → Nat
  | externalCallback => 1
  | timeout => 2
  | hardFailure => 3
  | cancel => 4

def eventOperationalPriority (eventType : String) : Option OperationalClass :=
  if eventType = "run.cancel_requested" then some .cancel
  else if eventType ∈ ["run.recovery_aborted", "run.aborted"] then some .hardFailure
  else if eventType ∈ ["run.waiting_external", "reconcile.failed"] then some .timeout
  else if eventType ∈ ["signal.external_callback", "signal.callback"] then
    some .externalCallback
  else none

/-- `_is_cancel_reason`. No letter outside ASCII has one of `cancel` as its lower
case. -/
def isCancelReason : Option String → Bool
  | none => false
  | some reason => decide ("cancel".toList <:+: (Text.lower reason).toList)

def projectionOperationalPriority (projection : RunProjection) : Option OperationalClass :=
  if projection.lifecycleState = .aborted then
    if isCancelReason projection.recoveryReason then some .cancel else some .hardFailure
  else if projection.lifecycleState = .waitingExternal then some .timeout
  else none

def isLowerPriorityOperationalConflict (projection : RunProjection) (event : RuntimeEvent) : Bool :=
  match projectionOperationalPriority projection, eventOperationalPriority event.eventType with
  | some current, some incoming => incoming.rank < current.rank
  | _, _ => false

/-! ## Transitions -/

def payloadText (event : RuntimeEvent) (key : String) : Option String :=
  match PyDict.get (event.payloadJson.getD []) key .none with
  | .str text => some text
  | _ => none

def deriveRecoveryReason (event : RuntimeEvent) (fallback : Option String) : Option String :=
  match payloadText event "reason" with
  | some reason => some reason
  | none =>
    if event.eventType ∈ ["run.ready", "run.completed", "run.created"] then none
    else fallback

def deriveCancelReason (event : RuntimeEvent) (fallback : Option String) : String :=
  (deriveRecoveryReason event fallback).getD "cancel_requested"

/-- `_STATIC_EVENT_TRANSITIONS`: lifecycle, flags and recovery mode. -/
def staticEventTransitions : List (String × LifecycleState × Bool × Bool × Option RecoveryMode) :=
  [("run.created", .created, false, false, none), ("run.ready", .ready, false, true, none),
    ("run.resume_requested", .recovering, false, false, some .staticCompensation),
    ("run.cancel_requested", .aborted, false, false, some .abort),
    ("run.recovery_succeeded", .ready, false, true, none),
    ("run.recovery_aborted", .aborted, false, false, some .abort),
    ("run.waiting_external", .waitingExternal, true, false, some .humanEscalation),
    ("run.dispatching", .dispatching, false, true, none),
    ("run.recovering", .recovering, false, false, some .staticCompensation),
    ("run.completed", .completed, false, false, none),
    ("run.aborted", .aborted, false, false, some .abort)]

def resolveDynamicTransition (eventType : String) :
    Option (LifecycleState × Bool × Bool × Option RecoveryMode) :=
  if eventType ∈ ["signal.child_spawned", "signal.child_completed",
      "signal.child_run_completed"] then none
  else if "signal.".toList.isPrefixOf eventType.toList then
    some (.ready, false, true, none)
  else none

def projectionUnchangedState (projection : RunProjection) : Transition where
  lifecycleState := projection.lifecycleState
  waitingExternal := projection.waitingExternal
  readyForDispatch := projection.readyForDispatch
  recoveryMode := projection.recoveryMode
  recoveryReason := projection.recoveryReason

/-- The events that `_resolve_projection_transition` lets pass by. -/
def blockedByTerminalOrPriority (projection : RunProjection) (event : RuntimeEvent) : Bool :=
  projection.lifecycleState = .completed || isLowerPriorityOperationalConflict projection event ||
    (projection.lifecycleState = .aborted && event.eventType != "run.cancel_requested")

def resolveProjectionTransition (projection : RunProjection) (event : RuntimeEvent) : Transition :=
  if blockedByTerminalOrPriority projection event then projectionUnchangedState projection
  else if event.eventType = "run.cancel_requested" then
    ⟨.aborted, false, false, some .abort, some (deriveCancelReason event projection.recoveryReason)⟩
  else if event.eventType = "reconcile.failed" then
    ⟨.waitingExternal, true, false, some .humanEscalation,
      deriveRecoveryReason event projection.recoveryReason⟩
  else
    match staticEventTransitions.lookup event.eventType with
    | some (lifecycleState, waitingExternal, readyForDispatch, recoveryMode) =>
      ⟨lifecycleState, waitingExternal, readyForDispatch, recoveryMode,
        deriveRecoveryReason event projection.recoveryReason⟩
    | none =>
      match resolveDynamicTransition event.eventType with
      | some (lifecycleState, waitingExternal, readyForDispatch, recoveryMode) =>
        ⟨lifecycleState, waitingExternal, readyForDispatch, recoveryMode, projection.recoveryReason⟩
      | none => projectionUnchangedState projection

/-! ## Children -/

def extractChildRunId (event : RuntimeEvent) : Option String :=
  (payloadText event "child_run_id").filter (· ≠ "")

def resolveActiveChildRuns (projection : RunProjection) (event : RuntimeEvent) : List String :=
  if projection.lifecycleState ∈ [.aborted, .completed] then projection.activeChildRuns
  else
    match extractChildRunId event with
    | none => projection.activeChildRuns
    | some childRunId =>
      if event.eventType ∈ ["run.child_spawned", "signal.child_spawned"] then
        if childRunId ∈ projection.activeChildRuns then projection.activeChildRuns
        else projection.activeChildRuns ++ [childRunId]
      else if event.eventType ∈ ["run.child_completed", "run.child_run_completed",
          "signal.child_completed", "signal.child_run_completed"] then
        projection.activeChildRuns.filter (· != childRunId)
      else projection.activeChildRuns

/-! ## One event -/

def applyProjectionEvent (projection : RunProjection) (event : RuntimeEvent) : RunProjection :=
  let transition := resolveProjectionTransition projection event
  { runId := projection.runId
    lifecycleState := transition.lifecycleState
    projectedOffset := event.commitOffset
    waitingExternal := transition.waitingExternal
    readyForDispatch := transition.readyForDispatch
    currentActionId := projection.currentActionId
    recoveryMode := transition.recoveryMode
    recoveryReason := transition.recoveryReason
    activeChildRuns := resolveActiveChildRuns projection event }

/-! ## Operational precedence -/

def operationalEventTypes : List String :=
  ["run.cancel_requested", "run.recovery_aborted", "run.aborted", "run.waiting_external",
    "reconcile.failed", "signal.external_callback", "signal.callback"]

/-- Lifecycle, `waiting_external` and `ready_for_dispatch`. -/
def RunProjection.standing (projection : RunProjection) : LifecycleState × Bool × Bool :=
  (projection.lifecycleState, projection.waitingExternal, projection.readyForDispatch)

/-- The standing a class leads to. -/
def OperationalClass.standing : OperationalClass → LifecycleState × Bool × Bool
  | externalCallback => (.ready, false, true)
  | timeout => (.waitingExternal, true, false)
  | hardFailure => (.aborted, false, false)
  | cancel => (.aborted, false, false)

def present (events : List RuntimeEvent) (operationalClass : OperationalClass) : Bool :=
  events.any fun event => eventOperationalPriority event.eventType = some operationalClass

def highestClass (events : List RuntimeEvent) : Option OperationalClass :=
  [.cancel, .hardFailure, .timeout, .externalCallback].find? (present events)

def OperationalClass.higher : Option OperationalClass → OperationalClass → OperationalClass
  | none, incoming => incoming
  | some current, incoming => if incoming.rank < current.rank then current else incoming

section Precedence

variable {projection : RunProjection} {event : RuntimeEvent} {events : List RuntimeEvent}
  {incoming : OperationalClass}

theorem exists_operationalClass (h : event.eventType ∈ operationalEventTypes) :
    ∃ incoming, eventOperationalPriority event.eventType = some incoming := by
  simp only [operationalEventTypes, mem_cons, not_mem_nil, or_false] at h
  rcases h with h | h | h | h | h | h | h
  all_goals
    rw [h]
    exact ⟨_, rfl⟩

theorem eventType_of_priority (h : eventOperationalPriority event.eventType = some incoming) :
    (incoming = .cancel ∧ event.eventType = "run.cancel_requested") ∨
    (incoming = .hardFailure ∧ event.eventType ∈ ["run.recovery_aborted", "run.aborted"]) ∨
    (incoming = .timeout ∧ event.eventType ∈ ["run.waiting_external", "reconcile.failed"]) ∨
    (incoming = .externalCallback ∧
      event.eventType ∈ ["signal.external_callback", "signal.callback"]) := by
  unfold eventOperationalPriority at h
  split at h
  · rename_i htype
    exact .inl ⟨(Option.some.inj h).symm, htype⟩
  · split at h
    · rename_i htype
      exact .inr (.inl ⟨(Option.some.inj h).symm, htype⟩)
    · split at h
      · rename_i htype
        exact .inr (.inr (.inl ⟨(Option.some.inj h).symm, htype⟩))
      · split at h
        · rename_i htype
          exact .inr (.inr (.inr ⟨(Option.some.inj h).symm, htype⟩))
        · cases h

theorem standing_of_blocked (h : blockedByTerminalOrPriority projection event = true) :
    (applyProjectionEvent projection event).standing = projection.standing := by
  simp [RunProjection.standing, applyProjectionEvent, resolveProjectionTransition, h,
    projectionUnchangedState]

theorem standing_of_not_blocked (hclass : eventOperationalPriority event.eventType = some incoming)
    (h : blockedByTerminalOrPriority projection event = false) :
    (applyProjectionEvent projection event).standing = incoming.standing := by
  have htypes := eventType_of_priority hclass
  simp only [mem_cons, not_mem_nil, or_false] at htypes
  simp only [RunProjection.standing, applyProjectionEvent, resolveProjectionTransition, h]
  rcases htypes with ⟨rfl, htype⟩ | ⟨rfl, htype | htype⟩ | ⟨rfl, htype | htype⟩ |
    ⟨rfl, htype | htype⟩
  all_goals
    rw [htype]
    rfl

theorem blocked_of_lifecycle (h : projection.lifecycleState ∉
      [LifecycleState.completed, .aborted, .waitingExternal]) :
    blockedByTerminalOrPriority projection event = false := by
  simp only [mem_cons, not_mem_nil, or_false, not_or] at h
  obtain ⟨hdone, haborted, hwaiting⟩ := h
  simp [blockedByTerminalOrPriority, isLowerPriorityOperationalConflict,
    projectionOperationalPriority, hdone, haborted, hwaiting]

theorem blocked_of_waiting (h : projection.lifecycleState = .waitingExternal)
    (hclass : eventOperationalPriority event.eventType = some incoming) :
    blockedByTerminalOrPriority projection event =
      decide (incoming.rank < OperationalClass.timeout.rank) := by
  simp [blockedByTerminalOrPriority, isLowerPriorityOperationalConflict,
    projectionOperationalPriority, h, hclass]

theorem blocked_of_aborted (h : projection.lifecycleState = .aborted)
    (hclass : eventOperationalPriority event.eventType = some incoming)
    (hcancel : incoming ≠ .cancel) : blockedByTerminalOrPriority projection event = true := by
  have htype : event.eventType ≠ "run.cancel_requested" := by
    intro htype
    rw [htype] at hclass
    exact hcancel (Option.some.inj hclass).symm
  simp [blockedByTerminalOrPriority, h, htype]

/-- Where a run stands after events of which `current` was the highest class. -/
def StandsAt (start : RunProjection) (current : Option OperationalClass)
    (projection : RunProjection) : Prop :=
  match current with
  | none => projection = start
  | some current => projection.standing = current.standing

theorem lifecycleState_of_standing {standing : LifecycleState × Bool × Bool}
    (h : projection.standing = standing) : projection.lifecycleState = standing.1 :=
  congrArg Prod.fst h

theorem standing_of_aborted (h : projection.standing = OperationalClass.cancel.standing)
    (hclass : eventOperationalPriority event.eventType = some incoming) :
    (applyProjectionEvent projection event).standing = OperationalClass.cancel.standing := by
  by_cases hcancel : incoming = .cancel
  · cases hblocked : blockedByTerminalOrPriority projection event with
    | true => rw [standing_of_blocked hblocked, h]
    | false => rw [standing_of_not_blocked hclass hblocked, hcancel]
  · rw [standing_of_blocked
      (blocked_of_aborted (lifecycleState_of_standing h) hclass hcancel), h]

theorem StandsAt.apply {start : RunProjection} {current : Option OperationalClass}
    (hstart : start.lifecycleState ∉ [LifecycleState.completed, .aborted, .waitingExternal])
    (h : StandsAt start current projection)
    (hclass : eventOperationalPriority event.eventType = some incoming) :
    StandsAt start (some (.higher current incoming)) (applyProjectionEvent projection event) := by
  cases current with
  | none =>
    obtain rfl : projection = start := h
    exact standing_of_not_blocked hclass (blocked_of_lifecycle hstart)
  | some current =>
    change projection.standing = current.standing at h
    change _ = OperationalClass.standing (if incoming.rank < current.rank then _ else _)
    have hlifecycle := lifecycleState_of_standing h
    cases current with
    | externalCallback =>
      have hblocked : blockedByTerminalOrPriority projection event = false := by
        apply blocked_of_lifecycle
        rw [hlifecycle]
        decide
      rw [standing_of_not_blocked hclass hblocked]
      cases incoming <;> rfl
    | timeout =>
      have hblocked := blocked_of_waiting hlifecycle hclass
      split
      · rename_i hlower
        rw [standing_of_blocked (by rw [hblocked, decide_eq_true hlower]), h]
      · rename_i hnotLower
        rw [standing_of_not_blocked hclass (by rw [hblocked, decide_eq_false hnotLower])]
    | _ =>
      rw [standing_of_aborted h hclass]
      cases incoming <;> rfl

theorem highestClass_concat (hclass : eventOperationalPriority event.eventType = some incoming) :
    highestClass (events ++ [event]) = some (.higher (highestClass events) incoming) := by
  have hpresent : present (events ++ [event]) = fun operationalClass =>
      present events operationalClass || decide (incoming = operationalClass) := by
    funext operationalClass
    simp [present, hclass]
  rw [highestClass, highestClass, hpresent]
  generalize present events = among
  cases hcancel : among .cancel <;> cases hhard : among .hardFailure <;>
    cases htimeout : among .timeout <;> cases hcallback : among .externalCallback <;>
    cases incoming <;>
    simp [hcancel, hhard, htimeout, hcallback, OperationalClass.higher, OperationalClass.rank]

theorem standsAt_foldl {start : RunProjection} (hstart : start.lifecycleState ∉
      [LifecycleState.completed, .aborted, .waitingExternal])
    (hevents : ∀ event ∈ events, event.eventType ∈ operationalEventTypes) :
    StandsAt start (highestClass events) (events.foldl applyProjectionEvent start) := by
  induction events using List.reverseRecOn with
  | nil => rfl
  | append_singleton earlier event ih =>
    rw [forall_mem_append] at hevents
    obtain ⟨incoming, hclass⟩ :=
      exists_operationalClass (hevents.2 event mem_cons_self)
    rw [foldl_append, highestClass_concat hclass]
    exact (ih hevents.1).apply hstart hclass

theorem highestClass_perm {reordered : List RuntimeEvent} (h : reordered.Perm events) :
    highestClass reordered = highestClass events := by
  have hpresent : present reordered = present events := by
    funext operationalClass
    rw [present, present, Bool.eq_iff_iff, any_eq_true, any_eq_true]
    simp only [h.mem_iff]
  rw [highestClass, highestClass, hpresent]

end Precedence

/-- Operational events lead a run, in whatever order they are replayed, where the
highest class among them leads it. -/
theorem operational_precedence (start : RunProjection) (hstart : start.lifecycleState ∉
      [LifecycleState.completed, .aborted, .waitingExternal]) (events : List RuntimeEvent)
    (hevents : ∀ event ∈ events, event.eventType ∈ operationalEventTypes)
    (reordered : List RuntimeEvent) (hreordered : reordered.Perm events) :
    (reordered.foldl applyProjectionEvent start).standing =
      (highestClass events).elim start.standing OperationalClass.standing := by
  have hreorderedEvents : ∀ event ∈ reordered, event.eventType ∈ operationalEventTypes :=
    fun event hevent => hevents event (hreordered.mem_iff.mp hevent)
  have hstands := standsAt_foldl hstart hreorderedEvents
  rw [highestClass_perm hreordered] at hstands
  cases hhighest : highestClass events with
  | none =>
    rw [hhighest] at hstands
    exact congrArg RunProjection.standing hstands
  | some highest =>
    rw [hhighest] at hstands
    exact hstands

/-- A cancellation counts whether a callback comes before it or after. -/
theorem operational_precedence_cancelled :
    ([RuntimeEvent.plain "run.cancel_requested" .authoritativeFact,
        .plain "signal.callback" .authoritativeFact].foldl applyProjectionEvent
      (defaultProjection "r")).standing = (.aborted, false, false) :=
  operational_precedence (defaultProjection "r") (by decide)
    [.plain "signal.callback" .authoritativeFact,
      .plain "run.cancel_requested" .authoritativeFact] (by decide) _ (.swap ..)

open Foundation.Attendance

def replayed (runId : String) (events : List RuntimeEvent) : RunProjection :=
  events.foldl applyProjectionEvent (defaultProjection runId)

theorem replayed_concat (runId : String) (events : List RuntimeEvent) (event : RuntimeEvent) :
    replayed runId (events ++ [event]) = applyProjectionEvent (replayed runId events) event := by
  simp [replayed]

/-! ## Terminal states -/

section Terminal

variable {projection : RunProjection} {event : RuntimeEvent} {runId : String}
  {earlier : List RuntimeEvent}

/-- The states of `_resolve_active_child_runs` that end a run. -/
def RunProjection.terminal (projection : RunProjection) : Bool :=
  projection.lifecycleState ∈ [LifecycleState.aborted, .completed]

theorem apply_of_completed (h : projection.lifecycleState = .completed) :
    applyProjectionEvent projection event =
      { projection with projectedOffset := event.commitOffset } := by
  have hblocked : blockedByTerminalOrPriority projection event = true := by
    simp [blockedByTerminalOrPriority, h]
  simp [applyProjectionEvent, resolveProjectionTransition, hblocked,
    projectionUnchangedState, resolveActiveChildRuns, h]

theorem lifecycleState_of_aborted (h : projection.lifecycleState = .aborted) :
    (applyProjectionEvent projection event).lifecycleState = .aborted := by
  change (resolveProjectionTransition projection event).lifecycleState = .aborted
  rw [resolveProjectionTransition]
  split
  · exact h
  · rename_i hblocked
    have hcancel : event.eventType = "run.cancel_requested" := by
      simp only [blockedByTerminalOrPriority, h, Bool.not_eq_true, Bool.or_eq_false_iff] at hblocked
      simpa using hblocked.2
    rw [if_pos hcancel]

theorem completed_of_earlier (later : List RuntimeEvent)
    (h : (replayed runId earlier).lifecycleState = .completed) :
    (replayed runId (earlier ++ later)).lifecycleState = .completed := by
  induction later using List.reverseRecOn with
  | nil => rwa [append_nil]
  | append_singleton later event ih =>
    rw [← append_assoc, replayed_concat, apply_of_completed ih]
    exact ih

theorem aborted_of_earlier (later : List RuntimeEvent)
    (h : (replayed runId earlier).lifecycleState = .aborted) :
    (replayed runId (earlier ++ later)).lifecycleState = .aborted := by
  induction later using List.reverseRecOn with
  | nil => rwa [append_nil]
  | append_singleton later event ih =>
    rw [← append_assoc, replayed_concat]
    exact lifecycleState_of_aborted ih

theorem terminal_apply (h : projection.terminal = true) :
    (applyProjectionEvent projection event).terminal = true := by
  simp only [RunProjection.terminal, mem_cons, not_mem_nil, or_false, decide_eq_true_eq] at h ⊢
  cases h with
  | inl haborted => exact .inl (lifecycleState_of_aborted haborted)
  | inr hdone =>
    rw [apply_of_completed hdone]
    exact .inr hdone

theorem terminal_foldl (events : List RuntimeEvent) (h : projection.terminal = true) :
    (events.foldl applyProjectionEvent projection).terminal = true := by
  induction events generalizing projection with
  | nil => exact h
  | cons event rest ih => exact ih (terminal_apply h)

end Terminal

/-! ## Flags -/

/-- The flags follow the lifecycle. -/
structure Flagged (lifecycleState : LifecycleState) (waitingExternal readyForDispatch : Bool) :
    Prop where
  ready : readyForDispatch = true → lifecycleState = .ready ∨ lifecycleState = .dispatching
  waiting : waitingExternal = true ↔ lifecycleState = .waitingExternal

instance (lifecycleState : LifecycleState) (waitingExternal readyForDispatch : Bool) :
    Decidable (Flagged lifecycleState waitingExternal readyForDispatch) :=
  decidable_of_iff
    ((readyForDispatch = true → lifecycleState = .ready ∨ lifecycleState = .dispatching) ∧
      (waitingExternal = true ↔ lifecycleState = .waitingExternal))
    ⟨fun h => ⟨h.1, h.2⟩, fun h => ⟨h.ready, h.waiting⟩⟩

theorem flagged_static :
    ∀ row ∈ staticEventTransitions, Flagged row.2.1 row.2.2.1 row.2.2.2.1 := by decide

theorem flagged_of_lookup {eventType : String}
    {row : LifecycleState × Bool × Bool × Option RecoveryMode}
    (h : staticEventTransitions.lookup eventType = some row) : Flagged row.1 row.2.1 row.2.2.1 := by
  obtain ⟨before, behind, hsplit, -⟩ := List.lookup_eq_some_iff.mp h
  apply flagged_static (eventType, row)
  rw [hsplit]
  simp

theorem flagged_dynamic {eventType : String}
    {row : LifecycleState × Bool × Bool × Option RecoveryMode}
    (h : resolveDynamicTransition eventType = some row) : Flagged row.1 row.2.1 row.2.2.1 := by
  unfold resolveDynamicTransition at h
  split at h
  · cases h
  · split at h
    · cases h
      decide
    · cases h

def RunProjection.Flags (projection : RunProjection) : Prop :=
  Flagged projection.lifecycleState projection.waitingExternal projection.readyForDispatch

theorem RunProjection.Flags.apply {projection : RunProjection} (h : projection.Flags)
    (event : RuntimeEvent) : (applyProjectionEvent projection event).Flags := by
  change Flagged (resolveProjectionTransition projection event).lifecycleState
    (resolveProjectionTransition projection event).waitingExternal
    (resolveProjectionTransition projection event).readyForDispatch
  unfold resolveProjectionTransition
  split
  · exact h
  · split
    · exact (by decide : Flagged .aborted false false)
    · split
      · exact (by decide : Flagged .waitingExternal true false)
      · split
        · rename_i hstatic
          exact flagged_of_lookup hstatic
        · split
          · rename_i hdynamic
            exact flagged_dynamic hdynamic
          · exact h

theorem flags_replayed (runId : String) (events : List RuntimeEvent) :
    (replayed runId events).Flags := by
  induction events using List.reverseRecOn with
  | nil => exact (by decide : Flagged .created false false)
  | append_singleton earlier event ih =>
    rw [replayed_concat]
    exact ih.apply event

/-! ## Children -/

/-- The child that an event starts or ends. -/
def childMove (event : RuntimeEvent) : Option (Move String) :=
  match extractChildRunId event with
  | none => none
  | some childRunId =>
    if event.eventType ∈ ["run.child_spawned", "signal.child_spawned"] then
      some (.arrives childRunId)
    else if event.eventType ∈ ["run.child_completed", "run.child_run_completed",
        "signal.child_completed", "signal.child_run_completed"] then
      some (.leaves childRunId)
    else none

theorem resolveActiveChildRuns_eq (projection : RunProjection) (event : RuntimeEvent) :
    resolveActiveChildRuns projection event = if projection.terminal then projection.activeChildRuns
      else move projection.activeChildRuns (childMove event) := by
  simp only [resolveActiveChildRuns, RunProjection.terminal, decide_eq_true_eq]
  split
  · rfl
  · cases hchild : extractChildRunId event with
    | none => simp [childMove, hchild, move]
    | some childRunId =>
      simp only [childMove, hchild]
      split
      · rfl
      · split
        · rfl
        · rfl

/-- The events that find the run not yet ended. -/
def seenBeforeTerminal (projection : RunProjection) : List RuntimeEvent → List RuntimeEvent
  | [] => []
  | event :: rest =>
    if projection.terminal then []
    else event :: seenBeforeTerminal (applyProjectionEvent projection event) rest

theorem seenBeforeTerminal_concat (projection : RunProjection) (events : List RuntimeEvent)
    (event : RuntimeEvent) : seenBeforeTerminal projection (events ++ [event]) =
      if (events.foldl applyProjectionEvent projection).terminal then
        seenBeforeTerminal projection events
      else seenBeforeTerminal projection events ++ [event] := by
  induction events generalizing projection with
  | nil =>
    rw [nil_append, seenBeforeTerminal]
    rfl
  | cons first rest ih =>
    simp only [cons_append, seenBeforeTerminal, foldl_cons]
    split
    · rename_i hover
      rw [if_pos (terminal_foldl rest (terminal_apply hover))]
    · rw [ih]
      split
      · rfl
      · rfl

def seen (runId : String) (events : List RuntimeEvent) : List RuntimeEvent :=
  seenBeforeTerminal (defaultProjection runId) events

theorem activeChildRuns_replayed (runId : String) (events : List RuntimeEvent) :
    (replayed runId events).activeChildRuns = attend childMove (seen runId events) := by
  induction events using List.reverseRecOn with
  | nil => rfl
  | append_singleton earlier event ih =>
    rw [replayed_concat, seen, seenBeforeTerminal_concat]
    change resolveActiveChildRuns _ _ = _
    rw [resolveActiveChildRuns_eq, replayed]
    split
    · exact ih
    · rw [attend_concat]
      exact congrArg (move · (childMove event)) ih

/-! ## Any events -/

/-- Replay from the default projection: what is terminal stays so, the flags follow the
lifecycle, and the children are those with a spawn event behind their last completion,
in the order of these spawn events. -/
theorem replay_invariants (runId : String) (events : List RuntimeEvent) :
    (((replayed runId events).lifecycleState = .completed →
        ∀ later event, replayed runId (events ++ later ++ [event]) =
          { replayed runId (events ++ later) with projectedOffset := event.commitOffset }) ∧
      ((replayed runId events).lifecycleState = .aborted →
        ∀ later, (replayed runId (events ++ later)).lifecycleState = .aborted)) ∧
    (((replayed runId events).readyForDispatch = true →
        (replayed runId events).lifecycleState = .ready ∨
          (replayed runId events).lifecycleState = .dispatching) ∧
      ((replayed runId events).waitingExternal = true ↔
        (replayed runId events).lifecycleState = .waitingExternal)) ∧
    ((replayed runId events).activeChildRuns.Nodup ∧
      (∀ childRunId, childRunId ∈ (replayed runId events).activeChildRuns ↔
        ∃ spawned ∈ stay childMove childRunId (seen runId events),
          childMove spawned = some (.arrives childRunId)) ∧
      (replayed runId events).activeChildRuns.Pairwise fun first second =>
        arrivedAt childMove (seen runId events) first <
          arrivedAt childMove (seen runId events) second) := by
  refine ⟨?_, ?_, ?_⟩
  · constructor
    · intro hdone later event
      rw [replayed_concat]
      apply apply_of_completed
      exact completed_of_earlier later hdone
    · intro haborted later
      exact aborted_of_earlier later haborted
  · exact ⟨(flags_replayed runId events).ready, (flags_replayed runId events).waiting⟩
  · rw [activeChildRuns_replayed]
    exact ⟨nodup_attend childMove _, mem_attend_iff childMove _, pairwise_arrivedAt childMove _⟩

end HiAgent.Kernel
