/-
  Kernel/ProjectionService.lean --- projections kept beside a log that grows.

  `InMemoryDecisionProjectionService` of `agent_kernel/kernel/minimal_runtime.py` over the log of
  one process. The service keeps the projection of each run and resumes behind the offset it has
  projected. A run that the log drops is numbered from one again.
-/
import HiAgent.Foundation.Machine
import HiAgent.Foundation.Replay
import HiAgent.Kernel.Projection

namespace HiAgent.Kernel

open Foundation List

/-! ## The service -/

def validateProjectionAuthorityInput (rejectDerivedDiagnostic : Bool) (event : RuntimeEvent) :
    Bool :=
  !(rejectDerivedDiagnostic && event.eventAuthority == .derivedDiagnostic)

/-- The loop of `get` and `catch_up`. -/
def projector (rejectDerivedDiagnostic : Bool) : Follower RunProjection RuntimeEvent where
  position := RuntimeEvent.commitOffset
  relevant := validateProjectionAuthorityInput rejectDerivedDiagnostic
  apply := applyProjectionEvent
  seen := RunProjection.projectedOffset
  seen_apply _ _ := rfl

/-- `InMemoryDecisionProjectionService`, without a schema migrator. -/
structure ProjectionService where
  projectionByRun : Table RunProjection.runId
  rejectDerivedDiagnosticAuthorityInput : Bool

namespace ProjectionService

def fresh : ProjectionService := ⟨.empty, true⟩

def projection (service : ProjectionService) (runId : String) : RunProjection :=
  (service.projectionByRun.lookup runId).getD (defaultProjection runId)

def keep (service : ProjectionService) (projection : RunProjection) : ProjectionService :=
  { service with projectionByRun := service.projectionByRun.insertOrReplace projection }

def catchUp (service : ProjectionService) (log : InMemoryEventLog) (runId : String)
    (throughOffset : Int) : RunProjection × ProjectionService :=
  let projection := service.projection runId
  let unseenEvents := log.load runId projection.projectedOffset
  let projection := (projector service.rejectDerivedDiagnosticAuthorityInput).followThrough
    throughOffset projection unseenEvents
  (projection, service.keep projection)

def get (service : ProjectionService) (log : InMemoryEventLog) (runId : String) :
    RunProjection × ProjectionService :=
  let projection := service.projection runId
  let unseenEvents := log.load runId projection.projectedOffset
  let projection := (projector service.rejectDerivedDiagnosticAuthorityInput).follow
    projection unseenEvents
  (projection, service.keep projection)

def readiness (service : ProjectionService) (log : InMemoryEventLog) (runId : String)
    (requiredOffset : Int) : Bool × ProjectionService :=
  let answer := service.get log runId
  (answer.1.projectedOffset ≥ requiredOffset, answer.2)

variable {service : ProjectionService} {log : InMemoryEventLog} {runId : String}

theorem runId_advance (reject : Bool) (projection : RunProjection) (event : RuntimeEvent) :
    ((projector reject).advance projection event).runId = projection.runId := by
  unfold Follower.advance
  split <;> rfl

theorem runId_follow (reject : Bool) (projection : RunProjection) (events : List RuntimeEvent) :
    ((projector reject).follow projection events).runId = projection.runId := by
  induction events generalizing projection with
  | nil => rfl
  | cons event rest ih => exact (ih _).trans (runId_advance reject projection event)

theorem runId_followThrough (reject : Bool) (through : Int) (projection : RunProjection)
    (events : List RuntimeEvent) :
    ((projector reject).followThrough through projection events).runId = projection.runId := by
  induction events generalizing projection with
  | nil => rfl
  | cons event rest ih =>
    rw [Follower.followThrough]
    split
    · rfl
    · exact (ih _).trans (runId_advance reject projection event)

theorem runId_projection (service : ProjectionService) (runId : String) :
    (service.projection runId).runId = runId := by
  unfold projection
  cases hlookup : service.projectionByRun.lookup runId with
  | none => rfl
  | some projection => exact Table.key_of_lookup hlookup

theorem projection_keep (service : ProjectionService) (projection : RunProjection)
    (runId : String) : (service.keep projection).projection runId =
      if runId = projection.runId then projection else service.projection runId := by
  rw [ProjectionService.projection, keep, Table.lookup_insertOrReplace]
  split <;> rfl

theorem projection_get (service : ProjectionService) (log : InMemoryEventLog)
    (runId other : String) : (service.get log runId).2.projection other =
      if other = runId then (service.get log runId).1 else service.projection other := by
  unfold get
  dsimp only
  rw [projection_keep, runId_follow, runId_projection]

theorem projection_catchUp (service : ProjectionService) (log : InMemoryEventLog)
    (runId other : String) (through : Int) :
    (service.catchUp log runId through).2.projection other =
      if other = runId then (service.catchUp log runId through).1
      else service.projection other := by
  unfold catchUp
  dsimp only
  rw [projection_keep, runId_followThrough, runId_projection]

end ProjectionService

/-! ## Calls of the log and the service -/

/-- A log, its service and the events that were ever given an offset, by run. -/
structure Projected where
  log : InMemoryEventLog
  service : ProjectionService
  assigned : String → List RuntimeEvent

/-- A call. -/
inductive ProjectedCall where
  | append (commit : ActionCommit)
  | catchUp (runId : String) (throughOffset : Int)
  | get (runId : String)
  | cleanup (runId : String)

namespace Projected

def initial : Projected := ⟨.empty, .fresh, fun _ => []⟩

/-- The events of a run with those of a commit to it. -/
def assign (state : Projected) (commit : ActionCommit) (runId : String) : List RuntimeEvent :=
  if runId = commit.runId then
    state.assigned runId ++ numbered (state.log.history runId).nextOffset commit.events
  else state.assigned runId

/-- What a call does. -/
def step (state : Projected) : ProjectedCall → Projected
  | .append commit =>
    { state with
      log := (state.log.appendActionCommit commit).2
      assigned := state.assign commit }
  | .catchUp runId throughOffset =>
    { state with service := (state.service.catchUp state.log runId throughOffset).2 }
  | .get runId => { state with service := (state.service.get state.log runId).2 }
  | .cleanup runId => { state with log := state.log.cleanupCompletedRun runId }

/-- What `get` returns. -/
def get (state : Projected) (runId : String) : RunProjection :=
  (state.service.get state.log runId).1

/-- What `catch_up` returns. -/
def catchUp (state : Projected) (runId : String) (throughOffset : Int) : RunProjection :=
  (state.service.catchUp state.log runId throughOffset).1

/-- What `readiness` returns. -/
def readiness (state : Projected) (runId : String) (requiredOffset : Int) : Bool :=
  (state.service.readiness state.log runId requiredOffset).1

def after (calls : List ProjectedCall) : Projected := exec step initial calls

/-- The fold over the events that are not marked `derived_diagnostic`. -/
def replay (runId : String) (events : List RuntimeEvent) : RunProjection :=
  (events.filter fun event => event.eventAuthority ≠ .derivedDiagnostic).foldl
    applyProjectionEvent (defaultProjection runId)

theorem relevant_iff {event : RuntimeEvent} :
    (projector true).relevant event = true ↔ event.eventAuthority ≠ .derivedDiagnostic := by
  simp [projector, validateProjectionAuthorityInput]

theorem replay_eq (runId : String) (events : List RuntimeEvent) :
    replay runId events = (projector true).follow (defaultProjection runId) events := by
  rw [Follower.follow_eq_foldl, replay]
  congr 1
  refine filter_congr fun event _ => ?_
  rw [Bool.eq_iff_iff, relevant_iff, decide_eq_true_iff]

/-! ## What holds of a run that is kept -/

def Keeps (runId : String) (state : Projected) : ProjectedCall → Prop
  | .append commit => state.log.evicts commit ≠ some runId
  | .cleanup other => other ≠ runId
  | _ => True

instance (runId : String) (state : Projected) :
    (call : ProjectedCall) → Decidable (Keeps runId state call)
  | .append commit => inferInstanceAs (Decidable (state.log.evicts commit ≠ some runId))
  | .cleanup other => inferInstanceAs (Decidable (other ≠ runId))
  | .catchUp _ _ => isTrue trivial
  | .get _ => isTrue trivial

/-- The log has all events of the run, with growing offsets below the next one, and the
projection that is kept is the one of the events up to its offset. -/
structure Tracked (runId : String) (state : Projected) : Prop where
  rejects : state.service.rejectDerivedDiagnosticAuthorityInput = true
  events : (state.log.history runId).events = state.assigned runId
  ascending : (projector true).Ascending 0 (state.assigned runId)
  below : ∀ event ∈ state.assigned runId, event.commitOffset < (state.log.history runId).nextOffset
  positive : 0 < (state.log.history runId).nextOffset
  behind : (state.service.projection runId).projectedOffset < (state.log.history runId).nextOffset
  current : (projector true).Current (defaultProjection runId) (state.assigned runId)
    (state.service.projection runId)

section Steps

variable {runId : String} {state : Projected}

theorem ascending_numbered (reject : Bool) (offset : Int) (events : List RuntimeEvent) :
    (projector reject).Ascending (offset - 1) (numbered offset events) := by
  induction events generalizing offset with
  | nil => exact pairwise_singleton ..
  | cons event rest ih =>
    rw [numbered, Follower.ascending_cons_iff]
    have hrest := ih (offset + 1)
    rw [Int.add_sub_cancel] at hrest
    refine ⟨?_, hrest⟩
    change offset - 1 < offset
    omega

theorem tracked_initial (runId : String) : Tracked runId initial where
  rejects := rfl
  events := rfl
  ascending := pairwise_singleton ..
  below := forall_mem_nil _
  positive := Int.one_pos
  behind := Int.one_pos
  current := rfl

section

variable (h : Tracked runId state)
include h

theorem Tracked.of_same {after : Projected}
    (hhistory : after.log.history runId = state.log.history runId)
    (hset : after.assigned runId = state.assigned runId)
    (hservice : after.service = state.service) : Tracked runId after := by
  constructor
  · rw [hservice]
    exact h.rejects
  · rw [hhistory, hset, h.events]
  · rw [hset]
    exact h.ascending
  · rw [hhistory, hset]
    exact h.below
  · rw [hhistory]
    exact h.positive
  · rw [hservice, hhistory]
    exact h.behind
  · rw [hservice, hset]
    exact h.current

theorem Tracked.append {commit : ActionCommit} (hkeeps : state.log.evicts commit ≠ some runId) :
    Tracked runId (state.step (.append commit)) := by
  have hhistory := state.log.history_appendActionCommit commit runId
  rw [if_neg hkeeps] at hhistory
  by_cases hrun : runId = commit.runId
  · have hset : (state.step (.append commit)).assigned runId = state.assigned runId ++
          numbered (state.log.history runId).nextOffset commit.events :=
      if_pos hrun
    rw [if_pos hrun] at hhistory
    have hnew : ∀ event ∈ numbered (state.log.history runId).nextOffset commit.events,
        (state.log.history runId).nextOffset ≤ event.commitOffset ∧
          event.commitOffset < (state.log.history runId).nextOffset + commit.events.length :=
      fun event hevent => offset_mem_numbered hevent
    have hpos := h.positive
    have hbehind := h.behind
    have hnext : ((state.step (.append commit)).log.history runId).nextOffset =
        (state.log.history runId).nextOffset + commit.events.length :=
      congrArg RunHistory.nextOffset hhistory
    refine ⟨h.rejects, ?_, ?_, ?_, ?_, ?_, ?_⟩
    · rw [hset, ← h.events]
      exact congrArg RunHistory.events hhistory
    · rw [hset]
      refine h.ascending.append (fun event hevent => ?_) ?_ (ascending_numbered ..)
      · have hlt := h.below event hevent
        exact Int.le_sub_one_of_lt hlt
      · omega
    · rw [hset, hnext]
      intro event hevent
      rcases mem_append.mp hevent with hold | hold
      · have hlt := h.below event hold
        omega
      · exact (hnew event hold).2
    · rw [hnext]
      omega
    · rw [hnext]
      change (state.service.projection runId).projectedOffset < _
      omega
    · rw [hset]
      refine h.current.append fun event hevent => ?_
      exact lt_of_lt_of_le hbehind (hnew event hevent).1
  · rw [if_neg hrun] at hhistory
    exact h.of_same hhistory (if_neg hrun) rfl

theorem Tracked.load_eq (afterOffset : Int) :
    state.log.load runId afterOffset =
      (projector true).after afterOffset (state.assigned runId) := by
  rw [← h.events]
  rfl

theorem Tracked.get_eq : state.get runId = replay runId (state.assigned runId) := by
  unfold Projected.get ProjectionService.get
  dsimp only
  rw [h.load_eq, h.rejects, replay_eq]
  exact h.current.follow_after h.ascending

theorem Tracked.catchUp_eq (through : Int) : state.catchUp runId through =
      replay runId ((projector true).upTo
        (max through (state.service.projection runId).projectedOffset) (state.assigned runId)) := by
  unfold Projected.catchUp ProjectionService.catchUp
  dsimp only
  rw [h.load_eq, h.rejects, replay_eq]
  exact h.current.followThrough_after h.ascending through

theorem Tracked.read {service : ProjectionService}
    (hrejects : service.rejectDerivedDiagnosticAuthorityInput = true)
    (hview : service.projection runId = state.service.projection runId ∨
      ∃ offset, service.projection runId =
        replay runId ((projector true).upTo offset (state.assigned runId))) :
    Tracked runId { state with service := service } := by
  refine ⟨hrejects, h.events, h.ascending, h.below, h.positive, ?_, ?_⟩
  · rcases hview with hsame | ⟨offset, hoffset⟩
    · change (service.projection runId).projectedOffset < _
      rw [hsame]
      exact h.behind
    · change (service.projection runId).projectedOffset < _
      rw [hoffset, replay_eq]
      refine Int.lt_of_le_sub_one (Follower.seen_follow_le (F := projector true) ?_ ?_)
      · exact Int.le_sub_one_of_lt h.positive
      · intro event hevent
        exact Int.le_sub_one_of_lt (h.below event (mem_of_mem_filter hevent))
  · rcases hview with hsame | ⟨offset, hoffset⟩
    · change Follower.Current _ _ _ (service.projection runId)
      rw [hsame]
      exact h.current
    · change Follower.Current _ _ _ (service.projection runId)
      rw [hoffset, replay_eq]
      exact Follower.current_follow_upTo h.ascending offset

theorem Tracked.upTo_eq :
    (projector true).upTo (state.log.history runId).nextOffset (state.assigned runId) =
      state.assigned runId := by
  refine filter_eq_self.mpr fun event hevent => ?_
  have hlt := h.below event hevent
  exact decide_eq_true (le_of_lt hlt)

theorem Tracked.step {call : ProjectedCall}
    (hkeeps : Keeps runId state call) : Tracked runId (state.step call) := by
  cases call with
  | append commit => exact h.append hkeeps
  | catchUp other through =>
    refine h.read h.rejects ?_
    rw [ProjectionService.projection_catchUp]
    split
    · rename_i hrun
      subst hrun
      exact .inr ⟨_, h.catchUp_eq through⟩
    · exact .inl rfl
  | get other =>
    refine h.read h.rejects ?_
    rw [ProjectionService.projection_get]
    split
    · rename_i hrun
      subst hrun
      refine .inr ⟨(state.log.history runId).nextOffset, ?_⟩
      rw [h.upTo_eq]
      exact h.get_eq
    · exact .inl rfl
  | cleanup other =>
    refine h.of_same ?_ rfl rfl
    change InMemoryEventLog.history (state.log.cleanupCompletedRun other) runId = _
    unfold InMemoryEventLog.history InMemoryEventLog.cleanupCompletedRun
    rw [Table.lookup_deleteAt, if_neg fun hrun => hkeeps hrun.symm]

end

theorem tracked_after {calls : List ProjectedCall}
    (h : Along Projected.step (Keeps runId) initial calls) : Tracked runId (after calls) :=
  exec_invariant (fun _ _ hinv hkeeps => hinv.step hkeeps) (tracked_initial runId) h

end Steps

/-! ## What the calls on a run amount to -/

/-- The events that calls have committed to a run. -/
def committedTo (runId : String) (calls : List ProjectedCall) : List RuntimeEvent :=
  calls.flatMap fun call =>
    match call with
    | .append commit => if commit.runId = runId then commit.events else []
    | _ => []

theorem assigned_exec {runId : String} {calls : List ProjectedCall} {state : Projected}
    (earlier : List RuntimeEvent) (hset : state.assigned runId = numbered 1 earlier)
    (hnext : (state.log.history runId).nextOffset = 1 + earlier.length)
    (h : Along step (Keeps runId) state calls) : (exec step state calls).assigned runId =
      numbered 1 (earlier ++ committedTo runId calls) := by
  induction calls generalizing state earlier with
  | nil => rw [committedTo, flatMap_nil, append_nil]; exact hset
  | cons call rest ih =>
    obtain ⟨hkeeps, hrest⟩ := h
    rw [exec_cons, committedTo, flatMap_cons, ← committedTo, ← append_assoc]
    cases call with
    | append commit =>
      have hhistory := state.log.history_appendActionCommit commit runId
      rw [if_neg hkeeps] at hhistory
      by_cases hrun : runId = commit.runId
      · rw [if_pos hrun] at hhistory
        have hnew : (state.step (.append commit)).assigned runId = state.assigned runId ++
              numbered (state.log.history runId).nextOffset commit.events :=
          if_pos hrun
        dsimp only
        rw [if_pos hrun.symm]
        refine ih _ ?_ ?_ hrest
        · rw [hnew, hset, hnext, numbered_append]
        · have hnext' := congrArg RunHistory.nextOffset hhistory
          refine hnext'.trans ?_
          rw [RunHistory.extended, hnext, length_append]
          push_cast
          omega
      · rw [if_neg hrun] at hhistory
        dsimp only
        rw [if_neg fun hsame => hrun hsame.symm, append_nil]
        refine ih _ ((if_neg hrun).trans hset) ?_ hrest
        exact (congrArg RunHistory.nextOffset hhistory).trans hnext
    | cleanup other =>
      rw [append_nil]
      refine ih _ hset ?_ hrest
      change ((state.log.cleanupCompletedRun other).history runId).nextOffset = _
      unfold InMemoryEventLog.history InMemoryEventLog.cleanupCompletedRun
      rw [Table.lookup_deleteAt, if_neg fun hsame => hkeeps hsame.symm]
      exact hnext
    | _ =>
      rw [append_nil]
      exact ih _ hset hnext hrest

theorem assigned_after {runId : String} {calls : List ProjectedCall}
    (h : Along step (Keeps runId) initial calls) :
    (after calls).assigned runId = numbered 1 (committedTo runId calls) :=
  assigned_exec [] rfl rfl h

/-- While a run is kept, its projection is the replay of its events, and the one it is
caught up to is the replay of a front of them. -/
theorem projection_eq_replay (runId : String) (calls : List ProjectedCall)
    (h : Along step (Keeps runId) initial calls) :
    (after calls).get runId = replay runId (numbered 1 (committedTo runId calls)) ∧
      ∀ throughOffset, ∃ front, front <+: numbered 1 (committedTo runId calls) ∧
        (∀ event ∈ numbered 1 (committedTo runId calls),
          event.commitOffset ≤ throughOffset → event ∈ front) ∧
        (after calls).catchUp runId throughOffset = replay runId front := by
  have htracked := tracked_after h
  rw [← assigned_after h]
  refine ⟨htracked.get_eq, fun throughOffset => ⟨_, ?_, ?_, htracked.catchUp_eq _⟩⟩
  · exact ⟨_, Follower.upTo_append_after htracked.ascending _⟩
  · intro event hevent hle
    refine mem_filter.mpr ⟨hevent, decide_eq_true ?_⟩
    exact le_trans hle (le_max_left _ _)

/-- A commit that ends with a diagnostic event. -/
def observed : List ProjectedCall :=
  [.append {
    runId := "r"
    commitId := "c"
    events := [.plain "run.ready" .authoritativeFact,
      .plain "recovery.plan_selected" .derivedDiagnostic]
    createdAt := ""
    action := none }]

theorem projection_eq_replay_observed :
    (after observed).get "r" = replay "r" (numbered 1 (committedTo "r" observed)) :=
  (projection_eq_replay "r" observed (by decide)).1

/-- After `get` has replayed a run that is kept, an offset of the run is ready when an
event there or behind is not marked `derived_diagnostic`. -/
theorem readiness_iff (runId : String) (calls : List ProjectedCall)
    (h : Along step (Keeps runId) initial calls) (event : RuntimeEvent)
    (hevent : event ∈ numbered 1 (committedTo runId calls)) :
    (after (calls ++ [ProjectedCall.get runId])).readiness runId event.commitOffset = true ↔
      ∃ later ∈ numbered 1 (committedTo runId calls), later.eventAuthority ≠ .derivedDiagnostic ∧
          event.commitOffset ≤ later.commitOffset := by
  have hget : Along step (Keeps runId) initial (calls ++ [ProjectedCall.get runId]) :=
    (along_append ..).mpr ⟨h, trivial, trivial⟩
  have hset := assigned_after hget
  have hsame : committedTo runId (calls ++ [ProjectedCall.get runId]) =
      committedTo runId calls := by
    rw [committedTo, flatMap_append, ← committedTo]
    exact append_nil _
  rw [hsame] at hset
  have htracked := tracked_after hget
  have hpos : 0 < event.commitOffset := (offset_mem_numbered hevent).1
  unfold Projected.readiness ProjectionService.readiness
  rw [decide_eq_true_iff, ← Projected.get, htracked.get_eq, replay_eq, hset]
  have hasc : (projector true).Ascending
      ((projector true).seen (defaultProjection runId))
      (numbered 1 (committedTo runId calls)) := ascending_numbered true 1 _
  refine (Follower.le_seen_follow_iff hasc).trans ?_
  constructor
  · rintro (hzero | ⟨later, hlater, hmatter, hle⟩)
    · exact absurd hzero (not_le.mpr hpos)
    · exact ⟨later, hlater, relevant_iff.mp hmatter, hle⟩
  · rintro ⟨later, hlater, hauthority, hle⟩
    exact .inr ⟨later, hlater, relevant_iff.mpr hauthority, hle⟩

/-- The fact at the front is ready. -/
theorem readiness_iff_observed :
    (after (observed ++ [ProjectedCall.get "r"])).readiness "r" 1 = true ↔
      ∃ later ∈ numbered 1 (committedTo "r" observed),
        later.eventAuthority ≠ .derivedDiagnostic ∧ 1 ≤ later.commitOffset :=
  readiness_iff "r" observed (by decide) _ mem_cons_self

/-- The offset of the diagnostic event behind it never gets ready. -/
theorem not_readiness_observed : ¬ ∀ (runId : String) (calls : List ProjectedCall),
      Along step (Keeps runId) initial calls → ∀ event ∈ numbered 1 (committedTo runId calls),
          (after (calls ++ [ProjectedCall.get runId])).readiness runId
            event.commitOffset = true := by
  intro h
  have hready := h "r" observed (by decide) _ (mem_cons_of_mem _ mem_cons_self)
  revert hready
  decide

end Projected

/-! ## When a run is dropped -/

namespace InMemoryEventLog

variable {log : InMemoryEventLog} {commit : ActionCommit} {runId : String}

def Fits (log : InMemoryEventLog) : Prop := log.runs.rows.length ≤ maxRetainedRuns

theorem lookup_eq_none_of_not_retains (h : ¬ log.Retains runId) : log.runs.lookup runId = none := by
  simpa [Retains] using h

theorem rows_committed (h : ¬ log.Retains commit.runId) : (log.committed commit).rows =
      log.runs.rows ++ [(RunHistory.fresh commit.runId).extended commit.events] := by
  rw [committed, if_neg h]
  exact Table.rows_insertOrReplace (lookup_eq_none_of_not_retains h)

theorem length_committed (h : log.Retains commit.runId) :
    (log.committed commit).rows.length = log.runs.rows.length := by
  rw [committed, if_pos h]
  exact Table.length_updateAt ..

theorem oldest_of_le {runs : Table RunHistory.runId}
    (h : runs.rows.length ≤ maxRetainedRuns) : oldest runs = none :=
  if_neg (Nat.not_lt.mpr h)

theorem evicts_eq_some_iff (hfits : log.Fits) (other : String) : log.evicts commit = some other ↔
      commit.events ≠ [] ∧ ¬ log.Retains commit.runId ∧ log.runs.rows.length = maxRetainedRuns ∧
          log.runs.rows.head?.map RunHistory.runId = some other := by
  unfold Fits at hfits
  unfold evicts
  cases hempty : commit.events.isEmpty with
  | true =>
    have hnil := List.isEmpty_iff.mp hempty
    simp [hnil]
  | false =>
    have hne : commit.events ≠ [] := by
      intro hnil
      rw [hnil] at hempty
      cases hempty
    rw [if_neg Bool.false_ne_true]
    by_cases hretains : log.Retains commit.runId
    · rw [oldest_of_le (by rw [length_committed hretains]; exact hfits)]
      simp [hretains]
    · have hlength : (log.committed commit).rows.length = log.runs.rows.length + 1 := by
        rw [rows_committed hretains]
        exact length_append
      by_cases hfull : log.runs.rows.length = maxRetainedRuns
      · have hhead : (log.committed commit).rows.head? = log.runs.rows.head? := by
          rw [rows_committed hretains]
          refine head?_append_of_ne_nil _ fun hnil => ?_
          rw [hnil] at hfull
          cases hfull
        rw [oldest, if_pos (by omega), hhead]
        exact ⟨fun h => ⟨hne, hretains, hfull, h⟩, fun h => h.2.2.2⟩
      · rw [oldest_of_le (by omega)]
        simp [hfull]

theorem retains_of_head (h : log.runs.rows.head?.map RunHistory.runId = some runId) :
    log.Retains runId := by
  obtain ⟨history, hhead, rfl⟩ := Option.map_eq_some_iff.mp h
  rw [Retains, Table.mem_rows_iff.mp (mem_of_mem_head? hhead)]
  rfl

theorem length_evicted {runs : Table RunHistory.runId}
    (h : runs.rows.length ≤ maxRetainedRuns + 1) :
    (evicted runs).rows.length ≤ maxRetainedRuns := by
  unfold evicted oldest
  split
  · rename_i first holdest
    split at holdest
    · cases hrows : runs.rows with
      | nil =>
        rw [hrows] at holdest
        cases holdest
      | cons history rest =>
        rw [hrows] at holdest
        obtain rfl : history.runId = first := Option.some.inj holdest
        rw [hrows, length_cons] at h
        rw [Table.rows_deleteAt_first hrows]
        omega
    · cases holdest
  · rename_i holdest
    split at holdest
    · rename_i hmany
      rw [Option.map_eq_none_iff, head?_eq_none_iff] at holdest
      rw [holdest] at hmany
      cases hmany
    · rename_i hfew
      exact Nat.le_of_not_lt hfew

theorem fits_appendActionCommit (hfits : log.Fits) : (log.appendActionCommit commit).2.Fits := by
  unfold Fits at hfits
  unfold appendActionCommit
  split
  · exact hfits
  · apply length_evicted
    by_cases hretains : log.Retains commit.runId
    · rw [length_committed hretains]
      omega
    · rw [rows_committed hretains, length_append, length_singleton]
      omega

theorem runIds_appendActionCommit (hnew : ¬ log.Retains commit.runId)
    (hevents : commit.events.isEmpty = false) (hroom : log.runs.rows.length < maxRetainedRuns) :
    (log.appendActionCommit commit).2.runs.rows.map RunHistory.runId =
      log.runs.rows.map RunHistory.runId ++ [commit.runId] := by
  have hlength : (log.committed commit).rows.length ≤ maxRetainedRuns := by
    rw [rows_committed hnew, length_append, length_singleton]
    omega
  rw [appendActionCommit, hevents, if_neg Bool.false_ne_true]
  dsimp only
  rw [evicted, oldest_of_le hlength]
  dsimp only
  rw [rows_committed hnew, map_append]
  rfl

theorem retains_appendActionCommit_iff : (log.appendActionCommit commit).2.Retains runId ↔
      log.evicts commit ≠ some runId ∧
        (log.Retains runId ∨ runId = commit.runId ∧ commit.events ≠ []) := by
  unfold appendActionCommit evicts
  cases hempty : commit.events.isEmpty with
  | true => simp [List.isEmpty_iff.mp hempty]
  | false =>
    have hne : commit.events ≠ [] := by
      intro hnil
      rw [hnil] at hempty
      cases hempty
    rw [if_neg Bool.false_ne_true, if_neg Bool.false_ne_true]
    unfold Retains
    dsimp only
    rw [lookup_evicted, lookup_committed]
    split
    · rename_i holdest
      simp [holdest]
    · rename_i holdest
      split
      · rename_i hrun
        simp [← hrun, holdest, hne]
      · rename_i hrun
        simp [holdest, hrun]

end InMemoryEventLog

/-! ## A run until it is dropped, and afterwards -/

namespace Projected

variable {runId : String} {state : Projected}

def Dropped (runId : String) (state : Projected) : Prop :=
  ¬ state.log.Retains runId ∧ state.assigned runId ≠ []

instance (runId : String) (state : Projected) : Decidable (Dropped runId state) :=
  inferInstanceAs (Decidable (_ ∧ _))

/-- The call is a commit or a read, and no commit to the run once it is dropped. -/
def Continues (runId : String) (state : Projected) : ProjectedCall → Prop
  | .append commit => commit.runId = runId → ¬ Dropped runId state
  | .cleanup _ => False
  | _ => True

instance (runId : String) (state : Projected) :
    (call : ProjectedCall) → Decidable (Continues runId state call)
  | .append commit => inferInstanceAs (Decidable (commit.runId = runId → ¬ Dropped runId state))
  | .cleanup _ => isFalse not_false
  | .catchUp _ _ => isTrue trivial
  | .get _ => isTrue trivial

/-- A run that is dropped: its offsets have grown, and the service has its projection as
of the last read. -/
structure Forgotten (runId : String) (state : Projected) : Prop where
  dropped : Dropped runId state
  ascending : (projector true).Ascending 0 (state.assigned runId)
  current : (projector true).Current (defaultProjection runId) (state.assigned runId)
    (state.service.projection runId)

/-- A run as it is before it is dropped, or afterwards. -/
structure Follows (runId : String) (state : Projected) : Prop where
  fits : state.log.Fits
  stands : Tracked runId state ∧ (state.log.Retains runId ↔ state.assigned runId ≠ []) ∨
    Forgotten runId state

theorem follows_initial (runId : String) : Follows runId initial where
  fits := Nat.zero_le _
  stands := .inl ⟨tracked_initial runId, iff_of_false nofun (absurd rfl)⟩

variable {commit : ActionCommit}

theorem assigned_append_ne_nil_iff : (state.step (.append commit)).assigned runId ≠ [] ↔
      state.assigned runId ≠ [] ∨ runId = commit.runId ∧ commit.events ≠ [] := by
  change state.assign commit runId ≠ [] ↔ _
  unfold assign
  split
  · rename_i hrun
    have hnumbered : numbered (state.log.history runId).nextOffset commit.events = [] ↔
        commit.events = [] := by
      rw [← length_eq_zero_iff, length_numbered, length_eq_zero_iff]
    rw [Ne, append_eq_nil_iff, hnumbered, not_and_or]
    simp [hrun]
  · rename_i hrun
    simp [hrun]

theorem Forgotten.append (h : Forgotten runId state)
    (hother : commit.runId ≠ runId) : Forgotten runId (state.step (.append commit)) := by
  have hset : (state.step (.append commit)).assigned runId = state.assigned runId :=
    if_neg (Ne.symm hother)
  refine ⟨⟨?_, ?_⟩, ?_, ?_⟩
  · intro hretains
    rcases (InMemoryEventLog.retains_appendActionCommit_iff.mp hretains).2 with
      hbefore | ⟨hrun, -⟩
    · exact h.dropped.1 hbefore
    · exact hother hrun.symm
  · rw [hset]
    exact h.dropped.2
  · rw [hset]
    exact h.ascending
  · rw [hset]
    exact h.current

theorem Tracked.forgotten (h : Tracked runId state)
    (hevicts : state.log.evicts commit = some runId) (hother : runId ≠ commit.runId)
    (hgiven : state.assigned runId ≠ []) : Forgotten runId (state.step (.append commit)) := by
  have hset : (state.step (.append commit)).assigned runId = state.assigned runId :=
    if_neg hother
  refine ⟨⟨?_, ?_⟩, ?_, ?_⟩
  · intro hretains
    exact (InMemoryEventLog.retains_appendActionCommit_iff.mp hretains).1 hevicts
  · rw [hset]
    exact hgiven
  · rw [hset]
    exact h.ascending
  · rw [hset]
    exact h.current

section

variable (h : Forgotten runId state)
include h

theorem Forgotten.load_eq (afterOffset : Int) : state.log.load runId afterOffset = [] := by
  rw [InMemoryEventLog.load, InMemoryEventLog.history_of_not_retains h.dropped.1]
  rfl

theorem Forgotten.get_eq : state.get runId = state.service.projection runId := by
  unfold Projected.get ProjectionService.get
  dsimp only
  rw [h.load_eq]
  rfl

theorem Forgotten.catchUp_eq (through : Int) :
    state.catchUp runId through = state.service.projection runId := by
  unfold Projected.catchUp ProjectionService.catchUp
  dsimp only
  rw [h.load_eq]
  rfl

theorem Forgotten.read {service : ProjectionService}
    (hview : service.projection runId = state.service.projection runId) :
    Forgotten runId { state with service := service } := by
  refine ⟨h.dropped, h.ascending, ?_⟩
  change Follower.Current _ _ _ (service.projection runId)
  rw [hview]
  exact h.current

end

theorem Follows.append (h : Follows runId state)
    (hgoes : commit.runId = runId → ¬ Dropped runId state) :
    Follows runId (state.step (.append commit)) := by
  refine ⟨InMemoryEventLog.fits_appendActionCommit h.fits, ?_⟩
  rcases h.stands with ⟨htracked, hretains⟩ | hlost
  · by_cases hevicts : state.log.evicts commit = some runId
    · obtain ⟨-, hnew, -, hhead⟩ := (InMemoryEventLog.evicts_eq_some_iff h.fits _).mp hevicts
      have hheld := InMemoryEventLog.retains_of_head hhead
      have hother : runId ≠ commit.runId := by
        rintro rfl
        exact hnew hheld
      exact .inr (htracked.forgotten hevicts hother (hretains.mp hheld))
    · refine .inl ⟨htracked.append hevicts, ?_⟩
      rw [assigned_append_ne_nil_iff, ← hretains]
      exact InMemoryEventLog.retains_appendActionCommit_iff.trans (and_iff_right hevicts)
  · have hother : commit.runId ≠ runId := fun hsame => hgoes hsame hlost.dropped
    exact .inr (hlost.append hother)

theorem Follows.step (h : Follows runId state) {call : ProjectedCall}
    (hgoes : Continues runId state call) : Follows runId (state.step call) := by
  cases call with
  | append commit => exact h.append hgoes
  | catchUp other through =>
    refine ⟨h.fits, ?_⟩
    rcases h.stands with ⟨htracked, hretains⟩ | hlost
    · exact .inl ⟨htracked.step trivial, hretains⟩
    · refine .inr (hlost.read ?_)
      rw [ProjectionService.projection_catchUp]
      split
      · rename_i hrun
        subst hrun
        exact hlost.catchUp_eq through
      · rfl
  | get other =>
    refine ⟨h.fits, ?_⟩
    rcases h.stands with ⟨htracked, hretains⟩ | hlost
    · exact .inl ⟨htracked.step trivial, hretains⟩
    · refine .inr (hlost.read ?_)
      rw [ProjectionService.projection_get]
      split
      · rename_i hrun
        subst hrun
        exact hlost.get_eq
      · rfl
  | cleanup other => exact hgoes.elim

theorem follows_after {calls : List ProjectedCall}
    (h : Along Projected.step (Continues runId) initial calls) : Follows runId (after calls) :=
  exec_invariant (fun _ _ hinv hgoes => hinv.step hgoes) (follows_initial runId) h

/-- The offsets of a run that is given nothing once it is dropped are growing. Until
then its projection is the replay of all it was given, and from then on the projection of
the last read. The log drops the run it has retained longest, at the first commit to
another one while it is full. -/
theorem reflected_until_dropped (runId : String) (calls : List ProjectedCall)
    (h : Along step (Continues runId) initial calls) :
    (((after calls).assigned runId).map RuntimeEvent.commitOffset).Pairwise (· < ·) ∧
      (¬ Dropped runId (after calls) →
        (after calls).get runId = replay runId ((after calls).assigned runId)) ∧
      (Dropped runId (after calls) →
        (after calls).get runId = (after calls).service.projection runId ∧
          ∃ front, front <+: (after calls).assigned runId ∧
            (after calls).get runId = replay runId front) ∧
      ∀ commit other, (after calls).log.evicts commit = some other ↔
        commit.events ≠ [] ∧ ¬ (after calls).log.Retains commit.runId ∧
          (after calls).log.runs.rows.length = maxRetainedRuns ∧
            (after calls).log.runs.rows.head?.map RunHistory.runId = some other := by
  have hfollows := follows_after h
  refine ⟨?_, ?_, ?_, fun commit other => InMemoryEventLog.evicts_eq_some_iff hfollows.fits _⟩
  · rcases hfollows.stands with ⟨htracked, -⟩ | hlost
    · exact (pairwise_cons.mp htracked.ascending).2
    · exact (pairwise_cons.mp hlost.ascending).2
  · intro hkept
    rcases hfollows.stands with ⟨htracked, -⟩ | hlost
    · exact htracked.get_eq
    · exact absurd hlost.dropped hkept
  · intro hdropped
    rcases hfollows.stands with ⟨-, hretains⟩ | hlost
    · exact absurd (hretains.mpr hdropped.2) hdropped.1
    · have hfront := Follower.upTo_append_after hlost.ascending
        ((after calls).service.projection runId).projectedOffset
      refine ⟨hlost.get_eq, _, ⟨_, hfront⟩, ?_⟩
      rw [hlost.get_eq, replay_eq]
      exact hlost.current

/-- A commit of one fact. -/
def single (runId : String) : ActionCommit where
  runId := runId
  commitId := "c"
  events := [.plain "run.ready" .authoritativeFact]
  createdAt := ""
  action := none

/-! ## Runs that thousands of others push out -/

def newcomer (n : Nat) : String := String.ofList (List.replicate (n + 2) 'r')

/-- Calls, and behind them a commit to each of `n` other runs. -/
def crowd (opening : List ProjectedCall) (n : Nat) : List ProjectedCall :=
  opening ++ (List.range n).map fun n => .append (single (newcomer n))

/-- The runs the log retains. -/
def held (state : Projected) : List String := state.log.runs.rows.map RunHistory.runId

variable {opening : List ProjectedCall} {first : String} {rest : List String} {n : Nat}

theorem newcomer_injective {m n : Nat} (h : newcomer m = newcomer n) : m = n := by
  have hlength := congrArg String.length h
  simpa [newcomer] using hlength

theorem newcomer_ne (hshort : runId.length = 1) (n : Nat) : newcomer n ≠ runId := by
  rintro rfl
  rw [newcomer, String.length_ofList, length_replicate] at hshort
  omega

theorem after_concat (calls : List ProjectedCall) (call : ProjectedCall) :
    after (calls ++ [call]) = (after calls).step call := by
  rw [after, exec, foldl_append]
  rfl

theorem after_crowd_zero (opening : List ProjectedCall) :
    after (crowd opening 0) = after opening := by
  rw [crowd, range_zero, map_nil, append_nil]

theorem after_crowd_succ (opening : List ProjectedCall) (n : Nat) :
    after (crowd opening (n + 1)) =
      (after (crowd opening n)).step (.append (single (newcomer n))) := by
  rw [← after_concat, crowd, crowd, range_succ, map_append, append_assoc]
  rfl

theorem retains_iff_mem {state : Projected} : state.log.Retains runId ↔ runId ∈ held state := by
  rw [InMemoryEventLog.Retains, Option.isSome_iff_exists, held, mem_map]
  constructor
  · rintro ⟨history, hhistory⟩
    exact ⟨history, Table.lookup_eq_some_iff.mp hhistory⟩
  · rintro ⟨history, hhistory⟩
    exact ⟨history, Table.lookup_eq_some_iff.mpr hhistory⟩

theorem continues_crowd (hshort : runId.length = 1)
    (h : Along step (Continues runId) initial opening) (n : Nat) :
    Along step (Continues runId) initial (crowd opening n) := by
  rw [crowd, along_append]
  refine ⟨h, along_of_forall fun call hcall state => ?_⟩
  obtain ⟨m, -, rfl⟩ := mem_map.mp hcall
  exact fun hsame => absurd hsame (newcomer_ne hshort m)

/-- The newcomers neither reach the run nor the service. -/
theorem assigned_crowd (hshort : runId.length = 1) (n : Nat) :
    (after (crowd opening n)).assigned runId = (after opening).assigned runId ∧
      (after (crowd opening n)).service = (after opening).service := by
  induction n with
  | zero => rw [after_crowd_zero]; exact ⟨rfl, rfl⟩
  | succ n ih =>
    rw [after_crowd_succ]
    exact ⟨(if_neg fun hsame => newcomer_ne hshort n hsame.symm).trans ih.1, ih.2⟩

section

variable (hshort : ∀ runId ∈ held (after opening), runId.length = 1)
include hshort

theorem not_retains_newcomer (h : held (after (crowd opening n)) =
      held (after opening) ++ (List.range n).map newcomer) :
    ¬ (after (crowd opening n)).log.Retains (newcomer n) := by
  rw [retains_iff_mem, h]
  simp only [mem_append, mem_map, mem_range, not_or, not_exists, not_and]
  refine ⟨fun hmem => newcomer_ne (hshort _ hmem) n rfl, fun m hm hsame => ?_⟩
  exact absurd (newcomer_injective hsame) (Nat.ne_of_lt hm)

theorem held_crowd (h : (held (after opening)).length + n ≤ maxRetainedRuns) :
    held (after (crowd opening n)) = held (after opening) ++ (List.range n).map newcomer := by
  induction n with
  | zero => rw [after_crowd_zero, range_zero, map_nil, append_nil]
  | succ n ih =>
    have hrows := ih (by omega)
    have hlength := congrArg List.length hrows
    simp only [held, length_map, length_append, length_range] at hlength h
    rw [after_crowd_succ]
    refine (InMemoryEventLog.runIds_appendActionCommit (not_retains_newcomer hshort hrows) rfl
      (by omega)).trans ?_
    rw [← held, hrows, range_succ, map_append, append_assoc]
    rfl

/-- The commit that comes to a full log pushes out the run retained longest, and no other. -/
theorem retains_crowd_succ (hheld : held (after opening) = first :: rest)
    (hfull : rest.length + 1 + n = maxRetainedRuns) (hold : runId ∈ held (after opening)) :
    (after (crowd opening (n + 1))).log.Retains runId ↔ runId ≠ first := by
  have hrows := held_crowd hshort (n := n) (by rw [hheld, length_cons]; omega)
  have hlength := congrArg List.length hrows
  rw [hheld] at hlength
  simp only [held, length_map, length_append, length_range, length_cons] at hlength
  have hevicts : (after (crowd opening n)).log.evicts (single (newcomer n)) = some first := by
    refine (InMemoryEventLog.evicts_eq_some_iff (by unfold InMemoryEventLog.Fits; omega) _).mpr ?_
    refine ⟨nofun, not_retains_newcomer hshort hrows, by omega, ?_⟩
    rw [← head?_map, ← held, hrows, hheld]
    rfl
  have hbefore : (after (crowd opening n)).log.Retains runId := by
    rw [retains_iff_mem, hrows]
    exact mem_append_left _ hold
  rw [after_crowd_succ]
  refine InMemoryEventLog.retains_appendActionCommit_iff.trans ?_
  rw [hevicts, and_iff_left (.inl hbefore), Ne, Option.some.injEq, eq_comm]

end

/-- Two runs take turns and are read: the first is retained longest. -/
def inTurn : List ProjectedCall :=
  [.append (single "a"), .get "a", .append (single "b"), .append (single "a"), .catchUp "b" 1,
    .append (single "b")]

/-- Thousands of newcomers push out the first run, of which the projection of the first read
is left, and not the second. -/
theorem reflected_until_dropped_inTurn :
    (((after (crowd inTurn 4999)).assigned "a").map RuntimeEvent.commitOffset).Pairwise (· < ·) ∧
      (∃ front, front <+: (after (crowd inTurn 4999)).assigned "a" ∧
        (after (crowd inTurn 4999)).get "a" = replay "a" front) ∧
      (after (crowd inTurn 4999)).get "b" =
        replay "b" ((after (crowd inTurn 4999)).assigned "b") := by
  have hheld : held (after inTurn) = ["a", "b"] := by decide
  have hshort : ∀ runId ∈ held (after inTurn), runId.length = 1 := by
    rw [hheld]
    decide
  have hretains (runId : String) (hold : runId ∈ held (after inTurn)) :=
    retains_crowd_succ hshort hheld (n := 4998) rfl hold
  obtain ⟨hgrows, -, hdropped, -⟩ := reflected_until_dropped "a" (crowd inTurn 4999)
    (continues_crowd rfl (by decide) 4999)
  refine ⟨hgrows, (hdropped ⟨?_, ?_⟩).2, ?_⟩
  · rw [hretains "a" (by decide)]
    exact fun h => h rfl
  · rw [(assigned_crowd rfl 4999).1]
    decide
  · refine (reflected_until_dropped "b" (crowd inTurn 4999)
      (continues_crowd rfl (by decide) 4999)).2.1 fun hgone => hgone.1 ?_
    rw [hretains "b" (by decide)]
    decide

def alone : List ProjectedCall := [.append (single "a")]

/-- The first run has lost its event, and its next event gets the same offset. -/
theorem not_reflected_crowded : (¬ ∀ (runId : String) (calls : List ProjectedCall),
      (∀ other, ProjectedCall.cleanup other ∉ calls) →
        (after calls).get runId = replay runId ((after calls).assigned runId)) ∧
    ¬ ∀ (runId : String) (calls : List ProjectedCall),
      (∀ other, ProjectedCall.cleanup other ∉ calls) →
        (((after calls).assigned runId).map RuntimeEvent.commitOffset).Pairwise (· < ·) := by
  have hcalls : ∀ n other, ProjectedCall.cleanup other ∉ crowd alone n := by
    intro n other hmem
    simp [crowd, alone] at hmem
  have hheld : held (after alone) = ["a"] := by decide
  have hshort : ∀ runId ∈ held (after alone), runId.length = 1 := by
    rw [hheld]
    decide
  obtain ⟨hset, hservice⟩ : (after (crowd alone maxRetainedRuns)).assigned "a" = _ ∧ _ :=
    assigned_crowd rfl maxRetainedRuns
  have hgone : ¬ (after (crowd alone maxRetainedRuns)).log.Retains "a" := fun hretains =>
    (retains_crowd_succ hshort hheld rfl (by decide)).mp hretains rfl
  have hhistory := InMemoryEventLog.history_of_not_retains hgone
  generalize hfinal : after (crowd alone maxRetainedRuns) = final at hset hservice hhistory
  constructor
  · intro h
    have hget := h "a" (crowd alone maxRetainedRuns) (hcalls _)
    rw [hfinal, hset, Projected.get, ProjectionService.get, hservice,
      InMemoryEventLog.load, hhistory] at hget
    exact absurd (congrArg RunProjection.projectedOffset hget) (by decide)
  · intro h
    have hgrows := h "a" (crowd alone maxRetainedRuns ++ [.append (single "a")]) (by
      intro other hmem
      rcases mem_append.mp hmem with hmem | hmem
      · exact hcalls _ other hmem
      · simp at hmem)
    have hnext : (after (crowd alone maxRetainedRuns ++
        [ProjectedCall.append (single "a")])).assigned "a" =
          numbered 1 (single "a").events ++ numbered 1 (single "a").events := by
      rw [after_concat, hfinal]
      change final.assign (single "a") "a" = _
      rw [assign, if_pos (show "a" = (single "a").runId from rfl), hset, hhistory]
      rfl
    rw [hnext] at hgrows
    exact absurd hgrows (by decide)

end Projected

end HiAgent.Kernel
