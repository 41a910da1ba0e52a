/-
  Execution/RunExecutor/Checkpoints.lean --- what a run that goes on executes.

  A run over the trace order is interrupted, at a gate or because its process ends, and goes on
  in the same process or from the latest checkpoint, any number of times.
-/
import HiAgent.Execution.RunExecutor

namespace HiAgent.Execution

open Foundation Server Trajectory List

/-! ## Histories -/

/-- The events of a run over the trace order, without a replan hook. -/
def RunEvent.ByStages : RunEvent → Prop
  | .call _ => True
  | .begin _ route => route.hook = .other
  | .finish _ route => route.hook = .other
  | .giveUp _ route => route.hook = .other
  | .continueFromGate _ _ => True
  | .continueFromGateGraph _ _ _ _ _ => False
  | .resumeFromCheckpoint => True

abbrev StageEvent := { event : RunEvent // event.ByStages }

def RunLoop.overStages : RunLoop → Option Orchestrator.LinearLoop
  | linear loop => some loop
  | resume loop => some loop
  | _ => none

namespace History

theorem settled_conclude (history : History) (status : Status) :
    (history.conclude status).settled = history.settled := by
  unfold conclude
  split <;> rfl

theorem executions_conclude (history : History) (status : Status) :
    (history.conclude status).executions = history.executions := by
  unfold conclude
  split <;> rfl

end History

namespace Orchestrator

variable (ctx : Orchestrator)

def stageStep (run : LiveRun) (event : StageEvent) : LiveRun := ctx.step run event.1

/-! ## The law -/

/-- The loop goes over the stages of the trace order that were not completed when it
began: it executes none of the others, and all of these in their order, unless one of
them fails the run or a gate stops it. -/
structure GoesOver (history : History) (loop : LinearLoop) : Prop where
  /-- What the loop has dealt with and what is left are the stages to execute. -/
  order : stagesOf loop.executed ++ loop.remaining =
    ctx.stageGraph.traceOrder.filter (· ∉ history.settled)
  fresh : ∀ stageId ∈ history.executions, stageId ∉ history.settled
  /-- A stage the loop went on from was executed. -/
  ran : ∀ stageRun ∈ loop.executed, stageRun.fate.ok = true → stageRun.stageId ∈ history.executions
  /-- It goes on from every stage but perhaps the last. -/
  earlier : ∀ stageRun ∈ loop.executed.dropLast, stageRun.fate.ok = true
  goesOn : loop.status = .running → ∀ stageRun ∈ loop.executed, stageRun.fate.ok = true
  completes : loop.status = .finalized .completed →
    loop.remaining = [] ∧ ∀ stageRun ∈ loop.executed, stageRun.fate.ok = true

def NotAgain (run : LiveRun) : Prop :=
  ∀ loop ∈ run.loop.overStages, ctx.GoesOver run.history loop

def Recorded (completed stages : List String) : Prop :=
  ∀ stageId ∈ ctx.stageGraph.traceOrder, stageId ∈ completed ↔ stageId ∈ stages

/-- What keeps the law. When a run goes on, the states written last, or without a
session the outcomes of the summaries, tell just the stages completed by then; and the
handler does not make up for a stage that was not executed. -/
def RecordFits (run : LiveRun) (event : StageEvent) : Prop :=
  match event.1 with
  | .continueFromGate _ _ =>
    run.loop.isRunning = false → ctx.Recorded run.executor.completed (settledInProcess run)
  | .resumeFromCheckpoint =>
    ∀ session ∈ run.checkpoint, ctx.Recorded (completedStages (some session.stageStates) [])
        run.history.atCheckpoint
  | .giveUp verdict _ =>
    ∀ stageId, run.phase = .failing stageId false → verdict = .failed
  | _ => True

/-! ## A turn -/

/-- How a turn over a stage goes, without a replan hook. -/
def fateOf (answers : Answers) : Fate :=
  match answers.result with
  | .error _ => .raised
  | .ok .passed => .passed
  | .ok .failed =>
    match answers.handled with
    | .error _ => .raised
    | .ok .failed => .failed
    | .ok .passed => .handled

theorem turnOver_spec {follow : StageDirective → Except String (List String)}
    {executed : List StageRun} {stageId : String} {rest : List String} {answers : Answers}
    (hhook : answers.hook = .other) :
    (turnOver follow executed stageId rest answers).remaining = rest ∧
      (turnOver follow executed stageId rest answers).executed =
        executed ++ [⟨stageId, fateOf answers⟩] ∧
      (turnOver follow executed stageId rest answers).status ≠ .finalized .completed ∧
      ((turnOver follow executed stageId rest answers).status = .running →
        (fateOf answers).ok = true) := by
  have hstops : ∀ raise, Status.ofRaise raise ≠ .running := by
    intro raise
    cases raise <;> simp [Status.ofRaise]
  unfold turnOver fateOf
  cases answers.result with
  | error raise =>
    exact ⟨rfl, rfl, ofRaise_ne_completed raise, fun h => absurd h (hstops raise)⟩
  | ok result =>
    cases result with
    | passed =>
      dsimp only
      rw [hhook]
      exact ⟨rfl, rfl, Status.noConfusion, fun _ => rfl⟩
    | failed =>
      dsimp only
      cases answers.handled with
      | error raise =>
        exact ⟨rfl, rfl, ofRaise_ne_completed raise, fun h => absurd h (hstops raise)⟩
      | ok handled =>
        cases handled with
        | failed => exact ⟨rfl, rfl, by simp, fun h => by cases h⟩
        | passed =>
          dsimp only
          rw [hhook]
          exact ⟨rfl, rfl, Status.noConfusion, fun _ => rfl⟩

variable {loop : LinearLoop} {driver : RunLoop}

theorem overStages_advance {ctx : Orchestrator}
    {stageId : String} (answers : Answers) (hloop : driver.overStages = some loop)
    (hrunning : driver.isRunning = true) (hstage : ctx.nextStage driver = some stageId)
    (hhook : answers.hook = .other) :
    ∃ after, (ctx.advance driver answers).overStages = some after ∧
      after.remaining = loop.remaining.tail ∧
      after.executed = loop.executed ++ [⟨stageId, fateOf answers⟩] ∧
      after.status ≠ .finalized .completed ∧
      (after.status = .running → (fateOf answers).ok = true) := by
  have hstatus := status_of_isRunning hrunning
  cases driver with
  | linear other =>
    obtain rfl := Option.some.inj hloop
    refine ⟨_, rfl, ?_⟩
    rw [runLinear, linearTurn_of_stage hstatus hstage]
    exact turnOver_spec hhook
  | resume other =>
    obtain rfl := Option.some.inj hloop
    refine ⟨_, rfl, ?_⟩
    rw [runResume, linearTurn_of_stage hstatus hstage]
    exact turnOver_spec hhook
  | graph other => cases hloop
  | continued other => cases hloop

theorem overStages_advance_nil {ctx : Orchestrator}
    (answers : Answers) (hloop : driver.overStages = some loop)
    (hrunning : driver.isRunning = true) (hstage : ctx.nextStage driver = none) :
    loop.remaining = [] ∧ (ctx.advance driver answers).overStages =
      some { loop with status := .finalized .completed } := by
  have hstatus := status_of_isRunning hrunning
  cases driver with
  | linear other =>
    obtain rfl := Option.some.inj hloop
    have hnil : other.remaining = [] := head?_eq_none_iff.mp hstage
    refine ⟨hnil, ?_⟩
    rw [advance, RunLoop.overStages, runLinear, linearTurn,
      show other.status = .running from hstatus]
    dsimp only
    rw [hnil]
  | resume other =>
    obtain rfl := Option.some.inj hloop
    have hnil : other.remaining = [] := head?_eq_none_iff.mp hstage
    refine ⟨hnil, ?_⟩
    rw [advance, RunLoop.overStages, runResume, linearTurn,
      show other.status = .running from hstatus]
    dsimp only
    rw [hnil]
  | graph other => cases hloop
  | continued other => cases hloop

theorem head_of_nextStage {ctx : Orchestrator}
    {stageId : String} (hloop : driver.overStages = some loop)
    (hstage : ctx.nextStage driver = some stageId) :
    loop.remaining = stageId :: loop.remaining.tail := by
  cases driver with
  | graph other => cases hloop
  | continued other => cases hloop
  | _ =>
    obtain rfl := Option.some.inj hloop
    exact (cons_head?_tail hstage).symm

theorem status_of_overStages
    (hloop : driver.overStages = some loop) (hrunning : driver.isRunning = true) :
    loop.status = .running := by
  have hstatus := status_of_isRunning hrunning
  cases driver with
  | graph other => cases hloop
  | continued other => cases hloop
  | _ =>
    obtain rfl := Option.some.inj hloop
    exact hstatus

theorem settled_gateCall (run : LiveRun) (gateId decision : String) :
    settledInProcess (gateCall run (.resume gateId decision)) = settledInProcess run := by
  cases hsession : run.executor.session with
  | _ => simp [settledInProcess, gateCall, RunExecutor.resume,
      RunExecutor.record, hsession, History.decide]

theorem completed_resume (run : LiveRun) (gateId decision : String) :
    (gateCall run (.resume gateId decision)).executor.completed = run.executor.completed := by
  cases hsession : run.executor.session with
  | _ => simp [RunExecutor.completed, gateCall, RunExecutor.resume, RunExecutor.record, hsession]

namespace GoesOver

variable {ctx : Orchestrator} {history later : History} {loop after : LinearLoop}

section

variable (h : ctx.GoesOver history loop)
include h

theorem turned (hstatus : loop.status = .running)
    {stageRun : StageRun} (hhead : loop.remaining = stageRun.stageId :: loop.remaining.tail)
    (hleft : after.remaining = loop.remaining.tail)
    (hexecuted : after.executed = loop.executed ++ [stageRun])
    (hends : after.status ≠ .finalized .completed)
    (hok : after.status = .running → stageRun.fate.ok = true)
    (hran : stageRun.fate.ok = true → stageRun.stageId ∈ history.executions)
    (hsettled : later.settled = history.settled)
    (hexecutions : later.executions = history.executions) : ctx.GoesOver later after where
  order := by
    rw [hexecuted, hleft, hsettled, ← h.order, hhead]
    simp [stagesOf]
  fresh := by
    rw [hexecutions, hsettled]
    exact h.fresh
  ran := by
    rw [hexecuted, hexecutions]
    intro other hother
    rcases mem_append.mp hother with hold | hnew
    · exact h.ran other hold
    · rw [mem_singleton.mp hnew]
      exact hran
  earlier := by
    rw [hexecuted, dropLast_concat]
    exact h.goesOn hstatus
  goesOn := by
    intro hrunning other hother
    rw [hexecuted] at hother
    rcases mem_append.mp hother with hold | hnew
    · exact h.goesOn hstatus other hold
    · rw [mem_singleton.mp hnew]
      exact hok hrunning
  completes := fun hcompleted => absurd hcompleted hends

theorem ended (hstatus : loop.status = .running)
    (hnil : loop.remaining = []) (hsettled : later.settled = history.settled)
    (hexecutions : later.executions = history.executions) :
    ctx.GoesOver later { loop with status := .finalized .completed } where
  order := by
    rw [hsettled]
    exact h.order
  fresh := by
    rw [hexecutions, hsettled]
    exact h.fresh
  ran := by
    rw [hexecutions]
    exact h.ran
  earlier := h.earlier
  goesOn := fun hrunning => by cases hrunning
  completes := fun _ => ⟨hnil, h.goesOn hstatus⟩

theorem executed {stageId : String}
    (hnew : stageId ∉ history.settled) : ctx.GoesOver (history.execute stageId) loop :=
  { h with
    fresh := by
      intro other hother
      rcases mem_append.mp hother with hold | hlast
      · exact h.fresh other hold
      · rw [mem_singleton.mp hlast]
        exact hnew
    ran := fun stageRun hmem hfate => mem_append_left _ (h.ran stageRun hmem hfate) }

theorem of_same (hsettled : later.settled = history.settled)
    (hexecutions : later.executions = history.executions) : ctx.GoesOver later loop :=
  { h with
    order := by
      rw [hsettled]
      exact h.order
    fresh := by
      rw [hexecutions, hsettled]
      exact h.fresh
    ran := by
      rw [hexecutions]
      exact h.ran }

end

theorem begins_iff {completed settled : List String} :
    ctx.GoesOver (history.restart settled) (ctx.startResume completed) ↔
      ctx.Recorded completed settled := by
  constructor
  · intro h stageId hmem
    have horder : ctx.stageGraph.traceOrder.filter (· ∉ completed) =
        ctx.stageGraph.traceOrder.filter (· ∉ settled) := h.order
    have hiff : stageId ∈ ctx.stageGraph.traceOrder.filter (· ∉ completed) ↔
        stageId ∈ ctx.stageGraph.traceOrder.filter (· ∉ settled) := by rw [horder]
    simp only [mem_filter, hmem, true_and, decide_eq_true_eq] at hiff
    exact not_iff_not.mp hiff
  · intro hnoted
    constructor
    case order =>
      refine filter_congr fun stageId hmem => ?_
      exact decide_eq_decide.mpr (not_congr (hnoted stageId hmem))
    case fresh => exact fun _ hmem => by cases hmem
    case ran => exact fun _ hmem => by cases hmem
    case earlier => exact fun _ hmem => by cases hmem
    case goesOn => exact fun _ _ hmem => by cases hmem
    case completes => exact fun hcompleted => by cases hcompleted

end GoesOver

/-! ## The invariant -/

/-- The law, and where the loop stands. -/
structure Ordered (run : LiveRun) (loop : LinearLoop) : Prop where
  overStages : run.loop.overStages = some loop
  goesOver : ctx.GoesOver run.history loop
  atStage : ∀ stageId, run.phase.stage = some stageId →
    run.loop.isRunning = true ∧ ctx.nextStage run.loop = some stageId
  /-- What was executed is dealt with, or the turn is about it. -/
  past : ∀ stageId ∈ run.history.executions,
    stageId ∈ stagesOf loop.executed ∨ run.phase.stage = some stageId
  inStage : ∀ stageId retry, run.phase = .inStage stageId retry → stageId ∈ run.history.executions
  failing : ∀ stageId ran, run.phase = .failing stageId ran →
    (stageId ∈ run.history.executions ↔ ran = true)

namespace Ordered

variable {ctx} {run : LiveRun} {loop : LinearLoop} {stageId : String}

theorem not_settled (h : ctx.Ordered run loop)
    (hstage : ctx.nextStage run.loop = some stageId) : stageId ∉ run.history.settled := by
  have hmem : stageId ∈ stagesOf loop.executed ++ loop.remaining := by
    rw [head_of_nextStage h.overStages hstage]
    exact mem_append_right _ mem_cons_self
  rw [h.goesOver.order] at hmem
  simpa using (mem_filter.mp hmem).2

theorem not_executed (h : ctx.Ordered run loop) (hphase : run.phase = .between)
    (hstage : ctx.nextStage run.loop = some stageId) : stageId ∉ run.history.executions := by
  intro hmem
  rcases h.past stageId hmem with hpast | hnow
  · have hnodup : (stagesOf loop.executed ++ loop.remaining).Nodup := by
      rw [h.goesOver.order]
      exact (ctx.stageGraph.nodup_traceOrder).filter _
    rw [head_of_nextStage h.overStages hstage] at hnodup
    exact (List.nodup_append.mp hnodup).2.2 stageId hpast stageId mem_cons_self rfl
  · rw [hphase] at hnow
    cases hnow

theorem between (hover : run.loop.overStages = some loop)
    (hgoes : ctx.GoesOver run.history loop) (hphase : run.phase = .between)
    (hpast : ∀ stageId ∈ run.history.executions, stageId ∈ stagesOf loop.executed) :
    ctx.Ordered run loop where
  overStages := hover
  goesOver := hgoes
  atStage := by
    rw [hphase]
    exact fun _ hnone => by cases hnone
  past := fun stageId hmem => .inl (hpast stageId hmem)
  inStage := by
    rw [hphase]
    exact fun _ _ hnone => by cases hnone
  failing := by
    rw [hphase]
    exact fun _ _ hnone => by cases hnone

section

variable (h : ctx.Ordered run loop)
include h

theorem conclude (hrunning : run.loop.isRunning = true)
    (hstage : ctx.nextStage run.loop = some stageId) {route : Route}
    (hhook : route.hook = .other) {result handled : Except Raise StageResult}
    (hran : (fateOf ⟨result, handled, route.hook, route.select⟩).ok = true →
      stageId ∈ run.history.executions) :
    ∃ after, ctx.Ordered (ctx.conclude run route result handled) after := by
  have hanswers : (Answers.mk result handled route.hook route.select).hook = .other := hhook
  obtain ⟨after, hafter, hleft, hexecuted, hends, hok⟩ :=
    overStages_advance _ h.overStages hrunning hstage hanswers
  refine ⟨after, between hafter ?_ rfl ?_⟩
  · exact h.goesOver.turned (status_of_overStages h.overStages hrunning)
      (head_of_nextStage h.overStages hstage) hleft hexecuted hends hok hran
      (History.settled_conclude ..) (History.executions_conclude ..)
  · intro other hother
    have hmem : other ∈ run.history.executions := by
      rw [← History.executions_conclude run.history]
      exact hother
    rw [hexecuted, stagesOf, map_append]
    rcases h.past other hmem with hpast | hnow
    · exact mem_append_left _ hpast
    · have hsame := (h.atStage other hnow).2
      rw [hstage] at hsame
      rw [Option.some.inj hsame]
      exact mem_append_right _ mem_cons_self

theorem notAgain : ctx.NotAgain run := by
  intro other hother
  obtain rfl := Option.some.inj (h.overStages.symm.trans hother)
  exact h.goesOver

theorem of_frame {later : LiveRun}
    (hloop : later.loop = run.loop) (hphase : later.phase = run.phase)
    (hsettled : later.history.settled = run.history.settled)
    (hexecutions : later.history.executions = run.history.executions) : ctx.Ordered later loop where
  overStages := by
    rw [hloop]
    exact h.overStages
  goesOver := h.goesOver.of_same hsettled hexecutions
  atStage := by
    rw [hphase, hloop]
    exact h.atStage
  past := by
    rw [hphase, hexecutions]
    exact h.past
  inStage := by
    rw [hphase, hexecutions]
    exact h.inStage
  failing := by
    rw [hphase, hexecutions]
    exact h.failing

theorem persistSnapshot (stageId : String)
    (snapshot : Snapshot) : ctx.Ordered (persistSnapshot run stageId snapshot) loop := by
  obtain ⟨hloop, hphase, hsettled, hexecutions⟩ := persistSnapshot_frame run stageId snapshot
  exact h.of_frame hloop hphase hsettled hexecutions

theorem concludeEnd (hphase : run.phase = .between)
    (hrunning : run.loop.isRunning = true) (hstage : ctx.nextStage run.loop = none)
    (route : Route) (result handled : Except Raise StageResult) :
    ∃ after, ctx.Ordered (ctx.conclude run route result handled) after := by
  obtain ⟨hnil, hafter⟩ := overStages_advance_nil
    ⟨result, handled, route.hook, route.select⟩ h.overStages hrunning hstage
  refine ⟨_, between hafter ?_ rfl ?_⟩
  · exact h.goesOver.ended (status_of_overStages h.overStages hrunning) hnil
      (History.settled_conclude ..) (History.executions_conclude ..)
  · intro other hother
    have hmem : other ∈ run.history.executions := by
      rw [← History.executions_conclude run.history]
      exact hother
    rcases h.past other hmem with hpast | hnow
    · exact hpast
    · rw [hphase] at hnow
      cases hnow

end

section AtAStage

variable (h : ctx.Ordered run loop) (hrunning : run.loop.isRunning = true)
  (hstage : ctx.nextStage run.loop = some stageId) {route : Route}
  (hhook : route.hook = .other)

include h hrunning hstage

theorem handing {ran : Bool} (hran : stageId ∈ run.history.executions ↔ ran = true) :
    ctx.Ordered { run with phase := .failing stageId ran } loop where
  overStages := h.overStages
  goesOver := h.goesOver
  atStage := by
    intro other hother
    obtain rfl := Option.some.inj hother
    exact ⟨hrunning, hstage⟩
  past := by
    intro other hmem
    rcases h.past other hmem with hpast | hnow
    · exact .inl hpast
    · have hsame := (h.atStage other hnow).2
      rw [hstage] at hsame
      exact .inr hsame
  inStage := fun _ _ hphase => by cases hphase
  failing := by
    intro other ranOther hphase
    obtain ⟨rfl, rfl⟩ := TurnPhase.failing.inj hphase
    exact hran

theorem opened (executor : RunExecutor) (retry : Bool) : ctx.Ordered { run with
        executor := executor
        phase := .inStage stageId retry
        history := run.history.execute stageId } loop where
  overStages := h.overStages
  goesOver := h.goesOver.executed (h.not_settled hstage)
  atStage := by
    intro other hother
    obtain rfl := Option.some.inj hother
    exact ⟨hrunning, hstage⟩
  past := by
    intro other hmem
    rcases mem_append.mp hmem with hold | hnew
    · rcases h.past other hold with hpast | hnow
      · exact .inl hpast
      · have hsame := (h.atStage other hnow).2
        rw [hstage] at hsame
        exact .inr hsame
    · rw [mem_singleton.mp hnew]
      exact .inr rfl
  inStage := by
    intro other retryOther hphase
    obtain ⟨rfl, -⟩ := TurnPhase.inStage.inj hphase
    exact mem_append_right _ mem_cons_self
  failing := fun _ _ hphase => by cases hphase

include hhook

theorem raised (retry : Bool) (raise : Raise) :
    ∃ after, ctx.Ordered (ctx.raised run retry raise route) after := by
  unfold Orchestrator.raised
  split
  · refine h.conclude hrunning hstage hhook fun hok => ?_
    cases raise <;> cases hok
  · exact h.conclude hrunning hstage hhook fun hok => by cases hok

theorem fail {ran : Bool} (hran : stageId ∈ run.history.executions ↔ ran = true) :
    ∃ after, ctx.Ordered (ctx.fail run stageId ran route) after := by
  have hfailed : ∃ after, ctx.Ordered (ctx.conclude run route (.ok .failed) (.ok .failed)) after :=
    h.conclude hrunning hstage hhook fun hok => by cases hok
  unfold Orchestrator.fail
  split
  · split
    · exact hfailed
    · exact ⟨loop, h.handing hrunning hstage hran⟩
  · exact hfailed

theorem passed (hexecuted : stageId ∈ run.history.executions) (retry : Bool) :
    ∃ after, ctx.Ordered (ctx.passed run retry route) after :=
  h.conclude hrunning hstage hhook fun _ => hexecuted

theorem openStage (retry : Bool) (entry : Entry) :
    ∃ after, ctx.Ordered (ctx.openStage run stageId retry entry route) after := by
  have hopened := h.opened hrunning hstage { run.executor with currentStage := stageId } retry
  unfold Orchestrator.openStage
  cases entry.unopened with
  | some raise =>
    obtain ⟨after, hraised⟩ := hopened.raised hrunning hstage hhook retry raise
    refine ⟨after, ?_⟩
    unfold Orchestrator.raised at hraised ⊢
    cases retry with
    | _ => exact hraised
  | none => exact ⟨loop, hopened.persistSnapshot stageId entry.snapshot⟩

end AtAStage

section

variable (h : ctx.Ordered run loop)
include h

theorem begin (entry : Entry) {route : Route}
    (hhook : route.hook = .other) : ∃ after, ctx.Ordered (ctx.begin run entry route) after := by
  unfold Orchestrator.begin
  cases hphase : run.phase with
  | inStage stageId retry => exact ⟨loop, h⟩
  | between =>
    cases hrunning : run.loop.isRunning with
    | false => exact ⟨loop, h⟩
    | true =>
      dsimp only
      rw [if_pos rfl]
      cases hstage : ctx.nextStage run.loop with
      | none => exact h.concludeEnd hphase hrunning hstage route _ _
      | some stageId =>
        dsimp only
        cases run.executor.enter entry with
        | refused =>
          exact h.fail hrunning hstage hhook
            (iff_of_false (h.not_executed hphase hstage) Bool.false_ne_true)
        | raises raise => exact h.raised hrunning hstage hhook false raise
        | executes => exact h.openStage hrunning hstage hhook false entry
  | failing stageId ran =>
    obtain ⟨hrunning, hstage⟩ := h.atStage stageId (by rw [hphase]; rfl)
    dsimp only
    cases run.executor.enter entry with
    | refused => exact ⟨loop, h⟩
    | raises raise => exact h.raised hrunning hstage hhook true raise
    | executes => exact h.openStage hrunning hstage hhook true entry

theorem snapshotted (hrunning : run.loop.isRunning = true)
    (hstage : ctx.nextStage run.loop = some stageId)
    (hexecuted : stageId ∈ run.history.executions) {after : LiveRun} (snapshot : Snapshot)
    (hafter : after = Orchestrator.persistSnapshot run stageId snapshot) :
    ctx.Ordered after loop ∧ after.loop.isRunning = true ∧
      ctx.nextStage after.loop = some stageId ∧ stageId ∈ after.history.executions := by
  obtain ⟨hloop, -, -, hexecutions⟩ := persistSnapshot_frame run stageId snapshot
  rw [← hafter] at hloop hexecutions
  rw [hloop, hexecutions]
  refine ⟨?_, hrunning, hstage, hexecuted⟩
  rw [hafter]
  exact h.persistSnapshot stageId snapshot

theorem finish (ending : Ending) {route : Route} (hhook : route.hook = .other) :
    ∃ after, ctx.Ordered (ctx.finish run ending route) after := by
  unfold Orchestrator.finish
  cases hphase : run.phase with
  | inStage stageId retry =>
    obtain ⟨hrunning, hstage⟩ := h.atStage stageId (by rw [hphase]; rfl)
    have hexecuted := h.inStage stageId retry hphase
    have hdone : ∀ outcome, ctx.Ordered
        (summarize { run with history := run.history.finish stageId } stageId outcome)
        loop := fun _ => h.of_frame rfl rfl rfl rfl
    have hsummary : ctx.Ordered (summarize run stageId "failed") loop :=
      h.of_frame rfl rfl rfl rfl
    cases ending with
    | completed outcome snapshot =>
      dsimp only
      rw [← hphase]
      obtain ⟨hkept, hruns, hstands, hmem⟩ :=
        (hdone outcome).snapshotted hrunning hstage hexecuted snapshot rfl
      exact hkept.passed hruns hstands hhook hmem retry
    | skippedByBudget =>
      dsimp only
      rw [← hphase]
      exact (hdone "skipped_by_budget").passed hrunning hstage hhook hexecuted retry
    | failed snapshot =>
      obtain ⟨hkept, hruns, hstands, hmem⟩ :=
        hsummary.snapshotted hrunning hstage hexecuted snapshot rfl
      have hran : _ ↔ true = true := iff_of_true hmem rfl
      dsimp only
      split
      · exact ⟨loop, hkept.handing hruns hstands hran⟩
      · exact hkept.fail hruns hstands hhook hran
    | raises raise => exact h.raised hrunning hstage hhook retry raise
  | _ => exact ⟨loop, h⟩

theorem giveUp {verdict : StageResult} {route : Route} (hhook : route.hook = .other)
    (hfits : ∀ stageId, run.phase = .failing stageId false → verdict = .failed) :
    ∃ after, ctx.Ordered (ctx.giveUp run verdict route) after := by
  unfold Orchestrator.giveUp
  cases hphase : run.phase with
  | failing stageId ran =>
    obtain ⟨hrunning, hstage⟩ := h.atStage stageId (by rw [hphase]; rfl)
    refine h.conclude hrunning hstage hhook fun hok => ?_
    refine (h.failing stageId ran hphase).mpr ?_
    cases ran with
    | true => rfl
    | false =>
      rw [hfits stageId hphase] at hok
      cases hok
  | _ => exact ⟨loop, h⟩

theorem gateCall (call : GateCall) : ctx.Ordered (gateCall run call) loop := by
  cases call with
  | _ => exact h.of_frame rfl rfl rfl rfl

end

theorem begins {later : LiveRun} {completed settled : List String}
    (hloop : later.loop = .resume (ctx.startResume completed))
    (hphase : later.phase = .between) (hsettled : later.history.settled = settled)
    (hexecutions : later.history.executions = []) (hnoted : ctx.Recorded completed settled) :
    ctx.Ordered later (ctx.startResume completed) := by
  have hgoes : ctx.GoesOver (later.history.restart settled) (ctx.startResume completed) :=
    GoesOver.begins_iff.mpr hnoted
  refine between (by rw [hloop]; rfl) (hgoes.of_same hsettled hexecutions) hphase ?_
  rw [hexecutions]
  exact fun _ hmem => by cases hmem

theorem newRun (withSession : Bool) :
    ctx.Ordered (newRun withSession (.linear ctx.startLinear)) ctx.startLinear := by
  refine between rfl ?_ rfl fun _ hmem => by cases hmem
  constructor
  case order => exact (filter_eq_self.mpr fun _ _ => rfl).symm
  case fresh => exact fun _ hmem => by cases hmem
  case ran => exact fun _ hmem => by cases hmem
  case earlier => exact fun _ hmem => by cases hmem
  case goesOn => exact fun _ _ hmem => by cases hmem
  case completes => exact fun hcompleted => by cases hcompleted

theorem step (h : ctx.Ordered run loop) {event : StageEvent}
    (hfits : ctx.RecordFits run event) : ∃ after, ctx.Ordered (ctx.stageStep run event) after := by
  obtain ⟨event, hstages⟩ := event
  cases event with
  | call call => exact ⟨loop, h.gateCall call⟩
  | begin entry route => exact h.begin entry hstages
  | finish ending route => exact h.finish ending hstages
  | giveUp verdict route => exact h.giveUp hstages hfits
  | continueFromGate gateId decision =>
    change ∃ after, ctx.Ordered (ctx.continueFromGate run gateId decision) after
    unfold Orchestrator.continueFromGate
    cases hrunning : run.loop.isRunning with
    | true => exact ⟨loop, h⟩
    | false =>
      have hnoted := hfits hrunning
      rw [← settled_gateCall run gateId decision,
        ← completed_resume run gateId decision] at hnoted
      exact ⟨_, begins rfl rfl rfl rfl hnoted⟩
  | continueFromGateGraph gateId decision lastStage completedStages select => cases hstages
  | resumeFromCheckpoint =>
    change ∃ after, ctx.Ordered (ctx.resumeFromCheckpoint run) after
    unfold Orchestrator.resumeFromCheckpoint
    cases hsave : run.checkpoint with
    | none => exact ⟨loop, h⟩
    | some session => exact ⟨_, begins rfl rfl rfl rfl (hfits session hsave)⟩

theorem fits (h : ctx.Ordered run loop) {event : StageEvent}
    (hlaw : ctx.NotAgain (ctx.stageStep run event)) : ctx.RecordFits run event := by
  obtain ⟨event, hstages⟩ := event
  cases event with
  | call call => trivial
  | begin entry route => trivial
  | finish ending route => trivial
  | giveUp verdict route =>
    intro stageId hphase
    cases verdict with
    | failed => rfl
    | passed =>
      obtain ⟨hrunning, hstage⟩ := h.atStage stageId (by rw [hphase]; rfl)
      have hgivesUp : ctx.giveUp run .passed route =
          ctx.conclude run route (.ok .failed) (.ok .passed) := by
        rw [Orchestrator.giveUp, hphase]
      obtain ⟨after, hafter, -, hexecuted, -, -⟩ := overStages_advance
        ⟨.ok .failed, .ok .passed, route.hook, route.select⟩ h.overStages
        hrunning hstage hstages
      have hgoes := hlaw after (by
        rw [stageStep, Orchestrator.step, hgivesUp]
        exact hafter)
      have hran := hgoes.ran ⟨stageId, .handled⟩
        (by rw [hexecuted]; exact mem_append_right _ mem_cons_self) rfl
      rw [stageStep, Orchestrator.step, hgivesUp, Orchestrator.conclude,
        History.executions_conclude] at hran
      exact absurd ((h.failing stageId false hphase).mp hran) Bool.false_ne_true
  | continueFromGate gateId decision =>
    intro hrunning
    change ctx.NotAgain (ctx.continueFromGate run gateId decision) at hlaw
    unfold Orchestrator.continueFromGate at hlaw
    rw [hrunning] at hlaw
    have hbegins := GoesOver.begins_iff.mp (hlaw _ rfl)
    rw [settled_gateCall, completed_resume] at hbegins
    exact hbegins
  | continueFromGateGraph gateId decision lastStage completedStages select => cases hstages
  | resumeFromCheckpoint =>
    intro session hsave
    change ctx.NotAgain (ctx.resumeFromCheckpoint run) at hlaw
    unfold Orchestrator.resumeFromCheckpoint at hlaw
    rw [show run.checkpoint = some session from hsave] at hlaw
    have hgoes := hlaw _ rfl
    have hbegins : ctx.GoesOver (run.history.restart run.history.atCheckpoint)
        (ctx.startResume (RunExecutor.fromCheckpoint session).completed) :=
      hgoes.of_same rfl rfl
    exact GoesOver.begins_iff.mp hbegins

end Ordered

/-! ## A run and its continuations -/

/-- A run over the trace order of any graph, interrupted and taken up again at any of its
steps: each of its loops executes no stage completed before, and all the others in their
order unless one fails, exactly when the record fits at every step. -/
theorem notAgain_iff_recordFits (withSession : Bool) (events : List StageEvent) :
    Always ctx.stageStep ctx.NotAgain (newRun withSession (.linear ctx.startLinear)) events ↔
      Along ctx.stageStep ctx.RecordFits (newRun withSession (.linear ctx.startLinear))
        events := by
  have hnew : ∃ loop, ctx.Ordered (newRun withSession (.linear ctx.startLinear)) loop :=
    ⟨_, Ordered.newRun withSession⟩
  have keeps : ∀ run event, (∃ loop, ctx.Ordered run loop) → ctx.RecordFits run event →
      ∃ after, ctx.Ordered (ctx.stageStep run event) after :=
    fun _ _ ⟨_, h⟩ hfits => h.step hfits
  exact always_iff_along keeps (fun _ ⟨_, h⟩ => h.notAgain)
    (fun _ _ ⟨_, h⟩ hlaw => h.fits hlaw) hnew events

/-- The adapter has no `stages` attribute, as the one of the kernel facade: the first
stage completes, a checkpoint is written, and the process that goes on from it executes
that stage again. -/
theorem not_notAgain_without_stages :
    ¬ ∀ (ctx : Orchestrator) (withSession : Bool) (events : List StageEvent),
      Always ctx.stageStep ctx.NotAgain (newRun withSession (.linear ctx.startLinear))
        events := by
  intro h
  have hlast := (h twoStages true
    [⟨beginStage none, rfl⟩, ⟨finishStage none, rfl⟩, ⟨.resumeFromCheckpoint, trivial⟩,
      ⟨beginStage none, rfl⟩]).last
  have hgoes := hlast _ rfl
  exact hgoes.fresh "S1" (by decide) (by decide)

end Orchestrator

end HiAgent.Execution
