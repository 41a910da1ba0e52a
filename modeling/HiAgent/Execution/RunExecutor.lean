/-
  Execution/RunExecutor.lean --- a run, its gates and its checkpoints.

  `hi_agent/runner.py`: `_execute_stage`, `_persist_snapshot` and
  `resume_from_checkpoint`.
  `hi_agent/runner_stage.py`: the stage states and summaries of `execute_stage`.
  `hi_agent/execution/gate_coordinator.py`: `register_gate`, `resume`,
  `continue_from_gate` and `continue_from_gate_graph`.
  `hi_agent/execution/recovery_coordinator.py`: the retries of `_handle_stage_failure`.
-/
import HiAgent.Execution.StageOrchestrator

namespace HiAgent.Execution

open Foundation Server Trajectory

/-! ## The executor -/

/-- The gate events among `RunSession.events`. -/
inductive GateEvent where
  | registered (gateId : String)
  | decided (gateId decision : String)

/-- `RunSession`, and the file `save_checkpoint` writes. -/
structure RunSession where
  currentStage : String
  stageStates : List (String × String)
  events : List GateEvent

/-- `RunExecutor`, with its `GateCoordinator`. -/
structure RunExecutor where
  session : Option RunSession
  /-- The outcomes of `stage_summaries`. -/
  stageSummaries : List (String × String)
  currentStage : String
  gatePending : Option String
  runTerminated : Bool

/-- What `_persist_snapshot` meets: the `stages` attribute of the adapter, where it has
one, and whether the checkpoint is written. -/
structure Snapshot where
  stages : Option (List (String × String))
  saved : Bool

/-- What `_execute_stage` meets before the body of the stage runs. -/
structure Entry where
  /-- The deadline of the contract has passed. -/
  expired : Bool
  /-- What the cancellation token raises. -/
  cancelled : Option Raise
  /-- What `open_stage` or the first `mark_stage_state` raises. -/
  unopened : Option Raise
  snapshot : Snapshot

/-- How `_execute_stage` begins. -/
inductive Entered where
  /-- `"failed"`, and the stage is not executed. -/
  | refused
  | raises (raise : Raise)
  | executes

/-- How the body of a stage ends. -/
inductive Ending where
  /-- With the word of its summary. -/
  | completed (outcome : String) (snapshot : Snapshot)
  | skippedByBudget
  | failed (snapshot : Snapshot)
  | raises (raise : Raise)

/-- `d[key] = value`. -/
def setItem (d : List (String × String)) (key value : String) : List (String × String) :=
  d.filter (fun item => item.1 ≠ key) ++ [(key, value)]

namespace RunExecutor

variable (executor : RunExecutor)

def record (event : GateEvent) : Option RunSession :=
  executor.session.map fun session => { session with events := session.events ++ [event] }

def registerGate (gateId : String) : RunExecutor :=
  { executor with
    gatePending := some gateId
    session := executor.record (.registered gateId) }

def resume (gateId decision : String) : RunExecutor :=
  { executor with
    session := executor.record (.decided gateId decision)
    gatePending :=
      if executor.gatePending = some gateId then none else executor.gatePending
    runTerminated := executor.runTerminated || decision == "backtrack" }

/-- `_execute_stage`, up to the body of the stage. -/
def enter (entry : Entry) : Entered :=
  if executor.runTerminated then .refused
  else
    match executor.gatePending with
    | some gateId => .raises (.gatePending gateId)
    | none =>
      if entry.expired then .refused
      else
        match entry.cancelled with
        | some raise => .raises raise
        | none => .executes

/-- The session as `_persist_snapshot` leaves it. -/
def persisted (session : RunSession) (stageId : String) (snapshot : Snapshot) : RunSession :=
  { session with
    currentStage := stageId
    stageStates := snapshot.stages.getD [] }

/-- The stages `continue_from_gate` takes for completed. -/
def completed : List String :=
  Orchestrator.completedStages (executor.session.map (·.stageStates))
    executor.stageSummaries

/-- The stages `continue_from_gate_graph` takes for completed. -/
def completedInGraph : List String :=
  match executor.session with
  | some session => Orchestrator.completedStages (some session.stageStates) []
  | none => executor.stageSummaries.map Prod.fst

/-- The gate that `resume_from_checkpoint` finds pending: the last gate event counts. -/
def gateOf (events : List GateEvent) : Option String :=
  match events.getLast? with
  | some (.registered gateId) => some gateId
  | _ => none

/-- The executor that `resume_from_checkpoint` builds. It has a session, so nothing
reads its summaries before a stage writes one. -/
def fromCheckpoint (session : RunSession) : RunExecutor where
  session := some session
  stageSummaries := []
  currentStage := session.currentStage
  gatePending := gateOf session.events
  runTerminated := false

end RunExecutor

/-! ## The run -/

/-- The loop that drives the stages. -/
inductive RunLoop where
  | linear (loop : Orchestrator.LinearLoop)
  | resume (loop : Orchestrator.LinearLoop)
  | graph (loop : GraphLoop)
  | continued (loop : GraphLoop)

/-- Where a turn of the loop stands. -/
inductive TurnPhase where
  | between
  /-- The body of a stage runs, in the first attempt or in a retry. -/
  | inStage (stageId : String) (retry : Bool)
  /-- The failure handler has to decide; `ran` tells whether the stage was executed in
  this turn. -/
  | failing (stageId : String) (ran : Bool)
  deriving DecidableEq

namespace TurnPhase

def stage : TurnPhase → Option String
  | between => none
  | inStage stageId _ => some stageId
  | failing stageId _ => some stageId

def attempt : TurnPhase → Option Bool
  | inStage _ retry => some retry
  | _ => none

def isFailing : TurnPhase → Bool
  | failing _ _ => true
  | _ => false

end TurnPhase

/-- What a law is about. -/
inductive LogEntry where
  /-- A stage is executed; `held` tells whether a gate held the run. -/
  | executed (stageId : String) (held : Bool)
  | finalized (outcome : Outcome) (held : Bool)
  deriving DecidableEq

/-- What happened in the run so far, over all its processes. -/
structure History where
  /-- The gates registered and not decided. -/
  undecided : List String
  backtracked : Bool
  log : List LogEntry
  /-- The stages whose last execution ended as completed. -/
  finished : List String
  /-- `finished` when the states in the session were written. -/
  atRecord : List String
  /-- `finished` when the checkpoint was written. -/
  atCheckpoint : List String
  /-- The stages that the loop of this moment has to leave out. -/
  settled : List String
  /-- The stages executed since this loop began. -/
  executions : List String

namespace History

variable (history : History)

def held : Bool := !history.undecided.isEmpty || history.backtracked

def register (gateId : String) : History :=
  { history with
    undecided := gateId :: history.undecided.filter (· ≠ gateId) }

def decide (gateId decision : String) : History :=
  { history with
    undecided := history.undecided.filter (· ≠ gateId)
    backtracked := history.backtracked || decision == "backtrack" }

/-- The body of a stage begins. -/
def execute (stageId : String) : History :=
  { history with
    log := history.log ++ [.executed stageId history.held]
    finished := history.finished.filter (· ≠ stageId)
    executions := history.executions ++ [stageId] }

def finish (stageId : String) : History :=
  { history with finished := stageId :: history.finished }

/-- A loop ends, or does not. -/
def conclude (status : Status) : History :=
  match status with
  | .finalized outcome =>
    { history with log := history.log ++ [.finalized outcome history.held] }
  | _ => history

def restart (settled : List String) : History :=
  { history with settled := settled, executions := [] }

end History

/-- A run: its executor, the checkpoint on disk, and where its loop stands. -/
structure LiveRun where
  executor : RunExecutor
  checkpoint : Option RunSession
  loop : RunLoop
  phase : TurnPhase
  history : History

/-- What the replan hook and the route engine answer at the end of a turn. -/
structure Route where
  hook : HookAnswer
  select : List String → Option String

/-- A call of the gate interface. -/
inductive GateCall where
  | registerGate (gateId : String)
  | resume (gateId decision : String)

/-- The next thing that happens. -/
inductive RunEvent where
  | call (call : GateCall)
  /-- The loop comes to its next stage, or the handler retries the one that failed. -/
  | begin (entry : Entry) (route : Route)
  /-- The body of a stage ends. -/
  | finish (ending : Ending) (route : Route)
  /-- The handler does not retry: `"failed"`, or `"reflected"`. -/
  | giveUp (verdict : StageResult) (route : Route)
  | continueFromGate (gateId decision : String)
  | continueFromGateGraph (gateId decision : String) (lastStage : Option String)
      (completedStages : Option (List String)) (select : List String → Option String)
  | resumeFromCheckpoint

namespace RunLoop

/-- The status of the loop. -/
def status : RunLoop → Status
  | linear loop => loop.status
  | resume loop => loop.status
  | graph loop => loop.status
  | continued loop => loop.status

def isRunning (loop : RunLoop) : Bool :=
  match loop.status with
  | .running => true
  | _ => false

end RunLoop

namespace Orchestrator

variable (ctx : Orchestrator)

/-- A turn of the loop. -/
def advance (loop : RunLoop) (answers : Answers) : RunLoop :=
  match loop with
  | .linear loop => .linear (ctx.runLinear loop fun _ => answers)
  | .resume loop => .resume (ctx.runResume loop fun _ => answers)
  | .graph loop => .graph (ctx.runGraph loop fun _ => answers)
  | .continued loop => .continued (ctx.continueGraph loop fun _ => answers)

/-- The stage for which the next turn of a loop over the graph calls
`_execute_stage`. -/
def comesTo (loop : GraphLoop) : Option String :=
  if loop.steps < ctx.maxSteps then loop.currentStage else none

/-- The stage for which the next turn calls `_execute_stage`. -/
def nextStage : RunLoop → Option String
  | .linear loop => loop.remaining.head?
  | .resume loop => loop.remaining.head?
  | .graph loop => ctx.comesTo loop
  | .continued loop => (ctx.comesTo loop).filter (· ∉ loop.completedStages)

/-- The failure of a stage comes to the handler: no backtrack edge is taken. -/
def handles (loop : RunLoop) (stageId : String) : Bool :=
  match loop with
  | .linear _ => true
  | .resume _ => true
  | .graph loop => (ctx.backtrackFrom stageId loop.completedStages).isNone
  | .continued loop => (ctx.backtrackFrom stageId loop.completedStages).isNone

/-- What `_handle_stage_failure` makes of an exception of a retry. -/
def retryRaises : Raise → Except Raise StageResult
  | .gatePending gateId => .error (.gatePending gateId)
  | _ => .ok .failed

/-- The turn ends, with what the stage and the handler answered. -/
def conclude (run : LiveRun) (route : Route) (result handled : Except Raise StageResult) :
    LiveRun :=
  let loop := ctx.advance run.loop
    { result := result, handled := handled, hook := route.hook, select := route.select }
  { run with
    loop := loop
    phase := .between
    history := run.history.conclude loop.status }

def persistSnapshot (run : LiveRun) (stageId : String) (snapshot : Snapshot) : LiveRun :=
  match run.executor.session with
  | none => run
  | some session =>
    let written := RunExecutor.persisted session stageId snapshot
    let recorded : LiveRun :=
      { run with
        executor := { run.executor with session := some written }
        history := { run.history with atRecord := run.history.finished } }
    if snapshot.saved then
      { recorded with
        checkpoint := some written
        history := { recorded.history with atCheckpoint := run.history.finished } }
    else recorded

/-- The first attempt has failed: a backtrack edge is taken, or the handler decides. -/
def fail (run : LiveRun) (stageId : String) (ran : Bool) (route : Route) : LiveRun :=
  if ctx.handles run.loop stageId then
    if run.executor.runTerminated then
      ctx.conclude run route (.ok .failed) (.ok .failed)
    else { run with phase := .failing stageId ran }
  else ctx.conclude run route (.ok .failed) (.ok .failed)

def raised (run : LiveRun) (retry : Bool) (raise : Raise) (route : Route) : LiveRun :=
  if retry then ctx.conclude run route (.ok .failed) (retryRaises raise)
  else ctx.conclude run route (.error raise) (.ok .failed)

def passed (run : LiveRun) (retry : Bool) (route : Route) : LiveRun :=
  ctx.conclude run route (.ok (if retry then .failed else .passed)) (.ok .passed)

/-- `execute_stage` up to the body. -/
def openStage (run : LiveRun) (stageId : String) (retry : Bool) (entry : Entry)
    (route : Route) : LiveRun :=
  let opened : LiveRun :=
    { run with
      executor := { run.executor with currentStage := stageId }
      history := run.history.execute stageId }
  match entry.unopened with
  | some raise => ctx.raised opened retry raise route
  | none =>
    persistSnapshot { opened with phase := .inStage stageId retry } stageId
      entry.snapshot

/-- The loop comes to its next stage, or the handler to its next retry. -/
def begin (run : LiveRun) (entry : Entry) (route : Route) : LiveRun :=
  match run.phase with
  | .inStage _ _ => run
  | .between =>
    if run.loop.isRunning then
      match ctx.nextStage run.loop with
      | none => ctx.conclude run route (.ok .passed) (.ok .failed)
      | some stageId =>
        match run.executor.enter entry with
        | .refused => ctx.fail run stageId false route
        | .raises raise => ctx.raised run false raise route
        | .executes => ctx.openStage run stageId false entry route
    else run
  | .failing stageId _ =>
    match run.executor.enter entry with
    | .refused => run
    | .raises raise => ctx.raised run true raise route
    | .executes => ctx.openStage run stageId true entry route

/-- The summary of a stage. -/
def summarize (run : LiveRun) (stageId outcome : String) : LiveRun :=
  { run with
    executor :=
      { run.executor with
        stageSummaries := setItem run.executor.stageSummaries stageId outcome } }

/-- The body of a stage has ended. -/
def finish (run : LiveRun) (ending : Ending) (route : Route) : LiveRun :=
  match run.phase with
  | .inStage stageId retry =>
    match ending with
    | .completed outcome snapshot =>
      let done := { run with history := run.history.finish stageId }
      ctx.passed (persistSnapshot (summarize done stageId outcome) stageId snapshot)
        retry route
    | .skippedByBudget =>
      let done := { run with history := run.history.finish stageId }
      ctx.passed (summarize done stageId "skipped_by_budget") retry route
    | .failed snapshot =>
      let failed := persistSnapshot (summarize run stageId "failed") stageId snapshot
      if retry then { failed with phase := .failing stageId true }
      else ctx.fail failed stageId true route
    | .raises raise => ctx.raised run retry raise route
  | _ => run

def giveUp (run : LiveRun) (verdict : StageResult) (route : Route) : LiveRun :=
  match run.phase with
  | .failing _ _ => ctx.conclude run route (.ok .failed) (.ok verdict)
  | _ => run

/-- A call of the gate interface. -/
def gateCall (run : LiveRun) : GateCall → LiveRun
  | .registerGate gateId =>
    { run with
      executor := run.executor.registerGate gateId
      history := run.history.register gateId }
  | .resume gateId decision =>
    { run with
      executor := run.executor.resume gateId decision
      history := run.history.decide gateId decision }

/-- The stages a continuation in the same process has to leave out: those completed when
the states in the session were written, and without a session those completed. -/
def settledInProcess (run : LiveRun) : List String :=
  match run.executor.session with
  | some _ => run.history.atRecord
  | none => run.history.finished

/-- `continue_from_gate`, of a run whose loop has ended. -/
def continueFromGate (run : LiveRun) (gateId decision : String) : LiveRun :=
  if run.loop.isRunning then run
  else
    let run := gateCall run (.resume gateId decision)
    { run with
      loop := .resume (ctx.startResume run.executor.completed)
      phase := .between
      history := run.history.restart (settledInProcess run) }

/-- `continue_from_gate_graph`, of a run whose loop has ended. -/
def continueFromGateGraph (run : LiveRun) (gateId decision : String)
    (lastStage : Option String) (completedStages : Option (List String))
    (select : List String → Option String) : LiveRun :=
  if run.loop.isRunning then run
  else
    let run := gateCall run (.resume gateId decision)
    let loop := ctx.startContinue decision lastStage (some run.executor.currentStage)
      (completedStages.getD run.executor.completedInGraph) select
    { run with
      loop := .continued loop
      phase := .between
      history := (run.history.restart (settledInProcess run)).conclude loop.status }

/-- `resume_from_checkpoint`, in a new process. -/
def resumeFromCheckpoint (run : LiveRun) : LiveRun :=
  match run.checkpoint with
  | none => run
  | some session =>
    { run with
      executor := RunExecutor.fromCheckpoint session
      loop := .resume (ctx.startResume (RunExecutor.fromCheckpoint session).completed)
      phase := .between
      history :=
        { run.history.restart run.history.atCheckpoint with
          atRecord := run.history.atCheckpoint } }

/-- One step. -/
def step (run : LiveRun) : RunEvent → LiveRun
  | .call call => gateCall run call
  | .begin entry route => ctx.begin run entry route
  | .finish ending route => ctx.finish run ending route
  | .giveUp verdict route => ctx.giveUp run verdict route
  | .continueFromGate gateId decision => ctx.continueFromGate run gateId decision
  | .continueFromGateGraph gateId decision lastStage completedStages select =>
    ctx.continueFromGateGraph run gateId decision lastStage completedStages select
  | .resumeFromCheckpoint => ctx.resumeFromCheckpoint run

/-- A new run, with or without a session, before the first turn of a loop. -/
def newRun (withSession : Bool) (loop : RunLoop) : LiveRun where
  executor :=
    { session := if withSession then some ⟨"", [], []⟩ else none
      stageSummaries := []
      currentStage := ""
      gatePending := none
      runTerminated := false }
  checkpoint := none
  loop := loop
  phase := .between
  history :=
    { undecided := [], backtracked := false, log := [], finished := [], atRecord := []
      atCheckpoint := [], settled := [], executions := [] }

/-! ## Two stages -/

def twoStages : Orchestrator where
  stageGraph := ⟨[("S1", ["S2"]), ("S2", [])], []⟩
  hiAgentPosture := some "dev"
  repr := fun text => "'" ++ text ++ "'"

def beginStage (stages : Option (List (String × String))) : RunEvent :=
  .begin ⟨false, none, none, ⟨stages, true⟩⟩ ⟨.other, fun _ => none⟩

def finishStage (stages : Option (List (String × String))) : RunEvent :=
  .finish (.completed "succeeded" ⟨stages, true⟩) ⟨.other, fun _ => none⟩

/-! ## How a turn ends -/

section Turns

variable {ctx}

theorem ofRaise_ne_completed (raise : Raise) : Status.ofRaise raise ≠ .finalized .completed := by
  cases raise <;> simp [Status.ofRaise]

theorem gateStatus_ne_completed (raise : Raise) : gateStatus raise ≠ .finalized .completed := by
  cases raise <;> simp [gateStatus]

theorem status_of_isRunning {loop : RunLoop} (h : loop.isRunning = true) :
    loop.status = .running := by
  unfold RunLoop.isRunning at h
  split at h
  · assumption
  · cases h

variable {stageId : String} {answers : Answers}

theorem linearTurn_of_stage {follow : String → List String → StageDirective →
    Except String (List String)} {loop : LinearLoop}
    (hrunning : loop.status = .running) (hstage : loop.remaining.head? = some stageId)
    (turn : Turn) : linearTurn follow loop turn =
      turnOver (follow stageId loop.remaining.tail) loop.executed stageId
        loop.remaining.tail (turn stageId) := by
  unfold linearTurn
  rw [hrunning]
  cases hremaining : loop.remaining with
  | nil =>
    rw [hremaining] at hstage
    cases hstage
  | cons first rest =>
    rw [hremaining] at hstage
    obtain rfl := Option.some.inj hstage
    rfl

variable {loop : GraphLoop}

theorem of_comesTo (h : ctx.comesTo loop = some stageId) :
    loop.steps < ctx.maxSteps ∧ loop.currentStage = some stageId := by
  unfold comesTo at h
  split at h
  · exact ⟨by assumption, h⟩
  · cases h

theorem runGraph_of_left
    (hrunning : loop.status = .running) (hstage : ctx.comesTo loop = some stageId)
    {turn : Turn} (hleft : (ctx.executeIn .ofRaise (turn stageId) loop stageId).2 = false) :
    ctx.runGraph loop turn = (ctx.executeIn .ofRaise (turn stageId) loop stageId).1 := by
  obtain ⟨hsteps, hcurrent⟩ := of_comesTo hstage
  unfold runGraph
  rw [hrunning, hcurrent]
  dsimp only
  rw [if_pos hsteps]
  cases hturn : ctx.executeIn .ofRaise (turn stageId) loop stageId with
  | mk after completed =>
    rw [hturn] at hleft
    rw [show completed = false from hleft]

theorem continueGraph_of_left (hrunning : loop.status = .running)
    (hstage : ctx.nextStage (.continued loop) = some stageId) {turn : Turn}
    (hleft : (ctx.executeIn gateStatus (turn stageId) loop stageId).2 = false) :
    ctx.continueGraph loop turn = (ctx.executeIn gateStatus (turn stageId) loop stageId).1 := by
  obtain ⟨hcomes, hfresh⟩ := Option.filter_eq_some_iff.mp hstage
  obtain ⟨hsteps, hcurrent⟩ := of_comesTo hcomes
  have hnew : stageId ∉ loop.completedStages := by simpa using hfresh
  unfold continueGraph
  rw [hrunning, hcurrent]
  dsimp only
  rw [if_pos hsteps, if_neg hnew]
  cases hturn : ctx.executeIn gateStatus (turn stageId) loop stageId with
  | mk after completed =>
    rw [hturn] at hleft
    rw [show completed = false from hleft]

def Fails (answers : Answers) : Prop :=
  (∃ raise, answers.result = .error raise) ∨
    (answers.result = .ok .failed ∧ answers.handled ≠ .ok .passed)

theorem executeIn_of_fails {ofRaise : Raise → Status}
    (ctx : Orchestrator) (loop : GraphLoop) (stageId : String)
    (hraise : ∀ raise, ofRaise raise ≠ .finalized .completed)
    (hrunning : loop.status = .running) (hfails : Fails answers) :
    (ctx.executeIn ofRaise answers loop stageId).2 = false ∧
      (ctx.executeIn ofRaise answers loop stageId).1.status ≠ .finalized .completed := by
  unfold executeIn
  rcases hfails with ⟨raise, hresult⟩ | ⟨hresult, hhandled⟩
  · rw [hresult]
    exact ⟨rfl, hraise raise⟩
  · rw [hresult]
    dsimp only
    cases ctx.backtrackFrom stageId loop.completedStages with
    | some target =>
      refine ⟨rfl, ?_⟩
      dsimp only
      rw [hrunning]
      exact Status.noConfusion
    | none =>
      cases hanswer : answers.handled with
      | error raise => exact ⟨rfl, hraise raise⟩
      | ok verdict =>
        cases verdict with
        | failed => exact ⟨rfl, by simp⟩
        | passed => exact absurd hanswer hhandled

theorem executeIn_of_failed (ofRaise : Raise → Status)
    (hhandles : (ctx.backtrackFrom stageId loop.completedStages).isNone = true)
    (hresult : answers.result = .ok .failed) (hhandled : answers.handled = .ok .failed) :
    (ctx.executeIn ofRaise answers loop stageId).2 = false ∧
      (ctx.executeIn ofRaise answers loop stageId).1.status = .finalized .failed := by
  unfold executeIn
  rw [hresult]
  dsimp only
  rw [Option.isNone_iff_eq_none.mp hhandles, hhandled]
  exact ⟨rfl, rfl⟩

theorem turnOver_of_fails {follow : StageDirective → Except String (List String)}
    {executed : List StageRun} {rest : List String} (hfails : Fails answers) :
    (turnOver follow executed stageId rest answers).status ≠ .finalized .completed := by
  unfold turnOver
  rcases hfails with ⟨raise, hresult⟩ | ⟨hresult, hhandled⟩
  · rw [hresult]
    exact ofRaise_ne_completed raise
  · rw [hresult]
    dsimp only
    cases hanswer : answers.handled with
    | error raise => exact ofRaise_ne_completed raise
    | ok verdict =>
      cases verdict with
      | failed => simp
      | passed => exact absurd hanswer hhandled

/-- A stage that fails completes no loop. -/
theorem advance_of_fails {loop : RunLoop}
    (hrunning : loop.isRunning = true) (hstage : ctx.nextStage loop = some stageId)
    (hfails : Fails answers) : (ctx.advance loop answers).status ≠ .finalized .completed := by
  have hstatus := status_of_isRunning hrunning
  cases loop with
  | linear loop | resume loop =>
    change (linearTurn _ loop _).status ≠ _
    rw [linearTurn_of_stage hstatus hstage]
    exact turnOver_of_fails hfails
  | graph loop =>
    obtain ⟨hleft, hne⟩ := executeIn_of_fails ctx loop stageId
      ofRaise_ne_completed hstatus hfails
    change (ctx.runGraph loop fun _ => answers).status ≠ _
    rw [runGraph_of_left hstatus hstage hleft]
    exact hne
  | continued loop =>
    obtain ⟨hleft, hne⟩ := executeIn_of_fails ctx loop stageId
      gateStatus_ne_completed hstatus hfails
    change (ctx.continueGraph loop fun _ => answers).status ≠ _
    rw [continueGraph_of_left hstatus hstage hleft]
    exact hne

theorem advance_of_failed {loop : RunLoop}
    (hrunning : loop.isRunning = true) (hstage : ctx.nextStage loop = some stageId)
    (hhandles : ctx.handles loop stageId = true) (hresult : answers.result = .ok .failed)
    (hhandled : answers.handled = .ok .failed) :
    (ctx.advance loop answers).status = .finalized .failed := by
  have hstatus := status_of_isRunning hrunning
  cases loop with
  | linear loop | resume loop =>
    change (linearTurn _ loop _).status = _
    rw [linearTurn_of_stage hstatus hstage, turnOver, hresult]
    dsimp only
    rw [hhandled]
  | graph loop =>
    obtain ⟨hleft, hfailed⟩ := executeIn_of_failed .ofRaise hhandles hresult
      hhandled
    change (ctx.runGraph loop fun _ => answers).status = _
    rw [runGraph_of_left hstatus hstage hleft]
    exact hfailed
  | continued loop =>
    obtain ⟨hleft, hfailed⟩ := executeIn_of_failed gateStatus hhandles hresult
      hhandled
    change (ctx.continueGraph loop fun _ => answers).status = _
    rw [continueGraph_of_left hstatus hstage hleft]
    exact hfailed

end Turns

theorem persistSnapshot_frame (run : LiveRun) (stageId : String) (snapshot : Snapshot) :
    (persistSnapshot run stageId snapshot).loop = run.loop ∧
      (persistSnapshot run stageId snapshot).phase = run.phase ∧
      (persistSnapshot run stageId snapshot).history.settled = run.history.settled ∧
      (persistSnapshot run stageId snapshot).history.executions = run.history.executions := by
  unfold persistSnapshot
  cases run.executor.session with
  | none => exact ⟨rfl, rfl, rfl, rfl⟩
  | some session =>
    dsimp only
    split
    · exact ⟨rfl, rfl, rfl, rfl⟩
    · exact ⟨rfl, rfl, rfl, rfl⟩

end Orchestrator

end HiAgent.Execution
