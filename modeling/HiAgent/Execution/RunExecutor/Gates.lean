/-
  Execution/RunExecutor/Gates.lean --- what a human gate holds.

  While a gate is undecided, or once a run has been sent back, no stage may be executed and the
  run may not be finalized as completed.
-/
import HiAgent.Execution.RunExecutor

namespace HiAgent.Execution

open Foundation Server Trajectory List

/-! ## The law -/

/-- Nothing is executed, and nothing is finalized but as failed, while the run is held. -/
def LogEntry.lawful : LogEntry → Bool
  | .executed _ held => !held
  | .finalized .completed held => !held
  | .finalized .failed _ => true

def LiveRun.Lawful (run : LiveRun) : Prop :=
  ∀ entry ∈ run.history.log, entry.lawful = true

namespace History

variable {history : History} {status : Status}

theorem undecided_conclude (history : History) (status : Status) :
    (history.conclude status).undecided = history.undecided := by
  unfold conclude
  split <;> rfl

theorem backtracked_conclude (history : History) (status : Status) :
    (history.conclude status).backtracked = history.backtracked := by
  unfold conclude
  split <;> rfl

theorem mem_log_conclude {entry : LogEntry} (h : entry ∈ (history.conclude status).log) :
    entry ∈ history.log ∨
      ∃ outcome, status = .finalized outcome ∧ entry = .finalized outcome history.held := by
  unfold conclude at h
  split at h
  · rename_i outcome
    rcases mem_append.mp h with hold | hnew
    · exact .inl hold
    · exact .inr ⟨outcome, rfl, mem_singleton.mp hnew⟩
  · exact .inl h

end History

namespace Orchestrator

variable (ctx : Orchestrator)

/-- A loop that comes to a stage of a run that was sent back ends it as failed. -/
def EndsFailed (run : LiveRun) (event : RunEvent) : Prop :=
  match event with
  | .begin _ _ =>
    run.history.backtracked = true → run.phase = .between → run.loop.isRunning = true →
      ctx.nextStage run.loop ≠ none → (ctx.step run event).loop.status = .finalized .failed
  | _ => True

/-! ## When the gates hold -/

/-- The loop has come to its end: no stage is left, or no turn. -/
def exhausted : RunLoop → Bool
  | .linear loop => loop.remaining.isEmpty
  | .resume loop => loop.remaining.isEmpty
  | .graph loop => (ctx.comesTo loop).isNone
  | .continued loop => (ctx.comesTo loop).isNone

def passes : Ending → Bool
  | .completed _ _ => true
  | .skippedByBudget => true
  | _ => false

def lastTurn (loop : RunLoop) (route : Route) (result : StageResult) : Bool :=
  decide ((ctx.advance loop
    { result := .ok result, handled := .ok .passed, hook := route.hook
      select := route.select }).status = .finalized .completed)

def Alone (run : LiveRun) (gateId : String) : Prop :=
  run.executor.gatePending = some gateId → ∀ other ∈ run.history.undecided, other = gateId

/-- What makes the gates hold. The pending gate is decided when no other gate is open;
a run goes on from a checkpoint when it was not sent back, and when the last gate event
in the checkpoint is a registration or no gate is open; a loop comes to its end when
the run is not held; and a run sent back stands at a stage without a backtrack edge. -/
def GateFits (run : LiveRun) : RunEvent → Prop
  | .call (.registerGate _) => True
  | .call (.resume gateId _) => Alone run gateId
  | .continueFromGate gateId _ => run.loop.isRunning = false → Alone run gateId
  | .continueFromGateGraph gateId _ _ _ _ => run.loop.isRunning = false → Alone run gateId
  | .resumeFromCheckpoint =>
    ∀ session ∈ run.checkpoint, run.history.backtracked = false ∧
      (run.history.undecided ≠ [] → RunExecutor.gateOf session.events ≠ none)
  | .begin _ _ =>
    run.phase = .between → run.loop.isRunning = true →
      (ctx.exhausted run.loop = true → run.history.held = false) ∧
        (run.history.backtracked = true → ∀ stageId ∈ ctx.nextStage run.loop,
          ctx.handles run.loop stageId = true)
  | .finish ending route =>
    ∀ retry ∈ run.phase.attempt, passes ending = true →
      ctx.lastTurn run.loop route (if retry then .failed else .passed) = true →
        run.history.held = false
  | .giveUp verdict route =>
    run.phase.isFailing = true → verdict = .passed →
      ctx.lastTurn run.loop route .failed = true → run.history.held = false

instance (run : LiveRun) (gateId : String) : Decidable (Alone run gateId) :=
  inferInstanceAs (Decidable (_ → _))

instance GateFits.decide (run : LiveRun) : ∀ event, Decidable (ctx.GateFits run event)
  | .call (.registerGate _) => isTrue trivial
  | .call (.resume gateId _) => inferInstanceAs (Decidable (Alone run gateId))
  | .continueFromGate gateId _ =>
    inferInstanceAs (Decidable (run.loop.isRunning = false → Alone run gateId))
  | .continueFromGateGraph gateId _ _ _ _ =>
    inferInstanceAs (Decidable (run.loop.isRunning = false → Alone run gateId))
  | .resumeFromCheckpoint =>
    inferInstanceAs (Decidable (∀ session ∈ run.checkpoint, _ ∧ (_ → _)))
  | .begin _ _ => inferInstanceAs (Decidable (_ → _ → _ ∧ (_ → ∀ stageId ∈ _, _)))
  | .finish _ _ => inferInstanceAs (Decidable (∀ retry ∈ run.phase.attempt, _ → _ → _))
  | .giveUp _ _ => inferInstanceAs (Decidable (_ → _ → _ → _))

/-! ## The invariant -/

/-- The field of the pending gate is set as long as a gate is open, the flag once the
run was sent back, and a turn under way is over the stage its loop stands at. -/
structure Gated (run : LiveRun) : Prop where
  pending : run.history.undecided ≠ [] → run.executor.gatePending ≠ none
  terminated : run.history.backtracked = true → run.executor.runTerminated = true
  lawful : run.Lawful
  atStage : ∀ stageId, run.phase.stage = some stageId →
    run.loop.isRunning = true ∧ ctx.nextStage run.loop = some stageId

/-- The part of a run that the gate interface writes is as it was, and what was logged
since is lawful. -/
structure KeepsGates (run after : LiveRun) : Prop where
  gatePending : after.executor.gatePending = run.executor.gatePending
  runTerminated : after.executor.runTerminated = run.executor.runTerminated
  undecided : after.history.undecided = run.history.undecided
  backtracked : after.history.backtracked = run.history.backtracked
  logged : ∀ entry ∈ after.history.log, entry ∈ run.history.log ∨ entry.lawful = true

namespace KeepsGates

variable {ctx} {run after : LiveRun}

theorem refl (run : LiveRun) : KeepsGates run run :=
  ⟨rfl, rfl, rfl, rfl, fun _ hentry => .inl hentry⟩

theorem held (h : KeepsGates run after) : after.history.held = run.history.held := by
  rw [History.held, History.held, h.undecided, h.backtracked]

theorem conclude {route : Route} {result handled : Except Raise StageResult}
    (hends : (ctx.advance run.loop ⟨result, handled, route.hook, route.select⟩).status =
      .finalized .completed → run.history.held = false) :
    KeepsGates run (ctx.conclude run route result handled) where
  gatePending := rfl
  runTerminated := rfl
  undecided := History.undecided_conclude ..
  backtracked := History.backtracked_conclude ..
  logged := by
    intro entry hentry
    rcases History.mem_log_conclude hentry with hold | ⟨outcome, hstatus, rfl⟩
    · exact .inl hold
    · cases outcome with
      | failed => exact .inr rfl
      | completed => exact .inr (by rw [LogEntry.lawful, hends hstatus]; rfl)

theorem persistSnapshot (run : LiveRun) (stageId : String) (snapshot : Snapshot) :
    KeepsGates run (persistSnapshot run stageId snapshot) := by
  unfold Orchestrator.persistSnapshot
  cases run.executor.session with
  | none => exact refl run
  | some session =>
    dsimp only
    split
    · exact ⟨rfl, rfl, rfl, rfl, fun _ hentry => .inl hentry⟩
    · exact ⟨rfl, rfl, rfl, rfl, fun _ hentry => .inl hentry⟩

end KeepsGates

namespace Gated

variable {ctx} {run after : LiveRun}

theorem of_keeps (h : ctx.Gated run) (hkeeps : KeepsGates run after)
    (hstage : ∀ stageId, after.phase.stage = some stageId →
      after.loop.isRunning = true ∧ ctx.nextStage after.loop = some stageId) : ctx.Gated after where
  pending := by
    rw [hkeeps.undecided, hkeeps.gatePending]
    exact h.pending
  terminated := by
    rw [hkeeps.backtracked, hkeeps.runTerminated]
    exact h.terminated
  lawful := fun entry hentry => (hkeeps.logged entry hentry).elim (h.lawful entry) id
  atStage := hstage

theorem conclude (h : ctx.Gated run) {route : Route} {result handled : Except Raise StageResult}
    (hends : (ctx.advance run.loop ⟨result, handled, route.hook, route.select⟩).status =
      .finalized .completed → run.history.held = false) :
    ctx.Gated (ctx.conclude run route result handled) :=
  h.of_keeps (KeepsGates.conclude hends) fun _ hstage => by cases hstage

theorem persistSnapshot (h : ctx.Gated run) (stageId : String) (snapshot : Snapshot) :
    ctx.Gated (persistSnapshot run stageId snapshot) := by
  obtain ⟨hloop, hphase, -, -⟩ := persistSnapshot_frame run stageId snapshot
  refine h.of_keeps (KeepsGates.persistSnapshot run stageId snapshot) ?_
  rw [hloop, hphase]
  exact h.atStage

theorem held_of_executes (h : ctx.Gated run) {entry : Entry}
    (hentry : run.executor.enter entry = .executes) : run.history.held = false := by
  have hover : run.executor.runTerminated = false := by
    cases hflag : run.executor.runTerminated with
    | false => rfl
    | true => simp [RunExecutor.enter, hflag] at hentry
  have hpending : run.executor.gatePending = none := by
    cases hgate : run.executor.gatePending with
    | none => rfl
    | some gateId => simp [RunExecutor.enter, hover, hgate] at hentry
  have hundecided : run.history.undecided = [] := by
    by_contra hopen
    exact h.pending hopen hpending
  have hbacktracked : run.history.backtracked = false := by
    cases hback : run.history.backtracked with
    | false => rfl
    | true =>
      rw [h.terminated hback] at hover
      cases hover
  rw [History.held, hundecided, hbacktracked]
  rfl

section AtAStage

variable {stageId : String} (h : ctx.Gated run) (hrunning : run.loop.isRunning = true)
  (hstage : ctx.nextStage run.loop = some stageId)

include h hrunning hstage

theorem concludeFails {route : Route} {result handled : Except Raise StageResult}
    (hfails : Fails ⟨result, handled, route.hook, route.select⟩) :
    ctx.Gated (ctx.conclude run route result handled) :=
  h.conclude fun hends => absurd hends (advance_of_fails hrunning hstage hfails)

theorem fail (ran : Bool) (route : Route) : ctx.Gated (ctx.fail run stageId ran route) := by
  have hfailed : ctx.Gated (ctx.conclude run route (.ok .failed) (.ok .failed)) :=
    h.concludeFails hrunning hstage (.inr ⟨rfl, by simp⟩)
  unfold Orchestrator.fail
  split
  · split
    · exact hfailed
    · refine h.of_keeps ⟨rfl, rfl, rfl, rfl, fun _ hentry => .inl hentry⟩ ?_
      intro other hother
      obtain rfl := Option.some.inj hother
      exact ⟨hrunning, hstage⟩
  · exact hfailed

theorem raised (retry : Bool) (raise : Raise) (route : Route) :
    ctx.Gated (ctx.raised run retry raise route) := by
  unfold Orchestrator.raised
  split
  · refine h.concludeFails hrunning hstage (.inr ⟨rfl, ?_⟩)
    cases raise <;> simp [retryRaises]
  · exact h.concludeFails hrunning hstage (.inl ⟨raise, rfl⟩)

theorem openStage (hheld : run.history.held = false) (retry : Bool) (entry : Entry)
    (route : Route) : ctx.Gated (ctx.openStage run stageId retry entry route) := by
  have hlogged : ∀ logged ∈ (run.history.execute stageId).log,
      logged ∈ run.history.log ∨ logged.lawful = true := by
    intro logged hmem
    rcases mem_append.mp hmem with hold | hnew
    · exact .inl hold
    · rw [mem_singleton.mp hnew, hheld]
      exact .inr rfl
  unfold Orchestrator.openStage
  cases entry.unopened with
  | some raise =>
    have hopened : ctx.Gated
        { run with
          executor := { run.executor with currentStage := stageId }
          history := run.history.execute stageId } :=
      h.of_keeps ⟨rfl, rfl, rfl, rfl, hlogged⟩ h.atStage
    exact hopened.raised hrunning hstage retry raise route
  | none =>
    dsimp only
    refine persistSnapshot ?_ stageId entry.snapshot
    refine h.of_keeps ⟨rfl, rfl, rfl, rfl, hlogged⟩ fun other hother => ?_
    obtain rfl := Option.some.inj hother
    exact ⟨hrunning, hstage⟩

end AtAStage

theorem passed (h : ctx.Gated run) {retry : Bool} {route : Route}
    (hlast : ctx.lastTurn run.loop route (if retry then .failed else .passed) = true →
      run.history.held = false) : ctx.Gated (ctx.passed run retry route) :=
  h.conclude fun hends => hlast (decide_eq_true hends)

theorem exhausted_of_ends {loop : RunLoop} {answers : Answers}
    (hrunning : loop.isRunning = true) (hstage : ctx.nextStage loop = none)
    (hends : (ctx.advance loop answers).status = .finalized .completed) :
    ctx.exhausted loop = true := by
  cases loop with
  | graph loop => exact Option.isNone_iff_eq_none.mpr hstage
  | continued loop =>
    cases hcomes : ctx.comesTo loop with
    | none => exact Option.isNone_iff_eq_none.mpr hcomes
    | some stageId =>
      -- the loop passes over a completed stage and goes on
      have hpassed : stageId ∈ loop.completedStages := by
        by_contra hnew
        rw [nextStage, hcomes, Option.filter_some_pos (by simpa using hnew)] at hstage
        cases hstage
      obtain ⟨hsteps, hcurrent⟩ := of_comesTo hcomes
      have hstatus := status_of_isRunning hrunning
      change (ctx.continueGraph loop fun _ => answers).status = _ at hends
      unfold continueGraph at hends
      rw [show loop.status = .running from hstatus, hcurrent] at hends
      dsimp only at hends
      rw [if_pos hsteps, if_pos hpassed] at hends
      cases hends
  | _ => exact List.isEmpty_iff.mpr (head?_eq_none_iff.mp hstage)

section

variable (h : ctx.Gated run)
include h

theorem begin (entry : Entry) (route : Route)
    (hfits : ctx.GateFits run (.begin entry route)) : ctx.Gated (ctx.begin run entry route) := by
  unfold Orchestrator.begin
  cases hphase : run.phase with
  | inStage stageId retry => exact h
  | between =>
    cases hrunning : run.loop.isRunning with
    | false => exact h
    | true =>
      dsimp only
      rw [if_pos rfl]
      cases hstage : ctx.nextStage run.loop with
      | none =>
        exact h.conclude fun hends =>
          (hfits hphase hrunning).1 (exhausted_of_ends hrunning hstage hends)
      | some stageId =>
        dsimp only
        cases henter : run.executor.enter entry with
        | refused => exact h.fail hrunning hstage false route
        | raises raise => exact h.raised hrunning hstage false raise route
        | executes =>
          exact h.openStage hrunning hstage (h.held_of_executes henter) false entry
            route
  | failing stageId ran =>
    obtain ⟨hrunning, hstage⟩ := h.atStage stageId (by rw [hphase]; rfl)
    dsimp only
    cases henter : run.executor.enter entry with
    | refused => exact h
    | raises raise => exact h.raised hrunning hstage true raise route
    | executes =>
      exact h.openStage hrunning hstage (h.held_of_executes henter) true entry route

theorem summarize (stageId outcome : String) : ctx.Gated (summarize run stageId outcome) :=
  h.of_keeps ⟨rfl, rfl, rfl, rfl, fun _ hentry => .inl hentry⟩ h.atStage

theorem finished (stageId : String) :
    ctx.Gated { run with history := run.history.finish stageId } :=
  h.of_keeps ⟨rfl, rfl, rfl, rfl, fun _ hentry => .inl hentry⟩ h.atStage

theorem finish (ending : Ending) (route : Route) (hfits : ctx.GateFits run (.finish ending route)) :
    ctx.Gated (ctx.finish run ending route) := by
  unfold Orchestrator.finish
  cases hphase : run.phase with
  | between => exact h
  | failing stageId ran => exact h
  | inStage stageId retry =>
    obtain ⟨hrunning, hstage⟩ := h.atStage stageId (by rw [hphase]; rfl)
    have hlast := hfits retry (by rw [hphase]; rfl)
    cases ending with
    | completed outcome snapshot =>
      dsimp only
      have hdone := (h.finished stageId).summarize stageId outcome
      rw [← hphase]
      refine (hdone.persistSnapshot stageId snapshot).passed ?_
      rw [(persistSnapshot_frame _ stageId snapshot).1,
        (KeepsGates.persistSnapshot _ stageId snapshot).held]
      exact hlast rfl
    | skippedByBudget =>
      dsimp only
      rw [← hphase]
      exact ((h.finished stageId).summarize stageId "skipped_by_budget").passed (hlast rfl)
    | failed snapshot =>
      dsimp only
      have hfailed := (h.summarize stageId "failed").persistSnapshot stageId snapshot
      have hloop := (persistSnapshot_frame (Orchestrator.summarize run stageId "failed")
        stageId snapshot).1
      split
      · refine hfailed.of_keeps ⟨rfl, rfl, rfl, rfl, fun _ hentry => .inl hentry⟩ ?_
        intro other hother
        obtain rfl := Option.some.inj hother
        rw [hloop]
        exact ⟨hrunning, hstage⟩
      · refine hfailed.fail ?_ ?_ true route
        · rw [hloop]
          exact hrunning
        · rw [hloop]
          exact hstage
    | raises raise => exact h.raised hrunning hstage retry raise route

theorem giveUp (verdict : StageResult) (route : Route)
    (hfits : ctx.GateFits run (.giveUp verdict route)) :
    ctx.Gated (ctx.giveUp run verdict route) := by
  unfold Orchestrator.giveUp
  cases hphase : run.phase with
  | between => exact h
  | inStage stageId retry => exact h
  | failing stageId ran =>
    obtain ⟨hrunning, hstage⟩ := h.atStage stageId (by rw [hphase]; rfl)
    cases verdict with
    | failed => exact h.concludeFails hrunning hstage (.inr ⟨rfl, by simp⟩)
    | passed =>
      exact h.conclude fun hends =>
        hfits (by rw [hphase]; rfl) rfl (decide_eq_true hends)

theorem registerGate (gateId : String) : ctx.Gated (gateCall run (.registerGate gateId)) :=
  { h with
    pending := fun _ => Option.some_ne_none gateId }

theorem resume {gateId : String} (decision : String)
    (halone : Alone run gateId) : ctx.Gated (gateCall run (.resume gateId decision)) where
  pending := by
    intro hopen
    change run.history.undecided.filter (· ≠ gateId) ≠ [] at hopen
    change (if run.executor.gatePending = some gateId then none
      else run.executor.gatePending) ≠ none
    split
    · rename_i hpending
      refine absurd (filter_eq_nil_iff.mpr fun other hother => ?_) hopen
      simp [halone hpending other hother]
    · refine h.pending fun hnone => hopen ?_
      rw [hnone]
      rfl
  terminated := by
    intro hback
    change (run.history.backtracked || decision == "backtrack") = true at hback
    change (run.executor.runTerminated || decision == "backtrack") = true
    rcases Bool.or_eq_true_iff.mp hback with hold | hnew
    · rw [h.terminated hold, Bool.true_or]
    · rw [hnew, Bool.or_true]
  lawful := h.lawful
  atStage := h.atStage

theorem continueFromGate (gateId decision : String)
    (hfits : ctx.GateFits run (.continueFromGate gateId decision)) :
    ctx.Gated (ctx.continueFromGate run gateId decision) := by
  unfold Orchestrator.continueFromGate
  cases hrunning : run.loop.isRunning with
  | true => exact h
  | false =>
    have hresumed := h.resume decision (hfits hrunning)
    exact hresumed.of_keeps ⟨rfl, rfl, rfl, rfl, fun _ hentry => .inl hentry⟩
      fun _ hstage => by cases hstage

theorem continueFromGateGraph (gateId decision : String)
    (lastStage : Option String) (completedStages : Option (List String))
    (select : List String → Option String)
    (hfits : ctx.GateFits run (.continueFromGateGraph gateId decision lastStage
      completedStages select)) :
    ctx.Gated (ctx.continueFromGateGraph run gateId decision lastStage completedStages select) := by
  unfold Orchestrator.continueFromGateGraph
  cases hrunning : run.loop.isRunning with
  | true => exact h
  | false =>
    have hresumed := h.resume decision (hfits hrunning)
    refine hresumed.of_keeps ⟨rfl, rfl, History.undecided_conclude ..,
      History.backtracked_conclude .., fun entry hentry => ?_⟩ fun _ hstage => by cases hstage
    rcases History.mem_log_conclude hentry with hold | ⟨outcome, hstatus, rfl⟩
    · exact .inl hold
    · -- only a backtrack ends this loop at once, and as failed
      rw [startContinue] at hstatus
      dsimp only at hstatus
      split at hstatus
      · cases hstatus
        exact .inr rfl
      · cases hstatus

theorem resumeFromCheckpoint (hfits : ctx.GateFits run .resumeFromCheckpoint) :
    ctx.Gated (ctx.resumeFromCheckpoint run) := by
  unfold Orchestrator.resumeFromCheckpoint
  cases hsave : run.checkpoint with
  | none => exact h
  | some session =>
    obtain ⟨hback, hgate⟩ := hfits session hsave
    constructor
    case pending => exact hgate
    case terminated =>
      intro hover
      rw [show run.history.backtracked = true from hover] at hback
      cases hback
    case lawful => exact h.lawful
    case atStage => exact fun _ hstage => by cases hstage

theorem step {event : RunEvent} (hfits : ctx.GateFits run event) :
    ctx.Gated (ctx.step run event) := by
  cases event with
  | call call =>
    cases call with
    | registerGate gateId => exact h.registerGate gateId
    | resume gateId decision => exact h.resume decision hfits
  | begin entry route => exact h.begin entry route hfits
  | finish ending route => exact h.finish ending route hfits
  | giveUp verdict route => exact h.giveUp verdict route hfits
  | continueFromGate gateId decision => exact h.continueFromGate gateId decision hfits
  | continueFromGateGraph gateId decision lastStage completedStages select =>
    exact h.continueFromGateGraph gateId decision lastStage completedStages select hfits
  | resumeFromCheckpoint => exact h.resumeFromCheckpoint hfits

theorem endsFailed {event : RunEvent}
    (hfits : ctx.GateFits run event) : ctx.EndsFailed run event := by
  cases event with
  | begin entry route =>
    intro hback hphase hrunning hsome
    cases hstage : ctx.nextStage run.loop with
    | none => exact absurd hstage hsome
    | some stageId =>
      have hover := h.terminated hback
      have hhandles := (hfits hphase hrunning).2 hback stageId hstage
      have hrefused : run.executor.enter entry = .refused := by
        rw [RunExecutor.enter, if_pos hover]
      rw [Orchestrator.step, Orchestrator.begin, hphase]
      dsimp only
      rw [if_pos hrunning, hstage]
      dsimp only
      rw [hrefused]
      dsimp only
      rw [Orchestrator.fail, if_pos hhandles, if_pos hover]
      exact advance_of_failed hrunning hstage hhandles rfl rfl
  | call call => trivial
  | finish ending route => trivial
  | giveUp verdict route => trivial
  | continueFromGate gateId decision => trivial
  | continueFromGateGraph gateId decision lastStage completedStages select => trivial
  | resumeFromCheckpoint => trivial

end

theorem newRun (withSession : Bool) (loop : RunLoop) : ctx.Gated (newRun withSession loop) where
  pending := fun hopen => absurd rfl hopen
  terminated := fun hback => by cases hback
  lawful := fun _ hentry => by cases hentry
  atStage := fun _ hstage => by cases hstage

end Gated

/-! ## The gates of a run -/

/-- In a run whose steps all fit, over any graph and whatever loop drives it, the gates
hold: nothing is executed and nothing is completed while a gate is undecided or after a
backtrack, and a loop that comes to a stage after a backtrack ends the run as failed. -/
theorem gates_hold (withSession : Bool) (loop : RunLoop) (events : List RunEvent)
    (hfits : Along ctx.step ctx.GateFits (newRun withSession loop) events) :
    Always ctx.step LiveRun.Lawful (newRun withSession loop) events ∧
      Along ctx.step ctx.EndsFailed (newRun withSession loop) events :=
  ⟨always_of_invariant (fun _ _ h hfits => h.step hfits) (fun _ h => h.lawful)
      (Gated.newRun withSession loop) hfits,
    along_of_invariant (fun _ _ h hfits => h.step hfits)
      (fun _ _ h hfits => h.endsFailed hfits) (Gated.newRun withSession loop) hfits⟩

/-- A gate that a stage registers, and that is decided before the next one. -/
theorem gates_hold_approved :
    Always twoStages.step LiveRun.Lawful (newRun true (.linear twoStages.startLinear))
        [beginStage none, .call (.registerGate "gate"), finishStage none, beginStage none,
          .continueFromGate "gate" "approved", beginStage none] ∧
      Along twoStages.step twoStages.EndsFailed (newRun true (.linear twoStages.startLinear))
        [beginStage none, .call (.registerGate "gate"), finishStage none, beginStage none,
          .continueFromGate "gate" "approved", beginStage none] :=
  gates_hold twoStages true (.linear twoStages.startLinear)
    [beginStage none, .call (.registerGate "gate"), finishStage none, beginStage none,
      .continueFromGate "gate" "approved", beginStage none] (by decide)

/-- Of two gates, the one registered last is decided, and the first stage runs while the
other is open. -/
theorem not_gates_hold_two :
    ¬ ∀ (ctx : Orchestrator) (withSession : Bool) (loop : RunLoop) (events : List RunEvent),
      Always ctx.step LiveRun.Lawful (newRun withSession loop) events ∧
        Along ctx.step ctx.EndsFailed (newRun withSession loop) events := by
  intro h
  have hlast := (h twoStages true (.linear twoStages.startLinear)
    [.call (.registerGate "first"), .call (.registerGate "second"),
      .call (.resume "second" "approved"), beginStage none]).1.last
  have hentry := hlast (.executed "S1" true) (by decide)
  cases hentry

end Orchestrator

end HiAgent.Execution
