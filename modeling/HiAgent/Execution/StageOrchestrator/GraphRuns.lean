/-
  Execution/StageOrchestrator/GraphRuns.lean --- what a completed graph run has done.

  Every execution in the log of a loop that goes on either completed its stage or is followed by
  the target of the backtrack edge that was taken.
-/
import HiAgent.Execution.StageOrchestrator

namespace HiAgent.Execution.Orchestrator

open Foundation Trajectory List

def following (back : List StageRun) (currentStage : Option String) : Option String :=
  match back with
  | [] => currentStage
  | run :: _ => some run.stageId

def CompletedIn (executed : List StageRun) (stageId : String) : Prop :=
  ∃ run ∈ executed, run.stageId = stageId ∧ run.fate.ok = true

/-- The run failed, and the run went on with the target of its backtrack edge, which
had not completed. -/
def LeftFor (ctx : Orchestrator) (initial : List String) (front : List StageRun)
    (run : StageRun) (next : Option String) : Prop :=
  ∃ target, run.fate = .backtracked target ∧
    ctx.stageGraph.getBacktrack run.stageId = some target ∧ next = some target ∧
    target ∉ initial ∧ ¬ CompletedIn front target

/-- No execution of the log has failed without being handled or left for the target
of its backtrack edge. -/
def Answered (ctx : Orchestrator) (initial : List String) (executed : List StageRun)
    (currentStage : Option String) : Prop :=
  ∀ front run back, executed = front ++ run :: back →
    run.fate.ok = true ∨ LeftFor ctx initial front run (following back currentStage)

def LastClosed (ctx : Orchestrator) (initial : List String) (executed : List StageRun) : Prop :=
  ∀ run ∈ executed.getLast?, ∀ next ∈ ctx.stageGraph.successors run.stageId,
    next ∈ initial ∨ CompletedIn executed next

variable {ctx : Orchestrator} {initial : List String}

/-! ## The log -/

variable {executed : List StageRun}

theorem completedIn_append {run : StageRun} {stageId : String} :
    CompletedIn (executed ++ [run]) stageId ↔
      CompletedIn executed stageId ∨ (run.stageId = stageId ∧ run.fate.ok = true) := by
  unfold CompletedIn
  simp only [mem_append, mem_singleton]
  constructor
  · rintro ⟨other, hother | rfl, hstage⟩
    · exact .inl ⟨other, hother, hstage⟩
    · exact .inr hstage
  · rintro (⟨other, hother, hstage⟩ | hstage)
    · exact ⟨other, .inl hother, hstage⟩
    · exact ⟨run, .inr rfl, hstage⟩

theorem append_singleton_eq {α : Type} {items front back : List α} {new item : α}
    (h : items ++ [new] = front ++ item :: back) :
    (∃ rest, items = front ++ item :: rest ∧ back = rest ++ [new]) ∨
      (items = front ∧ item = new ∧ back = []) := by
  rcases eq_nil_or_concat back with rfl | ⟨rest, last, rfl⟩
  · obtain ⟨hitems, hnew⟩ := append_inj_right' h rfl |> fun h' =>
      And.intro (append_inj_left' h rfl) h'
    exact .inr ⟨hitems, (singleton_inj.mp hnew).symm, rfl⟩
  · rw [concat_eq_append, ← cons_append, ← append_assoc] at h
    have hitems := append_inj_left' h rfl
    have hlast := singleton_inj.mp (append_inj_right' h rfl)
    exact .inl ⟨rest, hitems, by rw [concat_eq_append, hlast]⟩

theorem answered_of_none (currentStage : Option String) (h : Answered ctx initial executed none) :
    Answered ctx initial executed currentStage := by
  intro front run back hsplit
  rcases h front run back hsplit with hok | ⟨target, hfate, hedge, hnext, hopen⟩
  · exact .inl hok
  · cases back with
    | nil => cases hnext
    | cons other back => exact .inr ⟨target, hfate, hedge, hnext, hopen⟩

theorem answered_append {run : StageRun} {currentStage : Option String}
    (h : Answered ctx initial executed (some run.stageId))
    (hrun : run.fate.ok = true ∨ LeftFor ctx initial executed run currentStage) :
    Answered ctx initial (executed ++ [run]) currentStage := by
  intro front other back hsplit
  rcases append_singleton_eq hsplit with ⟨rest, hran, rfl⟩ | ⟨rfl, rfl, rfl⟩
  · have hfollowing : following (rest ++ [run]) currentStage =
        following rest (some run.stageId) := by
      cases rest <;> rfl
    rw [hfollowing]
    exact h front other rest hran
  · exact hrun

/-! ## One turn -/

/-- What `executeIn` leaves behind. -/
inductive Executed (ctx : Orchestrator) (loop : GraphLoop) (stageId : String) :
    GraphLoop × Bool → Prop
  | finished (fate : Fate) (hok : fate.ok = true) : Executed ctx loop stageId
        ({ loop with
            steps := loop.steps + 1
            executed := loop.executed ++ [⟨stageId, fate⟩]
            completedStages := loop.completedStages ++ [stageId] }, true)
  | left (target : String)
      (hedge : ctx.backtrackFrom stageId loop.completedStages = some target) :
      Executed ctx loop stageId
        ({ loop with
            steps := loop.steps + 1
            executed := loop.executed ++ [⟨stageId, .backtracked target⟩]
            currentStage := some target }, false)
  | stopped (fate : Fate) (status : Status) (hrunning : status ≠ .running)
      (hcompleted : status ≠ .finalized .completed) :
      Executed ctx loop stageId
        ({ loop with
            steps := loop.steps + 1
            executed := loop.executed ++ [⟨stageId, fate⟩]
            status := status }, false)

def Stops (ofRaise : Raise → Status) : Prop :=
  ∀ raise, ofRaise raise ≠ .running ∧ ofRaise raise ≠ .finalized .completed

theorem stops_ofRaise : Stops Status.ofRaise := by
  intro raise
  cases raise <;> exact ⟨nofun, nofun⟩

theorem stops_gateStatus : Stops gateStatus := by
  intro raise
  cases raise <;> exact ⟨nofun, nofun⟩

theorem executed_executeIn (ctx : Orchestrator) {ofRaise : Raise → Status}
    (hstops : Stops ofRaise) (answers : Answers) (loop : GraphLoop) (stageId : String) :
    Executed ctx loop stageId (ctx.executeIn ofRaise answers loop stageId) := by
  unfold executeIn
  dsimp only
  cases answers.result with
  | error raise => exact .stopped .raised (ofRaise raise) (hstops raise).1 (hstops raise).2
  | ok result =>
    cases result with
    | passed => exact .finished .passed rfl
    | failed =>
      dsimp only
      cases hedge : ctx.backtrackFrom stageId loop.completedStages with
      | some target => exact .left target hedge
      | none =>
        cases answers.handled with
        | error raise =>
          exact .stopped .raised (ofRaise raise) (hstops raise).1 (hstops raise).2
        | ok handled =>
          cases handled with
          | failed => exact .stopped .failed (.finalized .failed) nofun nofun
          | passed => exact .finished .handled rfl

def Chooses (select : List String → Option String) : Prop :=
  ∀ candidates, ∀ choice ∈ select candidates, choice ∈ candidates

theorem selectNextStage_spec (select : List String → Option String)
    {candidates : List String} (h : candidates ≠ []) :
    ∃ next, selectNextStage select candidates = some next ∧
      (Chooses select → next ∈ candidates) := by
  unfold selectNextStage
  cases hselect : select candidates with
  | some choice => exact ⟨choice, rfl, fun hchooses => hchooses candidates choice hselect⟩
  | none =>
    cases candidates with
    | nil => exact absurd rfl h
    | cons first rest => exact ⟨first, rfl, fun _ => mem_cons_self⟩

theorem goOn_cases (ctx : Orchestrator) (select : List String → Option String)
    (loop : GraphLoop) (stageId : String) :
    (ctx.candidates stageId loop.completedStages = [] ∧
        ctx.goOn select loop stageId = { loop with status := .finalized .completed }) ∨
      ∃ next, ctx.goOn select loop stageId = { loop with currentStage := some next } ∧
        (Chooses select → next ∈ ctx.candidates stageId loop.completedStages) := by
  unfold goOn
  split
  · rename_i hnone
    exact .inl ⟨hnone, rfl⟩
  · rename_i next hone
    exact .inr ⟨next, rfl, fun _ => hone ▸ mem_singleton_self next⟩
  · rename_i hnone _
    obtain ⟨next, hnext, hmem⟩ := selectNextStage_spec select hnone
    exact .inr ⟨next, by rw [hnext], hmem⟩

/-! ## The invariant -/

/-- What holds of a loop between its turns. -/
structure Sound (ctx : Orchestrator) (initial : List String) (loop : GraphLoop) : Prop where
  counted : loop.executed.length ≤ loop.steps
  bounded : loop.steps ≤ ctx.maxSteps
  completed : loop.status = .running → ∀ stageId,
    stageId ∈ loop.completedStages ↔ stageId ∈ initial ∨ CompletedIn loop.executed stageId
  answered : loop.status = .running → Answered ctx initial loop.executed loop.currentStage
  finished : loop.status = .finalized .completed → loop.outOfSteps = false →
    Answered ctx initial loop.executed none

/-- A loop without a stage to go on with has none left behind the last one. -/
structure Closed (ctx : Orchestrator) (initial : List String) (loop : GraphLoop) : Prop where
  idle : loop.status = .running → loop.currentStage = none → LastClosed ctx initial loop.executed
  finished : loop.status = .finalized .completed → loop.outOfSteps = false →
    LastClosed ctx initial loop.executed

def Stepped (loop after : GraphLoop) : Prop :=
  after.status = .running → loop.status = .running ∧ after.steps = loop.steps + 1

def Fresh (loop : GraphLoop) : Prop :=
  loop.status = .running → ∀ stageId ∈ loop.currentStage, stageId ∉ loop.completedStages

/-- The loop after a stage that completed. -/
def completing (loop : GraphLoop) (run : StageRun) : GraphLoop :=
  { loop with
    steps := loop.steps + 1
    executed := loop.executed ++ [run]
    completedStages := loop.completedStages ++ [run.stageId] }

section Turns

variable {loop : GraphLoop} {stageId : String}

theorem mem_completing_iff {run : StageRun} (hok : run.fate.ok = true)
    (h : Sound ctx initial loop) (hrunning : loop.status = .running) (other : String) :
    other ∈ (completing loop run).completedStages ↔
      other ∈ initial ∨ CompletedIn (completing loop run).executed other := by
  unfold completing
  dsimp only
  rw [mem_append, h.completed hrunning, completedIn_append, mem_singleton, or_assoc]
  simp only [hok, and_true, eq_comm]

theorem lastClosed_completing {run : StageRun} (hok : run.fate.ok = true)
    (h : Sound ctx initial loop) (hrunning : loop.status = .running)
    (hnone : ctx.candidates run.stageId (completing loop run).completedStages = []) :
    LastClosed ctx initial (completing loop run).executed := by
  intro last hlast next hnext
  have hrun : run = last := by
    change last ∈ (loop.executed ++ [run]).getLast? at hlast
    rwa [getLast?_concat, Option.mem_some_iff] at hlast
  subst hrun
  rw [← mem_completing_iff hok h hrunning]
  unfold candidates at hnone
  rw [filter_eq_nil_iff] at hnone
  by_contra hopen
  exact hnone next hnext (decide_eq_true hopen)

theorem sound_goOn (run : StageRun) (select : List String → Option String)
    (hok : run.fate.ok = true) (h : Sound ctx initial loop)
    (hrunning : loop.status = .running) (hcurrent : loop.currentStage = some run.stageId)
    (hsteps : loop.steps < ctx.maxSteps) :
    Sound ctx initial (ctx.goOn select (completing loop run) run.stageId) ∧
      Closed ctx initial (ctx.goOn select (completing loop run) run.stageId) ∧
      Stepped loop (ctx.goOn select (completing loop run) run.stageId) ∧
      (Chooses select → Fresh (ctx.goOn select (completing loop run) run.stageId)) := by
  have hcounted : (completing loop run).executed.length ≤ (completing loop run).steps := by
    have := h.counted
    simp only [completing, length_append, length_singleton]
    omega
  have hsaid : ∀ currentStage,
      Answered ctx initial (completing loop run).executed currentStage := by
    intro currentStage
    refine answered_append ?_ (.inl hok)
    have := h.answered hrunning
    rwa [hcurrent] at this
  rcases goOn_cases ctx select (completing loop run) run.stageId with
    ⟨hnone, hgoes⟩ | ⟨next, hgoes, hnext⟩
  · rw [hgoes]
    refine ⟨⟨hcounted, hsteps, nofun, nofun, fun _ _ => hsaid none⟩,
      ⟨nofun, fun _ _ => lastClosed_completing hok h hrunning hnone⟩, nofun, nofun⟩
  · rw [hgoes]
    refine ⟨⟨hcounted, hsteps, fun _ => mem_completing_iff hok h hrunning,
      fun _ => hsaid (some next), fun hstatus => ?_⟩,
      ⟨nofun, fun hstatus => ?_⟩, fun _ => ⟨hrunning, rfl⟩, ?_⟩
    · have hrun : loop.status = .finalized .completed := hstatus
      rw [hrunning] at hrun
      cases hrun
    · have hrun : loop.status = .finalized .completed := hstatus
      rw [hrunning] at hrun
      cases hrun
    · intro hchooses _ stage hstage
      obtain rfl := Option.some.inj hstage
      have hmem := mem_filter.mp (hnext hchooses)
      exact of_decide_eq_true hmem.2

section

variable (h : Sound ctx initial loop)
include h

theorem sound_left {target : String}
    (hrunning : loop.status = .running) (hcurrent : loop.currentStage = some stageId)
    (hsteps : loop.steps < ctx.maxSteps)
    (hedge : ctx.backtrackFrom stageId loop.completedStages = some target) :
    Sound ctx initial
      { loop with
        steps := loop.steps + 1
        executed := loop.executed ++ [⟨stageId, .backtracked target⟩]
        currentStage := some target } := by
  have hcompleted := h.completed hrunning
  obtain ⟨hget, hopen⟩ := Option.filter_eq_some_iff.mp hedge
  simp only [decide_eq_true_eq] at hopen
  have hnot := hopen.2
  rw [hcompleted, not_or] at hnot
  refine ⟨?_, hsteps, fun _ other => ?_, fun _ => ?_, fun hstatus => ?_⟩
  · have := h.counted
    simp only [length_append, length_singleton]
    omega
  · rw [hcompleted, completedIn_append]
    simp [Fate.ok]
  · refine answered_append ?_ (.inr ⟨target, rfl, hget, rfl, hnot⟩)
    have hsaid := h.answered hrunning
    rwa [hcurrent] at hsaid
  · have hrun : loop.status = .finalized .completed := hstatus
    rw [hrunning] at hrun
    cases hrun

theorem sound_outOfSteps : Sound ctx initial
      { loop with outOfSteps := true, status := .finalized .completed } :=
  ⟨h.counted, h.bounded, nofun, nofun, fun _ hout => nomatch hout⟩

theorem sound_idle (hclosed : Closed ctx initial loop)
    (hrunning : loop.status = .running) (hcurrent : loop.currentStage = none) :
    Sound ctx initial { loop with status := .finalized .completed } ∧
      Closed ctx initial { loop with status := .finalized .completed } := by
  have hsaid := h.answered hrunning
  rw [hcurrent] at hsaid
  exact ⟨⟨h.counted, h.bounded, nofun, nofun, fun _ _ => hsaid⟩,
    ⟨nofun, fun _ _ => hclosed.idle hrunning hcurrent⟩⟩

theorem sound_stopped {fate : Fate} {status : Status}
    (hsteps : loop.steps < ctx.maxSteps) (hrunning : status ≠ .running)
    (hcompleted : status ≠ .finalized .completed) :
    Sound ctx initial
      { loop with
        steps := loop.steps + 1
        executed := loop.executed ++ [⟨stageId, fate⟩]
        status := status } := by
  refine ⟨?_, hsteps, fun hstatus => absurd hstatus hrunning,
    fun hstatus => absurd hstatus hrunning, fun hstatus => absurd hstatus hcompleted⟩
  have := h.counted
  simp only [length_append, length_singleton]
  omega

end

theorem sound_runGraph {turn : Turn} (hhook : ∀ stageId, (turn stageId).hook = .other)
    (h : Sound ctx initial loop) (hclosed : Closed ctx initial loop) :
    Sound ctx initial (ctx.runGraph loop turn) ∧ Closed ctx initial (ctx.runGraph loop turn) ∧
      Stepped loop (ctx.runGraph loop turn) := by
  unfold runGraph
  split
  · rename_i hrunning
    split
    · rename_i hcurrent
      obtain ⟨hsound, hclosed⟩ := sound_idle h hclosed hrunning hcurrent
      exact ⟨hsound, hclosed, nofun⟩
    · rename_i stageId hcurrent
      split
      · rename_i hsteps
        have hran := executed_executeIn ctx stops_ofRaise (turn stageId) loop
          stageId
        cases hresult : ctx.executeIn Status.ofRaise (turn stageId) loop stageId with
        | mk after done =>
          rw [hresult] at hran
          cases hran with
          | finished fate hok =>
            have hnext := sound_goOn ⟨stageId, fate⟩ (turn stageId).select hok h
              hrunning hcurrent hsteps
            unfold consultGraph
            rw [hhook]
            exact ⟨hnext.1, hnext.2.1, hnext.2.2.1⟩
          | left target hedge =>
            refine ⟨sound_left h hrunning hcurrent hsteps hedge,
              ⟨fun _ => nofun, fun hstatus => ?_⟩, fun _ => ⟨hrunning, rfl⟩⟩
            have hrun : loop.status = .finalized .completed := hstatus
            rw [hrunning] at hrun
            cases hrun
          | stopped fate status hstop hcompleted =>
            exact ⟨sound_stopped h hsteps hstop hcompleted, ⟨fun hstatus => absurd hstatus hstop,
                fun hstatus => absurd hstatus hcompleted⟩,
              fun hstatus => absurd hstatus hstop⟩
      · exact ⟨sound_outOfSteps h, ⟨nofun, fun _ hout => nomatch hout⟩, nofun⟩
  · rename_i hstatus
    exact ⟨h, hclosed, fun hrunning => absurd hrunning (hstatus ·)⟩

theorem answered_skip (h : Sound ctx initial loop) (hrunning : loop.status = .running)
    (hcurrent : loop.currentStage = some stageId) (hdone : stageId ∈ loop.completedStages) :
    Answered ctx initial loop.executed none := by
  have hsaid := h.answered hrunning
  rw [hcurrent] at hsaid
  rw [h.completed hrunning] at hdone
  intro front run back hsplit
  rcases hsaid front run back hsplit with hok | ⟨target, hfate, hget, hnext, hopen⟩
  · exact .inl hok
  · cases back with
    | cons other back => exact .inr ⟨target, hfate, hget, hnext, hopen⟩
    | nil =>
      obtain rfl := Option.some.inj hnext
      rcases hdone with hinitial | hcompleted
      · exact absurd hinitial hopen.1
      · rw [hsplit, completedIn_append, hfate] at hcompleted
        rcases hcompleted with hfront | ⟨_, hok⟩
        · exact absurd hfront hopen.2
        · cases hok

theorem sound_continueGraph (turn : Turn) (h : Sound ctx initial loop) :
    Sound ctx initial (ctx.continueGraph loop turn) ∧ Stepped loop (ctx.continueGraph loop turn) ∧
      ((∀ stageId, Chooses (turn stageId).select) → Fresh loop → Closed ctx initial loop →
        Fresh (ctx.continueGraph loop turn) ∧
          Closed ctx initial (ctx.continueGraph loop turn)) := by
  unfold continueGraph
  split
  · rename_i hrunning
    split
    · rename_i hcurrent
      have hsaid := h.answered hrunning
      rw [hcurrent] at hsaid
      refine ⟨⟨h.counted, h.bounded, nofun, nofun, fun _ _ => hsaid⟩, nofun,
        fun _ _ hclosed => ⟨nofun, ?_⟩⟩
      exact ⟨nofun, fun _ _ => hclosed.idle hrunning hcurrent⟩
    · rename_i stageId hcurrent
      split
      · rename_i hsteps
        split
        · rename_i hdone
          have hsaid := answered_skip h hrunning hcurrent hdone
          refine ⟨⟨Nat.le_succ_of_le h.counted, hsteps, fun _ => h.completed hrunning,
            fun _ => answered_of_none _ hsaid, fun hstatus => ?_⟩,
            fun _ => ⟨hrunning, rfl⟩, fun _ hfresh => ?_⟩
          · have hrun : loop.status = .finalized .completed := hstatus
            rw [hrunning] at hrun
            cases hrun
          · exact absurd hdone (hfresh hrunning stageId hcurrent)
        · have hran := executed_executeIn ctx stops_gateStatus (turn stageId) loop
            stageId
          cases hresult : ctx.executeIn gateStatus (turn stageId) loop stageId with
          | mk after done =>
            rw [hresult] at hran
            cases hran with
            | finished fate hok =>
              obtain ⟨hsound, hclosed, hstepped, hfresh⟩ := sound_goOn
                ⟨stageId, fate⟩ (turn stageId).select hok h hrunning hcurrent hsteps
              exact ⟨hsound, hstepped, fun hchooses _ _ =>
                ⟨hfresh (hchooses stageId), hclosed⟩⟩
            | left target hedge =>
              refine ⟨sound_left h hrunning hcurrent hsteps hedge,
                fun _ => ⟨hrunning, rfl⟩, fun _ _ _ => ⟨?_, fun _ => nofun, ?_⟩⟩
              · intro _ other hother
                obtain rfl := Option.some.inj hother
                obtain ⟨_, hopen⟩ := Option.filter_eq_some_iff.mp hedge
                exact (of_decide_eq_true hopen).2
              · intro hstatus
                have hrun : loop.status = .finalized .completed := hstatus
                rw [hrunning] at hrun
                cases hrun
            | stopped fate status hstop hcompleted =>
              exact ⟨sound_stopped h hsteps hstop hcompleted,
                fun hstatus => absurd hstatus hstop, fun _ _ _ =>
                ⟨fun hstatus => absurd hstatus hstop, fun hstatus => absurd hstatus hstop,
                  fun hstatus => absurd hstatus hcompleted⟩⟩
      · exact ⟨sound_outOfSteps h, nofun, fun _ _ _ =>
          ⟨nofun, nofun, fun _ hout => nomatch hout⟩⟩
  · rename_i hstatus
    exact ⟨h, fun hrunning => absurd hrunning (hstatus ·), fun _ hfresh hclosed =>
      ⟨hfresh, hclosed⟩⟩

end Turns

/-! ## Whole runs -/

theorem steps_exec {step : GraphLoop → Turn → GraphLoop} (Inv : GraphLoop → Prop)
    (Guard : Turn → Prop) (keeps : ∀ loop turn, Inv loop → Guard turn →
      Inv (step loop turn) ∧ Stepped loop (step loop turn))
    {loop : GraphLoop} (h : Inv loop) {turns : List Turn} (hguard : ∀ turn ∈ turns, Guard turn) :
    Inv (exec step loop turns) ∧
      ((exec step loop turns).status = .running → loop.status = .running ∧
        (exec step loop turns).steps = loop.steps + turns.length) := by
  induction turns generalizing loop with
  | nil => exact ⟨h, fun hrunning => ⟨hrunning, rfl⟩⟩
  | cons turn rest ih =>
    obtain ⟨hinv, hstepped⟩ := keeps loop turn h (hguard turn mem_cons_self)
    obtain ⟨hend, hrest⟩ := ih hinv
      fun other hother => hguard other (mem_cons_of_mem turn hother)
    refine ⟨hend, fun hrunning => ?_⟩
    obtain ⟨hnext, hcount⟩ := hrest hrunning
    obtain ⟨hloop, hone⟩ := hstepped hnext
    refine ⟨hloop, ?_⟩
    rw [exec_cons, hcount, hone, length_cons]
    omega

/-- A loop that executes no more stages than its bound, is over after as many turns,
and when it completes without having used up its steps has answered every failure. -/
structure Finishes (ctx : Orchestrator) (initial : List String) (turns : List Turn)
    (loop : GraphLoop) : Prop where
  executions : loop.executed.length ≤ ctx.maxSteps
  ends : ctx.maxSteps < turns.length → loop.status ≠ .running
  answered : loop.status = .finalized .completed → loop.outOfSteps = false →
    Answered ctx initial loop.executed none

theorem finishes_of_sound {turns : List Turn} {loop : GraphLoop} (h : Sound ctx initial loop)
    (hsteps : loop.status = .running → loop.steps = turns.length) :
    Finishes ctx initial turns loop where
  executions := Nat.le_trans h.counted h.bounded
  ends hlong hrunning := by
    have hcount := hsteps hrunning
    have hbound := h.bounded
    omega
  answered := h.finished

theorem answered_nil (currentStage : Option String) : Answered ctx initial [] currentStage := by
  intro front run back hsplit
  exact absurd hsplit (by simp)

theorem lastClosed_nil : LastClosed ctx initial [] := nofun

theorem sound_startGraph : Sound ctx [] ctx.startGraph where
  counted := Nat.le_refl _
  bounded := Nat.zero_le _
  completed _ stageId := by simp [startGraph, CompletedIn]
  answered _ := answered_nil _
  finished := nofun

section Continue

variable {decision : String} {lastStage currentStage : Option String}
variable {completed : List String} {select : List String → Option String}

theorem sound_startContinue : Sound ctx completed
      (ctx.startContinue decision lastStage currentStage completed select) where
  counted := Nat.le_refl _
  bounded := Nat.zero_le _
  completed _ stageId := by simp [startContinue, CompletedIn]
  answered _ := answered_nil _
  finished _ _ := answered_nil _

theorem fresh_startContinue (hchooses : Chooses select) :
    Fresh (ctx.startContinue decision lastStage currentStage completed select) := by
  intro _ stageId hstage
  change stageId ∈ ctx.firstStage select _ completed at hstage
  unfold firstStage at hstage
  split at hstage
  · cases hstage
  · rename_i start _
    split at hstage
    · unfold selectAny at hstage
      split at hstage
      · cases hstage
      · rename_i hsome
        obtain ⟨next, hnext, hmem⟩ := selectNextStage_spec select hsome
        rw [hnext, Option.mem_some_iff] at hstage
        subst hstage
        exact of_decide_eq_true (mem_filter.mp (hmem hchooses)).2
    · rename_i hopen
      rw [Option.mem_some_iff] at hstage
      exact hstage ▸ hopen

end Continue

/-- The loops over the graph end, and a run that completes within its steps has
answered every failure and left no successor of its last stage open. -/
theorem graph_finishes (ctx : Orchestrator) :
    (∀ turns : List Turn, (∀ turn ∈ turns, ∀ stageId, (turn stageId).hook = .other) →
      Finishes ctx [] turns (exec ctx.runGraph ctx.startGraph turns) ∧
      ((exec ctx.runGraph ctx.startGraph turns).status = .finalized .completed →
        (exec ctx.runGraph ctx.startGraph turns).outOfSteps = false →
        LastClosed ctx [] (exec ctx.runGraph ctx.startGraph turns).executed)) ∧
    ∀ (decision : String) (lastStage currentStage : Option String)
      (completed : List String) (select : List String → Option String) (turns : List Turn),
      let loop := exec ctx.continueGraph
        (ctx.startContinue decision lastStage currentStage completed select) turns
      Finishes ctx completed turns loop ∧
      (Chooses select → (∀ turn ∈ turns, ∀ stageId, Chooses (turn stageId).select) →
        loop.status = .finalized .completed → loop.outOfSteps = false →
        LastClosed ctx completed loop.executed) := by
  constructor
  · intro turns hhook
    have hstart : Sound ctx [] ctx.startGraph ∧ Closed ctx [] ctx.startGraph :=
      ⟨sound_startGraph, fun _ _ => lastClosed_nil, nofun⟩
    obtain ⟨⟨hsound, hclosed⟩, hsteps⟩ := steps_exec
      (fun loop => Sound ctx [] loop ∧ Closed ctx [] loop)
      (fun turn => ∀ stageId, (turn stageId).hook = .other)
      (fun loop turn h hguard => by
        obtain ⟨hsound, hclosed, hstepped⟩ := sound_runGraph hguard h.1 h.2
        exact ⟨⟨hsound, hclosed⟩, hstepped⟩)
      hstart hhook
    refine ⟨finishes_of_sound hsound fun hrunning => ?_, hclosed.finished⟩
    rw [(hsteps hrunning).2]
    exact Nat.zero_add _
  · intro decision lastStage currentStage completed select turns loop
    have hstart : Sound ctx completed
        (ctx.startContinue decision lastStage currentStage completed select) :=
      sound_startContinue
    obtain ⟨hsound, hsteps⟩ := steps_exec (Sound ctx completed) (fun _ => True)
      (fun loop turn h _ => by
        obtain ⟨hsound, hstepped, _⟩ := sound_continueGraph turn h
        exact ⟨hsound, hstepped⟩)
      hstart fun turn (_ : turn ∈ turns) => trivial
    refine ⟨finishes_of_sound hsound fun hrunning => ?_, fun hselect hchooses => ?_⟩
    · rw [(hsteps hrunning).2]
      exact Nat.zero_add _
    · have hclosed : Closed ctx completed
          (ctx.startContinue decision lastStage currentStage completed select) :=
        ⟨fun _ _ => lastClosed_nil, fun _ _ => lastClosed_nil⟩
      obtain ⟨⟨_, _, hclosed⟩, _⟩ := steps_exec
        (fun loop => Sound ctx completed loop ∧ Fresh loop ∧ Closed ctx completed loop)
        (fun turn => ∀ stageId, Chooses (turn stageId).select)
        (fun loop turn h hguard => by
          obtain ⟨hsound, hstepped, hrest⟩ := sound_continueGraph turn h.1
          exact ⟨⟨hsound, hrest hguard h.2.1 h.2.2⟩, hstepped⟩)
        ⟨hstart, fresh_startContinue hselect, hclosed⟩ hchooses
      exact hclosed.finished

/-- Two ways to the last stage, and an edge from the first of them to the second. -/
def twoWays : Orchestrator where
  stageGraph :=
    { transitions := [("A", ["B"]), ("B", ["C"]), ("C", []), ("D", ["C"])]
      backtrackEdges := [("B", "D")] }
  hiAgentPosture := some "dev"
  repr := fun text => "'" ++ text ++ "'"

/-- Every stage passes but `B`. -/
def failingB : Turn := fun stageId =>
  { result := .ok (if stageId = "B" then .failed else .passed)
    handled := .ok .failed
    hook := .other
    select := fun _ => none }

theorem graph_finishes_twoWays : Finishes twoWays [] (List.replicate 4 failingB)
      (exec twoWays.runGraph twoWays.startGraph (List.replicate 4 failingB)) ∧
    LastClosed twoWays []
      (exec twoWays.runGraph twoWays.startGraph (List.replicate 4 failingB)).executed := by
  have hhook : ∀ turn ∈ List.replicate 4 failingB, ∀ stageId, (turn stageId).hook = .other := by
    intro turn hturn stageId
    rw [eq_of_mem_replicate hturn]
    rfl
  obtain ⟨hends, hclosed⟩ := (graph_finishes twoWays).1 _ hhook
  exact ⟨hends, hclosed (by decide) (by decide)⟩

/-- A stage that failed and was left for the target of its backtrack edge is not
executed again when the target leads on without it, and the run completes. -/
theorem not_last_run_ok : ¬ ∀ (ctx : Orchestrator) (turns : List Turn),
      (∀ turn ∈ turns, ∀ stageId, (turn stageId).hook = .other) →
      (exec ctx.runGraph ctx.startGraph turns).status = .finalized .completed →
      ∀ stageId, ∀ run ∈ ((exec ctx.runGraph ctx.startGraph turns).executed.filter
        (·.stageId = stageId)).getLast?, run.fate.ok = true := by
  intro h
  have hhook : ∀ turn ∈ List.replicate 4 failingB, ∀ stageId, (turn stageId).hook = .other := by
    intro turn hturn stageId
    rw [eq_of_mem_replicate hturn]
    rfl
  have hrun := h twoWays (List.replicate 4 failingB) hhook (by decide) "B"
    ⟨"B", .backtracked "D"⟩ (by decide)
  exact absurd hrun (by decide)

end HiAgent.Execution.Orchestrator
