/-
  Kernel/RecoveryGate/Unhandled.lean --- compensations for which no handler is registered.

  `decide` looks a class up in the registry that it has read from the reason code, and looks
  nothing up where the reason code names none.
-/
import HiAgent.Kernel.RecoveryGate

namespace HiAgent.Kernel

open Foundation List

def DecideAnswer.decision : DecideAnswer → Option GateDecision
  | rejected decision | settled decision | reflected decision => some decision
  | raised _ | cancelled | suspended => none

def GateEvent.position : GateEvent → Option Nat
  | compensated call _ _ _ | reasoned call _ => some call
  | decide .. | onActionSuccess _ => none

namespace PlannedRecoveryGateService

variable (gate : PlannedRecoveryGateService)

def Later (later : PlannedRecoveryGateService) : Prop :=
  later = { gate with
    failureCounts := later.failureCounts, circuits := later.circuits, calls := later.calls }

variable (input : RecoveryInput) (clock : DecideClock)

/-- A call of `decide`, where it is suspended for the first or for the second time. -/
inductive Suspended : DecideCall → Prop
  | first (preparation : Preparation) (call : DecideCall)
      (hanswer : (gate.startDecide input clock preparation).1 = .suspended)
      (hcalls : (gate.startDecide input clock preparation).2.calls = gate.calls ++ [call]) :
      Suspended call
  | again (call next : DecideCall) (later : PlannedRecoveryGateService) (event : GateEvent)
      (position : Nat) (hcall : Suspended call) (hlater : gate.Later later)
      (hpoint : event.position = some position)
      (hwaits : later.calls[position]? = some call)
      (hanswer : (later.step event).1 = some .suspended)
      (hcalls : (later.step event).2.calls =
        Roster.advance later.calls position none ++ [next]) : Suspended next

/-- What a call of `decide` returns, at once or after its awaits. -/
inductive Returns : GateDecision → Prop
  | atOnce (preparation : Preparation) (decision : GateDecision)
      (hanswer : (gate.startDecide input clock preparation).1.decision = some decision) :
      Returns decision
  | later (call : DecideCall) (later : PlannedRecoveryGateService) (event : GateEvent)
      (position : Nat) (decision : GateDecision) (hcall : gate.Suspended input clock call)
      (hlater : gate.Later later) (hpoint : event.position = some position)
      (hwaits : later.calls[position]? = some call)
      (hanswer : (later.step event).1.bind DecideAnswer.decision = some decision) :
      Returns decision

def CompensatesHandled : Prop :=
  ∀ hasHandler effectClass, gate.compensationRegistry = some hasHandler →
    input.failedEffectClass = some effectClass → hasHandler effectClass = false →
    ∀ decision, gate.Returns input clock decision → decision.mode ≠ .staticCompensation

def PlansCompensation : Prop :=
  ∃ plan, gate.planner input = .ok plan ∧
    gate.modeRegistry.lookup plan.action = some .staticCompensation

def NamesUnhandled : Prop :=
  ∃ hasHandler named, gate.compensationRegistry = some hasHandler ∧
    extractEffectClass gate.lower input = some named ∧ hasHandler named = false

/-- The call is rejected, plans no compensation, gives it up or reflects instead. -/
def Averted : Prop :=
  gate.isCircuitOpen input.failedEffectClass clock.checked = true ∨
    ¬ gate.PlansCompensation input ∨ gate.NamesUnhandled input ∨
    gate.shouldReflect input .staticCompensation = true

def Harmless (mode : RecoveryMode) : Prop :=
  mode = .staticCompensation → gate.shouldReflect input .staticCompensation = true

variable {gate input clock} {later : PlannedRecoveryGateService} {call : DecideCall} {now : Int}
  {preparation : Preparation}

theorem reflectedDecision_mode_ne (gate : PlannedRecoveryGateService) (call : DecideCall)
    (outcome : ReasoningOutcome) :
    (gate.reflectedDecision call outcome).mode ≠ .staticCompensation := by
  rw [reflectedDecision.eq_def]
  dsimp only
  split
  · simp
  · by_cases hescalates : gate.reflectionPolicy.any ReflectionPolicy.escalateOnExhaustion = true
    · simp [hescalates]
    · simp [hescalates]

theorem goOn_harmless (call : DecideCall) (now : Int) (preparation : Preparation)
    (hlater : gate.Later later) (hsafe : gate.Harmless call.input call.draft.mode) :
    (∀ decision, (later.goOn call now preparation).1.decision = some decision →
      decision.mode ≠ .staticCompensation) ∧ ((later.goOn call now preparation).1 = .suspended →
      (later.goOn call now preparation).2.calls =
        later.calls ++ [{ call with point := .reasoning }]) := by
  have hsame : later.shouldReflect = gate.shouldReflect := by
    rw [hlater]
    rfl
  rw [goOn, hsame]
  split
  · rw [reflect]
    split
    · simp [DecideAnswer.decision]
    · split
      · split
        · simp [DecideAnswer.decision]
        · simp [DecideAnswer.decision, suspend]
      · simp [DecideAnswer.decision]
  · rename_i hplain
    refine ⟨fun decision hruled hmode => ?_, fun hpaused => by cases hpaused⟩
    obtain rfl := Option.some.inj hruled
    have hstatic : call.draft.mode = .staticCompensation := hmode
    exact hplain (hstatic ▸ hsafe hstatic)

theorem Averted.draft_harmless (h : gate.Averted input clock)
    (hclosed : gate.isCircuitOpen input.failedEffectClass clock.checked = false)
    {drafted : Draft × Bool} (hdraft : gate.draft input = .ok drafted) :
    gate.Harmless input drafted.1.mode := by
  intro hstatic
  rw [draft] at hdraft
  split at hdraft
  · cases hdraft
  · rename_i plan hplan
    split at hdraft
    · cases hdraft
    · rename_i mode hmode
      rcases h with hopen | hplans | ⟨hasHandler, named, hregistry, hnamed, hnone⟩ | hmirror
      · rw [hclosed] at hopen
        cases hopen
      · have hmodeStatic : mode = .staticCompensation := by
          dsimp only at hdraft
          split at hdraft
          · split at hdraft
            · obtain rfl := Except.ok.inj hdraft
              exact hstatic
            · split at hdraft
              · obtain rfl := Except.ok.inj hdraft
                exact hstatic
              · obtain rfl := Except.ok.inj hdraft
                cases hstatic
          · obtain rfl := Except.ok.inj hdraft
            exact hstatic
        exact absurd ⟨plan, hplan, hmodeStatic ▸ hmode⟩ hplans
      · simp only [hregistry, hnamed, hnone] at hdraft
        split at hdraft
        · rename_i hother
          obtain rfl := Except.ok.inj hdraft
          exact absurd hstatic hother
        · obtain rfl := Except.ok.inj hdraft
          cases hstatic
      · exact hmirror

theorem Averted.start (h : gate.Averted input clock) (preparation : Preparation) :
    (∀ decision, (gate.startDecide input clock preparation).1.decision = some decision →
      decision.mode ≠ .staticCompensation) ∧
    ∀ call, (gate.startDecide input clock preparation).1 = .suspended →
      (gate.startDecide input clock preparation).2.calls = gate.calls ++ [call] →
      call.input = input ∧ gate.Harmless input call.draft.mode := by
  have hcounted : gate.Later (gate.countFailure input.runId) := rfl
  have hopen : (gate.countFailure input.runId).isCircuitOpen = gate.isCircuitOpen := rfl
  have hdrafts : (gate.countFailure input.runId).draft = gate.draft := rfl
  rw [startDecide, hopen, hdrafts]
  dsimp only
  split
  · simp [DecideAnswer.decision]
  · rename_i hclosed
    split
    · simp [DecideAnswer.decision]
    · rename_i draft executes hdraft
      have hsafe := h.draft_harmless (Bool.eq_false_iff.mpr hclosed) hdraft
      split
      · refine ⟨by simp [suspend, DecideAnswer.decision], fun call _ hcalls => ?_⟩
        obtain rfl := singleton_inj.mp (append_cancel_left hcalls)
        exact ⟨rfl, hsafe⟩
      · obtain ⟨hanswer, hlast⟩ := goOn_harmless
          ⟨input, draft, gate.failureCounts.getD input.runId 0 + 1, .compensating,
            (gate.countFailure input.runId).tripped input.failedEffectClass⟩
          clock.recorded preparation hcounted hsafe
        refine ⟨hanswer, fun call hpaused hcalls => ?_⟩
        obtain rfl := singleton_inj.mp
          (append_cancel_left ((hlast hpaused).symm.trans hcalls))
        exact ⟨rfl, hsafe⟩

theorem step_harmless (hlater : gate.Later later) {event : GateEvent} {position : Nat}
    (hpoint : event.position = some position) (hwaits : later.calls[position]? = some call)
    (hsafe : gate.Harmless call.input call.draft.mode) :
    (∀ decision, (later.step event).1.bind DecideAnswer.decision = some decision →
      decision.mode ≠ .staticCompensation) ∧ ∀ next, (later.step event).1 = some .suspended →
      (later.step event).2.calls = Roster.advance later.calls position none ++ [next] →
      next.input = call.input ∧ gate.Harmless call.input next.draft.mode := by
  cases event with
  | reasoned index outcome =>
    obtain rfl := Option.some.inj hpoint
    rw [step]
    split
    · simp
    · split
      · simp [DecideAnswer.decision]
      · refine ⟨fun decision hruled => ?_, by simp⟩
        obtain rfl := Option.some.inj hruled
        exact later.reflectedDecision_mode_ne _ _
  | compensated index outcome now preparation =>
    obtain rfl := Option.some.inj hpoint
    rw [step]
    split
    · simp
    · rename_i waiting hcallAt
      obtain rfl : call = waiting := by
        rw [callAt, hwaits] at hcallAt
        exact (Option.filter_eq_some_iff.mp hcallAt).1 |> Option.some.inj
      split
      · simp [DecideAnswer.decision]
      · have hresumed : gate.Later (later.resumeCall index) := by
          rw [Later, resumeCall, hlater]
        have hafter : gate.Harmless call.input (call.draft.compensated outcome).mode := by
          cases outcome with
          | raised => simp [Harmless, Draft.compensated]
          | _ => exact hsafe
        obtain ⟨hanswer, hlast⟩ := goOn_harmless
          { call with draft := call.draft.compensated outcome } now preparation hresumed hafter
        refine ⟨fun decision hruled => hanswer decision hruled, fun next hnext hcalls => ?_⟩
        obtain rfl := singleton_inj.mp
          (append_cancel_left ((hlast (Option.some.inj hnext)).symm.trans hcalls))
        exact ⟨rfl, hafter⟩
  | _ => cases hpoint

theorem Averted.suspended (h : gate.Averted input clock) (hcall : gate.Suspended input clock call) :
    call.input = input ∧ gate.Harmless input call.draft.mode := by
  induction hcall with
  | first preparation call hanswer hcalls => exact (h.start preparation).2 call hanswer hcalls
  | again call next later event position _ hlater hpoint hwaits hanswer hcalls ih =>
    obtain ⟨rfl, hsafe⟩ := ih
    exact (step_harmless hlater hpoint hwaits hsafe).2 next hanswer hcalls

theorem Averted.returns (h : gate.Averted input clock) {decision : GateDecision}
    (hreturns : gate.Returns input clock decision) : decision.mode ≠ .staticCompensation := by
  cases hreturns with
  | atOnce preparation _ hanswer => exact (h.start preparation).1 decision hanswer
  | later call later event position _ hcall hlater hpoint hwaits hanswer =>
    obtain ⟨rfl, hsafe⟩ := h.suspended hcall
    exact (step_harmless hlater hpoint hwaits hsafe).1 decision hanswer

theorem returns_of_not_averted (h : ¬ gate.Averted input clock) :
    ∃ decision, gate.Returns input clock decision ∧ decision.mode = .staticCompensation := by
  simp only [Averted, not_or, not_not] at h
  obtain ⟨hclosed, ⟨plan, hplan, hmode⟩, hnamed, hplain⟩ := h
  obtain ⟨executes, hdraft⟩ : ∃ executes, gate.draft input = .ok (⟨plan, .staticCompensation,
      plan.reason, plan.compensationActionId, plan.escalationChannelRef⟩, executes) := by
    simp only [draft, hplan, hmode]
    split
    · rename_i hasHandler effectClass hregistry hclass
      have hhandled : hasHandler effectClass = true := by
        by_contra hnone
        exact hnamed ⟨hasHandler, effectClass, hregistry, hclass, Bool.eq_false_iff.mpr hnone⟩
      exact ⟨input.failingAction.isSome, by simp [hhandled]⟩
    · exact ⟨false, rfl⟩
  set drafted : Draft := ⟨plan, .staticCompensation, plan.reason, plan.compensationActionId,
    plan.escalationChannelRef⟩
  set started : DecideCall := ⟨input, drafted, gate.failureCounts.getD input.runId 0 + 1,
    .compensating, gate.tripped input.failedEffectClass⟩
  have hstart : gate.startDecide input clock prepared =
      if executes = true then (gate.countFailure input.runId).suspend started .compensating
      else (gate.countFailure input.runId).goOn started clock.recorded prepared := by
    have hopen : (gate.countFailure input.runId).isCircuitOpen = gate.isCircuitOpen := rfl
    have hdrafts : (gate.countFailure input.runId).draft = gate.draft := rfl
    rw [startDecide, hopen, hdrafts]
    simp only [hclosed, hdraft]
    rfl
  have hsettles (later : PlannedRecoveryGateService) (hlater : gate.Later later) (now : Int) :
      (later.goOn started now prepared).1 = .settled (plannedDecision started) := by
    have hsame : later.shouldReflect = gate.shouldReflect := by
      rw [hlater]
      rfl
    rw [goOn, hsame, if_neg hplain]
  cases executes with
  | false =>
    refine ⟨plannedDecision started, .atOnce prepared _ ?_, rfl⟩
    rw [hstart, if_neg Bool.false_ne_true, hsettles (gate.countFailure input.runId) rfl]
    rfl
  | true =>
    rw [if_pos rfl] at hstart
    have hlast : (gate.startDecide input clock prepared).2.calls = gate.calls ++ [started] := by
      rw [hstart]
      rfl
    have hwaits : (gate.startDecide input clock prepared).2.calls[gate.calls.length]? =
        some started := by
      rw [hlast]
      simp
    refine ⟨plannedDecision started, .later started (gate.startDecide input clock prepared).2
      (.compensated gate.calls.length .returned clock.recorded prepared) gate.calls.length _
      (.first prepared started ?_ hlast) ?_ rfl hwaits ?_, rfl⟩
    · rw [hstart]
      rfl
    · rw [hstart]
      rfl
    · have hcallAt : (gate.startDecide input clock prepared).2.callAt gate.calls.length
          .compensating = some started := by
        rw [callAt, hwaits]
        simp [started]
      rw [step, hcallAt]
      have hgoes := hsettles ((gate.startDecide input clock prepared).2.resumeCall
        gate.calls.length) (by rw [hstart]; rfl) clock.recorded
      exact congrArg DecideAnswer.decision hgoes

/-- No decision to compensate is returned for a class without a handler exactly where the
circuit of the class is open, no compensation is planned, the reason code names a class
without a handler, or the gate reflects instead. -/
theorem compensatesHandled_iff (gate : PlannedRecoveryGateService) (input : RecoveryInput)
    (clock : DecideClock) : gate.CompensatesHandled input clock ↔
      ∀ hasHandler effectClass, gate.compensationRegistry = some hasHandler →
        input.failedEffectClass = some effectClass → hasHandler effectClass = false →
        gate.Averted input clock := by
  constructor
  · intro h hasHandler effectClass hregistry hclass hnone
    by_contra hnot
    obtain ⟨decision, hreturns, hmode⟩ := returns_of_not_averted hnot
    exact h hasHandler effectClass hregistry hclass hnone decision hreturns hmode
  · intro h hasHandler effectClass hregistry hclass hnone decision hreturns
    exact (h hasHandler effectClass hregistry hclass hnone).returns hreturns

/-- A write has failed for which nothing is registered, and the reason code has no colon. -/
def unhandledWrite : RecoveryInput where
  runId := "r-1"
  reasonCode := "runtime_error"
  lifecycleState := .recovering
  projection := defaultProjection "r-1"
  failedActionId := some "a-1"
  reflectionRound := 0
  failedEffectClass := some "irreversible_write"
  failingAction := none

/-- A gate with the planner of the kernel and one handler. -/
def oneHandler : PlannedRecoveryGateService where
  lower := .ascii
  planner := buildPlanFromInput .ascii {}
  modeRegistry := builtinMappings
  compensationRegistry := some fun effectClass => decide (effectClass = "idempotent_write")
  reflectionPolicy := none
  hasReasoningLoop := false
  hasReflectionBuilder := false
  hasInferenceConfig := false
  circuitBreakerPolicy := none
  failureCounts := Dict.empty
  circuits := .inMemory Dict.empty Dict.empty
  calls := []

theorem not_compensatesHandled_unhandledWrite :
    ¬ ∀ (gate : PlannedRecoveryGateService) (input : RecoveryInput) (clock : DecideClock),
      gate.CompensatesHandled input clock := by
  intro h
  have hnone := h oneHandler unhandledWrite ⟨0, 1⟩ _ "irreversible_write" rfl rfl (by decide)
  have hmode : (oneHandler.startDecide unhandledWrite ⟨0, 1⟩ prepared).1.decision.map
      (fun decision => decision.mode) = some .staticCompensation := by decide
  obtain ⟨decision, hruled, hstatic⟩ := Option.map_eq_some_iff.mp hmode
  exact hnone decision (.atOnce prepared decision hruled) hstatic

end PlannedRecoveryGateService

end HiAgent.Kernel
