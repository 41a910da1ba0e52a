/-
  Kernel/RecoveryGate/Breaker.lean --- the law of the circuit breaker.

  Beside the gate runs a tally of each effect class, kept from what the calls answer and nothing
  else: how many decisions were returned since the last success, when the last one was, and how
  many calls a cooled down circuit has let through since.
-/
import HiAgent.Kernel.RecoveryGate

namespace HiAgent.Kernel

open Foundation

/-! ## Tallies -/

/-- A decision is returned that was not rejected as `circuit_open`. -/
def DecideAnswer.returns : DecideAnswer → Bool
  | settled _ => true
  | reflected _ => true
  | _ => false

/-- What is known of an effect class from the answers of the gate. -/
structure Tally where
  /-- The decisions returned since the last success. -/
  count : Nat
  /-- When the last of them was counted. -/
  last : Int
  /-- The calls let through after the cooldown since then. -/
  probes : Nat

/-- The reading of the clock for a decision that is returned: the reasoning loop is
not followed by one. -/
def GateEvent.recordedAt (before : Int) : GateEvent → Int
  | decide _ clock _ => clock.recorded
  | compensated _ _ now _ => now
  | _ => before

namespace PlannedRecoveryGateService

variable (gate : PlannedRecoveryGateService)

/-- The effect class of the call an event is about. -/
def classOf : GateEvent → Option String
  | .decide input _ _ => input.failedEffectClass
  | .compensated index _ _ _ =>
    (gate.callAt index .compensating).bind fun call => call.input.failedEffectClass
  | .reasoned index _ =>
    (gate.callAt index .reasoning).bind fun call => call.input.failedEffectClass
  | .onActionSuccess _ => none

/-- A call is let through by a circuit that had tripped. -/
def passesCooldown : GateEvent → Bool
  | .decide input clock _ =>
    gate.tripped input.failedEffectClass &&
      !gate.isCircuitOpen input.failedEffectClass clock.checked
  | _ => false

def returnsFor (event : GateEvent) (effectClass : String) : Bool :=
  gate.classOf event == some effectClass && (gate.step event).1.any DecideAnswer.returns

def count (effectClass : String) : Nat := (gate.circuits.getState effectClass).1

/-- The tally of a class after an event. -/
def tally (before : Tally) (effectClass : String) (event : GateEvent) : Tally :=
  match event with
  | .onActionSuccess succeeded => if succeeded = effectClass then ⟨0, 0, 0⟩ else before
  | event =>
    if gate.classOf event ≠ some effectClass then before
    else if (gate.step event).1.any DecideAnswer.returns then
      ⟨before.count + 1, event.recordedAt before.last, 0⟩
    else if gate.passesCooldown event then { before with probes := before.probes + 1 }
    else before

end PlannedRecoveryGateService

/-- The gate and the tallies of all effect classes. -/
structure WatchedGate where
  gate : PlannedRecoveryGateService
  tallies : String → Tally

namespace WatchedGate

variable (watched : WatchedGate)

def start (gate : PlannedRecoveryGateService) : WatchedGate where
  gate := gate
  tallies effectClass :=
    ⟨gate.count effectClass, (gate.circuits.getState effectClass).2, 0⟩

def step (event : GateEvent) : WatchedGate where
  gate := (watched.gate.step event).2
  tallies effectClass :=
    watched.gate.tally (watched.tallies effectClass) effectClass event

/-! ## The law -/

/-- What is asked of an event. A returned decision counts once for its class and
nothing else changes a count but a success, and a call that is let through after the
cooldown is the first since the last counted failure or success. -/
structure Lawful (event : GateEvent) : Prop where
  counts : ∀ effectClass, event ≠ .onActionSuccess effectClass →
    (watched.step event).gate.count effectClass = watched.gate.count effectClass +
        if watched.gate.returnsFor event effectClass then 1 else 0
  first : ∀ effectClass, watched.gate.classOf event = some effectClass →
    watched.gate.passesCooldown event = true → (watched.tallies effectClass).probes = 0

/-- The circuit of a class is open exactly when enough decisions were returned since
the last success and the last of them is not long ago. -/
def Opens (policy : CircuitBreakerPolicy) : Prop :=
  ∀ effectClass now, watched.gate.isCircuitOpen (some effectClass) now = true ↔
    policy.threshold ≤ ((watched.tallies effectClass).count : Int) ∧
      now - (watched.tallies effectClass).last < policy.halfOpenAfterMs

def Law (policy : CircuitBreakerPolicy) (events : List GateEvent) : Prop :=
  Along step Lawful watched events ∧ Always step (fun after => after.Opens policy) watched events

end WatchedGate

/-! ## The condition -/

/-- The call waits for its compensation, of a class whose circuit let it through after
the cooldown. -/
def DecideCall.isProbe (effectClass : String) (call : DecideCall) : Bool :=
  call.afterCooldown && call.point == .compensating &&
    call.input.failedEffectClass == some effectClass

namespace PlannedRecoveryGateService

variable (gate : PlannedRecoveryGateService)

/-- The plan is accepted, and is compensated or decided without a reflection. -/
def Proceeds (input : RecoveryInput) : Prop :=
  ∃ draft executes, gate.draft input = .ok (draft, executes) ∧
    (executes = true ∨ gate.shouldReflect input draft.mode = false)

/-- A call that is let through after the cooldown finds no other such call of its class
suspended and goes on to be counted, and no call with a class returns from the
reasoning loop. -/
def Meets : GateEvent → Prop
  | .decide input clock preparation =>
    ∀ effectClass, input.failedEffectClass = some effectClass →
      gate.passesCooldown (.decide input clock preparation) = true →
      (∀ call ∈ gate.calls, call.isProbe effectClass = false) ∧ gate.Proceeds input
  | .compensated index outcome _ _ =>
    ∀ call, gate.callAt index .compensating = some call → call.afterCooldown = true →
      outcome ≠ .cancelled ∧
        gate.shouldReflect call.input (call.draft.compensated outcome).mode = false
  | .reasoned index outcome =>
    ∀ call, gate.callAt index .reasoning = some call →
      call.input.failedEffectClass ≠ none → outcome = .cancelled
  | .onActionSuccess _ => True

/-! ## What an event does -/

def probes (effectClass : String) : Nat := gate.calls.countP (DecideCall.isProbe effectClass)

/-- The event returns a decision and counts it. -/
structure Counted (event : GateEvent) (effectClass : String) : Prop where
  classOf : gate.classOf event = some effectClass
  returns : (gate.step event).1.any DecideAnswer.returns = true
  circuits : ∀ before, (gate.step event).2.circuits =
    gate.circuits.recordFailure (event.recordedAt before) effectClass
  probes : ∀ other, other ≠ effectClass → gate.probes other ≤ (gate.step event).2.probes other

/-- The event returns no decision of a class and counts nothing; a call it lets through
after the cooldown is suspended. -/
structure Quiet (event : GateEvent) : Prop where
  returns : ∀ effectClass, gate.returnsFor event effectClass = false
  circuits : (gate.step event).2.circuits = gate.circuits
  probes : ∀ effectClass, gate.probes effectClass +
        (if gate.classOf event = some effectClass ∧ gate.passesCooldown event = true then 1
          else 0) ≤
      (gate.step event).2.probes effectClass

section Steps

variable {gate} {policy : CircuitBreakerPolicy} {preparation : Preparation} {call : DecideCall}
  {input : RecoveryInput} {clock : DecideClock} {event : GateEvent}

theorem isCircuitOpen_iff
    (hpolicy : gate.circuitBreakerPolicy = some policy) (effectClass : String) (now : Int) :
    gate.isCircuitOpen (some effectClass) now = true ↔
      policy.threshold ≤ ((gate.circuits.getState effectClass).1 : Int) ∧
        now - (gate.circuits.getState effectClass).2 < policy.halfOpenAfterMs := by
  simp only [isCircuitOpen, hpolicy]
  split
  · rename_i hbelow
    constructor
    · intro h
      cases h
    · rintro ⟨hle, -⟩
      exact absurd hbelow (Int.not_lt.mpr hle)
  · rename_i habove
    rw [decide_eq_true_iff, and_iff_right (Int.not_lt.mp habove)]

theorem recordCircuitFailure_some
    (hpolicy : gate.circuitBreakerPolicy = some policy) (effectClass : String) (now : Int) :
    gate.recordCircuitFailure (some effectClass) now =
      { gate with circuits := gate.circuits.recordFailure now effectClass } := by
  simp only [recordCircuitFailure, hpolicy]

theorem recordCircuitFailure_none (now : Int) : gate.recordCircuitFailure none now = gate := by
  unfold recordCircuitFailure
  cases gate.circuitBreakerPolicy <;> rfl

@[simp] theorem calls_recordCircuitFailure (effectClass : Option String) (now : Int) :
    (gate.recordCircuitFailure effectClass now).calls = gate.calls := by
  unfold recordCircuitFailure
  split <;> rfl

@[simp] theorem policy_recordCircuitFailure (effectClass : Option String) (now : Int) :
    (gate.recordCircuitFailure effectClass now).circuitBreakerPolicy =
      gate.circuitBreakerPolicy := by
  unfold recordCircuitFailure
  split <;> rfl

theorem goOn_of_not_reflects (now : Int) (preparation : Preparation)
    (h : gate.shouldReflect call.input call.draft.mode = false) : gate.goOn call now preparation =
      (.settled (plannedDecision call),
        gate.recordCircuitFailure call.input.failedEffectClass now) := by
  rw [goOn, h]
  rfl

theorem goOn_of_reflects (now : Int) (preparation : Preparation)
    (h : gate.shouldReflect call.input call.draft.mode = true) :
    (∃ error, gate.goOn call now preparation = (.raised error, gate)) ∨
      gate.goOn call now preparation = gate.suspend call .reasoning := by
  rw [goOn, if_pos h, reflect]
  cases preparation.context with
  | error error => exact .inl ⟨error, rfl⟩
  | ok built =>
    cases gate.hasInferenceConfig with
    | false => exact .inl ⟨_, rfl⟩
    | true =>
      cases preparation.snapshot with
      | error error => exact .inl ⟨error, rfl⟩
      | ok taken => exact .inr rfl

theorem probes_suspend_reasoning (call : DecideCall) (effectClass : String) :
    (gate.suspend call .reasoning).2.probes effectClass = gate.probes effectClass := by
  simp [suspend, probes, DecideCall.isProbe]

theorem probes_goOn (call : DecideCall) (now : Int) (preparation : Preparation)
    (effectClass : String) :
    (gate.goOn call now preparation).2.probes effectClass = gate.probes effectClass := by
  cases hmirror : gate.shouldReflect call.input call.draft.mode with
  | false =>
    rw [goOn_of_not_reflects now preparation hmirror, probes, calls_recordCircuitFailure, probes]
  | true =>
    rcases goOn_of_reflects now preparation hmirror with ⟨error, h⟩ | h
    · rw [h]
    · rw [h, probes_suspend_reasoning]

variable {index : Nat}

theorem callAt_eq_some {point : DecidePoint} (h : gate.callAt index point = some call) :
    gate.calls[index]? = some call ∧ call.point = point := by
  obtain ⟨hcall, hpoint⟩ := Option.filter_eq_some_iff.mp h
  exact ⟨hcall, of_decide_eq_true hpoint⟩

theorem probes_resumeCall (h : gate.calls[index]? = some call) (effectClass : String) :
    (gate.resumeCall index).probes effectClass +
        (if call.isProbe effectClass = true then 1 else 0) = gate.probes effectClass := by
  have hcount := Roster.countP_advance h (DecideCall.isProbe effectClass) none
  simpa [probes, resumeCall, List.countP_cons] using hcount

theorem policy_goOn (call : DecideCall) (now : Int) (preparation : Preparation) :
    (gate.goOn call now preparation).2.circuitBreakerPolicy = gate.circuitBreakerPolicy := by
  cases hmirror : gate.shouldReflect call.input call.draft.mode with
  | false => rw [goOn_of_not_reflects now preparation hmirror, policy_recordCircuitFailure]
  | true =>
    rcases goOn_of_reflects now preparation hmirror with ⟨error, h⟩ | h
    · rw [h]
    · rw [h]
      rfl

theorem policy_step (event : GateEvent) :
    (gate.step event).2.circuitBreakerPolicy = gate.circuitBreakerPolicy := by
  cases event with
  | decide input clock preparation =>
    simp only [step, startDecide, Prod.map_snd, id_eq]
    split
    · rfl
    · split
      · rfl
      · split
        · rfl
        · exact policy_goOn ..
  | compensated index outcome now preparation =>
    simp only [step]
    split
    · rfl
    · split
      · rfl
      · exact policy_goOn ..
  | reasoned index outcome =>
    simp only [step]
    split
    · rfl
    · split <;> rfl
  | onActionSuccess effectClass => rfl

theorem counted_or_quiet_goOn (before : PlannedRecoveryGateService) {now : Int}
    (hpolicy : before.circuitBreakerPolicy = some policy)
    (hstep : gate.step event = (before.goOn call now preparation).map some id)
    (hclass : gate.classOf event = call.input.failedEffectClass)
    (hnow : ∀ last, event.recordedAt last = now) (hcircuits : before.circuits = gate.circuits)
    (hothers : ∀ effectClass, call.input.failedEffectClass ≠ some effectClass →
      gate.probes effectClass ≤ before.probes effectClass)
    (hown : ∀ effectClass, call.input.failedEffectClass = some effectClass →
      gate.shouldReflect call.input call.draft.mode = true → gate.passesCooldown event = false ∧
        gate.probes effectClass ≤ before.probes effectClass)
    (hsame : before.shouldReflect = gate.shouldReflect) :
    (∃ effectClass, gate.Counted event effectClass) ∨ gate.Quiet event := by
  have hprobes : ∀ effectClass,
      (gate.step event).2.probes effectClass = before.probes effectClass := by
    intro effectClass
    rw [hstep]
    exact probes_goOn call now preparation effectClass
  cases hmirror : gate.shouldReflect call.input call.draft.mode with
  | false =>
    rw [goOn_of_not_reflects now preparation (hsame ▸ hmirror)] at hstep
    cases hfailed : call.input.failedEffectClass with
    | none =>
      refine .inr ⟨?_, ?_, ?_⟩
      · intro effectClass
        simp [returnsFor, hclass, hfailed]
      · rw [hstep, hfailed, ← hcircuits]
        exact congrArg circuits (recordCircuitFailure_none now)
      · intro effectClass
        have hno : gate.classOf event ≠ some effectClass := by
          rw [hclass, hfailed]
          exact fun h => Option.some_ne_none effectClass h.symm
        rw [hprobes, if_neg fun h => hno h.1]
        apply hothers
        rw [← hclass]
        exact hno
    | some effectClass =>
      refine .inl ⟨effectClass, hclass.trans hfailed, ?_, ?_, ?_⟩
      · rw [hstep]
        rfl
      · intro last
        rw [hstep, hfailed, hnow, ← hcircuits]
        exact congrArg circuits (recordCircuitFailure_some hpolicy effectClass now)
      · intro other hne
        rw [hprobes]
        apply hothers
        rw [hfailed]
        exact fun h => hne (Option.some.inj h).symm
  | true =>
    have hbefore : before.shouldReflect call.input call.draft.mode = true := hsame ▸ hmirror
    have hcases := goOn_of_reflects now preparation hbefore
    refine .inr ⟨?_, ?_, ?_⟩
    · intro effectClass
      rw [returnsFor, hstep]
      rcases hcases with ⟨error, h⟩ | h
      · rw [h]
        exact Bool.and_false _
      · rw [h]
        exact Bool.and_false _
    · rw [hstep, ← hcircuits]
      rcases hcases with ⟨error, h⟩ | h
      · rw [h]
        rfl
      · rw [h]
        rfl
    · intro effectClass
      rw [hprobes]
      by_cases hfailed : call.input.failedEffectClass = some effectClass
      · obtain ⟨hpasses, hle⟩ := hown effectClass hfailed hmirror
        rw [hpasses, if_neg fun h => Bool.noConfusion h.2]
        exact hle
      · rw [if_neg fun h => hfailed (hclass ▸ h.1)]
        exact hothers effectClass hfailed

theorem quiet_decide_rejected
    (hopen : gate.isCircuitOpen input.failedEffectClass clock.checked = true) :
    gate.Quiet (.decide input clock preparation) := by
  have hopen' : (gate.countFailure input.runId).isCircuitOpen input.failedEffectClass
      clock.checked = true := hopen
  have hstep : (gate.startDecide input clock preparation).1.returns = false ∧
      (gate.startDecide input clock preparation).2 = gate.countFailure input.runId := by
    rw [startDecide]
    simp only [hopen', if_true]
    exact ⟨rfl, trivial⟩
  have hcircuits : (gate.step (.decide input clock preparation)).2.circuits = gate.circuits := by
    have hafter : (gate.startDecide input clock preparation).2.circuits =
      (gate.countFailure input.runId).circuits := congrArg circuits hstep.2
    exact hafter
  refine ⟨fun effectClass => ?_, hcircuits, fun effectClass => ?_⟩
  · have hreturns : (gate.step (.decide input clock preparation)).1.any
        DecideAnswer.returns = false := hstep.1
    rw [returnsFor, hreturns, Bool.and_false]
  · have hpasses : gate.passesCooldown (.decide input clock preparation) = false := by
      simp only [passesCooldown, hopen, Bool.not_true, Bool.and_false]
    rw [hpasses, if_neg fun h => Bool.noConfusion h.2]
    exact Nat.le_of_eq (congrArg (probes · effectClass) hstep.2).symm

theorem quiet_decide_unplanned {error : String}
    (hmeets : gate.Meets (.decide input clock preparation))
    (hopen : gate.isCircuitOpen input.failedEffectClass clock.checked = false)
    (hdraft : gate.draft input = .error error) : gate.Quiet (.decide input clock preparation) := by
  have hopen' : (gate.countFailure input.runId).isCircuitOpen input.failedEffectClass
      clock.checked = false := hopen
  have hdraft' : (gate.countFailure input.runId).draft input = .error error := hdraft
  have hstep : gate.step (.decide input clock preparation) =
      (some (.raised error), gate.countFailure input.runId) := by
    simp only [step, startDecide, hopen', hdraft', Bool.false_eq_true, if_false]
    rfl
  refine ⟨fun effectClass => ?_, congrArg (fun after => after.2.circuits) hstep,
    fun effectClass => ?_⟩
  · rw [returnsFor, hstep]
    exact Bool.and_false _
  · rw [if_neg, hstep]
    · exact Nat.le_refl _
    · rintro ⟨hclass, hpasses⟩
      obtain ⟨-, draft, executes, hok, -⟩ := hmeets effectClass hclass hpasses
      rw [hdraft] at hok
      cases hok

theorem quiet_decide_compensating {draft : Draft}
    (hopen : gate.isCircuitOpen input.failedEffectClass clock.checked = false)
    (hdraft : gate.draft input = .ok (draft, true)) :
    gate.Quiet (.decide input clock preparation) := by
  have hopen' : (gate.countFailure input.runId).isCircuitOpen input.failedEffectClass
      clock.checked = false := hopen
  have hdraft' : (gate.countFailure input.runId).draft input = .ok (draft, true) := hdraft
  have hstep : gate.step (.decide input clock preparation) =
      (some .suspended, ((gate.countFailure input.runId).suspend
        ⟨input, draft, gate.failureCounts.getD input.runId 0 + 1, .compensating,
          gate.tripped input.failedEffectClass⟩ .compensating).2) := by
    simp only [step, startDecide, hopen', hdraft', Bool.false_eq_true, if_false]
    rfl
  refine ⟨fun effectClass => ?_, congrArg (fun after => after.2.circuits) hstep,
    fun effectClass => ?_⟩
  · rw [returnsFor, hstep]
    exact Bool.and_false _
  · have hprobe : gate.classOf (.decide input clock preparation) = some effectClass ∧
        gate.passesCooldown (.decide input clock preparation) = true ↔
        DecideCall.isProbe effectClass ⟨input, draft,
          gate.failureCounts.getD input.runId 0 + 1, .compensating,
          gate.tripped input.failedEffectClass⟩ = true := by
      simp [classOf, passesCooldown, hopen, DecideCall.isProbe, and_comm]
    rw [hstep]
    simp only [hprobe, probes, suspend, List.countP_append, List.countP_cons,
      List.countP_nil, Nat.zero_add]
    exact Nat.le_refl _

theorem counted_or_quiet_decide (hpolicy : gate.circuitBreakerPolicy = some policy)
    (hmeets : gate.Meets (.decide input clock preparation)) :
    (∃ effectClass, gate.Counted (.decide input clock preparation) effectClass) ∨
      gate.Quiet (.decide input clock preparation) := by
  cases hopen : gate.isCircuitOpen input.failedEffectClass clock.checked with
  | true => exact .inr (quiet_decide_rejected hopen)
  | false =>
    cases hdraft : gate.draft input with
    | error error => exact .inr (quiet_decide_unplanned hmeets hopen hdraft)
    | ok drafted =>
      obtain ⟨draft, executes⟩ := drafted
      cases executes with
      | true => exact .inr (quiet_decide_compensating hopen hdraft)
      | false =>
        have hopen' : (gate.countFailure input.runId).isCircuitOpen
          input.failedEffectClass clock.checked = false := hopen
        have hdraft' : (gate.countFailure input.runId).draft input = .ok (draft, false) := hdraft
        have hstep : gate.step (.decide input clock preparation) =
            ((gate.countFailure input.runId).goOn
              ⟨input, draft, gate.failureCounts.getD input.runId 0 + 1, .compensating,
                gate.tripped input.failedEffectClass⟩ clock.recorded
              preparation).map some id := by
          simp only [step, startDecide, hopen', hdraft', Bool.false_eq_true, if_false]
          rfl
        refine counted_or_quiet_goOn (gate.countFailure input.runId) hpolicy
          hstep rfl (fun last => rfl) rfl
          (fun effectClass _ => Nat.le_refl _) ?_ rfl
        intro effectClass hclass hmirror
        refine ⟨?_, Nat.le_refl _⟩
        rw [← Bool.not_eq_true]
        intro hpasses
        obtain ⟨-, other, executes, hok, hgoes⟩ := hmeets effectClass hclass hpasses
        rw [hdraft] at hok
        obtain ⟨rfl, rfl⟩ := Prod.mk.inj (Except.ok.inj hok)
        rcases hgoes with hexecutes | hsettles
        · cases hexecutes
        · rw [hsettles] at hmirror
          cases hmirror

theorem quiet_resumeCall {answer : DecideAnswer} (hcall : gate.calls[index]? = some call)
    (hstep : gate.step event = (some answer, gate.resumeCall index))
    (hreturns : ∀ effectClass, gate.returnsFor event effectClass = false)
    (hpasses : gate.passesCooldown event = false)
    (hprobe : ∀ effectClass, call.isProbe effectClass = false) : gate.Quiet event where
  returns := hreturns
  circuits := by
    rw [hstep]
    rfl
  probes effectClass := by
    have hcount := probes_resumeCall hcall effectClass
    rw [hprobe effectClass, if_neg Bool.false_ne_true] at hcount
    rw [hpasses, if_neg fun h => Bool.false_ne_true h.2, hstep]
    exact Nat.le_of_eq hcount.symm

theorem quiet_idle (hstep : gate.step event = (none, gate))
    (hpasses : gate.passesCooldown event = false) : gate.Quiet event where
  returns effectClass := by
    rw [returnsFor, hstep]
    exact Bool.and_false _
  circuits := by rw [hstep]
  probes effectClass := by
    rw [hpasses, if_neg fun h => Bool.false_ne_true h.2, hstep]
    exact Nat.le_refl _

theorem counted_or_quiet_compensated {outcome : CompensationOutcome} {now : Int}
    (hpolicy : gate.circuitBreakerPolicy = some policy)
    (hmeets : gate.Meets (.compensated index outcome now preparation)) : (∃ effectClass,
        gate.Counted (.compensated index outcome now preparation) effectClass) ∨
      gate.Quiet (.compensated index outcome now preparation) := by
  cases hwaits : gate.callAt index .compensating with
  | none =>
    apply Or.inr
    apply quiet_idle _ rfl
    simp only [step, hwaits]
  | some call =>
    obtain ⟨hcall, -⟩ := callAt_eq_some hwaits
    have hmarked := hmeets call hwaits
    by_cases hgone : outcome = .cancelled
    · have hstep : gate.step (.compensated index outcome now preparation) =
          (some .cancelled, gate.resumeCall index) := by
        simp only [step, hwaits, hgone, if_true]
      apply Or.inr
      apply quiet_resumeCall hcall hstep _ rfl
      · intro effectClass
        rw [DecideCall.isProbe]
        cases hafter : call.afterCooldown with
        | false => rfl
        | true => exact absurd hgone (hmarked hafter).1
      · intro effectClass
        rw [returnsFor, hstep]
        exact Bool.and_false _
    · have hstep : gate.step (.compensated index outcome now preparation) =
          ((gate.resumeCall index).goOn
            { call with draft := call.draft.compensated outcome } now preparation).map
              some id := by
        simp only [step, hwaits, if_neg hgone]
      have hclass : gate.classOf (.compensated index outcome now preparation) =
          call.input.failedEffectClass := by
        rw [classOf, hwaits, Option.bind_some]
      refine counted_or_quiet_goOn (gate.resumeCall index) hpolicy hstep hclass
        (fun last => rfl) rfl ?_ ?_ rfl
      · intro effectClass hother
        have hcount := probes_resumeCall hcall effectClass
        have hno : call.isProbe effectClass = false := by
          rw [DecideCall.isProbe, beq_false_of_ne hother, Bool.and_false]
        rw [hno, if_neg Bool.false_ne_true] at hcount
        exact Nat.le_of_eq hcount.symm
      · intro effectClass _ hmirror
        refine ⟨rfl, ?_⟩
        have hcount := probes_resumeCall hcall effectClass
        cases hafter : call.afterCooldown with
        | true =>
          -- a probe does not reflect
          have hsettles : gate.shouldReflect call.input
            (call.draft.compensated outcome).mode = true := hmirror
          rw [(hmarked hafter).2] at hsettles
          cases hsettles
        | false =>
          have hno : call.isProbe effectClass = false := by
            rw [DecideCall.isProbe, hafter, Bool.false_and, Bool.false_and]
          rw [hno, if_neg Bool.false_ne_true] at hcount
          exact Nat.le_of_eq hcount.symm

theorem quiet_reasoned {outcome : ReasoningOutcome}
    (hmeets : gate.Meets (.reasoned index outcome)) : gate.Quiet (.reasoned index outcome) := by
  cases hwaits : gate.callAt index .reasoning with
  | none =>
    apply quiet_idle _ rfl
    simp only [step, hwaits]
  | some call =>
    obtain ⟨hcall, hpoint⟩ := callAt_eq_some hwaits
    have hstep : ∃ answer, gate.step (.reasoned index outcome) =
        (some answer, gate.resumeCall index) := by
      cases outcome with
      | actions found =>
        exact ⟨.reflected (gate.reflectedDecision call (.actions found)), by
          simp only [step, hwaits]⟩
      | raised =>
        exact ⟨.reflected (gate.reflectedDecision call .raised), by
          simp only [step, hwaits]⟩
      | cancelled => exact ⟨.cancelled, by simp only [step, hwaits]⟩
    obtain ⟨answer, hstep⟩ := hstep
    apply quiet_resumeCall hcall hstep _ rfl
    · intro effectClass
      rw [DecideCall.isProbe, hpoint]
      simp
    · intro effectClass
      rw [returnsFor, classOf, hwaits, Option.bind_some]
      by_cases hfailed : call.input.failedEffectClass = some effectClass
      · have hnamed : call.input.failedEffectClass ≠ none := by
          rw [hfailed]
          exact Option.some_ne_none effectClass
        obtain rfl := hmeets call hwaits hnamed
        simp [step, hwaits, DecideAnswer.returns]
      · rw [beq_false_of_ne hfailed, Bool.false_and]

theorem counted_or_quiet
    (hpolicy : gate.circuitBreakerPolicy = some policy) (hmeets : gate.Meets event)
    (hevent : ∀ effectClass, event ≠ .onActionSuccess effectClass) :
    (∃ effectClass, gate.Counted event effectClass) ∨ gate.Quiet event := by
  cases event with
  | decide input clock preparation => exact counted_or_quiet_decide hpolicy hmeets
  | compensated index outcome now preparation =>
    exact counted_or_quiet_compensated hpolicy hmeets
  | reasoned index outcome => exact .inr (quiet_reasoned hmeets)
  | onActionSuccess effectClass => exact absurd rfl (hevent effectClass)

end Steps

end PlannedRecoveryGateService

/-! ## Every run -/

namespace WatchedGate

open PlannedRecoveryGateService

variable {watched : WatchedGate} {policy : CircuitBreakerPolicy}

/-- The circuits stand where the tallies say, and a call let through after the cooldown
that has not been counted is still suspended. -/
structure Inv (policy : CircuitBreakerPolicy) (watched : WatchedGate) : Prop where
  policy : watched.gate.circuitBreakerPolicy = some policy
  tallied : ∀ effectClass, watched.gate.circuits.getState effectClass =
    ((watched.tallies effectClass).count, (watched.tallies effectClass).last)
  held : ∀ effectClass, (watched.tallies effectClass).probes ≤ watched.gate.probes effectClass

theorem Inv.opens (h : Inv policy watched) : watched.Opens policy := by
  intro effectClass now
  rw [isCircuitOpen_iff h.policy, h.tallied]

variable {event : GateEvent}

theorem Inv.counted (h : Inv policy watched) {effectClass : String}
    (hcounted : watched.gate.Counted event effectClass)
    (hevent : ∀ other, event ≠ .onActionSuccess other) : Inv policy (watched.step event) := by
  have hown : (watched.step event).tallies effectClass = ⟨(watched.tallies effectClass).count + 1,
        event.recordedAt (watched.tallies effectClass).last, 0⟩ := by
    rw [step]
    dsimp only
    unfold PlannedRecoveryGateService.tally
    split
    · exact absurd rfl (hevent _)
    · rw [if_neg (not_not_intro hcounted.classOf), if_pos hcounted.returns]
  have hother : ∀ other, other ≠ effectClass →
      (watched.step event).tallies other = watched.tallies other := by
    intro other hne
    rw [step]
    dsimp only
    unfold PlannedRecoveryGateService.tally
    split
    · exact absurd rfl (hevent _)
    · rw [if_pos]
      rw [hcounted.classOf]
      exact fun heq => hne (Option.some.inj heq).symm
  refine ⟨(policy_step event).trans h.policy, ?_, ?_⟩
  · intro other
    have hstate : (watched.step event).gate.circuits.getState other = if other = effectClass then
          ((watched.gate.circuits.getState effectClass).1 + 1,
            event.recordedAt (watched.tallies effectClass).last)
        else watched.gate.circuits.getState other := by
      rw [step]
      dsimp only
      rw [hcounted.circuits (watched.tallies effectClass).last, Circuits.getState_recordFailure]
    rw [hstate]
    split
    · rename_i heq
      rw [heq, hown, h.tallied]
    · rename_i hne
      rw [hother other hne, h.tallied]
  · intro other
    by_cases heq : other = effectClass
    · rw [heq, hown]
      exact Nat.zero_le _
    · rw [hother other heq]
      exact Nat.le_trans (h.held other) (hcounted.probes other heq)

theorem Inv.quiet (h : Inv policy watched)
    (hquiet : watched.gate.Quiet event) (hevent : ∀ other, event ≠ .onActionSuccess other) :
    Inv policy (watched.step event) := by
  have htally : ∀ effectClass, (watched.step event).tallies effectClass =
      { watched.tallies effectClass with
        probes := (watched.tallies effectClass).probes +
          if watched.gate.classOf event = some effectClass ∧
            watched.gate.passesCooldown event = true then 1 else 0 } := by
    intro effectClass
    have hreturns := hquiet.returns effectClass
    rw [step]
    dsimp only
    unfold PlannedRecoveryGateService.tally
    split
    · exact absurd rfl (hevent _)
    · by_cases hclass : watched.gate.classOf event = some effectClass
      · rw [returnsFor, hclass, beq_self_eq_true, Bool.true_and] at hreturns
        rw [if_neg (not_not_intro hclass), hreturns, if_neg Bool.false_ne_true]
        cases watched.gate.passesCooldown event <;> simp [hclass]
      · rw [if_pos hclass, if_neg fun hboth => hclass hboth.1]
        rfl
  refine ⟨(policy_step event).trans h.policy, ?_, ?_⟩
  · intro effectClass
    rw [htally, ← h.tallied]
    exact congrArg (Circuits.getState · effectClass) hquiet.circuits
  · intro effectClass
    rw [htally]
    exact Nat.le_trans (Nat.add_le_add_right (h.held effectClass) _) (hquiet.probes effectClass)

theorem Inv.onActionSuccess (h : Inv policy watched) (succeeded : String) :
    Inv policy (watched.step (.onActionSuccess succeeded)) := by
  refine ⟨h.policy, ?_, ?_⟩
  · intro effectClass
    simp only [step, PlannedRecoveryGateService.step, PlannedRecoveryGateService.tally,
      Circuits.getState_reset, eq_comm (a := effectClass)]
    split
    · rfl
    · exact h.tallied effectClass
  · intro effectClass
    simp only [step, PlannedRecoveryGateService.tally]
    split
    · exact Nat.zero_le _
    · exact h.held effectClass

theorem success_or_not (event : GateEvent) : (∃ effectClass, event = .onActionSuccess effectClass) ∨
      ∀ effectClass, event ≠ .onActionSuccess effectClass := by
  by_cases hsuccess : ∃ effectClass, event = .onActionSuccess effectClass
  · exact .inl hsuccess
  · exact .inr fun effectClass heq => hsuccess ⟨effectClass, heq⟩

/-- A step that meets the condition keeps the invariant. -/
theorem Inv.step (h : Inv policy watched)
    (hmeets : watched.gate.Meets event) : Inv policy (watched.step event) := by
  rcases success_or_not event with ⟨succeeded, rfl⟩ | hevent
  · exact h.onActionSuccess succeeded
  · rcases counted_or_quiet h.policy hmeets hevent with ⟨effectClass, hcounted⟩ | hquiet
    · exact h.counted hcounted hevent
    · exact h.quiet hquiet hevent

theorem Inv.lawful (h : Inv policy watched)
    (hmeets : watched.gate.Meets event) : watched.Lawful event := by
  refine ⟨?_, ?_⟩
  · intro effectClass hevent
    have hcount : (watched.step event).gate.count effectClass =
        ((watched.gate.step event).2.circuits.getState effectClass).1 := rfl
    rw [hcount]
    rcases success_or_not event with ⟨succeeded, rfl⟩ | hnot
    · have hne : effectClass ≠ succeeded := by
        rintro rfl
        exact hevent rfl
      simp [PlannedRecoveryGateService.step, Circuits.getState_reset, hne, returnsFor, classOf,
        count]
    · rcases counted_or_quiet h.policy hmeets hnot with ⟨counted, hcounted⟩ | hquiet
      · rw [hcounted.circuits 0, Circuits.getState_recordFailure, returnsFor, hcounted.classOf,
          hcounted.returns, Bool.and_true]
        by_cases heq : effectClass = counted
        · simp [heq, count]
        · have hne : ¬ counted = effectClass := fun h => heq h.symm
          simp [heq, hne, count]
      · rw [hquiet.circuits, hquiet.returns, if_neg Bool.false_ne_true]
        rfl
  · intro effectClass hclass hpasses
    cases event with
    | decide input clock preparation =>
      have hfree := (hmeets effectClass hclass hpasses).1
      have hnone : watched.gate.probes effectClass = 0 := by
        rw [probes, List.countP_eq_zero]
        intro call hcall
        rw [hfree call hcall]
        exact Bool.false_ne_true
      exact Nat.le_zero.mp (hnone ▸ h.held effectClass)
    | _ => cases hpasses

theorem inv_start {gate : PlannedRecoveryGateService}
    (hpolicy : gate.circuitBreakerPolicy = some policy) : Inv policy (start gate) where
  policy := hpolicy
  tallied _ := rfl
  held _ := Nat.zero_le _

/-- Every run in which no decision of the reasoning loop is returned for a class, and in
which each call let through after the cooldown is counted before the next call of its
class comes, keeps the law of the circuit breaker. -/
theorem breakerLaw_of_meets (policy : CircuitBreakerPolicy) (gate : PlannedRecoveryGateService)
    (events : List GateEvent) (hpolicy : gate.circuitBreakerPolicy = some policy)
    (hmeets : Along step (fun watched event => watched.gate.Meets event) (start gate) events) :
    Law (start gate) policy events := by
  have hstart : Inv policy (start gate) := inv_start hpolicy
  constructor
  · exact along_of_invariant (fun _ _ hinv hguard => hinv.step hguard)
      (fun _ _ hinv hguard => hinv.lawful hguard) hstart hmeets
  · exact always_of_invariant (fun _ _ hinv hguard => hinv.step hguard)
      (fun _ hinv => hinv.opens) hstart hmeets

/-! ## A circuit that is tripped, probed and cleared -/

/-- A write of the run has failed. -/
def writeFailed : RecoveryInput where
  runId := "r-1"
  reasonCode := "runtime_error"
  lifecycleState := .recovering
  projection := defaultProjection "r-1"
  failedActionId := some "a-1"
  reflectionRound := 0
  failedEffectClass := some "idempotent_write"
  failingAction := none

def brittle : CircuitBreakerPolicy where
  threshold := 1
  halfOpenAfterMs := 50

/-- A gate with the planner of the kernel and a circuit breaker, and a loop to reflect
with where a policy for it is given. -/
def newGate (reflectionPolicy : Option ReflectionPolicy) : PlannedRecoveryGateService where
  lower := .ascii
  planner := buildPlanFromInput .ascii {}
  modeRegistry := builtinMappings
  compensationRegistry := none
  reflectionPolicy := reflectionPolicy
  hasReasoningLoop := true
  hasReflectionBuilder := true
  hasInferenceConfig := true
  circuitBreakerPolicy := some brittle
  failureCounts := Dict.empty
  circuits := .inMemory Dict.empty Dict.empty
  calls := []

def tripAndProbe : List GateEvent :=
  [.decide writeFailed ⟨0, 1⟩ prepared, .decide writeFailed ⟨10, 11⟩ prepared,
    .decide writeFailed ⟨100, 101⟩ prepared, .onActionSuccess "idempotent_write"]

theorem law_tripAndProbe :
    Along step (fun watched event => watched.gate.Meets event) (start (newGate none)) tripAndProbe ∧
      Law (start (newGate none)) brittle tripAndProbe := by
  have hmeets : Along step (fun watched event => watched.gate.Meets event)
      (start (newGate none)) tripAndProbe :=
    ⟨fun _ _ hpasses => absurd hpasses (by decide), fun _ _ hpasses => absurd hpasses (by decide),
      fun _ _ _ => ⟨fun _ hcall => absurd hcall List.not_mem_nil, _, _, rfl, .inr rfl⟩,
      trivial, trivial⟩
  exact ⟨hmeets, breakerLaw_of_meets brittle (newGate none) tripAndProbe rfl hmeets⟩

/-- The defaults of `ReflectionPolicy`. -/
def reflecting : ReflectionPolicy where
  maxRounds := 3
  reflectableFailureKinds := ["heartbeat_timeout", "runtime_error", "output_validation_failed"]
  nonReflectableFailureKinds := ["resource_exhausted", "permission_denied"]
  escalateOnExhaustion := true

/-- A decision of the reasoning loop is returned and never counted. -/
theorem not_law_reflected : ¬ ∀ (policy : CircuitBreakerPolicy) (gate : PlannedRecoveryGateService)
        (events : List GateEvent), 1 ≤ policy.threshold →
      gate.circuitBreakerPolicy = some policy → gate.calls = [] →
      Law (start gate) policy events := by
  intro h
  have hlaw := h brittle (newGate (some reflecting))
    [.decide writeFailed ⟨0, 1⟩ prepared, .reasoned 0 (.actions [])] (by decide) rfl rfl
  have hcounts := hlaw.1.2.1.counts "idempotent_write" (by intro heq; cases heq)
  exact absurd hcounts (by decide)

end WatchedGate

end HiAgent.Kernel
