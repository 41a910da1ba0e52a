/-
  Kernel/CompensationRegistry/Honest.lean --- when a reported compensation has happened.

  A call that takes its key runs the handler, and what it answers is so. A call that finds its
  key taken answers for the one that has taken it, whatever has become of that.
-/
import HiAgent.Kernel.CompensationRegistry
import HiAgent.Kernel.RecoveryGate.Breaker

namespace HiAgent.Kernel

open Foundation List

/-! ## The history -/

/-- A system with what has happened to the actions. -/
structure CompensationHistory where
  system : Compensations
  /-- Their calls have taken their key. -/
  taken : List FailedAction
  /-- The handler has completed for them. -/
  completed : List FailedAction
  /-- Their attempts are exhausted. -/
  exhausted : List FailedAction

namespace Compensations

variable (system : Compensations)

def completing : CompensationEvent → Option FailedAction
  | .attempted index .completed =>
    (system.callAt index .attempting).map CompensationCall.action
  | _ => none

def exhausting (event : CompensationEvent) : Option FailedAction :=
  ((system.step event).1.filter (·.how.isExhausted)).map EndedCompensation.action

end Compensations

namespace CompensationHistory

variable (history : CompensationHistory)

def start (registry : CompensationRegistry) (store : DedupeStore) : CompensationHistory :=
  ⟨⟨registry, store, []⟩, [], [], []⟩

def after (event : CompensationEvent) : CompensationHistory where
  system := history.system.after event
  taken := (history.system.taking event).toList ++ history.taken
  completed := (history.system.completing event).toList ++ history.completed
  exhausted := (history.system.exhausting event).toList ++ history.exhausted

end CompensationHistory

/-! ## The law -/

/-- How the gate takes what it gets from `execute`. -/
def CompensationAnswer.outcome : CompensationAnswer → CompensationOutcome
  | returned _ => .returned
  | raised => .raised
  | cancelled => .cancelled

def CompensationEvent.Shares : CompensationEvent → Prop
  | execute _ dedupe _ => dedupe = true
  | _ => True

namespace CompensationHistory

variable (history : CompensationHistory)

/-- A call that returns `True` is about an action for which the handler has completed, and no
gate that awaits the call returns `static_compensation` for an action whose attempts are
exhausted. -/
structure Honest (event : CompensationEvent) : Prop where
  returned : ∀ ended, (history.system.step event).1 = some ended →
    ended.answer = .returned true → ended.action ∈ (history.after event).completed
  reported : ∀ ended, (history.system.step event).1 = some ended → ended.raiseOnFailure = true →
    ∀ (gate : PlannedRecoveryGateService) index now preparation decision,
      (gate.step (.compensated index ended.answer.outcome now preparation)).1 =
        some (.settled decision) →
      decision.mode = .staticCompensation → ended.action ∉ (history.after event).exhausted

/-- A call that finds a handler finds its key free, or acknowledged and taken for the very
same action. -/
def Meets : CompensationEvent → Prop
  | .execute action _ _ =>
    history.system.registry.hasHandler action.effectClass = true →
    history.system.store.Taken action.compensationKey →
    history.system.store.state action.compensationKey = some .acknowledged ∧ action ∈ history.taken
  | _ => True

/-! ## What holds between two events -/

def stateOf (action : FailedAction) : DedupeState :=
  if action ∈ history.completed then .acknowledged
  else if action ∈ history.exhausted then .unknownEffect
  else .dispatched

structure Inv : Prop where
  recorded : ∀ action ∈ history.taken,
    history.system.store.state action.compensationKey = some (history.stateOf action)
  handled : ∀ action ∈ history.taken, history.system.registry.hasHandler action.effectClass = true
  single : ∀ action ∈ history.taken, ∀ other ∈ history.taken,
    action.compensationKey = other.compensationKey → action = other
  completed : ∀ action ∈ history.completed, action ∈ history.taken
  exhausted : ∀ action ∈ history.exhausted, action ∈ history.taken ∧ action ∉ history.completed
  running : ∀ call ∈ history.system.calls,
    call.idempotencyKey = some call.action.compensationKey ∧ call.action ∈ history.taken ∧
      call.action ∉ history.completed ∧ call.action ∉ history.exhausted
  alone : ∀ action, history.system.calls.countP (·.action = action) ≤ 1

section Inv

variable {history : CompensationHistory} {index : Nat} {call : CompensationCall}

theorem inv_start (registry : CompensationRegistry) (store : DedupeStore) :
    (start registry store).Inv where
  recorded := fun _ h => absurd h not_mem_nil
  handled := fun _ h => absurd h not_mem_nil
  single := fun _ h => absurd h not_mem_nil
  completed := fun _ h => absurd h not_mem_nil
  exhausted := fun _ h => absurd h not_mem_nil
  running := fun _ h => absurd h not_mem_nil
  alone := fun _ => Nat.zero_le 1

theorem Inv.dispatched (h : history.Inv) (hcall : call ∈ history.system.calls) :
    history.system.store.state call.action.compensationKey = some .dispatched := by
  obtain ⟨-, htaken, hdone, hspent⟩ := h.running call hcall
  rw [h.recorded call.action htaken, stateOf, if_neg hdone, if_neg hspent]

theorem Inv.others (h : history.Inv) (hcall : history.system.calls[index]? = some call) :
    ∀ other ∈ Roster.advance history.system.calls index none, other.action ≠ call.action := by
  have hcount := Roster.countP_advance hcall (·.action = call.action) none
  have halone := h.alone call.action
  have hnone : (Roster.advance history.system.calls index none).countP
      (·.action = call.action) = 0 := by
    simp at hcount
    omega
  intro other hother heq
  exact countP_eq_zero.mp hnone other hother (decide_eq_true heq)

/-! ## One event -/

/-- The history behind a stretch of a suspended call. -/
def resumed (history : CompensationHistory) (index : Nat) (call : CompensationCall)
    (completes : Bool) (turn : CompensationTurn × DedupeStore) : CompensationHistory where
  system := (history.system.resume index call turn).2
  taken := history.taken
  completed := if completes then call.action :: history.completed else history.completed
  exhausted :=
    if turn.1.how.any CompensationEnd.isExhausted then call.action :: history.exhausted
    else history.exhausted

theorem resumed_exhausted (turn : CompensationTurn × DedupeStore) :
    (((history.system.resume index call turn).1.filter (·.how.isExhausted)).map
        EndedCompensation.action).toList ++ history.exhausted =
      if turn.1.how.any CompensationEnd.isExhausted then call.action :: history.exhausted
      else history.exhausted := by
  rw [Compensations.resume]
  cases turn.1.how with
  | none => rfl
  | some how =>
    cases hspent : how.isExhausted with
    | _ => simp [Option.filter, hspent]

theorem after_attempted (hcall : history.system.callAt index .attempting = some call)
    (outcome : HandlerOutcome) : history.after (.attempted index outcome) =
      history.resumed index call (outcome = .completed)
        (call.attempted history.system.store outcome) := by
  have hstep : history.system.step (.attempted index outcome) =
      history.system.resume index call (call.attempted history.system.store outcome) := by
    rw [Compensations.step, hcall]
  rw [after, resumed, Compensations.after, Compensations.exhausting, hstep, resumed_exhausted]
  cases outcome <;> simp [Compensations.taking, Compensations.completing, hcall]

theorem after_paused (hcall : history.system.callAt index .pausing = some call)
    (outcome : PauseOutcome) : history.after (.paused index outcome) =
      history.resumed index call false (call.paused history.system.store outcome) := by
  have hstep : history.system.step (.paused index outcome) =
      history.system.resume index call (call.paused history.system.store outcome) := by
    rw [Compensations.step, hcall]
  rw [after, resumed, Compensations.after, Compensations.exhausting, hstep, resumed_exhausted]
  rfl

theorem Inv.alone_advance (h : history.Inv)
    (hcall : history.system.calls[index]? = some call) {next : Option CompensationCall}
    (hnext : ∀ goesOn ∈ next, goesOn.action = call.action) (action : FailedAction) :
    (Roster.advance history.system.calls index next).countP (·.action = action) ≤ 1 := by
  have hcount := Roster.countP_advance hcall (·.action = action) next
  have hle : next.toList.countP (·.action = action) ≤ [call].countP (·.action = action) := by
    cases next with
    | none => exact Nat.zero_le _
    | some goesOn => simp [countP_cons, hnext goesOn rfl]
  have halone := h.alone action
  omega

theorem Inv.finish (h : history.Inv) (hcall : history.system.calls[index]? = some call)
    {state : DedupeState} {store : DedupeStore} {completed exhausted : List FailedAction}
    (hmarked : InMemoryDedupeStore.Marked call.action.compensationKey state
      history.system.store store) (hstate : ∀ action,
      stateOf ⟨history.system, history.taken, completed, exhausted⟩ action =
        if action = call.action then state else history.stateOf action)
    (hdone : ∀ action ∈ completed, action = call.action ∨ action ∈ history.completed)
    (hspent : ∀ action ∈ exhausted,
      (action = call.action ∨ action ∈ history.exhausted) ∧ action ∉ completed) :
    Inv ⟨⟨history.system.registry, store, Roster.advance history.system.calls index none⟩,
      history.taken, completed, exhausted⟩ := by
  have hmem := mem_of_getElem? hcall
  obtain ⟨-, htaken, -, -⟩ := h.running call hmem
  refine ⟨fun action haction => ?_, h.handled, h.single, fun action haction => ?_,
    fun action haction => ?_, fun other hother => ?_, ?_⟩
  · rw [hmarked]
    refine Eq.trans ?_ (congrArg some (hstate action).symm)
    by_cases hsame : action = call.action
    · rw [if_pos hsame, if_pos (congrArg FailedAction.compensationKey hsame)]
    · rw [if_neg hsame, if_neg fun hkey => hsame (h.single action haction call.action htaken hkey)]
      exact h.recorded action haction
  · rcases hdone action haction with rfl | hbefore
    · exact htaken
    · exact h.completed action hbefore
  · refine ⟨?_, (hspent action haction).2⟩
    rcases (hspent action haction).1 with rfl | hbefore
    · exact htaken
    · exact (h.exhausted action hbefore).1
  · have hne := h.others hcall other hother
    have hbefore := (Roster.mem_advance hother).resolve_right (Option.some_ne_none other).symm
    obtain ⟨hkey, hothertaken, hothercompleted, hotherexhausted⟩ := h.running other hbefore
    exact ⟨hkey, hothertaken, fun hin => hothercompleted ((hdone _ hin).resolve_left hne),
      fun hin => hotherexhausted ((hspent _ hin).1.resolve_left hne)⟩
  · exact h.alone_advance hcall fun _ hnext => absurd hnext (Option.not_mem_none _)

theorem Inv.advance (h : history.Inv) (hcall : history.system.calls[index]? = some call)
    {next : Option CompensationCall} (hnext : ∀ goesOn ∈ next, goesOn.action = call.action ∧
      goesOn.idempotencyKey = call.idempotencyKey) : Inv { history with
      system.calls := Roster.advance history.system.calls index next } := by
  refine ⟨h.recorded, h.handled, h.single, h.completed, h.exhausted, fun other hother => ?_,
    h.alone_advance hcall fun goesOn hin => (hnext goesOn hin).1⟩
  rcases Roster.mem_advance hother with hother | hother
  · exact h.running other hother
  · obtain ⟨haction, hkey⟩ := hnext other hother
    rw [haction, hkey]
    exact h.running call (mem_of_getElem? hcall)

theorem Inv.resumed (h : history.Inv) (hcall : history.system.calls[index]? = some call)
    {completes : Bool} {turn : CompensationTurn × DedupeStore}
    (hprogress : call.Progress history.system.store completes turn) :
    (history.resumed index call completes turn).Inv := by
  have hmem := mem_of_getElem? hcall
  obtain ⟨hkey, htaken, hdone, hspent⟩ := h.running call hmem
  cases hprogress with
  | completed hmarked =>
    refine h.finish hcall hmarked (fun action => ?_) (fun action haction => ?_)
      fun action haction => ?_
    · by_cases hsame : action = call.action
      · simp [stateOf, hsame]
      · simp [stateOf, hsame, CompensationTurn.how, CompensationEnd.isExhausted]
    · exact mem_cons.mp haction
    · refine ⟨.inr haction, fun hin => ?_⟩
      rcases mem_cons.mp hin with rfl | hin
      · exact hspent haction
      · exact (h.exhausted action haction).2 hin
  | exhausted message cause hmarked =>
    refine h.finish hcall hmarked (fun action => ?_) (fun action haction => .inr haction)
      fun action haction => ?_
    · by_cases hsame : action = call.action
      · simp [stateOf, hsame, hdone, CompensationTurn.how, CompensationEnd.isExhausted]
      · simp [stateOf, hsame, CompensationTurn.how, CompensationEnd.isExhausted]
    · rcases mem_cons.mp haction with rfl | haction
      · exact ⟨.inl rfl, hdone⟩
      · exact ⟨.inr haction, (h.exhausted action haction).2⟩
  | goesOn haction hnext =>
    refine h.advance hcall fun goesOn hin => ?_
    obtain rfl := Option.mem_some_iff.mp hin
    exact ⟨haction, hnext⟩
  | left how =>
    rcases how with rfl | rfl
    · exact h.advance hcall fun _ hin => absurd hin (Option.not_mem_none _)
    · exact h.advance hcall fun _ hin => absurd hin (Option.not_mem_none _)

theorem after_execute_of_ended {action : FailedAction} {dedupe raiseOnFailure : Bool}
    {how : CompensationEnd} (hhow : how.isExhausted = false)
    (htaking : history.system.taking (.execute action dedupe raiseOnFailure) = none)
    (hexecute : history.system.registry.execute action dedupe raiseOnFailure
      history.system.store = (.ended how, history.system.store)) :
    history.system.step (.execute action dedupe raiseOnFailure) =
        (some ⟨action, raiseOnFailure, how⟩, history.system) ∧
      history.after (.execute action dedupe raiseOnFailure) = history := by
  have hstep : history.system.step (.execute action dedupe raiseOnFailure) =
      (some ⟨action, raiseOnFailure, how⟩, history.system) := by
    simp [Compensations.step, hexecute, CompensationTurn.how, CompensationTurn.next]
  refine ⟨hstep, ?_⟩
  simp [after, Compensations.after, Compensations.exhausting, Compensations.completing, hstep,
    htaking, Option.filter, hhow]

theorem Inv.take (h : history.Inv) {store : DedupeStore}
    (hhandler : history.system.registry.hasHandler call.action.effectClass = true)
    (hfree : ¬ history.system.store.Taken call.action.compensationKey)
    (hkey : call.idempotencyKey = some call.action.compensationKey)
    (hmarked : InMemoryDedupeStore.Marked call.action.compensationKey .dispatched
      history.system.store store) :
    Inv ⟨⟨history.system.registry, store, history.system.calls ++ [call]⟩,
      call.action :: history.taken, history.completed, history.exhausted⟩ := by
  have hnew : ∀ other ∈ history.taken, other.compensationKey ≠ call.action.compensationKey := by
    intro other hother hsame
    have hnone := DedupeStore.state_eq_none_iff.mpr hfree
    rw [← hsame, h.recorded other hother] at hnone
    cases hnone
  have huntaken : call.action ∉ history.taken := fun hin => hnew call.action hin rfl
  have huncompleted : call.action ∉ history.completed :=
    fun hin => huntaken (h.completed call.action hin)
  have hleft : call.action ∉ history.exhausted :=
    fun hin => huntaken (h.exhausted call.action hin).1
  constructor
  case recorded =>
    intro other hother
    rw [hmarked]
    rcases mem_cons.mp hother with rfl | hother
    · rw [if_pos rfl, stateOf, if_neg huncompleted, if_neg hleft]
    · rw [if_neg (hnew other hother)]
      exact h.recorded other hother
  case handled =>
    intro other hother
    rcases mem_cons.mp hother with rfl | hother
    · exact hhandler
    · exact h.handled other hother
  case single =>
    intro first hfirst second hsecond hsame
    rcases mem_cons.mp hfirst with hfirst | hfirst
    · rcases mem_cons.mp hsecond with hsecond | hsecond
      · rw [hfirst, hsecond]
      · rw [hfirst] at hsame
        exact absurd hsame.symm (hnew second hsecond)
    · rcases mem_cons.mp hsecond with hsecond | hsecond
      · rw [hsecond] at hsame
        exact absurd hsame (hnew first hfirst)
      · exact h.single first hfirst second hsecond hsame
  case completed =>
    intro other hother
    exact mem_cons_of_mem _ (h.completed other hother)
  case exhausted =>
    intro other hother
    obtain ⟨htaken, hrest⟩ := h.exhausted other hother
    exact ⟨mem_cons_of_mem _ htaken, hrest⟩
  case running =>
    intro other hother
    rcases mem_append.mp hother with hother | hother
    · obtain ⟨hotherkey, hothertaken, hrest⟩ := h.running other hother
      exact ⟨hotherkey, mem_cons_of_mem _ hothertaken, hrest⟩
    · obtain rfl := mem_singleton.mp hother
      exact ⟨hkey, mem_cons_self, huncompleted, hleft⟩
  case alone =>
    intro other
    rw [countP_append]
    by_cases hsame : call.action = other
    · have hnone : history.system.calls.countP (·.action = other) = 0 := by
        apply countP_eq_zero.mpr
        intro running hrunning heq
        have htaken := (h.running running hrunning).2.1
        rw [of_decide_eq_true heq, ← hsame] at htaken
        exact huntaken htaken
      rw [hnone, Nat.zero_add]
      exact countP_le_length
    · have hnone : [call].countP (·.action = other) = 0 := by
        simp [hsame]
      rw [hnone]
      exact h.alone other

theorem Inv.execute (h : history.Inv) {action : FailedAction}
    (hhandler : history.system.registry.hasHandler action.effectClass = true)
    (hfree : ¬ history.system.store.Taken action.compensationKey) (raiseOnFailure : Bool) :
    (history.system.step (.execute action true raiseOnFailure)).1 = none ∧
      (history.after (.execute action true raiseOnFailure)).Inv := by
  obtain ⟨call, store, hexecute, rfl, hkey, hmarked⟩ :=
    CompensationRegistry.execute_of_free raiseOnFailure hhandler hfree
  have hstep : history.system.step (.execute call.action true raiseOnFailure) =
      (none, ⟨history.system.registry, store, history.system.calls ++ [call]⟩) := by
    simp [Compensations.step, hexecute, CompensationTurn.how, CompensationTurn.next]
  have hafter : history.after (.execute call.action true raiseOnFailure) =
      ⟨⟨history.system.registry, store, history.system.calls ++ [call]⟩,
        call.action :: history.taken, history.completed, history.exhausted⟩ := by
    simp [after, Compensations.after, Compensations.taking, Compensations.exhausting,
      Compensations.completing, hstep, hhandler, hfree]
  rw [hstep, hafter]
  exact ⟨rfl, h.take hhandler hfree hkey hmarked⟩

end Inv

end CompensationHistory

theorem PlannedRecoveryGateService.returned_of_settled {gate : PlannedRecoveryGateService}
    {index : Nat} {outcome : CompensationOutcome} {now : Int} {preparation : Preparation}
    {decision : GateDecision}
    (h : (gate.step (.compensated index outcome now preparation)).1 = some (.settled decision))
    (hmode : decision.mode = .staticCompensation) : outcome = .returned := by
  rw [step] at h
  cases hcall : gate.callAt index .compensating with
  | none =>
    rw [hcall] at h
    cases h
  | some call =>
    rw [hcall] at h
    cases outcome with
    | returned => rfl
    | cancelled => cases h
    | raised =>
      change some ((gate.resumeCall index).goOn
        { call with draft := call.draft.compensated .raised } now preparation).1 = _ at h
      cases hmirror : (gate.resumeCall index).shouldReflect call.input
          (call.draft.compensated .raised).mode with
      | false =>
        rw [goOn_of_not_reflects now preparation hmirror] at h
        cases h
        cases hmode
      | true =>
        have hcases := @goOn_of_reflects _
          { call with draft := call.draft.compensated .raised } now preparation hmirror
        rcases hcases with ⟨error, hraised⟩ | hpaused
        · rw [hraised] at h
          cases h
        · rw [hpaused] at h
          cases h

namespace CompensationHistory

section Law

variable {history : CompensationHistory} {index : Nat} {call : CompensationCall}
variable {event : CompensationEvent}

theorem honest_of_none (h : (history.system.step event).1 = none) : history.Honest event := by
  constructor
  · intro ended hended
    rw [h] at hended
    cases hended
  · intro ended hended
    rw [h] at hended
    cases hended

theorem Inv.honest_resumed (h : history.Inv) (hcall : history.system.calls[index]? = some call)
    {completes : Bool} {turn : CompensationTurn × DedupeStore}
    (hstep : history.system.step event = history.system.resume index call turn)
    (hafter : history.after event = history.resumed index call completes turn)
    (hprogress : call.Progress history.system.store completes turn) : history.Honest event := by
  obtain ⟨-, -, -, hleft⟩ := h.running call (mem_of_getElem? hcall)
  cases hprogress with
  | completed hmarked =>
    refine ⟨fun ended hended _ => ?_, fun ended hended _ _ _ _ _ _ _ _ => ?_⟩
    · rw [hstep] at hended
      cases hended
      rw [hafter]
      exact mem_cons_self
    · rw [hstep] at hended
      cases hended
      rw [hafter]
      exact hleft
  | exhausted message cause hmarked =>
    refine ⟨fun ended hended hback => ?_,
      fun ended hended hraises gate index now preparation decision hsettled hmode => ?_⟩
    · rw [hstep] at hended
      cases hended
      rw [EndedCompensation.answer, CompensationEnd.answer] at hback
      split at hback
      · cases hback
      · cases hback
    · have houtcome := PlannedRecoveryGateService.returned_of_settled hsettled hmode
      rw [hstep] at hended
      cases hended
      rw [EndedCompensation.answer, CompensationEnd.answer, if_pos hraises] at houtcome
      cases houtcome
  | goesOn haction hnext =>
    apply honest_of_none
    rw [hstep]
    rfl
  | left hhow =>
    refine ⟨fun ended hended hback => ?_,
      fun ended hended _ gate index now preparation decision hsettled hmode => ?_⟩
    · rw [hstep] at hended
      cases hended
      rcases hhow with rfl | rfl
      · cases hback
      · cases hback
    · have houtcome := PlannedRecoveryGateService.returned_of_settled hsettled hmode
      rw [hstep] at hended
      cases hended
      rcases hhow with rfl | rfl
      · cases houtcome
      · cases houtcome

theorem Inv.honest_skipped_iff (h : history.Inv) {action : FailedAction} {raiseOnFailure : Bool}
    (hstep : history.system.step (.execute action true raiseOnFailure) =
      (some ⟨action, raiseOnFailure, .skipped⟩, history.system))
    (hafter : history.after (.execute action true raiseOnFailure) = history) :
    history.Honest (.execute action true raiseOnFailure) ↔
      history.system.store.state action.compensationKey = some .acknowledged ∧
        action ∈ history.taken := by
  constructor
  · intro hhonest
    have hdone := hhonest.returned _ (congrArg Prod.fst hstep) rfl
    rw [hafter] at hdone
    have htaken := h.completed action hdone
    refine ⟨?_, htaken⟩
    rw [h.recorded action htaken, stateOf, if_pos hdone]
  · rintro ⟨hstate, htaken⟩
    have hdone : action ∈ history.completed := by
      rw [h.recorded action htaken, stateOf] at hstate
      by_contra hnot
      rw [if_neg hnot] at hstate
      split at hstate
      · cases hstate
      · cases hstate
    refine ⟨fun ended hended _ => ?_, fun ended hended _ _ _ _ _ _ _ _ hspent => ?_⟩
    · rw [hstep] at hended
      cases hended
      rw [hafter]
      exact hdone
    · rw [hstep] at hended
      cases hended
      rw [hafter] at hspent
      exact (h.exhausted action hspent).2 hdone

theorem callAt_eq_some {point : CompensationPoint}
    (h : history.system.callAt index point = some call) :
    history.system.calls[index]? = some call :=
  (Option.filter_eq_some_iff.mp h).1

theorem Inv.step_none (h : history.Inv) (hstep : history.system.step event = (none, history.system))
    (htaking : history.system.taking event = none)
    (hcompleting : history.system.completing event = none) :
    history.Honest event ∧ (history.after event).Inv := by
  have hafter : history.after event = history := by
    simp [after, Compensations.after, Compensations.exhausting, hstep, htaking, hcompleting]
  rw [hafter]
  exact ⟨honest_of_none (congrArg Prod.fst hstep), h⟩

theorem Inv.step_resumed (h : history.Inv) (hcall : history.system.calls[index]? = some call)
    {completes : Bool} {turn : CompensationTurn × DedupeStore}
    (hstep : history.system.step event = history.system.resume index call turn)
    (hafter : history.after event = history.resumed index call completes turn)
    (hprogress : call.Progress history.system.store completes turn) :
    history.Honest event ∧ (history.after event).Inv := by
  refine ⟨h.honest_resumed hcall hstep hafter hprogress, ?_⟩
  rw [hafter]
  exact h.resumed hcall hprogress

theorem Inv.step (h : history.Inv) (hshares : event.Shares) :
    (history.Honest event ↔ history.Meets event) ∧ (history.after event).Inv := by
  cases event with
  | register effectClass entry =>
    refine ⟨iff_of_true (honest_of_none rfl) trivial, ?_⟩
    exact { h with
      handled := fun action haction =>
        CompensationRegistry.hasHandler_register effectClass entry (h.handled action haction) }
  | execute action dedupe raiseOnFailure =>
    obtain rfl : dedupe = true := hshares
    cases hhandler : history.system.registry.hasHandler action.effectClass with
    | false =>
      have htaking : history.system.taking (.execute action true raiseOnFailure) = none := by
        simp [Compensations.taking, hhandler]
      obtain ⟨hstep, hafter⟩ := after_execute_of_ended rfl htaking
        (CompensationRegistry.execute_of_noHandler true raiseOnFailure hhandler)
      rw [hafter]
      refine ⟨iff_of_true ⟨fun ended hended hback => ?_,
        fun ended hended _ _ _ _ _ _ _ _ hspent => ?_⟩ ?_, h⟩
      · rw [hstep] at hended
        cases hended
        cases hback
      · rw [hstep] at hended
        cases hended
        rw [hafter] at hspent
        have hhandled := h.handled action (h.exhausted action hspent).1
        rw [hhandler] at hhandled
        cases hhandled
      · intro hentry
        rw [hhandler] at hentry
        cases hentry
    | true =>
      by_cases htaken : history.system.store.Taken action.compensationKey
      · have htaking : history.system.taking (.execute action true raiseOnFailure) = none := by
          simp [Compensations.taking, htaken]
        obtain ⟨hstep, hafter⟩ := after_execute_of_ended rfl htaking
          (CompensationRegistry.execute_of_taken raiseOnFailure hhandler htaken)
        rw [h.honest_skipped_iff hstep hafter, hafter]
        exact ⟨⟨fun hstate _ _ => hstate, fun hmeets => hmeets hhandler htaken⟩, h⟩
      · obtain ⟨hstep, hinv⟩ := h.execute hhandler htaken raiseOnFailure
        exact ⟨iff_of_true (honest_of_none hstep) fun _ hin => absurd hin htaken, hinv⟩
  | attempted index outcome =>
    refine And.imp_left (fun hhonest => iff_of_true hhonest trivial) ?_
    cases hcall : history.system.callAt index .attempting with
    | none =>
      refine h.step_none ?_ rfl (by cases outcome <;> simp [Compensations.completing, hcall])
      rw [Compensations.step, hcall]
    | some call =>
      have hmem := callAt_eq_some hcall
      have hstep : history.system.step (.attempted index outcome) =
          history.system.resume index call (call.attempted history.system.store outcome) := by
        rw [Compensations.step, hcall]
      exact h.step_resumed hmem hstep (after_attempted hcall outcome)
        (CompensationCall.progress_attempted (h.running call (mem_of_getElem? hmem)).1
          (h.dispatched (mem_of_getElem? hmem)) outcome)
  | paused index outcome =>
    refine And.imp_left (fun hhonest => iff_of_true hhonest trivial) ?_
    cases hcall : history.system.callAt index .pausing with
    | none =>
      refine h.step_none ?_ rfl rfl
      rw [Compensations.step, hcall]
    | some call =>
      have hmem := callAt_eq_some hcall
      have hstep : history.system.step (.paused index outcome) =
          history.system.resume index call (call.paused history.system.store outcome) := by
        rw [Compensations.step, hcall]
      exact h.step_resumed hmem hstep (after_paused hcall outcome)
        (CompensationCall.progress_paused (h.running call (mem_of_getElem? hmem)).1
          (h.dispatched (mem_of_getElem? hmem)) outcome)

end Law

/-- In a run of calls that share a store, what they answer is so exactly if every call that
finds a handler finds its key free, or acknowledged and taken for the very same action. -/
theorem along_honest_iff (registry : CompensationRegistry) (store : DedupeStore)
    {events : List CompensationEvent} (hshares : ∀ event ∈ events, event.Shares) :
    Along after Honest (start registry store) events ↔
      Along after Meets (start registry store) events := by
  have hdomain : Along after (fun _ event => event.Shares) (start registry store) events :=
    along_of_forall fun event hevent _ => hshares event hevent
  exact along_iff_along_within (fun _ _ h hevent _ => (h.step hevent).2)
    (fun _ _ h hevent => (h.step hevent).1) (inv_start registry store) hdomain

def oneHandler (effectClass : String) : CompensationRegistry :=
  CompensationRegistry.register ⟨.empty⟩ effectClass {}

def failedWrite (runId : String) : FailedAction := ⟨runId, "act-1", "compensatable_write"⟩

/-- A handler completes at the second attempt, and the compensation is called for again. -/
def completedAndCalled : List CompensationEvent :=
  [.execute (failedWrite "run-1") true true, .attempted 0 .timedOut, .paused 0 .woke,
    .attempted 0 .completed, .execute (failedWrite "run-1") true true]

theorem along_honest_completedAndCalled :
    Along after Honest (start (oneHandler "compensatable_write") .empty) completedAndCalled :=
  (along_honest_iff _ _ (by simp [completedAndCalled, CompensationEvent.Shares])).mpr
    ⟨fun _ htaken => absurd htaken (by decide), trivial, trivial, trivial,
      fun _ _ => by decide, trivial⟩

def failedAndCalled : List CompensationEvent :=
  [.execute (failedWrite "run-1") true true, .attempted 0 (.raised "compensation exploded"),
    .execute (failedWrite "run-1") true true]

/-- The second call returns `True` although the handler has not completed. -/
theorem failedAndCalled_not_honest :
    ¬ Along after Honest (start (oneHandler "compensatable_write") .empty) failedAndCalled := by
  rintro ⟨-, -, hhonest, -⟩
  have hdone := hhonest.returned ⟨failedWrite "run-1", true, .skipped⟩ (by decide) rfl
  exact absurd hdone (by decide)

end CompensationHistory

end HiAgent.Kernel
