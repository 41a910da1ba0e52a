/-
  Kernel/RunActorWorkflow/SignalsOnce.lean --- one event for each signal type and cause.

  Between the check of a token and its recording a delivery is suspended twice, and
  the tokens are those of one workflow object.
-/
import HiAgent.Kernel.RunActorWorkflow.Signals

namespace HiAgent.Kernel

open Foundation List

/-! ## What is counted -/

def ActorSignal.key (signal : ActorSignal) : Option (String × String) :=
  signal.cause.map fun cause => (signal.signalType, cause)

theorem ActorSignal.token_of_key {signal other : ActorSignal} {key : String × String}
    (hsignal : signal.key = some key) (hother : other.key = some key) :
    ∃ token, signal.token = some token ∧ other.token = some token := by
  obtain ⟨cause, hcause, rfl⟩ := Option.map_eq_some_iff.mp hsignal
  obtain ⟨otherCause, hotherCause, hkey⟩ := Option.map_eq_some_iff.mp hother
  obtain ⟨htype, rfl⟩ := Prod.mk.inj hkey
  refine ⟨signal.signalType ++ ":" ++ otherCause, ?_, ?_⟩
  · rw [ActorSignal.token, hcause, Option.map_some]
  · rw [ActorSignal.token, hotherCause, Option.map_some, htype]

/-- The delivery has passed the check, and the log has not taken its commit. -/
def SignalCall.unwritten (key : String × String) (call : SignalCall) : Bool :=
  call.signal.key == some key && match call.point with
    | .projecting => true
    | .appending _ => true
    | _ => false

/-- The log has taken the commit, and the token is not recorded yet. -/
def SignalCall.written (key : String × String) (call : SignalCall) : Bool :=
  call.signal.key == some key && match call.point with
    | .appended _ => true
    | _ => false

def SignalRecord.isFor (key : String × String) (record : SignalRecord) : Bool :=
  record.signal.key == some key

namespace RunActor

/-- The deliveries of a type and a cause that have passed the check and are not logged. -/
def unwritten (actor : RunActor) (key : String × String) : Nat :=
  actor.calls.countP (SignalCall.unwritten key)

def written (actor : RunActor) (key : String × String) : Nat :=
  actor.calls.countP (SignalCall.written key)

end RunActor

namespace SignalledRun

variable (run : SignalledRun)

def recorded (key : String × String) : Nat := run.log.countP (SignalRecord.isFor key)

def Once : Prop := ∀ key, run.recorded key ≤ 1

/-! ## The condition -/

/-- The loop over signals that an event enters: the workflow object it runs on and the
signals. -/
def loop : SignalEvent → Option (RunActor × List ActorSignal)
  | .started (some projection) =>
    match run.actor.point with
    | .projecting input =>
      let refreshed := { run.actor with lastProjection := some projection }
      if input.pinsPolicyVersions then none
      else some (refreshed.emptied, refreshed.buffered input)
    | _ => none
  | .pinned false =>
    match run.actor.point with
    | .pinning input => some (run.actor.emptied, run.actor.buffered input)
    | _ => none
  | .signal signal => if run.actor.runId = "" then none else some (run.actor, [signal])
  | .processed index false =>
    match run.actor.calls[index]? with
    | some ⟨_, .processing, behind⟩ =>
      let counted := (run.actor.moveCall index none).counted
      if counted.shouldContinueAsNew then none else some (counted, behind)
    | _ => none
  | _ => none

def passing (event : SignalEvent) : Option ActorSignal :=
  (run.loop event).bind fun looped => looped.2.find? looped.1.accepts

/-- A delivery that passes the check finds no other of its type and cause between its
own check and the recording of its token, and no event that an earlier workflow object
has appended for them; and an append does not raise once the log has taken the commit. -/
structure Meets (event : SignalEvent) : Prop where
  apart : ∀ signal key, run.passing event = some signal → signal.key = some key →
    run.actor.unwritten key = 0 ∧ run.actor.written key = 0 ∧
      ∀ record ∈ run.log, record.isFor key = true → record.instanceNumber = run.instanceNumber
  returns : ∀ index, event = .appended index true →
    ∀ call ∈ run.actor.calls[index]?, ∀ key, call.written key = false

/-! ## One event -/

/-- What holds between two events. -/
structure Inv (run : SignalledRun) : Prop where
  single : ∀ key, run.recorded key + run.actor.unwritten key ≤ 1
  remembered : ∀ record ∈ run.log, record.instanceNumber = run.instanceNumber →
    ∀ key, record.isFor key = true → 0 < run.actor.written key ∨
        ∀ token, record.signal.token = some token → token ∈ run.actor.seenSignalTokens
  earlier : ∀ record ∈ run.log, record.instanceNumber ≤ run.instanceNumber

end SignalledRun

namespace RunActor

variable {actor : RunActor}

theorem handleSignals_eq (actor : RunActor) (signals : List ActorSignal) :
    match signals.find? actor.accepts with
    | none => actor.handleSignals signals = actor
    | some signal => ∃ behind, actor.handleSignals signals = { actor with
        signalSequence := actor.signalSequence + 1
        calls := actor.calls ++ [⟨signal, .projecting, behind⟩] } := by
  induction signals with
  | nil => rfl
  | cons signal behind ih =>
    rw [find?_cons, handleSignals]
    cases haccepts : actor.accepts signal with
    | true => exact ⟨behind, rfl⟩
    | false => exact ih

theorem unwritten_moveCall {index : Nat} {call : SignalCall}
    (h : actor.calls[index]? = some call) (next : Option SignalCall) (key : String × String) :
    (actor.moveCall index next).unwritten key + [call].countP (SignalCall.unwritten key) =
      actor.unwritten key + next.toList.countP (SignalCall.unwritten key) :=
  Roster.countP_advance h (SignalCall.unwritten key) next

theorem written_moveCall {index : Nat} {call : SignalCall}
    (h : actor.calls[index]? = some call) (next : Option SignalCall) (key : String × String) :
    (actor.moveCall index next).written key + [call].countP (SignalCall.written key) =
      actor.written key + next.toList.countP (SignalCall.written key) :=
  Roster.countP_advance h (SignalCall.written key) next

theorem counts_of_processing {index : Nat} {signal : ActorSignal} {behind : List ActorSignal}
    (h : actor.calls[index]? = some ⟨signal, .processing, behind⟩) (key : String × String) :
    (actor.moveCall index none).unwritten key = actor.unwritten key ∧
      (actor.moveCall index none).written key = actor.written key := by
  have hblank := unwritten_moveCall h none key
  have hwritten := written_moveCall h none key
  simp only [countP_cons, countP_nil, SignalCall.unwritten, SignalCall.written,
    Bool.and_false, Bool.false_eq_true, if_false, Option.toList_none, Nat.add_zero]
    at hblank hwritten
  exact ⟨hblank, hwritten⟩

end RunActor

namespace SignalledRun

variable {run : SignalledRun} {event : SignalEvent}

theorem step_of_loop {looping : RunActor}
    {signals : List ActorSignal} (h : run.loop event = some (looping, signals)) :
    run.step event = run.withActor (looping.handleSignals signals) ∧
      looping.seenSignalTokens = run.actor.seenSignalTokens ∧
        ∀ key, looping.unwritten key = run.actor.unwritten key ∧
          looping.written key = run.actor.written key := by
  unfold loop at h
  split at h
  · -- `started`
    split at h
    · rename_i input hpoint
      split at h
      · cases h
      · rename_i hpins
        obtain ⟨rfl, rfl⟩ := Prod.mk.inj (Option.some.inj h)
        refine ⟨?_, rfl, fun key => ⟨rfl, rfl⟩⟩
        simp only [step, hpoint, if_neg hpins]
        rfl
    · cases h
  · -- `pinned`
    split at h
    · rename_i input hpoint
      obtain ⟨rfl, rfl⟩ := Prod.mk.inj (Option.some.inj h)
      refine ⟨?_, rfl, fun key => ⟨rfl, rfl⟩⟩
      simp only [step, hpoint, Bool.false_eq_true, if_false]
      rfl
    · cases h
  · -- `signal`
    split at h
    · cases h
    · rename_i hstarted
      obtain ⟨rfl, rfl⟩ := Prod.mk.inj (Option.some.inj h)
      refine ⟨?_, rfl, fun key => ⟨rfl, rfl⟩⟩
      rw [step, RunActor.deliver, if_neg hstarted]
  · -- `processed`
    split at h
    · rename_i signal behind hcall
      simp only at h
      split at h
      · cases h
      · rename_i hstays
        obtain ⟨rfl, rfl⟩ := Prod.mk.inj (Option.some.inj h)
        refine ⟨?_, rfl, RunActor.counts_of_processing hcall⟩
        simp only [step, hcall, Bool.false_eq_true, if_false, finish, if_neg hstays]
    · cases h
  · cases h

section

variable (h : Inv run)
include h

theorem Inv.frame {actor : RunActor} (hblank : ∀ key, actor.unwritten key ≤ run.actor.unwritten key)
    (hwritten : ∀ key, run.actor.written key ≤ actor.written key)
    (hseen : run.actor.seenSignalTokens ⊆ actor.seenSignalTokens) : Inv (run.withActor actor) where
  single key := Nat.le_trans (Nat.add_le_add_left (hblank key) _) (h.single key)
  remembered record hrecord hnow key hfor := by
    rcases h.remembered record hrecord hnow key hfor with hpending | htoken
    · exact .inl (Nat.lt_of_lt_of_le hpending (hwritten key))
    · exact .inr fun token hsome => hseen (htoken token hsome)
  earlier := h.earlier

theorem Inv.unrecorded {looping : RunActor}
    {signals : List ActorSignal} {signal : ActorSignal} {key : String × String}
    (hmeets : run.Meets event) (hloop : run.loop event = some (looping, signals))
    (hfirst : signals.find? looping.accepts = some signal) (hkey : signal.key = some key) :
    run.recorded key = 0 ∧ run.actor.unwritten key = 0 := by
  obtain ⟨-, hseen, -⟩ := step_of_loop hloop
  have hpassing : run.passing event = some signal := by
    rw [passing, hloop, Option.bind_some]
    exact hfirst
  obtain ⟨hblank, hwritten, hearlier⟩ := hmeets.apart signal key hpassing hkey
  refine ⟨?_, hblank⟩
  rw [recorded, countP_eq_zero]
  intro record hrecord hfor
  -- the object that passes the check has recorded the token of its own events
  rcases h.remembered record hrecord (hearlier record hrecord hfor) key hfor with
    hpending | htoken
  · omega
  · have hsame : record.signal.key = some key := beq_iff_eq.mp hfor
    obtain ⟨token, hrecordToken, hsignalToken⟩ := ActorSignal.token_of_key hsame hkey
    have haccepts := find?_some hfirst
    rw [RunActor.accepts, hsignalToken, Option.any_some, hseen,
      contains_iff_mem.mpr (htoken token hrecordToken)] at haccepts
    simp at haccepts

theorem Inv.loop {looping : RunActor} {signals : List ActorSignal} (hmeets : run.Meets event)
    (hloop : run.loop event = some (looping, signals)) : Inv (run.step event) := by
  obtain ⟨hstep, hseen, hcounts⟩ := step_of_loop hloop
  have hhandled := RunActor.handleSignals_eq looping signals
  rw [hstep]
  cases hfirst : signals.find? looping.accepts with
  | none =>
    rw [hfirst] at hhandled
    rw [hhandled]
    exact h.frame (fun key => Nat.le_of_eq (hcounts key).1)
      (fun key => Nat.le_of_eq (hcounts key).2.symm) (fun token htoken => hseen ▸ htoken)
  | some signal =>
    rw [hfirst] at hhandled
    obtain ⟨behind, hhandled⟩ := hhandled
    rw [hhandled]
    refine ⟨?_, ?_, h.earlier⟩
    · intro key
      have hcount : RunActor.unwritten { looping with
          signalSequence := looping.signalSequence + 1
          calls := looping.calls ++ [⟨signal, .projecting, behind⟩] } key =
            run.actor.unwritten key + if signal.key = some key then 1 else 0 := by
        rw [← (hcounts key).1]
        simp [RunActor.unwritten, SignalCall.unwritten]
      have hsingle := h.single key
      simp only [withActor, recorded, hcount] at hsingle ⊢
      split
      · rename_i hkey
        obtain ⟨hnoted, hblank⟩ := h.unrecorded hmeets hloop hfirst hkey
        rw [recorded] at hnoted
        omega
      · exact hsingle
    · intro record hrecord hnow key hfor
      rcases h.remembered record hrecord hnow key hfor with hpending | htoken
      · refine .inl (Nat.lt_of_lt_of_le hpending ?_)
        rw [← (hcounts key).2]
        simp [withActor, RunActor.written]
      · exact .inr fun token hsome => hseen ▸ htoken token hsome

theorem Inv.quiet {actor : RunActor} (hcalls : actor.calls = run.actor.calls)
    (hseen : actor.seenSignalTokens = run.actor.seenSignalTokens) : Inv (run.withActor actor) := by
  apply h.frame
  · exact fun key => Nat.le_of_eq (congrArg (List.countP (SignalCall.unwritten key)) hcalls)
  · exact fun key => Nat.le_of_eq (congrArg (List.countP (SignalCall.written key)) hcalls).symm
  · exact fun token htoken => hseen ▸ htoken

theorem Inv.moveCall {index : Nat} {call : SignalCall}
    (hcall : run.actor.calls[index]? = some call) (next : Option SignalCall)
    (hblank : ∀ key, next.toList.countP (SignalCall.unwritten key) ≤
      [call].countP (SignalCall.unwritten key))
    (hwritten : ∀ key, [call].countP (SignalCall.written key) ≤
      next.toList.countP (SignalCall.written key)) :
    Inv (run.withActor (run.actor.moveCall index next)) := by
  apply h.frame
  · intro key
    have hcount := RunActor.unwritten_moveCall hcall next key
    have hle := hblank key
    omega
  · intro key
    have hcount := RunActor.written_moveCall hcall next key
    have hle := hwritten key
    omega
  · exact fun token htoken => htoken

theorem Inv.ended {index : Nat} {call : SignalCall}
    (hcall : run.actor.calls[index]? = some call) (hwritten : ∀ key, call.written key = false) :
    Inv (run.withActor (run.actor.moveCall index none)) := by
  apply h.moveCall hcall
  · exact fun key => Nat.zero_le _
  · intro key
    rw [countP_cons, hwritten key]
    exact Nat.le_refl _

theorem Inv.started {projection : Option RunProjection}
    (hmeets : run.Meets (.started projection)) : Inv (run.step (.started projection)) := by
  cases hloop : run.loop (.started projection) with
  | some looped => exact h.loop hmeets hloop
  | none =>
    simp only [SignalledRun.step]
    split
    · exact h.quiet rfl rfl
    · rename_i input projection hpoint
      simp only [SignalledRun.loop, hpoint] at hloop
      split
      · exact h.quiet rfl rfl
      · rename_i hpins
        rw [if_neg hpins] at hloop
        cases hloop
    · exact h

theorem Inv.pinned {raised : Bool} (hmeets : run.Meets (.pinned raised)) :
    Inv (run.step (.pinned raised)) := by
  cases hloop : run.loop (.pinned raised) with
  | some looped => exact h.loop hmeets hloop
  | none =>
    simp only [SignalledRun.step]
    split
    · rename_i input hpoint
      cases raised with
      | true => exact h.quiet rfl rfl
      | false =>
        simp only [SignalledRun.loop, hpoint] at hloop
        cases hloop
    · exact h

theorem Inv.signal {signal : ActorSignal} (hmeets : run.Meets (.signal signal)) :
    Inv (run.step (.signal signal)) := by
  cases hloop : run.loop (.signal signal) with
  | some looped => exact h.loop hmeets hloop
  | none =>
    have hstarting : run.actor.runId = "" := by
      by_contra hstarted
      simp only [SignalledRun.loop, if_neg hstarted] at hloop
      cases hloop
    rw [SignalledRun.step, RunActor.deliver, if_pos hstarting]
    exact h.quiet rfl rfl

theorem Inv.projected (index : Nat) (projection : Option RunProjection)
    (now : String) : Inv (run.step (.projected index projection now)) := by
  simp only [SignalledRun.step]
  split
  · rename_i signal behind hcall
    exact h.ended hcall fun key => Bool.and_false _
  · rename_i signal behind projection hcall
    apply h.moveCall hcall
    · exact fun key => Nat.le_refl _
    · exact fun key => Nat.le_refl _
  · exact h

end

theorem recorded_append (run : SignalledRun) (signal : ActorSignal) (commit : ActionCommit)
    (key : String × String) : (run.append signal commit).recorded key =
      run.recorded key + if (signal.key == some key) = true then 1 else 0 := by
  rw [append, recorded, recorded, countP_append, countP_singleton]
  rfl

theorem Inv.logged (h : Inv run) (index : Nat) : Inv (run.step (.logged index)) := by
  simp only [SignalledRun.step]
  split
  · rename_i signal commit behind hcall
    have hblank := RunActor.unwritten_moveCall hcall
      (some ⟨signal, .appended commit, behind⟩)
    have hwritten := RunActor.written_moveCall hcall
      (some ⟨signal, .appended commit, behind⟩)
    refine ⟨?_, ?_, ?_⟩
    · -- the delivery is counted in the log from now on
      intro key
      have hsingle := h.single key
      have hcount := hblank key
      simp only [SignalCall.unwritten, countP_cons, countP_nil, Option.toList_some,
        Bool.and_true, Bool.and_false, Bool.false_eq_true, if_false, Nat.zero_add,
        Nat.add_zero] at hcount
      rw [recorded_append]
      simp only [append, withActor, recorded] at hsingle ⊢
      omega
    · intro record hrecord hnow key hfor
      have hcount := hwritten key
      simp only [SignalCall.written, countP_cons, countP_nil, Option.toList_some,
        Bool.and_true, Bool.and_false, Bool.false_eq_true, if_false, Nat.zero_add,
        Nat.add_zero] at hcount
      rcases mem_append.mp hrecord with hold | hnew
      · refine (h.remembered record hold hnow key hfor).imp_left ?_
        intro hpending
        simp only [append, withActor]
        omega
      · rw [mem_singleton] at hnew
        subst hnew
        rw [SignalRecord.isFor] at hfor
        rw [hfor, if_pos rfl] at hcount
        left
        simp only [append, withActor]
        omega
    · intro record hrecord
      rcases mem_append.mp hrecord with hold | hnew
      · exact h.earlier record hold
      · rw [mem_singleton] at hnew
        rw [hnew]
        exact Nat.le_refl _
  · exact h

theorem Inv.appended (h : Inv run) {index : Nat} {raised : Bool}
    (hmeets : run.Meets (.appended index raised)) : Inv (run.step (.appended index raised)) := by
  simp only [SignalledRun.step]
  split
  · rename_i signal commit behind hcall
    split
    · exact h.ended hcall fun key => Bool.and_false _
    · exact h
  · rename_i signal commit behind hcall
    split
    · rename_i hraised
      subst hraised
      exact h.ended hcall (hmeets.returns index rfl _ hcall)
    · -- the token is recorded as the delivery leaves the append
      have hwritten := RunActor.written_moveCall hcall (some ⟨signal, .processing, behind⟩)
      have hblank := RunActor.unwritten_moveCall hcall
        (some ⟨signal, .processing, behind⟩)
      refine ⟨?_, ?_, h.earlier⟩
      · intro key
        have hcount := hblank key
        simp only [SignalCall.unwritten, countP_cons, countP_nil,
          Option.toList_some, Bool.and_false, Bool.false_eq_true, if_false, Nat.add_zero]
          at hcount
        exact hcount ▸ h.single key
      · intro record hrecord hnow key hfor
        have hcount := hwritten key
        simp only [SignalCall.written, countP_cons, countP_nil, Option.toList_some,
          Bool.and_true, Bool.and_false, Bool.false_eq_true, if_false, Nat.zero_add,
          Nat.add_zero] at hcount
        have hrecordKey : record.signal.key = some key := beq_iff_eq.mp hfor
        by_cases hkey : signal.key = some key
        · refine .inr fun token hsome => ?_
          obtain ⟨shared, hrecordToken, hsignalToken⟩ :=
            ActorSignal.token_of_key hrecordKey hkey
          obtain rfl := Option.some.inj (hsome.symm.trans hrecordToken)
          simp [withActor, RunActor.moveCall, RunActor.remember, hsignalToken]
        · rw [beq_false_of_ne hkey, if_neg Bool.false_ne_true] at hcount
          rcases h.remembered record hrecord hnow key hfor with hpending | htoken
          · left
            exact Nat.lt_of_lt_of_le hpending (Nat.le_of_eq hcount.symm)
          · exact .inr fun token hsome => mem_append_left _ (htoken token hsome)
  · exact h

theorem Inv.processed (h : Inv run) {index : Nat} {raised : Bool}
    (hmeets : run.Meets (.processed index raised)) : Inv (run.step (.processed index raised)) := by
  cases hloop : run.loop (.processed index raised) with
  | some looped => exact h.loop hmeets hloop
  | none =>
    simp only [SignalledRun.step]
    split
    · rename_i signal behind hcall
      cases raised with
      | true => exact h.ended hcall fun key => Bool.and_false _
      | false =>
        simp only [SignalledRun.loop, hcall] at hloop
        rw [if_neg Bool.false_ne_true, finish]
        by_cases hgoes : (run.actor.moveCall index none).counted.shouldContinueAsNew = true
        · -- a new object, which has appended nothing
          simp only [hgoes, if_true]
          refine ⟨?_, ?_, ?_⟩
          · intro key
            exact Nat.le_trans (Nat.add_le_add_left (Nat.zero_le _) _) (h.single key)
          · intro record hrecord hnow
            have hle := h.earlier record hrecord
            simp only at hnow
            omega
          · exact fun record hrecord => Nat.le_succ_of_le (h.earlier record hrecord)
        · rw [if_neg hgoes] at hloop
          cases hloop
    · exact h

/-- A step that meets the condition writes no signal twice. -/
theorem Inv.step (h : Inv run) (hmeets : run.Meets event) : Inv (run.step event) := by
  cases event with
  | run =>
    simp only [SignalledRun.step]
    split
    · exact h.quiet rfl rfl
    · exact h
  | started projection => exact h.started hmeets
  | pinned raised => exact h.pinned hmeets
  | signal signal => exact h.signal hmeets
  | projected index projection now => exact h.projected index projection now
  | logged index => exact h.logged index
  | appended index raised => exact h.appended hmeets
  | refreshed projection => exact h.quiet rfl rfl
  | processed index raised => exact h.processed hmeets

/-! ## Every run -/

theorem inv_start (inTemporal : Bool) (historyEventThreshold : Int) (input : RunInput) :
    Inv (start inTemporal historyEventThreshold input) where
  single _ := Nat.zero_le _
  remembered _ hrecord := absurd hrecord not_mem_nil
  earlier _ hrecord := absurd hrecord not_mem_nil

theorem Inv.once (h : Inv run) : run.Once :=
  fun key => Nat.le_trans (Nat.le_add_right _ _) (h.single key)

/-- Where no two deliveries of one type and cause overlap, none is repeated behind a
`continue_as_new`, and no append raises once it is done, the log never has two events
for one type and cause. -/
theorem once_of_meets (inTemporal : Bool) (historyEventThreshold : Int) (input : RunInput)
    (events : List SignalEvent)
    (hmeets : Along step Meets (start inTemporal historyEventThreshold input) events) :
    Always step Once (start inTemporal historyEventThreshold input) events :=
  always_of_invariant (fun _ _ hinv hguard => hinv.step hguard) (fun _ hinv => hinv.once)
    (inv_start inTemporal historyEventThreshold input) hmeets

/-! ## A callback that is delivered twice -/

theorem Meets.of_idle (hpassing : run.passing event = none)
    (hevent : ∀ index, event ≠ .appended index true) : run.Meets event where
  apart signal key hsignal := by
    rw [hpassing] at hsignal
    cases hsignal
  returns index heq := absurd heq (hevent index)

/-- An approval, as its callback sends it. -/
def approval : ActorSignal where
  signalType := "approval_submitted"
  signalPayload := none
  causedBy := some "callback-1"
  fromPeerRunId := none

def oneRun : RunInput where
  runId := "r-1"
  sessionId := none
  parentRunId := none
  pendingSignals := []
  pinsPolicyVersions := false

def approved : List SignalEvent :=
  [.run, .started (some (defaultProjection "r-1")), .signal approval]

def appendedAt (index : Nat) : List SignalEvent :=
  [.projected index (some (defaultProjection "r-1")) "2026-05-05T00:00:00Z", .logged index]

def inTurn : List SignalEvent :=
  approved ++ appendedAt 0 ++ [.appended 0 false, .processed 0 false, .signal approval]

theorem once_inTurn : Along step Meets (start false 10000 oneRun) inTurn ∧
      Always step Once (start false 10000 oneRun) inTurn := by
  have hmeets : Along step Meets (start false 10000 oneRun) inTurn :=
    ⟨.of_idle rfl (by intro _ h; cases h), .of_idle rfl (by intro _ h; cases h),
      ⟨fun _ _ _ _ => ⟨rfl, rfl, fun _ hrecord => absurd hrecord not_mem_nil⟩,
        by intro _ h; cases h⟩,
      .of_idle rfl (by intro _ h; cases h), .of_idle rfl (by intro _ h; cases h),
      .of_idle rfl (by intro _ h; cases h), .of_idle rfl (by intro _ h; cases h),
      .of_idle rfl (by intro _ h; cases h), trivial⟩
  exact ⟨hmeets, once_of_meets false 10000 oneRun inTurn hmeets⟩

/-- Two deliveries that overlap are both appended. -/
theorem not_once_overlapping :
    ¬ ∀ (inTemporal : Bool) (historyEventThreshold : Int) (input : RunInput)
        (events : List SignalEvent),
      Always step Once (start inTemporal historyEventThreshold input) events := by
  intro h
  have honce := (h false 10000 oneRun
    (approved ++ [.signal approval] ++ appendedAt 0 ++ appendedAt 1)).last
  exact absurd (honce ("approval_submitted", "callback-1")) (by decide)

end SignalledRun

end HiAgent.Kernel
