/-
  Kernel/AtMostOnce.lean --- turns after turns over one dedupe store.

  A turn that calls its executor has taken a free key of the store on the way, and no key is ever
  freed: so one key stands for one call. That key is the dispatch key, unless the turn went on
  without a reservation, and the legacy key as well, provided the calls about the legacy key did
  not raise: the mirror "must not block dispatch".
-/
import HiAgent.Foundation.Machine
import HiAgent.Kernel.TurnEngine

namespace HiAgent.Kernel

open Foundation List

namespace Turn

variable {turn : Turn} {key : String}

/-! ## Keys stay taken -/

variable {store : DedupeStore}

theorem taken_markMethod {ending : Ending} {marked : String}
    (h : store.Taken key) : (markMethod ending marked store).2.Taken key := by
  cases ending with
  | _ => exact DedupeStore.taken_mark_iff.mpr h

variable {execution : Execution}

theorem taken_step {call : StoreCall} {position : Position} (h : store.Taken key) :
    (turn.step call execution position store).2.Taken key := by
  cases position with
  | lookup => exact StoreCall.taken_perform id h
  | settle _ _ | settleAlias _ => exact StoreCall.taken_perform taken_markMethod h
  | execute dedupeAvailable aliased => exact h
  | finished invoked result => exact h
  | _ =>
    exact StoreCall.taken_perform
      (fun h => DedupeStore.taken_reserveAndDispatch_iff.mpr (Or.inl h)) h

variable {calls : TurnCalls}

theorem taken_drive {n : Nat} {point : Position × DedupeStore}
    (h : point.2.Taken key) : (turn.drive calls n point).2.Taken key := by
  induction n generalizing point with
  | zero => exact h
  | succ n ih => exact ih (taken_step h)

/-! ## Past the mirror -/

theorem conclude_past (dedupeAvailable aliased : Bool) (execution : Execution) :
    (conclude dedupeAvailable aliased execution).committed = true ∧
      conclude dedupeAvailable aliased execution ≠ .mirror := by
  have hafter : ∀ ending, (conclude.after dedupeAvailable aliased ending).committed = true ∧
        conclude.after dedupeAvailable aliased ending ≠ .mirror := by
    intro ending
    unfold conclude.after
    cases dedupeAvailable with
    | _ => exact ⟨rfl, nofun⟩
  cases execution with
  | cancelled => exact ⟨rfl, nofun⟩
  | raises error => exact hafter (.raised error)
  | returns result =>
    cases result with
    | dict fields =>
      unfold conclude
      dsimp only
      rcases Classical.em ((PyDict.get fields "acknowledged"
        (.bool false)).truthy = true) with hacknowledged | hnot
      · rw [if_pos hacknowledged]
        exact hafter .acknowledged
      · rw [if_neg hnot]
        exact hafter .unacknowledged
    | _ => exact ⟨rfl, nofun⟩

theorem settled_past (aliased : Bool) (ending : Ending) (answer : Except String Unit) :
    (settled aliased ending answer).committed = true ∧ settled aliased ending answer ≠ .mirror := by
  have hfurther : (settled.further aliased ending).committed = true ∧
      settled.further aliased ending ≠ .mirror := by
    unfold settled.further
    cases aliased with
    | _ => exact ⟨rfl, nofun⟩
  cases answer with
  | ok _ => exact hfurther
  | error error =>
    cases ending with
    | raised first => exact hfurther
    | _ => exact ⟨rfl, nofun⟩

/-! ## The dispatch key -/

theorem start_committed (turn : Turn) : turn.start.committed = false := by
  unfold start
  split <;> rfl

theorem key_of_commits {call : StoreCall} {position : Position} (hfirm : position = .reserve →
      turn.action.effectClass = .idempotentWrite → call = .returns)
    (hbefore : position.committed = false)
    (hafter : (turn.step call execution position store).1.committed = true) :
    ¬ store.Taken turn.key ∧ (turn.step call execution position store).2.Taken turn.key := by
  cases position with
  | lookup =>
    exfalso
    change (looked _).committed = true at hafter
    unfold looked at hafter
    split at hafter <;> cases hafter
  | reserve =>
    change (turn.reserved _).committed = true at hafter
    cases call with
    | returns =>
      refine ⟨fun htaken => ?_, DedupeStore.taken_reserveAndDispatch_iff.mpr (Or.inr (by simp))⟩
      rw [← envelope_key] at htaken
      obtain ⟨existing, hthere⟩ :=
        DedupeStore.reserveAndDispatch_of_taken none htaken
      rw [StoreCall.perform_returns, hthere] at hafter
      cases hafter
    | raises error applied =>
      -- an action that may not be degraded has raised here
      have hfirm' : turn.action.effectClass ≠ .idempotentWrite :=
        fun heffect => nomatch hfirm rfl heffect
      simp [StoreCall.perform, reserved, hfirm', Position.committed, Position.invoked] at hafter
  | finished invoked result => exact absurd (hbefore.symm.trans hafter) nofun
  | _ => cases hbefore

theorem key_of_drive (hfirm : turn.action.effectClass = .idempotentWrite → calls.reserve = .returns)
    {n : Nat} {point : Position × DedupeStore} (hbefore : point.1.committed = false)
    (hafter : (turn.drive calls n point).1.committed = true) :
    ¬ point.2.Taken turn.key ∧ (turn.drive calls n point).2.Taken turn.key := by
  induction n generalizing point with
  | zero => exact absurd (hbefore.symm.trans hafter) nofun
  | succ n ih =>
    rw [drive] at hafter ⊢
    cases hstep : (turn.step (calls.at point.1) calls.execution point.1
        point.2).1.committed with
    | true =>
      have hcall : point.1 = .reserve → turn.action.effectClass = .idempotentWrite →
            calls.at point.1 = .returns := by
        intro hreserve heffect
        rw [hreserve]
        exact hfirm heffect
      obtain ⟨hfree, htaken⟩ := key_of_commits hcall hbefore hstep
      exact ⟨hfree, taken_drive htaken⟩
    | false =>
      obtain ⟨hfree, htaken⟩ := ih hstep hafter
      exact ⟨fun h => hfree (taken_step h), htaken⟩

/-! ## The legacy key -/

theorem drive_finished (turn : Turn) (calls : TurnCalls) (n : Nat) (invoked : Bool)
    (result : Except String TurnOutcomeKind) (store : DedupeStore) :
    turn.drive calls n (.finished invoked result, store) = (.finished invoked result, store) := by
  induction n with
  | zero => rfl
  | succ n ih => exact ih

theorem reserve_leads {call : StoreCall}
    (hfirm : turn.action.effectClass = .idempotentWrite → call = .returns) :
    (turn.step call execution .reserve store).1 =
        (if turn.legacyKey = turn.key then .execute true false else .mirror) ∨
      ∃ result, (turn.step call execution .reserve store).1 = .finished false result := by
  change turn.reserved _ = _ ∨ ∃ result, turn.reserved _ = _
  unfold reserved
  split
  · exact Or.inl rfl
  · exact Or.inr ⟨_, rfl⟩
  · rename_i error herror
    cases call with
    | returns =>
      rcases Classical.em (store.Taken turn.envelope.dispatchIdempotencyKey)
        with htaken | hfree
      · obtain ⟨existing, hthere⟩ :=
          DedupeStore.reserveAndDispatch_of_taken none htaken
        rw [StoreCall.perform_returns, hthere] at herror
        cases herror
      · rw [StoreCall.perform_returns, DedupeStore.reserveAndDispatch_of_free hfree] at herror
        cases herror
    | raises error applied =>
      exact Or.inr ⟨_, if_neg fun heffect => nomatch hfirm heffect⟩

theorem legacyKey_of_run (hlookup : calls.lookup = .returns) (hmirror : calls.mirror = .returns)
    (hfirm : turn.action.effectClass = .idempotentWrite → calls.reserve = .returns)
    (h : (turn.run calls store).1.invoked = true) :
    ¬ store.Taken turn.legacyKey ∧ (turn.run calls store).2.Taken turn.legacyKey := by
  rcases Classical.em (turn.legacyKey = turn.key) with hkeys | hkeys
  · have hstart : turn.start.committed = false := by
      simp [start, hkeys, Position.committed, Position.invoked]
    rw [hkeys]
    exact key_of_drive hfirm turn.start_committed (Position.committed_of_invoked h)
  · have hrun : turn.run calls store =
        turn.drive calls 5 (turn.step calls.lookup calls.execution .lookup store) := by
      simp [run, start, hkeys, drive, TurnCalls.at]
    rw [hrun, hlookup] at h ⊢
    cases hrecord : store.lookup turn.legacyKey with
    | some record =>
      exfalso
      have hstep : turn.step .returns calls.execution .lookup store =
          (.finished false (.ok .blocked), store) := by
        simp [step, DedupeStore.get, looked, hrecord]
      rw [hstep, drive_finished] at h
      cases h
    | none =>
      have hfree : ¬ store.Taken turn.legacyKey :=
        DedupeStore.not_taken_iff.mpr hrecord
      have hstep : turn.step .returns calls.execution .lookup store = (.reserve, store) := by
        simp [step, DedupeStore.get, looked, hrecord]
      rw [hstep] at h ⊢
      refine ⟨hfree, ?_⟩
      have hdrive : turn.drive calls 5 (.reserve, store) = turn.drive calls 4
            (turn.step calls.reserve calls.execution .reserve store) := rfl
      rw [hdrive] at h ⊢
      generalize hpoint : turn.step calls.reserve calls.execution .reserve store = point at h ⊢
      have hleads : point.1 = .mirror ∨ ∃ result, point.1 = .finished false result := by
        rw [← hpoint, ← if_neg (c := turn.legacyKey = turn.key)
          (t := Position.execute true false) (e := Position.mirror) hkeys]
        exact reserve_leads hfirm
      obtain ⟨position, after⟩ := point
      rcases hleads with rfl | ⟨result, rfl⟩
      · have hnext : turn.drive calls 4 (.mirror, after) = turn.drive calls 3
              (turn.step calls.mirror calls.execution .mirror after) := rfl
        rw [hnext, hmirror]
        apply taken_drive
        exact DedupeStore.taken_reserveAndDispatch_iff.mpr (Or.inr (by simp))
      · rw [drive_finished] at h
        cases h

end Turn

/-! ## Sequences of turns -/

/-- A call of `run_turn`. -/
structure TurnCall where
  request : TurnRequest
  calls : TurnCalls

/-- A store, and the turns whose executor has been called, oldest first. -/
structure Ledger where
  store : DedupeStore
  invocations : List Turn

def runTurn (engine : Engine) (ledger : Ledger) (call : TurnCall) : Ledger :=
  match prepare engine call.request with
  | .ready turn =>
    let point := turn.run call.calls ledger.store
    { store := point.2
      invocations :=
        if point.1.invoked then ledger.invocations ++ [turn]
        else ledger.invocations }
  | _ => ledger

namespace Ledger

def opening (store : DedupeStore) : Ledger := ⟨store, []⟩

/-- The executor has been called once at most for the turns that `p` picks, and not
at all while the key is free. -/
def Guards (p : Turn → Bool) (key : String) (ledger : Ledger) : Prop :=
  ledger.invocations.countP p ≤ 1 ∧ (0 < ledger.invocations.countP p → ledger.store.Taken key)

/-- A turn that `p` picks calls its executor only where the key is free, and takes
it. -/
def Takes (engine : Engine) (p : Turn → Bool) (key : String) (call : TurnCall) : Prop :=
  ∀ turn, prepare engine call.request = .ready turn → p turn = true →
    ∀ store, (turn.run call.calls store).1.invoked = true →
      ¬ store.Taken key ∧ (turn.run call.calls store).2.Taken key

theorem guards_opening (p : Turn → Bool) (key : String) (store : DedupeStore) :
    (opening store).Guards p key :=
  ⟨Nat.zero_le 1, fun h => absurd h (Nat.lt_irrefl 0)⟩

theorem guards_step {engine : Engine} {p : Turn → Bool} {key : String}
    {ledger : Ledger} {call : TurnCall} (hguards : ledger.Guards p key)
    (htakes : Takes engine p key call) : (runTurn engine ledger call).Guards p key := by
  unfold runTurn
  cases hprepare : prepare engine call.request with
  | ready turn =>
    obtain ⟨honce, htaken⟩ := hguards
    dsimp only
    cases hinvoked : (turn.run call.calls ledger.store).1.invoked with
    | false =>
      refine ⟨honce, fun hsome => ?_⟩
      exact Turn.taken_drive (htaken hsome)
    | true =>
      cases hp : p turn with
      | false =>
        have hcount : (ledger.invocations ++ [turn]).countP p = ledger.invocations.countP p := by
          simp [hp]
        rw [Guards, if_pos rfl, hcount]
        exact ⟨honce, fun hsome => Turn.taken_drive (htaken hsome)⟩
      | true =>
        obtain ⟨hfree, hnow⟩ := htakes turn hprepare hp _ hinvoked
        have hnone : ledger.invocations.countP p = 0 := by
          rcases Nat.eq_zero_or_pos (ledger.invocations.countP p) with h | h
          · exact h
          · exact absurd (htaken h) hfree
        have hcount : (ledger.invocations ++ [turn]).countP p = 1 := by
          simp [hp, hnone]
        rw [Guards, if_pos rfl, hcount]
        exact ⟨Nat.le_refl 1, fun _ => hnow⟩
  | _ => exact hguards

theorem guards_exec {engine : Engine} (p : Turn → Bool) (key : String)
    {store : DedupeStore} {calls : List TurnCall}
    (htakes : ∀ call ∈ calls, Takes engine p key call) :
    (exec (runTurn engine) (opening store) calls).Guards p key := by
  have hguard : Along (runTurn engine) (fun _ call => Takes engine p key call)
      (opening store) calls :=
    along_of_forall fun call hcall _ => htakes call hcall
  exact exec_invariant (fun ledger call hinv htakes => guards_step hinv htakes)
    (guards_opening p key store) hguard

end Ledger

def Turn.isFor (runId actionId : String) (basedOnOffset : Int) (turn : Turn) : Bool :=
  turn.input.runId = runId ∧ turn.action.actionId = actionId ∧
    turn.input.basedOnOffset = basedOnOffset

/-- The turn dispatches under this key, and may not go on without a reservation. -/
def Turn.isFirmFor (key : String) (turn : Turn) : Bool :=
  turn.key = key ∧ turn.action.effectClass ≠ .idempotentWrite

theorem Turn.legacyKey_of_isFor {turn : Turn} {runId actionId : String}
    {basedOnOffset : Int} (h : turn.isFor runId actionId basedOnOffset = true) :
    turn.legacyKey = legacyDispatchDedupeKey runId actionId basedOnOffset := by
  obtain ⟨hrun, haction, hoffset⟩ := of_decide_eq_true h
  rw [Turn.legacyKey, hrun, haction, hoffset]

/-- No call about the legacy key raises, nor the reservation of the dispatch key of
an action that could go on without it. -/
def TurnCalls.Steady (calls : TurnCalls) (turn : Turn) : Prop :=
  calls.lookup = .returns ∧ calls.mirror = .returns ∧
    (turn.action.effectClass = .idempotentWrite → calls.reserve = .returns)

/-- The executor is called at most once per dispatch key for the actions that are no
idempotent writes, and at most once per run, action and offset as long as the turns
there are steady. -/
theorem invoked_at_most_once (engine : Engine) (store : DedupeStore) (calls : List TurnCall) :
    (∀ key, ((exec (runTurn engine) (.opening store) calls).invocations.filter
        (Turn.isFirmFor key)).length ≤ 1) ∧ ∀ runId actionId basedOnOffset,
        (∀ call ∈ calls, ∀ turn, prepare engine call.request = .ready turn →
          turn.isFor runId actionId basedOnOffset = true → call.calls.Steady turn) →
        ((exec (runTurn engine) (.opening store) calls).invocations.filter
          (Turn.isFor runId actionId basedOnOffset)).length ≤ 1 := by
  constructor
  · intro key
    rw [← countP_eq_length_filter]
    refine (Ledger.guards_exec (Turn.isFirmFor key) key fun call hcall => ?_).1
    intro turn hprepare hfirm before hinvoked
    obtain ⟨rfl, heffect⟩ := of_decide_eq_true hfirm
    exact Turn.key_of_drive (fun h => absurd h heffect) turn.start_committed
      (Position.committed_of_invoked hinvoked)
  · intro runId actionId basedOnOffset hsteady
    rw [← countP_eq_length_filter]
    refine (Ledger.guards_exec (Turn.isFor runId actionId basedOnOffset)
      (legacyDispatchDedupeKey runId actionId basedOnOffset) fun call hcall => ?_).1
    intro turn hprepare hfor before hinvoked
    obtain ⟨hlookup, hmirror, hfirm⟩ := hsteady call hcall turn hprepare hfor
    rw [← Turn.legacyKey_of_isFor hfor]
    exact Turn.legacyKey_of_run hlookup hmirror hfirm hinvoked

/-! ## The same action twice -/

namespace Ledger

/-- An action without input or tags. -/
def submit : Action where
  actionId := "action-1"
  actionType := "tool_call"
  effectClass := .irreversibleWrite
  externalIdempotencyLevel := none
  inputJson := none
  policyTags := []

def firstSnapshot : String :=
  "79c6d61344be00e74b64db50b5b9639bbfd2d845d2d686ec380526eb898a9d8a"

def secondSnapshot : String :=
  "1303575f6f144a4c65bea20994202cce34ef994afdb2755c9311ebbda248f86d"

/-- The digests of the content of `submit` under the two snapshots. -/
def digests : Engine where
  digest payload :=
    if payload.snapshotHash = firstSnapshot then
      .ok "a9c2412e802958862b6466efa63950b171e9e6846884c1f22bac4300bb50e064"
    else .ok "6e0a0ba579b93cd9442af1bd74e8c14aad51c613e9e82f0ddf7f9c8883b9fdf4"
  str _ := ""
  lower := .ascii

/-- A turn about `submit`, admitted without an envelope. -/
def request (snapshotHash : String) : TurnRequest where
  input := ⟨"run-1", 1, 0, "start"⟩
  action := some submit
  reasoning := none
  snapshotHash := .ok snapshotHash
  admission := .ok ⟨true, .value .none⟩

/-- All calls return, but the mirror may not; the executor acknowledges. -/
def acknowledging (mirror : StoreCall) : TurnCalls where
  lookup := .returns
  reserve := .returns
  mirror := mirror
  execution := .returns (.dict [("acknowledged", .bool true)])
  settle := .returns
  settleAlias := .returns

/-- `submit` under the first snapshot, its mirror lost, and again under the second. -/
def resubmitted : List TurnCall :=
  [⟨request firstSnapshot, acknowledging (.raises "database is locked" false)⟩,
    ⟨request secondSnapshot, acknowledging .returns⟩]

/-- No read of the store raises, and the executor is called twice for one action of
one run at one offset. -/
theorem not_invoked_at_most_once :
    ¬ ∀ (engine : Engine) (store : DedupeStore) (calls : List TurnCall)
        (runId actionId : String) (basedOnOffset : Int),
      ':' ∉ runId.toList → ':' ∉ actionId.toList → (∀ call ∈ calls, call.calls.lookup = .returns) →
      ((exec (runTurn engine) (.opening store) calls).invocations.filter fun turn =>
        turn.isFor runId actionId basedOnOffset &&
          decide (turn.action.effectClass ≠ .idempotentWrite)).length ≤ 1 := by
  intro h
  have hreads : ∀ call ∈ resubmitted, call.calls.lookup = .returns := by
    simp [resubmitted, acknowledging]
  have honce := h digests .empty resubmitted "run-1" "action-1" 0 (by decide)
    (by decide) hreads
  revert honce
  decide

/-- With the mirror in place the second turn is blocked. -/
theorem invoked_at_most_once_mirrored : ((exec (runTurn digests) (.opening .empty)
      [⟨request firstSnapshot, acknowledging .returns⟩,
        ⟨request secondSnapshot, acknowledging .returns⟩]).invocations.filter
        (Turn.isFor "run-1" "action-1" 0)).length ≤ 1 := by
  refine (invoked_at_most_once digests .empty _).2 "run-1" "action-1" 0 ?_
  intro call hcall turn _ _
  have hcalls : call.calls = acknowledging .returns := by
    simp only [mem_cons, not_mem_nil, or_false] at hcall
    rcases hcall with rfl | rfl <;> rfl
  rw [hcalls]
  exact ⟨rfl, rfl, fun _ => rfl⟩

end Ledger

/-! ## How an execution ends -/

namespace Execution

/-- The executor has returned a dictionary or raised an `Exception`. -/
def answers : Execution → Bool
  | returns (.dict _) => true
  | returns _ => false
  | raises _ => true
  | cancelled => false

/-- The executor has returned a dictionary that says `acknowledged`. -/
def acknowledges : Execution → Bool
  | returns (.dict fields) => (PyDict.get fields "acknowledged" (.bool false)).truthy
  | _ => false

def effect (execution : Execution) : DedupeState :=
  if execution.acknowledges then .acknowledged
  else if execution.answers then .unknownEffect
  else .dispatched

theorem answers_of_acknowledges {execution : Execution}
    (h : execution.acknowledges = true) : execution.answers = true := by
  cases execution with
  | raises error => rfl
  | cancelled => cases h
  | returns result =>
    cases result with
    | dict fields => rfl
    | none => cases h
    | bool value => cases h
    | int value => cases h
    | float value => cases h
    | str value => cases h
    | list items => cases h
    | other identity truth => cases h

theorem effect_settled_iff {execution : Execution} :
    execution.effect = .acknowledged ∨ execution.effect = .unknownEffect ↔
      execution.answers = true := by
  unfold effect
  cases hack : execution.acknowledges with
  | true => simp [answers_of_acknowledges hack]
  | false => cases hanswers : execution.answers <;> simp

end Execution

/-! ## The calls after the executor -/

/-- Every call of the store returns. -/
def TurnCalls.steady (execution : Execution) : TurnCalls where
  lookup := .returns
  reserve := .returns
  mirror := .returns
  execution := execution
  settle := .returns
  settleAlias := .returns

def Ending.state : Ending → DedupeState
  | acknowledged => .acknowledged
  | _ => .unknownEffect

namespace Turn

variable {turn : Turn} {execution : Execution} {store : DedupeStore}

theorem state_markMethod (ending : Ending) {marked : String}
    (h : store.state marked = some .dispatched) (key : String) :
    (markMethod ending marked store).2.state key =
      if key = marked then some ending.state else store.state key := by
  have hmark : ∀ from_ next, DedupeState.dispatched ∈ from_ →
      (DedupeStore.mark from_ next marked store).2.state key =
        if key = marked then some next else store.state key := by
    intro from_ next hfrom
    rw [DedupeStore.state_mark]
    by_cases hkey : key = marked
    · rw [if_pos ⟨hkey, by simp [hkey, h, hfrom]⟩, if_pos hkey]
    · rw [if_neg hkey, if_neg fun hand => hkey hand.1]
  cases ending with
  | _ => exact hmark _ _ (by decide)

theorem markMethod_fst (ending : Ending) {marked : String}
    (h : store.state marked = some .dispatched) : (markMethod ending marked store).1 = .ok () := by
  cases ending with
  | _ => exact DedupeStore.mark_fst_iff.mpr (by rw [h]; decide)

def Leaves (turn : Turn) (state : DedupeState) (point : Position × DedupeStore) : Prop :=
  point.1.invoked = true ∧ point.2.state turn.key = some state ∧
    point.2.state turn.legacyKey = some state

section Dispatched

variable {aliased : Bool} (hkey : store.state turn.key = some .dispatched)
  (hlegacy : store.state turn.legacyKey = some .dispatched)

include hkey hlegacy

theorem leaves_drive_settle (haliased : aliased = true ↔ turn.legacyKey ≠ turn.key)
    (ending : Ending) (n : Nat) : turn.Leaves ending.state
      (turn.drive (.steady execution) (n + 2) (.settle ending aliased, store)) := by
  have hfst := markMethod_fst ending hkey
  have hstate := state_markMethod ending hkey
  generalize hafter : (markMethod ending turn.key store).2 = after at hstate
  have hstep : turn.step .returns execution (.settle ending aliased) store =
      (settled.further aliased ending, after) := by
    simp only [step, StoreCall.perform_returns, hfst, hafter, settled]
  cases hcase : aliased with
  | false =>
    have hsame : turn.legacyKey = turn.key := by
      by_contra hne
      rw [haliased.mpr hne] at hcase
      cases hcase
    have hdrive : turn.drive (.steady execution) (n + 2) (.settle ending false, store) =
        (.finished true ending.result, after) := by
      rw [hcase] at hstep
      change turn.drive _ (n + 1) (turn.step .returns execution _ store) = _
      rw [hstep]
      exact drive_finished ..
    rw [hdrive]
    refine ⟨rfl, ?_, ?_⟩
    · rw [hstate, if_pos rfl]
    · rw [hstate, if_pos hsame]
  | true =>
    have hne : turn.legacyKey ≠ turn.key := haliased.mp hcase
    have halias : after.state turn.legacyKey = some .dispatched := by
      rw [hstate, if_neg hne]
      exact hlegacy
    have hlast := state_markMethod ending halias
    have hdrive : turn.drive (.steady execution) (n + 2) (.settle ending true, store) =
        (.finished true ending.result, (markMethod ending turn.legacyKey after).2) := by
      rw [hcase] at hstep
      change turn.drive _ (n + 1) (turn.step .returns execution _ store) = _
      rw [hstep]
      exact drive_finished ..
    rw [hdrive]
    refine ⟨rfl, ?_, ?_⟩
    · rw [hlast, if_neg (Ne.symm hne), hstate, if_pos rfl]
    · rw [hlast, if_pos rfl]

theorem leaves_drive_finished (result : Except String TurnOutcomeKind) (n : Nat) :
    turn.Leaves .dispatched (turn.drive (.steady execution) n (.finished true result, store)) := by
  rw [drive_finished]
  exact ⟨rfl, hkey, hlegacy⟩

theorem leaves_drive_execute (haliased : aliased = true ↔ turn.legacyKey ≠ turn.key) (n : Nat) :
    turn.Leaves execution.effect
      (turn.drive (.steady execution) (n + 3) (.execute true aliased, store)) := by
  change turn.Leaves _ (turn.drive _ (n + 2) (conclude true aliased execution, store))
  cases execution with
  | cancelled => exact leaves_drive_finished hkey hlegacy _ _
  | raises error => exact leaves_drive_settle hkey hlegacy haliased (.raised error) n
  | returns result =>
    cases result with
    | dict fields =>
      unfold conclude Execution.effect Execution.acknowledges
      dsimp only
      split
      · exact leaves_drive_settle hkey hlegacy haliased .acknowledged n
      · exact leaves_drive_settle hkey hlegacy haliased .unacknowledged n
    | _ => exact leaves_drive_finished hkey hlegacy _ _

end Dispatched

/-! ## The calls before the executor -/

theorem leaves_run (hkey : ¬ store.Taken turn.key) (hlegacy : ¬ store.Taken turn.legacyKey) :
    turn.Leaves execution.effect (turn.run (.steady execution) store) := by
  have htook : (DedupeStore.reserveAndDispatch turn.envelope none store).1 = .ok .accepted := by
    apply DedupeStore.reserveAndDispatch_of_free
    rw [envelope_key]
    exact hkey
  have hheld := DedupeStore.state_reserveAndDispatch store turn.envelope none
  rw [envelope_key] at hheld
  generalize hstore : (DedupeStore.reserveAndDispatch turn.envelope none store).2 =
    reserved at hheld
  have hsent : reserved.state turn.key = some .dispatched := by
    rw [hheld, if_pos ⟨rfl, DedupeStore.state_eq_none_iff.mpr hkey⟩]
  have hstep : turn.step .returns execution .reserve store =
      (turn.reserved (.ok .accepted), reserved) := by
    simp only [step, StoreCall.perform_returns, htook, hstore]
  by_cases hsame : turn.legacyKey = turn.key
  · have hrun : turn.run (.steady execution) store =
        turn.drive (.steady execution) (2 + 3) (.execute true false, reserved) := by
      rw [run, start, if_pos hsame]
      change turn.drive _ 5 (turn.step .returns execution .reserve store) = _
      rw [hstep, Turn.reserved, if_pos hsame]
    rw [hrun]
    exact leaves_drive_execute hsent (by rw [hsame]; exact hsent) (by simp [hsame]) 2
  · have hfree : ¬ reserved.Taken turn.legacyKey := by
      rw [← DedupeStore.state_eq_none_iff, hheld, if_neg fun h => hsame h.1]
      exact DedupeStore.state_eq_none_iff.mpr hlegacy
    have htwice := DedupeStore.state_reserveAndDispatch reserved turn.legacyEnvelope
      turn.envelope.peerOperationId
    rw [legacyEnvelope_key] at htwice
    have hboth : (DedupeStore.reserveAndDispatch turn.legacyEnvelope
        turn.envelope.peerOperationId reserved).1 = .ok .accepted :=
      DedupeStore.reserveAndDispatch_of_free hfree
    generalize hlast : (DedupeStore.reserveAndDispatch turn.legacyEnvelope
      turn.envelope.peerOperationId reserved).2 = mirrored at htwice
    have hmirror : turn.step .returns execution .mirror reserved =
        (.execute true true, mirrored) := by
      simp only [step, StoreCall.perform_returns, hboth, hlast, Turn.mirrored]
    have hlookup : turn.step .returns execution .lookup store = (.reserve, store) := by
      rw [step, StoreCall.perform_returns, DedupeStore.get, DedupeStore.not_taken_iff.mp hlegacy]
      rfl
    have hrun : turn.run (.steady execution) store =
        turn.drive (.steady execution) (0 + 3) (.execute true true, mirrored) := by
      rw [run, start, if_neg hsame]
      change turn.drive _ 5 (turn.step .returns execution .lookup store) = _
      rw [hlookup]
      change turn.drive _ 4 (turn.step .returns execution .reserve store) = _
      rw [hstep, Turn.reserved, if_neg hsame]
      change turn.drive _ 3 (turn.step .returns execution .mirror reserved) = _
      rw [hmirror]
    rw [hrun]
    refine leaves_drive_execute ?_ ?_ (by simp [hsame]) 0
    · rw [htwice, if_neg fun h => hsame h.1.symm]
      exact hsent
    · rw [htwice, if_pos ⟨rfl, DedupeStore.state_eq_none_iff.mpr hfree⟩]

theorem not_invoked_run (h : store.Taken turn.legacyKey ∨ store.Taken turn.key) :
    (turn.run (.steady execution) store).1.invoked = false := by
  cases hinvoked : (turn.run (.steady execution) store).1.invoked with
  | false => rfl
  | true =>
    rcases h with htaken | htaken
    · exact absurd htaken (legacyKey_of_run rfl rfl (fun _ => rfl) hinvoked).1
    · exact absurd htaken (key_of_drive (fun _ => rfl) turn.start_committed
        (Position.committed_of_invoked hinvoked)).1

/-- Both records of the turn are `acknowledged`, or both are `unknown_effect`. -/
def Settled (turn : Turn) (store : DedupeStore) : Prop :=
  (store.state turn.key = some .acknowledged ∧ store.state turn.legacyKey = some .acknowledged) ∨
    (store.state turn.key = some .unknownEffect ∧ store.state turn.legacyKey = some .unknownEffect)

instance (turn : Turn) (store : DedupeStore) : Decidable (turn.Settled store) :=
  inferInstanceAs (Decidable (_ ∧ _ ∨ _ ∧ _))

theorem settled_iff_of_leaves {state : DedupeState} {point : Position × DedupeStore}
    (h : turn.Leaves state point) :
    turn.Settled point.2 ↔ state = .acknowledged ∨ state = .unknownEffect := by
  obtain ⟨-, hkey, hlegacy⟩ := h
  rw [Settled, hkey, hlegacy]
  simp

end Turn

/-! ## A call of `run_turn` -/

/-- A turn that has called its executor leaves both of its records as acknowledged or
both as of unknown effect, if and only if one of its keys was taken, so that it has not,
or the executor has answered with a dictionary or an exception. -/
theorem settles_iff (engine : Engine) (request : TurnRequest) (execution : Execution)
    (store : DedupeStore) : (∀ turn, prepare engine request = .ready turn →
        (turn.run (.steady execution) store).1.invoked = true →
          turn.Settled (turn.run (.steady execution) store).2) ↔
      ∀ turn, prepare engine request = .ready turn →
        store.Taken turn.legacyKey ∨ store.Taken turn.key ∨ execution.answers = true := by
  refine forall_congr' fun turn => imp_congr_right fun _ => ?_
  by_cases hlegacy : store.Taken turn.legacyKey
  · simp [hlegacy, Turn.not_invoked_run (.inl hlegacy)]
  · by_cases hkey : store.Taken turn.key
    · simp [hkey, Turn.not_invoked_run (.inr hkey)]
    · have hleaves : turn.Leaves execution.effect (turn.run (.steady execution) store) :=
        Turn.leaves_run hkey hlegacy
      rw [Turn.settled_iff_of_leaves hleaves, Execution.effect_settled_iff]
      simp [hlegacy, hkey, hleaves.1]

namespace Ledger

/-- The time limit of the execute phase cancels the executor. -/
theorem not_settles_cancelled :
    ¬ ∀ (engine : Engine) (request : TurnRequest) (execution : Execution)
        (store : DedupeStore) (turn : Turn), prepare engine request = .ready turn →
      (turn.run (.steady execution) store).1.invoked = true →
        turn.Settled (turn.run (.steady execution) store).2 := by
  intro h
  have hsettled := h digests (request firstSnapshot) .cancelled .empty _ rfl (by decide)
  revert hsettled
  decide

end Ledger

end HiAgent.Kernel
