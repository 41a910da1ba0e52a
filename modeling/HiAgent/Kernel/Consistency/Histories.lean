/-
  Kernel/Consistency/Histories.lean --- the check after histories of action commits, and
  the repairs after a crash.

  The events of a turn carry its decision fingerprint. Its records are kept under the dispatch
  key, which begins with `dispatch:`, and under the legacy key. The check looks for keys that
  begin with the run id.
-/
import HiAgent.Kernel.Consistency.Frame
import HiAgent.Kernel.RunActorWorkflow

namespace HiAgent.Kernel

open Foundation

/-! ## The keys a turn takes -/

namespace Turn

section Takes

variable (turn : Turn) (calls : TurnCalls) (store : DedupeStore)

def Stopped : Prop :=
  turn.legacyKey ≠ turn.key ∧ calls.lookup = .returns ∧ store.Taken turn.legacyKey

def Reserves : Prop :=
  ¬ turn.Stopped calls store ∧ ¬ store.Taken turn.key ∧ calls.reserve.applies = true

def Mirrors : Prop :=
  ¬ turn.Stopped calls store ∧ ¬ store.Taken turn.key ∧ calls.reserve = .returns ∧
    turn.legacyKey ≠ turn.key ∧ ¬ store.Taken turn.legacyKey ∧ calls.mirror.applies = true

def Takes (key : String) : Prop :=
  turn.Reserves calls store ∧ key = turn.key ∨ turn.Mirrors calls store ∧ key = turn.legacyKey

/-- How many calls come before the reservation. -/
def reserveAt : Nat := if turn.legacyKey = turn.key then 0 else 1

/-- The keys among the first calls of a turn: the reservation comes behind the look at the
legacy key, if that is another one, and its mirror behind both. -/
def TakesBy (n : Nat) (key : String) : Prop :=
  turn.Reserves calls store ∧ key = turn.key ∧ turn.reserveAt < n ∨
    turn.Mirrors calls store ∧ key = turn.legacyKey ∧ 2 < n

/-- The store when the process stops behind some calls of a turn. -/
def cutOff (n : Nat) : DedupeStore := (turn.drive calls n (turn.start, store)).2

instance : Decidable (turn.Stopped calls store) := inferInstanceAs (Decidable (_ ∧ _ ∧ _))

end Takes

variable {turn : Turn} {calls : TurnCalls} {store : DedupeStore} {key : String}

/-- The reservations are over. -/
def Past : Position → Prop
  | .lookup => False
  | .reserve => False
  | .mirror => False
  | _ => True

theorem taken_markMethod_iff (ending : Ending) (marked : String) :
    (markMethod ending marked store).2.Taken key ↔ store.Taken key := by
  cases ending with
  | _ => exact DedupeStore.taken_mark_iff

theorem taken_perform_markMethod (call : StoreCall) (ending : Ending) (marked : String) :
    (call.perform (markMethod ending marked) store).2.Taken key ↔ store.Taken key := by
  rw [StoreCall.perform_snd]
  split
  · exact taken_markMethod_iff ending marked
  · exact Iff.rfl

theorem past_of_committed {position : Position} (hfirm : position.committed = true)
    (hmirror : position ≠ .mirror) : Past position := by
  cases position with
  | lookup => cases hfirm
  | reserve => cases hfirm
  | mirror => exact hmirror rfl
  | _ => exact trivial

section Steps

variable (turn) (calls) (store) (key)

theorem taken_step_of_past {position : Position} (h : Past position) :
    Past (turn.step (calls.at position) calls.execution position store).1 ∧
      ((turn.step (calls.at position) calls.execution position store).2.Taken key ↔
        store.Taken key) := by
  cases position with
  | lookup => exact h.elim
  | reserve => exact h.elim
  | mirror => exact h.elim
  | execute available aliased =>
    have hpast := conclude_past available aliased calls.execution
    exact ⟨past_of_committed hpast.1 hpast.2, Iff.rfl⟩
  | settle ending aliased =>
    have hpast := settled_past aliased ending
      ((calls.settle.perform (markMethod ending turn.key) store).1)
    exact ⟨past_of_committed hpast.1 hpast.2, taken_perform_markMethod _ _ _⟩
  | settleAlias ending => exact ⟨trivial, taken_perform_markMethod _ _ _⟩
  | finished invoked result => exact ⟨trivial, Iff.rfl⟩

theorem taken_drive_of_past (n : Nat) {position : Position} (h : Past position) :
    (turn.drive calls n (position, store)).2.Taken key ↔ store.Taken key := by
  induction n generalizing position store with
  | zero => exact Iff.rfl
  | succ n ih =>
    have hstep := taken_step_of_past turn calls store key h
    exact (ih _ hstep.1).trans hstep.2

theorem taken_perform_reserve (call : StoreCall) (envelope : IdempotencyEnvelope)
    (peer : Option String) :
    (call.perform (DedupeStore.reserveAndDispatch envelope peer) store).2.Taken key ↔
      store.Taken key ∨ call.applies = true ∧ key = envelope.dispatchIdempotencyKey := by
  rw [StoreCall.perform_snd]
  cases call.applies with
  | true => simpa using DedupeStore.taken_reserveAndDispatch_iff
  | false => simp

theorem taken_drive_mirror (n : Nat) : (turn.drive calls (n + 1) (.mirror, store)).2.Taken key ↔
      store.Taken key ∨ calls.mirror.applies = true ∧ key = turn.legacyKey := by
  have hpast : Past (turn.step calls.mirror calls.execution .mirror store).1 := by
    change Past (mirrored _)
    unfold mirrored
    split <;> exact trivial
  exact (taken_drive_of_past turn calls _ key n hpast).trans
    (taken_perform_reserve store key calls.mirror turn.legacyEnvelope _)

def ReachesMirror : Prop :=
  calls.reserve = .returns ∧ ¬ store.Taken turn.key ∧ turn.legacyKey ≠ turn.key

theorem reserved_of_reachesMirror (h : turn.ReachesMirror calls store) :
    turn.reserved (calls.reserve.perform
      (DedupeStore.reserveAndDispatch turn.envelope none) store).1 = .mirror := by
  obtain ⟨hreturns, hfree, hne⟩ := h
  have htook : (DedupeStore.reserveAndDispatch turn.envelope none store).1 = .ok .accepted := by
    apply DedupeStore.reserveAndDispatch_of_free
    rw [envelope_key]
    exact hfree
  rw [hreturns, StoreCall.perform_returns, htook, reserved, if_neg hne]

theorem past_reserved (h : ¬ turn.ReachesMirror calls store) :
    Past (turn.reserved (calls.reserve.perform
      (DedupeStore.reserveAndDispatch turn.envelope none) store).1) := by
  cases hcall : calls.reserve with
  | raises error applied =>
    change Past (turn.reserved (.error error))
    unfold reserved
    dsimp only
    split <;> exact trivial
  | returns =>
    rw [StoreCall.perform_returns]
    by_cases hkey : store.Taken turn.key
    · rw [← envelope_key] at hkey
      obtain ⟨existing, htwin⟩ := DedupeStore.reserveAndDispatch_of_taken none hkey
      rw [htwin]
      exact trivial
    · have hsame : turn.legacyKey = turn.key := by
        by_contra hne
        exact h ⟨hcall, hkey, hne⟩
      rw [← envelope_key] at hkey
      rw [DedupeStore.reserveAndDispatch_of_free hkey, reserved, if_pos hsame]
      exact trivial

theorem taken_drive_reserve (n : Nat) : (turn.drive calls n (.reserve, store)).2.Taken key ↔
      store.Taken key ∨ 0 < n ∧ calls.reserve.applies = true ∧ key = turn.key ∨ 1 < n ∧
        turn.ReachesMirror calls store ∧ calls.mirror.applies = true ∧ key = turn.legacyKey := by
  have hreserve := taken_perform_reserve store key calls.reserve turn.envelope none
  rw [envelope_key] at hreserve
  match n with
  | 0 => simp [drive]
  | 1 =>
    rw [and_iff_right Nat.one_pos, ← or_assoc, or_iff_left fun h => absurd h.1 (lt_irrefl 1)]
    exact hreserve
  | n + 2 =>
  rw [and_iff_right (Nat.succ_pos (n + 1)), and_iff_right (Nat.one_lt_succ_succ n), ← or_assoc,
    ← hreserve]
  change (turn.drive calls (n + 1) (turn.reserved (calls.reserve.perform _ store).1,
    (calls.reserve.perform _ store).2)).2.Taken key ↔ _
  by_cases hreaches : turn.ReachesMirror calls store
  · rw [reserved_of_reachesMirror turn calls store hreaches, taken_drive_mirror,
      and_iff_right hreaches]
  · rw [taken_drive_of_past turn calls _ key _ (past_reserved turn calls store hreaches)]
    exact ⟨.inl, fun h => h.resolve_right fun hand => hreaches hand.1⟩

end Steps

theorem step_lookup_of_not_stopped (hne : turn.legacyKey ≠ turn.key)
    (h : ¬ turn.Stopped calls store) :
    turn.step calls.lookup calls.execution .lookup store = (.reserve, store) := by
  cases hcall : calls.lookup with
  | returns =>
    have hfree : ¬ store.Taken turn.legacyKey := fun htaken => h ⟨hne, hcall, htaken⟩
    rw [step, StoreCall.perform_returns, DedupeStore.get, DedupeStore.not_taken_iff.mp hfree]
    rfl
  | raises error applied => cases applied <;> rfl

variable (turn calls store key) in
theorem taken_cutOff_iff (n : Nat) : (turn.cutOff calls store n).Taken key ↔
      store.Taken key ∨ turn.TakesBy calls store n key := by
  by_cases hstopped : turn.Stopped calls store
  · have hcut : turn.cutOff calls store n = store := by
      obtain ⟨hne, hreturns, htaken⟩ := hstopped
      obtain ⟨record, hlookup⟩ := DedupeStore.taken_iff.mp htaken
      rw [cutOff, start, if_neg hne]
      cases n with
      | zero => rfl
      | succ n =>
        change (turn.drive calls n (turn.step calls.lookup calls.execution .lookup store)).2 = _
        rw [step, hreturns, StoreCall.perform_returns, DedupeStore.get, hlookup]
        exact congrArg Prod.snd (drive_finished ..)
    rw [hcut]
    refine ⟨.inl, fun h => h.resolve_right ?_⟩
    rintro (⟨hreserves, _⟩ | ⟨hmirrors, _⟩)
    · exact hreserves.1 hstopped
    · exact hmirrors.1 hstopped
  · have hcut : turn.cutOff calls store n =
        (turn.drive calls (n - turn.reserveAt) (.reserve, store)).2 := by
      rw [cutOff, start, reserveAt]
      split
      · rfl
      · rename_i hne
        cases n with
        | zero => rfl
        | succ n =>
          change (turn.drive calls n (turn.step calls.lookup calls.execution .lookup store)).2 = _
          rw [step_lookup_of_not_stopped hne hstopped]
          rfl
    rw [hcut, taken_drive_reserve]
    constructor
    · rintro (htaken | ⟨hn, happlies, rfl⟩ | ⟨hn, ⟨hreturns, hfree, hne⟩, happlies, rfl⟩)
      · exact .inl htaken
      · by_cases hfree : store.Taken turn.key
        · exact .inl hfree
        · exact .inr (.inl ⟨⟨hstopped, hfree, happlies⟩, rfl, by omega⟩)
      · by_cases hlegacy : store.Taken turn.legacyKey
        · exact .inl hlegacy
        · rw [reserveAt, if_neg hne] at hn
          exact .inr (.inr ⟨⟨hstopped, hfree, hreturns, hne, hlegacy, happlies⟩, rfl, by omega⟩)
    · rintro (htaken | ⟨⟨_, _, happlies⟩, rfl, hn⟩ |
        ⟨⟨_, hfree, hreturns, hne, _, happlies⟩, rfl, hn⟩)
      · exact .inl htaken
      · exact .inr (.inl ⟨by omega, happlies, rfl⟩)
      · rw [reserveAt, if_neg hne]
        exact .inr (.inr ⟨by omega, ⟨hreturns, hfree, hne⟩, happlies, rfl⟩)

theorem taken_run_iff :
    (turn.run calls store).2.Taken key ↔ store.Taken key ∨ turn.Takes calls store key := by
  have hreserve : turn.reserveAt < 6 := by
    rw [reserveAt]
    split <;> decide
  have hrun := taken_cutOff_iff turn calls store key 6
  rw [TakesBy, and_iff_left hreserve, and_iff_left (by decide : 2 < 6)] at hrun
  exact hrun

end Turn

theorem TurnRequest.taken_runTurn_iff {engine : Engine} {request : TurnRequest}
    {calls : TurnCalls} {store : DedupeStore} {key : String} :
    (request.runTurn engine calls store).2.Taken key ↔ store.Taken key ∨
        ∃ turn, prepare engine request = .ready turn ∧ turn.Takes calls store key := by
  unfold runTurn
  cases prepare engine request with
  | raised error => simp
  | ended kind => simp
  | ready turn => simp [Turn.taken_run_iff]

/-! ## Histories -/

/-- A step of a history. -/
inductive HistoryStep where
  /-- A commit that a caller appends to the log. -/
  | recorded (commit : ActionCommit)
  /-- A call of `process_action_commit`. -/
  | processed (env : ProcessEnv) (commit : ActionCommit)

namespace Workflow

def fresh : Workflow := ⟨.empty, .fresh, [], .empty⟩

def after (engine : Engine) (w : Workflow) : HistoryStep → Workflow
  | .recorded commit => { w with log := (w.log.appendActionCommit commit).2 }
  | .processed env commit => (w.processActionCommit engine env commit).2

/-- The keys of the records a step makes. -/
def Takes (engine : Engine) (key : String) (w : Workflow) : HistoryStep → Prop
  | .recorded _ => False
  | .processed env commit => ∃ offset action turn, (w.enter commit).1 = .turn offset action ∧
        prepare engine (turnRequest env commit.runId offset action) = .ready turn ∧
          turn.Takes env.calls w.dedupeStore key

variable {engine : Engine} {key : String}

theorem dedupeStore_appendTurnOutcomeCommit (w : Workflow) (env : ProcessEnv)
    (runId : String) (offset : Int) (result : TurnResult) :
    (w.appendTurnOutcomeCommit env runId offset result).2.dedupeStore = w.dedupeStore := by
  unfold appendTurnOutcomeCommit
  split <;> rfl

theorem taken_rollBack_iff (w : Workflow) (call : StoreCall) (result : TurnResult) :
    (w.rollBack call result).dedupeStore.Taken key ↔ w.dedupeStore.Taken key := by
  unfold rollBack
  cases result.dispatchDedupeKey with
  | none => exact Iff.rfl
  | some marked =>
    dsimp only
    rw [StoreCall.perform_snd]
    split
    · exact DedupeStore.taken_mark_iff
    · exact Iff.rfl

variable (engine key) in
theorem taken_decide_iff (w : Workflow) (env : ProcessEnv) (runId : String) (offset : Int)
    (action : Action) : (w.decide engine env runId offset action).2.dedupeStore.Taken key ↔
      ((turnRequest env runId offset action).runTurn engine env.calls
        w.dedupeStore).2.Taken key := by
  unfold decide
  generalize (turnRequest env runId offset action).runTurn engine env.calls w.dedupeStore = turned
  obtain ⟨result, store⟩ := turned
  cases result with
  | error error => exact Iff.rfl
  | ok result =>
    have hstore := dedupeStore_appendTurnOutcomeCommit { w with dedupeStore := store } env
      runId (offset + 1) result
    dsimp only at hstore ⊢
    generalize ({ w with dedupeStore := store } : Workflow).appendTurnOutcomeCommit env runId
      (offset + 1) result = appended at hstore
    obtain ⟨outcome, after⟩ := appended
    dsimp only at hstore
    subst hstore
    cases outcome with
    | error error => exact taken_rollBack_iff after env.rollback result
    | ok value =>
      dsimp only
      split
      · rw [recover_dedupeStore]
      · exact Iff.rfl

theorem taken_processActionCommit_iff (w : Workflow) (env : ProcessEnv) (commit : ActionCommit) :
    (w.processActionCommit engine env commit).2.dedupeStore.Taken key ↔
      w.dedupeStore.Taken key ∨ Takes engine key w (.processed env commit) := by
  have hstore : (w.enter commit).2.dedupeStore = w.dedupeStore := enter_dedupeStore w commit
  unfold processActionCommit Takes
  dsimp only
  generalize w.enter commit = entered at hstore
  obtain ⟨admitted, entering⟩ := entered
  dsimp only at hstore ⊢
  cases admitted with
  | ended result =>
    rw [hstore]
    refine ⟨.inl, fun h => h.resolve_right ?_⟩
    rintro ⟨_, _, _, hturn, _⟩
    cases hturn
  | turn offset action =>
    have hdecide := taken_decide_iff engine key entering env commit.runId offset action
    rw [TurnRequest.taken_runTurn_iff, hstore] at hdecide
    dsimp only
    generalize entering.decide engine env commit.runId offset action = decided at hdecide
    obtain ⟨result, after⟩ := decided
    -- an exception is recorded, and the store stays
    refine Iff.trans ?_ (hdecide.trans (or_congr_right ?_))
    · cases result with
      | ok value => exact Iff.rfl
      | error error =>
        dsimp only
        rw [recover_dedupeStore]
    · constructor
      · exact fun ⟨turn, hready, htakes⟩ => ⟨offset, action, turn, rfl, hready, htakes⟩
      · rintro ⟨_, _, turn, hturn, hready, htakes⟩
        cases hturn
        exact ⟨turn, hready, htakes⟩

theorem taken_after_iff (w : Workflow) (event : HistoryStep) :
    (w.after engine event).dedupeStore.Taken key ↔
      w.dedupeStore.Taken key ∨ Takes engine key w event := by
  cases event with
  | recorded commit => exact (iff_of_eq (or_false _)).symm
  | processed env commit => exact taken_processActionCommit_iff w env commit

end Workflow

/-! ## What a check finds -/

def Consistent (kind : StoreKind) (loaded : Except String (List RuntimeEvent))
    (runId : String) (store : DedupeStore) : Prop :=
  ∃ report after, (verifyEventDedupeConsistency kind loaded runId).run (kind.holding store) =
    .ok report after ∧ report.isConsistent = true

variable {store : DedupeStore} {loaded : Except String (List RuntimeEvent)}

theorem consistent_iff_reported {kind : StoreKind} {runId : String} :
    Consistent kind loaded runId store ↔ store.reported kind loaded runId = [] := by
  obtain ⟨report, hrun, hreport⟩ := run_verify kind store loaded runId
  have hclean : report.isConsistent = true ↔ report.violations = [] := by
    simp [ConsistencyReport.isConsistent]
  rw [← hreport, ← hclean]
  constructor
  · rintro ⟨other, after, hother, hconsistent⟩
    rw [hrun] at hother
    cases hother
    exact hconsistent
  · exact fun h => ⟨report, _, hrun, h⟩

/-- A check that takes no record for one of the run's finds nothing. -/
theorem consistent_of_not_collected {kind : StoreKind} {events : List RuntimeEvent}
    {runId : String} (h : ∀ key, store.Taken key → kind.collects runId key = false) :
    Consistent kind (.ok events) runId store := by
  have hnone : store.collected kind runId = [] := by
    refine List.eq_nil_iff_forall_not_mem.mpr fun key hkey => ?_
    obtain ⟨htaken, hcollects⟩ := (store.mem_collected kind).mp hkey
    cases (h key htaken).symm.trans hcollects
  rw [consistent_iff_reported, DedupeStore.reported, hnone]
  rfl

/-- The legacy key of a turn looks like one of its run's. -/
theorem collects_legacyKey (turn : Turn) :
    StoreKind.inMemory.collects turn.input.runId turn.legacyKey = true := by
  refine StoreKind.isPrefixed_iff.mpr
    ⟨turn.action.actionId ++ ":" ++ toString turn.input.basedOnOffset, ?_⟩
  rw [Turn.legacyKey, legacyDispatchDedupeKey]
  simp only [String.append_assoc]

/-- Its dispatch key does so only if the id of the run begins with `dispatch`. -/
theorem collects_key {turn : Turn}
    (h : StoreKind.inMemory.collects turn.input.runId turn.key = true) :
    "dispatch".toList <+: turn.input.runId.toList := by
  obtain ⟨rest, hkey⟩ := StoreKind.isPrefixed_iff.mp h
  have hlists : "dispatch".toList ++ ':' :: (turn.input.runId ++ ":" ++ turn.action.actionId ++
      ":" ++ turn.contentHash).toList = turn.input.runId.toList ++ ':' :: rest.toList := by
    have hboth := congrArg String.toList hkey
    change ("dispatch:" ++ _ ++ ":" ++ _ ++ ":" ++ _).toList = _ at hboth
    simpa [String.toList_append] using hboth
  rcases List.append_eq_append_iff.mp hlists with ⟨more, hid, -⟩ | ⟨more, hword, hcolon⟩
  · exact ⟨more, hid.symm⟩
  · cases more with
    | nil => exact ⟨[], by simpa using hword⟩
    | cons first more =>
      obtain ⟨rfl, -⟩ := List.cons.inj hcolon
      have hmem : ':' ∈ "dispatch".toList := hword ▸ List.mem_append_right _ List.mem_cons_self
      exact absurd hmem (by decide)

/-! ## After a crash -/

def Resolved (state : Option DedupeState) : Prop :=
  state = some .unknownEffect ∨ state = some .acknowledged ∨ state = some .succeeded

instance (state : Option DedupeState) : Decidable (Resolved state) :=
  inferInstanceAs (Decidable (_ ∨ _ ∨ _))

theorem resolved_iff_not_unsettled {key : String} (h : store.Taken key) :
    Resolved (store.state key) ↔ ¬ Unsettled (store.state key) := by
  obtain ⟨record, hlookup⟩ := DedupeStore.taken_iff.mp h
  rw [DedupeStore.state, hlookup, Option.map_some]
  cases record.state <;> decide

theorem resolved_reconciled_iff {kind : StoreKind} {runId key : String} (h : store.Taken key) :
    Resolved ((store.reconciled kind loaded runId).state key) ↔
      (Unsettled (store.state key) → kind.Orphans loaded runId key) := by
  rw [DedupeStore.state_reconciled]
  by_cases hopen : Unsettled (store.state key)
  · by_cases horphan : kind.Orphans loaded runId key
    · rw [if_pos ⟨horphan, hopen⟩]
      exact iff_of_true (.inl rfl) fun _ => horphan
    · rw [if_neg fun hand => horphan hand.1, resolved_iff_not_unsettled h]
      exact iff_of_false (not_not_intro hopen) fun hall => horphan (hall hopen)
  · rw [if_neg fun hand => hopen hand.2, resolved_iff_not_unsettled h]
    exact iff_of_true hopen fun hin => absurd hin hopen

/-! ## Histories and crashes -/

/-- A process stops between the reservation and the settlement: the reconciliation resolves the
dispatch record, if and only if its key looks like one of the run's and no event carries it. -/
theorem resolved_key_iff (kind : StoreKind) {turn : Turn} {calls : TurnCalls} {n : Nat}
    (hheld : (turn.drive calls n (turn.start, store)).1 = .mirror ∨
      ∃ aliased, (turn.drive calls n (turn.start, store)).1 = .execute true aliased) :
    Resolved (((turn.cutOff calls store n).reconciled kind loaded turn.input.runId).state
      turn.key) ↔ kind.Orphans loaded turn.input.runId turn.key := by
  have hstart : turn.KeyAt calls store turn.start store := by
    unfold Turn.start
    split <;> rfl
  have hkey := Turn.keyAt_drive turn calls store n (turn.start, store) hstart
  have hsent : (turn.cutOff calls store n).state turn.key = some .dispatched := by
    rcases hheld with hpoint | ⟨aliased, hpoint⟩
    · rw [hpoint] at hkey
      exact hkey.2.2
    · rw [hpoint] at hkey
      exact hkey.2.2
  have hopen : Unsettled ((turn.cutOff calls store n).state turn.key) := .inr hsent
  rw [resolved_reconciled_iff (taken_of_unsettled hopen), imp_iff_right hopen]

namespace Workflow

def settling : ProcessEnv :=
  { losing [("acknowledged", .bool true)] with append := .returns }

def settled : List HistoryStep := [.recorded delivered, .processed settling delivered]

def dispatchTurn : Turn := { deliveredTurn with input := ⟨"dispatch", 1, 1, "signal"⟩ }

end Workflow

end HiAgent.Kernel
