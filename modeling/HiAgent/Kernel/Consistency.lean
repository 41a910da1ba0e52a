/-
  Kernel/Consistency.lean --- the check of a run's ledger against its events, and its
  repairs.

  `averify_event_dedupe_consistency` of `agent_kernel/kernel/persistence/consistency.py` and
  `DispatchOutboxReconciler` of `dispatch_outbox_reconciler.py`, without a schema migrator.
-/
import HiAgent.Foundation.Like
import HiAgent.Kernel.DedupeStore.Interchange
import HiAgent.Kernel.EventLog

namespace HiAgent.Kernel

open Foundation List

/-! ## Programs over a store -/

abbrev StoreProgram (backend : StoreBackend) (α : Type) :=
  EStateM StoreError backend.State α

namespace StoreProgram

variable {backend : StoreBackend}

def call (request : StoreRequest) : StoreProgram backend StoreAnswer := fun state =>
  match backend.perform request state with
  | (.ok answer, after) => .ok answer after
  | (.error error, after) => .error error after

/-- `get`. -/
def lookup (key : String) : StoreProgram backend (Option DedupeRecord) := do
  match ← call (.get key) with
  | .record record => return record
  | _ => return none

/-- `mark_dispatched`, without a peer operation. -/
def markDispatched (key : String) : StoreProgram backend Unit := do
  let _ ← call (.markDispatched key none)

def markUnknownEffect (key : String) : StoreProgram backend Unit := do
  let _ ← call (.markUnknownEffect key)

/-- The store a program leaves. -/
def leaves {α : Type} (program : StoreProgram backend α) (state : backend.State) : backend.State :=
  match program.run state with
  | .ok _ after => after
  | .error _ after => after

end StoreProgram

/-! ## The keys of a run -/

/-- The stores whose keys the check can list. -/
inductive StoreKind where
  | inMemory
  | sqlite
  | colocated

namespace StoreKind

def backend : StoreKind → StoreBackend
  | inMemory => .inMemory
  | sqlite => .sqlite
  | colocated => .colocated

def holding : (kind : StoreKind) → DedupeStore → kind.backend.State
  | inMemory, store => store
  | sqlite, store => .idle store
  | colocated, store => .idle store

/-- `SQLITE_MAX_LIKE_PATTERN_LENGTH`, in bytes. -/
def maxLikePatternLength : Nat := 50000

/-- The parameter of the `SELECT` of the keys. -/
def pattern (runId : String) : List Char := Like.escaped runId.toList ++ [':', '%']

/-- The `WHERE` of the `SELECT`. A pattern that is too long raises `OperationalError`, and
no key is returned. -/
def isLike (runId key : String) : Bool :=
  decide (((pattern runId).map Char.utf8Size).sum ≤ maxLikePatternLength) &&
    Like.like '\\' (pattern runId) key.toList

/-- `key.startswith(f"\x7brun_id\x7d:")`. -/
def isPrefixed (runId key : String) : Bool :=
  (Text.afterPrefix (runId ++ ":") key).isSome

def collects : StoreKind → String → String → Bool
  | inMemory => isPrefixed
  | sqlite => isLike
  | colocated => isLike

def collectDedupeKeys (kind : StoreKind) (runId : String) :
    StoreProgram kind.backend (List String) := do
  let state ← get
  return ((kind.backend.records state).rows.map DedupeRecord.dispatchIdempotencyKey).filter
    (kind.collects runId)

end StoreKind

/-! ## The check -/

/-- `ConsistencyViolation.kind`. -/
inductive ViolationKind where
  | orphanedDedupeKey
  | unknownEffectNoLogEvidence
  | eventLogUnavailable
  deriving DecidableEq

/-- `ConsistencyViolation`, without its text. -/
structure ConsistencyViolation where
  kind : ViolationKind
  idempotencyKey : Option String
  dedupeState : Option DedupeState
  eventCount : Option Nat

structure ConsistencyReport where
  runId : String
  violations : List ConsistencyViolation
  eventsChecked : Nat
  dedupeKeysChecked : Nat

def ConsistencyReport.isConsistent (report : ConsistencyReport) : Bool :=
  report.violations.length == 0

/-- `event_idempotency_keys`: an empty key is none. -/
def eventIdempotencyKeys (events : List RuntimeEvent) : List String :=
  (events.filterMap RuntimeEvent.idempotencyKey).filter (· ≠ "")

/-- `event_types_by_key`, at one key. -/
def eventTypes (events : List RuntimeEvent) (key : String) : List String :=
  (((events.filter fun event => event.idempotencyKey = some key).map
    RuntimeEvent.eventType).filter (· ≠ "")).dedup

def dispatchEvidence : List String :=
  ["turn.dispatched", "turn.effect_unknown", "turn.effect_recorded"]

/-- What the loop of `_detect_violations` makes of a record. -/
def violationOf (events : List RuntimeEvent) (key : String) (record : DedupeRecord) :
    Option ConsistencyViolation :=
  if key ∉ eventIdempotencyKeys events then
    some ⟨.orphanedDedupeKey, some key, some record.state, some 0⟩
  else if record.state = .unknownEffect then
    if (eventTypes events key).any (· ∈ dispatchEvidence) then none
    else some ⟨.unknownEffectNoLogEvidence, some key, some .unknownEffect,
      some (eventTypes events key).length⟩
  else none

/-- The loop of `_detect_violations`. -/
def detectViolations {backend : StoreBackend} (events : List RuntimeEvent) :
    List String → StoreProgram backend (List ConsistencyViolation)
  | [] => return []
  | key :: rest => do
      match ← StoreProgram.lookup key with
      | none => detectViolations events rest
      | some record =>
        let more ← detectViolations events rest
        return (violationOf events key record).toList ++ more

/-- `averify_event_dedupe_consistency`, with what `load` returns or raises. -/
def verifyEventDedupeConsistency (kind : StoreKind)
    (loaded : Except String (List RuntimeEvent)) (runId : String) :
    StoreProgram kind.backend ConsistencyReport := do
  match loaded with
  | .error _ => return ⟨runId, [⟨.eventLogUnavailable, none, none, none⟩], 0, 0⟩
  | .ok events =>
    let keys ← kind.collectDedupeKeys runId
    let violations ← detectViolations events keys
    return ⟨runId, violations, events.length, keys.length⟩

/-! ## The repairs -/

inductive ActionTaken where
  | markedUnknownEffect
  | loggedForReview
  | skipped
  deriving DecidableEq

/-- `ReconciliationAction`, without its text. -/
structure ReconciliationAction where
  idempotencyKey : String
  violationKind : ViolationKind
  actionTaken : ActionTaken

structure ReconciliationResult where
  runId : String
  actions : List ReconciliationAction
  violationsFound : Nat
  violationsRepaired : Nat

namespace DispatchOutboxReconciler

def terminalStates : List DedupeState := [.acknowledged, .unknownEffect]

def repairableStates : List DedupeState := [.reserved, .dispatched]

variable {backend : StoreBackend}

/-- The `try` of `_repair_orphaned_key`. -/
def transition (key : String) (currentState : Option DedupeState) :
    StoreProgram backend ActionTaken :=
  tryCatch
    (do
      if currentState = some .reserved then StoreProgram.markDispatched key
      StoreProgram.markUnknownEffect key
      return .markedUnknownEffect)
    fun error => if error.isStateError then return .skipped else throw error

def repairOrphanedKey (key : String) (violation : ConsistencyViolation) :
    StoreProgram backend ReconciliationAction := do
  let record ← StoreProgram.lookup key
  let currentState := (record.map DedupeRecord.state).or violation.dedupeState
  if currentState.any (· ∈ terminalStates) then
    return ⟨key, .orphanedDedupeKey, .skipped⟩
  else if currentState.all (· ∉ repairableStates) then
    return ⟨key, .orphanedDedupeKey, .skipped⟩
  else
    let taken ← transition key currentState
    return ⟨key, .orphanedDedupeKey, taken⟩

def repairViolation (key : String) (violation : ConsistencyViolation) :
    StoreProgram backend ReconciliationAction :=
  match violation.kind with
  | .orphanedDedupeKey => repairOrphanedKey key violation
  | .unknownEffectNoLogEvidence =>
    return ⟨key, .unknownEffectNoLogEvidence, .loggedForReview⟩
  | .eventLogUnavailable => return ⟨key, .eventLogUnavailable, .skipped⟩

/-- The loop of `_apply_repairs`. -/
def repairs : List ConsistencyViolation → StoreProgram backend (List ReconciliationAction)
  | [] => return []
  | violation :: rest => do
      let action ← repairViolation (violation.idempotencyKey.getD "") violation
      let more ← repairs rest
      return action :: more

def applyRepairs (runId : String) (report : ConsistencyReport) :
    StoreProgram backend ReconciliationResult := do
  let actions ← repairs report.violations
  return ⟨runId, actions, report.violations.length,
    actions.countP fun action => action.actionTaken ≠ .skipped⟩

def reconcile (kind : StoreKind) (loaded : Except String (List RuntimeEvent))
    (runId : String) : StoreProgram kind.backend ReconciliationResult := do
  let report ← verifyEventDedupeConsistency kind loaded runId
  applyRepairs runId report

end DispatchOutboxReconciler

/-! ## The calls, between two transactions -/

namespace StoreKind

variable (kind : StoreKind) (store : DedupeStore)

@[simp] theorem records_holding : kind.backend.records (kind.holding store) = store := by
  cases kind <;> rfl

theorem perform_holding {request : StoreRequest} (hfits : request.FitsColumn) :
    kind.backend.perform request (kind.holding store) =
      ((InMemoryDedupeStore.perform request store).1,
        kind.holding (InMemoryDedupeStore.perform request store).2) := by
  have hsql := (SqlDedupeStore.call_perform request store).resolve_right
    fun h => h.1 hfits
  cases kind with
  | inMemory => rfl
  | sqlite => exact hsql
  | colocated => exact hsql

end StoreKind

namespace StoreProgram

variable (kind : StoreKind) {key : String} {store : DedupeStore}

theorem run_call (request : StoreRequest) {answer : StoreAnswer} {after : DedupeStore}
    (hfits : request.FitsColumn)
    (h : InMemoryDedupeStore.perform request store = (.ok answer, after)) :
    (call request : StoreProgram kind.backend _).run (kind.holding store) =
      .ok answer (kind.holding after) := by
  have hperform := kind.perform_holding store hfits
  rw [h] at hperform
  unfold call EStateM.run
  dsimp only
  rw [hperform]

variable (key store) in
theorem run_lookup : (lookup key : StoreProgram kind.backend _).run (kind.holding store) =
      .ok (store.lookup key) (kind.holding store) := by
  unfold lookup
  rw [EStateM.run_bind, run_call kind (.get key) trivial rfl]
  rfl

theorem transition_of_mem (allowed : List DedupeState) (next : DedupeState)
    (h : (store.state key).any (· ∈ allowed) = true) :
    InMemoryDedupeStore.transition allowed next none none key store =
      (.ok .done, (DedupeStore.mark allowed next key store).2) := by
  rw [InMemoryDedupeStore.mark_eq]
  unfold InMemoryDedupeStore.transition
  cases hlookup : store.lookup key with
  | none =>
    rw [DedupeStore.state, hlookup] at h
    cases h
  | some record =>
    have hallowed : record.state ∈ allowed := by
      simpa [DedupeStore.state, hlookup] using h
    dsimp only
    rw [if_pos hallowed]

theorem run_markDispatched (h : store.state key = some .reserved) :
    (markDispatched key : StoreProgram kind.backend _).run (kind.holding store) =
      .ok () (kind.holding
        (DedupeStore.mark [.reserved, .dispatched] .dispatched key store).2) := by
  have hmark := transition_of_mem [.reserved, .dispatched] .dispatched
    (by rw [h]; decide)
  unfold markDispatched
  rw [EStateM.run_bind, run_call kind (.markDispatched key none) trivial hmark]
  rfl

theorem run_markUnknownEffect (h : store.state key = some .dispatched) :
    (markUnknownEffect key : StoreProgram kind.backend _).run (kind.holding store) =
      .ok () (kind.holding (DedupeStore.markUnknownEffect key store).2) := by
  have hmark := transition_of_mem [.dispatched, .unknownEffect] .unknownEffect
    (by rw [h]; decide)
  unfold markUnknownEffect
  rw [EStateM.run_bind, run_call kind (.markUnknownEffect key) trivial hmark]
  rfl

end StoreProgram

/-! ## What the check reports -/

section Check

variable (kind : StoreKind) (store : DedupeStore)

def DedupeStore.collected (kind : StoreKind) (runId : String) (store : DedupeStore) : List String :=
  (store.rows.map DedupeRecord.dispatchIdempotencyKey).filter (kind.collects runId)

theorem DedupeStore.mem_collected {runId key : String} :
    key ∈ store.collected kind runId ↔ store.Taken key ∧ kind.collects runId key = true := by
  rw [collected, mem_filter, mem_map, taken_iff]
  refine and_congr_left fun _ => exists_congr fun record => ?_
  exact Table.lookup_eq_some_iff.symm

theorem run_collectDedupeKeys (runId : String) :
    (kind.collectDedupeKeys runId).run (kind.holding store) =
      .ok (store.collected kind runId) (kind.holding store) := by
  change EStateM.Result.ok _ _ = _
  rw [kind.records_holding]
  rfl

def DedupeStore.violations (events : List RuntimeEvent) (keys : List String)
    (store : DedupeStore) : List ConsistencyViolation :=
  keys.flatMap fun key => ((store.lookup key).bind (violationOf events key)).toList

theorem run_detectViolations (events : List RuntimeEvent) (keys : List String) :
    (detectViolations events keys : StoreProgram kind.backend _).run (kind.holding store) =
      .ok (store.violations events keys) (kind.holding store) := by
  induction keys with
  | nil => rfl
  | cons key rest ih =>
    rw [detectViolations, EStateM.run_bind, StoreProgram.run_lookup]
    dsimp only
    rw [DedupeStore.violations, flatMap_cons]
    cases store.lookup key with
    | none => exact ih
    | some record =>
      dsimp only
      rw [EStateM.run_bind, ih]
      rfl

/-- The violations a check of the store reports. -/
def DedupeStore.reported (kind : StoreKind) (loaded : Except String (List RuntimeEvent))
    (runId : String) (store : DedupeStore) : List ConsistencyViolation :=
  match loaded with
  | .error _ => [⟨.eventLogUnavailable, none, none, none⟩]
  | .ok events => store.violations events (store.collected kind runId)

/-- A check reports what it finds and leaves the store. -/
theorem run_verify (loaded : Except String (List RuntimeEvent)) (runId : String) :
    ∃ report, (verifyEventDedupeConsistency kind loaded runId).run (kind.holding store) =
        .ok report (kind.holding store) ∧ report.violations = store.reported kind loaded runId := by
  unfold verifyEventDedupeConsistency
  cases loaded with
  | error error => exact ⟨_, rfl, rfl⟩
  | ok events =>
    dsimp only
    rw [EStateM.run_bind, run_collectDedupeKeys]
    dsimp only
    rw [EStateM.run_bind, run_detectViolations]
    exact ⟨_, rfl, rfl⟩

end Check

/-! ## What the repairs change -/

def Unsettled (state : Option DedupeState) : Prop :=
  state = some .reserved ∨ state = some .dispatched

instance (state : Option DedupeState) : Decidable (Unsettled state) :=
  inferInstanceAs (Decidable (_ ∨ _))

theorem taken_of_unsettled {store : DedupeStore} {key : String}
    (h : Unsettled (store.state key)) : store.Taken key := by
  by_contra hfree
  rw [DedupeStore.state_eq_none_iff.mpr hfree] at h
  rcases h with h | h <;> cases h

/-- The store after the repair of an orphaned key. -/
def DedupeStore.surface (key : String) (store : DedupeStore) : DedupeStore :=
  if store.state key = some .reserved then
    (markUnknownEffect key (mark [.reserved, .dispatched] .dispatched key store).2).2
  else if store.state key = some .dispatched then (markUnknownEffect key store).2
  else store

theorem DedupeStore.state_surface (marked key : String) (store : DedupeStore) :
    (store.surface marked).state key =
      if key = marked ∧ Unsettled (store.state key) then some .unknownEffect
      else store.state key := by
  unfold surface
  by_cases hkey : key = marked
  · subst hkey
    rcases hstate : store.state key with _ | state
    · simp [Unsettled, hstate]
    · cases state with
      | reserved | dispatched => simp [markUnknownEffect, state_mark, hstate, Unsettled]
      | _ => simp [Unsettled, hstate]
  · have hmark : ∀ from_ next store,
        (mark from_ next marked store).2.state key = store.state key := by
      intro from_ next store
      rw [state_mark, if_neg fun h => hkey h.1]
    have hother : ¬ (key = marked ∧ Unsettled (store.state key)) := fun h => hkey h.1
    rw [if_neg hother]
    split
    · exact (hmark _ _ _).trans (hmark _ _ store)
    · split
      · exact hmark _ _ store
      · rfl

def DedupeStore.surfaceAll (keys : List String) (store : DedupeStore) : DedupeStore :=
  keys.foldl (fun store key => store.surface key) store

theorem DedupeStore.state_surfaceAll (keys : List String) (key : String) (store : DedupeStore) :
    (store.surfaceAll keys).state key =
      if key ∈ keys ∧ Unsettled (store.state key) then some .unknownEffect
      else store.state key := by
  induction keys generalizing store with
  | nil => simp [surfaceAll]
  | cons marked rest ih =>
    change ((store.surface marked).surfaceAll rest).state key = _
    have hsettled : ¬ Unsettled (some DedupeState.unknownEffect) := by decide
    rw [ih, state_surface]
    by_cases hopen : Unsettled (store.state key)
    · by_cases hkey : key = marked
      · simp [hkey, hkey ▸ hopen, hsettled]
      · simp [hkey]
    · simp [hopen]

theorem DedupeStore.surfaceAll_append (first second : List String) (store : DedupeStore) :
    store.surfaceAll (first ++ second) = (store.surfaceAll first).surfaceAll second :=
  foldl_append

def orphanedKeys (violations : List ConsistencyViolation) : List String :=
  (violations.filter fun violation => violation.kind = .orphanedDedupeKey).map
    fun violation => violation.idempotencyKey.getD ""

theorem orphanedKeys_append (first second : List ConsistencyViolation) :
    orphanedKeys (first ++ second) = orphanedKeys first ++ orphanedKeys second := by
  unfold orphanedKeys
  rw [filter_append, map_append]

namespace DispatchOutboxReconciler

variable (kind : StoreKind) {key : String} {store : DedupeStore}

theorem run_transition (h : Unsettled (store.state key)) :
    (transition key (store.state key) : StoreProgram kind.backend _).run (kind.holding store) =
      .ok .markedUnknownEffect (kind.holding (store.surface key)) := by
  unfold transition
  rw [run_tryCatch]
  rcases h with hheld | hsent
  · have hmark := StoreProgram.run_markDispatched kind hheld
    generalize hafter : (DedupeStore.mark [.reserved, .dispatched] .dispatched key store).2 =
      after at hmark
    have hnext : after.state key = some .dispatched := by
      rw [← hafter, DedupeStore.state_mark, if_pos ⟨rfl, by rw [hheld]; decide⟩]
    rw [if_pos hheld, EStateM.run_bind, hmark]
    dsimp only
    rw [EStateM.run_bind, StoreProgram.run_markUnknownEffect kind hnext, DedupeStore.surface,
      if_pos hheld, hafter]
    rfl
  · have hne : ¬ store.state key = some .reserved := by
      rw [hsent]
      decide
    rw [if_neg hne]
    dsimp only
    rw [EStateM.run_bind, StoreProgram.run_markUnknownEffect kind hsent, DedupeStore.surface,
      if_neg hne, if_pos hsent]
    rfl

theorem run_repairOrphanedKey (htaken : store.Taken key) (violation : ConsistencyViolation) :
    ∃ action, (repairOrphanedKey key violation : StoreProgram kind.backend _).run
      (kind.holding store) = .ok action (kind.holding (store.surface key)) := by
  obtain ⟨record, hlookup⟩ := DedupeStore.taken_iff.mp htaken
  have hstate : store.state key = some record.state := by
    rw [DedupeStore.state, hlookup]
    rfl
  have hsettled : ¬ Unsettled (store.state key) → store.surface key = store := by
    intro h
    rw [Unsettled, not_or] at h
    rw [DedupeStore.surface, if_neg h.1, if_neg h.2]
  have hcurrent : (some record.state).or violation.dedupeState = store.state key := by
    rw [hstate]
    rfl
  unfold repairOrphanedKey
  rw [EStateM.run_bind, StoreProgram.run_lookup, hlookup]
  dsimp only
  rw [Option.map_some, hcurrent]
  split
  · rename_i hover
    rw [hsettled (by rw [hstate] at hover ⊢; revert hover; cases record.state <;> decide)]
    exact ⟨_, rfl⟩
  · split
    · rename_i hother
      rw [hsettled (by rw [hstate] at hother ⊢; revert hother; cases record.state <;> decide)]
      exact ⟨_, rfl⟩
    · rename_i hrepairable
      have hopen : Unsettled (store.state key) := by
        rw [hstate] at hrepairable ⊢
        revert hrepairable
        cases record.state <;> decide
      rw [EStateM.run_bind, run_transition kind hopen]
      exact ⟨_, rfl⟩

def Repairs (violations : List ConsistencyViolation) (before after : DedupeStore) : Prop :=
  ∀ key, after.state key =
    if key ∈ orphanedKeys violations ∧ Unsettled (before.state key) then some .unknownEffect
    else before.state key

theorem repairs_surfaceAll (violations : List ConsistencyViolation) (store : DedupeStore) :
    Repairs violations store (store.surfaceAll (orphanedKeys violations)) :=
  fun key => DedupeStore.state_surfaceAll (orphanedKeys violations) key store

theorem Repairs.taken {violations : List ConsistencyViolation} {before after : DedupeStore}
    (h : Repairs violations before after) (hkey : before.Taken key) : after.Taken key := by
  by_contra hfree
  rw [← DedupeStore.state_eq_none_iff, h key] at hfree
  split at hfree
  · cases hfree
  · exact DedupeStore.state_eq_none_iff.mp hfree hkey

theorem run_repairViolation {violation : ConsistencyViolation}
    (htaken : ∀ key ∈ orphanedKeys [violation], store.Taken key) :
    ∃ action, (repairViolation (violation.idempotencyKey.getD "") violation :
        StoreProgram kind.backend _).run (kind.holding store) =
      .ok action (kind.holding (store.surfaceAll (orphanedKeys [violation]))) := by
  unfold repairViolation
  cases hkind : violation.kind with
  | orphanedDedupeKey =>
    have hkeys : orphanedKeys [violation] = [violation.idempotencyKey.getD ""] := by
      simp [orphanedKeys, hkind]
    rw [hkeys] at htaken ⊢
    exact run_repairOrphanedKey kind (htaken _ mem_cons_self) violation
  | _ =>
    have hkeys : orphanedKeys [violation] = [] := by simp [orphanedKeys, hkind]
    rw [hkeys]
    exact ⟨_, rfl⟩

theorem run_repairs {violations : List ConsistencyViolation}
    (htaken : ∀ key ∈ orphanedKeys violations, store.Taken key) :
    ∃ actions, (repairs violations : StoreProgram kind.backend _).run (kind.holding store) =
      .ok actions (kind.holding (store.surfaceAll (orphanedKeys violations))) := by
  induction violations generalizing store with
  | nil => exact ⟨[], rfl⟩
  | cons violation rest ih =>
    have hsplit : orphanedKeys (violation :: rest) =
        orphanedKeys [violation] ++ orphanedKeys rest :=
      orphanedKeys_append [violation] rest
    rw [hsplit] at htaken
    obtain ⟨action, hfirst⟩ := run_repairViolation kind
      fun key hkey => htaken key (mem_append_left _ hkey)
    obtain ⟨actions, hrest⟩ := ih fun key hkey =>
      (repairs_surfaceAll [violation] store).taken (htaken key (mem_append_right _ hkey))
    refine ⟨action :: actions, ?_⟩
    rw [repairs, EStateM.run_bind, hfirst]
    dsimp only
    rw [EStateM.run_bind, hrest, hsplit, DedupeStore.surfaceAll_append]
    rfl

end DispatchOutboxReconciler

/-! ## Which records a reconciliation moves -/

/-- The check of the run takes a record of this key for an orphan. -/
def StoreKind.Orphans (kind : StoreKind) (loaded : Except String (List RuntimeEvent))
    (runId key : String) : Prop :=
  match loaded with
  | .error _ => False
  | .ok events => kind.collects runId key = true ∧ key ∉ eventIdempotencyKeys events

instance (kind : StoreKind) (loaded : Except String (List RuntimeEvent))
    (runId key : String) : Decidable (kind.Orphans loaded runId key) :=
  match loaded with
  | .error _ => inferInstanceAs (Decidable False)
  | .ok _ => inferInstanceAs (Decidable (_ ∧ _))

namespace DedupeStore

variable (kind : StoreKind) (store : DedupeStore)

theorem orphanedKeys_violationOf (events : List RuntimeEvent) (key : String) :
    orphanedKeys ((store.lookup key).bind (violationOf events key)).toList =
      if store.Taken key ∧ key ∉ eventIdempotencyKeys events then [key] else [] := by
  cases hlookup : store.lookup key with
  | none => simp [orphanedKeys, Taken, hlookup]
  | some record =>
    have htaken : store.Taken key := taken_iff.mpr ⟨record, hlookup⟩
    rw [Option.bind_some, violationOf]
    by_cases hkey : key ∈ eventIdempotencyKeys events
    · have hcarried : ¬ (store.Taken key ∧ key ∉ eventIdempotencyKeys events) :=
        fun h => h.2 hkey
      rw [if_neg hcarried, if_neg (not_not_intro hkey)]
      split
      · split <;> rfl
      · rfl
    · rw [if_pos hkey, if_pos ⟨htaken, hkey⟩]
      rfl

theorem mem_orphanedKeys_violations {events : List RuntimeEvent} {keys : List String}
    {key : String} : key ∈ orphanedKeys (store.violations events keys) ↔
      key ∈ keys ∧ store.Taken key ∧ key ∉ eventIdempotencyKeys events := by
  induction keys with
  | nil => simp [violations, orphanedKeys]
  | cons first rest ih =>
    have hcons : store.violations events (first :: rest) =
        ((store.lookup first).bind (violationOf events first)).toList ++
          store.violations events rest := rfl
    rw [hcons, orphanedKeys_append, orphanedKeys_violationOf, mem_append, ih, mem_cons]
    split
    · rename_i hfirst
      rw [mem_singleton]
      grind
    · grind

theorem mem_orphanedKeys_reported {loaded : Except String (List RuntimeEvent)}
    {runId key : String} : key ∈ orphanedKeys (store.reported kind loaded runId) ↔
      store.Taken key ∧ kind.Orphans loaded runId key := by
  cases loaded with
  | error error => exact iff_of_false (by simp [reported, orphanedKeys]) fun h => h.2
  | ok events =>
    rw [reported, mem_orphanedKeys_violations, mem_collected]
    unfold StoreKind.Orphans
    tauto

/-- The store after `reconcile`. -/
def reconciled (kind : StoreKind) (loaded : Except String (List RuntimeEvent))
    (runId : String) (store : DedupeStore) : DedupeStore :=
  kind.backend.records
    ((DispatchOutboxReconciler.reconcile kind loaded runId).leaves (kind.holding store))

theorem run_reconcile (loaded : Except String (List RuntimeEvent)) (runId : String) :
    ∃ result, (DispatchOutboxReconciler.reconcile kind loaded runId).run (kind.holding store) =
      .ok result
        (kind.holding (store.surfaceAll (orphanedKeys (store.reported kind loaded runId)))) := by
  obtain ⟨report, hverify, hreport⟩ := run_verify kind store loaded runId
  have htaken : ∀ other ∈ orphanedKeys report.violations, store.Taken other := by
    intro other hother
    rw [hreport, mem_orphanedKeys_reported] at hother
    exact hother.1
  obtain ⟨actions, hrepairs⟩ := DispatchOutboxReconciler.run_repairs kind htaken
  unfold DispatchOutboxReconciler.reconcile
  rw [EStateM.run_bind, hverify]
  dsimp only
  rw [DispatchOutboxReconciler.applyRepairs, EStateM.run_bind, hrepairs, hreport]
  exact ⟨_, rfl⟩

theorem reconciled_eq (loaded : Except String (List RuntimeEvent)) (runId : String) :
    store.reconciled kind loaded runId =
      store.surfaceAll (orphanedKeys (store.reported kind loaded runId)) := by
  obtain ⟨result, hrun⟩ := run_reconcile kind store loaded runId
  unfold reconciled StoreProgram.leaves
  rw [hrun]
  exact kind.records_holding _

/-- A reconciliation moves unsettled orphans alone. -/
theorem state_reconciled (loaded : Except String (List RuntimeEvent)) (runId key : String) :
    (store.reconciled kind loaded runId).state key =
      if kind.Orphans loaded runId key ∧ Unsettled (store.state key) then some .unknownEffect
      else store.state key := by
  rw [reconciled_eq, state_surfaceAll]
  simp only [mem_orphanedKeys_reported]
  by_cases hopen : Unsettled (store.state key)
  · simp [taken_of_unsettled hopen]
  · simp [hopen]

end DedupeStore

end HiAgent.Kernel
