/-
  Kernel/Consistency/Frame.lean --- what a reconciliation moves and leaves.

  A reconciliation takes for records of the run what the text of their keys makes look like
  ones. A run whose id goes on behind a colon passes for the run, and so does in SQLite one
  whose id differs in the case of its letters.
-/
import HiAgent.Kernel.Consistency
import HiAgent.Kernel.AtMostOnce

namespace HiAgent.Kernel

open Foundation

/-! ## Keys that look like ones of a run -/

namespace StoreKind

variable {runId key : String}

theorem isPrefixed_iff : isPrefixed runId key = true ↔ ∃ rest, key = runId ++ ":" ++ rest := by
  unfold isPrefixed
  rw [Option.isSome_iff_exists]
  exact exists_congr fun rest => Text.afterPrefix_eq_some_iff

theorem withoutNul_colon (h : WithoutNul runId) : WithoutNul (runId ++ ":") := by
  unfold WithoutNul at h ⊢
  rw [String.toList_append, List.all_append, h]
  rfl

theorem pattern_eq (runId : String) :
    pattern runId = Like.escaped (runId ++ ":").toList ++ ['%'] := by
  rw [String.toList_append, Like.escaped_append, pattern, List.append_assoc]
  rfl

end StoreKind

/-! ## Who has created a record -/

/-- A store, with the run whose dispatch has created the record of each key. -/
structure AttributedStore where
  store : DedupeStore
  creator : String → Option String

namespace AttributedStore

def empty : AttributedStore := ⟨.empty, fun _ => none⟩

/-- One turn: the records it adds are its run's. -/
def turn (ledger : AttributedStore) (dispatch : Turn × TurnCalls) : AttributedStore :=
  let after := (dispatch.1.run dispatch.2 ledger.store).2
  { store := after
    creator := fun key =>
      if after.Taken key ∧ ¬ ledger.store.Taken key then some dispatch.1.input.runId
      else ledger.creator key }

def ofTurns (turns : List (Turn × TurnCalls)) : AttributedStore :=
  exec turn .empty turns

end AttributedStore

/-! ## The frame -/

/-- A reconciliation keeps the states of all records that are not the run's, if and only
if none of them that is not settled has a key that looks like one of the run's and that
no event of the run carries. -/
theorem reconciled_keeps_iff (kind : StoreKind) (ledger : AttributedStore)
    (loaded : Except String (List RuntimeEvent)) (runId : String) :
    (∀ key, ledger.creator key ≠ some runId →
        (ledger.store.reconciled kind loaded runId).state key = ledger.store.state key) ↔
      ∀ key, ledger.creator key ≠ some runId → Unsettled (ledger.store.state key) →
        ¬ kind.Orphans loaded runId key := by
  refine forall_congr' fun key => imp_congr_right fun _ => ?_
  rw [DedupeStore.state_reconciled]
  constructor
  · intro hkeeps hopen horphan
    rw [if_pos ⟨horphan, hopen⟩] at hkeeps
    rw [← hkeeps] at hopen
    rcases hopen with h | h <;> cases h
  · intro hspared
    rw [if_neg fun h => hspared h.2 h.1]

/-- A dispatch of another run, whose executor has been cut off. -/
def foreignDispatch : Turn × TurnCalls :=
  ({ input := ⟨"run-1:2", 1, 1, "signal"⟩
     action := Ledger.submit
     contentHash := "a9c2412e802958862b6466efa63950b171e9e6846884c1f22bac4300bb50e064"
     snapshotHash := Ledger.firstSnapshot
     hostKind := .localCli
     admitted := none }, .steady .cancelled)

/-- The record of run `run-1:2` is moved by the reconciliation of run `run-1`. -/
theorem not_reconciled_keeps_foreign : ¬ ∀ (kind : StoreKind) (turns : List (Turn × TurnCalls))
        (loaded : Except String (List RuntimeEvent)) (runId key : String),
      (AttributedStore.ofTurns turns).creator key ≠ some runId →
        ((AttributedStore.ofTurns turns).store.reconciled kind loaded runId).state key =
          (AttributedStore.ofTurns turns).store.state key := by
  intro h
  have hstate := h .inMemory [foreignDispatch] (.ok []) "run-1" foreignDispatch.1.legacyKey
    (by decide +kernel)
  revert hstate
  decide +kernel

open List

/-! ## Records -/

namespace DedupeStore

variable {store : DedupeStore} {key marked : String} {keys : List String}

theorem lookup_mark_of_ne (from_ : List DedupeState) (next : DedupeState) (h : key ≠ marked) :
    (mark from_ next marked store).2.lookup key = store.lookup key := by
  unfold mark
  cases store.lookup marked with
  | none => rfl
  | some record =>
    dsimp only
    split
    · rw [Table.lookup_updateAt, if_neg h]
    · rfl

theorem surface_of_settled (h : ¬ Unsettled (store.state key)) : store.surface key = store := by
  rw [Unsettled, not_or] at h
  rw [surface, if_neg h.1, if_neg h.2]

theorem lookup_surface_of_ne (h : key ≠ marked) :
    (store.surface marked).lookup key = store.lookup key := by
  unfold surface
  split
  · rw [markUnknownEffect, lookup_mark_of_ne _ _ h, lookup_mark_of_ne _ _ h]
  · split
    · rw [markUnknownEffect, lookup_mark_of_ne _ _ h]
    · rfl

theorem lookup_surface (h : ¬ (key = marked ∧ Unsettled (store.state key))) :
    (store.surface marked).lookup key = store.lookup key := by
  by_cases hkey : key = marked
  · subst hkey
    rw [surface_of_settled fun hopen => h ⟨rfl, hopen⟩]
  · exact lookup_surface_of_ne hkey

theorem lookup_surfaceAll (h : ¬ (key ∈ keys ∧ Unsettled (store.state key))) :
    (store.surfaceAll keys).lookup key = store.lookup key := by
  induction keys generalizing store with
  | nil => rfl
  | cons marked rest ih =>
    have hfirst : (store.surface marked).lookup key = store.lookup key := by
      apply lookup_surface
      intro hmarked
      exact h ⟨hmarked.1 ▸ mem_cons_self, hmarked.2⟩
    change ((store.surface marked).surfaceAll rest).lookup key = _
    rw [ih, hfirst]
    rw [state, hfirst]
    intro hrest
    exact h ⟨mem_cons_of_mem _ hrest.1, hrest.2⟩

theorem surfaceAll_of_settled (h : ∀ key ∈ keys, ¬ Unsettled (store.state key)) :
    store.surfaceAll keys = store := by
  induction keys with
  | nil => rfl
  | cons marked rest ih =>
    change (store.surface marked).surfaceAll rest = store
    rw [surface_of_settled (h marked mem_cons_self)]
    exact ih fun key hkey => h key (mem_cons_of_mem _ hkey)

end DedupeStore

/-! ## Events that match a key -/

theorem mem_eventIdempotencyKeys_iff {events : List RuntimeEvent} {key : String} :
    key ∈ eventIdempotencyKeys events ↔
      key ≠ "" ∧ ∃ event ∈ events, event.idempotencyKey = some key := by
  simp [eventIdempotencyKeys, and_comm]

section InMemory

variable {store : DedupeStore} {events : List RuntimeEvent} {runId : String}

theorem mem_orphanedKeys_inMemory {key : String} :
    key ∈ orphanedKeys (store.reported .inMemory (.ok events) runId) ↔
      store.Taken key ∧ (∃ suffix, key = runId ++ ":" ++ suffix) ∧
        ∀ event ∈ events, event.idempotencyKey ≠ some key := by
  rw [DedupeStore.mem_orphanedKeys_reported]
  change _ ∧ StoreKind.isPrefixed runId key = true ∧ _ ↔ _
  rw [StoreKind.isPrefixed_iff, mem_eventIdempotencyKeys_iff]
  refine and_congr_right fun _ => and_congr_right fun hprefix => ?_
  have hne : key ≠ "" := by
    obtain ⟨suffix, hsuffix⟩ := hprefix
    intro hempty
    have hlength := congrArg String.length (hsuffix.symm.trans hempty)
    simp only [String.length_append] at hlength
    have hcolon : ":".length = 1 := rfl
    have hnone : "".length = 0 := rfl
    omega
  simp [hne]

/-! ## The law -/

/-- Over a store in memory, whatever it holds: a reconciliation of a run does not raise,
leaves none of the run's records without an event `reserved` or `dispatched`, does not
touch the records that were settled or have one, and leaves nothing to a second. -/
theorem reconcile_repairs (store : DedupeStore) (events : List RuntimeEvent) (runId : String) :
    ∃ result after, (DispatchOutboxReconciler.reconcile .inMemory (.ok events) runId).run store =
        .ok result after ∧
      (∀ suffix, (∀ event ∈ events, event.idempotencyKey ≠ some (runId ++ ":" ++ suffix)) →
        after.state (runId ++ ":" ++ suffix) ≠ some .reserved ∧
          after.state (runId ++ ":" ++ suffix) ≠ some .dispatched) ∧
      (∀ key record, store.lookup key = some record →
        record.state ∈ [DedupeState.acknowledged, .succeeded, .unknownEffect] ∨
          (∃ event ∈ events, event.idempotencyKey = some key) → after.lookup key = some record) ∧
      ∃ again, (DispatchOutboxReconciler.reconcile .inMemory (.ok events) runId).run after =
          .ok again after := by
  have hmem := @mem_orphanedKeys_inMemory store events runId
  obtain ⟨result, hrun⟩ := DedupeStore.run_reconcile .inMemory store (.ok events) runId
  generalize hkeys : orphanedKeys (store.reported .inMemory (.ok events) runId) = keys
    at hrun hmem
  have hstate := DedupeStore.state_surfaceAll keys
  have hsettled : ∀ suffix,
      (∀ event ∈ events, event.idempotencyKey ≠ some (runId ++ ":" ++ suffix)) →
      ¬ Unsettled ((store.surfaceAll keys).state (runId ++ ":" ++ suffix)) := by
    intro suffix hother hopen
    rw [hstate] at hopen
    split at hopen
    · exact absurd hopen (by decide)
    · rename_i hleft
      exact hleft ⟨hmem.mpr ⟨taken_of_unsettled hopen, ⟨suffix, rfl⟩, hother⟩, hopen⟩
  refine ⟨result, store.surfaceAll keys, hrun, ?_, ?_, ?_⟩
  · intro suffix hother
    exact not_or.mp (hsettled suffix hother)
  · intro key record hlookup hkept
    rw [← hlookup]
    apply DedupeStore.lookup_surfaceAll
    rintro ⟨horphan, hopen⟩
    rw [DedupeStore.state, hlookup, Option.map_some] at hopen
    cases hkept with
    | inl hstates =>
      revert hstates hopen
      cases record.state <;> decide
    | inr hmatched =>
      obtain ⟨event, hevent, hkey⟩ := hmatched
      exact (hmem.mp horphan).2.2 event hevent hkey
  · obtain ⟨again, hagain⟩ :=
      DedupeStore.run_reconcile .inMemory (store.surfaceAll keys) (.ok events) runId
    refine ⟨again, hagain.trans ?_⟩
    rw [DedupeStore.surfaceAll_of_settled]
    · rfl
    · intro key horphan
      obtain ⟨-, ⟨suffix, rfl⟩, hother⟩ := mem_orphanedKeys_inMemory.mp horphan
      exact hsettled suffix hother

end InMemory

end HiAgent.Kernel
