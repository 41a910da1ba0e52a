/-
  Kernel/DedupeStore/CountByRun.lean --- how many records a run has.

  `count_by_run` of `InMemoryDedupeStore`, `SQLiteDedupeStore` and
  `_SharedConnectionDedupeStore`. The store in memory looks for the id without the colon; SQLite
  compares the pattern of the two with `LIKE`, in either case of the letters and up to a NUL.
-/
import HiAgent.Kernel.Consistency.Frame

namespace HiAgent.Kernel

open Foundation List

/-! ## The three methods -/

/-- `count_by_run` of `InMemoryDedupeStore`. -/
def InMemoryDedupeStore.countByRun (store : DedupeStore) (runId : String) : Nat :=
  store.rows.countP fun record => Text.startsWith runId record.dispatchIdempotencyKey

/-- `SELECT COUNT(*) ... WHERE dispatch_idempotency_key LIKE ? ESCAPE '\'`. The length of
the pattern is looked at when there is a row to compare it with. -/
def DedupeStore.selectCount (store : DedupeStore) (pattern : List Char) : Except StoreError Nat :=
  if store.rows ≠ [] ∧ StoreKind.maxLikePatternLength < (pattern.map Char.utf8Size).sum then
    .error (.sqlite .operationalError)
  else
    .ok (store.rows.countP fun record =>
      Like.like '\\' pattern record.dispatchIdempotencyKey.toList)

/-- `count_by_run` of `SQLiteDedupeStore`. -/
def SQLiteDedupeStore.countByRun (store : DedupeStore) (runId : String) : Except StoreError Nat :=
  store.selectCount (StoreKind.pattern runId)

/-- `count_by_run` of `_SharedConnectionDedupeStore`. -/
def SharedConnectionDedupeStore.countByRun (store : DedupeStore) (runId : String) :
    Except StoreError Nat :=
  store.selectCount (StoreKind.pattern runId)

/-! ## Keys and their runs -/

def BelongsTo (runId key : String) : Prop := ∃ suffix, key = runId ++ ":" ++ suffix

instance (runId key : String) : Decidable (BelongsTo runId key) :=
  decidable_of_iff _ StoreKind.isPrefixed_iff

def DedupeStore.OfRuns (store : DedupeStore) : Prop :=
  ∀ record ∈ store.rows, ∃ owner, Joined.Solid owner ∧ BelongsTo owner record.dispatchIdempotencyKey

/-- Two run ids that `LIKE` does not tell apart. -/
def LookAlike (runId other : String) : Prop :=
  (WithoutNul runId ↔ WithoutNul other) ∧
    Like.alike (Like.cString runId.toList) (Like.cString other.toList) = true

instance (runId other : String) : Decidable (LookAlike runId other) :=
  inferInstanceAs (Decidable (_ ∧ _))

/-- No record is one of another run that begins like the run or looks like it, and SQLite
accepts the pattern. -/
def DedupeStore.CountsApart (store : DedupeStore) (runId : String) : Prop :=
  (∀ record ∈ store.rows, ∀ owner, Joined.Solid owner →
      BelongsTo owner record.dispatchIdempotencyKey → owner ≠ runId →
      ¬ runId.toList <+: owner.toList ∧ ¬ LookAlike runId owner) ∧
    (store.rows = [] ∨
      ((StoreKind.pattern runId).map Char.utf8Size).sum ≤ StoreKind.maxLikePatternLength)

variable {runId owner key : String}

theorem BelongsTo.unique (hrun : Joined.Solid runId)
    (howner : Joined.Solid owner) (h : BelongsTo runId key) (hother : BelongsTo owner key) :
    owner = runId := by
  obtain ⟨suffix, rfl⟩ := h
  obtain ⟨rest, hrest⟩ := hother
  exact ((Joined.colon_first_eq_iff hrun howner).mp hrest).1.symm

/-! ## What the two tests find -/

theorem startsWith_iff (hrun : Joined.Solid runId) (hkey : BelongsTo owner key) :
    Text.startsWith runId key = true ↔ runId.toList <+: owner.toList := by
  obtain ⟨suffix, rfl⟩ := hkey
  rw [Text.startsWith, isPrefixOf_iff_prefix, Joined.toList_colon]
  constructor
  · intro hprefix
    rcases prefix_or_prefix_of_prefix hprefix (prefix_append _ _) with
      hshort | ⟨rest, hrest⟩
    · exact hshort
    · rw [← hrest, prefix_append_right_inj] at hprefix
      cases rest with
      | nil => rw [← hrest, append_nil]
      | cons c rest =>
        obtain rfl : c = ':' := (cons_prefix_cons.mp hprefix).1
        exact absurd (hrest ▸ mem_append_right _ mem_cons_self) hrun
  · exact fun hprefix => hprefix.trans (prefix_append _ _)

theorem lowerChar_eq_colon {c : Char} (h : Text.lowerChar c = ':') : c = ':' := by
  have hlower : ∀ n < 26, Char.ofNat (n + 65 + 32) ≠ ':' := by decide
  rw [Text.lowerChar] at h
  split at h
  next hupper =>
    simp only [Bool.and_eq_true, decide_eq_true_eq] at hupper
    have hfirst : 65 ≤ c.toNat := hupper.1
    have hlast : c.toNat ≤ 90 := hupper.2
    apply absurd _ (hlower (c.toNat - 65) (by omega))
    rwa [Nat.sub_add_cancel hfirst]
  next => exact h

theorem lone_colon : Like.Lone ':' := by
  have hlower : Text.lowerChar ':' = ':' := rfl
  intro c h
  simp only [Like.same, hlower, Bool.or_eq_true, Bool.and_eq_true, beq_iff_eq] at h
  rcases h with (heq | ⟨⟨heq, -⟩, -⟩) | (heq | ⟨⟨heq, -⟩, -⟩)
  · exact heq
  · exact lowerChar_eq_colon heq
  · exact heq.symm
  · exact lowerChar_eq_colon heq.symm

theorem like_pattern_iff (hrun : Joined.Solid runId)
    (howner : Joined.Solid owner) (hkey : BelongsTo owner key) :
    Like.like '\\' (StoreKind.pattern runId) key.toList = true ↔ LookAlike runId owner := by
  obtain ⟨suffix, rfl⟩ := hkey
  have hcut : ∀ {text : List Char}, ':' ∉ text → ':' ∉ Like.cString text :=
    fun htext hmem => htext (( takeWhile_prefix _).subset hmem)
  have hcolon : Like.cString (':' :: suffix.toList) = ':' :: Like.cString suffix.toList := rfl
  rw [Joined.toList_colon, LookAlike]
  by_cases hnul : WithoutNul runId
  · have htext : (runId ++ ":").toList = runId.toList ++ [':'] := String.toList_append
    rw [StoreKind.pattern_eq, Like.like_escaped_percent (StoreKind.withoutNul_colon hnul), htext]
    by_cases hother : WithoutNul owner
    · rw [Like.cString_append hother, hcolon, Like.behind_separated lone_colon hrun howner,
        Like.cString_of_all hnul, Like.cString_of_all hother]
      simp [hnul, hother]
    · rw [Like.cString_append_of_nul hother, Like.behind_of_not_mem lone_colon (hcut howner)]
      simp [hnul, hother]
  · rw [StoreKind.pattern, Like.like_escaped_of_nul hnul]
    by_cases hother : WithoutNul owner
    · have hmem : ':' ∈ Like.cString (owner.toList ++ ':' :: suffix.toList) := by
        rw [Like.cString_append hother, hcolon]
        exact mem_append_right _ mem_cons_self
      rw [Like.not_alike_of_mem lone_colon (hcut hrun) hmem]
      simp [hnul, hother]
    · rw [Like.cString_append_of_nul hother]
      simp [hnul, hother]

theorem lookAlike_self (runId : String) : LookAlike runId runId :=
  ⟨Iff.rfl, Like.alike_self _⟩

/-! ## Counts -/

theorem countP_eq_countP_iff {α : Type} {p q : α → Bool} {rows : List α}
    (h : ∀ row ∈ rows, q row = true → p row = true) :
    rows.countP p = rows.countP q ↔ ∀ row ∈ rows, p row = true → q row = true := by
  have hq : rows.countP q = (rows.filter p).countP q := by
    rw [countP_filter]
    refine countP_congr fun row hrow => ?_
    rw [Bool.and_eq_true]
    exact ⟨fun hone => ⟨hone, h row hrow hone⟩, And.left⟩
  rw [hq, countP_eq_length_filter, eq_comm, countP_eq_length]
  simp only [mem_filter, and_imp]

namespace DedupeStore

variable {store : DedupeStore} {runId : String}

def ownCount (store : DedupeStore) (runId : String) : Nat :=
  store.rows.countP fun record => decide (BelongsTo runId record.dispatchIdempotencyKey)

theorem countP_eq_ownCount_iff (hkeys : store.OfRuns) (hrun : Joined.Solid runId)
    (test : String → Bool) {related : String → Prop} (hself : related runId)
    (htest : ∀ owner key, Joined.Solid owner → BelongsTo owner key →
      (test key = true ↔ related owner)) :
    (store.rows.countP fun record => test record.dispatchIdempotencyKey) = store.ownCount runId ↔
      ∀ record ∈ store.rows, ∀ owner, Joined.Solid owner →
        BelongsTo owner record.dispatchIdempotencyKey → owner ≠ runId → ¬ related owner := by
  rw [ownCount, countP_eq_countP_iff]
  · constructor
    · intro hagree record hrecord owner howner hbelongs hne hrelated
      have hown := hagree record hrecord ((htest owner _ howner hbelongs).mpr hrelated)
      exact hne ((of_decide_eq_true hown).unique hrun howner hbelongs)
    · intro hapart record hrecord hpassed
      obtain ⟨owner, howner, hbelongs⟩ := hkeys record hrecord
      have hrelated := (htest owner _ howner hbelongs).mp hpassed
      have hsame : owner = runId := by
        by_contra hne
        exact hapart record hrecord owner howner hbelongs hne hrelated
      exact decide_eq_true (hsame ▸ hbelongs)
  · intro record hrecord hown
    exact (htest runId _ hrun (of_decide_eq_true hown)).mpr hself

theorem countByRun_inMemory_iff (hkeys : store.OfRuns) (hrun : Joined.Solid runId) :
    InMemoryDedupeStore.countByRun store runId = store.ownCount runId ↔
      ∀ record ∈ store.rows, ∀ owner, Joined.Solid owner →
        BelongsTo owner record.dispatchIdempotencyKey → owner ≠ runId →
        ¬ runId.toList <+: owner.toList := by
  apply countP_eq_ownCount_iff hkeys hrun (Text.startsWith runId) (prefix_refl _)
  intro owner key _ hbelongs
  exact startsWith_iff hrun hbelongs

theorem selectCount_iff (hkeys : store.OfRuns) (hrun : Joined.Solid runId) :
    store.selectCount (StoreKind.pattern runId) = .ok (store.ownCount runId) ↔
      (∀ record ∈ store.rows, ∀ owner, Joined.Solid owner →
        BelongsTo owner record.dispatchIdempotencyKey → owner ≠ runId → ¬ LookAlike runId owner) ∧
      (store.rows = [] ∨ ((StoreKind.pattern runId).map Char.utf8Size).sum ≤
          StoreKind.maxLikePatternLength) := by
  rw [selectCount]
  split
  next hlong =>
    constructor
    · intro habsurd
      cases habsurd
    · rintro ⟨-, hempty | hshort⟩
      · exact absurd hempty hlong.1
      · exact absurd hlong.2 (Nat.not_lt.mpr hshort)
  next hshort =>
    have htook : store.rows = [] ∨ ((StoreKind.pattern runId).map Char.utf8Size).sum ≤
        StoreKind.maxLikePatternLength := by
      rwa [not_and_or, not_not, Nat.not_lt] at hshort
    rw [and_iff_left htook, Except.ok.injEq]
    apply countP_eq_ownCount_iff hkeys hrun
      (fun key => Like.like '\\' (StoreKind.pattern runId) key.toList) (lookAlike_self runId)
    intro owner key howner hbelongs
    exact like_pattern_iff hrun howner hbelongs

/-- All three methods count the records of a run if and only if no record is one of another
run that begins like it or looks like it, and its pattern is accepted. -/
theorem countByRun_exact_iff (hkeys : store.OfRuns) (hrun : Joined.Solid runId) :
    (InMemoryDedupeStore.countByRun store runId = store.ownCount runId ∧
        SQLiteDedupeStore.countByRun store runId = .ok (store.ownCount runId) ∧
        SharedConnectionDedupeStore.countByRun store runId = .ok (store.ownCount runId)) ↔
      store.CountsApart runId := by
  rw [countByRun_inMemory_iff hkeys hrun, SQLiteDedupeStore.countByRun,
    SharedConnectionDedupeStore.countByRun, and_self, selectCount_iff hkeys hrun, CountsApart,
    ← and_assoc]
  refine and_congr_left fun _ => ?_
  constructor
  · intro h record hrecord owner howner hbelongs hne
    exact ⟨h.1 record hrecord owner howner hbelongs hne,
      h.2 record hrecord owner howner hbelongs hne⟩
  · intro h
    constructor
    · intro record hrecord owner howner hbelongs hne
      exact (h record hrecord owner howner hbelongs hne).1
    · intro record hrecord owner howner hbelongs hne
      exact (h record hrecord owner howner hbelongs hne).2

/-- A store with one record a key, as `reserve` leaves it. -/
def holding (keys : List String) : DedupeStore :=
  keys.foldl (fun store key => store.insertOrReplace ⟨key, "fingerprint", 1, .reserved, none, none⟩)
    Table.empty

/-- Two records of a run and one of a run that the unescaped pattern would match. -/
def twoRuns : DedupeStore := holding ["run_a:act:1", "run_a:act:2", "runXa:act:1"]

theorem owner_twoRuns {record : DedupeRecord} (h : record ∈ twoRuns.rows) :
    BelongsTo "run_a" record.dispatchIdempotencyKey ∨
      BelongsTo "runXa" record.dispatchIdempotencyKey := by
  obtain rfl | hrest := mem_cons.mp h
  · exact .inl ⟨"act:1", rfl⟩
  · obtain rfl | hlast := mem_cons.mp hrest
    · exact .inl ⟨"act:2", rfl⟩
    · obtain rfl := mem_singleton.mp hlast
      exact .inr ⟨"act:1", rfl⟩

theorem ofRuns_twoRuns : twoRuns.OfRuns := by
  intro record hrecord
  rcases owner_twoRuns hrecord with hmine | hother
  · exact ⟨"run_a", by decide, hmine⟩
  · exact ⟨"runXa", by decide, hother⟩

theorem countByRun_exact_iff_twoRuns :
    InMemoryDedupeStore.countByRun twoRuns "run_a" = 2 ∧
      SQLiteDedupeStore.countByRun twoRuns "run_a" = .ok 2 ∧
      SharedConnectionDedupeStore.countByRun twoRuns "run_a" = .ok 2 := by
  have hsolid : Joined.Solid "run_a" := by decide
  apply (countByRun_exact_iff ofRuns_twoRuns hsolid).mpr
  refine ⟨?_, .inr (by decide)⟩
  intro record hrecord owner howner hbelongs hne
  rcases owner_twoRuns hrecord with hmine | hother
  · exact absurd (BelongsTo.unique hsolid howner hmine hbelongs) hne
  · obtain rfl := BelongsTo.unique (by decide) howner hother hbelongs
    decide

/-- In memory a record of run `run-10` counts for run `run-1`, and in SQLite one of run
`RUN-1`. -/
theorem not_countByRun_exact :
    (InMemoryDedupeStore.countByRun (holding ["run-10:act:1"]) "run-1" = 1 ∧
      (holding ["run-10:act:1"]).ownCount "run-1" = 0) ∧
    SQLiteDedupeStore.countByRun (holding ["RUN-1:act:1"]) "run-1" = .ok 1 ∧
      (holding ["RUN-1:act:1"]).ownCount "run-1" = 0 := by
  refine ⟨⟨by decide, by decide⟩, ?_, by decide⟩
  have hshort : ((StoreKind.pattern "run-1").map Char.utf8Size).sum = 7 := by decide
  have hlike : Like.like '\\' (StoreKind.pattern "run-1") "RUN-1:act:1".toList = true :=
    (like_pattern_iff (by decide) (by decide : Joined.Solid "RUN-1") ⟨"act:1", rfl⟩).mpr (by decide)
  have hrows : (holding ["RUN-1:act:1"]).rows =
      [⟨"RUN-1:act:1", "fingerprint", 1, .reserved, none, none⟩] := rfl
  rw [SQLiteDedupeStore.countByRun, selectCount, hshort,
    if_neg (fun h => absurd h.2 (by decide)), hrows, countP_singleton, if_pos hlike]

end DedupeStore

end HiAgent.Kernel
