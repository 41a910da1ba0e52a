/-
  Foundation/Table.lean --- relations with a primary key.

  A table is the list of its rows, oldest insertion first, no two rows sharing a
  key. The operations are the statements a client of a relational store issues
  against one table: a keyed read, `UPDATE ... WHERE`, `DELETE ... WHERE`,
  `INSERT OR IGNORE`, `INSERT OR REPLACE` and an ordered `SELECT ... LIMIT 1`.
-/
import Mathlib.Data.List.Nodup

namespace HiAgent.Foundation

open List

/-- The rows of a relation whose primary key is `key`. -/
structure Table {ρ κ : Type} (key : ρ → κ) where
  /-- The rows, in insertion order. -/
  rows : List ρ
  /-- The primary key is unique. -/
  keysNodup : (rows.map key).Nodup

/-- The right-hand sides of a `SET` clause that leaves the key alone. -/
structure Assignment {ρ κ : Type} (key : ρ → κ) where
  /-- The row after the assignment. -/
  set : ρ → ρ
  keeps : ∀ row, key (set row) = key row

namespace Table

variable {ρ κ : Type} {key : ρ → κ}

theorem ext_rows {t u : Table key} (h : t.rows = u.rows) : t = u := by
  cases t
  cases u
  cases h
  rfl

def empty : Table key := ⟨[], nodup_nil⟩

/-- `UPDATE ... SET f WHERE p`. -/
def update (t : Table key) (p : ρ → Bool) (f : Assignment key) : Table key where
  rows := t.rows.map fun row => if p row then f.set row else row
  keysNodup := by
    have hsame : (key ∘ fun row => if p row then f.set row else row) = key := by
      funext row
      simp only [Function.comp_apply]
      split
      · exact f.keeps row
      · rfl
    rw [map_map, hsame]
    exact t.keysNodup

/-- `DELETE ... WHERE p`. -/
def delete (t : Table key) (p : ρ → Bool) : Table key where
  rows := t.rows.filter fun row => !p row
  keysNodup := t.keysNodup.sublist (filter_sublist.map key)

/-- The rows a `SELECT ... WHERE p` returns, in insertion order. -/
def select (t : Table key) (p : ρ → Bool) : List ρ := t.rows.filter p

/-- The first of the rows that no other row comes before. -/
def firstBy (before : ρ → ρ → Bool) : List ρ → Option ρ
  | [] => none
  | row :: rest =>
    match firstBy before rest with
    | none => some row
    | some best => if before best row then some best else some row

/-- `SELECT ... WHERE p ORDER BY before LIMIT 1`. -/
def selectFirst (t : Table key) (p : ρ → Bool) (before : ρ → ρ → Bool) :
    Option ρ := firstBy before (t.select p)

section Keyed

variable [DecidableEq κ]

def lookup (t : Table key) (k : κ) : Option ρ :=
  t.rows.find? fun row => decide (key row = k)

/-- `UPDATE ... SET f WHERE key = k AND p`. -/
def updateAt (t : Table key) (k : κ) (p : ρ → Bool) (f : Assignment key) : Table key :=
  t.update (fun row => decide (key row = k) && p row) f

/-- `DELETE ... WHERE key = k AND p`. -/
def deleteAt (t : Table key) (k : κ) (p : ρ → Bool) : Table key :=
  t.delete fun row => decide (key row = k) && p row

/-- Whether a statement restricted to `key = k AND p` touches a row: its
`rowcount` is then one, and otherwise zero. -/
def hitsAt (t : Table key) (k : κ) (p : ρ → Bool) : Bool :=
  (t.lookup k).any p

/-- `INSERT OR REPLACE`: the row that held the key goes, the new one is last. -/
def insertOrReplace (t : Table key) (row : ρ) : Table key where
  rows := (t.rows.filter fun old => !decide (key old = key row)) ++ [row]
  keysNodup := by
    rw [map_append, List.nodup_append]
    refine ⟨t.keysNodup.sublist (filter_sublist.map key), by simp, ?_⟩
    intro left hleft right hright heq
    obtain ⟨old, hold, rfl⟩ := mem_map.mp hleft
    simp only [mem_filter, map_cons, map_nil, mem_singleton] at hold hright
    simp [heq, hright] at hold

/-- `INSERT OR IGNORE`: nothing happens when the key is taken. -/
def insertOrIgnore (t : Table key) (row : ρ) : Table key :=
  if (t.lookup (key row)).isSome then t else t.insertOrReplace row

/-! ## The row under a key -/

variable {t : Table key} {k : κ} {row : ρ}

theorem lookup_eq_some_iff : t.lookup k = some row ↔ row ∈ t.rows ∧ key row = k := by
  constructor
  · intro h
    exact ⟨mem_of_find?_eq_some h, by simpa using find?_some h⟩
  · rintro ⟨hmem, hk⟩
    unfold lookup
    cases hfind : t.rows.find? (fun other => decide (key other = k)) with
    | none =>
      rw [find?_eq_none] at hfind
      exact absurd hk (by simpa using hfind row hmem)
    | some other =>
      have hother : other ∈ t.rows := mem_of_find?_eq_some hfind
      have hkey : key other = k := by simpa using find?_some hfind
      rw [inj_on_of_nodup_map t.keysNodup hother hmem
        (hkey.trans hk.symm)]

theorem lookup_eq_none_iff : t.lookup k = none ↔ ∀ row ∈ t.rows, key row ≠ k := by
  simp [lookup, find?_eq_none]

theorem key_of_lookup (h : t.lookup k = some row) : key row = k :=
  (lookup_eq_some_iff.mp h).2

theorem mem_rows_iff : row ∈ t.rows ↔ t.lookup (key row) = some row := by
  simp [lookup_eq_some_iff]

@[simp] theorem lookup_update (t : Table key) (p : ρ → Bool) (f : Assignment key) (k : κ) :
    (t.update p f).lookup k = (t.lookup k).map fun row => if p row then f.set row else row := by
  have hsame : ((fun row => decide (key row = k)) ∘
      fun row => if p row then f.set row else row) = fun row => decide (key row = k) := by
    funext row
    simp only [Function.comp_apply]
    split
    · rw [f.keeps row]
    · rfl
  simp only [lookup, update, find?_map, hsame]

@[simp] theorem lookup_delete (t : Table key) (p : ρ → Bool) (k : κ) :
    (t.delete p).lookup k = (t.lookup k).filter fun row => !p row := by
  cases hrow : t.lookup k with
  | none =>
    rw [lookup_eq_none_iff] at hrow
    rw [Option.filter_none, lookup_eq_none_iff]
    intro row hmem
    exact hrow row (mem_of_mem_filter hmem)
  | some row =>
    obtain ⟨hmem, hk⟩ := lookup_eq_some_iff.mp hrow
    cases hp : p row with
    | false =>
      have hkept : row ∈ (t.delete p).rows :=
        mem_filter.mpr ⟨hmem, by simp [hp]⟩
      rw [lookup_eq_some_iff.mpr ⟨hkept, hk⟩]
      simp [Option.filter, hp]
    | true =>
      have hgone : (some row).filter (fun row => !p row) = none := by
        simp [Option.filter, hp]
      rw [hgone, lookup_eq_none_iff]
      intro other hother hkey
      have hfound := lookup_eq_some_iff.mpr
        ⟨mem_of_mem_filter hother, hkey⟩
      rw [hrow] at hfound
      obtain rfl := Option.some.inj hfound
      have hkept := (mem_filter.mp hother).2
      simp [hp] at hkept

/-- An update touches the row of its key alone. -/
theorem lookup_updateAt (t : Table key) (k : κ) (p : ρ → Bool) (f : Assignment key) (k' : κ) :
    (t.updateAt k p f).lookup k' =
      if k' = k then (t.lookup k).map fun row => if p row then f.set row else row
      else t.lookup k' := by
  rw [updateAt, lookup_update]
  split
  · subst k'
    cases hrow : t.lookup k with
    | none => rfl
    | some row => simp [key_of_lookup hrow]
  · cases hrow : t.lookup k' with
    | none => rfl
    | some row =>
      rename_i hne
      simp [key_of_lookup hrow, hne]

theorem lookup_deleteAt (t : Table key) (k : κ) (p : ρ → Bool) (k' : κ) :
    (t.deleteAt k p).lookup k' = if k' = k then (t.lookup k).filter fun row => !p row
      else t.lookup k' := by
  rw [deleteAt, lookup_delete]
  split
  · subst k'
    cases hrow : t.lookup k with
    | none => rfl
    | some row => simp [Option.filter, key_of_lookup hrow]
  · cases hrow : t.lookup k' with
    | none => rfl
    | some row =>
      rename_i hne
      simp [Option.filter, key_of_lookup hrow, hne]

variable {p : ρ → Bool}

theorem deleteAt_eq_self
    (h : ∀ row, t.lookup k = some row → p row = false) : t.deleteAt k p = t := by
  refine ext_rows (filter_eq_self.mpr ?_)
  intro row hmem
  by_cases hk : key row = k
  · have hmiss := h row (hk ▸ mem_rows_iff.mp hmem)
    simp [hmiss]
  · simp [hk]

/-- `INSERT OR REPLACE`, read by key. -/
theorem lookup_insertOrReplace (t : Table key) (row : ρ) (k : κ) :
    (t.insertOrReplace row).lookup k = if k = key row then some row else t.lookup k := by
  split
  · subst k
    exact lookup_eq_some_iff.mpr ⟨by simp [insertOrReplace], rfl⟩
  · rename_i hne
    cases hold : t.lookup k with
    | none =>
      rw [lookup_eq_none_iff] at hold ⊢
      intro other hother
      simp only [insertOrReplace, mem_append, mem_filter, mem_singleton] at hother
      rcases hother with ⟨hother, _⟩ | rfl
      · exact hold other hother
      · exact fun h => hne h.symm
    | some old =>
      obtain ⟨hmem, hk⟩ := lookup_eq_some_iff.mp hold
      refine lookup_eq_some_iff.mpr ⟨?_, hk⟩
      simp [insertOrReplace, hmem, hk, hne]

theorem lookup_insertOrIgnore (t : Table key) (row : ρ) (k : κ) : (t.insertOrIgnore row).lookup k =
      if k = key row then some ((t.lookup k).getD row) else t.lookup k := by
  unfold insertOrIgnore
  cases hold : t.lookup (key row) with
  | none =>
    simp only [Option.isSome_none, Bool.false_eq_true, if_false]
    rw [lookup_insertOrReplace]
    split
    · subst k
      simp [hold]
    · rfl
  | some old =>
    simp only [Option.isSome_some, if_true]
    split
    · subst k
      simp [hold]
    · rfl

theorem updateAt_congr {f g : Assignment key}
    (h : ∀ row, t.lookup k = some row → f.set row = g.set row) :
    t.updateAt k p f = t.updateAt k p g := by
  refine ext_rows (map_congr_left fun row hmem => ?_)
  by_cases hk : key row = k
  · rw [h row (hk ▸ mem_rows_iff.mp hmem)]
  · simp [hk]

theorem updateAt_eq_self {f : Assignment key}
    (h : ∀ row, t.lookup k = some row → f.set row = row) : t.updateAt k p f = t := by
  apply ext_rows
  refine (map_congr_left fun row hmem => ?_).trans (map_id t.rows)
  by_cases hk : key row = k
  · rw [h row (hk ▸ mem_rows_iff.mp hmem), ite_self]
    rfl
  · simp [hk]

/-! ## The rows themselves -/

theorem length_updateAt (t : Table key) (k : κ) (p : ρ → Bool) (f : Assignment key) :
    (t.updateAt k p f).rows.length = t.rows.length :=
  length_map ..

theorem rows_insertOrReplace (h : t.lookup (key row) = none) :
    (t.insertOrReplace row).rows = t.rows ++ [row] := by
  rw [lookup_eq_none_iff] at h
  change t.rows.filter _ ++ [row] = t.rows ++ [row]
  rw [filter_eq_self.mpr fun old hold => by simpa using h old hold]

theorem rows_deleteAt_first {first : ρ} {rest : List ρ}
    (h : t.rows = first :: rest) : (t.deleteAt (key first) fun _ => true).rows = rest := by
  have hnodup := t.keysNodup
  rw [h, map_cons, nodup_cons] at hnodup
  change t.rows.filter _ = rest
  rw [h, filter_cons_of_neg (by simp), filter_eq_self]
  intro row hrow
  have hne : key row ≠ key first := by
    intro heq
    exact hnodup.1 (heq ▸ mem_map_of_mem hrow)
  simpa using hne

/-! ## Ordered reads -/

omit [DecidableEq κ] in
theorem firstBy_mem {before : ρ → ρ → Bool} :
    ∀ {rows : List ρ} {best : ρ}, firstBy before rows = some best → best ∈ rows
  | [], _, h => by simp [firstBy] at h
  | row :: rest, best, h => by
      simp only [firstBy] at h
      cases hrest : firstBy before rest with
      | none =>
        rw [hrest] at h
        exact mem_cons.mpr (Or.inl (Option.some.inj h).symm)
      | some other =>
        rw [hrest] at h
        simp only at h
        split at h
        · exact mem_cons_of_mem row
            (firstBy_mem (hrest.trans h))
        · exact mem_cons.mpr (Or.inl (Option.some.inj h).symm)

theorem lookup_of_selectFirst {before : ρ → ρ → Bool} (h : t.selectFirst p before = some row) :
    t.lookup (key row) = some row ∧ p row = true := by
  have hmem := mem_filter.mp (firstBy_mem h)
  exact ⟨mem_rows_iff.mp hmem.1, hmem.2⟩

end Keyed

end Table

end HiAgent.Foundation
