/-
  Foundation/Dict.lean --- dictionaries in the order of insertion.

  A dictionary is a table of key and value. Assignment keeps the place of a key that is there and
  puts a new one last.
-/
import HiAgent.Foundation.Table

namespace HiAgent.Foundation

/-- A dictionary from `κ` to `α`. -/
abbrev Dict (κ α : Type) := Table (Prod.fst : κ × α → κ)

namespace Dict

variable {κ α : Type}

/-- `{}`. -/
def empty : Dict κ α := Table.empty

def keys (d : Dict κ α) : List κ := d.rows.map Prod.fst

variable [DecidableEq κ]

/-- `d.get(key)`. -/
def get? (d : Dict κ α) (key : κ) : Option α := (d.lookup key).map Prod.snd

/-- `d.get(key, default)`. -/
def getD (d : Dict κ α) (key : κ) (default : α) : α := (d.get? key).getD default

def assign (value : α) : Assignment (Prod.fst : κ × α → κ) where
  set row := (row.1, value)
  keeps _ := rfl

/-- `d[key] = value`. -/
def set (d : Dict κ α) (key : κ) (value : α) : Dict κ α :=
  if (d.get? key).isSome then d.updateAt key (fun _ => true) (assign value)
  else d.insertOrReplace (key, value)

/-- `d.pop(key, None)`. -/
def pop (d : Dict κ α) (key : κ) : Dict κ α := d.deleteAt key fun _ => true

@[simp] theorem get?_set (d : Dict κ α) (key other : κ) (value : α) :
    (d.set key value).get? other = if other = key then some value else d.get? other := by
  rw [set]
  split
  · rename_i hsome
    obtain ⟨old, hold⟩ := Option.isSome_iff_exists.mp hsome
    obtain ⟨row, hrow, -⟩ := Option.map_eq_some_iff.mp hold
    rw [get?, Table.lookup_updateAt]
    split
    · rw [hrow]
      rfl
    · rfl
  · rw [get?, Table.lookup_insertOrReplace]
    split
    · rfl
    · rfl

@[simp] theorem get?_pop (d : Dict κ α) (key other : κ) :
    (d.pop key).get? other = if other = key then none else d.get? other := by
  rw [pop, get?, Table.lookup_deleteAt]
  split
  · cases d.lookup key <;> rfl
  · rfl

@[simp] theorem getD_set (d : Dict κ α) (key other : κ) (value default : α) :
    (d.set key value).getD other default = if other = key then value else d.getD other default := by
  rw [getD, get?_set]
  split
  · rfl
  · rfl

@[simp] theorem getD_pop (d : Dict κ α) (key other : κ) (default : α) :
    (d.pop key).getD other default = if other = key then default else d.getD other default := by
  rw [getD, get?_pop]
  split
  · rfl
  · rfl

theorem rows_set_of_none {d : Dict κ α} {key : κ} (h : d.get? key = none) (value : α) :
    (d.set key value).rows = d.rows ++ [(key, value)] := by
  rw [set, h]
  exact Table.rows_insertOrReplace (Option.map_eq_none_iff.mp h)

theorem rows_set_of_some {d : Dict κ α} {key : κ} (h : (d.get? key).isSome) (value : α) :
    (d.set key value).rows = d.rows.map fun row => if row.1 = key then (row.1, value) else row := by
  rw [set, if_pos h]
  refine List.map_congr_left fun row _ => ?_
  simp [assign]

end Dict

end HiAgent.Foundation

namespace HiAgent.Foundation

open List

namespace Dict

variable {κ α β : Type}

/-- `{key: f(value) for key, value in d.items()}`. -/
def mapValues (d : Dict κ α) (f : α → β) : Dict κ β where
  rows := d.rows.map fun row => (row.1, f row.2)
  keysNodup := by
    rw [map_map]
    exact d.keysNodup

@[simp] theorem keys_mapValues (d : Dict κ α) (f : α → β) : (d.mapValues f).keys = d.keys := by
  rw [keys, keys, mapValues, map_map]
  rfl

variable [DecidableEq κ] {d : Dict κ α} {key : κ} {value : α}

/-- What is stored under a key is its row. -/
theorem get?_eq_some_iff : d.get? key = some value ↔ (key, value) ∈ d.rows := by
  rw [get?, Option.map_eq_some_iff]
  constructor
  · rintro ⟨row, hrow, rfl⟩
    obtain ⟨hmem, rfl⟩ := Table.lookup_eq_some_iff.mp hrow
    exact hmem
  · intro hmem
    exact ⟨(key, value), Table.lookup_eq_some_iff.mpr ⟨hmem, rfl⟩, rfl⟩

theorem mem_keys_iff : key ∈ d.keys ↔ (d.get? key).isSome := by
  rw [keys, mem_map, Option.isSome_iff_exists]
  constructor
  · rintro ⟨row, hrow, rfl⟩
    exact ⟨row.2, get?_eq_some_iff.mpr hrow⟩
  · rintro ⟨value, hvalue⟩
    exact ⟨(key, value), get?_eq_some_iff.mp hvalue, rfl⟩

@[simp] theorem get?_mapValues (d : Dict κ α) (f : α → β) (key : κ) :
    (d.mapValues f).get? key = (d.get? key).map f := by
  ext value
  rw [get?_eq_some_iff, Option.map_eq_some_iff, mapValues, mem_map]
  constructor
  · rintro ⟨row, hrow, hvalue⟩
    obtain ⟨rfl, rfl⟩ := Prod.mk.inj hvalue
    exact ⟨row.2, get?_eq_some_iff.mpr hrow, rfl⟩
  · rintro ⟨old, hold, rfl⟩
    exact ⟨(key, old), get?_eq_some_iff.mp hold, rfl⟩

@[simp] theorem get?_empty (key : κ) : (empty : Dict κ α).get? key = none := rfl

theorem keys_set_of_mem (h : key ∈ d.keys) (value : α) : (d.set key value).keys = d.keys := by
  rw [keys, rows_set_of_some (mem_keys_iff.mp h), map_map]
  refine map_congr_left fun row _ => ?_
  simp only [Function.comp_apply]
  split <;> rfl

theorem keys_set_of_notMem (h : key ∉ d.keys) (value : α) :
    (d.set key value).keys = d.keys ++ [key] := by
  rw [mem_keys_iff, Option.not_isSome_iff_eq_none] at h
  rw [keys, rows_set_of_none h, map_append]
  rfl

theorem keys_foldl_set {items : List κ} (h : (d.keys ++ items).Nodup) (value : α) :
    (items.foldl (fun d key => d.set key value) d).keys = d.keys ++ items := by
  induction items generalizing d with
  | nil => simp
  | cons item rest ih =>
    have hnew : item ∉ d.keys := fun hmem =>
      (List.nodup_append.mp h).2.2 item hmem item mem_cons_self rfl
    have hkeys := keys_set_of_notMem hnew value
    rw [foldl_cons, ih (by rw [hkeys]; simpa using h), hkeys]
    simp

theorem getD_foldl_set (items : List κ) (d : Dict κ α) (value default : α) (key : κ) :
    (items.foldl (fun d key => d.set key value) d).getD key default =
      if key ∈ items then value else d.getD key default := by
  induction items generalizing d with
  | nil => simp
  | cons item rest ih =>
    rw [foldl_cons, ih, getD_set]
    by_cases hrest : key ∈ rest
    · simp [hrest]
    · simp [hrest]

theorem exists_split (h : d.get? key = some value) :
    ∃ front behind, d.rows = front ++ (key, value) :: behind ∧
      (∀ row ∈ front, row.1 ≠ key) ∧ ∀ row ∈ behind, row.1 ≠ key := by
  obtain ⟨front, behind, hrows⟩ := append_of_mem (get?_eq_some_iff.mp h)
  have hnodup := d.keysNodup
  rw [hrows, map_append, map_cons, List.nodup_append] at hnodup
  obtain ⟨-, hbehind, hfront⟩ := hnodup
  refine ⟨front, behind, hrows, fun row hrow => ?_, fun row hrow hkey => ?_⟩
  · exact hfront row.1 (mem_map_of_mem hrow) key mem_cons_self
  · exact (nodup_cons.mp hbehind).1 (mem_map.mpr ⟨row, hrow, hkey⟩)

theorem rows_set_split {old : α} {front behind : List (κ × α)}
    (hrows : d.rows = front ++ (key, old) :: behind) (hfront : ∀ row ∈ front, row.1 ≠ key)
    (hbehind : ∀ row ∈ behind, row.1 ≠ key) (value : α) :
    (d.set key value).rows = front ++ (key, value) :: behind := by
  have hold : d.get? key = some old := by
    rw [get?_eq_some_iff, hrows]
    exact mem_append_right front mem_cons_self
  have hkeep : ∀ rows : List (κ × α), (∀ row ∈ rows, row.1 ≠ key) →
      rows.map (fun row => if row.1 = key then (row.1, value) else row) = rows := by
    intro rows hother
    refine (map_congr_left fun row hrow => ?_).trans (map_id rows)
    exact if_neg (hother row hrow)
  rw [rows_set_of_some (by rw [hold]; rfl), hrows, map_append, map_cons,
    hkeep front hfront, hkeep behind hbehind, if_pos rfl]

theorem rows_pop_split {old : α} {front behind : List (κ × α)}
    (hrows : d.rows = front ++ (key, old) :: behind) (hfront : ∀ row ∈ front, row.1 ≠ key)
    (hbehind : ∀ row ∈ behind, row.1 ≠ key) : (d.pop key).rows = front ++ behind := by
  have hkeep : ∀ rows : List (κ × α), (∀ row ∈ rows, row.1 ≠ key) →
      rows.filter (fun row => !(decide (row.1 = key) && true)) = rows := by
    intro rows hother
    rw [filter_eq_self]
    intro row hrow
    simpa using hother row hrow
  change d.rows.filter (fun row => !(decide (row.1 = key) && true)) = front ++ behind
  rw [hrows, filter_append, filter_cons_of_neg (by simp), hkeep front hfront, hkeep behind hbehind]

theorem get?_foldl_pop (path : β → κ) (items : List β) (d : Dict κ α) (key : κ) :
    (items.foldl (fun d item => d.pop (path item)) d).get? key =
      if key ∈ items.map path then none else d.get? key := by
  induction items generalizing d with
  | nil => rfl
  | cons item rest ih =>
    rw [foldl_cons, ih, get?_pop, map_cons]
    by_cases hrest : key ∈ rest.map path
    · rw [if_pos hrest, if_pos (mem_cons_of_mem _ hrest)]
    · rw [if_neg hrest]
      refine if_congr ?_ rfl rfl
      rw [mem_cons, or_iff_left hrest]

/-- `d.values()`. -/
def values (d : Dict κ α) : List α := d.rows.map Prod.snd

theorem mem_values_iff : value ∈ d.values ↔ ∃ key, d.get? key = some value := by
  rw [values, mem_map]
  constructor
  · rintro ⟨row, hrow, rfl⟩
    exact ⟨row.1, get?_eq_some_iff.mpr hrow⟩
  · rintro ⟨key, hkey⟩
    exact ⟨(key, value), get?_eq_some_iff.mp hkey, rfl⟩

theorem set_eq_self (h : d.get? key = some value) : d.set key value = d := by
  refine Table.ext_rows ?_
  rw [rows_set_of_some (Option.isSome_iff_exists.mpr ⟨value, h⟩)]
  refine (map_congr_left fun row hrow => ?_).trans (map_id d.rows)
  split
  · rename_i hkey
    have hrow : d.get? key = some row.2 := get?_eq_some_iff.mpr (hkey ▸ hrow)
    rw [Option.some.inj (h.symm.trans hrow)]
    rfl
  · rfl

theorem filter_values_set {p : α → Bool}
    (hnew : p value = false) (hold : ∀ old, d.get? key = some old → p old = false) :
    (d.set key value).values.filter p = d.values.filter p := by
  rw [values, values]
  cases hfound : d.get? key with
  | none =>
    rw [rows_set_of_none hfound, map_append, filter_append]
    simp [hnew]
  | some old =>
    obtain ⟨front, behind, hrows, hfront, hbehind⟩ := exists_split hfound
    rw [rows_set_split hrows hfront hbehind, hrows]
    simp [hnew, hold old hfound]

end Dict

open List

namespace Dict

variable {κ α ω : Type} [DecidableEq κ]

/-! ## Insertions that are ignored -/

/-- `INSERT OR IGNORE`, or `d.setdefault(key, value)`. -/
def setDefault (d : Dict κ α) (key : κ) (value : α) : Dict κ α :=
  if (d.get? key).isSome then d else d.set key value

def setDefaults (d : Dict κ α) (rows : List (κ × α)) : Dict κ α :=
  rows.foldl (fun d row => d.setDefault row.1 row.2) d

variable {d : Dict κ α} {key : κ}

theorem setDefault_of_some {old : α} (hold : d.get? key = some old)
    (value : α) : d.setDefault key value = d := by
  rw [setDefault, hold]
  rfl

theorem setDefault_of_none (hnone : d.get? key = none) (value : α) :
    d.setDefault key value = d.set key value := by
  rw [setDefault, hnone]
  rfl

theorem get?_setDefault (d : Dict κ α) (key other : κ) (value : α) :
    (d.setDefault key value).get? other =
      if other = key then some ((d.get? key).getD value) else d.get? other := by
  cases hold : d.get? key with
  | none => rw [setDefault_of_none hold, Option.getD_none, get?_set]
  | some old =>
    rw [setDefault_of_some hold, Option.getD_some]
    split
    · rename_i hkey
      rw [hkey, hold]
    · rfl

theorem get?_setDefaults_of_some {old : α} (hold : d.get? key = some old)
    (rows : List (κ × α)) : (d.setDefaults rows).get? key = some old := by
  induction rows generalizing d with
  | nil => exact hold
  | cons row rest ih =>
    refine ih ?_
    rw [get?_setDefault]
    split
    · rename_i hkey
      rw [← hkey, hold, Option.getD_some]
    · exact hold

variable {rows : List (κ × α)}

theorem isSome_setDefaults {row : κ × α} (hrow : row ∈ rows) :
    ((d.setDefaults rows).get? row.1).isSome := by
  induction rows generalizing d with
  | nil => exact absurd hrow not_mem_nil
  | cons first rest ih =>
    rcases mem_cons.mp hrow with rfl | hmem
    · have hset : (d.setDefault row.1 row.2).get? row.1 = some ((d.get? row.1).getD row.2) := by
        rw [get?_setDefault, if_pos rfl]
      exact Option.isSome_iff_exists.mpr ⟨_, get?_setDefaults_of_some hset rest⟩
    · exact ih hmem

variable {value : α}

theorem get?_setDefaults_cases
    (hvalue : (d.setDefaults rows).get? key = some value) :
    d.get? key = some value ∨ (key, value) ∈ rows := by
  induction rows generalizing d with
  | nil => exact .inl hvalue
  | cons row rest ih =>
    rcases ih hvalue with hfirst | hmem
    · dsimp only at hfirst
      cases hold : d.get? row.1 with
      | some old =>
        rw [setDefault_of_some hold] at hfirst
        exact .inl hfirst
      | none =>
        rw [setDefault_of_none hold, get?_set] at hfirst
        split at hfirst
        · rename_i hkey
          rw [hkey, ← Option.some.inj hfirst]
          exact .inr mem_cons_self
        · exact .inl hfirst
    · exact .inr (mem_cons_of_mem row hmem)

/-! ## The entries of one owner -/

variable [DecidableEq ω] (owner : α → ω)

def ownedBy (d : Dict κ α) (o : ω) : Dict κ α := d.delete fun row => !decide (owner row.2 = o)

def FreeFor (d : Dict κ α) (o : ω) (key : κ) : Prop := ∀ old ∈ d.get? key, owner old = o

omit [DecidableEq κ] in
theorem filter_own {owner : α → ω} {o : ω} (key : κ) (howner : owner value = o)
    (rest : List (κ × α)) : ((key, value) :: rest).filter (fun row => decide (owner row.2 = o)) =
      (key, value) :: rest.filter fun row => decide (owner row.2 = o) :=
  filter_cons_of_pos (decide_eq_true howner)

omit [DecidableEq κ] in
theorem filter_other {owner : α → ω} {o : ω} (key : κ) (howner : owner value ≠ o)
    (rest : List (κ × α)) : ((key, value) :: rest).filter (fun row => decide (owner row.2 = o)) =
      rest.filter fun row => decide (owner row.2 = o) :=
  filter_cons_of_neg fun h => howner (of_decide_eq_true h)

omit [DecidableEq κ] in
theorem rows_ownedBy (d : Dict κ α) (o : ω) :
    (d.ownedBy owner o).rows = d.rows.filter fun row => decide (owner row.2 = o) := by
  refine filter_congr fun row _ => ?_
  exact Bool.not_not _

@[simp] theorem get?_ownedBy (d : Dict κ α) (o : ω) (key : κ) :
    (d.ownedBy owner o).get? key = (d.get? key).filter fun value => decide (owner value = o) := by
  rw [get?, ownedBy, Table.lookup_delete, get?]
  cases d.lookup key with
  | none => rfl
  | some row =>
    rw [Option.filter_some, Option.map_some, Option.filter_some]
    simp only [Bool.not_not]
    split
    · rfl
    · rfl

omit [DecidableEq κ] in
@[simp] theorem ownedBy_empty (o : ω) : (empty : Dict κ α).ownedBy owner o = empty := rfl

variable {owner} {d : Dict κ α} {o : ω} {key : κ} {value : α}

theorem get?_ownedBy_of_own (hvalue : d.get? key = some value) (howner : owner value = o) :
    (d.ownedBy owner o).get? key = some value := by
  rw [get?_ownedBy, hvalue, Option.filter_some, if_pos (decide_eq_true howner)]

theorem get?_ownedBy_of_other (hvalue : d.get? key = some value) (howner : owner value ≠ o) :
    (d.ownedBy owner o).get? key = none := by
  rw [get?_ownedBy, hvalue, Option.filter_some, if_neg fun h => howner (of_decide_eq_true h)]

theorem get?_ownedBy_of_free (hfree : d.FreeFor owner o key) :
    (d.ownedBy owner o).get? key = d.get? key := by
  cases hvalue : d.get? key with
  | none => rw [get?_ownedBy, hvalue, Option.filter_none]
  | some value => exact get?_ownedBy_of_own hvalue (hfree value hvalue)

/-- A write of an owner is a write to its rows. -/
theorem ownedBy_set_own (howner : owner value = o) (hfree : d.FreeFor owner o key) :
    (d.set key value).ownedBy owner o = (d.ownedBy owner o).set key value := by
  refine Table.ext_rows ?_
  cases hold : d.get? key with
  | none =>
    rw [rows_ownedBy, rows_set_of_none hold, filter_append, filter_own key howner, filter_nil,
      rows_set_of_none (by rw [get?_ownedBy_of_free hfree, hold]), rows_ownedBy]
  | some old =>
    obtain ⟨front, behind, hrows, hfront, hbehind⟩ := exists_split hold
    have hown : (d.ownedBy owner o).rows = front.filter (fun row => decide (owner row.2 = o)) ++
        (key, old) :: behind.filter fun row => decide (owner row.2 = o) := by
      rw [rows_ownedBy, hrows, filter_append, filter_own key (hfree old hold)]
    rw [rows_ownedBy, rows_set_split hrows hfront hbehind, filter_append, filter_own key howner,
      rows_set_split hown (fun row hrow => hfront row (mem_of_mem_filter hrow))
        (fun row hrow => hbehind row (mem_of_mem_filter hrow))]

/-- A write of another owner leaves them alone. -/
theorem ownedBy_set_other (howner : owner value ≠ o) (hfree : ∀ old ∈ d.get? key, owner old ≠ o) :
    (d.set key value).ownedBy owner o = d.ownedBy owner o := by
  refine Table.ext_rows ?_
  cases hold : d.get? key with
  | none =>
    rw [rows_ownedBy, rows_set_of_none hold, filter_append,
      filter_other key howner, filter_nil, append_nil, rows_ownedBy]
  | some old =>
    obtain ⟨front, behind, hrows, hfront, hbehind⟩ := exists_split hold
    rw [rows_ownedBy, rows_set_split hrows hfront hbehind, filter_append,
      filter_other key howner, rows_ownedBy, hrows, filter_append,
      filter_other key (hfree old hold)]

theorem ownedBy_setDefault_own (howner : owner value = o) (hfree : d.FreeFor owner o key) :
    (d.setDefault key value).ownedBy owner o = (d.ownedBy owner o).setDefault key value := by
  rw [setDefault, setDefault, get?_ownedBy_of_free hfree]
  split
  · rfl
  · exact ownedBy_set_own howner hfree

theorem ownedBy_setDefault_other
    (howner : owner value ≠ o) : (d.setDefault key value).ownedBy owner o = d.ownedBy owner o := by
  cases hold : d.get? key with
  | some old => rw [setDefault_of_some hold]
  | none =>
    rw [setDefault_of_none hold]
    refine ownedBy_set_other howner fun old hmem => ?_
    rw [hold] at hmem
    cases hmem

omit [DecidableEq ω] in
theorem FreeFor.setDefault (hfree : d.FreeFor owner o key) (other : κ) (howner : owner value = o) :
    (d.setDefault other value).FreeFor owner o key := by
  intro found hfound
  rw [get?_setDefault] at hfound
  split at hfound
  · rename_i hkey
    cases hold : d.get? other with
    | none =>
      rw [hold] at hfound
      obtain rfl := Option.some.inj hfound
      exact howner
    | some old =>
      rw [hold] at hfound
      obtain rfl := Option.some.inj hfound
      exact hfree old (by rw [hkey]; exact hold)
  · exact hfree found hfound

theorem ownedBy_setDefaults_own
    (howner : ∀ row ∈ rows, owner row.2 = o) (hfree : ∀ row ∈ rows, d.FreeFor owner o row.1) :
    (d.setDefaults rows).ownedBy owner o = (d.ownedBy owner o).setDefaults rows := by
  induction rows generalizing d with
  | nil => rfl
  | cons row rest ih =>
    have hfirst := howner row mem_cons_self
    have hstep := ownedBy_setDefault_own hfirst (hfree row mem_cons_self)
    have hrest : ∀ other ∈ rest, (d.setDefault row.1 row.2).FreeFor owner o other.1 :=
      fun other hother => (hfree other (mem_cons_of_mem row hother)).setDefault row.1 hfirst
    rw [setDefaults, foldl_cons, setDefaults, foldl_cons, ← hstep]
    exact ih (fun other hother => howner other (mem_cons_of_mem row hother)) hrest

theorem ownedBy_setDefaults_other (howner : ∀ row ∈ rows, owner row.2 ≠ o) :
    (d.setDefaults rows).ownedBy owner o = d.ownedBy owner o := by
  induction rows generalizing d with
  | nil => rfl
  | cons row rest ih =>
    rw [setDefaults, foldl_cons]
    exact (ih fun other hother => howner other (mem_cons_of_mem row hother)).trans
      (ownedBy_setDefault_other (howner row mem_cons_self))

/-! ## Entries that are lost -/

theorem ownedBy_set_taken {value old : α}
    (hold : d.get? key = some old) (hown : owner old = o) (howner : owner value ≠ o) :
    ((d.set key value).ownedBy owner o).rows.Sublist (d.ownedBy owner o).rows ∧
      ((d.set key value).ownedBy owner o).get? key = none := by
  constructor
  · obtain ⟨front, behind, hrows, hfront, hbehind⟩ := exists_split hold
    rw [rows_ownedBy, rows_ownedBy, rows_set_split hrows hfront hbehind, hrows, filter_append,
      filter_append, filter_other key howner,
      filter_own key hown]
    exact (sublist_cons_self _ _).append_left _
  · have hset : (d.set key value).get? key = some value := by
      rw [get?_set, if_pos rfl]
    exact get?_ownedBy_of_other hset howner

/-- What an owner has is part of what he would have alone, and what he would have is there. -/
structure Behind (owner : α → ω) (d alone : Dict κ α) (o : ω) : Prop where
  sublist : (d.ownedBy owner o).rows.Sublist alone.rows
  held : ∀ key, (alone.get? key).isSome → (d.get? key).isSome

variable (owner) in
theorem behind_self (d : Dict κ α) (o : ω) : Behind owner d (d.ownedBy owner o) o := by
  refine ⟨List.Sublist.refl _, fun key hkey => ?_⟩
  rw [get?_ownedBy] at hkey
  obtain ⟨value, hvalue⟩ := Option.isSome_iff_exists.mp hkey
  rw [(Option.filter_eq_some_iff.mp hvalue).1]
  rfl

theorem Behind.setDefault {d alone : Dict κ α} {o : ω} (h : Behind owner d alone o)
    (key : κ) (howner : owner value = o) :
    Behind owner (d.setDefault key value) (alone.setDefault key value) o := by
  cases hold : d.get? key with
  | some old =>
    rw [setDefault_of_some hold]
    cases halone : alone.get? key with
    | some mine =>
      rw [setDefault_of_some halone]
      exact h
    | none =>
      rw [setDefault_of_none halone]
      refine ⟨?_, fun other hother => ?_⟩
      · rw [rows_set_of_none halone]
        exact h.sublist.trans (sublist_append_left _ _)
      · rw [get?_set] at hother
        split at hother
        · rename_i hkey
          rw [hkey, hold]
          rfl
        · exact h.held other hother
  | none =>
    have halone : alone.get? key = none := by
      refine Option.not_isSome_iff_eq_none.mp fun hsome => ?_
      have hheld := h.held key hsome
      rw [hold] at hheld
      cases hheld
    rw [setDefault_of_none hold, setDefault_of_none halone]
    refine ⟨?_, fun other hother => ?_⟩
    · rw [rows_ownedBy, rows_set_of_none hold, filter_append, filter_own key howner,
        filter_nil, rows_set_of_none halone, ← rows_ownedBy]
      exact h.sublist.append_right _
    · rw [get?_set] at hother ⊢
      split at hother
      · rename_i hkey
        rw [if_pos hkey]
        rfl
      · rename_i hkey
        rw [if_neg hkey]
        exact h.held other hother

theorem Behind.setDefaults {d alone : Dict κ α} {o : ω} (h : Behind owner d alone o)
    (howner : ∀ row ∈ rows, owner row.2 = o) :
    Behind owner (d.setDefaults rows) (alone.setDefaults rows) o := by
  induction rows generalizing d alone with
  | nil => exact h
  | cons row rest ih =>
    exact ih (h.setDefault row.1 (howner row mem_cons_self))
      fun other hother => howner other (mem_cons_of_mem row hother)

theorem length_select_ne {small large : Dict κ α} (hsub : small.rows.Sublist large.rows)
    (hlarge : (large.get? key).isSome) (hsmall : small.get? key = none) {p : κ × α → Bool}
    (hp : ∀ value, large.get? key = some value → p (key, value) = true) :
    (small.select p).length ≠ (large.select p).length := by
  intro hlength
  have hsame : small.select p = large.select p := (hsub.filter p).eq_of_length hlength
  obtain ⟨value, hvalue⟩ := Option.isSome_iff_exists.mp hlarge
  have hmem : (key, value) ∈ small.select p := by
    rw [hsame]
    exact mem_filter.mpr ⟨get?_eq_some_iff.mp hvalue, hp value hvalue⟩
  have hfound : small.get? key = some value :=
    get?_eq_some_iff.mpr (mem_of_mem_filter hmem)
  rw [hsmall] at hfound
  cases hfound

theorem freeFor_of_length_set {d : Dict κ α} {writer : ω}
    (howner : owner value = writer) {p : ω → κ × α → Bool}
    (hp : ∀ old, p (owner old) (key, old) = true)
    (hlength : ∀ old ∈ d.get? key, owner old ≠ writer →
      (((d.set key value).ownedBy owner (owner old)).select (p (owner old))).length =
        ((d.ownedBy owner (owner old)).select (p (owner old))).length) :
    d.FreeFor owner writer key := by
  intro old hold
  by_contra hother
  have hne : owner value ≠ owner old := fun h => hother (h.symm.trans howner)
  obtain ⟨hsub, hnone⟩ := ownedBy_set_taken hold rfl hne
  have hmine : (d.ownedBy owner (owner old)).get? key = some old := get?_ownedBy_of_own hold rfl
  refine length_select_ne hsub (by rw [hmine]; rfl) hnone (fun found hfound => ?_)
    (hlength old hold hother)
  rw [hmine] at hfound
  rw [← Option.some.inj hfound]
  exact hp old

theorem freeFor_of_length_setDefaults {d : Dict κ α} {writer : ω}
    (howner : ∀ row ∈ rows, owner row.2 = writer) {p : κ × α → Bool}
    (hp : ∀ row ∈ rows, ∀ value, owner value = writer → p (row.1, value) = true)
    (hlength : (((d.setDefaults rows).ownedBy owner writer).select p).length =
      (((d.ownedBy owner writer).setDefaults rows).select p).length) :
    ∀ row ∈ rows, d.FreeFor owner writer row.1 := by
  intro row hrow old hold
  by_contra hother
  have hbehind := (behind_self owner d writer).setDefaults howner
  have hnone : ((d.setDefaults rows).ownedBy owner writer).get? row.1 = none :=
    get?_ownedBy_of_other (get?_setDefaults_of_some hold rows) hother
  refine length_select_ne hbehind.sublist (isSome_setDefaults hrow) hnone (fun value hvalue => ?_)
    hlength
  refine hp row hrow value ?_
  rcases get?_setDefaults_cases hvalue with hmine | hmem
  · rw [get?_ownedBy, Option.filter_eq_some_iff] at hmine
    exact of_decide_eq_true hmine.2
  · exact howner _ hmem

omit [DecidableEq κ] in
theorem select_ownedBy (d : Dict κ α) {o : ω} {p : κ × α → Bool}
    (hp : ∀ row, p row = true → owner row.2 = o) : (d.ownedBy owner o).select p = d.select p := by
  rw [Table.select, rows_ownedBy, filter_filter, Table.select]
  refine filter_congr fun row _ => ?_
  rw [Bool.and_eq_left_iff_imp]
  exact fun h => decide_eq_true (hp row h)

end Dict

end HiAgent.Foundation
