/-
  Foundation/InvertedIndex.lean --- the items that are filed under a key.

  An item is filed under each of its keys, once, behind those that are there. Nothing is ever
  taken out, so an index tells of every key who was once filed under it.
-/
import HiAgent.Foundation.Dict

namespace HiAgent.Foundation

open List

abbrev InvertedIndex (κ ι : Type) := Dict κ (List ι)

namespace InvertedIndex

variable {κ ι : Type} [DecidableEq κ]

def under (index : InvertedIndex κ ι) (key : κ) : List ι := index.getD key []

def empty : InvertedIndex κ ι := Dict.empty

@[simp] theorem under_empty (key : κ) : (empty : InvertedIndex κ ι).under key = [] := rfl

variable [DecidableEq ι]

def behind (items : List ι) (item : ι) : List ι := if item ∈ items then items else items ++ [item]

def fileAt (index : InvertedIndex κ ι) (item : ι) (key : κ) : InvertedIndex κ ι :=
  index.set key (behind (index.under key) item)

def file (index : InvertedIndex κ ι) (keys : List κ) (item : ι) : InvertedIndex κ ι :=
  keys.foldl (fun index key => index.fileAt item key) index

variable {index : InvertedIndex κ ι} {keys : List κ} {item other : ι} {key : κ}

theorem mem_behind {items : List ι} : other ∈ behind items item ↔ other ∈ items ∨ other = item := by
  unfold behind
  split
  · rename_i hitem
    exact (or_iff_left_of_imp fun hother => hother ▸ hitem).symm
  · rw [mem_append, mem_singleton]

theorem under_fileAt (index : InvertedIndex κ ι) (item : ι) (key k : κ) :
    (index.fileAt item key).under k =
      if k = key then behind (index.under key) item else index.under k := by
  rw [under, fileAt, Dict.getD_set]
  rfl

theorem mem_under_file : other ∈ (index.file keys item).under key ↔
      other ∈ index.under key ∨ other = item ∧ key ∈ keys := by
  induction keys generalizing index with
  | nil => simp [file]
  | cons first rest ih =>
    rw [file, foldl_cons, ← file, ih, under_fileAt]
    by_cases hkey : key = first
    · rw [if_pos hkey, mem_behind, hkey]
      simp only [mem_cons, true_or, and_true]
      exact ⟨fun h => h.elim id fun h => .inr h.1, .inl⟩
    · rw [if_neg hkey, mem_cons, or_iff_right hkey]

theorem file_eq_self (h : ∀ key ∈ keys, item ∈ index.under key) : index.file keys item = index := by
  induction keys with
  | nil => rfl
  | cons first rest ih =>
    have hfirst := h first mem_cons_self
    have hsame : index.fileAt item first = index := by
      rw [fileAt, behind, if_pos hfirst]
      refine Dict.set_eq_self ?_
      cases hfound : index.get? first with
      | none =>
        rw [under, Dict.getD, hfound] at hfirst
        cases hfirst
      | some items => rw [under, Dict.getD, hfound, Option.getD_some]
    rw [file, foldl_cons, hsame, ← file]
    exact ih fun key hkey => h key (mem_cons_of_mem first hkey)

theorem filterMap_under_file {α : Type} (read : ι → Option α) (h : read item = none) (key : κ) :
    ((index.file keys item).under key).filterMap read = (index.under key).filterMap read := by
  induction keys generalizing index with
  | nil => rfl
  | cons first rest ih =>
    rw [file, foldl_cons, ← file, ih, under_fileAt]
    by_cases hkey : key = first
    · rw [if_pos hkey, hkey, behind]
      split
      · rfl
      · rw [filterMap_append, filterMap_cons_none h, filterMap_nil, append_nil]
    · rw [if_neg hkey]

end InvertedIndex

end HiAgent.Foundation
