/-
  Foundation/TermIndex.lean --- an index of documents by the terms in them.

  For every document with terms the index has the frequency of each, and for every term
  the number of documents it is in. It reflects a dictionary of documents when it is what
  adding them one after the other gives.
-/
import HiAgent.Foundation.Dict
import Mathlib.Data.List.Count
import Mathlib.Data.List.Induction

namespace HiAgent.Foundation

open List

/-! ## Tallies -/

namespace Tally

variable {τ : Type} [DecidableEq τ]

/-- `for term in terms: tally[term] = tally.get(term, 0) + 1`. -/
def up : List τ → Dict τ Nat → Dict τ Nat
  | [], tally => tally
  | term :: rest, tally => up rest (tally.set term (tally.getD term 0 + 1))

/-- A term is counted down, and goes with its last count. -/
def down : List τ → Dict τ Nat → Dict τ Nat
  | [], tally => tally
  | term :: rest, tally =>
    let current := tally.getD term 0
    down rest (if current ≤ 1 then tally.pop term else tally.set term (current - 1))

def shown (count : Nat) : Option Nat := if count = 0 then none else some count

theorem shown_succ (count : Nat) : shown (count + 1) = some (count + 1) :=
  if_neg (Nat.succ_ne_zero count)

theorem getD_shown (count : Nat) : (shown count).getD 0 = count := by
  cases count with
  | zero => rfl
  | succ count => rw [shown_succ, Option.getD_some]

/-- The tally counts every term as `count` says, and has no term that does not count. -/
def Counts (tally : Dict τ Nat) (count : τ → Nat) : Prop :=
  ∀ term, tally.get? term = shown (count term)

theorem counts_empty : Counts (Dict.empty : Dict τ Nat) fun _ => 0 := fun _ => rfl

variable {tally : Dict τ Nat}

theorem Counts.getD {count : τ → Nat} (h : Counts tally count) (term : τ) :
    tally.getD term 0 = count term := by
  rw [Dict.getD, h term, getD_shown]

theorem Counts.congr {count other : τ → Nat} (h : Counts tally count)
    (hsame : ∀ term, count term = other term) : Counts tally other := by
  intro term
  rw [h term, hsame term]

theorem Counts.eq {count other : τ → Nat} (h : Counts tally count)
    (hother : Counts tally other) (term : τ) : count term = other term := by
  rw [← h.getD term, hother.getD term]

theorem Counts.up {count : τ → Nat} (h : Counts tally count)
    (terms : List τ) : Counts (up terms tally) fun term => count term + terms.count term := by
  induction terms generalizing tally count with
  | nil => exact h
  | cons first rest ih =>
    have hset : Counts (tally.set first (tally.getD first 0 + 1))
        fun term => count term + [first].count term := by
      intro term
      dsimp only
      rw [Dict.get?_set, h.getD]
      by_cases hsame : term = first
      · rw [hsame, if_pos rfl, count_singleton_self, shown_succ]
      · rw [if_neg hsame, h term, count_cons_of_ne (Ne.symm hsame), count_nil, Nat.add_zero]
    refine (ih hset).congr fun term => ?_
    rw [Nat.add_assoc, ← count_append]
    rfl

theorem Counts.down {count : τ → Nat} (h : Counts tally count)
    {terms : List τ} (hle : ∀ term, terms.count term ≤ count term) :
    Counts (down terms tally) fun term => count term - terms.count term := by
  induction terms generalizing tally count with
  | nil => exact h
  | cons first rest ih =>
    have hcons : ∀ term, (first :: rest).count term = [first].count term + rest.count term := by
      intro term
      rw [← count_append]
      rfl
    have hfirst := hle first
    rw [hcons, count_singleton_self] at hfirst
    have hstep : Counts
        (if tally.getD first 0 ≤ 1 then tally.pop first
          else tally.set first (tally.getD first 0 - 1))
        fun term => count term - [first].count term := by
      intro term
      dsimp only
      rw [h.getD]
      by_cases hsame : term = first
      · rw [hsame, count_singleton_self]
        split
        · rename_i hlast
          rw [Dict.get?_pop, if_pos rfl, Nat.sub_eq_zero_of_le hlast]
          rfl
        · rename_i hmore
          obtain ⟨left, hleft⟩ : ∃ left, count first - 1 = left + 1 :=
            ⟨count first - 2, by omega⟩
          rw [Dict.get?_set, if_pos rfl, hleft, shown_succ]
      · rw [count_cons_of_ne (Ne.symm hsame), count_nil, Nat.sub_zero, ← h term]
        split
        · rw [Dict.get?_pop, if_neg hsame]
        · rw [Dict.get?_set, if_neg hsame]
    refine (ih hstep fun term => ?_).congr fun term => ?_
    · have hterm := hle term
      rw [hcons] at hterm
      omega
    · rw [hcons]
      omega

end Tally

/-! ## The index -/

/-- The frequencies of the terms of every document, and the number of documents of every
term. -/
structure TermIndex (κ τ ρ : Type) where
  tf : Dict κ (Dict τ ρ)
  df : Dict τ Nat

namespace TermIndex

variable {κ τ ρ δ : Type} [DecidableEq κ] [DecidableEq τ]

def empty : TermIndex κ τ ρ := ⟨.empty, .empty⟩

def frequencies (ratio : Nat → Nat → ρ) (terms : List τ) : Dict τ ρ :=
  (Tally.up terms .empty).mapValues fun count => ratio count terms.length

/-- A document with its terms; one without terms is not indexed. -/
def add (ratio : Nat → Nat → ρ) (index : TermIndex κ τ ρ) (id : κ) (terms : List τ) :
    TermIndex κ τ ρ :=
  if terms.isEmpty then index
  else
    let tf := frequencies ratio terms
    ⟨index.tf.set id tf, Tally.up tf.keys index.df⟩

def remove (index : TermIndex κ τ ρ) (id : κ) : TermIndex κ τ ρ :=
  let terms := (index.tf.getD id .empty).keys
  ⟨index.tf.pop id, Tally.down terms index.df⟩

def ofDocuments (ratio : Nat → Nat → ρ) (terms : δ → List τ) (rows : List (κ × δ)) :
    TermIndex κ τ ρ :=
  rows.foldl (fun index row => index.add ratio row.1 (terms row.2)) empty

/-- Two indices with the same entries. -/
structure Same (index other : TermIndex κ τ ρ) : Prop where
  tf : ∀ id, (index.tf.get? id).map Dict.get? = (other.tf.get? id).map Dict.get?
  df : ∀ term, index.df.get? term = other.df.get? term

variable (ratio : Nat → Nat → ρ) (terms : δ → List τ)

def entry (document : δ) : Option (Dict τ ρ) :=
  if (terms document).isEmpty then none else some (frequencies ratio (terms document))

def documents (rows : List (κ × δ)) (term : τ) : Nat :=
  rows.countP fun row => decide (term ∈ terms row.2)

/-- The index has the entry of every document, and no other, and counts them. -/
structure Reflects (index : TermIndex κ τ ρ) (d : Dict κ δ) : Prop where
  tf : ∀ id, (index.tf.get? id).map Dict.get? = ((d.get? id).bind (entry ratio terms)).map Dict.get?
  df : Tally.Counts index.df (documents terms d.rows)

/-! ### The terms of one document -/

omit [DecidableEq κ] in
theorem mem_keys_frequencies {words : List τ} {term : τ} :
    term ∈ (frequencies ratio words).keys ↔ term ∈ words := by
  have hcounts : (Tally.up words Dict.empty).get? term = Tally.shown (0 + words.count term) :=
    (Tally.counts_empty.up words) term
  rw [frequencies, Dict.keys_mapValues, Dict.mem_keys_iff, hcounts, Nat.zero_add, Tally.shown]
  split
  · rename_i hzero
    exact iff_of_false Bool.false_ne_true (count_eq_zero.mp hzero)
  · rename_i hcount
    exact iff_of_true rfl (count_pos_iff.mp (Nat.pos_of_ne_zero hcount))

omit [DecidableEq κ] in
theorem count_keys_frequencies (words : List τ) (term : τ) :
    (frequencies ratio words).keys.count term = if term ∈ words then 1 else 0 := by
  split
  · rename_i hmem
    exact count_eq_one_of_mem (frequencies ratio words).keysNodup
      ((mem_keys_frequencies ratio).mpr hmem)
  · rename_i hmem
    exact count_eq_zero.mpr fun hkey => hmem ((mem_keys_frequencies ratio).mp hkey)

omit [DecidableEq κ] in
theorem mem_of_get?_eq {first second : List τ}
    (h : (frequencies ratio first).get? = (frequencies ratio second).get?) (term : τ) :
    term ∈ first ↔ term ∈ second := by
  have hfirst : term ∈ (frequencies ratio first).keys ↔ term ∈ first := mem_keys_frequencies ratio
  rw [Dict.mem_keys_iff, h, ← Dict.mem_keys_iff] at hfirst
  exact hfirst.symm.trans (mem_keys_frequencies ratio)

/-! ### The documents around one of them -/

omit [DecidableEq κ] in
theorem documents_middle (front behind : List (κ × δ)) (row : κ × δ) (term : τ) :
    documents terms (front ++ row :: behind) term =
      documents terms (front ++ behind) term + if term ∈ terms row.2 then 1 else 0 := by
  rw [documents, documents, countP_append, countP_append, countP_cons]
  simp only [decide_eq_true_eq]
  omega

variable {ratio terms} {index : TermIndex κ τ ρ} {d : Dict κ δ} {id : κ}

omit [DecidableEq κ] in
variable {document : δ}

theorem entry_of_nil (h : terms document = []) : entry ratio terms document = none := by
  rw [entry, h]
  rfl

omit [DecidableEq κ] in
theorem entry_of_ne_nil (h : terms document ≠ []) :
    entry ratio terms document = some (frequencies ratio (terms document)) :=
  if_neg fun hempty => h (List.isEmpty_iff.mp hempty)

theorem Reflects.mem_keys (h : index.Reflects ratio terms d)
    (hdoc : d.get? id = some document) (term : τ) :
    term ∈ (index.tf.getD id .empty).keys ↔ term ∈ terms document := by
  have htf := h.tf id
  rw [hdoc, Option.bind_some] at htf
  rw [Dict.getD]
  by_cases hterms : terms document = []
  · rw [entry_of_nil hterms, Option.map_none, Option.map_eq_none_iff] at htf
    rw [htf, hterms]
    exact Iff.rfl
  · rw [entry_of_ne_nil hterms, Option.map_some, Option.map_eq_some_iff] at htf
    obtain ⟨stored, hstored, hsame⟩ := htf
    rw [hstored, Option.getD_some, Dict.mem_keys_iff, hsame, ← Dict.mem_keys_iff]
    exact mem_keys_frequencies ratio

/-! ### What an index goes on reflecting -/

theorem reflects_empty : (empty : TermIndex κ τ ρ).Reflects ratio terms .empty where
  tf _ := rfl
  df := Tally.counts_empty

theorem Reflects.add_new (h : index.Reflects ratio terms d) (hnew : d.get? id = none)
    (document : δ) :
    (index.add ratio id (terms document)).Reflects ratio terms (d.set id document) := by
  have hcount : ∀ term, documents terms (d.set id document).rows term =
      documents terms d.rows term + if term ∈ terms document then 1 else 0 := by
    intro term
    rw [Dict.rows_set_of_none hnew, documents_middle, append_nil]
  by_cases hterms : terms document = []
  · rw [add, if_pos (List.isEmpty_iff.mpr hterms)]
    refine ⟨fun other => ?_, h.df.congr fun term => ?_⟩
    · rw [h.tf other, Dict.get?_set]
      split
      · rename_i hother
        rw [hother, hnew, Option.bind_some, entry_of_nil hterms]
        rfl
      · rfl
    · rw [hcount, hterms, if_neg not_mem_nil, Nat.add_zero]
  · rw [add, if_neg fun hempty => hterms (List.isEmpty_iff.mp hempty)]
    refine ⟨fun other => ?_, (h.df.up _).congr fun term => ?_⟩
    · rw [Dict.get?_set, Dict.get?_set]
      split
      · rw [Option.bind_some, entry_of_ne_nil hterms]
      · exact h.tf other
    · rw [hcount, count_keys_frequencies]

theorem reflects_ofDocuments (d : Dict κ δ) :
    (ofDocuments ratio terms d.rows).Reflects ratio terms d := by
  suffices hall : ∀ (rows : List (κ × δ)) (hkeys : (rows.map Prod.fst).Nodup),
      (ofDocuments ratio terms rows).Reflects ratio terms ⟨rows, hkeys⟩ from hall d.rows d.keysNodup
  intro rows
  induction rows using List.reverseRecOn with
  | nil => exact fun _ => reflects_empty
  | append_singleton front row ih =>
    intro hkeys
    have hsplit := hkeys
    rw [map_append, List.nodup_append] at hsplit
    have hfresh : Dict.get? ⟨front, hsplit.1⟩ row.1 = none := by
      rw [← Option.not_isSome_iff_eq_none, ← Dict.mem_keys_iff]
      exact fun hmem => hsplit.2.2 row.1 hmem row.1 (mem_singleton_self _) rfl
    have hadd := (ih hsplit.1).add_new hfresh row.2
    have hset : Dict.set ⟨front, hsplit.1⟩ row.1 row.2 = ⟨front ++ [row], hkeys⟩ :=
      Table.ext_rows (Dict.rows_set_of_none hfresh row.2)
    rw [hset] at hadd
    rw [ofDocuments, foldl_append]
    exact hadd

/-- An index reflects the documents if it is the one built of them. -/
theorem reflects_iff_same :
    index.Reflects ratio terms d ↔ index.Same (ofDocuments ratio terms d.rows) := by
  have hbuilt : (ofDocuments ratio terms d.rows).Reflects ratio terms d := reflects_ofDocuments d
  constructor
  · intro h
    exact ⟨fun other => (h.tf other).trans (hbuilt.tf other).symm,
      fun term => (h.df term).trans (hbuilt.df term).symm⟩
  · intro h
    exact ⟨fun other => (h.tf other).trans (hbuilt.tf other),
      fun term => (h.df term).trans (hbuilt.df term)⟩

theorem Reflects.remove (h : index.Reflects ratio terms d) (hdoc : d.get? id = some document) :
    (index.remove id).Reflects ratio terms (d.pop id) := by
  obtain ⟨front, behind, hrows, hfront, hbehind⟩ := Dict.exists_split hdoc
  have hkeys : ∀ term, (index.tf.getD id .empty).keys.count term =
      if term ∈ terms document then 1 else 0 := by
    intro term
    split
    · rename_i hmem
      exact count_eq_one_of_mem (index.tf.getD id .empty).keysNodup
        ((h.mem_keys hdoc term).mpr hmem)
    · rename_i hmem
      exact count_eq_zero.mpr fun hkey => hmem ((h.mem_keys hdoc term).mp hkey)
  have hcount : ∀ term, documents terms d.rows term =
      documents terms (d.pop id).rows term + if term ∈ terms document then 1 else 0 := by
    intro term
    rw [hrows, documents_middle, Dict.rows_pop_split hrows hfront hbehind]
  refine ⟨fun other => ?_, (h.df.down fun term => ?_).congr fun term => ?_⟩
  · change ((index.tf.pop id).get? other).map Dict.get? = _
    rw [Dict.get?_pop, Dict.get?_pop]
    split
    · rfl
    · exact h.tf other
  · rw [hkeys, hcount]
    exact Nat.le_add_left _ _
  · rw [hkeys, hcount]
    exact Nat.add_sub_cancel ..

section Changes

variable {old new : δ} (h : index.Reflects ratio terms d) (hold : d.get? id = some old)

variable (terms new) in
include hold in
theorem documents_set (term : τ) :
    documents terms (d.set id new).rows term + (if term ∈ terms old then 1 else 0) =
      documents terms d.rows term + if term ∈ terms new then 1 else 0 := by
  obtain ⟨front, behind, hrows, hfront, hbehind⟩ := Dict.exists_split hold
  rw [Dict.rows_set_split hrows hfront hbehind, hrows, documents_middle, documents_middle]
  dsimp only
  omega

include h hold

theorem reflects_set_iff : index.Reflects ratio terms (d.set id new) ↔
    (frequencies ratio (terms old)).get? = (frequencies ratio (terms new)).get? := by
  have htf := h.tf id
  rw [hold, Option.bind_some] at htf
  constructor
  · intro hset
    have hnew := hset.tf id
    rw [Dict.get?_set, if_pos rfl, Option.bind_some, htf] at hnew
    by_cases hterms : terms old = []
    · rw [entry_of_nil hterms, Option.map_none, eq_comm, Option.map_eq_none_iff] at hnew
      by_cases hnewTerms : terms new = []
      · rw [hterms, hnewTerms]
      · rw [entry_of_ne_nil hnewTerms] at hnew
        cases hnew
    · rw [entry_of_ne_nil hterms, Option.map_some, eq_comm, Option.map_eq_some_iff] at hnew
      obtain ⟨stored, hstored, hsame⟩ := hnew
      rw [entry] at hstored
      split at hstored
      · cases hstored
      · rw [← hsame, Option.some.inj hstored]
  · intro hsame
    have hmem := mem_of_get?_eq ratio hsame
    refine ⟨fun other => ?_, h.df.congr fun term => ?_⟩
    · rw [Dict.get?_set]
      split
      · rename_i hother
        rw [hother, htf, Option.bind_some]
        by_cases hterms : terms old = []
        · have hnewTerms : terms new = [] := by
            rw [eq_nil_iff_forall_not_mem]
            intro term hterm
            rw [← hmem term, hterms] at hterm
            exact not_mem_nil hterm
          rw [entry_of_nil hterms, entry_of_nil hnewTerms]
        · have hnewTerms : terms new ≠ [] := by
            obtain ⟨term, hterm⟩ := exists_mem_of_ne_nil _ hterms
            exact ne_nil_of_mem ((hmem term).mp hterm)
          rw [entry_of_ne_nil hterms, entry_of_ne_nil hnewTerms, Option.map_some, Option.map_some,
            hsame]
      · exact h.tf other
    · have hset := documents_set terms new hold term
      rw [if_congr (hmem term) rfl rfl] at hset
      exact (Nat.add_right_cancel hset).symm

theorem reflects_add_set_iff :
    (index.add ratio id (terms new)).Reflects ratio terms (d.set id new) ↔ terms old = [] := by
  constructor
  · intro hset
    by_contra hterms
    obtain ⟨term, hterm⟩ := exists_mem_of_ne_nil _ hterms
    by_cases hnewTerms : terms new = []
    · rw [add, if_pos (List.isEmpty_iff.mpr hnewTerms), reflects_set_iff h hold] at hset
      rw [mem_of_get?_eq ratio hset, hnewTerms] at hterm
      exact not_mem_nil hterm
    · rw [add, if_neg fun hempty => hnewTerms (List.isEmpty_iff.mp hempty)] at hset
      have hcount := hset.df.eq (h.df.up _) term
      have hdocs := documents_set terms new hold term
      rw [count_keys_frequencies] at hcount
      rw [if_pos hterm, hcount] at hdocs
      omega
  · intro hterms
    have hdocs : ∀ term, documents terms (d.set id new).rows term =
        documents terms d.rows term + if term ∈ terms new then 1 else 0 := by
      intro term
      have hset := documents_set terms new hold term
      rwa [hterms, if_neg not_mem_nil, Nat.add_zero] at hset
    by_cases hnewTerms : terms new = []
    · rw [add, if_pos (List.isEmpty_iff.mpr hnewTerms), reflects_set_iff h hold, hterms, hnewTerms]
    · rw [add, if_neg fun hempty => hnewTerms (List.isEmpty_iff.mp hempty)]
      refine ⟨fun other => ?_, (h.df.up _).congr fun term => ?_⟩
      · rw [Dict.get?_set, Dict.get?_set]
        split
        · rw [Option.bind_some, entry_of_ne_nil hnewTerms]
        · exact h.tf other
      · rw [hdocs, count_keys_frequencies]

end Changes

end TermIndex

end HiAgent.Foundation
