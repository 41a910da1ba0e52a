/-
  Foundation/Fallible.lean --- computations that may raise.

  `Succeeds x` says that `x` returns. A chain of fallible steps succeeds exactly
  when each step does on what the one before it returned, and the rules below
  take such a chain apart.
-/
import Mathlib.Data.List.Forall2

namespace HiAgent.Foundation

open List

variable {ε ε' α β : Type}

def Succeeds (x : Except ε α) : Prop := ∃ a, x = .ok a

@[simp] theorem succeeds_ok (a : α) : Succeeds (.ok a : Except ε α) := ⟨a, rfl⟩

@[simp] theorem not_succeeds_error (e : ε) : ¬ Succeeds (.error e : Except ε α) := by
  rintro ⟨a, h⟩
  cases h

instance Succeeds.decide (x : Except ε α) : Decidable (Succeeds x) :=
  match x with
  | .ok a => isTrue ⟨a, rfl⟩
  | .error e => isFalse (not_succeeds_error e)

variable {x : Except ε α}

theorem not_succeeds_iff : ¬ Succeeds x ↔ ∃ e, x = .error e := by
  cases x with
  | ok a => simp
  | error e => simp

@[simp] theorem succeeds_map_iff {x : Except ε α} {f : α → β} :
    Succeeds (x.map f) ↔ Succeeds x := by
  cases x with
  | _ => simp [Except.map]

theorem mapError_ok (a : α) (f : ε → ε') : (.ok a : Except ε α).mapError f = .ok a := rfl

theorem mapError_error (e : ε) (f : ε → ε') :
    (.error e : Except ε α).mapError f = .error (f e) := rfl

@[simp] theorem succeeds_mapError_iff {x : Except ε α} {f : ε → ε'} :
    Succeeds (x.mapError f) ↔ Succeeds x := by
  cases x with
  | ok a => simp [mapError_ok]
  | error e => simp [mapError_error]

theorem succeeds_bind_iff {f : α → Except ε β} :
    Succeeds (x.bind f) ↔ ∃ a, x = .ok a ∧ Succeeds (f a) := by
  cases x with
  | _ => simp [Except.bind]

theorem map_eq_ok_iff {f : α → β} {b : β} : x.map f = .ok b ↔ ∃ a, x = .ok a ∧ f a = b := by
  cases x with
  | _ => simp [Except.map]

theorem bind_eq_ok_iff {f : α → Except ε β} {b : β} :
    x.bind f = .ok b ↔ ∃ a, x = .ok a ∧ f a = .ok b := by
  cases x with
  | _ => simp [Except.bind]

theorem mapError_eq_ok_iff {f : ε → ε'} {a : α} : x.mapError f = .ok a ↔ x = .ok a := by
  cases x with
  | ok a => simp [mapError_ok]
  | error e => simp [mapError_error]

theorem exists_mapM_eq_ok {γ : Type} {f : α → Except ε γ} {g : β → γ} {R : α → β → Prop}
    {items : List α} (h : ∀ item ∈ items, ∃ result, f item = .ok (g result) ∧ R item result) :
    ∃ results, items.mapM f = .ok (results.map g) ∧ List.Forall₂ R items results := by
  induction items with
  | nil => exact ⟨[], rfl, .nil⟩
  | cons item rest ih =>
    rw [forall_mem_cons] at h
    obtain ⟨⟨result, hitem, hrelated⟩, hrest⟩ := h
    obtain ⟨results, hresults, hforall⟩ := ih hrest
    refine ⟨result :: results, ?_, .cons hrelated hforall⟩
    rw [mapM_cons, hitem, hresults]
    rfl

theorem mapM_eq_self_iff {f : α → Except ε α} {items : List α} :
    items.mapM f = .ok items ↔ ∀ item ∈ items, f item = .ok item := by
  induction items with
  | nil => exact iff_of_true rfl fun _ h => absurd h not_mem_nil
  | cons item rest ih =>
    rw [forall_mem_cons, ← ih, mapM_cons]
    change ((f item).bind fun item => (rest.mapM f).bind fun rest => .ok (item :: rest)) = _ ↔ _
    simp only [bind_eq_ok_iff, Except.ok.injEq, List.cons.injEq]
    constructor
    · rintro ⟨item', hitem, rest', hrest, rfl, rfl⟩
      exact ⟨hitem, hrest⟩
    · rintro ⟨hitem, hrest⟩
      exact ⟨item, hitem, rest, hrest, rfl, rfl⟩

theorem exists_of_forall₂ {R : α → β → Prop} {items : List α} {others : List β}
    (h : List.Forall₂ R items others) {item : α} (hitem : item ∈ items) :
    ∃ other ∈ others, R item other := by
  induction h with
  | nil => cases hitem
  | cons hrelated _ ih =>
    rcases mem_cons.mp hitem with rfl | hrest
    · exact ⟨_, mem_cons_self, hrelated⟩
    · obtain ⟨other, hother, hrelated⟩ := ih hrest
      exact ⟨other, mem_cons_of_mem _ hother, hrelated⟩

end HiAgent.Foundation
