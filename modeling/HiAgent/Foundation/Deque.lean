/-
  Foundation/Deque.lean --- double-ended queues of bounded length.

  An item that is pushed on a full queue pushes the item at the other end out.
-/
import Mathlib.Data.List.Basic

namespace HiAgent.Foundation

open List

/-- `deque(maxlen=maxlen)`. -/
structure Deque (α : Type) where
  maxlen : Nat
  /-- The items, from left to right. -/
  items : List α
  bounded : items.length ≤ maxlen

namespace Deque

variable {α : Type} (d : Deque α)

def empty (maxlen : Nat) : Deque α := ⟨maxlen, [], Nat.zero_le maxlen⟩

/-- `d.clear()`. -/
def clear : Deque α := empty d.maxlen

/-- `d.append(item)`. -/
def append (item : α) : Deque α where
  maxlen := d.maxlen
  items := (d.items ++ [item]).drop (d.items.length + 1 - d.maxlen)
  bounded := by
    rw [length_drop, length_append, length_singleton]
    omega

/-- `d.appendleft(item)`. -/
def appendleft (item : α) : Deque α where
  maxlen := d.maxlen
  items := (item :: d.items).take d.maxlen
  bounded := length_take_le _ _

@[simp] theorem items_clear : d.clear.items = [] := rfl

theorem items_append (item : α) :
    (d.append item).items = (d.items ++ [item]).drop (d.items.length + 1 - d.maxlen) := rfl

theorem items_appendleft (item : α) :
    (d.appendleft item).items = (item :: d.items).take d.maxlen := rfl

@[simp] theorem maxlen_append (item : α) : (d.append item).maxlen = d.maxlen := rfl

theorem items_append_of_lt {d : Deque α} (h : d.items.length < d.maxlen) (item : α) :
    (d.append item).items = d.items ++ [item] := by
  have hzero : d.items.length + 1 - d.maxlen = 0 := by omega
  rw [items_append, hzero, drop_zero]

theorem items_append_of_full {d : Deque α} {first : α} {rest : List α}
    (hitems : d.items = first :: rest) (h : d.items.length = d.maxlen) (item : α) :
    (d.append item).items = rest ++ [item] := by
  have hone : d.items.length + 1 - d.maxlen = 1 := by omega
  rw [items_append, hone, hitems, cons_append, drop_succ_cons, drop_zero]

theorem items_foldr_appendleft (items : List α) :
    (items.foldr (fun item d => d.appendleft item) d).items = (items ++ d.items).take d.maxlen ∧
      (items.foldr (fun item d => d.appendleft item) d).maxlen = d.maxlen := by
  induction items with
  | nil => exact ⟨(take_of_length_le d.bounded).symm, rfl⟩
  | cons item items ih =>
    obtain ⟨hitems, hmaxlen⟩ := ih
    refine ⟨?_, hmaxlen⟩
    rw [foldr_cons, items_appendleft, hitems, hmaxlen]
    cases d.maxlen with
    | zero => rfl
    | succ n =>
      rw [take_succ_cons, take_take, cons_append, take_succ_cons, Nat.min_eq_left (Nat.le_succ n)]

end Deque

end HiAgent.Foundation
