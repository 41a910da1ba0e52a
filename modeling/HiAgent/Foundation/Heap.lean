/-
  Foundation/Heap.lean --- objects that are shared.

  A heap is the list of the objects made so far; a reference is a position in it. An object is
  made behind the others and stays where it is.
-/
import Mathlib.Data.List.Basic

namespace HiAgent.Foundation

open List

abbrev Heap (α : Type) := List α

namespace Heap

variable {α : Type} [Inhabited α]

def read (heap : Heap α) (ref : Nat) : α := heap[ref]?.getD default

def alloc (heap : Heap α) (object : α) : Nat × Heap α := (heap.length, heap ++ [object])

def write (heap : Heap α) (ref : Nat) (object : α) : Heap α := heap.set ref object

theorem read_of_prefix {heap larger : Heap α} (h : heap <+: larger) {ref : Nat}
    (hvalid : ref < heap.length) : larger.read ref = heap.read ref := by
  obtain ⟨made, rfl⟩ := h
  rw [read, getElem?_append_left hvalid]
  rfl

@[simp] theorem read_alloc (heap : Heap α) (object : α) :
    (heap.alloc object).2.read (heap.alloc object).1 = object := by
  rw [alloc, read, getElem?_append_right (Nat.le_refl _), Nat.sub_self]
  rfl

omit [Inhabited α] in
theorem prefix_alloc (heap : Heap α) (object : α) : heap <+: (heap.alloc object).2 :=
  prefix_append heap [object]

theorem read_write_self {heap : Heap α} {ref : Nat} (hvalid : ref < heap.length) (object : α) :
    (heap.write ref object).read ref = object := by
  rw [write, read, getElem?_set_self hvalid]
  rfl

theorem read_write_of_ne {heap : Heap α} {ref other : Nat} (hne : other ≠ ref) (object : α) :
    (heap.write ref object).read other = heap.read other := by
  rw [write, read, getElem?_set_ne (Ne.symm hne)]
  rfl

omit [Inhabited α] in
@[simp] theorem length_write (heap : Heap α) (ref : Nat) (object : α) :
    (heap.write ref object).length = heap.length :=
  length_set

end Heap

end HiAgent.Foundation
