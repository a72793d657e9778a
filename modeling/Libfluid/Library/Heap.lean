import Mathlib.Data.List.Basic

namespace Libfluid.Library

abbrev Heap (α : Type*) := List (Option α)

namespace Heap

variable {α : Type*} {heap : Heap α} {p q : Nat} {a b : α}

def alloc (heap : Heap α) (a : α) : Heap α := heap ++ [some a]
def read (heap : Heap α) (p : Nat) : Option α := heap[p]?.join
def write (heap : Heap α) (p : Nat) (a : α) : Heap α := heap.set p (some a)
def free (heap : Heap α) (p : Nat) : Heap α := heap.set p none

@[simp] theorem length_alloc : (heap.alloc a).length = heap.length + 1 := by
  simp [alloc]

@[simp] theorem length_free : (heap.free p).length = heap.length := List.length_set

theorem lt_of_read (live : heap.read p = some a) : p < heap.length := by
  by_contra beyond
  rw [read, List.getElem?_eq_none (Nat.not_lt.mp beyond)] at live
  cases live

theorem read_alloc : (heap.alloc a).read q = if q = heap.length then some a else heap.read q := by
  unfold alloc read
  split_ifs with same
  · subst same
    simp
  · rcases Nat.lt_or_ge q heap.length with inside | beyond
    · rw [List.getElem?_append_left inside]
    · rw [List.getElem?_eq_none (by simp; omega), List.getElem?_eq_none beyond]

theorem read_write (live : heap.read p = some b) :
    (heap.write p a).read q = if q = p then some a else heap.read q := by
  unfold write read
  split_ifs with same
  · subst same
    rw [List.getElem?_set_self (lt_of_read live)]
    rfl
  · rw [List.getElem?_set_ne (Ne.symm same)]

theorem read_free : (heap.free p).read q = if q = p then none else heap.read q := by
  unfold free read
  split_ifs with same
  · subst same
    rcases Nat.lt_or_ge q heap.length with inside | beyond
    · rw [List.getElem?_set_self inside]
      rfl
    · rw [List.getElem?_eq_none (by rw [List.length_set]; exact beyond)]
      rfl
  · rw [List.getElem?_set_ne (Ne.symm same)]

theorem read_foldl_free (addresses : List Nat) :
    (addresses.foldl free heap).read q = if q ∈ addresses then none else heap.read q := by
  induction addresses generalizing heap with
  | nil => simp
  | cons p addresses ih =>
      rw [List.foldl_cons, ih, read_free]
      by_cases later : q ∈ addresses <;> simp [later]

end Heap

end Libfluid.Library
