import Mathlib.Data.List.Basic

/-!
# Numbered sequences

Sequences whose elements carry their own positions, under appending and under the removal of one
element that closes the gap.
-/

namespace Libfluid.Library

variable {α : Type*} {index : α → Nat}

def Numbered (index : α → Nat) (xs : List α) : Prop := ∀ n x, xs[n]? = some x → index x = n

namespace Numbered

theorem nil : Numbered index [] := by
  intro n x found
  simp at found

theorem snoc {xs : List α} {x : α} (numbered : Numbered index xs) (last : index x = xs.length) :
    Numbered index (xs ++ [x]) := by
  intro n y found
  rw [List.getElem?_append] at found
  split_ifs at found with inside
  · exact numbered n y found
  · have place : n - xs.length = 0 := by
      by_contra beyond
      simp [beyond] at found
    simp only [place, List.getElem?_cons_zero, Option.some.injEq] at found
    rw [← found, last]
    omega

theorem getElem?_index {xs : List α} {x : α} (numbered : Numbered index xs) (member : x ∈ xs) :
    xs[index x]? = some x := by
  obtain ⟨n, found⟩ := List.mem_iff_getElem?.mp member
  rw [numbered n x found, found]

theorem map_index {xs : List α} (numbered : Numbered index xs) : xs.map index = List.range xs.length := by
  apply List.ext_getElem
  · simp
  · intro n inside inRange
    rw [List.getElem_map, List.getElem_range]
    exact numbered n _ (List.getElem?_eq_getElem _)

theorem position {front back : List α} {x : α} (numbered : Numbered index (front ++ x :: back)) :
    index x = front.length := by
  apply numbered
  simp

theorem remove {front back : List α} {x : α} {shift : α → α} (numbered : Numbered index (front ++ x :: back))
    (moved : ∀ y, index (shift y) = if index y > index x then index y - 1 else index y) :
    Numbered index ((front ++ back).map shift) := by
  intro n z found
  rw [List.getElem?_map, Option.map_eq_some_iff] at found
  obtain ⟨y, found, rfl⟩ := found
  rw [moved, numbered.position]
  rw [List.getElem?_append] at found
  split_ifs at found with inside
  · have old : index y = n := by
      apply numbered
      rw [List.getElem?_append_left inside, found]
    rw [if_neg (by omega), old]
  · have old : index y = n + 1 := by
      apply numbered
      rw [List.getElem?_append_right (by omega), Nat.succ_sub (by omega), List.getElem?_cons_succ, found]
    rw [if_pos (by omega), old]
    rfl

end Numbered

end Libfluid.Library
