import Mathlib.Data.Fintype.Card
import Mathlib.Logic.Relation

namespace Libfluid.Library

variable {ν : Type*} {parent : ν → Option ν} {root n m a b : ν}

def ChildOf (parent : ν → Option ν) (child up : ν) : Prop := parent child = some up

def Under (parent : ν → Option ν) (m n : ν) : Prop := Relation.ReflTransGen (ChildOf parent) m n

theorem childOf_unique : Relator.RightUnique (ChildOf parent) := by
  intro child up up' edge edge'
  exact Option.some_inj.mp (edge.symm.trans edge')

theorem under_iff : Under parent m n ↔ m = n ∨ ∃ child, parent child = some n ∧ Under parent m child := by
  constructor
  · intro under
    cases under with
    | refl => exact Or.inl rfl
    | tail below edge => exact Or.inr ⟨_, edge, below⟩
  · rintro (rfl | ⟨child, edge, below⟩)
    · exact Relation.ReflTransGen.refl
    · exact below.tail edge

section Rooted

variable (top : parent root = none) (rooted : ∀ n, Under parent n root)
include top rooted

theorem not_cycle (n : ν) : ¬ Relation.TransGen (ChildOf parent) n n := by
  have path := rooted n
  induction path using Relation.ReflTransGen.head_induction_on with
  | refl =>
      intro cycle
      obtain ⟨up, edge, -⟩ := Relation.TransGen.head'_iff.mp cycle
      rw [ChildOf, top] at edge
      cases edge
  | @head child up edge _ ih =>
      intro cycle
      obtain ⟨up', edge', back⟩ := Relation.TransGen.head'_iff.mp cycle
      obtain rfl := childOf_unique edge edge'
      exact ih (Relation.TransGen.tail' back edge)

theorem not_under_child {child : ν} (edge : parent child = some n) : ¬ Under parent n child :=
  fun under => not_cycle top rooted n (Relation.TransGen.tail' under edge)

theorem eq_of_under (left : parent a = some n) (right : parent b = some n) (underA : Under parent m a)
    (underB : Under parent m b) : a = b := by
  have ordered (c d : ν) (edge : parent c = some n) (edge' : parent d = some n) (below : Under parent c d) : c = d := by
    rcases Relation.ReflTransGen.cases_head below with same | ⟨up, first, rest⟩
    · exact same
    · obtain rfl := childOf_unique edge first
      exact absurd rest (not_under_child top rooted edge')
  rcases underA.total_of_right_unique childOf_unique underB with below | below
  · exact ordered a b left right below
  · exact (ordered b a right left below).symm

theorem childOf_wellFounded [Finite ν] : WellFounded (ChildOf parent) := by
  have : Std.Irrefl (Relation.TransGen (ChildOf parent)) := ⟨not_cycle top rooted⟩
  have wellFounded := Finite.wellFounded_of_trans_of_irrefl (Relation.TransGen (ChildOf parent))
  exact Subrelation.wf Relation.TransGen.single wellFounded

end Rooted

end Libfluid.Library
