import Mathlib.Logic.Function.Basic
import Mathlib.Logic.Nontrivial.Defs

namespace Libfluid.Library

structure Pattern (ι : Type*) (V : ι → Type*) where
  wild : ι → Prop
  value : ∀ i, V i

namespace Pattern

variable {ι : Type*} {V : ι → Type*}

def Accepts (p : Pattern ι V) (x : ∀ i, V i) : Prop :=
  ∀ i, p.wild i ∨ p.value i = x i

def Covers (p q : Pattern ι V) : Prop :=
  ∀ i, p.wild i ∨ ¬ q.wild i ∧ p.value i = q.value i

theorem accepts_self (p : Pattern ι V) : p.Accepts p.value := fun _ => Or.inr rfl

theorem accepts_update [DecidableEq ι] {p : Pattern ι V} {x : ∀ i, V i} (accepted : p.Accepts x)
    {i : ι} (open_ : p.wild i) (v : V i) : p.Accepts (Function.update x i v) := by
  intro j
  by_cases same : j = i
  · subst same
    exact Or.inl open_
  · rw [Function.update_of_ne same]
    exact accepted j

theorem accepts_subset_iff [∀ i, Nontrivial (V i)] (p q : Pattern ι V) :
    (∀ x, q.Accepts x → p.Accepts x) ↔ p.Covers q := by
  classical
  constructor
  · intro subset i
    by_cases pOpen : p.wild i
    · exact Or.inl pOpen
    · have value : p.value i = q.value i := (subset q.value q.accepts_self i).resolve_left pOpen
      refine Or.inr ⟨fun qOpen => ?_, value⟩
      -- An open coordinate of q takes a value that p rejects.
      obtain ⟨v, different⟩ := exists_ne (p.value i)
      have accepted := subset _ (accepts_update q.accepts_self qOpen v) i
      rw [Function.update_self] at accepted
      exact different (accepted.resolve_left pOpen).symm
  · intro covers x accepted i
    rcases covers i with pOpen | ⟨qFixed, value⟩
    · exact Or.inl pOpen
    · exact Or.inr (value.trans ((accepted i).resolve_left qFixed))

def Meets (p q : Pattern ι V) : Prop :=
  ∀ i, p.wild i ∨ q.wild i ∨ p.value i = q.value i

theorem accepts_common_iff (p q : Pattern ι V) : (∃ x, p.Accepts x ∧ q.Accepts x) ↔ p.Meets q := by
  classical
  constructor
  · rintro ⟨x, first, second⟩ i
    rcases first i, second i with ⟨pOpen | pValue, qOpen | qValue⟩
    · exact Or.inl pOpen
    · exact Or.inl pOpen
    · exact Or.inr (Or.inl qOpen)
    · exact Or.inr (Or.inr (pValue.trans qValue.symm))
  · intro meets
    -- A coordinate takes the value of a pattern that fixes it.
    refine ⟨fun i => if p.wild i then q.value i else p.value i, fun i => ?_, fun i => ?_⟩
    · by_cases pOpen : p.wild i
      · exact Or.inl pOpen
      · exact Or.inr (if_neg pOpen).symm
    · by_cases pOpen : p.wild i
      · exact Or.inr (if_pos pOpen).symm
      · rcases (meets i).resolve_left pOpen with qOpen | same
        · exact Or.inl qOpen
        · exact Or.inr (same.symm.trans (if_neg pOpen).symm)

end Pattern

end Libfluid.Library
