import Mathlib.Data.BitVec

namespace Libfluid.Library

variable {w : Nat}

def ofBits (f : Fin w → Bool) : BitVec w :=
  (BitVec.ofBoolListLE (List.ofFn f)).cast List.length_ofFn

theorem getLsbD_ofBits (f : Fin w → Bool) (i : Fin w) : (ofBits f).getLsbD i = f i := by
  rw [ofBits, BitVec.getLsbD_cast, BitVec.getLsbD_ofBoolListLE]
  simp

theorem ushiftRight_eq_iff (a b : BitVec w) (n : Nat) :
    a >>> n = b >>> n ↔ ∀ i : Fin w, i.val < n ∨ a.getLsbD i = b.getLsbD i := by
  constructor
  · intro same i
    by_cases low : i.val < n
    · exact Or.inl low
    · have bits := congrArg (fun v => v.getLsbD (i.val - n)) same
      simp only [BitVec.getLsbD_ushiftRight] at bits
      rw [Nat.add_sub_cancel' (Nat.le_of_not_lt low)] at bits
      exact Or.inr bits
  · intro agree
    apply BitVec.eq_of_getLsbD_eq
    intro j _
    simp only [BitVec.getLsbD_ushiftRight]
    by_cases inside : n + j < w
    · exact (agree ⟨n + j, inside⟩).resolve_left (by simp)
    · rw [BitVec.getLsbD_of_ge _ _ (Nat.le_of_not_lt inside),
        BitVec.getLsbD_of_ge _ _ (Nat.le_of_not_lt inside)]

/-- The prefix of `b` without its `k` low bits lies inside the prefix of `a` without its `n` low bits. -/
def PrefixCovers (a : BitVec w) (n : Nat) (b : BitVec w) (k : Nat) : Prop :=
  w ≤ n ∨ k ≤ n ∧ a >>> n = b >>> n

instance (a : BitVec w) (n : Nat) (b : BitVec w) (k : Nat) : Decidable (PrefixCovers a n b k) :=
  inferInstanceAs (Decidable (_ ∨ _))

theorem prefixCovers_iff (a : BitVec w) (n : Nat) (b : BitVec w) (k : Nat) :
    PrefixCovers a n b k ↔ ∀ i : Fin w, i.val < n ∨ ¬ i.val < k ∧ a.getLsbD i = b.getLsbD i := by
  constructor
  · rintro (all | ⟨longer, agree⟩) i
    · exact Or.inl (lt_of_lt_of_le i.isLt all)
    · exact ((ushiftRight_eq_iff a b n).mp agree i).elim Or.inl fun same =>
        (lt_or_ge i.val n).imp id fun high => ⟨Nat.not_lt.mpr (longer.trans high), same⟩
  · intro bits
    rcases Nat.lt_or_ge n w with some | all
    · refine Or.inr ⟨?_, (ushiftRight_eq_iff a b n).mpr fun i => (bits i).imp id And.right⟩
      exact Nat.not_lt.mp ((bits ⟨n, some⟩).resolve_left (Nat.lt_irrefl n)).1
    · exact Or.inl all

end Libfluid.Library
