import Libfluid.Library.Pattern
import Libfluid.Library.Prefix

namespace Libfluid.Library

variable {w : Nat}

theorem eq_zero_iff_bits (word : BitVec w) : word = 0 ↔ ∀ i : Fin w, word.getLsbD i = false := by
  constructor
  · rintro rfl i
    simp
  · intro clear
    apply BitVec.eq_of_getLsbD_eq
    intro i inside
    rw [clear ⟨i, inside⟩]
    simp

def AgreeUnder (mask a b : BitVec w) : Prop := ∀ i : Fin w, mask.getLsbD i = true ∨ a.getLsbD i = b.getLsbD i

theorem agreeUnder_iff (mask a b : BitVec w) : AgreeUnder mask a b ↔ ~~~mask &&& (a ^^^ b) = 0 := by
  rw [eq_zero_iff_bits]
  refine forall_congr' fun i => ?_
  simp only [BitVec.getLsbD_and, BitVec.getLsbD_not, BitVec.getLsbD_xor, i.isLt, decide_true, Bool.true_and]
  cases mask.getLsbD i <;> cases a.getLsbD i <;> cases b.getLsbD i <;> decide

instance (mask a b : BitVec w) : Decidable (AgreeUnder mask a b) :=
  decidable_of_iff _ (agreeUnder_iff mask a b).symm

theorem AgreeUnder.symm {mask a b : BitVec w} (agree : AgreeUnder mask a b) : AgreeUnder mask b a := fun i =>
  (agree i).imp_right Eq.symm

/-- The words that agree with `b` under its mask all agree with `a` under the mask of `a`. -/
def MaskCovers (a am b bm : BitVec w) : Prop :=
  ∀ i : Fin w, am.getLsbD i = true ∨ bm.getLsbD i = false ∧ a.getLsbD i = b.getLsbD i

theorem maskCovers_iff (a am b bm : BitVec w) :
    MaskCovers a am b bm ↔ ~~~am &&& (~~~a ||| ~~~b ||| bm) &&& (a ||| b ||| bm) = 0 := by
  rw [eq_zero_iff_bits]
  refine forall_congr' fun i => ?_
  simp only [BitVec.getLsbD_and, BitVec.getLsbD_or, BitVec.getLsbD_not, i.isLt, decide_true, Bool.true_and]
  cases am.getLsbD i <;> cases bm.getLsbD i <;> cases a.getLsbD i <;> cases b.getLsbD i <;> decide

theorem MaskCovers.agreeUnder {a am b bm : BitVec w} (covers : MaskCovers a am b bm) (mask : BitVec w) :
    AgreeUnder (am ||| mask) a b := by
  intro i
  rw [BitVec.getLsbD_or, Bool.or_eq_true]
  rcases covers i with masked | ⟨-, same⟩
  · exact Or.inl (Or.inl masked)
  · exact Or.inr same

instance (a am b bm : BitVec w) : Decidable (MaskCovers a am b bm) :=
  decidable_of_iff _ (maskCovers_iff a am b bm).symm

/-! ## Sets of words -/

def maskPattern (a am : BitVec w) : Pattern (Fin w) fun _ => Bool where
  wild i := am.getLsbD i = true
  value i := a.getLsbD i

theorem bits_surjective : Function.Surjective fun (word : BitVec w) (i : Fin w) => word.getLsbD i := by
  intro f
  refine ⟨ofBits f, ?_⟩
  funext i
  exact getLsbD_ofBits f i

theorem maskCovers_iff_subset (a am b bm : BitVec w) :
    MaskCovers a am b bm ↔ ∀ x, AgreeUnder bm b x → AgreeUnder am a x := by
  have covers : MaskCovers a am b bm ↔ (maskPattern a am).Covers (maskPattern b bm) := by
    refine forall_congr' fun i => ?_
    rw [maskPattern, maskPattern, Bool.not_eq_true]
  rw [covers, ← Pattern.accepts_subset_iff, bits_surjective.forall]
  rfl

theorem AgreeUnder.trans {mask a b c : BitVec w} (first : AgreeUnder mask a b) (second : AgreeUnder mask b c) :
    AgreeUnder mask a c := by
  intro i
  rcases first i with masked | same
  · exact Or.inl masked
  · exact (second i).imp_right same.trans

theorem mask_eq_of_covers {a am b bm : BitVec w} (first : MaskCovers a am b bm) (second : MaskCovers b bm a am) :
    am = bm := by
  apply BitVec.eq_of_getLsbD_eq
  intro i inside
  rcases first ⟨i, inside⟩, second ⟨i, inside⟩ with ⟨aOpen | ⟨bFixed, -⟩, bOpen | ⟨aFixed, -⟩⟩
  · exact aOpen.trans bOpen.symm
  · exact absurd aOpen (by simp [aFixed])
  · exact absurd bOpen (by simp [bFixed])
  · exact aFixed.trans bFixed.symm

theorem agreeUnder_iff_same_words (a am b bm : BitVec w) :
    am = bm ∧ AgreeUnder am a b ↔ ∀ x, AgreeUnder am a x ↔ AgreeUnder bm b x := by
  constructor
  · rintro ⟨rfl, agree⟩ x
    exact ⟨agree.symm.trans, agree.trans⟩
  · intro same
    have first : MaskCovers a am b bm := (maskCovers_iff_subset a am b bm).mpr fun x => (same x).mpr
    have second : MaskCovers b bm a am := (maskCovers_iff_subset b bm a am).mpr fun x => (same x).mp
    refine ⟨mask_eq_of_covers first second, fun i => ?_⟩
    exact (first i).imp_right And.right

end Libfluid.Library
