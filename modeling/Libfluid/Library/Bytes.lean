import Mathlib.Data.BitVec

namespace Libfluid.Library

abbrev Byte := BitVec 8

def load16 (b₀ b₁ : Byte) : BitVec 16 := b₁ ++ b₀

def load32 (b₀ b₁ b₂ b₃ : Byte) : BitVec 32 := b₃ ++ b₂ ++ b₁ ++ b₀

def load64 (b₀ b₁ b₂ b₃ b₄ b₅ b₆ b₇ : Byte) : BitVec 64 := load32 b₄ b₅ b₆ b₇ ++ load32 b₀ b₁ b₂ b₃

def swap16 (word : BitVec 16) : BitVec 16 := word.extractLsb' 0 8 ++ word.extractLsb' 8 8

theorem toNat_injective {w : Nat} : Function.Injective (BitVec.toNat : BitVec w → Nat) := fun _ _ =>
  BitVec.eq_of_toNat_eq

theorem append_inj {v w : Nat} {a a' : BitVec v} {b b' : BitVec w} :
    a ++ b = a' ++ b' ↔ a = a' ∧ b = b' := by
  constructor
  · intro same
    have high := congrArg (fun word => word.extractLsb' w v) same
    have low := congrArg (fun word => word.extractLsb' 0 w) same
    simp only [BitVec.extractLsb'_append_eq_left] at high
    simp only [BitVec.extractLsb'_append_eq_right] at low
    exact ⟨high, low⟩
  · rintro ⟨rfl, rfl⟩
    rfl

theorem append_and_eq {v w : Nat} {a mask value : BitVec v} {b : BitVec w} :
    (a ++ b) &&& (mask ++ 0#w) = value ++ 0#w ↔ a &&& mask = value := by
  rw [BitVec.and_append, BitVec.and_zero, append_inj]
  exact and_iff_left rfl

theorem load16_inj {a₀ a₁ b₀ b₁ : Byte} : load16 a₀ a₁ = load16 b₀ b₁ ↔ a₀ = b₀ ∧ a₁ = b₁ := by
  rw [load16, load16, append_inj, and_comm]

theorem load32_inj {a₀ a₁ a₂ a₃ b₀ b₁ b₂ b₃ : Byte} :
    load32 a₀ a₁ a₂ a₃ = load32 b₀ b₁ b₂ b₃ ↔ a₀ = b₀ ∧ a₁ = b₁ ∧ a₂ = b₂ ∧ a₃ = b₃ := by
  rw [load32, load32, append_inj, append_inj, append_inj]
  constructor
  · rintro ⟨⟨⟨h₃, h₂⟩, h₁⟩, h₀⟩
    exact ⟨h₀, h₁, h₂, h₃⟩
  · rintro ⟨h₀, h₁, h₂, h₃⟩
    exact ⟨⟨⟨h₃, h₂⟩, h₁⟩, h₀⟩

theorem load64_inj {a₀ a₁ a₂ a₃ a₄ a₅ a₆ a₇ b₀ b₁ b₂ b₃ b₄ b₅ b₆ b₇ : Byte} :
    load64 a₀ a₁ a₂ a₃ a₄ a₅ a₆ a₇ = load64 b₀ b₁ b₂ b₃ b₄ b₅ b₆ b₇ ↔
      (a₀ = b₀ ∧ a₁ = b₁ ∧ a₂ = b₂ ∧ a₃ = b₃) ∧ a₄ = b₄ ∧ a₅ = b₅ ∧ a₆ = b₆ ∧ a₇ = b₇ := by
  rw [load64, load64, append_inj, load32_inj, load32_inj, and_comm]

theorem extract_load32 (b₀ b₁ b₂ b₃ : Byte) :
    (load32 b₀ b₁ b₂ b₃).extractLsb' 0 8 = b₀ ∧ (load32 b₀ b₁ b₂ b₃).extractLsb' 8 8 = b₁ ∧
      (load32 b₀ b₁ b₂ b₃).extractLsb' 16 8 = b₂ ∧ (load32 b₀ b₁ b₂ b₃).extractLsb' 24 8 = b₃ := by
  rw [load32]
  refine ⟨?_, ?_, ?_, ?_⟩
  · rw [BitVec.extractLsb'_append_eq_right]
  · rw [BitVec.extractLsb'_append_eq_of_le (by omega), BitVec.extractLsb'_append_eq_right]
  · rw [BitVec.extractLsb'_append_eq_of_le (by omega), BitVec.extractLsb'_append_eq_of_le (by omega),
      BitVec.extractLsb'_append_eq_right]
  · rw [BitVec.extractLsb'_append_eq_of_le (by omega), BitVec.extractLsb'_append_eq_of_le (by omega),
      BitVec.extractLsb'_append_eq_of_le (by omega)]
    exact BitVec.extractLsb'_eq_self

theorem extract_load64_low {b₀ b₁ b₂ b₃ b₄ b₅ b₆ b₇ : Byte} {start : Nat} (inside : start + 8 ≤ 32) :
    (load64 b₀ b₁ b₂ b₃ b₄ b₅ b₆ b₇).extractLsb' start 8 = (load32 b₀ b₁ b₂ b₃).extractLsb' start 8 :=
  BitVec.extractLsb'_append_eq_of_add_le inside

theorem extract_load64_high {b₀ b₁ b₂ b₃ b₄ b₅ b₆ b₇ : Byte} {start : Nat} (above : 32 ≤ start) :
    (load64 b₀ b₁ b₂ b₃ b₄ b₅ b₆ b₇).extractLsb' start 8 = (load32 b₄ b₅ b₆ b₇).extractLsb' (start - 32) 8 :=
  BitVec.extractLsb'_append_eq_of_le above

@[simp] theorem swap16_load16 (b₀ b₁ : Byte) : swap16 (load16 b₀ b₁) = b₀ ++ b₁ := by
  rw [swap16, load16, BitVec.extractLsb'_append_eq_right, BitVec.extractLsb'_append_eq_left]

theorem swap16_swap16 (word : BitVec 16) : swap16 (swap16 word) = word := by
  rw [swap16, swap16, BitVec.extractLsb'_append_eq_right, BitVec.extractLsb'_append_eq_left]
  exact BitVec.extractLsb'_append_extractLsb'

theorem swap16_and (a b : BitVec 16) : swap16 (a &&& b) = swap16 a &&& swap16 b := by
  unfold swap16
  rw [BitVec.extractLsb'_and, BitVec.extractLsb'_and]
  exact BitVec.and_append.symm

theorem swap16_eq_zero {word : BitVec 16} : swap16 word = 0 ↔ word = 0 := by
  constructor
  · intro zero
    rw [← swap16_swap16 word, zero]
    rfl
  · rintro rfl
    rfl

end Libfluid.Library
