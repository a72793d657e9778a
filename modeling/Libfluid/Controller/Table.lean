import Libfluid.Library.Except
import Libfluid.Switch.Reads
import Libfluid.Controller.Learning

namespace Libfluid.Controller
open Library Switch

theorem macKey_inj {a b : EthAddress} : macKey a = macKey b ↔ a = b := by
  cases a
  cases b
  rw [macKey, macKey, load64_inj, EthAddress.mk.injEq]
  tauto

theorem keyMac_macKey (address : EthAddress) : keyMac (macKey address) = address := by
  obtain ⟨o₀, o₁, o₂, o₃, o₄, o₅⟩ := address
  obtain ⟨-, -, first, second⟩ := extract_load32 0 0 o₀ o₁
  obtain ⟨third, fourth, fifth, sixth⟩ := extract_load32 o₂ o₃ o₄ o₅
  simp only [keyMac, macKey, EthAddress.mk.injEq]
  refine ⟨?_, ?_, ?_, ?_, ?_, ?_⟩
  · exact (extract_load64_low (by omega)).trans first
  · exact (extract_load64_low (by omega)).trans second
  · exact (extract_load64_high (by omega)).trans third
  · exact (extract_load64_high (by omega)).trans fourth
  · exact (extract_load64_high (by omega)).trans fifth
  · exact (extract_load64_high (by omega)).trans sixth

structure Addressed (data : Frame) (src dst : EthAddress) : Prop where
  dst : readEthAddress data 0 = .ok dst
  src : readEthAddress data 6 = .ok src

theorem readMac_ok {data : Frame} {index : Nat} {address : EthAddress}
    (read : readEthAddress data index = .ok address) : readMac data index = .ok (macKey address) := by
  rw [readMac, read]
  rfl

theorem readMac_eq_ok {data : Frame} {index : Nat} {key : BitVec 64} :
    readMac data index = .ok key ↔ ∃ address, readEthAddress data index = .ok address ∧ key = macKey address := by
  rw [readMac]
  cases read : readEthAddress data index with
  | error fault =>
      constructor
      · intro same
        cases same
      · rintro ⟨address, same, -⟩
        cases same
  | ok address =>
      constructor
      · intro same
        cases same
        exact ⟨address, rfl, rfl⟩
      · rintro ⟨address', same, rfl⟩
        cases same
        rfl

theorem addressed_of_length {data : Frame} (long : 12 ≤ data.length) : ∃ src dst, Addressed data src dst := by
  obtain ⟨dst, first⟩ := readEthAddress_total (show 0 + 6 ≤ data.length by omega)
  obtain ⟨src, second⟩ := readEthAddress_total (show 6 + 6 ≤ data.length by omega)
  exact ⟨src, dst, first, second⟩

theorem Addressed.unique {data : Frame} {src dst src' dst' : EthAddress} (addressed : Addressed data src dst)
    (addressed' : Addressed data src' dst') : src = src' ∧ dst = dst' :=
  ⟨Except.ok.inj (addressed.src.symm.trans addressed'.src), Except.ok.inj (addressed.dst.symm.trans addressed'.dst)⟩

def sampleFrame : Frame := [0, 0, 0, 0, 0, 2, 0, 0, 0, 0, 0, 1, 0x08, 0x00]

/-! ## Tables -/

theorem BaseLearningSwitch.setApplicationData_self (app : BaseLearningSwitch) (connection : Nat) (l2table : L2Table) :
    (app.setApplicationData connection l2table).applicationData connection = some l2table :=
  Function.update_self _ _ _

theorem BaseLearningSwitch.setApplicationData_of_ne (app : BaseLearningSwitch) {other connection : Nat}
    (l2table : L2Table) (different : other ≠ connection) :
    (app.setApplicationData other l2table).applicationData connection = app.applicationData connection :=
  Function.update_of_ne (Ne.symm different) _ _

def L2Table.answer (l2table : L2Table) (src dst : EthAddress) (inPort : BitVec 16) : Option (BitVec 16) :=
  if dst = src then some inPort else l2table.lookup (macKey dst)

theorem answer_eq_none {l2table : L2Table} {src dst : EthAddress} {inPort : BitVec 16} :
    l2table.answer src dst inPort = none ↔ dst ≠ src ∧ l2table.lookup (macKey dst) = none := by
  rw [L2Table.answer]
  by_cases same : dst = src
  · simp [same]
  · simp [same]

theorem lookup_learned (l2table : L2Table) (src address : EthAddress) (inPort : BitVec 16) :
    (l2table.set (macKey src) inPort).lookup (macKey address) = l2table.answer src address inPort := by
  rw [OrderedMap.lookup_set]
  simp only [toNat_injective.eq_iff, macKey_inj, L2Table.answer]

theorem learn_eq (l2table : L2Table) (src dst : EthAddress) (inPort : BitVec 16) :
    learn l2table (macKey src) (macKey dst) inPort =
      (l2table.set (macKey src) inPort,
        (l2table.answer src dst inPort).elim .flood (.install (macKey src) (macKey dst))) := by
  rw [learn, ← lookup_learned]
  cases (l2table.set (macKey src) inPort).lookup (macKey dst) <;> rfl

end Libfluid.Controller
