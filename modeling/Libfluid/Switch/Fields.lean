import Libfluid.Library.Pattern
import Libfluid.Library.Prefix
import Libfluid.Switch.Datapath

namespace Libfluid.Switch
open Library

inductive Field
  | inPort
  | dlSrc
  | dlDst
  | dlVlan
  | dlVlanPcp
  | dlType
  | nwTos
  | nwProto
  | tpSrc
  | tpDst
deriving DecidableEq

namespace Field

abbrev Value : Field → Type
  | .dlSrc | .dlDst => EthAddress
  | .dlVlanPcp | .nwTos | .nwProto => BitVec 8
  | .inPort | .dlVlan | .dlType | .tpSrc | .tpDst => BitVec 16

def wildcard : Field → BitVec 32
  | .inPort => ofpfwInPort
  | .dlSrc => ofpfwDlSrc
  | .dlDst => ofpfwDlDst
  | .dlVlan => ofpfwDlVlan
  | .dlVlanPcp => ofpfwDlVlanPcp
  | .dlType => ofpfwDlType
  | .nwTos => ofpfwNwTos
  | .nwProto => ofpfwNwProto
  | .tpSrc => ofpfwTpSrc
  | .tpDst => ofpfwTpDst

instance (f : Field) : DecidableEq f.Value := by
  cases f <;> infer_instance

instance (f : Field) : Nontrivial f.Value := by
  cases f <;> first
    | exact ⟨0#16, 1#16, by decide⟩
    | exact ⟨0#8, 1#8, by decide⟩
    | exact ⟨⟨0, 0, 0, 0, 0, 0⟩, ⟨1, 0, 0, 0, 0, 0⟩, by decide⟩

theorem forall_iff {P : Field → Prop} :
    (∀ f, P f) ↔ P .inPort ∧ P .dlSrc ∧ P .dlDst ∧ P .dlVlan ∧ P .dlVlanPcp ∧ P .dlType ∧ P .nwTos ∧
      P .nwProto ∧ P .tpSrc ∧ P .tpDst := by
  constructor
  · intro all
    exact ⟨all _, all _, all _, all _, all _, all _, all _, all _, all _, all _⟩
  · rintro ⟨h₁, h₂, h₃, h₄, h₅, h₆, h₇, h₈, h₉, h₁₀⟩ f
    cases f <;> assumption

end Field

namespace Match

def value (m : Match) : (f : Field) → f.Value
  | .inPort => m.inPort
  | .dlSrc => m.dlSrc
  | .dlDst => m.dlDst
  | .dlVlan => m.dlVlan
  | .dlVlanPcp => m.dlVlanPcp
  | .dlType => m.dlType
  | .nwTos => m.nwTos
  | .nwProto => m.nwProto
  | .tpSrc => m.tpSrc
  | .tpDst => m.tpDst

def wild (m : Match) (f : Field) : Bool := wc m.wildcards f.wildcard

def nwSrcCount (m : Match) : Nat := ((m.wildcards >>> ofpfwNwSrcShift).setWidth ofpfwNwSrcBits).toNat

def nwDstCount (m : Match) : Nat := ((m.wildcards >>> ofpfwNwDstShift).setWidth ofpfwNwDstBits).toNat

def FieldsAgree (m pkt : Match) : Prop := ∀ f, m.wild f = false → m.value f = pkt.value f

theorem fieldsAgree_iff (m pkt : Match) :
    m.FieldsAgree pkt ↔ ∀ f, m.wild f = true ∨ m.value f = pkt.value f := by
  refine forall_congr' fun f => ?_
  cases m.wild f <;> simp

/-- What an OpenFlow 1.0 match says about a packet. A count of 32 or more shifts all bits out. -/
def Accepts (m pkt : Match) : Prop :=
  m.FieldsAgree pkt ∧ m.nwSrc >>> m.nwSrcCount = pkt.nwSrc >>> m.nwSrcCount ∧
    m.nwDst >>> m.nwDstCount = pkt.nwDst >>> m.nwDstCount

def CoversPackets (m entry : Match) : Prop := ∀ pkt : Match, entry.Accepts pkt → m.Accepts pkt

end Match

/-! ## The comparisons of the source -/

theorem EthAddress.eq_iff (a b : EthAddress) : a = b ↔ a.load32 = b.load32 ∧ a.load16 = b.load16 := by
  cases a
  cases b
  simp only [EthAddress.load32, EthAddress.load16, load32_inj, load16_inj, EthAddress.mk.injEq, and_assoc]

@[simp] theorem truth_complement_promote (b : Bool) : truth (~~~promote b) = true := by
  cases b <;> decide

theorem strictWild_iff {w : Nat} (a b : BitVec w) (aw bw f : BitVec 32) :
    strictWild a b aw bw f = true ↔ wc aw f = true ∧ wc bw f = true ∨ a = b := by
  simp [strictWild]

theorem nonstrictWild_iff {w : Nat} (a b : BitVec w) (aw bw f : BitVec 32) :
    nonstrictWild a b aw bw f = true ↔ wc aw f = true ∨ a = b := by
  simp only [nonstrictWild, truth_complement_promote, Bool.or_eq_true, Bool.and_eq_true, beq_iff_eq]
  tauto

theorem pktWild_iff {w : Nat} (a b : BitVec w) (aw f : BitVec 32) :
    pktWild a b aw f = true ↔ wc aw f = true ∨ a = b := by
  simp [pktWild]

theorem strictDladdr_iff (a b : EthAddress) (aw bw f : BitVec 32) :
    strictDladdr a b aw bw f = true ↔ wc aw f = true ∧ wc bw f = true ∨ a = b := by
  rw [strictDladdr, strictWild32, strictWild16, Bool.and_eq_true, strictWild_iff, strictWild_iff,
    EthAddress.eq_iff]
  tauto

theorem nonstrictDladdr_iff (a b : EthAddress) (aw bw f : BitVec 32) :
    nonstrictDladdr a b aw bw f = true ↔ wc aw f = true ∨ a = b := by
  rw [nonstrictDladdr, nonstrictWild32, nonstrictWild16, Bool.and_eq_true, nonstrictWild_iff,
    nonstrictWild_iff, EthAddress.eq_iff]
  tauto

theorem pktDladdr_iff (a b : EthAddress) (aw f : BitVec 32) :
    pktDladdr a b aw f = true ↔ wc aw f = true ∨ a = b := by
  rw [pktDladdr, pktWild32, pktWild16, Bool.and_eq_true, pktWild_iff, pktWild_iff, EthAddress.eq_iff]
  tauto

theorem setWidth_inj {a b : BitVec 8} : a.setWidth 16 = b.setWidth 16 ↔ a = b := by
  constructor
  · intro same
    have narrow := congrArg (fun word => word.setWidth 8) same
    simpa using narrow
  · rintro rfl
    rfl

theorem fields_first {p₁ p₂ p₃ p₄ p₅ p₆ p₇ p₈ p₉ p₁₀ src dst : Prop} :
    p₁ ∧ p₂ ∧ p₃ ∧ p₄ ∧ p₅ ∧ p₆ ∧ p₇ ∧ p₈ ∧ src ∧ dst ∧ p₉ ∧ p₁₀ ↔
      p₁ ∧ p₂ ∧ p₃ ∧ p₄ ∧ p₅ ∧ p₆ ∧ p₇ ∧ p₈ ∧ p₉ ∧ p₁₀ ∧ src ∧ dst := by
  constructor
  · rintro ⟨h₁, h₂, h₃, h₄, h₅, h₆, h₇, h₈, hs, hd, h₉, h₁₀⟩
    exact ⟨h₁, h₂, h₃, h₄, h₅, h₆, h₇, h₈, h₉, h₁₀, hs, hd⟩
  · rintro ⟨h₁, h₂, h₃, h₄, h₅, h₆, h₇, h₈, h₉, h₁₀, hs, hd⟩
    exact ⟨h₁, h₂, h₃, h₄, h₅, h₆, h₇, h₈, hs, hd, h₉, h₁₀⟩

theorem matchStdStrict_iff (a b : Match) (nwSrcMaskA nwSrcMaskB nwDstMaskA nwDstMaskB : BitVec 32) :
    matchStdStrict a b nwSrcMaskA nwSrcMaskB nwDstMaskA nwDstMaskB = true ↔
      (∀ f, a.wild f = true ∧ b.wild f = true ∨ a.value f = b.value f) ∧
        strictNw a.nwSrc b.nwSrc nwSrcMaskA nwSrcMaskB = true ∧
        strictNw a.nwDst b.nwDst nwDstMaskA nwDstMaskB = true := by
  simp only [matchStdStrict, Bool.and_eq_true, strictWild8, strictWild16, strictWild_iff, strictDladdr_iff,
    setWidth_inj, Field.forall_iff, Match.wild, Match.value, Field.wildcard, and_assoc]
  exact fields_first

theorem matchStdNonstrict_iff (a b : Match) (nwSrcMaskA nwSrcMaskB nwDstMaskA nwDstMaskB : BitVec 32) :
    matchStdNonstrict a b nwSrcMaskA nwSrcMaskB nwDstMaskA nwDstMaskB = true ↔
      (∀ f, a.wild f = true ∨ a.value f = b.value f) ∧
        nonstrictNw a.nwSrc b.nwSrc nwSrcMaskA nwSrcMaskB = true ∧
        nonstrictNw a.nwDst b.nwDst nwDstMaskA nwDstMaskB = true := by
  simp only [matchStdNonstrict, Bool.and_eq_true, nonstrictWild8, nonstrictWild16, nonstrictWild_iff,
    nonstrictDladdr_iff, Field.forall_iff, Match.wild, Match.value, Field.wildcard, and_assoc]
  exact fields_first

theorem matchStdPkt_iff (a b : Match) (nwSrcMask nwDstMask : BitVec 32) :
    matchStdPkt a b nwSrcMask nwDstMask = true ↔
      (∀ f, a.wild f = true ∨ a.value f = b.value f) ∧
        pktNw a.nwSrc b.nwSrc nwSrcMask = true ∧ pktNw a.nwDst b.nwDst nwDstMask = true := by
  simp only [matchStdPkt, Bool.and_eq_true, pktWild8, pktWild16, pktWild_iff, pktDladdr_iff,
    Field.forall_iff, Match.wild, Match.value, Field.wildcard, and_assoc]
  exact fields_first

/-! ## Addresses under the masks of a new flow -/

@[simp] theorem pktNw_allOnes (a b : BitVec 32) : pktNw a b 0xffffffff = true := by
  simp [pktNw]

@[simp] theorem nonstrictNw_allOnes (a b bm : BitVec 32) : nonstrictNw a b 0xffffffff bm = true := by
  simp [nonstrictNw]

@[simp] theorem strictNw_allOnes (a b : BitVec 32) : strictNw a b 0xffffffff 0xffffffff = true := by
  simp [strictNw]

end Libfluid.Switch
