import Libfluid.Switch.Reads

namespace Libfluid.Switch
open Library

variable {m r : Match} {pkt : Frame} {ethType : BitVec 16} {offset vlan : Nat} {proto : Byte}

def KeepsAddresses (m r : Match) : Prop := r.dlSrc = m.dlSrc ∧ r.dlDst = m.dlDst

theorem extractTransport_keeps (run : extractTransport m pkt proto offset = .ok r) : KeepsAddresses m r := by
  simp only [extractTransport] at run
  split_ifs at run
  · cases run
    exact ⟨rfl, rfl⟩
  · obtain ⟨first, -, run⟩ := bind_eq_ok.mp run
    obtain ⟨second, -, run⟩ := bind_eq_ok.mp run
    cases run
    exact ⟨rfl, rfl⟩
  · cases run
    exact ⟨rfl, rfl⟩
  · obtain ⟨first, -, run⟩ := bind_eq_ok.mp run
    obtain ⟨second, -, run⟩ := bind_eq_ok.mp run
    cases run
    exact ⟨rfl, rfl⟩
  · cases run
    exact ⟨rfl, rfl⟩
  · obtain ⟨first, -, run⟩ := bind_eq_ok.mp run
    obtain ⟨second, -, run⟩ := bind_eq_ok.mp run
    cases run
    exact ⟨rfl, rfl⟩
  · cases run
    exact ⟨rfl, rfl⟩

theorem extractNetwork_keeps (run : extractNetwork m pkt ethType offset = .ok r) : KeepsAddresses m r := by
  simp only [extractNetwork] at run
  split_ifs at run with arp shortArp ip shortIp
  · cases run
    exact ⟨rfl, rfl⟩
  · obtain ⟨arSpa, -, run⟩ := bind_eq_ok.mp run
    obtain ⟨arTpa, -, run⟩ := bind_eq_ok.mp run
    obtain ⟨arOp, -, run⟩ := bind_eq_ok.mp run
    cases run
    exact ⟨rfl, rfl⟩
  · cases run
    exact ⟨rfl, rfl⟩
  · obtain ⟨ipSrc, -, run⟩ := bind_eq_ok.mp run
    obtain ⟨ipDst, -, run⟩ := bind_eq_ok.mp run
    obtain ⟨ipProto, -, run⟩ := bind_eq_ok.mp run
    obtain ⟨ipTos, -, run⟩ := bind_eq_ok.mp run
    obtain ⟨ipFragOff, -, run⟩ := bind_eq_ok.mp run
    split_ifs at run
    · cases run
      exact ⟨rfl, rfl⟩
    · have kept := extractTransport_keeps run
      exact ⟨kept.1, kept.2⟩
  · exact extractTransport_keeps run

theorem skipVlanTags_keeps {rest : Option Nat} (run : skipVlanTags m pkt ethType vlan offset = .ok (r, rest)) :
    KeepsAddresses m r := by
  fun_induction skipVlanTags m pkt ethType vlan offset with
  | case1 m offset tagged short =>
      cases run
      exact ⟨rfl, rfl⟩
  | case2 m offset tagged long ih =>
      obtain ⟨next, -, run⟩ := bind_eq_ok.mp run
      exact ih next run
  | case3 m offset untagged =>
      cases run
      exact ⟨rfl, rfl⟩

theorem extractVlan_keeps {rest : Option Nat} (run : extractVlan m pkt ethType offset = .ok (r, rest)) :
    KeepsAddresses m r := by
  simp only [extractVlan] at run
  split_ifs at run
  · cases run
    exact ⟨rfl, rfl⟩
  · obtain ⟨tci, -, run⟩ := bind_eq_ok.mp run
    obtain ⟨next, -, run⟩ := bind_eq_ok.mp run
    have kept := skipVlanTags_keeps run
    exact ⟨kept.1, kept.2⟩
  · have kept := skipVlanTags_keeps run
    exact ⟨kept.1, kept.2⟩

theorem extractFlowFields_link (run : extractFlowFields m pkt = .ok r) (long : ethHeaderLen ≤ pkt.length) :
    ∃ ethType link rest, read16 pkt 12 = .ok ethType ∧
      extractEthernet m pkt (ntoh16 ethType) = .ok (link, rest) ∧ KeepsAddresses link r := by
  rw [extractFlowFields, if_neg (Nat.not_lt.mpr long)] at run
  obtain ⟨ethType, type, run⟩ := bind_eq_ok.mp run
  obtain ⟨⟨link, rest⟩, linked, run⟩ := bind_eq_ok.mp run
  refine ⟨ethType, link, rest, type, linked, ?_⟩
  cases rest with
  | none =>
      cases run
      exact ⟨rfl, rfl⟩
  | some offset =>
      obtain ⟨⟨tagged, rest⟩, tags, run⟩ := bind_eq_ok.mp run
      have kept := extractVlan_keeps tags
      cases rest with
      | none =>
          cases run
          exact kept
      | some offset =>
          have network := extractNetwork_keeps run
          exact ⟨network.1.trans kept.1, network.2.trans kept.2⟩

theorem extractEthernet_typeII {rest : Option Nat} (type : ethTypeIIStart ≤ ethType)
    (run : extractEthernet m pkt ethType = .ok (r, rest)) :
    readEthAddress pkt 6 = .ok r.dlSrc ∧ readEthAddress pkt 0 = .ok r.dlDst := by
  simp only [extractEthernet, if_pos type] at run
  obtain ⟨ethSrc, first, run⟩ := bind_eq_ok.mp run
  obtain ⟨ethDst, second, run⟩ := bind_eq_ok.mp run
  cases run
  exact ⟨first, second⟩

theorem extractEthernet_llc {rest : Option Nat} (length : ¬ ethTypeIIStart ≤ ethType)
    (run : extractEthernet m pkt ethType = .ok (r, rest)) :
    r.dlDst = m.dlDst ∧ (r.dlSrc = m.dlSrc ∨ readEthAddress pkt 0 = .ok r.dlSrc) := by
  simp only [extractEthernet, if_neg length] at run
  by_cases shortLlc : pkt.length < ethHeaderLen + llcHeaderLen
  · rw [if_pos shortLlc] at run
    cases run
    exact ⟨rfl, Or.inl rfl⟩
  rw [if_neg shortLlc] at run
  obtain ⟨dsap, -, run⟩ := bind_eq_ok.mp run
  obtain ⟨ssap, -, run⟩ := bind_eq_ok.mp run
  obtain ⟨cntl, -, run⟩ := bind_eq_ok.mp run
  split at run
  · cases run
    exact ⟨rfl, Or.inl rfl⟩
  split at run
  · cases run
    exact ⟨rfl, Or.inl rfl⟩
  obtain ⟨org₀, -, run⟩ := bind_eq_ok.mp run
  obtain ⟨org₁, -, run⟩ := bind_eq_ok.mp run
  obtain ⟨org₂, -, run⟩ := bind_eq_ok.mp run
  split at run
  · cases run
    exact ⟨rfl, Or.inl rfl⟩
  obtain ⟨ethSrc, -, run⟩ := bind_eq_ok.mp run
  obtain ⟨ethDst, second, run⟩ := bind_eq_ok.mp run
  cases run
  exact ⟨rfl, Or.inr second⟩

/-! ## The type field -/

/-- The two bytes after the addresses are a type of Ethernet II and not a length. -/
def EthernetII (data : Frame) : Prop :=
  ∃ b₀ b₁, data[12]? = some b₀ ∧ data[13]? = some b₁ ∧ ethTypeIIStart ≤ b₀ ++ b₁

theorem readByte_eq_ok {index : Nat} {byte : Byte} : readByte pkt index = .ok byte ↔ pkt[index]? = some byte := by
  rw [readByte]
  cases pkt[index]? <;> simp

theorem ethernetII_iff {word : BitVec 16} (read : read16 pkt 12 = .ok word) :
    EthernetII pkt ↔ ethTypeIIStart ≤ ntoh16 word := by
  obtain ⟨b₀, first, read⟩ := bind_eq_ok.mp read
  obtain ⟨b₁, second, read⟩ := bind_eq_ok.mp read
  cases read
  rw [readByte_eq_ok] at first second
  rw [ntoh16, swap16_load16]
  constructor
  · rintro ⟨c₀, c₁, first', second', type⟩
    cases first.symm.trans first'
    cases second.symm.trans second'
    exact type
  · intro type
    exact ⟨b₀, b₁, first, second, type⟩

theorem extract_ethernetII {packet : Packet} (type : EthernetII packet.data) (long : ethHeaderLen ≤ packet.data.length)
    (run : Datapath.extract packet = .ok r) :
    readEthAddress packet.data 6 = .ok r.dlSrc ∧ readEthAddress packet.data 0 = .ok r.dlDst := by
  obtain ⟨ethType, link, rest, read, linked, kept⟩ := extractFlowFields_link (mapError_eq_ok.mp run) long
  have both := extractEthernet_typeII ((ethernetII_iff read).mp type) linked
  rw [kept.1, kept.2]
  exact both

theorem extract_llc {packet : Packet} (length : ¬ EthernetII packet.data) (long : ethHeaderLen ≤ packet.data.length)
    (run : Datapath.extract packet = .ok r) :
    r.dlDst = ⟨0, 0, 0, 0, 0, 0⟩ ∧
      (r.dlSrc = ⟨0, 0, 0, 0, 0, 0⟩ ∨ readEthAddress packet.data 0 = .ok r.dlSrc) := by
  obtain ⟨ethType, link, rest, read, linked, kept⟩ := extractFlowFields_link (mapError_eq_ok.mp run) long
  have both := extractEthernet_llc (fun type => length ((ethernetII_iff read).mpr type)) linked
  rw [kept.1, kept.2]
  exact both

end Libfluid.Switch
