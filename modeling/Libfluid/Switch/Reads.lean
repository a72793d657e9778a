import Libfluid.Library.Except
import Libfluid.Switch.Datapath

namespace Libfluid.Switch
open Library

variable {pkt : Frame}

theorem readByte_total {index : Nat} (inside : index < pkt.length) : ∃ b, readByte pkt index = .ok b :=
  ⟨pkt[index], by simp [readByte, inside]⟩

theorem read16_total {index : Nat} (inside : index + 2 ≤ pkt.length) : ∃ w, read16 pkt index = .ok w :=
  bind_total (readByte_total (by omega)) fun _ =>
    bind_total (readByte_total (by omega)) fun _ => pure_total _

theorem read32_total {index : Nat} (inside : index + 4 ≤ pkt.length) : ∃ w, read32 pkt index = .ok w :=
  bind_total (readByte_total (by omega)) fun _ =>
    bind_total (readByte_total (by omega)) fun _ =>
      bind_total (readByte_total (by omega)) fun _ =>
        bind_total (readByte_total (by omega)) fun _ => pure_total _

theorem readEthAddress_total {index : Nat} (inside : index + 6 ≤ pkt.length) :
    ∃ a, readEthAddress pkt index = .ok a :=
  bind_total (readByte_total (by omega)) fun _ =>
    bind_total (readByte_total (by omega)) fun _ =>
      bind_total (readByte_total (by omega)) fun _ =>
        bind_total (readByte_total (by omega)) fun _ =>
          bind_total (readByte_total (by omega)) fun _ =>
            bind_total (readByte_total (by omega)) fun _ => pure_total _

theorem readByte_ok_length {index : Nat} {byte : Byte} (read : readByte pkt index = .ok byte) :
    index + 1 ≤ pkt.length := by
  have inside : pkt[index]? ≠ none := by
    intro outside
    simp only [readByte, outside] at read
    cases read
  exact Nat.not_le.mp fun beyond => inside (List.getElem?_eq_none beyond)

theorem read16_ok_length {index : Nat} {word : BitVec 16} (read : read16 pkt index = .ok word) :
    index + 2 ≤ pkt.length := by
  obtain ⟨b₀, -, read⟩ := bind_eq_ok.mp read
  obtain ⟨b₁, last, -⟩ := bind_eq_ok.mp read
  exact readByte_ok_length last

theorem read32_ok_length {index : Nat} {word : BitVec 32} (read : read32 pkt index = .ok word) :
    index + 4 ≤ pkt.length := by
  obtain ⟨b₀, -, read⟩ := bind_eq_ok.mp read
  obtain ⟨b₁, -, read⟩ := bind_eq_ok.mp read
  obtain ⟨b₂, -, read⟩ := bind_eq_ok.mp read
  obtain ⟨b₃, last, -⟩ := bind_eq_ok.mp read
  exact readByte_ok_length last

theorem readEthAddress_ok_length {index : Nat} {address : EthAddress}
    (read : readEthAddress pkt index = .ok address) : index + 6 ≤ pkt.length := by
  obtain ⟨b₀, -, read⟩ := bind_eq_ok.mp read
  obtain ⟨b₁, -, read⟩ := bind_eq_ok.mp read
  obtain ⟨b₂, -, read⟩ := bind_eq_ok.mp read
  obtain ⟨b₃, -, read⟩ := bind_eq_ok.mp read
  obtain ⟨b₄, -, read⟩ := bind_eq_ok.mp read
  obtain ⟨b₅, last, -⟩ := bind_eq_ok.mp read
  exact readByte_ok_length last

theorem extractEthernet_total (m : Match) (ethType : BitVec 16) (header : ethHeaderLen ≤ pkt.length) :
    ∃ r, extractEthernet m pkt ethType = .ok r := by
  simp only [ethHeaderLen] at header
  simp only [extractEthernet, ethHeaderLen, llcHeaderLen, snapHeaderLen]
  refine ite_total (fun _ => ?_) fun _ => ite_total (fun _ => pure_total _) fun llc => ?_
  · exact bind_total (readEthAddress_total (by omega)) fun _ =>
      bind_total (readEthAddress_total (by omega)) fun _ => pure_total _
  · refine bind_total (readByte_total (by omega)) fun _ => ?_
    refine bind_total (readByte_total (by omega)) fun _ => ?_
    refine bind_total (readByte_total (by omega)) fun _ => ?_
    refine ite_total (fun _ => pure_total _) fun _ => ite_total (fun _ => pure_total _) fun snap => ?_
    refine bind_total (readByte_total (by omega)) fun _ => ?_
    refine bind_total (readByte_total (by omega)) fun _ => ?_
    refine bind_total (readByte_total (by omega)) fun _ => ?_
    refine ite_total (fun _ => pure_total _) fun _ => ?_
    exact bind_total (readEthAddress_total (by omega)) fun _ =>
      bind_total (readEthAddress_total (by omega)) fun _ => pure_total _

theorem skipVlanTags_total (m : Match) (ethType : BitVec 16) (vlan offset : Nat)
    (tag : ethType = ethTypeVlan → vlan + vlanHeaderLen ≤ pkt.length) :
    ∃ r, skipVlanTags m pkt ethType vlan offset = .ok r := by
  rw [skipVlanTags]
  refine ite_total (fun tagged => ?_) fun _ => pure_total _
  have inside := tag tagged
  simp only [vlanHeaderLen] at inside
  split
  · exact pure_total _
  · rename_i long
    refine bind_total (read16_total (by omega)) fun next => ?_
    exact skipVlanTags_total _ _ _ _ tag
termination_by pkt.length - offset
decreasing_by simp only [vlanHeaderLen] at *; omega

theorem extractVlan_total (m : Match) (ethType : BitVec 16) (offset : Nat) :
    ∃ r, extractVlan m pkt ethType offset = .ok r := by
  simp only [extractVlan]
  refine ite_total (fun _ => ite_total (fun _ => pure_total _) fun long => ?_) fun untagged => ?_
  · have inside : offset + vlanHeaderLen ≤ pkt.length := Nat.le_of_not_lt long
    simp only [vlanHeaderLen] at long
    refine bind_total (read16_total (by omega)) fun _ => ?_
    refine bind_total (read16_total (by omega)) fun _ => ?_
    exact skipVlanTags_total _ _ _ _ fun _ => inside
  · exact skipVlanTags_total _ _ _ _ fun tagged => absurd tagged untagged

theorem extractTransport_total (m : Match) (nextProto : Byte) (offset : Nat) :
    ∃ r, extractTransport m pkt nextProto offset = .ok r := by
  simp only [extractTransport, icmpHeaderLen, tcpHeaderLen, udpHeaderLen]
  refine ite_total (fun _ => ite_total (fun _ => pure_total _) fun icmp => ?_) fun _ =>
    ite_total (fun _ => ite_total (fun _ => pure_total _) fun tcp => ?_) fun _ =>
      ite_total (fun _ => ite_total (fun _ => pure_total _) fun udp => ?_) fun _ => pure_total _
  · exact bind_total (readByte_total (by omega)) fun _ =>
      bind_total (readByte_total (by omega)) fun _ => pure_total _
  · exact bind_total (read16_total (by omega)) fun _ =>
      bind_total (read16_total (by omega)) fun _ => pure_total _
  · exact bind_total (read16_total (by omega)) fun _ =>
      bind_total (read16_total (by omega)) fun _ => pure_total _

theorem extractNetwork_total (m : Match) (ethType : BitVec 16) (offset : Nat) :
    ∃ r, extractNetwork m pkt ethType offset = .ok r := by
  simp only [extractNetwork, arpEthHeaderLen, ipHeaderLen]
  refine ite_total (fun _ => ite_total (fun _ => pure_total _) fun arp => ?_) fun _ =>
    ite_total (fun _ => ite_total (fun _ => pure_total _) fun ip => ?_) fun _ =>
      extractTransport_total _ _ _
  · exact bind_total (read32_total (by omega)) fun _ =>
      bind_total (read32_total (by omega)) fun _ =>
        bind_total (read16_total (by omega)) fun _ => pure_total _
  · refine bind_total (read32_total (by omega)) fun _ => ?_
    refine bind_total (read32_total (by omega)) fun _ => ?_
    refine bind_total (readByte_total (by omega)) fun _ => ?_
    refine bind_total (readByte_total (by omega)) fun _ => ?_
    refine bind_total (read16_total (by omega)) fun _ => ?_
    exact ite_total (fun _ => pure_total _) fun _ => extractTransport_total _ _ _

theorem extractFlowFields_total (m : Match) (pkt : Frame) : ∃ r, extractFlowFields m pkt = .ok r := by
  simp only [extractFlowFields]
  refine ite_total (fun _ => pure_total _) fun long => ?_
  have header : ethHeaderLen ≤ pkt.length := Nat.le_of_not_lt long
  refine bind_total (read16_total (by simp only [ethHeaderLen] at header; omega)) fun _ => ?_
  refine bind_total (extractEthernet_total _ _ header) fun link => ?_
  rcases link with ⟨m, _ | offset⟩
  · exact pure_total _
  · refine bind_total (extractVlan_total _ _ _) fun tags => ?_
    rcases tags with ⟨m, _ | offset⟩
    · exact pure_total _
    · exact extractNetwork_total _ _ _

theorem extract_total (packet : Packet) : ∃ m, Datapath.extract packet = .ok m := by
  obtain ⟨m, extracted⟩ := extractFlowFields_total _ packet.data
  exact ⟨m, mapError_eq_ok.mpr extracted⟩

end Libfluid.Switch
