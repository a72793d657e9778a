import Libfluid.Switch.Fields
import Libfluid.Switch.Reads

namespace Libfluid.Switch
open Library

variable {pkt : Frame} {index offset vlan : Nat} {ethType : BitVec 16}

def byteAt (pkt : Frame) (index : Nat) : Byte := pkt.getD index 0

def word16At (pkt : Frame) (index : Nat) : BitVec 16 := byteAt pkt index ++ byteAt pkt (index + 1)

/-- Four bytes as they lie in memory, the form in which a match holds an address. -/
def word32At (pkt : Frame) (index : Nat) : BitVec 32 :=
  load32 (byteAt pkt index) (byteAt pkt (index + 1)) (byteAt pkt (index + 2)) (byteAt pkt (index + 3))

def ethAddressAt (pkt : Frame) (index : Nat) : EthAddress :=
  ⟨byteAt pkt index, byteAt pkt (index + 1), byteAt pkt (index + 2), byteAt pkt (index + 3),
    byteAt pkt (index + 4), byteAt pkt (index + 5)⟩

/-! ## Readers -/

theorem readByte_eq (inside : index < pkt.length) : readByte pkt index = .ok (byteAt pkt index) := by
  rw [readByte, byteAt, List.getD_eq_getElem?_getD, List.getElem?_eq_getElem inside]
  rfl

theorem readByte_outside (outside : pkt.length ≤ index) : readByte pkt index = .error index := by
  rw [readByte, List.getElem?_eq_none outside]

theorem read16_eq (inside : index + 2 ≤ pkt.length) :
    read16 pkt index = .ok (load16 (byteAt pkt index) (byteAt pkt (index + 1))) := by
  rw [read16, readByte_eq (by omega), readByte_eq (by omega)]
  rfl

theorem read32_eq (inside : index + 4 ≤ pkt.length) : read32 pkt index = .ok (word32At pkt index) := by
  rw [read32, readByte_eq (by omega), readByte_eq (by omega), readByte_eq (by omega), readByte_eq (by omega)]
  rfl

theorem readEthAddress_eq (inside : index + 6 ≤ pkt.length) :
    readEthAddress pkt index = .ok (ethAddressAt pkt index) := by
  rw [readEthAddress, readByte_eq (by omega), readByte_eq (by omega), readByte_eq (by omega),
    readByte_eq (by omega), readByte_eq (by omega), readByte_eq (by omega)]
  rfl

theorem ntoh16_load16 : ntoh16 (load16 (byteAt pkt index) (byteAt pkt (index + 1))) = word16At pkt index :=
  swap16_load16 _ _

/-! ## Layers -/

variable {m : Match}

def linkFields (m : Match) (pkt : Frame) (ethType : BitVec 16) : Match :=
  { m with dlSrc := ethAddressAt pkt 6, dlDst := ethAddressAt pkt 0, dlType := ethType }

theorem extractEthernet_eq (long : ethHeaderLen ≤ pkt.length) (type : ethTypeIIStart ≤ ethType) :
    extractEthernet m pkt ethType = .ok (linkFields m pkt ethType, some ethHeaderLen) := by
  simp only [ethHeaderLen] at long
  rw [extractEthernet, if_pos type, readEthAddress_eq (by omega), readEthAddress_eq (by omega)]
  rfl

def tagFields (m : Match) (pkt : Frame) (offset : Nat) : Match :=
  { m with
    dlVlan := word16At pkt offset &&& vlanVidMask
    dlVlanPcp := ((word16At pkt offset &&& vlanPcpMask) >>> vlanPcpShift).setWidth 8
    dlType := word16At pkt (offset + 2) }

theorem skipVlanTags_tagged (offset : Nat) (inside : vlan + vlanHeaderLen ≤ pkt.length)
    (type : m.dlType = word16At pkt (vlan + 2)) :
    skipVlanTags m pkt ethTypeVlan vlan offset = .ok (m, none) := by
  simp only [vlanHeaderLen] at inside
  rw [skipVlanTags, if_pos rfl]
  split
  · rfl
  · rename_i long
    have same : { m with dlType := ntoh16 (load16 (byteAt pkt (vlan + 2)) (byteAt pkt (vlan + 2 + 1))) } = m := by
      rw [ntoh16_load16, ← type]
    rw [read16_eq (by omega)]
    show skipVlanTags { m with dlType := _ } pkt ethTypeVlan vlan (offset + vlanHeaderLen) = _
    rw [same]
    exact skipVlanTags_tagged _ inside type
termination_by pkt.length - offset
decreasing_by simp only [vlanHeaderLen] at *; omega

theorem extractVlan_tagged (inside : offset + vlanHeaderLen ≤ pkt.length) :
    extractVlan m pkt ethTypeVlan offset = .ok (tagFields m pkt offset, none) := by
  have long := inside
  simp only [vlanHeaderLen] at long
  rw [extractVlan, if_pos rfl, if_neg (Nat.not_lt.mpr inside), read16_eq (by omega), read16_eq (by omega)]
  have skipped : skipVlanTags (tagFields m pkt offset) pkt ethTypeVlan offset (offset + vlanHeaderLen) = _ :=
    skipVlanTags_tagged _ inside rfl
  rw [← skipped, tagFields, ← ntoh16_load16, ← ntoh16_load16]
  rfl

theorem extractVlan_untagged (untagged : ethType ≠ ethTypeVlan) :
    extractVlan m pkt ethType offset = .ok ({ m with dlVlan := 0xffff }, some offset) := by
  rw [extractVlan, if_neg untagged, skipVlanTags, if_neg untagged]
  rfl

def transportFields (m : Match) (pkt : Frame) (nextProto : Byte) (offset : Nat) : Match :=
  if nextProto = ipTypeIcmp then
    if pkt.length < offset + icmpHeaderLen then m
    else { m with tpSrc := (byteAt pkt offset).setWidth 16, tpDst := (byteAt pkt (offset + 1)).setWidth 16 }
  else if nextProto = ipTypeTcp then
    if pkt.length < offset + tcpHeaderLen then m
    else { m with tpSrc := word16At pkt offset, tpDst := word16At pkt (offset + 2) }
  else if nextProto = ipTypeUdp then
    if pkt.length < offset + udpHeaderLen then m
    else { m with tpSrc := word16At pkt offset, tpDst := word16At pkt (offset + 2) }
  else m

theorem extractTransport_eq (nextProto : Byte) :
    extractTransport m pkt nextProto offset = .ok (transportFields m pkt nextProto offset) := by
  unfold extractTransport transportFields
  split_ifs with icmp shortIcmp tcp shortTcp udp shortUdp
  · rfl
  · simp only [icmpHeaderLen] at shortIcmp
    rw [readByte_eq (by omega), readByte_eq (by omega)]
    rfl
  · rfl
  · simp only [tcpHeaderLen] at shortTcp
    rw [read16_eq (by omega), read16_eq (by omega), ← ntoh16_load16, ← ntoh16_load16]
    rfl
  · rfl
  · simp only [udpHeaderLen] at shortUdp
    rw [read16_eq (by omega), read16_eq (by omega), ← ntoh16_load16, ← ntoh16_load16]
    rfl
  · rfl

def fragmentAt (pkt : Frame) (index : Nat) : Bool :=
  word16At pkt index &&& (ipMoreFragments ||| ipFragOffMask) != 0

theorem ipIsFragment_load16 :
    ipIsFragment (load16 (byteAt pkt index) (byteAt pkt (index + 1))) = fragmentAt pkt index := by
  have swapped (word flags : BitVec 16) : (word &&& hton16 flags != 0) = (swap16 word &&& flags != 0) := by
    rw [Bool.eq_iff_iff, bne_iff_ne, bne_iff_ne, hton16, ← swap16_eq_zero.ne, swap16_and, swap16_swap16]
  rw [ipIsFragment, swapped, swap16_load16, fragmentAt, word16At]

def networkFields (m : Match) (pkt : Frame) (ethType : BitVec 16) (offset : Nat) : Match :=
  if ethType = ethTypeArp then
    if pkt.length < offset + arpEthHeaderLen then m
    else
      { m with nwSrc := word32At pkt (offset + 14), nwDst := word32At pkt (offset + 24),
               nwProto := byteAt pkt (offset + 7) }
  else if ethType = ethTypeIp then
    if pkt.length < offset + ipHeaderLen then m
    else
      let m := { m with nwSrc := word32At pkt (offset + 12), nwDst := word32At pkt (offset + 16),
                        nwProto := byteAt pkt (offset + 9), nwTos := byteAt pkt (offset + 1) >>> 2 }
      if fragmentAt pkt (offset + 6) then m
      else transportFields m pkt (byteAt pkt (offset + 9)) (offset + ipHeaderLen)
  else m

theorem extractNetwork_eq : extractNetwork m pkt ethType offset = .ok (networkFields m pkt ethType offset) := by
  unfold extractNetwork networkFields
  split_ifs with arp shortArp ip shortIp fragment
  · rfl
  · simp only [arpEthHeaderLen] at shortArp
    have low : (ntoh16 (load16 (byteAt pkt (offset + 6)) (byteAt pkt (offset + 7)))).setWidth 8 =
        byteAt pkt (offset + 7) := by
      rw [ntoh16, swap16_load16]
      exact BitVec.setWidth_append_eq_right
    rw [← low, read32_eq (by omega), read32_eq (by omega), read16_eq (by omega)]
    rfl
  · rfl
  · simp only [ipHeaderLen] at shortIp
    rw [read32_eq (by omega), read32_eq (by omega), readByte_eq (by omega), readByte_eq (by omega),
      read16_eq (by omega)]
    show (if ipIsFragment (load16 _ _) then _ else _) = _
    rw [ipIsFragment_load16, if_pos fragment]
    rfl
  · simp only [ipHeaderLen] at shortIp
    rw [read32_eq (by omega), read32_eq (by omega), readByte_eq (by omega), readByte_eq (by omega),
      read16_eq (by omega), ← extractTransport_eq]
    show (if ipIsFragment (load16 _ _) then _ else _) = _
    rw [ipIsFragment_load16, if_neg fragment]
  · rfl

/-! ## Frames -/

/-- A read outside the frame fails, and the decoder never fails. -/
theorem extractFlowFields_reads_inside (m : Match) (pkt : Frame) :
    (∀ index, pkt.length ≤ index → readByte pkt index = .error index) ∧
      ∃ r, extractFlowFields m pkt = .ok r :=
  ⟨fun _ => readByte_outside, extractFlowFields_total m pkt⟩

theorem extractFlowFields_untagged (long : ethHeaderLen ≤ pkt.length) (type : ethTypeIIStart ≤ word16At pkt 12)
    (untagged : word16At pkt 12 ≠ ethTypeVlan) :
    extractFlowFields m pkt =
      .ok (networkFields { linkFields m pkt (word16At pkt 12) with dlVlan := 0xffff } pkt (word16At pkt 12)
        ethHeaderLen) := by
  have type' : read16 pkt 12 = _ := read16_eq (by simp only [ethHeaderLen] at long; omega)
  rw [extractFlowFields, if_neg (Nat.not_lt.mpr long), type', ← extractNetwork_eq]
  show extractEthernet m pkt (ntoh16 (load16 _ _)) >>= _ = _
  rw [ntoh16_load16, extractEthernet_eq long type]
  show extractVlan _ pkt _ ethHeaderLen >>= _ = _
  rw [extractVlan_untagged untagged]
  rfl

theorem extractFlowFields_tagged (long : ethHeaderLen + vlanHeaderLen ≤ pkt.length)
    (tagged : word16At pkt 12 = ethTypeVlan) :
    extractFlowFields m pkt = .ok (tagFields (linkFields m pkt ethTypeVlan) pkt ethHeaderLen) := by
  have header : ethHeaderLen ≤ pkt.length := by omega
  have type : read16 pkt 12 = _ := read16_eq (by simp only [ethHeaderLen] at header; omega)
  rw [extractFlowFields, if_neg (Nat.not_lt.mpr header), type]
  show extractEthernet m pkt (ntoh16 (load16 _ _)) >>= _ = _
  rw [ntoh16_load16, tagged, extractEthernet_eq header (by decide)]
  show extractVlan _ pkt _ ethHeaderLen >>= _ = _
  rw [extractVlan_tagged long]
  rfl

end Libfluid.Switch
