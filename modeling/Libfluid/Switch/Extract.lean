import Libfluid.Switch.Match

/-!
# Header extraction

The decoder of captured frames. Every byte is read through `readByte`, which fails outside the frame,
so a run without an error reads the frame only.
-/

namespace Libfluid.Switch
open Library

abbrev Frame := List Byte

def ethTypeIIStart : BitVec 16 := 0x0600
def ethTypeIp : BitVec 16 := 0x0800
def ethTypeArp : BitVec 16 := 0x0806
def ethTypeVlan : BitVec 16 := 0x8100
def ethHeaderLen : Nat := 14
def llcHeaderLen : Nat := 3
def snapHeaderLen : Nat := 5
def vlanHeaderLen : Nat := 4
def arpEthHeaderLen : Nat := 28
def ipHeaderLen : Nat := 20
def icmpHeaderLen : Nat := 4
def tcpHeaderLen : Nat := 20
def udpHeaderLen : Nat := 8
def llcDsapSnap : Byte := 0xaa
def llcSsapSnap : Byte := 0xaa
def llcCntlSnap : Byte := 3
def vlanVidMask : BitVec 16 := 0x0fff
def vlanPcpMask : BitVec 16 := 0xe000
def vlanPcpShift : Nat := 13
def ipTypeIcmp : Byte := 1
def ipTypeTcp : Byte := 6
def ipTypeUdp : Byte := 17
def ipMoreFragments : BitVec 16 := 0x2000
def ipFragOffMask : BitVec 16 := 0x1fff

def ntoh16 (word : BitVec 16) : BitVec 16 := swap16 word

def hton16 (word : BitVec 16) : BitVec 16 := swap16 word

def ipIsFragment (ipFragOff : BitVec 16) : Bool :=
  ipFragOff &&& hton16 (ipMoreFragments ||| ipFragOffMask) != 0

def readByte (pkt : Frame) (index : Nat) : Except Nat Byte :=
  match pkt[index]? with
  | some byte => .ok byte
  | none => .error index

def read16 (pkt : Frame) (index : Nat) : Except Nat (BitVec 16) := do
  let b₀ ← readByte pkt index
  let b₁ ← readByte pkt (index + 1)
  return load16 b₀ b₁

def read32 (pkt : Frame) (index : Nat) : Except Nat (BitVec 32) := do
  let b₀ ← readByte pkt index
  let b₁ ← readByte pkt (index + 1)
  let b₂ ← readByte pkt (index + 2)
  let b₃ ← readByte pkt (index + 3)
  return load32 b₀ b₁ b₂ b₃

def readEthAddress (pkt : Frame) (index : Nat) : Except Nat EthAddress := do
  let b₀ ← readByte pkt index
  let b₁ ← readByte pkt (index + 1)
  let b₂ ← readByte pkt (index + 2)
  let b₃ ← readByte pkt (index + 3)
  let b₄ ← readByte pkt (index + 4)
  let b₅ ← readByte pkt (index + 5)
  return ⟨b₀, b₁, b₂, b₃, b₄, b₅⟩

def extractEthernet (m : Match) (pkt : Frame) (ethType : BitVec 16) :
    Except Nat (Match × Option Nat) :=
  let offset := ethHeaderLen
  if ethTypeIIStart ≤ ethType then do
    let ethSrc ← readEthAddress pkt 6
    let ethDst ← readEthAddress pkt 0
    return ({ m with dlSrc := ethSrc, dlDst := ethDst, dlType := ethType }, some offset)
  else if pkt.length < offset + llcHeaderLen then return (m, none)
  else do
    let dsap ← readByte pkt offset
    let ssap ← readByte pkt (offset + 1)
    let cntl ← readByte pkt (offset + 2)
    let offset := offset + llcHeaderLen
    if !(dsap == llcDsapSnap && ssap == llcSsapSnap && cntl == llcCntlSnap) then return (m, none)
    else if pkt.length < offset + snapHeaderLen then return (m, none)
    else do
      let org₀ ← readByte pkt offset
      let org₁ ← readByte pkt (offset + 1)
      let org₂ ← readByte pkt (offset + 2)
      let offset := offset + snapHeaderLen
      if !(org₀ == 0 && org₁ == 0 && org₂ == 0) then return (m, none)
      else do
        let ethSrc ← readEthAddress pkt 6
        let ethDst ← readEthAddress pkt 0
        -- The source passes both addresses to the setter of the source address.
        let m := { m with dlSrc := ethSrc }
        return ({ m with dlSrc := ethDst, dlType := ethType }, some offset)

/-- The loop over the remaining tags. Its condition and the type it stores stay those of the first. -/
def skipVlanTags (m : Match) (pkt : Frame) (ethType : BitVec 16) (vlan offset : Nat) :
    Except Nat (Match × Option Nat) :=
  if ethType = ethTypeVlan then
    if _short : pkt.length < offset + vlanHeaderLen then return (m, none)
    else do
      let vlanNextType ← read16 pkt (vlan + 2)
      skipVlanTags { m with dlType := ntoh16 vlanNextType } pkt ethType vlan (offset + vlanHeaderLen)
  else return (m, some offset)
termination_by pkt.length - offset
decreasing_by simp only [vlanHeaderLen] at *; omega

def extractVlan (m : Match) (pkt : Frame) (ethType : BitVec 16) (offset : Nat) :
    Except Nat (Match × Option Nat) :=
  if ethType = ethTypeVlan then
    if pkt.length < offset + vlanHeaderLen then return (m, none)
    else do
      let vlanTci ← read16 pkt offset
      let vlanNextType ← read16 pkt (offset + 2)
      let vlanPcp := (ntoh16 vlanTci &&& vlanPcpMask) >>> vlanPcpShift
      skipVlanTags
        { m with dlVlan := ntoh16 vlanTci &&& vlanVidMask, dlVlanPcp := vlanPcp.setWidth 8,
                 dlType := ntoh16 vlanNextType }
        pkt ethType offset (offset + vlanHeaderLen)
  else skipVlanTags { m with dlVlan := 0xffff } pkt ethType 0 offset

def extractTransport (m : Match) (pkt : Frame) (nextProto : Byte) (offset : Nat) : Except Nat Match :=
  if nextProto = ipTypeIcmp then
    if pkt.length < offset + icmpHeaderLen then return m
    else do
      let icmpType ← readByte pkt offset
      let icmpCode ← readByte pkt (offset + 1)
      return { m with tpSrc := icmpType.setWidth 16, tpDst := icmpCode.setWidth 16 }
  else if nextProto = ipTypeTcp then
    if pkt.length < offset + tcpHeaderLen then return m
    else do
      let tcpSrc ← read16 pkt offset
      let tcpDst ← read16 pkt (offset + 2)
      return { m with tpSrc := ntoh16 tcpSrc, tpDst := ntoh16 tcpDst }
  else if nextProto = ipTypeUdp then
    if pkt.length < offset + udpHeaderLen then return m
    else do
      let udpSrc ← read16 pkt offset
      let udpDst ← read16 pkt (offset + 2)
      return { m with tpSrc := ntoh16 udpSrc, tpDst := ntoh16 udpDst }
  else return m

def extractNetwork (m : Match) (pkt : Frame) (ethType : BitVec 16) (offset : Nat) : Except Nat Match :=
  if ethType = ethTypeArp then
    if pkt.length < offset + arpEthHeaderLen then return m
    else do
      let arSpa ← read32 pkt (offset + 14)
      let arTpa ← read32 pkt (offset + 24)
      let arOp ← read16 pkt (offset + 6)
      return { m with nwSrc := arSpa, nwDst := arTpa, nwProto := (ntoh16 arOp).setWidth 8 }
  else if ethType = ethTypeIp then
    if pkt.length < offset + ipHeaderLen then return m
    else do
      let ipSrc ← read32 pkt (offset + 12)
      let ipDst ← read32 pkt (offset + 16)
      let ipProto ← readByte pkt (offset + 9)
      let ipTos ← readByte pkt (offset + 1)
      let ipFragOff ← read16 pkt (offset + 6)
      let m := { m with nwSrc := ipSrc, nwDst := ipDst, nwProto := ipProto, nwTos := ipTos >>> 2 }
      if ipIsFragment ipFragOff then return m
      else extractTransport m pkt ipProto (offset + ipHeaderLen)
  else extractTransport m pkt 0 offset

def extractFlowFields (m : Match) (pkt : Frame) : Except Nat Match :=
  if pkt.length < ethHeaderLen then return m
  else do
    let ethType := ntoh16 (← read16 pkt 12)
    match ← extractEthernet m pkt ethType with
    | (m, none) => return m
    | (m, some offset) =>
      match ← extractVlan m pkt ethType offset with
      | (m, none) => return m
      | (m, some offset) => extractNetwork m pkt ethType offset

end Libfluid.Switch
