import Libfluid.Multicast.Payload
import Libfluid.Multicast.Service
import Libfluid.Multicast.Tree

namespace Libfluid.Multicast
open Library Switch Controller MulticastGroupMembershipApp

variable {frame : Frame} {port : BitVec 32} {maxLen : BitVec 16}

/-- What the flows of a switch see of a frame. -/
def DataPacket.ofFrame (frame : Frame) : DataPacket where
  ethType := word16At frame 12
  ethDst := ethAddressAt frame 0
  ipProto := byteAt frame 23
  ipv4Src := word32At frame 26
  ipv4Dst := word32At frame 30
  udpSrc := word16At frame (transportStart frame)
  udpDst := word16At frame (transportStart frame + 2)
  payload := frame.drop (transportStart frame + udpHeaderLen)

structure Handover where
  xid : BitVec 32
  bufferId : BitVec 32
deriving DecidableEq, Repr

namespace Handover

/-- Of a frame that the switch keeps the message has the start only. -/
def packetIn (handover : Handover) (port : BitVec 32) (frame : Frame) (maxLen : BitVec 16) : PacketIn13 where
  xid := handover.xid
  bufferId := handover.bufferId
  inPort := some port
  data := if handover.bufferId = noBuffer then frame else frame.take maxLen.toNat

def buffered (handover : Handover) (frame : Frame) (id : BitVec 32) : Option Frame :=
  if id = handover.bufferId then some frame else none

end Handover

def Outgoing.toSwitch : Outgoing → Option Message
  | .message m => some m
  | .roleRequest .. => none

def messagesOn (ofconn : OFConnection) (sent : Sent) : List Message :=
  (sent.filter fun entry => entry.1 = ofconn).filterMap fun entry => entry.2.toSwitch

/-- A frame is not sent back by the port that it came in by. -/
def PacketOut.framesOn (po : PacketOut) (port : BitVec 32) (buffered : BitVec 32 → Option Frame) : List Frame :=
  if po.inPort = port then []
  else (po.actions.filter fun action => action.outputsTo port).flatMap fun _ =>
    if po.bufferId = noBuffer then [po.data] else (buffered po.bufferId).toList

def Message.framesOn (port : BitVec 32) (buffered : BitVec 32 → Option Frame) : Message → List Frame
  | .packetOut po => po.framesOn port buffered
  | .groupMod _ | .flowMod _ => []

/-- A frame with all that it announces, and the word behind the UDP header that the agent reads. -/
structure WellFormed (frame : Frame) : Prop where
  complete : CompleteFrame frame
  readable : Readable frame

/-! ## The request in a frame -/

theorem transportStart_le (frame : Frame) : transportStart frame ≤ 74 := by
  have nibble : (byteAt frame 14 &&& 15).toNat ≤ 15 := by
    rw [BitVec.toNat_and]
    exact Nat.and_le_right
  show 14 + 4 * (byteAt frame 14 &&& 15).toNat ≤ 74
  omega

section
variable {k index : Nat}

theorem word16At_take (inside : index + 2 ≤ k) : word16At (frame.take k) index = word16At frame index := by
  rw [word16At, byteAt_take (by omega), byteAt_take (by omega), word16At]

theorem word32At_take (inside : index + 4 ≤ k) : word32At (frame.take k) index = word32At frame index := by
  rw [word32At, byteAt_take (by omega), byteAt_take (by omega), byteAt_take (by omega), byteAt_take (by omega),
    word32At]

theorem ethAddressAt_take (inside : index + 6 ≤ k) : ethAddressAt (frame.take k) index = ethAddressAt frame index := by
  unfold ethAddressAt
  rw [byteAt_take (by omega), byteAt_take (by omega), byteAt_take (by omega), byteAt_take (by omega),
    byteAt_take (by omega), byteAt_take (by omega)]

theorem transportStart_take (inside : 14 < k) : transportStart (frame.take k) = transportStart frame := by
  rw [transportStart, ipIhl, byteAt_take inside, transportStart, ipIhl]

/-! The agent reads the first 86 bytes at most. -/

theorem relevant_take (enough : 86 ≤ k) : Relevant (frame.take k) ↔ Relevant frame := by
  rw [Relevant, word16At_take (by omega), byteAt_take (by omega), Relevant]

theorem readable_take (readable : Readable frame) (enough : 86 ≤ k) : Readable (frame.take k) := by
  have start := transportStart_le frame
  constructor
  · rw [List.length_take, ethHeaderLen]
    have ethernet := readable.ethernet
    rw [ethHeaderLen] at ethernet
    omega
  · intro ip
    rw [word16At_take (by omega)] at ip
    have protocol := readable.protocol ip
    rw [List.length_take]
    omega
  · intro relevant
    have addresses := readable.addresses ((relevant_take enough).mp relevant)
    rw [ethHeaderLen, ipHeaderLen] at addresses ⊢
    rw [List.length_take]
    omega
  · intro ip udp
    rw [word16At_take (by omega)] at ip
    rw [byteAt_take (by omega)] at udp
    have transport := readable.transport ip udp
    rw [transportStart_take (by omega), List.length_take]
    omega

theorem transportAt_take (enough : 86 ≤ k) : transportAt (frame.take k) = transportAt frame := by
  have start := transportStart_le frame
  rw [transportAt, byteAt_take (by omega), transportAt, udpAt, transportStart_take (by omega), byteAt_take (by omega),
    byteAt_take (by omega), byteAt_take (by omega), byteAt_take (by omega), word32At_take (by omega), udpAt]

end

def requestOf (frame : Frame) : PacketInDataHeader :=
  headerAt { xid := 0, bufferId := 0, inPort := none, data := frame }

namespace Handover

variable {handover : Handover}

theorem packetIn_data (handover : Handover) (port : BitVec 32) (frame : Frame) (enough : 86 ≤ maxLen.toNat) :
    ∃ k, 86 ≤ k ∧
    (handover.packetIn port frame maxLen).data = frame.take k ∧
      (handover.bufferId = noBuffer → (handover.packetIn port frame maxLen).data = frame) := by
  by_cases whole : handover.bufferId = noBuffer
  · have same : (handover.packetIn port frame maxLen).data = frame := if_pos whole
    refine ⟨max 86 frame.length, le_max_left _ _, ?_, fun _ => same⟩
    rw [same, List.take_of_length_le (le_max_right _ _)]
  · exact ⟨maxLen.toNat, enough, if_neg whole, fun all => absurd all whole⟩

theorem headerAt_packetIn (enough : 86 ≤ maxLen.toNat) :
    headerAt (handover.packetIn port frame maxLen) =
      { requestOf frame with
        inIntf := port.setWidth 16
        ofpi := ⟨handover.xid, handover.bufferId, (handover.packetIn port frame maxLen).data⟩ } := by
  obtain ⟨k, large, part, -⟩ := packetIn_data handover port frame enough
  rw [headerAt, part, ethAddressAt_take (by omega), ethAddressAt_take (by omega), word32At_take (by omega),
    word32At_take (by omega), byteAt_take (by omega), transportAt_take large, requestOf, headerAt]
  rfl

theorem readHeader_packetIn (handover : Handover) (port : BitVec 32) (readable : Readable frame)
    (enough : 86 ≤ maxLen.toNat) :
    readHeader (handover.packetIn port frame maxLen) =
      .ok (if Relevant frame then some (headerAt (handover.packetIn port frame maxLen)) else none) := by
  obtain ⟨k, large, part, -⟩ := packetIn_data handover port frame enough
  have inside : Readable (handover.packetIn port frame maxLen).data := by
    rw [part]
    exact readable_take readable large
  have same : Relevant (handover.packetIn port frame maxLen).data ↔ Relevant frame := by
    rw [part]
    exact relevant_take large
  rw [readHeader_eq inside]
  simp only [same]

end Handover

structure Carries (frame : Frame) (pk : PacketInDataHeader) : Prop where
  wellFormed : WellFormed frame
  relevant : Relevant frame
  request : pk = { requestOf frame with inIntf := pk.inIntf, ofpi := pk.ofpi }

namespace Carries

variable {pk : PacketInDataHeader}

theorem sip (carries : Carries frame pk) : pk.sip = word32At frame 26 := by
  rw [carries.request]
  rfl

theorem dip (carries : Carries frame pk) : pk.dip = word32At frame 30 := by
  rw [carries.request]
  rfl

theorem udp_iff (carries : Carries frame pk) : pk.protocol ≠ protocolTypeIgmp ↔ byteAt frame 23 = ipTypeUdp := by
  have protocol : pk.protocol = protocolTypeIgmp ↔ byteAt frame 23 = ipTypeIgmp := by
    rw [carries.request]
    exact protocol_igmp_iff _
  rw [Ne, protocol]
  constructor
  · exact carries.relevant.2.resolve_left
  · intro udp igmp
    rw [udp] at igmp
    exact absurd igmp (by decide)

theorem joiner (carries : Carries frame pk) :
    pk.joiner = { mac := ethAddressAt frame 6, ip := word32At frame 26 } := by
  have smac : pk.smac = macKey (ethAddressAt frame 6) := by
    rw [carries.request]
    rfl
  rw [PacketInDataHeader.joiner, carries.sip, smac, ethAddressOf_macKey]

theorem ports (carries : Carries frame pk) (udp : byteAt frame 23 = ipTypeUdp) :
    pk.usrcPort = word16At frame (transportStart frame) ∧ pk.udstPort = word16At frame (transportStart frame + 2) := by
  have fields : transportAt frame = udpAt frame := if_pos udp
  rw [carries.request]
  constructor
  · show ntoh16 (transportAt frame).usrcPort = _
    rw [fields]
    exact ntoh16_load16
  · show ntoh16 (transportAt frame).udstPort = _
    rw [fields]
    exact ntoh16_load16

theorem of_handover {handover : Handover} (wellFormed : WellFormed frame) (relevant : Relevant frame)
    (enough : 86 ≤ maxLen.toNat) : Carries frame (headerAt (handover.packetIn port frame maxLen)) := by
  refine ⟨wellFormed, relevant, ?_⟩
  rw [Handover.headerAt_packetIn enough]

end Carries

/-! ## What an agent sends up -/

section
variable {app : MulticastGroupMembershipApp} {pk : PacketInDataHeader} {sent : List Message}

theorem packetOut_sent (good : app.Good) {po : PacketOut} (member : .packetOut po ∈ (app.handlePacketIn pk).2) :
    ∃ mcg : MCGroup, .packetOut po = mcg.sendUpstreamPacketOut pk := by
  have acts : app.Acts (.packet pk) (app.handlePacketIn pk).1 (app.handlePacketIn pk).2 := step_acts good (.packet pk)
  generalize (app.handlePacketIn pk).1 = app', (app.handlePacketIn pk).2 = sent at acts member
  cases acts with
  | nothing => cases member
  | opened notPacket => exact absurd rfl (notPacket pk)
  | @joined _ mcg session gen =>
      refine ⟨mcg, ?_⟩
      simp only [joinMessages, List.mem_append, List.mem_ite_nil_right, List.mem_singleton, reduceCtorEq, and_false,
        or_false] at member
      exact member.2
  | @left _ mcg session mcgm gen =>
      refine ⟨mcg, ?_⟩
      simp only [leaveMessages, List.mem_append, List.mem_ite_nil_right, List.mem_singleton, reduceCtorEq, and_false,
        or_false] at member
      exact member.2

theorem framesOn_upstream {handover : Handover} (mcg : MCGroup) {up : BitVec 32} (narrow : port.toNat < 256)
    (apart : port ≠ up) (enough : 86 ≤ maxLen.toNat) (read : pk = headerAt (handover.packetIn port frame maxLen)) :
    (mcg.sendUpstreamPacketOut pk).framesOn up (handover.buffered frame) =
      if (mcg.sendUpstreamPacketOut pk).leavesBy up then [frame] else [] := by
  have intf : pk.inIntf.setWidth 32 = port := by
    rw [read]
    show (port.setWidth 16).setWidth 32 = port
    apply BitVec.eq_of_toNat_eq
    simp only [BitVec.toNat_setWidth]
    omega
  have kept : (if pk.ofpi.bufferId = noBuffer then [if pk.ofpi.bufferId = noBuffer then pk.ofpi.data else []]
      else (handover.buffered frame pk.ofpi.bufferId).toList) = [frame] := by
    rw [read]
    by_cases whole : handover.bufferId = noBuffer
    · obtain ⟨-, -, -, all⟩ := handover.packetIn_data port frame enough
      have bufferId : (headerAt (handover.packetIn port frame maxLen)).ofpi.bufferId = noBuffer := whole
      rw [if_pos bufferId, if_pos bufferId]
      exact congrArg (fun data => [data]) (all whole)
    · have bufferId : (headerAt (handover.packetIn port frame maxLen)).ofpi.bufferId ≠ noBuffer := whole
      have same : (headerAt (handover.packetIn port frame maxLen)).ofpi.bufferId = handover.bufferId := rfl
      rw [if_neg bufferId, Handover.buffered, if_pos same]
      rfl
  simp only [MCGroup.sendUpstreamPacketOut, Message.framesOn, PacketOut.framesOn, Message.leavesBy, intf, if_neg apart,
    kept]
  by_cases upstream : mcg.upstreamIntf.setWidth 32 = up
  · simp [upstream]
  · simp [upstream]

theorem framesOn_sent {handover : Handover} (pk : PacketInDataHeader) (good : app.Good) (narrow : port.toNat < 256)
    {up : BitVec 32}
    (apart : port ≠ up) (enough : 86 ≤ maxLen.toNat) (read : pk = headerAt (handover.packetIn port frame maxLen)) :
    (app.handlePacketIn pk).2.flatMap (Message.framesOn up (handover.buffered frame)) =
      (forwarded up pk (app.handlePacketIn pk).2).map fun _ => frame := by
  have each : ∀ message ∈ (app.handlePacketIn pk).2, message.framesOn up (handover.buffered frame) =
      if message.leavesBy up then [frame] else [] := by
    intro message member
    cases message with
    | groupMod gm => rfl
    | flowMod fm => rfl
    | packetOut po =>
        obtain ⟨mcg, same⟩ := packetOut_sent good member
        rw [same]
        exact framesOn_upstream mcg narrow apart enough read
  rw [forwarded, List.map_map]
  revert each
  generalize (app.handlePacketIn pk).2 = sent
  intro each
  induction sent with
  | nil => rfl
  | cons message rest ih =>
      rw [List.flatMap_cons, each message List.mem_cons_self, ih fun m member => each m (List.mem_cons_of_mem _ member)]
      by_cases leaves : message.leavesBy up
      · rw [if_pos leaves, List.filter_cons_of_pos leaves]
        rfl
      · rw [if_neg leaves, List.filter_cons_of_neg leaves]
        rfl

end

theorem messagesOn_perform (ofconn : OFConnection) (messages : List Message) :
    messagesOn ofconn ((messages.map Outgoing.message).map fun m => (ofconn, m)) = messages := by
  rw [messagesOn]
  induction messages with
  | nil => rfl
  | cons message rest ih => simpa [Outgoing.toSwitch] using ih

end Libfluid.Multicast
