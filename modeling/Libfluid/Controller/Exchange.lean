import Libfluid.Controller.Wire

namespace Libfluid.Controller
open Library Switch

def word32Bytes (word : BitVec 32) : List Byte :=
  [word.extractLsb' 24 8, word.extractLsb' 16 8, word.extractLsb' 8 8, word.extractLsb' 0 8]

def packetInBytes (pi : PacketIn10) : Frame :=
  [Of10.ofpVersion, Of10.ofptPacketIn] ++ (word16Bytes (BitVec.ofNat 16 (18 + pi.data.length)) ++
    (word32Bytes pi.xid ++ (word32Bytes pi.bufferId ++ (word16Bytes pi.totalLen ++ (word16Bytes pi.inPort ++
      ([pi.reason, 0] ++ pi.data))))))

/-- As `readFlowMod`, of actions only the outputs. -/
def readPacketOut (bytes : List Byte) : Option PacketOut10 :=
  if 16 + (word16At bytes 14).toNat ≤ bytes.length ∧ byteAt bytes 0 = Of10.ofpVersion ∧
      byteAt bytes 1 = Of10.ofptPacketOut ∧ (word16At bytes 2).toNat = bytes.length then
    (readOutputs ((bytes.drop 16).take (word16At bytes 14).toNat)).map fun actions =>
      { xid := be32At bytes 4
        bufferId := be32At bytes 8
        inPort := word16At bytes 12
        actions := actions
        data := bytes.drop (16 + (word16At bytes 14).toNat) }
  else none

/-! ## The PACKET_IN -/

theorem length_packetInBytes (pi : PacketIn10) : (packetInBytes pi).length = 18 + pi.data.length := by
  simp only [packetInBytes, word16Bytes, word32Bytes, List.length_append, List.length_cons, List.length_nil]
  omega

theorem be32At_xid (pi : PacketIn10) : be32At (packetInBytes pi) 4 = pi.xid := load32_extract pi.xid

theorem be32At_bufferId (pi : PacketIn10) : be32At (packetInBytes pi) 8 = pi.bufferId := load32_extract pi.bufferId

theorem word16At_totalLen (pi : PacketIn10) : word16At (packetInBytes pi) 12 = pi.totalLen :=
  append_word16Bytes pi.totalLen

theorem word16At_inPort (pi : PacketIn10) : word16At (packetInBytes pi) 14 = pi.inPort :=
  append_word16Bytes pi.inPort

theorem readPacketIn_bytes (pi : PacketIn10) : readPacketIn (packetInBytes pi) = pi := by
  rw [readPacketIn, be32At_xid, be32At_bufferId, word16At_totalLen, word16At_inPort]
  rfl

/-! ## The PACKET_OUT -/

namespace RawLearningSwitch

variable {data content : Frame}

theorem readPacketOut_sent (size : (msgLen data).toNat = 24 + content.length) :
    readPacketOut (packetOutBytes data ++ content) =
      some { xid := be32At data 4, bufferId := be32At data 8, inPort := word16At data 14,
             actions := [.output ofppFlood 0], data := content } := by
  have actionsLen := actionsLen_sent data content
  have eight : (8 : BitVec 16).toNat = 8 := rfl
  have xid : be32At (packetOutBytes data ++ content) 4 = be32At data 4 := swap32_load32 _ _ _ _
  have bufferId : be32At (packetOutBytes data ++ content) 8 = be32At data 8 := swap32_load32 _ _ _ _
  have inPort : word16At (packetOutBytes data ++ content) 12 = word16At data 14 := swap16_load16 _ _
  have whole : (packetOutBytes data ++ content).length = 24 + content.length := by
    rw [List.length_append, length_packetOutBytes]
  have accepted : 16 + (word16At (packetOutBytes data ++ content) 14).toNat ≤
        (packetOutBytes data ++ content).length ∧
      byteAt (packetOutBytes data ++ content) 0 = Of10.ofpVersion ∧
      byteAt (packetOutBytes data ++ content) 1 = Of10.ofptPacketOut ∧
      (word16At (packetOutBytes data ++ content) 2).toNat = (packetOutBytes data ++ content).length := by
    rw [actionsLen, whole, msgLen_sent, size]
    exact ⟨Nat.le_add_right 24 _, rfl, rfl, rfl⟩
  have outputs : readOutputs (((packetOutBytes data ++ content).drop 16).take 8) = some [.output ofppFlood 0] := by
    show readOutputs floodAction.bytes = _
    decide
  have behind : (packetOutBytes data ++ content).drop 24 = content := List.drop_left' (length_packetOutBytes data)
  rw [readPacketOut, if_pos accepted, actionsLen, eight, outputs, Option.map_some, xid, bufferId, inPort, behind]

theorem flood_reads {pi : PacketIn10} (short : pi.totalLen.toNat ≤ 65511)
    (inside : pi.totalLen.toNat ≤ 18 + pi.data.length) :
    ∃ sent content, flood (packetInBytes pi) = .ok sent ∧
      readPacketOut sent = some { xid := pi.xid, bufferId := pi.bufferId, inPort := pi.inPort,
                                  actions := [.output ofppFlood 0], data := content } := by
  have long : 18 ≤ (packetInBytes pi).length := by
    rw [length_packetInBytes]
    omega
  rw [← word16At_totalLen] at short inside
  rw [← length_packetInBytes] at inside
  have size : (msgLen (packetInBytes pi)).toNat =
      24 + ((packetInBytes pi).take (word16At (packetInBytes pi) 12).toNat).length := by
    rw [msgLen_toNat, List.length_take_of_le inside]
    omega
  refine ⟨_, (packetInBytes pi).take (word16At (packetInBytes pi) 12).toNat, flood_within long short inside, ?_⟩
  rw [readPacketOut_sent size, be32At_xid, be32At_bufferId, word16At_inPort]

end RawLearningSwitch

end Libfluid.Controller
