import Libfluid.Controller.Learning
import Libfluid.Library.Buffer
import Libfluid.Switch.Encapsulation

namespace Libfluid.Controller
open Library Switch

def store16 (word : BitVec 16) : List Byte := [word.extractLsb' 0 8, word.extractLsb' 8 8]

def store32 (word : BitVec 32) : List Byte :=
  [word.extractLsb' 0 8, word.extractLsb' 8 8, word.extractLsb' 16 8, word.extractLsb' 24 8]

namespace Of10

def ofpVersion : Byte := 0x01
def ofptPacketIn : Byte := 10
def ofptPacketOut : Byte := 13
def ofpatOutput : BitVec 16 := 0

end Of10

structure OfpHeader where
  version : Byte
  type : Byte
  length : BitVec 16
  xid : BitVec 32
deriving DecidableEq, Repr

structure OfpPacketOut where
  header : OfpHeader
  bufferId : BitVec 32
  inPort : BitVec 16
  actionsLen : BitVec 16
deriving DecidableEq, Repr

structure OfpActionOutput where
  type : BitVec 16
  len : BitVec 16
  port : BitVec 16
  maxLen : BitVec 16
deriving DecidableEq, Repr

def OfpPacketOut.bytes (po : OfpPacketOut) : List Byte :=
  [po.header.version, po.header.type] ++ store16 po.header.length ++ store32 po.header.xid ++
    store32 po.bufferId ++ store16 po.inPort ++ store16 po.actionsLen

def OfpActionOutput.bytes (act : OfpActionOutput) : List Byte :=
  store16 act.type ++ store16 act.len ++ store16 act.port ++ store16 act.maxLen

namespace RawLearningSwitch

def floodAction : OfpActionOutput where
  type := Of10.ofpatOutput
  len := hton16 8
  port := hton16 ofppFlood
  maxLen := 0

/-- The words that are copied from the message keep their byte order. -/
def flood (data : Frame) : Except OutOfBounds (List Byte) := do
  let totalLen ← (read16 data 12).mapError .read
  let msgLen : BitVec 16 := 16 + 8 + ntoh16 totalLen
  let raw := List.replicate msgLen.toNat 0
  let xid ← (read32 data 4).mapError .read
  let bufferId ← (read32 data 8).mapError .read
  let inPort ← (read16 data 14).mapError .read
  let po : OfpPacketOut :=
    { header := { version := Of10.ofpVersion, type := Of10.ofptPacketOut, length := hton16 msgLen, xid := xid }
      bufferId := bufferId
      inPort := inPort
      actionsLen := hton16 8 }
  let raw ← writeRange raw 0 po.bytes
  let raw ← writeRange raw 16 floodAction.bytes
  -- The copy starts at the header of the message, not at the frame.
  let content ← readRange data 0 (ntoh16 totalLen).toNat
  writeRange raw (16 + 8) content

variable {data sent : Frame}

/-! ## The message that is built -/

def msgLen (data : Frame) : BitVec 16 := 16 + 8 + word16At data 12

def packetOut (data : Frame) : OfpPacketOut where
  header :=
    { version := Of10.ofpVersion, type := Of10.ofptPacketOut, length := hton16 (msgLen data), xid := word32At data 4 }
  bufferId := word32At data 8
  inPort := load16 (byteAt data 14) (byteAt data 15)
  actionsLen := hton16 8

theorem msgLen_toNat (data : Frame) : (msgLen data).toNat = (24 + (word16At data 12).toNat) % 65536 := by
  rw [msgLen, BitVec.toNat_add]
  rfl

theorem flood_eq (long : 18 ≤ data.length) :
    flood data =
      (writeRange (List.replicate (msgLen data).toNat 0) 0 (packetOut data).bytes >>= fun raw =>
        writeRange raw 16 floodAction.bytes >>= fun raw =>
          readRange data 0 (word16At data 12).toNat >>= fun content => writeRange raw 24 content) := by
  rw [flood, read16_eq (by omega), read32_eq (by omega), read32_eq (by omega), read16_eq (by omega)]
  show (writeRange (List.replicate (16 + 8 + ntoh16 (load16 _ _)).toNat 0) 0 _ >>= _) = _
  rw [ntoh16_load16]
  rfl

def packetOutBytes (data : Frame) : List Byte := (packetOut data).bytes ++ floodAction.bytes

theorem flood_within (long : 18 ≤ data.length) (short : (word16At data 12).toNat ≤ 65511)
    (inside : (word16At data 12).toNat ≤ data.length) :
    flood data = .ok (packetOutBytes data ++ data.take (word16At data 12).toNat) := by
  have size : (msgLen data).toNat = 24 + (word16At data 12).toNat := by
    rw [msgLen_toNat]
    omega
  have headerLen : (packetOut data).bytes.length = 16 := rfl
  have actionLen : floodAction.bytes.length = 8 := rfl
  have content : (data.take (word16At data 12).toNat).length = (word16At data 12).toNat :=
    List.length_take_of_le inside
  have copied : readRange data 0 (word16At data 12).toNat = .ok (data.take (word16At data 12).toNat) :=
    readRange_eq_ok.mpr ⟨by omega, rfl⟩
  have writeHeader : writeRange (List.replicate (msgLen data).toNat 0) 0 (packetOut data).bytes = .ok _ :=
    writeRange_fill [] rfl (by omega)
  rw [flood_eq long, writeHeader, ok_bind, List.nil_append, writeRange_fill _ headerLen (by omega), ok_bind, copied,
    ok_bind, writeRange_fill _ (by rw [List.length_append]; omega) (by omega), content, size, headerLen, actionLen]
  have filled : 24 + (word16At data 12).toNat - 16 - 8 - (word16At data 12).toNat = 0 := by omega
  rw [filled, List.replicate_zero, List.append_nil]
  rfl

theorem bounds_of_flood (long : 18 ≤ data.length) (built : flood data = .ok sent) :
    (word16At data 12).toNat ≤ 65511 ∧ (word16At data 12).toNat ≤ data.length := by
  rw [flood_eq long] at built
  obtain ⟨raw, header, built⟩ := bind_eq_ok.mp built
  obtain ⟨raw', action, built⟩ := bind_eq_ok.mp built
  obtain ⟨content, copied, -⟩ := bind_eq_ok.mp built
  have room := (writeRange_eq_ok.mp action).1
  have inside := (readRange_eq_ok.mp copied).1
  have bound := (word16At data 12).isLt
  rw [length_of_writeRange header, List.length_replicate, msgLen_toNat] at room
  change 16 + 8 ≤ _ at room
  omega

theorem flood_eq_ok (long : 18 ≤ data.length) :
    flood data = .ok sent ↔ (word16At data 12).toNat ≤ 65511 ∧ (word16At data 12).toNat ≤ data.length ∧
      sent = packetOutBytes data ++ data.take (word16At data 12).toNat := by
  constructor
  · intro built
    obtain ⟨short, inside⟩ := bounds_of_flood long built
    cases built.symm.trans (flood_within long short inside)
    exact ⟨short, inside, rfl⟩
  · rintro ⟨short, inside, rfl⟩
    exact flood_within long short inside

/-! ## The frame behind the header -/

/-- A PACKET_IN in a buffer of its own length, for a packet that the switch does not keep. -/
structure WellFormed (data : Frame) : Prop where
  long : 18 ≤ data.length
  version : byteAt data 0 = Of10.ofpVersion
  type : byteAt data 1 = Of10.ofptPacketIn
  length : (word16At data 2).toNat = data.length
  unbuffered : word32At data 8 = noBuffer
  totalLen : data.length - 18 ≤ (word16At data 12).toNat

/-- A PACKET_OUT that tells its own length, floods, and carries the frame of the PACKET_IN. -/
structure Floods (data sent : Frame) : Prop where
  version : byteAt sent 0 = Of10.ofpVersion
  type : byteAt sent 1 = Of10.ofptPacketOut
  length : (word16At sent 2).toNat = sent.length
  actions : ∃ maxLen, (sent.drop 16).take (word16At sent 14).toNat =
    word16Bytes Of10.ofpatOutput ++ word16Bytes 8 ++ word16Bytes ofppFlood ++ word16Bytes maxLen
  frame : sent.drop (16 + (word16At sent 14).toNat) = data.drop 18

def SendsFrame (data : Frame) : Prop := ∃ sent, flood data = .ok sent ∧ Floods data sent

theorem length_packetOutBytes (data : Frame) : (packetOutBytes data).length = 24 := rfl

theorem msgLen_sent (data content : Frame) : word16At (packetOutBytes data ++ content) 2 = msgLen data :=
  swap16_swap16 (msgLen data)

theorem actionsLen_sent (data content : Frame) : word16At (packetOutBytes data ++ content) 14 = 8 := swap16_swap16 8

theorem floods_iff {content : Frame} (size : (msgLen data).toNat = 24 + content.length) :
    Floods data (packetOutBytes data ++ content) ↔ content = data.drop 18 := by
  constructor
  · intro floods
    have same := floods.frame
    rw [actionsLen_sent] at same
    exact same
  · intro same
    constructor
    · rfl
    · rfl
    · rw [msgLen_sent, size, List.length_append, length_packetOutBytes]
    · rw [actionsLen_sent]
      exact ⟨0, rfl⟩
    · rw [actionsLen_sent]
      exact same

theorem sendsFrame_iff (data : Frame) (wellFormed : WellFormed data) :
    SendsFrame data ↔ (word16At data 12).toNat = data.length - 18 ∧ (word16At data 12).toNat ≤ 65511 ∧
      data.take (data.length - 18) = data.drop 18 := by
  have long := wellFormed.long
  have size (short : (word16At data 12).toNat ≤ 65511) (inside : (word16At data 12).toNat ≤ data.length) :
      (msgLen data).toNat = 24 + (data.take (word16At data 12).toNat).length := by
    rw [msgLen_toNat, List.length_take_of_le inside]
    omega
  constructor
  · rintro ⟨sent, built, floods⟩
    obtain ⟨short, inside, rfl⟩ := (flood_eq_ok long).mp built
    have frame := (floods_iff (size short inside)).mp floods
    have lengths := congrArg List.length frame
    rw [List.length_take_of_le inside, List.length_drop] at lengths
    rw [lengths] at frame
    exact ⟨lengths, short, frame⟩
  · rintro ⟨whole, short, frame⟩
    have inside : (word16At data 12).toNat ≤ data.length := by omega
    rw [← whole] at frame
    exact ⟨_, (flood_eq_ok long).mpr ⟨short, inside, rfl⟩, (floods_iff (size short inside)).mpr frame⟩

def sampleHeader (msgLen totalLen : Byte) : List Byte :=
  [1, 10, 0, msgLen, 0, 0, 0, 7, 0xff, 0xff, 0xff, 0xff, 0, totalLen, 0, 1, 0, 0]

theorem repeated_header_sent : SendsFrame (sampleHeader 36 18 ++ sampleHeader 36 18) := by
  apply (sendsFrame_iff _ ⟨by decide, rfl, rfl, rfl, rfl, by decide⟩).mpr
  exact ⟨rfl, by decide, rfl⟩

def arpRequest : Frame :=
  List.replicate 6 0xff ++ [0, 0, 0, 0, 0, 1, 8, 6] ++ [0, 1, 8, 0, 6, 4, 0, 1] ++
    [0, 0, 0, 0, 0, 1, 10, 0, 0, 1] ++ [0, 0, 0, 0, 0, 0, 10, 0, 0, 2]

theorem arp_frame_not_sent :
    WellFormed (sampleHeader 60 42 ++ arpRequest) ∧ ¬ SendsFrame (sampleHeader 60 42 ++ arpRequest) := by
  have wellFormed : WellFormed (sampleHeader 60 42 ++ arpRequest) := ⟨by decide, rfl, rfl, rfl, rfl, by decide⟩
  refine ⟨wellFormed, ?_⟩
  rintro ⟨sent, built, floods⟩
  obtain ⟨-, -, rfl⟩ := (flood_eq_ok wellFormed.long).mp built
  exact absurd floods.frame (by decide)

end RawLearningSwitch

end Libfluid.Controller
