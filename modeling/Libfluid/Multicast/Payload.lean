import Libfluid.Controller.Table
import Libfluid.Multicast.Callback
import Libfluid.Multicast.Step
import Libfluid.Switch.Encapsulation

namespace Libfluid.Multicast
open Library Switch Controller

variable {data frame beyond : Frame} {ofpi : PacketIn13} {pin : Option PacketInDataHeader}

def ipTypeIgmp : Byte := 2

def Relevant (data : Frame) : Prop :=
  word16At data 12 = ethTypeIp ∧ (byteAt data 23 = ipTypeIgmp ∨ byteAt data 23 = ipTypeUdp)

instance (data : Frame) : Decidable (Relevant data) := inferInstanceAs (Decidable (_ ∧ _))

/-- Every byte that the callback reads is there. -/
structure Readable (data : Frame) : Prop where
  ethernet : ethHeaderLen ≤ data.length
  protocol : word16At data 12 = ethTypeIp → 24 ≤ data.length
  addresses : Relevant data → ethHeaderLen + ipHeaderLen ≤ data.length
  transport : word16At data 12 = ethTypeIp → byteAt data 23 = ipTypeUdp → transportStart data + 12 ≤ data.length

/-! ## The words of the callback -/

theorem protocol_eq_iff (proto known : Byte) : ntoh16 (load16 0 proto) = 0#8 ++ known ↔ proto = known := by
  rw [ntoh16, swap16_load16, append_inj]
  exact and_iff_right rfl

theorem protocol_igmp_iff (proto : Byte) : ntoh16 (load16 0 proto) = protocolTypeIgmp ↔ proto = ipTypeIgmp :=
  protocol_eq_iff proto ipTypeIgmp

theorem protocol_udp_iff (proto : Byte) : ntoh16 (load16 0 proto) = protocolTypeUdp ↔ proto = ipTypeUdp :=
  protocol_eq_iff proto ipTypeUdp

theorem ipHeaderLen_toNat (version : Byte) :
    ((ntoh16 (load16 0 version) &&& 0x0f) * 4).toNat = 4 * (version &&& 15).toNat := by
  have word : ntoh16 (load16 0 version) = version.setWidth 16 := by
    rw [ntoh16, swap16_load16]
    exact (BitVec.setWidth_eq_append (by decide)).symm
  have small : (version &&& 15).toNat ≤ 15 := by
    rw [BitVec.toNat_and]
    exact Nat.and_le_right
  have nibble : (version.setWidth 16 &&& 0x0f).toNat = (version &&& 15).toNat := by
    rw [BitVec.toNat_and, BitVec.toNat_and, BitVec.toNat_setWidth_of_le (by decide)]
    rfl
  rw [word, BitVec.toNat_mul, nibble, Nat.mul_comm]
  show 4 * (version &&& 15).toNat % 65536 = _
  exact Nat.mod_eq_of_lt (by omega)

theorem readUdp_start (data : Frame) :
    ethHlen.toNat + ((ntoh16 (load16 0 (byteAt data 14)) &&& 0x0f) * 4).toNat = transportStart data := by
  rw [ipHeaderLen_toNat]
  rfl

/-! ## The header -/

def udpAt (data : Frame) : UdpFields where
  usrcPort := load16 (byteAt data (transportStart data)) (byteAt data (transportStart data + 1))
  udstPort := load16 (byteAt data (transportStart data + 2)) (byteAt data (transportStart data + 3))
  membershipCode := (be64toh ((word32At data (transportStart data + 8)).setWidth 64)).setWidth 32

def transportAt (data : Frame) : UdpFields := if byteAt data 23 = ipTypeUdp then udpAt data else {}

def headerAt (ofpi : PacketIn13) : PacketInDataHeader where
  dmac := macKey (ethAddressAt ofpi.data 0)
  smac := macKey (ethAddressAt ofpi.data 6)
  sip := word32At ofpi.data 26
  dip := word32At ofpi.data 30
  inIntf := (ofpi.inPort.getD 0).setWidth 16
  usrcPort := ntoh16 (transportAt ofpi.data).usrcPort
  udstPort := ntoh16 (transportAt ofpi.data).udstPort
  protocol := ntoh16 (load16 0 (byteAt ofpi.data 23))
  membershipCode := (transportAt ofpi.data).membershipCode
  ofpi := { xid := ofpi.xid, bufferId := ofpi.bufferId, data := ofpi.data }

theorem readUdp_eq (inside : transportStart data + 12 ≤ data.length) :
    readUdp data ((ntoh16 (load16 0 (byteAt data 14)) &&& 0x0f) * 4) = .ok (udpAt data) := by
  rw [readUdp]
  simp only [readUdp_start]
  rw [read16_eq (by omega), read16_eq (by omega), read32_eq (by omega)]
  rfl

theorem readHeader_eq (readable : Readable ofpi.data) :
    readHeader ofpi = .ok (if Relevant ofpi.data then some (headerAt ofpi) else none) := by
  obtain ⟨ethernet, protocol, addresses, transport⟩ := readable
  simp only [ethHeaderLen] at ethernet
  rw [readHeader, readEthAddress_eq (by omega), readEthAddress_eq (by omega), read16_eq (by omega)]
  simp only [ok_bind, ntoh16_load16]
  by_cases ip : word16At ofpi.data 12 = ethTypeIp
  · have long := protocol ip
    rw [if_neg (not_not.mpr ip), readByte_eq (by omega), readByte_eq (by omega)]
    simp only [ok_bind, protocol_igmp_iff, protocol_udp_iff]
    by_cases known : byteAt ofpi.data 23 = ipTypeIgmp ∨ byteAt ofpi.data 23 = ipTypeUdp
    · have inside := addresses ⟨ip, known⟩
      simp only [ethHeaderLen, ipHeaderLen] at inside
      rw [if_neg (not_not.mpr known), if_pos ⟨ip, known⟩, read32_eq (by omega), read32_eq (by omega)]
      simp only [ok_bind]
      by_cases udp : byteAt ofpi.data 23 = ipTypeUdp
      · have fields : transportAt ofpi.data = udpAt ofpi.data := if_pos udp
        rw [if_pos udp, readUdp_eq (transport ip udp), ok_bind, headerAt, fields]
        rfl
      · have fields : transportAt ofpi.data = {} := if_neg udp
        rw [if_neg udp, headerAt, fields]
        rfl
    · rw [if_pos known, if_neg fun relevant => known relevant.2]
      rfl
  · rw [if_pos ip, if_neg fun relevant => ip relevant.1]
    rfl

theorem readUdp_ok_length {fields : UdpFields}
    (read : readUdp data ((ntoh16 (load16 0 (byteAt data 14)) &&& 0x0f) * 4) = .ok fields) :
    transportStart data + 12 ≤ data.length := by
  obtain ⟨usrcPort, -, read⟩ := bind_eq_ok.mp read
  obtain ⟨udstPort, -, read⟩ := bind_eq_ok.mp read
  obtain ⟨code, last, -⟩ := bind_eq_ok.mp read
  have inside := read32_ok_length last
  rwa [readUdp_start] at inside

theorem readable_of_readHeader (read : readHeader ofpi = .ok pin) : Readable ofpi.data := by
  obtain ⟨dmac, -, read⟩ := bind_eq_ok.mp read
  obtain ⟨smac, -, read⟩ := bind_eq_ok.mp read
  obtain ⟨ethType, type, read⟩ := bind_eq_ok.mp read
  have ethernet := read16_ok_length type
  rw [read16_eq ethernet] at type
  cases type
  rw [ntoh16_load16] at read
  split_ifs at read with ip
  · exact ⟨ethernet, fun same => absurd same ip, fun relevant => absurd relevant.1 ip, fun same => absurd same ip⟩
  rw [not_not] at ip
  obtain ⟨version, versionRead, read⟩ := bind_eq_ok.mp read
  obtain ⟨proto, protoRead, read⟩ := bind_eq_ok.mp read
  have protocol := readByte_ok_length protoRead
  rw [readByte_eq (by omega)] at versionRead protoRead
  cases versionRead
  cases protoRead
  simp only [protocol_igmp_iff, protocol_udp_iff] at read
  by_cases known : byteAt ofpi.data 23 = ipTypeIgmp ∨ byteAt ofpi.data 23 = ipTypeUdp
  case neg =>
    refine ⟨ethernet, fun _ => protocol, fun relevant => absurd relevant.2 known, fun _ udp => ?_⟩
    exact absurd (Or.inr udp) known
  rw [if_neg (not_not.mpr known)] at read
  obtain ⟨sip, -, read⟩ := bind_eq_ok.mp read
  obtain ⟨dip, addresses, read⟩ := bind_eq_ok.mp read
  refine ⟨ethernet, fun _ => protocol, fun _ => read32_ok_length addresses, fun _ udp => ?_⟩
  rw [if_pos udp] at read
  obtain ⟨udpFields, udpRead, -⟩ := bind_eq_ok.mp read
  exact readUdp_ok_length udpRead

/-! ## Reads inside the payload -/

def announcedLength (data : Frame) : Nat :=
  if word16At data 12 = ethTypeIp then
    max (ethHeaderLen + ipHeaderLen)
      (transportStart data + if byteAt data 23 = ipTypeUdp then udpHeaderLen else 0)
  else ethHeaderLen

namespace ConnectedApp

variable {app : ConnectedApp} {ofconn : OFConnection} {pk : PacketInDataHeader}

structure Accepted (app : ConnectedApp) (ofconn : OFConnection) : Prop where
  captured : app.accepts ofconn = .ok true
  version : ofconn.version = Of13.ofpVersion

structure PayloadSafe (app : ConnectedApp) (ofconn : OFConnection) (ofpi : PacketIn13) : Prop where
  inside : ∀ index, (app.eventCallback (.packetIn ofconn ofpi)).1 ≠ .error (.payloadRead index)
  short : ofpi.data.length < announcedLength ofpi.data → ∃ app',
    app.eventCallback (.packetIn ofconn ofpi) = (.ok app', []) ∧
      app'.multicastSessionStore = app.multicastSessionStore

theorem Accepted.eventCallback_eq (accepted : Accepted app ofconn) :
    app.eventCallback (.packetIn ofconn ofpi) = match readHeader ofpi with
      | .error index => (.error (.payloadRead index), [])
      | .ok none => (.ok app, [])
      | .ok (some pk) => app.perform (app.handlePacketIn pk) := by
  rw [eventCallback, accepted.captured]
  exact if_pos accepted.version

theorem Accepted.eventCallback_none (accepted : Accepted app ofconn) (read : readHeader ofpi = .ok none) :
    app.eventCallback (.packetIn ofconn ofpi) = (.ok app, []) := by
  rw [accepted.eventCallback_eq, read]

theorem Accepted.eventCallback_some (accepted : Accepted app ofconn) (read : readHeader ofpi = .ok (some pk)) :
    app.eventCallback (.packetIn ofconn ofpi) = app.perform (app.handlePacketIn pk) := by
  rw [accepted.eventCallback_eq, read]

theorem Accepted.eventCallback_error {index : Nat} (accepted : Accepted app ofconn)
    (read : readHeader ofpi = .error index) :
    app.eventCallback (.packetIn ofconn ofpi) = (.error (.payloadRead index), []) := by
  rw [accepted.eventCallback_eq, read]

theorem Accepted.exists_captured (accepted : Accepted app ofconn) : ∃ captured, app.ofconn = some captured := by
  have same := accepted.captured
  rw [accepts] at same
  cases captures : app.ofconn with
  | none =>
      rw [captures] at same
      cases same
  | some captured => exact ⟨captured, rfl⟩

theorem Accepted.handles (accepted : Accepted app ofconn) (read : readHeader ofpi = .ok (some pk)) :
    ∃ captured, app.eventCallback (.packetIn ofconn ofpi) =
      ((app.handlePacketIn pk).1.map fun mgma => { app with toMulticastGroupMembershipApp := mgma },
        ((app.handlePacketIn pk).2.map .message).map fun m => (captured, m)) := by
  obtain ⟨captured, captures⟩ := accepted.exists_captured
  exact ⟨captured, (accepted.eventCallback_some read).trans (perform_some captures)⟩

theorem announcedLength_le (relevant : Relevant data) (readable : Readable data)
    (udp : byteAt data 23 = ipTypeUdp) : announcedLength data ≤ data.length := by
  have addresses := readable.addresses relevant
  have transport := readable.transport relevant.1 udp
  rw [announcedLength, if_pos relevant.1, if_pos udp, udpHeaderLen]
  omega

theorem headerAt_igmp (relevant : Relevant ofpi.data) (other : byteAt ofpi.data 23 ≠ ipTypeUdp) :
    (headerAt ofpi).protocol = protocolTypeIgmp :=
  (protocol_igmp_iff _).mpr (relevant.2.resolve_right other)

theorem handlePacketIn_igmp (app : ConnectedApp) (igmp : pk.protocol = protocolTypeIgmp) :
    app.handlePacketIn pk = (.ok { app with gen := app.gen.nextGroupId }.toMulticastGroupMembershipApp, []) := by
  rw [MulticastGroupMembershipApp.handlePacketIn, if_pos igmp]
  rfl

def sampleConnection13 : OFConnection := { id := 0, version := Of13.ofpVersion }

def sampleApp : ConnectedApp := { initial with ofconn := some sampleConnection13 }

theorem accepted_sample : Accepted sampleApp sampleConnection13 := ⟨rfl, rfl⟩

def sampleUdp (beyond : Frame) : PacketIn13 where
  xid := 0
  bufferId := noBuffer
  inPort := some 1
  data := List.replicate 12 0 ++ [8, 0, 0x45] ++ List.replicate 8 0 ++ [17, 0, 0, 10, 0, 0, 2, 10, 0, 0, 1] ++ beyond

theorem payloadSafe_iff (app : ConnectedApp) (ofconn : OFConnection) (ofpi : PacketIn13)
    (accepted : Accepted app ofconn) : PayloadSafe app ofconn ofpi ↔ Readable ofpi.data := by
  constructor
  · intro safe
    cases read : readHeader ofpi with
    | ok pin => exact readable_of_readHeader read
    | error index =>
        have fault : (app.eventCallback (.packetIn ofconn ofpi)).1 = .error (.payloadRead index) := by
          rw [accepted.eventCallback_error read]
        exact absurd fault (safe.inside index)
  · intro readable
    have read := readHeader_eq readable
    by_cases relevant : Relevant ofpi.data
    · rw [if_pos relevant] at read
      obtain ⟨captured, handled⟩ := accepted.handles read
      constructor
      · rw [handled]
        intro index fault
        have failed : (app.step (.packet (headerAt ofpi))).1 = .error (.payloadRead index) := map_eq_error.mp fault
        cases MulticastGroupMembershipApp.step_error failed
      · intro short
        have other : byteAt ofpi.data 23 ≠ ipTypeUdp := fun udp =>
          absurd (announcedLength_le relevant readable udp) (Nat.not_le.mpr short)
        rw [handlePacketIn_igmp app (headerAt_igmp relevant other)] at handled
        exact ⟨_, handled, rfl⟩
    · rw [if_neg relevant] at read
      have ignored := accepted.eventCallback_none read
      constructor
      · rw [ignored]
        intro index fault
        cases fault
      · exact fun _ => ⟨app, ignored, rfl⟩

theorem payloadSafe_sample : PayloadSafe sampleApp sampleConnection13 (sampleUdp (List.replicate 12 0)) := by
  apply (payloadSafe_iff _ _ _ accepted_sample).mpr
  exact ⟨by decide, fun _ => by decide, fun _ => by decide, fun _ _ => by decide⟩

theorem truncated_udp_read :
    Accepted sampleApp sampleConnection13 ∧ ¬ PayloadSafe sampleApp sampleConnection13 (sampleUdp []) :=
  ⟨accepted_sample, fun safe => safe.inside 34 rfl⟩

end ConnectedApp

/-! ## Frames with something behind them -/

structure CompleteFrame (frame : Frame) : Prop where
  ethernet : ethHeaderLen ≤ frame.length
  network : word16At frame 12 = ethTypeIp → ethHeaderLen + ipHeaderLen ≤ frame.length
  transport : word16At frame 12 = ethTypeIp → byteAt frame 23 = ipTypeUdp →
    transportStart frame + udpHeaderLen ≤ frame.length

theorem CompleteFrame.relevant_iff (complete : CompleteFrame frame) :
    Relevant (frame ++ beyond) ↔ Relevant frame := by
  have ethernet := complete.ethernet
  rw [ethHeaderLen] at ethernet
  rw [Relevant, Relevant, word16At_append_left (by omega)]
  apply and_congr_right
  intro ip
  have network := complete.network ip
  rw [ethHeaderLen, ipHeaderLen] at network
  rw [byteAt_append_left (by omega)]

theorem CompleteFrame.readable_iff (complete : CompleteFrame frame) : Readable (frame ++ beyond) ↔
    (word16At frame 12 = ethTypeIp → byteAt frame 23 = ipTypeUdp →
      transportStart frame + 12 ≤ (frame ++ beyond).length) := by
  have ethernet := complete.ethernet
  rw [ethHeaderLen] at ethernet
  have type : word16At (frame ++ beyond) 12 = word16At frame 12 := word16At_append_left (by omega)
  have network : word16At frame 12 = ethTypeIp → 34 ≤ frame.length := complete.network
  constructor
  · intro readable ip udp
    have long := network ip
    have inside := readable.transport (type.trans ip) (by rwa [byteAt_append_left (by omega)])
    rwa [transportStart_append_left (by omega)] at inside
  · intro code
    constructor
    · rw [ethHeaderLen, List.length_append]
      omega
    · intro ip
      have long := network (type.symm.trans ip)
      rw [List.length_append]
      omega
    · rintro ⟨ip, -⟩
      have long := network (type.symm.trans ip)
      rw [ethHeaderLen, ipHeaderLen, List.length_append]
      omega
    · intro ip udp
      have long := network (type.symm.trans ip)
      rw [byteAt_append_left (by omega)] at udp
      rw [transportStart_append_left (by omega)]
      exact code (type.symm.trans ip) udp

theorem ethAddressOf_macKey (address : EthAddress) : ethAddressOf (macKey address) = address := keyMac_macKey address

/-- A member that joins with the header is stored under the interface of the header, and its bucket rewrites the
destination to the source address of the frame. -/
def JoinsFrom (frame : Frame) (pk : PacketInDataHeader) : Prop :=
  ∀ (mcg : MCGroup) (session : Session) (gen : Generators), session.members.lookup pk.inIntf = none →
    ∃ mcgm, (joinMemberToGroup mcg pk session gen).1.members.lookup pk.inIntf = some mcgm ∧
      (joinMemberToGroup mcg pk session gen).1.ofContext.ofgroupmod.buckets =
        session.ofContext.ofgroupmod.buckets ++ [mcgm.bucket] ∧
      ethAddressOf mcgm.destMac = ethAddressAt frame 6 ∧
      .setField (.ethDst (ethAddressAt frame 6)) 163 ∈ mcgm.bucket.actions

structure HoldsFrame (frame : Frame) (pk : PacketInDataHeader) : Prop where
  usrcPort : pk.usrcPort = word16At frame (transportStart frame)
  udstPort : pk.udstPort = word16At frame (transportStart frame + 2)
  sip : pk.sip = word32At frame 26
  dip : pk.dip = word32At frame 30
  dmac : ethAddressOf pk.dmac = ethAddressAt frame 0
  smac : JoinsFrom frame pk

theorem joinsFrom_of_smac {pk : PacketInDataHeader} (same : ethAddressOf pk.smac = ethAddressAt frame 6) :
    JoinsFrom frame pk := by
  intro mcg session gen absent
  rw [Session.joinMemberToGroup_new absent]
  refine ⟨session.newMember pk, ?_, rfl, same, ?_⟩
  · show (session.members.set pk.inIntf (session.newMember pk)).lookup pk.inIntf = _
    rw [OrderedMap.lookup_set, if_pos rfl]
  · rw [← same]
    exact List.mem_cons_of_mem _ (List.mem_cons_of_mem _ List.mem_cons_self)

theorem headerAt_holds (complete : CompleteFrame frame) (payload : ofpi.data = frame ++ beyond)
    (ip : word16At frame 12 = ethTypeIp) (udp : byteAt frame 23 = ipTypeUdp) :
    HoldsFrame frame (headerAt ofpi) := by
  have network := complete.network ip
  have transport := complete.transport ip udp
  rw [ethHeaderLen, ipHeaderLen] at network
  rw [udpHeaderLen] at transport
  have start : transportStart ofpi.data = transportStart frame := by
    rw [payload, transportStart_append_left (by omega)]
  have fields : transportAt ofpi.data = udpAt ofpi.data := by
    apply if_pos
    rw [payload, byteAt_append_left (by omega), udp]
  constructor
  · rw [headerAt, fields, udpAt, start]
    show ntoh16 (load16 _ _) = _
    rw [ntoh16_load16, payload, word16At_append_left (by omega)]
  · rw [headerAt, fields, udpAt, start]
    show ntoh16 (load16 _ (byteAt _ (_ + 2 + 1))) = _
    rw [ntoh16_load16, payload, word16At_append_left (by omega)]
  · show word32At ofpi.data 26 = _
    rw [payload, word32At_append_left (by omega)]
  · show word32At ofpi.data 30 = _
    rw [payload, word32At_append_left (by omega)]
  · show ethAddressOf (macKey (ethAddressAt ofpi.data 0)) = _
    rw [ethAddressOf_macKey, payload, ethAddressAt_append_left (by omega)]
  · apply joinsFrom_of_smac
    show ethAddressOf (macKey (ethAddressAt ofpi.data 6)) = _
    rw [ethAddressOf_macKey, payload, ethAddressAt_append_left (by omega)]

namespace ConnectedApp

variable {app : ConnectedApp} {ofconn : OFConnection} {pk : PacketInDataHeader}

/-- The callback makes the header and gives it to the handler of the application. -/
structure Hands (app : ConnectedApp) (ofconn : OFConnection) (ofpi : PacketIn13) (pk : PacketInDataHeader) :
    Prop where
  header : readHeader ofpi = .ok (some pk)
  handled : app.eventCallback (.packetIn ofconn ofpi) = app.perform (app.handlePacketIn pk)

theorem hands_iff (accepted : Accepted app ofconn) (readable : Readable ofpi.data) :
    Hands app ofconn ofpi pk ↔ Relevant ofpi.data ∧ pk = headerAt ofpi := by
  have read := readHeader_eq readable
  constructor
  · intro hands
    rw [hands.header] at read
    split_ifs at read with relevant
    · cases read
      exact ⟨relevant, rfl⟩
    · cases read
  · rintro ⟨relevant, rfl⟩
    rw [if_pos relevant] at read
    exact ⟨read, accepted.eventCallback_some read⟩

structure HandsHeader (app : ConnectedApp) (ofconn : OFConnection) (ofpi : PacketIn13) (frame : Frame) : Prop where
  handed : (∃ pk, Hands app ofconn ofpi pk) ↔
    word16At frame 12 = 0x0800 ∧ (byteAt frame 23 = 2 ∨ byteAt frame 23 = 17)
  holds : ∀ pk, Hands app ofconn ofpi pk → byteAt frame 23 = 17 → HoldsFrame frame pk

/-- The callback reads a membership code behind every UDP header, and hands on nothing where the payload ends before. -/
theorem handsHeader_iff (app : ConnectedApp) (ofconn : OFConnection) (ofpi : PacketIn13) (frame beyond : Frame)
    (accepted : Accepted app ofconn) (complete : CompleteFrame frame) (payload : ofpi.data = frame ++ beyond) :
    HandsHeader app ofconn ofpi frame ↔
      (word16At frame 12 = 0x0800 → byteAt frame 23 = 17 → transportStart frame + 12 ≤ ofpi.data.length) := by
  have same : Relevant ofpi.data ↔ Relevant frame := by
    rw [payload]
    exact complete.relevant_iff
  have code : Readable ofpi.data ↔
      (word16At frame 12 = 0x0800 → byteAt frame 23 = 17 → transportStart frame + 12 ≤ ofpi.data.length) := by
    rw [payload]
    exact complete.readable_iff
  rw [← code]
  constructor
  · intro hands
    by_cases relevant : Relevant frame
    · obtain ⟨pk, handed⟩ := hands.handed.mpr relevant
      exact readable_of_readHeader handed.header
    · rw [code]
      exact fun ip udp => absurd ⟨ip, Or.inr udp⟩ relevant
  · intro readable
    constructor
    · constructor
      · rintro ⟨pk, hands⟩
        exact same.mp ((hands_iff accepted readable).mp hands).1
      · intro relevant
        exact ⟨_, (hands_iff accepted readable).mpr ⟨same.mpr relevant, rfl⟩⟩
    · intro pk hands udp
      obtain ⟨relevant, rfl⟩ := (hands_iff accepted readable).mp hands
      exact headerAt_holds complete payload (same.mp relevant).1 udp

theorem sample_header_handed : HandsHeader sampleApp sampleConnection13 (sampleUdp (List.replicate 12 0))
    (sampleUdp (List.replicate 8 0)).data :=
  (handsHeader_iff sampleApp sampleConnection13 (sampleUdp (List.replicate 12 0)) (sampleUdp (List.replicate 8 0)).data
    (List.replicate 4 0) accepted_sample ⟨by decide, fun _ => by decide, fun _ _ => by decide⟩ rfl).mpr
    fun _ _ => by decide

def threeByteDatagram : PacketIn13 where
  xid := 0
  bufferId := noBuffer
  inPort := some 1
  data := [2, 0, 0, 0, 0, 1, 2, 0, 0, 0, 0, 2, 8, 0] ++
    [0x45, 0, 0, 31, 0, 0, 0, 0, 64, 17, 0x66, 0xcc, 10, 0, 0, 2, 10, 0, 0, 1] ++
    [3, 0xe8, 7, 0xd0, 0, 11, 0, 0] ++ [1, 2, 3]

theorem short_datagram_not_handed : CompleteFrame threeByteDatagram.data ∧
    Accepted sampleApp sampleConnection13 ∧
    ¬ HandsHeader sampleApp sampleConnection13 threeByteDatagram threeByteDatagram.data := by
  refine ⟨⟨by decide, fun _ => by decide, fun _ _ => by decide⟩, accepted_sample, fun hands => ?_⟩
  obtain ⟨pk, handed⟩ := hands.handed.mpr (by decide)
  cases handed.header

end ConnectedApp

end Libfluid.Multicast
