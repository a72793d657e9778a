import Libfluid.Controller.Table
import Libfluid.Switch.Coverage

namespace Libfluid.Controller
open Library Switch

inductive Target
  | port (number : BitVec 16)
  | flood
deriving DecidableEq, Repr

def Target.port10 : Target → BitVec 16
  | .port number => number
  | .flood => ofppFlood

def Target.port13 : Target → BitVec 32
  | .port number => number.setWidth 32
  | .flood => Of13.ofppFlood

def L2Table.target (l2table : L2Table) (src dst : EthAddress) (inPort : BitVec 16) : Target :=
  (l2table.answer src dst inPort).elim .flood .port

namespace PacketInMessage

def data : PacketInMessage → Frame
  | .of10 pi => pi.data
  | .of13 pi => pi.data
  | .other _ => []

def bufferId : PacketInMessage → BitVec 32
  | .of10 pi => pi.bufferId
  | .of13 pi => pi.bufferId
  | .other _ => noBuffer

/-- The input port as the application stores it, `none` where the PACKET_IN is out of its scope. -/
def inPort : PacketInMessage → Option (BitVec 16)
  | .of10 pi => some pi.inPort
  | .of13 pi => pi.inPort.map MultiLearningSwitch.localInPort
  | .other _ => none

end PacketInMessage

/-- The message makes the switch send the frame to the target: it releases the buffered frame into a flow
that accepts it, or a PACKET_OUT names the buffered frame or brings an unbuffered one. -/
def Message.Forwards (bufferId : BitVec 32) (data : Frame) (src dst : EthAddress) (target : Target) :
    Message → Prop
  | .flowMod10 fm =>
      bufferId ≠ noBuffer ∧ fm.bufferId = bufferId ∧ fm.command = .add ∧
        (∀ pkt : Match, pkt.dlSrc = src → pkt.dlDst = dst → fm.match_.Accepts pkt) ∧
        ∃ maxLen, fm.actions = [.output target.port10 maxLen]
  | .packetOut10 po =>
      po.bufferId = bufferId ∧ (bufferId = noBuffer → po.data = data) ∧
        ∃ maxLen, po.actions = [.output target.port10 maxLen]
  | .flowMod13 fm =>
      bufferId ≠ noBuffer ∧ fm.bufferId = bufferId ∧ fm.command = .add ∧
        (fm.ethSrc = none ∨ fm.ethSrc = some src) ∧ (fm.ethDst = none ∨ fm.ethDst = some dst) ∧
        ∃ maxLen, fm.applyActions = [⟨target.port13, maxLen⟩]
  | .packetOut13 po =>
      po.bufferId = bufferId ∧ (bufferId = noBuffer → po.data = data) ∧
        ∃ maxLen, po.actions = [⟨target.port13, maxLen⟩]
  | .multipartRequestFlow _ => False

namespace MultiLearningSwitch

def ForwardsFrame (app : BaseLearningSwitch) (connection : Nat) (l2table : L2Table) (pi : PacketInMessage)
    (inPort : BitVec 16) : Prop :=
  ∃ app' sent, eventCallback app (.packetIn connection pi) = .ok (app', sent) ∧
    ∀ src dst, Addressed pi.data src dst →
      ∃ m ∈ sent, m.Forwards pi.bufferId pi.data src dst (l2table.target src dst inPort)

def UnknownDestination (l2table : L2Table) (data : Frame) : Prop :=
  ∀ src dst, Addressed data src dst → dst ≠ src ∧ l2table.lookup (macKey dst) = none

theorem handlePacketIn_ok (l2table : L2Table) (pi : PacketInMessage) {inPort : BitVec 16}
    (read : pi.inPort = some inPort) {src dst : EthAddress} (addressed : Addressed pi.data src dst) :
    handlePacketIn l2table pi =
      .ok ((learn l2table (macKey src) (macKey dst) inPort).1,
        some (learn l2table (macKey src) (macKey dst) inPort).2) := by
  cases pi with
  | other version => cases read
  | of10 pi =>
      cases read
      have first : readMac pi.data 0 = .ok (macKey dst) := readMac_ok addressed.dst
      have second : readMac pi.data 6 = .ok (macKey src) := readMac_ok addressed.src
      rw [handlePacketIn, handlePacketIn10, first, second]
      rfl
  | of13 pi =>
      cases port : pi.inPort with
      | none =>
          rw [PacketInMessage.inPort, port] at read
          cases read
      | some value =>
          rw [PacketInMessage.inPort, port] at read
          cases read
          have first : readMac pi.data 0 = .ok (macKey dst) := readMac_ok addressed.dst
          have second : readMac pi.data 6 = .ok (macKey src) := readMac_ok addressed.src
          rw [handlePacketIn, handlePacketIn13, first, second, port]
          rfl

theorem handlePacketIn_long {l2table : L2Table} {pi : PacketInMessage} {result : L2Table × Option Decision}
    (run : handlePacketIn l2table pi = .ok result) : 12 ≤ pi.data.length := by
  cases pi with
  | other version => cases run
  | of10 pi =>
      obtain ⟨dst, -, run⟩ := bind_eq_ok.mp run
      obtain ⟨src, read, -⟩ := bind_eq_ok.mp run
      obtain ⟨address, read, -⟩ := readMac_eq_ok.mp read
      exact readEthAddress_ok_length read
  | of13 pi =>
      obtain ⟨dst, -, run⟩ := bind_eq_ok.mp run
      obtain ⟨src, read, -⟩ := bind_eq_ok.mp run
      obtain ⟨address, read, -⟩ := readMac_eq_ok.mp read
      exact readEthAddress_ok_length read

/-! ## The installed match -/

def flowMatch (src dst : EthAddress) : Match := Of10.setDlDst (Of10.setDlSrc Of10.emptyMatch src) dst

def flowWildcards : BitVec 32 := ofpfwAll &&& ~~~ofpfwDlSrc &&& ~~~ofpfwDlDst

theorem flowMatch_wild (src dst : EthAddress) (f : Field) :
    (flowMatch src dst).wild f = (f != .dlSrc && f != .dlDst) := by
  show wc flowWildcards f.wildcard = (f != .dlSrc && f != .dlDst)
  cases f <;> decide

theorem flowMatch_fieldsAgree_iff (src dst : EthAddress) (pkt : Match) :
    (flowMatch src dst).FieldsAgree pkt ↔ src = pkt.dlSrc ∧ dst = pkt.dlDst := by
  constructor
  · intro agree
    exact ⟨agree .dlSrc (flowMatch_wild src dst _), agree .dlDst (flowMatch_wild src dst _)⟩
  · rintro ⟨sameSrc, sameDst⟩ f compared
    rw [flowMatch_wild] at compared
    cases f with
    | dlSrc => exact sameSrc
    | dlDst => exact sameDst
    | _ => cases compared

theorem flowMatch_accepts_iff (src dst : EthAddress) (pkt : Match) :
    (flowMatch src dst).Accepts pkt ↔ src = pkt.dlSrc ∧ dst = pkt.dlDst := by
  have open_ : 32 ≤ (flowMatch src dst).nwSrcCount ∧ 32 ≤ (flowMatch src dst).nwDstCount := by
    show 32 ≤ ((flowWildcards >>> ofpfwNwSrcShift).setWidth ofpfwNwSrcBits).toNat ∧
      32 ≤ ((flowWildcards >>> ofpfwNwDstShift).setWidth ofpfwNwDstBits).toNat
    decide
  rw [Match.Accepts, flowMatch_fieldsAgree_iff]
  exact and_iff_left ⟨ushiftRight_of_ge open_.1 _ _, ushiftRight_of_ge open_.2 _ _⟩

/-! ## The reply -/

theorem installed_forwards {pi : PacketInMessage} {inPort outPort : BitVec 16} (read : pi.inPort = some inPort)
    (buffered : pi.bufferId ≠ noBuffer) (src dst : EthAddress) :
    ∃ m ∈ respond pi (.install (macKey src) (macKey dst) outPort),
      m.Forwards pi.bufferId pi.data src dst (.port outPort) := by
  cases pi with
  | other version => cases read
  | of10 pi =>
      refine ⟨installFlowMod10 pi (macKey src) (macKey dst) outPort, List.mem_singleton_self _, ?_⟩
      refine ⟨buffered, rfl, rfl, fun pkt sameSrc sameDst => ?_, 1024, rfl⟩
      show (flowMatch (keyMac (macKey src)) (keyMac (macKey dst))).Accepts pkt
      rw [keyMac_macKey, keyMac_macKey, flowMatch_accepts_iff]
      exact ⟨sameSrc.symm, sameDst.symm⟩
  | of13 pi =>
      refine ⟨_, List.mem_cons_self, ?_⟩
      refine ⟨buffered, rfl, rfl, Or.inr ?_, Or.inr ?_, 1024, rfl⟩
      · exact congrArg some (keyMac_macKey src)
      · exact congrArg some (keyMac_macKey dst)

theorem installed_unbuffered {pi : PacketInMessage} {outPort : BitVec 16} (unbuffered : pi.bufferId = noBuffer)
    {m : Message} {src dst : BitVec 64} (sent : m ∈ respond pi (.install src dst outPort)) {srcMac dstMac : EthAddress}
    {target : Target} : ¬ m.Forwards pi.bufferId pi.data srcMac dstMac target := by
  intro forwards
  cases pi with
  | other version => cases sent
  | of10 pi =>
      obtain rfl := List.mem_singleton.mp sent
      exact forwards.1 unbuffered
  | of13 pi =>
      rcases List.mem_cons.mp sent with rfl | later
      · exact forwards.1 unbuffered
      · obtain rfl := List.mem_singleton.mp later
        exact forwards

theorem flooded_forwards {pi : PacketInMessage} {inPort : BitVec 16} (read : pi.inPort = some inPort)
    (src dst : EthAddress) : ∃ m ∈ respond pi .flood, m.Forwards pi.bufferId pi.data src dst .flood := by
  cases pi with
  | other version => cases read
  | of10 pi =>
      refine ⟨flood10 pi, List.mem_singleton_self _, rfl, fun unbuffered => ?_, 1024, rfl⟩
      exact if_pos unbuffered
  | of13 pi =>
      refine ⟨flood13 pi _, List.mem_singleton_self _, rfl, fun unbuffered => ?_, 1024, rfl⟩
      exact if_pos unbuffered

theorem eventCallback_packetIn {app : BaseLearningSwitch} {connection : Nat} {l2table : L2Table}
    (initialised : app.applicationData connection = some l2table) (pi : PacketInMessage) {inPort : BitVec 16}
    (read : pi.inPort = some inPort) {src dst : EthAddress} (addressed : Addressed pi.data src dst) :
    eventCallback app (.packetIn connection pi) =
      .ok (app.setApplicationData connection (learn l2table (macKey src) (macKey dst) inPort).1,
        respond pi (learn l2table (macKey src) (macKey dst) inPort).2) := by
  rw [eventCallback, decide, BaseLearningSwitch.eventCallback, initialised]
  simp only [handlePacketIn_ok l2table pi read addressed]
  rfl

def samplePacketIn (bufferId : BitVec 32) : PacketInMessage :=
  .of10 { xid := 21, bufferId := bufferId, inPort := 1, totalLen := 14, reason := 0, data := sampleFrame }

def learned (address : EthAddress) (port : BitVec 16) : BaseLearningSwitch :=
  BaseLearningSwitch.initial.setApplicationData 0 (OrderedMap.empty.set (macKey address) port)

end MultiLearningSwitch

end Libfluid.Controller
