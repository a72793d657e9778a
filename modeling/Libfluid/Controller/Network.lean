import Libfluid.Controller.Reply
import Libfluid.Switch.Delivery
import Libfluid.Switch.Replacement

namespace Libfluid.Controller
open Library Switch

structure Network where
  dp : Datapath
  app : BaseLearningSwitch

structure Capture where
  packet : Packet
  len : BitVec 32

def packetInOf : Effect → Option Switch.PacketIn
  | .packetIn pi => some pi
  | .inject _ _ | .delete _ => none

def packetIns (sent : List Effect) : List Switch.PacketIn := sent.filterMap packetInOf

/-- The switch speaks OpenFlow 1.0 only. -/
def deliver (dp : Datapath) : Message → Result
  | .flowMod10 fm => dp.step (.flowMod fm.toFlowMod)
  | .packetOut10 po => dp.step (.packetOut po.toPacketOut)
  | .flowMod13 _ | .packetOut13 _ | .multipartRequestFlow _ => .ok (dp, [])

def deliverAll : List Message → Datapath → Result
  | [], dp => .ok (dp, [])
  | m :: rest, dp => do
      let (dp, sent) ← deliver dp m
      let (dp, later) ← deliverAll rest dp
      return (dp, sent ++ later)

def toController (pi : Switch.PacketIn) : PacketInMessage := .of10 { pi with xid := 21 }

namespace Network

/-- The exchange that answers the pending PACKET_INs and those that the answers cause. -/
inductive Answers : Network → List Switch.PacketIn → Network → List Effect → Prop
  | done {net : Network} : Answers net [] net []
  | answer {net net' : Network} {pi : Switch.PacketIn} {rest : List Switch.PacketIn} {app : BaseLearningSwitch}
      {messages : List Message} {dp : Datapath} {sent later : List Effect} :
      MultiLearningSwitch.eventCallback net.app (.packetIn 0 (toController pi)) = .ok (app, messages) →
      deliverAll messages net.dp = .ok (dp, sent) →
      Answers ⟨dp, app⟩ (rest ++ packetIns sent) net' later →
      Answers net (pi :: rest) net' (sent ++ later)

def Captures (net : Network) (capture : Capture) (net' : Network) (effects : List Effect) : Prop :=
  ∃ dp sent later, net.dp.step (.capture capture.packet capture.len) = .ok (dp, sent) ∧
    Answers ⟨dp, net.app⟩ (packetIns sent) net' later ∧ effects = sent ++ later

def Steps (net : Network) (capture : Capture) (net' : Network) : Prop :=
  ∃ effects, net.Captures capture net' effects

def create (n : Nat) : Network where
  dp := { Datapath.create n with conn := true }
  app := BaseLearningSwitch.initial.switchUp 0

theorem answers_nil {net net' : Network} {effects : List Effect} (answers : Answers net [] net' effects) :
    net' = net ∧ effects = [] := by
  cases answers with
  | done => exact ⟨rfl, rfl⟩

theorem answers_cons {net net' : Network} {pi : Switch.PacketIn} {app : BaseLearningSwitch}
    {messages : List Message} {dp : Datapath} {sent effects : List Effect}
    (decided : MultiLearningSwitch.eventCallback net.app (.packetIn 0 (toController pi)) = .ok (app, messages))
    (delivered : deliverAll messages net.dp = .ok (dp, sent)) (quiet : packetIns sent = []) :
    Answers net [pi] net' effects ↔ net' = ⟨dp, app⟩ ∧ effects = sent := by
  constructor
  · intro answers
    cases answers with
    | answer decided' delivered' rest =>
        cases decided.symm.trans decided'
        cases delivered.symm.trans delivered'
        rw [quiet] at rest
        obtain ⟨rfl, rfl⟩ := answers_nil rest
        exact ⟨rfl, List.append_nil _⟩
  · rintro ⟨rfl, rfl⟩
    have finished : Answers ⟨dp, app⟩ ([] ++ packetIns effects) ⟨dp, app⟩ [] := by
      rw [quiet]
      exact .done
    have answered := Answers.answer decided delivered finished
    rwa [List.append_nil] at answered

/-! ## One captured frame -/

section Capture

variable {net net' : Network} {packet : Packet} {len : BitVec 32} {pktMatch : Match} {effects : List Effect}

def missPacketIn (net : Network) (packet : Packet) (len : BitVec 32) : Switch.PacketIn where
  bufferId := net.dp.bufferId + 1
  inPort := packet.inPort
  totalLen := len.setWidth 16
  reason := ofprNoMatch
  data := packet.data

def missed (net : Network) (packet : Packet) : Datapath :=
  (net.dp.newPacket packet).1.bufferPacket (some net.dp.heap.length)

theorem captures_hit {flow : Flow} {dp : Datapath} {sent : List Effect}
    (extracted : Datapath.extract packet = .ok pktMatch) (selected : net.dp.selectFlow pktMatch = some flow)
    (acts : Datapath.applyActions (some net.dp.heap.length) flow.actions (net.dp.newPacket packet).1 = .ok (dp, sent))
    (quiet : packetIns sent = []) :
    net.Captures ⟨packet, len⟩ net' effects ↔ net' = ⟨dp, net.app⟩ ∧ effects = sent := by
  have run : net.dp.step (.capture packet len) = .ok (dp, sent) := by
    rw [Datapath.step, Datapath.packetHandler_eq extracted, selected]
    exact acts
  constructor
  · rintro ⟨dp', sent', later, run', answers, rfl⟩
    cases run.symm.trans run'
    rw [quiet] at answers
    obtain ⟨rfl, rfl⟩ := answers_nil answers
    exact ⟨rfl, List.append_nil _⟩
  · rintro ⟨rfl, rfl⟩
    refine ⟨dp, effects, [], run, ?_, (List.append_nil _).symm⟩
    rw [quiet]
    exact .done

theorem captures_miss {app : BaseLearningSwitch} {messages : List Message} {dp : Datapath} {sent : List Effect}
    (connected : net.dp.conn = true) (extracted : Datapath.extract packet = .ok pktMatch)
    (selected : net.dp.selectFlow pktMatch = none)
    (decided : MultiLearningSwitch.eventCallback net.app (.packetIn 0 (toController (net.missPacketIn packet len))) =
      .ok (app, messages))
    (delivered : deliverAll messages (net.missed packet) = .ok (dp, sent)) (quiet : packetIns sent = []) :
    net.Captures ⟨packet, len⟩ net' effects ↔
      net' = ⟨dp, app⟩ ∧ effects = .packetIn (net.missPacketIn packet len) :: sent := by
  have run : net.dp.step (.capture packet len) =
      .ok (net.missed packet, [.packetIn (net.missPacketIn packet len)]) := by
    rw [Datapath.step, Datapath.packetHandler_eq extracted, selected]
    have up : ((net.dp.newPacket packet).1.bufferPacket (some net.dp.heap.length)).conn = true := connected
    simp only [Datapath.reportMiss, if_pos up]
    rfl
  have answers_iff {later : List Effect} :
      Answers ⟨net.missed packet, net.app⟩ [net.missPacketIn packet len] net' later ↔
        net' = ⟨dp, app⟩ ∧ later = sent := answers_cons decided delivered quiet
  constructor
  · rintro ⟨dp', sent', later, run', answers, rfl⟩
    cases run.symm.trans run'
    obtain ⟨rfl, rfl⟩ := answers_iff.mp answers
    exact ⟨rfl, rfl⟩
  · rintro ⟨rfl, rfl⟩
    exact ⟨_, _, sent, run, answers_iff.mpr ⟨rfl, rfl⟩, rfl⟩

end Capture

end Network

end Libfluid.Controller
