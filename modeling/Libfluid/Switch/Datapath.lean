import Libfluid.Library.OrderedMap
import Libfluid.Switch.Extract

/-!
# The datapath

The state of the example switch and the functions that captured frames and controller messages run.
A packet object is a cell of an explicit heap and a pointer is the index of a cell. What C++ leaves
undefined, such as a read through a pointer to a deleted packet, is a fault that ends the run.
-/

namespace Libfluid.Switch
open Library

/-- Only the output action has an effect here; the other action types are ignored. -/
inductive Action
  | output (port maxLen : BitVec 16)
  | other (type : BitVec 16)
deriving DecidableEq, Repr

structure Flow where
  priority : BitVec 16 := 0
  match_ : Match
  nwSrcMask : BitVec 32 := 0xffffffff
  nwDstMask : BitVec 32 := 0xffffffff
  actions : List Action := []
deriving DecidableEq, Repr

def Flow.pktMatch (flow : Flow) (pktMatch : Match) : Bool :=
  matchStdPkt flow.match_ pktMatch flow.nwSrcMask flow.nwDstMask

def Flow.strictMatch (flowA flowB : Flow) : Bool :=
  flowA.priority == flowB.priority &&
    matchStdStrict flowA.match_ flowB.match_ flowA.nwSrcMask flowB.nwSrcMask flowA.nwDstMask flowB.nwDstMask

def Flow.nonStrictMatch (flowA flowB : Flow) : Bool :=
  matchStdNonstrict flowA.match_ flowB.match_ flowA.nwSrcMask flowB.nwSrcMask flowA.nwDstMask flowB.nwDstMask

/-- The comparator of the flow table. It holds both ways between equal priorities. -/
def cmpPriority (lhs rhs : Flow) : Prop := lhs.priority ≤ rhs.priority

instance : DecidableRel cmpPriority := fun lhs rhs => inferInstanceAs (Decidable (lhs.priority ≤ rhs.priority))

instance : IsTrans Flow cmpPriority := ⟨fun _ _ _ => BitVec.le_trans⟩

structure Packet where
  inPort : BitVec 16
  data : Frame
deriving DecidableEq, Repr

abbrev Ptr := Nat

abbrev PktBuffer := OrderedMap (BitVec 32) (Option Ptr) BitVec.toNat

structure Datapath where
  flowTable : OrderedSet Flow cmpPriority
  pktBuffer : PktBuffer
  ports : List Nat
  conn : Bool
  bufferId : BitVec 32
  /-- Every packet object ever allocated, `none` once it is deleted. -/
  heap : List (Option Packet)

inductive Fault
  | nullPacket
  | deadPacket (pkt : Ptr)
  | portIndex (number : BitVec 16)
  | noConnection
  | frameRead (index : Nat)
deriving DecidableEq, Repr

structure PacketIn where
  bufferId : BitVec 32
  inPort : BitVec 16
  totalLen : BitVec 16
  reason : BitVec 8
  data : Frame
deriving DecidableEq, Repr

inductive Effect
  | inject (portNo : Nat) (data : Frame)
  | packetIn (pi : PacketIn)
  | delete (pkt : Ptr)
deriving DecidableEq, Repr

abbrev Result := Except Fault (Datapath × List Effect)

def ofppInPort : BitVec 16 := 0xfff8
def ofppFlood : BitVec 16 := 0xfffb
def ofppAll : BitVec 16 := 0xfffc
def ofppController : BitVec 16 := 0xfffd
def ofprNoMatch : BitVec 8 := 0
def ofprAction : BitVec 8 := 1
def noBuffer : BitVec 32 := 0xffffffff

namespace Datapath

def newPacket (dp : Datapath) (packet : Packet) : Datapath × Ptr :=
  ({ dp with heap := dp.heap ++ [some packet] }, dp.heap.length)

def deref (dp : Datapath) : Option Ptr → Except Fault Packet
  | none => .error .nullPacket
  | some p =>
      match dp.heap[p]? with
      | some (some packet) => .ok packet
      | _ => .error (.deadPacket p)

def deletePacket (dp : Datapath) : Option Ptr → Result
  | none => .ok (dp, [])
  | some p =>
      match dp.heap[p]? with
      | some (some _) => .ok ({ dp with heap := dp.heap.set p none }, [.delete p])
      | _ => .error (.deadPacket p)

def bufferPacket (pkt : Option Ptr) (dp : Datapath) : Datapath :=
  { dp with
    bufferId := dp.bufferId + 1
    pktBuffer := dp.pktBuffer.insertNew (dp.bufferId + 1) pkt }

/-- The index operator of the buffer, which inserts a null pointer for a missing id. -/
def bufferedPacket (dp : Datapath) (id : BitVec 32) : Datapath × Option Ptr :=
  match dp.pktBuffer.lookup id with
  | some pkt => (dp, pkt)
  | none => ({ dp with pktBuffer := dp.pktBuffer.insertNew id none }, none)

def portOutputPacket (dp : Datapath) (number : BitVec 16) (data : Frame) : Except Fault Effect :=
  if number = 0 then .error (.portIndex number)
  else
    match dp.ports[number.toNat - 1]? with
    | some portNo => .ok (.inject portNo data)
    | none => .error (.portIndex number)

def flood (dp : Datapath) (pkt : Option Ptr) : List Nat → Except Fault (List Effect)
  | [] => .ok []
  | portNo :: rest => do
      let packet ← dp.deref pkt
      let sent ← flood dp pkt rest
      if portNo = packet.inPort.toNat then return sent
      else return .inject portNo packet.data :: sent

def actionHandler (dp : Datapath) (pkt : Option Ptr) : Action → Result
  | .other _ => .ok (dp, [])
  | .output port maxLen =>
      if port = ofppInPort then do
        let packet ← dp.deref pkt
        let sent ← dp.portOutputPacket packet.inPort packet.data
        return (dp, [sent])
      else if port = ofppFlood ∨ port = ofppAll then do
        let sent ← dp.flood pkt dp.ports
        return (dp, sent)
      else if port = ofppController then do
        let dp := dp.bufferPacket pkt
        let packet ← dp.deref pkt
        let len := if packet.data.length > maxLen.toNat then maxLen.toNat else packet.data.length
        if dp.conn then
          return (dp, [.packetIn {
            bufferId := noBuffer
            inPort := packet.inPort
            totalLen := BitVec.ofNat 16 packet.data.length
            reason := ofprAction
            data := packet.data.take len }])
        else .error .noConnection
      else do
        let packet ← dp.deref pkt
        let sent ← dp.portOutputPacket port packet.data
        return (dp, [sent])

def applyActions (pkt : Option Ptr) : List Action → Datapath → Result
  | [], dp => .ok (dp, [])
  | act :: rest, dp => do
      let (dp, sent) ← dp.actionHandler pkt act
      let (dp, later) ← applyActions pkt rest dp
      return (dp, sent ++ later)

def extract (packet : Packet) : Except Fault Match :=
  let pktMatch : Match :=
    { wildcards := ofpfwAll, inPort := packet.inPort, dlSrc := ⟨0, 0, 0, 0, 0, 0⟩, dlDst := ⟨0, 0, 0, 0, 0, 0⟩,
      dlVlan := 0, dlVlanPcp := 0, dlType := 0, nwTos := 0, nwProto := 0, nwSrc := 0, nwDst := 0,
      tpSrc := 0, tpDst := 0 }
  (extractFlowFields pktMatch packet.data).mapError .frameRead

end Datapath

inductive FlowModCommand
  | add
  | modify
  | modifyStrict
  | delete
  | deleteStrict
deriving DecidableEq, Repr

structure FlowMod where
  command : FlowModCommand
  match_ : Match
  priority : BitVec 16
  bufferId : BitVec 32
  actions : List Action
deriving DecidableEq, Repr

structure PacketOut where
  bufferId : BitVec 32
  inPort : BitVec 16
  actions : List Action
  data : Frame
deriving DecidableEq, Repr

def FlowMod.flow (fm : FlowMod) : Flow :=
  { priority := fm.priority, match_ := fm.match_, actions := fm.actions }

namespace Datapath

def addFlow (table : OrderedSet Flow cmpPriority) (flow : Flow) : OrderedSet Flow cmpPriority :=
  (table.eraseFirst fun entry => entry.strictMatch flow).insert flow

def releaseToFlow (dp : Datapath) (flow : Flow) (bufferId : BitVec 32) : Result :=
  if bufferId = noBuffer then .ok (dp, [])
  else do
    let (dp, pkt) := dp.bufferedPacket bufferId
    let packet ← dp.deref pkt
    let pktMatch ← extract packet
    if flow.pktMatch pktMatch then
      let (dp, sent) ← applyActions pkt flow.actions dp
      let (dp, deleted) ← dp.deletePacket pkt
      return (dp, sent ++ deleted)
    else return (dp, [])

def handleFlowMod (dp : Datapath) (fm : FlowMod) : Result :=
  match fm.command with
  | .add => { dp with flowTable := addFlow dp.flowTable fm.flow }.releaseToFlow fm.flow fm.bufferId
  | .delete =>
      let flow : Flow := { match_ := fm.match_ }
      .ok ({ dp with flowTable := dp.flowTable.filter fun entry => !flow.nonStrictMatch entry }, [])
  | .modify | .modifyStrict | .deleteStrict => .ok (dp, [])

def handlePacketOut (dp : Datapath) (po : PacketOut) : Result := do
  let (dp, pkt) :=
    if po.bufferId = noBuffer then
      let (dp, p) := dp.newPacket { inPort := po.inPort, data := po.data }
      (dp, some p)
    else dp.bufferedPacket po.bufferId
  let (dp, sent) ← applyActions pkt po.actions dp
  let (dp, deleted) ← dp.deletePacket pkt
  return (dp, sent ++ deleted)

def selectFlow (dp : Datapath) (pktMatch : Match) : Option Flow :=
  dp.flowTable.find? fun entry => entry.pktMatch pktMatch

def reportMiss (dp : Datapath) (pkt : Ptr) (packet : Packet) (len : BitVec 32) : Datapath × List Effect :=
  let dp := dp.bufferPacket (some pkt)
  if dp.conn then
    (dp, [.packetIn {
      bufferId := dp.bufferId
      inPort := packet.inPort
      totalLen := len.setWidth 16
      reason := ofprNoMatch
      data := packet.data }])
  else (dp, [])

def packetHandler (dp : Datapath) (packet : Packet) (len : BitVec 32) : Result := do
  let (dp, pkt) := dp.newPacket packet
  let pktMatch ← extract packet
  match dp.selectFlow pktMatch with
  | some entry => applyActions (some pkt) entry.actions dp
  | none => return dp.reportMiss pkt packet len

/-- The packet object only points to the captured bytes, and their owner may use the memory again. -/
def overwrite (dp : Datapath) (pkt : Ptr) (index : Nat) (byte : Byte) : Datapath :=
  { dp with
    heap := dp.heap.modify pkt (Option.map fun packet => { packet with data := packet.data.set index byte }) }

def destroy (dp : Datapath) : Except Fault (Datapath × List Effect) :=
  go dp (dp.pktBuffer.toList.map Prod.snd)
where
  go (dp : Datapath) : List (Option Ptr) → Result
    | [] => .ok (dp, [])
    | pkt :: rest => do
        let (dp, deleted) ← dp.deletePacket pkt
        let (dp, later) ← go dp rest
        return (dp, deleted ++ later)

end Datapath

inductive Event
  | capture (packet : Packet) (len : BitVec 32)
  | packetOut (po : PacketOut)
  | flowMod (fm : FlowMod)
  | connection (up : Bool)
  | overwrite (pkt : Ptr) (index : Nat) (byte : Byte)
deriving DecidableEq, Repr

def Datapath.step (dp : Datapath) : Event → Result
  | .capture packet len => dp.packetHandler packet len
  | .packetOut po => dp.handlePacketOut po
  | .flowMod fm => dp.handleFlowMod fm
  | .connection up => .ok ({ dp with conn := up }, [])
  | .overwrite pkt index byte => .ok (dp.overwrite pkt index byte, [])

end Libfluid.Switch
