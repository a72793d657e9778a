import Libfluid.Controller.Learning
import Libfluid.Multicast.App

/-!
# The callback of the membership application

The application captures the connection of the first switch that comes up. It handles the packets of that
connection only, and sends everything on it. A call through the pointer while it is null is a fault.
-/

namespace Libfluid.Multicast
open Library Switch Controller

structure OFConnection where
  id : Nat
  version : BitVec 8
deriving DecidableEq, Repr

inductive ControllerEvent
  | switchUp (ofconn : OFConnection) (datapathId : BitVec 64)
  | switchDown (ofconn : OFConnection)
  | packetIn (ofconn : OFConnection) (ofpi : PacketIn13)
deriving DecidableEq, Repr

inductive Outgoing
  | roleRequest (xid role : BitVec 32) (generationId : BitVec 64)
  | message (m : Message)
deriving DecidableEq, Repr

abbrev Sent := List (OFConnection × Outgoing)

def ethHlen : BitVec 16 := 14
def protocolTypeUdp : BitVec 16 := 0x11
def ofpcrRoleEqual : BitVec 32 := 1

def be64toh (word : BitVec 64) : BitVec 64 :=
  load64 (word.extractLsb' 56 8) (word.extractLsb' 48 8) (word.extractLsb' 40 8) (word.extractLsb' 32 8)
    (word.extractLsb' 24 8) (word.extractLsb' 16 8) (word.extractLsb' 8 8) (word.extractLsb' 0 8)

structure UdpFields where
  usrcPort : BitVec 16 := 0
  udstPort : BitVec 16 := 0
  membershipCode : BitVec 32 := 0
deriving DecidableEq, Repr

def readUdp (data : Frame) (ipHeaderLen : BitVec 16) : Except Nat UdpFields := do
  let start := ethHlen.toNat + ipHeaderLen.toNat
  let usrcPort ← read16 data start
  let udstPort ← read16 data (start + 2)
  let membershipCode ← read32 data (start + 8)
  -- The 32 bit word is widened, swapped as 64 bits and cut to its low half again.
  return { usrcPort, udstPort, membershipCode := (be64toh (membershipCode.setWidth 64)).setWidth 32 }

/-- The header for `handlePacketIn`, or `none` where the callback returns before it. -/
def readHeader (ofpi : PacketIn13) : Except Nat (Option PacketInDataHeader) := do
  let dmac ← readEthAddress ofpi.data 0
  let smac ← readEthAddress ofpi.data 6
  let ethType ← read16 ofpi.data 12
  if ntoh16 ethType ≠ ethTypeIp then return none
  else do
    let version ← readByte ofpi.data 14
    let ipHeaderLen := (ntoh16 (load16 0 version) &&& 0x0f) * 4
    let proto ← readByte ofpi.data 23
    let protocol := ntoh16 (load16 0 proto)
    if ¬ (protocol = protocolTypeIgmp ∨ protocol = protocolTypeUdp) then return none
    else do
      let sip ← read32 ofpi.data 26
      let dip ← read32 ofpi.data 30
      let udp ← if protocol = protocolTypeUdp then readUdp ofpi.data ipHeaderLen else pure {}
      return some
        { dmac := macKey dmac
          smac := macKey smac
          sip := sip
          dip := dip
          inIntf := (ofpi.inPort.getD 0).setWidth 16
          usrcPort := ntoh16 udp.usrcPort
          udstPort := ntoh16 udp.udstPort
          protocol := protocol
          membershipCode := udp.membershipCode
          ofpi := { xid := ofpi.xid, bufferId := ofpi.bufferId, data := ofpi.data } }

structure ConnectedApp extends MulticastGroupMembershipApp where
  ofconn : Option OFConnection
  dpid : BitVec 64

namespace ConnectedApp

def initial : ConnectedApp := { MulticastGroupMembershipApp.initial with ofconn := none, dpid := 0 }

def send (ofconn : Option OFConnection) (outgoing : List Outgoing) : Except Fault Sent :=
  match outgoing, ofconn with
  | [], _ => .ok []
  | _ :: _, none => .error .nullConnection
  | _ :: _, some ofconn => .ok (outgoing.map fun m => (ofconn, m))

/-- What is sent before a fault stays sent. -/
def perform (app : ConnectedApp) (result : Except Fault MulticastGroupMembershipApp × List Message) :
    Except Fault ConnectedApp × Sent :=
  match send app.ofconn (result.2.map .message) with
  | .error fault => (.error fault, [])
  | .ok sent => (result.1.map fun mgma => { app with toMulticastGroupMembershipApp := mgma }, sent)

def sendRoleRequestEqualMsg (app : ConnectedApp) : Except Fault ConnectedApp × Sent :=
  let gen := app.gen.nextXid
  match send app.ofconn [.roleRequest gen.xid ofpcrRoleEqual 0] with
  | .error fault => (.error fault, [])
  | .ok sent => (.ok { app with gen := gen }, sent)

def accepts (app : ConnectedApp) (ofconn : OFConnection) : Except Fault Bool :=
  match app.ofconn with
  | none => .error .nullConnection
  | some captured => .ok (captured.id == ofconn.id)

def processPacketIn (app : ConnectedApp) (ofconn : OFConnection) (ofpi : PacketIn13) :
    Except Fault ConnectedApp × Sent :=
  if ofconn.version = Of13.ofpVersion then
    match readHeader ofpi with
    | .error index => (.error (.payloadRead index), [])
    | .ok none => (.ok app, [])
    | .ok (some pinData) => app.perform (app.handlePacketIn pinData)
  else (.ok app, [])

def eventCallback (app : ConnectedApp) : ControllerEvent → Except Fault ConnectedApp × Sent
  | .switchUp ofconn datapathId =>
      if ofconn.version = Of13.ofpVersion ∧ app.ofconn = none then
        sendRoleRequestEqualMsg { app with ofconn := some ofconn, dpid := datapathId }
      else (.ok app, [])
  | .switchDown _ => (.ok app, [])
  | .packetIn ofconn ofpi =>
      match app.accepts ofconn with
      | .error fault => (.error fault, [])
      | .ok same => if same then app.processPacketIn ofconn ofpi else (.ok app, [])

end ConnectedApp

inductive Call
  | eventCallback (ev : ControllerEvent)
  | createGroup (ip : BitVec 32) (upIntf sport dport : BitVec 16) (classd isRoot : Bool)
  | createSession (sip dip : BitVec 32) (sport dport upIntf isRoot : BitVec 16)
deriving DecidableEq, Repr

namespace ConnectedApp

def call (app : ConnectedApp) : Call → Except Fault ConnectedApp × Sent
  | .eventCallback ev => app.eventCallback ev
  | .createGroup ip upIntf sport dport classd isRoot =>
      app.perform (app.step (.newGroup ip upIntf sport dport classd isRoot))
  | .createSession sip dip sport dport upIntf isRoot =>
      app.perform (app.step (.newSession sip dip sport dport upIntf isRoot))

variable {app : ConnectedApp} {captured : OFConnection}
  {result : Except Fault MulticastGroupMembershipApp × List Message}

theorem send_some (outgoing : List Outgoing) :
    send (some captured) outgoing = .ok (outgoing.map fun m => (captured, m)) := by
  cases outgoing <;> rfl

theorem perform_some (captures : app.ofconn = some captured) :
    app.perform result = (result.1.map fun mgma => { app with toMulticastGroupMembershipApp := mgma },
      (result.2.map .message).map fun m => (captured, m)) := by
  rw [perform, captures, send_some]

theorem accepts_some (captures : app.ofconn = some captured) (ofconn : OFConnection) :
    app.accepts ofconn = .ok (captured.id == ofconn.id) := by
  rw [accepts, captures]

end ConnectedApp

end Libfluid.Multicast
