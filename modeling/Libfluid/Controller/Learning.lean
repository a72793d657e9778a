import Libfluid.Library.OrderedMap
import Libfluid.Library.Run
import Libfluid.Controller.Message
import Mathlib.Logic.Function.Basic

/-!
# The learning switches

`BaseLearningSwitch` keeps one table for each connection, as the application data of the connection.
`RawLearningSwitch` overlays the OpenFlow 1.0 structures, `MultiLearningSwitch` goes through the message
classes and speaks 1.0 and 1.3. A decision is the call that ends the callback.
-/

namespace Libfluid.Controller
open Library Switch

/-- The six octets copied to the address of a zeroed `uint64_t` plus two. -/
def macKey (address : EthAddress) : BitVec 64 :=
  load64 0 0 address.octet0 address.octet1 address.octet2 address.octet3 address.octet4 address.octet5

/-- The six octets read back from the address of the key plus two. -/
def keyMac (key : BitVec 64) : EthAddress :=
  ⟨key.extractLsb' 16 8, key.extractLsb' 24 8, key.extractLsb' 32 8, key.extractLsb' 40 8, key.extractLsb' 48 8,
    key.extractLsb' 56 8⟩

abbrev L2Table := OrderedMap (BitVec 64) (BitVec 16) BitVec.toNat

inductive Fault
  | frameRead (index : Nat)
  | unknownVersion
deriving DecidableEq, Repr

/-- The table that the application data of each connection points to, `none` for a null pointer. -/
structure BaseLearningSwitch where
  applicationData : Nat → Option L2Table

inductive Event (π : Type)
  | switchUp (connection : Nat) (version : BitVec 8)
  | switchDown (connection : Nat)
  | packetIn (connection : Nat) (pi : π)
deriving DecidableEq, Repr

def Event.connection {π : Type} : Event π → Nat
  | .switchUp connection _ | .switchDown connection | .packetIn connection _ => connection

def Event.map {π ρ : Type} (f : π → ρ) : Event π → Event ρ
  | .switchUp connection version => .switchUp connection version
  | .switchDown connection => .switchDown connection
  | .packetIn connection pi => .packetIn connection (f pi)

def readMac (data : Frame) (index : Nat) : Except Fault (BitVec 64) :=
  ((readEthAddress data index).mapError .frameRead).map macKey

namespace BaseLearningSwitch

def initial : BaseLearningSwitch := { applicationData := fun _ => none }

def setApplicationData (app : BaseLearningSwitch) (connection : Nat) (table : L2Table) : BaseLearningSwitch :=
  { applicationData := Function.update app.applicationData connection (some table) }

def switchUp (app : BaseLearningSwitch) (connection : Nat) : BaseLearningSwitch :=
  app.setApplicationData connection .empty

def switchDown (app : BaseLearningSwitch) (connection : Nat) : BaseLearningSwitch :=
  match app.applicationData connection with
  | none => app
  | some _ => app.setApplicationData connection .empty

end BaseLearningSwitch

inductive Decision
  | flood
  | install (src dst : BitVec 64) (outPort : BitVec 16)
deriving DecidableEq, Repr

/-- The lookup sees the source that was learned just before. -/
def learn (l2table : L2Table) (src dst : BitVec 64) (inPort : BitVec 16) : L2Table × Decision :=
  let l2table := l2table.set src inPort
  match l2table.lookup dst with
  | none => (l2table, .flood)
  | some port => (l2table, .install src dst port)

namespace BaseLearningSwitch

/-- A PACKET_IN is ignored until its connection has a table. -/
def eventCallback {π : Type} (handle : L2Table → π → Except Fault (L2Table × Option Decision))
    (app : BaseLearningSwitch) : Event π → Except Fault (BaseLearningSwitch × Option Decision)
  | .switchUp connection _ => .ok (app.switchUp connection, none)
  | .switchDown connection => .ok (app.switchDown connection, none)
  | .packetIn connection pi =>
      match app.applicationData connection with
      | none => .ok (app, none)
      | some l2table => do
          let (l2table, decision) ← handle l2table pi
          return (app.setApplicationData connection l2table, decision)

end BaseLearningSwitch

namespace RawLearningSwitch

def handlePacketIn (l2table : L2Table) (pi : PacketIn10) : Except Fault (L2Table × Option Decision) := do
  let dst ← readMac pi.data 0
  let src ← readMac pi.data 6
  let (l2table, decision) := learn l2table src dst pi.inPort
  return (l2table, some decision)

def eventCallback : BaseLearningSwitch → Event PacketIn10 → Except Fault (BaseLearningSwitch × Option Decision) :=
  BaseLearningSwitch.eventCallback handlePacketIn

end RawLearningSwitch

namespace MultiLearningSwitch

def installFlowMod10 (pi : PacketIn10) (src dst : BitVec 64) (outPort : BitVec 16) : Message :=
  .flowMod10
    { xid := pi.xid
      cookie := 123
      command := .add
      idleTimeout := 5
      hardTimeout := 10
      priority := 100
      bufferId := pi.bufferId
      outPort := 0
      flags := 0
      match_ := Of10.setDlDst (Of10.setDlSrc Of10.emptyMatch (keyMac src)) (keyMac dst)
      actions := [.output outPort 1024] }

def flood10 (pi : PacketIn10) : Message :=
  .packetOut10
    { xid := pi.xid
      bufferId := pi.bufferId
      inPort := pi.inPort
      data := if pi.bufferId = noBuffer then pi.data else []
      actions := [.output ofppFlood 1024] }

def installDefaultFlow13 : Message :=
  .flowMod13
    { xid := 42
      cookie := 0
      cookieMask := 0xffffffffffffffff
      tableId := 0
      command := .add
      idleTimeout := 0
      hardTimeout := 0
      priority := 0
      bufferId := 0xffffffff
      outPort := 0
      outGroup := 0
      flags := 0
      ethSrc := none
      ethDst := none
      applyActions := [⟨Of13.ofppController, Of13.ofpcmlNoBuffer⟩] }

def installFlowMod13 (pi : PacketIn13) (src dst : BitVec 64) (outPort : BitVec 32) : List Message :=
  [.flowMod13
    { xid := pi.xid
      cookie := 123
      cookieMask := 0xffffffffffffffff
      tableId := 0
      command := .add
      idleTimeout := 5
      hardTimeout := 10
      priority := 100
      bufferId := pi.bufferId
      outPort := 0
      outGroup := 0
      flags := 0
      ethSrc := some (keyMac src)
      ethDst := some (keyMac dst)
      applyActions := [⟨outPort, 1024⟩] },
   .multipartRequestFlow
    { xid := 2
      flags := 0
      tableId := 0
      outPort := Of13.ofppAny
      outGroup := Of13.ofpgAny
      cookie := 0
      cookieMask := 0 }]

/-- The local variable is a `uint16_t` under 1.3 too. -/
def localInPort (value : BitVec 32) : BitVec 16 := value.setWidth 16

def flood13 (pi : PacketIn13) (inPort : BitVec 32) : Message :=
  .packetOut13
    { xid := pi.xid
      bufferId := pi.bufferId
      inPort := inPort
      data := if pi.bufferId = noBuffer then pi.data else []
      actions := [⟨Of13.ofppFlood, 1024⟩] }

def handlePacketIn10 (l2table : L2Table) (pi : PacketIn10) : Except Fault (L2Table × Option Decision) := do
  let dst ← readMac pi.data 0
  let src ← readMac pi.data 6
  let (l2table, decision) := learn l2table src dst pi.inPort
  return (l2table, some decision)

def handlePacketIn13 (l2table : L2Table) (pi : PacketIn13) : Except Fault (L2Table × Option Decision) := do
  let dst ← readMac pi.data 0
  let src ← readMac pi.data 6
  match pi.inPort with
  | none => return (l2table, none)
  | some value =>
      let (l2table, decision) := learn l2table src dst (localInPort value)
      return (l2table, some decision)

/-- Under another version the source learns a port that was never initialised. -/
def handlePacketIn (l2table : L2Table) : PacketInMessage → Except Fault (L2Table × Option Decision)
  | .of10 pi => handlePacketIn10 l2table pi
  | .of13 pi => handlePacketIn13 l2table pi
  | .other _ => .error .unknownVersion

def respond : PacketInMessage → Decision → List Message
  | .of10 pi, .flood => [flood10 pi]
  | .of10 pi, .install src dst outPort => [installFlowMod10 pi src dst outPort]
  | .of13 pi, .flood => [flood13 pi ((localInPort (pi.inPort.getD 0)).setWidth 32)]
  | .of13 pi, .install src dst outPort => installFlowMod13 pi src dst (outPort.setWidth 32)
  | .other _, _ => []

def decide : BaseLearningSwitch → Event PacketInMessage → Except Fault (BaseLearningSwitch × Option Decision) :=
  BaseLearningSwitch.eventCallback handlePacketIn

def messages : Event PacketInMessage → Option Decision → List Message
  | .switchUp _ version, _ => if version = Of13.ofpVersion then [installDefaultFlow13] else []
  | .switchDown _, _ => []
  | .packetIn _ pi, decision => decision.elim [] (respond pi)

def eventCallback (app : BaseLearningSwitch) (event : Event PacketInMessage) :
    Except Fault (BaseLearningSwitch × List Message) := do
  let (app, decision) ← decide app event
  return (app, messages event decision)

end MultiLearningSwitch

end Libfluid.Controller
