import Libfluid.Controller.Exchange
import Libfluid.Controller.Network

/-!
# The learning switches in the loop

The example switch and a learning switch over OpenFlow 1.0, with a queue for each direction. The switch treats
messages alike that differ only in what it does not look at, so a run can be followed without that.
-/

namespace Libfluid.Controller
open Library Switch

inductive LoopFault
  | dp (fault : Switch.Fault)
  | app (fault : Fault)
  | bounds (fault : OutOfBounds)
deriving DecidableEq, Repr

/-- An application: what the switch reads from the messages that answer an event. -/
abbrev Answering :=
  BaseLearningSwitch → Event Switch.PacketIn → Except LoopFault (BaseLearningSwitch × List Switch.Event)

def readMessage (bytes : List Byte) : Option Switch.Event :=
  if byteAt bytes 1 = Of10.ofptPacketOut then (readPacketOut bytes).map fun po => .packetOut po.toPacketOut
  else if byteAt bytes 1 = Of10.ofptFlowMod then (readFlowMod bytes).map fun fm => .flowMod fm.toFlowMod
  else none

def Message.onSwitch : Message → Option Switch.Event
  | .flowMod10 fm => some (.flowMod fm.toFlowMod)
  | .packetOut10 po => some (.packetOut po.toPacketOut)
  | .flowMod13 _ | .packetOut13 _ | .multipartRequestFlow _ => none

namespace RawLearningSwitch

/-- The bytes of a PACKET_IN of the switch, whose identifier is a constant. -/
def received (pi : Switch.PacketIn) : Frame := packetInBytes { pi with xid := 21 }

def messages (data : Frame) : Option Decision → Except OutOfBounds (List (List Byte))
  | none => .ok []
  | some .flood => do
      let sent ← flood data
      return [sent]
  | some (.install src dst outPort) => do
      let sent ← installFlowMod data (word32At data 4) src dst outPort
      return [sent]

def answering : Answering := fun app event => do
  let (app, decision) ← (eventCallback app (event.map fun pi => readPacketIn (received pi))).mapError .app
  match event with
  | .packetIn _ pi => do
      let sent ← (messages (received pi) decision).mapError .bounds
      return (app, sent.filterMap readMessage)
  | .switchUp _ _ | .switchDown _ => return (app, [])

end RawLearningSwitch

def MultiLearningSwitch.answering : Answering := fun app event => do
  let (app, messages) ← (eventCallback app (event.map toController)).mapError .app
  return (app, messages.filterMap Message.onSwitch)

/-- The messages between the switch and the application are there as their receiver reads them, oldest first. -/
structure Loop where
  dp : Datapath
  app : BaseLearningSwitch
  connection : Nat
  up : List Switch.PacketIn
  down : List Switch.Event

inductive LoopEvent
  | capture (packet : Packet) (len : BitVec 32)
  | overwrite (pkt : Ptr) (index : Nat) (byte : Byte)
  | connect (connection : Nat)
  | switchUp
  | switchDown (connection : Nat)
  | packetIn
  | message
deriving DecidableEq, Repr

namespace Loop

def start (n : Nat) : Loop where
  dp := .create n
  app := .initial
  connection := 0
  up := []
  down := []

def onDatapath (loop : Loop) (event : Switch.Event) : Except LoopFault (Loop × List Effect) := do
  let (dp, sent) ← (loop.dp.step event).mapError .dp
  return ({ loop with dp := dp, up := loop.up ++ packetIns sent }, sent)

def onApp (answering : Answering) (loop : Loop) (event : Event Switch.PacketIn) :
    Except LoopFault (Loop × List Effect) := do
  let (app, messages) ← answering loop.app event
  return ({ loop with app := app, down := loop.down ++ messages }, [])

/-- With a connection go the messages on it. -/
def step (answering : Answering) (loop : Loop) : LoopEvent → Except LoopFault (Loop × List Effect)
  | .capture packet len => loop.onDatapath (.capture packet len)
  | .overwrite pkt index byte => loop.onDatapath (.overwrite pkt index byte)
  | .connect connection => { loop with connection := connection, up := [], down := [] }.onDatapath (.connection true)
  -- The switch speaks version 1 only, and the features reply names no other.
  | .switchUp => loop.onApp answering (.switchUp loop.connection 1)
  | .switchDown connection => loop.onApp answering (.switchDown connection)
  | .packetIn =>
      match loop.up with
      | [] => .ok (loop, [])
      | pi :: rest => { loop with up := rest }.onApp answering (.packetIn loop.connection pi)
  | .message =>
      match loop.down with
      | [] => .ok (loop, [])
      | event :: rest => { loop with down := rest }.onDatapath event

def run (answering : Answering) : Loop → List LoopEvent → Except LoopFault (Loop × List Effect) :=
  runLog (step answering)

end Loop

/-! ## Messages that the switch treats alike -/

/-- Without the lengths that do not matter and the data behind the identifier of a buffer. -/
def bareEvent : Switch.Event → Switch.Event
  | .packetOut po => .packetOut { po.erase with data := if po.bufferId = noBuffer then po.data else [] }
  | .capture packet len => .capture packet len
  | .flowMod fm => .flowMod fm.erase
  | .connection up => .connection up
  | .overwrite pkt index byte => .overwrite pkt index byte

theorem handlePacketOut_data (dp : Datapath) (po : PacketOut) (named : po.bufferId ≠ noBuffer) (data : Frame) :
    dp.handlePacketOut { po with data := data } = dp.handlePacketOut po := by
  have packet : dp.packetOutPacket { po with data := data } = dp.packetOutPacket po := by
    simp only [Datapath.packetOutPacket, if_neg named]
  rw [Datapath.handlePacketOut_eq, Datapath.handlePacketOut_eq, packet]

theorem datapathStep_bare (dp : Datapath) (event : Switch.Event) :
    dp.erase.step (bareEvent event) = Datapath.eraseResult (dp.step event) := by
  rw [← Datapath.step_erase]
  cases event with
  | packetOut po =>
      by_cases unnamed : po.bufferId = noBuffer
      · rw [bareEvent, if_pos unnamed]
        rfl
      · exact handlePacketOut_data dp.erase po.erase unnamed _
  | capture packet len | flowMod fm | connection up | overwrite p index byte => rfl

def Answering.bare (answering : Answering) : Answering := fun app event =>
  (answering app event).map (Prod.map id (List.map bareEvent))

namespace Loop

def bare (loop : Loop) : Loop := { loop with dp := loop.dp.erase, down := loop.down.map bareEvent }

theorem onDatapath_bare (loop : Loop) (event : Switch.Event) :
    loop.bare.onDatapath (bareEvent event) = (loop.onDatapath event).map (Prod.map bare id) := by
  show ((loop.dp.erase.step (bareEvent event)).mapError LoopFault.dp >>= _) = _
  rw [datapathStep_bare, onDatapath]
  cases loop.dp.step event <;> rfl

theorem onApp_bare (answering : Answering) (loop : Loop) (event : Event Switch.PacketIn) :
    loop.bare.onApp answering.bare event = (loop.onApp answering event).map (Prod.map bare id) := by
  show ((answering loop.app event).map _ >>= _) = _
  rw [onApp]
  cases answering loop.app event with
  | error fault => rfl
  | ok done =>
      show Except.ok (Loop.mk _ _ _ _ _, _) = Except.ok (Loop.mk _ _ _ _ _, _)
      rw [List.map_append]
      rfl

theorem step_bare (answering : Answering) (loop : Loop) (event : LoopEvent) :
    loop.bare.step answering.bare event = (loop.step answering event).map (Prod.map bare id) := by
  cases event with
  | capture packet len => exact onDatapath_bare loop (.capture packet len)
  | overwrite pkt index byte => exact onDatapath_bare loop (.overwrite pkt index byte)
  | connect connection =>
      exact onDatapath_bare { loop with connection := connection, up := [], down := [] } (.connection true)
  | switchUp => exact onApp_bare answering loop (.switchUp loop.connection 1)
  | switchDown connection => exact onApp_bare answering loop (.switchDown connection)
  | packetIn =>
      obtain ⟨dp, app, connection, up, down⟩ := loop
      cases up with
      | nil => rfl
      | cons pi rest => exact onApp_bare answering ⟨dp, app, connection, rest, down⟩ (.packetIn connection pi)
  | message =>
      obtain ⟨dp, app, connection, up, down⟩ := loop
      cases down with
      | nil => rfl
      | cons event rest => exact onDatapath_bare ⟨dp, app, connection, up, rest⟩ event

theorem run_bare (answering : Answering) (loop : Loop) (events : List LoopEvent) :
    loop.bare.run answering.bare events = (loop.run answering events).map (Prod.map bare id) :=
  runLog_map (step_bare answering) loop events

end Loop

end Libfluid.Controller
