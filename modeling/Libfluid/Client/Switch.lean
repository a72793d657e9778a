import Libfluid.Client.OFClient
import Libfluid.Library.Run
import Libfluid.Switch.FlowTable

/-!
# The example switch

The client keeps a connection to its controller and hands the messages to the datapath, which answers over the
connection that the client made last. Threads of the ports bring frames in between.
-/

namespace Libfluid.Client
open Library
open Libfluid.Switch (Datapath Fault FlowMod Frame Packet PacketIn PacketOut)

structure Link where
  cc : OFConnection
  up : Bool
  timers : Nat
deriving DecidableEq, Repr

inductive Sent
  | hello (version : BitVec 8) (xid : BitVec 32)
  | message (m : Outgoing)
  | barrierReply (xid : BitVec 32)
  | packetIn (pi : PacketIn)
deriving DecidableEq, Repr

inductive Output
  | sent (link : Nat) (m : Sent)
  /-- By the client itself. -/
  | closed (link : Nat)
  | inject (portNo : Nat) (data : Frame)
deriving DecidableEq, Repr

def Output.isClosed : Output → Bool
  | .closed _ => true
  | .sent .. | .inject .. => false

def ofptPacketOut : BitVec 8 := 13
def ofptFlowMod : BitVec 8 := 14
def ofptBarrierRequest : BitVec 8 := 18

structure Build where
  client : OFClient
  maxSupportedVersion : BitVec 8
  helloXid : BitVec 32
  unpackFlowMod : OFMessage → FlowMod
  unpackPacketOut : OFMessage → PacketOut

structure Switch where
  dp : Datapath
  /-- Every connection that was ever made. -/
  links : List Link
  /-- The threads that try to connect. -/
  attempts : Nat
  running : Bool
  log : List Output

namespace Switch

def create (n : Nat) : Switch where
  dp := .create n
  links := []
  attempts := 1
  running := true
  log := []

def conn (s : Switch) : Option Nat := if s.links.isEmpty then none else some (s.links.length - 1)

def Up (s : Switch) (i : Nat) : Prop := ∃ link, s.links[i]? = some link ∧ link.up = true

instance (s : Switch) (i : Nat) : Decidable (s.Up i) :=
  decidable_of_iff ((s.links[i]?).any Link.up = true) (Option.any_eq_true _ _)

def record (s : Switch) (output : Output) : Switch := { s with log := s.log ++ [output] }

/-- What is sent over a closed connection is lost. -/
def send (s : Switch) (i : Nat) (m : Sent) : Switch := if s.Up i then s.record (.sent i m) else s

def updateLink (s : Switch) (i : Nat) (f : Link → Link) : Switch := { s with links := s.links.modify i f }

def close (s : Switch) (i : Nat) : Switch := s.updateLink i fun link => { link with up := false, timers := 0 }

def startConn (s : Switch) : Switch := { s with attempts := s.attempts + 1 }

def stopConn (s : Switch) : Switch := s.conn.elim s s.close

/-! ## The datapath in the switch -/

def deliver (s : Switch) : Switch.Effect → Switch
  | .inject portNo data => s.record (.inject portNo data)
  | .packetIn pi => s.conn.elim s fun i => s.send i (.packetIn pi)
  | .delete _ => s

def onDatapath (s : Switch) (event : Switch.Event) : Except Fault Switch := do
  let (dp, effects) ← s.dp.step event
  return effects.foldl deliver { s with dp := dp }

def handleBarrierRequest (s : Switch) (xid : BitVec 32) : Except Fault Switch :=
  s.conn.elim (.error .noConnection) fun i => .ok (s.send i (.barrierReply xid))

variable (build : Build)

def messageCallback (s : Switch) (m : OFMessage) : Except Fault Switch :=
  if m.type = ofptBarrierRequest then s.handleBarrierRequest m.xid
  else if m.type = ofptPacketOut then s.onDatapath (.packetOut (build.unpackPacketOut m))
  else if m.type = ofptFlowMod then s.onDatapath (.flowMod (build.unpackFlowMod m))
  else .ok s

/-! ## The client in the switch -/

/-- Of the connection events only CLOSED has an effect on the switch, and the client never sends that one. -/
def perform (i : Nat) (s : Switch) : Effect → Except Fault Switch
  | .send m => .ok (s.send i (.message m))
  | .close => .ok (if s.Up i then (s.close i).record (.closed i) else s)
  | .connectionCallback _ => .ok s
  | .messageCallback m => s.messageCallback build m
  | .addTimedCallback _ => .ok (s.updateLink i fun link => { link with timers := link.timers + 1 })

def performAll (i : Nat) : List Effect → Switch → Except Fault Switch
  | [], s => .ok s
  | effect :: rest, s => do
      let s ← perform build i s effect
      performAll i rest s

def finish (s : Switch) (i : Nat) (result : OFConnection × List Effect) : Except Fault Switch :=
  performAll build i result.2 (s.updateLink i fun link => { link with cc := result.1 })

def baseConnectionUp (s : Switch) : Switch :=
  let i := s.links.length
  let s := { s with
    dp := { s.dp with conn := true }
    links := s.links ++ [{ cc := OFClient.newConnection, up := true, timers := 0 }]
    attempts := s.attempts - 1 }
  if build.client.ofsc.handshake then s.send i (.hello build.maxSupportedVersion build.helloXid) else s

def stop (s : Switch) : Switch := { s.stopConn with attempts := 0, running := false }

end Switch

inductive SwitchEvent
  | connected
  | message (link : Nat) (m : OFMessage)
  | timer (link : Nat)
  /-- The peer closed the connection, or it broke. -/
  | down (link : Nat)
  | capture (packet : Packet) (len : BitVec 32)
  | overwrite (pkt : Switch.Ptr) (index : Nat) (byte : Byte)
  | stop
deriving DecidableEq, Repr

namespace Switch

variable (build : Build)

/-- A closed connection is silent: no messages, no timers, and it goes down no more. -/
def Enabled (s : Switch) : SwitchEvent → Prop
  | .connected => s.running ∧ 0 < s.attempts
  | .message i _ | .down i => s.running ∧ s.Up i
  | .timer i => s.running ∧ s.Up i ∧ ∃ link, s.links[i]? = some link ∧ 0 < link.timers
  | .capture .. | .overwrite .. | .stop => s.running

def step (s : Switch) : SwitchEvent → Except Fault Switch
  | .connected => .ok (s.baseConnectionUp build)
  | .message i m =>
      (s.links[i]?).elim (.ok s) fun link => s.finish build i (build.client.baseMessageCallback link.cc m)
  | .timer i => (s.links[i]?).elim (.ok s) fun link => s.finish build i (build.client.sendEcho link.cc)
  | .down _ => .ok s.stopConn.startConn
  | .capture packet len => s.onDatapath (.capture packet len)
  | .overwrite pkt index byte => s.onDatapath (.overwrite pkt index byte)
  | .stop => .ok s.stop

def Steps (s : Switch) (event : SwitchEvent) (s' : Switch) : Prop :=
  s.Enabled event ∧ s.step build event = .ok s'

end Switch

end Libfluid.Client
