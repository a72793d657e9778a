import Libfluid.Controller.Learning
import Libfluid.Library.Except
import Libfluid.Library.Heap

/-!
# The controller and its applications

The controller hands events to the applications that have registered for them, and it owns the messages
behind the events. The tables of the learning switches are objects of a heap, which the application data
of the connections point to: one slot for each connection, whichever applications there are.
-/

namespace Libfluid.Controller
open Library

abbrev Pointer := Nat

inductive EventType
  | packetIn
  | switchDown
  | switchUp
deriving DecidableEq, Repr

inductive ConnectionEvent
  | started
  | established
  | failedNegotiation
  | closed
  | dead
deriving DecidableEq, Repr

inductive ControllerEvent
  | packetIn (ofconn : Nat) (data : Pointer)
  | switchUp (ofconn : Nat) (data : Pointer)
  | switchDown (ofconn : Nat)
deriving DecidableEq, Repr

def ControllerEvent.getType : ControllerEvent → EventType
  | .packetIn .. => .packetIn
  | .switchUp .. => .switchUp
  | .switchDown _ => .switchDown

/-- `π` is what the data of a message reads as. -/
structure Server (π : Type) where
  eventListeners : EventType → List Nat
  running : Bool
  applicationData : Nat → Option Pointer
  tables : Heap L2Table
  /-- The list of each application. -/
  l2tables : Nat → List Pointer
  messages : Heap π

inductive ServerFault
  | freedTable (table : Pointer)
  | freedMessage (data : Pointer)
  | handler (fault : Fault)
deriving DecidableEq, Repr

abbrev Called := Nat × Option Decision

namespace Server

variable {π : Type}

def initial (eventListeners : EventType → List Nat) : Server π where
  eventListeners := eventListeners
  running := true
  applicationData := fun _ => none
  tables := []
  l2tables := fun _ => []
  messages := []

def table (server : Server π) (l2table : Pointer) : Except ServerFault L2Table :=
  (server.tables.read l2table).elim (.error (.freedTable l2table)) .ok

def message (server : Server π) (data : Pointer) : Except ServerFault π :=
  (server.messages.read data).elim (.error (.freedMessage data)) .ok

def newTable (server : Server π) (app ofconn : Nat) : Server π :=
  { server with
    applicationData := Function.update server.applicationData ofconn (some server.tables.length)
    tables := server.tables.alloc .empty
    l2tables := Function.update server.l2tables app (server.l2tables app ++ [server.tables.length]) }

def writeTable (server : Server π) (l2table : Pointer) (entries : L2Table) : Server π :=
  { server with tables := server.tables.write l2table entries }

section Callbacks

variable (handle : L2Table → π → Except Fault (L2Table × Option Decision))

def eventCallback (app : Nat) (server : Server π) : ControllerEvent → Except ServerFault (Server π × Called)
  | .switchUp ofconn _ => .ok (server.newTable app ofconn, app, none)
  | .switchDown ofconn =>
      match server.applicationData ofconn with
      | none => .ok (server, app, none)
      | some l2table => do
          let _ ← server.table l2table
          return (server.writeTable l2table .empty, app, none)
  | .packetIn ofconn data =>
      match server.applicationData ofconn with
      | none => .ok (server, app, none)
      | some l2table => do
          let entries ← server.table l2table
          let pi ← server.message data
          let (entries, decision) ← (handle entries pi).mapError .handler
          return (server.writeTable l2table entries, app, decision)

def callAll (ev : ControllerEvent) : List Nat → Server π → Except ServerFault (Server π × List Called)
  | [], server => .ok (server, [])
  | app :: rest, server => do
      let (server, called) ← eventCallback handle app server ev
      let (server, later) ← callAll ev rest server
      return (server, called :: later)

/-- The event owns the data of its message. -/
def deleteEvent (server : Server π) : ControllerEvent → Except ServerFault (Server π)
  | .packetIn _ data | .switchUp _ data => do
      let _ ← server.message data
      return { server with messages := server.messages.free data }
  | .switchDown _ => .ok server

def dispatchEvent (server : Server π) (ev : ControllerEvent) : Except ServerFault (Server π × List Called) := do
  let (server, called) ←
    if server.running then callAll handle ev (server.eventListeners ev.getType) server else .ok (server, [])
  let server ← server.deleteEvent ev
  return (server, called)

def ofptPacketIn : BitVec 8 := 10
def ofptFeaturesReply : BitVec 8 := 6

/-- The data of other messages is left to the controller too, which does nothing with it. -/
def messageCallback (server : Server π) (ofconn : Nat) (type : BitVec 8) (content : π) :
    Except ServerFault (Server π × List Called) :=
  let data := server.messages.length
  let server := { server with messages := server.messages.alloc content }
  if type = ofptPacketIn then server.dispatchEvent handle (.packetIn ofconn data)
  else if type = ofptFeaturesReply then server.dispatchEvent handle (.switchUp ofconn data)
  else .ok (server, [])

def connectionCallback (server : Server π) (ofconn : Nat) : ConnectionEvent → Except ServerFault
    (Server π × List Called)
  | .closed | .dead => server.dispatchEvent handle (.switchDown ofconn)
  | .started | .established | .failedNegotiation => .ok (server, [])

end Callbacks

def stop (server : Server π) : Server π := { server with running := false }

def deleteTables (tables : Heap L2Table) : List Pointer → Except ServerFault (Heap L2Table)
  | [] => .ok tables
  | l2table :: rest =>
      if (tables.read l2table).isSome then deleteTables (tables.free l2table) rest
      else .error (.freedTable l2table)

def destroy (server : Server π) (app : Nat) : Except ServerFault (Server π) := do
  let tables ← deleteTables server.tables (server.l2tables app)
  return { server with tables := tables, l2tables := Function.update server.l2tables app [] }

end Server

inductive ServerEvent (π : Type)
  /-- With the version that the connection has by then. -/
  | message (ofconn : Nat) (version type : BitVec 8) (content : π)
  | connection (ofconn : Nat) (event : ConnectionEvent)
  | stop
  | destroy (app : Nat)
deriving DecidableEq, Repr

def Server.step {π : Type} (handle : L2Table → π → Except Fault (L2Table × Option Decision)) (server : Server π) :
    ServerEvent π → Except ServerFault (Server π × List Called)
  | .message ofconn _ type content => server.messageCallback handle ofconn type content
  | .connection ofconn event => server.connectionCallback handle ofconn event
  | .stop => .ok (server.stop, [])
  | .destroy app => do
      let server ← server.destroy app
      return (server, [])

def Server.run {π : Type} (handle : L2Table → π → Except Fault (L2Table × Option Decision)) :
    Server π → List (ServerEvent π) → Except ServerFault (Server π × List Called)
  | server, [] => .ok (server, [])
  | server, event :: rest => do
      let (server, called) ← server.step handle event
      let (server, later) ← run handle server rest
      return (server, called ++ later)

end Libfluid.Controller
