import Libfluid.Library.Bytes

namespace Libfluid.Client
open Library

inductive ConnectionState
  | handshake
  | running
  | failed
deriving DecidableEq, Repr

inductive ConnectionEvent
  | established
  | failedNegotiation
  | dead
deriving DecidableEq, Repr

structure OFConnection where
  state : ConnectionState
  version : BitVec 8
  alive : Bool
deriving DecidableEq, Repr

structure OFServerSettings where
  supportedVersions : BitVec 32
  handshake : Bool
  livenessCheck : Bool
  dispatchAllMessages : Bool
  /-- In seconds. -/
  echoInterval : Nat
deriving DecidableEq, Repr

structure OFMessage where
  version : BitVec 8
  type : BitVec 8
  xid : BitVec 32
  body : List Byte
deriving DecidableEq, Repr

def ofptHello : BitVec 8 := 0
def ofptEchoRequest : BitVec 8 := 2
def ofptEchoReply : BitVec 8 := 3
def ofptFeaturesRequest : BitVec 8 := 5
def ofpetHelloFailed : BitVec 16 := 0
def ofphfcIncompatible : BitVec 16 := 0

inductive Outgoing
  | echoReply (version : BitVec 8) (xid : BitVec 32)
  | error (version : BitVec 8) (xid : BitVec 32) (type code : BitVec 16)
  | featuresReply (xid : BitVec 32) (datapathId : BitVec 64) (nBuffers : BitVec 32) (nTables : BitVec 8)
      (capabilities actions : BitVec 32)
  | echoRequest (version : BitVec 8) (xid : BitVec 32)
deriving DecidableEq, Repr

inductive Effect
  | send (m : Outgoing)
  | close
  | connectionCallback (event : ConnectionEvent)
  | messageCallback (m : OFMessage)
  /-- The interval is in milliseconds. -/
  | addTimedCallback (interval : Nat)
deriving DecidableEq, Repr

/-- The identifier of the client's echo requests is a constant of the base library. -/
structure OFClient where
  ofsc : OFServerSettings
  datapathId : BitVec 64
  echoXid : BitVec 32
  /-- What the shift by a version gives that is not in 1 to 32, where the source leaves it undefined. -/
  undefinedShift : BitVec 8 → BitVec 32

def versionBit (version : BitVec 8) : BitVec 32 :=
  if 1 ≤ version ∧ version ≤ 32 then 1 <<< (version.toNat - 1) else 0

namespace OFClient

def dispatchIfAll (client : OFClient) (m : OFMessage) : List Effect :=
  if client.ofsc.dispatchAllMessages then [.messageCallback m] else []

def shiftedBit (client : OFClient) (version : BitVec 8) : BitVec 32 :=
  if 1 ≤ version ∧ version ≤ 32 then versionBit version else client.undefinedShift version

/-- The test of a HELLO. The source writes `not bitmap & bit`, where `not` applies to the bitmap alone. -/
def rejects (client : OFClient) (version : BitVec 8) : Bool :=
  let notSupported : BitVec 32 := if client.ofsc.supportedVersions = 0 then 1 else 0
  notSupported &&& client.shiftedBit version != 0

def baseMessageCallback (client : OFClient) (cc : OFConnection) (m : OFMessage) : OFConnection × List Effect :=
  if client.ofsc.livenessCheck ∧ m.type = ofptEchoRequest then
    (cc, .send (.echoReply m.version m.xid) :: client.dispatchIfAll m)
  else if client.ofsc.handshake ∧ m.type = ofptHello then
    if client.rejects m.version then
      ({ cc with state := .failed },
        [.send (.error m.version m.xid ofpetHelloFailed ofphfcIncompatible), .close,
          .connectionCallback .failedNegotiation] ++ client.dispatchIfAll m)
    else (cc, client.dispatchIfAll m)
  else if client.ofsc.livenessCheck ∧ m.type = ofptEchoReply then
    (if m.xid = client.echoXid then { cc with alive := true } else cc, client.dispatchIfAll m)
  else if client.ofsc.handshake ∧ m.type = ofptFeaturesRequest then
    ({ cc with version := m.version, state := .running },
      [.send (.featuresReply m.xid client.datapathId 1 1 0 0)] ++
        (if client.ofsc.livenessCheck then [.addTimedCallback (client.ofsc.echoInterval * 1000)] else []) ++
          [.connectionCallback .established, .messageCallback m])
  else (cc, [.messageCallback m])

def sendEcho (client : OFClient) (cc : OFConnection) : OFConnection × List Effect :=
  if !cc.alive then (cc, [.close, .connectionCallback .dead])
  else ({ cc with alive := false }, [.send (.echoRequest cc.version client.echoXid)])

def sampleClient : OFClient where
  ofsc :=
    { supportedVersions := 1, handshake := true, livenessCheck := true, dispatchAllMessages := false,
      echoInterval := 1 }
  datapathId := 1
  echoXid := 15
  undefinedShift := fun version => 1 <<< ((version.toNat + 31) % 32)

def newConnection : OFConnection := { state := .handshake, version := 0, alive := true }

def sampleMessage (version type : BitVec 8) : OFMessage := { version := version, type := type, xid := 0, body := [] }

end OFClient

end Libfluid.Client
