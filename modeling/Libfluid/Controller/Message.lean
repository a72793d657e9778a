import Libfluid.Switch.Datapath

/-!
# Messages of the learning switches

The messages that the learning switches read and send, over OpenFlow 1.0 and 1.3. The 1.0 messages are
those of the example switch with the fields that only the controller sets.
-/

namespace Libfluid.Controller
open Library Switch

structure PacketIn10 extends Switch.PacketIn where
  xid : BitVec 32
deriving DecidableEq, Repr

structure FlowMod10 extends Switch.FlowMod where
  xid : BitVec 32
  cookie : BitVec 64
  idleTimeout : BitVec 16
  hardTimeout : BitVec 16
  outPort : BitVec 16
  flags : BitVec 16
deriving DecidableEq, Repr

structure PacketOut10 extends Switch.PacketOut where
  xid : BitVec 32
deriving DecidableEq, Repr

structure PacketIn13 where
  xid : BitVec 32
  bufferId : BitVec 32
  inPort : Option (BitVec 32)
  data : Frame
deriving DecidableEq, Repr

structure OutputAction13 where
  port : BitVec 32
  maxLen : BitVec 16
deriving DecidableEq, Repr

structure FlowMod13 where
  xid : BitVec 32
  cookie : BitVec 64
  cookieMask : BitVec 64
  tableId : BitVec 8
  command : FlowModCommand
  idleTimeout : BitVec 16
  hardTimeout : BitVec 16
  priority : BitVec 16
  bufferId : BitVec 32
  outPort : BitVec 32
  outGroup : BitVec 32
  flags : BitVec 16
  ethSrc : Option EthAddress
  ethDst : Option EthAddress
  applyActions : List OutputAction13
deriving DecidableEq, Repr

structure PacketOut13 where
  xid : BitVec 32
  bufferId : BitVec 32
  inPort : BitVec 32
  actions : List OutputAction13
  data : Frame
deriving DecidableEq, Repr

structure MultipartRequestFlow where
  xid : BitVec 32
  flags : BitVec 16
  tableId : BitVec 8
  outPort : BitVec 32
  outGroup : BitVec 32
  cookie : BitVec 64
  cookieMask : BitVec 64
deriving DecidableEq, Repr

inductive PacketInMessage
  | of10 (pi : PacketIn10)
  | of13 (pi : PacketIn13)
  | other (version : BitVec 8)
deriving DecidableEq, Repr

inductive Message
  | flowMod10 (fm : FlowMod10)
  | packetOut10 (po : PacketOut10)
  | flowMod13 (fm : FlowMod13)
  | packetOut13 (po : PacketOut13)
  | multipartRequestFlow (rf : MultipartRequestFlow)
deriving DecidableEq, Repr

namespace Of10

def emptyMatch : Match :=
  { wildcards := ofpfwAll, inPort := 0, dlSrc := ⟨0, 0, 0, 0, 0, 0⟩, dlDst := ⟨0, 0, 0, 0, 0, 0⟩, dlVlan := 0,
    dlVlanPcp := 0, dlType := 0, nwTos := 0, nwProto := 0, nwSrc := 0, nwDst := 0, tpSrc := 0, tpDst := 0 }

def setDlSrc (m : Match) (address : EthAddress) : Match :=
  { m with dlSrc := address, wildcards := m.wildcards &&& ~~~ofpfwDlSrc }

def setDlDst (m : Match) (address : EthAddress) : Match :=
  { m with dlDst := address, wildcards := m.wildcards &&& ~~~ofpfwDlDst }

end Of10

namespace Of13

def ofpVersion : BitVec 8 := 0x04
def ofppFlood : BitVec 32 := 0xfffffffb
def ofppController : BitVec 32 := 0xfffffffd
def ofppAny : BitVec 32 := 0xffffffff
def ofpgAny : BitVec 32 := 0xffffffff
def ofpcmlNoBuffer : BitVec 16 := 0xffff

end Of13

end Libfluid.Controller
