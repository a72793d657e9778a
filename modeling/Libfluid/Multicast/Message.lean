import Libfluid.Switch.Match

/-!
# Messages of the multicast agent

The OpenFlow 1.3 messages that the agent reads and sends. A message is the value of its fields at the
time it is packed.
-/

namespace Libfluid.Multicast
open Library Switch

inductive OxmField
  | ethType (value : BitVec 16)
  | ethDst (value : EthAddress)
  | ipProto (value : BitVec 8)
  | ipv4Src (value : BitVec 32)
  | ipv4Dst (value : BitVec 32)
  | udpSrc (value : BitVec 16)
  | udpDst (value : BitVec 16)
deriving DecidableEq, Repr

inductive Action
  | setField (field : OxmField) (order : Nat)
  | output (port : BitVec 32) (maxLen : BitVec 16)
  | group (groupId : BitVec 32)
deriving DecidableEq, Repr

def Action.outputsTo (action : Action) (port : BitVec 32) : Bool :=
  match action with
  | .output port' _ => port' == port
  | .setField .. | .group _ => false

@[simp] theorem Action.outputsTo_output (port port' : BitVec 32) (maxLen : BitVec 16) :
    (Action.output port' maxLen).outputsTo port = (port' == port) := rfl

@[simp] theorem Action.outputsTo_setField (port : BitVec 32) (field : OxmField) (order : Nat) :
    (Action.setField field order).outputsTo port = false := rfl

@[simp] theorem Action.outputsTo_group (port g : BitVec 32) : (Action.group g).outputsTo port = false := rfl

structure Bucket where
  weight : BitVec 16
  watchPort : BitVec 32
  watchGroup : BitVec 32
  actions : List Action
deriving DecidableEq, Repr

inductive GroupModCommand
  | add
  | modify
  | delete
deriving DecidableEq, Repr

structure GroupMod where
  xid : BitVec 32 := 0
  command : GroupModCommand := .add
  groupType : BitVec 8 := 0
  groupId : BitVec 32 := 0
  buckets : List Bucket := []
deriving DecidableEq, Repr

def GroupMod.addBucket (gm : GroupMod) (bucket : Bucket) : GroupMod :=
  { gm with buckets := gm.buckets ++ [bucket] }

def GroupMod.delBucket (gm : GroupMod) (index : Nat) : GroupMod :=
  { gm with buckets := gm.buckets.eraseIdx index }

inductive FlowModCommand
  | add
  | delete
deriving DecidableEq, Repr

structure FlowMod where
  xid : BitVec 32 := 0
  cookie : BitVec 64 := 0
  cookieMask : BitVec 64 := 0
  tableId : BitVec 8 := 0
  command : FlowModCommand := .add
  idleTimeout : BitVec 16 := 0
  hardTimeout : BitVec 16 := 0
  priority : BitVec 16 := 0
  bufferId : BitVec 32 := 0
  outPort : BitVec 32 := 0
  outGroup : BitVec 32 := 0
  match_ : List OxmField := []
  actions : List Action := []
deriving DecidableEq, Repr

def FlowMod.addOxmField (fm : FlowMod) (field : OxmField) : FlowMod :=
  { fm with match_ := fm.match_ ++ [field] }

structure PacketOut where
  xid : BitVec 32
  bufferId : BitVec 32
  inPort : BitVec 32
  data : List Byte
  actions : List Action
deriving DecidableEq, Repr

structure PacketIn where
  xid : BitVec 32
  bufferId : BitVec 32
  data : List Byte
deriving DecidableEq, Repr

inductive Message
  | groupMod (gm : GroupMod)
  | flowMod (fm : FlowMod)
  | packetOut (po : PacketOut)
deriving DecidableEq, Repr

def ofpgtAll : BitVec 8 := 0
def ofppController : BitVec 32 := 0xfffffffd
def noBuffer : BitVec 32 := 0xffffffff

end Libfluid.Multicast
