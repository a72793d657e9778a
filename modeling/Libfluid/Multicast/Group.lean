import Libfluid.Library.OrderedMap
import Libfluid.Multicast.Message

/-!
# Groups and their OpenFlow context

A multicast group, its members and the long-lived messages it keeps for the switch. The generators of
identifiers are threaded through the functions that draw from them.
-/

namespace Libfluid.Multicast
open Library Switch

structure PacketInDataHeader where
  dmac : BitVec 64
  smac : BitVec 64
  sip : BitVec 32
  dip : BitVec 32
  inIntf : BitVec 16
  usrcPort : BitVec 16
  udstPort : BitVec 16
  protocol : BitVec 16
  membershipCode : BitVec 32
  ofpi : PacketIn
deriving DecidableEq, Repr

structure MCGroupMember where
  destMac : BitVec 64
  destIp : BitVec 32
  udpPort : BitVec 16
  intf : BitVec 8
  isClassd : Bool
  bucketIndex : Nat
deriving DecidableEq, Repr

/-- The constructor takes the interface as a `uint8_t`. The bucket index is set later. -/
def MCGroupMember.create (dmac : BitVec 64) (dip : BitVec 32) (port : BitVec 16) (intf : BitVec 8)
    (classd : Bool) : MCGroupMember :=
  { destMac := dmac, destIp := dip, udpPort := port, intf := intf, isClassd := classd, bucketIndex := 0 }

structure Generators where
  xid : BitVec 32
  groupId : BitVec 32
  cookie : BitVec 64
deriving DecidableEq, Repr

def Generators.nextXid (gen : Generators) : Generators := { gen with xid := gen.xid + 1 }
def Generators.nextGroupId (gen : Generators) : Generators := { gen with groupId := gen.groupId + 1 }
def Generators.nextCookie (gen : Generators) : Generators := { gen with cookie := gen.cookie + 1 }

structure MCGroup where
  groupip : BitVec 32
  sudpport : BitVec 16
  dudpport : BitVec 16
  upstreamIntf : BitVec 16
  isClassd : Bool
  groupid : BitVec 32
  isRoot : Bool
deriving DecidableEq, Repr

/-- Every construction of a group draws an identifier, also that of a key for a search. -/
def MCGroup.create (gen : Generators) (ip : BitVec 32) (upIntf sport dport : BitVec 16)
    (classd isRoot : Bool) : MCGroup × Generators :=
  let gen := gen.nextGroupId
  ({ groupip := ip, sudpport := sport, dudpport := dport, upstreamIntf := upIntf, isClassd := classd,
     groupid := gen.groupId, isRoot := isRoot }, gen)

structure MCGroupOpenFlowContext where
  upstreamflowmod : FlowMod := {}
  offlowmod : FlowMod := {}
  ofgroupmod : GroupMod := {}
  memberOf13Buckets : List Bucket := []
deriving DecidableEq, Repr

def ethAddressOf (mac : BitVec 64) : EthAddress :=
  { octet0 := mac.extractLsb' 16 8, octet1 := mac.extractLsb' 24 8, octet2 := mac.extractLsb' 32 8,
    octet3 := mac.extractLsb' 40 8, octet4 := mac.extractLsb' 48 8, octet5 := mac.extractLsb' 56 8 }

def MCGroupMember.bucket (mtmg : MCGroupMember) : Bucket :=
  { weight := 0xffff
    watchPort := 0xffffffff
    watchGroup := 0xffffffff
    actions :=
      [.setField (.udpDst mtmg.udpPort) 161, .setField (.ipv4Dst mtmg.destIp) 162,
       .setField (.ethDst (ethAddressOf mtmg.destMac)) 163, .output (mtmg.intf.setWidth 32) 0] }

namespace MCGroupOpenFlowContext

/-- The result holds the member with the index that the function sets through its pointer. -/
def addBucketOf13Group (ctx : MCGroupOpenFlowContext) (mcgroup : MCGroup) (xid : BitVec 32)
    (mtmg : Option MCGroupMember) (command : GroupModCommand) :
    MCGroupOpenFlowContext × Option MCGroupMember :=
  let ofgroupmod := { ctx.ofgroupmod with
    xid := xid, command := command, groupType := ofpgtAll, groupId := mcgroup.groupid }
  match mtmg with
  | none => ({ ctx with ofgroupmod := ofgroupmod }, none)
  | some mtmg =>
      ({ ctx with
          ofgroupmod := ofgroupmod.addBucket mtmg.bucket
          memberOf13Buckets := ctx.memberOf13Buckets ++ [mtmg.bucket] },
        some { mtmg with bucketIndex := ctx.memberOf13Buckets.length })

def removeBucketOf13Group (ctx : MCGroupOpenFlowContext) (xid : BitVec 32) (mtmg : MCGroupMember)
    (command : GroupModCommand) : MCGroupOpenFlowContext :=
  let ofgroupmod := { ctx.ofgroupmod with xid := xid, command := command }
  let bi := mtmg.bucketIndex
  if ctx.memberOf13Buckets.length ≤ bi then { ctx with ofgroupmod := ofgroupmod }
  else
    { ctx with
      ofgroupmod := ofgroupmod.delBucket bi
      memberOf13Buckets := ctx.memberOf13Buckets.eraseIdx bi }

def deleteDownstreamFlowModForGroup (ctx : MCGroupOpenFlowContext) : MCGroupOpenFlowContext × List Message :=
  let offlowmod := { ctx.offlowmod with command := .delete }
  ({ ctx with offlowmod := offlowmod }, [.flowMod offlowmod])

def insertDownstreamFlowModForGroup (ctx : MCGroupOpenFlowContext) : MCGroupOpenFlowContext × List Message :=
  let offlowmod := { ctx.offlowmod with command := .add }
  ({ ctx with offlowmod := offlowmod }, [.flowMod offlowmod])

def openFlowMod (fm : FlowMod) (gen : Generators) (priority : BitVec 16) (outGroup : BitVec 32) : FlowMod :=
  { fm with
    xid := gen.xid, cookie := gen.cookie, cookieMask := 0xffffffffffffffff, tableId := 0, command := .add,
    idleTimeout := 0, hardTimeout := 0, priority := priority, bufferId := 0xffffffff, outPort := 0,
    outGroup := outGroup }

def createDownstreamFlowModForGroup (ctx : MCGroupOpenFlowContext) (mcgroup : MCGroup) (gen : Generators) :
    MCGroupOpenFlowContext × Generators :=
  let gen := gen.nextXid.nextCookie
  let offlowmod := openFlowMod ctx.offlowmod gen 10 mcgroup.groupid
  let offlowmod :=
    if !mcgroup.isClassd then
      ((((offlowmod.addOxmField (.ethType 0x0800)).addOxmField (.ipProto 17)).addOxmField
        (.ipv4Src mcgroup.groupip)).addOxmField (.udpSrc mcgroup.sudpport)).addOxmField
          (.udpDst mcgroup.dudpport)
    else offlowmod.addOxmField (.ipv4Dst mcgroup.groupip)
  ({ ctx with offlowmod := { offlowmod with actions := offlowmod.actions ++ [.group mcgroup.groupid] } }, gen)

def createGroupHookFlowMod (ctx : MCGroupOpenFlowContext) (mcgroup : MCGroup) (gen : Generators) :
    MCGroupOpenFlowContext × Generators × List Message :=
  let gen := gen.nextXid.nextCookie
  let upstreamflowmod := openFlowMod ctx.upstreamflowmod gen 1000 0
  let upstreamflowmod :=
    if !mcgroup.isClassd then
      ((upstreamflowmod.addOxmField (.ethType 0x0800)).addOxmField (.ipProto 17)).addOxmField
        (.ipv4Dst mcgroup.groupip)
    else upstreamflowmod.addOxmField (.ipv4Dst mcgroup.groupip)
  let upstreamflowmod :=
    { upstreamflowmod with actions := upstreamflowmod.actions ++ [.output ofppController 512] }
  ({ ctx with upstreamflowmod := upstreamflowmod }, gen, [.flowMod upstreamflowmod])

end MCGroupOpenFlowContext

def MCGroup.sendUpstreamPacketOut (mcgroup : MCGroup) (pk : PacketInDataHeader) : Message :=
  .packetOut
    { xid := pk.ofpi.xid
      bufferId := pk.ofpi.bufferId
      inPort := pk.inIntf.setWidth 32
      data := if pk.ofpi.bufferId = noBuffer then pk.ofpi.data else []
      actions := [.output (mcgroup.upstreamIntf.setWidth 32) 1024] }

end Libfluid.Multicast
