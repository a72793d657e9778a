import Libfluid.Library.Run
import Libfluid.Multicast.Group

/-!
# The group membership application

The session store and the handlers of the application. Groups with one IP are one key of the store,
whatever their ports. Each handler returns the new state, or the fault it ends in, and the messages that it
has sent by then, in order.
-/

namespace Libfluid.Multicast
open Library

inductive Fault
  | nullConnection
  | payloadRead (index : Nat)
  | erasedIterator
deriving DecidableEq, Repr

abbrev MCGroupMemberMap := OrderedMap (BitVec 16) MCGroupMember BitVec.toNat

/-- An iterator is the key of its entry, and leads nowhere once that entry is erased. -/
def MCGroupMemberMap.deref (members : MCGroupMemberMap) (iter : BitVec 16) : Except Fault MCGroupMember :=
  match members.lookup iter with
  | some mcgm => .ok mcgm
  | none => .error .erasedIterator

structure Session where
  members : MCGroupMemberMap
  ofContext : MCGroupOpenFlowContext

def MCGroup.key (mcg : MCGroup) : Nat := mcg.groupip.toNat

abbrev MCGroupMap := OrderedMap MCGroup Session MCGroup.key

structure MulticastGroupMembershipApp where
  multicastSessionStore : MCGroupMap
  gen : Generators

def protocolTypeIgmp : BitVec 16 := 0x02

def joinMemberToGroup (mcg : MCGroup) (pk : PacketInDataHeader) (session : Session) (gen : Generators) :
    Session × Generators × List Message :=
  match session.members.lookup pk.inIntf with
  | some _ => (session, gen, [])
  | none =>
      let mcgm := MCGroupMember.create pk.smac pk.sip pk.udstPort (pk.inIntf.setWidth 8) false
      let first := session.members.size == 0 && !mcg.isRoot
      let command := if first then .add else .modify
      let upstream := if first then [mcg.sendUpstreamPacketOut pk] else []
      let gen := gen.nextXid
      let (ctx, placed) := session.ofContext.addBucketOf13Group mcg gen.xid (some mcgm) command
      let mcgm := placed.getD mcgm
      let groupMod := [.groupMod ctx.ofgroupmod]
      let (ctx, flowMod) := if first then ctx.insertDownstreamFlowModForGroup else (ctx, [])
      ({ members := session.members.set pk.inIntf mcgm, ofContext := ctx }, gen, upstream ++ groupMod ++ flowMod)

/-- A leave up to the `delete` of the member. -/
def removeMember (mcg : MCGroup) (pk : PacketInDataHeader) (mcgm : MCGroupMember) (session : Session)
    (gen : Generators) : Session × Generators × List Message :=
  let last := session.members.size == 1 && !mcg.isRoot
  let command := if last then .delete else .modify
  let upstream := if last then [mcg.sendUpstreamPacketOut pk] else []
  let (ctx, flowMod) :=
    if last then session.ofContext.deleteDownstreamFlowModForGroup else (session.ofContext, [])
  let gen := gen.nextXid
  let ctx := ctx.removeBucketOf13Group gen.xid mcgm command
  let members := session.members.mapValues fun _ member =>
    if member.bucketIndex > mcgm.bucketIndex then { member with bucketIndex := member.bucketIndex - 1 }
    else member
  ({ members := members.erase pk.inIntf, ofContext := ctx }, gen, upstream ++ flowMod ++ [.groupMod ctx.ofgroupmod])

def leaveMemberFromGroup (mcg : MCGroup) (pk : PacketInDataHeader) (session : Session) (gen : Generators) :
    Except Fault (Session × Generators) × List Message :=
  match session.members.lookup pk.inIntf with
  | none => (.ok (session, gen), [])
  | some mcgm =>
      let (session, gen, sent) := removeMember mcg pk mcgm session gen
      -- The source deletes the member through the iterator that it has just erased.
      ((MCGroupMemberMap.deref session.members pk.inIntf).map fun _ => (session, gen), sent)

def memberFlag (mcg : MCGroup) (pk : PacketInDataHeader) : BitVec 8 :=
  let mflag := 0
  let mflag := if mcg.sudpport = pk.usrcPort ∧ mcg.dudpport = pk.udstPort then 1 else mflag
  -- There is no `else` in the source: where both ports are equal, 2 overrides 1.
  if mcg.sudpport = pk.udstPort ∧ mcg.dudpport = pk.usrcPort then 2 else mflag

namespace MulticastGroupMembershipApp

def groupInPk (app : MulticastGroupMembershipApp) (pk : PacketInDataHeader) (classd : Bool) :
    MCGroup × MulticastGroupMembershipApp :=
  let (key, gen) := MCGroup.create app.gen pk.dip 0 pk.usrcPort pk.udstPort classd false
  (key, { app with gen := gen })

def setSession (app : MulticastGroupMembershipApp) (mcg : MCGroup) (session : Session) (gen : Generators) :
    MulticastGroupMembershipApp where
  multicastSessionStore := app.multicastSessionStore.modify mcg fun _ => session
  gen := gen

def handleIGMPPacket (app : MulticastGroupMembershipApp) (pk : PacketInDataHeader) :
    MulticastGroupMembershipApp × List Message :=
  -- The search that follows has no effect.
  ((app.groupInPk pk true).2, [])

def handleUDPPacket (app : MulticastGroupMembershipApp) (pk : PacketInDataHeader) :
    Except Fault MulticastGroupMembershipApp × List Message :=
  let (groupInPk, app) := app.groupInPk pk false
  match app.multicastSessionStore.findEntry groupInPk with
  | none => (.ok app, [])
  | some (mcg, session) =>
      let mflag := memberFlag mcg pk
      if mflag = 0 then (.ok app, [])
      else if mflag = 1 then
        let (session, gen, sent) := joinMemberToGroup mcg pk session app.gen
        (.ok (app.setSession mcg session gen), sent)
      else
        let (left, sent) := leaveMemberFromGroup mcg pk session app.gen
        (left.map fun (session, gen) => app.setSession mcg session gen, sent)

def handlePacketIn (app : MulticastGroupMembershipApp) (pk : PacketInDataHeader) :
    Except Fault MulticastGroupMembershipApp × List Message :=
  if pk.protocol = protocolTypeIgmp then
    let (app, sent) := app.handleIGMPPacket pk
    (.ok app, sent)
  else app.handleUDPPacket pk

def createGroup (app : MulticastGroupMembershipApp) (mcg : MCGroup) :
    MulticastGroupMembershipApp × List Message :=
  match app.multicastSessionStore.lookup mcg with
  | some _ => (app, [])
  | none =>
      let (ctx, gen) := MCGroupOpenFlowContext.createDownstreamFlowModForGroup {} mcg app.gen
      let (ctx, gen, root) :=
        if mcg.isRoot then
          let gen := gen.nextXid
          let (ctx, _) := ctx.addBucketOf13Group mcg gen.xid none .add
          let groupMod := [.groupMod ctx.ofgroupmod]
          let (ctx, flowMod) := ctx.insertDownstreamFlowModForGroup
          (ctx, gen, groupMod ++ flowMod)
        else (ctx, gen, [])
      let (ctx, gen, hook) := ctx.createGroupHookFlowMod mcg gen
      ({ multicastSessionStore := app.multicastSessionStore.set mcg { members := .empty, ofContext := ctx }
         gen := gen }, root ++ hook)

def createNewGroup (app : MulticastGroupMembershipApp) (ip : BitVec 32) (upIntf sport dport : BitVec 16)
    (classd isRoot : Bool) : MulticastGroupMembershipApp × List Message :=
  let (mcg, gen) := MCGroup.create app.gen ip upIntf sport dport classd isRoot
  createGroup { app with gen := gen } mcg

def createSession (app : MulticastGroupMembershipApp) (sip dip : BitVec 32)
    (sport dport upIntf isRoot : BitVec 16) : MulticastGroupMembershipApp × List Message :=
  if dip &&& 0xf0000000 = 0xe0000000 then (app, [])
  else app.createNewGroup sip upIntf sport dport false (isRoot != 0)

def initial : MulticastGroupMembershipApp :=
  { multicastSessionStore := .empty, gen := { xid := 0, groupId := 0, cookie := 0 } }

end MulticastGroupMembershipApp

inductive Event
  | newGroup (ip : BitVec 32) (upIntf sport dport : BitVec 16) (classd isRoot : Bool)
  | newSession (sip dip : BitVec 32) (sport dport upIntf isRoot : BitVec 16)
  | packet (pk : PacketInDataHeader)
deriving DecidableEq, Repr

def MulticastGroupMembershipApp.step (app : MulticastGroupMembershipApp) :
    Event → Except Fault MulticastGroupMembershipApp × List Message
  | .newGroup ip upIntf sport dport classd isRoot =>
      let (app, sent) := app.createNewGroup ip upIntf sport dport classd isRoot
      (.ok app, sent)
  | .newSession sip dip sport dport upIntf isRoot =>
      let (app, sent) := app.createSession sip dip sport dport upIntf isRoot
      (.ok app, sent)
  | .packet pk => app.handlePacketIn pk

end Libfluid.Multicast
