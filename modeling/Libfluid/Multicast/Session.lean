import Libfluid.Library.Numbering
import Libfluid.Multicast.App

namespace Libfluid.Multicast
open Library

def Present (mcg : MCGroup) (session : Session) : Prop := mcg.isRoot = true ∨ session.members.size ≠ 0

instance (mcg : MCGroup) (session : Session) : Decidable (Present mcg session) :=
  inferInstanceAs (Decidable (_ ∨ _))

namespace Session

variable {mcg : MCGroup} {pk : PacketInDataHeader} {session : Session} {gen : Generators}
  {mcgm : MCGroupMember} {xid : BitVec 32}

/-! ## The two handlers -/

def newMember (session : Session) (pk : PacketInDataHeader) : MCGroupMember :=
  { MCGroupMember.create pk.smac pk.sip pk.udstPort (pk.inIntf.setWidth 8) false with
    bucketIndex := session.ofContext.memberOf13Buckets.length }

def opens (session : Session) (mcg : MCGroup) : Bool := session.members.size == 0 && !mcg.isRoot

def closes (session : Session) (mcg : MCGroup) : Bool := session.members.size == 1 && !mcg.isRoot

def joined (session : Session) (mcg : MCGroup) (pk : PacketInDataHeader) (xid : BitVec 32) : Session where
  members := session.members.set pk.inIntf (session.newMember pk)
  ofContext :=
    { upstreamflowmod := session.ofContext.upstreamflowmod
      offlowmod :=
        if session.opens mcg then { session.ofContext.offlowmod with command := .add }
        else session.ofContext.offlowmod
      ofgroupmod :=
        { xid := xid
          command := if session.opens mcg then .add else .modify
          groupType := ofpgtAll
          groupId := mcg.groupid
          buckets := session.ofContext.ofgroupmod.buckets ++ [(session.newMember pk).bucket] }
      memberOf13Buckets := session.ofContext.memberOf13Buckets ++ [(session.newMember pk).bucket] }

theorem joinMemberToGroup_known {mcgm : MCGroupMember} (found : session.members.lookup pk.inIntf = some mcgm) :
    joinMemberToGroup mcg pk session gen = (session, gen, []) := by
  rw [joinMemberToGroup, found]

theorem joinMemberToGroup_new (absent : session.members.lookup pk.inIntf = none) :
    joinMemberToGroup mcg pk session gen =
      (session.joined mcg pk gen.nextXid.xid, gen.nextXid,
        (if session.opens mcg then [mcg.sendUpstreamPacketOut pk] else []) ++
          [.groupMod (session.joined mcg pk gen.nextXid.xid).ofContext.ofgroupmod] ++
          if session.opens mcg then [.flowMod (session.joined mcg pk gen.nextXid.xid).ofContext.offlowmod]
          else []) := by
  rw [joinMemberToGroup, absent]
  unfold joined
  cases first : session.opens mcg with
  | true | false =>
      unfold opens at first
      simp only [first]
      rfl

def closeGap (removed member : MCGroupMember) : MCGroupMember :=
  if member.bucketIndex > removed.bucketIndex then { member with bucketIndex := member.bucketIndex - 1 }
  else member

def left (session : Session) (mcg : MCGroup) (pk : PacketInDataHeader) (mcgm : MCGroupMember)
    (xid : BitVec 32) : Session where
  members := (session.members.mapValues fun _ => closeGap mcgm).erase pk.inIntf
  ofContext :=
    { upstreamflowmod := session.ofContext.upstreamflowmod
      offlowmod :=
        if session.closes mcg then { session.ofContext.offlowmod with command := .delete }
        else session.ofContext.offlowmod
      ofgroupmod :=
        { session.ofContext.ofgroupmod with
          xid := xid
          command := if session.closes mcg then .delete else .modify
          buckets := session.ofContext.ofgroupmod.buckets.eraseIdx mcgm.bucketIndex }
      memberOf13Buckets := session.ofContext.memberOf13Buckets.eraseIdx mcgm.bucketIndex }

theorem leaveMemberFromGroup_unknown (absent : session.members.lookup pk.inIntf = none) :
    leaveMemberFromGroup mcg pk session gen = (.ok (session, gen), []) := by
  rw [leaveMemberFromGroup, absent]

theorem removeMember_eq (inside : mcgm.bucketIndex < session.ofContext.memberOf13Buckets.length) :
    removeMember mcg pk mcgm session gen =
      (session.left mcg pk mcgm gen.nextXid.xid, gen.nextXid,
        (if session.closes mcg then [mcg.sendUpstreamPacketOut pk] else []) ++
          (if session.closes mcg then [.flowMod (session.left mcg pk mcgm gen.nextXid.xid).ofContext.offlowmod]
          else []) ++ [.groupMod (session.left mcg pk mcgm gen.nextXid.xid).ofContext.ofgroupmod]) := by
  unfold removeMember left
  cases last : session.closes mcg with
  | true | false =>
      unfold closes at last
      simp only [last, ↓reduceIte, Bool.false_eq_true, MCGroupOpenFlowContext.removeBucketOf13Group,
        MCGroupOpenFlowContext.deleteDownstreamFlowModForGroup, Nat.not_le.mpr inside]
      rfl

theorem lookup_removeMember : (removeMember mcg pk mcgm session gen).1.members.lookup pk.inIntf = none := by
  unfold removeMember
  rw [OrderedMap.lookup_erase, if_pos rfl]

theorem leaveMemberFromGroup_known (found : session.members.lookup pk.inIntf = some mcgm) :
    leaveMemberFromGroup mcg pk session gen =
      (.error .erasedIterator, (removeMember mcg pk mcgm session gen).2.2) := by
  rw [leaveMemberFromGroup, found]
  simp only [MCGroupMemberMap.deref, lookup_removeMember]
  rfl

/-! ## Members and buckets -/

def Lists (session : Session) (buckets : List Bucket) : Prop :=
  ∃ order : List (BitVec 16 × MCGroupMember), order.Perm session.members.toList ∧
    Numbered (fun entry => entry.2.bucketIndex) order ∧ buckets = order.map fun entry => entry.2.bucket

structure Consistent (session : Session) : Prop where
  listed : session.Lists session.ofContext.memberOf13Buckets
  sent : session.ofContext.ofgroupmod.buckets = session.ofContext.memberOf13Buckets
  intf : ∀ entry ∈ session.members, entry.2.intf = entry.1.setWidth 8

@[simp] theorem bucket_closeGap (removed member : MCGroupMember) :
    (closeGap removed member).bucket = member.bucket := by
  unfold closeGap
  split <;> rfl

@[simp] theorem intf_closeGap (removed member : MCGroupMember) :
    (closeGap removed member).intf = member.intf := by
  unfold closeGap
  split <;> rfl

theorem bucketIndex_closeGap (removed member : MCGroupMember) :
    (closeGap removed member).bucketIndex =
      if member.bucketIndex > removed.bucketIndex then member.bucketIndex - 1 else member.bucketIndex := by
  unfold closeGap
  split <;> rfl

theorem lookup_members {i : BitVec 16} {mcgm : MCGroupMember} :
    session.members.lookup i = some mcgm ↔ (i, mcgm) ∈ session.members :=
  OrderedMap.lookup_eq_some_iff_mem toNat_injective

theorem members_joined (absent : session.members.lookup pk.inIntf = none) (xid : BitVec 32) :
    (session.joined mcg pk xid).members.toList.Perm
      ((pk.inIntf, session.newMember pk) :: session.members.toList) := by
  show (session.members.set pk.inIntf (session.newMember pk)).toList.Perm _
  rw [OrderedMap.set_of_lookup_none absent]
  exact OrderedMap.insertNew_perm absent _

theorem consistent_joined (consistent : session.Consistent) (absent : session.members.lookup pk.inIntf = none)
    (xid : BitVec 32) : (session.joined mcg pk xid).Consistent := by
  have perm : (session.joined mcg pk xid).members.toList.Perm _ := members_joined absent xid
  obtain ⟨order, orderPerm, numbered, buckets⟩ := consistent.listed
  have last : (session.newMember pk).bucketIndex = order.length := by
    show session.ofContext.memberOf13Buckets.length = order.length
    rw [buckets, List.length_map]
  constructor
  · refine ⟨order ++ [(pk.inIntf, session.newMember pk)], ?_, numbered.snoc last, ?_⟩
    · exact (List.perm_append_singleton _ _).trans ((orderPerm.cons _).trans perm.symm)
    · simp [joined, buckets]
  · simp [joined, consistent.sent]
  · intro entry member
    rcases List.mem_cons.mp (perm.mem_iff.mp member) with rfl | old
    · rfl
    · exact consistent.intf entry old

theorem bucket_placed (consistent : session.Consistent) {i : BitVec 16} {mcgm : MCGroupMember}
    (member : (i, mcgm) ∈ session.members) :
    session.ofContext.memberOf13Buckets[mcgm.bucketIndex]? = some mcgm.bucket := by
  obtain ⟨order, perm, numbered, buckets⟩ := consistent.listed
  have place : order[mcgm.bucketIndex]? = some (i, mcgm) := numbered.getElem?_index (perm.mem_iff.mpr member)
  rw [buckets, List.getElem?_map, place]
  rfl

theorem bucketIndex_lt (consistent : session.Consistent) {i : BitVec 16} {mcgm : MCGroupMember}
    (member : (i, mcgm) ∈ session.members) :
    mcgm.bucketIndex < session.ofContext.memberOf13Buckets.length := by
  obtain ⟨inside, -⟩ := List.getElem?_eq_some_iff.mp (bucket_placed consistent member)
  exact inside

theorem consistent_left (consistent : session.Consistent) {mcgm : MCGroupMember}
    (found : session.members.lookup pk.inIntf = some mcgm) (xid : BitVec 32) :
    (session.left mcg pk mcgm xid).Consistent := by
  have member := lookup_members.mp found
  obtain ⟨order, orderPerm, numbered, buckets⟩ := consistent.listed
  obtain ⟨front, back, rfl⟩ := List.append_of_mem (orderPerm.mem_iff.mpr member)
  have place : mcgm.bucketIndex = front.length := numbered.position
  have others : ∀ entry ∈ front ++ back, entry.1 ≠ pk.inIntf := by
    intro entry inside same
    have distinct := (List.perm_middle.nodup_iff).mp (orderPerm.nodup_iff.mpr session.members.nodup)
    have stored : entry ∈ session.members :=
      orderPerm.mem_iff.mp (List.perm_middle.mem_iff.mpr (List.mem_cons_of_mem _ inside))
    have equal := OrderedMap.eq_of_key stored member (congrArg BitVec.toNat same)
    exact (List.nodup_cons.mp distinct).1 (equal ▸ inside)
  constructor
  · refine ⟨(front ++ back).map fun entry => (entry.1, closeGap mcgm entry.2), ?_, ?_, ?_⟩
    · show List.Perm _ ((session.members.toList.map fun entry => (entry.1, closeGap mcgm entry.2)).filter _)
      have kept : (front ++ (pk.inIntf, mcgm) :: back).filter
          (fun entry => !decide (entry.1.toNat = pk.inIntf.toNat)) = front ++ back := by
        rw [List.filter_append, List.filter_cons_of_neg (by simp), ← List.filter_append, List.filter_eq_self]
        intro entry inside
        simpa using fun same => others entry inside (BitVec.eq_of_toNat_eq same)
      rw [List.filter_map, ← kept]
      exact (orderPerm.filter _).map _
    · apply numbered.remove
      intro entry
      exact bucketIndex_closeGap mcgm entry.2
    · simp [left, buckets, place, List.eraseIdx_append_of_length_le, Function.comp_def]
  · simp [left, consistent.sent]
  · intro entry inside
    obtain ⟨old, -⟩ := OrderedMap.mem_erase.mp inside
    obtain ⟨mcgm', stored, same⟩ := OrderedMap.mem_mapValues.mp old
    rw [same, intf_closeGap]
    exact consistent.intf _ stored

theorem consistent_empty (ctx : MCGroupOpenFlowContext) (none : ctx.memberOf13Buckets = [])
    (unsent : ctx.ofgroupmod.buckets = []) : Session.Consistent { members := .empty, ofContext := ctx } where
  listed := ⟨[], List.Perm.nil, Numbered.nil, none⟩
  sent := unsent.trans none.symm
  intf := fun _ member => absurd member List.not_mem_nil

/-! ## Sizes -/

theorem size_joined (absent : session.members.lookup pk.inIntf = none) :
    (session.joined mcg pk xid).members.size = session.members.size + 1 :=
  (members_joined absent xid).length_eq

theorem size_eq (consistent : session.Consistent) :
    session.members.size = session.ofContext.memberOf13Buckets.length := by
  obtain ⟨order, perm, -, buckets⟩ := consistent.listed
  rw [buckets, List.length_map]
  exact perm.length_eq.symm

theorem size_left (consistent : session.Consistent) (found : session.members.lookup pk.inIntf = some mcgm) :
    (session.left mcg pk mcgm xid).members.size + 1 = session.members.size := by
  have inside := bucketIndex_lt consistent (lookup_members.mp found)
  have left : (session.left mcg pk mcgm xid).Consistent := consistent_left consistent found xid
  rw [size_eq left, size_eq consistent]
  show (session.ofContext.memberOf13Buckets.eraseIdx mcgm.bucketIndex).length + 1 = _
  rw [List.length_eraseIdx_of_lt inside]
  omega

theorem present_joined (absent : session.members.lookup pk.inIntf = none) :
    Present mcg (session.joined mcg pk xid) := by
  apply Or.inr
  rw [size_joined absent]
  exact Nat.succ_ne_zero _

theorem present_of_lookup (consistent : session.Consistent) (found : session.members.lookup pk.inIntf = some mcgm) :
    Present mcg session := by
  have size : (session.left mcg pk mcgm 0).members.size + 1 = session.members.size := size_left consistent found
  apply Or.inr
  rw [← size]
  exact Nat.succ_ne_zero _

theorem opens_iff : session.opens mcg = true ↔ ¬ Present mcg session := by
  simp [opens, Present, and_comm]

theorem closes_iff (consistent : session.Consistent) (found : session.members.lookup pk.inIntf = some mcgm) :
    session.closes mcg = true ↔ ¬ Present mcg (session.left mcg pk mcgm xid) := by
  have size : (session.left mcg pk mcgm xid).members.size + 1 = session.members.size :=
    size_left consistent found
  simp only [closes, Present, Bool.and_eq_true, beq_iff_eq, Bool.not_eq_true', not_or, Bool.not_eq_true, not_not]
  rw [← size, and_comm]
  simp

end Session

end Libfluid.Multicast
