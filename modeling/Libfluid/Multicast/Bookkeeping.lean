import Libfluid.Library.Except
import Libfluid.Multicast.Step

namespace Libfluid.Multicast
open Library

namespace Session

variable {session : Session}

structure Bookkept (session : Session) : Prop where
  indices :
    (session.members.toList.map fun entry => entry.2.bucketIndex).Perm (List.range session.members.size)
  vector : session.ofContext.memberOf13Buckets.length = session.members.size
  message : session.ofContext.ofgroupmod.buckets = session.ofContext.memberOf13Buckets
  placed : ∀ entry ∈ session.members,
    session.ofContext.memberOf13Buckets[entry.2.bucketIndex]? = some entry.2.bucket
  removable : ∀ entry ∈ session.members,
    ¬ session.ofContext.memberOf13Buckets.length ≤ entry.2.bucketIndex

theorem Consistent.bookkept (consistent : session.Consistent) : session.Bookkept := by
  constructor
  case indices =>
      obtain ⟨order, perm, numbered, -⟩ := consistent.listed
      have indices := perm.symm.map fun entry => entry.2.bucketIndex
      rwa [numbered.map_index, perm.length_eq] at indices
  case vector => exact (size_eq consistent).symm
  case message => exact consistent.sent
  case placed =>
      rintro ⟨i, mcgm⟩ member
      exact bucket_placed consistent member
  case removable =>
      rintro ⟨i, mcgm⟩ member
      exact Nat.not_le.mpr (bucketIndex_lt consistent member)

theorem Consistent.bookkept_removeMember (consistent : session.Consistent) {mcg : MCGroup} {pk : PacketInDataHeader}
    {mcgm : MCGroupMember} (found : session.members.lookup pk.inIntf = some mcgm) (gen : Generators) :
    (removeMember mcg pk mcgm session gen).1.Bookkept := by
  rw [removeMember_eq (bucketIndex_lt consistent (lookup_members.mp found))]
  have left : (session.left mcg pk mcgm gen.nextXid.xid).Consistent := consistent_left consistent found _
  exact left.bookkept

end Session

def Event.groupip : Event → BitVec 32
  | .newGroup ip _ _ _ _ _ => ip
  | .newSession sip _ _ _ _ _ => sip
  | .packet pk => pk.dip

namespace MulticastGroupMembershipApp

variable {app app' : MulticastGroupMembershipApp} {mcg other : MCGroup} {session : Session} {gen : Generators}

theorem lookup_setSession_other (different : other.groupip ≠ mcg.groupip) :
    (app.setSession mcg session gen).multicastSessionStore.lookup other =
      app.multicastSessionStore.lookup other := by
  rw [setSession, OrderedMap.lookup_modify, if_neg (by rwa [key_eq_iff])]

theorem lookup_createNewGroup_other {ip : BitVec 32} (upIntf sport dport : BitVec 16) (classd isRoot : Bool)
    (different : other.groupip ≠ ip) :
    (app.createNewGroup ip upIntf sport dport classd isRoot).1.multicastSessionStore.lookup other =
      app.multicastSessionStore.lookup other := by
  unfold createNewGroup MCGroup.create
  simp only
  cases found : app.multicastSessionStore.lookup
      { groupip := ip, sudpport := sport, dudpport := dport, upstreamIntf := upIntf, isClassd := classd,
        groupid := app.gen.nextGroupId.groupId, isRoot := isRoot } with
  | some session => rw [createGroup_known (by exact found)]
  | none =>
      rw [createGroup_new (by exact found)]
      simp only [OrderedMap.lookup_set]
      rw [if_neg (by rwa [key_eq_iff])]

theorem lookup_handleUDPPacket_other {pk : PacketInDataHeader} (different : other.groupip ≠ pk.dip)
    (handled : (app.handleUDPPacket pk).1 = .ok app') :
    app'.multicastSessionStore.lookup other = app.multicastSessionStore.lookup other := by
  rcases app.addressee_cases pk with ⟨mcg, session, stored, address⟩ | unknown
  · rw [handleUDPPacket_known stored address] at handled
    rw [← address] at different
    split_ifs at handled
    · cases handled
      rfl
    · cases handled
      exact lookup_setSession_other different
    · obtain ⟨⟨session', gen⟩, -, rfl⟩ := map_eq_ok.mp handled
      exact lookup_setSession_other different
  · rw [handleUDPPacket_unknown unknown] at handled
    cases handled
    rfl

theorem lookup_step_other (event : Event) (different : other.groupip ≠ event.groupip) (steps : Steps app event app') :
    app'.multicastSessionStore.lookup other = app.multicastSessionStore.lookup other := by
  cases event with
  | newGroup ip upIntf sport dport classd isRoot =>
      cases steps
      exact lookup_createNewGroup_other upIntf sport dport classd isRoot different
  | newSession sip dip sport dport upIntf isRoot =>
      have created : (app.createSession sip dip sport dport upIntf isRoot).1 = app' := Except.ok.inj steps
      rw [← created, createSession]
      split_ifs
      · rfl
      · exact lookup_createNewGroup_other upIntf sport dport false _ different
  | packet pk =>
      simp only [Steps, step, handlePacketIn] at steps
      split_ifs at steps
      · cases steps
        rfl
      · exact lookup_handleUDPPacket_other different steps

/-- No step faults, every session is bookkept, also by a leave up to the `delete` of its member, and an event changes
no group but its own. -/
structure KeepsBooks (app₀ : MulticastGroupMembershipApp) (events : List Event) : Prop where
  defined : ∀ app event, Meets Steps app₀ events app event → ¬ app.Faults event
  sessions : ∀ app, Visits Steps app₀ events app →
    ∀ mcg session, (mcg, session) ∈ app.multicastSessionStore → session.Bookkept
  leaves : ∀ app, Visits Steps app₀ events app → ∀ mcg session, (mcg, session) ∈ app.multicastSessionStore →
    ∀ pk mcgm, session.members.lookup pk.inIntf = some mcgm → (removeMember mcg pk mcgm session app.gen).1.Bookkept
  others : ∀ app event app', Takes Steps app₀ events app event app' → ∀ mcg, mcg.groupip ≠ event.groupip →
    app'.multicastSessionStore.lookup mcg = app.multicastSessionStore.lookup mcg

theorem run_bookkept_iff (app₀ : MulticastGroupMembershipApp) (events : List Event)
    (empty : app₀.multicastSessionStore = .empty) :
    KeepsBooks app₀ events ↔ ∀ app event, Meets Steps app₀ events app event → ¬ app.LeavesMember event := by
  constructor
  · intro keeps app event meets
    rw [← faults_iff]
    exact keeps.defined app event meets
  · intro stays
    constructor
    · intro app event meets
      rw [faults_iff]
      exact stays app event meets
    · intro app visits mcg session stored
      exact (visits_good empty visits mcg session stored).bookkept
    · intro app visits mcg session stored pk mcgm found
      exact (visits_good empty visits mcg session stored).bookkept_removeMember found app.gen
    · intro app event app' takes mcg different
      exact lookup_step_other event different takes.steps

def threeJoins : List Event :=
  [sampleGroup, .packet (sampleJoin 3), .packet (sampleJoin 4), .packet (sampleJoin 5)]

theorem three_joins_bookkept : KeepsBooks initial threeJoins := by
  have run : Run Steps initial threeJoins _ := run_iff.mpr rfl
  apply (run_bookkept_iff initial threeJoins rfl).mpr
  exact fun app event meets => not_leavesMember_of_run run meets

theorem first_of_three_leaves : ¬ KeepsBooks initial (threeJoins ++ [.packet (sampleLeave 3)]) := by
  intro keeps
  have run : Run Steps initial threeJoins _ := run_iff.mpr rfl
  exact keeps.defined _ _ ⟨threeJoins, List.prefix_rfl, run⟩ ⟨.erasedIterator, rfl⟩

end MulticastGroupMembershipApp

end Libfluid.Multicast
