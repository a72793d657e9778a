import Libfluid.Library.LastWriter
import Libfluid.Library.Run
import Libfluid.Multicast.Step

namespace Libfluid.Multicast
open Library

def IsJoin (mcg : MCGroup) (pk : PacketInDataHeader) : Prop :=
  pk.dip = mcg.groupip ∧ pk.usrcPort = mcg.sudpport ∧ pk.udstPort = mcg.dudpport

def IsLeave (mcg : MCGroup) (pk : PacketInDataHeader) : Prop :=
  ¬ IsJoin mcg pk ∧ pk.dip = mcg.groupip ∧ pk.usrcPort = mcg.dudpport ∧ pk.udstPort = mcg.sudpport

def LastJoined (mcg : MCGroup) (i : BitVec 16) (pks : List PacketInDataHeader) : Prop :=
  SetLast (fun pk => IsJoin mcg pk ∧ pk.inIntf = i) (fun pk => IsLeave mcg pk ∧ pk.inIntf = i) pks

namespace Session

variable {mcg : MCGroup} {pk : PacketInDataHeader} {session : Session} {gen : Generators} {i : BitVec 16}

def Has (session : Session) (i : BitVec 16) : Prop := ∃ mcgm, session.members.lookup i = some mcgm

theorem has_join : (joinMemberToGroup mcg pk session gen).1.Has i ↔ i = pk.inIntf ∨ session.Has i := by
  cases found : session.members.lookup pk.inIntf with
  | some mcgm =>
      rw [joinMemberToGroup_known found]
      constructor
      · exact Or.inr
      · rintro (rfl | has)
        · exact ⟨mcgm, found⟩
        · exact has
  | none =>
      rw [joinMemberToGroup_new found]
      simp only [Has, joined, OrderedMap.lookup_set, BitVec.toNat_inj]
      split_ifs with same <;> simp [same]

theorem has_leave {session' : Session} {gen' : Generators}
    (left : (leaveMemberFromGroup mcg pk session gen).1 = .ok (session', gen')) :
    session'.Has i ↔ i ≠ pk.inIntf ∧ session.Has i := by
  cases found : session.members.lookup pk.inIntf with
  | none =>
      rw [leaveMemberFromGroup_unknown found] at left
      cases left
      refine ⟨fun has => ⟨?_, has⟩, And.right⟩
      rintro rfl
      obtain ⟨mcgm, found'⟩ := has
      rw [found] at found'
      cases found'
  | some mcgm =>
      rw [leaveMemberFromGroup_known found] at left
      cases left

end Session

namespace MulticastGroupMembershipApp

def handleUDPPackets (app : MulticastGroupMembershipApp) (pks : List PacketInDataHeader) :
    Except Fault MulticastGroupMembershipApp :=
  pks.foldlM (fun app pk => (app.handleUDPPacket pk).1) app

def Member (app : MulticastGroupMembershipApp) (mcg : MCGroup) (i : BitVec 16) : Prop :=
  ∃ session mcgm, (mcg, session) ∈ app.multicastSessionStore ∧ session.members.lookup i = some mcgm

def Stored (app : MulticastGroupMembershipApp) (mcg : MCGroup) : Prop :=
  ∃ session, (mcg, session) ∈ app.multicastSessionStore

variable {app app' : MulticastGroupMembershipApp} {mcg : MCGroup} {session : Session} {pk : PacketInDataHeader}
  {i : BitVec 16} {pks : List PacketInDataHeader}

theorem member_setSession {session₀ : Session} (gen : Generators)
    (stored : (mcg, session₀) ∈ app.multicastSessionStore) :
    (app.setSession mcg session gen).Member mcg i ↔ session.Has i := by
  constructor
  · rintro ⟨session', mcgm, member, found⟩
    rcases (mem_setSession stored).mp member with ⟨-, rfl⟩ | ⟨different, -⟩
    · exact ⟨mcgm, found⟩
    · exact absurd rfl different
  · rintro ⟨mcgm, found⟩
    exact ⟨session, mcgm, (mem_setSession stored).mpr (Or.inl ⟨rfl, rfl⟩), found⟩

theorem member_iff (stored : (mcg, session) ∈ app.multicastSessionStore) :
    app.Member mcg i ↔ session.Has i := by
  rw [← member_setSession app.gen stored, setSession_self stored]

theorem member_setSession_other {mcg' : MCGroup} {session' session₀ : Session} (gen : Generators)
    (stored : (mcg', session₀) ∈ app.multicastSessionStore) (different : mcg.groupip ≠ mcg'.groupip) :
    (app.setSession mcg' session' gen).Member mcg i ↔ app.Member mcg i := by
  have others {session : Session} : (mcg, session) ∈ (app.setSession mcg' session' gen).multicastSessionStore ↔
      (mcg, session) ∈ app.multicastSessionStore := by
    rw [mem_setSession stored]
    constructor
    · rintro (⟨rfl, -⟩ | ⟨-, old⟩)
      · exact absurd rfl different
      · exact old
    · exact fun old => Or.inr ⟨different, old⟩
  simp only [Member, others]

theorem stored_setSession {mcg' : MCGroup} {session' session₀ : Session} (gen : Generators)
    (stored : (mcg', session₀) ∈ app.multicastSessionStore) (present : app.Stored mcg) :
    (app.setSession mcg' session' gen).Stored mcg := by
  obtain ⟨session, member⟩ := present
  by_cases same : mcg.groupip = mcg'.groupip
  · cases OrderedMap.eq_of_key member stored (congrArg BitVec.toNat same)
    exact ⟨session', (mem_setSession stored).mpr (Or.inl ⟨rfl, rfl⟩)⟩
  · exact ⟨session, (mem_setSession stored).mpr (Or.inr ⟨same, member⟩)⟩

theorem stored_handleUDPPacket (present : app.Stored mcg) (handled : (app.handleUDPPacket pk).1 = .ok app') :
    app'.Stored mcg := by
  rcases app.addressee_cases pk with ⟨mcg', session', stored, address⟩ | unknown
  · rw [handleUDPPacket_known stored address] at handled
    split_ifs at handled
    · cases handled
      exact present
    · cases handled
      exact stored_setSession _ stored present
    · obtain ⟨⟨session, gen⟩, -, rfl⟩ := map_eq_ok.mp handled
      exact stored_setSession _ stored present
  · rw [handleUDPPacket_unknown unknown] at handled
    cases handled
    exact present

def Joins (mcg : MCGroup) (i : BitVec 16) (pk : PacketInDataHeader) : Prop :=
  pk.dip = mcg.groupip ∧ memberFlag mcg pk = 1 ∧ pk.inIntf = i

def Leaves (mcg : MCGroup) (i : BitVec 16) (pk : PacketInDataHeader) : Prop :=
  pk.dip = mcg.groupip ∧ memberFlag mcg pk = 2 ∧ pk.inIntf = i

theorem member_handleUDPPacket (present : app.Stored mcg) (handled : (app.handleUDPPacket pk).1 = .ok app') :
    app'.Member mcg i ↔ Joins mcg i pk ∨ app.Member mcg i ∧ ¬ Leaves mcg i pk := by
  obtain ⟨session, stored⟩ := present
  unfold Joins Leaves
  by_cases address : pk.dip = mcg.groupip
  · rw [handleUDPPacket_known stored address.symm] at handled
    rw [member_iff stored]
    rcases memberFlag_cases mcg pk with flag | flag | flag
    · rw [flag, if_pos rfl] at handled
      cases handled
      have same : Member { app with gen := app.gen.nextGroupId } mcg i ↔ session.Has i := member_iff stored
      simpa [flag] using same
    · rw [flag, if_neg (by decide), if_pos rfl] at handled
      have result : app.setSession mcg (joinMemberToGroup mcg pk session app.gen.nextGroupId).1
          (joinMemberToGroup mcg pk session app.gen.nextGroupId).2.1 = app' := Except.ok.inj handled
      rw [← result, member_setSession _ stored, Session.has_join]
      simp [flag, address, eq_comm]
    · rw [flag, if_neg (by decide), if_neg (by decide)] at handled
      obtain ⟨⟨session', gen⟩, left, rfl⟩ := map_eq_ok.mp handled
      rw [member_setSession _ stored, Session.has_leave left]
      simp [flag, address, eq_comm, and_comm]
  · have untouched : app'.Member mcg i ↔ app.Member mcg i := by
      rcases app.addressee_cases pk with ⟨mcg', session', stored', address'⟩ | unknown
      · have different : mcg.groupip ≠ mcg'.groupip := fun same => address (address'.symm.trans same.symm)
        rw [handleUDPPacket_known stored' address'] at handled
        split_ifs at handled
        · cases handled
          rfl
        · cases handled
          exact member_setSession_other _ stored' different
        · obtain ⟨⟨session', gen⟩, -, rfl⟩ := map_eq_ok.mp handled
          exact member_setSession_other _ stored' different
      · rw [handleUDPPacket_unknown unknown] at handled
        cases handled
        rfl
    simp [untouched, address]

theorem handleUDPPackets_snoc (app : MulticastGroupMembershipApp) (pks : List PacketInDataHeader)
    (pk : PacketInDataHeader) : app.handleUDPPackets (pks ++ [pk]) =
      app.handleUDPPackets pks >>= fun app => (app.handleUDPPacket pk).1 := by
  simp only [handleUDPPackets, List.foldlM_append, List.foldlM_cons, List.foldlM_nil, bind_pure]

theorem stored_handleUDPPackets (present : app.Stored mcg) (handled : app.handleUDPPackets pks = .ok app') :
    app'.Stored mcg := by
  induction pks using List.reverseRecOn generalizing app' with
  | nil =>
      cases handled
      exact present
  | append_singleton pks pk ih =>
      rw [handleUDPPackets_snoc] at handled
      obtain ⟨before, earlier, last⟩ := bind_eq_ok.mp handled
      exact stored_handleUDPPacket (ih earlier) last

theorem member_handleUDPPackets (present : app.Stored mcg) (unused : ¬ app.Member mcg i)
    (handled : app.handleUDPPackets pks = .ok app') :
    app'.Member mcg i ↔ SetLast (Joins mcg i) (Leaves mcg i) pks := by
  induction pks using List.reverseRecOn generalizing app' with
  | nil =>
      cases handled
      exact iff_of_false unused SetLast.not_nil
  | append_singleton pks pk ih =>
      rw [handleUDPPackets_snoc] at handled
      obtain ⟨before, earlier, last⟩ := bind_eq_ok.mp handled
      rw [SetLast.snoc_iff, ← ih earlier]
      exact member_handleUDPPacket (stored_handleUDPPackets present earlier) last

/-- No packet of the list leaves a group on the interface of a member. -/
def Stays (app : MulticastGroupMembershipApp) (pks : List PacketInDataHeader) : Prop :=
  Throughout (fun before pk => ∀ app', app.handleUDPPackets before = .ok app' → ¬ app'.Deletes pk) pks

theorem handled_iff_stays : (∃ app', app.handleUDPPackets pks = .ok app') ↔ app.Stays pks := by
  unfold Stays
  induction pks using List.reverseRecOn with
  | nil => exact iff_of_true ⟨app, rfl⟩ throughout_nil
  | append_singleton pks pk ih =>
      rw [throughout_snoc_iff, ← ih, handleUDPPackets_snoc]
      cases earlier : app.handleUDPPackets pks with
      | error fault => simp [bind, Except.bind]
      | ok before =>
          rw [ok_bind, handleUDPPacket_ok_iff]
          simp

/-! ## Against the documented requests -/

theorem memberFlag_eq_two (mcg : MCGroup) (pk : PacketInDataHeader) :
    memberFlag mcg pk = 2 ↔ pk.usrcPort = mcg.dudpport ∧ pk.udstPort = mcg.sudpport := by
  unfold memberFlag
  by_cases swapped : mcg.sudpport = pk.udstPort ∧ mcg.dudpport = pk.usrcPort
  · rw [if_pos swapped]
    exact iff_of_true rfl ⟨swapped.2.symm, swapped.1.symm⟩
  · rw [if_neg swapped]
    apply iff_of_false
    · split_ifs <;> decide
    · exact fun ports => swapped ⟨ports.2.symm, ports.1.symm⟩

theorem memberFlag_eq_one (mcg : MCGroup) (pk : PacketInDataHeader) :
    memberFlag mcg pk = 1 ↔ (pk.usrcPort = mcg.sudpport ∧ pk.udstPort = mcg.dudpport) ∧
      ¬ (pk.usrcPort = mcg.dudpport ∧ pk.udstPort = mcg.sudpport) := by
  rw [← memberFlag_eq_two]
  unfold memberFlag
  split_ifs with direct swapped <;> simp_all [eq_comm]

theorem joins_iff (different : mcg.sudpport ≠ mcg.dudpport) : Joins mcg i pk ↔ IsJoin mcg pk ∧ pk.inIntf = i := by
  unfold Joins IsJoin
  rw [memberFlag_eq_one]
  constructor
  · rintro ⟨address, ⟨ports, -⟩, same⟩
    exact ⟨⟨address, ports⟩, same⟩
  · rintro ⟨⟨address, ports⟩, same⟩
    exact ⟨address, ⟨ports, fun swapped => different (ports.1.symm.trans swapped.1)⟩, same⟩

theorem leaves_iff (different : mcg.sudpport ≠ mcg.dudpport) : Leaves mcg i pk ↔ IsLeave mcg pk ∧ pk.inIntf = i := by
  unfold Leaves IsLeave IsJoin
  rw [memberFlag_eq_two]
  constructor
  · rintro ⟨address, ports, same⟩
    exact ⟨⟨fun join => different (join.2.1.symm.trans ports.1), address, ports⟩, same⟩
  · rintro ⟨⟨-, address, ports⟩, same⟩
    exact ⟨address, ports, same⟩

theorem not_joins_of_equal (equal : mcg.sudpport = mcg.dudpport) : ¬ Joins mcg i pk := by
  rintro ⟨-, flag, -⟩
  rw [memberFlag_eq_one, equal] at flag
  exact flag.2 flag.1

def OthersIgnored (app : MulticastGroupMembershipApp) (pks : List PacketInDataHeader) : Prop :=
  Throughout (fun before pk => ∀ app', app.handleUDPPackets before = .ok app' →
    (∀ mcg session, (mcg, session) ∈ app'.multicastSessionStore → ¬ IsJoin mcg pk ∧ ¬ IsLeave mcg pk) →
    ∃ next, (app'.handleUDPPacket pk).1 = .ok next ∧ next.multicastSessionStore = app'.multicastSessionStore) pks

theorem othersIgnored (app : MulticastGroupMembershipApp) (pks : List PacketInDataHeader) :
    app.OthersIgnored pks := by
  intro before pk _ app' _ others
  rcases app'.addressee_cases pk with ⟨mcg, session, stored, address⟩ | unknown
  · obtain ⟨notJoin, notLeave⟩ := others mcg session stored
    rw [handleUDPPacket_known stored address]
    rcases memberFlag_cases mcg pk with flag | flag | flag
    · rw [if_pos flag]
      exact ⟨_, rfl, rfl⟩
    · exact absurd ⟨address.symm, ((memberFlag_eq_one mcg pk).mp flag).1⟩ notJoin
    · exact absurd ⟨notJoin, address.symm, (memberFlag_eq_two mcg pk).mp flag⟩ notLeave
  · rw [handleUDPPacket_unknown unknown]
    exact ⟨_, rfl, rfl⟩

theorem createGroup_stored (absent : app.multicastSessionStore.lookup mcg = none) :
    (mcg, openSession mcg app.gen) ∈ (app.createGroup mcg).1.multicastSessionStore := by
  rw [createGroup_new absent]
  exact (mem_opened absent).mpr (Or.inr ⟨rfl, rfl⟩)

theorem createGroup_not_member (absent : app.multicastSessionStore.lookup mcg = none) (i : BitVec 16) :
    ¬ (app.createGroup mcg).1.Member mcg i := by
  rw [member_iff (createGroup_stored absent)]
  rintro ⟨mcgm, found⟩
  cases found

/-- The packets are all handled, and the members are the interfaces whose last request was a join. -/
structure TracksMembers (app : MulticastGroupMembershipApp) (mcg : MCGroup) (pks : List PacketInDataHeader) : Prop where
  members : ∃ app', app.handleUDPPackets pks = .ok app' ∧ ∀ i, app'.Member mcg i ↔ LastJoined mcg i pks
  others : app.OthersIgnored pks

/-- A new group tracks its members exactly where its ports differ or no packet joins, and no packet leaves a member. -/
theorem createGroup_membership_iff (app : MulticastGroupMembershipApp) (mcg : MCGroup)
    (pks : List PacketInDataHeader) (absent : app.multicastSessionStore.lookup mcg = none) :
    (app.createGroup mcg).1.TracksMembers mcg pks ↔
      (mcg.sudpport ≠ mcg.dudpport ∨ ∀ pk ∈ pks, ¬ IsJoin mcg pk) ∧ (app.createGroup mcg).1.Stays pks := by
  have members {app' : MulticastGroupMembershipApp} (handled : (app.createGroup mcg).1.handleUDPPackets pks = .ok app')
      (i : BitVec 16) := member_handleUDPPackets ⟨_, createGroup_stored absent⟩ (createGroup_not_member absent i) handled
  constructor
  · rintro ⟨⟨app', handled, agree⟩, -⟩
    refine ⟨?_, handled_iff_stays.mp ⟨app', handled⟩⟩
    simp only [members handled] at agree
    by_contra! bad
    obtain ⟨equal, pk, member, join⟩ := bad
    have last : LastJoined mcg pk.inIntf pks := by
      apply SetLast.of_mem _ member ⟨join, rfl⟩
      rintro event - ⟨⟨notJoin, address, ports⟩, -⟩
      exact notJoin ⟨address, equal ▸ ports.1, equal ▸ ports.2⟩
    obtain ⟨event, -, joins⟩ := ((agree pk.inIntf).mpr last).mem
    exact not_joins_of_equal equal joins
  · rintro ⟨ports, stays⟩
    obtain ⟨app', handled⟩ := handled_iff_stays.mpr stays
    refine ⟨⟨app', handled, fun i => ?_⟩, othersIgnored _ pks⟩
    rw [members handled]
    rcases ports with different | none
    · exact SetLast.congr (fun _ _ => joins_iff different) fun _ _ => leaves_iff different
    · apply iff_of_false
      · intro last
        obtain ⟨event, inside, address, flag, -⟩ := last.mem
        exact none event inside ⟨address, ((memberFlag_eq_one mcg event).mp flag).1⟩
      · intro last
        obtain ⟨event, inside, join, -⟩ := last.mem
        exact none event inside join

def sampleMCGroup (sport dport : BitVec 16) : MCGroup :=
  (MCGroup.create initial.gen 0x0100000a 1 sport dport false false).1

theorem sample_members_tracked : (initial.createGroup (sampleMCGroup 1000 2000)).1.TracksMembers
    (sampleMCGroup 1000 2000) [sampleJoin 3, sampleLeave 4, sampleJoin 5] := by
  apply (createGroup_membership_iff initial (sampleMCGroup 1000 2000) _ rfl).mpr
  exact ⟨Or.inl (by decide), handled_iff_stays.mp ⟨_, rfl⟩⟩

theorem equal_ports_join_lost : ¬ (initial.createGroup (sampleMCGroup 1000 1000)).1.TracksMembers
    (sampleMCGroup 1000 1000) [{ sampleJoin 3 with udstPort := 1000 }] := by
  rintro ⟨⟨app', handled, agree⟩, -⟩
  have last : LastJoined (sampleMCGroup 1000 1000) 3 [{ sampleJoin 3 with udstPort := 1000 }] :=
    ⟨[], _, [], rfl, ⟨⟨rfl, rfl, rfl⟩, rfl⟩, fun _ member => absurd member List.not_mem_nil⟩
  have member := (agree 3).mpr last
  rw [member_handleUDPPackets ⟨_, createGroup_stored rfl⟩ (createGroup_not_member rfl 3) handled] at member
  obtain ⟨pk, -, joins⟩ := member.mem
  exact not_joins_of_equal rfl joins

end MulticastGroupMembershipApp

end Libfluid.Multicast
