import Libfluid.Multicast.Session

namespace Libfluid.Multicast
open Library

/-! ## New sessions -/

def downstreamMatch (mcg : MCGroup) : List OxmField :=
  if !mcg.isClassd then
    [.ethType 0x0800, .ipProto 17, .ipv4Src mcg.groupip, .udpSrc mcg.sudpport, .udpDst mcg.dudpport]
  else [.ipv4Dst mcg.groupip]

def hookMatch (mcg : MCGroup) : List OxmField :=
  if !mcg.isClassd then [.ethType 0x0800, .ipProto 17, .ipv4Dst mcg.groupip] else [.ipv4Dst mcg.groupip]

def downstreamFlowMod (mcg : MCGroup) (gen : Generators) : FlowMod :=
  { MCGroupOpenFlowContext.openFlowMod {} gen 10 mcg.groupid with
    match_ := downstreamMatch mcg, actions := [.group mcg.groupid] }

def hookFlowMod (mcg : MCGroup) (gen : Generators) : FlowMod :=
  { MCGroupOpenFlowContext.openFlowMod {} gen 1000 0 with
    match_ := hookMatch mcg, actions := [.output ofppController 512] }

def rootGroupMod (mcg : MCGroup) (gen : Generators) : GroupMod :=
  { xid := gen.xid, command := .add, groupType := ofpgtAll, groupId := mcg.groupid, buckets := [] }

def downstreamGen (gen : Generators) : Generators := gen.nextXid.nextCookie

def rootGen (mcg : MCGroup) (gen : Generators) : Generators :=
  if mcg.isRoot then (downstreamGen gen).nextXid else downstreamGen gen

def hookGen (mcg : MCGroup) (gen : Generators) : Generators := (rootGen mcg gen).nextXid.nextCookie

theorem hookGen_groupId (mcg : MCGroup) (gen : Generators) : (hookGen mcg gen).groupId = gen.groupId := by
  unfold hookGen rootGen
  split_ifs <;> rfl

def openSession (mcg : MCGroup) (gen : Generators) : Session where
  members := .empty
  ofContext :=
    { upstreamflowmod := hookFlowMod mcg (hookGen mcg gen)
      offlowmod := downstreamFlowMod mcg (downstreamGen gen)
      ofgroupmod := if mcg.isRoot then rootGroupMod mcg (rootGen mcg gen) else {}
      memberOf13Buckets := [] }

def openMessages (mcg : MCGroup) (gen : Generators) : List Message :=
  (if mcg.isRoot then
    [.groupMod (rootGroupMod mcg (rootGen mcg gen)), .flowMod (downstreamFlowMod mcg (downstreamGen gen))]
  else []) ++ [.flowMod (hookFlowMod mcg (hookGen mcg gen))]

theorem createDownstreamFlowModForGroup_new (mcg : MCGroup) (gen : Generators) :
    MCGroupOpenFlowContext.createDownstreamFlowModForGroup {} mcg gen =
      ({ offlowmod := downstreamFlowMod mcg (downstreamGen gen) }, downstreamGen gen) := by
  unfold MCGroupOpenFlowContext.createDownstreamFlowModForGroup downstreamFlowMod downstreamMatch
  cases mcg.isClassd <;> rfl

theorem createGroupHookFlowMod_new (ctx : MCGroupOpenFlowContext) (unset : ctx.upstreamflowmod = {})
    (mcg : MCGroup) (gen : Generators) :
    ctx.createGroupHookFlowMod mcg gen =
      ({ ctx with upstreamflowmod := hookFlowMod mcg gen.nextXid.nextCookie }, gen.nextXid.nextCookie,
        [.flowMod (hookFlowMod mcg gen.nextXid.nextCookie)]) := by
  unfold MCGroupOpenFlowContext.createGroupHookFlowMod hookFlowMod hookMatch
  rw [unset]
  cases mcg.isClassd <;> rfl

namespace MulticastGroupMembershipApp

variable {app app' : MulticastGroupMembershipApp} {mcg : MCGroup} {session : Session}
  {pk : PacketInDataHeader} {event : Event} {sent : List Message}

theorem createGroup_known (found : app.multicastSessionStore.lookup mcg = some session) :
    app.createGroup mcg = (app, []) := by
  rw [createGroup, found]

theorem createGroup_new (absent : app.multicastSessionStore.lookup mcg = none) :
    app.createGroup mcg =
      ({ multicastSessionStore := app.multicastSessionStore.set mcg (openSession mcg app.gen)
         gen := hookGen mcg app.gen }, openMessages mcg app.gen) := by
  rw [createGroup, absent]
  unfold openSession openMessages hookGen rootGen
  cases root : mcg.isRoot with
  | true =>
      simp only [createDownstreamFlowModForGroup_new, ↓reduceIte]
      rw [createGroupHookFlowMod_new _ rfl]
      rfl
  | false =>
      simp only [createDownstreamFlowModForGroup_new, ↓reduceIte, Bool.false_eq_true]
      rw [createGroupHookFlowMod_new _ rfl]

/-! ## The step -/

def Answers (mcg : MCGroup) (session : Session) (pk : PacketInDataHeader) : Prop :=
  memberFlag mcg pk = 1 ∧ session.members.lookup pk.inIntf = none ∨
    memberFlag mcg pk = 2 ∧ session.members.lookup pk.inIntf ≠ none

def joinMessages (mcg : MCGroup) (session : Session) (pk : PacketInDataHeader) (xid : BitVec 32) : List Message :=
  (if session.opens mcg then [mcg.sendUpstreamPacketOut pk] else []) ++
    [.groupMod (session.joined mcg pk xid).ofContext.ofgroupmod] ++
    if session.opens mcg then [.flowMod (session.joined mcg pk xid).ofContext.offlowmod] else []

def leaveMessages (mcg : MCGroup) (session : Session) (pk : PacketInDataHeader) (mcgm : MCGroupMember)
    (xid : BitVec 32) : List Message :=
  (if session.closes mcg then [mcg.sendUpstreamPacketOut pk] else []) ++
    (if session.closes mcg then [.flowMod (session.left mcg pk mcgm xid).ofContext.offlowmod] else []) ++
    [.groupMod (session.left mcg pk mcgm xid).ofContext.ofgroupmod]

structure Addressed (app : MulticastGroupMembershipApp) (pk : PacketInDataHeader) (mcg : MCGroup)
    (session : Session) : Prop where
  udp : pk.protocol ≠ protocolTypeIgmp
  stored : (mcg, session) ∈ app.multicastSessionStore
  address : mcg.groupip = pk.dip

inductive Acts (app : MulticastGroupMembershipApp) :
    Event → Except Fault MulticastGroupMembershipApp → List Message → Prop
  | nothing {event : Event} {gen : Generators} :
      gen.groupId = app.gen.groupId ∨ gen.groupId = app.gen.groupId + 1 →
      (∀ pk mcg session, event = .packet pk → app.Addressed pk mcg session → ¬ Answers mcg session pk) →
      Acts app event (.ok { app with gen := gen }) []
  | opened {event : Event} {mcg : MCGroup} {gen : Generators} :
      (∀ pk, event ≠ .packet pk) → gen.groupId = app.gen.groupId + 1 → mcg.groupid = gen.groupId →
      app.multicastSessionStore.lookup mcg = none →
      Acts app event
        (.ok { multicastSessionStore := app.multicastSessionStore.set mcg (openSession mcg gen)
               gen := hookGen mcg gen }) (openMessages mcg gen)
  | joined {pk : PacketInDataHeader} {mcg : MCGroup} {session : Session} {gen : Generators} :
      gen.groupId = app.gen.groupId + 1 → app.Addressed pk mcg session → memberFlag mcg pk = 1 →
      session.members.lookup pk.inIntf = none →
      Acts app (.packet pk) (.ok (app.setSession mcg (session.joined mcg pk gen.xid) gen))
        (joinMessages mcg session pk gen.xid)
  | left {pk : PacketInDataHeader} {mcg : MCGroup} {session : Session} {mcgm : MCGroupMember} {gen : Generators} :
      gen.groupId = app.gen.groupId + 1 → app.Addressed pk mcg session → memberFlag mcg pk = 2 →
      session.members.lookup pk.inIntf = some mcgm →
      Acts app (.packet pk) (.error .erasedIterator) (leaveMessages mcg session pk mcgm gen.xid)

def Good (app : MulticastGroupMembershipApp) : Prop :=
  ∀ mcg session, (mcg, session) ∈ app.multicastSessionStore → session.Consistent

theorem setSession_self (stored : (mcg, session) ∈ app.multicastSessionStore) (gen : Generators) :
    app.setSession mcg session gen = { app with gen := gen } := by
  have same : (app.multicastSessionStore.modify mcg fun _ => session) = app.multicastSessionStore := by
    apply OrderedMap.mapValues_eq_self
    intro entry member
    split_ifs with equal
    · rw [OrderedMap.eq_of_key member stored equal]
    · rfl
  rw [setSession, same]

theorem addressed_unique {mcg' : MCGroup} {session' : Session} (h : app.Addressed pk mcg session)
    (h' : app.Addressed pk mcg' session') : (mcg, session) = (mcg', session') := by
  apply OrderedMap.eq_of_key h.stored h'.stored
  show mcg.groupip.toNat = mcg'.groupip.toNat
  rw [h.address, h'.address]

theorem addressee_cases (app : MulticastGroupMembershipApp) (pk : PacketInDataHeader) :
    (∃ mcg session, (mcg, session) ∈ app.multicastSessionStore ∧ mcg.groupip = pk.dip) ∨
      ∀ entry ∈ app.multicastSessionStore, entry.1.groupip ≠ pk.dip := by
  by_cases known : ∃ mcg session, (mcg, session) ∈ app.multicastSessionStore ∧ mcg.groupip = pk.dip
  · exact Or.inl known
  · apply Or.inr
    intro entry member same
    exact known ⟨entry.1, entry.2, member, same⟩

theorem memberFlag_cases (mcg : MCGroup) (pk : PacketInDataHeader) :
    memberFlag mcg pk = 0 ∨ memberFlag mcg pk = 1 ∨ memberFlag mcg pk = 2 := by
  unfold memberFlag
  split_ifs <;> simp

theorem handleUDPPacket_unknown (unknown : ∀ entry ∈ app.multicastSessionStore, entry.1.groupip ≠ pk.dip) :
    app.handleUDPPacket pk = (.ok { app with gen := app.gen.nextGroupId }, []) := by
  unfold handleUDPPacket
  simp only [groupInPk, MCGroup.create]
  rw [OrderedMap.findEntry_eq_none.mpr]
  intro entry member same
  exact unknown entry member (BitVec.eq_of_toNat_eq same)

theorem handleUDPPacket_known (stored : (mcg, session) ∈ app.multicastSessionStore) (address : mcg.groupip = pk.dip) :
    app.handleUDPPacket pk =
      if memberFlag mcg pk = 0 then (.ok { app with gen := app.gen.nextGroupId }, [])
      else if memberFlag mcg pk = 1 then
        let (session, gen, sent) := joinMemberToGroup mcg pk session app.gen.nextGroupId
        (.ok (app.setSession mcg session gen), sent)
      else
        let (left, sent) := leaveMemberFromGroup mcg pk session app.gen.nextGroupId
        (left.map fun (session, gen) => app.setSession mcg session gen, sent) := by
  unfold handleUDPPacket
  simp only [groupInPk, MCGroup.create]
  rw [OrderedMap.findEntry_eq_some.mpr ⟨stored, congrArg BitVec.toNat address⟩]
  rfl

theorem handleUDPPacket_acts (good : app.Good) (udp : pk.protocol ≠ protocolTypeIgmp) :
    Acts app (.packet pk) (app.handleUDPPacket pk).1 (app.handleUDPPacket pk).2 := by
  rcases app.addressee_cases pk with ⟨mcg, session, stored, address⟩ | unknown
  · have addressed : app.Addressed pk mcg session := ⟨udp, stored, address⟩
    have silent (quiet : ¬ Answers mcg session pk) :
        Acts app (.packet pk) (.ok (app.setSession mcg session app.gen.nextGroupId)) [] := by
      rw [setSession_self stored]
      apply Acts.nothing (Or.inr rfl)
      rintro pk' mcg' session' ⟨⟩ addressed'
      cases addressed_unique addressed addressed'
      exact quiet
    rw [handleUDPPacket_known stored address]
    rcases memberFlag_cases mcg pk with flag | flag | flag
    · rw [flag, if_pos rfl]
      have quiet := silent (by simp [Answers, flag])
      rwa [setSession_self stored] at quiet
    · rw [flag, if_neg (by decide), if_pos rfl]
      cases found : session.members.lookup pk.inIntf with
      | none =>
          rw [Session.joinMemberToGroup_new found]
          exact Acts.joined rfl addressed flag found
      | some mcgm =>
          rw [Session.joinMemberToGroup_known found]
          exact silent (by simp [Answers, flag, found])
    · rw [flag, if_neg (by decide), if_neg (by decide)]
      cases found : session.members.lookup pk.inIntf with
      | none =>
          rw [Session.leaveMemberFromGroup_unknown found]
          exact silent (by simp [Answers, flag, found])
      | some mcgm =>
          have inside := Session.bucketIndex_lt (good mcg session stored) (Session.lookup_members.mp found)
          rw [Session.leaveMemberFromGroup_known found, Session.removeMember_eq inside]
          exact Acts.left rfl addressed flag found
  · rw [handleUDPPacket_unknown unknown]
    apply Acts.nothing (Or.inr rfl)
    rintro pk' mcg session ⟨⟩ addressed -
    exact unknown _ addressed.stored addressed.address

theorem createNewGroup_acts (event : Event) (notPacket : ∀ pk, event ≠ .packet pk) (ip : BitVec 32)
    (upIntf sport dport : BitVec 16) (classd isRoot : Bool) :
    Acts app event (.ok (app.createNewGroup ip upIntf sport dport classd isRoot).1)
      (app.createNewGroup ip upIntf sport dport classd isRoot).2 := by
  unfold createNewGroup MCGroup.create
  simp only
  cases found : app.multicastSessionStore.lookup
      { groupip := ip, sudpport := sport, dudpport := dport, upstreamIntf := upIntf, isClassd := classd,
        groupid := app.gen.nextGroupId.groupId, isRoot := isRoot } with
  | some session =>
      rw [createGroup_known (by exact found)]
      exact Acts.nothing (Or.inr rfl) fun pk _ _ same => absurd same (notPacket pk)
  | none =>
      rw [createGroup_new (by exact found)]
      exact Acts.opened notPacket rfl rfl found

theorem step_acts (good : app.Good) (event : Event) : Acts app event (app.step event).1 (app.step event).2 := by
  cases event with
  | newGroup ip upIntf sport dport classd isRoot =>
      exact createNewGroup_acts _ (fun _ => by simp) ip upIntf sport dport classd isRoot
  | newSession sip dip sport dport upIntf isRoot =>
      simp only [step, createSession]
      split_ifs
      · exact Acts.nothing (Or.inl rfl) fun pk _ _ same => by simp at same
      · exact createNewGroup_acts _ (fun _ => by simp) sip upIntf sport dport false _
  | packet pk =>
      simp only [step, handlePacketIn]
      split_ifs with igmp
      · exact Acts.nothing (Or.inr rfl) fun pk' _ _ same addressed => by
          cases same
          exact absurd igmp addressed.udp
      · exact handleUDPPacket_acts good igmp

/-! ## The invariant of all sessions -/

theorem key_eq_iff {mcg mcg' : MCGroup} : mcg'.key = mcg.key ↔ mcg'.groupip = mcg.groupip :=
  toNat_injective.eq_iff

theorem mem_setSession {session₀ session' : Session} {mcg' : MCGroup} {gen : Generators}
    (stored : (mcg, session₀) ∈ app.multicastSessionStore) :
    (mcg', session') ∈ (app.setSession mcg session gen).multicastSessionStore ↔
      (mcg' = mcg ∧ session' = session) ∨
        (mcg'.groupip ≠ mcg.groupip ∧ (mcg', session') ∈ app.multicastSessionStore) := by
  simp only [setSession, OrderedMap.modify, OrderedMap.mem_mapValues]
  constructor
  · rintro ⟨old, member, changed⟩
    rw [changed]
    split_ifs with same
    · cases OrderedMap.eq_of_key member stored same
      exact Or.inl ⟨rfl, rfl⟩
    · exact Or.inr ⟨fun equal => same (key_eq_iff.mpr equal), member⟩
  · rintro (⟨rfl, rfl⟩ | ⟨different, member⟩)
    · exact ⟨session₀, stored, by simp⟩
    · exact ⟨session', member, by rw [if_neg fun same => different (key_eq_iff.mp same)]⟩

theorem mem_opened {mcg' : MCGroup} {session' : Session}
    (absent : app.multicastSessionStore.lookup mcg = none) :
    (mcg', session') ∈ app.multicastSessionStore.set mcg session ↔
      (mcg', session') ∈ app.multicastSessionStore ∨ mcg' = mcg ∧ session' = session := by
  rw [OrderedMap.set_of_lookup_none absent, OrderedMap.mem_insertNew, Prod.mk.injEq, and_iff_left absent]

theorem Acts.good (acts : Acts app event (.ok app') sent) (good : app.Good) : app'.Good := by
  cases acts with
  | nothing => exact good
  | opened notPacket drawn named absent =>
      intro mcg' session' member
      rcases (mem_opened absent).mp member with old | ⟨rfl, rfl⟩
      · exact good mcg' session' old
      · apply Session.consistent_empty
        · rfl
        · split_ifs <;> rfl
  | joined drawn addressed flag absent =>
      intro mcg' session' member
      rcases (mem_setSession addressed.stored).mp member with ⟨rfl, rfl⟩ | ⟨-, old⟩
      · exact Session.consistent_joined (good _ _ addressed.stored) absent _
      · exact good mcg' session' old

def Steps (app : MulticastGroupMembershipApp) (event : Event) (app' : MulticastGroupMembershipApp) : Prop :=
  (app.step event).1 = .ok app'

theorem run_iff {app₀ : MulticastGroupMembershipApp} {events : List Event} :
    Run Steps app₀ events app ↔ events.foldlM (fun app event => (app.step event).1) app₀ = .ok app := Run.iff_foldlM

/-! ## The leaves of members -/

/-- The packet leaves a group on the interface of one of its members. -/
def Deletes (app : MulticastGroupMembershipApp) (pk : PacketInDataHeader) : Prop :=
  ∃ mcg session, (mcg, session) ∈ app.multicastSessionStore ∧ mcg.groupip = pk.dip ∧ memberFlag mcg pk = 2 ∧
    session.members.lookup pk.inIntf ≠ none

def LeavesMember (app : MulticastGroupMembershipApp) (event : Event) : Prop :=
  ∃ pk, event = .packet pk ∧ pk.protocol ≠ protocolTypeIgmp ∧ app.Deletes pk

def Faults (app : MulticastGroupMembershipApp) (event : Event) : Prop := ∃ fault, (app.step event).1 = .error fault

theorem not_faults_iff : ¬ app.Faults event ↔ ∃ app', Steps app event app' := by
  unfold Faults Steps
  cases (app.step event).1 with
  | error fault => simp
  | ok app' => simp

theorem deletes_iff (stored : (mcg, session) ∈ app.multicastSessionStore) (address : mcg.groupip = pk.dip) :
    app.Deletes pk ↔ memberFlag mcg pk = 2 ∧ session.members.lookup pk.inIntf ≠ none := by
  constructor
  · rintro ⟨mcg', session', stored', address', leaves⟩
    have same : mcg'.key = mcg.key := congrArg BitVec.toNat (address'.trans address.symm)
    cases OrderedMap.eq_of_key stored' stored same
    exact leaves
  · exact fun leaves => ⟨mcg, session, stored, address, leaves⟩

theorem handleUDPPacket_error_iff {fault : Fault} :
    (app.handleUDPPacket pk).1 = .error fault ↔ app.Deletes pk ∧ fault = .erasedIterator := by
  rcases app.addressee_cases pk with ⟨mcg, session, stored, address⟩ | unknown
  · rw [handleUDPPacket_known stored address, deletes_iff stored address]
    rcases memberFlag_cases mcg pk with flag | flag | flag
    · simp [flag]
    · simp [flag]
    · rw [flag, if_neg (by decide), if_neg (by decide)]
      cases found : session.members.lookup pk.inIntf with
      | none =>
          rw [Session.leaveMemberFromGroup_unknown found]
          exact iff_of_false (fun failed => by cases failed) fun both => both.1.2 rfl
      | some mcgm =>
          rw [Session.leaveMemberFromGroup_known found]
          show Except.error _ = _ ↔ _
          simp [eq_comm]
  · rw [handleUDPPacket_unknown unknown]
    apply iff_of_false
    · exact fun failed => by cases failed
    · rintro ⟨⟨mcg, session, stored, address, -⟩, -⟩
      exact unknown _ stored address

theorem handleUDPPacket_faults_iff :
    (∃ fault, (app.handleUDPPacket pk).1 = .error fault) ↔ app.Deletes pk := by
  simp only [handleUDPPacket_error_iff, exists_eq_right]

theorem handleUDPPacket_ok_iff : (∃ app', (app.handleUDPPacket pk).1 = .ok app') ↔ ¬ app.Deletes pk := by
  rw [← handleUDPPacket_faults_iff]
  cases (app.handleUDPPacket pk).1 with
  | error fault => simp
  | ok app' => simp

theorem faults_iff : app.Faults event ↔ app.LeavesMember event := by
  unfold LeavesMember
  cases event with
  | newGroup | newSession =>
      apply iff_of_false
      · rintro ⟨fault, failed⟩
        cases failed
      · rintro ⟨pk, same, -⟩
        cases same
  | packet pk =>
      simp only [Faults, step, handlePacketIn, Event.packet.injEq, exists_eq_left']
      split_ifs with igmp
      · simp [igmp]
      · rw [handleUDPPacket_faults_iff, and_iff_right igmp]

theorem step_error {fault : Fault} (failed : (app.step event).1 = .error fault) : fault = .erasedIterator := by
  cases event with
  | newGroup | newSession => cases failed
  | packet pk =>
      simp only [step, handlePacketIn] at failed
      split_ifs at failed
      exact (handleUDPPacket_error_iff.mp failed).2

theorem good_of_empty (empty : app.multicastSessionStore = .empty) : app.Good := by
  intro mcg session member
  rw [empty] at member
  exact absurd member List.not_mem_nil

theorem visits_good {app₀ : MulticastGroupMembershipApp} {events : List Event}
    (empty : app₀.multicastSessionStore = .empty) (visits : Visits Steps app₀ events app) : app.Good := by
  apply visits.invariant _ (good_of_empty empty)
  intro state event next good takes
  have acts := step_acts good event
  rw [takes.steps] at acts
  exact acts.good good

theorem steps_unique (app : MulticastGroupMembershipApp) (event : Event) (app' app'' : MulticastGroupMembershipApp)
    (steps : Steps app event app') (steps' : Steps app event app'') : app' = app'' :=
  Except.ok.inj (steps.symm.trans steps')

theorem run_completes_iff {app₀ : MulticastGroupMembershipApp} {events : List Event} :
    (∃ last, Run Steps app₀ events last) ↔
      ∀ app event, Meets Steps app₀ events app event → ¬ app.LeavesMember event := by
  rw [Run.completes_iff steps_unique]
  simp only [← not_faults_iff, faults_iff]

theorem not_leavesMember_of_run {app₀ last : MulticastGroupMembershipApp} {events : List Event}
    (run : Run Steps app₀ events last) (meets : Meets Steps app₀ events app event) : ¬ app.LeavesMember event :=
  run_completes_iff.mp ⟨last, run⟩ app event meets

def sampleGroup : Event := .newGroup 0x0100000a 1 1000 2000 false true

def sampleJoin (intf : BitVec 16) : PacketInDataHeader :=
  { dmac := 0, smac := 1, sip := 0x0200000a, dip := 0x0100000a, inIntf := intf, usrcPort := 1000, udstPort := 2000,
    protocol := 0x11, membershipCode := 0, ofpi := { xid := 0, bufferId := noBuffer, data := [] } }

def sampleLeave (intf : BitVec 16) : PacketInDataHeader :=
  { sampleJoin intf with usrcPort := 2000, udstPort := 1000 }

end MulticastGroupMembershipApp

end Libfluid.Multicast
