import Libfluid.Multicast.GroupIds
import Libfluid.Multicast.Service

namespace Libfluid.Multicast
open Library Switch

/-! ## The flows of a group -/

namespace FlowEntry

structure Hooks (entry : FlowEntry) (mcg : MCGroup) : Prop where
  tableId : entry.tableId = 0
  priority : entry.priority = 1000
  match_ : entry.match_ = hookMatch mcg
  actions : entry.actions = [.output ofppController 512]

structure Feeds (entry : FlowEntry) (mcg : MCGroup) : Prop where
  tableId : entry.tableId = 0
  priority : entry.priority = 10
  match_ : entry.match_ = downstreamMatch mcg
  actions : entry.actions = [.group mcg.groupid]

variable {entry : FlowEntry} {mcg : MCGroup} {packet : DataPacket}

theorem Hooks.applies_iff (hooks : entry.Hooks mcg) :
    entry.Applies packet ↔ packet.ipv4Dst = mcg.groupip ∧ packet.IsIpv4 ∧ (mcg.isClassd = false → packet.ipProto = 17) := by
  unfold Applies
  rw [hooks.match_, and_iff_right hooks.tableId]
  unfold hookMatch
  cases mcg.isClassd with
  | false =>
      simp only [Bool.not_false, ↓reduceIte, List.forall_mem_cons, DataPacket.Has, DataPacket.IsIpv4]
      simp
      tauto
  | true =>
      simp only [Bool.not_true, Bool.false_eq_true, ↓reduceIte, List.forall_mem_cons, DataPacket.Has]
      simp
      tauto

theorem Feeds.applies_iff (feeds : entry.Feeds mcg) (unicast : mcg.isClassd = false) :
    entry.Applies packet ↔ packet.ipv4Src = mcg.groupip ∧ packet.IsUdp ∧ packet.udpSrc = mcg.sudpport ∧
      packet.udpDst = mcg.dudpport := by
  unfold Applies
  rw [feeds.match_, and_iff_right feeds.tableId, downstreamMatch, unicast]
  simp only [Bool.not_false, ↓reduceIte, List.forall_mem_cons, DataPacket.Has, DataPacket.IsUdp, DataPacket.IsIpv4]
  simp
  tauto

theorem Feeds.applies_classd (feeds : entry.Feeds mcg) (classd : mcg.isClassd = true) (applies : entry.Applies packet) :
    packet.ipv4Dst = mcg.groupip ∧ packet.IsIpv4 := by
  have field := applies.2 (.ipv4Dst mcg.groupip)
  rw [feeds.match_, downstreamMatch, classd] at field
  exact (field (List.mem_singleton_self _)).symm

theorem Hooks.spared (hooks : entry.Hooks mcg) {fm : FlowMod}
    (priority : fm.priority ≠ 1000 ∨ fm.match_ ≠ hookMatch mcg)
    (outPort : fm.outPort = 0) : ReferenceSwitch.Spares entry (.flowMod fm) := by
  constructor
  · rintro - ⟨-, same, matches_⟩
    rcases priority with other | other
    · exact other (same.symm.trans hooks.priority)
    · exact other (matches_.symm.trans hooks.match_)
  · rintro - ⟨-, -, -, outputs, -⟩
    -- The deletions of the agent ask for flows that output to port 0.
    rw [outPort, outputsTo, hooks.actions] at outputs
    rcases outputs with any | zero
    · exact absurd any (by decide)
    · exact absurd zero (by decide)

theorem Hooks.stays (hooks : entry.Hooks mcg) {switch switch' : ReferenceSwitch} {sent : List Message}
    (executed : switch.executeAll sent = some switch')
    (spared : ∀ fm, .flowMod fm ∈ sent → ReferenceSwitch.Spares entry (.flowMod fm)) (installed : entry ∈ switch.flows) :
    entry ∈ switch'.flows := by
  have unnamed (g : BitVec 32) : .group g ∉ entry.actions := by
    simp [hooks.actions]
  refine ReferenceSwitch.mem_flows_executeAll executed unnamed ?_ installed
  intro message inside
  cases message with
  | groupMod gm => trivial
  | packetOut po => trivial
  | flowMod fm => exact spared fm inside

end FlowEntry

theorem hookMatch_injective {mcg mcg' : MCGroup} (same : hookMatch mcg = hookMatch mcg') :
    mcg.groupip = mcg'.groupip := by
  unfold hookMatch at same
  split_ifs at same <;> simp_all

theorem hooks_hookFlowMod (mcg : MCGroup) (gen : Generators) : (hookFlowMod mcg gen).entry.Hooks mcg where
  tableId := rfl
  priority := rfl
  match_ := rfl
  actions := rfl

theorem feeds_downstreamFlowMod (mcg : MCGroup) (gen : Generators) : (downstreamFlowMod mcg gen).entry.Feeds mcg where
  tableId := rfl
  priority := rfl
  match_ := rfl
  actions := rfl

structure Explains (app : MulticastGroupMembershipApp) (switch : ReferenceSwitch) : Prop where
  hooks : ∀ mcg session, (mcg, session) ∈ app.multicastSessionStore → ∃ entry ∈ switch.flows, entry.Hooks mcg
  feeds : ∀ mcg session, (mcg, session) ∈ app.multicastSessionStore → session.ofContext.offlowmod.entry.Feeds mcg
  flows : ∀ entry ∈ switch.flows, ∃ mcg session, (mcg, session) ∈ app.multicastSessionStore ∧
    (entry.Hooks mcg ∨ entry.Feeds mcg)

namespace Explains
open MulticastGroupMembershipApp ReferenceSwitch

variable {app app' : MulticastGroupMembershipApp} {switch switch' : ReferenceSwitch} {mcg : MCGroup}
  {session session' : Session} {pk : PacketInDataHeader} {mcgm : MCGroupMember} {gen : Generators}
  {sent : List Message} {event : Event}

theorem setSession (explains : Explains app switch) (stored : (mcg, session) ∈ app.multicastSessionStore)
    (executed : switch.executeAll sent = some switch')
    (entry : session'.ofContext.offlowmod.entry = session.ofContext.offlowmod.entry)
    (own : ∀ fm, .flowMod fm ∈ sent → fm.entry = session.ofContext.offlowmod.entry ∧ fm.outPort = 0) :
    Explains (app.setSession mcg session' gen) switch' where
  hooks := by
    intro mcg₁ session₁ member
    have old : ∃ session₀, (mcg₁, session₀) ∈ app.multicastSessionStore := by
      rcases (mem_setSession stored).mp member with ⟨rfl, -⟩ | ⟨-, old⟩
      · exact ⟨session, stored⟩
      · exact ⟨session₁, old⟩
    obtain ⟨session₀, old⟩ := old
    obtain ⟨hook, installed, hooks⟩ := explains.hooks mcg₁ session₀ old
    refine ⟨hook, hooks.stays executed ?_ installed, hooks⟩
    intro fm inside
    obtain ⟨same, outPort⟩ := own fm inside
    have priority : fm.entry.priority = 10 := by
      rw [same]
      exact (explains.feeds mcg session stored).priority
    apply hooks.spared (Or.inl _) outPort
    rw [show fm.priority = 10 from priority]
    decide
  feeds := by
    intro mcg₁ session₁ member
    rcases (mem_setSession stored).mp member with ⟨rfl, rfl⟩ | ⟨-, old⟩
    · rw [entry]
      exact explains.feeds mcg₁ session stored
    · exact explains.feeds mcg₁ session₁ old
  flows := by
    intro flow member
    have still (mcg₁ : MCGroup) (session₁ : Session) (old : (mcg₁, session₁) ∈ app.multicastSessionStore) :
        ∃ session₂, (mcg₁, session₂) ∈ (app.setSession mcg session' gen).multicastSessionStore := by
      by_cases same : mcg₁.groupip = mcg.groupip
      · have entries := OrderedMap.eq_of_key old stored (congrArg BitVec.toNat same)
        obtain ⟨rfl, -⟩ := Prod.mk.inj entries
        exact ⟨session', (mem_setSession stored).mpr (Or.inl ⟨rfl, rfl⟩)⟩
      · exact ⟨session₁, (mem_setSession stored).mpr (Or.inr ⟨same, old⟩)⟩
    rcases mem_flows_of_executeAll executed member with old | ⟨fm, inside, -, rfl⟩
    · obtain ⟨mcg₁, session₁, before, about⟩ := explains.flows flow old
      obtain ⟨session₂, after⟩ := still mcg₁ session₁ before
      exact ⟨mcg₁, session₂, after, about⟩
    · obtain ⟨session₂, after⟩ := still mcg session stored
      refine ⟨mcg, session₂, after, Or.inr ?_⟩
      rw [(own fm inside).1]
      exact explains.feeds mcg session stored

theorem opened (explains : Explains app switch) (absent : app.multicastSessionStore.lookup mcg = none)
    (store : app'.multicastSessionStore = app.multicastSessionStore.set mcg (openSession mcg gen))
    (executed : switch.executeAll (openMessages mcg gen) = some switch') : Explains app' switch' := by
  have members (mcg₁ : MCGroup) (session₁ : Session) : (mcg₁, session₁) ∈ app'.multicastSessionStore ↔
      (mcg₁, session₁) ∈ app.multicastSessionStore ∨ mcg₁ = mcg ∧ session₁ = openSession mcg gen := by
    rw [store]
    exact mem_opened absent
  have sent (fm : FlowMod) (inside : .flowMod fm ∈ openMessages mcg gen) :
      fm = downstreamFlowMod mcg (downstreamGen gen) ∨ fm = hookFlowMod mcg (hookGen mcg gen) := by
    unfold openMessages at inside
    split_ifs at inside <;> simp_all
  constructor
  case hooks =>
    intro mcg₁ session₁ member
    rcases (members mcg₁ session₁).mp member with old | ⟨rfl, -⟩
    · obtain ⟨hook, installed, hooks⟩ := explains.hooks mcg₁ session₁ old
      refine ⟨hook, hooks.stays executed ?_ installed, hooks⟩
      intro fm inside
      rcases sent fm inside with rfl | rfl
      · exact hooks.spared (Or.inl (by decide : (10 : BitVec 16) ≠ 1000)) rfl
      · apply hooks.spared (Or.inr _) rfl
        intro same
        exact OrderedMap.lookup_eq_none.mp absent _ old (congrArg BitVec.toNat (hookMatch_injective same).symm)
    · rw [openMessages, executeAll_append] at executed
      obtain ⟨middle, -, last⟩ := Option.bind_eq_some_iff.mp executed
      refine ⟨(hookFlowMod mcg₁ (hookGen mcg₁ gen)).entry, ?_, hooks_hookFlowMod _ _⟩
      have added : middle.execute (.flowMod (hookFlowMod mcg₁ (hookGen mcg₁ gen))) = some _ :=
        executeFlowMod_add rfl fun g names => by simp [hookFlowMod] at names
      rw [executeAll_cons added] at last
      cases last
      exact mem_addFlow.mpr (Or.inr rfl)
  case feeds =>
    intro mcg₁ session₁ member
    rcases (members mcg₁ session₁).mp member with old | ⟨rfl, rfl⟩
    · exact explains.feeds mcg₁ session₁ old
    · exact feeds_downstreamFlowMod _ _
  case flows =>
    intro flow member
    rcases mem_flows_of_executeAll executed member with old | ⟨fm, inside, -, rfl⟩
    · obtain ⟨mcg₁, session₁, before, about⟩ := explains.flows flow old
      exact ⟨mcg₁, session₁, (members mcg₁ session₁).mpr (Or.inl before), about⟩
    · refine ⟨mcg, _, (members mcg _).mpr (Or.inr ⟨rfl, rfl⟩), ?_⟩
      rcases sent fm inside with rfl | rfl
      · exact Or.inr (feeds_downstreamFlowMod _ _)
      · exact Or.inl (hooks_hookFlowMod _ _)

theorem of_acts (explains : Explains app switch) (simulates : Simulates app switch) (acts : Acts app event (.ok app') sent)
    (executed : switch.executeAll sent = some switch') : Explains app' switch' := by
  cases acts with
  | nothing =>
      cases executed
      exact { explains with }
  | opened _ _ _ absent => exact explains.opened absent rfl executed
  | @joined pk mcg session gen _ addressed flag absent =>
      obtain ⟨command, same⟩ : ∃ command, (session.joined mcg pk gen.xid).ofContext.offlowmod =
        { session.ofContext.offlowmod with command := command } := Session.offlowmod_joined
      have wired := simulates.wired mcg session addressed.stored
      apply explains.setSession addressed.stored executed
      · rw [same]
        rfl
      · intro fm inside
        have sent : fm = (session.joined mcg pk gen.xid).ofContext.offlowmod := by
          unfold joinMessages at inside
          split_ifs at inside
          · simpa [MCGroup.sendUpstreamPacketOut] using inside
          · simp at inside
        rw [sent, same]
        exact ⟨rfl, wired.outPort⟩

theorem of_empty (empty : app.multicastSessionStore = .empty) : Explains app .empty where
  hooks := by
    intro mcg session stored
    rw [empty] at stored
    exact absurd stored List.not_mem_nil
  feeds := by
    intro mcg session stored
    rw [empty] at stored
    exact absurd stored List.not_mem_nil
  flows := fun _ member => absurd member List.not_mem_nil

end Explains

/-! ## What becomes of a packet -/

structure Follows (app : MulticastGroupMembershipApp) (switch : ReferenceSwitch) (service : Service) : Prop where
  good : app.Good
  simulates : Simulates app switch
  explains : Explains app switch
  represents : Represents app service

namespace Follows
open MulticastGroupMembershipApp ReferenceSwitch

variable {app app' : MulticastGroupMembershipApp} {switch : ReferenceSwitch} {service : Service} {mcg : MCGroup}
  {session : Session} {channel : Channel} {packet : DataPacket} {inPort : BitVec 32} {out : List Egress}
  {entry : FlowEntry}

theorem caught_of_hooks (follows : Follows app switch service) (stored : (mcg, session) ∈ app.multicastSessionStore)
    (hooks : entry.Hooks mcg) (applies : entry.Applies packet) :
    ∃ channel, service packet.ipv4Dst = some channel ∧ channel.Catches packet := by
  obtain ⟨channel, present, mirrors⟩ := follows.represents.stored mcg session stored
  obtain ⟨address, ipv4, proto⟩ := hooks.applies_iff.mp applies
  refine ⟨channel, by rw [address, present], ipv4, ?_⟩
  rw [mirrors.classd]
  exact proto

theorem forwards_caught (follows : Follows app switch service) (present : service packet.ipv4Dst = some channel)
    (catches : channel.Catches packet) :
    switch.Forwards inPort packet out ↔ out = service.forward inPort packet := by
  obtain ⟨mcg, session, stored, address⟩ := follows.represents.known _ channel present
  obtain ⟨channel', present', mirrors⟩ := follows.represents.stored mcg session stored
  rw [address, present, Option.some_inj] at present'
  subst present'
  obtain ⟨hook, installed, hooks⟩ := follows.explains.hooks mcg session stored
  have applies : hook.Applies packet := by
    rw [hooks.applies_iff, ← mirrors.classd]
    exact ⟨address.symm, catches⟩
  have below (other : FlowEntry) (member : other ∈ switch.flows) :
      other.priority = 10 ∨ other.priority = 1000 ∧ other.actions = hook.actions := by
    obtain ⟨mcg', session', -, about | about⟩ := follows.explains.flows other member
    · exact Or.inr ⟨about.priority, about.actions.trans hooks.actions.symm⟩
    · exact Or.inl about.priority
  have selects : switch.Selects packet hook := by
    refine { member := installed, applies := applies, highest := ?_ }
    intro other member _
    rw [hooks.priority]
    rcases below other member with low | ⟨high, -⟩
    · rw [low]
      decide
    · exact BitVec.le_of_eq high
  have copies : service.copies packet = [{ port := ofppController, maxLen := 512, packet := packet }] := by
    rw [Service.copies, present, if_pos (by simpa using catches)]
  rw [forwards_iff_of_above selects, hooks.actions, Service.forward, copies]
  · by_cases back : ofppController = inPort <;> simp [runActions, back]
  · intro other member _ above
    rcases below other member with low | ⟨-, same⟩
    · rw [hooks.priority, low] at above
      exact absurd above (by decide)
    · exact same

theorem feeds_of_applies (follows : Follows app switch service)
    (free : ∀ channel, service packet.ipv4Dst = some channel → ¬ channel.Catches packet)
    (member : entry ∈ switch.flows) (applies : entry.Applies packet) :
    ∃ mcg session channel, entry.Feeds mcg ∧ (mcg, session) ∈ app.multicastSessionStore ∧
      mcg.groupip = packet.ipv4Src ∧ service packet.ipv4Src = some channel ∧ Mirrors mcg session channel ∧
      channel.Carries packet ∧ Present mcg session := by
  obtain ⟨mcg, session, stored, about⟩ := follows.explains.flows entry member
  obtain ⟨channel, present, mirrors⟩ := follows.represents.stored mcg session stored
  have feeds : entry.Feeds mcg := by
    rcases about with hooks | feeds
    · obtain ⟨caught, service, catches⟩ := follows.caught_of_hooks stored hooks applies
      exact absurd catches (free caught service)
    · exact feeds
  have unicast : mcg.isClassd = false := by
    by_contra classd
    rw [Bool.not_eq_false] at classd
    obtain ⟨address, ipv4⟩ := feeds.applies_classd classd applies
    apply free channel (by rw [address, present])
    refine ⟨ipv4, fun unicast => ?_⟩
    rw [mirrors.classd, classd] at unicast
    cases unicast
  have exists_ : Present mcg session := by
    by_contra missing
    have group := follows.simulates.groups mcg session stored
    rw [if_neg missing] at group
    apply follows.simulates.named entry member mcg.groupid _ group
    rw [feeds.actions]
    exact List.mem_singleton_self _
  obtain ⟨source, udp, ports⟩ := (feeds.applies_iff unicast).mp applies
  refine ⟨mcg, session, channel, feeds, stored, source.symm, by rw [source, present], mirrors, ?_, exists_⟩
  rw [Channel.Carries, mirrors.classd, mirrors.sport, mirrors.dport]
  exact ⟨unicast, udp, ports⟩

theorem runActions_bucket {group : BitVec 32 → DataPacket → List Egress} (mcgm : MCGroupMember)
    (port : mcgm.udpPort = packet.udpDst) :
    runActions group inPort packet mcgm.bucket.actions =
      [{ port := mcgm.intf.setWidth 32, maxLen := 0, packet := packet.readdressed mcgm.subscriber }].filter
        fun egress => egress.port ≠ inPort := by
  have rewritten : ((packet.write (.udpDst mcgm.udpPort)).write (.ipv4Dst mcgm.destIp)).write
      (.ethDst (ethAddressOf mcgm.destMac)) = packet.readdressed mcgm.subscriber := by
    rw [port]
    rfl
  simp only [MCGroupMember.bucket, runActions, rewritten]
  by_cases back : mcgm.intf.setWidth 32 = inPort <;> simp [back]

theorem replicates (consistent : session.Consistent) (mirrors : Mirrors mcg session channel)
    (carries : channel.Carries packet) (buckets : switch.groups mcg.groupid = some session.ofContext.ofgroupmod.buckets) :
    (switch.replicate inPort mcg.groupid packet).Perm
      ((channel.subscribers.map packet.copyFor).filter fun egress => egress.port ≠ inPort) := by
  obtain ⟨order, perm, -, listed⟩ := consistent.listed
  rw [replicate, buckets, consistent.sent, listed, Option.getD_some, List.flatMap_map]
  have copied : ∀ entry ∈ order, runActions (fun _ _ => []) inPort packet entry.2.bucket.actions =
      [packet.copyFor (entry.1, entry.2.subscriber)].filter fun egress => egress.port ≠ inPort := by
    intro entry member
    have stored : entry ∈ session.members := perm.mem_iff.mp member
    have port : entry.2.udpPort = packet.udpDst := by
      rw [mirrors.ports entry stored, carries.2.2.2, mirrors.dport]
    rw [runActions_bucket entry.2 port, consistent.intf entry stored]
    rfl
  rw [List.flatMap_congr copied, ← List.filter_flatMap, ← List.map_eq_flatMap]
  apply List.Perm.filter
  have subscribers := (mirrors.subscribers.map packet.copyFor).symm
  rw [List.map_map] at subscribers
  exact (perm.map _).trans subscribers

theorem forwards_carried (follows : Follows app switch service)
    (free : ∀ channel, service packet.ipv4Dst = some channel → ¬ channel.Catches packet)
    (stored : (mcg, session) ∈ app.multicastSessionStore) (source : mcg.groupip = packet.ipv4Src)
    (mirrors : Mirrors mcg session channel) (carries : channel.Carries packet) (present : Present mcg session) :
    switch.Forwards inPort packet out ↔ out = switch.replicate inPort mcg.groupid packet := by
  have feeds := follows.explains.feeds mcg session stored
  have applies : session.ofContext.offlowmod.entry.Applies packet := by
    rw [feeds.applies_iff (mirrors.classd.symm.trans carries.1), ← mirrors.sport, ← mirrors.dport]
    exact ⟨source.symm, carries.2⟩
  have only (other : FlowEntry) (member : other ∈ switch.flows) (also : other.Applies packet) : other.Feeds mcg := by
    obtain ⟨mcg', session', -, feeds', stored', source', -⟩ := follows.feeds_of_applies free member also
    have entries := OrderedMap.eq_of_key stored' stored (congrArg BitVec.toNat (source'.trans source.symm))
    obtain ⟨rfl, -⟩ := Prod.mk.inj entries
    exact feeds'
  have selects : switch.Selects packet session.ofContext.offlowmod.entry := by
    refine { member := follows.simulates.flows mcg session stored present, applies := applies, highest := ?_ }
    intro other member also
    rw [(only other member also).priority, feeds.priority]
    decide
  rw [forwards_iff_of_above selects, feeds.actions]
  · simp [runActions]
  · exact fun other member also _ => (only other member also).actions.trans feeds.actions.symm

theorem forwards (follows : Follows app switch service) (inPort : BitVec 32) (packet : DataPacket) :
    (∃ out, switch.Forwards inPort packet out) ∧
      ∀ out, switch.Forwards inPort packet out → out.Perm (service.forward inPort packet) := by
  have of_iff {result : List Egress} (same : ∀ out, switch.Forwards inPort packet out ↔ out = result)
      (perm : result.Perm (service.forward inPort packet)) : (∃ out, switch.Forwards inPort packet out) ∧
        ∀ out, switch.Forwards inPort packet out → out.Perm (service.forward inPort packet) := by
    refine ⟨⟨result, (same result).mpr rfl⟩, ?_⟩
    intro out forwards
    rwa [(same out).mp forwards]
  by_cases caught : ∃ channel, service packet.ipv4Dst = some channel ∧ channel.Catches packet
  · obtain ⟨channel, present, catches⟩ := caught
    exact of_iff (fun _ => follows.forwards_caught present catches) (List.Perm.refl _)
  · have free (channel : Channel) (present : service packet.ipv4Dst = some channel) : ¬ channel.Catches packet :=
      fun catches => caught ⟨channel, present, catches⟩
    have uncaught : ¬ ((service packet.ipv4Dst).any fun channel => channel.Catches packet) = true := by
      rw [Option.any_eq_true]
      rintro ⟨channel, present, catches⟩
      exact free channel present (of_decide_eq_true catches)
    by_cases carried : ∃ mcg session channel, (mcg, session) ∈ app.multicastSessionStore ∧
        mcg.groupip = packet.ipv4Src ∧ service packet.ipv4Src = some channel ∧ Mirrors mcg session channel ∧
        channel.Carries packet ∧ Present mcg session
    · obtain ⟨mcg, session, channel, stored, source, known, mirrors, carries, present⟩ := carried
      have buckets := follows.simulates.groups mcg session stored
      rw [if_pos present] at buckets
      apply of_iff fun _ => follows.forwards_carried free stored source mirrors carries present
      rw [Service.forward, Service.copies, if_neg uncaught, known, Option.filter_some_pos (by simpa using carries)]
      exact replicates (follows.good mcg session stored) mirrors carries buckets
    · have missed : ∀ entry ∈ switch.flows, ¬ entry.Applies packet := by
        intro entry member applies
        obtain ⟨mcg, session, channel, -, carries⟩ := follows.feeds_of_applies free member applies
        exact carried ⟨mcg, session, channel, carries⟩
      have quiet : service.copies packet = [] := by
        rw [Service.copies, if_neg uncaught]
        cases known : (service packet.ipv4Src).filter fun channel => channel.Carries packet with
        | none => rfl
        | some channel =>
            obtain ⟨known, carries⟩ := Option.filter_eq_some_iff.mp known
            obtain ⟨mcg, session, stored, source⟩ := follows.represents.known _ channel known
            obtain ⟨channel', known', mirrors⟩ := follows.represents.stored mcg session stored
            rw [source, known, Option.some_inj] at known'
            subst known'
            have empty : session.members.toList = [] := by
              by_contra members
              exact carried ⟨mcg, session, channel, stored, source, known, mirrors, of_decide_eq_true carries,
                Or.inr fun none => members (List.eq_nil_of_length_eq_zero none)⟩
            have subscribers := mirrors.subscribers
            rw [empty] at subscribers
            simp [subscribers.eq_nil]
      apply of_iff fun _ => forwards_iff_of_missed missed
      rw [Service.forward, quiet]
      exact List.Perm.refl _

/-! ## Runs -/

theorem step (follows : Follows app switch service) {event : Event} (steps : app.Steps event app')
    (unwrapped : app.gen.groupId ≤ app'.gen.groupId) :
    ∃ switch', switch.executeAll (app.step event).2 = some switch' ∧
      Follows app' switch' (service.after event) := by
  have acts := step_acts follows.good event
  rw [steps] at acts
  obtain ⟨switch', executed, simulates⟩ := follows.simulates.of_acts acts unwrapped
  refine ⟨switch', executed, ?_⟩
  exact {
    good := acts.good follows.good
    simulates := simulates
    explains := follows.explains.of_acts follows.simulates acts executed
    represents := follows.represents.step follows.good steps }

theorem of_empty (empty : app.multicastSessionStore = .empty) : Follows app .empty Service.none where
  good := good_of_empty empty
  simulates := simulates_of_empty empty
  explains := Explains.of_empty empty
  represents := Represents.of_empty empty

end Follows

namespace MulticastGroupMembershipApp

variable {app₀ app app' : MulticastGroupMembershipApp} {events : List Event}

theorem step_groupId_toNat {event : Event} (steps : app.Steps event app')
    (below : app.gen.groupId.toNat + (if event.constructs then 1 else 0) < 2 ^ 32) :
    app'.gen.groupId.toNat = app.gen.groupId.toNat + if event.constructs then 1 else 0 := by
  have one : (BitVec.ofNat 32 (if event.constructs then 1 else 0)).toNat = if event.constructs then 1 else 0 := by
    split_ifs <;> rfl
  rw [step_groupId steps, BitVec.toNat_add, one, Nat.mod_eq_of_lt below]

theorem step_unwrapped {event : Event} (steps : app.Steps event app')
    (below : app.gen.groupId.toNat + (if event.constructs then 1 else 0) < 2 ^ 32) :
    app.gen.groupId ≤ app'.gen.groupId := by
  rw [BitVec.le_def, step_groupId_toNat steps below]
  exact Nat.le_add_right _ _

/-- The counter of identifiers has not gone around. -/
def Counted (app₀ : MulticastGroupMembershipApp) (events : List Event) (app : MulticastGroupMembershipApp) : Prop :=
  app.gen.groupId.toNat = app₀.gen.groupId.toNat + constructions events

theorem run_follows (empty : app₀.multicastSessionStore = .empty)
    {state : MulticastGroupMembershipApp × Option ReferenceSwitch} (run : Run Drives (app₀, some .empty) events state)
    (within : app₀.gen.groupId.toNat + constructions events < 2 ^ 32) :
    ∃ switch, state.2 = some switch ∧ Follows state.1 switch (Service.none.afterAll events) ∧
      Counted app₀ events state.1 := by
  induction run with
  | start => exact ⟨_, rfl, Follows.of_empty empty, rfl⟩
  | @step events event state next before advance ih =>
      rw [constructions_snoc] at within
      obtain ⟨switch, on, follows, counted⟩ := ih (by omega)
      unfold Counted at counted ⊢
      obtain ⟨agent, driven⟩ := advance
      rw [← Nat.add_assoc, ← counted] at within
      have drawn : next.1.gen.groupId.toNat = _ := step_groupId_toNat agent within
      obtain ⟨switch', executed, follows⟩ := follows.step agent (step_unwrapped agent within)
      refine ⟨switch', ?_, ?_, ?_⟩
      · rw [← driven, on]
        exact executed
      · rw [Service.afterAll, List.foldl_append]
        exact follows
      · rw [drawn, counted, constructions_snoc, Nat.add_assoc]

/-- As long as the identifiers of groups do not run out, agent and switch come to the end of the events exactly where
no packet leaves a member, and then the switch forwards every packet as the service says. -/
theorem run_forwards (app₀ : MulticastGroupMembershipApp) (events : List Event)
    (empty : app₀.multicastSessionStore = .empty)
    (within : app₀.gen.groupId.toNat + constructions events < 2 ^ 32) :
    ((∃ state, Run Drives (app₀, some .empty) events state) ↔
      ∀ app event, Meets Steps app₀ events app event → ¬ app.LeavesMember event) ∧
    ∀ state, Run Drives (app₀, some .empty) events state →
      ∃ switch, state.2 = some switch ∧ ∀ inPort packet, (∃ out, switch.Forwards inPort packet out) ∧
        ∀ out, switch.Forwards inPort packet out →
          out.Perm ((Service.none.afterAll events).forward inPort packet) := by
  constructor
  · rw [← run_completes_iff]
    constructor
    · rintro ⟨state, run⟩
      exact ⟨state.1, run_steps run⟩
    · rintro ⟨app, run⟩
      obtain ⟨after, drives⟩ := exists_drives run (some .empty)
      exact ⟨_, drives⟩
  · intro state run
    obtain ⟨switch, on, follows, -⟩ := run_follows empty run within
    exact ⟨switch, on, follows.forwards⟩

theorem sample_join_forwarded : ∃ state switch, Run Drives (initial, some .empty) sampleEvents state ∧
    state.2 = some switch ∧ ∀ inPort packet, (∃ out, switch.Forwards inPort packet out) ∧
      ∀ out, switch.Forwards inPort packet out →
        out.Perm ((Service.none.afterAll sampleEvents).forward inPort packet) := by
  obtain ⟨completes, forwards⟩ := run_forwards initial sampleEvents rfl (by decide)
  have run : Run Steps initial sampleEvents _ := run_iff.mpr rfl
  obtain ⟨state, drives⟩ := completes.mpr fun app event meets => not_leavesMember_of_run run meets
  obtain ⟨switch, on, forwarded⟩ := forwards state drives
  exact ⟨state, switch, drives, on, forwarded⟩

def sampleData : DataPacket :=
  { ethType := 0x0800, ethDst := ethAddressOf 0, ipProto := 17, ipv4Src := 0x0100000a, ipv4Dst := 0x0900000a,
    udpSrc := 1000, udpDst := 2000, payload := [1, 2] }

example : (Service.none.afterAll [sampleGroup, .packet (sampleJoin 3)]).forward 1 sampleData =
    [{ port := 3, maxLen := 0, packet := { sampleData with ethDst := ethAddressOf 1, ipv4Dst := 0x0200000a } }] := by
  decide

end MulticastGroupMembershipApp

end Libfluid.Multicast
