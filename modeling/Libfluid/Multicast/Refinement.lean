import Libfluid.Multicast.ReferenceSwitch
import Libfluid.Multicast.Step

namespace Libfluid.Multicast
open Library

structure Wired (mcg : MCGroup) (session : Session) : Prop where
  priority : session.ofContext.offlowmod.priority = 10
  match_ : session.ofContext.offlowmod.match_ = downstreamMatch mcg
  actions : session.ofContext.offlowmod.actions = [.group mcg.groupid]
  outPort : session.ofContext.offlowmod.outPort = 0
  groupId : Present mcg session → session.ofContext.ofgroupmod.groupId = mcg.groupid

theorem downstreamMatch_injective {mcg mcg' : MCGroup} (same : downstreamMatch mcg = downstreamMatch mcg') :
    mcg.groupip = mcg'.groupip := by
  unfold downstreamMatch at same
  split_ifs at same <;> simp_all

namespace Session

variable {mcg : MCGroup} {pk : PacketInDataHeader} {session : Session} {mcgm : MCGroupMember} {xid : BitVec 32}

theorem offlowmod_joined : ∃ command,
    (session.joined mcg pk xid).ofContext.offlowmod = { session.ofContext.offlowmod with command := command } := by
  unfold joined
  split_ifs
  · exact ⟨.add, rfl⟩
  · exact ⟨session.ofContext.offlowmod.command, rfl⟩

theorem offlowmod_left : ∃ command, (session.left mcg pk mcgm xid).ofContext.offlowmod =
    { session.ofContext.offlowmod with command := command } := by
  unfold left
  split_ifs
  · exact ⟨.delete, rfl⟩
  · exact ⟨session.ofContext.offlowmod.command, rfl⟩

theorem wired_of_command {session' : Session} (wired : Wired mcg session) (flow : ∃ command,
      session'.ofContext.offlowmod = { session.ofContext.offlowmod with command := command })
    (groupId : Present mcg session' → session'.ofContext.ofgroupmod.groupId = mcg.groupid) : Wired mcg session' := by
  obtain ⟨command, flow⟩ := flow
  constructor
  case groupId => exact groupId
  all_goals rw [flow]
  case priority => exact wired.priority
  case match_ => exact wired.match_
  case actions => exact wired.actions
  case outPort => exact wired.outPort

theorem wired_joined (wired : Wired mcg session) : Wired mcg (session.joined mcg pk xid) :=
  wired_of_command wired offlowmod_joined fun _ => rfl

theorem wired_left (wired : Wired mcg session) (present : Present mcg session) :
    Wired mcg (session.left mcg pk mcgm xid) :=
  wired_of_command wired offlowmod_left fun _ => wired.groupId present

theorem wired_open (gen : Generators) : Wired mcg (openSession mcg gen) where
  priority := rfl
  match_ := rfl
  actions := rfl
  outPort := rfl
  groupId := by
    rintro (root | none)
    · simp [openSession, root, rootGroupMod]
    · exact absurd rfl none

end Session

structure Simulates (app : MulticastGroupMembershipApp) (switch : ReferenceSwitch) : Prop where
  wired : ∀ mcg session, (mcg, session) ∈ app.multicastSessionStore → Wired mcg session
  bounded : ∀ mcg session, (mcg, session) ∈ app.multicastSessionStore → mcg.groupid ≤ app.gen.groupId
  distinct : ∀ mcg session mcg' session', (mcg, session) ∈ app.multicastSessionStore →
    (mcg', session') ∈ app.multicastSessionStore → mcg.groupid = mcg'.groupid → mcg = mcg'
  groups : ∀ mcg session, (mcg, session) ∈ app.multicastSessionStore → switch.groups mcg.groupid =
    if Present mcg session then some session.ofContext.ofgroupmod.buckets else none
  known : ∀ g, switch.groups g ≠ none →
    ∃ mcg session, (mcg, session) ∈ app.multicastSessionStore ∧ mcg.groupid = g
  flows : ∀ mcg session, (mcg, session) ∈ app.multicastSessionStore → Present mcg session →
    session.ofContext.offlowmod.entry ∈ switch.flows
  named : ∀ entry ∈ switch.flows, ∀ g, .group g ∈ entry.actions → switch.groups g ≠ none

namespace Simulates
open MulticastGroupMembershipApp

variable {app app' : MulticastGroupMembershipApp} {switch switch' : ReferenceSwitch} {mcg : MCGroup}
  {session session' : Session} {pk : PacketInDataHeader} {mcgm : MCGroupMember} {gen : Generators}

structure Puts (app : MulticastGroupMembershipApp) (mcg : MCGroup) (session : Session)
    (app' : MulticastGroupMembershipApp) : Prop where
  members : ∀ mcg' session', (mcg', session') ∈ app'.multicastSessionStore ↔
    mcg' = mcg ∧ session' = session ∨ mcg'.groupip ≠ mcg.groupip ∧ (mcg', session') ∈ app.multicastSessionStore
  apart : ∀ mcg' session', (mcg', session') ∈ app.multicastSessionStore →
    (mcg'.groupid = mcg.groupid ↔ mcg'.groupip = mcg.groupip)
  drawn : app.gen.groupId ≤ app'.gen.groupId
  bounded : mcg.groupid ≤ app'.gen.groupId

theorem puts_setSession (simulates : Simulates app switch) (stored : (mcg, session) ∈ app.multicastSessionStore)
    (drawn : app.gen.groupId ≤ gen.groupId) : Puts app mcg session' (app.setSession mcg session' gen) where
  members := fun _ _ => mem_setSession stored
  apart := by
    intro mcg₁ session₁ old
    constructor
    · intro same
      rw [simulates.distinct _ _ _ _ old stored same]
    · intro same
      have entries := OrderedMap.eq_of_key old stored (congrArg BitVec.toNat same)
      exact congrArg (fun entry => entry.1.groupid) entries
  drawn := drawn
  bounded := BitVec.le_trans (simulates.bounded _ _ stored) drawn

theorem puts_opened (simulates : Simulates app switch) (absent : app.multicastSessionStore.lookup mcg = none)
    (fresh : app.gen.groupId < mcg.groupid) (drawn : app'.gen.groupId = mcg.groupid)
    (store : app'.multicastSessionStore = app.multicastSessionStore.set mcg session') :
    Puts app mcg session' app' where
  members := by
    intro mcg₁ session₁
    rw [store, mem_opened absent, or_comm]
    apply or_congr_right
    constructor
    · intro old
      exact ⟨fun same => OrderedMap.lookup_eq_none.mp absent _ old (congrArg BitVec.toNat same), old⟩
    · exact And.right
  apart := by
    intro mcg₁ session₁ old
    apply iff_of_false
    · intro same
      have bound := simulates.bounded _ _ old
      rw [same] at bound
      exact absurd fresh (BitVec.not_lt.mpr bound)
    · exact fun same => OrderedMap.lookup_eq_none.mp absent _ old (congrArg BitVec.toNat same)
  drawn := by
    rw [drawn]
    exact BitVec.le_of_lt fresh
  bounded := BitVec.le_of_eq drawn.symm

theorem put (simulates : Simulates app switch) (puts : Puts app mcg session app') (wired : Wired mcg session)
    (groups : switch'.groups = Function.update switch.groups mcg.groupid
      (if Present mcg session then some session.ofContext.ofgroupmod.buckets else none))
    (own : Present mcg session → session.ofContext.offlowmod.entry ∈ switch'.flows)
    (kept : ∀ mcg₁ session₁, (mcg₁, session₁) ∈ app.multicastSessionStore → mcg₁.groupid ≠ mcg.groupid →
      mcg₁.groupip ≠ mcg.groupip → session₁.ofContext.offlowmod.entry ∈ switch.flows →
      session₁.ofContext.offlowmod.entry ∈ switch'.flows)
    (named : ∀ entry ∈ switch'.flows, ∀ g, .group g ∈ entry.actions → switch'.groups g ≠ none) :
    Simulates app' switch' := by
  constructor
  case wired =>
    intro mcg₁ session₁ member
    rcases (puts.members _ _).mp member with ⟨rfl, rfl⟩ | ⟨-, old⟩
    · exact wired
    · exact simulates.wired _ _ old
  case bounded =>
    intro mcg₁ session₁ member
    rcases (puts.members _ _).mp member with ⟨rfl, rfl⟩ | ⟨-, old⟩
    · exact puts.bounded
    · exact BitVec.le_trans (simulates.bounded _ _ old) puts.drawn
  case distinct =>
    intro mcg₁ session₁ mcg₂ session₂ member₁ member₂ same
    rcases (puts.members _ _).mp member₁ with ⟨rfl, rfl⟩ | ⟨different₁, old₁⟩
    · rcases (puts.members _ _).mp member₂ with ⟨rfl, rfl⟩ | ⟨different₂, old₂⟩
      · rfl
      · exact absurd ((puts.apart _ _ old₂).mp same.symm) different₂
    · rcases (puts.members _ _).mp member₂ with ⟨rfl, rfl⟩ | ⟨different₂, old₂⟩
      · exact absurd ((puts.apart _ _ old₁).mp same) different₁
      · exact simulates.distinct _ _ _ _ old₁ old₂ same
  case groups =>
    intro mcg₁ session₁ member
    rw [groups]
    rcases (puts.members _ _).mp member with ⟨rfl, rfl⟩ | ⟨different, old⟩
    · rw [Function.update_self]
    · rw [Function.update_of_ne fun same => different ((puts.apart _ _ old).mp same)]
      exact simulates.groups _ _ old
  case known =>
    intro g present
    rw [groups] at present
    by_cases same : g = mcg.groupid
    · exact ⟨mcg, session, (puts.members _ _).mpr (Or.inl ⟨rfl, rfl⟩), same.symm⟩
    · rw [Function.update_of_ne same] at present
      obtain ⟨mcg₁, session₁, old, rfl⟩ := simulates.known g present
      have different : mcg₁.groupip ≠ mcg.groupip := fun equal => same ((puts.apart _ _ old).mpr equal)
      exact ⟨mcg₁, session₁, (puts.members _ _).mpr (Or.inr ⟨different, old⟩), rfl⟩
  case flows =>
    intro mcg₁ session₁ member present
    rcases (puts.members _ _).mp member with ⟨rfl, rfl⟩ | ⟨different, old⟩
    · exact own present
    · apply kept _ _ old _ different (simulates.flows _ _ old present)
      exact fun same => different ((puts.apart _ _ old).mp same)
  case named => exact named

theorem not_overwrites (simulates : Simulates app switch) {mcg₁ : MCGroup} {session₁ : Session} {fm : FlowMod}
    (about : fm.match_ = downstreamMatch mcg) (old : (mcg₁, session₁) ∈ app.multicastSessionStore)
    (different : mcg₁.groupip ≠ mcg.groupip) : ¬ fm.entry.Overwrites session₁.ofContext.offlowmod.entry := by
  rintro ⟨-, -, same⟩
  have matches_ : downstreamMatch mcg₁ = downstreamMatch mcg :=
    ((simulates.wired _ _ old).match_.symm.trans same).trans about
  exact different (downstreamMatch_injective matches_)

theorem hook (simulates : Simulates app switch) (mcg : MCGroup) (gen : Generators) :
    ∃ switch', switch.executeAll [.flowMod (hookFlowMod mcg gen)] = some switch' ∧ Simulates app switch' := by
  have unnamed (g : BitVec 32) : .group g ∉ (hookFlowMod mcg gen).actions := by
    simp [hookFlowMod]
  have added : switch.execute (.flowMod (hookFlowMod mcg gen)) = some _ :=
    ReferenceSwitch.executeFlowMod_add rfl fun g names => absurd names (unnamed g)
  refine ⟨_, by rw [ReferenceSwitch.executeAll_cons added]; rfl, ?_⟩
  refine { simulates with groups := simulates.groups, known := simulates.known, flows := ?_, named := ?_ }
  · intro mcg₁ session₁ old present
    apply ReferenceSwitch.mem_addFlow.mpr
    refine Or.inl ⟨simulates.flows _ _ old present, ?_⟩
    rintro ⟨-, priority, -⟩
    have other : session₁.ofContext.offlowmod.priority = 1000 := priority
    rw [(simulates.wired _ _ old).priority] at other
    exact absurd other (by decide)
  · intro entry member g names
    rcases ReferenceSwitch.mem_addFlow.mp member with ⟨old, -⟩ | rfl
    · exact simulates.named entry old g names
    · exact absurd names (unnamed g)

section Put

variable (simulates : Simulates app switch) (puts : Puts app mcg session' app') (wired : Wired mcg session')
  (about : session'.ofContext.ofgroupmod.groupId = mcg.groupid)
include simulates puts wired about

theorem enter (missing : switch.groups mcg.groupid = none) (present : Present mcg session')
    (groupCommand : session'.ofContext.ofgroupmod.command = .add)
    (flowCommand : session'.ofContext.offlowmod.command = .add) :
    ∃ switch', switch.executeAll
        [.groupMod session'.ofContext.ofgroupmod, .flowMod session'.ofContext.offlowmod] = some switch' ∧
      Simulates app' switch' := by
  rw [← about] at missing
  have added := ReferenceSwitch.executeGroupMod_add groupCommand missing
  rw [about] at added
  have known : ∀ g, .group g ∈ session'.ofContext.offlowmod.actions → ((switch.setGroup mcg.groupid
      (some session'.ofContext.ofgroupmod.buckets)).groups g).isSome = true := by
    intro g names
    rw [wired.actions, List.mem_singleton] at names
    cases names
    simp [ReferenceSwitch.setGroup]
  have pointed := ReferenceSwitch.executeFlowMod_add flowCommand known
  refine ⟨_, by rw [ReferenceSwitch.executeAll_cons added, ReferenceSwitch.executeAll_cons pointed]; rfl, ?_⟩
  apply simulates.put puts wired
  case groups =>
    rw [if_pos present]
    rfl
  case own => exact fun _ => ReferenceSwitch.mem_addFlow.mpr (Or.inr rfl)
  case kept =>
    intro mcg₁ session₁ old _ apart inside
    exact ReferenceSwitch.mem_addFlow.mpr (Or.inl ⟨inside, simulates.not_overwrites wired.match_ old apart⟩)
  case named =>
    intro entry member g names
    apply ReferenceSwitch.setGroup_ne_none
    rcases ReferenceSwitch.mem_addFlow.mp member with ⟨old, -⟩ | rfl
    · exact Or.inr (simulates.named entry old g names)
    · rw [FlowMod.entry, wired.actions, List.mem_singleton] at names
      cases names
      exact Or.inl rfl

theorem change (stored : (mcg, session) ∈ app.multicastSessionStore) (before : Present mcg session)
    (present : Present mcg session') (groupCommand : session'.ofContext.ofgroupmod.command = .modify)
    (entry : session'.ofContext.offlowmod.entry = session.ofContext.offlowmod.entry) :
    ∃ switch', switch.executeAll [.groupMod session'.ofContext.ofgroupmod] = some switch' ∧
      Simulates app' switch' := by
  have group := simulates.groups _ _ stored
  rw [if_pos before, ← about] at group
  have modified := ReferenceSwitch.executeGroupMod_modify groupCommand group
  rw [about] at modified
  refine ⟨_, by rw [ReferenceSwitch.executeAll_cons modified]; rfl, ?_⟩
  apply simulates.put puts wired
  case groups =>
    rw [if_pos present]
    rfl
  case own =>
    intro _
    rw [entry]
    exact simulates.flows _ _ stored before
  case kept => exact fun _ _ _ _ _ inside => inside
  case named =>
    intro entry member g names
    exact ReferenceSwitch.setGroup_ne_none (Or.inr (simulates.named entry member g names))

/-- The group is deleted, and with it the flow. The flow deletion asks for an output to port 0 and finds
no flow. -/
theorem exit (missing : ¬ Present mcg session')
    (groupCommand : session'.ofContext.ofgroupmod.command = .delete)
    (flowCommand : session'.ofContext.offlowmod.command = .delete) :
    ∃ switch', switch.executeAll
        [.flowMod session'.ofContext.offlowmod, .groupMod session'.ofContext.ofgroupmod] = some switch' ∧
      Simulates app' switch' := by
  have flowDeleted : switch.execute (.flowMod session'.ofContext.offlowmod) = some _ :=
    ReferenceSwitch.executeFlowMod_delete flowCommand
  have groupDeleted : (switch.deleteFlows fun entry => entry.DeletedBy session'.ofContext.offlowmod).execute
      (.groupMod session'.ofContext.ofgroupmod) = some _ :=
    ReferenceSwitch.executeGroupMod_delete groupCommand
  rw [about] at groupDeleted
  refine ⟨_, by rw [ReferenceSwitch.executeAll_cons flowDeleted, ReferenceSwitch.executeAll_cons groupDeleted]; rfl, ?_⟩
  apply simulates.put puts wired
  case groups =>
    rw [if_neg missing]
    rfl
  case own => exact fun present => absurd present missing
  case kept =>
    intro mcg₁ session₁ old different _ inside
    have actions : session₁.ofContext.offlowmod.entry.actions = [.group mcg₁.groupid] :=
      (simulates.wired _ _ old).actions
    apply ReferenceSwitch.mem_deleteFlows.mpr
    constructor
    · apply ReferenceSwitch.mem_deleteFlows.mpr
      refine ⟨inside, decide_eq_false ?_⟩
      rintro ⟨-, -, -, outputs, -⟩
      rw [wired.outPort, FlowEntry.outputsTo, actions] at outputs
      -- The deletion asks for flows that output to port 0, and this one outputs to a group.
      simp [ofppAny] at outputs
    · rw [actions]
      simpa using different.symm
  case named =>
    intro entry member g names
    obtain ⟨member, notNamed⟩ := ReferenceSwitch.mem_deleteFlows.mp member
    have old := (ReferenceSwitch.mem_deleteFlows.mp member).1
    have different : g ≠ mcg.groupid := by
      rintro rfl
      exact of_decide_eq_false notNamed names
    show Function.update switch.groups mcg.groupid none g ≠ none
    rw [Function.update_of_ne different]
    exact simulates.named entry old g names

end Put

theorem join (simulates : Simulates app switch) (stored : (mcg, session) ∈ app.multicastSessionStore)
    (drawn : app.gen.groupId ≤ gen.groupId) (absent : session.members.lookup pk.inIntf = none) :
    ∃ switch', switch.executeAll (joinMessages mcg session pk gen.xid) = some switch' ∧
      Simulates (app.setSession mcg (session.joined mcg pk gen.xid) gen) switch' := by
  have wired : Wired mcg (session.joined mcg pk gen.xid) := Session.wired_joined (simulates.wired _ _ stored)
  have puts : Puts app mcg (session.joined mcg pk gen.xid)
      (app.setSession mcg (session.joined mcg pk gen.xid) gen) := simulates.puts_setSession stored drawn
  have present : Present mcg (session.joined mcg pk gen.xid) := Session.present_joined absent
  unfold joinMessages
  cases opens : session.opens mcg with
  | true =>
      have missing := simulates.groups _ _ stored
      rw [if_neg (Session.opens_iff.mp opens)] at missing
      exact simulates.enter puts wired rfl missing present (by simp [Session.joined, opens])
        (by simp [Session.joined, opens])
  | false =>
      have before : Present mcg session := by
        by_contra missing
        rw [Session.opens_iff.mpr missing] at opens
        cases opens
      exact simulates.change puts wired rfl stored before present (by simp [Session.joined, opens])
        (by simp [Session.joined, opens])

theorem leave (simulates : Simulates app switch) (good : app.Good)
    (stored : (mcg, session) ∈ app.multicastSessionStore) (drawn : app.gen.groupId ≤ gen.groupId)
    (found : session.members.lookup pk.inIntf = some mcgm) :
    ∃ switch', switch.executeAll (leaveMessages mcg session pk mcgm gen.xid) = some switch' ∧
      Simulates (app.setSession mcg (session.left mcg pk mcgm gen.xid) gen) switch' := by
  have consistent := good _ _ stored
  have before : Present mcg session := Session.present_of_lookup consistent found
  have wired : Wired mcg (session.left mcg pk mcgm gen.xid) :=
    Session.wired_left (simulates.wired _ _ stored) before
  have puts : Puts app mcg (session.left mcg pk mcgm gen.xid)
      (app.setSession mcg (session.left mcg pk mcgm gen.xid) gen) := simulates.puts_setSession stored drawn
  have about := (simulates.wired _ _ stored).groupId before
  have closes : session.closes mcg = true ↔ ¬ Present mcg (session.left mcg pk mcgm gen.xid) :=
    Session.closes_iff consistent found
  unfold leaveMessages
  cases last : session.closes mcg with
  | true =>
      exact simulates.exit puts wired about (closes.mp last) (by simp [Session.left, last])
        (by simp [Session.left, last])
  | false =>
      have present : Present mcg (session.left mcg pk mcgm gen.xid) := by
        by_contra missing
        rw [closes.mpr missing] at last
        cases last
      exact simulates.change puts wired about stored before present (by simp [Session.left, last])
        (by simp [Session.left, last])

theorem opened (simulates : Simulates app switch) (absent : app.multicastSessionStore.lookup mcg = none)
    (fresh : app.gen.groupId < mcg.groupid) (drawn : app'.gen.groupId = mcg.groupid)
    (store : app'.multicastSessionStore = app.multicastSessionStore.set mcg (openSession mcg gen)) :
    ∃ switch', switch.executeAll (openMessages mcg gen) = some switch' ∧ Simulates app' switch' := by
  have puts : Puts app mcg (openSession mcg gen) app' := simulates.puts_opened absent fresh drawn store
  have wired : Wired mcg (openSession mcg gen) := Session.wired_open gen
  have missing : switch.groups mcg.groupid = none := by
    by_contra present
    obtain ⟨mcg₁, session₁, old, same⟩ := simulates.known _ present
    have bound := simulates.bounded _ _ old
    rw [same] at bound
    exact absurd fresh (BitVec.not_lt.mpr bound)
  have group : ∃ switch₁, switch.executeAll (if mcg.isRoot then
      [.groupMod (rootGroupMod mcg (rootGen mcg gen)), .flowMod (downstreamFlowMod mcg (downstreamGen gen))]
      else []) = some switch₁ ∧ Simulates app' switch₁ := by
    cases root : mcg.isRoot with
    | true =>
        have sent : (openSession mcg gen).ofContext.ofgroupmod = rootGroupMod mcg (rootGen mcg gen) := by
          simp [openSession, root]
        rw [← sent]
        exact simulates.enter puts wired (by rw [sent]; rfl) missing (Or.inl root) (by rw [sent]; rfl) rfl
    | false =>
        -- The switch hears of the group with its first member.
        have absent' : ¬ Present mcg (openSession mcg gen) := by
          rintro (isRoot | member)
          · simp [root] at isRoot
          · exact member rfl
        refine ⟨switch, rfl, simulates.put puts wired ?_ (fun present => absurd present absent')
          (fun _ _ _ _ _ inside => inside) simulates.named⟩
        rw [if_neg absent', ← missing, Function.update_eq_self]
  obtain ⟨switch₁, executed, simulates₁⟩ := group
  obtain ⟨switch₂, hooked, simulates₂⟩ := simulates₁.hook mcg (hookGen mcg gen)
  refine ⟨switch₂, ?_, simulates₂⟩
  rw [openMessages, ReferenceSwitch.executeAll_append, executed]
  exact hooked

theorem of_acts (simulates : Simulates app switch) {event : Event} {sent : List Message}
    (acts : Acts app event (.ok app') sent) (unwrapped : app.gen.groupId ≤ app'.gen.groupId) :
    ∃ switch', switch.executeAll sent = some switch' ∧ Simulates app' switch' := by
  cases acts with
  | nothing =>
      refine ⟨switch, rfl, { simulates with bounded := ?_, groups := simulates.groups }⟩
      intro mcg session stored
      exact BitVec.le_trans (simulates.bounded mcg session stored) unwrapped
  | @opened _ mcg gen notPacket drawn named absent =>
      have same : (hookGen mcg gen).groupId = mcg.groupid := (hookGen_groupId mcg gen).trans named.symm
      apply simulates.opened absent _ same rfl
      rw [named, drawn]
      rw [show _ = mcg.groupid from same, named, drawn] at unwrapped
      bv_omega
  | joined drawn addressed flag absent => exact simulates.join addressed.stored unwrapped absent

theorem accepts_of_fault (simulates : Simulates app switch) (good : app.Good) {event : Event} {sent : List Message}
    {fault : Fault} (acts : Acts app event (.error fault) sent) : ∃ switch', switch.executeAll sent = some switch' := by
  cases acts with
  | @left pk mcg session mcgm gen drawn addressed flag found =>
      have same : app.gen.groupId ≤ { app.gen with xid := gen.xid : Generators }.groupId := BitVec.le_refl _
      obtain ⟨switch', executed, -⟩ := simulates.leave good addressed.stored same found
      exact ⟨switch', executed⟩

end Simulates

/-- Agent and switch after an event. A switch that rejects a message is lost. -/
def Drives (state : MulticastGroupMembershipApp × Option ReferenceSwitch) (event : Event)
    (next : MulticastGroupMembershipApp × Option ReferenceSwitch) : Prop :=
  (state.1.step event).1 = .ok next.1 ∧
    (state.2.bind fun switch => switch.executeAll (state.1.step event).2) = next.2

structure FlowEntry.Downstream (entry : FlowEntry) (mcg : MCGroup) : Prop where
  priority : entry.priority = 10
  match_ : entry.match_ = downstreamMatch mcg
  actions : entry.actions = [.group mcg.groupid]

structure Agrees (switch : ReferenceSwitch) (mcg : MCGroup) (session : Session) : Prop where
  present : switch.groups mcg.groupid ≠ none ↔ mcg.isRoot = true ∨ session.members.size ≠ 0
  flow : (∃ entry ∈ switch.flows, entry.Downstream mcg) ↔ switch.groups mcg.groupid ≠ none
  named : ∀ entry ∈ switch.flows, .group mcg.groupid ∈ entry.actions → switch.groups mcg.groupid ≠ none
  buckets : ∀ buckets, switch.groups mcg.groupid = some buckets → session.Lists buckets

namespace MulticastGroupMembershipApp

variable {app₀ : MulticastGroupMembershipApp} {events : List Event}

theorem agrees_of_simulates {app : MulticastGroupMembershipApp} {switch : ReferenceSwitch}
    (simulates : Simulates app switch) (good : app.Good) {mcg : MCGroup} {session : Session}
    (stored : (mcg, session) ∈ app.multicastSessionStore) : Agrees switch mcg session := by
  have group := simulates.groups _ _ stored
  have present : switch.groups mcg.groupid ≠ none ↔ Present mcg session := by
    rw [group]
    split_ifs with present <;> simp [present]
  constructor
  case present => exact present
  case flow =>
    constructor
    · rintro ⟨entry, member, downstream⟩
      apply simulates.named entry member
      rw [downstream.actions]
      exact List.mem_singleton_self _
    · intro exists_
      have wired := simulates.wired _ _ stored
      refine ⟨_, simulates.flows _ _ stored (present.mp exists_), ?_⟩
      exact { priority := wired.priority, match_ := wired.match_, actions := wired.actions }
  case named => exact fun entry member => simulates.named entry member _
  case buckets =>
    intro buckets installed
    have exists_ := present.mp (by simp [installed])
    rw [if_pos exists_, installed, Option.some_inj] at group
    have consistent := good _ _ stored
    rw [group, consistent.sent]
    exact consistent.listed

theorem simulates_of_empty (empty : app₀.multicastSessionStore = .empty) : Simulates app₀ .empty := by
  have none {mcg : MCGroup} {session : Session} : (mcg, session) ∉ app₀.multicastSessionStore := by
    rw [empty]
    exact List.not_mem_nil
  exact {
    wired := fun _ _ stored => absurd stored none
    bounded := fun _ _ stored => absurd stored none
    distinct := fun _ _ _ _ stored => absurd stored none
    groups := fun _ _ stored => absurd stored none
    known := fun _ present => absurd rfl present
    flows := fun _ _ stored => absurd stored none
    named := fun _ member => absurd member List.not_mem_nil }

/-! ## Runs -/

theorem run_steps {state first : MulticastGroupMembershipApp × Option ReferenceSwitch}
    (run : Run Drives first events state) : Run Steps first.1 events state.1 := by
  induction run with
  | start => exact .start
  | step _ advance ih => exact ih.step advance.1

theorem exists_drives {app : MulticastGroupMembershipApp} (run : Run Steps app₀ events app)
    (before : Option ReferenceSwitch) : ∃ after, Run Drives (app₀, before) events (app, after) := by
  induction run with
  | start => exact ⟨before, .start⟩
  | step _ advance ih =>
      obtain ⟨after, drives⟩ := ih
      exact ⟨_, drives.step ⟨advance, rfl⟩⟩

theorem meets_steps {state first : MulticastGroupMembershipApp × Option ReferenceSwitch} {event : Event}
    (meets : Meets Drives first events state event) : Meets Steps first.1 events state.1 event := by
  obtain ⟨past, inside, run⟩ := meets
  exact ⟨past, inside, run_steps run⟩

theorem Acts.drawn {app app' : MulticastGroupMembershipApp} {event : Event} {sent : List Message}
    (acts : Acts app event (.ok app') sent) :
    app'.gen.groupId = app.gen.groupId ∨ app'.gen.groupId = app.gen.groupId + 1 := by
  cases acts with
  | nothing drawn => exact drawn
  | @opened _ mcg gen _ drawn _ _ =>
      exact Or.inr ((hookGen_groupId mcg gen).trans drawn)
  | joined drawn => exact Or.inr drawn

theorem unwrapped_of_short (empty : app₀.multicastSessionStore = .empty)
    (short : app₀.gen.groupId.toNat + events.length < 2 ^ 32) :
    ∀ state event next, Takes Drives (app₀, some .empty) events state event next →
      state.1.gen.groupId ≤ next.1.gen.groupId := by
  have advance {app app' : MulticastGroupMembershipApp} {event : Event} (good : app.Good) (steps : Steps app event app')
      (room : app.gen.groupId.toNat + 1 < 2 ^ 32) :
      app.gen.groupId ≤ app'.gen.groupId ∧ app'.gen.groupId.toNat ≤ app.gen.groupId.toNat + 1 := by
    have acts := step_acts good event
    rw [steps] at acts
    rcases acts.drawn with same | next
    · rw [same]
      exact ⟨BitVec.le_refl _, Nat.le_succ _⟩
    · rw [next]
      bv_omega
  have counted {past : List Event} {app : MulticastGroupMembershipApp} (run : Run Steps app₀ past app)
      (inside : past.length ≤ events.length) : app.gen.groupId.toNat ≤ app₀.gen.groupId.toNat + past.length := by
    induction run with
    | start => exact Nat.le_refl _
    | step before takes ih =>
        rw [List.length_append, List.length_singleton] at inside ⊢
        have earlier := ih (by omega)
        have later := (advance (visits_good empty before.visits) takes (by omega)).2
        omega
  rintro state event next ⟨past, inside, run, driven, -⟩
  have steps : Run Steps app₀ past state.1 := run_steps run
  have length := inside.length_le
  rw [List.length_append, List.length_singleton] at length
  have earlier := counted steps (by omega)
  exact (advance (visits_good empty steps.visits) driven (by omega)).1

/-- No step faults, the switch rejects no message, and after every operation it agrees with the agent on every group
and holds no others. -/
structure RefinesSwitch (app₀ : MulticastGroupMembershipApp) (events : List Event) : Prop where
  defined : ∀ state event, Meets Drives (app₀, some .empty) events state event → ¬ state.1.Faults event
  accepted : ∀ state event, Meets Drives (app₀, some .empty) events state event → ∃ switch,
    (state.2.bind fun switch => switch.executeAll (state.1.step event).2) = some switch
  agrees : ∀ state, Visits Drives (app₀, some .empty) events state → ∃ switch, state.2 = some switch ∧
    (∀ mcg session, (mcg, session) ∈ state.1.multicastSessionStore → Agrees switch mcg session) ∧
    ∀ g, switch.groups g ≠ none →
      ∃ mcg session, (mcg, session) ∈ state.1.multicastSessionStore ∧ mcg.groupid = g

theorem visits_simulates (empty : app₀.multicastSessionStore = .empty)
    (unwrapped : ∀ state event next, Takes Drives (app₀, some .empty) events state event next →
      state.1.gen.groupId ≤ next.1.gen.groupId)
    {state : MulticastGroupMembershipApp × Option ReferenceSwitch}
    (visits : Visits Drives (app₀, some .empty) events state) :
    state.1.Good ∧ ∃ switch, state.2 = some switch ∧ Simulates state.1 switch := by
  apply visits.invariant _ ⟨good_of_empty empty, _, rfl, simulates_of_empty empty⟩
  rintro state event next ⟨good, switch, on, simulates⟩ takes
  obtain ⟨agent, driven⟩ := takes.steps
  have acts := step_acts good event
  have drawn := unwrapped state event next takes
  rw [agent] at acts
  obtain ⟨switch', executed, simulates'⟩ := simulates.of_acts acts drawn
  refine ⟨acts.good good, switch', ?_, simulates'⟩
  rw [← driven, on]
  exact executed

/-- From an empty store and an empty switch, where no step wraps the generator of group identifiers, the switch follows
the agent exactly where no packet leaves a member. -/
theorem run_refines_iff (app₀ : MulticastGroupMembershipApp) (events : List Event)
    (empty : app₀.multicastSessionStore = .empty)
    (unwrapped : ∀ state event next, Takes Drives (app₀, some .empty) events state event next →
      state.1.gen.groupId ≤ next.1.gen.groupId) :
    RefinesSwitch app₀ events ↔
      ∀ state event, Meets Drives (app₀, some .empty) events state event → ¬ state.1.LeavesMember event := by
  constructor
  · intro refines state event meets
    rw [← faults_iff]
    exact refines.defined state event meets
  · intro stays
    constructor
    case defined =>
      intro state event meets
      rw [faults_iff]
      exact stays state event meets
    case accepted =>
      intro state event meets
      obtain ⟨good, switch, on, simulates⟩ := visits_simulates empty unwrapped meets.visits
      have acts := step_acts good event
      rw [on]
      cases outcome : (state.1.step event).1 with
      | error fault =>
          rw [outcome] at acts
          exact simulates.accepts_of_fault good acts
      | ok app' =>
          rw [outcome] at acts
          have drawn := unwrapped state event (app', _) (meets.takes ⟨outcome, rfl⟩)
          obtain ⟨switch', executed, -⟩ := simulates.of_acts acts drawn
          exact ⟨switch', executed⟩
    case agrees =>
      intro state visits
      obtain ⟨good, switch, on, simulates⟩ := visits_simulates empty unwrapped visits
      exact ⟨switch, on, fun mcg session stored => agrees_of_simulates simulates good stored, simulates.known⟩

def sampleEvents : List Event :=
  [sampleGroup, .newSession 0x0300000a 0 1000 2000 1 0, .packet (sampleJoin 3), .packet (sampleJoin 4),
    .packet { sampleJoin 5 with dip := 0x0300000a }, .packet (sampleLeave 5)]

theorem sample_group_refines : RefinesSwitch initial sampleEvents := by
  have run : Run Steps initial sampleEvents _ := run_iff.mpr rfl
  apply (run_refines_iff initial sampleEvents rfl (unwrapped_of_short rfl (by decide))).mpr
  exact fun state event meets => not_leavesMember_of_run run (meets_steps meets)

theorem leave_of_member_undefined : ¬ RefinesSwitch initial (sampleEvents ++ [.packet (sampleLeave 4)]) := by
  intro refines
  have run : Run Steps initial sampleEvents _ := run_iff.mpr rfl
  obtain ⟨switch, drives⟩ := exists_drives run (some .empty)
  exact refines.defined _ _ ⟨sampleEvents, List.prefix_rfl, drives⟩ ⟨.erasedIterator, rfl⟩

end MulticastGroupMembershipApp

end Libfluid.Multicast
