import Libfluid.Multicast.Membership
import Mathlib.Logic.Relation

/-!
# A tree of agents

Switches in a tree, each with its own agent, that share one session. A child tells its parent of its
first and of its last member, over a link that keeps the order of the packets.
-/

namespace Libfluid.Multicast
open Library MulticastGroupMembershipApp

def Asks (mcg : MCGroup) (mflag : BitVec 8) (pk : PacketInDataHeader) : Prop :=
  pk.protocol ≠ protocolTypeIgmp ∧ pk.dip = mcg.groupip ∧ memberFlag mcg pk = mflag

def AfterDelivery (mcg : MCGroup) : Prop → List PacketInDataHeader → Prop := Written (Asks mcg 1) (Asks mcg 2)

def Message.leavesBy (port : BitVec 32) : Message → Bool
  | .packetOut po => po.actions.any fun action => action.outputsTo port
  | .groupMod _ | .flowMod _ => false

def forwarded (port : BitVec 32) (pk : PacketInDataHeader) (sent : List Message) : List PacketInDataHeader :=
  (sent.filter fun message => message.leavesBy port).map fun _ => pk

namespace MulticastGroupMembershipApp

variable {app app' : MulticastGroupMembershipApp} {mcg : MCGroup} {session : Session} {pk : PacketInDataHeader}
  {i : BitVec 16}

def HasMembers (app : MulticastGroupMembershipApp) (mcg : MCGroup) : Prop := ∃ i, app.Member mcg i

theorem stored_handlePacketIn (present : app.Stored mcg) (handled : (app.handlePacketIn pk).1 = .ok app') :
    app'.Stored mcg := by
  unfold handlePacketIn at handled
  split_ifs at handled
  · cases handled
    exact present
  · exact stored_handleUDPPacket present handled

theorem member_handlePacketIn (present : app.Stored mcg) (handled : (app.handlePacketIn pk).1 = .ok app') :
    app'.Member mcg i ↔
      Asks mcg 1 pk ∧ pk.inIntf = i ∨ app.Member mcg i ∧ ¬ (Asks mcg 2 pk ∧ pk.inIntf = i) := by
  unfold handlePacketIn at handled
  unfold Asks
  split_ifs at handled with igmp
  · cases handled
    simp only [igmp, ne_eq, not_true_eq_false, false_and, false_or, not_false_eq_true, and_true]
    rfl
  · rw [member_handleUDPPacket present handled]
    simp [Joins, Leaves, igmp, and_assoc]

theorem good_handlePacketIn (good : app.Good) (handled : (app.handlePacketIn pk).1 = .ok app') : app'.Good := by
  have acts : Acts app (.packet pk) (app.handlePacketIn pk).1 (app.handlePacketIn pk).2 := step_acts good (.packet pk)
  rw [handled] at acts
  exact acts.good good

theorem hasMembers_iff (stored : (mcg, session) ∈ app.multicastSessionStore) (below : mcg.isRoot = false) :
    app.HasMembers mcg ↔ Present mcg session := by
  unfold HasMembers Present
  simp only [member_iff stored, Session.Has, below, Bool.false_eq_true, false_or]
  exact (OrderedMap.size_ne_zero_iff toNat_injective).symm

theorem mem_forwarded {port : BitVec 32} {pk' : PacketInDataHeader} {sent : List Message}
    (member : pk' ∈ forwarded port pk sent) : pk' = pk := by
  unfold forwarded at member
  obtain ⟨-, -, same⟩ := List.mem_map.mp member
  exact same.symm

theorem forwarded_join (xid : BitVec 32) : forwarded (mcg.upstreamIntf.setWidth 32) pk
    (joinMessages mcg session pk xid) = if session.opens mcg then [pk] else [] := by
  unfold forwarded joinMessages
  split_ifs <;> simp [MCGroup.sendUpstreamPacketOut, Message.leavesBy]

theorem hasMembers_setSession {session' : Session} (gen : Generators)
    (stored : (mcg, session) ∈ app.multicastSessionStore) (below : mcg.isRoot = false) :
    (app.setSession mcg session' gen).HasMembers mcg ↔ Present mcg session' :=
  hasMembers_iff ((mem_setSession stored).mpr (Or.inl ⟨rfl, rfl⟩)) below

theorem Acts.tells {sent : List Message} (acts : Acts app (.packet pk) (.ok app') sent) (present : app.Stored mcg)
    (below : mcg.isRoot = false) (address : pk.dip = mcg.groupip) :
    AfterDelivery mcg (app.HasMembers mcg) (forwarded (mcg.upstreamIntf.setWidth 32) pk sent) ↔
      app'.HasMembers mcg := by
  obtain ⟨session, stored⟩ := present
  cases acts with
  | nothing => rfl
  | opened notPacket => exact absurd rfl (notPacket pk)
  | @joined _ mcg' session' gen _ addressed flag absent =>
      cases addressed_unique addressed ⟨addressed.udp, stored, address.symm⟩
      rw [forwarded_join, hasMembers_setSession gen stored below, iff_true_right (Session.present_joined absent)]
      split_ifs with opens
      · exact Or.inl ⟨addressed.udp, address, flag⟩
      · rw [Session.opens_iff, not_not] at opens
        exact (hasMembers_iff stored below).mpr opens

theorem hasMembers_handlePacketIn (good : app.Good) (present : app.Stored mcg) (below : mcg.isRoot = false)
    (handled : (app.handlePacketIn pk).1 = .ok app') :
    AfterDelivery mcg (app.HasMembers mcg)
      (forwarded (mcg.upstreamIntf.setWidth 32) pk (app.handlePacketIn pk).2) ↔
    app'.HasMembers mcg := by
  by_cases address : pk.dip = mcg.groupip
  · have acts : Acts app (.packet pk) (app.handlePacketIn pk).1 (app.handlePacketIn pk).2 :=
      step_acts good (.packet pk)
    rw [handled] at acts
    exact acts.tells present below address
  · have quiet : ∀ pk' ∈ forwarded (mcg.upstreamIntf.setWidth 32) pk (app.handlePacketIn pk).2,
        ¬ Asks mcg 1 pk' ∧ ¬ Asks mcg 2 pk' := by
      intro pk' member
      rw [mem_forwarded member]
      exact ⟨fun asks => address asks.2.1, fun asks => address asks.2.1⟩
    unfold AfterDelivery HasMembers
    rw [written_of_quiet quiet]
    simp [member_handlePacketIn present handled, Asks, address]

end MulticastGroupMembershipApp

/-! ## The tree -/

structure Tree (ν : Type*) where
  root : ν
  parent : ν → Option ν
  /-- The interface of the parent that a switch is attached to. -/
  link : ν → BitVec 16
  upstream : ν → BitVec 16
  top : parent root = none
  rooted : ∀ n, Relation.ReflTransGen (fun child up => parent child = some up) n root
  distinct : ∀ {a b up}, parent a = some up → parent b = some up → link a = link b → a = b

/-- The agents at any time of their lives, where none of them knows the session yet. -/
structure TreeSession (ν : Type*) extends Tree ν where
  ip : BitVec 32
  sport : BitVec 16
  dport : BitVec 16
  classd : Bool
  before : ν → MulticastGroupMembershipApp
  reached : ∀ n, ∃ events, Run Steps initial events (before n)
  unused : ∀ n, ∀ entry ∈ (before n).multicastSessionStore, entry.1.groupip ≠ ip

structure TreeState (ν : Type*) where
  agents : ν → MulticastGroupMembershipApp
  /-- The packets on the way from a switch to its parent, oldest first. -/
  inFlight : ν → List PacketInDataHeader

def TreeState.take {ν : Type*} [DecidableEq ν] (state : TreeState ν) (child : ν) (rest : List PacketInDataHeader) :
    TreeState ν :=
  { state with inFlight := Function.update state.inFlight child rest }

theorem TreeState.mem_take {ν : Type*} [DecidableEq ν] {state : TreeState ν} {child m : ν} {pk pk' : PacketInDataHeader}
    {rest : List PacketInDataHeader} (queue : state.inFlight child = pk :: rest)
    (member : pk' ∈ (state.take child rest).inFlight m) : pk' ∈ state.inFlight m := by
  by_cases same : m = child
  · subst same
    simp only [TreeState.take, Function.update_self] at member
    rw [queue]
    exact List.mem_cons_of_mem _ member
  · simp only [TreeState.take, Function.update_of_ne same] at member
    exact member

inductive TreeEvent (ν : Type*)
  | host (n : ν) (pk : PacketInDataHeader)
  | delivery (child : ν) (ofpi : PacketIn)

namespace TreeSession

variable {ν : Type*} [DecidableEq ν] (session : TreeSession ν)

def group (n : ν) : MCGroup :=
  (MCGroup.create (session.before n).gen session.ip (session.upstream n) session.sport session.dport
    session.classd (n = session.root)).1

def start : TreeState ν where
  agents := fun n => ((session.before n).createNewGroup session.ip (session.upstream n) session.sport
    session.dport session.classd (n = session.root)).1
  inFlight := fun _ => []

def handle (state : TreeState ν) (n : ν) (pk : PacketInDataHeader) : Except Fault (TreeState ν) :=
  let (agent, sent) := (state.agents n).handlePacketIn pk
  agent.map fun agent =>
    { agents := Function.update state.agents n agent
      inFlight := Function.update state.inFlight n
        (state.inFlight n ++ forwarded ((session.upstream n).setWidth 32) pk sent) }

/-- What an event brings to which switch: a packet comes in from a host, or the oldest packet of a link reaches the
parent. -/
inductive Brings : TreeState ν → TreeEvent ν → TreeState ν → ν → PacketInDataHeader → Prop
  | host {state : TreeState ν} {n : ν} {pk : PacketInDataHeader} :
      (∀ child, session.parent child = some n → session.link child ≠ pk.inIntf) →
      Brings state (.host n pk) state n pk
  | delivery {state : TreeState ν} {child up : ν} {pk : PacketInDataHeader} {rest : List PacketInDataHeader}
      {ofpi : PacketIn} :
      session.parent child = some up → state.inFlight child = pk :: rest →
      Brings state (.delivery child ofpi) (state.take child rest) up
        { pk with inIntf := session.link child, ofpi := ofpi }

def Steps (state : TreeState ν) (event : TreeEvent ν) (next : TreeState ν) : Prop :=
  ∃ taken n pk, session.Brings state event taken n pk ∧ session.handle taken n pk = .ok next

def Faults (state : TreeState ν) (event : TreeEvent ν) : Prop :=
  ∃ taken n pk fault, session.Brings state event taken n pk ∧ session.handle taken n pk = .error fault

def LeavesMember (state : TreeState ν) (event : TreeEvent ν) : Prop :=
  ∃ taken n pk, session.Brings state event taken n pk ∧ (state.agents n).LeavesMember (.packet pk)

structure Settled (state : TreeState ν) : Prop where
  good : ∀ n, (state.agents n).Good
  stored : ∀ n, (state.agents n).Stored (session.group n)
  links : ∀ child up, session.parent child = some up →
    (AfterDelivery (session.group child) ((state.agents up).Member (session.group up) (session.link child))
      (state.inFlight child) ↔ (state.agents child).HasMembers (session.group child))

variable {session} {state taken next : TreeState ν} {event : TreeEvent ν} {n child up : ν} {pk : PacketInDataHeader}

theorem not_root (edge : session.parent child = some up) : (session.group child).isRoot = false := by
  apply decide_eq_false
  rintro rfl
  rw [session.top] at edge
  cases edge

theorem handle_eq_ok (handled : session.handle state n pk = .ok next) :
    ∃ agent, ((state.agents n).handlePacketIn pk).1 = .ok agent ∧ next =
      { agents := Function.update state.agents n agent
        inFlight := Function.update state.inFlight n (state.inFlight n ++
          forwarded ((session.upstream n).setWidth 32) pk ((state.agents n).handlePacketIn pk).2) } := by
  obtain ⟨agent, answered, same⟩ := map_eq_ok.mp handled
  exact ⟨agent, answered, same.symm⟩

theorem agents_handle_self (handled : session.handle state n pk = .ok next) :
    ((state.agents n).handlePacketIn pk).1 = .ok (next.agents n) := by
  obtain ⟨agent, answered, rfl⟩ := handle_eq_ok handled
  rw [answered]
  simp

theorem agents_handle_other (handled : session.handle state n pk = .ok next) (other : up ≠ n) :
    next.agents up = state.agents up := by
  obtain ⟨agent, -, rfl⟩ := handle_eq_ok handled
  exact Function.update_of_ne other ..

theorem inFlight_handle_self (handled : session.handle state n pk = .ok next) : next.inFlight n = state.inFlight n ++
    forwarded ((session.upstream n).setWidth 32) pk ((state.agents n).handlePacketIn pk).2 := by
  obtain ⟨agent, -, rfl⟩ := handle_eq_ok handled
  exact Function.update_self ..

theorem inFlight_handle_other (handled : session.handle state n pk = .ok next) (other : child ≠ n) :
    next.inFlight child = state.inFlight child := by
  obtain ⟨agent, -, rfl⟩ := handle_eq_ok handled
  exact Function.update_of_ne other ..

theorem Brings.agents (brings : session.Brings state event taken n pk) : taken.agents = state.agents := by
  cases brings <;> rfl

theorem faults_iff : session.Faults state event ↔ session.LeavesMember state event := by
  have each {taken : TreeState ν} {n : ν} {pk : PacketInDataHeader} (brings : session.Brings state event taken n pk) :
      (∃ fault, session.handle taken n pk = .error fault) ↔ (state.agents n).LeavesMember (.packet pk) := by
    rw [← MulticastGroupMembershipApp.faults_iff, ← brings.agents]
    exact exists_congr fun fault => map_eq_error
  constructor
  · rintro ⟨taken, n, pk, fault, brings, failed⟩
    exact ⟨taken, n, pk, brings, (each brings).mp ⟨fault, failed⟩⟩
  · rintro ⟨taken, n, pk, brings, leaves⟩
    obtain ⟨fault, failed⟩ := (each brings).mpr leaves
    exact ⟨taken, n, pk, fault, brings, failed⟩

theorem member_handle {i : BitVec 16} (stored : (state.agents up).Stored (session.group up))
    (handled : session.handle state n pk = .ok next) :
    (next.agents up).Member (session.group up) i ↔
      (Asks (session.group up) 1 pk ∧ up = n ∧ pk.inIntf = i) ∨
        (state.agents up).Member (session.group up) i ∧
          ¬ (Asks (session.group up) 2 pk ∧ up = n ∧ pk.inIntf = i) := by
  by_cases same : up = n
  · subst same
    rw [member_handlePacketIn stored (agents_handle_self handled)]
    simp
  · rw [agents_handle_other handled same]
    simp [same]

theorem member_handle_other {i : BitVec 16} (stored : (state.agents up).Stored (session.group up))
    (handled : session.handle state n pk = .ok next) (other : up = n → pk.inIntf ≠ i) :
    (next.agents up).Member (session.group up) i ↔ (state.agents up).Member (session.group up) i := by
  rw [member_handle stored handled]
  constructor
  · rintro (⟨-, here, same⟩ | ⟨old, -⟩)
    · exact absurd same (other here)
    · exact old
  · exact fun old => Or.inr ⟨old, fun asks => other asks.2.1 asks.2.2⟩

theorem settled_handle (handled : session.handle state n pk = .ok next) (good : ∀ n, (state.agents n).Good)
    (stored : ∀ n, (state.agents n).Stored (session.group n))
    (links : ∀ child up, session.parent child = some up →
      (AfterDelivery (session.group child) ((next.agents up).Member (session.group up) (session.link child))
        (state.inFlight child) ↔ (state.agents child).HasMembers (session.group child))) :
    session.Settled next where
  good := by
    intro m
    by_cases same : m = n
    · subst same
      exact good_handlePacketIn (good m) (agents_handle_self handled)
    · rw [agents_handle_other handled same]
      exact good m
  stored := by
    intro m
    by_cases same : m = n
    · subst same
      exact stored_handlePacketIn (stored m) (agents_handle_self handled)
    · rw [agents_handle_other handled same]
      exact stored m
  links := by
    intro child up edge
    by_cases same : child = n
    · subst same
      have before := propext (links child up edge)
      unfold AfterDelivery at before ⊢
      rw [inFlight_handle_self handled, written_append, before]
      exact hasMembers_handlePacketIn (good child) (stored child) (not_root edge) (agents_handle_self handled)
    · rw [inFlight_handle_other handled same, agents_handle_other handled same]
      exact links child up edge

theorem Settled.step (settled : session.Settled state) (step : session.Steps state event next) :
    session.Settled next := by
  obtain ⟨taken, n, pk, brings, handled⟩ := step
  cases brings with
  | host outside =>
      apply settled_handle handled settled.good settled.stored
      intro child up edge
      rw [member_handle_other (settled.stored up) handled]
      · exact settled.links child up edge
      · rintro rfl same
        exact outside child edge same.symm
  | @delivery child₀ up₀ pk rest ofpi edge₀ queue =>
      have good : ∀ n, ((state.take child₀ rest).agents n).Good := settled.good
      have stored : ∀ n, ((state.take child₀ rest).agents n).Stored (session.group n) := settled.stored
      apply settled_handle handled good stored
      intro child up edge
      by_cases same : child = child₀
      · subst same
        cases edge.symm.trans edge₀
        have link := settled.links child n edge
        have left : (state.take child rest).inFlight child = rest := Function.update_self ..
        rw [queue] at link
        apply Iff.trans _ link
        rw [member_handle (stored n) handled, left]
        simp only [and_true]
        rfl
      · have untouched : (state.take child₀ rest).inFlight child = state.inFlight child :=
          Function.update_of_ne same ..
        rw [member_handle_other (stored up) handled, untouched]
        · exact settled.links child up edge
        · rintro rfl linked
          exact same (session.distinct edge edge₀ linked.symm)

theorem unused_start (n : ν) (i : BitVec 16) :
    (session.start.agents n).Stored (session.group n) ∧ ¬ (session.start.agents n).Member (session.group n) i := by
  have absent : (session.before n).multicastSessionStore.lookup (session.group n) = none := by
    apply OrderedMap.lookup_eq_none.mpr
    intro entry member same
    exact session.unused n entry member (BitVec.eq_of_toNat_eq same)
  have created : session.start.agents n = (createGroup
      { session.before n with gen := (session.before n).gen.nextGroupId } (session.group n)).1 := rfl
  rw [created]
  exact ⟨⟨_, createGroup_stored absent⟩, createGroup_not_member (by exact absent) i⟩

theorem settled_start : session.Settled session.start where
  good := by
    intro n
    obtain ⟨events, run⟩ := session.reached n
    have good := visits_good rfl run.visits
    have acts := step_acts good (.newGroup session.ip (session.upstream n) session.sport session.dport session.classd
      (n = session.root))
    exact Acts.good acts good
  stored := fun n => (unused_start n 0).1
  links := by
    intro child up _
    apply iff_of_false
    · exact (unused_start up _).2
    · rintro ⟨i, member⟩
      exact (unused_start child i).2 member

/-- No switch faults, and a parent whose child has no packet on the way has the link of the child in its member map
exactly where the child has members. -/
structure Agrees (session : TreeSession ν) (events : List (TreeEvent ν)) : Prop where
  defined : ∀ state event, Meets session.Steps session.start events state event → ¬ session.Faults state event
  agreed : ∀ state, Visits session.Steps session.start events state → ∀ child up, session.parent child = some up →
    state.inFlight child = [] → ((state.agents up).Member (session.group up) (session.link child) ↔
      ∃ i, (state.agents child).Member (session.group child) i)

/-- Whatever the hosts do and however the packets travel, parents and children agree exactly where no packet leaves a
member. -/
theorem run_agrees_iff (session : TreeSession ν) (events : List (TreeEvent ν)) :
    session.Agrees events ↔
      ∀ state event, Meets session.Steps session.start events state event → ¬ session.LeavesMember state event := by
  constructor
  · intro agrees state event meets
    rw [← faults_iff]
    exact agrees.defined state event meets
  · intro stays
    constructor
    · intro state event meets
      rw [faults_iff]
      exact stays state event meets
    · intro state visits child up edge quiet
      have settled : session.Settled state := by
        apply visits.invariant _ settled_start
        intro state event next settled takes
        exact settled.step takes.steps
      have link := settled.links child up edge
      rw [quiet] at link
      exact link

def sampleTree : TreeSession Bool where
  root := false
  parent := fun n => if n then some false else none
  link := fun _ => 7
  upstream := fun _ => 1
  top := rfl
  rooted := by
    intro n
    cases n with
    | false => exact Relation.ReflTransGen.refl
    | true => exact Relation.ReflTransGen.single rfl
  distinct := by
    intro a b up edge edge' _
    cases a <;> cases b <;> simp_all
  ip := 0x0100000a
  sport := 1000
  dport := 2000
  classd := false
  before := fun _ => initial
  reached := fun _ => ⟨[], Run.start⟩
  unused := fun _ _ member => absurd member List.not_mem_nil

theorem sample_join_handled : ∃ state, Run sampleTree.Steps sampleTree.start [.host true (sampleJoin 3)] state ∧
    (state.agents true).LeavesMember (.packet (sampleLeave 3)) := by
  have outside : ∀ child, sampleTree.parent child = some true → sampleTree.link child ≠ (sampleJoin 3).inIntf := by
    intro child _
    show (7 : BitVec 16) ≠ 3
    decide
  have run : Run sampleTree.Steps sampleTree.start [.host true (sampleJoin 3)] _ :=
    Run.start.step ⟨_, _, _, Brings.host outside, rfl⟩
  exact ⟨_, run, MulticastGroupMembershipApp.faults_iff.mp ⟨.erasedIterator, rfl⟩⟩

theorem leave_below_undefined :
    ¬ sampleTree.Agrees [.host true (sampleJoin 3), .host true (sampleLeave 3)] := by
  intro agrees
  obtain ⟨state, run, leaves⟩ := sample_join_handled
  have outside : ∀ child, sampleTree.parent child = some true → sampleTree.link child ≠ (sampleLeave 3).inIntf := by
    intro child _
    show (7 : BitVec 16) ≠ 3
    decide
  have meets : Meets sampleTree.Steps sampleTree.start [.host true (sampleJoin 3), .host true (sampleLeave 3)] state
      (.host true (sampleLeave 3)) := ⟨_, List.prefix_rfl, run⟩
  exact agrees.defined state _ meets (faults_iff.mpr ⟨_, _, _, Brings.host outside, leaves⟩)

end TreeSession

end Libfluid.Multicast
