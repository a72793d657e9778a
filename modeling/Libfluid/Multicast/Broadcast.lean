import Libfluid.Library.Ancestry
import Libfluid.Multicast.Buckets
import Libfluid.Multicast.Forwarding
import Libfluid.Multicast.Tree

namespace Libfluid.Multicast
open Library MulticastGroupMembershipApp

/-- The agents with their switches, and all that each of them has seen before the session. -/
structure TreeNetwork (ν : Type*) extends TreeSession ν where
  history : ν → List Event
  switchBefore : ν → Option ReferenceSwitch
  driven : ∀ n, Run Drives (initial, some .empty) (history n) (before n, switchBefore n)

structure NetworkState (ν : Type*) where
  tree : TreeState ν
  switches : ν → Option ReferenceSwitch

namespace TreeNetwork

section Definitions

variable {ν : Type*} [DecidableEq ν] (network : TreeNetwork ν)

def creation (n : ν) : Event :=
  .newGroup network.ip (network.upstream n) network.sport network.dport network.classd (n = network.root)

def start : NetworkState ν where
  tree := network.toTreeSession.start
  switches := fun n =>
    (network.switchBefore n).bind fun switch => switch.executeAll ((network.before n).step (network.creation n)).2

def handle (state : NetworkState ν) (taken : TreeState ν) (n : ν) (pk : PacketInDataHeader) :
    Except Fault (NetworkState ν) :=
  (network.toTreeSession.handle taken n pk).map fun tree =>
    { tree := tree
      switches := Function.update state.switches n
        ((state.switches n).bind fun switch => switch.executeAll ((taken.agents n).handlePacketIn pk).2) }

def Steps (state : NetworkState ν) (event : TreeEvent ν) (next : NetworkState ν) : Prop :=
  ∃ taken n pk, network.toTreeSession.Brings state.tree event taken n pk ∧ network.handle state taken n pk = .ok next

def Faults (state : NetworkState ν) (event : TreeEvent ν) : Prop :=
  ∃ taken n pk fault,
    network.toTreeSession.Brings state.tree event taken n pk ∧ network.handle state taken n pk = .error fault

/-! ## The data of the session -/

def Attached (n : ν) (port : BitVec 32) (child : ν) : Prop :=
  network.parent child = some n ∧ (network.link child).setWidth 32 = port

/-- The copies that the hosts get of a packet that comes down to `n`, each with the switch and the port
it leaves by. -/
inductive Spreads (state : NetworkState ν) : ν → DataPacket → List (ν × Egress) → Prop
  | through {n : ν} {packet : DataPacket} {switch : ReferenceSwitch} {out : List Egress}
      (below : Egress → List (ν × Egress)) :
      state.switches n = some switch → switch.Forwards ((network.upstream n).setWidth 32) packet out →
      (∀ egress ∈ out, ∀ child, network.Attached n egress.port child →
        Spreads state child egress.packet (below egress)) →
      (∀ egress ∈ out, (∀ child, ¬ network.Attached n egress.port child) → below egress = [(n, egress)]) →
      Spreads state n packet (out.flatMap below)

def HostInterface (n : ν) (i : BitVec 16) : Prop := ∀ child, network.parent child = some n → network.link child ≠ i

def subscribedAfter (n : ν) (i : BitVec 16) (subscriber : Option Subscriber) : TreeEvent ν → Option Subscriber
  | .host m pk =>
      if m = n ∧ pk.inIntf = i ∧ pk.protocol ≠ protocolTypeIgmp ∧ pk.dip = network.ip then
        Channel.requested network.sport network.dport subscriber pk
      else subscriber
  | .delivery .. => subscriber

def subscription (events : List (TreeEvent ν)) (n : ν) (i : BitVec 16) : Option Subscriber :=
  events.foldl (network.subscribedAfter n i) none

def Address (ip : BitVec 32) : Prop :=
  ip = network.ip ∨ ∃ n, ∃ entry ∈ (network.before n).multicastSessionStore, entry.1.groupip = ip

/-- The ports fit a byte, no request comes from above, and no group sends from the address of a subscriber. -/
structure Proper (events : List (TreeEvent ν)) : Prop where
  unicast : network.classd = false
  links : ∀ child up, network.parent child = some up →
    (network.link child).toNat < 256 ∧ network.link child ≠ network.upstream up
  hosts : ∀ n pk, .host n pk ∈ events →
    pk.inIntf.toNat < 256 ∧ pk.inIntf ≠ network.upstream n ∧ ¬ network.Address pk.sip
  within : ∀ n, (network.history n).length + 1 + events.length < 2 ^ 32

structure OfSession (packet : DataPacket) : Prop where
  udp : packet.IsUdp
  source : packet.ipv4Src = network.ip
  sport : packet.udpSrc = network.sport
  dport : packet.udpDst = network.dport
  target : ¬ network.Address packet.ipv4Dst

end Definitions

variable {ν : Type*} [DecidableEq ν] {network : TreeNetwork ν} {events : List (TreeEvent ν)} {event : TreeEvent ν}
  {state next : NetworkState ν} {taken : TreeState ν} {n : ν} {pk : PacketInDataHeader} {channel : Channel} {i : BitVec 16}
  {switch : ReferenceSwitch} {service : Service}

omit [DecidableEq ν] in
theorem Proper.of_snoc (proper : network.Proper (events ++ [event])) : network.Proper events where
  unicast := proper.unicast
  links := proper.links
  hosts := fun n pk inside => proper.hosts n pk (List.mem_append_left _ inside)
  within := by
    intro n
    have longer := proper.within n
    rw [List.length_append] at longer
    omega

theorem subscription_snoc : network.subscription (events ++ [event]) n i =
    network.subscribedAfter n i (network.subscription events n i) event := by
  rw [subscription, List.foldl_append]
  rfl

/-! ## The invariant -/

structure ChannelOf (network : TreeNetwork ν) (events : List (TreeEvent ν)) (n : ν) (channel : Channel) : Prop where
  sport : channel.sport = network.sport
  dport : channel.dport = network.dport
  classd : channel.classd = network.classd
  subscribers : ∀ i subscriber, (i, subscriber) ∈ channel.subscribers →
    i.toNat < 256 ∧ i ≠ network.upstream n ∧ ¬ network.Address subscriber.ip
  hosts : ∀ i, network.HostInterface n i → ∀ subscriber,
    (i, subscriber) ∈ channel.subscribers ↔ network.subscription events n i = some subscriber

structure Serving (network : TreeNetwork ν) (events : List (TreeEvent ν)) (state : NetworkState ν)
    (services : ν → Service) : Prop where
  settled : network.toTreeSession.Settled state.tree
  follows : ∀ n, ∃ switch, state.switches n = some switch ∧ Follows (state.tree.agents n) switch (services n)
  counted : ∀ n, (state.tree.agents n).gen.groupId.toNat ≤ (network.history n).length + 1 + events.length
  channels : ∀ n, ∃ channel, services n network.ip = some channel ∧ network.ChannelOf events n channel
  addresses : ∀ n ip, services n ip ≠ none → network.Address ip
  travelling : ∀ n, ∀ pk ∈ state.tree.inFlight n, ¬ network.Address pk.sip

theorem constructions_le (events : List Event) : constructions events ≤ events.length := List.countP_le_length

omit [DecidableEq ν] in
theorem before_follows (within : ∀ n, (network.history n).length + 1 < 2 ^ 32) (n : ν) :
    ∃ switch, network.switchBefore n = some switch ∧
      Follows (network.before n) switch (Service.none.afterAll (network.history n)) ∧
      (network.before n).gen.groupId.toNat ≤ (network.history n).length := by
  have short := constructions_le (network.history n)
  have few := within n
  have first : initial.gen.groupId.toNat = 0 := rfl
  obtain ⟨switch, on, follows, counted⟩ := run_follows rfl (network.driven n) (by omega)
  refine ⟨switch, on, follows, ?_⟩
  rw [counted, first, Nat.zero_add]
  exact short

theorem after_creation (follows : Follows (network.before n) switch service) :
    (service.after (network.creation n)) network.ip =
      some { sport := network.sport, dport := network.dport, classd := network.classd, subscribers := [] } ∧
    ∀ ip, ip ≠ network.ip → service.after (network.creation n) ip = service ip := by
  have absent : service network.ip = none := follows.represents.noGroup_iff.mp (network.unused n)
  have created : service.after (network.creation n) = Function.update service network.ip (some
      { sport := network.sport, dport := network.dport, classd := network.classd, subscribers := [] }) := by
    exact Service.offer_new absent _
  rw [created]
  exact ⟨Function.update_self .., fun ip other => Function.update_of_ne other ..⟩

theorem start_serving (within : ∀ n, (network.history n).length + 1 < 2 ^ 32) :
    network.Serving [] network.start fun n => (Service.none.afterAll (network.history n)).after (network.creation n) := by
  have below {n : ν} (short : (network.before n).gen.groupId.toNat ≤ (network.history n).length) :
      (network.before n).gen.groupId.toNat + (if (network.creation n).constructs then 1 else 0) < 2 ^ 32 := by
    have few := within n
    rw [creation, Event.constructs, if_pos rfl]
    omega
  constructor
  case settled => exact TreeSession.settled_start
  case follows =>
    intro n
    obtain ⟨switch, on, follows, short⟩ := before_follows within n
    have steps : (network.before n).Steps (network.creation n) (network.start.tree.agents n) := rfl
    obtain ⟨switch', executed, follows'⟩ := follows.step steps (step_unwrapped steps (below short))
    refine ⟨switch', ?_, follows'⟩
    show (network.switchBefore n).bind _ = some switch'
    rw [on]
    exact executed
  case counted =>
    intro n
    obtain ⟨switch, -, -, short⟩ := before_follows within n
    have steps : (network.before n).Steps (network.creation n) (network.start.tree.agents n) := rfl
    rw [step_groupId_toNat steps (below short), creation, Event.constructs, if_pos rfl]
    exact Nat.add_le_add_right short 1
  case channels =>
    intro n
    obtain ⟨switch, -, follows, -⟩ := before_follows within n
    refine ⟨_, (after_creation follows).1, ?_⟩
    refine { sport := rfl, dport := rfl, classd := rfl, subscribers := ?_, hosts := ?_ }
    · exact fun i subscriber member => absurd member List.not_mem_nil
    · intro i _ subscriber
      simp [subscription]
  case addresses =>
    intro n ip present
    by_cases same : ip = network.ip
    · exact Or.inl same
    · obtain ⟨switch, -, follows, -⟩ := before_follows within n
      rw [(after_creation follows).2 ip same] at present
      obtain ⟨channel, present⟩ := Option.ne_none_iff_exists'.mp present
      obtain ⟨mcg, session, stored, address⟩ := follows.represents.known ip channel present
      exact Or.inr ⟨n, (mcg, session), stored, address⟩
  case travelling => exact fun _ _ member => absurd member List.not_mem_nil

theorem ChannelOf.heard (channelOf : network.ChannelOf events n channel)
    (arrives : pk.inIntf.toNat < 256 ∧ pk.inIntf ≠ network.upstream n ∧ ¬ network.Address pk.sip)
    (subscriptions : ∀ i, network.HostInterface n i → network.subscription (events ++ [event]) n i =
      if pk.inIntf = i ∧ pk.protocol ≠ protocolTypeIgmp ∧ pk.dip = network.ip then
        Channel.requested network.sport network.dport (network.subscription events n i) pk
      else network.subscription events n i) :
    network.ChannelOf (events ++ [event]) n
      (if pk.protocol ≠ protocolTypeIgmp ∧ pk.dip = network.ip then channel.hear pk else channel) := by
  by_cases concerns : pk.protocol ≠ protocolTypeIgmp ∧ pk.dip = network.ip
  · rw [if_pos concerns]
    obtain ⟨sport, dport, classd⟩ := Channel.hear_ports channel pk
    constructor
    case sport => exact sport.trans channelOf.sport
    case dport => exact dport.trans channelOf.dport
    case classd => exact classd.trans channelOf.classd
    case subscribers =>
      intro i subscriber member
      rcases Channel.subscriber_of_hear member with old | ⟨rfl, rfl⟩
      · exact channelOf.subscribers i subscriber old
      · exact arrives
    case hosts =>
      intro i host subscriber
      rw [subscriptions i host]
      by_cases here : pk.inIntf = i
      · subst here
        rw [if_pos ⟨rfl, concerns⟩, ← channelOf.sport, ← channelOf.dport]
        exact Channel.mem_hear_self (channelOf.hosts _ host)
      · rw [if_neg fun all => here all.1, Channel.mem_hear_other (Ne.symm here)]
        exact channelOf.hosts i host subscriber
  · rw [if_neg concerns]
    refine { channelOf with hosts := ?_ }
    intro i host subscriber
    rw [subscriptions i host, if_neg fun all => concerns all.2]
    exact channelOf.hosts i host subscriber

theorem handle_eq_ok (handled : network.handle state taken n pk = .ok next) :
    network.toTreeSession.handle taken n pk = .ok next.tree ∧ next.switches = Function.update state.switches n
      ((state.switches n).bind fun switch => switch.executeAll ((taken.agents n).handlePacketIn pk).2) := by
  obtain ⟨tree, answered, same⟩ := map_eq_ok.mp handled
  rw [← same]
  exact ⟨answered, rfl⟩

theorem handle_ok {agent : MulticastGroupMembershipApp} (answered : ((taken.agents n).handlePacketIn pk).1 = .ok agent) :
    network.handle state taken n pk = .ok
      { tree :=
          { agents := Function.update taken.agents n agent
            inFlight := Function.update taken.inFlight n (taken.inFlight n ++
              forwarded ((network.upstream n).setWidth 32) pk ((taken.agents n).handlePacketIn pk).2) }
        switches := Function.update state.switches n
          ((state.switches n).bind fun switch => switch.executeAll ((taken.agents n).handlePacketIn pk).2) } :=
  map_eq_ok.mpr ⟨_, map_eq_ok.mpr ⟨agent, answered, rfl⟩, rfl⟩

theorem faults_iff : network.Faults state event ↔ network.toTreeSession.LeavesMember state.tree event := by
  rw [← TreeSession.faults_iff]
  have same (taken : TreeState ν) (n : ν) (pk : PacketInDataHeader) (fault : Fault) :
      network.handle state taken n pk = .error fault ↔ network.toTreeSession.handle taken n pk = .error fault :=
    map_eq_error
  simp only [Faults, TreeSession.Faults, same]

theorem Serving.handle_serving {services : ν → Service} (serving : network.Serving events state services)
    (handled : network.handle state taken n pk = .ok next) (agents : taken.agents = state.tree.agents)
    (settled : network.toTreeSession.Settled next.tree)
    (arrives : pk.inIntf.toNat < 256 ∧ pk.inIntf ≠ network.upstream n ∧ ¬ network.Address pk.sip)
    (travelling : ∀ m, ∀ pk ∈ taken.inFlight m, ¬ network.Address pk.sip)
    (subscriptions : ∀ m i, network.HostInterface m i → network.subscription (events ++ [event]) m i =
      if m = n ∧ pk.inIntf = i ∧ pk.protocol ≠ protocolTypeIgmp ∧ pk.dip = network.ip then
        Channel.requested network.sport network.dport (network.subscription events m i) pk
      else network.subscription events m i)
    (within : ∀ n, (network.history n).length + 1 + (events ++ [event]).length < 2 ^ 32) :
    network.Serving (events ++ [event]) next (Function.update services n ((services n).after (.packet pk))) := by
  obtain ⟨handled, switches⟩ := handle_eq_ok handled
  have below : ((taken.agents n).gen.groupId.toNat + if (Event.packet pk).constructs then 1 else 0) < 2 ^ 32 := by
    have few := within n
    have counted := serving.counted n
    rw [List.length_append, List.length_singleton] at few
    rw [agents, Event.constructs, if_pos rfl]
    omega
  have steps : (taken.agents n).Steps (.packet pk) (next.tree.agents n) := TreeSession.agents_handle_self handled
  have agents_other {m : ν} (other : m ≠ n) : next.tree.agents m = state.tree.agents m := by
    rw [← agents]
    exact TreeSession.agents_handle_other handled other
  constructor
  case settled => exact settled
  case follows =>
    intro m
    rw [switches]
    by_cases same : m = n
    · subst same
      obtain ⟨switch, on, follows⟩ := serving.follows m
      rw [← agents] at follows
      obtain ⟨switch', executed, follows'⟩ := follows.step steps (step_unwrapped steps below)
      refine ⟨switch', ?_, ?_⟩
      · rw [Function.update_self, on]
        exact executed
      · rw [Function.update_self]
        exact follows'
    · rw [agents_other same, Function.update_of_ne same, Function.update_of_ne same]
      exact serving.follows m
  case counted =>
    intro m
    rw [List.length_append, List.length_singleton, ← Nat.add_assoc]
    by_cases same : m = n
    · subst same
      rw [step_groupId_toNat steps below, Event.constructs, if_pos rfl, agents]
      exact Nat.add_le_add_right (serving.counted m) 1
    · rw [agents_other same]
      exact (serving.counted m).trans (Nat.le_succ _)
  case channels =>
    intro m
    obtain ⟨channel, present, channelOf⟩ := serving.channels m
    by_cases same : m = n
    · subst same
      rw [Function.update_self]
      refine ⟨_, Service.after_packet present, channelOf.heard arrives ?_⟩
      intro i host
      rw [subscriptions m i host]
      simp only [true_and]
    · rw [Function.update_of_ne same]
      refine ⟨channel, present, { channelOf with hosts := ?_ }⟩
      intro i host subscriber
      rw [subscriptions m i host, if_neg fun all => same all.1]
      exact channelOf.hosts i host subscriber
  case addresses =>
    intro m ip present
    by_cases same : m = n
    · subst same
      rw [Function.update_self, Ne, Service.after_packet_eq_none] at present
      exact serving.addresses m ip present
    · rw [Function.update_of_ne same] at present
      exact serving.addresses m ip present
  case travelling =>
    intro m pk' member
    by_cases same : m = n
    · subst same
      rw [TreeSession.inFlight_handle_self handled] at member
      rcases List.mem_append.mp member with old | new
      · exact travelling m pk' old
      · rw [mem_forwarded new]
        exact arrives.2.2
    · rw [TreeSession.inFlight_handle_other handled same] at member
      exact travelling m pk' member

theorem Steps.tree (step : network.Steps state event next) :
    network.toTreeSession.Steps state.tree event next.tree := by
  obtain ⟨taken, n, pk, brings, handled⟩ := step
  exact ⟨taken, n, pk, brings, (handle_eq_ok handled).1⟩

theorem step_serving {services : ν → Service} (serving : network.Serving events state services)
    (step : network.Steps state event next) (proper : network.Proper (events ++ [event])) :
    ∃ services', network.Serving (events ++ [event]) next services' := by
  have settled : network.toTreeSession.Settled next.tree := serving.settled.step step.tree
  obtain ⟨taken, n, pk, brings, handled⟩ := step
  cases brings with
  | host outside =>
      refine ⟨_, serving.handle_serving handled rfl settled (proper.hosts n pk (by simp)) serving.travelling ?_
        proper.within⟩
      intro m i _
      rw [subscription_snoc]
      simp only [subscribedAfter, eq_comm]
  | @delivery child up pk rest ofpi edge queue =>
      have head : pk ∈ state.tree.inFlight child := by
        rw [queue]
        exact List.mem_cons_self
      obtain ⟨narrow, apart⟩ := proper.links child n edge
      refine ⟨_, serving.handle_serving handled rfl settled ⟨narrow, apart, serving.travelling child pk head⟩ ?_ ?_
        proper.within⟩
      · intro m pk' member
        exact serving.travelling m pk' (TreeState.mem_take queue member)
      · intro m i host
        rw [subscription_snoc, subscribedAfter, if_neg]
        rintro ⟨rfl, linked, -⟩
        exact host child edge linked

theorem run_serving (proper : network.Proper events) (run : Run network.Steps network.start events state) :
    ∃ services, network.Serving events state services := by
  induction run with
  | start => exact ⟨_, start_serving proper.within⟩
  | step _ advance ih =>
      obtain ⟨services, serving⟩ := ih proper.of_snoc
      exact step_serving serving advance proper

/-! ## What a switch does with the data -/

section Settled

variable {services : ν → Service} {packet : DataPacket} {out : List Egress} {subscriber : Subscriber}

theorem group_groupip (n : ν) : (network.toTreeSession.group n).groupip = network.ip := rfl

theorem Serving.mirrors (serving : network.Serving events state services)
    (present : services n network.ip = some channel) :
    ∃ session, (network.toTreeSession.group n, session) ∈ (state.tree.agents n).multicastSessionStore ∧
      Mirrors (network.toTreeSession.group n) session channel := by
  obtain ⟨session, stored⟩ := serving.settled.stored n
  obtain ⟨switch, -, follows⟩ := serving.follows n
  obtain ⟨channel', present', mirrors⟩ := follows.represents.stored _ session stored
  rw [group_groupip, present, Option.some_inj] at present'
  subst present'
  exact ⟨session, stored, mirrors⟩

theorem Serving.member_iff (serving : network.Serving events state services)
    (present : services n network.ip = some channel) :
    (state.tree.agents n).Member (network.toTreeSession.group n) i ↔
      ∃ subscriber, (i, subscriber) ∈ channel.subscribers := by
  obtain ⟨session, stored, mirrors⟩ := serving.mirrors present
  rw [MulticastGroupMembershipApp.member_iff stored]
  simp only [mirrors.mem_subscribers, Session.Has]
  constructor
  · intro member
    obtain ⟨mcgm, found⟩ := member
    exact ⟨_, mcgm, found, rfl⟩
  · intro subscribed
    obtain ⟨-, mcgm, found, -⟩ := subscribed
    exact ⟨mcgm, found⟩

theorem Serving.eq_of_interface (serving : network.Serving events state services)
    (present : services n network.ip = some channel) {subscriber' : Subscriber}
    (member : (i, subscriber) ∈ channel.subscribers) (member' : (i, subscriber') ∈ channel.subscribers) :
    subscriber = subscriber' := by
  obtain ⟨session, -, mirrors⟩ := serving.mirrors present
  obtain ⟨mcgm, found, rfl⟩ := mirrors.mem_subscribers.mp member
  obtain ⟨mcgm', found', rfl⟩ := mirrors.mem_subscribers.mp member'
  rw [found, Option.some_inj] at found'
  rw [found']

theorem portOf_narrow (narrow : i.toNat < 256) : portOf i = i.setWidth 32 := Session.narrow_eq narrow

theorem Serving.nodup_copies (serving : network.Serving events state services)
    (present : services n network.ip = some channel) (channelOf : network.ChannelOf events n channel) :
    (channel.subscribers.map packet.copyFor).Nodup := by
  obtain ⟨session, -, mirrors⟩ := serving.mirrors present
  have distinct : channel.subscribers.Nodup := by
    rw [mirrors.subscribers.nodup_iff]
    apply List.Nodup.map_on _ session.members.nodup
    intro entry member entry' member' same
    exact OrderedMap.eq_of_key member member' (congrArg BitVec.toNat (Prod.mk.inj same).1)
  apply List.Nodup.map_on _ distinct
  rintro ⟨i, subscriber⟩ member ⟨i', subscriber'⟩ member' same
  have ports : portOf i = portOf i' := congrArg Egress.port same
  rw [portOf_narrow (channelOf.subscribers _ _ member).1, portOf_narrow (channelOf.subscribers _ _ member').1] at ports
  obtain rfl := Session.setWidth_injective ports
  rw [serving.eq_of_interface present member member']

theorem Serving.copies (serving : network.Serving events state services) (unicast : network.classd = false)
    (present : services n network.ip = some channel) (channelOf : network.ChannelOf events n channel)
    (data : network.OfSession packet) (on : state.switches n = some switch)
    (forwards : switch.Forwards ((network.upstream n).setWidth 32) packet out) :
    out.Perm (channel.subscribers.map packet.copyFor) := by
  obtain ⟨switch', on', follows⟩ := serving.follows n
  rw [on, Option.some_inj] at on'
  subst on'
  have free : services n packet.ipv4Dst = none := by
    by_contra known
    exact data.target (serving.addresses n _ known)
  have carries : channel.Carries packet := by
    rw [Channel.Carries, channelOf.sport, channelOf.dport, channelOf.classd]
    exact ⟨unicast, data.udp, data.sport, data.dport⟩
  have all : (services n).forward ((network.upstream n).setWidth 32) packet = channel.subscribers.map packet.copyFor := by
    rw [Service.forward, Service.copies, free, data.source, present, Option.filter_some_pos (by simpa using carries)]
    rw [if_neg (by simp), Option.elim_some, List.filter_eq_self]
    intro egress member
    obtain ⟨⟨i, subscriber⟩, listed, rfl⟩ := List.mem_map.mp member
    obtain ⟨narrow, apart, -⟩ := channelOf.subscribers i subscriber listed
    apply decide_eq_true
    show portOf i ≠ _
    rw [portOf_narrow narrow]
    exact fun same => apart (Session.setWidth_injective same)
  rw [← all]
  exact (follows.forwards _ packet).2 out forwards

/-! ## Down the tree -/

theorem Serving.hasMembers_of_under (serving : network.Serving events state services)
    (quiet : ∀ n, state.tree.inFlight n = []) {m : ν} (under : Under network.parent m n)
    (members : (state.tree.agents m).HasMembers (network.toTreeSession.group m)) :
    (state.tree.agents n).HasMembers (network.toTreeSession.group n) := by
  induction under with
  | refl => exact members
  | @tail child up _ edge ih =>
      have link := serving.settled.links child up edge
      rw [quiet child] at link
      exact ⟨_, link.mpr ih⟩

def Receives (network : TreeNetwork ν) (events : List (TreeEvent ν)) (n : ν) (packet : DataPacket)
    (copy : ν × Egress) : Prop :=
  Under network.parent copy.1 n ∧ ∃ i subscriber, network.HostInterface copy.1 i ∧
    network.subscription events copy.1 i = some subscriber ∧ copy.2 = packet.copyFor (i, subscriber)

omit [DecidableEq ν] in
theorem OfSession.readdressed (data : network.OfSession packet) (target : ¬ network.Address subscriber.ip) :
    network.OfSession (packet.readdressed subscriber) where
  udp := data.udp
  source := data.source
  sport := data.sport
  dport := data.dport
  target := target

omit [DecidableEq ν] in
theorem attached_iff (narrow : i.toNat < 256) {child : ν} :
    network.Attached n (packet.copyFor (i, subscriber)).port child ↔
      network.parent child = some n ∧ network.link child = i := by
  show _ ∧ _ = portOf i ↔ _
  rw [portOf_narrow narrow]
  exact and_congr_right fun _ => ⟨Session.setWidth_injective, fun same => by rw [same]⟩

inductive Piece (network : TreeNetwork ν) (events : List (TreeEvent ν)) (n : ν) (packet : DataPacket)
    (i : BitVec 16) (subscriber : Subscriber) (copies : List (ν × Egress)) : Prop
  | host : network.HostInterface n i → copies = [(n, packet.copyFor (i, subscriber))] →
      Piece network events n packet i subscriber copies
  | switch {child : ν} : network.parent child = some n → network.link child = i → copies.Nodup →
      (∀ copy, copy ∈ copies ↔ network.Receives events child packet copy) →
      Piece network events n packet i subscriber copies

theorem Piece.nodup {copies : List (ν × Egress)} (piece : Piece network events n packet i subscriber copies) :
    copies.Nodup := by
  cases piece with
  | host _ only =>
      rw [only]
      exact List.nodup_singleton _
  | switch _ _ nodup => exact nodup

theorem Piece.interface_eq {i' : BitVec 16} {subscriber' : Subscriber} {copies copies' : List (ν × Egress)}
    (piece : Piece network events n packet i subscriber copies)
    (piece' : Piece network events n packet i' subscriber' copies') (narrow : i.toNat < 256) (narrow' : i'.toNat < 256)
    {copy : ν × Egress} (inside : copy ∈ copies) (inside' : copy ∈ copies') : i = i' := by
  have here {child : ν} (edge : network.parent child = some n) (receives : network.Receives events child packet copy)
      (at_ : copy.1 = n) : False := by
    have under := receives.1
    rw [at_] at under
    exact not_under_child network.top network.rooted edge under
  cases piece with
  | host _ only =>
      rw [only, List.mem_singleton] at inside
      cases piece' with
      | host _ only' =>
          rw [only', List.mem_singleton, inside] at inside'
          have ports : portOf i = portOf i' := congrArg (fun copy => copy.2.port) inside'
          rw [portOf_narrow narrow, portOf_narrow narrow'] at ports
          exact Session.setWidth_injective ports
      | switch edge _ _ exact_ => exact (here edge ((exact_ copy).mp inside') (by rw [inside])).elim
  | switch edge link _ exact_ =>
      cases piece' with
      | host _ only' =>
          rw [only', List.mem_singleton] at inside'
          exact (here edge ((exact_ copy).mp inside) (by rw [inside'])).elim
      | switch edge' link' _ exact' =>
          have same := eq_of_under network.top network.rooted edge edge' ((exact_ copy).mp inside).1
            ((exact' copy).mp inside').1
          rw [← link, ← link', same]

theorem Piece.receives {copies : List (ν × Egress)} (piece : Piece network events n packet i subscriber copies)
    (subscribed : network.HostInterface n i → network.subscription events n i = some subscriber) {copy : ν × Egress}
    (inside : copy ∈ copies) : network.Receives events n packet copy := by
  cases piece with
  | host outside only =>
      rw [only, List.mem_singleton] at inside
      subst inside
      exact ⟨Relation.ReflTransGen.refl, i, subscriber, outside, subscribed outside, rfl⟩
  | switch edge _ _ exact_ =>
      obtain ⟨under, receives⟩ := (exact_ copy).mp inside
      exact ⟨under.tail edge, receives⟩

theorem Serving.listed_of_under (serving : network.Serving events state services)
    (quiet : ∀ n, state.tree.inFlight n = []) (present : services n network.ip = some channel) {child m : ν}
    (edge : network.parent child = some n) (under : Under network.parent m child) (host : network.HostInterface m i)
    (subscribed : network.subscription events m i = some subscriber) :
    ∃ subscriber', (network.link child, subscriber') ∈ channel.subscribers := by
  obtain ⟨channel', present', channelOf'⟩ := serving.channels m
  have member := (serving.member_iff present').mpr ⟨subscriber, (channelOf'.hosts i host subscriber).mpr subscribed⟩
  have members := serving.hasMembers_of_under quiet under ⟨i, member⟩
  have link := serving.settled.links child n edge
  rw [quiet child] at link
  exact (serving.member_iff present).mp (link.mpr members)

theorem Serving.pieces (serving : network.Serving events state services) (quiet : ∀ n, state.tree.inFlight n = [])
    (present : services n network.ip = some channel) (channelOf : network.ChannelOf events n channel)
    (perm : out.Perm (channel.subscribers.map packet.copyFor)) (below : Egress → List (ν × Egress))
    (pieces : ∀ i subscriber, (i, subscriber) ∈ channel.subscribers →
      Piece network events n packet i subscriber (below (packet.copyFor (i, subscriber)))) :
    (out.flatMap below).Nodup ∧
      ∀ copy, copy ∈ out.flatMap below ↔ network.Receives events n packet copy := by
  have of_mem {egress : Egress} (member : egress ∈ out) :
      ∃ i subscriber, (i, subscriber) ∈ channel.subscribers ∧ egress = packet.copyFor (i, subscriber) := by
    obtain ⟨⟨i, subscriber⟩, listed, rfl⟩ := List.mem_map.mp (perm.mem_iff.mp member)
    exact ⟨i, subscriber, listed, rfl⟩
  have to_mem {i : BitVec 16} {subscriber : Subscriber} (listed : (i, subscriber) ∈ channel.subscribers) :
      packet.copyFor (i, subscriber) ∈ out := perm.mem_iff.mpr (List.mem_map_of_mem listed)
  constructor
  · rw [List.nodup_flatMap]
    constructor
    · intro egress member
      obtain ⟨i, subscriber, listed, rfl⟩ := of_mem member
      exact (pieces i subscriber listed).nodup
    · have distinct : out.Nodup := perm.nodup_iff.mpr (serving.nodup_copies present channelOf)
      apply distinct.pairwise_of_forall_ne
      intro egress member egress' member' different copy inside inside'
      obtain ⟨i, subscriber, listed, rfl⟩ := of_mem member
      obtain ⟨i', subscriber', listed', rfl⟩ := of_mem member'
      have same := (pieces i subscriber listed).interface_eq (pieces i' subscriber' listed')
        (channelOf.subscribers _ _ listed).1 (channelOf.subscribers _ _ listed').1 inside inside'
      subst same
      exact different (by rw [serving.eq_of_interface present listed listed'])
  · intro copy
    rw [List.mem_flatMap]
    constructor
    · rintro ⟨egress, member, inside⟩
      obtain ⟨i, subscriber, listed, rfl⟩ := of_mem member
      exact (pieces i subscriber listed).receives
        (fun host => (channelOf.hosts i host subscriber).mp listed) inside
    · rintro receives
      obtain ⟨under, i, subscriber, host, subscribed, same⟩ := receives
      rcases under_iff.mp under with here | ⟨child, edge, belowChild⟩
      · rw [here] at host subscribed
        have listed := (channelOf.hosts i host subscriber).mpr subscribed
        refine ⟨_, to_mem listed, ?_⟩
        cases pieces i subscriber listed with
        | host _ only =>
            rw [only, List.mem_singleton]
            exact Prod.ext here same
        | switch edge link => exact absurd link (host _ edge)
      · obtain ⟨subscriber', listed⟩ := serving.listed_of_under quiet present edge belowChild host subscribed
        refine ⟨_, to_mem listed, ?_⟩
        cases pieces _ subscriber' listed with
        | host outside => exact absurd rfl (outside child edge)
        | switch edge' link _ exact_ =>
            obtain rfl := network.distinct edge' edge link
            exact (exact_ copy).mpr ⟨belowChild, i, subscriber, host, subscribed, same⟩

theorem Serving.spreads (serving : network.Serving events state services) (quiet : ∀ n, state.tree.inFlight n = [])
    (unicast : network.classd = false) {copies : List (ν × Egress)} (spreads : network.Spreads state n packet copies)
    (data : network.OfSession packet) :
    copies.Nodup ∧ ∀ copy, copy ∈ copies ↔ network.Receives events n packet copy := by
  induction spreads with
  | @through n packet switch out below on forwards deeper hosts ih =>
      obtain ⟨channel, present, channelOf⟩ := serving.channels n
      have perm := serving.copies unicast present channelOf data on forwards
      apply serving.pieces quiet present channelOf perm
      intro i subscriber listed
      have member : packet.copyFor (i, subscriber) ∈ out := perm.mem_iff.mpr (List.mem_map_of_mem listed)
      obtain ⟨narrow, -, target⟩ := channelOf.subscribers i subscriber listed
      by_cases switched : ∃ child, network.parent child = some n ∧ network.link child = i
      · obtain ⟨child, edge, link⟩ := switched
        obtain ⟨nodup, exact_⟩ := ih _ member child ((attached_iff narrow).mpr ⟨edge, link⟩) (data.readdressed target)
        exact Piece.switch edge link nodup exact_
      · have outside : network.HostInterface n i := fun child edge link => switched ⟨child, edge, link⟩
        apply Piece.host outside
        apply hosts _ member
        intro child attached
        obtain ⟨edge, link⟩ := (attached_iff narrow).mp attached
        exact outside child edge link

theorem Serving.exists_spreads [Finite ν] (serving : network.Serving events state services) (n : ν)
    (packet : DataPacket) : ∃ copies, network.Spreads state n packet copies := by
  induction n using (childOf_wellFounded network.top network.rooted).induction generalizing packet with
  | h n ih =>
      obtain ⟨switch, on, follows⟩ := serving.follows n
      obtain ⟨out, forwards⟩ := (follows.forwards ((network.upstream n).setWidth 32) packet).1
      have each (egress : Egress) : ∃ copies,
          (∀ child, network.Attached n egress.port child → network.Spreads state child egress.packet copies) ∧
            ((∀ child, ¬ network.Attached n egress.port child) → copies = [(n, egress)]) := by
        by_cases switched : ∃ child, network.Attached n egress.port child
        · obtain ⟨child, attached⟩ := switched
          obtain ⟨copies, spreads⟩ := ih child attached.1 egress.packet
          refine ⟨copies, ?_, fun none => absurd attached (none child)⟩
          intro child' attached'
          have links := Session.setWidth_injective (attached.2.trans attached'.2.symm)
          obtain rfl := network.distinct attached.1 attached'.1 links
          exact spreads
        · exact ⟨[(n, egress)], fun child attached => absurd ⟨child, attached⟩ switched, fun _ => rfl⟩
      choose below deeper hosts using each
      exact ⟨_, Spreads.through below on forwards (fun egress _ => deeper egress) fun egress _ => hosts egress⟩

end Settled

theorem Serving.reaches [Finite ν] {services : ν → Service} (serving : network.Serving events state services)
    (quiet : ∀ n, state.tree.inFlight n = []) (unicast : network.classd = false) {packet : DataPacket}
    (data : network.OfSession packet) :
    (∃ copies, network.Spreads state network.root packet copies) ∧
      ∀ copies, network.Spreads state network.root packet copies → copies.Nodup ∧
        ∀ n egress, (n, egress) ∈ copies ↔ ∃ i subscriber, network.HostInterface n i ∧
          network.subscription events n i = some subscriber ∧ egress = packet.copyFor (i, subscriber) := by
  refine ⟨serving.exists_spreads network.root packet, ?_⟩
  intro copies spreads
  obtain ⟨nodup, exact_⟩ := serving.spreads quiet unicast spreads data
  refine ⟨nodup, fun n egress => (exact_ (n, egress)).trans ?_⟩
  exact and_iff_right (network.rooted n)

omit [DecidableEq ν] in
theorem Spreads.congr {state' : NetworkState ν} {packet : DataPacket} {copies : List (ν × Egress)}
    (same : state.switches = state'.switches) (spreads : network.Spreads state n packet copies) :
    network.Spreads state' n packet copies := by
  induction spreads with
  | through below on forwards deeper hosts ih =>
      rw [same] at on
      exact Spreads.through below on forwards ih hosts

def sampleNetwork : TreeNetwork Bool where
  toTreeSession := TreeSession.sampleTree
  history := fun _ => []
  switchBefore := fun _ => some .empty
  driven := fun _ => Run.start

theorem sampleNetwork_address (ip : BitVec 32) : sampleNetwork.Address ip ↔ ip = 0x0100000a := by
  constructor
  · rintro (same | ⟨n, entry, stored, -⟩)
    · exact same
    · exact absurd stored List.not_mem_nil
  · exact Or.inl

def sampleRequests : List (TreeEvent Bool) := [.host true (sampleJoin 3), .delivery true (sampleJoin 3).ofpi]

theorem sampleRequests_proper : sampleNetwork.Proper sampleRequests where
  unicast := rfl
  links := by
    intro child up _
    exact ⟨show (7 : BitVec 16).toNat < 256 by decide, show (7 : BitVec 16) ≠ 1 by decide⟩
  hosts := by
    intro n pk inside
    simp only [sampleRequests, List.mem_cons, TreeEvent.host.injEq, List.not_mem_nil, or_false, reduceCtorEq] at inside
    obtain ⟨rfl, rfl⟩ := inside
    refine ⟨by decide, show (3 : BitVec 16) ≠ 1 by decide, ?_⟩
    rw [sampleNetwork_address]
    decide
  within := fun _ => show 0 + 1 + 2 < 2 ^ 32 by decide

theorem sampleData_ofSession : sampleNetwork.OfSession sampleData where
  udp := ⟨rfl, rfl⟩
  source := rfl
  sport := rfl
  dport := rfl
  target := by
    rw [sampleNetwork_address]
    decide

example : sampleNetwork.subscription sampleRequests true 3 = some (sampleJoin 3).joiner := by decide

end TreeNetwork

end Libfluid.Multicast
