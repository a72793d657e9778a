import Libfluid.Multicast.DataPlane
import Libfluid.Multicast.Refinement
import Libfluid.Multicast.Membership
import Libfluid.Multicast.Requests

/-!
# The service of an agent and its switch

What the agent and its switch are for: a group passes the packets of its source on to its subscribers. The
agent keeps the groups of this service, and its switch forwards every packet as the service says.
-/

namespace Libfluid.Multicast
open Library Switch

/-! ## The service -/

structure Subscriber where
  mac : EthAddress
  ip : BitVec 32
deriving DecidableEq, Repr

structure Channel where
  sport : BitVec 16
  dport : BitVec 16
  classd : Bool
  /-- Each subscriber with the interface it is at, the oldest first. -/
  subscribers : List (BitVec 16 × Subscriber)
deriving DecidableEq, Repr

abbrev Service := BitVec 32 → Option Channel

def DataPacket.readdressed (packet : DataPacket) (subscriber : Subscriber) : DataPacket :=
  { packet with ethDst := subscriber.mac, ipv4Dst := subscriber.ip }

def PacketInDataHeader.joiner (pk : PacketInDataHeader) : Subscriber :=
  { mac := ethAddressOf pk.smac, ip := pk.sip }

/-- The packet goes out by the low byte of the interface. -/
def portOf (i : BitVec 16) : BitVec 32 := (i.setWidth 8).setWidth 32

def DataPacket.copyFor (packet : DataPacket) (entry : BitVec 16 × Subscriber) : Egress :=
  { port := portOf entry.1, maxLen := 0, packet := packet.readdressed entry.2 }

namespace Channel

def subscribe (channel : Channel) (i : BitVec 16) (subscriber : Subscriber) : Channel :=
  if ∀ entry ∈ channel.subscribers, entry.1 ≠ i then
    { channel with subscribers := channel.subscribers ++ [(i, subscriber)] }
  else channel

def unsubscribe (channel : Channel) (i : BitVec 16) : Channel :=
  { channel with subscribers := channel.subscribers.filter fun entry => entry.1 ≠ i }

def hear (channel : Channel) (pk : PacketInDataHeader) : Channel :=
  if pk.usrcPort = channel.dport ∧ pk.udstPort = channel.sport then channel.unsubscribe pk.inIntf
  else if pk.usrcPort = channel.sport ∧ pk.udstPort = channel.dport then channel.subscribe pk.inIntf pk.joiner
  else channel

variable {channel : Channel} {pk : PacketInDataHeader} {i j : BitVec 16} {subscriber joiner : Subscriber}

theorem mem_subscribe : (i, subscriber) ∈ (channel.subscribe j joiner).subscribers ↔
    (i, subscriber) ∈ channel.subscribers ∨
      i = j ∧ subscriber = joiner ∧ ∀ entry ∈ channel.subscribers, entry.1 ≠ j := by
  unfold subscribe
  split_ifs with new
  · simp only [List.mem_append, List.mem_singleton, Prod.mk.injEq, and_iff_left new]
  · rw [or_iff_left fun joins => new joins.2.2]

theorem mem_unsubscribe : (i, subscriber) ∈ (channel.unsubscribe j).subscribers ↔
    (i, subscriber) ∈ channel.subscribers ∧ i ≠ j := by
  simp [unsubscribe]

theorem mem_hear_other (other : i ≠ pk.inIntf) :
    (i, subscriber) ∈ (channel.hear pk).subscribers ↔ (i, subscriber) ∈ channel.subscribers := by
  unfold hear
  split_ifs
  · rw [mem_unsubscribe, and_iff_left other]
  · rw [mem_subscribe, or_iff_left fun new => other new.1]
  · rfl

theorem subscriber_of_hear (member : (i, subscriber) ∈ (channel.hear pk).subscribers) :
    (i, subscriber) ∈ channel.subscribers ∨ i = pk.inIntf ∧ subscriber = pk.joiner := by
  unfold hear at member
  split_ifs at member
  · exact Or.inl (mem_unsubscribe.mp member).1
  · rcases mem_subscribe.mp member with old | ⟨here, joiner, -⟩
    · exact Or.inl old
    · exact Or.inr ⟨here, joiner⟩
  · exact Or.inl member

theorem hear_ports (channel : Channel) (pk : PacketInDataHeader) : (channel.hear pk).sport = channel.sport ∧
    (channel.hear pk).dport = channel.dport ∧ (channel.hear pk).classd = channel.classd := by
  unfold hear subscribe unsubscribe
  split_ifs <;> exact ⟨rfl, rfl, rfl⟩

/-- Who subscribes at an interface after a request from there: the first to join, until a leave. -/
def requested (sport dport : BitVec 16) (subscriber : Option Subscriber) (pk : PacketInDataHeader) :
    Option Subscriber :=
  if pk.usrcPort = dport ∧ pk.udstPort = sport then none
  else if pk.usrcPort = sport ∧ pk.udstPort = dport then some (subscriber.getD pk.joiner)
  else subscriber

theorem mem_hear_self {before : Option Subscriber}
    (at_ : ∀ subscriber, (pk.inIntf, subscriber) ∈ channel.subscribers ↔ before = some subscriber) :
    (pk.inIntf, subscriber) ∈ (channel.hear pk).subscribers ↔
      requested channel.sport channel.dport before pk = some subscriber := by
  have new : (∀ entry ∈ channel.subscribers, entry.1 ≠ pk.inIntf) ↔ before = none := by
    rw [Option.eq_none_iff_forall_ne_some]
    constructor
    · exact fun absent subscriber present => absent _ ((at_ subscriber).mpr present) rfl
    · rintro absent ⟨i, subscriber⟩ member rfl
      exact absent subscriber ((at_ subscriber).mp member)
  unfold hear requested
  split_ifs with leaves joins
  · simp [mem_unsubscribe]
  · rw [mem_subscribe, new, at_]
    cases before with
    | none => simp [eq_comm]
    | some old => simp
  · exact at_ subscriber

/-- Packets to the address of the group are for the agent. -/
def Catches (channel : Channel) (packet : DataPacket) : Prop :=
  packet.IsIpv4 ∧ (channel.classd = false → packet.ipProto = 17)

def Carries (channel : Channel) (packet : DataPacket) : Prop :=
  channel.classd = false ∧ packet.IsUdp ∧ packet.udpSrc = channel.sport ∧ packet.udpDst = channel.dport

instance (channel : Channel) (packet : DataPacket) : Decidable (channel.Catches packet) :=
  inferInstanceAs (Decidable (_ ∧ _))

instance (channel : Channel) (packet : DataPacket) : Decidable (channel.Carries packet) :=
  inferInstanceAs (Decidable (_ ∧ _))

end Channel

namespace Service

def none : Service := fun _ => .none

def offer (service : Service) (ip : BitVec 32) (channel : Channel) : Service :=
  if (service ip).isNone then Function.update service ip (some channel) else service

theorem offer_new {service : Service} {ip : BitVec 32} (absent : service ip = .none) (channel : Channel) :
    service.offer ip channel = Function.update service ip (some channel) :=
  if_pos (Option.isNone_iff_eq_none.mpr absent)

def after (service : Service) : Event → Service
  | .newGroup ip _ sport dport classd _ =>
      service.offer ip { sport := sport, dport := dport, classd := classd, subscribers := [] }
  | .newSession sip dip sport dport _ _ =>
      if dip &&& 0xf0000000 = 0xe0000000 then service
      else service.offer sip { sport := sport, dport := dport, classd := false, subscribers := [] }
  | .packet pk =>
      if pk.protocol = protocolTypeIgmp then service
      else Function.update service pk.dip ((service pk.dip).map fun channel => channel.hear pk)

def afterAll (service : Service) (events : List Event) : Service := events.foldl after service

/-- A packet to a group goes to the agent, and else a packet from the source of a group to its subscribers. -/
def copies (service : Service) (packet : DataPacket) : List Egress :=
  if (service packet.ipv4Dst).any fun channel => channel.Catches packet then
    [{ port := ofppController, maxLen := 512, packet := packet }]
  else
    ((service packet.ipv4Src).filter fun channel => channel.Carries packet).elim [] fun channel =>
      channel.subscribers.map packet.copyFor

def forward (service : Service) (inPort : BitVec 32) (packet : DataPacket) : List Egress :=
  (service.copies packet).filter fun egress => egress.port ≠ inPort

theorem after_packet_eq_none {service : Service} {pk : PacketInDataHeader} {ip : BitVec 32} :
    service.after (.packet pk) ip = .none ↔ service ip = .none := by
  rw [after]
  split_ifs with igmp
  · rfl
  · by_cases same : ip = pk.dip
    · subst same
      rw [Function.update_self, Option.map_eq_none_iff]
    · rw [Function.update_of_ne same]

theorem after_packet {service : Service} {pk : PacketInDataHeader} {ip : BitVec 32} {channel : Channel}
    (present : service ip = some channel) : service.after (.packet pk) ip =
      some (if pk.protocol ≠ protocolTypeIgmp ∧ pk.dip = ip then channel.hear pk else channel) := by
  rw [after]
  split_ifs with igmp heard heard
  · exact absurd igmp heard.1
  · exact present
  · rw [heard.2, Function.update_self, present]
    rfl
  · rw [Function.update_of_ne fun same => heard ⟨igmp, same.symm⟩, present]

end Service

/-! ## The agent keeps the service -/

def MCGroupMember.subscriber (mcgm : MCGroupMember) : Subscriber :=
  { mac := ethAddressOf mcgm.destMac, ip := mcgm.destIp }

structure Mirrors (mcg : MCGroup) (session : Session) (channel : Channel) : Prop where
  sport : channel.sport = mcg.sudpport
  dport : channel.dport = mcg.dudpport
  classd : channel.classd = mcg.isClassd
  subscribers : channel.subscribers.Perm (session.members.toList.map fun entry => (entry.1, entry.2.subscriber))
  ports : ∀ entry ∈ session.members, entry.2.udpPort = mcg.dudpport

structure Represents (app : MulticastGroupMembershipApp) (service : Service) : Prop where
  stored : ∀ mcg session, (mcg, session) ∈ app.multicastSessionStore →
    ∃ channel, service mcg.groupip = some channel ∧ Mirrors mcg session channel
  known : ∀ ip channel, service ip = some channel →
    ∃ mcg session, (mcg, session) ∈ app.multicastSessionStore ∧ mcg.groupip = ip

namespace Mirrors
open MulticastGroupMembershipApp

variable {mcg : MCGroup} {session : Session} {channel : Channel} {pk : PacketInDataHeader} {mcgm : MCGroupMember}
  {xid : BitVec 32}

theorem mem_subscribers (mirrors : Mirrors mcg session channel) {i : BitVec 16} {subscriber : Subscriber} :
    (i, subscriber) ∈ channel.subscribers ↔
      ∃ mcgm, session.members.lookup i = some mcgm ∧ mcgm.subscriber = subscriber := by
  rw [mirrors.subscribers.mem_iff, List.mem_map]
  constructor
  · rintro ⟨entry, member, same⟩
    obtain ⟨rfl, rfl⟩ := Prod.mk.inj same
    exact ⟨entry.2, Session.lookup_members.mpr member, rfl⟩
  · rintro ⟨mcgm, found, rfl⟩
    exact ⟨(i, mcgm), Session.lookup_members.mp found, rfl⟩

theorem unsubscribed_iff (mirrors : Mirrors mcg session channel) {i : BitVec 16} :
    (∀ entry ∈ channel.subscribers, entry.1 ≠ i) ↔ session.members.lookup i = none := by
  constructor
  · intro none
    by_contra found
    obtain ⟨mcgm, found⟩ := Option.ne_none_iff_exists'.mp found
    exact none _ (mirrors.mem_subscribers.mpr ⟨mcgm, found, rfl⟩) rfl
  · rintro absent ⟨j, subscriber⟩ member rfl
    obtain ⟨mcgm, found, -⟩ := mirrors.mem_subscribers.mp member
    rw [absent] at found
    cases found

theorem hear_join (mirrors : Mirrors mcg session channel) (flag : memberFlag mcg pk = 1) :
    channel.hear pk = channel.subscribe pk.inIntf pk.joiner := by
  obtain ⟨join, notLeave⟩ := (memberFlag_eq_one mcg pk).mp flag
  rw [Channel.hear, mirrors.sport, mirrors.dport, if_neg notLeave, if_pos join]

theorem hear_leave (mirrors : Mirrors mcg session channel) (flag : memberFlag mcg pk = 2) :
    channel.hear pk = channel.unsubscribe pk.inIntf := by
  rw [Channel.hear, mirrors.sport, mirrors.dport, if_pos ((memberFlag_eq_two mcg pk).mp flag)]

theorem hear_other (mirrors : Mirrors mcg session channel) (flag : memberFlag mcg pk = 0) :
    channel.hear pk = channel := by
  have notLeave : memberFlag mcg pk ≠ 2 := by
    rw [flag]
    decide
  have notJoin : memberFlag mcg pk ≠ 1 := by
    rw [flag]
    decide
  rw [Ne, memberFlag_eq_two] at notLeave
  rw [Ne, memberFlag_eq_one] at notJoin
  rw [Channel.hear, mirrors.sport, mirrors.dport, if_neg notLeave, if_neg fun join => notJoin ⟨join, notLeave⟩]

theorem opened (mcg : MCGroup) (gen : Generators) : Mirrors mcg (openSession mcg gen)
    { sport := mcg.sudpport, dport := mcg.dudpport, classd := mcg.isClassd, subscribers := [] } where
  sport := rfl
  dport := rfl
  classd := rfl
  subscribers := List.Perm.nil
  ports := fun _ member => absurd member List.not_mem_nil

theorem joined (mirrors : Mirrors mcg session channel) (flag : memberFlag mcg pk = 1)
    (absent : session.members.lookup pk.inIntf = none) :
    Mirrors mcg (session.joined mcg pk xid) (channel.hear pk) := by
  have perm : (session.joined mcg pk xid).members.toList.Perm _ := Session.members_joined absent xid
  rw [mirrors.hear_join flag, Channel.subscribe, if_pos (mirrors.unsubscribed_iff.mpr absent)]
  refine { sport := mirrors.sport, dport := mirrors.dport, classd := mirrors.classd, subscribers := ?_, ports := ?_ }
  · have mapped := perm.map fun entry => (entry.1, entry.2.subscriber)
    exact (List.perm_append_singleton _ _).trans ((mirrors.subscribers.cons _).trans mapped.symm)
  · intro entry member
    rcases List.mem_cons.mp (perm.mem_iff.mp member) with rfl | old
    · exact ((memberFlag_eq_one mcg pk).mp flag).1.2
    · exact mirrors.ports entry old

theorem unanswered (mirrors : Mirrors mcg session channel) (quiet : ¬ Answers mcg session pk) :
    Mirrors mcg session (channel.hear pk) := by
  unfold Answers at quiet
  rcases memberFlag_cases mcg pk with flag | flag | flag
  · rwa [mirrors.hear_other flag]
  · have present : session.members.lookup pk.inIntf ≠ none := fun absent => quiet (Or.inl ⟨flag, absent⟩)
    rwa [mirrors.hear_join flag, Channel.subscribe, if_neg fun none => present (mirrors.unsubscribed_iff.mp none)]
  · have absent : session.members.lookup pk.inIntf = none := by
      by_contra present
      exact quiet (Or.inr ⟨flag, present⟩)
    have all : (channel.subscribers.filter fun entry => entry.1 ≠ pk.inIntf) = channel.subscribers := by
      rw [List.filter_eq_self]
      exact fun entry member => decide_eq_true (mirrors.unsubscribed_iff.mpr absent entry member)
    rwa [mirrors.hear_leave flag, Channel.unsubscribe, all]

end Mirrors

namespace Represents
open MulticastGroupMembershipApp

variable {app app' : MulticastGroupMembershipApp} {service : Service} {mcg : MCGroup} {session : Session}
  {channel : Channel} {pk : PacketInDataHeader} {ip : BitVec 32}

theorem noGroup_iff (represents : Represents app service) : app.NoGroup ip ↔ service ip = none := by
  constructor
  · intro absent
    by_contra present
    obtain ⟨channel, present⟩ := Option.ne_none_iff_exists'.mp present
    obtain ⟨mcg, session, stored, same⟩ := represents.known ip channel present
    exact absent (mcg, session) stored same
  · rintro absent ⟨mcg, session⟩ stored rfl
    obtain ⟨channel, present, -⟩ := represents.stored mcg session stored
    rw [absent] at present
    cases present

theorem put (represents : Represents app service)
    (members : ∀ mcg' session', (mcg', session') ∈ app'.multicastSessionStore ↔
      mcg' = mcg ∧ session' = session ∨ mcg'.groupip ≠ mcg.groupip ∧ (mcg', session') ∈ app.multicastSessionStore)
    (mirrors : Mirrors mcg session channel) :
    Represents app' (Function.update service mcg.groupip (some channel)) where
  stored := by
    intro mcg' session' member
    rcases (members mcg' session').mp member with ⟨rfl, rfl⟩ | ⟨different, old⟩
    · exact ⟨channel, Function.update_self .., mirrors⟩
    · rw [Function.update_of_ne different]
      exact represents.stored mcg' session' old
  known := by
    intro ip channel' present
    by_cases same : ip = mcg.groupip
    · exact ⟨mcg, session, (members mcg session).mpr (Or.inl ⟨rfl, rfl⟩), same.symm⟩
    · rw [Function.update_of_ne same] at present
      obtain ⟨mcg', session', old, rfl⟩ := represents.known ip channel' present
      exact ⟨mcg', session', (members mcg' session').mpr (Or.inr ⟨same, old⟩), rfl⟩

theorem createNewGroup (represents : Represents app service) (ip : BitVec 32) (upIntf sport dport : BitVec 16)
    (classd isRoot : Bool) : Represents (app.createNewGroup ip upIntf sport dport classd isRoot).1
      (service.offer ip { sport := sport, dport := dport, classd := classd, subscribers := [] }) := by
  by_cases absent : app.NoGroup ip
  · have mirrors := Mirrors.opened (MCGroup.create app.gen ip upIntf sport dport classd isRoot).1
      (MCGroup.create app.gen ip upIntf sport dport classd isRoot).2
    rw [createNewGroup_new absent, Service.offer_new (represents.noGroup_iff.mp absent)]
    apply represents.put _ mirrors
    intro mcg' session'
    rw [mem_opened (lookup_none_iff.mpr absent), or_comm]
    apply or_congr_right
    exact ⟨fun old => ⟨absent _ old, old⟩, And.right⟩
  · have present : ¬ (service ip).isNone = true := fun missing =>
      absent (represents.noGroup_iff.mpr (Option.isNone_iff_eq_none.mp missing))
    rw [createNewGroup_known absent, Service.offer, if_neg present]
    exact { represents with }

theorem setSession {session₀ : Session} {gen : Generators} (represents : Represents app service)
    (addressed : app.Addressed pk mcg session₀)
    (heard : ∀ channel, Mirrors mcg session₀ channel → Mirrors mcg session (channel.hear pk)) :
    Represents (app.setSession mcg session gen) (service.after (.packet pk)) := by
  obtain ⟨channel, present, mirrors⟩ := represents.stored mcg session₀ addressed.stored
  rw [Service.after, if_neg addressed.udp, ← addressed.address, present]
  exact represents.put (fun _ _ => mem_setSession addressed.stored) (heard channel mirrors)

theorem packet (represents : Represents app service) {sent : List Message} (acts : Acts app (.packet pk) (.ok app') sent) :
    Represents app' (service.after (.packet pk)) := by
  cases acts with
  | @nothing _ gen _ quiet =>
      by_cases igmp : pk.protocol = protocolTypeIgmp
      · rw [Service.after, if_pos igmp]
        exact { represents with }
      · rcases addressee_cases app pk with ⟨mcg, session, stored, address⟩ | unknown
        · have addressed : app.Addressed pk mcg session := ⟨igmp, stored, address⟩
          rw [← setSession_self stored]
          exact represents.setSession addressed fun _ mirrors => mirrors.unanswered (quiet pk mcg session rfl addressed)
        · rw [Service.after, if_neg igmp, represents.noGroup_iff.mp unknown, Option.map_none,
            ← represents.noGroup_iff.mp unknown, Function.update_eq_self]
          exact { represents with }
  | opened notPacket => exact absurd rfl (notPacket pk)
  | joined _ addressed flag absent =>
      exact represents.setSession addressed fun _ mirrors => mirrors.joined flag absent

theorem step (represents : Represents app service) (good : app.Good) {event : Event} (steps : app.Steps event app') :
    Represents app' (service.after event) := by
  cases event with
  | newGroup ip upIntf sport dport classd isRoot =>
      cases steps
      exact represents.createNewGroup ip upIntf sport dport classd isRoot
  | newSession sip dip sport dport upIntf isRoot =>
      have created : (app.createSession sip dip sport dport upIntf isRoot).1 = app' := Except.ok.inj steps
      rw [← created]
      simp only [createSession, Service.after]
      split_ifs
      · exact represents
      · exact represents.createNewGroup sip upIntf sport dport false (isRoot != 0)
  | packet pk =>
      have acts := step_acts good (.packet pk)
      rw [steps] at acts
      exact represents.packet acts

theorem of_empty (empty : app.multicastSessionStore = .empty) : Represents app Service.none where
  stored := by
    intro mcg session stored
    rw [empty] at stored
    exact absurd stored List.not_mem_nil
  known := fun _ _ present => absurd present (by simp [Service.none])

end Represents

end Libfluid.Multicast
