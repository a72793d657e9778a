import Libfluid.Multicast.Broadcast
import Libfluid.Multicast.Frames

namespace Libfluid.Multicast
open Library Switch Controller MulticastGroupMembershipApp

variable {frame : Frame} {port : BitVec 32} {maxLen : BitVec 16}

structure WireNetwork (ν : Type*) extends TreeNetwork ν where
  ofconn : ν → OFConnection
  dpid : ν → BitVec 64
  version : ∀ n, (ofconn n).version = Of13.ofpVersion

structure WireState (ν : Type*) where
  agents : ν → ConnectedApp
  switches : ν → Option ReferenceSwitch
  inFlight : ν → List Frame

inductive WireEvent (ν : Type*)
  | host (n : ν) (port : BitVec 32) (frame : Frame) (handover : Handover)
  | delivery (child : ν) (handover : Handover)

def WireState.take {ν : Type*} [DecidableEq ν] (state : WireState ν) (child : ν) (rest : List Frame) : WireState ν :=
  { state with inFlight := Function.update state.inFlight child rest }

namespace WireNetwork

section Definitions

variable {ν : Type*} [DecidableEq ν] (network : WireNetwork ν)

def start : WireState ν where
  agents := fun n =>
    { toMulticastGroupMembershipApp := network.toTreeNetwork.start.tree.agents n
      ofconn := some (network.ofconn n), dpid := network.dpid n }
  switches := network.toTreeNetwork.start.switches
  inFlight := fun _ => []

def handUp (state : WireState ν) (n : ν) (port : BitVec 32) (frame : Frame) (handover : Handover)
    (egress : Egress) : Except Fault (WireState ν) :=
  let (agent, sent) := (state.agents n).eventCallback
    (.packetIn (network.ofconn n) (handover.packetIn port frame egress.maxLen))
  let messages := messagesOn (network.ofconn n) sent
  agent.map fun agent =>
    { agents := Function.update state.agents n agent
      switches := Function.update state.switches n
        ((state.switches n).bind fun switch => switch.executeAll messages)
      inFlight := Function.update state.inFlight n (state.inFlight n ++
        messages.flatMap (Message.framesOn ((network.upstream n).setWidth 32) (handover.buffered frame))) }

/-- The copies that a switch makes of data are for hosts and for switches below, which send no request up. -/
def Arrives (state : WireState ν) (n : ν) (port : BitVec 32) (frame : Frame) (handover : Handover)
    (result : Except Fault (WireState ν)) : Prop :=
  ∃ switch out, state.switches n = some switch ∧ switch.Forwards port (.ofFrame frame) out ∧
    result = (out.filter fun egress => egress.port = ofppController).foldlM
      (fun state egress => network.handUp state n port frame handover egress) state

inductive Brings : WireState ν → WireEvent ν → WireState ν → ν → BitVec 32 → Frame → Handover → Prop
  | host {state : WireState ν} {n : ν} {port : BitVec 32} {frame : Frame} {handover : Handover} :
      (∀ child, network.parent child = some n → (network.link child).setWidth 32 ≠ port) →
      Brings state (.host n port frame handover) state n port frame handover
  | delivery {state : WireState ν} {child up : ν} {frame : Frame} {rest : List Frame} {handover : Handover} :
      network.parent child = some up → state.inFlight child = frame :: rest →
      Brings state (.delivery child handover) (state.take child rest) up ((network.link child).setWidth 32) frame
        handover

def Steps (state : WireState ν) (event : WireEvent ν) (next : WireState ν) : Prop :=
  ∃ taken n port frame handover, network.Brings state event taken n port frame handover ∧
    network.Arrives taken n port frame handover (.ok next)

def Faults (state : WireState ν) (event : WireEvent ν) : Prop :=
  ∃ taken n port frame handover fault, network.Brings state event taken n port frame handover ∧
    network.Arrives taken n port frame handover (.error fault)

/-- The frame comes from the interface of a member of its group, and by its ports it is a leave. -/
def LeavesMember (state : WireState ν) (event : WireEvent ν) : Prop :=
  ∃ taken n port frame handover, network.Brings state event taken n port frame handover ∧ Relevant frame ∧
    (state.agents n).LeavesMember (.packet (headerAt (handover.packetIn port frame 512)))

def Spreads (state : WireState ν) : ν → DataPacket → List (ν × Egress) → Prop :=
  network.toTreeNetwork.Spreads { network.toTreeNetwork.start with switches := state.switches }

def requestedBy (frame : Frame) (subscriber : Option Subscriber) : Option Subscriber :=
  let usrcPort := word16At frame (transportStart frame)
  let udstPort := word16At frame (transportStart frame + 2)
  if usrcPort = network.dport ∧ udstPort = network.sport then none
  else if usrcPort = network.sport ∧ udstPort = network.dport then
    some (subscriber.getD { mac := ethAddressAt frame 6, ip := word32At frame 26 })
  else subscriber

def Requests (frame : Frame) : Prop :=
  word16At frame 12 = ethTypeIp ∧ byteAt frame 23 = ipTypeUdp ∧ word32At frame 30 = network.ip

instance (frame : Frame) : Decidable (network.Requests frame) := inferInstanceAs (Decidable (_ ∧ _))

def subscribedAfter (n : ν) (i : BitVec 16) (subscriber : Option Subscriber) : WireEvent ν → Option Subscriber
  | .host m port frame _ =>
      if m = n ∧ port = i.setWidth 32 ∧ network.Requests frame then network.requestedBy frame subscriber
      else subscriber
  | .delivery .. => subscriber

def subscription (events : List (WireEvent ν)) (n : ν) (i : BitVec 16) : Option Subscriber :=
  events.foldl (network.subscribedAfter n i) none

end Definitions

/-- The ports fit a byte, no frame comes from above, and no group sends from the address of a subscriber. -/
structure Proper {ν : Type*} (network : WireNetwork ν) (events : List (WireEvent ν)) : Prop where
  unicast : network.classd = false
  links : ∀ child up, network.parent child = some up →
    (network.link child).toNat < 256 ∧ network.link child ≠ network.upstream up
  hosts : ∀ n port frame handover, .host n port frame handover ∈ events →
    port.toNat < 256 ∧ port ≠ (network.upstream n).setWidth 32 ∧ WellFormed frame ∧
      (Relevant frame → ¬ network.Address (word32At frame 26))
  within : ∀ n, (network.history n).length + 1 + events.length < 2 ^ 32

theorem Proper.links_widened {ν : Type*} {network : WireNetwork ν} {events : List (WireEvent ν)} {child up : ν}
    (proper : network.Proper events) (edge : network.parent child = some up) :
    ((network.link child).setWidth 32 : BitVec 32).toNat < 256 ∧
      (network.link child).setWidth 32 ≠ ((network.upstream up).setWidth 32 : BitVec 32) := by
  obtain ⟨small, other⟩ := proper.links child up edge
  rw [BitVec.toNat_setWidth_of_le (by decide)]
  exact ⟨small, fun same => other (Session.setWidth_injective same)⟩

end WireNetwork

/-! ## A frame at a switch -/

namespace WireNetwork

variable {ν : Type*} [DecidableEq ν] {network : WireNetwork ν} {events : List (WireEvent ν)} {event : WireEvent ν}
  {treeEvents : List (TreeEvent ν)} {wire next : WireState ν} {state : NetworkState ν} {services : ν → Service}
  {n : ν} {handover : Handover} {egress : Egress} {channel : Channel}

def agentOn (network : WireNetwork ν) (n : ν) (agent : MulticastGroupMembershipApp) : ConnectedApp where
  toMulticastGroupMembershipApp := agent
  ofconn := some (network.ofconn n)
  dpid := network.dpid n

structure Simulates (network : WireNetwork ν) (wire : WireState ν) (state : NetworkState ν) : Prop where
  agents : ∀ n, wire.agents n = network.agentOn n (state.tree.agents n)
  switches : wire.switches = state.switches
  inFlight : ∀ n, List.Forall₂ Carries (wire.inFlight n) (state.tree.inFlight n)

omit [DecidableEq ν] in
theorem eventCallback_packetIn (network : WireNetwork ν) (n : ν) (port : BitVec 32) (handover : Handover)
    (agent : MulticastGroupMembershipApp) (readable : Readable frame)
    (enough : 86 ≤ maxLen.toNat) :
    (network.agentOn n agent).eventCallback (.packetIn (network.ofconn n) (handover.packetIn port frame maxLen)) =
      if Relevant frame then
        ((agent.handlePacketIn (headerAt (handover.packetIn port frame maxLen))).1.map (network.agentOn n),
          ((agent.handlePacketIn (headerAt (handover.packetIn port frame maxLen))).2.map Outgoing.message).map
            fun m => (network.ofconn n, m))
      else (.ok (network.agentOn n agent), []) := by
  have accepted : ConnectedApp.Accepted (network.agentOn n agent) (network.ofconn n) := by
    refine ⟨?_, network.version n⟩
    rw [ConnectedApp.accepts_some rfl, beq_self_eq_true]
  have read := handover.readHeader_packetIn port readable enough
  by_cases relevant : Relevant frame
  · rw [if_pos relevant] at read ⊢
    rw [accepted.eventCallback_some read, ConnectedApp.perform_some rfl]
    rfl
  · rw [if_neg relevant] at read ⊢
    exact accepted.eventCallback_none read

theorem handUp_ignored (simulates : network.Simulates wire state) (readable : Readable frame)
    (enough : 86 ≤ egress.maxLen.toNat) (other : ¬ Relevant frame) :
    network.handUp wire n port frame handover egress = .ok wire := by
  have called := eventCallback_packetIn network n port handover (state.tree.agents n) readable enough
  rw [if_neg other, ← simulates.agents n] at called
  have switches : Function.update wire.switches n ((wire.switches n).bind fun switch => switch.executeAll []) =
      wire.switches := by
    have same : (wire.switches n).bind (fun switch => switch.executeAll []) = wire.switches n := Option.bind_fun_some _
    rw [same, Function.update_eq_self]
  have inFlight : Function.update wire.inFlight n (wire.inFlight n ++ []) = wire.inFlight := by
    rw [List.append_nil, Function.update_eq_self]
  rw [handUp, called]
  show Except.ok (WireState.mk (Function.update wire.agents n (wire.agents n))
    (Function.update wire.switches n ((wire.switches n).bind fun switch => switch.executeAll []))
    (Function.update wire.inFlight n (wire.inFlight n ++ []))) = .ok wire
  rw [Function.update_eq_self, switches, inFlight]

theorem handUp_relevant (simulates : network.Simulates wire state) (readable : Readable frame)
    (relevant : Relevant frame) (enough : 86 ≤ egress.maxLen.toNat) :
    network.handUp wire n port frame handover egress =
      let pk := headerAt (handover.packetIn port frame egress.maxLen)
      let answer := (state.tree.agents n).handlePacketIn pk
      answer.1.map fun agent =>
        { agents := Function.update wire.agents n (network.agentOn n agent)
          switches := Function.update wire.switches n ((wire.switches n).bind fun switch => switch.executeAll answer.2)
          inFlight := Function.update wire.inFlight n (wire.inFlight n ++
            answer.2.flatMap (Message.framesOn ((network.upstream n).setWidth 32) (handover.buffered frame))) } := by
  have called := eventCallback_packetIn network n port handover (state.tree.agents n) readable enough
  rw [if_pos relevant] at called
  rw [handUp, simulates.agents n, called]
  simp only [messagesOn_perform]
  cases ((state.tree.agents n).handlePacketIn (headerAt (handover.packetIn port frame egress.maxLen))).1 <;> rfl

theorem handUp_simulates (handover : Handover) (simulates : network.Simulates wire state)
    (good : (state.tree.agents n).Good)
    (wellFormed : WellFormed frame) (relevant : Relevant frame) (narrow : port.toNat < 256)
    (apart : port ≠ (network.upstream n).setWidth 32) (enough : 86 ≤ egress.maxLen.toNat)
    (handled : network.handUp wire n port frame handover egress = .ok next) :
    ∃ state', network.toTreeNetwork.handle state state.tree n (headerAt (handover.packetIn port frame egress.maxLen)) =
      .ok state' ∧ network.Simulates next state' := by
  have carries : Carries frame (headerAt (handover.packetIn port frame egress.maxLen)) :=
    Carries.of_handover wellFormed relevant enough
  have sent := framesOn_sent (headerAt (handover.packetIn port frame egress.maxLen)) good narrow apart enough rfl
  rw [handUp_relevant simulates wellFormed.readable relevant enough] at handled
  obtain ⟨agent, answered, rfl⟩ := map_eq_ok.mp handled
  refine ⟨_, TreeNetwork.handle_ok answered, ?_⟩
  constructor
  case agents =>
    intro m
    by_cases same : m = n
    · subst same
      simp only [Function.update_self]
    · simp only [Function.update_of_ne same]
      exact simulates.agents m
  case switches => simp only [simulates.switches]
  case inFlight =>
    intro m
    by_cases same : m = n
    · subst same
      simp only [Function.update_self]
      rw [sent]
      refine List.rel_append (simulates.inFlight m) ?_
      rw [List.forall₂_map_left_iff, List.forall₂_same]
      intro pk member
      rw [mem_forwarded member]
      exact carries
    · simp only [Function.update_of_ne same]
      exact simulates.inFlight m

/-! ## Frames and requests -/

def handedUp (frame : Frame) : Egress := { port := ofppController, maxLen := 512, packet := .ofFrame frame }

theorem hook_enough : 86 ≤ (512 : BitVec 16).toNat := by decide

theorem eq_widened_iff {i : BitVec 16} (narrow : port.toNat < 256) : port = i.setWidth 32 ↔ port.setWidth 16 = i := by
  constructor
  · rintro rfl
    exact BitVec.setWidth_setWidth_of_le i (by decide)
  · rintro rfl
    apply BitVec.eq_of_toNat_eq
    simp only [BitVec.toNat_setWidth]
    omega

theorem portOf_ne_controller (i : BitVec 16) : portOf i ≠ ofppController := by
  intro same
  have byte : (portOf i).toNat < 256 := by
    simp only [portOf, BitVec.toNat_setWidth]
    omega
  rw [same] at byte
  exact absurd byte (by decide)

theorem controller_forward {service : Service} (narrow : port.toNat < 256) :
    ((service.forward port (.ofFrame frame)).filter fun egress => egress.port = ofppController) =
      if (service (word32At frame 30)).any fun channel => channel.Catches (.ofFrame frame) then [handedUp frame]
      else [] := by
  have apart : ofppController ≠ port := by
    intro same
    rw [← same] at narrow
    exact absurd narrow (by decide)
  have copies : service.copies (.ofFrame frame) =
      if (service (word32At frame 30)).any fun channel => channel.Catches (.ofFrame frame) then [handedUp frame]
      else ((service (word32At frame 26)).filter fun channel => channel.Carries (.ofFrame frame)).elim []
        fun channel => channel.subscribers.map (DataPacket.ofFrame frame).copyFor := rfl
  rw [Service.forward, copies]
  split_ifs with caught
  · simp [apart, handedUp]
  · rw [List.filter_filter, List.filter_eq_nil_iff]
    intro egress member chosen
    simp only [Bool.and_eq_true, decide_eq_true_eq] at chosen
    cases carried : (service (word32At frame 26)).filter fun channel => channel.Carries (.ofFrame frame) with
    | none =>
        rw [carried] at member
        cases member
    | some channel =>
        rw [carried] at member
        obtain ⟨⟨i, subscriber⟩, -, rfl⟩ := List.mem_map.mp member
        exact portOf_ne_controller i chosen.1

theorem arrives_cases {result : Except Fault (WireState ν)} (simulates : network.Simulates wire state)
    (drives : ∃ switch, state.switches n = some switch ∧ Follows (state.tree.agents n) switch (services n))
    (narrow : port.toNat < 256) (arrives : network.Arrives wire n port frame handover result) :
    (services n (word32At frame 30)).any (fun channel => channel.Catches (.ofFrame frame)) = true ∧
        result = network.handUp wire n port frame handover (handedUp frame) ∨
      (services n (word32At frame 30)).any (fun channel => channel.Catches (.ofFrame frame)) = false ∧
        result = .ok wire := by
  obtain ⟨switch, out, on, forwards, rfl⟩ := arrives
  obtain ⟨switch', on', follows⟩ := drives
  rw [← simulates.switches, on, Option.some_inj] at on'
  subst on'
  have perm := ((follows.forwards port (.ofFrame frame)).2 out forwards).filter
    fun egress => egress.port = ofppController
  rw [controller_forward narrow] at perm
  cases caught : (services n (word32At frame 30)).any fun channel => channel.Catches (.ofFrame frame) with
  | true =>
      rw [caught, if_pos rfl, List.perm_singleton] at perm
      rw [perm, List.foldlM_cons]
      exact Or.inl ⟨rfl, bind_pure _⟩
  | false =>
      rw [caught, if_neg Bool.false_ne_true, List.perm_nil] at perm
      rw [perm]
      exact Or.inr ⟨rfl, rfl⟩

theorem exists_arrives (simulates : network.Simulates wire state)
    (drives : ∃ switch, state.switches n = some switch ∧ Follows (state.tree.agents n) switch (services n)) :
    ∃ result, network.Arrives wire n port frame handover result := by
  obtain ⟨switch, on, follows⟩ := drives
  obtain ⟨⟨out, forwards⟩, -⟩ := follows.forwards port (.ofFrame frame)
  rw [← simulates.switches] at on
  exact ⟨_, switch, out, on, forwards, rfl⟩

omit [DecidableEq ν] in
theorem caught_of_known (known : services n (word32At frame 30) = some channel) (ip : word16At frame 12 = ethTypeIp)
    (udp : byteAt frame 23 = ipTypeUdp) :
    (services n (word32At frame 30)).any (fun channel => channel.Catches (.ofFrame frame)) = true := by
  rw [known, Option.any_some, decide_eq_true_eq]
  exact ⟨ip, fun _ => udp⟩

theorem caught_of_requests (serving : network.Serving treeEvents state services) (requests : network.Requests frame) :
    (services n (word32At frame 30)).any (fun channel => channel.Catches (.ofFrame frame)) = true := by
  obtain ⟨ip, udp, dst⟩ := requests
  obtain ⟨channel, known, -⟩ := serving.channels n
  rw [← dst] at known
  exact caught_of_known known ip udp

theorem arrives_of_caught (simulates : network.Simulates wire state)
    (drives : ∃ switch, state.switches n = some switch ∧ Follows (state.tree.agents n) switch (services n))
    (narrow : port.toNat < 256)
    (caught : (services n (word32At frame 30)).any (fun channel => channel.Catches (.ofFrame frame)) = true) :
    network.Arrives wire n port frame handover (network.handUp wire n port frame handover (handedUp frame)) := by
  obtain ⟨result, arrives⟩ : ∃ result, network.Arrives wire n port frame handover result :=
    exists_arrives simulates drives
  rcases arrives_cases simulates drives narrow arrives with ⟨-, rfl⟩ | ⟨passed, -⟩
  · exact arrives
  · cases caught.symm.trans passed

theorem arrives_faults_iff (simulates : network.Simulates wire state)
    (drives : ∃ switch, state.switches n = some switch ∧ Follows (state.tree.agents n) switch (services n))
    (wellFormed : WellFormed frame) (narrow : port.toNat < 256) :
    (∃ fault, network.Arrives wire n port frame handover (.error fault)) ↔
      Relevant frame ∧ (wire.agents n).LeavesMember (.packet (headerAt (handover.packetIn port frame 512))) := by
  have handUp (relevant : Relevant frame) :
      (∃ fault, network.handUp wire n port frame handover (handedUp frame) = .error fault) ↔
        (wire.agents n).LeavesMember (.packet (headerAt (handover.packetIn port frame 512))) := by
    rw [handUp_relevant simulates wellFormed.readable relevant hook_enough, simulates.agents n]
    simp only [map_eq_error]
    show MulticastGroupMembershipApp.Faults _ (.packet _) ↔ _
    exact MulticastGroupMembershipApp.faults_iff
  constructor
  · rintro ⟨fault, arrives⟩
    rcases arrives_cases simulates drives narrow arrives with ⟨-, handled⟩ | ⟨-, same⟩
    · by_cases relevant : Relevant frame
      · exact ⟨relevant, (handUp relevant).mp ⟨fault, handled.symm⟩⟩
      · rw [handUp_ignored simulates wellFormed.readable hook_enough relevant] at handled
        cases handled
    · cases same
  · rintro ⟨relevant, leaves⟩
    obtain ⟨fault, failed⟩ := (handUp relevant).mpr leaves
    refine ⟨fault, ?_⟩
    rw [← failed]
    apply arrives_of_caught simulates drives narrow
    have carries : Carries frame (headerAt (handover.packetIn port frame 512)) :=
      Carries.of_handover wellFormed relevant hook_enough
    obtain ⟨pk, same, udp, mcg, session, stored, address, -⟩ := leaves
    cases same
    obtain ⟨switch, -, follows⟩ := drives
    rw [simulates.agents n] at stored
    obtain ⟨channel, known, -⟩ := follows.represents.stored mcg session stored
    rw [address, carries.dip] at known
    exact caught_of_known known relevant.1 (carries.udp_iff.mp udp)

theorem Simulates.take {rest : List Frame} {packets : List PacketInDataHeader}
    (simulates : network.Simulates wire state) (child : ν) (frames : List.Forall₂ Carries rest packets) :
    network.Simulates (wire.take child rest) { state with tree := state.tree.take child packets } where
  agents := simulates.agents
  switches := simulates.switches
  inFlight := by
    intro m
    by_cases same : m = child
    · subst same
      simp only [WireState.take, TreeState.take, Function.update_self]
      exact frames
    · simp only [WireState.take, TreeState.take, Function.update_of_ne same]
      exact simulates.inFlight m

theorem serving_drop {child : ν} {pk : PacketInDataHeader} {packets : List PacketInDataHeader}
    (serving : network.Serving treeEvents state services) (queue : state.tree.inFlight child = pk :: packets)
    (other : ¬ (pk.protocol ≠ protocolTypeIgmp ∧ pk.dip = network.ip)) :
    network.Serving treeEvents { state with tree := state.tree.take child packets } services := by
  have unasked (mflag : BitVec 8) : ¬ Asks (network.toTreeSession.group child) mflag pk := fun asks =>
    other ⟨asks.1, asks.2.1⟩
  refine { serving with settled := ⟨serving.settled.good, serving.settled.stored, ?_⟩, travelling := ?_ }
  · intro child' up edge
    have link := serving.settled.links child' up edge
    by_cases same : child' = child
    · subst same
      simp only [TreeState.take, Function.update_self]
      rw [queue, AfterDelivery, Written] at link
      rw [AfterDelivery]
      simpa [unasked] using link
    · simp only [TreeState.take, Function.update_of_ne same]
      exact link
  · intro m pk' member
    exact serving.travelling m pk' (TreeState.mem_take queue member)

structure Tracks (network : WireNetwork ν) (events : List (WireEvent ν)) (wire : WireState ν)
    (treeEvents : List (TreeEvent ν)) (state : NetworkState ν) (services : ν → Service) : Prop where
  simulates : network.Simulates wire state
  serving : network.toTreeNetwork.Serving treeEvents state services
  proper : network.toTreeNetwork.Proper treeEvents
  shorter : treeEvents.length ≤ events.length
  recorded : ∀ n i, network.toTreeNetwork.subscription treeEvents n i = network.subscription events n i

theorem subscription_snoc {i : BitVec 16} : network.subscription (events ++ [event]) n i =
    network.subscribedAfter n i (network.subscription events n i) event := by
  rw [subscription, List.foldl_append]
  rfl

namespace Tracks

theorem silent (tracks : network.Tracks events wire treeEvents state services)
    (same : ∀ n i subscriber, network.subscribedAfter n i subscriber event = subscriber) :
    network.Tracks (events ++ [event]) wire treeEvents state services where
  simulates := tracks.simulates
  serving := tracks.serving
  proper := tracks.proper
  shorter := by
    rw [List.length_append]
    exact Nat.le_add_right_of_le tracks.shorter
  recorded := by
    intro n i
    rw [tracks.recorded, subscription_snoc, same]

theorem follow {treeEvent : TreeEvent ν} {state' : NetworkState ν}
    (tracks : network.Tracks events wire treeEvents state services)
    (simulates : network.Simulates next state') (step : network.toTreeNetwork.Steps state treeEvent state')
    (within : ∀ n, (network.history n).length + 1 + (events ++ [event]).length < 2 ^ 32)
    (host : ∀ n pk, treeEvent = .host n pk →
      pk.inIntf.toNat < 256 ∧ pk.inIntf ≠ network.upstream n ∧ ¬ network.Address pk.sip)
    (same : ∀ n i subscriber, network.toTreeNetwork.subscribedAfter n i subscriber treeEvent =
      network.subscribedAfter n i subscriber event) :
    ∃ services', network.Tracks (events ++ [event]) next (treeEvents ++ [treeEvent]) state' services' := by
  have longer : (treeEvents ++ [treeEvent]).length ≤ (events ++ [event]).length := by
    rw [List.length_append, List.length_append, List.length_singleton, List.length_singleton]
    exact Nat.succ_le_succ tracks.shorter
  have proper : network.toTreeNetwork.Proper (treeEvents ++ [treeEvent]) := by
    refine { unicast := tracks.proper.unicast, links := tracks.proper.links, hosts := ?_, within := ?_ }
    · intro n pk member
      rcases List.mem_append.mp member with old | new
      · exact tracks.proper.hosts n pk old
      · exact host n pk (List.mem_singleton.mp new).symm
    · intro n
      exact (Nat.add_le_add_left longer _).trans_lt (within n)
  obtain ⟨services', serving⟩ := TreeNetwork.step_serving tracks.serving step proper
  refine ⟨services', simulates, serving, proper, longer, ?_⟩
  intro n i
  rw [TreeNetwork.subscription_snoc, subscription_snoc, tracks.recorded, same]

omit [DecidableEq ν] in
theorem requested_eq {pk : PacketInDataHeader} (carries : Carries frame pk) (subscriber : Option Subscriber) :
    (if pk.protocol ≠ protocolTypeIgmp ∧ pk.dip = network.ip then
      Channel.requested network.sport network.dport subscriber pk else subscriber) =
    if network.Requests frame then network.requestedBy frame subscriber else subscriber := by
  have asks : pk.protocol ≠ protocolTypeIgmp ∧ pk.dip = network.ip ↔ network.Requests frame := by
    rw [carries.udp_iff, carries.dip, Requests]
    exact (and_iff_right carries.relevant.1).symm
  by_cases requests : network.Requests frame
  · rw [if_pos requests, if_pos (asks.mpr requests)]
    obtain ⟨usrcPort, udstPort⟩ := carries.ports requests.2.1
    rw [Channel.requested, requestedBy, usrcPort, udstPort, carries.joiner]
  · rw [if_neg requests, if_neg (mt asks.mp requests)]

theorem host_step (tracks : network.Tracks events wire treeEvents state services)
    (proper : network.Proper (events ++ [.host n port frame handover]))
    (outside : ∀ child, network.parent child = some n → (network.link child).setWidth 32 ≠ port)
    (arrives : network.Arrives wire n port frame handover (.ok next)) :
    ∃ treeEvents' state' services',
      network.Tracks (events ++ [.host n port frame handover]) next treeEvents' state' services' := by
  obtain ⟨narrow, apart, wellFormed, source⟩ := proper.hosts n port frame handover (by simp)
  have silent (other : ¬ network.Requests frame) :
      network.Tracks (events ++ [.host n port frame handover]) wire treeEvents state services :=
    tracks.silent fun _ _ _ => if_neg fun all => other all.2.2
  rcases arrives_cases tracks.simulates (tracks.serving.follows n) narrow arrives with ⟨-, handled⟩ | ⟨passed, same⟩
  case inr =>
    cases same
    refine ⟨_, _, _, silent fun requests => ?_⟩
    rw [caught_of_requests tracks.serving requests] at passed
    cases passed
  by_cases relevant : Relevant frame
  case neg =>
    rw [handUp_ignored tracks.simulates wellFormed.readable hook_enough relevant] at handled
    cases handled
    exact ⟨_, _, _, silent fun requests => relevant ⟨requests.1, Or.inr requests.2.1⟩⟩
  have carries : Carries frame (headerAt (handover.packetIn port frame 512)) :=
    Carries.of_handover wellFormed relevant hook_enough
  obtain ⟨state', handled, simulates⟩ := handUp_simulates handover tracks.simulates (tracks.serving.settled.good n)
    wellFormed relevant narrow apart hook_enough handled.symm
  have intf : (headerAt (handover.packetIn port frame 512)).inIntf = port.setWidth 16 := rfl
  have step : network.toTreeNetwork.Steps state (.host n (headerAt (handover.packetIn port frame 512))) state' := by
    refine ⟨_, _, _, .host ?_, handled⟩
    intro child edge link
    exact outside child edge ((eq_widened_iff narrow).mpr link.symm).symm
  refine ⟨_, _, tracks.follow simulates step proper.within ?_ ?_⟩
  · intro m pk same
    cases same
    rw [intf, carries.sip]
    refine ⟨?_, fun upstream => apart ((eq_widened_iff narrow).mpr upstream), source relevant⟩
    rw [BitVec.toNat_setWidth]
    omega
  · intro m i subscriber
    simp only [TreeNetwork.subscribedAfter, subscribedAfter, intf, eq_widened_iff narrow]
    by_cases here : n = m ∧ port.setWidth 16 = i
    · simpa only [here, true_and] using requested_eq carries subscriber
    · rw [if_neg fun all => here ⟨all.1, all.2.1⟩, if_neg fun all => here ⟨all.1, all.2.1⟩]

theorem delivery_step {child up : ν} {rest : List Frame} (tracks : network.Tracks events wire treeEvents state services)
    (proper : network.Proper (events ++ [.delivery child handover])) (edge : network.parent child = some up)
    (queue : wire.inFlight child = frame :: rest)
    (arrives : network.Arrives (wire.take child rest) up ((network.link child).setWidth 32) frame handover (.ok next)) :
    ∃ treeEvents' state' services',
      network.Tracks (events ++ [.delivery child handover]) next treeEvents' state' services' := by
  obtain ⟨narrow, apart⟩ := proper.links_widened edge
  have frames := tracks.simulates.inFlight child
  rw [queue, List.forall₂_cons_left_iff] at frames
  obtain ⟨pk, packets, carries, frames, packet⟩ := frames
  have taken := tracks.simulates.take child frames
  rcases arrives_cases taken (tracks.serving.follows up) narrow arrives with ⟨-, handled⟩ | ⟨passed, same⟩
  case inr =>
    have unasked : ¬ (pk.protocol ≠ protocolTypeIgmp ∧ pk.dip = network.ip) := by
      intro asks
      rw [carries.udp_iff, carries.dip] at asks
      rw [caught_of_requests tracks.serving ⟨carries.relevant.1, asks⟩] at passed
      cases passed
    cases same
    have kept : network.Tracks events (wire.take child rest) treeEvents _ services :=
      { tracks with simulates := taken, serving := serving_drop tracks.serving packet unasked }
    exact ⟨_, _, _, kept.silent fun _ _ _ => rfl⟩
  obtain ⟨state', handled, simulates⟩ := handUp_simulates handover taken (tracks.serving.settled.good up)
    carries.wellFormed carries.relevant narrow apart hook_enough handled.symm
  have request : headerAt (handover.packetIn ((network.link child).setWidth 32) frame 512) =
      { pk with
        inIntf := network.link child
        ofpi := ⟨handover.xid, handover.bufferId,
          (handover.packetIn ((network.link child).setWidth 32) frame 512).data⟩ } := by
    have back : ((network.link child).setWidth 32 : BitVec 32).setWidth 16 = network.link child :=
      BitVec.setWidth_setWidth_of_le _ (by decide)
    rw [carries.request, Handover.headerAt_packetIn hook_enough, back]
  have step : network.toTreeNetwork.Steps state (.delivery child ⟨handover.xid, handover.bufferId,
      (handover.packetIn ((network.link child).setWidth 32) frame 512).data⟩) state' := by
    refine ⟨_, _, _, .delivery edge packet, ?_⟩
    rw [← request]
    exact handled
  exact ⟨_, _, tracks.follow simulates step proper.within (fun _ _ same => by cases same) fun _ _ _ => rfl⟩

theorem faults_iff (tracks : network.Tracks events wire treeEvents state services)
    (proper : network.Proper (events ++ [event])) : network.Faults wire event ↔ network.LeavesMember wire event := by
  have each {taken : WireState ν} {n : ν} {port : BitVec 32} {frame : Frame} {handover : Handover}
      (brings : network.Brings wire event taken n port frame handover) :
      (∃ fault, network.Arrives taken n port frame handover (.error fault)) ↔
        Relevant frame ∧ (wire.agents n).LeavesMember (.packet (headerAt (handover.packetIn port frame 512))) := by
    cases brings with
    | host outside =>
        obtain ⟨narrow, -, wellFormed, -⟩ := proper.hosts n port frame handover (by simp)
        exact arrives_faults_iff tracks.simulates (tracks.serving.follows n) wellFormed narrow
    | @delivery child _ _ rest _ edge queue =>
        have frames := tracks.simulates.inFlight child
        rw [queue, List.forall₂_cons_left_iff] at frames
        obtain ⟨pk, packets, carries, frames, -⟩ := frames
        exact arrives_faults_iff (tracks.simulates.take child frames) (tracks.serving.follows n) carries.wellFormed
          (proper.links_widened edge).1
  constructor
  · rintro ⟨taken, n, port, frame, handover, fault, brings, arrives⟩
    exact ⟨taken, n, port, frame, handover, brings, (each brings).mp ⟨fault, arrives⟩⟩
  · rintro ⟨taken, n, port, frame, handover, brings, leaves⟩
    obtain ⟨fault, arrives⟩ := (each brings).mpr leaves
    exact ⟨taken, n, port, frame, handover, fault, brings, arrives⟩

theorem step (tracks : network.Tracks events wire treeEvents state services)
    (proper : network.Proper (events ++ [event]))
    (step : network.Steps wire event next) :
    ∃ treeEvents' state' services', network.Tracks (events ++ [event]) next treeEvents' state' services' := by
  obtain ⟨taken, n, port, frame, handover, brings, arrives⟩ := step
  cases brings with
  | host outside => exact tracks.host_step proper outside arrives
  | delivery edge queue => exact tracks.delivery_step proper edge queue arrives

end Tracks

omit [DecidableEq ν] in
theorem Proper.of_snoc (proper : network.Proper (events ++ [event])) : network.Proper events where
  unicast := proper.unicast
  links := proper.links
  hosts := fun n port frame handover inside => proper.hosts n port frame handover (List.mem_append_left _ inside)
  within := by
    intro n
    have longer := proper.within n
    rw [List.length_append] at longer
    omega

theorem start_tracks (proper : network.Proper []) :
    ∃ services, network.Tracks [] network.start [] network.toTreeNetwork.start services := by
  have treeProper : network.toTreeNetwork.Proper [] :=
    { unicast := proper.unicast, links := proper.links
      hosts := fun _ _ inside => absurd inside List.not_mem_nil
      within := proper.within }
  have simulates : network.Simulates network.start network.toTreeNetwork.start :=
    { agents := fun _ => rfl, switches := rfl, inFlight := fun _ => List.Forall₂.nil }
  exact ⟨_, simulates, TreeNetwork.start_serving proper.within, treeProper, Nat.le_refl _, fun _ _ => rfl⟩

theorem run_tracks (proper : network.Proper events) (run : Run network.Steps network.start events wire) :
    ∃ treeEvents state services, network.Tracks events wire treeEvents state services := by
  induction run with
  | start =>
      obtain ⟨services, tracks⟩ := start_tracks proper
      exact ⟨_, _, services, tracks⟩
  | step _ advance ih =>
      obtain ⟨treeEvents, state, services, tracks⟩ := ih proper.of_snoc
      exact tracks.step proper advance

theorem spreads_iff (simulates : network.Simulates wire state) {packet : DataPacket} {copies : List (ν × Egress)} :
    network.Spreads wire n packet copies ↔ network.toTreeNetwork.Spreads state n packet copies := by
  constructor
  · exact TreeNetwork.Spreads.congr simulates.switches
  · exact TreeNetwork.Spreads.congr simulates.switches.symm

def sampleWire : WireNetwork Bool where
  toTreeNetwork := TreeNetwork.sampleNetwork
  ofconn := fun _ => ConnectedApp.sampleConnection13
  dpid := fun _ => 0
  version := fun _ => rfl

def sampleJoinFrame : Frame :=
  (ConnectedApp.sampleUdp [0x03, 0xe8, 0x07, 0xd0, 0, 12, 0, 0, 0, 0, 0, 0]).data

def sampleHandover : Handover := { xid := 0, bufferId := noBuffer }

def sampleFrames : List (WireEvent Bool) :=
  [.host true 3 sampleJoinFrame sampleHandover, .delivery true sampleHandover]

theorem sampleJoinFrame_wellFormed : WellFormed sampleJoinFrame := by
  constructor
  · exact ⟨by decide, fun _ => by decide, fun _ _ => by decide⟩
  · exact ⟨by decide, fun _ => by decide, fun _ => by decide, fun _ _ => by decide⟩

theorem sampleFrames_proper : sampleWire.Proper sampleFrames where
  unicast := rfl
  links := TreeNetwork.sampleRequests_proper.links
  hosts := by
    intro n port frame handover inside
    simp only [sampleFrames, List.mem_cons, WireEvent.host.injEq, List.not_mem_nil, or_false, reduceCtorEq] at inside
    obtain ⟨rfl, rfl, rfl, rfl⟩ := inside
    refine ⟨by decide, show (3 : BitVec 32) ≠ (1 : BitVec 16).setWidth 32 by decide, sampleJoinFrame_wellFormed, ?_⟩
    intro _ known
    rw [show sampleWire.toTreeNetwork = TreeNetwork.sampleNetwork from rfl, TreeNetwork.sampleNetwork_address] at known
    exact absurd known (by decide)
  within := fun _ => show 0 + 1 + 2 < 2 ^ 32 by decide

theorem sample_handed_up : ∃ next last,
    sampleWire.handUp sampleWire.start true 3 sampleJoinFrame sampleHandover (handedUp sampleJoinFrame) = .ok next ∧
      next.inFlight true = [sampleJoinFrame] ∧
      sampleWire.handUp (next.take true []) false ((sampleWire.link true).setWidth 32) sampleJoinFrame sampleHandover
        (handedUp sampleJoinFrame) = .ok last ∧
      ∀ n, last.inFlight n = [] :=
  ⟨_, _, rfl, rfl, rfl, fun n => by cases n <;> rfl⟩

theorem sample_frames_run : ∃ state, Run sampleWire.Steps sampleWire.start sampleFrames state ∧
    ∀ n, state.inFlight n = [] := by
  have requests : sampleWire.Requests sampleJoinFrame := by decide
  have proper : sampleWire.Proper ([.host true 3 sampleJoinFrame sampleHandover] ++ [.delivery true sampleHandover]) :=
    sampleFrames_proper
  have first : sampleWire.Proper ([] ++ [.host true 3 sampleJoinFrame sampleHandover]) := proper.of_snoc
  have edge : sampleWire.parent true = some false := rfl
  have outside : ∀ child, sampleWire.parent child = some true → (sampleWire.link child).setWidth 32 ≠ (3 : BitVec 32) :=
    fun _ _ => show (7 : BitVec 16).setWidth 32 ≠ (3 : BitVec 32) by decide
  obtain ⟨services, tracks⟩ := start_tracks first.of_snoc
  obtain ⟨next, last, handled, queue, handled', quiet⟩ := sample_handed_up
  have arrives : sampleWire.Arrives sampleWire.start true 3 sampleJoinFrame sampleHandover (.ok next) := by
    rw [← handled]
    apply arrives_of_caught tracks.simulates (tracks.serving.follows true) (by decide)
    exact caught_of_requests tracks.serving requests
  have sent : sampleWire.Steps sampleWire.start (.host true 3 sampleJoinFrame sampleHandover) next :=
    ⟨_, _, _, _, _, .host outside, arrives⟩
  obtain ⟨treeEvents, state, services', tracks'⟩ := tracks.step first sent
  have frames := tracks'.simulates.inFlight true
  rw [queue, List.forall₂_cons_left_iff] at frames
  obtain ⟨pk, packets, -, frames, -⟩ := frames
  have arrives' : sampleWire.Arrives (next.take true []) false ((sampleWire.link true).setWidth 32) sampleJoinFrame
      sampleHandover (.ok last) := by
    rw [← handled']
    apply arrives_of_caught (tracks'.simulates.take true frames) (tracks'.serving.follows false)
    · show ((7 : BitVec 16).setWidth 32).toNat < 256
      decide
    · exact caught_of_requests tracks'.serving requests
  exact ⟨last, (Run.start.step sent).step ⟨_, _, _, _, _, .delivery edge queue, arrives'⟩, quiet⟩

example : sampleWire.subscription sampleFrames true 3 = some ⟨⟨0, 0, 0, 0, 0, 0⟩, 0x0200000a⟩ := by decide

end WireNetwork

end Libfluid.Multicast
