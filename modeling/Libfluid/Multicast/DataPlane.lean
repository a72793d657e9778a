import Libfluid.Multicast.ReferenceSwitch
import Libfluid.Multicast.Group

namespace Libfluid.Multicast
open Library Switch

structure DataPacket where
  ethType : BitVec 16
  ethDst : EthAddress
  ipProto : BitVec 8
  ipv4Src : BitVec 32
  ipv4Dst : BitVec 32
  udpSrc : BitVec 16
  udpDst : BitVec 16
  payload : List Byte
deriving DecidableEq, Repr

namespace DataPacket

def IsIpv4 (packet : DataPacket) : Prop := packet.ethType = 0x0800
def IsUdp (packet : DataPacket) : Prop := packet.IsIpv4 ∧ packet.ipProto = 17

instance (packet : DataPacket) : Decidable packet.IsIpv4 := inferInstanceAs (Decidable (_ = _))
instance (packet : DataPacket) : Decidable packet.IsUdp := inferInstanceAs (Decidable (_ ∧ _))

/-- A field of a header that the packet does not have matches nothing. -/
def Has (packet : DataPacket) : OxmField → Prop
  | .ethType value => packet.ethType = value
  | .ethDst value => packet.ethDst = value
  | .ipProto value => packet.IsIpv4 ∧ packet.ipProto = value
  | .ipv4Src value => packet.IsIpv4 ∧ packet.ipv4Src = value
  | .ipv4Dst value => packet.IsIpv4 ∧ packet.ipv4Dst = value
  | .udpSrc value => packet.IsUdp ∧ packet.udpSrc = value
  | .udpDst value => packet.IsUdp ∧ packet.udpDst = value

def write (packet : DataPacket) : OxmField → DataPacket
  | .ethType value => { packet with ethType := value }
  | .ethDst value => { packet with ethDst := value }
  | .ipProto value => { packet with ipProto := value }
  | .ipv4Src value => { packet with ipv4Src := value }
  | .ipv4Dst value => { packet with ipv4Dst := value }
  | .udpSrc value => { packet with udpSrc := value }
  | .udpDst value => { packet with udpDst := value }

end DataPacket

/-- A copy of a packet that leaves by a port. The controller is a port of its own. -/
structure Egress where
  port : BitVec 32
  maxLen : BitVec 16
  packet : DataPacket
deriving DecidableEq, Repr

/-- The actions in order, where `group` says what a group does with its copy. A copy for the port that the
packet came in by is dropped. -/
def runActions (group : BitVec 32 → DataPacket → List Egress) (inPort : BitVec 32) :
    DataPacket → List Action → List Egress
  | _, [] => []
  | packet, .setField field _ :: rest => runActions group inPort (packet.write field) rest
  | packet, .output port maxLen :: rest =>
      (if port = inPort then [] else [{ port := port, maxLen := maxLen, packet := packet }]) ++
        runActions group inPort packet rest
  | packet, .group g :: rest => group g packet ++ runActions group inPort packet rest

namespace FlowEntry

def Applies (entry : FlowEntry) (packet : DataPacket) : Prop :=
  entry.tableId = 0 ∧ ∀ field ∈ entry.match_, packet.Has field

end FlowEntry

namespace ReferenceSwitch

/-- Every bucket of a group of type "all" gets a copy of its own. No bucket of the agent names a group. -/
def replicate (switch : ReferenceSwitch) (inPort g : BitVec 32) (packet : DataPacket) : List Egress :=
  ((switch.groups g).getD []).flatMap fun bucket => runActions (fun _ _ => []) inPort packet bucket.actions

structure Selects (switch : ReferenceSwitch) (packet : DataPacket) (entry : FlowEntry) : Prop where
  member : entry ∈ switch.flows
  applies : entry.Applies packet
  highest : ∀ other ∈ switch.flows, other.Applies packet → other.priority ≤ entry.priority

/-- Which of two flows of one priority a switch takes is left open. A packet that no flow applies to is
dropped. -/
inductive Forwards (switch : ReferenceSwitch) (inPort : BitVec 32) (packet : DataPacket) : List Egress → Prop
  | selected {entry : FlowEntry} : switch.Selects packet entry →
      Forwards switch inPort packet (runActions (switch.replicate inPort) inPort packet entry.actions)
  | missed : (∀ entry ∈ switch.flows, ¬ entry.Applies packet) → Forwards switch inPort packet []

variable {switch next : ReferenceSwitch} {messages : List Message} {entry : FlowEntry} {inPort : BitVec 32}
  {packet : DataPacket} {out : List Egress}

theorem forwards_iff_of_above (selects : switch.Selects packet entry)
    (only : ∀ other ∈ switch.flows, other.Applies packet → entry.priority ≤ other.priority →
      other.actions = entry.actions) :
    switch.Forwards inPort packet out ↔ out = runActions (switch.replicate inPort) inPort packet entry.actions := by
  constructor
  · intro forwards
    cases forwards with
    | @selected other chosen =>
        have above := chosen.highest entry selects.member selects.applies
        rw [only other chosen.member chosen.applies above]
    | missed none => exact absurd selects.applies (none entry selects.member)
  · rintro rfl
    exact Forwards.selected selects

theorem forwards_iff_of_missed (none : ∀ entry ∈ switch.flows, ¬ entry.Applies packet) :
    switch.Forwards inPort packet out ↔ out = [] := by
  constructor
  · intro forwards
    cases forwards with
    | selected chosen => exact absurd chosen.applies (none _ chosen.member)
    | missed => rfl
  · rintro rfl
    exact Forwards.missed none

/-! ## The flows after a list of messages -/

theorem mem_flows_of_execute {message : Message} (executed : switch.execute message = some next)
    (member : entry ∈ next.flows) :
    entry ∈ switch.flows ∨ ∃ fm, message = .flowMod fm ∧ fm.command = .add ∧ entry = fm.entry := by
  cases message with
  | groupMod gm =>
      apply Or.inl
      simp only [execute, executeGroupMod] at executed
      split at executed <;> cases executed
      · exact member
      · exact member
      · exact (mem_deleteFlows.mp member).1
  | flowMod fm =>
      simp only [execute, executeFlowMod] at executed
      cases command : fm.command with
      | add =>
          rw [command] at executed
          simp only [Option.ite_none_right_eq_some, Option.some.injEq] at executed
          obtain ⟨-, rfl⟩ := executed
          rcases mem_addFlow.mp member with ⟨old, -⟩ | new
          · exact Or.inl old
          · exact Or.inr ⟨fm, rfl, command, new⟩
      | delete =>
          rw [command] at executed
          cases executed
          exact Or.inl (mem_deleteFlows.mp member).1
  | packetOut po =>
      cases executed
      exact Or.inl member

theorem mem_flows_of_executeAll (executed : switch.executeAll messages = some next) (member : entry ∈ next.flows) :
    entry ∈ switch.flows ∨ ∃ fm, .flowMod fm ∈ messages ∧ fm.command = .add ∧ entry = fm.entry := by
  induction messages generalizing switch with
  | nil =>
      cases executed
      exact Or.inl member
  | cons message rest ih =>
      obtain ⟨middle, first, others⟩ := Option.bind_eq_some_iff.mp executed
      rcases ih others with old | ⟨fm, inside, command, same⟩
      · rcases mem_flows_of_execute first old with before | ⟨fm, rfl, command, same⟩
        · exact Or.inl before
        · exact Or.inr ⟨fm, List.mem_cons_self, command, same⟩
      · exact Or.inr ⟨fm, List.mem_cons_of_mem _ inside, command, same⟩

def Spares (entry : FlowEntry) : Message → Prop
  | .flowMod fm => (fm.command = .add → ¬ fm.entry.Overwrites entry) ∧ (fm.command = .delete → ¬ entry.DeletedBy fm)
  | .groupMod _ | .packetOut _ => True

theorem mem_flows_execute {message : Message} (executed : switch.execute message = some next)
    (unnamed : ∀ g, .group g ∉ entry.actions) (spared : Spares entry message) (member : entry ∈ switch.flows) :
    entry ∈ next.flows := by
  cases message with
  | groupMod gm =>
      simp only [execute, executeGroupMod] at executed
      split at executed <;> cases executed
      · exact member
      · exact member
      · exact mem_deleteFlows.mpr ⟨member, decide_eq_false (unnamed _)⟩
  | flowMod fm =>
      simp only [execute, executeFlowMod] at executed
      cases command : fm.command with
      | add =>
          rw [command] at executed
          simp only [Option.ite_none_right_eq_some, Option.some.injEq] at executed
          obtain ⟨-, rfl⟩ := executed
          exact mem_addFlow.mpr (Or.inl ⟨member, spared.1 command⟩)
      | delete =>
          rw [command] at executed
          cases executed
          exact mem_deleteFlows.mpr ⟨member, decide_eq_false (spared.2 command)⟩
  | packetOut po =>
      cases executed
      exact member

theorem mem_flows_executeAll (executed : switch.executeAll messages = some next)
    (unnamed : ∀ g, .group g ∉ entry.actions) (spared : ∀ message ∈ messages, Spares entry message)
    (member : entry ∈ switch.flows) : entry ∈ next.flows := by
  induction messages generalizing switch with
  | nil =>
      cases executed
      exact member
  | cons message rest ih =>
      obtain ⟨middle, first, others⟩ := Option.bind_eq_some_iff.mp executed
      have kept := mem_flows_execute first unnamed (spared message List.mem_cons_self) member
      exact ih others (fun later inside => spared later (List.mem_cons_of_mem _ inside)) kept

end ReferenceSwitch

end Libfluid.Multicast
