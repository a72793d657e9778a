import Libfluid.Switch.Delivery

namespace Libfluid.Switch
open Library

def Action.emits (n : Nat) (packet : Packet) : Action → List (Nat × Frame)
  | .other _ => []
  | .output port _ =>
      if port = ofppInPort then
        if 1 ≤ packet.inPort.toNat ∧ packet.inPort.toNat ≤ n then [(packet.inPort.toNat, packet.data)] else []
      else if port = ofppFlood ∨ port = ofppAll then
        (((List.range n).map (· + 1)).filter fun portNo => portNo != packet.inPort.toNat).map fun portNo =>
          (portNo, packet.data)
      else if port = ofppController then []
      else if 1 ≤ port.toNat ∧ port.toNat ≤ n then [(port.toNat, packet.data)]
      else []

/-- The port that the action names is there, and the controller where it asks for it. -/
def Action.Reaches (n : Nat) (packet : Packet) (conn : Bool) : Action → Prop
  | .other _ => True
  | .output port _ =>
      if port = ofppInPort then 1 ≤ packet.inPort.toNat ∧ packet.inPort.toNat ≤ n
      else if port = ofppFlood ∨ port = ofppAll then True
      else if port = ofppController then conn = true
      else 1 ≤ port.toNat ∧ port.toNat ≤ n

instance (n : Nat) (packet : Packet) (conn : Bool) (act : Action) : Decidable (act.Reaches n packet conn) := by
  cases act with
  | other type => exact inferInstanceAs (Decidable True)
  | output port maxLen =>
      unfold Action.Reaches
      infer_instance

@[simp] theorem emissions_append (sent later : List Effect) :
    emissions (sent ++ later) = emissions sent ++ emissions later :=
  List.filterMap_append

theorem emissions_inject (ports : List Nat) (data : Frame) :
    emissions (ports.map fun portNo => .inject portNo data) = ports.map fun portNo => (portNo, data) := by
  rw [emissions, List.filterMap_map]
  exact congrFun (List.filterMap_eq_map (f := fun portNo => (portNo, data))) ports

namespace Datapath

variable {dp dp' : Datapath} {pkt : Option Ptr} {packet : Packet} {port : BitVec 16} {n : Nat} {act : Action}
  {sent : List Effect}

theorem portOutputPacket_eq_ok (ports : dp.ports = (create n).ports) {data : Frame} {effect : Effect} :
    dp.portOutputPacket port data = .ok effect ↔
      (1 ≤ port.toNat ∧ port.toNat ≤ n) ∧ effect = .inject port.toNat data := by
  by_cases inside : 1 ≤ port.toNat ∧ port.toNat ≤ n
  · rw [portOutputPacket_eq ports inside.1 inside.2, Except.ok.injEq, and_iff_right inside, eq_comm]
  · rw [iff_false_intro inside, false_and, iff_false]
    intro found
    rw [portOutputPacket] at found
    split_ifs at found with zero
    have positive : port.toNat ≠ 0 := fun same => zero (BitVec.eq_of_toNat_eq same)
    have beyond : dp.ports[port.toNat - 1]? = none := by
      rw [ports, List.getElem?_eq_none]
      simp only [create, List.length_map, List.length_range]
      omega
    rw [beyond] at found
    cases found

theorem actionHandler_emits (ports : dp.ports = (create n).ports) (live : dp.deref pkt = .ok packet)
    (run : dp.actionHandler pkt act = .ok (dp', sent)) :
    act.Reaches n packet dp.conn ∧ emissions sent = act.emits n packet := by
  cases act with
  | other type =>
      cases run
      exact ⟨trivial, rfl⟩
  | output port maxLen =>
      simp only [actionHandler, live, ok_bind] at run
      simp only [Action.Reaches, Action.emits]
      by_cases toIngress : port = ofppInPort
      · rw [if_pos toIngress] at run
        obtain ⟨effect, output, run⟩ := bind_eq_ok.mp run
        obtain ⟨inside, rfl⟩ := (portOutputPacket_eq_ok ports).mp output
        cases run
        rw [if_pos toIngress, if_pos toIngress, if_pos inside]
        exact ⟨inside, rfl⟩
      rw [if_neg toIngress] at run
      rw [if_neg toIngress, if_neg toIngress]
      by_cases toAll : port = ofppFlood ∨ port = ofppAll
      · rw [if_pos toAll] at run
        obtain ⟨frames, output, run⟩ := bind_eq_ok.mp run
        rw [flood_eq live] at output
        cases output
        cases run
        rw [if_pos toAll, if_pos toAll, emissions_inject, ports]
        exact ⟨trivial, rfl⟩
      rw [if_neg toAll] at run
      rw [if_neg toAll, if_neg toAll]
      by_cases toController : port = ofppController
      · rw [if_pos toController] at run
        have same : (dp.bufferPacket pkt).deref pkt = .ok packet := live
        rw [same, ok_bind] at run
        split at run
        · rename_i connected
          cases run
          rw [if_pos toController, if_pos toController]
          exact ⟨connected, rfl⟩
        · cases run
      · rw [if_neg toController] at run
        obtain ⟨effect, output, run⟩ := bind_eq_ok.mp run
        obtain ⟨inside, rfl⟩ := (portOutputPacket_eq_ok ports).mp output
        cases run
        rw [if_neg toController, if_neg toController, if_pos inside]
        exact ⟨inside, rfl⟩

theorem actionHandler_total (ports : dp.ports = (create n).ports) (live : dp.deref pkt = .ok packet)
    (reaches : act.Reaches n packet dp.conn) : ∃ result, dp.actionHandler pkt act = .ok result := by
  cases act with
  | other type => exact ⟨_, rfl⟩
  | output port maxLen =>
      simp only [Action.Reaches] at reaches
      simp only [actionHandler, live, ok_bind]
      have single {number : BitVec 16} (inside : 1 ≤ number.toNat ∧ number.toNat ≤ n) (data : Frame) :
          ∃ effect, dp.portOutputPacket number data = .ok effect :=
        ⟨_, (portOutputPacket_eq_ok ports).mpr ⟨inside, rfl⟩⟩
      by_cases toIngress : port = ofppInPort
      · rw [if_pos toIngress] at reaches ⊢
        exact bind_total (single reaches _) fun _ => pure_total _
      rw [if_neg toIngress] at reaches ⊢
      by_cases toAll : port = ofppFlood ∨ port = ofppAll
      · rw [if_pos toAll, flood_eq live]
        exact ⟨_, rfl⟩
      rw [if_neg toAll] at reaches ⊢
      by_cases toController : port = ofppController
      · have same : (dp.bufferPacket pkt).deref pkt = .ok packet := live
        have connected : (dp.bufferPacket pkt).conn = true := by
          rwa [if_pos toController] at reaches
        rw [if_pos toController, same, ok_bind, if_pos connected]
        exact ⟨_, rfl⟩
      · rw [if_neg toController] at reaches ⊢
        exact bind_total (single reaches _) fun _ => pure_total _

theorem actionHandler_same (run : dp.actionHandler pkt act = .ok (dp', sent)) :
    dp'.ports = dp.ports ∧ dp'.conn = dp.conn ∧ dp'.heap = dp.heap := by
  rw [actionHandler_ok run]
  split_ifs
  · exact ⟨rfl, rfl, rfl⟩
  · exact ⟨rfl, rfl, rfl⟩

theorem deref_congr (same : dp'.heap = dp.heap) : dp'.deref pkt = dp.deref pkt := by
  cases pkt with
  | none => rfl
  | some p => rw [deref, deref, same]

theorem applyActions_emits {acts : List Action} (ports : dp.ports = (create n).ports)
    (live : dp.deref pkt = .ok packet) (run : applyActions pkt acts dp = .ok (dp', sent)) :
    (∀ act ∈ acts, act.Reaches n packet dp.conn) ∧ emissions sent = acts.flatMap (Action.emits n packet) := by
  induction acts generalizing dp sent with
  | nil =>
      cases run
      exact ⟨fun act member => absurd member List.not_mem_nil, rfl⟩
  | cons act rest ih =>
      obtain ⟨⟨dp₁, sent₁⟩, first, run⟩ := bind_eq_ok.mp run
      obtain ⟨⟨dp₂, sent₂⟩, later, run⟩ := bind_eq_ok.mp run
      cases run
      obtain ⟨samePorts, sameConn, sameHeap⟩ := actionHandler_same first
      obtain ⟨reaches, frames⟩ := actionHandler_emits ports live first
      obtain ⟨restReaches, restFrames⟩ := ih (samePorts.trans ports) ((deref_congr sameHeap).trans live) later
      rw [sameConn] at restReaches
      refine ⟨List.forall_mem_cons.mpr ⟨reaches, restReaches⟩, ?_⟩
      rw [emissions_append, frames, restFrames, List.flatMap_cons]

theorem applyActions_total {acts : List Action} (ports : dp.ports = (create n).ports)
    (live : dp.deref pkt = .ok packet) (reaches : ∀ act ∈ acts, act.Reaches n packet dp.conn) :
    ∃ result, applyActions pkt acts dp = .ok result := by
  induction acts generalizing dp with
  | nil => exact ⟨_, rfl⟩
  | cons act rest ih =>
      obtain ⟨first, others⟩ := List.forall_mem_cons.mp reaches
      obtain ⟨⟨dp₁, sent₁⟩, handled⟩ := actionHandler_total ports live first
      obtain ⟨samePorts, sameConn, sameHeap⟩ := actionHandler_same handled
      rw [← sameConn] at others
      obtain ⟨result, later⟩ := ih (samePorts.trans ports) ((deref_congr sameHeap).trans live) others
      rw [applyActions, handled]
      show ∃ result, (applyActions pkt rest dp₁ >>= _ : Result) = .ok result
      rw [later]
      exact ⟨_, rfl⟩

/-- The actions put exactly their frames on the ports, and read no port that is not there, exactly where
every one of them names a port of the switch. -/
theorem applyActions_emits_iff (n : Nat) (dp : Datapath) (pkt : Option Ptr) (packet : Packet) (acts : List Action)
    (ports : dp.ports = (create n).ports) (live : dp.deref pkt = .ok packet) :
    (∃ dp' sent, applyActions pkt acts dp = .ok (dp', sent) ∧
        emissions sent = acts.flatMap (Action.emits n packet)) ↔
      ∀ act ∈ acts, act.Reaches n packet dp.conn := by
  constructor
  · rintro ⟨dp', sent, run, -⟩
    exact (applyActions_emits ports live run).1
  · intro reaches
    obtain ⟨⟨dp', sent⟩, run⟩ := applyActions_total ports live reaches
    exact ⟨dp', sent, run, (applyActions_emits ports live run).2⟩

theorem two_outputs_emitted :
    ∃ dp' sent, applyActions (some 0) [.output 2 0, .output ofppFlood 0] ((create 3).newPacket ⟨1, [7]⟩).1 =
        .ok (dp', sent) ∧ emissions sent = [(2, [7]), (2, [7]), (3, [7])] :=
  (applyActions_emits_iff 3 ((create 3).newPacket ⟨1, [7]⟩).1 (some 0) ⟨1, [7]⟩ [.output 2 0, .output ofppFlood 0] rfl
    rfl).mpr (by decide)

theorem local_port_indexes_outside :
    ¬ ∃ dp' sent, applyActions (some 0) [.output 0xfffe 0] ((create 3).newPacket ⟨1, [7]⟩).1 = .ok (dp', sent) ∧
      emissions sent = [Action.output 0xfffe 0].flatMap (Action.emits 3 ⟨1, [7]⟩) := by
  rintro ⟨dp', sent, run, -⟩
  have ports : ((create 3).newPacket ⟨1, [7]⟩).1.ports = (create 3).ports := rfl
  have live : ((create 3).newPacket ⟨1, [7]⟩).1.deref (some 0) = .ok ⟨1, [7]⟩ := rfl
  exact absurd (applyActions_emits ports live run).1 (by decide)

end Datapath

end Libfluid.Switch
