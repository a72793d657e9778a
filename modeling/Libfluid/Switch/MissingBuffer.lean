import Libfluid.Switch.Output
import Libfluid.Switch.Ownership

namespace Libfluid.Switch
open Library

def Action.Blind (ports : List Nat) : Action → Prop
  | .other _ => True
  | .output port _ => (port = ofppFlood ∨ port = ofppAll) ∧ ports = []

namespace Datapath

variable {dp dp' : Datapath} {pkt : Option Ptr} {act : Action} {acts : List Action} {sent : List Effect}
  {id : BitVec 32} {event : Event}

/-! ## Actions on a null pointer -/

theorem deref_null (dp : Datapath) : dp.deref none = .error .nullPacket := rfl

theorem flood_null {ports : List Nat} {frames : List Effect} :
    dp.flood none ports = .ok frames ↔ ports = [] ∧ frames = [] := by
  cases ports with
  | nil => simp [flood, eq_comm]
  | cons portNo rest =>
      rw [flood, deref_null]
      simp [bind, Except.bind]

theorem actionHandler_null :
    dp.actionHandler none act = .ok (dp', sent) ↔ act.Blind dp.ports ∧ dp' = dp ∧ sent = [] := by
  cases act with
  | other type => simp [actionHandler, Action.Blind, eq_comm]
  | output port maxLen =>
      rw [actionHandler, Action.Blind]
      by_cases toAll : port = ofppFlood ∨ port = ofppAll
      · have notIngress : port ≠ ofppInPort := by
          rcases toAll with rfl | rfl
          · decide
          · decide
        rw [if_neg notIngress, if_pos toAll, and_iff_right toAll]
        constructor
        · intro run
          obtain ⟨frames, output, run⟩ := bind_eq_ok.mp run
          obtain ⟨empty, rfl⟩ := flood_null.mp output
          cases run
          exact ⟨empty, rfl, rfl⟩
        · rintro ⟨empty, rfl, rfl⟩
          rw [flood_null.mpr ⟨empty, rfl⟩]
          rfl
      · rw [if_neg toAll, iff_false_intro toAll, false_and, false_and, iff_false]
        intro run
        split_ifs at run
        · cases run
        · cases run
        · cases run

theorem applyActions_null :
    applyActions none acts dp = .ok (dp', sent) ↔ (∀ act ∈ acts, act.Blind dp.ports) ∧ dp' = dp ∧ sent = [] := by
  induction acts generalizing sent with
  | nil => simp [applyActions, eq_comm]
  | cons act rest ih =>
      rw [List.forall_mem_cons]
      constructor
      · intro run
        obtain ⟨⟨dp₁, sent₁⟩, first, run⟩ := bind_eq_ok.mp run
        obtain ⟨⟨dp₂, sent₂⟩, later, run⟩ := bind_eq_ok.mp run
        obtain ⟨blind, rfl, rfl⟩ := actionHandler_null.mp first
        cases run
        obtain ⟨others, rfl, rfl⟩ := ih.mp later
        exact ⟨⟨blind, others⟩, rfl, rfl⟩
      · rintro ⟨⟨blind, others⟩, rfl, rfl⟩
        have later := ih.mpr ⟨others, rfl, rfl⟩
        rw [applyActions, actionHandler_null.mpr ⟨blind, rfl, rfl⟩]
        show (applyActions none rest dp' >>= _ : Result) = _
        rw [later]
        rfl

/-! ## Commands -/

def Stored (dp : Datapath) (id : BitVec 32) : Prop := ∃ p, dp.pktBuffer.lookup id = some (some p) ∧ dp.Live p

def NamesMissing (dp : Datapath) : Event → Prop
  | .packetOut po => po.bufferId ≠ noBuffer ∧ ¬ dp.Stored po.bufferId
  | .flowMod fm => fm.command = .add ∧ fm.bufferId ≠ noBuffer ∧ ¬ dp.Stored fm.bufferId
  | .capture .. | .connection _ | .overwrite .. => False

/-- The step puts nothing on the ports, and changes nothing but, for an ADD, the flow table. -/
def LeftAlone (dp : Datapath) (event : Event) : Prop :=
  ∃ dp' sent, dp.step event = .ok (dp', sent) ∧ emissions sent = [] ∧
    match event with
    | .flowMod _ => dp' = { dp with flowTable := dp'.flowTable }
    | _ => dp' = dp

/-- A PACKET_OUT for an id that has a null pointer already, with actions that do not look at it. -/
def MeetsNull (dp : Datapath) : Event → Prop
  | .packetOut po => dp.pktBuffer.lookup po.bufferId = some none ∧ ∀ act ∈ po.actions, act.Blind dp.ports
  | _ => False

theorem bufferedPacket_missing (missing : ¬ dp.Stored id) :
    (dp.bufferedPacket id).2 = none ∨ ∃ p, (dp.bufferedPacket id).2 = some p ∧ ¬ dp.Live p := by
  cases found : (dp.bufferedPacket id).2 with
  | none => exact Or.inl rfl
  | some p =>
      refine Or.inr ⟨p, rfl, fun live => missing ⟨p, ?_, live⟩⟩
      exact lookup_pktBuffer.mpr (bufferedPacket_snd.mp found)

theorem live_of_deref {p : Ptr} {packet : Packet} (found : dp.deref (some p) = .ok packet) : dp.Live p := by
  simp only [deref] at found
  split at found
  · exact ⟨_, by assumption⟩
  · cases found

theorem not_releaseToFlow_missing {flow : Flow} (named : id ≠ noBuffer) (missing : ¬ dp.Stored id) :
    dp.releaseToFlow flow id ≠ .ok (dp', sent) := by
  intro run
  rcases releaseToFlow_ok run with ⟨unnamed, -⟩ | ⟨-, packet, -, live, -⟩
  · exact named unnamed
  · rcases bufferedPacket_missing missing with null | ⟨p, dangling, dead⟩
    · rw [null] at live
      cases live
    · rw [dangling] at live
      exact dead ((live_congr (bufferedPacket_heap dp id)).mp (live_of_deref live))

theorem handlePacketOut_named {po : PacketOut} (named : po.bufferId ≠ noBuffer) :
    dp.handlePacketOut po = do
      let applied ← applyActions (dp.bufferedPacket po.bufferId).2 po.actions (dp.bufferedPacket po.bufferId).1
      let deleted ← applied.1.deletePacket (dp.bufferedPacket po.bufferId).2
      return (deleted.1, applied.2 ++ deleted.2) := by
  rw [handlePacketOut, if_neg named]

theorem handlePacketOut_null {po : PacketOut} (named : po.bufferId ≠ noBuffer)
    (null : (dp.bufferedPacket po.bufferId).2 = none) :
    dp.handlePacketOut po = .ok (dp', sent) ↔
      (∀ act ∈ po.actions, act.Blind (dp.bufferedPacket po.bufferId).1.ports) ∧
        dp' = (dp.bufferedPacket po.bufferId).1 ∧ sent = [] := by
  rw [handlePacketOut_named named, null, ← applyActions_null]
  constructor
  · intro run
    obtain ⟨⟨dp₁, sent₁⟩, applied, run⟩ := bind_eq_ok.mp run
    obtain ⟨-, rfl, rfl⟩ := applyActions_null.mp applied
    cases run
    exact applied
  · intro applied
    obtain ⟨-, rfl, rfl⟩ := applyActions_null.mp applied
    rw [applied]
    rfl

theorem not_handlePacketOut_dangling {po : PacketOut} {p : Ptr} (named : po.bufferId ≠ noBuffer)
    (dangling : (dp.bufferedPacket po.bufferId).2 = some p) (dead : ¬ dp.Live p) :
    dp.handlePacketOut po ≠ .ok (dp', sent) := by
  intro run
  obtain ⟨deleted, released⟩ := handlePacketOut_ok run
  rw [packetOutPacket, if_neg named, dangling] at released
  rcases deletePacket_ok released with ⟨null, -⟩ | ⟨q, packet, same, cell, -⟩
  · cases null
  · cases same
    rw [iterate_bufferPacket_heap, bufferedPacket_heap] at cell
    exact dead ⟨packet, cell⟩

theorem bufferedPacket_null_iff :
    (dp.bufferedPacket id).2 = none ∧ (dp.bufferedPacket id).1 = dp ↔ dp.pktBuffer.lookup id = some none := by
  cases found : dp.pktBuffer.lookup id with
  | none =>
      simp only [bufferedPacket, found]
      constructor
      · rintro ⟨-, same⟩
        have inserted : (id, none) ∈ dp.pktBuffer.insertNew id none :=
          OrderedMap.mem_insertNew.mpr (Or.inr ⟨rfl, found⟩)
        have buffer : dp.pktBuffer.insertNew id none = dp.pktBuffer := congrArg Datapath.pktBuffer same
        rw [buffer] at inserted
        exact absurd inserted (lookup_pktBuffer_none.mp found none)
      · intro stored
        cases stored
  | some pkt => simp [bufferedPacket, found]

theorem packetOut_leftAlone_iff {po : PacketOut} (named : po.bufferId ≠ noBuffer) (missing : ¬ dp.Stored po.bufferId) :
    dp.LeftAlone (.packetOut po) ↔ dp.MeetsNull (.packetOut po) := by
  constructor
  · rintro ⟨dp', sent, run, -, rfl⟩
    rcases bufferedPacket_missing missing with null | ⟨p, dangling, dead⟩
    · obtain ⟨blind, same, -⟩ := (handlePacketOut_null named null).mp run
      rw [← same] at blind
      exact ⟨bufferedPacket_null_iff.mp ⟨null, same.symm⟩, blind⟩
    · exact absurd run (not_handlePacketOut_dangling named dangling dead)
  · rintro ⟨stored, blind⟩
    obtain ⟨null, same⟩ := bufferedPacket_null_iff.mpr stored
    rw [← same] at blind
    exact ⟨dp, [], (handlePacketOut_null named null).mpr ⟨blind, same.symm, rfl⟩, rfl, rfl⟩

theorem not_add_leftAlone {fm : FlowMod} (command : fm.command = .add) (named : fm.bufferId ≠ noBuffer)
    (missing : ¬ dp.Stored fm.bufferId) : ¬ dp.LeftAlone (.flowMod fm) := by
  rintro ⟨dp', sent, run, -⟩
  have released : Datapath.releaseToFlow { dp with flowTable := addFlow dp.flowTable fm.flow } fm.flow fm.bufferId =
      .ok (dp', sent) := by
    rw [← run, step, handleFlowMod, command]
  have missing' : ¬ Stored { dp with flowTable := addFlow dp.flowTable fm.flow } fm.bufferId := missing
  exact not_releaseToFlow_missing named missing' released

/-- In a state that a run of the switch visits, a command for a missing packet leaves things alone exactly
where it is a PACKET_OUT that meets a null pointer and does not look at it. -/
theorem missing_leftAlone_iff (n : Nat) (events : List Event) :
    ∀ dp, Visits Steps (create n) events dp → ∀ event, dp.NamesMissing event →
      (dp.LeftAlone event ↔ dp.MeetsNull event) := by
  intro dp _ event missing
  cases event with
  | capture packet len => exact False.elim missing
  | connection up | overwrite p index byte => exact False.elim missing
  | packetOut po => exact packetOut_leftAlone_iff missing.1 missing.2
  | flowMod fm => exact iff_of_false (not_add_leftAlone missing.1 missing.2.1 missing.2.2) False.elim

theorem run_dropFirst :
    Run Steps (create 2) [dropFirst] { create 2 with pktBuffer := OrderedMap.empty.insertNew 1 none } :=
  Run.start.step ⟨_, rfl⟩

theorem second_drop_left_alone :
    ∃ dp, Run Steps (create 2) [dropFirst] dp ∧ dp.NamesMissing dropFirst ∧ dp.LeftAlone dropFirst := by
  have missing : NamesMissing { create 2 with pktBuffer := OrderedMap.empty.insertNew 1 none } dropFirst := by
    refine ⟨by decide, ?_⟩
    rintro ⟨p, found, -⟩
    cases found
  refine ⟨_, run_dropFirst, missing, (missing_leftAlone_iff 2 [dropFirst] _ run_dropFirst.visits _ missing).mpr ?_⟩
  exact ⟨rfl, fun act member => absurd member List.not_mem_nil⟩

theorem first_drop_stores_null : (create 2).NamesMissing dropFirst ∧ ¬ (create 2).LeftAlone dropFirst := by
  have missing : (create 2).NamesMissing dropFirst := by
    refine ⟨by decide, ?_⟩
    rintro ⟨p, found, -⟩
    cases found
  refine ⟨missing, fun alone => ?_⟩
  obtain ⟨stored, -⟩ := (packetOut_leftAlone_iff missing.1 missing.2).mp alone
  cases stored

end Datapath

end Libfluid.Switch
