import Libfluid.Library.Except
import Libfluid.Switch.Datapath
import Mathlib.Logic.Function.Iterate

namespace Libfluid.Switch
open Library

def Action.toController : Action → Bool
  | .output port _ => port == ofppController
  | .other _ => false

def controllerOutputs (acts : List Action) : Nat := acts.countP Action.toController

namespace Datapath

variable {dp dp' : Datapath} {pkt : Option Ptr} {sent : List Effect}

def Steps (dp : Datapath) (event : Event) (dp' : Datapath) : Prop :=
  ∃ sent, dp.step event = .ok (dp', sent)

theorem steps_unique (dp : Datapath) (event : Event) (next next' : Datapath) :
    dp.Steps event next → dp.Steps event next' → next = next' := by
  rintro ⟨sent, run⟩ ⟨sent', run'⟩
  rw [run, Except.ok.injEq, Prod.mk.injEq] at run'
  exact run'.1

theorem actionHandler_ok {act : Action} (run : dp.actionHandler pkt act = .ok (dp', sent)) :
    dp' = if act.toController then dp.bufferPacket pkt else dp := by
  cases act with
  | other type =>
      simp only [actionHandler, Except.ok.injEq, Prod.mk.injEq] at run
      simp [Action.toController, run.1]
  | output port maxLen =>
      simp only [actionHandler] at run
      by_cases isController : port = ofppController
      · subst isController
        rw [if_neg (by decide), if_neg (by decide), if_pos rfl] at run
        obtain ⟨packet, -, run⟩ := bind_eq_ok.mp run
        split at run
        · simp only [pure_eq_ok, Prod.mk.injEq] at run
          simp [Action.toController, run.1]
        · cases run
      · have stored : Action.toController (.output port maxLen) = false := by
          simpa [Action.toController] using isController
        rw [stored]
        split_ifs at run
        · obtain ⟨packet, -, run⟩ := bind_eq_ok.mp run
          obtain ⟨out, -, run⟩ := bind_eq_ok.mp run
          simp only [pure_eq_ok, Prod.mk.injEq] at run
          exact run.1.symm
        · obtain ⟨out, -, run⟩ := bind_eq_ok.mp run
          simp only [pure_eq_ok, Prod.mk.injEq] at run
          exact run.1.symm
        · obtain ⟨packet, -, run⟩ := bind_eq_ok.mp run
          obtain ⟨out, -, run⟩ := bind_eq_ok.mp run
          simp only [pure_eq_ok, Prod.mk.injEq] at run
          exact run.1.symm

theorem applyActions_ok {acts : List Action} (run : applyActions pkt acts dp = .ok (dp', sent)) :
    dp' = (bufferPacket pkt)^[controllerOutputs acts] dp := by
  induction acts generalizing dp sent with
  | nil =>
      simp only [applyActions, Except.ok.injEq, Prod.mk.injEq] at run
      exact run.1.symm
  | cons act rest ih =>
      obtain ⟨⟨dp₁, sent₁⟩, first, run⟩ := bind_eq_ok.mp run
      obtain ⟨⟨dp₂, sent₂⟩, later, run⟩ := bind_eq_ok.mp run
      simp only [pure_eq_ok, Prod.mk.injEq] at run
      obtain ⟨rfl, -⟩ := run
      rw [ih later, actionHandler_ok first, controllerOutputs, controllerOutputs, List.countP_cons]
      cases act.toController <;> rfl

theorem deletePacket_ok (run : dp.deletePacket pkt = .ok (dp', sent)) :
    (pkt = none ∧ dp' = dp) ∨
      ∃ p packet, pkt = some p ∧ dp.heap[p]? = some (some packet) ∧
        dp' = { dp with heap := dp.heap.set p none } := by
  cases pkt with
  | none =>
      simp only [deletePacket, Except.ok.injEq, Prod.mk.injEq] at run
      exact Or.inl ⟨rfl, run.1.symm⟩
  | some p =>
      simp only [deletePacket] at run
      split at run
      · rename_i packet cell
        simp only [Except.ok.injEq, Prod.mk.injEq] at run
        exact Or.inr ⟨p, packet, rfl, cell, run.1.symm⟩
      · cases run

theorem releaseToFlow_ok {flow : Flow} {bufferId : BitVec 32}
    (run : dp.releaseToFlow flow bufferId = .ok (dp', sent)) :
    (bufferId = noBuffer ∧ dp' = dp) ∨
    (bufferId ≠ noBuffer ∧ ∃ packet pktMatch, (dp.bufferedPacket bufferId).1.deref
        (dp.bufferedPacket bufferId).2 = .ok packet ∧ extract packet = .ok pktMatch ∧
      (flow.pktMatch pktMatch = false ∧ dp' = (dp.bufferedPacket bufferId).1 ∨
       flow.pktMatch pktMatch = true ∧ ∃ deleted,
        ((bufferPacket (dp.bufferedPacket bufferId).2)^[controllerOutputs flow.actions]
          (dp.bufferedPacket bufferId).1).deletePacket (dp.bufferedPacket bufferId).2 =
            .ok (dp', deleted))) := by
  simp only [releaseToFlow] at run
  split_ifs at run with unnamed
  · simp only [Except.ok.injEq, Prod.mk.injEq] at run
    exact Or.inl ⟨unnamed, run.1.symm⟩
  · obtain ⟨packet, live, run⟩ := bind_eq_ok.mp run
    obtain ⟨pktMatch, extracted, run⟩ := bind_eq_ok.mp run
    refine Or.inr ⟨unnamed, packet, pktMatch, live, extracted, ?_⟩
    split_ifs at run with accepted
    · obtain ⟨⟨dp₁, sent₁⟩, applied, run⟩ := bind_eq_ok.mp run
      obtain ⟨⟨dp₂, deleted⟩, released, run⟩ := bind_eq_ok.mp run
      simp only [pure_eq_ok, Prod.mk.injEq] at run
      obtain ⟨rfl, -⟩ := run
      rw [applyActions_ok applied] at released
      exact Or.inr ⟨accepted, deleted, released⟩
    · simp only [pure_eq_ok, Prod.mk.injEq] at run
      exact Or.inl ⟨by simpa using accepted, run.1.symm⟩

def packetOutPacket (dp : Datapath) (po : PacketOut) : Datapath × Option Ptr :=
  if po.bufferId = noBuffer then
    ((dp.newPacket { inPort := po.inPort, data := po.data }).1, some dp.heap.length)
  else dp.bufferedPacket po.bufferId

theorem handlePacketOut_ok {po : PacketOut} (run : dp.handlePacketOut po = .ok (dp', sent)) :
    ∃ deleted, ((bufferPacket (dp.packetOutPacket po).2)^[controllerOutputs po.actions]
      (dp.packetOutPacket po).1).deletePacket (dp.packetOutPacket po).2 = .ok (dp', deleted) := by
  rw [handlePacketOut] at run
  generalize opened : ite (po.bufferId = noBuffer) _ _ = found at run
  obtain rfl : dp.packetOutPacket po = found := opened
  obtain ⟨⟨dp₁, sent₁⟩, applied, run⟩ := bind_eq_ok.mp run
  obtain ⟨⟨dp₂, deleted⟩, released, run⟩ := bind_eq_ok.mp run
  simp only [pure_eq_ok, Prod.mk.injEq] at run
  obtain ⟨rfl, -⟩ := run
  rw [applyActions_ok applied] at released
  exact ⟨deleted, released⟩

theorem packetHandler_eq {packet : Packet} {pktMatch : Match} (extracted : extract packet = .ok pktMatch)
    (dp : Datapath) (len : BitVec 32) :
    dp.packetHandler packet len =
      match dp.selectFlow pktMatch with
      | some entry => applyActions (some dp.heap.length) entry.actions (dp.newPacket packet).1
      | none => .ok ((dp.newPacket packet).1.reportMiss dp.heap.length packet len) := by
  rw [packetHandler, extracted]
  rfl

theorem packetHandler_ok {packet : Packet} {len : BitVec 32} {pktMatch : Match}
    (extracted : extract packet = .ok pktMatch) (run : dp.packetHandler packet len = .ok (dp', sent)) :
    dp' = (bufferPacket (some dp.heap.length))^[(dp.selectFlow pktMatch).elim 1
      fun entry => controllerOutputs entry.actions] (dp.newPacket packet).1 := by
  rw [packetHandler_eq extracted] at run
  cases selected : dp.selectFlow pktMatch with
  | none =>
      simp only [selected, reportMiss, Except.ok.injEq] at run
      split_ifs at run
      all_goals
        simp only [Prod.mk.injEq] at run
        exact run.1.symm
  | some entry =>
      rw [selected] at run
      exact applyActions_ok run

end Datapath

end Libfluid.Switch
