import Libfluid.Switch.FlowTable
import Libfluid.Switch.LinkLayer

namespace Libfluid.Switch
open Library

def ofppMax : BitVec 16 := 0xff00

def Effect.emission : Effect → Option (Nat × Frame)
  | .inject portNo data => some (portNo, data)
  | .packetIn _ | .delete _ => none

def emissions (sent : List Effect) : List (Nat × Frame) := sent.filterMap Effect.emission

namespace Datapath

variable {dp dp' : Datapath} {pkt : Option Ptr} {packet : Packet} {port maxLen : BitVec 16} {n : Nat}

theorem portOutputPacket_eq (ports : dp.ports = (List.range n).map (· + 1)) (first : 1 ≤ port.toNat)
    (last : port.toNat ≤ n) (data : Frame) : dp.portOutputPacket port data = .ok (.inject port.toNat data) := by
  have nonzero : port ≠ 0 := by
    rintro rfl
    exact absurd first (by decide)
  have found : dp.ports[port.toNat - 1]? = some port.toNat := by
    rw [ports, List.getElem?_map, List.getElem?_range (by omega)]
    simp only [Option.map_some, Option.some.injEq]
    omega
  rw [portOutputPacket, if_neg nonzero, found]

theorem flood_eq (live : dp.deref pkt = .ok packet) (ports : List Nat) :
    dp.flood pkt ports =
      .ok ((ports.filter fun portNo => portNo != packet.inPort.toNat).map fun portNo => .inject portNo packet.data) := by
  induction ports with
  | nil => rfl
  | cons portNo rest ih =>
      rw [flood, live, ih]
      by_cases same : portNo = packet.inPort.toNat
      · simp only [same]
        simp [bind, Except.bind, pure, Except.pure]
      · simp [same, bind, Except.bind, pure, Except.pure]

theorem applyActions_flood (live : dp.deref pkt = .ok packet) (maxLen : BitVec 16) :
    applyActions pkt [.output ofppFlood maxLen] dp = .ok (dp, (dp.ports.filter fun portNo =>
      portNo != packet.inPort.toNat).map fun portNo => .inject portNo packet.data) := by
  have handled : dp.actionHandler pkt (.output ofppFlood maxLen) = .ok (dp, (dp.ports.filter fun portNo =>
      portNo != packet.inPort.toNat).map fun portNo => .inject portNo packet.data) := by
    rw [actionHandler, if_neg (by decide), if_pos (Or.inl rfl), flood_eq live]
    rfl
  rw [applyActions, handled]
  show Except.ok _ = _
  rw [List.append_nil]

theorem applyActions_output (live : dp.deref pkt = .ok packet) (ports : dp.ports = (List.range n).map (· + 1))
    (first : 1 ≤ port.toNat) (last : port.toNat ≤ n) (physical : port ≤ ofppMax) (maxLen : BitVec 16) :
    applyActions pkt [.output port maxLen] dp = .ok (dp, [.inject port.toNat packet.data]) := by
  have ordinary : port ≠ ofppInPort ∧ port ≠ ofppFlood ∧ port ≠ ofppAll ∧ port ≠ ofppController := by
    refine ⟨?_, ?_, ?_, ?_⟩
    all_goals
      rintro rfl
      exact absurd physical (by decide)
  obtain ⟨notInPort, notFlood, notAll, notController⟩ := ordinary
  have handled : dp.actionHandler pkt (.output port maxLen) = .ok (dp, [.inject port.toNat packet.data]) := by
    rw [actionHandler, if_neg notInPort, if_neg (not_or.mpr ⟨notFlood, notAll⟩), if_neg notController, live]
    show (do
      let sent ← dp.portOutputPacket port packet.data
      return (dp, [sent]) : Result) = _
    rw [portOutputPacket_eq ports first last]
    rfl
  rw [applyActions, handled]
  rfl

/-! ## The release of a stored packet -/

section Stored

variable {id : BitVec 32} {p : Ptr} {sent : List Effect} {pktMatch : Match}

theorem bufferedPacket_stored (stored : dp.pktBuffer.lookup id = some (some p)) :
    dp.bufferedPacket id = (dp, some p) := by
  rw [bufferedPacket, stored]

theorem deref_stored (cell : dp.heap[p]? = some (some packet)) : dp.deref (some p) = .ok packet := by
  rw [deref, cell]

theorem deletePacket_stored (cell : dp.heap[p]? = some (some packet)) :
    dp.deletePacket (some p) = .ok ({ dp with heap := dp.heap.set p none }, [.delete p]) := by
  rw [deletePacket, cell]

theorem handlePacketOut_stored {po : PacketOut} (named : po.bufferId ≠ noBuffer)
    (stored : dp.pktBuffer.lookup po.bufferId = some (some p)) (cell : dp.heap[p]? = some (some packet))
    (acts : applyActions (some p) po.actions dp = .ok (dp, sent)) :
    dp.handlePacketOut po = .ok ({ dp with heap := dp.heap.set p none }, sent ++ [.delete p]) := by
  rw [handlePacketOut, if_neg named, bufferedPacket_stored stored]
  show (do
    let applied ← applyActions (some p) po.actions dp
    let deleted ← applied.1.deletePacket (some p)
    return (deleted.1, applied.2 ++ deleted.2) : Result) = _
  rw [acts]
  show (do
    let deleted ← dp.deletePacket (some p)
    return (deleted.1, sent ++ deleted.2) : Result) = _
  rw [deletePacket_stored cell]
  rfl

theorem releaseToFlow_rejected {flow : Flow} (named : id ≠ noBuffer) (stored : dp.pktBuffer.lookup id = some (some p))
    (cell : dp.heap[p]? = some (some packet)) (extracted : extract packet = .ok pktMatch)
    (rejected : flow.pktMatch pktMatch = false) : dp.releaseToFlow flow id = .ok (dp, []) := by
  rw [releaseToFlow, if_neg named, bufferedPacket_stored stored]
  simp only [deref_stored cell, extracted, rejected, bind, Except.bind]
  rfl

theorem releaseToFlow_accepted {flow : Flow} (named : id ≠ noBuffer) (stored : dp.pktBuffer.lookup id = some (some p))
    (cell : dp.heap[p]? = some (some packet)) (extracted : extract packet = .ok pktMatch)
    (accepted : flow.pktMatch pktMatch = true) (acts : applyActions (some p) flow.actions dp = .ok (dp, sent)) :
    dp.releaseToFlow flow id = .ok ({ dp with heap := dp.heap.set p none }, sent ++ [.delete p]) := by
  rw [releaseToFlow, if_neg named, bufferedPacket_stored stored]
  simp only [deref_stored cell, extracted, accepted, acts, deletePacket_stored cell, bind, Except.bind]
  rfl

end Stored

end Datapath

end Libfluid.Switch
