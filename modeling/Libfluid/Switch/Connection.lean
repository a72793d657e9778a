import Libfluid.Switch.Ownership

namespace Libfluid.Switch
open Library

namespace Datapath

variable {dp dp' : Datapath} {pkt : Option Ptr} {sent : List Effect} {event : Event}

theorem iterate_bufferPacket_conn (n : Nat) (dp : Datapath) (pkt : Option Ptr) :
    ((bufferPacket pkt)^[n] dp).conn = dp.conn := by
  induction n generalizing dp with
  | zero => rfl
  | succ n ih => exact ih _

theorem bufferedPacket_conn (dp : Datapath) (id : BitVec 32) : (dp.bufferedPacket id).1.conn = dp.conn := by
  simp only [bufferedPacket]
  split <;> rfl

theorem packetOutPacket_conn (dp : Datapath) (po : PacketOut) : (dp.packetOutPacket po).1.conn = dp.conn := by
  simp only [packetOutPacket]
  split
  · rfl
  · exact bufferedPacket_conn dp _

theorem deletePacket_conn (run : dp.deletePacket pkt = .ok (dp', sent)) : dp'.conn = dp.conn := by
  rcases deletePacket_ok run with ⟨-, rfl⟩ | ⟨p, packet, -, -, rfl⟩ <;> rfl

theorem releaseToFlow_conn {flow : Flow} {bufferId : BitVec 32}
    (run : dp.releaseToFlow flow bufferId = .ok (dp', sent)) :
    dp'.conn = dp.conn := by
  rcases releaseToFlow_ok run with ⟨-, rfl⟩ | ⟨-, packet, pktMatch, -, -, ⟨-, rfl⟩ | ⟨-, deleted, released⟩⟩
  · rfl
  · exact bufferedPacket_conn dp _
  · rw [deletePacket_conn released, iterate_bufferPacket_conn, bufferedPacket_conn]

def connAfter (conn : Bool) : Event → Bool
  | .connection up => up
  | .capture .. | .packetOut _ | .flowMod _ | .overwrite .. => conn

theorem step_conn (run : dp.step event = .ok (dp', sent)) : dp'.conn = connAfter dp.conn event := by
  cases event with
  | capture packet len =>
      obtain ⟨pktMatch, extracted⟩ := extract_total packet
      rw [packetHandler_ok extracted run, iterate_bufferPacket_conn]
      rfl
  | packetOut po =>
      obtain ⟨deleted, released⟩ := handlePacketOut_ok run
      rw [deletePacket_conn released, iterate_bufferPacket_conn, packetOutPacket_conn]
      rfl
  | flowMod fm =>
      simp only [step, handleFlowMod] at run
      cases command : fm.command <;> simp only [command] at run
      case add => exact (releaseToFlow_conn run).trans rfl
      all_goals
        cases run
        rfl
  | connection up | overwrite p index byte =>
      cases run
      rfl

def Fault.Unconnected (fault : Fault) : Prop := fault = .noConnection

theorem deref_connected : Avoids Fault.Unconnected (dp.deref pkt) := by
  rintro fault rfl failed
  cases pkt with
  | none => cases failed
  | some p =>
      rw [deref] at failed
      split at failed <;> cases failed

theorem deletePacket_connected : Avoids Fault.Unconnected (dp.deletePacket pkt) := by
  rintro fault rfl failed
  cases pkt with
  | none => cases failed
  | some p =>
      rw [deletePacket] at failed
      split at failed <;> cases failed

theorem portOutputPacket_connected {number : BitVec 16} {data : Frame} :
    Avoids Fault.Unconnected (dp.portOutputPacket number data) := by
  rintro fault rfl failed
  rw [portOutputPacket] at failed
  split_ifs at failed
  · cases failed
  · split at failed <;> cases failed

theorem flood_connected (ports : List Nat) : Avoids Fault.Unconnected (dp.flood pkt ports) := by
  induction ports with
  | nil => exact avoids_ok _
  | cons portNo rest ih =>
      refine avoids_bind deref_connected fun packet _ => avoids_bind ih fun sent _ => ?_
      split_ifs <;> exact avoids_ok _

theorem actionHandler_connected (connected : dp.conn = true) (act : Action) :
    Avoids Fault.Unconnected (dp.actionHandler pkt act) := by
  have buffered : (dp.bufferPacket pkt).conn = true := connected
  cases act with
  | other type => exact avoids_ok _
  | output port maxLen =>
      simp only [actionHandler, buffered]
      split_ifs
      · exact avoids_bind deref_connected fun packet _ => avoids_bind portOutputPacket_connected fun sent _ => avoids_ok _
      · exact avoids_bind (flood_connected _) fun sent _ => avoids_ok _
      · exact avoids_bind deref_connected fun packet _ => avoids_ok _
      · exact avoids_bind deref_connected fun packet _ => avoids_bind portOutputPacket_connected fun sent _ => avoids_ok _

theorem applyActions_connected (connected : dp.conn = true) (acts : List Action) :
    Avoids Fault.Unconnected (applyActions pkt acts dp) := by
  induction acts generalizing dp with
  | nil => exact avoids_ok _
  | cons act rest ih =>
      refine avoids_bind (actionHandler_connected connected act) fun result run => ?_
      have still : result.1.conn = true := by
        rw [actionHandler_ok run]
        split_ifs <;> exact connected
      exact avoids_bind (ih still) fun _ _ => avoids_ok _

theorem release_connected (connected : dp.conn = true) (acts : List Action) :
    Avoids Fault.Unconnected (do
      let (dp, sent) ← applyActions pkt acts dp
      let (dp, deleted) ← dp.deletePacket pkt
      return (dp, sent ++ deleted)) :=
  avoids_bind (applyActions_connected connected acts) fun _ _ => avoids_bind deletePacket_connected fun _ _ => avoids_ok _

theorem releaseToFlow_connected (connected : dp.conn = true) (flow : Flow) (bufferId : BitVec 32) :
    Avoids Fault.Unconnected (dp.releaseToFlow flow bufferId) := by
  rw [releaseToFlow]
  split_ifs
  · exact avoids_ok _
  · refine avoids_bind deref_connected fun packet _ =>
      avoids_bind (avoids_of_total (extract_total packet)) fun pktMatch _ => ?_
    split_ifs
    · exact release_connected ((bufferedPacket_conn dp bufferId).trans connected) _
    · exact avoids_ok _

theorem capture_missed (empty : dp.flowTable = .empty) (packet : Packet) (len : BitVec 32) :
    dp.step (.capture packet len) = .ok ((dp.newPacket packet).1.reportMiss dp.heap.length packet len) := by
  obtain ⟨pktMatch, extracted⟩ := extract_total packet
  have missed : dp.selectFlow pktMatch = none := by
    rw [selectFlow, empty]
    rfl
  rw [step, packetHandler_eq extracted, missed]

theorem capture_silent (unconnected : dp.conn = false) (empty : dp.flowTable = .empty) {packet : Packet}
    {len : BitVec 32} (run : dp.step (.capture packet len) = .ok (dp', sent)) : sent = [] := by
  rw [capture_missed empty, reportMiss] at run
  have down : ((dp.newPacket packet).1.bufferPacket (some dp.heap.length)).conn ≠ true := by
    exact Bool.eq_false_iff.mp unconnected
  rw [if_neg down] at run
  cases run
  rfl

theorem step_connected (connected : dp.conn = true ∨ dp.flowTable = .empty ∧ ∃ packet len, event = .capture packet len) :
    Avoids Fault.Unconnected (dp.step event) := by
  rcases connected with connected | ⟨empty, packet, len, rfl⟩
  · cases event with
    | capture packet len =>
        obtain ⟨pktMatch, extracted⟩ := extract_total packet
        rw [step, packetHandler_eq extracted]
        split
        · exact applyActions_connected (show (dp.newPacket packet).1.conn = true from connected) _
        · exact avoids_ok _
    | packetOut po =>
        exact release_connected ((packetOutPacket_conn dp po).trans connected) po.actions
    | connection up | overwrite p index byte => exact avoids_ok _
    | flowMod fm =>
        simp only [step, handleFlowMod]
        cases fm.command with
        | delete | modify | modifyStrict | deleteStrict => exact avoids_ok _
        | add => exact releaseToFlow_connected (by exact connected) fm.flow fm.bufferId
  · rw [capture_missed empty]
    exact avoids_ok _

end Datapath

end Libfluid.Switch
