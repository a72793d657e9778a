import Libfluid.Switch.Announce

namespace Libfluid.Switch
open Library

namespace Datapath

variable {dp dp' : Datapath} {event : Event} {sent : List Effect} {p : Ptr} {n : Nat} {events : List Event}

def Lost (dp : Datapath) (p : Ptr) : Prop := dp.Live p ∧ ∀ id, (id, some p) ∉ dp.pktBuffer

/-- A frame is stored once for each output to the controller, or once when it misses; here it gets no id that is
free. -/
def Loses (dp : Datapath) (packet : Packet) : Prop :=
  ∀ pktMatch, extract packet = .ok pktMatch → ∀ id, ¬ dp.Assigns (dp.storings pktMatch) id

/-! ## One step -/

theorem not_lost_beyond (beyond : dp.heap.length ≤ p) : ¬ dp.Lost p := by
  rintro ⟨⟨packet, cell⟩, -⟩
  rw [List.getElem?_eq_none beyond] at cell
  cases cell

theorem lost_old (below : dp.StoredBelow) (run : dp.step event = .ok (dp', sent)) (old : p < dp.heap.length) :
    dp'.Lost p ↔ dp.Lost p := by
  obtain ⟨pkt, works, uses⟩ := step_worksOn below run
  by_cases used : pkt = some p
  · rcases uses p used with new | ⟨id, packet, stored, -, -⟩ | ⟨index, byte, rfl⟩
    · exact absurd new (Nat.ne_of_lt old)
    · exact iff_of_false (fun lost => lost.2 id (works.kept _ stored)) fun lost => lost.2 id stored
    · simp only [step, Except.ok.injEq, Prod.mk.injEq] at run
      obtain ⟨rfl, -⟩ := run
      exact and_congr_left fun _ => live_overwrite
  · have live : dp'.Live p ↔ dp.Live p := by rw [Live, Live, works.same p old used]
    have stored (id : BitVec 32) : (id, some p) ∈ dp'.pktBuffer ↔ (id, some p) ∈ dp.pktBuffer := by
      constructor
      · intro member
        exact (works.added id p member).resolve_right used
      · exact works.kept _
    rw [Lost, Lost, live]
    simp only [stored]

theorem lost_captured (below : dp.StoredBelow) {packet : Packet} {len : BitVec 32}
    (run : dp.step (.capture packet len) = .ok (dp', sent)) : dp'.Lost dp.heap.length ↔ dp.Loses packet := by
  obtain ⟨pktMatch, extracted⟩ := extract_total packet
  have after := packetHandler_ok extracted run
  have live : dp'.Live dp.heap.length := by
    rw [after, live_congr (iterate_bufferPacket_heap _ _ _)]
    exact live_newPacket.mpr (Or.inr rfl)
  have fresh (id : BitVec 32) : (id, some dp.heap.length) ∉ dp.pktBuffer := fun member =>
    Nat.lt_irrefl _ (below id _ member)
  have stored (id : BitVec 32) : (id, some dp.heap.length) ∈ dp'.pktBuffer ↔ dp.Assigns (dp.storings pktMatch) id := by
    rw [after, mem_iterate_bufferPacket]
    exact (or_iff_right (fresh id)).trans (and_iff_right rfl)
  rw [Lost, Loses]
  simp only [stored]
  constructor
  · rintro ⟨-, unassigned⟩ pktMatch' extracted'
    cases extracted.symm.trans extracted'
    exact unassigned
  · exact fun loses => ⟨live, loses pktMatch extracted⟩

theorem length_heap_capture {packet : Packet} {len : BitVec 32}
    (run : dp.step (.capture packet len) = .ok (dp', sent)) :
    dp'.heap.length = dp.heap.length + 1 := by
  obtain ⟨pktMatch, extracted⟩ := extract_total packet
  rw [packetHandler_ok extracted run, iterate_bufferPacket_heap, newPacket, List.length_append, List.length_singleton]

theorem not_live_beyond (other : ∀ packet len, event ≠ .capture packet len) (run : dp.step event = .ok (dp', sent))
    (beyond : dp.heap.length ≤ p) : ¬ dp'.Live p := by
  have outside {dp₁ : Datapath} (heap : dp₁.heap.length ≤ p) : ¬ dp₁.Live p := by
    rintro ⟨packet, cell⟩
    rw [List.getElem?_eq_none heap] at cell
    cases cell
  have deleted {dp₁ : Datapath} {pkt : Option Ptr} {sent : List Effect} (heap : dp₁.heap.length ≤ p)
      (released : dp₁.deletePacket pkt = .ok (dp', sent)) : ¬ dp'.Live p := by
    rcases deletePacket_ok released with ⟨-, rfl⟩ | ⟨q, packet, -, -, rfl⟩
    · exact outside heap
    · exact outside ((List.length_set ..).le.trans heap)
  cases event with
  | capture packet len => exact absurd rfl (other packet len)
  | connection up =>
      cases run
      exact outside beyond
  | overwrite q index byte =>
      cases run
      exact outside ((length_overwrite q index byte).le.trans beyond)
  | packetOut po =>
      obtain ⟨sent', released⟩ := handlePacketOut_ok run
      by_cases brought : po.bufferId = noBuffer
      · rw [packetOutPacket, if_pos brought] at released
        rcases deletePacket_ok released with ⟨none, -⟩ | ⟨q, packet, same, -, rfl⟩
        · cases none
        · cases same
          by_cases here : p = dp.heap.length
          · intro live
            exact (live_set_none.mp live).1 here
          · refine outside ?_
            have longer : dp.heap.length < p := Nat.lt_of_le_of_ne beyond (Ne.symm here)
            simpa [newPacket] using Nat.succ_le_of_lt longer
      · rw [packetOutPacket, if_neg brought] at released
        exact deleted (by simpa using beyond) released
  | flowMod fm =>
      simp only [step, handleFlowMod] at run
      cases command : fm.command with
      | delete | modify | modifyStrict | deleteStrict =>
          simp only [command] at run
          cases run
          exact outside beyond
      | add =>
          simp only [command] at run
          rcases releaseToFlow_ok run with ⟨-, rfl⟩ | ⟨-, packet, pktMatch, -, -, ⟨-, rfl⟩ | ⟨-, sent', released⟩⟩
          · exact outside beyond
          · exact outside (by simpa using beyond)
          · exact deleted (by simpa using beyond) released

theorem step_lost_iff (below : dp.StoredBelow) (run : dp.step event = .ok (dp', sent)) :
    dp'.Lost p ↔ dp.Lost p ∨ p = dp.heap.length ∧ ∃ packet len, event = .capture packet len ∧ dp.Loses packet := by
  by_cases old : p < dp.heap.length
  · rw [lost_old below run old]
    exact (or_iff_left fun new => Nat.ne_of_lt old new.1).symm
  · have beyond := Nat.le_of_not_lt old
    rw [or_iff_right (not_lost_beyond beyond)]
    by_cases captured : ∃ packet len, event = .capture packet len
    · obtain ⟨packet, len, rfl⟩ := captured
      by_cases here : p = dp.heap.length
      · subst here
        rw [lost_captured below run]
        constructor
        · exact fun loses => ⟨rfl, packet, len, rfl, loses⟩
        · rintro ⟨-, packet', len', same, loses⟩
          cases same
          exact loses
      · refine iff_of_false (not_lost_beyond ?_) fun new => here new.1
        rw [length_heap_capture run]
        exact Nat.lt_of_le_of_ne beyond (Ne.symm here)
    · have other : ∀ packet len, event ≠ .capture packet len := fun packet len same => captured ⟨packet, len, same⟩
      refine iff_of_false (fun lost => not_live_beyond other run beyond lost.1) ?_
      rintro ⟨-, packet, len, same, -⟩
      exact other packet len same

/-! ## Runs -/

theorem run_storedBelow (run : Run Steps (create n) events dp) : dp.StoredBelow := by
  refine Run.invariant ?_ ?_ run
  · intro dp event dp' below steps
    obtain ⟨sent, run⟩ := steps
    obtain ⟨pkt, works, -⟩ := step_worksOn below run
    exact works.storedBelow below
  · intro id p member
    exact absurd member List.not_mem_nil

/-- What is lost after a run are the frames that were forwarded without a copy to the controller and those whose ids
were taken, each since it came in. -/
theorem run_lost_iff (n : Nat) (events : List Event) (dp : Datapath) (run : Run Steps (create n) events dp) (p : Ptr) :
    dp.Lost p ↔ ∃ before packet len after, Takes Steps (create n) events before (.capture packet len) after ∧
      p = before.heap.length ∧ before.Loses packet := by
  induction run with
  | start =>
      constructor
      · exact fun lost => absurd lost (not_lost_beyond (Nat.zero_le p))
      · rintro ⟨before, packet, len, after, takes, -⟩
        exact absurd takes.mem List.not_mem_nil
  | @step past event before after reached steps ih =>
      obtain ⟨sent, run⟩ := steps
      rw [step_lost_iff (run_storedBelow reached) run, ih]
      simp only [takes_snoc_iff]
      constructor
      · rintro (⟨before', packet, len, after', takes, lost⟩ | ⟨here, packet, len, rfl, loses⟩)
        · exact ⟨before', packet, len, after', Or.inl takes, lost⟩
        · exact ⟨before, packet, len, after, Or.inr ⟨rfl, reached, sent, run⟩, here, loses⟩
      · rintro ⟨before', packet, len, after', takes | ⟨rfl, reached', -⟩, here, loses⟩
        · exact Or.inl ⟨before', packet, len, after', takes, here, loses⟩
        · obtain rfl := Run.unique steps_unique reached reached'
          exact Or.inr ⟨here, packet, len, rfl, loses⟩

theorem forwarded_frame_lost : ∃ dp, Run Steps (create 2) [.flowMod (openFlowMod 7), missed] dp ∧ dp.Lost 0 := by
  have installed := run_flowMods (create 2) [openFlowMod 7] (by decide)
  have advance : Steps { create 2 with flowTable := updateTable .empty (openFlowMod 7) } missed
      { create 2 with flowTable := updateTable .empty (openFlowMod 7), heap := [some ⟨1, []⟩] } := ⟨_, rfl⟩
  have run := installed.step advance
  refine ⟨_, run, (run_lost_iff _ _ _ run 0).mpr ⟨_, _, _, _, ⟨_, List.prefix_rfl, installed, advance⟩, rfl, ?_⟩⟩
  rintro pktMatch extracted id ⟨-, i, small, -⟩
  cases extracted
  exact absurd small (Nat.not_lt_zero i)

end Datapath

end Libfluid.Switch
