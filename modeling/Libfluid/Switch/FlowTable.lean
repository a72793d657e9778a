import Libfluid.Library.Run
import Libfluid.Switch.Fields
import Libfluid.Switch.Reads
import Libfluid.Switch.Steps

namespace Libfluid.Switch
open Library

abbrev FlowTable := OrderedSet Flow cmpPriority

namespace Datapath

def create (n : Nat) : Datapath where
  flowTable := OrderedSet.empty
  pktBuffer := OrderedMap.empty
  ports := (List.range n).map (· + 1)
  conn := false
  bufferId := 0
  heap := []

def updateTable (table : FlowTable) (fm : FlowMod) : FlowTable :=
  match fm.command with
  | .add => addFlow table fm.flow
  | .delete => table.filter fun entry => !({ match_ := fm.match_ : Flow }.nonStrictMatch entry)
  | .modify | .modifyStrict | .deleteStrict => table

def tableAfter (table : FlowTable) : Event → FlowTable
  | .flowMod fm => updateTable table fm
  | .capture .. | .packetOut _ | .connection _ | .overwrite .. => table

section Frame

variable (dp : Datapath) (pkt : Option Ptr)

@[simp] theorem iterate_bufferPacket_flowTable (n : Nat) :
    ((bufferPacket pkt)^[n] dp).flowTable = dp.flowTable := by
  induction n generalizing dp with
  | zero => rfl
  | succ n ih => exact ih _

@[simp] theorem iterate_bufferPacket_heap (n : Nat) : ((bufferPacket pkt)^[n] dp).heap = dp.heap := by
  induction n generalizing dp with
  | zero => rfl
  | succ n ih => exact ih _

@[simp] theorem bufferedPacket_flowTable (id : BitVec 32) :
    (dp.bufferedPacket id).1.flowTable = dp.flowTable := by
  simp only [bufferedPacket]
  split <;> rfl

@[simp] theorem bufferedPacket_heap (id : BitVec 32) : (dp.bufferedPacket id).1.heap = dp.heap := by
  simp only [bufferedPacket]
  split <;> rfl

@[simp] theorem newPacket_flowTable (packet : Packet) : (dp.newPacket packet).1.flowTable = dp.flowTable := rfl

theorem packetOutPacket_flowTable (po : PacketOut) :
    (dp.packetOutPacket po).1.flowTable = dp.flowTable := by
  simp only [packetOutPacket]
  split <;> simp

end Frame

variable {dp dp' : Datapath} {pkt : Option Ptr} {sent : List Effect}

theorem deletePacket_flowTable (run : dp.deletePacket pkt = .ok (dp', sent)) :
    dp'.flowTable = dp.flowTable := by
  rcases deletePacket_ok run with ⟨-, rfl⟩ | ⟨p, packet, -, -, rfl⟩ <;> rfl

theorem releaseToFlow_flowTable {flow : Flow} {bufferId : BitVec 32}
    (run : dp.releaseToFlow flow bufferId = .ok (dp', sent)) : dp'.flowTable = dp.flowTable := by
  rcases releaseToFlow_ok run with ⟨-, rfl⟩ | ⟨-, packet, pktMatch, -, -, ⟨-, rfl⟩ | ⟨-, deleted, released⟩⟩
  · rfl
  · simp
  · simpa using deletePacket_flowTable released

theorem step_flowTable {event : Event} (advance : dp.Steps event dp') :
    dp'.flowTable = tableAfter dp.flowTable event := by
  obtain ⟨sent, run⟩ := advance
  cases event with
  | capture packet len =>
      obtain ⟨pktMatch, extracted⟩ := extract_total packet
      simp [packetHandler_ok extracted run, tableAfter]
  | packetOut po =>
      obtain ⟨deleted, released⟩ := handlePacketOut_ok run
      simpa [packetOutPacket_flowTable, tableAfter] using deletePacket_flowTable released
  | flowMod fm =>
      simp only [step, handleFlowMod] at run
      simp only [tableAfter, updateTable]
      cases command : fm.command <;> simp only [command] at run ⊢
      case add => exact releaseToFlow_flowTable run
      all_goals
        simp only [Except.ok.injEq, Prod.mk.injEq] at run
        rw [← run.1]
  | connection up | overwrite p index byte =>
      cases run
      rfl

/-! ## The entry that serves a frame -/

def Accepted (dp : Datapath) (packet : Packet) (entry : Flow) : Prop :=
  entry ∈ dp.flowTable ∧ ∃ pktMatch, extract packet = .ok pktMatch ∧ entry.pktMatch pktMatch = true

def Executes (dp : Datapath) (packet : Packet) (len : BitVec 32) (entry : Flow) : Prop :=
  (∃ pktMatch, extract packet = .ok pktMatch ∧ dp.selectFlow pktMatch = some entry) ∧
    dp.packetHandler packet len = applyActions (some dp.heap.length) entry.actions (dp.newPacket packet).1

def Reports (dp : Datapath) (packet : Packet) (len : BitVec 32) : Prop :=
  dp.packetHandler packet len = .ok ((dp.newPacket packet).1.reportMiss dp.heap.length packet len)

def ServesHighest (dp : Datapath) (packet : Packet) (len : BitVec 32) : Prop :=
  (∃ entry, dp.Accepted packet entry ∧ dp.Executes packet len entry ∧
    ∀ other, dp.Accepted packet other → other.priority ≤ entry.priority) ∨
  (∀ entry, ¬ dp.Accepted packet entry) ∧ dp.Reports packet len

theorem executes_lowest {packet : Packet} {len : BitVec 32} {entry other : Flow}
    (executes : dp.Executes packet len entry) (accepted : dp.Accepted packet other) :
    entry.priority ≤ other.priority := by
  obtain ⟨⟨pktMatch, extracted, selected⟩, -⟩ := executes
  obtain ⟨member, pktMatch', extracted', accepts⟩ := accepted
  rw [extracted, Except.ok.injEq] at extracted'
  subst extracted'
  rcases OrderedSet.find?_first selected member accepts with rfl | before
  · exact BitVec.le_refl _
  · exact before

theorem executes_or_reports (dp : Datapath) (packet : Packet) (len : BitVec 32) :
    (∃ entry, dp.Accepted packet entry ∧ dp.Executes packet len entry) ∨
      (∀ entry, ¬ dp.Accepted packet entry) ∧ dp.Reports packet len := by
  obtain ⟨pktMatch, extracted⟩ := extract_total packet
  have handler := packetHandler_eq extracted dp len
  cases selected : dp.selectFlow pktMatch with
  | some entry =>
      obtain ⟨member, accepts⟩ := OrderedSet.mem_of_find? selected
      refine Or.inl ⟨entry, ⟨member, pktMatch, extracted, accepts⟩, ⟨pktMatch, extracted, selected⟩, ?_⟩
      rw [handler, selected]
  | none =>
      refine Or.inr ⟨?_, by rw [Reports, handler, selected]⟩
      rintro entry ⟨member, pktMatch', extracted', accepts⟩
      rw [extracted, Except.ok.injEq] at extracted'
      subst extracted'
      exact absurd accepts (List.find?_eq_none.mp selected entry member)

theorem servesHighest_iff (dp : Datapath) (packet : Packet) (len : BitVec 32) :
    dp.ServesHighest packet len ↔
      ∀ a b, dp.Accepted packet a → dp.Accepted packet b → a.priority = b.priority := by
  constructor
  · rintro (⟨entry, accepted, executes, highest⟩ | ⟨rejected, -⟩) a b acceptedA acceptedB
    · have level (c : Flow) (acceptedC : dp.Accepted packet c) : c.priority = entry.priority :=
        BitVec.le_antisymm (highest c acceptedC) (executes_lowest executes acceptedC)
      rw [level a acceptedA, level b acceptedB]
    · exact absurd acceptedA (rejected a)
  · intro level
    rcases executes_or_reports dp packet len with ⟨entry, accepted, executes⟩ | missed
    · refine Or.inl ⟨entry, accepted, executes, fun other acceptedOther => ?_⟩
      rw [level other entry acceptedOther accepted]
      exact BitVec.le_refl _
    · exact Or.inr missed

/-- In every state that flow modifications lead to from an empty table, the handler serves the frame by
the entry of greatest priority exactly where all entries that accept the frame have one priority. -/
theorem run_servesHighest_iff (dp₀ : Datapath) (events : List Event) (packet : Packet) (len : BitVec 32) :
    dp₀.flowTable = .empty → ∀ dp, Run Steps dp₀ events dp →
      (dp.ServesHighest packet len ↔
        ∀ a b, dp.Accepted packet a → dp.Accepted packet b → a.priority = b.priority) :=
  fun _ dp _ => servesHighest_iff dp packet len

/-! ## Runs of flow modifications alone -/

theorem steps_flowMod (dp : Datapath) (fm : FlowMod) (unnamed : fm.bufferId = noBuffer) :
    dp.Steps (.flowMod fm) { dp with flowTable := updateTable dp.flowTable fm } := by
  refine ⟨[], ?_⟩
  simp only [step, handleFlowMod, updateTable]
  cases fm.command <;> simp [releaseToFlow, unnamed]

theorem run_flowMods (dp : Datapath) (fms : List FlowMod) (unnamed : ∀ fm ∈ fms, fm.bufferId = noBuffer) :
    Run Steps dp (fms.map .flowMod) { dp with flowTable := fms.foldl updateTable dp.flowTable } := by
  induction fms using List.reverseRecOn with
  | nil => exact .start
  | append_singleton fms fm ih =>
      rw [List.map_append, List.foldl_append]
      exact (ih fun fm member => unnamed fm (by simp [member])).step
        (steps_flowMod _ fm (unnamed fm (by simp)))

def openFlowMod (priority : BitVec 16) : FlowMod where
  command := .add
  match_ :=
    { wildcards := ofpfwAll, inPort := 0, dlSrc := ⟨0, 0, 0, 0, 0, 0⟩, dlDst := ⟨0, 0, 0, 0, 0, 0⟩,
      dlVlan := 0, dlVlanPcp := 0, dlType := 0, nwTos := 0, nwProto := 0, nwSrc := 0, nwDst := 0,
      tpSrc := 0, tpDst := 0 }
  priority := priority
  bufferId := noBuffer
  actions := [.output 1 0]

theorem mem_single_table {entry : Flow} (member : entry ∈ updateTable .empty (openFlowMod 7)) :
    entry = (openFlowMod 7).flow := by
  have single : (updateTable .empty (openFlowMod 7)).toList = [(openFlowMod 7).flow] := by decide
  rw [OrderedSet.mem_def, single] at member
  exact List.mem_singleton.mp member

def typeFlowMod (priority type : BitVec 16) : FlowMod :=
  { openFlowMod priority with
    match_ := { (openFlowMod priority).match_ with wildcards := ofpfwAll ^^^ ofpfwDlType, dlType := type } }

def sampleDatagram : Frame :=
  [2, 0, 0, 0, 0, 2, 2, 0, 0, 0, 0, 1, 8, 0] ++
    [0x45, 0, 0, 32, 0, 0, 0, 0, 64, 17, 0x66, 0xcb, 10, 0, 0, 1, 10, 0, 0, 2] ++
    [3, 0xe8, 7, 0xd0, 0, 12, 0, 0] ++ [1, 2, 3, 4]

def sampleFlowMods : List FlowMod := [typeFlowMod 9 ethTypeArp, openFlowMod 3, typeFlowMod 3 ethTypeIp]

theorem skipVlanTags_sample (m : Match) : skipVlanTags m sampleDatagram ethTypeIp 0 14 = .ok (m, some 14) := by
  rw [skipVlanTags, if_neg (by decide)]
  rfl

theorem sample_accepted {entry : Flow} (accepted : Accepted { create 2 with
    flowTable := sampleFlowMods.foldl updateTable (create 2).flowTable } ⟨1, sampleDatagram⟩ entry) :
    entry.priority = 3 := by
  obtain ⟨member, pktMatch, extracted, accepts⟩ := accepted
  have table : (sampleFlowMods.foldl updateTable (create 2).flowTable).toList =
      [(typeFlowMod 3 ethTypeIp).flow, (openFlowMod 3).flow, (typeFlowMod 9 ethTypeArp).flow] := by decide
  rw [OrderedSet.mem_def, table] at member
  change Except.mapError _ (skipVlanTags _ sampleDatagram ethTypeIp 0 14 >>= _) = _ at extracted
  rw [skipVlanTags_sample] at extracted
  cases extracted
  simp only [List.mem_cons, List.not_mem_nil, or_false] at member
  rcases member with rfl | rfl | rfl
  · rfl
  · rfl
  · exact absurd accepts (by decide)

theorem datagram_servesHighest :
    ∃ dp, Run Steps (create 2) (sampleFlowMods.map .flowMod) dp ∧ dp.ServesHighest ⟨1, sampleDatagram⟩ 46 := by
  have run := run_flowMods (create 2) sampleFlowMods (by decide)
  refine ⟨_, run, (run_servesHighest_iff _ _ _ _ rfl _ run).mpr ?_⟩
  intro a b acceptedA acceptedB
  rw [sample_accepted acceptedA, sample_accepted acceptedB]

theorem overlapping_flows_not_servesHighest :
    ∃ dp, Run Steps (create 2) ([openFlowMod 1, openFlowMod 2].map .flowMod) dp ∧
      ¬ dp.ServesHighest ⟨1, []⟩ 0 := by
  refine ⟨_, run_flowMods (create 2) [openFlowMod 1, openFlowMod 2] (by decide), fun serves => ?_⟩
  have level := (servesHighest_iff _ _ _).mp serves (openFlowMod 1).flow (openFlowMod 2).flow
  exact absurd (level ⟨by decide, _, rfl, by decide⟩ ⟨by decide, _, rfl, by decide⟩) (by decide)

end Datapath

end Libfluid.Switch
