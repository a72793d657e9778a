import Libfluid.Switch.FlowTable

namespace Libfluid.Switch
open Library

def Action.erase : Action → Action
  | .output port maxLen => .output port (if port = ofppController then maxLen else 0)
  | .other type => .other type

def Flow.erase (flow : Flow) : Flow := { flow with actions := flow.actions.map Action.erase }

def FlowMod.erase (fm : FlowMod) : FlowMod := { fm with actions := fm.actions.map Action.erase }

def PacketOut.erase (po : PacketOut) : PacketOut := { po with actions := po.actions.map Action.erase }

def Event.erase : Event → Event
  | .capture packet len => .capture packet len
  | .packetOut po => .packetOut po.erase
  | .flowMod fm => .flowMod fm.erase
  | .connection up => .connection up
  | .overwrite pkt index byte => .overwrite pkt index byte

theorem cmpPriority_erase (lhs rhs : Flow) : cmpPriority lhs rhs ↔ cmpPriority lhs.erase rhs.erase := Iff.rfl

namespace Datapath

def erase (dp : Datapath) : Datapath := { dp with flowTable := dp.flowTable.map Flow.erase cmpPriority_erase }

def eraseResult (result : Result) : Result := result.map fun done => (done.1.erase, done.2)

def run (dp : Datapath) : List Event → Result
  | [] => .ok (dp, [])
  | event :: rest => do
      let (dp, sent) ← dp.step event
      let (dp, later) ← run dp rest
      return (dp, sent ++ later)

variable {dp dp' : Datapath} {pkt : Option Ptr}

/-! ## Functions that do not read the table -/

theorem eraseResult_bind {result : Result} {rest rest' : Datapath × List Effect → Result}
    (same : ∀ done, rest' (done.1.erase, done.2) = eraseResult (rest done)) :
    eraseResult result >>= rest' = eraseResult (result >>= rest) := by
  cases result with
  | error fault => rfl
  | ok done => exact same done

theorem bind_eraseResult {α : Type} {first : Except Fault α} {rest rest' : α → Result}
    (same : ∀ a, rest' a = eraseResult (rest a)) : first >>= rest' = eraseResult (first >>= rest) := by
  cases first with
  | error fault => rfl
  | ok a => exact same a

theorem eraseResult_ite {c : Prop} [Decidable c] {x y x' y' : Result} (pos : x' = eraseResult x)
    (neg : y' = eraseResult y) : (if c then x' else y') = eraseResult (if c then x else y) := by
  split_ifs
  · exact pos
  · exact neg

theorem deref_erase (dp : Datapath) (pkt : Option Ptr) : dp.erase.deref pkt = dp.deref pkt := by
  cases pkt <;> rfl

theorem flood_erase (dp : Datapath) (pkt : Option Ptr) (ports : List Nat) :
    dp.erase.flood pkt ports = dp.flood pkt ports := by
  induction ports with
  | nil => rfl
  | cons portNo rest ih => rw [flood, flood, deref_erase, ih]

theorem portOutputPacket_erase (dp : Datapath) (number : BitVec 16) (data : Frame) :
    dp.erase.portOutputPacket number data = dp.portOutputPacket number data := rfl

theorem bufferedPacket_erase (dp : Datapath) (id : BitVec 32) :
    dp.erase.bufferedPacket id = ((dp.bufferedPacket id).1.erase, (dp.bufferedPacket id).2) := by
  cases found : dp.pktBuffer.lookup id with
  | none =>
      have found' : dp.erase.pktBuffer.lookup id = none := found
      simp only [bufferedPacket, found, found']
      rfl
  | some pkt =>
      have found' : dp.erase.pktBuffer.lookup id = some pkt := found
      simp only [bufferedPacket, found, found']

theorem deletePacket_erase (dp : Datapath) (pkt : Option Ptr) :
    dp.erase.deletePacket pkt = eraseResult (dp.deletePacket pkt) := by
  cases pkt with
  | none => rfl
  | some p =>
      cases cell : dp.heap[p]? with
      | none =>
          have cell' : dp.erase.heap[p]? = none := cell
          simp only [deletePacket, cell, cell']
          rfl
      | some content =>
          have cell' : dp.erase.heap[p]? = some content := cell
          cases content with
          | none =>
              simp only [deletePacket, cell, cell']
              rfl
          | some packet =>
              simp only [deletePacket, cell, cell']
              rfl

theorem actionHandler_erase (dp : Datapath) (pkt : Option Ptr) (act : Action) :
    dp.erase.actionHandler pkt act.erase = eraseResult (dp.actionHandler pkt act) := by
  cases act with
  | other type => rfl
  | output port maxLen =>
      rw [Action.erase, actionHandler, actionHandler]
      refine eraseResult_ite ?_ (eraseResult_ite ?_ ?_)
      · rw [deref_erase]
        refine bind_eraseResult fun packet => ?_
        rw [portOutputPacket_erase]
        exact bind_eraseResult fun sent => rfl
      · show (dp.erase.flood pkt dp.ports >>= _) = _
        rw [flood_erase]
        exact bind_eraseResult fun sent => rfl
      · by_cases controller : port = ofppController
        · rw [if_pos controller, if_pos controller, if_pos controller]
          show (dp.bufferPacket pkt).erase.deref pkt >>= _ = eraseResult ((dp.bufferPacket pkt).deref pkt >>= _)
          rw [deref_erase]
          exact bind_eraseResult fun packet => eraseResult_ite rfl rfl
        · rw [if_neg controller, if_neg controller, deref_erase]
          refine bind_eraseResult fun packet => ?_
          rw [portOutputPacket_erase]
          exact bind_eraseResult fun sent => rfl

theorem applyActions_erase (dp : Datapath) (pkt : Option Ptr) (acts : List Action) :
    applyActions pkt (acts.map Action.erase) dp.erase = eraseResult (applyActions pkt acts dp) := by
  induction acts generalizing dp with
  | nil => rfl
  | cons act rest ih =>
      rw [List.map_cons, applyActions, applyActions, actionHandler_erase]
      refine eraseResult_bind fun handled => ?_
      show applyActions pkt (rest.map Action.erase) handled.1.erase >>= _ = _
      rw [ih]
      exact eraseResult_bind fun applied => rfl

def release (dp : Datapath) (pkt : Option Ptr) (acts : List Action) : Result := do
  let (dp, sent) ← applyActions pkt acts dp
  let (dp, deleted) ← dp.deletePacket pkt
  return (dp, sent ++ deleted)

theorem release_erase (dp : Datapath) (pkt : Option Ptr) (acts : List Action) :
    dp.erase.release pkt (acts.map Action.erase) = eraseResult (dp.release pkt acts) := by
  rw [release, release, applyActions_erase]
  refine eraseResult_bind fun applied => ?_
  show applied.1.erase.deletePacket pkt >>= _ = _
  rw [deletePacket_erase]
  exact eraseResult_bind fun deleted => rfl

/-! ## The table -/

theorem addFlow_erase (table : FlowTable) (flow : Flow) :
    addFlow (table.map Flow.erase cmpPriority_erase) flow.erase =
      (addFlow table flow).map Flow.erase cmpPriority_erase := by
  rw [addFlow, addFlow, OrderedSet.eraseFirst_map, OrderedSet.insert_map]
  rfl

theorem selectFlow_erase (dp : Datapath) (pktMatch : Match) :
    dp.erase.selectFlow pktMatch = (dp.selectFlow pktMatch).map Flow.erase := by
  show (dp.flowTable.map Flow.erase cmpPriority_erase).find? _ = _
  rw [OrderedSet.find?_map]
  rfl

theorem releaseToFlow_erase (dp : Datapath) (flow : Flow) (bufferId : BitVec 32) :
    dp.erase.releaseToFlow flow.erase bufferId = eraseResult (dp.releaseToFlow flow bufferId) := by
  rw [releaseToFlow, releaseToFlow, bufferedPacket_erase]
  refine eraseResult_ite rfl ?_
  show (dp.bufferedPacket bufferId).1.erase.deref (dp.bufferedPacket bufferId).2 >>= _ = _
  rw [deref_erase]
  refine bind_eraseResult fun packet => bind_eraseResult fun pktMatch => ?_
  exact eraseResult_ite (release_erase _ _ _) rfl

theorem handleFlowMod_erase (dp : Datapath) (fm : FlowMod) :
    dp.erase.handleFlowMod fm.erase = eraseResult (dp.handleFlowMod fm) := by
  obtain ⟨command, match_, priority, bufferId, actions⟩ := fm
  cases command with
  | add =>
      let flow : Flow := { match_ := match_, priority := priority, actions := actions }
      have added : addFlow dp.erase.flowTable flow.erase = (addFlow dp.flowTable flow).map Flow.erase cmpPriority_erase :=
        addFlow_erase dp.flowTable flow
      show releaseToFlow { dp.erase with flowTable := addFlow dp.erase.flowTable flow.erase } flow.erase bufferId =
        eraseResult (releaseToFlow { dp with flowTable := addFlow dp.flowTable flow } flow bufferId)
      rw [added]
      exact releaseToFlow_erase { dp with flowTable := addFlow dp.flowTable flow } flow bufferId
  | delete =>
      let flow : Flow := { match_ := match_ }
      have kept : (dp.erase.flowTable.filter fun entry => !flow.nonStrictMatch entry) =
          (dp.flowTable.filter fun entry => !flow.nonStrictMatch entry).map Flow.erase cmpPriority_erase :=
        OrderedSet.filter_map cmpPriority_erase _
      show Except.ok ({ dp.erase with flowTable := dp.erase.flowTable.filter fun entry => !flow.nonStrictMatch entry }, []) =
        _
      rw [kept]
      rfl
  | modify | modifyStrict | deleteStrict => rfl

theorem packetOutPacket_erase (dp : Datapath) (po : PacketOut) :
    dp.erase.packetOutPacket po.erase = ((dp.packetOutPacket po).1.erase, (dp.packetOutPacket po).2) := by
  by_cases unnamed : po.bufferId = noBuffer
  · have unnamed' : po.erase.bufferId = noBuffer := unnamed
    rw [packetOutPacket, packetOutPacket, if_pos unnamed, if_pos unnamed']
    rfl
  · have unnamed' : ¬ po.erase.bufferId = noBuffer := unnamed
    rw [packetOutPacket, packetOutPacket, if_neg unnamed, if_neg unnamed']
    exact bufferedPacket_erase dp po.bufferId

theorem handlePacketOut_eq (dp : Datapath) (po : PacketOut) :
    dp.handlePacketOut po = (dp.packetOutPacket po).1.release (dp.packetOutPacket po).2 po.actions := by
  by_cases unnamed : po.bufferId = noBuffer
  · rw [handlePacketOut, packetOutPacket, if_pos unnamed, if_pos unnamed]
    rfl
  · rw [handlePacketOut, packetOutPacket, if_neg unnamed, if_neg unnamed]
    rfl

theorem handlePacketOut_erase (dp : Datapath) (po : PacketOut) :
    dp.erase.handlePacketOut po.erase = eraseResult (dp.handlePacketOut po) := by
  rw [handlePacketOut_eq, handlePacketOut_eq, packetOutPacket_erase]
  exact release_erase _ _ _

theorem packetHandler_erase (dp : Datapath) (packet : Packet) (len : BitVec 32) :
    dp.erase.packetHandler packet len = eraseResult (dp.packetHandler packet len) := by
  obtain ⟨pktMatch, extracted⟩ := extract_total packet
  rw [packetHandler_eq extracted, packetHandler_eq extracted, selectFlow_erase]
  cases dp.selectFlow pktMatch with
  | none =>
      show Except.ok ((dp.newPacket packet).1.erase.reportMiss dp.heap.length packet len) =
        eraseResult (Except.ok ((dp.newPacket packet).1.reportMiss dp.heap.length packet len))
      rw [reportMiss, reportMiss]
      by_cases up : dp.conn = true
      · have connected : ((dp.newPacket packet).1.bufferPacket (some dp.heap.length)).conn = true := up
        rw [if_pos connected, if_pos (show ((dp.newPacket packet).1.erase.bufferPacket _).conn = true from up)]
        rfl
      · have unconnected : ¬ ((dp.newPacket packet).1.bufferPacket (some dp.heap.length)).conn = true := up
        rw [if_neg unconnected, if_neg (show ¬ ((dp.newPacket packet).1.erase.bufferPacket _).conn = true from up)]
        rfl
  | some entry => exact applyActions_erase (dp.newPacket packet).1 (some dp.heap.length) entry.actions

theorem step_erase (dp : Datapath) (event : Event) : dp.erase.step event.erase = eraseResult (dp.step event) := by
  cases event with
  | capture packet len => exact packetHandler_erase dp packet len
  | packetOut po => exact handlePacketOut_erase dp po
  | flowMod fm => exact handleFlowMod_erase dp fm
  | connection up | overwrite p index byte => rfl

theorem run_erase (dp : Datapath) (events : List Event) :
    dp.erase.run (events.map Event.erase) = eraseResult (dp.run events) := by
  induction events generalizing dp with
  | nil => rfl
  | cons event rest ih =>
      rw [List.map_cons, run, run, step_erase]
      refine eraseResult_bind fun stepped => ?_
      show stepped.1.erase.run (rest.map Event.erase) >>= _ = _
      rw [ih]
      exact eraseResult_bind fun later => rfl

/-- Events that differ in such lengths only have the same effects to the end of the run. -/
theorem run_alike (dp : Datapath) {events events' : List Event}
    (same : events.map Event.erase = events'.map Event.erase) :
    (dp.run events).map Prod.snd = (dp.run events').map Prod.snd := by
  have effects (result : Result) : (eraseResult result).map Prod.snd = result.map Prod.snd := by
    cases result <;> rfl
  rw [← effects, ← run_erase, same, run_erase, effects]

end Datapath

end Libfluid.Switch
