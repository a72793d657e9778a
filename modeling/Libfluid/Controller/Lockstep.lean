import Libfluid.Controller.Loop

namespace Libfluid.Controller
open Library Switch

/-! ## What the applications answer -/

structure Carried (pi : Switch.PacketIn) : Prop where
  named : pi.bufferId ≠ noBuffer
  port : pi.inPort ≠ ofppController
  short : pi.totalLen.toNat ≤ 65511
  inside : pi.totalLen.toNat ≤ 18 + pi.data.length

def BaseLearningSwitch.Learned (P : BitVec 16 → Prop) (app : BaseLearningSwitch) : Prop :=
  ∀ connection l2table, app.applicationData connection = some l2table →
    ∀ key port, l2table.lookup key = some port → P port

def BaseLearningSwitch.Physical (app : BaseLearningSwitch) : Prop := app.Learned (· ≠ ofppController)

def Quiet : Switch.Event → Prop
  | .packetOut po => controllerOutputs po.actions = 0
  | .flowMod fm => controllerOutputs fm.actions = 0
  | .connection _ | .overwrite .. => True
  | .capture _ _ => False

def Answering.Keeps (answering : Answering) (app : BaseLearningSwitch) (event : Event Switch.PacketIn) : Prop :=
  ∀ app' messages, answering app event = .ok (app', messages) →
    app'.Physical ∧ ∀ message ∈ messages, Quiet message

theorem readMessage_packetOut {bytes : List Byte} {po : PacketOut10} (read : readPacketOut bytes = some po) :
    readMessage bytes = some (.packetOut po.toPacketOut) := by
  have type : byteAt bytes 1 = Of10.ofptPacketOut := by
    rw [readPacketOut] at read
    split_ifs at read with accepted
    exact accepted.2.2.1
  rw [readMessage, if_pos type, read]
  rfl

theorem readMessage_flowMod {bytes : List Byte} {fm : FlowMod10} (read : readFlowMod bytes = some fm) :
    readMessage bytes = some (.flowMod fm.toFlowMod) := by
  have type : byteAt bytes 1 = Of10.ofptFlowMod := by
    rw [readFlowMod] at read
    split_ifs at read with accepted
    exact accepted.2.2.1
  rw [readMessage, if_neg (by rw [type]; decide), if_pos type, read]
  rfl

section Learn

variable {P : BitVec 16 → Prop} {app app' : BaseLearningSwitch} {connection : Nat} {decision : Option Decision}

theorem learned_setApplicationData {l2table : L2Table} (learned : app.Learned P)
    (ports : ∀ key port, l2table.lookup key = some port → P port) :
    (app.setApplicationData connection l2table).Learned P := by
  intro other table found
  by_cases same : connection = other
  · rw [← same, BaseLearningSwitch.setApplicationData_self, Option.some.injEq] at found
    rw [← found]
    exact ports
  · rw [BaseLearningSwitch.setApplicationData_of_ne app l2table same] at found
    exact learned other table found

theorem learned_empty (learned : app.Learned P) : (app.setApplicationData connection .empty).Learned P := by
  apply learned_setApplicationData learned
  intro key port found
  cases found

theorem learned_switchDown (learned : app.Learned P) (connection : Nat) : (app.switchDown connection).Learned P := by
  rw [BaseLearningSwitch.switchDown]
  split
  · exact learned
  · exact learned_empty learned

theorem handlePacketIn_learned {l2table l2table' : L2Table} {pi : PacketIn10} (port : P pi.inPort)
    (ports : ∀ key port, l2table.lookup key = some port → P port)
    (run : RawLearningSwitch.handlePacketIn l2table pi = .ok (l2table', decision)) :
    (∀ key port, l2table'.lookup key = some port → P port) ∧
      ∀ src dst outPort, decision = some (.install src dst outPort) → P outPort := by
  obtain ⟨dst, -, run⟩ := bind_eq_ok.mp run
  obtain ⟨src, -, run⟩ := bind_eq_ok.mp run
  have learned : ∀ key port, (l2table.set src pi.inPort).lookup key = some port → P port := by
    intro key known found
    rw [OrderedMap.lookup_set] at found
    split_ifs at found
    · rw [← Option.some.inj found]
      exact port
    · exact ports key known found
  cases found : (l2table.set src pi.inPort).lookup dst with
  | none =>
      simp only [learn, found, pure_eq_ok, Prod.mk.injEq] at run
      obtain ⟨rfl, rfl⟩ := run
      exact ⟨learned, fun _ _ _ same => by cases same⟩
  | some known =>
      simp only [learn, found, pure_eq_ok, Prod.mk.injEq] at run
      obtain ⟨rfl, rfl⟩ := run
      refine ⟨learned, ?_⟩
      intro src' dst' outPort same
      cases same
      exact learned dst known found

theorem eventCallback_learned {pi : PacketIn10} (port : P pi.inPort) (learned : app.Learned P)
    (run : RawLearningSwitch.eventCallback app (.packetIn connection pi) = .ok (app', decision)) :
    app'.Learned P ∧
      ∀ src dst outPort, decision = some (.install src dst outPort) → P outPort := by
  rw [RawLearningSwitch.eventCallback, BaseLearningSwitch.eventCallback] at run
  cases table : app.applicationData connection with
  | none =>
      simp only [table, Except.ok.injEq, Prod.mk.injEq] at run
      obtain ⟨rfl, rfl⟩ := run
      exact ⟨learned, fun _ _ _ same => by cases same⟩
  | some l2table =>
      simp only [table] at run
      obtain ⟨⟨l2table', decided⟩, handled, run⟩ := bind_eq_ok.mp run
      cases run
      obtain ⟨ports, install⟩ := handlePacketIn_learned port (learned connection l2table table) handled
      exact ⟨learned_setApplicationData learned ports, install⟩

end Learn

section Answers

variable {app : BaseLearningSwitch} {pi : Switch.PacketIn}

def answered (pi : Switch.PacketIn) (decision : Option Decision) : List Switch.Event :=
  (decision.elim [] (MultiLearningSwitch.respond (toController pi))).filterMap Message.onSwitch

theorem messages_alike (carried : Carried pi) (decision : Option Decision)
    (port : ∀ src dst outPort, decision = some (.install src dst outPort) → outPort ≠ ofppController) :
    ∃ sent, RawLearningSwitch.messages (RawLearningSwitch.received pi) decision = .ok sent ∧
      (sent.filterMap readMessage).map bareEvent = (answered pi decision).map bareEvent := by
  rcases decision with - | - | ⟨src, dst, outPort⟩
  case none => exact ⟨[], rfl, rfl⟩
  case some.flood =>
    obtain ⟨sent, content, built, read⟩ := RawLearningSwitch.flood_reads
      (show ({ pi with xid := 21 } : PacketIn10).totalLen.toNat ≤ 65511 from carried.short) carried.inside
    refine ⟨[sent], ?_, ?_⟩
    · rw [RawLearningSwitch.messages, RawLearningSwitch.received, built]
      rfl
    · have named : ¬ pi.bufferId = noBuffer := carried.named
      rw [List.filterMap_cons, readMessage_packetOut read]
      show [bareEvent _] = [bareEvent _]
      simp only [bareEvent, if_neg named]
      rfl
  case some.install =>
    have other := port src dst outPort rfl
    have long : 12 ≤ (RawLearningSwitch.received pi).length := by
      rw [RawLearningSwitch.received, length_packetInBytes]
      omega
    obtain ⟨sent, fm, built, read, actions, agrees⟩ := RawLearningSwitch.installFlowMod_reads long src dst outPort
    rw [RawLearningSwitch.received, readPacketIn_bytes] at agrees
    refine ⟨[sent], ?_, ?_⟩
    · rw [RawLearningSwitch.messages, built]
      rfl
    · have short : fm.toFlowMod.actions = [.output outPort 0] := actions
      have responded : answered pi (some (.install src dst outPort)) =
          [.flowMod { fm.toFlowMod with actions := [.output outPort 1024] }] := by
        show [MultiLearningSwitch.installFlowMod10 { pi with xid := 21 } src dst outPort].filterMap _ = _
        rw [agrees]
        rfl
      rw [List.filterMap_cons, readMessage_flowMod read, responded]
      simp [bareEvent, FlowMod.erase, short, Action.erase, other]

theorem answered_quiet (decision : Option Decision)
    (port : ∀ src dst outPort, decision = some (.install src dst outPort) → outPort ≠ ofppController) :
    ∀ event ∈ (answered pi decision).map bareEvent, Quiet event := by
  rcases decision with - | - | ⟨src, dst, outPort⟩
  case none => exact fun _ member => absurd member List.not_mem_nil
  case some.flood => exact List.forall_mem_singleton.mpr rfl
  case some.install =>
    have other := port src dst outPort rfl
    have quiet : controllerOutputs [(Action.output outPort 1024).erase] = 0 := by
      simp [controllerOutputs, Action.erase, Action.toController, other]
    exact List.forall_mem_singleton.mpr quiet

theorem rawAnswering_packetIn (app : BaseLearningSwitch) (connection : Nat) (pi : Switch.PacketIn) :
    RawLearningSwitch.answering app (.packetIn connection pi) =
      ((RawLearningSwitch.eventCallback app (.packetIn connection { pi with xid := 21 })).mapError .app >>=
        fun done => (RawLearningSwitch.messages (RawLearningSwitch.received pi) done.2).mapError .bounds >>=
          fun sent => .ok (done.1, sent.filterMap readMessage)) := by
  rw [← readPacketIn_bytes { pi with xid := 21 }]
  rfl

theorem multiAnswering_packetIn (app : BaseLearningSwitch) (connection : Nat) (pi : Switch.PacketIn) :
    MultiLearningSwitch.answering app (.packetIn connection pi) =
      ((RawLearningSwitch.eventCallback app (.packetIn connection { pi with xid := 21 })).mapError .app >>=
        fun done => .ok (done.1, answered pi done.2)) := by
  have same : MultiLearningSwitch.decide app (.packetIn connection (toController pi)) =
      RawLearningSwitch.eventCallback app (.packetIn connection { pi with xid := 21 }) := rfl
  show ((MultiLearningSwitch.decide app (.packetIn connection (toController pi)) >>= _).mapError _ >>= _) = _
  rw [same]
  cases RawLearningSwitch.eventCallback app (.packetIn connection { pi with xid := 21 }) <;> rfl

theorem answering_alike (connection : Nat) (physical : app.Physical) (carried : Carried pi) :
    RawLearningSwitch.answering.bare app (.packetIn connection pi) =
        MultiLearningSwitch.answering.bare app (.packetIn connection pi) ∧
      MultiLearningSwitch.answering.bare.Keeps app (.packetIn connection pi) := by
  rw [Answering.Keeps, Answering.bare, Answering.bare, multiAnswering_packetIn, rawAnswering_packetIn]
  cases run : RawLearningSwitch.eventCallback app (.packetIn connection { pi with xid := 21 }) with
  | error fault => exact ⟨rfl, fun _ _ other => by cases other⟩
  | ok done =>
      obtain ⟨app', decision⟩ := done
      have port : ({ pi with xid := 21 } : PacketIn10).inPort ≠ ofppController := carried.port
      obtain ⟨still, install⟩ := eventCallback_learned port physical run
      obtain ⟨sent, built, alike⟩ := messages_alike carried decision install
      constructor
      · show Except.map _ ((RawLearningSwitch.messages _ decision).mapError LoopFault.bounds >>= _) =
          .ok (app', (answered pi decision).map bareEvent)
        rw [built, ← alike]
        rfl
      · intro app'' events answers
        cases answers
        exact ⟨still, answered_quiet decision install⟩

end Answers

/-! ## Packets that the switch hands up -/

section Datapath

variable {dp dp' : Datapath} {pkt : Option Ptr} {sent : List Effect}

theorem packetIns_flood (ports : List Nat) (run : dp.flood pkt ports = .ok sent) : packetIns sent = [] := by
  induction ports generalizing sent with
  | nil =>
      cases run
      rfl
  | cons portNo rest ih =>
      obtain ⟨packet, -, run⟩ := bind_eq_ok.mp run
      obtain ⟨later, flooded, run⟩ := bind_eq_ok.mp run
      have none := ih flooded
      split_ifs at run
      · cases run
        exact none
      · cases run
        exact none

theorem packetInOf_portOutputPacket {number : BitVec 16} {data : Frame} {effect : Effect}
    (run : dp.portOutputPacket number data = .ok effect) : packetInOf effect = none := by
  simp only [Datapath.portOutputPacket] at run
  split_ifs at run
  split at run
  · cases run
    rfl
  · cases run

theorem packetIns_actionHandler {act : Action} (quiet : act.toController = false)
    (run : dp.actionHandler pkt act = .ok (dp', sent)) : packetIns sent = [] := by
  cases act with
  | other type =>
      cases run
      rfl
  | output port maxLen =>
      have other : ¬ port = ofppController := by simpa [Action.toController] using quiet
      simp only [Datapath.actionHandler, if_neg other] at run
      split_ifs at run
      · obtain ⟨packet, -, run⟩ := bind_eq_ok.mp run
        obtain ⟨out, written, run⟩ := bind_eq_ok.mp run
        cases run
        exact List.filterMap_cons_none (packetInOf_portOutputPacket written)
      · obtain ⟨flooded, many, run⟩ := bind_eq_ok.mp run
        cases run
        exact packetIns_flood _ many
      · obtain ⟨packet, -, run⟩ := bind_eq_ok.mp run
        obtain ⟨out, written, run⟩ := bind_eq_ok.mp run
        cases run
        exact List.filterMap_cons_none (packetInOf_portOutputPacket written)

theorem packetIns_applyActions {acts : List Action} (quiet : controllerOutputs acts = 0)
    (run : Datapath.applyActions pkt acts dp = .ok (dp', sent)) : packetIns sent = [] := by
  induction acts generalizing dp sent with
  | nil =>
      cases run
      rfl
  | cons act rest ih =>
      have each := List.countP_eq_zero.mp quiet
      have others : controllerOutputs rest = 0 :=
        List.countP_eq_zero.mpr fun act member => each act (List.mem_cons_of_mem _ member)
      obtain ⟨⟨dp₁, sent₁⟩, first, run⟩ := bind_eq_ok.mp run
      obtain ⟨⟨dp₂, sent₂⟩, later, run⟩ := bind_eq_ok.mp run
      cases run
      have none := packetIns_actionHandler (Bool.eq_false_iff.mpr (each act List.mem_cons_self)) first
      rw [packetIns, List.filterMap_append, ← packetIns, ← packetIns, none, ih others later, List.append_nil]

theorem packetIns_deletePacket (run : dp.deletePacket pkt = .ok (dp', sent)) : packetIns sent = [] := by
  cases pkt with
  | none =>
      cases run
      rfl
  | some p =>
      simp only [Datapath.deletePacket] at run
      split at run
      · cases run
        rfl
      · cases run

theorem release_quiet {acts : List Action} (quiet : controllerOutputs acts = 0)
    (run : dp.release pkt acts = .ok (dp', sent)) : packetIns sent = [] ∧ dp'.bufferId = dp.bufferId := by
  obtain ⟨⟨dp₁, sent₁⟩, applied, run⟩ := bind_eq_ok.mp run
  obtain ⟨⟨dp₂, deleted⟩, released, run⟩ := bind_eq_ok.mp run
  cases run
  constructor
  · rw [packetIns, List.filterMap_append, ← packetIns, ← packetIns, packetIns_applyActions quiet applied,
      packetIns_deletePacket released, List.append_nil]
  · have same := Datapath.applyActions_ok applied
    rw [quiet, Function.iterate_zero, id_eq] at same
    rw [← same]
    rcases Datapath.deletePacket_ok released with ⟨-, rfl⟩ | ⟨p, packet, -, -, rfl⟩ <;> rfl

theorem bufferId_bufferedPacket (dp : Datapath) (id : BitVec 32) :
    (dp.bufferedPacket id).1.bufferId = dp.bufferId := by
  rw [Datapath.bufferedPacket]
  split <;> rfl

theorem releaseToFlow_quiet {flow : Flow} {bufferId : BitVec 32} (quiet : controllerOutputs flow.actions = 0)
    (run : dp.releaseToFlow flow bufferId = .ok (dp', sent)) :
    packetIns sent = [] ∧ dp'.bufferId = dp.bufferId := by
  rw [← bufferId_bufferedPacket dp bufferId]
  rw [Datapath.releaseToFlow] at run
  split_ifs at run
  · cases run
    exact ⟨rfl, (bufferId_bufferedPacket dp bufferId).symm⟩
  · obtain ⟨packet, -, run⟩ := bind_eq_ok.mp run
    obtain ⟨pktMatch, -, run⟩ := bind_eq_ok.mp run
    split_ifs at run
    · exact release_quiet quiet run
    · cases run
      exact ⟨rfl, rfl⟩

theorem step_quiet {event : Switch.Event} (quiet : Quiet event) (run : dp.step event = .ok (dp', sent)) :
    packetIns sent = [] ∧ dp'.bufferId = dp.bufferId := by
  cases event with
  | capture packet len => exact quiet.elim
  | connection up | overwrite p index byte =>
      cases run
      exact ⟨rfl, rfl⟩
  | packetOut po =>
      rw [Datapath.step, Datapath.handlePacketOut_eq] at run
      have opened : (dp.packetOutPacket po).1.bufferId = dp.bufferId := by
        rw [Datapath.packetOutPacket]
        split_ifs
        · rfl
        · exact bufferId_bufferedPacket dp po.bufferId
      rw [← opened]
      exact release_quiet quiet run
  | flowMod fm =>
      rw [Datapath.step, Datapath.handleFlowMod] at run
      cases command : fm.command with
      | add =>
          simp only [command] at run
          have added := releaseToFlow_quiet (show controllerOutputs fm.flow.actions = 0 from quiet) run
          exact added
      | delete | modify | modifyStrict | deleteStrict =>
          rw [command] at run
          cases run
          exact ⟨rfl, rfl⟩

def QuietFlows (dp : Datapath) : Prop := ∀ flow ∈ dp.flowTable, controllerOutputs flow.actions = 0

theorem tableAfter_quiet {event : Switch.Event} (flows : QuietFlows dp)
    (quiet : ∀ fm, event = .flowMod fm → controllerOutputs fm.actions = 0) (advance : dp.Steps event dp') :
    QuietFlows dp' := by
  intro flow member
  rw [Datapath.step_flowTable advance] at member
  cases event with
  | capture packet len | packetOut po | connection up | overwrite p index byte => exact flows flow member
  | flowMod fm =>
      rw [Datapath.tableAfter, Datapath.updateTable] at member
      cases command : fm.command with
      | add =>
          rw [command] at member
          rcases List.mem_cons.mp ((Datapath.addFlow_perm dp.flowTable fm.flow).mem_iff.mp member) with rfl | old
          · exact quiet fm rfl
          · exact flows flow (List.mem_of_mem_eraseP old)
      | delete =>
          rw [command] at member
          exact flows flow (List.mem_of_mem_filter member)
      | modify | modifyStrict | deleteStrict =>
          rw [command] at member
          exact flows flow member

theorem toNat_nextId (room : dp.bufferId.toNat + 1 < 2 ^ 32 - 1) :
    (dp.bufferId + 1).toNat = dp.bufferId.toNat + 1 :=
  BitVec.toNat_add_of_lt (Nat.lt_of_lt_of_le room (Nat.sub_le _ _))

theorem nextId_ne_noBuffer (room : dp.bufferId.toNat + 1 < 2 ^ 32 - 1) : dp.bufferId + 1 ≠ noBuffer := by
  intro last
  have same : (dp.bufferId + 1).toNat = noBuffer.toNat := congrArg BitVec.toNat last
  rw [toNat_nextId room] at same
  exact absurd same room.ne

theorem capture_carried {packet : Packet} {len : BitVec 32} (flows : QuietFlows dp)
    (port : packet.inPort ≠ ofppController) (short : len.toNat ≤ 65511)
    (inside : len.toNat ≤ 18 + packet.data.length)
    (room : dp.bufferId.toNat + 1 < 2 ^ 32 - 1) (run : dp.step (.capture packet len) = .ok (dp', sent)) :
    dp'.bufferId.toNat ≤ dp.bufferId.toNat + 1 ∧ ∀ pi ∈ packetIns sent, Carried pi := by
  obtain ⟨pktMatch, extracted⟩ := extract_total packet
  have next := toNat_nextId room
  rw [Datapath.step, Datapath.packetHandler_eq extracted] at run
  cases selected : dp.selectFlow pktMatch with
  | some entry =>
      simp only [selected] at run
      have quiet := flows entry (OrderedSet.mem_of_find? selected).1
      have same := Datapath.applyActions_ok run
      rw [quiet, Function.iterate_zero, id_eq] at same
      rw [packetIns_applyActions quiet run, same]
      exact ⟨Nat.le_succ _, fun _ member => absurd member List.not_mem_nil⟩
  | none =>
      simp only [selected, Datapath.reportMiss, Except.ok.injEq] at run
      split_ifs at run
      · cases run
        refine ⟨next.le, List.forall_mem_singleton.mpr ?_⟩
        have total : (len.setWidth 16).toNat = len.toNat := by
          rw [BitVec.toNat_setWidth]
          exact Nat.mod_eq_of_lt (by omega)
        constructor
        case named => exact nextId_ne_noBuffer room
        case port => exact port
        case short =>
          show (len.setWidth 16).toNat ≤ _
          rw [total]
          exact short
        case inside =>
          show (len.setWidth 16).toNat ≤ _
          rw [total]
          exact inside
      · cases run
        exact ⟨next.le, fun _ member => absurd member List.not_mem_nil⟩

end Datapath

def LoopEvent.isCapture : LoopEvent → Bool
  | .capture _ _ => true
  | .overwrite .. | .connect _ | .switchUp | .switchDown _ | .packetIn | .message => false

/-- A frame that fits in a message, captured whole but for a few bytes, on a port of the switch. -/
def LoopEvent.Plain : LoopEvent → Prop
  | .capture packet len =>
      packet.inPort ≠ ofppController ∧ len.toNat ≤ 65511 ∧ len.toNat ≤ 18 + packet.data.length
  | .overwrite .. | .connect _ | .switchUp | .switchDown _ | .packetIn | .message => True

instance (event : LoopEvent) : Decidable event.Plain := by
  cases event <;> unfold LoopEvent.Plain <;> infer_instance

namespace Loop

def captures (events : List LoopEvent) : Nat := events.countP LoopEvent.isCapture

structure Plain (loop : Loop) : Prop where
  flows : QuietFlows loop.dp
  app : loop.app.Physical
  up : ∀ pi ∈ loop.up, Carried pi
  down : ∀ event ∈ loop.down, Quiet event

structure Ahead (events : List LoopEvent) (loop : Loop) : Prop where
  plain : loop.Plain
  frames : ∀ event ∈ events, event.Plain
  room : loop.dp.bufferId.toNat + captures events < 2 ^ 32 - 1

variable {loop next : Loop} {sent : List Effect} {event : LoopEvent} {rest : List LoopEvent}

theorem captures_cons (event : LoopEvent) (rest : List LoopEvent) :
    captures (event :: rest) = captures rest + if event.isCapture then 1 else 0 := List.countP_cons

theorem Ahead.tail (ahead : Ahead (event :: rest) loop) : Ahead rest loop where
  plain := ahead.plain
  frames := (List.forall_mem_cons.mp ahead.frames).2
  room := by
    have room := ahead.room
    rw [captures_cons] at room
    omega

theorem Ahead.capture {packet : Packet} {len : BitVec 32} (ahead : Ahead (.capture packet len :: rest) loop)
    (run : loop.onDatapath (.capture packet len) = .ok (next, sent)) : Ahead rest next := by
  obtain ⟨plain, frames, room⟩ := ahead
  obtain ⟨⟨port, short, inside⟩, others⟩ := List.forall_mem_cons.mp frames
  rw [captures_cons, LoopEvent.isCapture, if_pos rfl] at room
  obtain ⟨⟨dp, effects⟩, stepped, run⟩ := bind_eq_ok.mp run
  cases run
  have stepped := mapError_eq_ok.mp stepped
  obtain ⟨counter, carried⟩ := capture_carried plain.flows port short inside (by omega) stepped
  refine ⟨⟨?_, plain.app, List.forall_mem_append.mpr ⟨plain.up, carried⟩, plain.down⟩, others, ?_⟩
  · exact tableAfter_quiet plain.flows (fun _ other => by cases other) ⟨sent, stepped⟩
  · show dp.bufferId.toNat + captures rest < _
    omega

theorem Ahead.onDatapath {message : Switch.Event} (ahead : Ahead rest loop) (quiet : Quiet message)
    (run : loop.onDatapath message = .ok (next, sent)) : Ahead rest next := by
  obtain ⟨plain, frames, room⟩ := ahead
  obtain ⟨⟨dp, effects⟩, stepped, run⟩ := bind_eq_ok.mp run
  cases run
  have stepped := mapError_eq_ok.mp stepped
  obtain ⟨none, same⟩ := step_quiet quiet stepped
  refine ⟨⟨?_, plain.app, ?_, plain.down⟩, frames, ?_⟩
  · apply tableAfter_quiet plain.flows _ ⟨sent, stepped⟩
    rintro fm rfl
    exact quiet
  · show ∀ pi ∈ loop.up ++ packetIns sent, Carried pi
    rw [none, List.append_nil]
    exact plain.up
  · show dp.bufferId.toNat + captures rest < _
    rw [same]
    exact room

theorem Ahead.onApp {answering : Answering} {event : Event Switch.PacketIn} (ahead : Ahead rest loop)
    (keeps : answering.Keeps loop.app event) (run : loop.onApp answering event = .ok (next, sent)) :
    Ahead rest next := by
  obtain ⟨plain, frames, room⟩ := ahead
  obtain ⟨⟨app, messages⟩, answered, run⟩ := bind_eq_ok.mp run
  cases run
  obtain ⟨physical, quiet⟩ := keeps app messages answered
  exact ⟨⟨plain.flows, physical, plain.up, List.forall_mem_append.mpr ⟨plain.down, quiet⟩⟩, frames, room⟩

theorem onApp_congr {answering answering' : Answering} {event : Event Switch.PacketIn}
    (alike : answering loop.app event = answering' loop.app event) :
    loop.onApp answering event = loop.onApp answering' event := by
  rw [Loop.onApp, Loop.onApp, alike]

theorem switchUp_keeps {app : BaseLearningSwitch} (physical : app.Physical) (connection : Nat) :
    RawLearningSwitch.answering.bare.Keeps app (.switchUp connection 1) := by
  intro app' messages answered
  cases answered
  exact ⟨learned_empty physical, fun _ member => absurd member List.not_mem_nil⟩

theorem switchDown_keeps {app : BaseLearningSwitch} (physical : app.Physical) (connection : Nat) :
    RawLearningSwitch.answering.bare.Keeps app (.switchDown connection) := by
  intro app' messages answered
  cases answered
  exact ⟨learned_switchDown physical connection, fun _ member => absurd member List.not_mem_nil⟩

theorem step_alike (ahead : Ahead (event :: rest) loop) :
    loop.step RawLearningSwitch.answering.bare event = loop.step MultiLearningSwitch.answering.bare event ∧
      ∀ next sent, loop.step RawLearningSwitch.answering.bare event = .ok (next, sent) → Ahead rest next := by
  have later := ahead.tail
  cases event with
  | capture packet len => exact ⟨rfl, fun next sent run => ahead.capture run⟩
  | overwrite pkt index byte =>
      have quiet : Quiet (.overwrite pkt index byte) := trivial
      exact ⟨rfl, fun next sent run => later.onDatapath quiet run⟩
  | connect connection =>
      have plain : { loop with connection := connection, up := [], down := [] : Loop }.Plain :=
        ⟨later.plain.flows, later.plain.app, fun _ member => absurd member List.not_mem_nil,
          fun _ member => absurd member List.not_mem_nil⟩
      have fresh : Ahead rest { loop with connection := connection, up := [], down := [] } :=
        ⟨plain, later.frames, later.room⟩
      have quiet : Quiet (.connection true) := trivial
      exact ⟨rfl, fun next sent run => fresh.onDatapath quiet run⟩
  | switchUp => exact ⟨rfl, fun next sent run => later.onApp (switchUp_keeps later.plain.app _) run⟩
  | switchDown connection =>
      exact ⟨rfl, fun next sent run => later.onApp (switchDown_keeps later.plain.app connection) run⟩
  | packetIn =>
      obtain ⟨dp, app, connection, up, down⟩ := loop
      cases up with
      | nil =>
          refine ⟨rfl, ?_⟩
          intro next sent run
          cases run
          exact later
      | cons pi waiting =>
          obtain ⟨first, others⟩ := List.forall_mem_cons.mp later.plain.up
          have taken : Ahead rest ⟨dp, app, connection, waiting, down⟩ :=
            ⟨⟨later.plain.flows, later.plain.app, others, later.plain.down⟩, later.frames, later.room⟩
          obtain ⟨alike, keeps⟩ := answering_alike connection taken.plain.app first
          have same := onApp_congr alike
          exact ⟨same, fun next sent run => taken.onApp keeps (same.symm.trans run)⟩
  | message =>
      obtain ⟨dp, app, connection, up, down⟩ := loop
      cases down with
      | nil =>
          refine ⟨rfl, ?_⟩
          intro next sent run
          cases run
          exact later
      | cons message waiting =>
          obtain ⟨first, others⟩ := List.forall_mem_cons.mp later.plain.down
          have taken : Ahead rest ⟨dp, app, connection, up, waiting⟩ :=
            ⟨⟨later.plain.flows, later.plain.app, later.plain.up, others⟩, later.frames, later.room⟩
          exact ⟨rfl, fun next sent run => taken.onDatapath first run⟩

theorem start_plain (n : Nat) : (start n).bare.Plain where
  flows := fun _ member => absurd member List.not_mem_nil
  app := fun _ _ other => by cases other
  up := fun _ member => absurd member List.not_mem_nil
  down := fun _ member => absurd member List.not_mem_nil

theorem bare_run_alike (n : Nat) (events : List LoopEvent) (frames : ∀ event ∈ events, event.Plain)
    (few : captures events < 2 ^ 32 - 1) :
    (start n).bare.run RawLearningSwitch.answering.bare events =
      (start n).bare.run MultiLearningSwitch.answering.bare events := by
  have room : (start n).bare.dp.bufferId.toNat + captures events < 2 ^ 32 - 1 := by
    show 0 + _ < _
    omega
  rw [run, run]
  exact runLog_congr (fun event rest loop ahead => (step_alike ahead).1)
    (fun event rest loop next log ahead => (step_alike ahead).2 next log) ⟨start_plain n, frames, room⟩

/-- Under any order of frames, connections and deliveries the switch does with the raw application what it does with
`MultiLearningSwitch`, and both have learned the same. -/
theorem run_answers_alike (n : Nat) (events : List LoopEvent) (frames : ∀ event ∈ events, event.Plain)
    (few : captures events < 2 ^ 32 - 1) :
    ((start n).run RawLearningSwitch.answering events).map (fun done => (done.1.app, done.2)) =
      ((start n).run MultiLearningSwitch.answering events).map (fun done => (done.1.app, done.2)) := by
  have seen (answering : Answering) :
      ((start n).run answering events).map (fun done => (done.1.app, done.2)) =
        ((start n).bare.run answering.bare events).map (fun done => (done.1.app, done.2)) := by
    rw [run_bare]
    cases (start n).run answering events <;> rfl
  rw [seen, seen, bare_run_alike n events frames few]

def sampleEvents : List LoopEvent :=
  [.connect 1, .switchUp, .capture { data := sampleFrame, inPort := 1 } 14, .packetIn, .message,
    .capture { data := [0, 0, 0, 0, 0, 1, 0, 0, 0, 0, 0, 2, 8, 0], inPort := 2 } 14, .packetIn, .message]

theorem flooded_and_answered_alike :
    ((start 2).run RawLearningSwitch.answering sampleEvents).map (fun done => (done.1.app, done.2)) =
      ((start 2).run MultiLearningSwitch.answering sampleEvents).map (fun done => (done.1.app, done.2)) :=
  run_answers_alike 2 sampleEvents (by decide) (by decide)

end Loop

end Libfluid.Controller
