import Libfluid.Multicast.Connections
import Libfluid.Multicast.Forwarding
import Libfluid.Multicast.NetworkClient

namespace Libfluid.Multicast
open Library Switch Controller

inductive MainState
  | polling
  | starting
  | waiting
  | stopping
  | stopped
  | killed
deriving DecidableEq, Repr

inductive BevState
  | idle
  | connecting
  | connected
  | closed
deriving DecidableEq, Repr

/-- `main` stands for the next step of the main thread, `eventCb` for one of the events that `event_cb` tells apart:
the connection is there, or it is over. -/
inductive ProcessEvent
  | dispatch (ev : ControllerEvent)
  | main
  | sigint
  | eventCb (connected : Bool)
  | readCb (segment : List Byte)
deriving DecidableEq, Repr

inductive Output
  | openflow (ofconn : OFConnection) (m : Outgoing)
  | network (bytes : List Byte)
deriving DecidableEq, Repr

def memory64 (word : BitVec 64) : List Byte :=
  [word.extractLsb' 0 8, word.extractLsb' 8 8, word.extractLsb' 16 8, word.extractLsb' 24 8, word.extractLsb' 32 8,
    word.extractLsb' 40 8, word.extractLsb' 48 8, word.extractLsb' 56 8]

def networkOrder64 (word : BitVec 64) : List Byte := (memory64 word).reverse

theorem memory64_load64 (b₀ b₁ b₂ b₃ b₄ b₅ b₆ b₇ : Byte) :
    memory64 (load64 b₀ b₁ b₂ b₃ b₄ b₅ b₆ b₇) = [b₀, b₁, b₂, b₃, b₄, b₅, b₆, b₇] := by
  obtain ⟨first, second, third, fourth⟩ := extract_load32 b₀ b₁ b₂ b₃
  obtain ⟨fifth, sixth, seventh, eighth⟩ := extract_load32 b₄ b₅ b₆ b₇
  rw [memory64, extract_load64_low (by decide), extract_load64_low (by decide), extract_load64_low (by decide),
    extract_load64_low (by decide), extract_load64_high (by decide), extract_load64_high (by decide),
    extract_load64_high (by decide), extract_load64_high (by decide), first, second, third, fourth]
  exact congrArg₂ _ rfl (by rw [fifth, sixth, seventh, eighth])

theorem memory64_be64toh (word : BitVec 64) : memory64 (be64toh word) = networkOrder64 word := by
  rw [be64toh, memory64_load64]
  rfl

structure Control where
  main : MainState
  bev : BevState
  input : List Byte
deriving DecidableEq, Repr

namespace Control

def start : Control := { main := .polling, bev := .idle, input := [] }

/-- `Controller::running`. -/
def running (control : Control) : Bool :=
  control.main = .polling ∨ control.main = .starting ∨ control.main = .waiting

def next (control : Control) (dpid : BitVec 64) : ProcessEvent → Control
  | .dispatch _ => control
  | .main =>
      match control.main with
      | .polling => if dpid = 0 then control else { control with main := .starting, bev := .connecting }
      | .starting => { control with main := .waiting }
      | .stopping => { control with main := .stopped, bev := .closed }
      | .waiting | .stopped | .killed => control
  | .sigint =>
      match control.main with
      -- There is no handler yet.
      | .polling | .starting => { control with main := .killed, bev := .closed }
      | .waiting => { control with main := .stopping }
      | .stopping | .stopped | .killed => control
  | .eventCb true => if control.bev = .connecting then { control with bev := .connected } else control
  | .eventCb false =>
      if control.bev = .connecting ∨ control.bev = .connected then { control with bev := .closed } else control
  | .readCb segment =>
      if control.bev = .connected then { control with input := (evbufferRemove (control.input ++ segment) 16).2 }
      else control

end Control

structure AgentProcess extends Control where
  app : ConnectedApp

namespace AgentProcess

def start : AgentProcess := { Control.start with app := .initial }

def openflow (sent : Sent) : List Output := sent.map fun (ofconn, m) => .openflow ofconn m

def finish (result : Except Fault ConnectedApp × Sent) : Except Fault (ConnectedApp × List Output) :=
  result.1.map fun app => (app, openflow result.2)

/-- Bufferevents call back only while there is a connection, or one to come. -/
def callback (process : AgentProcess) : ProcessEvent → Except Fault (ConnectedApp × List Output)
  | .dispatch ev => if process.running then finish (process.app.eventCallback ev) else return (process.app, [])
  | .eventCb true =>
      if process.bev = .connecting then return (process.app, [.network (memory64 (be64toh process.app.dpid))])
      else return (process.app, [])
  | .readCb segment =>
      if process.bev = .connected then
        let (conn, _, messages) := MCNWClientConnection.readCb
          { input := process.input ++ segment, mgma := process.app.toMulticastGroupMembershipApp }
        finish (process.app.perform (.ok conn.mgma, messages))
      else return (process.app, [])
  | .main | .sigint | .eventCb false => return (process.app, [])

def step (process : AgentProcess) (event : ProcessEvent) : Except Fault (AgentProcess × List Output) := do
  let (app, output) ← process.callback event
  return ({ process.next process.app.dpid event with app := app }, output)

def run (process : AgentProcess) (events : List ProcessEvent) : Except Fault (AgentProcess × List Output) :=
  runLog step process events

end AgentProcess

/-! ## What the events alone decide -/

def asked : MulticastGroupMembershipApp :=
  { MulticastGroupMembershipApp.initial with gen := MulticastGroupMembershipApp.initial.gen.nextXid }

/-- The switch that came up first, the state of the process besides the application, whether the network controller was
told of the switch, and what the application was given to handle. -/
structure Intake where
  first : Option (OFConnection × BitVec 64)
  control : Control
  told : Bool
  handled : List Event

namespace Intake

def start : Intake := { first := none, control := .start, told := false, handled := [] }

def dpid (intake : Intake) : BitVec 64 := intake.first.elim 0 Prod.snd

def up (intake : Intake) : ProcessEvent → Option (OFConnection × BitVec 64)
  | .dispatch (.switchUp ofconn datapathId) =>
      if intake.control.running ∧ ofconn.version = Of13.ofpVersion then some (ofconn, datapathId) else none
  | _ => none

def newSession (request : SessionRequest) : Event :=
  .newSession request.sip request.dip request.sport request.dport request.upIntf request.isRoot

def Reads (intake : Intake) (ofconn : OFConnection) : Prop :=
  intake.control.running ∧ intake.first.any (fun first => first.1.id = ofconn.id) ∧ ofconn.version = Of13.ofpVersion

instance (intake : Intake) (ofconn : OFConnection) : Decidable (intake.Reads ofconn) :=
  inferInstanceAs (Decidable (_ ∧ _ ∧ _))

def handles (intake : Intake) : ProcessEvent → List Event
  | .dispatch (.packetIn ofconn ofpi) =>
      if intake.Reads ofconn then
        match readHeader ofpi with
        | .ok (some pk) => [.packet pk]
        | .ok none | .error _ => []
      else []
  | .readCb segment =>
      if intake.control.bev = .connected ∧ 16 ≤ (intake.control.input ++ segment).length then
        [newSession (loadRequest ((intake.control.input ++ segment).take 16))]
      else []
  | _ => []

def next (intake : Intake) (event : ProcessEvent) : Intake where
  first := intake.first.or (intake.up event)
  control := intake.control.next intake.dpid event
  told := intake.told || (event = .eventCb true && intake.control.bev = .connecting)
  handled := intake.handled ++ intake.handles event

def after (events : List ProcessEvent) : Intake := events.foldl next start

theorem after_snoc (events : List ProcessEvent) (event : ProcessEvent) :
    after (events ++ [event]) = (after events).next event := by
  rw [after, List.foldl_append]
  rfl

def announcement (dpid : BitVec 64) : Output := .network (networkOrder64 dpid)

def speaks (intake : Intake) (messages : List Message) : List Output :=
  match intake.first with
  | none => []
  | some (ofconn, dpid) =>
      .openflow ofconn (.roleRequest 1 ofpcrRoleEqual 0) ::
        if intake.told then announcement dpid :: messages.map fun m => .openflow ofconn (.message m) else []

structure Defined (intake : Intake) (event : ProcessEvent) : Prop where
  known : ∀ ofconn ofpi, event = .dispatch (.packetIn ofconn ofpi) → intake.control.running → intake.first ≠ none
  readable : ∀ ofconn ofpi, event = .dispatch (.packetIn ofconn ofpi) → intake.Reads ofconn →
    ∃ header, readHeader ofpi = .ok header
  stays : ∀ app ev, Run MulticastGroupMembershipApp.Steps asked intake.handled app → ev ∈ intake.handles event →
    ¬ app.LeavesMember ev

/-! ## The network controller comes after the switch -/

variable {intake : Intake} {event : ProcessEvent}

structure Sane (intake : Intake) : Prop where
  unknown : intake.first = none → intake.told = false ∧ intake.handled = []
  polling : intake.control.main = .polling → intake.control.bev = .idle
  asked : intake.control.bev = .idle ∨ intake.control.bev = .connecting → intake.told = false
  connected : intake.control.bev = .connected → intake.told = true
  named : intake.told = true ∨ intake.control.bev = .connecting → intake.dpid ≠ 0

theorem start_sane : Sane start where
  unknown := fun _ => ⟨rfl, rfl⟩
  polling := fun _ => rfl
  asked := fun _ => rfl
  connected := fun other => by cases other
  named := by
    rintro (other | other) <;> cases other

theorem next_first {first : OFConnection × BitVec 64} (known : intake.first = some first) :
    (intake.next event).first = some first := by
  rw [next, known]
  rfl

theorem next_dpid {first : OFConnection × BitVec 64} (known : intake.first = some first) :
    (intake.next event).dpid = intake.dpid := by
  rw [dpid, dpid, next_first known, known]

theorem first_of_any {same : OFConnection × BitVec 64 → Bool} (some_ : intake.first.any same) :
    ∃ first, intake.first = some first := by
  apply Option.ne_none_iff_exists'.mp
  intro unknown
  rw [unknown] at some_
  cases some_

theorem first_of_dpid (named : intake.dpid ≠ 0) : ∃ first, intake.first = some first := by
  apply Option.ne_none_iff_exists'.mp
  intro unknown
  rw [dpid, unknown] at named
  exact named rfl

theorem handles_unknown (sane : Sane intake) (unknown : intake.first = none) : intake.handles event = [] := by
  cases event with
  | dispatch ev =>
      cases ev with
      | switchUp | switchDown => rfl
      | packetIn ofconn ofpi =>
          apply if_neg
          rintro ⟨-, same, -⟩
          rw [unknown] at same
          cases same
  | readCb segment =>
      apply if_neg
      rintro ⟨connected, -⟩
      have told := sane.connected connected
      rw [(sane.unknown unknown).1] at told
      cases told
  | main | sigint | eventCb => rfl

theorem handles_packet {pk : PacketInDataHeader} (handles : .packet pk ∈ intake.handles event) :
    ∃ ofconn ofpi, event = .dispatch (.packetIn ofconn ofpi) ∧ intake.Reads ofconn ∧ readHeader ofpi = .ok (some pk) := by
  cases event with
  | dispatch ev =>
      cases ev with
      | switchUp | switchDown => cases handles
      | packetIn ofconn ofpi =>
          rw [Intake.handles] at handles
          split_ifs at handles with reads
          · refine ⟨ofconn, ofpi, rfl, reads, ?_⟩
            cases read : readHeader ofpi with
            | error index => simp [read] at handles
            | ok header =>
                cases header with
                | none => simp [read] at handles
                | some pk' =>
                    simp only [read, List.mem_singleton, Event.packet.injEq] at handles
                    rw [handles]
          · cases handles
  | readCb segment =>
      rw [Intake.handles] at handles
      split_ifs at handles
      · simp [Intake.newSession] at handles
      · cases handles
  | main | sigint | eventCb => cases handles

theorem next_bev (event : ProcessEvent) (polling : intake.control.main = .polling → intake.control.bev = .idle) :
    ((intake.next event).control.bev = intake.control.bev ∧ (intake.next event).told = intake.told ∧
        ((intake.next event).control.main = .polling → intake.control.main = .polling)) ∨
      (intake.control.bev = .idle ∧ intake.dpid ≠ 0 ∧ (intake.next event).control.bev = .connecting ∧
        (intake.next event).told = intake.told ∧ (intake.next event).control.main ≠ .polling) ∨
      (intake.control.bev = .connecting ∧ (intake.next event).control.bev = .connected ∧
        (intake.next event).told = true ∧ (intake.next event).control.main = intake.control.main) ∨
      ((intake.next event).control.bev = .closed ∧ (intake.next event).told = intake.told ∧
        (intake.next event).control.main ≠ .polling) := by
  cases event with
  | dispatch ev => exact Or.inl ⟨rfl, by simp [next], id⟩
  | readCb segment =>
      refine Or.inl ⟨?_, by simp [next], ?_⟩
      · simp only [next, Control.next]
        split_ifs <;> rfl
      · simp only [next, Control.next]
        split_ifs <;> exact id
  | sigint => cases state : intake.control.main <;> simp [next, Control.next, state]
  | main =>
      cases state : intake.control.main with
      | polling =>
          by_cases zero : intake.dpid = 0
          · exact Or.inl (by simp [next, Control.next, state, zero])
          · refine Or.inr (Or.inl ⟨polling state, zero, ?_⟩)
            simp only [next, Control.next, state, if_neg zero]
            simp
      | starting | waiting | stopping | stopped | killed => simp [next, Control.next, state]
  | eventCb connected =>
      cases connected with
      | true =>
          by_cases connecting : intake.control.bev = .connecting
          · exact Or.inr (Or.inr (Or.inl ⟨connecting, by simp [next, Control.next, connecting]⟩))
          · exact Or.inl (by simp [next, Control.next, connecting])
      | false =>
          by_cases live : intake.control.bev = .connecting ∨ intake.control.bev = .connected
          · refine Or.inr (Or.inr (Or.inr ?_))
            have started : intake.control.main ≠ .polling := by
              intro state
              rw [polling state] at live
              simp at live
            simp [next, Control.next, live, started]
          · exact Or.inl (by simp [next, Control.next, live])

theorem next_sane (sane : Sane intake) : Sane (intake.next event) := by
  have dpid (named : intake.dpid ≠ 0) : (intake.next event).dpid ≠ 0 := by
    obtain ⟨first, known⟩ := first_of_dpid named
    rwa [next_dpid known]
  have unknown (told : (intake.next event).told = intake.told ∨ intake.dpid ≠ 0) :
      (intake.next event).first = none → (intake.next event).told = false ∧ (intake.next event).handled = [] := by
    intro unknown
    have before : intake.first = none := (Option.or_eq_none_iff.mp unknown).1
    obtain ⟨untold, unhandled⟩ := sane.unknown before
    constructor
    · rcases told with same | named
      · rw [same, untold]
      · obtain ⟨first, known⟩ := first_of_dpid named
        cases before.symm.trans known
    · rw [next, unhandled, handles_unknown sane before]
      rfl
  rcases next_bev event sane.polling with
    ⟨bev, told, main⟩ | ⟨idle, named, bev, told, main⟩ | ⟨connecting, bev, told, main⟩ | ⟨bev, told, main⟩
  · refine ⟨unknown (Or.inl told), ?_, ?_, ?_, ?_⟩
    · intro state
      rw [bev]
      exact sane.polling (main state)
    · rw [bev, told]
      exact sane.asked
    · rw [bev, told]
      exact sane.connected
    · rw [bev, told]
      exact fun named => dpid (sane.named named)
  · refine ⟨unknown (Or.inl told), fun state => absurd state main, fun _ => ?_, by simp [bev], fun _ => dpid named⟩
    rw [told]
    exact sane.asked (Or.inl idle)
  · have named : intake.dpid ≠ 0 := sane.named (Or.inr connecting)
    refine ⟨unknown (Or.inr named), ?_, by simp [bev], fun _ => told, fun _ => dpid named⟩
    intro state
    rw [main] at state
    cases connecting.symm.trans (sane.polling state)
  · refine ⟨unknown (Or.inl told), fun state => absurd state main, by simp [bev], by simp [bev], ?_⟩
    rw [bev, told]
    rintro (told | other)
    · exact dpid (sane.named (Or.inl told))
    · cases other

theorem after_sane (events : List ProcessEvent) : Sane (after events) := by
  induction events using List.reverseRecOn with
  | nil => exact start_sane
  | append_singleton events event ih =>
      rw [after_snoc]
      exact next_sane ih

end Intake

/-! ## One step -/

namespace AgentProcess
open MulticastGroupMembershipApp

variable {process : AgentProcess} {intake : Intake} {event : ProcessEvent} {output : List Output}
  {messages : List Message} {ofconn : OFConnection}

structure Tracks (intake : Intake) (app : ConnectedApp) (messages : List Message) : Prop where
  ofconn : app.ofconn = intake.first.map Prod.fst
  dpid : app.dpid = intake.dpid
  unknown : intake.first = none → app = .initial
  empty : intake.told = false → app.multicastSessionStore = .empty
  silent : intake.told = false → messages = []
  ran : intake.first ≠ none → Run Drives (asked, some .empty) intake.handled
    (app.toMulticastGroupMembershipApp, ReferenceSwitch.empty.executeAll messages)

theorem start_tracks : Tracks .start .initial [] where
  ofconn := rfl
  dpid := rfl
  unknown := fun _ => rfl
  empty := fun _ => rfl
  silent := fun _ => rfl
  ran := fun other => absurd rfl other

theorem packet_silent {app app' : MulticastGroupMembershipApp} {pk : PacketInDataHeader}
    (empty : app.multicastSessionStore = .empty) (steps : app.Steps (.packet pk) app') :
    app'.multicastSessionStore = .empty ∧ (app.step (.packet pk)).2 = [] := by
  have acts := step_acts (good_of_empty empty) (.packet pk)
  rw [steps] at acts
  generalize (app.step (.packet pk)).2 = sent at acts
  cases acts with
  | nothing gen quiet => exact ⟨empty, rfl⟩
  | opened notPacket => exact absurd rfl (notPacket pk)
  | joined gen addressed flag absent =>
      have stored := addressed.stored
      rw [empty] at stored
      cases stored

theorem speaks_append {first : OFConnection × BitVec 64} (known : intake.first = some first)
    (messages : List Message) {more : List Message} (silent : intake.told = false → more = []) :
    intake.speaks (messages ++ more) =
      intake.speaks messages ++ more.map fun m => .openflow first.1 (.message m) := by
  simp only [Intake.speaks, known]
  cases told : intake.told with
  | false => simp [silent told]
  | true => simp

def Continues (intake : Intake) (process : AgentProcess) (messages : List Message) (event : ProcessEvent) : Prop :=
  ∃ app output more, process.callback event = .ok (app, output) ∧ Tracks (intake.next event) app (messages ++ more) ∧
    (intake.next event).speaks (messages ++ more) = intake.speaks messages ++ output

theorem continues_quiet (tracks : Tracks intake process.app messages)
    (quiet : process.callback event = .ok (process.app, []))
    (first : (intake.next event).first = intake.first) (told : (intake.next event).told = intake.told)
    (none : intake.handles event = []) : Continues intake process messages event := by
  have dpid : (intake.next event).dpid = intake.dpid := by rw [Intake.dpid, first, Intake.dpid]
  have handled : (intake.next event).handled = intake.handled := by
    rw [Intake.next, none, List.append_nil]
  refine ⟨process.app, [], [], quiet, ?_, ?_⟩
  · rw [List.append_nil]
    constructor
    · rw [first]
      exact tracks.ofconn
    · rw [dpid]
      exact tracks.dpid
    · rw [first]
      exact tracks.unknown
    · rw [told]
      exact tracks.empty
    · rw [told]
      exact tracks.silent
    · rw [first, handled]
      exact tracks.ran
  · rw [List.append_nil, List.append_nil, Intake.speaks, Intake.speaks, first, told]

theorem Tracks.captured {first : OFConnection × BitVec 64} (tracks : Tracks intake process.app messages)
    (known : intake.first = some first) : process.app.ofconn = some first.1 := by
  rw [tracks.ofconn, known]
  rfl

theorem continues_handled {first : OFConnection × BitVec 64} {ev : Event} (tracks : Tracks intake process.app messages)
    (known : intake.first = some first) (packet : intake.told = false → ∃ pk, ev = .packet pk)
    (told : (intake.next event).told = intake.told) (handles : intake.handles event = [ev])
    (stays : ∀ app, Run Steps asked intake.handled app → ¬ app.LeavesMember ev)
    (calls : process.callback event = finish (process.app.perform (process.app.step ev))) :
    Continues intake process messages event := by
  have ran := tracks.ran (by simp [known])
  obtain ⟨app, steps⟩ : ∃ app, process.app.toMulticastGroupMembershipApp.Steps ev app := by
    rw [← not_faults_iff, faults_iff]
    exact stays _ (run_steps ran)
  have same : (intake.next event).first = some first := Intake.next_first known
  have silent : intake.told = false → app.multicastSessionStore = .empty ∧ (process.app.step ev).2 = [] := by
    intro untold
    obtain ⟨pk, rfl⟩ := packet untold
    exact packet_silent (tracks.empty untold) steps
  refine ⟨{ process.app with toMulticastGroupMembershipApp := app },
    openflow (((process.app.step ev).2.map .message).map fun m => (first.1, m)), (process.app.step ev).2, ?_, ?_, ?_⟩
  · rw [calls, ConnectedApp.perform_some (tracks.captured known), show (process.app.step ev).1 = .ok app from steps]
    rfl
  · constructor
    case ofconn =>
      rw [same, ← known]
      exact tracks.ofconn
    case dpid =>
      rw [Intake.next_dpid known]
      exact tracks.dpid
    case unknown =>
      rw [same]
      exact fun other => by cases other
    case empty =>
      rw [told]
      exact fun untold => (silent untold).1
    case silent =>
      rw [told]
      intro untold
      rw [tracks.silent untold, (silent untold).2, List.nil_append]
    case ran =>
      intro _
      rw [Intake.next, handles]
      refine ran.step ⟨steps, ?_⟩
      rw [ReferenceSwitch.executeAll_append]
  · have more := speaks_append known messages fun untold => (silent untold).2
    rw [Intake.speaks, same, told, ← known, ← Intake.speaks, more]
    simp [openflow]

/-! ## The callbacks -/

theorem dispatch_stopped (tracks : Tracks intake process.app messages) (control : process.toControl = intake.control)
    (stopped : ¬ intake.control.running) (ev : ControllerEvent) :
    Continues intake process messages (.dispatch ev) := by
  apply continues_quiet tracks
  · rw [callback, control, if_neg stopped]
    rfl
  · have none : intake.up (.dispatch ev) = none := by
      cases ev with
      | switchUp ofconn datapathId => exact if_neg fun both => stopped both.1
      | switchDown | packetIn => rfl
    rw [Intake.next, none]
    exact Option.or_none
  · simp [Intake.next]
  · cases ev with
    | switchUp | switchDown => rfl
    | packetIn ofconn ofpi => exact if_neg fun reads => stopped reads.1

theorem dispatch_switchUp (sane : intake.Sane) (tracks : Tracks intake process.app messages)
    (control : process.toControl = intake.control) (running : intake.control.running) (datapathId : BitVec 64) :
    Continues intake process messages (.dispatch (.switchUp ofconn datapathId)) := by
  have told : (intake.next (.dispatch (.switchUp ofconn datapathId))).told = intake.told := by simp [Intake.next]
  by_cases captures : ofconn.version = Of13.ofpVersion ∧ process.app.ofconn = none
  · have unknown : intake.first = none := by
      have none := captures.2
      rw [tracks.ofconn] at none
      exact Option.map_eq_none_iff.mp none
    obtain ⟨untold, unhandled⟩ := sane.unknown unknown
    have up : (intake.next (.dispatch (.switchUp ofconn datapathId))).first = some (ofconn, datapathId) := by
      rw [Intake.next, unknown, Intake.up, if_pos ⟨running, captures.1⟩]
      rfl
    have handled : (intake.next (.dispatch (.switchUp ofconn datapathId))).handled = [] := by
      rw [Intake.next, unhandled]
      rfl
    obtain rfl : messages = [] := tracks.silent untold
    refine ⟨{ asked with ofconn := some ofconn, dpid := datapathId },
      [.openflow ofconn (.roleRequest 1 ofpcrRoleEqual 0)], [], ?_, ?_, ?_⟩
    · rw [callback, control, if_pos running, ConnectedApp.eventCallback, if_pos captures, tracks.unknown unknown]
      rfl
    · constructor
      case ofconn =>
        rw [up]
        rfl
      case dpid =>
        rw [Intake.dpid, up]
        rfl
      case unknown =>
        rw [up]
        exact fun other => by cases other
      case empty => exact fun _ => rfl
      case silent => exact fun _ => rfl
      case ran =>
        rw [handled]
        exact fun _ => Run.start
    · rw [Intake.speaks, Intake.speaks, up, unknown, told, untold]
      rfl
  · apply continues_quiet tracks
    · rw [callback, control, if_pos running, ConnectedApp.eventCallback, if_neg captures]
      rfl
    · show intake.first.or (intake.up _) = _
      rw [Intake.up]
      split_ifs with of13
      · obtain ⟨captured, known⟩ := Option.ne_none_iff_exists'.mp fun none => captures ⟨of13.2, none⟩
        obtain ⟨first, known, -⟩ := Option.map_eq_some_iff.mp (tracks.ofconn.symm.trans known)
        rw [known]
        rfl
      · exact Option.or_none
    · exact told
    · rfl

theorem callback_packetIn {first : OFConnection × BitVec 64} (tracks : Tracks intake process.app messages)
    (control : process.toControl = intake.control) (running : intake.control.running)
    (known : intake.first = some first) (ofpi : PacketIn13) :
    process.callback (.dispatch (.packetIn ofconn ofpi)) =
      finish (if first.1.id == ofconn.id then process.app.processPacketIn ofconn ofpi else (.ok process.app, [])) := by
  rw [callback, control, if_pos running, ConnectedApp.eventCallback,
    ConnectedApp.accepts_some (tracks.captured known)]

theorem callback_reads (ofpi : PacketIn13) (tracks : Tracks intake process.app messages)
    (control : process.toControl = intake.control) (reads : intake.Reads ofconn) :
    process.callback (.dispatch (.packetIn ofconn ofpi)) =
      finish (match readHeader ofpi with
        | .error index => (.error (.payloadRead index), [])
        | .ok none => (.ok process.app, [])
        | .ok (some pk) => process.app.perform (process.app.step (.packet pk))) := by
  obtain ⟨running, same, version⟩ := reads
  obtain ⟨first, known⟩ := Intake.first_of_any same
  have same : (first.1.id == ofconn.id) = true := by simpa [known] using same
  rw [callback_packetIn tracks control running known, if_pos same]
  exact congrArg finish (if_pos version)

theorem dispatch_packetIn {ofpi : PacketIn13} (tracks : Tracks intake process.app messages)
    (control : process.toControl = intake.control) (running : intake.control.running)
    (defined : intake.Defined (.dispatch (.packetIn ofconn ofpi))) :
    Continues intake process messages (.dispatch (.packetIn ofconn ofpi)) := by
  obtain ⟨first, known⟩ := Option.ne_none_iff_exists'.mp (defined.known ofconn ofpi rfl running)
  have told : (intake.next (.dispatch (.packetIn ofconn ofpi))).told = intake.told := by simp [Intake.next]
  by_cases reads : intake.Reads ofconn
  · obtain ⟨header, read⟩ := defined.readable ofconn ofpi rfl reads
    have calls := callback_reads ofpi tracks control reads
    rw [read] at calls
    cases header with
    | none =>
        apply continues_quiet tracks calls Option.or_none told
        rw [Intake.handles, if_pos reads, read]
    | some pk =>
        have handles : intake.handles (.dispatch (.packetIn ofconn ofpi)) = [.packet pk] := by
          rw [Intake.handles, if_pos reads, read]
        refine continues_handled tracks known (fun _ => ⟨pk, rfl⟩) told handles ?_ calls
        exact fun app run => defined.stays app _ run (by simp [handles])
  · refine continues_quiet tracks ?_ Option.or_none told (if_neg reads)
    rw [callback_packetIn tracks control running known]
    split_ifs with same
    · have version : ofconn.version ≠ Of13.ofpVersion := by
        intro version
        apply reads
        exact ⟨running, by simpa [known] using same, version⟩
      rw [ConnectedApp.processPacketIn, if_neg version]
      rfl
    · rfl

theorem eventCb_continues (sane : intake.Sane) (tracks : Tracks intake process.app messages)
    (control : process.toControl = intake.control) (connected : Bool) :
    Continues intake process messages (.eventCb connected) := by
  cases connected with
  | false => exact continues_quiet tracks rfl Option.or_none (by simp [Intake.next]) rfl
  | true =>
      by_cases connecting : intake.control.bev = .connecting
      · have untold : intake.told = false := sane.asked (Or.inr connecting)
        obtain ⟨first, known⟩ := Intake.first_of_dpid (sane.named (Or.inr connecting))
        have told : (intake.next (.eventCb true)).told = true := by simp [Intake.next, connecting]
        refine ⟨process.app, [Intake.announcement intake.dpid], [], ?_, ?_, ?_⟩
        · rw [callback, control, if_pos connecting, memory64_be64toh, tracks.dpid]
          rfl
        · rw [List.append_nil]
          constructor
          case ofconn =>
            rw [Intake.next_first known, ← known]
            exact tracks.ofconn
          case dpid =>
            rw [Intake.next_dpid known]
            exact tracks.dpid
          case unknown =>
            rw [Intake.next_first known]
            exact fun other => by cases other
          case empty =>
            rw [told]
            exact fun other => by cases other
          case silent =>
            rw [told]
            exact fun other => by cases other
          case ran =>
            intro _
            have handled : (intake.next (.eventCb true)).handled = intake.handled := List.append_nil _
            rw [handled]
            exact tracks.ran (by simp [known])
        · rw [tracks.silent untold, Intake.speaks, Intake.speaks, Intake.next_first known, known, Intake.dpid, known]
          simp [told, untold]
      · refine continues_quiet tracks ?_ Option.or_none (by simp [Intake.next, connecting]) rfl
        rw [callback, control, if_neg connecting]
        rfl

theorem readCb_continues (sane : intake.Sane) (tracks : Tracks intake process.app messages)
    (control : process.toControl = intake.control) (segment : List Byte) :
    Continues intake process messages (.readCb segment) := by
  have told : (intake.next (.readCb segment)).told = intake.told := by simp [Intake.next]
  by_cases connected : intake.control.bev = .connected
  case neg =>
    refine continues_quiet tracks ?_ Option.or_none told (if_neg fun both => connected both.1)
    rw [callback, control, if_neg connected]
    rfl
  have informed := sane.connected connected
  obtain ⟨first, known⟩ := Intake.first_of_dpid (sane.named (Or.inl informed))
  by_cases whole : 16 ≤ (intake.control.input ++ segment).length
  · refine continues_handled tracks known ?_ told (if_pos ⟨connected, whole⟩) ?_ ?_
    · rw [informed]
      exact fun other => by cases other
    · rintro app - ⟨pk, same, -⟩
      cases same
    · rw [callback, control, if_pos connected, MCNWClientConnection.readCb_whole]
      · rfl
      · exact whole
  · refine continues_quiet tracks ?_ Option.or_none told (if_neg fun both => whole both.2)
    rw [callback, control, if_pos connected, MCNWClientConnection.readCb_part]
    · show finish (process.app.perform _) = _
      rw [ConnectedApp.perform_some (tracks.captured known)]
      rfl
    · exact Nat.lt_of_not_le whole

theorem callback_continues (sane : intake.Sane) (tracks : Tracks intake process.app messages)
    (control : process.toControl = intake.control) (defined : intake.Defined event) :
    Continues intake process messages event := by
  cases event with
  | dispatch ev =>
      by_cases running : intake.control.running
      case neg => exact dispatch_stopped tracks control running ev
      cases ev with
      | switchUp ofconn datapathId => exact dispatch_switchUp sane tracks control running datapathId
      | switchDown ofconn =>
          apply continues_quiet tracks
          · rw [callback, control, if_pos running]
            rfl
          · exact Option.or_none
          · simp [Intake.next]
          · rfl
      | packetIn ofconn ofpi => exact dispatch_packetIn tracks control running defined
  | main | sigint => exact continues_quiet tracks rfl Option.or_none (by simp [Intake.next]) rfl
  | eventCb connected => exact eventCb_continues sane tracks control connected
  | readCb segment => exact readCb_continues sane tracks control segment

theorem callback_faults (tracks : Tracks intake process.app messages) (control : process.toControl = intake.control)
    (undefined : ¬ intake.Defined event) : ∃ fault, process.callback event = .error fault := by
  by_contra runs
  apply undefined
  constructor
  case known =>
    rintro ofconn ofpi rfl running unknown
    apply runs
    refine ⟨.nullConnection, ?_⟩
    rw [callback, control, if_pos running, ConnectedApp.eventCallback, tracks.unknown unknown]
    rfl
  case readable =>
    rintro ofconn ofpi rfl reads
    cases read : readHeader ofpi with
    | ok header => exact ⟨header, rfl⟩
    | error index =>
        refine absurd ⟨.payloadRead index, ?_⟩ runs
        rw [callback_reads _ tracks control reads, read]
        rfl
  case stays =>
    rintro app ev run handles leaves
    obtain ⟨pk, rfl, -⟩ := id leaves
    obtain ⟨ofconn, ofpi, rfl, reads, read⟩ := Intake.handles_packet handles
    obtain ⟨first, known⟩ := Intake.first_of_any reads.2.1
    obtain rfl : app = process.app.toMulticastGroupMembershipApp :=
      run.unique steps_unique (run_steps (tracks.ran (by simp [known])))
    obtain ⟨fault, failed⟩ := faults_iff.mpr leaves
    apply runs
    refine ⟨fault, ?_⟩
    rw [callback_reads _ tracks control reads, read]
    show finish (process.app.perform _) = _
    rw [ConnectedApp.perform_some (tracks.captured known), failed]
    rfl

/-! ## Runs -/

theorem step_continues (sane : intake.Sane) (tracks : Tracks intake process.app messages)
    (control : process.toControl = intake.control) (defined : intake.Defined event) :
    ∃ next output more, process.step event = .ok (next, output) ∧ next.toControl = (intake.next event).control ∧
      Tracks (intake.next event) next.app (messages ++ more) ∧
      (intake.next event).speaks (messages ++ more) = intake.speaks messages ++ output := by
  obtain ⟨app, output, more, calls, tracks', speaks⟩ := callback_continues sane tracks control defined
  refine ⟨{ process.next process.app.dpid event with app := app }, output, more, ?_, ?_, tracks', speaks⟩
  · rw [step, calls]
    rfl
  · show process.toControl.next process.app.dpid event = _
    rw [control, tracks.dpid]
    rfl

def Defined (events : List ProcessEvent) : Prop :=
  Throughout (fun past event => (Intake.after past).Defined event) events

theorem run_outcome (events : List ProcessEvent) :
    (Defined events → ∃ process messages, start.run events = .ok (process, (Intake.after events).speaks messages) ∧
      process.toControl = (Intake.after events).control ∧ Tracks (Intake.after events) process.app messages) ∧
    (¬ Defined events → ∃ fault, start.run events = .error fault) := by
  induction events using List.reverseRecOn with
  | nil => exact ⟨fun _ => ⟨start, [], rfl, rfl, start_tracks⟩, fun fails => absurd throughout_nil fails⟩
  | append_singleton events event ih =>
      obtain ⟨continues, fails⟩ := ih
      rw [run, runLog_snoc, ← run, Defined, throughout_snoc_iff]
      by_cases before : Defined events
      case neg =>
        obtain ⟨fault, failed⟩ := fails before
        rw [failed]
        exact ⟨fun both => absurd both.1 before, fun _ => ⟨fault, rfl⟩⟩
      obtain ⟨process, messages, ran, control, tracks⟩ := continues before
      rw [ran, Intake.after_snoc]
      constructor
      · rintro ⟨-, defined⟩
        obtain ⟨next, output, more, steps, control', tracks', speaks⟩ :=
          step_continues (Intake.after_sane events) tracks control defined
        refine ⟨next, messages ++ more, ?_, control', tracks'⟩
        rw [speaks]
        show (process.step event).bind _ = _
        rw [steps]
        rfl
      · intro neither
        obtain ⟨fault, failed⟩ := callback_faults tracks control fun defined => neither ⟨before, defined⟩
        refine ⟨fault, ?_⟩
        show (process.step event).bind _ = _
        rw [step, failed]
        rfl

def sampleSession : List ProcessEvent :=
  [.dispatch (.switchUp (ConnectedApp.sampleConnection 0) 7), .main, .eventCb true,
    .readCb MCNWClientConnection.sampleRecord.val]

def sampleJoined : List ProcessEvent :=
  sampleSession ++ [.dispatch (.packetIn (ConnectedApp.sampleConnection 0) ConnectedApp.samplePacketIn)]

theorem defined_of_not_packetIn (other : ∀ ofconn ofpi, event ≠ .dispatch (.packetIn ofconn ofpi)) :
    intake.Defined event where
  known := fun ofconn ofpi same => absurd same (other ofconn ofpi)
  readable := fun ofconn ofpi same => absurd same (other ofconn ofpi)
  stays := by
    rintro app ev - handles ⟨pk, rfl, -⟩
    obtain ⟨ofconn, ofpi, same, -⟩ := Intake.handles_packet handles
    exact other ofconn ofpi same

theorem sample_defined : Defined sampleJoined := by
  rw [Defined, sampleJoined, throughout_snoc_iff]
  constructor
  · intro past event inside
    apply defined_of_not_packetIn
    rintro ofconn ofpi rfl
    have member : .dispatch (.packetIn ofconn ofpi) ∈ sampleSession := inside.subset (by simp)
    simp [sampleSession] at member
  · have joins : Run Steps asked (Intake.after sampleJoined).handled _ := run_iff.mpr rfl
    constructor
    case known => exact fun _ _ _ _ => by decide
    case readable =>
      rintro ofconn ofpi ⟨⟩ -
      exact ⟨_, rfl⟩
    case stays =>
      intro app ev run handles
      obtain rfl := List.mem_singleton.mp handles
      exact not_leavesMember_of_run joins ⟨_, List.prefix_rfl, run⟩

end AgentProcess

end Libfluid.Multicast
