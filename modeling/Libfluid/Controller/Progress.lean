import Libfluid.Controller.Stock

namespace Libfluid.Controller
open Library Switch

def LoopEvent.Received (n : Nat) : LoopEvent → Prop
  | .capture packet _ => Inside n packet.inPort ∧ 12 ≤ packet.data.length
  | .overwrite .. | .connect _ | .switchUp | .switchDown _ | .packetIn | .message => True

def Typed (packet : Packet) : Prop := EthernetII packet.data ∧ ethHeaderLen ≤ packet.data.length

def LoopEvent.Lasting : LoopEvent → Prop
  | .capture packet _ => Typed packet
  | .connect _ => False
  | .overwrite .. | .switchUp | .switchDown _ | .packetIn | .message => True

def LoopEvent.packets : LoopEvent → List Packet
  | .capture packet _ => [packet]
  | .overwrite .. | .connect _ | .switchUp | .switchDown _ | .packetIn | .message => []

namespace Loop

variable {n : Nat} {loop : Loop} {event : LoopEvent} {rest events : List LoopEvent}
  {out : List (BitVec 32 × Packet)}

def ids (loop : Loop) : List (BitVec 32) := loop.up.map Switch.PacketIn.bufferId ++ loop.down.map messageId

def captured (events : List LoopEvent) : List Packet := events.flatMap LoopEvent.packets

def KeepsFrames (loop : Loop) : LoopEvent → Prop
  | .overwrite p index byte => KeepsBuffered loop.dp p index byte
  | .capture .. | .connect _ | .switchUp | .switchDown _ | .packetIn | .message => True

/-- The frames that the switch buffers keep their bytes while the loop runs. -/
def FramesKept (answering : Answering) (loop : Loop) (events : List LoopEvent) : Prop :=
  Throughout (fun past event => ∀ next log, loop.run answering past = .ok (next, log) → next.KeepsFrames event) events

structure Sound (n : Nat) (events : List LoopEvent) (out : List (BitVec 32 × Packet)) (loop : Loop) : Prop where
  stocked : Stocked n loop.dp out
  ids : (out.map Prod.fst).Perm loop.ids
  learned : loop.app.Learned (Inside n)
  up : ∀ pi ∈ loop.up, Inside n pi.inPort ∧ 12 ≤ pi.data.length
  down : ∀ message ∈ loop.down, WorksOnId n (messageId message) message
  received : ∀ event ∈ events, event.Received n
  room : loop.dp.bufferId.toNat + captures events < 2 ^ 32 - 1

theorem Sound.tail (sound : Sound n (event :: rest) out loop) : Sound n rest out loop where
  stocked := sound.stocked
  ids := sound.ids
  learned := sound.learned
  up := sound.up
  down := sound.down
  received := (List.forall_mem_cons.mp sound.received).2
  room := by
    have room := sound.room
    rw [captures_cons] at room
    omega

theorem start_sound (n : Nat) (received : ∀ event ∈ events, event.Received n)
    (few : captures events < 2 ^ 32 - 1) : Sound n events [] (start n) where
  stocked := by
    constructor
    case ports => rfl
    case flows => exact fun _ member => absurd member List.not_mem_nil
    case below => exact fun _ _ member => absurd member List.not_mem_nil
    case once => exact fun _ _ _ member => absurd member List.not_mem_nil
    case counter => exact fun _ _ member => absurd member List.not_mem_nil
    case named => exact fun _ _ member => absurd member List.not_mem_nil
    case held => exact fun _ _ member => absurd member List.not_mem_nil
    case nodup => exact List.nodup_nil
  ids := List.Perm.refl _
  learned := fun _ _ other => by cases other
  up := fun _ member => absurd member List.not_mem_nil
  down := fun _ member => absurd member List.not_mem_nil
  received := received
  room := by
    show 0 + _ < _
    omega

theorem taken {id : BitVec 32} {ids : List (BitVec 32)} (same : (out.map Prod.fst).Perm (id :: ids)) :
    ∃ packet out', out.Perm ((id, packet) :: out') ∧ (out'.map Prod.fst).Perm ids := by
  have member : id ∈ out.map Prod.fst := same.mem_iff.mpr List.mem_cons_self
  obtain ⟨⟨id', packet⟩, entry, here⟩ := List.mem_map.mp member
  obtain rfl : id' = id := here
  obtain ⟨before, after, rfl⟩ := List.append_of_mem entry
  have first : (before ++ (id', packet) :: after).Perm ((id', packet) :: (before ++ after)) := List.perm_middle
  exact ⟨packet, before ++ after, first, ((first.map Prod.fst).symm.trans same).cons_inv⟩

structure Attended (out : List (BitVec 32 × Packet)) (loop : Loop) : Prop where
  conn : loop.dp.conn = true
  table : loop.app.applicationData loop.connection ≠ none
  up : ∀ pi ∈ loop.up, ∀ packet, (pi.bufferId, packet) ∈ out → pi.data = packet.data
  down : ∀ message ∈ loop.down, ∀ packet, (messageId message, packet) ∈ out → Takes packet message
  typed : ∀ id packet, (id, packet) ∈ out → Typed packet

theorem eventCallback_total {pi : PacketIn10} (app : BaseLearningSwitch) (connection : Nat)
    (long : 12 ≤ pi.data.length) :
    ∃ app' decision, RawLearningSwitch.eventCallback app (.packetIn connection pi) = .ok (app', decision) := by
  rw [RawLearningSwitch.eventCallback, BaseLearningSwitch.eventCallback]
  cases table : app.applicationData connection with
  | none => exact ⟨_, _, rfl⟩
  | some l2table =>
      obtain ⟨src, dst, addressed⟩ := addressed_of_length long
      simp only [RawLearningSwitch.handlePacketIn, readMac_ok addressed.dst, readMac_ok addressed.src, ok_bind]
      exact ⟨_, _, rfl⟩

def DecidedFor (data : Frame) (decision : Option Decision) : Prop :=
  decision = some .flood ∨ ∃ src dst port, decision = some (.install (macKey src) (macKey dst) port) ∧
    Addressed data src dst

theorem eventCallback_decides {pi : PacketIn10} {app app' : BaseLearningSwitch} {connection : Nat}
    {decision : Option Decision} (table : app.applicationData connection ≠ none)
    (run : RawLearningSwitch.eventCallback app (.packetIn connection pi) = .ok (app', decision)) :
    app'.applicationData connection ≠ none ∧ DecidedFor pi.data decision := by
  obtain ⟨l2table, found⟩ := Option.ne_none_iff_exists'.mp table
  rw [RawLearningSwitch.eventCallback, BaseLearningSwitch.eventCallback] at run
  simp only [found] at run
  obtain ⟨⟨l2table', decided⟩, handled, run⟩ := bind_eq_ok.mp run
  cases run
  constructor
  · rw [BaseLearningSwitch.setApplicationData_self]
    exact Option.some_ne_none _
  obtain ⟨dst, readDst, handled⟩ := bind_eq_ok.mp handled
  obtain ⟨src, readSrc, handled⟩ := bind_eq_ok.mp handled
  obtain ⟨dstAddress, destination, rfl⟩ := readMac_eq_ok.mp readDst
  obtain ⟨srcAddress, source, rfl⟩ := readMac_eq_ok.mp readSrc
  cases known : (l2table.set (macKey srcAddress) pi.inPort).lookup (macKey dstAddress) with
  | none =>
      simp only [learn, known, pure_eq_ok, Prod.mk.injEq] at handled
      exact Or.inl handled.2.symm
  | some port =>
      simp only [learn, known, pure_eq_ok, Prod.mk.injEq] at handled
      exact Or.inr ⟨srcAddress, dstAddress, port, handled.2.symm, destination, source⟩

theorem answered_worksOn (pi : Switch.PacketIn) (decision : Option Decision)
    (inside : ∀ src dst outPort, decision = some (.install src dst outPort) → Inside n outPort) :
    answered pi decision = [] ∨
      ∃ message, answered pi decision = [message] ∧ WorksOnId n pi.bufferId message := by
  rcases decision with - | - | ⟨src, dst, outPort⟩
  case none => exact Or.inl rfl
  case some.flood => exact Or.inr ⟨_, rfl, rfl, 1024, rfl⟩
  case some.install => exact Or.inr ⟨_, rfl, rfl, rfl, outPort, 1024, rfl, inside src dst outPort rfl⟩

theorem answered_takes {pi : Switch.PacketIn} {decision : Option Decision} (decided : DecidedFor pi.data decision) :
    ∃ message, answered pi decision = [message] ∧
      ∀ packet, pi.data = packet.data → Typed packet → Takes packet message := by
  rcases decided with rfl | ⟨src, dst, port, rfl, destination, source⟩
  · exact ⟨_, rfl, fun _ _ _ => trivial⟩
  · have one : answered pi (some (.install (macKey src) (macKey dst) port)) =
        [.flowMod ⟨.add, MultiLearningSwitch.flowMatch src dst, 100, pi.bufferId, [.output port 1024]⟩] := by
      show [MultiLearningSwitch.installFlowMod10 { pi with xid := 21 } (macKey src) (macKey dst) port].filterMap _ = _
      rw [MultiLearningSwitch.installFlowMod10, keyMac_macKey, keyMac_macKey]
      rfl
    refine ⟨_, one, ?_⟩
    intro packet same typed pktMatch extracted
    obtain ⟨readSrc, readDst⟩ := extract_ethernetII typed.1 typed.2 extracted
    rw [← same] at readSrc readDst
    have accepts := Network.learnedFlow_pktMatch_iff src dst port pktMatch
    exact accepts.mpr ⟨Except.ok.inj (source.symm.trans readSrc), Except.ok.inj (destination.symm.trans readDst)⟩

def GoesOn (n : Nat) (rest : List LoopEvent) (had : List Packet) (kept attended : Prop)
    (ran : Except LoopFault (Loop × List Effect)) : Prop :=
  ∃ next sent out served, ran = .ok (next, sent) ∧ Sound n rest out next ∧
    (kept → Accounts n had served (out.map Prod.snd) sent ∧
      (attended → Attended out next ∧ (served.map Served.packet ++ out.map Prod.snd).Perm had))

theorem GoesOn.imp {had : List Packet} {kept kept' attended attended' : Prop}
    {ran : Except LoopFault (Loop × List Effect)} (goes : GoesOn n rest had kept attended ran) (weaker : kept' → kept)
    (weaker' : attended' → attended) : GoesOn n rest had kept' attended' ran := by
  obtain ⟨next, sent, out, served, ran, sound, accounts⟩ := goes
  refine ⟨next, sent, out, served, ran, sound, ?_⟩
  intro kept
  obtain ⟨accounts, attends⟩ := accounts (weaker kept)
  exact ⟨accounts, fun held => attends (weaker' held)⟩

theorem Attended.capture {dp : Datapath} {packet : Packet} {sent : List Effect} (attended : Attended out loop)
    (typed : Typed packet) (ids : (out.map Prod.fst).Perm loop.ids) (conn : dp.conn = loop.dp.conn)
    (carried : ∀ pi ∈ packetIns sent, pi.inPort = packet.inPort ∧ pi.data = packet.data)
    (stocked : Stocked n dp (announced packet sent ++ out)) :
    Attended (announced packet sent ++ out) { loop with dp := dp, up := loop.up ++ packetIns sent } where
  conn := conn.trans attended.conn
  table := attended.table
  up := by
    refine List.forall_mem_append.mpr ⟨?_, ?_⟩
    · intro pi member kept entry
      have old : pi.bufferId ∈ out.map Prod.fst :=
        ids.mem_iff.mpr (List.mem_append_left _ (List.mem_map_of_mem member))
      exact attended.up pi member kept (stocked.older old entry)
    · intro pi member kept entry
      have here : (pi.bufferId, packet) ∈ announced packet sent ++ out :=
        List.mem_append_left _ (List.mem_map.mpr ⟨pi, member, rfl⟩)
      have same := List.inj_on_of_nodup_map stocked.nodup entry here rfl
      rw [(Prod.mk.inj same).2]
      exact (carried pi member).2
  down := by
    intro message member kept entry
    have old : messageId message ∈ out.map Prod.fst :=
      ids.mem_iff.mpr (List.mem_append_right _ (List.mem_map_of_mem member))
    exact attended.down message member kept (stocked.older old entry)
  typed := by
    intro id kept entry
    rcases List.mem_append.mp entry with new | old
    · obtain ⟨pi, -, same⟩ := List.mem_map.mp new
      rw [← (Prod.mk.inj same).2]
      exact typed
    · exact attended.typed id kept old

theorem Sound.capture {packet : Packet} {len : BitVec 32} (sound : Sound n (.capture packet len :: rest) out loop)
    (few : n ≤ ofppMax.toNat) :
    GoesOn n rest (packet :: out.map Prod.snd) True (Attended out loop ∧ Typed packet)
      (loop.onDatapath (.capture packet len)) := by
  have room := sound.room
  rw [captures_cons, LoopEvent.isCapture, if_pos rfl] at room
  obtain ⟨⟨inside, long⟩, others⟩ := List.forall_mem_cons.mp sound.received
  obtain ⟨dp, sent, served, stepped, ⟨counter, conn⟩, carried, stocked, accounts, moved⟩ :=
    sound.stocked.capture few (by omega) packet len
  refine ⟨{ loop with dp := dp, up := loop.up ++ packetIns sent }, sent, announced packet sent ++ out, served,
    ?ran, ?sound, fun _ => ⟨accounts, ?attended⟩⟩
  case ran =>
    rw [Loop.onDatapath, stepped]
    rfl
  case sound =>
    constructor
    case stocked => exact stocked
    case ids =>
      have more : ((announced packet sent ++ out).map Prod.fst).Perm
          ((packetIns sent).map Switch.PacketIn.bufferId ++ loop.ids) := by
        rw [List.map_append, announced, List.map_map]
        exact sound.ids.append_left _
      apply more.trans
      show (_ ++ (loop.up.map _ ++ loop.down.map _)).Perm ((loop.up ++ packetIns sent).map _ ++ loop.down.map _)
      rw [List.map_append, List.append_assoc]
      exact List.perm_append_comm_assoc _ _ _
    case learned => exact sound.learned
    case up =>
      refine List.forall_mem_append.mpr ⟨sound.up, ?_⟩
      intro pi member
      obtain ⟨port, data⟩ := carried pi member
      rw [port, data]
      exact ⟨inside, long⟩
    case down => exact sound.down
    case received => exact others
    case room =>
      show dp.bufferId.toNat + captures rest < _
      omega
  case attended =>
    rintro ⟨attended, typed⟩
    refine ⟨attended.capture typed sound.ids conn carried stocked, ?_⟩
    rw [List.map_append, ← List.append_assoc, moved attended.conn]
    exact List.Perm.refl _

theorem Sound.overwrite (sound : Sound n rest out loop) (p : Ptr) (index : Nat) (byte : Byte) :
    GoesOn n rest (out.map Prod.snd) (loop.KeepsFrames (.overwrite p index byte)) (Attended out loop)
      (loop.onDatapath (.overwrite p index byte)) := by
  refine ⟨{ loop with dp := loop.dp.overwrite p index byte, up := loop.up ++ [] }, [],
    out.map (rewritten loop.dp p index byte), [], rfl, ?sound, ?kept⟩
  case sound =>
    rw [List.append_nil]
    refine ⟨sound.stocked.overwrite p index byte, ?_, sound.learned, sound.up, sound.down, sound.received, sound.room⟩
    rw [map_rewritten_fst]
    exact sound.ids
  case kept =>
    intro kept
    rw [sound.stocked.map_rewritten kept, List.append_nil]
    refine ⟨Accounts.nothing rfl (List.Subperm.refl _), fun attended => ⟨?_, List.Perm.refl _⟩⟩
    exact ⟨attended.conn, attended.table, attended.up, attended.down, attended.typed⟩

theorem Attended.answered {dp : Datapath} {app app' : BaseLearningSwitch} {connection : Nat} {pi : Switch.PacketIn}
    {up : List Switch.PacketIn} {down : List Switch.Event} {message : Switch.Event}
    (attended : Attended out ⟨dp, app, connection, pi :: up, down⟩) (table : app'.applicationData connection ≠ none)
    (id : messageId message = pi.bufferId)
    (takes : ∀ packet, pi.data = packet.data → Typed packet → Takes packet message) :
    Attended out ⟨dp, app', connection, up, down ++ [message]⟩ where
  conn := attended.conn
  table := table
  up := (List.forall_mem_cons.mp attended.up).2
  down := by
    refine List.forall_mem_append.mpr ⟨attended.down, List.forall_mem_singleton.mpr ?_⟩
    intro packet entry
    rw [id] at entry
    exact takes packet ((List.forall_mem_cons.mp attended.up).1 packet entry) (attended.typed _ packet entry)
  typed := attended.typed

theorem Sound.packetIn {dp : Datapath} {app : BaseLearningSwitch} {connection : Nat} {pi : Switch.PacketIn}
    {up : List Switch.PacketIn} {down : List Switch.Event}
    (sound : Sound n rest out ⟨dp, app, connection, pi :: up, down⟩) :
    GoesOn n rest (out.map Prod.snd) True (Attended out ⟨dp, app, connection, pi :: up, down⟩)
      (onApp MultiLearningSwitch.answering ⟨dp, app, connection, up, down⟩ (.packetIn connection pi)) := by
  obtain ⟨⟨inside, long⟩, waiting⟩ := List.forall_mem_cons.mp sound.up
  have port : Inside n ({ pi with xid := 21 } : PacketIn10).inPort := inside
  have data : 12 ≤ ({ pi with xid := 21 } : PacketIn10).data.length := long
  obtain ⟨app', decision, decided⟩ := eventCallback_total app connection data
  obtain ⟨learned, install⟩ := eventCallback_learned port sound.learned decided
  have ran : onApp MultiLearningSwitch.answering ⟨dp, app, connection, up, down⟩ (.packetIn connection pi) =
      .ok (⟨dp, app', connection, up, down ++ answered pi decision⟩, []) := by
    rw [onApp, multiAnswering_packetIn, decided]
    rfl
  have ids : (out.map Prod.fst).Perm (pi.bufferId :: (up.map Switch.PacketIn.bufferId ++ down.map messageId)) :=
    sound.ids
  rcases answered_worksOn pi decision install with none | ⟨message, one, works⟩
  · -- Without a table the identifier is forgotten, and its packet stays in the switch.
    obtain ⟨packet, out', same, left⟩ := taken ids
    rw [none, List.append_nil] at ran
    have fewer := (sound.stocked.perm same).sublist (List.sublist_cons_self _ _)
    have part : (out'.map Prod.snd).Subperm (out.map Prod.snd) :=
      (List.sublist_cons_self _ _).subperm.trans (same.map Prod.snd).symm.subperm
    refine ⟨_, _, out', [], ran, ⟨fewer, left, learned, waiting, sound.down, sound.received, sound.room⟩,
      fun _ => ⟨Accounts.nothing rfl part, ?_⟩⟩
    intro attended
    obtain ⟨message, one, -⟩ := answered_takes (eventCallback_decides attended.table decided).2
    cases none.symm.trans one
  · have worksOn : WorksOnId n (messageId message) message := works.messageId.symm ▸ works
    have moved : (out.map Prod.fst).Perm
        (up.map Switch.PacketIn.bufferId ++ (down ++ [message]).map messageId) := by
      rw [List.map_append, ← List.append_assoc, List.map_singleton, works.messageId]
      exact ids.trans (List.perm_append_singleton _ _).symm
    rw [one] at ran
    refine ⟨_, _, out, [], ran, ⟨sound.stocked, moved, learned, waiting,
      List.forall_mem_append.mpr ⟨sound.down, List.forall_mem_singleton.mpr worksOn⟩, sound.received, sound.room⟩,
      fun _ => ⟨Accounts.nothing rfl (List.Subperm.refl _), ?_⟩⟩
    intro attended
    obtain ⟨table, decides⟩ := eventCallback_decides attended.table decided
    obtain ⟨message', one', takes⟩ := answered_takes decides
    cases one.symm.trans one'
    exact ⟨attended.answered table works.messageId takes, List.Perm.refl _⟩

theorem Sound.message {dp : Datapath} {app : BaseLearningSwitch} {connection : Nat} {message : Switch.Event}
    {up : List Switch.PacketIn} {down : List Switch.Event}
    (sound : Sound n rest out ⟨dp, app, connection, up, message :: down⟩) (few : n ≤ ofppMax.toNat) :
    GoesOn n rest (out.map Prod.snd) True (Attended out ⟨dp, app, connection, up, message :: down⟩)
      (onDatapath ⟨dp, app, connection, up, down⟩ message) := by
  obtain ⟨works, waiting⟩ := List.forall_mem_cons.mp sound.down
  have ids : (out.map Prod.fst).Perm
      (messageId message :: (up.map Switch.PacketIn.bufferId ++ down.map messageId)) :=
    sound.ids.trans List.perm_middle
  obtain ⟨packet, out', same, left⟩ := taken ids
  obtain ⟨dp', sent, served, stepped, quiet, ⟨counter, conn⟩, stocked, accounts, taking⟩ :=
    (sound.stocked.perm same).message few works
  have ran : onDatapath ⟨dp, app, connection, up, down⟩ message = .ok (⟨dp', app, connection, up, down⟩, sent) := by
    rw [onDatapath, stepped]
    show Except.ok (Loop.mk dp' app connection (up ++ packetIns sent) down, sent) = _
    rw [quiet, List.append_nil]
  refine ⟨_, sent, out', served, ran, ⟨stocked, left, sound.learned, sound.up, waiting, sound.received, ?room⟩,
    fun _ => ⟨accounts.perm (same.map Prod.snd).symm, ?attended⟩⟩
  case room =>
    show dp'.bufferId.toNat + captures rest < _
    rw [counter]
    exact sound.room
  case attended =>
    intro attended
    have others : ∀ entry ∈ out', entry ∈ out := fun entry member =>
      same.mem_iff.mpr (List.mem_cons_of_mem _ member)
    obtain ⟨takes, later⟩ := List.forall_mem_cons.mp attended.down
    constructor
    · exact ⟨conn.trans attended.conn, attended.table,
        fun pi member packet entry => attended.up pi member packet (others _ entry),
        fun message member packet entry => later message member packet (others _ entry),
        fun id packet entry => attended.typed id packet (others _ entry)⟩
    · rw [taking (takes packet (same.mem_iff.mpr List.mem_cons_self))]
      exact (same.map Prod.snd).symm

theorem Sound.connect (sound : Sound n rest out loop) (connection : Nat) :
    Sound n rest [] { loop with
      dp := { loop.dp with conn := true }, connection := connection, up := [], down := [] } := by
  obtain ⟨ports, flows, below, once, counter, -, -, -⟩ := sound.stocked
  constructor
  case stocked =>
    exact ⟨ports, flows, below, once, counter, fun _ _ member => absurd member List.not_mem_nil,
      fun _ _ member => absurd member List.not_mem_nil, List.nodup_nil⟩
  case ids => exact List.Perm.refl _
  case learned => exact sound.learned
  case up => exact fun _ member => absurd member List.not_mem_nil
  case down => exact fun _ member => absurd member List.not_mem_nil
  case received => exact sound.received
  case room => exact sound.room

theorem Sound.relearned {app : BaseLearningSwitch} (sound : Sound n rest out loop) (learned : app.Learned (Inside n)) :
    Sound n rest out { loop with app := app, down := loop.down ++ [] } := by
  rw [List.append_nil]
  exact ⟨sound.stocked, sound.ids, learned, sound.up, sound.down, sound.received, sound.room⟩

theorem Sound.goesOn_same {attended : Prop} (sound : Sound n rest out loop)
    (still : attended → Attended out loop) : GoesOn n rest (out.map Prod.snd) True attended (.ok (loop, [])) :=
  ⟨loop, [], out, [], rfl, sound, fun _ => ⟨Accounts.nothing rfl (List.Subperm.refl _),
    fun held => ⟨still held, List.Perm.refl _⟩⟩⟩

theorem Attended.relearned {app : BaseLearningSwitch} (attended : Attended out loop)
    (table : app.applicationData loop.connection ≠ none) :
    Attended out { loop with app := app, down := loop.down ++ [] } := by
  rw [List.append_nil]
  exact ⟨attended.conn, table, attended.up, attended.down, attended.typed⟩

theorem setApplicationData_table {app : BaseLearningSwitch} {connection : Nat} (other : Nat) (l2table : L2Table)
    (table : app.applicationData connection ≠ none) :
    (app.setApplicationData other l2table).applicationData connection ≠ none := by
  by_cases same : other = connection
  · rw [same, BaseLearningSwitch.setApplicationData_self]
    exact Option.some_ne_none _
  · rw [BaseLearningSwitch.setApplicationData_of_ne app l2table same]
    exact table

theorem switchDown_table {app : BaseLearningSwitch} {connection : Nat} (other : Nat)
    (table : app.applicationData connection ≠ none) : (app.switchDown other).applicationData connection ≠ none := by
  rw [BaseLearningSwitch.switchDown]
  split
  · exact table
  · exact setApplicationData_table other .empty table

theorem step_goesOn (sound : Sound n (event :: rest) out loop) (few : n ≤ ofppMax.toNat) :
    GoesOn n rest (event.packets ++ out.map Prod.snd) (loop.KeepsFrames event) (Attended out loop ∧ event.Lasting)
      (loop.step MultiLearningSwitch.answering event) := by
  have later := sound.tail
  cases event with
  | capture packet len => exact sound.capture few
  | overwrite p index byte => exact (later.overwrite p index byte).imp id And.left
  | connect connection =>
      exact ⟨_, _, [], [], rfl, later.connect connection, fun _ => ⟨Accounts.nothing rfl List.nil_subperm,
        fun held => held.2.elim⟩⟩
  | switchUp =>
      refine (later.relearned (learned_empty later.learned)).goesOn_same fun held => ?_
      exact held.1.relearned (setApplicationData_table _ .empty held.1.table)
  | switchDown connection =>
      refine (later.relearned (learned_switchDown later.learned connection)).goesOn_same fun held => ?_
      exact held.1.relearned (switchDown_table connection held.1.table)
  | packetIn =>
      obtain ⟨dp, app, connection, up, down⟩ := loop
      cases up with
      | nil => exact later.goesOn_same fun held => held.1
      | cons pi waiting => exact later.packetIn.imp id And.left
  | message =>
      obtain ⟨dp, app, connection, up, down⟩ := loop
      cases down with
      | nil => exact later.goesOn_same fun held => held.1
      | cons message waiting => exact (later.message few).imp id And.left

theorem FramesKept.head {answering : Answering} (kept : FramesKept answering loop (event :: rest)) :
    loop.KeepsFrames event :=
  kept [] event (List.prefix_append [event] rest) loop [] rfl

theorem FramesKept.tail {answering : Answering} {next : Loop} {sent : List Effect}
    (kept : FramesKept answering loop (event :: rest)) (stepped : loop.step answering event = .ok (next, sent)) :
    FramesKept answering next rest := by
  intro past last inside reached log run
  apply kept (event :: past) last ((List.prefix_cons_inj event).mpr inside) reached (sent ++ log)
  show (loop.step answering event).bind _ = _
  rw [stepped]
  show (runLog (step answering) next past).bind _ = _
  rw [show runLog (step answering) next past = .ok (reached, log) from run]
  rfl

theorem run_goesOn (sound : Sound n (events ++ rest) out loop) (few : n ≤ ofppMax.toNat) :
    GoesOn n rest (captured events ++ out.map Prod.snd) (FramesKept MultiLearningSwitch.answering loop events)
      (Attended out loop ∧ ∀ event ∈ events, event.Lasting) (loop.run MultiLearningSwitch.answering events) := by
  induction events generalizing loop out with
  | nil => exact (sound.goesOn_same fun held => held).imp (fun _ => trivial) And.left
  | cons event events ih =>
      obtain ⟨next, sent, out₁, first, stepped, still, keeps⟩ := step_goesOn sound few
      obtain ⟨last, later, out₂, others, ran, done, kept⟩ := ih still
      -- The packets that the first step leaves are there for the others, with those still to be captured.
      have order : (captured events ++ (event.packets ++ out.map Prod.snd)).Perm
          (captured (event :: events) ++ out.map Prod.snd) := by
        show (captured events ++ (event.packets ++ out.map Prod.snd)).Perm
          (event.packets ++ captured events ++ out.map Prod.snd)
        rw [List.append_assoc]
        exact List.perm_append_comm_assoc _ _ _
      refine ⟨last, sent ++ later, out₂, first ++ others, ?ran, done, ?kept⟩
      case ran =>
        show loop.step MultiLearningSwitch.answering event >>= _ = _
        rw [stepped]
        show runLog (step MultiLearningSwitch.answering) next events >>= _ = _
        rw [show runLog (step MultiLearningSwitch.answering) next events = .ok (last, later) from ran]
        rfl
      case kept =>
        intro framesKept
        obtain ⟨accounts, attended⟩ := keeps framesKept.head
        obtain ⟨accounted, attends⟩ := kept (framesKept.tail stepped)
        refine ⟨(accounts.append accounted).perm order, ?_⟩
        rintro ⟨held, lasting⟩
        obtain ⟨one, rest⟩ := List.forall_mem_cons.mp lasting
        obtain ⟨held₁, moved₁⟩ := attended ⟨held, one⟩
        obtain ⟨held₂, moved₂⟩ := attends ⟨held₁, rest⟩
        refine ⟨held₂, List.Perm.trans ?_ order⟩
        rw [List.map_append, List.append_assoc]
        apply (moved₂.append_left _).trans
        exact (List.perm_append_comm_assoc _ _ _).trans (moved₁.append_left _)

theorem run_accounts (few : n ≤ ofppMax.toNat) (received : ∀ event ∈ events, event.Received n)
    (room : captures events < 2 ^ 32 - 1) :
    ∃ last log served left, (start n).run MultiLearningSwitch.answering events = .ok (last, log) ∧
      (FramesKept MultiLearningSwitch.answering (start n) events → Accounts n (captured events) served left log) := by
  have sound : Sound n (events ++ []) [] (start n) := by
    rw [List.append_nil]
    exact start_sound n received room
  obtain ⟨last, log, out, served, ran, -, accounts⟩ := run_goesOn sound few
  rw [List.map_nil, List.append_nil] at accounts
  exact ⟨last, log, served, _, ran, fun kept => (accounts kept).1⟩

theorem raw_of_multi (frames : ∀ event ∈ events, event.Plain) (room : captures events < 2 ^ 32 - 1) {last : Loop}
    {log : List Effect} (ran : (start n).run MultiLearningSwitch.answering events = .ok (last, log)) :
    ∃ last', (start n).run RawLearningSwitch.answering events = .ok (last', log) ∧ last'.bare = last.bare := by
  have alike := bare_run_alike n events frames room
  rw [run_bare, run_bare, ran] at alike
  cases raw : (start n).run RawLearningSwitch.answering events with
  | error fault =>
      rw [raw] at alike
      cases alike
  | ok done =>
      rw [raw] at alike
      obtain ⟨last', log'⟩ := done
      obtain ⟨bare, same⟩ := Prod.mk.inj (Except.ok.inj alike)
      have same : log' = log := same
      exact ⟨last', by rw [same], bare⟩

/-- No order of frames, connections and deliveries ends in a fault: with either application each message finds the
packet that it names, and works on it alone. -/
theorem run_never_faults (n : Nat) (few : n ≤ ofppMax.toNat) (events : List LoopEvent)
    (received : ∀ event ∈ events, event.Received n) (room : captures events < 2 ^ 32 - 1) :
    (∃ done, (start n).run MultiLearningSwitch.answering events = .ok done) ∧
      ((∀ event ∈ events, event.Plain) →
        ∃ done, (start n).run RawLearningSwitch.answering events = .ok done) := by
  obtain ⟨last, log, -, -, ran, -⟩ := run_accounts few received room
  refine ⟨⟨_, ran⟩, ?_⟩
  intro frames
  obtain ⟨last', raw, -⟩ := raw_of_multi frames room ran
  exact ⟨_, raw⟩

theorem flooded_and_answered_without_fault :
    (∃ done, (start 2).run MultiLearningSwitch.answering sampleEvents = .ok done) ∧
      ∃ done, (start 2).run RawLearningSwitch.answering sampleEvents = .ok done := by
  have received : ∀ event ∈ sampleEvents, event.Received 2 := by
    simp [sampleEvents, LoopEvent.Received, Inside, sampleFrame]
  obtain ⟨multi, raw⟩ := run_never_faults 2 (by decide) sampleEvents received (by decide)
  exact ⟨multi, raw (by decide)⟩

end Loop

end Libfluid.Controller
