import Libfluid.Controller.Network

namespace Libfluid.Controller
open Library Switch

namespace Capture

def From (capture : Capture) (address : EthAddress) : Prop :=
  readEthAddress capture.packet.data 6 = .ok address

def To (capture : Capture) (address : EthAddress) : Prop :=
  readEthAddress capture.packet.data 0 = .ok address

structure Enters (capture : Capture) (n : Nat) : Prop where
  header : ethHeaderLen ≤ capture.packet.data.length
  first : 1 ≤ capture.packet.inPort.toNat
  last : capture.packet.inPort.toNat ≤ n
  physical : capture.packet.inPort ≤ ofppMax

end Capture

structure Wired (n : Nat) (captures : List Capture) : Prop where
  enters : ∀ capture ∈ captures, capture.Enters n
  stable : ∀ capture ∈ captures, ∀ capture' ∈ captures, ∀ address, capture.From address → capture'.From address →
    capture.packet.inPort = capture'.packet.inPort

def learnedFlow (src dst : EthAddress) (port : BitVec 16) : Flow :=
  { priority := 100, match_ := MultiLearningSwitch.flowMatch src dst, actions := [.output port 1024] }

abbrev L2Table.record (l2table : L2Table) (src : EthAddress) (inPort : BitVec 16) : L2Table :=
  l2table.set (macKey src) inPort

def L2Table.Explains (l2table : L2Table) (flow : Flow) : Prop :=
  ∃ src dst port, flow = learnedFlow src dst port ∧ l2table.lookup (macKey src) ≠ none ∧
    l2table.lookup (macKey dst) = some port

/-- Every entry was an arrival, and the Ethernet II frames have been learned. -/
structure L2Table.Learned (l2table : L2Table) (past : List Capture) : Prop where
  arrived : ∀ address port, l2table.lookup (macKey address) = some port →
    ∃ capture ∈ past, capture.From address ∧ capture.packet.inPort = port
  known : ∀ capture ∈ past, EthernetII capture.packet.data → ∀ address, capture.From address →
    l2table.lookup (macKey address) ≠ none

namespace Network

structure Sound (net : Network) (n : Nat) (past : List Capture) (l2table : L2Table) : Prop where
  connected : net.dp.conn = true
  ports : net.dp.ports = (List.range n).map (· + 1)
  bound : net.dp.bufferId.toNat < noBuffer.toNat
  keys : ∀ id pkt, (id, pkt) ∈ net.dp.pktBuffer → id.toNat ≤ net.dp.bufferId.toNat
  table : net.app.applicationData 0 = some l2table
  learned : l2table.Learned past
  explained : ∀ flow ∈ net.dp.flowTable, l2table.Explains flow

/-- The buffer ids do not wrap: a miss finds an id left. -/
def IdLeft (net : Network) (packet : Packet) : Prop :=
  (∀ pktMatch, Datapath.extract packet = .ok pktMatch → net.dp.selectFlow pktMatch = none) →
    net.dp.bufferId + 1 ≠ noBuffer

variable {net : Network} {n : Nat} {past : List Capture} {l2table : L2Table} {capture : Capture}
  {src dst : EthAddress} {pktMatch : Match} {port : BitVec 16}

/-! ## The parts of a step -/

theorem learnedFlow_pktMatch_iff (src dst : EthAddress) (port : BitVec 16) (pktMatch : Match) :
    (learnedFlow src dst port).pktMatch pktMatch = true ↔ src = pktMatch.dlSrc ∧ dst = pktMatch.dlDst := by
  rw [← MultiLearningSwitch.flowMatch_fieldsAgree_iff]
  exact FlowMod.pktMatch_iff ⟨.add, MultiLearningSwitch.flowMatch src dst, 100, noBuffer, [.output port 1024]⟩ pktMatch

theorem next_id (sound : net.Sound n past l2table) (left : net.dp.bufferId + 1 ≠ noBuffer) :
    (net.dp.bufferId + 1).toNat = net.dp.bufferId.toNat + 1 ∧ (net.dp.bufferId + 1).toNat < noBuffer.toNat := by
  have small := sound.bound
  have different : (net.dp.bufferId + 1).toNat ≠ noBuffer.toNat := fun same => left (BitVec.eq_of_toNat_eq same)
  have top : noBuffer.toNat = 4294967295 := rfl
  have next : (net.dp.bufferId + 1).toNat = (net.dp.bufferId.toNat + 1) % 4294967296 := by
    rw [BitVec.toNat_add]
    rfl
  omega

theorem next_free (sound : net.Sound n past l2table) (left : net.dp.bufferId + 1 ≠ noBuffer) :
    net.dp.pktBuffer.lookup (net.dp.bufferId + 1) = none := by
  rw [OrderedMap.lookup_eq_none_iff_not_mem toNat_injective]
  intro pkt member
  have below := sound.keys _ pkt member
  have next := (next_id sound left).1
  omega

theorem missed_stored (sound : net.Sound n past l2table) (left : net.dp.bufferId + 1 ≠ noBuffer) (packet : Packet) :
    (net.missed packet).pktBuffer.lookup (net.dp.bufferId + 1) = some (some net.dp.heap.length) := by
  rw [OrderedMap.lookup_eq_some_iff_mem toNat_injective]
  exact OrderedMap.mem_insertNew.mpr (Or.inr ⟨rfl, next_free sound left⟩)

theorem missed_cell (net : Network) (packet : Packet) :
    (net.missed packet).heap[net.dp.heap.length]? = some (some packet) :=
  List.getElem?_concat_length

theorem missed_keys (sound : net.Sound n past l2table) (left : net.dp.bufferId + 1 ≠ noBuffer) (packet : Packet)
    (id : BitVec 32) (pkt : Option Ptr) (member : (id, pkt) ∈ (net.missed packet).pktBuffer) :
    id.toNat ≤ (net.missed packet).bufferId.toNat := by
  have next : (net.missed packet).bufferId.toNat = net.dp.bufferId.toNat + 1 := (next_id sound left).1
  rcases OrderedMap.mem_insertNew.mp member with old | ⟨new, -⟩
  · have below := sound.keys id pkt old
    omega
  · cases new
    exact le_rfl

theorem wired_initial (wired : Wired n (past ++ [capture])) : Wired n past :=
  ⟨fun c member => wired.enters c (by simp [member]),
    fun c member c' member' => wired.stable c (by simp [member]) c' (by simp [member'])⟩

theorem physical_of_lookup (learned : l2table.Learned past) (wired : Wired n past) {address : EthAddress}
    (found : l2table.lookup (macKey address) = some port) :
    1 ≤ port.toNat ∧ port.toNat ≤ n ∧ port ≤ ofppMax := by
  obtain ⟨earlier, member, -, rfl⟩ := learned.arrived address port found
  have enters := wired.enters earlier member
  exact ⟨enters.first, enters.last, enters.physical⟩

theorem id_of_miss (left : net.IdLeft capture.packet) (extracted : Datapath.extract capture.packet = .ok pktMatch)
    (selected : net.dp.selectFlow pktMatch = none) : net.dp.bufferId + 1 ≠ noBuffer := by
  refine left fun other extracted' => ?_
  cases extracted.symm.trans extracted'
  exact selected

/-! ## What the tables say after a frame -/

theorem learned_set (learned : l2table.Learned past) (source : capture.From src) :
    (l2table.record src capture.packet.inPort).Learned (past ++ [capture]) := by
  constructor
  · intro address port found
    rw [lookup_learned, L2Table.answer] at found
    split_ifs at found with same
    · cases found
      exact ⟨capture, by simp, same ▸ source, rfl⟩
    · obtain ⟨earlier, member, from_, arrived⟩ := learned.arrived address port found
      exact ⟨earlier, by simp [member], from_, arrived⟩
  · intro earlier member type address from_
    rw [lookup_learned, L2Table.answer]
    split_ifs with same
    · simp
    · rcases List.mem_append.mp member with old | new
      · exact learned.known earlier old type address from_
      · rw [List.mem_singleton.mp new] at from_
        exact absurd (Except.ok.inj (from_.symm.trans source)) same

theorem explains_set (learned : l2table.Learned past) (wired : Wired n (past ++ [capture]))
    (source : capture.From src) {flow : Flow} (explained : l2table.Explains flow) :
    (l2table.record src capture.packet.inPort).Explains flow := by
  obtain ⟨s, d, port, rfl, known, found⟩ := explained
  refine ⟨s, d, port, rfl, ?_, ?_⟩
  · rw [lookup_learned, L2Table.answer]
    split_ifs
    · simp
    · exact known
  · rw [lookup_learned, L2Table.answer]
    split_ifs with same
    · obtain ⟨earlier, member, from_, rfl⟩ := learned.arrived d port found
      exact congrArg some (wired.stable capture (by simp) earlier (by simp [member]) d (same ▸ source) from_)
    · exact found

theorem explains_install (sound : net.Sound n past l2table) (wired : Wired n (past ++ [capture]))
    (source : capture.From src)
    (after : (l2table.record src capture.packet.inPort).lookup (macKey dst) = some port) :
    ∀ flow ∈ Datapath.addFlow net.dp.flowTable (learnedFlow src dst port),
      (l2table.record src capture.packet.inPort).Explains flow := by
  intro flow member
  rcases List.mem_cons.mp ((Datapath.addFlow_perm _ _).mem_iff.mp member) with rfl | old
  · refine ⟨src, dst, port, rfl, ?_, after⟩
    rw [lookup_learned, L2Table.answer, if_pos rfl]
    simp
  · exact explains_set sound.learned wired source (sound.explained flow (List.mem_of_mem_eraseP old))

theorem learned_hit (learned : l2table.Learned past) (source : capture.From src)
    (known : EthernetII capture.packet.data → l2table.lookup (macKey src) ≠ none) :
    l2table.Learned (past ++ [capture]) := by
  constructor
  · intro address port found
    obtain ⟨earlier, member, from_, arrived⟩ := learned.arrived address port found
    exact ⟨earlier, by simp [member], from_, arrived⟩
  · intro earlier member type address from_
    rcases List.mem_append.mp member with old | new
    · exact learned.known earlier old type address from_
    · rw [List.mem_singleton.mp new] at from_ type
      rw [Except.ok.inj (from_.symm.trans source)]
      exact known type

/-! ## The three outcomes -/

theorem capture_hit {flow : Flow} (sound : net.Sound n past l2table) (wired : Wired n (past ++ [capture]))
    (source : capture.From src) (extracted : Datapath.extract capture.packet = .ok pktMatch)
    (selected : net.dp.selectFlow pktMatch = some flow) :
    ∃ s d port, flow = learnedFlow s d port ∧ l2table.lookup (macKey d) = some port ∧
      (∀ net' effects, net.Captures capture net' effects ↔
        net' = ⟨(net.dp.newPacket capture.packet).1, net.app⟩ ∧ effects = [.inject port.toNat capture.packet.data]) ∧
      Sound ⟨(net.dp.newPacket capture.packet).1, net.app⟩ n (past ++ [capture]) l2table := by
  obtain ⟨member, accepted⟩ := OrderedSet.mem_of_find? selected
  obtain ⟨s, d, port, rfl, known, found⟩ := sound.explained flow member
  obtain ⟨first, last, physical⟩ := physical_of_lookup sound.learned (wired_initial wired) found
  refine ⟨s, d, port, rfl, found, fun net' effects => ?_, ?_⟩
  · have live : (net.dp.newPacket capture.packet).1.deref (some net.dp.heap.length) = .ok capture.packet :=
      Datapath.deref_stored List.getElem?_concat_length
    have acts := Datapath.applyActions_output live sound.ports first last physical 1024
    exact captures_hit extracted selected acts rfl
  · refine ⟨sound.connected, sound.ports, sound.bound, sound.keys, sound.table, ?_, sound.explained⟩
    refine learned_hit sound.learned source fun type => ?_
    have header := (wired.enters capture (by simp)).header
    obtain ⟨readSrc, -⟩ := extract_ethernetII type header extracted
    obtain ⟨sameSrc, -⟩ := (learnedFlow_pktMatch_iff s d port pktMatch).mp accepted
    rw [← Except.ok.inj (readSrc.symm.trans source), ← sameSrc]
    exact known

theorem deliverAll_single {m : Message} {dp dp' : Datapath} {sent : List Effect} (run : deliver dp m = .ok (dp', sent)) :
    deliverAll [m] dp = .ok (dp', sent) := by
  rw [deliverAll, run]
  show Except.ok _ = _
  rw [List.append_nil]

theorem sound_answered (sound : net.Sound n past l2table)
    (left : net.dp.bufferId + 1 ≠ noBuffer) (source : capture.From src) (table : FlowTable)
    (explained : ∀ flow ∈ table, (l2table.record src capture.packet.inPort).Explains flow)
    (heap : List (Option Packet)) :
    Sound ⟨{ net.missed capture.packet with flowTable := table, heap := heap },
      net.app.setApplicationData 0 (l2table.record src capture.packet.inPort)⟩ n (past ++ [capture])
      (l2table.record src capture.packet.inPort) where
  connected := sound.connected
  ports := sound.ports
  bound := (next_id sound left).2
  keys := missed_keys sound left capture.packet
  table := BaseLearningSwitch.setApplicationData_self _ _ _
  learned := learned_set sound.learned source
  explained := explained

theorem answer_decided (sound : net.Sound n past l2table) (source : capture.From src) (destination : capture.To dst) :
    MultiLearningSwitch.eventCallback net.app
        (.packetIn 0 (toController (net.missPacketIn capture.packet capture.len))) =
      .ok (net.app.setApplicationData 0 (l2table.record src capture.packet.inPort),
        MultiLearningSwitch.respond (toController (net.missPacketIn capture.packet capture.len))
          ((l2table.answer src dst capture.packet.inPort).elim .flood (.install (macKey src) (macKey dst)))) := by
  have addressed : Addressed (toController (net.missPacketIn capture.packet capture.len)).data src dst :=
    ⟨destination, source⟩
  rw [MultiLearningSwitch.eventCallback_packetIn sound.table _ rfl addressed]
  show Except.ok (net.app.setApplicationData 0 (learn l2table (macKey src) (macKey dst) capture.packet.inPort).1,
    MultiLearningSwitch.respond _ (learn l2table (macKey src) (macKey dst) capture.packet.inPort).2) = _
  rw [learn_eq]

theorem emissions_flooded (pi : Switch.PacketIn) (ports : List Nat) (data : Frame) (p : Ptr) :
    emissions (.packetIn pi :: ((ports.map fun portNo => .inject portNo data) ++ [.delete p])) =
      ports.map fun portNo => (portNo, data) := by
  induction ports with
  | nil => rfl
  | cons portNo rest ih => exact congrArg ((portNo, data) :: ·) ih

theorem capture_flood (sound : net.Sound n past l2table) (wired : Wired n (past ++ [capture]))
    (source : capture.From src) (destination : capture.To dst)
    (extracted : Datapath.extract capture.packet = .ok pktMatch) (selected : net.dp.selectFlow pktMatch = none)
    (left : net.dp.bufferId + 1 ≠ noBuffer) (unknown : l2table.answer src dst capture.packet.inPort = none) :
    ∃ net₁ effects₁, (∀ net' effects, net.Captures capture net' effects ↔ net' = net₁ ∧ effects = effects₁) ∧
      net₁.Sound n (past ++ [capture]) (l2table.record src capture.packet.inPort) ∧
      emissions effects₁ = (net.dp.ports.filter fun portNo => portNo != capture.packet.inPort.toNat).map
        fun portNo => (portNo, capture.packet.data) := by
  have decided := answer_decided sound source destination
  rw [unknown] at decided
  have cell := missed_cell net capture.packet
  have acts := Datapath.applyActions_flood (Datapath.deref_stored cell) 1024
  have delivered : deliverAll [MultiLearningSwitch.flood10
      { net.missPacketIn capture.packet capture.len with xid := 21 }] (net.missed capture.packet) = .ok _ :=
    deliverAll_single (Datapath.handlePacketOut_stored left (missed_stored sound left capture.packet) cell acts)
  have quiet (ports : List Nat) : packetIns ((ports.map fun portNo => .inject portNo capture.packet.data) ++
      [.delete net.dp.heap.length]) = [] := by
    simp [packetIns, packetInOf]
  refine ⟨_, _, fun net' effects => captures_miss sound.connected extracted selected decided delivered (quiet _),
    sound_answered sound left source net.dp.flowTable ?_ _, ?_⟩
  · exact fun flow member => explains_set sound.learned wired source (sound.explained flow member)
  · exact emissions_flooded _ _ _ _

theorem capture_install (sound : net.Sound n past l2table) (wired : Wired n (past ++ [capture]))
    (source : capture.From src) (destination : capture.To dst)
    (extracted : Datapath.extract capture.packet = .ok pktMatch) (selected : net.dp.selectFlow pktMatch = none)
    (left : net.dp.bufferId + 1 ≠ noBuffer) (known : l2table.answer src dst capture.packet.inPort = some port) :
    ∃ net₁ effects₁, (∀ net' effects, net.Captures capture net' effects ↔ net' = net₁ ∧ effects = effects₁) ∧
      net₁.Sound n (past ++ [capture]) (l2table.record src capture.packet.inPort) ∧
      emissions effects₁ =
        if (learnedFlow src dst port).pktMatch pktMatch then [(port.toNat, capture.packet.data)] else [] := by
  have decided := answer_decided sound source destination
  rw [known] at decided
  have after : (l2table.record src capture.packet.inPort).lookup (macKey dst) = some port :=
    (lookup_learned l2table src dst capture.packet.inPort).trans known
  have explained := explains_install sound wired source after
  let pi : PacketIn10 := { net.missPacketIn capture.packet capture.len with xid := 21 }
  let stored : Datapath := { net.missed capture.packet with
    flowTable := Datapath.addFlow net.dp.flowTable (learnedFlow src dst port) }
  have run : deliver (net.missed capture.packet)
      (MultiLearningSwitch.installFlowMod10 pi (macKey src) (macKey dst) port) =
        stored.releaseToFlow (learnedFlow src dst port) (net.dp.bufferId + 1) := by
    rw [MultiLearningSwitch.installFlowMod10, keyMac_macKey, keyMac_macKey]
    rfl
  have found : stored.pktBuffer.lookup (net.dp.bufferId + 1) = some (some net.dp.heap.length) :=
    missed_stored sound left capture.packet
  have cell : stored.heap[net.dp.heap.length]? = some (some capture.packet) := missed_cell net capture.packet
  cases accepted : (learnedFlow src dst port).pktMatch pktMatch with
  | false =>
      rw [Datapath.releaseToFlow_rejected left found cell extracted accepted] at run
      refine ⟨_, _, fun net' effects => captures_miss sound.connected extracted selected decided
        (deliverAll_single run) rfl, sound_answered sound left source _ explained _, rfl⟩
  | true =>
      obtain ⟨first, last, physical⟩ := physical_of_lookup (learned_set sound.learned source) wired after
      have acts := Datapath.applyActions_output (Datapath.deref_stored cell) sound.ports first last physical 1024
      rw [Datapath.releaseToFlow_accepted left found cell extracted accepted acts] at run
      refine ⟨_, _, fun net' effects => captures_miss sound.connected extracted selected decided
        (deliverAll_single run) rfl, sound_answered sound left source _ explained _, rfl⟩

/-! ## Runs -/

theorem create_sound (n : Nat) : (create n).Sound n [] .empty where
  connected := rfl
  ports := rfl
  bound := by
    show (0 : BitVec 32).toNat < noBuffer.toNat
    decide
  keys id pkt member := absurd member List.not_mem_nil
  table := BaseLearningSwitch.setApplicationData_self _ _ _
  learned := by
    constructor
    · intro address port found
      cases found
    · exact fun capture member => absurd member List.not_mem_nil
  explained flow member := absurd member List.not_mem_nil

theorem addresses_of_enters (enters : capture.Enters n) : ∃ src dst, capture.From src ∧ capture.To dst := by
  have header := enters.header
  simp only [ethHeaderLen] at header
  obtain ⟨src, dst, destination, source⟩ := addressed_of_length (show 12 ≤ capture.packet.data.length by omega)
  exact ⟨src, dst, source, destination⟩

theorem capture_sound (sound : net.Sound n past l2table) (wired : Wired n (past ++ [capture]))
    (left : net.IdLeft capture.packet) :
    ∃ net₁ effects₁ l2table₁, (∀ net' effects, net.Captures capture net' effects ↔ net' = net₁ ∧ effects = effects₁) ∧
      net₁.Sound n (past ++ [capture]) l2table₁ := by
  obtain ⟨src, dst, source, destination⟩ := addresses_of_enters (wired.enters capture (by simp))
  obtain ⟨pktMatch, extracted⟩ := extract_total capture.packet
  cases selected : net.dp.selectFlow pktMatch with
  | some flow =>
      obtain ⟨_, _, _, _, _, captures, after⟩ := capture_hit sound wired source extracted selected
      exact ⟨_, _, _, captures, after⟩
  | none =>
      have id := id_of_miss left extracted selected
      cases answer : l2table.answer src dst capture.packet.inPort with
      | none =>
          obtain ⟨_, _, captures, after, -⟩ := capture_flood sound wired source destination extracted selected id answer
          exact ⟨_, _, _, captures, after⟩
      | some port =>
          obtain ⟨_, _, captures, after, -⟩ := capture_install sound wired source destination extracted selected id answer
          exact ⟨_, _, _, captures, after⟩

theorem run_sound (run : Run Steps (create n) past net) (wired : Wired n past)
    (ids : ∀ net capture net', Takes Steps (create n) past net capture net' → net.IdLeft capture.packet) :
    ∃ l2table, net.Sound n past l2table := by
  induction run with
  | start => exact ⟨_, create_sound n⟩
  | step before advance ih =>
      have left := ids _ _ _ ⟨_, List.prefix_rfl, before, advance⟩
      obtain ⟨l2table, sound⟩ := ih (wired_initial wired) fun net capture net' takes =>
        ids net capture net' (takes.mono (List.prefix_append _ _))
      obtain ⟨net₁, effects₁, l2table₁, captures, after⟩ := capture_sound sound wired left
      obtain ⟨effects, captured⟩ := advance
      obtain ⟨rfl, -⟩ := (captures _ _).mp captured
      exact ⟨l2table₁, after⟩

/-! ## Delivery -/

def Known (net : Network) (address : EthAddress) : Prop :=
  ∃ l2table, net.app.applicationData 0 = some l2table ∧ l2table.lookup (macKey address) ≠ none

/-- The frame is of Ethernet II and the controller knows its destination; or a flow takes it to the port
anyway; or it is flooded on a switch that has no third port. -/
def Served (net : Network) (n : Nat) (capture : Capture) (dst : EthAddress) (port : BitVec 16) : Prop :=
  (EthernetII capture.packet.data ∧ Known net dst) ∨
    (∃ pktMatch flow maxLen, Datapath.extract capture.packet = .ok pktMatch ∧
      net.dp.selectFlow pktMatch = some flow ∧ flow.actions = [.output port maxLen]) ∨
    (n = 2 ∧ ¬ Known net dst ∧
      ∀ pktMatch, Datapath.extract capture.packet = .ok pktMatch → net.dp.selectFlow pktMatch = none)

theorem known_iff (sound : net.Sound n past l2table) (address : EthAddress) :
    Known net address ↔ l2table.lookup (macKey address) ≠ none := by
  constructor
  · rintro ⟨l2table', table, known⟩
    cases sound.table.symm.trans table
    exact known
  · exact fun known => ⟨l2table, sound.table, known⟩

theorem port_unique (learned : l2table.Learned past) (wired : Wired n (past ++ [capture])) {address : EthAddress}
    {earlier : Capture} (member : earlier ∈ past) (source : earlier.From address)
    (found : l2table.lookup (macKey address) = some port) : port = earlier.packet.inPort := by
  obtain ⟨other, member', source', rfl⟩ := learned.arrived address port found
  exact wired.stable other (by simp [member']) earlier (by simp [member]) address source' source

theorem flow_accepts_iff {p : BitVec 16} (enters : capture.Enters n) (source : capture.From src)
    (destination : capture.To dst) (different : src ≠ dst)
    (extracted : Datapath.extract capture.packet = .ok pktMatch) :
    (learnedFlow src dst p).pktMatch pktMatch = true ↔ EthernetII capture.packet.data := by
  rw [learnedFlow_pktMatch_iff]
  constructor
  · rintro ⟨sameSrc, sameDst⟩
    by_contra length
    obtain ⟨noDst, noSrc⟩ := extract_llc length enters.header extracted
    rcases noSrc with unset | wrong
    · exact different (by rw [sameSrc, sameDst, unset, noDst])
    · exact different (sameSrc.trans (Except.ok.inj (wrong.symm.trans destination)))
  · intro type
    obtain ⟨readSrc, readDst⟩ := extract_ethernetII type enters.header extracted
    exact ⟨Except.ok.inj (source.symm.trans readSrc), Except.ok.inj (destination.symm.trans readDst)⟩

theorem served_hit_iff {s d : EthAddress} {p : BitVec 16} {earlier : Capture} (sound : net.Sound n past l2table)
    (wired : Wired n (past ++ [capture])) (destination : capture.To dst)
    (extracted : Datapath.extract capture.packet = .ok pktMatch)
    (selected : net.dp.selectFlow pktMatch = some (learnedFlow s d p))
    (found : l2table.lookup (macKey d) = some p) (member : earlier ∈ past) (origin : earlier.From dst) :
    net.Served n capture dst earlier.packet.inPort ↔ p = earlier.packet.inPort := by
  constructor
  · rintro (⟨type, -⟩ | ⟨other, flow, maxLen, extracted', selected', acts⟩ | ⟨-, -, none⟩)
    · have enters := wired.enters capture (by simp)
      obtain ⟨-, accepted⟩ := OrderedSet.mem_of_find? selected
      obtain ⟨-, sameDst⟩ := (learnedFlow_pktMatch_iff s d p pktMatch).mp accepted
      obtain ⟨-, readDst⟩ := extract_ethernetII type enters.header extracted
      have same : d = dst := sameDst.trans (Except.ok.inj (readDst.symm.trans destination))
      exact port_unique sound.learned wired member origin (same ▸ found)
    · cases extracted.symm.trans extracted'
      cases selected.symm.trans selected'
      cases acts
      rfl
    · rw [none pktMatch extracted] at selected
      cases selected
  · rintro rfl
    exact Or.inr (Or.inl ⟨pktMatch, _, 1024, extracted, selected, rfl⟩)

theorem served_miss_iff (extracted : Datapath.extract capture.packet = .ok pktMatch)
    (selected : net.dp.selectFlow pktMatch = none) :
    net.Served n capture dst port ↔
      (EthernetII capture.packet.data ∧ Known net dst) ∨ (n = 2 ∧ ¬ Known net dst) := by
  constructor
  · rintro (first | ⟨other, flow, maxLen, extracted', selected', -⟩ | ⟨two, unknown, -⟩)
    · exact Or.inl first
    · cases extracted.symm.trans extracted'
      rw [selected] at selected'
      cases selected'
    · exact Or.inr ⟨two, unknown⟩
  · rintro (first | ⟨two, unknown⟩)
    · exact Or.inl first
    · refine Or.inr (Or.inr ⟨two, unknown, fun other extracted' => ?_⟩)
      cases extracted.symm.trans extracted'
      exact selected

theorem captured_iff {P : List Effect → Prop} {after : Network} {emitted : List Effect}
    (captures : ∀ net' effects, net.Captures capture net' effects ↔ net' = after ∧ effects = emitted) :
    ((∃ net' effects, net.Captures capture net' effects) ∧
      ∀ net' effects, net.Captures capture net' effects → P effects) ↔ P emitted := by
  constructor
  · rintro ⟨-, all⟩
    exact all after emitted ((captures _ _).mpr ⟨rfl, rfl⟩)
  · intro holds
    refine ⟨⟨after, emitted, (captures _ _).mpr ⟨rfl, rfl⟩⟩, fun net' effects captured => ?_⟩
    rw [((captures _ _).mp captured).2]
    exact holds

theorem flooded_iff {p q : BitVec 16} (firstP : 1 ≤ p.toNat) (lastP : p.toNat ≤ n) (firstQ : 1 ≤ q.toNat)
    (lastQ : q.toNat ≤ n) (different : q ≠ p) (data : Frame) :
    ((((List.range n).map (· + 1)).filter fun portNo => portNo != p.toNat).map fun portNo => (portNo, data)) =
      [(q.toNat, data)] ↔ n = 2 := by
  have apart : q.toNat ≠ p.toNat := fun same => different (BitVec.eq_of_toNat_eq same)
  constructor
  · intro flooded
    by_contra more
    have reaches (r : Nat) (first : 1 ≤ r) (last : r ≤ n) (other : r ≠ p.toNat) : r = q.toNat := by
      have member : (r, data) ∈ [(q.toNat, data)] := by
        rw [← flooded]
        refine List.mem_map.mpr ⟨r, List.mem_filter.mpr ⟨List.mem_map.mpr ⟨r - 1, ?_, ?_⟩, ?_⟩, rfl⟩
        · rw [List.mem_range]
          omega
        · show r - 1 + 1 = r
          omega
        · simpa using other
      exact congrArg Prod.fst (List.mem_singleton.mp member)
    have one := reaches 1 le_rfl (by omega)
    have two := reaches 2 (by omega) (by omega)
    have three := reaches 3 (by omega) (by omega)
    omega
  · rintro rfl
    obtain ⟨isP, isQ⟩ | ⟨isP, isQ⟩ : p.toNat = 1 ∧ q.toNat = 2 ∨ p.toNat = 2 ∧ q.toNat = 1 := by omega
    · rw [isP, isQ]
      rfl
    · rw [isP, isQ]
      rfl

/-- A frame to an address that entered elsewhere is emitted once, there and nowhere else, exactly where it is
served. -/
theorem delivered_iff (n : Nat) (past : List Capture) (capture : Capture) (net : Network)
    (wired : Wired n (past ++ [capture])) (run : Run Steps (create n) past net)
    (ids : ∀ net capture net', Takes Steps (create n) past net capture net' → net.IdLeft capture.packet)
    (left : net.IdLeft capture.packet) (dst : EthAddress) (destination : capture.To dst) (earlier : Capture)
    (member : earlier ∈ past) (origin : earlier.From dst)
    (elsewhere : earlier.packet.inPort ≠ capture.packet.inPort) :
    (∃ net' effects, net.Captures capture net' effects) ∧ ∀ net' effects, net.Captures capture net' effects →
      (emissions effects = [(earlier.packet.inPort.toNat, capture.packet.data)] ↔
        net.Served n capture dst earlier.packet.inPort) := by
  obtain ⟨l2table, sound⟩ := run_sound run (wired_initial wired) ids
  have enters := wired.enters capture (by simp)
  have origins := wired.enters earlier (by simp [member])
  obtain ⟨src, _, source, -⟩ := addresses_of_enters enters
  obtain ⟨pktMatch, extracted⟩ := extract_total capture.packet
  have different : src ≠ dst := by
    rintro rfl
    exact elsewhere (wired.stable earlier (by simp [member]) capture (by simp) src origin source)
  cases selected : net.dp.selectFlow pktMatch with
  | some flow =>
      obtain ⟨s, d, port, rfl, found, captures, -⟩ := capture_hit sound wired source extracted selected
      rw [captured_iff captures, served_hit_iff sound wired destination extracted selected found member origin]
      constructor
      · intro emitted
        exact BitVec.eq_of_toNat_eq (congrArg Prod.fst (List.singleton_inj.mp emitted))
      · rintro rfl
        rfl
  | none =>
      have id := id_of_miss left extracted selected
      rw [served_miss_iff extracted selected, known_iff sound]
      cases answer : l2table.answer src dst capture.packet.inPort with
      | none =>
          have unknown := (answer_eq_none.mp answer).2
          obtain ⟨_, _, captures, -, emitted⟩ :=
            capture_flood sound wired source destination extracted selected id answer
          rw [captured_iff captures, emitted, sound.ports, flooded_iff enters.first enters.last origins.first origins.last elsewhere, unknown]
          simp
      | some port =>
          have found : l2table.lookup (macKey dst) = some port := by
            rwa [L2Table.answer, if_neg (Ne.symm different)] at answer
          obtain rfl := port_unique sound.learned wired member origin found
          obtain ⟨_, _, captures, -, emitted⟩ :=
            capture_install sound wired source destination extracted selected id answer
          rw [captured_iff captures, emitted, ← flow_accepts_iff (p := earlier.packet.inPort) enters source destination different extracted,
            found]
          simp

def headerFrame (src dst type : Byte) : Frame := [0, 0, 0, 0, 0, dst, 0, 0, 0, 0, 0, src, type, 0]

def arriving (port : BitVec 16) (data : Frame) : Capture := { packet := ⟨port, data⟩, len := 14 }

def afterFirst : Network where
  dp := { Datapath.create 2 with
    pktBuffer := OrderedMap.empty.insertNew 1 (some 0)
    conn := true
    bufferId := 1
    heap := [none] }
  app := (create 2).app.setApplicationData 0 (L2Table.record .empty ⟨0, 0, 0, 0, 0, 1⟩ 1)

theorem run_afterFirst : Run Steps (create 2) [arriving 1 (headerFrame 1 2 0)] afterFirst := by
  have answered : Answers ⟨(create 2).missed ⟨1, headerFrame 1 2 0⟩, (create 2).app⟩
      [(create 2).missPacketIn ⟨1, headerFrame 1 2 0⟩ 14] afterFirst ([.inject 2 (headerFrame 1 2 0), .delete 0] ++ []) :=
    .answer rfl rfl .done
  exact Run.start.step ⟨_, _, _, _, rfl, answered, rfl⟩

theorem sample_wired (type : Byte) :
    Wired 2 ([arriving 1 (headerFrame 1 2 0)] ++ [arriving 2 (headerFrame 2 1 type)]) := by
  constructor
  · intro capture member
    rcases List.mem_cons.mp member with rfl | member
    · exact ⟨le_rfl, by decide, by decide, by decide⟩
    · obtain rfl := List.mem_singleton.mp member
      exact ⟨le_rfl, show 1 ≤ (2 : BitVec 16).toNat by decide, show (2 : BitVec 16).toNat ≤ 2 by decide,
        show (2 : BitVec 16) ≤ ofppMax by decide⟩
  · intro capture member capture' member' address source source'
    rcases List.mem_cons.mp member with rfl | member
    · rcases List.mem_cons.mp member' with rfl | member'
      · rfl
      · obtain rfl := List.mem_singleton.mp member'
        cases source
        cases source'
    · obtain rfl := List.mem_singleton.mp member
      rcases List.mem_cons.mp member' with rfl | member'
      · cases source
        cases source'
      · obtain rfl := List.mem_singleton.mp member'
        rfl

theorem known_frame_delivered :
    ∃ net' effects, afterFirst.Captures (arriving 2 (headerFrame 2 1 8)) net' effects ∧
      emissions effects = [(1, headerFrame 2 1 8)] := by
  have ids : ∀ net capture net', Takes Steps (create 2) [arriving 1 (headerFrame 1 2 0)] net capture net' →
      net.IdLeft capture.packet := by
    intro net capture net' takes
    obtain ⟨rfl, -, -⟩ := takes_single.mp takes
    exact fun _ => by decide
  have left : afterFirst.IdLeft (arriving 2 (headerFrame 2 1 8)).packet := fun _ => by decide
  obtain ⟨⟨net', effects, captured⟩, delivered⟩ := delivered_iff 2 [arriving 1 (headerFrame 1 2 0)]
    (arriving 2 (headerFrame 2 1 8)) afterFirst (sample_wired 8) run_afterFirst ids left ⟨0, 0, 0, 0, 0, 1⟩ rfl
    (arriving 1 (headerFrame 1 2 0)) (List.mem_singleton_self _) rfl (by decide)
  have known : Known afterFirst ⟨0, 0, 0, 0, 0, 1⟩ := ⟨_, rfl, by decide⟩
  exact ⟨net', effects, captured, (delivered net' effects captured).mpr
    (Or.inl ⟨⟨8, 0, rfl, rfl, by decide⟩, known⟩)⟩

theorem llc_frame_lost :
    Run Steps (create 2) [arriving 1 (headerFrame 1 2 0)] afterFirst ∧
      Wired 2 ([arriving 1 (headerFrame 1 2 0)] ++ [arriving 2 (headerFrame 2 1 0)]) ∧
      ∃ net' effects, afterFirst.Captures (arriving 2 (headerFrame 2 1 0)) net' effects ∧ emissions effects = [] := by
  have answered : Answers ⟨afterFirst.missed ⟨2, headerFrame 2 1 0⟩, afterFirst.app⟩
      [afterFirst.missPacketIn ⟨2, headerFrame 2 1 0⟩ 14] _ ([] ++ []) :=
    .answer rfl rfl .done
  exact ⟨run_afterFirst, sample_wired 0, _, _, ⟨_, _, _, rfl, answered, rfl⟩, rfl⟩

end Network

end Libfluid.Controller
