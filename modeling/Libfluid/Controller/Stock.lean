import Libfluid.Controller.EndToEnd
import Libfluid.Controller.Lockstep
import Libfluid.Switch.Output
import Libfluid.Switch.Ownership

namespace Libfluid.Controller
open Library Switch

def Inside (n : Nat) (port : BitVec 16) : Prop := 1 ≤ port.toNat ∧ port.toNat ≤ n

def OutputsInside (n : Nat) (acts : List Action) : Prop :=
  ∃ port maxLen, acts = [.output port maxLen] ∧ Inside n port

def WorksOnId (n : Nat) (id : BitVec 32) : Switch.Event → Prop
  | .packetOut po => po.bufferId = id ∧ ∃ maxLen, po.actions = [.output ofppFlood maxLen]
  | .flowMod fm => fm.bufferId = id ∧ fm.command = .add ∧ OutputsInside n fm.actions
  | .capture .. | .connection _ | .overwrite .. => False

def messageId : Switch.Event → BitVec 32
  | .packetOut po => po.bufferId
  | .flowMod fm => fm.bufferId
  | .capture .. | .connection _ | .overwrite .. => noBuffer

def Takes (packet : Packet) : Switch.Event → Prop
  | .flowMod fm => ∀ pktMatch, Datapath.extract packet = .ok pktMatch → fm.flow.pktMatch pktMatch = true
  | .packetOut _ | .capture .. | .connection _ | .overwrite .. => True

theorem WorksOnId.messageId {n : Nat} {id : BitVec 32} {message : Switch.Event} (works : WorksOnId n id message) :
    messageId message = id := by
  cases message with
  | packetOut po => exact works.1
  | flowMod fm => exact works.1
  | capture packet len | connection up | overwrite p index byte => exact works.elim

/-- A packet that the switch sends on, out of one port or of every other one. -/
structure Served where
  packet : Packet
  port : Option (BitVec 16)

def Served.copies (n : Nat) (served : Served) : List (Nat × Frame) :=
  match served.port with
  | some port => [(port.toNat, served.packet.data)]
  | none =>
      ((Datapath.create n).ports.filter fun portNo => portNo != served.packet.inPort.toNat).map fun portNo =>
        (portNo, served.packet.data)

/-- Of the packets that the switch had, some are sent on by the effects, and among the others are those left. -/
structure Accounts (n : Nat) (had : List Packet) (served : List Served) (left : List Packet) (sent : List Effect) :
    Prop where
  sent : emissions sent = served.flatMap (Served.copies n)
  part : (served.map Served.packet ++ left).Subperm had
  inside : ∀ each ∈ served, ∀ port, each.port = some port → Inside n port

section Accounts

variable {n : Nat} {had had' new left left' : List Packet} {served later : List Served} {sent sent' : List Effect}
  {packet : Packet}

theorem Accounts.nothing (silent : emissions sent = []) (part : left.Subperm had) : Accounts n had [] left sent :=
  ⟨silent, part, fun _ member => absurd member List.not_mem_nil⟩

theorem Accounts.one {port : Option (BitVec 16)} (copies : emissions sent = Served.copies n ⟨packet, port⟩)
    (inside : ∀ number, port = some number → Inside n number) (left : List Packet) :
    Accounts n (packet :: left) [⟨packet, port⟩] left sent :=
  ⟨copies.trans (List.flatMap_singleton _ _).symm, List.Subperm.refl _, List.forall_mem_singleton.mpr inside⟩

theorem Accounts.perm (accounts : Accounts n had served left sent) (same : had.Perm had') :
    Accounts n had' served left sent :=
  ⟨accounts.sent, accounts.part.trans same.subperm, accounts.inside⟩

theorem Accounts.append (first : Accounts n had served left sent) (next : Accounts n (new ++ left) later left' sent') :
    Accounts n (new ++ had) (served ++ later) left' (sent ++ sent') where
  sent := by rw [emissions_append, first.sent, next.sent, List.flatMap_append]
  part := by
    have others : (served.map Served.packet ++ (later.map Served.packet ++ left')).Subperm
        (served.map Served.packet ++ (new ++ left)) := (List.subperm_append_left _).mpr next.part
    have moved : (served.map Served.packet ++ (new ++ left)).Perm (new ++ (served.map Served.packet ++ left)) :=
      List.perm_append_comm_assoc _ _ _
    rw [List.map_append, List.append_assoc]
    exact others.trans (moved.subperm.trans ((List.subperm_append_left _).mpr first.part))
  inside := List.forall_mem_append.mpr ⟨first.inside, next.inside⟩

end Accounts

structure Stocked (n : Nat) (dp : Datapath) (out : List (BitVec 32 × Packet)) : Prop where
  ports : dp.ports = (Datapath.create n).ports
  flows : ∀ flow ∈ dp.flowTable, OutputsInside n flow.actions
  below : ∀ id p, (id, some p) ∈ dp.pktBuffer → p < dp.heap.length
  once : dp.StoredOnce
  counter : ∀ id pkt, (id, pkt) ∈ dp.pktBuffer → id.toNat ≤ dp.bufferId.toNat
  named : ∀ id packet, (id, packet) ∈ out → id ≠ noBuffer
  held : ∀ id packet, (id, packet) ∈ out → ∃ p, (id, some p) ∈ dp.pktBuffer ∧ dp.heap[p]? = some (some packet)
  nodup : (out.map Prod.fst).Nodup

/-- What is written into the memory of a buffered packet is what it holds. -/
def KeepsBuffered (dp : Datapath) (p : Ptr) (index : Nat) (byte : Byte) : Prop :=
  ∀ id packet, (id, some p) ∈ dp.pktBuffer → dp.heap[p]? = some (some packet) →
    packet.data.set index byte = packet.data

def rewritten (dp : Datapath) (p : Ptr) (index : Nat) (byte : Byte) (entry : BitVec 32 × Packet) :
    BitVec 32 × Packet :=
  if dp.pktBuffer.lookup entry.1 = some (some p) then
    (entry.1, { entry.2 with data := entry.2.data.set index byte })
  else entry

section Stocked

variable {n : Nat} {dp dp' : Datapath} {out out' : List (BitVec 32 × Packet)} {id : BitVec 32} {packet : Packet}

theorem Stocked.perm (stocked : Stocked n dp out) (same : out.Perm out') : Stocked n dp out' where
  ports := stocked.ports
  flows := stocked.flows
  below := stocked.below
  once := stocked.once
  counter := stocked.counter
  named := fun id packet member => stocked.named id packet (same.mem_iff.mpr member)
  held := fun id packet member => stocked.held id packet (same.mem_iff.mpr member)
  nodup := (same.map Prod.fst).nodup_iff.mp stocked.nodup

theorem Stocked.sublist (stocked : Stocked n dp out) (part : out'.Sublist out) : Stocked n dp out' where
  ports := stocked.ports
  flows := stocked.flows
  below := stocked.below
  once := stocked.once
  counter := stocked.counter
  named := fun id packet member => stocked.named id packet (part.subset member)
  held := fun id packet member => stocked.held id packet (part.subset member)
  nodup := stocked.nodup.sublist (part.map Prod.fst)

theorem Stocked.newPacket (stocked : Stocked n dp out) (packet : Packet) : Stocked n (dp.newPacket packet).1 out where
  ports := stocked.ports
  flows := stocked.flows
  below := by
    intro id p member
    have inside : p < dp.heap.length := stocked.below id p member
    show p < (dp.heap ++ [some packet]).length
    rw [List.length_append]
    exact Nat.lt_add_right 1 inside
  once := stocked.once
  counter := stocked.counter
  named := stocked.named
  held := by
    intro id kept member
    obtain ⟨p, stored, cell⟩ := stocked.held id kept member
    refine ⟨p, stored, ?_⟩
    show (dp.heap ++ [some packet])[p]? = _
    rw [List.getElem?_append_left (stocked.below id p stored)]
    exact cell
  nodup := stocked.nodup

theorem Stocked.fresh (stocked : Stocked n dp out) (room : dp.bufferId.toNat + 1 < 2 ^ 32 - 1)
    (pkt : Option Ptr) : (dp.bufferId + 1, pkt) ∉ dp.pktBuffer := by
  intro member
  have small := stocked.counter _ _ member
  rw [toNat_nextId room] at small
  exact Nat.not_succ_le_self _ small

theorem Stocked.missed (stocked : Stocked n dp out) (room : dp.bufferId.toNat + 1 < 2 ^ 32 - 1) (packet : Packet) :
    Stocked n ((dp.newPacket packet).1.bufferPacket (some dp.heap.length)) ((dp.bufferId + 1, packet) :: out) := by
  have fresh := stocked.fresh room
  have absent : dp.pktBuffer.lookup (dp.bufferId + 1) = none := Datapath.lookup_pktBuffer_none.mpr fresh
  have stored {id : BitVec 32} {pkt : Option Ptr} :
      (id, pkt) ∈ dp.pktBuffer.insertNew (dp.bufferId + 1) (some dp.heap.length) ↔
        (id, pkt) ∈ dp.pktBuffer ∨ id = dp.bufferId + 1 ∧ pkt = some dp.heap.length := by
    rw [OrderedMap.mem_insertNew, Prod.mk.injEq, and_iff_left absent]
  have new := stocked.newPacket packet
  constructor
  case ports => exact stocked.ports
  case flows => exact stocked.flows
  case below =>
    intro id p member
    rcases stored.mp member with old | ⟨-, same⟩
    · exact new.below id p old
    · rw [Option.some.inj same]
      show _ < (dp.heap ++ [some packet]).length
      rw [List.length_append]
      exact Nat.lt_add_one _
  case once =>
    intro id id' p member member'
    rcases stored.mp member with old | ⟨same, pkt⟩
    · rcases stored.mp member' with old' | ⟨same', pkt'⟩
      · exact stocked.once id id' p old old'
      · rw [Option.some.inj pkt'] at old
        exact absurd (stocked.below id _ old) (lt_irrefl _)
    · rcases stored.mp member' with old' | ⟨same', pkt'⟩
      · rw [Option.some.inj pkt] at old'
        exact absurd (stocked.below id' _ old') (lt_irrefl _)
      · exact same.trans same'.symm
  case counter =>
    intro id pkt member
    show _ ≤ (dp.bufferId + 1).toNat
    rcases stored.mp member with old | ⟨rfl, -⟩
    · rw [toNat_nextId room]
      exact (stocked.counter id pkt old).trans (Nat.le_succ _)
    · exact le_refl _
  case named =>
    intro id kept member
    rcases List.mem_cons.mp member with new | old
    · cases new
      exact nextId_ne_noBuffer room
    · exact stocked.named id kept old
  case held =>
    intro id kept member
    rcases List.mem_cons.mp member with here | there
    · cases here
      exact ⟨dp.heap.length, stored.mpr (Or.inr ⟨rfl, rfl⟩), List.getElem?_concat_length⟩
    · obtain ⟨p, old, cell⟩ := new.held id kept there
      exact ⟨p, stored.mpr (Or.inl old), cell⟩
  case nodup =>
    apply List.nodup_cons.mpr
    refine ⟨?_, stocked.nodup⟩
    intro member
    obtain ⟨⟨id, kept⟩, entry, same⟩ := List.mem_map.mp member
    obtain ⟨p, old, -⟩ := stocked.held id kept entry
    have same : id = dp.bufferId + 1 := same
    rw [same] at old
    exact fresh (some p) old

theorem Stocked.released {p : Ptr} (stocked : Stocked n dp ((id, packet) :: out))
    (stored : (id, some p) ∈ dp.pktBuffer) : Stocked n { dp with heap := dp.heap.set p none } out := by
  obtain ⟨different, distinct⟩ := List.nodup_cons.mp stocked.nodup
  constructor
  case ports => exact stocked.ports
  case flows => exact stocked.flows
  case below =>
    intro other q member
    show q < (dp.heap.set p none).length
    rw [List.length_set]
    exact stocked.below other q member
  case once => exact stocked.once
  case counter => exact stocked.counter
  case named => exact fun other kept member => stocked.named other kept (List.mem_cons_of_mem _ member)
  case held =>
    intro other kept member
    obtain ⟨q, entry, cell⟩ := stocked.held other kept (List.mem_cons_of_mem _ member)
    have apart : p ≠ q := by
      rintro rfl
      rw [stocked.once other id p entry stored] at member
      exact different (List.mem_map.mpr ⟨_, member, rfl⟩)
    refine ⟨q, entry, ?_⟩
    show (dp.heap.set p none)[q]? = _
    rw [List.getElem?_set_ne apart]
    exact cell
  case nodup => exact distinct

theorem Stocked.addFlow (stocked : Stocked n dp out) (flow : Flow) (inside : OutputsInside n flow.actions) :
    Stocked n { dp with flowTable := Datapath.addFlow dp.flowTable flow } out where
  ports := stocked.ports
  flows := by
    intro entry member
    rcases List.mem_cons.mp ((Datapath.addFlow_perm dp.flowTable flow).mem_iff.mp member) with rfl | old
    · exact inside
    · exact stocked.flows entry (List.mem_of_mem_eraseP old)
  below := stocked.below
  once := stocked.once
  counter := stocked.counter
  named := stocked.named
  held := stocked.held
  nodup := stocked.nodup

theorem OutputsInside.sends {acts : List Action} {pkt : Option Ptr} (inside : OutputsInside n acts)
    (few : n ≤ ofppMax.toNat) (ports : dp.ports = (Datapath.create n).ports) (live : dp.deref pkt = .ok packet) :
    ∃ port, Inside n port ∧ Datapath.applyActions pkt acts dp = .ok (dp, [.inject port.toNat packet.data]) := by
  obtain ⟨port, maxLen, rfl, first, last⟩ := inside
  have physical : port ≤ ofppMax := BitVec.le_def.mpr (le_trans last few)
  exact ⟨port, ⟨first, last⟩, Datapath.applyActions_output live ports first last physical maxLen⟩

theorem Stocked.message {message : Switch.Event} (stocked : Stocked n dp ((id, packet) :: out))
    (few : n ≤ ofppMax.toNat) (works : WorksOnId n id message) :
    ∃ dp' sent served, dp.step message = .ok (dp', sent) ∧ packetIns sent = [] ∧
      (dp'.bufferId = dp.bufferId ∧ dp'.conn = dp.conn) ∧ Stocked n dp' out ∧
      Accounts n (packet :: out.map Prod.snd) served (out.map Prod.snd) sent ∧
      (Takes packet message → served.map Served.packet = [packet]) := by
  have named := stocked.named id packet List.mem_cons_self
  obtain ⟨p, member, cell⟩ := stocked.held id packet List.mem_cons_self
  have stored := Datapath.lookup_pktBuffer.mpr member
  have live := Datapath.deref_stored cell
  cases message with
  | capture packet len | connection up | overwrite p index byte => exact works.elim
  | packetOut po =>
      obtain ⟨rfl, maxLen, flood⟩ := works
      have flooded := Datapath.applyActions_flood live maxLen
      rw [← flood, stocked.ports] at flooded
      have quiet (ports : List Nat) (data : Frame) :
          packetIns ((ports.map fun portNo => Effect.inject portNo data) ++ [.delete p]) = [] := by
        simp [packetIns, packetInOf]
      refine ⟨_, _, [⟨packet, none⟩], Datapath.handlePacketOut_stored named stored cell flooded, quiet _ _,
        ⟨rfl, rfl⟩, stocked.released member, Accounts.one ?_ ?_ _, fun _ => rfl⟩
      · rw [emissions_append, emissions_inject]
        exact List.append_nil _
      · exact fun _ other => by cases other
  | flowMod fm =>
      obtain ⟨rfl, add, inside⟩ := works
      have added := stocked.addFlow fm.flow inside
      obtain ⟨pktMatch, extracted⟩ := extract_total packet
      have step : dp.step (.flowMod fm) =
          { dp with flowTable := Datapath.addFlow dp.flowTable fm.flow }.releaseToFlow fm.flow fm.bufferId := by
        rw [Datapath.step, Datapath.handleFlowMod, add]
      rw [step]
      cases accepted : fm.flow.pktMatch pktMatch with
      | false =>
          refine ⟨_, _, [], Datapath.releaseToFlow_rejected named stored cell extracted accepted, rfl, ⟨rfl, rfl⟩,
            added.sublist (List.sublist_cons_self _ _), Accounts.nothing rfl (List.sublist_cons_self _ _).subperm, ?_⟩
          intro takes
          rw [takes pktMatch extracted] at accepted
          cases accepted
      | true =>
          have there : { dp with flowTable := Datapath.addFlow dp.flowTable fm.flow : Datapath }.deref (some p) =
              .ok packet := live
          obtain ⟨port, within, acts⟩ := inside.sends few added.ports there
          refine ⟨_, _, [⟨packet, some port⟩], Datapath.releaseToFlow_accepted named stored cell extracted accepted acts,
            rfl, ⟨rfl, rfl⟩, added.released member, Accounts.one rfl ?_ _, fun _ => rfl⟩
          rintro number same
          rw [← Option.some.inj same]
          exact within

theorem rewritten_fst (dp : Datapath) (p : Ptr) (index : Nat) (byte : Byte) (entry : BitVec 32 × Packet) :
    (rewritten dp p index byte entry).1 = entry.1 := by
  rw [rewritten]
  split_ifs <;> rfl

theorem map_rewritten_fst (dp : Datapath) (p : Ptr) (index : Nat) (byte : Byte) :
    (out.map (rewritten dp p index byte)).map Prod.fst = out.map Prod.fst := by
  rw [List.map_map]
  exact List.map_congr_left fun entry _ => rewritten_fst dp p index byte entry

theorem Stocked.held_rewritten (stocked : Stocked n dp out) (p : Ptr) (index : Nat) (byte : Byte)
    {entry : BitVec 32 × Packet} (member : entry ∈ out) : ∃ q, (entry.1, some q) ∈ dp.pktBuffer ∧
      (dp.overwrite p index byte).heap[q]? = some (some (rewritten dp p index byte entry).2) := by
  obtain ⟨id, packet⟩ := entry
  obtain ⟨q, stored, cell⟩ := stocked.held id packet member
  refine ⟨q, stored, ?_⟩
  have found := Datapath.lookup_pktBuffer.mpr stored
  by_cases same : p = q
  · subst same
    rw [rewritten, if_pos found, Datapath.overwrite, List.getElem?_modify_eq, cell]
    rfl
  · have other : ¬ dp.pktBuffer.lookup id = some (some p) := by
      rw [found]
      simpa using Ne.symm same
    rw [rewritten, if_neg other, Datapath.cell_overwrite_ne same]
    exact cell

theorem Stocked.overwrite (stocked : Stocked n dp out) (p : Ptr) (index : Nat) (byte : Byte) :
    Stocked n (dp.overwrite p index byte) (out.map (rewritten dp p index byte)) where
  ports := stocked.ports
  flows := stocked.flows
  below := fun id q member => (stocked.below id q member).trans_eq (Datapath.length_overwrite p index byte).symm
  once := stocked.once
  counter := stocked.counter
  named := by
    intro id packet member
    obtain ⟨entry, old, same⟩ := List.mem_map.mp member
    have here : entry.1 = id := by rw [← rewritten_fst dp p index byte entry, same]
    exact here ▸ stocked.named entry.1 entry.2 old
  held := by
    intro id packet member
    obtain ⟨entry, old, same⟩ := List.mem_map.mp member
    obtain ⟨q, stored, cell⟩ := stocked.held_rewritten p index byte old
    rw [← rewritten_fst dp p index byte entry] at stored
    rw [same] at stored cell
    exact ⟨q, stored, cell⟩
  nodup := by
    rw [map_rewritten_fst]
    exact stocked.nodup

theorem Stocked.map_rewritten {p : Ptr} {index : Nat} {byte : Byte} (stocked : Stocked n dp out)
    (kept : KeepsBuffered dp p index byte) : out.map (rewritten dp p index byte) = out := by
  have same : ∀ entry ∈ out, rewritten dp p index byte entry = entry := by
    rintro ⟨id, packet⟩ member
    rw [rewritten]
    split_ifs with stored
    · obtain ⟨q, member', cell⟩ := stocked.held id packet member
      cases stored.symm.trans (Datapath.lookup_pktBuffer.mpr member')
      rw [kept id packet member' cell]
    · rfl
  exact (List.map_congr_left same).trans (List.map_id out)

def announced (packet : Packet) (sent : List Effect) : List (BitVec 32 × Packet) :=
  (packetIns sent).map fun pi => (pi.bufferId, packet)

theorem Stocked.capture (stocked : Stocked n dp out) (few : n ≤ ofppMax.toNat)
    (room : dp.bufferId.toNat + 1 < 2 ^ 32 - 1) (packet : Packet) (len : BitVec 32) :
    ∃ dp' sent served, dp.step (.capture packet len) = .ok (dp', sent) ∧
      (dp'.bufferId.toNat ≤ dp.bufferId.toNat + 1 ∧ dp'.conn = dp.conn) ∧
      (∀ pi ∈ packetIns sent, pi.inPort = packet.inPort ∧ pi.data = packet.data) ∧
      Stocked n dp' (announced packet sent ++ out) ∧
      Accounts n (packet :: out.map Prod.snd) served ((announced packet sent ++ out).map Prod.snd) sent ∧
      (dp.conn = true → served.map Served.packet ++ (announced packet sent).map Prod.snd = [packet]) := by
  obtain ⟨pktMatch, extracted⟩ := extract_total packet
  rw [Datapath.step, Datapath.packetHandler_eq extracted]
  cases selected : dp.selectFlow pktMatch with
  | some entry =>
      have inside := stocked.flows entry (OrderedSet.mem_of_find? selected).1
      have live : (dp.newPacket packet).1.deref (some dp.heap.length) = .ok packet :=
        Datapath.deref_stored List.getElem?_concat_length
      obtain ⟨port, within, acts⟩ := inside.sends few (stocked.newPacket packet).ports live
      refine ⟨_, _, [⟨packet, some port⟩], acts, ⟨Nat.le_succ _, rfl⟩, fun _ member => absurd member List.not_mem_nil,
        stocked.newPacket packet, Accounts.one rfl ?_ _, fun _ => rfl⟩
      rintro number same
      rw [← Option.some.inj same]
      exact within
  | none =>
      have missed := stocked.missed room packet
      have next := (toNat_nextId room).le
      by_cases up : ((dp.newPacket packet).1.bufferPacket (some dp.heap.length)).conn = true
      · simp only [Datapath.reportMiss, if_pos up]
        exact ⟨_, _, [], rfl, ⟨next, rfl⟩, List.forall_mem_singleton.mpr ⟨rfl, rfl⟩, missed,
          Accounts.nothing rfl (List.Subperm.refl _), fun _ => rfl⟩
      · simp only [Datapath.reportMiss, if_neg up]
        exact ⟨_, _, [], rfl, ⟨next, rfl⟩, fun _ member => absurd member List.not_mem_nil,
          missed.sublist (List.sublist_cons_self _ _), Accounts.nothing rfl (List.sublist_cons_self _ _).subperm,
          fun connected => absurd connected up⟩

theorem Stocked.older {kept : Packet} {sent : List Effect}
    (stocked : Stocked n dp (announced packet sent ++ out)) (old : id ∈ out.map Prod.fst)
    (entry : (id, kept) ∈ announced packet sent ++ out) : (id, kept) ∈ out := by
  have apart := stocked.nodup
  rw [List.map_append] at apart
  rcases List.mem_append.mp entry with new | there
  · exact absurd old (List.disjoint_of_nodup_append apart (List.mem_map_of_mem new))
  · exact there

end Stocked

end Libfluid.Controller
