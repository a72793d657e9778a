import Libfluid.Switch.Ownership

/-!
# Announced buffer ids

A frame that misses is announced to the controller under a buffer id. The watched datapath carries the
announced frames that no command has released; the guard says which misses get an id that denotes them.
-/

namespace Libfluid.Switch
open Library

structure Announcement where
  id : BitVec 32
  pkt : Ptr
  packet : Packet
deriving DecidableEq, Repr

structure Watched where
  dp : Datapath
  unreleased : List Announcement

def Effect.missId : Effect → Option (BitVec 32)
  | .packetIn pi => if pi.reason = ofprNoMatch then some pi.bufferId else none
  | .inject _ _ | .delete _ => none

def announcements (dp : Datapath) : Event → List Effect → List Announcement
  | .capture packet _, sent => (sent.filterMap Effect.missId).map fun id => ⟨id, dp.heap.length, packet⟩
  | .packetOut _, _ | .flowMod _, _ | .connection _, _ | .overwrite .., _ => []

/-- An ADD whose flow does not accept the packet names its id without releasing it. -/
def Announcement.releasedBy (announced : Announcement) : Event → Bool
  | .packetOut po => po.bufferId == announced.id
  | .flowMod fm =>
      fm.command == .add && fm.bufferId == announced.id &&
        match Datapath.extract announced.packet with
        | .ok pktMatch => fm.flow.pktMatch pktMatch
        | .error _ => false
  | .capture .. | .connection _ | .overwrite .. => false

namespace Watched

def Steps (w : Watched) (event : Event) (next : Watched) : Prop :=
  ∃ sent, w.dp.step event = .ok (next.dp, sent) ∧
    next.unreleased = (w.unreleased.filter fun announced => !announced.releasedBy event) ++
      announcements w.dp event sent

def Denotes (dp : Datapath) (announced : Announcement) : Prop :=
  dp.pktBuffer.lookup announced.id = some (some announced.pkt) ∧
    dp.heap[announced.pkt]? = some (some announced.packet)

structure Kept (w : Watched) : Prop where
  named : ∀ announced ∈ w.unreleased, announced.id ≠ noBuffer
  denotes : ∀ announced ∈ w.unreleased, Denotes w.dp announced
  distinct : w.unreleased.Pairwise fun a b => a.id ≠ b.id

def create (n : Nat) : Watched := { dp := .create n, unreleased := [] }

/-- What is written into the memory of an announced frame is what it holds. -/
def KeepsFrames (w : Watched) : Event → Prop
  | .overwrite p index byte => ∀ announced ∈ w.unreleased, announced.pkt = p →
      announced.packet.data.set index byte = announced.packet.data
  | .capture .. | .packetOut _ | .flowMod _ | .connection _ => True

end Watched

namespace Datapath

/-- A frame that misses while the controller is connected finds the next id usable and free. -/
def NextIdFree (dp : Datapath) : Event → Prop
  | .capture packet _ =>
      dp.conn = true → (∀ pktMatch, extract packet = .ok pktMatch → dp.selectFlow pktMatch = none) →
        dp.bufferId + 1 ≠ noBuffer ∧ dp.pktBuffer.lookup (dp.bufferId + 1) = none
  | .packetOut _ | .flowMod _ | .connection _ | .overwrite .. => True

variable {dp dp' : Datapath} {pkt : Option Ptr} {sent : List Effect} {event : Event}

/-! ## What a step stores and deletes -/

/-- A step that works on one packet: entries of the buffer stay, the new ones hold that packet, and no
other cell of the heap changes. -/
structure WorksOn (dp dp' : Datapath) (pkt : Option Ptr) : Prop where
  kept : ∀ entry ∈ dp.pktBuffer, entry ∈ dp'.pktBuffer
  added : ∀ id p, (id, some p) ∈ dp'.pktBuffer → (id, some p) ∈ dp.pktBuffer ∨ pkt = some p
  same : ∀ p < dp.heap.length, pkt ≠ some p → dp'.heap[p]? = dp.heap[p]?
  longer : dp.heap.length ≤ dp'.heap.length
  allocated : ∀ p, pkt = some p → p < dp'.heap.length

theorem worksOn_none (buffer : dp'.pktBuffer = dp.pktBuffer) (heap : dp'.heap = dp.heap) : WorksOn dp dp' none where
  kept _ member := buffer ▸ member
  added _ _ member := Or.inl (buffer ▸ member)
  same _ _ _ := by rw [heap]
  longer := by rw [heap]
  allocated := by simp

theorem WorksOn.iterate (works : WorksOn dp dp' pkt) (n : Nat) : WorksOn dp ((bufferPacket pkt)^[n] dp') pkt where
  kept entry member := mem_iterate_bufferPacket.mpr (Or.inl (works.kept entry member))
  added id p member := by
    rcases mem_iterate_bufferPacket.mp member with old | ⟨same, -⟩
    · exact works.added id p old
    · exact Or.inr same.symm
  same p inside other := by
    rw [iterate_bufferPacket_heap]
    exact works.same p inside other
  longer := by
    rw [iterate_bufferPacket_heap]
    exact works.longer
  allocated := by
    rw [iterate_bufferPacket_heap]
    exact works.allocated

theorem WorksOn.deletePacket (works : WorksOn dp dp' pkt) {dp'' : Datapath}
    (run : dp'.deletePacket pkt = .ok (dp'', sent)) : WorksOn dp dp'' pkt := by
  rcases deletePacket_ok run with ⟨-, rfl⟩ | ⟨q, packet, rfl, cell, rfl⟩
  · exact works
  · refine ⟨works.kept, works.added, fun p inside other => ?_, ?_, fun p same => ?_⟩
    · have different : q ≠ p := fun same => other (congrArg some same)
      rw [← works.same p inside other]
      exact List.getElem?_set_ne different
    · simpa using works.longer
    · simpa using works.allocated p same

theorem worksOn_newPacket (dp : Datapath) (packet : Packet) :
    WorksOn dp (dp.newPacket packet).1 (some dp.heap.length) where
  kept _ member := member
  added _ _ member := Or.inl member
  same p inside _ := List.getElem?_append_left inside
  longer := by simp [newPacket]
  allocated p same := by
    cases same
    simp [newPacket]

theorem worksOn_bufferedPacket (dp : Datapath) (id : BitVec 32) : WorksOn dp (dp.bufferedPacket id).1 none where
  kept entry member := by
    simp only [bufferedPacket]
    split
    · exact member
    · exact OrderedMap.mem_insertNew.mpr (Or.inl member)
  added id' p member := Or.inl (mem_bufferedPacket.mp member)
  same p _ _ := by rw [bufferedPacket_heap]
  longer := by rw [bufferedPacket_heap]
  allocated := by simp

theorem WorksOn.onStored (works : WorksOn dp dp' none) (stored : ∀ p, pkt = some p → p < dp.heap.length) :
    WorksOn dp dp' pkt :=
  ⟨works.kept, fun id p member => Or.inl ((works.added id p member).resolve_right (by simp)),
    fun p inside _ => works.same p inside (by simp), works.longer,
    fun p same => (stored p same).trans_le works.longer⟩

theorem WorksOn.congrStart {start : Datapath} (works : WorksOn start dp' pkt) (buffer : start.pktBuffer = dp.pktBuffer)
    (heap : start.heap = dp.heap) : WorksOn dp dp' pkt where
  kept := buffer ▸ works.kept
  added := buffer ▸ works.added
  same := heap ▸ works.same
  longer := heap ▸ works.longer
  allocated := works.allocated

def StoredBelow (dp : Datapath) : Prop := ∀ id p, (id, some p) ∈ dp.pktBuffer → p < dp.heap.length

theorem WorksOn.storedBelow (works : WorksOn dp dp' pkt) (below : dp.StoredBelow) : dp'.StoredBelow := by
  intro id p member
  rcases works.added id p member with old | same
  · exact (below id p old).trans_le works.longer
  · exact works.allocated p same

theorem release_worksOn (below : dp.StoredBelow) (id : BitVec 32) (n : Nat)
    (released : ((bufferPacket (dp.bufferedPacket id).2)^[n] (dp.bufferedPacket id).1).deletePacket
      (dp.bufferedPacket id).2 = .ok (dp', sent)) :
    WorksOn dp dp' (dp.bufferedPacket id).2 ∧ ∀ p, (dp.bufferedPacket id).2 = some p →
      (id, some p) ∈ dp.pktBuffer ∧ ∃ packet, dp.heap[p]? = some (some packet) := by
  have stored (p : Ptr) (found : (dp.bufferedPacket id).2 = some p) : (id, some p) ∈ dp.pktBuffer :=
    bufferedPacket_snd.mp found
  have opened : WorksOn dp (dp.bufferedPacket id).1 (dp.bufferedPacket id).2 :=
    (worksOn_bufferedPacket dp id).onStored fun p found => below id p (stored p found)
  constructor
  · exact (opened.iterate n).deletePacket released
  · intro p found
    rcases deletePacket_ok released with ⟨null, -⟩ | ⟨q, packet, same, cell, -⟩
    · rw [null] at found
      cases found
    · rw [found] at same
      cases same
      rw [iterate_bufferPacket_heap, bufferedPacket_heap] at cell
      exact ⟨stored p found, packet, cell⟩

/-- The packet is the next one allocated, a stored one that the event releases, or one that it overwrites. -/
def Uses (dp : Datapath) (event : Event) (pkt : Option Ptr) : Prop :=
  ∀ p, pkt = some p → p = dp.heap.length ∨ (∃ id packet, (id, some p) ∈ dp.pktBuffer ∧
    dp.heap[p]? = some (some packet) ∧ Announcement.releasedBy ⟨id, p, packet⟩ event = true) ∨
    ∃ index byte, event = .overwrite p index byte

theorem uses_none (dp : Datapath) (event : Event) : dp.Uses event none := by
  intro p same
  cases same

theorem uses_new (dp : Datapath) (event : Event) : dp.Uses event (some dp.heap.length) :=
  fun _ same => Or.inl (Option.some.inj same).symm

theorem packetHandler_worksOn {packet : Packet} {len : BitVec 32}
    (run : dp.packetHandler packet len = .ok (dp', sent)) : WorksOn dp dp' (some dp.heap.length) := by
  obtain ⟨pktMatch, extracted⟩ := extract_total packet
  have works := (worksOn_newPacket dp packet).iterate
    ((dp.selectFlow pktMatch).elim 1 fun entry => controllerOutputs entry.actions)
  rw [← packetHandler_ok extracted run] at works
  exact works

theorem handlePacketOut_worksOn {po : PacketOut} (below : dp.StoredBelow)
    (run : dp.handlePacketOut po = .ok (dp', sent)) : ∃ pkt, WorksOn dp dp' pkt ∧ dp.Uses (.packetOut po) pkt := by
  obtain ⟨deleted, released⟩ := handlePacketOut_ok run
  rw [packetOutPacket] at released
  by_cases brought : po.bufferId = noBuffer
  · rw [if_pos brought] at released
    exact ⟨_, ((worksOn_newPacket dp _).iterate _).deletePacket released, dp.uses_new _⟩
  · rw [if_neg brought] at released
    obtain ⟨works, stored⟩ := release_worksOn below po.bufferId _ released
    refine ⟨_, works, fun p same => Or.inr (Or.inl ?_)⟩
    obtain ⟨member, packet, cell⟩ := stored p same
    exact ⟨po.bufferId, packet, member, cell, by simp [Announcement.releasedBy]⟩

theorem add_worksOn {fm : FlowMod} (below : dp.StoredBelow) (command : fm.command = .add)
    (run : releaseToFlow { dp with flowTable := addFlow dp.flowTable fm.flow } fm.flow fm.bufferId = .ok (dp', sent)) :
    ∃ pkt, WorksOn dp dp' pkt ∧ dp.Uses (.flowMod fm) pkt := by
  have table : StoredBelow { dp with flowTable := addFlow dp.flowTable fm.flow } := below
  rcases releaseToFlow_ok run with ⟨-, rfl⟩ | ⟨-, packet, pktMatch, live, extracted, outcome⟩
  · exact ⟨none, worksOn_none rfl rfl, dp.uses_none _⟩
  · rcases outcome with ⟨-, rfl⟩ | ⟨accepted, deleted, released⟩
    · exact ⟨none, (worksOn_bufferedPacket _ fm.bufferId).congrStart rfl rfl, dp.uses_none _⟩
    · obtain ⟨works, stored⟩ := release_worksOn table fm.bufferId _ released
      refine ⟨_, works.congrStart rfl rfl, fun p same => Or.inr (Or.inl ?_)⟩
      obtain ⟨member, packet', cell⟩ := stored p same
      have read : packet' = packet := by
        rw [same, deref, bufferedPacket_heap, cell] at live
        exact Except.ok.inj live
      subst read
      have releases : Announcement.releasedBy ⟨fm.bufferId, p, packet'⟩ (.flowMod fm) = true := by
        simp [Announcement.releasedBy, command, extracted, accepted]
      exact ⟨fm.bufferId, packet', member, cell, releases⟩

theorem overwrite_worksOn (dp : Datapath) (p : Ptr) (index : Nat) (byte : Byte) :
    ∃ pkt, WorksOn dp (dp.overwrite p index byte) pkt ∧ dp.Uses (.overwrite p index byte) pkt := by
  by_cases inside : p < dp.heap.length
  · refine ⟨some p, ⟨fun _ member => member, fun _ _ member => Or.inl member, ?_, ?_, ?_⟩, ?_⟩
    · exact fun q _ other => cell_overwrite_ne (fun same => other (congrArg some same)) index byte
    · exact (length_overwrite p index byte).ge
    · rintro q ⟨⟩
      exact inside.trans_le (length_overwrite p index byte).ge
    · rintro q ⟨⟩
      exact Or.inr (Or.inr ⟨index, byte, rfl⟩)
  · have heap : (dp.overwrite p index byte).heap = dp.heap := List.modify_eq_self (Nat.le_of_not_lt inside)
    exact ⟨none, worksOn_none rfl heap, dp.uses_none _⟩

theorem step_worksOn (below : dp.StoredBelow) (run : dp.step event = .ok (dp', sent)) :
    ∃ pkt, WorksOn dp dp' pkt ∧ dp.Uses event pkt := by
  cases event with
  | connection up =>
      simp only [step, Except.ok.injEq, Prod.mk.injEq] at run
      obtain ⟨rfl, -⟩ := run
      exact ⟨none, worksOn_none rfl rfl, dp.uses_none _⟩
  | overwrite p index byte =>
      simp only [step, Except.ok.injEq, Prod.mk.injEq] at run
      obtain ⟨rfl, -⟩ := run
      exact overwrite_worksOn dp p index byte
  | capture packet len => exact ⟨_, packetHandler_worksOn run, dp.uses_new _⟩
  | packetOut po => exact handlePacketOut_worksOn below run
  | flowMod fm =>
      simp only [step, handleFlowMod] at run
      cases command : fm.command with
      | delete | modify | modifyStrict | deleteStrict =>
          simp only [command, Except.ok.injEq, Prod.mk.injEq] at run
          obtain ⟨rfl, -⟩ := run
          exact ⟨none, worksOn_none rfl rfl, dp.uses_none _⟩
      | add =>
          simp only [command] at run
          exact add_worksOn below command run

/-! ## What a step announces -/

theorem flood_missIds (ports : List Nat) {sent : List Effect} (run : dp.flood pkt ports = .ok sent) :
    sent.filterMap Effect.missId = [] := by
  induction ports generalizing sent with
  | nil =>
      cases run
      rfl
  | cons portNo rest ih =>
      obtain ⟨packet, -, run⟩ := bind_eq_ok.mp run
      obtain ⟨later, flooded, run⟩ := bind_eq_ok.mp run
      have none := ih flooded
      split_ifs at run
      · cases run
        exact none
      · cases run
        simpa [Effect.missId] using none

theorem portOutputPacket_missId {number : BitVec 16} {data : Frame} {effect : Effect}
    (run : dp.portOutputPacket number data = .ok effect) : effect.missId = none := by
  simp only [portOutputPacket] at run
  split_ifs at run
  split at run
  · cases run
    rfl
  · cases run

theorem actionHandler_missIds {act : Action} (run : dp.actionHandler pkt act = .ok (dp', sent)) :
    sent.filterMap Effect.missId = [] := by
  cases act with
  | other type =>
      cases run
      rfl
  | output port maxLen =>
      simp only [actionHandler] at run
      split_ifs at run with inPort many controller up
      · obtain ⟨packet, -, run⟩ := bind_eq_ok.mp run
        obtain ⟨out, written, run⟩ := bind_eq_ok.mp run
        cases run
        simp [portOutputPacket_missId written]
      · obtain ⟨flooded, many, run⟩ := bind_eq_ok.mp run
        cases run
        exact flood_missIds _ many
      · obtain ⟨packet, -, run⟩ := bind_eq_ok.mp run
        cases run
        rfl
      · obtain ⟨packet, -, run⟩ := bind_eq_ok.mp run
        cases run
      · obtain ⟨packet, -, run⟩ := bind_eq_ok.mp run
        obtain ⟨out, written, run⟩ := bind_eq_ok.mp run
        cases run
        simp [portOutputPacket_missId written]

theorem applyActions_missIds {acts : List Action} (run : applyActions pkt acts dp = .ok (dp', sent)) :
    sent.filterMap Effect.missId = [] := by
  induction acts generalizing dp sent with
  | nil =>
      cases run
      rfl
  | cons act rest ih =>
      obtain ⟨⟨dp₁, sent₁⟩, first, run⟩ := bind_eq_ok.mp run
      obtain ⟨⟨dp₂, sent₂⟩, later, run⟩ := bind_eq_ok.mp run
      cases run
      rw [List.filterMap_append, actionHandler_missIds first, ih later, List.append_nil]

theorem step_announcements (run : dp.step event = .ok (dp', sent)) :
    (announcements dp event sent = [] ∧ dp.NextIdFree event) ∨
    ∃ packet len, event = .capture packet len ∧
      announcements dp event sent = [⟨dp.bufferId + 1, dp.heap.length, packet⟩] ∧
      dp' = (dp.newPacket packet).1.bufferPacket (some dp.heap.length) ∧
      (dp.NextIdFree event ↔
        dp.bufferId + 1 ≠ noBuffer ∧ dp.pktBuffer.lookup (dp.bufferId + 1) = none) := by
  cases event with
  | packetOut po => exact Or.inl ⟨rfl, trivial⟩
  | flowMod fm => exact Or.inl ⟨rfl, trivial⟩
  | connection up => exact Or.inl ⟨rfl, trivial⟩
  | overwrite p index byte => exact Or.inl ⟨rfl, trivial⟩
  | capture packet len =>
      obtain ⟨pktMatch, extracted⟩ := extract_total packet
      rw [step, packetHandler_eq extracted] at run
      cases selected : dp.selectFlow pktMatch with
      | some entry =>
          rw [selected] at run
          refine Or.inl ⟨?_, fun _ misses => ?_⟩
          · rw [announcements, applyActions_missIds run]
            rfl
          · rw [misses pktMatch extracted] at selected
            cases selected
      | none =>
          rw [selected] at run
          simp only [reportMiss, Except.ok.injEq] at run
          have connected : (bufferPacket (some dp.heap.length) (dp.newPacket packet).1).conn = dp.conn := rfl
          rw [connected] at run
          by_cases up : dp.conn = true
          · rw [if_pos up] at run
            cases run
            refine Or.inr ⟨packet, len, rfl, rfl, rfl, ?_⟩
            have missing : ∀ other, extract packet = .ok other → dp.selectFlow other = none := by
              intro other extracted'
              cases extracted.symm.trans extracted'
              exact selected
            exact ⟨fun free => free up missing, fun free _ _ => free⟩
          · rw [if_neg up] at run
            cases run
            exact Or.inl ⟨rfl, fun connected => absurd connected up⟩

end Datapath

/-! ## Runs of the watched datapath -/

namespace Watched

open Datapath

variable {w next : Watched} {event : Event}

structure Sound (w : Watched) : Prop where
  below : w.dp.StoredBelow
  sole : ∀ announced ∈ w.unreleased, ∀ id, (id, some announced.pkt) ∈ w.dp.pktBuffer → id = announced.id

theorem untouched {pkt : Option Ptr} (sound : w.Sound) (kept : w.Kept) (uses : w.dp.Uses event pkt)
    (readOnly : ∀ p index byte, event ≠ .overwrite p index byte)
    {announced : Announcement} (member : announced ∈ w.unreleased)
    (unreleased : announced.releasedBy event = false) : pkt ≠ some announced.pkt := by
  intro same
  obtain ⟨-, cell⟩ := kept.denotes announced member
  rcases uses announced.pkt same with fresh | ⟨id, packet, stored, cell', released⟩ | ⟨index, byte, writes⟩
  · rw [fresh, List.getElem?_eq_none le_rfl] at cell
    cases cell
  · obtain rfl := sound.sole announced member id stored
    rw [cell] at cell'
    cases cell'
    rw [unreleased] at released
    cases released
  · exact readOnly _ index byte writes

theorem keepsFrames_of_readOnly (readOnly : ∀ p index byte, event ≠ .overwrite p index byte) : w.KeepsFrames event := by
  cases event with
  | overwrite p index byte => exact absurd rfl (readOnly p index byte)
  | capture packet len | packetOut po | flowMod fm | connection up => trivial

theorem denotes_of_worksOn {dp dp' : Datapath} {pkt : Option Ptr} (works : WorksOn dp dp' pkt)
    {announced : Announcement} (denotes : Denotes dp announced) (other : pkt ≠ some announced.pkt) :
    Denotes dp' announced := by
  obtain ⟨stored, cell⟩ := denotes
  constructor
  · exact lookup_pktBuffer.mpr (works.kept _ (lookup_pktBuffer.mp stored))
  · have inside : announced.pkt < dp.heap.length := by
      by_contra outside
      rw [List.getElem?_eq_none (not_lt.mp outside)] at cell
      cases cell
    rw [works.same announced.pkt inside other, cell]

theorem denotes_new_iff {dp : Datapath} (below : dp.StoredBelow) (packet : Packet) :
    Denotes ((dp.newPacket packet).1.bufferPacket (some dp.heap.length))
        ⟨dp.bufferId + 1, dp.heap.length, packet⟩ ↔ dp.pktBuffer.lookup (dp.bufferId + 1) = none := by
  have cell : (dp.newPacket packet).1.heap[dp.heap.length]? = some (some packet) := by simp [newPacket]
  rw [Denotes, lookup_pktBuffer, bufferPacket, OrderedMap.mem_insertNew]
  constructor
  · rintro ⟨old | ⟨-, free⟩, -⟩
    · exact absurd (below _ _ old) (lt_irrefl _)
    · exact free
  · intro free
    exact ⟨Or.inr ⟨rfl, free⟩, cell⟩

theorem quiet_announcements
    (unreleased : next.unreleased = w.unreleased.filter fun announced => !announced.releasedBy event)
    {announced : Announcement} (member : announced ∈ next.unreleased) :
    announced ∈ w.unreleased ∧ announced.releasedBy event = false := by
  rw [unreleased] at member
  simpa using member

theorem kept_of_quiet {pkt : Option Ptr} (kept : w.Kept) (works : WorksOn w.dp next.dp pkt)
    (untouched : ∀ announced ∈ w.unreleased, announced.releasedBy event = false → pkt ≠ some announced.pkt)
    (unreleased : next.unreleased = w.unreleased.filter fun announced => !announced.releasedBy event) :
    next.Kept := by
  constructor
  · intro announced member
    exact kept.named announced (quiet_announcements unreleased member).1
  · intro announced member
    obtain ⟨old, stays⟩ := quiet_announcements unreleased member
    exact denotes_of_worksOn works (kept.denotes announced old) (untouched announced old stays)
  · rw [unreleased]
    exact kept.distinct.filter _

theorem kept_announced_iff (sound : w.Sound) (kept : w.Kept) {packet : Packet}
    (after : next.dp = (w.dp.newPacket packet).1.bufferPacket (some w.dp.heap.length))
    (works : WorksOn w.dp next.dp (some w.dp.heap.length))
    (announced : next.unreleased = w.unreleased ++ [⟨w.dp.bufferId + 1, w.dp.heap.length, packet⟩]) :
    next.Kept ↔ w.dp.bufferId + 1 ≠ noBuffer ∧ w.dp.pktBuffer.lookup (w.dp.bufferId + 1) = none := by
  have last : (⟨w.dp.bufferId + 1, w.dp.heap.length, packet⟩ : Announcement) ∈ next.unreleased := by
    rw [announced]
    simp
  constructor
  · intro keeps
    refine ⟨keeps.named _ last, ?_⟩
    rw [← denotes_new_iff sound.below packet, ← after]
    exact keeps.denotes _ last
  · rintro ⟨usable, free⟩
    have older {other : Announcement} (member : other ∈ w.unreleased) : Denotes next.dp other := by
      refine denotes_of_worksOn works (kept.denotes other member) fun same => ?_
      obtain ⟨-, cell⟩ := kept.denotes other member
      rw [← Option.some.inj same, List.getElem?_eq_none le_rfl] at cell
      cases cell
    have cases_of {other : Announcement} (member : other ∈ next.unreleased) :
        other ∈ w.unreleased ∨ other = ⟨w.dp.bufferId + 1, w.dp.heap.length, packet⟩ := by
      rw [announced] at member
      simpa using member
    constructor
    · intro other member
      rcases cases_of member with old | rfl
      · exact kept.named other old
      · exact usable
    · intro other member
      rcases cases_of member with old | rfl
      · exact older old
      · rw [after]
        exact (denotes_new_iff sound.below packet).mpr free
    · rw [announced, List.pairwise_append]
      refine ⟨kept.distinct, List.pairwise_singleton _ _, fun other member new isNew same => ?_⟩
      rw [List.mem_singleton] at isNew
      subst isNew
      obtain ⟨stored, -⟩ := kept.denotes other member
      rw [same, free] at stored
      cases stored

theorem Steps.overwrite {p : Ptr} {index : Nat} {byte : Byte} (advance : w.Steps (.overwrite p index byte) next) :
    next.dp = w.dp.overwrite p index byte ∧ next.unreleased = w.unreleased := by
  obtain ⟨sent, run, unreleased⟩ := advance
  simp only [step, Except.ok.injEq, Prod.mk.injEq] at run
  constructor
  · exact run.1.symm
  · simpa [announcements, Announcement.releasedBy] using unreleased

theorem denotes_overwrite_iff {dp : Datapath} {announced : Announcement} (denotes : Denotes dp announced) (p : Ptr)
    (index : Nat) (byte : Byte) : Denotes (dp.overwrite p index byte) announced ↔
      (announced.pkt = p → announced.packet.data.set index byte = announced.packet.data) := by
  obtain ⟨stored, cell⟩ := denotes
  rw [Denotes, and_iff_right (show (dp.overwrite p index byte).pktBuffer.lookup announced.id = _ from stored)]
  by_cases same : p = announced.pkt
  · subst same
    have written : (dp.overwrite announced.pkt index byte).heap[announced.pkt]? =
        some (some { announced.packet with data := announced.packet.data.set index byte }) := by
      rw [Datapath.overwrite, List.getElem?_modify_eq, cell]
      rfl
    rw [written, Option.some.injEq, Option.some.injEq]
    constructor
    · exact fun whole _ => congrArg Packet.data whole
    · exact fun kept => by rw [kept rfl]
  · rw [cell_overwrite_ne same]
    exact iff_of_true cell fun here => absurd here.symm same

theorem kept_overwrite_iff (kept : w.Kept) {p : Ptr} {index : Nat} {byte : Byte}
    (advance : w.Steps (.overwrite p index byte) next) : next.Kept ↔ w.KeepsFrames (.overwrite p index byte) := by
  obtain ⟨after, unreleased⟩ := advance.overwrite
  constructor
  · intro keeps announced member
    apply (denotes_overwrite_iff (kept.denotes announced member) p index byte).mp
    rw [← after]
    exact keeps.denotes announced (unreleased ▸ member)
  · intro same
    constructor
    · exact fun announced member => kept.named announced (unreleased ▸ member)
    · intro announced member
      rw [unreleased] at member
      rw [after]
      exact (denotes_overwrite_iff (kept.denotes announced member) p index byte).mpr (same announced member)
    · exact unreleased ▸ kept.distinct

theorem worksOn_miss (dp : Datapath) (packet : Packet) :
    WorksOn dp ((dp.newPacket packet).1.bufferPacket (some dp.heap.length)) (some dp.heap.length) :=
  (worksOn_newPacket dp packet).iterate 1

theorem step_sound (sound : w.Sound) (kept : w.Kept) (advance : w.Steps event next) : next.Sound := by
  by_cases writes : ∃ p index byte, event = .overwrite p index byte
  · obtain ⟨p, index, byte, rfl⟩ := writes
    obtain ⟨after, unreleased⟩ := advance.overwrite
    constructor
    · intro id q member
      rw [after] at member ⊢
      exact (sound.below id q member).trans_eq (length_overwrite p index byte).symm
    · intro announced member id stored
      rw [after] at stored
      exact sound.sole announced (unreleased ▸ member) id stored
  have readOnly : ∀ p index byte, event ≠ .overwrite p index byte := fun p index byte same =>
    writes ⟨p, index, byte, same⟩
  obtain ⟨sent, run, unreleased⟩ := advance
  obtain ⟨pkt, works, uses⟩ := step_worksOn sound.below run
  refine ⟨works.storedBelow sound.below, fun announced member id stored => ?_⟩
  rcases step_announcements run with ⟨none, -⟩ | ⟨packet, len, rfl, one, after, -⟩
  · rw [none, List.append_nil] at unreleased
    obtain ⟨old, stays⟩ := quiet_announcements unreleased member
    rcases works.added id announced.pkt stored with before | same
    · exact sound.sole announced old id before
    · exact absurd same (untouched sound kept uses readOnly old stays)
  · rw [one] at unreleased
    have both : announced ∈ w.unreleased ∨ announced = ⟨w.dp.bufferId + 1, w.dp.heap.length, packet⟩ := by
      rw [unreleased] at member
      simpa [Announcement.releasedBy] using member
    rw [after] at stored
    rcases OrderedMap.mem_insertNew.mp stored with before | ⟨new, -⟩
    · rcases both with old | rfl
      · exact sound.sole announced old id before
      · exact absurd (sound.below id _ before) (lt_irrefl _)
    · rcases both with old | rfl
      · have fresh : announced.pkt = w.dp.heap.length := Option.some.inj (congrArg Prod.snd new)
        obtain ⟨-, cell⟩ := kept.denotes announced old
        rw [fresh, List.getElem?_eq_none le_rfl] at cell
        cases cell
      · exact congrArg Prod.fst new

theorem step_kept_iff (sound : w.Sound) (kept : w.Kept) (advance : w.Steps event next) :
    next.Kept ↔ w.dp.NextIdFree event ∧ w.KeepsFrames event := by
  by_cases writes : ∃ p index byte, event = .overwrite p index byte
  · obtain ⟨p, index, byte, rfl⟩ := writes
    rw [kept_overwrite_iff kept advance]
    exact (and_iff_right trivial).symm
  have readOnly : ∀ p index byte, event ≠ .overwrite p index byte := fun p index byte same =>
    writes ⟨p, index, byte, same⟩
  rw [and_iff_left (keepsFrames_of_readOnly readOnly)]
  obtain ⟨sent, run, unreleased⟩ := advance
  rcases step_announcements run with ⟨none, free⟩ | ⟨packet, len, rfl, one, after, guard⟩
  · rw [none, List.append_nil] at unreleased
    obtain ⟨pkt, works, uses⟩ := step_worksOn sound.below run
    refine iff_of_true (kept_of_quiet kept works ?_ unreleased) free
    exact fun announced member stays => untouched sound kept uses readOnly member stays
  · rw [guard]
    refine kept_announced_iff sound kept after (after ▸ worksOn_miss w.dp packet) ?_
    rw [unreleased, one]
    simp [Announcement.releasedBy]

/-- In a run from an empty buffer every announced id denotes its frame until it is released, exactly where
every miss finds the next id free and no other bytes are written into an announced frame. -/
theorem run_kept_iff (n : Nat) (events : List Event) :
    (∀ w, Visits Steps (create n) events w → w.Kept) ↔
      ∀ w event next, Takes Steps (create n) events w event next → w.dp.NextIdFree event ∧ w.KeepsFrames event := by
  apply visits_iff_guarded_of_invariant (P := Sound)
  · exact fun w event next sound kept takes => step_kept_iff sound kept takes.steps
  · exact fun w event next sound kept takes _ => step_sound sound kept takes.steps
  · constructor
    · exact fun id p member => absurd member List.not_mem_nil
    · exact fun announced member => absurd member List.not_mem_nil
  · constructor
    · exact fun announced member => absurd member List.not_mem_nil
    · exact fun announced member => absurd member List.not_mem_nil
    · exact List.Pairwise.nil

theorem unannounced_id_taken :
    ∃ w, Run Steps (create 2) [.connection true, dropFirst, missed] w ∧ ¬ w.Kept := by
  have up : Run Steps (create 2) [.connection true] ⟨{ Datapath.create 2 with conn := true }, []⟩ :=
    Run.start.step ⟨_, rfl, rfl⟩
  have dropped : Run Steps (create 2) [.connection true, dropFirst] ⟨{ Datapath.create 2 with
      pktBuffer := OrderedMap.empty.insertNew 1 none
      conn := true }, []⟩ := up.step ⟨_, rfl, rfl⟩
  have run : Run Steps (create 2) [.connection true, dropFirst, missed] ⟨{ Datapath.create 2 with
      pktBuffer := OrderedMap.empty.insertNew 1 none
      conn := true
      bufferId := 1
      heap := [some ⟨1, []⟩] }, [⟨1, 0, ⟨1, []⟩⟩]⟩ := dropped.step ⟨_, rfl, rfl⟩
  refine ⟨_, run, fun kept => ?_⟩
  obtain ⟨stored, -⟩ := kept.denotes ⟨1, 0, ⟨1, []⟩⟩ (by simp)
  cases stored

end Watched

end Libfluid.Switch
