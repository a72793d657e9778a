import Libfluid.Switch.FlowTable
import Mathlib.Data.List.ReduceOption

/-!
# Ownership of buffered packets

The buffer keeps a pointer to a packet after a command has deleted the packet. A state is safe when
every stored packet is live and stored once; the guard says which steps keep it so.
-/

namespace Libfluid.Switch
open Library

namespace Datapath

def Live (dp : Datapath) (p : Ptr) : Prop := ∃ packet, dp.heap[p]? = some (some packet)

def StoredLive (dp : Datapath) : Prop := ∀ id p, (id, some p) ∈ dp.pktBuffer → dp.Live p

def StoredOnce (dp : Datapath) : Prop :=
  ∀ id id' p, (id, some p) ∈ dp.pktBuffer → (id', some p) ∈ dp.pktBuffer → id = id'

/-- No stored packet has been deleted, so that no command uses or releases one a second time, and the
destructor deletes no packet twice. -/
structure Safe (dp : Datapath) : Prop where
  stored : dp.StoredLive
  commands : ∀ event p, dp.step event ≠ .error (.deadPacket p)
  destroyed : ∃ result, dp.destroy = .ok result

def Usable (dp : Datapath) (pkt : Option Ptr) : Prop := ∀ p, pkt = some p → dp.Live p

variable {dp dp' : Datapath} {pkt : Option Ptr} {p : Ptr} {fault : Fault}

/-! ## The packets of the heap -/

theorem live_congr (same : dp'.heap = dp.heap) : dp'.Live p ↔ dp.Live p := by
  rw [Live, Live, same]

theorem live_newPacket {packet : Packet} : (dp.newPacket packet).1.Live p ↔ dp.Live p ∨ p = dp.heap.length := by
  simp only [Live, newPacket]
  rcases lt_trichotomy p dp.heap.length with inside | rfl | outside
  · rw [List.getElem?_append_left inside]
    simp [inside.ne]
  · simp
  · have first : dp.heap.length < p := outside
    rw [List.getElem?_eq_none (by simpa using Nat.succ_le_of_lt first), List.getElem?_eq_none first.le]
    simp [first.ne']

theorem live_set_none {q : Ptr} :
    Live { dp with heap := dp.heap.set q none } p ↔ p ≠ q ∧ dp.Live p := by
  simp only [Live]
  by_cases same : q = p
  · subst same
    simp [List.getElem?_set]
  · simp [List.getElem?_set_ne same, Ne.symm same]

@[simp] theorem length_overwrite (q : Ptr) (index : Nat) (byte : Byte) :
    (dp.overwrite q index byte).heap.length = dp.heap.length := List.length_modify ..

theorem cell_overwrite_ne {q : Ptr} (other : q ≠ p) (index : Nat) (byte : Byte) :
    (dp.overwrite q index byte).heap[p]? = dp.heap[p]? :=
  List.getElem?_modify_ne _ _ other

@[simp] theorem live_overwrite {q : Ptr} {index : Nat} {byte : Byte} :
    (dp.overwrite q index byte).Live p ↔ dp.Live p := by
  by_cases same : q = p
  · subst same
    simp [Live, overwrite]
  · rw [Live, Live, cell_overwrite_ne same]

theorem not_live_length : ¬ dp.Live dp.heap.length := by
  simp [Live]

/-! ## No fault from a usable pointer -/

def Fault.Dead : Fault → Prop
  | .deadPacket _ => True
  | .nullPacket | .portIndex _ | .noConnection | .frameRead _ => False

theorem deref_avoids (usable : dp.Usable pkt) : Avoids Fault.Dead (dp.deref pkt) := by
  cases pkt with
  | none => exact avoids_error id
  | some q =>
      obtain ⟨packet, cell⟩ := usable q rfl
      rw [deref, cell]
      exact avoids_ok packet

theorem portOutputPacket_avoids (number : BitVec 16) (data : Frame) :
    Avoids Fault.Dead (dp.portOutputPacket number data) := by
  simp only [portOutputPacket]
  split_ifs
  · exact avoids_error id
  · split
    · exact avoids_ok _
    · exact avoids_error id

theorem flood_avoids (usable : dp.Usable pkt) (ports : List Nat) :
    Avoids Fault.Dead (dp.flood pkt ports) := by
  induction ports with
  | nil => exact avoids_ok _
  | cons portNo rest ih =>
      refine avoids_bind (deref_avoids usable) fun packet _ => avoids_bind ih fun sent _ => ?_
      split_ifs <;> exact avoids_ok _

theorem actionHandler_avoids (usable : dp.Usable pkt) (act : Action) :
    Avoids Fault.Dead (dp.actionHandler pkt act) := by
  have buffered : (dp.bufferPacket pkt).Usable pkt := usable
  cases act with
  | other type => exact avoids_ok _
  | output port maxLen =>
      simp only [actionHandler]
      split_ifs with inPort many controller up
      · exact avoids_bind (deref_avoids usable) fun packet _ =>
          avoids_bind (portOutputPacket_avoids _ _) fun sent _ => avoids_ok _
      · exact avoids_bind (flood_avoids usable _) fun sent _ => avoids_ok _
      · exact avoids_bind (deref_avoids buffered) fun packet _ => avoids_ok _
      · exact avoids_bind (deref_avoids buffered) fun packet _ => avoids_error id
      · exact avoids_bind (deref_avoids usable) fun packet _ =>
          avoids_bind (portOutputPacket_avoids _ _) fun sent _ => avoids_ok _

theorem applyActions_avoids (usable : dp.Usable pkt) (acts : List Action) :
    Avoids Fault.Dead (applyActions pkt acts dp) := by
  induction acts generalizing dp with
  | nil => exact avoids_ok _
  | cons act rest ih =>
      refine avoids_bind (actionHandler_avoids usable act) fun ⟨dp₁, sent⟩ run => ?_
      have heap : dp₁.heap = dp.heap := by
        rw [actionHandler_ok run]
        split_ifs <;> rfl
      exact avoids_bind (ih fun p same => (live_congr heap).mpr (usable p same)) fun _ _ => avoids_ok _

theorem deletePacket_total_iff : (∃ result, dp.deletePacket pkt = .ok result) ↔ dp.Usable pkt := by
  cases pkt with
  | none => simp [deletePacket, Usable]
  | some q =>
      simp only [deletePacket, Usable, Option.some.injEq, forall_eq', Live]
      split
      · rename_i packet cell
        simp [cell]
      · rename_i dead
        simpa using fun packet cell => dead packet cell

theorem release_avoids (usable : dp.Usable pkt) (acts : List Action) :
    Avoids Fault.Dead (do
      let (dp, sent) ← applyActions pkt acts dp
      let (dp, deleted) ← dp.deletePacket pkt
      return (dp, sent ++ deleted)) := by
  refine avoids_bind (applyActions_avoids usable acts) fun ⟨dp₁, sent⟩ run => ?_
  have heap : dp₁.heap = dp.heap := by
    rw [applyActions_ok run, iterate_bufferPacket_heap]
  have deleted := deletePacket_total_iff.mpr fun p same => (live_congr heap).mpr (usable p same)
  exact avoids_bind (avoids_of_total deleted) fun _ _ => avoids_ok _

theorem bufferedPacket_usable (stored : dp.StoredLive) (id : BitVec 32) :
    (dp.bufferedPacket id).1.Usable (dp.bufferedPacket id).2 := by
  intro p same
  rw [live_congr (bufferedPacket_heap dp id)]
  simp only [bufferedPacket] at same
  split at same
  · rename_i pkt found
    obtain ⟨id', -, member⟩ := OrderedMap.lookup_eq_some.mp found
    exact stored id' p (same ▸ member)
  · cases same

theorem packetOutPacket_usable (stored : dp.StoredLive) (po : PacketOut) :
    (dp.packetOutPacket po).1.Usable (dp.packetOutPacket po).2 := by
  rw [packetOutPacket]
  split_ifs
  · rintro p ⟨⟩
    exact live_newPacket.mpr (Or.inr rfl)
  · exact bufferedPacket_usable stored _

theorem step_avoids (stored : dp.StoredLive) (event : Event) : Avoids Fault.Dead (dp.step event) := by
  cases event with
  | capture packet len =>
      obtain ⟨pktMatch, extracted⟩ := extract_total packet
      rw [step, packetHandler_eq extracted]
      split
      · refine applyActions_avoids ?_ _
        rintro p ⟨⟩
        exact live_newPacket.mpr (Or.inr rfl)
      · exact avoids_ok _
  | packetOut po => exact release_avoids (packetOutPacket_usable stored po) po.actions
  | connection up | overwrite q index byte => exact avoids_ok _
  | flowMod fm =>
      simp only [step, handleFlowMod]
      cases fm.command with
      | delete | modify | modifyStrict | deleteStrict => exact avoids_ok _
      | add =>
          simp only [releaseToFlow]
          split_ifs
          · exact avoids_ok _
          have tableStored : StoredLive { dp with flowTable := addFlow dp.flowTable fm.flow } := stored
          have usable := bufferedPacket_usable tableStored fm.bufferId
          refine avoids_bind (deref_avoids usable) fun packet _ =>
            avoids_bind (avoids_of_total (extract_total packet)) fun pktMatch _ => ?_
          split_ifs
          · exact release_avoids usable _
          · exact avoids_ok _

/-! ## The destructor -/

theorem destroy_go_cons_total_iff (rest : List (Option Ptr)) :
    (∃ result, destroy.go dp (pkt :: rest) = .ok result) ↔
      ∃ dp₁ deleted, dp.deletePacket pkt = .ok (dp₁, deleted) ∧ ∃ result, destroy.go dp₁ rest = .ok result := by
  simp only [destroy.go, bind_eq_ok, pure_eq_ok]
  constructor
  · rintro ⟨result, ⟨dp₁, deleted⟩, first, later, run, -⟩
    exact ⟨dp₁, deleted, first, later, run⟩
  · rintro ⟨dp₁, deleted, first, later, run⟩
    exact ⟨_, (dp₁, deleted), first, later, run, rfl⟩

theorem destroy_go_total_iff (dp : Datapath) (pkts : List (Option Ptr)) :
    (∃ result, destroy.go dp pkts = .ok result) ↔
      (∀ p ∈ pkts.reduceOption, dp.Live p) ∧ pkts.reduceOption.Nodup := by
  induction pkts generalizing dp with
  | nil => simp [destroy.go]
  | cons pkt rest ih =>
      rw [destroy_go_cons_total_iff]
      cases pkt with
      | none =>
          simp only [deletePacket, Except.ok.injEq, Prod.mk.injEq, List.reduceOption_cons_of_none, ih]
          constructor
          · rintro ⟨dp₁, deleted, ⟨rfl, -⟩, total⟩
            exact total
          · exact fun total => ⟨dp, [], ⟨rfl, rfl⟩, total⟩
      | some p =>
          rw [List.reduceOption_cons_of_some, List.nodup_cons, List.forall_mem_cons]
          constructor
          · rintro ⟨dp₁, deleted, first, total⟩
            rcases deletePacket_ok first with ⟨absurd, -⟩ | ⟨q, packet, same, cell, rfl⟩
            · cases absurd
            · cases same
              obtain ⟨live, distinct⟩ := (ih _).mp total
              exact ⟨⟨⟨packet, cell⟩, fun q member => (live_set_none.mp (live q member)).2⟩,
                fun member => (live_set_none.mp (live p member)).1 rfl, distinct⟩
          · rintro ⟨⟨⟨packet, cell⟩, live⟩, absent, distinct⟩
            refine ⟨{ dp with heap := dp.heap.set p none }, [.delete p], by simp [deletePacket, cell], ?_⟩
            refine (ih _).mpr ⟨fun q member => live_set_none.mpr ⟨?_, live q member⟩, distinct⟩
            rintro rfl
            exact absent member

theorem mem_stored : p ∈ (dp.pktBuffer.toList.map Prod.snd).reduceOption ↔ ∃ id, (id, some p) ∈ dp.pktBuffer := by
  simp [List.reduceOption_mem_iff, OrderedMap.mem_def]

theorem stored_nodup_iff : (dp.pktBuffer.toList.map Prod.snd).reduceOption.Nodup ↔ dp.StoredOnce := by
  rw [List.reduceOption, List.filterMap_map, Function.id_comp, List.Nodup, List.pairwise_filterMap]
  constructor
  · intro distinct id id' p member member'
    have : Std.Symm fun a b : BitVec 32 × Option Ptr => ∀ q, a.2 = some q → ∀ q', b.2 = some q' → q ≠ q' :=
      ⟨fun a b different q stored q' stored' => (different q' stored' q stored).symm⟩
    by_contra different
    exact distinct.forall member member' (by simpa using different) p rfl p rfl rfl
  · intro once
    refine dp.pktBuffer.sorted.imp_of_mem ?_
    rintro ⟨id, pkt⟩ ⟨id', pkt'⟩ member member' before q rfl q' rfl rfl
    exact absurd (once id id' q member member' ▸ before) (lt_irrefl _)

theorem safe_iff : dp.Safe ↔ dp.StoredLive ∧ dp.StoredOnce := by
  have destructor := destroy_go_total_iff dp (dp.pktBuffer.toList.map Prod.snd)
  rw [stored_nodup_iff] at destructor
  constructor
  · rintro ⟨stored, -, destroyed⟩
    exact ⟨stored, (destructor.mp destroyed).2⟩
  · rintro ⟨stored, once⟩
    refine ⟨stored, fun event p => step_avoids stored event _ trivial, destructor.mpr ⟨?_, once⟩⟩
    intro p member
    obtain ⟨id, inside⟩ := mem_stored.mp member
    exact stored id p inside

/-! ## What is stored -/

theorem lookup_pktBuffer {id : BitVec 32} : dp.pktBuffer.lookup id = some pkt ↔ (id, pkt) ∈ dp.pktBuffer :=
  OrderedMap.lookup_eq_some_iff_mem toNat_injective

theorem lookup_pktBuffer_none {id : BitVec 32} :
    dp.pktBuffer.lookup id = none ↔ ∀ pkt, (id, pkt) ∉ dp.pktBuffer :=
  OrderedMap.lookup_eq_none_iff_not_mem toNat_injective

def Assigns (dp : Datapath) (outputs : Nat) (id : BitVec 32) : Prop :=
  dp.pktBuffer.lookup id = none ∧ ∃ i < outputs, id = dp.bufferId + BitVec.ofNat 32 (i + 1)

theorem iterate_bufferPacket_bufferId (n : Nat) :
    ((bufferPacket pkt)^[n] dp).bufferId = dp.bufferId + BitVec.ofNat 32 n := by
  induction n with
  | zero => simp
  | succ n ih =>
      rw [Function.iterate_succ_apply', bufferPacket, ih, BitVec.ofNat_add, ← BitVec.add_assoc]
      rfl

theorem mem_iterate_bufferPacket {n : Nat} {id : BitVec 32} {stored : Option Ptr} :
    (id, stored) ∈ ((bufferPacket pkt)^[n] dp).pktBuffer ↔
      (id, stored) ∈ dp.pktBuffer ∨ stored = pkt ∧ dp.Assigns n id := by
  induction n generalizing id stored with
  | zero => simp [Assigns]
  | succ n ih =>
      have next : ((bufferPacket pkt)^[n] dp).bufferId + 1 = dp.bufferId + BitVec.ofNat 32 (n + 1) := by
        rw [iterate_bufferPacket_bufferId, BitVec.ofNat_add, ← BitVec.add_assoc]
        rfl
      rw [Function.iterate_succ_apply', bufferPacket, OrderedMap.mem_insertNew, next, lookup_pktBuffer_none, ih]
      simp only [ih, Prod.mk.injEq]
      constructor
      · rintro ((old | ⟨same, free, j, small, place⟩) | ⟨⟨rfl, same⟩, free⟩)
        · exact Or.inl old
        · exact Or.inr ⟨same, free, j, by omega, place⟩
        · refine Or.inr ⟨same, lookup_pktBuffer_none.mpr fun other member => free other (Or.inl member), n, ?_, rfl⟩
          exact Nat.lt_succ_self n
      · rintro (old | ⟨same, free, j, small, place⟩)
        · exact Or.inl (Or.inl old)
        by_cases earlier : dp.Assigns n id
        · exact Or.inl (Or.inr ⟨same, earlier⟩)
        -- Only the last of the ids is left, and it is still free.
        have last : j = n := by
          by_contra different
          exact earlier ⟨free, j, by omega, place⟩
        subst last place
        refine Or.inr ⟨⟨rfl, same⟩, ?_⟩
        rintro other (member | ⟨-, assigned⟩)
        · exact lookup_pktBuffer_none.mp free other member
        · exact earlier assigned

theorem mem_bufferedPacket {id id' : BitVec 32} {p : Ptr} :
    (id', some p) ∈ (dp.bufferedPacket id).1.pktBuffer ↔ (id', some p) ∈ dp.pktBuffer := by
  simp only [bufferedPacket]
  split
  · exact Iff.rfl
  · simp [OrderedMap.mem_insertNew]

theorem bufferedPacket_snd {id : BitVec 32} {p : Ptr} :
    (dp.bufferedPacket id).2 = some p ↔ (id, some p) ∈ dp.pktBuffer := by
  rw [← lookup_pktBuffer, bufferedPacket]
  split <;> simp_all

/-! ## One step -/

def storings (dp : Datapath) (pktMatch : Match) : Nat :=
  (dp.selectFlow pktMatch).elim 1 fun entry => controllerOutputs entry.actions

/-- A captured frame gets at most one id, a packet that a PACKET_OUT brings gets none, and no command
names a stored packet that it releases. -/
def Harmless (dp : Datapath) : Event → Prop
  | .capture packet _ =>
      ∀ pktMatch id id', extract packet = .ok pktMatch → dp.Assigns (dp.storings pktMatch) id →
        dp.Assigns (dp.storings pktMatch) id' → id = id'
  | .packetOut po =>
      (po.bufferId = noBuffer → ∀ id, ¬ dp.Assigns (controllerOutputs po.actions) id) ∧
        (po.bufferId ≠ noBuffer → ∀ p, dp.pktBuffer.lookup po.bufferId ≠ some (some p))
  | .flowMod fm =>
      fm.command = .add → fm.bufferId ≠ noBuffer → ∀ p packet pktMatch,
        dp.pktBuffer.lookup fm.bufferId = some (some p) → dp.heap[p]? = some (some packet) →
        extract packet = .ok pktMatch → fm.flow.pktMatch pktMatch = false
  | .connection _ | .overwrite .. => True

theorem safe_congr_live (stored : ∀ id p, (id, some p) ∈ dp'.pktBuffer ↔ (id, some p) ∈ dp.pktBuffer)
    (live : ∀ p, dp'.Live p ↔ dp.Live p) : dp'.Safe ↔ dp.Safe := by
  simp only [safe_iff, StoredLive, StoredOnce, stored, live]

theorem safe_congr (stored : ∀ id p, (id, some p) ∈ dp'.pktBuffer ↔ (id, some p) ∈ dp.pktBuffer)
    (heap : dp'.heap = dp.heap) : dp'.Safe ↔ dp.Safe :=
  safe_congr_live stored fun _ => live_congr heap

theorem not_safe_of_deleted {id : BitVec 32} (member : (id, some p) ∈ dp.pktBuffer) :
    ¬ Safe { dp with heap := dp.heap.set p none } := fun safe =>
  (live_set_none.mp (safe.stored id p member)).1 rfl

theorem safe_capture_iff (safe : dp.Safe) (packet : Packet) (n : Nat) :
    Safe ((bufferPacket (some dp.heap.length))^[n] (dp.newPacket packet).1) ↔
      ∀ id id', dp.Assigns n id → dp.Assigns n id' → id = id' := by
  obtain ⟨stored, once⟩ := safe_iff.mp safe
  have fresh (id : BitVec 32) : (id, some dp.heap.length) ∉ dp.pktBuffer := fun member =>
    not_live_length (stored id _ member)
  have assigns (id : BitVec 32) : (dp.newPacket packet).1.Assigns n id ↔ dp.Assigns n id := Iff.rfl
  have same : (dp.newPacket packet).1.pktBuffer = dp.pktBuffer := rfl
  rw [safe_iff]
  simp only [StoredLive, StoredOnce, mem_iterate_bufferPacket, assigns, same,
    live_congr (iterate_bufferPacket_heap _ _ _), live_newPacket, Option.some.injEq]
  constructor
  · rintro ⟨-, distinct⟩ id id' assigned assigned'
    exact distinct id id' _ (Or.inr ⟨rfl, assigned⟩) (Or.inr ⟨rfl, assigned'⟩)
  · intro single
    constructor
    · rintro id p (old | ⟨rfl, -⟩)
      · exact Or.inl (stored id p old)
      · exact Or.inr rfl
    · rintro id id' p (old | ⟨rfl, assigned⟩) (old' | ⟨same', assigned'⟩)
      · exact once id id' p old old'
      · exact absurd old (same' ▸ fresh id)
      · exact absurd old' (fresh id')
      · exact single id id' assigned assigned'

theorem safe_brought_iff (safe : dp.Safe) (packet : Packet) (n : Nat) :
    Safe { (bufferPacket (some dp.heap.length))^[n] (dp.newPacket packet).1 with
        heap := (dp.newPacket packet).1.heap.set dp.heap.length none } ↔ ∀ id, ¬ dp.Assigns n id := by
  have stores {id : BitVec 32} {p : Ptr} :
      (id, some p) ∈ ((bufferPacket (some dp.heap.length))^[n] (dp.newPacket packet).1).pktBuffer ↔
        (id, some p) ∈ dp.pktBuffer ∨ some p = some dp.heap.length ∧ dp.Assigns n id :=
    mem_iterate_bufferPacket
  constructor
  · intro after id assigned
    have live := after.stored id dp.heap.length (stores.mpr (Or.inr ⟨rfl, assigned⟩))
    have gone : Live { (dp.newPacket packet).1 with
      heap := (dp.newPacket packet).1.heap.set dp.heap.length none } dp.heap.length := live
    exact (live_set_none.mp gone).1 rfl
  · intro unassigned
    obtain ⟨stored, once⟩ := safe_iff.mp safe
    have unchanged (id : BitVec 32) (p : Ptr) :
        (id, some p) ∈ ((bufferPacket (some dp.heap.length))^[n] (dp.newPacket packet).1).pktBuffer ↔
          (id, some p) ∈ dp.pktBuffer :=
      stores.trans (or_iff_left fun assigned => unassigned id assigned.2)
    refine safe_iff.mpr ⟨fun id p member => ?_, fun id id' p member member' => ?_⟩
    · have live := stored id p ((unchanged id p).mp member)
      have other : p ≠ dp.heap.length := by
        rintro rfl
        exact not_live_length live
      have kept : Live { (dp.newPacket packet).1 with
        heap := (dp.newPacket packet).1.heap.set dp.heap.length none } p :=
          live_set_none.mpr ⟨other, live_newPacket.mpr (Or.inl live)⟩
      exact kept
    · exact once id id' p ((unchanged id p).mp member) ((unchanged id' p).mp member')

theorem safe_release_iff (safe : dp.Safe) (id : BitVec 32) (n : Nat) {sent : List Effect}
    (released : ((bufferPacket (dp.bufferedPacket id).2)^[n] (dp.bufferedPacket id).1).deletePacket
      (dp.bufferedPacket id).2 = .ok (dp', sent)) :
    dp'.Safe ↔ ∀ p, dp.pktBuffer.lookup id ≠ some (some p) := by
  rcases deletePacket_ok released with ⟨null, rfl⟩ | ⟨p, packet, found, cell, rfl⟩
  · have same : Safe ((bufferPacket (dp.bufferedPacket id).2)^[n] (dp.bufferedPacket id).1) ↔ dp.Safe := by
      rw [null]
      refine safe_congr (fun id' p => ?_) (by simp)
      rw [mem_iterate_bufferPacket, mem_bufferedPacket]
      simp
    refine iff_of_true (same.mpr safe) fun p found => ?_
    rw [bufferedPacket_snd.mpr (lookup_pktBuffer.mp found)] at null
    cases null
  · have member := bufferedPacket_snd.mp found
    refine iff_of_false ?_ fun absent => absent p (lookup_pktBuffer.mpr member)
    exact not_safe_of_deleted (mem_iterate_bufferPacket.mpr (Or.inl (mem_bufferedPacket.mpr member)))

theorem safe_releaseToFlow_iff (safe : dp.Safe) (flow : Flow) (id : BitVec 32) {sent : List Effect}
    (run : dp.releaseToFlow flow id = .ok (dp', sent)) :
    dp'.Safe ↔ (id ≠ noBuffer → ∀ p packet pktMatch, dp.pktBuffer.lookup id = some (some p) →
      dp.heap[p]? = some (some packet) → extract packet = .ok pktMatch → flow.pktMatch pktMatch = false) := by
  rcases releaseToFlow_ok run with ⟨unnamed, rfl⟩ | ⟨named, packet, pktMatch, live, extracted, outcome⟩
  · exact iff_of_true safe fun named => absurd unnamed named
  cases pointer : (dp.bufferedPacket id).2 with
  | none =>
      rw [pointer] at live
      cases live
  | some p =>
      have member := bufferedPacket_snd.mp pointer
      have found := lookup_pktBuffer.mpr member
      obtain ⟨packet', cell⟩ := safe.stored id p member
      have read : packet = packet' := by
        rw [pointer, deref, bufferedPacket_heap, cell] at live
        exact (Except.ok.inj live).symm
      subst read
      rcases outcome with ⟨rejected, rfl⟩ | ⟨accepted, deleted, released⟩
      · have same : (dp.bufferedPacket id).1.Safe ↔ dp.Safe :=
          safe_congr (fun _ _ => mem_bufferedPacket) (bufferedPacket_heap dp id)
        refine iff_of_true (same.mpr safe) fun _ p' packet' pktMatch' found' cell' extracted' => ?_
        cases found.symm.trans found'
        cases cell.symm.trans cell'
        cases extracted.symm.trans extracted'
        exact rejected
      · refine iff_of_false (fun after => ?_) fun rejected => ?_
        · exact (safe_release_iff safe _ _ released).mp after p found
        · rw [rejected named p packet pktMatch found cell extracted] at accepted
          cases accepted

theorem step_safe_iff {event : Event} (safe : dp.Safe) (advance : dp.Steps event dp') :
    dp'.Safe ↔ dp.Harmless event := by
  obtain ⟨sent, run⟩ := advance
  cases event with
  | connection up =>
      simp only [step, Except.ok.injEq, Prod.mk.injEq] at run
      have same : dp'.Safe ↔ dp.Safe := run.1 ▸ safe_congr (fun _ _ => Iff.rfl) rfl
      exact iff_of_true (same.mpr safe) trivial
  | overwrite q index byte =>
      simp only [step, Except.ok.injEq, Prod.mk.injEq] at run
      have same : dp'.Safe ↔ dp.Safe := run.1 ▸ safe_congr_live (fun _ _ => Iff.rfl) fun _ => live_overwrite
      exact iff_of_true (same.mpr safe) trivial
  | capture packet len =>
      obtain ⟨pktMatch, extracted⟩ := extract_total packet
      rw [packetHandler_ok extracted run, safe_capture_iff safe]
      simp only [Harmless, extracted, Except.ok.injEq]
      constructor
      · rintro single pktMatch' id id' rfl
        exact single id id'
      · intro single id id'
        exact single pktMatch id id' rfl
  | packetOut po =>
      obtain ⟨deleted, released⟩ := handlePacketOut_ok run
      rw [packetOutPacket] at released
      by_cases brought : po.bufferId = noBuffer
      · rw [if_pos brought] at released
        rcases deletePacket_ok released with ⟨null, -⟩ | ⟨p, packet, found, cell, rfl⟩
        · cases null
        · cases found
          rw [iterate_bufferPacket_heap, safe_brought_iff safe, Harmless]
          simp [brought]
      · rw [if_neg brought] at released
        rw [safe_release_iff safe _ _ released, Harmless]
        simp [brought]
  | flowMod fm =>
      simp only [step, handleFlowMod] at run
      simp only [Harmless]
      cases command : fm.command with
      | add =>
          simp only [command] at run
          have same : Safe { dp with flowTable := addFlow dp.flowTable fm.flow } ↔ dp.Safe :=
            safe_congr (fun _ _ => Iff.rfl) rfl
          simpa using safe_releaseToFlow_iff (same.mpr safe) fm.flow fm.bufferId run
      | delete | modify | modifyStrict | deleteStrict =>
          simp only [command, Except.ok.injEq, Prod.mk.injEq] at run
          have same : dp'.Safe ↔ dp.Safe := run.1 ▸ safe_congr (fun _ _ => Iff.rfl) rfl
          exact iff_of_true (same.mpr safe) (by simp)

theorem safe_of_empty (empty : dp.pktBuffer = .empty) : dp.Safe := by
  have none (id : BitVec 32) (pkt : Option Ptr) : (id, pkt) ∉ dp.pktBuffer := by
    rw [empty]
    exact List.not_mem_nil
  exact safe_iff.mpr ⟨fun id p member => absurd member (none id _), fun id _ p member _ =>
    absurd member (none id _)⟩

/-- A run from an empty buffer visits safe states only, exactly where all its steps are harmless. -/
theorem run_safe_iff (dp₀ : Datapath) (events : List Event) (empty : dp₀.pktBuffer = .empty) :
    (∀ dp, Visits Steps dp₀ events dp → dp.Safe) ↔
      ∀ dp event dp', Takes Steps dp₀ events dp event dp' → dp.Harmless event := by
  exact visits_iff_guarded (fun dp event dp' safe takes => step_safe_iff safe takes.steps) (safe_of_empty empty)

def missed : Event := .capture ⟨1, []⟩ 0

def dropFirst : Event := .packetOut { bufferId := 1, inPort := 0, actions := [], data := [] }

theorem run_missed : Run Steps (create 2) [missed] { create 2 with
    pktBuffer := OrderedMap.empty.insertNew 1 (some 0)
    bufferId := 1
    heap := [some ⟨1, []⟩] } :=
  Run.start.step ⟨_, rfl⟩

theorem missed_frame_safe : ∃ dp, Run Steps (create 2) [missed] dp ∧ dp.Safe := by
  refine ⟨_, run_missed, (run_safe_iff (create 2) [missed] rfl).mpr ?_ _ run_missed.visits⟩
  intro dp event dp' takes
  obtain ⟨rfl, rfl, -⟩ := takes_single.mp takes
  rintro pktMatch id id' - ⟨-, i, small, rfl⟩ ⟨-, j, small', rfl⟩
  have one : (create 2).storings pktMatch = 1 := rfl
  have same : i = j := by omega
  rw [same]

theorem released_frame_stays_stored :
    ∃ dp, Run Steps (create 2) [missed, dropFirst] dp ∧ ¬ dp.StoredLive ∧
      dp.step dropFirst = .error (.deadPacket 0) ∧ dp.destroy = .error (.deadPacket 0) := by
  have drop : Run Steps (create 2) [missed, dropFirst] { create 2 with
      pktBuffer := OrderedMap.empty.insertNew 1 (some 0)
      bufferId := 1
      heap := [none] } := run_missed.step ⟨_, rfl⟩
  refine ⟨_, drop, fun stored => ?_, rfl, rfl⟩
  obtain ⟨packet, cell⟩ := stored 1 0 (lookup_pktBuffer.mp rfl)
  cases cell

end Datapath

end Libfluid.Switch
