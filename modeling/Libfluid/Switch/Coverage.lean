import Libfluid.Switch.FlowTable

namespace Libfluid.Switch
open Library

inductive Coordinate
  | field (f : Field)
  | nwSrc (i : Fin 32)
  | nwDst (i : Fin 32)

namespace Coordinate

abbrev Value : Coordinate → Type
  | .field f => f.Value
  | .nwSrc _ | .nwDst _ => Bool

instance (c : Coordinate) : Nontrivial c.Value := by
  cases c <;> infer_instance

end Coordinate

namespace Match

def reading (m : Match) : (c : Coordinate) → c.Value
  | .field f => m.value f
  | .nwSrc i => m.nwSrc.getLsbD i
  | .nwDst i => m.nwDst.getLsbD i

def pattern (m : Match) : Pattern Coordinate Coordinate.Value where
  wild
    | .field f => m.wild f = true
    | .nwSrc i => i.val < m.nwSrcCount
    | .nwDst i => i.val < m.nwDstCount
  value := m.reading

def ofReading (x : (c : Coordinate) → c.Value) : Match where
  wildcards := 0
  inPort := x (.field .inPort)
  dlSrc := x (.field .dlSrc)
  dlDst := x (.field .dlDst)
  dlVlan := x (.field .dlVlan)
  dlVlanPcp := x (.field .dlVlanPcp)
  dlType := x (.field .dlType)
  nwTos := x (.field .nwTos)
  nwProto := x (.field .nwProto)
  nwSrc := ofBits fun i => x (.nwSrc i)
  nwDst := ofBits fun i => x (.nwDst i)
  tpSrc := x (.field .tpSrc)
  tpDst := x (.field .tpDst)

theorem reading_ofReading (x : (c : Coordinate) → c.Value) : (ofReading x).reading = x := by
  funext c
  cases c with
  | field f => cases f <;> rfl
  | nwSrc i => exact getLsbD_ofBits _ i
  | nwDst i => exact getLsbD_ofBits _ i

theorem accepts_iff_pattern (m pkt : Match) : m.Accepts pkt ↔ m.pattern.Accepts pkt.reading := by
  rw [Accepts, ushiftRight_eq_iff, ushiftRight_eq_iff]
  constructor
  · rintro ⟨fields, src, dst⟩ c
    cases c with
    | field f =>
        cases isWild : m.wild f with
        | true => exact Or.inl isWild
        | false => exact Or.inr (fields f isWild)
    | nwSrc i => exact src i
    | nwDst i => exact dst i
  · intro accepted
    refine ⟨fun f fixed => (accepted (.field f)).resolve_left (by simp [pattern, fixed]), ?_, ?_⟩
    · exact fun i => accepted (.nwSrc i)
    · exact fun i => accepted (.nwDst i)

/-- Coverage without a packet: what one match leaves exact the other does too, with the same values, and
its prefixes are inside. -/
def Covers (m entry : Match) : Prop :=
  (∀ f, m.wild f = false → entry.wild f = false ∧ m.value f = entry.value f) ∧
    PrefixCovers m.nwSrc m.nwSrcCount entry.nwSrc entry.nwSrcCount ∧
    PrefixCovers m.nwDst m.nwDstCount entry.nwDst entry.nwDstCount

theorem covers_iff_pattern (m entry : Match) : m.Covers entry ↔ m.pattern.Covers entry.pattern := by
  rw [Covers, prefixCovers_iff, prefixCovers_iff]
  constructor
  · rintro ⟨fields, src, dst⟩ c
    cases c with
    | field f =>
        cases isWild : m.wild f with
        | true => exact Or.inl isWild
        | false =>
            obtain ⟨fixed, same⟩ := fields f isWild
            exact Or.inr ⟨by simp [pattern, fixed], same⟩
    | nwSrc i => exact src i
    | nwDst i => exact dst i
  · intro covers
    refine ⟨fun f fixed => ?_, fun i => covers (.nwSrc i), fun i => covers (.nwDst i)⟩
    obtain ⟨entryFixed, same⟩ := (covers (.field f)).resolve_left (by simp [pattern, fixed])
    exact ⟨by simpa [pattern] using entryFixed, same⟩

theorem coversPackets_iff (m entry : Match) : m.CoversPackets entry ↔ m.Covers entry := by
  rw [covers_iff_pattern, ← Pattern.accepts_subset_iff]
  constructor
  · intro subset x accepted
    have := subset (ofReading x)
    rw [accepts_iff_pattern, accepts_iff_pattern, reading_ofReading] at this
    exact this accepted
  · intro subset pkt accepted
    exact (accepts_iff_pattern m pkt).mpr (subset _ ((accepts_iff_pattern entry pkt).mp accepted))

instance (P : Field → Prop) [DecidablePred P] : Decidable (∀ f, P f) :=
  decidable_of_iff _ Field.forall_iff.symm

instance (m entry : Match) : Decidable (m.Covers entry) := inferInstanceAs (Decidable (_ ∧ _))

instance (m entry : Match) : Decidable (m.CoversPackets entry) :=
  decidable_of_iff _ (coversPackets_iff m entry).symm

end Match

/-! ## What an installed flow accepts -/

theorem FlowMod.pktMatch_iff (fm : FlowMod) (pkt : Match) :
    fm.flow.pktMatch pkt = true ↔ fm.match_.FieldsAgree pkt := by
  rw [Flow.pktMatch, matchStdPkt_iff, Match.fieldsAgree_iff]
  simp only [flow, pktNw_allOnes, and_true]

theorem ushiftRight_of_ge {n : Nat} (large : 32 ≤ n) (a b : BitVec 32) : a >>> n = b >>> n :=
  (ushiftRight_eq_iff a b n).mpr fun i => Or.inl (lt_of_lt_of_le i.isLt large)

theorem flipped_prefix_ne {n : Nat} (small : n < 32) (a : BitVec 32) :
    a >>> n ≠ (a ^^^ 0x80000000) >>> n := by
  intro same
  have top := ((ushiftRight_eq_iff _ _ n).mp same ⟨31, by decide⟩).resolve_left (by simp; omega)
  simp at top

namespace Datapath

theorem mem_addFlow (table : FlowTable) (flow : Flow) : flow ∈ addFlow table flow := by
  have perm := OrderedSet.insert_perm (table.eraseFirst fun entry => entry.strictMatch flow) flow
    fun other _ => BitVec.le_total flow.priority other.priority
  exact perm.mem_iff.mpr (by simp)

/-- The flow that an ADD stores accepts the packets of its match exactly where the match leaves both
addresses open. -/
theorem added_flow_accepts_iff (dp dp' : Datapath) (fm : FlowMod) (added : fm.command = .add)
    (advance : dp.Steps (.flowMod fm) dp') :
    fm.flow ∈ dp'.flowTable ∧
      ((∀ pkt, fm.flow.pktMatch pkt = true ↔ fm.match_.Accepts pkt) ↔
        32 ≤ fm.match_.nwSrcCount ∧ 32 ≤ fm.match_.nwDstCount) := by
  have stored : dp'.flowTable = addFlow dp.flowTable fm.flow := by
    rw [step_flowTable advance, tableAfter, updateTable, added]
  refine ⟨stored ▸ mem_addFlow _ _, ?_, ?_⟩
  · intro same
    constructor
    · by_contra small
      have accepted := (same { fm.match_ with nwSrc := fm.match_.nwSrc ^^^ 0x80000000 }).mp
        ((fm.pktMatch_iff _).mpr fun f fixed => by cases f <;> rfl)
      exact flipped_prefix_ne (Nat.lt_of_not_le small) _ accepted.2.1
    · by_contra small
      have accepted := (same { fm.match_ with nwDst := fm.match_.nwDst ^^^ 0x80000000 }).mp
        ((fm.pktMatch_iff _).mpr fun f fixed => by cases f <;> rfl)
      exact flipped_prefix_ne (Nat.lt_of_not_le small) _ accepted.2.2
  · rintro ⟨src, dst⟩ pkt
    rw [fm.pktMatch_iff]
    exact ⟨fun agree => ⟨agree, ushiftRight_of_ge src _ _, ushiftRight_of_ge dst _ _⟩, And.left⟩

def srcFlowMod : FlowMod :=
  { openFlowMod 0 with match_ := { (openFlowMod 0).match_ with wildcards := ofpfwAll ^^^ 0x3f00 } }

theorem open_flow_accepts :
    ∃ dp', (create 2).Steps (.flowMod (openFlowMod 7)) dp' ∧
      ∀ pkt, (openFlowMod 7).flow.pktMatch pkt = true ↔ (openFlowMod 7).match_.Accepts pkt := by
  have advance := steps_flowMod (create 2) (openFlowMod 7) rfl
  exact ⟨_, advance, (added_flow_accepts_iff _ _ _ rfl advance).2.mpr (by decide)⟩

theorem source_address_ignored :
    ∃ dp', (create 2).Steps (.flowMod srcFlowMod) dp' ∧ srcFlowMod.flow ∈ dp'.flowTable ∧
      srcFlowMod.flow.pktMatch { srcFlowMod.match_ with nwSrc := 1 } = true ∧
      ¬ srcFlowMod.match_.Accepts { srcFlowMod.match_ with nwSrc := 1 } := by
  refine ⟨_, steps_flowMod (create 2) _ rfl, mem_addFlow _ _, by decide, fun accepts => ?_⟩
  exact absurd accepts.2.1 (by decide)

/-! ## What a deletion removes -/

theorem nonStrictMatch_iff (m : Match) (entry : Flow) :
    Flow.nonStrictMatch { match_ := m } entry = true ↔ m.FieldsAgree entry.match_ := by
  rw [Flow.nonStrictMatch, matchStdNonstrict_iff, Match.fieldsAgree_iff]
  simp only [nonstrictNw_allOnes, and_true]

/-- In a table that flow modifications led to, a DELETE removes exactly the covered entries, in place,
exactly where each entry that has the values of the match in its exact fields leaves none of these
fields open and has its addresses inside the prefixes of the match. -/
theorem delete_removes_covered_iff (dp₀ : Datapath) (events : List Event) (fm : FlowMod) :
    dp₀.flowTable = .empty → fm.command = .delete → ∀ dp dp', Run Steps dp₀ events dp →
      dp.Steps (.flowMod fm) dp' →
      (dp'.flowTable.toList =
          dp.flowTable.toList.filter (fun entry => !decide (fm.match_.CoversPackets entry.match_)) ↔
        ∀ entry ∈ dp.flowTable, fm.match_.FieldsAgree entry.match_ →
          (∀ f, fm.match_.wild f = false → entry.match_.wild f = false) ∧
          PrefixCovers fm.match_.nwSrc fm.match_.nwSrcCount entry.match_.nwSrc entry.match_.nwSrcCount ∧
          PrefixCovers fm.match_.nwDst fm.match_.nwDstCount entry.match_.nwDst entry.match_.nwDstCount) := by
  intro _ deleted dp dp' _ advance
  have removed : dp'.flowTable.toList =
      dp.flowTable.toList.filter fun entry => !Flow.nonStrictMatch { match_ := fm.match_ } entry := by
    rw [step_flowTable advance, tableAfter, updateTable, deleted, OrderedSet.toList_filter]
  rw [removed, filter_eq_filter_iff]
  refine forall₂_congr fun entry _ => ?_
  rw [Bool.not_inj_iff, Bool.eq_iff_iff, nonStrictMatch_iff, decide_eq_true_iff, Match.coversPackets_iff]
  constructor
  · intro same agree
    obtain ⟨fields, src, dst⟩ := same.mp agree
    exact ⟨fun f fixed => (fields f fixed).1, src, dst⟩
  · intro inside
    refine ⟨fun agree => ?_, fun covers f fixed => (covers.1 f fixed).2⟩
    obtain ⟨fields, src, dst⟩ := inside agree
    exact ⟨fun f fixed => ⟨fields f fixed, agree f fixed⟩, src, dst⟩

theorem open_flow_removed :
    ∃ dp dp', Run Steps (create 2) ([openFlowMod 7].map .flowMod) dp ∧
      dp.Steps (.flowMod { openFlowMod 0 with command := .delete }) dp' ∧
      dp'.flowTable.toList = dp.flowTable.toList.filter fun entry =>
        !decide ((openFlowMod 0).match_.CoversPackets entry.match_) := by
  have run := run_flowMods (create 2) [openFlowMod 7] (by decide)
  have advance := steps_flowMod { create 2 with flowTable := updateTable .empty (openFlowMod 7) }
    { openFlowMod 0 with command := .delete } rfl
  refine ⟨_, _, run, advance,
    (delete_removes_covered_iff _ _ { openFlowMod 0 with command := .delete } rfl rfl _ _ run advance).mpr ?_⟩
  intro entry member _
  rw [mem_single_table member]
  decide

theorem uncovered_flow_removed :
    ∃ dp dp', Run Steps (create 2) ([openFlowMod 7].map .flowMod) dp ∧
      dp.Steps (.flowMod { srcFlowMod with command := .delete }) dp' ∧
      dp'.flowTable.toList ≠ dp.flowTable.toList.filter fun entry =>
        !decide (srcFlowMod.match_.CoversPackets entry.match_) := by
  have run := run_flowMods (create 2) [openFlowMod 7] (by decide)
  have advance := steps_flowMod { create 2 with flowTable := updateTable .empty (openFlowMod 7) }
    { srcFlowMod with command := .delete } rfl
  exact ⟨_, _, run, advance, by decide⟩

end Datapath

end Libfluid.Switch
