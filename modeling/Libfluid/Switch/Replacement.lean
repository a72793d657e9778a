import Libfluid.Switch.Coverage

namespace Libfluid.Switch
open Library

/-- Two flows with the same priority, the same wildcards word, and the same value wherever that word
leaves a field or an address bit significant. -/
def Flow.Identical (a b : Flow) : Prop :=
  a.priority = b.priority ∧ a.match_.wildcards = b.match_.wildcards ∧
    (∀ f, a.match_.wild f = false → a.match_.value f = b.match_.value f) ∧
    a.match_.nwSrc >>> a.match_.nwSrcCount = b.match_.nwSrc >>> a.match_.nwSrcCount ∧
    a.match_.nwDst >>> a.match_.nwDstCount = b.match_.nwDst >>> a.match_.nwDstCount

instance (a b : Flow) : Decidable (a.Identical b) := inferInstanceAs (Decidable (_ ∧ _))

def Flow.Unmasked (flow : Flow) : Prop := flow.nwSrcMask = 0xffffffff ∧ flow.nwDstMask = 0xffffffff

namespace Flow

variable {a b c : Flow}

theorem wild_of_wildcards {m n : Match} (same : m.wildcards = n.wildcards) (f : Field) :
    m.wild f = n.wild f := by
  rw [Match.wild, same, Match.wild]

theorem nwSrcCount_of_wildcards {m n : Match} (same : m.wildcards = n.wildcards) :
    m.nwSrcCount = n.nwSrcCount := by
  rw [Match.nwSrcCount, same, Match.nwSrcCount]

theorem nwDstCount_of_wildcards {m n : Match} (same : m.wildcards = n.wildcards) :
    m.nwDstCount = n.nwDstCount := by
  rw [Match.nwDstCount, same, Match.nwDstCount]

theorem Identical.refl (a : Flow) : a.Identical a := ⟨rfl, rfl, fun _ _ => rfl, rfl, rfl⟩

theorem Identical.symm (h : a.Identical b) : b.Identical a := by
  obtain ⟨priority, wildcards, fields, src, dst⟩ := h
  refine ⟨priority.symm, wildcards.symm, fun f fixed => ?_, ?_, ?_⟩
  · exact (fields f ((wild_of_wildcards wildcards f).trans fixed)).symm
  · rw [← nwSrcCount_of_wildcards wildcards]
    exact src.symm
  · rw [← nwDstCount_of_wildcards wildcards]
    exact dst.symm

theorem Identical.trans (h : a.Identical b) (h' : b.Identical c) : a.Identical c := by
  obtain ⟨priority, wildcards, fields, src, dst⟩ := h
  obtain ⟨priority', wildcards', fields', src', dst'⟩ := h'
  refine ⟨priority.trans priority', wildcards.trans wildcards', fun f fixed => ?_, ?_, ?_⟩
  · exact (fields f fixed).trans (fields' f ((wild_of_wildcards wildcards f).symm.trans fixed))
  · rw [nwSrcCount_of_wildcards wildcards] at src ⊢
    exact src.trans src'
  · rw [nwDstCount_of_wildcards wildcards] at dst ⊢
    exact dst.trans dst'

theorem strictMatch_iff (unmaskedA : a.Unmasked) (unmaskedB : b.Unmasked) :
    a.strictMatch b = true ↔ a.priority = b.priority ∧
      ∀ f, a.match_.wild f = true ∧ b.match_.wild f = true ∨ a.match_.value f = b.match_.value f := by
  rw [strictMatch, Bool.and_eq_true, matchStdStrict_iff, unmaskedA.1, unmaskedA.2, unmaskedB.1, unmaskedB.2]
  simp only [beq_iff_eq, strictNw_allOnes, and_true]

theorem Identical.strictMatch (h : a.Identical b) (unmaskedA : a.Unmasked) (unmaskedB : b.Unmasked) :
    a.strictMatch b = true := by
  obtain ⟨priority, wildcards, fields, -, -⟩ := h
  refine (strictMatch_iff unmaskedA unmaskedB).mpr ⟨priority, fun f => ?_⟩
  cases isWild : a.match_.wild f with
  | true => exact Or.inl ⟨rfl, (wild_of_wildcards wildcards f).symm.trans isWild⟩
  | false => exact Or.inr (fields f isWild)

end Flow

theorem FlowMod.flow_unmasked (fm : FlowMod) : fm.flow.Unmasked := ⟨rfl, rfl⟩

namespace Datapath

def NoIdentical (table : FlowTable) : Prop := table.toList.Pairwise fun a b => ¬ a.Identical b

/-- The new table is the old one without what is identical to the new flow, and the new flow once. -/
def Replaces (before : FlowTable) (flow : Flow) (after : FlowTable) : Prop :=
  after.toList.Perm (flow :: before.toList.filter fun entry => !decide (entry.Identical flow))

def FirstIdentical (table : FlowTable) (flow : Flow) : Prop :=
  ∀ entry, table.find? (fun entry => entry.strictMatch flow) = some entry → entry.Identical flow

theorem addFlow_perm (table : FlowTable) (flow : Flow) :
    (addFlow table flow).toList.Perm (flow :: table.toList.eraseP fun entry => entry.strictMatch flow) :=
  OrderedSet.insert_perm (table.eraseFirst fun entry => entry.strictMatch flow) flow
    fun other _ => BitVec.le_total flow.priority other.priority

theorem eraseFirst_split {p : Flow → Bool} {flows front rest : List Flow} {entry : Flow}
    (split : flows = front ++ entry :: rest) (accepted : p entry = true)
    (rejected : ∀ other ∈ front, (!p other) = true) : flows.eraseP p = front ++ rest := by
  rw [split, List.eraseP_append_right _ (by simpa using rejected), List.eraseP_cons_of_pos accepted]

theorem replaces_iff_perm (table : FlowTable) (flow : Flow) :
    Replaces table flow (addFlow table flow) ↔
      (table.toList.eraseP fun entry => entry.strictMatch flow).Perm
        (table.toList.filter fun entry => !decide (entry.Identical flow)) := by
  constructor
  · intro replaces
    exact (List.perm_cons flow).mp ((addFlow_perm table flow).symm.trans replaces)
  · intro rest
    exact (addFlow_perm table flow).trans ((List.perm_cons flow).mpr rest)

theorem replaces_of_firstIdentical {table : FlowTable} {flow : Flow} (unmasked : ∀ entry ∈ table, entry.Unmasked)
    (flowUnmasked : flow.Unmasked) (distinct : NoIdentical table) (first : FirstIdentical table flow) :
    Replaces table flow (addFlow table flow) := by
  rw [replaces_iff_perm]
  cases search : table.find? fun entry => entry.strictMatch flow with
  | none =>
      have rejected := List.find?_eq_none.mp search
      rw [List.eraseP_of_forall_not rejected, List.filter_eq_self.mpr]
      intro entry member
      have different : ¬ entry.Identical flow := fun same =>
        rejected entry member (same.strictMatch (unmasked entry member) flowUnmasked)
      simpa using different
  | some entry =>
      have same := first entry search
      obtain ⟨accepted, front, rest, split, rejected⟩ := List.find?_eq_some_iff_append.mp search
      have member {other : Flow} (inside : other ∈ front ++ entry :: rest) : other ∈ table := by
        rw [OrderedSet.mem_def, split]
        exact inside
      have frontKept : front.filter (fun other => !decide (other.Identical flow)) = front := by
        refine List.filter_eq_self.mpr fun other inside => ?_
        have different : ¬ other.Identical flow := fun sameOther => by
          have := sameOther.strictMatch (unmasked other (member (by simp [inside]))) flowUnmasked
          exact absurd this (by simpa using rejected other inside)
        simpa using different
      have restKept : rest.filter (fun other => !decide (other.Identical flow)) = rest := by
        refine List.filter_eq_self.mpr fun other inside => ?_
        rw [NoIdentical, split, List.pairwise_append, List.pairwise_cons] at distinct
        have different : ¬ other.Identical flow := fun sameOther =>
          distinct.2.1.1 other inside (same.trans sameOther.symm)
        simpa using different
      rw [eraseFirst_split split accepted rejected, split, List.filter_append,
        List.filter_cons_of_neg (by simpa using same), frontKept, restKept]

theorem noIdentical_of_replaces {before after : FlowTable} {flow : Flow} (distinct : NoIdentical before)
    (replaces : Replaces before flow after) : NoIdentical after := by
  refine (replaces.pairwise_iff fun different same => different same.symm).mpr (List.pairwise_cons.mpr ⟨?_, distinct.filter _⟩)
  intro other member same
  have different := (List.mem_filter.mp member).2
  simp [same.symm] at different

theorem firstIdentical_of_replaces {table : FlowTable} {flow : Flow}
    (replaces : Replaces table flow (addFlow table flow)) : FirstIdentical table flow := by
  intro entry search
  by_contra different
  rw [replaces_iff_perm] at replaces
  obtain ⟨accepted, front, rest, split, rejected⟩ := List.find?_eq_some_iff_append.mp search
  have counts := replaces.count_eq entry
  rw [List.count_filter (by simpa using different), eraseFirst_split split accepted rejected, split,
    List.count_append, List.count_append, List.count_cons_self] at counts
  omega

theorem firstIdentical_iff {table : FlowTable} {flow : Flow} (unmasked : ∀ entry ∈ table, entry.Unmasked)
    (flowUnmasked : flow.Unmasked) (distinct : NoIdentical table) :
    NoIdentical (addFlow table flow) ∧ Replaces table flow (addFlow table flow) ↔
      FirstIdentical table flow := by
  constructor
  · rintro ⟨-, replaces⟩
    exact firstIdentical_of_replaces replaces
  · intro first
    have replaces := replaces_of_firstIdentical unmasked flowUnmasked distinct first
    exact ⟨noIdentical_of_replaces distinct replaces, replaces⟩

/-! ## Over runs -/

def AddReplaces (dp : Datapath) (event : Event) (dp' : Datapath) : Prop :=
  ∀ fm, event = .flowMod fm → fm.command = .add → Replaces dp.flowTable fm.flow dp'.flowTable

def AddFindsIdentical (dp : Datapath) (event : Event) : Prop :=
  ∀ fm, event = .flowMod fm → fm.command = .add → FirstIdentical dp.flowTable fm.flow

theorem updateTable_unmasked {table : FlowTable} (unmasked : ∀ entry ∈ table, entry.Unmasked) (fm : FlowMod) :
    ∀ entry ∈ updateTable table fm, entry.Unmasked := by
  intro entry member
  rw [updateTable] at member
  cases command : fm.command with
  | add =>
      rw [command] at member
      rcases List.mem_cons.mp ((addFlow_perm table fm.flow).mem_iff.mp member) with rfl | old
      · exact fm.flow_unmasked
      · exact unmasked entry (List.mem_of_mem_eraseP old)
  | delete =>
      rw [command] at member
      exact unmasked entry (List.mem_of_mem_filter member)
  | modify | modifyStrict | deleteStrict =>
      rw [command] at member
      exact unmasked entry member

theorem tableAfter_unmasked {table : FlowTable} (unmasked : ∀ entry ∈ table, entry.Unmasked) (event : Event) :
    ∀ entry ∈ tableAfter table event, entry.Unmasked := by
  cases event with
  | flowMod fm => exact updateTable_unmasked unmasked fm
  | capture packet len | packetOut po | connection up | overwrite p index byte => exact unmasked

variable {dp dp' : Datapath} {event : Event}

theorem step_noIdentical_iff (unmasked : ∀ entry ∈ dp.flowTable, entry.Unmasked)
    (distinct : NoIdentical dp.flowTable) (advance : dp.Steps event dp') :
    NoIdentical dp'.flowTable ∧ AddReplaces dp event dp' ↔ AddFindsIdentical dp event := by
  have updated := step_flowTable advance
  cases event with
  | capture packet len | packetOut po | connection up | overwrite p index byte =>
      rw [updated]
      exact ⟨fun _ _ other => by simp at other, fun _ => ⟨distinct, fun _ other => by simp at other⟩⟩
  | flowMod fm =>
      simp only [AddReplaces, AddFindsIdentical, Event.flowMod.injEq, forall_eq']
      rw [updated, tableAfter, updateTable]
      cases command : fm.command with
      | add => simpa only [forall_const] using firstIdentical_iff unmasked fm.flow_unmasked distinct
      | delete =>
          have kept : NoIdentical (dp.flowTable.filter fun entry =>
              !({ match_ := fm.match_ : Flow }.nonStrictMatch entry)) := distinct.filter _
          simpa using kept
      | modify | modifyStrict | deleteStrict => simpa using distinct

theorem visits_unmasked {dp₀ : Datapath} {events : List Event} (empty : dp₀.flowTable = .empty)
    (visits : Visits Steps dp₀ events dp) : ∀ entry ∈ dp.flowTable, entry.Unmasked := by
  refine visits.invariant (P := fun dp => ∀ entry ∈ dp.flowTable, entry.Unmasked) ?_ ?_
  · rintro state event next unmasked ⟨-, -, -, advance⟩
    rw [step_flowTable advance]
    exact tableAfter_unmasked unmasked event
  · intro entry member
    rw [empty] at member
    exact absurd member List.not_mem_nil

/-- In a run from an empty table no two entries are ever identical and each ADD replaces the identical
entry and nothing else, exactly where the search of each ADD stops at nothing but an identical entry. -/
theorem run_replaces_iff (dp₀ : Datapath) (events : List Event) (empty : dp₀.flowTable = .empty) :
    ((∀ dp, Visits Steps dp₀ events dp → NoIdentical dp.flowTable) ∧
      ∀ dp event dp', Takes Steps dp₀ events dp event dp' → AddReplaces dp event dp') ↔
    ∀ dp event dp', Takes Steps dp₀ events dp event dp' → AddFindsIdentical dp event := by
  refine visits_iff_takes (P := fun dp : Datapath => NoIdentical dp.flowTable) ?_ ?_
  · intro dp event dp' distinct takes
    exact step_noIdentical_iff (visits_unmasked empty takes.visits) distinct takes.steps
  · rw [empty]
    exact List.Pairwise.nil

def srcFlowModTo (nwSrc : BitVec 32) : FlowMod :=
  { srcFlowMod with match_ := { srcFlowMod.match_ with nwSrc := nwSrc } }

theorem repeated_flow_replaced :
    ∃ dp dp', Run Steps (create 2) ([srcFlowModTo 1].map .flowMod) dp ∧
      dp.Steps (.flowMod (srcFlowModTo 1)) dp' ∧
      Replaces dp.flowTable (srcFlowModTo 1).flow dp'.flowTable := by
  have once := run_flowMods (create 2) [srcFlowModTo 1] (by decide)
  have again := steps_flowMod { create 2 with flowTable := updateTable .empty (srcFlowModTo 1) } (srcFlowModTo 1) rfl
  refine ⟨_, _, once, again, ?_⟩
  have replaced := ((run_replaces_iff (create 2) ([srcFlowModTo 1, srcFlowModTo 1].map .flowMod) rfl).mpr ?_).2
  · exact replaced _ _ _ ⟨_, List.prefix_rfl, once, again⟩ _ rfl rfl
  rintro dp event dp' ⟨past, inside, run, -⟩ fm rfl - entry search
  obtain ⟨member, -⟩ := OrderedSet.mem_of_find? search
  have single : (updateTable .empty (srcFlowModTo 1)).toList = [(srcFlowModTo 1).flow] := by decide
  cases past with
  | nil =>
      rw [Run.nil_iff.mp run] at member
      exact absurd member List.not_mem_nil
  | cons first rest =>
      have short : rest = [] ∧ first = .flowMod (srcFlowModTo 1) ∧ fm = srcFlowModTo 1 := by
        cases rest <;> simp_all
      obtain ⟨rfl, rfl, rfl⟩ := short
      rw [run.unique steps_unique once, OrderedSet.mem_def, List.foldl_cons, List.foldl_nil, create, single,
        List.mem_singleton] at member
      exact member ▸ Flow.Identical.refl _

theorem different_flow_lost :
    ∃ dp dp', Run Steps (create 2) ([srcFlowModTo 1].map .flowMod) dp ∧
      dp.Steps (.flowMod (srcFlowModTo 2)) dp' ∧
      ¬ Replaces dp.flowTable (srcFlowModTo 2).flow dp'.flowTable := by
  have run := run_flowMods (create 2) [srcFlowModTo 1] (by decide)
  refine ⟨_, _, run, steps_flowMod _ (srcFlowModTo 2) rfl, ?_⟩
  rw [Replaces]
  decide

end Datapath

end Libfluid.Switch
