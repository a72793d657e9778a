import Libfluid.Library.Masked
import Libfluid.Switch.Coverage

namespace Libfluid.Switch
open Library

/-! ## Addresses -/

theorem strictNw_iff (a b am bm : BitVec 32) : strictNw a b am bm = true ↔ am = bm ∧ AgreeUnder am a b := by
  rw [strictNw, Bool.and_eq_true, beq_iff_eq, beq_iff_eq, agreeUnder_iff, BitVec.and_comm]

theorem nonstrictNw_iff (a b am bm : BitVec 32) : nonstrictNw a b am bm = true ↔ MaskCovers a am b bm := by
  rw [nonstrictNw, beq_iff_eq, maskCovers_iff]

theorem pktNw_iff (a b am : BitVec 32) : pktNw a b am = true ↔ AgreeUnder am a b := by
  rw [pktNw, beq_iff_eq, agreeUnder_iff]

theorem nw_comparisons_agree (a b am bm : BitVec 32) :
    (nonstrictNw a b am bm = true ↔ ∀ x, pktNw b x bm = true → pktNw a x am = true) ∧
      (strictNw a b am bm = true ↔ ∀ x, pktNw a x am = true ↔ pktNw b x bm = true) := by
  simp only [pktNw_iff]
  constructor
  · rw [nonstrictNw_iff]
    exact maskCovers_iff_subset a am b bm
  · rw [strictNw_iff]
    exact agreeUnder_iff_same_words a am b bm

/-! ## Matches with masks -/

theorem Coordinate.forall_iff {P : Coordinate → Prop} :
    (∀ c, P c) ↔ (∀ f, P (.field f)) ∧ (∀ i, P (.nwSrc i)) ∧ ∀ i, P (.nwDst i) := by
  constructor
  · intro all
    exact ⟨fun f => all _, fun i => all _, fun i => all _⟩
  · rintro ⟨fields, src, dst⟩ c
    cases c with
    | field f => exact fields f
    | nwSrc i => exact src i
    | nwDst i => exact dst i

theorem Match.reading_surjective : Function.Surjective Match.reading := fun x =>
  ⟨Match.ofReading x, Match.reading_ofReading x⟩

structure MaskedMatch where
  match_ : Match
  nwSrcMask : BitVec 32
  nwDstMask : BitVec 32

namespace MaskedMatch

variable (a b : MaskedMatch)

def pattern (m : MaskedMatch) : Pattern Coordinate Coordinate.Value where
  wild
    | .field f => m.match_.wild f = true
    | .nwSrc i => m.nwSrcMask.getLsbD i = true
    | .nwDst i => m.nwDstMask.getLsbD i = true
  value := m.match_.reading

def accepts (m : MaskedMatch) (pkt : Match) : Bool := matchStdPkt m.match_ pkt m.nwSrcMask m.nwDstMask

theorem accepts_iff (m : MaskedMatch) (pkt : Match) : m.accepts pkt = true ↔ m.pattern.Accepts pkt.reading := by
  rw [accepts, matchStdPkt_iff, pktNw_iff, pktNw_iff, Pattern.Accepts, Coordinate.forall_iff]
  rfl

theorem accepts_subset_iff :
    (∀ pkt, b.accepts pkt = true → a.accepts pkt = true) ↔
      (∀ f, a.match_.wild f = true ∨ ¬ b.match_.wild f = true ∧ a.match_.value f = b.match_.value f) ∧
        MaskCovers a.match_.nwSrc a.nwSrcMask b.match_.nwSrc b.nwSrcMask ∧
        MaskCovers a.match_.nwDst a.nwDstMask b.match_.nwDst b.nwDstMask := by
  simp only [accepts_iff]
  have points := Match.reading_surjective.forall (p := fun x => b.pattern.Accepts x → a.pattern.Accepts x)
  rw [← points, Pattern.accepts_subset_iff, Pattern.Covers, Coordinate.forall_iff]
  simp only [MaskCovers, ← Bool.not_eq_true]
  rfl

/-- No field that both fix and no address bit that both fix differs. -/
def Meets : Prop :=
  (∀ f, a.match_.wild f = true ∨ b.match_.wild f = true ∨ a.match_.value f = b.match_.value f) ∧
    AgreeUnder (a.nwSrcMask ||| b.nwSrcMask) a.match_.nwSrc b.match_.nwSrc ∧
    AgreeUnder (a.nwDstMask ||| b.nwDstMask) a.match_.nwDst b.match_.nwDst

theorem accepts_common_iff : (∃ pkt, a.accepts pkt = true ∧ b.accepts pkt = true) ↔ a.Meets b := by
  simp only [accepts_iff]
  have points := Match.reading_surjective.exists (p := fun x => a.pattern.Accepts x ∧ b.pattern.Accepts x)
  rw [← points, Pattern.accepts_common_iff, Pattern.Meets, Coordinate.forall_iff]
  simp only [Meets, AgreeUnder, BitVec.getLsbD_or, Bool.or_eq_true, or_assoc]
  rfl

end MaskedMatch

/-! ## The strict comparison -/

namespace Flow

variable {a b : Flow}

def SameAddresses (a b : Flow) : Prop :=
  (a.nwSrcMask = b.nwSrcMask ∧ AgreeUnder a.nwSrcMask a.match_.nwSrc b.match_.nwSrc) ∧
    a.nwDstMask = b.nwDstMask ∧ AgreeUnder a.nwDstMask a.match_.nwDst b.match_.nwDst

def StrictlySame (a b : Flow) : Prop :=
  a.priority = b.priority ∧
    (∀ f, a.match_.wild f = true ∧ b.match_.wild f = true ∨
      a.match_.wild f = false ∧ b.match_.wild f = false ∧ a.match_.value f = b.match_.value f) ∧
    a.SameAddresses b

theorem strictMatch_iff_fields (a b : Flow) :
    a.strictMatch b = true ↔
      a.priority = b.priority ∧
        (∀ f, a.match_.wild f = true ∧ b.match_.wild f = true ∨ a.match_.value f = b.match_.value f) ∧
        a.SameAddresses b := by
  rw [strictMatch, Bool.and_eq_true, beq_iff_eq, matchStdStrict_iff, strictNw_iff, strictNw_iff]
  rfl

theorem StrictlySame.wild_eq (same : a.StrictlySame b) (f : Field) : a.match_.wild f = b.match_.wild f := by
  rcases same.2.1 f with ⟨first, second⟩ | ⟨first, second, -⟩
  · rw [first, second]
  · rw [first, second]

theorem strictMatch_of_wild_eq (wild : ∀ f, a.match_.wild f = b.match_.wild f) :
    a.strictMatch b = true ↔ a.StrictlySame b := by
  rw [strictMatch_iff_fields, StrictlySame]
  refine and_congr_right' (and_congr_left' (forall_congr' fun f => ?_))
  rw [wild f]
  cases b.match_.wild f <;> simp

theorem strictMatch_correct_iff (a b : Flow) :
    (a.strictMatch b = true ↔ a.StrictlySame b) ↔
      (∀ f, a.match_.wild f = b.match_.wild f) ∨ a.priority ≠ b.priority ∨ ¬ a.SameAddresses b ∨
        ∃ f, ¬ (a.match_.wild f = true ∧ b.match_.wild f = true) ∧ a.match_.value f ≠ b.match_.value f := by
  constructor
  · intro same
    by_contra none
    simp only [not_or, not_not, not_exists, not_and] at none
    obtain ⟨different, priority, addresses, values⟩ := none
    have accepted : a.strictMatch b = true := by
      refine (strictMatch_iff_fields a b).mpr ⟨priority, fun f => ?_, addresses⟩
      by_cases both : a.match_.wild f = true ∧ b.match_.wild f = true
      · exact Or.inl both
      · exact Or.inr (values f fun first second => both ⟨first, second⟩)
    exact different (same.mp accepted).wild_eq
  · rintro (wild | differs)
    · exact strictMatch_of_wild_eq wild
    · have refused : ¬ a.strictMatch b = true := by
        rw [strictMatch_iff_fields]
        rintro ⟨priority, values, addresses⟩
        rcases differs with other | other | ⟨f, notBoth, other⟩
        · exact other priority
        · exact other addresses
        · exact other ((values f).resolve_left notBoth)
      exact iff_of_false refused fun same => refused ((strictMatch_of_wild_eq same.wild_eq).mpr same)

def sampleFlow (wildcards : BitVec 32) : Flow :=
  { match_ := { (Datapath.openFlowMod 0).match_ with wildcards := wildcards } }

theorem open_port_strictly_matches :
    (sampleFlow ofpfwAll).strictMatch (sampleFlow (ofpfwAll ^^^ ofpfwInPort)) = true ∧
      ¬ (sampleFlow ofpfwAll).StrictlySame (sampleFlow (ofpfwAll ^^^ ofpfwInPort)) := by
  refine ⟨by decide, fun same => ?_⟩
  exact absurd (same.wild_eq .inPort) (by decide)

/-! ## The non-strict comparison -/

def masked (flow : Flow) : MaskedMatch := ⟨flow.match_, flow.nwSrcMask, flow.nwDstMask⟩

theorem nonStrictMatch_iff_fields (f g : Flow) :
    f.nonStrictMatch g = true ↔
      f.match_.FieldsAgree g.match_ ∧ MaskCovers f.match_.nwSrc f.nwSrcMask g.match_.nwSrc g.nwSrcMask ∧
        MaskCovers f.match_.nwDst f.nwDstMask g.match_.nwDst g.nwDstMask := by
  rw [nonStrictMatch, matchStdNonstrict_iff, nonstrictNw_iff, nonstrictNw_iff, ← Match.fieldsAgree_iff]

theorem pktMatch_subset_iff (f g : Flow) :
    (∀ pkt, g.pktMatch pkt = true → f.pktMatch pkt = true) ↔
      (∀ field, f.match_.wild field = true ∨
        ¬ g.match_.wild field = true ∧ f.match_.value field = g.match_.value field) ∧
      MaskCovers f.match_.nwSrc f.nwSrcMask g.match_.nwSrc g.nwSrcMask ∧
      MaskCovers f.match_.nwDst f.nwDstMask g.match_.nwDst g.nwDstMask :=
  MaskedMatch.accepts_subset_iff f.masked g.masked

theorem nonStrictMatch_correct_iff (f g : Flow) :
    (f.nonStrictMatch g = true ↔ ∀ pkt, g.pktMatch pkt = true → f.pktMatch pkt = true) ↔
      (∀ field, g.match_.wild field = true → f.match_.wild field = true) ∨
        ¬ f.match_.FieldsAgree g.match_ ∨
        ¬ MaskCovers f.match_.nwSrc f.nwSrcMask g.match_.nwSrc g.nwSrcMask ∨
        ¬ MaskCovers f.match_.nwDst f.nwDstMask g.match_.nwDst g.nwDstMask := by
  rw [nonStrictMatch_iff_fields, pktMatch_subset_iff]
  constructor
  · intro same
    by_contra none
    simp only [not_or, not_not] at none
    obtain ⟨wider, agree, addresses⟩ := none
    obtain ⟨fields, -⟩ := same.mp ⟨agree, addresses⟩
    apply wider
    intro field openField
    exact (fields field).resolve_right fun exact_ => exact_.1 openField
  · intro condition
    constructor
    · rintro ⟨agree, src, dst⟩
      refine ⟨fun field => ?_, src, dst⟩
      rcases condition with wider | other | other | other
      · rcases (Match.fieldsAgree_iff _ _).mp agree field with openField | same
        · exact Or.inl openField
        · exact or_iff_not_imp_left.mpr fun exactField =>
            ⟨fun openOther => exactField (wider field openOther), same⟩
      · exact absurd agree other
      · exact absurd src other
      · exact absurd dst other
    · rintro ⟨fields, addresses⟩
      refine ⟨(Match.fieldsAgree_iff _ _).mpr fun field => ?_, addresses⟩
      exact (fields field).imp_right And.right

theorem open_flow_nonstrictly_matches :
    (sampleFlow (ofpfwAll ^^^ ofpfwInPort)).nonStrictMatch (sampleFlow ofpfwAll) = true ∧
      ¬ ∀ pkt, (sampleFlow ofpfwAll).pktMatch pkt = true →
        (sampleFlow (ofpfwAll ^^^ ofpfwInPort)).pktMatch pkt = true := by
  refine ⟨by decide, fun all => ?_⟩
  exact absurd (all { (sampleFlow 0).match_ with inPort := 1 } (by decide)) (by decide)

end Flow

/-! ## The overlap comparison -/

namespace MaskedMatch

def overlap (a b : MaskedMatch) : Bool :=
  matchStdOverlap a.match_ b.match_ a.nwSrcMask b.nwSrcMask a.nwDstMask b.nwDstMask

/-- The second match is inside the first, or the first inside the second. In the second case the bits
of the source mask of the second match stand where those of the destination mask of the first should. -/
def Nested (a b : MaskedMatch) : Prop :=
  (a.match_.FieldsAgree b.match_ ∧ MaskCovers a.match_.nwSrc a.nwSrcMask b.match_.nwSrc b.nwSrcMask ∧
      MaskCovers a.match_.nwDst a.nwDstMask b.match_.nwDst b.nwDstMask) ∨
    (b.match_.FieldsAgree a.match_ ∧ MaskCovers b.match_.nwSrc b.nwSrcMask a.match_.nwSrc a.nwSrcMask ∧
      MaskCovers b.match_.nwDst b.nwDstMask a.match_.nwDst b.nwSrcMask)

theorem overlap_iff (a b : MaskedMatch) : a.overlap b = true ↔ a.Nested b := by
  rw [overlap, matchStdOverlap, Bool.or_eq_true, matchStdNonstrict_iff, matchStdNonstrict_iff]
  simp only [nonstrictNw_iff, ← Match.fieldsAgree_iff]
  rfl

theorem Meets.symm {a b : MaskedMatch} (meets : a.Meets b) : b.Meets a := by
  obtain ⟨fields, src, dst⟩ := meets
  refine ⟨fun f => ?_, ?_, ?_⟩
  · rcases fields f with first | second | same
    · exact Or.inr (Or.inl first)
    · exact Or.inl second
    · exact Or.inr (Or.inr same.symm)
  · rw [BitVec.or_comm]
    exact src.symm
  · rw [BitVec.or_comm]
    exact dst.symm

theorem meets_of_covers {a b : MaskedMatch} {srcMask dstMask : BitVec 32} (agree : a.match_.FieldsAgree b.match_)
    (src : MaskCovers a.match_.nwSrc a.nwSrcMask b.match_.nwSrc srcMask)
    (dst : MaskCovers a.match_.nwDst a.nwDstMask b.match_.nwDst dstMask) : a.Meets b := by
  refine ⟨fun f => ?_, src.agreeUnder b.nwSrcMask, dst.agreeUnder b.nwDstMask⟩
  exact ((Match.fieldsAgree_iff _ _).mp agree f).imp_right Or.inr

theorem Nested.meets {a b : MaskedMatch} (nested : a.Nested b) : a.Meets b := by
  rcases nested with ⟨agree, src, dst⟩ | ⟨agree, src, dst⟩
  · exact meets_of_covers agree src dst
  · exact (meets_of_covers agree src dst).symm

/-- The comparison is right, and the same both ways, exactly where the matches exclude each other or are
nested as it tests it for both orders of its arguments. -/
theorem overlap_correct_iff (a b : MaskedMatch) :
    ((a.overlap b = true ↔ ∃ pkt, a.accepts pkt = true ∧ b.accepts pkt = true) ∧ a.overlap b = b.overlap a) ↔
      ¬ a.Meets b ∨ a.Nested b ∧ b.Nested a := by
  rw [overlap_iff, accepts_common_iff, Bool.eq_iff_iff, overlap_iff, overlap_iff]
  constructor
  · rintro ⟨correct, symmetric⟩
    by_cases meets : a.Meets b
    · have nested := correct.mpr meets
      exact Or.inr ⟨nested, symmetric.mp nested⟩
    · exact Or.inl meets
  · rintro (apart | ⟨first, second⟩)
    · have refused : ¬ a.Nested b := fun nested => apart nested.meets
      have refused' : ¬ b.Nested a := fun nested => apart nested.meets.symm
      exact ⟨iff_of_false refused apart, iff_of_false refused refused'⟩
    · exact ⟨iff_of_true first first.meets, iff_of_true first second⟩

def samplePort : MaskedMatch :=
  ⟨{ (Flow.sampleFlow (ofpfwAll ^^^ ofpfwInPort)).match_ with inPort := 1 }, 0xffffffff, 0xffffffff⟩

def sampleType : MaskedMatch :=
  ⟨{ (Flow.sampleFlow (ofpfwAll ^^^ ofpfwDlType)).match_ with dlType := 0x0800 }, 0xffffffff, 0xffffffff⟩

theorem crossing_matches_overlap :
    samplePort.overlap sampleType = false ∧
      ∃ pkt, samplePort.accepts pkt = true ∧ sampleType.accepts pkt = true :=
  ⟨by decide, { samplePort.match_ with dlType := 0x0800 }, by decide, by decide⟩

-- The first match fixes both addresses, the second the destination only.
example : (⟨samplePort.match_, 0, 0⟩ : MaskedMatch).overlap ⟨samplePort.match_, 0xffffffff, 0⟩ = false ∧
    (⟨samplePort.match_, 0xffffffff, 0⟩ : MaskedMatch).overlap ⟨samplePort.match_, 0, 0⟩ = true := by decide

end MaskedMatch

end Libfluid.Switch
