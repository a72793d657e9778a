import Libfluid.Switch.Headers

namespace Libfluid.Switch
open Library

variable {m : Match} {pkt xs ys : Frame} {index : Nat}

/-! ## Bytes of composed frames -/

theorem byteAt_append_left (inside : index < xs.length) :
    byteAt (xs ++ ys) index = byteAt xs index := by
  rw [byteAt, byteAt, List.getD_eq_getElem?_getD, List.getD_eq_getElem?_getD, List.getElem?_append_left inside]

theorem word16At_append_left (inside : index + 2 ≤ xs.length) :
    word16At (xs ++ ys) index = word16At xs index := by
  rw [word16At, byteAt_append_left (by omega), byteAt_append_left (by omega), word16At]

theorem word32At_append_left (inside : index + 4 ≤ xs.length) :
    word32At (xs ++ ys) index = word32At xs index := by
  rw [word32At, byteAt_append_left (by omega), byteAt_append_left (by omega), byteAt_append_left (by omega),
    byteAt_append_left (by omega), word32At]

theorem ethAddressAt_append_left (inside : index + 6 ≤ xs.length) :
    ethAddressAt (xs ++ ys) index = ethAddressAt xs index := by
  unfold ethAddressAt
  rw [byteAt_append_left (by omega), byteAt_append_left (by omega), byteAt_append_left (by omega),
    byteAt_append_left (by omega), byteAt_append_left (by omega), byteAt_append_left (by omega)]

theorem transportStart_append_left (inside : 14 < xs.length) :
    transportStart (xs ++ ys) = transportStart xs := by
  rw [transportStart, ipIhl, byteAt_append_left inside, transportStart, ipIhl]

theorem byteAt_append_right (xs ys : Frame) (index : Nat) :
    byteAt (xs ++ ys) (xs.length + index) = byteAt ys index := by
  rw [byteAt, byteAt, List.getD_eq_getElem?_getD, List.getD_eq_getElem?_getD,
    List.getElem?_append_right (Nat.le_add_right _ _), Nat.add_sub_cancel_left]

theorem byteAt_take {length : Nat} (inside : index < length) : byteAt (pkt.take length) index = byteAt pkt index := by
  rw [byteAt, byteAt, List.getD_eq_getElem?_getD, List.getD_eq_getElem?_getD, List.getElem?_take_of_lt inside]

theorem byteAt_drop (pkt : Frame) (length index : Nat) :
    byteAt (pkt.drop length) index = byteAt pkt (length + index) := by
  rw [byteAt, byteAt, List.getD_eq_getElem?_getD, List.getD_eq_getElem?_getD, List.getElem?_drop]

def word16Bytes (word : BitVec 16) : List Byte := [word.extractLsb' 8 8, word.extractLsb' 0 8]

theorem append_word16Bytes (word : BitVec 16) : word.extractLsb' 8 8 ++ word.extractLsb' 0 8 = word :=
  BitVec.extractLsb'_append_extractLsb'

/-! ## Tags -/

def vlanTag (tci : BitVec 16) : List Byte := word16Bytes ethTypeVlan ++ word16Bytes tci

def tagged (pkt : Frame) (tcis : List (BitVec 16)) : Frame := pkt.take 12 ++ (tcis.flatMap vlanTag ++ pkt.drop 12)

theorem byteAt_tagged_left (tcis : List (BitVec 16)) (long : ethHeaderLen ≤ pkt.length) (inside : index < 12) :
    byteAt (tagged pkt tcis) index = byteAt pkt index := by
  simp only [ethHeaderLen] at long
  have addresses : index < (pkt.take 12).length := by
    rw [List.length_take]
    omega
  rw [tagged, byteAt_append_left addresses, byteAt_take inside]

theorem byteAt_tagged_right (tcis : List (BitVec 16)) (long : ethHeaderLen ≤ pkt.length) (index : Nat) :
    byteAt (tagged pkt tcis) (12 + index) = byteAt (tcis.flatMap vlanTag ++ pkt.drop 12) index := by
  simp only [ethHeaderLen] at long
  have addresses : (pkt.take 12).length = 12 := by
    rw [List.length_take]
    omega
  have right : byteAt (tagged pkt tcis) ((pkt.take 12).length + index) = _ := byteAt_append_right _ _ index
  rwa [addresses] at right

theorem word16At_tagged_right (tcis : List (BitVec 16)) (long : ethHeaderLen ≤ pkt.length) (index : Nat) :
    word16At (tagged pkt tcis) (12 + index) = word16At (tcis.flatMap vlanTag ++ pkt.drop 12) index := by
  have second : byteAt (tagged pkt tcis) (12 + index + 1) = _ := byteAt_tagged_right tcis long (index + 1)
  rw [word16At, byteAt_tagged_right tcis long, second, word16At]

theorem word16At_tagged_type (tci : BitVec 16) (inner : List (BitVec 16)) (long : ethHeaderLen ≤ pkt.length) :
    word16At (tagged pkt (tci :: inner)) 12 = ethTypeVlan := by
  have right : word16At (tagged pkt (tci :: inner)) 12 = _ := word16At_tagged_right (tci :: inner) long 0
  rw [right]
  exact append_word16Bytes ethTypeVlan

theorem word16At_tagged_tci (tci : BitVec 16) (inner : List (BitVec 16)) (long : ethHeaderLen ≤ pkt.length) :
    word16At (tagged pkt (tci :: inner)) 14 = tci := by
  have right : word16At (tagged pkt (tci :: inner)) 14 = _ := word16At_tagged_right (tci :: inner) long 2
  rw [right]
  exact append_word16Bytes tci

theorem word16At_tagged_next (tci : BitVec 16) (inner : List (BitVec 16)) (long : ethHeaderLen ≤ pkt.length) :
    word16At (tagged pkt (tci :: inner)) 16 = if inner = [] then word16At pkt 12 else ethTypeVlan := by
  have right : word16At (tagged pkt (tci :: inner)) 16 = _ := word16At_tagged_right (tci :: inner) long 4
  rw [right]
  cases inner with
  | nil =>
      rw [if_pos rfl, word16At, word16At, ← byteAt_drop pkt 12 0, ← byteAt_drop pkt 12 1]
      rfl
  | cons next rest =>
      rw [if_neg (List.cons_ne_nil next rest)]
      exact append_word16Bytes ethTypeVlan

theorem ethAddressAt_tagged (tcis : List (BitVec 16)) (long : ethHeaderLen ≤ pkt.length) {start : Nat}
    (inside : start + 6 ≤ 12) : ethAddressAt (tagged pkt tcis) start = ethAddressAt pkt start := by
  unfold ethAddressAt
  rw [byteAt_tagged_left tcis long (by omega), byteAt_tagged_left tcis long (by omega),
    byteAt_tagged_left tcis long (by omega), byteAt_tagged_left tcis long (by omega),
    byteAt_tagged_left tcis long (by omega), byteAt_tagged_left tcis long (by omega)]

theorem length_tagged (tci : BitVec 16) (inner : List (BitVec 16)) (long : ethHeaderLen ≤ pkt.length) :
    ethHeaderLen + vlanHeaderLen ≤ (tagged pkt (tci :: inner)).length := by
  simp only [ethHeaderLen, vlanHeaderLen] at *
  simp [tagged, vlanTag, word16Bytes]
  omega

def upperFields : List Field := [.nwTos, .nwProto, .tpSrc, .tpDst]

def TransportKnown (m : Match) (pkt : Frame) (proto : Byte) (offset : Nat) : Prop :=
  (proto = ipTypeIcmp → offset + icmpHeaderLen ≤ pkt.length →
    (byteAt pkt offset).setWidth 16 = m.tpSrc ∧ (byteAt pkt (offset + 1)).setWidth 16 = m.tpDst) ∧
  (proto = ipTypeTcp → offset + tcpHeaderLen ≤ pkt.length →
    word16At pkt offset = m.tpSrc ∧ word16At pkt (offset + 2) = m.tpDst) ∧
  (proto = ipTypeUdp → offset + udpHeaderLen ≤ pkt.length →
    word16At pkt offset = m.tpSrc ∧ word16At pkt (offset + 2) = m.tpDst)

/-- The network layer of the frame has no header, a truncated one, or one that says what the match holds
already. -/
def NetworkKnown (m : Match) (pkt : Frame) : Prop :=
  (word16At pkt 12 = ethTypeArp → ethHeaderLen + arpEthHeaderLen ≤ pkt.length →
    word32At pkt 28 = m.nwSrc ∧ word32At pkt 38 = m.nwDst ∧ byteAt pkt 21 = m.nwProto) ∧
  (word16At pkt 12 = ethTypeIp → ethHeaderLen + ipHeaderLen ≤ pkt.length →
    word32At pkt 26 = m.nwSrc ∧ word32At pkt 30 = m.nwDst ∧ byteAt pkt 23 = m.nwProto ∧
      byteAt pkt 15 >>> 2 = m.nwTos ∧
      (fragmentAt pkt 20 = false → TransportKnown m pkt (byteAt pkt 23) 34))

instance (m : Match) (pkt : Frame) (proto : Byte) (offset : Nat) : Decidable (TransportKnown m pkt proto offset) :=
  inferInstanceAs (Decidable (_ ∧ _ ∧ _))

instance (m : Match) (pkt : Frame) : Decidable (NetworkKnown m pkt) :=
  inferInstanceAs (Decidable (_ ∧ _))

theorem agreeOn_upperFields {a b : Match} :
    Match.AgreeOn upperFields a b ↔
      a.nwSrc = b.nwSrc ∧ a.nwDst = b.nwDst ∧ a.nwProto = b.nwProto ∧ a.nwTos = b.nwTos ∧
        a.tpSrc = b.tpSrc ∧ a.tpDst = b.tpDst := by
  simp only [Match.AgreeOn, upperFields, List.forall_mem_cons, Match.value]
  constructor
  · rintro ⟨⟨tos, proto, srcPort, dstPort, -⟩, src, dst⟩
    exact ⟨src, dst, proto, tos, srcPort, dstPort⟩
  · rintro ⟨src, dst, proto, tos, srcPort, dstPort⟩
    exact ⟨⟨tos, proto, srcPort, dstPort, List.forall_mem_nil _⟩, src, dst⟩

theorem ports_known {length need : Nat} {tpSrc tpDst : BitVec 16} :
    (need ≤ length → tpSrc = m.tpSrc ∧ tpDst = m.tpDst) ↔
      m.tpSrc = (if length < need then m else { m with tpSrc := tpSrc, tpDst := tpDst }).tpSrc ∧
        m.tpDst = (if length < need then m else { m with tpSrc := tpSrc, tpDst := tpDst }).tpDst := by
  split_ifs with short
  · simp [Nat.not_le.mpr short]
  · simp [Nat.le_of_not_lt short, eq_comm]

theorem transportKnown_iff {proto : Byte} {offset : Nat} :
    TransportKnown m pkt proto offset ↔
      m.tpSrc = (transportFields m pkt proto offset).tpSrc ∧ m.tpDst = (transportFields m pkt proto offset).tpDst := by
  unfold transportFields TransportKnown
  by_cases icmp : proto = ipTypeIcmp
  · have others : proto ≠ ipTypeTcp ∧ proto ≠ ipTypeUdp := by
      rw [icmp]
      decide
    rw [if_pos icmp, forall_prop_of_true icmp, forall_prop_of_false others.1, forall_prop_of_false others.2,
      and_self, and_true]
    exact ports_known
  rw [if_neg icmp, forall_prop_of_false icmp, true_and]
  by_cases tcp : proto = ipTypeTcp
  · have other : proto ≠ ipTypeUdp := by
      rw [tcp]
      decide
    rw [if_pos tcp, forall_prop_of_true tcp, forall_prop_of_false other, and_true]
    exact ports_known
  rw [if_neg tcp, forall_prop_of_false tcp, true_and]
  by_cases udp : proto = ipTypeUdp
  · rw [if_pos udp, forall_prop_of_true udp]
    exact ports_known
  · rw [if_neg udp, forall_prop_of_false udp]
    simp

theorem transportFields_eq {proto : Byte} {offset : Nat} :
    transportFields m pkt proto offset =
      { m with tpSrc := (transportFields m pkt proto offset).tpSrc
               tpDst := (transportFields m pkt proto offset).tpDst } := by
  unfold transportFields
  split_ifs <;> rfl

theorem ipKnown_iff {src dst : BitVec 32} {proto tos : Byte} {start : Nat} (fragment : Bool) :
    (src = m.nwSrc ∧ dst = m.nwDst ∧ proto = m.nwProto ∧ tos = m.nwTos ∧
        (fragment = false → TransportKnown m pkt proto start)) ↔
      Match.AgreeOn upperFields m
        (if fragment then { m with nwSrc := src, nwDst := dst, nwProto := proto, nwTos := tos }
        else
          transportFields { m with nwSrc := src, nwDst := dst, nwProto := proto, nwTos := tos } pkt proto start) := by
  rw [agreeOn_upperFields]
  cases fragment with
  | true =>
      refine and_congr eq_comm (and_congr eq_comm (and_congr eq_comm (and_congr eq_comm ?_)))
      simp
  | false =>
      have known : TransportKnown m pkt proto start ↔ _ :=
        transportKnown_iff (m := { m with nwSrc := src, nwDst := dst, nwProto := proto, nwTos := tos })
      rw [if_neg Bool.false_ne_true, forall_prop_of_true rfl, transportFields_eq, known]
      exact and_congr eq_comm (and_congr eq_comm (and_congr eq_comm (and_congr eq_comm Iff.rfl)))

theorem networkKnown_iff :
    NetworkKnown m pkt ↔ Match.AgreeOn upperFields m (networkFields m pkt (word16At pkt 12) ethHeaderLen) := by
  unfold networkFields NetworkKnown
  by_cases arp : word16At pkt 12 = ethTypeArp
  · have other : word16At pkt 12 ≠ ethTypeIp := by
      rw [arp]
      decide
    rw [if_pos arp, forall_prop_of_true arp, forall_prop_of_false other, and_true]
    by_cases short : pkt.length < ethHeaderLen + arpEthHeaderLen
    · rw [if_pos short, forall_prop_of_false (Nat.not_le.mpr short)]
      simp
    · rw [if_neg short, forall_prop_of_true (Nat.le_of_not_lt short), agreeOn_upperFields]
      refine and_congr eq_comm (and_congr eq_comm ?_)
      simp [ethHeaderLen, eq_comm]
  rw [if_neg arp, forall_prop_of_false arp, true_and]
  by_cases ip : word16At pkt 12 = ethTypeIp
  · rw [if_pos ip, forall_prop_of_true ip]
    by_cases short : pkt.length < ethHeaderLen + ipHeaderLen
    · rw [if_pos short, forall_prop_of_false (Nat.not_le.mpr short)]
      simp
    · rw [if_neg short, forall_prop_of_true (Nat.le_of_not_lt short)]
      exact ipKnown_iff (fragmentAt pkt 20)
  · rw [if_neg ip, forall_prop_of_false ip]
    simp

theorem networkFields_keeps (m : Match) (pkt : Frame) (ethType : BitVec 16) (offset : Nat) :
    (networkFields m pkt ethType offset).dlSrc = m.dlSrc ∧ (networkFields m pkt ethType offset).dlDst = m.dlDst ∧
      (networkFields m pkt ethType offset).dlType = m.dlType := by
  unfold networkFields
  split_ifs
  · exact ⟨rfl, rfl, rfl⟩
  · exact ⟨rfl, rfl, rfl⟩
  · exact ⟨rfl, rfl, rfl⟩
  · exact ⟨rfl, rfl, rfl⟩
  · rw [transportFields_eq]
    exact ⟨rfl, rfl, rfl⟩
  · exact ⟨rfl, rfl, rfl⟩

/-- The tags of a frame show in the two tag fields only, which the outermost tag sets. -/
def VlanTransparent (m : Match) (pkt : Frame) (tci : BitVec 16) (inner : List (BitVec 16)) : Prop :=
  ∃ plain r, extractFlowFields m pkt = .ok plain ∧ extractFlowFields m (tagged pkt (tci :: inner)) = .ok r ∧
    Match.AgreeOn (.dlSrc :: .dlDst :: .dlType :: upperFields) r plain ∧ r.dlVlan = tci &&& 0x0fff ∧
    r.dlVlanPcp = ((tci &&& 0xe000) >>> 13).setWidth 8

theorem agreeOn_cons {f : Field} {fields : List Field} {a b : Match} :
    Match.AgreeOn (f :: fields) a b ↔ a.value f = b.value f ∧ Match.AgreeOn fields a b := by
  rw [Match.AgreeOn, List.forall_mem_cons, and_assoc]
  rfl

theorem agreeOn_tagged (tci : BitVec 16) (inner : List (BitVec 16)) (long : ethHeaderLen ≤ pkt.length)
    (untagged : word16At pkt 12 ≠ ethTypeVlan) :
    Match.AgreeOn (.dlSrc :: .dlDst :: .dlType :: upperFields)
      (tagFields (linkFields m (tagged pkt (tci :: inner)) ethTypeVlan) (tagged pkt (tci :: inner)) ethHeaderLen)
      (networkFields { linkFields m pkt (word16At pkt 12) with dlVlan := 0xffff } pkt (word16At pkt 12)
        ethHeaderLen) ↔ inner = [] ∧ NetworkKnown m pkt := by
  obtain ⟨src, dst, type⟩ := networkFields_keeps
    { linkFields m pkt (word16At pkt 12) with dlVlan := 0xffff } pkt (word16At pkt 12) ethHeaderLen
  rw [agreeOn_cons, agreeOn_cons, agreeOn_cons, agreeOn_upperFields]
  simp only [Match.value, tagFields, linkFields] at src dst type ⊢
  rw [src, dst, type]
  have known : NetworkKnown m pkt ↔ _ :=
    networkKnown_iff (m := { linkFields m pkt (word16At pkt 12) with dlVlan := 0xffff })
  rw [agreeOn_upperFields] at known
  have next : word16At (tagged pkt (tci :: inner)) (ethHeaderLen + 2) = _ := word16At_tagged_next tci inner long
  have single : word16At (tagged pkt (tci :: inner)) (ethHeaderLen + 2) = word16At pkt 12 ↔ inner = [] := by
    rw [next]
    split_ifs with only
    · simp [only]
    · simp [only, untagged.symm]
  rw [ethAddressAt_tagged _ long (by omega), ethAddressAt_tagged _ long (by omega), single,
    and_iff_right rfl, and_iff_right rfl]
  exact and_congr_right' known.symm

theorem vlanTransparent_iff (m : Match) (pkt : Frame) (tci : BitVec 16) (inner : List (BitVec 16))
    (long : ethHeaderLen ≤ pkt.length) (type : ethTypeIIStart ≤ word16At pkt 12)
    (untagged : word16At pkt 12 ≠ ethTypeVlan) :
    VlanTransparent m pkt tci inner ↔ inner = [] ∧ NetworkKnown m pkt := by
  have plain : extractFlowFields m pkt = _ := extractFlowFields_untagged long type untagged
  have run : extractFlowFields m (tagged pkt (tci :: inner)) = _ :=
    extractFlowFields_tagged (length_tagged tci inner long) (word16At_tagged_type tci inner long)
  have outermost : word16At (tagged pkt (tci :: inner)) ethHeaderLen = tci := word16At_tagged_tci tci inner long
  rw [← agreeOn_tagged tci inner long untagged]
  constructor
  · rintro ⟨plain', r, plainRun, taggedRun, agree, -⟩
    rw [plain] at plainRun
    rw [run] at taggedRun
    cases plainRun
    cases taggedRun
    exact agree
  · intro agree
    refine ⟨_, _, plain, run, agree, ?_, ?_⟩
    · exact congrArg (fun word => word &&& vlanVidMask) outermost
    · exact congrArg (fun word => ((word &&& vlanPcpMask) >>> vlanPcpShift).setWidth 8) outermost

theorem tagged_blank_frame_transparent :
    VlanTransparent freshMatch ([2, 0, 0, 0, 0, 2, 2, 0, 0, 0, 0, 1] ++ [0x88, 0xcc, 0]) 0x6005 [] :=
  (vlanTransparent_iff freshMatch ([2, 0, 0, 0, 0, 2, 2, 0, 0, 0, 0, 1] ++ [0x88, 0xcc, 0]) 0x6005 []
    (by decide) (by decide) (by decide)).mpr ⟨rfl, by decide⟩

theorem tag_hides_segment : ¬ VlanTransparent freshMatch (sampleSegment 0x45 []) 5 [] := by
  rintro ⟨plain, r, plainRun, taggedRun, agree, -⟩
  rw [extractFlowFields_untagged (by decide) (by decide) (by decide)] at plainRun
  rw [extractFlowFields_tagged (by decide) (by decide)] at taggedRun
  cases plainRun
  cases taggedRun
  have source := agree.2.1
  exact absurd source (by decide)

/-! ## SNAP -/

def EthAddress.bytes (a : EthAddress) : List Byte := [a.octet0, a.octet1, a.octet2, a.octet3, a.octet4, a.octet5]

def ethernetIIFrame (dst src : EthAddress) (type : BitVec 16) (payload : List Byte) : Frame :=
  dst.bytes ++ src.bytes ++ word16Bytes type ++ payload

def snapFrame (dst src : EthAddress) (length type : BitVec 16) (payload : List Byte) : Frame :=
  dst.bytes ++ src.bytes ++ word16Bytes length ++ [llcDsapSnap, llcSsapSnap, llcCntlSnap] ++ [0, 0, 0] ++
    word16Bytes type ++ payload

theorem length_snapFrame (dst src : EthAddress) (length type : BitVec 16) (payload : List Byte) :
    (snapFrame dst src length type payload).length = payload.length + 22 := by
  simp [snapFrame, EthAddress.bytes, word16Bytes]

theorem extractEthernet_snap (dst src : EthAddress) (length type : BitVec 16) (payload : List Byte)
    (short : ¬ ethTypeIIStart ≤ length) :
    extractEthernet m (snapFrame dst src length type payload) length =
      .ok ({ m with dlSrc := dst, dlType := length }, some 22) := by
  have size := length_snapFrame dst src length type payload
  have llc : ¬ (snapFrame dst src length type payload).length < ethHeaderLen + llcHeaderLen := by
    simp only [ethHeaderLen, llcHeaderLen]
    omega
  have snap : ¬ (snapFrame dst src length type payload).length < ethHeaderLen + llcHeaderLen + snapHeaderLen := by
    simp only [ethHeaderLen, llcHeaderLen, snapHeaderLen]
    omega
  have dsap : readByte (snapFrame dst src length type payload) ethHeaderLen = .ok llcDsapSnap := rfl
  have ssap : readByte (snapFrame dst src length type payload) (ethHeaderLen + 1) = .ok llcSsapSnap := rfl
  have cntl : readByte (snapFrame dst src length type payload) (ethHeaderLen + 2) = .ok llcCntlSnap := rfl
  have org₀ : readByte (snapFrame dst src length type payload) (ethHeaderLen + llcHeaderLen) = .ok 0 := rfl
  have org₁ : readByte (snapFrame dst src length type payload) (ethHeaderLen + llcHeaderLen + 1) = .ok 0 := rfl
  have org₂ : readByte (snapFrame dst src length type payload) (ethHeaderLen + llcHeaderLen + 2) = .ok 0 := rfl
  have ethSrc : readEthAddress (snapFrame dst src length type payload) 6 = .ok src := rfl
  have ethDst : readEthAddress (snapFrame dst src length type payload) 0 = .ok dst := rfl
  rw [extractEthernet, if_neg short, if_neg llc, dsap, ssap, cntl]
  simp only [ok_bind]
  rw [if_neg (by decide), if_neg snap, org₀, org₁, org₂]
  simp only [ok_bind]
  rw [if_neg (by decide), ethSrc, ethDst]
  rfl

theorem extractFlowFields_snap (dst src : EthAddress) (length type : BitVec 16) (payload : List Byte)
    (short : ¬ ethTypeIIStart ≤ length) :
    extractFlowFields m (snapFrame dst src length type payload) =
      .ok { m with dlSrc := dst, dlType := length, dlVlan := 0xffff } := by
  have size := length_snapFrame dst src length type payload
  have field : word16At (snapFrame dst src length type payload) 12 = length := append_word16Bytes length
  have other {type : BitVec 16} (typeII : ethTypeIIStart ≤ type) : length ≠ type := by
    rintro rfl
    exact short typeII
  have header : ¬ (snapFrame dst src length type payload).length < ethHeaderLen := by
    simp only [ethHeaderLen]
    omega
  have read : read16 (snapFrame dst src length type payload) 12 = _ := read16_eq (by omega)
  rw [extractFlowFields, if_neg header, read]
  show extractEthernet m _ (ntoh16 (load16 _ _)) >>= _ = _
  rw [ntoh16_load16, field, extractEthernet_snap dst src length type payload short]
  show extractVlan _ _ length 22 >>= _ = _
  rw [extractVlan_untagged (other (by decide))]
  show extractNetwork _ _ length 22 = _
  rw [extractNetwork_eq, networkFields, if_neg (other (by decide)), if_neg (other (by decide))]

def EncapsulationIndependent (m : Match) (dst src : EthAddress) (length type : BitVec 16) (payload : List Byte) :
    Prop :=
  ∃ r plain, extractFlowFields m (snapFrame dst src length type payload) = .ok r ∧
    extractFlowFields m (ethernetIIFrame dst src type payload) = .ok plain ∧
    Match.AgreeOn (.dlSrc :: .dlDst :: .dlType :: .dlVlan :: upperFields) r plain

theorem not_encapsulationIndependent (m : Match) (dst src : EthAddress) (length type : BitVec 16)
    (payload : List Byte) (short : length < 0x0600) (typeII : 0x0600 ≤ type) (untagged : type ≠ ethTypeVlan) :
    ¬ EncapsulationIndependent m dst src length type payload := by
  rintro ⟨r, plain, run, plainRun, agree⟩
  have field : word16At (ethernetIIFrame dst src type payload) 12 = type := append_word16Bytes type
  have size : ethHeaderLen ≤ (ethernetIIFrame dst src type payload).length := by
    simp [ethernetIIFrame, EthAddress.bytes, word16Bytes, ethHeaderLen]
  rw [extractFlowFields_untagged size (by rwa [field]) (by rwa [field])] at plainRun
  rw [extractFlowFields_snap dst src length type payload (BitVec.not_le.mpr short)] at run
  cases run
  cases plainRun
  have types : length = _ := agree.1 .dlType (by simp)
  simp only [Match.value] at types
  rw [(networkFields_keeps _ _ _ _).2.2] at types
  have same : length = type := types.trans field
  rw [same] at short
  exact absurd typeII (BitVec.not_le.mpr short)

theorem snap_frame_differs : ¬ EncapsulationIndependent freshMatch ⟨2, 0, 0, 0, 0, 2⟩ ⟨2, 0, 0, 0, 0, 1⟩ 9 0x0800 [0] :=
  not_encapsulationIndependent freshMatch ⟨2, 0, 0, 0, 0, 2⟩ ⟨2, 0, 0, 0, 0, 1⟩ 9 0x0800 [0] (by decide) (by decide)
    (by decide)

theorem snap_destination_lost :
    ¬ EncapsulationIndependent freshMatch ⟨2, 0, 0, 0, 0, 2⟩ ⟨2, 0, 0, 0, 0, 1⟩ 8 0x88cc [] := by
  rintro ⟨r, plain, run, plainRun, agree⟩
  rw [extractFlowFields_snap _ _ _ _ _ (by decide)] at run
  rw [extractFlowFields_untagged (by decide) (by decide) (by decide)] at plainRun
  cases run
  cases plainRun
  have destination := agree.1 .dlDst (by decide)
  exact absurd destination (by decide)

end Libfluid.Switch
