import Libfluid.Switch.Decoding

namespace Libfluid.Switch
open Library

variable {m : Match} {pkt : Frame}

def Field.all : List Field :=
  [.inPort, .dlSrc, .dlDst, .dlVlan, .dlVlanPcp, .dlType, .nwTos, .nwProto, .tpSrc, .tpDst]

def Match.AgreeOn (fields : List Field) (a b : Match) : Prop :=
  (∀ f ∈ fields, a.value f = b.value f) ∧ a.nwSrc = b.nwSrc ∧ a.nwDst = b.nwDst

@[simp] theorem Match.agreeOn_self (fields : List Field) (m : Match) : Match.AgreeOn fields m m :=
  ⟨fun _ _ => rfl, rfl, rfl⟩

/-! ## What the headers say -/

def ipIhl (pkt : Frame) : Nat := (byteAt pkt 14 &&& 15).toNat

def transportStart (pkt : Frame) : Nat := 14 + 4 * ipIhl pkt

def transportHeaderLen (proto : Byte) : Nat :=
  if proto = ipTypeIcmp then icmpHeaderLen
  else if proto = ipTypeTcp then tcpHeaderLen
  else if proto = ipTypeUdp then udpHeaderLen
  else 0

structure CompleteHeaders (pkt : Frame) : Prop where
  ethernet : ethHeaderLen ≤ pkt.length
  typeII : ethTypeIIStart ≤ word16At pkt 12
  untagged : word16At pkt 12 ≠ ethTypeVlan
  arp : word16At pkt 12 = ethTypeArp → ethHeaderLen + arpEthHeaderLen ≤ pkt.length
  ip : word16At pkt 12 = ethTypeIp → 5 ≤ ipIhl pkt ∧ transportStart pkt ≤ pkt.length
  transport : word16At pkt 12 = ethTypeIp → fragmentAt pkt 20 = false →
    transportStart pkt + transportHeaderLen (byteAt pkt 23) ≤ pkt.length

def transportHeaderFields (m : Match) (pkt : Frame) (proto : Byte) (start : Nat) : Match :=
  if proto = ipTypeIcmp then
    { m with tpSrc := (byteAt pkt start).setWidth 16, tpDst := (byteAt pkt (start + 1)).setWidth 16 }
  else if proto = ipTypeTcp ∨ proto = ipTypeUdp then
    { m with tpSrc := word16At pkt start, tpDst := word16At pkt (start + 2) }
  else m

def networkHeaderFields (m : Match) (pkt : Frame) : Match :=
  if word16At pkt 12 = ethTypeArp then
    { m with nwSrc := word32At pkt 28, nwDst := word32At pkt 38, nwProto := byteAt pkt 21 }
  else if word16At pkt 12 = ethTypeIp then
    let m := { m with nwSrc := word32At pkt 26, nwDst := word32At pkt 30, nwProto := byteAt pkt 23,
                      nwTos := byteAt pkt 15 >>> 2 }
    if fragmentAt pkt 20 then m
    else transportHeaderFields m pkt (byteAt pkt 23) (transportStart pkt)
  else m

def headerFields (m : Match) (pkt : Frame) : Match :=
  networkHeaderFields
    { m with dlSrc := ethAddressAt pkt 6, dlDst := ethAddressAt pkt 0, dlType := word16At pkt 12,
             dlVlan := 0xffff } pkt

/-! ## What the decoder finds -/

def DecodesHeaders (m : Match) (pkt : Frame) : Prop :=
  ∃ r, extractFlowFields m pkt = .ok r ∧ Match.AgreeOn Field.all r (headerFields m pkt)

def SameTransport (pkt : Frame) (proto : Byte) (start start' : Nat) : Prop :=
  (proto = ipTypeIcmp → byteAt pkt start = byteAt pkt start' ∧ byteAt pkt (start + 1) = byteAt pkt (start' + 1)) ∧
    (proto = ipTypeTcp ∨ proto = ipTypeUdp →
      word16At pkt start = word16At pkt start' ∧ word16At pkt (start + 2) = word16At pkt (start' + 2))

/-- The bytes at 34 are those of the transport header. -/
def TransportInPlace (pkt : Frame) : Prop :=
  word16At pkt 12 = ethTypeIp → fragmentAt pkt 20 = false →
    SameTransport pkt (byteAt pkt 23) 34 (transportStart pkt)

theorem transportInPlace_of_no_options (plain : ipIhl pkt = 5) : TransportInPlace pkt := by
  have start : transportStart pkt = 34 := by rw [transportStart, plain]
  intro ip whole
  rw [start]
  exact ⟨fun _ => ⟨rfl, rfl⟩, fun _ => ⟨rfl, rfl⟩⟩

theorem agreeOn_transport {tpSrc tpDst tpSrc' tpDst' : BitVec 16} :
    Match.AgreeOn Field.all { m with tpSrc := tpSrc, tpDst := tpDst } { m with tpSrc := tpSrc', tpDst := tpDst' } ↔
      tpSrc = tpSrc' ∧ tpDst = tpDst' := by
  simp [Match.AgreeOn, Field.all, Match.value]

theorem agreeOn_transportFields {proto : Byte} {offset start : Nat} (later : offset ≤ start)
    (complete : start + transportHeaderLen proto ≤ pkt.length) :
    Match.AgreeOn Field.all (transportFields m pkt proto offset) (transportHeaderFields m pkt proto start) ↔
      SameTransport pkt proto offset start := by
  unfold transportFields transportHeaderFields SameTransport
  unfold transportHeaderLen at complete
  by_cases icmp : proto = ipTypeIcmp
  · rw [if_pos icmp] at complete
    rw [if_pos icmp, if_pos icmp, if_neg (by omega), agreeOn_transport, setWidth_inj, setWidth_inj]
    simp [icmp, ipTypeIcmp, ipTypeTcp, ipTypeUdp]
  rw [if_neg icmp] at complete
  rw [if_neg icmp, if_neg icmp]
  by_cases tcp : proto = ipTypeTcp
  · rw [if_pos tcp] at complete
    rw [if_pos tcp, if_neg (by omega), if_pos (Or.inl tcp), agreeOn_transport,
      and_iff_right fun same => absurd same icmp, forall_prop_of_true (Or.inl tcp)]
  rw [if_neg tcp] at complete
  rw [if_neg tcp]
  by_cases udp : proto = ipTypeUdp
  · rw [if_pos udp] at complete
    rw [if_pos udp, if_neg (by omega), if_pos (Or.inr udp), agreeOn_transport,
      and_iff_right fun same => absurd same icmp, forall_prop_of_true (Or.inr udp)]
  · rw [if_neg udp, if_neg (by simp [tcp, udp])]
    simp [icmp, tcp, udp]

theorem agreeOn_networkFields (complete : CompleteHeaders pkt) :
    Match.AgreeOn Field.all (networkFields m pkt (word16At pkt 12) ethHeaderLen) (networkHeaderFields m pkt) ↔
      TransportInPlace pkt := by
  unfold networkFields networkHeaderFields TransportInPlace
  by_cases arp : word16At pkt 12 = ethTypeArp
  · rw [if_pos arp, if_neg (Nat.not_lt.mpr (complete.arp arp)), if_pos arp]
    apply iff_of_true
    · exact Match.agreeOn_self _ _
    · intro ip
      rw [arp] at ip
      exact absurd ip (by decide)
  rw [if_neg arp, if_neg arp]
  by_cases ip : word16At pkt 12 = ethTypeIp
  · obtain ⟨words, header⟩ := complete.ip ip
    have later : ethHeaderLen + ipHeaderLen ≤ transportStart pkt := by
      simp only [transportStart, ethHeaderLen, ipHeaderLen]
      omega
    rw [if_pos ip, if_neg (Nat.not_lt.mpr (later.trans header)), if_pos ip]
    by_cases fragment : fragmentAt pkt 20 = true
    · have fragment' : fragmentAt pkt (ethHeaderLen + 6) = true := fragment
      rw [if_pos fragment', if_pos fragment]
      apply iff_of_true
      · exact Match.agreeOn_self _ _
      · intro _ whole
        exact absurd whole (by simp [fragment])
    · have fragment' : ¬ fragmentAt pkt (ethHeaderLen + 6) = true := fragment
      rw [if_neg fragment', if_neg fragment]
      rw [Bool.not_eq_true] at fragment
      rw [forall_prop_of_true ip, forall_prop_of_true fragment]
      exact agreeOn_transportFields later (complete.transport ip fragment)
  · rw [if_neg ip, if_neg ip]
    apply iff_of_true
    · exact Match.agreeOn_self _ _
    · intro ip'
      exact absurd ip' ip

/-- An unfragmented packet of a known protocol with options is decoded only where the bytes that the decoder
takes for the transport header happen to be its own. -/
theorem decodesHeaders_iff (m : Match) (pkt : Frame) (complete : CompleteHeaders pkt) :
    DecodesHeaders m pkt ↔ TransportInPlace pkt := by
  have result : extractFlowFields m pkt = _ :=
    extractFlowFields_untagged complete.ethernet complete.typeII complete.untagged
  rw [DecodesHeaders, result]
  simp only [Except.ok.injEq, exists_eq_left']
  exact agreeOn_networkFields complete

def freshMatch : Match :=
  { wildcards := ofpfwAll, inPort := 0, dlSrc := ⟨0, 0, 0, 0, 0, 0⟩, dlDst := ⟨0, 0, 0, 0, 0, 0⟩, dlVlan := 0,
    dlVlanPcp := 0, dlType := 0, nwTos := 0, nwProto := 0, nwSrc := 0, nwDst := 0, tpSrc := 0, tpDst := 0 }

def sampleSegment (ihlVer : Byte) (options : List Byte) : Frame :=
  [2, 0, 0, 0, 0, 2, 2, 0, 0, 0, 0, 1, 8, 0] ++
    [ihlVer, 0, 0, 28, 0, 1, 0, 0, 64, 17, 0, 0, 10, 0, 0, 1, 10, 0, 0, 2] ++ options ++
    [3, 0xe8, 0, 53, 0, 8, 0, 0]

theorem plain_segment_decoded : DecodesHeaders freshMatch (sampleSegment 0x45 []) :=
  (decodesHeaders_iff freshMatch (sampleSegment 0x45 [])
    ⟨by decide, by decide, by decide, by decide, by decide, by decide⟩).mpr
    (transportInPlace_of_no_options (by decide))

theorem option_read_as_ports :
    CompleteHeaders (sampleSegment 0x46 [0x94, 4, 0, 0]) ∧
      ¬ DecodesHeaders freshMatch (sampleSegment 0x46 [0x94, 4, 0, 0]) := by
  refine ⟨⟨by decide, by decide, by decide, by decide, by decide, by decide⟩, ?_⟩
  rintro ⟨r, run, same, -⟩
  rw [extractFlowFields_untagged (by decide) (by decide) (by decide)] at run
  cases run
  have port := same .tpSrc (by decide)
  exact absurd port (by decide)

end Libfluid.Switch
