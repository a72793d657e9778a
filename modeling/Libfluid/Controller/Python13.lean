import Libfluid.Library.LastWriter
import Libfluid.Controller.Bindings

namespace Libfluid.Controller
open Library Switch

namespace PythonLearningSwitch13

abbrev Tables := Std.HashMap Nat (Std.HashMap Frame (BitVec 32))

inductive Input
  | packetIn (pi : PacketIn13)
  | featuresReply
deriving DecidableEq, Repr

structure Arrival where
  connection : Nat
  input : Input
deriving DecidableEq, Repr

def ethAddress (mac : Frame) : EthAddress :=
  ⟨mac.getD 0 0, mac.getD 1 0, mac.getD 2 0, mac.getD 3 0, mac.getD 4 0, mac.getD 5 0⟩

def flood (pi : PacketIn13) (port : BitVec 32) : Message :=
  .packetOut13
    { xid := pi.xid
      bufferId := pi.bufferId
      inPort := port
      -- The script compares an unsigned number with -1.
      data := if (pi.bufferId.toNat : Int) = -1 then pi.data else []
      actions := [⟨0xfffffffb, 1024⟩] }

def installFlowMod (pi : PacketIn13) (dlSrc dlDst : Frame) (port : BitVec 32) : Message :=
  .flowMod13
    { xid := pi.xid
      cookie := 123
      cookieMask := 0xffffffffffffffff
      tableId := 0
      command := .add
      -- The constructor takes the timeouts before the priority.
      idleTimeout := 5
      hardTimeout := 60
      priority := 300
      bufferId := pi.bufferId
      outPort := 0
      outGroup := 0
      flags := 0
      ethSrc := some (ethAddress dlSrc)
      ethDst := some (ethAddress dlDst)
      applyActions := [⟨port, 1024⟩] }

def installDefaultFlowMod : Message :=
  .flowMod13
    { xid := 42
      cookie := 0
      cookieMask := 0xffffffffffffffff
      tableId := 0
      command := .add
      idleTimeout := 0
      hardTimeout := 0
      priority := 0
      bufferId := 0xffffffff
      outPort := 0
      outGroup := 0
      flags := 0
      ethSrc := none
      ethDst := none
      applyActions := [⟨0xfffffffd, 0xffff⟩] }

def messageCallback (table : Tables) (connection : Nat) : Input → Tables × List Message
  | .featuresReply => (table, [installDefaultFlowMod])
  | .packetIn pi =>
      match pi.inPort with
      -- The callback throws, and catches what it throws.
      | none => (table, [])
      | some inPort =>
          let dlDst := pi.data.take 6
          let dlSrc := (pi.data.drop 6).take 6
          if dlDst = PythonLearningSwitch.floodedMac then (table, [flood pi inPort])
          else
            let macToPort := (table[connection]?.getD ∅).insert dlSrc inPort
            (table.insert connection macToPort,
              [macToPort[dlDst]?.elim (flood pi inPort) (installFlowMod pi dlSrc dlDst)])

def tableAfter (past : List Arrival) : Tables :=
  past.foldl (fun table arrival => (messageCallback table arrival.connection arrival.input).1) ∅

/-! ## What the script knows -/

def Hears (connection : Nat) (address : EthAddress) (port : BitVec 32) (arrival : Arrival) : Prop :=
  arrival.connection = connection ∧ ∃ pi dst, arrival.input = .packetIn pi ∧ pi.inPort = some port ∧
    Addressed pi.data address dst ∧ dst ≠ broadcastAddress

def LastHeard (past : List Arrival) (connection : Nat) (address : EthAddress) (port : BitVec 32) : Prop :=
  SetLast (Hears connection address port) (fun arrival => ∃ other, Hears connection address other arrival) past

def lookupPort13 (table : Tables) (connection : Nat) (address : EthAddress) : Option (BitVec 32) :=
  table[connection]?.bind fun macToPort => macToPort[octets address]?

variable {past : List Arrival} {arrival : Arrival} {connection : Nat} {address src dst : EthAddress} {port : BitVec 32}
  {pi : PacketIn13} {inPort : BitVec 32}

theorem octets_of_take {data : Frame} (six : (data.drop 6).take 6 = octets src) : ∃ dst, Addressed data src dst := by
  have length := congrArg List.length six
  have long : 12 ≤ data.length := by
    simp [octets] at length
    omega
  obtain ⟨src', dst, addressed⟩ := addressed_of_length long
  obtain ⟨-, same⟩ := take_of_readEthAddress addressed.src
  obtain rfl := octets_inj.mp (same.symm.trans six)
  exact ⟨dst, addressed⟩

theorem tableAfter_snoc (past : List Arrival) (arrival : Arrival) :
    tableAfter (past ++ [arrival]) = (messageCallback (tableAfter past) arrival.connection arrival.input).1 := by
  rw [tableAfter, List.foldl_append]
  rfl

theorem addressed_take (addressed : Addressed pi.data src dst) :
    pi.data.take 6 = octets dst ∧ (pi.data.drop 6).take 6 = octets src := by
  obtain ⟨-, sixSrc⟩ := take_of_readEthAddress addressed.src
  obtain ⟨-, sixDst⟩ := take_of_readEthAddress addressed.dst
  exact ⟨sixDst, sixSrc⟩

theorem lookupPort13_insert (table : Tables) (connection' : Nat) (dlSrc : Frame) (inPort : BitVec 32) :
    lookupPort13 (table.insert connection' ((table[connection']?.getD ∅).insert dlSrc inPort)) connection address =
      if connection' = connection ∧ dlSrc = octets address then some inPort
      else lookupPort13 table connection address := by
  rw [lookupPort13, lookupPort13, Std.HashMap.getElem?_insert]
  by_cases here : connection' = connection
  · obtain rfl := here
    rw [if_pos (beq_self_eq_true _), Option.bind_some, Std.HashMap.getElem?_insert]
    by_cases same : dlSrc = octets address
    · rw [if_pos (by simpa using same), if_pos ⟨rfl, same⟩]
    · rw [if_neg (by simpa using same), if_neg fun both => same both.2]
      cases table[connection']? with
      | none => exact Std.HashMap.getElem?_empty
      | some macToPort => rfl
  · rw [if_neg (by simpa using here), if_neg fun both => here both.1]

theorem not_hears_broadcast {connection' : Nat} (broadcast : pi.data.take 6 = PythonLearningSwitch.floodedMac) :
    ¬ Hears connection address port ⟨connection', .packetIn pi⟩ := by
  rintro ⟨-, pi', dst, ⟨⟩, -, addressed, other⟩
  rw [(addressed_take addressed).1] at broadcast
  exact other (octets_inj.mp broadcast)

theorem hears_iff {connection' : Nat} (read : pi.inPort = some inPort)
    (other : pi.data.take 6 ≠ PythonLearningSwitch.floodedMac) :
    Hears connection address port ⟨connection', .packetIn pi⟩ ↔
      inPort = port ∧ connection' = connection ∧ (pi.data.drop 6).take 6 = octets address := by
  constructor
  · rintro ⟨rfl, pi', dst, ⟨⟩, from_, addressed, -⟩
    exact ⟨Option.some_inj.mp (read.symm.trans from_), rfl, (addressed_take addressed).2⟩
  · rintro ⟨rfl, rfl, six⟩
    obtain ⟨dst, addressed⟩ := octets_of_take six
    refine ⟨rfl, pi, dst, rfl, read, addressed, ?_⟩
    rintro rfl
    exact other (addressed_take addressed).1

theorem lookup_step (table : Tables) (arrival : Arrival) :
    lookupPort13 (messageCallback table arrival.connection arrival.input).1 connection address = some port ↔
      Hears connection address port arrival ∨
        lookupPort13 table connection address = some port ∧ ¬ ∃ other, Hears connection address other arrival := by
  obtain ⟨connection', input⟩ := arrival
  have deaf (silent : ∀ other, ¬ Hears connection address other ⟨connection', input⟩)
      (same : (messageCallback table connection' input).1 = table) :
      lookupPort13 (messageCallback table connection' input).1 connection address = some port ↔
        Hears connection address port ⟨connection', input⟩ ∨ lookupPort13 table connection address = some port ∧
          ¬ ∃ other, Hears connection address other ⟨connection', input⟩ := by
    rw [same]
    simp [silent]
  cases input with
  | featuresReply =>
      apply deaf _ rfl
      rintro other ⟨-, pi, dst, ⟨⟩, -⟩
  | packetIn pi =>
      cases read : pi.inPort with
      | none =>
          apply deaf
          · rintro other ⟨-, pi', dst, ⟨⟩, some, -⟩
            cases read.symm.trans some
          · rw [messageCallback, read]
      | some inPort =>
          by_cases broadcast : pi.data.take 6 = PythonLearningSwitch.floodedMac
          · apply deaf fun other => not_hears_broadcast broadcast
            rw [messageCallback, read]
            simp only [if_pos broadcast]
          · simp only [messageCallback, read, if_neg broadcast, lookupPort13_insert, hears_iff read broadcast]
            split_ifs with here
            · simp [here]
            · simp [here]

theorem lookup_iff_lastHeard (past : List Arrival) (connection : Nat) (address : EthAddress) (port : BitVec 32) :
    lookupPort13 (tableAfter past) connection address = some port ↔ LastHeard past connection address port := by
  induction past using List.reverseRecOn with
  | nil =>
      apply iff_of_false _ SetLast.not_nil
      simp [lookupPort13, tableAfter]
  | append_singleton past arrival ih => rw [tableAfter_snoc, lookup_step, LastHeard, SetLast.snoc_iff, ih, LastHeard]

/-! ## What becomes of the frame -/

def HandsBack (pi : PacketIn13) (src dst : EthAddress) (port : BitVec 32) : Message → Prop
  | .flowMod13 fm =>
      pi.bufferId ≠ noBuffer ∧ fm.bufferId = pi.bufferId ∧ fm.command = .add ∧
        (fm.ethSrc = none ∨ fm.ethSrc = some src) ∧ (fm.ethDst = none ∨ fm.ethDst = some dst) ∧
        ∃ maxLen, fm.applyActions = [⟨port, maxLen⟩]
  | .packetOut13 po =>
      po.bufferId = pi.bufferId ∧ (pi.bufferId = noBuffer → po.data = pi.data) ∧
        ∃ maxLen, po.actions = [⟨port, maxLen⟩]
  | .flowMod10 _ | .packetOut10 _ | .multipartRequestFlow _ => False

def Chosen (events : List Arrival) (connection : Nat) (dst : EthAddress) (port : BitVec 32) : Prop :=
  dst ≠ broadcastAddress ∧ LastHeard events connection dst port ∨
    port = Of13.ofppFlood ∧ (dst = broadcastAddress ∨ ∀ heard, ¬ LastHeard events connection dst heard)

theorem flood_handsBack_iff (addressed : Addressed pi.data src dst) (inPort : BitVec 32) :
    HandsBack pi src dst port (flood pi inPort) ↔ pi.bufferId ≠ noBuffer ∧ port = Of13.ofppFlood := by
  have never : (pi.bufferId.toNat : Int) ≠ -1 := by omega
  have long : pi.data ≠ [] := by
    intro empty
    have inside := (take_of_readEthAddress addressed.src).1
    rw [empty] at inside
    cases inside
  constructor
  · rintro ⟨-, carried, maxLen, actions⟩
    constructor
    · intro unbuffered
      have data : (if (pi.bufferId.toNat : Int) = -1 then pi.data else []) = pi.data := carried unbuffered
      rw [if_neg never] at data
      exact long data.symm
    · cases actions
      rfl
  · rintro ⟨buffered, rfl⟩
    exact ⟨rfl, fun unbuffered => absurd unbuffered buffered, 1024, rfl⟩

theorem install_handsBack_iff (pi : PacketIn13) (src dst : EthAddress) (heard : BitVec 32) :
    HandsBack pi src dst port (installFlowMod pi (octets src) (octets dst) heard) ↔
      pi.bufferId ≠ noBuffer ∧ port = heard := by
  constructor
  · rintro ⟨buffered, -, -, -, -, maxLen, actions⟩
    cases actions
    exact ⟨buffered, rfl⟩
  · rintro ⟨buffered, rfl⟩
    exact ⟨buffered, rfl, rfl, Or.inr rfl, Or.inr rfl, 1024, rfl⟩

theorem reply_eq (table : Tables) (read : pi.inPort = some inPort) (addressed : Addressed pi.data src dst)
    (other : dst ≠ broadcastAddress) :
    (messageCallback table connection (.packetIn pi)).2 =
      [(lookupPort13 (messageCallback table connection (.packetIn pi)).1 connection dst).elim (flood pi inPort)
        (installFlowMod pi (octets src) (octets dst))] := by
  obtain ⟨sixDst, sixSrc⟩ := addressed_take addressed
  have unicast : octets dst ≠ PythonLearningSwitch.floodedMac := fun same =>
    other ((octets_inj (b := broadcastAddress)).mp same)
  simp only [messageCallback, read, sixDst, sixSrc, if_neg unicast, lookupPort13, Std.HashMap.getElem?_insert_self,
    Option.bind_some]

/-- After every run the reply to a packet makes the switch send its frame exactly if the frame is buffered there, and
then to the port where its destination was last heard, or to all. -/
theorem run_handsBack_iff (past : List Arrival) (connection : Nat) (pi : PacketIn13) (inPort : BitVec 32)
    (read : pi.inPort = some inPort) (src dst : EthAddress) (addressed : Addressed pi.data src dst) (port : BitVec 32) :
    (∃ m ∈ (messageCallback (tableAfter past) connection (.packetIn pi)).2, HandsBack pi src dst port m) ↔
      pi.bufferId ≠ noBuffer ∧ Chosen (past ++ [⟨connection, .packetIn pi⟩]) connection dst port := by
  by_cases broadcast : dst = broadcastAddress
  · subst broadcast
    have flooded : (messageCallback (tableAfter past) connection (.packetIn pi)).2 = [flood pi inPort] := by
      simp only [messageCallback, read]
      exact congrArg Prod.snd (if_pos (addressed_take addressed).1)
    simp [flooded, flood_handsBack_iff addressed, Chosen]
  · rw [reply_eq (tableAfter past) read addressed broadcast]
    have heard := lookup_iff_lastHeard (past ++ [⟨connection, .packetIn pi⟩]) connection dst
    rw [tableAfter_snoc] at heard
    simp only at heard
    cases answer : lookupPort13 (messageCallback (tableAfter past) connection (.packetIn pi)).1 connection dst with
    | none =>
        have unheard (port : BitVec 32) : ¬ LastHeard (past ++ [⟨connection, .packetIn pi⟩]) connection dst port := by
          rw [← heard, answer]
          exact fun same => by cases same
        simp [flood_handsBack_iff addressed, Chosen, broadcast, unheard]
    | some known =>
        have only : LastHeard (past ++ [⟨connection, .packetIn pi⟩]) connection dst port ↔ port = known := by
          rw [← heard, answer, Option.some_inj, eq_comm]
        have some : ¬ ∀ heard, ¬ LastHeard (past ++ [⟨connection, .packetIn pi⟩]) connection dst heard := fun none =>
          none known ((heard known).mp answer)
        simp [install_handsBack_iff, Chosen, broadcast, only, some]

def samplePacketIn (inPort : BitVec 32) : PacketIn13 :=
  { xid := 21, bufferId := 1, inPort := some inPort, data := sampleFrame }

def sampleAnswer : PacketIn13 :=
  { samplePacketIn 2 with data := [0, 0, 0, 0, 0, 1, 0, 0, 0, 0, 0, 2, 8, 0] }

theorem sample_handed_back :
    ∃ m ∈ (messageCallback (tableAfter [⟨0, .packetIn sampleAnswer⟩]) 0 (.packetIn (samplePacketIn 1))).2,
      HandsBack (samplePacketIn 1) ⟨0, 0, 0, 0, 0, 1⟩ ⟨0, 0, 0, 0, 0, 2⟩ 2 m := by
  have addressed : Addressed (samplePacketIn 1).data ⟨0, 0, 0, 0, 0, 1⟩ ⟨0, 0, 0, 0, 0, 2⟩ := ⟨rfl, rfl⟩
  have heard : Hears 0 ⟨0, 0, 0, 0, 0, 2⟩ 2 ⟨0, .packetIn sampleAnswer⟩ :=
    ⟨rfl, sampleAnswer, ⟨0, 0, 0, 0, 0, 1⟩, rfl, rfl, ⟨rfl, rfl⟩, by decide⟩
  have silent (port : BitVec 32) : ¬ Hears 0 ⟨0, 0, 0, 0, 0, 2⟩ port ⟨0, .packetIn (samplePacketIn 1)⟩ := by
    rintro ⟨-, pi, dst, ⟨⟩, -, addressed', -⟩
    cases (addressed.unique addressed').1
  have last : LastHeard [⟨0, .packetIn sampleAnswer⟩] 0 ⟨0, 0, 0, 0, 0, 2⟩ 2 :=
    ⟨[], _, [], rfl, heard, fun _ member => absurd member List.not_mem_nil⟩
  refine (run_handsBack_iff [⟨0, .packetIn sampleAnswer⟩] 0 (samplePacketIn 1) 1 rfl _ _ addressed 2).mpr ⟨by decide, ?_⟩
  exact Or.inl ⟨by decide, SetLast.snoc_iff.mpr (Or.inr ⟨last, fun ⟨port, hears⟩ => silent port hears⟩)⟩

end PythonLearningSwitch13

end Libfluid.Controller
