import Libfluid.Controller.Table

namespace Libfluid.Controller
open Library Switch

abbrev PortTables (κ : Type) [BEq κ] [Hashable κ] := Std.HashMap Nat (Std.HashMap κ (BitVec 16))

inductive Reply
  | packetOut (xid bufferId : BitVec 32) (inPort : BitVec 16) (data : Frame) (outPort maxLen : BitVec 16)
  | flowMod (cookie : BitVec 64) (command : FlowModCommand) (priority idleTimeout hardTimeout : BitVec 16)
      (bufferId : BitVec 32) (dlSrc dlDst : Frame) (outPort maxLen : BitVec 16)
deriving DecidableEq, Repr

def Reply.flood (pi : PacketIn10) : Reply := .packetOut pi.xid pi.bufferId pi.inPort pi.data 0xfffb 1024

def Reply.install (pi : PacketIn10) (src dst : Frame) (port : BitVec 16) : Reply :=
  .flowMod 123 .add 5 60 300 pi.bufferId src dst port 1024

section
variable {κ : Type} [BEq κ] [Hashable κ]

def lookupPort (table : PortTables κ) (connection : Nat) (key : κ) : Option (BitVec 16) :=
  table[connection]?.bind fun macToPort => macToPort[key]?

/-- The body that both share. The bytes of a key are those written to the match of the flow. -/
def learnAndReply (table : PortTables κ) (connection : Nat) (pi : PacketIn10) (bytes : κ → Frame)
    (broadcast : Bool) (dlSrc dlDst : κ) : PortTables κ × Reply :=
  if broadcast then (table, .flood pi)
  else
    let macToPort := (table[connection]?.getD ∅).insert dlSrc pi.inPort
    let table := table.insert connection macToPort
    match macToPort[dlDst]? with
    | none => (table, .flood pi)
    | some port => (table, .install pi (bytes dlSrc) (bytes dlDst) port)

end

namespace JavaLearningSwitch

inductive Exception
  | arrayIndexOutOfBounds
deriving DecidableEq, Repr

/-- `Arrays.copyOfRange`: zeros stand for what is beyond the array. -/
def copyOfRange (original : Frame) (start stop : Nat) : Except Exception Frame :=
  if start ≤ original.length then
    .ok ((original.drop start ++ List.replicate (stop - start) 0).take (stop - start))
  else .error .arrayIndexOutOfBounds

def getLongMac (mac : Frame) : BitVec 64 :=
  let byte (i : Nat) := mac.getD i 0
  load64 0 0 (byte 5) (byte 4) (byte 3) (byte 2) (byte 1) (byte 0)

def macBytes (mac : BitVec 64) : Frame :=
  [mac.extractLsb' 56 8, mac.extractLsb' 48 8, mac.extractLsb' 40 8, mac.extractLsb' 32 8, mac.extractLsb' 24 8,
    mac.extractLsb' 16 8]

-- The literal of the source has ten digits f, not twelve.
def floodedMac : BitVec 64 := 0xffffffffff0000

def messageCallback (table : PortTables (BitVec 64)) (connection : Nat) (pi : PacketIn10) :
    Except Exception (PortTables (BitVec 64) × Reply) := do
  let src ← copyOfRange pi.data 6 12
  let dst ← copyOfRange pi.data 0 6
  let dlSrc := getLongMac src
  let dlDst := getLongMac dst
  return learnAndReply table connection pi macBytes (dlDst == floodedMac) dlSrc dlDst

end JavaLearningSwitch

namespace PythonLearningSwitch

def floodedMac : Frame := [0xff, 0xff, 0xff, 0xff, 0xff, 0xff]

def messageCallback (table : PortTables Frame) (connection : Nat) (pi : PacketIn10) : PortTables Frame × Reply :=
  let dlDst := pi.data.take 6
  let dlSrc := (pi.data.drop 6).take 6
  learnAndReply table connection pi id (dlDst == floodedMac) dlSrc dlDst

end PythonLearningSwitch

/-! ## Addresses and keys -/

def octets (address : EthAddress) : Frame :=
  [address.octet0, address.octet1, address.octet2, address.octet3, address.octet4, address.octet5]

def longMac (address : EthAddress) : BitVec 64 := JavaLearningSwitch.getLongMac (octets address)

theorem octets_inj {a b : EthAddress} : octets a = octets b ↔ a = b := by
  cases a
  cases b
  simp [octets]

theorem longMac_inj {a b : EthAddress} : longMac a = longMac b ↔ a = b := by
  cases a
  cases b
  show load64 _ _ _ _ _ _ _ _ = load64 _ _ _ _ _ _ _ _ ↔ _
  rw [load64_inj, EthAddress.mk.injEq]
  tauto

theorem macBytes_longMac (address : EthAddress) : JavaLearningSwitch.macBytes (longMac address) = octets address := by
  obtain ⟨o₀, o₁, o₂, o₃, o₄, o₅⟩ := address
  obtain ⟨-, -, fifth, fourth⟩ := extract_load32 0 0 o₅ o₄
  obtain ⟨third, second, first, zeroth⟩ := extract_load32 o₃ o₂ o₁ o₀
  show [(load64 0 0 o₅ o₄ o₃ o₂ o₁ o₀).extractLsb' 56 8, (load64 0 0 o₅ o₄ o₃ o₂ o₁ o₀).extractLsb' 48 8,
    (load64 0 0 o₅ o₄ o₃ o₂ o₁ o₀).extractLsb' 40 8, (load64 0 0 o₅ o₄ o₃ o₂ o₁ o₀).extractLsb' 32 8,
    (load64 0 0 o₅ o₄ o₃ o₂ o₁ o₀).extractLsb' 24 8, (load64 0 0 o₅ o₄ o₃ o₂ o₁ o₀).extractLsb' 16 8] = _
  rw [extract_load64_high (by omega), extract_load64_high (by omega), extract_load64_high (by omega),
    extract_load64_high (by omega), extract_load64_low (by omega), extract_load64_low (by omega)]
  exact congrArg₂ _ zeroth (congrArg₂ _ first (congrArg₂ _ second (congrArg₂ _ third (congrArg₂ _ fourth
    (congrArg₂ _ fifth rfl)))))

theorem drop_of_readByte {data : Frame} {index : Nat} {byte : Byte} (read : readByte data index = .ok byte) :
    data.drop index = byte :: data.drop (index + 1) := by
  unfold readByte at read
  cases found : data[index]? with
  | none =>
      rw [found] at read
      cases read
  | some other =>
      rw [found] at read
      cases read
      obtain ⟨inside, rfl⟩ := List.getElem?_eq_some_iff.mp found
      exact List.drop_eq_getElem_cons inside

theorem take_of_readEthAddress {data : Frame} {index : Nat} {address : EthAddress}
    (read : readEthAddress data index = .ok address) :
    index + 6 ≤ data.length ∧ (data.drop index).take 6 = octets address := by
  refine ⟨readEthAddress_ok_length read, ?_⟩
  obtain ⟨b₀, first, read⟩ := bind_eq_ok.mp read
  obtain ⟨b₁, second, read⟩ := bind_eq_ok.mp read
  obtain ⟨b₂, third, read⟩ := bind_eq_ok.mp read
  obtain ⟨b₃, fourth, read⟩ := bind_eq_ok.mp read
  obtain ⟨b₄, fifth, read⟩ := bind_eq_ok.mp read
  obtain ⟨b₅, sixth, read⟩ := bind_eq_ok.mp read
  cases read
  rw [drop_of_readByte first, drop_of_readByte second, drop_of_readByte third, drop_of_readByte fourth,
    drop_of_readByte fifth, drop_of_readByte sixth]
  rfl

theorem copyOfRange_inside {data : Frame} {start : Nat} (inside : start + 6 ≤ data.length) :
    JavaLearningSwitch.copyOfRange data start (start + 6) = .ok ((data.drop start).take 6) := by
  rw [JavaLearningSwitch.copyOfRange, if_pos (by omega), Nat.add_sub_cancel_left,
    List.take_append_of_le_length (by rw [List.length_drop]; omega)]

/-! ## The maps of ports -/

abbrev Ports := Nat → EthAddress → Option (BitVec 16)

def portsOf {κ : Type} [BEq κ] [Hashable κ] (key : EthAddress → κ) (table : PortTables κ) : Ports :=
  fun connection address => lookupPort table connection (key address)

namespace Ports

def learned (ports : Ports) (connection : Nat) (src : EthAddress) (inPort : BitVec 16) : Ports :=
  fun connection' address =>
    if connection' = connection ∧ address = src then some inPort else ports connection' address

def reply (ports : Ports) (connection : Nat) (pi : PacketIn10) (src dst : EthAddress) : Reply :=
  (ports.learned connection src pi.inPort connection dst).elim (.flood pi) (.install pi (octets src) (octets dst))

def handle (ports : Ports) (flooded : EthAddress) (connection : Nat) (pi : PacketIn10) (src dst : EthAddress) :
    Ports × Reply :=
  if dst = flooded then (ports, .flood pi)
  else (ports.learned connection src pi.inPort, ports.reply connection pi src dst)

end Ports

section
variable {κ : Type} [BEq κ] [Hashable κ]

theorem getElem?_getD (table : PortTables κ) (connection : Nat) (k : κ) :
    (table[connection]?.getD ∅)[k]? = lookupPort table connection k := by
  unfold lookupPort
  cases table[connection]? with
  | none => exact Std.HashMap.getElem?_empty
  | some macToPort => rfl

variable [LawfulBEq κ] [LawfulHashable κ] {key : EthAddress → κ} {bytes : κ → Frame} {flooded src dst : EthAddress}
  {connection : Nat} {pi : PacketIn10} {broadcast : Bool}

theorem getElem?_learned (injective : ∀ a b, key a = key b ↔ a = b) (table : PortTables κ) (inPort : BitVec 16)
    (address : EthAddress) :
    ((table[connection]?.getD ∅).insert (key src) inPort)[key address]? =
      (portsOf key table).learned connection src inPort connection address := by
  rw [Std.HashMap.getElem?_insert, getElem?_getD, Ports.learned]
  by_cases same : address = src
  · rw [same, if_pos (beq_self_eq_true _), if_pos ⟨rfl, rfl⟩]
  · have different : key src ≠ key address := fun equal => same ((injective _ _).mp equal).symm
    rw [if_neg (by simpa using different), if_neg (by simp [same])]
    rfl

theorem portsOf_learned (injective : ∀ a b, key a = key b ↔ a = b) (table : PortTables κ) (inPort : BitVec 16) :
    portsOf key (table.insert connection ((table[connection]?.getD ∅).insert (key src) inPort)) =
      (portsOf key table).learned connection src inPort := by
  funext connection' address
  rw [portsOf, lookupPort, Std.HashMap.getElem?_insert]
  by_cases same : connection' = connection
  · rw [same, if_pos (beq_self_eq_true _), Option.bind_some]
    exact getElem?_learned injective table inPort address
  · rw [if_neg (by simpa using Ne.symm same), Ports.learned, if_neg fun both => same both.1]
    rfl

theorem learnAndReply_eq (injective : ∀ a b, key a = key b ↔ a = b) (written : ∀ a, bytes (key a) = octets a)
    (table : PortTables κ) (compared : broadcast = true ↔ dst = flooded) :
    (portsOf key (learnAndReply table connection pi bytes broadcast (key src) (key dst)).1,
      (learnAndReply table connection pi bytes broadcast (key src) (key dst)).2) =
      (portsOf key table).handle flooded connection pi src dst := by
  by_cases special : dst = flooded
  · rw [Ports.handle, if_pos special, learnAndReply, if_pos (compared.mpr special)]
  · have dict : ((table[connection]?.getD ∅).insert (key src) pi.inPort)[key dst]? =
        (portsOf key table).learned connection src pi.inPort connection dst :=
      getElem?_learned injective table pi.inPort dst
    rw [Ports.handle, if_neg special, learnAndReply, if_neg fun flood => special (compared.mp flood), Ports.reply,
      ← dict]
    simp only
    cases ((table[connection]?.getD ∅).insert (key src) pi.inPort)[key dst]? with
    | none => rw [portsOf_learned injective table pi.inPort, Option.elim_none]
    | some port =>
        rw [portsOf_learned injective table pi.inPort, Option.elim_some, written, written]

end

/-! ## The callbacks -/

/-- 00:ff:ff:ff:ff:ff, the address whose number the Java switch compares with. -/
def javaFlooded : EthAddress := ⟨0, 0xff, 0xff, 0xff, 0xff, 0xff⟩

def broadcastAddress : EthAddress := ⟨0xff, 0xff, 0xff, 0xff, 0xff, 0xff⟩

theorem java_messageCallback {src dst : EthAddress} {pi : PacketIn10} (addressed : Addressed pi.data src dst)
    (table : PortTables (BitVec 64)) (connection : Nat) :
    ∃ next reply, JavaLearningSwitch.messageCallback table connection pi = .ok (next, reply) ∧
      (portsOf longMac next, reply) = (portsOf longMac table).handle javaFlooded connection pi src dst := by
  obtain ⟨insideSrc, sixSrc⟩ := take_of_readEthAddress addressed.src
  obtain ⟨insideDst, sixDst⟩ := take_of_readEthAddress addressed.dst
  have src_ok := copyOfRange_inside insideSrc
  have dst_ok := copyOfRange_inside insideDst
  rw [sixSrc] at src_ok
  rw [sixDst] at dst_ok
  have compared : (longMac dst == JavaLearningSwitch.floodedMac) = true ↔ dst = javaFlooded := by
    rw [beq_iff_eq, show JavaLearningSwitch.floodedMac = longMac javaFlooded by decide]
    exact longMac_inj
  refine ⟨_, _, ?_, learnAndReply_eq (fun _ _ => longMac_inj) macBytes_longMac table compared⟩
  rw [JavaLearningSwitch.messageCallback, show JavaLearningSwitch.copyOfRange pi.data 6 12 = _ from src_ok,
    show JavaLearningSwitch.copyOfRange pi.data 0 6 = _ from dst_ok]
  rfl

theorem python_messageCallback {src dst : EthAddress} {pi : PacketIn10} (addressed : Addressed pi.data src dst)
    (table : PortTables Frame) (connection : Nat) :
    (portsOf octets (PythonLearningSwitch.messageCallback table connection pi).1,
      (PythonLearningSwitch.messageCallback table connection pi).2) =
        (portsOf octets table).handle broadcastAddress connection pi src dst := by
  obtain ⟨-, sixSrc⟩ := take_of_readEthAddress addressed.src
  obtain ⟨-, sixDst⟩ := take_of_readEthAddress addressed.dst
  have compared : (octets dst == PythonLearningSwitch.floodedMac) = true ↔ dst = broadcastAddress := by
    rw [beq_iff_eq]
    exact octets_inj (b := broadcastAddress)
  rw [List.drop_zero] at sixDst
  rw [PythonLearningSwitch.messageCallback, sixSrc, sixDst]
  exact learnAndReply_eq (fun _ _ => octets_inj) (fun _ => rfl) table compared

end Libfluid.Controller
