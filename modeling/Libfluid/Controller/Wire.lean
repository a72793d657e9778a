import Libfluid.Controller.Flood
import Libfluid.Switch.MaxLen

namespace Libfluid.Controller
open Library Switch

def swap32 (word : BitVec 32) : BitVec 32 :=
  word.extractLsb' 0 8 ++ word.extractLsb' 8 8 ++ word.extractLsb' 16 8 ++ word.extractLsb' 24 8

def swap64 (word : BitVec 64) : BitVec 64 :=
  swap32 (word.extractLsb' 0 32) ++ swap32 (word.extractLsb' 32 32)

def hton32 (word : BitVec 32) : BitVec 32 := swap32 word

def store64 (word : BitVec 64) : List Byte := store32 (word.extractLsb' 0 32) ++ store32 (word.extractLsb' 32 32)

def Of10.ofptFlowMod : Byte := 14
def Of10.ofpfcAdd : BitVec 16 := 0

/-! ## The structures -/

structure OfpMatch where
  wildcards : BitVec 32
  inPort : BitVec 16
  dlSrc : EthAddress
  dlDst : EthAddress
  dlVlan : BitVec 16
  dlVlanPcp : BitVec 8
  dlType : BitVec 16
  nwTos : BitVec 8
  nwProto : BitVec 8
  nwSrc : BitVec 32
  nwDst : BitVec 32
  tpSrc : BitVec 16
  tpDst : BitVec 16
deriving DecidableEq, Repr

structure OfpFlowMod where
  header : OfpHeader
  match_ : OfpMatch
  cookie : BitVec 64
  command : BitVec 16
  idleTimeout : BitVec 16
  hardTimeout : BitVec 16
  priority : BitVec 16
  bufferId : BitVec 32
  outPort : BitVec 16
  flags : BitVec 16
deriving DecidableEq, Repr

def OfpHeader.bytes (header : OfpHeader) : List Byte :=
  [header.version, header.type] ++ (store16 header.length ++ store32 header.xid)

def OfpMatch.bytes (m : OfpMatch) : List Byte :=
  store32 m.wildcards ++ (store16 m.inPort ++ (m.dlSrc.bytes ++ (m.dlDst.bytes ++ (store16 m.dlVlan ++
    ([m.dlVlanPcp, 0] ++ (store16 m.dlType ++ ([m.nwTos, m.nwProto, 0, 0] ++ (store32 m.nwSrc ++ (store32 m.nwDst ++
      (store16 m.tpSrc ++ store16 m.tpDst))))))))))

def OfpFlowMod.bytes (fm : OfpFlowMod) : List Byte :=
  fm.header.bytes ++ (fm.match_.bytes ++ (store64 fm.cookie ++ (store16 fm.command ++ (store16 fm.idleTimeout ++
    (store16 fm.hardTimeout ++ (store16 fm.priority ++ (store32 fm.bufferId ++ (store16 fm.outPort ++
      store16 fm.flags))))))))

namespace RawLearningSwitch

def emptyMatch : OfpMatch where
  wildcards := 0
  inPort := 0
  dlSrc := ⟨0, 0, 0, 0, 0, 0⟩
  dlDst := ⟨0, 0, 0, 0, 0, 0⟩
  dlVlan := 0
  dlVlanPcp := 0
  dlType := 0
  nwTos := 0
  nwProto := 0
  nwSrc := 0
  nwDst := 0
  tpSrc := 0
  tpDst := 0

def outputAction (outPort : BitVec 16) : OfpActionOutput where
  type := Of10.ofpatOutput
  len := hton16 8
  port := hton16 outPort
  maxLen := 0

/-- The cookie keeps the byte order of the machine. -/
def flowMod (bufferId xid : BitVec 32) (src dst : BitVec 64) : OfpFlowMod where
  header := { version := Of10.ofpVersion, type := Of10.ofptFlowMod, length := hton16 (72 + 8), xid := xid }
  match_ :=
    { emptyMatch with
      wildcards := hton32 (ofpfwAll &&& ~~~ofpfwDlSrc &&& ~~~ofpfwDlDst), dlSrc := keyMac src, dlDst := keyMac dst }
  cookie := 123
  command := Of10.ofpfcAdd
  idleTimeout := hton16 5
  hardTimeout := hton16 10
  priority := hton16 100
  bufferId := bufferId
  outPort := 0
  flags := 0

def installFlowMod (data : Frame) (xid : BitVec 32) (src dst : BitVec 64) (outPort : BitVec 16) :
    Except OutOfBounds (List Byte) := do
  let msgLen : BitVec 16 := 72 + 8
  let raw := List.replicate msgLen.toNat 0
  let bufferId ← (read32 data 8).mapError .read
  let raw ← writeRange raw 0 (flowMod bufferId xid src dst).bytes
  writeRange raw 72 (outputAction outPort).bytes

end RawLearningSwitch

/-! ## What the bytes say -/

def be32At (bytes : List Byte) (index : Nat) : BitVec 32 :=
  byteAt bytes index ++ byteAt bytes (index + 1) ++ byteAt bytes (index + 2) ++ byteAt bytes (index + 3)

def be64At (bytes : List Byte) (index : Nat) : BitVec 64 := be32At bytes index ++ be32At bytes (index + 4)

def readPacketIn (bytes : List Byte) : PacketIn10 where
  xid := be32At bytes 4
  bufferId := be32At bytes 8
  totalLen := word16At bytes 12
  inPort := word16At bytes 14
  reason := byteAt bytes 16
  data := bytes.drop 18

/-- Actions other than outputs are not read. -/
def readOutputs : List Byte → Option (List Action)
  | [] => some []
  | t₀ :: t₁ :: l₀ :: l₁ :: p₀ :: p₁ :: m₀ :: m₁ :: rest =>
      if t₀ ++ t₁ = Of10.ofpatOutput ∧ l₀ ++ l₁ = (8 : BitVec 16) then
        (readOutputs rest).map (.output (p₀ ++ p₁) (m₀ ++ m₁) :: ·)
      else none
  | _ => none

def readCommand (word : BitVec 16) : Option FlowModCommand :=
  if word = 0 then some .add
  else if word = 1 then some .modify
  else if word = 2 then some .modifyStrict
  else if word = 3 then some .delete
  else if word = 4 then some .deleteStrict
  else none

def readMatch (bytes : List Byte) : Match where
  wildcards := be32At bytes 8
  inPort := word16At bytes 12
  dlSrc := ethAddressAt bytes 14
  dlDst := ethAddressAt bytes 20
  dlVlan := word16At bytes 26
  dlVlanPcp := byteAt bytes 28
  dlType := word16At bytes 30
  nwTos := byteAt bytes 32
  nwProto := byteAt bytes 33
  nwSrc := word32At bytes 36
  nwDst := word32At bytes 40
  tpSrc := word16At bytes 44
  tpDst := word16At bytes 46

def readFlowMod (bytes : List Byte) : Option FlowMod10 :=
  if 72 ≤ bytes.length ∧ byteAt bytes 0 = Of10.ofpVersion ∧ byteAt bytes 1 = Of10.ofptFlowMod ∧
      (word16At bytes 2).toNat = bytes.length then
    (readCommand (word16At bytes 56)).bind fun command =>
      (readOutputs (bytes.drop 72)).map fun actions =>
        { xid := be32At bytes 4
          match_ := readMatch bytes
          cookie := be64At bytes 48
          command := command
          idleTimeout := word16At bytes 58
          hardTimeout := word16At bytes 60
          priority := word16At bytes 62
          bufferId := be32At bytes 64
          outPort := word16At bytes 68
          flags := word16At bytes 70
          actions := actions }
  else none

/-! ## Round trips -/

theorem load32_extract (word : BitVec 32) :
    load32 (word.extractLsb' 0 8) (word.extractLsb' 8 8) (word.extractLsb' 16 8) (word.extractLsb' 24 8) = word := by
  rw [load32, BitVec.extractLsb'_append_extractLsb'_eq_extractLsb' (show 24 = 16 + 8 from rfl),
    BitVec.extractLsb'_append_extractLsb'_eq_extractLsb' (show 16 = 8 + 8 from rfl),
    BitVec.extractLsb'_append_extractLsb'_eq_extractLsb' (show 8 = 0 + 8 from rfl)]
  exact BitVec.extractLsb'_eq_self

theorem swap32_load32 (b₀ b₁ b₂ b₃ : Byte) : swap32 (load32 b₀ b₁ b₂ b₃) = b₀ ++ b₁ ++ b₂ ++ b₃ := by
  obtain ⟨first, second, third, fourth⟩ := extract_load32 b₀ b₁ b₂ b₃
  rw [swap32, first, second, third, fourth]

theorem swap32_swap32 (word : BitVec 32) : swap32 (swap32 word) = word :=
  (swap32_load32 _ _ _ _).trans (load32_extract word)

theorem length_bytes (fm : OfpFlowMod) : fm.bytes.length = 72 := rfl

def OfpMatch.read (m : OfpMatch) : Match where
  wildcards := swap32 m.wildcards
  inPort := ntoh16 m.inPort
  dlSrc := m.dlSrc
  dlDst := m.dlDst
  dlVlan := ntoh16 m.dlVlan
  dlVlanPcp := m.dlVlanPcp
  dlType := ntoh16 m.dlType
  nwTos := m.nwTos
  nwProto := m.nwProto
  nwSrc := m.nwSrc
  nwDst := m.nwDst
  tpSrc := ntoh16 m.tpSrc
  tpDst := ntoh16 m.tpDst

def OfpFlowMod.read (fm : OfpFlowMod) (command : FlowModCommand) (actions : List Action) : FlowMod10 where
  xid := swap32 fm.header.xid
  match_ := fm.match_.read
  cookie := swap64 fm.cookie
  command := command
  idleTimeout := ntoh16 fm.idleTimeout
  hardTimeout := ntoh16 fm.hardTimeout
  priority := ntoh16 fm.priority
  bufferId := swap32 fm.bufferId
  outPort := ntoh16 fm.outPort
  flags := ntoh16 fm.flags
  actions := actions

theorem readMatch_bytes (fm : OfpFlowMod) (rest : List Byte) : readMatch (fm.bytes ++ rest) = fm.match_.read := by
  have nwSrc : word32At (fm.bytes ++ rest) 36 = fm.match_.nwSrc := load32_extract fm.match_.nwSrc
  have nwDst : word32At (fm.bytes ++ rest) 40 = fm.match_.nwDst := load32_extract fm.match_.nwDst
  rw [readMatch, nwSrc, nwDst]
  rfl

def OfpActionOutput.IsOutput (act : OfpActionOutput) : Prop := ntoh16 act.type = Of10.ofpatOutput ∧ ntoh16 act.len = 8

theorem readOutputs_bytes (acts : List OfpActionOutput) (outputs : ∀ act ∈ acts, act.IsOutput) :
    readOutputs (acts.flatMap OfpActionOutput.bytes) =
      some (acts.map fun act => .output (ntoh16 act.port) (ntoh16 act.maxLen)) := by
  induction acts with
  | nil => rfl
  | cons act rest ih =>
      obtain ⟨⟨type, len⟩, others⟩ := List.forall_mem_cons.mp outputs
      show (if ntoh16 act.type = Of10.ofpatOutput ∧ ntoh16 act.len = 8 then
        (readOutputs (rest.flatMap OfpActionOutput.bytes)).map _ else none) = _
      rw [if_pos ⟨type, len⟩, ih others]
      rfl

theorem readFlowMod_bytes (fm : OfpFlowMod) (acts : List OfpActionOutput)
    (version : fm.header.version = Of10.ofpVersion)
    (type : fm.header.type = Of10.ofptFlowMod) (length : (ntoh16 fm.header.length).toNat = 72 + 8 * acts.length)
    {command : FlowModCommand} (known : readCommand (ntoh16 fm.command) = some command)
    (outputs : ∀ act ∈ acts, act.IsOutput) :
    readFlowMod (fm.bytes ++ acts.flatMap OfpActionOutput.bytes) =
      some (fm.read command (acts.map fun act => .output (ntoh16 act.port) (ntoh16 act.maxLen))) := by
  have size : (acts.flatMap OfpActionOutput.bytes).length = 8 * acts.length := by
    have each : List.length ∘ OfpActionOutput.bytes = fun _ => 8 := rfl
    rw [List.length_flatMap, ← Function.comp_def, each, List.map_const', List.sum_replicate_nat, Nat.mul_comm]
  have whole : (fm.bytes ++ acts.flatMap OfpActionOutput.bytes).length = 72 + 8 * acts.length := by
    rw [List.length_append, length_bytes, size]
  have accepted : 72 ≤ (fm.bytes ++ acts.flatMap OfpActionOutput.bytes).length ∧
      byteAt (fm.bytes ++ acts.flatMap OfpActionOutput.bytes) 0 = Of10.ofpVersion ∧
      byteAt (fm.bytes ++ acts.flatMap OfpActionOutput.bytes) 1 = Of10.ofptFlowMod ∧
      (word16At (fm.bytes ++ acts.flatMap OfpActionOutput.bytes) 2).toNat =
        (fm.bytes ++ acts.flatMap OfpActionOutput.bytes).length := by
    rw [whole]
    exact ⟨Nat.le_add_right _ _, version, type, length⟩
  have behind : (fm.bytes ++ acts.flatMap OfpActionOutput.bytes).drop 72 = acts.flatMap OfpActionOutput.bytes :=
    List.drop_left' (length_bytes fm)
  rw [readFlowMod, if_pos accepted, behind, readOutputs_bytes acts outputs, readMatch_bytes]
  show (readCommand (ntoh16 fm.command)).bind _ = _
  rw [known]
  rfl

/-! ## The message of the raw application -/

namespace RawLearningSwitch

variable {data sent : Frame} {src dst : BitVec 64} {outPort : BitVec 16}

theorem installFlowMod_eq (long : 12 ≤ data.length) (xid : BitVec 32) :
    installFlowMod data xid src dst outPort =
      .ok ((flowMod (word32At data 8) xid src dst).bytes ++ [outputAction outPort].flatMap OfpActionOutput.bytes) := by
  have size : (72 + 8 : BitVec 16).toNat = 80 := by decide
  have read : (read32 data 8).mapError OutOfBounds.read = .ok (word32At data 8) := by
    rw [read32_eq (by omega)]
    rfl
  have full : 72 + (outputAction outPort).bytes.length = 80 := rfl
  simp only [installFlowMod, size, read, ok_bind]
  rw [writeRange_pair (length_bytes _) full, List.flatMap_singleton]

/-- The message says what the message of `MultiLearningSwitch` says, but for the cookie and the length. -/
def ReadsAlike (data : Frame) (src dst : BitVec 64) (outPort : BitVec 16) : Prop :=
  ∃ sent fm, installFlowMod data (word32At data 4) src dst outPort = .ok sent ∧ readFlowMod sent = some fm ∧
    fm.actions = [.output outPort 0] ∧
    MultiLearningSwitch.installFlowMod10 (readPacketIn data) src dst outPort =
      .flowMod10 { fm with cookie := swap64 fm.cookie, actions := [.output outPort 1024] }

theorem installFlowMod_reads (long : 12 ≤ data.length) (src dst : BitVec 64) (outPort : BitVec 16) :
    ReadsAlike data src dst outPort := by
  have length : (ntoh16 (flowMod (word32At data 8) (word32At data 4) src dst).header.length).toNat = 72 + 8 * 1 := by
    show (ntoh16 (hton16 (72 + 8))).toNat = 80
    decide
  have command : readCommand (ntoh16 (flowMod (word32At data 8) (word32At data 4) src dst).command) = some .add := by
    show readCommand (ntoh16 0) = some .add
    decide
  have output : (outputAction outPort).IsOutput := by
    show ntoh16 0 = 0 ∧ ntoh16 (hton16 8) = 8
    decide
  have zero : ntoh16 0 = 0 := by decide
  have read := readFlowMod_bytes (flowMod (word32At data 8) (word32At data 4) src dst) [outputAction outPort] rfl rfl
    length command (List.forall_mem_singleton.mpr output)
  refine ⟨_, _, installFlowMod_eq long _, read, ?_, ?_⟩
  · show [Action.output (ntoh16 (hton16 outPort)) (ntoh16 0)] = _
    rw [zero, ntoh16, hton16, swap16_swap16]
  · have xid : swap32 (word32At data 4) = be32At data 4 := swap32_load32 _ _ _ _
    have bufferId : swap32 (word32At data 8) = be32At data 8 := swap32_load32 _ _ _ _
    have wildcards : swap32 (hton32 (ofpfwAll &&& ~~~ofpfwDlSrc &&& ~~~ofpfwDlDst)) =
        ofpfwAll &&& ~~~ofpfwDlSrc &&& ~~~ofpfwDlDst := swap32_swap32 _
    have cookie : swap64 (swap64 123) = 123 := by decide
    have host (word : BitVec 16) : ntoh16 (hton16 word) = word := swap16_swap16 word
    simp only [OfpFlowMod.read, flowMod, OfpMatch.read, emptyMatch, xid, bufferId, wildcards, cookie, host, zero]
    rfl

end RawLearningSwitch

/-! ## The switch behind -/

/-- What reaches the switch: an event that has nothing to do with the decisions, or a decision to install. -/
inductive Input
  | event (event : Switch.Event)
  | install (data : Frame) (src dst : BitVec 64) (outPort : BitVec 16)

namespace Input

def raw : Input → Option Switch.Event
  | .event other => some other
  | .install data src dst outPort =>
      match RawLearningSwitch.installFlowMod data (word32At data 4) src dst outPort with
      | .ok sent => (readFlowMod sent).map fun fm => .flowMod fm.toFlowMod
      | .error _ => none

def multi : Input → Option Switch.Event
  | .event other => some other
  | .install data src dst outPort =>
      match MultiLearningSwitch.installFlowMod10 (readPacketIn data) src dst outPort with
      | .flowMod10 fm => some (.flowMod fm.toFlowMod)
      | _ => none

def Plain : Input → Prop
  | .event _ => True
  | .install data _ _ outPort => 12 ≤ data.length ∧ outPort ≠ ofppController

theorem Plain.alike {input : Input} (plain : input.Plain) :
    ∃ event event', input.raw = some event ∧ input.multi = some event' ∧ event.erase = event'.erase := by
  cases input with
  | event other => exact ⟨other, other, rfl, rfl, rfl⟩
  | install data src dst outPort =>
      obtain ⟨long, other⟩ := plain
      obtain ⟨sent, fm, built, read, actions, agrees⟩ := RawLearningSwitch.installFlowMod_reads long src dst outPort
      refine ⟨.flowMod fm.toFlowMod, .flowMod { fm.toFlowMod with actions := [.output outPort 1024] }, ?_, ?_, ?_⟩
      · rw [raw, built]
        show (readFlowMod sent).map _ = _
        rw [read]
        rfl
      · rw [multi, agrees]
      · show Event.flowMod fm.toFlowMod.erase = _
        have short : fm.toFlowMod.actions = [.output outPort 0] := actions
        simp [Event.erase, FlowMod.erase, short, Action.erase, other]

theorem alike_all {inputs : List Input} (plain : ∀ input ∈ inputs, input.Plain) :
    ∃ events events', inputs.mapM raw = some events ∧ inputs.mapM multi = some events' ∧
      events.map Event.erase = events'.map Event.erase := by
  induction inputs with
  | nil => exact ⟨[], [], rfl, rfl, rfl⟩
  | cons input rest ih =>
      obtain ⟨first, others⟩ := List.forall_mem_cons.mp plain
      obtain ⟨event, event', here, here', same⟩ := first.alike
      obtain ⟨events, events', later, later', sames⟩ := ih others
      refine ⟨event :: events, event' :: events', ?_, ?_, ?_⟩
      · rw [List.mapM_cons, here, later]
        rfl
      · rw [List.mapM_cons, here', later']
        rfl
      · rw [List.map_cons, List.map_cons, same, sames]

end Input

/-- The messages of the raw application say what those of `MultiLearningSwitch` say, and a switch does the same with
them all through the run: the same frames on the same ports, the same messages and the same faults. -/
theorem run_installs_alike (dp : Datapath) (inputs : List Input) (plain : ∀ input ∈ inputs, input.Plain) :
    (∀ data src dst outPort, .install data src dst outPort ∈ inputs →
      RawLearningSwitch.ReadsAlike data src dst outPort) ∧
    ∃ events events', inputs.mapM Input.raw = some events ∧ inputs.mapM Input.multi = some events' ∧
      (dp.run events).map Prod.snd = (dp.run events').map Prod.snd := by
  constructor
  · intro data src dst outPort member
    exact RawLearningSwitch.installFlowMod_reads (plain _ member).1 src dst outPort
  · obtain ⟨events, events', raw, multi, same⟩ := Input.alike_all plain
    exact ⟨events, events', raw, multi, Datapath.run_alike dp same⟩

def sampleInputs : List Input :=
  [.event (.connection true),
    .install (RawLearningSwitch.sampleHeader 32 14 ++ List.replicate 14 7) (macKey ⟨0, 0, 0, 0, 0, 1⟩)
      (macKey ⟨0, 0, 0, 0, 0, 2⟩) 1,
    .event (.capture ⟨2, List.replicate 14 7⟩ 14)]

theorem sample_installs_alike :
    (∀ data src dst outPort, .install data src dst outPort ∈ sampleInputs →
      RawLearningSwitch.ReadsAlike data src dst outPort) ∧
    ∃ events events', sampleInputs.mapM Input.raw = some events ∧ sampleInputs.mapM Input.multi = some events' ∧
      ((Datapath.create 2).run events).map Prod.snd = ((Datapath.create 2).run events').map Prod.snd := by
  apply run_installs_alike
  intro input member
  simp only [sampleInputs, List.mem_cons, List.not_mem_nil, or_false] at member
  rcases member with rfl | rfl | rfl
  · trivial
  · exact ⟨by decide, by decide⟩
  · trivial

end Libfluid.Controller
