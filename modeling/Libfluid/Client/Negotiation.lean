import Libfluid.Client.OFClient

namespace Libfluid.Client
open Library

namespace OFClient

def Supports (client : OFClient) (version : BitVec 8) : Prop :=
  client.ofsc.supportedVersions &&& versionBit version ≠ 0

instance (client : OFClient) (version : BitVec 8) : Decidable (client.Supports version) :=
  inferInstanceAs (Decidable (_ ≠ _))

def Unsupported (client : OFClient) (version : BitVec 8) : Prop :=
  (1 ≤ version ∧ version ≤ 32) ∧ ¬ client.Supports version

instance (client : OFClient) (version : BitVec 8) : Decidable (client.Unsupported version) :=
  inferInstanceAs (Decidable (_ ∧ _))

def receive (client : OFClient) (cc : OFConnection) (messages : List OFMessage) : OFConnection :=
  messages.foldl (fun cc m => (client.baseMessageCallback cc m).1) cc

structure FailsNegotiation (hello : OFMessage) (result : OFConnection × List Effect) : Prop where
  error : .send (.error hello.version hello.xid ofpetHelloFailed ofphfcIncompatible) ∈ result.2
  closes : .close ∈ result.2
  state : result.1.state = .failed
  event : .connectionCallback .failedNegotiation ∈ result.2

structure PassesNegotiation (cc : OFConnection) (result : OFConnection × List Effect) : Prop where
  error : ∀ version xid type code, .send (.error version xid type code) ∉ result.2
  open_ : .close ∉ result.2
  state : result.1.state = cc.state
  event : .connectionCallback .failedNegotiation ∉ result.2

/-- A HELLO of an unsupported version fails the connection for good, one of a supported version does not, and
a running connection has a supported version. -/
structure Negotiates (client : OFClient) (cc : OFConnection) (messages : List OFMessage) : Prop where
  fails : ∀ before hello after, messages = before ++ hello :: after → hello.type = ofptHello →
    client.Unsupported hello.version →
    FailsNegotiation hello (client.baseMessageCallback (client.receive cc before) hello) ∧
      ∀ later, later <+: after → (client.receive cc (before ++ hello :: later)).state ≠ .running
  passes : ∀ before hello after, messages = before ++ hello :: after → hello.type = ofptHello →
    client.Supports hello.version →
    PassesNegotiation (client.receive cc before) (client.baseMessageCallback (client.receive cc before) hello)
  running : ∀ past, past <+: messages → (client.receive cc past).state = .running →
    client.Supports (client.receive cc past).version

def Negotiable (client : OFClient) (m : OFMessage) : Prop :=
  (m.type = ofptHello → ¬ client.Unsupported m.version) ∧
    (m.type = ofptFeaturesRequest → client.Supports m.version)

/-! ## One message -/

variable {client : OFClient} {cc : OFConnection} {m hello : OFMessage} {messages : List OFMessage}

theorem rejects_eq_false (nonempty : client.ofsc.supportedVersions ≠ 0) (version : BitVec 8) :
    client.rejects version = false := by
  rw [rejects, if_neg nonempty]
  simp

theorem other_type {given type : BitVec 8} {setting : Prop} (is : m.type = given) (different : given ≠ type) :
    ¬ (setting ∧ m.type = type) := fun both => different (is.symm.trans both.2)

theorem baseMessageCallback_hello (nonempty : client.ofsc.supportedVersions ≠ 0)
    (handshake : client.ofsc.handshake = true) (type : hello.type = ofptHello) (cc : OFConnection) :
    client.baseMessageCallback cc hello = (cc, client.dispatchIfAll hello) := by
  rw [baseMessageCallback, if_neg (other_type type (by decide)), if_pos ⟨handshake, type⟩,
    rejects_eq_false nonempty]
  rfl

theorem baseMessageCallback_featuresRequest (handshake : client.ofsc.handshake = true)
    (type : m.type = ofptFeaturesRequest) (cc : OFConnection) :
    (client.baseMessageCallback cc m).1 = { cc with version := m.version, state := .running } := by
  rw [baseMessageCallback, if_neg (other_type type (by decide)), if_neg (other_type type (by decide)),
    if_neg (other_type type (by decide)), if_pos ⟨handshake, type⟩]

theorem baseMessageCallback_other (nonempty : client.ofsc.supportedVersions ≠ 0)
    (type : m.type ≠ ofptFeaturesRequest) (cc : OFConnection) :
    (client.baseMessageCallback cc m).1.state = cc.state ∧ (client.baseMessageCallback cc m).1.version = cc.version := by
  have notFeatures : ¬ (client.ofsc.handshake ∧ m.type = ofptFeaturesRequest) := fun both => type both.2
  rw [baseMessageCallback, if_neg notFeatures, rejects_eq_false nonempty]
  simp only [Bool.false_eq_true, ↓reduceIte]
  split_ifs <;> exact ⟨rfl, rfl⟩

theorem passesNegotiation_hello (nonempty : client.ofsc.supportedVersions ≠ 0)
    (handshake : client.ofsc.handshake = true) (type : hello.type = ofptHello) (cc : OFConnection) :
    PassesNegotiation cc (client.baseMessageCallback cc hello) := by
  rw [baseMessageCallback_hello nonempty handshake type]
  have dispatches : ∀ effect ∈ client.dispatchIfAll hello, effect = .messageCallback hello := by
    intro effect member
    unfold dispatchIfAll at member
    split_ifs at member
    · exact List.mem_singleton.mp member
    · exact absurd member List.not_mem_nil
  constructor
  · intro version xid type code member
    cases dispatches _ member
  · intro member
    cases dispatches _ member
  · rfl
  · intro member
    cases dispatches _ member

/-! ## All messages -/

theorem receive_snoc (client : OFClient) (cc : OFConnection) (messages : List OFMessage) (m : OFMessage) :
    client.receive cc (messages ++ [m]) = (client.baseMessageCallback (client.receive cc messages) m).1 :=
  List.foldl_concat ..

theorem running_supported (new : cc.state ≠ .running) (nonempty : client.ofsc.supportedVersions ≠ 0)
    (handshake : client.ofsc.handshake = true) (negotiable : ∀ m ∈ messages, client.Negotiable m)
    (running : (client.receive cc messages).state = .running) :
    client.Supports (client.receive cc messages).version := by
  induction messages using List.reverseRecOn with
  | nil => exact absurd running new
  | append_singleton before m ih =>
      rw [receive_snoc] at running ⊢
      by_cases type : m.type = ofptFeaturesRequest
      · rw [baseMessageCallback_featuresRequest handshake type]
        exact (negotiable m (by simp)).2 type
      · obtain ⟨state, version⟩ := baseMessageCallback_other nonempty type (client.receive cc before)
        rw [version]
        rw [state] at running
        exact ih (fun m member => negotiable m (by simp [member])) running

theorem negotiates_iff (client : OFClient) (cc : OFConnection) (new : cc.state ≠ .running)
    (handshake : client.ofsc.handshake = true) (nonempty : client.ofsc.supportedVersions ≠ 0)
    (messages : List OFMessage) : client.Negotiates cc messages ↔ ∀ m ∈ messages, client.Negotiable m := by
  constructor
  · intro negotiates m member
    obtain ⟨before, after, split⟩ := List.append_of_mem member
    constructor
    · intro type unsupported
      have closes := (negotiates.fails before m after split type unsupported).1.closes
      exact (passesNegotiation_hello nonempty handshake type _).open_ closes
    · intro type
      have past : before ++ [m] <+: messages := ⟨after, by rw [split, List.append_assoc]; rfl⟩
      have reached := negotiates.running _ past
      rw [receive_snoc, baseMessageCallback_featuresRequest handshake type] at reached
      exact reached rfl
  · intro negotiable
    constructor
    · rintro before hello after rfl type unsupported
      exact absurd unsupported ((negotiable hello (by simp)).1 type)
    · rintro before hello after rfl type -
      exact passesNegotiation_hello nonempty handshake type _
    · intro past inside running
      exact running_supported new nonempty handshake (fun m member => negotiable m (inside.subset member)) running

theorem supported_peer_negotiates :
    sampleClient.Negotiates newConnection [sampleMessage 1 ofptHello, sampleMessage 1 ofptFeaturesRequest] := by
  apply (negotiates_iff sampleClient newConnection (by decide) rfl (by decide) _).mpr
  unfold Negotiable
  decide

theorem unsupported_hello_passes :
    ¬ sampleClient.Negotiates newConnection [sampleMessage 4 ofptHello, sampleMessage 4 ofptFeaturesRequest] := by
  intro negotiates
  obtain ⟨fails, -⟩ := negotiates.fails [] (sampleMessage 4 ofptHello) [sampleMessage 4 ofptFeaturesRequest] rfl rfl
    (by decide)
  exact absurd fails.closes (by decide)

end OFClient

end Libfluid.Client
