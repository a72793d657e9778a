import Libfluid.Library.Run
import Libfluid.Controller.Bindings

namespace Libfluid.Controller
open Library Switch

structure Arrival where
  connection : Nat
  pi : PacketIn10
deriving DecidableEq, Repr

structure Twins where
  past : List Arrival
  java : PortTables (BitVec 64)
  python : PortTables Frame
  replies : List (Reply × Reply)

namespace Twins

def initial : Twins := { past := [], java := ∅, python := ∅, replies := [] }

def Steps (twins : Twins) (arrival : Arrival) (next : Twins) : Prop :=
  ∃ java reply, JavaLearningSwitch.messageCallback twins.java arrival.connection arrival.pi = .ok (java, reply) ∧
    next =
      { past := twins.past ++ [arrival]
        java := java
        python := (PythonLearningSwitch.messageCallback twins.python arrival.connection arrival.pi).1
        replies := twins.replies ++
          [(reply, (PythonLearningSwitch.messageCallback twins.python arrival.connection arrival.pi).2)] }

structure Agree (twins : Twins) : Prop where
  tables : portsOf longMac twins.java = portsOf octets twins.python
  replies : ∀ pair ∈ twins.replies, pair.1 = pair.2

end Twins

def lastPort (past : List Arrival) : Ports := fun connection address =>
  (past.reverse.find? fun arrival =>
    arrival.connection == connection && (arrival.pi.data.drop 6).take 6 == octets address).map fun arrival =>
      arrival.pi.inPort

/-- A packet to one of the two addresses repeats what is known of its source, and nothing is known of its
destination. -/
def Harmless (past : List Arrival) (arrival : Arrival) : Prop :=
  ∀ src dst, Addressed arrival.pi.data src dst → dst = broadcastAddress ∨ dst = javaFlooded →
    lastPort past arrival.connection src = some arrival.pi.inPort ∧ lastPort past arrival.connection dst = none

def AgreeThroughout (arrivals : List Arrival) : Prop :=
  ∀ twins, Visits Twins.Steps Twins.initial arrivals twins → twins.Agree

def HarmlessThroughout (arrivals : List Arrival) : Prop :=
  ∀ past arrival, past ++ [arrival] <+: arrivals → Harmless past arrival

/-! ## One packet -/

variable {past arrivals : List Arrival} {arrival : Arrival} {twins next : Twins} {src dst : EthAddress}
  {ports : Ports} {connection : Nat} {pi : PacketIn10}

theorem lastPort_snoc (past : List Arrival) (addressed : Addressed arrival.pi.data src dst) :
    lastPort (past ++ [arrival]) = (lastPort past).learned arrival.connection src arrival.pi.inPort := by
  obtain ⟨-, six⟩ := take_of_readEthAddress addressed.src
  funext connection address
  rw [lastPort, Ports.learned, List.reverse_append, List.reverse_singleton, List.singleton_append, List.find?_cons, six]
  by_cases both : connection = arrival.connection ∧ address = src
  · obtain ⟨rfl, rfl⟩ := both
    simp
  · have other : (arrival.connection == connection && octets src == octets address) = false := by
      simp only [Bool.and_eq_false_iff, beq_eq_false_iff_ne, ne_eq, octets_inj]
      rcases not_and_or.mp both with connections | addresses
      · exact Or.inl (Ne.symm connections)
      · exact Or.inr (Ne.symm addresses)
    rw [other, if_neg both]
    rfl

theorem portsOf_empty {κ : Type} [BEq κ] [Hashable κ] (key : EthAddress → κ) : portsOf key ∅ = lastPort [] := by
  funext connection address
  rw [portsOf, lookupPort, Std.HashMap.getElem?_empty]
  rfl

theorem harmless_addressed_iff (addressed : Addressed arrival.pi.data src dst) :
    Harmless past arrival ↔ (dst = broadcastAddress ∨ dst = javaFlooded →
      lastPort past arrival.connection src = some arrival.pi.inPort ∧ lastPort past arrival.connection dst = none) := by
  constructor
  · exact fun harmless => harmless src dst addressed
  · intro harmless src' dst' addressed'
    obtain ⟨rfl, rfl⟩ := addressed.unique addressed'
    exact harmless

theorem learned_eq_iff (ports : Ports) (connection : Nat) (src : EthAddress) (inPort : BitVec 16) :
    ports.learned connection src inPort = ports ↔ ports connection src = some inPort := by
  constructor
  · intro same
    rw [← same, Ports.learned, if_pos ⟨rfl, rfl⟩]
  · intro known
    funext connection' address
    rw [Ports.learned]
    split_ifs with both
    · rw [both.1, both.2, known]
    · rfl

theorem reply_eq_flood_iff : ports.reply connection pi src dst = .flood pi ↔
    ports.learned connection src pi.inPort connection dst = none := by
  rw [Ports.reply]
  cases ports.learned connection src pi.inPort connection dst with
  | none => simp
  | some port =>
      rw [Option.elim_some]
      exact iff_of_false (fun same => by cases same) (Option.some_ne_none _)

theorem harmless_iff :
    (ports.learned connection src pi.inPort, ports.reply connection pi src dst) = (ports, .flood pi) ↔
      ports connection src = some pi.inPort ∧ ports connection dst = none := by
  rw [Prod.mk.injEq, reply_eq_flood_iff, learned_eq_iff]
  constructor
  · rintro ⟨known, unknown⟩
    rw [(learned_eq_iff _ _ _ _).mpr known] at unknown
    exact ⟨known, unknown⟩
  · rintro ⟨known, unknown⟩
    rw [(learned_eq_iff _ _ _ _).mpr known]
    exact ⟨known, unknown⟩

theorem broadcast_ne_javaFlooded : broadcastAddress ≠ javaFlooded := by decide

theorem handle_eq_iff :
    ports.handle javaFlooded connection pi src dst = ports.handle broadcastAddress connection pi src dst ↔
      (dst = broadcastAddress ∨ dst = javaFlooded →
        ports connection src = some pi.inPort ∧ ports connection dst = none) := by
  rw [Ports.handle, Ports.handle]
  by_cases broadcast : dst = broadcastAddress
  · have other : dst ≠ javaFlooded := broadcast ▸ broadcast_ne_javaFlooded
    rw [if_pos broadcast, if_neg other, harmless_iff]
    simp [broadcast]
  · by_cases java : dst = javaFlooded
    · rw [if_pos java, if_neg broadcast, eq_comm, harmless_iff]
      simp [java]
    · rw [if_neg broadcast, if_neg java]
      simp [broadcast, java]

/-! ## Runs -/

namespace Twins

theorem steps_handle (addressed : Addressed arrival.pi.data src dst) (advance : Steps twins arrival next) :
    ∃ java python, next.past = twins.past ++ [arrival] ∧ next.replies = twins.replies ++ [(java, python)] ∧
      (portsOf longMac next.java, java) =
        (portsOf longMac twins.java).handle javaFlooded arrival.connection arrival.pi src dst ∧
      (portsOf octets next.python, python) =
        (portsOf octets twins.python).handle broadcastAddress arrival.connection arrival.pi src dst := by
  obtain ⟨java, reply, run, rfl⟩ := advance
  obtain ⟨java', reply', run', handled⟩ := java_messageCallback addressed twins.java arrival.connection
  obtain ⟨rfl, rfl⟩ := Prod.mk.inj (Except.ok.inj (run.symm.trans run'))
  exact ⟨reply, _, rfl, rfl, handled, python_messageCallback addressed twins.python arrival.connection⟩

def Recorded (twins : Twins) : Prop := portsOf octets twins.python = lastPort twins.past

theorem agree_next_iff (addressed : Addressed arrival.pi.data src dst) (recorded : twins.Recorded)
    (agree : twins.Agree) (advance : Steps twins arrival next) : next.Agree ↔ Harmless twins.past arrival := by
  obtain ⟨java, python, -, replies, javaHandled, pythonHandled⟩ := steps_handle addressed advance
  rw [agree.tables, recorded] at javaHandled
  rw [recorded] at pythonHandled
  have same : next.Agree ↔ (portsOf longMac next.java, java) = (portsOf octets next.python, python) := by
    rw [Prod.mk.injEq]
    constructor
    · intro after
      exact ⟨after.tables, after.replies (java, python) (by rw [replies]; simp)⟩
    · rintro ⟨tables, reply⟩
      refine ⟨tables, fun pair member => ?_⟩
      rw [replies] at member
      rcases List.mem_append.mp member with old | new
      · exact agree.replies pair old
      · rw [List.mem_singleton.mp new]
        exact reply
  rw [same, javaHandled, pythonHandled, handle_eq_iff, harmless_addressed_iff addressed]

theorem recorded_next (addressed : Addressed arrival.pi.data src dst) (recorded : twins.Recorded)
    (harmless : Harmless twins.past arrival) (advance : Steps twins arrival next) : next.Recorded := by
  obtain ⟨java, python, past, -, -, handled⟩ := steps_handle addressed advance
  have tables : portsOf octets next.python = _ := congrArg Prod.fst handled
  rw [Recorded, tables, past, lastPort_snoc twins.past addressed, recorded, Ports.handle]
  split_ifs with broadcast
  · obtain ⟨known, -⟩ := harmless src dst addressed (Or.inl broadcast)
    exact ((learned_eq_iff _ _ _ _).mpr known).symm
  · rfl

theorem run_past (run : Run Steps initial past twins) : twins.past = past := by
  induction run with
  | start => rfl
  | step before advance ih =>
      obtain ⟨java, reply, -, rfl⟩ := advance
      exact congrArg (· ++ [_]) ih

theorem initial_agree : initial.Agree where
  tables := (portsOf_empty longMac).trans (portsOf_empty octets).symm
  replies := fun _ member => absurd member List.not_mem_nil

theorem steps_exists (addressed : Addressed arrival.pi.data src dst) (twins : Twins) :
    ∃ next, Steps twins arrival next := by
  obtain ⟨java, reply, run, -⟩ := java_messageCallback addressed twins.java arrival.connection
  exact ⟨_, java, reply, run, rfl⟩

theorem run_exists (arrivals : List Arrival) (long : ∀ arrival ∈ arrivals, 12 ≤ arrival.pi.data.length) :
    ∃ twins, Run Steps initial arrivals twins := by
  induction arrivals using List.reverseRecOn with
  | nil => exact ⟨initial, .start⟩
  | append_singleton before arrival ih =>
      obtain ⟨twins, run⟩ := ih fun arrival member => long arrival (by simp [member])
      obtain ⟨src, dst, addressed⟩ := addressed_of_length (long arrival (by simp))
      obtain ⟨next, advance⟩ := steps_exists addressed twins
      exact ⟨next, run.step advance⟩

end Twins

/-- The switches agree on every packet exactly where every packet to one of the two addresses is harmless. -/
theorem agree_throughout_iff (arrivals : List Arrival) (long : ∀ arrival ∈ arrivals, 12 ≤ arrival.pi.data.length) :
    AgreeThroughout arrivals ↔ HarmlessThroughout arrivals := by
  have decided : AgreeThroughout arrivals ↔ ∀ twins arrival next,
      Takes Twins.Steps Twins.initial arrivals twins arrival next → Harmless twins.past arrival := by
    apply visits_iff_guarded_of_invariant (P := Twins.Recorded)
    · intro twins arrival next recorded agree takes
      obtain ⟨src, dst, addressed⟩ := addressed_of_length (long arrival takes.mem)
      exact Twins.agree_next_iff addressed recorded agree takes.steps
    · intro twins arrival next recorded _ takes harmless
      obtain ⟨src, dst, addressed⟩ := addressed_of_length (long arrival takes.mem)
      exact Twins.recorded_next addressed recorded harmless takes.steps
    · exact portsOf_empty octets
    · exact Twins.initial_agree
  rw [decided]
  constructor
  · intro harmless past arrival inside
    obtain ⟨twins, run⟩ := Twins.run_exists past fun arrival member =>
      long arrival (inside.subset (by simp [member]))
    obtain ⟨src, dst, addressed⟩ := addressed_of_length (long arrival (inside.subset (by simp)))
    obtain ⟨next, advance⟩ := Twins.steps_exists addressed twins
    rw [← Twins.run_past run]
    exact harmless twins arrival next ⟨past, inside, run, advance⟩
  · rintro harmless twins arrival next ⟨past, inside, run, -⟩
    rw [Twins.run_past run]
    exact harmless past arrival inside

def frameTo (dst src : EthAddress) : Frame := octets dst ++ octets src ++ [8, 0]

def sampleAddress (last : Byte) : EthAddress := ⟨0, 0, 0, 0, 0, last⟩

def sampleTo (dst src : EthAddress) (port : BitVec 16) : Arrival where
  connection := 0
  pi := { xid := 0, bufferId := noBuffer, totalLen := 14, inPort := port, reason := 0, data := frameTo dst src }

theorem addressed_frameTo (dst src : EthAddress) : Addressed (frameTo dst src) src dst := ⟨rfl, rfl⟩

def harmlessBroadcast : List Arrival :=
  [sampleTo (sampleAddress 2) (sampleAddress 1) 1, sampleTo (sampleAddress 1) (sampleAddress 2) 2,
   sampleTo broadcastAddress (sampleAddress 1) 1]

theorem broadcast_of_known_host_agrees : AgreeThroughout harmlessBroadcast := by
  have long : ∀ arrival ∈ harmlessBroadcast, 12 ≤ arrival.pi.data.length := by decide
  apply (agree_throughout_iff harmlessBroadcast long).mpr
  intro past arrival inside
  simp only [harmlessBroadcast, snoc_prefix_cons_iff, snoc_prefix_nil_iff, and_false, exists_false, or_false] at inside
  rcases inside with ⟨rfl, rfl⟩ | ⟨_, rfl, ⟨rfl, rfl⟩ | ⟨_, rfl, rfl, rfl⟩⟩
  · exact (harmless_addressed_iff (addressed_frameTo _ _)).mpr (by decide)
  · exact (harmless_addressed_iff (addressed_frameTo _ _)).mpr (by decide)
  · exact (harmless_addressed_iff (addressed_frameTo _ _)).mpr (by decide)

theorem first_broadcast_parts :
    ¬ AgreeThroughout [sampleTo broadcastAddress (sampleAddress 1) 1,
      sampleTo (sampleAddress 1) (sampleAddress 2) 2] := by
  intro agree
  have addressed : Addressed (sampleTo broadcastAddress (sampleAddress 1) 1).pi.data _ _ := addressed_frameTo _ _
  obtain ⟨next, advance⟩ := Twins.steps_exists addressed Twins.initial
  have visits : Visits Twins.Steps Twins.initial [sampleTo broadcastAddress (sampleAddress 1) 1,
      sampleTo (sampleAddress 1) (sampleAddress 2) 2] next := ⟨[_], ⟨[_], rfl⟩, Run.start.step advance⟩
  have recorded : Twins.initial.Recorded := portsOf_empty octets
  have harmless := (Twins.agree_next_iff addressed recorded Twins.initial_agree advance).mp (agree next visits)
  obtain ⟨known, -⟩ := harmless _ _ addressed (Or.inl rfl)
  cases known

end Libfluid.Controller
