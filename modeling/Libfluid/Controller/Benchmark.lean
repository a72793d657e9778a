import Libfluid.Controller.Wire
import Libfluid.Switch.Connection

namespace Libfluid.Controller
open Library Switch

namespace RawCBench

def flowMod : OfpFlowMod where
  header := { version := Of10.ofpVersion, type := Of10.ofptFlowMod, length := hton16 72, xid := 0 }
  match_ := RawLearningSwitch.emptyMatch
  cookie := 0
  command := Of10.ofpfcAdd
  idleTimeout := 0
  hardTimeout := 0
  priority := 0
  bufferId := 0
  outPort := 0
  flags := 0

def eventCallback {π : Type} : Event π → List Frame
  | .packetIn _ _ => [flowMod.bytes]
  | .switchUp _ _ | .switchDown _ => []

end RawCBench

structure Bench where
  dp : Datapath
  replies : List Frame

inductive BenchEvent
  | capture (packet : Packet) (len : BitVec 32)
  | connection (up : Bool)
  | delivery
deriving DecidableEq, Repr

def BenchEvent.isCapture : BenchEvent → Bool
  | .capture _ _ => true
  | .connection _ | .delivery => false

namespace Bench

def start (n : Nat) : Bench := { dp := .create n, replies := [] }

def answers (sent : List Effect) : List Frame :=
  sent.flatMap fun
    | .packetIn pi => RawCBench.eventCallback (.packetIn 0 pi)
    | .inject _ _ | .delete _ => []

/-- With a connection go the messages on it. -/
def step (bench : Bench) : BenchEvent → Except Switch.Fault Bench
  | .capture packet len => do
      let (dp, sent) ← bench.dp.step (.capture packet len)
      return { dp := dp, replies := bench.replies ++ answers sent }
  | .connection up => do
      let (dp, _) ← bench.dp.step (.connection up)
      return { dp := dp, replies := [] }
  | .delivery =>
      match bench.replies with
      | [] => .ok bench
      | reply :: rest =>
          match readFlowMod reply with
          | none => .ok { bench with replies := rest }
          | some fm => do
              let (dp, sent) ← bench.dp.step (.flowMod fm.toFlowMod)
              return { dp := dp, replies := rest ++ answers sent }

def run (bench : Bench) (events : List BenchEvent) : Except Switch.Fault Bench := events.foldlM step bench

def captures (events : List BenchEvent) : Nat := events.countP BenchEvent.isCapture

def link (events : List BenchEvent) : Bool × Bool :=
  events.foldl (fun (up, asked) event =>
    match event with
    | .capture _ _ => (up, asked || up)
    | .connection up' => (up', false)
    | .delivery => (up, asked)) (false, false)

/-- No message arrives of those that the application has sent over the connection. -/
def Unanswered (events : List BenchEvent) : Prop :=
  Throughout (fun past event => event = .delivery → (link past).2 = false) events

/-! ## One step -/

variable {events : List BenchEvent} {event : BenchEvent} {bench next : Bench}

structure Intact (events : List BenchEvent) (bench : Bench) : Prop where
  table : bench.dp.flowTable = .empty
  conn : bench.dp.conn = (link events).1
  counter : bench.dp.bufferId = BitVec.ofNat 32 (captures events)
  stored : ∀ entry ∈ bench.dp.pktBuffer, entry.1 ≠ 0
  sent : ∀ reply ∈ bench.replies, reply = RawCBench.flowMod.bytes
  waiting : bench.replies = [] ↔ (link events).2 = false

theorem link_snoc (events : List BenchEvent) (event : BenchEvent) : link (events ++ [event]) =
    match event with
    | .capture _ _ => ((link events).1, (link events).2 || (link events).1)
    | .connection up => (up, false)
    | .delivery => link events := by
  rw [link, List.foldl_append]
  cases event <;> rfl

theorem captures_snoc : captures (events ++ [event]) = captures events + if event.isCapture then 1 else 0 := by
  rw [captures, List.countP_append, List.countP_singleton]
  rfl

theorem start_intact (n : Nat) : Intact [] (start n) where
  table := rfl
  conn := rfl
  counter := rfl
  stored := fun _ member => absurd member List.not_mem_nil
  sent := fun _ member => absurd member List.not_mem_nil
  waiting := iff_of_true rfl rfl

theorem capture_intact (intact : Intact events bench) (packet : Packet) (len : BitVec 32)
    (few : captures (events ++ [.capture packet len]) < 2 ^ 32) :
    ∃ next, bench.step (.capture packet len) = .ok next ∧ Intact (events ++ [.capture packet len]) next := by
  obtain ⟨dp, sent, missed⟩ : ∃ dp sent, (bench.dp.newPacket packet).1.reportMiss bench.dp.heap.length packet len =
    (dp, sent) := ⟨_, _, rfl⟩
  have kept : dp = (bench.dp.newPacket packet).1.bufferPacket (some bench.dp.heap.length) := by
    have first := congrArg Prod.fst missed
    rw [Datapath.reportMiss] at first
    split_ifs at first <;> exact first.symm
  have asked : answers sent = if bench.dp.conn then [RawCBench.flowMod.bytes] else [] := by
    have conn : ((bench.dp.newPacket packet).1.bufferPacket (some bench.dp.heap.length)).conn = bench.dp.conn := rfl
    have second := congrArg Prod.snd missed
    rw [Datapath.reportMiss, conn] at second
    split_ifs at second ⊢ <;>
    · rw [← show _ = sent from second]
      rfl
  have counter : dp.bufferId = BitVec.ofNat 32 (captures events + 1) := by
    rw [kept]
    show bench.dp.bufferId + 1 = _
    rw [intact.counter, BitVec.ofNat_add]
    rfl
  rw [captures_snoc, BenchEvent.isCapture, if_pos rfl] at few
  refine ⟨{ dp := dp, replies := bench.replies ++ answers sent }, ?_, ?_⟩
  · rw [step, Datapath.capture_missed intact.table, missed]
    rfl
  constructor
  case table =>
    rw [kept]
    exact intact.table
  case conn =>
    rw [kept, link_snoc]
    exact intact.conn
  case counter =>
    rw [captures_snoc]
    exact counter
  case stored =>
    intro entry member
    rw [kept] at member
    rcases OrderedMap.mem_insertNew.mp member with old | ⟨rfl, -⟩
    · exact intact.stored entry old
    · intro zero
      rw [kept] at counter
      have next : (0 : BitVec 32) = BitVec.ofNat 32 (captures events + 1) := zero.symm.trans counter
      have same := congrArg BitVec.toNat next
      rw [BitVec.toNat_ofNat, Nat.mod_eq_of_lt few] at same
      cases same
  case sent =>
    intro reply member
    rcases List.mem_append.mp member with old | new
    · exact intact.sent reply old
    · rw [asked] at new
      split_ifs at new
      · exact List.mem_singleton.mp new
      · exact absurd new List.not_mem_nil
  case waiting =>
    rw [link_snoc, List.append_eq_nil_iff, intact.waiting, asked, intact.conn, Bool.or_eq_false_iff]
    cases (link events).1 <;> simp

theorem connection_intact (intact : Intact events bench) (up : Bool) :
    ∃ next, bench.step (.connection up) = .ok next ∧ Intact (events ++ [.connection up]) next := by
  refine ⟨_, rfl, ?_⟩
  constructor
  case table => exact intact.table
  case conn => rw [link_snoc]
  case counter =>
    rw [captures_snoc]
    exact intact.counter
  case stored => exact intact.stored
  case sent => exact fun _ member => absurd member List.not_mem_nil
  case waiting => exact iff_of_true rfl (by rw [link_snoc])

theorem reply_faults {dp : Datapath} (stored : ∀ entry ∈ dp.pktBuffer, entry.1 ≠ 0) :
    ∃ fm, readFlowMod RawCBench.flowMod.bytes = some fm ∧ dp.step (.flowMod fm.toFlowMod) = .error .nullPacket := by
  have length : (ntoh16 RawCBench.flowMod.header.length).toNat = 72 + 8 * 0 := by decide
  have command : readCommand (ntoh16 RawCBench.flowMod.command) = some .add := by decide
  have read := readFlowMod_bytes RawCBench.flowMod [] rfl rfl length command fun _ member => absurd member List.not_mem_nil
  rw [List.flatMap_nil, List.append_nil] at read
  refine ⟨_, read, ?_⟩
  have bufferId : (RawCBench.flowMod.read .add []).toFlowMod.bufferId = 0 := by decide
  have absent : dp.pktBuffer.lookup 0 = none := by
    apply OrderedMap.lookup_eq_none.mpr
    intro entry member same
    exact stored entry member (BitVec.eq_of_toNat_eq same)
  show Datapath.releaseToFlow _ _ (RawCBench.flowMod.read .add []).toFlowMod.bufferId = _
  rw [bufferId, Datapath.releaseToFlow, if_neg (by decide), Datapath.bufferedPacket]
  simp only [absent]
  rfl

theorem delivery_intact (intact : Intact events bench) (quiet : (link events).2 = false) :
    bench.step .delivery = .ok bench ∧ Intact (events ++ [.delivery]) bench := by
  have none := intact.waiting.mpr quiet
  constructor
  · rw [step, none]
  · constructor
    case table => exact intact.table
    case conn =>
      rw [link_snoc]
      exact intact.conn
    case counter =>
      rw [captures_snoc]
      exact intact.counter
    case stored => exact intact.stored
    case sent => exact intact.sent
    case waiting =>
      rw [link_snoc]
      exact intact.waiting

theorem delivery_faults (intact : Intact events bench) (asked : (link events).2 = true) :
    bench.step .delivery = .error .nullPacket := by
  cases waiting : bench.replies with
  | nil =>
      rw [intact.waiting.mp waiting] at asked
      cases asked
  | cons reply rest =>
      have laid : reply = RawCBench.flowMod.bytes := by
        apply intact.sent
        rw [waiting]
        exact List.mem_cons_self
      obtain ⟨fm, read, faults⟩ := reply_faults intact.stored
      rw [step, waiting, laid]
      simp only [read, faults]
      rfl

/-! ## Runs -/

theorem run_snoc (bench : Bench) (events : List BenchEvent) (event : BenchEvent) :
    bench.run (events ++ [event]) = bench.run events >>= fun next => next.step event := by
  rw [run, List.foldlM_append]
  congr 1
  funext next
  rw [List.foldlM_cons]
  cases next.step event <;> rfl

theorem run_outcome (n : Nat) (few : captures events < 2 ^ 32) :
    (Unanswered events → ∃ bench, (start n).run events = .ok bench ∧ Intact events bench) ∧
      (¬ Unanswered events → (start n).run events = .error .nullPacket) := by
  induction events using List.reverseRecOn with
  | nil => exact ⟨fun _ => ⟨start n, rfl, start_intact n⟩, fun answered => absurd throughout_nil answered⟩
  | append_singleton events event ih =>
      have fewer : captures events < 2 ^ 32 := by
        rw [captures_snoc] at few
        omega
      obtain ⟨survives, crashes⟩ := ih fewer
      rw [run_snoc, Unanswered, throughout_snoc_iff]
      by_cases unanswered : Unanswered events
      case neg =>
        rw [crashes unanswered]
        exact ⟨fun both => absurd both.1 unanswered, fun _ => rfl⟩
      obtain ⟨bench, ran, intact⟩ := survives unanswered
      rw [ran]
      show (_ → ∃ next, bench.step event = .ok next ∧ _) ∧ (_ → bench.step event = _)
      cases event with
      | capture packet len =>
          obtain ⟨next, steps, still⟩ := capture_intact intact packet len few
          exact ⟨fun _ => ⟨next, steps, still⟩, fun some => absurd ⟨unanswered, fun other => by cases other⟩ some⟩
      | connection up =>
          obtain ⟨next, steps, still⟩ := connection_intact intact up
          exact ⟨fun _ => ⟨next, steps, still⟩, fun some => absurd ⟨unanswered, fun other => by cases other⟩ some⟩
      | delivery =>
          constructor
          · rintro ⟨-, quiet⟩
            exact ⟨bench, delivery_intact intact (quiet rfl)⟩
          · intro some
            apply delivery_faults intact
            by_contra none
            exact some ⟨unanswered, fun _ => Bool.eq_false_iff.mpr none⟩

/-- The switch goes on for as long as no answer of the benchmark reaches it, and the first one that does crashes it. -/
theorem run_survives_iff (n : Nat) (events : List BenchEvent) (few : captures events < 2 ^ 32) :
    ((∃ bench, (start n).run events = .ok bench) ↔ Unanswered events) ∧
      (¬ Unanswered events → (start n).run events = .error .nullPacket) := by
  obtain ⟨survives, crashes⟩ := run_outcome n few
  refine ⟨⟨?_, fun unanswered => (survives unanswered).imp fun _ both => both.1⟩, crashes⟩
  rintro ⟨bench, ran⟩
  by_contra answered
  rw [crashes answered] at ran
  cases ran

def sampleCrash : List BenchEvent :=
  [.connection true, .capture { data := [], inPort := 1 } 0, .delivery]

theorem sample_crashes : (start 2).run sampleCrash = .error .nullPacket := by
  apply (run_survives_iff 2 sampleCrash (by decide)).2
  intro unanswered
  have quiet := unanswered [.connection true, .capture { data := [], inPort := 1 } 0] .delivery List.prefix_rfl rfl
  cases quiet

end Bench

end Libfluid.Controller
