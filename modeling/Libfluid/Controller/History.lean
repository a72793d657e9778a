import Libfluid.Library.LastWriter
import Libfluid.Controller.Table

namespace Libfluid.Controller
open Library Switch

def ArrivesFrom (connection : Nat) (address : EthAddress) (pi : PacketIn10) (event : Event PacketIn10) : Prop :=
  event = .packetIn connection pi ∧ ∃ dst, Addressed pi.data address dst

def Arrives (connection : Nat) (address : EthAddress) (port : BitVec 16) (event : Event PacketIn10) : Prop :=
  ∃ pi, ArrivesFrom connection address pi event ∧ pi.inPort = port

def Forgets (connection : Nat) (address : EthAddress) (event : Event PacketIn10) : Prop :=
  (∃ version, event = .switchUp connection version) ∨ event = .switchDown connection ∨
    ∃ pi, ArrivesFrom connection address pi event

/-- The most recent PACKET_IN from the address since the table was last replaced or cleared arrived on the
port. -/
def LastArrival (events : List (Event PacketIn10)) (connection : Nat) (address : EthAddress) (port : BitVec 16) :
    Prop :=
  SetLast (Arrives connection address port) (Forgets connection address) events

def Decides (result : Except Fault (BaseLearningSwitch × Option Decision)) (decision : Decision) : Prop :=
  ∃ app, result = .ok (app, some decision)

namespace RawLearningSwitch

def Steps (app : BaseLearningSwitch) (event : Event PacketIn10) (next : BaseLearningSwitch) : Prop :=
  ∃ decision, eventCallback app event = .ok (next, decision)

end RawLearningSwitch

namespace MultiLearningSwitch

def Steps (app : BaseLearningSwitch) (event : Event PacketInMessage) (next : BaseLearningSwitch) : Prop :=
  ∃ decision, decide app event = .ok (next, decision)

theorem decide_of10 (app : BaseLearningSwitch) (event : Event PacketIn10) :
    decide app (event.map .of10) = RawLearningSwitch.eventCallback app event := by
  cases event <;> rfl

theorem run_of10 {events : List (Event PacketIn10)} {app : BaseLearningSwitch} :
    Run Steps BaseLearningSwitch.initial (events.map (Event.map .of10)) app ↔
      Run RawLearningSwitch.Steps BaseLearningSwitch.initial events app := by
  induction events using List.reverseRecOn generalizing app with
  | nil => rw [List.map_nil, Run.nil_iff, Run.nil_iff]
  | append_singleton events last ih =>
      rw [List.map_append, List.map_singleton, Run.snoc_iff, Run.snoc_iff]
      simp only [ih, Steps, RawLearningSwitch.Steps, decide_of10]

end MultiLearningSwitch

namespace RawLearningSwitch

theorem handlePacketIn_ok (l2table : L2Table) (pi : PacketIn10) {src dst : EthAddress}
    (addressed : Addressed pi.data src dst) :
    handlePacketIn l2table pi = .ok (l2table.set (macKey src) pi.inPort,
      some ((l2table.answer src dst pi.inPort).elim .flood (.install (macKey src) (macKey dst)))) := by
  rw [handlePacketIn, readMac_ok addressed.dst, readMac_ok addressed.src]
  show Except.ok ((learn l2table (macKey src) (macKey dst) pi.inPort).1,
    some (learn l2table (macKey src) (macKey dst) pi.inPort).2) = _
  rw [learn_eq]

theorem handlePacketIn_addressed {l2table : L2Table} {pi : PacketIn10} {result : L2Table × Option Decision}
    (run : handlePacketIn l2table pi = .ok result) : ∃ src dst, Addressed pi.data src dst := by
  obtain ⟨dst, first, run⟩ := bind_eq_ok.mp run
  obtain ⟨src, second, -⟩ := bind_eq_ok.mp run
  obtain ⟨dstMac, first, -⟩ := readMac_eq_ok.mp first
  obtain ⟨srcMac, second, -⟩ := readMac_eq_ok.mp second
  exact ⟨srcMac, dstMac, first, second⟩

variable {app next : BaseLearningSwitch} {event : Event PacketIn10} {connection : Nat}

inductive Affects (connection : Nat) : Event PacketIn10 → Option L2Table → Option L2Table → Prop
  | up (version : BitVec 8) (before : Option L2Table) :
      Affects connection (.switchUp connection version) before (some .empty)
  | down (before : Option L2Table) : Affects connection (.switchDown connection) before (before.map fun _ => .empty)
  | unknown (pi : PacketIn10) : Affects connection (.packetIn connection pi) none none
  | learned {pi : PacketIn10} {src dst : EthAddress} (addressed : Addressed pi.data src dst) (l2table : L2Table) :
      Affects connection (.packetIn connection pi) (some l2table) (some (l2table.set (macKey src) pi.inPort))
  | elsewhere {event : Event PacketIn10} {table : Option L2Table} (other : event.connection ≠ connection) :
      Affects connection event table table

open BaseLearningSwitch in
theorem affects_switchUp (app : BaseLearningSwitch) (other : Nat) (version : BitVec 8) (connection : Nat) :
    Affects connection (.switchUp other version) (app.applicationData connection)
      ((app.switchUp other).applicationData connection) := by
  rw [switchUp]
  by_cases same : other = connection
  · subst same
    rw [setApplicationData_self]
    exact .up version _
  · rw [setApplicationData_of_ne app _ same]
    exact .elsewhere same

open BaseLearningSwitch in
theorem affects_switchDown (app : BaseLearningSwitch) (other connection : Nat) :
    Affects connection (.switchDown other) (app.applicationData connection)
      ((app.switchDown other).applicationData connection) := by
  by_cases same : other = connection
  · subst same
    have cleared : (app.switchDown other).applicationData other =
        (app.applicationData other).map fun _ => .empty := by
      rw [switchDown]
      cases table : app.applicationData other with
      | none => exact table
      | some l2table => exact setApplicationData_self app other .empty
    rw [cleared]
    exact .down _
  · have kept : (app.switchDown other).applicationData connection = app.applicationData connection := by
      rw [switchDown]
      cases app.applicationData other with
      | none => rfl
      | some l2table => exact setApplicationData_of_ne app .empty same
    rw [kept]
    exact .elsewhere same

theorem affects_packetIn {other : Nat} {pi : PacketIn10} {decision : Option Decision} (connection : Nat)
    (run : eventCallback app (.packetIn other pi) = .ok (next, decision)) :
    Affects connection (.packetIn other pi) (app.applicationData connection) (next.applicationData connection) := by
  rw [eventCallback, BaseLearningSwitch.eventCallback] at run
  cases table : app.applicationData other with
  | none =>
      rw [table] at run
      cases run
      by_cases same : other = connection
      · subst same
        rw [table]
        exact .unknown pi
      · exact .elsewhere same
  | some l2table =>
      rw [table] at run
      obtain ⟨⟨learned, decided⟩, handled, run⟩ := bind_eq_ok.mp run
      cases run
      obtain ⟨src, dst, addressed⟩ := handlePacketIn_addressed handled
      rw [handlePacketIn_ok l2table pi addressed] at handled
      cases handled
      by_cases same : other = connection
      · subst same
        rw [table, BaseLearningSwitch.setApplicationData_self]
        exact .learned addressed l2table
      · rw [BaseLearningSwitch.setApplicationData_of_ne app _ same]
        exact .elsewhere same

theorem step_affects (connection : Nat) (advance : Steps app event next) :
    Affects connection event (app.applicationData connection) (next.applicationData connection) := by
  obtain ⟨decision, run⟩ := advance
  cases event with
  | switchUp other version =>
      cases run
      exact affects_switchUp app other version connection
  | switchDown other =>
      cases run
      exact affects_switchDown app other connection
  | packetIn other pi => exact affects_packetIn connection run

/-! ## The table as a history -/

theorem arrives_packetIn {pi : PacketIn10} {src dst address : EthAddress} {port : BitVec 16}
    (addressed : Addressed pi.data src dst) :
    Arrives connection address port (.packetIn connection pi) ↔ address = src ∧ pi.inPort = port := by
  constructor
  · rintro ⟨pi', ⟨same, dst', addressed'⟩, arrived⟩
    cases same
    exact ⟨(addressed'.unique addressed).1, arrived⟩
  · rintro ⟨rfl, arrived⟩
    exact ⟨pi, ⟨rfl, dst, addressed⟩, arrived⟩

theorem forgets_packetIn {pi : PacketIn10} {src dst address : EthAddress} (addressed : Addressed pi.data src dst) :
    Forgets connection address (.packetIn connection pi) ↔ address = src := by
  constructor
  · rintro (⟨version, same⟩ | same | ⟨pi', same, dst', addressed'⟩)
    · cases same
    · cases same
    · cases same
      exact (addressed'.unique addressed).1
  · rintro rfl
    exact Or.inr (Or.inr ⟨pi, rfl, dst, addressed⟩)

theorem elsewhere (other : event.connection ≠ connection) (address : EthAddress) (port : BitVec 16) :
    ¬ Arrives connection address port event ∧ ¬ Forgets connection address event := by
  constructor
  · rintro ⟨pi, ⟨rfl, -⟩, -⟩
    exact other rfl
  · rintro (⟨version, rfl⟩ | rfl | ⟨pi, rfl, -⟩)
    · exact other rfl
    · exact other rfl
    · exact other rfl

def Recorded (events : List (Event PacketIn10)) (connection : Nat) : Option L2Table → Prop
  | none => ∀ version, Event.switchUp connection version ∉ events
  | some l2table => ∀ address port,
      l2table.lookup (macKey address) = some port ↔ LastArrival events connection address port

theorem recorded_cleared {events : List (Event PacketIn10)} (address : EthAddress) (port : BitVec 16)
    (notArrives : ¬ Arrives connection address port event) (forgets : Forgets connection address event) :
    (OrderedMap.empty : L2Table).lookup (macKey address) = some port ↔
      LastArrival (events ++ [event]) connection address port := by
  rw [LastArrival, SetLast.snoc_iff]
  refine iff_of_false (fun found => ?_) ?_
  · cases found
  · rintro (arrived | ⟨-, kept⟩)
    · exact notArrives arrived
    · exact kept forgets

theorem recorded_none {events : List (Event PacketIn10)} (recorded : Recorded events connection none)
    (other : ∀ version, event ≠ .switchUp connection version) : Recorded (events ++ [event]) connection none := by
  intro version member
  rcases List.mem_append.mp member with old | new
  · exact recorded version old
  · exact other version (List.mem_singleton.mp new).symm

theorem recorded_learned {events : List (Event PacketIn10)} {pi : PacketIn10} {src dst : EthAddress}
    {l2table : L2Table} (recorded : Recorded events connection (some l2table)) (addressed : Addressed pi.data src dst) :
    Recorded (events ++ [.packetIn connection pi]) connection (some (l2table.set (macKey src) pi.inPort)) := by
  intro address port
  have before := recorded address port
  rw [LastArrival] at before
  rw [lookup_learned, L2Table.answer, LastArrival, SetLast.snoc_iff, arrives_packetIn addressed,
    forgets_packetIn addressed]
  by_cases same : address = src
  · simp [same]
  · rw [if_neg same]
    simpa [same] using before

theorem recorded_elsewhere {events : List (Event PacketIn10)} {table : Option L2Table}
    (recorded : Recorded events connection table) (other : event.connection ≠ connection) :
    Recorded (events ++ [event]) connection table := by
  cases table with
  | none =>
      apply recorded_none recorded
      rintro version rfl
      exact other rfl
  | some l2table =>
      intro address port
      obtain ⟨notArrives, kept⟩ := elsewhere other address port
      have before := recorded address port
      rw [LastArrival] at before
      rw [LastArrival, SetLast.snoc_iff]
      simpa [notArrives, kept] using before

theorem affects_recorded {events : List (Event PacketIn10)} {before after : Option L2Table}
    (recorded : Recorded events connection before) (affects : Affects connection event before after) :
    Recorded (events ++ [event]) connection after := by
  cases affects with
  | up version =>
      intro address port
      apply recorded_cleared address port
      · rintro ⟨pi, ⟨same, -⟩, -⟩
        cases same
      · exact Or.inl ⟨version, rfl⟩
  | down =>
      cases before with
      | none => exact recorded_none recorded (by simp)
      | some l2table =>
          intro address port
          apply recorded_cleared address port
          · rintro ⟨pi, ⟨same, -⟩, -⟩
            cases same
          · exact Or.inr (Or.inl rfl)
  | unknown pi => exact recorded_none recorded (by simp)
  | learned addressed l2table => exact recorded_learned recorded addressed
  | elsewhere other => exact recorded_elsewhere recorded other

theorem run_recorded {events : List (Event PacketIn10)} (run : Run Steps BaseLearningSwitch.initial events app) :
    Recorded events connection (app.applicationData connection) := by
  induction run with
  | start => exact fun version => List.not_mem_nil
  | step before advance ih => exact affects_recorded ih (step_affects connection advance)

theorem table_of_up {events : List (Event PacketIn10)} {version : BitVec 8}
    (run : Run Steps BaseLearningSwitch.initial events app) (up : .switchUp connection version ∈ events) :
    ∃ l2table, app.applicationData connection = some l2table := by
  have recorded : Recorded events connection (app.applicationData connection) := run_recorded run
  cases table : app.applicationData connection with
  | none =>
      rw [table] at recorded
      exact absurd up (recorded version)
  | some l2table => exact ⟨l2table, rfl⟩

theorem decides_iff {l2table : L2Table} (table : app.applicationData connection = some l2table) {pi : PacketIn10}
    {src dst : EthAddress} (addressed : Addressed pi.data src dst) (decision : Decision) :
    Decides (eventCallback app (.packetIn connection pi)) decision ↔
      (l2table.answer src dst pi.inPort).elim .flood (.install (macKey src) (macKey dst)) = decision := by
  rw [eventCallback, BaseLearningSwitch.eventCallback, table]
  simp only [handlePacketIn_ok l2table pi addressed]
  constructor
  · rintro ⟨next, same⟩
    cases same
    rfl
  · rintro rfl
    exact ⟨_, rfl⟩

theorem answer_eq_some_iff {events : List (Event PacketIn10)} {l2table : L2Table}
    (recorded : Recorded events connection (some l2table)) {pi : PacketIn10} {src dst : EthAddress}
    (addressed : Addressed pi.data src dst) (port : BitVec 16) :
    l2table.answer src dst pi.inPort = some port ↔
      LastArrival (events ++ [.packetIn connection pi]) connection dst port := by
  have before := recorded dst port
  rw [LastArrival] at before
  rw [LastArrival, SetLast.snoc_iff, arrives_packetIn addressed, forgets_packetIn addressed, L2Table.answer]
  by_cases same : dst = src
  · simp [same]
  · simpa [same] using before

end RawLearningSwitch

/-! ## Decisions -/

def onConnection (connection : Nat) (events : List (Event PacketIn10)) : List (Event PacketIn10) :=
  events.filter fun event => event.connection == connection

theorem lastArrival_onConnection {events : List (Event PacketIn10)} {connection : Nat} {address : EthAddress}
    {port : BitVec 16} : LastArrival (onConnection connection events) connection address port ↔
      LastArrival events connection address port := by
  apply SetLast.filter_iff
  intro event other
  exact RawLearningSwitch.elsewhere (by simpa using other) address port

theorem lastArrival_congr {events events' : List (Event PacketIn10)} {connection : Nat} {address : EthAddress}
    {port : BitVec 16} (same : onConnection connection events = onConnection connection events')
    (event : Event PacketIn10) :
    LastArrival (events ++ [event]) connection address port ↔
      LastArrival (events' ++ [event]) connection address port := by
  have filtered : onConnection connection (events ++ [event]) = onConnection connection (events' ++ [event]) := by
    rw [onConnection, onConnection, List.filter_append, List.filter_append]
    exact congrArg (· ++ _) same
  rw [← lastArrival_onConnection, filtered, lastArrival_onConnection]

def DecidesByHistory (decides : Decision → Prop) (events : List (Event PacketIn10)) (connection : Nat)
    (src dst : EthAddress) : Prop :=
  (∀ port, decides (.install (macKey src) (macKey dst) port) ↔ LastArrival events connection dst port) ∧
    (decides .flood ↔ ∀ port, ¬ LastArrival events connection dst port)

theorem decision_eq_install_iff {answer : Option (BitVec 16)} {src dst : BitVec 64} {port : BitVec 16} :
    answer.elim .flood (.install src dst) = Decision.install src dst port ↔ answer = some port := by
  cases answer with
  | none => simp
  | some found => simp

theorem decision_eq_flood_iff {answer : Option (BitVec 16)} {src dst : BitVec 64} :
    answer.elim .flood (.install src dst) = Decision.flood ↔ answer = none := by
  cases answer with
  | none => simp
  | some found => simp

open RawLearningSwitch in
theorem run_decidesByHistory {events : List (Event PacketIn10)} {app : BaseLearningSwitch} {connection : Nat}
    {version : BitVec 8} (run : Run Steps BaseLearningSwitch.initial events app)
    (up : .switchUp connection version ∈ events) {pi : PacketIn10} {src dst : EthAddress}
    (addressed : Addressed pi.data src dst) :
    DecidesByHistory (Decides (eventCallback app (.packetIn connection pi)))
      (events ++ [.packetIn connection pi]) connection src dst := by
  obtain ⟨l2table, table⟩ := table_of_up run up
  have recorded : Recorded events connection (some l2table) := table ▸ run_recorded run
  have answers := answer_eq_some_iff recorded addressed
  constructor
  · intro port
    rw [decides_iff table addressed, decision_eq_install_iff, answers]
  · rw [decides_iff table addressed, decision_eq_flood_iff, Option.eq_none_iff_forall_ne_some]
    exact forall_congr' fun port => (answers port).not

theorem switchUp_mem_onConnection {events : List (Event PacketIn10)} {connection : Nat} {version : BitVec 8} :
    .switchUp connection version ∈ onConnection connection events ↔ .switchUp connection version ∈ events := by
  rw [onConnection, List.mem_filter]
  exact and_iff_left (beq_self_eq_true connection)

open RawLearningSwitch in
theorem decides_of_onConnection {events events' : List (Event PacketIn10)} {app app' : BaseLearningSwitch}
    {connection : Nat} {version : BitVec 8} (run : Run Steps BaseLearningSwitch.initial events app)
    (run' : Run Steps BaseLearningSwitch.initial events' app')
    (same : onConnection connection events = onConnection connection events')
    (up : .switchUp connection version ∈ events) {pi : PacketIn10} {src dst : EthAddress}
    (addressed : Addressed pi.data src dst) (decision : Decision) :
    Decides (eventCallback app (.packetIn connection pi)) decision ↔
      Decides (eventCallback app' (.packetIn connection pi)) decision := by
  have up' : .switchUp connection version ∈ events' := by
    rw [← switchUp_mem_onConnection, ← same, switchUp_mem_onConnection]
    exact up
  obtain ⟨l2table, table⟩ := table_of_up run up
  obtain ⟨l2table', table'⟩ := table_of_up run' up'
  have recorded : Recorded events connection (some l2table) := table ▸ run_recorded run
  have recorded' : Recorded events' connection (some l2table') := table' ▸ run_recorded run'
  have answers : l2table.answer src dst pi.inPort = l2table'.answer src dst pi.inPort := by
    apply Option.ext
    intro port
    show l2table.answer src dst pi.inPort = some port ↔ l2table'.answer src dst pi.inPort = some port
    rw [answer_eq_some_iff recorded addressed, answer_eq_some_iff recorded' addressed]
    exact lastArrival_congr same _
  rw [decides_iff table addressed, decides_iff table' addressed, answers]

/-- Both learning switches decide by the history of the connection, and the events of the other connections
do not matter. -/
theorem learning_switches_agree (events : List (Event PacketIn10)) (raw multi : BaseLearningSwitch)
    (rawRun : Run RawLearningSwitch.Steps BaseLearningSwitch.initial events raw)
    (multiRun : Run MultiLearningSwitch.Steps BaseLearningSwitch.initial (events.map (Event.map .of10)) multi)
    (connection : Nat) (up : ∃ version, .switchUp connection version ∈ events) (pi : PacketIn10)
    (src dst : EthAddress) (addressed : Addressed pi.data src dst) :
    DecidesByHistory (Decides (RawLearningSwitch.eventCallback raw (.packetIn connection pi)))
        (events ++ [.packetIn connection pi]) connection src dst ∧
      DecidesByHistory (Decides (MultiLearningSwitch.decide multi (.packetIn connection (.of10 pi))))
        (events ++ [.packetIn connection pi]) connection src dst ∧
      ∀ events' raw', Run RawLearningSwitch.Steps BaseLearningSwitch.initial events' raw' →
        onConnection connection events' = onConnection connection events →
        ∀ decision, Decides (RawLearningSwitch.eventCallback raw' (.packetIn connection pi)) decision ↔
          Decides (MultiLearningSwitch.decide multi (.packetIn connection (.of10 pi))) decision := by
  have multiRun : Run RawLearningSwitch.Steps BaseLearningSwitch.initial events multi :=
    MultiLearningSwitch.run_of10.mp multiRun
  have sameCallback : MultiLearningSwitch.decide multi (.packetIn connection (.of10 pi)) =
      RawLearningSwitch.eventCallback multi (.packetIn connection pi) :=
    MultiLearningSwitch.decide_of10 multi (.packetIn connection pi)
  obtain ⟨version, up⟩ := up
  rw [sameCallback]
  refine ⟨run_decidesByHistory rawRun up addressed, run_decidesByHistory multiRun up addressed, ?_⟩
  intro events' raw' run' sameEvents
  have up' : .switchUp connection version ∈ events' := by
    rw [← switchUp_mem_onConnection, sameEvents, switchUp_mem_onConnection]
    exact up
  exact decides_of_onConnection run' multiRun sameEvents up' addressed

def sampleArrival : PacketIn10 :=
  { xid := 21, bufferId := 1, inPort := 1, totalLen := 14, reason := 0, data := sampleFrame }

def sampleAnswer (inPort : BitVec 16) : PacketIn10 :=
  { sampleArrival with inPort := inPort, data := [0, 0, 0, 0, 0, 1, 0, 0, 0, 0, 0, 2, 8, 0] }

def twoConnections : List (Event PacketIn10) :=
  [.switchUp 0 1, .switchUp 1 1, .packetIn 0 (sampleAnswer 2), .packetIn 1 (sampleAnswer 3)]

theorem learned_arrival_decided :
    ∃ app, Run RawLearningSwitch.Steps BaseLearningSwitch.initial twoConnections app ∧
      DecidesByHistory (Decides (RawLearningSwitch.eventCallback app (.packetIn 0 sampleArrival)))
        (twoConnections ++ [.packetIn 0 sampleArrival]) 0 ⟨0, 0, 0, 0, 0, 1⟩ ⟨0, 0, 0, 0, 0, 2⟩ ∧
      Decides (RawLearningSwitch.eventCallback app (.packetIn 0 sampleArrival))
        (.install (macKey ⟨0, 0, 0, 0, 0, 1⟩) (macKey ⟨0, 0, 0, 0, 0, 2⟩) 2) := by
  have run : Run RawLearningSwitch.Steps BaseLearningSwitch.initial twoConnections _ :=
    (((Run.start.step ⟨_, rfl⟩).step ⟨_, rfl⟩).step ⟨_, rfl⟩).step ⟨_, rfl⟩
  have multiRun := MultiLearningSwitch.run_of10.mpr run
  refine ⟨_, run, (learning_switches_agree _ _ _ run multiRun 0 ⟨1, by simp [twoConnections]⟩ sampleArrival _ _ ?_).1, ?_⟩
  · exact ⟨rfl, rfl⟩
  · exact ⟨_, rfl⟩

end Libfluid.Controller
