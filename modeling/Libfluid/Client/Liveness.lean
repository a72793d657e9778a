import Libfluid.Library.LastWriter
import Libfluid.Library.Run
import Libfluid.Client.OFClient

/-!
# Liveness

The client on a clock of milliseconds. A timer fires in every interval from its registration on, and the clock
does not pass a timer that is due. All timers share the alive flag of the connection.
-/

namespace Libfluid.Client
open Library

structure Timer where
  due : Nat
  interval : Nat
deriving DecidableEq, Repr

inductive Happening
  | received (m : OFMessage)
  | effect (e : Effect)
deriving DecidableEq, Repr

structure Timeline where
  cc : OFConnection
  now : Nat
  timers : List Timer
  log : List (Nat × Happening)
deriving DecidableEq, Repr

inductive Event
  | message (m : OFMessage)
  | advance (span : Nat)
  | fire (timer : Nat)
deriving DecidableEq, Repr

def Effect.timer (now : Nat) (e : Effect) : Option Timer :=
  match e with
  | .addTimedCallback interval => some { due := now + interval, interval := interval }
  | _ => none

def Event.registers : Event → Bool
  | .message m => m.type == ofptFeaturesRequest
  | _ => false

namespace Timeline

def start (cc : OFConnection) : Timeline := { cc := cc, now := 0, timers := [], log := [] }

def perform (line : Timeline) (result : OFConnection × List Effect) : Timeline where
  cc := result.1
  now := line.now
  timers := line.timers ++ result.2.filterMap (Effect.timer line.now)
  log := line.log ++ result.2.map fun e => (line.now, .effect e)

def receive (line : Timeline) (m : OFMessage) : Timeline := { line with log := line.log ++ [(line.now, .received m)] }

def restart (line : Timeline) (i : Nat) (timer : Timer) : Timeline :=
  { line with timers := line.timers.set i { timer with due := timer.due + timer.interval } }

inductive Steps (client : OFClient) : Timeline → Event → Timeline → Prop
  | message {line : Timeline} (m : OFMessage) :
      Steps client line (.message m) ((line.receive m).perform (client.baseMessageCallback line.cc m))
  | advance {line : Timeline} {span : Nat} : (∀ timer ∈ line.timers, line.now + span ≤ timer.due) →
      Steps client line (.advance span) { line with now := line.now + span }
  | fire {line : Timeline} {i : Nat} {timer : Timer} : line.timers[i]? = some timer → timer.due = line.now →
      Steps client line (.fire i) ((line.restart i timer).perform (client.sendEcho line.cc))

end Timeline

namespace OFClient

/-! ## What is promised -/

def interval (client : OFClient) : Nat := client.ofsc.echoInterval * 1000

def IsRequest (sent : Nat) (entry : Nat × Happening) : Prop :=
  ∃ version xid, entry = (sent, .effect (.send (.echoRequest version xid)))

def Replies (client : OFClient) (m : OFMessage) : Prop := m.type = ofptEchoReply ∧ m.xid = client.echoXid

instance (client : OFClient) (m : OFMessage) : Decidable (client.Replies m) := inferInstanceAs (Decidable (_ ∧ _))

def IsReply (client : OFClient) (entry : Nat × Happening) : Prop :=
  ∃ m, entry.2 = .received m ∧ client.Replies m

def Unanswered (client : OFClient) (log : List (Nat × Happening)) (sent : Nat) : Prop :=
  SetLast (IsRequest sent) client.IsReply log

/-- Where the client declares the connection dead, a request has been unanswered for an interval. -/
def Justified (client : OFClient) (log : List (Nat × Happening)) : Prop :=
  Throughout (fun past entry => entry.2 = .effect (.connectionCallback .dead) →
    ∃ sent, client.Unanswered past sent ∧ sent + client.interval ≤ entry.1) log

/-! ## The condition -/

def timeStep (client : OFClient) (time : Nat × Option Nat) (event : Event) : Nat × Option Nat :=
  match event with
  | .message m => (time.1, if client.Replies m then none else time.2)
  | .advance span => (time.1 + span, time.2)
  | .fire _ => (time.1, some (time.2.getD time.1))

def timing (client : OFClient) (events : List Event) : Nat × Option Nat := events.foldl client.timeStep (0, none)

/-- No timer fires sooner than an interval after the first firing since the last reply. -/
def Patient (client : OFClient) (events : List Event) : Prop :=
  Throughout (fun past event => ∀ i first, event = .fire i → (client.timing past).2 = some first →
    first + client.interval ≤ (client.timing past).1) events

/-! ## One step -/

variable {client : OFClient} {cc : OFConnection} {m : OFMessage} {line next : Timeline} {events : List Event}
  {event : Event}

theorem timing_snoc (client : OFClient) (events : List Event) (event : Event) :
    client.timing (events ++ [event]) = client.timeStep (client.timing events) event := List.foldl_concat ..

def Quiet (e : Effect) : Prop :=
  (∀ version xid, e ≠ .send (.echoRequest version xid)) ∧ e ≠ .connectionCallback .dead

theorem quiet_dispatchIfAll : ∀ e ∈ client.dispatchIfAll m, Quiet e := by
  intro e member
  unfold dispatchIfAll at member
  split_ifs at member
  · rw [List.mem_singleton.mp member]
    simp [Quiet]
  · exact absurd member List.not_mem_nil

theorem quiet_baseMessageCallback (client : OFClient) (cc : OFConnection) (m : OFMessage) :
    ∀ e ∈ (client.baseMessageCallback cc m).2, Quiet e := by
  unfold baseMessageCallback
  split_ifs
  · exact List.forall_mem_cons.mpr ⟨by simp [Quiet], quiet_dispatchIfAll⟩
  · exact List.forall_mem_append.mpr ⟨by simp [Quiet], quiet_dispatchIfAll⟩
  · exact quiet_dispatchIfAll
  · exact quiet_dispatchIfAll
  · exact quiet_dispatchIfAll
  · simp [Quiet]
  · simp [Quiet]
  · simp [Quiet]

theorem alive_baseMessageCallback (liveness : client.ofsc.livenessCheck = true) :
    (client.baseMessageCallback cc m).1.alive = true ↔ client.Replies m ∨ cc.alive = true := by
  have other (type : m.type ≠ ofptEchoReply) : cc.alive = true ↔ client.Replies m ∨ cc.alive = true :=
    (or_iff_right fun reply => type reply.1).symm
  unfold baseMessageCallback
  split_ifs with echo hello rejected reply xid features
  · exact other (by rw [echo.2]; decide)
  · exact other (by rw [hello.2]; decide)
  · exact other (by rw [hello.2]; decide)
  · simp [Replies, reply.2, xid]
  · simp [Replies, xid]
  · exact other (by rw [features.2]; decide)
  · exact other fun type => reply ⟨liveness, type⟩

structure Tracks (client : OFClient) (events : List Event) (line : Timeline) : Prop where
  clock : (client.timing events).1 = line.now
  alive : line.cc.alive = true ↔ (client.timing events).2 = none
  requests : ∀ sent, client.Unanswered line.log sent ↔ (client.timing events).2 = some sent
  justified : client.Justified line.log ↔ client.Patient events

theorem unanswered_quiet {effects : List Effect}
    (quiet : ∀ e ∈ effects, ∀ version xid, e ≠ .send (.echoRequest version xid)) (now sent : Nat)
    (log : List (Nat × Happening)) :
    client.Unanswered (log ++ effects.map fun e => (now, .effect e)) sent ↔ client.Unanswered log sent := by
  apply SetLast.append_iff
  intro entry member
  obtain ⟨e, inside, rfl⟩ := List.mem_map.mp member
  constructor
  · rintro ⟨version, xid, same⟩
    cases same
    exact quiet _ inside _ _ rfl
  · rintro ⟨m, same, -⟩
    cases same

theorem justified_quiet {effects : List Effect} (quiet : ∀ e ∈ effects, e ≠ .connectionCallback .dead) (now : Nat)
    (log : List (Nat × Happening)) :
    client.Justified (log ++ effects.map fun e => (now, .effect e)) ↔ client.Justified log := by
  apply throughout_append_iff
  rintro entry member past dead
  obtain ⟨e, inside, rfl⟩ := List.mem_map.mp member
  cases dead
  exact absurd rfl (quiet _ inside)

theorem patient_snoc_iff (other : ∀ i, event ≠ .fire i) :
    client.Patient (events ++ [event]) ↔ client.Patient events := by
  unfold Patient
  rw [throughout_snoc_iff]
  exact and_iff_left fun i first fires => absurd fires (other i)

theorem tracks_message (tracks : client.Tracks events line) (liveness : client.ofsc.livenessCheck = true)
    (m : OFMessage) : client.Tracks (events ++ [.message m])
      ((line.receive m).perform (client.baseMessageCallback line.cc m)) := by
  have quiet := quiet_baseMessageCallback client line.cc m
  constructor
  · rw [timing_snoc]
    exact tracks.clock
  · show (client.baseMessageCallback line.cc m).1.alive = true ↔ _
    rw [alive_baseMessageCallback liveness, timing_snoc, tracks.alive]
    show _ ↔ (if client.Replies m then none else (client.timing events).2) = none
    split_ifs with reply
    · simp [reply]
    · simp [reply]
  · intro sent
    show client.Unanswered ((line.log ++ [(line.now, .received m)]) ++ _) sent ↔ _
    rw [unanswered_quiet fun e member => (quiet e member).1, Unanswered, SetLast.snoc_iff, timing_snoc]
    have notRequest : ¬ IsRequest sent (line.now, .received m) := by
      rintro ⟨version, xid, same⟩
      cases same
    have isReply : client.IsReply (line.now, .received m) ↔ client.Replies m := by
      constructor
      · rintro ⟨m', same, reply⟩
        cases same
        exact reply
      · exact fun reply => ⟨m, rfl, reply⟩
    rw [or_iff_right notRequest, isReply]
    show client.Unanswered line.log sent ∧ _ ↔ (if client.Replies m then none else (client.timing events).2) = some sent
    rw [tracks.requests sent]
    split_ifs with reply
    · simp [reply]
    · simp [reply]
  · show client.Justified ((line.log ++ [(line.now, .received m)]) ++ _) ↔ _
    rw [justified_quiet fun e member => (quiet e member).2, patient_snoc_iff (by simp), ← tracks.justified, Justified,
      throughout_snoc_iff]
    apply and_iff_left
    intro dead
    cases dead

theorem timing_fire (client : OFClient) (events : List Event) (i : Nat) :
    client.timing (events ++ [.fire i]) =
      ((client.timing events).1, some ((client.timing events).2.getD (client.timing events).1)) :=
  timing_snoc client events (.fire i)

theorem patient_fire_iff (i : Nat) :
    client.Patient (events ++ [.fire i]) ↔ client.Patient events ∧ ∀ first,
      (client.timing events).2 = some first → first + client.interval ≤ (client.timing events).1 := by
  unfold Patient
  rw [throughout_snoc_iff]
  apply and_congr_right
  intro _
  constructor
  · exact fun late first since => late i first rfl since
  · exact fun late j first _ since => late first since

theorem sendEcho_alive (alive : cc.alive = true) :
    client.sendEcho cc = ({ cc with alive := false }, [.send (.echoRequest cc.version client.echoXid)]) := by
  rw [sendEcho, alive]
  rfl

theorem sendEcho_unanswered (unanswered : cc.alive ≠ true) :
    client.sendEcho cc = (cc, [.close, .connectionCallback .dead]) := by
  rw [sendEcho, Bool.eq_false_iff.mpr unanswered]
  rfl

theorem tracks_request (tracks : client.Tracks events line) (i : Nat) (timer : Timer)
    (none : (client.timing events).2 = none) :
    client.Tracks (events ++ [.fire i]) ((line.restart i timer).perform (client.sendEcho line.cc)) := by
  have timed : client.timing (events ++ [.fire i]) = (line.now, some line.now) := by
    rw [timing_fire, tracks.clock, none, Option.getD_none]
  rw [sendEcho_alive (tracks.alive.mpr none)]
  constructor
  · rw [timed]
    rfl
  · rw [timed]
    exact iff_of_false Bool.false_ne_true (Option.some_ne_none _)
  · intro sent
    show client.Unanswered (line.log ++ [(line.now, .effect (.send (.echoRequest _ _)))]) sent ↔ _
    rw [timed, Unanswered, SetLast.snoc_iff]
    have old : ¬ client.Unanswered line.log sent := by
      rw [tracks.requests, none]
      exact Option.some_ne_none _ ∘ Eq.symm
    rw [or_iff_left fun both => old both.1]
    constructor
    · rintro ⟨version, xid, same⟩
      cases same
      rfl
    · intro same
      cases same
      exact ⟨_, _, rfl⟩
  · show client.Justified (line.log ++ [(line.now, .effect (.send (.echoRequest _ _)))]) ↔ _
    rw [patient_fire_iff, none, ← tracks.justified, Justified, throughout_snoc_iff]
    apply and_congr_right
    intro _
    exact iff_of_true (fun dead => by cases dead) fun first since => by cases since

theorem tracks_death (tracks : client.Tracks events line) (i : Nat) (timer : Timer) {first : Nat}
    (since : (client.timing events).2 = some first) :
    client.Tracks (events ++ [.fire i]) ((line.restart i timer).perform (client.sendEcho line.cc)) := by
  have timed : client.timing (events ++ [.fire i]) = (line.now, some first) := by
    rw [timing_fire, tracks.clock, since, Option.getD_some]
  have unanswered : line.cc.alive ≠ true := by
    rw [Ne, tracks.alive, since]
    exact Option.some_ne_none _
  rw [sendEcho_unanswered unanswered]
  constructor
  · rw [timed]
    rfl
  · rw [timed]
    exact iff_of_false unanswered (Option.some_ne_none _)
  · intro sent
    show client.Unanswered (line.log ++ [Effect.close, .connectionCallback .dead].map _) sent ↔ _
    rw [unanswered_quiet (by simp), timed, tracks.requests, since]
  · have closed (sent : Nat) : client.Unanswered (line.log ++ [Effect.close].map fun e => (line.now, .effect e)) sent ↔
        first = sent := by
      rw [unanswered_quiet (by simp), tracks.requests, since]
      exact Option.some_inj
    have log : line.log ++ [(line.now, .effect .close), (line.now, .effect (.connectionCallback .dead))] =
        (line.log ++ [Effect.close].map fun e => (line.now, .effect e)) ++
          [(line.now, .effect (.connectionCallback .dead))] := by
      rw [List.append_assoc]
      rfl
    show client.Justified (line.log ++ [(line.now, .effect .close), (line.now, _)]) ↔ _
    rw [log, patient_fire_iff, since, tracks.clock, ← tracks.justified, Justified, throughout_snoc_iff]
    apply and_congr
    · exact justified_quiet (by simp) line.now line.log
    · constructor
      · intro justified first' same
        cases same
        obtain ⟨sent, request, late⟩ := justified rfl
        rwa [(closed sent).mp request]
      · exact fun late _ => ⟨first, (closed first).mpr rfl, late first rfl⟩

theorem tracks_fire (tracks : client.Tracks events line) (i : Nat) (timer : Timer) :
    client.Tracks (events ++ [.fire i]) ((line.restart i timer).perform (client.sendEcho line.cc)) := by
  cases first : (client.timing events).2 with
  | none => exact tracks_request tracks i timer first
  | some f => exact tracks_death tracks i timer first

/-! ## Runs -/

theorem run_tracks (liveness : client.ofsc.livenessCheck = true) (alive : cc.alive = true)
    (run : Run (Timeline.Steps client) (.start cc) events line) : client.Tracks events line := by
  induction run with
  | start =>
      constructor
      · rfl
      · exact iff_of_true alive rfl
      · exact fun sent => iff_of_false SetLast.not_nil fun same => by cases same
      · exact iff_of_true throughout_nil throughout_nil
  | step before advance ih =>
      cases advance with
      | message m => exact tracks_message ih liveness m
      | advance idle =>
          constructor
          · rw [timing_snoc, timeStep, ih.clock]
          · rw [timing_snoc]
            exact ih.alive
          · intro sent
            rw [timing_snoc]
            exact ih.requests sent
          · rw [patient_snoc_iff (by simp)]
            exact ih.justified
      | fire found due => exact tracks_fire ih _ _

/-! ## A single timer -/

theorem timers_baseMessageCallback (client : OFClient) (cc : OFConnection) (m : OFMessage) (now : Nat) :
    (client.baseMessageCallback cc m).2.filterMap (Effect.timer now) = [] ∨
      m.type = ofptFeaturesRequest ∧ (client.baseMessageCallback cc m).2.filterMap (Effect.timer now) =
        [{ due := now + client.interval, interval := client.interval }] := by
  have dispatch : (client.dispatchIfAll m).filterMap (Effect.timer now) = [] := by
    unfold dispatchIfAll
    split_ifs <;> rfl
  unfold baseMessageCallback
  split_ifs with echo hello rejected reply xid features liveness
  · exact Or.inl dispatch
  · exact Or.inl dispatch
  · exact Or.inl dispatch
  · exact Or.inl dispatch
  · exact Or.inl dispatch
  · exact Or.inr ⟨features.2, rfl⟩
  · exact Or.inl rfl
  · exact Or.inl rfl

structure OneTimer (client : OFClient) (events : List Event) (line : Timeline) : Prop where
  few : line.timers.length ≤ events.countP Event.registers
  interval : ∀ timer ∈ line.timers, timer.interval = client.interval
  past : ∀ first, (client.timing events).2 = some first → first ≤ line.now
  due : ∀ first, (client.timing events).2 = some first → ∀ timer ∈ line.timers, first + client.interval ≤ timer.due
  patient : client.Patient events

theorem registers_snoc (events : List Event) (event : Event) :
    (events ++ [event]).countP Event.registers = events.countP Event.registers + if event.registers then 1 else 0 := by
  rw [List.countP_append, List.countP_singleton]

theorem oneTimer_message (one : client.OneTimer events line) (m : OFMessage) :
    client.OneTimer (events ++ [.message m]) ((line.receive m).perform (client.baseMessageCallback line.cc m)) := by
  have still {first : Nat} (since : (client.timing (events ++ [.message m])).2 = some first) :
      (client.timing events).2 = some first := by
    rw [timing_snoc] at since
    change (if client.Replies m then none else (client.timing events).2) = some first at since
    split_ifs at since
    exact since
  have patient : client.Patient (events ++ [.message m]) := (patient_snoc_iff (by simp)).mpr one.patient
  rcases timers_baseMessageCallback client line.cc m line.now with none | ⟨type, added⟩
  · have timers : ((line.receive m).perform (client.baseMessageCallback line.cc m)).timers = line.timers := by
      show line.timers ++ (client.baseMessageCallback line.cc m).2.filterMap (Effect.timer line.now) = line.timers
      rw [none, List.append_nil]
    constructor
    · rw [timers, registers_snoc]
      exact one.few.trans (Nat.le_add_right _ _)
    · rw [timers]
      exact one.interval
    · exact fun first since => one.past first (still since)
    · rw [timers]
      exact fun first since => one.due first (still since)
    · exact patient
  · have timers : ((line.receive m).perform (client.baseMessageCallback line.cc m)).timers =
        line.timers ++ [{ due := line.now + client.interval, interval := client.interval }] := by
      show line.timers ++ (client.baseMessageCallback line.cc m).2.filterMap (Effect.timer line.now) = _
      rw [added]
    constructor
    · have registers : (Event.message m).registers = true := beq_iff_eq.mpr type
      rw [timers, registers_snoc, List.length_append, registers]
      exact Nat.add_le_add_right one.few 1
    · rw [timers]
      exact List.forall_mem_append.mpr ⟨one.interval, by simp⟩
    · exact fun first since => one.past first (still since)
    · rw [timers]
      intro first since
      have past := one.past first (still since)
      exact List.forall_mem_append.mpr ⟨one.due first (still since), by simpa using past⟩
    · exact patient

theorem timers_sendEcho (client : OFClient) (cc : OFConnection) (now : Nat) :
    (client.sendEcho cc).2.filterMap (Effect.timer now) = [] := by
  unfold sendEcho
  split_ifs <;> rfl

theorem oneTimer_fire (one : client.OneTimer events line) (tracks : client.Tracks events line)
    (once : events.countP Event.registers ≤ 1) {i : Nat} {timer : Timer} (found : line.timers[i]? = some timer)
    (due : timer.due = line.now) :
    client.OneTimer (events ++ [.fire i]) ((line.restart i timer).perform (client.sendEcho line.cc)) := by
  have few := one.few.trans once
  obtain ⟨inside, -⟩ := List.getElem?_eq_some_iff.mp found
  obtain rfl : i = 0 := by omega
  obtain ⟨head, all⟩ := List.length_eq_one_iff.mp (show line.timers.length = 1 by omega)
  obtain rfl : timer = head := by
    rw [all] at found
    exact (Option.some.inj found).symm
  have member : timer ∈ line.timers := by simp [all]
  have timers : ((line.restart 0 timer).perform (client.sendEcho line.cc)).timers =
      [{ timer with due := line.now + client.interval }] := by
    show line.timers.set 0 { timer with due := timer.due + timer.interval } ++
      (client.sendEcho line.cc).2.filterMap (Effect.timer line.now) = _
    rw [timers_sendEcho, all, due, one.interval timer member]
    rfl
  have timed : (client.timing (events ++ [.fire 0])).2 = some ((client.timing events).2.getD line.now) := by
    rw [timing_fire, tracks.clock]
  have past : (client.timing events).2.getD line.now ≤ line.now := by
    cases first : (client.timing events).2 with
    | none => exact le_rfl
    | some f => exact one.past f first
  constructor
  · rw [timers, registers_snoc]
    exact inside.trans_le one.few
  · rw [timers]
    simpa using one.interval timer member
  · intro first since
    rw [timed] at since
    cases since
    exact past
  · rw [timers]
    intro first since
    rw [timed] at since
    cases since
    simpa using past
  · refine (patient_fire_iff 0).mpr ⟨one.patient, fun first since => ?_⟩
    rw [tracks.clock, ← due]
    exact one.due first since timer member

theorem run_oneTimer (liveness : client.ofsc.livenessCheck = true) (alive : cc.alive = true)
    (run : Run (Timeline.Steps client) (.start cc) events line) (once : events.countP Event.registers ≤ 1) :
    client.OneTimer events line := by
  induction run with
  | start =>
      constructor
      · exact le_rfl
      · exact fun timer member => absurd member List.not_mem_nil
      · exact fun first since => by cases since
      · exact fun first since => by cases since
      · exact throughout_nil
  | step before advance ih =>
      have tracks := run_tracks liveness alive before
      have earlier := (Nat.le_add_right _ _).trans (registers_snoc _ _ ▸ once)
      have one := ih earlier
      cases advance with
      | message m => exact oneTimer_message one m
      | advance idle =>
          constructor
          · rw [registers_snoc]
            exact one.few.trans (Nat.le_add_right _ _)
          · exact one.interval
          · rw [timing_snoc]
            exact fun first since => (one.past first since).trans (Nat.le_add_right _ _)
          · rw [timing_snoc]
            exact one.due
          · exact (patient_snoc_iff (by simp)).mpr one.patient
      | fire found due => exact oneTimer_fire one tracks earlier found due

theorem justified_of_one_request (liveness : client.ofsc.livenessCheck = true) (alive : cc.alive = true)
    (run : Run (Timeline.Steps client) (.start cc) events line) (once : events.countP Event.registers ≤ 1) :
    client.Justified line.log :=
  (run_tracks liveness alive run).justified.mpr (run_oneTimer liveness alive run once).patient

/-! ## The condition decides -/

theorem justified_iff (client : OFClient) (liveness : client.ofsc.livenessCheck = true) (cc : OFConnection)
    (alive : cc.alive = true) (events : List Event) (line : Timeline)
    (run : Run (Timeline.Steps client) (.start cc) events line) :
    client.Justified line.log ↔ client.Patient events :=
  (run_tracks liveness alive run).justified

theorem silent_peer_dies_late :
    ∃ line, Run (Timeline.Steps sampleClient) (.start newConnection)
        [.message (sampleMessage 1 ofptFeaturesRequest), .advance 1000, .fire 0, .advance 1000, .fire 0] line ∧
      sampleClient.Justified line.log := by
  have run : Run (Timeline.Steps sampleClient) (.start newConnection)
      [.message (sampleMessage 1 ofptFeaturesRequest), .advance 1000, .fire 0, .advance 1000, .fire 0] _ :=
    ((((Run.start.step (.message _)).step (.advance (by decide))).step (.fire rfl rfl)).step
      (.advance (by decide))).step (.fire rfl rfl)
  have one := run_oneTimer rfl rfl run (by decide)
  exact ⟨_, run, (justified_iff sampleClient rfl newConnection rfl _ _ run).mpr one.patient⟩

def twoRequests : List Event :=
  [.message (sampleMessage 1 ofptFeaturesRequest), .advance 1, .message (sampleMessage 1 ofptFeaturesRequest),
   .advance 999, .fire 0, .advance 1]

theorem second_timer_kills :
    ∃ line, Run (Timeline.Steps sampleClient) (.start newConnection) (twoRequests ++ [.fire 1]) line ∧
      ¬ sampleClient.Justified line.log := by
  have requests : Run (Timeline.Steps sampleClient) (.start newConnection) twoRequests _ :=
    (((((Run.start.step (.message _)).step (.advance (by decide))).step (.message _)).step
      (.advance (by decide))).step (.fire rfl rfl)).step (.advance (by decide))
  have run := requests.step (.fire (i := 1) rfl rfl)
  refine ⟨_, run, fun justified => ?_⟩
  have patient := (run_tracks rfl rfl run).justified.mp justified
  have late := patient twoRequests (.fire 1) List.prefix_rfl 1 1000 rfl rfl
  exact absurd late (by decide)

end OFClient

end Libfluid.Client
