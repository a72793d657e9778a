import Libfluid.Controller.Dispatch
import Libfluid.Controller.Table

namespace Libfluid.Controller
open Library

variable {π : Type}

/-! ## One switch for all -/

/-- What the controller and its applications do together: one learning switch behind a flag. -/
structure SharedSwitch where
  running : Bool
  app : BaseLearningSwitch

def Idempotent (handle : L2Table → π → Except Fault (L2Table × Option Decision)) : Prop :=
  ∀ entries pi entries' decision, handle entries pi = .ok (entries', decision) →
    handle entries' pi = .ok (entries', decision)

def ServerEvent.dispatched : ServerEvent π → Option (EventType × Event π)
  | .message ofconn version type content =>
      if type = Server.ofptPacketIn then some (.packetIn, .packetIn ofconn content)
      else if type = Server.ofptFeaturesReply then some (.switchUp, .switchUp ofconn version)
      else none
  | .connection ofconn .closed | .connection ofconn .dead => some (.switchDown, .switchDown ofconn)
  | .connection _ _ | .stop | .destroy _ => none

namespace SharedSwitch

variable (handle : L2Table → π → Except Fault (L2Table × Option Decision)) (eventListeners : EventType → List Nat)

def initial : SharedSwitch := { running := true, app := .initial }

def dispatch (shared : SharedSwitch) (type : EventType) (event : Event π) : Except Fault (SharedSwitch × List Called) :=
  if shared.running then do
    let (app, decision) ← BaseLearningSwitch.eventCallback handle shared.app event
    return ({ shared with app := app }, (eventListeners type).map fun listener => (listener, decision))
  else .ok (shared, [])

def step (shared : SharedSwitch) : ServerEvent π → Except Fault (SharedSwitch × List Called)
  | .stop => .ok ({ shared with running := false }, [])
  | event =>
      event.dispatched.elim (.ok (shared, [])) fun entry => shared.dispatch handle eventListeners entry.1 entry.2

def run : SharedSwitch → List (ServerEvent π) → Except Fault (SharedSwitch × List Called)
  | shared, [] => .ok (shared, [])
  | shared, event :: rest => do
      let (shared, called) ← shared.step handle eventListeners event
      let (shared, later) ← run shared rest
      return (shared, called ++ later)

end SharedSwitch

/-! ## The heap behind it -/

structure Refines (server : Server π) (app : BaseLearningSwitch) : Prop where
  tables : ∀ ofconn, app.applicationData ofconn = (server.applicationData ofconn).bind server.tables.read
  live : ∀ ofconn l2table, server.applicationData ofconn = some l2table →
    ∃ entries, server.tables.read l2table = some entries
  separate : ∀ ofconn ofconn' l2table, server.applicationData ofconn = some l2table →
    server.applicationData ofconn' = some l2table → ofconn = ofconn'

structure Owned (server : Server π) : Prop where
  known : ∀ app l2table, l2table ∈ server.l2tables app → ∃ entries, server.tables.read l2table = some entries
  once : ∀ app, (server.l2tables app).Nodup
  apart : ∀ app app' l2table, l2table ∈ server.l2tables app → l2table ∈ server.l2tables app' → app = app'
  held : ∀ l2table entries, server.tables.read l2table = some entries → ∃ app, l2table ∈ server.l2tables app

structure Keeps (server : Server π) (ev : ControllerEvent) (listeners : List Nat) (server' : Server π) : Prop where
  eventListeners : server'.eventListeners = server.eventListeners
  running : server'.running = server.running
  messages : server'.messages = server.messages
  l2tables : ∀ app, (app ∈ listeners → ev.getType ≠ .switchUp) → server'.l2tables app = server.l2tables app

/-- The event of the library, and what its message says. -/
inductive Reads (server : Server π) : ControllerEvent → Event π → Prop
  | packetIn {ofconn data : Nat} {pi : π} : server.messages.read data = some pi →
      Reads server (.packetIn ofconn data) (.packetIn ofconn pi)
  | switchUp {ofconn data : Nat} {content : π} {version : BitVec 8} : server.messages.read data = some content →
      Reads server (.switchUp ofconn data) (.switchUp ofconn version)
  | switchDown {ofconn : Nat} : Reads server (.switchDown ofconn) (.switchDown ofconn)

variable {server server' : Server π} {app app' : BaseLearningSwitch} {ofconn l2table data : Nat} {entries : L2Table}
  {handle : L2Table → π → Except Fault (L2Table × Option Decision)} {ev : ControllerEvent} {event : Event π}
  {decision : Option Decision} {listener : Nat}

theorem Refines.initial (eventListeners : EventType → List Nat) :
    Refines (Server.initial (π := π) eventListeners) .initial where
  tables := fun _ => rfl
  live := fun _ _ absent => by cases absent
  separate := fun _ _ _ absent => by cases absent

theorem Owned.initial (eventListeners : EventType → List Nat) : Owned (Server.initial (π := π) eventListeners) where
  known := fun _ _ member => absurd member List.not_mem_nil
  once := fun _ => List.nodup_nil
  apart := fun _ _ _ member => absurd member List.not_mem_nil
  held := fun _ _ live => by simp [Server.initial, Heap.read] at live

theorem Refines.newTable (refines : Refines server app) (listener : Nat) :
    Refines (server.newTable listener ofconn) (app.switchUp ofconn) := by
  have old {ofconn' l2table : Nat} (points : server.applicationData ofconn' = some l2table) :
      l2table ≠ server.tables.length := by
    obtain ⟨entries, live⟩ := refines.live ofconn' l2table points
    exact Nat.ne_of_lt (Heap.lt_of_read live)
  have other {ofconn' : Nat} (different : ofconn' ≠ ofconn) :
      (server.newTable listener ofconn).applicationData ofconn' = server.applicationData ofconn' :=
    Function.update_of_ne different ..
  have own : (server.newTable listener ofconn).applicationData ofconn = some server.tables.length :=
    Function.update_self ..
  have read (l2table : Nat) : (server.newTable listener ofconn).tables.read l2table =
      if l2table = server.tables.length then some .empty else server.tables.read l2table := Heap.read_alloc
  constructor
  case tables =>
    intro ofconn'
    by_cases same : ofconn' = ofconn
    · subst same
      rw [own, Option.bind_some, read, if_pos rfl]
      exact Function.update_self ..
    · rw [other same]
      have before : (app.switchUp ofconn).applicationData ofconn' = app.applicationData ofconn' :=
        Function.update_of_ne same ..
      rw [before, refines.tables ofconn']
      cases points : server.applicationData ofconn' with
      | none => rfl
      | some l2table => rw [Option.bind_some, Option.bind_some, read, if_neg (old points)]
  case live =>
    intro ofconn' l2table points
    rw [read]
    split_ifs with new
    · exact ⟨.empty, rfl⟩
    · by_cases same : ofconn' = ofconn
      · rw [same, own, Option.some_inj] at points
        exact absurd points.symm new
      · rw [other same] at points
        exact refines.live ofconn' l2table points
  case separate =>
    intro a b l2table points points'
    by_cases first : a = ofconn <;> by_cases second : b = ofconn
    · rw [first, second]
    · rw [first, own, Option.some_inj] at points
      rw [other second] at points'
      exact absurd points.symm (old points')
    · rw [second, own, Option.some_inj] at points'
      rw [other first] at points
      exact absurd points'.symm (old points)
    · rw [other first] at points
      rw [other second] at points'
      exact refines.separate a b l2table points points'

theorem Refines.writeTable (refines : Refines server app) (points : server.applicationData ofconn = some l2table)
    (entries : L2Table) : Refines (server.writeTable l2table entries) (app.setApplicationData ofconn entries) := by
  obtain ⟨before, live⟩ := refines.live ofconn l2table points
  have read (other : Nat) : (server.writeTable l2table entries).tables.read other =
      if other = l2table then some entries else server.tables.read other := Heap.read_write live
  constructor
  case tables =>
    intro ofconn'
    show _ = (server.applicationData ofconn').bind _
    by_cases same : ofconn' = ofconn
    · subst same
      rw [points, Option.bind_some, read, if_pos rfl]
      exact Function.update_self ..
    · have unchanged : (app.setApplicationData ofconn entries).applicationData ofconn' = app.applicationData ofconn' :=
        Function.update_of_ne same ..
      rw [unchanged, refines.tables ofconn']
      cases points' : server.applicationData ofconn' with
      | none => rfl
      | some other =>
          have apart : other ≠ l2table := by
            rintro rfl
            exact same (refines.separate ofconn' ofconn other points' points)
          rw [Option.bind_some, Option.bind_some, read, if_neg apart]
  case live =>
    intro ofconn' other points'
    rw [read]
    split_ifs
    · exact ⟨entries, rfl⟩
    · exact refines.live ofconn' other points'
  case separate => exact refines.separate

theorem Owned.newTable (owned : Owned server) (listener ofconn : Nat) : Owned (server.newTable listener ofconn) := by
  have read (l2table : Nat) : (server.newTable listener ofconn).tables.read l2table =
      if l2table = server.tables.length then some .empty else server.tables.read l2table := Heap.read_alloc
  have mem (app l2table : Nat) : l2table ∈ (server.newTable listener ofconn).l2tables app ↔
      l2table ∈ server.l2tables app ∨ app = listener ∧ l2table = server.tables.length := by
    by_cases same : app = listener
    · subst same
      simp [Server.newTable]
    · simp [Server.newTable, same]
  have fresh (app : Nat) : server.tables.length ∉ server.l2tables app := by
    intro member
    obtain ⟨entries, live⟩ := owned.known app _ member
    exact Nat.lt_irrefl _ (Heap.lt_of_read live)
  constructor
  case known =>
    intro app l2table member
    rw [read]
    rcases (mem app l2table).mp member with old | ⟨-, rfl⟩
    · have apart : l2table ≠ server.tables.length := by
        rintro rfl
        exact fresh app old
      rw [if_neg apart]
      exact owned.known app l2table old
    · exact ⟨.empty, if_pos rfl⟩
  case once =>
    intro app
    by_cases same : app = listener
    · subst same
      have extended : (server.newTable app ofconn).l2tables app = server.l2tables app ++ [server.tables.length] :=
        Function.update_self ..
      rw [extended, List.nodup_append]
      refine ⟨owned.once app, List.nodup_singleton _, ?_⟩
      intro l2table member other last same
      rw [List.mem_singleton] at last
      exact fresh app (last ▸ same ▸ member)
    · have unchanged : (server.newTable listener ofconn).l2tables app = server.l2tables app :=
        Function.update_of_ne same ..
      rw [unchanged]
      exact owned.once app
  case apart =>
    intro app app' l2table member member'
    rcases (mem app l2table).mp member with old | ⟨rfl, rfl⟩
    · rcases (mem app' l2table).mp member' with old' | ⟨rfl, rfl⟩
      · exact owned.apart app app' l2table old old'
      · exact absurd old (fresh app)
    · rcases (mem app' _).mp member' with old' | ⟨rfl, -⟩
      · exact absurd old' (fresh app')
      · rfl
  case held =>
    intro l2table entries live
    rw [read] at live
    split_ifs at live with new
    · exact ⟨listener, (mem listener l2table).mpr (Or.inr ⟨rfl, new⟩)⟩
    · obtain ⟨app, member⟩ := owned.held l2table entries live
      exact ⟨app, (mem app l2table).mpr (Or.inl member)⟩

theorem Owned.writeTable (owned : Owned server) (live : server.tables.read l2table = some entries)
    (entries' : L2Table) :
    Owned (server.writeTable l2table entries') := by
  have read (other : Nat) : (server.writeTable l2table entries').tables.read other =
      if other = l2table then some entries' else server.tables.read other := Heap.read_write live
  constructor
  case known =>
    intro app other member
    rw [read]
    split_ifs
    · exact ⟨entries', rfl⟩
    · exact owned.known app other member
  case once => exact owned.once
  case apart => exact owned.apart
  case held =>
    intro other found present
    rw [read] at present
    split_ifs at present with same
    · subst same
      exact owned.held other entries live
    · exact owned.held other found present

/-! ## One event -/

theorem Keeps.refl (server : Server π) (ev : ControllerEvent) (listeners : List Nat) :
    Keeps server ev listeners server where
  eventListeners := rfl
  running := rfl
  messages := rfl
  l2tables := fun _ _ => rfl

theorem Keeps.cons {listeners : List Nat} {middle : Server π} (first : Keeps server ev [listener] middle)
    (rest : Keeps middle ev listeners server') : Keeps server ev (listener :: listeners) server' where
  eventListeners := rest.eventListeners.trans first.eventListeners
  running := rest.running.trans first.running
  messages := rest.messages.trans first.messages
  l2tables := by
    intro app quiet
    rw [rest.l2tables app fun member => quiet (List.mem_cons_of_mem _ member)]
    apply first.l2tables app
    intro member
    rw [List.mem_singleton] at member
    exact quiet (by rw [member]; exact List.mem_cons_self)

theorem Reads.keeps {listeners : List Nat} (reads : Reads server ev event) (keeps : Keeps server ev listeners server') :
    Reads server' ev event := by
  cases reads with
  | packetIn live => exact .packetIn (by rw [keeps.messages, live])
  | switchUp live => exact .switchUp (by rw [keeps.messages, live])
  | switchDown => exact .switchDown

theorem eventCallback_refines (refines : Refines server app) (owned : Owned server) (reads : Reads server ev event)
    (handled : BaseLearningSwitch.eventCallback handle app event = .ok (app', decision)) (listener : Nat) :
    ∃ server', Server.eventCallback handle listener server ev = .ok (server', listener, decision) ∧
      Refines server' app' ∧ Owned server' ∧ Keeps server ev [listener] server' := by
  cases reads with
  | @switchUp ofconn data content version live =>
      cases handled
      refine ⟨_, rfl, refines.newTable listener, owned.newTable listener ofconn, rfl, rfl, rfl, ?_⟩
      intro app quiet
      have other : app ≠ listener := fun same => quiet (List.mem_singleton.mpr same) rfl
      exact Function.update_of_ne other ..
  | @switchDown ofconn =>
      cases handled
      cases points : server.applicationData ofconn with
      | none =>
          have unset : app.applicationData ofconn = none := by rw [refines.tables, points, Option.bind_none]
          refine ⟨server, by rw [Server.eventCallback, points], ?_, owned, Keeps.refl _ _ _⟩
          rwa [BaseLearningSwitch.switchDown, unset]
      | some l2table =>
          obtain ⟨entries, live⟩ := refines.live ofconn l2table points
          have set : app.applicationData ofconn = some entries := by rw [refines.tables, points, Option.bind_some, live]
          refine ⟨server.writeTable l2table .empty, ?_, ?_, owned.writeTable live _, rfl, rfl, rfl, fun _ _ => rfl⟩
          · rw [Server.eventCallback, points]
            simp only [Server.table, live]
            rfl
          · rw [BaseLearningSwitch.switchDown, set]
            exact refines.writeTable points _
  | @packetIn ofconn data pi message =>
      cases points : server.applicationData ofconn with
      | none =>
          have unset : app.applicationData ofconn = none := by rw [refines.tables, points, Option.bind_none]
          rw [BaseLearningSwitch.eventCallback, unset] at handled
          cases handled
          exact ⟨server, by rw [Server.eventCallback, points], refines, owned, Keeps.refl _ _ _⟩
      | some l2table =>
          obtain ⟨entries, live⟩ := refines.live ofconn l2table points
          have set : app.applicationData ofconn = some entries := by rw [refines.tables, points, Option.bind_some, live]
          rw [BaseLearningSwitch.eventCallback, set] at handled
          obtain ⟨⟨entries', decision'⟩, learned, done⟩ := bind_eq_ok.mp handled
          cases done
          refine ⟨server.writeTable l2table entries', ?_, refines.writeTable points _, owned.writeTable live _, rfl, rfl,
            rfl, fun _ _ => rfl⟩
          rw [Server.eventCallback, points]
          simp only [Server.table, Server.message, live, message, Option.elim_some, ok_bind, learned]
          rfl

theorem eventCallback_faults (refines : Refines server app) (reads : Reads server ev event) {fault : Fault}
    (failed : BaseLearningSwitch.eventCallback handle app event = .error fault) (listener : Nat) :
    Server.eventCallback handle listener server ev = .error (.handler fault) := by
  cases reads with
  | switchUp => cases failed
  | switchDown => cases failed
  | @packetIn ofconn data pi message =>
      cases points : server.applicationData ofconn with
      | none =>
          have unset : app.applicationData ofconn = none := by rw [refines.tables, points, Option.bind_none]
          rw [BaseLearningSwitch.eventCallback, unset] at failed
          cases failed
      | some l2table =>
          obtain ⟨entries, live⟩ := refines.live ofconn l2table points
          have set : app.applicationData ofconn = some entries := by rw [refines.tables, points, Option.bind_some, live]
          rw [BaseLearningSwitch.eventCallback, set] at failed
          cases learned : handle entries pi with
          | ok result =>
              simp only [learned] at failed
              cases failed
          | error fault' =>
              simp only [learned] at failed
              cases failed
              rw [Server.eventCallback, points]
              simp only [Server.table, Server.message, live, message, Option.elim_some, ok_bind, learned]
              rfl

theorem setApplicationData_twice (app : BaseLearningSwitch) (ofconn : Nat) (entries entries' : L2Table) :
    (app.setApplicationData ofconn entries).setApplicationData ofconn entries' = app.setApplicationData ofconn entries' := by
  simp [BaseLearningSwitch.setApplicationData]

theorem applicationData_set (app : BaseLearningSwitch) (ofconn : Nat) (entries : L2Table) :
    (app.setApplicationData ofconn entries).applicationData ofconn = some entries := Function.update_self ..

theorem eventCallback_again (idempotent : Idempotent handle)
    (handled : BaseLearningSwitch.eventCallback handle app event = .ok (app', decision)) :
    BaseLearningSwitch.eventCallback handle app' event = .ok (app', decision) := by
  cases event with
  | switchUp ofconn version =>
      cases handled
      simp only [BaseLearningSwitch.eventCallback, BaseLearningSwitch.switchUp, setApplicationData_twice]
  | switchDown ofconn =>
      cases handled
      cases points : app.applicationData ofconn with
      | none => simp only [BaseLearningSwitch.eventCallback, BaseLearningSwitch.switchDown, points]
      | some entries =>
          simp only [BaseLearningSwitch.eventCallback, BaseLearningSwitch.switchDown, points, applicationData_set,
            setApplicationData_twice]
  | packetIn ofconn pi =>
      cases points : app.applicationData ofconn with
      | none =>
          rw [BaseLearningSwitch.eventCallback, points] at handled
          cases handled
          rw [BaseLearningSwitch.eventCallback, points]
      | some entries =>
          rw [BaseLearningSwitch.eventCallback, points] at handled
          obtain ⟨⟨entries', decision'⟩, learned, done⟩ := bind_eq_ok.mp handled
          cases done
          rw [BaseLearningSwitch.eventCallback, applicationData_set]
          simp only [idempotent _ _ _ _ learned, ok_bind, setApplicationData_twice]
          rfl

theorem callAll_refines (idempotent : Idempotent handle) (refines : Refines server app) (owned : Owned server)
    (reads : Reads server ev event) (listeners : List Nat)
    (handled : BaseLearningSwitch.eventCallback handle app event = .ok (app', decision)) :
    ∃ server', Server.callAll handle ev listeners server =
        .ok (server', listeners.map fun listener => (listener, decision)) ∧
      Refines server' (if listeners = [] then app else app') ∧ Owned server' ∧ Keeps server ev listeners server' := by
  induction listeners generalizing server app with
  | nil => exact ⟨server, rfl, refines, owned, Keeps.refl _ _ _⟩
  | cons listener rest ih =>
      obtain ⟨middle, called, refines₁, owned₁, keeps₁⟩ := eventCallback_refines refines owned reads handled listener
      obtain ⟨server', later, refines', owned', keeps'⟩ := ih refines₁ owned₁ (reads.keeps keeps₁)
        (eventCallback_again idempotent handled)
      refine ⟨server', ?_, ?_, owned', keeps₁.cons keeps'⟩
      · simp only [Server.callAll, called, ok_bind, later]
        rfl
      · rw [ite_self] at refines'
        rwa [if_neg (List.cons_ne_nil _ _)]

theorem callAll_faults (refines : Refines server app) (reads : Reads server ev event) {fault : Fault}
    (failed : BaseLearningSwitch.eventCallback handle app event = .error fault) {listeners : List Nat}
    (some_ : listeners ≠ []) : Server.callAll handle ev listeners server = .error (.handler fault) := by
  cases listeners with
  | nil => exact absurd rfl some_
  | cons listener rest =>
      rw [Server.callAll, eventCallback_faults refines reads failed listener]
      rfl

/-! ## The messages -/

def ServerEvent.kept : ServerEvent π → Option (Option π)
  | .message _ _ type content =>
      some (if type = Server.ofptPacketIn ∨ type = Server.ofptFeaturesReply then none else some content)
  | .connection _ _ | .stop | .destroy _ => none

theorem free_alloc (heap : Heap π) (content : π) : (heap.alloc content).free heap.length = heap ++ [none] := by
  simp [Heap.alloc, Heap.free]

theorem kept_dispatched {type : BitVec 8} (ofconn : Nat) (version : BitVec 8) (content : π)
    (owned : type = Server.ofptPacketIn ∨ type = Server.ofptFeaturesReply) :
    (ServerEvent.message ofconn version type content).kept = some none := by
  rw [ServerEvent.kept, if_pos owned]

/-! ## One step -/

structure Simulates (eventListeners : EventType → List Nat) (server : Server π) (shared : SharedSwitch) : Prop where
  listeners : server.eventListeners = eventListeners
  running : server.running = shared.running
  refines : shared.running = true → Refines server shared.app
  owned : Owned server
  l2tables : ∀ app, app ∉ eventListeners .switchUp → server.l2tables app = []

variable {eventListeners : EventType → List Nat} {shared shared' : SharedSwitch} {called : List Called}

structure Settles (server : Server π) (event : ServerEvent π) (server' : Server π) : Prop where
  messages : server'.messages = server.messages ++ event.kept.toList
  stopped : server.running = false → ∀ app, server.l2tables app = [] → server'.l2tables app = []
  destroyed : ∀ app, event = .destroy app → server'.l2tables app = []

section Dispatch

variable (listening : ∀ type, eventListeners type ≠ []) (simulates : Simulates eventListeners server shared)
  (reads : Reads server ev event)
include listening simulates reads

theorem dispatchEvent_refines (idempotent : Idempotent handle)
    (dispatched : shared.dispatch handle eventListeners ev.getType event = .ok (shared', called))
    (messages : Heap π) (deleted : ∀ server' : Server π, server'.messages = server.messages →
      server'.deleteEvent ev = .ok { server' with messages := messages }) :
    ∃ server', server.dispatchEvent handle ev = .ok (server', called) ∧
      Simulates eventListeners server' shared' ∧ server'.messages = messages ∧
      (server.running = false → server'.l2tables = server.l2tables) := by
  unfold SharedSwitch.dispatch at dispatched
  cases running : shared.running with
  | false =>
      rw [if_neg (by simp [running])] at dispatched
      cases dispatched
      have stopped : ¬ server.running = true := by
        rw [simulates.running, running]
        exact Bool.false_ne_true
      refine ⟨{ server with messages := messages }, ?_, { simulates with refines := ?_, owned := ?_ }, rfl, fun _ => rfl⟩
      · rw [Server.dispatchEvent, if_neg stopped, ok_bind]
        simp only [deleted server rfl, ok_bind]
        rfl
      · intro on
        rw [running] at on
        cases on
      · exact { simulates.owned with }
  | true =>
      rw [if_pos running] at dispatched
      obtain ⟨⟨app, decision⟩, handled, done⟩ := bind_eq_ok.mp dispatched
      cases done
      have on : server.running = true := by rw [simulates.running, running]
      obtain ⟨middle, calls, refines, owned, keeps⟩ := callAll_refines idempotent (simulates.refines running)
        simulates.owned reads (eventListeners ev.getType) handled
      rw [if_neg (listening _)] at refines
      refine ⟨{ middle with messages := messages }, ?_, ?_, rfl, ?_⟩
      · rw [Server.dispatchEvent, if_pos on, simulates.listeners, calls]
        simp only [ok_bind, deleted middle keeps.messages]
        rfl
      · constructor
        case listeners => exact keeps.eventListeners.trans simulates.listeners
        case running => exact keeps.running.trans simulates.running
        case refines => exact fun _ => { refines with }
        case owned => exact { owned with }
        case l2tables =>
          intro other absent
          refine Eq.trans (keeps.l2tables other ?_) (simulates.l2tables other absent)
          intro member up
          rw [up] at member
          exact absent member
      · intro off
        rw [on] at off
        cases off

theorem dispatchEvent_faults {fault : Fault}
    (failed : shared.dispatch handle eventListeners ev.getType event = .error fault) :
    server.dispatchEvent handle ev = .error (.handler fault) := by
  unfold SharedSwitch.dispatch at failed
  split_ifs at failed with running
  have on : server.running = true := by rw [simulates.running, running]
  have called : BaseLearningSwitch.eventCallback handle shared.app event = .error fault := by
    cases handled : BaseLearningSwitch.eventCallback handle shared.app event with
    | error other =>
        simp only [handled] at failed
        cases failed
        rfl
    | ok result =>
        simp only [handled] at failed
        cases failed
  rw [Server.dispatchEvent, if_pos on, simulates.listeners,
    callAll_faults (simulates.refines running) reads called (listening _)]
  rfl

end Dispatch

theorem deleteTables_eq {tables : Heap L2Table} {addresses : List Pointer} (once : addresses.Nodup)
    (live : ∀ l2table ∈ addresses, ∃ entries, tables.read l2table = some entries) :
    Server.deleteTables tables addresses = .ok (addresses.foldl Heap.free tables) := by
  induction addresses generalizing tables with
  | nil => rfl
  | cons l2table rest ih =>
      obtain ⟨first, once⟩ := List.nodup_cons.mp once
      obtain ⟨entries, present⟩ := live l2table List.mem_cons_self
      rw [Server.deleteTables, present, if_pos (by rfl), List.foldl_cons]
      apply ih once
      intro other member
      have apart : other ≠ l2table := by
        rintro rfl
        exact first member
      rw [Heap.read_free, if_neg apart]
      exact live other (List.mem_cons_of_mem _ member)

def Server.released (server : Server π) (listener : Nat) : Server π :=
  { server with
    tables := (server.l2tables listener).foldl Heap.free server.tables
    l2tables := Function.update server.l2tables listener [] }

theorem Server.l2tables_released (server : Server π) (listener app : Nat) :
    (server.released listener).l2tables app = if app = listener then [] else server.l2tables app :=
  Function.update_apply ..

theorem Server.read_released (server : Server π) (listener l2table : Nat) :
    (server.released listener).tables.read l2table =
    if l2table ∈ server.l2tables listener then none else server.tables.read l2table := Heap.read_foldl_free _

theorem destroy_eq (owned : Owned server) (listener : Nat) : server.destroy listener = .ok
    (server.released listener) := by
  rw [Server.destroy, deleteTables_eq (owned.once listener) (owned.known listener)]
  rfl

theorem Owned.released (owned : Owned server) (listener : Nat) : Owned (server.released listener) := by
  constructor
  case known =>
    intro app l2table member
    rw [Server.l2tables_released] at member
    split_ifs at member with same
    · exact absurd member List.not_mem_nil
    · have spared : l2table ∉ server.l2tables listener := fun freed =>
        same (owned.apart app listener l2table member freed)
      rw [Server.read_released, if_neg spared]
      exact owned.known app l2table member
  case once =>
    intro app
    rw [Server.l2tables_released]
    split_ifs
    · exact List.nodup_nil
    · exact owned.once app
  case apart =>
    intro app app' l2table member member'
    rw [Server.l2tables_released] at member member'
    split_ifs at member member'
    · exact absurd member List.not_mem_nil
    · exact absurd member List.not_mem_nil
    · exact absurd member' List.not_mem_nil
    · exact owned.apart app app' l2table member member'
  case held =>
    intro l2table entries live
    rw [Server.read_released] at live
    split_ifs at live with freed
    obtain ⟨app, member⟩ := owned.held l2table entries live
    refine ⟨app, ?_⟩
    rw [Server.l2tables_released, if_neg]
    · exact member
    · rintro rfl
      exact freed member

theorem Simulates.released (simulates : Simulates eventListeners server shared) (stopped : shared.running = false)
    (listener : Nat) : Simulates eventListeners (server.released listener) shared where
  listeners := simulates.listeners
  running := simulates.running
  refines := by
    intro on
    rw [stopped] at on
    cases on
  owned := simulates.owned.released listener
  l2tables := by
    intro app absent
    rw [Server.l2tables_released]
    split_ifs
    · rfl
    · exact simulates.l2tables app absent

def Server.received (server : Server π) (content : π) : Server π :=
  { server with messages := server.messages.alloc content }

theorem Server.read_received (server : Server π) (content : π) :
    (server.received content).messages.read server.messages.length = some content := by
  rw [Server.received, Heap.read_alloc, if_pos rfl]

theorem Simulates.received (simulates : Simulates eventListeners server shared) (content : π) :
    Simulates eventListeners (server.received content) shared where
  listeners := simulates.listeners
  running := simulates.running
  refines := fun on => { simulates.refines on with }
  owned := { simulates.owned with }
  l2tables := simulates.l2tables

theorem step_message (version type : BitVec 8) (content : π) :
    server.step handle (.message ofconn version type content) =
      if type = Server.ofptPacketIn then
        (server.received content).dispatchEvent handle (.packetIn ofconn server.messages.length)
      else if type = Server.ofptFeaturesReply then
        (server.received content).dispatchEvent handle (.switchUp ofconn server.messages.length)
      else .ok (server.received content, []) :=
  rfl

theorem step_refines (idempotent : Idempotent handle) (listening : ∀ type, eventListeners type ≠ [])
    (simulates : Simulates eventListeners server shared) {event : ServerEvent π}
    (orderly : ∀ listener, event = .destroy listener → shared.running = false)
    (stepped : shared.step handle eventListeners event = .ok (shared', called)) :
    ∃ server', server.step handle event = .ok (server', called) ∧ Simulates eventListeners server' shared' ∧
      Settles server event server' := by
  cases event with
  | stop =>
      cases stepped
      refine ⟨server.stop, rfl, ?_, ?_⟩
      · exact {
          listeners := simulates.listeners
          running := rfl
          refines := fun on => by cases on
          owned := { simulates.owned with }
          l2tables := simulates.l2tables }
      · exact { messages := (List.append_nil _).symm, stopped := fun _ _ none => none, destroyed := fun _ same => by cases same }
  | destroy listener =>
      cases stepped
      refine ⟨server.released listener, ?_, simulates.released (orderly listener rfl) listener, ?_⟩
      · rw [Server.step, destroy_eq simulates.owned]
        rfl
      · constructor
        case messages => exact (List.append_nil _).symm
        case stopped =>
          intro _ app none
          rw [Server.l2tables_released, none, ite_self]
        case destroyed =>
          rintro app ⟨⟩
          rw [Server.l2tables_released, if_pos rfl]
  | connection ofconn event =>
      have down (dispatched : shared.dispatch handle eventListeners .switchDown (.switchDown ofconn) =
            .ok (shared', called)) : ∃ server', server.dispatchEvent handle (.switchDown ofconn) = .ok (server', called) ∧
          Simulates eventListeners server' shared' ∧ Settles server (ServerEvent.connection ofconn event) server' := by
        have deleted (server' : Server π) (same : server'.messages = server.messages) :
            server'.deleteEvent (.switchDown ofconn) = .ok { server' with messages := server.messages } := by
          rw [← same]
          rfl
        obtain ⟨server', run, simulates', messages, stopped⟩ :=
          dispatchEvent_refines listening simulates .switchDown idempotent dispatched server.messages deleted
        refine ⟨server', run, simulates', messages.trans (List.append_nil _).symm, ?_, fun _ same => by cases same⟩
        intro off app none
        rw [stopped off, none]
      cases event with
      | started | established | failedNegotiation =>
          cases stepped
          exact ⟨server, rfl, simulates, (List.append_nil _).symm, fun _ _ none => none, fun _ same => by cases same⟩
      | closed | dead => exact down stepped
  | message ofconn version type content =>
      have received := simulates.received content
      have handed {ev : ControllerEvent} {event : Event π} (reads : Reads (server.received content) ev event)
          (deleted : ∀ server' : Server π, server'.messages = (server.received content).messages →
            server'.deleteEvent ev = .ok { server' with messages := server.messages ++ [none] })
          (dispatched : shared.dispatch handle eventListeners ev.getType event = .ok (shared', called))
          (owned : type = Server.ofptPacketIn ∨ type = Server.ofptFeaturesReply) :
          ∃ server', (server.received content).dispatchEvent handle ev = .ok (server', called) ∧
            Simulates eventListeners server' shared' ∧
              Settles server (ServerEvent.message ofconn version type content) server' := by
        obtain ⟨server', run, simulates', messages, stopped⟩ :=
          dispatchEvent_refines listening received reads idempotent dispatched _ deleted
        refine ⟨server', run, simulates', ?_, ?_, fun _ same => by cases same⟩
        · rw [messages, kept_dispatched ofconn version content owned]
          rfl
        · intro off app none
          rw [stopped off]
          exact none
      have freed (server' : Server π) (same : server'.messages = (server.received content).messages) :
          server'.message server.messages.length = .ok content ∧
            server'.messages.free server.messages.length = server.messages ++ [none] := by
        constructor
        · rw [Server.message, same, Server.read_received]
          rfl
        · rw [same]
          exact free_alloc _ _
      rw [step_message]
      simp only [SharedSwitch.step, ServerEvent.dispatched] at stepped
      split_ifs at stepped ⊢ with packetIn featuresReply
      · refine handed (.packetIn (Server.read_received server content)) ?_ stepped (Or.inl packetIn)
        intro server' same
        simp only [Server.deleteEvent, (freed server' same).1, ok_bind, (freed server' same).2]
        rfl
      · refine handed (.switchUp (Server.read_received server content)) ?_ stepped (Or.inr featuresReply)
        intro server' same
        simp only [Server.deleteEvent, (freed server' same).1, ok_bind, (freed server' same).2]
        rfl
      · cases stepped
        refine ⟨server.received content, rfl, received, ?_, fun _ _ none => none, fun _ same => by cases same⟩
        rw [ServerEvent.kept, if_neg (by simp [packetIn, featuresReply])]
        rfl

theorem step_faults (listening : ∀ type, eventListeners type ≠ []) (simulates : Simulates eventListeners server shared)
    {event : ServerEvent π} {fault : Fault} (failed : shared.step handle eventListeners event = .error fault) :
    server.step handle event = .error (.handler fault) := by
  cases event with
  | stop => cases failed
  | destroy listener => cases failed
  | connection ofconn event =>
      cases event with
      | started | established | failedNegotiation => cases failed
      | closed | dead => exact dispatchEvent_faults listening simulates .switchDown failed
  | message ofconn version type content =>
      have received := simulates.received content
      rw [step_message]
      simp only [SharedSwitch.step, ServerEvent.dispatched] at failed
      split_ifs at failed ⊢ with packetIn featuresReply
      · exact dispatchEvent_faults listening received (.packetIn (Server.read_received server content)) failed
      · exact dispatchEvent_faults listening received (.switchUp (Server.read_received server content)) failed
      · cases failed

/-! ## Runs -/

theorem step_stopped {event : ServerEvent π} (stepped : shared.step handle eventListeners event = .ok (shared', called))
    (stopped : shared.running = false) : shared'.running = false := by
  have dispatched (entry : EventType × Event π)
      (run : shared.dispatch handle eventListeners entry.1 entry.2 = .ok (shared', called)) : shared'.running = false := by
    rw [SharedSwitch.dispatch, if_neg (by simp [stopped])] at run
    cases run
    exact stopped
  cases event with
  | stop =>
      cases stepped
      rfl
  | destroy listener =>
      cases stepped
      exact stopped
  | connection ofconn event =>
      simp only [SharedSwitch.step] at stepped
      cases found : (ServerEvent.connection (π := π) ofconn event).dispatched with
      | none =>
          rw [found] at stepped
          cases stepped
          exact stopped
      | some entry =>
          rw [found] at stepped
          exact dispatched entry stepped
  | message ofconn version type content =>
      simp only [SharedSwitch.step] at stepped
      cases found : (ServerEvent.message ofconn version type content).dispatched with
      | none =>
          rw [found] at stepped
          cases stepped
          exact stopped
      | some entry =>
          rw [found] at stepped
          exact dispatched entry stepped

/-- The applications live as long as the controller runs. -/
def Orderly (running : Bool) (events : List (ServerEvent π)) : Prop :=
  ∀ before listener after, events = before ++ .destroy listener :: after → running = false ∨ .stop ∈ before

theorem Orderly.head {running : Bool} {event : ServerEvent π} {rest : List (ServerEvent π)}
    (orderly : Orderly running (event :: rest)) (listener : Nat) (same : event = .destroy listener) :
    running = false := by
  subst same
  exact (orderly [] listener rest rfl).resolve_right List.not_mem_nil

theorem Orderly.tail {event : ServerEvent π} {rest : List (ServerEvent π)}
    (orderly : Orderly shared.running (event :: rest))
    (stepped : shared.step handle eventListeners event = .ok (shared', called)) : Orderly shared'.running rest := by
  intro before listener after split
  rcases orderly (event :: before) listener after (by rw [split]; rfl) with stopped | inside
  · exact Or.inl (step_stopped stepped stopped)
  · rcases List.mem_cons.mp inside with rfl | later
    · cases stepped
      exact Or.inl rfl
    · exact Or.inr later

theorem run_simulated (idempotent : Idempotent handle) (listening : ∀ type, eventListeners type ≠ [])
    (simulates : Simulates eventListeners server shared) {events : List (ServerEvent π)}
    (orderly : Orderly shared.running events) (run : shared.run handle eventListeners events = .ok (shared', called)) :
    ∃ server', server.run handle events = .ok (server', called) ∧ Simulates eventListeners server' shared' ∧
      server'.messages = server.messages ++ events.filterMap ServerEvent.kept ∧
      (shared.running = false → ∀ app, server.l2tables app = [] → server'.l2tables app = []) ∧
      ∀ listener, .destroy listener ∈ events → server'.l2tables listener = [] := by
  induction events generalizing server shared called with
  | nil =>
      cases run
      exact ⟨server, rfl, simulates, (List.append_nil _).symm, fun _ _ none => none,
        fun _ inside => absurd inside List.not_mem_nil⟩
  | cons event rest ih =>
      obtain ⟨⟨middle, first⟩, stepped, others⟩ := bind_eq_ok.mp run
      obtain ⟨⟨final, later⟩, continued, done⟩ := bind_eq_ok.mp others
      cases done
      obtain ⟨server₁, stepped₁, simulates₁, settles⟩ := step_refines idempotent listening simulates orderly.head stepped
      obtain ⟨server', run', simulates', messages, stopped, destroyed⟩ := ih simulates₁ (orderly.tail stepped)
        continued
      refine ⟨server', ?_, simulates', ?_, ?_, ?_⟩
      · simp only [Server.run, stepped₁, ok_bind, run']
        rfl
      · rw [messages, settles.messages, List.append_assoc]
        cases kept : event.kept <;> simp [kept]
      · intro off app none
        have off₁ : server.running = false := by rw [simulates.running, off]
        exact stopped (step_stopped stepped off) app (settles.stopped off₁ app none)
      · intro listener inside
        rcases List.mem_cons.mp inside with same | inside
        · have off := orderly.head listener same.symm
          exact stopped (step_stopped stepped off) listener (settles.destroyed listener same.symm)
        · exact destroyed listener inside

theorem run_faulted (idempotent : Idempotent handle) (listening : ∀ type, eventListeners type ≠ [])
    (simulates : Simulates eventListeners server shared) {events : List (ServerEvent π)}
    (orderly : Orderly shared.running events) {fault : Fault}
    (failed : shared.run handle eventListeners events = .error fault) :
    server.run handle events = .error (.handler fault) := by
  induction events generalizing server shared with
  | nil => cases failed
  | cons event rest ih =>
      rw [SharedSwitch.run] at failed
      cases stepped : shared.step handle eventListeners event with
      | error other =>
          simp only [stepped] at failed
          cases failed
          rw [Server.run, step_faults listening simulates stepped]
          rfl
      | ok result =>
          obtain ⟨middle, first⟩ := result
          obtain ⟨server₁, stepped₁, simulates₁, -⟩ := step_refines idempotent listening simulates orderly.head stepped
          simp only [stepped, ok_bind] at failed
          have fails : middle.run handle eventListeners rest = .error fault := by
            cases run : middle.run handle eventListeners rest with
            | error other =>
                simp only [run] at failed
                cases failed
                rfl
            | ok result =>
                simp only [run] at failed
                cases failed
          simp only [Server.run, stepped₁, ok_bind, ih simulates₁ (orderly.tail stepped) fails]
          rfl

theorem Simulates.initial (eventListeners : EventType → List Nat) :
    Simulates eventListeners (Server.initial (π := π) eventListeners) .initial where
  listeners := rfl
  running := rfl
  refines := fun _ => Refines.initial eventListeners
  owned := Owned.initial eventListeners
  l2tables := fun _ _ => rfl

/-- However many learning switches listen, and whatever comes in from the connections in whatever order, they
decide as one switch does and no freed table and no freed message is used. The messages that events are made
of are freed once and the others never, and the tables go with the applications. -/
theorem run_shares (handle : L2Table → π → Except Fault (L2Table × Option Decision)) (idempotent : Idempotent handle)
    (eventListeners : EventType → List Nat) (listening : ∀ type, eventListeners type ≠ [])
    (events : List (ServerEvent π)) (orderly : Orderly true events) :
    (∀ fault, SharedSwitch.initial.run handle eventListeners events = .error fault →
      (Server.initial eventListeners).run handle events = .error (.handler fault)) ∧
    ∀ shared called, SharedSwitch.initial.run handle eventListeners events = .ok (shared, called) →
      ∃ server, (Server.initial eventListeners).run handle events = .ok (server, called) ∧
        server.messages = events.filterMap ServerEvent.kept ∧
        (∀ l2table entries, server.tables.read l2table = some entries →
          ∃ listener ∈ eventListeners .switchUp, l2table ∈ server.l2tables listener ∧ .destroy listener ∉ events) ∧
        ((∀ listener ∈ eventListeners .switchUp, .destroy listener ∈ events) →
          ∀ l2table, server.tables.read l2table = none) := by
  constructor
  · exact fun fault failed => run_faulted idempotent listening (Simulates.initial eventListeners) orderly failed
  · intro shared called run
    obtain ⟨server, runs, simulates, messages, -, destroyed⟩ :=
      run_simulated idempotent listening (Simulates.initial eventListeners) orderly run
    have living : ∀ l2table entries, server.tables.read l2table = some entries →
        ∃ listener ∈ eventListeners .switchUp, l2table ∈ server.l2tables listener ∧ .destroy listener ∉ events := by
      intro l2table entries live
      obtain ⟨listener, member⟩ := simulates.owned.held l2table entries live
      have kept : server.l2tables listener ≠ [] := List.ne_nil_of_mem member
      refine ⟨listener, ?_, member, fun gone => kept (destroyed listener gone)⟩
      by_contra foreign
      exact kept (simulates.l2tables listener foreign)
    refine ⟨server, runs, messages, living, ?_⟩
    intro all l2table
    by_contra live
    obtain ⟨entries, live⟩ := Option.ne_none_iff_exists'.mp live
    obtain ⟨listener, listens, -, alive⟩ := living l2table entries live
    exact alive (all listener listens)

/-! ## The learning switches of the examples -/

theorem learn_fst (entries : L2Table) (src dst : BitVec 64) (inPort : BitVec 16) :
    (learn entries src dst inPort).1 = entries.set src inPort := by
  rw [learn]
  cases (entries.set src inPort).lookup dst <;> rfl

theorem learn_again {src dst : BitVec 64} {inPort : BitVec 16} {entries entries' : L2Table} {decision : Option Decision}
    (learned : (learn entries src dst inPort).map id some = (entries', decision)) :
    (learn entries' src dst inPort).map id some = (entries', decision) := by
  have table : entries.set src inPort = entries' := (learn_fst entries src dst inPort).symm.trans (congrArg Prod.fst learned)
  rw [← table] at learned ⊢
  rw [← learned, learn, learn, OrderedMap.set_set_self]

theorem RawLearningSwitch.idempotent : Idempotent RawLearningSwitch.handlePacketIn := by
  intro entries pi entries' decision handled
  obtain ⟨dst, readDst, others⟩ := bind_eq_ok.mp handled
  obtain ⟨src, readSrc, learned⟩ := bind_eq_ok.mp others
  have again := learn_again (Except.ok.inj learned)
  rw [RawLearningSwitch.handlePacketIn, readDst, ok_bind, readSrc, ok_bind]
  exact congrArg Except.ok again

theorem MultiLearningSwitch.idempotent : Idempotent MultiLearningSwitch.handlePacketIn := by
  intro entries message entries' decision handled
  cases message with
  | of10 pi => exact RawLearningSwitch.idempotent entries pi entries' decision handled
  | of13 pi =>
      obtain ⟨dst, readDst, others⟩ := bind_eq_ok.mp handled
      obtain ⟨src, readSrc, learned⟩ := bind_eq_ok.mp others
      rw [MultiLearningSwitch.handlePacketIn, MultiLearningSwitch.handlePacketIn13, readDst, ok_bind, readSrc, ok_bind]
      cases port : pi.inPort with
      | none =>
          rw [port] at learned
          cases learned
          rfl
      | some value =>
          rw [port] at learned
          exact congrArg Except.ok (learn_again (Except.ok.inj learned))
  | other version => cases handled

def sampleEvents : List (ServerEvent PacketIn10) :=
  [.message 7 1 Server.ofptFeaturesReply ⟨⟨0, 0, 0, 0, []⟩, 0⟩,
    .message 7 1 Server.ofptPacketIn ⟨⟨5, 3, 14, 0, sampleFrame⟩, 1⟩, .connection 7 .closed, .stop, .destroy 0, .destroy 1]

theorem sample_shared : ∃ server, (Server.initial fun _ => [0, 1]).run RawLearningSwitch.handlePacketIn sampleEvents =
      .ok (server, [(0, none), (1, none), (0, some .flood), (1, some .flood), (0, none), (1, none)]) ∧
    server.messages = [none, none] ∧ ∀ l2table, server.tables.read l2table = none := by
  have orderly : Orderly true sampleEvents := by
    intro before listener after split
    right
    match before with
    | [] | [_] | [_, _] => cases split
    | _ :: _ :: _ :: [] => cases split
    | _ :: _ :: _ :: fourth :: rest =>
        have stop : fourth = .stop := by
          injection split with _ split
          injection split with _ split
          injection split with _ split
          injection split with same
          exact same.symm
        rw [stop]
        simp
  obtain ⟨server, runs, messages, -, freed⟩ :=
    (run_shares RawLearningSwitch.handlePacketIn RawLearningSwitch.idempotent (fun _ => [0, 1]) (fun _ => by simp)
      sampleEvents orderly).2 _ _ rfl
  exact ⟨server, runs, messages, freed (by decide)⟩

end Libfluid.Controller
