import Libfluid.Library.Except
import Libfluid.Multicast.Callback
import Libfluid.Multicast.Requests

namespace Libfluid.Multicast
open Library Switch Controller

/-! ## Histories of calls -/

def Call.up : Call → Option OFConnection
  | .eventCallback (.switchUp ofconn _) => some ofconn
  | _ => none

def firstUp (past : List Call) : Option OFConnection := past.findSome? Call.up

def Down (past : List Call) (id : Nat) : Prop :=
  ∃ ofconn, .eventCallback (.switchDown ofconn) ∈ past ∧ ofconn.id = id

/-- The SWITCH_UP of the connection was received, and no SWITCH_DOWN since. -/
def Up (past : List Call) (id : Nat) : Prop :=
  ∃ before ofconn datapathId after, past = before ++ .eventCallback (.switchUp ofconn datapathId) :: after ∧
    ofconn.id = id ∧ ¬ Down after id

def OnlyUp (past : List Call) (id : Nat) : Prop := Up past id ∧ ∀ other, Up past other → other = id

def Call.connection : Call → Option OFConnection
  | .eventCallback (.switchUp ofconn _) | .eventCallback (.switchDown ofconn)
  | .eventCallback (.packetIn ofconn _) => some ofconn
  | _ => none

def OpenFlow13 (calls : List Call) : Prop :=
  ∀ call ∈ calls, ∀ ofconn, call.connection = some ofconn → ofconn.version = Of13.ofpVersion

def CreatesAfterUp (calls : List Call) : Prop :=
  ∀ past call, past ++ [call] <+: calls → call.connection = none → firstUp past ≠ none

/-! ## Correct calls -/

/-- No null pointer is used, and nothing is sent on a connection that went down. -/
structure Safe (past : List Call) (result : Except Fault ConnectedApp × Sent) : Prop where
  dereferences : result.1 ≠ .error .nullConnection
  sends : ∀ ofconn m, (ofconn, m) ∈ result.2 → ¬ Down past ofconn.id

structure Correct (past : List Call) (app : ConnectedApp) (call : Call) : Prop where
  safe : Safe past (app.call call)
  processed : ∀ ofconn ofpi, call = .eventCallback (.packetIn ofconn ofpi) → OnlyUp past ofconn.id →
    app.accepts ofconn = .ok true

def FirstAlive (past : List Call) : Prop := ∀ captured, firstUp past = some captured → ¬ Down past captured.id

namespace MulticastGroupMembershipApp

def Changes (app : MulticastGroupMembershipApp) (pk : PacketInDataHeader) : Prop :=
  ∃ mcg session, app.Addressed pk mcg session ∧ Answers mcg session pk

end MulticastGroupMembershipApp

/-- The condition on one call: on the calls before it, and on the groups where the first switch went down. -/
def Orderly (past : List Call) (app : ConnectedApp) : Call → Prop
  | .eventCallback (.switchUp ofconn _) => firstUp past = none → ¬ Down past ofconn.id
  | .eventCallback (.switchDown _) => True
  | .eventCallback (.packetIn ofconn ofpi) => ∃ captured, firstUp past = some captured ∧
      (OnlyUp past ofconn.id → captured.id = ofconn.id) ∧
      (captured.id = ofconn.id → ∀ pk, readHeader ofpi = .ok (some pk) → app.Changes pk → FirstAlive past)
  | .createGroup ip .. => app.NoGroup ip → FirstAlive past
  | .createSession sip dip .. => dip &&& 0xf0000000 ≠ 0xe0000000 → app.NoGroup sip → FirstAlive past

/-! ## When the application sends -/

namespace MulticastGroupMembershipApp

variable {app : MulticastGroupMembershipApp}

theorem openMessages_ne_nil (mcg : MCGroup) (gen : Generators) : openMessages mcg gen ≠ [] := by
  simp [openMessages]

theorem joinMessages_ne_nil (mcg : MCGroup) (session : Session) (pk : PacketInDataHeader) (xid : BitVec 32) :
    joinMessages mcg session pk xid ≠ [] := by
  simp [joinMessages]

theorem leaveMessages_ne_nil (mcg : MCGroup) (session : Session) (pk : PacketInDataHeader) (mcgm : MCGroupMember)
    (xid : BitVec 32) : leaveMessages mcg session pk mcgm xid ≠ [] := by
  simp [leaveMessages]

theorem createNewGroup_sends_iff (ip : BitVec 32) (upIntf sport dport : BitVec 16) (classd isRoot : Bool) :
    (app.createNewGroup ip upIntf sport dport classd isRoot).2 ≠ [] ↔ app.NoGroup ip := by
  by_cases absent : app.NoGroup ip
  · rw [createNewGroup_new absent]
    exact iff_of_true (openMessages_ne_nil _ _) absent
  · rw [createNewGroup_known absent]
    exact iff_of_false (fun sends => sends rfl) absent

theorem createSession_sends_iff (sip dip : BitVec 32) (sport dport upIntf isRoot : BitVec 16) :
    (app.createSession sip dip sport dport upIntf isRoot).2 ≠ [] ↔
      dip &&& 0xf0000000 ≠ 0xe0000000 ∧ app.NoGroup sip := by
  unfold createSession
  split_ifs with classD
  · exact iff_of_false (fun sends => sends rfl) fun both => both.1 classD
  · rw [createNewGroup_sends_iff, and_iff_right classD]

theorem handlePacketIn_sends_iff (good : app.Good) (pk : PacketInDataHeader) :
    (app.handlePacketIn pk).2 ≠ [] ↔ app.Changes pk := by
  have acts : Acts app (.packet pk) (app.handlePacketIn pk).1 (app.handlePacketIn pk).2 := step_acts good (.packet pk)
  generalize (app.handlePacketIn pk).1 = app', (app.handlePacketIn pk).2 = sent at acts
  cases acts with
  | nothing gen quiet =>
      constructor
      · exact fun sends => absurd rfl sends
      · rintro ⟨mcg, session, addressed, answers⟩
        exact absurd answers (quiet pk mcg session rfl addressed)
  | opened notPacket => exact absurd rfl (notPacket pk)
  | joined gen addressed flag absent =>
      exact iff_of_true (joinMessages_ne_nil _ _ _ _) ⟨_, _, addressed, Or.inl ⟨flag, absent⟩⟩
  | left gen addressed flag found =>
      exact iff_of_true (leaveMessages_ne_nil _ _ _ _ _) ⟨_, _, addressed, Or.inr ⟨flag, by rw [found]; simp⟩⟩

end MulticastGroupMembershipApp

/-! ## One call -/

namespace ConnectedApp

variable {app app' : ConnectedApp} {past calls : List Call} {call : Call} {sent : Sent} {captured : OFConnection}
  {result : Except Fault MulticastGroupMembershipApp × List Message}

theorem safe_quiet : Safe past (.ok app, []) where
  dereferences := fun same => by cases same
  sends := fun ofconn m member => absurd member List.not_mem_nil

theorem safe_payloadRead (index : Nat) : Safe past (.error (.payloadRead index), []) where
  dereferences := fun same => by cases same
  sends := fun ofconn m member => absurd member List.not_mem_nil

theorem safe_sent_iff {after : Except Fault ConnectedApp} {outgoing : List Outgoing}
    (dereferences : after ≠ .error .nullConnection) :
    Safe past (after, outgoing.map fun m => (captured, m)) ↔ (outgoing ≠ [] → ¬ Down past captured.id) := by
  constructor
  · intro safe sends
    obtain ⟨m, rest, rfl⟩ := List.exists_cons_of_ne_nil sends
    exact safe.sends captured m (by simp)
  · intro alive
    refine ⟨dereferences, ?_⟩
    intro ofconn m member
    obtain ⟨m', inside, pair⟩ := List.mem_map.mp member
    cases pair
    exact alive (List.ne_nil_of_mem inside)

theorem safe_perform_iff (captures : app.ofconn = some captured) (dereferences : result.1 ≠ .error .nullConnection) :
    Safe past (app.perform result) ↔ (result.2 ≠ [] → ¬ Down past captured.id) := by
  rw [perform_some captures, safe_sent_iff]
  · simp
  · rwa [Ne, map_eq_error]

theorem step_dereferences (app : MulticastGroupMembershipApp) (event : Event) :
    (app.step event).1 ≠ .error .nullConnection := by
  intro null
  cases MulticastGroupMembershipApp.step_error null

structure Sound (past : List Call) (app : ConnectedApp) : Prop where
  captures : app.ofconn = firstUp past
  good : app.Good

theorem firstUp_snoc (past : List Call) (call : Call) : firstUp (past ++ [call]) = (firstUp past).or call.up := by
  rw [firstUp, List.findSome?_append, List.findSome?_singleton]
  rfl

theorem step_good {app app' : MulticastGroupMembershipApp} {event : Event} (good : app.Good)
    (steps : app.Steps event app') : app'.Good := by
  have acts := MulticastGroupMembershipApp.step_acts good event
  rw [steps] at acts
  exact MulticastGroupMembershipApp.Acts.good acts good

theorem perform_eq_ok (performs : app.perform result = (.ok app', sent)) : ∃ mgma, result.1 = .ok mgma ∧
    app' = { app with toMulticastGroupMembershipApp := mgma } := by
  unfold perform at performs
  split at performs
  · cases performs
  · obtain ⟨mgma, answered, same⟩ := map_eq_ok.mp (Prod.mk.inj performs).1
    exact ⟨mgma, answered, same.symm⟩

theorem sound_perform (event : Event) (sound : Sound past app) (other : call.up = none)
    (performs : app.perform (app.step event) = (.ok app', sent)) : Sound (past ++ [call]) app' := by
  obtain ⟨mgma, steps, rfl⟩ := perform_eq_ok performs
  constructor
  · rw [firstUp_snoc, other, Option.or_none]
    exact sound.captures
  · exact step_good sound.good steps

theorem sound_quiet (sound : Sound past app) (quiet : (firstUp past).or call.up = firstUp past) :
    Sound (past ++ [call]) app := by
  refine ⟨?_, sound.good⟩
  rw [firstUp_snoc, quiet]
  exact sound.captures

theorem sound_switchUp {ofconn : OFConnection} {datapathId : BitVec 64} (sound : Sound past app)
    (of13 : ofconn.version = Of13.ofpVersion)
    (run : app.eventCallback (.switchUp ofconn datapathId) = (.ok app', sent)) :
    Sound (past ++ [.eventCallback (.switchUp ofconn datapathId)]) app' := by
  cases captures : app.ofconn with
  | none =>
      rw [eventCallback, if_pos ⟨of13, captures⟩] at run
      cases run
      refine ⟨?_, sound.good⟩
      rw [firstUp_snoc, ← sound.captures, captures]
      rfl
  | some captured =>
      rw [eventCallback, if_neg (by simp [captures])] at run
      cases run
      apply sound_quiet sound
      rw [← sound.captures, captures]
      rfl

theorem sound_packetIn {ofconn : OFConnection} {ofpi : PacketIn13} (sound : Sound past app)
    (run : app.eventCallback (.packetIn ofconn ofpi) = (.ok app', sent)) :
    Sound (past ++ [.eventCallback (.packetIn ofconn ofpi)]) app' := by
  have quiet : Sound (past ++ [.eventCallback (.packetIn ofconn ofpi)]) app :=
    sound_quiet sound (Option.or_none)
  rw [eventCallback] at run
  split at run
  · cases run
  split_ifs at run with accepted
  · unfold processPacketIn at run
    split_ifs at run with of13
    · split at run
      · cases run
      · cases run
        exact quiet
      · next pk _ => exact sound_perform (.packet pk) sound rfl run
    · cases run
      exact quiet
  · cases run
    exact quiet

theorem call_sound (sound : Sound past app)
    (of13 : ∀ ofconn, call.connection = some ofconn → ofconn.version = Of13.ofpVersion)
    (run : app.call call = (.ok app', sent)) : Sound (past ++ [call]) app' := by
  cases call with
  | eventCallback ev =>
      cases ev with
      | switchUp ofconn datapathId => exact sound_switchUp sound (of13 ofconn rfl) run
      | switchDown ofconn =>
          cases run
          exact sound_quiet sound Option.or_none
      | packetIn ofconn ofpi => exact sound_packetIn sound run
  | createGroup => exact sound_perform (.newGroup ..) sound rfl run
  | createSession => exact sound_perform (.newSession ..) sound rfl run

def Steps (app : ConnectedApp) (call : Call) (app' : ConnectedApp) : Prop := ∃ sent, app.call call = (.ok app', sent)

theorem run_sound (of13 : OpenFlow13 past) (run : Run Steps initial past app) : Sound past app := by
  induction run with
  | start => exact ⟨rfl, MulticastGroupMembershipApp.good_of_empty rfl⟩
  | step before advance ih =>
      obtain ⟨sent, run⟩ := advance
      refine call_sound (ih fun call member => of13 call (by simp [member])) ?_ run
      exact of13 _ (by simp)

/-! ## The condition decides -/

theorem correct_of_safe_iff {condition : Prop} (other : ∀ ofconn ofpi, call ≠ .eventCallback (.packetIn ofconn ofpi))
    (decided : Safe past (app.call call) ↔ condition) : Correct past app call ↔ condition := by
  rw [← decided]
  constructor
  · exact fun correct => correct.safe
  · exact fun safe => ⟨safe, fun ofconn ofpi same => absurd same (other ofconn ofpi)⟩

theorem firstAlive_iff (first : firstUp past = some captured) : FirstAlive past ↔ ¬ Down past captured.id := by
  simp [FirstAlive, first]

theorem correct_switchUp_iff {ofconn : OFConnection} {datapathId : BitVec 64} (sound : Sound past app)
    (of13 : ofconn.version = Of13.ofpVersion) :
    Correct past app (.eventCallback (.switchUp ofconn datapathId)) ↔ (firstUp past = none → ¬ Down past ofconn.id) := by
  apply correct_of_safe_iff (by simp)
  rw [← sound.captures]
  show Safe past (app.eventCallback (.switchUp ofconn datapathId)) ↔ _
  cases captures : app.ofconn with
  | none =>
      rw [eventCallback, if_pos ⟨of13, captures⟩]
      show Safe past (.ok _, [_].map fun m => (ofconn, m)) ↔ _
      rw [safe_sent_iff (by simp)]
      simp
  | some captured =>
      rw [eventCallback, if_neg (by simp [captures])]
      exact iff_of_true safe_quiet (by simp)

theorem safe_processPacketIn_iff {ofconn : OFConnection} {ofpi : PacketIn13} (sound : Sound past app)
    (of13 : ofconn.version = Of13.ofpVersion) (captures : app.ofconn = some captured) :
    Safe past (app.processPacketIn ofconn ofpi) ↔
      ∀ pk, readHeader ofpi = .ok (some pk) → app.Changes pk → ¬ Down past captured.id := by
  rw [processPacketIn, if_pos of13]
  cases header : readHeader ofpi with
  | error index => exact iff_of_true (safe_payloadRead index) (by simp)
  | ok pinData =>
      cases pinData with
      | none => exact iff_of_true safe_quiet (by simp)
      | some pk =>
          have sends : (app.step (.packet pk)).2 ≠ [] ↔ app.Changes pk :=
            MulticastGroupMembershipApp.handlePacketIn_sends_iff sound.good pk
          show Safe past (app.perform (app.step (.packet pk))) ↔ _
          rw [safe_perform_iff captures (step_dereferences _ _), sends]
          simp

theorem call_packetIn {same : Bool} {ofconn : OFConnection} (accepted : app.accepts ofconn = .ok same)
    (ofpi : PacketIn13) : app.call (.eventCallback (.packetIn ofconn ofpi)) =
      if same then app.processPacketIn ofconn ofpi else (.ok app, []) := by
  rw [call, eventCallback, accepted]

theorem orderly_packetIn_iff {ofconn : OFConnection} {ofpi : PacketIn13} (first : firstUp past = some captured) :
    Orderly past app (.eventCallback (.packetIn ofconn ofpi)) ↔
      (OnlyUp past ofconn.id → captured.id = ofconn.id) ∧
        (captured.id = ofconn.id → ∀ pk, readHeader ofpi = .ok (some pk) → app.Changes pk → FirstAlive past) := by
  constructor
  · rintro ⟨other, first', orderly⟩
    cases first.symm.trans first'
    exact orderly
  · exact fun orderly => ⟨captured, first, orderly⟩

theorem correct_nullConnection {ofconn : OFConnection} {ofpi : PacketIn13} (captures : app.ofconn = none) :
    ¬ Correct past app (.eventCallback (.packetIn ofconn ofpi)) := by
  intro correct
  apply correct.safe.dereferences
  rw [call, eventCallback, accepts, captures]

theorem correct_accepted_iff {ofconn : OFConnection} {ofpi : PacketIn13} (sound : Sound past app)
    (of13 : ofconn.version = Of13.ofpVersion) (captures : app.ofconn = some captured)
    (same : captured.id = ofconn.id) :
    Correct past app (.eventCallback (.packetIn ofconn ofpi)) ↔
      ∀ pk, readHeader ofpi = .ok (some pk) → app.Changes pk → ¬ Down past captured.id := by
  have accepted : app.accepts ofconn = .ok true := by
    rw [accepts_some captures, beq_iff_eq.mpr same]
  have processed : app.call (.eventCallback (.packetIn ofconn ofpi)) = app.processPacketIn ofconn ofpi := call_packetIn accepted ofpi
  rw [← safe_processPacketIn_iff sound of13 captures, ← processed]
  constructor
  · exact fun correct => correct.safe
  · intro safe
    refine ⟨safe, ?_⟩
    rintro ofconn' ofpi' ⟨⟩ -
    exact accepted

theorem correct_discarded_iff {ofconn : OFConnection} {ofpi : PacketIn13} (captures : app.ofconn = some captured)
    (other : captured.id ≠ ofconn.id) :
    Correct past app (.eventCallback (.packetIn ofconn ofpi)) ↔ ¬ OnlyUp past ofconn.id := by
  have refused : app.accepts ofconn = .ok false := by
    rw [accepts_some captures, beq_eq_false_iff_ne.mpr other]
  have discarded : app.call (.eventCallback (.packetIn ofconn ofpi)) = (.ok app, []) := call_packetIn refused ofpi
  constructor
  · intro correct only
    cases refused.symm.trans (correct.processed ofconn ofpi rfl only)
  · intro notOnly
    constructor
    · rw [discarded]
      exact safe_quiet
    · rintro ofconn' ofpi' ⟨⟩ only
      exact absurd only notOnly

theorem correct_packetIn_iff {ofconn : OFConnection} {ofpi : PacketIn13} (sound : Sound past app)
    (of13 : ofconn.version = Of13.ofpVersion) :
    Correct past app (.eventCallback (.packetIn ofconn ofpi)) ↔
      Orderly past app (.eventCallback (.packetIn ofconn ofpi)) := by
  cases captures : app.ofconn with
  | none =>
      apply iff_of_false (correct_nullConnection captures)
      rintro ⟨captured, first, -⟩
      rw [← sound.captures, captures] at first
      cases first
  | some captured =>
      have first : firstUp past = some captured := sound.captures.symm.trans captures
      rw [orderly_packetIn_iff first, firstAlive_iff first]
      by_cases same : captured.id = ofconn.id
      · rw [correct_accepted_iff sound of13 captures same]
        simp [same]
      · rw [correct_discarded_iff captures same]
        simp [same]

theorem correct_create_iff {condition : Prop} (event : Event) (sound : Sound past app)
    (first : firstUp past = some captured) (performs : app.call call = app.perform (app.step event))
    (other : call.connection = none) (sends : (app.step event).2 ≠ [] ↔ condition) :
    Correct past app call ↔ (condition → FirstAlive past) := by
  apply correct_of_safe_iff
  · rintro ofconn ofpi rfl
    cases other
  · rw [performs, safe_perform_iff (sound.captures.trans first) (step_dereferences _ event), sends,
      firstAlive_iff first]

theorem correct_iff (sound : Sound past app)
    (of13 : ∀ ofconn, call.connection = some ofconn → ofconn.version = Of13.ofpVersion)
    (created : call.connection = none → firstUp past ≠ none) : Correct past app call ↔ Orderly past app call := by
  cases call with
  | eventCallback ev =>
      cases ev with
      | switchUp ofconn datapathId => exact correct_switchUp_iff sound (of13 ofconn rfl)
      | switchDown ofconn => exact correct_of_safe_iff (by simp) (iff_of_true safe_quiet trivial)
      | packetIn ofconn ofpi => exact correct_packetIn_iff sound (of13 ofconn rfl)
  | createGroup ip upIntf sport dport classd isRoot =>
      obtain ⟨captured, first⟩ := Option.ne_none_iff_exists'.mp (created rfl)
      exact correct_create_iff (.newGroup ip upIntf sport dport classd isRoot) sound first rfl rfl
        (MulticastGroupMembershipApp.createNewGroup_sends_iff ip upIntf sport dport classd isRoot)
  | createSession sip dip sport dport upIntf isRoot =>
      obtain ⟨captured, first⟩ := Option.ne_none_iff_exists'.mp (created rfl)
      rw [correct_create_iff (.newSession sip dip sport dport upIntf isRoot) sound first rfl rfl
        (MulticastGroupMembershipApp.createSession_sends_iff sip dip sport dport upIntf isRoot)]
      exact and_imp

def EveryCall (P : List Call → ConnectedApp → Call → Prop) (calls : List Call) : Prop :=
  ∀ past call app, past ++ [call] <+: calls → Run Steps initial past app → P past app call

/-- Every call of a run is correct exactly where every call of it is orderly. -/
theorem every_call_correct_iff (calls : List Call) (of13 : OpenFlow13 calls) (created : CreatesAfterUp calls) :
    EveryCall Correct calls ↔ EveryCall Orderly calls := by
  have decided (past : List Call) (call : Call) (app : ConnectedApp) (inside : past ++ [call] <+: calls)
      (run : Run Steps initial past app) : Correct past app call ↔ Orderly past app call := by
    have sound : Sound past app := run_sound (fun c member => of13 c (inside.subset (by simp [member]))) run
    exact correct_iff sound (of13 call (inside.subset (by simp))) (created past call inside)
  constructor
  · exact fun correct past call app inside run =>
      (decided past call app inside run).mp (correct past call app inside run)
  · exact fun orderly past call app inside run =>
      (decided past call app inside run).mpr (orderly past call app inside run)

def sampleConnection (id : Nat) : OFConnection := { id := id, version := Of13.ofpVersion }

def samplePacketIn : PacketIn13 where
  xid := 0
  bufferId := noBuffer
  inPort := some 1
  data := List.replicate 12 0 ++ [8, 0, 0x45] ++ List.replicate 8 0 ++ [17, 0, 0, 10, 0, 0, 2, 10, 0, 0, 1] ++
    [0x03, 0xe8, 0x07, 0xd0] ++ List.replicate 8 0

def steady : List Call :=
  [.eventCallback (.switchUp (sampleConnection 0) 7), .createSession 0x0100000a 0 1000 2000 1 1,
   .eventCallback (.packetIn (sampleConnection 0) samplePacketIn)]

theorem firstUp_of_prefix {ofconn : OFConnection} {datapathId : BitVec 64} {rest : List Call}
    (inside : past ++ [call] <+: .eventCallback (.switchUp ofconn datapathId) :: rest) :
    past = [] ∧ call = .eventCallback (.switchUp ofconn datapathId) ∨ firstUp past = some ofconn := by
  rcases snoc_prefix_cons_iff.mp inside with first | ⟨later, rfl, -⟩
  · exact Or.inl first
  · exact Or.inr rfl

theorem createsAfterUp_cons (ofconn : OFConnection) (datapathId : BitVec 64) (rest : List Call) :
    CreatesAfterUp (.eventCallback (.switchUp ofconn datapathId) :: rest) := by
  intro past call inside create
  rcases firstUp_of_prefix inside with ⟨-, rfl⟩ | first
  · cases create
  · rw [first]
    exact Option.some_ne_none _

theorem steady_correct : EveryCall Correct steady := by
  have of13 : OpenFlow13 steady := by
    simp [OpenFlow13, steady, Call.connection, sampleConnection]
  apply (every_call_correct_iff steady of13 (createsAfterUp_cons _ _ _)).mpr
  rintro past call app inside -
  have noneDown (id : Nat) : ¬ Down past id := by
    rintro ⟨ofconn, member, -⟩
    have down := inside.subset (List.mem_append_left _ member)
    simp [steady] at down
  have alive : FirstAlive past := fun captured _ => noneDown captured.id
  rcases firstUp_of_prefix inside with ⟨-, rfl⟩ | first
  · exact fun _ => noneDown _
  · have member : call ∈ steady := inside.subset (by simp)
    rcases List.mem_cons.mp member with rfl | member
    · exact fun _ => noneDown _
    rcases List.mem_cons.mp member with rfl | member
    · exact fun _ _ => alive
    · obtain rfl := List.mem_singleton.mp member
      exact ⟨_, first, fun _ => rfl, fun _ _ _ _ => alive⟩

def reconnect : List Call :=
  [.eventCallback (.switchUp (sampleConnection 0) 7), .eventCallback (.switchDown (sampleConnection 0)),
   .eventCallback (.switchUp (sampleConnection 1) 7)] ++
  [.eventCallback (.packetIn (sampleConnection 1) samplePacketIn)]

theorem reconnected_switch_ignored :
    OpenFlow13 reconnect ∧ CreatesAfterUp reconnect ∧ ¬ EveryCall Correct reconnect := by
  refine ⟨?_, createsAfterUp_cons _ _ _, fun correct => ?_⟩
  · simp [OpenFlow13, reconnect, Call.connection, sampleConnection]
  · have run : Run Steps initial [.eventCallback (.switchUp (sampleConnection 0) 7),
        .eventCallback (.switchDown (sampleConnection 0)), .eventCallback (.switchUp (sampleConnection 1) 7)] _ :=
      ((Run.start.step ⟨_, rfl⟩).step ⟨_, rfl⟩).step ⟨_, rfl⟩
    have only : OnlyUp [.eventCallback (.switchUp (sampleConnection 0) 7),
        .eventCallback (.switchDown (sampleConnection 0)), .eventCallback (.switchUp (sampleConnection 1) 7)] 1 := by
      constructor
      · refine ⟨[_, _], _, _, [], rfl, rfl, ?_⟩
        rintro ⟨ofconn, member, -⟩
        cases member
      · rintro other ⟨before, ofconn, datapathId, after, split, rfl, stays⟩
        rcases before with _ | ⟨a, _ | ⟨b, _ | ⟨c, before⟩⟩⟩
        · cases split
          exact absurd ⟨sampleConnection 0, by simp, rfl⟩ stays
        · cases split
        · cases split
          rfl
        · simp at split
    cases (correct _ _ _ List.prefix_rfl run).processed _ _ rfl only

end ConnectedApp

end Libfluid.Multicast
