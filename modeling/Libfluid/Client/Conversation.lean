import Libfluid.Client.Lifetime
import Libfluid.Client.Negotiation

namespace Libfluid.Client
open Library
open Libfluid.Switch (Datapath)

def Sent.isReply : Sent → Bool
  | .message (.echoRequest _ _) | .packetIn _ => false
  | .hello _ _ | .message _ | .barrierReply _ => true

def Output.replyOn (i : Nat) : Output → Option Sent
  | .sent j m => if j = i ∧ m.isReply then some m else none
  | .closed _ | .inject _ _ => none

def conversation (i : Nat) (log : List Output) : List Sent := log.filterMap (Output.replyOn i)

def SwitchEvent.messageOn (i : Nat) : SwitchEvent → Option OFMessage
  | .message j m => if j = i then some m else none
  | .connected | .timer _ | .down _ | .capture .. | .overwrite .. | .stop => none

def received (i : Nat) (events : List SwitchEvent) : List OFMessage := events.filterMap (SwitchEvent.messageOn i)

def OFClient.answers (client : OFClient) (m : OFMessage) : List Sent :=
  if client.ofsc.livenessCheck ∧ m.type = ofptEchoRequest then [.message (.echoReply m.version m.xid)]
  else if client.ofsc.handshake ∧ m.type = ofptFeaturesRequest then
    [.message (.featuresReply m.xid client.datapathId 1 1 0 0)]
  else if m.type = ofptBarrierRequest then [.barrierReply m.xid]
  else []

def Effect.replies : Effect → List Sent
  | .send m => if (Sent.message m).isReply then [.message m] else []
  | .messageCallback m => if m.type = ofptBarrierRequest then [.barrierReply m.xid] else []
  | .close | .connectionCallback _ | .addTimedCallback _ => []

namespace Switch

variable {build : Build} {s s' : Switch} {i j : Nat} {m : OFMessage} {effect : Effect} {effects : List Effect}

/-! ## The replies of one callback -/

theorem conversation_append (log later : List Output) :
    conversation j (log ++ later) = conversation j log ++ conversation j later := List.filterMap_append

theorem conversation_send (up : s.Up i) (sent : Sent) :
    conversation j (s.send i sent).log = conversation j s.log ++ if j = i ∧ sent.isReply then [sent] else [] := by
  rw [send, if_pos up]
  show conversation j (s.log ++ [.sent i sent]) = _
  rw [conversation_append]
  congr 1
  by_cases here : j = i
  · subst here
    cases reply : sent.isReply <;> simp [conversation, Output.replyOn, reply]
  · simp [conversation, Output.replyOn, here, Ne.symm here]

theorem conversation_send_other {sent : Sent} (other : sent.isReply = false) :
    conversation j (s.send i sent).log = conversation j s.log := by
  by_cases up : s.Up i
  · rw [conversation_send up, if_neg (by simp [other]), List.append_nil]
  · rw [send, if_neg up]

theorem conversation_deliver {sent : Switch.Effect} : conversation j (s.deliver sent).log = conversation j s.log := by
  cases sent with
  | inject portNo data =>
      show conversation j (s.log ++ [.inject portNo data]) = _
      rw [conversation_append]
      exact List.append_nil _
  | packetIn pi =>
      rw [deliver]
      cases s.conn with
      | none => rfl
      | some i => exact conversation_send_other rfl
  | delete pkt => rfl

theorem conversation_deliverAll {sent : List Switch.Effect} :
    conversation j (sent.foldl deliver s).log = conversation j s.log := by
  induction sent generalizing s with
  | nil => rfl
  | cons first rest ih => exact ih.trans conversation_deliver

theorem conversation_onDatapath {event : Switch.Event} (run : s.onDatapath event = .ok s') :
    conversation j s'.log = conversation j s.log := by
  obtain ⟨dp, sent, -, rfl⟩ := onDatapath_ok run
  exact conversation_deliverAll

theorem conversation_messageCallback (sane : s.Sane) (up : s.Up i) (run : s.messageCallback build m = .ok s') :
    conversation j s'.log = conversation j s.log ++ if j = i then (Effect.messageCallback m).replies else [] := by
  have here : s.ups.length - 1 = i := by rw [← sane.last i up, Nat.add_sub_cancel]
  rw [messageCallback] at run
  rw [Effect.replies]
  by_cases barrier : m.type = ofptBarrierRequest
  · rw [if_pos barrier, handleBarrierRequest, conn_made up.made, here] at run
    cases run
    rw [conversation_send up, if_pos barrier]
    simp [Sent.isReply]
  · rw [if_neg barrier] at run
    rw [if_neg barrier, ite_self, List.append_nil]
    split_ifs at run
    · exact conversation_onDatapath run
    · exact conversation_onDatapath run
    · cases run
      rfl

theorem conversation_perform (sane : s.Sane) (up : s.Up i) (stays : effect ≠ .close)
    (run : perform build i s effect = .ok s') :
    conversation j s'.log = conversation j s.log ++ if j = i then effect.replies else [] := by
  cases effect with
  | send m =>
      cases run
      rw [conversation_send up, Effect.replies]
      congr 1
      by_cases here : j = i
      · simp [here]
      · simp [here]
  | close => exact absurd rfl stays
  | messageCallback m => exact conversation_messageCallback sane up run
  | connectionCallback event =>
      cases run
      rw [Effect.replies, ite_self, List.append_nil]
  | addTimedCallback interval =>
      cases run
      rw [Effect.replies, ite_self, List.append_nil]
      rfl

theorem conversation_performAll (sane : s.Sane) (up : s.Up i) (stays : .close ∉ effects)
    (run : performAll build i effects s = .ok s') :
    conversation j s'.log = conversation j s.log ++ if j = i then effects.flatMap Effect.replies else [] := by
  induction effects generalizing s with
  | nil =>
      cases run
      rw [List.flatMap_nil, ite_self, List.append_nil]
  | cons effect rest ih =>
      obtain ⟨middle, first, later⟩ := bind_eq_ok.mp run
      have open_ : effect ≠ .close := fun same => stays (same ▸ List.mem_cons_self)
      have continues : Continues s middle := by
        rcases perform_ok first with ⟨closes, -⟩ | continues
        · exact absurd closes open_
        · exact continues
      obtain ⟨saneMiddle, -⟩ := sane.perform up.made first
      rw [ih saneMiddle (continues.up_iff.mpr up) (fun inside => stays (List.mem_cons_of_mem _ inside)) later,
        conversation_perform sane up open_ first, List.append_assoc]
      congr 1
      split_ifs
      · rw [List.flatMap_cons]
      · rfl

theorem conversation_finish (sane : s.Sane) (up : s.Up i) {result : OFConnection × List Effect}
    (stays : .close ∉ result.2) (run : s.finish build i result = .ok s') :
    conversation j s'.log = conversation j s.log ++ if j = i then result.2.flatMap Effect.replies else [] := by
  have continues : Continues s (s.updateLink i fun link => { link with cc := result.1 }) :=
    updateLink_continues fun _ => rfl
  have updated := sane.continues continues fun bare => absurd bare up.made
  have answered := conversation_performAll (j := j) updated (continues.up_iff.mpr up) stays run
  exact answered

/-! ## The replies to a message -/

theorem replies_dispatchIfAll {client : OFClient} (other : m.type ≠ ofptBarrierRequest) :
    (client.dispatchIfAll m).flatMap Effect.replies = [] := by
  rw [OFClient.dispatchIfAll]
  split_ifs
  · rw [List.flatMap_singleton, Effect.replies, if_neg other]
  · rfl

theorem not_closed_dispatchIfAll {client : OFClient} : .close ∉ client.dispatchIfAll m := by
  rw [OFClient.dispatchIfAll]
  split_ifs <;> simp

theorem baseMessageCallback_answers {client : OFClient} (supports : client.ofsc.supportedVersions ≠ 0)
    (cc : OFConnection) (m : OFMessage) :
    .close ∉ (client.baseMessageCallback cc m).2 ∧
      (client.baseMessageCallback cc m).2.flatMap Effect.replies = client.answers m := by
  have closed : .close ∉ client.dispatchIfAll m := not_closed_dispatchIfAll
  have quiet {given : BitVec 8} (type : m.type = given) (other : given ≠ ofptBarrierRequest) :
      (client.dispatchIfAll m).flatMap Effect.replies = [] := replies_dispatchIfAll (type ▸ other)
  rw [OFClient.baseMessageCallback, OFClient.answers, OFClient.rejects_eq_false supports]
  simp only [Bool.false_eq_true, if_false]
  by_cases echo : client.ofsc.livenessCheck ∧ m.type = ofptEchoRequest
  · rw [if_pos echo, if_pos echo]
    refine ⟨by simp [closed], ?_⟩
    rw [List.flatMap_cons, quiet echo.2 (by decide)]
    rfl
  rw [if_neg echo, if_neg echo]
  by_cases hello : client.ofsc.handshake ∧ m.type = ofptHello
  · have barrier : m.type ≠ ofptBarrierRequest := by
      rw [hello.2]
      decide
    rw [if_pos hello, if_neg (OFClient.other_type hello.2 (by decide)), if_neg barrier]
    exact ⟨closed, quiet hello.2 (by decide)⟩
  rw [if_neg hello]
  by_cases reply : client.ofsc.livenessCheck ∧ m.type = ofptEchoReply
  · have barrier : m.type ≠ ofptBarrierRequest := by
      rw [reply.2]
      decide
    rw [if_pos reply, if_neg (OFClient.other_type reply.2 (by decide)), if_neg barrier]
    exact ⟨closed, quiet reply.2 (by decide)⟩
  rw [if_neg reply]
  by_cases features : client.ofsc.handshake ∧ m.type = ofptFeaturesRequest
  · have barrier : m.type ≠ ofptBarrierRequest := by
      rw [features.2]
      decide
    rw [if_pos features, if_pos features]
    split_ifs
    · simp [Effect.replies, Sent.isReply, barrier]
    · simp [Effect.replies, Sent.isReply, barrier]
  rw [if_neg features, if_neg features]
  refine ⟨by simp, ?_⟩
  rw [List.flatMap_singleton, Effect.replies]

theorem sendEcho_replies (client : OFClient) (cc : OFConnection) :
    (client.sendEcho cc).2.flatMap Effect.replies = [] := by
  rw [OFClient.sendEcho]
  split_ifs <;> rfl

theorem conversation_timer {link : Link} (sane : s.Sane) (up : s.Up i)
    (run : s.finish build i (build.client.sendEcho link.cc) = .ok s') :
    conversation j s'.log = conversation j s.log := by
  by_cases stays : .close ∈ (build.client.sendEcho link.cc).2
  · rw [OFClient.sendEcho] at stays run
    split_ifs at stays run
    · cases run
      show conversation j (if _ then _ else _ : Switch).log = _
      split_ifs
      · show conversation j (s.log ++ [.closed i]) = _
        rw [conversation_append]
        exact List.append_nil _
      · rfl
    · simp at stays
  · rw [conversation_finish sane up stays run, sendEcho_replies, ite_self, List.append_nil]

/-! ## Runs -/

variable {n : Nat} {events : List SwitchEvent}

/-- What has been replied on each connection that was made, and the others are silent. -/
structure Converses (build : Build) (events : List SwitchEvent) (s : Switch) : Prop where
  made : ∀ i, i < s.ups.length → conversation i s.log =
    .hello build.maxSupportedVersion build.helloXid :: (received i events).flatMap build.client.answers
  others : ∀ i, s.ups.length ≤ i → conversation i s.log = [] ∧ received i events = []

theorem received_snoc {event : SwitchEvent} :
    received i (events ++ [event]) = received i events ++ (event.messageOn i).toList := by
  rw [received, List.filterMap_append, ← received]
  cases arrived : event.messageOn i <;> simp [arrived]

theorem Converses.quiet {event : SwitchEvent} (converses : Converses build events s)
    (length : s'.ups.length = s.ups.length) (silent : ∀ i, conversation i s'.log = conversation i s.log)
    (none : ∀ i, event.messageOn i = none) : Converses build (events ++ [event]) s' where
  made := by
    intro i inside
    rw [silent, received_snoc, none]
    simpa using converses.made i (length ▸ inside)
  others := by
    intro i outside
    rw [silent, received_snoc, none]
    simpa using converses.others i (length ▸ outside)

theorem Converses.connected (converses : Converses build events s)
    (handshake : build.client.ofsc.handshake = true) :
    Converses build (events ++ [.connected]) (s.baseConnectionUp build) := by
  have length : (s.baseConnectionUp build).ups.length = s.ups.length + 1 := by
    rw [baseConnectionUp_continues.ups, ups_linked, List.length_append, List.length_singleton]
  have up : s.linked.Up s.ups.length := by
    rw [up_iff, ups_linked, List.getElem?_append_right le_rfl, Nat.sub_self]
    rfl
  have said (i : Nat) : conversation i (s.baseConnectionUp build).log = conversation i s.log ++
      if i = s.ups.length then [.hello build.maxSupportedVersion build.helloXid] else [] := by
    show conversation i (if build.client.ofsc.handshake then s.linked.send s.links.length _ else s.linked).log = _
    rw [if_pos handshake, ← length_ups, conversation_send up]
    congr 1
    simp [Sent.isReply]
  have same (i : Nat) : received i (events ++ [.connected]) = received i events := by
    rw [received_snoc]
    exact List.append_nil _
  constructor
  · intro i inside
    rw [said, same]
    by_cases new : i = s.ups.length
    · obtain ⟨silent, unheard⟩ := converses.others i (Nat.le_of_eq new.symm)
      rw [if_pos new, silent, unheard]
      rfl
    · rw [if_neg new, List.append_nil]
      exact converses.made i (by omega)
  · intro i outside
    rw [length] at outside
    rw [said, same, if_neg (Nat.ne_of_gt outside), List.append_nil]
    exact converses.others i (Nat.le_of_succ_le outside)

theorem Converses.message (converses : Converses build events s) (sane : s.Sane) (up : s.Up i)
    (supports : build.client.ofsc.supportedVersions ≠ 0) {link : Link}
    (run : s.finish build i (build.client.baseMessageCallback link.cc m) = .ok s') :
    Converses build (events ++ [.message i m]) s' := by
  obtain ⟨stays, answers⟩ := baseMessageCallback_answers supports link.cc m
  have length := (sane.finish up.made run).2
  have said (j : Nat) : conversation j s'.log =
      conversation j s.log ++ if j = i then build.client.answers m else [] := by
    rw [conversation_finish sane up stays run, answers]
  have heard (j : Nat) : received j (events ++ [.message i m]) = received j events ++ if j = i then [m] else [] := by
    rw [received_snoc, SwitchEvent.messageOn]
    congr 1
    by_cases here : j = i
    · simp [here]
    · simp [here, Ne.symm here]
  constructor
  · intro j inside
    rw [said, heard, converses.made j (length ▸ inside), List.cons_append, List.flatMap_append]
    congr 2
    split_ifs
    · rw [List.flatMap_singleton]
    · rfl
  · intro j outside
    have elsewhere : j ≠ i := Nat.ne_of_gt (up.inside.trans_le (length ▸ outside))
    rw [said, heard, if_neg elsewhere, if_neg elsewhere, List.append_nil, List.append_nil]
    exact converses.others j (length ▸ outside)

theorem run_converses (handshake : build.client.ofsc.handshake = true)
    (supports : build.client.ofsc.supportedVersions ≠ 0) (run : Run (Steps build) (create n) events s) :
    Converses build events s := by
  induction run with
  | start => exact ⟨fun i inside => absurd inside (Nat.not_lt_zero i), fun i _ => ⟨rfl, rfl⟩⟩
  | @step past event before after earlier steps ih =>
      have sane := (run_sane earlier).1
      have grown := (sane.step steps).2
      obtain ⟨enabled, run⟩ := steps
      cases event with
      | connected =>
          cases run
          exact ih.connected handshake
      | message i m =>
          obtain ⟨link, found⟩ := enabled.2.link
          rw [step, found] at run
          exact ih.message sane enabled.2 supports run
      | timer i =>
          obtain ⟨link, found⟩ := enabled.2.1.link
          rw [step, found] at run
          exact ih.quiet grown (fun j => conversation_timer sane enabled.2.1 run) fun _ => rfl
      | down i =>
          cases run
          exact ih.quiet grown (fun j => congrArg (conversation j) stopConn_same.2) fun _ => rfl
      | capture packet len => exact ih.quiet grown (fun j => conversation_onDatapath run) fun _ => rfl
      | overwrite pkt index byte => exact ih.quiet grown (fun j => conversation_onDatapath run) fun _ => rfl
      | stop =>
          cases run
          exact ih.quiet grown (fun j => congrArg (conversation j) stopConn_same.2) fun _ => rfl

/-- On every connection that was made the switch has said HELLO first, and then one reply to each request that
came in on it, in the order of the requests and with their identifiers. -/
theorem run_answers_requests (build : Build) (handshake : build.client.ofsc.handshake = true)
    (supports : build.client.ofsc.supportedVersions ≠ 0) (n : Nat) (events : List SwitchEvent) (s : Switch)
    (run : Run (Steps build) (create n) events s) (i : Nat) (made : i < s.links.length) :
    conversation i s.log =
      .hello build.maxSupportedVersion build.helloXid :: (received i events).flatMap build.client.answers :=
  (run_converses handshake supports run).made i (length_ups ▸ made)

theorem sample_answered : ∃ s, Run (Steps sampleBuild) (create 2) sampleEvents s ∧ conversation 0 s.log =
    [.hello 1 0, .message (.featuresReply 0 1 1 1 0 0), .barrierReply 0] := by
  obtain ⟨s, run, length⟩ := run_sampleEvents
  have answered := run_answers_requests sampleBuild rfl (by decide) 2 sampleEvents s run 0 (by omega)
  exact ⟨s, run, answered⟩

end Switch

end Libfluid.Client
