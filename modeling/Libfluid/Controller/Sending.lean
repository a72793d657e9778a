import Libfluid.Controller.Progress

namespace Libfluid.Controller
open Library Switch

namespace Loop

variable {n : Nat} {loop : Loop} {event : LoopEvent} {rest events : List LoopEvent}
  {out : List (BitVec 32 × Packet)}

/-- All that is sent are copies of captured frames, each of which is sent once at most: out of one port of the switch,
or of every port but its own. -/
def SendsOnce (n : Nat) (events : List LoopEvent) (log : List Effect) : Prop :=
  ∃ served : List Served, emissions log = served.flatMap (Served.copies n) ∧
    (served.map Served.packet).Subperm (captured events) ∧
    ∀ each ∈ served, ∀ port, each.port = some port → Inside n port

theorem sendsOnce_of_accounts {served : List Served} {left : List Packet} {log : List Effect}
    (accounts : Accounts n (captured events) served left log) : SendsOnce n events log := by
  refine ⟨served, accounts.sent, ?_, accounts.inside⟩
  exact (List.sublist_append_left _ _).subperm.trans accounts.part

theorem keepsFrames_bare : loop.bare.KeepsFrames event ↔ loop.KeepsFrames event := by
  cases event <;> exact Iff.rfl

theorem KeepsFrames.of_bare {loop' : Loop} (kept : loop'.KeepsFrames event) (bare : loop'.bare = loop.bare) :
    loop.KeepsFrames event := by
  rw [← keepsFrames_bare, ← bare, keepsFrames_bare]
  exact kept

theorem framesKept_of_raw (frames : ∀ event ∈ events, event.Plain) (room : captures events < 2 ^ 32 - 1)
    (kept : FramesKept RawLearningSwitch.answering (start n) events) :
    FramesKept MultiLearningSwitch.answering (start n) events := by
  intro past event inside reached log run
  have part : past <+: events := (List.prefix_append _ _).trans inside
  obtain ⟨reached', raw, bare⟩ := raw_of_multi (fun event member => frames event (part.subset member))
    (part.sublist.countP_le.trans_lt room) run
  exact (kept past event inside reached' log raw).of_bare bare

/-- Under any order of frames, connections and deliveries nothing is sent that was not captured, and no frame is
handled twice, as long as the frames in the buffer keep their bytes. -/
theorem run_sends_once (n : Nat) (few : n ≤ ofppMax.toNat) (events : List LoopEvent)
    (received : ∀ event ∈ events, event.Received n) (room : captures events < 2 ^ 32 - 1) :
    (FramesKept MultiLearningSwitch.answering (start n) events →
        ∀ last log, (start n).run MultiLearningSwitch.answering events = .ok (last, log) → SendsOnce n events log) ∧
      ((∀ event ∈ events, event.Plain) → FramesKept RawLearningSwitch.answering (start n) events →
        ∀ last log, (start n).run RawLearningSwitch.answering events = .ok (last, log) → SendsOnce n events log) := by
  obtain ⟨done, sent, served, left, ran, accounts⟩ := run_accounts few received room
  constructor
  · intro kept last log run
    cases run.symm.trans ran
    exact sendsOnce_of_accounts (accounts kept)
  · intro frames kept last log run
    obtain ⟨done', raw, -⟩ := raw_of_multi frames room ran
    cases run.symm.trans raw
    exact sendsOnce_of_accounts (accounts (framesKept_of_raw frames room kept))

theorem framesKept_of_readOnly (events : List LoopEvent) (readOnly : ∀ p index byte, .overwrite p index byte ∉ events)
    (answering : Answering) (loop : Loop) : FramesKept answering loop events := by
  intro past event inside next log _
  have member : event ∈ events := inside.subset (by simp)
  cases event with
  | overwrite p index byte => exact absurd member (readOnly p index byte)
  | capture | connect | switchUp | switchDown | packetIn | message => trivial

theorem flooded_and_answered_once :
    (∃ last log, (start 2).run MultiLearningSwitch.answering sampleEvents = .ok (last, log) ∧
        SendsOnce 2 sampleEvents log) ∧
      ∃ last log, (start 2).run RawLearningSwitch.answering sampleEvents = .ok (last, log) ∧
        SendsOnce 2 sampleEvents log := by
  have received : ∀ event ∈ sampleEvents, event.Received 2 := by
    simp [sampleEvents, LoopEvent.Received, Inside, sampleFrame]
  have frames : ∀ event ∈ sampleEvents, event.Plain := by decide
  have room : captures sampleEvents < 2 ^ 32 - 1 := by decide
  have kept := framesKept_of_readOnly sampleEvents (by simp [sampleEvents])
  obtain ⟨multi, raw⟩ := run_sends_once 2 (by decide) sampleEvents received room
  obtain ⟨last, log, -, -, ran, -⟩ := run_accounts (by decide) received room
  obtain ⟨last', ran', -⟩ := raw_of_multi frames room ran
  exact ⟨⟨last, log, ran, multi (kept _ _) last log ran⟩, last', log, ran', raw frames (kept _ _) last' log ran'⟩

/-! ## While a connection lasts -/

def opened (loop : Loop) (connection : Nat) : Loop where
  dp := { loop.dp with conn := true }
  app := loop.app.switchUp connection
  connection := connection
  up := []
  down := []

theorem run_silent {answering : Answering} {next : Loop} (stepped : loop.step answering event = .ok (next, [])) :
    loop.run answering (event :: rest) = next.run answering rest := by
  show (loop.step answering event).bind _ = _
  rw [stepped]
  show (runLog (step answering) next rest).bind _ = runLog (step answering) next rest
  cases runLog (step answering) next rest <;> rfl

theorem run_opened {answering : Answering} (loop : Loop) (connection : Nat) (events : List LoopEvent)
    (answer : ∀ app, answering app (.switchUp connection 1) = .ok (app.switchUp connection, [])) :
    loop.run answering (.connect connection :: .switchUp :: events) = (loop.opened connection).run answering events := by
  rw [run_silent rfl]
  apply run_silent
  show (answering loop.app (.switchUp connection 1) >>= _) = _
  rw [answer]
  rfl

/-- Each frame has been sent, out of one port or of every port but its own, or a message for it is on its way. -/
def SendsEach (n : Nat) (events : List LoopEvent) (last : Loop) (log : List Effect) : Prop :=
  ∃ (served : List Served) (waiting : List Packet), emissions log = served.flatMap (Served.copies n) ∧
    (served.map Served.packet ++ waiting).Perm (captured events) ∧
    waiting.length = last.up.length + last.down.length ∧
    ∀ each ∈ served, ∀ port, each.port = some port → Inside n port

def ServesAfter (answering : Answering) (n : Nat) (before : List LoopEvent) (connection : Nat)
    (events : List LoopEvent) : Prop :=
  ∃ loop earlier last log, (start n).run answering before = .ok (loop, earlier) ∧
    loop.run answering (.connect connection :: .switchUp :: events) = .ok (last, log) ∧ SendsEach n events last log

theorem opened_sound {connection : Nat} (sound : Sound n (.connect connection :: .switchUp :: rest) out loop) :
    Sound n rest [] (loop.opened connection) :=
  (sound.tail.connect connection).tail.relearned (learned_empty sound.learned)

theorem opened_attended (loop : Loop) (connection : Nat) : Attended [] (loop.opened connection) where
  conn := rfl
  table := by
    show (loop.app.setApplicationData connection .empty).applicationData connection ≠ none
    rw [BaseLearningSwitch.setApplicationData_self]
    exact Option.some_ne_none _
  up := fun _ member => absurd member List.not_mem_nil
  down := fun _ member => absurd member List.not_mem_nil
  typed := fun _ _ member => absurd member List.not_mem_nil

def KeptAfter (answering : Answering) (n : Nat) (before : List LoopEvent) (connection : Nat)
    (events : List LoopEvent) : Prop :=
  ∀ loop log, (start n).run answering before = .ok (loop, log) → FramesKept answering (loop.opened connection) events

theorem multi_serves {before : List LoopEvent} {connection : Nat} (few : n ≤ ofppMax.toNat)
    (received : ∀ event ∈ before ++ .connect connection :: .switchUp :: events, event.Received n)
    (room : captures (before ++ .connect connection :: .switchUp :: events) < 2 ^ 32 - 1)
    (lasting : ∀ event ∈ events, event.Lasting)
    (kept : KeptAfter MultiLearningSwitch.answering n before connection events) :
    ServesAfter MultiLearningSwitch.answering n before connection events := by
  obtain ⟨loop, earlier, out, -, first, sound, -⟩ := run_goesOn (start_sound n received room) few
  have opened : Sound n (events ++ []) [] (loop.opened connection) := by
    rw [List.append_nil]
    exact opened_sound sound
  obtain ⟨last, log, left, served, ran, done, accounted⟩ := run_goesOn opened few
  obtain ⟨accounts, attended⟩ := accounted (kept loop earlier first)
  obtain ⟨-, moved⟩ := attended ⟨opened_attended loop connection, lasting⟩
  rw [List.map_nil, List.append_nil] at moved
  refine ⟨loop, earlier, last, log, first, ?_, served, left.map Prod.snd, accounts.sent, moved, ?_, accounts.inside⟩
  · rw [run_opened loop connection events fun _ => rfl]
    exact ran
  · have count := done.ids.length_eq
    rwa [List.length_map, ids, List.length_append, List.length_map, List.length_map, ← List.length_map Prod.snd] at count

theorem raw_follows {before : List LoopEvent} {connection : Nat} {last : Loop} {earlier log : List Effect}
    (frames : ∀ event ∈ before ++ .connect connection :: .switchUp :: events, event.Plain)
    (room : captures (before ++ .connect connection :: .switchUp :: events) < 2 ^ 32 - 1)
    (first : (start n).run MultiLearningSwitch.answering before = .ok (loop, earlier))
    (next : (loop.opened connection).run MultiLearningSwitch.answering events = .ok (last, log)) :
    ∃ loop' last', (start n).run RawLearningSwitch.answering before = .ok (loop', earlier) ∧
      (loop'.opened connection).run RawLearningSwitch.answering events = .ok (last', log) ∧ last'.bare = last.bare := by
  have fewer : captures before < 2 ^ 32 - 1 := by
    rw [captures, List.countP_append] at room
    exact (Nat.le_add_right _ _).trans_lt room
  rw [← run_opened loop connection events fun _ => rfl] at next
  have whole : (start n).run MultiLearningSwitch.answering (before ++ .connect connection :: .switchUp :: events) =
      .ok (last, earlier ++ log) := by
    rw [run, runLog_append, ← run, first]
    show (loop.run _ _).bind _ = _
    rw [next]
    rfl
  obtain ⟨loop', raw, -⟩ := raw_of_multi (fun event member => frames event (List.mem_append_left _ member)) fewer first
  obtain ⟨last', rawWhole, bare⟩ := raw_of_multi frames room whole
  rw [run, runLog_append, ← run, raw] at rawWhole
  change (loop'.run _ _).bind _ = _ at rawWhole
  obtain ⟨⟨last'', log'⟩, rest, same⟩ := bind_eq_ok.mp rawWhole
  obtain ⟨rfl, logs⟩ := Prod.mk.inj (Except.ok.inj same)
  obtain rfl : log' = log := List.append_cancel_left logs
  rw [run_opened loop' connection events fun _ => rfl] at rest
  exact ⟨loop', last'', raw, rest, bare⟩

theorem keptAfter_of_raw {before : List LoopEvent} {connection : Nat}
    (frames : ∀ event ∈ before ++ .connect connection :: .switchUp :: events, event.Plain)
    (room : captures (before ++ .connect connection :: .switchUp :: events) < 2 ^ 32 - 1)
    (kept : KeptAfter RawLearningSwitch.answering n before connection events) :
    KeptAfter MultiLearningSwitch.answering n before connection events := by
  intro loop earlier first past event inside reached log run
  have part : (before ++ .connect connection :: .switchUp :: past).Sublist
      (before ++ .connect connection :: .switchUp :: events) := by
    have shorter : past.Sublist events := ((List.prefix_append _ _).trans inside).sublist
    exact (List.Sublist.refl before).append ((shorter.cons_cons _).cons_cons _)
  obtain ⟨loop', reached', raw, next, bare⟩ := raw_follows (fun event member => frames event (part.subset member))
    (part.countP_le.trans_lt room) first run
  exact (kept loop' earlier raw past event inside reached' log next).of_bare bare

theorem raw_serves {before : List LoopEvent} {connection : Nat}
    (frames : ∀ event ∈ before ++ .connect connection :: .switchUp :: events, event.Plain)
    (room : captures (before ++ .connect connection :: .switchUp :: events) < 2 ^ 32 - 1)
    (serves : ServesAfter MultiLearningSwitch.answering n before connection events) :
    ServesAfter RawLearningSwitch.answering n before connection events := by
  obtain ⟨loop, earlier, last, log, first, next, served, waiting, sent, moved, count, inside⟩ := serves
  rw [run_opened loop connection events fun _ => rfl] at next
  obtain ⟨loop', last', raw, rest, bare⟩ := raw_follows frames room first next
  rw [← run_opened loop' connection events fun _ => rfl] at rest
  have queues : last'.bare.up.length + last'.bare.down.length = last.bare.up.length + last.bare.down.length := by
    rw [bare]
  simp only [Loop.bare, List.length_map] at queues
  exact ⟨loop', earlier, last', log, raw, rest, served, waiting, sent, moved, count.trans queues.symm, inside⟩

/-- While a connection lasts and the buffered frames keep their bytes, each Ethernet II frame is sent on once, or waits
for one of the messages on their way, whatever the order of the steps and whatever went before. -/
theorem run_sends_each (n : Nat) (few : n ≤ ofppMax.toNat) (before events : List LoopEvent) (connection : Nat)
    (received : ∀ event ∈ before ++ .connect connection :: .switchUp :: events, event.Received n)
    (room : captures (before ++ .connect connection :: .switchUp :: events) < 2 ^ 32 - 1)
    (lasting : ∀ event ∈ events, event.Lasting) :
    (KeptAfter MultiLearningSwitch.answering n before connection events →
        ServesAfter MultiLearningSwitch.answering n before connection events) ∧
      ((∀ event ∈ before ++ .connect connection :: .switchUp :: events, event.Plain) →
        KeptAfter RawLearningSwitch.answering n before connection events →
        ServesAfter RawLearningSwitch.answering n before connection events) := by
  have multi := multi_serves few received room lasting
  exact ⟨multi, fun frames kept => raw_serves frames room (multi (keptAfter_of_raw frames room kept))⟩

def laterEvents : List LoopEvent :=
  [.capture { data := sampleFrame, inPort := 1 } 14,
    .capture { data := [0, 0, 0, 0, 0, 1, 0, 0, 0, 0, 0, 2, 8, 0], inPort := 2 } 14,
    .packetIn, .packetIn, .message, .message]

theorem both_frames_sent :
    ServesAfter MultiLearningSwitch.answering 2 sampleEvents 2 laterEvents ∧
      ServesAfter RawLearningSwitch.answering 2 sampleEvents 2 laterEvents := by
  have received : ∀ event ∈ sampleEvents ++ .connect 2 :: .switchUp :: laterEvents, event.Received 2 := by
    simp [sampleEvents, laterEvents, LoopEvent.Received, Inside, sampleFrame]
  have lasting : ∀ event ∈ laterEvents, event.Lasting := by
    simp [laterEvents, LoopEvent.Lasting, Typed, EthernetII, sampleFrame, ethHeaderLen, ethTypeIIStart]
  have kept := framesKept_of_readOnly laterEvents (by simp [laterEvents])
  obtain ⟨multi, raw⟩ := run_sends_each 2 (by decide) sampleEvents laterEvents 2 received (by decide) lasting
  exact ⟨multi fun _ _ _ => kept _ _, raw (by decide) fun _ _ _ => kept _ _⟩

end Loop

end Libfluid.Controller
