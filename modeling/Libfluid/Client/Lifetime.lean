import Libfluid.Client.Switch
import Libfluid.Switch.Connection

namespace Libfluid.Client
open Library
open Libfluid.Switch (Datapath Fault)

namespace Switch

def ups (s : Switch) : List Bool := s.links.map Link.up

def lasting (s : Switch) : Bool := s.running && !s.log.any Output.isClosed

def datapathEvents (build : Build) : SwitchEvent → List Switch.Event
  | .connected => [.connection true]
  | .message _ m =>
      if m.type = ofptPacketOut then [.packetOut (build.unpackPacketOut m)]
      else if m.type = ofptFlowMod then [.flowMod (build.unpackFlowMod m)]
      else []
  | .capture packet len => [.capture packet len]
  | .overwrite pkt index byte => [.overwrite pkt index byte]
  | .timer _ | .down _ | .stop => []

structure Sane (s : Switch) : Prop where
  conn : s.dp.conn = true ↔ s.ups ≠ []
  untouched : s.ups = [] → s.dp.flowTable = .empty ∧ ∀ i m, .sent i m ∉ s.log
  last : ∀ i, s.Up i → i + 1 = s.ups.length
  one : s.attempts + s.ups.count true = if s.lasting then 1 else 0

structure Continues (s s' : Switch) : Prop where
  ups : s'.ups = s.ups
  attempts : s'.attempts = s.attempts
  lasting : s'.lasting = s.lasting
  conn : s'.dp.conn = s.dp.conn

variable {build : Build} {s s' : Switch} {i j : Nat} {m : OFMessage} {effect : Effect} {effects : List Effect}

/-! ## The operations -/

theorem up_iff : s.Up i ↔ s.ups[i]? = some true := by
  simp [Up, ups]

theorem length_ups : s.ups.length = s.links.length := List.length_map _

theorem conn_made (made : s.ups ≠ []) : s.conn = some (s.ups.length - 1) := by
  rw [conn, if_neg (by simpa [ups] using made), length_ups]

theorem Continues.refl (s : Switch) : Continues s s := ⟨rfl, rfl, rfl, rfl⟩

theorem Continues.trans {s'' : Switch} (first : Continues s s') (second : Continues s' s'') : Continues s s'' where
  ups := second.ups.trans first.ups
  attempts := second.attempts.trans first.attempts
  lasting := second.lasting.trans first.lasting
  conn := second.conn.trans first.conn

theorem Continues.up_iff (continues : Continues s s') : s'.Up i ↔ s.Up i := by
  rw [Switch.up_iff, Switch.up_iff, continues.ups]

theorem record_continues {output : Output} (other : output.isClosed = false) : Continues s (s.record output) where
  ups := rfl
  attempts := rfl
  lasting := by simp [lasting, record, other]
  conn := rfl

theorem send_continues {sent : Sent} : Continues s (s.send i sent) := by
  rw [send]
  split_ifs
  · exact record_continues rfl
  · exact Continues.refl s

theorem ups_updateLink {f : Link → Link} (same : ∀ link, (f link).up = link.up) : (s.updateLink i f).ups = s.ups := by
  apply List.ext_getElem?
  intro j
  rw [ups, updateLink, List.getElem?_map, List.getElem?_modify, ups, List.getElem?_map]
  cases s.links[j]? with
  | none => rfl
  | some link =>
      by_cases here : i = j
      · simp [here, same]
      · simp [here]

theorem ups_close : (s.close i).ups = s.ups.set i false := by
  apply List.ext_getElem?
  intro j
  rw [ups, close, updateLink, List.getElem?_map, List.getElem?_modify, List.getElem?_set, ups, List.getElem?_map,
    List.length_map]
  by_cases here : i = j
  · subst here
    by_cases inside : i < s.links.length
    · simp [inside]
    · simp [inside]
  · simp [here]

theorem updateLink_continues {f : Link → Link} (same : ∀ link, (f link).up = link.up) :
    Continues s (s.updateLink i f) where
  ups := ups_updateLink same
  attempts := rfl
  lasting := rfl
  conn := rfl

theorem deliver_continues {sent : Switch.Effect} : Continues s (s.deliver sent) := by
  cases sent with
  | inject portNo data => exact record_continues rfl
  | packetIn pi =>
      rw [deliver]
      cases s.conn with
      | none => exact Continues.refl s
      | some i => exact send_continues
  | delete pkt => exact Continues.refl s

theorem deliverAll_continues {sent : List Switch.Effect} : Continues s (sent.foldl deliver s) := by
  induction sent generalizing s with
  | nil => exact Continues.refl s
  | cons first rest ih => exact deliver_continues.trans ih

theorem onDatapath_ok {event : Switch.Event} (run : s.onDatapath event = .ok s') :
    ∃ dp sent, s.dp.step event = .ok (dp, sent) ∧ s' = sent.foldl deliver { s with dp := dp } := by
  obtain ⟨⟨dp, sent⟩, stepped, delivered⟩ := bind_eq_ok.mp run
  exact ⟨dp, sent, stepped, (pure_eq_ok.mp delivered).symm⟩

theorem deliverAll_dp {sent : List Switch.Effect} : (sent.foldl deliver s).dp = s.dp := by
  induction sent generalizing s with
  | nil => rfl
  | cons first rest ih =>
      have same : (s.deliver first).dp = s.dp := by
        cases first with
        | inject portNo data => rfl
        | packetIn pi =>
            rw [deliver]
            cases s.conn with
            | none => rfl
            | some i =>
                show (s.send i _).dp = s.dp
                rw [send]
                split_ifs <;> rfl
        | delete pkt => rfl
      exact ih.trans same

theorem onDatapath_continues {event : Switch.Event} (run : s.onDatapath event = .ok s')
    (other : ∀ up, event ≠ .connection up) : Continues s s' := by
  obtain ⟨dp, sent, stepped, rfl⟩ := onDatapath_ok run
  have conn : dp.conn = s.dp.conn := by
    rw [Datapath.step_conn stepped]
    cases event with
    | connection up => exact absurd rfl (other up)
    | capture | packetOut | flowMod | overwrite => rfl
  have stepped' : Continues s { s with dp := dp } := ⟨rfl, rfl, rfl, conn⟩
  exact stepped'.trans deliverAll_continues

theorem messageCallback_continues (run : s.messageCallback build m = .ok s') : Continues s s' := by
  rw [messageCallback] at run
  split_ifs at run
  · rw [handleBarrierRequest] at run
    cases found : s.conn with
    | none =>
        rw [found] at run
        cases run
    | some i =>
        rw [found] at run
        cases run
        exact send_continues
  · exact onDatapath_continues run (by simp)
  · exact onDatapath_continues run (by simp)
  · cases run
    exact Continues.refl s

theorem perform_ok (run : perform build i s effect = .ok s') :
    effect = .close ∧ s.Up i ∧ s' = (s.close i).record (.closed i) ∨ Continues s s' := by
  cases effect with
  | send m =>
      cases run
      exact Or.inr send_continues
  | close =>
      by_cases up : s.Up i
      · cases run
        exact Or.inl ⟨rfl, up, if_pos up⟩
      · cases run
        rw [if_neg up]
        exact Or.inr (Continues.refl s)
  | connectionCallback event =>
      cases run
      exact Or.inr (Continues.refl s)
  | messageCallback m => exact Or.inr (messageCallback_continues run)
  | addTimedCallback interval =>
      cases run
      exact Or.inr (updateLink_continues fun _ => rfl)

/-! ## The invariant -/

theorem sane_create (n : Nat) : (create n).Sane where
  conn := iff_of_false Bool.false_ne_true (by simp [ups, create])
  untouched := fun _ => ⟨rfl, fun _ _ => List.not_mem_nil⟩
  last := by
    intro i up
    rw [up_iff] at up
    cases up
  one := rfl

theorem Sane.continues (sane : s.Sane) (continues : Continues s s')
    (untouched : s.ups = [] → s'.dp.flowTable = .empty ∧ ∀ i m, .sent i m ∉ s'.log) : s'.Sane where
  conn := by
    rw [continues.conn, continues.ups]
    exact sane.conn
  untouched := by
    rw [continues.ups]
    exact untouched
  last := by
    intro i up
    rw [continues.ups]
    exact sane.last i (continues.up_iff.mp up)
  one := by
    rw [continues.attempts, continues.ups, continues.lasting]
    exact sane.one

theorem Up.inside (up : s.Up i) : i < s.ups.length :=
  (List.getElem?_eq_some_iff.mp (up_iff.mp up)).1

theorem Up.made (up : s.Up i) : s.ups ≠ [] := List.ne_nil_of_length_pos (Nat.zero_lt_of_lt up.inside)

theorem Sane.lasting_of_up (sane : s.Sane) (up : s.Up i) :
    s.lasting = true ∧ s.attempts = 0 ∧ s.ups.count true = 1 := by
  have member : true ∈ s.ups := List.mem_of_getElem? (up_iff.mp up)
  have counted := List.count_pos_iff.mpr member
  have one := sane.one
  split_ifs at one with lasts
  · exact ⟨lasts, by omega, by omega⟩
  · omega

theorem count_closed (sane : s.Sane) (up : s.Up i) : (s.close i).ups.count true = 0 := by
  obtain ⟨inside, set⟩ := List.getElem?_eq_some_iff.mp (up_iff.mp up)
  rw [ups_close, List.count_set inside, set, (sane.lasting_of_up up).2.2]
  rfl

theorem not_up_closed (sane : s.Sane) (up : s.Up i) : ¬ (s.close i).Up j := by
  intro still
  have member : true ∈ (s.close i).ups := List.mem_of_getElem? (up_iff.mp still)
  exact absurd (count_closed sane up) (Nat.ne_of_gt (List.count_pos_iff.mpr member))

theorem length_close : (s.close i).ups.length = s.ups.length := by rw [ups_close, List.length_set]

theorem Sane.closed (sane : s.Sane) (up : s.Up i) : ((s.close i).record (.closed i)).Sane where
  conn := by
    have made : (s.close i).ups ≠ [] := List.ne_nil_of_length_pos (length_close.symm ▸ Nat.zero_lt_of_lt up.inside)
    exact iff_of_true (sane.conn.mpr up.made) made
  untouched := by
    intro bare
    have length : ([] : List Bool).length = s.ups.length := bare ▸ length_close
    exact absurd (List.length_eq_zero_iff.mp length.symm) up.made
  last := fun j still => absurd still (not_up_closed sane up)
  one := by
    have gone : ((s.close i).record (.closed i)).lasting = false := by simp [lasting, record, Output.isClosed]
    rw [gone]
    show s.attempts + (s.close i).ups.count true = 0
    rw [count_closed sane up, (sane.lasting_of_up up).2.1]

theorem Sane.perform (sane : s.Sane) (made : s.ups ≠ []) (run : perform build i s effect = .ok s') :
    s'.Sane ∧ s'.ups ≠ [] ∧ s'.ups.length = s.ups.length := by
  rcases perform_ok run with ⟨-, up, rfl⟩ | continues
  · refine ⟨sane.closed up, ?_, length_close⟩
    exact List.ne_nil_of_length_pos (length_close.symm ▸ Nat.zero_lt_of_lt up.inside)
  · refine ⟨sane.continues continues fun bare => absurd bare made, ?_, by rw [continues.ups]⟩
    rw [continues.ups]
    exact made

theorem Sane.performAll (sane : s.Sane) (made : s.ups ≠ []) (run : performAll build i effects s = .ok s') :
    s'.Sane ∧ s'.ups ≠ [] ∧ s'.ups.length = s.ups.length := by
  induction effects generalizing s with
  | nil =>
      cases run
      exact ⟨sane, made, rfl⟩
  | cons effect rest ih =>
      obtain ⟨middle, first, later⟩ := bind_eq_ok.mp run
      obtain ⟨saneMiddle, madeMiddle, length⟩ := sane.perform made first
      obtain ⟨sane', made', length'⟩ := ih saneMiddle madeMiddle later
      exact ⟨sane', made', length'.trans length⟩

theorem Sane.finish (sane : s.Sane) (made : s.ups ≠ []) {result : OFConnection × List Effect}
    (run : s.finish build i result = .ok s') : s'.Sane ∧ s'.ups.length = s.ups.length := by
  have continues : Continues s (s.updateLink i fun link => { link with cc := result.1 }) :=
    updateLink_continues fun _ => rfl
  have updated := sane.continues continues fun bare => absurd bare made
  obtain ⟨sane', -, length⟩ := updated.performAll (by rw [continues.ups]; exact made) run
  exact ⟨sane', by rw [length, continues.ups]⟩

theorem Sane.capture (sane : s.Sane) {packet : Switch.Packet} {len : BitVec 32}
    (run : s.onDatapath (.capture packet len) = .ok s') : s'.Sane := by
  refine sane.continues (onDatapath_continues run (by simp)) fun bare => ?_
  obtain ⟨dp, sent, stepped, rfl⟩ := onDatapath_ok run
  obtain ⟨empty, silent⟩ := sane.untouched bare
  have table : dp.flowTable = .empty := by
    rw [Datapath.step_flowTable ⟨sent, stepped⟩]
    exact empty
  have unconnected : s.dp.conn = false := Bool.eq_false_iff.mpr fun up => sane.conn.mp up bare
  rw [deliverAll_dp]
  refine ⟨table, ?_⟩
  obtain ⟨rfl⟩ : sent = [] := Datapath.capture_silent unconnected empty stepped
  exact silent

def linked (s : Switch) : Switch :=
  { s with
    dp := { s.dp with conn := true }
    links := s.links ++ [{ cc := OFClient.newConnection, up := true, timers := 0 }]
    attempts := s.attempts - 1 }

theorem baseConnectionUp_continues : Continues s.linked (s.baseConnectionUp build) := by
  show Continues s.linked (if build.client.ofsc.handshake then s.linked.send s.links.length _ else s.linked)
  split_ifs
  · exact send_continues
  · exact Continues.refl _

theorem ups_linked : s.linked.ups = s.ups ++ [true] := List.map_append

theorem Sane.linked (sane : s.Sane) (waiting : 0 < s.attempts) : s.linked.Sane := by
  have made : s.linked.ups ≠ [] := by simp [ups_linked]
  have down (i : Nat) : ¬ s.Up i := fun up => absurd (sane.lasting_of_up up).2.1 (Nat.ne_of_gt waiting)
  constructor
  · exact iff_of_true rfl made
  · exact fun bare => absurd bare made
  · intro i up
    rw [up_iff, ups_linked] at up
    rw [ups_linked, List.length_append, List.length_singleton]
    rcases Nat.lt_trichotomy i s.ups.length with old | new | outside
    · rw [List.getElem?_append_left old, ← up_iff] at up
      exact absurd up (down i)
    · rw [new]
    · rw [List.getElem?_eq_none (by simp; omega)] at up
      cases up
  · have one := sane.one
    show s.attempts - 1 + s.linked.ups.count true = if s.lasting then 1 else 0
    rw [ups_linked, List.count_append, List.count_singleton_self]
    split_ifs at one ⊢
    · omega
    · omega

theorem Sane.connected (sane : s.Sane) (waiting : 0 < s.attempts) : (s.baseConnectionUp build).Sane := by
  refine (sane.linked waiting).continues baseConnectionUp_continues fun bare => ?_
  exact absurd bare (by simp [ups_linked])

theorem stopConn_up (sane : s.Sane) (up : s.Up i) : s.stopConn = s.close i := by
  have here : s.ups.length - 1 = i := by rw [← sane.last i up, Nat.add_sub_cancel]
  rw [stopConn, conn_made up.made, Option.elim_some, here]

theorem Sane.down (sane : s.Sane) (up : s.Up i) : s.stopConn.startConn.Sane := by
  obtain ⟨lasts, idle, -⟩ := sane.lasting_of_up up
  rw [stopConn_up sane up]
  have made : (s.close i).ups ≠ [] := List.ne_nil_of_length_pos (length_close.symm ▸ Nat.zero_lt_of_lt up.inside)
  constructor
  · exact iff_of_true (sane.conn.mpr up.made) made
  · exact fun bare => absurd bare made
  · exact fun j still => absurd still (not_up_closed sane up)
  · show s.attempts + 1 + (s.close i).ups.count true = if s.lasting then 1 else 0
    rw [count_closed sane up, idle, lasts]
    rfl

theorem count_stopConn (sane : s.Sane) : s.stopConn.ups.count true = 0 := by
  by_cases member : true ∈ s.ups
  · obtain ⟨i, up⟩ := List.getElem?_of_mem member
    rw [stopConn_up sane (up_iff.mpr up), count_closed sane (up_iff.mpr up)]
  · rw [stopConn]
    cases s.conn with
    | none => exact List.count_eq_zero.mpr member
    | some i =>
        show (s.close i).ups.count true = 0
        rw [ups_close, List.count_eq_zero]
        intro still
        rcases List.mem_or_eq_of_mem_set still with old | new
        · exact member old
        · cases new

theorem length_stopConn : s.stopConn.ups.length = s.ups.length := by
  rw [stopConn]
  cases s.conn with
  | none => rfl
  | some i => exact length_close

theorem stopConn_same : s.stopConn.dp = s.dp ∧ s.stopConn.log = s.log := by
  rw [stopConn]
  cases s.conn with
  | none => exact ⟨rfl, rfl⟩
  | some i => exact ⟨rfl, rfl⟩

theorem Sane.stop (sane : s.Sane) : s.stop.Sane := by
  obtain ⟨dp, log⟩ := stopConn_same (s := s)
  have ups : s.stop.ups = s.stopConn.ups := rfl
  have length : s.stopConn.ups = [] ↔ s.ups = [] := by
    rw [← List.length_eq_zero_iff, length_stopConn, List.length_eq_zero_iff]
  have gone := count_stopConn sane
  constructor
  · rw [ups, Ne, length]
    exact (congrArg (fun dp => dp.conn = true) dp).to_iff.trans sane.conn
  · rw [ups, length]
    show s.ups = [] → s.stopConn.dp.flowTable = .empty ∧ ∀ i m, .sent i m ∉ s.stopConn.log
    rw [dp, log]
    exact sane.untouched
  · intro i up
    have member : true ∈ s.stopConn.ups := List.mem_of_getElem? (up_iff.mp up)
    exact absurd gone (Nat.ne_of_gt (List.count_pos_iff.mpr member))
  · rw [ups, gone]
    rfl

/-! ## The steps -/

def SwitchEvent.connects : SwitchEvent → Nat
  | .connected => 1
  | .message .. | .timer _ | .down _ | .capture .. | .overwrite .. | .stop => 0

theorem Up.link (up : s.Up i) : ∃ link, s.links[i]? = some link := by
  obtain ⟨link, found, -⟩ := up
  exact ⟨link, found⟩

theorem Sane.step {event : SwitchEvent} (sane : s.Sane) (steps : Steps build s event s') :
    s'.Sane ∧ s'.ups.length = s.ups.length + SwitchEvent.connects event := by
  obtain ⟨enabled, run⟩ := steps
  cases event with
  | connected =>
      cases run
      refine ⟨sane.connected enabled.2, ?_⟩
      rw [baseConnectionUp_continues.ups, ups_linked, List.length_append]
      rfl
  | message i m =>
      obtain ⟨-, up⟩ := enabled
      obtain ⟨link, found⟩ := up.link
      rw [Switch.step, found] at run
      exact sane.finish up.made run
  | timer i =>
      obtain ⟨-, up, -⟩ := enabled
      obtain ⟨link, found⟩ := up.link
      rw [Switch.step, found] at run
      exact sane.finish up.made run
  | down i =>
      cases run
      exact ⟨sane.down enabled.2, length_stopConn⟩
  | capture packet len => exact ⟨sane.capture run, by rw [(onDatapath_continues run (by simp)).ups]; rfl⟩
  | overwrite pkt index byte =>
      cases run
      exact ⟨⟨sane.conn, sane.untouched, sane.last, sane.one⟩, rfl⟩
  | stop =>
      cases run
      exact ⟨sane.stop, length_stopConn⟩

theorem messageCallback_connected (sane : s.Sane) (made : s.ups ≠ []) (m : OFMessage) :
    Avoids Datapath.Fault.Unconnected (s.messageCallback build m) := by
  have connected := sane.conn.mpr made
  rw [messageCallback]
  split_ifs
  · rw [handleBarrierRequest, conn_made made]
    exact avoids_ok _
  · exact avoids_bind (Datapath.step_connected (Or.inl connected)) fun _ _ => avoids_ok _
  · exact avoids_bind (Datapath.step_connected (Or.inl connected)) fun _ _ => avoids_ok _
  · exact avoids_ok _

theorem performAll_connected (sane : s.Sane) (made : s.ups ≠ []) :
    Avoids Datapath.Fault.Unconnected (performAll build i effects s) := by
  induction effects generalizing s with
  | nil => exact avoids_ok _
  | cons effect rest ih =>
      have first : Avoids Datapath.Fault.Unconnected (perform build i s effect) := by
        cases effect with
        | messageCallback m => exact messageCallback_connected sane made m
        | send _ | close | connectionCallback _ | addTimedCallback _ => exact avoids_ok _
      refine avoids_bind first fun middle run => ?_
      obtain ⟨saneMiddle, madeMiddle, -⟩ := sane.perform made run
      exact ih saneMiddle madeMiddle

theorem finish_connected (sane : s.Sane) (made : s.ups ≠ []) (result : OFConnection × List Effect) :
    Avoids Datapath.Fault.Unconnected (s.finish build i result) := by
  have continues : Continues s (s.updateLink i fun link => { link with cc := result.1 }) :=
    updateLink_continues fun _ => rfl
  have updated := sane.continues continues fun bare => absurd bare made
  exact performAll_connected updated (by rw [continues.ups]; exact made)

theorem step_connected {event : SwitchEvent} (sane : s.Sane) (enabled : s.Enabled event) :
    Avoids Datapath.Fault.Unconnected (s.step build event) := by
  cases event with
  | message i m =>
      obtain ⟨-, up⟩ := enabled
      obtain ⟨link, found⟩ := up.link
      rw [step, found]
      exact finish_connected sane up.made _
  | timer i =>
      obtain ⟨-, up, -⟩ := enabled
      obtain ⟨link, found⟩ := up.link
      rw [step, found]
      exact finish_connected sane up.made _
  | capture packet len =>
      refine avoids_bind (Datapath.step_connected ?_) fun _ _ => avoids_ok _
      by_cases made : s.ups = []
      · exact Or.inr ⟨(sane.untouched made).1, packet, len, rfl⟩
      · exact Or.inl (sane.conn.mpr made)
  | overwrite pkt index byte => exact avoids_bind (avoids_ok _) fun _ _ => avoids_ok _
  | connected | down i | stop => exact avoids_ok _

/-! ## The run of the datapath -/

theorem onDatapath_steps {event : Switch.Event} (run : s.onDatapath event = .ok s') : s.dp.Steps event s'.dp := by
  obtain ⟨dp, sent, stepped, rfl⟩ := onDatapath_ok run
  rw [deliverAll_dp]
  exact ⟨sent, stepped⟩

theorem send_dp {sent : Sent} : (s.send i sent).dp = s.dp := by
  rw [send]
  split_ifs <;> rfl

theorem messageCallback_other (run : s.messageCallback build m = .ok s')
    (other : datapathEvents build (.message i m) = []) :
    s'.dp = s.dp := by
  rw [datapathEvents] at other
  rw [messageCallback] at run
  split_ifs at run other with barrier out mod
  · rw [handleBarrierRequest] at run
    cases found : s.conn with
    | none =>
        rw [found] at run
        cases run
    | some i =>
        rw [found] at run
        cases run
        exact send_dp
  · cases run
    rfl

theorem perform_other (run : perform build i s effect = .ok s')
    (other : ∀ m, effect = .messageCallback m → datapathEvents build (.message i m) = []) : s'.dp = s.dp := by
  cases effect with
  | send m =>
      cases run
      exact send_dp
  | close =>
      cases run
      split_ifs <;> rfl
  | connectionCallback event =>
      cases run
      rfl
  | messageCallback m => exact messageCallback_other run (other m rfl)
  | addTimedCallback interval =>
      cases run
      rfl

theorem performAll_other (run : performAll build i effects s = .ok s')
    (other : ∀ m, .messageCallback m ∈ effects → datapathEvents build (.message i m) = []) : s'.dp = s.dp := by
  induction effects generalizing s with
  | nil =>
      cases run
      rfl
  | cons effect rest ih =>
      obtain ⟨middle, first, later⟩ := bind_eq_ok.mp run
      rw [ih later fun m member => other m (List.mem_cons_of_mem effect member)]
      exact perform_other first fun m same => other m (same ▸ List.mem_cons_self)

theorem finish_other {result : OFConnection × List Effect} (run : s.finish build i result = .ok s')
    (other : ∀ m, .messageCallback m ∈ result.2 → datapathEvents build (.message i m) = []) : s'.dp = s.dp := by
  have same := performAll_other run other
  exact same

theorem mem_baseMessageCallback {client : OFClient} {cc : OFConnection} {m' : OFMessage}
    (member : .messageCallback m' ∈ (client.baseMessageCallback cc m).2) : m' = m := by
  have dispatched (inside : .messageCallback m' ∈ client.dispatchIfAll m) : m' = m := by
    rw [OFClient.dispatchIfAll] at inside
    split_ifs at inside
    · simpa using inside
    · exact absurd inside List.not_mem_nil
  rw [OFClient.baseMessageCallback] at member
  split_ifs at member
  all_goals first
    | exact dispatched (by simpa using member)
    | simpa using member

theorem datapathEvents_types (some : datapathEvents build (.message i m) ≠ []) :
    m.type = ofptPacketOut ∨ m.type = ofptFlowMod := by
  rw [datapathEvents] at some
  split_ifs at some with out mod
  · exact Or.inl out
  · exact Or.inr mod
  · exact absurd rfl some

theorem baseMessageCallback_datapath (client : OFClient) (cc : OFConnection)
    (type : m.type = ofptPacketOut ∨ m.type = ofptFlowMod) :
    client.baseMessageCallback cc m = (cc, [.messageCallback m]) := by
  have other (given : BitVec 8) (notOut : ofptPacketOut ≠ given) (notMod : ofptFlowMod ≠ given) (setting : Prop) :
      ¬ (setting ∧ m.type = given) := by
    rintro ⟨-, same⟩
    rcases type with out | mod
    · exact notOut (out.symm.trans same)
    · exact notMod (mod.symm.trans same)
  rw [OFClient.baseMessageCallback, if_neg (other _ (by decide) (by decide) _),
    if_neg (other _ (by decide) (by decide) _), if_neg (other _ (by decide) (by decide) _),
    if_neg (other _ (by decide) (by decide) _)]

theorem finish_steps {cc : OFConnection} (run : s.finish build i (build.client.baseMessageCallback cc m) = .ok s') :
    (datapathEvents build (.message i m) = [] ∧ s'.dp = s.dp) ∨
      ∃ event, datapathEvents build (.message i m) = [event] ∧ s.dp.Steps event s'.dp := by
  by_cases quiet : datapathEvents build (.message i m) = []
  · refine Or.inl ⟨quiet, ?_⟩
    refine finish_other run fun m' member => ?_
    rw [mem_baseMessageCallback member]
    exact quiet
  · have type := datapathEvents_types quiet
    rw [baseMessageCallback_datapath _ _ type] at run
    obtain ⟨last, called, done⟩ := bind_eq_ok.mp run
    cases done
    change messageCallback build _ m = .ok s' at called
    rw [messageCallback] at called
    right
    rcases type with out | mod
    · rw [if_neg (by rw [out]; decide), if_pos out] at called
      have stepped := onDatapath_steps called
      exact ⟨_, by rw [datapathEvents, if_pos out], stepped⟩
    · rw [if_neg (by rw [mod]; decide), if_neg (by rw [mod]; decide), if_pos mod] at called
      have stepped := onDatapath_steps called
      exact ⟨_, by rw [datapathEvents, if_neg (by rw [mod]; decide), if_pos mod], stepped⟩

theorem steps_datapath {event : SwitchEvent} (steps : Steps build s event s') :
    (datapathEvents build event = [] ∧ s'.dp = s.dp) ∨
      ∃ inner, datapathEvents build event = [inner] ∧ s.dp.Steps inner s'.dp := by
  obtain ⟨enabled, run⟩ := steps
  cases event with
  | connected =>
      cases run
      refine Or.inr ⟨_, rfl, [], ?_⟩
      have same : (s.baseConnectionUp build).dp = { s.dp with conn := true } := by
        rw [baseConnectionUp]
        split_ifs
        · exact send_dp
        · rfl
      rw [same]
      rfl
  | message i m =>
      obtain ⟨link, found⟩ := enabled.2.link
      rw [step, found] at run
      exact finish_steps run
  | timer i =>
      obtain ⟨link, found⟩ := enabled.2.1.link
      rw [step, found] at run
      refine Or.inl ⟨rfl, finish_other run fun m member => ?_⟩
      rw [OFClient.sendEcho] at member
      split_ifs at member
      all_goals simp at member
  | down i =>
      cases run
      exact Or.inl ⟨rfl, stopConn_same.1⟩
  | capture packet len => exact Or.inr ⟨_, rfl, onDatapath_steps run⟩
  | overwrite pkt index byte => exact Or.inr ⟨_, rfl, onDatapath_steps run⟩
  | stop =>
      cases run
      exact Or.inl ⟨rfl, stopConn_same.1⟩

/-! ## Runs -/

variable {n : Nat} {events : List SwitchEvent}

theorem run_sane (run : Run (Steps build) (create n) events s) :
    s.Sane ∧ s.ups.length = (events.map SwitchEvent.connects).sum ∧
      Run Datapath.Steps (Datapath.create n) (events.flatMap (datapathEvents build)) s.dp := by
  induction run with
  | start => exact ⟨sane_create n, rfl, .start⟩
  | @step past event before after _ steps ih =>
      obtain ⟨sane, length, reached⟩ := ih
      obtain ⟨sane', grown⟩ := sane.step steps
      refine ⟨sane', ?_, ?_⟩
      · rw [grown, length, List.map_append, List.sum_append]
        rfl
      · rw [List.flatMap_append, List.flatMap_singleton]
        rcases steps_datapath steps with ⟨none, same⟩ | ⟨inner, one, stepped⟩
        · rw [none, List.append_nil, same]
          exact reached
        · rw [one]
          exact reached.step stepped

/-- In every run the datapath of the switch runs as it does alone and never looks for a connection that is not
there; at most one connection is up, the last one made, or being made, and exactly one while the client has
closed none by itself; and before the first there is no flow and nothing is sent. -/
theorem run_keeps_one_connection (build : Build) (n : Nat) (events : List SwitchEvent) (s : Switch)
    (run : Run (Steps build) (create n) events s) :
    Run Datapath.Steps (Datapath.create n) (events.flatMap (datapathEvents build)) s.dp ∧
      (∀ event, s.Enabled event → s.step build event ≠ .error .noConnection) ∧
      (s.attempts + s.links.countP Link.up = if s.lasting then 1 else 0) ∧
      (∀ i, s.Up i → i + 1 = events.count .connected) ∧
      (.connected ∉ events → s.dp.flowTable = .empty ∧ ∀ i m, .sent i m ∉ s.log) := by
  obtain ⟨sane, length, reached⟩ := run_sane run
  have connects : (events.map SwitchEvent.connects).sum = events.count .connected := by
    clear run length reached
    induction events with
    | nil => rfl
    | cons event rest ih =>
        rw [List.map_cons, List.sum_cons, ih, List.count_cons, Nat.add_comm]
        cases event <;> rfl
  rw [connects] at length
  refine ⟨reached, ?_, ?_, ?_, ?_⟩
  · exact fun event enabled => step_connected sane enabled _ rfl
  · rw [← sane.one, ups, List.count_eq_countP, List.countP_map]
    congr 2
    funext link
    exact (beq_true link.up).symm
  · exact fun i up => (sane.last i up).trans length
  · intro quiet
    apply sane.untouched
    rw [← List.length_eq_zero_iff, length, List.count_eq_zero]
    exact quiet

def sampleBuild : Build where
  client := OFClient.sampleClient
  maxSupportedVersion := 1
  helloXid := 0
  unpackFlowMod := fun _ => Datapath.openFlowMod 7
  unpackPacketOut := fun m => { bufferId := Switch.noBuffer, inPort := 1, actions := [], data := m.body }

def sampleEvents : List SwitchEvent :=
  [.connected, .message 0 (OFClient.sampleMessage 1 ofptFeaturesRequest),
    .message 0 (OFClient.sampleMessage 1 ofptBarrierRequest), .down 0, .connected]

theorem run_sampleEvents : ∃ s, Run (Steps sampleBuild) (create 2) sampleEvents s ∧ s.links.length = 2 := by
  have run : Run (Steps sampleBuild) (create 2) sampleEvents _ :=
    ((((Run.start.step ⟨⟨rfl, Nat.one_pos⟩, rfl⟩).step ⟨⟨rfl, _, rfl, rfl⟩, rfl⟩).step
      ⟨⟨rfl, _, rfl, rfl⟩, rfl⟩).step ⟨⟨rfl, _, rfl, rfl⟩, rfl⟩).step ⟨⟨rfl, Nat.one_pos⟩, rfl⟩
  exact ⟨_, run, rfl⟩

theorem sample_reconnected : ∃ s, Run (Steps sampleBuild) (create 2) sampleEvents s ∧
    (s.attempts + s.links.countP Link.up = if s.lasting then 1 else 0) ∧ ∀ i, s.Up i → i + 1 = 2 := by
  obtain ⟨s, run, -⟩ := run_sampleEvents
  obtain ⟨-, -, one, last, -⟩ := run_keeps_one_connection sampleBuild 2 sampleEvents s run
  exact ⟨s, run, one, last⟩

end Switch

end Libfluid.Client
