import Libfluid.Multicast.Requests
import Mathlib.Data.Nat.ModEq

namespace Libfluid.Multicast
open Library

namespace Event

def created (event : Event) (gen : Generators) : Option MCGroup :=
  match event with
  | .newGroup ip upIntf sport dport classd isRoot => some (MCGroup.create gen ip upIntf sport dport classd isRoot).1
  | .newSession sip dip sport dport upIntf isRoot =>
      if dip &&& 0xf0000000 = 0xe0000000 then none
      else some (MCGroup.create gen sip upIntf sport dport false (isRoot != 0)).1
  | .packet _ => none

def asks (event : Event) : Option (BitVec 32) :=
  match event with
  | .newGroup ip .. => some ip
  | .newSession sip dip .. => if dip &&& 0xf0000000 = 0xe0000000 then none else some sip
  | .packet _ => none

def constructs (event : Event) : Bool :=
  match event with
  | .newGroup .. | .packet _ => true
  | .newSession _ dip .. => !decide (dip &&& 0xf0000000 = 0xe0000000)

end Event

def constructions (past : List Event) : Nat := past.countP Event.constructs

/-- After `before`, the next of the events asks for a group with the address `ip`, as the first to do so. -/
def OpensAt (events before : List Event) (ip : BitVec 32) : Prop :=
  ∃ event, before ++ [event] <+: events ∧ event.asks = some ip ∧ ∀ earlier ∈ before, earlier.asks ≠ some ip

namespace MulticastGroupMembershipApp

def DistinctIds (app : MulticastGroupMembershipApp) : Prop :=
  ∀ entry ∈ app.multicastSessionStore, ∀ entry' ∈ app.multicastSessionStore,
    entry.1.groupid = entry'.1.groupid → entry = entry'

def Holds (app : MulticastGroupMembershipApp) (mcg : MCGroup) : Prop :=
  ∃ session, (mcg, session) ∈ app.multicastSessionStore

variable {app app' app₀ : MulticastGroupMembershipApp} {event : Event} {past events : List Event} {mcg : MCGroup}
  {pk : PacketInDataHeader} {session : Session} {ip : BitVec 32} {gen : Generators}

/-! ## One step -/

theorem created_asks (created : event.created gen = some mcg) :
    event.asks = some mcg.groupip ∧ mcg.groupid = gen.groupId + 1 := by
  cases event with
  | newGroup ip upIntf sport dport classd isRoot =>
      cases created
      exact ⟨rfl, rfl⟩
  | newSession sip dip sport dport upIntf isRoot =>
      unfold Event.created at created
      unfold Event.asks
      dsimp only at created ⊢
      split_ifs at created ⊢ with classD
      cases created
      exact ⟨rfl, rfl⟩
  | packet pk => cases created

theorem created_of_asks (asks : event.asks = some ip) (gen : Generators) :
    ∃ mcg, event.created gen = some mcg ∧ mcg.groupip = ip := by
  cases event with
  | newGroup ip upIntf sport dport classd isRoot =>
      cases asks
      exact ⟨_, rfl, rfl⟩
  | newSession sip dip sport dport upIntf isRoot =>
      unfold Event.asks at asks
      unfold Event.created
      dsimp only at asks ⊢
      split_ifs at asks ⊢ with classD
      cases asks
      exact ⟨_, rfl, rfl⟩
  | packet pk => cases asks

theorem joinMemberToGroup_groupId (mcg : MCGroup) (pk : PacketInDataHeader) (session : Session) (gen : Generators) :
    (joinMemberToGroup mcg pk session gen).2.1.groupId = gen.groupId := by
  unfold joinMemberToGroup
  cases session.members.lookup pk.inIntf <;> rfl

theorem createNewGroup_groupId (ip : BitVec 32) (upIntf sport dport : BitVec 16) (classd isRoot : Bool) :
    (app.createNewGroup ip upIntf sport dport classd isRoot).1.gen.groupId = app.gen.groupId + 1 := by
  by_cases absent : app.NoGroup ip
  · rw [createNewGroup_new absent]
    exact hookGen_groupId _ _
  · rw [createNewGroup_known absent]
    rfl

theorem handlePacketIn_groupId (handled : (app.handlePacketIn pk).1 = .ok app') :
    app'.gen.groupId = app.gen.groupId + 1 := by
  unfold handlePacketIn at handled
  split_ifs at handled with igmp
  · cases handled
    rfl
  · rcases app.addressee_cases pk with ⟨mcg, session, stored, address⟩ | unknown
    · rw [handleUDPPacket_known stored address] at handled
      split_ifs at handled
      · cases handled
        rfl
      · cases handled
        exact joinMemberToGroup_groupId mcg pk session app.gen.nextGroupId
      · obtain ⟨⟨session', gen'⟩, left, rfl⟩ := map_eq_ok.mp handled
        cases found : session.members.lookup pk.inIntf with
        | none =>
            rw [Session.leaveMemberFromGroup_unknown found] at left
            cases left
            rfl
        | some mcgm =>
            rw [Session.leaveMemberFromGroup_known found] at left
            cases left
    · rw [handleUDPPacket_unknown unknown] at handled
      cases handled
      rfl

theorem step_groupId (steps : Steps app event app') :
    app'.gen.groupId = app.gen.groupId + BitVec.ofNat 32 (if event.constructs then 1 else 0) := by
  cases event with
  | newGroup ip upIntf sport dport classd isRoot =>
      cases steps
      exact createNewGroup_groupId ip upIntf sport dport classd isRoot
  | newSession sip dip sport dport upIntf isRoot =>
      have created : (app.createSession sip dip sport dport upIntf isRoot).1 = app' := Except.ok.inj steps
      rw [← created]
      show (createSession _ _ _ _ _ _ _).1.gen.groupId =
        app.gen.groupId + BitVec.ofNat 32 (if !decide (dip &&& 0xf0000000 = 0xe0000000) then 1 else 0)
      by_cases classD : dip &&& 0xf0000000 = 0xe0000000
      · rw [createSession, if_pos classD, decide_eq_true classD]
        exact (BitVec.add_zero _).symm
      · rw [createSession, if_neg classD, decide_eq_false classD]
        exact createNewGroup_groupId sip upIntf sport dport false (isRoot != 0)
  | packet pk => exact handlePacketIn_groupId steps

theorem holds_createNewGroup (ip : BitVec 32) (upIntf sport dport : BitVec 16) (classd isRoot : Bool) :
    (app.createNewGroup ip upIntf sport dport classd isRoot).1.Holds mcg ↔
      app.Holds mcg ∨ app.NoGroup ip ∧ (MCGroup.create app.gen ip upIntf sport dport classd isRoot).1 = mcg := by
  by_cases absent : app.NoGroup ip
  · have unknown : app.multicastSessionStore.lookup (MCGroup.create app.gen ip upIntf sport dport classd isRoot).1 =
        none := lookup_none_iff.mpr absent
    rw [createNewGroup_new absent, and_iff_right absent]
    constructor
    · rintro ⟨session, member⟩
      rcases (mem_opened unknown).mp member with old | ⟨rfl, -⟩
      · exact Or.inl ⟨session, old⟩
      · exact Or.inr rfl
    · rintro (⟨session, old⟩ | rfl)
      · exact ⟨session, (mem_opened unknown).mpr (Or.inl old)⟩
      · exact ⟨_, (mem_opened unknown).mpr (Or.inr ⟨rfl, rfl⟩)⟩
  · rw [createNewGroup_known absent]
    simp [absent, Holds]

theorem holds_setSession {session₀ : Session} {mcg' : MCGroup} (stored : (mcg', session₀) ∈ app.multicastSessionStore) :
    (app.setSession mcg' session gen).Holds mcg ↔ app.Holds mcg := by
  unfold Holds
  simp only [mem_setSession stored]
  constructor
  · rintro ⟨session', ⟨rfl, -⟩ | ⟨-, member⟩⟩
    · exact ⟨session₀, stored⟩
    · exact ⟨session', member⟩
  · rintro ⟨session', member⟩
    by_cases same : mcg.groupip = mcg'.groupip
    · exact ⟨session, Or.inl ⟨congrArg Prod.fst (eq_of_address member stored same), rfl⟩⟩
    · exact ⟨session', Or.inr ⟨same, member⟩⟩

theorem holds_step (good : app.Good) (steps : Steps app event app') :
    app'.Holds mcg ↔
      app.Holds mcg ∨ app.NoGroup mcg.groupip ∧ event.created app.gen = some mcg := by
  have known {ip : BitVec 32} {upIntf sport dport : BitVec 16} {classd isRoot : Bool} :
      app.NoGroup ip ∧ (MCGroup.create app.gen ip upIntf sport dport classd isRoot).1 = mcg ↔
        app.NoGroup mcg.groupip ∧ some (MCGroup.create app.gen ip upIntf sport dport classd isRoot).1 = some mcg := by
    rw [Option.some_inj]
    constructor
    · rintro ⟨absent, rfl⟩
      exact ⟨absent, rfl⟩
    · rintro ⟨absent, rfl⟩
      exact ⟨absent, rfl⟩
  cases event with
  | newGroup ip upIntf sport dport classd isRoot =>
      cases steps
      exact (holds_createNewGroup ..).trans (or_congr_right known)
  | newSession sip dip sport dport upIntf isRoot =>
      have created : (app.createSession sip dip sport dport upIntf isRoot).1 = app' := Except.ok.inj steps
      rw [← created]
      show (createSession _ _ _ _ _ _ _).1.Holds mcg ↔ app.Holds mcg ∨ app.NoGroup mcg.groupip ∧
        (if dip &&& 0xf0000000 = 0xe0000000 then none else some _) = some mcg
      by_cases classD : dip &&& 0xf0000000 = 0xe0000000
      · rw [createSession, if_pos classD, if_pos classD]
        simp
      · rw [createSession, if_neg classD, if_neg classD]
        exact (holds_createNewGroup ..).trans (or_congr_right known)
  | packet pk =>
      have acts : Acts app (.packet pk) (app.step (.packet pk)).1 (app.step (.packet pk)).2 := step_acts good _
      rw [steps] at acts
      generalize (app.step (.packet pk)).2 = sent at acts
      have none : ¬ (app.NoGroup mcg.groupip ∧ (Event.packet pk).created app.gen = some mcg) := by
        rintro ⟨-, created⟩
        cases created
      rw [or_iff_left none]
      cases acts with
      | nothing => rfl
      | opened notPacket => exact absurd rfl (notPacket pk)
      | joined drawn addressed => exact holds_setSession addressed.stored

theorem noGroup_iff_holds : app.NoGroup ip ↔ ∀ mcg, app.Holds mcg → mcg.groupip ≠ ip := by
  constructor
  · rintro absent mcg ⟨session, member⟩
    exact absent _ member
  · exact fun absent entry member => absent entry.1 ⟨entry.2, member⟩

theorem noGroup_step_iff (good : app.Good) (steps : Steps app event app') :
    app'.NoGroup ip ↔ app.NoGroup ip ∧ event.asks ≠ some ip := by
  rw [noGroup_iff_holds]
  constructor
  · intro absent
    have before : app.NoGroup ip :=
      noGroup_iff_holds.mpr fun mcg holds => absent mcg ((holds_step good steps).mpr (Or.inl holds))
    refine ⟨before, fun asks => ?_⟩
    obtain ⟨mcg, created, address⟩ := created_of_asks asks app.gen
    exact absent mcg ((holds_step good steps).mpr (Or.inr ⟨address ▸ before, created⟩)) address
  · rintro ⟨before, other⟩ mcg holds address
    rcases (holds_step good steps).mp holds with old | ⟨-, created⟩
    · exact noGroup_iff_holds.mp before mcg old address
    · exact other (address ▸ (created_asks created).1)

/-! ## Runs -/

theorem constructions_snoc (past : List Event) (event : Event) :
    constructions (past ++ [event]) = constructions past + if event.constructs then 1 else 0 := by
  rw [constructions, List.countP_append, List.countP_singleton]
  rfl

def idAfter (gen : Generators) (before : List Event) : BitVec 32 :=
  gen.groupId + BitVec.ofNat 32 (constructions before) + 1

structure Numbers (gen : Generators) (past : List Event) (app : MulticastGroupMembershipApp) : Prop where
  good : app.Good
  counter : app.gen.groupId = gen.groupId + BitVec.ofNat 32 (constructions past)
  known : ∀ ip, app.NoGroup ip ↔ ∀ earlier ∈ past, earlier.asks ≠ some ip
  opened : ∀ before ip, OpensAt past before ip →
    ∃ mcg, app.Holds mcg ∧ mcg.groupip = ip ∧ mcg.groupid = idAfter gen before
  stems : ∀ mcg, app.Holds mcg → ∃ before, OpensAt past before mcg.groupip ∧ mcg.groupid = idAfter gen before

theorem opensAt_snoc_iff {before : List Event} :
    OpensAt (past ++ [event]) before ip ↔ OpensAt past before ip ∨
      before = past ∧ event.asks = some ip ∧ ∀ earlier ∈ past, earlier.asks ≠ some ip := by
  constructor
  · rintro ⟨event', inside, asks, first⟩
    rcases List.prefix_concat_iff.mp inside with same | inside
    · obtain ⟨rfl, last⟩ := List.append_inj' same rfl
      obtain rfl := List.singleton_inj.mp last
      exact Or.inr ⟨rfl, asks, first⟩
    · exact Or.inl ⟨event', inside, asks, first⟩
  · rintro (⟨event', inside, asks, first⟩ | ⟨rfl, asks, first⟩)
    · exact ⟨event', inside.trans (List.prefix_append _ _), asks, first⟩
    · exact ⟨event, List.prefix_rfl, asks, first⟩

theorem numbers_step (numbers : Numbers gen past app) (steps : Steps app event app') :
    Numbers gen (past ++ [event]) app' := by
  have created_id {mcg : MCGroup} (created : event.created app.gen = some mcg) : mcg.groupid = idAfter gen past := by
    rw [(created_asks created).2, numbers.counter]
    rfl
  constructor
  · have acts := step_acts numbers.good event
    rw [steps] at acts
    exact acts.good numbers.good
  · rw [step_groupId steps, numbers.counter, constructions_snoc, BitVec.add_assoc, ← BitVec.ofNat_add]
  · intro ip
    simp only [List.mem_append, List.mem_singleton, or_imp, forall_and, forall_eq]
    rw [← numbers.known ip]
    exact noGroup_step_iff numbers.good steps
  · intro before ip opens
    rcases opensAt_snoc_iff.mp opens with earlier | ⟨rfl, asks, first⟩
    · obtain ⟨mcg, holds, address, id⟩ := numbers.opened before ip earlier
      exact ⟨mcg, (holds_step numbers.good steps).mpr (Or.inl holds), address, id⟩
    · obtain ⟨mcg, created, address⟩ := created_of_asks asks app.gen
      have absent : app.NoGroup mcg.groupip := address ▸ (numbers.known ip).mpr first
      exact ⟨mcg, (holds_step numbers.good steps).mpr (Or.inr ⟨absent, created⟩), address, created_id created⟩
  · intro mcg holds
    rcases (holds_step numbers.good steps).mp holds with old | ⟨absent, created⟩
    · obtain ⟨before, opens, id⟩ := numbers.stems mcg old
      exact ⟨before, opensAt_snoc_iff.mpr (Or.inl opens), id⟩
    · have first := (numbers.known mcg.groupip).mp absent
      exact ⟨past, opensAt_snoc_iff.mpr (Or.inr ⟨rfl, (created_asks created).1, first⟩), created_id created⟩

theorem run_numbers (run : Run Steps (fresh gen) past app) : Numbers gen past app := by
  induction run with
  | start =>
      refine ⟨good_of_empty rfl, (BitVec.add_zero _).symm, fun ip => ?_, fun before ip opens => ?_, fun mcg holds => ?_⟩
      · exact iff_of_true (fun entry member => absurd member List.not_mem_nil)
          fun event member => absurd member List.not_mem_nil
      · obtain ⟨event, inside, -⟩ := opens
        exact absurd inside (by simp)
      · obtain ⟨session, member⟩ := holds
        exact absurd member List.not_mem_nil
  | step before advance ih => exact numbers_step ih advance

theorem idAfter_eq_iff {before before' : List Event} :
    idAfter gen before = idAfter gen before' ↔ constructions before ≡ constructions before' [MOD 2 ^ 32] := by
  unfold idAfter
  rw [BitVec.add_left_inj, BitVec.add_right_inj, ← BitVec.toNat_inj, BitVec.toNat_ofNat, BitVec.toNat_ofNat]
  rfl

/-- The stored groups have different identifiers throughout a run exactly where, as far as its events are handled, the
counter does not go around between the constructions of two of them. -/
theorem distinct_ids_iff (gen : Generators) (events : List Event) :
    (∀ app, Visits Steps (fresh gen) events app → app.DistinctIds) ↔
      ∀ past, past <+: events → (∃ app, Run Steps (fresh gen) past app) →
        ∀ before before' ip ip', OpensAt past before ip → OpensAt past before' ip' →
          constructions before ≡ constructions before' [MOD 2 ^ 32] → ip = ip' := by
  constructor
  · rintro distinct past inside ⟨app, run⟩ before before' ip ip' opens opens' around
    have numbers := run_numbers run
    obtain ⟨mcg, ⟨session, stored⟩, rfl, id⟩ := numbers.opened before ip opens
    obtain ⟨mcg', ⟨session', stored'⟩, rfl, id'⟩ := numbers.opened before' ip' opens'
    have same : mcg.groupid = mcg'.groupid := by
      rw [id, id', idAfter_eq_iff.mpr around]
    have entries := distinct app ⟨past, inside, run⟩ _ stored _ stored' same
    exact congrArg (fun entry => entry.1.groupip) entries
  · rintro apart app ⟨past, inside, run⟩ entry stored entry' stored' same
    have numbers := run_numbers run
    obtain ⟨before, opens, id⟩ := numbers.stems entry.1 ⟨entry.2, stored⟩
    obtain ⟨before', opens', id'⟩ := numbers.stems entry'.1 ⟨entry'.2, stored'⟩
    have around := idAfter_eq_iff.mp (id.symm.trans (same.trans id'))
    exact eq_of_address stored stored' (apart past inside ⟨app, run⟩ _ _ _ _ opens opens' around)

def sampleIgmp : PacketInDataHeader := { sampleJoin 1 with protocol := protocolTypeIgmp }

def sessionAndPackets (n : Nat) : List Event :=
  .newSession 0x0100000a 0 1000 2000 1 0 :: List.replicate n (.packet sampleIgmp)

theorem sessionAndPackets_stay (n : Nat) (app : MulticastGroupMembershipApp) :
    ∀ event ∈ sessionAndPackets n ++ [.newSession 0x0200000a 0 1000 2000 1 0], ¬ app.LeavesMember event := by
  rintro event member ⟨pk, rfl, udp, -⟩
  have packet : n ≠ 0 ∧ pk = sampleIgmp := by simpa [sessionAndPackets] using member
  exact udp (by rw [packet.2]; rfl)

theorem constructions_sessionAndPackets (n : Nat) : constructions (sessionAndPackets n) = n + 1 := by
  have packets : constructions (List.replicate n (.packet sampleIgmp)) = n := by
    rw [constructions, List.countP_replicate]
    rfl
  rw [sessionAndPackets, constructions, List.countP_cons]
  exact congrArg (· + 1) packets

theorem collides_of_around {n : Nat} (around : n + 1 ≡ 0 [MOD 2 ^ 32]) :
    ∃ app, Visits Steps initial (sessionAndPackets n ++ [.newSession 0x0200000a 0 1000 2000 1 0]) app ∧
      ¬ app.DistinctIds := by
  obtain ⟨app, run⟩ := run_completes_iff.mpr fun app event meets => sessionAndPackets_stay n app event meets.mem
  have numbers : Numbers initial.gen (sessionAndPackets n ++ [.newSession 0x0200000a 0 1000 2000 1 0]) app :=
    run_numbers run
  have first : OpensAt (sessionAndPackets n ++ [.newSession 0x0200000a 0 1000 2000 1 0]) [] 0x0100000a :=
    ⟨.newSession 0x0100000a 0 1000 2000 1 0, ⟨_, rfl⟩, rfl, fun earlier member => absurd member List.not_mem_nil⟩
  have second : OpensAt (sessionAndPackets n ++ [.newSession 0x0200000a 0 1000 2000 1 0]) (sessionAndPackets n)
      0x0200000a := by
    refine ⟨_, List.prefix_rfl, rfl, fun earlier member asks => ?_⟩
    rcases List.mem_cons.mp member with rfl | packet
    · cases asks
    · rw [List.eq_of_mem_replicate packet] at asks
      cases asks
  obtain ⟨mcg, ⟨session, stored⟩, address, id⟩ := numbers.opened _ _ first
  obtain ⟨mcg', ⟨session', stored'⟩, address', id'⟩ := numbers.opened _ _ second
  refine ⟨app, run.visits, fun distinct => ?_⟩
  have same : mcg.groupid = mcg'.groupid := by
    rw [id, id', idAfter_eq_iff, constructions_sessionAndPackets]
    exact around.symm
  have entries := distinct _ stored _ stored' same
  have addresses : mcg.groupip = mcg'.groupip := congrArg (fun entry => entry.1.groupip) entries
  rw [address, address'] at addresses
  exact absurd addresses (by decide)

theorem ids_collide :
    ∃ app, Visits Steps initial (sessionAndPackets (2 ^ 32 - 1) ++ [.newSession 0x0200000a 0 1000 2000 1 0]) app ∧
      ¬ app.DistinctIds :=
  collides_of_around (by decide)

end MulticastGroupMembershipApp

end Libfluid.Multicast
