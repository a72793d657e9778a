import Libfluid.Multicast.Step

namespace Libfluid.Multicast
open Library

def Bucket.outputsTo (bucket : Bucket) (port : BitVec 32) : Bool :=
  bucket.actions.any fun action => action.outputsTo port

def Bucket.Sets (bucket : Bucket) (field : OxmField) : Prop := ∃ order, .setField field order ∈ bucket.actions

structure Bucket.RewritesTo (bucket : Bucket) (mcgm : MCGroupMember) : Prop where
  mac : bucket.Sets (.ethDst (ethAddressOf mcgm.destMac))
  ip : bucket.Sets (.ipv4Dst mcgm.destIp)
  port : bucket.Sets (.udpDst mcgm.udpPort)

namespace Session

variable {session : Session}

/-- One bucket for each interface in the member map, and none for any other port. -/
structure Serves (session : Session) : Prop where
  members : ∀ i mcgm, (i, mcgm) ∈ session.members → ∃ bucket,
    (session.ofContext.ofgroupmod.buckets.filter fun b => b.outputsTo (i.setWidth 32)) = [bucket] ∧
      bucket.RewritesTo mcgm
  ports : ∀ bucket ∈ session.ofContext.ofgroupmod.buckets, ∀ port, bucket.outputsTo port = true →
    ∃ i mcgm, (i, mcgm) ∈ session.members ∧ port = i.setWidth 32

theorem outputsTo_bucket (mcgm : MCGroupMember) (port : BitVec 32) :
    mcgm.bucket.outputsTo port = true ↔ mcgm.intf.setWidth 32 = port := by
  simp [Bucket.outputsTo, MCGroupMember.bucket]

theorem rewritesTo_bucket (mcgm : MCGroupMember) : mcgm.bucket.RewritesTo mcgm where
  mac := ⟨163, by simp [MCGroupMember.bucket]⟩
  ip := ⟨162, by simp [MCGroupMember.bucket]⟩
  port := ⟨161, by simp [MCGroupMember.bucket]⟩

theorem narrow_eq {i : BitVec 16} (small : i.toNat < 256) : (i.setWidth 8).setWidth 32 = i.setWidth 32 := by
  apply BitVec.eq_of_toNat_eq
  simp only [BitVec.toNat_setWidth]
  omega

theorem setWidth_injective {i j : BitVec 16} (same : i.setWidth 32 = j.setWidth 32) : i = j := by
  have widths := congrArg BitVec.toNat same
  apply BitVec.eq_of_toNat_eq
  simp only [BitVec.toNat_setWidth] at widths
  omega

theorem narrow_of_serves (consistent : session.Consistent) (serves : session.Serves) {i : BitVec 16}
    {mcgm : MCGroupMember} (member : (i, mcgm) ∈ session.members) : i.toNat < 256 := by
  obtain ⟨order, -, -, buckets⟩ := consistent.listed
  obtain ⟨bucket, only, -⟩ := serves.members i mcgm member
  have inside : bucket ∈ session.ofContext.ofgroupmod.buckets.filter fun b => b.outputsTo (i.setWidth 32) := by
    rw [only]
    exact List.mem_singleton_self _
  obtain ⟨listed, outputs⟩ := List.mem_filter.mp inside
  rw [consistent.sent.trans buckets] at listed
  obtain ⟨entry, -, rfl⟩ := List.mem_map.mp listed
  have widths := congrArg BitVec.toNat ((outputsTo_bucket _ _).mp outputs)
  have bound := entry.2.intf.isLt
  simp only [BitVec.toNat_setWidth] at widths
  omega

theorem serves_of_narrow (consistent : session.Consistent)
    (small : ∀ i mcgm, (i, mcgm) ∈ session.members → i.toNat < 256) : session.Serves := by
  obtain ⟨order, perm, -, buckets⟩ := consistent.listed
  have sent := consistent.sent.trans buckets
  have port : ∀ entry ∈ session.members, entry.2.intf.setWidth 32 = entry.1.setWidth 32 := by
    intro entry member
    rw [consistent.intf entry member]
    exact narrow_eq (small _ _ member)
  constructor
  · intro i mcgm member
    refine ⟨mcgm.bucket, ?_, rewritesTo_bucket mcgm⟩
    have chosen : order.filter (fun entry => entry.2.bucket.outputsTo (i.setWidth 32)) =
        order.filter fun entry => decide (entry = (i, mcgm)) := by
      apply List.filter_congr
      intro entry inside
      have stored := perm.mem_iff.mp inside
      rw [Bool.eq_iff_iff, outputsTo_bucket, decide_eq_true_iff, port entry stored]
      constructor
      · intro same
        exact OrderedMap.eq_of_key stored member (congrArg BitVec.toNat (setWidth_injective same))
      · rintro rfl
        rfl
    have once : order.count (i, mcgm) = 1 :=
      List.count_eq_one_of_mem (perm.nodup_iff.mpr session.members.nodup) (perm.mem_iff.mpr member)
    rw [sent, List.filter_map]
    show (order.filter fun entry => entry.2.bucket.outputsTo (i.setWidth 32)).map _ = _
    rw [chosen, List.filter_eq, once]
    rfl
  · intro bucket listed port' outputs
    rw [sent] at listed
    obtain ⟨entry, inside, rfl⟩ := List.mem_map.mp listed
    have stored := perm.mem_iff.mp inside
    exact ⟨entry.1, entry.2, stored, ((outputsTo_bucket _ _).mp outputs).symm.trans (port entry stored)⟩

theorem serves_iff (consistent : session.Consistent) :
    session.Serves ↔ ∀ i mcgm, (i, mcgm) ∈ session.members → i.toNat < 256 := by
  constructor
  · exact fun serves i mcgm member => narrow_of_serves consistent serves member
  · exact serves_of_narrow consistent

end Session

namespace MulticastGroupMembershipApp

variable {app app' : MulticastGroupMembershipApp} {event : Event} {sent : List Message}

def AllServe (app : MulticastGroupMembershipApp) : Prop :=
  ∀ mcg session, (mcg, session) ∈ app.multicastSessionStore → session.Serves

def RecordsJoiner (app : MulticastGroupMembershipApp) (event : Event) (app' : MulticastGroupMembershipApp) : Prop :=
  ∀ mcg session i mcgm, (mcg, session) ∈ app'.multicastSessionStore → (i, mcgm) ∈ session.members →
    (∃ session₀ mcgm₀, (mcg, session₀) ∈ app.multicastSessionStore ∧ (i, mcgm₀) ∈ session₀.members ∧
      mcgm.bucket = mcgm₀.bucket) ∨
    ∃ pk, event = .packet pk ∧ pk.dip = mcg.groupip ∧ pk.inIntf = i ∧ mcgm.destMac = pk.smac ∧
      mcgm.destIp = pk.sip ∧ mcgm.udpPort = pk.udstPort

def JoinsNarrow (app : MulticastGroupMembershipApp) (event : Event) : Prop :=
  ∀ pk mcg session, event = .packet pk → app.Addressed pk mcg session → memberFlag mcg pk = 1 →
    pk.inIntf.toNat < 256

theorem allServe_iff (good : app.Good) :
    app.AllServe ↔ ∀ mcg session i mcgm, (mcg, session) ∈ app.multicastSessionStore →
      (i, mcgm) ∈ session.members → i.toNat < 256 := by
  constructor
  · intro serve mcg session i mcgm stored
    exact (Session.serves_iff (good mcg session stored)).mp (serve mcg session stored) i mcgm
  · intro small mcg session stored
    exact (Session.serves_iff (good mcg session stored)).mpr fun i mcgm => small mcg session i mcgm stored

theorem Acts.recordsJoiner (acts : Acts app event (.ok app') sent) : RecordsJoiner app event app' := by
  intro mcg' session' i mcgm' stored' member'
  cases acts with
  | nothing => exact Or.inl ⟨session', mcgm', stored', member', rfl⟩
  | opened notPacket drawn named absent =>
      rcases (mem_opened absent).mp stored' with old | ⟨rfl, rfl⟩
      · exact Or.inl ⟨session', mcgm', old, member', rfl⟩
      · exact absurd member' List.not_mem_nil
  | joined drawn addressed flag absent =>
      rcases (mem_setSession addressed.stored).mp stored' with ⟨rfl, rfl⟩ | ⟨-, old⟩
      · rcases List.mem_cons.mp ((Session.members_joined absent _).mem_iff.mp member') with new | old
        · cases new
          exact Or.inr ⟨_, rfl, addressed.address.symm, rfl, rfl, rfl, rfl⟩
        · exact Or.inl ⟨_, mcgm', addressed.stored, old, rfl⟩
      · exact Or.inl ⟨session', mcgm', old, member', rfl⟩

theorem Acts.allServe_iff (acts : Acts app event (.ok app') sent) (good : app.Good) (serve : app.AllServe) :
    app'.AllServe ↔ app.JoinsNarrow event := by
  have small := (MulticastGroupMembershipApp.allServe_iff good).mp serve
  rw [MulticastGroupMembershipApp.allServe_iff (acts.good good)]
  cases acts with
  | nothing _ quiet =>
      apply iff_of_true small
      intro pk mcg session packet addressed flag
      cases found : session.members.lookup pk.inIntf with
      | none => exact absurd (Or.inl ⟨flag, found⟩) (quiet pk mcg session packet addressed)
      | some mcgm => exact small mcg session _ mcgm addressed.stored (Session.lookup_members.mp found)
  | opened notPacket drawn named absent =>
      apply iff_of_true
      · intro mcg' session' i mcgm' stored' member'
        rcases (mem_opened absent).mp stored' with old | ⟨rfl, rfl⟩
        · exact small mcg' session' i mcgm' old member'
        · exact absurd member' List.not_mem_nil
      · intro pk mcg session packet
        exact absurd packet (notPacket pk)
  | @joined pk mcg session gen drawn addressed flag absent =>
      have perm : (session.joined mcg pk gen.xid).members.toList.Perm _ := Session.members_joined absent gen.xid
      constructor
      · rintro small' pk' mcg' session' ⟨⟩ - -
        exact small' mcg _ pk.inIntf _ ((mem_setSession addressed.stored).mpr (Or.inl ⟨rfl, rfl⟩))
          (perm.mem_iff.mpr List.mem_cons_self)
      · intro narrow mcg' session' i mcgm' stored' member'
        rcases (mem_setSession addressed.stored).mp stored' with ⟨rfl, rfl⟩ | ⟨-, old⟩
        · rcases List.mem_cons.mp (perm.mem_iff.mp member') with new | old
          · cases new
            exact narrow pk mcg' session rfl addressed flag
          · exact small mcg' session i mcgm' addressed.stored old
        · exact small mcg' session' i mcgm' old member'

theorem allServe_iff_joinsNarrow {app₀ : MulticastGroupMembershipApp} {events : List Event}
    (empty : app₀.multicastSessionStore = .empty) :
    ((∀ app, Visits Steps app₀ events app → app.AllServe) ∧
      ∀ app event app', Takes Steps app₀ events app event app' → RecordsJoiner app event app') ↔
    ∀ app event app', Takes Steps app₀ events app event app' → app.JoinsNarrow event := by
  apply visits_iff_takes
  · intro app event app' serve takes
    have acts := step_acts (visits_good empty takes.visits) event
    rw [takes.steps] at acts
    rw [and_iff_left acts.recordsJoiner]
    exact acts.allServe_iff (visits_good empty takes.visits) serve
  · intro mcg session member
    rw [empty] at member
    exact absurd member List.not_mem_nil

/-- No step faults, the buckets of every group serve its members, and each member is what its packet said. -/
structure ServesMembers (app₀ : MulticastGroupMembershipApp) (events : List Event) : Prop where
  defined : ∀ app event, Meets Steps app₀ events app event → ¬ app.Faults event
  served : ∀ app, Visits Steps app₀ events app → app.AllServe
  recorded : ∀ app event app', Takes Steps app₀ events app event app' → RecordsJoiner app event app'

/-- From an empty store, the buckets serve the members exactly where no packet leaves a member and all packets that
ask to join come from interfaces below 256. -/
theorem run_serves_iff (app₀ : MulticastGroupMembershipApp) (events : List Event)
    (empty : app₀.multicastSessionStore = .empty) :
    ServesMembers app₀ events ↔
      ∀ app event, Meets Steps app₀ events app event → ¬ app.LeavesMember event ∧ app.JoinsNarrow event := by
  constructor
  · intro serves app event meets
    have defined := serves.defined app event meets
    obtain ⟨app', steps⟩ := not_faults_iff.mp defined
    rw [faults_iff] at defined
    refine ⟨defined, ?_⟩
    have narrow := (allServe_iff_joinsNarrow empty).mp ⟨serves.served, serves.recorded⟩
    exact narrow app event app' (meets.takes steps)
  · intro guarded
    obtain ⟨served, recorded⟩ :=
      (allServe_iff_joinsNarrow empty).mpr fun app event app' takes => (guarded app event takes.meets).2
    refine { defined := ?_, served := served, recorded := recorded }
    intro app event meets
    rw [faults_iff]
    exact (guarded app event meets).1

theorem narrow_join_served : ServesMembers initial [sampleGroup, .packet (sampleJoin 3), .packet (sampleJoin 255)] := by
  have run : Run Steps initial [sampleGroup, .packet (sampleJoin 3), .packet (sampleJoin 255)] _ := run_iff.mpr rfl
  apply (run_serves_iff initial _ rfl).mpr
  intro app event meets
  refine ⟨not_leavesMember_of_run run meets, ?_⟩
  rintro pk mcg session rfl - -
  have packet : pk = sampleJoin 3 ∨ pk = sampleJoin 255 := by simpa [sampleGroup] using meets.mem
  rcases packet with rfl | rfl <;> decide

theorem wide_join_not_served : ¬ ServesMembers initial [sampleGroup, .packet (sampleJoin 256)] := by
  intro serves
  have run : Run Steps initial [sampleGroup, .packet (sampleJoin 256)] _ := run_iff.mpr rfl
  have small := (allServe_iff (visits_good rfl run.visits)).mp (serves.served _ run.visits)
  exact absurd (small _ _ 256 _ (List.Mem.head _) (List.Mem.head _)) (by decide)

end MulticastGroupMembershipApp

end Libfluid.Multicast
