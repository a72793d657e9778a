import Libfluid.Multicast.Membership
import Libfluid.Multicast.NetworkClient

namespace Libfluid.Multicast
open Library

abbrev Triple := BitVec 32 × BitVec 16 × BitVec 16

def MCGroup.triple (mcg : MCGroup) : Triple := (mcg.groupip, mcg.sudpport, mcg.dudpport)

namespace SessionRequest

def triple (request : SessionRequest) : Triple := (request.sip, request.sport, request.dport)

/-- The test of the application, on the destination as it lies in memory. -/
def Refused (request : SessionRequest) : Prop := request.dip &&& 0xf0000000 = 0xe0000000

instance (request : SessionRequest) : Decidable request.Refused := inferInstanceAs (Decidable (_ = _))

def group (request : SessionRequest) (gen : Generators) : MCGroup :=
  (MCGroup.create gen request.sip request.upIntf request.sport request.dport false (request.isRoot != 0)).1

end SessionRequest

namespace MulticastGroupMembershipApp

def fresh (gen : Generators) : MulticastGroupMembershipApp := { multicastSessionStore := .empty, gen := gen }

def serve (app : MulticastGroupMembershipApp) (requests : List SessionRequest) : MulticastGroupMembershipApp :=
  requests.foldl (fun app request => (app.request request).1) app

def hear (app : MulticastGroupMembershipApp) (pks : List PacketInDataHeader) : Except Fault MulticastGroupMembershipApp :=
  pks.foldlM (fun app pk => (app.handlePacketIn pk).1) app

/-- The packet changes the member map of the group, and nothing else in the store: the interface is a member
now, with the data of this packet where it was none. -/
structure Updates (app : MulticastGroupMembershipApp) (pk : PacketInDataHeader) (mcg : MCGroup) (session : Session)
    (app' : MulticastGroupMembershipApp) : Prop where
  handled : (app.handlePacketIn pk).1 = .ok app'
  own : ∃ session', (mcg, session') ∈ app'.multicastSessionStore ∧ ∀ i, session'.members.lookup i =
    if i = pk.inIntf then some ((session.members.lookup i).getD (session.newMember pk))
    else session.members.lookup i
  others : ∀ mcg' session', mcg' ≠ mcg → ((mcg', session') ∈ app'.multicastSessionStore ↔
    (mcg', session') ∈ app.multicastSessionStore)

/-- One group for each triple that was requested, from its first request to the end, and every join of a stored
group, also after further packets, at that group. -/
structure Served (gen : Generators) (requests : List SessionRequest) : Prop where
  stored : ∀ request ∈ requests, ∃! entry, entry ∈ ((fresh gen).serve requests).multicastSessionStore ∧
    entry.1.triple = request.triple
  requested : ∀ entry ∈ ((fresh gen).serve requests).multicastSessionStore, ∃ request ∈ requests,
    request.triple = entry.1.triple
  first : Throughout (fun before request => (∀ earlier ∈ before, earlier.triple ≠ request.triple) →
    ∃ session, (request.group ((fresh gen).serve before).gen, session) ∈
        (((fresh gen).serve before).request request).1.multicastSessionStore ∧
      (request.group ((fresh gen).serve before).gen, session) ∈
        ((fresh gen).serve requests).multicastSessionStore) requests
  repeated : Throughout (fun before request => (∃ earlier ∈ before, earlier.triple = request.triple) →
    (((fresh gen).serve before).request request).1.multicastSessionStore =
      ((fresh gen).serve before).multicastSessionStore ∧ (((fresh gen).serve before).request request).2 = []) requests
  joined : ∀ pks app mcg session pk, ((fresh gen).serve requests).hear pks = .ok app →
    (mcg, session) ∈ app.multicastSessionStore → pk.protocol ≠ protocolTypeIgmp → IsJoin mcg pk →
    mcg.sudpport ≠ mcg.dudpport → ∃ app', app.Updates pk mcg session app'

variable {app : MulticastGroupMembershipApp} {mcg : MCGroup} {session : Session} {pk : PacketInDataHeader}
  {gen : Generators} {request : SessionRequest} {requests : List SessionRequest} {ip : BitVec 32}

/-! ## One request -/

def NoGroup (app : MulticastGroupMembershipApp) (ip : BitVec 32) : Prop :=
  ∀ entry ∈ app.multicastSessionStore, entry.1.groupip ≠ ip

theorem lookup_none_iff : app.multicastSessionStore.lookup mcg = none ↔ app.NoGroup mcg.groupip := by
  rw [OrderedMap.lookup_eq_none]
  constructor
  · exact fun absent entry member same => absent entry member (congrArg BitVec.toNat same)
  · exact fun absent entry member same => absent entry member (toNat_injective same)

theorem not_noGroup_iff : ¬ app.NoGroup ip ↔ ∃ entry ∈ app.multicastSessionStore, entry.1.groupip = ip := by
  simp [NoGroup]

theorem createNewGroup_new (absent : app.NoGroup ip) (upIntf sport dport : BitVec 16) (classd isRoot : Bool) :
    app.createNewGroup ip upIntf sport dport classd isRoot =
      let created := MCGroup.create app.gen ip upIntf sport dport classd isRoot
      ({ multicastSessionStore := app.multicastSessionStore.set created.1 (openSession created.1 created.2)
         gen := hookGen created.1 created.2 }, openMessages created.1 created.2) := by
  have unknown : app.multicastSessionStore.lookup (MCGroup.create app.gen ip upIntf sport dport classd isRoot).1 =
      none := lookup_none_iff.mpr absent
  exact createGroup_new unknown

theorem createNewGroup_known (known : ¬ app.NoGroup ip) (upIntf sport dport : BitVec 16) (classd isRoot : Bool) :
    app.createNewGroup ip upIntf sport dport classd isRoot = ({ app with gen := app.gen.nextGroupId }, []) := by
  have found : app.multicastSessionStore.lookup (MCGroup.create app.gen ip upIntf sport dport classd isRoot).1 ≠
      none := fun absent => known (lookup_none_iff.mp absent)
  obtain ⟨session, found⟩ := Option.ne_none_iff_exists'.mp found
  exact createGroup_known found

theorem request_refused (refused : request.Refused) : app.request request = (app, []) := if_pos refused

theorem request_accepted (accepted : ¬ request.Refused) :
    app.request request = app.createNewGroup request.sip request.upIntf request.sport request.dport false
      (request.isRoot != 0) := if_neg accepted

theorem request_known (known : ¬ app.NoGroup request.sip) (accepted : ¬ request.Refused) :
    app.request request = ({ app with gen := app.gen.nextGroupId }, []) := by
  rw [request_accepted accepted, createNewGroup_known known]

theorem mem_request {entry : MCGroup × Session} :
    entry ∈ (app.request request).1.multicastSessionStore ↔
      entry ∈ app.multicastSessionStore ∨ (¬ request.Refused ∧ app.NoGroup request.sip) ∧
        entry = (request.group app.gen, openSession (request.group app.gen) app.gen.nextGroupId) := by
  by_cases refused : request.Refused
  · rw [request_refused refused]
    simp [refused]
  by_cases absent : app.NoGroup request.sip
  · rw [request_accepted refused, createNewGroup_new absent, and_iff_right ⟨refused, absent⟩]
    obtain ⟨mcg, session⟩ := entry
    rw [Prod.mk.injEq]
    exact mem_opened (lookup_none_iff.mpr absent)
  · rw [request_known absent refused]
    simp [absent]

/-! ## All requests -/

theorem serve_append (app : MulticastGroupMembershipApp) (before after : List SessionRequest) :
    app.serve (before ++ after) = (app.serve before).serve after := List.foldl_append

theorem mem_serve {entry : MCGroup × Session} (member : entry ∈ app.multicastSessionStore) :
    entry ∈ (app.serve requests).multicastSessionStore := by
  induction requests generalizing app with
  | nil => exact member
  | cons request rest ih => exact ih (mem_request.mpr (Or.inl member))

theorem serve_stems (gen : Generators) (requests : List SessionRequest) :
    ∀ entry ∈ ((fresh gen).serve requests).multicastSessionStore, ∃ request ∈ requests,
      request.triple = entry.1.triple := by
  induction requests using List.reverseRecOn with
  | nil => exact fun entry member => absurd member List.not_mem_nil
  | append_singleton before last ih =>
      rw [serve_append]
      intro entry member
      rcases mem_request.mp member with old | ⟨-, rfl⟩
      · obtain ⟨request, inside, same⟩ := ih entry old
        exact ⟨request, by simp [inside], same⟩
      · exact ⟨last, by simp, rfl⟩

def FirstAccepted (requests : List SessionRequest) : Prop :=
  Throughout (fun before request => (∀ earlier ∈ before, earlier.triple ≠ request.triple) → ¬ request.Refused) requests

theorem serve_has (gen : Generators) (accepted : FirstAccepted requests) :
    ∀ request ∈ requests, ¬ ((fresh gen).serve requests).NoGroup request.sip := by
  induction requests using List.reverseRecOn with
  | nil => exact fun request member => absurd member List.not_mem_nil
  | append_singleton before last ih =>
      obtain ⟨acceptedBefore, acceptedLast⟩ := throughout_snoc_iff.mp accepted
      have has := ih acceptedBefore
      rw [serve_append]
      have kept {ip : BitVec 32} (present : ¬ ((fresh gen).serve before).NoGroup ip) :
          ¬ (((fresh gen).serve before).serve [last]).NoGroup ip := by
        obtain ⟨entry, stored, same⟩ := not_noGroup_iff.mp present
        exact not_noGroup_iff.mpr ⟨entry, mem_serve stored, same⟩
      intro request member
      rcases List.mem_append.mp member with old | new
      · exact kept (has request old)
      · obtain rfl := List.mem_singleton.mp new
        by_cases again : ∃ earlier ∈ before, earlier.triple = request.triple
        · obtain ⟨earlier, inside, triple⟩ := again
          have address : earlier.sip = request.sip := congrArg Prod.fst triple
          rw [← address]
          exact kept (has earlier inside)
        · push Not at again
          by_cases absent : ((fresh gen).serve before).NoGroup request.sip
          · exact not_noGroup_iff.mpr ⟨_, mem_request.mpr (Or.inr ⟨⟨acceptedLast again, absent⟩, rfl⟩), rfl⟩
          · exact kept absent

/-! ## Joins -/

theorem memberFlag_join (join : IsJoin mcg pk) (ports : mcg.sudpport ≠ mcg.dudpport) : memberFlag mcg pk = 1 := by
  obtain ⟨-, src, dst⟩ := join
  unfold memberFlag
  rw [if_neg fun swapped => ports (swapped.1.trans dst), if_pos ⟨src.symm, dst.symm⟩]

theorem lookup_join (session : Session) (i : BitVec 16) :
    (joinMemberToGroup mcg pk session gen).1.members.lookup i =
      if i = pk.inIntf then some ((session.members.lookup i).getD (session.newMember pk))
      else session.members.lookup i := by
  cases found : session.members.lookup pk.inIntf with
  | some mcgm =>
      rw [Session.joinMemberToGroup_known found]
      split_ifs with same
      · rw [same, found]
        rfl
      · rfl
  | none =>
      rw [Session.joinMemberToGroup_new found]
      show (session.members.set pk.inIntf (session.newMember pk)).lookup i = _
      rw [OrderedMap.lookup_set]
      simp only [BitVec.toNat_inj]
      split_ifs with same
      · rw [same, found]
        rfl
      · rfl

theorem join_updates (stored : (mcg, session) ∈ app.multicastSessionStore) (udp : pk.protocol ≠ protocolTypeIgmp)
    (join : IsJoin mcg pk) (ports : mcg.sudpport ≠ mcg.dudpport) : ∃ app', app.Updates pk mcg session app' := by
  have result : (app.handlePacketIn pk).1 = .ok (app.setSession mcg
      (joinMemberToGroup mcg pk session app.gen.nextGroupId).1
      (joinMemberToGroup mcg pk session app.gen.nextGroupId).2.1) := by
    rw [handlePacketIn, if_neg udp, handleUDPPacket_known stored join.1.symm, memberFlag_join join ports,
      if_neg (by decide), if_pos rfl]
  refine ⟨_, result, ?_, ?_⟩
  · exact ⟨_, (mem_setSession stored).mpr (Or.inl ⟨rfl, rfl⟩), lookup_join session⟩
  · intro mcg' session' different
    rw [mem_setSession stored]
    constructor
    · rintro (⟨same, -⟩ | ⟨-, member⟩)
      · exact absurd same different
      · exact member
    · intro member
      refine Or.inr ⟨fun same => different ?_, member⟩
      exact congrArg Prod.fst (OrderedMap.eq_of_key member stored (congrArg BitVec.toNat same))

/-! ## The condition -/

def OnePortPair (requests : List SessionRequest) : Prop :=
  ∀ request ∈ requests, ∀ other ∈ requests, request.sip = other.sip →
    request.sport = other.sport ∧ request.dport = other.dport

theorem OnePortPair.triple {other : SessionRequest} (ports : OnePortPair requests) (member : request ∈ requests)
    (member' : other ∈ requests) (same : request.sip = other.sip) : request.triple = other.triple := by
  obtain ⟨sport, dport⟩ := ports request member other member' same
  rw [SessionRequest.triple, SessionRequest.triple, same, sport, dport]

theorem eq_of_address {entry entry' : MCGroup × Session} (stored : entry ∈ app.multicastSessionStore)
    (stored' : entry' ∈ app.multicastSessionStore) (same : entry.1.groupip = entry'.1.groupip) : entry = entry' :=
  OrderedMap.eq_of_key stored stored' (congrArg BitVec.toNat same)

theorem Served.onePortPair (served : Served gen requests) : OnePortPair requests := by
  intro request member other member' same
  obtain ⟨entry, ⟨stored, triple⟩, -⟩ := served.stored request member
  obtain ⟨entry', ⟨stored', triple'⟩, -⟩ := served.stored other member'
  simp only [MCGroup.triple, SessionRequest.triple, Prod.mk.injEq] at triple triple'
  obtain rfl : entry = entry' := eq_of_address stored stored' (triple.1.trans (same.trans triple'.1.symm))
  exact ⟨triple.2.1.symm.trans triple'.2.1, triple.2.2.symm.trans triple'.2.2⟩

theorem Served.firstAccepted (served : Served gen requests) : FirstAccepted requests := by
  intro before request inside firstOf refused
  obtain ⟨session, created, -⟩ := served.first before request inside firstOf
  rw [request_refused refused] at created
  obtain ⟨earlier, member, triple⟩ := serve_stems gen before _ created
  exact firstOf earlier member triple

theorem stored_once (ports : OnePortPair requests) (accepted : FirstAccepted requests) (member : request ∈ requests) :
    ∃! entry, entry ∈ ((fresh gen).serve requests).multicastSessionStore ∧ entry.1.triple = request.triple := by
  obtain ⟨entry, stored, address⟩ := not_noGroup_iff.mp (serve_has gen accepted request member)
  obtain ⟨other, member', triple⟩ := serve_stems gen requests entry stored
  have same : other.sip = request.sip := (congrArg Prod.fst triple).trans address
  refine ⟨entry, ⟨stored, triple.symm.trans (ports.triple member' member same)⟩, ?_⟩
  rintro entry' ⟨stored', triple'⟩
  exact eq_of_address stored' stored ((congrArg Prod.fst triple').trans address.symm)

theorem first_creates {before : List SessionRequest} (ports : OnePortPair requests) (accepted : FirstAccepted requests)
    (inside : before ++ [request] <+: requests) (firstOf : ∀ earlier ∈ before, earlier.triple ≠ request.triple) :
    ∃ session, (request.group ((fresh gen).serve before).gen, session) ∈
        (((fresh gen).serve before).request request).1.multicastSessionStore ∧
      (request.group ((fresh gen).serve before).gen, session) ∈
        ((fresh gen).serve requests).multicastSessionStore := by
  have absent : ((fresh gen).serve before).NoGroup request.sip := by
    intro entry stored address
    obtain ⟨earlier, member, triple⟩ := serve_stems gen before entry stored
    have same : earlier.sip = request.sip := (congrArg Prod.fst triple).trans address
    have triples := ports.triple (inside.subset (by simp [member])) (inside.subset (by simp)) same
    exact firstOf earlier member triples
  have created := mem_request.mpr (Or.inr ⟨⟨accepted before request inside firstOf, absent⟩, rfl⟩)
  obtain ⟨after, rfl⟩ := inside
  refine ⟨_, created, ?_⟩
  rw [serve_append, serve_append]
  exact mem_serve created

theorem repeated_ignored {before : List SessionRequest} (accepted : FirstAccepted before)
    (again : ∃ earlier ∈ before, earlier.triple = request.triple) :
    (((fresh gen).serve before).request request).1.multicastSessionStore =
      ((fresh gen).serve before).multicastSessionStore ∧ (((fresh gen).serve before).request request).2 = [] := by
  by_cases refused : request.Refused
  · rw [request_refused refused]
    exact ⟨rfl, rfl⟩
  obtain ⟨earlier, member, triple⟩ := again
  have known : ¬ ((fresh gen).serve before).NoGroup request.sip := by
    have address : earlier.sip = request.sip := congrArg Prod.fst triple
    rw [← address]
    exact serve_has gen accepted earlier member
  rw [request_known known refused]
  exact ⟨rfl, rfl⟩

/-- Requests with any destinations are served exactly where no address comes with two pairs of ports and no first
request for a triple is refused. -/
theorem served_iff (gen : Generators) (requests : List SessionRequest) :
    Served gen requests ↔ OnePortPair requests ∧ FirstAccepted requests := by
  constructor
  · exact fun served => ⟨served.onePortPair, served.firstAccepted⟩
  · rintro ⟨ports, accepted⟩
    constructor
    · exact fun request member => stored_once ports accepted member
    · exact serve_stems gen requests
    · exact fun before request inside firstOf => first_creates ports accepted inside firstOf
    · intro before request inside again
      have earlier : FirstAccepted before := accepted.of_prefix ((List.prefix_append _ _).trans inside)
      exact repeated_ignored earlier again
    · exact fun pks app mcg session pk heard stored udp join ports => join_updates stored udp join ports

def sampleRequest (dip : BitVec 32) (sport dport : BitVec 16) : SessionRequest :=
  { sip := 0x0100000a, dip := dip, sport := sport, dport := dport, upIntf := 1, isRoot := 0 }

theorem second_session_refused :
    ¬ Served initial.gen [sampleRequest 0 1000 2000, sampleRequest 0 3000 4000] ∧
    ¬ Served initial.gen [sampleRequest 0xe000000a 1000 2000] := by
  constructor
  · intro served
    have ports := served.onePortPair (sampleRequest 0 1000 2000) (by simp) (sampleRequest 0 3000 4000) (by simp) rfl
    exact absurd ports.1 (by decide)
  · intro served
    apply served.firstAccepted [] (sampleRequest 0xe000000a 1000 2000) List.prefix_rfl
    · exact fun earlier member => absurd member List.not_mem_nil
    · decide

end MulticastGroupMembershipApp

end Libfluid.Multicast
