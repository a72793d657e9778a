import Libfluid.Multicast.GroupIds
import Libfluid.Multicast.Requests

namespace Libfluid.Multicast
open Library

/-! ## Destinations -/

def Record.destination (record : Record) : BitVec 32 :=
  record.val.getD 4 0 ++ record.val.getD 5 0 ++ record.val.getD 6 0 ++ record.val.getD 7 0

/-- The destination lies in 224.0.0.0/4. -/
def Record.ClassD (record : Record) : Prop := record.destination &&& 0xf0000000 = 0xe0000000

def classDOctet (octet : Byte) : Prop := octet &&& 0xf0 = 0xe0

instance (octet : Byte) : Decidable (classDOctet octet) := inferInstanceAs (Decidable (_ = _))

theorem load32_classD (b₀ b₁ b₂ b₃ : Byte) :
    load32 b₀ b₁ b₂ b₃ &&& 0xf0000000 = 0xe0000000 ↔ classDOctet b₃ := by
  show b₃ ++ b₂ ++ b₁ ++ b₀ &&& (0xf0#8 ++ 0#8 ++ 0#8 ++ 0#8) = 0xe0#8 ++ 0#8 ++ 0#8 ++ 0#8 ↔ _
  rw [append_and_eq, append_and_eq, append_and_eq]
  rfl

theorem classD_iff (record : Record) : record.ClassD ↔ classDOctet (record.val.getD 4 0) :=
  load32_classD (record.val.getD 7 0) (record.val.getD 6 0) (record.val.getD 5 0) (record.val.getD 4 0)

theorem fields_refused_iff (record : Record) : record.fields.Refused ↔ classDOctet (record.val.getD 7 0) :=
  load32_classD (record.val.getD 4 0) (record.val.getD 5 0) (record.val.getD 6 0) (record.val.getD 7 0)

/-! ## Requests -/

structure MCGroup.Carries (mcg : MCGroup) (request : SessionRequest) : Prop where
  groupip : mcg.groupip = request.sip
  sudpport : mcg.sudpport = request.sport
  dudpport : mcg.dudpport = request.dport
  upstreamIntf : mcg.upstreamIntf = request.upIntf
  isRoot : mcg.isRoot = (request.isRoot != 0)

namespace MulticastGroupMembershipApp

variable {app : MulticastGroupMembershipApp} {request : SessionRequest}

theorem request_refused_iff : app.request request = (app, []) ↔ request.Refused := by
  constructor
  · intro refused
    by_contra accepted
    have drawn : (app.request request).1.gen.groupId = app.gen.groupId + 1 := by
      rw [request_accepted accepted]
      exact createNewGroup_groupId _ _ _ _ _ _
    rw [refused] at drawn
    exact absurd drawn (by simp)
  · exact request_refused

end MulticastGroupMembershipApp

/-! ## Records -/

/-- A record that the callback reads whole is refused where its destination is a class-D address. Any other
has its group in the store afterwards, where no group had its source address before. -/
structure HandlesRecord (app : MulticastGroupMembershipApp) (record : Record)
    (result : MCNWClientConnection × List SessionRequest × List Message) : Prop where
  refused : result.1.mgma = app ∧ result.2.2 = [] ↔ record.ClassD
  created : ¬ record.ClassD → app.NoGroup record.fields.sip →
    ∃ mcg session, (mcg, session) ∈ result.1.mgma.multicastSessionStore ∧ mcg.Carries record.fields
  known : ¬ record.ClassD → ¬ app.NoGroup record.fields.sip →
    result.1.mgma.multicastSessionStore = app.multicastSessionStore ∧ result.2.2 = []

namespace MCNWClientConnection
open MulticastGroupMembershipApp

variable {app : MulticastGroupMembershipApp}

theorem readCb_record (record : Record) (rest : List Byte) :
    readCb { input := record.val ++ rest, mgma := app } =
      ({ input := rest, mgma := (app.request record.fields).1 }, [record.fields], (app.request record.fields).2) := by
  have size : record.val.length = 16 := record.property
  have taken : (record.val ++ rest).take 16 = record.val := List.take_left' size
  have left : (record.val ++ rest).drop 16 = rest := List.drop_left' size
  rw [readCb_whole (by simp [size]), taken, left, loadRequest_record]

theorem readCb_handles_iff (app : MulticastGroupMembershipApp) (record : Record) (rest : List Byte) :
    HandlesRecord app record (readCb { input := record.val ++ rest, mgma := app }) ↔
      (classDOctet (record.val.getD 4 0) ↔ classDOctet (record.val.getD 7 0)) := by
  have refusal : (app.request record.fields).1 = app ∧ (app.request record.fields).2 = [] ↔ record.fields.Refused := by
    rw [← app.request_refused_iff, Prod.mk.injEq]
  rw [readCb_record, ← classD_iff, ← fields_refused_iff, ← refusal]
  constructor
  · intro handles
    exact handles.refused.symm
  · intro same
    have accepted (other : ¬ record.ClassD) : ¬ record.fields.Refused := by rwa [← refusal, ← same]
    constructor
    · exact same.symm
    · intro other absent
      exact ⟨_, _, mem_request.mpr (Or.inr ⟨⟨accepted other, absent⟩, rfl⟩), ⟨rfl, rfl, rfl, rfl, rfl⟩⟩
    · intro other known
      rw [request_known known (accepted other)]
      exact ⟨rfl, rfl⟩

theorem unicast_destination_refused :
    ¬ HandlesRecord .initial ⟨[10, 0, 0, 1, 10, 0, 0, 224, 3, 232, 7, 208, 0, 1, 0, 1], rfl⟩
      (readCb { input := [10, 0, 0, 1, 10, 0, 0, 224, 3, 232, 7, 208, 0, 1, 0, 1], mgma := .initial }) := by
  intro handles
  have classD : Record.ClassD _ := handles.refused.mp ⟨rfl, rfl⟩
  rw [classD_iff] at classD
  exact absurd classD (by decide)

end MCNWClientConnection

end Libfluid.Multicast
