import Libfluid.Library.Framing
import Libfluid.Multicast.App

namespace Libfluid.Multicast
open Library

structure SessionRequest where
  sip : BitVec 32
  dip : BitVec 32
  sport : BitVec 16
  dport : BitVec 16
  upIntf : BitVec 16
  isRoot : BitVec 16
deriving DecidableEq, Repr

structure MCNWClientConnection where
  input : List Byte
  mgma : MulticastGroupMembershipApp

def ntohs (word : BitVec 16) : BitVec 16 := swap16 word

def evbufferRemove (input : List Byte) (size : Nat) : List Byte × List Byte := (input.take size, input.drop size)

def loadRequest (buf : List Byte) : SessionRequest :=
  let byte (i : Nat) := buf.getD i 0
  let sport := load16 (byte 8) (byte 9)
  let dport := load16 (byte 10) (byte 11)
  let upIntf := load16 (byte 12) (byte 13)
  let isRoot := load16 (byte 14) (byte 15)
  { sip := load32 (byte 0) (byte 1) (byte 2) (byte 3)
    dip := load32 (byte 4) (byte 5) (byte 6) (byte 7)
    sport := ntohs sport, dport := ntohs dport, upIntf := ntohs upIntf, isRoot := ntohs isRoot }

def MulticastGroupMembershipApp.request (app : MulticastGroupMembershipApp) (request : SessionRequest) :
    MulticastGroupMembershipApp × List Message :=
  app.createSession request.sip request.dip request.sport request.dport request.upIntf request.isRoot

namespace MCNWClientConnection

def readCb (conn : MCNWClientConnection) : MCNWClientConnection × List SessionRequest × List Message :=
  let (buf, input) := evbufferRemove conn.input 16
  if buf.length ≠ 16 then ({ conn with input := input }, [], [])
  else
    let request := loadRequest buf
    let (mgma, sent) := conn.mgma.request request
    ({ input := input, mgma := mgma }, [request], sent)

/-- A segment arrives and the callback runs once, segment after segment. -/
def receive (conn : MCNWClientConnection) :
    List (List Byte) → MCNWClientConnection × List SessionRequest × List Message
  | [] => (conn, [], [])
  | segment :: rest =>
      let (conn, requests, sent) := readCb { conn with input := conn.input ++ segment }
      let (conn, later, sentLater) := receive conn rest
      (conn, requests ++ later, sent ++ sentLater)

end MCNWClientConnection

abbrev Record := { bytes : List Byte // bytes.length = 16 }

abbrev Segment := { bytes : List Byte // bytes ≠ [] }

def Record.fields (record : Record) : SessionRequest where
  sip := load32 (record.val.getD 0 0) (record.val.getD 1 0) (record.val.getD 2 0) (record.val.getD 3 0)
  dip := load32 (record.val.getD 4 0) (record.val.getD 5 0) (record.val.getD 6 0) (record.val.getD 7 0)
  sport := record.val.getD 8 0 ++ record.val.getD 9 0
  dport := record.val.getD 10 0 ++ record.val.getD 11 0
  upIntf := record.val.getD 12 0 ++ record.val.getD 13 0
  isRoot := record.val.getD 14 0 ++ record.val.getD 15 0

theorem loadRequest_record (record : Record) : loadRequest record.val = record.fields := by
  simp [loadRequest, Record.fields, ntohs]

namespace MCNWClientConnection

variable {conn : MCNWClientConnection} {segments : List (List Byte)}

theorem readCb_whole (whole : 16 ≤ conn.input.length) :
    conn.readCb =
      ({ input := conn.input.drop 16, mgma := (conn.mgma.request (loadRequest (conn.input.take 16))).1 },
        [loadRequest (conn.input.take 16)], (conn.mgma.request (loadRequest (conn.input.take 16))).2) := by
  have length : (conn.input.take 16).length = 16 := by
    rw [List.length_take]
    omega
  rw [readCb, evbufferRemove]
  simp only [length, ne_eq, not_true_eq_false, ↓reduceIte]

theorem readCb_part (part : conn.input.length < 16) : conn.readCb = ({ conn with input := [] }, [], []) := by
  have length : (conn.input.take 16).length ≠ 16 := by
    rw [List.length_take]
    omega
  rw [readCb, evbufferRemove]
  simp only [length, ne_eq, not_false_eq_true, ↓reduceIte, List.drop_eq_nil_of_le part.le]

theorem receive_requests :
    (conn.receive segments).2.1 = (framesRead 16 conn.input segments).map loadRequest := by
  induction segments generalizing conn with
  | nil => rfl
  | cons segment rest ih =>
      rw [receive, framesRead]
      split_ifs with whole
      · rw [readCb_whole whole, List.map_cons]
        exact congrArg (List.cons _) ih
      · rw [readCb_part (Nat.lt_of_not_le whole)]
        exact ih

theorem receive_mgma :
    (conn.receive segments).1.mgma =
      (conn.receive segments).2.1.foldl (fun app request => (app.request request).1) conn.mgma := by
  induction segments generalizing conn with
  | nil => rfl
  | cons segment rest ih =>
      simp only [receive, ih, List.foldl_append]
      congr 1
      unfold readCb
      simp only
      split_ifs <;> rfl

/-- Once all bytes have arrived, each record has been requested once and in order, exactly where there
is one segment for each record and after each number of segments as many whole records have arrived. -/
theorem receive_iff (mgma : MulticastGroupMembershipApp) (records : List Record) (segments : List Segment)
    (arrived : (segments.map Subtype.val).flatten = (records.map Subtype.val).flatten) :
    ((receive { input := [], mgma := mgma } (segments.map Subtype.val)).2.1 = records.map Record.fields ∧
      (receive { input := [], mgma := mgma } (segments.map Subtype.val)).1.mgma =
        records.foldl (fun app record => (app.request record.fields).1) mgma) ↔
    segments.length = records.length ∧
      ∀ j ≤ segments.length, 16 * j ≤ ((segments.take j).map Subtype.val).flatten.length := by
  have sized : ∀ frame ∈ records.map Subtype.val, frame.length = 16 := by
    intro frame member
    obtain ⟨record, -, rfl⟩ := List.mem_map.mp member
    exact record.property
  have filled : ∀ segment ∈ segments.map Subtype.val, segment ≠ [] := by
    intro bytes member
    obtain ⟨segment, -, rfl⟩ := List.mem_map.mp member
    exact segment.property
  obtain ⟨count, same⟩ := framesRead_iff (by decide) sized filled ((List.nil_append _).trans arrived)
  have steps : InStep 16 0 (segments.map Subtype.val) ↔
      ∀ j ≤ segments.length, 16 * j ≤ ((segments.take j).map Subtype.val).flatten.length := by
    simp [InStep, List.map_take]
  rw [List.length_map, List.length_map, List.length_nil, steps] at count
  rw [List.length_map] at same
  rw [receive_mgma, receive_requests, ← count]
  constructor
  · rintro ⟨requests, -⟩
    have lengths := congrArg List.length requests
    rwa [List.length_map, List.length_map] at lengths
  · intro read
    have requests : (framesRead 16 [] (segments.map Subtype.val)).map loadRequest = records.map Record.fields := by
      rw [same read, List.map_map]
      exact List.map_congr_left fun record _ => loadRequest_record record
    rw [requests, List.foldl_map]
    exact ⟨rfl, rfl⟩

def sampleRecord : Record := ⟨[10, 0, 0, 1, 10, 0, 0, 2, 3, 232, 7, 208, 0, 1, 0, 1], rfl⟩

theorem segment_for_each_record_read :
    (receive { input := [], mgma := .initial } [sampleRecord.val, sampleRecord.val]).2.1 =
      [sampleRecord.fields, sampleRecord.fields] :=
  ((receive_iff .initial [sampleRecord, sampleRecord] [⟨sampleRecord.val, by decide⟩, ⟨sampleRecord.val, by decide⟩]
    rfl).mpr (by decide)).1

theorem second_record_of_segment_lost :
    (receive { input := [], mgma := .initial } [sampleRecord.val ++ sampleRecord.val]).2.1 ≠
      [sampleRecord, sampleRecord].map Record.fields := by
  decide

end MCNWClientConnection

end Libfluid.Multicast
