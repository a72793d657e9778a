import Libfluid.Multicast.Message
import Mathlib.Logic.Function.Basic

namespace Libfluid.Multicast
open Library

structure FlowEntry where
  tableId : BitVec 8
  priority : BitVec 16
  cookie : BitVec 64
  match_ : List OxmField
  actions : List Action
deriving DecidableEq, Repr

def FlowMod.entry (fm : FlowMod) : FlowEntry :=
  { tableId := fm.tableId, priority := fm.priority, cookie := fm.cookie, match_ := fm.match_, actions := fm.actions }

structure ReferenceSwitch where
  groups : BitVec 32 → Option (List Bucket)
  flows : List FlowEntry

def ofppAny : BitVec 32 := 0xffffffff
def ofpgAny : BitVec 32 := 0xffffffff
def ofpttAll : BitVec 8 := 0xff

namespace FlowEntry

def Overwrites (new old : FlowEntry) : Prop :=
  old.tableId = new.tableId ∧ old.priority = new.priority ∧ old.match_ = new.match_

instance (new old : FlowEntry) : Decidable (new.Overwrites old) := inferInstanceAs (Decidable (_ ∧ _))

def outputsTo (entry : FlowEntry) (port : BitVec 32) : Bool :=
  entry.actions.any fun action => action.outputsTo port

/-- A deletion takes the flows of its table whose match is inside its own and that pass its filters. -/
def DeletedBy (entry : FlowEntry) (fm : FlowMod) : Prop :=
  (fm.tableId = ofpttAll ∨ entry.tableId = fm.tableId) ∧ (∀ field ∈ fm.match_, field ∈ entry.match_) ∧
    entry.cookie &&& fm.cookieMask = fm.cookie &&& fm.cookieMask ∧
    (fm.outPort = ofppAny ∨ entry.outputsTo fm.outPort = true) ∧
    (fm.outGroup = ofpgAny ∨ .group fm.outGroup ∈ entry.actions)

instance (entry : FlowEntry) (fm : FlowMod) : Decidable (entry.DeletedBy fm) :=
  inferInstanceAs (Decidable (_ ∧ _))

end FlowEntry

namespace ReferenceSwitch

def empty : ReferenceSwitch := { groups := fun _ => none, flows := [] }

def setGroup (switch : ReferenceSwitch) (g : BitVec 32) (buckets : Option (List Bucket)) : ReferenceSwitch :=
  { switch with groups := Function.update switch.groups g buckets }

def addFlow (switch : ReferenceSwitch) (new : FlowEntry) : ReferenceSwitch :=
  { switch with flows := (switch.flows.filter fun old => ¬ new.Overwrites old) ++ [new] }

def deleteFlows (switch : ReferenceSwitch) (chosen : FlowEntry → Bool) : ReferenceSwitch :=
  { switch with flows := switch.flows.filter fun entry => !chosen entry }

def executeGroupMod (switch : ReferenceSwitch) (gm : GroupMod) : Option ReferenceSwitch :=
  match gm.command, switch.groups gm.groupId with
  | .add, none | .modify, some _ => some (switch.setGroup gm.groupId (some gm.buckets))
  | .add, some _ | .modify, none => none
  | .delete, _ =>
      some ((switch.setGroup gm.groupId none).deleteFlows fun entry => .group gm.groupId ∈ entry.actions)

def executeFlowMod (switch : ReferenceSwitch) (fm : FlowMod) : Option ReferenceSwitch :=
  match fm.command with
  | .add =>
      if fm.actions.all (fun | .group g => (switch.groups g).isSome | .setField .. | .output .. => true) then
        some (switch.addFlow fm.entry)
      else none
  | .delete => some (switch.deleteFlows fun entry => entry.DeletedBy fm)

def execute (switch : ReferenceSwitch) : Message → Option ReferenceSwitch
  | .groupMod gm => switch.executeGroupMod gm
  | .flowMod fm => switch.executeFlowMod fm
  | .packetOut _ => some switch

def executeAll (switch : ReferenceSwitch) : List Message → Option ReferenceSwitch
  | [] => some switch
  | message :: rest => (switch.execute message).bind fun next => next.executeAll rest

variable {switch next : ReferenceSwitch} {message : Message} {gm : GroupMod} {fm : FlowMod}

theorem executeAll_cons (executed : switch.execute message = some next) (rest : List Message) :
    switch.executeAll (message :: rest) = next.executeAll rest := by
  rw [executeAll, executed]
  rfl

theorem executeAll_append (switch : ReferenceSwitch) (messages rest : List Message) :
    switch.executeAll (messages ++ rest) = (switch.executeAll messages).bind fun next => next.executeAll rest := by
  induction messages generalizing switch with
  | nil => rfl
  | cons message messages ih =>
      rw [List.cons_append, executeAll, executeAll, Option.bind_assoc]
      simp only [ih]

theorem executeGroupMod_add (command : gm.command = .add) (absent : switch.groups gm.groupId = none) :
    switch.execute (.groupMod gm) = some (switch.setGroup gm.groupId (some gm.buckets)) := by
  rw [execute, executeGroupMod, command, absent]

theorem executeGroupMod_modify (command : gm.command = .modify) {buckets : List Bucket}
    (present : switch.groups gm.groupId = some buckets) :
    switch.execute (.groupMod gm) = some (switch.setGroup gm.groupId (some gm.buckets)) := by
  rw [execute, executeGroupMod, command, present]

theorem executeGroupMod_delete (command : gm.command = .delete) :
    switch.execute (.groupMod gm) =
      some ((switch.setGroup gm.groupId none).deleteFlows fun entry => .group gm.groupId ∈ entry.actions) := by
  rw [execute, executeGroupMod, command]

theorem executeFlowMod_add (command : fm.command = .add)
    (known : ∀ g, .group g ∈ fm.actions → (switch.groups g).isSome = true) :
    switch.execute (.flowMod fm) = some (switch.addFlow fm.entry) := by
  rw [execute, executeFlowMod, command]
  simp only
  rw [if_pos]
  apply List.all_eq_true.mpr
  intro action member
  cases action with
  | group g => exact known g member
  | setField field order => rfl
  | output port maxLen => rfl

theorem executeFlowMod_delete (command : fm.command = .delete) :
    switch.execute (.flowMod fm) = some (switch.deleteFlows fun entry => entry.DeletedBy fm) := by
  rw [execute, executeFlowMod, command]

theorem setGroup_ne_none {g g' : BitVec 32} {buckets : List Bucket} (present : g' = g ∨ switch.groups g' ≠ none) :
    (switch.setGroup g (some buckets)).groups g' ≠ none := by
  unfold setGroup
  by_cases same : g' = g
  · subst same
    simp
  · simpa [Function.update_of_ne same] using present.resolve_left same

theorem mem_addFlow {new entry : FlowEntry} :
    entry ∈ (switch.addFlow new).flows ↔ entry ∈ switch.flows ∧ ¬ new.Overwrites entry ∨ entry = new := by
  simp [addFlow]

theorem mem_deleteFlows {chosen : FlowEntry → Bool} {entry : FlowEntry} :
    entry ∈ (switch.deleteFlows chosen).flows ↔ entry ∈ switch.flows ∧ chosen entry = false := by
  simp [deleteFlows]

end ReferenceSwitch

end Libfluid.Multicast
