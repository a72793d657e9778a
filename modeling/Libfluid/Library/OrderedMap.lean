import Libfluid.Library.OrderedSet
import Mathlib.Data.List.Pairwise
import Mathlib.Order.Defs.LinearOrder

namespace Libfluid.Library

variable {κ ν τ : Type*} [LinearOrder τ] {key : κ → τ}

def keyBefore (key : κ → τ) (a b : κ × ν) : Prop := key a.1 < key b.1

instance : DecidableRel (keyBefore (ν := ν) key) := fun a b =>
  inferInstanceAs (Decidable (key a.1 < key b.1))

instance : IsTrans (κ × ν) (keyBefore key) := ⟨fun _ _ _ => lt_trans (α := τ)⟩

structure OrderedMap (κ ν : Type*) {τ : Type*} [LinearOrder τ] (key : κ → τ) extends
  OrderedSet (κ × ν) (keyBefore key)

namespace OrderedMap

instance : Membership (κ × ν) (OrderedMap κ ν key) := ⟨fun m entry => entry ∈ m.toList⟩

theorem mem_def {m : OrderedMap κ ν key} {entry : κ × ν} : entry ∈ m ↔ entry ∈ m.toList := Iff.rfl

def empty : OrderedMap κ ν key := ⟨OrderedSet.empty⟩

def findEntry (m : OrderedMap κ ν key) (k : κ) : Option (κ × ν) :=
  m.find? fun entry => decide (key entry.1 = key k)

def lookup (m : OrderedMap κ ν key) (k : κ) : Option ν := (m.findEntry k).map Prod.snd

def insertNew (m : OrderedMap κ ν key) (k : κ) (v : ν) : OrderedMap κ ν key :=
  ⟨m.insert (k, v)⟩

def mapValues (m : OrderedMap κ ν key) (f : κ → ν → ν) : OrderedMap κ ν key where
  toList := m.toList.map fun entry => (entry.1, f entry.1 entry.2)
  sorted := List.pairwise_map.mpr (m.sorted.imp fun before => before)

def modify (m : OrderedMap κ ν key) (k : κ) (f : ν → ν) : OrderedMap κ ν key :=
  m.mapValues fun k' v => if key k' = key k then f v else v

def set (m : OrderedMap κ ν key) (k : κ) (v : ν) : OrderedMap κ ν key :=
  (m.insertNew k v).modify k fun _ => v

def erase (m : OrderedMap κ ν key) (k : κ) : OrderedMap κ ν key :=
  ⟨m.filter fun entry => !decide (key entry.1 = key k)⟩

theorem eq_of_key {m : OrderedMap κ ν key} {a b : κ × ν} (ha : a ∈ m) (hb : b ∈ m)
    (same : key a.1 = key b.1) : a = b := by
  have distinct : m.toList.Pairwise fun x y => key x.1 ≠ key y.1 := m.sorted.imp fun lt => ne_of_lt lt
  have : Std.Symm fun x y : κ × ν => key x.1 ≠ key y.1 := ⟨fun _ _ => Ne.symm⟩
  by_contra different
  exact distinct.forall ha hb different same

theorem nodup (m : OrderedMap κ ν key) : m.toList.Nodup := by
  apply m.sorted.imp
  intro a b before same
  exact absurd before (same ▸ lt_irrefl _)

theorem findEntry_eq_some {m : OrderedMap κ ν key} {k : κ} {entry : κ × ν} :
    m.findEntry k = some entry ↔ entry ∈ m ∧ key entry.1 = key k := by
  constructor
  · intro search
    obtain ⟨member, same⟩ := OrderedSet.mem_of_find? search
    exact ⟨member, by simpa using same⟩
  · rintro ⟨member, same⟩
    cases search : m.findEntry k with
    | none => exact absurd same (by simpa using List.find?_eq_none.mp search _ member)
    | some other =>
        obtain ⟨stored, same'⟩ := OrderedSet.mem_of_find? search
        rw [eq_of_key stored member (by simpa [same] using same')]

theorem lookup_eq_some {m : OrderedMap κ ν key} {k : κ} {v : ν} :
    m.lookup k = some v ↔ ∃ k', key k' = key k ∧ (k', v) ∈ m := by
  simp only [lookup, Option.map_eq_some_iff, findEntry_eq_some, Prod.exists]
  constructor
  · rintro ⟨k', v', ⟨member, same⟩, rfl⟩
    exact ⟨k', same, member⟩
  · rintro ⟨k', same, member⟩
    exact ⟨k', v, ⟨member, same⟩, rfl⟩

theorem findEntry_eq_none {m : OrderedMap κ ν key} {k : κ} :
    m.findEntry k = none ↔ ∀ entry ∈ m, key entry.1 ≠ key k := by
  simp [findEntry, OrderedSet.find?, mem_def]

theorem lookup_eq_none {m : OrderedMap κ ν key} {k : κ} :
    m.lookup k = none ↔ ∀ entry ∈ m, key entry.1 ≠ key k := by
  rw [lookup, Option.map_eq_none_iff, findEntry_eq_none]

theorem comparable_of_lookup {m : OrderedMap κ ν key} {k : κ} (absent : m.lookup k = none) (v : ν) :
    ∀ entry ∈ m, keyBefore key (k, v) entry ∨ keyBefore key entry (k, v) := by
  intro entry member
  exact (lt_or_gt_of_ne (lookup_eq_none.mp absent entry member)).symm

theorem insertNew_perm {m : OrderedMap κ ν key} {k : κ} (absent : m.lookup k = none) (v : ν) :
    (m.insertNew k v).toList.Perm ((k, v) :: m.toList) :=
  OrderedSet.insert_perm m.toOrderedSet (k, v) (comparable_of_lookup absent v)

theorem insertNew_of_lookup {m : OrderedMap κ ν key} {k : κ} {old : ν} (found : m.lookup k = some old)
    (v : ν) : m.insertNew k v = m := by
  obtain ⟨k', same, member⟩ := lookup_eq_some.mp found
  exact congrArg OrderedMap.mk
    (OrderedSet.insert_refused m.toOrderedSet member (by simp [keyBefore, same]) (by simp [keyBefore, same]))

theorem mem_insertNew {m : OrderedMap κ ν key} {k : κ} {v : ν} {entry : κ × ν} :
    entry ∈ m.insertNew k v ↔ entry ∈ m ∨ entry = (k, v) ∧ m.lookup k = none := by
  cases found : m.lookup k with
  | none => simp [mem_def, (insertNew_perm found v).mem_iff, or_comm]
  | some old => simp [insertNew_of_lookup found]

theorem mem_mapValues {m : OrderedMap κ ν key} {f : κ → ν → ν} {entry : κ × ν} :
    entry ∈ m.mapValues f ↔ ∃ v, (entry.1, v) ∈ m ∧ entry.2 = f entry.1 v := by
  obtain ⟨k, v⟩ := entry
  simp only [mem_def, mapValues, List.mem_map, Prod.mk.injEq, Prod.exists]
  constructor
  · rintro ⟨k', v', member, rfl, rfl⟩
    exact ⟨v', member, rfl⟩
  · rintro ⟨v', member, rfl⟩
    exact ⟨k, v', member, rfl, rfl⟩

theorem mem_erase {m : OrderedMap κ ν key} {k : κ} {entry : κ × ν} :
    entry ∈ m.erase k ↔ entry ∈ m ∧ key entry.1 ≠ key k := by
  simp [mem_def, erase]

theorem lookup_eq_some_iff_mem (injective : Function.Injective key) {m : OrderedMap κ ν key} {k : κ} {v : ν} :
    m.lookup k = some v ↔ (k, v) ∈ m := by
  rw [lookup_eq_some]
  constructor
  · rintro ⟨k', same, member⟩
    exact injective same ▸ member
  · exact fun member => ⟨k, rfl, member⟩

theorem lookup_eq_none_iff_not_mem (injective : Function.Injective key) {m : OrderedMap κ ν key} {k : κ} :
    m.lookup k = none ↔ ∀ v, (k, v) ∉ m := by
  simp only [Option.eq_none_iff_forall_ne_some, ne_eq, lookup_eq_some_iff_mem injective]

theorem size_ne_zero_iff (injective : Function.Injective key) {m : OrderedMap κ ν key} :
    m.size ≠ 0 ↔ ∃ k v, m.lookup k = some v := by
  show m.toList.length ≠ 0 ↔ _
  rw [← Nat.pos_iff_ne_zero, List.length_pos_iff_exists_mem]
  constructor
  · rintro ⟨⟨k, v⟩, member⟩
    exact ⟨k, v, (lookup_eq_some_iff_mem injective).mpr member⟩
  · rintro ⟨k, v, found⟩
    exact ⟨(k, v), (lookup_eq_some_iff_mem injective).mp found⟩

theorem findEntry_mapValues (m : OrderedMap κ ν key) (f : κ → ν → ν) (k : κ) :
    (m.mapValues f).findEntry k = (m.findEntry k).map fun entry => (entry.1, f entry.1 entry.2) := by
  show (m.toList.map fun entry => (entry.1, f entry.1 entry.2)).find? _ = _
  rw [List.find?_map]
  rfl

theorem lookup_modify (m : OrderedMap κ ν key) (k k' : κ) (f : ν → ν) :
    (m.modify k f).lookup k' = if key k' = key k then (m.lookup k').map f else m.lookup k' := by
  rw [modify, lookup, findEntry_mapValues, lookup]
  cases search : m.findEntry k' with
  | none => simp
  | some entry =>
      obtain ⟨-, same⟩ := findEntry_eq_some.mp search
      simp only [Option.map_some, same]
      split <;> rfl

theorem mapValues_eq_self {m : OrderedMap κ ν key} {f : κ → ν → ν} (fixed : ∀ entry ∈ m, f entry.1 entry.2 = entry.2) :
    m.mapValues f = m := by
  have same : m.toList.map (fun entry => (entry.1, f entry.1 entry.2)) = m.toList := by
    conv_rhs => rw [← List.map_id m.toList]
    apply List.map_congr_left
    intro entry member
    simp [fixed entry member]
  exact congrArg OrderedMap.mk (OrderedSet.ext same)

theorem set_of_lookup_none {m : OrderedMap κ ν key} {k : κ} (absent : m.lookup k = none) (v : ν) :
    m.set k v = m.insertNew k v := by
  unfold set modify
  apply mapValues_eq_self
  rintro ⟨k', v'⟩ member
  rcases mem_insertNew.mp member with old | ⟨same, -⟩
  · simp [lookup_eq_none.mp absent _ old]
  · simp_all

theorem lookup_set (m : OrderedMap κ ν key) (k k' : κ) (v : ν) :
    (m.set k v).lookup k' = if key k' = key k then some v else m.lookup k' := by
  rw [set, lookup_modify]
  split_ifs with same
  · cases found : (m.insertNew k v).lookup k' with
    | some old => rfl
    | none =>
        rw [lookup_eq_none] at found
        cases before : m.lookup k with
        | none => exact absurd same.symm (found (k, v) (mem_insertNew.mpr (Or.inr ⟨rfl, before⟩)))
        | some old =>
            obtain ⟨k'', same', member⟩ := lookup_eq_some.mp before
            exact absurd (same'.trans same.symm) (found (k'', old) (mem_insertNew.mpr (Or.inl member)))
  · apply Option.ext
    intro old
    rw [lookup_eq_some, lookup_eq_some]
    constructor
    · rintro ⟨k'', same', member⟩
      rcases mem_insertNew.mp member with stored | ⟨new, -⟩
      · exact ⟨k'', same', stored⟩
      · simp only [Prod.mk.injEq] at new
        exact absurd (same'.symm.trans (congrArg key new.1)) same
    · rintro ⟨k'', same', member⟩
      exact ⟨k'', same', mem_insertNew.mpr (Or.inl member)⟩

theorem set_set_self (m : OrderedMap κ ν key) (k : κ) (v : ν) : (m.set k v).set k v = m.set k v := by
  have present : (m.set k v).lookup k = some v := by rw [lookup_set, if_pos rfl]
  rw [set, insertNew_of_lookup present]
  apply mapValues_eq_self
  intro entry member
  split_ifs with same
  · obtain ⟨k'', same', stored⟩ := lookup_eq_some.mp present
    rw [eq_of_key member stored (same.trans same'.symm)]
  · rfl

theorem lookup_erase (m : OrderedMap κ ν key) (k k' : κ) :
    (m.erase k).lookup k' = if key k' = key k then none else m.lookup k' := by
  split_ifs with same
  · apply lookup_eq_none.mpr
    intro entry member equal
    exact (mem_erase.mp member).2 (equal.trans same)
  · apply Option.ext
    intro v
    rw [lookup_eq_some, lookup_eq_some]
    constructor
    · rintro ⟨k'', same', member⟩
      exact ⟨k'', same', (mem_erase.mp member).1⟩
    · rintro ⟨k'', same', member⟩
      exact ⟨k'', same', mem_erase.mpr ⟨member, fun equal => same (same'.symm.trans equal)⟩⟩

end OrderedMap

end Libfluid.Library
