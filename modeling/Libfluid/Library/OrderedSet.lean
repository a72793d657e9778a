import Mathlib.Data.List.Sort

/-!
# Ordered containers

A sequence kept in the order of a comparator, as node based sets and maps keep their elements. The
comparator need not be a strict order: an insertion is refused only when the new element and some
stored element do not compare either way, so a reflexive comparator refuses nothing and admits any
number of equivalent elements.
-/

namespace Libfluid.Library

variable {α : Type*} {before : α → α → Prop}

theorem pairwise_orderedInsert [DecidableRel before] [IsTrans α before] {x : α} {xs : List α}
    (comparable : ∀ y ∈ xs, before x y ∨ before y x) (sorted : xs.Pairwise before) :
    (xs.orderedInsert before x).Pairwise before := by
  induction xs with
  | nil => simp
  | cons y ys ih =>
      rw [List.pairwise_cons] at sorted
      rw [List.orderedInsert_cons]
      split_ifs with first
      · refine List.pairwise_cons.mpr ⟨?_, List.pairwise_cons.mpr sorted⟩
        intro z member
        rcases List.mem_cons.mp member with rfl | member
        · exact first
        · exact IsTrans.trans _ _ _ first (sorted.1 z member)
      · refine List.pairwise_cons.mpr ⟨?_, ih (fun z hz => comparable z (by simp [hz])) sorted.2⟩
        intro z member
        rcases (List.mem_orderedInsert before).mp member with rfl | member
        · exact (comparable y (by simp)).resolve_left first
        · exact sorted.1 z member

theorem filter_eq_filter_iff {p q : α → Bool} {xs : List α} :
    xs.filter p = xs.filter q ↔ ∀ x ∈ xs, p x = q x := by
  refine ⟨fun same x member => ?_, List.filter_congr⟩
  have kept : x ∈ xs.filter p ↔ x ∈ xs.filter q := by rw [same]
  simpa [List.mem_filter, member, ← Bool.eq_iff_iff] using kept

structure OrderedSet (α : Type*) (before : α → α → Prop) where
  toList : List α
  sorted : toList.Pairwise before

namespace OrderedSet

@[ext]
theorem ext {s t : OrderedSet α before} (same : s.toList = t.toList) : s = t := by
  cases s
  cases t
  congr

instance : Membership α (OrderedSet α before) := ⟨fun s x => x ∈ s.toList⟩

theorem mem_def {s : OrderedSet α before} {x : α} : x ∈ s ↔ x ∈ s.toList := Iff.rfl

instance [DecidableEq α] (x : α) (s : OrderedSet α before) : Decidable (x ∈ s) :=
  inferInstanceAs (Decidable (x ∈ s.toList))

def empty : OrderedSet α before := ⟨[], .nil⟩

def size (s : OrderedSet α before) : Nat := s.toList.length

def find? (s : OrderedSet α before) (p : α → Bool) : Option α := s.toList.find? p

def filter (s : OrderedSet α before) (p : α → Bool) : OrderedSet α before :=
  ⟨s.toList.filter p, s.sorted.filter p⟩

def eraseFirst (s : OrderedSet α before) (p : α → Bool) : OrderedSet α before :=
  ⟨s.toList.eraseP p, s.sorted.sublist List.eraseP_sublist⟩

def insert [DecidableRel before] [IsTrans α before] (s : OrderedSet α before) (x : α) :
    OrderedSet α before :=
  if comparable : ∀ y ∈ s.toList, before x y ∨ before y x then
    ⟨s.toList.orderedInsert before x, pairwise_orderedInsert comparable s.sorted⟩
  else s

@[simp] theorem toList_filter (s : OrderedSet α before) (p : α → Bool) :
    (s.filter p).toList = s.toList.filter p := rfl

theorem find?_first {s : OrderedSet α before} {p : α → Bool} {x : α} (found : s.find? p = some x)
    {y : α} (member : y ∈ s) (accepted : p y = true) : y = x ∨ before x y := by
  obtain ⟨-, front, rest, split, rejected⟩ := List.find?_eq_some_iff_append.mp found
  have sorted := s.sorted
  rw [split, List.pairwise_append, List.pairwise_cons] at sorted
  rw [mem_def, split, List.mem_append, List.mem_cons] at member
  rcases member with member | rfl | member
  · exact absurd accepted (by simpa using rejected y member)
  · exact Or.inl rfl
  · exact Or.inr (sorted.2.1.1 y member)

theorem mem_of_find? {s : OrderedSet α before} {p : α → Bool} {x : α} (found : s.find? p = some x) :
    x ∈ s ∧ p x = true :=
  ⟨List.mem_of_find?_eq_some found, List.find?_some found⟩

section Insert

variable [DecidableRel before] [IsTrans α before]

theorem insert_perm (s : OrderedSet α before) (x : α)
    (comparable : ∀ y ∈ s, before x y ∨ before y x) :
    (s.insert x).toList.Perm (x :: s.toList) := by
  have inserted : ∀ y ∈ s.toList, before x y ∨ before y x := comparable
  rw [insert, dif_pos inserted]
  exact List.perm_orderedInsert before x s.toList

theorem insert_refused (s : OrderedSet α before) {x y : α} (member : y ∈ s)
    (xy : ¬ before x y) (yx : ¬ before y x) : s.insert x = s := by
  rw [insert, dif_neg]
  intro comparable
  exact (comparable y member).elim xy yx

end Insert

/-! ## Images -/

section Map

variable {β : Type*} {after : β → β → Prop} {f : α → β} {s : OrderedSet α before}

def map (s : OrderedSet α before) (f : α → β) (same : ∀ x y, before x y ↔ after (f x) (f y)) : OrderedSet β after :=
  ⟨s.toList.map f, s.sorted.map f fun x y => (same x y).mp⟩

variable (same : ∀ x y, before x y ↔ after (f x) (f y))

theorem find?_map (p : β → Bool) : (s.map f same).find? p = (s.find? (p ∘ f)).map f := List.find?_map

theorem filter_map (p : β → Bool) : (s.map f same).filter p = (s.filter (p ∘ f)).map f same :=
  ext (List.filter_map)

theorem eraseFirst_map (p : β → Bool) : (s.map f same).eraseFirst p = (s.eraseFirst (p ∘ f)).map f same :=
  ext (List.eraseP_map)

theorem insert_map [DecidableRel before] [IsTrans α before] [DecidableRel after] [IsTrans β after] (x : α) :
    (s.map f same).insert (f x) = (s.insert x).map f same := by
  have comparable : (∀ y ∈ (s.map f same).toList, after (f x) y ∨ after y (f x)) ↔
      ∀ y ∈ s.toList, before x y ∨ before y x := by
    show (∀ y ∈ s.toList.map f, _) ↔ _
    rw [List.forall_mem_map]
    simp only [← same]
  by_cases inserted : ∀ y ∈ s.toList, before x y ∨ before y x
  · rw [insert, dif_pos (comparable.mpr inserted), insert, dif_pos inserted]
    exact ext (List.map_orderedInsert before after f s.toList x (fun y _ => same y x) fun y _ => same x y).symm
  · rw [insert, dif_neg (comparable.not.mpr inserted), insert, dif_neg inserted]

end Map

end OrderedSet

end Libfluid.Library
