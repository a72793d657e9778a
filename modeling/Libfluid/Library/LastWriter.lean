import Mathlib.Data.List.Basic
import Mathlib.Data.List.Induction

namespace Libfluid.Library

variable {ε : Type*}

/-- Some event sets the bit, and none after it touches the bit. -/
def SetLast (sets clears : ε → Prop) (events : List ε) : Prop :=
  ∃ before event after, events = before ++ event :: after ∧ sets event ∧
    ∀ later ∈ after, ¬ sets later ∧ ¬ clears later

namespace SetLast

variable {sets clears : ε → Prop} {events : List ε} {event : ε}

theorem not_nil : ¬ SetLast sets clears [] := by
  rintro ⟨before, event, after, split, -⟩
  simp at split

theorem snoc_iff : SetLast sets clears (events ++ [event]) ↔ sets event ∨ SetLast sets clears events ∧ ¬ clears event := by
  constructor
  · rintro ⟨before, first, after, split, isSet, quiet⟩
    rcases List.eq_nil_or_concat' after with rfl | ⟨rest, last, rfl⟩
    · obtain ⟨-, same⟩ := List.append_inj' split rfl
      obtain rfl := List.singleton_inj.mp same
      exact Or.inl isSet
    · rw [← List.cons_append, ← List.append_assoc] at split
      obtain ⟨rfl, same⟩ := List.append_inj' split rfl
      obtain rfl := List.singleton_inj.mp same
      apply Or.inr
      constructor
      · exact ⟨before, first, rest, rfl, isSet, fun later member => quiet later (by simp [member])⟩
      · exact (quiet event (by simp)).2
  · intro outcome
    by_cases isSet : sets event
    · exact ⟨events, event, [], rfl, isSet, fun later member => absurd member List.not_mem_nil⟩
    · obtain ⟨⟨before, first, after, rfl, firstSet, quiet⟩, kept⟩ := outcome.resolve_left isSet
      refine ⟨before, first, after ++ [event], by simp, firstSet, fun later member => ?_⟩
      rcases List.mem_append.mp member with old | new
      · exact quiet later old
      · rw [List.mem_singleton.mp new]
        exact ⟨isSet, kept⟩

theorem append_iff {more : List ε} (quiet : ∀ event ∈ more, ¬ sets event ∧ ¬ clears event) :
    SetLast sets clears (events ++ more) ↔ SetLast sets clears events := by
  induction more using List.reverseRecOn with
  | nil => rw [List.append_nil]
  | append_singleton more event ih =>
      obtain ⟨notSet, notClear⟩ := quiet event (by simp)
      rw [← List.append_assoc, snoc_iff, ih fun event member => quiet event (by simp [member])]
      simp [notSet, notClear]

theorem mem (h : SetLast sets clears events) : ∃ event ∈ events, sets event := by
  obtain ⟨before, event, after, rfl, isSet, -⟩ := h
  exact ⟨event, by simp, isSet⟩

theorem of_mem (never : ∀ event ∈ events, ¬ clears event) (member : event ∈ events) (isSet : sets event) :
    SetLast sets clears events := by
  induction events using List.reverseRecOn with
  | nil => exact absurd member List.not_mem_nil
  | append_singleton events last ih =>
      apply snoc_iff.mpr
      rcases List.mem_append.mp member with old | new
      · exact Or.inr ⟨ih (fun event inside => never event (by simp [inside])) old, never last (by simp)⟩
      · rw [← List.mem_singleton.mp new]
        exact Or.inl isSet

theorem congr {sets' clears' : ε → Prop} (sameSets : ∀ event ∈ events, sets event ↔ sets' event)
    (sameClears : ∀ event ∈ events, clears event ↔ clears' event) :
    SetLast sets clears events ↔ SetLast sets' clears' events := by
  induction events using List.reverseRecOn with
  | nil => exact iff_of_false not_nil not_nil
  | append_singleton events last ih =>
      rw [snoc_iff, snoc_iff, sameSets last (by simp), sameClears last (by simp),
        ih (fun event inside => sameSets event (by simp [inside]))
          (fun event inside => sameClears event (by simp [inside]))]

theorem filter_iff {keep : ε → Bool} (quiet : ∀ event, keep event = false → ¬ sets event ∧ ¬ clears event) :
    SetLast sets clears (events.filter keep) ↔ SetLast sets clears events := by
  induction events using List.reverseRecOn with
  | nil => rfl
  | append_singleton events last ih =>
      rw [List.filter_append, snoc_iff]
      cases kept : keep last with
      | true =>
          rw [List.filter_singleton, kept, cond_true, snoc_iff, ih]
      | false =>
          obtain ⟨notSet, notClear⟩ := quiet last kept
          rw [List.filter_singleton, kept, cond_false, List.append_nil, ih]
          simp [notSet, notClear]

end SetLast

def Written (sets clears : ε → Prop) (bit : Prop) : List ε → Prop
  | [] => bit
  | event :: rest => Written sets clears (sets event ∨ bit ∧ ¬ clears event) rest

theorem written_append {sets clears : ε → Prop} {bit : Prop} (events later : List ε) :
    Written sets clears bit (events ++ later) ↔ Written sets clears (Written sets clears bit events) later := by
  induction events generalizing bit with
  | nil => rfl
  | cons event events ih => exact ih

theorem written_of_quiet {sets clears : ε → Prop} {bit : Prop} {events : List ε}
    (quiet : ∀ event ∈ events, ¬ sets event ∧ ¬ clears event) : Written sets clears bit events ↔ bit := by
  induction events generalizing bit with
  | nil => rfl
  | cons event events ih =>
      obtain ⟨notSet, kept⟩ := quiet event List.mem_cons_self
      unfold Written
      rw [ih fun event member => quiet event (List.mem_cons_of_mem _ member)]
      simp [notSet, kept]

end Libfluid.Library
