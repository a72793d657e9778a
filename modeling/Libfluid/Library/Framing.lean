import Mathlib.Data.List.Basic

/-!
# Frames of a fixed size

A reader that takes one frame from its buffer each time a segment of a stream arrives. Where the buffer
holds less than a frame, the reader takes what there is and it is lost.
-/

namespace Libfluid.Library

variable {α : Type*}

def framesRead (size : Nat) : List α → List (List α) → List (List α)
  | _, [] => []
  | buffer, segment :: rest =>
      if size ≤ (buffer ++ segment).length then
        (buffer ++ segment).take size :: framesRead size ((buffer ++ segment).drop size) rest
      else framesRead size [] rest

def InStep (size : Nat) (buffered : Nat) (segments : List (List α)) : Prop :=
  ∀ j ≤ segments.length, size * j ≤ buffered + (segments.take j).flatten.length

section

variable {size : Nat} {buffer segment : List α} {segments : List (List α)} {frames : List (List α)}

theorem length_framesRead (size : Nat) (buffer : List α) (segments : List (List α)) :
    size * (framesRead size buffer segments).length ≤ buffer.length + segments.flatten.length := by
  induction segments generalizing buffer with
  | nil => simp [framesRead]
  | cons segment rest ih =>
      unfold framesRead
      split_ifs with full
      · have later := ih ((buffer ++ segment).drop size)
        rw [List.length_append] at full
        simp only [List.length_drop, List.length_append, List.length_cons, List.flatten_cons, Nat.mul_succ] at later ⊢
        omega
      · have later := ih []
        simp only [List.length_nil, List.flatten_cons, List.length_append] at later ⊢
        omega

theorem length_flatten_of_size (sized : ∀ frame ∈ frames, frame.length = size) :
    frames.flatten.length = size * frames.length := by
  induction frames with
  | nil => simp
  | cons frame rest ih =>
      rw [List.flatten_cons, List.length_append, sized frame (by simp),
        ih fun other member => sized other (by simp [member]), List.length_cons, Nat.mul_succ, Nat.add_comm]

theorem inStep_cons (full : size ≤ (buffer ++ segment).length) :
    InStep size buffer.length (segment :: segments) ↔
      InStep size ((buffer ++ segment).drop size).length segments := by
  simp only [InStep, List.length_drop, List.length_append] at full ⊢
  constructor
  · intro steps j inside
    have next := steps (j + 1) (by simpa using inside)
    simp only [List.take_succ_cons, List.flatten_cons, List.length_append, Nat.mul_succ] at next
    omega
  · intro steps j inside
    cases j with
    | zero => simp
    | succ j =>
        have next := steps j (by simpa using inside)
        simp only [List.take_succ_cons, List.flatten_cons, List.length_append, Nat.mul_succ]
        omega

/-- The reader reads as many frames as were written exactly where there is one segment for each frame and
the stream never falls behind, and then they are the frames that were written. -/
theorem framesRead_iff (positive : 0 < size) (sized : ∀ frame ∈ frames, frame.length = size)
    (filled : ∀ segment ∈ segments, segment ≠ []) (arrived : buffer ++ segments.flatten = frames.flatten) :
    ((framesRead size buffer segments).length = frames.length ↔
        segments.length = frames.length ∧ InStep size buffer.length segments) ∧
      ((framesRead size buffer segments).length = frames.length → framesRead size buffer segments = frames) := by
  induction segments generalizing buffer frames with
  | nil =>
      rw [framesRead]
      constructor
      · constructor
        · intro none
          refine ⟨none, fun j inside => ?_⟩
          rw [Nat.le_zero.mp inside]
          simp
        · exact And.left
      · exact fun none => (List.eq_nil_of_length_eq_zero none.symm).symm
  | cons segment rest ih =>
      have total := congrArg List.length arrived
      rw [length_flatten_of_size sized, List.length_append, List.flatten_cons, List.length_append] at total
      rw [framesRead]
      split_ifs with full
      · rw [List.length_append] at full
        cases frames with
        | nil => simp only [List.length_nil, Nat.mul_zero] at total; omega
        | cons frame frames =>
            -- The frame that is read is the first that was written, and the rest is a shorter stream.
            have split : (buffer ++ segment).take size ++ ((buffer ++ segment).drop size ++ rest.flatten) =
                frame ++ frames.flatten := by
              rw [← List.append_assoc, List.take_append_drop, List.append_assoc]
              exact arrived
            obtain ⟨first, later⟩ := List.append_inj split (by
              rw [List.length_take, List.length_append, sized frame (by simp)]
              omega)
            obtain ⟨count, same⟩ := ih (fun other member => sized other (by simp [member]))
              (fun other member => filled other (by simp [member])) later
            simp only [List.length_cons, Nat.add_right_cancel_iff, count, first, List.cons.injEq, true_and]
            rw [inStep_cons (by rwa [List.length_append])]
            exact ⟨Iff.rfl, fun steps => same (count.mpr steps)⟩
      · have some : 0 < segment.length := List.length_pos_of_ne_nil (filled segment (by simp))
        have read := length_framesRead size [] rest
        rw [List.length_append] at full
        have fewer : (framesRead size [] rest).length ≠ frames.length := by
          intro same
          rw [same, List.length_nil] at read
          omega
        refine ⟨iff_of_false fewer ?_, fun same => absurd same fewer⟩
        rintro ⟨-, steps⟩
        have behind := steps 1 (by simp)
        simp only [List.take_succ_cons, List.take_zero, List.flatten_cons, List.flatten_nil, List.append_nil] at behind
        omega

end

end Libfluid.Library
